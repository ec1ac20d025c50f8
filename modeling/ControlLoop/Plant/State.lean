import ControlLoop.Plant.Layout

namespace ControlLoop

/-! # Plant states

A plant state has a layout, gives the value of a property (or none), takes a new value for a
property, and advances by a span of time. Its views collect the values of the names with
one role, the recorded values, and the failed sanity checks: a checked property without a
value fails with NaN.

`FlowState` is a state given by a table of values and a list of flows: advancing moves each
flow's target by its source's number, in the order of the list, whatever the time step. Its
checks are given as tests of a number against a bound, of a truth, or of finiteness.
-/

/-- What a simulation needs of a state. -/
class PlantState (σ : Type) where
  layout : σ → Layout
  get? : σ → String → Option Value
  set : σ → String → Value → σ
  advance : σ → Float → σ

namespace PlantState

variable {σ : Type} [PlantState σ]

/-- The values of some names, skipping those without one. -/
def collect (s : σ) (names : List String) : PropMap :=
  NameMap.ofList (names.filterMap fun n => (get? s n).map fun v => (n, v))

/-- The sensed values. -/
def sensed (s : σ) : PropMap := collect s (layout s).sensed

/-- The actuated values. -/
def actuated (s : σ) : PropMap := collect s (layout s).actuated

/-- The parameters for the controller. -/
def params (s : σ) : PropMap := collect s (layout s).params

/-- The recorded values. -/
def recorded (s : σ) : PropMap := collect s (layout s).recorded

/-- The checked properties that fail their check, with their values; a missing value fails
as NaN. -/
def failedChecks (s : σ) : PropMap :=
  (layout s).checks.filterMap fun name check =>
    match get? s name with
    | some v => if check.passes v then none else some v
    | none => some (Value.ofFloat Binary64.nan)

end PlantState

/-- The checks a scripted state is given besides `Check.absBelow`: a number below or above a
bound, a value that is true as a truth, a finite number, and no value at all. -/
def Check.below (bound : Float) : Check := ⟨fun v => v.toFloat < bound⟩

def Check.above (bound : Float) : Check := ⟨fun v => v.toFloat > bound⟩

def Check.truthy : Check := ⟨Value.toBool⟩

def Check.finite : Check := ⟨fun v => v.toFloat.isFinite⟩

def Check.never : Check := ⟨fun _ => false⟩

/-- A state of values moved along flows. -/
structure FlowState where
  layout : Layout
  values : PropMap
  flows : List (String × String)

namespace FlowState

/-- Moves each flow's target by its source's number, when both have values. -/
def flow (values : PropMap) (f : String × String) : PropMap :=
  match values.get? f.1, values.get? f.2 with
  | some t, some s => values.insert f.1 (t.offset s.toFloat)
  | _, _ => values

instance : PlantState FlowState where
  layout s := s.layout
  get? s n := s.values.get? n
  set s n v := { s with values := s.values.insert n v }
  advance s _ := { s with values := s.flows.foldl flow s.values }

end FlowState

end ControlLoop
