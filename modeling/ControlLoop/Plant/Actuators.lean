import ControlLoop.Diagnostics
import ControlLoop.Record
import ControlLoop.Random
import ControlLoop.Value

namespace ControlLoop

/-! # Actuators

An actuator drives one property. What it does with the values it is set to is its own:
`ActuatorImpl` asks for its property, a way to be set to a value, which may draw from the
plant's noise source or stop the program, and a way to give its output, which may change it.
The library's own actuators are constant ones, holding the last value they were set to;
impulse ones, giving the value once and then falling back to their rest value; and noisy
ones, holding the value moved by even noise of their spread, a spread the draw cannot use
stopping the program when they are set.

Applying commands sets each commanded actuator (a command for a property without one is
counted as unregistered), then reads every actuator in byte order and records its output and
its command.
-/

/-- What a plant needs of an actuator: the property it drives, how it is set to a value with
the noise source (a draw the source cannot make stops the program), and its output with the
actuator after giving it. -/
class ActuatorImpl (α : Type) where
  prop : α → String
  set : α → Random → Value → Except Panic (α × Random)
  output : α → Value × α

/-- How one of the library's actuators turns commands into outputs. -/
inductive ActuatorKind where
  | constant
  /-- Gives a set value once, then `rest`. -/
  | impulse (rest : Value)
  /-- Holds the set value moved by noise from `[-spread, spread)`. -/
  | noisy (spread : Float)
  deriving Inhabited

/-- One of the library's actuators, on one property, and the value it will give. -/
structure Actuator where
  prop : String
  kind : ActuatorKind
  value : Value
  deriving Inhabited

namespace Actuator

/-- A constant actuator starting at `v`. -/
def constant (prop : String) (v : Value) : Actuator := ⟨prop, .constant, v⟩

/-- An impulse actuator resting at `v`. -/
def impulse (prop : String) (v : Value) : Actuator := ⟨prop, .impulse v, v⟩

/-- A noisy actuator starting at `v`, keeping the magnitude of the noise. -/
def noisy (prop : String) (v : Value) (noise : Float) : Actuator := ⟨prop, .noisy noise.abs, v⟩

/-- Sets the desired value. -/
def set (a : Actuator) (rng : Random) (v : Value) : Except Panic (Actuator × Random) :=
  match a.kind with
  | .noisy spread =>
    if spread == 0.0 then .ok ({ a with value := v }, rng)
    else (rng.uniform (-spread) spread).map fun (n, rng) => ({ a with value := v.offset n }, rng)
  | _ => .ok ({ a with value := v }, rng)

/-- The output, and the actuator after giving it. -/
def output (a : Actuator) : Value × Actuator :=
  match a.kind with
  | .impulse rest => (a.value, { a with value := rest })
  | _ => (a.value, a)

instance : ActuatorImpl Actuator where
  prop a := a.prop
  set := set
  output := output

end Actuator

/-- Actuators by property. -/
structure ActuatorBank (α : Type) where
  actuators : NameMap α := {}
  rng : Random := {}
  deriving Inhabited

namespace ActuatorBank

variable {α : Type} [ActuatorImpl α]

/-- Adds an actuator, replacing one on the same property. -/
def register (b : ActuatorBank α) (a : α) : ActuatorBank α :=
  { b with actuators := b.actuators.insert (ActuatorImpl.prop a) a }

/-- The properties with an actuator, in byte order. -/
def properties (b : ActuatorBank α) : List String := b.actuators.keys

/-- Whether no actuator is registered. -/
def isEmpty (b : ActuatorBank α) : Bool := b.actuators.isEmpty

/-- Takes one command: sets the actuator of its property, or counts the command as
unregistered when there is none. -/
def command (bd : ActuatorBank α × Diagnostics) (e : String × Value) :
    Except Panic (ActuatorBank α × Diagnostics) :=
  let (b, d) := bd
  match b.actuators.get? e.1 with
  | some a => do
    let (a, rng) ← ActuatorImpl.set a b.rng e.2
    pure ({ actuators := b.actuators.insert e.1 a, rng }, d)
  | none => pure (b, d.recordUnregistered e.1)

/-- Applies commands at a tick: the outputs, the bank after, the diagnostics, and the record
of outputs and commands. -/
def apply (b : ActuatorBank α) (d : Diagnostics) (tick : Nat) (commands : PropMap) :
    Except Panic (PropMap × ActuatorBank α × Diagnostics × Record) := do
  let (b, d) ← commands.entries.foldlM command (b, d)
  let outputs : PropMap := b.actuators.map fun a => (ActuatorImpl.output a).1
  let b := { b with actuators := b.actuators.map fun a => (ActuatorImpl.output a).2 }
  let target (p : String) := ((commands.get? p).map Value.toFloat).getD Binary64.nan
  let row : Record := ⟨("plant_seq", Binary64.ofInt tick) :: (outputs.entries.map fun e =>
    [(e.1 ++ "_value", e.2.toFloat), (e.1 ++ "_target", target e.1)]).flatten⟩
  pure (outputs, b, d, row)

end ActuatorBank

end ControlLoop
