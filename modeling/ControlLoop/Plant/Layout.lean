import ControlLoop.Fault

namespace ControlLoop

/-! # The layout of a plant state

Each property of a state has one role: it is sensed, actuated, or a parameter for the
controller. Some properties carry a sanity check, and some are left out of the records.
A layout is built from declarations in three passes: roles first (the same role twice is
harmless, two roles fail), then checks (a later check of a name replaces an earlier one),
then the names left unrecorded; checks and unrecorded names must name declared properties.
-/

/-- What a property is for. -/
inductive Role where
  | sensed
  | actuated
  | param
  deriving DecidableEq, Repr, Inhabited

/-- The lower-case name of a role. -/
def Role.name : Role → String
  | .sensed => "sensed"
  | .actuated => "actuated"
  | .param => "param"

/-- A sanity check on a property value: any test of the value. -/
structure Check where
  /-- Whether a value passes. -/
  passes : Value → Bool

instance : Inhabited Check := ⟨⟨fun _ => true⟩⟩

/-- The check that the magnitude of the number is below a bound. -/
def Check.absBelow (bound : Float) : Check := ⟨fun v => v.toFloat.abs < bound⟩

/-- One declaration of a layout. -/
inductive Decl where
  | role (name : String) (r : Role)
  | checked (name : String) (c : Check)
  | unrecorded (name : String)
  deriving Inhabited

/-- The roles, checks and unrecorded names of a state. -/
structure Layout where
  roles : NameMap Role := {}
  checks : NameMap Check := {}
  unrecorded : NameMap Unit := {}
  deriving Inhabited

namespace Layout

/-- Adds one role declaration: a name keeps its first role, and a different second role
fails. -/
def declare (roles : NameMap Role) (name : String) (r : Role) : Except Fault (NameMap Role) :=
  match roles.get? name with
  | some existing => if existing = r then .ok roles else .error (.conflictingRole name)
  | none => .ok (roles.insert name r)

/-- Builds a layout from declarations. -/
def build (decls : List Decl) : Except Fault Layout := do
  let roles ← decls.foldlM (fun roles d =>
    match d with
    | .role name r => declare roles name r
    | _ => pure roles) {}
  let known (name : String) : Except Fault Unit :=
    if roles.contains name then pure () else throw (.unknownProperty name)
  let checks ← decls.foldlM (fun checks d =>
    match d with
    | .checked name c => do known name; pure (checks.insert name c)
    | _ => pure checks) {}
  let unrecorded ← decls.foldlM (fun skip d =>
    match d with
    | .unrecorded name => do known name; pure (skip.insert name ())
    | _ => pure skip) {}
  pure { roles, checks, unrecorded }

/-- The names with a role, in byte order. -/
def withRole (l : Layout) (r : Role) : List String :=
  (l.roles.entries.filter fun e => e.2 = r).map (·.1)

/-- The sensed names. -/
def sensed (l : Layout) : List String := l.withRole .sensed

/-- The actuated names. -/
def actuated (l : Layout) : List String := l.withRole .actuated

/-- The parameter names. -/
def params (l : Layout) : List String := l.withRole .param

/-- The names that are recorded: all but parameters and unrecorded names. -/
def recorded (l : Layout) : List String :=
  (l.roles.entries.filter fun e => e.2 ≠ .param && !l.unrecorded.contains e.1).map (·.1)

/-- Whether a name is actuated. -/
def isActuated (l : Layout) (name : String) : Bool := l.roles.get? name == some .actuated

/-- Whether a name is sensed. -/
def isSensed (l : Layout) (name : String) : Bool := l.roles.get? name == some .sensed

end Layout

end ControlLoop
