import ControlLoop.Plant.State

namespace ControlLoop

/-! # A mass on a spring

A mass on a damped spring, pushed by a force. Its position and velocity are sensed, the force
is actuated, and mass, stiffness, damping and the setpoint are parameters for the controller.
The position must stay within ten units of rest. A time step is semi-implicit Euler: the
acceleration from force, spring and damping updates the velocity, which then updates the
position.
-/

/-- The state of the rig. -/
structure Spring where
  position : Float := 0.0
  velocity : Float := 0.0
  force : Float := 0.0
  mass : Float
  stiffness : Float
  damping : Float
  setpoint : Float

namespace Spring

/-- How far from rest the mass may go. -/
def positionLimit : Float := 10.0

/-- The layout of the rig. -/
def layout : Layout :=
  { roles := NameMap.ofList [("position", .sensed), ("velocity", .sensed), ("force", .actuated),
      ("mass", .param), ("stiffness", .param), ("damping", .param), ("setpoint", .param)]
    checks := NameMap.ofList [("position", .absBelow positionLimit)] }

/-- A rig at rest; the mass must be positive (a NaN mass is not refused). -/
def create (mass stiffness damping setpoint : Float) : Except Fault Spring :=
  if mass ≤ 0.0 then .error (.config "mass must be positive")
  else .ok { mass, stiffness, damping, setpoint }

/-- The rig the demonstration uses. -/
def reference : Except Fault Spring := create 1.0 4.0 0.8 1.0

/-- The value of a property. -/
def get? (s : Spring) (name : String) : Option Value :=
  let v := match name with
    | "position" => some s.position
    | "velocity" => some s.velocity
    | "force" => some s.force
    | "mass" => some s.mass
    | "stiffness" => some s.stiffness
    | "damping" => some s.damping
    | "setpoint" => some s.setpoint
    | _ => none
  v.map Value.ofFloat

/-- One time step. -/
def advance (s : Spring) (dt : Float) : Spring :=
  let accel := (s.force - s.stiffness * s.position - s.damping * s.velocity) / s.mass
  let velocity := s.velocity + accel * dt
  { s with velocity, position := s.position + velocity * dt }

instance : PlantState Spring where
  layout _ := layout
  get? := get?
  set s n v := if n == "force" then { s with force := v.toFloat } else s
  advance := advance

end Spring

end ControlLoop
