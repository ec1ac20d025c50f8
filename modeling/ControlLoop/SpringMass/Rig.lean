import ControlLoop.SpringMass.State
import ControlLoop.Plant.Basic

namespace ControlLoop

/-! # The demonstration rig

The reference spring with a position and a velocity sensor at one rate (the position sensor
noisy when a positive noise is given) and a force actuator starting at zero.
-/

namespace Spring

/-- The demonstration plant. -/
def demoPlant (tickRate sensorRate : Nat) (noise : Float) (d : Diagnostics) :
    Except Fault (Plant Spring Sensor Actuator) := do
  let s ← reference
  let position : Sensor :=
    if noise > 0.0 then Sensor.noisy "position" sensorRate noise else ⟨"position", sensorRate, .exact⟩
  Plant.build tickRate (some s) [position, ⟨"velocity", sensorRate, .exact⟩]
    [Actuator.constant "force" (Value.ofFloat 0.0)] d

end Spring

end ControlLoop
