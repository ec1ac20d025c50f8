import ControlLoop.Plant.State
import ControlLoop.Diagnostics
import ControlLoop.Record

namespace ControlLoop

/-! # Stepping a simulation

One step takes the actuator outputs: a value for an actuated property is set on the state,
any other is counted as unregistered. The state then advances by the time since the previous
step, the tick count grows by one (a 64-bit count, wrapping past its largest value), and a
record is made of the tick number, the simulated time, the
time step, the time the step took, and the recorded values as numbers. A failed sanity check
makes the step fail with the failing values; otherwise it answers the sensed values.
-/

/-- A state stepped at a fixed tick rate. -/
structure Simulation (σ : Type) where
  state : σ
  tickRate : Nat
  tickCount : UInt64 := 0
  simTime : Float := 0.0

/-- The clock readings of one step: the time since the previous step and the time the step
itself took, in seconds. -/
structure StepClock where
  delta : Float := 0.0
  took : Float := 0.0

namespace Simulation

variable {σ : Type} [PlantState σ]

/-- The nominal time between ticks; infinite for a rate of zero. -/
def tickDelta (sim : Simulation σ) : Float := 1.0 / Binary64.ofInt sim.tickRate

/-- Sets actuated inputs on the state and counts the others as unregistered. -/
def applyInputs (s : σ) (d : Diagnostics) (inputs : PropMap) : σ × Diagnostics :=
  inputs.entries.foldl (fun (s, d) e =>
    if (PlantState.layout s).isActuated e.1 then (PlantState.set s e.1 e.2, d)
    else (s, d.recordUnregistered e.1)) (s, d)

/-- One step: the answer (sensed values or the failed checks), the stepped simulation, the
diagnostics, and the record of the step. -/
def step (sim : Simulation σ) (d : Diagnostics) (inputs : PropMap) (clock : StepClock) :
    Except Fault PropMap × Simulation σ × Diagnostics × Record :=
  let (s, d) := applyInputs sim.state d inputs
  let s := PlantState.advance s clock.delta
  let simTime := sim.simTime + clock.delta
  let tick := sim.tickCount
  let rec0 : Record := ⟨[("tick", Binary64.ofInt tick.toNat), ("sim_time", simTime),
    ("delta_t", clock.delta), ("step_time", clock.took)]⟩
  let record := ⟨rec0.fields ++ (PlantState.recorded s).entries.map fun e => (e.1, e.2.toFloat)⟩
  let sim := { sim with state := s, tickCount := tick + 1, simTime }
  let failed := PlantState.failedChecks s
  let answer := if failed.isEmpty then .ok (PlantState.sensed s) else .error (.unrecoverableState failed)
  (answer, sim, d, record)

end Simulation

end ControlLoop
