import ControlLoop.Plant.Simulation
import ControlLoop.Plant.Sensors
import ControlLoop.Plant.Actuators

namespace ControlLoop

/-! # The plant

A plant joins a simulation, its sensors and its actuators, with one set of diagnostic
counters and a log per part; the sensors and the actuators are of any types that implement
`SensorImpl` and `ActuatorImpl`. A tick applies the commands through the actuators, steps the
simulation with their outputs, and samples the sensed values, passing both banks the tick
count before the tick; a failed sanity check ends the tick with that failure before any
sampling, and a missing property is counted and gives no samples. A panic of a sensor or an
actuator stops the tick, and with it the program. Building checks,
in order, that the tick rate is positive, that there is a state, and that every sensor's
rate fits the tick rate.
-/

/-- A built plant, over a state of type `σ`, sensors of type `ς` and actuators of type `α`. -/
structure Plant (σ ς α : Type) where
  sim : Simulation σ
  sensors : SensorBank ς
  actuators : ActuatorBank α
  diagnostics : Diagnostics
  simLog : Array Record := #[]
  sensorLog : Array Record := #[]
  actuatorLog : Array Record := #[]

namespace Plant

variable {σ ς α : Type} [PlantState σ] [SensorImpl ς] [ActuatorImpl α]

/-- Builds a plant from a tick rate, a state, sensors and actuators. -/
def build (tickRate : Nat) (state : Option σ) (sensors : List ς) (actuators : List α)
    (d : Diagnostics) : Except Fault (Plant σ ς α) := do
  if tickRate = 0 then throw (.config "tick rate must be positive")
  let some s := state | throw (.config "plant has no state")
  let bank ← sensors.foldlM SensorBank.register { plantFreq := tickRate }
  pure { sim := { state := s, tickRate }, sensors := bank,
         actuators := actuators.foldl ActuatorBank.register {}, diagnostics := d }

/-- The number of ticks made, as a 64-bit count. -/
def tickCount (p : Plant σ ς α) : UInt64 := p.sim.tickCount

/-- The parameters the controller is built from. -/
def controllerParams (p : Plant σ ς α) : PropMap := PlantState.params p.sim.state

/-- One tick with the given commands. -/
def tick (p : Plant σ ς α) (commands : PropMap) (clock : StepClock) :
    Except Panic (Except Fault (Option PropMap) × Plant σ ς α) := do
  let t := p.sim.tickCount.toNat
  let (actuation, acts, d, aRow) ← p.actuators.apply p.diagnostics t commands
  let (sensed, sim, d, sRow) := p.sim.step d actuation clock
  let p := { p with actuators := acts, sim, diagnostics := d,
                    actuatorLog := p.actuatorLog.push aRow, simLog := p.simLog.push sRow }
  match sensed with
  | .error e => pure (.error e, p)
  | .ok values =>
    let (res, sensors, row) ← p.sensors.sample t values
    let p := { p with sensors, sensorLog := p.sensorLog.push row }
    match res with
    | .ok samples => pure (.ok samples, p)
    | .error _ => pure (.ok none, { p with diagnostics := p.diagnostics.record .missingProperty })

end Plant

end ControlLoop
