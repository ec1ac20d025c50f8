import ControlLoop.Link.Loopback
import ControlLoop.Plant.Loop
import ControlLoop.Config.Plant
import ControlLoop.SpringMass.Rig

namespace ControlLoop

/-! # The bench

A bench session runs the demonstration spring against a controller. The plant configuration
is checked first. With an output directory, both configurations (the service's only when the
controller is served here) and the four logs are written there. The plant is built, the
controller of the asked class is made available from the plant's parameters, and the loop
runs for the time asked, or until a check fails when no time is given; how long each of its
ticks takes is an input of the session. A controller served
here talks to the plant over the loopback link; a remote one is sent samples and answers
nothing that reaches this process. The session ends with the report, or the failure.
-/

/-- What a bench session is asked to do. -/
structure Settings where
  tickRate : Nat := 100
  sensorRate : Nat := 50
  noise : Float := 0.0
  duration : Option Double := none
  controller : Option SocketAddr := none
  cls : String := "pid"
  bind : SocketAddr := SocketAddr.anyV4 0
  outputDir : Option String := none
  blockingThreads : Nat := 2
  replyDelayMs : Nat := 0
  realtime : Bool := false
  pinCore : Option Nat := none

namespace Settings

/-- The plant's configuration. -/
def plantConfig (s : Settings) : PlantConfig :=
  { tickRate := s.tickRate, duration := s.duration, bindAddr := s.bind,
    controllerAddr := s.controller, outputDir := s.outputDir,
    blockingThreads := s.blockingThreads }

/-- The configuration of a service run here. -/
def serviceConfig (s : Settings) : ServiceConfig :=
  { replyDelayMs := s.replyDelayMs, outputDir := s.outputDir, realtimePriority := s.realtime,
    pinCore := s.pinCore }

end Settings

/-- A finished session: the files written to the output directory, by name, and the report
or the failure. -/
structure Session where
  files : List (String × String)
  outcome : Except Fault LoopReport

namespace Bench

/-- The most ticks a session is taken to make when nothing else ends it. -/
def tickCeiling : Nat := 2 ^ 64

/-- The files a finished run leaves: its logs, its counters and, after failed checks, its
error log. -/
def runFiles {σ ς α ℓ : Type} [PlantState σ] [ControllerLink ℓ] (e : LoopEnd σ ς α ℓ)
    (clientRows : Array Record) : List (String × String) :=
  [("simulation.csv", tableText e.plant.simLog.toList),
   ("sensors.csv", tableText e.plant.sensorLog.toList),
   ("actuators.csv", tableText e.plant.actuatorLog.toList),
   ("client.csv", tableText clientRows.toList),
   ("diagnostics.csv", e.plant.diagnostics.summaryCsv)] ++
  (e.errlog.map fun t => ("errlog.csv", t)).toList

/-- Runs a session whose tick of index `i` takes `spent i` nanoseconds; a time that no span can
hold, or a panic, stops it with that reason. -/
def session (s : Settings) (spent : Nat → Nat) : Except String Session :=
  let pc := s.plantConfig
  match pc.validate with
  | .error e => .ok ⟨[], .error e⟩
  | .ok () =>
    let sc := s.serviceConfig
    let writes := s.outputDir.isSome
    let saved := if !writes then [] else
      [("plant_config.csv", pc.save)] ++
        (if pc.controllerAddr.isNone then [("service_config.csv", sc.save)] else [])
    let emptyLogs := if !writes then [] else
      ["simulation.csv", "sensors.csv", "actuators.csv", "client.csv"].map (·, "")
    let early (e : Fault) : Except String Session := .ok ⟨emptyLogs ++ saved, .error e⟩
    match Spring.demoPlant s.tickRate s.sensorRate s.noise {} with
    | .error e => early e
    | .ok plant =>
      let disp : Dispatcher Controller := match pc.controllerAddr with
        | some a => .remote a
        | none => .local (Registry.demo s.sensorRate) sc
      match disp.spawn s.cls plant.controllerParams with
      | .error e => early e
      | .ok h =>
        let allowed : Except String (Option Nat) := match pc.runTime with
          | none => .ok none
          | some (.ok d) => .ok (some d.nanos)
          | some (.error e) => .error e.message
        let stopped {β : Type} : Except Panic β → Except String β := fun r => r.mapError (·.message)
        allowed.bind fun allowed =>
          let done {ℓ : Type} [ControllerLink ℓ] (e : LoopEnd Spring Sensor Actuator ℓ)
              (clientRows : Array Record) (extra : List (String × String)) : Session :=
            ⟨if writes then saved ++ runFiles e clientRows ++ extra else [], e.result⟩
          match h with
          | .served _ svc => stopped do
            let e ← Loop.run plant ({ client := ({} : Client).bind, service := svc } : Loopback Controller)
              true allowed spent tickCeiling
            let (_, svc) := e.link.service.stop
            pure (done e e.link.client.rows [("service.csv", tableText svc.rows.toList)])
          | .remote .. => stopped do
            let e ← Loop.run plant ({ client := ({} : Client).bind, network := .reachable } : Uplink)
              true allowed spent tickCeiling
            pure (done e e.link.client.rows [])

end Bench

end ControlLoop
