import ControlLoop.Control.Pid
import ControlLoop.Fault
import ControlLoop.Duration

namespace ControlLoop

/-! # Controllers and their classes

A controller turns the payload of a sample into the payload of its reply, and may keep state
between samples or fail on one; `ControllerImpl` asks for exactly that. The library knows three:
a PID loop on the `position` property that answers a `force`, a passive one that always
answers zero force, and an echo that answers the sample unchanged. A registry names controller
classes, each a way to build a controller from parameters.
-/

/-- What a service needs of a controller: its answer to a sample's payload, or why it could not
answer, and the controller after. -/
class ControllerImpl (κ : Type) where
  process : κ → PropMap → Except Fault PropMap × κ

/-- One of the library's controllers and its state. -/
inductive Controller where
  /-- A PID loop on `position` with its time step in seconds. -/
  | pidPosition (pid : Pid) (period : Float)
  /-- Always the same answer. -/
  | constant (out : PropMap)
  /-- The sample itself. -/
  | echo

namespace Controller

/-- The gains of the position loop. -/
def positionGains : PidGains :=
  { kp := 8.0, ki := 6.0, kd := 3.0, outMin := -50.0, outMax := 50.0, antiWindup := true,
    deadband := 0.0 }

/-- A position loop from the `setpoint` parameter, stepping every `period`. -/
def positionLoop (params : PropMap) (period : Duration) : Except Fault Controller :=
  match params.get? "setpoint" with
  | none => .error (.config "controller needs param `setpoint`")
  | some v =>
    let sp := v.toFloat
    match Pid.create positionGains sp with
    | some pid => .ok (.pidPosition pid period.toSeconds)
    | none => .error (.config ("rejected setpoint " ++ FloatFormat.plain.render sp))

/-- The passive controller's answer. -/
def zeroForce : PropMap := NameMap.ofList [("force", Value.ofFloat 0.0)]

/-- Answers a sample. -/
def process (c : Controller) (samples : PropMap) : Except Fault PropMap × Controller :=
  match c with
  | .pidPosition pid period =>
    match samples.get? "position" with
    | none => (.error (.controller "sample lacks `position`"), c)
    | some v =>
      let (out, pid) := pid.compute v.toFloat period
      (.ok (NameMap.ofList [("force", Value.ofFloat out)]), .pidPosition pid period)
  | .constant out => (.ok out, c)
  | .echo => (.ok samples, c)

instance : ControllerImpl Controller := ⟨process⟩

end Controller

/-- Classes of controllers of type `κ`, by name. -/
structure Registry (κ : Type) where
  classes : NameMap (PropMap → Except Fault κ) := {}

namespace Registry

variable {κ : Type}

/-- Adds or replaces a class. -/
def register (r : Registry κ) (name : String) (make : PropMap → Except Fault κ) : Registry κ :=
  ⟨r.classes.insert name make⟩

/-- The class names in byte order. -/
def names (r : Registry κ) : List String := r.classes.keys

/-- Builds a controller of a class. -/
def build (r : Registry κ) (cls : String) (params : PropMap) : Except Fault κ :=
  match r.classes.get? cls with
  | some make => make params
  | none => .error (.unknownController cls)

/-- The demonstration classes: `pid`, a position loop stepping at the sample rate, and
`passive`. -/
def demo (sampleRate : Nat) : Registry Controller :=
  ({} : Registry Controller)
    |>.register "pid" (fun params => Controller.positionLoop params (Duration.period sampleRate))
    |>.register "passive" (fun _ => .ok (.constant Controller.zeroForce))

end Registry

end ControlLoop
