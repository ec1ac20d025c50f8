namespace ControlLoop

/-! # A PID loop

The loop drives a measured value towards a setpoint. The first measurement only stores the
error and answers zero. After that the answer is the proportional term, the integral term
(the integral grows by the error times the time step) and the derivative term (the change of
error over the time step, only for a positive step), summed in that order. An answer beyond
the output limits is cut to the limit, and with anti-windup the integral gives back this
step's growth. An error no larger than the deadband counts as zero.
-/

/-- The constants of a PID loop. -/
structure PidGains where
  kp : Float
  ki : Float
  kd : Float
  outMin : Float
  outMax : Float
  antiWindup : Bool
  deadband : Float

/-- The state of a PID loop. -/
structure Pid where
  gains : PidGains
  setpoint : Float
  integral : Float := 0.0
  /-- The previous error; none before the first measurement. -/
  prevError : Option Float := none

namespace Pid

/-- A loop with a setpoint; a setpoint that is not finite is refused. -/
def create (gains : PidGains) (setpoint : Float) : Option Pid :=
  if setpoint.isFinite then some { gains, setpoint } else none

/-- The answer to a measurement after a time step, and the loop after it. -/
def compute (p : Pid) (measured dt : Float) : Float × Pid :=
  let g := p.gains
  let e := p.setpoint - measured
  let e := if e.abs ≤ g.deadband then 0.0 else e
  match p.prevError with
  | none => (0.0, { p with prevError := some e })
  | some prev =>
    let prop := g.kp * e
    let integral := p.integral + e * dt
    let integ := g.ki * integral
    let deriv := if dt > 0.0 then g.kd * ((e - prev) / dt) else 0.0
    let out := prop + integ + deriv
    let (out, integral) :=
      if out > g.outMax then (g.outMax, if g.antiWindup then integral - e * dt else integral)
      else if out < g.outMin then (g.outMin, if g.antiWindup then integral - e * dt else integral)
      else (out, integral)
    (out, { p with integral, prevError := some e })

end Pid

end ControlLoop
