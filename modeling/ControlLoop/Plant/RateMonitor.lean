import ControlLoop.Decimal.Nearest

namespace ControlLoop

/-! # Watching the tick rate

A monitor counts ticks and, once at least five seconds have passed since its window opened,
reports the window's ticks per second and opens a new window. No rate is reported before
the loop has made as many ticks as one second should hold. The ratio of measured to target
rate grades how well the loop keeps up. Both counts are 64-bit counters, wrapping past their
largest value.
-/

/-- How serious a measured tick rate is. -/
inductive Severity where
  | info
  | warn
  | error
  deriving DecidableEq, Repr

namespace Severity

/-- The grade of a measured-to-target ratio: at least 0.95 is fine, at least 0.85 a warning,
anything else (NaN too) an error. -/
def ofRatio (ratio : Float) : Severity :=
  if ratio ≥ 0.95 then .info else if ratio ≥ 0.85 then .warn else .error

/-- The upper-case label of a grade. -/
def label : Severity → String
  | info => "INFO"
  | warn => "WARN"
  | error => "ERROR"

end Severity

/-- Nanoseconds in a second. -/
def nanosPerSecond : Nat := 1000000000

/-- A span of time in whole nanoseconds, read as seconds: the whole seconds plus the
remaining nanoseconds over `10^9`. -/
def secondsOfNanos (n : Nat) : Float :=
  Binary64.ofInt (n / nanosPerSecond) + Binary64.ofInt (n % nanosPerSecond) / 1e9

/-- The length of a report window. -/
def reportWindowNanos : Nat := 5 * nanosPerSecond

/-- A tick-rate monitor; instants are nanoseconds from a fixed origin. -/
structure RateMonitor where
  targetHz : Nat
  totalTicks : UInt64 := 0
  windowStart : Nat
  windowTicks : UInt64 := 0

namespace RateMonitor

/-- A monitor whose first window opens at `start`. -/
def startingAt (targetHz start : Nat) : RateMonitor := { targetHz, windowStart := start }

/-- Counts a tick at `now` and reports the rate when a window has closed. -/
def onTick (m : RateMonitor) (now : Nat) : Option Float × RateMonitor :=
  let total := m.totalTicks + 1
  let ticks := m.windowTicks + 1
  let window := now - m.windowStart
  if window < reportWindowNanos then
    (none, { m with totalTicks := total, windowTicks := ticks })
  else
    let next := { m with totalTicks := total, windowTicks := 0, windowStart := now }
    -- the count is compared with the target as doubles; a target below `2 ^ 32` is exact, so
    -- the comparison is that of the whole numbers
    if total.toNat < m.targetHz then (none, next)
    else (some (Binary64.ofInt ticks.toNat / secondsOfNanos window), next)

end RateMonitor

end ControlLoop
