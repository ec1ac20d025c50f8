import ControlLoop.Plant.Basic
import ControlLoop.Link.ControllerLink
import ControlLoop.Duration

namespace ControlLoop

/-! # Running a plant against its controller

The loop ticks the plant until the stop flag is cleared, the time allowed runs out, or a tick
fails. Each tick takes the newest commands from the link, ticks the plant with them, and
sends its samples, if any; a link that is not ready ends the loop, and any other failure to
send is let pass. How long each tick takes is an input of the run: a tick that took longer
than the period is counted as an overrun, and the tick after it starts when it ends rather
than a period after it began. The time allowed is checked before each tick, when the previous
one has ended. A timer with a period of zero stops the program before the first tick.

After the loop the link is closed and the report is made from the link and the counters. A
run that ended on failed checks leaves an error log of the failing properties. A panic during
a tick stops the run at once, with no report.
-/

/-- What a finished run reports. -/
structure LoopReport where
  ticks : UInt64
  samplesSent : UInt64
  replies : UInt64
  unanswered : UInt64
  rtt : Option Summary
  diagnostics : Counts

/-- A finished run: the plant, the closed link, and the failure that ended it, if any. -/
structure LoopEnd (σ ς α ℓ : Type) where
  plant : Plant σ ς α
  link : ℓ
  failure : Option Fault

/-- The loop's clock before a tick, in nanoseconds from the start of the run: the tick's index
in the run, when it starts, the time since the tick before it started, and when the loop last
read the clock. -/
structure Loop.Clock where
  index : Nat
  start : Nat
  gap : Nat
  checked : Nat

namespace Loop.Clock

/-- The clock before the first tick: it starts at once, a period after the tick before it
would have. -/
def first (period : Nat) : Clock := ⟨0, 0, period, 0⟩

/-- The clock after a tick that took `spent`: the next tick starts a period after this one
began, or when this one ended if it overran; the clock was read as this one ended. -/
def after (c : Clock) (period spent : Nat) : Clock :=
  ⟨c.index + 1, c.start + max period spent, max period spent, c.start + spent⟩

end Loop.Clock

namespace Loop

variable {σ ς α ℓ : Type} [PlantState σ] [SensorImpl ς] [ActuatorImpl α] [ControllerLink ℓ]

/-- A tick that took `spent` counts an overrun when that is longer than the period. -/
def overran (period spent : Nat) (p : Plant σ ς α) : Plant σ ς α :=
  if spent > period then { p with diagnostics := p.diagnostics.record .tickOverrun } else p

/-- One tick, on the clock `c`, that takes `spent`: the commands taken as it starts, the plant
ticked, the samples sent; a tick after which the loop goes on is checked for an overrun. -/
def tickOnce (period : Nat) (c : Clock) (spent : Nat) (p : Plant σ ς α) (l : ℓ) :
    Except Panic (Option Fault × Plant σ ς α × ℓ) := do
  let (commands, l, d) := ControllerLink.commands l p.diagnostics c.start
  let p := { p with diagnostics := d }
  let clock : StepClock := { delta := if p.tickCount = (0 : UInt64) then 0.0 else secondsOfNanos c.gap }
  match ← p.tick commands clock with
  | (.error e, p) => pure (some e, p, l)
  | (.ok none, p) => pure (none, overran period spent p, l)
  | (.ok (some samples), p) =>
    match ControllerLink.send l p.diagnostics samples c.start with
    | .ok (l, d) => pure (none, overran period spent { p with diagnostics := d }, l)
    | .error .notReady => pure (some .notReady, p, l)
    | .error _ => pure (none, overran period spent p, l)

/-- Ticks from the clock `c` while the time allowed, if any, has not run out, at most `n` of
them, ending early on a failure; the tick of index `i` in the run takes `spent i`. -/
def ticks (period : Nat) (allowed : Option Nat) (spent : Nat → Nat) :
    Nat → Clock → Plant σ ς α → ℓ → Except Panic (Option Fault × Plant σ ς α × ℓ)
  | 0, _, p, l => pure (none, p, l)
  | n + 1, c, p, l =>
    if allowed.any (· ≤ c.checked) then pure (none, p, l)
    else do
      match ← tickOnce period c (spent c.index) p l with
      | (some e, p, l) => pure (some e, p, l)
      | (none, p, l) => ticks period allowed spent n (c.after period (spent c.index)) p l

/-- The time between ticks of a plant, in nanoseconds. -/
def periodOf (p : Plant σ ς α) : Nat := (Duration.period p.sim.tickRate).nanos

/-- Ends a run: the link is closed, and what it gave up on is counted. -/
def finish (failure : Option Fault) (p : Plant σ ς α) (l : ℓ) : LoopEnd σ ς α ℓ :=
  let (l, d) := ControllerLink.close l p.diagnostics
  { plant := { p with diagnostics := d }, link := l, failure }

/-- Runs a plant until the stop flag is found cleared, before the first tick when `running`
is false and otherwise before tick `limit`, for the time allowed if any, then closes the link;
the tick of index `i` in the run takes `spent i`. A period of zero stops the program first. -/
def run (p : Plant σ ς α) (l : ℓ) (running : Bool) (allowed : Option Nat) (spent : Nat → Nat)
    (limit : Nat) : Except Panic (LoopEnd σ ς α ℓ) := do
  let period := periodOf p
  if period = 0 then throw .zeroPeriod
  let (failure, p, l) ← if running then ticks period allowed spent limit (.first period) p l
    else pure (none, p, l)
  pure (finish failure p l)

end Loop

/-- The error log of failed checks: a header and one row per property, the value as a number.
No property gives no text at all. -/
def errlogText (failed : PropMap) : String :=
  if failed.isEmpty then ""
  else Csv.lines (["property", "value"] ::
    failed.entries.map fun e => [e.1, FloatFormat.data.render e.2.toFloat])

namespace LoopEnd

variable {σ ς α ℓ : Type} [PlantState σ] [ControllerLink ℓ]

/-- The report of the run. -/
def report (e : LoopEnd σ ς α ℓ) : LoopReport :=
  { ticks := e.plant.tickCount, samplesSent := ControllerLink.samplesSent e.link,
    replies := ControllerLink.replies e.link,
    unanswered := e.plant.diagnostics.counts.unanswered,
    rtt := ControllerLink.rtt e.link, diagnostics := e.plant.diagnostics.counts }

/-- The report, or the failure that ended the run. -/
def result (e : LoopEnd σ ς α ℓ) : Except Fault LoopReport :=
  match e.failure with
  | none => .ok e.report
  | some f => .error f

/-- The error log, if failed checks ended the run. -/
def errlog (e : LoopEnd σ ς α ℓ) : Option String :=
  match e.failure with
  | some (.unrecoverableState failed) => some (errlogText failed)
  | _ => none

end LoopEnd

end ControlLoop
