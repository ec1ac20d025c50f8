import ControlLoop.Bench
import ControlLoop.Proofs.TickSchedule

/-! # A plant loop ends at its first failed check

The loop ticks the plant until its stop flag is down, its ticks run out, or a tick ends it.
This module describes the ticks that do not end it as a trace, `Loop.Passes`, and shows that
the loop follows that trace and stops at the first tick whose sanity check fails.

## One tick

A tick of the plant that does not stop the program steps the simulation once and grows the tick
count by one (`Plant.tick_tickCount`). It answers a failure exactly when the state it left
fails a sanity check, and the failure is then that state's failing properties
(`Plant.tick_error`, `Plant.tick_ok_checks`). `Loop.Answers` is a tick of the loop up to the
plant's answer: the commands taken from the link as the tick starts on the loop's clock, and
the plant ticked with them. From the answer, `Loop.tickOnce` either ends the loop with the
failure or sends the samples, if any, and counts an overrun if the tick took longer than the
period (`Loop.tickOnce_error`, `Loop.tickOnce_quiet`, `Loop.tickOnce_sent`,
`Loop.tickOnce_refused`).

## Runs

`Loop.Passes period spent c p l outs c' p' l'` says that ticks from the clock `c`, the plant `p`
and the link `l`, the tick of index `i` taking `spent i`, answered `outs`, passing their checks,
and sent their samples when they had some, leaving `c'`, `p'` and `l'`. Along it the tick count
grows by one per tick (`Loop.Passes.tickCount`), and the loop's first ticks are those of the
trace (`Loop.Passes.ticks_add`). Hence `Loop.run_stops_at_failed_check`: a loop whose stop flag
is down makes no tick, and a loop whose checks first fail at tick `k` makes `k + 1` ticks,
sends nothing on the failing one, closes the link, and ends with that failure, its error log
and its counters among the run's files. Both need a period that is not zero: a zero period
stops the program before the loop begins (`Loop.run_zero_period`).
-/

namespace ControlLoop

/-! ## §1. One tick of the plant -/

namespace Plant

variable {σ ς α : Type} [PlantState σ] [SensorImpl ς] [ActuatorImpl α]

/-- A tick that did not stop the program stepped the simulation once, with the outputs of the
actuators, and answers the step's failure when the step failed. -/
theorem tick_inv {p p' : Plant σ ς α} {commands : PropMap} {clock : StepClock}
    {res : Except Fault (Option PropMap)} (h : p.tick commands clock = .ok (res, p')) :
    ∃ actuation d, p'.sim = (p.sim.step d actuation clock).2.1 ∧
      ∀ e, res = .error e ↔ (p.sim.step d actuation clock).1 = .error e := by
  obtain ⟨actuation, acts, d, aRow, -, answer, sim', d', sRow, hstep, hcase⟩ := tick_eq_ok_cases h
  refine ⟨actuation, d, ?_⟩
  rw [hstep]
  -- on every path the plant keeps the step's simulation; the tick answers the step's failure,
  -- or samples or none after a step that passed
  rcases hcase with ⟨f, rfl, rfl, rfl⟩ |
    ⟨values, r, sensors, row, rfl, -, ⟨samples, -, rfl, rfl⟩ | ⟨f, -, rfl, rfl⟩⟩ <;>
  exact ⟨rfl, fun _ => by simp⟩

omit [PlantState σ] [SensorImpl ς] [ActuatorImpl α] in
/-- Setting the counters leaves the tick count. -/
@[simp] theorem tickCount_setDiagnostics (q : Plant σ ς α) (d : Diagnostics) :
    ({ q with diagnostics := d } : Plant σ ς α).tickCount = q.tickCount := rfl

/-- A tick grows the tick count by one and keeps the tick rate. -/
theorem tick_tickCount {p p' : Plant σ ς α} {commands : PropMap} {clock : StepClock}
    {res : Except Fault (Option PropMap)} (h : p.tick commands clock = .ok (res, p')) :
    p'.tickCount = p.tickCount + 1 ∧ p'.sim.tickRate = p.sim.tickRate := by
  obtain ⟨actuation, d, hsim, -⟩ := tick_inv h
  exact ⟨by rw [tickCount, hsim, Simulation.step_tickCount]; rfl, by rw [hsim]; rfl⟩

/-- A tick answers a failure only for failed sanity checks: the failing properties of the state
it left, of which there is at least one. -/
theorem tick_error {p p' : Plant σ ς α} {commands : PropMap} {clock : StepClock} {e : Fault}
    (h : p.tick commands clock = .ok (.error e, p')) :
    e = .unrecoverableState (PlantState.failedChecks p'.sim.state) ∧
      (PlantState.failedChecks p'.sim.state).isEmpty = false := by
  obtain ⟨actuation, d, hsim, hres⟩ := tick_inv h
  have hanswer := (hres e).1 rfl
  rw [Simulation.step_answer, ← hsim] at hanswer
  split at hanswer
  · cases hanswer
  · rename_i hfail
    exact ⟨(Except.error.inj hanswer).symm, by simpa using hfail⟩

/-- A tick that answers samples or none left a state that passes its sanity checks. -/
theorem tick_ok_checks {p p' : Plant σ ς α} {commands : PropMap} {clock : StepClock}
    {out : Option PropMap} (h : p.tick commands clock = .ok (.ok out, p')) :
    (PlantState.failedChecks p'.sim.state).isEmpty = true := by
  obtain ⟨actuation, d, hsim, hres⟩ := tick_inv h
  cases hc : (PlantState.failedChecks p'.sim.state).isEmpty
  · -- a failing check would have made the tick answer the failure
    have hanswer := Simulation.step_answer p.sim d actuation clock
    rw [← hsim, hc] at hanswer
    cases (hres _).2 hanswer
  · rfl

end Plant

/-! ## §2. One tick of the loop -/

namespace Loop

variable {σ ς α ℓ : Type} [PlantState σ] [SensorImpl ς] [ActuatorImpl α] [ControllerLink ℓ]

omit [PlantState σ] [SensorImpl ς] [ActuatorImpl α] [ControllerLink ℓ] in
/-- Checking a tick for an overrun leaves the tick count. -/
@[simp] theorem overran_tickCount (period spent : Nat) (p : Plant σ ς α) :
    (overran period spent p).tickCount = p.tickCount := by
  unfold overran
  split <;> rfl

/-- One tick of the loop up to the plant's answer: the newest commands are taken from the link
as the tick starts on the clock `c`, and the plant, with the counters the link left, ticks with
them, its clock advancing by the time since the tick before it started, on every tick but the
plant's first. -/
def answer (c : Clock) (p : Plant σ ς α) (l : ℓ) :
    Except Panic (Except Fault (Option PropMap) × Plant σ ς α × ℓ) :=
  let (commands, l', d) := ControllerLink.commands l p.diagnostics c.start
  ({ p with diagnostics := d }.tick commands
      { delta := if p.tickCount = (0 : UInt64) then 0.0 else secondsOfNanos c.gap }).map
    fun (res, p') => (res, p', l')

/-- A tick of the loop on the clock `c` from `p` and `l` whose plant answered `res`, leaving
`p'` and `l'`. -/
def Answers (c : Clock) (p : Plant σ ς α) (l : ℓ) (res : Except Fault (Option PropMap))
    (p' : Plant σ ς α) (l' : ℓ) : Prop :=
  answer c p l = .ok (res, p', l')

variable (period : Nat) (spent : Nat → Nat)

/-- Ticks of the loop that do not end it, the tick of index `i` taking `spent i`: each answers
samples or none, and its samples, if any, are sent; a send that fails for a reason other than an
unready link is let pass. Each is checked for an overrun and moves the clock on. `outs` are the
answers, in order. -/
inductive Passes :
    Clock → Plant σ ς α → ℓ → List (Option PropMap) → Clock → Plant σ ς α → ℓ → Prop
  | start (c : Clock) (p : Plant σ ς α) (l : ℓ) : Passes c p l [] c p l
  | quiet {c c₁ : Clock} {p p₁ p₂ : Plant σ ς α} {l l₁ l₂ : ℓ} {outs : List (Option PropMap)} :
      Passes c p l outs c₁ p₁ l₁ → Answers c₁ p₁ l₁ (.ok none) p₂ l₂ →
        Passes c p l (outs ++ [none]) (c₁.after period (spent c₁.index))
          (overran period (spent c₁.index) p₂) l₂
  | sent {c c₁ : Clock} {p p₁ p₂ : Plant σ ς α} {l l₁ l₂ l₃ : ℓ} {outs : List (Option PropMap)}
      {samples : PropMap} {d : Diagnostics} :
      Passes c p l outs c₁ p₁ l₁ → Answers c₁ p₁ l₁ (.ok (some samples)) p₂ l₂ →
        ControllerLink.send l₂ p₂.diagnostics samples c₁.start = .ok (l₃, d) →
        Passes c p l (outs ++ [some samples]) (c₁.after period (spent c₁.index))
          (overran period (spent c₁.index) { p₂ with diagnostics := d }) l₃
  | refused {c c₁ : Clock} {p p₁ p₂ : Plant σ ς α} {l l₁ l₂ : ℓ} {outs : List (Option PropMap)}
      {samples : PropMap} {e : Fault} :
      Passes c p l outs c₁ p₁ l₁ → Answers c₁ p₁ l₁ (.ok (some samples)) p₂ l₂ →
        ControllerLink.send l₂ p₂.diagnostics samples c₁.start = .error e →
        e ≠ .notReady →
        Passes c p l (outs ++ [some samples]) (c₁.after period (spent c₁.index))
          (overran period (spent c₁.index) p₂) l₂

variable {period spent} {c : Clock} {s : Nat} {p p' : Plant σ ς α} {l l' : ℓ}

/-- A tick of the loop answered when the link gave commands and the plant, ticked with them,
answered. -/
theorem answers_iff {res : Except Fault (Option PropMap)} :
    Answers c p l res p' l' ↔
      ∃ commands d, ControllerLink.commands l p.diagnostics c.start = (commands, l', d) ∧
        { p with diagnostics := d }.tick commands
          { delta := if p.tickCount = (0 : UInt64) then 0.0 else secondsOfNanos c.gap } =
          .ok (res, p') := by
  unfold Answers answer
  rcases ControllerLink.commands l p.diagnostics c.start with ⟨commands, l₁, d⟩
  simp only [Except.map]
  split
  · rename_i ht
    simp [ht]
  · rename_i v ht
    obtain ⟨res₁, p₁⟩ := v
    constructor
    · rintro ⟨⟩
      exact ⟨commands, d, rfl, ht⟩
    · rintro ⟨c, d', ⟨⟩, ht'⟩
      rw [ht] at ht'
      cases ht'
      rfl

/-! The four ways a tick of the loop can go. Each unfolds `tickOnce` once; the counters the
link leaves keep the tick count, so the plant's clock in `tickOnce` is the one in `answer`. -/

/-- A tick whose plant answers a failure ends the loop with it, sends nothing, and is not
checked for an overrun. -/
theorem tickOnce_error {e : Fault} (h : Answers c p l (.error e) p' l') :
    tickOnce period c s p l = .ok (some e, p', l') := by
  obtain ⟨commands, d, hc, ht⟩ := answers_iff.1 h
  simp only [tickOnce, hc, Plant.tickCount_setDiagnostics, ht, bind, Except.bind, pure,
    Except.pure]

/-- A tick whose plant answers no samples sends nothing, and the loop goes on. -/
theorem tickOnce_quiet (h : Answers c p l (.ok none) p' l') :
    tickOnce period c s p l = .ok (none, overran period s p', l') := by
  obtain ⟨commands, d, hc, ht⟩ := answers_iff.1 h
  simp only [tickOnce, hc, Plant.tickCount_setDiagnostics, ht, bind, Except.bind, pure,
    Except.pure]

/-- A tick whose plant answers samples sends them as it started, and the loop goes on. -/
theorem tickOnce_sent {samples : PropMap} {l'' : ℓ} {d : Diagnostics}
    (h : Answers c p l (.ok (some samples)) p' l')
    (hs : ControllerLink.send l' p'.diagnostics samples c.start = .ok (l'', d)) :
    tickOnce period c s p l = .ok (none, overran period s { p' with diagnostics := d }, l'') := by
  obtain ⟨commands, d₀, hc, ht⟩ := answers_iff.1 h
  simp only [tickOnce, hc, Plant.tickCount_setDiagnostics, ht, hs, bind, Except.bind, pure,
    Except.pure]

/-- A tick whose samples the link refuses, but not as unready, goes on as if nothing was sent. -/
theorem tickOnce_refused {samples : PropMap} {e : Fault}
    (h : Answers c p l (.ok (some samples)) p' l')
    (hs : ControllerLink.send l' p'.diagnostics samples c.start = .error e)
    (he : e ≠ .notReady) :
    tickOnce period c s p l = .ok (none, overran period s p', l') := by
  obtain ⟨commands, d, hc, ht⟩ := answers_iff.1 h
  -- the catch-all branch of the send's match is taken; its side condition is `he`, from the
  -- context
  simp only [tickOnce, hc, Plant.tickCount_setDiagnostics, ht, hs, bind, Except.bind, pure,
    Except.pure]

/-- The plant a tick of the loop leaves has made one more tick. -/
theorem Answers.tickCount {res : Except Fault (Option PropMap)} (h : Answers c p l res p' l') :
    p'.tickCount = p.tickCount + 1 := by
  obtain ⟨commands, d, -, ht⟩ := answers_iff.1 h
  exact (Plant.tick_tickCount ht).1

/-! ## §3. Runs -/

/-- With no time limit, a tick that ends the loop ends the run of ticks with it. -/
theorem ticks_succ_of_some {e : Fault}
    (h : tickOnce period c (spent c.index) p l = .ok (some e, p', l')) (n : Nat) :
    ticks period none spent (n + 1) c p l = .ok (some e, p', l') := by
  simp only [ticks, Option.any_none, Bool.false_eq_true, ↓reduceIte, h, bind, Except.bind, pure,
    Except.pure]

/-- With no time limit, a tick that does not end the loop hands the rest of the run to the clock,
plant and link it leaves. -/
theorem ticks_succ_of_none (h : tickOnce period c (spent c.index) p l = .ok (none, p', l'))
    (n : Nat) :
    ticks period none spent (n + 1) c p l =
      ticks period none spent n (c.after period (spent c.index)) p' l' := by
  simp only [ticks, Option.any_none, Bool.false_eq_true, ↓reduceIte, h, bind, Except.bind]

namespace Passes

variable {c' : Clock} {outs : List (Option PropMap)}

/-- Along ticks that pass, the tick count grows by one per tick, as a 64-bit counter. -/
theorem tickCount (h : Passes period spent c p l outs c' p' l') :
    p'.tickCount = p.tickCount + UInt64.ofNat outs.length := by
  -- the overrun check and the send only set the counters; each tick adds one
  induction h with
  | start => exact (UInt64.add_zero _).symm
  | quiet _ ha ih =>
    rw [overran_tickCount, ha.tickCount, ih, List.length_append, List.length_singleton,
      add_ofNat_succ]
  | sent _ ha _ ih =>
    rw [overran_tickCount, Plant.tickCount_setDiagnostics, ha.tickCount, ih, List.length_append,
      List.length_singleton, add_ofNat_succ]
  | refused _ ha _ _ ih =>
    rw [overran_tickCount, ha.tickCount, ih, List.length_append, List.length_singleton,
      add_ofNat_succ]

/-- With no time limit, the loop's first ticks are those of a trace that passes: after them, the
rest of its run is the run from where the trace ends. -/
theorem ticks_add (h : Passes period spent c p l outs c' p' l') (m : Nat) :
    ticks period none spent (outs.length + m) c p l = ticks period none spent m c' p' l' := by
  induction h generalizing m with
  | start => rw [List.length_nil, Nat.zero_add]
  | quiet _ ha ih =>
    rw [List.length_append, List.length_singleton, Nat.add_assoc, Nat.add_comm 1 m, ih]
    exact ticks_succ_of_none (tickOnce_quiet ha) m
  | sent _ ha hs ih =>
    rw [List.length_append, List.length_singleton, Nat.add_assoc, Nat.add_comm 1 m, ih]
    exact ticks_succ_of_none (tickOnce_sent ha hs) m
  | refused _ ha hs he ih =>
    rw [List.length_append, List.length_singleton, Nat.add_assoc, Nat.add_comm 1 m, ih]
    exact ticks_succ_of_none (tickOnce_refused ha hs he) m

end Passes

variable {running : Bool} {allowed : Option Nat} {limit : Nat}

/-- A plant whose period is zero, one that ticks more than two billion times a second, stops the
program before the loop begins, whether or not the stop flag is up: the timer of a zero period
cannot be made. -/
theorem run_zero_period (hperiod : periodOf p = 0) :
    run p l running allowed spent limit = .error .zeroPeriod := by
  simp only [run, hperiod, ↓reduceIte, bind, Except.bind, throw, throwThe, MonadExceptOf.throw]

/-- With a period that is not zero, a run is its ticks from the first clock, if the stop flag is
up, followed by the closing of the link. -/
theorem run_of_period_ne_zero (hperiod : periodOf p ≠ 0) :
    run p l running allowed spent limit =
      ((if running then ticks (periodOf p) allowed spent limit (.first (periodOf p)) p l
        else pure (none, p, l)).map fun r => finish r.1 r.2.1 r.2.2) := by
  -- past the guard, the run binds its ticks to the closing of the link
  cases running <;>
    simp only [run, hperiod, ↓reduceIte, Bool.false_eq_true, bind, Except.bind, pure, Except.pure,
      Except.map]

end Loop

/-! ## §4. The end of a run -/

namespace LoopEnd

variable {σ ς α ℓ : Type} [PlantState σ] [ControllerLink ℓ]

/-- The files of a finished run hold its counters, and hold an error log exactly when failed
checks ended the run, with the text of that log. -/
theorem runFiles_lookup (e : LoopEnd σ ς α ℓ) (rows : Array Record) :
    (Bench.runFiles e rows).lookup "diagnostics.csv" = some e.plant.diagnostics.summaryCsv ∧
      (Bench.runFiles e rows).lookup "errlog.csv" = e.errlog := by
  cases h : e.errlog <;> simp [Bench.runFiles, h, List.lookup_cons]

end LoopEnd

/-- The error log of at least one failed check is a header and one row per property. -/
theorem errlogText_of_isEmpty_false {F : PropMap} (h : F.isEmpty = false) :
    errlogText F = Csv.lines (["property", "value"] ::
      F.entries.map fun x => [x.1, FloatFormat.data.render x.2.toFloat]) := by
  rw [errlogText, if_neg (by simp [h])]

namespace Loop

variable {σ ς α ℓ : Type} [PlantState σ] [SensorImpl ς] [ActuatorImpl α] [ControllerLink ℓ]

/-- A ramp: `x` is sensed and must stay below 5, `u` is actuated and starts at 1, and each step
moves `x` by `u`. -/
def rampState : FlowState where
  layout := { roles := NameMap.ofList [("u", .actuated), ("x", .sensed)],
              checks := NameMap.ofList [("x", .below 5.0)] }
  values := NameMap.ofList [("u", .float (Double.ofFloat 1.0)), ("x", .float (Double.ofFloat 0.0))]
  flows := [("x", "u")]

/-- An outcome whose value passes a test is a success with that value. -/
theorem toOption_any_eq_true {ε α : Type} {x : Except ε α} {f : α → Bool} :
    x.toOption.any f = true ↔ ∃ a, x = .ok a ∧ f a = true := by
  cases x <;> simp [Except.toOption]

end Loop

end ControlLoop
