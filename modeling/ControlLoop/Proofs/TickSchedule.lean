import ControlLoop.Plant.Basic
import ControlLoop.SpringMass.Rig
import ControlLoop.Proofs.SampleOutcome
import Mathlib.Data.List.TakeWhile
import Mathlib.Data.Nat.Cast.Field
import Mathlib.Tactic.FieldSimp

/-! # Ticks on schedule

A plant ticks by applying the commands through its actuators, stepping the simulation, and
sampling the sensed values through the sensors' trigger table. This module shows that the
three parts stay in step along any run of ticks that return, and that such a tick answers
samples exactly on the ticks the sensors' rates schedule, whatever the sensors and actuators
do with the values they are given.

A tick need not return: a sensor or an actuator may stop the program. The library's noisy
sensor does so when its spread is infinite, so the first tick of the demonstration plant with
infinite noise stops the program (`Plant.tick_panics_on_infinite_noise`).

## One tick

Each part has one lemma saying what it does when it returns: applying commands
(`ActuatorBank.apply_record`, `ActuatorBank.apply_missing`), stepping (`Simulation.step_answer`
and its neighbours), and sampling (`SensorBank.SameTable.sample_ok`): a sample keeps the bank's
tick rate, trigger table and registered properties (`SensorBank.SameTable`), even though the
sensors themselves may change. The tick itself has one equation per path
(`Plant.tick_of_step_error`, `Plant.tick_of_sampled`, ...), and every tick that returns took one
of them (`Plant.tick_eq_ok_cases`). From them, `Plant.tick_outcome`: a tick that returns, from a
plant whose sensors keep the table of a valid bank, does what `Plant.TickOutcome` lists. Its
records are stamped with the tick count before it; a failed sanity check ends it; otherwise it
samples the properties due at that count, or answers none and counts one missing property when
one of them has no sensed value.

## Runs of ticks

`Plant.TickRun` collects the answers of ticks that pass their sanity checks. Along a run the
tick count is the number of ticks as a 64-bit count and the sensors keep their table
(`Plant.TickRun.invariant`), so the ticks answering samples are counted by the ticks that send
(`Plant.TickRun.sends_count`). For a plant as built, all together: `Plant.ticks_follow_schedule`.
-/

namespace ControlLoop

/-! ## §1. Folds that return, and counts that grow -/

/-- What holds before a fold and after each step that succeeds holds after a fold that
succeeds. -/
theorem foldlM_invariant {ε α β : Type} {f : β → α → Except ε β} (I : β → Prop) (l : List α)
    (hf : ∀ b a b', a ∈ l → I b → f b a = .ok b' → I b') :
    ∀ b b', I b → l.foldlM f b = .ok b' → I b' := by
  induction l with
  | nil =>
    intro b b' hb h
    cases h
    exact hb
  | cons a l ih =>
    intro b b' hb h
    rw [List.foldlM_cons] at h
    cases hstep : f b a with
    | error e =>
      rw [hstep] at h
      cases h
    | ok b₁ =>
      rw [hstep] at h
      exact ih (fun c x c' hx => hf c x c' (List.mem_cons_of_mem a hx)) b₁ b'
        (hf b a b₁ List.mem_cons_self hb hstep) h

/-- A 64-bit count that has grown by `n` and then by one has grown by `n + 1`. -/
theorem add_ofNat_succ (a : UInt64) (n : Nat) :
    a + UInt64.ofNat n + 1 = a + UInt64.ofNat (n + 1) := by
  rw [UInt64.ofNat_add, UInt64.add_assoc]
  rfl

/-! ## §2. The parts of a tick -/

namespace ActuatorBank

variable {α : Type} [ActuatorImpl α]

/-- A command for a property without an actuator is counted and changes nothing else. -/
theorem command_unregistered {b : ActuatorBank α} (d : Diagnostics) {e : String × Value}
    (ha : b.actuators.get? e.1 = none) : command (b, d) e = .ok (b, d.recordUnregistered e.1) := by
  simp only [command, ha]
  rfl

/-- A command for a property with an actuator sets it and changes nothing else. -/
theorem command_registered {b : ActuatorBank α} (d : Diagnostics) {e : String × Value} {a : α}
    (ha : b.actuators.get? e.1 = some a) :
    command (b, d) e = (ActuatorImpl.set a b.rng e.2).map fun r =>
      ({ actuators := b.actuators.insert e.1 r.1, rng := r.2 }, d) := by
  simp only [command, ha, bind, Except.bind, Except.map]
  cases ActuatorImpl.set a b.rng e.2 <;> rfl

/-- What one command can do: count a property without an actuator, or set the actuator of a
property that has one, keeping the diagnostics. -/
theorem command_cases {b b' : ActuatorBank α} {d d' : Diagnostics} {e : String × Value}
    (h : command (b, d) e = .ok (b', d')) :
    (b.actuators.get? e.1 = none ∧ b' = b ∧ d' = d.recordUnregistered e.1) ∨
      ∃ a r, b.actuators.get? e.1 = some a ∧ ActuatorImpl.set a b.rng e.2 = .ok r ∧
        b' = { actuators := b.actuators.insert e.1 r.1, rng := r.2 } ∧ d' = d := by
  cases ha : b.actuators.get? e.1 with
  | none =>
    rw [command_unregistered d ha, Except.ok.injEq, Prod.mk.injEq] at h
    exact .inl ⟨rfl, h.1.symm, h.2.symm⟩
  | some a =>
    rw [command_registered d ha] at h
    cases hset : ActuatorImpl.set a b.rng e.2 with
    | error err =>
      rw [hset] at h
      cases h
    | ok r =>
      rw [hset] at h
      simp only [Except.map, Except.ok.injEq, Prod.mk.injEq] at h
      exact .inr ⟨a, r, rfl, hset, h.1.symm, h.2.symm⟩

/-- An apply that returns has taken its commands into a bank `b₁`, and gives the outputs of
`b₁`'s actuators, the bank after giving them, and the record of outputs and commands. -/
theorem apply_inv {b b' : ActuatorBank α} {d d' : Diagnostics} {t : Nat} {c out : PropMap}
    {row : Record} (h : b.apply d t c = .ok (out, b', d', row)) :
    ∃ b₁, c.entries.foldlM command (b, d) = .ok (b₁, d') ∧
      out = b₁.actuators.map (fun a => (ActuatorImpl.output a).1) ∧
      b'.actuators = b₁.actuators.map (fun a => (ActuatorImpl.output a).2) ∧
      row.fields = ("plant_seq", Binary64.ofInt t) :: (out.entries.map fun e =>
        [(e.1 ++ "_value", e.2.toFloat),
         (e.1 ++ "_target", ((c.get? e.1).map Value.toFloat).getD Binary64.nan)]).flatten := by
  unfold apply at h
  cases hfold : c.entries.foldlM command (b, d) with
  | error err =>
    rw [hfold] at h
    cases h
  | ok r =>
    obtain ⟨b₁, d₁⟩ := r
    rw [hfold] at h
    simp only [bind, Except.bind, pure, Except.pure, Except.ok.injEq, Prod.mk.injEq] at h
    obtain ⟨rfl, rfl, rfl, rfl⟩ := h
    exact ⟨b₁, rfl, rfl, rfl, rfl⟩

/-- The record of an apply that returns starts with the tick. -/
theorem apply_record {b b' : ActuatorBank α} {d d' : Diagnostics} {t : Nat} {c out : PropMap}
    {row : Record} (h : b.apply d t c = .ok (out, b', d', row)) :
    row.fields.head? = some ("plant_seq", Binary64.ofInt t) := by
  obtain ⟨-, -, -, -, hrow⟩ := apply_inv h
  rw [hrow]
  rfl

/-- An apply that returns counts no missing property. -/
theorem apply_missing {b b' : ActuatorBank α} {d d' : Diagnostics} {t : Nat} {c out : PropMap}
    {row : Record} (h : b.apply d t c = .ok (out, b', d', row)) :
    d'.counts.missingProperties = d.counts.missingProperties := by
  obtain ⟨b₁, hfold, -⟩ := apply_inv h
  -- each command keeps the count: it counts an unregistered command or nothing
  refine foldlM_invariant (fun x : ActuatorBank α × Diagnostics =>
      x.2.counts.missingProperties = d.counts.missingProperties) c.entries ?_ (b, d) (b₁, d')
    rfl hfold
  rintro ⟨b₂, d₂⟩ e ⟨b₃, d₃⟩ - hd hc
  rcases command_cases hc with ⟨-, -, rfl⟩ | ⟨-, -, -, -, -, rfl⟩
  · exact hd
  · exact hd

end ActuatorBank

namespace Simulation

variable {σ : Type} [PlantState σ]

/-- Setting inputs counts no missing property. -/
theorem applyInputs_missing (s : σ) (d : Diagnostics) (inputs : PropMap) :
    (applyInputs s d inputs).2.counts.missingProperties = d.counts.missingProperties := by
  unfold applyInputs
  generalize inputs.entries = es
  induction es generalizing s d with
  | nil => rfl
  | cons e es ih =>
    simp only [List.foldl_cons]
    split <;> exact ih ..

variable (sim : Simulation σ) (d : Diagnostics) (inputs : PropMap) (clock : StepClock)

/-- A step grows the tick count by one. -/
@[simp] theorem step_tickCount : (sim.step d inputs clock).2.1.tickCount = sim.tickCount + 1 :=
  rfl

/-- A step answers the sensed values of the new state, unless a sanity check fails. -/
theorem step_answer : (sim.step d inputs clock).1 =
    if (PlantState.failedChecks (sim.step d inputs clock).2.1.state).isEmpty then
      .ok (PlantState.sensed (sim.step d inputs clock).2.1.state)
    else .error (.unrecoverableState (PlantState.failedChecks (sim.step d inputs clock).2.1.state)) :=
  rfl

/-- The record of a step starts with the tick count before it. -/
theorem step_record : (sim.step d inputs clock).2.2.2.fields.head? =
    some ("tick", Binary64.ofInt sim.tickCount.toNat) :=
  rfl

/-- A step counts no missing property. -/
@[simp] theorem step_missing :
    (sim.step d inputs clock).2.2.1.counts.missingProperties = d.counts.missingProperties :=
  applyInputs_missing sim.state d inputs

end Simulation

namespace SensorBank

variable {ς : Type} [SensorImpl ς]

/-- What sampling keeps of a bank `b` in a bank `b'`: the tick rate, the trigger table, and the
properties with a sensor. -/
structure SameTable (b b' : SensorBank ς) : Prop where
  plantFreq : b'.plantFreq = b.plantFreq
  triggers : b'.triggers = b.triggers
  registered : ∀ q, (b'.sensors.get? q).isSome = (b.sensors.get? q).isSome

omit [SensorImpl ς] in
theorem SameTable.refl (b : SensorBank ς) : b.SameTable b := ⟨rfl, rfl, fun _ => rfl⟩

omit [SensorImpl ς] in
/-- Banks with one table schedule the same properties at every tick. -/
theorem SameTable.scheduled_cycleOf {b b' : SensorBank ς} (h : b.SameTable b') (t : Nat) :
    b'.scheduled (b'.cycleOf t) = b.scheduled (b.cycleOf t) := by
  simp only [scheduled, cycleOf, h.plantFreq, h.triggers]

/-- A sample that returns, from a bank with the table of a valid bank `b0`, keeps that table and
stamps its record with the tick. With a value for each property due at the tick, it answers their
samples, or none when none is due; with one of them missing it names a missing property. -/
theorem SameTable.sample_ok {b0 b : SensorBank ς} (hv : b0.Valid) (h : b0.SameTable b)
    {t : Nat} {raw : PropMap} {out : Except Fault (Option PropMap)} {b' : SensorBank ς}
    {row : Record} (hs : b.sample t raw = .ok (out, b', row)) :
    b0.SameTable b' ∧ row.fields.head? = some ("plant_seq", Binary64.ofInt t) ∧
      ((∀ q ∈ b0.due t, q ∈ raw.keys) → ∃ samples,
        out = .ok (if (b0.due t).isEmpty then none else some samples) ∧
        ∀ q, q ∈ samples.keys ↔ q ∈ b0.due t) ∧
      ((∃ q ∈ b0.due t, q ∉ raw.keys) → ∃ q, out = .error (.missingProperty q)) := by
  have hS : b.scheduled (b.cycleOf t) = b0.due t := by
    rw [h.scheduled_cycleOf, hv.scheduled_cycleOf]
  have hsorted : (b0.due t).Pairwise (· < ·) := by
    rw [← hv.scheduled_cycleOf]
    exact hv.scheduled_sorted _
  have hreg : ∀ q ∈ b0.due t, ∃ s, b.sensors.get? q = some s := fun q hq => by
    obtain ⟨s, hs, -⟩ := mem_due.1 hq
    exact Option.isSome_iff_exists.1 ((h.registered q).trans (by rw [hs]; rfl))
  obtain ⟨r, rng, hdraws, rfl, rfl, hans⟩ := sample_eq_ok_cases hS hsorted hreg hs
  -- the sensors filed back are those of properties that have one
  have hkeep : ∀ e ∈ ((b0.due t).takeWhile raw.contains).zip (r.map (·.2)),
      (b.sensors.get? e.1).isSome := fun e he => by
    obtain ⟨s, hs⟩ := hreg e.1 (List.takeWhile_subset _ (List.of_mem_zip he).1)
    rw [hs]
    rfl
  refine ⟨⟨h.plantFreq, h.triggers, fun q => ?_⟩, rfl, fun hall => ?_, fun ⟨q, hq, hnot⟩ => ?_⟩
  · exact (NameMap.isSome_get?_insertAll hkeep q).trans (h.registered q)
  · cases out with
    | error f =>
      -- a missing property would be one of those due
      obtain ⟨q, rest, -, hsplit, hnot, -⟩ := (hans.error_iff f).1 rfl
      exact absurd (hall q (by rw [hsplit]; simp)) hnot
    | ok o =>
      cases o with
      | none =>
        have hnil := hans.none_iff.1 rfl
        exact ⟨{}, by rw [hnil]; rfl, fun q => by simp [hnil, NameMap.keys]⟩
      | some M =>
        obtain ⟨hne, -, hM⟩ := (hans.some_iff M).1 rfl
        -- every property due has a value, so the walk drew for all of them
        have hpre : (b0.due t).takeWhile raw.contains = b0.due t :=
          List.takeWhile_eq_self_iff.2 fun q hq =>
            (NameMap.contains_eq_true_iff raw).2 (hall q hq)
        have hlen : (b0.due t).length ≤ (r.map (·.1)).length := by
          rw [List.length_map, SensorImpl.processAll_length hdraws,
            inputs_length (present_of_takeWhile hreg), hpre]
        refine ⟨M, by rw [List.isEmpty_eq_false_iff.2 hne]; rfl, fun q => ?_⟩
        rw [NameMap.keys, hM, List.map_fst_zip hlen]
  · cases out with
    | error f =>
      obtain ⟨q', -, rfl, -⟩ := (hans.error_iff f).1 rfl
      exact ⟨q', rfl⟩
    | ok o =>
      cases o with
      | none => exact absurd (hans.none_iff.1 rfl ▸ hq) List.not_mem_nil
      | some M => exact absurd ((hans.some_iff M).1 rfl).2.1 fun hall => hnot (hall q hq)

/-- Whether a tick sends: some registered sensor's spacing divides it. -/
def sendsAt (b : SensorBank ς) (k : Nat) : Prop :=
  ∃ e ∈ b.sensors.entries, b.plantFreq / SensorImpl.freq e.2 ∣ k

instance (b : SensorBank ς) : DecidablePred b.sendsAt :=
  fun k => inferInstanceAs
    (Decidable (∃ e ∈ b.sensors.entries, b.plantFreq / SensorImpl.freq e.2 ∣ k))

/-- Some property is due at a tick exactly when the tick sends. -/
theorem due_isEmpty_eq_false_iff (b : SensorBank ς) (k : Nat) :
    (b.due k).isEmpty = false ↔ b.sendsAt k := by
  simp [due, sendsAt, Nat.dvd_iff_mod_eq_zero]

/-- Registering sensors one after another, stopping at the first refused one, gives a valid
bank at the same tick rate. -/
theorem foldlM_register {P : Nat} {ss : List ς} {b : SensorBank ς}
    (h : ss.foldlM register { plantFreq := P } = .ok b) : b.Valid ∧ b.plantFreq = P := by
  refine foldlM_invariant (fun b : SensorBank ς => b.Valid ∧ b.plantFreq = P) ss ?_ _ _
    ⟨valid_new P, rfl⟩ h
  rintro b s b' - ⟨hv, hP⟩ hr
  refine ⟨hv.register hr, ?_⟩
  rw [eq_rebuild_of_register hr, rebuild_plantFreq]
  exact hP

end SensorBank

/-! ## §3. One tick -/

namespace Plant

variable {σ ς α : Type} [PlantState σ] [SensorImpl ς] [ActuatorImpl α]

omit [PlantState σ] [SensorImpl ς] [ActuatorImpl α] in
/-- The plant once its actuators took the commands, leaving the bank `acts` and the record
`aRow`, and its simulation stepped, leaving `sim`, the counters `d` and the record `sRow`: what
a tick leaves before it samples. -/
@[simps] def stepped (p : Plant σ ς α) (acts : ActuatorBank α) (aRow : Record)
    (sim : Simulation σ) (d : Diagnostics) (sRow : Record) : Plant σ ς α :=
  { p with actuators := acts, sim, diagnostics := d, actuatorLog := p.actuatorLog.push aRow,
           simLog := p.simLog.push sRow }

section Branches

/-! One equation per path through a tick. They are the only lemmas that open `Plant.tick`;
`tick_eq_ok_cases` reads every returning tick back through them. -/

variable {p : Plant σ ς α} {commands : PropMap} {clock : StepClock} {out values : PropMap}
  {acts : ActuatorBank α} {d d' : Diagnostics} {aRow sRow row : Record}
  {sim' : Simulation σ}

/-- A failed draw in the actuators stops the tick. -/
theorem tick_of_apply_error {e : Panic}
    (happly : p.actuators.apply p.diagnostics p.sim.tickCount.toNat commands = .error e) :
    p.tick commands clock = .error e := by
  simp only [tick, happly, bind, Except.bind]

/-- A failed sanity check ends the tick after the step, with its failure. -/
theorem tick_of_step_error {f : Fault}
    (happly : p.actuators.apply p.diagnostics p.sim.tickCount.toNat commands =
      .ok (out, acts, d, aRow))
    (hstep : p.sim.step d out clock = (.error f, sim', d', sRow)) :
    p.tick commands clock = .ok (.error f, p.stepped acts aRow sim' d' sRow) := by
  simp only [tick, happly, bind, Except.bind, hstep]
  rfl

/-- A failed draw in the sensors stops the tick. -/
theorem tick_of_sample_error {e : Panic}
    (happly : p.actuators.apply p.diagnostics p.sim.tickCount.toNat commands =
      .ok (out, acts, d, aRow))
    (hstep : p.sim.step d out clock = (.ok values, sim', d', sRow))
    (hsample : p.sensors.sample p.sim.tickCount.toNat values = .error e) :
    p.tick commands clock = .error e := by
  simp only [tick, happly, bind, Except.bind, hstep, hsample]

/-- With every property due sensed, the tick answers what the sensors sampled. -/
theorem tick_of_sampled {r : Option PropMap} {sensors : SensorBank ς}
    (happly : p.actuators.apply p.diagnostics p.sim.tickCount.toNat commands =
      .ok (out, acts, d, aRow))
    (hstep : p.sim.step d out clock = (.ok values, sim', d', sRow))
    (hsample : p.sensors.sample p.sim.tickCount.toNat values = .ok (.ok r, sensors, row)) :
    p.tick commands clock = .ok (.ok r,
      { p.stepped acts aRow sim' d' sRow with sensors, sensorLog := p.sensorLog.push row }) := by
  simp only [tick, happly, bind, Except.bind, hstep, hsample]
  rfl

/-- A property due without a sensed value is counted, and the tick answers no samples. -/
theorem tick_of_missing {f : Fault} {sensors : SensorBank ς}
    (happly : p.actuators.apply p.diagnostics p.sim.tickCount.toNat commands =
      .ok (out, acts, d, aRow))
    (hstep : p.sim.step d out clock = (.ok values, sim', d', sRow))
    (hsample : p.sensors.sample p.sim.tickCount.toNat values = .ok (.error f, sensors, row)) :
    p.tick commands clock = .ok (.ok none,
      { p.stepped acts aRow sim' (d'.record .missingProperty) sRow with
        sensors, sensorLog := p.sensorLog.push row }) := by
  simp only [tick, happly, bind, Except.bind, hstep, hsample]
  rfl

/-- What a tick that returns did: its actuators took the commands and its simulation stepped;
then a failed sanity check ended it, or its sensors sampled and it answered their samples, or
none with one missing property counted. -/
theorem tick_eq_ok_cases {res : Except Fault (Option PropMap)} {p' : Plant σ ς α}
    (h : p.tick commands clock = .ok (res, p')) :
    ∃ out acts d aRow, p.actuators.apply p.diagnostics p.sim.tickCount.toNat commands =
        .ok (out, acts, d, aRow) ∧
      ∃ answer sim' d' sRow, p.sim.step d out clock = (answer, sim', d', sRow) ∧
        ((∃ f, answer = .error f ∧ res = .error f ∧ p' = p.stepped acts aRow sim' d' sRow) ∨
          ∃ values r sensors row, answer = .ok values ∧
            p.sensors.sample p.sim.tickCount.toNat values = .ok (r, sensors, row) ∧
            ((∃ samples, r = .ok samples ∧ res = .ok samples ∧
                p' = { p.stepped acts aRow sim' d' sRow with
                       sensors, sensorLog := p.sensorLog.push row }) ∨
              ∃ f, r = .error f ∧ res = .ok none ∧
                p' = { p.stepped acts aRow sim' (d'.record .missingProperty) sRow with
                       sensors, sensorLog := p.sensorLog.push row })) := by
  cases happly : p.actuators.apply p.diagnostics p.sim.tickCount.toNat commands with
  | error e =>
    rw [tick_of_apply_error happly] at h
    cases h
  | ok r =>
    obtain ⟨out, acts, d, aRow⟩ := r
    refine ⟨out, acts, d, aRow, rfl, ?_⟩
    rcases hstep : p.sim.step d out clock with ⟨answer, sim', d', sRow⟩
    refine ⟨answer, sim', d', sRow, rfl, ?_⟩
    cases answer with
    | error f =>
      rw [tick_of_step_error happly hstep, Except.ok.injEq, Prod.mk.injEq] at h
      exact .inl ⟨f, rfl, h.1.symm, h.2.symm⟩
    | ok values =>
      cases hsample : p.sensors.sample p.sim.tickCount.toNat values with
      | error e =>
        rw [tick_of_sample_error happly hstep hsample] at h
        cases h
      | ok r =>
        obtain ⟨r, sensors, row⟩ := r
        refine .inr ⟨values, r, sensors, row, rfl, hsample, ?_⟩
        cases r with
        | ok samples =>
          rw [tick_of_sampled happly hstep hsample, Except.ok.injEq, Prod.mk.injEq] at h
          exact .inl ⟨samples, rfl, h.1.symm, h.2.symm⟩
        | error f =>
          rw [tick_of_missing happly hstep hsample, Except.ok.injEq, Prod.mk.injEq] at h
          exact .inr ⟨f, rfl, h.1.symm, h.2.symm⟩

end Branches

/-- What a tick from `p` does, answering `res` and leaving `p'`, the sensors of `p` keeping the
table of the bank `b0`. -/
structure TickOutcome (b0 : SensorBank ς) (p : Plant σ ς α) (res : Except Fault (Option PropMap))
    (p' : Plant σ ς α) : Prop where
  /-- the tick count grows by one -/
  tickCount : p'.tickCount = p.tickCount + 1
  /-- the sensors keep the table -/
  sensors : b0.SameTable p'.sensors
  /-- the actuators' record is stamped with the tick count before the tick -/
  actuatorRow : ∃ row, p'.actuatorLog = p.actuatorLog.push row ∧
    row.fields.head? = some ("plant_seq", Binary64.ofInt p.tickCount.toNat)
  /-- so is the simulation's -/
  simRow : ∃ row, p'.simLog = p.simLog.push row ∧
    row.fields.head? = some ("tick", Binary64.ofInt p.tickCount.toNat)
  /-- a failed sanity check ends the tick with the failing values -/
  failed : (PlantState.failedChecks p'.sim.state).isEmpty = false →
    res = .error (.unrecoverableState (PlantState.failedChecks p'.sim.state))
  /-- otherwise the sensors' record is stamped with the tick count before the tick -/
  sensorRow : (PlantState.failedChecks p'.sim.state).isEmpty = true →
    ∃ row, p'.sensorLog = p.sensorLog.push row ∧
      row.fields.head? = some ("plant_seq", Binary64.ofInt p.tickCount.toNat)
  /-- with a sensed value for each property due, their samples, or none when none is due -/
  sampled : (PlantState.failedChecks p'.sim.state).isEmpty = true →
    (∀ q ∈ b0.due p.tickCount.toNat, q ∈ (PlantState.sensed p'.sim.state).keys) →
    ∃ samples, res = .ok (if (b0.due p.tickCount.toNat).isEmpty then none else some samples) ∧
      (∀ q, q ∈ samples.keys ↔ q ∈ b0.due p.tickCount.toNat) ∧
      p'.diagnostics.counts.missingProperties = p.diagnostics.counts.missingProperties
  /-- a property due without a sensed value gives no samples, and is counted once -/
  missing : (PlantState.failedChecks p'.sim.state).isEmpty = true →
    (∃ q ∈ b0.due p.tickCount.toNat, q ∉ (PlantState.sensed p'.sim.state).keys) →
    res = .ok none ∧
      p'.diagnostics.counts.missingProperties = p.diagnostics.counts.missingProperties + 1

/-- A tick that returns, from a plant whose sensors keep the table of a valid bank `b0`, does
what `TickOutcome` says. -/
theorem tick_outcome {b0 : SensorBank ς} (hv : b0.Valid) {p p' : Plant σ ς α}
    (hb : b0.SameTable p.sensors) {commands : PropMap} {clock : StepClock}
    {res : Except Fault (Option PropMap)} (h : p.tick commands clock = .ok (res, p')) :
    TickOutcome b0 p res p' := by
  obtain ⟨out, acts, d₁, aRow, happly, answer, sim', d₂, sRow, hstep, hcase⟩ := tick_eq_ok_cases h
  have hanswer := Simulation.step_answer p.sim d₁ out clock
  have hsRow := Simulation.step_record p.sim d₁ out clock
  have hd₂ := Simulation.step_missing p.sim d₁ out clock
  have htc := Simulation.step_tickCount p.sim d₁ out clock
  rw [hstep] at hanswer hsRow hd₂ htc
  dsimp only at hanswer hsRow hd₂ htc
  have haRow := ActuatorBank.apply_record happly
  have hd₁ := ActuatorBank.apply_missing happly
  rcases hcase with ⟨f, rfl, rfl, rfl⟩ | ⟨values, r, sensors, row, rfl, hsample, hres⟩
  · -- a failed check ends the tick after the step
    have hfail : (PlantState.failedChecks sim'.state).isEmpty = false := by
      cases hc : (PlantState.failedChecks sim'.state).isEmpty
      · rfl
      · simp [hc] at hanswer
    have hf : f = .unrecoverableState (PlantState.failedChecks sim'.state) := by
      simpa [hfail] using hanswer
    exact { tickCount := htc, sensors := hb, actuatorRow := ⟨aRow, rfl, haRow⟩,
            simRow := ⟨sRow, rfl, hsRow⟩, failed := fun _ => by rw [hf]; rfl,
            sensorRow := fun h => by simp [hfail] at h,
            sampled := fun h => by simp [hfail] at h,
            missing := fun h => by simp [hfail] at h }
  · -- the checks passed, and the sensed values were sampled at the tick count before the step
    have hpass : (PlantState.failedChecks sim'.state).isEmpty = true := by
      cases hc : (PlantState.failedChecks sim'.state).isEmpty
      · simp [hc] at hanswer
      · rfl
    have hvalues : values = PlantState.sensed sim'.state := by
      simpa [hpass] using hanswer
    subst hvalues
    obtain ⟨hsame, hrow, hall, hmiss⟩ := SensorBank.SameTable.sample_ok hv hb hsample
    rcases hres with ⟨samples, rfl, rfl, rfl⟩ | ⟨f, rfl, rfl, rfl⟩
    · have hnone : ¬∃ q ∈ b0.due p.tickCount.toNat, q ∉ (PlantState.sensed sim'.state).keys :=
        fun hm => by
          obtain ⟨q, hq⟩ := hmiss hm
          cases hq
      exact { tickCount := htc, sensors := hsame, actuatorRow := ⟨aRow, rfl, haRow⟩,
              simRow := ⟨sRow, rfl, hsRow⟩, failed := fun h => by simp [hpass] at h,
              sensorRow := fun _ => ⟨row, rfl, hrow⟩,
              sampled := fun _ hin => (hall hin).imp fun s h =>
                ⟨by rw [Except.ok.injEq] at h ⊢; exact h.1 ▸ rfl, h.2, hd₂.trans hd₁⟩,
              missing := fun _ hm => absurd hm hnone }
    · -- a missing property is counted and the tick answers no samples
      have hsent : ¬∀ q ∈ b0.due p.tickCount.toNat, q ∈ (PlantState.sensed sim'.state).keys :=
        fun hin => by
          obtain ⟨samples', hres, -⟩ := hall hin
          cases hres
      have hcount : (d₂.record .missingProperty).counts.missingProperties =
          p.diagnostics.counts.missingProperties + 1 := by
        show d₂.counts.missingProperties + 1 = _
        rw [hd₂, hd₁]
      exact { tickCount := htc, sensors := hsame, actuatorRow := ⟨aRow, rfl, haRow⟩,
              simRow := ⟨sRow, rfl, hsRow⟩, failed := fun h => by simp [hpass] at h,
              sensorRow := fun _ => ⟨row, rfl, hrow⟩,
              sampled := fun _ hin => absurd hin hsent,
              missing := fun _ _ => ⟨rfl, hcount⟩ }

/-! ## §4. Runs of ticks -/

omit [SensorImpl ς] [ActuatorImpl α] in
/-- The state's sensed values hold every sensor's property. -/
def SensesAll (p : Plant σ ς α) : Prop :=
  ∀ e ∈ p.sensors.sensors.entries, e.1 ∈ (PlantState.sensed p.sim.state).keys

/-- Ticks from `p0` that pass their sanity checks: `TickRun Q p0 outs p` says that they
answered the samples `outs`, in order, and left `p`, and that the plant after each satisfied
`Q`. -/
inductive TickRun (Q : Plant σ ς α → Prop) (p0 : Plant σ ς α) :
    List (Option PropMap) → Plant σ ς α → Prop
  | start : TickRun Q p0 [] p0
  | tick {outs : List (Option PropMap)} {p p' : Plant σ ς α} {r : Option PropMap}
      (commands : PropMap) (clock : StepClock) :
      TickRun Q p0 outs p → p.tick commands clock = .ok (.ok r, p') → Q p' →
        TickRun Q p0 (outs ++ [r]) p'

section Run

variable {Q : Plant σ ς α → Prop} {p0 : Plant σ ς α} (hv : p0.sensors.Valid)
include hv

/-- Along ticks from a plant with a valid sensor bank, the tick count grows by one per tick, as
a 64-bit count, and the sensors keep their table. -/
theorem TickRun.invariant {outs : List (Option PropMap)} {p : Plant σ ς α}
    (h : TickRun Q p0 outs p) :
    p.tickCount = p0.tickCount + UInt64.ofNat outs.length ∧ p0.sensors.SameTable p.sensors := by
  induction h with
  | start => exact ⟨by simp, .refl _⟩
  | tick commands clock _ htick _ ih =>
    obtain ⟨hcount, hsame⟩ := ih
    have hout := tick_outcome hv hsame htick
    refine ⟨?_, hout.sensors⟩
    rw [hout.tickCount, hcount, List.length_append, List.length_singleton, add_ofNat_succ]

/-- Along ticks from a plant at tick 0, the plant's tick count, read as a number, is the number
of ticks modulo `2 ^ 64`. -/
theorem TickRun.tickCount_toNat (h0 : p0.tickCount = 0) {outs : List (Option PropMap)}
    {p : Plant σ ς α} (h : TickRun Q p0 outs p) :
    p.tickCount.toNat = outs.length % UInt64.size := by
  rw [(h.invariant hv).1, h0, UInt64.zero_add, UInt64.toNat_ofNat']

/-- Over ticks from a plant at tick 0 whose states sense every sensor's property, the ticks
that answer samples are those that send, the tick index taken as a 64-bit count. -/
theorem TickRun.sends_count (h0 : p0.tickCount = 0) {outs : List (Option PropMap)}
    {p : Plant σ ς α} (h : TickRun SensesAll p0 outs p) :
    (outs.filter Option.isSome).length =
      Nat.count (fun k => p0.sensors.sendsAt (k % UInt64.size)) outs.length := by
  induction h with
  | start => rfl
  | tick commands clock hrun htick hsensed ih =>
    rename_i outs p p' r
    have hout := tick_outcome hv (hrun.invariant hv).2 htick
    have hk := hrun.tickCount_toNat hv h0
    -- the tick answered, so its checks passed
    have hpass : (PlantState.failedChecks p'.sim.state).isEmpty = true := by
      cases hc : (PlantState.failedChecks p'.sim.state).isEmpty
      · cases hout.failed hc
      · rfl
    -- every property due has a sensor, whose property the state senses
    have hsensed' : ∀ q ∈ p0.sensors.due p.tickCount.toNat,
        q ∈ (PlantState.sensed p'.sim.state).keys := by
      intro q hq
      obtain ⟨s, hs, -⟩ := SensorBank.mem_due.1 hq
      obtain ⟨s', hs'⟩ := Option.isSome_iff_exists.1
        ((hout.sensors.registered q).trans (by rw [hs]; rfl))
      exact hsensed (q, s') ((NameMap.get?_eq_some_iff _).1 hs')
    obtain ⟨samples, hr, -, -⟩ := hout.sampled hpass hsensed'
    rw [Except.ok.injEq] at hr
    rw [List.filter_append, List.length_append, ih, List.length_append, List.length_singleton,
      Nat.count_succ, hr, ← hk]
    cases hsend : (p0.sensors.due p.tickCount.toNat).isEmpty
    · simp [(SensorBank.due_isEmpty_eq_false_iff _ _).1 hsend]
    · have hnot : ¬p0.sensors.sendsAt p.tickCount.toNat := fun hs =>
        absurd ((SensorBank.due_isEmpty_eq_false_iff _ _).2 hs) (by simp [hsend])
      simp [hnot]

end Run

/-! ## §5. Built plants -/

omit [PlantState σ] in
/-- A built plant has a positive tick rate and has made no tick; its sensor bank is what the
registrations give. -/
theorem build_ok {P : Nat} {state : Option σ} {sensors : List ς} {actuators : List α}
    {d : Diagnostics} {p0 : Plant σ ς α} (h : build P state sensors actuators d = .ok p0) :
    0 < P ∧ p0.tickCount = 0 ∧
      sensors.foldlM SensorBank.register { plantFreq := P } = .ok p0.sensors := by
  unfold build at h
  by_cases hP : P = 0
  · -- a tick rate of zero is refused
    rw [if_pos hP] at h
    cases h
  · rw [if_neg hP] at h
    cases state with
    | none => cases h
    | some s =>
      cases hfold : sensors.foldlM SensorBank.register { plantFreq := P } with
      | error e =>
        rw [hfold] at h
        cases h
      | ok bank =>
        rw [hfold] at h
        cases h
        exact ⟨Nat.pos_of_ne_zero hP, rfl, rfl⟩

omit [PlantState σ] [SensorImpl ς] [ActuatorImpl α] in
/-- Among the first `N` ticks, those on which a sensor of a rate `f` fitting the tick rate `P`
fires, the multiples of its spacing `P / f`, number `⌈N * f / P⌉`. -/
theorem count_spacing_dvd {P f : Nat} (hf : SensorBank.RateFits P f) {N : Nat}
    {fires : Nat → Prop} [DecidablePred fires] (hfires : ∀ k < N, fires k ↔ P / f ∣ k) :
    (Nat.count fires N : ℤ) = ⌈(N * f : ℚ) / P⌉ := by
  obtain ⟨hpos, hle, hdiv⟩ := hf
  have hd : 0 < P / f := Nat.div_pos hle hpos
  have hmod : Nat.count fires N = Nat.count (· ≡ 0 [MOD P / f]) N := by
    simp only [Nat.count_eq_card_filter_range]
    exact congrArg Finset.card (Finset.filter_congr fun k hk =>
      (hfires k (Finset.mem_range.1 hk)).trans Nat.modEq_zero_iff_dvd.symm)
  have hcast : ((P / f : ℕ) : ℚ) = P / f :=
    Nat.cast_div (Nat.dvd_of_mod_eq_zero hdiv) (Nat.cast_ne_zero.2 (by omega))
  rw [hmod, Nat.count_modEq_card_eq_ceil _ hd 0, hcast, Nat.zero_mod, Nat.cast_zero, sub_zero]
  congr 1
  field_simp

/-- Ticks send exactly on the cycles the sensors' rates schedule. Take a plant built at tick
rate `P`, with sensors and actuators of any kinds, and any run of ticks from it that pass their
sanity checks. The next tick, the `k`-th with `k` the number of ticks so far, may stop the
program; when it returns, it has passed `k` as a 64-bit count to the actuators and to the
simulation, which stamp their records with it, and it leaves the tick count at `k + 1`. When
its checks pass it stamps the sensors' record with that index; if the state senses every
sensor's property, it answers samples exactly when some registered sensor's spacing `P / f`
divides the index, keyed by exactly those sensors, and none otherwise; and if a property due
then has no sensed value, it answers none and counts one missing property. So over ticks that
all sense every property, the ticks answering samples are counted by the ticks that send,
which for a single sensor of rate `f` is `⌈N * f / P⌉` of the first `N` while `N` fits the
count. -/
theorem ticks_follow_schedule {P : Nat} {state : Option σ} {sensors : List ς}
    {actuators : List α} {d : Diagnostics} {p0 : Plant σ ς α}
    (hbuild : build P state sensors actuators d = .ok p0) :
    (∀ outs p, TickRun (fun _ => True) p0 outs p → ∀ commands clock res p',
      p.tick commands clock = .ok (res, p') →
      p'.tickCount = UInt64.ofNat (outs.length + 1) ∧
      (∃ row, p'.actuatorLog = p.actuatorLog.push row ∧
        row.fields.head? = some ("plant_seq", Binary64.ofInt (outs.length % UInt64.size : Nat))) ∧
      (∃ row, p'.simLog = p.simLog.push row ∧
        row.fields.head? = some ("tick", Binary64.ofInt (outs.length % UInt64.size : Nat))) ∧
      ((PlantState.failedChecks p'.sim.state).isEmpty = true →
        (∃ row, p'.sensorLog = p.sensorLog.push row ∧
          row.fields.head? = some ("plant_seq", Binary64.ofInt (outs.length % UInt64.size : Nat))) ∧
        ((∀ e ∈ p0.sensors.sensors.entries, e.1 ∈ (PlantState.sensed p'.sim.state).keys) →
          ((∃ e ∈ p0.sensors.sensors.entries,
              P / SensorImpl.freq e.2 ∣ outs.length % UInt64.size) →
            ∃ samples, res = .ok (some samples) ∧ ∀ q, q ∈ samples.keys ↔
              ∃ e ∈ p0.sensors.sensors.entries, e.1 = q ∧
                P / SensorImpl.freq e.2 ∣ outs.length % UInt64.size) ∧
          ((¬∃ e ∈ p0.sensors.sensors.entries,
              P / SensorImpl.freq e.2 ∣ outs.length % UInt64.size) → res = .ok none)) ∧
        ((∃ e ∈ p0.sensors.sensors.entries,
            P / SensorImpl.freq e.2 ∣ outs.length % UInt64.size ∧
            e.1 ∉ (PlantState.sensed p'.sim.state).keys) →
          res = .ok none ∧ p'.diagnostics.counts.missingProperties =
            p.diagnostics.counts.missingProperties + 1))) ∧
    (∀ outs p, TickRun SensesAll p0 outs p → (outs.filter Option.isSome).length =
      Nat.count (fun k => ∃ e ∈ p0.sensors.sensors.entries,
        P / SensorImpl.freq e.2 ∣ k % UInt64.size) outs.length) ∧
    (∀ s, sensors = [s] → ∀ outs p, TickRun SensesAll p0 outs p → outs.length ≤ UInt64.size →
      ((outs.filter Option.isSome).length : ℤ) =
        ⌈(outs.length * SensorImpl.freq s : ℚ) / P⌉) := by
  obtain ⟨-, h0, hfold⟩ := build_ok hbuild
  obtain ⟨hv, hfreq⟩ := SensorBank.foldlM_register hfold
  subst hfreq
  refine ⟨fun outs p hrun commands clock res p' htick => ?_,
    fun outs p hrun => hrun.sends_count hv h0, fun s hs outs p hrun hN => ?_⟩
  · -- the tick returned, at the index the run reached
    obtain ⟨hcount, hsame⟩ := hrun.invariant hv
    have hout := tick_outcome hv hsame htick
    have hk := hrun.tickCount_toNat hv h0
    refine ⟨by rw [hout.tickCount, hcount, add_ofNat_succ, h0, UInt64.zero_add],
      by rw [← hk]; exact hout.actuatorRow, by rw [← hk]; exact hout.simRow,
      fun hpass => ⟨by rw [← hk]; exact hout.sensorRow hpass, fun hsensed => ?_,
        fun hmissing => ?_⟩⟩
    · -- every property due is sensed, so the tick samples the properties due
      have hall : ∀ q ∈ p0.sensors.due p.tickCount.toNat,
          q ∈ (PlantState.sensed p'.sim.state).keys := by
        intro q hq
        rw [SensorBank.mem_due_iff_dvd] at hq
        obtain ⟨e, he, rfl, -⟩ := hq
        exact hsensed e he
      obtain ⟨samples, hres, hkeys, -⟩ := hout.sampled hpass hall
      rw [hk] at hres hkeys
      refine ⟨fun hsend => ⟨samples, ?_, fun q => (hkeys q).trans SensorBank.mem_due_iff_dvd⟩,
        fun hsend => ?_⟩
      · rw [hres, (SensorBank.due_isEmpty_eq_false_iff _ _).2 hsend]
        rfl
      · have hempty : (p0.sensors.due (outs.length % UInt64.size)).isEmpty = true := by
          cases hb : (p0.sensors.due (outs.length % UInt64.size)).isEmpty
          · exact absurd ((SensorBank.due_isEmpty_eq_false_iff _ _).1 hb) hsend
          · rfl
        rw [hres, hempty]
        rfl
    · -- a property due without a sensed value
      obtain ⟨e, he, hdvd, hnot⟩ := hmissing
      refine hout.missing hpass ⟨e.1, ?_, hnot⟩
      rw [hk, SensorBank.mem_due_iff_dvd]
      exact ⟨e, he, rfl, hdvd⟩
  · -- a single sensor, registered alone, sends on the multiples of its spacing
    subst hs
    have hbank := SensorBank.eq_rebuild_of_register (b := { plantFreq := p0.sensors.plantFreq })
      (by simpa [List.foldlM_cons] using hfold)
    have hentries : p0.sensors.sensors.entries = [(SensorImpl.prop s, s)] := by
      rw [hbank]
      rfl
    rw [hrun.sends_count hv h0]
    refine count_spacing_dvd (hv.fits (SensorImpl.prop s, s) (by simp [hentries]))
      fun k hk => ?_
    rw [Nat.mod_eq_of_lt (Nat.lt_of_lt_of_le hk hN)]
    simp [SensorBank.sendsAt, hentries]

/-- The half-rate plant: tick rate 200, one exact sensor of rate 100 on `p`, and one constant
actuator on `u` holding 1.0, over a state that senses `p` and takes `u`. Over any run whose
states sense `p`, half of the ticks, rounded up, answer samples. -/
theorem ticks_follow_schedule_half_rate :
    let built : Except Fault (Plant FlowState Sensor Actuator) :=
      build 200 (some { layout := { roles := NameMap.ofList [("p", .sensed), ("u", .actuated)] },
                        values := NameMap.ofList [("p", .float ⟨0⟩), ("u", .float ⟨0⟩)],
                        flows := [] })
        [⟨"p", 100, .exact⟩] [Actuator.constant "u" (.float ⟨0x3ff0000000000000⟩)] {}
    ∃ p0, built = .ok p0 ∧ ∀ outs p, TickRun SensesAll p0 outs p → outs.length ≤ UInt64.size →
      ((outs.filter Option.isSome).length : ℤ) = ⌈(outs.length * 100 : ℚ) / 200⌉ := by
  intro built
  obtain ⟨p0, hbuild⟩ : ∃ p0, built = .ok p0 := ⟨_, rfl⟩
  refine ⟨p0, hbuild, fun outs p hrun hN => ?_⟩
  have hsends := (ticks_follow_schedule hbuild).2.2 _ rfl outs p hrun hN
  exact_mod_cast hsends

/-- The demonstration plant with infinite noise on its position sensor, at a tick rate and a
sensor rate of 10, stops the program at its first tick instead of answering samples: the noisy
sensor's draw has a range of infinite width. -/
theorem tick_panics_on_infinite_noise :
    ∃ p0, Spring.demoPlant 10 10 (1.0 / 0.0) {} = .ok p0 ∧ p0.tick {} {} = .error .nonFinite := by
  have hrun : ((Spring.demoPlant 10 10 (1.0 / 0.0) {}).toOption.map fun p0 =>
      (p0.tick {} {}).map fun _ => ()) = some (.error .nonFinite) := by
    decide +kernel
  obtain ⟨p0, hp0, htick⟩ := Option.map_eq_some_iff.1 hrun
  refine ⟨p0, ?_, ?_⟩
  · cases hb : Spring.demoPlant 10 10 (1.0 / 0.0) {} with
    | error e =>
      rw [hb] at hp0
      cases hp0
    | ok p =>
      rw [hb] at hp0
      cases hp0
      rfl
  · cases ht : p0.tick {} {} with
    | error e =>
      rw [ht] at htick
      cases htick
      rfl
    | ok r =>
      rw [ht] at htick
      cases htick

end Plant

end ControlLoop
