import ControlLoop.Plant.Sensors
import Mathlib.Data.Nat.Periodic
import Mathlib.Data.Int.CardIntervalMod

/-! # The trigger table of a sensor bank

A sensor bank answers "which properties are sampled on this cycle" by one lookup in its
trigger table, which every registration rebuilds from scratch. This module shows that the
table always says what the rule says: a cycle `c` schedules, in byte order, each registered
property whose spacing (the tick rate over the sensor's rate) divides `c`, for `c` below the
tick rate.

## The invariant

`Valid b` says that every sensor's rate fits the tick rate (`RateFits`: positive, at most the
tick rate, dividing it) and that each slot of the table lists `b.due c`, the properties due on
its cycle by the rule. A new bank is valid (`valid_new`), and a registration that succeeds keeps
it so (`Valid.register`): rebuilding appends each sensor's property to the slots of its cycles
(`getElem?_foldl_entries`), which are exactly the multiples of its spacing below the tick rate
(`mem_cyclesOf`), each once (`cyclesOf_nodup`).

## What follows

  * a property is scheduled on a cycle exactly when the rule says so (`Valid.mem_scheduled`),
    and the scheduled list is strictly increasing (`Valid.scheduled_sorted`);
  * the table read at the cycle of a tick lists the properties due at the tick itself
    (`Valid.scheduled_cycleOf`), since each spacing divides the tick rate;
  * over any run of as many ticks as the tick rate, a sensor fires as many times as its rate
    (`Valid.fire_count`);
  * after any run of registrations each property has the sensor of its last accepted
    registration (`registerEach_get?`), and together: `trigger_table_invariant`.
-/

namespace ControlLoop

namespace SensorBank

variable {ς : Type} [SensorImpl ς]

/-! ## §1. The rule and the invariant -/

/-- The properties due on cycle `c` by the rule: those registered whose spacing, the tick rate
over the sensor's rate, divides `c`; in byte order. -/
def due (b : SensorBank ς) (c : Nat) : List String :=
  (b.sensors.entries.filter fun e => c % (b.plantFreq / SensorImpl.freq e.2) = 0).map (·.1)

/-- A rate fits a tick rate when it is positive, at most the tick rate, and divides it. -/
def RateFits (plantFreq freq : Nat) : Prop := 1 ≤ freq ∧ freq ≤ plantFreq ∧ plantFreq % freq = 0

instance (plantFreq freq : Nat) : Decidable (RateFits plantFreq freq) :=
  inferInstanceAs (Decidable (_ ∧ _ ∧ _))

/-- What every bank reached by registrations satisfies: each sensor's rate fits the tick rate,
and the trigger table has a slot per cycle below the tick rate listing the properties due on
that cycle. -/
structure Valid (b : SensorBank ς) : Prop where
  fits : ∀ e ∈ b.sensors.entries, RateFits b.plantFreq (SensorImpl.freq e.2)
  slots : ∀ c, b.triggers[c]? = if c < b.plantFreq then some (b.due c) else none

/-! ## §2. Building the table -/

/-- The cycles of a sensor whose rate fits are those below the tick rate that its spacing
divides. -/
theorem mem_cyclesOf {b : SensorBank ς} {s : ς} (hs : RateFits b.plantFreq (SensorImpl.freq s))
    {c : Nat} : c ∈ b.cyclesOf s ↔ c < b.plantFreq ∧ c % (b.plantFreq / SensorImpl.freq s) = 0 := by
  obtain ⟨hpos, hle, -⟩ := hs
  have hd : 0 < b.plantFreq / SensorImpl.freq s := Nat.div_pos hle hpos
  simp only [cyclesOf, List.mem_range', Nat.zero_add]
  generalize b.plantFreq / SensorImpl.freq s = d at hd ⊢
  constructor
  · rintro ⟨i, hi, rfl⟩
    -- the last cycle is the largest multiple of the spacing below the tick rate
    have hmul : (i + 1) * d ≤ b.plantFreq + d - 1 := (Nat.le_div_iff_mul_le hd).1 hi
    rw [Nat.succ_mul, Nat.mul_comm] at hmul
    exact ⟨by omega, Nat.mul_mod_right d i⟩
  · rintro ⟨hc, hmod⟩
    refine ⟨c / d, (Nat.le_div_iff_mul_le hd).2 ?_,
      (Nat.mul_div_cancel' (Nat.dvd_of_mod_eq_zero hmod)).symm⟩
    have hc' : c / d * d = c := Nat.div_mul_cancel (Nat.dvd_of_mod_eq_zero hmod)
    rw [Nat.succ_mul, hc']
    omega

/-- The cycles of a sensor are distinct. -/
theorem cyclesOf_nodup (b : SensorBank ς) (s : ς) : (b.cyclesOf s).Nodup := by
  simp only [cyclesOf]
  generalize b.plantFreq / SensorImpl.freq s = d
  rcases Nat.eq_zero_or_pos d with rfl | hd
  · simp
  · exact List.nodup_range' d hd

/-- Adding a property at the end of the slots of distinct cycles adds it once to each of
those slots and leaves the others as they were. -/
theorem getElem?_foldl_modify {cs : List Nat} (hcs : cs.Nodup) (x : String)
    (t : Array (List String)) (j : Nat) :
    (cs.foldl (fun t c => t.modify c (· ++ [x])) t)[j]? =
      t[j]?.map fun l => if j ∈ cs then l ++ [x] else l := by
  induction cs generalizing t with
  | nil => simp
  | cons c cs ih =>
    rw [List.nodup_cons] at hcs
    rw [List.foldl_cons, ih hcs.2, Array.getElem?_modify]
    by_cases hj : c = j
    · subst hj
      simp [hcs.1, Function.comp_def]
    · simp [hj, Ne.symm hj]

/-- Filing sensors one by one appends to each slot the properties of those that fire on its
cycle, in the order they are filed. -/
theorem getElem?_foldl_entries (b : SensorBank ς) (es : List (String × ς))
    (t : Array (List String)) (j : Nat) :
    (es.foldl (fun t e => (b.cyclesOf e.2).foldl (fun t c => t.modify c (· ++ [e.1])) t) t)[j]? =
      t[j]?.map fun l => l ++ (es.filter fun e => j ∈ b.cyclesOf e.2).map (·.1) := by
  induction es generalizing t with
  | nil => simp
  | cons e es ih =>
    rw [List.foldl_cons, ih, getElem?_foldl_modify (cyclesOf_nodup b e.2)]
    by_cases hj : j ∈ b.cyclesOf e.2 <;> simp [hj, Function.comp_def]

/-- A rebuilt slot lists, in byte order, the properties whose sensor fires on its cycle;
the table keeps its slots. -/
theorem rebuild_triggers (b : SensorBank ς) (j : Nat) :
    b.rebuild.triggers[j]? = b.triggers[j]?.map fun _ =>
      (b.sensors.entries.filter fun e => j ∈ b.cyclesOf e.2).map (·.1) := by
  simp [rebuild, getElem?_foldl_entries, Function.comp_def]

/-! ## §3. Registration keeps the invariant -/

/-- Registering either refuses a rate that does not fit, or files the sensor under its
property and rebuilds the table. -/
theorem register_eq (b : SensorBank ς) (s : ς) :
    b.register s = if RateFits b.plantFreq (SensorImpl.freq s)
      then .ok { b with sensors := b.sensors.insert (SensorImpl.prop s) s }.rebuild
      else .error (.incompatibleFrequency (SensorImpl.prop s) (SensorImpl.freq s) b.plantFreq) := by
  unfold register
  by_cases h : RateFits b.plantFreq (SensorImpl.freq s)
  · have hok : ¬(SensorImpl.freq s = 0 ∨ SensorImpl.freq s > b.plantFreq ∨
        b.plantFreq % SensorImpl.freq s ≠ 0) := by
      unfold RateFits at h
      omega
    rw [if_neg hok, if_pos h]
  · have hbad : SensorImpl.freq s = 0 ∨ SensorImpl.freq s > b.plantFreq ∨
        b.plantFreq % SensorImpl.freq s ≠ 0 := by
      unfold RateFits at h
      omega
    rw [if_pos hbad, if_neg h]

/-- A registration that succeeds adds the sensor and rebuilds the table. -/
theorem eq_rebuild_of_register {b b' : SensorBank ς} {s : ς} (hr : b.register s = .ok b') :
    b' = { b with sensors := b.sensors.insert (SensorImpl.prop s) s }.rebuild := by
  rw [register_eq] at hr
  split at hr
  · cases hr
    rfl
  · cases hr

@[simp] theorem rebuild_plantFreq (b : SensorBank ς) : b.rebuild.plantFreq = b.plantFreq := rfl

@[simp] theorem rebuild_sensors (b : SensorBank ς) : b.rebuild.sensors = b.sensors := rfl

/-- A new bank is valid: no sensor, and an empty slot for each cycle. -/
theorem valid_new (plantFreq : Nat) : ({ plantFreq } : SensorBank ς).Valid where
  fits e he := by simp at he
  slots c := by simp [due, Array.getElem?_replicate]

/-- A registration that succeeds keeps the bank valid: the new sensor fits, and the rebuilt
table lists for each cycle exactly the properties due on it. -/
theorem Valid.register {b b' : SensorBank ς} {s : ς} (h : b.Valid)
    (hr : b.register s = .ok b') : b'.Valid := by
  rw [register_eq] at hr
  split at hr
  · rename_i hfit
    cases hr
    have hfits : ∀ e ∈ (b.sensors.insert (SensorImpl.prop s) s).entries,
        RateFits b.plantFreq (SensorImpl.freq e.2) := by
      intro e he
      rcases NameMap.mem_insertEntry he with rfl | he
      · exact hfit
      · exact h.fits e he
    refine ⟨hfits, fun c => ?_⟩
    rw [rebuild_triggers, h.slots c, rebuild_plantFreq]
    by_cases hc : c < b.plantFreq
    · -- below the tick rate, firing on `c` is the spacing dividing `c`
      simp only [hc, if_true, Option.map_some, due, rebuild_sensors, Option.some.injEq]
      congr 1
      exact List.filter_congr fun e he => decide_eq_decide.2
        ((mem_cyclesOf (b := { b with sensors := b.sensors.insert (SensorImpl.prop s) s })
          (hfits e he)).trans
          ⟨And.right, fun hmod => ⟨hc, hmod⟩⟩)
    · simp [hc]
  · cases hr

/-! ## §4. Reading the table -/

/-- In a valid bank a cycle below the tick rate schedules the properties due on it, and any
other cycle schedules none. -/
theorem Valid.scheduled_eq {b : SensorBank ς} (h : b.Valid) (c : Nat) :
    b.scheduled c = if c < b.plantFreq then b.due c else [] := by
  unfold scheduled
  rw [h.slots c]
  split <;> rfl

/-- A property is due on a cycle when it has a sensor whose spacing divides the cycle. -/
theorem mem_due {b : SensorBank ς} {c : Nat} {p : String} :
    p ∈ b.due c ↔
      ∃ s, b.sensors.get? p = some s ∧ c % (b.plantFreq / SensorImpl.freq s) = 0 := by
  simp only [due, List.mem_map, List.mem_filter, decide_eq_true_eq, NameMap.get?_eq_some_iff]
  constructor
  · rintro ⟨⟨k, s⟩, ⟨hmem, hmod⟩, rfl⟩
    exact ⟨s, hmem, hmod⟩
  · rintro ⟨s, hmem, hmod⟩
    exact ⟨(p, s), ⟨hmem, hmod⟩, rfl⟩

/-- A property is due at a tick exactly when its sensor's spacing divides the tick. -/
theorem mem_due_iff_dvd {b : SensorBank ς} {k : Nat} {q : String} :
    q ∈ b.due k ↔ ∃ e ∈ b.sensors.entries, e.1 = q ∧ b.plantFreq / SensorImpl.freq e.2 ∣ k := by
  simp only [due, List.mem_map, List.mem_filter, decide_eq_true_eq, Nat.dvd_iff_mod_eq_zero]
  constructor
  · rintro ⟨e, ⟨he, hmod⟩, rfl⟩
    exact ⟨e, he, rfl, hmod⟩
  · rintro ⟨e, he, rfl, hmod⟩
    exact ⟨e, ⟨he, hmod⟩, rfl⟩

/-- A property is scheduled on a cycle exactly when it has a sensor, the cycle is below the
tick rate, and the sensor's spacing divides the cycle. -/
theorem Valid.mem_scheduled {b : SensorBank ς} (h : b.Valid) {c : Nat} {p : String} :
    p ∈ b.scheduled c ↔ ∃ s, b.sensors.get? p = some s ∧ c < b.plantFreq ∧
      c % (b.plantFreq / SensorImpl.freq s) = 0 := by
  rw [h.scheduled_eq c]
  by_cases hc : c < b.plantFreq
  · simp only [hc, if_true, mem_due, true_and]
  · simp [hc]

/-- A registered sensor's spacing divides the tick rate. -/
theorem Valid.spacing_dvd {b : SensorBank ς} (h : b.Valid) {e : String × ς}
    (he : e ∈ b.sensors.entries) : b.plantFreq / SensorImpl.freq e.2 ∣ b.plantFreq :=
  Nat.div_dvd_of_dvd (Nat.dvd_of_mod_eq_zero (h.fits e he).2.2)

/-- The table read at the cycle of a tick lists the properties due at the tick itself: a
spacing divides the tick rate, so it divides the cycle exactly when it divides the tick. -/
theorem Valid.scheduled_cycleOf {b : SensorBank ς} (h : b.Valid) (k : Nat) :
    b.scheduled (b.cycleOf k) = b.due k := by
  by_cases hP : b.plantFreq = 0
  · -- no rate fits a tick rate of zero, so no sensor is registered
    have hnil : b.sensors.entries = [] := List.eq_nil_iff_forall_not_mem.2 fun e he => by
      have hfits := h.fits e he
      simp only [RateFits, hP] at hfits
      omega
    simp [cycleOf, hP, h.scheduled_eq, due, hnil]
  · have hcycle : b.cycleOf k = k % b.plantFreq := if_neg hP
    rw [h.scheduled_eq, hcycle, if_pos (Nat.mod_lt _ (Nat.pos_of_ne_zero hP))]
    unfold due
    congr 1
    apply List.filter_congr
    intro e he
    rw [Nat.mod_mod_of_dvd _ (h.spacing_dvd he)]

/-- The properties scheduled on a cycle are in strictly increasing byte order, so none is
listed twice. -/
theorem Valid.scheduled_sorted {b : SensorBank ς} (h : b.Valid) (c : Nat) :
    (b.scheduled c).Pairwise (· < ·) := by
  rw [h.scheduled_eq c]
  split
  · exact List.pairwise_map.2 (b.sensors.ordered.filter _)
  · exact List.Pairwise.nil

/-- Over any run of as many consecutive ticks as the tick rate, a sensor fires as many times
as its rate. -/
theorem Valid.fire_count {b : SensorBank ς} (h : b.Valid) {p : String} {s : ς}
    (hs : b.sensors.get? p = some s) (t0 : Nat) :
    ((Finset.Ico t0 (t0 + b.plantFreq)).filter fun k => p ∈ b.scheduled (b.cycleOf k)).card =
      SensorImpl.freq s := by
  have hmem := (NameMap.get?_eq_some_iff _).1 hs
  obtain ⟨hpos, hle, hdvd⟩ := h.fits (p, s) hmem
  have hP : b.plantFreq ≠ 0 := by omega
  have hd : 0 < b.plantFreq / SensorImpl.freq s := Nat.div_pos hle hpos
  have hspacing : b.plantFreq / SensorImpl.freq s ∣ b.plantFreq := h.spacing_dvd hmem
  have hfires : ∀ k, p ∈ b.scheduled (b.cycleOf k) ↔
      k ≡ 0 [MOD b.plantFreq / SensorImpl.freq s] := by
    intro k
    rw [h.scheduled_cycleOf, mem_due, Nat.ModEq, Nat.zero_mod]
    constructor
    · rintro ⟨s', hs', hmod⟩
      rw [hs] at hs'
      cases hs'
      exact hmod
    · intro hmod
      exact ⟨s, hs, hmod⟩
  -- the ticks a sensor fires on repeat with the tick rate, which its spacing divides
  have hperiodic :
      Function.Periodic (fun k => k ≡ 0 [MOD b.plantFreq / SensorImpl.freq s]) b.plantFreq := by
    intro k
    simp only [Nat.ModEq]
    rw [Nat.add_mod, Nat.mod_eq_zero_of_dvd hspacing, Nat.add_zero, Nat.mod_mod]
  simp only [hfires]
  rw [Nat.filter_Ico_card_eq_of_periodic t0 b.plantFreq _ hperiodic, Nat.count_modEq_card _ hd,
    Nat.div_div_self (Nat.dvd_of_mod_eq_zero hdvd) hP, Nat.mod_eq_zero_of_dvd hspacing]
  simp

/-! ## Runs of registrations -/

/-- Registers sensors one after another, going on after a refused one: a refused
registration leaves the bank as it was. -/
def registerEach (b : SensorBank ς) (ss : List ς) : SensorBank ς :=
  ss.foldl (fun b s => match b.register s with | .ok b' => b' | .error _ => b) b

/-- The last sensor of a list on property `p` whose rate fits the tick rate. -/
def lastFitting (plantFreq : Nat) (ss : List ς) (p : String) : Option ς :=
  (ss.filter fun s => SensorImpl.prop s = p ∧ RateFits plantFreq (SensorImpl.freq s)).getLast?

/-- One more registration at the end of a run. -/
theorem registerEach_append_singleton (b : SensorBank ς) (ss : List ς) (s : ς) :
    registerEach b (ss ++ [s]) =
      match (registerEach b ss).register s with | .ok b' => b' | .error _ => registerEach b ss := by
  simp [registerEach, List.foldl_append]

/-- Registrations keep the tick rate. -/
@[simp] theorem registerEach_plantFreq (b : SensorBank ς) (ss : List ς) :
    (registerEach b ss).plantFreq = b.plantFreq := by
  induction ss using List.reverseRecOn with
  | nil => rfl
  | append_singleton ss s ih =>
    rw [registerEach_append_singleton, register_eq]
    split_ifs <;> simpa using ih

/-- Registrations keep a bank valid. -/
theorem Valid.registerEach {b : SensorBank ς} (h : b.Valid) (ss : List ς) :
    (b.registerEach ss).Valid := by
  induction ss using List.reverseRecOn with
  | nil => exact h
  | append_singleton ss s ih =>
    rw [registerEach_append_singleton]
    split
    · rename_i b' hr
      exact ih.register hr
    · exact ih

/-- After a run of registrations each property has the sensor of its last registration whose
rate fits, or the one it had before if there is none. -/
theorem registerEach_get? (b : SensorBank ς) (ss : List ς) (p : String) :
    (registerEach b ss).sensors.get? p = (lastFitting b.plantFreq ss p).or (b.sensors.get? p) := by
  induction ss using List.reverseRecOn with
  | nil => simp [registerEach, lastFitting]
  | append_singleton ss s ih =>
    rw [registerEach_append_singleton, register_eq, registerEach_plantFreq]
    by_cases hfit : RateFits b.plantFreq (SensorImpl.freq s)
    · -- an accepted sensor replaces the one on its property
      by_cases hp : p = SensorImpl.prop s
      · subst hp
        simp [hfit, NameMap.get?_insert, lastFitting]
      · simp [hfit, NameMap.get?_insert, hp, ih, lastFitting, Ne.symm hp]
    · -- a refused one changes nothing
      simp [hfit, ih, lastFitting]

/-- The sensor bank after any run of registrations on a new bank ticking at `P`. A
registration succeeds exactly when its rate `f` has `1 ≤ f ≤ P` and divides `P`; a refused one
answers that the rate is incompatible and leaves the bank as it was. Each cycle schedules, in
strictly increasing byte order, the properties whose last accepted sensor has a spacing `P / f`
dividing the cycle, the cycle being below `P`; so over any `P` consecutive ticks each of them
fires as many times as its rate. -/
theorem trigger_table_invariant {ς : Type} [SensorImpl ς] (P : Nat) (ss : List ς) :
    let b := registerEach ({ plantFreq := P } : SensorBank ς) ss
    (∀ s : ς, (∃ b', b.register s = .ok b') ↔
      1 ≤ SensorImpl.freq s ∧ SensorImpl.freq s ≤ P ∧ P % SensorImpl.freq s = 0) ∧
    (∀ s : ς, ¬(1 ≤ SensorImpl.freq s ∧ SensorImpl.freq s ≤ P ∧ P % SensorImpl.freq s = 0) →
      b.register s = .error (.incompatibleFrequency (SensorImpl.prop s) (SensorImpl.freq s) P) ∧
      registerEach { plantFreq := P } (ss ++ [s]) = b) ∧
    (∀ c p, p ∈ b.scheduled c ↔
      ∃ s, lastFitting P ss p = some s ∧ c < P ∧ c % (P / SensorImpl.freq s) = 0) ∧
    (∀ c, (b.scheduled c).Pairwise (· < ·)) ∧
    (∀ p s, lastFitting P ss p = some s → ∀ t0,
      ((Finset.Ico t0 (t0 + P)).filter fun k => p ∈ b.scheduled (b.cycleOf k)).card =
        SensorImpl.freq s) := by
  intro b
  have hvalid : b.Valid := (valid_new P).registerEach ss
  have hP : b.plantFreq = P := registerEach_plantFreq _ ss
  have hget : ∀ p, b.sensors.get? p = lastFitting P ss p := fun p => by
    simp [b, registerEach_get?]
  refine ⟨fun s => ?_, fun s hs => ?_, fun c p => ?_, hvalid.scheduled_sorted, fun p s hs t0 => ?_⟩
  · rw [register_eq, hP]
    by_cases hfit : RateFits P (SensorImpl.freq s)
    · exact ⟨fun _ => hfit, fun _ => ⟨_, if_pos hfit⟩⟩
    · refine ⟨fun ⟨b', hb'⟩ => ?_, fun h => absurd h hfit⟩
      rw [if_neg hfit] at hb'
      cases hb'
  · have hfit : ¬RateFits P (SensorImpl.freq s) := hs
    refine ⟨by rw [register_eq, hP, if_neg hfit], ?_⟩
    rw [registerEach_append_singleton, register_eq, registerEach_plantFreq, if_neg hfit]
  · simp only [hvalid.mem_scheduled, hget, hP]
  · rw [← hget] at hs
    have := hvalid.fire_count hs t0
    rwa [hP] at this

/-- The replacement the bank's own test makes, at a tick rate of 10: a sensor on `p` at rate 10,
then one at rate 2. The second wins: `p` is due on cycle 5 but not on cycle 1, and fires twice
in every ten ticks. -/
theorem trigger_table_replacement :
    let b := registerEach ({ plantFreq := 10 } : SensorBank Sensor)
      [⟨"p", 10, .exact⟩, ⟨"p", 2, .exact⟩]
    "p" ∈ b.scheduled 5 ∧ "p" ∉ b.scheduled 1 ∧
      ∀ t0, ((Finset.Ico t0 (t0 + 10)).filter fun k => "p" ∈ b.scheduled (b.cycleOf k)).card = 2 := by
  obtain ⟨-, -, hmem, -, hcount⟩ :=
    trigger_table_invariant (ς := Sensor) 10 [⟨"p", 10, .exact⟩, ⟨"p", 2, .exact⟩]
  have hlast : lastFitting 10 [(⟨"p", 10, .exact⟩ : Sensor), ⟨"p", 2, .exact⟩] "p" =
      some ⟨"p", 2, .exact⟩ := by
    rfl
  refine ⟨(hmem 5 "p").2 ⟨_, hlast, by decide, by decide⟩, fun h => ?_, hcount "p" _ hlast⟩
  obtain ⟨s, hs, -, hmod⟩ := (hmem 1 "p").1 h
  rw [hlast, Option.some.injEq] at hs
  subst hs
  exact absurd hmod (by decide)

end SensorBank

end ControlLoop
