import ControlLoop.Proofs.TickSchedule

/-! # What one simulation step does

A step of a simulation over any plant state takes the actuator outputs, advances the state
once, and makes one record, whether or not its sanity checks then pass. This module states all
of it for states whose layout is fixed (setting a value and advancing keep it) and built from
declarations:

  * the inputs whose name the layout marks actuated are set, in byte order, and nothing else is
    (`applyInputs_eq`); every other input is counted once under its name and once in the total
    (`foldl_recordUnregistered_for`, `foldl_recordUnregistered_counts`);
  * the tick count grows by one;
  * the record is the tick count before the step, the simulated time, the time step and the time
    the step took, then in byte order each recorded name that has a value, with its value as a
    number, over the layout the step keeps (`step_layout`, `step_record_values`,
    `Layout.mem_recorded`);
  * the step fails exactly when some sanity check fails, naming each checked name whose value
    fails the check declared last for it (`build_checks`), and each checked name without a value
    with NaN (`failedChecks_get?`); otherwise it answers the sensed values.
-/

namespace ControlLoop

/-! ## §1. Maps and layouts -/

namespace NameMap

variable {α β : Type}

/-- Entries whose names strictly increase are rebuilt into the map that lists them. -/
theorem ofList_entries_of_ordered {l : List (String × α)} (h : Ordered l) :
    (ofList l).entries = l :=
  entries_foldl_insert l [] empty rfl h

/-- A name keeps, through `filterMap`, what `f` makes of its value. -/
theorem get?_filterMap (m : NameMap α) (f : String → α → Option β) (k : String) :
    (m.filterMap f).get? k = (m.get? k).bind (f k) := by
  apply Option.ext
  intro b
  rw [get?_eq_some_iff, Option.bind_eq_some_iff]
  simp only [filterMap, List.mem_filterMap, Option.map_eq_some_iff, Prod.mk.injEq,
    get?_eq_some_iff]
  constructor
  · rintro ⟨e, he, b', hb', rfl, rfl⟩
    exact ⟨e.2, he, hb'⟩
  · rintro ⟨a, ha, hb⟩
    exact ⟨(k, a), ha, b, hb, rfl, rfl⟩

end NameMap

namespace Layout

/-- The recorded names are in increasing byte order. -/
theorem recorded_sorted (l : Layout) : l.recorded.Pairwise (· < ·) :=
  List.pairwise_map.2 (l.roles.ordered.filter _)

/-- A name is recorded when it is declared with a role other than parameter and not marked
unrecorded. -/
theorem mem_recorded (l : Layout) {n : String} :
    n ∈ l.recorded ↔ ∃ r, l.roles.get? n = some r ∧ r ≠ .param ∧ l.unrecorded.get? n = none := by
  simp only [recorded, List.mem_map, List.mem_filter, Bool.and_eq_true, decide_eq_true_eq,
    Bool.not_eq_true', NameMap.contains, Option.isSome_eq_false_iff, Option.isNone_iff_eq_none]
  constructor
  · rintro ⟨e, ⟨he, hr, hu⟩, rfl⟩
    exact ⟨e.2, (NameMap.get?_eq_some_iff _).2 he, hr, hu⟩
  · rintro ⟨r, hr, hne, hu⟩
    exact ⟨(n, r), ⟨(NameMap.get?_eq_some_iff _).1 hr, hne, hu⟩, rfl⟩

/-- The check declared last for a name, if any. -/
def lastCheck (name : String) : List Decl → Option Check
  | [] => none
  | .checked n c :: ds => (lastCheck name ds).or (if n = name then some c else none)
  | _ :: ds => lastCheck name ds

/-- Filing checks one after another, when each check either fails or files itself and every
other declaration files nothing: a name has the check declared last for it, or the one it had. -/
theorem foldlM_checks {g : NameMap Check → Decl → Except Fault (NameMap Check)}
    (hchecked : ∀ m n c m', g m (.checked n c) = .ok m' → m' = m.insert n c)
    (hother : ∀ m d m', (∀ n c, d ≠ .checked n c) → g m d = .ok m' → m' = m) (name : String) :
    ∀ (decls : List Decl) (m m' : NameMap Check), decls.foldlM g m = .ok m' →
      m'.get? name = (lastCheck name decls).or (m.get? name)
  | [], m, m', h => by
    cases h
    rfl
  | d :: ds, m, m', h => by
    rw [List.foldlM_cons] at h
    cases hd : g m d with
    | error e =>
      rw [hd] at h
      cases h
    | ok m₁ =>
      rw [hd] at h
      rw [foldlM_checks hchecked hother name ds m₁ m' h]
      cases d with
      | checked n c =>
        -- the check files itself, and a later one for the same name wins
        rw [hchecked m n c m₁ hd, NameMap.get?_insert]
        by_cases hn : n = name
        · subst hn
          simp [lastCheck]
        · simp [lastCheck, hn, Ne.symm hn]
      | role n r =>
        rw [hother m _ m₁ (fun _ _ h => by cases h) hd]
        rfl
      | unrecorded n =>
        rw [hother m _ m₁ (fun _ _ h => by cases h) hd]
        rfl

/-- A layout built from declarations gives each name the check declared last for it. -/
theorem build_checks {decls : List Decl} {l : Layout} (h : build decls = .ok l) (name : String) :
    l.checks.get? name = lastCheck name decls := by
  simp only [build, bind, Except.bind] at h
  split at h
  · cases h
  · split at h
    · cases h
    · rename_i checks hchecks
      split at h
      · cases h
      · cases h
        -- filing a check asks only that its name is declared
        have hfold := foldlM_checks (fun m n c m' hg => ?_) (fun m d m' hd hg => ?_) name decls
          {} checks hchecks
        · simpa using hfold
        · simp only [pure, Except.pure] at hg
          split at hg
          · cases hg
          · cases hg
            rfl
        · cases d with
          | checked n c => exact absurd rfl (hd n c)
          | role n r => simpa [pure, Except.pure] using hg.symm
          | unrecorded n => simpa [pure, Except.pure] using hg.symm

end Layout

/-! ## §2. Counting unregistered inputs -/

namespace Diagnostics

/-- Counting a command for a name no actuator took adds one to that name's count only. -/
theorem recordUnregistered_for (d : Diagnostics) (p n : String) :
    (d.recordUnregistered p).unregisteredFor n =
      d.unregisteredFor n + if n = p then 1 else 0 := by
  simp only [recordUnregistered, unregisteredFor, NameMap.alter, NameMap.get?_insert]
  by_cases h : n = p
  · subst h
    simp
  · simp [h]

/-- Counting commands for names one after another adds to each name the times it occurs. -/
theorem foldl_recordUnregistered_for (names : List String) (d : Diagnostics) (n : String) :
    (names.foldl recordUnregistered d).unregisteredFor n =
      d.unregisteredFor n + UInt64.ofNat (names.count n) := by
  induction names generalizing d with
  | nil => simp
  | cons p names ih =>
    rw [List.foldl_cons, ih, recordUnregistered_for, List.count_cons]
    by_cases h : n = p
    · subst h
      simp [UInt64.ofNat_add, UInt64.add_assoc, UInt64.add_comm 1]
    · simp [h, Ne.symm h]

/-- Counting commands for names one after another adds their number to the total of
unregistered commands, and leaves every other counter as it was. -/
theorem foldl_recordUnregistered_counts (names : List String) (d : Diagnostics) (ev : Event) :
    (names.foldl recordUnregistered d).counts.get ev =
      d.counts.get ev + if ev = .unregisteredCommand then UInt64.ofNat names.length else 0 := by
  induction names generalizing d with
  | nil => simp
  | cons p names ih =>
    rw [List.foldl_cons, ih]
    show (d.counts.add .unregisteredCommand 1).get ev + _ = _
    rw [Counts.get_add]
    by_cases h : ev = .unregisteredCommand
    · simp [h, UInt64.ofNat_add, UInt64.add_assoc, UInt64.add_comm 1]
    · simp [h]

end Diagnostics

/-! ## §3. The step -/

namespace PlantState

variable {σ : Type} [PlantState σ]

/-- Names in increasing byte order paired with their values, skipping names without one, stay
in that order. -/
theorem valuePairs_sorted (s : σ) {names : List String} (h : names.Pairwise (· < ·)) :
    (names.filterMap fun n => (get? s n).map fun v => (n, v)).Pairwise fun a b => a.1 < b.1 := by
  refine h.filterMap _ fun a a' hlt b hb b' hb' => ?_
  simp only [Option.map_eq_some_iff] at hb hb'
  obtain ⟨_, _, rfl⟩ := hb
  obtain ⟨_, _, rfl⟩ := hb'
  exact hlt

/-- The values of names in increasing byte order are listed in that order, skipping names
without one. -/
theorem collect_entries (s : σ) {names : List String} (h : names.Pairwise (· < ·)) :
    (collect s names).entries = names.filterMap fun n => (get? s n).map fun v => (n, v) :=
  NameMap.ofList_entries_of_ordered (valuePairs_sorted s h)

/-- A recorded value, as a number, is the value of a name declared with a role other than
parameter and not marked unrecorded. -/
theorem mem_recordedValues (l : Layout) (s : σ) (n : String) (x : Float) :
    (n, x) ∈ (l.recorded.filterMap fun n => (get? s n).map fun v => (n, v)).map
        (fun e => (e.1, e.2.toFloat)) ↔
      ∃ role v, l.roles.get? n = some role ∧ role ≠ .param ∧ l.unrecorded.get? n = none ∧
        get? s n = some v ∧ x = v.toFloat := by
  simp only [List.mem_map, List.mem_filterMap, Option.map_eq_some_iff, Prod.mk.injEq,
    Layout.mem_recorded]
  constructor
  · rintro ⟨e, ⟨m, ⟨role, hrole, hne, hu⟩, v, hv, rfl⟩, rfl, rfl⟩
    exact ⟨role, v, hrole, hne, hu, hv, rfl⟩
  · rintro ⟨role, v, hrole, hne, hu, hv, rfl⟩
    exact ⟨(n, v), ⟨n, ⟨role, hrole, hne, hu⟩, v, hv, rfl⟩, rfl, rfl⟩

/-- The failed checks name each checked name whose value fails its check, with that value, and
each checked name without a value, with NaN. -/
theorem failedChecks_get? (s : σ) (n : String) (x : Value) :
    (failedChecks s).get? n = some x ↔ ∃ c, (layout s).checks.get? n = some c ∧
      (get? s n = some x ∧ c.passes x = false ∨ get? s n = none ∧ x = Value.ofFloat Binary64.nan) := by
  rw [failedChecks, NameMap.get?_filterMap, Option.bind_eq_some_iff]
  refine exists_congr fun c => and_congr_right fun _ => ?_
  cases hv : get? s n with
  | none =>
    simp only [Option.some.injEq, reduceCtorEq, false_and, true_and, false_or]
    exact eq_comm
  | some v =>
    by_cases hp : c.passes v
    · simp only [hp, if_true, reduceCtorEq, false_iff, not_or, not_and, Option.some.injEq]
      exact ⟨fun hvx => by rw [← hvx, hp]; decide, fun h => by cases h⟩
    · simp only [hp, Bool.false_eq_true, if_false, Option.some.injEq, reduceCtorEq, false_and,
        or_false]
      exact ⟨fun hvx => ⟨hvx, by rw [← hvx]; simpa using hp⟩, And.left⟩

end PlantState

namespace Simulation

variable {σ : Type} [PlantState σ]

/-- Taking inputs one after another, when setting a value keeps the layout: the inputs that the
layout marks actuated are set in order, and the names of the others are counted in order. -/
theorem applyInputs_eq
    (hset : ∀ (s : σ) n v, PlantState.layout (PlantState.set s n v) = PlantState.layout s)
    (s : σ) (d : Diagnostics) (inputs : PropMap) :
    applyInputs s d inputs =
      ((inputs.entries.filter fun e => (PlantState.layout s).isActuated e.1).foldl
          (fun s e => PlantState.set s e.1 e.2) s,
       (inputs.keys.filter fun n => !(PlantState.layout s).isActuated n).foldl
          Diagnostics.recordUnregistered d) := by
  unfold applyInputs NameMap.keys
  rw [List.filter_map, List.foldl_map]
  generalize inputs.entries = es
  induction es generalizing s d with
  | nil => rfl
  | cons e es ih =>
    simp only [List.foldl_cons]
    by_cases he : (PlantState.layout s).isActuated e.1 = true
    · -- an actuated input is set, and the layout stays
      rw [if_pos he, ih, hset]
      simp [he]
    · rw [if_neg he, ih]
      simp [he]

variable (sim : Simulation σ) (d : Diagnostics) (inputs : PropMap) (clock : StepClock)

/-- The state after a step is the state with its inputs applied, advanced once. -/
theorem step_state : (sim.step d inputs clock).2.1.state =
    PlantState.advance (applyInputs sim.state d inputs).1 clock.delta := rfl

/-- The diagnostics after a step are those of applying its inputs. -/
theorem step_diagnostics : (sim.step d inputs clock).2.2.1 = (applyInputs sim.state d inputs).2 :=
  rfl

/-- The record of a step: the tick count before it, the simulated time, the time step and the
time the step took, then the recorded values of the new state as numbers. -/
theorem step_record_fields : (sim.step d inputs clock).2.2.2.fields =
    [("tick", Binary64.ofInt sim.tickCount.toNat), ("sim_time", sim.simTime + clock.delta),
      ("delta_t", clock.delta), ("step_time", clock.took)] ++
    (PlantState.recorded (sim.step d inputs clock).2.1.state).entries.map
      fun e => (e.1, e.2.toFloat) := rfl

section Layout

variable (hset : ∀ (s : σ) n v, PlantState.layout (PlantState.set s n v) = PlantState.layout s)
include hset

/-- Setting values one after another keeps the layout, when each set does. -/
theorem layout_foldl_set (es : List (String × Value)) (s : σ) :
    PlantState.layout (es.foldl (fun s e => PlantState.set s e.1 e.2) s) = PlantState.layout s := by
  induction es generalizing s with
  | nil => rfl
  | cons e es ih => exact (ih _).trans (hset s e.1 e.2)

variable (hadvance : ∀ (s : σ) dt, PlantState.layout (PlantState.advance s dt) = PlantState.layout s)
include hadvance

/-- A step keeps the layout, when setting a value and advancing do. -/
theorem step_layout :
    PlantState.layout (sim.step d inputs clock).2.1.state = PlantState.layout sim.state := by
  rw [step_state, applyInputs_eq hset, hadvance, layout_foldl_set hset]

/-- After its four times, a step's record lists each recorded name of the layout that has a
value after the step, in the layout's order, with its value as a number. -/
theorem step_record_values : (sim.step d inputs clock).2.2.2.fields.drop 4 =
    ((PlantState.layout sim.state).recorded.filterMap fun n =>
      (PlantState.get? (sim.step d inputs clock).2.1.state n).map fun v => (n, v)).map
        fun e => (e.1, e.2.toFloat) := by
  rw [step_record_fields]
  -- past the four times come the recorded values, collected over the layout's recorded names
  show ((PlantState.collect (sim.step d inputs clock).2.1.state
    (PlantState.layout (sim.step d inputs clock).2.1.state).recorded).entries.map _) = _
  rw [step_layout sim d inputs clock hset hadvance,
    PlantState.collect_entries _ (PlantState.layout sim.state).recorded_sorted]

end Layout

/-- What a step from `sim` with inputs `inputs` does, over a state whose layout `l` is built
from the declarations `decls`, when it answers `answer` and leaves the simulation `sim'`, the
diagnostics `d'` and the record `row`. -/
structure StepOutcome (decls : List Decl) (answer : Except Fault PropMap) (sim' : Simulation σ)
    (d' : Diagnostics) (row : Record) : Prop where
  /-- the inputs that `l` marks actuated are set in byte order, and the state advances once -/
  state : sim'.state = PlantState.advance
    ((inputs.entries.filter fun e => (PlantState.layout sim.state).isActuated e.1).foldl
      (fun s e => PlantState.set s e.1 e.2) sim.state) clock.delta
  /-- every other input is counted once under its name -/
  unregisteredFor : ∀ n, d'.unregisteredFor n = d.unregisteredFor n +
    if n ∈ inputs.keys.filter (fun n => !(PlantState.layout sim.state).isActuated n) then 1 else 0
  /-- and once in the total of unregistered commands; no other counter moves -/
  counts : ∀ ev, d'.counts.get ev = d.counts.get ev + if ev = .unregisteredCommand then
    UInt64.ofNat (inputs.keys.filter fun n => !(PlantState.layout sim.state).isActuated n).length
    else 0
  /-- the tick count grows by one -/
  tickCount : sim'.tickCount = sim.tickCount + 1
  /-- the record starts with the tick count before the step and the three times -/
  recordHead : row.fields.take 4 = [("tick", Binary64.ofInt sim.tickCount.toNat),
    ("sim_time", sim.simTime + clock.delta), ("delta_t", clock.delta), ("step_time", clock.took)]
  /-- then lists names in increasing byte order -/
  recordSorted : (row.fields.drop 4).Pairwise fun a b => a.1 < b.1
  /-- namely each name declared with a role other than parameter and not marked unrecorded that
  has a value after the step, with its value as a number -/
  recordValues : ∀ n x, (n, x) ∈ row.fields.drop 4 ↔ ∃ role v,
    (PlantState.layout sim.state).roles.get? n = some role ∧ role ≠ .param ∧
    (PlantState.layout sim.state).unrecorded.get? n = none ∧
    PlantState.get? sim'.state n = some v ∧ x = v.toFloat
  /-- the failed checks name each name whose value fails the check declared last for it, with
  that value, and each checked name without a value, with NaN -/
  failedChecks : ∀ n x, (PlantState.failedChecks sim'.state).get? n = some x ↔
    ∃ c, Layout.lastCheck n decls = some c ∧
      (PlantState.get? sim'.state n = some x ∧ c.passes x = false ∨
        PlantState.get? sim'.state n = none ∧ x = Value.ofFloat Binary64.nan)
  /-- the step fails with the failed checks exactly when there are some -/
  fails : answer = .error (.unrecoverableState (PlantState.failedChecks sim'.state)) ↔
    (PlantState.failedChecks sim'.state).isEmpty = false
  /-- and otherwise answers the sensed values -/
  answers : (PlantState.failedChecks sim'.state).isEmpty = true →
    answer = .ok (PlantState.sensed sim'.state)

/-- A step over any state whose layout is built from the declarations `decls`, when setting a
value and advancing keep the layout, does all that `StepOutcome` lists, on the failing path as
well: it sets the actuated inputs in byte order, counts each other input once, advances the state
once, grows the tick count by one, makes one record of the tick count before it, the times and
the recorded values in byte order, and fails exactly when a check declared last for a name fails
on its value or finds none. -/
theorem step_contract (decls : List Decl)
    (hbuilt : Layout.build decls = .ok (PlantState.layout sim.state))
    (hset : ∀ (s : σ) n v, PlantState.layout (PlantState.set s n v) = PlantState.layout s)
    (hadvance : ∀ (s : σ) dt, PlantState.layout (PlantState.advance s dt) = PlantState.layout s) :
    let r := sim.step d inputs clock
    StepOutcome sim d inputs clock decls r.1 r.2.1 r.2.2.1 r.2.2.2 := by
  intro r
  let l := PlantState.layout sim.state
  let s' := r.2.1.state
  let F := PlantState.failedChecks s'
  have happly := applyInputs_eq hset sim.state d inputs
  have hanswer : r.1 = if F.isEmpty then .ok (PlantState.sensed s')
      else .error (.unrecoverableState F) :=
    step_answer sim d inputs clock
  have hlayout : PlantState.layout s' = l := step_layout sim d inputs clock hset hadvance
  have hnodup : (inputs.keys.filter fun n => !l.isActuated n).Nodup :=
    (List.pairwise_map.2 (inputs.ordered.imp String.ne_of_lt)).filter _
  have hfields := step_record_values sim d inputs clock hset hadvance
  refine ⟨?state, fun n => ?_, fun ev => ?_, rfl, rfl, ?sorted, fun n x => ?_, fun n x => ?_,
    ?fails, fun hempty => ?_⟩
  case state =>
    show (sim.step d inputs clock).2.1.state = _
    rw [step_state, happly]
  · show (sim.step d inputs clock).2.2.1.unregisteredFor n = _
    rw [step_diagnostics, happly, Diagnostics.foldl_recordUnregistered_for, hnodup.count]
    split <;> rfl
  · show (sim.step d inputs clock).2.2.1.counts.get ev = _
    rw [step_diagnostics, happly, Diagnostics.foldl_recordUnregistered_counts]
  case sorted =>
    -- the recorded names come in increasing byte order, and so do their values
    rw [hfields, List.pairwise_map]
    exact PlantState.valuePairs_sorted _ l.recorded_sorted
  · rw [hfields]
    exact PlantState.mem_recordedValues l _ n x
  · rw [PlantState.failedChecks_get?, hlayout, Layout.build_checks hbuilt]
  case fails =>
    show r.1 = .error (.unrecoverableState F) ↔ F.isEmpty = false
    rw [hanswer]
    cases F.isEmpty <;> simp
  · rw [hanswer, hempty, if_pos rfl]

/-- The drifting state of the simulation's own tests: `x` is sensed and checked to stay below 1
in magnitude, `v` is actuated, and advancing moves `x` by `v`. A step from `x = 0.75` with
inputs `v = 0.5` and `x = 0.5` sets `v`, counts `x` as unregistered, and fails its check. -/
theorem step_contract_drift :
    let decls := [Decl.role "x" .sensed, .role "v" .actuated, .checked "x" (.absBelow 1.0)]
    ∃ l, Layout.build decls = .ok l ∧
      (∀ (s : FlowState) n v, PlantState.layout (PlantState.set s n v) = PlantState.layout s) ∧
      (∀ (s : FlowState) dt, PlantState.layout (PlantState.advance s dt) = PlantState.layout s) ∧
      let st : FlowState :=
        { layout := l, flows := [("x", "v")],
          values := NameMap.ofList [("x", .float ⟨0x3FE8000000000000⟩), ("v", .float ⟨0⟩)] }
      let sim : Simulation FlowState := { state := st, tickRate := 100 }
      let inputs := NameMap.ofList [("v", .float ⟨0x3FE0000000000000⟩),
        ("x", .float ⟨0x3FE0000000000000⟩)]
      let r := sim.step {} inputs {}
      StepOutcome sim {} inputs {} decls r.1 r.2.1 r.2.2.1 r.2.2.2 := by
  intro decls
  obtain ⟨l, hl⟩ : ∃ l, Layout.build decls = .ok l := ⟨_, rfl⟩
  exact ⟨l, hl, fun _ _ _ => rfl, fun _ _ => rfl, step_contract _ _ _ _ decls hl
    (fun _ _ _ => rfl) (fun _ _ => rfl)⟩

end Simulation

end ControlLoop
