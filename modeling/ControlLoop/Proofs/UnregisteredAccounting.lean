import ControlLoop.Proofs.ActuatorRun
import ControlLoop.Proofs.LoopTermination
import Mathlib.Algebra.BigOperators.Finprod

/-! # Commands no actuator takes, over a run of ticks

Two parts of a tick count names as unregistered, one after the other: the actuator bank counts
each command for a property without an actuator, in byte order, and the simulation then counts
each actuator output whose property the layout does not mark actuated, in byte order
(`Plant.unregisteredNames`). A name is counted by at most one of the two, since the first
counts only names without an actuator and the second only names with one.

## One tick

A tick that returns, whatever it answers, leaves the counters that counting those names one
after another gives, with perhaps one missing property counted on top
(`Plant.tick_diagnostics`). It sets each actuated property that has an actuator to that
actuator's output, keeps the properties with actuators (`Plant.tick_actuators_isSome`), and,
when setting a value and advancing keep the layout, keeps the layout (`Plant.tick_layout`).

## Runs

`Plant.Ticks p cs p'` says that ticks from `p` with the command maps `cs` all returned, leaving
`p'`. Over such a run a name is counted once per tick whose commands name it when it has no
actuator, on every tick when it has an actuator that the layout does not mark actuated, and
never otherwise (`Plant.unregisteredCount`), and the total grows by the sum of those counts over
all names (`Plant.unregistered_accounting`).
-/

namespace ControlLoop

namespace Diagnostics

/-- Counting a missing property leaves the per-name counts. -/
@[simp] theorem record_missing_unregisteredFor (d : Diagnostics) (n : String) :
    (d.record .missingProperty).unregisteredFor n = d.unregisteredFor n := rfl

/-- Counting a missing property leaves the total of unregistered commands. -/
@[simp] theorem record_missing_unregistered (d : Diagnostics) :
    (d.record .missingProperty).counts.get .unregisteredCommand =
      d.counts.get .unregisteredCommand := by
  simp

end Diagnostics

namespace NameMap

/-- Two maps with the same names list them in the same order. -/
theorem keys_eq_of_isSome {α β : Type} {m : NameMap α} {m' : NameMap β}
    (h : ∀ k, (m.get? k).isSome = (m'.get? k).isSome) : m.keys = m'.keys := by
  refine m.keys_sorted.eq_of_mem_iff m'.keys_sorted fun k => ?_
  rw [mem_keys, mem_keys, ← Option.isSome_iff_exists, ← Option.isSome_iff_exists, h]

end NameMap

namespace Plant

variable {α : Type}

/-! ## §1. The names a tick counts -/

/-- The names a tick counts as unregistered, in the order it counts them: the commands for
properties without an actuator, then the properties with an actuator that the layout does not
mark actuated. -/
def unregisteredNames (b : ActuatorBank α) (l : Layout) (c : PropMap) : List String :=
  c.keys.filter (fun n => (b.actuators.get? n).isNone) ++
    b.properties.filter (fun n => !l.isActuated n)

/-- How often ticks with the command maps `cs` count `n`: once per map that commands `n` when
`n` has no actuator, on every tick when `n` has an actuator that the layout does not mark
actuated, and never otherwise. -/
def unregisteredCount (b : ActuatorBank α) (l : Layout) (cs : List PropMap) (n : String) : Nat :=
  if (b.actuators.get? n).isNone then cs.countP fun c => n ∈ c.keys
  else if l.isActuated n then 0 else cs.length

/-- Banks with actuators on the same properties count the same names. -/
theorem unregisteredNames_congr {b b' : ActuatorBank α}
    (h : ∀ n, (b'.actuators.get? n).isSome = (b.actuators.get? n).isSome) (l : Layout) :
    unregisteredNames b' l = unregisteredNames b l := by
  have hnone : ∀ n, (b'.actuators.get? n).isNone = (b.actuators.get? n).isNone := fun n => by
    rw [← Option.not_isSome, ← Option.not_isSome, h]
  funext c
  simp only [unregisteredNames, ActuatorBank.properties, hnone, NameMap.keys_eq_of_isSome h]

/-- A tick counts a name at most once: as a command without an actuator, or as an actuator the
layout does not mark actuated. -/
theorem count_unregisteredNames (b : ActuatorBank α) (l : Layout) (c : PropMap) (n : String) :
    (unregisteredNames b l c).count n = unregisteredCount b l [c] n := by
  have hkeys : c.keys.Nodup := (List.pairwise_map.2 c.ordered).nodup
  have hprops : b.properties.Nodup := (List.pairwise_map.2 b.actuators.ordered).nodup
  have hmem : n ∈ b.properties ↔ (b.actuators.get? n).isSome := by
    rw [ActuatorBank.properties, NameMap.mem_keys, Option.isSome_iff_exists]
  rw [unregisteredNames, List.count_append, (hkeys.filter _).count, (hprops.filter _).count]
  simp only [List.mem_filter, hmem, unregisteredCount, List.countP_singleton,
    List.length_singleton, Bool.not_eq_true']
  cases ha : b.actuators.get? n with
  | none => simp
  | some a => by_cases hact : l.isActuated n <;> simp [hact]

theorem unregisteredCount_cons (b : ActuatorBank α) (l : Layout) (c : PropMap) (cs : List PropMap)
    (n : String) :
    unregisteredCount b l (c :: cs) n = unregisteredCount b l [c] n + unregisteredCount b l cs n := by
  unfold unregisteredCount
  split
  · rw [List.countP_cons, List.countP_singleton]
    omega
  · split <;> simp [Nat.add_comm]

/-- Over ticks with the command maps `cs`, the names counted are counted as
`unregisteredCount` says. -/
theorem count_flatMap_unregisteredNames (b : ActuatorBank α) (l : Layout) (cs : List PropMap)
    (n : String) : (cs.flatMap (unregisteredNames b l)).count n = unregisteredCount b l cs n := by
  induction cs with
  | nil => simp [unregisteredCount]
  | cons c cs ih =>
    rw [List.flatMap_cons, List.count_append, ih, count_unregisteredNames]
    exact (unregisteredCount_cons b l c cs n).symm

/-! ## §2. One tick -/

variable {σ ς : Type} [PlantState σ] [SensorImpl ς] [ActuatorImpl α]

/-- A tick that returned took the commands into a bank `b₁` with actuators on the same
properties, stepped the simulation with `b₁`'s outputs, and left the step's simulation and
counters, with perhaps one missing property counted on top. -/
theorem tick_cases {p p' : Plant σ ς α} {c : PropMap} {clock : StepClock}
    {res : Except Fault (Option PropMap)} (h : p.tick c clock = .ok (res, p')) :
    ∃ b₁ d₁, c.entries.foldlM ActuatorBank.command (p.actuators, p.diagnostics) = .ok (b₁, d₁) ∧
      p'.actuators.actuators = (b₁.actuators.map fun a => (ActuatorImpl.output a).2) ∧
      let outcome := p.sim.step d₁ (b₁.actuators.map fun a => (ActuatorImpl.output a).1) clock
      p'.sim = outcome.2.1 ∧
      (p'.diagnostics = outcome.2.2.1 ∨ p'.diagnostics = outcome.2.2.1.record .missingProperty) := by
  obtain ⟨out, acts, d₁, aRow, happly, answer, sim', d₂, sRow, hstep, hcase⟩ := tick_eq_ok_cases h
  obtain ⟨b₁, hfold, rfl, hacts, -⟩ := ActuatorBank.apply_inv happly
  refine ⟨b₁, d₁, hfold, ?_⟩
  rw [hstep]
  -- only a tick that meets a missing property changes the step's counters
  rcases hcase with ⟨f, -, -, rfl⟩ |
    ⟨values, r, sensors, row, -, -, ⟨samples, -, -, rfl⟩ | ⟨f, -, -, rfl⟩⟩
  · exact ⟨hacts, rfl, .inl rfl⟩
  · exact ⟨hacts, rfl, .inl rfl⟩
  · exact ⟨hacts, rfl, .inr rfl⟩

/-- A tick that returned keeps the properties that have actuators. -/
theorem tick_actuators_isSome {p p' : Plant σ ς α} {c : PropMap} {clock : StepClock}
    {res : Except Fault (Option PropMap)} (h : p.tick c clock = .ok (res, p')) (n : String) :
    (p'.actuators.actuators.get? n).isSome = (p.actuators.actuators.get? n).isSome := by
  obtain ⟨b₁, d₁, hfold, hacts, -, -⟩ := tick_cases h
  obtain ⟨hkeys, -, -⟩ := ActuatorBank.foldlM_command c.ordered hfold
  rw [hacts, NameMap.get?_map, Option.isSome_map, hkeys]

section Layout

variable (hset : ∀ (s : σ) n v, PlantState.layout (PlantState.set s n v) = PlantState.layout s)
include hset

/-- A tick that returned left the counters that counting its unregistered names one after
another gives, with perhaps one missing property counted on top. -/
theorem tick_diagnostics {p p' : Plant σ ς α} {c : PropMap} {clock : StepClock}
    {res : Except Fault (Option PropMap)} (h : p.tick c clock = .ok (res, p')) :
    let d := (unregisteredNames p.actuators (PlantState.layout p.sim.state) c).foldl
      Diagnostics.recordUnregistered p.diagnostics
    p'.diagnostics = d ∨ p'.diagnostics = d.record .missingProperty := by
  intro d
  obtain ⟨b₁, d₁, hfold, -, -, hdiag⟩ := tick_cases h
  obtain ⟨hkeys, -, hd₁⟩ := ActuatorBank.foldlM_command c.ordered hfold
  -- the actuators count first, then the simulation counts the outputs it does not set
  have hcmds : (c.entries.filter fun e => (p.actuators.actuators.get? e.1).isNone).map Prod.fst =
      c.keys.filter fun n => (p.actuators.actuators.get? n).isNone := by
    rw [NameMap.keys, List.filter_map]
    rfl
  have hprops : (b₁.actuators.map fun a => (ActuatorImpl.output a).1).keys = p.actuators.properties := by
    refine NameMap.keys_eq_of_isSome fun k => ?_
    rw [NameMap.get?_map, Option.isSome_map, hkeys]
  have hstep : (p.sim.step d₁ (b₁.actuators.map fun a => (ActuatorImpl.output a).1) clock).2.2.1 = d := by
    rw [Simulation.step_diagnostics, Simulation.applyInputs_eq hset, hd₁, hprops, hcmds]
    simp only [d, unregisteredNames, List.foldl_append]
  rw [← hstep]
  exact hdiag

/-- The state a tick leaves: each property with an actuator that the layout marks actuated set,
in byte order, to that actuator's output once the commands are taken, then advanced once. -/
theorem tick_state {p p' : Plant σ ς α} {c : PropMap} {clock : StepClock}
    {res : Except Fault (Option PropMap)} (h : p.tick c clock = .ok (res, p')) :
    ∃ b₁ d₁, c.entries.foldlM ActuatorBank.command (p.actuators, p.diagnostics) = .ok (b₁, d₁) ∧
      (∀ n, (b₁.actuators.get? n).isSome = (p.actuators.actuators.get? n).isSome) ∧
      p'.sim.state = PlantState.advance
        (((b₁.actuators.map fun a => (ActuatorImpl.output a).1).entries.filter fun e =>
          (PlantState.layout p.sim.state).isActuated e.1).foldl
            (fun s e => PlantState.set s e.1 e.2) p.sim.state) clock.delta := by
  obtain ⟨b₁, d₁, hfold, -, hsim, -⟩ := tick_cases h
  obtain ⟨hkeys, -, -⟩ := ActuatorBank.foldlM_command c.ordered hfold
  refine ⟨b₁, d₁, hfold, hkeys, ?_⟩
  rw [hsim, Simulation.step_state, Simulation.applyInputs_eq hset]

variable (hadvance : ∀ (s : σ) dt, PlantState.layout (PlantState.advance s dt) = PlantState.layout s)
include hadvance

/-- A tick that returned keeps the layout, when setting a value and advancing do. -/
theorem tick_layout {p p' : Plant σ ς α} {c : PropMap} {clock : StepClock}
    {res : Except Fault (Option PropMap)} (h : p.tick c clock = .ok (res, p')) :
    PlantState.layout p'.sim.state = PlantState.layout p.sim.state := by
  obtain ⟨b₁, d₁, -, -, hsim, -⟩ := tick_cases h
  rw [hsim]
  exact Simulation.step_layout _ _ _ _ hset hadvance

end Layout

/-! ## §3. Runs of ticks -/

/-- Ticks from `p` with the command maps `cs`, in order, each of which returned, whatever it
answered, leaving `p'`. -/
inductive Ticks : Plant σ ς α → List PropMap → Plant σ ς α → Prop
  | nil (p : Plant σ ς α) : Ticks p [] p
  | cons {p p₁ p' : Plant σ ς α} {c : PropMap} {cs : List PropMap} (clock : StepClock)
      (res : Except Fault (Option PropMap)) :
      p.tick c clock = .ok (res, p₁) → Ticks p₁ cs p' → Ticks p (c :: cs) p'

/-- Over a run, each name is counted as often as its occurrences among the names each tick
counts, and the total grows by their number; the properties with actuators and, when setting a
value and advancing keep it, the layout stay. -/
theorem Ticks.counted
    (hset : ∀ (s : σ) n v, PlantState.layout (PlantState.set s n v) = PlantState.layout s)
    (hadvance : ∀ (s : σ) dt, PlantState.layout (PlantState.advance s dt) = PlantState.layout s)
    {p p' : Plant σ ς α} {cs : List PropMap} (h : Ticks p cs p') :
    let names := cs.flatMap (unregisteredNames p.actuators (PlantState.layout p.sim.state))
    (∀ n, p'.diagnostics.unregisteredFor n =
      p.diagnostics.unregisteredFor n + UInt64.ofNat (names.count n)) ∧
    p'.diagnostics.counts.get .unregisteredCommand =
      p.diagnostics.counts.get .unregisteredCommand + UInt64.ofNat names.length := by
  induction h with
  | nil p => simp
  | @cons p p₁ p' c cs clock res htick _ ih =>
    -- the later ticks count the names this one would, over the same bank and layout
    rw [unregisteredNames_congr (tick_actuators_isSome htick), tick_layout hset hadvance htick]
      at ih
    obtain ⟨ihfor, ihtotal⟩ := ih
    have hd := tick_diagnostics hset htick
    refine ⟨fun n => ?_, ?_⟩
    · rw [ihfor, List.flatMap_cons, List.count_append, UInt64.ofNat_add, ← UInt64.add_assoc]
      congr 1
      rcases hd with hd | hd <;> simp [hd, Diagnostics.foldl_recordUnregistered_for]
    · rw [ihtotal, List.flatMap_cons, List.length_append, UInt64.ofNat_add, ← UInt64.add_assoc]
      congr 1
      rcases hd with hd | hd <;> simp [hd, Diagnostics.foldl_recordUnregistered_counts]

/-- A list's length is the sum, over all names, of how often each occurs in it. -/
theorem length_eq_finsum_count (l : List String) : l.length = ∑ᶠ n, l.count n := by
  have hsupp : Function.support (fun n => l.count n) ⊆ ↑l.toFinset := fun n hn => by
    simpa using List.count_pos_iff.1 (Nat.pos_of_ne_zero hn)
  rw [finsum_eq_sum_of_support_subset _ hsupp, List.sum_toFinset_count_eq_length]

/-- Commands that no actuator takes, over a run of ticks of a plant whose layout setting a value
and advancing keep. On every tick that returns, each property with an actuator that the layout
marks actuated is set on the state to that actuator's output, and the state advances once. Over
any run of ticks that return, whatever they answer (a failed sanity check included), the count
of a name grows by `unregisteredCount`: once per command map that names it when it has no
actuator, once per tick when it has an actuator that the layout does not mark actuated, and never
otherwise; and the total of unregistered commands grows by the sum of these counts over all
names. -/
theorem unregistered_accounting
    (hset : ∀ (s : σ) n v, PlantState.layout (PlantState.set s n v) = PlantState.layout s)
    (hadvance : ∀ (s : σ) dt, PlantState.layout (PlantState.advance s dt) = PlantState.layout s) :
    (∀ (p p' : Plant σ ς α) c clock res, p.tick c clock = .ok (res, p') →
      ∃ b₁ d₁, c.entries.foldlM ActuatorBank.command (p.actuators, p.diagnostics) = .ok (b₁, d₁) ∧
        (∀ n, (b₁.actuators.get? n).isSome = (p.actuators.actuators.get? n).isSome) ∧
        p'.sim.state = PlantState.advance
          (((b₁.actuators.map fun a => (ActuatorImpl.output a).1).entries.filter fun e =>
            (PlantState.layout p.sim.state).isActuated e.1).foldl
              (fun s e => PlantState.set s e.1 e.2) p.sim.state) clock.delta) ∧
    ∀ (p p' : Plant σ ς α) cs, Ticks p cs p' →
      let count := unregisteredCount p.actuators (PlantState.layout p.sim.state) cs
      (∀ n, p'.diagnostics.unregisteredFor n =
        p.diagnostics.unregisteredFor n + UInt64.ofNat (count n)) ∧
      p'.diagnostics.counts.get .unregisteredCommand =
        p.diagnostics.counts.get .unregisteredCommand + UInt64.ofNat (∑ᶠ n, count n) := by
  refine ⟨fun p p' c clock res h => tick_state hset h, fun p p' cs h => ?_⟩
  obtain ⟨hfor, htotal⟩ := h.counted hset hadvance
  refine ⟨fun n => ?_, ?_⟩
  · rw [hfor, count_flatMap_unregisteredNames]
  · simp only [← count_flatMap_unregisteredNames]
    rw [htotal, length_eq_finsum_count]

/-- A plant over a flow state in which `v` is actuated and `x` sensed, with constant actuators on
both; nothing is checked and no sensor is registered. -/
def accountingPlant : Plant FlowState Sensor Actuator where
  sim := { state := { layout := { roles := NameMap.ofList [("v", .actuated), ("x", .sensed)] },
                      values := NameMap.ofList [("v", .float (Double.ofFloat 0.0)),
                        ("x", .float (Double.ofFloat 0.0))],
                      flows := [("x", "v")] },
           tickRate := 10 }
  sensors := { plantFreq := 10 }
  actuators := (({} : ActuatorBank Actuator).register (.constant "v" (.float (Double.ofFloat 0.0)))).register
    (.constant "x" (.float (Double.ofFloat 0.0)))
  diagnostics := {}

/-- Two ticks of `accountingPlant`, the first commanding `v` and `z`, the second `z` alone:
`z`, which has no actuator, is counted on both, and so is `x`, whose actuator the layout does
not mark actuated, while `v` is never counted. -/
theorem unregistered_accounting_two_ticks :
    let cs := [NameMap.ofList [("v", .float (Double.ofFloat 1.0)), ("z", .float (Double.ofFloat 1.0))],
      NameMap.ofList [("z", .float (Double.ofFloat 2.0))]]
    (∀ (s : FlowState) n v, PlantState.layout (PlantState.set s n v) = PlantState.layout s) ∧
    (∀ (s : FlowState) dt, PlantState.layout (PlantState.advance s dt) = PlantState.layout s) ∧
    ∃ p' : Plant FlowState Sensor Actuator, Ticks accountingPlant cs p' ∧
      let count := unregisteredCount accountingPlant.actuators
        (PlantState.layout accountingPlant.sim.state) cs
      count "z" = 2 ∧ count "x" = 2 ∧ count "v" = 0 ∧
      (∀ n, p'.diagnostics.unregisteredFor n =
        accountingPlant.diagnostics.unregisteredFor n + UInt64.ofNat (count n)) ∧
      p'.diagnostics.counts.get .unregisteredCommand =
        accountingPlant.diagnostics.counts.get .unregisteredCommand +
          UInt64.ofNat (∑ᶠ n, count n) := by
  intro cs
  have hset : ∀ (s : FlowState) n v, PlantState.layout (PlantState.set s n v) =
      PlantState.layout s := fun _ _ _ => rfl
  have hadvance : ∀ (s : FlowState) dt, PlantState.layout (PlantState.advance s dt) =
      PlantState.layout s := fun _ _ => rfl
  -- both ticks return, as the kernel evaluates
  have hcheck : ((accountingPlant.tick cs[0] {}).toOption.any fun r₁ =>
      (r₁.2.tick cs[1] {}).toOption.any fun _ => true) = true := by
    decide +kernel
  obtain ⟨⟨res₁, p₁⟩, h₁, hcheck⟩ := Loop.toOption_any_eq_true.1 hcheck
  obtain ⟨⟨res₂, p₂⟩, h₂, -⟩ := Loop.toOption_any_eq_true.1 hcheck
  have hticks : Ticks accountingPlant cs p₂ := .cons {} res₁ h₁ (.cons {} res₂ h₂ (.nil p₂))
  have hcounts : unregisteredCount accountingPlant.actuators
      (PlantState.layout accountingPlant.sim.state) cs "z" = 2 ∧
      unregisteredCount accountingPlant.actuators
        (PlantState.layout accountingPlant.sim.state) cs "x" = 2 ∧
      unregisteredCount accountingPlant.actuators
        (PlantState.layout accountingPlant.sim.state) cs "v" = 0 := by
    decide +kernel
  exact ⟨hset, hadvance, p₂, hticks, hcounts.1, hcounts.2.1, hcounts.2.2,
    (unregistered_accounting hset hadvance).2 _ _ _ hticks⟩

end Plant

end ControlLoop
