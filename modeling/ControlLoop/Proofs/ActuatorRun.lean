import ControlLoop.Proofs.StepContract

/-! # Actuator outputs over a run

An actuator bank is driven by two calls: registering an actuator, which replaces one on the same
property, and applying commands at a tick. This module follows any sequence of calls that
return, from a bank without actuators, and says what every apply gives in terms of the calls
made so far:

  * one output per property registered, the last registration of each property winning;
  * an exact actuator (constant, or noisy without noise) gives the latest command for its
    property since its registration, or its initial value if there was none; an impulse actuator
    gives the command of this call, or its rest value;
  * a command for a property without an actuator is counted once under its name and once in the
    total, and changes nothing else;
  * the record is the tick, then per output in byte order its value and its command, NaN when
    there is none.

So an apply without commands repeats the outputs of exact actuators, while impulse actuators
fall back to rest: the hold-or-reset law of each kind.

An apply need not return. Setting a noisy actuator draws noise, and a spread the draw cannot use
stops the program: an apply that commands a noisy actuator of infinite spread does so
(`apply_panics_on_infinite_noise`). An apply returns whenever every registered actuator is
steady (`ActuatorKind.Steady`, `ActuatorBank.apply_ok`).

## The argument

`Tracks calls b` says what the bank holds after `calls`: an actuator on exactly the registered
properties, of the kind registered last, holding for an exact kind the latest command since the
registration and for an impulse kind its rest value. A registration keeps it
(`Tracks.register`). Commands set the actuators of the properties they name and count the others
(`foldlM_command`), and giving the outputs puts impulse actuators back to rest, so an apply keeps
it too and gives its outputs from it (`Tracks.apply`). Along a run it holds throughout
(`ActuatorRun.tracks`).
-/

namespace ControlLoop

/-! ## §1. Calls and what they leave -/

/-- A call made on an actuator bank. -/
inductive ActuatorCall where
  /-- registers an actuator, replacing one on the same property -/
  | register (a : Actuator)
  /-- applies commands at a tick -/
  | apply (tick : Nat) (commands : PropMap)

namespace ActuatorCall

/-- The actuator registered last on `p` after a call, given the one before. -/
def lastOn (p : String) (prev : Option Actuator) : ActuatorCall → Option Actuator
  | .register a => if a.prop = p then some a else prev
  | .apply .. => prev

/-- The latest command for `p` since its registration after a call, given the one before: a
registration on `p` forgets it, and a command for `p` replaces it. -/
def commandOn (p : String) (prev : Option Value) : ActuatorCall → Option Value
  | .register a => if a.prop = p then none else prev
  | .apply _ commands => (commands.get? p).or prev

end ActuatorCall

/-- The actuator registered last on a property over a sequence of calls. -/
def lastRegistered (p : String) (calls : List ActuatorCall) : Option Actuator :=
  calls.foldl (ActuatorCall.lastOn p) none

/-- The latest command for a property since its last registration over a sequence of calls. -/
def latestCommand (p : String) (calls : List ActuatorCall) : Option Value :=
  calls.foldl (ActuatorCall.commandOn p) none

@[simp] theorem lastRegistered_nil (p : String) : lastRegistered p [] = none := rfl

@[simp] theorem lastRegistered_register (p : String) (calls : List ActuatorCall) (a : Actuator) :
    lastRegistered p (calls ++ [.register a]) =
      if a.prop = p then some a else lastRegistered p calls := by
  simp [lastRegistered, ActuatorCall.lastOn]

@[simp] theorem lastRegistered_apply (p : String) (calls : List ActuatorCall) (t : Nat)
    (commands : PropMap) : lastRegistered p (calls ++ [.apply t commands]) = lastRegistered p calls := by
  simp [lastRegistered, ActuatorCall.lastOn]

@[simp] theorem latestCommand_register (p : String) (calls : List ActuatorCall) (a : Actuator) :
    latestCommand p (calls ++ [.register a]) = if a.prop = p then none else latestCommand p calls := by
  simp [latestCommand, ActuatorCall.commandOn]

@[simp] theorem latestCommand_apply (p : String) (calls : List ActuatorCall) (t : Nat)
    (commands : PropMap) :
    latestCommand p (calls ++ [.apply t commands]) = (commands.get? p).or (latestCommand p calls) := by
  simp [latestCommand, ActuatorCall.commandOn]

/-- The actuator registered last on a property was registered by one of the calls. -/
theorem mem_of_lastRegistered {p : String} {a : Actuator} :
    ∀ {calls : List ActuatorCall}, lastRegistered p calls = some a → .register a ∈ calls := by
  intro calls
  induction calls using List.reverseRecOn with
  | nil => simp
  | append_singleton calls call ih =>
    cases call with
    | register a' =>
      rw [lastRegistered_register]
      split
      · rintro ⟨⟩
        simp
      · exact fun h => List.mem_append_left _ (ih h)
    | apply t commands =>
      rw [lastRegistered_apply]
      exact fun h => List.mem_append_left _ (ih h)

/-! ## §2. One actuator -/

/-- An actuator as its constructor builds it: an impulse actuator starts at its rest value. -/
def Actuator.Fresh (a : Actuator) : Prop := ∀ rest, a.kind = .impulse rest → a.value = rest

/-- A kind of actuator that gives exactly the value it was set to last: constant, or noisy
without noise. -/
def ActuatorKind.Exact : ActuatorKind → Prop
  | .constant => True
  | .impulse _ => False
  | .noisy spread => (spread == 0.0) = true

/-- Every constructor builds a fresh actuator. -/
theorem Actuator.constant_fresh (p : String) (v : Value) : (Actuator.constant p v).Fresh :=
  fun _ h => by cases h

theorem Actuator.impulse_fresh (p : String) (v : Value) : (Actuator.impulse p v).Fresh := by
  rintro rest ⟨⟩
  rfl

theorem Actuator.noisy_fresh (p : String) (v : Value) (noise : Float) :
    (Actuator.noisy p v noise).Fresh :=
  fun _ h => by cases h

/-- A constant actuator is exact, and so is a noisy one built without noise. -/
theorem Actuator.constant_exact (p : String) (v : Value) : (Actuator.constant p v).kind.Exact :=
  trivial

theorem Actuator.noisy_zero_exact (p : String) (v : Value) :
    (Actuator.noisy p v 0.0).kind.Exact := by
  show ((0.0 : Float).abs == 0.0) = true
  decide +kernel

/-- Setting a value keeps the kind; an exact or an impulse actuator then holds the value. -/
theorem Actuator.set_spec {a a' : Actuator} {rng rng' : Random} {v : Value}
    (h : a.set rng v = .ok (a', rng')) :
    a'.kind = a.kind ∧ (a.kind.Exact → a'.value = v) ∧ (∀ rest, a.kind = .impulse rest → a'.value = v) := by
  unfold Actuator.set at h
  split at h
  · rename_i spread hk
    split at h
    · -- no noise: the value is set as it is
      rename_i hz
      cases h
      exact ⟨rfl, fun _ => rfl, fun rest hr => by cases hk.symm.trans hr⟩
    · -- noise is drawn and added
      rename_i hz
      cases hdraw : rng.uniform (-spread) spread with
      | error e =>
        rw [hdraw] at h
        cases h
      | ok r =>
        rw [hdraw] at h
        cases h
        refine ⟨rfl, fun hex => ?_, fun rest hr => by cases hk.symm.trans hr⟩
        rw [hk] at hex
        exact absurd hex hz
  · cases h
    exact ⟨rfl, fun _ => rfl, fun _ _ => rfl⟩

/-- An actuator gives its value. -/
@[simp] theorem Actuator.output_fst (a : Actuator) : a.output.1 = a.value := by
  unfold Actuator.output
  split <;> rfl

/-- After giving its output an impulse actuator rests. -/
theorem Actuator.output_snd_of_impulse {a : Actuator} {rest : Value} (h : a.kind = .impulse rest) :
    a.output.2.value = rest := by
  unfold Actuator.output
  rw [h]

/-- An exact actuator is unchanged by giving its output. -/
theorem Actuator.output_snd_of_exact {a : Actuator} (h : a.kind.Exact) : a.output.2 = a := by
  unfold Actuator.output
  split
  · rename_i rest hk
    rw [hk] at h
    exact h.elim
  · rfl

/-- The library's actuators implement `ActuatorImpl` by their own operations. -/
@[simp] theorem Actuator.impl_prop (a : Actuator) : ActuatorImpl.prop a = a.prop := rfl

@[simp] theorem Actuator.impl_set (a : Actuator) (rng : Random) (v : Value) :
    ActuatorImpl.set a rng v = a.set rng v := rfl

@[simp] theorem Actuator.impl_output (a : Actuator) : ActuatorImpl.output a = a.output := rfl

/-- Giving an output keeps an actuator's kind. -/
@[simp] theorem Actuator.output_kind (a : Actuator) : a.output.2.kind = a.kind := by
  unfold Actuator.output
  split <;> rfl

/-- A spread of even noise that a draw can always use: no noise at all, or the non-empty range
`[-spread, spread)` of finite width. -/
def Random.Drawable (spread : Float) : Prop :=
  (spread == 0.0) = true ∨ (-spread < spread ∧ (spread - -spread).isFinite = true)

/-- A draw with a usable, non-zero spread succeeds. -/
theorem Random.Drawable.uniform_ok {spread : Float} (h : Random.Drawable spread)
    (hnz : (spread == 0.0) = false) (r : Random) :
    ∃ x r', r.uniform (-spread) spread = .ok (x, r') := by
  rcases h with hzero | ⟨hlt, hfin⟩
  · rw [hzero] at hnz
    cases hnz
  · simp [Random.uniform, hlt, hfin]

/-- A kind of actuator whose setting never stops the program: any but a noisy one whose
spread the draw cannot use. -/
def ActuatorKind.Steady : ActuatorKind → Prop
  | .noisy spread => Random.Drawable spread
  | _ => True

/-- A steady actuator takes every value, and keeps its kind. -/
theorem Actuator.set_ok {a : Actuator} (ha : a.kind.Steady) (rng : Random) (v : Value) :
    ∃ a' rng', a.set rng v = .ok (a', rng') ∧ a'.kind = a.kind := by
  unfold Actuator.set
  split
  · rename_i spread hk
    rw [hk] at ha
    cases hz : spread == 0.0
    · obtain ⟨n, r', hdraw⟩ := ha.uniform_ok hz rng
      simp [hdraw, Except.map]
    · simp
  · simp

/-- A noisy actuator of infinite spread cannot be set: its draw has a range of infinite
width. -/
theorem Actuator.set_infinite_spread (p : String) (v : Value) (rng : Random) (w : Value) :
    (Actuator.noisy p v (1.0 / 0.0)).set rng w = .error .nonFinite := by
  have hz : ((1.0 / 0.0 : Float).abs == 0.0) = false := by decide +kernel
  have hlt : -(1.0 / 0.0 : Float).abs < (1.0 / 0.0 : Float).abs := by decide +kernel
  have hinf : ((1.0 / 0.0 : Float).abs - -(1.0 / 0.0 : Float).abs).isFinite = false := by
    decide +kernel
  simp only [Actuator.set, Actuator.noisy, hz, Random.uniform_infinite_width hlt hinf]
  rfl

/-! ## §3. One apply -/

namespace NameMap

/-- The value of a name after mapping every value. -/
theorem get?_map {α β : Type} (f : α → β) (m : NameMap α) (k : String) :
    (m.map f).get? k = (m.get? k).map f := by
  apply Option.ext
  intro b
  rw [get?_eq_some_iff, Option.map_eq_some_iff]
  simp only [map, List.mem_map, Prod.mk.injEq, get?_eq_some_iff]
  constructor
  · rintro ⟨e, he, rfl, rfl⟩
    exact ⟨e.2, he, rfl⟩
  · rintro ⟨a, ha, rfl⟩
    exact ⟨(k, a), ha, rfl, rfl⟩

end NameMap

namespace ActuatorBank

/-- Every actuator of the bank is steady. -/
def Steady (b : ActuatorBank Actuator) : Prop := ∀ e ∈ b.actuators.entries, e.2.kind.Steady

/-- A command to a steady bank is taken and keeps the bank steady. -/
theorem command_ok {b : ActuatorBank Actuator} (hb : b.Steady) (d : Diagnostics)
    (e : String × Value) : ∃ b' d', command (b, d) e = .ok (b', d') ∧ b'.Steady := by
  cases ha : b.actuators.get? e.1 with
  | none =>
    -- a command without an actuator is counted as unregistered
    exact ⟨b, d.recordUnregistered e.1, command_unregistered d ha, hb⟩
  | some a =>
    -- the property has an actuator, which takes the value and keeps its kind
    have hsteady := hb _ ((NameMap.get?_eq_some_iff _).1 ha)
    obtain ⟨a', rng', hset, hkind⟩ := Actuator.set_ok hsteady b.rng e.2
    refine ⟨_, d, by rw [command_registered d ha, Actuator.impl_set, hset]; rfl, ?_⟩
    intro x hx
    rcases NameMap.mem_insertEntry hx with rfl | hx
    · simpa [hkind] using hsteady
    · exact hb x hx

/-- Applying commands to a steady bank returns. -/
theorem apply_ok {b : ActuatorBank Actuator} (hb : b.Steady) (d : Diagnostics) (tick : Nat)
    (commands : PropMap) : ∃ out b' d' row, b.apply d tick commands = .ok (out, b', d', row) := by
  -- each command returns and keeps the bank steady, so the whole fold returns
  have hfold : ∀ (es : List (String × Value)) (x : ActuatorBank Actuator × Diagnostics),
      x.1.Steady → ∃ y, es.foldlM command x = .ok y := by
    intro es
    induction es with
    | nil => exact fun x _ => ⟨x, rfl⟩
    | cons e es ih =>
      intro x hx
      obtain ⟨b', d', hcmd, hb'⟩ := command_ok hx x.2 e
      obtain ⟨y, hy⟩ := ih (b', d') hb'
      exact ⟨y, by rw [List.foldlM_cons, hcmd]; exact hy⟩
  obtain ⟨⟨b₁, d₁⟩, h⟩ := hfold commands.entries (b, d) hb
  exact ⟨_, _, _, _, by simp only [apply, h]; rfl⟩

/-- Commands with distinct names, taken one after another: a property keeps or loses its actuator
as before; an actuator whose property is not commanded stays as it was, and one whose property
is commanded is set to the command; and the commands for properties without an actuator are
counted in order. -/
theorem foldlM_command {α : Type} [ActuatorImpl α] :
    ∀ {es : List (String × Value)}, es.Pairwise (fun x y => x.1 < y.1) →
      ∀ {b b₁ : ActuatorBank α} {d d₁ : Diagnostics}, es.foldlM command (b, d) = .ok (b₁, d₁) →
        (∀ p, (b₁.actuators.get? p).isSome = (b.actuators.get? p).isSome) ∧
        (∀ p a₁, b₁.actuators.get? p = some a₁ → ∃ a, b.actuators.get? p = some a ∧
          (es.lookup p = none ∧ a₁ = a ∨
            ∃ v rng rng', es.lookup p = some v ∧ ActuatorImpl.set a rng v = .ok (a₁, rng'))) ∧
        d₁ = ((es.filter fun e => (b.actuators.get? e.1).isNone).map Prod.fst).foldl
          Diagnostics.recordUnregistered d
  | [], _, b, b₁, d, d₁, h => by
    cases h
    exact ⟨fun _ => rfl, fun p a₁ h => ⟨a₁, h, .inl ⟨rfl, rfl⟩⟩, rfl⟩
  | e :: es, hes, b, b₁, d, d₁, h => by
    rw [List.pairwise_cons] at hes
    -- the name of the first command comes back in no later one
    have hlater : es.lookup e.1 = none := by
      cases hl : es.lookup e.1 with
      | none => rfl
      | some v =>
        have hmem := (NameMap.lookup_eq_some_iff_mem hes.2).1 hl
        exact absurd (hes.1 _ hmem) (String.lt_irrefl e.1)
    have hlookup : ∀ p, p ≠ e.1 → (e :: es).lookup p = es.lookup p := fun p hp => by
      rw [NameMap.lookup_cons_eq, if_neg hp]
    rw [List.foldlM_cons] at h
    cases hc : command (b, d) e with
    | error err =>
      rw [hc] at h
      cases h
    | ok bd =>
      obtain ⟨b', d'⟩ := bd
      rw [hc] at h
      obtain ⟨hkeys, hheld, hdiag⟩ := foldlM_command hes.2 h
      rcases command_cases hc with ⟨ha, rfl, rfl⟩ | ⟨a, r, ha, hset, rfl, rfl⟩
      · -- no actuator: the command is counted
        refine ⟨hkeys, fun p a₁ h₁ => ?_, ?_⟩
        · obtain ⟨a, ha', hcase⟩ := hheld p a₁ h₁
          have hp : p ≠ e.1 := fun hp => by
            rw [hp, ha] at ha'
            cases ha'
          exact ⟨a, ha', by rw [hlookup p hp]; exact hcase⟩
        · rw [hdiag, List.filter_cons, ha]
          rfl
      · -- an actuator: it is set, and the walk goes on from the new bank
        have hsame : ∀ p, ((b.actuators.insert e.1 r.1).get? p).isSome =
            (b.actuators.get? p).isSome := fun p => by
          rw [NameMap.get?_insert]
          split
          · rename_i hp
            rw [hp, ha]
            rfl
          · rfl
        refine ⟨fun p => (hkeys p).trans (hsame p), fun p a₁ h₁ => ?_, ?_⟩
        · obtain ⟨a', ha', hcase⟩ := hheld p a₁ h₁
          by_cases hp : p = e.1
          · subst hp
            rw [NameMap.get?_insert, if_pos rfl, Option.some.injEq] at ha'
            subst ha'
            refine ⟨a, ha, .inr ⟨e.2, b.rng, r.2, by rw [NameMap.lookup_cons_eq, if_pos rfl], ?_⟩⟩
            rcases hcase with ⟨-, rfl⟩ | ⟨v, -, -, hv, -⟩
            · exact hset
            · rw [hlater] at hv
              cases hv
          · rw [NameMap.get?_insert, if_neg hp] at ha'
            exact ⟨a', ha', by rw [hlookup p hp]; exact hcase⟩
        · rw [hdiag, List.filter_cons, ha]
          simp only [Option.isNone_some, Bool.false_eq_true, if_false]
          congr 2
          exact List.filter_congr fun x _ => by
            rw [← Option.not_isSome, ← Option.not_isSome, hsame]

end ActuatorBank

/-! ## §4. What a bank holds -/

/-- What a bank holds after `calls`: an actuator on exactly the properties registered, each of
the kind registered last; an exact one holds the latest command since its registration, or its
initial value, and an impulse one holds its rest value. -/
structure Tracks (calls : List ActuatorCall) (b : ActuatorBank Actuator) : Prop where
  registered : ∀ p, (b.actuators.get? p).isSome = (lastRegistered p calls).isSome
  held : ∀ p a', b.actuators.get? p = some a' → ∃ a, lastRegistered p calls = some a ∧
    a'.kind = a.kind ∧ (a.kind.Exact → a'.value = (latestCommand p calls).getD a.value) ∧
    (∀ rest, a.kind = .impulse rest → a'.value = rest)

/-- A bank without actuators holds what no calls leave. -/
theorem tracks_empty (rng : Random) : Tracks [] ({ rng } : ActuatorBank Actuator) where
  registered _ := rfl
  held _ _ h := by cases h

/-- Registering a fresh actuator keeps what a bank holds in step with the calls. -/
theorem Tracks.register {calls : List ActuatorCall} {b : ActuatorBank Actuator} (h : Tracks calls b)
    {a : Actuator} (ha : a.Fresh) : Tracks (calls ++ [.register a]) (b.register a) where
  registered p := by
    simp only [ActuatorBank.register, Actuator.impl_prop, NameMap.get?_insert, lastRegistered_register]
    by_cases hp : p = a.prop
    · simp [hp]
    · simp [hp, Ne.symm hp, h.registered p]
  held p a' h' := by
    simp only [ActuatorBank.register, Actuator.impl_prop, NameMap.get?_insert] at h'
    by_cases hp : p = a.prop
    · -- the new actuator, with no command yet
      rw [if_pos hp, Option.some.injEq] at h'
      subst h'
      refine ⟨a, by simp [hp], rfl, fun _ => by simp [hp], fun rest hr => ha rest hr⟩
    · rw [if_neg hp] at h'
      simpa [Ne.symm hp] using h.held p a' h'

/-- Tracked banks are steady when every registered actuator is. -/
theorem Tracks.steady {calls : List ActuatorCall} {b : ActuatorBank Actuator} (h : Tracks calls b)
    (hs : ∀ a, .register a ∈ calls → a.kind.Steady) : b.Steady := by
  intro e he
  obtain ⟨a, hlast, hkind, -⟩ := h.held e.1 e.2 ((NameMap.get?_eq_some_iff _).2 he)
  rw [hkind]
  exact hs a (mem_of_lastRegistered hlast)

/-- What an apply at tick `t` with commands `c`, after the calls `calls` from diagnostics `d`,
gives when it returns the outputs `out`, the bank `b'`, the diagnostics `d'` and the record
`row`. -/
structure ApplyOutcome (calls : List ActuatorCall) (d : Diagnostics) (t : Nat) (c : PropMap)
    (out : PropMap) (d' : Diagnostics) (row : Record) : Prop where
  /-- one output per registered property -/
  keys : ∀ p, (out.get? p).isSome = (lastRegistered p calls).isSome
  /-- an exact actuator gives the latest command since its registration, or its initial value -/
  exact : ∀ p a, lastRegistered p calls = some a → a.kind.Exact →
    out.get? p = some ((latestCommand p (calls ++ [.apply t c])).getD a.value)
  /-- an impulse actuator gives the command of this call, or its rest value -/
  impulse : ∀ p a rest, lastRegistered p calls = some a → a.kind = .impulse rest →
    out.get? p = some ((c.get? p).getD rest)
  /-- a command for a property without an actuator is counted once under its name -/
  unregisteredFor : ∀ n, d'.unregisteredFor n = d.unregisteredFor n +
    if n ∈ c.keys.filter (fun n => (lastRegistered n calls).isNone) then 1 else 0
  /-- and once in the total of unregistered commands; no other counter moves -/
  counts : ∀ ev, d'.counts.get ev = d.counts.get ev + if ev = .unregisteredCommand then
    UInt64.ofNat (c.keys.filter fun n => (lastRegistered n calls).isNone).length else 0
  /-- the record is the tick, then per output in byte order its value and its command -/
  record : row.fields = ("plant_seq", Binary64.ofInt t) :: (out.entries.map fun e =>
    [(e.1 ++ "_value", e.2.toFloat),
     (e.1 ++ "_target", ((c.get? e.1).map Value.toFloat).getD Binary64.nan)]).flatten

/-- After the commands of an apply, each actuator of a tracked bank is of the kind registered
last; an exact one holds the latest command with this apply's, and an impulse one holds this
apply's command, or its rest value. -/
theorem Tracks.held_after_commands {calls : List ActuatorCall} {b b₁ : ActuatorBank Actuator}
    {d d₁ : Diagnostics} {c : PropMap} (h : Tracks calls b)
    (hfold : c.entries.foldlM ActuatorBank.command (b, d) = .ok (b₁, d₁)) (t : Nat) (p : String)
    (a₁ : Actuator)
    (h₁ : b₁.actuators.get? p = some a₁) :
    ∃ a, lastRegistered p calls = some a ∧ a₁.kind = a.kind ∧
      (a.kind.Exact → a₁.value = (latestCommand p (calls ++ [.apply t c])).getD a.value) ∧
      (∀ rest, a.kind = .impulse rest → a₁.value = (c.get? p).getD rest) := by
  obtain ⟨-, hheld, -⟩ := ActuatorBank.foldlM_command c.ordered hfold
  obtain ⟨a', ha', hcase⟩ := hheld p a₁ h₁
  obtain ⟨a, hlast, hkind, hexact, himp⟩ := h.held p a' ha'
  have hget : c.get? p = c.entries.lookup p := rfl
  refine ⟨a, hlast, ?_, fun hex => ?_, fun rest hr => ?_⟩
  · rcases hcase with ⟨-, rfl⟩ | ⟨v, rng, rng', -, hv⟩
    · exact hkind
    · exact (Actuator.set_spec hv).1.trans hkind
  · rw [latestCommand_apply, hget]
    rcases hcase with ⟨hl, rfl⟩ | ⟨v, rng, rng', hl, hv⟩
    · rw [hl, hexact hex]
      rfl
    · rw [hl, (Actuator.set_spec hv).2.1 (hkind ▸ hex)]
      rfl
  · rw [hget]
    rcases hcase with ⟨hl, rfl⟩ | ⟨v, rng, rng', hl, hv⟩
    · rw [hl, himp rest hr]
      rfl
    · rw [hl, (Actuator.set_spec hv).2.2 rest (hkind ▸ hr)]
      rfl

/-- An apply on a tracked bank gives what `ApplyOutcome` says, and leaves a bank that holds what
the calls with this apply leave. -/
theorem Tracks.apply {calls : List ActuatorCall} {b b' : ActuatorBank Actuator} {d d' : Diagnostics}
    {t : Nat} {c out : PropMap} {row : Record} (h : Tracks calls b)
    (happly : b.apply d t c = .ok (out, b', d', row)) :
    ApplyOutcome calls d t c out d' row ∧ Tracks (calls ++ [.apply t c]) b' := by
  obtain ⟨b₁, hfold, rfl, hb', hrow⟩ := ActuatorBank.apply_inv happly
  obtain ⟨hkeys, -, hdiag⟩ := ActuatorBank.foldlM_command c.ordered hfold
  have hset := h.held_after_commands hfold t
  have hnone : ∀ n, (b.actuators.get? n).isNone = (lastRegistered n calls).isNone := fun n => by
    rw [← Option.not_isSome, ← Option.not_isSome, h.registered]
  -- the command fold counts exactly the commands for properties without an actuator
  have hcounted : ((c.entries.filter fun e => (b.actuators.get? e.1).isNone).map Prod.fst) =
      c.keys.filter fun n => (lastRegistered n calls).isNone := by
    rw [NameMap.keys, List.filter_map]
    congr 1
    exact List.filter_congr fun e _ => hnone e.1
  have hnodup : (c.keys.filter fun n => (lastRegistered n calls).isNone).Nodup :=
    (List.pairwise_map.2 (c.ordered.imp String.ne_of_lt)).filter _
  -- a property registered last with `a` still has an actuator after the commands
  have hfor : ∀ p a, lastRegistered p calls = some a → ∃ a₁, b₁.actuators.get? p = some a₁ ∧
      (a.kind.Exact → a₁.value = (latestCommand p (calls ++ [.apply t c])).getD a.value) ∧
      (∀ rest, a.kind = .impulse rest → a₁.value = (c.get? p).getD rest) := fun p a hlast => by
    obtain ⟨a₁, h₁⟩ := Option.isSome_iff_exists.1
      ((hkeys p).trans ((h.registered p).trans (by rw [hlast]; rfl)))
    obtain ⟨a', hlast', -, hexact, himp⟩ := hset p a₁ h₁
    rw [hlast, Option.some.injEq] at hlast'
    subst hlast'
    exact ⟨a₁, h₁, hexact, himp⟩
  refine ⟨⟨fun p => ?_, fun p a hlast hex => ?_, fun p a rest hlast hr => ?_, fun n => ?_,
    fun ev => ?_, hrow⟩, ⟨fun p => ?_, fun p a' h' => ?_⟩⟩
  · rw [NameMap.get?_map, Option.isSome_map, hkeys, h.registered]
  · -- an exact actuator gives the value it holds
    obtain ⟨a₁, h₁, hexact, -⟩ := hfor p a hlast
    rw [NameMap.get?_map, h₁, Option.map_some, Actuator.impl_output, Actuator.output_fst, hexact hex]
  · obtain ⟨a₁, h₁, -, himp⟩ := hfor p a hlast
    rw [NameMap.get?_map, h₁, Option.map_some, Actuator.impl_output, Actuator.output_fst,
      himp rest hr]
  · rw [hdiag, hcounted, Diagnostics.foldl_recordUnregistered_for, hnodup.count]
    split <;> rfl
  · rw [hdiag, hcounted, Diagnostics.foldl_recordUnregistered_counts]
  · rw [hb', NameMap.get?_map, Option.isSome_map, hkeys, h.registered, lastRegistered_apply]
  · -- giving the outputs puts impulse actuators back to rest and leaves the others
    rw [hb', NameMap.get?_map, Option.map_eq_some_iff] at h'
    obtain ⟨a₁, h₁, rfl⟩ := h'
    obtain ⟨a, hlast, hkind, hexact, himp⟩ := hset p a₁ h₁
    refine ⟨a, by rw [lastRegistered_apply]; exact hlast,
      by rw [Actuator.impl_output, Actuator.output_kind]; exact hkind, fun hex => ?_, fun rest hr => ?_⟩
    · rw [Actuator.impl_output, Actuator.output_snd_of_exact (by rw [hkind]; exact hex)]
      exact hexact hex
    · exact Actuator.output_snd_of_impulse (hkind.trans hr)

/-! ## §5. Runs -/

/-- Calls made on an actuator bank, all of which returned: `ActuatorRun b0 d0 calls b d` says
that from the bank `b0` and the diagnostics `d0` the calls `calls`, in order, leave `b` and
`d`. -/
inductive ActuatorRun (b0 : ActuatorBank Actuator) (d0 : Diagnostics) :
    List ActuatorCall → ActuatorBank Actuator → Diagnostics → Prop
  | start : ActuatorRun b0 d0 [] b0 d0
  | register {calls : List ActuatorCall} {b : ActuatorBank Actuator} {d : Diagnostics} (a : Actuator) :
      ActuatorRun b0 d0 calls b d → ActuatorRun b0 d0 (calls ++ [.register a]) (b.register a) d
  | apply {calls : List ActuatorCall} {b b' : ActuatorBank Actuator} {d d' : Diagnostics} {out : PropMap}
      {row : Record} (t : Nat) (commands : PropMap) :
      ActuatorRun b0 d0 calls b d → b.apply d t commands = .ok (out, b', d', row) →
        ActuatorRun b0 d0 (calls ++ [.apply t commands]) b' d'

/-- Along a run from a bank without actuators in which every registered actuator is fresh, the
bank holds what the calls leave. -/
theorem ActuatorRun.tracks {rng : Random} {d0 : Diagnostics} {calls : List ActuatorCall}
    {b : ActuatorBank Actuator} {d : Diagnostics} (hrun : ActuatorRun { rng } d0 calls b d)
    (hfresh : ∀ a, .register a ∈ calls → a.Fresh) : Tracks calls b := by
  induction hrun with
  | start => exact tracks_empty rng
  | register a _ ih =>
    exact (ih fun a' ha' => hfresh a' (List.mem_append_left _ ha')).register
      (hfresh a (List.mem_append_right _ List.mem_cons_self))
  | apply t commands _ happly ih =>
    exact ((ih fun a' ha' => hfresh a' (List.mem_append_left _ ha')).apply happly).2

/-- What the next apply at tick `t` with commands `c` does from the bank `b` and the diagnostics
`d` that the calls `calls` left. -/
structure NextApply (calls : List ActuatorCall) (b : ActuatorBank Actuator) (d : Diagnostics) (t : Nat)
    (c : PropMap) : Prop where
  /-- it returns when every registered actuator is steady -/
  returns : (∀ a, .register a ∈ calls → a.kind.Steady) →
    ∃ out b' d' row, b.apply d t c = .ok (out, b', d', row)
  /-- when it returns it gives what `ApplyOutcome` says -/
  outcome : ∀ out b' d' row, b.apply d t c = .ok (out, b', d', row) →
    ApplyOutcome calls d t c out d' row
  /-- and an apply without commands right after it gives every exact actuator's output again,
  and every impulse actuator's rest value -/
  holds : ∀ out b' d' row, b.apply d t c = .ok (out, b', d', row) →
    ∀ t₂ out₂ b₂ d₂ row₂, b'.apply d' t₂ {} = .ok (out₂, b₂, d₂, row₂) →
      ∀ p a, lastRegistered p calls = some a →
        (a.kind.Exact → out₂.get? p = out.get? p) ∧
        ∀ rest, a.kind = .impulse rest → out₂.get? p = some rest

/-- Actuator outputs over any run of calls that return, from a bank without actuators, each
registered actuator being as its constructor builds it. The next apply at tick `t` with commands
`c` returns whenever every registered actuator is steady. When it returns, it gives one output
per registered property, the last registration winning: an exact actuator (constant, or noisy
without noise) gives the latest command for its property since its registration, or its initial
value; an impulse actuator gives `c`'s command, or its rest value. It counts each command for a
property without an actuator once, and records the tick and each output with its command. An
apply without commands right after it gives every exact actuator's output again, and every
impulse actuator's rest value. -/
theorem actuator_outputs {rng : Random} {d0 : Diagnostics} {calls : List ActuatorCall}
    {b : ActuatorBank Actuator} {d : Diagnostics} (hrun : ActuatorRun { rng } d0 calls b d)
    (hfresh : ∀ a, .register a ∈ calls → a.Fresh) (t : Nat) (c : PropMap) :
    NextApply calls b d t c := by
  have htracks := hrun.tracks hfresh
  refine ⟨fun hs => ?_, fun out b' d' row happly => (htracks.apply happly).1,
    fun out b' d' row happly t₂ out₂ b₂ d₂ row₂ happly₂ p a hlast => ?_⟩
  · exact ActuatorBank.apply_ok (htracks.steady hs) d t c
  · obtain ⟨hout, htracks'⟩ := htracks.apply happly
    -- the next apply reads the bank this one left, under the same registrations
    obtain ⟨hout₂, -⟩ := htracks'.apply happly₂
    have hlast' : lastRegistered p (calls ++ [.apply t c]) = some a := by
      rw [lastRegistered_apply]
      exact hlast
    refine ⟨fun hex => ?_, fun rest hr => ?_⟩
    · rw [hout₂.exact p a hlast' hex, hout.exact p a hlast hex, latestCommand_apply,
        NameMap.get?_emptyCollection, Option.none_or]
    · rw [hout₂.impulse p a rest hlast' hr, NameMap.get?_emptyCollection]
      rfl

/-- The bank of the array's own tests: a constant actuator on `force` and an impulse actuator on
`kick`, both at `0.0`, registered on a new bank; the next apply commands `force = 3.0` and
`kick = 5.0` at tick 0. -/
theorem actuator_outputs_force_kick :
    let calls := [ActuatorCall.register (.constant "force" (.float ⟨0⟩)),
      .register (.impulse "kick" (.float ⟨0⟩))]
    let b := (({} : ActuatorBank Actuator).register (.constant "force" (.float ⟨0⟩))).register
      (.impulse "kick" (.float ⟨0⟩))
    let c := NameMap.ofList [("force", .float ⟨0x4008000000000000⟩),
      ("kick", .float ⟨0x4014000000000000⟩)]
    ActuatorRun {} {} calls b {} ∧ (∀ a, .register a ∈ calls → a.Fresh) ∧ NextApply calls b {} 0 c := by
  intro calls b c
  have hrun : ActuatorRun {} {} calls b {} := .register _ (.register _ .start)
  have hfresh : ∀ a, .register a ∈ calls → a.Fresh := by
    intro a ha
    simp only [calls, List.mem_cons, ActuatorCall.register.injEq, List.not_mem_nil, or_false] at ha
    rcases ha with rfl | rfl
    · exact Actuator.constant_fresh _ _
    · exact Actuator.impulse_fresh _ _
  exact ⟨hrun, hfresh, actuator_outputs hrun hfresh 0 c⟩

/-- An actuator whose draw cannot be made stops the program rather than give outputs: a noisy
actuator of infinite spread on `u`, alone on a new bank, commanded at tick 0. -/
theorem apply_panics_on_infinite_noise :
    (({} : ActuatorBank Actuator).register (.noisy "u" (.bool true) (1.0 / 0.0))).apply {} 0
      (NameMap.ofList [("u", .bool false)]) = .error .nonFinite := by
  have hcmd : ActuatorBank.command
      (({} : ActuatorBank Actuator).register (.noisy "u" (.bool true) (1.0 / 0.0)), {})
      ("u", .bool false) = .error .nonFinite := by
    rw [ActuatorBank.command_registered {} (a := .noisy "u" (.bool true) (1.0 / 0.0)) rfl,
      Actuator.impl_set, Actuator.set_infinite_spread]
    rfl
  have hentries : (NameMap.ofList [("u", Value.bool false)]).entries = [("u", .bool false)] := rfl
  simp only [ActuatorBank.apply, hentries, List.foldlM_cons, hcmd, bind, Except.bind]

end ControlLoop
