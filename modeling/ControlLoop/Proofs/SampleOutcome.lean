import ControlLoop.Proofs.SensorSchedule

/-! # What one sample does

A sample at tick `t` walks the properties scheduled on the tick's cycle, in byte order, and
stops at the first one without a raw value. This module describes the whole call by the
properties the walk gets through: those before the first missing one, the longest prefix of
the scheduled list whose properties all have raw values. Their sensors, of any type, process
their raw values one after another (`SensorImpl.processAll`), each drawing from the generator
the one before it left. Then:

  * a failed noise draw among them stops the call, and nothing else does;
  * otherwise each of those sensors is filed back as processing left it, and the call answers
    none exactly when nothing is scheduled, the scheduled properties paired with their samples
    exactly when each of them has a raw value, and otherwise the first scheduled property
    without one;
  * its record holds the tick, then for every registered property in byte order the raw value
    and the sample made in this call, NaN where there is none, on the failing path as well.

A draw does fail for a spread the generator cannot use: a noisy sensor of infinite spread
stops the program at its first sample (`sample_panics_on_infinite_noise`).

The walk is `SensorBank.collect`. Over distinct properties that all have raw values it processes
them in order and goes on with their samples added and their sensors filed back
(`collect_append_of_present`); a missing property ends it (`collect_cons_missing`). Splitting the
scheduled list at its first missing property (`collect_split`) gives the call's three outcomes:
a failed draw (`sample_eq_error_iff`), every property present (`sample_of_all_present`), or a
first missing one (`sample_of_first_missing`). What the answer says in the last two
(`SampleAnswer`) follows from the split alone (`answer_of_all_present`,
`answer_of_first_missing`); `sample_outcome_record` gathers them.
-/

namespace ControlLoop

/-- Processes values with their sensors one after another, each sensor drawing from the
generator the one before it left; each value gives its sample and the sensor as processing left
it. The first draw that fails stops the run. -/
def SensorImpl.processAll {ς : Type} [SensorImpl ς] :
    List (ς × Value) → Random → Except Panic (List (Value × ς) × Random)
  | [], rng => .ok ([], rng)
  | sv :: rest, rng => (SensorImpl.process sv.1 rng sv.2).bind fun r =>
    (processAll rest r.2.2).map fun rs => ((r.1, r.2.1) :: rs.1, rs.2)

/-- Processing gives one sample per sensor. -/
theorem SensorImpl.processAll_length {ς : Type} [SensorImpl ς] :
    ∀ {l : List (ς × Value)} {rng rng' : Random} {xs : List (Value × ς)},
      SensorImpl.processAll l rng = .ok (xs, rng') → xs.length = l.length
  | [], _, _, _, h => by
    cases h
    rfl
  | sv :: rest, rng, rng', xs, h => by
    simp only [SensorImpl.processAll] at h
    cases hx : SensorImpl.process sv.1 rng sv.2 with
    | error e =>
      rw [hx] at h
      cases h
    | ok r =>
      rw [hx] at h
      cases hrest : SensorImpl.processAll rest r.2.2 with
      | error e =>
        simp only [Except.bind, hrest, Except.map] at h
        cases h
      | ok rs =>
        simp only [Except.bind, hrest, Except.map, Except.ok.injEq, Prod.mk.injEq] at h
        obtain ⟨rfl, rfl⟩ := h
        simp [SensorImpl.processAll_length hrest]

/-- A draw over a non-empty range of infinite width stops the program. -/
theorem Random.uniform_infinite_width {lo hi : Float} (hlt : lo < hi)
    (hinf : (hi - lo).isFinite = false) (r : Random) : r.uniform lo hi = .error .nonFinite := by
  simp [Random.uniform, hlt, hinf]

/-- A noisy sensor of infinite spread cannot process a value: its draw has a range of infinite
width. -/
theorem Sensor.process_infinite_spread (p : String) (f : Nat) (rng : Random) (v : Value) :
    (Sensor.noisy p f (1.0 / 0.0)).process rng v = .error .nonFinite := by
  have hz : ((1.0 / 0.0 : Float).abs == 0.0) = false := by decide +kernel
  have hlt : -(1.0 / 0.0 : Float).abs < (1.0 / 0.0 : Float).abs := by decide +kernel
  have hinf : ((1.0 / 0.0 : Float).abs - -(1.0 / 0.0 : Float).abs).isFinite = false := by
    decide +kernel
  simp only [Sensor.process, Sensor.noisy, hz, Random.uniform_infinite_width hlt hinf]
  rfl

/-- A map holds a name exactly when the name is one of its keys. -/
theorem NameMap.contains_eq_true_iff {α : Type} (m : NameMap α) {k : String} :
    m.contains k = true ↔ k ∈ m.keys := by
  rw [NameMap.mem_keys, NameMap.contains, Option.isSome_iff_exists]

/-- Inserts entries into a map one after another. -/
def NameMap.insertAll {α : Type} (m : NameMap α) (es : List (String × α)) : NameMap α :=
  es.foldl (fun m e => m.insert e.1 e.2) m

/-- Filing values under names that already have one keeps the names. -/
theorem NameMap.isSome_get?_insertAll {α : Type} :
    ∀ {m : NameMap α} {es : List (String × α)}, (∀ e ∈ es, (m.get? e.1).isSome) →
      ∀ k, ((m.insertAll es).get? k).isSome = (m.get? k).isSome
  | _, [], _, _ => rfl
  | m, e :: es, h, k => by
    have hsame : ∀ k, ((m.insert e.1 e.2).get? k).isSome = (m.get? k).isSome := fun k => by
      rw [NameMap.get?_insert]
      split
      · rename_i hk
        rw [hk, h e List.mem_cons_self]
        rfl
      · rfl
    show (((m.insert e.1 e.2).insertAll es).get? k).isSome = _
    rw [NameMap.isSome_get?_insertAll (fun e' he' => (hsame e'.1).trans
      (h e' (List.mem_cons_of_mem e he'))) k, hsame]

namespace SensorBank

variable {ς : Type} [SensorImpl ς]

/-- Each property with its sensor and its raw value, in order; a property lacking either is
left out. -/
def inputs (b : SensorBank ς) (raw : PropMap) (ps : List String) : List (ς × Value) :=
  ps.filterMap fun p => (b.sensors.get? p).bind fun s => (raw.get? p).map fun v => (s, v)

variable {raw : PropMap}

/-! ## §1. The walk -/

/-- A property without a raw value ends the walk, which names it and keeps what it has. -/
theorem collect_cons_missing {q : String} (hq : raw.contains q = false) (rest : List String)
    (acc : PropMap) (b : SensorBank ς) :
    collect raw (q :: rest) acc b = .ok (.error q, acc, b) := by
  have hnone : raw.get? q = none := by
    simpa [NameMap.contains] using hq
  simp only [collect, hnone]

omit [SensorImpl ς] in
/-- Filing a sensor under a property leaves the inputs of the other properties as they were. -/
theorem inputs_insert_of_not_mem {ps : List String} {p : String} (hp : p ∉ ps) (b : SensorBank ς)
    (s : ς) (rng : Random) :
    ({ b with sensors := b.sensors.insert p s, rng } : SensorBank ς).inputs raw ps =
      b.inputs raw ps := by
  unfold inputs
  refine List.filterMap_congr fun q hq => ?_
  have hne : q ≠ p := fun h => hp (h ▸ hq)
  simp only [NameMap.get?_insert, hne, if_false]

/-- Over distinct properties that all have sensors and raw values, the walk processes them in
order and goes on with their samples added to the map, their sensors as processing left them,
and the generator where the draws left it. -/
theorem collect_append_of_present :
    ∀ (pre post : List String) (acc : PropMap) (b : SensorBank ς), pre.Nodup →
      (∀ p ∈ pre, (∃ s, b.sensors.get? p = some s) ∧ raw.contains p = true) →
      collect raw (pre ++ post) acc b =
        (SensorImpl.processAll (b.inputs raw pre) b.rng).bind fun r =>
          collect raw post (acc.insertAll (pre.zip (r.1.map (·.1))))
            { b with sensors := b.sensors.insertAll (pre.zip (r.1.map (·.2))), rng := r.2 }
  | [], post, acc, b, _, _ => rfl
  | p :: pre, post, acc, b, hnd, h => by
    obtain ⟨⟨s, hs⟩, hc⟩ := h p List.mem_cons_self
    obtain ⟨v, hv⟩ := Option.isSome_iff_exists.1 hc
    rw [List.nodup_cons] at hnd
    have hin : b.inputs raw (p :: pre) = (s, v) :: b.inputs raw pre := by
      simp [inputs, hs, hv]
    rw [List.cons_append, hin]
    simp only [collect, hv, hs, SensorImpl.processAll]
    -- the first sensor draws, then the walk goes on from the bank it left
    cases hx : SensorImpl.process s b.rng v with
    | error e => rfl
    | ok r =>
      obtain ⟨x, s', rng₁⟩ := r
      have hrest : ∀ q ∈ pre, (∃ s, ({ b with sensors := b.sensors.insert p s', rng := rng₁ } :
          SensorBank ς).sensors.get? q = some s) ∧ raw.contains q = true := fun q hq => by
        have hne : q ≠ p := fun h => hnd.1 (h ▸ hq)
        simpa [NameMap.get?_insert, hne] using h q (List.mem_cons_of_mem p hq)
      simp only [bind, Except.bind, collect_append_of_present pre post _ _ hnd.2 hrest,
        inputs_insert_of_not_mem hnd.1]
      cases SensorImpl.processAll (b.inputs raw pre) rng₁ <;> rfl

/-! ## §2. The samples made -/

omit [SensorImpl ς] in
/-- The properties the walk gets through have sensors and raw values, when every scheduled one
has a sensor. -/
theorem present_of_takeWhile {b : SensorBank ς} {ps : List String}
    (hreg : ∀ p ∈ ps, ∃ s, b.sensors.get? p = some s) :
    ∀ p ∈ ps.takeWhile raw.contains, (∃ s, b.sensors.get? p = some s) ∧ raw.contains p = true :=
  fun p hp => ⟨hreg p (List.takeWhile_subset _ hp), List.all_eq_true.1 List.all_takeWhile p hp⟩

/-- The first property the walk meets without a raw value is missing from the raw values. -/
theorem missing_of_dropWhile {ps rest : List String} {q : String}
    (h : ps.dropWhile raw.contains = q :: rest) : raw.contains q = false := by
  have hhead := List.head_dropWhile_not raw.contains
    (show ps.dropWhile raw.contains ≠ [] by simp [h])
  simpa [h] using hhead

omit [SensorImpl ς] in
/-- Properties that all have sensors and raw values have one input each. -/
theorem inputs_length {b : SensorBank ς} {ps : List String}
    (h : ∀ p ∈ ps, (∃ s, b.sensors.get? p = some s) ∧ raw.contains p = true) :
    (b.inputs raw ps).length = ps.length := by
  induction ps with
  | nil => rfl
  | cons p ps ih =>
    obtain ⟨⟨s, hs⟩, hc⟩ := h p List.mem_cons_self
    obtain ⟨v, hv⟩ := Option.isSome_iff_exists.1 hc
    have hrest := ih fun q hq => h q (List.mem_cons_of_mem p hq)
    simp [inputs, hs, hv] at hrest ⊢
    exact hrest

/-- Samples of properties in increasing byte order, one per property, make a map that lists
them as they are. -/
theorem insertAll_entries {ps : List String} (hsorted : ps.Pairwise (· < ·)) {xs : List Value}
    (hlen : xs.length = ps.length) : (NameMap.insertAll {} (ps.zip xs)).entries = ps.zip xs := by
  have hfst : (ps.zip xs).map Prod.fst = ps := List.map_fst_zip (Nat.le_of_eq hlen.symm)
  have hordered : Ordered (ps.zip xs) := by
    have hkeys : ((ps.zip xs).map Prod.fst).Pairwise (· < ·) := by
      rw [hfst]
      exact hsorted
    exact List.pairwise_map.1 hkeys
  exact NameMap.entries_foldl_insert (ps.zip xs) [] {} rfl hordered

/-! ## §3. The call -/

variable {b : SensorBank ς}

/-- A draw that fails stops the sample. -/
theorem sample_of_collect_error {t : Nat} {e : Panic}
    (h : collect raw (b.scheduled (b.cycleOf t)) {} b = .error e) :
    b.sample t raw = .error e := by
  simp only [sample, h, bind, Except.bind]

/-- A walk that ends at a missing property makes the sample name it. -/
theorem sample_of_collect_missing {t : Nat} {q : String} {M : PropMap} {b' : SensorBank ς}
    (h : collect raw (b.scheduled (b.cycleOf t)) {} b = .ok (.error q, M, b')) :
    b.sample t raw = .ok (.error (.missingProperty q), b', b.record t raw M) := by
  simp only [sample, h, bind, Except.bind]
  rfl

/-- A walk that gets through makes the sample answer its samples, or none when nothing was
scheduled. -/
theorem sample_of_collect_done {t : Nat} {M M' : PropMap} {b' : SensorBank ς}
    (h : collect raw (b.scheduled (b.cycleOf t)) {} b = .ok (.ok M', M, b')) :
    b.sample t raw = .ok (.ok (if (b.scheduled (b.cycleOf t)).isEmpty then none else some M'),
      b', b.record t raw M) := by
  simp only [sample, h, bind, Except.bind]
  rfl

/-- In a valid bank the cycle of a tick schedules what the tick modulo the tick rate does: with
a tick rate of zero, no cycle schedules anything. -/
theorem Valid.scheduled_cycleOf_eq_mod (h : b.Valid) (t : Nat) :
    b.scheduled (b.cycleOf t) = b.scheduled (t % b.plantFreq) := by
  unfold cycleOf
  split
  · rename_i hP
    rw [h.scheduled_eq, h.scheduled_eq, hP]
    simp
  · rfl

omit [SensorImpl ς] in
/-- The record of a sample: the tick, then per registered property, in byte order, its raw
value and its sample as numbers, NaN where there is none. -/
theorem record_fields (t : Nat) (M : PropMap) :
    (b.record t raw M).fields = ("plant_seq", Binary64.ofInt t) :: (b.sensors.keys.map fun p =>
      [(p ++ "_value", ((raw.get? p).map Value.toFloat).getD Binary64.nan),
       (p ++ "_sample", ((M.entries.lookup p).map Value.toFloat).getD Binary64.nan)]).flatten :=
  rfl

/-- The walk over distinct registered properties: the draws of the longest prefix with raw
values, then the walk over the rest, from the samples and the bank those draws left. -/
theorem collect_split {S : List String} (hnd : S.Nodup)
    (hreg : ∀ p ∈ S, ∃ s, b.sensors.get? p = some s) :
    collect raw S {} b =
      (SensorImpl.processAll (b.inputs raw (S.takeWhile raw.contains)) b.rng).bind fun r =>
        collect raw (S.dropWhile raw.contains)
          (NameMap.insertAll {} ((S.takeWhile raw.contains).zip (r.1.map (·.1))))
          { b with sensors := b.sensors.insertAll ((S.takeWhile raw.contains).zip (r.1.map (·.2))),
                   rng := r.2 } := by
  have hsplit : S = S.takeWhile raw.contains ++ S.dropWhile raw.contains :=
    List.takeWhile_append_dropWhile.symm
  conv => lhs; rw [hsplit]
  exact collect_append_of_present _ _ {} b (hnd.sublist (List.takeWhile_sublist _))
    (present_of_takeWhile hreg)

/-- What is left of the walk after that prefix cannot fail: it is empty, or it starts at a
missing property. -/
theorem collect_dropWhile_ok (S : List String) (M : PropMap) (b' : SensorBank ς) :
    ∃ r, collect raw (S.dropWhile raw.contains) M b' = .ok r := by
  cases hpost : S.dropWhile raw.contains with
  | nil => exact ⟨_, rfl⟩
  | cons q rest => exact ⟨_, collect_cons_missing (missing_of_dropWhile hpost) rest M b'⟩

section Scheduled

variable {t : Nat} {S : List String} (hS : b.scheduled (b.cycleOf t) = S) (hnd : S.Nodup)
  (hreg : ∀ p ∈ S, ∃ s, b.sensors.get? p = some s)
include hS hnd hreg

/-- A sample fails exactly when a draw of the scheduled properties up to the first missing one
fails. -/
theorem sample_eq_error_iff (e : Panic) :
    b.sample t raw = .error e ↔
      SensorImpl.processAll (b.inputs raw (S.takeWhile raw.contains)) b.rng = .error e := by
  have hwalk : collect raw (b.scheduled (b.cycleOf t)) {} b =
      (SensorImpl.processAll (b.inputs raw (S.takeWhile raw.contains)) b.rng).bind fun r =>
        collect raw (S.dropWhile raw.contains)
          (NameMap.insertAll {} ((S.takeWhile raw.contains).zip (r.1.map (·.1))))
          { b with sensors := b.sensors.insertAll ((S.takeWhile raw.contains).zip (r.1.map (·.2))),
                   rng := r.2 } := by
    rw [hS]
    exact collect_split hnd hreg
  constructor
  · intro h
    cases hd : SensorImpl.processAll (b.inputs raw (S.takeWhile raw.contains)) b.rng with
    | error e' =>
      rw [sample_of_collect_error (by rw [hwalk, hd]; rfl), Except.error.injEq] at h
      rw [h]
    | ok r =>
      -- the rest of the walk answers, so the sample does
      obtain ⟨⟨o, M, b'⟩, hc⟩ : ∃ res, collect raw (b.scheduled (b.cycleOf t)) {} b = .ok res := by
        rw [hwalk, hd]
        exact collect_dropWhile_ok S _ _
      cases o with
      | error q => rw [sample_of_collect_missing hc] at h; cases h
      | ok M' => rw [sample_of_collect_done hc] at h; cases h
  · intro h
    exact sample_of_collect_error (by rw [hwalk, h]; rfl)

variable {r : List (Value × ς)} {rng : Random}
  (hdraws : SensorImpl.processAll (b.inputs raw (S.takeWhile raw.contains)) b.rng = .ok (r, rng))
include hdraws

/-- After the draws, when every scheduled property has a raw value, the sample answers the
samples of all of them, or none when nothing is scheduled. -/
theorem sample_of_all_present (hpost : S.dropWhile raw.contains = []) :
    b.sample t raw = .ok (.ok (if S.isEmpty then none
        else some (NameMap.insertAll {} ((S.takeWhile raw.contains).zip (r.map (·.1))))),
      { b with sensors := b.sensors.insertAll ((S.takeWhile raw.contains).zip (r.map (·.2))),
               rng },
      b.record t raw (NameMap.insertAll {} ((S.takeWhile raw.contains).zip (r.map (·.1))))) := by
  have hc : collect raw (b.scheduled (b.cycleOf t)) {} b =
      .ok (.ok (NameMap.insertAll {} ((S.takeWhile raw.contains).zip (r.map (·.1)))),
        NameMap.insertAll {} ((S.takeWhile raw.contains).zip (r.map (·.1))),
        { b with sensors := b.sensors.insertAll ((S.takeWhile raw.contains).zip (r.map (·.2))),
                 rng }) := by
    rw [hS, collect_split hnd hreg, hdraws, hpost]
    rfl
  have hsample := sample_of_collect_done hc
  rwa [hS] at hsample

/-- After the draws, when a scheduled property has no raw value, the sample names the first
such property. -/
theorem sample_of_first_missing {q : String} {rest : List String}
    (hpost : S.dropWhile raw.contains = q :: rest) :
    b.sample t raw = .ok (.error (.missingProperty q),
      { b with sensors := b.sensors.insertAll ((S.takeWhile raw.contains).zip (r.map (·.2))),
               rng },
      b.record t raw (NameMap.insertAll {} ((S.takeWhile raw.contains).zip (r.map (·.1))))) := by
  apply sample_of_collect_missing
  rw [hS, collect_split hnd hreg, hdraws, hpost]
  exact collect_cons_missing (missing_of_dropWhile hpost) rest _ _

end Scheduled

/-! ## §4. The answer -/

/-- What the answer `out` of a sample says, for the scheduled properties `S`, the raw values
`raw`, and the samples `xs` of the properties before the first one without a raw value. -/
structure SampleAnswer (S : List String) (raw : PropMap) (xs : List Value)
    (out : Except Fault (Option PropMap)) : Prop where
  /-- none exactly when nothing is scheduled -/
  none_iff : out = .ok none ↔ S = []
  /-- the samples exactly when every scheduled property has a raw value -/
  some_iff : ∀ M, out = .ok (some M) ↔ S ≠ [] ∧ (∀ p ∈ S, p ∈ raw.keys) ∧ M.entries = S.zip xs
  /-- otherwise the first scheduled property without a raw value -/
  error_iff : ∀ f, out = .error f ↔ ∃ q rest, f = .missingProperty q ∧
    S = S.takeWhile raw.contains ++ q :: rest ∧ q ∉ raw.keys ∧
    ∀ p ∈ S.takeWhile raw.contains, p ∈ raw.keys

/-- The properties before the first one without a raw value have raw values. -/
theorem keys_of_takeWhile (S : List String) : ∀ p ∈ S.takeWhile raw.contains, p ∈ raw.keys :=
  fun p hp => (NameMap.contains_eq_true_iff raw).1 (List.all_eq_true.1 List.all_takeWhile p hp)

/-- When every scheduled property has a raw value, the sample answers their samples, or none
when nothing is scheduled. -/
theorem answer_of_all_present {S : List String} (hpost : S.dropWhile raw.contains = [])
    {xs : List Value} {M : PropMap} (hM : M.entries = (S.takeWhile raw.contains).zip xs) :
    SampleAnswer S raw xs (.ok (if S.isEmpty then none else some M)) := by
  have hsplit : S = S.takeWhile raw.contains ++ S.dropWhile raw.contains :=
    List.takeWhile_append_dropWhile.symm
  have hpreS : S.takeWhile raw.contains = S := by simpa [hpost] using hsplit.symm
  have hall : ∀ p ∈ S, p ∈ raw.keys := fun p hp =>
    keys_of_takeWhile S p (by rw [hpreS]; exact hp)
  refine ⟨?_, fun M' => ⟨fun hM' => ?_, fun ⟨hne, _, hM'⟩ => ?_⟩, fun f => ⟨fun hf => ?_, ?_⟩⟩
  · cases S with
    | nil => simp
    | cons p ps => simp
  · cases hSe : S with
    | nil => simp [hSe] at hM'
    | cons p ps =>
      simp only [hSe, List.isEmpty_cons, Bool.false_eq_true, if_false, Except.ok.injEq,
        Option.some.injEq] at hM'
      subst hM'
      refine ⟨List.cons_ne_nil p ps, hSe ▸ hall, ?_⟩
      rw [← hSe]
      exact hM.trans (congrArg (·.zip xs) hpreS)
  · have hempty : S.isEmpty = false := List.isEmpty_eq_false_iff.2 hne
    rw [hempty]
    simp only [Bool.false_eq_true, if_false, Except.ok.injEq, Option.some.injEq]
    apply NameMap.ext
    rw [hM', hM, hpreS]
  · split at hf <;> cases hf
  · -- no property follows the whole of `S`
    rintro ⟨q, rest, -, hSq, -⟩
    have hlen := congrArg List.length hSq
    rw [hpreS] at hlen
    simp at hlen

/-- When a scheduled property has no raw value, the sample names the first such property. -/
theorem answer_of_first_missing {S rest : List String} {q : String}
    (hpost : S.dropWhile raw.contains = q :: rest) (xs : List Value) :
    SampleAnswer S raw xs (.error (.missingProperty q)) := by
  have hsplit : S = S.takeWhile raw.contains ++ S.dropWhile raw.contains :=
    List.takeWhile_append_dropWhile.symm
  have hq : raw.contains q = false := missing_of_dropWhile hpost
  have hqS : q ∈ S := by
    rw [hsplit, hpost]
    simp
  have hqkeys : q ∉ raw.keys := fun hk => by
    rw [← NameMap.contains_eq_true_iff] at hk
    rw [hk] at hq
    cases hq
  have hne : S ≠ [] := List.ne_nil_of_mem hqS
  refine ⟨⟨fun h => (by cases h), fun h => absurd h hne⟩, fun M => ⟨fun h => (by cases h),
    fun ⟨_, hall, _⟩ => absurd (hall q hqS) hqkeys⟩,
    fun f => ⟨fun hf => ?_, fun ⟨q', rest', hf, hSq', _⟩ => ?_⟩⟩
  · cases hf
    exact ⟨q, rest, rfl, hpost ▸ hsplit, hqkeys, keys_of_takeWhile S⟩
  · -- a split of `S` after the present properties meets `q` next
    have heq : S.takeWhile raw.contains ++ q :: rest =
        S.takeWhile raw.contains ++ q' :: rest' := by
      rw [← hpost, ← hsplit]
      exact hSq'
    rw [List.append_cancel_left_eq, List.cons.injEq] at heq
    rw [hf, heq.1]

/-- A sample that returns made the draws of the scheduled properties, in increasing byte order,
up to the first missing one; it filed their sensors back, left the generator where the draws
left it, made the record of their samples, and answered as `SampleAnswer` says. -/
theorem sample_eq_ok_cases {t : Nat} {S : List String} (hS : b.scheduled (b.cycleOf t) = S)
    (hsorted : S.Pairwise (· < ·)) (hreg : ∀ p ∈ S, ∃ s, b.sensors.get? p = some s)
    {out : Except Fault (Option PropMap)} {b' : SensorBank ς} {row : Record}
    (h : b.sample t raw = .ok (out, b', row)) :
    ∃ r rng, SensorImpl.processAll (b.inputs raw (S.takeWhile raw.contains)) b.rng = .ok (r, rng) ∧
      b' = { b with sensors := b.sensors.insertAll ((S.takeWhile raw.contains).zip (r.map (·.2))),
                    rng } ∧
      row = b.record t raw (NameMap.insertAll {} ((S.takeWhile raw.contains).zip (r.map (·.1)))) ∧
      SampleAnswer S raw (r.map (·.1)) out := by
  have hnd : S.Nodup := hsorted.imp fun {a c} (h : a < c) (heq : a = c) => by
    subst heq
    exact String.lt_irrefl a h
  cases hd : SensorImpl.processAll (b.inputs raw (S.takeWhile raw.contains)) b.rng with
  | error e =>
    rw [(sample_eq_error_iff hS hnd hreg e).2 hd] at h
    cases h
  | ok res =>
    obtain ⟨r, rng⟩ := res
    have hlen : (r.map (·.1)).length = (S.takeWhile raw.contains).length := by
      rw [List.length_map, SensorImpl.processAll_length hd, inputs_length (present_of_takeWhile hreg)]
    have hentries := insertAll_entries (hsorted.sublist (List.takeWhile_sublist _)) hlen
    refine ⟨r, rng, rfl, ?_⟩
    cases hpost : S.dropWhile raw.contains with
    | nil =>
      rw [sample_of_all_present hS hnd hreg hd hpost, Except.ok.injEq, Prod.mk.injEq,
        Prod.mk.injEq] at h
      obtain ⟨rfl, rfl, rfl⟩ := h
      exact ⟨rfl, rfl, answer_of_all_present hpost hentries⟩
    | cons q rest =>
      rw [sample_of_first_missing hS hnd hreg hd hpost, Except.ok.injEq, Prod.mk.injEq,
        Prod.mk.injEq] at h
      obtain ⟨rfl, rfl, rfl⟩ := h
      exact ⟨rfl, rfl, answer_of_first_missing hpost _⟩

/-- A sample of a bank reached by any registrations at tick rate `P`, at tick `t`, over the raw
values `raw`. Let `S` be the properties scheduled on cycle `t % P`, and `pre` the longest prefix
of `S` whose properties all have raw values. The sensors of `pre` process their raw values in
order (`SensorImpl.processAll`); the call fails exactly when one of their draws fails.
Otherwise, with the samples `xs` and the sensors after, one per property of `pre`, it files
those sensors under their properties, leaves the generator where the draws left it, and answers
none exactly when `S` is empty; `S` paired with `xs` exactly when every property of `S` has a
raw value; and otherwise the missing property `q` that follows `pre` in `S`. In every case its
record is the tick, then per registered property in byte order the raw value and the sample
made for it in this call, NaN where there is none. -/
theorem sample_outcome_record (P : Nat) (ss : List ς) (t : Nat) (raw : PropMap) :
    let b := registerEach ({ plantFreq := P } : SensorBank ς) ss
    let S := b.scheduled (t % P)
    let pre := S.takeWhile raw.contains
    (∀ e, b.sample t raw = .error e ↔
      SensorImpl.processAll (b.inputs raw pre) b.rng = .error e) ∧
    ∀ r rng, SensorImpl.processAll (b.inputs raw pre) b.rng = .ok (r, rng) →
      r.length = pre.length ∧
      ∃ out row, b.sample t raw =
          .ok (out, { b with sensors := b.sensors.insertAll (pre.zip (r.map (·.2))), rng }, row) ∧
        (out = .ok none ↔ S = []) ∧
        (∀ M, out = .ok (some M) ↔
          S ≠ [] ∧ (∀ p ∈ S, p ∈ raw.keys) ∧ M.entries = S.zip (r.map (·.1))) ∧
        (∀ f, out = .error f ↔ ∃ q rest, f = .missingProperty q ∧ S = pre ++ q :: rest ∧
          q ∉ raw.keys ∧ ∀ p ∈ pre, p ∈ raw.keys) ∧
        row.fields = ("plant_seq", Binary64.ofInt t) :: (b.sensors.keys.map fun p =>
          [(p ++ "_value", ((raw.get? p).map Value.toFloat).getD Binary64.nan),
           (p ++ "_sample", (((pre.zip (r.map (·.1))).lookup p).map Value.toFloat).getD
             Binary64.nan)]).flatten := by
  intro b S pre
  have hvalid : b.Valid := (valid_new P).registerEach ss
  have hS : b.scheduled (b.cycleOf t) = S := by
    rw [hvalid.scheduled_cycleOf_eq_mod, registerEach_plantFreq]
  have hreg : ∀ p ∈ S, ∃ s, b.sensors.get? p = some s := fun p hp => by
    rw [hvalid.mem_scheduled] at hp
    obtain ⟨s, hs, -⟩ := hp
    exact ⟨s, hs⟩
  have hsortedS : S.Pairwise (· < ·) := hvalid.scheduled_sorted (t % P)
  have hnd : S.Nodup := hsortedS.imp fun {a c} (h : a < c) (heq : a = c) => by
    subst heq
    exact String.lt_irrefl a h
  have hpre : ∀ p ∈ pre, (∃ s, b.sensors.get? p = some s) ∧ raw.contains p = true :=
    present_of_takeWhile hreg
  have hsorted : pre.Pairwise (· < ·) := hsortedS.sublist (List.takeWhile_sublist _)
  refine ⟨sample_eq_error_iff hS hnd hreg, fun r rng hdraws => ?_⟩
  have hlen : r.length = pre.length :=
    (SensorImpl.processAll_length hdraws).trans (inputs_length hpre)
  have hlenv : (r.map (·.1)).length = pre.length := by rw [List.length_map, hlen]
  have hentries := insertAll_entries hsorted hlenv
  have hrow : (b.record t raw (NameMap.insertAll {} (pre.zip (r.map (·.1))))).fields =
      ("plant_seq", Binary64.ofInt t) :: (b.sensors.keys.map fun p =>
        [(p ++ "_value", ((raw.get? p).map Value.toFloat).getD Binary64.nan),
         (p ++ "_sample", (((pre.zip (r.map (·.1))).lookup p).map Value.toFloat).getD
           Binary64.nan)]).flatten := by
    rw [record_fields, hentries]
  refine ⟨hlen, ?_⟩
  cases hpost : S.dropWhile raw.contains with
  | nil =>
    -- every scheduled property has a raw value: the walk gets through all of `S`
    have hans := answer_of_all_present hpost hentries
    exact ⟨_, _, sample_of_all_present hS hnd hreg hdraws hpost, hans.none_iff, hans.some_iff,
      hans.error_iff, hrow⟩
  | cons q rest =>
    -- the walk stops at `q`, the first scheduled property without a raw value
    have hans := answer_of_first_missing hpost (r.map (·.1))
    exact ⟨_, _, sample_of_first_missing hS hnd hreg hdraws hpost, hans.none_iff, hans.some_iff,
      hans.error_iff, hrow⟩

/-- A sensor whose draw cannot be made stops the program rather than answer: a noisy sensor of
infinite spread, alone at rate 1, sampled at tick 0 with a value for its property. -/
theorem sample_panics_on_infinite_noise :
    (registerEach ({ plantFreq := 1 } : SensorBank Sensor) [Sensor.noisy "x" 1 (1.0 / 0.0)]).sample
      0 (NameMap.ofList [("x", .bool true)]) = .error .nonFinite := by
  rw [sample_eq_error_iff (S := ["x"]) (by decide +kernel) (by decide)
    fun p hp => ⟨_, by simp at hp; subst hp; rfl⟩]
  show (SensorImpl.process (Sensor.noisy "x" 1 (1.0 / 0.0)) {} (Value.bool true)).bind _ = _
  simp only [SensorImpl.process, Sensor.process_infinite_spread]
  rfl

end SensorBank

end ControlLoop
