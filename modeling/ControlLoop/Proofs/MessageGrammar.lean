import ControlLoop.Proofs.PackGrammar
import ControlLoop.Proofs.ReplyAccounting
import Mathlib.Data.List.Nodup

/-! # Which bytes are a message

`Message.decode` reads one object from the front of its bytes and takes the message it stands
for. This module says, without the reader and without the field-by-field fold, which bytes
those are.

## Objects that stand for a message

`Message.Form o m` says that the object `o` stands for the message `m`:

  * a map whose keys are all text, binary or unsigned integers, in which exactly one entry
    names each of the four fields (`msg_type`, `seq`, `timestamp`, `payload`) and whatever
    else it holds is passed over; a key names a field when it is text or binary holding the
    field's name in UTF-8, or the field's number (`Message.namesField`);
  * or an array of exactly the four fields in order;

and the fields read as `m`'s (`Message.FieldsRead`): the type an integer of any width equal to
a kind's code, the sequence number an integer of any width below `2 ^ 64`, the timestamp any
integer or float as a double, and the payload a map from UTF-8 names to values, the last of a
name given twice winning (`Message.PayloadForm`).

`Message.ofObj?_eq_some_iff` proves that this is exactly what `Message.ofObj?` accepts. The fold
over a map's entries reads the four fields independently, each from the values of the entries
that name it (`Message.foldlM_readField`), which is what lets the order of the entries and the
skipped ones drop out of the statement.

## Bytes that are a message

`Message.decode_eq_iff`: no bytes are no message; bytes are the message `m` exactly when they
begin with a spelling (`Pack.Spells`, nested at most 1024 levels deep in all) of an object
that stands for `m`; and every other input is malformed.
-/

namespace ControlLoop

namespace Pack

/-! ## §1. Names -/

/-- Text decoded from UTF-8 bytes has those bytes. -/
theorem bytesOf_of_utf8? {bs : List UInt8} {s : String} (h : utf8? bs = some s) :
    bytesOf s = bs := by
  unfold utf8? String.fromUTF8? at h
  split at h
  · cases h
    simp [bytesOf, String.fromUTF8, ByteArray.toList, toList_loop]
  · cases h

/-- Bytes decode to a text exactly when they are its UTF-8 bytes. -/
theorem utf8?_eq_some_iff {bs : List UInt8} {s : String} : utf8? bs = some s ↔ bs = bytesOf s :=
  ⟨fun h => (bytesOf_of_utf8? h).symm, fun h => h ▸ utf8?_bytesOf s⟩

/-- Distinct texts have distinct UTF-8 bytes. -/
theorem bytesOf_injective : Function.Injective bytesOf := fun s t h => by
  have hs := utf8?_bytesOf s
  rw [h, utf8?_bytesOf] at hs
  exact (Option.some.inj hs).symm

end Pack

open Pack

/-- In a list without repeats, an item's first position is its only one. -/
theorem idxOf?_eq_some_iff_of_nodup {α : Type} [BEq α] [LawfulBEq α] {l : List α} (hl : l.Nodup)
    {a : α} {i : Nat} : l.idxOf? a = some i ↔ l[i]? = some a := by
  rw [List.idxOf?_eq_some_iff, List.getElem?_eq_some_iff]
  constructor
  · rintro ⟨h, ha, -⟩
    exact ⟨h, ha⟩
  · rintro ⟨h, ha⟩
    refine ⟨h, ha, fun j hj hja => ?_⟩
    have := (List.getElem_inj hl).1 (hja.trans ha.symm)
    omega

namespace Message

/-! ## §2. Keys -/

/-- Whether a key names field `i` of a message (`msg_type`, `seq`, `timestamp`, `payload`, in
that order): text or binary holding the field's name in UTF-8, or the number `i`. -/
def namesField (k : Obj) (i : Nat) : Bool :=
  match k with
  | .str bs | .bin bs => fieldNames[i]?.map bytesOf == some bs
  | .uint n => i < 4 && n == i
  | _ => false

/-- Whether an object can be a key of a message: text, binary or an unsigned integer. -/
def isKey : Obj → Bool
  | .str _ | .bin _ | .uint _ => true
  | _ => false

theorem fieldNames_nodup : fieldNames.Nodup := by decide

/-- Only the four fields are named. -/
theorem lt_of_namesField {k : Obj} {i : Nat} (h : namesField k i = true) : i < 4 := by
  cases k
  case str bs =>
    obtain ⟨_, hi, -⟩ := Option.map_eq_some_iff.1 (beq_iff_eq.1 h)
    exact (List.getElem?_eq_some_iff.1 hi).1
  case bin bs =>
    obtain ⟨_, hi, -⟩ := Option.map_eq_some_iff.1 (beq_iff_eq.1 h)
    exact (List.getElem?_eq_some_iff.1 hi).1
  case uint n =>
    simp only [namesField, Bool.and_eq_true, decide_eq_true_eq] at h
    exact h.1
  all_goals cases h

/-- A key names field `i` exactly when the reader takes it for that field. -/
theorem fieldOf_eq_some_some_iff {k : Obj} {i : Nat} :
    fieldOf k = some (some i) ↔ namesField k i = true := by
  cases k
  case str bs =>
    -- text is decoded first, then looked up among the names
    simp only [fieldOf, namesField, Option.some.injEq, Option.bind_eq_some_iff, beq_iff_eq,
      Option.map_eq_some_iff]
    constructor
    · rintro ⟨s, hs, hi⟩
      exact ⟨s, (idxOf?_eq_some_iff_of_nodup fieldNames_nodup).1 hi, bytesOf_of_utf8? hs⟩
    · rintro ⟨s, hi, rfl⟩
      exact ⟨s, utf8?_bytesOf s, (idxOf?_eq_some_iff_of_nodup fieldNames_nodup).2 hi⟩
  case bin bs =>
    -- binary is compared with the names' bytes
    simp only [fieldOf, namesField, Option.some.injEq, beq_iff_eq]
    rw [idxOf?_eq_some_iff_of_nodup (List.Nodup.map bytesOf_injective fieldNames_nodup),
      List.getElem?_map]
  case uint n =>
    simp only [fieldOf, namesField, Bool.and_eq_true, decide_eq_true_eq, beq_iff_eq]
    split_ifs with h <;> simp <;> omega
  all_goals simp [fieldOf, namesField]

/-- The reader refuses exactly the keys that are not text, binary or unsigned integers. -/
theorem fieldOf_eq_none_iff {k : Obj} : fieldOf k = none ↔ isKey k = false := by
  cases k <;> simp [fieldOf, isKey]

/-- A key the reader does not refuse is text, binary or an unsigned integer. -/
theorem isKey_of_fieldOf_eq_some {k : Obj} {x : Option Nat} (h : fieldOf k = some x) :
    isKey k = true := by
  cases hk : isKey k
  · rw [fieldOf_eq_none_iff.2 hk] at h
    cases h
  · rfl

/-! ## §3. The four fields, each on its own -/

/-- The values of the entries whose keys name field `i`, in order. -/
def fieldValues (es : List (Obj × Obj)) (i : Nat) : List Obj :=
  (es.filter fun e => namesField e.1 i).map Prod.snd

/-- One step of the fold over a map's entries: a key that names a field reads its value into
that field, any other key is passed over, and an object that cannot be a key fails. -/
def readField (f : Fields) (e : Obj × Obj) : Option Fields :=
  (fieldOf e.1).bind fun x => x.elim (some f) fun i => f.put i e.2

/-- A map stands for the message its entries' fields make. -/
theorem ofObj?_map (es : List (Obj × Obj)) :
    ofObj? (.map es) = (es.foldlM readField {}).bind Fields.finish := by
  simp only [ofObj?, bind]
  congr 2
  funext f e
  simp only [readField]
  rcases fieldOf e.1 with _ | _ | i <;> rfl

/-- Reads values one after another into a field that holds `cur`; a field met twice fails. -/
def putOnce {α : Type} (read : Obj → Option α) : Option α → List Obj → Option (Option α)
  | cur, [] => some cur
  | cur, v :: vs => if cur.isSome then none else (read v).bind fun x => putOnce read (some x) vs

/-- The four fields read independently, each from the values of the entries that name it. -/
def putFields (f : Fields) (es : List (Obj × Obj)) : Option Fields := do
  let kind ← putOnce kindOf? f.kind (fieldValues es 0)
  let seq ← putOnce seqOf? f.seq (fieldValues es 1)
  let timestamp ← putOnce Obj.toDouble? f.timestamp (fieldValues es 2)
  let payload ← putOnce payloadOf? f.payload (fieldValues es 3)
  pure { kind, seq, timestamp, payload }

/-- An entry whose key names no field leaves every field's values as they were. -/
theorem fieldValues_cons_of_not {e : Obj × Obj} {es : List (Obj × Obj)} {i : Nat}
    (h : namesField e.1 i = false) : fieldValues (e :: es) i = fieldValues es i := by
  simp [fieldValues, h]

/-- An entry whose key names field `i` puts its value first among that field's values. -/
theorem fieldValues_cons_of_names {e : Obj × Obj} {es : List (Obj × Obj)} {i : Nat}
    (h : namesField e.1 i = true) : fieldValues (e :: es) i = e.2 :: fieldValues es i := by
  simp [fieldValues, h]

/-- A key names at most one field. -/
theorem namesField_unique {k : Obj} {i j : Nat} (hi : namesField k i = true)
    (hj : namesField k j = true) : i = j := by
  have hi' := fieldOf_eq_some_some_iff.2 hi
  rw [fieldOf_eq_some_some_iff.2 hj] at hi'
  exact (Option.some.inj (Option.some.inj hi')).symm

/-- An entry whose key names no field changes no field. -/
theorem putFields_cons_of_not {e : Obj × Obj} {es : List (Obj × Obj)} {f : Fields}
    (h : ∀ i, namesField e.1 i = false) : putFields f (e :: es) = putFields f es := by
  simp only [putFields, fieldValues_cons_of_not (h _)]

/-- An entry whose key names field `i` is read into that field first; the order in which the
fields are read changes nothing, as a failure anywhere fails the whole. -/
theorem putFields_cons_of_names {e : Obj × Obj} {es : List (Obj × Obj)} {f : Fields} {i : Nat}
    (h : namesField e.1 i = true) :
    putFields f (e :: es) = (f.put i e.2).bind fun f' => putFields f' es := by
  have hother : ∀ j, j ≠ i → namesField e.1 j = false := fun j hj => by
    cases hj' : namesField e.1 j
    · rfl
    · exact absurd (namesField_unique hj' h) hj
  have hi := lt_of_namesField h
  interval_cases i
  · rcases hcur : f.kind with _ | k₀ <;> rcases hread : kindOf? e.2 with _ | x <;>
      simp [putFields, Fields.put, fieldValues_cons_of_names h, hcur, hread, putOnce,
        fieldValues_cons_of_not (hother 1 (by decide)),
        fieldValues_cons_of_not (hother 2 (by decide)),
        fieldValues_cons_of_not (hother 3 (by decide))]
  · rcases hcur : f.seq with _ | s₀ <;> rcases hread : seqOf? e.2 with _ | x <;>
      simp [putFields, Fields.put, fieldValues_cons_of_names h, hcur, hread, putOnce,
        fieldValues_cons_of_not (hother 0 (by decide)),
        fieldValues_cons_of_not (hother 2 (by decide)),
        fieldValues_cons_of_not (hother 3 (by decide))]
  · rcases hcur : f.timestamp with _ | t₀ <;> rcases hread : e.2.toDouble? with _ | x <;>
      simp [putFields, Fields.put, fieldValues_cons_of_names h, hcur, hread, putOnce,
        fieldValues_cons_of_not (hother 0 (by decide)),
        fieldValues_cons_of_not (hother 1 (by decide)),
        fieldValues_cons_of_not (hother 3 (by decide))]
  · rcases hcur : f.payload with _ | p₀ <;> rcases hread : payloadOf? e.2 with _ | x <;>
      simp [putFields, Fields.put, fieldValues_cons_of_names h, hcur, hread, putOnce,
        fieldValues_cons_of_not (hother 0 (by decide)),
        fieldValues_cons_of_not (hother 1 (by decide)),
        fieldValues_cons_of_not (hother 2 (by decide))]

/-- The fold over a map's entries reads the four fields independently: it fails if some key
cannot be a key, and otherwise reads each field from the values of the entries that name it. -/
theorem foldlM_readField (es : List (Obj × Obj)) (f : Fields) :
    es.foldlM readField f = if es.all (isKey ·.1) then putFields f es else none := by
  induction es generalizing f with
  | nil => cases f; rfl
  | cons e es ih =>
    rw [List.foldlM_cons, List.all_cons]
    rcases hk : fieldOf e.1 with _ | _ | i
    · -- an object that cannot be a key
      simp [readField, hk, fieldOf_eq_none_iff.1 hk]
    · -- a key that names no field is passed over
      have hkey := isKey_of_fieldOf_eq_some hk
      have hnot : ∀ i, namesField e.1 i = false := fun i => by
        cases h : namesField e.1 i
        · rfl
        · rw [fieldOf_eq_some_some_iff.2 h] at hk
          cases hk
      simp only [readField, hk, Option.bind_eq_bind, Option.bind_some, Option.elim, ih, hkey,
        Bool.true_and, putFields_cons_of_not hnot]
    · -- a key that names field `i` reads its value into that field
      have hkey := isKey_of_fieldOf_eq_some hk
      simp only [readField, hk, Option.bind_eq_bind, Option.bind_some, Option.elim, ih, hkey,
        Bool.true_and, putFields_cons_of_names (fieldOf_eq_some_some_iff.1 hk)]
      split_ifs <;> simp

/-! ## §4. Each field read once -/

/-- A field that starts empty comes to hold `x` exactly when it is given one value, which
reads as `x`; a second value finds the field filled. -/
theorem putOnce_none_eq_some_some_iff {α : Type} {read : Obj → Option α} {vs : List Obj}
    {x : α} : putOnce read none vs = some (some x) ↔ ∃ v, vs = [v] ∧ read v = some x := by
  rcases vs with _ | ⟨v, _ | ⟨w, ws⟩⟩
  · simp [putOnce]
  · simp [putOnce, Option.bind_eq_some_iff]
  · simp [putOnce]

/-- Fields make a message when all four are filled, with the message's values. -/
theorem finish_eq_some_iff {k : Option Kind} {s : Option Nat} {t : Option Double}
    {p : Option PropMap} {m : Message} :
    Fields.finish ⟨k, s, t, p⟩ = some m ↔
      k = some m.kind ∧ s = some m.seq ∧ t = some m.timestamp ∧ p = some m.payload := by
  rcases m with ⟨kd, n, ts, pm⟩
  rcases k with _ | k <;> rcases s with _ | s <;> rcases t with _ | t <;> rcases p with _ | p <;>
    simp [Fields.finish]

/-- The fields read from a map's entries make `m` exactly when each field is named by exactly
one entry, whose value reads as `m`'s. -/
theorem putFields_finish_eq_some_iff {es : List (Obj × Obj)} {m : Message} :
    (putFields {} es).bind Fields.finish = some m ↔
      ∃ k s t p, fieldValues es 0 = [k] ∧ fieldValues es 1 = [s] ∧ fieldValues es 2 = [t] ∧
        fieldValues es 3 = [p] ∧ kindOf? k = some m.kind ∧ seqOf? s = some m.seq ∧
        t.toDouble? = some m.timestamp ∧ payloadOf? p = some m.payload := by
  constructor
  · intro h
    obtain ⟨f, hf, hm⟩ := Option.bind_eq_some_iff.1 h
    simp only [putFields, Option.bind_eq_bind, Option.bind_eq_some_iff, Option.pure_def,
      Option.some.injEq] at hf
    obtain ⟨kind, hk, seq, hs, ts, ht, pl, hp, rfl⟩ := hf
    obtain ⟨rfl, rfl, rfl, rfl⟩ := finish_eq_some_iff.1 hm
    obtain ⟨k, hk0, hk⟩ := putOnce_none_eq_some_some_iff.1 hk
    obtain ⟨s, hs1, hs⟩ := putOnce_none_eq_some_some_iff.1 hs
    obtain ⟨t, ht2, ht⟩ := putOnce_none_eq_some_some_iff.1 ht
    obtain ⟨p, hp3, hp⟩ := putOnce_none_eq_some_some_iff.1 hp
    exact ⟨k, s, t, p, hk0, hs1, ht2, hp3, hk, hs, ht, hp⟩
  · rintro ⟨k, s, t, p, h0, h1, h2, h3, hk, hs, ht, hp⟩
    simp [putFields, h0, h1, h2, h3, putOnce, hk, hs, ht, hp, Fields.finish]

end Message

/-! ## §5. The values of the fields -/

/-- A fold whose step succeeds exactly on an item related to some reading `x`, combining `x`
into what it carries, succeeds exactly along a reading of every item, combined in order. -/
theorem foldlM_eq_some_iff_forall₂ {α β γ : Type} {step : β → α → Option β}
    {R : α → γ → Prop} {g : β → γ → β} (hstep : ∀ b a b', step b a = some b' ↔ ∃ x, R a x ∧ b' = g b x) :
    ∀ {as : List α} {b r : β}, as.foldlM step b = some r ↔
      ∃ xs, List.Forall₂ R as xs ∧ r = xs.foldl g b
  | [], b, r => by simp [eq_comm]
  | a :: as, b, r => by
    simp only [List.foldlM_cons, Option.bind_eq_bind, Option.bind_eq_some_iff]
    constructor
    · rintro ⟨b', hb', h⟩
      obtain ⟨x, hx, rfl⟩ := (hstep b a b').1 hb'
      obtain ⟨xs, hxs, rfl⟩ := (foldlM_eq_some_iff_forall₂ hstep).1 h
      exact ⟨x :: xs, .cons hx hxs, rfl⟩
    · rintro ⟨_ | ⟨x, xs⟩, hall, rfl⟩
      · cases hall
      · obtain ⟨hx, hxs⟩ := List.forall₂_cons.1 hall
        exact ⟨g b x, (hstep b a _).2 ⟨x, hx, rfl⟩,
          (foldlM_eq_some_iff_forall₂ hstep).2 ⟨xs, hxs, rfl⟩⟩

namespace Kind

/-- A kind is read from its code and from no other number. -/
theorem ofCode?_eq_some_iff {n : Nat} {kd : Kind} : ofCode? n = some kd ↔ n = kd.code := by
  constructor
  · intro h
    unfold ofCode? at h
    split at h <;> cases h <;> rfl
  · rintro rfl
    cases kd <;> rfl

end Kind

namespace Message

/-- The type field holds an integer of any width equal to the kind's code. -/
theorem kindOf?_eq_some_iff {o : Obj} {kd : Kind} :
    kindOf? o = some kd ↔ o.toInt? = some (kd.code : Int) := by
  have hcode : kd.code < 256 := by cases kd <;> decide
  simp only [kindOf?, Option.bind_eq_bind, Option.bind_eq_some_iff]
  constructor
  · rintro ⟨i, hi, h⟩
    split_ifs at h with hr
    rw [Kind.ofCode?_eq_some_iff] at h
    rw [hi, ← h, Int.toNat_of_nonneg hr.1]
  · intro h
    refine ⟨_, h, ?_⟩
    rw [if_pos ⟨by omega, by omega⟩, Int.toNat_natCast, Kind.ofCode?_eq_some_iff]

/-- The sequence number is an integer of any width below `2 ^ 64`. -/
theorem seqOf?_eq_some_iff {o : Obj} {n : Nat} :
    seqOf? o = some n ↔ o.toInt? = some (n : Int) ∧ n < 2 ^ 64 := by
  simp only [seqOf?, Option.bind_eq_bind, Option.bind_eq_some_iff]
  constructor
  · rintro ⟨i, hi, h⟩
    split_ifs at h with hr
    obtain rfl := Option.some.inj h
    exact ⟨by rw [hi, Int.toNat_of_nonneg hr.1], by omega⟩
  · rintro ⟨h, hn⟩
    refine ⟨_, h, ?_⟩
    rw [if_pos ⟨by omega, by omega⟩, Int.toNat_natCast]

/-- A payload entry names the value `x.2` by `x.1`: its key is text or binary holding the name
in UTF-8, and its value reads as `x.2`. -/
def NamedValue (e : Obj × Obj) (x : String × Value) : Prop :=
  (e.1 = .str (bytesOf x.1) ∨ e.1 = .bin (bytesOf x.1)) ∧ Value.ofObj? e.2 = some x.2

/-- The object `p` stands for the payload `pm`: a map whose entries name values, `pm` being the
map of those names and values taken in order, so that the last of a name given twice wins. -/
def PayloadForm (p : Obj) (pm : PropMap) : Prop :=
  ∃ es named, p = .map es ∧ List.Forall₂ NamedValue es named ∧ pm = NameMap.ofList named

/-- The payload field holds a map from UTF-8 names to values. -/
theorem payloadOf?_eq_some_iff {p : Obj} {pm : PropMap} : payloadOf? p = some pm ↔ PayloadForm p pm := by
  cases p
  case map es =>
    simp only [payloadOf?]
    refine (@foldlM_eq_some_iff_forall₂ _ _ _ _ NamedValue (fun m x => m.insert x.1 x.2) ?_ es _ _).trans ?_
    · -- one step succeeds exactly on an entry that names a value, which it inserts
      rintro m ⟨k, v⟩ m'
      cases k
      case str bs | bin bs =>
        simp only [NamedValue, Option.bind_eq_bind, Option.bind_eq_some_iff, utf8?_eq_some_iff,
          Obj.str.injEq, Obj.bin.injEq, reduceCtorEq, or_false, false_or, Option.pure_def,
          Option.some.injEq, Prod.exists]
        constructor
        · rintro ⟨name, rfl, val, hv, rfl⟩
          exact ⟨name, val, ⟨rfl, hv⟩, rfl⟩
        · rintro ⟨name, val, ⟨rfl, hv⟩, rfl⟩
          exact ⟨name, rfl, val, hv, rfl⟩
      all_goals simp [NamedValue]
    · -- the fold's result is the map of the names and values, inserted in order
      constructor
      · rintro ⟨named, hall, rfl⟩
        exact ⟨es, named, rfl, hall, rfl⟩
      · rintro ⟨_, named, ⟨⟩, hall, rfl⟩
        exact ⟨named, hall, rfl⟩
  all_goals simp [payloadOf?, PayloadForm]

/-! ## §6. Objects that stand for a message -/

/-- The four objects read as the fields of `m`: the type an integer of any width equal to the
code of `m`'s kind, the sequence number an integer of any width below `2 ^ 64`, the timestamp
an integer or float taken as a double, and the payload a map of named values. -/
structure FieldsRead (k s t p : Obj) (m : Message) : Prop where
  kind : k.toInt? = some (m.kind.code : Int)
  seq : s.toInt? = some (m.seq : Int)
  seq_lt : m.seq < 2 ^ 64
  timestamp : t.toDouble? = some m.timestamp
  payload : PayloadForm p m.payload

/-- The four fields read as the reader reads them. -/
theorem fieldsRead_iff {k s t p : Obj} {m : Message} :
    FieldsRead k s t p m ↔ kindOf? k = some m.kind ∧ seqOf? s = some m.seq ∧
      t.toDouble? = some m.timestamp ∧ payloadOf? p = some m.payload := by
  rw [kindOf?_eq_some_iff, seqOf?_eq_some_iff, payloadOf?_eq_some_iff]
  constructor
  · rintro ⟨hk, hs, hlt, ht, hp⟩
    exact ⟨hk, ⟨hs, hlt⟩, ht, hp⟩
  · rintro ⟨hk, ⟨hs, hlt⟩, ht, hp⟩
    exact ⟨hk, hs, hlt, ht, hp⟩

/-- The objects that stand for a message. -/
inductive Form : Obj → Message → Prop
  /-- A map whose keys are all text, binary or unsigned integers, in which exactly one entry
  names each field; the entries that name no field are passed over. -/
  | map {es : List (Obj × Obj)} {k s t p : Obj} {m : Message} :
      (∀ e ∈ es, isKey e.1 = true) → fieldValues es 0 = [k] → fieldValues es 1 = [s] →
      fieldValues es 2 = [t] → fieldValues es 3 = [p] → FieldsRead k s t p m → Form (.map es) m
  /-- An array of exactly the four fields, in order. -/
  | arr {k s t p : Obj} {m : Message} : FieldsRead k s t p m → Form (.arr [k, s, t, p]) m

/-- A map stands for a message exactly when its keys can all be keys, each field is named by
exactly one entry, and those entries' values read as the message's fields. -/
theorem ofObj?_map_eq_some_iff {es : List (Obj × Obj)} {m : Message} :
    ofObj? (.map es) = some m ↔ (∀ e ∈ es, isKey e.1 = true) ∧
      ∃ k s t p, fieldValues es 0 = [k] ∧ fieldValues es 1 = [s] ∧ fieldValues es 2 = [t] ∧
        fieldValues es 3 = [p] ∧ FieldsRead k s t p m := by
  rw [ofObj?_map, foldlM_readField]
  by_cases hall : es.all (isKey ·.1) = true
  · have hkeys : ∀ e ∈ es, isKey e.1 = true := fun e he => List.all_eq_true.1 hall e he
    simp only [hall, if_true, putFields_finish_eq_some_iff, fieldsRead_iff]
    constructor
    · rintro ⟨k, s, t, p, h⟩
      exact ⟨hkeys, k, s, t, p, h⟩
    · rintro ⟨-, h⟩
      exact h
  · -- some key can be no key
    rw [if_neg hall, Option.bind_none]
    simp only [reduceCtorEq, false_iff, not_and]
    exact fun hkeys => absurd (List.all_eq_true.2 hkeys) hall

/-- An array of four objects stands for what the map naming them by position stands for. -/
theorem ofObj?_arr (k s t p : Obj) :
    ofObj? (.arr [k, s, t, p]) =
      ofObj? (.map [(.uint 0, k), (.uint 1, s), (.uint 2, t), (.uint 3, p)]) := by
  simp [ofObj?, fieldOf, Option.bind_assoc]

/-- Only maps and arrays of four objects stand for messages, as `Form` describes them. -/
theorem form_of_ofObj? {o : Obj} {m : Message} (h : ofObj? o = some m) : Form o m := by
  cases o
  case map es =>
    obtain ⟨hkeys, k, s, t, p, h0, h1, h2, h3, hr⟩ := ofObj?_map_eq_some_iff.1 h
    exact .map hkeys h0 h1 h2 h3 hr
  case arr xs =>
    -- only an array of exactly four objects stands for a message
    rcases xs with _ | ⟨k, _ | ⟨s, _ | ⟨t, _ | ⟨p, _ | ⟨x, xs⟩⟩⟩⟩⟩
    · cases h
    · cases h
    · cases h
    · cases h
    · rw [ofObj?_arr, ofObj?_map_eq_some_iff] at h
      obtain ⟨-, k', s', t', p', h0, h1, h2, h3, hr⟩ := h
      simp [fieldValues, namesField] at h0 h1 h2 h3
      subst h0 h1 h2 h3
      exact .arr hr
    · cases h
  all_goals cases h

/-- What `Form` describes stands for the message. -/
theorem Form.ofObj? {o : Obj} {m : Message} (h : Form o m) : ofObj? o = some m := by
  cases h
  case map k s t p hkeys h0 h1 h2 h3 hr =>
    exact ofObj?_map_eq_some_iff.2 ⟨hkeys, k, s, t, p, h0, h1, h2, h3, hr⟩
  case arr k s t p hr =>
    rw [ofObj?_arr, ofObj?_map_eq_some_iff]
    exact ⟨by simp [isKey], k, s, t, p, rfl, rfl, rfl, rfl, hr⟩

/-- An object stands for a message exactly as `Form` says. -/
theorem ofObj?_eq_some_iff {o : Obj} {m : Message} : ofObj? o = some m ↔ Form o m :=
  ⟨form_of_ofObj?, Form.ofObj?⟩

/-! ## §7. Bytes that are a message -/

/-- Bytes decode to `m` exactly when the object at their front stands for `m`. -/
theorem decode_eq_ok_iff {b : List UInt8} {m : Message} :
    decode b = .ok m ↔ ∃ o rest, Obj.read nestingRoom b = some (o, rest) ∧ ofObj? o = some m := by
  constructor
  · intro h
    cases b with
    | nil => cases h
    | cons x xs =>
      simp only [decode, List.isEmpty_cons, Bool.false_eq_true, if_false] at h
      split at h
      · rename_i o rest hread
        split at h
        · cases h
          exact ⟨o, rest, hread, by assumption⟩
        · cases h
      · cases h
  · rintro ⟨o, rest, hread, hm⟩
    exact decode_of_read hread hm

/-- Bytes are malformed exactly when there are some and they decode to no message. -/
theorem decode_eq_malformed_iff {b : List UInt8} :
    decode b = .error .malformed ↔ b ≠ [] ∧ ∀ m, decode b ≠ .ok m := by
  rw [ne_eq, ← not_congr (decode_eq_noMessage_iff b)]
  rcases decode b with e | m
  · cases e <;> simp
  · simp

/-- Which bytes are a message. No bytes are no message. Bytes decode to `m` exactly when they
begin with the spelling, nested at most 1024 levels deep, of an object that stands for `m`;
whatever follows it is left alone. Every other input is malformed. -/
theorem decode_eq_iff (b : List UInt8) :
    (decode b = .error .noMessage ↔ b = []) ∧
    (∀ m, decode b = .ok m ↔
      ∃ o pre rest, b = pre ++ rest ∧ Spells nestingRoom o pre ∧ Form o m) ∧
    (decode b = .error .malformed ↔
      b ≠ [] ∧ ∀ o pre rest, b = pre ++ rest → Spells nestingRoom o pre → ∀ m, ¬ Form o m) := by
  have hok : ∀ m, decode b = .ok m ↔
      ∃ o pre rest, b = pre ++ rest ∧ Spells nestingRoom o pre ∧ Form o m := fun m => by
    rw [decode_eq_ok_iff]
    constructor
    · rintro ⟨o, rest, hread, hm⟩
      obtain ⟨pre, rfl, hs⟩ := Obj.read_eq_some_iff.1 hread
      exact ⟨o, pre, rest, rfl, hs, ofObj?_eq_some_iff.1 hm⟩
    · rintro ⟨o, pre, rest, rfl, hs, hf⟩
      exact ⟨o, rest, hs.read_append rest, ofObj?_eq_some_iff.2 hf⟩
  refine ⟨decode_eq_noMessage_iff b, hok, ?_⟩
  rw [decode_eq_malformed_iff]
  simp only [ne_eq, hok, not_exists, not_and]
  constructor
  · rintro ⟨hne, h⟩
    exact ⟨hne, fun o pre rest hb hs m hf => h m o pre rest hb hs hf⟩
  · rintro ⟨hne, h⟩
    exact ⟨hne, fun m o pre rest hb hs hf => h o pre rest hb hs m hf⟩

set_option maxRecDepth 4000 in
/-- Unsigned integers name the fields by position: the map `{0: 1, 1: 2, 2: d, 3: {}}`, with
`d` the double of bits `3`, is a sample numbered 2 with an empty payload. -/
theorem decode_positional_keys :
    decode [0x84, 0x00, 0x01, 0x01, 0x02, 0x02, 0xcb, 0, 0, 0, 0, 0, 0, 0, 3, 0x03, 0x80] =
      .ok { kind := .sample, seq := 2, timestamp := .ofBitsNat 3, payload := {} } := by
  have hread : Obj.read nestingRoom
      [0x84, 0x00, 0x01, 0x01, 0x02, 0x02, 0xcb, 0, 0, 0, 0, 0, 0, 0, 3, 0x03, 0x80] =
      some (.map [(.uint 0, .uint 1), (.uint 1, .uint 2), (.uint 2, .f64 3), (.uint 3, .map [])],
        []) := rfl
  exact decode_of_read hread rfl

end Message

end ControlLoop
