import ControlLoop.Proofs.WireRoundTrip
import Mathlib.Tactic.IntervalCases

/-! # Where a frame ends

A message on the wire needs no length in front of it: its bytes say where it ends. This module
shows that the reader consumes exactly one object and never looks past it, and draws the two
consequences for messages.

## Readers that ignore what follows

`IgnoresTail p` says that a reader `p`, having read `a` from the front of some bytes with `r`
left over, reads the same `a` when more bytes follow, and leaves them after `r`. It holds of the
fixed-width fields, is kept by mapping, sequencing and repetition (`IgnoresTail.map`,
`IgnoresTail.bind`, `readSeq_ignoresTail`), and so holds of the object reader at every nesting
room (`read_ignoresTail`), one marker at a time.

## Frames

  * a proper prefix of an object's bytes reads as nothing (`IgnoresTail.none_of_truncated`), so
    every proper prefix of a message's bytes is refused: the empty one as no message, any other
    as malformed (`Message.decode_take_encode`);
  * bytes after an object change nothing (`Message.decode_append`), so a message decodes the
    same with anything behind it;
  * together: `Message.encode_self_delimiting`.
-/

namespace ControlLoop

namespace Pack

/-! ## §1. Readers that ignore what follows -/

/-- Having read `a` with `r` left, the reader reads `a` again when `t` follows, leaving
`r ++ t`. -/
def IgnoresTail {α : Type} (p : List UInt8 → Option (α × List UInt8)) : Prop :=
  ∀ ⦃bs a r⦄, p bs = some (a, r) → ∀ t, p (bs ++ t) = some (a, r ++ t)

namespace IgnoresTail

variable {α β : Type}

/-- A reader that always fails. -/
@[simp] theorem fail : IgnoresTail fun _ => (none : Option (α × List UInt8)) := by
  intro bs a r h
  cases h

/-- A reader that reads nothing and answers `a`. -/
@[simp] theorem done (a : α) : IgnoresTail fun bs => some (a, bs) := by
  intro bs a' r h t
  cases h
  rfl

/-- Changing what a reader answers keeps it ignoring what follows. -/
@[simp] theorem map {p : List UInt8 → Option (α × List UInt8)} (hp : IgnoresTail p) (g : α → β) :
    IgnoresTail fun bs => (p bs).map fun x => (g x.1, x.2) := by
  intro bs b r h t
  obtain ⟨⟨a, r'⟩, ha, he⟩ := Option.map_eq_some_iff.1 h
  simp only [Prod.mk.injEq] at he
  obtain ⟨rfl, rfl⟩ := he
  simp [hp ha t]

/-- Reading one thing and then, from what is left, another keeps ignoring what follows. -/
@[simp] theorem bind {p : List UInt8 → Option (α × List UInt8)}
    {k : α × List UInt8 → Option (β × List UInt8)}
    (hp : IgnoresTail p) (hk : ∀ a, IgnoresTail fun bs => k (a, bs)) :
    IgnoresTail fun bs => (p bs).bind k := by
  intro bs b r h t
  obtain ⟨⟨a, r'⟩, ha, hb⟩ := Option.bind_eq_some_iff.1 h
  simp [hp ha t, hk a hb t]

/-- A reader that ignores what follows and reads all of some bytes reads nothing from a proper
prefix of them: what it read there would leave the rest of the bytes over. -/
theorem none_of_truncated {p : List UInt8 → Option (α × List UInt8)} (hp : IgnoresTail p)
    {bs t : List UInt8} {a : α} (h : p (bs ++ t) = some (a, [])) (ht : t ≠ []) : p bs = none := by
  cases hpb : p bs with
  | none => rfl
  | some x =>
    have hext := hp (a := x.1) (r := x.2) hpb t
    rw [h] at hext
    have hleft : x.2 ++ t = [] := (Prod.mk.inj (Option.some.inj hext)).2.symm
    exact absurd (List.append_eq_nil_iff.1 hleft).2 ht

end IgnoresTail

/-- Taking a fixed number of bytes. -/
@[simp] theorem takeExact_ignoresTail (n : Nat) : IgnoresTail (takeExact n) := by
  intro bs a r h t
  unfold takeExact at h ⊢
  split at h
  · cases h
  · rename_i hlen
    cases h
    rw [if_neg (by simp; omega), List.take_append_of_le_length (by omega),
      List.drop_append_of_le_length (by omega)]

@[simp] theorem readNat_ignoresTail (w : Nat) : IgnoresTail (readNat w) :=
  (takeExact_ignoresTail w).map ofBigEndian

@[simp] theorem readInt_ignoresTail (w : Nat) : IgnoresTail (readInt w) :=
  (readNat_ignoresTail w).map fun n => if n ≥ 2 ^ (8 * w - 1) then (n : Int) - 2 ^ (8 * w) else n

@[simp] theorem readBlob_ignoresTail (w : Nat) : IgnoresTail (readBlob w) :=
  (readNat_ignoresTail w).bind fun n => takeExact_ignoresTail n

@[simp] theorem readExtBody_ignoresTail (n : Nat) : IgnoresTail (readExtBody n) := by
  intro bs a r h t
  cases bs with
  | nil => cases h
  | cons tag rest => exact ((takeExact_ignoresTail n).map (Obj.ext tag)) h t

/-- Items read one after another by a reader that ignores what follows. -/
@[simp] theorem readSeq_ignoresTail {α : Type} {item : List UInt8 → Option (α × List UInt8)}
    (h : IgnoresTail item) : ∀ n, IgnoresTail (readSeq item n)
  | 0 => IgnoresTail.done []
  | n + 1 => by
    have hstep : readSeq item (n + 1) = fun bs =>
        (item bs).bind fun x => (readSeq item n x.2).map fun y => (x.1 :: y.1, y.2) := by
      funext bs
      simp only [readSeq, bind_pure_comp]
      rfl
    rw [hstep]
    exact h.bind fun a => (readSeq_ignoresTail h n).map (a :: ·)

/-- A map entry: a key, then a value, each read by the object reader. -/
theorem entry_ignoresTail {r : Nat} (h : IgnoresTail (Obj.read r)) :
    IgnoresTail fun bs =>
      (Obj.read r bs).bind fun x => (Obj.read r x.2).bind fun y => some ((x.1, y.1), y.2) := by
  simp [h]

/-- After its marker, one object is read without looking past its end. The marker picks the
form; the forms below `0xc0` and from `0xe0` are split by range, the others one by one. -/
theorem read_cons_ignoresTail (room : Nat) (b : UInt8)
    (hin : ∀ r, room = r + 1 → IgnoresTail (Obj.read r)) :
    IgnoresTail fun rest => Obj.read room (b :: rest) := by
  rcases room with _ | r
  · -- no room left: every container fails
    simp +decide only [Obj.read]
    generalize b.toNat = n
    split_ifs with h1 h2 h3 h4 h5
    any_goals simp
    have hlo : 192 ≤ n := by omega
    have hhi : n < 224 := by omega
    interval_cases n <;> simp
  · -- the items of a container are read with one unit of room less
    have hitems := readSeq_ignoresTail (hin r rfl)
    have hentries := readSeq_ignoresTail (entry_ignoresTail (hin r rfl))
    simp +decide only [Obj.read, reduceIte]
    generalize b.toNat = n
    split_ifs with h1 h2 h3 h4 h5
    any_goals simp [hitems, hentries]
    have hlo : 192 ≤ n := by omega
    have hhi : n < 224 := by omega
    interval_cases n <;> simp [hitems, hentries]

/-- The object reader never looks past the object it reads, at any nesting room. -/
theorem read_ignoresTail (room : Nat) : IgnoresTail (Obj.read room) := by
  induction room with
  | zero =>
    intro bs o r h t
    cases bs with
    | nil => simp [Obj.read] at h
    | cons b rest => exact read_cons_ignoresTail 0 b (fun r h => by omega) h t
  | succ r ih =>
    intro bs o r' h t
    cases bs with
    | nil => simp [Obj.read] at h
    | cons b rest =>
      exact read_cons_ignoresTail (r + 1) b (fun r'' h => by cases h; exact ih) h t

end Pack

open Pack

namespace Message

/-! ## §2. Frames -/

/-- Bytes behind a readable object change nothing: the message they decode to, or the reason
they are malformed, is the same. -/
theorem decode_append {bs : List UInt8} (h : Obj.read nestingRoom bs ≠ none) (t : List UInt8) :
    decode (bs ++ t) = decode bs := by
  obtain ⟨⟨o, r⟩, hread⟩ := Option.ne_none_iff_exists'.1 h
  have hbs : bs ≠ [] := by
    rintro rfl
    simp [Obj.read] at hread
  have hne : bs ++ t ≠ [] := by simp [hbs]
  simp only [decode, List.isEmpty_iff, hbs, hne, if_false, hread, read_ignoresTail _ hread t]

/-- The bytes of a message are read as exactly one object, the message's. -/
theorem read_encode (m : Message) (hseq : m.seq < 2 ^ 64) (hsize : m.payload.size < 2 ^ 32)
    (hkeys : ∀ k ∈ m.payload.keys, (bytesOf k).length < 2 ^ 32) :
    Obj.read nestingRoom m.encode = some (m.toObj, []) := by
  have h := readsBack_toObj m 1021 hseq hsize hkeys []
  rwa [List.append_nil] at h

/-- Every proper prefix of a message's bytes is refused: the empty one holds no message, any
other is malformed. -/
theorem decode_take_encode (m : Message) (hseq : m.seq < 2 ^ 64) (hsize : m.payload.size < 2 ^ 32)
    (hkeys : ∀ k ∈ m.payload.keys, (bytesOf k).length < 2 ^ 32) {n : Nat}
    (hn : n < m.encode.length) :
    decode (m.encode.take n) = .error (if n = 0 then .noMessage else .malformed) := by
  have hread : Obj.read nestingRoom (m.encode.take n ++ m.encode.drop n) = some (m.toObj, []) := by
    rw [List.take_append_drop]
    exact read_encode m hseq hsize hkeys
  have hrest : m.encode.drop n ≠ [] := by simp [hn]
  have hnone := (read_ignoresTail nestingRoom).none_of_truncated hread hrest
  by_cases h0 : n = 0
  · subst h0
    simp [decode]
  · have hne : m.encode.take n ≠ [] := by
      simp [h0, List.ne_nil_of_length_pos (by omega : 0 < m.encode.length)]
    simp [decode, hne, hnone, h0]

/-- A message's bytes mark their own end. Every proper prefix of them is refused, the empty
one as no message and any other as malformed, and any bytes after them are ignored. The
sequence number fits 64 bits, and the payload has fewer than `2 ^ 32` entries, each named by
fewer than `2 ^ 32` bytes, as for every message that can be written. -/
theorem encode_self_delimiting (m : Message) (hseq : m.seq < 2 ^ 64)
    (hsize : m.payload.size < 2 ^ 32) (hkeys : ∀ k ∈ m.payload.keys, (bytesOf k).length < 2 ^ 32) :
    (∀ n < m.encode.length,
      decode (m.encode.take n) = .error (if n = 0 then .noMessage else .malformed)) ∧
    ∀ t, decode (m.encode ++ t) = decode m.encode := by
  have hread : Obj.read nestingRoom m.encode ≠ none := by
    simp [read_encode m hseq hsize hkeys]
  exact ⟨fun n hn => decode_take_encode m hseq hsize hkeys hn, decode_append hread⟩

/-- The sample the codec's own test cuts in half: kind sample, number 1, timestamp 2.0 and three
values of the three variants. -/
theorem encode_self_delimiting_sample :
    let m : Message :=
      { kind := .sample, seq := 1, timestamp := ⟨0x4000000000000000⟩,
        payload := NameMap.ofList [("angle", .float ⟨0x3fd0000000000000⟩),
          ("count", .int (Int64.ofInt 7)), ("armed", .bool true)] }
    (∀ n < m.encode.length,
      decode (m.encode.take n) = .error (if n = 0 then .noMessage else .malformed)) ∧
    ∀ t, decode (m.encode ++ t) = decode m.encode :=
  encode_self_delimiting _ (by decide) (by decide) (by decide +kernel)

end Message

end ControlLoop
