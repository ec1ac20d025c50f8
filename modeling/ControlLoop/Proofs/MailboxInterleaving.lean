import ControlLoop.Mailbox
import Mathlib.Data.List.Perm.Basic

/-! # The mailbox under any interleaving

A mailbox is shared by threads: producers put, consumers pop or check whether it is empty.
Each of these takes effect at the moment it holds the lock, except that a put counts the value
it displaced only after releasing the lock, so other operations can come between the two halves
of a put (`Mailbox.put_eq_swap_count`). Interleavings are modelled as lists of operations in
the order they take effect (`Mailbox.Op`), acting on the box and the puts in progress
(`Mailbox.Shared`); `Mailbox.replay` records each operation with its answer.

## The specification

The sequential mailbox is a slot: a put leaves its value there, a pop empties it
(`Mailbox.Op.slotAfter`), so after a history the slot holds `Mailbox.latest`, the value of the
most recent put not taken since, and an operation answers from what it finds there
(`Mailbox.answerFor`).

## The proof

`Mailbox.Books h s` says that the mailbox `s` after the history `h` holds the slot the
specification gives, that every answer in `h` is the one the specification gives at its place,
that the values put are, as a multiset, those taken, those handed back by later puts and the
one in the slot, and that the counter together with the puts in progress that displaced a
value counts the values handed back, modulo `2^64` since the counter is a 64-bit one that
wraps. A new mailbox keeps the books (`Books.start`), every
operation does (`Books.step`, from one lemma per part of a step: `Shared.step_answer`,
`Shared.step_slot`, `Shared.step_counted`), and so every interleaving does
(`Mailbox.interleaving_linearizable`).
-/

namespace ControlLoop

namespace Mailbox

variable {α : Type}

/-- A put is its locked half followed at once by its counting half. -/
theorem put_eq_swap_count (m : Mailbox α) (v : α) :
    m.put v = ((m.swap v).1, (m.swap v).2.count (m.swap v).1) :=
  rfl

/-! ## §1. Operations taking effect one at a time -/

/-- One operation on a shared mailbox, at the moment it takes effect: a put stores its value
under the lock; a put that has stored its value counts what it displaced after releasing the
lock (`finish i`, the `i`-th of the puts in progress); a pop takes the slot under the lock
(`pop_nowait`, or a blocking pop at the lock where it returns); a check reads whether the slot
is empty. -/
inductive Op (α : Type) where
  | swap (v : α)
  | finish (i : Nat)
  | take
  | isEmpty

/-- What an operation answers its caller. -/
inductive Answer (α : Type) where
  /-- a put: the value it displaced, if any -/
  | displaced (prev : Option α)
  /-- a pop: the value it took, if any -/
  | taken (v : Option α)
  /-- a check: whether the slot was empty -/
  | empty (b : Bool)
  /-- the counting half of a put answers nothing -/
  | counted

/-- A mailbox shared by threads: the box, and for each put in progress, one that has stored
its value but not yet counted, the value it displaced. -/
structure Shared (α : Type) where
  box : Mailbox α := {}
  inFlight : List (Option α) := []

namespace Shared

/-- One operation taking effect. Finishing a put that is not in progress changes nothing. -/
def step (s : Shared α) : Op α → Answer α × Shared α
  | .swap v => ((.displaced (s.box.swap v).1), ⟨(s.box.swap v).2, s.inFlight ++ [(s.box.swap v).1]⟩)
  | .finish i =>
    if h : i < s.inFlight.length then
      (.counted, ⟨s.box.count s.inFlight[i], s.inFlight.eraseIdx i⟩)
    else (.counted, s)
  | .take => (.taken s.box.take.1, { s with box := s.box.take.2 })
  | .isEmpty => (.empty s.box.isEmpty, s)

/-- One operation taking effect, recorded with its answer after the operations before. -/
def record (hs : List (Op α × Answer α) × Shared α) (op : Op α) :
    List (Op α × Answer α) × Shared α :=
  (hs.1 ++ [(op, (hs.2.step op).1)], (hs.2.step op).2)

end Shared

/-- Runs operations, in the order they take effect, on a new mailbox with no put in
progress: each operation with its answer, and the mailbox after. -/
def replay (ops : List (Op α)) : List (Op α × Answer α) × Shared α :=
  ops.foldl Shared.record ([], {})

/-! ## §2. The sequential specification -/

/-- The slot after an operation that found `found` in it: a put leaves its value, a pop
leaves it empty, anything else leaves it as it was. -/
def Op.slotAfter (found : Option α) : Op α → Option α
  | .swap v => some v
  | .take => none
  | _ => found

/-- The value an operation puts, if it is a put. -/
def Op.put? : Op α → Option α
  | .swap v => some v
  | _ => none

/-- The value an answer hands to a pop, if any. -/
def Answer.taken? : Answer α → Option α
  | .taken v => v
  | _ => none

/-- The value an answer hands back to a put, if any. -/
def Answer.displaced? : Answer α → Option α
  | .displaced v => v
  | _ => none

/-- The value of the most recent put not taken since, if any. -/
def latest (h : List (Op α × Answer α)) : Option α :=
  h.foldl (fun found e => e.1.slotAfter found) none

/-- What an operation answers on a slot holding `found`: a put the value it displaces, a pop
the value it takes, a check whether the slot is empty. -/
def answerFor (found : Option α) : Op α → Answer α
  | .swap _ => .displaced found
  | .take => .taken found
  | .isEmpty => .empty found.isNone
  | .finish _ => .counted

/-- The values put, in order. -/
def puts (h : List (Op α × Answer α)) : List α := h.filterMap (·.1.put?)

/-- The values pops took, in order. -/
def taken (h : List (Op α × Answer α)) : List α := h.filterMap (·.2.taken?)

/-- The values puts displaced and handed back, in order. -/
def displaced (h : List (Op α × Answer α)) : List α := h.filterMap (·.2.displaced?)

section History

variable (h : List (Op α × Answer α)) (e : Op α × Answer α)

@[simp] theorem latest_nil : latest ([] : List (Op α × Answer α)) = none := rfl

@[simp] theorem latest_append_singleton : latest (h ++ [e]) = e.1.slotAfter (latest h) := by
  simp [latest]

@[simp] theorem puts_append_singleton : puts (h ++ [e]) = puts h ++ e.1.put?.toList := by
  unfold puts
  cases hp : e.1.put? <;> simp [hp]

@[simp] theorem taken_append_singleton : taken (h ++ [e]) = taken h ++ e.2.taken?.toList := by
  unfold taken
  cases hp : e.2.taken? <;> simp [hp]

@[simp] theorem displaced_append_singleton :
    displaced (h ++ [e]) = displaced h ++ e.2.displaced?.toList := by
  unfold displaced
  cases hp : e.2.displaced? <;> simp [hp]

end History

/-! ## §3. Every operation keeps the books -/

/-- What every history of operations and the mailbox it leaves satisfy. -/
structure Books (h : List (Op α × Answer α)) (s : Shared α) : Prop where
  /-- the slot holds the value of the most recent put not taken since -/
  slot : s.box.slot = latest h
  /-- every operation answered what the sequential specification answers at its place -/
  answers : ∀ i (hi : i < h.length), h[i].2 = answerFor (latest (h.take i)) h[i].1
  /-- every value put was taken, handed back by a later put, or is in the slot -/
  conserve : (puts h).Perm (taken h ++ displaced h ++ s.box.slot.toList)
  /-- the counter and the puts in progress that displaced a value count the displaced values,
  modulo `2^64` -/
  counted : s.box.overwritten + UInt64.ofNat (s.inFlight.countP Option.isSome) =
    UInt64.ofNat (displaced h).length

namespace Shared

variable (s : Shared α) (op : Op α)

/-- An operation answers from the slot as it finds it. -/
theorem step_answer : (s.step op).1 = answerFor s.box.slot op := by
  cases op with
  | finish i =>
    simp only [step]
    split <;> rfl
  | _ => rfl

/-- An operation leaves the slot as the specification says. -/
theorem step_slot : (s.step op).2.box.slot = op.slotAfter s.box.slot := by
  cases op with
  | finish i =>
    simp only [step]
    split <;> rfl
  | _ => rfl

/-- The counter and the puts in progress that displaced a value grow together by the values
handed back: a put hands back what it displaced and is then in progress with it, and a put that
finishes moves its displaced value from in progress to the counter. -/
theorem step_counted :
    (s.step op).2.box.overwritten + UInt64.ofNat ((s.step op).2.inFlight.countP Option.isSome) =
      s.box.overwritten + UInt64.ofNat (s.inFlight.countP Option.isSome) +
        UInt64.ofNat (s.step op).1.displaced?.toList.length := by
  cases op with
  | swap v =>
    cases hslot : s.box.slot <;>
      simp [step, Mailbox.swap, Answer.displaced?, hslot, UInt64.ofNat_add, UInt64.add_assoc]
  | finish i =>
    by_cases hi : i < s.inFlight.length
    · -- the finishing put's displaced value moves from in progress to the counter
      have hperm := (List.getElem_cons_eraseIdx_perm hi).countP_eq Option.isSome
      rw [List.countP_cons] at hperm
      simp only [step, hi, dif_pos, Mailbox.count, Answer.displaced?, ← hperm]
      split <;> simp [UInt64.ofNat_add, UInt64.add_assoc, UInt64.add_comm]
    · simp [step, hi, Answer.displaced?]
  | take => simp [step, Mailbox.take, Answer.displaced?]
  | isEmpty => simp [step, Answer.displaced?]

end Shared

namespace Books

variable {h : List (Op α × Answer α)} {s : Shared α}

/-- A new mailbox, before any operation. -/
theorem start : Books ([] : List (Op α × Answer α)) {} where
  slot := rfl
  answers i hi := absurd hi (Nat.not_lt_zero i)
  conserve := List.Perm.nil
  counted := rfl

/-- The answer of the operation just made is the one the specification gives at its place, so
the answers of a history one operation longer still are. -/
theorem answers_snoc (hb : Books h s) (op : Op α) :
    ∀ i (hi : i < (h ++ [(op, (s.step op).1)]).length),
      (h ++ [(op, (s.step op).1)])[i].2 =
        answerFor (latest ((h ++ [(op, (s.step op).1)]).take i)) (h ++ [(op, (s.step op).1)])[i].1 := by
  intro i hi
  rw [List.length_append, List.length_singleton] at hi
  rcases Nat.lt_succ_iff_lt_or_eq.1 hi with hi | rfl
  · -- an earlier operation: its place and its answer are as they were
    rw [List.getElem_append_left hi, List.take_append_of_le_length (Nat.le_of_lt hi)]
    exact hb.answers i hi
  · -- the new operation found the slot holding the most recent put not taken
    simp [s.step_answer, hb.slot]

/-- An operation moves values as the specification says: a put adds its value to the slot
and hands back the one there, a pop takes the one there, anything else moves nothing. -/
theorem conserve_snoc (hb : Books h s) (op : Op α) :
    (puts (h ++ [(op, (s.step op).1)])).Perm (taken (h ++ [(op, (s.step op).1)]) ++
      displaced (h ++ [(op, (s.step op).1)]) ++ (s.step op).2.box.slot.toList) := by
  have hperm := hb.conserve
  simp only [puts_append_singleton, taken_append_singleton, displaced_append_singleton,
    s.step_answer, s.step_slot]
  generalize s.box.slot = found at hperm
  cases op with
  | swap v =>
    simpa [answerFor, Op.put?, Answer.taken?, Answer.displaced?, Op.slotAfter, List.append_assoc]
      using hperm.append_right [v]
  | take =>
    -- the value taken moves from the slot to the pops
    simp only [answerFor, Op.put?, Answer.taken?, Answer.displaced?, Op.slotAfter,
      Option.toList_none, List.append_nil, List.append_assoc]
    refine hperm.trans ?_
    rw [List.append_assoc]
    exact List.Perm.append_left _ List.perm_append_comm
  | finish i =>
    simpa [answerFor, Op.put?, Answer.taken?, Answer.displaced?, Op.slotAfter] using hperm
  | isEmpty =>
    simpa [answerFor, Op.put?, Answer.taken?, Answer.displaced?, Op.slotAfter] using hperm

/-- Every operation keeps the books. -/
theorem step (hb : Books h s) (op : Op α) :
    Books (h ++ [(op, (s.step op).1)]) (s.step op).2 where
  slot := by rw [s.step_slot, hb.slot, latest_append_singleton]
  answers := hb.answers_snoc op
  conserve := hb.conserve_snoc op
  counted := by
    rw [s.step_counted, hb.counted, displaced_append_singleton, List.length_append,
      UInt64.ofNat_add]

/-- Operations taking effect one after another keep the books. -/
theorem foldl (ops : List (Op α)) :
    ∀ hs : List (Op α × Answer α) × Shared α, Books hs.1 hs.2 →
      Books (ops.foldl Shared.record hs).1 (ops.foldl Shared.record hs).2 := by
  induction ops with
  | nil => exact fun _ hb => hb
  | cons op ops ih => exact fun hs hb => ih _ (hb.step op)

end Books

/-- Any interleaving of puts, pops and checks on a mailbox, each taking effect at its lock,
behaves as one value passed from hand to hand. The slot holds the value of the most recent
put not taken since. Each operation answers what the sequential mailbox answers at its place:
a put the value it displaced, or none on an empty slot; a pop the value in the slot, or none
when it was empty, leaving it empty; a check whether it was empty. Every value put is taken
once, handed back once by a later put, or still in the slot, so none is handed out twice. The
64-bit overwrite counter and the puts still in progress that displaced a value count the
displaced values modulo `2^64`, so whenever no put is in progress the counter counts them, and
the puts are the values taken, the overwritten ones and the one in the slot, modulo `2^64`;
exactly, while fewer than `2^64` values were displaced. -/
theorem interleaving_linearizable (ops : List (Op α)) :
    let h := (replay ops).1
    let s := (replay ops).2
    s.box.slot = latest h ∧
    (∀ i (hi : i < h.length), h[i].2 = answerFor (latest (h.take i)) h[i].1) ∧
    (puts h).Perm (taken h ++ displaced h ++ s.box.slot.toList) ∧
    s.box.overwritten + UInt64.ofNat (s.inFlight.countP Option.isSome) =
      UInt64.ofNat (displaced h).length ∧
    (s.inFlight = [] →
      s.box.overwritten = UInt64.ofNat (displaced h).length ∧
      UInt64.ofNat (puts h).length = UInt64.ofNat (taken h).length + s.box.overwritten +
        UInt64.ofNat s.box.slot.toList.length ∧
      ((displaced h).length < UInt64.size →
        s.box.overwritten.toNat = (displaced h).length ∧
        (puts h).length = (taken h).length + s.box.overwritten.toNat +
          s.box.slot.toList.length)) := by
  intro h s
  have hb : Books h s := Books.foldl ops ([], {}) Books.start
  refine ⟨hb.slot, hb.answers, hb.conserve, hb.counted, fun hidle => ?_⟩
  -- with no put in progress the counter alone counts the displaced values
  have hover : s.box.overwritten = UInt64.ofNat (displaced h).length := by
    simpa [hidle] using hb.counted
  have hlen : (puts h).length = (taken h).length + (displaced h).length +
      s.box.slot.toList.length := by
    rw [hb.conserve.length_eq, List.length_append, List.length_append]
  refine ⟨hover, by rw [hlen, hover, UInt64.ofNat_add, UInt64.ofNat_add], fun hsmall => ?_⟩
  -- below `2^64` the counter has not wrapped
  have hexact : s.box.overwritten.toNat = (displaced h).length := by
    rw [hover, UInt64.toNat_ofNat_of_lt' hsmall]
  exact ⟨hexact, by rw [hlen, hexact]⟩

/-- Ten puts, each finished before the next, then a pop: the pop takes the last value, and
nine values were overwritten. -/
example :
    let r := replay ((List.range 10).flatMap (fun i => [Op.swap i, .finish 0]) ++ [.take])
    (r.1.getLast?.map (·.2) = some (.taken (some 9))) ∧ r.2.box.overwritten = 9 ∧
      r.2.box.slot = none := by
  refine ⟨rfl, rfl, rfl⟩

end Mailbox

end ControlLoop
