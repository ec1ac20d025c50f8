namespace ControlLoop

/-! # A one-slot mailbox

A mailbox holds at most one value. Putting a value replaces the one held under the lock, and
counts the replacement after releasing it, in a 64-bit counter that wraps; taking empties the
slot. The newest value always wins, which is what a reader of the latest actuation wants.
-/

/-- The held value, if any, and how many held values were replaced before being taken, modulo
`2^64`. -/
structure Mailbox (α : Type) where
  slot : Option α := none
  overwritten : UInt64 := 0

namespace Mailbox

variable {α : Type}

/-- The half of a put made under the lock: stores the value and answers the one it replaced. -/
def swap (m : Mailbox α) (v : α) : Option α × Mailbox α := (m.slot, { m with slot := some v })

/-- The half of a put made after the lock is released: counts a replaced value, wrapping at
`2^64`. -/
def count (m : Mailbox α) (prev : Option α) : Mailbox α :=
  { m with overwritten := m.overwritten + if prev.isSome then 1 else 0 }

/-- Puts a value; returns the value it replaced. The two halves are taken apart so that other
operations can come between them. -/
def put (m : Mailbox α) (v : α) : Option α × Mailbox α :=
  let (prev, m) := m.swap v
  (prev, m.count prev)

/-- Takes the held value, leaving the slot empty. -/
def take (m : Mailbox α) : Option α × Mailbox α := (m.slot, { m with slot := none })

/-- Whether the slot is empty. -/
def isEmpty (m : Mailbox α) : Bool := m.slot.isNone

/-- Putting answers the value held before. -/
@[simp] theorem put_fst (m : Mailbox α) (v : α) : (m.put v).1 = m.slot := rfl

/-- After a put the slot holds the value put. -/
@[simp] theorem put_slot (m : Mailbox α) (v : α) : (m.put v).2.slot = some v := rfl

/-- Taking answers the value held. -/
@[simp] theorem take_fst (m : Mailbox α) : m.take.1 = m.slot := rfl

/-- After a take the slot is empty. -/
@[simp] theorem take_slot (m : Mailbox α) : m.take.2.slot = none := rfl

end Mailbox

end ControlLoop
