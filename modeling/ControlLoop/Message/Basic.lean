import ControlLoop.Value

namespace ControlLoop

/-! # Control messages

A message carries a sample from the plant or an actuation from a controller: its kind, a
sequence number that pairs a reply with its sample, a timestamp in seconds, and a payload of
property values. A reply keeps the sequence number of the sample it answers.
-/

/-- What a message carries. -/
inductive Kind where
  | sample
  | actuation
  deriving DecidableEq, Repr, Inhabited

namespace Kind

/-- The number that stands for the kind on the wire. -/
def code : Kind → Nat
  | sample => 1
  | actuation => 2

/-- The kind a wire number stands for. -/
def ofCode? : Nat → Option Kind
  | 1 => some sample
  | 2 => some actuation
  | _ => none

/-- The name of the kind. -/
def name : Kind → String
  | sample => "Sample"
  | actuation => "Actuation"

end Kind

/-- The largest sequence number is `2^64 - 1`. -/
def seqModulus : Nat := 2 ^ 64

/-- One message between plant and controller. -/
structure Message where
  kind : Kind
  seq : Nat
  timestamp : Double
  payload : PropMap
  deriving BEq, Inhabited

namespace Message

/-- The actuation that answers this message, stamped `now`. -/
def replyTo (m : Message) (payload : PropMap) (now : Float) : Message :=
  { kind := .actuation, seq := m.seq, timestamp := Double.ofFloat now, payload }

/-- Whether two messages agree on kind, sequence number and payload (values compared as
numbers compare: a NaN differs from itself). -/
def sameContent (a b : Message) : Bool :=
  a.kind == b.kind && a.seq == b.seq && a.payload == b.payload

end Message

/-- Numbers samples from zero upwards, wrapping after `2^64 - 1`. -/
structure Factory where
  nextSeq : Nat := 0

namespace Factory

/-- A sample of the payload stamped `now`, with the next sequence number. -/
def create (f : Factory) (payload : PropMap) (now : Float) : Message × Factory :=
  ({ kind := .sample, seq := f.nextSeq, timestamp := Double.ofFloat now, payload },
   { nextSeq := (f.nextSeq + 1) % seqModulus })

/-- A new sample carries the next sequence number. -/
@[simp] theorem create_seq (f : Factory) (payload : PropMap) (now : Float) :
    (f.create payload now).1.seq = f.nextSeq := rfl

/-- A new sample is a sample. -/
@[simp] theorem create_kind (f : Factory) (payload : PropMap) (now : Float) :
    (f.create payload now).1.kind = .sample := rfl

/-- How many samples were made since the last reset (modulo `2^64`). -/
def count (f : Factory) : Nat := f.nextSeq

/-- Starts the numbering again at zero. -/
def reset (_ : Factory) : Factory := {}

end Factory

end ControlLoop
