import ControlLoop.Stats
import ControlLoop.Record
import ControlLoop.Diagnostics
import ControlLoop.Plant.RateMonitor

namespace ControlLoop

/-! # Tracking replies

Every sample sent is pending until its reply comes. A reply to a pending sample resolves it:
its round trip, the time from sending to receiving (never negative), joins the round-trip
window, and a row records both ends. A reply to no pending sample resolves nothing. Flushing
gives up on every pending sample, in order of sequence number, records each as never
answered, and counts them as unanswered. Instants are nanoseconds from a fixed origin.
-/

/-- A sample waiting for its reply. -/
structure Pending where
  seq : Nat
  sentTimestamp : Float
  sentSize : Nat
  sentAt : Nat

/-- The pending samples and the round trips of answered ones. -/
structure Tracker where
  pending : List Pending := []
  rtts : RttWindow := {}

namespace Tracker

/-- The row of one sample: its sending and its receiving. -/
def row (p : Pending) (recvTimestamp recvSize rtt : Float) : Record :=
  ⟨[("seq", Binary64.ofInt p.seq), ("send_timestamp", p.sentTimestamp),
    ("send_size", Binary64.ofInt p.sentSize), ("recv_timestamp", recvTimestamp),
    ("recv_size", recvSize), ("rtt", rtt)]⟩

/-- Waits for a reply to a sample; a sample with the same number is replaced. -/
def register (t : Tracker) (seq : Nat) (ts : Float) (size sentAt : Nat) : Tracker :=
  { t with pending := (t.pending.filter (·.seq != seq)) ++ [⟨seq, ts, size, sentAt⟩] }

/-- Resolves the reply to a sample received at an instant: its round trip and row, if the
sample was pending. -/
def resolve (t : Tracker) (seq size recvAt : Nat) (recvTimestamp : Float) :
    Option (Float × Record) × Tracker :=
  match t.pending.find? (·.seq == seq) with
  | none => (none, t)
  | some p =>
    let rtt := secondsOfNanos (recvAt - p.sentAt)
    (some (rtt, row p recvTimestamp (Binary64.ofInt size) rtt),
     { pending := t.pending.filter (·.seq != seq), rtts := t.rtts.push rtt })

/-- Gives up on every pending sample: the rows in order of sequence number, the counters
with the unanswered samples added. -/
def flush (t : Tracker) (d : Diagnostics) : List Record × Tracker × Diagnostics :=
  let gone := t.pending.mergeSort (fun a b => a.seq ≤ b.seq)
  (gone.map fun p => row p Binary64.nan Binary64.nan (Binary64.infinity false),
   { t with pending := [] }, d.add .unanswered (UInt64.ofNat gone.length))

/-- How many samples are pending. -/
def pendingCount (t : Tracker) : Nat := t.pending.length

/-- How many replies were resolved. -/
def replies (t : Tracker) : UInt64 := t.rtts.total

/-- Flushing leaves nothing pending. -/
@[simp] theorem flush_pendingCount (t : Tracker) (d : Diagnostics) :
    (t.flush d).2.1.pendingCount = 0 := rfl

/-- Flushing gives one row per pending sample. -/
@[simp] theorem flush_length (t : Tracker) (d : Diagnostics) :
    (t.flush d).1.length = t.pendingCount := by
  simp [flush, pendingCount, List.length_mergeSort]

end Tracker

end ControlLoop
