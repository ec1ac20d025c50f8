import ControlLoop.Fault
import ControlLoop.Link.Network
import ControlLoop.Link.Tracker
import ControlLoop.Mailbox
import ControlLoop.Message.Wire

namespace ControlLoop

/-! # The plant's end of the link

The plant sends its samples to the controller as datagrams and takes back actuations. Each
sample is numbered, encoded and waits in the tracker for its reply; a send that the network
refuses is counted as dropped, and the sample still waits. Every datagram that arrives meets
one fate: nothing (no bytes), malformed, of the wrong kind (not an actuation), unprompted
(no sample with its number is waiting), or matched, when its payload goes to the mailbox,
where the newest actuation waits for the next tick. Closing stops reception and gives up on
every waiting sample. Nothing can be sent before the endpoint is bound.
-/

/-- What became of a datagram that reached the plant. -/
inductive Reception where
  | none
  | malformed
  | ignoredKind
  | unprompted
  | matched
  deriving DecidableEq, Repr

/-- The plant's endpoint: numbering, waiting samples, the newest actuation and the rows of
answered and abandoned samples. -/
structure Client where
  bound : Bool := false
  listening : Bool := false
  factory : Factory := {}
  tracker : Tracker := {}
  inbox : Mailbox PropMap := {}
  rows : Array Record := #[]

namespace Client

/-- Binds the endpoint and starts listening. -/
def bind (c : Client) : Client := { c with bound := true, listening := true }

/-- Sends the values as the next sample over the network at an instant (nanoseconds), stamped
`now`: the datagram if it left the host. A refused send is counted as dropped. -/
def put (c : Client) (net : Network) (d : Diagnostics) (values : PropMap) (now : Float)
    (sentAt : Nat) : Except Fault (Option (List UInt8) × Client × Diagnostics) :=
  if !c.bound then .error .notReady
  else
    let (msg, factory) := c.factory.create values now
    let bytes := msg.encode
    let c := { c with factory, tracker := c.tracker.register msg.seq now bytes.length sentAt }
    match net.send bytes.length with
    | .ok () => .ok (some bytes, c, d)
    | .error _ => .ok (none, c, d.record .droppedSend)

/-- Takes a datagram that arrived at an instant (nanoseconds), stamped `now`. -/
def receive (c : Client) (d : Diagnostics) (bytes : List UInt8) (recvAt : Nat) (now : Float) :
    Reception × Client × Diagnostics :=
  if !c.listening then (.none, c, d)
  else match Message.decode bytes with
    | .error .noMessage => (.none, c, d)
    | .error .malformed => (.malformed, c, d.record .malformed)
    | .ok m =>
      if m.kind != .actuation then (.ignoredKind, c, d.record .ignoredKind)
      else match c.tracker.resolve m.seq bytes.length recvAt now with
        | (some (_, row), tracker) =>
          (.matched, { c with tracker, inbox := (c.inbox.put m.payload).2, rows := c.rows.push row }, d)
        | (none, _) => (.unprompted, c, d.record .unpromptedReply)

/-- Takes the newest actuation, or no commands if none came since the last take. -/
def actuation (c : Client) : PropMap × Client :=
  let (v, inbox) := c.inbox.take
  (v.getD {}, { c with inbox })

/-- Stops listening and gives up on every waiting sample: how many there were. -/
def close (c : Client) (d : Diagnostics) : Nat × Client × Diagnostics :=
  let (gone, tracker, d) := c.tracker.flush d
  (gone.length, { c with listening := false, tracker, rows := c.rows ++ gone.toArray }, d)

/-- How many samples were sent (modulo `2^64`). -/
def samplesSent (c : Client) : UInt64 := UInt64.ofNat c.factory.count

/-- How many replies were matched. -/
def replies (c : Client) : UInt64 := c.tracker.replies

/-- The summary of the latest round trips. -/
def rtt (c : Client) : Option Summary := c.tracker.rtts.summary

/-- How many samples wait for their reply. -/
def pendingCount (c : Client) : Nat := c.tracker.pendingCount

/-- Nothing is sent before the endpoint is bound. -/
theorem put_unbound (c : Client) (net : Network) (d : Diagnostics) (values : PropMap)
    (now : Float) (sentAt : Nat) (h : c.bound = false) :
    c.put net d values now sentAt = .error .notReady := by
  simp [put, h]

/-- Closing leaves nothing waiting. -/
@[simp] theorem close_pendingCount (c : Client) (d : Diagnostics) :
    (c.close d).2.1.pendingCount = 0 := rfl

/-- A closed endpoint takes no more datagrams. -/
@[simp] theorem close_listening (c : Client) (d : Diagnostics) :
    (c.close d).2.1.listening = false := rfl

end Client

end ControlLoop
