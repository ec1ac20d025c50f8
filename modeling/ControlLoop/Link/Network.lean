import ControlLoop.Text.Quoted

namespace ControlLoop

/-! # The network under the datagram link

A send either leaves the host or is refused at once with an error of the operating system.
A reachable network takes every datagram that fits in one IPv4 packet and refuses a longer
one; an unreachable one refuses every send with the same error, so nothing sent through it
is ever received. Whether a datagram that left the host arrives is the business of the
other end.
-/

/-- An error of the operating system: its number, its kind and its text. -/
structure OsError where
  code : Nat
  kind : String
  message : String
  deriving DecidableEq, Repr

namespace OsError

/-- The error with every part shown, the text quoted. -/
def describe (e : OsError) : String :=
  "Os \x7b code: " ++ toString e.code ++ ", kind: " ++ e.kind ++ ", message: " ++
    Quoted.quote e.message ++ " \x7d"

/-- The error a host without any usable interface gives for a send. -/
def networkUnreachable : OsError :=
  ⟨101, "NetworkUnreachable", "Network is unreachable"⟩

/-- The error a send of a datagram too long for one packet gives. -/
def messageTooLong : OsError :=
  ⟨90, "Uncategorized", "Message too long"⟩

end OsError

/-- Whether sends leave the host. -/
inductive Network where
  | reachable
  | unreachable (err : OsError)
  deriving DecidableEq, Repr

namespace Network

/-- A host whose every send is refused because no interface is up. -/
def offline : Network := .unreachable OsError.networkUnreachable

/-- The most bytes one datagram carries over IPv4: a packet of 65535 bytes less the 20 of
its IP header and the 8 of its UDP header. -/
def maxDatagram : Nat := 65507

/-- Sends a datagram of `size` bytes: done, or refused with the network's error. -/
def send (n : Network) (size : Nat) : Except OsError Unit :=
  match n with
  | .reachable => if size ≤ maxDatagram then .ok () else .error OsError.messageTooLong
  | .unreachable err => .error err

/-- Whether a send leaves the host. -/
def delivers (n : Network) : Bool := n matches .reachable

end Network

end ControlLoop
