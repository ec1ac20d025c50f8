import ControlLoop.Link.ControllerLink
import ControlLoop.Control.Service

namespace ControlLoop

/-! # A plant and its controller in one process

The plant's endpoint and a controller service, joined by a network that carries every
datagram at once and in order. A sample reaches the service at the instant it is sent, the
worker answers it at once, and the reply comes straight back; when replies are delayed, it
comes back at the first tick that starts once its delay has passed, before that tick takes
its commands.
-/

/-- The plant's endpoint, the service it talks to, over a controller of type `κ`, and when each
parked reply falls due. -/
structure Loopback (κ : Type) where
  client : Client
  service : Service κ
  network : Network := .reachable
  plantAddr : SocketAddr := SocketAddr.loopbackV4 0
  due : List Nat := []

namespace Loopback

variable {κ : Type} [ControllerImpl κ]

/-- The plant's endpoint takes a reply that the service sent, at an instant. -/
def deliver (l : Loopback κ) (d : Diagnostics) (out : Option (SocketAddr × List UInt8))
    (now : Nat) : Loopback κ × Diagnostics :=
  match out with
  | none => (l, d)
  | some (_, bytes) =>
    let (_, client, d) := l.client.receive d bytes now (secondsOfNanos now)
    ({ l with client }, d)

/-- Sends, oldest first, every parked reply whose delay has passed by an instant. -/
def release (now : Nat) : List Nat → Loopback κ → Diagnostics → Loopback κ × Diagnostics
  | [], l, d => ({ l with due := [] }, d)
  | t :: rest, l, d =>
    if t ≤ now then
      let (out, service) := l.service.fire l.network 0 (secondsOfNanos now)
      let (l, d) := { l with service }.deliver d out now
      release now rest l d
    else ({ l with due := t :: rest }, d)

/-- Sends samples: the service takes them, its worker answers, and the reply is sent back or
parked until its delay has passed. -/
def exchange (l : Loopback κ) (d : Diagnostics) (values : PropMap) (now : Nat) :
    Except Fault (Loopback κ × Diagnostics) := do
  let stamp := secondsOfNanos now
  let (out, client, d) ← l.client.put l.network d values stamp now
  let l := { l with client }
  match out with
  | none => pure (l, d)
  | some bytes =>
    let (_, service) := l.service.intake bytes l.plantAddr stamp
    let (_, service) := service.work stamp 0.0
    let (reply, service) := service.dispatch l.network stamp
    let l := { l with service }
    match service.config.replyDelay with
    | some delay =>
      if service.parked.length > l.due.length then pure ({ l with due := l.due ++ [now + delay.nanos] }, d)
      else pure (l, d)
    | none => pure (l.deliver d reply now)

end Loopback

instance {κ : Type} [ControllerImpl κ] : ControllerLink (Loopback κ) where
  commands l d now :=
    let (l, d) := Loopback.release now l.due l d
    let (c, client) := l.client.actuation
    (c, { l with client }, d)
  send l d values now := l.exchange d values now
  close l d :=
    let (_, client, d) := l.client.close d
    ({ l with client }, d)
  samplesSent l := l.client.samplesSent
  replies l := l.client.replies
  rtt l := l.client.rtt

end ControlLoop
