import ControlLoop.Link.Client
import ControlLoop.Plant.RateMonitor

namespace ControlLoop

/-! # What a plant talks to

A plant loop needs four things of its controller link: the newest commands, a way to send
samples, a way to close, and counts for its report. Taking the commands at an instant first
lets the link take in whatever arrived until then. Two links are given here: a silent one
that takes every sample and never commands anything, and the plant's endpoint over a network
whose replies arrive from outside.
-/

/-- A link from a plant to its controller. Instants are nanoseconds from the start of the run. -/
class ControllerLink (ℓ : Type) where
  /-- The newest commands at an instant, or none. -/
  commands : ℓ → Diagnostics → Nat → PropMap × ℓ × Diagnostics
  /-- Sends samples at an instant. -/
  send : ℓ → Diagnostics → PropMap → Nat → Except Fault (ℓ × Diagnostics)
  /-- Closes the link, giving up on what is still waiting. -/
  close : ℓ → Diagnostics → ℓ × Diagnostics
  /-- How many samples were sent, as a 64-bit counter. -/
  samplesSent : ℓ → UInt64
  /-- How many replies came back, as a 64-bit counter. -/
  replies : ℓ → UInt64
  /-- The summary of the latest round trips. -/
  rtt : ℓ → Option Summary

/-- A link that counts the samples it takes, in a 64-bit counter, and never commands anything. -/
structure Silent where
  sent : UInt64 := 0

instance : ControllerLink Silent where
  commands s d _ := ({}, s, d)
  send s d _ _ := .ok ({ sent := s.sent + 1 }, d)
  close s d := (s, d)
  samplesSent s := s.sent
  replies _ := 0
  rtt _ := none

/-- The plant's endpoint and the network under it. -/
structure Uplink where
  client : Client
  network : Network

instance : ControllerLink Uplink where
  commands u d _ :=
    let (c, client) := u.client.actuation
    (c, { u with client }, d)
  send u d values instant :=
    match u.client.put u.network d values (secondsOfNanos instant) instant with
    | .ok (_, client, d) => .ok ({ u with client }, d)
    | .error e => .error e
  close u d :=
    let (_, client, d) := u.client.close d
    ({ u with client }, d)
  samplesSent u := u.client.samplesSent
  replies u := u.client.replies
  rtt u := u.client.rtt

end ControlLoop
