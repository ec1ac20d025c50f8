import Mathlib
import ControlLoop.Proofs.ReplyAccounting
import ControlLoop.Proofs.ServiceConservation
import ControlLoop.Proofs.WireRoundTrip

/-! # Agreement of the closed loop

One plant endpoint and one controller service exchange datagrams only with each other, over a
network that may drop, duplicate, delay and reorder them. Every datagram a party sends stays on
the wire: a delivery picks any datagram sent so far, as often as it likes and in any order, and
a datagram never picked was dropped. The plant ticks (taking the newest commands and maybe
sending a sample), datagrams reach either side, the worker answers the sample in the slot, and
replies are dispatched or fire from the table of parked ones, in any interleaving.

The run records what a reader of the loop sees (`LoopObs`): the commands each tick hands over,
the controller's answer to each sample it processes, and each put into the plant's mailbox. In
every run of a started service with fewer than `2^64` samples (`closed_loop_agreement`):

  * every command map handed over is empty, or it is the payload the controller returned for a
    sample this plant sent, carried back in an actuation with that sample's number and put into
    the mailbox under that number;
  * no number is put twice, however many copies of its reply arrive.

## Proof

`LoopInv` is the conjunction of three invariants. `PlantBooks` is the plant's side: numbers
below the next one are waiting or were put, never both, and none was put twice. `Provenance`
says where the traffic comes from: every datagram the plant sent is a numbered sample, every
reply the service holds or sent answers a sample its controller answered. `Delivery` says that
the mailbox and the handed commands came back from the controller. One lemma per event keeps
`LoopInv` (`LoopInv.tick` … `LoopInv.fire`), so every run does (`LoopInv.run`). A delivered
datagram is decoded to what was encoded since every sent datagram is short enough
(`Message.decode_encode_of_short`), and the plant's pending table answers each number once
(`PlantBooks.answer`).
-/

namespace ControlLoop

variable {κ : Type}

/-! ## §1. Runs of the loop -/

/-- What happens in the loop. A tick takes the newest commands and, when the plant produced
values, sends them as the next sample; a delivery takes the datagram at an index of those sent
so far; the worker steps; the oldest computed reply is dispatched; a parked reply's timer
fires. -/
inductive LoopEvent where
  | tick (samples : Option PropMap) (net : Network) (now : Float) (sentAt : Nat)
  | toService (i : Nat) (plant : SocketAddr) (now : Float)
  | toPlant (i : Nat) (recvAt : Nat) (now : Float)
  | work (now took : Float)
  | dispatch (net : Network) (now : Float)
  | fire (net : Network) (i : Nat) (now : Float)

/-- Whether an event makes a sample. -/
def LoopEvent.sends : LoopEvent → Bool
  | .tick (some _) .. => true
  | _ => false

/-- What a run shows: commands handed to the plant, the controller's answer to a sample, and a
payload put into the plant's mailbox under a sequence number. -/
inductive LoopObs where
  | handed (commands : PropMap)
  | answered (sample : Message) (out : PropMap)
  | put (seq : Nat) (payload : PropMap)

/-- The number a put was made under. -/
def LoopObs.put? : LoopObs → Option Nat
  | .put seq _ => some seq
  | _ => none

/-- The plant's endpoint and counters, the service, and the datagrams sent each way. -/
structure ClosedLoop (κ : Type) where
  client : Client
  plantDiagnostics : Diagnostics
  service : Service κ
  upstream : List (List UInt8)
  downstream : List (List UInt8)

namespace ClosedLoop

/-- A freshly bound plant endpoint facing a service, nothing sent yet. -/
def start (s : Service κ) : ClosedLoop κ :=
  { client := Client.bind {}, plantDiagnostics := {}, service := s, upstream := [],
    downstream := [] }

/-- One event: what it shows and the loop after it. -/
def step [ControllerImpl κ] (x : ClosedLoop κ) : LoopEvent → List LoopObs × ClosedLoop κ
  | .tick samples net now sentAt =>
    let (commands, client) := x.client.actuation
    match samples with
    | none => ([.handed commands], { x with client })
    | some values =>
      match client.put net x.plantDiagnostics values now sentAt with
      | .ok (out, client, d) =>
        ([.handed commands],
          { x with client, plantDiagnostics := d, upstream := x.upstream ++ out.toList })
      | .error _ => ([.handed commands], { x with client })
  | .toService i plant now =>
    match x.upstream[i]? with
    | none => ([], x)
    | some bytes => ([], { x with service := (x.service.intake bytes plant now).2 })
  | .toPlant i recvAt now =>
    match x.downstream[i]? with
    | none => ([], x)
    | some bytes =>
      let (r, client, d) := x.client.receive x.plantDiagnostics bytes recvAt now
      let obs := match r, Message.decode bytes with
        | .matched, .ok m => [LoopObs.put m.seq m.payload]
        | _, _ => []
      (obs, { x with client, plantDiagnostics := d })
  | .work now took =>
    let obs := match x.service.slot.slot with
      | some item =>
        match (ControllerImpl.process x.service.controller item.sample.payload).1 with
        | .ok out => [LoopObs.answered item.sample out]
        | .error _ => []
      | none => []
    (obs, { x with service := (x.service.work now took).2 })
  | .dispatch net now =>
    let (out, service) := x.service.dispatch net now
    ([], { x with service, downstream := x.downstream ++ (out.map (·.2)).toList })
  | .fire net i now =>
    let (out, service) := x.service.fire net i now
    ([], { x with service, downstream := x.downstream ++ (out.map (·.2)).toList })

/-- A run: everything it shows, in order, and the loop at its end. -/
def run [ControllerImpl κ] (x : ClosedLoop κ) : List LoopEvent → List LoopObs × ClosedLoop κ
  | [] => ([], x)
  | e :: es =>
    let s := x.step e
    let r := s.2.run es
    (s.1 ++ r.1, r.2)

end ClosedLoop

/-! ## §2. Where a payload comes from -/

/-- A sample the plant sent: its bytes went on the wire to the service. -/
def SampleSent (up : List (List UInt8)) (m : Message) : Prop :=
  m.kind = .sample ∧ m.seq < 2 ^ 64 ∧ m.encode ∈ up

/-- The controller answered `out` when it processed the sample `m`, one the plant sent. -/
def ControllerAnswered (up : List (List UInt8)) (obs : List LoopObs) (m : Message) (out : PropMap) :
    Prop :=
  LoopObs.answered m out ∈ obs ∧ SampleSent up m

/-- The payload `p` came back: the controller answered it to a sample the plant sent, the
service sent it in an actuation with the sample's number, and the plant put it into its mailbox
under that number. -/
def CarriedBack (up down : List (List UInt8)) (obs : List LoopObs) (p : PropMap) : Prop :=
  ∃ m t, ControllerAnswered up obs m p ∧ (m.replyTo p t).encode ∈ down ∧
    LoopObs.put m.seq p ∈ obs

theorem SampleSent.mono {up up' : List (List UInt8)} {m : Message} (h : SampleSent up m)
    (hup : up ⊆ up') : SampleSent up' m :=
  ⟨h.1, h.2.1, hup h.2.2⟩

theorem ControllerAnswered.mono {up up' : List (List UInt8)} {obs obs' : List LoopObs}
    {m : Message} {out : PropMap} (h : ControllerAnswered up obs m out) (hup : up ⊆ up')
    (hobs : obs ⊆ obs') : ControllerAnswered up' obs' m out :=
  ⟨hobs h.1, h.2.mono hup⟩

theorem CarriedBack.mono {up up' down down' : List (List UInt8)} {obs obs' : List LoopObs}
    {p : PropMap} (h : CarriedBack up down obs p) (hup : up ⊆ up') (hdown : down ⊆ down')
    (hobs : obs ⊆ obs') : CarriedBack up' down' obs' p := by
  obtain ⟨m, t, hans, hreply, hput⟩ := h
  exact ⟨m, t, hans.mono hup hobs, hdown hreply, hobs hput⟩

/-! ## §3. What the parties' actions can do -/

/-- A datagram that left the host is at most the largest datagram. -/
theorem Network.send_le_maxDatagram {net : Network} {n : Nat} (h : net.send n = .ok ()) :
    n ≤ Network.maxDatagram := by
  cases net with
  | reachable =>
    simp only [Network.send] at h
    split at h
    · assumption
    · cases h
  | unreachable err => simp [Network.send] at h

theorem Client.actuation_fst (c : Client) : c.actuation.1 = c.inbox.slot.getD {} := rfl

theorem Client.actuation_inbox (c : Client) : c.actuation.2.inbox.slot = none := rfl

/-- Taking in a datagram leaves the replies alone; the slot keeps its sample or takes the
sample the datagram decodes to. -/
theorem Service.intake_shape (s : Service κ) (bytes : List UInt8) (sender : SocketAddr)
    (now : Float) :
    (s.intake bytes sender now).2.computed = s.computed ∧
      (s.intake bytes sender now).2.parked = s.parked ∧
      ((s.intake bytes sender now).2.slot.slot = s.slot.slot ∨
        ∃ m, Message.decode bytes = .ok m ∧ m.kind = .sample ∧
          (s.intake bytes sender now).2.slot.slot = some ⟨m, sender, now, bytes.length⟩) := by
  rcases Service.intake_cases s bytes sender now with h | h | h | ⟨m, hm, hk, h⟩
  all_goals rw [h]
  · exact ⟨rfl, rfl, .inl rfl⟩
  · exact ⟨rfl, rfl, .inl rfl⟩
  · exact ⟨rfl, rfl, .inl rfl⟩
  · exact ⟨rfl, rfl, .inr ⟨m, hm, hk, rfl⟩⟩

/-- Sending leaves the slot and the replies alone, and what goes on the wire is the reply's
encoding, short enough to send. -/
theorem Service.send_shape (s : Service κ) (net : Network) (r : Reply) (now : Float) :
    (s.send net r now).2.slot = s.slot ∧ (s.send net r now).2.computed = s.computed ∧
      (s.send net r now).2.parked = s.parked ∧
      ∀ b ∈ ((s.send net r now).1.map (·.2)).toList,
        b = r.message.encode ∧ b.length ≤ Network.maxDatagram := by
  rcases Service.send_cases s net r now with ⟨err, -, hs⟩ | ⟨hsend, row, hs⟩
  · simp [hs]
  · rw [hs]
    refine ⟨rfl, rfl, rfl, fun b hb => ?_⟩
    simp only [Option.map_some, Option.toList_some, List.mem_singleton] at hb
    subst hb
    exact ⟨rfl, Network.send_le_maxDatagram hsend⟩

/-! ## §4. The invariant -/

/-- The plant's books, with `puts` the numbers put into the mailbox so far and `n` the next
number: the endpoint is bound and listening, every waiting number is below `n`, every put
number is below `n` and no longer waits, and no number was put twice. -/
structure PlantBooks (c : Client) (puts : List Nat) (n : Nat) : Prop where
  bound : c.bound = true
  listening : c.listening = true
  nextSeq : c.factory.nextSeq = n
  waiting : ∀ k ∈ c.waiting, k < n
  fresh : ∀ k ∈ puts, k < n ∧ k ∉ c.waiting
  once : puts.Nodup

namespace PlantBooks

variable {c : Client} {puts : List Nat} {n : Nat}

theorem bind : PlantBooks (Client.bind {}) [] 0 :=
  ⟨rfl, rfl, rfl, by simp [Client.waiting, Tracker.waiting, Client.bind], by simp,
    List.nodup_nil⟩

theorem take (h : PlantBooks c puts n) : PlantBooks c.actuation.2 puts n :=
  ⟨h.bound, h.listening, h.nextSeq, h.waiting, h.fresh, h.once⟩

/-- Sending a sample moves the next number on, below `2^64`. -/
theorem sent (h : PlantBooks c puts n) (values : PropMap) (now : Float) (sentAt : Nat)
    (hn : n + 1 < 2 ^ 64) : PlantBooks (c.sent values now sentAt) puts (n + 1) := by
  have hwait := Client.sent_waiting c values now sentAt
  rw [h.nextSeq] at hwait
  refine ⟨h.bound, h.listening, ?_, ?_, ?_, h.once⟩
  · simp only [Client.sent, Factory.create, h.nextSeq, seqModulus]
    omega
  · intro k hk
    rw [hwait] at hk
    rcases List.mem_append.1 hk with hk | hk
    · have := h.waiting k (List.mem_of_mem_filter hk)
      omega
    · rw [List.mem_singleton.1 hk]
      omega
  · intro k hk
    obtain ⟨hlt, hnot⟩ := h.fresh k hk
    refine ⟨by omega, ?_⟩
    rw [hwait]
    simp only [List.mem_append, List.mem_filter, List.mem_singleton, not_or, not_and]
    exact ⟨fun hw => absurd hw hnot, by omega⟩

/-- Answering a waiting sample puts its number, which was never put before. -/
theorem answer (h : PlantBooks c puts n) {p : Pending} (hp : p ∈ c.tracker.pending)
    (payload : PropMap) (size recvAt : Nat) (now : Float) :
    PlantBooks (c.answer p payload size recvAt now) (puts ++ [p.seq]) n := by
  have hwait := Client.answer_waiting c p payload size recvAt now
  have hmem : p.seq ∈ c.waiting := List.mem_map_of_mem hp
  refine ⟨h.bound, h.listening, h.nextSeq, ?_, ?_, ?_⟩
  · intro k hk
    rw [hwait] at hk
    exact h.waiting k (List.mem_of_mem_filter hk)
  · intro k hk
    rw [hwait]
    rcases List.mem_append.1 hk with hk | hk
    · obtain ⟨hlt, hnot⟩ := h.fresh k hk
      exact ⟨hlt, fun hw => hnot (List.mem_of_mem_filter hw)⟩
    · rw [List.mem_singleton.1 hk]
      exact ⟨h.waiting _ hmem, by simp⟩
  · refine List.nodup_append.2 ⟨h.once, List.nodup_singleton _, ?_⟩
    intro a ha b hb hab
    rw [List.mem_singleton.1 hb] at hab
    exact (h.fresh a ha).2 (hab ▸ hmem)

end PlantBooks

/-- Where the loop's traffic comes from: every datagram the plant sent is a numbered sample
short enough to send, every sample in the slot was sent, every reply the service holds or sent
answers a sample the controller answered. -/
structure Provenance (x : ClosedLoop κ) (obs : List LoopObs) : Prop where
  upstream : ∀ b ∈ x.upstream, b.length ≤ Network.maxDatagram ∧
    ∃ m : Message, b = m.encode ∧ m.kind = .sample ∧ m.seq < 2 ^ 64
  slot : ∀ item, x.service.slot.slot = some item → SampleSent x.upstream item.sample
  replies : ∀ r ∈ x.service.computed ++ x.service.parked,
    ∃ m out t, r.message = m.replyTo out t ∧ ControllerAnswered x.upstream obs m out
  downstream : ∀ b ∈ x.downstream, b.length ≤ Network.maxDatagram ∧
    ∃ m out t, b = (m.replyTo out t).encode ∧ ControllerAnswered x.upstream obs m out

/-- What the plant holds in its mailbox or was handed came back from the controller. -/
structure Delivery (x : ClosedLoop κ) (obs : List LoopObs) : Prop where
  inbox : ∀ p, x.client.inbox.slot = some p → CarriedBack x.upstream x.downstream obs p
  handed : ∀ c, LoopObs.handed c ∈ obs → c = {} ∨ CarriedBack x.upstream x.downstream obs c

/-- The invariant of a run that showed `obs` and made `n` samples. -/
structure LoopInv (x : ClosedLoop κ) (obs : List LoopObs) (n : Nat) : Prop where
  plant : PlantBooks x.client (obs.filterMap LoopObs.put?) n
  provenance : Provenance x obs
  delivery : Delivery x obs

namespace Provenance

variable {x x' : ClosedLoop κ} {obs obs' : List LoopObs}

/-- A step of the plant: the service and the replies on the wire stay, and what the plant
sends is a numbered sample. -/
theorem extend (h : Provenance x obs) (hservice : x'.service = x.service)
    (hdown : x'.downstream = x.downstream) (hup : x.upstream ⊆ x'.upstream)
    (hnew : ∀ b ∈ x'.upstream, b ∈ x.upstream ∨ (b.length ≤ Network.maxDatagram ∧
      ∃ m : Message, b = m.encode ∧ m.kind = .sample ∧ m.seq < 2 ^ 64))
    (hobs : obs ⊆ obs') : Provenance x' obs' := by
  refine ⟨fun b hb => ?_, fun item hi => ?_, fun r hr => ?_, fun b hb => ?_⟩
  · rcases hnew b hb with hb | hb
    · exact h.upstream b hb
    · exact hb
  · rw [hservice] at hi
    exact (h.slot item hi).mono hup
  · rw [hservice] at hr
    obtain ⟨m, out, t, hm, hans⟩ := h.replies r hr
    exact ⟨m, out, t, hm, hans.mono hup hobs⟩
  · rw [hdown] at hb
    obtain ⟨hlen, m, out, t, hm, hans⟩ := h.downstream b hb
    exact ⟨hlen, m, out, t, hm, hans.mono hup hobs⟩

/-- A step of the service: the sample in its slot was sent, every reply it holds was held
before or answers a sample the controller answered, and what it sent was a reply it held. -/
theorem serve (h : Provenance x obs) (s' : Service κ) (sent : List (List UInt8))
    (hobs : obs ⊆ obs')
    (hslot : ∀ item, s'.slot.slot = some item → SampleSent x.upstream item.sample)
    (hrep : ∀ r ∈ s'.computed ++ s'.parked, r ∈ x.service.computed ++ x.service.parked ∨
      ∃ m out t, r.message = m.replyTo out t ∧ ControllerAnswered x.upstream obs' m out)
    (hsent : ∀ b ∈ sent, b.length ≤ Network.maxDatagram ∧
      ∃ r ∈ x.service.computed ++ x.service.parked, b = r.message.encode) :
    Provenance { x with service := s', downstream := x.downstream ++ sent } obs' := by
  have hup : x.upstream ⊆ x.upstream := List.Subset.refl _
  refine ⟨h.upstream, hslot, fun r hr => ?_, fun b hb => ?_⟩
  · rcases hrep r hr with hr | hr
    · obtain ⟨m, out, t, hm, hans⟩ := h.replies r hr
      exact ⟨m, out, t, hm, hans.mono hup hobs⟩
    · exact hr
  · rcases List.mem_append.1 hb with hb | hb
    · obtain ⟨hlen, m, out, t, hm, hans⟩ := h.downstream b hb
      exact ⟨hlen, m, out, t, hm, hans.mono hup hobs⟩
    · obtain ⟨hlen, r, hr, rfl⟩ := hsent b hb
      obtain ⟨m, out, t, hm, hans⟩ := h.replies r hr
      exact ⟨hlen, m, out, t, by rw [hm], hans.mono hup hobs⟩

end Provenance

namespace Delivery

variable {x x' : ClosedLoop κ} {obs obs' : List LoopObs}

theorem mono (h : Delivery x obs) (hinbox : x'.client.inbox.slot = x.client.inbox.slot)
    (hup : x.upstream ⊆ x'.upstream) (hdown : x.downstream ⊆ x'.downstream)
    (hobs : obs ⊆ obs')
    (hhanded : ∀ c, LoopObs.handed c ∈ obs' → LoopObs.handed c ∈ obs) :
    Delivery x' obs' := by
  refine ⟨fun p hp => ?_, fun c hc => ?_⟩
  · rw [hinbox] at hp
    exact (h.inbox p hp).mono hup hdown hobs
  · exact (h.handed c (hhanded c hc)).imp_right fun hc => hc.mono hup hdown hobs

/-- The commands a tick takes are empty or came back from the controller. -/
theorem commands (h : Delivery x obs) :
    x.client.actuation.1 = {} ∨ CarriedBack x.upstream x.downstream obs x.client.actuation.1 := by
  rw [Client.actuation_fst]
  cases hslot : x.client.inbox.slot with
  | none => exact .inl rfl
  | some p => exact .inr (h.inbox p hslot)

/-- A tick hands over such commands and leaves the mailbox empty. -/
theorem handOver (h : Delivery x obs) {commands : PropMap}
    (hcmd : commands = {} ∨ CarriedBack x.upstream x.downstream obs commands)
    (hin : x'.client.inbox.slot = none) (hup : x.upstream ⊆ x'.upstream)
    (hdown : x'.downstream = x.downstream) : Delivery x' (obs ++ [.handed commands]) := by
  have hobs : obs ⊆ obs ++ [.handed commands] := List.subset_append_left _ _
  refine ⟨fun p hp => by simp [hin] at hp, fun c hc => ?_⟩
  rw [hdown]
  rcases List.mem_append.1 hc with hc | hc
  · exact (h.handed c hc).imp_right fun hc => hc.mono hup (fun _ => id) hobs
  · cases List.mem_singleton.1 hc
    exact hcmd.imp_right fun hc => hc.mono hup (fun _ => id) hobs

end Delivery

/-! ## §5. Every event keeps the invariant -/

namespace LoopInv

variable {x : ClosedLoop κ} {obs : List LoopObs} {n : Nat}

theorem start {config : ServiceConfig} {controller : κ} {s : Service κ}
    (hstart : Service.start config controller = .ok s) : LoopInv (ClosedLoop.start s) [] 0 := by
  obtain rfl := Service.start_eq hstart
  -- nothing was sent, held, put or handed yet
  refine ⟨PlantBooks.bind, ⟨?_, ?_, ?_, ?_⟩, ⟨?_, ?_⟩⟩
  all_goals simp [ClosedLoop.start, Client.bind]

/-- A change of the plant's counters alone. -/
theorem plantDiagnostics (h : LoopInv x obs n) (d : Diagnostics) :
    LoopInv { x with plantDiagnostics := d } obs n :=
  ⟨h.plant, h.provenance.extend rfl rfl (fun _ => id) (fun _ hb => .inl hb) (fun _ => id),
    h.delivery.mono rfl (fun _ => id) (fun _ => id) (fun _ => id) fun _ => id⟩

theorem tick [ControllerImpl κ] (h : LoopInv x obs n) (samples : Option PropMap) (net : Network)
    (now : Float) (sentAt : Nat)
    (hn : n + (if (LoopEvent.tick samples net now sentAt).sends then 1 else 0) < 2 ^ 64) :
    LoopInv (x.step (.tick samples net now sentAt)).2
      (obs ++ (x.step (.tick samples net now sentAt)).1)
      (n + if (LoopEvent.tick samples net now sentAt).sends then 1 else 0) := by
  have htake := h.plant.take
  have hcmd := h.delivery.commands
  have hempty := Client.actuation_inbox x.client
  simp only [ClosedLoop.step]
  generalize x.client.actuation = a at htake hcmd hempty ⊢
  obtain ⟨commands, c⟩ := a
  dsimp only at htake hcmd hempty ⊢
  have hputs : (obs ++ [LoopObs.handed commands]).filterMap LoopObs.put? =
      obs.filterMap LoopObs.put? := by simp [LoopObs.put?]
  cases samples with
  | none =>
    refine ⟨?_, h.provenance.extend rfl rfl (fun _ => id) (fun _ hb => .inl hb)
      (List.subset_append_left _ _), h.delivery.handOver hcmd hempty (fun _ => id) rfl⟩
    simpa [hputs, LoopEvent.sends] using htake
  | some values =>
    simp only [LoopEvent.sends, if_true] at hn
    -- the endpoint is bound, so the sample is made; it leaves the host or is dropped
    rcases Client.put_cases c x.plantDiagnostics net values now sentAt with
      ⟨hb, -⟩ | ⟨-, out, d', -, hout, hput⟩
    · simp [htake.bound] at hb
    dsimp only
    rw [hput]
    have hup : x.upstream ⊆ x.upstream ++ out.toList := List.subset_append_left _ _
    refine ⟨?_, h.provenance.extend rfl rfl hup (fun b hb => ?_) (List.subset_append_left _ _),
      h.delivery.handOver hcmd hempty hup rfl⟩
    · simpa [hputs, LoopEvent.sends] using htake.sent values now sentAt hn
    · rcases List.mem_append.1 hb with hb | hb
      · exact .inl hb
      · obtain ⟨rfl, hsend⟩ := hout b (Option.mem_toList.1 hb)
        refine .inr ⟨Network.send_le_maxDatagram hsend, _, rfl, Factory.create_kind .., ?_⟩
        rw [Factory.create_seq, htake.nextSeq]
        omega

/-- A step of the service keeps the invariant: the plant is left alone, the controller's
answers are the only new observations, and the service's traffic is accounted for. -/
theorem serve (h : LoopInv x obs n) (s' : Service κ) (sent : List (List UInt8))
    (new : List LoopObs) (hnew : ∀ o ∈ new, ∃ m out, o = .answered m out)
    (hslot : ∀ item, s'.slot.slot = some item → SampleSent x.upstream item.sample)
    (hrep : ∀ r ∈ s'.computed ++ s'.parked, r ∈ x.service.computed ++ x.service.parked ∨
      ∃ m out t, r.message = m.replyTo out t ∧ ControllerAnswered x.upstream (obs ++ new) m out)
    (hsent : ∀ b ∈ sent, b.length ≤ Network.maxDatagram ∧
      ∃ r ∈ x.service.computed ++ x.service.parked, b = r.message.encode) :
    LoopInv { x with service := s', downstream := x.downstream ++ sent } (obs ++ new) n := by
  have hobs : obs ⊆ obs ++ new := List.subset_append_left _ _
  have hputs : (obs ++ new).filterMap LoopObs.put? = obs.filterMap LoopObs.put? := by
    have hnone : new.filterMap LoopObs.put? = [] := by
      refine List.filterMap_eq_nil_iff.2 fun o ho => ?_
      obtain ⟨m, out, rfl⟩ := hnew o ho
      rfl
    rw [List.filterMap_append, hnone, List.append_nil]
  have hhanded : ∀ c, LoopObs.handed c ∈ obs ++ new → LoopObs.handed c ∈ obs := by
    intro c hc
    rcases List.mem_append.1 hc with hc | hc
    · exact hc
    · obtain ⟨m, out, hmo⟩ := hnew _ hc
      cases hmo
  refine ⟨?_, h.provenance.serve s' sent hobs hslot hrep hsent,
    h.delivery.mono rfl (fun _ => id) (List.subset_append_left _ _) hobs hhanded⟩
  rw [hputs]
  exact h.plant

/-- A step of the service that neither answers nor sends: the slot holds a sent sample and the
service holds no new replies. -/
theorem keep (h : LoopInv x obs n) (s' : Service κ)
    (hslot : ∀ item, s'.slot.slot = some item → SampleSent x.upstream item.sample)
    (hrep : s'.computed ++ s'.parked ⊆ x.service.computed ++ x.service.parked) :
    LoopInv { x with service := s' } obs n := by
  simpa only [List.append_nil] using
    h.serve s' [] [] (by simp) hslot (fun r hr => .inl (hrep hr)) (by simp)

theorem toService [ControllerImpl κ] (h : LoopInv x obs n) (i : Nat) (plant : SocketAddr)
    (now : Float) :
    LoopInv (x.step (.toService i plant now)).2 (obs ++ (x.step (.toService i plant now)).1)
      (n + if (LoopEvent.toService i plant now).sends then 1 else 0) := by
  simp only [ClosedLoop.step, LoopEvent.sends, Bool.false_eq_true, if_false, Nat.add_zero]
  cases hb : x.upstream[i]? with
  | none => simpa using h
  | some bytes =>
    dsimp only
    obtain ⟨hlen, m, rfl, hkind, hseq⟩ := h.provenance.upstream _ (List.mem_of_getElem? hb)
    have hdec : Message.decode m.encode = .ok m :=
      Message.decode_encode_of_short m hseq (by unfold Network.maxDatagram at hlen; omega)
    obtain ⟨hcomp, hpark, hslot⟩ := Service.intake_shape x.service m.encode plant now
    rw [List.append_nil]
    refine h.keep _ (fun item hi => ?_) (fun r hr => by rwa [hcomp, hpark] at hr)
    -- the slot keeps its sample, or takes the one just delivered
    rcases hslot with hs | ⟨m', hm', -, hs⟩
    · rw [hs] at hi
      exact h.provenance.slot item hi
    · rw [hdec, Except.ok.injEq] at hm'
      subst hm'
      rw [hs, Option.some.injEq] at hi
      subst hi
      exact ⟨hkind, hseq, List.mem_of_getElem? hb⟩

theorem toPlant [ControllerImpl κ] (h : LoopInv x obs n) (i recvAt : Nat) (now : Float) :
    LoopInv (x.step (.toPlant i recvAt now)).2 (obs ++ (x.step (.toPlant i recvAt now)).1)
      (n + if (LoopEvent.toPlant i recvAt now).sends then 1 else 0) := by
  simp only [ClosedLoop.step, LoopEvent.sends, Bool.false_eq_true, if_false, Nat.add_zero]
  cases hb : x.downstream[i]? with
  | none => simpa using h
  | some bytes =>
    dsimp only
    obtain ⟨hlen, m, out, t, rfl, hans⟩ := h.provenance.downstream _ (List.mem_of_getElem? hb)
    have hdec : Message.decode (m.replyTo out t).encode = .ok (m.replyTo out t) :=
      Message.decode_encode_of_short _ hans.2.2.1 (by unfold Network.maxDatagram at hlen; omega)
    rcases Client.receive_cases x.client x.plantDiagnostics _ recvAt now h.plant.listening with
      ⟨-, hr⟩ | ⟨-, hr⟩ | ⟨m', -, -, hr⟩ | ⟨m', -, -, -, hr⟩ |
      ⟨m', p, hp, hm', -, hseq, hr⟩
    all_goals rw [hr]
    · simpa only [List.append_nil] using h.plantDiagnostics _
    · simpa only [List.append_nil] using h.plantDiagnostics _
    · simpa only [List.append_nil] using h.plantDiagnostics _
    · simpa only [List.append_nil] using h.plantDiagnostics _
    · -- the reply answers a waiting sample: its payload is put, under the sample's number
      rw [hdec, Except.ok.injEq] at hm'
      subst hm'
      dsimp only
      rw [hdec]
      have hobs : obs ⊆ obs ++ [.put m.seq out] := List.subset_append_left _ _
      have hcarried : CarriedBack x.upstream x.downstream (obs ++ [.put m.seq out]) out :=
        ⟨m, t, hans.mono (fun _ => id) hobs, List.mem_of_getElem? hb,
          List.mem_append_right _ (List.mem_singleton_self _)⟩
      refine ⟨?_, h.provenance.extend rfl rfl (fun _ => id) (fun _ hb => .inl hb) hobs,
        fun q hq => ?_, fun c hc => ?_⟩
      · have := h.plant.answer hp out (m.replyTo out t).encode.length recvAt now
        rw [hseq] at this
        simpa [LoopObs.put?, Message.replyTo] using this
      · simp only [Client.answer, Mailbox.put_slot, Option.some.injEq] at hq
        exact hq ▸ hcarried
      · rcases List.mem_append.1 hc with hc | hc
        · exact (h.delivery.handed c hc).imp_right fun hc =>
            hc.mono (fun _ => id) (fun _ => id) hobs
        · simp at hc

theorem work [ControllerImpl κ] (h : LoopInv x obs n) (now took : Float) :
    LoopInv (x.step (.work now took)).2 (obs ++ (x.step (.work now took)).1)
      (n + if (LoopEvent.work now took).sends then 1 else 0) := by
  simp only [ClosedLoop.step, LoopEvent.sends, Bool.false_eq_true, if_false, Nat.add_zero]
  rcases Service.work_cases x.service now took with
    ⟨hs, hw⟩ | ⟨item, e, c, hs, hp, hw⟩ | ⟨item, out, c, hs, hp, hw⟩
  · have := h.keep (x.service.work now took).2 (by rw [hw]; exact h.provenance.slot)
      (by rw [hw]; exact fun _ => id)
    rw [hs]
    simpa only [List.append_nil] using this
  · have := h.keep (x.service.work now took).2 (by rw [hw]; simp [Mailbox.take])
      (by rw [hw]; exact fun _ => id)
    rw [hs]
    dsimp only
    rw [hp]
    simpa only [List.append_nil] using this
  · -- the controller's answer is observed, and its reply joins the computed ones
    have hans :
        ControllerAnswered x.upstream (obs ++ [.answered item.sample out]) item.sample out :=
      ⟨List.mem_append_right _ (List.mem_singleton_self _), h.provenance.slot item hs⟩
    have := h.serve (x.service.work now took).2 [] [.answered item.sample out] (by simp)
      (by rw [hw]; simp [Mailbox.take]) (fun r hr => ?_) (by simp)
    · rw [hs]
      dsimp only
      rw [hp]
      simpa only [List.append_nil] using this
    rw [hw] at hr
    simp only [List.mem_append, List.mem_singleton] at hr
    rcases hr with (hr | rfl) | hr
    · exact .inl (List.mem_append_left _ hr)
    · exact .inr ⟨item.sample, out, now, rfl, hans⟩
    · exact .inl (List.mem_append_right _ hr)

/-- Sending a reply the service held, from the service less some of its replies. -/
theorem send (h : LoopInv x obs n) (s₀ : Service κ) (r : Reply) (hslot : s₀.slot = x.service.slot)
    (hsub : s₀.computed ++ s₀.parked ⊆ x.service.computed ++ x.service.parked)
    (hr : r ∈ x.service.computed ++ x.service.parked) (net : Network) (now : Float) :
    LoopInv { x with service := (s₀.send net r now).2,
                     downstream := x.downstream ++ ((s₀.send net r now).1.map (·.2)).toList }
      obs n := by
  obtain ⟨hslot', hcomp, hpark, hbytes⟩ := Service.send_shape s₀ net r now
  have := h.serve (s₀.send net r now).2 ((s₀.send net r now).1.map (·.2)).toList [] (by simp)
    (by rw [hslot', hslot]; exact h.provenance.slot)
    (fun r' hr' => .inl (hsub (by rwa [hcomp, hpark] at hr')))
    (fun b hb => ?_)
  · simpa only [List.append_nil] using this
  obtain ⟨rfl, hlen⟩ := hbytes b hb
  exact ⟨hlen, r, hr, rfl⟩

theorem dispatch [ControllerImpl κ] (h : LoopInv x obs n) (net : Network) (now : Float) :
    LoopInv (x.step (.dispatch net now)).2 (obs ++ (x.step (.dispatch net now)).1)
      (n + if (LoopEvent.dispatch net now).sends then 1 else 0) := by
  simp only [ClosedLoop.step, LoopEvent.sends, Bool.false_eq_true, if_false, Nat.add_zero,
    List.append_nil]
  rcases Service.dispatch_cases x.service net now with
    ⟨-, hd⟩ | ⟨r, rest, hc, -, hd⟩ | ⟨r, rest, hc, -, hd⟩
  · rw [hd]
    simpa only [Option.map_none, Option.toList_none, List.append_nil] using
      h.keep x.service h.provenance.slot fun _ => id
  · rw [hd]
    refine h.send { x.service with computed := rest } r rfl (fun r' hr' => ?_) (by simp [hc]) net
      now
    rw [hc]
    simp only [List.mem_append, List.mem_cons] at hr' ⊢
    tauto
  · -- the reply is parked, and nothing goes on the wire
    have := h.keep { x.service with computed := rest, parked := x.service.parked ++ [r] }
      h.provenance.slot fun r' hr' => ?_
    · rw [hd]
      simpa only [Option.map_none, Option.toList_none, List.append_nil] using this
    rw [hc]
    simp only [List.mem_append, List.mem_cons] at hr' ⊢
    tauto

theorem fire [ControllerImpl κ] (h : LoopInv x obs n) (net : Network) (i : Nat) (now : Float) :
    LoopInv (x.step (.fire net i now)).2 (obs ++ (x.step (.fire net i now)).1)
      (n + if (LoopEvent.fire net i now).sends then 1 else 0) := by
  simp only [ClosedLoop.step, LoopEvent.sends, Bool.false_eq_true, if_false, Nat.add_zero,
    List.append_nil]
  rcases Service.fire_cases x.service net i now with ⟨-, hf⟩ | ⟨r, hr, hf⟩
  · rw [hf]
    simpa only [Option.map_none, Option.toList_none, List.append_nil] using
      h.keep x.service h.provenance.slot fun _ => id
  · rw [hf]
    refine h.send { x.service with parked := x.service.parked.eraseIdx i } r rfl (fun r' hr' => ?_)
      (List.mem_append_right _ (List.mem_of_getElem? hr)) net now
    simp only [List.mem_append] at hr' ⊢
    exact hr'.imp_right fun hr' => (List.eraseIdx_sublist _ i).subset hr'

theorem step [ControllerImpl κ] (h : LoopInv x obs n) (e : LoopEvent)
    (hn : n + (if e.sends then 1 else 0) < 2 ^ 64) :
    LoopInv (x.step e).2 (obs ++ (x.step e).1) (n + if e.sends then 1 else 0) := by
  cases e with
  | tick samples net now sentAt => exact h.tick samples net now sentAt hn
  | toService i plant now => exact h.toService i plant now
  | toPlant i recvAt now => exact h.toPlant i recvAt now
  | work now took => exact h.work now took
  | dispatch net now => exact h.dispatch net now
  | fire net i now => exact h.fire net i now

/-- Every run keeps the invariant while the samples it makes stay below `2^64`. -/
theorem run [ControllerImpl κ] (h : LoopInv x obs n) (evs : List LoopEvent)
    (hn : n + evs.countP LoopEvent.sends < 2 ^ 64) :
    LoopInv (x.run evs).2 (obs ++ (x.run evs).1) (n + evs.countP LoopEvent.sends) := by
  induction evs generalizing x obs n with
  | nil => simpa [ClosedLoop.run] using h
  | cons e es ih =>
    rw [List.countP_cons] at hn ⊢
    have := ih (h.step e (by omega)) (by omega)
    simp only [ClosedLoop.run, List.append_assoc] at this ⊢
    rwa [show n + (es.countP LoopEvent.sends + if e.sends then 1 else 0) =
      n + (if e.sends then 1 else 0) + es.countP LoopEvent.sends by omega]

end LoopInv

/-! ## §6. Agreement -/

/-- The loop agrees in a run that showed `obs` and ended in `x`: the commands handed to the
plant are empty or came back from the controller, and no number is put twice. -/
structure LoopAgreement (obs : List LoopObs) (x : ClosedLoop κ) : Prop where
  handed : ∀ c, LoopObs.handed c ∈ obs → c = {} ∨ CarriedBack x.upstream x.downstream obs c
  putOnce : (obs.filterMap LoopObs.put?).Nodup

/-- Closed-loop agreement: in every run of a plant and a started service over a network that
may drop, duplicate, delay and reorder datagrams, with fewer than `2^64` samples, the plant is
handed only commands its controller computed for its own samples, and each number is put into
the mailbox at most once. -/
theorem closed_loop_agreement [ControllerImpl κ] {config : ServiceConfig} {controller : κ}
    {s : Service κ} (hstart : Service.start config controller = .ok s) (evs : List LoopEvent)
    (hsamples : evs.countP LoopEvent.sends < 2 ^ 64) :
    LoopAgreement ((ClosedLoop.start s).run evs).1 ((ClosedLoop.start s).run evs).2 := by
  have h := (LoopInv.start hstart).run evs (by omega)
  rw [List.nil_append] at h
  exact ⟨h.delivery.handed, h.plant.once⟩

/-- A sample is delivered, answered and dispatched; its reply reaches the plant twice, and the
next tick hands the echoed payload over. -/
theorem closed_loop_agreement_duplicated_reply :
    let s : Service Controller := { config := {}, controller := .echo }
    let evs := [LoopEvent.tick (some {}) .reachable 0 0,
      .toService 0 (SocketAddr.loopbackV4 4000) 1, .work 2 0, .dispatch .reachable 3,
      .toPlant 0 4000 4, .toPlant 0 5000 5, .tick none .reachable 6 6]
    (Service.start {} .echo = .ok s ∧ evs.countP LoopEvent.sends < 2 ^ 64) ∧
      LoopAgreement ((ClosedLoop.start s).run evs).1 ((ClosedLoop.start s).run evs).2 :=
  ⟨⟨rfl, by decide⟩, @closed_loop_agreement Controller _ {} .echo _ rfl _ (by decide)⟩

end ControlLoop
