import Mathlib
import ControlLoop.Control.Service

/-! # Conservation of samples in the controller service

A running service is driven by four actors at once: datagrams arrive from any senders, the
worker takes the waiting sample to the controller, computed replies are dispatched (sent at
once, or parked when replies are delayed), and the timers of parked replies fire, in any order.
Then the service stops. Samples pass from hand to hand through the one-slot work slot, the
queue of computed replies and the table of parked ones, and each hand-off could lose a sample
or count it twice.

None does. Number the accepted samples in order of acceptance. A `Ledger` follows each number
through the service, moving it exactly where the service moves its sample. In every run of a
started service (`service_conservation`):

  * every accepted sample meets exactly one fate: overwritten in the slot, failed in the
    controller, its reply sent, its reply's send refused, or left unanswered at the stop (in
    the slot, parked or computed);
  * each counter counts its fate, as a 64-bit counter, the report's unanswered samples are the
    counted ones, and the samples received add up to overwritten, failed, sent, dropped and
    unanswered, as 64-bit counters do;
  * an overwritten sample never reaches the controller, and no sample reaches it twice.

## Proof

One inversion lemma per action of the service (`Service.intake_cases`, `work_cases`,
`send_cases`, `dispatch_cases`, `fire_cases`) says what it can do. `Books` says that a ledger
keeps the books of a service: it holds a number wherever the service holds a sample, every
number below the samples received is in exactly one place, and the counters count the
places that are fates. `Books` holds of a fresh service, every event keeps it, hence every
run does (`Books.run`), and stopping turns it into the accounting.
-/

namespace ControlLoop

/-! ## §1. Runs of the service -/

/-- What happens to a running service: a datagram arrives, the worker steps, the oldest
computed reply is dispatched, or the timer of a parked reply fires. -/
inductive ServiceEvent where
  | arrive (bytes : List UInt8) (sender : SocketAddr) (now : Float)
  | work (now took : Float)
  | dispatch (net : Network) (now : Float)
  | fire (net : Network) (i : Nat) (now : Float)

namespace Service

variable {κ : Type}

/-- The service after one event. -/
def step [ControllerImpl κ] (s : Service κ) : ServiceEvent → Service κ
  | .arrive bytes sender now => (s.intake bytes sender now).2
  | .work now took => (s.work now took).2
  | .dispatch net now => (s.dispatch net now).2
  | .fire net i now => (s.fire net i now).2

/-- The service after a run of events. -/
def run [ControllerImpl κ] (s : Service κ) : List ServiceEvent → Service κ
  | [] => s
  | e :: es => (s.step e).run es

theorem start_eq {config : ServiceConfig} {controller : κ} {s : Service κ}
    (h : Service.start config controller = .ok s) : s = { config, controller } := by
  unfold start at h
  split at h
  · cases h
  · exact (Except.ok.inj h).symm

/-! ## §2. What each action can do -/

variable (s : Service κ)

/-- A datagram is nothing, malformed, of the wrong kind, or a sample: the sample takes the
slot, and the one it replaces is counted as overwritten. -/
theorem intake_cases (bytes : List UInt8) (sender : SocketAddr) (now : Float) :
    s.intake bytes sender now = (.none, s) ∨
    s.intake bytes sender now =
      (.malformed, { s with diagnostics := s.diagnostics.record .malformed }) ∨
    s.intake bytes sender now =
      (.ignoredKind, { s with diagnostics := s.diagnostics.record .ignoredKind }) ∨
    ∃ m, Message.decode bytes = .ok m ∧ m.kind = .sample ∧ s.intake bytes sender now =
      (.accepted, { s with slot := (s.slot.put ⟨m, sender, now, bytes.length⟩).2,
                           received := s.received + 1,
                           diagnostics := if s.slot.slot.isSome
                             then s.diagnostics.record .overwrittenSample else s.diagnostics }) := by
  unfold intake
  rcases hdec : Message.decode bytes with err | m
  · cases err
    · exact .inl rfl
    · exact .inr (.inl rfl)
  · by_cases hk : m.kind = .sample
    · refine .inr (.inr (.inr ⟨m, rfl, hk, ?_⟩))
      simp only [hk, bne_self_eq_false, Bool.false_eq_true, if_false]
      rfl
    · exact .inr (.inr (.inl (by simp [hk])))

/-- The worker is idle on an empty slot; otherwise it empties the slot and the controller,
asked about the waiting sample, fails or answers, and the answer becomes a reply. -/
theorem work_cases [ControllerImpl κ] (now took : Float) :
    (s.slot.slot = none ∧ s.work now took = (.idle, s)) ∨
    (∃ item e controller, s.slot.slot = some item ∧
      ControllerImpl.process s.controller item.sample.payload = (.error e, controller) ∧
      s.work now took = (.failed, { s with slot := s.slot.take.2, controller,
                                           diagnostics := s.diagnostics.record .controllerFailure })) ∨
    (∃ item out controller, s.slot.slot = some item ∧
      ControllerImpl.process s.controller item.sample.payload = (.ok out, controller) ∧
      s.work now took = (.computed,
        { s with slot := s.slot.take.2, controller,
                 computed := s.computed ++ [⟨item.sender, item.sample.replyTo out now,
                   item.recvTimestamp, item.recvSize, took⟩] })) := by
  unfold work
  cases hslot : s.slot.slot with
  | none => exact .inl ⟨rfl, by simp [Mailbox.take, hslot]⟩
  | some item =>
    simp only [Mailbox.take, hslot]
    rcases hproc : ControllerImpl.process s.controller item.sample.payload with ⟨e | out, c⟩
    · exact .inr (.inl ⟨item, e, c, rfl, hproc, rfl⟩)
    · exact .inr (.inr ⟨item, out, c, rfl, hproc, rfl⟩)

/-- A send the network refuses is counted as dropped; one it takes puts the reply's bytes on
the wire to its target and is counted as sent. -/
theorem send_cases (net : Network) (r : Reply) (now : Float) :
    (∃ err, net.send r.message.encode.length = .error err ∧
      s.send net r now = (none, { s with diagnostics := s.diagnostics.record .droppedSend })) ∨
    (net.send r.message.encode.length = .ok () ∧ ∃ row, s.send net r now =
      (some (r.target, r.message.encode), { s with sent := s.sent + 1, rows := s.rows.push row })) := by
  unfold send
  dsimp only
  rcases hsend : net.send r.message.encode.length with err | u
  · exact .inl ⟨err, rfl, rfl⟩
  · exact .inr ⟨rfl, _, rfl⟩

/-- Dispatching does nothing without computed replies; otherwise the oldest is sent at once,
or parked when replies are delayed. -/
theorem dispatch_cases (net : Network) (now : Float) :
    (s.computed = [] ∧ s.dispatch net now = (none, s)) ∨
    (∃ r rest, s.computed = r :: rest ∧ s.config.replyDelay = none ∧
      s.dispatch net now = { s with computed := rest }.send net r now) ∨
    (∃ r rest, s.computed = r :: rest ∧ s.config.replyDelay.isSome ∧
      s.dispatch net now = (none, { s with computed := rest, parked := s.parked ++ [r] })) := by
  unfold dispatch
  cases hc : s.computed with
  | nil => exact .inl ⟨rfl, rfl⟩
  | cons r rest =>
    cases hd : s.config.replyDelay with
    | none => exact .inr (.inl ⟨r, rest, rfl, rfl, by simp [hd]⟩)
    | some d => exact .inr (.inr ⟨r, rest, rfl, rfl, by simp [hd]⟩)

/-- A timer fires for no parked reply, or its reply leaves the table and is sent. -/
theorem fire_cases (net : Network) (i : Nat) (now : Float) :
    (s.parked[i]? = none ∧ s.fire net i now = (none, s)) ∨
    (∃ r, s.parked[i]? = some r ∧
      s.fire net i now = { s with parked := s.parked.eraseIdx i }.send net r now) := by
  unfold fire
  cases h : s.parked[i]? with
  | none => exact .inl ⟨rfl, rfl⟩
  | some r => exact .inr ⟨r, rfl, rfl⟩

/-- The report of a stopped service: the sample left in the slot, the parked and the computed
replies are unanswered, and the unanswered counter counts them. -/
theorem stop_report :
    s.stop.1 = { samplesReceived := s.received, repliesSent := s.sent,
                 unanswered := UInt64.ofNat
                   (s.slot.slot.toList.length + (s.parked.length + s.computed.length)),
                 diagnostics := (s.diagnostics.add .unanswered (UInt64.ofNat
                   (s.slot.slot.toList.length + (s.parked.length + s.computed.length)))).counts } := by
  simp [stop, Mailbox.take]

end Service

/-! ## §3. The ledger of samples -/

/-- Where each accepted sample is, by its number in order of acceptance: in the work slot,
among the computed or the parked replies, or at one of its ends. The numbers of the samples
the controller was asked about are kept too, and how many samples were accepted. -/
structure Ledger where
  accepted : Nat := 0
  slot : Option Nat := none
  computed : List Nat := []
  parked : List Nat := []
  overwritten : List Nat := []
  failed : List Nat := []
  sent : List Nat := []
  dropped : List Nat := []
  processed : List Nat := []

namespace Ledger

variable {κ : Type} [ControllerImpl κ]

/-- A reply's sample ends as sent or as dropped, as its send went. -/
def settle (l : Ledger) (j : Nat) (went : Bool) : Ledger :=
  if went then { l with sent := l.sent ++ [j] } else { l with dropped := l.dropped ++ [j] }

/-- The ledger after an event at the service `s`: each number moves where the service moves
its sample, as the outcome of the service's own step says. -/
def step (l : Ledger) (s : Service κ) : ServiceEvent → Ledger
  | .arrive bytes sender now =>
    match (s.intake bytes sender now).1 with
    | .accepted =>
      { l with accepted := l.accepted + 1, slot := some l.accepted,
               overwritten := l.overwritten ++ l.slot.toList }
    | _ => l
  | .work now took =>
    match (s.work now took).1 with
    | .idle => l
    | .failed =>
      { l with slot := none, failed := l.failed ++ l.slot.toList,
               processed := l.processed ++ l.slot.toList }
    | .computed =>
      { l with slot := none, computed := l.computed ++ l.slot.toList,
               processed := l.processed ++ l.slot.toList }
  | .dispatch net now =>
    match l.computed with
    | [] => l
    | j :: rest =>
      match s.config.replyDelay with
      | some _ => { l with computed := rest, parked := l.parked ++ [j] }
      | none => { l with computed := rest }.settle j (s.dispatch net now).1.isSome
  | .fire net i now =>
    match l.parked[i]? with
    | none => l
    | some j => { l with parked := l.parked.eraseIdx i }.settle j (s.fire net i now).1.isSome

/-- The ledger along a run from the service `s`. -/
def run (l : Ledger) (s : Service κ) : List ServiceEvent → Ledger
  | [] => l
  | e :: es => (l.step s e).run (s.step e) es

/-- The samples a stop leaves unanswered, in the order of its report's rows. -/
def unanswered (l : Ledger) : List Nat := l.slot.toList ++ l.parked ++ l.computed

/-- Every place a number can be. -/
def places (l : Ledger) : List Nat :=
  l.slot.toList ++ l.computed ++ l.parked ++ l.overwritten ++ l.failed ++ l.sent ++ l.dropped

end Ledger

/-- The ledger keeps the books of the service: a number wherever the service holds a sample,
each number below the samples accepted in exactly one place, the samples the controller saw
among those past the controller, and each counter of the service counting its part, as a
64-bit counter. -/
structure Books (s : Service κ) (l : Ledger) : Prop where
  slot : l.slot.isSome = s.slot.slot.isSome
  computed : l.computed.length = s.computed.length
  parked : l.parked.length = s.parked.length
  places : l.places.Perm (List.range l.accepted)
  received : s.received = UInt64.ofNat l.accepted
  processed : l.processed.Perm (l.failed ++ l.computed ++ l.parked ++ l.sent ++ l.dropped)
  overwritten : s.diagnostics.counts.get .overwrittenSample = UInt64.ofNat l.overwritten.length
  failed : s.diagnostics.counts.get .controllerFailure = UInt64.ofNat l.failed.length
  dropped : s.diagnostics.counts.get .droppedSend = UInt64.ofNat l.dropped.length
  unanswered : s.diagnostics.counts.get .unanswered = 0
  sent : s.sent = UInt64.ofNat l.sent.length

/-! ## §4. Every event keeps the books -/

namespace Books

variable {κ : Type} [ControllerImpl κ] {s : Service κ} {l : Ledger}

omit [ControllerImpl κ] in
theorem fresh (config : ServiceConfig) (controller : κ) :
    Books { config, controller } {} :=
  ⟨rfl, rfl, rfl, by simp [Ledger.places], rfl, by simp, rfl, rfl, rfl, rfl, rfl⟩

omit [ControllerImpl κ] in
theorem slot_cases (h : Books s l) :
    (l.slot = none ∧ s.slot.slot = none) ∨ ∃ j w, l.slot = some j ∧ s.slot.slot = some w := by
  have hslot := h.slot
  cases hl : l.slot <;> cases hs : s.slot.slot <;>
    simp only [hl, hs, Option.isSome_none, Option.isSome_some, reduceCtorEq] at hslot
  · exact .inl ⟨rfl, rfl⟩
  · exact .inr ⟨_, _, rfl, rfl⟩

omit [ControllerImpl κ] in
/-- Counting an event that is no fate of a sample keeps the books. -/
theorem record (h : Books s l) {e : Event} (h₁ : e ≠ .overwrittenSample)
    (h₂ : e ≠ .controllerFailure) (h₃ : e ≠ .droppedSend) (h₄ : e ≠ .unanswered) :
    Books { s with diagnostics := s.diagnostics.record e } l :=
  ⟨h.slot, h.computed, h.parked, h.places, h.received, h.processed,
    by simp [h.overwritten, Ne.symm h₁], by simp [h.failed, Ne.symm h₂],
    by simp [h.dropped, Ne.symm h₃], by simp [h.unanswered, Ne.symm h₄], h.sent⟩

omit [ControllerImpl κ] in
/-- A step that only moves numbers between places, each place gaining what another loses, keeps
every accepted number in exactly one place. -/
theorem places_of_count (h : Books s l) {l' : Ledger}
    (hcount : ∀ a, l'.places.count a = l.places.count a) :
    l'.places.Perm (List.range l.accepted) :=
  (List.perm_iff_count.2 hcount).trans h.places

theorem intake (h : Books s l) (bytes : List UInt8) (sender : SocketAddr) (now : Float) :
    Books (s.intake bytes sender now).2 (l.step s (.arrive bytes sender now)) := by
  rcases Service.intake_cases s bytes sender now with hi | hi | hi | ⟨m, -, -, hi⟩ <;>
    simp only [Ledger.step, hi]
  · exact h
  · exact h.record (by decide) (by decide) (by decide) (by decide)
  · exact h.record (by decide) (by decide) (by decide) (by decide)
  · -- the new sample takes the next number; the one it replaces is overwritten
    have hcount : ∀ e, (if s.slot.slot.isSome then s.diagnostics.record .overwrittenSample
        else s.diagnostics).counts.get e = s.diagnostics.counts.get e +
          if e = .overwrittenSample then UInt64.ofNat l.slot.toList.length else 0 := by
      intro e
      rcases h.slot_cases with ⟨hl, hs⟩ | ⟨j, w, hl, hs⟩ <;> simp [hl, hs]
    refine ⟨rfl, h.computed, h.parked, ?_, by simp [h.received, UInt64.ofNat_add], h.processed,
      ?_, ?_, ?_, ?_, h.sent⟩
    · refine List.Perm.trans ?_
        ((h.places.append_right [l.accepted]).trans (by rw [List.range_succ]))
      rw [List.perm_iff_count]
      intro a
      simp only [Ledger.places, List.count_append, Option.toList_some]
      omega
    · simp [hcount, h.overwritten]
    · simp [hcount, h.failed]
    · simp [hcount, h.dropped]
    · simp [hcount, h.unanswered]

theorem work (h : Books s l) (now took : Float) :
    Books (s.work now took).2 (l.step s (.work now took)) := by
  rcases Service.work_cases s now took with ⟨hs, hw⟩ | ⟨item, e, c, hs, -, hw⟩ |
    ⟨item, out, c, hs, -, hw⟩ <;>
    simp only [Ledger.step, hw]
  · exact h
  · -- the sample in the slot fails in the controller
    obtain ⟨j, hl⟩ := Option.isSome_iff_exists.1 (h.slot.trans (by simp [hs]))
    refine ⟨rfl, h.computed, h.parked, ?_, h.received, ?_, h.overwritten, by simp [hl, h.failed],
      by simp [h.dropped], by simp [h.unanswered], h.sent⟩
    · refine h.places_of_count fun a => ?_
      simp only [Ledger.places, List.count_append, hl, Option.toList_some, Option.toList_none,
        List.count_nil]
      omega
    · refine List.Perm.trans (h.processed.append_right _) ?_
      rw [List.perm_iff_count]
      intro a
      simp only [List.count_append, hl, Option.toList_some]
      omega
  · -- the sample in the slot gets its reply computed
    obtain ⟨j, hl⟩ := Option.isSome_iff_exists.1 (h.slot.trans (by simp [hs]))
    refine ⟨rfl, by simp [hl, h.computed], h.parked, ?_, h.received, ?_, h.overwritten, h.failed,
      h.dropped, h.unanswered, h.sent⟩
    · refine h.places_of_count fun a => ?_
      simp only [Ledger.places, List.count_append, hl, Option.toList_some, Option.toList_none,
        List.count_nil]
      omega
    · refine List.Perm.trans (h.processed.append_right _) ?_
      rw [List.perm_iff_count]
      intro a
      simp only [List.count_append, hl, Option.toList_some]
      omega

omit [ControllerImpl κ] in
/-- A reply taken out of the computed or the parked ones is sent: its number, taken out of
the same place in the ledger, ends among the sent or the dropped. -/
theorem settle (h : Books s l) {cs ps : List Reply} {lc lp : List Nat} {j : Nat}
    (hmoved : (lc ++ lp ++ [j]).Perm (l.computed ++ l.parked))
    (hc : lc.length = cs.length) (hp : lp.length = ps.length)
    (net : Network) (r : Reply) (now : Float) :
    Books ({ s with computed := cs, parked := ps }.send net r now).2
      ({ l with computed := lc, parked := lp }.settle j
        ({ s with computed := cs, parked := ps }.send net r now).1.isSome) := by
  have hcount := List.perm_iff_count.1 hmoved
  rcases Service.send_cases { s with computed := cs, parked := ps } net r now
    with ⟨err, -, hsend⟩ | ⟨-, row, hsend⟩ <;> simp only [hsend, Ledger.settle, Option.isSome_none,
      Option.isSome_some, Bool.false_eq_true, if_false, if_true]
  · refine ⟨h.slot, hc, hp, ?_, h.received, ?_, by simp [h.overwritten], by simp [h.failed], ?_,
      by simp [h.unanswered], h.sent⟩
    · refine h.places_of_count fun a => ?_
      have := hcount a
      simp only [Ledger.places, List.count_append] at this ⊢
      omega
    · refine h.processed.trans ?_
      rw [List.perm_iff_count]
      intro a
      have := hcount a
      simp only [List.count_append] at this ⊢
      omega
    · simp [h.dropped]
  · refine ⟨h.slot, hc, hp, ?_, h.received, ?_, h.overwritten, h.failed, h.dropped, h.unanswered,
      by simp [h.sent, UInt64.ofNat_add]⟩
    · refine h.places_of_count fun a => ?_
      have := hcount a
      simp only [Ledger.places, List.count_append] at this ⊢
      omega
    · refine h.processed.trans ?_
      rw [List.perm_iff_count]
      intro a
      have := hcount a
      simp only [List.count_append] at this ⊢
      omega

theorem dispatch (h : Books s l) (net : Network) (now : Float) :
    Books (s.dispatch net now).2 (l.step s (.dispatch net now)) := by
  rcases Service.dispatch_cases s net now with ⟨hc, hd⟩ | ⟨r, rest, hc, hdelay, hd⟩ |
    ⟨r, rest, hc, hdelay, hd⟩
  · have hl : l.computed = [] := List.length_eq_zero_iff.1 (by rw [h.computed, hc]; rfl)
    simp only [Ledger.step, hl, hd]
    exact h
  all_goals
    obtain ⟨j, rest', hl⟩ : ∃ j rest', l.computed = j :: rest' :=
      List.exists_cons_of_length_pos (by rw [h.computed, hc]; simp)
    have hlen : rest'.length = rest.length := by
      have := h.computed
      rw [hl, hc] at this
      simpa using this
  · -- sent at once
    simp only [Ledger.step, hl, hdelay, hd]
    exact h.settle (by simp [hl, List.perm_iff_count, List.count_append, List.count_cons]; omega)
      hlen h.parked net r now
  · -- parked until its timer fires
    obtain ⟨d, hd'⟩ := Option.isSome_iff_exists.1 hdelay
    simp only [Ledger.step, hl, hd', hd]
    refine ⟨h.slot, hlen, by simp [h.parked], ?_, h.received, ?_, h.overwritten, h.failed,
      h.dropped, h.unanswered, h.sent⟩
    · refine h.places_of_count fun a => ?_
      simp only [Ledger.places, List.count_append, hl, List.count_cons, List.count_nil]
      omega
    · refine h.processed.trans ?_
      rw [List.perm_iff_count]
      intro a
      simp only [List.count_append, hl, List.count_cons, List.count_nil]
      omega

theorem fire (h : Books s l) (net : Network) (i : Nat) (now : Float) :
    Books (s.fire net i now).2 (l.step s (.fire net i now)) := by
  rcases Service.fire_cases s net i now with ⟨hp, hf⟩ | ⟨r, hp, hf⟩
  · have hl : l.parked[i]? = none := by
      rw [List.getElem?_eq_none_iff] at hp ⊢
      rw [h.parked]
      exact hp
    simp only [Ledger.step, hl, hf]
    exact h
  · have hi : i < l.parked.length := by
      rw [h.parked]
      exact (List.getElem?_eq_some_iff.1 hp).1
    have hl : l.parked[i]? = some l.parked[i] := List.getElem?_eq_getElem hi
    simp only [Ledger.step, hl, hf]
    refine h.settle ?_ h.computed ?_ net r now
    · have hperm := List.getElem_cons_eraseIdx_perm hi
      rw [List.perm_iff_count] at hperm ⊢
      intro a
      have := hperm a
      simp only [List.count_append, List.count_cons, List.count_nil] at this ⊢
      omega
    · have hi' : i < s.parked.length := h.parked ▸ hi
      simp [List.length_eraseIdx, hi', h.parked]

theorem step (h : Books s l) (e : ServiceEvent) : Books (s.step e) (l.step s e) := by
  cases e with
  | arrive bytes sender now => exact h.intake bytes sender now
  | work now took => exact h.work now took
  | dispatch net now => exact h.dispatch net now
  | fire net i now => exact h.fire net i now

theorem run (h : Books s l) (evs : List ServiceEvent) : Books (s.run evs) (l.run s evs) := by
  induction evs generalizing s l with
  | nil => exact h
  | cons e es ih => exact ih (h.step e)

end Books

/-! ## §5. Stopping -/

/-- What a stopped service accounts for, given its report and where its ledger put each
sample. -/
structure ServiceAccounting (r : ServiceReport) (l : Ledger) : Prop where
  /-- Every sample accepted meets exactly one fate. -/
  fates : (l.overwritten ++ l.failed ++ l.sent ++ l.dropped ++ l.unanswered).Perm
    (List.range l.accepted)
  /-- The samples received are the accepted ones, as a 64-bit counter. -/
  received : r.samplesReceived = UInt64.ofNat l.accepted
  overwritten : r.diagnostics.get .overwrittenSample = UInt64.ofNat l.overwritten.length
  failures : r.diagnostics.get .controllerFailure = UInt64.ofNat l.failed.length
  sent : r.repliesSent = UInt64.ofNat l.sent.length
  dropped : r.diagnostics.get .droppedSend = UInt64.ofNat l.dropped.length
  unanswered : r.unanswered = UInt64.ofNat l.unanswered.length
  /-- The unanswered counter is the report's count of unanswered samples. -/
  unansweredCounted : r.diagnostics.get .unanswered = r.unanswered
  /-- The samples received add up, as 64-bit counters do. -/
  balance : r.samplesReceived = r.diagnostics.get .overwrittenSample +
    r.diagnostics.get .controllerFailure + r.repliesSent +
    r.diagnostics.get .droppedSend + r.unanswered
  /-- An overwritten sample never reached the controller. -/
  overwrittenUnprocessed : ∀ j ∈ l.overwritten, j ∉ l.processed
  /-- No sample reached the controller twice. -/
  processedOnce : l.processed.Nodup

namespace Books

variable {κ : Type} {s : Service κ} {l : Ledger}

theorem unanswered_length (h : Books s l) :
    l.unanswered.length = s.slot.slot.toList.length + (s.parked.length + s.computed.length) := by
  have hslot : l.slot.toList.length = s.slot.slot.toList.length := by
    rcases h.slot_cases with ⟨hl, hs⟩ | ⟨j, w, hl, hs⟩ <;> simp [hl, hs]
  simp only [Ledger.unanswered, List.length_append, hslot, h.parked, h.computed]
  omega

/-- Stopping a service whose books are kept accounts for every sample. -/
theorem stop (h : Books s l) : ServiceAccounting s.stop.1 l := by
  have hfates : (l.overwritten ++ l.failed ++ l.sent ++ l.dropped ++ l.unanswered).Perm
      (List.range l.accepted) := by
    refine List.Perm.trans ?_ h.places
    rw [List.perm_iff_count]
    intro a
    simp only [Ledger.places, Ledger.unanswered, List.count_append]
    omega
  -- the numbers are distinct, so the overwritten ones are none of those past the controller
  have hsplit : (l.overwritten ++ (l.failed ++ l.computed ++ l.parked ++ l.sent ++ l.dropped) ++
      l.slot.toList).Perm l.places := by
    rw [List.perm_iff_count]
    intro a
    simp only [Ledger.places, List.count_append]
    omega
  have hdisjoint := List.nodup_append.1
    (List.nodup_append.1 ((hsplit.trans h.places).nodup_iff.2 List.nodup_range)).1
  have hlen := h.unanswered_length
  have hsum : s.received = UInt64.ofNat l.overwritten.length +
      UInt64.ofNat l.failed.length + UInt64.ofNat l.sent.length +
      UInt64.ofNat l.dropped.length + UInt64.ofNat l.unanswered.length := by
    rw [h.received, ← List.length_range (n := l.accepted), ← hfates.length_eq]
    simp only [List.length_append, UInt64.ofNat_add]
  rw [Service.stop_report]
  refine ⟨hfates, h.received, ?_, ?_, h.sent, ?_, by rw [hlen], ?_, ?_, ?_, ?_⟩
  · simp [h.overwritten]
  · simp [h.failed]
  · simp [h.dropped]
  · simp [h.unanswered]
  · simp [hsum, h.overwritten, h.failed, h.dropped, h.sent, hlen]
  · intro j hj hp
    exact hdisjoint.2.2 j hj j (h.processed.subset hp) rfl
  · exact h.processed.nodup_iff.2 hdisjoint.2.1

end Books

/-- Conservation of samples: in every run of a started service, whatever arrives and in
whatever order the worker, the dispatcher and the timers act, stopping accounts for every
accepted sample exactly once. -/
theorem service_conservation {κ : Type} [ControllerImpl κ] {config : ServiceConfig}
    {controller : κ} {s : Service κ} (hstart : Service.start config controller = .ok s) (evs : List ServiceEvent) :
    ServiceAccounting (s.run evs).stop.1 (({} : Ledger).run s evs) := by
  rw [Service.start_eq hstart]
  exact ((Books.fresh config controller).run evs).stop

/-- Two samples arrive before the worker steps, so the first is overwritten; the second is
answered, and a third arrives and is left in the slot. -/
theorem service_conservation_overwritten :
    let sample : Message := { kind := .sample, seq := 0, timestamp := ⟨0⟩, payload := {} }
    let plant := SocketAddr.loopbackV4 4000
    let evs := [ServiceEvent.arrive sample.encode plant 0, .arrive sample.encode plant 1,
      .work 2 0, .dispatch .reachable 3, .arrive sample.encode plant 4]
    let s : Service Controller := { config := {}, controller := .echo }
    Service.start {} .echo = .ok s ∧ ServiceAccounting (s.run evs).stop.1 (({} : Ledger).run s evs) :=
  ⟨rfl, @service_conservation Controller _ {} .echo _ rfl _⟩

end ControlLoop
