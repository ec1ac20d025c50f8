import ControlLoop.Link.Client
import ControlLoop.Proofs.FloatMagnitude

/-! # Accounting for replies at the plant's end

A session of the plant's end of the link binds a fresh endpoint with fresh counters, lets
samples be sent and datagrams arrive in any order, with ticks taking the newest actuation in
between, and then closes. Datagrams may be garbage, samples, stale or unprompted replies,
duplicates, in any order. In every session of fewer than `2 ^ 64` samples
(`reply_accounting`):

  * every datagram meets one fate, and nothing becomes exactly of the empty ones; each fate's
    counter counts the datagrams that met it, and the replies are the matched ones;
  * a datagram is matched, and its payload put into the mailbox, exactly when it is an
    actuation whose sequence number is waiting when it arrives (`RepliesMatchWaiting`);
  * after closing nothing waits, and the replies and the unanswered samples add up to the
    samples sent;
  * there is one row per sample: the answered ones with a finite round trip, then the
    unanswered ones in increasing order of sequence number.

The round trips are finite because instants come from a clock whose whole seconds fit 64
bits (`Binary64.secondsOfNanos_isFinite`).

## Proof

`Client.receive_cases` and `Client.put_cases` say once what an arrival and a send can do.
The counting lemmas follow from them event by event, with no invariant; `ClientInv` carries
the rest: numbering at `n`, and every sample numbered below `n` either answered, with its row,
or waiting, each exactly once. The invariant holds after binding and after each event, hence
after a whole run (`ClientInv.run`), and closing turns the waiting samples into the
unanswered rows.
-/

namespace ControlLoop

/-! ## §1. Sessions of the plant's end -/

/-- What happens at the plant's end of the link while it is bound: a sample sent over a
network at an instant, a datagram arriving at an instant, or a tick taking the newest
actuation. -/
inductive ClientEvent where
  | put (net : Network) (values : PropMap) (now : Float) (sentAt : Nat)
  | arrive (bytes : List UInt8) (recvAt : Nat) (now : Float)
  | take

namespace ClientEvent

/-- The instant of an event on the monotonic clock, in nanoseconds. -/
def instant : ClientEvent → Nat
  | put _ _ _ sentAt => sentAt
  | arrive _ recvAt _ => recvAt
  | take => 0

/-- Whether the event sends a sample. -/
def isPut : ClientEvent → Bool
  | put .. => true
  | _ => false

/-- The datagram that arrived, if the event is an arrival. -/
def arrival? : ClientEvent → Option (List UInt8)
  | arrive bytes _ _ => some bytes
  | _ => none

end ClientEvent

namespace Reception

/-- The counter that a fate adds one to: a matched reply is counted among the replies
instead, and nothing is counted for no bytes. -/
def counter? : Reception → Option Event
  | malformed => some .malformed
  | ignoredKind => some .ignoredKind
  | unprompted => some .unpromptedReply
  | none | matched => Option.none

/-- The counters with a fate counted. -/
def record (r : Reception) (d : Diagnostics) : Diagnostics :=
  match r.counter? with
  | some e => d.record e
  | Option.none => d

theorem counts_record (r : Reception) (d : Diagnostics) (ev : Event) :
    (r.record d).counts.get ev = d.counts.get ev + if r.counter? = some ev then 1 else 0 := by
  cases r <;>
    simp [record, counter?, eq_comm]

/-- The fates counted by one counter are those of one fate. -/
theorem counter?_eq_iff {r : Reception} {e : Event} (h : r.counter? = some e) (x : Reception) :
    x.counter? = some e ↔ x = r := by
  cases r <;> simp only [counter?, Option.some.injEq, reduceCtorEq] at h <;> subst h <;>
    cases x <;> simp [counter?]

end Reception

/-- The sequence numbers of the waiting samples. -/
def Tracker.waiting (t : Tracker) : List Nat := t.pending.map (·.seq)

/-- The row of a sample given up on: no reply, so NaN where the reply's stamp and size would
be, and an infinite round trip. -/
def Pending.unansweredRow (p : Pending) : Record :=
  Tracker.row p Binary64.nan Binary64.nan (Binary64.infinity false)

example : Binary64.nan.isNaN = true ∧ (Binary64.infinity false).isInf = true ∧
    0 < Binary64.infinity false := by
  decide

namespace Client

/-- The sequence numbers of the samples waiting for their reply. -/
def waiting (c : Client) : List Nat := c.tracker.waiting

/-- One event at the endpoint and its counters; an arrival also gives the datagram and what
became of it. -/
def step (c : Client) (d : Diagnostics) :
    ClientEvent → Option (List UInt8 × Reception) × Client × Diagnostics
  | .put net values now sentAt =>
    match c.put net d values now sentAt with
    | .ok (_, c', d') => (none, c', d')
    | .error _ => (none, c, d)
  | .arrive bytes recvAt now =>
    let r := c.receive d bytes recvAt now
    (some (bytes, r.1), r.2)
  | .take => (none, c.actuation.2, d)

/-- A run of events: each datagram that arrived with its fate, in order, and the endpoint
and counters at the end. -/
def run (c : Client) (d : Diagnostics) :
    List ClientEvent → List (List UInt8 × Reception) × Client × Diagnostics
  | [] => ([], c, d)
  | e :: es =>
    let s := c.step d e
    let r := s.2.1.run s.2.2 es
    (s.1.toList ++ r.1, r.2)

/-- A session: a fresh endpoint bound with fresh counters, the events, then closing. -/
def session (evs : List ClientEvent) : List (List UInt8 × Reception) × Client × Diagnostics :=
  let r := (Client.bind {}).run {} evs
  (r.1, (r.2.1.close r.2.2).2)

/-- The endpoint once it has sent the next sample of `values`, stamped `now`, at an instant:
the numbering moves on and the sample waits for its reply. -/
def sent (c : Client) (values : PropMap) (now : Float) (sentAt : Nat) : Client :=
  let made := c.factory.create values now
  { c with factory := made.2,
           tracker := c.tracker.register made.1.seq now made.1.encode.length sentAt }

/-- The endpoint once the reply to the waiting sample `p` came, carrying `payload` in `size`
bytes, at an instant, stamped `now`. -/
def answer (c : Client) (p : Pending) (payload : PropMap) (size recvAt : Nat) (now : Float) :
    Client :=
  let rtt := secondsOfNanos (recvAt - p.sentAt)
  { c with
    tracker := { pending := c.tracker.pending.filter (·.seq != p.seq),
                 rtts := c.tracker.rtts.push rtt }
    inbox := (c.inbox.put payload).2
    rows := c.rows.push (Tracker.row p now (Binary64.ofInt size) rtt) }

/-- A sent sample waits under the next number, in place of any that had it. -/
theorem sent_waiting (c : Client) (values : PropMap) (now : Float) (sentAt : Nat) :
    (c.sent values now sentAt).waiting =
      c.waiting.filter (· != c.factory.nextSeq) ++ [c.factory.nextSeq] := by
  simp [sent, waiting, Tracker.waiting, Tracker.register, List.filter_map, Function.comp_def]

/-- An answered sample stops waiting, with every other of its number. -/
theorem answer_waiting (c : Client) (p : Pending) (payload : PropMap) (size recvAt : Nat)
    (now : Float) : (c.answer p payload size recvAt now).waiting = c.waiting.filter (· != p.seq) := by
  simp [answer, waiting, Tracker.waiting, List.filter_map, Function.comp_def]

end Client

/-! ## §2. Decoding and resolving -/

/-- Only no bytes are no message. -/
theorem Message.decode_eq_noMessage_iff (bytes : List UInt8) :
    Message.decode bytes = .error .noMessage ↔ bytes = [] := by
  cases bytes with
  | nil => simp [Message.decode]
  | cons b bs =>
    simp only [Message.decode, List.isEmpty_cons, Bool.false_eq_true, if_false, reduceCtorEq,
      iff_false]
    split
    · split <;> simp
    · simp

namespace Tracker

theorem resolve_of_not_mem {t : Tracker} {seq : Nat} (size recvAt : Nat) (ts : Float)
    (h : seq ∉ t.waiting) : t.resolve seq size recvAt ts = (none, t) := by
  have hnone : t.pending.find? (·.seq == seq) = none := by
    rw [List.find?_eq_none]
    intro p hp heq
    exact h (List.mem_map.2 ⟨p, hp, by simpa using heq⟩)
  simp [resolve, hnone]

/-- A reply to a waiting sample resolves one sample of that number: it stops waiting, and its
round trip joins the window. -/
theorem resolve_of_mem {t : Tracker} {seq : Nat} (size recvAt : Nat) (ts : Float)
    (h : seq ∈ t.waiting) : ∃ p ∈ t.pending, p.seq = seq ∧
      t.resolve seq size recvAt ts =
        (some (secondsOfNanos (recvAt - p.sentAt),
          row p ts (Binary64.ofInt size) (secondsOfNanos (recvAt - p.sentAt))),
         { pending := t.pending.filter (·.seq != seq),
           rtts := t.rtts.push (secondsOfNanos (recvAt - p.sentAt)) }) := by
  obtain ⟨q, hq, hqseq⟩ := List.mem_map.1 h
  cases hfind : t.pending.find? (·.seq == seq) with
  | none =>
    rw [List.find?_eq_none] at hfind
    exact absurd (by simpa using hqseq) (hfind q hq)
  | some p =>
    refine ⟨p, List.mem_of_find?_eq_some hfind, by simpa using List.find?_some hfind, ?_⟩
    simp [resolve, hfind]

end Tracker

/-! ## §3. What one event can do -/

namespace Client

variable {c : Client} {d : Diagnostics}

/-- A datagram at a listening endpoint meets one of five fates: nothing for no bytes,
malformed, a message of the wrong kind, an actuation for no waiting sample, or an actuation
that answers a waiting sample. -/
theorem receive_cases (c : Client) (d : Diagnostics) (bytes : List UInt8) (recvAt : Nat)
    (now : Float) (hl : c.listening = true) :
    (bytes = [] ∧ c.receive d bytes recvAt now = (.none, c, d)) ∨
    (Message.decode bytes = .error .malformed ∧
      c.receive d bytes recvAt now = (.malformed, c, d.record .malformed)) ∨
    (∃ m, Message.decode bytes = .ok m ∧ m.kind ≠ .actuation ∧
      c.receive d bytes recvAt now = (.ignoredKind, c, d.record .ignoredKind)) ∨
    (∃ m, Message.decode bytes = .ok m ∧ m.kind = .actuation ∧ m.seq ∉ c.waiting ∧
      c.receive d bytes recvAt now = (.unprompted, c, d.record .unpromptedReply)) ∨
    (∃ m, ∃ p ∈ c.tracker.pending, Message.decode bytes = .ok m ∧ m.kind = .actuation ∧
      p.seq = m.seq ∧
      c.receive d bytes recvAt now =
        (.matched, c.answer p m.payload bytes.length recvAt now, d)) := by
  unfold receive
  simp only [hl, Bool.not_true, Bool.false_eq_true, if_false]
  rcases hdec : Message.decode bytes with err | m
  · cases err with
    | noMessage => exact .inl ⟨(Message.decode_eq_noMessage_iff bytes).1 hdec, rfl⟩
    | malformed => exact .inr (.inl ⟨rfl, rfl⟩)
  · by_cases hk : m.kind = .actuation
    · by_cases hw : m.seq ∈ c.waiting
      · obtain ⟨p, hp, hseq, hres⟩ := Tracker.resolve_of_mem bytes.length recvAt now hw
        refine .inr (.inr (.inr (.inr ⟨m, p, hp, rfl, hk, hseq, ?_⟩)))
        simp [hk, hres, answer, hseq, hl]
      · refine .inr (.inr (.inr (.inl ⟨m, rfl, hk, hw, ?_⟩)))
        simp [hk, Tracker.resolve_of_not_mem bytes.length recvAt now hw]
    · exact .inr (.inr (.inl ⟨m, rfl, hk, by simp [hk]⟩))

/-- A send before binding is refused; after binding the sample waits whether or not the
network took it, a refused send is counted as dropped, and what leaves the host is the
encoded sample, which the network took. -/
theorem put_cases (c : Client) (d : Diagnostics) (net : Network) (values : PropMap)
    (now : Float) (sentAt : Nat) :
    (c.bound = false ∧ c.put net d values now sentAt = .error .notReady) ∨
    (c.bound = true ∧ ∃ out d', (d' = d ∨ d' = d.record .droppedSend) ∧
      (∀ b ∈ out, b = (c.factory.create values now).1.encode ∧ net.send b.length = .ok ()) ∧
      c.put net d values now sentAt = .ok (out, c.sent values now sentAt, d')) := by
  cases hb : c.bound
  · exact .inl ⟨rfl, put_unbound c net d values now sentAt hb⟩
  · refine .inr ⟨rfl, ?_⟩
    unfold put sent
    rw [if_neg (by simp [hb])]
    generalize c.factory.create values now = made
    obtain ⟨msg, factory⟩ := made
    dsimp only
    split
    · rename_i hsend
      refine ⟨_, d, .inl rfl, fun b hb => ?_, rfl⟩
      rw [Option.mem_some_iff] at hb
      exact ⟨hb.symm, hb ▸ hsend⟩
    · exact ⟨_, _, .inr rfl, fun b hb => absurd hb (Option.not_mem_none b), rfl⟩

/-- An arrival leaves the binding, the listening and the numbering as they were. -/
theorem receive_keeps (bytes : List UInt8) (recvAt : Nat) (now : Float) :
    (c.receive d bytes recvAt now).2.1.bound = c.bound ∧
    (c.receive d bytes recvAt now).2.1.listening = c.listening ∧
    (c.receive d bytes recvAt now).2.1.factory = c.factory := by
  by_cases hl : c.listening = true
  · rcases receive_cases c d bytes recvAt now hl with
      ⟨-, h⟩ | ⟨-, h⟩ | ⟨m, -, -, h⟩ | ⟨m, -, -, -, h⟩ | ⟨m, p, -, -, -, -, h⟩ <;>
      simp [h, answer]
  · simp [receive, hl]

/-- An arrival counts its fate, and nothing else. -/
theorem receive_counted (bytes : List UInt8) (recvAt : Nat) (now : Float) :
    (c.receive d bytes recvAt now).2.2 = (c.receive d bytes recvAt now).1.record d := by
  by_cases hl : c.listening = true
  · rcases receive_cases c d bytes recvAt now hl with
      ⟨-, h⟩ | ⟨-, h⟩ | ⟨m, -, -, h⟩ | ⟨m, -, -, -, h⟩ | ⟨m, p, -, -, -, -, h⟩ <;>
      simp [h, Reception.record, Reception.counter?]
  · simp [receive, hl, Reception.record, Reception.counter?]

/-- A matched reply adds one row; no other fate adds any. -/
theorem receive_rows (bytes : List UInt8) (recvAt : Nat) (now : Float) :
    (c.receive d bytes recvAt now).2.1.rows.size =
      c.rows.size + if (c.receive d bytes recvAt now).1 = .matched then 1 else 0 := by
  by_cases hl : c.listening = true
  · rcases receive_cases c d bytes recvAt now hl with
      ⟨-, h⟩ | ⟨-, h⟩ | ⟨m, -, -, h⟩ | ⟨m, -, -, -, h⟩ | ⟨m, p, -, -, -, -, h⟩ <;>
      simp [h, answer]
  · simp [receive, hl]

/-- At a listening endpoint nothing becomes exactly of the empty datagrams. -/
theorem receive_none_iff (bytes : List UInt8) (recvAt : Nat) (now : Float)
    (hl : c.listening = true) : (c.receive d bytes recvAt now).1 = .none ↔ bytes = [] := by
  rcases receive_cases c d bytes recvAt now hl with
    ⟨hnil, h⟩ | ⟨hdec, h⟩ | ⟨m, hdec, -, h⟩ | ⟨m, hdec, -, -, h⟩ | ⟨m, p, -, hdec, -, -, h⟩
  · rw [h]
    exact ⟨fun _ => hnil, fun _ => rfl⟩
  -- every other fate needs bytes to decode
  all_goals
    rw [h]
    simp only [reduceCtorEq, false_iff]
    rintro rfl
    simp [Message.decode] at hdec

/-- At a listening endpoint a datagram is matched exactly when it is an actuation for a
waiting sample. -/
theorem receive_matched_iff (bytes : List UInt8) (recvAt : Nat) (now : Float)
    (hl : c.listening = true) :
    (c.receive d bytes recvAt now).1 = .matched ↔
      ∃ m, Message.decode bytes = .ok m ∧ m.kind = .actuation ∧ m.seq ∈ c.waiting := by
  rcases receive_cases c d bytes recvAt now hl with
    ⟨hnil, h⟩ | ⟨hdec, h⟩ | ⟨m, hdec, hk, h⟩ | ⟨m, hdec, hk, hw, h⟩ | ⟨m, p, hp, hdec, hk, hseq, h⟩
  · subst hnil
    simp [h, Message.decode]
  · simp [h, hdec]
  · simp [h, hdec, hk]
  · simp [h, hdec, hw]
  · simp only [h, true_iff]
    exact ⟨m, hdec, hk, hseq ▸ List.mem_map_of_mem hp⟩

/-- The payload of an actuation for a waiting sample goes into the mailbox. -/
theorem receive_inbox_of_waiting {bytes : List UInt8} (recvAt : Nat) (now : Float)
    {m : Message} (hl : c.listening = true) (hdec : Message.decode bytes = .ok m)
    (hk : m.kind = .actuation) (hw : m.seq ∈ c.waiting) :
    (c.receive d bytes recvAt now).2.1.inbox = (c.inbox.put m.payload).2 := by
  rcases receive_cases c d bytes recvAt now hl with
    ⟨hnil, h⟩ | ⟨hdec', h⟩ | ⟨m', hdec', hk', h⟩ | ⟨m', hdec', hk', hw', h⟩ |
      ⟨m', p, hp, hdec', hk', hseq, h⟩
  · subst hnil
    simp [Message.decode] at hdec
  · simp [hdec] at hdec'
  · rw [hdec] at hdec'
    cases hdec'
    exact absurd hk hk'
  · rw [hdec] at hdec'
    cases hdec'
    exact absurd hw hw'
  · rw [hdec] at hdec'
    cases hdec'
    simp [h, answer]

/-- A datagram that is not matched leaves the mailbox alone. -/
theorem receive_inbox_of_not_matched (bytes : List UInt8) (recvAt : Nat) (now : Float)
    (h : (c.receive d bytes recvAt now).1 ≠ .matched) :
    (c.receive d bytes recvAt now).2.1.inbox = c.inbox := by
  by_cases hl : c.listening = true
  · rcases receive_cases c d bytes recvAt now hl with
      ⟨-, h'⟩ | ⟨-, h'⟩ | ⟨m, -, -, h'⟩ | ⟨m, -, -, -, h'⟩ | ⟨m, p, -, -, -, -, h'⟩ <;>
      simp_all
  · simp [receive, hl]

theorem step_log (e : ClientEvent) : (c.step d e).1.map (·.1) = e.arrival? := by
  cases e <;> simp only [step, ClientEvent.arrival?]
  · split <;> rfl
  · rfl
  · rfl

/-- One event counts at most its datagram's fate, and a send the network refused as
dropped. -/
theorem step_counted (e : ClientEvent) {ev : Event} (hev : ev ≠ .droppedSend) :
    (c.step d e).2.2.counts.get ev =
      d.counts.get ev +
        UInt64.ofNat ((c.step d e).1.toList.countP fun x => x.2.counter? == some ev) := by
  cases e with
  | put net values now sentAt =>
    rcases put_cases c d net values now sentAt with ⟨-, h⟩ | ⟨-, out, d', hd', -, h⟩
    · simp [step, h]
    · rcases hd' with rfl | rfl <;>
        simp [step, h, hev]
  | arrive bytes recvAt now =>
    simp only [step, Option.toList_some, List.countP_singleton]
    rw [receive_counted, Reception.counts_record]
    split <;> simp_all
  | take => simp [step]

theorem step_rows (e : ClientEvent) :
    (c.step d e).2.1.rows.size = c.rows.size + (c.step d e).1.toList.countP (·.2 == .matched) := by
  cases e with
  | put net values now sentAt =>
    rcases put_cases c d net values now sentAt with ⟨-, h⟩ | ⟨-, out, d', -, -, h⟩
    · simp [step, h]
    · simp [step, h, sent]
  | arrive bytes recvAt now =>
    simp only [step, Option.toList_some, List.countP_singleton]
    rw [receive_rows]
    simp
  | take => simp [step, actuation]

theorem step_listening (e : ClientEvent) : (c.step d e).2.1.listening = c.listening := by
  cases e with
  | put net values now sentAt =>
    rcases put_cases c d net values now sentAt with ⟨-, h⟩ | ⟨-, out, d', -, -, h⟩ <;>
      simp [step, h, sent]
  | arrive bytes recvAt now => exact (receive_keeps bytes recvAt now).2.1
  | take => rfl

theorem step_fates (e : ClientEvent) (hl : c.listening = true) :
    ∀ x ∈ (c.step d e).1, x.2 = .none ↔ x.1 = [] := by
  cases e with
  | put net values now sentAt =>
    intro x hx
    simp only [step] at hx
    split at hx <;> cases hx
  | arrive bytes recvAt now =>
    intro x hx
    simp only [step, Option.mem_def, Option.some.injEq] at hx
    subst hx
    exact receive_none_iff bytes recvAt now hl
  | take =>
    intro x hx
    cases hx

/-! ## §4. Counting along a run -/

theorem run_log (evs : List ClientEvent) :
    (c.run d evs).1.map (·.1) = evs.filterMap ClientEvent.arrival? := by
  induction evs generalizing c d with
  | nil => rfl
  | cons e es ih =>
    have hstep := step_log (c := c) (d := d) e
    simp only [run, List.map_append, ih, List.filterMap_cons]
    cases hs : (c.step d e).1 with
    | none =>
      rw [hs] at hstep
      simp [← hstep]
    | some x =>
      rw [hs] at hstep
      simp [← hstep]

theorem run_counted (evs : List ClientEvent) {ev : Event} (hev : ev ≠ .droppedSend) :
    (c.run d evs).2.2.counts.get ev =
      d.counts.get ev + UInt64.ofNat ((c.run d evs).1.countP fun x => x.2.counter? == some ev) := by
  induction evs generalizing c d with
  | nil => simp [run]
  | cons e es ih =>
    simp only [run, List.countP_append, UInt64.ofNat_add, ← UInt64.add_assoc]
    rw [ih, step_counted e hev]

theorem run_rows (evs : List ClientEvent) :
    (c.run d evs).2.1.rows.size = c.rows.size + (c.run d evs).1.countP (·.2 == .matched) := by
  induction evs generalizing c d with
  | nil => simp [run]
  | cons e es ih =>
    simp only [run, List.countP_append]
    rw [ih, step_rows e]
    omega

theorem run_listening (evs : List ClientEvent) : (c.run d evs).2.1.listening = c.listening := by
  induction evs generalizing c d with
  | nil => rfl
  | cons e es ih =>
    simp only [run]
    rw [ih, step_listening e]

theorem run_fates (evs : List ClientEvent) (hl : c.listening = true) :
    ∀ x ∈ (c.run d evs).1, x.2 = .none ↔ x.1 = [] := by
  induction evs generalizing c d with
  | nil => simp [run]
  | cons e es ih =>
    intro x hx
    simp only [run, List.mem_append] at hx
    rcases hx with hx | hx
    · exact step_fates e hl x (Option.mem_toList.1 hx)
    · exact ih ((step_listening e).trans hl) x hx

/-! ## §5. Closing -/

theorem close_rows (c : Client) (d : Diagnostics) :
    (c.close d).2.1.rows.toList = c.rows.toList ++
      (c.tracker.pending.mergeSort fun a b => a.seq ≤ b.seq).map Pending.unansweredRow := by
  simp [close, Tracker.flush, Pending.unansweredRow]

theorem close_counts (c : Client) (d : Diagnostics) (ev : Event) :
    (c.close d).2.2.counts.get ev = d.counts.get ev +
      if ev = .unanswered then UInt64.ofNat c.tracker.pending.length else 0 := by
  simp [close, Tracker.flush, List.length_mergeSort]

end Client

/-- Sorting samples with distinct sequence numbers by number, as closing does, lists the
numbers in strictly increasing order. -/
theorem Pending.seqs_mergeSort_lt {ps : List Pending} (h : (ps.map (·.seq)).Nodup) :
    ((ps.mergeSort fun a b => a.seq ≤ b.seq).map (·.seq)).Pairwise (· < ·) := by
  have hle : (ps.mergeSort fun a b => a.seq ≤ b.seq).Pairwise fun a b => decide (a.seq ≤ b.seq) :=
    List.pairwise_mergeSort (fun a b c hab hbc => by simp at *; omega) (fun a b => by simp; omega)
      ps
  have hnodup : ((ps.mergeSort fun a b => a.seq ≤ b.seq).map (·.seq)).Nodup :=
    (((List.mergeSort_perm _ _).map _).nodup_iff).2 h
  have hle' : ((ps.mergeSort fun a b => a.seq ≤ b.seq).map (·.seq)).Pairwise (· ≤ ·) := by
    rw [List.pairwise_map]
    exact hle.imp fun h => by simpa using h
  -- sorted by number, and the numbers are distinct, so they strictly increase
  refine (hle'.and hnodup).imp ?_
  rintro a b ⟨hab, hne⟩
  omega

/-! ## §6. What a run keeps -/

/-- A sample whose reply came: its entry, the reply's stamp and size, and the round trip. -/
structure Answered where
  sample : Pending
  recvTimestamp : Float
  recvSize : Float
  rtt : Float

/-- The row of an answered sample. -/
def Answered.row (a : Answered) : Record :=
  Tracker.row a.sample a.recvTimestamp a.recvSize a.rtt

/-- The plant's end after `n` samples: bound and listening, numbering at `n`, and every sample
either answered, with its row and a finite round trip, or waiting, each exactly once. -/
structure ClientInv (c : Client) (n : Nat) : Prop where
  bound : c.bound = true
  listening : c.listening = true
  nextSeq : c.factory.nextSeq = n
  answered : ∃ as : List Answered, c.rows.toList = as.map Answered.row ∧
    c.tracker.rtts.total = UInt64.ofNat as.length ∧
    (as.map (·.sample.seq) ++ c.waiting).Perm (List.range n) ∧
    ∀ a ∈ as, a.rtt.isFinite = true

namespace ClientInv

variable {c : Client} {d : Diagnostics} {n : Nat}

theorem bind : ClientInv (Client.bind {}) 0 :=
  ⟨rfl, rfl, rfl, ⟨[], rfl, rfl, by simp [Client.waiting, Tracker.waiting, Client.bind], by simp⟩⟩

theorem waiting_nodup (h : ClientInv c n) : c.waiting.Nodup := by
  obtain ⟨as, -, -, hperm, -⟩ := h.answered
  exact (List.nodup_append.1 (hperm.nodup_iff.2 List.nodup_range)).2.1

theorem waiting_lt (h : ClientInv c n) {s : Nat} (hs : s ∈ c.waiting) : s < n := by
  obtain ⟨as, -, -, hperm, -⟩ := h.answered
  exact List.mem_range.1 (hperm.subset (List.mem_append_right _ hs))

/-- Sending the next sample keeps the invariant, one sample on: the new number is below no
waiting one, so it joins the waiting samples at the end. -/
theorem sent (h : ClientInv c n) (values : PropMap) (now : Float) (sentAt : Nat)
    (hn : n + 1 < 2 ^ 64) : ClientInv (c.sent values now sentAt) (n + 1) := by
  obtain ⟨as, hrows, hlen, hperm, hfin⟩ := h.answered
  have hwait : (c.sent values now sentAt).waiting = c.waiting ++ [n] := by
    rw [Client.sent_waiting, h.nextSeq, List.filter_eq_self.2 fun k hk => ?_]
    have := h.waiting_lt hk
    simp only [bne_iff_ne, ne_eq]
    omega
  refine ⟨h.bound, h.listening, ?_, as, hrows, hlen, ?_, hfin⟩
  · -- fewer than `2 ^ 64` samples: the numbering does not wrap
    simp only [Client.sent, Factory.create, h.nextSeq, seqModulus]
    omega
  · rw [hwait, List.range_succ, ← List.append_assoc]
    exact hperm.append_right [n]

/-- The reply to a waiting sample keeps the invariant: the sample moves from waiting to
answered, with a finite round trip since the instants are below `2 ^ 64` seconds. -/
theorem answer (h : ClientInv c n) {p : Pending} (hp : p ∈ c.tracker.pending)
    (payload : PropMap) (size recvAt : Nat) (now : Float)
    (hclock : recvAt < 2 ^ 64 * nanosPerSecond) :
    ClientInv (c.answer p payload size recvAt now) n := by
  obtain ⟨as, hrows, hlen, hperm, hfin⟩ := h.answered
  have hw := Client.answer_waiting c p payload size recvAt now
  refine ⟨h.bound, h.listening, h.nextSeq,
    as ++ [⟨p, now, Binary64.ofInt size, secondsOfNanos (recvAt - p.sentAt)⟩], ?_, ?_, ?_, ?_⟩
  · simp [Client.answer, hrows, Answered.row]
  · simp [Client.answer, hlen, RttWindow.push, UInt64.ofNat_add]
  · -- the waiting numbers are distinct, so dropping `p`'s is erasing it once
    rw [hw, ← h.waiting_nodup.erase_eq_filter]
    refine List.Perm.trans ?_ hperm
    simp only [List.map_append, List.map_cons, List.map_nil, List.append_assoc,
      List.singleton_append]
    exact List.Perm.append_left _ (List.perm_cons_erase (List.mem_map_of_mem hp)).symm
  · intro a ha
    rcases List.mem_append.1 ha with ha | ha
    · exact hfin a ha
    · rw [List.mem_singleton.1 ha]
      exact Binary64.secondsOfNanos_isFinite (by omega)

theorem receive (h : ClientInv c n) (bytes : List UInt8) (recvAt : Nat) (now : Float)
    (hclock : recvAt < 2 ^ 64 * nanosPerSecond) :
    ClientInv (c.receive d bytes recvAt now).2.1 n := by
  rcases Client.receive_cases c d bytes recvAt now h.listening with
    ⟨-, hr⟩ | ⟨-, hr⟩ | ⟨m, -, -, hr⟩ | ⟨m, -, -, -, hr⟩ | ⟨m, p, hp, -, -, -, hr⟩
  all_goals rw [hr]
  · exact h
  · exact h
  · exact h
  · exact h
  · exact h.answer hp _ _ _ _ hclock

theorem take (h : ClientInv c n) : ClientInv c.actuation.2 n :=
  ⟨h.bound, h.listening, h.nextSeq, h.answered⟩

theorem step (h : ClientInv c n) (e : ClientEvent)
    (hclock : e.instant < 2 ^ 64 * nanosPerSecond)
    (hn : n + (if e.isPut then 1 else 0) < 2 ^ 64) :
    ClientInv (c.step d e).2.1 (n + if e.isPut then 1 else 0) := by
  cases e with
  | put net values now sentAt =>
    rcases Client.put_cases c d net values now sentAt with ⟨hb, -⟩ | ⟨-, out, d', -, -, hput⟩
    · exact absurd h.bound (by simp [hb])
    · simp only [Client.step, hput]
      exact h.sent values now sentAt hn
  | arrive bytes recvAt now => exact h.receive bytes recvAt now hclock
  | take => exact h.take

/-- A run keeps the invariant, with its sends counted. -/
theorem run (h : ClientInv c n) (evs : List ClientEvent)
    (hclock : ∀ e ∈ evs, e.instant < 2 ^ 64 * nanosPerSecond)
    (hn : n + evs.countP ClientEvent.isPut < 2 ^ 64) :
    ClientInv (c.run d evs).2.1 (n + evs.countP ClientEvent.isPut) := by
  induction evs generalizing c d n with
  | nil => exact h
  | cons e es ih =>
    rw [List.countP_cons] at hn ⊢
    have hstep := h.step (d := d) e (hclock e List.mem_cons_self) (by omega)
    rw [show n + (es.countP ClientEvent.isPut + if e.isPut then 1 else 0) =
      (n + if e.isPut then 1 else 0) + es.countP ClientEvent.isPut by omega]
    exact ih hstep (fun e' he' => hclock e' (List.mem_cons_of_mem e he')) (by omega)

end ClientInv

/-! ## §7. Sessions -/

/-- What a session of the plant's end accounts for, given the events and what the session
gave: each datagram's fate and the closed endpoint with its counters. -/
structure SessionAccounting (evs : List ClientEvent)
    (s : List (List UInt8 × Reception) × Client × Diagnostics) : Prop where
  /-- One fate per datagram that arrived, in order of arrival. -/
  arrivals : s.1.map (·.1) = evs.filterMap ClientEvent.arrival?
  /-- Nothing became only of the empty datagrams. -/
  none_iff_empty : ∀ x ∈ s.1, x.2 = .none ↔ x.1 = []
  /-- Each counter of a fate counts the datagrams that met it. -/
  counted : ∀ r e, r.counter? = some e →
    s.2.2.counts.get e = UInt64.ofNat (s.1.countP (·.2 == r))
  /-- The replies are the matched datagrams. -/
  replies : s.2.1.replies.toNat = s.1.countP (·.2 == .matched)
  /-- No sample waits after closing. -/
  drained : s.2.1.pendingCount = 0
  /-- The samples sent are the sends. -/
  sent : s.2.1.samplesSent.toNat = evs.countP ClientEvent.isPut
  /-- Every sample was answered or counted as unanswered. -/
  balance : s.2.1.replies.toNat + s.2.2.counts.unanswered.toNat = s.2.1.samplesSent.toNat
  /-- One row per sample: the answered ones with a finite round trip, in order of their
  replies, then the unanswered ones in increasing order of sequence number. -/
  rows : ∃ (answered : List Answered) (flushed : List Pending),
    s.2.1.rows.toList = answered.map Answered.row ++ flushed.map Pending.unansweredRow ∧
    answered.length = s.2.1.replies.toNat ∧
    (answered.map (·.sample.seq) ++ flushed.map (·.seq)).Perm
      (List.range (evs.countP ClientEvent.isPut)) ∧
    (flushed.map (·.seq)).Pairwise (· < ·) ∧
    ∀ a ∈ answered, a.rtt.isFinite = true

/-- How a listening endpoint matches replies: a datagram is matched exactly when it is an
actuation for a waiting sample; then its payload goes into the mailbox, and otherwise the
mailbox is left alone. -/
def RepliesMatchWaiting : Prop :=
  ∀ (c : Client) (d : Diagnostics) (bytes : List UInt8) (recvAt : Nat) (now : Float),
    c.listening = true →
      ((c.receive d bytes recvAt now).1 = .matched ↔
        ∃ m, Message.decode bytes = .ok m ∧ m.kind = .actuation ∧ m.seq ∈ c.waiting) ∧
      (∀ m, Message.decode bytes = .ok m → m.kind = .actuation → m.seq ∈ c.waiting →
        (c.receive d bytes recvAt now).2.1.inbox = (c.inbox.put m.payload).2) ∧
      ((c.receive d bytes recvAt now).1 ≠ .matched →
        (c.receive d bytes recvAt now).2.1.inbox = c.inbox)

theorem repliesMatchWaiting : RepliesMatchWaiting :=
  fun _ _ bytes recvAt now hl =>
    ⟨Client.receive_matched_iff bytes recvAt now hl,
     fun _ hdec hk hw => Client.receive_inbox_of_waiting recvAt now hl hdec hk hw,
     Client.receive_inbox_of_not_matched bytes recvAt now⟩

/-- A session of fewer than `2 ^ 64` samples, at instants below `2 ^ 64` seconds, accounts
for every datagram and every sample. -/
theorem session_accounting (evs : List ClientEvent)
    (hsamples : evs.countP ClientEvent.isPut < 2 ^ 64)
    (hclock : ∀ e ∈ evs, e.instant < 2 ^ 64 * nanosPerSecond) :
    SessionAccounting evs (Client.session evs) := by
  -- what the run from a fresh endpoint keeps, and what it counts
  have hinv := ClientInv.bind.run (d := {}) evs hclock (by omega)
  rw [Nat.zero_add] at hinv
  have hlog := Client.run_log (c := Client.bind {}) (d := {}) evs
  have hfates := Client.run_fates (c := Client.bind {}) (d := {}) evs rfl
  have hcounted := fun ev (hev : ev ≠ Event.droppedSend) =>
    Client.run_counted (c := Client.bind {}) (d := {}) evs hev
  have hsize := Client.run_rows (c := Client.bind {}) (d := {}) evs
  unfold Client.session
  generalize (Client.bind {}).run {} evs = r at hinv hlog hfates hcounted hsize
  obtain ⟨log, c, d⟩ := r
  dsimp only at hinv hlog hfates hcounted hsize ⊢
  obtain ⟨as, hrows, hlen, hperm, hfin⟩ := hinv.answered
  have hfresh : ∀ ev, ({} : Counts).get ev = 0 := fun ev => by cases ev <;> rfl
  -- no fate counts as unanswered, so only closing does
  have hunanswered :
      (c.close d).2.2.counts.unanswered = UInt64.ofNat c.tracker.pending.length := by
    have hclose := Client.close_counts c d .unanswered
    have hrun := hcounted .unanswered (by decide)
    have hnone : (log.countP fun x => x.2.counter? == some Event.unanswered) = 0 :=
      List.countP_eq_zero.2 fun x _ => by cases x.2 <;> simp [Reception.counter?]
    simp only [Counts.get, if_pos] at hclose hrun
    rw [hclose, hrun, hnone]
    simp
  have hsum : as.length + c.tracker.pending.length = evs.countP ClientEvent.isPut := by
    have := hperm.length_eq
    simpa [Client.waiting, Tracker.waiting] using this
  -- fewer than `2 ^ 64` samples: none of the 64-bit counters wraps
  have hreplies : c.replies.toNat = as.length := by
    rw [Client.replies, Tracker.replies, hlen,
      UInt64.toNat_ofNat_of_lt' (show as.length < 2 ^ 64 by omega)]
  have hsent : c.samplesSent.toNat = evs.countP ClientEvent.isPut := by
    rw [Client.samplesSent, Factory.count, hinv.nextSeq, UInt64.toNat_ofNat_of_lt' hsamples]
  refine ⟨hlog, hfates, ?_, ?_, Client.close_pendingCount c d, hsent, ?_, ?_⟩
  · -- each fate's counter: closing adds only to the unanswered one
    intro r e he
    have hne : e ≠ Event.unanswered ∧ e ≠ Event.droppedSend := by
      cases r <;> simp only [Reception.counter?, Option.some.injEq, reduceCtorEq] at he <;>
        subst he <;> decide
    rw [Client.close_counts, if_neg hne.1, hcounted e hne.2, hfresh, UInt64.zero_add,
      UInt64.add_zero]
    congr 1
    exact List.countP_congr fun x _ => by simp [Reception.counter?_eq_iff he]
  · -- each matched reply added one row, and the rows are the answered samples
    show c.replies.toNat = _
    have hrows_size : c.rows.size = as.length := by
      rw [← Array.length_toList, hrows, List.length_map]
    rw [hreplies, ← hrows_size, hsize]
    exact Nat.zero_add _
  · -- the answered and the waiting samples are all the samples
    show c.replies.toNat + _ = c.samplesSent.toNat
    rw [hunanswered, hreplies, hsent,
      UInt64.toNat_ofNat_of_lt' (show c.tracker.pending.length < 2 ^ 64 by omega)]
    exact hsum
  · refine ⟨as, c.tracker.pending.mergeSort (fun a b => a.seq ≤ b.seq), ?_, hreplies.symm, ?_, ?_,
      hfin⟩
    · rw [Client.close_rows, hrows]
    · refine List.Perm.trans ?_ hperm
      exact ((List.mergeSort_perm _ _).map _).append_left _
    · exact Pending.seqs_mergeSort_lt hinv.waiting_nodup

/-- Reply accounting at the plant's end: a session of fewer than `2 ^ 64` samples, at
instants of a clock whose seconds fit 64 bits, accounts for every datagram once and for every
sample once, and every listening endpoint matches exactly the actuations for waiting
samples. -/
theorem reply_accounting (evs : List ClientEvent)
    (hsamples : evs.countP ClientEvent.isPut < 2 ^ 64)
    (hclock : ∀ e ∈ evs, e.instant < 2 ^ 64 * nanosPerSecond) :
    SessionAccounting evs (Client.session evs) ∧ RepliesMatchWaiting :=
  ⟨session_accounting evs hsamples hclock, repliesMatchWaiting⟩

/-- A sample, its reply arriving twice, and an empty datagram. -/
theorem reply_accounting_duplicated_reply :
    let reply : Message := { kind := .actuation, seq := 0, timestamp := ⟨0⟩, payload := {} }
    let evs := [ClientEvent.put .reachable {} 0 0, .arrive reply.encode 1000 0,
      .arrive reply.encode 2000 0, .arrive [] 3000 0, .take]
    (evs.countP ClientEvent.isPut < 2 ^ 64 ∧ ∀ e ∈ evs, e.instant < 2 ^ 64 * nanosPerSecond) ∧
      SessionAccounting evs (Client.session evs) ∧ RepliesMatchWaiting :=
  ⟨⟨by decide, by decide⟩, reply_accounting _ (by decide) (by decide)⟩

end ControlLoop
