import ControlLoop.Control.Controller
import ControlLoop.Config.Service
import ControlLoop.Diagnostics
import ControlLoop.Link.Network
import ControlLoop.Mailbox
import ControlLoop.Message.Wire
import ControlLoop.Record

namespace ControlLoop

/-! # The controller service

A service takes samples from datagrams and answers each with its controller's reply. A
datagram holding a sample goes to a one-slot work slot, where a newer sample replaces a
waiting one (counted as overwritten); anything else is dropped and counted as malformed or
of the wrong kind. A worker step takes the waiting sample and asks the controller: a failure
is counted, an answer becomes a reply in the queue of computed replies. Dispatching the
oldest computed reply sends it, or, when replies are delayed, parks it until its timer fires.
A send refused by the network is counted as dropped. Stopping gives up on the sample left in
the slot, the parked replies and the computed ones, in that order, and counts each as
unanswered. So every accepted sample meets exactly one of these fates.
-/

/-- An accepted sample waiting for the worker. -/
structure WorkItem where
  sample : Message
  sender : SocketAddr
  recvTimestamp : Float
  recvSize : Nat

/-- A computed reply and what is known of its sample. -/
structure Reply where
  target : SocketAddr
  message : Message
  recvTimestamp : Float
  recvSize : Nat
  processTime : Float

/-- What became of a datagram that reached the service. -/
inductive Intake where
  | none
  | malformed
  | ignoredKind
  | accepted
  deriving DecidableEq, Repr

/-- What one worker step did. -/
inductive Work where
  | idle
  | failed
  | computed
  deriving DecidableEq, Repr

/-- What came of one datagram carried through the service. -/
inductive Served where
  | none
  | malformed
  | ignoredKind
  | controllerFailure
  /-- The bytes of the reply that was sent. -/
  | reply (bytes : List UInt8)

/-- The counts a stopped service reports, as 64-bit counters. -/
structure ServiceReport where
  samplesReceived : UInt64
  repliesSent : UInt64
  unanswered : UInt64
  diagnostics : Counts

/-- A running service over a controller of type `κ`: its controller, the work slot, computed
and parked replies, the 64-bit counts of samples received and replies sent, and the rows of
its log. -/
structure Service (κ : Type) where
  config : ServiceConfig
  controller : κ
  diagnostics : Diagnostics := {}
  slot : Mailbox WorkItem := {}
  computed : List Reply := []
  parked : List Reply := []
  received : UInt64 := 0
  sent : UInt64 := 0
  rows : Array Record := #[]

namespace Service

variable {κ : Type}

/-- Starts a service; an invalid configuration means it cannot bind. -/
def start (config : ServiceConfig) (controller : κ) : Except Fault (Service κ) :=
  match config.validate with
  | .error e => .error (.worker ("bind failed: " ++ e.message))
  | .ok () => .ok { config, controller }

/-- Takes a datagram from a sender, stamped `now`. -/
def intake (s : Service κ) (bytes : List UInt8) (sender : SocketAddr) (now : Float) :
    Intake × Service κ :=
  match Message.decode bytes with
  | .error .noMessage => (.none, s)
  | .error .malformed => (.malformed, { s with diagnostics := s.diagnostics.record .malformed })
  | .ok m =>
    if m.kind != .sample then
      (.ignoredKind, { s with diagnostics := s.diagnostics.record .ignoredKind })
    else
      let (stale, slot) := s.slot.put ⟨m, sender, now, bytes.length⟩
      let d := if stale.isSome then s.diagnostics.record .overwrittenSample else s.diagnostics
      (.accepted, { s with slot, diagnostics := d, received := s.received + 1 })

/-- One worker step at `now`, the controller taking `took` seconds: the waiting sample, if
any, is answered or counted as a failure. -/
def work [ControllerImpl κ] (s : Service κ) (now took : Float) : Work × Service κ :=
  match s.slot.take with
  | (none, _) => (.idle, s)
  | (some item, slot) =>
    match ControllerImpl.process s.controller item.sample.payload with
    | (.error _, controller) =>
      (.failed, { s with slot, controller,
                         diagnostics := s.diagnostics.record .controllerFailure })
    | (.ok out, controller) =>
      let reply : Reply := ⟨item.sender, item.sample.replyTo out now,
        item.recvTimestamp, item.recvSize, took⟩
      (.computed, { s with slot, controller, computed := s.computed ++ [reply] })

/-- Sends a reply at `now`: its target and bytes, if the network took them. -/
def send (s : Service κ) (net : Network) (r : Reply) (now : Float) :
    Option (SocketAddr × List UInt8) × Service κ :=
  let bytes := r.message.encode
  match net.send bytes.length with
  | .error _ => (none, { s with diagnostics := s.diagnostics.record .droppedSend })
  | .ok () =>
    let row : Record := ⟨[("seq", Binary64.ofInt r.message.seq), ("recv_timestamp", r.recvTimestamp),
      ("recv_size", Binary64.ofInt r.recvSize), ("process_time", r.processTime),
      ("send_timestamp", now), ("send_size", Binary64.ofInt bytes.length)]⟩
    (some (r.target, bytes), { s with sent := s.sent + 1, rows := s.rows.push row })

/-- Dispatches the oldest computed reply: sent at once, or parked when replies are delayed. -/
def dispatch (s : Service κ) (net : Network) (now : Float) :
    Option (SocketAddr × List UInt8) × Service κ :=
  match s.computed with
  | [] => (none, s)
  | r :: rest =>
    let s := { s with computed := rest }
    match s.config.replyDelay with
    | none => s.send net r now
    | some _ => (none, { s with parked := s.parked ++ [r] })

/-- The timer of the parked reply at an index fires, and the reply is sent. -/
def fire (s : Service κ) (net : Network) (i : Nat) (now : Float) :
    Option (SocketAddr × List UInt8) × Service κ :=
  match s.parked[i]? with
  | none => (none, s)
  | some r => { s with parked := s.parked.eraseIdx i }.send net r now

/-- Carries one datagram through at `now`: it is taken in, the worker answers it, and the
reply is sent at once or, when replies are delayed, as soon as its timer fires. -/
def serve [ControllerImpl κ] (s : Service κ) (net : Network) (bytes : List UInt8) (sender : SocketAddr) (now : Float) :
    Served × Service κ :=
  match s.intake bytes sender now with
  | (.none, s) => (.none, s)
  | (.malformed, s) => (.malformed, s)
  | (.ignoredKind, s) => (.ignoredKind, s)
  | (.accepted, s) =>
    match s.work now 0.0 with
    | (.failed, s) => (.controllerFailure, s)
    | (_, s) =>
      let (out, s) := s.dispatch net now
      let (out, s) := if out.isNone && !s.parked.isEmpty then s.fire net 0 now else (out, s)
      match out with
      | some (_, bs) => (.reply bs, s)
      | none => (.none, s)

/-- The row of a sample that was never answered. -/
def unansweredRow (seq : Nat) (recvTimestamp : Float) (recvSize : Nat) (processTime : Float) :
    Record :=
  ⟨[("seq", Binary64.ofInt seq), ("recv_timestamp", recvTimestamp),
    ("recv_size", Binary64.ofInt recvSize), ("process_time", processTime),
    ("send_timestamp", Binary64.nan), ("send_size", Binary64.nan)]⟩

/-- Stops the service: the sample in the slot, the parked replies and the computed ones are
given up, and the report is made. -/
def stop (s : Service κ) : ServiceReport × Service κ :=
  let (left, slot) := s.slot.take
  let abandoned := left.toList.map fun i =>
    unansweredRow i.sample.seq i.recvTimestamp i.recvSize Binary64.nan
  let unsent := (s.parked ++ s.computed).map fun r =>
    unansweredRow r.message.seq r.recvTimestamp r.recvSize r.processTime
  let n := abandoned.length + unsent.length
  let d := s.diagnostics.add .unanswered (UInt64.ofNat n)
  ({ samplesReceived := s.received, repliesSent := s.sent, unanswered := UInt64.ofNat n,
     diagnostics := d.counts },
   { s with slot, parked := [], computed := [], diagnostics := d,
            rows := s.rows ++ (abandoned ++ unsent).toArray })

/-- A stopped service holds no parked and no computed replies. -/
@[simp] theorem stop_parked (s : Service κ) : s.stop.2.parked = [] := rfl

/-- A stopped service holds no computed replies. -/
@[simp] theorem stop_computed (s : Service κ) : s.stop.2.computed = [] := rfl

end Service

/-- A controller made available to a plant: served here, or at a remote address. -/
inductive Handle (κ : Type) where
  | served (cls : String) (service : Service κ)
  | remote (cls : String) (addr : SocketAddr)

namespace Handle

variable {κ : Type}

/-- The class of the controller. -/
def cls : Handle κ → String
  | .served c _ => c
  | .remote c _ => c

/-- Whether the controller is served here. -/
def isLocal : Handle κ → Bool
  | .served .. => true
  | .remote .. => false

/-- Stops a controller served here, with its report; a remote one is left alone. -/
def shutdown : Handle κ → Option ServiceReport
  | .served _ s => some s.stop.1
  | .remote .. => none

end Handle

/-- Where controllers come from: built from a registry and served here, or asked of a remote
address that serves whatever class is named. -/
inductive Dispatcher (κ : Type) where
  | local (registry : Registry κ) (config : ServiceConfig)
  | remote (addr : SocketAddr)

namespace Dispatcher

variable {κ : Type}

/-- The classes that can be asked for by name; a remote address lists none. -/
def classes : Dispatcher κ → List String
  | .local r _ => r.names
  | .remote _ => []

/-- Makes a controller of a class available: the controller is built first, then the service
starts. -/
def spawn (d : Dispatcher κ) (cls : String) (params : PropMap) : Except Fault (Handle κ) :=
  match d with
  | .local r config => do
    let c ← r.build cls params
    let s ← Service.start config c
    pure (.served cls s)
  | .remote addr => .ok (.remote cls addr)

end Dispatcher

end ControlLoop
