import Mathlib
import ControlLoop.Diagnostics
import ControlLoop.Power
import ControlLoop.Proofs.CsvRoundTrip

/-! # Diagnostics under any interleaving

Threads share one set of diagnostics through clones and count on it without a lock. A counter
takes one atomic add; a command for a property with no actuator is counted in three atomic
steps, between which other threads may step: the total, then the property's count if it has
one (`Diagnostics.bumpExisting`), else the property's entry, made if still missing
(`Diagnostics.bumpEntry`). Run back to back the three make the sequential count
(`Diagnostics.recordUnregistered_eq_halves`).

## The model

Each thread runs a program of calls (`Diagnostics.Call`), and is between calls or partway
through a count for a property (`Diagnostics.Stage`). A schedule names, step after step, the
thread that takes its next atomic step (`Diagnostics.Shared.step`), so every interleaving of
the threads' steps is the run of some schedule (`Diagnostics.Shared.run`).

## The proof

`Diagnostics.Books programs s` says that each thread's calls are its program, that every
counter holds the amounts of the calls begun so far, that each property's count is the number
of its counts completed so far, all modulo `2^64`, and that the map lists exactly the
properties with a completed count. One step of a thread begins at most one call and completes
at most one (`Thread.step_moves`), so a step of any thread keeps the books (`Books.step`), and
so does every run (`Books.run`). The summary table of any diagnostics reads back as its
header, the ten counters in their fixed order and one row per listed property in byte order
(`Diagnostics.summary_records`); after any interleaving, then, it shows the amounts begun and
the counts completed (`Diagnostics.interleaving_loses_no_update`).
-/

namespace ControlLoop

namespace Diagnostics

/-! ## §1. The atomic steps -/

@[simp] theorem byProp_add (d : Diagnostics) (e : Event) (n : UInt64) :
    (d.add e n).byProp = d.byProp := rfl

@[simp] theorem byProp_record (d : Diagnostics) (e : Event) : (d.record e).byProp = d.byProp :=
  rfl

@[simp] theorem unregisteredFor_add (d : Diagnostics) (e : Event) (n : UInt64) (p : String) :
    (d.add e n).unregisteredFor p = d.unregisteredFor p := rfl

@[simp] theorem unregisteredFor_record (d : Diagnostics) (e : Event) (p : String) :
    (d.record e).unregisteredFor p = d.unregisteredFor p := rfl

/-- The three steps of a count for a property, run back to back, make the count. -/
theorem recordUnregistered_eq_halves (d : Diagnostics) (p : String) :
    d.recordUnregistered p =
      ((d.record .unregisteredCommand).bumpExisting p).getD
        ((d.record .unregisteredCommand).bumpEntry p) := by
  cases h : d.byProp.get? p with
  | none => simp [recordUnregistered, bumpExisting, bumpEntry, record, add, h]
  | some n => simp [recordUnregistered, bumpExisting, record, add, NameMap.alter, h]

/-- `d'` is `d` with one more command counted for `prop`: the counters are as they were, the
count of `prop` is one more and no other count changes, and the map lists `prop` besides what
it listed. -/
structure Bumped (prop : String) (d d' : Diagnostics) : Prop where
  counts : d'.counts = d.counts
  count : ∀ p, d'.unregisteredFor p = d.unregisteredFor p + if p = prop then 1 else 0
  listed : ∀ p, (d'.byProp.get? p).isSome ↔ (d.byProp.get? p).isSome ∨ p = prop

/-- The entry step counts one more for its property, whether or not another thread made the
entry first. -/
theorem bumpEntry_bumped (d : Diagnostics) (prop : String) : Bumped prop d (d.bumpEntry prop) where
  counts := rfl
  count p := by
    simp only [bumpEntry, unregisteredFor, NameMap.alter, NameMap.get?_insert]
    split <;> simp_all
  listed p := by
    simp only [bumpEntry, NameMap.alter, NameMap.get?_insert]
    split <;> simp_all

/-- A lookup step that finds a count counts one more for its property. -/
theorem bumpExisting_bumped {d d' : Diagnostics} {prop : String}
    (h : d.bumpExisting prop = some d') : Bumped prop d d' := by
  obtain ⟨n, hn, rfl⟩ := Option.map_eq_some_iff.1 h
  refine ⟨rfl, fun p => ?_, fun p => ?_⟩
  · simp only [unregisteredFor, NameMap.get?_insert]
    split <;> simp_all
  · simp only [NameMap.get?_insert]
    split <;> simp_all

/-! ## §2. Threads and schedules -/

/-- A call a thread makes on its clone of the diagnostics: count one event, count `n` events of
one kind, or count a command for a property that no actuator took. -/
inductive Call where
  | record (e : Event)
  | add (e : Event) (n : UInt64)
  | unregistered (prop : String)
  deriving DecidableEq

/-- What a call adds to the counter of `e`: one for a record of `e`, `n` for an add of `n`
to `e`, and one to the unregistered commands for a count for a property. -/
def Call.amount (e : Event) : Call → Nat
  | .record e' => if e = e' then 1 else 0
  | .add e' n => if e = e' then n.toNat else 0
  | .unregistered _ => if e = .unregisteredCommand then 1 else 0

/-- Where a thread is: between calls; partway through a count for `prop` that has counted
the total and will look `prop` up; or partway through one whose lookup found no count and
that will take `prop`'s entry. -/
inductive Stage where
  | idle
  | lookup (prop : String)
  | entry (prop : String)

/-- The call a thread is partway through, if any. -/
def Stage.inFlight : Stage → Option Call
  | .idle => none
  | .lookup p => some (.unregistered p)
  | .entry p => some (.unregistered p)

@[simp] theorem Stage.inFlight_idle : Stage.idle.inFlight = none := rfl

/-- A thread: the calls it has completed, where it is, and the calls it has not begun. -/
structure Thread where
  done : List Call := []
  stage : Stage := .idle
  todo : List Call

namespace Thread

/-- The calls a thread has begun: those it completed, then the one it is partway through. -/
def begun (t : Thread) : List Call := t.done ++ t.stage.inFlight.toList

/-- All the calls of a thread, in the order it makes them. -/
def calls (t : Thread) : List Call := t.begun ++ t.todo

/-- One atomic step of a thread on the diagnostics: the diagnostics after it, and the thread.
A thread between calls with none left does nothing. -/
def step (t : Thread) (d : Diagnostics) : Diagnostics × Thread :=
  match t.stage, t.todo with
  | .idle, [] => (d, t)
  | .idle, .record e :: rest => (d.record e, { t with done := t.done ++ [.record e], todo := rest })
  | .idle, .add e n :: rest => (d.add e n, { t with done := t.done ++ [.add e n], todo := rest })
  | .idle, .unregistered p :: rest =>
    (d.record .unregisteredCommand, { t with stage := .lookup p, todo := rest })
  | .lookup p, _ =>
    match d.bumpExisting p with
    | some d' => (d', { t with stage := .idle, done := t.done ++ [.unregistered p] })
    | none => (d, { t with stage := .entry p })
  | .entry p, _ => (d.bumpEntry p, { t with stage := .idle, done := t.done ++ [.unregistered p] })

/-- What one step of a thread does: it keeps the thread's calls; the calls it begins add their
amounts to the counters; the calls it completes add to the counts of their properties, which
the map then lists. -/
structure Moves (t : Thread) (d : Diagnostics) (t' : Thread) (d' : Diagnostics) : Prop where
  calls : t'.calls = t.calls
  begun : ∃ nb, t'.begun = t.begun ++ nb ∧
    ∀ e, d'.counts.get e = d.counts.get e + UInt64.ofNat ((nb.map (Call.amount e)).sum)
  done : ∃ nd, t'.done = t.done ++ nd ∧ ∀ p,
    d'.unregisteredFor p = d.unregisteredFor p + UInt64.ofNat (nd.count (.unregistered p)) ∧
    ((d'.byProp.get? p).isSome ↔ (d.byProp.get? p).isSome ∨ .unregistered p ∈ nd)

/-- A step that leaves the diagnostics and what the thread began and completed as they were. -/
theorem Moves.stay {t t' : Thread} {d : Diagnostics} (hb : t'.begun = t.begun)
    (hd : t'.done = t.done) (ht : t'.todo = t.todo) : Moves t d t' d where
  calls := by simp only [Thread.calls, hb, ht]
  begun := ⟨[], by simp [hb], by simp⟩
  done := ⟨[], by simp [hd], by simp⟩

/-- A step that completes a count for `p` begun earlier. -/
theorem Moves.complete {t t' : Thread} {d d' : Diagnostics} {p : String}
    (hstage : t.stage.inFlight = some (.unregistered p)) (ht' : t'.stage = .idle)
    (hd : t'.done = t.done ++ [.unregistered p]) (ht : t'.todo = t.todo) (hbump : Bumped p d d') :
    Moves t d t' d' where
  calls := by simp [Thread.calls, Thread.begun, hstage, ht', hd, ht]
  begun := ⟨[], by simp [Thread.begun, hstage, ht', hd], by simp [hbump.counts]⟩
  done := ⟨[.unregistered p], hd, fun q => ⟨by
    rw [hbump.count]
    by_cases h : q = p
    · simp [h]
    · simp [h, Ne.symm h], by rw [hbump.listed]; simp⟩⟩

/-- A step that makes a one-step call `c`, which adds `n` to the counter of `e`. -/
theorem Moves.oneStep {t : Thread} {d : Diagnostics} {c : Call} {rest : List Call} {e : Event}
    {n : UInt64} (hstage : t.stage = .idle) (htodo : t.todo = c :: rest)
    (hc : ∀ e', c.amount e' = if e' = e then n.toNat else 0) (hp : ∀ p, c ≠ .unregistered p) :
    Moves t d { t with done := t.done ++ [c], todo := rest } (d.add e n) where
  calls := by simp [Thread.calls, Thread.begun, hstage, htodo]
  begun := ⟨[c], by simp [Thread.begun, hstage], fun e' => by
    rw [counts_get_add, List.map_singleton, List.sum_singleton, hc]
    split <;> simp⟩
  done := ⟨[c], rfl, fun p => ⟨by simp [hp p], by simp [(hp p).symm]⟩⟩

/-- A step that begins a count for `p`: the total is counted, the property not yet. -/
theorem Moves.beginCount {t : Thread} {d : Diagnostics} {p : String} {rest : List Call}
    (hstage : t.stage = .idle) (htodo : t.todo = .unregistered p :: rest) :
    Moves t d { t with stage := .lookup p, todo := rest } (d.record .unregisteredCommand) where
  calls := by simp [Thread.calls, Thread.begun, hstage, htodo, Stage.inFlight]
  begun := ⟨[.unregistered p], by simp [Thread.begun, hstage, Stage.inFlight], fun e => by
    rw [counts_get_record, List.map_singleton, List.sum_singleton, Call.amount]
    split <;> simp⟩
  done := ⟨[], by simp, fun q => by simp⟩

/-- Every step of a thread moves it as `Moves` says. -/
theorem step_moves (t : Thread) (d : Diagnostics) : Moves t d (t.step d).2 (t.step d).1 := by
  obtain ⟨done, stage, todo⟩ := t
  cases stage with
  | idle =>
    cases todo with
    | nil => exact Moves.stay rfl rfl rfl
    | cons c rest =>
      cases c with
      | record e =>
        exact Moves.oneStep rfl rfl (fun e' => by simp [Call.amount]) (fun _ => Call.noConfusion)
      | add e n =>
        exact Moves.oneStep rfl rfl (fun e' => by simp [Call.amount]) (fun _ => Call.noConfusion)
      | unregistered p => exact Moves.beginCount rfl rfl
  | lookup p =>
    cases h : d.bumpExisting p with
    | none =>
      -- the lookup found no count: the same count goes on to the entry step
      simp only [step, h]
      exact Moves.stay (by simp [begun, Stage.inFlight]) rfl rfl
    | some d' =>
      simp only [step, h]
      exact Moves.complete rfl rfl rfl rfl (bumpExisting_bumped h)
  | entry p =>
    exact Moves.complete rfl rfl rfl rfl (bumpEntry_bumped d p)

end Thread

/-- The diagnostics the threads share, and the threads. -/
structure Shared where
  diag : Diagnostics
  threads : List Thread

namespace Shared

/-- New diagnostics, and one thread about to run each program. -/
def start (programs : List (List Call)) : Shared where
  diag := {}
  threads := programs.map fun calls => { todo := calls }

/-- Thread `i` takes its next step; an index with no thread changes nothing. -/
def step (s : Shared) (i : Nat) : Shared :=
  if h : i < s.threads.length then
    { diag := (s.threads[i].step s.diag).1, threads := s.threads.set i (s.threads[i].step s.diag).2 }
  else s

/-- The threads run their programs on new diagnostics, each step taken by the thread the
schedule names. -/
def run (programs : List (List Call)) (schedule : List Nat) : Shared :=
  schedule.foldl step (start programs)

/-- The calls all threads have begun. -/
def begun (s : Shared) : List Call := s.threads.flatMap Thread.begun

/-- The calls all threads have completed. -/
def done (s : Shared) : List Call := s.threads.flatMap Thread.done

@[simp] theorem start_begun (programs : List (List Call)) : (start programs).begun = [] :=
  List.flatMap_eq_nil_iff.2 fun t ht => by
    obtain ⟨cs, -, rfl⟩ := List.mem_map.1 ht
    rfl

@[simp] theorem start_done (programs : List (List Call)) : (start programs).done = [] :=
  List.flatMap_eq_nil_iff.2 fun t ht => by
    obtain ⟨cs, -, rfl⟩ := List.mem_map.1 ht
    rfl

end Shared

/-! ## §3. Every step keeps the books -/

/-- Replacing the `i`-th thread by one that has made the calls `n` besides those it had made
adds `n` to the calls of all threads, up to order. -/
theorem flatMap_set_perm {α β : Type} {l : List α} {i : Nat} (hi : i < l.length) {g : α → List β}
    {x : α} {n : List β} (hx : g x = g l[i] ++ n) :
    List.Perm ((l.set i x).flatMap g) (l.flatMap g ++ n) := by
  have hl : l = l.take i ++ l[i] :: l.drop (i + 1) := by
    rw [← List.drop_eq_getElem_cons hi, List.take_append_drop]
  rw [List.set_eq_take_append_cons_drop, if_pos hi]
  conv_rhs => rw [hl]
  simp only [List.flatMap_append, List.flatMap_cons, hx, List.append_assoc]
  refine List.Perm.append_left _ (List.Perm.append_left _ ?_)
  exact List.perm_append_comm

/-- What the threads and the diagnostics satisfy after any steps from the start. -/
structure Books (programs : List (List Call)) (s : Shared) : Prop where
  /-- each thread's completed, current and pending calls are its program -/
  calls : s.threads.map Thread.calls = programs
  /-- every counter holds the amounts of the calls begun -/
  counts : ∀ e, s.diag.counts.get e = UInt64.ofNat ((s.begun.map (Call.amount e)).sum)
  /-- every property's count is the number of its counts completed -/
  count : ∀ p, s.diag.unregisteredFor p = UInt64.ofNat (s.done.count (.unregistered p))
  /-- the map lists the properties with a completed count -/
  listed : ∀ p, (s.diag.byProp.get? p).isSome ↔ .unregistered p ∈ s.done

namespace Books

/-- New diagnostics, before any step. -/
theorem start (programs : List (List Call)) : Books programs (Shared.start programs) where
  calls := by simp [Shared.start, Function.comp_def, Thread.calls, Thread.begun, Stage.inFlight]
  counts e := by
    rw [Shared.start_begun]
    cases e <;> rfl
  count p := by rw [Shared.start_done]; rfl
  listed p := by rw [Shared.start_done]; simp [Shared.start]

variable {programs : List (List Call)} {s : Shared}

/-- Every step of any thread keeps the books. -/
theorem step (hb : Books programs s) (i : Nat) : Books programs (s.step i) := by
  unfold Shared.step
  split
  case isFalse => exact hb
  case isTrue hi =>
    obtain ⟨hcalls, ⟨nb, hnb, hcounts⟩, ⟨nd, hnd, hdone⟩⟩ := Thread.step_moves s.threads[i] s.diag
    -- the thread's new calls join those of all threads
    have hbegun := flatMap_set_perm hi hnb
    have hdoneperm := flatMap_set_perm hi hnd
    refine ⟨?_, fun e => ?_, fun p => ?_, fun p => ?_⟩
    · rw [List.map_set, hcalls, ← List.getElem_map Thread.calls, List.set_getElem_self, hb.calls]
      simpa using hi
    · rw [hcounts, hb.counts]
      simp only [Shared.begun]
      rw [(hbegun.map _).sum_nat, List.map_append, List.sum_append, UInt64.ofNat_add]
    · rw [(hdone p).1, hb.count]
      simp only [Shared.done]
      rw [hdoneperm.count_eq, List.count_append, UInt64.ofNat_add]
    · rw [(hdone p).2, hb.listed]
      simp only [Shared.done]
      rw [hdoneperm.mem_iff, List.mem_append]

/-- Every run keeps the books. -/
theorem run (programs : List (List Call)) (schedule : List Nat) :
    Books programs (Shared.run programs schedule) := by
  unfold Shared.run
  -- the books hold at the start and every step keeps them
  suffices h : ∀ s, Books programs s → Books programs (schedule.foldl Shared.step s) from
    h _ (start programs)
  induction schedule with
  | nil => exact fun _ hb => hb
  | cons i schedule ih => exact fun s hb => ih _ (hb.step i)

end Books

/-! ## §4. The summary table -/

/-- The counters' rows of the summary table, in their fixed order: each metric's name and the
event it counts. -/
def summaryMetrics : List (String × Event) :=
  [("malformed", .malformed), ("unprompted_replies", .unpromptedReply),
   ("ignored_kinds", .ignoredKind), ("unregistered_commands", .unregisteredCommand),
   ("dropped_sends", .droppedSend), ("overwritten_samples", .overwrittenSample),
   ("controller_failures", .controllerFailure), ("tick_overruns", .tickOverrun),
   ("missing_properties", .missingProperty), ("unanswered", .unanswered)]

/-- The counters' rows are the metrics in their fixed order, each with its counter. -/
theorem rows_eq_summaryMetrics (c : Counts) : c.rows = summaryMetrics.map fun m => (m.1, c.get m.2) :=
  rfl

/-- The per-property rows name the listed properties in byte order, with their counts. -/
theorem entries_rows (d : Diagnostics) :
    d.byProp.entries.map (fun e => ["unregistered:" ++ e.1, toString e.2.toNat]) =
      d.byProp.keys.map fun p => ["unregistered:" ++ p, toString (d.unregisteredFor p).toNat] := by
  rw [NameMap.keys, List.map_map]
  refine List.map_congr_left fun e he => ?_
  have hget : d.byProp.get? e.1 = some e.2 := (NameMap.get?_eq_some_iff _).2 he
  simp [unregisteredFor, hget]

/-- The summary table of any diagnostics reads back as its header, then a row per counter in
the fixed order with its value, then a row per listed property in byte order with its count. -/
theorem summary_records (d : Diagnostics) :
    Csv.records d.summaryCsv = ["metric", "value"] ::
      (summaryMetrics.map fun m => [m.1, toString (d.counts.get m.2).toNat]) ++
      d.byProp.keys.map fun p => ["unregistered:" ++ p, toString (d.unregisteredFor p).toNat] := by
  have hrows : ∀ row ∈ ["metric", "value"] ::
      ((d.counts.rows ++ d.byProp.entries.map fun e => ("unregistered:" ++ e.1, e.2)).map
        fun r => [r.1, toString r.2.toNat]), row ≠ [] := by
    intro row hrow
    simp only [List.mem_cons, List.mem_map] at hrow
    rcases hrow with rfl | ⟨r, -, rfl⟩ <;> simp
  -- the table begins with the letter of its header, not a byte order mark
  have hbom : (Csv.lines (["metric", "value"] ::
      ((d.counts.rows ++ d.byProp.entries.map fun e => ("unregistered:" ++ e.1, e.2)).map
        fun r => [r.1, toString r.2.toNat]))).toList.head? ≠ some '\uFEFF' := by
    rw [Csv.head?_lines_cons, Csv.head?_line_cons (by decide) (by decide)]
    decide
  rw [summaryCsv, Csv.records_lines _ hrows hbom, List.map_append, rows_eq_summaryMetrics,
    List.map_map, List.map_map, ← entries_rows]
  rfl

/-! ## §5. Any interleaving -/

/-- Counting on shared diagnostics loses no update, whatever the number of threads and however
their atomic steps interleave, even when several threads make the first count for a property
at once. After any schedule, each thread's calls, completed, under way and not begun, are its
program. Every counter holds, modulo `2^64`, the sum of the amounts of the calls begun for its
event (a record counts one, an add its amount, a count for a property one unregistered
command). The count of each property is, modulo `2^64`, the number of completed counts for it.
The summary table reads back as the header `metric,value`, the ten counters in their fixed
order with those sums, and one row `unregistered:<p>` for each property with a completed
count, in byte order, with its count. -/
theorem interleaving_loses_no_update (programs : List (List Call)) (schedule : List Nat) :
    let s := Shared.run programs schedule
    s.threads.map Thread.calls = programs ∧
    (∀ e, (s.diag.counts.get e).toNat = (s.begun.map (Call.amount e)).sum % 2 ^ 64) ∧
    (∀ p, (s.diag.unregisteredFor p).toNat = s.done.count (.unregistered p) % 2 ^ 64) ∧
    ∃ props : List String, props.Pairwise (· < ·) ∧ (∀ p, p ∈ props ↔ .unregistered p ∈ s.done) ∧
      Csv.records s.diag.summaryCsv = ["metric", "value"] ::
        (summaryMetrics.map fun m => [m.1, toString ((s.begun.map (Call.amount m.2)).sum % 2 ^ 64)]) ++
        props.map fun p => ["unregistered:" ++ p, toString (s.done.count (.unregistered p) % 2 ^ 64)] := by
  intro s
  have hb : Books programs s := Books.run programs schedule
  have hcounts : ∀ e, (s.diag.counts.get e).toNat = (s.begun.map (Call.amount e)).sum % 2 ^ 64 :=
    fun e => by rw [hb.counts, UInt64.toNat_ofNat']
  have hcount : ∀ p, (s.diag.unregisteredFor p).toNat = s.done.count (.unregistered p) % 2 ^ 64 :=
    fun p => by rw [hb.count, UInt64.toNat_ofNat']
  refine ⟨hb.calls, hcounts, hcount, s.diag.byProp.keys, s.diag.byProp.keys_sorted, fun p => ?_, ?_⟩
  · rw [NameMap.mem_keys, ← Option.isSome_iff_exists, hb.listed]
  · rw [summary_records]
    simp only [hcounts, hcount]

/-- Two threads count a command for the same new property at once: both find no count, both
go on to take the entry, and the count is two. -/
example :
    (Shared.run [[.unregistered "z"], [.unregistered "z"]] [0, 1, 0, 1, 0, 1]).diag.unregisteredFor
      "z" = 2 := by
  decide

end Diagnostics

end ControlLoop
