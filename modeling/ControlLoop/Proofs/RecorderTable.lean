import ControlLoop.Recorder

/-! # The recorder writes the table of what was pushed

A CSV recorder hands its records from the producer to a consumer through a bounded queue, and
the consumer writes them while the producer keeps pushing; shutting down writes what is left.
This module shows that, however the pushes and the consumer's steps interleave, a recorder
whose queue always has room writes exactly `tableText` of the records pushed: the first
record's names as the header, then one row per record in push order.

## Rows

A row is the record's numbers as they are when its names are the header's, in order, and the
aligned lookup (per header column, the record's first number of that name, or NaN) otherwise.
The two agree whenever the header repeats no name (`Record.row_eq_lookup`); with a repeated
name the verbatim row keeps every number, which the lookup would not
(`CsvRecorder.repeated_name_row`).

## The queue

`CsvRecorder.Holds rs s` says that the records `rs` taken so far split into those written, in
order and under the header the first of them fixed, and those still waiting, in order. A start
holds it, a push with room and a step of the consumer keep it (`Holds.push`, `Holds.pop`), and
shutting down writes the rest (`Holds.shutdown`); along any schedule, `Holds.run`. All
together: `CsvRecorder.writes_pushed_table`.
-/

namespace ControlLoop

/-! ## §1. Rows -/

namespace Record

/-- With no name repeated, a record's numbers are, name by name, the first number of that
name. -/
theorem values_eq_lookup {r : Record} (h : r.names.Nodup) :
    r.values = r.names.map fun c => (r.get? c).getD Binary64.nan := by
  obtain ⟨fs⟩ := r
  induction fs with
  | nil => rfl
  | cons f fs ih =>
    obtain ⟨n, v⟩ := f
    simp only [names, values, get?, List.map_cons, List.nodup_cons] at h ih ⊢
    -- every later name differs from the first, so its lookup passes the first field by
    have hrest : (fs.map (·.1)).map (fun c => (((n, v) :: fs).lookup c).getD Binary64.nan) =
        (fs.map (·.1)).map fun c => (fs.lookup c).getD Binary64.nan := by
      refine List.map_congr_left fun c hc => ?_
      have hb : (c == n) = false := beq_eq_false_iff_ne.2 fun hcn => h.1 (hcn ▸ hc)
      rw [List.lookup_cons, hb]
    rw [hrest, ← ih h.2, List.lookup_cons, beq_self_eq_true]
    rfl

/-- Under a header that repeats no name, every record's row is the aligned lookup. -/
theorem row_eq_lookup {header : List String} (h : header.Nodup) (r : Record) :
    r.row header = header.map fun c => (r.get? c).getD Binary64.nan := by
  unfold row
  split
  · rename_i hnames
    have heq : r.names = header := beq_iff_eq.1 hnames
    rw [values_eq_lookup (heq ▸ h), heq]
  · rfl

end Record

/-- The lines of the table of some records: none for no records, else the first record's
names and then one line per record under them. -/
def tableLines : List Record → List (List String)
  | [] => []
  | first :: rest =>
    first.names :: (first :: rest).map fun r => (r.row first.names).map FloatFormat.plain.render

/-- The table's text is its lines. -/
theorem tableText_eq_lines (rs : List Record) : tableText rs = Csv.lines (tableLines rs) := by
  cases rs <;> rfl

/-- One more record adds its row under the header the first record fixed. -/
theorem tableLines_append_singleton (first : Record) (rest : List Record) (r : Record) :
    tableLines (first :: (rest ++ [r])) =
      tableLines (first :: rest) ++ [(r.row first.names).map FloatFormat.plain.render] := by
  simp [tableLines]

/-! ## §2. The queue -/

/-- What a recorder does: the producer pushes a record, or the consumer writes the oldest
waiting one. -/
inductive RecorderEvent where
  | push (r : Record)
  | pop

namespace CsvRecorder

/-- One event. -/
def step (s : CsvRecorder) : RecorderEvent → CsvRecorder
  | .push r => s.push r
  | .pop => s.pop

/-- A schedule of events. -/
def run (s : CsvRecorder) (evs : List RecorderEvent) : CsvRecorder := evs.foldl step s

/-- The records a schedule pushes, in order. -/
def pushed (evs : List RecorderEvent) : List Record :=
  evs.filterMap fun | .push r => some r | .pop => none

/-- Every push of the schedule finds room in the queue. -/
def HasRoom (s : CsvRecorder) : List RecorderEvent → Prop
  | [] => True
  | e :: evs => (∀ r, e = .push r → s.queue.length < recordCapacity) ∧ HasRoom (step s e) evs

/-- Writing leaves the queue as it is. -/
@[simp] theorem write_queue (s : CsvRecorder) (r : Record) : (s.write r).queue = s.queue := rfl

/-- Writing drops nothing. -/
@[simp] theorem write_dropped (s : CsvRecorder) (r : Record) : (s.write r).dropped = s.dropped :=
  rfl

/-- The records `rs` taken so far: the first of them written, in order and under the header the
first one fixed, the others waiting, in order; none dropped. -/
structure Holds (rs : List Record) (s : CsvRecorder) : Prop where
  split : ∃ written, written ++ s.queue = rs ∧ s.lines = tableLines written ∧
    s.header = written.head?.map Record.names
  dropped : s.dropped = 0

/-- Writing a record after the records written so far adds its line, and the header's line
before it when it is the first. -/
theorem write_lines {s : CsvRecorder} {written : List Record}
    (hlines : s.lines = tableLines written) (hheader : s.header = written.head?.map Record.names)
    (r : Record) :
    (s.write r).lines = tableLines (written ++ [r]) ∧
      (s.write r).header = (written ++ [r]).head?.map Record.names := by
  cases written with
  | nil =>
    -- the first record fixes the header to its names
    simp [write, hlines, hheader, tableLines]
  | cons first rest =>
    simp only [List.cons_append, List.head?_cons, Option.map_some] at hheader ⊢
    refine ⟨?_, by simp [write, hheader]⟩
    rw [tableLines_append_singleton]
    simp [write, hlines, hheader]

/-- A new recorder has taken nothing. -/
theorem Holds.start : Holds [] ({} : CsvRecorder) :=
  ⟨⟨[], rfl, rfl, rfl⟩, rfl⟩

/-- A push that finds room puts the record at the end of the queue. -/
theorem Holds.push {rs : List Record} {s : CsvRecorder} (h : Holds rs s)
    (hroom : s.queue.length < recordCapacity) (r : Record) : Holds (rs ++ [r]) (s.push r) := by
  obtain ⟨⟨written, hsplit, hlines, hheader⟩, hdropped⟩ := h
  have hpush : s.push r = { s with queue := s.queue ++ [r] } := if_pos hroom
  rw [hpush]
  exact ⟨⟨written, by rw [← List.append_assoc, hsplit], hlines, hheader⟩, hdropped⟩

/-- The consumer's step writes the oldest waiting record. -/
theorem Holds.pop {rs : List Record} {s : CsvRecorder} (h : Holds rs s) : Holds rs s.pop := by
  obtain ⟨⟨written, hsplit, hlines, hheader⟩, hdropped⟩ := h
  unfold CsvRecorder.pop
  split
  · exact ⟨⟨written, hsplit, hlines, hheader⟩, hdropped⟩
  · rename_i r rest hqueue
    -- the record leaves the queue and joins the written ones
    obtain ⟨hl, hh⟩ := write_lines (s := { s with queue := rest }) hlines hheader r
    refine ⟨⟨written ++ [r], ?_, hl, hh⟩, hdropped⟩
    rw [← hsplit, hqueue, write_queue, List.append_assoc, List.singleton_append]

/-- Writing more records after those written so far adds their lines in order, and drops
nothing. -/
theorem foldl_write_lines :
    ∀ (more written : List Record) (t : CsvRecorder), t.lines = tableLines written →
      t.header = written.head?.map Record.names →
      (more.foldl write t).lines = tableLines (written ++ more) ∧
        (more.foldl write t).dropped = t.dropped
  | [], written, t, hlines, _ => ⟨by simpa using hlines, rfl⟩
  | r :: more, written, t, hlines, hheader => by
    obtain ⟨hl, hh⟩ := write_lines hlines hheader r
    obtain ⟨hl', hd'⟩ := foldl_write_lines more (written ++ [r]) (t.write r) hl hh
    rw [List.foldl_cons, hl', hd', List.append_assoc, List.singleton_append]
    exact ⟨rfl, rfl⟩

/-- Shutting down writes every waiting record after the written ones, and drops none. -/
theorem Holds.shutdown {rs : List Record} {s : CsvRecorder} (h : Holds rs s) :
    s.shutdown.lines = tableLines rs ∧ s.shutdown.dropped = 0 := by
  obtain ⟨⟨written, hsplit, hlines, hheader⟩, hdropped⟩ := h
  obtain ⟨hl, hd⟩ := foldl_write_lines s.queue written { s with queue := [], running := false }
    hlines hheader
  exact ⟨by rw [CsvRecorder.shutdown, hl, hsplit], by rw [CsvRecorder.shutdown, hd, hdropped]⟩

/-- Along a schedule whose pushes all find room, the records taken are those already taken and
then those the schedule pushes. -/
theorem Holds.run {rs : List Record} {s : CsvRecorder} (h : Holds rs s) :
    ∀ evs, HasRoom s evs → Holds (rs ++ pushed evs) (run s evs) := by
  intro evs
  induction evs generalizing rs s with
  | nil => intro _; simpa [pushed, CsvRecorder.run] using h
  | cons e evs ih =>
    intro ⟨hroom, hrest⟩
    cases e with
    | push r =>
      have hnext := ih (h.push (hroom r rfl) r) hrest
      simpa [pushed, CsvRecorder.run, step] using hnext
    | pop =>
      have hnext := ih h.pop hrest
      simpa [pushed, CsvRecorder.run, step] using hnext

/-- A CSV recorder writes the table of what was pushed. Take any schedule of pushes and consumer
steps, in any interleaving, in which no push finds the queue full, followed by shutdown. Then no
record is dropped, and the file is `tableText` of the records pushed: the first record's names
as the header, then one row per record in push order, the record's numbers as they are when its
names are the header's, else the aligned lookup. Under a header that repeats no name, every row
is the aligned lookup. -/
theorem writes_pushed_table (evs : List RecorderEvent) (hroom : HasRoom {} evs) :
    (run {} evs).shutdown.dropped = 0 ∧ (run {} evs).shutdown.text = tableText (pushed evs) ∧
      ∀ first ∈ (pushed evs).head?, first.names.Nodup → ∀ r ∈ pushed evs,
        r.row first.names = first.names.map fun c => (r.get? c).getD Binary64.nan := by
  obtain ⟨hlines, hdropped⟩ := (Holds.start.run evs hroom).shutdown
  refine ⟨hdropped, ?_, fun first _ hnodup r _ => Record.row_eq_lookup hnodup r⟩
  rw [text, hlines, tableText_eq_lines]
  rfl

/-- The recorder's own tests, interleaved: `x = 1, y = 2` is pushed and written, then `y = 4`
is pushed and written at shutdown, under the header `x, y`. -/
theorem writes_pushed_table_reordered :
    let first : Record := ⟨[("x", 1.0), ("y", 2.0)]⟩
    let second : Record := ⟨[("y", 4.0)]⟩
    let evs := [RecorderEvent.push first, .pop, .push second]
    HasRoom {} evs ∧ (run {} evs).shutdown.dropped = 0 ∧
      (run {} evs).shutdown.text = tableText [first, second] :=
  let evs := [RecorderEvent.push ⟨[("x", 1.0), ("y", 2.0)]⟩, .pop, .push ⟨[("y", 4.0)]⟩]
  have hroom : HasRoom {} evs := by
    simp [evs, HasRoom, step, CsvRecorder.push, CsvRecorder.pop, recordCapacity]
  ⟨hroom, (writes_pushed_table evs hroom).1, (writes_pushed_table evs hroom).2.1⟩

/-- A record that repeats a name: its row is written as it is, `1, 2`, while the aligned lookup
reads the first `a` twice, `1, 1`. -/
theorem repeated_name_row :
    let r : Record := ⟨[("a", 1.0), ("a", 2.0)]⟩
    (run {} [.push r]).shutdown.lines = [["a", "a"], ["1", "2"]] ∧
      (r.names.map fun c => (r.get? c).getD Binary64.nan).map FloatFormat.plain.render =
        ["1", "1"] := by
  decide

end CsvRecorder

end ControlLoop
