import ControlLoop.Record

namespace ControlLoop

/-! # The CSV recorder

A CSV recorder never makes its producer wait: a pushed record joins a bounded queue, or is
dropped and counted when the queue is full. A consumer takes the records off the queue one at
a time, oldest first, and writes each under the header, which the first record it writes
fixes to that record's names; a row is written as `Record.row` gives it. Shutting down lowers
the running flag, and the consumer then writes every record still waiting.
-/

/-- How many records wait in the queue at most. -/
def recordCapacity : Nat := 16384

/-- A CSV recorder: the waiting records, the header once fixed, the lines written so far (each
as the texts of its fields), the number of records dropped as a 64-bit counter, and whether it
still runs. -/
structure CsvRecorder where
  queue : List Record := []
  header : Option (List String) := none
  lines : List (List String) := []
  dropped : UInt64 := 0
  running : Bool := true

namespace CsvRecorder

/-- Pushes a record; a full queue drops it and counts it. -/
def push (s : CsvRecorder) (r : Record) : CsvRecorder :=
  if s.queue.length < recordCapacity then { s with queue := s.queue ++ [r] }
  else { s with dropped := s.dropped + 1 }

/-- Writes a record under the header; the first record written fixes the header to its names
and writes it first. -/
def write (s : CsvRecorder) (r : Record) : CsvRecorder :=
  let header := s.header.getD r.names
  let lines := if s.header.isSome then s.lines else s.lines ++ [header]
  { s with header := some header, lines := lines ++ [(r.row header).map FloatFormat.plain.render] }

/-- The consumer takes the oldest waiting record, if any, and writes it. -/
def pop (s : CsvRecorder) : CsvRecorder :=
  match s.queue with
  | [] => s
  | r :: rest => { s with queue := rest }.write r

/-- Shuts down: the running flag falls, and the consumer writes every record still waiting. -/
def shutdown (s : CsvRecorder) : CsvRecorder :=
  s.queue.foldl write { s with queue := [], running := false }

/-- The text of the file. -/
def text (s : CsvRecorder) : String := Csv.lines s.lines

end CsvRecorder

end ControlLoop
