namespace ControlLoop

/-! # Reading CSV text

Fields are separated by commas and records by line breaks (`\n`, `\r` or both). A field that
starts with a quote runs to the next lone quote, a doubled quote inside standing for one;
characters after the closing quote still belong to the field. Lines with nothing on them are
skipped, and so is a byte order mark at the very start.
-/

namespace Csv

/-- Where the reader stands. -/
structure Reader where
  records : List (List String) := []
  fields : List String := []
  field : String := ""
  /-- The current record has begun. -/
  inRecord : Bool := false
  /-- The current field has begun. -/
  inField : Bool := false
  quoted : Bool := false
  /-- A quote was just read inside a quoted field. -/
  quoteSeen : Bool := false

namespace Reader

/-- Ends the current field. -/
def endField (r : Reader) : Reader :=
  { r with fields := r.field :: r.fields, field := "", inField := false }

/-- Ends the current record, if it has begun. -/
def endRecord (r : Reader) : Reader :=
  if r.inRecord then
    let r := r.endField
    { r with records := r.fields.reverse :: r.records, fields := [], inRecord := false }
  else r

/-- Reads one character outside quotes. -/
def plain (r : Reader) (c : Char) : Reader :=
  if c == ',' then { r.endField with inRecord := true }
  else if c == '\n' || c == '\r' then r.endRecord
  else if c == '"' && !r.inField then { r with quoted := true, inField := true, inRecord := true }
  else { r with field := r.field.push c, inField := true, inRecord := true }

/-- Reads one character. -/
def step (r : Reader) (c : Char) : Reader :=
  if r.quoted then
    if r.quoteSeen then
      if c == '"' then { r with field := r.field.push '"', quoteSeen := false }
      else { r with quoted := false, quoteSeen := false }.plain c
    else if c == '"' then { r with quoteSeen := true }
    else { r with field := r.field.push c }
  else r.plain c

end Reader

/-- The records of a CSV text; a byte order mark at its start is not part of it. -/
def records (s : String) : List (List String) :=
  let cs := match s.toList with
    | '\uFEFF' :: r => r
    | cs => cs
  (cs.foldl Reader.step {}).endRecord.records.reverse

end Csv

end ControlLoop
