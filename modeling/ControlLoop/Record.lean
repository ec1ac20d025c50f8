import ControlLoop.Decimal.Text
import ControlLoop.Text.Csv

namespace ControlLoop

/-! # Records and their table

A record is a row of named numbers; names may repeat, and a look-up finds the first. A log of
records is written as a table whose header is the first record's names: a record with exactly
those names in that order gives its numbers as they are, any other record gives, per header
column, its first number of that name or NaN. Numbers are written in plain text.
-/

/-- Named numbers in the order they were pushed. -/
structure Record where
  fields : List (String × Float) := []
  deriving Inhabited

namespace Record

/-- The record with one more field at the end. -/
def push (r : Record) (name : String) (v : Float) : Record := ⟨r.fields ++ [(name, v)]⟩

/-- The first number of a name. -/
def get? (r : Record) (name : String) : Option Float := r.fields.lookup name

/-- The names, in order. -/
def names (r : Record) : List String := r.fields.map (·.1)

/-- The numbers, in order. -/
def values (r : Record) : List Float := r.fields.map (·.2)

/-- The number of fields. -/
def size (r : Record) : Nat := r.fields.length

/-- The row a record gives under a header. -/
def row (r : Record) (header : List String) : List Float :=
  if r.names == header then r.values
  else header.map fun c => (r.get? c).getD Binary64.nan

end Record

/-- The numbers of one name across records, skipping records without it. -/
def column (rs : List Record) (name : String) : List Float := rs.filterMap (·.get? name)

/-- The table of a log of records: the header line of the first record's names, then one line
per record. No records give no text. -/
def tableText (rs : List Record) : String :=
  match rs with
  | [] => ""
  | first :: _ =>
    let header := first.names
    Csv.lines (header :: rs.map fun r => (r.row header).map FloatFormat.plain.render)

end ControlLoop
