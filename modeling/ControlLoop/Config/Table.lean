import ControlLoop.Fault
import ControlLoop.Text.Csv
import ControlLoop.Text.CsvRead

namespace ControlLoop

/-! # Configurations as CSV tables

A configuration is saved as a header of column names and one row of values. Loading reads
the header and the first row: the row must have as many fields as the header, a column is
matched by its name (unknown names are skipped, a name twice is an error), and columns that
are missing keep their defaults. A text without a row is an empty configuration.
-/

/-- One column of a configuration record. -/
structure Column (κ : Type) where
  name : String
  write : κ → String
  read : κ → String → Option κ

namespace Column

variable {κ : Type}

/-- The saved text of a configuration. -/
def save (cols : List (Column κ)) (c : κ) : String :=
  Csv.lines [cols.map (·.name), cols.map fun col => col.write c]

/-- Reads one field into the configuration; `seen` holds the columns already read. -/
def readField (cols : List (Column κ)) (acc : κ × List String) (f : String × String) :
    Except Fault (κ × List String) :=
  match cols.find? (·.name == f.1) with
  | none => .ok acc
  | some col =>
    if acc.2.contains f.1 then .error .csv
    else match col.read acc.1 f.2 with
      | some c => .ok (c, f.1 :: acc.2)
      | none => .error .csv

/-- Loads a configuration from its saved text, starting from the defaults. -/
def load (cols : List (Column κ)) (defaults : κ) (text : String) : Except Fault κ :=
  match Csv.records text with
  | header :: row :: _ =>
    if header.length ≠ row.length then .error .csv
    else (header.zip row).foldlM (readField cols) (defaults, []) |>.map (·.1)
  | _ => .error (.config "configuration file is empty")

end Column

end ControlLoop
