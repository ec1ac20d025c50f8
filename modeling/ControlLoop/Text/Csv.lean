namespace ControlLoop

/-! # CSV lines

A field is written as it is unless it holds a comma, a quote or a line break; then it is
put between quotes with each quote doubled. Fields are joined by commas and a line ends in a
line feed. A line that would be empty (no fields, or one empty field) is written as two
quotes, so that it still reads back as one record.
-/

namespace Csv

/-- Whether a character forces its field into quotes. -/
def special (c : Char) : Bool := c == ',' || c == '"' || c == '\n' || c == '\r'

/-- Whether a field must be quoted. -/
def needsQuotes (s : String) : Bool := s.toList.any special

/-- A character inside quotes: a quote is doubled. -/
def escape (c : Char) : List Char := if c == '"' then ['"', '"'] else [c]

/-- The text of one field. -/
def field (s : String) : String :=
  if needsQuotes s then String.ofList ('"' :: s.toList.flatMap escape ++ ['"']) else s

/-- The text of one line, with its line feed. -/
def line (fields : List String) : String :=
  let body := ",".intercalate (fields.map field)
  (if body.isEmpty then "\"\"" else body) ++ "\n"

/-- The text of several lines. -/
def lines (rows : List (List String)) : String := String.join (rows.map line)

end Csv

end ControlLoop
