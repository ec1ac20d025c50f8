namespace ControlLoop

/-! # Lines of a text

A text is read as lines, each ended by a line feed; the last line may lack one, and a text
that ends in a line feed has no empty line after it. A carriage return just before a line
feed belongs to the line ending, not to the line. A line break inside a quoted CSV field
therefore splits a record over two lines, which is what a count of lines sees.
-/

namespace Text

/-- The lines of a text whose current line has begun with some characters, held last first.
A line feed ends the current line, dropping a carriage return just before it. -/
def linesFrom (begun : List Char) : List Char → List String
  | [] => if begun.isEmpty then [] else [String.ofList begun.reverse]
  | '\n' :: rest =>
    String.ofList (match begun with | '\r' :: b => b | b => b).reverse :: linesFrom [] rest
  | c :: rest => linesFrom (c :: begun) rest

/-- The lines of a text. -/
def lines (s : String) : List String := linesFrom [] s.toList

/-- The empty text has no lines. -/
theorem lines_empty : lines "" = [] := rfl

/-- A text that starts with a line feed starts with an empty line. -/
theorem linesFrom_newline (cs : List Char) :
    linesFrom [] ('\n' :: cs) = "" :: linesFrom [] cs := rfl

end Text

end ControlLoop
