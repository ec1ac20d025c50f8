import ControlLoop.Text.Printable

namespace ControlLoop

/-! # Quoted names

A name inside an error message is written between double quotes. Inside them a quote and
a backslash get a backslash, the usual controls get their one-letter escapes, and a
character that extends the grapheme before it, or that is not printable, is written as its
code point in hexadecimal; every other character stands for itself.
-/

namespace Quoted

/-- Characters written as a hexadecimal escape: grapheme extenders and unprintable ones. -/
def hidden (c : Char) : Bool := Unicode.isGraphemeExtend c || !Unicode.isPrintable c

/-- Lowercase hexadecimal digits of a number, without leading zeros. -/
def hex (n : Nat) : String := String.ofList (Nat.toDigits 16 n)

/-- The text that stands for one character between the quotes. -/
def escape (c : Char) : String :=
  match c with
  | '\t' => "\\t"
  | '\r' => "\\r"
  | '\n' => "\\n"
  | '\\' => "\\\\"
  | '"' => "\\\""
  | _ =>
    if c.val == 0 then "\\0"
    else if hidden c then "\\u\x7b" ++ hex c.val.toNat ++ "\x7d"
    else c.toString

/-- A name between double quotes, escaped. -/
def quote (s : String) : String := "\"" ++ String.join (s.toList.map escape) ++ "\""

end Quoted

end ControlLoop
