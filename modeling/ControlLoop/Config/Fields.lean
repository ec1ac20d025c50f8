import ControlLoop.Decimal.Read
import ControlLoop.Net.Address

namespace ControlLoop

/-! # Reading configuration fields

Configuration values are read from text as strictly as the records are written: unsigned
integers are decimal digits, or hexadecimal ones after `0x`, each after an optional plus
sign, and must fit their width; truths are
exactly `true` or `false`, numbers follow the number reader, addresses the address reader,
and an optional value is absent exactly when its field is empty.
-/

namespace Field

/-- The value of digits in a radix after an optional plus sign, if there is at least one
digit and every one is a digit of the radix. -/
def digitsIn (radix : Nat) (cs : List Char) : Option Nat :=
  let cs := match cs with
    | '+' :: r => r
    | cs => cs
  if cs.isEmpty then none
  else cs.foldlM (fun n c => (digitValue c).bind fun d =>
    if d < radix then some (radix * n + d) else none) 0
where
  /-- The value of a decimal digit or a hexadecimal letter in either case. -/
  digitValue (c : Char) : Option Nat :=
    if c.isDigit then some (c.toNat - '0'.toNat)
    else if 'a' ≤ c && c ≤ 'f' then some (c.toNat - 'a'.toNat + 10)
    else if 'A' ≤ c && c ≤ 'F' then some (c.toNat - 'A'.toNat + 10)
    else none

/-- An unsigned integer below `2^bits`: hexadecimal digits after `0x`, else decimal ones. -/
def unsigned (bits : Nat) (s : String) : Option Nat :=
  let n? := match s.toList with
    | '0' :: 'x' :: r => digitsIn 16 r
    | cs => digitsIn 10 cs
  n?.bind fun n => if n < 2 ^ bits then some n else none

/-- A truth value. -/
def truth (s : String) : Option Bool :=
  if s == "true" then some true else if s == "false" then some false else none

/-- A value that may be absent: an empty field is absent, any other must read. -/
def optional {α : Type} (read : String → Option α) (s : String) : Option (Option α) :=
  if s.isEmpty then some none else (read s).map some

/-- The text of an optional value: empty when absent. -/
def showOptional {α : Type} (text : α → String) : Option α → String
  | some a => text a
  | none => ""

end Field

end ControlLoop
