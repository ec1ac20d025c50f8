import ControlLoop.Decimal.Nearest
import ControlLoop.Double

namespace ControlLoop

/-! # Reading a number from text

A number is an optional sign, then either a word for infinity or NaN (any letter case), or
digits with an optional point and an optional exponent: `12`, `-0.5`, `.5`, `5.`, `1e3`,
`2.5E-7`. At least one digit stands before or after the point, and an exponent mark is
followed by an optionally signed run of digits. The value is the double nearest to the
decimal, ties to even.
-/

namespace Decimal

/-- Splits off the leading decimal digits. -/
def spanDigits (cs : List Char) : List Char × List Char := (cs.takeWhile Char.isDigit, cs.dropWhile Char.isDigit)

/-- The number a digit string stands for. -/
def digitsValue (ds : List Char) : Nat := ds.foldl (fun n c => 10 * n + (c.toNat - '0'.toNat)) 0

/-- An optional sign, and whether it was a minus. -/
def splitSign : List Char → Bool × List Char
  | '-' :: rest => (true, rest)
  | '+' :: rest => (false, rest)
  | cs => (false, cs)

/-- The exponent part after the mark: an optionally signed nonempty digit run, and nothing
after it. -/
def readExponent (cs : List Char) : Option Int :=
  let (neg, rest) := splitSign cs
  let (ds, tail) := spanDigits rest
  if ds.isEmpty || !tail.isEmpty then none
  else
    let n : Int := digitsValue ds
    some (if neg then -n else n)

/-- The decimal of an unsigned numeral with optional point and exponent. -/
def readUnsigned (cs : List Char) : Option Decimal :=
  let (whole, rest) := spanDigits cs
  let (frac, rest) := match rest with
    | '.' :: more => spanDigits more
    | _ => ([], rest)
  if whole.isEmpty && frac.isEmpty then none
  else
    let exp? : Option Int := match rest with
      | [] => some 0
      | c :: more => if c == 'e' || c == 'E' then readExponent more else none
    exp?.map fun e => ⟨digitsValue (whole ++ frac), e - frac.length⟩

/-- The double a text stands for, if it is a number. -/
def readFloat? (s : String) : Option Float :=
  let (neg, rest) := splitSign s.toList
  let word := String.ofList (rest.map Char.toLower)
  if word == "inf" || word == "infinity" then some (Binary64.infinity neg)
  else if word == "nan" then some Binary64.nan
  else (readUnsigned rest).map (toFloat neg)

/-- Reads a number as a double: as `readFloat?`, but a NaN keeps the sign it is written with,
so `-nan` is the quiet NaN negated. -/
def readDouble? (s : String) : Option Double :=
  (readFloat? s).map fun x =>
    let d := Double.ofFloat x
    if (splitSign s.toList).1 && d.isNaN then d.neg else d

end Decimal

end ControlLoop
