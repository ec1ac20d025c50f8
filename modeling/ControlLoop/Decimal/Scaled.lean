import ControlLoop.Decimal.Nearest

namespace ControlLoop

/-! # Reading a numeral by scaling

A JSON numeral can be read quickly instead of exactly: its digits are gathered into a 64-bit
significand, the significand is rounded to a double, and that double is multiplied or
divided by the double nearest to one power of ten. Digits that no longer fit the significand
are dropped (those before the point still count as powers of ten), and an exponent of more
than 308 is brought into range by dividing by `1e308` first. So the result can be one unit
in the last place away from the nearest double: `9.999999999999999e-05` reads as `0.0001`.
A numeral without a point or an exponent is an integer and is rounded once, exactly. Too
large a number, or text that is not a numeral, reads as nothing.
-/

namespace Scaled

/-- The largest significand. -/
def significandMax : Nat := 2 ^ 64 - 1

/-- The largest exponent. -/
def exponentMax : Nat := 2 ^ 31 - 1

/-- Whether `a * 10 + b` would pass `limit`. -/
def overflows (a b limit : Nat) : Bool := a ≥ limit / 10 && (a > limit / 10 || b > limit % 10)

/-- The value of a decimal digit, if it is one. -/
def digit? (c : Char) : Option Nat := if c.isDigit then some (c.toNat - '0'.toNat) else none

/-- The double nearest to `10^i`. -/
def pow10 (i : Nat) : Float := Binary64.ofRatio false (10 ^ i) 1

/-- Scales the rounded significand by a power of ten, at most 308 at a time; too large a
result is nothing. -/
def scale (f : Float) : Nat → Int → Option Float
  | 0, _ => none
  | fuel + 1, e =>
    if e.natAbs ≤ 308 then
      if 0 ≤ e then
        let g := f * pow10 e.natAbs
        if g.isInf then none else some g
      else some (f / pow10 e.natAbs)
    else if f == 0.0 then some f
    else if 0 ≤ e then none
    else scale (f / pow10 308) fuel (e + 308)

/-- The number of a sign, a significand and a power of ten. -/
def fromParts (negative : Bool) (significand : Nat) (e : Int) : Option Float :=
  (scale (Binary64.ofInt significand) (e.natAbs / 308 + 2) e).map fun f =>
    if negative then -f else f

/-- Reads the exponent digits after `e` and its sign, then scales. -/
def exponentPart (negative : Bool) (significand : Nat) (e0 : Int) (cs : List Char) :
    Option Float :=
  let (up, cs) := match cs with
    | '+' :: r => (true, r)
    | '-' :: r => (false, r)
    | r => (true, r)
  match cs with
  | [] => none
  | c :: rest => do
    let first ← digit? c
    let rec go (acc : Nat) : List Char → Option (Option Nat)
      | [] => some (some acc)
      | c :: r => match digit? c with
        | none => none
        | some d => if overflows acc d exponentMax then
            (if r.all Char.isDigit then some none else none)
          else go (acc * 10 + d) r
    match ← go first rest with
    | some x =>
      let e := if up then e0 + x else e0 - x
      fromParts negative significand (max (-(2 ^ 31 : Int)) (min e exponentMax))
    | none =>
      if significand ≠ 0 && up then none
      else some (if negative then -0.0 else 0.0)

/-- Reads digits after the point, keeping those that fit the significand. -/
def fraction (negative : Bool) (significand : Nat) (e0 : Int) (cs : List Char) :
    Option Float :=
  let rec go (sig : Nat) (after : Int) (seen : Bool) (full : Bool) :
      List Char → Option Float
    | [] => if seen then fromParts negative sig (e0 + after) else none
    | c :: r => match digit? c with
      | some d =>
        if full || overflows sig d significandMax then go sig after true true r
        else go (sig * 10 + d) (after - 1) true false r
      | none =>
        if !seen then none
        else if c == 'e' || c == 'E' then exponentPart negative sig (e0 + after) r
        else none
  go significand 0 false false cs

/-- After a significand that overflowed: every further integer digit is a power of ten. -/
def longInteger (negative : Bool) (significand : Nat) : Int → List Char → Option Float
  | e, [] => fromParts negative significand e
  | e, c :: r =>
    if c.isDigit then longInteger negative significand (e + 1) r
    else if c == '.' then fraction negative significand e r
    else if c == 'e' || c == 'E' then exponentPart negative significand e r
    else none

/-- What follows the integer digits: a point, an exponent, or the end of an integer. -/
def afterInteger (negative : Bool) (significand : Nat) : List Char → Option Float
  | [] =>
    if negative && significand = 0 then some (-0.0)
    else some (Binary64.ofInt (if negative then -(significand : Int) else significand))
  | '.' :: r => fraction negative significand 0 r
  | 'e' :: r | 'E' :: r => exponentPart negative significand 0 r
  | _ => none

/-- Integer digits after the first, while they fit the significand. -/
def integer (negative : Bool) (sig : Nat) : List Char → Option Float
  | [] => afterInteger negative sig []
  | c :: r => match digit? c with
    | some d =>
      if overflows sig d significandMax then longInteger negative sig 0 (c :: r)
      else integer negative (sig * 10 + d) r
    | none => afterInteger negative sig (c :: r)

end Scaled

namespace Decimal

/-- Reads a JSON numeral by scaling its significand (see above). -/
def readScaled? (s : String) : Option Float :=
  let (negative, cs) := match s.toList with
    | '-' :: r => (true, r)
    | cs => (false, cs)
  match cs with
  | '0' :: r =>
    match r with
    | c :: _ => if c.isDigit then none else Scaled.afterInteger negative 0 r
    | [] => Scaled.afterInteger negative 0 []
  | c :: r => match Scaled.digit? c with
    | some d => Scaled.integer negative d r
    | none => none
  | [] => none

end Decimal

end ControlLoop
