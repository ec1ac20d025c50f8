import ControlLoop.Decimal.Basic

namespace ControlLoop

/-! # The double nearest to a rational number

`Binary64.ofRatio` rounds `num / den` to the nearest double, a tie going to the even
mantissa: it takes the binary exponent that puts the quotient in `[2^52, 2^53)` (never below
the subnormal exponent), rounds the whole quotient once on its exact remainder, and carries a
mantissa that rounds up to `2^53` into the next exponent. Reading a decimal is this rounding
of `digits · 10^exp`.
-/

namespace Binary64

/-- `⌊log2 (num / den)⌋` for `num, den > 0`: the difference of the binary lengths, less one
when `num / den` falls short of that power. -/
def floorLog2 (num den : Nat) : Int :=
  let t : Int := (Nat.log2 num : Int) - (Nat.log2 den : Int)
  if num * 2 ^ (-t).toNat ≥ den * 2 ^ t.toNat then t else t - 1

/-- `n / d` rounded to the nearest whole number, a tie going to the even one. -/
def roundHalfEven (n d : Nat) : Nat :=
  let q := n / d
  let r := n % d
  if 2 * r > d ∨ (2 * r = d ∧ q % 2 = 1) then q + 1 else q

/-- The double nearest to `± num / den`, ties to even; zero numerators give a signed zero and
quotients past the largest double give infinity. -/
def ofRatio (negative : Bool) (num den : Nat) : Float :=
  if num = 0 ∨ den = 0 then zero negative
  else
    let exp := max (floorLog2 num den - fractionBits) minExp
    let mant := roundHalfEven (num * 2 ^ (-exp).toNat) (den * 2 ^ exp.toNat)
    if mant = 2 ^ (fractionBits + 1) then
      ofBitsNat (bitsOf negative (2 ^ fractionBits) (exp + 1))
    else
      ofBitsNat (bitsOf negative mant exp)

/-- The double nearest to a whole number. -/
def ofInt (i : Int) : Float := ofRatio (i < 0) i.natAbs 1

end Binary64

namespace Decimal

/-- The number of decimal digits of `n` (one for zero). -/
def digitCount (n : Nat) : Nat := (Nat.toDigits 10 n).length

/-- The double nearest to `± digits · 10^exp`. Values of 10^311 and more are infinite and
values below 10^-326 are zero, which spares the exact arithmetic huge powers. -/
def toFloat (negative : Bool) (d : Decimal) : Float :=
  let size : Int := (digitCount d.digits : Int) + d.exp
  if d.digits = 0 ∨ size < -326 then Binary64.zero negative
  else if size > 311 then Binary64.infinity negative
  else Binary64.ofRatio negative (d.digits * 10 ^ d.exp.toNat) (10 ^ (-d.exp).toNat)

end Decimal

end ControlLoop
