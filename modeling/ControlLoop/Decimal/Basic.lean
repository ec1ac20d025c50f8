import ControlLoop.Power

namespace ControlLoop

/-! # Decimals and the parts of a double

A `Decimal` is a digit string with a power-of-ten exponent. `Binary64.shape` splits a
double into its sign and exact value `mant · 2^exp`, read straight off its bit pattern, so
that every rounding question about it becomes a question about natural numbers.
-/

/-- The number `digits · 10^exp`. -/
structure Decimal where
  digits : Nat
  exp : Int
  deriving Repr, DecidableEq, Inhabited

namespace Binary64

/-- What a bit pattern of a double stands for. -/
inductive Shape where
  | nan
  | infinite (negative : Bool)
  | zero (negative : Bool)
  /-- The nonzero value `± mant · 2^exp`, with `mant < 2^53`. -/
  | finite (negative : Bool) (mant : Nat) (exp : Int)
  deriving Repr, DecidableEq

/-- Number of fraction bits of a double. -/
def fractionBits : Nat := 52

/-- The exponent of the least subnormal, `2^-1074`. -/
def minExp : Int := -1074

/-- Splits a bit pattern: sign bit, eleven exponent bits, fifty-two fraction bits. An
exponent field of zero holds subnormals, which have no hidden bit. -/
def shapeOfBits (bits : Nat) : Shape :=
  let negative := decide (bits / 2 ^ 63 % 2 = 1)
  let field := bits / 2 ^ fractionBits % 2048
  let frac := bits % 2 ^ fractionBits
  if field = 2047 then
    if frac = 0 then .infinite negative else .nan
  else if field = 0 then
    if frac = 0 then .zero negative else .finite negative frac minExp
  else
    .finite negative (frac + 2 ^ fractionBits) ((field : Int) - 1075)

/-- The shape of a double. -/
def shape (x : Float) : Shape := shapeOfBits x.toBits.toNat

/-- The bit pattern of `± mant · 2^exp` for a mantissa already rounded to fit: a mantissa
below `2^52` is a subnormal (its exponent is then `minExp`), and an exponent past the
largest finite one gives infinity. -/
def bitsOf (negative : Bool) (mant : Nat) (exp : Int) : Nat :=
  let sign := if negative then 2 ^ 63 else 0
  if mant < 2 ^ fractionBits then sign + mant
  else
    let field := exp + 1075
    if field ≥ 2047 then sign + 2047 * 2 ^ fractionBits
    else sign + field.toNat * 2 ^ fractionBits + (mant - 2 ^ fractionBits)

/-- The double with the given bit pattern. -/
def ofBitsNat (bits : Nat) : Float := Float.ofBits (UInt64.ofNat bits)

/-- A signed zero. -/
def zero (negative : Bool) : Float := ofBitsNat (if negative then 2 ^ 63 else 0)

/-- A signed infinity. -/
def infinity (negative : Bool) : Float := ofBitsNat (bitsOf negative (2 ^ 53 - 1) 2000)

/-- The quiet NaN with an empty payload. -/
def nan : Float := ofBitsNat 0x7FF8000000000000

end Binary64

end ControlLoop
