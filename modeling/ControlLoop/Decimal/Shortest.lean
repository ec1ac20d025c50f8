import ControlLoop.Decimal.Basic

namespace ControlLoop

/-! # The shortest decimal that reads back as a double

A finite double `mant · 2^exp` is the nearest double to every real in an interval around
it: half a gap up and half a gap down, where the gap below is half as wide when `mant` is
the smallest normal mantissa. The ends belong to it when `mant` is even, since ties round
to the even mantissa. The shortest decimal is found by trying grids `10^k` from coarse to
fine: on each grid only the two neighbours of the value can be closest, and if any grid
point lies in the interval, one of those two does. Of two neighbours inside, the nearer
wins; an exact tie is settled by a `Tie` rule, either the even digit string or the one of
larger magnitude.

All comparisons are made on natural numbers: at scale `s` the interval ends and the value
are `x · 2^s` for whole `x`, and `gridDen`, `gridNum` put `c · 10^k` and `x · 2^s` over one
denominator.
-/

namespace Decimal

/-- The denominator that `c · 10^k` is compared with `x · 2^s` through:
`c · 10^k ≤ x · 2^s ↔ c * gridDen s k ≤ gridNum s k x`. -/
def gridDen (s k : Int) : Nat := 10 ^ k.toNat * 2 ^ (-s).toNat

/-- The numerator that `x · 2^s` becomes on the common denominator of `gridDen`. -/
def gridNum (s k : Int) (x : Nat) : Nat := x * 2 ^ s.toNat * 10 ^ (-k).toNat

/-- The reals that round to a double, as whole multiples of `2^scale`: from `lower` to
`upper`, around `value`, with both ends included when `closed`. -/
structure Interval where
  scale : Int
  lower : Nat
  value : Nat
  upper : Nat
  closed : Bool

/-- How a tie between the two neighbours on a grid, equally near the value, is settled. -/
inductive Tie where
  /-- The neighbour whose last digit is even. -/
  | even
  /-- The neighbour of larger magnitude. -/
  | up
  deriving DecidableEq, Repr

/-- The rounding interval of `mant · 2^exp`; multiplying by four keeps the quarter gap of
the smallest normal mantissa whole. -/
def Interval.around (mant : Nat) (exp : Int) : Interval :=
  let narrowBelow := mant = 2 ^ Binary64.fractionBits ∧ exp > Binary64.minExp
  { scale := exp - 2
    lower := 4 * mant - (if narrowBelow then 1 else 2)
    value := 4 * mant
    upper := 4 * mant + 2
    closed := mant % 2 = 0 }

/-- Whether `c · 10^k` lies in the interval. -/
def Interval.holds (i : Interval) (k : Int) (c : Nat) : Bool :=
  let point := c * gridDen i.scale k
  let lo := gridNum i.scale k i.lower
  let hi := gridNum i.scale k i.upper
  if i.closed then lo ≤ point && point ≤ hi else lo < point && point < hi

/-- The grid point of `10^k` that is nearest to the value among those in the interval, if
either neighbour of the value is in it; a tie is settled by `tie`. -/
def Interval.pick (i : Interval) (tie : Tie) (k : Int) : Option Nat :=
  let den := gridDen i.scale k
  let v := gridNum i.scale k i.value
  let below := v / den
  let above := below + 1
  match i.holds k below, i.holds k above with
  | true, true =>
    let dBelow := v - below * den
    let dAbove := above * den - v
    if dBelow < dAbove then some below
    else if dAbove < dBelow then some above
    else match tie with
      | .even => if below % 2 = 0 then some below else some above
      | .up => some above
  | true, false => some below
  | false, true => some above
  | false, false => none

/-- Whether `10^k` is at most the value. -/
def Interval.powLe (i : Interval) (k : Int) : Bool :=
  gridDen i.scale k ≤ gridNum i.scale k i.value

/-- Raises a guess of the value's decimal exponent while the next power still fits. -/
def Interval.raiseExp (i : Interval) : Nat → Int → Int
  | 0, e => e
  | fuel + 1, e => if i.powLe (e + 1) then i.raiseExp fuel (e + 1) else e

/-- Lowers a guess of the value's decimal exponent until its power fits. -/
def Interval.lowerExp (i : Interval) : Nat → Int → Int
  | 0, e => e
  | fuel + 1, e => if i.powLe e then e else i.lowerExp fuel (e - 1)

/-- `⌊log10 value⌋`: a guess from the binary length (`78913 / 2^18` is just below
`log10 2`), corrected by exact comparison. -/
def Interval.leadExp (i : Interval) : Int :=
  let bits : Int := (Nat.log2 i.value : Int) + i.scale
  let guess := bits * 78913 / 262144
  i.raiseExp 4 (i.lowerExp 4 guess)

/-- Drops trailing zero digits, moving them into the exponent. -/
def trim : Nat → Decimal → Decimal
  | 0, d => d
  | fuel + 1, d =>
    if d.digits ≠ 0 ∧ d.digits % 10 = 0 then trim fuel ⟨d.digits / 10, d.exp + 1⟩ else d

/-- The first grid, from `10^lead` down by seventeen steps, with a point in the interval.
Seventeen significant digits always single out a double. -/
def Interval.firstHit (i : Interval) (tie : Tie) (lead : Int) : Decimal :=
  let found := (List.range 18).findSome? fun (n : Nat) =>
    (i.pick tie (lead - n)).map fun c => (⟨c, lead - n⟩ : Decimal)
  found.getD ⟨i.value / 4, i.scale + 2⟩

/-- The shortest decimal of `mant · 2^exp`, nearest to it among the shortest with ties
settled by `tie`, without trailing zeros. -/
def shortest (tie : Tie) (mant : Nat) (exp : Int) : Decimal :=
  let i := Interval.around mant exp
  trim 20 (i.firstHit tie i.leadExp)

end Decimal

end ControlLoop
