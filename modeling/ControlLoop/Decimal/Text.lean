import ControlLoop.Decimal.Shortest

namespace ControlLoop

/-! # Writing a double as text

Every format writes the shortest decimal of the value; what differs is a `FloatFormat`
record: how a tie between two shortest decimals is settled, which leading exponents are
written with an exponent mark, whether an integral value keeps `.0`, and the words for NaN
and infinity. A value is positional when its
leading exponent `⌊log10 |x|⌋` lies inside the format's range, and otherwise one digit,
the rest after a point, then `e` and the leading exponent.
-/

/-- The choices of one way of writing doubles. -/
structure FloatFormat where
  /-- How a tie between two shortest decimals equally near the value is settled. -/
  tie : Decimal.Tie
  /-- Leading exponents below this are written with an exponent, when given. -/
  sciBelow : Option Int
  /-- Leading exponents from this one up are written with an exponent, when given. -/
  sciFrom : Option Int
  /-- An integral value written positionally ends in `.0`. -/
  pointZero : Bool
  nanText : String := "NaN"
  infText : String := "inf"

namespace FloatFormat

/-- Plain text of a number: never an exponent, integral values without a point, a tie
settled upward. -/
def plain : FloatFormat := ⟨.up, none, none, false, "NaN", "inf"⟩

/-- Text that shows a value is a float: positional from `1e-4` up to below `1e16`, always
with a point, a tie settled upward. -/
def marked : FloatFormat := ⟨.up, some (-4), some 16, true, "NaN", "inf"⟩

/-- Data-file text: positional from `1e-5` up to below `1e16`, always with a point, a tie
settled to the even digit. Also the number text of JSON answers. -/
def data : FloatFormat := ⟨.even, some (-5), some 16, true, "NaN", "inf"⟩

/-- `n` zero characters. -/
def zeros (n : Nat) : String := String.ofList (List.replicate n '0')

/-- Positional text of `digits · 10^exp` from its digit string. -/
def positional (f : FloatFormat) (ds : List Char) (exp : Int) : String :=
  if exp ≥ 0 then
    String.ofList ds ++ zeros exp.toNat ++ (if f.pointZero then ".0" else "")
  else
    let lead : Int := (ds.length : Int) + exp
    if lead > 0 then
      String.ofList (ds.take lead.toNat) ++ "." ++ String.ofList (ds.drop lead.toNat)
    else
      "0." ++ zeros (-lead).toNat ++ String.ofList ds

/-- Text with an exponent mark: the first digit, the others after a point, then `e` and
the leading exponent. -/
def scientific (ds : List Char) (lead : Int) : String :=
  match ds with
  | [] => "0e0"
  | [d] => String.ofList [d] ++ "e" ++ toString lead
  | d :: rest => String.ofList [d] ++ "." ++ String.ofList rest ++ "e" ++ toString lead

/-- Whether a leading exponent is written with an exponent mark. -/
def usesExponent (f : FloatFormat) (lead : Int) : Bool :=
  (match f.sciBelow with | some b => decide (lead < b) | none => false) ||
  (match f.sciFrom with | some t => decide (lead ≥ t) | none => false)

/-- The text of a decimal with the given sign. -/
def decimal (f : FloatFormat) (negative : Bool) (d : Decimal) : String :=
  let ds := Nat.toDigits 10 d.digits
  let lead : Int := (ds.length : Int) + d.exp - 1
  let body :=
    if d.digits ≠ 0 ∧ f.usesExponent lead then scientific ds lead else f.positional ds d.exp
  (if negative then "-" else "") ++ body

/-- The text of a double. -/
def render (f : FloatFormat) (x : Float) : String :=
  match Binary64.shape x with
  | .nan => f.nanText
  | .infinite negative => (if negative then "-" else "") ++ f.infText
  | .zero negative => f.decimal negative ⟨0, 0⟩
  | .finite negative mant exp => f.decimal negative (Decimal.shortest f.tie mant exp)

end FloatFormat

end ControlLoop
