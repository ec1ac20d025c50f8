import ControlLoop.Proofs.FloatMagnitude
import ControlLoop.Proofs.ShortestDecimal
import ControlLoop.Decimal.Read
import ControlLoop.Decimal.Text

/-! # Doubles read back from their text

Every format writes a double so that the number reader gives the same double back
(`FloatFormat.readFloat?_render`), whatever its tie rule and its positional range, as long
as it spells NaN and infinity as the reader does.

## Stages

  * bit patterns: a double is the one its shape describes, and a finite shape is canonical
    (`Binary64.eq_of_shape_finite`); the only NaN is the quiet one;
  * the reader's range: every decimal in the rounding interval of a finite double has a size
    between `-326` and `311`, so the reader rounds it by `ofRatio`, back to that double
    (`Decimal.toFloat_of_mem`);
  * text: positional and scientific text, with or without a minus, read back as a decimal of
    the same value (`Decimal.numeral_decimal`, `Decimal.readFloat?_signed`);
  * doubles by their bits: a double kept as its 64 bits and passed through a `Float` keeps
    them, except that a NaN becomes the quiet NaN (`Double.ofFloat_toFloat`), so its text
    reads back as that (`Decimal.readDouble?_render`).
-/

open Float.Model Float.Model.UnpackedFloat

namespace ControlLoop

namespace Binary64

/-! ## §1. Doubles and their shapes -/

/-- The fraction field of a bit pattern. -/
theorem unpackMantissa_toNat (b : ℕ) :
    (@unpackMantissa Format.binary64 (UInt64.ofNat b).toBitVec).toNat = b % 2 ^ 64 % 2 ^ 52 := by
  simp [unpackMantissa, BitVec.extractLsb_toNat]

/-- A double is the double of its own bit pattern. -/
theorem ofBitsNat_toBits (x : Float) : ofBitsNat x.toBits.toNat = x := by
  rw [ofBitsNat, UInt64.ofNat_toNat, Float.ofBits_toBits]

/-- A bit pattern with a finite nonzero shape is the pattern `bitsOf` makes of it, and the
shape is canonical. -/
theorem shapeOfBits_finite {b : ℕ} (hb : b < 2 ^ 64) {neg : Bool} {m : ℕ} {e : ℤ}
    (h : shapeOfBits b = .finite neg m e) : bitsOf neg m e = b ∧ Canonical m e := by
  unfold shapeOfBits at h
  dsimp only [fractionBits] at h
  -- the infinities, the NaNs and the zeros are other shapes
  split_ifs at h with hinf hzero
  · -- a subnormal: no hidden bit, the least exponent
    cases h
    simp only [bitsOf, fractionBits]
    simp only [Nat.reducePow] at *
    refine ⟨?_, ⟨by omega, by omega, .inr rfl, le_rfl, by decide⟩⟩
    rw [if_pos (by omega)]
    split_ifs with hs <;> simp only [decide_eq_true_eq] at hs <;> omega
  · -- a normal double: the hidden bit, and the exponent field less the bias
    cases h
    simp only [bitsOf, fractionBits]
    simp only [Nat.reducePow] at *
    refine ⟨?_, ⟨by omega, by omega, .inl (by omega), by simp only [minExp]; omega,
      by omega⟩⟩
    rw [if_neg (by omega), if_neg (by omega)]
    split_ifs with hs <;> simp only [decide_eq_true_eq] at hs <;> omega

/-- A bit pattern of zero shape is the sign bit alone. -/
theorem shapeOfBits_zero {b : ℕ} (hb : b < 2 ^ 64) {neg : Bool} (h : shapeOfBits b = .zero neg) :
    (if neg then 2 ^ 63 else 0) = b := by
  unfold shapeOfBits at h
  dsimp only [fractionBits] at h
  split_ifs at h with hinf hzero hfrac
  cases h
  simp only [Nat.reducePow] at *
  split_ifs with hs <;> simp only [decide_eq_true_eq] at hs <;> omega

/-- A bit pattern of infinite shape is the sign bit and an exponent field of all ones. -/
theorem shapeOfBits_infinite {b : ℕ} (hb : b < 2 ^ 64) {neg : Bool}
    (h : shapeOfBits b = .infinite neg) : bitsOf neg (2 ^ 53 - 1) 2000 = b := by
  unfold shapeOfBits at h
  dsimp only [fractionBits] at h
  split_ifs at h with hinf hfrac
  cases h
  simp only [bitsOf, fractionBits]
  simp only [Nat.reducePow] at *
  rw [if_neg (by omega), if_pos (by omega)]
  split_ifs with hs <;> simp only [decide_eq_true_eq] at hs <;> omega

/-- A double of finite nonzero shape is the double of `bitsOf` on its shape, and the shape is
canonical. -/
theorem eq_of_shape_finite {x : Float} {neg : Bool} {m : ℕ} {e : ℤ}
    (h : shape x = .finite neg m e) : x = ofBitsNat (bitsOf neg m e) ∧ Canonical m e := by
  obtain ⟨hb, hc⟩ := shapeOfBits_finite (UInt64.toNat_lt x.toBits) h
  exact ⟨by rw [hb, ofBitsNat_toBits], hc⟩

/-- A double of zero shape is the signed zero. -/
theorem eq_of_shape_zero {x : Float} {neg : Bool} (h : shape x = .zero neg) : x = zero neg := by
  rw [zero, shapeOfBits_zero (UInt64.toNat_lt x.toBits) h, ofBitsNat_toBits]

/-- A double of infinite shape is the signed infinity. -/
theorem eq_of_shape_infinite {x : Float} {neg : Bool} (h : shape x = .infinite neg) :
    x = infinity neg := by
  rw [infinity, shapeOfBits_infinite (UInt64.toNat_lt x.toBits) h, ofBitsNat_toBits]

/-- A bit pattern of NaN shape has an exponent field of all ones and a fraction that is not
zero. -/
theorem shapeOfBits_eq_nan {b : ℕ} :
    shapeOfBits b = .nan ↔ b / 2 ^ 52 % 2048 = 2047 ∧ b % 2 ^ 52 ≠ 0 := by
  unfold shapeOfBits
  dsimp only [fractionBits]
  split_ifs <;> simp_all

/-- A double of NaN shape is the quiet NaN: a `Float` holds no other NaN. -/
theorem eq_of_shape_nan {x : Float} (h : shape x = .nan) : x = nan := by
  have hb := UInt64.toNat_lt x.toBits
  have hfield := shapeOfBits_eq_nan.1 h
  have hexp := unpackExponent_toNat x.toBits.toNat
  have hmant := unpackMantissa_toNat x.toBits.toNat
  have hbits : x.toModel.toBits = x.toBits := rfl
  rw [UInt64.ofNat_toNat, Nat.mod_eq_of_lt hb, ← hbits] at hexp hmant
  -- so the validity of the double makes its bits the quiet NaN's
  have hnan := x.toModel.valid.eq_packedNaN (BitVec.eq_of_toNat_eq (by rw [hexp, hbits, hfield.1]; rfl))
    (fun h0 => hfield.2 (by rw [← hbits, ← hmant, h0]; rfl))
  refine Float.toBits_inj.1 (UInt64.toBitVec_inj.1 ?_)
  rw [← hbits, hnan]
  decide +kernel

/-- The rounding interval of a finite double lies between `2 ^ -1075` and `2 ^ 1024`. -/
theorem bounds_of_mem {m : ℕ} {e : ℤ} {q : ℚ} (hc : Canonical m e)
    (hq : (Decimal.Interval.around m e).Mem q) : (2 : ℚ) ^ (-1075 : ℤ) ≤ q ∧ q < 2 ^ (1024 : ℤ) := by
  have hx := nearMantissa_of_mem hc.pos hq
  have he : (0 : ℚ) < 2 ^ e := by positivity
  have hmQ : (1 : ℚ) ≤ m := by exact_mod_cast hc.pos
  have hm53 : (m : ℚ) + 1 / 2 < 2 ^ (53 : ℤ) := by
    rw [zpow_ofNat]
    exact hc.add_half_lt
  have hemin : (2 : ℚ) ^ (-1074 : ℤ) ≤ 2 ^ e := zpow_le_zpow_right₀ one_le_two hc.exp_ge
  have hemax : (2 : ℚ) ^ e ≤ 2 ^ (971 : ℤ) := zpow_le_zpow_right₀ one_le_two hc.exp_le
  constructor
  · calc (2 : ℚ) ^ (-1075 : ℤ) = 2 ^ (-1074 : ℤ) * (1 / 2) := by
          rw [show (-1075 : ℤ) = -1074 - 1 by norm_num, zpow_sub₀ two_ne_zero, zpow_one]; ring
      _ ≤ 2 ^ e * (m - 1 / 2) := by gcongr; linarith
      _ ≤ q := by rw [mul_comm]; exact (le_div_iff₀ he).1 hx.lo
  · calc q ≤ (m + 1 / 2) * 2 ^ e := (div_le_iff₀ he).1 hx.hi
      _ < 2 ^ (53 : ℤ) * 2 ^ (971 : ℤ) := mul_lt_mul hm53 hemax he (by positivity)
      _ = 2 ^ (1024 : ℤ) := by rw [← zpow_add₀ two_ne_zero]; norm_num

end Binary64

namespace Decimal

open Binary64

/-! ## §2. The reader's range -/

/-- `digitCount` bounds a number by a power of ten. -/
theorem digitCount_le_iff {n k : ℕ} (hk : 0 < k) : digitCount n ≤ k ↔ n < 10 ^ k :=
  Nat.length_toDigits_le_iff (by decide) hk

/-- A positive number lies between the powers of ten its digit count gives. -/
theorem digitCount_bounds {n : ℕ} (hn : 0 < n) :
    10 ^ (digitCount n - 1) ≤ n ∧ n < 10 ^ digitCount n := by
  have hpos : 0 < digitCount n := Nat.length_toDigits_pos
  refine ⟨?_, (digitCount_le_iff hpos).1 le_rfl⟩
  rcases Nat.lt_or_ge 1 (digitCount n) with h1 | h1
  · -- one digit fewer is too few
    refine Nat.le_of_not_lt fun hlt => ?_
    have := (digitCount_le_iff (by omega)).2 hlt
    omega
  · rw [show digitCount n - 1 = 0 by omega, pow_zero]
    exact hn

/-- A decimal with a positive digit string lies between the powers of ten at its size. -/
theorem toRat_bounds {d : Decimal} (hd : 0 < d.digits) :
    (10 : ℚ) ^ ((digitCount d.digits : ℤ) + d.exp - 1) ≤ d.toRat ∧
      d.toRat < 10 ^ ((digitCount d.digits : ℤ) + d.exp) := by
  obtain ⟨hlo, hhi⟩ := digitCount_bounds hd
  have hpos : 0 < digitCount d.digits := Nat.length_toDigits_pos
  have h10 : (0 : ℚ) < 10 ^ d.exp := by positivity
  rw [toRat]
  constructor
  · rw [show (digitCount d.digits : ℤ) + d.exp - 1 = ((digitCount d.digits - 1 : ℕ) : ℤ) + d.exp
      by omega, zpow_add₀ (by norm_num), zpow_natCast]
    exact mul_le_mul_of_nonneg_right (by exact_mod_cast hlo) h10.le
  · rw [zpow_add₀ (by norm_num), zpow_natCast]
    exact mul_lt_mul_of_pos_right (by exact_mod_cast hhi) h10

/-- The quotient the reader rounds is the decimal's value. -/
theorem ratio_eq_toRat (d : Decimal) :
    ((d.digits * 10 ^ d.exp.toNat : ℕ) : ℚ) / ((10 ^ (-d.exp).toNat : ℕ) : ℚ) = d.toRat := by
  rw [toRat, zpow_eq_div_toNat]
  push_cast
  ring

/-- The range of finite doubles within powers of ten: `2 ^ 1075 ≤ 10 ^ 326` and
`2 ^ 1024 ≤ 10 ^ 311`. -/
theorem two_pow_le_ten_pow : (2 : ℚ) ^ 1075 ≤ 10 ^ 326 ∧ (2 : ℚ) ^ 1024 ≤ 10 ^ 311 := by
  have h1 : ((2 ^ 1075 : ℕ) : ℚ) ≤ ((10 ^ 326 : ℕ) : ℚ) := Nat.cast_le.2 (by decide +kernel)
  have h2 : ((2 ^ 1024 : ℕ) : ℚ) ≤ ((10 ^ 311 : ℕ) : ℚ) := Nat.cast_le.2 (by decide +kernel)
  rw [Nat.cast_pow, Nat.cast_pow, Nat.cast_ofNat, Nat.cast_ofNat] at h1 h2
  exact ⟨h1, h2⟩

/-- Every decimal in the rounding interval of a finite double reads as that double: its size
is inside the reader's range, so the reader rounds it by `ofRatio`. -/
theorem toFloat_of_mem {neg : Bool} {d : Decimal} {m : ℕ} {e : ℤ} (hc : Canonical m e)
    (hd : (Interval.around m e).Mem d.toRat) : toFloat neg d = ofBitsNat (bitsOf neg m e) := by
  obtain ⟨hlo, hhi⟩ := Binary64.bounds_of_mem hc hd
  have hpos : 0 < d.digits := by
    refine Nat.pos_of_ne_zero fun h0 => ?_
    rw [toRat, h0, Nat.cast_zero, zero_mul] at hlo
    exact absurd hlo (not_le.2 (by positivity))
  obtain ⟨hsize_lo, hsize_hi⟩ := toRat_bounds hpos
  set size : ℤ := (digitCount d.digits : ℤ) + d.exp
  have hten := two_pow_le_ten_pow
  -- a size below `-326` puts the value under `10 ^ -326 ≤ 2 ^ -1075`
  have hsmall : ¬ size < -326 := fun h => by
    have h1 : (10 : ℚ) ^ size ≤ 10 ^ (-326 : ℤ) := zpow_le_zpow_right₀ (by norm_num) h.le
    have h2 : (10 : ℚ) ^ (-326 : ℤ) ≤ 2 ^ (-1075 : ℤ) := by
      rw [zpow_neg, zpow_neg, inv_le_inv₀ (by positivity) (by positivity)]
      exact_mod_cast hten.1
    linarith
  -- a size above `311` puts it over `10 ^ 311 ≥ 2 ^ 1024`
  have hlarge : ¬ size > 311 := fun h => by
    have h1 : (10 : ℚ) ^ (311 : ℤ) ≤ 10 ^ (size - 1) := zpow_le_zpow_right₀ (by norm_num) (by omega)
    have h2 : (2 : ℚ) ^ (1024 : ℤ) ≤ 10 ^ (311 : ℤ) := by exact_mod_cast hten.2
    exact absurd (h2.trans (h1.trans hsize_lo)) (not_le.2 hhi)
  unfold toFloat
  rw [if_neg (not_or.2 ⟨hpos.ne', hsmall⟩), if_neg hlarge]
  exact ofRatio_eq_of_mem hc (by rwa [ratio_eq_toRat])

/-- A decimal of value zero reads as the signed zero. -/
theorem toFloat_of_toRat_eq_zero {neg : Bool} {d : Decimal} (hd : d.toRat = 0) :
    toFloat neg d = zero neg := by
  have h0 : d.digits = 0 := by
    rcases mul_eq_zero.1 hd with h | h
    · exact_mod_cast h
    · exact absurd h (zpow_ne_zero _ (by norm_num))
  unfold toFloat
  rw [if_pos (.inl h0)]

/-! ## §3. Text read back -/

/-- A digit is its own lower case. -/
theorem toLower_of_isDigit {c : Char} (h : c.isDigit = true) : c.toLower = c := by
  unfold Char.toLower
  rw [dif_neg]
  simp only [Char.isDigit, Bool.and_eq_true, decide_eq_true_eq, UInt32.le_iff_toNat_le] at h
  rintro ⟨hA, -⟩
  rw [ge_iff_le, UInt32.le_iff_toNat_le] at hA
  have : ('9' : Char).val.toNat < ('A' : Char).val.toNat := by decide
  omega

/-- A list that does not begin with a sign keeps it. -/
theorem splitSign_of_isDigit {cs : List Char} (h : ∀ c ∈ cs.head?, c.isDigit = true) :
    splitSign cs = (false, cs) := by
  unfold splitSign
  split
  · simp_all
  · simp_all
  · rfl

/-- `digitsValue` is the library's reading of decimal digit characters. -/
theorem digitsValue_eq (ds : List Char) : digitsValue ds = Nat.ofDigitChars 10 ds 0 := rfl

@[simp]
theorem digitsValue_toDigits (n : ℕ) : digitsValue (Nat.toDigits 10 n) = n :=
  Nat.ofDigitChars_ten_toDigits

theorem digitsValue_append (l m : List Char) :
    digitsValue (l ++ m) = 10 ^ m.length * digitsValue l + digitsValue m := by
  rw [digitsValue_eq, Nat.ofDigitChars_append, Nat.ofDigitChars_eq_ofDigitChars_zero]
  rfl

@[simp]
theorem digitsValue_replicate_zero (k : ℕ) : digitsValue (List.replicate k '0') = 0 := by
  rw [digitsValue_eq, Nat.ofDigitChars_replicate_zero, Nat.mul_zero]

/-- The digits before a non-digit are split off whole. -/
theorem spanDigits_append {ds rest : List Char} (hds : ∀ c ∈ ds, c.isDigit = true)
    (hrest : ∀ c ∈ rest.head?, c.isDigit = false) : spanDigits (ds ++ rest) = (ds, rest) := by
  have hstop : rest.takeWhile Char.isDigit = [] ∧ rest.dropWhile Char.isDigit = rest := by
    cases rest with
    | nil => exact ⟨rfl, rfl⟩
    | cons c cs =>
      have hc : ¬ c.isDigit = true := by simp [hrest c rfl]
      exact ⟨List.takeWhile_cons_of_neg hc, List.dropWhile_cons_of_neg hc⟩
  rw [spanDigits, List.takeWhile_append_of_pos hds, List.dropWhile_append_of_pos hds, hstop.1,
    hstop.2, List.append_nil]

theorem isDigit_of_mem_toDigits {n : ℕ} : ∀ c ∈ Nat.toDigits 10 n, c.isDigit = true :=
  fun _ hc => Nat.isDigit_of_mem_toDigits (by decide) (by decide) hc

/-- The exponent reader reads the text of an integer back. -/
theorem readExponent_toString (i : ℤ) : readExponent (toString i).toList = some i := by
  have hspan (n : ℕ) : spanDigits (Nat.toDigits 10 n) = (Nat.toDigits 10 n, []) := by
    simpa using @spanDigits_append _ [] isDigit_of_mem_toDigits (by simp)
  have hhead (n : ℕ) : ∀ c ∈ (Nat.toDigits 10 n).head?, c.isDigit = true :=
    fun c hc => isDigit_of_mem_toDigits c (List.mem_of_mem_head? hc)
  rw [Int.toString_eq_repr, Int.repr_eq_if]
  split_ifs with h
  · simp [readExponent, splitSign_of_isDigit (hhead _), hspan, h]
  · simp [readExponent, splitSign, hspan]
    omega

/-- The number reader on digits, an optional point with more digits, and an optional exponent
mark with the text of an integer. -/
theorem readUnsigned_parts {whole frac point mark : List Char} {i : ℤ}
    (hw : ∀ c ∈ whole, c.isDigit = true) (hf : ∀ c ∈ frac, c.isDigit = true)
    (hne : whole ≠ [] ∨ frac ≠ [])
    (hp : point = [] ∧ frac = [] ∨ point = '.' :: frac)
    (hm : mark = [] ∧ i = 0 ∨ mark = 'e' :: (toString i).toList) :
    readUnsigned (whole ++ point ++ mark) =
      some ⟨digitsValue (whole ++ frac), i - frac.length⟩ := by
  -- neither the point nor the mark begins with a digit
  have hmark : ∀ c ∈ mark.head?, c.isDigit = false := by
    rcases hm with ⟨rfl, -⟩ | rfl <;> simp
  have hexp : ∀ c ∈ (point ++ mark).head?, c.isDigit = false := by
    rcases hp with ⟨rfl, -⟩ | rfl
    · simpa using hmark
    · simp
  have hwe : (whole.isEmpty && frac.isEmpty) = false := by
    rcases hne with h | h <;> simp [h]
  rw [List.append_assoc]
  unfold readUnsigned
  rw [spanDigits_append hw hexp]
  rcases hp with ⟨rfl, rfl⟩ | rfl <;> rcases hm with ⟨rfl, rfl⟩ | rfl
  · simp only [List.nil_append, hwe]
    rfl
  · -- the mark follows the whole part directly
    have hw' : whole ≠ [] := hne.resolve_right fun h => h rfl
    simp [hw', readExponent_toString, -Int.toString_eq_repr]
  · simp only [List.cons_append, spanDigits_append hf hmark, hwe]
    rfl
  · simp only [List.cons_append, spanDigits_append hf hmark, hwe, readExponent_toString]
    rfl

/-- `cs` is unsigned number text of value `q`: it begins with a digit, and the number reader
gives a decimal of value `q`. -/
structure Numeral (cs : List Char) (q : ℚ) : Prop where
  head : ∀ c ∈ cs.head?, c.isDigit = true
  reads : ∃ d, readUnsigned cs = some d ∧ d.toRat = q

/-- Digits, an optional point with more digits, and an optional exponent are number text of
the value they spell. -/
theorem numeral_parts {whole frac point mark : List Char} {i : ℤ} {q : ℚ}
    (hw : ∀ c ∈ whole, c.isDigit = true) (hf : ∀ c ∈ frac, c.isDigit = true) (hne : whole ≠ [])
    (hp : point = [] ∧ frac = [] ∨ point = '.' :: frac)
    (hm : mark = [] ∧ i = 0 ∨ mark = 'e' :: (toString i).toList)
    (hq : (⟨digitsValue (whole ++ frac), i - frac.length⟩ : Decimal).toRat = q) :
    Numeral (whole ++ point ++ mark) q where
  head := by
    obtain ⟨c, cs, rfl⟩ := List.exists_cons_of_ne_nil hne
    simpa using hw c (by simp)
  reads := ⟨_, readUnsigned_parts hw hf (.inl hne) hp hm, hq⟩

/-- Two decimals of one digit string and equal exponents have one value. -/
theorem toRat_congr_exp (n : ℕ) {e e' : ℤ} (h : e = e') :
    (⟨n, e⟩ : Decimal).toRat = (⟨n, e'⟩ : Decimal).toRat := by
  rw [h]

/-- Zeros written after digits scale them by a power of ten. -/
theorem toRat_append_zeros (n k : ℕ) (e : ℤ) :
    (⟨digitsValue (Nat.toDigits 10 n ++ List.replicate k '0'), e⟩ : Decimal).toRat =
      (⟨n, e + k⟩ : Decimal).toRat := by
  rw [toRat, toRat, digitsValue_append, digitsValue_replicate_zero, digitsValue_toDigits,
    List.length_replicate, Nat.add_zero, zpow_add₀ (by norm_num), zpow_natCast]
  push_cast
  ring

/-- Positional text of `n · 10 ^ exp` reads back as that number. -/
theorem numeral_positional (f : FloatFormat) (n : ℕ) (exp : ℤ) :
    Numeral (f.positional (Nat.toDigits 10 n) exp).toList (⟨n, exp⟩ : Decimal).toRat := by
  have hds := @isDigit_of_mem_toDigits n
  have hne : Nat.toDigits 10 n ≠ [] := Nat.toDigits_ne_nil
  have hzeros (k : ℕ) : ∀ c ∈ List.replicate k '0', c.isDigit = true := by
    intro c hc
    rw [List.eq_of_mem_replicate hc]
    rfl
  unfold FloatFormat.positional
  split_ifs with hexp hpoint
  · -- an integral value ending in `.0`: the zero after the point is one more trailing zero
    have htext : (String.ofList (Nat.toDigits 10 n) ++ FloatFormat.zeros exp.toNat ++ ".0").toList =
        (Nat.toDigits 10 n ++ List.replicate exp.toNat '0') ++ ['.', '0'] ++ [] := by
      simp [FloatFormat.zeros]
    rw [htext]
    refine numeral_parts (List.forall_mem_append.2 ⟨hds, hzeros _⟩) (hzeros 1)
      (by simp [hne]) (.inr rfl) (.inl ⟨rfl, rfl⟩) ?_
    rw [List.append_assoc, ← List.replicate_add, toRat_append_zeros, List.length_replicate]
    refine toRat_congr_exp _ ?_
    push_cast
    omega
  · -- an integral value without a point
    have htext : (String.ofList (Nat.toDigits 10 n) ++ FloatFormat.zeros exp.toNat ++ "").toList =
        (Nat.toDigits 10 n ++ List.replicate exp.toNat '0') ++ [] ++ [] := by
      simp [FloatFormat.zeros]
    rw [htext]
    refine numeral_parts (List.forall_mem_append.2 ⟨hds, hzeros _⟩) (by simp)
      (by simp [hne]) (.inl ⟨rfl, rfl⟩) (.inl ⟨rfl, rfl⟩) ?_
    rw [List.append_nil, toRat_append_zeros]
    refine toRat_congr_exp _ ?_
    simp only [List.length_nil]
    omega
  dsimp only
  set lead : ℤ := ((Nat.toDigits 10 n).length : ℤ) + exp
  split_ifs with hlead
  · -- the point falls inside the digits
    have htext : (String.ofList ((Nat.toDigits 10 n).take lead.toNat) ++ "." ++
        String.ofList ((Nat.toDigits 10 n).drop lead.toNat)).toList =
        (Nat.toDigits 10 n).take lead.toNat ++ '.' :: (Nat.toDigits 10 n).drop lead.toNat ++ [] := by
      simp
    rw [htext]
    refine numeral_parts (fun c hc => hds c (List.mem_of_mem_take hc))
      (fun c hc => hds c (List.mem_of_mem_drop hc)) ?_ (.inr rfl) (.inl ⟨rfl, rfl⟩) ?_
    · simp only [ne_eq, List.take_eq_nil_iff, hne, or_false]
      omega
    · rw [List.take_append_drop, digitsValue_toDigits, List.length_drop]
      refine toRat_congr_exp _ ?_
      omega
  · -- the point comes first, and zeros fill the places up to the digits
    have htext : ("0." ++ FloatFormat.zeros (-lead).toNat ++ String.ofList (Nat.toDigits 10 n)).toList =
        ['0'] ++ '.' :: (List.replicate (-lead).toNat '0' ++ Nat.toDigits 10 n) ++ [] := by
      simp [FloatFormat.zeros]
    rw [htext]
    refine numeral_parts (hzeros 1) (List.forall_mem_append.2 ⟨hzeros _, hds⟩) (by simp)
      (.inr rfl) (.inl ⟨rfl, rfl⟩) ?_
    rw [← List.append_assoc, List.singleton_append, ← List.replicate_succ, digitsValue_append,
      digitsValue_replicate_zero, digitsValue_toDigits, Nat.mul_zero, Nat.zero_add,
      List.length_append, List.length_replicate]
    refine toRat_congr_exp _ ?_
    omega

/-- Text with an exponent mark of `n · 10 ^ exp`, led by the exponent of its first digit,
reads back as that number. -/
theorem numeral_scientific (n : ℕ) (exp : ℤ) :
    Numeral (FloatFormat.scientific (Nat.toDigits 10 n)
      (((Nat.toDigits 10 n).length : ℤ) + exp - 1)).toList (⟨n, exp⟩ : Decimal).toRat := by
  have hval := digitsValue_toDigits n
  have hds := @isDigit_of_mem_toDigits n
  have hne : Nat.toDigits 10 n ≠ [] := Nat.toDigits_ne_nil
  generalize Nat.toDigits 10 n = ds at hval hds hne
  match ds, hne with
  | [d], _ =>
    -- one digit: no point
    have htext : (FloatFormat.scientific [d] (([d].length : ℤ) + exp - 1)).toList =
        [d] ++ [] ++ 'e' :: (toString (([d].length : ℤ) + exp - 1)).toList := by
      simp [FloatFormat.scientific]
    rw [htext]
    refine numeral_parts hds (by simp) (by simp) (.inl ⟨rfl, rfl⟩) (.inr rfl) ?_
    rw [List.append_nil, hval]
    refine toRat_congr_exp _ ?_
    simp
  | d :: d' :: rest, _ =>
    -- the first digit, a point, and the others
    have htext : (FloatFormat.scientific (d :: d' :: rest)
          (((d :: d' :: rest).length : ℤ) + exp - 1)).toList =
        [d] ++ '.' :: (d' :: rest) ++
          'e' :: (toString (((d :: d' :: rest).length : ℤ) + exp - 1)).toList := by
      simp [FloatFormat.scientific]
    rw [htext]
    refine numeral_parts (fun c hc => hds c (by simp_all)) (fun c hc => hds c (by simp_all))
      (by simp) (.inr rfl) (.inr rfl) ?_
    rw [List.singleton_append, hval]
    refine toRat_congr_exp _ ?_
    simp only [List.length_cons]
    push_cast
    ring

/-- The text of a decimal without its sign is number text of its value. -/
theorem numeral_decimal (f : FloatFormat) (d : Decimal) :
    Numeral (f.decimal false d).toList d.toRat := by
  unfold FloatFormat.decimal
  rw [if_neg Bool.false_ne_true, String.toList_append]
  split_ifs
  · exact numeral_scientific d.digits d.exp
  · exact numeral_positional f d.digits d.exp

/-- The sign of a decimal's text is a minus before the text of its magnitude. -/
theorem decimal_eq_sign (f : FloatFormat) (neg : Bool) (d : Decimal) :
    f.decimal neg d = (if neg then "-" else "") ++ f.decimal false d := by
  simp [FloatFormat.decimal]

/-- Number text behind an optional minus reads as the double the reader rounds its value to:
text that begins with a digit spells no word for infinity or NaN. -/
theorem readFloat?_signed {neg : Bool} {s : String} {q : ℚ} (h : Numeral s.toList q) :
    ∃ d : Decimal, readFloat? ((if neg then "-" else "") ++ s) = some (toFloat neg d) ∧
      d.toRat = q := by
  obtain ⟨d, hd, hq⟩ := h.reads
  refine ⟨d, ?_, hq⟩
  obtain ⟨c, cs, hcs⟩ : ∃ c cs, s.toList = c :: cs := by
    cases hs : s.toList with
    | nil => rw [hs] at hd; simp [readUnsigned, spanDigits] at hd
    | cons c cs => exact ⟨c, cs, rfl⟩
  have hc : c.isDigit = true := h.head c (by rw [hcs]; rfl)
  have hsign : splitSign ((if neg then "-" else "") ++ s).toList = (neg, s.toList) := by
    cases neg
    · simp only [Bool.false_eq_true, if_false, String.toList_append, hcs]
      exact splitSign_of_isDigit (by simpa using hc)
    · simp [splitSign]
  -- the lower-case text begins with the same digit, which no word does
  have hword : ∀ (w : String) (c' : Char), w.toList.head? = some c' →
      c'.isDigit = false → String.ofList (s.toList.map Char.toLower) ≠ w := by
    intro w c' hw hc' heq
    rw [← heq, String.toList_ofList, hcs, List.map_cons, toLower_of_isDigit hc, List.head?_cons,
      Option.some.injEq] at hw
    rw [← hw, hc] at hc'
    exact Bool.noConfusion hc'
  unfold readFloat?
  rw [hsign]
  dsimp only
  rw [if_neg (by simp [hword "inf" 'i' (by simp) rfl, hword "infinity" 'i' (by simp) rfl]),
    if_neg (by simp [hword "nan" 'n' (by simp) rfl]), hd]
  rfl

end Decimal

namespace FloatFormat

open Binary64 Decimal

/-- Every double written by a format that spells NaN and infinity as the number reader does
reads back as the same double: a finite double is written by a decimal in its rounding
interval, which the reader rounds back to it. -/
theorem readFloat?_render (f : FloatFormat) (hnan : f.nanText = "NaN") (hinf : f.infText = "inf")
    (x : Float) : readFloat? (f.render x) = some x := by
  unfold render
  cases hs : shape x with
  | nan =>
    dsimp only
    rw [eq_of_shape_nan hs, hnan]
    rfl
  | infinite neg =>
    dsimp only
    rw [eq_of_shape_infinite hs, hinf]
    cases neg <;> rfl
  | zero neg =>
    dsimp only
    obtain ⟨d, hread, hd⟩ := @readFloat?_signed neg _ _ (numeral_decimal f ⟨0, 0⟩)
    rw [decimal_eq_sign, hread, toFloat_of_toRat_eq_zero (by rw [hd, toRat]; simp),
      eq_of_shape_zero hs]
  | finite neg m e =>
    dsimp only
    obtain ⟨hx, hc⟩ := eq_of_shape_finite hs
    obtain ⟨d, hread, hd⟩ :=
      @readFloat?_signed neg _ _ (numeral_decimal f (shortest f.tie m e))
    rw [decimal_eq_sign, hread, toFloat_of_mem hc (by rw [hd]; exact shortest_mem f.tie hc), hx]

end FloatFormat

/-! ## §4. Doubles by their bits -/

namespace Double

open Binary64

/-- The library's NaN test on a bit pattern is the double's. -/
theorem isNaNBits_bits (x : Double) : @isNaNBits Format.binary64 x.bits.toBitVec = x.isNaN := by
  have hexp := unpackExponent_toNat x.bits.toNat
  have hmant := unpackMantissa_toNat x.bits.toNat
  rw [UInt64.ofNat_toNat, Nat.mod_eq_of_lt x.bits.toNat_lt] at hexp hmant
  have hfield : (@unpackExponent Format.binary64 x.bits.toBitVec = -1#11) ↔
      x.bits.toNat / 2 ^ 52 % 2048 = 2047 := by
    rw [← BitVec.toNat_inj, hexp]
    rfl
  have hfrac : (@unpackMantissa Format.binary64 x.bits.toBitVec ≠ 0#52) ↔
      x.bits.toNat % 2 ^ 52 ≠ 0 := by
    rw [ne_eq, ← BitVec.toNat_inj, hmant]
    rfl
  simp only [isNaNBits, isNaN]
  rw [Bool.eq_iff_iff, decide_eq_true_iff, hfield, hfrac, beq_iff_eq, shapeOfBits_eq_nan]

/-- A double passed through a `Float` comes back bit for bit, except that a NaN comes back as
the quiet NaN. -/
theorem ofFloat_toFloat (x : Double) : ofFloat x.toFloat = x.quieted := by
  -- packing the unpacked bits gives them back, a NaN's as the quiet NaN's
  have hbits : (Float.ofBits x.bits).toBits.toBitVec =
      if @isNaNBits Format.binary64 x.bits.toBitVec then packedNaN Format.binary64 else x.bits.toBitVec :=
    @UnpackedFloat.pack_unpack Format.binary64 x.bits.toBitVec (by decide)
  rw [isNaNBits_bits] at hbits
  unfold quieted
  split
  · rename_i h
    rw [if_pos h] at hbits
    exact congrArg Double.mk (UInt64.toBitVec_inj.1 (hbits.trans (by decide)))
  · rename_i h
    rw [if_neg h] at hbits
    exact congrArg Double.mk (UInt64.toBitVec_inj.1 hbits)

/-- A double is kept by a `Float` exactly when it is not a NaN or is the quiet NaN. -/
theorem quieted_eq_self (x : Double) : x.quieted = x ↔ (x.isNaN → x = quietNaN) := by
  unfold quieted
  by_cases h : x.isNaN
  · simp only [h, if_true, forall_const]
    exact eq_comm
  · simp [h]

end Double

namespace Decimal

open Binary64

/-- A double written by a format that spells NaN and infinity as the reader does reads back
as a double with the same bits: the one NaN a `Float` holds is written without a sign. -/
theorem readDouble?_render (f : FloatFormat) (hnan : f.nanText = "NaN") (hinf : f.infText = "inf")
    (x : Float) : readDouble? (f.render x) = some (Double.ofFloat x) := by
  unfold readDouble?
  rw [FloatFormat.readFloat?_render f hnan hinf x, Option.map_some]
  have hsign : ((splitSign (f.render x).toList).1 && (Double.ofFloat x).isNaN) = false := by
    by_cases hs : shape x = .nan
    · have hr : f.render x = "NaN" := by simp [FloatFormat.render, hs, hnan]
      rw [hr]
      rfl
    · have hn : (Double.ofFloat x).isNaN = false := by
        simpa [Double.isNaN, Double.ofFloat, shape] using hs
      rw [hn, Bool.and_false]
  simp only [hsign, Bool.false_eq_true, if_false]

end Decimal

end ControlLoop
