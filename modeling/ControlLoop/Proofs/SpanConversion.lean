import ControlLoop.Proofs.FloatMagnitude
import ControlLoop.Proofs.FloatText
import ControlLoop.Duration

/-! # Spans of seconds given as doubles

A span is read off a double in two places: the tick period, one second over the tick rate,
and a run's duration. This module says exactly when each gives a span and when that span is
zero.

  * `Duration.period_ne_zero_iff`: the tick period at a rate below `2 ^ 53` is a positive
    span exactly when the rate is at most two billion ticks a second. Above that, the double
    nearest `1 / rate` is below half a nanosecond and rounds to zero.
  * `Duration.ofSeconds?_ok_iff`: a finite positive number of seconds has a span exactly when
    it is below `2 ^ 64`.

## Stages

  * bit patterns: `Binary64.shape` and the logical model's unpacked form read the same bit
    pattern, and agree (`shapeOfBits_eq_unpack`); a normal double packs and unpacks to itself
    (`unpack_pack_normal`);
  * whole numbers: a whole number below `2 ^ 53` is a double exactly (`unpack_ofInt`);
  * one over a whole number: the division's quotient has 53 bits, so the division rounds it
    once at its own exponent, to the whole quotient `2 ^ (log2 r + 53) / r` or one more
    (`unpack_one_div_ofInt`);
  * spans: a positive double becomes a span through its shape (`ofSeconds?_of_unpack`), a
    span of nanoseconds rounded to nearest, which is zero exactly when the value is at most
    half a nanosecond (`roundHalfEven_eq_zero_iff`).
-/

open Float.Model Float.Model.UnpackedFloat

namespace ControlLoop
namespace Binary64

/-! ## §1. Bit patterns -/

/-- The shape of an unpacked double: the sign as a flag, with the mantissa and exponent as
they are. -/
def shapeOfUnpacked : UnpackedFloat → Shape
  | .notANumber => .nan
  | .infinity s => .infinite (s == .negative)
  | .zero s => .zero (s == .negative)
  | .finite s m e _ => .finite (s == .negative) m e

/-- The sign field of a bit pattern. -/
theorem unpackSign_toNat {b : Nat} (hb : b < 2 ^ 64) :
    (@unpackSign Format.binary64 (UInt64.ofNat b).toBitVec).toNat = b / 2 ^ 63 % 2 := by
  simp [unpackSign, BitVec.extractLsb_toNat, Nat.shiftRight_eq_div_pow]
  omega

theorem isNegative_unpackSign {b : Nat} (hb : b < 2 ^ 64) :
    (Sign.ofBitVec (@unpackSign Format.binary64 (UInt64.ofNat b).toBitVec) == .negative) =
      decide (b / 2 ^ 63 % 2 = 1) := by
  have h := unpackSign_toNat hb
  unfold Sign.ofBitVec
  by_cases h0 : @unpackSign Format.binary64 (UInt64.ofNat b).toBitVec = 0#1
  · have h1 : b / 2 ^ 63 % 2 ≠ 1 := by
      rw [← h, h0]
      decide
    rw [if_pos h0, decide_eq_false h1]
    rfl
  · have h1 : b / 2 ^ 63 % 2 = 1 := by
      have hne : (@unpackSign Format.binary64 (UInt64.ofNat b).toBitVec).toNat ≠ 0 := fun h' =>
        h0 (BitVec.eq_of_toNat_eq h')
      have hlt : b / 2 ^ 63 % 2 < 2 := Nat.mod_lt _ (by decide)
      omega
    rw [if_neg h0, decide_eq_true h1]
    rfl

/-- The exponent field is all ones (infinities and NaNs) exactly when its value is `2047`. -/
theorem unpackExponent_eq_allOnes {b : Nat} (hb : b < 2 ^ 64) :
    @unpackExponent Format.binary64 (UInt64.ofNat b).toBitVec = -1#11 ↔ b / 2 ^ 52 % 2048 = 2047 := by
  rw [← BitVec.toNat_inj, unpackExponent_toNat, Nat.mod_eq_of_lt hb]
  rfl

theorem unpackExponent_eq_zero {b : Nat} (hb : b < 2 ^ 64) :
    @unpackExponent Format.binary64 (UInt64.ofNat b).toBitVec = 0#11 ↔ b / 2 ^ 52 % 2048 = 0 := by
  rw [← BitVec.toNat_inj, unpackExponent_toNat, Nat.mod_eq_of_lt hb]
  rfl

theorem unpackMantissa_eq_zero {b : Nat} (hb : b < 2 ^ 64) :
    @unpackMantissa Format.binary64 (UInt64.ofNat b).toBitVec = 0#52 ↔ b % 2 ^ 52 = 0 := by
  rw [← BitVec.toNat_inj, unpackMantissa_toNat, Nat.mod_eq_of_lt hb]
  rfl

/-- A normal double's mantissa: the fraction field below the hidden bit. -/
theorem hidden_unpackMantissa (b : Nat) :
    (1#1 ++ @unpackMantissa Format.binary64 (UInt64.ofNat b).toBitVec).toNat =
      2 ^ 52 + b % 2 ^ 64 % 2 ^ 52 := by
  have hmant := (@unpackMantissa Format.binary64 (UInt64.ofNat b).toBitVec).isLt
  change (@unpackMantissa Format.binary64 (UInt64.ofNat b).toBitVec).toNat < 2 ^ 52 at hmant
  rw [BitVec.toNat_append, ← Nat.shiftLeft_add_eq_or_of_lt hmant, unpackMantissa_toNat]
  rfl

/-- Unpacking a bit pattern gives the double its shape describes. -/
theorem shapeOfBits_eq_unpack {b : Nat} (hb : b < 2 ^ 64) :
    shapeOfBits b = shapeOfUnpacked (UnpackedFloat.unpack Format.binary64 (UInt64.ofNat b).toBitVec) := by
  have hsign := isNegative_unpackSign hb
  have hfield := unpackExponent_toNat b
  have hfrac := unpackMantissa_toNat b
  rw [Nat.mod_eq_of_lt hb] at hfield hfrac
  unfold shapeOfBits UnpackedFloat.unpack
  dsimp only [fractionBits, minExp]
  -- the exponent field decides the kind: all ones, zero, or a normal double
  by_cases hinf : b / 2 ^ 52 % 2048 = 2047
  · rw [if_pos ((unpackExponent_eq_allOnes hb).2 hinf), if_pos hinf]
    by_cases hzero : b % 2 ^ 52 = 0
    · rw [if_pos ((unpackMantissa_eq_zero hb).2 hzero), if_pos hzero, shapeOfUnpacked, hsign]
    · rw [if_neg (mt (unpackMantissa_eq_zero hb).1 hzero), if_neg hzero, shapeOfUnpacked]
  rw [if_neg (mt (unpackExponent_eq_allOnes hb).1 hinf), if_neg hinf]
  by_cases hsub : b / 2 ^ 52 % 2048 = 0
  · rw [if_pos ((unpackExponent_eq_zero hb).2 hsub), if_pos hsub]
    by_cases hzero : b % 2 ^ 52 = 0
    · rw [dif_pos ((unpackMantissa_eq_zero hb).2 hzero), if_pos hzero, shapeOfUnpacked, hsign]
    · rw [dif_neg (mt (unpackMantissa_eq_zero hb).1 hzero), if_neg hzero, shapeOfUnpacked, hsign,
        hfrac, hfield, hsub]
      rfl
  · rw [if_neg (mt (unpackExponent_eq_zero hb).1 hsub), if_neg hsub, shapeOfUnpacked, hsign,
      hidden_unpackMantissa, Nat.mod_eq_of_lt hb, hfield, Nat.add_comm]
    rfl

/-- The shape of a double is the shape of its unpacked form. -/
theorem shape_eq_unpack (x : Float) : shape x = shapeOfUnpacked x.toModel.unpack := by
  rw [shape, shapeOfBits_eq_unpack (UInt64.toNat_lt x.toBits), UInt64.ofNat_toNat]
  rfl

theorem unpackSign_packComponents (s : Sign) (ex : BitVec 11) (mant : BitVec 52) :
    @unpackSign Format.binary64 (packComponents Format.binary64 s ex mant) = s.toBitVec := by
  ext i hi
  obtain rfl : i = 0 := by omega
  simp [unpackSign, packComponents]
  rw [BitVec.getLsbD_append, if_neg (by omega), BitVec.getLsbD_append, if_neg (by omega)]
  cases s <;> simp [Sign.toBitVec]

theorem ofBitVec_toBitVec (s : Sign) : Sign.ofBitVec s.toBitVec = s := by
  cases s <;> rfl

/-- A normal double, with a mantissa of 53 bits and an exponent in range, unpacks to itself
after packing. -/
theorem unpack_pack_normal (s : Sign) {m : Nat} {e : Int} (hm : 0 < m) (hlog : m.log2 = 52)
    (hlo : -1074 ≤ e) (hhi : e ≤ 971) :
    UnpackedFloat.unpack Format.binary64 (UnpackedFloat.pack Format.binary64 (.finite s m e hm)) =
      .finite s m e hm := by
  have hbounds := (Nat.log2_eq_iff (Nat.pos_iff_ne_zero.1 hm)).1 hlog
  simp only [UnpackedFloat.pack, Format.exponentBias, Format.mantissaBits, hlog]
  rw [if_neg (by omega), if_pos trivial]
  unfold UnpackedFloat.unpack
  simp only [unpackExponent_packComponents, unpackMantissa_packComponents,
    unpackSign_packComponents, ofBitVec_toBitVec]
  -- the exponent field is the biased exponent, neither all ones nor zero
  generalize hf : BitVec.ofNat 11 (e + ((2 ^ (11 - 1) - 1 : Nat) : Int) + ((52 : Nat) : Int)).toNat = f
  have hfield : f.toNat = (e + 1075).toNat := by
    rw [← hf, BitVec.toNat_ofNat]
    omega
  have hall : f ≠ -1#11 := fun h => by
    rw [h] at hfield
    have : (-1#11 : BitVec 11).toNat = 2047 := by decide
    omega
  have hzero : f ≠ 0#11 := fun h => by
    rw [h] at hfield
    have : (0#11 : BitVec 11).toNat = 0 := by decide
    omega
  have hmant : (1#1 ++ BitVec.ofNat 52 m).toNat = m := by
    have hlt : (BitVec.ofNat 52 m).toNat < 2 ^ 52 := BitVec.isLt _
    rw [BitVec.toNat_append, ← Nat.shiftLeft_add_eq_or_of_lt hlt]
    simp only [Nat.shiftLeft_eq, BitVec.toNat_ofNat]
    omega
  rw [if_neg hall, if_neg hzero]
  simp only [hmant, hfield, Format.exponentBias]
  congr 1
  omega

/-- An unpacked double whose shape is a positive finite one is that double. -/
theorem eq_finite_of_shapeOfUnpacked {u : UnpackedFloat} {m : Nat} {e : Int}
    (h : shapeOfUnpacked u = .finite false m e) : ∃ hm, u = .finite .positive m e hm := by
  cases u with
  | finite s m' e' hm' =>
    cases s with
    | negative => cases h
    | positive =>
      obtain ⟨-, rfl, rfl⟩ := Shape.finite.inj h
      exact ⟨hm', rfl⟩
  | _ => cases h

/-! ## §2. Whole numbers -/

/-- The bit pattern of a normal positive double: its biased exponent above its fraction. -/
theorem bitsOf_normal {m : Nat} {e : Int} (hlo : 2 ^ 52 ≤ m) (hhi : m < 2 ^ 53)
    (he : -1074 ≤ e) (he' : e ≤ 971) :
    bitsOf false m e = (e + 1075).toNat * 2 ^ 52 + (m - 2 ^ 52) := by
  simp only [bitsOf, fractionBits, Bool.false_eq_true, if_false]
  rw [if_neg (by omega), if_neg (by omega)]
  omega

/-- The bit pattern of a normal positive double has that double's shape. -/
theorem shapeOfBits_bitsOf {m : Nat} {e : Int} (hlo : 2 ^ 52 ≤ m) (hhi : m < 2 ^ 53)
    (he : -1074 ≤ e) (he' : e ≤ 971) : shapeOfBits (bitsOf false m e) = .finite false m e := by
  have hfield : ((e + 1075).toNat * 2 ^ 52 + (m - 2 ^ 52)) / 2 ^ 52 % 2048 = (e + 1075).toNat := by
    omega
  rw [bitsOf_normal hlo hhi he he']
  unfold shapeOfBits
  simp only [fractionBits, hfield]
  rw [if_neg (by omega), if_neg (by omega)]
  congr 1
  · simp only [decide_eq_false_iff_not]
    omega
  · omega
  · omega

/-- A whole number shifted to 53 bits. -/
theorem shifted_bounds {r : Nat} (h0 : 0 < r) (hL : r.log2 ≤ 52) :
    2 ^ 52 ≤ r * 2 ^ (52 - r.log2) ∧ r * 2 ^ (52 - r.log2) < 2 ^ 53 := by
  have hpow : (2 : Nat) ^ r.log2 * 2 ^ (52 - r.log2) = 2 ^ 52 := by
    rw [← Nat.pow_add, Nat.add_sub_cancel' hL]
  constructor
  · calc 2 ^ 52 = 2 ^ r.log2 * 2 ^ (52 - r.log2) := hpow.symm
      _ ≤ r * 2 ^ (52 - r.log2) := Nat.mul_le_mul_right _ (Nat.log2_self_le (by omega))
  · calc r * 2 ^ (52 - r.log2) < 2 ^ (r.log2 + 1) * 2 ^ (52 - r.log2) :=
          Nat.mul_lt_mul_of_pos_right Nat.lt_log2_self (Nat.two_pow_pos _)
      _ = 2 ^ 53 := by rw [Nat.pow_succ, Nat.mul_right_comm, hpow, ← Nat.pow_succ]

/-- A whole number below `2 ^ 53` is a double exactly: the number shifted to 53 bits, at the
exponent that shifts it back. -/
theorem ofInt_eq_bitsOf {r : Nat} (h0 : 0 < r) (h : r < 2 ^ 53) :
    ofInt (r : Int) = ofBitsNat (bitsOf false (r * 2 ^ (52 - r.log2)) ((r.log2 : Int) - 52)) := by
  have hsign : decide ((r : Int) < 0) = false := by simp
  have hL : r.log2 ≤ 52 := log2_le_of_lt h
  have hM := shifted_bounds h0 hL
  simp only [ofInt, hsign, Int.natAbs_natCast]
  unfold ofRatio
  rw [if_neg (by omega), floorLog2_one (by omega), fractionBits, minExp]
  dsimp only
  rw [show max ((r.log2 : Int) - ((52 : Nat) : Int)) (-1074) = (r.log2 : Int) - 52 by omega,
    show ((r.log2 : Int) - 52).toNat = 0 by omega,
    show (-((r.log2 : Int) - 52)).toNat = 52 - r.log2 by omega]
  -- a whole quotient: nothing to round
  have hround : roundHalfEven (r * 2 ^ (52 - r.log2)) (1 * 2 ^ 0) = r * 2 ^ (52 - r.log2) := by
    simp [roundHalfEven, Nat.mod_one]
  rw [hround, if_neg (by omega)]

/-- The unpacked form of a whole number below `2 ^ 53`. -/
theorem unpack_ofInt {r : Nat} (h0 : 0 < r) (h : r < 2 ^ 53) :
    ∃ hm, (ofInt (r : Int)).toModel.unpack =
      .finite .positive (r * 2 ^ (52 - r.log2)) ((r.log2 : Int) - 52) hm := by
  have hL : r.log2 ≤ 52 := log2_le_of_lt h
  have hM := shifted_bounds h0 hL
  have hbits := bitsOf_normal hM.1 hM.2 (e := (r.log2 : Int) - 52) (by omega) (by omega)
  have hb : bitsOf false (r * 2 ^ (52 - r.log2)) ((r.log2 : Int) - 52) < 2 ^ 64 := by omega
  obtain ⟨hm, hu⟩ := eq_finite_of_shapeOfUnpacked ((shapeOfBits_eq_unpack hb).symm.trans
    (shapeOfBits_bitsOf hM.1 hM.2 (by omega) (by omega)))
  refine ⟨hm, ?_⟩
  rw [ofInt_eq_bitsOf h0 h]
  show UnpackedFloat.unpack Format.binary64 (UnpackedFloat.pack Format.binary64
    (UnpackedFloat.unpack Format.binary64 (UInt64.ofNat _).toBitVec)) = _
  rw [hu, unpack_pack_normal _ hm ((Nat.log2_eq_iff (by omega)).2 hM) (by omega) (by omega)]

/-! ## §3. One over a whole number -/

theorem unpack_one : (1.0 : Float).toModel.unpack = .finite .positive (2 ^ 52) (-52) (by decide) :=
  rfl

/-- Shifting to the target exponent divides the mantissa by the places it drops. -/
theorem shiftToTargetExponent_eq (m : Nat) (t : Int) (a : Accuracy) :
    (shiftToTargetExponent Format.binary64 m t a).1.mantissa =
        m / 2 ^ (max ((m.log2 : Int) - 52 + t) (-1074) - t).toNat ∧
      (shiftToTargetExponent Format.binary64 m t a).2 =
        t + (max ((m.log2 : Int) - 52 + t) (-1074) - t).toNat := by
  have htarget : Format.binary64.targetExponent (totalExponent m t) =
      max ((m.log2 : Int) - 52 + t) (-1074) := by
    rw [targetExponent_binary64, totalExponent]
    omega
  constructor
  · simp only [shiftToTargetExponent, shiftToExponent, shift_mantissa, htarget]
    cases a with
    | exact => rfl
    | inexact o => cases o <;> rfl
  · simp only [shiftToTargetExponent, shiftToExponent, htarget]

/-- An extended mantissa made from an accuracy rounds as the accuracy says. -/
theorem roundedMantissa_ofMantissaAndAccuracy (m : Nat) (a : Accuracy) :
    (ExtendedMantissa.ofMantissaAndAccuracy m a).roundedMantissa = a.roundToNearestEven m := by
  cases a with
  | exact => rfl
  | inexact o => cases o <;> rfl

/-- Rounding to nearest moves a mantissa up by at most one. -/
theorem roundToNearestEven_bounds (m : Nat) (a : Accuracy) :
    m ≤ a.roundToNearestEven m ∧ a.roundToNearestEven m ≤ m + 1 := by
  cases a with
  | exact => exact ⟨Nat.le_refl _, Nat.le_succ _⟩
  | inexact o =>
    cases o <;> simp only [Accuracy.roundToNearestEven] <;> omega

/-- A positive quotient of 53 bits rounds at its own exponent: to the mantissa rounded to
nearest, carried into the next exponent when it rounds up to `2 ^ 53`. -/
theorem roundWithAccuracy_normal {q : Nat} {t : Int} (a : Accuracy) (hlo : 2 ^ 52 ≤ q)
    (hhi : q < 2 ^ 53) (ht : -1074 ≤ t) :
    ∃ (m k : Nat) (hm : 0 < m), roundWithAccuracy Format.binary64 .positive q t a = .finite .positive m (t + k) hm ∧
      m * 2 ^ k = a.roundToNearestEven q ∧ k ≤ 1 ∧ 2 ^ 52 ≤ m ∧ m < 2 ^ 53 := by
  have hlog : q.log2 = 52 := (Nat.log2_eq_iff (by omega)).2 ⟨hlo, hhi⟩
  -- the first shift drops nothing
  have hfirst : shiftToTargetExponent Format.binary64 q t a =
      (ExtendedMantissa.ofMantissaAndAccuracy q a, t) := by
    have hsh : (Format.binary64.targetExponent (totalExponent q t) - t).toNat = 0 := by
      rw [targetExponent_binary64, totalExponent, hlog]
      omega
    simp only [shiftToTargetExponent, shiftToExponent, hsh, Int.natCast_zero, Int.add_zero]
    rfl
  have hr := roundToNearestEven_bounds q a
  unfold roundWithAccuracy
  rw [hfirst]
  dsimp only
  rw [roundedMantissa_ofMantissaAndAccuracy]
  generalize a.roundToNearestEven q = r at hr ⊢
  obtain ⟨hmant, hexp⟩ := shiftToTargetExponent_eq r t .exact
  generalize shiftToTargetExponent Format.binary64 r t .exact = second at hmant hexp ⊢
  obtain ⟨em, e⟩ := second
  dsimp only at hmant hexp ⊢
  by_cases hcarry : r < 2 ^ 53
  · -- no carry: the mantissa stays at its exponent
    have hrlog : r.log2 = 52 := (Nat.log2_eq_iff (by omega)).2 ⟨by omega, hcarry⟩
    rw [hrlog] at hmant hexp
    have h0 : (max ((52 : Nat) - 52 + t) (-1074) - t).toNat = 0 := by omega
    rw [h0, Nat.pow_zero, Nat.div_one] at hmant
    rw [h0] at hexp
    refine ⟨em.mantissa, 0, by omega, ?_, by simp [hmant], by omega, by omega, by omega⟩
    rw [dif_neg (by omega), hexp]
  · -- a carry to `2 ^ 53`: half the mantissa at the next exponent
    have hr53 : r = 2 ^ 53 := by omega
    have hrlog : r.log2 = 53 := by rw [hr53]; exact Nat.log2_two_pow
    rw [hrlog] at hmant hexp
    have h1 : (max ((53 : Nat) - 52 + t) (-1074) - t).toNat = 1 := by omega
    rw [h1, hr53] at hmant
    rw [h1] at hexp
    refine ⟨em.mantissa, 1, by omega, ?_, by rw [hmant, hr53]; norm_num, le_refl _, by omega, by omega⟩
    rw [dif_neg (by omega), hexp]

/-- A mantissa of `2 ^ 53` with nothing below it rounds to `2 ^ 52` at the next exponent. -/
theorem roundWithAccuracy_two_pow {t : Int} (ht : -1074 ≤ t) :
    roundWithAccuracy Format.binary64 .positive (2 ^ 53) t .exact =
      .finite .positive (2 ^ 52) (t + 1) (by decide) := by
  have hsh : (Format.binary64.targetExponent (totalExponent (2 ^ 53) t) - t).toNat = 1 := by
    rw [targetExponent_binary64, totalExponent, Nat.log2_two_pow]
    omega
  have hfirst : shiftToTargetExponent Format.binary64 (2 ^ 53) t .exact = (⟨2 ^ 52, false, false⟩, t + 1) := by
    simp only [shiftToTargetExponent, shiftToExponent, hsh]
    rfl
  have hsecond : shiftToTargetExponent Format.binary64 (2 ^ 52) (t + 1) .exact = (⟨2 ^ 52, false, false⟩, t + 1) := by
    have h0 : (Format.binary64.targetExponent (totalExponent (2 ^ 52) (t + 1)) - (t + 1)).toNat = 0 := by
      rw [targetExponent_binary64, totalExponent, Nat.log2_two_pow]
      omega
    simp only [shiftToTargetExponent, shiftToExponent, h0, Int.natCast_zero, Int.add_zero]
    rfl
  unfold roundWithAccuracy
  rw [hfirst]
  dsimp only
  rw [show (⟨2 ^ 52, false, false⟩ : ExtendedMantissa).roundedMantissa = 2 ^ 52 from rfl, hsecond]
  rfl

/-- The quotient step of a division of `1` by a normal double: `2 ^ 105` over its mantissa,
53 places below the exponents' difference. -/
theorem divCore_one {n : Nat} {f : Int} (hn : n.log2 = 52) (hf : -52 ≤ f) (hf' : f ≤ 0) :
    divCore Format.binary64 (2 ^ 52) (-52) n f =
      (2 ^ 105 / n, -f - 105, accuracyOfFraction (2 ^ 105 % n) n) := by
  have ht : min (-52 - f) (Format.binary64.targetExponent
      (totalExponent (2 ^ 52) (-52) - totalExponent n f)) = -f - 105 := by
    rw [targetExponent_binary64, totalExponent, totalExponent, Nat.log2_two_pow, hn]
    omega
  have hsh : (-52 - f - (-f - 105)).toNat = 53 := by omega
  simp only [divCore, ht, hsh, Nat.shiftLeft_eq, ← Nat.pow_add]

/-- Scaling a whole number to 53 bits does not change its quotient into a power of two. -/
theorem quotient_shifted {r : Nat} (hL : r.log2 ≤ 52) :
    2 ^ 105 / (r * 2 ^ (52 - r.log2)) = 2 ^ (r.log2 + 53) / r := by
  have hpow : (2 : Nat) ^ 105 = 2 ^ (r.log2 + 53) * 2 ^ (52 - r.log2) := by
    rw [← Nat.pow_add]
    congr 1
    omega
  rw [hpow, Nat.mul_div_mul_right _ _ (Nat.two_pow_pos _)]

/-- Dividing `2 ^ 105` by a 53-bit mantissa above `2 ^ 52` leaves a 53-bit quotient. -/
theorem quotient_bounds {M : Nat} (hlo : 2 ^ 52 < M) (hhi : M < 2 ^ 53) :
    2 ^ 52 ≤ 2 ^ 105 / M ∧ 2 ^ 105 / M < 2 ^ 53 := by
  constructor
  · rw [Nat.le_div_iff_mul_le (by omega)]
    calc 2 ^ 52 * M ≤ 2 ^ 52 * 2 ^ 53 := Nat.mul_le_mul_left _ (by omega)
      _ = 2 ^ 105 := by norm_num
  · rw [Nat.div_lt_iff_lt_mul (by omega)]
    calc 2 ^ 105 = 2 ^ 53 * 2 ^ 52 := by norm_num
      _ < 2 ^ 53 * M := Nat.mul_lt_mul_of_pos_left hlo (by norm_num)

/-- One over a whole number `r` below `2 ^ 53`, as a double, is positive and normal, at the
exponent `k - (log2 r + 53)` with `k` at most one, and its mantissa scaled by `2 ^ k` is the
whole quotient `2 ^ (log2 r + 53) / r` or one more. -/
theorem unpack_one_div_ofInt {r : Nat} (h0 : 0 < r) (h : r < 2 ^ 53) :
    ∃ (m k : Nat) (hm : 0 < m), (1.0 / ofInt (r : Int)).toModel.unpack =
        .finite .positive m (-((r.log2 : Int) + 53) + k) hm ∧
      2 ^ (r.log2 + 53) / r ≤ m * 2 ^ k ∧ m * 2 ^ k ≤ 2 ^ (r.log2 + 53) / r + 1 ∧
      k ≤ 1 ∧ 2 ^ 52 ≤ m ∧ m < 2 ^ 53 := by
  have hL : r.log2 ≤ 52 := log2_le_of_lt h
  have hM := shifted_bounds h0 hL
  obtain ⟨hMpos, hu⟩ := unpack_ofInt h0 h
  have hMlog : (r * 2 ^ (52 - r.log2)).log2 = 52 := (Nat.log2_eq_iff (by omega)).2 hM
  have hq := quotient_shifted hL
  have hdiv : (1.0 / ofInt (r : Int)).toModel.unpack =
      UnpackedFloat.unpack Format.binary64 (UnpackedFloat.pack Format.binary64
        (UnpackedFloat.div Format.binary64 (1.0 : Float).toModel.unpack
          (ofInt (r : Int)).toModel.unpack)) := rfl
  rw [hdiv, unpack_one, hu]
  simp only [UnpackedFloat.div]
  rw [divCore_one hMlog (by omega) (by omega)]
  dsimp only
  rw [show Sign.positive / Sign.positive = Sign.positive from rfl,
    show -((r.log2 : Int) - 52) - 105 = -((r.log2 : Int) + 53) by omega]
  generalize hMdef : r * 2 ^ (52 - r.log2) = M at hM hq ⊢
  by_cases hpow : M = 2 ^ 52
  · -- `r` is a power of two: the quotient is exactly `2 ^ 53`
    subst hpow
    have hQ : (2 : Nat) ^ 105 / 2 ^ 52 = 2 ^ 53 := by norm_num
    have hacc : accuracyOfFraction (2 ^ 105 % 2 ^ 52) (2 ^ 52) = .exact := rfl
    rw [hQ, hacc, roundWithAccuracy_two_pow (by omega),
      unpack_pack_normal _ _ Nat.log2_two_pow (by omega) (by omega)]
    refine ⟨2 ^ 52, 1, by decide, rfl, ?_, ?_, le_refl _, le_refl _, by norm_num⟩ <;>
      rw [← hq, hQ] <;> norm_num
  · -- otherwise the quotient has 53 bits and rounds at its own exponent
    obtain ⟨hQlo, hQhi⟩ := quotient_bounds (by omega) hM.2
    obtain ⟨m, k, hm, hround, hR, hk, hlo, hhi⟩ :=
      roundWithAccuracy_normal (accuracyOfFraction (2 ^ 105 % M) M) hQlo hQhi
        (t := -((r.log2 : Int) + 53)) (by omega)
    have hRb := roundToNearestEven_bounds (2 ^ 105 / M) (accuracyOfFraction (2 ^ 105 % M) M)
    rw [hround, unpack_pack_normal _ _ ((Nat.log2_eq_iff (by omega)).2 ⟨hlo, hhi⟩) (by omega)
      (by omega)]
    refine ⟨m, k, hm, rfl, ?_, ?_, hk, hlo, hhi⟩ <;> rw [← hq, hR]
    exacts [hRb.1, hRb.2]

/-! ## §4. Comparisons -/

/-- One double is below another when their unpacked forms compare so. -/
theorem lt_iff_compare (x y : Float) :
    x < y ↔ UnpackedFloat.compare x.toModel.unpack y.toModel.unpack = some .lt := by
  show x.lt y = true ↔ _
  simp [Float.lt, LT.lt, Float.Model.lt, UnpackedFloat.lt]

theorem unpack_zero : (0.0 : Float).toModel.unpack = .zero .positive := rfl

/-- A positive double is not below zero. -/
theorem not_lt_zero_of_unpack {x : Float} {m : Nat} {e : Int} {hm : 0 < m}
    (h : x.toModel.unpack = .finite .positive m e hm) : ¬ x < 0.0 := by
  rw [lt_iff_compare, h, unpack_zero]
  simp [UnpackedFloat.compare]

/-- A finite positive double unpacks to a positive finite mantissa and exponent. -/
theorem unpack_of_finite_pos {x : Float} (hfin : x.isFinite = true) (hpos : 0.0 < x) :
    ∃ m e hm, x.toModel.unpack = .finite .positive m e hm := by
  rw [lt_iff_compare, unpack_zero] at hpos
  change x.toModel.unpack.isFinite = true at hfin
  cases hx : x.toModel.unpack with
  | finite s m e hm =>
    cases s with
    | positive => exact ⟨m, e, hm, rfl⟩
    | negative => rw [hx] at hpos; cases hpos
  | notANumber => rw [hx] at hpos; cases hpos
  | infinity s => rw [hx] at hfin; cases hfin
  | zero s => rw [hx] at hpos; cases hpos

theorem unpack_two_pow_64 :
    (18446744073709551616.0 : Float).toModel.unpack = .finite .positive (2 ^ 52) 12 (by decide) :=
  rfl

/-- A canonical mantissa and exponent stand for less than `2 ^ 64` exactly when the exponent is
below `12`. -/
theorem lt_two_pow_64_iff {m : Nat} {e : Int} (hc : Canonical m e) :
    m * 2 ^ e.toNat < 2 ^ 64 * 2 ^ (-e).toNat ↔ e < 12 := by
  have hm := hc.lt
  by_cases he : e < 0
  · -- a fraction of a second: far below
    have : (2 : Nat) ^ 53 ≤ 2 ^ 64 * 2 ^ (-e).toNat :=
      Nat.le_trans (Nat.pow_le_pow_right (by decide) (by decide)) (Nat.le_mul_of_pos_right _ (Nat.two_pow_pos _))
    rw [show e.toNat = 0 by omega, Nat.pow_zero, Nat.mul_one]
    omega
  rw [show (-e).toNat = 0 by omega, Nat.pow_zero, Nat.mul_one]
  constructor
  · intro hlt
    by_contra hge
    -- from `2 ^ 12` on, a normal mantissa reaches `2 ^ 64`
    have hnormal : 2 ^ 52 ≤ m := hc.normal.resolve_right (by simp [minExp]; omega)
    have : (2 : Nat) ^ 64 ≤ m * 2 ^ e.toNat :=
      calc (2 : Nat) ^ 64 = 2 ^ 52 * 2 ^ 12 := by norm_num
        _ ≤ m * 2 ^ e.toNat := Nat.mul_le_mul hnormal (Nat.pow_le_pow_right (by decide) (by omega))
    omega
  · intro hlt
    calc m * 2 ^ e.toNat < 2 ^ 53 * 2 ^ e.toNat := Nat.mul_lt_mul_of_pos_right hm (Nat.two_pow_pos _)
      _ ≤ 2 ^ 53 * 2 ^ 11 := Nat.mul_le_mul_left _ (Nat.pow_le_pow_right (by decide) (by omega))
      _ = 2 ^ 64 := by norm_num

/-- A whole number rounded to nearest is zero exactly when it is at most a half. -/
theorem roundHalfEven_eq_zero_iff {n d : Nat} (hd : 0 < d) :
    roundHalfEven n d = 0 ↔ 2 * n ≤ d := by
  unfold roundHalfEven
  dsimp only
  by_cases hq : n / d = 0
  · -- below one: the remainder is the whole number
    have hlt : n < d := (Nat.div_eq_zero_iff_lt hd).1 hq
    rw [hq, Nat.mod_eq_of_lt hlt]
    split <;> omega
  · have hle : d ≤ n := (Nat.div_pos_iff.1 (Nat.pos_of_ne_zero hq)).2
    generalize n / d = q at hq ⊢
    split <;> omega

end Binary64

namespace Duration

open Binary64

/-! ## §5. Spans -/

/-- The span of a positive finite double: none when it is `2 ^ 64` seconds or more, else its
nanoseconds rounded to nearest. -/
theorem ofSeconds?_of_unpack {x : Float} {m : Nat} {e : Int} {hm : 0 < m}
    (h : x.toModel.unpack = .finite .positive m e hm) :
    ofSeconds? x = if m * 2 ^ e.toNat ≥ 2 ^ 64 * 2 ^ (-e).toNat then .error .tooBigOrNan
      else .ok ⟨roundHalfEven (m * perSecond * 2 ^ e.toNat) (2 ^ (-e).toNat)⟩ := by
  have hshape : shape x = .finite false m e := by
    rw [shape_eq_unpack, h]
    rfl
  rw [ofSeconds?, if_neg (not_lt_zero_of_unpack h), hshape]

/-- The tick period at a rate `r` below `2 ^ 53`: with `n` the double nearest `1 / r` in units
of `2 ^ -(log2 r + 53)`, within one of the whole quotient, the period is zero exactly when `n`
nanoseconds are at most half a unit. -/
theorem period_eq_zero_iff_quotient {r : Nat} (h0 : 0 < r) (h : r < 2 ^ 53) :
    ∃ n, 2 ^ (r.log2 + 53) / r ≤ n ∧ n ≤ 2 ^ (r.log2 + 53) / r + 1 ∧
      ((period r).nanos = 0 ↔ 2 * n * perSecond ≤ 2 ^ (r.log2 + 53)) := by
  obtain ⟨m, k, hm, hu, hlo, hhi, hk, hm52, hm53⟩ := unpack_one_div_ofInt h0 h
  refine ⟨m * 2 ^ k, hlo, hhi, ?_⟩
  have hmax : max (r : Int) 1 = r := by omega
  -- the exponent is negative: the span is the mantissa's nanoseconds over a power of two
  have he : (-((r.log2 : Int) + 53) + k).toNat = 0 := by omega
  have he' : (-(-((r.log2 : Int) + 53) + k)).toNat = r.log2 + 53 - k := by omega
  have hsmall : ¬ m * 2 ^ 0 ≥ 2 ^ 64 * 2 ^ (r.log2 + 53 - k) := by
    have : (2 : Nat) ^ 53 ≤ 2 ^ 64 * 2 ^ (r.log2 + 53 - k) :=
      Nat.le_trans (Nat.pow_le_pow_right (by decide) (by decide)) (Nat.le_mul_of_pos_right _ (Nat.two_pow_pos _))
    omega
  have hspan : (period r).nanos = roundHalfEven (m * perSecond) (2 ^ (r.log2 + 53 - k)) := by
    unfold period
    rw [hmax, ofSeconds?_of_unpack hu, he, he', if_neg hsmall, Nat.pow_zero, Nat.mul_one]
  have hsplit : (2 : Nat) ^ (r.log2 + 53) = 2 ^ (r.log2 + 53 - k) * 2 ^ k := by
    rw [← Nat.pow_add, Nat.sub_add_cancel (by omega)]
  rw [hspan, roundHalfEven_eq_zero_iff (Nat.two_pow_pos _), hsplit]
  constructor
  · intro hle
    calc 2 * (m * 2 ^ k) * perSecond = 2 * (m * perSecond) * 2 ^ k := by ring
      _ ≤ 2 ^ (r.log2 + 53 - k) * 2 ^ k := Nat.mul_le_mul_right _ hle
  · intro hle
    have : 2 * (m * perSecond) * 2 ^ k ≤ 2 ^ (r.log2 + 53 - k) * 2 ^ k := by
      calc 2 * (m * perSecond) * 2 ^ k = 2 * (m * 2 ^ k) * perSecond := by ring
        _ ≤ _ := hle
    exact Nat.le_of_mul_le_mul_right this (Nat.two_pow_pos _)

/-- The whole quotient `2 ^ (log2 r + 53) / r` has 53 bits. -/
theorem two_pow_le_quotient {r : Nat} (h0 : 0 < r) : 2 ^ 52 ≤ 2 ^ (r.log2 + 53) / r := by
  rw [Nat.le_div_iff_mul_le h0]
  calc 2 ^ 52 * r ≤ 2 ^ 52 * 2 ^ (r.log2 + 1) := Nat.mul_le_mul_left _ Nat.lt_log2_self.le
    _ = 2 ^ (r.log2 + 53) := by rw [← Nat.pow_add]; congr 1; omega

/-- Below two billion, two billion whole quotients exceed the power they divide. -/
theorem lt_quotient_of_lt {r : Nat} (h0 : 0 < r) (hr : r < 2000000000) :
    2 ^ (r.log2 + 53) < 2000000000 * (2 ^ (r.log2 + 53) / r) := by
  have hq := two_pow_le_quotient h0
  generalize (2 : Nat) ^ (r.log2 + 53) = D at hq ⊢
  calc D < r * (D / r + 1) := Nat.lt_mul_div_succ D h0
    _ = r * (D / r) + r := by ring
    _ < r * (D / r) + D / r := by omega
    _ = (r + 1) * (D / r) := by ring
    _ ≤ 2000000000 * (D / r) := Nat.mul_le_mul_right _ (by omega)

/-- Above two billion, two billion times one more than the whole quotient stays within the
power it divides. -/
theorem quotient_succ_le_of_lt {r : Nat} (h0 : 0 < r) (hr : 2000000000 < r) :
    2000000000 * (2 ^ (r.log2 + 53) / r + 1) ≤ 2 ^ (r.log2 + 53) := by
  have hq := two_pow_le_quotient h0
  generalize (2 : Nat) ^ (r.log2 + 53) = D at hq ⊢
  calc 2000000000 * (D / r + 1) = 2000000000 * (D / r) + 2000000000 := by ring
    _ ≤ 2000000000 * (D / r) + D / r := by omega
    _ = 2000000001 * (D / r) := by ring
    _ ≤ r * (D / r) := Nat.mul_le_mul_right _ hr
    _ ≤ D := Nat.mul_div_le D r

/-- The tick period is a positive span exactly when the rate is at most two billion ticks a
second: above that, one second over the rate rounds to zero nanoseconds. -/
theorem period_ne_zero_iff {r : Nat} (h : r < 2 ^ 53) : (period r).nanos ≠ 0 ↔ r ≤ 2000000000 := by
  -- a rate of zero runs at one tick a second
  by_cases h0 : r = 0
  · subst h0
    have hone : (period 0).nanos = perSecond := by decide +kernel
    rw [hone]
    decide
  have hpos : 0 < r := Nat.pos_of_ne_zero h0
  -- at two billion, the double nearest `5e-10` lies above it and rounds to one nanosecond
  by_cases hmid : r = 2000000000
  · subst hmid
    have hone : (period 2000000000).nanos = 1 := by decide +kernel
    rw [hone]
    decide
  obtain ⟨n, hlo, hhi, hzero⟩ := period_eq_zero_iff_quotient hpos h
  rw [Ne, hzero]
  rcases Nat.lt_or_gt_of_ne hmid with hlt | hgt
  · have hbig := lt_quotient_of_lt hpos hlt
    have : 2000000000 * (2 ^ (r.log2 + 53) / r) ≤ 2 * n * perSecond := by
      rw [perSecond]
      omega
    omega
  · have hsmall := quotient_succ_le_of_lt hpos hgt
    have : 2 * n * perSecond ≤ 2000000000 * (2 ^ (r.log2 + 53) / r + 1) := by
      rw [perSecond]
      omega
    omega

/-- A finite positive number of seconds has a span exactly when it is below `2 ^ 64`. -/
theorem ofSeconds?_ok_iff {x : Float} (hfin : x.isFinite = true) (hpos : 0.0 < x) :
    (∃ s, ofSeconds? x = .ok s) ↔ x < 18446744073709551616.0 := by
  obtain ⟨m, e, hm, hu⟩ := unpack_of_finite_pos hfin hpos
  have hshape : shape x = .finite false m e := by
    rw [shape_eq_unpack, hu]
    rfl
  have hc : Canonical m e := (shapeOfBits_finite (UInt64.toNat_lt x.toBits) hshape).2
  have hlt : x < 18446744073709551616.0 ↔ e < 12 := by
    rw [lt_iff_compare, hu, unpack_two_pow_64]
    simp only [UnpackedFloat.compare, Option.some.injEq]
    -- the exponents decide, unless they are equal and the mantissas do
    rcases lt_trichotomy e 12 with hlt | heq | hgt
    · simp [hlt, Ordering.then, compare_lt_iff_lt.2 hlt]
    · have hnormal : 2 ^ 52 ≤ m := hc.normal.resolve_right (by simp [minExp]; omega)
      simpa [heq, Ordering.then, compare_lt_iff_lt] using hnormal
    · simp [Ordering.then, compare_gt_iff_gt.2 hgt, hgt.not_gt]
  rw [ofSeconds?_of_unpack hu, hlt, ← lt_two_pow_64_iff hc]
  split
  · simp only [reduceCtorEq, exists_false, false_iff]
    omega
  · simp only [Except.ok.injEq, exists_eq', true_iff]
    omega

end Duration
end ControlLoop