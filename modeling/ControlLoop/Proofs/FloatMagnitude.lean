import Mathlib
import ControlLoop.Plant.RateMonitor

/-! # Magnitudes of doubles

A span of time read as seconds is a finite double whenever the span is below `2 ^ 64`
seconds, the range of a clock that counts whole seconds in 64 bits
(`secondsOfNanos_isFinite`). The span is read as the double of its whole seconds plus the
double of its remaining nanoseconds over `1e9`; the sum, the quotient and both conversions
are rounded, and a rounding step can only overflow to infinity when its exact value is near
`2 ^ 1024`.

The argument follows the unpacked form of a double, in which a finite double is a sign, a
whole mantissa and an exponent. `Below k x` says that `x` is zero or finite with its leading
bit below position `k`, so `|x| < 2 ^ k`; NaN and the infinities are below no power.

## Stages

  * rounding: rounding a value below `2 ^ k` gives a double below `2 ^ (k + 1)`, since rounding
    up adds at most one place (`below_roundWithAccuracy`, `below_round`, `below_normalize`);
  * arithmetic: a sum of two values below `2 ^ k` is below `2 ^ (k + 2)` (`below_add`), and a
    quotient by a divisor with leading bit at `j` is below `2 ^ (k - j + 2)` (`below_div`);
  * bit patterns: the exponent field bounds what a bit pattern unpacks to (`below_unpack`),
    and packing an unpacked double that is below `2 ^ 972` keeps it below the same power
    (`below_unpack_pack`);
  * whole numbers: `Binary64.ofInt q` has an exponent field at most `log2 q + 1024`
    (`ofInt_bits`), so it is below `2 ^ (log2 q + 2)` (`below_ofInt`).
-/

open Float.Model Float.Model.UnpackedFloat

namespace ControlLoop

namespace Binary64

/-! ## §1. Leading bits -/

theorem log2_le_log2 {a b : Nat} (ha : a ≠ 0) (hab : a ≤ b) : a.log2 ≤ b.log2 :=
  (Nat.le_log2 (by omega)).2 (Nat.le_trans (Nat.log2_self_le ha) hab)

theorem log2_le_of_lt {n k : Nat} (h : n < 2 ^ (k + 1)) : n.log2 ≤ k := by
  by_cases h0 : n = 0
  · simp [h0]
  · exact Nat.le_of_lt_succ ((Nat.log2_lt h0).2 h)

/-- A nonzero quotient has its leading bit at least that of the divisor below the
dividend's. -/
theorem log2_div_add_le {a b : Nat} (h : a / b ≠ 0) : (a / b).log2 + b.log2 ≤ a.log2 := by
  have hb : b ≠ 0 := fun hb => h (by simp [hb])
  have ha : a ≠ 0 := fun ha => h (by simp [ha])
  refine (Nat.le_log2 ha).2 ?_
  calc 2 ^ ((a / b).log2 + b.log2) = 2 ^ (a / b).log2 * 2 ^ b.log2 := Nat.pow_add _ _ _
    _ ≤ a / b * b := Nat.mul_le_mul (Nat.log2_self_le h) (Nat.log2_self_le hb)
    _ ≤ a := Nat.div_mul_le_self a b

theorem log2_div_pow_add_le {x s : Nat} (h : x / 2 ^ s ≠ 0) : (x / 2 ^ s).log2 + s ≤ x.log2 := by
  simpa [Nat.log2_two_pow] using log2_div_add_le h

theorem log2_mul_pow {m s : Nat} (h : m ≠ 0) : (m * 2 ^ s).log2 = m.log2 + s := by
  refine (Nat.log2_eq_iff (Nat.mul_ne_zero h (Nat.pos_iff_ne_zero.1 (Nat.two_pow_pos s)))).2
    ⟨?_, ?_⟩
  · rw [Nat.pow_add]
    exact Nat.mul_le_mul_right _ (Nat.log2_self_le h)
  · rw [Nat.add_right_comm, Nat.pow_add]
    exact Nat.mul_lt_mul_of_pos_right Nat.lt_log2_self (Nat.two_pow_pos s)

/-- A sum has its leading bit at most one place above the larger summand's. -/
theorem log2_add_le (a b : Nat) : (a + b).log2 ≤ max a.log2 b.log2 + 1 := by
  by_cases hab : a + b = 0
  · simp [hab]
  refine Nat.le_of_lt_succ ((Nat.log2_lt hab).2 ?_)
  have ha : a < 2 ^ (max a.log2 b.log2 + 1) :=
    Nat.lt_of_lt_of_le Nat.lt_log2_self (Nat.pow_le_pow_right (by decide) (by omega))
  have hb : b < 2 ^ (max a.log2 b.log2 + 1) :=
    Nat.lt_of_lt_of_le Nat.lt_log2_self (Nat.pow_le_pow_right (by decide) (by omega))
  rw [Nat.pow_succ]
  omega

/-! ## §2. Magnitudes of unpacked doubles -/

/-- An unpacked double below `2 ^ k` in magnitude: zero, or finite with the leading bit of
its value below position `k`. -/
def Below (k : Int) : UnpackedFloat → Prop
  | .zero _ => True
  | .finite _ m e _ => totalExponent m e ≤ k
  | _ => False

theorem Below.isFinite {k : Int} {x : UnpackedFloat} (h : Below k x) : x.isFinite = true := by
  cases x <;> simp_all [Below, UnpackedFloat.isFinite]

theorem Below.mono {k k' : Int} {x : UnpackedFloat} (h : Below k x) (hk : k ≤ k') :
    Below k' x := by
  cases x with
  | finite s m e hm => exact Int.le_trans h hk
  | _ => exact h

/-! ## §3. Rounding -/

theorem shift_mantissa (em : ExtendedMantissa) (n : Nat) :
    (em >>> n).mantissa = em.mantissa / 2 ^ n := by
  induction n generalizing em with
  | zero => simp [HShiftRight.hShiftRight, Nat.repeat]
  | succ n ih =>
    change (ExtendedMantissa.shiftRightOne (em >>> n)).mantissa = _
    rw [ExtendedMantissa.shiftRightOne, ih, Nat.div_div_eq_div_mul, Nat.pow_succ]

theorem roundedMantissa_le (em : ExtendedMantissa) : em.roundedMantissa ≤ em.mantissa + 1 := by
  rcases em with ⟨m, r, s⟩
  cases r <;> cases s <;>
    simp [ExtendedMantissa.roundedMantissa, ExtendedMantissa.accuracy, Accuracy.roundToNearestEven]
  omega

theorem targetExponent_binary64 (t : Int) :
    Format.binary64.targetExponent t = max (t - 53) (-1074) := by
  simp only [Format.targetExponent, Format.mantissaBits, Format.minExponent]
  omega

/-- Shifting to the target exponent drops `sh` places, and the new exponent is the old one
or the target for 53 places, never below the least exponent. -/
theorem shift_spec (m : Nat) (e : Int) (a : Accuracy) :
    ∃ sh : Nat, (shiftToTargetExponent Format.binary64 m e a).1.mantissa = m / 2 ^ sh ∧
      (shiftToTargetExponent Format.binary64 m e a).2 = e + sh ∧
      e + sh ≤ max e (max (totalExponent m e - 53) (-1074)) := by
  refine ⟨(Format.binary64.targetExponent (totalExponent m e) - e).toNat, ?_, rfl, ?_⟩
  · simp only [shiftToTargetExponent, shiftToExponent, shift_mantissa]
    cases a with
    | exact => rfl
    | inexact o => cases o <;> rfl
  · rw [targetExponent_binary64]
    omega

/-- Rounding a value whose leading bit is below `k` gives a double below `2 ^ (k + 1)`. -/
theorem below_roundWithAccuracy (s : Sign) (m : Nat) (e : Int) (a : Accuracy) {k : Int}
    (hm : totalExponent m e ≤ k) (hk : -1073 ≤ k) :
    Below (k + 1) (roundWithAccuracy Format.binary64 s m e a) := by
  unfold roundWithAccuracy
  -- the first shift brings the mantissa to 53 places, the second takes back a carry
  obtain ⟨sh₁, hm₁, he₁, hle₁⟩ := shift_spec m e a
  generalize shiftToTargetExponent Format.binary64 m e a = first at hm₁ he₁ ⊢
  obtain ⟨em, e₁⟩ := first
  dsimp only at hm₁ he₁ ⊢
  obtain ⟨sh₂, hm₂, he₂, -⟩ := shift_spec em.roundedMantissa e₁ .exact
  generalize shiftToTargetExponent Format.binary64 em.roundedMantissa e₁ .exact = second
    at hm₂ he₂ ⊢
  obtain ⟨fem, fe⟩ := second
  dsimp only at hm₂ he₂ ⊢
  split
  · trivial
  · rename_i hne
    have hr := roundedMantissa_le em
    have hdrop := log2_div_pow_add_le (hm₂ ▸ hne)
    have hr0 : em.roundedMantissa ≠ 0 := fun h => hne (by simp [hm₂, h])
    simp only [Below, totalExponent] at hm ⊢
    rw [hm₂, he₂, he₁]
    by_cases hq : m / 2 ^ sh₁ = 0
    · -- everything was shifted out: the rounded mantissa is one, at an exponent below `k`
      have hlog : em.roundedMantissa.log2 = 0 := by
        have := (Nat.log2_lt hr0).2 (show em.roundedMantissa < 2 ^ 1 by omega)
        omega
      simp only [totalExponent] at hle₁
      omega
    · -- rounding up at most doubles what the first shift kept
      have hup : em.roundedMantissa.log2 ≤ (m / 2 ^ sh₁).log2 + 1 := by
        have hdouble := log2_le_log2 hr0
          (show em.roundedMantissa ≤ m / 2 ^ sh₁ + m / 2 ^ sh₁ by omega)
        have hsum := log2_add_le (m / 2 ^ sh₁) (m / 2 ^ sh₁)
        rw [Nat.max_self] at hsum
        omega
      have hkeep := log2_div_pow_add_le hq
      omega

theorem totalExponent_decreaseExponent (m : Nat) (e t : Int) :
    totalExponent (decreaseExponent m e t).1 (decreaseExponent m e t).2 ≤ totalExponent m e := by
  simp only [decreaseExponent, totalExponent, Nat.shiftLeft_eq]
  by_cases hm : m = 0
  · subst hm
    rw [Nat.zero_mul]
    omega
  · rw [log2_mul_pow hm]
    omega

theorem below_round (s : Sign) (m : Nat) (e : Int) {k : Int} (hm : totalExponent m e ≤ k)
    (hk : -1073 ≤ k) : Below (k + 1) (UnpackedFloat.round Format.binary64 s m e) := by
  unfold UnpackedFloat.round
  dsimp only
  have h := totalExponent_decreaseExponent m e (Format.binary64.targetExponent (totalExponent m e))
  generalize decreaseExponent m e _ = d at h ⊢
  obtain ⟨m', e'⟩ := d
  exact below_roundWithAccuracy s m' e' .exact (Int.le_trans h hm) hk

theorem below_normalize (n e : Int) (zs : Sign) {k : Int} (hn : totalExponent n.natAbs e ≤ k)
    (hk : -1073 ≤ k) : Below (k + 1) (UnpackedFloat.normalize Format.binary64 n e zs) := by
  unfold UnpackedFloat.normalize
  split
  · rename_i hlt
    have habs : (-n).toNat = n.natAbs := by
      have := Int.compare_eq_lt.1 hlt
      omega
    exact below_round _ _ _ (habs ▸ hn) hk
  · trivial
  · rename_i hgt
    have habs : n.toNat = n.natAbs := by
      have := Int.compare_eq_gt.1 hgt
      omega
    exact below_round _ _ _ (habs ▸ hn) hk

/-! ## §4. Addition and division -/

theorem natAbs_apply_add_le (s₁ s₂ : Sign) (a b : Nat) :
    (s₁.apply (a : Int) + s₂.apply (b : Int)).natAbs ≤ a + b := by
  cases s₁ <;> cases s₂ <;> simp only [Sign.apply] <;> omega

/-- Aligning a mantissa to a lower exponent keeps its leading bit. -/
theorem totalExponent_align {m : Nat} (hm : 0 < m) {e t : Int} (ht : t ≤ e) :
    totalExponent (m <<< (e - t).toNat) t = totalExponent m e := by
  simp only [totalExponent, Nat.shiftLeft_eq, log2_mul_pow (Nat.pos_iff_ne_zero.1 hm)]
  omega

/-- The sum of two doubles below `2 ^ k` is below `2 ^ (k + 2)`: one place for the exact sum,
one for its rounding. -/
theorem below_add {x y : UnpackedFloat} {k : Int} (hx : Below k x) (hy : Below k y)
    (hk : -1074 ≤ k) : Below (k + 2) (UnpackedFloat.add Format.binary64 x y) := by
  cases x with
  | notANumber => exact hx.elim
  | infinity => exact hx.elim
  | zero s₁ =>
    cases y with
    | zero s₂ =>
      simp only [UnpackedFloat.add]
      split <;> trivial
    | finite s₂ m₂ e₂ h₂ => exact (hy.mono (by omega) : Below (k + 2) _)
    | notANumber => exact hy.elim
    | infinity => exact hy.elim
  | finite s₁ m₁ e₁ h₁ =>
    cases y with
    | zero s₂ => exact (hx.mono (by omega) : Below (k + 2) _)
    | notANumber => exact hy.elim
    | infinity => exact hy.elim
    | finite s₂ m₂ e₂ h₂ =>
      -- both mantissas are aligned to the lower exponent and added exactly
      simp only [UnpackedFloat.add, decreaseExponent]
      have hx₁ := totalExponent_align h₁ (Int.min_le_left e₁ e₂)
      have hy₂ := totalExponent_align h₂ (Int.min_le_right e₁ e₂)
      generalize m₁ <<< (e₁ - min e₁ e₂).toNat = a at hx₁ ⊢
      generalize m₂ <<< (e₂ - min e₁ e₂).toNat = b at hy₂ ⊢
      simp only [Below, totalExponent] at hx hy hx₁ hy₂
      rw [show k + 2 = k + 1 + 1 by omega]
      refine below_normalize _ _ _ ?_ (by omega)
      have hsum := natAbs_apply_add_le s₁ s₂ a b
      have hlog := log2_add_le a b
      simp only [totalExponent]
      by_cases h0 : (s₁.apply (a : Int) + s₂.apply (b : Int)).natAbs = 0
      · rw [h0]
        simp only [Nat.log2_zero]
        omega
      · have := log2_le_log2 h0 hsum
        omega

/-- The quotient of a double below `2 ^ k` by a finite double with leading bit at `j` is
below `2 ^ (k - j + 2)`. -/
theorem below_div {x : UnpackedFloat} {k : Int} (s₂ : Sign) (m₂ : Nat) (e₂ : Int) (h₂ : 0 < m₂)
    (hx : Below k x) (hk : -1074 ≤ k - totalExponent m₂ e₂) :
    Below (k - totalExponent m₂ e₂ + 2)
      (UnpackedFloat.div Format.binary64 x (.finite s₂ m₂ e₂ h₂)) := by
  cases x with
  | notANumber => exact hx.elim
  | infinity => exact hx.elim
  | zero s₁ => trivial
  | finite s₁ m₁ e₁ h₁ =>
    simp only [UnpackedFloat.div, divCore]
    rw [show k - totalExponent m₂ e₂ + 2 = k - totalExponent m₂ e₂ + 1 + 1 by omega]
    refine below_roundWithAccuracy _ _ _ _ ?_ (by omega)
    -- the quotient's exponent lies at or below both the exponents' difference and the target
    generalize ht : min (e₁ - e₂)
      (Format.binary64.targetExponent (totalExponent m₁ e₁ - totalExponent m₂ e₂)) = t
    have ht₁ : t ≤ e₁ - e₂ := ht ▸ Int.min_le_left _ _
    have ht₂ : t ≤ max (totalExponent m₁ e₁ - totalExponent m₂ e₂ - 53) (-1074) := by
      rw [← ht, ← targetExponent_binary64]
      exact Int.min_le_right _ _
    simp only [Below, totalExponent, Nat.shiftLeft_eq] at hx hk ht₂ ⊢
    generalize hsh : (e₁ - e₂ - t).toNat = sh
    by_cases hq : m₁ * 2 ^ sh / m₂ = 0
    · rw [hq, Nat.log2_zero]
      omega
    · have hlog := log2_div_add_le hq
      rw [log2_mul_pow (Nat.pos_iff_ne_zero.1 h₁)] at hlog
      omega

/-! ## §5. Bit patterns -/

/-- A bit pattern whose exponent field is not all ones unpacks to a double below
`2 ^ (field - 1022)`. -/
theorem below_unpack (b : BitVec Format.binary64.numBits)
    (h : (@unpackExponent Format.binary64 b).toNat ≠ 2047) :
    Below ((@unpackExponent Format.binary64 b).toNat - 1022)
      (UnpackedFloat.unpack Format.binary64 b) := by
  have hmant := (@unpackMantissa Format.binary64 b).isLt
  have hexp := (@unpackExponent Format.binary64 b).isLt
  change (@unpackMantissa Format.binary64 b).toNat < 2 ^ 52 at hmant
  change (@unpackExponent Format.binary64 b).toNat < 2 ^ 11 at hexp
  unfold UnpackedFloat.unpack
  dsimp only
  split
  · rename_i hinf
    exact absurd (congrArg BitVec.toNat hinf) h
  · split
    · -- a zero exponent field: zero or a subnormal, below `2 ^ -1022`
      rename_i hzero
      split
      · trivial
      · rename_i hne
        have hpos : (@unpackMantissa Format.binary64 b).toNat ≠ 0 :=
          fun h0 => hne (BitVec.eq_of_toNat_eq h0)
        have hlog := (Nat.log2_lt hpos).2 hmant
        have hz : (@unpackExponent Format.binary64 b).toNat = 0 :=
          congrArg BitVec.toNat hzero
        simp only [Below, totalExponent, Format.exponentBias, hz]
        omega
    · -- a normal double: the hidden bit is the leading one
      have hm : (1#1 ++ @unpackMantissa Format.binary64 b).toNat =
          2 ^ 52 + (@unpackMantissa Format.binary64 b).toNat := by
        rw [BitVec.toNat_append, ← Nat.shiftLeft_add_eq_or_of_lt hmant]
        rfl
      have hlog : (2 ^ 52 + (@unpackMantissa Format.binary64 b).toNat).log2 = 52 :=
        (Nat.log2_eq_iff (by omega)).2 ⟨by omega, by omega⟩
      simp only [Below, totalExponent, Format.exponentBias, hm, hlog]
      omega

/-- The exponent field of packed components is the exponent packed. -/
theorem unpackExponent_packComponents (s : Sign) (ex : BitVec 11) (mant : BitVec 52) :
    @unpackExponent Format.binary64 (packComponents Format.binary64 s ex mant) = ex := by
  simp only [unpackExponent, packComponents]
  apply BitVec.eq_of_toNat_eq
  have hex := ex.isLt
  have hmant := mant.isLt
  rw [BitVec.toNat_cast, BitVec.extractLsb_toNat, BitVec.toNat_append, BitVec.toNat_append,
    ← Nat.shiftLeft_add_eq_or_of_lt hmant, ← Nat.shiftLeft_add_eq_or_of_lt hex]
  simp only [Nat.shiftLeft_eq, Nat.shiftRight_eq_div_pow]
  omega

/-- Packed components whose exponent field is not all ones unpack to a double below
`2 ^ (field - 1022)`. -/
theorem below_packComponents (s : Sign) (ex : BitVec 11) (mant : BitVec 52)
    (h : ex.toNat ≠ 2047) :
    Below (ex.toNat - 1022) (UnpackedFloat.unpack Format.binary64
      (packComponents Format.binary64 s ex mant)) := by
  have hb := below_unpack (packComponents Format.binary64 s ex mant)
    (by rw [unpackExponent_packComponents]; exact h)
  rwa [unpackExponent_packComponents] at hb

/-- Packing an unpacked double below `2 ^ k`, for `k` up to `972`, and unpacking the bits
again gives a double below `2 ^ k`. -/
theorem below_unpack_pack {x : UnpackedFloat} {k : Int} (hx : Below k x) (hlo : -1022 ≤ k)
    (hhi : k ≤ 972) :
    Below k (UnpackedFloat.unpack Format.binary64 (UnpackedFloat.pack Format.binary64 x)) := by
  cases x with
  | notANumber => exact hx.elim
  | infinity => exact hx.elim
  | zero s =>
    simp only [UnpackedFloat.pack, packedZero]
    exact (below_packComponents s 0 0 (by decide)).mono (Int.le_trans (by decide) hlo)
  | finite s m e hm =>
    simp only [Below, totalExponent] at hx
    simp only [UnpackedFloat.pack]
    split
    · -- the biased exponent cannot reach the infinities' field
      rename_i hover
      simp only [Format.exponentBias] at hover
      omega
    · split
      · -- a normal double: the field is the biased exponent
        rename_i hfit hnormal
        simp only [Format.exponentBias, Format.mantissaBits] at hfit hnormal
        have hfield : (BitVec.ofNat 11
            (e + ((Format.binary64.exponentBias : Nat) : Int) + ((52 : Nat) : Int)).toNat).toNat =
            (e + 1075).toNat := by
          rw [BitVec.toNat_ofNat]
          simp only [Format.exponentBias]
          omega
        refine (below_packComponents s _ _ ?_).mono ?_
        · rw [hfield]
          omega
        · rw [hfield]
          omega
      · -- a subnormal double: the field is zero
        exact (below_packComponents s 0#11 _ (by decide)).mono (Int.le_trans (by decide) hlo)

/-- The exponent field of a bit pattern. -/
theorem unpackExponent_toNat (b : Nat) :
    (@unpackExponent Format.binary64 (UInt64.ofNat b).toBitVec).toNat =
      b % 2 ^ 64 / 2 ^ 52 % 2048 := by
  simp [unpackExponent, BitVec.extractLsb_toNat, Nat.shiftRight_eq_div_pow]

theorem below_ofBitsNat {b : Nat} (hb : b / 2 ^ 52 % 2048 ≤ 1994) (h64 : b < 2 ^ 64) :
    Below (b / 2 ^ 52 % 2048 - 1022) (ofBitsNat b).toModel.unpack := by
  have hfield := unpackExponent_toNat b
  rw [Nat.mod_eq_of_lt h64] at hfield
  have hu := below_unpack (UInt64.ofNat b).toBitVec (by omega)
  rw [hfield] at hu
  exact below_unpack_pack hu (by omega) (by omega)

theorem below_float_add {x y : Float} {k : Int} (hx : Below k x.toModel.unpack)
    (hy : Below k y.toModel.unpack) (hlo : -1024 ≤ k) (hhi : k ≤ 970) :
    Below (k + 2) (x + y).toModel.unpack :=
  below_unpack_pack (below_add hx hy (by omega)) (by omega) (by omega)

theorem below_float_div {x y : Float} {k : Int} (s : Sign) (m : Nat) (e : Int) (hm : 0 < m)
    (hy : y.toModel.unpack = .finite s m e hm) (hx : Below k x.toModel.unpack)
    (hlo : -1024 ≤ k - totalExponent m e) (hhi : k - totalExponent m e ≤ 970) :
    Below (k - totalExponent m e + 2) (x / y).toModel.unpack := by
  show Below _ (UnpackedFloat.unpack Format.binary64
    (UnpackedFloat.pack Format.binary64
      (UnpackedFloat.div Format.binary64 x.toModel.unpack y.toModel.unpack)))
  rw [hy]
  exact below_unpack_pack (below_div s m e hm hx (by omega)) (by omega) (by omega)

/-! ## §6. Whole numbers -/

theorem roundHalfEven_le (n d : Nat) : roundHalfEven n d ≤ n / d + 1 := by
  unfold roundHalfEven
  dsimp only
  split <;> omega

theorem floorLog2_one {q : Nat} (hq : q ≠ 0) : floorLog2 q 1 = q.log2 := by
  have hle := Nat.log2_self_le hq
  have hone : Nat.log2 1 = 0 := by decide
  simp only [floorLog2, hone]
  rw [if_pos (by simp; omega)]
  omega

/-- A whole number scaled to 53 places at the exponent `log2 q - 52` stays below `2 ^ 53`. -/
theorem scaled_div_lt (q : Nat) :
    q * 2 ^ (-((q.log2 : Int) - 52)).toNat / (1 * 2 ^ ((q.log2 : Int) - 52).toNat) < 2 ^ 53 := by
  rw [Nat.one_mul, Nat.div_lt_iff_lt_mul (Nat.two_pow_pos _), ← Nat.pow_add]
  calc q * 2 ^ (-((q.log2 : Int) - 52)).toNat
      < 2 ^ (q.log2 + 1) * 2 ^ (-((q.log2 : Int) - 52)).toNat :=
        Nat.mul_lt_mul_of_pos_right Nat.lt_log2_self (Nat.two_pow_pos _)
    _ = 2 ^ (53 + ((q.log2 : Int) - 52).toNat) := by
        rw [← Nat.pow_add]
        congr 1
        omega

/-- The double of a whole number below `2 ^ 971` has a bit pattern whose exponent field is
at most `log2 q + 1024`: one more than the number's own, when its rounding carries. -/
theorem ofInt_bits (q : Nat) (hq : q.log2 ≤ 970) :
    ∃ b, ofInt (q : Int) = ofBitsNat b ∧ b < 2 ^ 64 ∧ b / 2 ^ 52 % 2048 ≤ q.log2 + 1024 := by
  have hsign : decide ((q : Int) < 0) = false := by simp
  simp only [ofInt, hsign, Int.natAbs_natCast]
  by_cases h0 : q = 0
  · subst h0
    exact ⟨0, by simp [ofRatio, zero], by decide, by decide⟩
  unfold ofRatio
  rw [if_neg (by omega), floorLog2_one h0, fractionBits, minExp]
  dsimp only
  rw [show max ((q.log2 : Int) - ((52 : Nat) : Int)) (-1074) = (q.log2 : Int) - 52 by omega]
  have hmant := Nat.le_trans (roundHalfEven_le _ _) (Nat.succ_le_of_lt (scaled_div_lt q))
  generalize roundHalfEven _ _ = mant at hmant
  split
  · -- the mantissa carried to `2 ^ 53`: the next exponent, with an empty fraction
    refine ⟨_, rfl, ?_⟩
    simp only [bitsOf, fractionBits, Bool.false_eq_true, if_false]
    rw [if_neg (by omega), if_neg (by omega)]
    omega
  · refine ⟨_, rfl, ?_⟩
    simp only [bitsOf, fractionBits, Bool.false_eq_true, if_false]
    split
    · omega
    · rw [if_neg (by omega)]
      omega

theorem below_ofInt (q : Nat) (hq : q.log2 ≤ 970) :
    Below (q.log2 + 2) (ofInt (q : Int)).toModel.unpack := by
  obtain ⟨b, hb, h64, hfield⟩ := ofInt_bits q hq
  rw [hb]
  exact (below_ofBitsNat (by omega) h64).mono (by omega)

/-! ## §7. Spans of time -/

theorem unpack_billion :
    (1e9 : Float).toModel.unpack = .finite .positive 8388608000000000 (-23) (by decide) := rfl

theorem totalExponent_billion : totalExponent 8388608000000000 (-23) = 30 := by decide

/-- A span below `2 ^ 64` seconds reads as a finite number of seconds: its whole seconds are
below `2 ^ 65` as a double, its remaining nanoseconds over `1e9` below `2 ^ 3`, and their sum
below `2 ^ 67`. -/
theorem secondsOfNanos_isFinite {n : Nat} (h : n < 2 ^ 64 * nanosPerSecond) :
    (secondsOfNanos n).isFinite = true := by
  have hq : (n / nanosPerSecond).log2 ≤ 63 :=
    log2_le_of_lt ((Nat.div_lt_iff_lt_mul (by decide)).2 h)
  have hr : (n % nanosPerSecond).log2 ≤ 29 :=
    log2_le_of_lt (Nat.lt_of_lt_of_le (Nat.mod_lt _ (by decide)) (by decide))
  have hwhole : Below 65 (ofInt ((n / nanosPerSecond : Nat) : Int)).toModel.unpack :=
    (below_ofInt _ (by omega)).mono (by omega)
  have hpart : Below 31 (ofInt ((n % nanosPerSecond : Nat) : Int)).toModel.unpack :=
    (below_ofInt _ (by omega)).mono (by omega)
  have hquot := below_float_div _ _ _ _ unpack_billion hpart
    (by rw [totalExponent_billion]; decide) (by rw [totalExponent_billion]; decide)
  rw [totalExponent_billion] at hquot
  exact (below_float_add hwhole (hquot.mono (by decide)) (by decide) (by decide)).isFinite

end Binary64

end ControlLoop
