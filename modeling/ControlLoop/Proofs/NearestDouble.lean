import Mathlib
import ControlLoop.Decimal.Nearest
import ControlLoop.Decimal.Shortest

/-! # Rounding a quotient to the nearest double

`Binary64.ofRatio neg num den` rounds `num / den` to a double. This module proves that it
rounds to nearest, ties to even: every quotient in the rounding interval of a finite double
`mant · 2 ^ exp` (`Decimal.Interval.around`, read as a set of rationals by
`Decimal.Interval.Mem`) gives that double (`Binary64.ofRatio_eq_of_mem`).

## Stages

  * exponents: `floorLog2 num den` is `⌊log2 (num / den)⌋` (`floorLog2_spec`, `floorLog2_eq`);
  * whole numbers: `roundHalfEven n d` is the whole number within a half of `n / d`, an exact
    half going to the even one (`roundHalfEven_eq`);
  * doubles: a quotient within half a gap of `mant · 2 ^ exp` has its leading bit at `exp + 52`,
    so `ofRatio` rounds it at the exponent `exp` and gets `mant` back; the one exception is a
    quotient in the narrow quarter gap below the least mantissa of a binade, which is rounded
    one place finer and carries back up to `2 ^ 52 · 2 ^ exp`.
-/

namespace ControlLoop

namespace Decimal.Interval

/-- The rationals in an interval: between its ends, which belong to it when it is closed. -/
def Mem (i : Interval) (q : ℚ) : Prop :=
  if i.closed then (i.lower : ℚ) * 2 ^ i.scale ≤ q ∧ q ≤ (i.upper : ℚ) * 2 ^ i.scale
  else (i.lower : ℚ) * 2 ^ i.scale < q ∧ q < (i.upper : ℚ) * 2 ^ i.scale

end Decimal.Interval

namespace Binary64

/-- `mant · 2 ^ exp` is a finite nonzero double in the form `shapeOfBits` gives: a mantissa of
at most 53 bits, of exactly 53 unless the exponent is the least one, and an exponent that keeps
the double finite. -/
structure Canonical (mant : Nat) (exp : Int) : Prop where
  pos : 0 < mant
  lt : mant < 2 ^ 53
  normal : 2 ^ 52 ≤ mant ∨ exp = minExp
  exp_ge : minExp ≤ exp
  exp_le : exp ≤ 971

/-! ## §1. Powers -/

/-- A power with an integer exponent, split at its sign into natural powers. -/
theorem zpow_eq_div_toNat (b : ℚ) (z : ℤ) : b ^ z = b ^ z.toNat / b ^ (-z).toNat := by
  rcases le_total 0 z with h | h
  · rw [Int.toNat_of_nonpos (by omega : -z ≤ 0), pow_zero, div_one, ← zpow_natCast,
      Int.toNat_of_nonneg h]
  · rw [Int.toNat_of_nonpos h, pow_zero, one_div, ← zpow_natCast, Int.toNat_of_nonneg (by omega),
      zpow_neg, inv_inv]

/-- A power of two shifted by a natural exponent. -/
theorem two_zpow_add_natCast (e : ℤ) (n : ℕ) : (2 : ℚ) ^ (e + n) = 2 ^ n * 2 ^ e := by
  rw [zpow_add₀ two_ne_zero, zpow_natCast, mul_comm]

/-- Quotients of naturals compare as their cross products. -/
theorem natCast_div_le_div_iff {a b c d : ℕ} (hb : 0 < b) (hd : 0 < d) :
    (a : ℚ) / b ≤ c / d ↔ a * d ≤ c * b := by
  rw [div_le_div_iff₀ (by exact_mod_cast hb) (by exact_mod_cast hd)]
  exact_mod_cast Iff.rfl

/-- A quotient scaled by a power of two, as `ofRatio` scales it: the power's natural halves
go to the numerator and the denominator. -/
theorem scaled_quotient (num den : ℕ) (z : ℤ) :
    ((num * 2 ^ (-z).toNat : ℕ) : ℚ) / ((den * 2 ^ z.toNat : ℕ) : ℚ) = num / den * 2 ^ (-z) := by
  rw [zpow_eq_div_toNat 2, neg_neg]
  push_cast
  rw [div_mul_div_comm, mul_comm (den : ℚ)]

/-! ## §2. The leading bit of a quotient -/

/-- `floorLog2 num den` is `⌊log2 (num / den)⌋`: the difference of the bit lengths, less one
when the quotient falls short of that power. -/
theorem floorLog2_spec {num den : ℕ} (hn : 0 < num) (hd : 0 < den) :
    (2 : ℚ) ^ floorLog2 num den ≤ num / den ∧ (num : ℚ) / den < 2 ^ (floorLog2 num den + 1) := by
  have hdenQ : (0 : ℚ) < den := by exact_mod_cast hd
  -- the bit lengths bound both numbers
  have h1 : (2 : ℚ) ^ (num.log2 : ℤ) ≤ num := by
    rw [zpow_natCast]; exact_mod_cast Nat.log2_self_le hn.ne'
  have h2 : (num : ℚ) < 2 ^ ((num.log2 : ℤ) + 1) := by
    rw [← Nat.cast_succ, zpow_natCast]; exact_mod_cast Nat.lt_log2_self
  have h3 : (2 : ℚ) ^ (den.log2 : ℤ) ≤ den := by
    rw [zpow_natCast]; exact_mod_cast Nat.log2_self_le hd.ne'
  have h4 : (den : ℚ) < 2 ^ ((den.log2 : ℤ) + 1) := by
    rw [← Nat.cast_succ, zpow_natCast]; exact_mod_cast Nat.lt_log2_self
  set a : ℤ := (num.log2 : ℤ)
  set b : ℤ := (den.log2 : ℤ)
  have hlo : (2 : ℚ) ^ (a - b - 1) < num / den := by
    rw [lt_div_iff₀ hdenQ]
    calc (2 : ℚ) ^ (a - b - 1) * den < 2 ^ (a - b - 1) * 2 ^ (b + 1) :=
          mul_lt_mul_of_pos_left h4 (by positivity)
      _ = 2 ^ a := by rw [← zpow_add₀ two_ne_zero]; ring_nf
      _ ≤ num := h1
  have hhi : (num : ℚ) / den < 2 ^ (a - b + 1) := by
    rw [div_lt_iff₀ hdenQ]
    calc (num : ℚ) < 2 ^ (a + 1) := h2
      _ = 2 ^ (a - b + 1) * 2 ^ b := by rw [← zpow_add₀ two_ne_zero]; ring_nf
      _ ≤ 2 ^ (a - b + 1) * den := mul_le_mul_of_nonneg_left h3 (by positivity)
  -- the test in `floorLog2` compares the quotient with `2 ^ (a - b)`
  have htest : num * 2 ^ (-(a - b)).toNat ≥ den * 2 ^ (a - b).toNat ↔
      (2 : ℚ) ^ (a - b) ≤ num / den := by
    have key := @natCast_div_le_div_iff (2 ^ (a - b).toNat) (2 ^ (-(a - b)).toNat) num den
      (by positivity) hd
    push_cast at key
    rw [zpow_eq_div_toNat 2, key, ge_iff_le, Nat.mul_comm den]
  unfold floorLog2
  dsimp only
  split_ifs with h
  · exact ⟨htest.1 h, hhi⟩
  · refine ⟨hlo.le, ?_⟩
    rw [sub_add_cancel]
    exact lt_of_not_ge (fun h' => h (htest.2 h'))

/-- The leading bit of a quotient is the only `t` with `2 ^ t ≤ num / den < 2 ^ (t + 1)`. -/
theorem floorLog2_eq {num den : ℕ} {t : ℤ} (hn : 0 < num) (hd : 0 < den)
    (h1 : (2 : ℚ) ^ t ≤ num / den) (h2 : (num : ℚ) / den < 2 ^ (t + 1)) :
    floorLog2 num den = t := by
  obtain ⟨f1, f2⟩ := floorLog2_spec hn hd
  have c1 : floorLog2 num den < t + 1 :=
    (zpow_lt_zpow_iff_right₀ one_lt_two).1 (lt_of_le_of_lt f1 h2)
  have c2 : t < floorLog2 num den + 1 :=
    (zpow_lt_zpow_iff_right₀ one_lt_two).1 (lt_of_le_of_lt h1 f2)
  omega

/-! ## §3. Rounding a quotient to a whole number -/

/-- `roundHalfEven n d` is `r` when `n / d` is within a half of `r`, and at an exact half only
when `r` is even. -/
theorem roundHalfEven_eq {n d r : ℕ} (hd : 0 < d)
    (hlo : (r : ℚ) - 1 / 2 ≤ n / d) (hhi : (n : ℚ) / d ≤ r + 1 / 2)
    (hlo_tie : (n : ℚ) / d = r - 1 / 2 → r % 2 = 0)
    (hhi_tie : (n : ℚ) / d = r + 1 / 2 → r % 2 = 0) :
    roundHalfEven n d = r := by
  have hdQ : (0 : ℚ) < d := by exact_mod_cast hd
  -- in whole numbers: `(2r - 1) d ≤ 2n ≤ (2r + 1) d`
  have hlo' : 2 * r * d ≤ 2 * n + d := by
    have : ((r : ℚ) - 1 / 2) * d ≤ n := (le_div_iff₀ hdQ).1 hlo
    have : (2 * r * d : ℚ) ≤ 2 * n + d := by linarith
    exact_mod_cast this
  have hhi' : 2 * n ≤ (2 * r + 1) * d := by
    have : (n : ℚ) ≤ (r + 1 / 2) * d := (div_le_iff₀ hdQ).1 hhi
    have : (2 * n : ℚ) ≤ (2 * r + 1) * d := by linarith
    exact_mod_cast this
  have hlo_tie' : 2 * n + d = 2 * r * d → r % 2 = 0 := fun h => hlo_tie (by
    rw [div_eq_iff hdQ.ne']
    have : (2 * n + d : ℚ) = 2 * r * d := by exact_mod_cast h
    linarith)
  have hhi_tie' : 2 * n = (2 * r + 1) * d → r % 2 = 0 := fun h => hhi_tie (by
    rw [div_eq_iff hdQ.ne']
    have : (2 * n : ℚ) = (2 * r + 1) * d := by exact_mod_cast h
    linarith)
  -- `n = q d + rem`, and `r` is `q` or `q + 1`
  have hdiv := Nat.div_add_mod n d
  have hmod := Nat.mod_lt n hd
  set q := n / d
  set rem := n % d
  have hq_le : q ≤ r := by
    by_contra hlt
    have : (r + 1) * d ≤ q * d := Nat.mul_le_mul_right d (by omega)
    nlinarith
  have hr_le : r ≤ q + 1 := by
    by_contra hlt
    have : (q + 2) * d ≤ r * d := Nat.mul_le_mul_right d (by omega)
    nlinarith
  have hqd : (2 * q + 1) * d = 2 * (d * q) + d := by ring
  have hqd' : 2 * (q + 1) * d = 2 * (d * q) + 2 * d := by ring
  unfold roundHalfEven
  rcases Nat.eq_or_lt_of_le hr_le with hr | hr
  · -- `r = q + 1`: the remainder is at least half of `d`, and a tie rounds up from odd `q`
    subst hr
    rw [if_pos]
    have h2 : d ≤ 2 * rem := by nlinarith
    rcases Nat.eq_or_lt_of_le h2 with h | h
    · right
      refine ⟨h.symm, ?_⟩
      have := hlo_tie' (by omega)
      omega
    · left; omega
  · -- `r = q`: the remainder is at most half of `d`, and a tie stays at even `q`
    have hr : r = q := by omega
    subst hr
    rw [if_neg]
    have h2 : 2 * rem ≤ d := by nlinarith
    rintro (h | ⟨h, hodd⟩)
    · omega
    · have := hhi_tie' (by omega)
      omega

/-! ## §4. The nearest double -/

/-- Where a rational `x` lies when `x · 2 ^ exp` is in the rounding interval of
`mant · 2 ^ exp`: within a half of `mant`, or a quarter below it at the least mantissa of a
binade above the least exponent; at a distance of exactly a half only when `mant` is even. -/
structure NearMantissa (m : ℕ) (e : ℤ) (x : ℚ) : Prop where
  lo : (m : ℚ) - 1 / 2 ≤ x
  hi : x ≤ m + 1 / 2
  lo_tie : x = m - 1 / 2 → m % 2 = 0 ∧ ¬(m = 2 ^ 52 ∧ e > minExp)
  hi_tie : x = m + 1 / 2 → m % 2 = 0
  narrow : m = 2 ^ 52 → e > minExp → (m : ℚ) - 1 / 4 ≤ x

/-- A quotient in the rounding interval of `mant · 2 ^ exp`, counted in units of `2 ^ exp`. -/
theorem nearMantissa_of_mem {m : ℕ} {e : ℤ} {q : ℚ} (hm : 0 < m)
    (h : (Decimal.Interval.around m e).Mem q) : NearMantissa m e (q / 2 ^ e) := by
  have he : (0 : ℚ) < 2 ^ e := by positivity
  set x := q / 2 ^ e with hx
  have hq : q = x * 2 ^ e := by rw [hx, div_mul_cancel₀ _ he.ne']
  -- the interval's unit is a quarter of the double's gap
  have key : ∀ c : ℚ, c * 2 ^ (e - 2) = c / 4 * 2 ^ e := fun c => by
    rw [zpow_sub₀ two_ne_zero]; ring
  have hlower : (Decimal.Interval.around m e).lower =
      4 * m - (if m = 2 ^ 52 ∧ e > minExp then 1 else 2) := rfl
  unfold Decimal.Interval.Mem at h
  rw [hlower, show (Decimal.Interval.around m e).upper = 4 * m + 2 from rfl,
    show (Decimal.Interval.around m e).scale = e - 2 from rfl,
    show (Decimal.Interval.around m e).closed = decide (m % 2 = 0) from rfl, key, key, hq,
    mul_le_mul_iff_of_pos_right he, mul_le_mul_iff_of_pos_right he,
    mul_lt_mul_iff_of_pos_right he, mul_lt_mul_iff_of_pos_right he] at h
  have hmQ : (1 : ℚ) ≤ m := by exact_mod_cast hm
  have hupper : ((4 * m + 2 : ℕ) : ℚ) / 4 = m + 1 / 2 := by push_cast; ring
  rw [hupper] at h
  by_cases hnar : m = 2 ^ 52 ∧ e > minExp
  · -- the gap below is half as wide
    have hl : ((4 * m - 1 : ℕ) : ℚ) / 4 = m - 1 / 4 := by
      rw [Nat.cast_sub (by omega)]; push_cast; ring
    have hev : m % 2 = 0 := by rw [hnar.1]; decide
    rw [if_pos hnar, hl, if_pos (decide_eq_true hev)] at h
    exact ⟨by linarith [h.1], h.2, fun h' => by linarith [h.1], fun _ => hev, fun _ _ => h.1⟩
  · have hl : ((4 * m - 2 : ℕ) : ℚ) / 4 = m - 1 / 2 := by
      rw [Nat.cast_sub (by omega)]; push_cast; ring
    rw [if_neg hnar, hl] at h
    by_cases hev : m % 2 = 0
    · -- the ends belong to the interval
      rw [if_pos (decide_eq_true hev)] at h
      exact ⟨h.1, h.2, fun _ => ⟨hev, hnar⟩, fun _ => hev, fun h1 h2 => absurd ⟨h1, h2⟩ hnar⟩
    · rw [if_neg (by simpa using hev)] at h
      exact ⟨h.1.le, h.2.le, fun h' => by linarith [h.1], fun h' => by linarith [h.2],
        fun h1 h2 => absurd ⟨h1, h2⟩ hnar⟩

/-- `ofRatio` at the exponent it picks and the mantissa it rounds to there. -/
theorem ofRatio_eq_bits {neg : Bool} {num den : ℕ} (hn : 0 < num) (hd : 0 < den) {E : ℤ}
    {M : ℕ} (hE : max (floorLog2 num den - fractionBits) minExp = E)
    (hM : roundHalfEven (num * 2 ^ (-E).toNat) (den * 2 ^ E.toNat) = M) :
    ofRatio neg num den = if M = 2 ^ (fractionBits + 1)
      then ofBitsNat (bitsOf neg (2 ^ fractionBits) (E + 1)) else ofBitsNat (bitsOf neg M E) := by
  simp only [ofRatio, hn.ne', hd.ne', or_self, if_false, hE, hM]

/-- Rounded at the double's own exponent, a quotient within half a gap gives its mantissa. -/
theorem ofRatio_of_exp {neg : Bool} {num den m : ℕ} {e : ℤ} (hc : Canonical m e) (hn : 0 < num)
    (hd : 0 < den) (hE : max (floorLog2 num den - fractionBits) minExp = e)
    (hx : NearMantissa m e ((num : ℚ) / den / 2 ^ e)) :
    ofRatio neg num den = ofBitsNat (bitsOf neg m e) := by
  have hs : ((num * 2 ^ (-e).toNat : ℕ) : ℚ) / ((den * 2 ^ e.toNat : ℕ) : ℚ) =
      (num : ℚ) / den / 2 ^ e := by
    rw [scaled_quotient, zpow_neg, ← div_eq_mul_inv]
  have hM : roundHalfEven (num * 2 ^ (-e).toNat) (den * 2 ^ e.toNat) = m := by
    refine roundHalfEven_eq (by positivity) ?_ ?_ ?_ ?_ <;> rw [hs]
    · exact hx.lo
    · exact hx.hi
    · exact fun h => (hx.lo_tie h).1
    · exact hx.hi_tie
  rw [ofRatio_eq_bits hn hd hE hM, if_neg (by have := hc.lt; simp [fractionBits]; omega)]

/-- In the narrow quarter gap below the least mantissa of a binade, the quotient is rounded
one place finer, where it rounds up to `2 ^ 53`, and the carry gives back `2 ^ 52 · 2 ^ exp`. -/
theorem ofRatio_of_carry {neg : Bool} {num den : ℕ} {e : ℤ} (hn : 0 < num) (hd : 0 < den)
    (hE : max (floorLog2 num den - fractionBits) minExp = e - 1)
    (hlo : (2 : ℚ) ^ 52 - 1 / 4 ≤ (num : ℚ) / den / 2 ^ e)
    (hhi : (num : ℚ) / den / 2 ^ e < 2 ^ 52) :
    ofRatio neg num den = ofBitsNat (bitsOf neg (2 ^ 52) e) := by
  have hs : ((num * 2 ^ (-(e - 1)).toNat : ℕ) : ℚ) / ((den * 2 ^ (e - 1).toNat : ℕ) : ℚ) =
      2 * ((num : ℚ) / den / 2 ^ e) := by
    rw [scaled_quotient, neg_sub, zpow_sub₀ two_ne_zero, zpow_one]
    ring
  have hM : roundHalfEven (num * 2 ^ (-(e - 1)).toNat) (den * 2 ^ (e - 1).toNat) = 2 ^ 53 := by
    refine roundHalfEven_eq (by positivity) ?_ ?_ (fun _ => by decide) (fun _ => by decide) <;>
      rw [hs] <;> push_cast <;> linarith
  rw [ofRatio_eq_bits hn hd hE hM, if_pos (show (2 : ℕ) ^ 53 = 2 ^ (fractionBits + 1) from rfl),
    sub_add_cancel]
  rfl

/-- A canonical mantissa lies more than a half below `2 ^ 53`. -/
theorem Canonical.add_half_lt {m : ℕ} {e : ℤ} (hc : Canonical m e) : (m : ℚ) + 1 / 2 < 2 ^ 53 := by
  have : ((m + 1 : ℕ) : ℚ) ≤ ((2 ^ 53 : ℕ) : ℚ) := by exact_mod_cast hc.lt
  push_cast at this
  linarith

/-- Every quotient in the rounding interval of a finite double rounds to that double: the
reader's rounding is to nearest, ties to even. -/
theorem ofRatio_eq_of_mem {neg : Bool} {num den m : ℕ} {e : ℤ} (hc : Canonical m e)
    (hq : (Decimal.Interval.around m e).Mem ((num : ℚ) / den)) :
    ofRatio neg num den = ofBitsNat (bitsOf neg m e) := by
  have hx := nearMantissa_of_mem hc.pos hq
  set x := (num : ℚ) / den / 2 ^ e with hxdef
  have he : (0 : ℚ) < 2 ^ e := by positivity
  have hqx : (num : ℚ) / den = x * 2 ^ e := by rw [hxdef, div_mul_cancel₀ _ he.ne']
  have hmQ : (1 : ℚ) ≤ m := by exact_mod_cast hc.pos
  have hm53 := hc.add_half_lt
  -- the numerator and the denominator are positive
  have hqpos : (0 : ℚ) < num / den := by rw [hqx]; nlinarith [hx.lo]
  have hn : 0 < num := by
    rcases Nat.eq_zero_or_pos num with h | h
    · rw [h, Nat.cast_zero, zero_div] at hqpos; exact absurd hqpos (lt_irrefl 0)
    · exact h
  have hd : 0 < den := by
    rcases Nat.eq_zero_or_pos den with h | h
    · rw [h, Nat.cast_zero, div_zero] at hqpos; exact absurd hqpos (lt_irrefl 0)
    · exact h
  -- the quotient lies below `2 ^ (exp + 53)`
  have hq_hi : (num : ℚ) / den < 2 ^ (e + (53 : ℕ)) := by
    rw [hqx, two_zpow_add_natCast]
    exact mul_lt_mul_of_pos_right (by linarith [hx.hi]) he
  by_cases hbig : (2 : ℚ) ^ 52 ≤ x
  · -- the leading bit is at `exp + 52`: rounded at the exponent `exp`
    have ht : floorLog2 num den = e + (52 : ℕ) := by
      refine floorLog2_eq hn hd ?_ (by rw [add_assoc]; exact hq_hi)
      rw [hqx, two_zpow_add_natCast]
      exact mul_le_mul_of_nonneg_right hbig he.le
    refine ofRatio_of_exp hc hn hd ?_ hx
    rw [ht]
    have := hc.exp_ge
    simp only [fractionBits]
    omega
  · have hlt : (num : ℚ) / den < 2 ^ (e + (52 : ℕ)) := by
      rw [hqx, two_zpow_add_natCast]
      exact mul_lt_mul_of_pos_right (lt_of_not_ge hbig) he
    have ht := (floorLog2_spec hn hd).1
    have hle : floorLog2 num den < e + (52 : ℕ) :=
      (zpow_lt_zpow_iff_right₀ one_lt_two).1 (lt_of_le_of_lt ht hlt)
    by_cases hnar : m = 2 ^ 52 ∧ e > minExp
    · -- the narrow gap below `2 ^ 52 · 2 ^ exp`: the leading bit is at `exp + 51`
      obtain ⟨hm, hgt⟩ := hnar
      have hxlo : (2 : ℚ) ^ 52 - 1 / 4 ≤ x := by
        have := hx.narrow hm hgt
        rw [hm] at this
        push_cast at this
        exact this
      have ht51 : floorLog2 num den = e + (51 : ℕ) := by
        refine floorLog2_eq hn hd ?_ (by rw [add_assoc]; exact hlt)
        rw [hqx, two_zpow_add_natCast]
        refine mul_le_mul_of_nonneg_right ?_ he.le
        linarith
      have hE : max (floorLog2 num den - fractionBits) minExp = e - 1 := by
        rw [ht51]; simp only [fractionBits]; omega
      rw [hm]
      exact ofRatio_of_carry hn hd hE hxlo (lt_of_not_ge hbig)
    · -- below the least normal mantissa, or at it at the least exponent: `exp` is the least
      have hemin : e = minExp := by
        rcases hc.normal with hn52 | hmin
        · have hm52 : m = 2 ^ 52 := by
            have : (m : ℚ) < 2 ^ 52 + 1 := by linarith [hx.lo, lt_of_not_ge hbig]
            have : m < 2 ^ 52 + 1 := by exact_mod_cast this
            omega
          have := hc.exp_ge
          by_contra hne
          exact hnar ⟨hm52, by omega⟩
        · exact hmin
      refine ofRatio_of_exp hc hn hd ?_ hx
      simp only [fractionBits]
      rw [hemin] at hle ⊢
      simp only [minExp] at hle ⊢
      omega

end Binary64

end ControlLoop
