import ControlLoop.Proofs.NearestDouble

/-! # The shortest decimal lies in the rounding interval

`Decimal.shortest tie mant exp` tries the grids `10 ^ k` from `10 ^ lead` down and keeps the
first grid point it finds in the rounding interval of `mant · 2 ^ exp`. This module proves
that what it returns lies in that interval (`Decimal.shortest_mem`), so that the double
nearest to it is the one it was made from.

## Stages

  * the comparisons: `gridDen` and `gridNum` compare `c · 10 ^ k` with `x · 2 ^ s` exactly,
    so `Interval.holds` is membership of the rational `c · 10 ^ k` (`Interval.holds_iff`);
  * a grid point is only ever picked from the interval (`Interval.holds_of_pick`);
  * the leading exponent: `leadExp`'s guess from the binary length is at most one too large,
    since `78913 / 2 ^ 18` lies within `1 / 2 ^ 18` below `log10 2`, and the correction
    steps end on a power of ten at most the value (`Interval.powLe_leadExp`);
  * seventeen digits: seventeen places below that power, the grid is finer than the gap
    below the value, so the grid point just below the value is in the interval and the
    search never falls through (`Interval.holds_firstHit`).
-/

namespace ControlLoop

namespace Decimal

open Binary64

/-- The number `digits · 10 ^ exp`. -/
def toRat (d : Decimal) : ℚ := d.digits * 10 ^ d.exp

/-! ## §1. Comparing on a common denominator -/

/-- `c · 10 ^ k` against `x · 2 ^ s`, both sides over the same denominator. -/
theorem grid_cross (s k : ℤ) (c x : ℕ) :
    ((c * gridDen s k : ℕ) : ℚ) = c * 10 ^ k * (10 ^ (-k).toNat * 2 ^ (-s).toNat) ∧
      ((gridNum s k x : ℕ) : ℚ) = x * 2 ^ s * (10 ^ (-k).toNat * 2 ^ (-s).toNat) := by
  have h10 : (0 : ℚ) < 10 ^ (-k).toNat := by positivity
  have h2 : (0 : ℚ) < 2 ^ (-s).toNat := by positivity
  simp only [gridDen, gridNum, zpow_eq_div_toNat 10 k, zpow_eq_div_toNat 2 s]
  push_cast
  constructor <;> field_simp

theorem le_gridNum_iff (s k : ℤ) (c x : ℕ) :
    c * gridDen s k ≤ gridNum s k x ↔ (c : ℚ) * 10 ^ k ≤ x * 2 ^ s := by
  obtain ⟨hl, hr⟩ := grid_cross s k c x
  have hpos : (0 : ℚ) < 10 ^ (-k).toNat * 2 ^ (-s).toNat := by positivity
  rw [← mul_le_mul_iff_of_pos_right hpos, ← hl, ← hr]
  exact Nat.cast_le.symm

theorem lt_gridNum_iff (s k : ℤ) (c x : ℕ) :
    c * gridDen s k < gridNum s k x ↔ (c : ℚ) * 10 ^ k < x * 2 ^ s := by
  obtain ⟨hl, hr⟩ := grid_cross s k c x
  have hpos : (0 : ℚ) < 10 ^ (-k).toNat * 2 ^ (-s).toNat := by positivity
  rw [← mul_lt_mul_iff_of_pos_right hpos, ← hl, ← hr]
  exact Nat.cast_lt.symm

theorem gridNum_le_iff (s k : ℤ) (c x : ℕ) :
    gridNum s k x ≤ c * gridDen s k ↔ (x : ℚ) * 2 ^ s ≤ c * 10 ^ k := by
  rw [← not_lt, lt_gridNum_iff, not_lt]

theorem gridNum_lt_iff (s k : ℤ) (c x : ℕ) :
    gridNum s k x < c * gridDen s k ↔ (x : ℚ) * 2 ^ s < c * 10 ^ k := by
  rw [← not_le, le_gridNum_iff, not_le]

/-! ## §2. Grid points in the interval -/

namespace Interval

/-- A grid point passes the interval's test exactly when it lies in the interval. -/
theorem holds_iff (i : Interval) (k : ℤ) (c : ℕ) :
    i.holds k c = true ↔ i.Mem (c * 10 ^ k) := by
  unfold holds Mem
  cases i.closed <;>
    simp only [Bool.false_eq_true, if_false, if_true, Bool.and_eq_true, decide_eq_true_eq,
      le_gridNum_iff, lt_gridNum_iff, gridNum_le_iff, gridNum_lt_iff]

/-- The grid points `pick` returns pass the interval's test. -/
theorem holds_of_pick {i : Interval} {tie : Tie} {k : ℤ} {c : ℕ} (h : i.pick tie k = some c) :
    i.holds k c = true := by
  unfold pick at h
  dsimp only at h
  generalize hb : i.holds k (gridNum i.scale k i.value / gridDen i.scale k) = tb at h
  generalize ha : i.holds k (gridNum i.scale k i.value / gridDen i.scale k + 1) = ta at h
  cases tb <;> cases ta <;> dsimp only at h
  · cases h
  · cases h; exact ha
  · cases h; exact hb
  · -- both neighbours are in the interval: whichever is nearer, or the tie's choice
    cases tie <;> split_ifs at h <;> obtain rfl := Option.some.inj h <;> assumption

/-- `pick` finds a point whenever the grid point just below the value is in the interval. -/
theorem pick_isSome {i : Interval} {tie : Tie} {k : ℤ}
    (h : i.holds k (gridNum i.scale k i.value / gridDen i.scale k) = true) :
    (i.pick tie k).isSome := by
  unfold pick
  dsimp only
  rw [h]
  generalize i.holds k (gridNum i.scale k i.value / gridDen i.scale k + 1) = ta
  cases ta
  · rfl
  · dsimp only
    cases tie <;> split_ifs <;> rfl

/-- The grid point just below the value lies in the interval when the grid is finer than the
gap from the lower end to the value. -/
theorem holds_below (i : Interval) (k : ℤ)
    (hgap : (i.lower : ℚ) * 2 ^ i.scale + 10 ^ k ≤ i.value * 2 ^ i.scale)
    (hup : i.value < i.upper) :
    i.holds k (gridNum i.scale k i.value / gridDen i.scale k) = true := by
  set c := gridNum i.scale k i.value / gridDen i.scale k
  have hden : 0 < gridDen i.scale k := by unfold gridDen; positivity
  -- `c` is the whole part of the value on the grid
  have h1 : c * gridDen i.scale k ≤ gridNum i.scale k i.value := Nat.div_mul_le_self _ _
  have h2 : gridNum i.scale k i.value < (c + 1) * gridDen i.scale k := by
    rw [Nat.succ_mul]; exact Nat.lt_div_mul_add hden
  rw [le_gridNum_iff] at h1
  rw [gridNum_lt_iff] at h2
  push_cast at h2
  have hs : (0 : ℚ) < 2 ^ i.scale := by positivity
  have hv : (i.value : ℚ) * 2 ^ i.scale < i.upper * 2 ^ i.scale :=
    mul_lt_mul_of_pos_right (by exact_mod_cast hup) hs
  rw [holds_iff]
  unfold Mem
  split_ifs <;> constructor <;> linarith

/-! ## §3. The leading exponent -/

/-- A power of ten at most the value, exactly. -/
theorem powLe_iff (i : Interval) (k : ℤ) :
    i.powLe k = true ↔ (10 : ℚ) ^ k ≤ i.value * 2 ^ i.scale := by
  simp only [powLe, decide_eq_true_eq]
  simpa using le_gridNum_iff i.scale k 1 i.value

/-- Raising the guess keeps a power of ten at most the value. -/
theorem powLe_raiseExp (i : Interval) :
    ∀ (fuel : ℕ) (e : ℤ), i.powLe e = true → i.powLe (i.raiseExp fuel e) = true
  | 0, _, h => h
  | fuel + 1, e, h => by
    unfold raiseExp
    split_ifs with h'
    · exact powLe_raiseExp i fuel (e + 1) h'
    · exact h

/-- Lowering the guess ends on a power of ten at most the value when one of the next `fuel`
powers is. -/
theorem powLe_lowerExp (i : Interval) :
    ∀ (fuel : ℕ) (e : ℤ) (j : ℕ), j < fuel → i.powLe (e - j) = true →
      i.powLe (i.lowerExp fuel e) = true
  | 0, _, j, hj, _ => absurd hj (Nat.not_lt_zero j)
  | fuel + 1, e, j, hj, h => by
    unfold lowerExp
    split_ifs with h'
    · exact h'
    · cases j with
      | zero => exact absurd (by simpa using h) h'
      | succ j =>
        refine powLe_lowerExp i fuel (e - 1) j (by omega) ?_
        rwa [show e - 1 - (j : ℤ) = e - ((j + 1 : ℕ) : ℤ) by push_cast; ring]

/-- `78913 / 2 ^ 18` lies just below `log10 2`, and within `1 / 2 ^ 18` of it: a decimal
exponent guessed from a binary one `b` by this ratio, rounded down, is at most one too large
while `b ≥ -2 ^ 18`. -/
theorem ten_zpow_pred_le {g b : ℤ} (hg : 262144 * g ≤ 78913 * b) (hb : -262144 ≤ b) :
    (10 : ℚ) ^ (g - 1) ≤ 2 ^ b := by
  have h1 : (10 : ℚ) ^ 78913 ≤ 2 ^ 262144 := by
    have : ((10 ^ 78913 : ℕ) : ℚ) ≤ ((2 ^ 262144 : ℕ) : ℚ) := Nat.cast_le.2 (by decide +kernel)
    rwa [Nat.cast_pow, Nat.cast_pow, Nat.cast_ofNat, Nat.cast_ofNat] at this
  have h2 : (2 : ℚ) ^ 262144 ≤ 10 ^ 78914 := by
    have : ((2 ^ 262144 : ℕ) : ℚ) ≤ ((10 ^ 78914 : ℕ) : ℚ) := Nat.cast_le.2 (by decide +kernel)
    rwa [Nat.cast_pow, Nat.cast_pow, Nat.cast_ofNat, Nat.cast_ofNat] at this
  -- compare the `2 ^ 18`-th powers
  rw [← pow_le_pow_iff_left₀ (by positivity) (by positivity) (by norm_num : (262144 : ℕ) ≠ 0),
    ← zpow_natCast, ← zpow_natCast, ← zpow_mul, ← zpow_mul]
  rcases le_total 0 b with hb0 | hb0
  · obtain ⟨n, rfl⟩ := Int.eq_ofNat_of_zero_le hb0
    calc (10 : ℚ) ^ ((g - 1) * (262144 : ℕ)) ≤ 10 ^ ((78913 * n : ℕ) : ℤ) :=
          zpow_le_zpow_right₀ (by norm_num) (by push_cast; omega)
      _ = (10 ^ 78913) ^ n := by rw [zpow_natCast, pow_mul]
      _ ≤ (2 ^ 262144) ^ n := pow_le_pow_left₀ (by positivity) h1 n
      _ = 2 ^ ((n : ℤ) * (262144 : ℕ)) := by
        rw [mul_comm, zpow_mul, zpow_natCast, zpow_natCast]
  · obtain ⟨n, hn⟩ : ∃ n : ℕ, b = -(n : ℤ) := ⟨(-b).toNat, by omega⟩
    subst hn
    have hn : n ≤ 262144 := by omega
    calc (10 : ℚ) ^ ((g - 1) * (262144 : ℕ)) ≤ 10 ^ (-((78913 * n + 262144 : ℕ) : ℤ)) :=
          zpow_le_zpow_right₀ (by norm_num) (by push_cast; omega)
      _ = ((10 : ℚ) ^ (78913 * n + 262144))⁻¹ := by rw [zpow_neg, zpow_natCast]
      _ ≤ ((2 : ℚ) ^ (262144 * n))⁻¹ := by
        rw [inv_le_inv₀ (by positivity) (by positivity)]
        calc (2 : ℚ) ^ (262144 * n) = (2 ^ 262144) ^ n := pow_mul _ _ _
          _ ≤ (10 ^ 78914) ^ n := pow_le_pow_left₀ (by positivity) h2 n
          _ = 10 ^ (78914 * n) := (pow_mul _ _ _).symm
          _ ≤ 10 ^ (78913 * n + 262144) := pow_le_pow_right₀ (by norm_num) (by omega)
      _ = 2 ^ (-(n : ℤ) * (262144 : ℕ)) := by
        rw [neg_mul, zpow_neg, ← Nat.cast_mul, zpow_natCast, Nat.mul_comm]

/-- The guess from the binary length, less one, is a power of ten at most the value. -/
theorem powLe_guess (i : Interval) (hv : 0 < i.value)
    (hs : -262144 ≤ (Nat.log2 i.value : ℤ) + i.scale) :
    i.powLe (((Nat.log2 i.value : ℤ) + i.scale) * 78913 / 262144 - 1) = true := by
  rw [powLe_iff]
  set b := (Nat.log2 i.value : ℤ) + i.scale
  have hg : 262144 * (b * 78913 / 262144) ≤ 78913 * b := by
    have := Int.ediv_mul_le (b * 78913) (by norm_num : (262144 : ℤ) ≠ 0)
    linarith
  calc (10 : ℚ) ^ (b * 78913 / 262144 - 1) ≤ 2 ^ b := ten_zpow_pred_le hg hs
    _ = 2 ^ Nat.log2 i.value * 2 ^ i.scale := by rw [zpow_add₀ two_ne_zero, zpow_natCast]
    _ ≤ i.value * 2 ^ i.scale :=
        mul_le_mul_of_nonneg_right (by exact_mod_cast Nat.log2_self_le hv.ne') (by positivity)

/-- The leading exponent is a power of ten at most the value. -/
theorem powLe_leadExp (i : Interval) (hv : 0 < i.value)
    (hs : -262144 ≤ (Nat.log2 i.value : ℤ) + i.scale) : i.powLe i.leadExp = true := by
  unfold leadExp
  dsimp only
  refine powLe_raiseExp i 4 _ (powLe_lowerExp i 4 _ 1 (by norm_num) ?_)
  simpa using powLe_guess i hv hs

/-! ## §4. Seventeen digits are enough -/

/-- Seventeen places below a power of ten at most the value, the grid is finer than the
least gap, so the grid point just below the value is in the interval. -/
theorem holds_seventeen (i : Interval) (lead : ℤ) (hpow : i.powLe lead = true)
    (hgap : i.lower + 1 ≤ i.value) (hval : i.value < 2 ^ 55) (hup : i.value < i.upper) :
    i.holds (lead - 17) (gridNum i.scale (lead - 17) i.value / gridDen i.scale (lead - 17)) =
      true := by
  refine holds_below i _ ?_ hup
  rw [powLe_iff] at hpow
  have hs : (0 : ℚ) < 2 ^ i.scale := by positivity
  have hv : (i.value : ℚ) < 2 ^ 55 := by exact_mod_cast hval
  have hgapQ : (i.lower : ℚ) + 1 ≤ i.value := by exact_mod_cast hgap
  -- `10 ^ (lead - 17) ≤ value · 2 ^ s / 10 ^ 17 < 2 ^ 55 · 2 ^ s / 10 ^ 17 < 2 ^ s`
  have hstep : (10 : ℚ) ^ (lead - 17) ≤ 2 ^ i.scale := by
    rw [zpow_sub₀ (by norm_num), div_le_iff₀ (by positivity)]
    calc (10 : ℚ) ^ lead ≤ i.value * 2 ^ i.scale := hpow
      _ ≤ 2 ^ 55 * 2 ^ i.scale := mul_le_mul_of_nonneg_right hv.le hs.le
      _ ≤ 2 ^ i.scale * 10 ^ (17 : ℤ) := by
        rw [mul_comm]; exact mul_le_mul_of_nonneg_left (by norm_num) hs.le
  nlinarith

/-- The first grid with a point in the interval is found within seventeen steps below a power
of ten at most the value, and its point is in the interval. -/
theorem holds_firstHit (i : Interval) (tie : Tie) (lead : ℤ) (hpow : i.powLe lead = true)
    (hgap : i.lower + 1 ≤ i.value) (hval : i.value < 2 ^ 55) (hup : i.value < i.upper) :
    i.holds (i.firstHit tie lead).exp (i.firstHit tie lead).digits = true := by
  unfold firstHit
  dsimp only
  have hsome : ((List.range 18).findSome? fun n : ℕ =>
      (i.pick tie (lead - n)).map fun c => (⟨c, lead - n⟩ : Decimal)).isSome := by
    rw [Option.isSome_iff_ne_none, Ne, List.findSome?_eq_none_iff]
    intro h
    have h17 := h 17 (by simp)
    have hpick := @pick_isSome i tie _ (holds_seventeen i lead hpow hgap hval hup)
    simp only [Nat.cast_ofNat, Option.map_eq_none_iff] at h17
    rw [h17] at hpick
    exact absurd hpick (by simp)
  obtain ⟨d, hd⟩ := Option.isSome_iff_exists.1 hsome
  rw [hd, Option.getD_some]
  obtain ⟨n, -, hn⟩ := List.exists_of_findSome?_eq_some hd
  obtain ⟨c, hc, rfl⟩ := Option.map_eq_some_iff.1 hn
  exact holds_of_pick hc

end Interval

/-! ## §5. The shortest decimal -/

/-- Dropping trailing zeros keeps the number. -/
theorem toRat_trim : ∀ (fuel : ℕ) (d : Decimal), (trim fuel d).toRat = d.toRat
  | 0, _ => rfl
  | fuel + 1, d => by
    unfold trim
    split_ifs with h
    · rw [toRat_trim fuel]
      obtain ⟨q, hq⟩ : 10 ∣ d.digits := Nat.dvd_of_mod_eq_zero h.2
      simp only [toRat, hq, Nat.mul_div_cancel_left _ (by norm_num : 0 < 10),
        zpow_add_one₀ (by norm_num : (10 : ℚ) ≠ 0)]
      push_cast
      ring
    · rfl

/-- The shortest decimal of a finite double lies in its rounding interval. -/
theorem shortest_mem {m : ℕ} {e : ℤ} (tie : Tie) (hc : Canonical m e) :
    (Interval.around m e).Mem (shortest tie m e).toRat := by
  unfold shortest
  dsimp only
  rw [toRat_trim]
  set i := Interval.around m e
  have hm := hc.pos
  have hv : 0 < i.value := show 0 < 4 * m by omega
  have hs : -262144 ≤ (Nat.log2 i.value : ℤ) + i.scale := by
    have := hc.exp_ge
    show -262144 ≤ (Nat.log2 (4 * m) : ℤ) + (e - 2)
    simp only [minExp] at this
    omega
  have hgap : i.lower + 1 ≤ i.value := by
    show 4 * m - (if m = 2 ^ fractionBits ∧ e > minExp then 1 else 2) + 1 ≤ 4 * m
    split_ifs <;> omega
  have hval : i.value < 2 ^ 55 := show 4 * m < 2 ^ 55 by have := hc.lt; omega
  have hup : i.value < i.upper := show 4 * m < 4 * m + 2 by omega
  have h := Interval.holds_firstHit i tie i.leadExp (Interval.powLe_leadExp i hv hs) hgap hval hup
  rw [Interval.holds_iff] at h
  exact h

end Decimal

end ControlLoop
