import ControlLoop.Stats
import Mathlib

/-! # The round-trip window and its summary

A summary is taken over the finite values of a list only (`Summary.of?`): it counts them,
takes the least and the greatest with a running comparison seeded by the infinities, and
divides their left-to-right sum by their count. A round-trip window keeps the last thousand
values pushed and counts every push.

## The order of finite doubles

Two doubles compare through their unpacked forms: the sign first, then the exponent and the
mantissa, both read backwards for negatives. On finite doubles this order is total and
transitive (`Binary64.le_of_not_lt`, `Binary64.le_trans`), with the two zeros equal, so the
running least is one of the values and below each (`Summary.foldl_least`), and the running
greatest likewise (`Summary.foldl_greatest`). A seed of an infinity never survives a finite
value.

## The window

`RttWindow.Holds h w` says that `w` holds the last `windowCapacity` values of the pushes `h`,
oldest first, and counts all of them. A new window holds none, every push keeps the relation
(`RttWindow.Holds.after_push`), and so every run of pushes does (`RttWindow.Holds.pushAll`).
`RttWindow.window_summary` puts the two halves together.
-/

open Float.Model Float.Model.UnpackedFloat

namespace ControlLoop

namespace Binary64

/-! ## §1. Comparing unpacked doubles -/

/-- Lexicographic comparison of exponent, then mantissa, is at most `.eq`. -/
theorem isLE_then_compare {e₁ e₂ : Int} {m₁ m₂ : Nat} :
    ((compare e₁ e₂).then (compare m₁ m₂)).isLE = true ↔ e₁ < e₂ ∨ e₁ = e₂ ∧ m₁ ≤ m₂ := by
  rw [Ordering.isLE_then_iff_or, Int.compare_eq_lt, Int.compare_eq_eq, Nat.isLE_compare]

/-- Lexicographic comparison of exponent, then mantissa, is at least `.eq`. -/
theorem isGE_then_compare {e₁ e₂ : Int} {m₁ m₂ : Nat} :
    ((compare e₁ e₂).then (compare m₁ m₂)).isGE = true ↔ e₂ < e₁ ∨ e₁ = e₂ ∧ m₂ ≤ m₁ := by
  rw [← Ordering.isLE_swap, Ordering.swap_then, Int.compare_swap, Nat.compare_swap,
    isLE_then_compare, eq_comm]

theorem then_compare_eq_lt {e₁ e₂ : Int} {m₁ m₂ : Nat} :
    (compare e₁ e₂).then (compare m₁ m₂) = .lt ↔ e₁ < e₂ ∨ e₁ = e₂ ∧ m₁ < m₂ := by
  rw [Ordering.then_eq_lt, Int.compare_eq_lt, Int.compare_eq_eq, Nat.compare_eq_lt]

theorem then_compare_eq_gt {e₁ e₂ : Int} {m₁ m₂ : Nat} :
    (compare e₁ e₂).then (compare m₁ m₂) = .gt ↔ e₂ < e₁ ∨ e₁ = e₂ ∧ m₂ < m₁ := by
  rw [Ordering.then_eq_gt, Int.compare_eq_gt, Int.compare_eq_eq, Nat.compare_eq_gt]

/-- On finite unpacked doubles, not below means at least. -/
theorem unpacked_le_of_not_lt {a b : UnpackedFloat} (ha : a.isFinite) (hb : b.isFinite) :
    a.lt b = false → b.le a := by
  -- finite means zero or a signed mantissa; each pair of those compares by its fields
  rcases a with _ | _ | _ | ⟨_ | _, m₁, e₁, _⟩ <;> simp [UnpackedFloat.isFinite] at ha <;>
  rcases b with _ | _ | _ | ⟨_ | _, m₂, e₂, _⟩ <;> simp [UnpackedFloat.isFinite] at hb <;>
  simp [UnpackedFloat.le, UnpackedFloat.lt, UnpackedFloat.compare, isLE_then_compare,
    isGE_then_compare, then_compare_eq_lt, then_compare_eq_gt] <;> omega

/-- On finite unpacked doubles, at most is transitive. -/
theorem unpacked_le_trans {a b c : UnpackedFloat} (ha : a.isFinite) (hb : b.isFinite)
    (hc : c.isFinite) : a.le b → b.le c → a.le c := by
  rcases a with _ | _ | _ | ⟨_ | _, m₁, e₁, _⟩ <;> simp [UnpackedFloat.isFinite] at ha <;>
  rcases b with _ | _ | _ | ⟨_ | _, m₂, e₂, _⟩ <;> simp [UnpackedFloat.isFinite] at hb <;>
  rcases c with _ | _ | _ | ⟨_ | _, m₃, e₃, _⟩ <;> simp [UnpackedFloat.isFinite] at hc <;>
  simp [UnpackedFloat.le, UnpackedFloat.compare, isLE_then_compare, isGE_then_compare] <;> omega

/-! ## §2. Comparing finite doubles -/

theorem le_iff_unpack (x y : Float) : x ≤ y ↔ x.toModel.unpack.le y.toModel.unpack = true := by
  show x.le y = true ↔ _
  simp only [Float.le, LE.le, Float.Model.le]
  exact decide_eq_true_iff

theorem lt_iff_unpack (x y : Float) : x < y ↔ x.toModel.unpack.lt y.toModel.unpack = true := by
  show x.lt y = true ↔ _
  simp only [Float.lt, LT.lt, Float.Model.lt]
  exact decide_eq_true_iff

theorem isFinite_unpack (x : Float) : x.isFinite = x.toModel.unpack.isFinite := rfl

theorem le_of_lt {x y : Float} (h : x < y) : x ≤ y := by
  rw [lt_iff_unpack, UnpackedFloat.lt, beq_iff_eq] at h
  rw [le_iff_unpack, UnpackedFloat.le, h]
  rfl

/-- A finite double is at most itself (a NaN is not). -/
theorem le_refl_of_isFinite {x : Float} (hx : x.isFinite) : x ≤ x := by
  rw [isFinite_unpack] at hx
  have h := unpacked_le_of_not_lt hx hx
  rw [le_iff_unpack]
  -- a finite double is not below itself, so it is at least itself
  cases hlt : x.toModel.unpack.lt x.toModel.unpack
  · exact h hlt
  · exact (le_iff_unpack x x).1 (le_of_lt ((lt_iff_unpack x x).2 hlt))

theorem le_of_not_lt {x y : Float} (hx : x.isFinite) (hy : y.isFinite) (h : ¬x < y) : y ≤ x :=
  (le_iff_unpack y x).2 (unpacked_le_of_not_lt hx hy (Bool.eq_false_iff.2 fun h' =>
    h ((lt_iff_unpack x y).2 h')))

theorem le_trans {x y z : Float} (hx : x.isFinite) (hy : y.isFinite) (hz : z.isFinite) :
    x ≤ y → y ≤ z → x ≤ z := by
  simp only [le_iff_unpack]
  exact unpacked_le_trans hx hy hz

theorem unpack_infinity_false : (infinity false).toModel.unpack = .infinity .positive := rfl

theorem unpack_infinity_true : (infinity true).toModel.unpack = .infinity .negative := rfl

/-- Positive infinity is below no finite double. -/
theorem not_infinity_lt {x : Float} (hx : x.isFinite) : ¬infinity false < x := by
  rw [isFinite_unpack] at hx
  rw [lt_iff_unpack, unpack_infinity_false]
  cases h : x.toModel.unpack <;> simp_all [UnpackedFloat.isFinite, UnpackedFloat.lt,
    UnpackedFloat.compare]

/-- No finite double is below negative infinity. -/
theorem not_lt_infinity {x : Float} (hx : x.isFinite) : ¬x < infinity true := by
  rw [isFinite_unpack] at hx
  rw [lt_iff_unpack, unpack_infinity_true]
  cases h : x.toModel.unpack <;> simp_all [UnpackedFloat.isFinite, UnpackedFloat.lt,
    UnpackedFloat.compare]

end Binary64

namespace Summary

/-! ## §3. The running least and greatest -/

/-- The running least of two finite values is one of them and at most each. -/
theorem least_spec {acc x : Float} (hacc : acc.isFinite) (hx : x.isFinite) :
    (least acc x = acc ∨ least acc x = x) ∧ least acc x ≤ acc ∧ least acc x ≤ x := by
  unfold least
  by_cases h : acc < x
  · rw [if_pos h]
    exact ⟨.inl rfl, Binary64.le_refl_of_isFinite hacc, Binary64.le_of_lt h⟩
  · rw [if_neg h]
    exact ⟨.inr rfl, Binary64.le_of_not_lt hacc hx h, Binary64.le_refl_of_isFinite hx⟩

/-- The running greatest of two finite values is one of them and at least each. -/
theorem greatest_spec {acc x : Float} (hacc : acc.isFinite) (hx : x.isFinite) :
    (greatest acc x = acc ∨ greatest acc x = x) ∧ acc ≤ greatest acc x ∧ x ≤ greatest acc x := by
  unfold greatest
  by_cases h : acc > x
  · rw [if_pos h]
    exact ⟨.inl rfl, Binary64.le_refl_of_isFinite hacc, Binary64.le_of_lt h⟩
  · rw [if_neg h]
    exact ⟨.inr rfl, Binary64.le_of_not_lt hx hacc h, Binary64.le_refl_of_isFinite hx⟩

/-- A running choice between two finite values that keeps one of them and stands in `R` to
both, folded over finite values from a finite seed: the result is the seed or one of the values,
and stands in `R` to each of them. -/
theorem foldl_choice {R : Float → Float → Prop} {f : Float → Float → Float}
    (htrans : ∀ {a b c : Float}, a.isFinite → b.isFinite → c.isFinite → R a b → R b c → R a c)
    (hrefl : ∀ {a : Float}, a.isFinite → R a a)
    (hf : ∀ {a x : Float}, a.isFinite → x.isFinite →
      (f a x = a ∨ f a x = x) ∧ R (f a x) a ∧ R (f a x) x) :
    ∀ {acc : Float} {xs : List Float}, acc.isFinite → (∀ x ∈ xs, x.isFinite) →
      xs.foldl f acc ∈ acc :: xs ∧ ∀ y ∈ acc :: xs, R (xs.foldl f acc) y
  | acc, [], hacc, _ =>
    ⟨List.mem_singleton_self _, fun y hy => by
      rw [List.mem_singleton.1 hy]
      exact hrefl hacc⟩
  | acc, x :: xs, hacc, hxs => by
    have hx := hxs x List.mem_cons_self
    obtain ⟨hone, hR_acc, hR_x⟩ := hf hacc hx
    -- every value met so far is finite, the new choice among them
    have hfin : ∀ z ∈ acc :: x :: xs, z.isFinite := fun z hz => by
      rcases List.mem_cons.1 hz with rfl | hz
      · exact hacc
      · exact hxs z hz
    have hchoice : f acc x ∈ acc :: x :: xs := by
      rcases hone with h | h <;> rw [h] <;> simp
    obtain ⟨hmem, hR⟩ := foldl_choice htrans hrefl hf (hfin _ hchoice)
      fun y hy => hxs y (List.mem_cons_of_mem _ hy)
    rw [List.foldl_cons]
    have hres : xs.foldl f (f acc x) ∈ acc :: x :: xs := by
      rcases List.mem_cons.1 hmem with h | h
      · rw [h]
        exact hchoice
      · exact List.mem_cons_of_mem _ (List.mem_cons_of_mem _ h)
    have hR_choice := hR _ List.mem_cons_self
    refine ⟨hres, fun y hy => ?_⟩
    rcases List.mem_cons.1 hy with rfl | hy
    · exact htrans (hfin _ hres) (hfin _ hchoice) hacc hR_choice hR_acc
    · rcases List.mem_cons.1 hy with rfl | hy
      · exact htrans (hfin _ hres) (hfin _ hchoice) hx hR_choice hR_x
      · exact hR y (List.mem_cons_of_mem _ hy)

/-- Over finite values from a finite seed, the running least is the seed or one of the values,
and at most each of them. -/
theorem foldl_least {acc : Float} {xs : List Float} (hacc : acc.isFinite)
    (hxs : ∀ x ∈ xs, x.isFinite) :
    xs.foldl least acc ∈ acc :: xs ∧ ∀ y ∈ acc :: xs, xs.foldl least acc ≤ y :=
  foldl_choice Binary64.le_trans Binary64.le_refl_of_isFinite least_spec hacc hxs

/-- Over finite values from a finite seed, the running greatest is the seed or one of the
values, and at least each of them. -/
theorem foldl_greatest {acc : Float} {xs : List Float} (hacc : acc.isFinite)
    (hxs : ∀ x ∈ xs, x.isFinite) :
    xs.foldl greatest acc ∈ acc :: xs ∧ ∀ y ∈ acc :: xs, y ≤ xs.foldl greatest acc :=
  @foldl_choice (fun a b => b ≤ a) greatest (fun ha hb hc hab hbc => Binary64.le_trans hc hb ha hbc hab)
    Binary64.le_refl_of_isFinite (fun ha hx => greatest_spec ha hx) acc xs hacc hxs

/-- An infinite seed gives way to the first finite value. -/
theorem least_infinity {x : Float} (hx : x.isFinite) : least (Binary64.infinity false) x = x := by
  rw [least, if_neg (Binary64.not_infinity_lt hx)]

theorem greatest_infinity {x : Float} (hx : x.isFinite) : greatest (Binary64.infinity true) x = x := by
  rw [greatest, if_neg (Binary64.not_lt_infinity hx)]

/-! ## §4. The summary -/

/-- What a summary says of a list, over its finite values: how many there are, one of them at
most each, one of them at least each, and their left-to-right sum over their count. -/
structure Describes (xs : List Float) (s : Summary) : Prop where
  count : s.count = (xs.filter Float.isFinite).length
  min_mem : s.min ∈ xs.filter Float.isFinite
  min_le : ∀ x ∈ xs, x.isFinite → s.min ≤ x
  max_mem : s.max ∈ xs.filter Float.isFinite
  le_max : ∀ x ∈ xs, x.isFinite → x ≤ s.max
  mean : s.mean = (xs.filter Float.isFinite).foldl (· + ·) 0.0 / Binary64.ofInt s.count

/-- There is no summary exactly when no value is finite. -/
theorem of?_eq_none_iff (xs : List Float) : of? xs = none ↔ ∀ x ∈ xs, x.isFinite = false := by
  have hempty : (xs.filter Float.isFinite).isEmpty ↔ ∀ x ∈ xs, x.isFinite = false := by
    simp [List.isEmpty_iff, List.filter_eq_nil_iff]
  unfold of?
  by_cases h : (xs.filter Float.isFinite).isEmpty
  · simp only [h, if_true, true_iff]
    exact hempty.1 h
  · simp only [h, Bool.false_eq_true, if_false, reduceCtorEq, false_iff]
    exact fun hall => h (hempty.2 hall)

/-- A summary describes the finite values it was taken over. -/
theorem of?_describes {xs : List Float} {s : Summary} (h : of? xs = some s) : s.Describes xs := by
  unfold of? at h
  dsimp only at h
  split at h
  · cases h
  rename_i hne
  cases h
  -- there is a first finite value, and the infinite seeds give way to it
  obtain ⟨x, rest, hfx⟩ : ∃ x rest, xs.filter Float.isFinite = x :: rest := by
    cases hf : xs.filter Float.isFinite with
    | nil => rw [hf] at hne; exact absurd rfl hne
    | cons x rest => exact ⟨x, rest, rfl⟩
  have hall : ∀ y ∈ x :: rest, y.isFinite := fun y hy => by
    rw [← hfx] at hy
    exact (List.mem_filter.1 hy).2
  have hx := hall x List.mem_cons_self
  have hrest : ∀ y ∈ rest, y.isFinite := fun y hy => hall y (List.mem_cons_of_mem _ hy)
  have hfin : ∀ y ∈ xs, y.isFinite → y ∈ x :: rest := fun y hy hyf => by
    rw [← hfx]
    exact List.mem_filter.2 ⟨hy, hyf⟩
  obtain ⟨hlo_mem, hlo⟩ := foldl_least hx hrest
  obtain ⟨hhi_mem, hhi⟩ := foldl_greatest hx hrest
  have hlo_eq : (xs.filter Float.isFinite).foldl least (Binary64.infinity false) =
      rest.foldl least x := by
    rw [hfx, List.foldl_cons, least_infinity hx]
  have hhi_eq : (xs.filter Float.isFinite).foldl greatest (Binary64.infinity true) =
      rest.foldl greatest x := by
    rw [hfx, List.foldl_cons, greatest_infinity hx]
  refine ⟨rfl, ?_, fun y hy hyf => ?_, ?_, fun y hy hyf => ?_, rfl⟩ <;> dsimp only
  · rw [hlo_eq, hfx]
    exact hlo_mem
  · rw [hlo_eq]
    exact hlo y (hfin y hy hyf)
  · rw [hhi_eq, hfx]
    exact hhi_mem
  · rw [hhi_eq]
    exact hhi y (hfin y hy hyf)

end Summary

namespace RttWindow

/-! ## §5. The window -/

/-- A window that has taken the pushes `h` holds their last `windowCapacity` values, oldest
first, and counts all of them in its 64-bit counter. -/
structure Holds (h : List Float) (w : RttWindow) : Prop where
  samples : w.samples = h.drop (h.length - windowCapacity)
  total : w.total = UInt64.ofNat h.length

theorem holds_new : Holds [] {} := ⟨rfl, rfl⟩

/-- A push keeps the window on the last values of its pushes: a full window drops its oldest. -/
theorem Holds.after_push {h : List Float} {w : RttWindow} (hw : Holds h w) (x : Float) :
    Holds (h ++ [x]) (w.push x) := by
  refine ⟨?_, by simp [RttWindow.push, hw.total, UInt64.ofNat_add]⟩
  have hC : 0 < windowCapacity := by decide
  have hlen : w.samples.length = h.length - (h.length - windowCapacity) := by
    rw [hw.samples, List.length_drop]
  simp only [RttWindow.push, List.length_append, List.length_singleton]
  by_cases hfull : w.samples.length ≥ windowCapacity
  · -- the window is full: its oldest value goes and `x` comes in
    have hk : h.length + 1 - windowCapacity = h.length - windowCapacity + 1 := by omega
    rw [if_pos hfull, hw.samples, List.drop_drop, hk,
      List.drop_append_of_le_length (by omega)]
  · -- below capacity the window holds every push
    have h0 : h.length + 1 - windowCapacity = 0 := by omega
    rw [if_neg hfull, hw.samples, h0, Nat.sub_eq_zero_of_le (by omega), List.drop_zero,
      List.drop_zero]

/-- Pushes one after another keep the window on the last values of all the pushes. -/
theorem Holds.pushAll {h : List Float} {w : RttWindow} (hw : Holds h w) :
    ∀ xs : List Float, Holds (h ++ xs) (xs.foldl push w)
  | [] => by simpa using hw
  | x :: xs => by
    rw [List.foldl_cons, ← List.singleton_append, ← List.append_assoc]
    exact (hw.after_push x).pushAll xs

/-- The round-trip window and its summary. Over any list of doubles, a summary exists exactly
when some value is finite, and then it counts the finite values, its least and greatest are
finite values at most and at least each finite value, and its mean is their left-to-right sum
over their count. After any pushes into a new window, the window has counted every push and
holds the last `windowCapacity` values pushed, oldest first, and its summary is the summary of
those values; its count of pushes is a 64-bit counter. -/
theorem window_summary :
    (∀ xs : List Float, (Summary.of? xs = none ↔ ∀ x ∈ xs, x.isFinite = false) ∧
      ∀ s, Summary.of? xs = some s → s.Describes xs) ∧
    ∀ xs : List Float,
      (xs.foldl push {}).total = UInt64.ofNat xs.length ∧
      (xs.foldl push {}).samples = xs.drop (xs.length - windowCapacity) ∧
      (xs.foldl push {}).samples.length = min xs.length windowCapacity ∧
      ((xs.foldl push {}).summary = none ↔
        ∀ x ∈ (xs.foldl push {}).samples, x.isFinite = false) ∧
      ∀ s, (xs.foldl push {}).summary = some s → s.Describes (xs.foldl push {}).samples := by
  refine ⟨fun xs => ⟨Summary.of?_eq_none_iff xs, fun _ => Summary.of?_describes⟩, fun xs => ?_⟩
  have hw : Holds xs (xs.foldl push {}) := by simpa using holds_new.pushAll xs
  refine ⟨hw.total, hw.samples, ?_, Summary.of?_eq_none_iff _, fun _ => Summary.of?_describes⟩
  rw [hw.samples, List.length_drop]
  omega

end RttWindow

end ControlLoop
