import Mathlib.Analysis.Convex.Basic
import Mathlib.Algebra.Order.BigOperators.Group.List

/-!
# Averages between bounds

An average of values lies where the values lie.  That holds of the plain average
(`sum_div_length_mem_Icc`), of one with weights (`weighted_mem_Icc`), and of an average that is
smoothed by one value after the other (`smoothed_mem_Icc`), of which both the exponential and
Wilder's smoothing are cases.
-/

set_option autoImplicit false

namespace Scalper.Lib

variable {K : Type*} [Field K] [LinearOrder K] [IsStrictOrderedRing K] {lo hi : K}

theorem sum_mem_Icc {xs : List K} (within : ∀ x ∈ xs, x ∈ Set.Icc lo hi) :
    xs.sum ∈ Set.Icc (xs.length * lo) (xs.length * hi) := by
  rw [← nsmul_eq_mul, ← nsmul_eq_mul]
  exact ⟨xs.card_nsmul_le_sum lo fun x member => (within x member).1,
    xs.sum_le_card_nsmul hi fun x member => (within x member).2⟩

/-- The average of values between two bounds. -/
theorem sum_div_length_mem_Icc {xs : List K} (nonempty : xs ≠ [])
    (within : ∀ x ∈ xs, x ∈ Set.Icc lo hi) : xs.sum / xs.length ∈ Set.Icc lo hi := by
  have positive : (0 : K) < xs.length := Nat.cast_pos.mpr (List.length_pos_iff.mpr nonempty)
  obtain ⟨below, above⟩ := sum_mem_Icc within
  exact ⟨(le_div_iff₀' positive).mpr below, (div_le_iff₀' positive).mpr above⟩

/-- Part of the one and the rest of the other. -/
theorem mix_mem_Icc {share x y : K} (nonneg : 0 ≤ share) (le_one : share ≤ 1)
    (left : x ∈ Set.Icc lo hi) (right : y ∈ Set.Icc lo hi) :
    x * share + y * (1 - share) ∈ Set.Icc lo hi := by
  have mixed := convex_Icc (𝕜 := K) lo hi left right nonneg (sub_nonneg.mpr le_one)
    (add_sub_cancel share 1)
  rwa [smul_eq_mul, smul_eq_mul, mul_comm share, mul_comm (1 - share)] at mixed

/-- Smoothing by values between the bounds does not leave them. -/
theorem smoothed_mem_Icc {share : K} (nonneg : 0 ≤ share) (le_one : share ≤ 1) {xs : List K}
    (within : ∀ x ∈ xs, x ∈ Set.Icc lo hi) {seed : K} (seeded : seed ∈ Set.Icc lo hi) :
    xs.foldl (fun average x => x * share + average * (1 - share)) seed ∈ Set.Icc lo hi := by
  induction xs generalizing seed with
  | nil => exact seeded
  | cons x xs ih =>
      exact ih (fun y member => within y (List.mem_cons_of_mem x member))
        (mix_mem_Icc nonneg le_one (within x List.mem_cons_self) seeded)

/-- The average of values with weights that are not negative. -/
theorem weighted_mem_Icc {α : Type*} {value weight : α → K} {xs : List α}
    (within : ∀ x ∈ xs, value x ∈ Set.Icc lo hi) (nonneg : ∀ x ∈ xs, 0 ≤ weight x)
    (positive : 0 < (xs.map weight).sum) :
    (xs.map fun x => value x * weight x).sum / (xs.map weight).sum ∈ Set.Icc lo hi := by
  have below : lo * (xs.map weight).sum ≤ (xs.map fun x => value x * weight x).sum := by
    rw [← List.sum_map_mul_left]
    exact List.sum_le_sum fun x member =>
      mul_le_mul_of_nonneg_right (within x member).1 (nonneg x member)
  have above : (xs.map fun x => value x * weight x).sum ≤ hi * (xs.map weight).sum := by
    rw [← List.sum_map_mul_left]
    exact List.sum_le_sum fun x member =>
      mul_le_mul_of_nonneg_right (within x member).2 (nonneg x member)
  exact ⟨(le_div_iff₀ positive).mpr below, (div_le_iff₀ positive).mpr above⟩

end Scalper.Lib
