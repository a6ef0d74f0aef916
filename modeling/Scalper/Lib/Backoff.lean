import Mathlib.Algebra.Order.Field.Basic

/-!
# Exponential backoff

The ceiling of the delays grows by a factor with every attempt until it comes to a cap, and a delay
is drawn anywhere below its ceiling.  No delay is longer than the cap (`delay_mem_Icc`), and only
the first ceiling is the base (`ceiling_eq_base_iff`).
-/

set_option autoImplicit false

namespace Scalper.Lib

variable {K : Type*} [Field K] [LinearOrder K]

/-- The ceiling of the delay at an attempt. -/
def ceiling (growth base cap : K) (n : ℕ) : K := min (base * growth ^ n) cap

variable [IsStrictOrderedRing K] {growth base cap : K} {n : ℕ}

theorem ceiling_nonneg (grows : 1 < growth) (nonneg : 0 ≤ base) (capped : 0 ≤ cap) :
    0 ≤ ceiling growth base cap n :=
  le_min (mul_nonneg nonneg (pow_nonneg (zero_le_one.trans grows.le) n)) capped

/-- A share of the ceiling. -/
theorem delay_mem_Icc (grows : 1 < growth) (nonneg : 0 ≤ base) (capped : 0 ≤ cap) {share : K}
    (positive : 0 ≤ share) (le_one : share ≤ 1) :
    ceiling growth base cap n * share ∈ Set.Icc 0 cap :=
  ⟨mul_nonneg (ceiling_nonneg grows nonneg capped) positive,
    (mul_le_of_le_one_right (ceiling_nonneg grows nonneg capped) le_one).trans (min_le_right _ _)⟩

/-- Later ceilings are larger than the base. -/
theorem ceiling_eq_base_iff (grows : 1 < growth) (positive : 0 < base) (less : base < cap) :
    ceiling growth base cap n = base ↔ n = 0 := by
  constructor
  · intro same
    by_contra later
    have grown : base < base * growth ^ n := by
      rw [lt_mul_iff_one_lt_right positive]
      exact one_lt_pow₀ grows later
    exact absurd same (lt_min grown less).ne'
  · rintro rfl
    rw [ceiling, pow_zero, mul_one, min_eq_left less.le]

end Scalper.Lib
