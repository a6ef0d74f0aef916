import Mathlib.Algebra.Order.Floor.Ring
import Mathlib.Tactic.Linarith
import Mathlib.Tactic.Ring

/-!
# Rounding to the multiples of a step

A value is rounded down to `⌊x / step⌋ * step`, or up to `⌈x / step⌉ * step`.  Either is the
nearest multiple on its side, so that whether it passes a given value is a question about the
multiples of the step alone (`lt_roundDown_iff`, `roundUp_lt_iff`), and that the multiples stay
where they are (`roundDown_of_isMultiple`, `roundUp_of_isMultiple`).
-/

set_option autoImplicit false

namespace Scalper.Lib

variable {K : Type*} [Field K]

/-- An integral multiple of the step. -/
def IsMultiple (step x : K) : Prop := ∃ n : ℤ, x = n * step

theorem IsMultiple.of_int (n : ℤ) (step : K) : IsMultiple step (n * step) := ⟨n, rfl⟩

theorem IsMultiple.neg {step x : K} (multiple : IsMultiple step x) : IsMultiple step (-x) := by
  obtain ⟨n, rfl⟩ := multiple
  exact ⟨-n, by push_cast; ring⟩

variable [LinearOrder K] [FloorRing K] {step x y : K}

/-- The greatest multiple of the step that is at most `x`. -/
def roundDown (step x : K) : K := ⌊x / step⌋ * step

/-- The least multiple of the step that is at least `x`. -/
def roundUp (step x : K) : K := ⌈x / step⌉ * step

theorem isMultiple_roundDown : IsMultiple step (roundDown step x) := .of_int _ _

theorem isMultiple_roundUp : IsMultiple step (roundUp step x) := .of_int _ _

variable [IsStrictOrderedRing K]

theorem roundDown_le (positive : 0 < step) : roundDown step x ≤ x := by
  have rest := Int.sub_floor_div_mul_nonneg x positive
  rw [roundDown]
  linarith

theorem lt_roundDown_add (positive : 0 < step) : x < roundDown step x + step := by
  have rest := Int.sub_floor_div_mul_lt x positive
  rw [roundDown]
  linarith

/-- Rounding up is rounding the negative down. -/
theorem roundUp_eq_neg (step x : K) : roundUp step x = -roundDown step (-x) := by
  rw [roundUp, roundDown, neg_div, Int.floor_neg, Int.cast_neg, neg_mul, neg_neg]

theorem le_roundUp (positive : 0 < step) : x ≤ roundUp step x := by
  have below := roundDown_le (x := -x) positive
  rw [roundUp_eq_neg]
  linarith

/-- A multiple is at most `x` when it is at most `x` rounded down. -/
theorem mul_le_iff_le_roundDown (positive : 0 < step) {n : ℤ} :
    n * step ≤ x ↔ n * step ≤ roundDown step x := by
  rw [roundDown, mul_le_mul_iff_left₀ positive, Int.cast_le, Int.le_floor, le_div_iff₀ positive]

/-- The greatest multiple that is at most `x`. -/
theorem isGreatest_roundDown (positive : 0 < step) :
    IsGreatest {m | IsMultiple step m ∧ m ≤ x} (roundDown step x) := by
  refine ⟨⟨isMultiple_roundDown, roundDown_le positive⟩, ?_⟩
  rintro m ⟨⟨n, rfl⟩, below⟩
  exact (mul_le_iff_le_roundDown positive).mp below

/-- The least multiple that is at least `x`. -/
theorem isLeast_roundUp (positive : 0 < step) :
    IsLeast {m | IsMultiple step m ∧ x ≤ m} (roundUp step x) := by
  refine ⟨⟨isMultiple_roundUp, le_roundUp positive⟩, ?_⟩
  rintro m ⟨multiple, above⟩
  have least := (isGreatest_roundDown positive).2 ⟨multiple.neg, neg_le_neg above⟩
  rw [roundUp_eq_neg]
  exact neg_le.mp least

theorem roundDown_of_isMultiple (positive : 0 < step) (multiple : IsMultiple step x) :
    roundDown step x = x :=
  le_antisymm (roundDown_le positive) ((isGreatest_roundDown positive).2 ⟨multiple, le_rfl⟩)

theorem roundUp_of_isMultiple (positive : 0 < step) (multiple : IsMultiple step x) :
    roundUp step x = x :=
  le_antisymm ((isLeast_roundUp positive).2 ⟨multiple, le_rfl⟩) (le_roundUp positive)

/-- Rounded down, a value stays above `y` when it reaches the next multiple after `y`. -/
theorem lt_roundDown_iff (positive : 0 < step) :
    y < roundDown step x ↔ roundDown step y + step ≤ x := by
  have next : roundDown step y + step = ((⌊y / step⌋ + 1 : ℤ) : K) * step := by
    rw [roundDown]
    push_cast
    ring
  rw [next, mul_le_iff_le_roundDown positive, roundDown, mul_le_mul_iff_left₀ positive, Int.cast_le,
    Int.add_one_le_iff, Int.floor_lt, div_lt_iff₀ positive]

/-- The multiple that a value is rounded down to is the one it reaches by less than a step. -/
theorem roundDown_eq_iff (positive : 0 < step) (multiple : IsMultiple step y) :
    roundDown step x = y ↔ y ≤ x ∧ x < y + step := by
  constructor
  · rintro rfl
    exact ⟨roundDown_le positive, lt_roundDown_add positive⟩
  · rintro ⟨reached, short⟩
    refine le_antisymm (not_lt.mp fun above => ?_)
      ((isGreatest_roundDown positive).2 ⟨multiple, reached⟩)
    have next := (lt_roundDown_iff positive).mp above
    rw [roundDown_of_isMultiple positive multiple] at next
    exact absurd short next.not_gt

/-- Rounded up, a value stays below `y` when it is at most the last multiple before `y`. -/
theorem roundUp_lt_iff (positive : 0 < step) :
    roundUp step x < y ↔ x ≤ roundUp step y - step := by
  rw [roundUp_eq_neg, roundUp_eq_neg, neg_lt, lt_roundDown_iff positive]
  constructor
  · intro within
    linarith
  · intro within
    linarith

/-- Rounded down, a value stays positive when it is at least one step. -/
theorem roundDown_pos_iff (positive : 0 < step) : 0 < roundDown step x ↔ step ≤ x := by
  rw [lt_roundDown_iff positive]
  simp [roundDown]

theorem roundDown_mono (positive : 0 < step) (ordered : x ≤ y) :
    roundDown step x ≤ roundDown step y :=
  mul_le_mul_of_nonneg_right
    (Int.cast_le.mpr (Int.floor_mono (div_le_div_of_nonneg_right ordered positive.le))) positive.le

theorem roundUp_mono (positive : 0 < step) (ordered : x ≤ y) :
    roundUp step x ≤ roundUp step y := by
  rw [roundUp_eq_neg, roundUp_eq_neg]
  exact neg_le_neg (roundDown_mono positive (neg_le_neg ordered))

theorem roundUp_lt_add (positive : 0 < step) : roundUp step x < x + step := by
  have rest := lt_roundDown_add (x := -x) positive
  rw [roundUp_eq_neg]
  linarith

end Scalper.Lib
