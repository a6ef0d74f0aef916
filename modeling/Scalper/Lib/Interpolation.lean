import Mathlib.Algebra.Order.Floor.Semiring
import Mathlib.Tactic.Linarith
import Mathlib.Tactic.Ring

/-!
# Values between those of a sequence

Between two neighbours of a sequence the value moves along the straight line from the one to the
other.  Of an ascending sequence it stays between them (`interpolate_mem_Icc`), and it ascends with
the position (`interpolate_mono`).
-/

set_option autoImplicit false

namespace Scalper.Lib

variable {K : Type*} [Field K] [LinearOrder K] [IsStrictOrderedRing K] [FloorSemiring K]
  {sequence : ℕ → K} {position later : K}

/-- The value at a position of the sequence. -/
def interpolate (sequence : ℕ → K) (position : K) : K :=
  sequence ⌊position⌋₊ +
    (position - ⌊position⌋₊) * (sequence (⌊position⌋₊ + 1) - sequence ⌊position⌋₊)

/-- The value is between those of the neighbours. -/
theorem interpolate_mem_Icc (ascending : Monotone sequence) (nonneg : 0 ≤ position) :
    interpolate sequence position ∈
      Set.Icc (sequence ⌊position⌋₊) (sequence (⌊position⌋₊ + 1)) := by
  have below : (⌊position⌋₊ : K) ≤ position := Nat.floor_le nonneg
  have above : position < ⌊position⌋₊ + 1 := Nat.lt_floor_add_one position
  have step := ascending (Nat.le_succ ⌊position⌋₊)
  rw [interpolate]
  constructor
  · have moved := mul_nonneg (sub_nonneg.mpr below) (sub_nonneg.mpr step)
    linarith
  · have left : (position - ⌊position⌋₊) * (sequence (⌊position⌋₊ + 1) - sequence ⌊position⌋₊) ≤
        1 * (sequence (⌊position⌋₊ + 1) - sequence ⌊position⌋₊) :=
      mul_le_mul_of_nonneg_right (by linarith) (sub_nonneg.mpr step)
    linarith

/-- A later position has no smaller value. -/
theorem interpolate_mono (ascending : Monotone sequence) (nonneg : 0 ≤ position)
    (le : position ≤ later) : interpolate sequence position ≤ interpolate sequence later := by
  rcases (Nat.floor_mono le).eq_or_lt with same | before
  · -- on one line the value moves with the position
    have step := sub_nonneg.mpr (ascending (Nat.le_succ ⌊later⌋₊))
    have moved := mul_le_mul_of_nonneg_right (sub_le_sub_right le (⌊later⌋₊ : K)) step
    rw [interpolate, interpolate, same]
    linarith
  · calc interpolate sequence position
        ≤ sequence (⌊position⌋₊ + 1) := (interpolate_mem_Icc ascending nonneg).2
      _ ≤ sequence ⌊later⌋₊ := ascending before
      _ ≤ interpolate sequence later := (interpolate_mem_Icc ascending (nonneg.trans le)).1

end Scalper.Lib
