import Mathlib.Algebra.Order.Field.Basic
import Mathlib.Tactic.Linarith
import Mathlib.Tactic.Ring

/-!
# Token buckets

A bucket holds at most `capacity` tokens and is refilled at a `rate`; each of a list of times takes
one.  The times conform when no interval has more of them than the bucket holds and is refilled
with in it (`Conforms`).

A level is a promise about the past: whenever before `now` the bucket had been full, it would still
hold that much (`Holds`).  Refilling and taking keep it (`Holds.refill`, `Holds.take`), and who
takes a token only from a bucket that holds one keeps the times conforming (`Conforms.take`).
-/

set_option autoImplicit false

namespace Scalper.Lib

section Counting

variable {K : Type*} [LinearOrder K]

/-- How many of the times lie in an interval. -/
def countIn (times : List K) (first last : K) : ℕ :=
  times.countP fun time => first ≤ time ∧ time ≤ last

variable {times : List K} {now : K}

theorem countIn_nil (first last : K) : countIn [] first last = 0 := rfl

theorem countIn_concat (times : List K) (time first last : K) :
    countIn (times ++ [time]) first last =
      countIn times first last + if first ≤ time ∧ time ≤ last then 1 else 0 := by
  simp [countIn, List.countP_append, List.countP_singleton]

/-- What lies behind all times counts nothing. -/
theorem countIn_of_lt {first : K} (past : ∀ time ∈ times, time ≤ now) (after : now < first)
    (last : K) : countIn times first last = 0 := by
  refine List.countP_eq_zero.mpr fun time member inside => ?_
  have within := (of_decide_eq_true inside).1
  exact absurd (within.trans (past time member)) (not_le.mpr after)

/-- Where all times are past, the end of the interval does not matter. -/
theorem countIn_of_le (past : ∀ time ∈ times, time ≤ now) (first : K) {last : K}
    (le : now ≤ last) : countIn times first last = countIn times first now := by
  refine List.countP_congr fun time member => ?_
  simp only [decide_eq_true_eq]
  exact and_congr_right fun _ => ⟨fun _ => past time member, fun within => within.trans le⟩

end Counting

/-! ## Levels -/

variable {K : Type*} [Field K] [LinearOrder K] [IsStrictOrderedRing K]

/-- No interval has more times than the bucket allows. -/
def Conforms (capacity rate : K) (times : List K) : Prop :=
  ∀ first last, first ≤ last →
    (countIn times first last : K) ≤ capacity + rate * (last - first)

/-- A bucket that was full at any time up to now still holds a level. -/
def Holds (capacity rate : K) (times : List K) (now level : K) : Prop :=
  ∀ first ≤ now, (countIn times first now : K) + level ≤ capacity + rate * (now - first)

variable {capacity rate now later level lower : K} {times : List K}

theorem Conforms.nil (capacity_nonneg : 0 ≤ capacity) (rate_nonneg : 0 ≤ rate) :
    Conforms capacity rate ([] : List K) := by
  intro first last le
  rw [countIn_nil, Nat.cast_zero]
  exact add_nonneg capacity_nonneg (mul_nonneg rate_nonneg (sub_nonneg.mpr le))

/-- A bucket from which nothing was taken is full. -/
theorem Holds.full (rate_nonneg : 0 ≤ rate) (now : K) :
    Holds capacity rate ([] : List K) now capacity := by
  intro first le
  rw [countIn_nil, Nat.cast_zero, zero_add]
  exact le_add_of_nonneg_right (mul_nonneg rate_nonneg (sub_nonneg.mpr le))

theorem Holds.mono (holds : Holds capacity rate times now level) (le : lower ≤ level) :
    Holds capacity rate times now lower :=
  fun first before => (add_le_add_right le _).trans (holds first before)

/-- A bucket is refilled up to its capacity. -/
theorem Holds.refill (holds : Holds capacity rate times now level) (rate_nonneg : 0 ≤ rate)
    (past : ∀ time ∈ times, time ≤ now) (le : now ≤ later) :
    Holds capacity rate times later (min capacity (level + (later - now) * rate)) := by
  intro first before
  rcases le_or_gt first now with within | after
  · have held := holds first within
    have refilled := min_le_right capacity (level + (later - now) * rate)
    rw [countIn_of_le past first le]
    linarith
  · have full := min_le_left capacity (level + (later - now) * rate)
    have refilled := mul_nonneg rate_nonneg (sub_nonneg.mpr before)
    rw [countIn_of_lt past after, Nat.cast_zero]
    linarith

/-- A token is taken. -/
theorem Holds.take (holds : Holds capacity rate times now (level + 1)) :
    Holds capacity rate (times ++ [now]) now level := by
  intro first before
  have held := holds first before
  rw [countIn_concat, if_pos ⟨before, le_rfl⟩]
  push_cast
  linarith

/-- A token is taken from a bucket that holds one. -/
theorem Conforms.take (conforms : Conforms capacity rate times)
    (holds : Holds capacity rate times now (level + 1)) (level_nonneg : 0 ≤ level)
    (rate_nonneg : 0 ≤ rate) (past : ∀ time ∈ times, time ≤ now) :
    Conforms capacity rate (times ++ [now]) := by
  intro first last le
  rw [countIn_concat]
  split_ifs with inside
  · have held := holds first inside.1
    have refilled := mul_le_mul_of_nonneg_left (sub_le_sub_right inside.2 first) rate_nonneg
    rw [countIn_of_le past first inside.2]
    push_cast
    linarith
  · rw [Nat.add_zero]
    exact conforms first last le

end Scalper.Lib
