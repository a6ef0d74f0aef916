import Mathlib.Algebra.Order.Ring.Rat
import Mathlib.Data.List.Pairwise
import Mathlib.Tactic.Linarith

/-!
# Entries that expire

Entries are times in ascending order.  Whoever drops the entries before a time from the front keeps
exactly those at or after it (`dropWhile_lt_eq_filter`).  Two lists that hold the same from some
time on still do so at any later time, and when the one drops what is earlier (`AgreeFrom`): that
is what lets entries expire late, when somebody looks.

`windowCount` counts the entries of a closed window.  Entries appended in order fill no window
beyond a limit when each is appended to a window with room that ends at it
(`windowCount_concat_le`).
-/

set_option autoImplicit false

namespace Scalper.Lib

/-! ## Dropping from the front -/

section Order

variable {α : Type*} [LinearOrder α] {xs ys : List α} {start later : α}

theorem dropWhile_lt_eq_filter (sorted : xs.Pairwise (· ≤ ·)) (start : α) :
    xs.dropWhile (fun x => decide (x < start)) = xs.filter (fun x => decide (start ≤ x)) := by
  induction xs with
  | nil => rfl
  | cons x xs ih =>
      rw [List.pairwise_cons] at sorted
      by_cases early : x < start
      · rw [List.dropWhile_cons_of_pos (by simpa using early), ih sorted.2,
          List.filter_cons_of_neg (by simpa using early)]
      · rw [List.dropWhile_cons_of_neg (by simpa using early), List.filter_eq_self.mpr]
        intro y member
        simp only [decide_eq_true_eq]
        rcases List.mem_cons.mp member with rfl | behind
        · exact not_lt.mp early
        · exact (not_lt.mp early).trans (sorted.1 y behind)

/-- From a time on, the two lists hold the same. -/
def AgreeFrom (start : α) (xs ys : List α) : Prop :=
  xs.filter (fun x => decide (start ≤ x)) = ys.filter (fun x => decide (start ≤ x))

theorem AgreeFrom.refl : AgreeFrom start xs xs := rfl

theorem AgreeFrom.mono (agree : AgreeFrom start xs ys) (le : start ≤ later) :
    AgreeFrom later xs ys := by
  have twice (zs : List α) : (zs.filter fun x => decide (start ≤ x)).filter
      (fun x => decide (later ≤ x)) = zs.filter fun x => decide (later ≤ x) := by
    rw [List.filter_filter]
    refine List.filter_congr fun x _ => ?_
    rw [Bool.and_eq_left_iff_imp]
    simpa using le.trans
  rw [AgreeFrom, ← twice xs, ← twice ys, agree]

theorem AgreeFrom.append (agree : AgreeFrom start xs ys) (zs : List α) :
    AgreeFrom start (xs ++ zs) (ys ++ zs) := by
  rw [AgreeFrom, List.filter_append, List.filter_append, agree]

/-- What is dropped is not missed. -/
theorem AgreeFrom.expire (agree : AgreeFrom start xs ys) :
    AgreeFrom start (xs.filter fun x => decide (start ≤ x)) ys := by
  rw [AgreeFrom, List.filter_filter]
  simpa [AgreeFrom] using agree

end Order

/-! ## Windows -/

section Windows

variable {times : List ℚ} {width start now : ℚ} {limit : ℕ}

/-- How many entries lie in the window of this width from `start` on, both ends included. -/
def windowCount (width start : ℚ) (times : List ℚ) : ℕ :=
  times.countP fun time => decide (start ≤ time ∧ time ≤ start + width)

/-- A window that ends after all entries. -/
theorem windowCount_of_late (late : ∀ time ∈ times, time ≤ start + width) :
    windowCount width start times = (times.filter fun time => decide (start ≤ time)).length := by
  rw [windowCount, ← List.countP_eq_length_filter]
  refine List.countP_congr fun time member => ?_
  simp only [decide_eq_true_eq]
  exact and_iff_left (late time member)

/-- A later entry in a window with room for it. -/
theorem windowCount_concat_le (fits : ∀ start, windowCount width start times ≤ limit)
    (late : ∀ time ∈ times, time ≤ now) (room : windowCount width (now - width) times < limit)
    (start : ℚ) : windowCount width start (times ++ [now]) ≤ limit := by
  by_cases inside : start ≤ now ∧ now ≤ start + width
  · -- the window starts within one width before the entry
    have wider : windowCount width start times ≤ windowCount width (now - width) times := by
      refine List.countP_mono_left fun time member counted => ?_
      simp only [decide_eq_true_eq] at counted ⊢
      have before := late time member
      constructor
      · linarith [inside.2, counted.1]
      · linarith
    rw [windowCount, List.countP_append, List.countP_singleton, if_pos (by simpa using inside)]
    exact Nat.succ_le_of_lt (wider.trans_lt room)
  · rw [windowCount, List.countP_append, List.countP_singleton, if_neg (by simpa using inside)]
    exact fits start

end Windows

end Scalper.Lib
