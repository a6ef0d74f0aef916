import Mathlib.Algebra.BigOperators.Group.List.Basic
import Mathlib.Algebra.Order.Group.Defs
import Mathlib.Order.Bounds.Image

/-!
# Running sums and how far they fall

The running sums of a list start at zero and have one value more for every item.  What the sums fall
by is the difference of an earlier one and a later one, or nothing.  One item more adds one sum and
the falls that end in it, so the greatest sum and the greatest fall are kept up item by item
(`isGreatest_runningSums_concat`, `isGreatest_falls_concat`).
-/

set_option autoImplicit false

namespace Scalper.Lib

section Sums

variable {α : Type*} [AddCommGroup α]

/-- The sums of the first items, from none to all. -/
def runningSums (xs : List α) : Set α := {s | ∃ i ≤ xs.length, s = (xs.take i).sum}

/-- What the running sums fall by between one place and the same or a later one. -/
def falls (xs : List α) : Set α :=
  {fall | ∃ i j, i ≤ j ∧ j ≤ xs.length ∧ fall = (xs.take i).sum - (xs.take j).sum}

variable {xs : List α}

theorem runningSums_nil : runningSums ([] : List α) = {0} := by
  ext s
  simp [runningSums]

theorem falls_nil : falls ([] : List α) = {0} := by
  ext fall
  constructor
  · rintro ⟨i, j, -, -, rfl⟩
    simp
  · rintro rfl
    exact ⟨0, 0, le_rfl, le_rfl, by simp⟩

theorem sum_mem_runningSums (xs : List α) : xs.sum ∈ runningSums xs :=
  ⟨xs.length, le_rfl, by rw [List.take_length]⟩

theorem zero_mem_runningSums (xs : List α) : (0 : α) ∈ runningSums xs :=
  ⟨0, Nat.zero_le _, by simp⟩

/-- The running sums are what a scan lists. -/
theorem mem_runningSums_of_mem_scanl {s : α} (member : s ∈ xs.scanl (· + ·) 0) :
    s ∈ runningSums xs := by
  obtain ⟨i, bound, rfl⟩ := List.mem_iff_getElem.mp member
  rw [List.length_scanl] at bound
  exact ⟨i, Nat.le_of_lt_succ bound, by rw [List.getElem_scanl, ← List.sum_eq_foldl]⟩

/-- A fall from some sum to the last one. -/
theorem sub_sum_mem_falls {s : α} (member : s ∈ runningSums xs) : s - xs.sum ∈ falls xs := by
  obtain ⟨i, le, rfl⟩ := member
  exact ⟨i, xs.length, le, le_rfl, by rw [List.take_length]⟩

theorem runningSums_concat (xs : List α) (x : α) :
    runningSums (xs ++ [x]) = insert (xs ++ [x]).sum (runningSums xs) := by
  ext s
  constructor
  · rintro ⟨i, le, rfl⟩
    rw [List.length_append, List.length_singleton] at le
    obtain below | last := Nat.le_succ_iff.mp le
    · exact Or.inr ⟨i, below, by rw [List.take_append_of_le_length below]⟩
    · refine Or.inl ?_
      rw [List.take_of_length_le (by simp [last])]
  · rintro (rfl | ⟨i, le, rfl⟩)
    · exact sum_mem_runningSums _
    · refine ⟨i, le.trans (by simp), ?_⟩
      rw [List.take_append_of_le_length le]

/-- The falls that end before the last item, and those that end with it. -/
theorem falls_concat (xs : List α) (x : α) :
    falls (xs ++ [x]) =
      falls xs ∪ (fun s => s - (xs ++ [x]).sum) '' runningSums (xs ++ [x]) := by
  ext fall
  constructor
  · rintro ⟨i, j, before, le, rfl⟩
    rw [List.length_append, List.length_singleton] at le
    obtain below | last := Nat.le_succ_iff.mp le
    · refine Or.inl ⟨i, j, before, below, ?_⟩
      rw [List.take_append_of_le_length below, List.take_append_of_le_length (before.trans below)]
    · have whole : (xs ++ [x]).take j = xs ++ [x] := List.take_of_length_le (by simp [last])
      exact Or.inr ⟨((xs ++ [x]).take i).sum, ⟨i, by simpa [last] using before, rfl⟩, by rw [whole]⟩
  · rintro (⟨i, j, before, le, rfl⟩ | ⟨s, member, rfl⟩)
    · refine ⟨i, j, before, le.trans (by simp), ?_⟩
      rw [List.take_append_of_le_length le, List.take_append_of_le_length (before.trans le)]
    · exact sub_sum_mem_falls member

end Sums

section Greatest

variable {α : Type*} [AddCommGroup α] [LinearOrder α] {xs : List α}

theorem isGreatest_runningSums_concat {peak : α} (x : α)
    (greatest : IsGreatest (runningSums xs) peak) :
    IsGreatest (runningSums (xs ++ [x])) (max (xs ++ [x]).sum peak) := by
  rw [runningSums_concat]
  exact greatest.insert _

theorem isGreatest_falls_concat [IsOrderedAddMonoid α] {peak deepest : α} (x : α)
    (greatestFall : IsGreatest (falls xs) deepest)
    (greatestSum : IsGreatest (runningSums (xs ++ [x])) peak) :
    IsGreatest (falls (xs ++ [x])) (max deepest (peak - (xs ++ [x]).sum)) := by
  rw [falls_concat]
  have shifted : Monotone fun s => s - (xs ++ [x]).sum :=
    fun _ _ le => sub_le_sub_right le _
  exact greatestFall.union (shifted.map_isGreatest greatestSum)

end Greatest

end Scalper.Lib
