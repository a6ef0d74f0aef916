import Scalper.Lib.Window

/-!
# A deque of bounded length

`Deque` holds at most `maxlen` items; appending to a full one drops the oldest.  What a deque
holds is the end of what was appended to it: `items_appendAll` for a deque that starts empty,
`items_append` for one step.
-/

set_option autoImplicit false

namespace Scalper.Lib

/-- At most `maxlen` items, oldest first. -/
structure Deque (α : Type) where
  maxlen : ℕ
  items : List α
  bounded : items.length ≤ maxlen

namespace Deque

variable {α : Type}

/-- The empty deque. -/
def empty (maxlen : ℕ) : Deque α := ⟨maxlen, [], Nat.zero_le maxlen⟩

/-- Append an item, dropping the oldest beyond `maxlen`. -/
def append (deque : Deque α) (x : α) : Deque α :=
  if room : deque.items.length < deque.maxlen then
    { maxlen := deque.maxlen
      items := deque.items ++ [x]
      bounded := by simpa using Nat.succ_le_of_lt room }
  else
    { maxlen := deque.maxlen
      items := (deque.items ++ [x]).tail
      bounded := by simpa using deque.bounded }

/-- Append items in order. -/
def appendAll (deque : Deque α) (xs : List α) : Deque α :=
  xs.foldl append deque

@[simp] theorem items_empty (maxlen : ℕ) : (empty maxlen : Deque α).items = [] := rfl

@[simp] theorem maxlen_empty (maxlen : ℕ) : (empty maxlen : Deque α).maxlen = maxlen := rfl

@[simp] theorem maxlen_append (deque : Deque α) (x : α) :
    (deque.append x).maxlen = deque.maxlen := by
  unfold append
  split_ifs <;> rfl

/-- A deque that holds the end of a list holds the end of the longer list. -/
theorem items_append {deque : Deque α} {xs : List α}
    (holds : deque.items = xs.rtake deque.maxlen) (x : α) :
    (deque.append x).items = (xs ++ [x]).rtake deque.maxlen := by
  rw [rtake_concat, ← holds]
  unfold append
  split_ifs <;> rfl

@[simp] theorem appendAll_nil (deque : Deque α) : deque.appendAll [] = deque := rfl

theorem appendAll_concat (deque : Deque α) (xs : List α) (x : α) :
    deque.appendAll (xs ++ [x]) = (deque.appendAll xs).append x := by
  rw [appendAll, List.foldl_append]
  rfl

theorem appendAll_append (deque : Deque α) (xs ys : List α) :
    (deque.appendAll xs).appendAll ys = deque.appendAll (xs ++ ys) :=
  List.foldl_append.symm

@[simp] theorem maxlen_appendAll (deque : Deque α) (xs : List α) :
    (deque.appendAll xs).maxlen = deque.maxlen := by
  induction xs using List.reverseRecOn with
  | nil => rfl
  | append_singleton xs x ih =>
      rw [appendAll_concat, maxlen_append, ih]

/-- **What was appended to an empty deque, as far as it reaches.** -/
theorem items_appendAll (maxlen : ℕ) (xs : List α) :
    ((empty maxlen).appendAll xs).items = xs.rtake maxlen := by
  induction xs using List.reverseRecOn with
  | nil => simp
  | append_singleton xs x ih =>
      rw [appendAll_concat]
      exact (items_append (by simpa using ih) x).trans (by simp)

end Deque

end Scalper.Lib
