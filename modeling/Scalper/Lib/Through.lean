import Scalper.Lib.Run

/-!
# Runs that end at an input

`through p xs` is the list up to its first element that satisfies `p`, that one included: what a
reader takes who stops there.  A run whose state ignores every input once it is done is the run
over what it takes (`run_through`).  Nothing after the element that ends it is read
(`through_append`).
-/

set_option autoImplicit false

namespace Scalper.Lib

variable {σ α : Type*}

/-- The list up to its first element that satisfies `p`, that one included. -/
def through (p : α → Bool) : List α → List α
  | [] => []
  | x :: xs => x :: if p x then [] else through p xs

section Through

variable {p : α → Bool} {xs : List α} {x : α}

theorem through_cons_of_pos (ends : p x = true) : through p (x :: xs) = [x] := by
  rw [through, if_pos ends]

theorem through_cons_of_neg (goesOn : p x = false) :
    through p (x :: xs) = x :: through p xs := by
  rw [through, goesOn, if_neg Bool.false_ne_true]

/-- The second list is reached only if nothing in the first one ends. -/
theorem through_append (xs ys : List α) :
    through p (xs ++ ys) = if xs.any p then through p xs else xs ++ through p ys := by
  induction xs with
  | nil => rfl
  | cons x xs ih =>
      rw [List.cons_append, List.any_cons]
      cases ends : p x with
      | true => rw [through_cons_of_pos ends, through_cons_of_pos ends, Bool.true_or, if_pos rfl]
      | false =>
          rw [through_cons_of_neg ends, through_cons_of_neg ends, ih,
            Bool.false_or]
          split_ifs <;> rfl

/-- A state that ignores its inputs once it is done has taken only those up to the last. -/
theorem run_through {step : α → σ → σ} (done : σ → Bool)
    (ignores : ∀ s x, done s = true → step x s = s)
    (ends : ∀ s x, done s = false → done (step x s) = p x) (xs : List α) :
    ∀ {s : σ}, done s = false →
      run step s (through p xs) = run step s xs ∧ done (run step s xs) = xs.any p := by
  induction xs with
  | nil => exact fun goesOn => ⟨rfl, goesOn⟩
  | cons x xs ih =>
      intro s goesOn
      have next := ends s x goesOn
      rw [List.any_cons, run_cons]
      cases last : p x with
      | true =>
          rw [last] at next
          rw [through_cons_of_pos last, run_cons, run_nil,
            run_fixed (fun x => ignores _ x next), Bool.true_or]
          exact ⟨rfl, next⟩
      | false =>
          rw [last] at next
          rw [through_cons_of_neg last, run_cons, Bool.false_or]
          exact ih next

end Through

end Scalper.Lib
