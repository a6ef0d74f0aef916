import Scalper.Lib.Run

/-!
# Two producers

The steps of two producers merged in any order that keeps each one's own (`Interleaving`).  When a
step of the one commutes with a step of the other, every interleaving comes to what the first does
followed by what the second does (`run_interleaved`).
-/

set_option autoImplicit false

namespace Scalper.Lib

variable {σ α β : Type*}

/-- Two sequences merged, each in its own order. -/
structure Interleaving (xs : List α) (ys : List β) where
  order : List (α ⊕ β)
  lefts : order.filterMap Sum.getLeft? = xs
  rights : order.filterMap Sum.getRight? = ys

/-- A step that commutes with every step of a run commutes with the run. -/
theorem run_commutes {f : α → σ → σ} {g : σ → σ} (commute : ∀ x s, f x (g s) = g (f x s))
    (xs : List α) : ∀ s : σ, run f (g s) xs = g (run f s xs) := by
  induction xs with
  | nil => exact fun _ => rfl
  | cons x xs ih =>
      intro s
      rw [run_cons, run_cons, commute, ih]

/-- Commuting producers might as well work one after the other. -/
theorem run_interleaved {f : α → σ → σ} {g : β → σ → σ}
    (commute : ∀ x y s, f x (g y s) = g y (f x s)) (order : List (α ⊕ β)) :
    ∀ s : σ, run (Sum.elim f g) s order =
      run g (run f s (order.filterMap Sum.getLeft?)) (order.filterMap Sum.getRight?) := by
  induction order with
  | nil => exact fun _ => rfl
  | cons next order ih =>
      intro s
      cases next with
      | inl x => exact ih (f x s)
      | inr y =>
          calc run (Sum.elim f g) s (.inr y :: order)
              = run g (run f (g y s) (order.filterMap Sum.getLeft?))
                  (order.filterMap Sum.getRight?) := ih (g y s)
            _ = run g (g y (run f s (order.filterMap Sum.getLeft?)))
                  (order.filterMap Sum.getRight?) := by
                rw [run_commutes fun x s => commute x y s]

theorem Interleaving.mem_left_iff {xs : List α} {ys : List β} (merged : Interleaving xs ys)
    {x : α} : .inl x ∈ merged.order ↔ x ∈ xs := by
  obtain ⟨order, rfl, rfl⟩ := merged
  rw [List.mem_filterMap]
  constructor
  · exact fun member => ⟨.inl x, member, rfl⟩
  · rintro ⟨item, member, found⟩
    cases item with
    | inl y => rwa [← Option.some.inj found]
    | inr y => exact absurd found (by simp)

end Scalper.Lib
