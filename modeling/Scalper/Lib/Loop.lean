import Scalper.Lib.Run

/-!
# Loops that end at an exception

A loop runs its body on one item after the other and ends at the first item that raises, with the
state the body left.
-/

set_option autoImplicit false

namespace Scalper.Lib

variable {σ α ε : Type*}

/-- `for x in xs: body(x)`. -/
def forEach (body : α → σ → Except ε Unit × σ) : List α → σ → Except ε Unit × σ
  | [], s => (.ok (), s)
  | x :: xs, s =>
      match body x s with
      | (.ok (), s') => forEach body xs s'
      | (.error raised, s') => (.error raised, s')

section ForEach

variable {body : α → σ → Except ε Unit × σ}

theorem forEach_cons_of_ok {x : α} {xs : List α} {s : σ} (returns : (body x s).1 = .ok ()) :
    forEach body (x :: xs) s = forEach body xs (body x s).2 := by
  rw [forEach]
  split
  · rename_i s' equal
    rw [equal]
  · rename_i equal
    rw [equal] at returns
    cases returns

theorem forEach_cons_of_error {x : α} {xs : List α} {s : σ} {raised : ε}
    (raises : (body x s).1 = .error raised) : forEach body (x :: xs) s = body x s := by
  rw [forEach]
  split
  · rename_i equal
    rw [equal] at raises
    cases raises
  · rename_i equal
    rw [equal]

theorem forEach_cons_ok_iff {x : α} {xs : List α} {s : σ} :
    (forEach body (x :: xs) s).1 = .ok () ↔
      (body x s).1 = .ok () ∧ (forEach body xs (body x s).2).1 = .ok () := by
  cases outcome : (body x s).1 with
  | error raised => simp [forEach_cons_of_error outcome, outcome]
  | ok _ => simp [forEach_cons_of_ok outcome]

theorem forEach_map {β : Type*} (f : β → α) (ys : List β) (s : σ) :
    forEach body (ys.map f) s = forEach (fun y => body (f y)) ys s := by
  induction ys generalizing s with
  | nil => rfl
  | cons y ys ih =>
      simp only [List.map_cons, forEach]
      split
      · exact ih _
      · rfl

theorem forEach_append (xs ys : List α) (s : σ) :
    forEach body (xs ++ ys) s =
      match forEach body xs s with
      | (.ok (), s') => forEach body ys s'
      | (.error raised, s') => (.error raised, s') := by
  induction xs generalizing s with
  | nil => rfl
  | cons x xs ih =>
      simp only [List.cons_append, forEach]
      split
      · exact ih _
      · rfl

/-- A loop inside a loop. -/
theorem forEach_flatMap {β : Type*} {outer : β → σ → Except ε Unit × σ} {items : β → List α}
    {ys : List β} (inner : ∀ y ∈ ys, ∀ s, outer y s = forEach body (items y) s) (s : σ) :
    forEach outer ys s = forEach body (ys.flatMap items) s := by
  induction ys generalizing s with
  | nil => rfl
  | cons y ys ih =>
      have rest := ih fun z member => inner z (List.mem_cons_of_mem y member)
      rw [List.flatMap_cons, forEach_append, forEach, inner y List.mem_cons_self]
      split
      · exact rest _
      · rfl

/-- What the body preserves, the loop preserves, raise it or not. -/
theorem forEach_invariant (invariant : σ → Prop) {xs : List α}
    (preserved : ∀ x ∈ xs, ∀ s, invariant s → invariant (body x s).2) {s : σ}
    (holds : invariant s) : invariant (forEach body xs s).2 := by
  induction xs generalizing s with
  | nil => exact holds
  | cons x xs ih =>
      have first := preserved x List.mem_cons_self s holds
      cases outcome : (body x s).1 with
      | error raised =>
          rw [forEach_cons_of_error outcome]
          exact first
      | ok _ =>
          rw [forEach_cons_of_ok outcome]
          exact ih (fun y member => preserved y (List.mem_cons_of_mem x member))
            first

/-- What the body does not change, the loop does not change. -/
theorem forEach_kept {ο : Type*} (view : σ → ο) {xs : List α}
    (kept : ∀ x ∈ xs, ∀ s, view (body x s).2 = view s) (s : σ) :
    view (forEach body xs s).2 = view s :=
  forEach_invariant (fun later => view later = view s)
    (fun x member later same => (kept x member later).trans same) rfl

end ForEach

end Scalper.Lib
