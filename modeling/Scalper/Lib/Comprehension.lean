import Mathlib.Data.List.Forall2
import Mathlib.Tactic.Common

/-!
# Comprehensions that may raise

`[build(x) for x in xs if keep(x)]`, where building an element may raise: what is built is what the
kept elements build, in order (`mapM_eq_ok_iff`).  Every element is answered by what is built, in
order, exactly when all of them are kept (`forall₂_iff_kept`).
-/

set_option autoImplicit false

namespace Scalper.Lib

variable {α β γ ε : Type}

/-- What runs after a step that may raise runs on what the step came to. -/
theorem bind_eq_ok_iff {step : Except ε α} {next : α → Except ε β} {result : β} :
    step >>= next = .ok result ↔ ∃ value, step = .ok value ∧ next value = .ok result := by
  cases step with
  | error error => simp [bind, Except.bind]
  | ok value => simp [bind, Except.bind]

theorem bind_eq_error_iff {step : Except ε α} {next : α → Except ε β} {raised : ε} :
    step >>= next = .error raised ↔
      step = .error raised ∨ ∃ value, step = .ok value ∧ next value = .error raised := by
  cases step with
  | error error => simp [bind, Except.bind]
  | ok value => simp [bind, Except.bind]

/-- A list is built when each of its elements is. -/
theorem mapM_eq_ok_iff {build : γ → Except ε β} (cs : List γ) :
    ∀ {ys : List β}, cs.mapM build = .ok ys ↔
      List.Forall₂ (fun c y => build c = .ok y) cs ys := by
  induction cs with
  | nil =>
      intro ys
      rw [List.mapM_nil, List.forall₂_nil_left_iff]
      exact ⟨fun built => (Except.ok.inj built).symm, fun empty => congrArg Except.ok empty.symm⟩
  | cons c cs ih =>
      intro ys
      simp only [List.mapM_cons, bind_eq_ok_iff, List.forall₂_cons_left_iff, ih]
      constructor
      · rintro ⟨y, first, ys', rest, same⟩
        exact ⟨y, ys', first, rest, (Except.ok.inj same).symm⟩
      · rintro ⟨y, ys', first, rest, rfl⟩
        exact ⟨y, first, ys', rest, rfl⟩

/-- Where every element that is kept is answered by what it builds, and no other element is
answered by anything, nothing is lost exactly when every element is kept. -/
theorem forall₂_iff_kept {keep : α → Option γ} {build : γ → Except ε β} {answers : α → β → Prop}
    (answered : ∀ x c y, keep x = some c → build c = .ok y → answers x y)
    (kept : ∀ x y, answers x y → (keep x).isSome) (xs : List α) :
    ∀ {ys : List β}, (xs.filterMap keep).mapM build = .ok ys →
      (List.Forall₂ answers xs ys ↔ ∀ x ∈ xs, (keep x).isSome) := by
  induction xs with
  | nil =>
      intro ys built
      rw [List.filterMap_nil, mapM_eq_ok_iff, List.forall₂_nil_left_iff] at built
      subst built
      simp
  | cons x xs ih =>
      intro ys built
      rw [List.forall_mem_cons]
      cases found : keep x with
      | none =>
          -- a dropped element is answered by nothing
          refine iff_of_false ?_ (by simp)
          intro all
          obtain ⟨y, _, first, _, _⟩ := List.forall₂_cons_left_iff.mp all
          exact absurd (kept x y first) (by simp [found])
      | some c =>
          rw [List.filterMap_cons_some found, mapM_eq_ok_iff, List.forall₂_cons_left_iff] at built
          obtain ⟨y, ys', first, rest, rfl⟩ := built
          rw [List.forall₂_cons, ih (mapM_eq_ok_iff _ |>.mpr rest)]
          exact and_congr_left fun _ => iff_of_true (answered x c y found first) rfl

end Scalper.Lib
