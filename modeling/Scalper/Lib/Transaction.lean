import Mathlib.Logic.Basic

/-!
# Bodies that may fail

A transaction body is a state transformer that may raise.  The rules say when a body returns:
a sequence returns exactly when its parts do, one after the other.  With one such rule per
statement a body is taken apart, and put together, by rewriting.
-/

set_option autoImplicit false

namespace Scalper.Lib

universe u v

variable {σ α β : Type u} {ε : Type v}

/-- What was returned, named by its use. -/
theorem ok_iff {value result : α} : (Except.ok value : Except ε α) = .ok result ↔ result = value :=
  ⟨fun same => (Except.ok.inj same).symm, fun same => congrArg _ same.symm⟩

theorem bind_ok_iff {body : StateT σ (Except ε) α} {next : α → StateT σ (Except ε) β} {s : σ}
    {result : β × σ} :
    (body >>= next) s = .ok result ↔
      ∃ value s', body s = .ok (value, s') ∧ next value s' = .ok result := by
  show Except.bind (body s) (fun pair => next pair.1 pair.2) = _ ↔ _
  cases body s with
  | error raised => simp [Except.bind]
  | ok pair =>
      obtain ⟨value, s'⟩ := pair
      constructor
      · intro returned
        exact ⟨value, s', rfl, returned⟩
      · rintro ⟨_, _, ⟨⟩, returned⟩
        exact returned

theorem pure_apply (value : α) (s : σ) :
    (pure value : StateT σ (Except ε) α) s = .ok (value, s) := rfl

theorem pure_ok_iff {value : α} {s : σ} {result : α × σ} :
    (pure value : StateT σ (Except ε) α) s = .ok result ↔ result = (value, s) := by
  rw [pure_apply]
  exact ok_iff

theorem throw_ok_iff {raised : ε} {s : σ} {result : α × σ} :
    (throw raised : StateT σ (Except ε) α) s = .ok result ↔ False :=
  ⟨(fun returned => by cases returned), False.elim⟩

end Scalper.Lib
