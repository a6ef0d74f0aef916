import Mathlib.Algebra.Order.Ring.Rat
import Mathlib.Data.Option.Basic
import Mathlib.Logic.Function.Basic
import Mathlib.Tactic.Linarith

/-!
# Marks that expire

A dictionary keeps for each key the time at which it was last marked, and drops what is older than a
window when somebody looks.  As long as the clock does not go back, it holds a key exactly if the key
was marked within the window before (`Remembers.isSome_iff`), whatever was dropped on the way.
-/

set_option autoImplicit false

namespace Scalper.Lib

variable {κ : Type*}

/-- The time of the last mark of each key. -/
abbrev Marks (κ : Type*) := κ → Option ℚ

/-- Drop the marks before a time. -/
def Marks.expire (cutoff : ℚ) (marks : Marks κ) : Marks κ := fun key =>
  (marks key).filter fun time => cutoff ≤ time

def Marks.mark [DecidableEq κ] (key : κ) (now : ℚ) (marks : Marks κ) : Marks κ :=
  Function.update marks key (some now)

theorem Marks.expire_eq_some_iff {cutoff time : ℚ} {marks : Marks κ} {key : κ} :
    marks.expire cutoff key = some time ↔ marks key = some time ∧ cutoff ≤ time := by
  simp [Marks.expire, Option.filter_eq_some_iff]

/-- From a time on, the marks tell of every window what was marked in it. -/
structure Remembers (window : ℚ) (marks : Marks κ) (log : List (κ × ℚ)) (clock : ℚ) : Prop where
  past : ∀ entry ∈ log, entry.2 ≤ clock
  holds : ∀ key now, clock ≤ now →
    ((∃ time, marks key = some time ∧ now - window ≤ time) ↔
      ∃ entry ∈ log, entry.1 = key ∧ now - window ≤ entry.2)

namespace Remembers

variable {window clock now : ℚ} {marks : Marks κ} {log : List (κ × ℚ)} {key : κ}

theorem start (window clock : ℚ) : Remembers window (fun _ : κ => none) [] clock where
  past := fun entry member => absurd member List.not_mem_nil
  holds := by
    intro key now later
    refine iff_of_false ?_ ?_
    · rintro ⟨time, marked, -⟩
      cases marked
    · rintro ⟨entry, member, -⟩
      cases member

theorem expire (remembers : Remembers window marks log clock) (later : clock ≤ now) :
    Remembers window (marks.expire (now - window)) log now where
  past := fun entry member => (remembers.past entry member).trans later
  holds := by
    intro key time further
    rw [← remembers.holds key time (later.trans further)]
    constructor
    · rintro ⟨marked, found, recent⟩
      exact ⟨marked, (Marks.expire_eq_some_iff.mp found).1, recent⟩
    · rintro ⟨marked, found, recent⟩
      exact ⟨marked, Marks.expire_eq_some_iff.mpr ⟨found, by linarith⟩, recent⟩

/-- After the old marks are dropped, a key is there exactly if it was marked within the window. -/
theorem isSome_iff (remembers : Remembers window marks log clock) (later : clock ≤ now) :
    (marks.expire (now - window) key).isSome = true ↔
      ∃ entry ∈ log, entry.1 = key ∧ now - window ≤ entry.2 := by
  rw [← remembers.holds key now later, Option.isSome_iff_exists]
  exact exists_congr fun time => Marks.expire_eq_some_iff

theorem mark [DecidableEq κ] (remembers : Remembers window marks log clock) (later : clock ≤ now) :
    Remembers window (marks.mark key now) (log ++ [(key, now)]) now where
  past := by
    intro entry member
    rcases List.mem_append.mp member with old | new
    · exact (remembers.past entry old).trans later
    · rw [List.mem_singleton.mp new]
  holds := by
    intro other time further
    by_cases same : other = key
    · subst same
      simp only [Marks.mark, Function.update_self]
      constructor
      · rintro ⟨marked, found, recent⟩
        obtain rfl := Option.some.inj found
        exact ⟨(other, now), List.mem_append_right _ List.mem_cons_self, rfl, recent⟩
      · rintro ⟨entry, member, -, recent⟩
        refine ⟨now, rfl, ?_⟩
        rcases List.mem_append.mp member with old | new
        · exact recent.trans ((remembers.past entry old).trans later)
        · rw [List.mem_singleton.mp new] at recent
          exact recent
    · simp only [Marks.mark, Function.update_of_ne same]
      rw [remembers.holds other time (later.trans further)]
      refine exists_congr fun entry => and_congr_left fun found => ?_
      rw [List.mem_append, List.mem_singleton, or_iff_left]
      rintro rfl
      exact same found.1.symm

end Remembers

end Scalper.Lib
