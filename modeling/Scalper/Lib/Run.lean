import Mathlib.Data.List.Basic
import Mathlib.Order.MinMax

/-!
# Runs of a deterministic step function

A system is a step function on states, and a run is a list of inputs.  `RunGuarded` says
that every input of a run meets a condition in the state it is applied to.  The rule every
later result rests on is the invariant rule (`run_invariant`): what one guarded step
preserves, a whole guarded run preserves.  A run is compared with the one that leaves out the
steps an observer cannot see (`run_purge`).
-/

set_option autoImplicit false

namespace Scalper.Lib

variable {σ τ α : Type*}

/-- Apply the inputs in order. -/
def run (step : α → σ → σ) (s : σ) (inputs : List α) : σ :=
  inputs.foldl (fun s input => step input s) s

@[simp] theorem run_nil (step : α → σ → σ) (s : σ) : run step s [] = s := rfl

@[simp] theorem run_cons (step : α → σ → σ) (s : σ) (input : α) (inputs : List α) :
    run step s (input :: inputs) = run step (step input s) inputs := rfl

theorem run_append (step : α → σ → σ) (s : σ) (inputs later : List α) :
    run step s (inputs ++ later) = run step (run step s inputs) later :=
  List.foldl_append

theorem run_concat (step : α → σ → σ) (s : σ) (inputs : List α) (input : α) :
    run step s (inputs ++ [input]) = step input (run step s inputs) := by
  rw [run_append, run_cons, run_nil]

/-- A state that no input changes. -/
theorem run_fixed {step : α → σ → σ} {s : σ} (fixed : ∀ input, step input s = s)
    (inputs : List α) : run step s inputs = s := by
  induction inputs with
  | nil => rfl
  | cons input inputs ih => rw [run_cons, fixed input, ih]

/-- Inputs that change no state may be left out. -/
theorem run_filter {step : α → σ → σ} {p : α → Bool}
    (ignored : ∀ s input, p input = false → step input s = s) (inputs : List α) :
    ∀ s : σ, run step s (inputs.filter p) = run step s inputs := by
  induction inputs with
  | nil => exact fun _ => rfl
  | cons input inputs ih =>
      intro s
      cases met : p input with
      | true =>
          rw [List.filter_cons_of_pos met, run_cons, run_cons, ih]
      | false =>
          rw [List.filter_cons_of_neg (by simp [met]), run_cons, ignored s input met,
            ih]

/-- Every input of the run meets `guard` in the state it is applied to. -/
def RunGuarded (guard : σ → α → Prop) (step : α → σ → σ) : σ → List α → Prop
  | _, [] => True
  | s, input :: inputs => guard s input ∧ RunGuarded guard step (step input s) inputs

instance RunGuarded.decidable (guard : σ → α → Prop) (step : α → σ → σ)
    [∀ s input, Decidable (guard s input)] :
    ∀ (s : σ) (inputs : List α), Decidable (RunGuarded guard step s inputs)
  | _, [] => isTrue trivial
  | s, input :: inputs =>
      @instDecidableAnd _ _ inferInstance (RunGuarded.decidable guard step (step input s) inputs)

theorem runGuarded_congr {step : α → σ → σ} {guard guard' : σ → α → Prop}
    (same : ∀ s input, guard s input ↔ guard' s input) (inputs : List α) :
    ∀ s : σ, RunGuarded guard step s inputs ↔ RunGuarded guard' step s inputs := by
  induction inputs with
  | nil => exact fun _ => Iff.rfl
  | cons input inputs ih =>
      exact fun s => and_congr (same s input) (ih (step input s))

/-- A condition on the inputs alone. -/
theorem runGuarded_of_forall {step : α → σ → σ} {guard : α → Prop} :
    ∀ {inputs : List α} {s : σ}, (∀ input ∈ inputs, guard input) →
      RunGuarded (fun _ input => guard input) step s inputs := by
  intro inputs
  induction inputs with
  | nil => exact fun _ => trivial
  | cons input inputs ih =>
      intro s met
      exact ⟨met input List.mem_cons_self,
        ih fun later member => met later (List.mem_cons_of_mem input member)⟩

theorem runGuarded_append {step : α → σ → σ} {guard : σ → α → Prop} {inputs later : List α} :
    ∀ {s : σ}, RunGuarded guard step s (inputs ++ later) ↔
      RunGuarded guard step s inputs ∧ RunGuarded guard step (run step s inputs) later := by
  induction inputs with
  | nil => simp [RunGuarded]
  | cons input inputs ih =>
      intro s
      simp only [List.cons_append, RunGuarded, ih, run_cons, and_assoc]

/-- What a guarded step preserves, a guarded run preserves. -/
theorem run_invariant {step : α → σ → σ} {guard : σ → α → Prop} (invariant : σ → Prop)
    (preserved : ∀ s input, invariant s → guard s input → invariant (step input s)) :
    ∀ {inputs : List α} {s : σ}, invariant s → RunGuarded guard step s inputs →
      invariant (run step s inputs) := by
  intro inputs
  induction inputs with
  | nil => intro s holds _; exact holds
  | cons input inputs ih =>
      intro s holds guarded
      exact ih (preserved s input holds guarded.1) guarded.2

/-- What every step preserves, every run preserves. -/
theorem run_invariant_of_always {step : α → σ → σ} (invariant : σ → Prop)
    (preserved : ∀ s input, invariant s → invariant (step input s))
    (inputs : List α) {s : σ} (holds : invariant s) : invariant (run step s inputs) := by
  induction inputs generalizing s with
  | nil => exact holds
  | cons input inputs ih =>
      exact ih (preserved s input holds)

/-- A guard that an invariant of the run supplies at every step. -/
theorem runGuarded_of_invariant {step : α → σ → σ} {guard guard' : σ → α → Prop}
    (invariant : σ → Prop)
    (preserved : ∀ s input, invariant s → guard s input → invariant (step input s))
    (supplies : ∀ s input, invariant s → guard s input → guard' s input) :
    ∀ {inputs : List α} {s : σ}, invariant s → RunGuarded guard step s inputs →
      RunGuarded guard' step s inputs := by
  intro inputs
  induction inputs with
  | nil => intro s _ _; trivial
  | cons input inputs ih =>
      intro s holds guarded
      exact ⟨supplies s input holds guarded.1,
        ih (preserved s input holds guarded.1) guarded.2⟩

/-- Two guards that an invariant makes the same. -/
theorem runGuarded_iff_of_invariant {step : α → σ → σ} {premise guard guard' : σ → α → Prop}
    (invariant : σ → Prop)
    (same : ∀ s input, invariant s → premise s input → (guard s input ↔ guard' s input))
    (preserved : ∀ s input, invariant s → premise s input → guard' s input →
      invariant (step input s)) (inputs : List α) :
    ∀ {s : σ}, invariant s → RunGuarded premise step s inputs →
      (RunGuarded guard step s inputs ↔ RunGuarded guard' step s inputs) := by
  induction inputs with
  | nil => exact fun _ _ => Iff.rfl
  | cons input inputs ih =>
      intro s holds premised
      simp only [RunGuarded, same s input holds premised.1]
      exact and_congr_right fun met =>
        ih (preserved s input holds premised.1 met) premised.2

/-- A property that an invariant shows: where a step keeps the invariant under a guard, and has to
meet the guard to have the property after it, the guard holds throughout a run exactly when the
property holds at every point of it. -/
theorem runGuarded_iff_throughout {step : α → σ → σ} {guard : σ → α → Prop}
    (invariant property : σ → Prop) (shows : ∀ s, invariant s → property s)
    (preserved : ∀ s input, invariant s → guard s input → invariant (step input s))
    (needed : ∀ s input, invariant s → property (step input s) → guard s input)
    (inputs : List α) : ∀ {s : σ}, invariant s → (RunGuarded guard step s inputs ↔
      ∀ done, done <+: inputs → property (run step s done)) := by
  induction inputs with
  | nil =>
      intro s holds
      refine iff_of_true trivial fun done within => ?_
      rw [List.prefix_nil.mp within]
      exact shows s holds
  | cons input inputs ih =>
      intro s holds
      constructor
      · rintro ⟨met, guarded⟩ done within
        cases done with
        | nil => exact shows s holds
        | cons first done =>
            obtain ⟨rfl, remaining⟩ := List.cons_prefix_cons.mp within
            have next := preserved s first holds met
            exact (ih next).mp guarded done remaining
      · intro throughout
        have next : property (step input s) :=
          throughout [input] (List.cons_prefix_cons.mpr ⟨rfl, List.nil_prefix⟩)
        have met := needed s input holds next
        refine ⟨met, (ih (preserved s input holds met)).mpr ?_⟩
        exact fun done within => throughout (input :: done) (List.cons_prefix_cons.mpr ⟨rfl, within⟩)

/-- A guard that says when a step keeps an invariant holds throughout a run exactly when the
invariant holds at every point of it. -/
theorem runGuarded_iff_forall_split {step : α → σ → σ} {guard : σ → α → Prop}
    (invariant : σ → Prop)
    (exact_guard : ∀ s input, invariant s → (invariant (step input s) ↔ guard s input))
    (inputs : List α) {s : σ} (holds : invariant s) : RunGuarded guard step s inputs ↔
      ∀ done, done <+: inputs → invariant (run step s done) :=
  runGuarded_iff_throughout invariant invariant (fun _ => id)
    (fun s input holds => (exact_guard s input holds).mpr)
    (fun s input holds => (exact_guard s input holds).mp) inputs holds

/-- A guard that implies another at every step. -/
theorem RunGuarded.mono {step : α → σ → σ} {guard guard' : σ → α → Prop}
    (implies : ∀ s input, guard s input → guard' s input) {inputs : List α} {s : σ}
    (guarded : RunGuarded guard step s inputs) : RunGuarded guard' step s inputs :=
  runGuarded_of_invariant (fun _ => True) (fun _ _ _ _ => trivial)
    (fun s input _ => implies s input) trivial guarded

/-- Steps the observer cannot see may be left out: where they change nothing observed and the
other steps only depend on what is observed, a run looks like the run without them. -/
theorem run_purge {ο : Type*} {step : α → σ → σ} {guard : σ → α → Prop} (observe : σ → ο)
    (hidden : α → Bool)
    (silent : ∀ s input, hidden input = true → guard s input →
      observe (step input s) = observe s)
    (determined : ∀ s t input, hidden input = false → observe s = observe t →
      observe (step input s) = observe (step input t)) (inputs : List α) :
    ∀ {s t : σ}, observe s = observe t → RunGuarded guard step s inputs →
      observe (run step s inputs) = observe (run step t (inputs.filter fun i => !hidden i)) := by
  induction inputs with
  | nil => exact fun same _ => same
  | cons input inputs ih =>
      intro s t same guarded
      cases seen : hidden input with
      | true =>
          rw [List.filter_cons_of_neg (by simp [seen])]
          exact ih ((silent s input seen guarded.1).trans same) guarded.2
      | false =>
          rw [List.filter_cons_of_pos (by simp [seen])]
          exact ih (determined s t input seen same) guarded.2

/-! ## Running extremes -/

section Extremes

variable {β : Type*} [LinearOrder β] (value : α → β)

theorem run_max_le_iff (inputs : List α) {bound : β} :
    ∀ {x : β}, run (fun input x => max x (value input)) x inputs ≤ bound ↔
      x ≤ bound ∧ ∀ input ∈ inputs, value input ≤ bound := by
  induction inputs with
  | nil => simp
  | cons input inputs ih =>
      intro x
      rw [run_cons, ih, max_le_iff, List.forall_mem_cons, and_assoc]

theorem le_run_min_iff (inputs : List α) {bound : β} :
    ∀ {x : β}, bound ≤ run (fun input x => min x (value input)) x inputs ↔
      bound ≤ x ∧ ∀ input ∈ inputs, bound ≤ value input := by
  induction inputs with
  | nil => simp
  | cons input inputs ih =>
      intro x
      rw [run_cons, ih, le_min_iff, List.forall_mem_cons, and_assoc]

/-- A clock that every step moves to the later of two times. -/
theorem clock_run_le_iff {step : α → σ → σ} {clock : σ → β}
    (moves : ∀ input s, clock (step input s) = max (clock s) (value input)) (inputs : List α)
    {bound : β} : ∀ {s : σ}, clock (run step s inputs) ≤ bound ↔
      clock s ≤ bound ∧ ∀ input ∈ inputs, value input ≤ bound := by
  induction inputs with
  | nil => simp
  | cons input inputs ih =>
      intro s
      rw [run_cons, ih, moves, max_le_iff, List.forall_mem_cons, and_assoc]

end Extremes

end Scalper.Lib
