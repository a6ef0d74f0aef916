import Mathlib.Data.List.Chain
import Mathlib.Data.List.Induction

/-!
# What a stream gives

After every item of a stream a value is read from what has come so far, if there is one.  `series`
lists these values.  A reading that is there from some length on gives one value per item from then
on, and a relation holds between every two consecutive values exactly when it holds between the
readings before and after every item (`isChain_series_iff`).
-/

set_option autoImplicit false

namespace Scalper.Lib

variable {α β : Type*}

/-- The values behind what is done. -/
def seriesFrom (value : List α → Option β) (done : List α) : List α → List β
  | [] => []
  | x :: xs => (value (done ++ [x])).toList ++ seriesFrom value (done ++ [x]) xs

/-- The values of a stream. -/
def series (value : List α → Option β) (xs : List α) : List β := seriesFrom value [] xs

variable {value : List α → Option β}

theorem seriesFrom_concat (x : α) (xs : List α) :
    ∀ done, seriesFrom value done (xs ++ [x]) =
      seriesFrom value done xs ++ (value (done ++ xs ++ [x])).toList := by
  induction xs with
  | nil => intro done; simp [seriesFrom]
  | cons y ys ih =>
      intro done
      simp [seriesFrom, ih]

@[simp] theorem series_nil : series value [] = [] := rfl

/-- One item more. -/
theorem series_concat (xs : List α) (x : α) :
    series value (xs ++ [x]) = series value xs ++ (value (xs ++ [x])).toList := by
  rw [series, seriesFrom_concat, List.nil_append, series]

/-- What is made of every value. -/
theorem series_map {γ : Type*} (f : β → γ) (xs : List α) :
    series (fun done => (value done).map f) xs = (series value xs).map f := by
  induction xs using List.reverseRecOn with
  | nil => rfl
  | append_singleton xs x ih =>
      rw [series_concat, series_concat, ih, List.map_append]
      cases value (xs ++ [x]) <;> rfl

section Warm

variable {warm : ℕ} {reading : List α → β}

/-- From the length `warm` on there is a value. -/
def WarmFrom (value : List α → Option β) (warm : ℕ) (reading : List α → β) : Prop :=
  ∀ done, value done = if warm ≤ done.length then some (reading done) else none

theorem getLast?_series (positive : 0 < warm) (warmFrom : WarmFrom value warm reading)
    (xs : List α) :
    (series value xs).getLast? = if warm ≤ xs.length then some (reading xs) else none := by
  induction xs using List.reverseRecOn with
  | nil =>
      rw [if_neg (by simpa using positive.ne')]
      rfl
  | append_singleton xs x ih =>
      rw [series_concat, warmFrom]
      split_ifs with full
      · simp
      · have short : ¬ warm ≤ xs.length := by
          rw [List.length_append, List.length_singleton] at full
          omega
        rw [Option.toList_none, List.append_nil, ih, if_neg short]

/-- **A relation between consecutive values.** -/
theorem isChain_series_iff (positive : 0 < warm) (warmFrom : WarmFrom value warm reading)
    {related : β → β → Prop} (xs : List α) :
    (series value xs).IsChain related ↔
      ∀ done next, done ++ [next] <+: xs → warm ≤ done.length →
        related (reading done) (reading (done ++ [next])) := by
  induction xs using List.reverseRecOn with
  | nil =>
      refine iff_of_true .nil fun done next within => ?_
      exact absurd (List.prefix_nil.mp within) (by simp)
  | append_singleton xs x ih =>
      have one : (value (xs ++ [x])).toList.IsChain related := by
        cases value (xs ++ [x]) with
        | none => exact .nil
        | some v => exact List.isChain_singleton v
      rw [series_concat, List.isChain_append, ih,
        getLast?_series positive warmFrom]
      simp only [one, true_and]
      constructor
      · rintro ⟨earlier, last⟩ done next within full
        rcases List.prefix_concat_iff.mp within with whole | shorter
        · obtain ⟨rfl, same⟩ := List.append_inj' whole rfl
          obtain rfl := List.singleton_inj.mp same
          refine last _ (by rw [if_pos full]; rfl) _ ?_
          rw [warmFrom, if_pos (by simp; omega)]
          rfl
        · exact earlier done next shorter full
      · intro throughout
        refine ⟨fun done next within full =>
          throughout done next (within.trans (List.prefix_append xs [x])) full, ?_⟩
        intro before is_before after is_after
        split_ifs at is_before with full
        · obtain rfl := Option.mem_some_iff.mp is_before
          rw [warmFrom, if_pos (by simp; omega)] at is_after
          obtain rfl := Option.mem_some_iff.mp is_after
          exact throughout xs x List.prefix_rfl full
        · exact absurd is_before (Option.not_mem_none before)

end Warm

theorem mem_series {x : β} (xs : List α) :
    x ∈ series value xs ↔ ∃ done, done <+: xs ∧ done ≠ [] ∧ value done = some x := by
  induction xs using List.reverseRecOn with
  | nil =>
      refine iff_of_false List.not_mem_nil ?_
      rintro ⟨done, within, nonempty, -⟩
      exact nonempty (List.prefix_nil.mp within)
  | append_singleton xs y ih =>
      rw [series_concat, List.mem_append, ih, Option.mem_toList]
      constructor
      · rintro (⟨done, within, nonempty, gives⟩ | gives)
        · exact ⟨done, within.trans (List.prefix_append xs [y]), nonempty, gives⟩
        · exact ⟨xs ++ [y], List.prefix_rfl, by simp, gives⟩
      · rintro ⟨done, within, nonempty, gives⟩
        rcases List.prefix_concat_iff.mp within with rfl | shorter
        · exact .inr gives
        · exact .inl ⟨done, shorter, nonempty, gives⟩

/-- Values that tell their item come in the order of the items. -/
theorem map_series_sublist {key : β → α}
    (ends : ∀ done v, value done = some v → done.getLast? = some (key v)) (xs : List α) :
    ((series value xs).map key).Sublist xs := by
  induction xs using List.reverseRecOn with
  | nil => exact List.Sublist.refl _
  | append_singleton xs x ih =>
      rw [series_concat, List.map_append]
      refine ih.append ?_
      cases given : value (xs ++ [x]) with
      | none => exact List.nil_sublist _
      | some v =>
          have own := ends _ v given
          rw [List.getLast?_concat] at own
          rw [Option.some.inj own]
          exact List.Sublist.refl _

/-! ## Readings that fail -/

section Failing

variable {ε : Type*} {outcome : List α → Option (Except ε β)}

/-- The values of a stream, past what fails. -/
def seriesPast (outcome : List α → Option (Except ε β)) (xs : List α) : List β :=
  series (fun done => (outcome done).bind Except.toOption) xs

/-- The values behind what is done, until something fails. -/
def seriesUntilFrom (outcome : List α → Option (Except ε β)) (done : List α) : List α → List β
  | [] => []
  | x :: xs =>
      match outcome (done ++ [x]) with
      | none => seriesUntilFrom outcome (done ++ [x]) xs
      | some (.ok value) => value :: seriesUntilFrom outcome (done ++ [x]) xs
      | some (.error _) => []

/-- The values of a stream, until something fails. -/
def seriesUntil (outcome : List α → Option (Except ε β)) (xs : List α) : List β :=
  seriesUntilFrom outcome [] xs

/-- Nothing has failed, up to what is done. -/
def Unfailing (outcome : List α → Option (Except ε β)) (done : List α) : Prop :=
  ∀ earlier, earlier <+: done → earlier ≠ [] → ∀ raised, outcome earlier ≠ some (.error raised)

theorem Unfailing.nil : Unfailing outcome [] := by
  intro earlier within nonempty
  exact absurd (List.prefix_nil.mp within) nonempty

theorem unfailing_concat {done : List α} {x : α} (unfailing : Unfailing outcome done)
    (not_now : ∀ raised, outcome (done ++ [x]) ≠ some (.error raised)) :
    Unfailing outcome (done ++ [x]) := by
  intro earlier within nonempty
  rcases List.prefix_concat_iff.mp within with rfl | shorter
  · exact not_now
  · exact unfailing earlier shorter nonempty

theorem mem_seriesUntilFrom {value : β} (xs : List α) :
    ∀ {done : List α}, Unfailing outcome done →
      (value ∈ seriesUntilFrom outcome done xs ↔
        ∃ more, more <+: xs ∧ more ≠ [] ∧ outcome (done ++ more) = some (.ok value) ∧
          Unfailing outcome (done ++ more)) := by
  induction xs with
  | nil =>
      intro done unfailing
      refine iff_of_false List.not_mem_nil ?_
      rintro ⟨more, within, nonempty, -⟩
      exact nonempty (List.prefix_nil.mp within)
  | cons x xs ih =>
      intro done unfailing
      -- what comes next is `x`, or `x` and something more
      have parted : (∃ more, more <+: x :: xs ∧ more ≠ [] ∧
            outcome (done ++ more) = some (.ok value) ∧ Unfailing outcome (done ++ more)) ↔
          outcome (done ++ [x]) = some (.ok value) ∧ Unfailing outcome (done ++ [x]) ∨
            ∃ more, more <+: xs ∧ more ≠ [] ∧
              outcome (done ++ [x] ++ more) = some (.ok value) ∧
                Unfailing outcome (done ++ [x] ++ more) := by
        constructor
        · rintro ⟨more, within, nonempty, gives, before⟩
          rcases List.prefix_cons_iff.mp within with rfl | ⟨rest, rfl, shorter⟩
          · exact absurd rfl nonempty
          · rw [List.append_cons] at gives before
            cases rest with
            | nil => exact .inl ⟨by simpa using gives, by simpa using before⟩
            | cons y ys => exact .inr ⟨y :: ys, shorter, by simp, gives, before⟩
        · rintro (⟨gives, before⟩ | ⟨more, within, nonempty, gives, before⟩)
          · exact ⟨[x], by simp, by simp, gives, before⟩
          · rw [← List.append_cons] at gives before
            exact ⟨x :: more, List.cons_prefix_cons.mpr ⟨rfl, within⟩, by simp, gives, before⟩
      rw [parted, seriesUntilFrom]
      cases now : outcome (done ++ [x]) with
      | none =>
          have still : Unfailing outcome (done ++ [x]) :=
            unfailing_concat unfailing fun raised => by rw [now]; simp
          simpa using ih still
      | some result =>
          cases result with
          | ok given =>
              have still : Unfailing outcome (done ++ [x]) :=
                unfailing_concat unfailing fun raised => by rw [now]; simp
              simp only [List.mem_cons, ih still, Option.some.injEq,
                Except.ok.injEq, still, and_true, @eq_comm _ value given]
          | error raised =>
              refine iff_of_false List.not_mem_nil ?_
              rintro (⟨gives, -⟩ | ⟨more, -, -, -, before⟩)
              · cases gives
              · exact before _ (List.prefix_append _ more) (by simp) raised now

theorem seriesUntilFrom_sublist (xs : List α) :
    ∀ done : List α, (seriesUntilFrom outcome done xs).Sublist
      (seriesFrom (fun done => (outcome done).bind Except.toOption) done xs) := by
  induction xs with
  | nil => exact fun _ => List.Sublist.refl _
  | cons x xs ih =>
      intro done
      rw [seriesUntilFrom, seriesFrom]
      cases outcome (done ++ [x]) with
      | none => exact ih (done ++ [x])
      | some result =>
          cases result with
          | ok given => exact (ih (done ++ [x])).cons_cons given
          | error raised => exact List.nil_sublist _

/-- Stopping at a failure only leaves values out. -/
theorem seriesUntil_sublist (xs : List α) :
    (seriesUntil outcome xs).Sublist (seriesPast outcome xs) :=
  seriesUntilFrom_sublist xs []

theorem mem_seriesUntil {value : β} (xs : List α) :
    value ∈ seriesUntil outcome xs ↔
      ∃ done, done <+: xs ∧ done ≠ [] ∧ outcome done = some (.ok value) ∧
        Unfailing outcome done := by
  rw [seriesUntil, mem_seriesUntilFrom xs .nil]
  simp only [List.nil_append]

theorem mem_seriesPast {value : β} (xs : List α) :
    value ∈ seriesPast outcome xs ↔
      ∃ done, done <+: xs ∧ done ≠ [] ∧ outcome done = some (.ok value) := by
  rw [seriesPast, mem_series]
  refine exists_congr fun done => and_congr_right fun _ => and_congr_right fun _ => ?_
  cases outcome done with
  | none => simp
  | some result => cases result <;> simp [Except.toOption]

/-- **Stopping at a failure loses nothing exactly when nothing succeeds after one.** -/
theorem mem_series_iff_until {xs : List α}
    (told_apart : ∀ done later value, done <+: xs → later <+: xs →
      outcome done = some (.ok value) → outcome later = some (.ok value) → done = later) :
    (∀ value, value ∈ seriesPast outcome xs ↔ value ∈ seriesUntil outcome xs) ↔
      ∀ done, done <+: xs → done ≠ [] → ∀ value, outcome done = some (.ok value) →
        Unfailing outcome done := by
  simp only [mem_seriesPast, mem_seriesUntil]
  constructor
  · intro same done within nonempty value gives
    obtain ⟨other, other_within, -, other_gives, unfailing⟩ :=
      (same value).mp ⟨done, within, nonempty, gives⟩
    rw [told_apart done other value within other_within gives other_gives]
    exact unfailing
  · intro unfailing value
    constructor
    · rintro ⟨done, within, nonempty, gives⟩
      exact ⟨done, within, nonempty, gives, unfailing done within nonempty value gives⟩
    · rintro ⟨done, within, nonempty, gives, -⟩
      exact ⟨done, within, nonempty, gives⟩

end Failing

end Scalper.Lib
