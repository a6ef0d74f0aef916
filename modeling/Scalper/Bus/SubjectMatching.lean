import Scalper.Bus.ReplayBus

/-!
# Subjects and patterns

`_subject_matches` of `packages/bus/replay_bus.py` splits a pattern and a subject at their dots and
compares them token by token.  A subject matches a pattern of the bus it stands in for when the
tokens are equal place by place, where `*` is any one token and `>`, as the last token, one or more.

The loop answers as soon as it comes to a `>`, whatever follows it in the pattern and even where the
subject has no token left for it.  Up to that place the two agree (`subjectMatches_append_iff`,
`Matches.append_iff`), so they differ exactly where a `>` is come to and does not match what is left
(`subjectMatchesText_iff`), as in `parent_matched`.
-/

set_option autoImplicit false

namespace Scalper.Bus

/-! ## The loop -/

/-- `str.split(".")`. -/
def tokens (text : String) : Subject :=
  (text.toList.splitOn '.').map String.ofList

/-- The loop over `enumerate(pat_tokens)`, and the comparison of the lengths after it. -/
def subjectLoop (subTokens : Subject) : ℕ → Subject → Bool
  | i, [] => i == subTokens.length
  | i, pt :: patTokens =>
      if pt = ">" then true
      else
        match subTokens[i]? with
        | none => false
        | some token =>
            if pt = "*" then subjectLoop subTokens (i + 1) patTokens
            else if pt ≠ token then false
            else subjectLoop subTokens (i + 1) patTokens

/-- `_subject_matches`, on the texts. -/
def subjectMatchesText (pattern subject : String) : Bool :=
  subjectLoop (tokens subject) 0 (tokens pattern)

/-- The loop is at a place of the subject: it goes on with what is left there. -/
theorem subjectLoop_eq {subTokens : Subject} (patTokens : Subject) :
    ∀ {i : ℕ}, i ≤ subTokens.length →
      subjectLoop subTokens i patTokens = subjectMatches patTokens (subTokens.drop i) := by
  induction patTokens with
  | nil =>
      intro i within
      rw [subjectLoop, subjectMatches, Bool.eq_iff_iff, beq_iff_eq, List.isEmpty_iff,
        List.drop_eq_nil_iff]
      exact ⟨fun atEnd => atEnd.ge, fun atEnd => le_antisymm within atEnd⟩
  | cons pt patTokens ih =>
      intro i within
      rw [subjectLoop]
      by_cases tail : pt = ">"
      · subst tail
        cases subTokens.drop i <;> simp [subjectMatches]
      rw [if_neg tail]
      rcases within.eq_or_lt with rfl | more
      · rw [List.getElem?_eq_none le_rfl, List.drop_length]
        simp [subjectMatches, tail]
      · rw [List.getElem?_eq_getElem more, List.drop_eq_getElem_cons more]
        simp only [subjectMatches, if_neg tail]
        by_cases any : pt = "*"
        · rw [if_pos any, if_pos (.inl any), ih more]
        rw [if_neg any]
        by_cases same : pt = subTokens[i]
        · rw [if_neg (not_not.mpr same), if_pos (.inr same), ih more]
        · rw [if_pos same, if_neg (not_or.mpr ⟨any, same⟩)]

/-! ## The relation -/

/-- A subject matches a pattern, token by token. -/
inductive Matches : Subject → Subject → Prop
  | nil : Matches [] []
  | token {pattern subject : Subject} (head : String) :
      Matches pattern subject → Matches (head :: pattern) (head :: subject)
  | star {pattern subject : Subject} (head : String) :
      Matches pattern subject → Matches ("*" :: pattern) (head :: subject)
  | tail (head : String) (subject : Subject) : Matches [">"] (head :: subject)

/-- A token that stands for one token, and one it stands for. -/
def TokenMatches (pt token : String) : Prop := pt = "*" ∨ pt = token

section Places

variable {front pattern subject : Subject}

theorem Matches.cons_iff {pt : String} (single : pt ≠ ">") :
    Matches (pt :: pattern) subject ↔
      ∃ token rest, subject = token :: rest ∧ TokenMatches pt token ∧ Matches pattern rest := by
  constructor
  · intro matched
    cases matched with
    | token head rest => exact ⟨pt, _, rfl, .inr rfl, rest⟩
    | star head rest => exact ⟨head, _, rfl, .inl rfl, rest⟩
    | tail head rest => exact absurd rfl single
  · rintro ⟨token, rest, rfl, rfl | rfl, matched⟩
    · exact .star token matched
    · exact .token pt matched

theorem subjectMatches_cons_iff {pt : String} (single : pt ≠ ">") :
    subjectMatches (pt :: pattern) subject = true ↔
      ∃ token rest, subject = token :: rest ∧ TokenMatches pt token ∧
        subjectMatches pattern rest = true := by
  cases subject with
  | nil => simp [subjectMatches, single]
  | cons token rest => simp [subjectMatches, single, TokenMatches]

/-- Token by token, the tokens before a `>` stand for as many tokens of the subject. -/
theorem append_iff_of_cons_iff (matched : Subject → Subject → Prop)
    (cons_iff : ∀ {pt : String} {pattern subject : Subject}, pt ≠ ">" →
      (matched (pt :: pattern) subject ↔
        ∃ token rest, subject = token :: rest ∧ TokenMatches pt token ∧ matched pattern rest))
    (single : ">" ∉ front) :
    matched (front ++ pattern) subject ↔
      ∃ read rest, subject = read ++ rest ∧ List.Forall₂ TokenMatches front read ∧
        matched pattern rest := by
  induction front generalizing subject with
  | nil =>
      constructor
      · exact fun whole => ⟨[], subject, rfl, .nil, whole⟩
      · rintro ⟨read, rest, rfl, ⟨⟩, whole⟩
        exact whole
  | cons pt front ih =>
      rw [List.mem_cons, not_or] at single
      obtain ⟨first, others⟩ := single
      rw [List.cons_append, cons_iff (Ne.symm first)]
      constructor
      · rintro ⟨token, later, rfl, stands, following⟩
        obtain ⟨read, rest, rfl, each, following⟩ := (ih others).mp following
        exact ⟨token :: read, rest, rfl, .cons stands each, following⟩
      · rintro ⟨read, rest, rfl, _ | ⟨stands, each⟩, following⟩
        exact ⟨_, _, rfl, stands, (ih others).mpr ⟨_, rest, rfl, each, following⟩⟩

theorem Matches.append_iff (single : ">" ∉ front) :
    Matches (front ++ pattern) subject ↔
      ∃ read rest, subject = read ++ rest ∧ List.Forall₂ TokenMatches front read ∧
        Matches pattern rest :=
  append_iff_of_cons_iff Matches Matches.cons_iff single

theorem subjectMatches_append_iff (single : ">" ∉ front) :
    subjectMatches (front ++ pattern) subject = true ↔
      ∃ read rest, subject = read ++ rest ∧ List.Forall₂ TokenMatches front read ∧
        subjectMatches pattern rest = true :=
  append_iff_of_cons_iff (fun pattern subject => subjectMatches pattern subject = true)
    subjectMatches_cons_iff single

end Places

/-! ## Where they differ -/

/-- The loop comes to a `>` that does not match what is left of the subject: it is the last token
and nothing is left, or others follow it, and it is not there to be read as itself. -/
def Swallows (pattern subject : Subject) : Prop :=
  ∃ front after read rest, pattern = front ++ ">" :: after ∧ ">" ∉ front ∧
    subject = read ++ rest ∧ List.Forall₂ TokenMatches front read ∧
      ((after = [] ∧ rest = []) ∨
        (after ≠ [] ∧ ∀ later, rest = ">" :: later → ¬ Matches after later))

theorem matches_nil_iff {rest : Subject} : Matches [] rest ↔ rest = [] := by
  constructor
  · rintro ⟨⟩
    rfl
  · rintro rfl
    exact .nil

theorem matches_tail_iff {rest : Subject} : Matches [">"] rest ↔ rest ≠ [] := by
  constructor
  · generalize tail : [">"] = pattern
    rintro (_ | _)
    · cases tail
    all_goals exact List.cons_ne_nil _ _
  · intro some_token
    obtain ⟨token, rest, rfl⟩ := List.exists_cons_of_ne_nil some_token
    exact .tail token rest

/-- A `>` that is not the last token is only itself. -/
theorem matches_inner_iff {after rest : Subject} (inner : after ≠ []) :
    Matches (">" :: after) rest ↔ ∃ later, rest = ">" :: later ∧ Matches after later := by
  constructor
  · generalize tail : ">" :: after = pattern
    intro matched
    cases matched with
    | nil => cases tail
    | token head matched =>
        obtain ⟨rfl, rfl⟩ := List.cons.inj tail
        exact ⟨_, rfl, matched⟩
    | star head matched => exact absurd (List.cons.inj tail).1 (by decide)
    | tail head subject => exact absurd (List.cons.inj tail).2 inner
  · rintro ⟨later, rfl, matched⟩
    exact .token ">" matched

theorem not_matches_tail_iff {after rest : Subject} :
    ¬ Matches (">" :: after) rest ↔ (after = [] ∧ rest = []) ∨
      (after ≠ [] ∧ ∀ later, rest = ">" :: later → ¬ Matches after later) := by
  by_cases last : after = []
  · subst last
    simp [matches_tail_iff]
  · rw [matches_inner_iff last]
    simp [last]

theorem takeWhile_before_tail {front after : Subject} (single : ">" ∉ front) :
    (front ++ ">" :: after).takeWhile (· ≠ ">") = front := by
  rw [List.takeWhile_append_of_pos]
  · simp
  · intro token member
    exact decide_eq_true fun tail => single (tail ▸ member)

/-- The tokens before the first `>` are read in one way only. -/
theorem swallows_append_iff {front after subject : Subject} (single : ">" ∉ front) :
    Swallows (front ++ ">" :: after) subject ↔
      ∃ read rest, subject = read ++ rest ∧ List.Forall₂ TokenMatches front read ∧
        ¬ Matches (">" :: after) rest := by
  constructor
  · rintro ⟨front', after', read, rest, same, single', split, each, differs⟩
    obtain rfl : front = front' :=
      calc front
        _ = (front ++ ">" :: after).takeWhile (· ≠ ">") := (takeWhile_before_tail single).symm
        _ = (front' ++ ">" :: after').takeWhile (· ≠ ">") := by rw [same]
        _ = front' := takeWhile_before_tail single'
    obtain ⟨-, rfl⟩ := List.cons.inj (List.append_cancel_left same)
    exact ⟨read, rest, split, each, not_matches_tail_iff.mpr differs⟩
  · rintro ⟨read, rest, split, each, differs⟩
    exact ⟨front, after, read, rest, rfl, single, split, each, not_matches_tail_iff.mp differs⟩

theorem subjectMatches_iff (pattern subject : Subject) :
    (subjectMatches pattern subject = true ↔ Matches pattern subject) ↔
      ¬ Swallows pattern subject := by
  by_cases tail : ">" ∈ pattern
  · obtain ⟨front, after, rfl, single⟩ := List.eq_append_cons_of_mem tail
    rw [subjectMatches_append_iff single, Matches.append_iff single, swallows_append_iff single]
    constructor
    · rintro same ⟨read, rest, rfl, each, differs⟩
      obtain ⟨read', rest', split, each', matched⟩ := same.mp ⟨read, rest, rfl, each, by
        cases rest <;> simp [subjectMatches]⟩
      obtain ⟨rfl, rfl⟩ := List.append_inj split (each.length_eq.symm.trans each'.length_eq)
      exact differs matched
    · intro apart
      constructor
      · rintro ⟨read, rest, split, each, -⟩
        exact ⟨read, rest, split, each, not_not.mp fun differs =>
          apart ⟨read, rest, split, each, differs⟩⟩
      · rintro ⟨read, rest, split, each, -⟩
        exact ⟨read, rest, split, each, by cases rest <;> simp [subjectMatches]⟩
  · refine iff_of_true ?_ ?_
    · -- there is no `>`, and both have to come to the end together
      have code : subjectMatches (pattern ++ []) subject = true ↔ _ :=
        subjectMatches_append_iff tail
      have bus : Matches (pattern ++ []) subject ↔ _ := Matches.append_iff tail
      rw [List.append_nil] at code bus
      rw [code, bus]
      refine exists₂_congr fun read rest => and_congr_right fun _ => and_congr_right fun _ => ?_
      rw [matches_nil_iff, subjectMatches, List.isEmpty_iff]
    · rintro ⟨front, after, _, _, rfl, -⟩
      exact tail (List.mem_append_right front List.mem_cons_self)

/-- **When the match is the bus's**: for every pattern and subject, exactly when the loop comes to
no `>` that does not match what is left. -/
theorem subjectMatchesText_iff (pattern subject : String) :
    (subjectMatchesText pattern subject = true ↔ Matches (tokens pattern) (tokens subject)) ↔
      ¬ Swallows (tokens pattern) (tokens subject) := by
  rw [subjectMatchesText, subjectLoop_eq _ (Nat.zero_le _), List.drop_zero]
  exact subjectMatches_iff (tokens pattern) (tokens subject)

/-- The parent of the subjects a tail is to match. -/
theorem parent_matched :
    ¬ ∀ pattern subject : String,
      subjectMatchesText pattern subject = true ↔ Matches (tokens pattern) (tokens subject) := by
  intro always
  have split : tokens "a.>" = ["a", ">"] ∧ tokens "a" = ["a"] := by decide +kernel
  have matched := (always "a.>" "a").mp (by decide +kernel)
  rw [split.1, split.2, Matches.cons_iff (by decide)] at matched
  obtain ⟨token, rest, same, -, nothing⟩ := matched
  exact matches_tail_iff.mp nothing (List.cons.inj same).2.symm

end Scalper.Bus
