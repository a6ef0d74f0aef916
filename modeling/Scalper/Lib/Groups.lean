import Mathlib.Data.List.AList

/-!
# Members grouped by a key

A dictionary of lists: members join the list of a key and leave it, and a key whose list becomes
empty is removed.  What a key holds after an operation is said by `members_join` and
`members_leave`; no key holds an empty list as long as nobody joins with an empty one
(`noneEmpty_join_iff`, `noneEmpty_leave`).
-/

set_option autoImplicit false

namespace Scalper.Lib

variable {κ ι : Type} [DecidableEq κ]

/-- Values grouped by a key. -/
abbrev Groups (κ ι : Type) := AList fun _ : κ => List ι

namespace Groups

/-- The members of a key. -/
def members (g : Groups κ ι) (k : κ) : List ι := (g.lookup k).getD []

/-- Everybody. -/
def everyone (g : Groups κ ι) : List ι := g.entries.flatMap (·.2)

/-- `g.setdefault(k, []).extend(xs)`. -/
def join (k : κ) (xs : List ι) (g : Groups κ ι) : Groups κ ι := g.insert k (g.members k ++ xs)

/-- Take a member out of a key, and the key with its last member. -/
def leave [DecidableEq ι] (k : κ) (x : ι) (g : Groups κ ι) : Groups κ ι :=
  match g.lookup k with
  | none => g
  | some xs => if xs.filter (· ≠ x) = [] then g.erase k else g.insert k (xs.filter (· ≠ x))

/-- No key holds an empty list. -/
def NoneEmpty (g : Groups κ ι) : Prop := ∀ k, g.lookup k ≠ some []

variable {g : Groups κ ι}

theorem members_of_lookup {k : κ} {xs : List ι} (found : g.lookup k = some xs) :
    g.members k = xs := by
  rw [members, found, Option.getD_some]

@[simp] theorem members_empty (k : κ) : (∅ : Groups κ ι).members k = [] := rfl

theorem noneEmpty_empty : (∅ : Groups κ ι).NoneEmpty := by
  intro k
  rw [AList.lookup_empty]
  exact nofun

theorem mem_everyone {x : ι} : x ∈ g.everyone ↔ ∃ k, x ∈ g.members k := by
  constructor
  · intro member
    obtain ⟨⟨k, xs⟩, listed, inside⟩ := List.mem_flatMap.mp member
    exact ⟨k, (members_of_lookup (AList.mem_lookup_iff.mpr listed)).symm ▸ inside⟩
  · rintro ⟨k, inside⟩
    cases found : g.lookup k with
    | none => simp [members, found] at inside
    | some xs =>
        rw [members_of_lookup found] at inside
        exact List.mem_flatMap.mpr ⟨⟨k, xs⟩, AList.mem_lookup_iff.mp found, inside⟩

theorem members_join (k k' : κ) (xs : List ι) :
    (g.join k xs).members k' = if k' = k then g.members k ++ xs else g.members k' := by
  by_cases same : k' = k
  · subst same
    simp [join, members]
  · simp [join, members, AList.lookup_insert_ne same, same]

/-- Joining leaves an empty list only where nobody joins a key without members. -/
theorem noneEmpty_join_iff (filled : g.NoneEmpty) (k : κ) (xs : List ι) :
    (g.join k xs).NoneEmpty ↔ g.members k ++ xs ≠ [] := by
  constructor
  · intro after none
    exact after k ((AList.lookup_insert _).trans (congrArg some none))
  · intro some k'
    by_cases same : k' = k
    · subst same
      rw [join, AList.lookup_insert]
      exact fun none => some (Option.some.inj none)
    · rw [join, AList.lookup_insert_ne same]
      exact filled k'

variable [DecidableEq ι]

theorem lookup_leave (k k' : κ) (x : ι) :
    (g.leave k x).lookup k' =
      if k' = k then (g.lookup k).bind fun xs =>
        if xs.filter (· ≠ x) = [] then none else some (xs.filter (· ≠ x))
      else g.lookup k' := by
  unfold leave
  by_cases same : k' = k
  · subst same
    rw [if_pos rfl]
    cases found : g.lookup k' with
    | none => rw [Option.bind_none]; exact found
    | some xs =>
        rw [Option.bind_some]
        dsimp only
        split_ifs with last
        · exact AList.lookup_erase _ _
        · exact AList.lookup_insert _
  · rw [if_neg same]
    split
    · rfl
    · split_ifs
      · exact AList.lookup_erase_ne same
      · exact AList.lookup_insert_ne same

theorem members_leave (k k' : κ) (x : ι) :
    (g.leave k x).members k' =
      if k' = k then (g.members k).filter (· ≠ x) else g.members k' := by
  rw [members, lookup_leave]
  split_ifs
  · cases found : g.lookup k with
    | none => simp [members, found]
    | some xs =>
        rw [Option.bind_some, members_of_lookup found]
        split_ifs with last
        · rw [last, Option.getD_none]
        · rw [Option.getD_some]
  · rfl

theorem noneEmpty_leave (filled : g.NoneEmpty) (k : κ) (x : ι) : (g.leave k x).NoneEmpty := by
  intro k'
  rw [lookup_leave]
  split_ifs
  · cases g.lookup k with
    | none => exact nofun
    | some xs =>
        rw [Option.bind_some]
        split_ifs with last
        · exact nofun
        · exact fun same => last (Option.some.inj same)
  · exact filled k'

end Groups

end Scalper.Lib
