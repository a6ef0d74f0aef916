import Mathlib.Analysis.Convex.Segment

/-!
# The first level a path meets

A path goes from point to point along straight legs.  Which of several levels it meets first is a
question about every moment of it; where it starts strictly between two levels, the ranges of its
legs answer it (`firstMet_of_findSome?`): the first leg whose range holds one of them holds only
that one.
-/

set_option autoImplicit false

namespace Scalper.Lib

open Set AffineMap

variable {K : Type*} [Field K] [LinearOrder K]

/-- The legs of the path from a point through others. -/
def legs : K → List K → List (K × K)
  | _, [] => []
  | a, b :: points => (a, b) :: legs b points

/-- A path along these legs comes to `x`, and before that to none of the levels, of which `x` is
one. -/
inductive FirstMet (levels : Set K) (x : K) : List (K × K) → Prop where
  | here {a b : K} {rest : List (K × K)} (t : K) (within : t ∈ Icc (0 : K) 1)
      (reached : lineMap a b t = x) (level : x ∈ levels)
      (first : ∀ t', 0 ≤ t' → t' < t → lineMap a b t' ∉ levels) :
      FirstMet levels x ((a, b) :: rest)
  | later {a b : K} {rest : List (K × K)} (clear : ∀ t ∈ Icc (0 : K) 1, lineMap a b t ∉ levels)
      (met : FirstMet levels x rest) : FirstMet levels x ((a, b) :: rest)

/-- The one of two levels that is in the range of a leg, and the first of them if both are. -/
def levelOn (l m : K) (leg : K × K) : Option K :=
  if min leg.1 leg.2 ≤ l ∧ l ≤ max leg.1 leg.2 then some l
  else if min leg.1 leg.2 ≤ m ∧ m ≤ max leg.1 leg.2 then some m
  else none

variable [IsStrictOrderedRing K] {a b l m x : K} {levels : Set K} {rest : List (K × K)}

/-- The values on a leg are those of its range. -/
theorem mem_uIcc_iff_lineMap : x ∈ uIcc a b ↔ ∃ t ∈ Icc (0 : K) 1, lineMap a b t = x := by
  rw [← segment_eq_uIcc, segment_eq_image_lineMap]
  exact Iff.rfl

/-- A leg with one level in its range. -/
theorem FirstMet.of_alone (level : x ∈ levels) (within : x ∈ uIcc a b)
    (alone : ∀ y ∈ levels, y ∈ uIcc a b → y = x) : FirstMet levels x ((a, b) :: rest) := by
  by_cases start : a = x
  · refine .here 0 (left_mem_Icc.mpr zero_le_one) ?_ level fun t nonneg below => ?_
    · rw [lineMap_apply_zero, start]
    · exact absurd nonneg (not_le.mpr below)
  · obtain ⟨t, inside, reached⟩ := mem_uIcc_iff_lineMap.mp within
    refine .here t inside reached level fun t' nonneg below met => ?_
    have same := alone _ met (mem_uIcc_iff_lineMap.mpr
      ⟨t', ⟨nonneg, below.le.trans inside.2⟩, rfl⟩)
    -- a leg that moves is at each value once
    rw [← reached] at same
    rcases lineMap_eq_lineMap_iff.mp same with constant | equal
    · exact start (by rw [← reached, ← constant, lineMap_same, const_apply])
    · exact below.ne equal

theorem FirstMet.of_clear (clear : ∀ y ∈ levels, y ∉ uIcc a b) (met : FirstMet levels x rest) :
    FirstMet levels x ((a, b) :: rest) :=
  .later (fun t inside hit => clear _ hit (mem_uIcc_iff_lineMap.mpr ⟨t, inside, rfl⟩)) met

omit [Field K] [IsStrictOrderedRing K] in
/-- From strictly between two levels a leg meets one of them only. -/
theorem notMem_uIcc_of_mem (between : a ∈ uIoo l m) (met : l ∈ uIcc a b) : m ∉ uIcc a b := by
  intro other
  rw [mem_uIcc] at met other
  rcases le_total l m with le | le
  · rw [uIoo_of_le le] at between
    rcases other with ⟨-, upper⟩ | ⟨-, upper⟩
    · rcases met with ⟨lower, -⟩ | ⟨lower, -⟩
      · exact absurd lower (not_le.mpr between.1)
      · exact absurd (upper.trans lower) (not_le.mpr (between.1.trans between.2))
    · exact absurd upper (not_le.mpr between.2)
  · rw [uIoo_of_ge le] at between
    rcases other with ⟨lower, -⟩ | ⟨lower, -⟩
    · exact absurd lower (not_le.mpr between.1)
    · rcases met with ⟨-, upper⟩ | ⟨-, upper⟩
      · exact absurd (upper.trans lower) (not_le.mpr (between.1.trans between.2))
      · exact absurd upper (not_le.mpr between.2)

omit [Field K] [IsStrictOrderedRing K] in
/-- A leg that meets neither stays between them. -/
theorem mem_uIoo_of_clear (between : a ∈ uIoo l m) (clearL : l ∉ uIcc a b) (clearM : m ∉ uIcc a b) :
    b ∈ uIoo l m := by
  rw [mem_uIcc, not_or, not_and, not_and] at clearL clearM
  rcases le_total l m with le | le
  · rw [uIoo_of_le le] at between ⊢
    refine ⟨not_le.mp fun below => ?_, not_le.mp fun above => ?_⟩
    · exact clearL.2 below between.1.le
    · exact clearM.1 between.2.le above
  · rw [uIoo_of_ge le] at between ⊢
    refine ⟨not_le.mp fun below => ?_, not_le.mp fun above => ?_⟩
    · exact clearM.2 below between.1.le
    · exact clearL.1 between.2.le above

omit [Field K] [IsStrictOrderedRing K] in
theorem levelOn_eq_some {leg : K × K} (found : levelOn l m leg = some x) :
    x = l ∧ l ∈ uIcc leg.1 leg.2 ∨ x = m ∧ l ∉ uIcc leg.1 leg.2 ∧ m ∈ uIcc leg.1 leg.2 := by
  rw [levelOn] at found
  split_ifs at found with first second
  · exact .inl ⟨(Option.some.inj found).symm, first⟩
  · exact .inr ⟨(Option.some.inj found).symm, first, second⟩

omit [Field K] [IsStrictOrderedRing K] in
theorem levelOn_eq_none {leg : K × K} (clear : levelOn l m leg = none) :
    l ∉ uIcc leg.1 leg.2 ∧ m ∉ uIcc leg.1 leg.2 := by
  rw [levelOn] at clear
  split_ifs at clear with first second
  exact ⟨first, second⟩

/-- Started strictly between two levels, a path first meets the one that is in the range of the
first leg that has one in its range. -/
theorem firstMet_of_findSome? {points : List K} :
    ∀ {a : K}, a ∈ uIoo l m → (legs a points).findSome? (levelOn l m) = some x →
      FirstMet {l, m} x (legs a points) := by
  induction points with
  | nil =>
      intro a _ found
      cases found
  | cons b points ih =>
      intro a between found
      rw [legs, List.findSome?_cons] at found
      cases here : levelOn l m (a, b) with
      | some y =>
          rw [here] at found
          obtain rfl := Option.some.inj found
          rcases levelOn_eq_some here with ⟨rfl, within⟩ | ⟨rfl, clear, within⟩
          · refine .of_alone (mem_insert _ _) within ?_
            rintro y (rfl | rfl) inside
            · rfl
            · exact absurd inside (notMem_uIcc_of_mem between within)
          · refine .of_alone (mem_insert_of_mem _ rfl) within ?_
            rintro y (rfl | rfl) inside
            · exact absurd inside clear
            · rfl
      | none =>
          rw [here] at found
          obtain ⟨clearL, clearM⟩ := levelOn_eq_none here
          refine .of_clear ?_ (ih (mem_uIoo_of_clear between clearL clearM) found)
          rintro y (rfl | rfl)
          · exact clearL
          · exact clearM

end Scalper.Lib
