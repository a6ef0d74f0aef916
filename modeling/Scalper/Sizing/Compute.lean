import Mathlib.Data.List.Sort
import Mathlib.Order.Bounds.Basic
import Scalper.Lib.Comprehension
import Scalper.Lib.Numeral
import Scalper.Scoring.Sections

/-!
# Position sizes

`packages/sizing/compute.py`.  The notional of an order comes from the tier of the balance, scaled
by the multiplier of the score's bucket, or from the risk per stop, and is capped for the symbol;
the quantity is what it buys at the mark price.

The buckets are named by digit strings.  `int` reads many strings as one number and refuses some
that `isdigit` accepts, while the lookup is by the one string `str` writes, so a bucket can be
there and not be found.  `applyScoreMultiplier_right_iff` says when the multiplier is the one of the
bucket.
-/

set_option autoImplicit false

namespace Scalper.Sizing

open Scalper.Lib Scalper.Scoring

/-- What a computation raises. -/
inductive ComputeError where
  | valueError
  | overflowError
  deriving DecidableEq, Repr

/-! ## Integers and their texts -/

/-- `int(key)` of a string of digits, the only keys a section accepts. -/
def intOfKey (key : String) : Except ComputeError ℤ :=
  match numeralValue key.toList with
  | none => .error .valueError
  | some n => if maxStrDigits < key.length then .error .valueError else .ok n

/-- `str(n)`. -/
def keyOfInt (n : ℤ) : Except ComputeError String :=
  if maxStrDigits < (toString n.natAbs).length then .error .valueError else .ok (toString n)

/-- A score as a float. -/
inductive Score where
  | finite (x : ℚ)
  | infinite
  | nan
  deriving DecidableEq, Repr

/-- `floor(score)`. -/
def Score.floor : Score → Except ComputeError ℤ
  | .finite x => .ok ⌊x⌋
  | .infinite => .error .overflowError
  | .nan => .error .valueError

/-! ## The functions -/

/-- The loop of `select_tier`; `selected` is the last tier that was reached. -/
def selectTierFrom (totalEquity : ℚ) (selected : Option SizingTier) :
    List SizingTier → Option SizingTier
  | [] => selected
  | tier :: tiers =>
      if tier.balanceMin ≤ totalEquity then selectTierFrom totalEquity (some tier) tiers
      else selected

/-- `select_tier`. -/
def selectTier (totalEquity : ℚ) (tiers : List SizingTier) : Option SizingTier :=
  selectTierFrom totalEquity none tiers

/-- `apply_score_multiplier`. -/
def applyScoreMultiplier (notional : ℚ) (score : Option Score)
    (scoreMultipliers : List (String × ℚ)) : Except ComputeError ℚ :=
  match score with
  | none => .ok notional
  | some score =>
      if scoreMultipliers = [] then .ok notional
      else do
        let keys ← scoreMultipliers.mapM fun entry => intOfKey entry.1
        let present := keys.insertionSort (· ≤ ·)
        let floored ← score.floor
        let clamped := min (max floored (present.headD 0)) (present.getLastD 0)
        let key ← keyOfInt clamped
        match scoreMultipliers.lookup key with
        | some multiplier => .ok (notional * multiplier)
        | none => .ok notional

/-- `max_notional_per_symbol.get(symbol, max_notional_per_symbol["default"])`; a section has a
default. -/
def capOf (maxNotionalPerSymbol : List (String × ℚ)) (symbol : String) : ℚ :=
  (maxNotionalPerSymbol.lookup symbol).getD ((maxNotionalPerSymbol.lookup "default").getD 0)

/-- `cap_notional`. -/
def capNotional (notional : ℚ) (maxNotionalPerSymbol : List (String × ℚ)) (symbol : String) : ℚ :=
  min notional (capOf maxNotionalPerSymbol symbol)

/-- `compute_qty_from_sizing`: no quantity below the lowest tier. -/
def computeQtyFromSizing (totalEquity markPrice : ℚ) (tiers : List SizingTier)
    (score : Option Score) (scoreMultipliers maxNotionalPerSymbol : List (String × ℚ))
    (symbol : String) : Except ComputeError (Option ℚ) :=
  match selectTier totalEquity tiers with
  | none => .ok none
  | some tier =>
      if markPrice ≤ 0 then .error .valueError
      else do
        let notional ← applyScoreMultiplier tier.size score scoreMultipliers
        return some (capNotional notional maxNotionalPerSymbol symbol / markPrice)

/-- `compute_qty_from_risk`: no quantity without equity. -/
def computeQtyFromRisk (totalEquity markPrice slPct riskPct : ℚ)
    (maxNotionalPerSymbol : List (String × ℚ)) (symbol : String) : Except ComputeError (Option ℚ) :=
  if totalEquity ≤ 0 then .ok none
  else if markPrice ≤ 0 then .error .valueError
  else if slPct ≤ 0 then .error .valueError
  else if riskPct ≤ 0 then .error .valueError
  else
    .ok (some (capNotional (totalEquity * riskPct / slPct) maxNotionalPerSymbol symbol / markPrice))

/-! ## The tier of a balance -/

/-- The tier with the greatest minimum that the equity reaches. -/
structure IsTierOf (totalEquity : ℚ) (tiers : List SizingTier) (tier : SizingTier) : Prop where
  member : tier ∈ tiers
  reached : tier.balanceMin ≤ totalEquity
  greatest : ∀ other ∈ tiers, other.balanceMin ≤ totalEquity → other.balanceMin ≤ tier.balanceMin

/-- Among ascending tiers the loop ends with the greatest that is reached. -/
theorem selectTierFrom_eq_some {totalEquity : ℚ} {tiers : List SizingTier} {tier : SizingTier} :
    ∀ {selected : Option SizingTier},
      ((selected.toList ++ tiers).map SizingTier.balanceMin).Pairwise (· < ·) →
      (∀ first ∈ selected, first.balanceMin ≤ totalEquity) →
      selectTierFrom totalEquity selected tiers = some tier →
        IsTierOf totalEquity (selected.toList ++ tiers) tier := by
  induction tiers with
  | nil =>
      intro selected _ reached chosen
      rw [selectTierFrom] at chosen
      subst chosen
      exact ⟨by simp, reached tier rfl, by simp⟩
  | cons next tiers ih =>
      intro selected ascending reached chosen
      rw [selectTierFrom] at chosen
      split_ifs at chosen with within
      · -- a tier passed over is below the next one
        have rest := @ih (some next)
          (ascending.sublist (List.Sublist.map _ (by simp))) (by simpa using within) chosen
        have order := rest.greatest next (by simp) within
        refine ⟨List.mem_append_right _ rest.member, rest.reached, fun other member under => ?_⟩
        rcases List.mem_append.mp member with earlier | later
        · rw [List.map_append, List.pairwise_append] at ascending
          exact (ascending.2.2 _ (List.mem_map_of_mem earlier) _
            (by simp)).le.trans order
        · exact rest.greatest other (by simpa using later) under
      · -- the tiers from here on are out of reach
        subst chosen
        refine ⟨by simp, reached tier rfl, fun other member under => ?_⟩
        rcases List.mem_append.mp member with same | later
        · rw [List.mem_singleton.mp same]
        · have above : next.balanceMin ≤ other.balanceMin := by
            rcases List.mem_cons.mp later with rfl | later
            · exact le_refl _
            · rw [List.map_append, List.pairwise_append, List.map_cons, List.pairwise_cons]
                at ascending
              exact (ascending.2.1.1 _ (List.mem_map_of_mem later)).le
          exact absurd (above.trans under) within

theorem isTierOf_of_selectTier {sizing : SizingSection} (method : sizing.method = .tier)
    {totalEquity : ℚ} {tier : SizingTier}
    (chosen : selectTier totalEquity sizing.tiers = some tier) :
    IsTierOf totalEquity sizing.tiers tier := by
  obtain ⟨-, -, -, chain⟩ := sizing.guards.1 method
  exact @selectTierFrom_eq_some _ _ _ none (List.isChain_iff_pairwise.mp chain) (by simp)
    chosen

/-- Of ascending tiers one is the balance's. -/
theorem IsTierOf.unique {totalEquity : ℚ} {tiers : List SizingTier} {tier other : SizingTier}
    (ascending : (tiers.map SizingTier.balanceMin).Pairwise (· < ·))
    (tierOf : IsTierOf totalEquity tiers tier) (otherOf : IsTierOf totalEquity tiers other) :
    tier = other := by
  have same := le_antisymm (otherOf.greatest tier tierOf.member tierOf.reached)
    (tierOf.greatest other otherOf.member otherOf.reached)
  exact List.inj_on_of_nodup_map (ascending.imp fun below => below.ne) tierOf.member
    otherOf.member same

/-! ## The bucket of a score -/

/-- The integer a digit string writes, in whatever script and with whatever leading zeros. -/
def Denotes (key : String) (n : ℤ) : Prop := (numeralValue key.toList).map Nat.cast = some n

instance (key : String) (n : ℤ) : Decidable (Denotes key n) := inferInstanceAs (Decidable (_ = _))

/-- `int` reads the key. -/
def Readable (key : String) : Prop := key.length ≤ maxStrDigits ∧ ∃ n, Denotes key n

/-- The integers the keys write. -/
def denoted (scoreMultipliers : List (String × ℚ)) : Set ℤ :=
  {n | ∃ entry ∈ scoreMultipliers, Denotes entry.1 n}

/-- The bucket of a score: its floor, clamped to the smallest and the largest bucket there is. -/
def IsBucket (scoreMultipliers : List (String × ℚ)) (score : ℚ) (n : ℤ) : Prop :=
  ∃ least greatest, IsLeast (denoted scoreMultipliers) least ∧
    IsGreatest (denoted scoreMultipliers) greatest ∧ n = min (max ⌊score⌋ least) greatest

/-- The notional is scaled by an entry of the bucket, and kept only if the bucket has no entry. -/
def ScalesByBucket (scoreMultipliers : List (String × ℚ)) (score notional : ℚ)
    (result : Except ComputeError ℚ) : Prop :=
  ∃ scaled, result = .ok scaled ∧
    ((∃ n key multiplier, IsBucket scoreMultipliers score n ∧ Denotes key n ∧
        scoreMultipliers.lookup key = some multiplier ∧ scaled = notional * multiplier) ∨
      (∀ n, IsBucket scoreMultipliers score n → n ∉ denoted scoreMultipliers) ∧
        scaled = notional)

/-- The bucket has an entry under the text `str` writes, or no entry at all, or one that leaves
the notional as it is. -/
def FoundOrIdle (scoreMultipliers : List (String × ℚ)) (notional : ℚ) (n : ℤ) : Prop :=
  (scoreMultipliers.lookup (toString n)).isSome ∨ n ∉ denoted scoreMultipliers ∨
    ∃ key multiplier, Denotes key n ∧ scoreMultipliers.lookup key = some multiplier ∧
      notional * multiplier = notional

section Bucket

variable {scoreMultipliers : List (String × ℚ)} {score notional : ℚ} {n : ℤ}

theorem Denotes.nonneg {key : String} (denotes : Denotes key n) : 0 ≤ n := by
  obtain ⟨value, -, rfl⟩ := Option.map_eq_some_iff.mp denotes
  exact Int.natCast_nonneg value

theorem intOfKey_eq_ok_iff {key : String} :
    intOfKey key = .ok n ↔ key.length ≤ maxStrDigits ∧ Denotes key n := by
  rw [intOfKey, Denotes]
  cases numeralValue key.toList with
  | none => simp
  | some value =>
      simp only
      split_ifs with long
      · simp [long]
      · simp [not_lt.mp long]

/-- What `str` writes is read as the number. -/
theorem denotes_toString (nonneg : 0 ≤ n) : Denotes (toString n) n := by
  obtain ⟨value, rfl⟩ := Int.eq_ofNat_of_zero_le nonneg
  have written : numeralValue (toString value).toList = some value := numeralValue_toString value
  exact Option.map_eq_some_iff.mpr ⟨value, written, rfl⟩

/-- `str` writes every number up to one that is read. -/
theorem keyOfInt_of_le {key : String} {m : ℤ} (short : key.length ≤ maxStrDigits)
    (denotes : Denotes key m) (nonneg : 0 ≤ n) (le : n ≤ m) :
    keyOfInt n = .ok (toString n) := by
  obtain ⟨value, rfl⟩ := Int.eq_ofNat_of_zero_le nonneg
  obtain ⟨greater, read, rfl⟩ := Option.map_eq_some_iff.mp denotes
  have digits := length_toString_le read (Int.ofNat_le.mp le)
  rw [String.length_toList] at digits
  rw [keyOfInt, if_neg (not_lt.mpr ?_)]
  exact digits.trans short

/-- The keys are read exactly when each of them is. -/
theorem exists_keys_iff : (∃ keys, (scoreMultipliers.mapM fun entry => intOfKey entry.1) = .ok keys)
    ↔ ∀ entry ∈ scoreMultipliers, Readable entry.1 := by
  induction scoreMultipliers with
  | nil => exact iff_of_true ⟨[], rfl⟩ (by simp)
  | cons entry rest ih =>
      rw [List.forall_mem_cons, ← ih]
      simp only [mapM_eq_ok_iff, List.forall₂_cons_left_iff, intOfKey_eq_ok_iff, Readable]
      constructor
      · rintro ⟨_, n, keys, ⟨short, denotes⟩, read, -⟩
        exact ⟨⟨short, n, denotes⟩, keys, read⟩
      · rintro ⟨⟨short, n, denotes⟩, keys, read⟩
        exact ⟨n :: keys, n, keys, ⟨short, denotes⟩, read, rfl⟩

theorem mem_keys_iff {keys : List ℤ}
    (read : (scoreMultipliers.mapM fun entry => intOfKey entry.1) = .ok keys) :
    n ∈ keys ↔ n ∈ denoted scoreMultipliers := by
  rw [mapM_eq_ok_iff] at read
  induction read with
  | nil => simp [denoted]
  | @cons entry key rest keys first _ ih =>
      have denotes := (intOfKey_eq_ok_iff.mp first).2
      rw [List.mem_cons, ih]
      simp only [denoted, Set.mem_ofPred_eq, List.exists_mem_cons_iff]
      refine or_congr_left ⟨fun same => same ▸ denotes, fun other => ?_⟩
      exact Option.some.inj (other.symm.trans denotes)

/-- The ends of a sorted list. -/
theorem isLeast_insertionSort {keys : List ℤ} (nonempty : keys ≠ []) :
    IsLeast {k | k ∈ keys} ((keys.insertionSort (· ≤ ·)).headD 0) ∧
      IsGreatest {k | k ∈ keys} ((keys.insertionSort (· ≤ ·)).getLastD 0) := by
  have sorted := List.pairwise_insertionSort (· ≤ ·) keys
  have same : ∀ k, k ∈ keys.insertionSort (· ≤ ·) ↔ k ∈ keys :=
    fun k => (List.perm_insertionSort (· ≤ ·) keys).mem_iff
  generalize keys.insertionSort (· ≤ ·) = present at sorted same
  have some_key : present ≠ [] := by
    rintro rfl
    exact nonempty (List.eq_nil_iff_forall_not_mem.mpr fun k => (same k).not.mp (by simp))
  refine ⟨⟨?_, fun k member => ?_⟩, ⟨?_, fun k member => ?_⟩⟩
  · obtain ⟨first, rest, rfl⟩ := List.exists_cons_of_ne_nil some_key
    exact (same first).mp List.mem_cons_self
  · obtain ⟨first, rest, rfl⟩ := List.exists_cons_of_ne_nil some_key
    rcases List.mem_cons.mp ((same k).mpr member) with rfl | later
    · exact le_refl _
    · exact (List.pairwise_cons.mp sorted).1 k later
  · obtain ⟨before, last, split⟩ := (List.eq_nil_or_concat present).resolve_left some_key
    rw [List.concat_eq_append] at split
    subst split
    rw [List.getLastD_concat]
    exact (same last).mp (by simp)
  · obtain ⟨before, last, split⟩ := (List.eq_nil_or_concat present).resolve_left some_key
    rw [List.concat_eq_append] at split
    subst split
    rw [List.getLastD_concat]
    rcases List.mem_append.mp ((same k).mpr member) with earlier | final
    · exact (List.pairwise_append.mp sorted).2.2 k earlier last (by simp)
    · rw [List.mem_singleton.mp final]

variable (score notional) in
/-- Readable keys: the score is looked up in its bucket. -/
theorem applyScoreMultiplier_of_readable (some_key : scoreMultipliers ≠ [])
    (readable : ∀ entry ∈ scoreMultipliers, Readable entry.1) :
    ∃ n, IsBucket scoreMultipliers score n ∧
      applyScoreMultiplier notional (some (.finite score)) scoreMultipliers =
        .ok ((scoreMultipliers.lookup (toString n)).elim notional (notional * ·)) := by
  obtain ⟨keys, read⟩ := exists_keys_iff.mpr readable
  have same : {k | k ∈ keys} = denoted scoreMultipliers := Set.ext fun k => mem_keys_iff read
  have nonempty : keys ≠ [] := by
    rintro rfl
    rw [mapM_eq_ok_iff, List.forall₂_nil_right_iff] at read
    exact some_key read
  obtain ⟨least, greatest⟩ := isLeast_insertionSort nonempty
  rw [same] at least greatest
  -- the bucket lies between two keys that are read, so it is written
  obtain ⟨top, topListed, topDenotes⟩ := greatest.1
  obtain ⟨bottom, -, bottomDenotes⟩ := least.1
  have ordered := greatest.2 least.1
  have written := keyOfInt_of_le (readable top topListed).1 topDenotes
    (bottomDenotes.nonneg.trans (le_min (le_max_right ⌊score⌋ _) ordered)) (min_le_right _ _)
  refine ⟨_, ⟨_, _, least, greatest, rfl⟩, ?_⟩
  simp only [applyScoreMultiplier, if_neg some_key, bind_eq_ok_iff]
  refine ⟨keys, read, ⌊score⌋, rfl, _, written, ?_⟩
  split <;> rename_i found <;> rw [found] <;> rfl

theorem IsBucket.unique {m : ℤ} (bucket : IsBucket scoreMultipliers score n)
    (other : IsBucket scoreMultipliers score m) : n = m := by
  obtain ⟨least, greatest, isLeast, isGreatest, rfl⟩ := bucket
  obtain ⟨least', greatest', isLeast', isGreatest', rfl⟩ := other
  rw [isLeast.unique isLeast', isGreatest.unique isGreatest']

theorem IsBucket.nonneg (bucket : IsBucket scoreMultipliers score n) : 0 ≤ n := by
  obtain ⟨least, greatest, isLeast, isGreatest, rfl⟩ := bucket
  obtain ⟨bottom, -, denotes⟩ := isLeast.1
  exact denotes.nonneg.trans (le_min (le_max_right _ _) (isGreatest.2 isLeast.1))

/-- A bucket without an entry is not found under its text. -/
theorem lookup_eq_none_of_absent (nonneg : 0 ≤ n) (absent : n ∉ denoted scoreMultipliers) :
    scoreMultipliers.lookup (toString n) = none := by
  cases found : scoreMultipliers.lookup (toString n) with
  | none => rfl
  | some multiplier =>
      obtain ⟨before, after, split, -⟩ := List.lookup_eq_some_iff.mp found
      refine absurd ⟨(toString n, multiplier), ?_, denotes_toString nonneg⟩ absent
      rw [split]
      exact List.mem_append_right before List.mem_cons_self

/-- Where every key is read, the multiplier is the bucket's exactly when the lookup finds it, or
there is nothing to find. -/
theorem scalesByBucket_iff (bucket : IsBucket scoreMultipliers score n) :
    ScalesByBucket scoreMultipliers score notional
        (.ok ((scoreMultipliers.lookup (toString n)).elim notional (notional * ·))) ↔
      FoundOrIdle scoreMultipliers notional n := by
  rw [FoundOrIdle]
  cases found : scoreMultipliers.lookup (toString n) with
  | some multiplier =>
      refine iff_of_true ⟨_, rfl, .inl ⟨n, _, multiplier, bucket, ?_, found, rfl⟩⟩ (.inl rfl)
      exact denotes_toString bucket.nonneg
  | none =>
      constructor
      · rintro ⟨scaled, kept, ⟨m, key, multiplier, other, denotes, entry, rfl⟩ | ⟨absent, -⟩⟩
        · obtain rfl := other.unique bucket
          exact .inr (.inr ⟨key, multiplier, denotes, entry, (Except.ok.inj kept).symm⟩)
        · exact .inr (.inl (absent n bucket))
      · rintro (impossible | absent | ⟨key, multiplier, denotes, entry, idle⟩)
        · cases impossible
        · refine ⟨notional, rfl, .inr ⟨fun m other => ?_, rfl⟩⟩
          rwa [other.unique bucket]
        · exact ⟨notional, rfl, .inl ⟨n, key, multiplier, bucket, denotes, entry, idle.symm⟩⟩

/-- **When the multiplier is the one of the score's bucket.** For every section and every finite
score, `apply_score_multiplier` returns and scales by an entry of the bucket, keeping the notional
only if the bucket has none, exactly when `int` reads every key and the entry of the bucket is
under the text that `str` writes, or there is none, or it changes nothing. -/
theorem applyScoreMultiplier_right_iff (sizing : SizingSection) (score notional : ℚ) :
    ScalesByBucket sizing.scoreMultipliers score notional
        (applyScoreMultiplier notional (some (.finite score)) sizing.scoreMultipliers) ↔
      (∀ entry ∈ sizing.scoreMultipliers, Readable entry.1) ∧
        ∀ n, IsBucket sizing.scoreMultipliers score n →
          FoundOrIdle sizing.scoreMultipliers notional n := by
  generalize sizing.scoreMultipliers = scoreMultipliers
  by_cases empty : scoreMultipliers = []
  · subst empty
    have none_denoted : ∀ n, n ∉ denoted [] := by simp [denoted]
    refine iff_of_true ⟨notional, rfl, .inr ⟨fun n _ => none_denoted n, rfl⟩⟩
      ⟨by simp, fun n _ => .inr (.inl (none_denoted n))⟩
  by_cases readable : ∀ entry ∈ scoreMultipliers, Readable entry.1
  · obtain ⟨n, bucket, result⟩ :=
      applyScoreMultiplier_of_readable score notional empty readable
    rw [result, scalesByBucket_iff bucket]
    constructor
    · intro found
      refine ⟨readable, fun m other => ?_⟩
      rwa [other.unique bucket]
    · rintro ⟨-, found⟩
      exact found n bucket
  · refine iff_of_false ?_ fun both => readable both.1
    rintro ⟨scaled, returned, -⟩
    simp only [applyScoreMultiplier, if_neg empty, bind_eq_ok_iff] at returned
    obtain ⟨keys, read, -⟩ := returned
    exact readable (exists_keys_iff.mp ⟨keys, read⟩)

/-- The one bucket there is, is that of every score. -/
theorem isBucket_singleton {key : String} (denotes : Denotes key n) (multiplier score : ℚ) :
    IsBucket [(key, multiplier)] score n := by
  have only : denoted [(key, multiplier)] = {n} := by
    ext m
    constructor
    · rintro ⟨entry, member, other⟩
      rw [List.mem_singleton.mp member] at other
      exact Option.some.inj (other.symm.trans denotes)
    · rintro rfl
      exact ⟨_, List.mem_cons_self, denotes⟩
  refine ⟨n, n, ?_, ?_, (min_eq_right (le_max_right _ _)).symm⟩
  · rw [only]
    exact isLeast_singleton
  · rw [only]
    exact isGreatest_singleton

end Bucket

/-- A bucket named "04" is not found. -/
theorem leadingZero_not_found :
    ¬ ∀ (sizing : SizingSection) (score notional : ℚ),
      ScalesByBucket sizing.scoreMultipliers score notional
        (applyScoreMultiplier notional (some (.finite score)) sizing.scoreMultipliers) := by
  intro alwaysScales
  have bucket : IsBucket [("04", 3 / 4)] (9 / 2) 4 := isBucket_singleton (by decide) _ _
  have scales := alwaysScales ⟨.tier, [⟨0, 1400, by norm_num, by norm_num⟩], [("04", 3 / 4)], none,
    [("default", 3000)], by simp, by decide⟩ (9 / 2) 1400
  have kept : applyScoreMultiplier 1400 (some (.finite (9 / 2))) [("04", 3 / 4)] = .ok 1400 := by
    decide +kernel
  obtain ⟨scaled, result, ⟨n, key, multiplier, -, -, entry, rfl⟩ | ⟨absent, -⟩⟩ := scales
  · have same : 1400 = 1400 * multiplier := Except.ok.inj (kept.symm.trans result)
    obtain ⟨before, after, split, -⟩ := List.lookup_eq_some_iff.mp entry
    change [("04", (3 : ℚ) / 4)] = _ at split
    have listed : (key, multiplier) ∈ [("04", (3 : ℚ) / 4)] := by
      rw [split]
      exact List.mem_append_right before List.mem_cons_self
    rw [List.mem_singleton, Prod.mk.injEq] at listed
    rw [listed.2] at same
    norm_num at same
  · exact absent 4 bucket ⟨_, List.mem_cons_self, by decide⟩

end Scalper.Sizing
