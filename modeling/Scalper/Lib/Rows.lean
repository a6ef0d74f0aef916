import Mathlib.Algebra.BigOperators.Group.List.Basic
import Mathlib.Algebra.Ring.Rat
import Mathlib.Data.List.AList
import Mathlib.Data.List.MinMax
import Mathlib.Data.List.Sort
import Mathlib.Tactic.Ring

/-!
# Tables as lists of rows

The statements a program issues against a table are three: append a row, rewrite the rows
that match (`updateWhere`), drop the rows that match (`List.filter`).  What is read back is
a sum over the rows that match (`sumWhere`), a first match (`List.find?`) or the newest rows.
The lemmas say how the reads see each write.
-/

set_option autoImplicit false

namespace Scalper.Lib

variable {ρ : Type*}

/-- `UPDATE ... SET g WHERE p`. -/
def updateWhere (p : ρ → Bool) (g : ρ → ρ) (rows : List ρ) : List ρ :=
  rows.map fun row => if p row then g row else row

/-- `SELECT SUM(f) ... WHERE p`. -/
def sumWhere (p : ρ → Bool) (f : ρ → ℚ) (rows : List ρ) : ℚ :=
  ((rows.filter p).map f).sum

@[simp] theorem sumWhere_nil (p : ρ → Bool) (f : ρ → ℚ) : sumWhere p f [] = 0 := rfl

theorem sumWhere_append (p : ρ → Bool) (f : ρ → ℚ) (rows : List ρ) (row : ρ) :
    sumWhere p f (rows ++ [row]) = sumWhere p f rows + if p row then f row else 0 := by
  cases matched : p row <;> simp [sumWhere, List.filter_append, matched]

/-- A sum over rows none of which match is zero. -/
theorem sumWhere_eq_zero {p : ρ → Bool} {f : ρ → ℚ} {rows : List ρ}
    (unmatched : ∀ row ∈ rows, p row = false) : sumWhere p f rows = 0 := by
  have none : rows.filter p = [] := by
    rw [List.filter_eq_nil_iff]
    intro row member
    simp [unmatched row member]
  simp [sumWhere, none]

/-- A sum over the rows of two conditions that exclude each other. -/
theorem sumWhere_or {p q : ρ → Bool} {f : ρ → ℚ} (rows : List ρ)
    (apart : ∀ row, p row = true → q row = false) :
    sumWhere (fun row => p row || q row) f rows = sumWhere p f rows + sumWhere q f rows := by
  induction rows with
  | nil => simp
  | cons row rows ih =>
      simp only [sumWhere] at ih ⊢
      cases first : p row with
      | true =>
          simp only [List.filter_cons, first, apart row first, Bool.true_or, if_true,
            Bool.false_eq_true, if_false, List.map_cons, List.sum_cons, ih]
          ring
      | false =>
          cases second : q row with
          | true =>
              simp only [List.filter_cons, first, second, Bool.or_true, if_true,
                Bool.false_eq_true, if_false, List.map_cons, List.sum_cons, ih]
              ring
          | false =>
              simp only [List.filter_cons, first, second, Bool.or_false, Bool.false_eq_true,
                if_false, ih]

theorem mem_updateWhere {p : ρ → Bool} {g : ρ → ρ} {rows : List ρ} {row : ρ} :
    row ∈ updateWhere p g rows ↔
      ∃ old ∈ rows, (p old = true ∧ row = g old) ∨ (p old = false ∧ row = old) := by
  unfold updateWhere
  rw [List.mem_map]
  constructor
  · rintro ⟨old, member, rfl⟩
    refine ⟨old, member, ?_⟩
    cases matched : p old <;> simp
  · rintro ⟨old, member, ⟨matched, rfl⟩ | ⟨matched, rfl⟩⟩
    · exact ⟨old, member, by simp [matched]⟩
    · exact ⟨row, member, by simp [matched]⟩

/-- Where nothing matches, nothing is rewritten. -/
theorem updateWhere_eq_self {p : ρ → Bool} {g : ρ → ρ} {rows : List ρ}
    (unmatched : ∀ row ∈ rows, ¬ p row = true) : updateWhere p g rows = rows := by
  unfold updateWhere
  refine (List.map_congr_left fun row member => ?_).trans (List.map_id rows)
  rw [if_neg (unmatched row member)]
  rfl

/-- What a rewrite of the rows that match leaves, once these rows are dropped. -/
theorem filter_not_updateWhere {p : ρ → Bool} {g : ρ → ρ} (keeps : ∀ row, p (g row) = p row)
    (rows : List ρ) :
    ((updateWhere p g rows).filter fun row => !p row) = rows.filter fun row => !p row := by
  induction rows with
  | nil => rfl
  | cons row rows ih =>
      simp only [updateWhere, List.map_cons, List.filter_cons] at ih ⊢
      cases matched : p row <;> simp [matched, keeps, ih]

/-- A rewrite that keeps a key keeps the list of keys. -/
theorem map_updateWhere {κ : Type*} {p : ρ → Bool} {g : ρ → ρ} {key : ρ → κ}
    (keeps : ∀ row, key (g row) = key row) (rows : List ρ) :
    (updateWhere p g rows).map key = rows.map key := by
  unfold updateWhere
  rw [List.map_map]
  refine List.map_congr_left fun row _ => ?_
  show key (if p row then g row else row) = key row
  split
  · exact keeps row
  · rfl

/-- A rewrite commutes with a projection that keeps its condition and its assignment. -/
theorem map_updateWhere_comm {p : ρ → Bool} {g f : ρ → ρ} (keeps : ∀ row, p (f row) = p row)
    (commutes : ∀ row, f (g row) = g (f row)) (rows : List ρ) :
    (updateWhere p g rows).map f = updateWhere p g (rows.map f) := by
  simp only [updateWhere, List.map_map]
  refine List.map_congr_left fun row _ => ?_
  simp only [Function.comp_apply, keeps]
  split
  · exact commutes row
  · rfl

/-- A search and a column that do not see the rewrite read the same. -/
theorem map_find?_updateWhere {κ : Type*} {p q : ρ → Bool} {g : ρ → ρ} {column : ρ → κ}
    (keeps : ∀ row, q (g row) = q row) (reads : ∀ row, column (g row) = column row)
    (rows : List ρ) :
    ((updateWhere p g rows).find? q).map column = (rows.find? q).map column := by
  induction rows with
  | nil => rfl
  | cons row rows ih =>
      have seen : q (if p row then g row else row) = q row := by
        split
        · exact keeps row
        · rfl
      have read : column (if p row then g row else row) = column row := by
        split
        · exact reads row
        · rfl
      simp only [updateWhere, List.map_cons, List.find?_cons, seen] at ih ⊢
      cases q row with
      | true => exact congrArg some read
      | false => exact ih

/-- The rewritten row is found where the row was. -/
theorem find?_updateWhere {p : ρ → Bool} {g : ρ → ρ} (keeps : ∀ row, p (g row) = p row)
    (rows : List ρ) : (updateWhere p g rows).find? p = (rows.find? p).map g := by
  induction rows with
  | nil => rfl
  | cons row rows ih =>
      simp only [updateWhere, List.map_cons, List.find?_cons] at ih ⊢
      cases matched : p row with
      | true => simp [keeps, matched]
      | false => simpa [matched] using ih

/-- Two rewrites of the same rows are one. -/
theorem updateWhere_updateWhere {p : ρ → Bool} {g h : ρ → ρ} (keeps : ∀ row, p (g row) = p row)
    (rows : List ρ) : updateWhere p h (updateWhere p g rows) = updateWhere p (h ∘ g) rows := by
  simp only [updateWhere, List.map_map]
  refine List.map_congr_left fun row _ => ?_
  cases matched : p row <;> simp [keeps, matched]

/-- A sum that does not see the rewritten columns is the same. -/
theorem sumWhere_updateWhere {p q : ρ → Bool} {g : ρ → ρ} {f : ρ → ℚ}
    (keeps : ∀ row, q (g row) = q row) (reads : ∀ row, f (g row) = f row) (rows : List ρ) :
    sumWhere q f (updateWhere p g rows) = sumWhere q f rows := by
  have seen : ∀ row, q (if p row then g row else row) = q row := by
    intro row
    split
    · exact keeps row
    · rfl
  have read : ∀ row, f (if p row then g row else row) = f row := by
    intro row
    split
    · exact reads row
    · rfl
  simp only [sumWhere, updateWhere, List.filter_map, List.map_map, Function.comp_def, seen, read]

/-- A rewrite that only the last row matches. -/
theorem updateWhere_append_fresh {p : ρ → Bool} {g : ρ → ρ} {rows : List ρ} {row : ρ}
    (unmatched : ∀ old ∈ rows, p old = false) (matched : p row = true) :
    updateWhere p g (rows ++ [row]) = rows ++ [g row] := by
  have kept : rows.map (fun old => if p old then g old else old) = rows := by
    calc rows.map (fun old => if p old then g old else old)
        = rows.map id := List.map_congr_left fun old member => by simp [unmatched old member]
      _ = rows := List.map_id rows
  simp [updateWhere, matched, kept]

/-- An update that brings no row into a condition leaves no more rows in it. -/
theorem countP_updateWhere_le {p q : ρ → Bool} {g : ρ → ρ}
    (leaves : ∀ row, p (g row) = true → p row = true) (rows : List ρ) :
    (updateWhere q g rows).countP p ≤ rows.countP p := by
  rw [updateWhere, List.countP_map]
  refine List.countP_mono_left fun row _ met => ?_
  by_cases matched : q row = true
  · rw [Function.comp_apply, if_pos matched] at met
    exact leaves row met
  · rwa [Function.comp_apply, if_neg matched] at met

/-- What all rows meet after one that met it was changed. -/
theorem forall_mem_modify_iff {rows : List ρ} {g : ρ → ρ} {p : ρ → Prop} {i : ℕ} {row : ρ}
    (found : rows[i]? = some row) (met : p row) :
    (∀ after ∈ rows.modify i g, p after) ↔ p (g row) ∧ ∀ other ∈ rows, p other := by
  constructor
  · intro holds
    refine ⟨holds _ (List.mem_of_getElem? (i := i) ?_), fun other member => ?_⟩
    · rw [List.getElem?_modify_eq, found]
      rfl
    · obtain ⟨j, foundOther⟩ := List.getElem?_of_mem member
      by_cases same : i = j
      · subst same
        rwa [← Option.some.inj (found.symm.trans foundOther)]
      · exact holds other (List.mem_of_getElem? (i := j)
          ((List.getElem?_modify_ne g rows same).trans foundOther))
  · rintro ⟨changed, others⟩ after member
    obtain ⟨j, foundAfter⟩ := List.getElem?_of_mem member
    by_cases same : i = j
    · subst same
      rw [List.getElem?_modify_eq, found] at foundAfter
      rwa [← Option.some.inj foundAfter]
    · rw [List.getElem?_modify_ne g rows same] at foundAfter
      exact others after (List.mem_of_getElem? foundAfter)

/-! ## Newest rows -/

section Newest

variable {α τ : Type*} [LinearOrder τ] {time : α → τ}

/-- Oldest first. -/
theorem pairwise_insertionSort_le (time : α → τ) (xs : List α) :
    (xs.insertionSort fun x later => time x ≤ time later).Pairwise
      fun x later => time x ≤ time later :=
  haveI : Std.Total fun x later => time x ≤ time later := ⟨fun x y => le_total (time x) (time y)⟩
  haveI : IsTrans α fun x later => time x ≤ time later := ⟨fun _ _ _ => le_trans⟩
  List.pairwise_insertionSort _ xs

theorem pairwise_insertionSort_ge (time : α → τ) (xs : List α) :
    (xs.insertionSort fun x older => time older ≤ time x).Pairwise
      fun x older => time older ≤ time x :=
  pairwise_insertionSort_le (fun x => OrderDual.toDual (time x)) xs

/-- With distinct times, newest first is oldest first the other way round. -/
theorem insertionSort_ge_eq_reverse {xs : List α} (distinct : (xs.map time).Nodup) :
    (xs.insertionSort fun x older => time older ≤ time x) =
      (xs.insertionSort fun x later => time x ≤ time later).reverse := by
  refine List.Perm.eq_of_pairwise (fun x y member listed later earlier => ?_)
    (pairwise_insertionSort_ge time xs)
    (List.pairwise_reverse.mpr (pairwise_insertionSort_le time xs)) ?_
  · exact List.inj_on_of_nodup_map distinct ((List.mem_insertionSort _).mp member)
      ((List.mem_insertionSort _).mp (List.mem_reverse.mp listed)) (le_antisymm earlier later)
  · exact (List.perm_insertionSort _ xs).trans
      ((List.perm_insertionSort _ xs).symm.trans (List.reverse_perm _).symm)

/-- With distinct times, the newest is the last of those sorted. -/
theorem argmax_eq_getLast? {xs : List α} (distinct : (xs.map time).Nodup) :
    xs.argmax time = (xs.insertionSort fun x later => time x ≤ time later).getLast? := by
  have sorted := pairwise_insertionSort_le time xs
  cases newest : xs.argmax time with
  | none =>
      rw [List.argmax_eq_none.mp newest]
      rfl
  | some x =>
      have member : x ∈ xs.insertionSort fun x later => time x ≤ time later :=
        (List.mem_insertionSort _).mpr (List.argmax_mem newest)
      cases split : (xs.insertionSort fun x later => time x ≤ time later) using
        List.reverseRecOn with
      | nil =>
          rw [split] at member
          exact absurd member List.not_mem_nil
      | append_singleton earlier last =>
          rw [split] at member sorted
          have listed : last ∈ xs := by
            rw [← List.mem_insertionSort fun x later => time x ≤ time later, split]
            exact List.mem_append_right _ List.mem_cons_self
          have atMost : time last ≤ time x := List.le_of_mem_argmax listed newest
          have atLeast : time x ≤ time last := by
            rcases List.mem_append.mp member with before | here
            · exact (List.pairwise_append.mp sorted).2.2 x before last List.mem_cons_self
            · rw [List.mem_singleton.mp here]
          rw [List.getLast?_concat]
          exact congrArg some (List.inj_on_of_nodup_map distinct (List.argmax_mem newest) listed
            (le_antisymm atLeast atMost))

end Newest

/-! ## Partial maps -/

/-- An entry of a partial map after one of its entries was written. -/
theorem update_eq_some_cases {ι κ : Type*} [DecidableEq ι] {entries : ι → Option κ}
    {written other : ι} {value : Option κ} {entry : κ}
    (found : Function.update entries written value other = some entry) :
    other = written ∧ value = some entry ∨ other ≠ written ∧ entries other = some entry := by
  by_cases same : other = written
  · subst same
    exact .inl ⟨rfl, by simpa using found⟩
  · exact .inr ⟨same, by simpa [same] using found⟩

/-- An entry that is left after another one was deleted. -/
theorem update_none_eq_some {ι κ : Type*} [DecidableEq ι] {entries : ι → Option κ}
    {deleted other : ι} {entry : κ}
    (found : Function.update entries deleted none other = some entry) :
    other ≠ deleted ∧ entries other = some entry := by
  rcases update_eq_some_cases found with ⟨-, gone⟩ | left
  · cases gone
  · exact left

/-- An entry of a dictionary after one of its entries was written. -/
theorem lookup_insert_eq_some_cases {ι κ : Type*} [DecidableEq ι] {entries : AList fun _ : ι => κ}
    {written other : ι} {value entry : κ}
    (found : (entries.insert written value).lookup other = some entry) :
    other = written ∧ entry = value ∨ other ≠ written ∧ entries.lookup other = some entry := by
  by_cases same : other = written
  · subst same
    rw [AList.lookup_insert, Option.some.injEq] at found
    exact .inl ⟨rfl, found.symm⟩
  · rw [AList.lookup_insert_ne same] at found
    exact .inr ⟨same, found⟩

end Scalper.Lib
