import Mathlib.Algebra.BigOperators.Group.List.Basic
import Mathlib.Data.List.Induction
import Mathlib.Data.List.Sort
import Scalper.Lib.Groups

/-!
# Rows grouped by a key

A loop over rows collects the values of each key (`groupBy`), or adds them up (`sumBy`).  What it
holds for a key is what the rows of the key come to (`lookup_gather`), and its keys are those of the
rows.  The groups of any distinct keys that cover the rows are a partition of them
(`flatMap_filter_perm`), so that counts and sums over the groups are those over the rows.
-/

set_option autoImplicit false

namespace Scalper.Lib

variable {α β κ : Type} [DecidableEq κ]

/-- `for x in xs: d[key(x)] = add(d.get(key(x), start), x)`. -/
def gather (start : β) (add : β → α → β) (key : α → κ) (xs : List α) : AList fun _ : κ => β :=
  xs.foldl (fun d x => d.insert (key x) (add ((d.lookup (key x)).getD start) x)) ∅

/-- `for x in xs: groups.setdefault(key(x), []).append(value(x))`. -/
def groupBy (key : α → κ) (value : α → β) (xs : List α) : Groups κ β :=
  gather [] (fun values x => values ++ [value x]) key xs

/-- `for x in xs: sums[key(x)] = sums.get(key(x), 0) + value(x)`. -/
def sumBy [AddMonoid β] (key : α → κ) (value : α → β) (xs : List α) : AList fun _ : κ => β :=
  gather 0 (fun sum x => sum + value x) key xs

section Loops

variable {start : β} {add : β → α → β} {key : α → κ} {value : α → β} {xs : List α} {k : κ}

theorem filter_key_eq_nil_iff : xs.filter (key · = k) = [] ↔ k ∉ xs.map key := by
  simp [List.filter_eq_nil_iff, List.mem_map]

theorem lookup_gather : (gather start add key xs).lookup k =
    if k ∈ xs.map key then some ((xs.filter (key · = k)).foldl add start) else none := by
  induction xs using List.reverseRecOn generalizing k with
  | nil => rfl
  | append_singleton xs x ih =>
      have last : gather start add key (xs ++ [x]) = (gather start add key xs).insert (key x)
          (add (((gather start add key xs).lookup (key x)).getD start) x) :=
        List.foldl_append
      rw [last, List.map_append, List.filter_append, List.foldl_append]
      by_cases here : k = key x
      · subst here
        have before : ((gather start add key xs).lookup (key x)).getD start =
            (xs.filter (key · = key x)).foldl add start := by
          rw [ih]
          split_ifs with known
          · rfl
          · rw [filter_key_eq_nil_iff.mpr known]
            rfl
        have known : key x ∈ xs.map key ++ [x].map key :=
          List.mem_append_right _ List.mem_cons_self
        rw [AList.lookup_insert, before, if_pos known]
        simp
      · have other : ¬ key x = k := fun same => here same.symm
        rw [AList.lookup_insert_ne here, ih]
        simp [other, here]

theorem mem_keys_gather : k ∈ (gather start add key xs).keys ↔ k ∈ xs.map key := by
  rw [← AList.mem_keys, ← AList.lookup_isSome, lookup_gather]
  split_ifs with known <;> simp [known]

theorem members_groupBy : (groupBy key value xs).members k =
    (xs.filter (key · = k)).map value := by
  have collected : ∀ (ys : List α) (values : List β),
      ys.foldl (fun values x => values ++ [value x]) values = values ++ ys.map value := by
    intro ys
    induction ys with
    | nil => simp
    | cons y ys ih => simp [ih]
  rw [Groups.members, groupBy, lookup_gather]
  split_ifs with known
  · rw [Option.getD_some, collected, List.nil_append]
  · rw [filter_key_eq_nil_iff.mpr known]
    rfl

theorem getD_lookup_sumBy [AddMonoid β] : ((sumBy key value xs).lookup k).getD 0 =
    ((xs.filter (key · = k)).map value).sum := by
  rw [sumBy, lookup_gather]
  split_ifs with known
  · rw [Option.getD_some, List.sum_eq_foldl, List.foldl_map]
  · rw [filter_key_eq_nil_iff.mpr known]
    rfl

end Loops

/-! ## Partitions -/

section Partition

variable {key : α → κ} {keys : List κ} {xs ys : List α}

/-- The groups of distinct keys that cover the rows hold every row once. -/
theorem flatMap_filter_perm (distinct : keys.Nodup) (covered : ∀ x ∈ xs, key x ∈ keys) :
    (keys.flatMap fun k => xs.filter (key · = k)).Perm xs := by
  induction keys generalizing xs with
  | nil =>
      have none : xs = [] := List.eq_nil_iff_forall_not_mem.mpr fun x member => by
        simpa using covered x member
      rw [none]
      exact List.Perm.nil
  | cons k keys ih =>
      rw [List.nodup_cons] at distinct
      rw [List.flatMap_cons]
      have others : (keys.flatMap fun k' => xs.filter (key · = k')) =
          keys.flatMap fun k' => (xs.filter (¬ key · = k)).filter (key · = k') := by
        refine List.flatMap_congr fun k' listed => ?_
        rw [List.filter_filter]
        refine List.filter_congr fun x _ => ?_
        have different : k' ≠ k := fun same => distinct.1 (same ▸ listed)
        by_cases here : key x = k'
        · simp [here, different]
        · simp [here]
      rw [others]
      refine ((ih distinct.2 ?_).append_left _).trans ?_
      · intro x member
        obtain ⟨listed, different⟩ := List.mem_filter.mp member
        exact (List.mem_cons.mp (covered x listed)).resolve_left (of_decide_eq_true different)
      · have split := List.filter_append_perm (fun x => decide (key x = k)) xs
        simpa using split

/-- What the groups sum up to. -/
theorem sum_groups [AddCommMonoid β] (value : α → β) (distinct : keys.Nodup)
    (covered : ∀ x ∈ xs, key x ∈ keys) :
    (keys.map fun k => ((xs.filter (key · = k)).map value).sum).sum = (xs.map value).sum := by
  have same := ((flatMap_filter_perm distinct covered).map value).sum_eq
  rwa [List.map_flatMap, List.flatMap_def, List.sum_flatten, List.map_map] at same

/-- Rows in another order have the same keys. -/
theorem keys_gather_perm {start : β} {add : β → α → β} (same : xs.Perm ys) :
    (gather start add key xs).keys.Perm (gather start add key ys).keys := by
  refine (List.perm_ext_iff_of_nodup (AList.keys_nodup _) (AList.keys_nodup _)).mpr fun k => ?_
  rw [mem_keys_gather, mem_keys_gather, (same.map key).mem_iff]

end Partition

end Scalper.Lib
