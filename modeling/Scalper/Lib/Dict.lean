import Mathlib.Data.List.Induction
import Mathlib.Data.List.Nodup
import Scalper.Lib.Loop

/-!
# Dictionary comprehensions

`{key(x): x for x in xs}` keeps one value for each key: the last one, at the place the key first
appeared.  `dictBy` is the list of these values.  Its keys are distinct (`nodup_keys_dictBy`), and
what it holds for a key is what the sequence holds last (`find?_dictBy`).

A loop over distinct keys meets what belongs to a key at most once: what it leaves of a key
(`view_forEach_of_distinct`), and whether it raises (`forEach_ok_iff_of_distinct`), is decided by what
each key had at the start.
-/

set_option autoImplicit false

namespace Scalper.Lib

variable {κ α : Type*} [DecidableEq κ]

/-- `d[key(x)] = x`. -/
def upsert (key : α → κ) (x : α) : List α → List α
  | [] => [x]
  | y :: ys => if key y = key x then x :: ys else y :: upsert key x ys

/-- The values of `{key(x): x for x in xs}`, in order. -/
def dictBy (key : α → κ) (xs : List α) : List α := xs.foldl (fun d x => upsert key x d) []

theorem map_key_upsert (key : α → κ) (x : α) (d : List α) :
    (upsert key x d).map key = if key x ∈ d.map key then d.map key else d.map key ++ [key x] := by
  induction d with
  | nil => rfl
  | cons y ys ih =>
      by_cases same : key y = key x
      · simp [upsert, same]
      · have other : ¬ key x = key y := fun equal => same equal.symm
        simp only [upsert, if_neg same, List.map_cons, ih, List.mem_cons, other,
          false_or]
        split_ifs <;> rfl

/-- A new key comes last. -/
theorem upsert_of_notMem {key : α → κ} {x : α} {d : List α} (fresh : key x ∉ d.map key) :
    upsert key x d = d ++ [x] := by
  induction d with
  | nil => rfl
  | cons y ys ih =>
      rw [List.map_cons, List.mem_cons, not_or] at fresh
      rw [upsert, if_neg (Ne.symm fresh.1), ih fresh.2, List.cons_append]

theorem mem_map_key_upsert {key : α → κ} {x : α} {d : List α} {k : κ} :
    k ∈ (upsert key x d).map key ↔ k ∈ d.map key ∨ k = key x := by
  rw [map_key_upsert]
  split_ifs with known
  · exact ⟨Or.inl, fun held => held.elim id fun same => same ▸ known⟩
  · rw [List.mem_append, List.mem_singleton]

theorem nodup_keys_upsert {key : α → κ} {d : List α} (distinct : (d.map key).Nodup) (x : α) :
    ((upsert key x d).map key).Nodup := by
  rw [map_key_upsert]
  split_ifs with known
  · exact distinct
  · rw [List.nodup_append]
    refine ⟨distinct, List.nodup_singleton _, fun k listed other new => ?_⟩
    rw [List.mem_singleton.mp new]
    exact fun equal => known (equal ▸ listed)

theorem find?_upsert (key : α → κ) (x : α) (k : κ) (d : List α) :
    (upsert key x d).find? (key · = k) = if key x = k then some x else d.find? (key · = k) := by
  induction d with
  | nil => by_cases same : key x = k <;> simp [upsert, same]
  | cons y ys ih =>
      by_cases replaced : key y = key x
      · by_cases same : key x = k <;> simp [upsert, replaced, same]
      · simp only [upsert, if_neg replaced, List.find?_cons, ih]
        by_cases here : key y = k
        · have other : ¬ key x = k := fun equal => replaced (here.trans equal.symm)
          simp [here, other]
        · simp [here]

/-- A condition on the key is kept by what replaces an item. -/
theorem filter_upsert {key : α → κ} {p : α → Bool} (onKey : ∀ x y, key x = key y → p x = p y)
    (x : α) (d : List α) :
    (upsert key x d).filter p = if p x then upsert key x (d.filter p) else d.filter p := by
  induction d with
  | nil => cases met : p x <;> simp [upsert, met]
  | cons y ys ih =>
      by_cases same : key y = key x
      · have alike : p y = p x := onKey y x same
        cases met : p x <;> simp [upsert, same, alike, met]
      · simp only [upsert, if_neg same, List.filter_cons, ih]
        cases p x <;> cases p y <;> simp [upsert, same]

/-- Two keys that tell the same items apart. -/
theorem upsert_congr {ι : Type*} [DecidableEq ι] {key : α → κ} {other : α → ι} {x : α} {d : List α}
    (alike : ∀ y ∈ d, key y = key x ↔ other y = other x) : upsert key x d = upsert other x d := by
  induction d with
  | nil => rfl
  | cons y ys ih =>
      simp only [upsert, alike y List.mem_cons_self,
        ih fun z member => alike z (List.mem_cons_of_mem y member)]

section Fold

variable (key : α → κ)

/-- One item more. -/
theorem dictBy_concat (xs : List α) (x : α) :
    dictBy key (xs ++ [x]) = upsert key x (dictBy key xs) := by
  simp [dictBy, List.foldl_append]

theorem nodup_keys_dictBy (xs : List α) : ((dictBy key xs).map key).Nodup := by
  induction xs using List.reverseRecOn with
  | nil => exact List.nodup_nil
  | append_singleton xs x ih =>
      rw [dictBy_concat]
      exact nodup_keys_upsert ih x

theorem nodup_dictBy (xs : List α) : (dictBy key xs).Nodup :=
  (nodup_keys_dictBy key xs).of_map key

/-- The last item of a key is the one that is held. -/
theorem find?_dictBy (xs : List α) (k : κ) :
    (dictBy key xs).find? (key · = k) = xs.reverse.find? (key · = k) := by
  induction xs using List.reverseRecOn with
  | nil => rfl
  | append_singleton xs x ih =>
      rw [dictBy_concat, find?_upsert, ih, List.reverse_append]
      by_cases same : key x = k <;> simp [same]

/-- What a list with distinct keys holds for a key. -/
theorem find?_key_eq_some_iff {key : α → κ} {d : List α} (distinct : (d.map key).Nodup) {k : κ}
    {x : α} : d.find? (key · = k) = some x ↔ x ∈ d ∧ key x = k := by
  constructor
  · intro found
    exact ⟨List.mem_of_find?_eq_some found, by simpa using List.find?_some found⟩
  · rintro ⟨member, rfl⟩
    cases found : d.find? (key · = key x) with
    | none => simpa using List.find?_eq_none.mp found x member
    | some y =>
        have sameKey : key y = key x := by simpa using List.find?_some found
        exact congrArg some
          (List.inj_on_of_nodup_map distinct (List.mem_of_find?_eq_some found) member sameKey)

theorem mem_dictBy_iff {xs : List α} {x : α} :
    x ∈ dictBy key xs ↔ xs.reverse.find? (key · = key x) = some x := by
  rw [← find?_dictBy, find?_key_eq_some_iff (nodup_keys_dictBy key xs)]
  simp

/-- Without repeated keys nothing is overwritten. -/
theorem mem_dictBy_of_nodup {xs : List α} (distinct : (xs.map key).Nodup) {x : α} :
    x ∈ dictBy key xs ↔ x ∈ xs := by
  have reversed : (xs.reverse.map key).Nodup := by
    rw [List.map_reverse]
    exact List.nodup_reverse.mpr distinct
  rw [mem_dictBy_iff, find?_key_eq_some_iff reversed]
  simp

theorem mem_of_mem_dictBy {xs : List α} {x : α} (held : x ∈ dictBy key xs) :
    x ∈ xs := by
  rw [mem_dictBy_iff] at held
  exact List.mem_reverse.mp (List.mem_of_find?_eq_some held)

theorem dictBy_congr {ι : Type*} [DecidableEq ι] {other : α → ι} {xs : List α}
    (alike : ∀ x ∈ xs, ∀ y ∈ xs, key y = key x ↔ other y = other x) :
    dictBy key xs = dictBy other xs := by
  induction xs using List.reverseRecOn with
  | nil => rfl
  | append_singleton xs x ih =>
      have before := ih fun y member z listed =>
        alike y (List.mem_append_left _ member) z (List.mem_append_left _ listed)
      rw [dictBy_concat, dictBy_concat, ← before]
      refine upsert_congr fun y held => ?_
      exact alike x (List.mem_append_right _ List.mem_cons_self) y
        (List.mem_append_left _ (mem_of_mem_dictBy key held))

theorem dictBy_eq_nil_iff {xs : List α} : dictBy key xs = [] ↔ xs = [] := by
  constructor
  · intro empty
    cases xs using List.reverseRecOn with
    | nil => rfl
    | append_singleton xs x =>
        have written := find?_dictBy key (xs ++ [x]) (key x)
        simp [empty] at written
  · rintro rfl
    rfl

end Fold

/-! ## Loops over distinct keys -/

section Loops

variable {σ ο ε : Type*} (key : α → κ) (view : κ → σ → ο)

/-- What a loop that does not raise leaves of a key, under what the body keeps. -/
theorem view_forEach_of_kept (update : α → ο → ο) {body : α → σ → Except ε Unit × σ} {k : κ}
    {xs : List α} (invariant : σ → Prop)
    (kept : ∀ x ∈ xs, ∀ s, invariant s → invariant (body x s).2)
    (touched : ∀ x ∈ xs, ∀ s, invariant s → key x = k → (body x s).1 = .ok () →
      view k (body x s).2 = update x (view k s))
    (untouched : ∀ x ∈ xs, ∀ s, invariant s → key x ≠ k → view k (body x s).2 = view k s)
    (distinct : (xs.map key).Nodup) {s : σ} (holds : invariant s)
    (returns : (forEach body xs s).1 = .ok ()) :
    view k (forEach body xs s).2 =
      match xs.find? (key · = k) with
      | none => view k s
      | some x => update x (view k s) := by
  induction xs generalizing s with
  | nil => rfl
  | cons x xs ih =>
      rw [List.map_cons, List.nodup_cons] at distinct
      rw [forEach_cons_ok_iff] at returns
      have rest := ih (fun y member => kept y (List.mem_cons_of_mem x member))
        (fun y member => touched y (List.mem_cons_of_mem x member))
        (fun y member => untouched y (List.mem_cons_of_mem x member)) distinct.2
        (kept x List.mem_cons_self s holds) returns.2
      rw [forEach_cons_of_ok returns.1, rest]
      by_cases here : key x = k
      · have absent : xs.find? (key · = k) = none := by
          rw [List.find?_eq_none]
          intro y member
          simp only [decide_eq_true_eq]
          exact fun same => distinct.1 (here.trans same.symm ▸ List.mem_map_of_mem member)
        simp only [absent, List.find?_cons, here, decide_true,
          touched x List.mem_cons_self s holds here returns.1]
      · simp only [List.find?_cons, here, decide_false,
          untouched x List.mem_cons_self s holds here]

/-- What a loop that does not raise leaves of a key. -/
theorem view_forEach_of_distinct (update : α → ο → ο) {body : α → σ → Except ε Unit × σ} {k : κ}
    {xs : List α}
    (touched : ∀ x ∈ xs, ∀ s, key x = k → (body x s).1 = .ok () →
      view k (body x s).2 = update x (view k s))
    (untouched : ∀ x ∈ xs, ∀ s, key x ≠ k → view k (body x s).2 = view k s)
    (distinct : (xs.map key).Nodup) {s : σ} (returns : (forEach body xs s).1 = .ok ()) :
    view k (forEach body xs s).2 =
      match xs.find? (key · = k) with
      | none => view k s
      | some x => update x (view k s) :=
  view_forEach_of_kept key view update (fun _ => True) (fun _ _ _ _ => trivial)
    (fun x member s _ => touched x member s) (fun x member s _ => untouched x member s) distinct
    trivial returns

omit [DecidableEq κ] in
/-- Whether a loop raises. -/
theorem forEach_ok_iff_of_distinct (good : α → ο → Prop) {body : α → σ → Except ε Unit × σ}
    {xs : List α} (returns : ∀ x ∈ xs, ∀ s, (body x s).1 = .ok () ↔ good x (view (key x) s))
    (untouched : ∀ x ∈ xs, ∀ s k, key x ≠ k → view k (body x s).2 = view k s)
    (distinct : (xs.map key).Nodup) (s : σ) :
    (forEach body xs s).1 = .ok () ↔ ∀ x ∈ xs, good x (view (key x) s) := by
  induction xs generalizing s with
  | nil => simp [forEach]
  | cons x xs ih =>
      rw [List.map_cons, List.nodup_cons] at distinct
      rw [forEach_cons_ok_iff, returns x List.mem_cons_self,
        ih (fun y member => returns y (List.mem_cons_of_mem x member))
          (fun y member => untouched y (List.mem_cons_of_mem x member)) distinct.2,
        List.forall_mem_cons]
      refine and_congr_right fun _ => forall₂_congr fun y member => ?_
      rw [untouched x List.mem_cons_self s (key y) fun same =>
        distinct.1 (same ▸ List.mem_map_of_mem member)]

end Loops

end Scalper.Lib
