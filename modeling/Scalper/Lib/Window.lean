import Mathlib.Data.List.DropRight
import Scalper.Lib.Ring

/-!
# The window of the last keys

Items are admitted in turn, each unless its key is one of the last `capacity` keys admitted.  That
is what a ring is for: it goes on holding exactly this window (`keys_remember_eq`).  Between two
admitted items of one key lie at least `capacity` others, the last `capacity` of them of distinct
keys (`Spaced.between`).
-/

set_option autoImplicit false

namespace Scalper.Lib

/-! ## What holds of each entry and those before it -/

section Each

variable {α : Type*} {P : List α → α → Prop} {xs : List α} {x : α}

/-- Each entry is as the entries before it require. -/
def EachAfter (P : List α → α → Prop) (xs : List α) : Prop :=
  ∀ before x after, xs = before ++ x :: after → P before x

theorem eachAfter_nil : EachAfter P [] := by
  intro before x after split
  simp at split

theorem EachAfter.concat (each : EachAfter P xs) (last : P xs x) : EachAfter P (xs ++ [x]) := by
  intro before y after split
  rcases List.eq_nil_or_concat after with rfl | ⟨rest, final, rfl⟩
  · obtain ⟨rfl, same⟩ := List.append_inj' split rfl
    obtain rfl := List.singleton_inj.mp same
    exact last
  · rw [List.concat_eq_append, ← List.cons_append, ← List.append_assoc] at split
    exact each before y rest (List.append_inj' split rfl).1

end Each

/-! ## The last keys -/

variable {α κ : Type}

/-- Admit an item unless its key is one of the last `capacity` keys admitted. -/
def admitOne [DecidableEq κ] (key : α → κ) (capacity : ℕ) (admitted : List α) (x : α) : List α :=
  if key x ∈ (admitted.map key).rtake capacity then admitted else admitted ++ [x]

/-- The items admitted, in turn. -/
def admitAll [DecidableEq κ] (key : α → κ) (capacity : ℕ) (xs : List α) : List α :=
  xs.foldl (admitOne key capacity) []

/-- No item has the key of one of the `capacity` items before it. -/
def Spaced (key : α → κ) (capacity : ℕ) (xs : List α) : Prop :=
  ∀ before x after, xs = before ++ x :: after → key x ∉ (before.map key).rtake capacity

theorem length_rtake (n : ℕ) (xs : List α) : (xs.rtake n).length = min xs.length n := by
  rw [List.rtake, List.length_drop]
  omega

/-- The end of a list after one element more. -/
theorem rtake_concat (n : ℕ) (xs : List α) (x : α) :
    (xs ++ [x]).rtake n =
      if (xs.rtake n).length < n then xs.rtake n ++ [x] else (xs.rtake n ++ [x]).tail := by
  simp only [List.rtake, List.length_drop, List.length_append, List.length_singleton]
  split_ifs with room
  · have short : xs.length < n := by omega
    rw [Nat.sub_eq_zero_of_le short.le, Nat.sub_eq_zero_of_le short]
    rfl
  · have long : n ≤ xs.length := by omega
    rw [show xs.length + 1 - n = xs.length - n + 1 by omega, ← List.tail_drop,
      List.drop_append_of_le_length (Nat.sub_le _ _)]

/-- A full end and the next element. -/
theorem rtake_concat_of_full {n : ℕ} {done : List α} (positive : 0 < n) (full : n ≤ done.length)
    (next : α) : (done ++ [next]).rtake n = (done.rtake n).tail ++ [next] := by
  have length : (done.rtake n).length = n := by rw [length_rtake, min_eq_right full]
  have nonempty : done.rtake n ≠ [] := List.ne_nil_of_length_pos (by rw [length]; exact positive)
  rw [rtake_concat, length, if_neg (lt_irrefl n), List.tail_append_of_ne_nil nonempty]

theorem getLast?_rtake {n : ℕ} {done : List α} (positive : 0 < n) :
    (done.rtake n).getLast? = done.getLast? := by
  rw [List.rtake, List.getLast?_drop]
  split_ifs with none_left
  · have empty : done = [] := List.eq_nil_of_length_eq_zero (by omega)
    rw [empty]
    rfl
  · rfl

/-- An end that does not reach back over a given element. -/
theorem mem_rtake_of_length_lt {n : ℕ} {xs ys : List α} {x : α} (near : ys.length < n) :
    x ∈ (xs ++ x :: ys).rtake n := by
  have start : (xs ++ x :: ys).length - n ≤ xs.length := by
    rw [List.length_append, List.length_cons]
    omega
  rw [List.rtake, List.drop_append_of_le_length start]
  exact List.mem_append_right _ List.mem_cons_self

theorem rtake_append_of_le_length {n : ℕ} {xs ys : List α} (long : n ≤ ys.length) :
    (xs ++ ys).rtake n = ys.rtake n := by
  have start : (xs ++ ys).length - n = xs.length + (ys.length - n) := by
    rw [List.length_append]
    omega
  rw [List.rtake, start, List.drop_length_add_append, List.rtake]

/-- The same items behind two lists: what is left of the window must agree. -/
theorem rtake_append_inj {n : ℕ} {xs ys later : List α} :
    (xs ++ later).rtake n = (ys ++ later).rtake n ↔
      xs.rtake (n - later.length) = ys.rtake (n - later.length) := by
  rcases le_total n later.length with far | near
  · rw [rtake_append_of_le_length far, rtake_append_of_le_length far, Nat.sub_eq_zero_of_le far,
      List.rtake_zero, List.rtake_zero]
    exact ⟨fun _ => rfl, fun _ => rfl⟩
  · have kept (zs : List α) :
        (zs ++ later).rtake n = zs.rtake (n - later.length) ++ later := by
      rw [List.rtake, List.rtake, List.length_append,
        List.drop_append_of_le_length (by omega)]
      congr 2
      omega
    rw [kept, kept]
    exact ⟨List.append_cancel_right, fun same => by rw [same]⟩

section Prefixes

variable {all xs ys : List α}

/-- Two beginnings of a list without repetitions that end alike. -/
theorem getLast?_inj_of_beginnings (distinct : all.Nodup) (first : xs <+: all)
    (second : ys <+: all) :
    xs.getLast? = ys.getLast? ↔ xs = ys := by
  have ordered {short long : List α} (shorter : short <+: long) (within : long <+: all)
      (same : short.getLast? = long.getLast?) : short = long := by
    obtain ⟨more, rfl⟩ := shorter
    rcases List.eq_nil_or_concat more with rfl | ⟨front, last, rfl⟩
    · exact (List.append_nil short).symm
    · rw [List.concat_eq_append, ← List.append_assoc, List.getLast?_concat] at same
      rw [List.concat_eq_append] at within
      have apart := List.disjoint_of_nodup_append (distinct.sublist within.sublist)
      exact absurd (List.mem_append_right front List.mem_cons_self)
        (apart (List.mem_of_getLast? same))
  refine ⟨fun same => ?_, congrArg List.getLast?⟩
  rcases List.prefix_or_prefix_of_prefix first second with shorter | longer
  · exact ordered shorter second same
  · exact (ordered longer first same.symm).symm

/-- Two beginnings of a list without repetitions with the same end of some length. -/
theorem rtake_inj_of_beginnings (distinct : all.Nodup) (first : xs <+: all) (second : ys <+: all)
    {n : ℕ} : xs.rtake n = ys.rtake n ↔ n = 0 ∨ xs.getLast? = ys.getLast? := by
  rw [getLast?_inj_of_beginnings distinct first second]
  rcases Nat.eq_zero_or_pos n with rfl | positive
  · rw [List.rtake_zero, List.rtake_zero]
    exact ⟨fun _ => .inl rfl, fun _ => rfl⟩
  · refine ⟨fun same => .inr ?_, fun same => ?_⟩
    · rw [← getLast?_inj_of_beginnings distinct first second, ← getLast?_rtake positive, same,
        getLast?_rtake positive]
    · rcases same with rfl | rfl
      · exact absurd positive (lt_irrefl 0)
      · rfl

end Prefixes

/-- The end of an end. -/
theorem rtake_rtake {m n : ℕ} (fits : n ≤ m) (xs : List α) :
    (xs.rtake m).rtake n = xs.rtake n := by
  simp only [List.rtake, List.drop_drop, List.length_drop]
  congr 1
  omega

namespace Spaced

variable {key : α → κ} {capacity : ℕ} {xs : List α}

/-- It is a condition on each item and those before it. -/
theorem eq_eachAfter : Spaced key capacity =
    EachAfter fun before x => key x ∉ (before.map key).rtake capacity := rfl

theorem nil : Spaced key capacity [] := by
  rw [eq_eachAfter]
  exact eachAfter_nil

theorem concat (spaced : Spaced key capacity xs) {x : α}
    (fresh : key x ∉ (xs.map key).rtake capacity) : Spaced key capacity (xs ++ [x]) := by
  rw [eq_eachAfter] at spaced ⊢
  exact spaced.concat fresh

theorem of_append {ys : List α} (spaced : Spaced key capacity (xs ++ ys)) :
    Spaced key capacity xs := by
  intro before x after split
  exact spaced before x (after ++ ys) (by rw [split, List.append_assoc, List.cons_append])

/-- The last keys are distinct. -/
theorem nodup_rtake (spaced : Spaced key capacity xs) : ((xs.map key).rtake capacity).Nodup := by
  induction xs using List.reverseRecOn with
  | nil => simp
  | append_singleton xs x ih =>
      have distinct : ((xs.map key).rtake capacity ++ [key x]).Nodup :=
        List.nodup_append.mpr ⟨ih spaced.of_append, List.nodup_singleton _,
          fun old member new last same => spaced xs x [] rfl
            (List.mem_singleton.mp last ▸ same ▸ member)⟩
      rw [List.map_append, List.map_singleton, rtake_concat]
      split_ifs
      · exact distinct
      · exact distinct.tail

/-- Between two items of one key lie `capacity` others. -/
theorem between (spaced : Spaced key capacity xs) {older between newer : List α} {x y : α}
    (split : xs = older ++ x :: (between ++ y :: newer)) (same : key x = key y) :
    capacity ≤ between.length ∧ key y ∉ (between.map key).rtake capacity ∧
      ((between.map key).rtake capacity).Nodup := by
  have parted : xs = (older ++ x :: between) ++ y :: newer := by
    rw [split, List.append_assoc, List.cons_append]
  have fresh := spaced _ _ _ parted
  rw [List.map_append, List.map_cons] at fresh
  have far : capacity ≤ between.length := by
    by_contra near
    exact fresh (same ▸ mem_rtake_of_length_lt (by simpa using near))
  have window : (older.map key ++ key x :: between.map key).rtake capacity =
      (between.map key).rtake capacity := by
    rw [← List.singleton_append, ← List.append_assoc]
    exact rtake_append_of_le_length (by simpa using far)
  have distinct := (of_append (parted ▸ spaced)).nodup_rtake
  rw [List.map_append, List.map_cons, window] at distinct
  exact ⟨far, window ▸ fresh, distinct⟩

end Spaced

section Ring

variable [DecidableEq κ] {key : α → κ} {capacity : ℕ} {xs : List α}

theorem admit_of_not_mem {x : α} (fresh : key x ∉ (xs.map key).rtake capacity) :
    admitOne key capacity xs x = xs ++ [x] :=
  if_neg fresh

theorem admit_of_mem {x : α} (seen : key x ∈ (xs.map key).rtake capacity) :
    admitOne key capacity xs x = xs :=
  if_pos seen

theorem admitAll_concat (xs : List α) (x : α) :
    admitAll key capacity (xs ++ [x]) = admitOne key capacity (admitAll key capacity xs) x := by
  rw [admitAll, List.foldl_append, List.foldl_cons, List.foldl_nil, admitAll]

theorem spaced_admit (spaced : Spaced key capacity xs) (x : α) :
    Spaced key capacity (admitOne key capacity xs x) := by
  unfold admitOne
  split_ifs with seen
  · exact spaced
  · exact spaced.concat seen

theorem spaced_admitAll (xs : List α) : Spaced key capacity (admitAll key capacity xs) := by
  induction xs using List.reverseRecOn with
  | nil => exact .nil
  | append_singleton xs x ih =>
      rw [admitAll_concat]
      exact spaced_admit ih x

theorem sublist_admitAll (xs : List α) : (admitAll key capacity xs).Sublist xs := by
  induction xs using List.reverseRecOn with
  | nil => exact List.Sublist.refl _
  | append_singleton xs x ih =>
      rw [admitAll_concat, admitOne]
      split_ifs
      · exact ih.trans (List.sublist_append_left xs [x])
      · exact ih.append (List.Sublist.refl _)

/-- **A ring that holds the window holds it after one key more.** -/
theorem keys_remember_eq {ring : FifoRing κ capacity}
    (window : ring.keys = (xs.map key).rtake capacity) (x : α) :
    (ring.remember (key x)).keys = ((admitOne key capacity xs x).map key).rtake capacity := by
  by_cases seen : key x ∈ (xs.map key).rtake capacity
  · rw [admit_of_mem seen, FifoRing.remember_of_mem (window ▸ seen), window]
  · rw [admit_of_not_mem seen, FifoRing.keys_remember (window ▸ seen), List.map_append,
      List.map_singleton, rtake_concat, window]

end Ring

end Scalper.Lib
