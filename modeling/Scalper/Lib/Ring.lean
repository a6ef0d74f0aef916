import Mathlib.Data.List.Nodup

/-!
# A bounded first-in first-out ring of keys

The ring remembers the last `capacity` keys it admitted.  A key that is in the ring is not
admitted again; admitting a new key drops the oldest when there is no room.  `mem_rememberAll_iff`
says when a key is forgotten: exactly when `capacity` other keys have been admitted since.
-/

set_option autoImplicit false

namespace Scalper.Lib

/-- Distinct keys, oldest first, no more than `capacity`. -/
structure FifoRing (κ : Type) (capacity : ℕ) where
  keys : List κ
  distinct : keys.Nodup
  bounded : keys.length ≤ capacity

namespace FifoRing

variable {κ : Type} [DecidableEq κ] {capacity : ℕ}

/-- The ring that has seen nothing. -/
def empty : FifoRing κ capacity := ⟨[], List.nodup_nil, Nat.zero_le capacity⟩

/-- The key is not in the ring. -/
def isFresh (ring : FifoRing κ capacity) (key : κ) : Bool := decide (key ∉ ring.keys)

/-- Remember a key, dropping the oldest beyond the capacity. -/
def remember (ring : FifoRing κ capacity) (key : κ) : FifoRing κ capacity :=
  if fresh : key ∈ ring.keys then ring
  else if room : ring.keys.length < capacity then
    { keys := ring.keys ++ [key]
      distinct := List.nodup_append.mpr ⟨ring.distinct, by simp, by
        intro old member new same
        rw [List.mem_singleton.mp same]
        exact fun equal => fresh (equal ▸ member)⟩
      bounded := by simpa using Nat.succ_le_of_lt room }
  else
    { keys := (ring.keys ++ [key]).tail
      distinct := ((List.nodup_append.mpr ⟨ring.distinct, by simp, by
        intro old member new same
        rw [List.mem_singleton.mp same]
        exact fun equal => fresh (equal ▸ member)⟩).sublist (List.tail_sublist _))
      bounded := by simpa using ring.bounded }

/-- Remember keys in order. -/
def rememberAll (ring : FifoRing κ capacity) (keys : List κ) : FifoRing κ capacity :=
  keys.foldl remember ring

/-- How many of the keys were fresh when their turn came. -/
def freshCount (ring : FifoRing κ capacity) : List κ → ℕ
  | [] => 0
  | key :: keys => (if ring.isFresh key then 1 else 0) + (ring.remember key).freshCount keys

@[simp] theorem rememberAll_nil (ring : FifoRing κ capacity) : ring.rememberAll [] = ring := rfl

@[simp] theorem rememberAll_cons (ring : FifoRing κ capacity) (key : κ) (keys : List κ) :
    ring.rememberAll (key :: keys) = (ring.remember key).rememberAll keys := rfl

theorem remember_of_mem {ring : FifoRing κ capacity} {key : κ} (seen : key ∈ ring.keys) :
    ring.remember key = ring := by
  simp [remember, seen]

theorem keys_remember {ring : FifoRing κ capacity} {key : κ} (fresh : key ∉ ring.keys) :
    (ring.remember key).keys =
      if ring.keys.length < capacity then ring.keys ++ [key] else (ring.keys ++ [key]).tail := by
  simp only [remember, fresh, dif_neg, not_false_eq_true]
  split <;> rfl

theorem mem_of_mem_remember {ring : FifoRing κ capacity} {key other : κ}
    (member : other ∈ (ring.remember key).keys) : other ∈ ring.keys ∨ other = key := by
  by_cases seen : key ∈ ring.keys
  · rw [remember_of_mem seen] at member
    exact .inl member
  · rw [keys_remember seen] at member
    have listed : other ∈ ring.keys ++ [key] := by
      split_ifs at member
      · exact member
      · exact List.mem_of_mem_tail member
    simpa using listed

/-- A key that is out of the ring stays out until it comes again. -/
theorem not_mem_rememberAll {key : κ} {keys : List κ} :
    ∀ {ring : FifoRing κ capacity}, key ∉ ring.keys → key ∉ keys →
      key ∉ (ring.rememberAll keys).keys := by
  induction keys with
  | nil => exact fun out _ => out
  | cons first keys ih =>
      intro ring out absent
      obtain ⟨different, absentLater⟩ : key ≠ first ∧ key ∉ keys := by simpa using absent
      refine ih (fun member => ?_) absentLater
      rcases mem_of_mem_remember member with resident | same
      · exact out resident
      · exact different same

/-- The place of a key in the ring counts the keys admitted since. -/
theorem mem_rememberAll_iff_of_split {key : κ} {keys : List κ} :
    ∀ {ring : FifoRing κ capacity} {older newer : List κ},
      ring.keys = older ++ key :: newer → key ∉ keys →
        (key ∈ (ring.rememberAll keys).keys ↔ newer.length + ring.freshCount keys < capacity) := by
  induction keys with
  | nil =>
      intro ring older newer split _
      have room := ring.bounded
      rw [split] at room
      simp only [List.length_append, List.length_cons] at room
      simp only [rememberAll_nil, split, List.mem_append, List.mem_cons, true_or, or_true,
        freshCount, true_iff]
      omega
  | cons first keys ih =>
      intro ring older newer split absent
      obtain ⟨different, absentLater⟩ : key ≠ first ∧ key ∉ keys := by simpa using absent
      rw [rememberAll_cons, freshCount]
      by_cases seen : first ∈ ring.keys
      · rw [remember_of_mem seen, ih split absentLater]
        simp [isFresh, seen]
      · have grown := keys_remember seen
        have counted : ring.isFresh first = true := by simp [isFresh, seen]
        rw [counted, if_pos rfl]
        split_ifs at grown with room
        · have kept : (ring.remember first).keys = older ++ key :: (newer ++ [first]) := by
            simp [grown, split]
          rw [ih kept absentLater, List.length_append, List.length_singleton]
          omega
        · cases older with
          | cons oldest older =>
              have kept : (ring.remember first).keys = older ++ key :: (newer ++ [first]) := by
                simp [grown, split]
              rw [ih kept absentLater, List.length_append, List.length_singleton]
              omega
          | nil =>
              -- the key is the oldest and the ring is full: it is dropped here
              have dropped : key ∉ (ring.remember first).keys := by
                have unique : (key :: newer).Nodup := by simpa [split] using ring.distinct
                have rest : (ring.remember first).keys = newer ++ [first] := by simp [grown, split]
                simp [rest, (List.nodup_cons.mp unique).1, different]
              have full : capacity ≤ newer.length + 1 := by simpa [split] using room
              exact iff_of_false (not_mem_rememberAll dropped absentLater) (by omega)

/-- **A key is forgotten exactly when `capacity` other keys were admitted since.** -/
theorem mem_rememberAll_iff {ring : FifoRing κ capacity} {key : κ} {keys : List κ}
    (positive : 0 < capacity) (fresh : key ∉ ring.keys) (absent : key ∉ keys) :
    key ∈ ((ring.remember key).rememberAll keys).keys ↔
      (ring.remember key).freshCount keys < capacity := by
  have newest : ∃ older, (ring.remember key).keys = older ++ key :: [] := by
    rw [keys_remember fresh]
    split_ifs with room
    · exact ⟨ring.keys, rfl⟩
    · cases keys : ring.keys with
      | nil =>
          rw [keys] at room
          exact absurd positive room
      | cons oldest rest => exact ⟨rest, rfl⟩
  obtain ⟨older, split⟩ := newest
  simpa using mem_rememberAll_iff_of_split split absent

end FifoRing

end Scalper.Lib
