import Mathlib.Data.List.Basic
import Mathlib.Tactic.Linarith

/-!
# Listings read page by page

A listing is read from its first page on, each page with the cursor of the next one, up to a number
of pages.  Where the pages hold a list in chunks of one length, what is read is the beginning of the
list, as long as the pages together (`collectPages_chained`).
-/

set_option autoImplicit false

namespace Scalper.Lib

variable {κ α ε : Type*}

/-- A page, and the cursor of the next one. -/
structure Page (κ α : Type*) where
  items : List α
  next : Option κ

/-- The items of the first pages, and whether it was their number that ended the reading. -/
def collectPages (fetch : Option κ → Except ε (Page κ α)) :
    ℕ → Option κ → Except ε (List α × Bool)
  | 0, _ => .ok ([], true)
  | pages + 1, cursor =>
      match fetch cursor with
      | .error error => .error error
      | .ok page =>
          match page.next with
          | none => .ok (page.items, false)
          | some next =>
              match collectPages fetch pages (some next) with
              | .error error => .error error
              | .ok (later, capped) => .ok (page.items ++ later, capped)

/-- From a cursor on, the pages hold a list, and all but the last are full. -/
inductive Chained (fetch : Option κ → Except ε (Page κ α)) (limit : ℕ) :
    Option κ → List α → Prop where
  | last {cursor : Option κ} {items : List α} (fetched : fetch cursor = .ok ⟨items, none⟩)
      (fits : items.length ≤ limit) : Chained fetch limit cursor items
  | more {cursor : Option κ} {items later : List α} {next : κ}
      (fetched : fetch cursor = .ok ⟨items, some next⟩) (full : items.length = limit)
      (chained : Chained fetch limit (some next) later) :
      Chained fetch limit cursor (items ++ later)

section Chained

variable {fetch : Option κ → Except ε (Page κ α)} {limit : ℕ}

theorem collectPages_chained {cursor : Option κ} {xs : List α}
    (chained : Chained fetch limit cursor xs) :
    ∀ pages, ∃ capped,
      collectPages fetch pages cursor = .ok (xs.take (pages * limit), capped) := by
  induction chained with
  | @last cursor items fetched fits =>
      intro pages
      cases pages with
      | zero => exact ⟨true, by rw [Nat.zero_mul, List.take_zero]; rfl⟩
      | succ pages =>
          have whole : items.length ≤ (pages + 1) * limit := by
            rw [Nat.add_one_mul]
            omega
          exact ⟨false, by rw [List.take_of_length_le whole, collectPages, fetched]⟩
  | @more cursor items later next fetched full chained ih =>
      intro pages
      cases pages with
      | zero => exact ⟨true, by rw [Nat.zero_mul, List.take_zero]; rfl⟩
      | succ pages =>
          obtain ⟨capped, rest⟩ := ih pages
          refine ⟨capped, ?_⟩
          have beyond : (pages + 1) * limit = items.length + pages * limit := by
            rw [full, Nat.add_one_mul, Nat.add_comm]
          rw [beyond, List.take_length_add_append]
          simp only [collectPages, fetched, rest]

end Chained

end Scalper.Lib
