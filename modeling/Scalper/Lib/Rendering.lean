import Mathlib.Data.List.Basic
import Mathlib.Tactic.IntervalCases
import Mathlib.Tactic.Common

/-!
# Texts made of parts

Numbers are written with a fixed number of digits (`padded`), and parts are joined by separators.
The parts can be told from the text: digits by their number (`padded_append_inj`), and the part
behind the last separator because the separator is not in it (`append_separator_inj`).
-/

set_option autoImplicit false

namespace Scalper.Lib

variable {α : Type*}

/-! ## Digits -/

/-- The last `width` digits of a number. -/
def padded : ℕ → ℕ → List Char
  | 0, _ => []
  | width + 1, n => padded width (n / 10) ++ [Nat.digitChar (n % 10)]

theorem length_padded (width n : ℕ) : (padded width n).length = width := by
  induction width generalizing n with
  | zero => rfl
  | succ width ih =>
      rw [padded, List.length_append, ih, List.length_singleton]

theorem isDigit_of_mem_padded {width n : ℕ} {char : Char} (member : char ∈ padded width n) :
    char.isDigit = true := by
  induction width generalizing n with
  | zero => cases member
  | succ width ih =>
      rcases List.mem_append.mp member with earlier | last
      · exact ih earlier
      · rw [List.mem_singleton.mp last]
        have small : n % 10 < 10 := Nat.mod_lt _ (by decide)
        rw [Nat.isDigit_digitChar]
        exact decide_eq_true small

theorem digitChar_inj {n m : ℕ} (small : n < 10) (small' : m < 10)
    (same : Nat.digitChar n = Nat.digitChar m) : n = m := by
  have codes := congrArg Char.toNat same
  rw [Nat.toNat_digitChar_of_lt_ten small, Nat.toNat_digitChar_of_lt_ten small'] at codes
  omega

/-- A number with so many digits is read back. -/
theorem padded_inj {width n m : ℕ} (below : n < 10 ^ width) (below' : m < 10 ^ width)
    (same : padded width n = padded width m) : n = m := by
  induction width generalizing n m with
  | zero => omega
  | succ width ih =>
      obtain ⟨front, last⟩ := List.append_inj' same rfl
      rw [pow_succ] at below below'
      have tens := ih (Nat.div_lt_of_lt_mul (by omega))
        (Nat.div_lt_of_lt_mul (by omega)) front
      have ones := digitChar_inj (Nat.mod_lt n (by decide)) (Nat.mod_lt m (by decide))
        (List.singleton_inj.mp last)
      omega

theorem padded_append_inj {width n m : ℕ} {rest rest' : List Char} (below : n < 10 ^ width)
    (below' : m < 10 ^ width) (same : padded width n ++ rest = padded width m ++ rest') :
    n = m ∧ rest = rest' := by
  obtain ⟨digits, rest⟩ := List.append_inj same (by rw [length_padded, length_padded])
  exact ⟨padded_inj below below' digits, rest⟩

/-! ## Separators -/

/-- What is behind the last separator. -/
theorem append_separator_inj {separator : α} {left left' right right' : List α}
    (free : separator ∉ right) (free' : separator ∉ right')
    (same : left ++ separator :: right = left' ++ separator :: right') :
    left = left' ∧ right = right' := by
  rcases List.append_eq_append_iff.mp same with ⟨more, rfl, rest⟩ | ⟨more, rfl, rest⟩
  · cases more with
    | nil => exact ⟨(List.append_nil _).symm, (List.cons.inj rest).2⟩
    | cons first more =>
        refine absurd ?_ free
        rw [(List.cons.inj rest).2]
        exact List.mem_append_right _ List.mem_cons_self
  · cases more with
    | nil => exact ⟨List.append_nil _, (List.cons.inj rest).2.symm⟩
    | cons first more =>
        refine absurd ?_ free'
        rw [(List.cons.inj rest).2]
        exact List.mem_append_right _ List.mem_cons_self

end Scalper.Lib
