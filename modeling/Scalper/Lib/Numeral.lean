import Scalper.Lib.DecimalText
import Mathlib.Algebra.Order.Ring.Rat

/-!
# Numerals

A numeral is a run of decimal digits, of any script.  Its value is what `int` reads; many numerals
have one value, and the one `str` writes is among them (`numeralValue_toString`).
-/

set_option autoImplicit false

namespace Scalper.Lib

/-- The value of a decimal digit of any script. -/
def decimalDigit (char : Char) : Option ℕ :=
  (zeroDigits.find? fun first => first ≤ char.toNat && char.toNat < first + 10).map
    (char.toNat - ·)

/-- The value of the digits read so far, followed by those of the text. -/
def numeralFrom (value : ℕ) : List Char → Option ℕ
  | [] => some value
  | char :: text => (decimalDigit char).bind fun digit => numeralFrom (10 * value + digit) text

/-- The value of a numeral. -/
def numeralValue : List Char → Option ℕ
  | [] => none
  | char :: text => numeralFrom 0 (char :: text)

/-- The digits `int` reads and `str` writes at most. -/
def maxStrDigits : ℕ := 4300

/-- The digits without the single underscores between them; `none` where one stands elsewhere. -/
def ungrouped : List Char → Option (List Char)
  | [] => some []
  | '_' :: _ => none
  | [_, '_'] => none
  | char :: '_' :: rest => (ungrouped rest).map (char :: ·)
  | char :: rest => (ungrouped rest).map (char :: ·)

/-- `int(text)`; `none` where it raises. -/
def parseInt (text : List Char) : Option ℤ :=
  let (negative, body) := splitSign ((text.dropWhile isSpace).reverse.dropWhile isSpace).reverse
  (ungrouped body).bind fun digits =>
    if digits.length ≤ maxStrDigits then
      (numeralValue digits).map fun n => if negative then -(n : ℤ) else n
    else none

theorem decimalDigit_lt {char : Char} {digit : ℕ} (read : decimalDigit char = some digit) :
    digit < 10 := by
  obtain ⟨first, found, rfl⟩ := Option.map_eq_some_iff.mp read
  have within := List.find?_some found
  simp only [Bool.and_eq_true, decide_eq_true_eq] at within
  omega

theorem decimalDigit_of_isDigit {char : Char} (ascii : char.isDigit = true) :
    decimalDigit char = some (char.toNat - '0'.toNat) := by
  change (decide (48 ≤ char.val) && decide (char.val ≤ 57)) = true at ascii
  rw [Bool.and_eq_true, decide_eq_true_eq, decide_eq_true_eq, UInt32.le_iff_toNat_le,
    UInt32.le_iff_toNat_le] at ascii
  have bounds : 48 ≤ char.toNat ∧ char.toNat ≤ 57 := ascii
  have first : (zeroDigits.find? fun first => first ≤ char.toNat && char.toNat < first + 10) =
      some 0x30 := by
    rw [zeroDigits, List.find?_cons_of_pos]
    simp only [Bool.and_eq_true, decide_eq_true_eq]
    omega
  rw [decimalDigit, first]
  rfl

theorem numeralFrom_of_isDigit {text : List Char} (ascii : ∀ char ∈ text, char.isDigit = true)
    (value : ℕ) : numeralFrom value text = some (Nat.ofDigitChars 10 text value) := by
  induction text generalizing value with
  | nil => rfl
  | cons char text ih =>
      rw [numeralFrom, decimalDigit_of_isDigit (ascii char List.mem_cons_self), Option.bind_some,
        ih (fun next member => ascii next (List.mem_cons_of_mem _ member)),
        Nat.ofDigitChars_cons]

/-- A number is read back from what is written for it. -/
theorem numeralValue_toString (n : ℕ) : numeralValue (toString n).toList = some n := by
  have digits : (toString n).toList = Nat.toDigits 10 n := by
    rw [Nat.toString_eq_repr, Nat.toList_repr]
  have ascii : ∀ char ∈ Nat.toDigits 10 n, char.isDigit = true :=
    fun char member => Nat.isDigit_of_mem_toDigits (by decide) (by decide) member
  rw [digits]
  cases written : Nat.toDigits 10 n with
  | nil => exact absurd written Nat.toDigits_ne_nil
  | cons char text =>
      rw [numeralValue, ← written, numeralFrom_of_isDigit ascii, Nat.ofDigitChars_ten_toDigits]

theorem numeralFrom_lt {text : List Char} :
    ∀ {value n : ℕ}, numeralFrom value text = some n → n < (value + 1) * 10 ^ text.length := by
  induction text with
  | nil =>
      intro value n read
      obtain rfl := Option.some.inj read
      simp
  | cons char text ih =>
      intro value n read
      obtain ⟨digit, known, rest⟩ := Option.bind_eq_some_iff.mp read
      have small := decimalDigit_lt known
      calc n < (10 * value + digit + 1) * 10 ^ text.length := ih rest
        _ ≤ (10 * (value + 1)) * 10 ^ text.length := Nat.mul_le_mul_right _ (by omega)
        _ = (value + 1) * 10 ^ (char :: text).length := by
            rw [List.length_cons, pow_succ']
            ac_rfl

/-- A number is written with at most as many digits as any of its numerals. -/
theorem length_toString_le {text : List Char} {n m : ℕ} (read : numeralValue text = some n)
    (le : m ≤ n) : (toString m).length ≤ text.length := by
  cases text with
  | nil => cases read
  | cons char text =>
      have below := numeralFrom_lt (show numeralFrom 0 (char :: text) = some n from read)
      rw [zero_add, one_mul] at below
      have digits : (toString m).length = (Nat.toDigits 10 m).length := by
        rw [← String.length_toList, Nat.toString_eq_repr, Nat.toList_repr]
      rw [digits]
      exact (Nat.length_toDigits_le_iff (by decide) (Nat.zero_lt_succ _)).mpr (le.trans_lt below)

end Scalper.Lib
