import Mathlib.Algebra.Field.Rat

/-!
# Decimals as text

What `Decimal(data.decode("utf-8"))` makes of a byte string: nothing, where the bytes are not UTF-8 or
the text is not a number, else a finite number, an infinity or a NaN.  White space around the number
and underscores in it are dropped, and the decimal digits of every script count as digits.  The
conversion is exact, so a number whose exponent leaves the library's range is refused.

`decodeDecimal_utf8Encode` takes the bytes of a text back to the text.
-/

set_option autoImplicit false

namespace Scalper.Lib

/-! ## Values -/

/-- A finite decimal. -/
structure DecimalNumber where
  coefficient : ℤ
  exponent : ℤ
  deriving DecidableEq, Repr

def DecimalNumber.value (number : DecimalNumber) : ℚ :=
  number.coefficient * 10 ^ number.exponent

/-- What a decimal text stands for. -/
inductive DecimalValue where
  | finite (number : DecimalNumber)
  | infinite (negative : Bool)
  | nan (signaling : Bool)
  deriving DecidableEq, Repr

def DecimalValue.isFinite : DecimalValue → Bool
  | finite _ => true
  | infinite _ | nan _ => false

/-! ## Characters -/

/-- `str.isspace` of a character. -/
def isSpace (char : Char) : Bool :=
  (9 ≤ char.toNat && char.toNat ≤ 13) || (28 ≤ char.toNat && char.toNat ≤ 32) ||
    (0x2000 ≤ char.toNat && char.toNat ≤ 0x200A) ||
    [0x85, 0xA0, 0x1680, 0x2028, 0x2029, 0x202F, 0x205F, 0x3000].contains char.toNat

/-- The zeros of the scripts that have decimal digits; the other nine follow each. -/
def zeroDigits : List ℕ :=
  [0x30, 0x660, 0x6F0, 0x7C0, 0x966, 0x9E6, 0xA66, 0xAE6, 0xB66, 0xBE6, 0xC66, 0xCE6, 0xD66, 0xDE6,
    0xE50, 0xED0, 0xF20, 0x1040, 0x1090, 0x17E0, 0x1810, 0x1946, 0x19D0, 0x1A80, 0x1A90, 0x1B50,
    0x1BB0, 0x1C40, 0x1C50, 0xA620, 0xA8D0, 0xA900, 0xA9D0, 0xA9F0, 0xAA50, 0xABF0, 0xFF10, 0x104A0,
    0x10D30, 0x11066, 0x110F0, 0x11136, 0x111D0, 0x112F0, 0x11450, 0x114D0, 0x11650, 0x116C0,
    0x11730, 0x118E0, 0x11950, 0x11C50, 0x11D50, 0x11DA0, 0x11F50, 0x16A60, 0x16AC0, 0x16B50,
    0x1D7CE, 0x1D7D8, 0x1D7E2, 0x1D7EC, 0x1D7F6, 0x1E140, 0x1E2F0, 0x1E4F0, 0x1E950, 0x1FBF0]

/-- A character as the grammar of numbers sees it; `none` refuses the text. -/
def asciiOf (char : Char) : Option Char :=
  if 0 < char.toNat ∧ char.toNat ≤ 127 then some char
  else if isSpace char then some ' '
  else (zeroDigits.find? fun first => first ≤ char.toNat && char.toNat < first + 10).map fun first =>
    Char.ofNat ('0'.toNat + (char.toNat - first))

/-- The text without the white space around it and without underscores, in ASCII. -/
def numericAscii (text : List Char) : Option (List Char) :=
  ((((text.dropWhile isSpace).reverse.dropWhile isSpace).reverse.filter (· ≠ '_')).mapM asciiOf)

/-! ## Numbers -/

/-- The number a run of digits writes. -/
def digitsValue (digits : List Char) : ℕ :=
  digits.foldl (fun value digit => 10 * value + (digit.toNat - '0'.toNat)) 0

/-- A sign, if there is one: whether it is a minus, and the rest. -/
def splitSign : List Char → Bool × List Char
  | '-' :: rest => (true, rest)
  | '+' :: rest => (false, rest)
  | rest => (false, rest)

/-- The exponent at the end of a number, zero if there is none. -/
def parseExponent : List Char → Option ℤ
  | [] => some 0
  | mark :: rest =>
      let (negative, digits) := splitSign rest
      if mark.toLower = 'e' ∧ digits ≠ [] ∧ digits.all Char.isDigit then
        some (if negative then -(digitsValue digits : ℤ) else digitsValue digits)
      else none

/-- The largest exponent of a leading digit, and the least one of a last digit. -/
def maxExponent : ℤ := 999999999999999999

def minExponent : ℤ := -1999999999999999997

/-- The number can be represented. -/
def DecimalNumber.Exact (number : DecimalNumber) : Prop :=
  minExponent ≤ number.exponent ∧
    number.exponent + ((Nat.toDigits 10 number.coefficient.natAbs).length - 1 : ℕ) ≤ maxExponent

instance (number : DecimalNumber) : Decidable number.Exact :=
  inferInstanceAs (Decidable (_ ∧ _))

/-- Digits with at most one point among them, and an exponent. -/
def parseNumber (negative : Bool) (body : List Char) : Option DecimalNumber :=
  let whole := body.takeWhile Char.isDigit
  let rest := body.dropWhile Char.isDigit
  let fraction := if rest.head? = some '.' then rest.tail.takeWhile Char.isDigit else []
  let rest := if rest.head? = some '.' then rest.tail.dropWhile Char.isDigit else rest
  if whole ++ fraction = [] then none
  else
    (parseExponent rest).bind fun exponent =>
      let coefficient : ℤ := digitsValue (whole ++ fraction)
      let number : DecimalNumber :=
        ⟨if negative then -coefficient else coefficient, exponent - fraction.length⟩
      if number.Exact then some number else none

/-- `Decimal(text)`; `none` where it raises. -/
def parseDecimal (text : List Char) : Option DecimalValue :=
  (numericAscii text).bind fun ascii =>
    let (negative, body) := splitSign ascii
    let lower := body.map Char.toLower
    if lower = "inf".toList ∨ lower = "infinity".toList then some (.infinite negative)
    else if lower.take 3 = "nan".toList ∧ (lower.drop 3).all Char.isDigit then some (.nan false)
    else if lower.take 4 = "snan".toList ∧ (lower.drop 4).all Char.isDigit then some (.nan true)
    else (parseNumber negative body).map .finite

/-- The decimal a byte string writes in UTF-8. -/
def decodeDecimal (bytes : ByteArray) : Option DecimalValue :=
  bytes.utf8Decode?.bind fun text => parseDecimal text.toList

theorem decodeDecimal_utf8Encode (text : List Char) :
    decodeDecimal text.utf8Encode = parseDecimal text := by
  rw [decodeDecimal, List.utf8Decode?_utf8Encode, Option.bind_some, List.toList_toArray]

end Scalper.Lib
