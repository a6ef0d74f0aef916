import Scalper.Lib.DecimalText

/-!
# Parsed documents

What `yaml.safe_load` returns, and what the loader does to it before a model of
`packages/scoring/types.py` sees it: a truth value, an iteration, a lookup, `dict`, `float` and
`_to_decimal`.  The parser itself is not modelled.  Floats are exact numbers: a float is kept as the
decimal its `repr` writes.
-/

set_option autoImplicit false

namespace Scalper.Scoring

open Scalper.Lib

/-- A parsed document.  `other` is a value of one of the remaining tags, a date, a byte string, a
set or a pair, with what iterating over it yields if it can be iterated. -/
inductive Yaml where
  | null
  | bool (value : Bool)
  | int (value : ℤ)
  | float (value : DecimalValue)
  | str (value : String)
  | list (items : List Yaml)
  | map (entries : List (Yaml × Yaml))
  | other (tag : String) (items : Option (List Yaml))

/-- The entries of a dictionary, in order. -/
abbrev Entries := List (Yaml × Yaml)

/-- What the loader raises. -/
inductive LoadError where
  | topLevelNotMapping
  | scoringNotMapping
  | conditionNotDict (rule : Option Yaml)
  | featureRequired (rule : Option Yaml) (conditionType : Option Yaml)
  | condition (error : String)
  | weightNotNumber (rule : Option Yaml) (weight : Option Yaml)
  | missingKey (key : String)
  | validation (model : String)
  | typeError
  | valueError
  | attributeError

namespace Yaml

/-- `bool(value)`. -/
def truthy : Yaml → Bool
  | null => false
  | bool value => value
  | int value => value ≠ 0
  | float (.finite number) => number.coefficient ≠ 0
  | float _ => true
  | str value => value ≠ ""
  | list items => !items.isEmpty
  | map entries => !entries.isEmpty
  | other _ none => true
  | other _ (some items) => !items.isEmpty

/-- `iter(value)`: a mapping yields its keys, a text its characters. -/
def iterate : Yaml → Except LoadError (List Yaml)
  | list items => .ok items
  | map entries => .ok (entries.map Prod.fst)
  | str value => .ok (value.toList.map fun char => str (String.singleton char))
  | other _ (some items) => .ok items
  | _ => .error .typeError

/-- `value` where `isinstance(value, dict)`. -/
def asDict : Yaml → Option Entries
  | map entries => some entries
  | _ => none

/-- `value.items()` and `value.get`, which only a mapping has. -/
def items (value : Yaml) : Except LoadError Entries :=
  match value.asDict with
  | some entries => .ok entries
  | none => .error .attributeError

/-- `value or default`, where the value may be absent. -/
def orElse (value : Option Yaml) (default : Yaml) : Yaml :=
  match value with
  | some value => if value.truthy then value else default
  | none => default

/-- The key is this text. -/
def isKey (name : String) : Yaml → Bool
  | str value => value = name
  | _ => false

/-- `dict.get` at a text. -/
def lookup (entries : Entries) (name : String) : Option Yaml :=
  (entries.find? fun entry => isKey name entry.1).map Prod.snd

/-- `d[name]`. -/
def getItem (entries : Entries) (name : String) : Except LoadError Yaml :=
  match lookup entries name with
  | some value => .ok value
  | none => .error (.missingKey name)

/-- `d[key] = value`.  Only keys that are texts are compared: a dictionary with another key is
refused where it is used. -/
def insert (entries : Entries) (entry : Yaml × Yaml) : Entries :=
  match entry.1 with
  | str name =>
      if (lookup entries name).isSome then
        entries.map fun old => if isKey name old.1 then (old.1, entry.2) else old
      else entries ++ [entry]
  | _ => entries ++ [entry]

/-- An element of the sequence `dict` is given: a pair, whose first component can be a key. -/
def pair (value : Yaml) : Except LoadError (Yaml × Yaml) := do
  match ← value.iterate with
  | [list _, _] | [map _, _] => .error .typeError
  | [key, value] => .ok (key, value)
  | _ => .error .valueError

/-- `dict(value)`, of a mapping or of a sequence of pairs. -/
def dict (value : Yaml) : Except LoadError Entries :=
  match value.asDict with
  | some entries => .ok entries
  | none => do
      let elements ← value.iterate
      let pairs ← elements.mapM pair
      return pairs.foldl insert []

/-! ## Numbers -/

/-- Underscores stand between digits only. -/
def underscoresSeparate (text : List Char) : Bool :=
  (List.range text.length).all fun i =>
    text[i]? ≠ some '_' ||
      (0 < i && (text[i - 1]?.any fun char => (asciiOf char).any Char.isDigit) &&
        text[i + 1]?.any fun char => (asciiOf char).any Char.isDigit)

/-- `float(text)`. -/
def parseFloat (text : List Char) : Option DecimalValue :=
  if underscoresSeparate text then
    (numericAscii text).bind fun ascii =>
      let (negative, body) := splitSign ascii
      let lower := body.map Char.toLower
      if lower = "inf".toList ∨ lower = "infinity".toList then some (.infinite negative)
      else if lower = "nan".toList then some (.nan false)
      else (parseNumber negative body).map .finite
  else none

/-- `float(value)`. -/
def toFloat : Yaml → Except LoadError DecimalValue
  | bool value => .ok (.finite ⟨if value then 1 else 0, 0⟩)
  | int value => .ok (.finite ⟨value, 0⟩)
  | float value => .ok value
  | str value =>
      match parseFloat value.toList with
      | some number => .ok number
      | none => .error .valueError
  | _ => .error .typeError

end Yaml

/-- What `_to_decimal` returns: a decimal, or the value as it was. -/
inductive Coerced where
  | decimal (value : DecimalValue)
  | unchanged (value : Yaml)

/-- `_to_decimal`.  The elements of a list are coerced too, which no field of a section looks
at. -/
def toDecimal : Yaml → Coerced
  | .bool value => .unchanged (.bool value)
  | .int value => .decimal (.finite ⟨value, 0⟩)
  | .float value => .decimal value
  | .str value =>
      match parseDecimal value.toList with
      | some number => .decimal number
      | none => .unchanged (.str value)
  | value => .unchanged value

end Scalper.Scoring
