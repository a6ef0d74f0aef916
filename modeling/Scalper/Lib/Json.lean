import Scalper.Lib.Dict

/-!
# Values read from JSON

A decoder of JSON returns one of these values.  An object is the list of its fields, as a dictionary
keeps them, and a float is the text that is written for it: what a program does with one is to write
it, or to read that text again.
-/

set_option autoImplicit false

namespace Scalper.Lib

/-- A JSON document. -/
inductive Json where
  | null
  | bool (value : Bool)
  | int (value : ℤ)
  | float (text : String)
  | string (text : String)
  | array (items : List Json)
  | object (fields : List (String × Json))

/-- `str(value)`, with `repr` for what it writes of an array or an object. -/
def Json.str (repr : Json → String) : Json → String
  | .null => "None"
  | .bool true => "True"
  | .bool false => "False"
  | .int value => toString value
  | .float text => text
  | .string text => text
  | value => repr value

/-- `value == text`. -/
def Json.isText (text : String) : Json → Bool
  | .string value => value == text
  | _ => false

/-- What `json.loads` comes to: a value, the error of the decoder, or another one. -/
inductive Loaded where
  | value (parsed : Json)
  | decodeError
  | raised

/-- `{**fields, **later}`. -/
def mergeFields (fields later : List (String × Json)) : List (String × Json) :=
  later.foldl (fun merged field => upsert Prod.fst field merged) fields

/-- A field that is kept is found as before. -/
theorem lookup_filter {p : String × Json → Bool} {name : String} (kept : ∀ value, p (name, value))
    (fields : List (String × Json)) : (fields.filter p).lookup name = fields.lookup name := by
  induction fields with
  | nil => rfl
  | cons field fields ih =>
      obtain ⟨other, value⟩ := field
      by_cases same : name = other
      · subst same
        rw [List.filter_cons_of_pos (kept value), List.lookup_cons_self, List.lookup_cons_self]
      · have differs : (name == other) = false := beq_false_of_ne same
        rw [List.filter_cons, List.lookup_cons, differs]
        split
        · rw [List.lookup_cons, differs, ih]
        · exact ih

/-- Setting a field leaves the others. -/
theorem lookup_upsert_of_ne {name : String} {field : String × Json} (other : field.1 ≠ name)
    (fields : List (String × Json)) :
    (upsert Prod.fst field fields).lookup name = fields.lookup name := by
  obtain ⟨set, value⟩ := field
  have differs : (name == set) = false := beq_false_of_ne fun same => other same.symm
  induction fields with
  | nil => rw [upsert, List.lookup_cons, differs]
  | cons first fields ih =>
      obtain ⟨old, value'⟩ := first
      rw [upsert]
      split
      · next same =>
          obtain rfl : old = set := same
          rw [List.lookup_cons, List.lookup_cons, differs]
      · rw [List.lookup_cons, List.lookup_cons, ih]

end Scalper.Lib
