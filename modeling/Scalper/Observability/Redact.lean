import Mathlib.Data.List.Infix
import Mathlib.Data.List.Basic

/-!
# What a log line gives away

`packages/observability/redact.py`: the processor through which every log line goes.  It replaces
the values under secret-like keys, in mappings, lists and tuples down to a depth of eight levels, and
leaves what is deeper as it is.

Two events give the same line exactly if they are the same wherever no secret-like key of the first
eight levels is above (`redactor_eq_iff`): nothing else of the values under such a key can be told
from the line, not even their type, and everything else can.  Lines may be redacted again, and with
keys that were added since (`redactor_redactor`).
-/

set_option autoImplicit false

namespace Scalper.Observability

/-- A key of a mapping: a text, or another value, of which only the text of it matters. -/
inductive LogKey where
  | text (name : String)
  | other (repr : String)
  deriving DecidableEq, Repr

/-- A value of an event.  What is no mapping, list or tuple is kept as it is. -/
inductive LogValue (α : Type) where
  | scalar (value : α)
  | mapping (entries : List (LogKey × LogValue α))
  | list (items : List (LogValue α))
  | tuple (items : List (LogValue α))

/-! ## Secret-like keys -/

/-- `_DEFAULT_REDACTED_KEYS`. -/
def defaultRedactedKeys : List String :=
  ["api_key", "api_secret", "authorization", "bearer", "cookie", "hmac", "password", "private_key",
    "secret", "token"]

def maxDepth : ℕ := 8

section Keys

variable (lower : String → String)

/-- `name.lower().replace("-", "_")`. -/
def normalize (name : String) : List Char :=
  (lower name).toList.map fun char => if char = '-' then '_' else char

/-- `add_redacted_keys`. -/
def addRedactedKeys (names : List String) (keys : List (List Char)) : List (List Char) :=
  keys ++ names.map (normalize lower)

/-- `_should_redact`, of a key that is a text. -/
def shouldRedact (keys : List (List Char)) : LogKey → Bool
  | .text name => keys.any fun pattern => pattern <:+: normalize lower name
  | .other _ => false

end Keys

/-! ## The processor -/

section Walk

variable {α : Type} (secret : LogKey → Bool) (placeholder : α)

/-- `_walk_value`, with so many levels left before `_MAX_DEPTH`. -/
def walkValue : ℕ → LogValue α → LogValue α
  | 0, value => value
  | _ + 1, .scalar value => .scalar value
  | left + 1, .mapping entries =>
      .mapping (entries.map fun entry =>
        (entry.1, if secret entry.1 then .scalar placeholder else walkValue left entry.2))
  | left + 1, .list items => .list (items.map (walkValue left))
  | left + 1, .tuple items => .tuple (items.map (walkValue left))

/-- `redactor`. -/
def redactor (event : List (LogKey × LogValue α)) : LogValue α :=
  walkValue secret placeholder maxDepth (.mapping event)

end Walk

/-! ## Where a value is -/

namespace LogValue

variable {α : Type}

/-- A value but for its parts. -/
inductive Shape (α : Type) where
  | scalar (value : α)
  | mapping (keys : List LogKey)
  | list (length : ℕ)
  | tuple (length : ℕ)
  deriving DecidableEq

def shape : LogValue α → Shape α
  | .scalar value => .scalar value
  | .mapping entries => .mapping (entries.map Prod.fst)
  | .list items => .list items.length
  | .tuple items => .tuple items.length

/-- The parts of a value, with their keys in a mapping. -/
def parts : LogValue α → List (Option LogKey × LogValue α)
  | .scalar _ => []
  | .mapping entries => entries.map fun entry => (some entry.1, entry.2)
  | .list items => items.map fun item => (none, item)
  | .tuple items => items.map fun item => (none, item)

/-- What a value is at a path, which gives the place of the part at each level. -/
def shapeAt : LogValue α → List ℕ → Option (Shape α)
  | value, [] => some value.shape
  | value, place :: path => (value.parts[place]?).bind fun part => shapeAt part.2 path

/-- Whether a path leads through a secret-like key of the levels that are walked. -/
def hidden (secret : LogKey → Bool) : ℕ → LogValue α → List ℕ → Bool
  | left + 1, value, place :: path =>
      match value.parts[place]? with
      | some (key, part) => (key.map secret).getD false || hidden secret left part path
      | none => false
  | _, _, _ => false

/-- Values of one shape have the same keys in the same places. -/
theorem map_fst_parts {v w : LogValue α} (same : v.shape = w.shape) :
    v.parts.map Prod.fst = w.parts.map Prod.fst := by
  cases v <;> cases w <;> simp only [shape, Shape.scalar.injEq, Shape.mapping.injEq,
    Shape.list.injEq, Shape.tuple.injEq, reduceCtorEq] at same
  · rfl
  · next entries entries' =>
      have keys := congrArg (List.map some) same
      simpa [parts, Function.comp_def] using keys
  · simp [parts, Function.comp_def, same]
  · simp [parts, Function.comp_def, same]

/-- A value is its shape and its parts. -/
theorem eq_of_parts {v w : LogValue α} (shapes : v.shape = w.shape) (parts : v.parts = w.parts) :
    v = w := by
  cases v <;> cases w <;> simp only [shape, Shape.scalar.injEq, Shape.mapping.injEq,
    Shape.list.injEq, Shape.tuple.injEq, reduceCtorEq] at shapes
  · rw [shapes]
  · next entries entries' =>
      have injective : Function.Injective fun entry : LogKey × LogValue α =>
          (some entry.1, entry.2) := by
        rintro ⟨k, v⟩ ⟨k', v'⟩ same
        simpa using same
      rw [List.map_injective_iff.mpr injective parts]
  · next items items' =>
      have injective : Function.Injective fun item : LogValue α => ((none : Option LogKey), item) :=
        fun item item' same => (Prod.mk.inj same).2
      rw [List.map_injective_iff.mpr injective parts]
  · next items items' =>
      have injective : Function.Injective fun item : LogValue α => ((none : Option LogKey), item) :=
        fun item item' same => (Prod.mk.inj same).2
      rw [List.map_injective_iff.mpr injective parts]

theorem sizeOf_part_lt {v : LogValue α} {part : Option LogKey × LogValue α}
    (member : part ∈ v.parts) : sizeOf part.2 < sizeOf v := by
  cases v with
  | scalar value => cases member
  | mapping entries =>
      obtain ⟨entry, listed, rfl⟩ := List.mem_map.mp member
      have small := List.sizeOf_lt_of_mem listed
      obtain ⟨key, value⟩ := entry
      simp only [mapping.sizeOf_spec, Prod.mk.sizeOf_spec] at small ⊢
      omega
  | list items =>
      obtain ⟨item, listed, rfl⟩ := List.mem_map.mp member
      have small := List.sizeOf_lt_of_mem listed
      simp only [list.sizeOf_spec]
      omega
  | tuple items =>
      obtain ⟨item, listed, rfl⟩ := List.mem_map.mp member
      have small := List.sizeOf_lt_of_mem listed
      simp only [tuple.sizeOf_spec]
      omega

/-- Values that are the same at every path are the same. -/
theorem eq_of_shapeAt (v w : LogValue α) (same : ∀ path, v.shapeAt path = w.shapeAt path) :
    v = w := by
  have shapes : v.shape = w.shape := by simpa [shapeAt] using same []
  have keys := map_fst_parts shapes
  refine eq_of_parts shapes (List.ext_getElem? fun place => ?_)
  have keysAt : (v.parts[place]?).map Prod.fst = (w.parts[place]?).map Prod.fst := by
    rw [← List.getElem?_map, ← List.getElem?_map, keys]
  cases first : v.parts[place]? with
  | none =>
      rw [first] at keysAt
      exact (Option.map_eq_none_iff.mp keysAt.symm).symm
  | some part =>
      cases second : w.parts[place]? with
      | none => rw [first, second] at keysAt; cases keysAt
      | some part' =>
          rw [first, second] at keysAt
          have smaller : sizeOf part.2 < sizeOf v := sizeOf_part_lt (List.mem_of_getElem? first)
          have below : part.2 = part'.2 := eq_of_shapeAt part.2 part'.2 fun path => by
            have deeper := same (place :: path)
            simpa only [shapeAt, first, second, Option.bind_some] using deeper
          exact congrArg some (Prod.ext (Option.some.inj keysAt) below)
termination_by sizeOf v

end LogValue

/-! ## What the processor leaves -/

section Walked

variable {α : Type} {secret wider : LogKey → Bool} {placeholder : α} {left : ℕ}

open LogValue

@[simp] theorem shape_walkValue (value : LogValue α) :
    (walkValue secret placeholder left value).shape = value.shape := by
  cases left with
  | zero => rfl
  | succ left => cases value <;> simp [walkValue, shape, Function.comp_def]

/-- What becomes of a part. -/
theorem parts_walkValue (value : LogValue α) :
    (walkValue secret placeholder (left + 1) value).parts = value.parts.map fun part =>
      (part.1, if (part.1.map secret).getD false then .scalar placeholder
        else walkValue secret placeholder left part.2) := by
  cases value <;> simp [walkValue, parts, Function.comp_def]

/-- Two values come to the same exactly if they are the same at every path that is hidden in neither
or in one. -/
theorem walkValue_eq_iff (left : ℕ) : ∀ v w : LogValue α,
    walkValue secret placeholder left v = walkValue secret placeholder left w ↔
      ∀ path, ¬(v.hidden secret left path = true ∧ w.hidden secret left path = true) →
        v.shapeAt path = w.shapeAt path := by
  induction left with
  | zero =>
      intro v w
      rw [walkValue, walkValue]
      constructor
      · rintro rfl path -
        rfl
      · exact fun same => eq_of_shapeAt v w fun path => same path (by simp [LogValue.hidden])
  | succ left ih =>
      intro v w
      constructor
      · intro walked path seen
        have shapes : v.shape = w.shape := by
          have outer := congrArg shape walked
          rwa [shape_walkValue, shape_walkValue] at outer
        cases path with
        | nil => rw [shapeAt, shapeAt, shapes]
        | cons place path =>
            have parts := congrArg (fun value : LogValue α => value.parts[place]?) walked
            simp only [parts_walkValue, List.getElem?_map] at parts
            rw [shapeAt, shapeAt]
            cases first : v.parts[place]? with
            | none =>
                rw [first] at parts
                rw [Option.map_eq_none_iff.mp parts.symm]
            | some part =>
                cases second : w.parts[place]? with
                | none => rw [first, second] at parts; cases parts
                | some part' =>
                    rw [first, second] at parts
                    obtain ⟨key, value⟩ := part
                    obtain ⟨key', value'⟩ := part'
                    obtain ⟨rfl, same⟩ := Prod.mk.inj (Option.some.inj parts)
                    simp only [LogValue.hidden, first, second] at seen
                    cases matched : (key.map secret).getD false with
                    | true => simp [matched] at seen
                    | false =>
                        rw [matched] at same seen
                        simp only [Bool.false_or] at seen
                        exact (ih value value').mp (by simpa using same) path seen
      · intro same
        have shapes : v.shape = w.shape := by simpa [shapeAt, LogValue.hidden] using same []
        refine eq_of_parts (by simpa using shapes) (List.ext_getElem? fun place => ?_)
        have keysAt : (v.parts[place]?).map Prod.fst = (w.parts[place]?).map Prod.fst := by
          rw [← List.getElem?_map, ← List.getElem?_map, map_fst_parts shapes]
        simp only [parts_walkValue, List.getElem?_map]
        cases first : v.parts[place]? with
        | none =>
            rw [first] at keysAt
            rw [Option.map_eq_none_iff.mp keysAt.symm]
        | some part =>
            cases second : w.parts[place]? with
            | none => rw [first, second] at keysAt; cases keysAt
            | some part' =>
                rw [first, second] at keysAt
                obtain ⟨key, value⟩ := part
                obtain ⟨key', value'⟩ := part'
                obtain rfl : key = key' := Option.some.inj keysAt
                cases matched : (key.map secret).getD false with
                | true => simp [matched]
                | false =>
                    have below := (ih value value').mpr fun path seen => by
                      have deeper := same (place :: path)
                      simp only [LogValue.hidden, shapeAt, first, second, matched, Bool.false_or,
                        Option.bind_some] at deeper
                      exact deeper seen
                    simp [matched, below]

/-- What was redacted under fewer keys is redacted under more as if it had not been. -/
theorem walkValue_walkValue (fewer : ∀ key, secret key = true → wider key = true) (left : ℕ) :
    ∀ value : LogValue α,
      walkValue wider placeholder left (walkValue secret placeholder left value) =
        walkValue wider placeholder left value := by
  induction left with
  | zero => exact fun value => rfl
  | succ left ih =>
      intro value
      refine eq_of_parts (by simp) ?_
      rw [parts_walkValue, parts_walkValue, parts_walkValue, List.map_map]
      refine List.map_congr_left fun part _ => ?_
      obtain ⟨key, part⟩ := part
      cases matched : (key.map wider).getD false with
      | true => simp [matched]
      | false =>
          have unmatched : (key.map secret).getD false = false := by
            cases key with
            | none => rfl
            | some key =>
                by_contra found
                have found' : secret key = true := by simpa using found
                have also : wider key = true := fewer key found'
                rw [show (some key).map wider = some (wider key) from rfl, also] at matched
                cases matched
          simp [matched, unmatched, ih]

end Walked

/-! ## The lines -/

section Lines

variable {α : Type} (lower : String → String) (keys : List (List Char)) (placeholder : α)

/-- The event as a value, and whether it is hidden at a path. -/
def redacted (event : List (LogKey × LogValue α)) (path : List ℕ) : Bool :=
  (LogValue.mapping event).hidden (shouldRedact lower keys) maxDepth path

/-- **What a line gives away.**  Two events give the same line exactly if they are the same at every
path that does not lead, in both, through a secret-like key of the first eight levels. -/
theorem redactor_eq_iff (first second : List (LogKey × LogValue α)) :
    redactor (shouldRedact lower keys) placeholder first =
        redactor (shouldRedact lower keys) placeholder second ↔
      ∀ path, ¬(redacted lower keys first path = true ∧ redacted lower keys second path = true) →
        (LogValue.mapping first).shapeAt path = (LogValue.mapping second).shapeAt path :=
  walkValue_eq_iff maxDepth (.mapping first) (.mapping second)

/-- A line that is redacted again, with the keys that were added since, is the line that these keys
give at once. -/
theorem redactor_redactor (names : List String) (event line : List (LogKey × LogValue α))
    (redacts : redactor (shouldRedact lower keys) placeholder event = .mapping line) :
    redactor (shouldRedact lower (addRedactedKeys lower names keys)) placeholder line =
      redactor (shouldRedact lower (addRedactedKeys lower names keys)) placeholder event := by
  rw [redactor, ← redacts, redactor, redactor]
  refine walkValue_walkValue (fun key found => ?_) maxDepth _
  cases key with
  | other repr => exact found
  | text name =>
      simp only [shouldRedact, addRedactedKeys, List.any_append, Bool.or_eq_true] at found ⊢
      exact .inl found

end Lines

end Scalper.Observability
