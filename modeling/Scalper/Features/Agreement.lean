import Mathlib.Data.List.Sort
import Mathlib.Data.String.Basic
import Scalper.Features.Persistence
import Scalper.Lib.Rows
import Scalper.Lib.Window

/-!
# What the writer stores and the reader finds

A feature is named `ind.<symbol>.<interval>.<rest>`, with its symbol in lower case.  The pipeline
writes its rows under this name and the symbol as the candles have it, in upper case, and puts the
latest value under the name, a colon and the symbol.  The resolver completes a rule's reference to
the same name, looks for the same key, and then for rows of the symbol it reads off the name.

The store refuses keys with a colon (`isKeyValid_colon`), so that nothing is ever put and the
reader always falls back to the table; and there the symbols differ in case.  `resolver_finds_iff`:
the reader finds what was written exactly when nothing was, or when the symbol has no letter.
`resolver_misses` is a written value that is reported missing.
-/

set_option autoImplicit false

namespace Scalper.Features

open Scalper.Lib

/-- The parts of a feature's name: an upper-case symbol in ASCII, as the exchange's symbols are,
which is one segment, and a known interval. -/
structure FeatureName where
  symbol : String
  interval : String
  rest : String
  upper : ∀ char ∈ symbol.toList, char.isLower = false
  segment : '.' ∉ symbol.toList
  known : (Scoring.intervalDelta interval).isSome = true

namespace FeatureName

/-- `symbol.lower()`. -/
def lowered (name : FeatureName) : List Char := name.symbol.toList.map Char.toLower

/-- `ind.<symbol>.<interval>.<rest>`. -/
def chars (name : FeatureName) : List Char :=
  "ind".toList ++ '.' :: (name.lowered ++ '.' :: (name.interval.toList ++ '.' :: name.rest.toList))

def text (name : FeatureName) : String := String.ofList name.chars

/-- The length of the interval, in seconds. -/
def seconds (name : FeatureName) : ℕ := (Scoring.intervalDelta name.interval).getD 0

/-- The symbol has no letter, and so no case. -/
def Caseless (name : FeatureName) : Prop := ∀ char ∈ name.symbol.toList, char.isAlpha = false

end FeatureName

/-- The row as the resolver's queries read it. -/
def FeatureUpdate.toRow (update : FeatureUpdate) : Scoring.FeatureRow where
  featureName := update.featureName
  symbol := update.symbol
  computedAt := update.computedAt
  valueNum := update.value.valueNum
  valueBool := update.value.valueBool
  valueJson := update.value.valueJson

/-- The stores as the resolver reads them at some time. -/
def Stores.read (stores : Stores) (now : ℕ) : Scoring.FeatureStore where
  kv := stores.kv
  features := stores.features.map FeatureUpdate.toRow
  now := now

/-- Write updates in order. -/
def writeAll (stores : Stores) (writes : List (FeatureUpdate × WriteFaults)) : Stores :=
  writes.foldl (fun stores write => persistKvPublish stores write.1 write.2) stores

/-- Stores that hold no row of a feature, and only what the key-value store accepts. -/
structure Untouched (name : FeatureName) (stores : Stores) : Prop where
  no_row : ∀ row ∈ stores.features, row.featureName ≠ name.text
  keys : ∀ key, stores.kv key ≠ none → isKeyValid key = true

/-- Updates as the engine builds them: those of the feature have its symbol, one source version
and a converted value. -/
def FromEngine (float : ℚ → ℚ) (jsonText : List (String × SubValue) → String)
    (name : FeatureName) (sourceVersion : String) (writes : List (FeatureUpdate × WriteFaults)) :
    Prop :=
  ∀ write ∈ writes, write.1.featureName = name.text →
    write.1.symbol = name.symbol ∧ write.1.sourceVersion = sourceVersion ∧
      ∃ value, write.1.value = wireValue float jsonText value

/-- The updates of a feature that were persisted, in the order of writing. -/
def persisted (name : FeatureName) (writes : List (FeatureUpdate × WriteFaults)) :
    List FeatureUpdate :=
  (writes.filter fun write => write.1.featureName = name.text ∧ write.2.insert = false).map Prod.fst

/-- The persisted values, one for each time, oldest first: for every time the one written last. -/
def history (name : FeatureName) (writes : List (FeatureUpdate × WriteFaults)) :
    List FeatureUpdate :=
  (dictBy FeatureUpdate.computedAt (persisted name writes)).insertionSort
    fun earlier later => earlier.computedAt ≤ later.computedAt

/-! ## Names and keys -/

/-- A key with a colon is refused. -/
theorem isKeyValid_colon (before after : String) : isKeyValid (before ++ ":" ++ after) = false := by
  unfold isKeyValid
  rw [Bool.and_eq_false_iff]
  right
  rw [List.all_eq_false]
  refine ⟨':', ?_, by decide⟩
  simp [String.toList_append]

/-- Whether a character is an upper-case letter. -/
theorem isUpper_eq_true_iff {char : Char} :
    char.isUpper = true ↔ char.val ≥ 'A'.val ∧ char.val ≤ 'Z'.val :=
  decide_eq_true_iff

theorem val_toLower {char : Char} (upper : char.val ≥ 'A'.val ∧ char.val ≤ 'Z'.val) :
    char.toLower.val = char.val + ('a'.val - 'A'.val) :=
  congrArg Char.val (dif_pos upper)

theorem toLower_of_not_upper {char : Char} (other : ¬ (char.val ≥ 'A'.val ∧ char.val ≤ 'Z'.val)) :
    char.toLower = char :=
  dif_neg other

/-- Only an upper-case letter has another lower case. -/
theorem toLower_eq_self_iff {char : Char} : char.toLower = char ↔ char.isUpper = false := by
  rw [← Bool.not_eq_true, isUpper_eq_true_iff]
  constructor
  · intro same upper
    have lowered := val_toLower upper
    rw [same] at lowered
    simp at lowered
  · exact toLower_of_not_upper

theorem toLower_ne_dot {char : Char} (other : char ≠ '.') : char.toLower ≠ '.' := by
  by_cases upper : char.val ≥ 'A'.val ∧ char.val ≤ 'Z'.val
  · have lowered := val_toLower upper
    intro same
    rw [same] at lowered
    have atLeast := upper.1
    have atMost := upper.2
    simp [UInt32.le_iff_toNat_le, ← UInt32.toNat_inj] at *
    omega
  · rwa [toLower_of_not_upper upper]

namespace FeatureName

variable (name : FeatureName)

theorem lowered_eq_iff : name.lowered = name.symbol.toList ↔ name.Caseless := by
  calc name.lowered = name.symbol.toList
      ↔ name.symbol.toList.map Char.toLower = name.symbol.toList.map id := by
        rw [List.map_id, lowered]
    _ ↔ ∀ char ∈ name.symbol.toList, char.toLower = id char := List.map_inj_left
    _ ↔ name.Caseless := by
        refine forall₂_congr fun char member => ?_
        rw [id_eq, toLower_eq_self_iff,
          show char.isAlpha = (char.isUpper || char.isLower) from rfl, name.upper char member,
          Bool.or_false]

theorem dot_not_mem_lowered : '.' ∉ name.lowered := by
  intro member
  obtain ⟨char, listed, lower⟩ := List.mem_map.mp member
  exact toLower_ne_dot (fun dot => name.segment (dot ▸ listed)) lower

theorem dot_not_mem_interval : '.' ∉ name.interval.toList := by
  have known := name.known
  unfold Scoring.intervalDelta at known
  split at known <;> first | (rename_i same; rw [same]; decide) | cases known

/-- The name is read as it was built. -/
theorem parseFeatureRef_chars :
    Scoring.parseFeatureRef name.chars = .ok (String.ofList name.lowered, name.seconds) := by
  obtain ⟨seconds, known⟩ := Option.isSome_iff_exists.mp name.known
  obtain ⟨first, more, split⟩ : ∃ first more, name.rest.toList.splitOn '.' = first :: more :=
    List.exists_cons_of_ne_nil (List.splitOn_ne_nil _ _)
  have parts : name.chars.splitOn '.' =
      "ind".toList :: name.lowered :: name.interval.toList :: first :: more := by
    rw [chars, List.splitOn_append_cons_self_of_not_mem (by decide),
      List.splitOn_append_cons_self_of_not_mem name.dot_not_mem_lowered,
      List.splitOn_append_cons_self_of_not_mem name.dot_not_mem_interval, split]
  simp only [Scoring.parseFeatureRef, parts, List.map_cons, String.ofList_toList, known,
    FeatureName.seconds, Option.getD_some]

theorem featureTarget_eq {rule signal : String} (maxStalenessSec : Option ℤ)
    (names : Scoring.substituteTemplate signal.toList rule.toList = .ok name.chars) :
    Scoring.featureTarget rule signal maxStalenessSec =
      .ok ⟨name.text, String.ofList name.lowered, maxStalenessSec.getD (2 * name.seconds)⟩ := by
  simp only [Scoring.featureTarget, names, bind, Except.bind, parseFeatureRef_chars]
  rfl

/-- A name is a reference to itself. -/
theorem substituteTemplate_text (literal : '$' ∉ name.chars) (signal : String) :
    Scoring.substituteTemplate signal.toList name.text.toList = .ok name.chars := by
  rw [text, String.toList_ofList, Scoring.substituteTemplate_of_not_mem literal]

/-- A template with the signal's symbol names the feature of that symbol. -/
theorem substituteTemplate_template
    (literal : '$' ∉ '.' :: (name.interval.toList ++ '.' :: name.rest.toList)) :
    Scoring.substituteTemplate name.symbol.toList ('i' :: 'n' :: 'd' :: '.' ::
      ("${signal.symbol}".toList ++ '.' :: (name.interval.toList ++ '.' :: name.rest.toList))) =
        .ok name.chars := by
  rw [Scoring.substituteTemplate_cons (by decide), Scoring.substituteTemplate_cons (by decide),
    Scoring.substituteTemplate_cons (by decide), Scoring.substituteTemplate_cons (by decide),
    Scoring.substituteTemplate_template, Scoring.substituteTemplate_of_not_mem literal]
  rfl

end FeatureName

/-! ## What is stored -/

theorem isKeyValid_of_persistKvPublish {stores : Stores}
    (keys : ∀ key, stores.kv key ≠ none → isKeyValid key = true) (update : FeatureUpdate)
    (faults : WriteFaults) (key : String)
    (held : (persistKvPublish stores update faults).kv key ≠ none) : isKeyValid key = true := by
  unfold persistKvPublish kvPut at held
  split at held
  · exact keys key held
  · dsimp only at held
    split at held
    · exact keys key held
    · next accepted =>
        by_cases same : key = update.featureName ++ ":" ++ update.symbol
        · rw [Bool.or_eq_true, not_or, Bool.not_eq_true', Bool.not_eq_false] at accepted
          rw [same]
          exact accepted.2
        · exact keys key (by simpa [same] using held)

/-- What the store accepted is all it holds. -/
theorem isKeyValid_of_writeAll {stores : Stores}
    (keys : ∀ key, stores.kv key ≠ none → isKeyValid key = true)
    (writes : List (FeatureUpdate × WriteFaults)) (key : String)
    (held : (writeAll stores writes).kv key ≠ none) : isKeyValid key = true := by
  induction writes generalizing stores with
  | nil => exact keys key held
  | cons write writes ih =>
      exact ih (isKeyValid_of_persistKvPublish keys write.1 write.2) held

theorem persisted_concat (name : FeatureName) (writes : List (FeatureUpdate × WriteFaults))
    (write : FeatureUpdate × WriteFaults) :
    persisted name (writes ++ [write]) =
      if write.1.featureName = name.text ∧ write.2.insert = false then
        persisted name writes ++ [write.1] else persisted name writes := by
  by_cases kept : write.1.featureName = name.text ∧ write.2.insert = false
  · simp [persisted, List.filter_append, kept]
  · rw [if_neg kept]
    simp only [persisted, List.filter_append, List.filter_cons, kept, decide_false,
      Bool.false_eq_true, if_false, List.filter_nil, List.append_nil]

/-- The rows of a feature are its persisted values, one for each key. -/
theorem filter_features_writeAll {name : FeatureName} {before : Stores}
    (untouched : Untouched name before) (writes : List (FeatureUpdate × WriteFaults)) :
    ((writeAll before writes).features.filter fun row => row.featureName = name.text) =
      dictBy FeatureUpdate.key (persisted name writes) := by
  induction writes using List.reverseRecOn with
  | nil =>
      exact List.filter_eq_nil_iff.mpr fun row member => by simp [untouched.no_row row member]
  | append_singleton writes write ih =>
      have last : writeAll before (writes ++ [write]) =
          persistKvPublish (writeAll before writes) write.1 write.2 := by
        simp [writeAll, List.foldl_append]
      have onKey : ∀ row other : FeatureUpdate, row.key = other.key →
          decide (row.featureName = name.text) = decide (other.featureName = name.text) := by
        intro row other same
        rw [show row.featureName = other.featureName from congrArg Prod.fst same]
      rw [last, persisted_concat]
      cases faults : write.2.insert with
      | true => simpa [persistKvPublish, faults] using ih
      | false =>
          simp only [persistKvPublish, faults, Bool.false_eq_true, if_false, insertFeature,
            filter_upsert onKey, decide_eq_true_eq, and_true]
          split_ifs
          · rw [ih, dictBy_concat]
          · exact ih

/-- The row holds the value that was built. -/
theorem toFeatureValue_toRow {float : ℚ → ℚ} {jsonText : List (String × SubValue) → String}
    {update : FeatureUpdate} {value : FeatureValue}
    (built : update.value = wireValue float jsonText value) :
    update.toRow.toFeatureValue = update.value := by
  simp only [FeatureUpdate.toRow, Scoring.FeatureRow.toFeatureValue, built]
  cases value <;> rfl

section Reading

variable {float : ℚ → ℚ} {jsonText : List (String × SubValue) → String} {name : FeatureName}
  {sourceVersion : String} {before : Stores} {writes : List (FeatureUpdate × WriteFaults)}

theorem mem_persisted {update : FeatureUpdate} (listed : update ∈ persisted name writes) :
    update.featureName = name.text ∧ ∃ faults, (update, faults) ∈ writes := by
  obtain ⟨write, kept, rfl⟩ := List.mem_map.mp listed
  obtain ⟨member, named⟩ := List.mem_filter.mp kept
  exact ⟨(of_decide_eq_true named).1, write.2, member⟩

/-- Of one feature, the times tell the rows apart. -/
theorem dictBy_key_persisted (engine : FromEngine float jsonText name sourceVersion writes) :
    dictBy FeatureUpdate.key (persisted name writes) =
      dictBy FeatureUpdate.computedAt (persisted name writes) := by
  refine dictBy_congr _ fun update listed other otherListed => ?_
  obtain ⟨named, faults, member⟩ := mem_persisted listed
  obtain ⟨otherNamed, otherFaults, otherMember⟩ := mem_persisted otherListed
  obtain ⟨symbol, version, -⟩ := engine _ member named
  obtain ⟨otherSymbol, otherVersion, -⟩ := engine _ otherMember otherNamed
  have sameSymbol : other.symbol = update.symbol := otherSymbol.trans symbol.symm
  have sameVersion : other.sourceVersion = update.sourceVersion := otherVersion.trans version.symm
  simp only [FeatureUpdate.key, Prod.mk.injEq, named, otherNamed, sameSymbol, sameVersion,
    true_and, and_true]

/-- The rows under the feature's name and a symbol. -/
theorem rowsOf_read (untouched : Untouched name before)
    (engine : FromEngine float jsonText name sourceVersion writes) (now : ℕ) (symbol : String) :
    Scoring.rowsOf ((writeAll before writes).read now).features name.text symbol =
      if symbol = name.symbol then
        (dictBy FeatureUpdate.computedAt (persisted name writes)).map FeatureUpdate.toRow
      else [] := by
  have stored := filter_features_writeAll untouched writes
  rw [dictBy_key_persisted engine] at stored
  have rows : Scoring.rowsOf ((writeAll before writes).read now).features name.text symbol =
      ((dictBy FeatureUpdate.computedAt (persisted name writes)).filter
        fun row => row.symbol = symbol).map FeatureUpdate.toRow := by
    rw [← stored, List.filter_filter, Scoring.rowsOf, Stores.read, List.filter_map]
    refine congrArg (List.map FeatureUpdate.toRow) (List.filter_congr fun row _ => ?_)
    rw [Bool.and_comm, ← Bool.decide_and]
    rfl
  have symbols : ∀ row ∈ dictBy FeatureUpdate.computedAt (persisted name writes),
      row.symbol = name.symbol := by
    intro row held
    obtain ⟨named, faults, member⟩ := mem_persisted (mem_of_mem_dictBy _ held)
    exact (engine _ member named).1
  rw [rows]
  split_ifs with same
  · rw [List.filter_eq_self.mpr fun row held => by simp [symbols row held, same]]
  · rw [List.filter_eq_nil_iff.mpr fun row held => by simp [symbols row held, Ne.symm same]]
    rfl

theorem nodup_computedAt_rows (updates : List FeatureUpdate) :
    (((dictBy FeatureUpdate.computedAt updates).map FeatureUpdate.toRow).map
      Scoring.FeatureRow.computedAt).Nodup := by
  rw [List.map_map]
  exact nodup_keys_dictBy FeatureUpdate.computedAt updates

/-- Rows sort as the updates they hold. -/
theorem insertionSort_rows (updates : List FeatureUpdate) :
    ((updates.map FeatureUpdate.toRow).insertionSort fun row later =>
        row.computedAt ≤ later.computedAt) =
      (updates.insertionSort fun earlier later => earlier.computedAt ≤ later.computedAt).map
        FeatureUpdate.toRow :=
  (List.map_insertionSort _ _ FeatureUpdate.toRow updates fun _ _ _ _ => Iff.rfl).symm

variable (untouched : Untouched name before)
  (engine : FromEngine float jsonText name sourceVersion writes)
include untouched engine

/-- The newest row under the symbol the updates have. -/
theorem selectLatestFeature_read (now : ℕ) (symbol : String) :
    Scoring.selectLatestFeature ((writeAll before writes).read now).features name.text symbol =
      if symbol = name.symbol then (history name writes).getLast?.map FeatureUpdate.toRow
      else none := by
  rw [Scoring.selectLatestFeature, rowsOf_read untouched engine]
  split_ifs with same
  · rw [argmax_eq_getLast? (nodup_computedAt_rows _), insertionSort_rows, List.getLast?_map,
      history]
  · rfl

theorem selectFeatureHistory_read (now nSamples : ℕ) (symbol : String) :
    Scoring.selectFeatureHistory ((writeAll before writes).read now).features name.text symbol
        nSamples =
      if symbol = name.symbol then
        ((history name writes).rtake (min nSamples 200)).map FeatureUpdate.toRow
      else [] := by
  rw [Scoring.selectFeatureHistory, rowsOf_read untouched engine]
  split_ifs with same
  · rw [insertionSort_ge_eq_reverse (nodup_computedAt_rows _), insertionSort_rows,
      ← List.rtake_eq_reverse_take_reverse, history, List.rtake, List.rtake, List.map_drop,
      List.length_map, Scoring.maxHistoryWindow]
  · simp

/-- Nothing is under the key, and so the table decides. -/
theorem resolve_read {rule signal : String}
    (names : Scoring.substituteTemplate signal.toList rule.toList = .ok name.chars)
    (maxStalenessSec : Option ℤ) (now : ℕ) :
    Scoring.resolve ((writeAll before writes).read now) rule signal maxStalenessSec =
      .ok (if String.ofList name.lowered = name.symbol then
        match (history name writes).getLast? with
        | none => .dataMissing name.text
        | some latest => Scoring.checkStaleness now
            (maxStalenessSec.getD (2 * name.seconds)) latest.value latest.computedAt
      else .dataMissing name.text) := by
  have missed : ((writeAll before writes).read now).kv
      (name.text ++ ":" ++ signal.toUpper) = none := by
    by_contra held
    have valid := isKeyValid_of_writeAll untouched.keys writes _ held
    rw [isKeyValid_colon] at valid
    cases valid
  simp only [Scoring.resolve, name.featureTarget_eq maxStalenessSec names, bind, Except.bind,
    missed, Scoring.tryDb, selectLatestFeature_read untouched engine]
  split_ifs with same
  · cases newest : (history name writes).getLast? with
    | none => rfl
    | some latest =>
        have listed : latest ∈ persisted name writes :=
          mem_of_mem_dictBy FeatureUpdate.computedAt
            ((List.mem_insertionSort _).mp (List.mem_of_getLast? newest))
        obtain ⟨named, faults, member⟩ := mem_persisted listed
        obtain ⟨-, -, value, built⟩ := engine _ member named
        simp only [Option.map_some, toFeatureValue_toRow built]
        rfl
  · rfl

theorem resolveHistory_read {rule signal : String}
    (names : Scoring.substituteTemplate signal.toList rule.toList = .ok name.chars)
    (now nSamples : ℕ) :
    Scoring.resolveHistory ((writeAll before writes).read now) rule signal nSamples =
      .ok (if String.ofList name.lowered = name.symbol then
        ((history name writes).rtake (min nSamples 200)).map FeatureUpdate.value
      else []) := by
  simp only [Scoring.resolveHistory, name.featureTarget_eq none names, bind, Except.bind,
    selectFeatureHistory_read untouched engine]
  split_ifs with same
  · refine congrArg Except.ok ?_
    rw [List.map_map]
    refine List.map_congr_left fun update kept => ?_
    have listed : update ∈ persisted name writes :=
      mem_of_mem_dictBy FeatureUpdate.computedAt
        ((List.mem_insertionSort _).mp (List.mem_of_mem_drop kept))
    obtain ⟨named, faults, member⟩ := mem_persisted listed
    obtain ⟨-, -, value, built⟩ := engine _ member named
    exact toFeatureValue_toRow built
  · rfl

end Reading

theorem history_eq_nil_iff {name : FeatureName} {writes : List (FeatureUpdate × WriteFaults)} :
    history name writes = [] ↔ persisted name writes = [] := by
  rw [history, ← List.length_eq_zero_iff, List.length_insertionSort, List.length_eq_zero_iff,
    dictBy_eq_nil_iff]

theorem ofList_lowered_eq_iff (name : FeatureName) :
    String.ofList name.lowered = name.symbol ↔ name.Caseless := by
  rw [← name.lowered_eq_iff]
  constructor
  · intro same
    rw [← same, String.toList_ofList]
  · intro same
    rw [same, String.ofList_toList]

/-- **The reader finds what was written exactly when nothing was, or when the symbol has no
letter.**  A rule that names the feature, by template or literally, and a signal on any symbol:
for every staleness, clock and count, a fresh latest value is resolved and the history is that of
the persisted values. -/
theorem resolver_finds_iff {float : ℚ → ℚ} {jsonText : List (String × SubValue) → String}
    {name : FeatureName} {sourceVersion : String} {before : Stores}
    {writes : List (FeatureUpdate × WriteFaults)} {rule signal : String}
    (untouched : Untouched name before)
    (engine : FromEngine float jsonText name sourceVersion writes)
    (names : Scoring.substituteTemplate signal.toList rule.toList = .ok name.chars) :
    (∀ (maxStalenessSec : Option ℤ) (now nSamples : ℕ),
      (∀ latest, (history name writes).getLast? = some latest →
        ¬ Scoring.IsStale now (maxStalenessSec.getD (2 * name.seconds)) latest.computedAt →
        Scoring.resolve ((writeAll before writes).read now) rule signal maxStalenessSec =
          .ok (.ok latest.value)) ∧
      Scoring.resolveHistory ((writeAll before writes).read now) rule signal nSamples =
        .ok (((history name writes).rtake (min nSamples 200)).map FeatureUpdate.value)) ↔
      persisted name writes = [] ∨ name.Caseless := by
  rw [← ofList_lowered_eq_iff, ← history_eq_nil_iff]
  constructor
  · intro found
    by_contra otherwise
    rw [not_or] at otherwise
    obtain ⟨-, read⟩ := found none 0 1
    rw [resolveHistory_read untouched engine names, if_neg otherwise.2] at read
    have empty : (history name writes).rtake 1 = [] :=
      List.map_eq_nil_iff.mp (Except.ok.inj read).symm
    have length := length_rtake 1 (history name writes)
    rw [empty, List.length_nil] at length
    have positive := List.length_pos_iff.mpr otherwise.1
    omega
  · intro condition maxStalenessSec now nSamples
    rw [resolve_read untouched engine names, resolveHistory_read untouched engine names]
    rcases condition with nothing | same
    · constructor
      · intro latest newest
        rw [nothing] at newest
        cases newest
      · simp [nothing, List.rtake]
    · constructor
      · intro latest newest fresh
        rw [if_pos same, newest]
        simp only [Scoring.checkStaleness, if_neg fresh]
      · rw [if_pos same]

/-! ## One value -/

/-- Stores that hold nothing. -/
def emptyStores : Stores := ⟨[], fun _ => none, []⟩

def oneUpdate (name : FeatureName) : FeatureUpdate where
  featureName := name.text
  symbol := name.symbol
  computedAt := 60
  value := ⟨some 1, none, none⟩
  sourceVersion := "1.0"

/-- One value, written without a fault. -/
def oneWrite (name : FeatureName) : List (FeatureUpdate × WriteFaults) :=
  [(oneUpdate name, ⟨false, false, false⟩)]

theorem untouched_emptyStores (name : FeatureName) : Untouched name emptyStores :=
  ⟨fun _ member => absurd member List.not_mem_nil, fun _ held => absurd rfl held⟩

theorem fromEngine_oneWrite (name : FeatureName) :
    FromEngine id (fun _ => "") name "1.0" (oneWrite name) := by
  intro write member named
  rw [List.mem_singleton.mp member]
  exact ⟨rfl, rfl, .num 1, rfl⟩

/-- A feature of a symbol without letters. -/
def digitsName : FeatureName where
  symbol := "1000"
  interval := "1m"
  rest := "ema_20"
  upper := by simp
  segment := by decide
  known := by decide

/-- A literal reference, with a signal on another symbol. -/
theorem resolver_finds_iff_digits :
    let stores := (writeAll emptyStores (oneWrite digitsName)).read 60
    Scoring.resolve stores digitsName.text "BTCUSDT" none = .ok (.ok ⟨some 1, none, none⟩) ∧
      Scoring.resolveHistory stores digitsName.text "BTCUSDT" 1 =
        .ok [⟨some 1, none, none⟩] := by
  have caseless : digitsName.Caseless := by
    unfold FeatureName.Caseless
    simp [digitsName]
  obtain ⟨latest, history⟩ := (resolver_finds_iff (untouched_emptyStores digitsName)
    (fromEngine_oneWrite digitsName)
    (digitsName.substituteTemplate_text (by decide) "BTCUSDT")).mpr (.inr caseless) none 60 1
  exact ⟨latest (oneUpdate digitsName) rfl (by decide), history⟩

/-- A feature of a symbol with letters. -/
def emaName : FeatureName where
  symbol := "BTCUSDT"
  interval := "1m"
  rest := "ema_20"
  upper := by simp
  segment := by decide
  known := by decide

/-- A value that was just written is missing, as the latest and in the history. -/
theorem resolver_misses :
    let stores := (writeAll emptyStores (oneWrite emaName)).read 60
    stores.features = [(oneUpdate emaName).toRow] ∧
      (history emaName (oneWrite emaName)).getLast? = some (oneUpdate emaName) ∧
      ¬ Scoring.IsStale 60 (2 * emaName.seconds) (oneUpdate emaName).computedAt ∧
      Scoring.resolve stores "ind.${signal.symbol}.1m.ema_20" "BTCUSDT" none =
        .ok (.dataMissing "ind.btcusdt.1m.ema_20") ∧
      Scoring.resolveHistory stores "ind.${signal.symbol}.1m.ema_20" "BTCUSDT" 1 = .ok [] := by
  have names : Scoring.substituteTemplate "BTCUSDT".toList
      "ind.${signal.symbol}.1m.ema_20".toList = .ok emaName.chars :=
    emaName.substituteTemplate_template (by decide)
  have otherCase : ¬ String.ofList emaName.lowered = emaName.symbol := by decide
  refine ⟨by decide, by decide, by decide, ?_, ?_⟩
  · rw [resolve_read (untouched_emptyStores emaName) (fromEngine_oneWrite emaName) names,
      if_neg otherCase]
    decide
  · rw [resolveHistory_read (untouched_emptyStores emaName) (fromEngine_oneWrite emaName) names,
      if_neg otherCase]

end Scalper.Features
