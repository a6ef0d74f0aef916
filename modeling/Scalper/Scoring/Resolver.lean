import Mathlib.Data.List.MinMax
import Mathlib.Data.List.Sort
import Mathlib.Data.Rat.Defs
import Mathlib.Algebra.Order.Ring.Rat

/-!
# Feature lookups

`packages/scoring/resolver.py` with the two queries of `packages/db/queries/feature_engine.py`: a
rule's feature reference is completed with the signal's symbol, looked up in the key-value store,
then in the `features` table, and refused when it is too old for the resolver's clock.  Symbols are
ASCII.  Times are in microseconds; `value_json` is its text, `value_num` an exact number.

The queries take the newest rows there are: neither they nor the resolver are told a time.
`upTo` keeps the rows of a table computed by a time, and `selectLatestFeature_upTo_iff` says when
a query cannot tell the two tables apart: when no row of the feature was computed later.
-/

set_option autoImplicit false

namespace Scalper.Scoring

/-! ## Rows and queries -/

/-- `FeatureValue`. -/
structure FeatureValue where
  valueNum : Option ℚ
  valueBool : Option Bool
  valueJson : Option String
  deriving DecidableEq, Repr

/-- A row of `features`. -/
structure FeatureRow where
  featureName : String
  symbol : String
  computedAt : ℕ
  valueNum : Option ℚ
  valueBool : Option Bool
  valueJson : Option String
  deriving DecidableEq, Repr

/-- `_db_row_to_feature_value`. -/
def FeatureRow.toFeatureValue (row : FeatureRow) : FeatureValue :=
  match row.valueNum, row.valueBool with
  | some valueNum, _ => ⟨some valueNum, none, none⟩
  | none, some valueBool => ⟨none, some valueBool, none⟩
  | none, none => ⟨none, none, row.valueJson⟩

/-- The `WHERE` clause of both queries. -/
def rowsOf (features : List FeatureRow) (featureName symbol : String) : List FeatureRow :=
  features.filter fun row => row.featureName = featureName ∧ row.symbol = symbol

/-- `select_latest_feature`. -/
def selectLatestFeature (features : List FeatureRow) (featureName symbol : String) :
    Option FeatureRow :=
  (rowsOf features featureName symbol).argmax FeatureRow.computedAt

/-- `_MAX_HISTORY_WINDOW`. -/
def maxHistoryWindow : ℕ := 200

/-- `select_feature_history`: the newest rows, oldest first. -/
def selectFeatureHistory (features : List FeatureRow) (featureName symbol : String)
    (nSamples : ℕ) : List FeatureRow :=
  (((rowsOf features featureName symbol).insertionSort
    fun row older => older.computedAt ≤ row.computedAt).take (min nSamples maxHistoryWindow)).reverse

/-- The rows computed by a time. -/
def upTo (t : ℕ) (features : List FeatureRow) : List FeatureRow :=
  features.filter fun row => row.computedAt ≤ t

/-! ## Feature references -/

/-- What `resolve` raises. -/
inductive ResolverError where
  | unsupportedTemplate (token : String)
  | malformedRef (featureRef : String)
  | unknownInterval (interval featureRef : String)
  deriving DecidableEq, Repr

/-- A match of `\$\{([^}]+)\}` at the start of a text: the group, and the text behind. -/
def matchTemplate : List Char → Option (List Char × List Char)
  | '$' :: '{' :: rest =>
      match rest.takeWhile (· ≠ '}'), rest.dropWhile (· ≠ '}') with
      | first :: token, _ :: behind => some (first :: token, behind)
      | _, _ => none
  | _ => none

theorem length_matchTemplate {text token behind : List Char}
    (matched : matchTemplate text = some (token, behind)) : behind.length < text.length := by
  unfold matchTemplate at matched
  split at matched
  · next rest =>
      split at matched
      · next first group brace after _ dropped =>
          obtain ⟨rfl, rfl⟩ := Prod.ext_iff.mp (Option.some.inj matched)
          have suffix := (List.dropWhile_suffix (l := rest) (· ≠ '}')).length_le
          rw [dropped] at suffix
          simp only [List.length_cons] at suffix ⊢
          omega
      · exact absurd matched (by simp)
  · exact absurd matched (by simp)

/-- `substitute_template`: the one supported token stands for the symbol in lower case. -/
def substituteTemplate (symbol : List Char) (text : List Char) : Except ResolverError (List Char) :=
  match _matched : matchTemplate text with
  | some (token, behind) =>
      if token = "signal.symbol".toList then do
        let rest ← substituteTemplate symbol behind
        return symbol.map Char.toLower ++ rest
      else .error (.unsupportedTemplate (String.ofList token))
  | none =>
      match text with
      | [] => .ok []
      | head :: text => do
          let rest ← substituteTemplate symbol text
          return head :: rest
termination_by text.length
decreasing_by
  · exact length_matchTemplate _matched
  · simp

theorem matchTemplate_of_ne {head : Char} (other : head ≠ '$') (text : List Char) :
    matchTemplate (head :: text) = none := by
  unfold matchTemplate
  split
  · next same =>
      rw [List.cons.injEq] at same
      exact absurd same.1 other
  · rfl

/-- A character that starts no template is kept. -/
theorem substituteTemplate_cons {head : Char} (other : head ≠ '$') (symbol text : List Char) :
    substituteTemplate symbol (head :: text) =
      (substituteTemplate symbol text).map (List.cons head) := by
  rw [substituteTemplate]
  split
  · next matched =>
      rw [matchTemplate_of_ne other] at matched
      cases matched
  · dsimp only
    cases substituteTemplate symbol text <;> rfl

/-- A reference without templates is literal. -/
theorem substituteTemplate_of_not_mem {text : List Char} (literal : '$' ∉ text)
    (symbol : List Char) : substituteTemplate symbol text = .ok text := by
  induction text with
  | nil =>
      rw [substituteTemplate]
      rfl
  | cons head text ih =>
      rw [List.mem_cons, not_or] at literal
      rw [substituteTemplate_cons (Ne.symm literal.1), ih literal.2]
      rfl

theorem substituteTemplate_template (symbol behind : List Char) :
    substituteTemplate symbol ("${signal.symbol}".toList ++ behind) =
      (substituteTemplate symbol behind).map (symbol.map Char.toLower ++ ·) := by
  have matched : matchTemplate ("${signal.symbol}".toList ++ behind) =
      some ("signal.symbol".toList, behind) := rfl
  rw [substituteTemplate]
  split
  · next token after found =>
      obtain ⟨sameToken, sameBehind⟩ := Prod.mk.inj (Option.some.inj (matched.symm.trans found))
      rw [if_pos sameToken.symm, ← sameBehind]
      cases substituteTemplate symbol behind <;> rfl
  · next missing =>
      rw [matched] at missing
      cases missing

/-- `INTERVAL_DELTA`, in seconds. -/
def intervalDelta : String → Option ℕ
  | "1m" => some 60
  | "5m" => some 300
  | "15m" => some 900
  | "1h" => some 3600
  | "4h" => some 14400
  | "1d" => some 86400
  | _ => none

/-- `parse_feature_ref`: the symbol and the interval's length. -/
def parseFeatureRef (resolvedRef : List Char) : Except ResolverError (String × ℕ) :=
  match (resolvedRef.splitOn '.').map String.ofList with
  | _ :: symbol :: interval :: _ :: _ =>
      match intervalDelta interval with
      | none => .error (.unknownInterval interval (String.ofList resolvedRef))
      | some seconds => .ok (symbol, seconds)
  | _ => .error (.malformedRef (String.ofList resolvedRef))

/-- What a rule looks up for a symbol. -/
structure FeatureTarget where
  featureRef : String
  symbol : String
  maxStalenessSec : ℤ
  deriving DecidableEq, Repr

/-- The reference of a rule's feature, with the staleness it accepts: twice its interval unless
the rule says otherwise. -/
def featureTarget (ruleFeature signalSymbol : String) (maxStalenessSec : Option ℤ) :
    Except ResolverError FeatureTarget := do
  let resolvedRef ← substituteTemplate signalSymbol.toList ruleFeature.toList
  let (symbol, seconds) ← parseFeatureRef resolvedRef
  return { featureRef := String.ofList resolvedRef, symbol := symbol
           maxStalenessSec := maxStalenessSec.getD (2 * seconds) }

/-! ## The resolver -/

/-- `ResolverStatus` of a feature. -/
inductive ResolverStatus where
  | ok
  | dataMissing
  | dataStale
  deriving DecidableEq, Repr

/-- `ResolverResult`: a value, or why there is none. -/
inductive ResolverResult where
  | ok (value : FeatureValue)
  | dataMissing (featureRef : String)
  | dataStale (computedAt : ℕ) (ageSec maxStalenessSec : ℤ)
  deriving DecidableEq, Repr

def ResolverResult.status : ResolverResult → ResolverStatus
  | .ok _ => .ok
  | .dataMissing _ => .dataMissing
  | .dataStale _ _ _ => .dataStale

/-- What the resolver reads: the key-value bucket, the table and its clock. -/
structure FeatureStore where
  kv : String → Option (FeatureValue × ℕ)
  features : List FeatureRow
  now : ℕ

/-- The age in whole seconds, rounded towards zero. -/
def ageSec (now computedAt : ℕ) : ℤ := ((now : ℤ) - computedAt).tdiv 1000000

/-- The comparison of `_check_staleness`. -/
def IsStale (now : ℕ) (maxStalenessSec : ℤ) (computedAt : ℕ) : Prop :=
  maxStalenessSec < ageSec now computedAt

instance (now : ℕ) (maxStalenessSec : ℤ) (computedAt : ℕ) :
    Decidable (IsStale now maxStalenessSec computedAt) :=
  inferInstanceAs (Decidable (_ < _))

/-- `_check_staleness`. -/
def checkStaleness (now : ℕ) (maxStalenessSec : ℤ) (value : FeatureValue) (computedAt : ℕ) :
    ResolverResult :=
  if IsStale now maxStalenessSec computedAt then
    .dataStale computedAt (ageSec now computedAt) maxStalenessSec
  else .ok value

/-- The lookup of a target whose key was not in the key-value store. -/
def tryDb (store : FeatureStore) (target : FeatureTarget) : ResolverResult :=
  match selectLatestFeature store.features target.featureRef target.symbol with
  | none => .dataMissing target.featureRef
  | some row => checkStaleness store.now target.maxStalenessSec row.toFeatureValue row.computedAt

/-- `FeatureResolver.resolve`. -/
def resolve (store : FeatureStore) (ruleFeature signalSymbol : String)
    (maxStalenessSec : Option ℤ) : Except ResolverError ResolverResult := do
  let target ← featureTarget ruleFeature signalSymbol maxStalenessSec
  match store.kv (target.featureRef ++ ":" ++ signalSymbol.toUpper) with
  | some (value, computedAt) =>
      return checkStaleness store.now target.maxStalenessSec value computedAt
  | none => return tryDb store target

/-- `FeatureResolver.resolve_history`. -/
def resolveHistory (store : FeatureStore) (ruleFeature signalSymbol : String) (nSamples : ℕ) :
    Except ResolverError (List FeatureValue) := do
  let target ← featureTarget ruleFeature signalSymbol none
  return (selectFeatureHistory store.features target.featureRef target.symbol nSamples).map
    FeatureRow.toFeatureValue

/-! ## Tables that a query cannot tell apart -/

section Queries

variable {features : List FeatureRow} {featureName symbol : String} {t : ℕ}

theorem rowsOf_upTo :
    rowsOf (upTo t features) featureName symbol =
      (rowsOf features featureName symbol).filter fun row => row.computedAt ≤ t := by
  simp only [rowsOf, upTo, List.filter_filter]
  exact List.filter_congr fun row _ => Bool.and_comm _ _

/-- A feature without later rows has the same rows in both tables. -/
theorem rowsOf_upTo_of_forall
    (settled : ∀ row ∈ rowsOf features featureName symbol, row.computedAt ≤ t) :
    rowsOf (upTo t features) featureName symbol = rowsOf features featureName symbol := by
  rw [rowsOf_upTo]
  exact List.filter_eq_self.mpr fun row member => decide_eq_true (settled row member)

/-- The newest row is the newest row of a time exactly when none was computed later. -/
theorem selectLatestFeature_upTo_iff :
    selectLatestFeature features featureName symbol =
        selectLatestFeature (upTo t features) featureName symbol ↔
      ∀ row ∈ rowsOf features featureName symbol, row.computedAt ≤ t := by
  constructor
  · intro same row member
    cases newest : selectLatestFeature features featureName symbol with
    | none =>
        rw [List.argmax_eq_none.mp newest] at member
        exact absurd member List.not_mem_nil
    | some latest =>
        have newer : row.computedAt ≤ latest.computedAt := List.le_of_mem_argmax member newest
        have kept : latest ∈ rowsOf (upTo t features) featureName symbol :=
          List.argmax_mem (same.symm.trans newest)
        rw [rowsOf_upTo] at kept
        exact newer.trans (of_decide_eq_true (List.mem_filter.mp kept).2)
  · intro settled
    simp only [selectLatestFeature, rowsOf_upTo_of_forall settled]

theorem selectFeatureHistory_upTo
    (settled : ∀ row ∈ rowsOf features featureName symbol, row.computedAt ≤ t) (nSamples : ℕ) :
    selectFeatureHistory features featureName symbol nSamples =
      selectFeatureHistory (upTo t features) featureName symbol nSamples := by
  simp only [selectFeatureHistory, rowsOf_upTo_of_forall settled]

end Queries

end Scalper.Scoring
