import Scalper.Lib.Dict
import Scalper.Features.Pipeline
import Scalper.Scoring.Resolver

/-!
# What the pipeline writes

Every computed value becomes a `FeatureUpdate`, and goes to the `features` table, to the key-value
bucket of latest values and to the bus, in this order: without the row nothing else is written,
while a refused key and a failed publish are logged and passed over.  The rows are upserted on
feature, symbol, time and source version.

The conversion of a `Decimal` to a `float` and the text of a JSON value are parameters here; the
values are those the resolver reads back.
-/

set_option autoImplicit false

namespace Scalper.Features

open Scalper.Lib

/-- `FeatureUpdate`, which is also the row of `features`. -/
structure FeatureUpdate where
  featureName : String
  symbol : String
  computedAt : ℕ
  value : Scoring.FeatureValue
  sourceVersion : String
  deriving DecidableEq

/-- The primary key of `features`. -/
def FeatureUpdate.key (update : FeatureUpdate) : String × String × ℕ × String :=
  (update.featureName, update.symbol, update.computedAt, update.sourceVersion)

/-- `insert_feature`. -/
def insertFeature (features : List FeatureUpdate) (update : FeatureUpdate) : List FeatureUpdate :=
  upsert FeatureUpdate.key update features

/-! ## Conversions -/

/-- The three fields of a value. -/
def FeatureValue.valueNum : FeatureValue → Option ℚ
  | .num value => some value
  | _ => none

def FeatureValue.valueBool : FeatureValue → Option Bool
  | .bool value => some value
  | _ => none

def FeatureValue.valueJson : FeatureValue → Option (List (String × SubValue))
  | .json fields => some fields
  | _ => none

/-- `INTERVAL_DELTA["1m"]`. -/
def oneMinute : ℕ := 60000000

section Conversions

variable (float : ℚ → ℚ) (jsonText : List (String × SubValue) → String)

/-- `{k: float(v) if isinstance(v, Decimal) else v}`. -/
def floatFields (fields : List (String × SubValue)) : List (String × SubValue) :=
  fields.map fun field =>
    (field.1, match field.2 with
      | .decimal value => .decimal (float value)
      | .other text => .other text)

/-- The conversion of `_build_update`. -/
def wireValue (value : FeatureValue) : Scoring.FeatureValue :=
  match value.valueNum with
  | some number => ⟨some (float number), none, none⟩
  | none =>
      match value.valueBool with
      | some flag => ⟨none, some flag, none⟩
      | none => ⟨none, none, value.valueJson.map fun fields => jsonText (floatFields float fields)⟩

/-- `_build_update`. -/
def buildUpdate (featureName : String) (feature : Feature) (value : FeatureValue)
    (candle : OhlcCandle) : FeatureUpdate where
  featureName := featureName
  symbol := candle.symbol
  computedAt := candle.bucketStart + oneMinute
  value := wireValue float jsonText value
  sourceVersion := feature.sourceVersion

end Conversions

/-! ## Stores -/

/-- The key-value bucket of latest values, by key. -/
abbrev LatestValues := String → Option (Scoring.FeatureValue × ℕ)

/-- What the pipeline writes to. -/
structure Stores where
  features : List FeatureUpdate
  kv : LatestValues
  published : List (String × FeatureUpdate)

/-- The store accepts only keys of letters, digits, hyphens, slashes, underscores, equals signs and
dots. -/
def isKeyValid (key : String) : Bool :=
  !key.isEmpty && key.toList.all fun char =>
    char.isAlphanum || char = '-' || char = '/' || char = '_' || char = '=' || char = '.'

/-- What fails while a value is written. -/
structure WriteFaults where
  insert : Bool
  kvPut : Bool
  publish : Bool

/-- `kv_put`: an invalid key is refused like any failed call. -/
def kvPut (kv : LatestValues) (key : String) (value : Scoring.FeatureValue × ℕ) (fails : Bool) :
    LatestValues :=
  if fails || !isKeyValid key then kv else Function.update kv key (some value)

/-- `subject_for`. -/
def subjectFor (featureName symbol : String) : String :=
  "features.updated." ++ featureName ++ "." ++ symbol

/-- `_persist_kv_publish`. -/
def persistKvPublish (stores : Stores) (update : FeatureUpdate) (faults : WriteFaults) : Stores :=
  if faults.insert then stores
  else
    { features := insertFeature stores.features update
      kv := kvPut stores.kv (update.featureName ++ ":" ++ update.symbol)
        (update.value, update.computedAt) faults.kvPut
      published := if faults.publish then stores.published
        else stores.published ++ [(subjectFor update.featureName update.symbol, update)] }

end Scalper.Features
