import Scalper.Lib.Comprehension
import Scalper.Scoring.Evaluator
import Scalper.Scoring.Sections
import Scalper.Scoring.Yaml

/-!
# The loader of bot configurations

`load_bot_config_from_string` of `packages/scoring/yaml_loader.py` on a parsed document: the rules
are built one by one, and each section is parsed into its model.  What pydantic does to a value
where a model is not strict is given (`Pydantic`), and so is how a condition is parsed
(`ConditionParser`); a condition can be anything.
-/

set_option autoImplicit false

namespace Scalper.Scoring.YamlLoader

open Scalper.Lib
open Scalper.Execution (ExchangeMode)

/-- The conversions of fields that are not strict. -/
structure Pydantic where
  laxStr : Yaml → Option String
  laxInt : Yaml → Option ℤ
  laxBool : Yaml → Option Bool

/-- `_extract_feature` and `parse_condition` with its plugins. -/
structure ConditionParser (γ : Type) where
  extractFeature : Entries → Except LoadError (Option String)
  parseCondition : Entries → Except LoadError γ

/-! ## Fields -/

section Fields

variable {α : Type}

def strictStr : Yaml → Option String
  | .str value => some value
  | _ => none

def strictInt : Yaml → Option ℤ
  | .int value => some value
  | _ => none

def strictBool : Yaml → Option Bool
  | .bool value => some value
  | _ => none

/-- A `Literal` field. -/
def literal (choices : List (String × α)) (value : Yaml) : Option α :=
  (choices.find? fun choice => Yaml.isKey choice.1 value).map Prod.snd

/-- A field that may be `None`. -/
def nullable (read : Yaml → Option α) : Yaml → Option (Option α)
  | .null => some none
  | value => (read value).map some

/-- A `Decimal` field takes finite decimals. -/
def decimalField : Coerced → Option ℚ
  | .decimal (.finite number) => some number.value
  | _ => none

/-- A `Decimal` field with `ge=0`, of a value that `_to_decimal` coerced. -/
def nonnegDecimal (value : Yaml) : Option { amount : ℚ // 0 ≤ amount } :=
  (decimalField (toDecimal value)).bind fun amount =>
    if nonneg : 0 ≤ amount then some ⟨amount, nonneg⟩ else none

/-- A field that a model did not accept fails its validation. -/
def validated (model : String) : Option α → Except LoadError α
  | some value => .ok value
  | none => .error (.validation model)

def required (model : String) (entries : Entries) (name : String) (read : Yaml → Option α) :
    Except LoadError α :=
  validated model ((Yaml.lookup entries name).bind read)

def optional (model : String) (entries : Entries) (name : String) (default : α)
    (read : Yaml → Option α) : Except LoadError α :=
  match Yaml.lookup entries name with
  | none => .ok default
  | some value => validated model (read value)

/-- `**entries`: a keyword is a text. -/
def keywords (entries : Entries) : Except LoadError Unit :=
  if entries.all fun entry => (strictStr entry.1).isSome then .ok () else .error .typeError

/-- `extra="forbid"`. -/
def forbidExtra (model : String) (fields : List String) (entries : Entries) :
    Except LoadError Unit :=
  if entries.all fun entry => fields.any fun field => Yaml.isKey field entry.1 then .ok ()
  else .error (.validation model)

/-- A value that is unpacked as keyword arguments. -/
def splat (value : Yaml) : Except LoadError Entries :=
  match value.asDict with
  | some entries => do
      keywords entries
      return entries
  | none => .error .typeError

/-- A `dict[str, Decimal]` field, of values that were coerced. -/
def decimalDict (pydantic : Pydantic) (model : String) (coerced : List (Yaml × Coerced)) :
    Except LoadError (List (String × ℚ)) := do
  let entries ← coerced.mapM fun entry => do
    let key ← validated model (pydantic.laxStr entry.1)
    let amount ← validated model (decimalField entry.2)
    return (key, amount)
  return dictBy Prod.fst entries

end Fields

/-! ## Rules -/

/-- `ScoringRule`; the condition is whatever `parse_condition` returns. -/
structure ScoringRule (γ : Type) where
  name : String
  weight : DecimalValue
  feature : String
  appliesWhen : Option Entries
  condition : γ
  onError : OnError
  required : Bool
  maxStalenessSec : Option ℤ

/-- `ScoringConfig`. -/
structure ScoringConfig (γ : Type) where
  mode : ScoringMode
  triggerThreshold : DecimalValue
  rules : List (ScoringRule γ)
  ruleNamesUnique : (rules.map ScoringRule.name).Nodup

variable {γ : Type}

/-- The weight of a rule is a number, and no truth value. -/
def weightOf : Option Yaml → Option DecimalValue
  | some (.int value) => some (.finite ⟨value, 0⟩)
  | some (.float value) => some value
  | _ => none

/-- A strict `dict[str, Any]` field. -/
def strictDict (value : Yaml) : Option Entries :=
  value.asDict.filter fun entries => entries.all fun entry => (strictStr entry.1).isSome

/-- `rule_yaml.get("feature") or _extract_feature(cond_spec)`. -/
def featureOf (parser : ConditionParser γ) (rule spec : Entries) :
    Except LoadError (Option Yaml) :=
  match (Yaml.lookup rule "feature").filter Yaml.truthy with
  | some feature => .ok (some feature)
  | none => (parser.extractFeature spec).map (Option.map .str)

/-- `_build_rule`. -/
def buildRule (parser : ConditionParser γ) (rule : Entries) :
    Except LoadError (ScoringRule γ) := do
  match (Yaml.lookup rule "condition").bind Yaml.asDict with
  | none => .error (.conditionNotDict (Yaml.lookup rule "name"))
  | some spec => do
      match ← featureOf parser rule spec with
      | none => .error (.featureRequired (Yaml.lookup rule "name") (Yaml.lookup spec "type"))
      | some feature =>
          let condition ← parser.parseCondition spec
          match weightOf (Yaml.lookup rule "weight") with
          | none =>
              .error (.weightNotNumber (Yaml.lookup rule "name") (Yaml.lookup rule "weight"))
          | some weight =>
              let name ← Yaml.getItem rule "name"
              let name ← validated "ScoringRule" (strictStr name)
              let feature ← validated "ScoringRule" (strictStr feature)
              let appliesWhen ←
                optional "ScoringRule" rule "applies_when" none (nullable strictDict)
              let onError ← optional "ScoringRule" rule "on_error" .skip
                (literal [("skip", .skip), ("reject", .reject)])
              let required ← optional "ScoringRule" rule "required" false strictBool
              let maxStalenessSec ←
                optional "ScoringRule" rule "max_staleness_sec" none (nullable strictInt)
              return { name, weight, feature, appliesWhen, condition, onError, required
                       maxStalenessSec }

/-- `ScoringConfig(..)`. -/
def scoringConfig (mode : Yaml) (triggerThreshold : DecimalValue) (rules : List (ScoringRule γ)) :
    Except LoadError (ScoringConfig γ) := do
  let mode ← validated "ScoringConfig"
    (literal [("active", .active), ("passthrough", .passthrough)] mode)
  if unique : (rules.map ScoringRule.name).Nodup then
    return { mode, triggerThreshold, rules, ruleNamesUnique := unique }
  else .error (.validation "ScoringConfig")

/-- The elements of `scoring.rules`. -/
def rulesYaml (scoring : Entries) : Except LoadError (List Yaml) :=
  (Yaml.orElse (Yaml.lookup scoring "rules") (.list [])).iterate

/-- The scoring section of the document. -/
def parseScoring (parser : ConditionParser γ) (scoring : Entries) :
    Except LoadError (ScoringConfig γ) := do
  let elements ← rulesYaml scoring
  let rules ← (elements.filterMap Yaml.asDict).mapM (buildRule parser)
  let triggerThreshold ←
    ((Yaml.lookup scoring "trigger_threshold").getD (.float (.finite ⟨0, 0⟩))).toFloat
  scoringConfig ((Yaml.lookup scoring "mode").getD (.str "active")) triggerThreshold rules

/-! ## Sections -/

/-- `_parse_exchange`. -/
def parseExchange (spec : Yaml) : Except LoadError ExchangeSection := do
  let entries ← splat spec
  let mode ← required "ExchangeSection" entries "mode"
    (literal [("live", .live), ("testnet", .testnet), ("paper", .paper), ("demo", .demo)])
  let account ← required "ExchangeSection" entries "account" strictStr
  let apiKeyEnv ← required "ExchangeSection" entries "api_key_env" strictStr
  let apiSecretEnv ← required "ExchangeSection" entries "api_secret_env" strictStr
  return { mode, account, apiKeyEnv, apiSecretEnv }

/-- A strict `list[str]` field. -/
def strictStrs : Yaml → Option (List String)
  | .list items => items.mapM strictStr
  | _ => none

/-- `_parse_signals`. -/
def parseSignals (spec : Yaml) : Except LoadError SignalsSection := do
  let entries ← splat spec
  let sourceFilter ← optional "SignalsSection" entries "source_filter" none (nullable strictStrs)
  let ttlSeconds ← optional "SignalsSection" entries "ttl_seconds" 120 strictInt
  return { sourceFilter, ttlSeconds }

/-- `_parse_execution`. -/
def parseExecution (spec : Yaml) : Except LoadError ExecutionSection := do
  let entries ← spec.items
  keywords entries
  let amount := fun name =>
    required "ExecutionSection" entries name fun value => decimalField (toDecimal value)
  let qty ← amount "qty"
  let leverage ← required "ExecutionSection" entries "leverage" strictInt
  let slPct ← amount "sl_pct"
  let tpPct ← amount "tp_pct"
  let tpQtyPct ← amount "tp_qty_pct"
  let beTrigger ← amount "be_trigger"
  let beSlLevel ← amount "be_sl_level"
  let trailPct ← amount "trail_pct"
  let feeRate ← amount "fee_rate"
  let slRetryCount ← optional "ExecutionSection" entries "sl_retry_count" 3 strictInt
  let emergencyCloseOnSlFail ←
    optional "ExecutionSection" entries "emergency_close_on_sl_fail" true strictBool
  return { qty, leverage, slPct, tpPct, tpQtyPct, beTrigger, beSlLevel, trailPct, feeRate
           slRetryCount, emergencyCloseOnSlFail }

/-- `ShadowVariant` of an element of `shadow.variants`. -/
def shadowVariant (pydantic : Pydantic) (entries : Entries) : Except LoadError ShadowVariant := do
  let overridesRaw ← (Yaml.orElse (Yaml.lookup entries "overrides") (.map [])).items
  let name ← validated "ShadowVariant"
    (pydantic.laxStr ((Yaml.lookup entries "name").getD (.str "")))
  let overrides ← decimalDict pydantic "ShadowVariant"
    (overridesRaw.map fun entry => (entry.1, toDecimal entry.2))
  if valid : name ≠ "" ∧ ∀ entry ∈ overrides, entry.1 ∈ executionOverrideFields then
    return { name, overrides, name_ne_empty := valid.1, targets := valid.2 }
  else .error (.validation "ShadowVariant")

/-- `ShadowConfig(..)`. -/
def shadowConfig (enabled : Bool) (variants : List ShadowVariant) (hours : DecimalValue) :
    Except LoadError ShadowConfig :=
  match hours with
  | .finite number =>
      if valid : 0 < number.value ∧ number.value ≤ 24 ∧
          (variants.map ShadowVariant.name).Nodup ∧ (enabled = true → variants ≠ []) then
        .ok
          { enabled, variants, maxDurationHours := number.value, hours_pos := valid.1
            hours_le := valid.2.1, namesUnique := valid.2.2.1
            enabledRequiresVariants := valid.2.2.2 }
      else .error (.validation "ShadowConfig")
  | _ => .error (.validation "ShadowConfig")

/-- The elements of `shadow.variants`. -/
def rawVariants (shadow : Entries) : Except LoadError (List Yaml) :=
  (Yaml.orElse (Yaml.lookup shadow "variants") (.list [])).iterate

/-- `_parse_shadow` of a block that is there. -/
def shadowBlock (pydantic : Pydantic) (entries : Entries) : Except LoadError ShadowConfig := do
  let elements ← rawVariants entries
  let variants ← (elements.filterMap Yaml.asDict).mapM (shadowVariant pydantic)
  let hours ←
    ((Yaml.lookup entries "max_duration_hours").getD (.float (.finite ⟨4, 0⟩))).toFloat
  shadowConfig ((Yaml.lookup entries "enabled").getD (.bool false)).truthy variants hours

/-- `_parse_shadow`. -/
def parseShadow (pydantic : Pydantic) (spec : Option Yaml) :
    Except LoadError (Option ShadowConfig) :=
  match spec.filter Yaml.truthy with
  | none => .ok none
  | some spec => do
      let entries ← spec.items
      return some (← shadowBlock pydantic entries)

/-- The fields of `RiskSection`. -/
def riskFields : List String :=
  ["cooldown_after_loss_minutes", "cooldown_after_streak_n_losses",
    "cooldown_after_streak_n_losses_minutes", "max_open_trades_per_bot", "max_open_trades_global",
    "daily_loss_limit_usd", "max_drawdown_pct", "block_opposite_side"]

/-- An `int` field with `ge=0`. -/
def natField (pydantic : Pydantic) (value : Yaml) : Option ℕ :=
  (pydantic.laxInt value).bind fun number => if 0 ≤ number then some number.toNat else none

/-- `_parse_risk` of a block that is there. -/
def riskBlock (pydantic : Pydantic) (entries : Entries) : Except LoadError RiskSection := do
  keywords entries
  forbidExtra "RiskSection" riskFields entries
  let knob := fun name => optional "RiskSection" entries name 0 (natField pydantic)
  let amount := fun name => optional "RiskSection" entries name ⟨0, le_rfl⟩ nonnegDecimal
  let cooldownAfterLossMinutes ← knob "cooldown_after_loss_minutes"
  let cooldownAfterStreakNLosses ← knob "cooldown_after_streak_n_losses"
  let cooldownAfterStreakNLossesMinutes ← knob "cooldown_after_streak_n_losses_minutes"
  let maxOpenTradesPerBot ← knob "max_open_trades_per_bot"
  let maxOpenTradesGlobal ← knob "max_open_trades_global"
  let dailyLossLimitUsd ← amount "daily_loss_limit_usd"
  let maxDrawdownPct ← amount "max_drawdown_pct"
  let blockOppositeSide ←
    optional "RiskSection" entries "block_opposite_side" true pydantic.laxBool
  return { cooldownAfterLossMinutes, cooldownAfterStreakNLosses
           cooldownAfterStreakNLossesMinutes, maxOpenTradesPerBot, maxOpenTradesGlobal
           dailyLossLimitUsd, maxDrawdownPct, blockOppositeSide
           dailyLossLimitUsd_nonneg := dailyLossLimitUsd.2
           maxDrawdownPct_nonneg := maxDrawdownPct.2 }

/-- `_parse_risk`. -/
def parseRisk (pydantic : Pydantic) (spec : Option Yaml) : Except LoadError RiskSection :=
  match spec.filter Yaml.truthy with
  | none => .ok {}
  | some spec => do
      let entries ← spec.items
      riskBlock pydantic entries

/-- `SizingTier` of an element of `sizing.tiers`. -/
def sizingTier (entries : Entries) : Except LoadError SizingTier := do
  let balanceMin ← validated "SizingTier"
    (nonnegDecimal ((Yaml.lookup entries "balance_min").getD .null))
  let size ← validated "SizingTier" (nonnegDecimal ((Yaml.lookup entries "size").getD .null))
  return { balanceMin, size, balanceMin_nonneg := balanceMin.2, size_nonneg := size.2 }

/-- The elements of `sizing.tiers`; none where there is no such key. -/
def rawTiers (sizing : Entries) : Except LoadError (List Yaml) :=
  match Yaml.lookup sizing "tiers" with
  | none => .ok []
  | some tiers => (Yaml.orElse (some tiers) (.list [])).iterate

/-- A dictionary of amounts in a sizing block, each coerced, if the key is there. -/
def coerceAmounts (sizing : Entries) (name : String) :
    Except LoadError (Option (List (Yaml × Coerced))) :=
  match Yaml.lookup sizing name with
  | none => .ok none
  | some amounts => do
      let entries ← (Yaml.orElse (some amounts) (.map [])).items
      return some (entries.map fun entry => (entry.1, toDecimal entry.2))

/-- The fields of `SizingSection`. -/
def sizingFields : List String :=
  ["method", "tiers", "score_multipliers", "risk_pct", "max_notional_per_symbol"]

/-- `SizingSection(..)`. -/
def sizingSection (method : SizingMethod) (tiers : List SizingTier)
    (scoreMultipliers : List (String × ℚ)) (riskPct : Option ℚ)
    (maxNotionalPerSymbol : List (String × ℚ)) : Except LoadError SizingSection :=
  if valid : (∀ risk ∈ riskPct, 0 < risk) ∧
      StructuralGuards method tiers scoreMultipliers riskPct maxNotionalPerSymbol then
    .ok
      { method, tiers, scoreMultipliers, riskPct, maxNotionalPerSymbol
        riskPct_pos := valid.1, guards := valid.2 }
  else .error (.validation "SizingSection")

/-- `_parse_sizing` of a block that is there. -/
def sizingBlock (pydantic : Pydantic) (coerced : Entries) : Except LoadError SizingSection := do
  let elements ← rawTiers coerced
  let tiers ← (elements.filterMap Yaml.asDict).mapM sizingTier
  let multipliers ← coerceAmounts coerced "score_multipliers"
  let caps ← coerceAmounts coerced "max_notional_per_symbol"
  keywords coerced
  forbidExtra "SizingSection" sizingFields coerced
  let method ← optional "SizingSection" coerced "method" .tier
    (literal [("tier", .tier), ("risk_per_sl", .riskPerSl)])
  let scoreMultipliers ← decimalDict pydantic "SizingSection" (multipliers.getD [])
  let riskPct ← optional "SizingSection" coerced "risk_pct" none
    (nullable fun value => decimalField (toDecimal value))
  let caps ← validated "SizingSection" caps
  let maxNotionalPerSymbol ← decimalDict pydantic "SizingSection" caps
  sizingSection method tiers scoreMultipliers riskPct maxNotionalPerSymbol

/-- `_parse_sizing`. -/
def parseSizing (pydantic : Pydantic) (spec : Option Yaml) :
    Except LoadError (Option SizingSection) :=
  match spec.filter Yaml.truthy with
  | none => .ok none
  | some spec => do
      let coerced ← spec.dict
      return some (← sizingBlock pydantic coerced)

/-! ## The configuration -/

/-- `_BOT_ID_PATTERN`; its `$` also matches before a line break at the end. -/
def botIdCharset (botId : String) : Bool :=
  let text := botId.toList
  let text := if text.getLast? = some '\n' then text.dropLast else text
  match text with
  | [] => false
  | first :: rest =>
      ('a' ≤ first && first ≤ 'z') && rest.all fun char =>
        ('a' ≤ char && char ≤ 'z') || char.isDigit || char = '_' || char = '-'

/-- `BotConfig`. -/
structure BotConfig (γ : Type) where
  botId : String
  version : ℤ
  symbols : List String
  exchange : ExchangeSection
  signals : SignalsSection
  execution : ExecutionSection
  scoring : ScoringConfig γ
  shadow : Option ShadowConfig
  risk : RiskSection
  sizing : Option SizingSection
  botId_charset : botIdCharset botId = true
  version_pos : 1 ≤ version

/-- The section of a document that has to be a mapping. -/
def mappingOr (error : LoadError) (value : Yaml) : Except LoadError Entries :=
  match value.asDict with
  | some entries => .ok entries
  | none => .error error

/-- `load_bot_config_from_string`, once the text is parsed. -/
def loadBotConfig (pydantic : Pydantic) (parser : ConditionParser γ) (document : Yaml) :
    Except LoadError (BotConfig γ) := do
  let data ← mappingOr .topLevelNotMapping document
  let scoringYaml ←
    mappingOr .scoringNotMapping ((Yaml.lookup data "scoring").getD (.map []))
  let scoring ← parseScoring parser scoringYaml
  let trading ← (Yaml.orElse (Yaml.lookup data "trading") (.map [])).items
  let botId ← Yaml.getItem data "bot_id"
  let symbols ← (Yaml.orElse (Yaml.lookup trading "universe") (.list [])).iterate
  let exchange ← parseExchange ((Yaml.lookup data "exchange").getD (.map []))
  let signals ← parseSignals ((Yaml.lookup data "signals").getD (.map []))
  let execution ← parseExecution ((Yaml.lookup data "execution").getD (.map []))
  let shadow ← parseShadow pydantic (Yaml.lookup data "shadow")
  let risk ← parseRisk pydantic (Yaml.lookup data "risk")
  let sizing ← parseSizing pydantic (Yaml.lookup data "sizing")
  let botId ← validated "BotConfig" (pydantic.laxStr botId)
  let version ← optional "BotConfig" data "version" 1 pydantic.laxInt
  let symbols ← validated "BotConfig" (symbols.mapM pydantic.laxStr)
  if valid : botIdCharset botId = true ∧ 1 ≤ version then
    return { botId, version, symbols, exchange, signals, execution, scoring, shadow, risk, sizing
             botId_charset := valid.1, version_pos := valid.2 }
  else .error (.validation "BotConfig")

end Scalper.Scoring.YamlLoader
