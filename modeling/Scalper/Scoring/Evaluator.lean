import Scalper.Scoring.Resolver
import Scalper.Shadow.Rejected
import Scalper.Lib.Dict

/-!
# The scoring loop

`packages/scoring/evaluator.py`: the rules of a bot are evaluated in order, each against the value
and, where its condition wants one, the history of its feature; what the rules score is added up
and compared with the threshold.  A required feature that is missing or stale, and a failing rule
that says so, reject the signal at once.  A condition is any function of its context; weights are
exact numbers.

The snapshot keeps `dict` of a JSON value.  One of the key-value store is decoded; of the pools that
evaluate none registers a codec, so one of the table is still its text, and `dict` raises.

An evaluation depends on the store it reads only through the lookups of its own rules
(`evaluate_congr`).
-/

set_option autoImplicit false

namespace Scalper.Scoring

open Scalper.Lib Scalper.Shadow

/-! ## Signals and rules -/

/-- `SignalValidated`; the payload is its text. -/
structure SignalValidated where
  source : String
  idempotencyKey : String
  receivedAt : ℕ
  symbol : String
  originalSymbol : String
  action : SignalAction
  expiresAt : ℕ
  payload : String
  deriving DecidableEq, Repr

/-- `RuleContext`, with the one feature the evaluator puts in it. -/
structure RuleContext where
  signal : SignalValidated
  featureRef : String
  featureValue : FeatureValue
  featureHistory : List FeatureValue

/-- A condition, with the history window `_required_history_window` finds in it. -/
structure Condition where
  evaluate : RuleContext → Except String (Bool × Option String)
  requiredHistoryWindow : Option ℕ

/-- `on_error` of a rule. -/
inductive OnError where
  | skip
  | reject
  deriving DecidableEq, Repr

/-- `ScoringRule`. -/
structure ScoringRule where
  name : String
  weight : ℚ
  feature : String
  condition : Condition
  onError : OnError := .skip
  required : Bool := false
  maxStalenessSec : Option ℤ := none

/-- `mode` of the scoring section. -/
inductive ScoringMode where
  | active
  | passthrough
  deriving DecidableEq, Repr

/-- `ScoringConfig`. -/
structure ScoringConfig where
  mode : ScoringMode
  triggerThreshold : ℚ
  rules : List ScoringRule

/-! ## Results -/

/-- `RuleResult.result`. -/
inductive RuleOutcome where
  | held (outcome : Bool)
  | errorSkipped
  | dataMissing
  | dataStale
  deriving DecidableEq, Repr

/-- `RuleResult.error`. -/
inductive RuleError where
  | lookup (result : ResolverResult)
  | raised (error : String)
  | condition (info : String)
  deriving DecidableEq, Repr

/-- `RuleResult`. -/
structure RuleResult where
  name : String
  weight : ℚ
  appliedWeight : ℚ
  result : RuleOutcome
  error : Option RuleError
  deriving DecidableEq, Repr

/-- `Decision` of an evaluation. -/
inductive Decision where
  | execute
  | reject
  | passthrough
  deriving DecidableEq, Repr

/-- Why an evaluation rejects. -/
inductive RejectReason where
  | requiredFeatureMissing
  | requiredFeatureStale
  | ruleError
  | scoreBelowThreshold
  deriving DecidableEq, Repr

/-- `ScoringResult`. -/
structure ScoringResult where
  decision : Decision
  reason : Option RejectReason
  totalScore : ℚ
  threshold : ℚ
  ruleResults : List RuleResult
  featureSnapshot : List (String × FeatureValue)
  deriving DecidableEq, Repr

/-! ## The loop -/

/-- The accumulators of `evaluate`. -/
structure Scored where
  ruleResults : List RuleResult := []
  featureSnapshot : List (String × FeatureValue) := []
  totalScore : ℚ := 0

/-- What a rule comes to: its row and what it adds to the snapshot, or an early reject. -/
inductive RuleStep where
  | scored (ruleResult : RuleResult) (snapshot : Option (String × FeatureValue))
  | rejected (reason : RejectReason) (ruleResult : RuleResult)
      (snapshot : Option (String × FeatureValue))

/-- A feature that gives no value: rejected if the rule requires it, else the rule fails open. -/
def withoutValue (rule : ScoringRule) (result : ResolverResult) (outcome : RuleOutcome)
    (reason : RejectReason) : RuleStep :=
  let ruleResult : RuleResult :=
    { name := rule.name, weight := rule.weight, appliedWeight := 0, result := outcome
      error := some (.lookup result) }
  if rule.required then .rejected reason ruleResult none else .scored ruleResult none

/-- The condition of a rule on the value and history it was given. -/
def applyCondition (rule : ScoringRule) (ctx : RuleContext) : RuleStep :=
  let snapshot := some (ctx.featureRef, ctx.featureValue)
  match rule.condition.evaluate ctx with
  | .error error =>
      let ruleResult : RuleResult :=
        { name := rule.name, weight := rule.weight, appliedWeight := 0, result := .errorSkipped
          error := some (.raised error) }
      if rule.onError = .reject then .rejected .ruleError ruleResult snapshot
      else .scored ruleResult snapshot
  | .ok (outcome, info) =>
      .scored
        { name := rule.name, weight := rule.weight
          appliedWeight := if outcome then rule.weight else 0
          result := .held outcome, error := info.map .condition }
        snapshot

/-- What the evaluation of a rule raises: a reference is refused, the database fails or returns a row
without a value, or a JSON value is still text. -/
inductive EvaluationError where
  | resolver (error : ResolverError)
  | backend (raised : String)
  | jsonText (text : String)
  deriving DecidableEq, Repr

/-- What the resolver raises is raised by the evaluation. -/
def lift {α : Type} : Except ResolverError α → Except EvaluationError α
  | .ok value => .ok value
  | .error error => .error (.resolver error)

/-- A value comes from the `features` table: its key is not in the key-value store. -/
def comesFromTable (kv : String → Option (FeatureValue × ℕ)) (featureRef signalSymbol : String) :
    Bool :=
  (kv (featureRef ++ ":" ++ signalSymbol.toUpper)).isNone

/-- `_serialize_feature_value`, with what it returns read back: `dict` refuses a text. -/
def serializeFeatureValue (fromTable : Bool) (value : FeatureValue) :
    Except EvaluationError FeatureValue :=
  match fromTable, value.valueJson with
  | true, some text => .error (.jsonText text)
  | _, _ => .ok value

/-- The history a rule's condition wants, empty when it wants none. -/
def featureHistory (store : FeatureStore) (signal : SignalValidated) (rule : ScoringRule) :
    Except ResolverError (List FeatureValue) :=
  match rule.condition.requiredHistoryWindow with
  | none => .ok []
  | some nSamples => resolveHistory store rule.feature signal.symbol nSamples

/-- `_evaluate_rule`.  What the lookups and the snapshot raise is not caught. -/
def evaluateRule (store : FeatureStore) (signal : SignalValidated) (rule : ScoringRule) :
    Except EvaluationError RuleStep := do
  match ← lift (resolve store rule.feature signal.symbol rule.maxStalenessSec) with
  | .dataMissing featureRef =>
      return withoutValue rule (.dataMissing featureRef) .dataMissing .requiredFeatureMissing
  | .dataStale computedAt ageSec maxStalenessSec =>
      return withoutValue rule (.dataStale computedAt ageSec maxStalenessSec) .dataStale
        .requiredFeatureStale
  | .ok value =>
      let resolvedRef ← lift (substituteTemplate signal.symbol.toList rule.feature.toList)
      let fromTable := comesFromTable store.kv (String.ofList resolvedRef) signal.symbol
      let value ← serializeFeatureValue fromTable value
      let history ← lift (featureHistory store signal rule)
      return applyCondition rule
        { signal := signal, featureRef := String.ofList resolvedRef, featureValue := value
          featureHistory := history }

def Scored.note (scored : Scored) (ruleResult : RuleResult)
    (snapshot : Option (String × FeatureValue)) : Scored :=
  { ruleResults := scored.ruleResults ++ [ruleResult]
    featureSnapshot :=
      snapshot.elim scored.featureSnapshot fun entry =>
        upsert Prod.fst entry scored.featureSnapshot
    totalScore := scored.totalScore + ruleResult.appliedWeight }

def Scored.result (scored : Scored) (config : ScoringConfig) (decision : Decision)
    (reason : Option RejectReason) : ScoringResult :=
  { decision := decision, reason := reason, totalScore := scored.totalScore
    threshold := config.triggerThreshold, ruleResults := scored.ruleResults
    featureSnapshot := scored.featureSnapshot }

/-- The decision once every rule has been scored. -/
def Scored.decide (scored : Scored) (config : ScoringConfig) : ScoringResult :=
  match config.mode with
  | .passthrough => scored.result config .passthrough none
  | .active =>
      if config.triggerThreshold ≤ scored.totalScore then scored.result config .execute none
      else scored.result config .reject (some .scoreBelowThreshold)

/-- The loop of `evaluate` over the rules that are left. -/
def evaluateRules (config : ScoringConfig) (store : FeatureStore) (signal : SignalValidated) :
    List ScoringRule → Scored → Except EvaluationError ScoringResult
  | [], scored => .ok (scored.decide config)
  | rule :: rules, scored => do
      match ← evaluateRule store signal rule with
      | .rejected reason ruleResult snapshot =>
          return (scored.note ruleResult snapshot).result config .reject (some reason)
      | .scored ruleResult snapshot =>
          evaluateRules config store signal rules (scored.note ruleResult snapshot)

/-- `evaluate`. -/
def evaluate (config : ScoringConfig) (store : FeatureStore) (signal : SignalValidated) :
    Except EvaluationError ScoringResult :=
  evaluateRules config store signal config.rules {}

/-! ## What an evaluation reads -/

/-- A rule reads the same in two stores: the same value, from the same of the two places, and the
same history. -/
structure ReadsAlike (signal : SignalValidated) (store store' : FeatureStore) (rule : ScoringRule) :
    Prop where
  value : resolve store rule.feature signal.symbol rule.maxStalenessSec =
    resolve store' rule.feature signal.symbol rule.maxStalenessSec
  history : featureHistory store signal rule = featureHistory store' signal rule
  fromTable : ∀ featureRef, comesFromTable store.kv featureRef signal.symbol =
    comesFromTable store'.kv featureRef signal.symbol

section Reads

variable {config : ScoringConfig} {signal : SignalValidated} {store store' : FeatureStore}

theorem evaluateRule_congr {rule : ScoringRule} (alike : ReadsAlike signal store store' rule) :
    evaluateRule store signal rule = evaluateRule store' signal rule := by
  simp only [evaluateRule, alike.value, alike.history, alike.fromTable]

theorem evaluateRules_congr (rules : List ScoringRule)
    (alike : ∀ rule ∈ rules, ReadsAlike signal store store' rule) :
    ∀ scored : Scored, evaluateRules config store signal rules scored =
      evaluateRules config store' signal rules scored := by
  induction rules with
  | nil => exact fun _ => rfl
  | cons rule rules ih =>
      intro scored
      have onward := ih fun later member =>
        alike later (List.mem_cons_of_mem rule member)
      simp only [evaluateRules, evaluateRule_congr (alike rule List.mem_cons_self), onward]

/-- Two stores in which every rule reads the same give the same evaluation. -/
theorem evaluate_congr (alike : ∀ rule ∈ config.rules, ReadsAlike signal store store' rule) :
    evaluate config store signal = evaluate config store' signal :=
  evaluateRules_congr config.rules alike {}

/-- Stores that differ in their tables only read alike where the feature has the same rows. -/
theorem readsAlike_of_rows {rule : ScoringRule} {features features' : List FeatureRow}
    (same : ∀ maxStalenessSec target,
      featureTarget rule.feature signal.symbol maxStalenessSec = .ok target →
      rowsOf features target.featureRef target.symbol =
        rowsOf features' target.featureRef target.symbol) :
    ReadsAlike signal { store with features := features } { store with features := features' }
      rule := by
  refine ⟨?_, ?_, fun _ => rfl⟩
  · unfold resolve
    cases found : featureTarget rule.feature signal.symbol rule.maxStalenessSec with
    | error _ => rfl
    | ok target =>
        have read : tryDb { store with features := features } target =
            tryDb { store with features := features' } target := by
          simp only [tryDb, selectLatestFeature, same _ target found]
        simp only [bind, Except.bind, read]
  · unfold featureHistory
    cases rule.condition.requiredHistoryWindow with
    | none => rfl
    | some nSamples =>
        unfold resolveHistory
        cases found : featureTarget rule.feature signal.symbol none with
        | error _ => rfl
        | ok target =>
            simp only [bind, Except.bind, selectFeatureHistory, same _ target found]

end Reads

end Scalper.Scoring
