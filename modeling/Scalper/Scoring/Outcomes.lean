import Mathlib.Algebra.BigOperators.Group.List.Basic
import Scalper.Scoring.Evaluator

/-!
# How the rules of an evaluation end

A rule ends in one of several ways: its condition holds or does not, its condition or its feature
fails and the rule is skipped, or it rejects the signal and the rules behind it are not reached.
What the resolver reads for a rule can change from one rule to the next, and the database can fail,
so every rule comes with a backend of its own (`Asked`); `evaluate` is the loop in which all of them
are one store (`evaluate_eq`).

The first rule that aborts should decide an evaluation.  Where none does, the score should be the
sum of the weights of the rules that hold, and neither it nor the decision depend on the order of
the rules (`Scores`).  So it is as long as no value that an evaluation comes to is a text in the
place of a JSON value (`evaluate_scores_iff`): the snapshot raises on it, whatever the condition
would have made of it.  `jsonRow` is one.
-/

set_option autoImplicit false

namespace Scalper.Scoring

open Scalper.Lib

/-! ## What is read for a rule -/

/-- What the resolver reads while it works for one rule.  A key-value store that fails or holds
something else than a feature counts as a miss. -/
structure Backend where
  kv : String → Option (FeatureValue × ℕ)
  selectLatestFeature : String → String → Except EvaluationError (Option (FeatureValue × ℕ))
  selectFeatureHistory : String → String → ℕ → Except EvaluationError (List FeatureValue)
  now : ℕ

/-- A rule, and what is read for it. -/
structure Asked where
  rule : ScoringRule
  backend : Backend

/-- `FeatureResolver.resolve`. -/
def Backend.resolve (backend : Backend) (ruleFeature signalSymbol : String)
    (maxStalenessSec : Option ℤ) : Except EvaluationError ResolverResult := do
  let target ← lift (featureTarget ruleFeature signalSymbol maxStalenessSec)
  match backend.kv (target.featureRef ++ ":" ++ signalSymbol.toUpper) with
  | some (value, computedAt) =>
      return checkStaleness backend.now target.maxStalenessSec value computedAt
  | none =>
      match ← backend.selectLatestFeature target.featureRef target.symbol with
      | none => return .dataMissing target.featureRef
      | some (value, computedAt) =>
          return checkStaleness backend.now target.maxStalenessSec value computedAt

/-- `FeatureResolver.resolve_history`, if the condition wants a history. -/
def Backend.featureHistory (backend : Backend) (signal : SignalValidated) (rule : ScoringRule) :
    Except EvaluationError (List FeatureValue) :=
  match rule.condition.requiredHistoryWindow with
  | none => .ok []
  | some nSamples => do
      let target ← lift (featureTarget rule.feature signal.symbol none)
      backend.selectFeatureHistory target.featureRef target.symbol nSamples

/-- `_evaluate_rule`. -/
def Asked.evaluateRule (signal : SignalValidated) (asked : Asked) :
    Except EvaluationError RuleStep := do
  match ← asked.backend.resolve asked.rule.feature signal.symbol asked.rule.maxStalenessSec with
  | .dataMissing featureRef =>
      return withoutValue asked.rule (.dataMissing featureRef) .dataMissing .requiredFeatureMissing
  | .dataStale computedAt ageSec maxStalenessSec =>
      return withoutValue asked.rule (.dataStale computedAt ageSec maxStalenessSec) .dataStale
        .requiredFeatureStale
  | .ok value =>
      let resolvedRef ← lift (substituteTemplate signal.symbol.toList asked.rule.feature.toList)
      let fromTable := comesFromTable asked.backend.kv (String.ofList resolvedRef) signal.symbol
      let value ← serializeFeatureValue fromTable value
      let history ← asked.backend.featureHistory signal asked.rule
      return applyCondition asked.rule
        { signal := signal, featureRef := String.ofList resolvedRef, featureValue := value
          featureHistory := history }

/-- The loop of `evaluate` over the rules that are left. -/
def evaluateAsked (config : ScoringConfig) (signal : SignalValidated) :
    List Asked → Scored → Except EvaluationError ScoringResult
  | [], scored => .ok (scored.decide config)
  | asked :: later, scored => do
      match ← asked.evaluateRule signal with
      | .rejected reason ruleResult snapshot =>
          return (scored.note ruleResult snapshot).result config .reject (some reason)
      | .scored ruleResult snapshot =>
          evaluateAsked config signal later (scored.note ruleResult snapshot)

/-! ## One store for all rules -/

/-- A store is a backend that does not fail. -/
def FeatureStore.backend (store : FeatureStore) : Backend where
  kv := store.kv
  selectLatestFeature := fun featureRef symbol =>
    .ok ((selectLatestFeature store.features featureRef symbol).map fun row =>
      (row.toFeatureValue, row.computedAt))
  selectFeatureHistory := fun featureRef symbol nSamples =>
    .ok ((selectFeatureHistory store.features featureRef symbol nSamples).map
      FeatureRow.toFeatureValue)
  now := store.now

section Store

variable {config : ScoringConfig} {signal : SignalValidated} {store : FeatureStore}

theorem backend_resolve (ruleFeature signalSymbol : String) (maxStalenessSec : Option ℤ) :
    store.backend.resolve ruleFeature signalSymbol maxStalenessSec =
      lift (resolve store ruleFeature signalSymbol maxStalenessSec) := by
  rw [Backend.resolve, resolve]
  cases featureTarget ruleFeature signalSymbol maxStalenessSec with
  | error error => rfl
  | ok target =>
      simp only [lift, bind, Except.bind, FeatureStore.backend]
      cases store.kv (target.featureRef ++ ":" ++ signalSymbol.toUpper) with
      | some found => rfl
      | none =>
          simp only [tryDb]
          cases selectLatestFeature store.features target.featureRef target.symbol <;> rfl

theorem backend_featureHistory (rule : ScoringRule) :
    store.backend.featureHistory signal rule = lift (featureHistory store signal rule) := by
  rw [Backend.featureHistory, featureHistory]
  cases rule.condition.requiredHistoryWindow with
  | none => rfl
  | some nSamples =>
      dsimp only
      rw [resolveHistory]
      cases featureTarget rule.feature signal.symbol none <;> rfl

theorem backend_evaluateRule (rule : ScoringRule) :
    Asked.evaluateRule signal ⟨rule, store.backend⟩ = evaluateRule store signal rule := by
  rw [Asked.evaluateRule, evaluateRule, backend_resolve, backend_featureHistory]
  rfl

theorem evaluateRules_eq (rules : List ScoringRule) :
    ∀ scored : Scored, evaluateAsked config signal (rules.map (⟨·, store.backend⟩)) scored =
      evaluateRules config store signal rules scored := by
  induction rules with
  | nil => exact fun _ => rfl
  | cons rule rules ih =>
      intro scored
      rw [List.map_cons, evaluateAsked, evaluateRules, backend_evaluateRule]
      cases evaluateRule store signal rule with
      | error error => rfl
      | ok step =>
          cases step with
          | rejected reason ruleResult snapshot => rfl
          | scored ruleResult snapshot => exact ih _

/-- `evaluate` asks one store for all its rules. -/
theorem evaluate_eq (config : ScoringConfig) (store : FeatureStore) (signal : SignalValidated) :
    evaluateAsked config signal (config.rules.map (⟨·, store.backend⟩)) {} =
      evaluate config store signal :=
  evaluateRules_eq config.rules {}

end Store

/-! ## How a rule ends -/

/-- What a rule finds: no feature, one that is too old, a condition that raises, or its value. -/
inductive Ending where
  | missing
  | stale
  | raised
  | evaluated (outcome : Bool)
  deriving DecidableEq, Repr

/-- The row of an ending. -/
def Ending.outcome : Ending → RuleOutcome
  | .missing => .dataMissing
  | .stale => .dataStale
  | .raised => .errorSkipped
  | .evaluated outcome => .held outcome

namespace Asked

variable (signal : SignalValidated) (asked : Asked)

/-- The context of a rule whose feature has a value. -/
def context (value : FeatureValue) : Except EvaluationError RuleContext := do
  let resolvedRef ← lift (substituteTemplate signal.symbol.toList asked.rule.feature.toList)
  let history ← asked.backend.featureHistory signal asked.rule
  return { signal := signal, featureRef := String.ofList resolvedRef, featureValue := value
           featureHistory := history }

/-- What the resolver and the condition of a rule answer, whatever becomes of the snapshot. -/
def ending : Except EvaluationError Ending := do
  match ← asked.backend.resolve asked.rule.feature signal.symbol asked.rule.maxStalenessSec with
  | .dataMissing _ => return .missing
  | .dataStale _ _ _ => return .stale
  | .ok value =>
      let ctx ← asked.context signal value
      match asked.rule.condition.evaluate ctx with
      | .error _ => return .raised
      | .ok (outcome, _) => return .evaluated outcome

/-- The text that stands for the JSON value of a rule's feature, if its value is one that was read
from the table. -/
def jsonText : Option String :=
  match asked.backend.resolve asked.rule.feature signal.symbol asked.rule.maxStalenessSec,
      substituteTemplate signal.symbol.toList asked.rule.feature.toList with
  | .ok (.ok value), .ok resolvedRef =>
      if comesFromTable asked.backend.kv (String.ofList resolvedRef) signal.symbol then
        value.valueJson
      else none
  | _, _ => none

/-- Why a rule rejects the signal: it requires a feature that is missing or stale, or its condition
raises and it says so. -/
def abortReason : Option RejectReason :=
  match asked.ending signal with
  | .ok .missing => if asked.rule.required then some .requiredFeatureMissing else none
  | .ok .stale => if asked.rule.required then some .requiredFeatureStale else none
  | .ok .raised => if asked.rule.onError = .reject then some .ruleError else none
  | _ => none

/-- The evaluation goes on behind the rule. -/
def Passes : Prop := (∃ ending, asked.ending signal = .ok ending) ∧ asked.abortReason signal = none

/-- The condition of the rule evaluated to true. -/
def holds : Bool := asked.ending signal = .ok (.evaluated true)

/-- The row of a rule that passes. -/
structure IsResult (ruleResult : RuleResult) : Prop where
  name : ruleResult.name = asked.rule.name
  weight : ruleResult.weight = asked.rule.weight
  appliedWeight : ruleResult.appliedWeight = if asked.holds signal then asked.rule.weight else 0
  result : ∃ ending, asked.ending signal = .ok ending ∧ ruleResult.result = ending.outcome

end Asked

/-- The weights of the rules whose condition evaluated to true. -/
def heldWeight (signal : SignalValidated) (asked : List Asked) : ℚ :=
  ((asked.filter (Asked.holds signal)).map fun held => held.rule.weight).sum

section Endings

variable {config : ScoringConfig} {signal : SignalValidated} {asked : Asked}

/-- A JSON value that is still text makes the snapshot raise. -/
theorem evaluateRule_of_jsonText {text : String} (isText : asked.jsonText signal = some text) :
    asked.evaluateRule signal = .error (.jsonText text) := by
  rw [Asked.jsonText] at isText
  rw [Asked.evaluateRule]
  cases found : asked.backend.resolve asked.rule.feature signal.symbol
      asked.rule.maxStalenessSec with
  | error error => simp [found] at isText
  | ok result =>
      cases result with
      | dataMissing featureRef => simp [found] at isText
      | dataStale computedAt ageSec maxStalenessSec => simp [found] at isText
      | ok value =>
          cases resolved : substituteTemplate signal.symbol.toList asked.rule.feature.toList with
          | error error => simp [found, resolved] at isText
          | ok resolvedRef =>
              simp only [found, resolved, Option.ite_none_right_eq_some] at isText
              simp only [lift, bind, Except.bind, serializeFeatureValue, isText]

/-- Any other value goes into the snapshot, and the rule into its context. -/
theorem evaluateRule_of_decoded (decoded : asked.jsonText signal = none) :
    asked.evaluateRule signal =
      (do
        match ← asked.backend.resolve asked.rule.feature signal.symbol
            asked.rule.maxStalenessSec with
        | .dataMissing featureRef =>
            return withoutValue asked.rule (.dataMissing featureRef) .dataMissing
              .requiredFeatureMissing
        | .dataStale computedAt ageSec maxStalenessSec =>
            return withoutValue asked.rule (.dataStale computedAt ageSec maxStalenessSec)
              .dataStale .requiredFeatureStale
        | .ok value =>
            let ctx ← asked.context signal value
            return applyCondition asked.rule ctx) := by
  rw [Asked.jsonText] at decoded
  rw [Asked.evaluateRule]
  cases found : asked.backend.resolve asked.rule.feature signal.symbol
      asked.rule.maxStalenessSec with
  | error error => rfl
  | ok result =>
      cases result with
      | dataMissing featureRef => rfl
      | dataStale computedAt ageSec maxStalenessSec => rfl
      | ok value =>
          simp only [lift, bind, Except.bind, Asked.context]
          cases resolved : substituteTemplate signal.symbol.toList asked.rule.feature.toList with
          | error error => rfl
          | ok resolvedRef =>
              have kept : serializeFeatureValue (comesFromTable asked.backend.kv
                  (String.ofList resolvedRef) signal.symbol) value = .ok value := by
                simp only [found, resolved] at decoded
                unfold serializeFeatureValue
                split
                · next fromTable isText => simp [fromTable, isText] at decoded
                · rfl
              simp only [kept]
              cases asked.backend.featureHistory signal asked.rule <;> rfl

/-- How a rule is evaluated, by the way it ends. -/
theorem evaluateRule_cases (decoded : asked.jsonText signal = none) :
    (∃ error, asked.ending signal = .error error ∧ asked.evaluateRule signal = .error error) ∨
    (∃ result, asked.ending signal = .ok .missing ∧ asked.evaluateRule signal =
      .ok (withoutValue asked.rule result .dataMissing .requiredFeatureMissing)) ∨
    (∃ result, asked.ending signal = .ok .stale ∧ asked.evaluateRule signal =
      .ok (withoutValue asked.rule result .dataStale .requiredFeatureStale)) ∨
    (∃ ctx error, asked.ending signal = .ok .raised ∧
      asked.rule.condition.evaluate ctx = .error error ∧
      asked.evaluateRule signal = .ok (applyCondition asked.rule ctx)) ∨
    ∃ ctx outcome info, asked.ending signal = .ok (.evaluated outcome) ∧
      asked.rule.condition.evaluate ctx = .ok (outcome, info) ∧
      asked.evaluateRule signal = .ok (applyCondition asked.rule ctx) := by
  rw [evaluateRule_of_decoded decoded]
  unfold Asked.ending
  cases asked.backend.resolve asked.rule.feature signal.symbol asked.rule.maxStalenessSec with
  | error error => exact .inl ⟨error, rfl, rfl⟩
  | ok result =>
      cases result with
      | dataMissing featureRef => exact .inr (.inl ⟨_, rfl, rfl⟩)
      | dataStale computedAt ageSec maxStalenessSec => exact .inr (.inr (.inl ⟨_, rfl, rfl⟩))
      | ok value =>
          simp only [bind, Except.bind, pure, Except.pure]
          cases asked.context signal value with
          | error error => exact .inl ⟨error, rfl, rfl⟩
          | ok ctx =>
              dsimp only
              cases evaluated : asked.rule.condition.evaluate ctx with
              | error error => exact .inr (.inr (.inr (.inl ⟨ctx, error, rfl, evaluated, rfl⟩)))
              | ok answer =>
                  obtain ⟨outcome, info⟩ := answer
                  exact .inr (.inr (.inr (.inr ⟨ctx, outcome, info, rfl, evaluated, rfl⟩)))

theorem evaluateRule_of_error {error : EvaluationError} (decoded : asked.jsonText signal = none)
    (raised : asked.ending signal = .error error) : asked.evaluateRule signal = .error error := by
  obtain ⟨_, ends, evaluated⟩ | ⟨_, ends, -⟩ | ⟨_, ends, -⟩ | ⟨_, _, ends, -⟩ |
      ⟨_, _, _, ends, -⟩ := evaluateRule_cases decoded
  · obtain rfl := Except.error.inj (ends.symm.trans raised)
    exact evaluated
  all_goals
    rw [ends] at raised
    cases raised

/-- A rule that aborts rejects the signal and adds nothing. -/
theorem evaluateRule_of_abortReason {reason : RejectReason}
    (decoded : asked.jsonText signal = none) (aborts : asked.abortReason signal = some reason) :
    ∃ ruleResult snapshot, ruleResult.appliedWeight = 0 ∧
      asked.evaluateRule signal = .ok (.rejected reason ruleResult snapshot) := by
  unfold Asked.abortReason at aborts
  obtain ⟨_, ends, -⟩ | ⟨_, ends, evaluated⟩ | ⟨_, ends, evaluated⟩ |
    ⟨ctx, error, ends, raised, evaluated⟩ | ⟨_, _, _, ends, -⟩ := evaluateRule_cases decoded
  · simp [ends] at aborts
  · simp only [ends, Option.ite_none_right_eq_some, Option.some_inj] at aborts
    obtain ⟨required, rfl⟩ := aborts
    exact ⟨_, none, rfl, by rw [evaluated, withoutValue, if_pos required]⟩
  · simp only [ends, Option.ite_none_right_eq_some, Option.some_inj] at aborts
    obtain ⟨required, rfl⟩ := aborts
    exact ⟨_, none, rfl, by rw [evaluated, withoutValue, if_pos required]⟩
  · simp only [ends, Option.ite_none_right_eq_some, Option.some_inj] at aborts
    obtain ⟨rejects, rfl⟩ := aborts
    refine ⟨⟨asked.rule.name, asked.rule.weight, 0, .errorSkipped, some (.raised error)⟩,
      some (ctx.featureRef, ctx.featureValue), rfl, ?_⟩
    rw [evaluated, applyCondition, raised]
    exact congrArg Except.ok (if_pos rejects)
  · simp [ends] at aborts

/-- A rule that passes has its row, with its weight if it holds. -/
theorem evaluateRule_of_passes (decoded : asked.jsonText signal = none)
    (passes : asked.Passes signal) :
    ∃ ruleResult snapshot, asked.IsResult signal ruleResult ∧
      asked.evaluateRule signal = .ok (.scored ruleResult snapshot) := by
  obtain ⟨⟨ending, ends⟩, goesOn⟩ := passes
  unfold Asked.abortReason at goesOn
  obtain ⟨_, ends', -⟩ | ⟨_, ends', evaluated⟩ | ⟨_, ends', evaluated⟩ |
    ⟨ctx, error, ends', raised, evaluated⟩ | ⟨ctx, outcome, info, ends', held, evaluated⟩ :=
      evaluateRule_cases decoded
  · rw [ends] at ends'
    cases ends'
  · simp only [ends', ite_eq_right_iff, reduceCtorEq, imp_false] at goesOn
    refine ⟨_, none, ⟨rfl, rfl, ?_, _, ends', rfl⟩, by rw [evaluated, withoutValue, if_neg goesOn]⟩
    simp [Asked.holds, ends']
  · simp only [ends', ite_eq_right_iff, reduceCtorEq, imp_false] at goesOn
    refine ⟨_, none, ⟨rfl, rfl, ?_, _, ends', rfl⟩, by rw [evaluated, withoutValue, if_neg goesOn]⟩
    simp [Asked.holds, ends']
  · simp only [ends', ite_eq_right_iff, reduceCtorEq, imp_false] at goesOn
    refine ⟨⟨asked.rule.name, asked.rule.weight, 0, .errorSkipped, some (.raised error)⟩,
      some (ctx.featureRef, ctx.featureValue), ⟨rfl, rfl, ?_, _, ends', rfl⟩, ?_⟩
    · simp [Asked.holds, ends']
    · rw [evaluated, applyCondition, raised]
      exact congrArg Except.ok (if_neg goesOn)
  · refine ⟨⟨asked.rule.name, asked.rule.weight, if outcome then asked.rule.weight else 0,
      .held outcome, info.map .condition⟩, some (ctx.featureRef, ctx.featureValue),
      ⟨rfl, rfl, ?_, _, ends', rfl⟩, ?_⟩
    · simp [Asked.holds, ends']
    · rw [evaluated, applyCondition, held]

/-! ## How an evaluation ends -/

/-- No rule of the list has a text in the place of its value. -/
def Decoded (signal : SignalValidated) (rules : List Asked) : Prop :=
  ∀ asked ∈ rules, asked.jsonText signal = none

/-- The rules that pass leave a row each, and the weights of those that hold. -/
theorem evaluateAsked_append (config : ScoringConfig) {before : List Asked} :
    ∀ scored : Scored, Decoded signal before → (∀ earlier ∈ before, earlier.Passes signal) →
      ∃ ruleResults featureSnapshot, List.Forall₂ (Asked.IsResult signal) before ruleResults ∧
        ∀ later, evaluateAsked config signal (before ++ later) scored =
          evaluateAsked config signal later
            ⟨scored.ruleResults ++ ruleResults, featureSnapshot,
              scored.totalScore + heldWeight signal before⟩ := by
  induction before with
  | nil =>
      intro scored _ _
      refine ⟨[], scored.featureSnapshot, .nil, fun later => ?_⟩
      simp [heldWeight]
  | cons asked before ih =>
      intro scored decoded passes
      rw [Decoded, List.forall_mem_cons] at decoded
      rw [List.forall_mem_cons] at passes
      obtain ⟨ruleResult, snapshot, isResult, evaluated⟩ :=
        evaluateRule_of_passes decoded.1 passes.1
      obtain ⟨ruleResults, featureSnapshot, are, onward⟩ :=
        ih (scored.note ruleResult snapshot) decoded.2 passes.2
      refine ⟨ruleResult :: ruleResults, featureSnapshot, .cons isResult are, fun later => ?_⟩
      have step : evaluateAsked config signal (asked :: before ++ later) scored =
          evaluateAsked config signal (before ++ later) (scored.note ruleResult snapshot) := by
        rw [List.cons_append, evaluateAsked, evaluated]
        rfl
      have added : scored.totalScore + ruleResult.appliedWeight + heldWeight signal before =
          scored.totalScore + heldWeight signal (asked :: before) := by
        rw [isResult.appliedWeight, heldWeight, heldWeight, List.filter_cons]
        cases asked.holds signal <;> simp [add_assoc]
      rw [step, onward, Scored.note]
      dsimp only
      rw [added, List.append_assoc, List.singleton_append]

/-- All rules pass, or some first one does not. -/
theorem exists_stop (signal : SignalValidated) (rules : List Asked) :
    (∀ asked ∈ rules, asked.Passes signal) ∨ ∃ before stop after, rules = before ++ stop :: after ∧
      (∀ earlier ∈ before, earlier.Passes signal) ∧ ¬ stop.Passes signal := by
  classical
  induction rules with
  | nil => exact .inl fun _ none_ => absurd none_ List.not_mem_nil
  | cons asked rules ih =>
      by_cases passes : asked.Passes signal
      · obtain all | ⟨before, stop, after, rfl, earlier, stops⟩ := ih
        · exact .inl (List.forall_mem_cons.mpr ⟨passes, all⟩)
        · exact .inr ⟨asked :: before, stop, after, rfl,
            List.forall_mem_cons.mpr ⟨passes, earlier⟩, stops⟩
      · exact .inr ⟨[], asked, rules, rfl, fun _ none_ => absurd none_ List.not_mem_nil, passes⟩

/-- A rule whose evaluation raises makes the evaluation of all raise. -/
theorem evaluateAsked_raises (config : ScoringConfig) {before : List Asked} (after : List Asked)
    {stop : Asked} {error : EvaluationError} (decoded : Decoded signal before)
    (passes : ∀ earlier ∈ before, earlier.Passes signal)
    (raises : stop.evaluateRule signal = .error error) :
    evaluateAsked config signal (before ++ stop :: after) {} = .error error := by
  obtain ⟨ruleResults, featureSnapshot, -, onward⟩ :=
    evaluateAsked_append config {} decoded passes
  rw [onward, evaluateAsked, raises]
  rfl

/-- Where the lookups of a rule raise, nothing is returned. -/
theorem evaluateAsked_ne_ok (config : ScoringConfig) {before : List Asked} (after : List Asked)
    {stop : Asked} {error : EvaluationError} {result : ScoringResult}
    (raises : stop.ending signal = .error error) :
    ∀ scored : Scored, (∀ earlier ∈ before, earlier.Passes signal) →
      evaluateAsked config signal (before ++ stop :: after) scored ≠ .ok result := by
  induction before with
  | nil =>
      intro scored _ ends
      rw [List.nil_append, evaluateAsked] at ends
      cases isText : stop.jsonText signal with
      | some text =>
          rw [evaluateRule_of_jsonText isText] at ends
          cases ends
      | none =>
          rw [evaluateRule_of_error isText raises] at ends
          cases ends
  | cons asked before ih =>
      intro scored passes ends
      rw [List.forall_mem_cons] at passes
      rw [List.cons_append, evaluateAsked] at ends
      cases isText : asked.jsonText signal with
      | some text =>
          rw [evaluateRule_of_jsonText isText] at ends
          cases ends
      | none =>
          obtain ⟨ruleResult, snapshot, -, evaluated⟩ := evaluateRule_of_passes isText passes.1
          rw [evaluated] at ends
          exact ih _ passes.2 ends

/-- The rule that aborts ends the evaluation. -/
theorem evaluateAsked_aborts (config : ScoringConfig) {before : List Asked} (after : List Asked)
    {stop : Asked} {reason : RejectReason} (decoded : Decoded signal (before ++ [stop]))
    (passes : ∀ earlier ∈ before, earlier.Passes signal)
    (aborts : stop.abortReason signal = some reason) :
    ∃ result, evaluateAsked config signal (before ++ stop :: after) {} = .ok result ∧
      result.decision = .reject ∧ result.reason = some reason ∧
      result.totalScore = heldWeight signal before := by
  rw [Decoded, List.forall_mem_append, List.forall_mem_singleton] at decoded
  obtain ⟨ruleResults, featureSnapshot, -, onward⟩ :=
    evaluateAsked_append config {} decoded.1 passes
  obtain ⟨ruleResult, snapshot, nothing, evaluated⟩ := evaluateRule_of_abortReason decoded.2 aborts
  rw [onward, evaluateAsked, evaluated]
  refine ⟨_, rfl, rfl, rfl, ?_⟩
  simp [Scored.result, Scored.note, nothing]

end Endings

/-- The decision on a score, and its reason. -/
def ScoringConfig.verdict (config : ScoringConfig) (score : ℚ) : Decision × Option RejectReason :=
  match config.mode with
  | .passthrough => (.passthrough, none)
  | .active =>
      if config.triggerThreshold ≤ score then (.execute, none)
      else (.reject, some .scoreBelowThreshold)

/-- A rejection that did not wait for the score. -/
def ScoringResult.RejectedEarly (result : ScoringResult) (reason : RejectReason) : Prop :=
  result.decision = .reject ∧ result.reason = some reason ∧ reason ≠ .scoreBelowThreshold

section Evaluations

variable {config : ScoringConfig} {signal : SignalValidated} {rules : List Asked}

@[simp] theorem totalScore_decide (scored : Scored) :
    (scored.decide config).totalScore = scored.totalScore := by
  rw [Scored.decide]
  cases config.mode with
  | passthrough => rfl
  | active => dsimp only; split_ifs <;> rfl

@[simp] theorem ruleResults_decide (scored : Scored) :
    (scored.decide config).ruleResults = scored.ruleResults := by
  rw [Scored.decide]
  cases config.mode with
  | passthrough => rfl
  | active => dsimp only; split_ifs <;> rfl

theorem verdict_decide (config : ScoringConfig) (scored : Scored) :
    ((scored.decide config).decision, (scored.decide config).reason) =
      config.verdict scored.totalScore := by
  rw [Scored.decide, ScoringConfig.verdict]
  cases config.mode with
  | passthrough => rfl
  | active => split_ifs <;> rfl

/-- Where every rule passes, each has its row, and their weights decide. -/
theorem evaluateAsked_passes (config : ScoringConfig) (decoded : Decoded signal rules)
    (passes : ∀ asked ∈ rules, asked.Passes signal) :
    ∃ result, evaluateAsked config signal rules {} = .ok result ∧
      result.totalScore = heldWeight signal rules ∧
      (result.decision, result.reason) = config.verdict (heldWeight signal rules) ∧
      List.Forall₂ (Asked.IsResult signal) rules result.ruleResults := by
  obtain ⟨ruleResults, featureSnapshot, are, onward⟩ :=
    evaluateAsked_append config {} decoded passes
  have ends := onward []
  rw [List.append_nil, evaluateAsked] at ends
  refine ⟨_, ends, ?_, ?_, ?_⟩
  · rw [totalScore_decide, zero_add]
  · rw [verdict_decide, zero_add]
  · rwa [ruleResults_decide]

theorem verdict_reason {score : ℚ} {reason : RejectReason}
    (is : (config.verdict score).2 = some reason) : reason = .scoreBelowThreshold := by
  rw [ScoringConfig.verdict] at is
  cases mode : config.mode with
  | passthrough => simp [mode] at is
  | active =>
      rw [mode] at is
      dsimp only at is
      split_ifs at is
      exact (Option.some.inj is).symm

theorem abortReason_ne (asked : Asked) {reason : RejectReason}
    (aborts : asked.abortReason signal = some reason) : reason ≠ .scoreBelowThreshold := by
  unfold Asked.abortReason at aborts
  rintro rfl
  split at aborts <;> simp at aborts

theorem heldWeight_perm {permuted : List Asked} (perm : rules.Perm permuted) :
    heldWeight signal rules = heldWeight signal permuted :=
  ((perm.filter _).map _).sum_eq

theorem Asked.Passes.of_not {asked : Asked} (stops : ¬ asked.Passes signal) :
    (∃ error, asked.ending signal = .error error) ∨
      ∃ reason, asked.abortReason signal = some reason := by
  cases ends : asked.ending signal with
  | error error => exact .inl ⟨error, rfl⟩
  | ok ending =>
      refine .inr (Option.isSome_iff_exists.mp ?_)
      rw [Option.isSome_iff_ne_none]
      exact fun goesOn => stops ⟨⟨ending, ends⟩, goesOn⟩

end Evaluations

/-! ## What an evaluation should come to -/

/-- The rules an evaluation comes to: all of them where they pass, else those up to the first that
aborts.  Where a lookup raises before, there is no such list. -/
inductive Reaches (signal : SignalValidated) : List Asked → List Asked → Prop where
  | done : Reaches signal [] []
  | stop {asked : Asked} {later : List Asked} {reason : RejectReason}
      (aborts : asked.abortReason signal = some reason) : Reaches signal (asked :: later) [asked]
  | pass {asked : Asked} {later reached : List Asked} (passes : asked.Passes signal)
      (onward : Reaches signal later reached) : Reaches signal (asked :: later) (asked :: reached)

/-- What an evaluation should come to.  It rejects early exactly when a first rule requires a feature
that is missing or stale, or raises and says so, with its reason and the score of the rules before
it.  Else the score is the sum of the weights of the rules whose condition evaluated to true, the
mode and the threshold decide on it, every rule has its row in order, and in any other order the
rules have the same score and decision. -/
structure Scores (config : ScoringConfig) (signal : SignalValidated) (rules : List Asked) :
    Prop where
  early : ∀ reason score,
    (∃ result, evaluateAsked config signal rules {} = .ok result ∧
        result.RejectedEarly reason ∧ result.totalScore = score) ↔
      ∃ before stop after, rules = before ++ stop :: after ∧
        (∀ earlier ∈ before, earlier.Passes signal) ∧ stop.abortReason signal = some reason ∧
        score = heldWeight signal before
  scored : (∀ asked ∈ rules, asked.Passes signal) →
    ∃ result, evaluateAsked config signal rules {} = .ok result ∧
      result.totalScore = heldWeight signal rules ∧
      (result.decision, result.reason) = config.verdict (heldWeight signal rules) ∧
      List.Forall₂ (Asked.IsResult signal) rules result.ruleResults ∧
      ∀ permuted, rules.Perm permuted →
        ∃ result', evaluateAsked config signal permuted {} = .ok result' ∧
          result'.totalScore = result.totalScore ∧ result'.decision = result.decision ∧
          result'.reason = result.reason

section Reached

variable {config : ScoringConfig} {signal : SignalValidated} {rules reached : List Asked}

theorem reaches_of_passes (passes : ∀ asked ∈ rules, asked.Passes signal) :
    Reaches signal rules rules := by
  induction rules with
  | nil => exact .done
  | cons asked rules ih =>
      rw [List.forall_mem_cons] at passes
      exact .pass passes.1 (ih passes.2)

theorem reaches_of_aborts {before : List Asked} (after : List Asked) {stop : Asked}
    {reason : RejectReason} (passes : ∀ earlier ∈ before, earlier.Passes signal)
    (aborts : stop.abortReason signal = some reason) :
    Reaches signal (before ++ stop :: after) (before ++ [stop]) := by
  induction before with
  | nil => exact .stop aborts
  | cons asked before ih =>
      rw [List.forall_mem_cons] at passes
      exact .pass passes.1 (ih passes.2)

/-- Behind a rule whose lookups raise, nothing is reached. -/
theorem not_reaches_of_error {before : List Asked} (after : List Asked) {stop : Asked}
    {error : EvaluationError} (passes : ∀ earlier ∈ before, earlier.Passes signal)
    (raises : stop.ending signal = .error error) :
    ¬ Reaches signal (before ++ stop :: after) reached := by
  induction before generalizing reached with
  | nil =>
      intro reaches
      cases reaches with
      | stop aborts => simp [Asked.abortReason, raises] at aborts
      | pass passes' onward =>
          obtain ⟨ending, ends⟩ := passes'.1
          rw [raises] at ends
          cases ends
  | cons asked before ih =>
      rw [List.forall_mem_cons] at passes
      intro reaches
      cases reaches with
      | stop aborts =>
          rw [passes.1.2] at aborts
          cases aborts
      | pass passes' onward => exact ih passes.2 onward

/-- A rule that an evaluation gets over has no text in the place of its value. -/
theorem decoded_of_ok {asked : Asked} {later : List Asked} {scored : Scored}
    {result : ScoringResult}
    (ends : evaluateAsked config signal (asked :: later) scored = .ok result) :
    asked.jsonText signal = none := by
  cases isText : asked.jsonText signal with
  | none => rfl
  | some text =>
      rw [evaluateAsked, evaluateRule_of_jsonText isText] at ends
      cases ends

/-- An evaluation that returns came to decoded values only. -/
theorem Reaches.decoded (reaches : Reaches signal rules reached) {result : ScoringResult} :
    ∀ scored : Scored, evaluateAsked config signal rules scored = .ok result →
      Decoded signal reached := by
  induction reaches with
  | done => exact fun _ _ _ none_ => absurd none_ List.not_mem_nil
  | stop aborts =>
      intro scored ends
      rw [Decoded, List.forall_mem_singleton]
      exact decoded_of_ok ends
  | pass passes onward ih =>
      intro scored ends
      have first := decoded_of_ok ends
      obtain ⟨ruleResult, snapshot, -, evaluated⟩ := evaluateRule_of_passes first passes
      rw [evaluateAsked, evaluated] at ends
      exact List.forall_mem_cons.mpr ⟨first, ih _ ends⟩

/-- An early rejection is that of the first rule that does not pass. -/
theorem rejectedEarly_iff (decoded : ∀ reached, Reaches signal rules reached → Decoded signal reached)
    {reason : RejectReason} {score : ℚ} :
    (∃ result, evaluateAsked config signal rules {} = .ok result ∧
        result.RejectedEarly reason ∧ result.totalScore = score) ↔
      ∃ before stop after, rules = before ++ stop :: after ∧
        (∀ earlier ∈ before, earlier.Passes signal) ∧ stop.abortReason signal = some reason ∧
        score = heldWeight signal before := by
  constructor
  · rintro ⟨result, ends, ⟨-, reasonIs, early⟩, rfl⟩
    obtain passes | ⟨before, stop, after, rfl, passes, stops⟩ := exists_stop signal rules
    · obtain ⟨_, ends', -, verdict, -⟩ :=
        evaluateAsked_passes config (decoded _ (reaches_of_passes passes)) passes
      obtain rfl := Except.ok.inj (ends.symm.trans ends')
      rw [reasonIs] at verdict
      exact absurd (verdict_reason (congrArg Prod.snd verdict).symm) early
    · refine ⟨before, stop, after, rfl, passes, ?_⟩
      obtain ⟨error, raises⟩ | ⟨reason', aborts⟩ := Asked.Passes.of_not stops
      · exact absurd ends (evaluateAsked_ne_ok config after raises {} passes)
      · obtain ⟨_, ends', -, reasonIs', score⟩ := evaluateAsked_aborts config after
          (decoded _ (reaches_of_aborts after passes aborts)) passes aborts
        obtain rfl := Except.ok.inj (ends.symm.trans ends')
        obtain rfl := Option.some.inj (reasonIs.symm.trans reasonIs')
        exact ⟨aborts, score⟩
  · rintro ⟨before, stop, after, rfl, passes, aborts, rfl⟩
    obtain ⟨result, ends, decision, reasonIs, score⟩ := evaluateAsked_aborts config after
      (decoded _ (reaches_of_aborts after passes aborts)) passes aborts
    exact ⟨result, ends, ⟨decision, reasonIs, abortReason_ne stop aborts⟩, score⟩

end Reached

/-- **Scoring**: an evaluation comes to what it should exactly if no rule that it comes to has a text
in the place of its value. -/
theorem evaluate_scores_iff (config : ScoringConfig) (signal : SignalValidated)
    (rules : List Asked) :
    Scores config signal rules ↔
      ∀ reached, Reaches signal rules reached →
        ∀ asked ∈ reached, asked.jsonText signal = none := by
  constructor
  · intro scores reached reaches
    obtain passes | ⟨before, stop, after, rfl, passes, stops⟩ := exists_stop signal rules
    · obtain ⟨result, ends, -⟩ := scores.scored passes
      exact reaches.decoded {} ends
    · obtain ⟨error, raises⟩ | ⟨reason, aborts⟩ := Asked.Passes.of_not stops
      · exact absurd reaches (not_reaches_of_error after passes raises)
      · obtain ⟨result, ends, -⟩ := (scores.early reason _).mpr
          ⟨before, stop, after, rfl, passes, aborts, rfl⟩
        exact reaches.decoded {} ends
  · intro decoded
    refine ⟨fun reason score => rejectedEarly_iff decoded, fun passes => ?_⟩
    have all : Decoded signal rules := decoded _ (reaches_of_passes passes)
    obtain ⟨result, ends, score, verdict, rows⟩ := evaluateAsked_passes config all passes
    refine ⟨result, ends, score, verdict, rows, fun permuted perm => ?_⟩
    obtain ⟨result', ends', score', verdict', -⟩ := evaluateAsked_passes config
      (fun asked member => all asked (perm.mem_iff.mpr member))
      fun asked member => passes asked (perm.mem_iff.mpr member)
    rw [← heldWeight_perm perm] at score' verdict'
    obtain ⟨decision, reason⟩ := Prod.ext_iff.mp (verdict'.trans verdict.symm)
    exact ⟨result', ends', score'.trans score.symm, decision, reason⟩

/-! ## One rule -/

def sampleSignal : SignalValidated where
  source := "tv"
  idempotencyKey := "k1"
  receivedAt := 0
  symbol := "BTCUSDT"
  originalSymbol := "BTCUSDT.P"
  action := .long
  expiresAt := 60
  payload := ""

def sampleRef : String := "ind.btcusdt.15m.ema_20"

/-- A rule of weight two that holds whenever its feature is there. -/
def presentRule : ScoringRule where
  name := "present"
  weight := 2
  feature := sampleRef
  condition := ⟨fun _ => .ok (true, none), none⟩

/-- A backend that has every feature, computed now. -/
def everyFeature : Backend where
  kv := fun _ => some (⟨some 1, none, none⟩, 0)
  selectLatestFeature := fun _ _ => .ok none
  selectFeatureHistory := fun _ _ _ => .ok []
  now := 0

theorem substituteTemplate_sampleRef (symbol : List Char) :
    substituteTemplate symbol sampleRef.toList = .ok sampleRef.toList :=
  substituteTemplate_of_not_mem (by decide) symbol

theorem featureTarget_sampleRef (symbol : String) :
    featureTarget sampleRef symbol none = .ok ⟨sampleRef, "btcusdt", 1800⟩ := by
  have parsed : parseFeatureRef sampleRef.toList = .ok ("btcusdt", 900) := by decide
  simp only [featureTarget, substituteTemplate_sampleRef, bind, Except.bind, parsed]
  rfl

theorem context_presentRule (backend : Backend) (value : FeatureValue) :
    Asked.context sampleSignal ⟨presentRule, backend⟩ value =
      .ok ⟨sampleSignal, sampleRef, value, []⟩ := by
  rw [Asked.context]
  change (lift (substituteTemplate _ sampleRef.toList) >>= _) = _
  rw [substituteTemplate_sampleRef]
  rfl

/-- A table whose newest row of every feature is a JSON value, computed now. -/
def jsonRow : Backend where
  kv := fun _ => none
  selectLatestFeature := fun _ _ => .ok (some (⟨none, none, some "\x7b\x7d"⟩, 0))
  selectFeatureHistory := fun _ _ _ => .ok []
  now := 0

/-- The rule holds of a feature that is there, and the evaluation raises. -/
theorem jsonRow_raises :
    ¬ ∀ (config : ScoringConfig) (signal : SignalValidated) (rules : List Asked),
      Scores config signal rules := by
  intro claimed
  have found : jsonRow.resolve sampleRef "BTCUSDT" none =
      .ok (.ok ⟨none, none, some "\x7b\x7d"⟩) := by
    rw [Backend.resolve, featureTarget_sampleRef]
    rfl
  have ends : Asked.ending sampleSignal ⟨presentRule, jsonRow⟩ = .ok (.evaluated true) := by
    rw [Asked.ending]
    change (jsonRow.resolve sampleRef "BTCUSDT" none >>= _) = _
    rw [found]
    change (Asked.context _ _ _ >>= _) = _
    rw [context_presentRule]
    rfl
  have passes : ∀ asked ∈ [(⟨presentRule, jsonRow⟩ : Asked)], asked.Passes sampleSignal := by
    intro asked member
    obtain rfl := List.mem_singleton.mp member
    refine ⟨⟨_, ends⟩, ?_⟩
    rw [Asked.abortReason, ends]
  have isText : Asked.jsonText sampleSignal ⟨presentRule, jsonRow⟩ = some "\x7b\x7d" := by
    have named : substituteTemplate sampleSignal.symbol.toList presentRule.feature.toList =
        .ok sampleRef.toList := substituteTemplate_sampleRef _
    have answered : jsonRow.resolve presentRule.feature sampleSignal.symbol
        presentRule.maxStalenessSec = .ok (.ok ⟨none, none, some "\x7b\x7d"⟩) := found
    simp only [Asked.jsonText, answered, named]
    rfl
  obtain ⟨result, returned, -⟩ :=
    (claimed ⟨.active, 1, []⟩ sampleSignal [⟨presentRule, jsonRow⟩]).scored passes
  rw [decoded_of_ok returned] at isText
  cases isText

end Scalper.Scoring
