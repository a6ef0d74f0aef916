import Scalper.Scoring.NothingDropped
import Scalper.Scoring.Outcomes

/-!
# Optional rules

A rule that is not required and skips its errors fails open: without its feature, with an old one
or with a condition that raises, it counts nothing and the evaluation goes on.  That leaves what the
lookups themselves raise, which nothing catches (`Asked.Raises`).  The loader takes any text for a
feature, and one that is no reference, or has a template that is not supported, raises on every
signal; and so does a database that fails.

So an evaluation of optional rules raises what the first rule raises whose lookups do, and returns
where none do (`evaluate_optional`); what the snapshot makes of a JSON value that is still text is
left aside.  `optional_raises` has a configuration that loads and of which no evaluation returns,
and one of which none returns while the database is away.
-/

set_option autoImplicit false

namespace Scalper.Scoring

open Scalper.Lib

/-- What the lookups of a rule raise: the reference is refused, or one of the two queries fails that
are made for it. -/
inductive Asked.Raises (signal : SignalValidated) (asked : Asked) : EvaluationError → Prop where
  | refused {error : ResolverError}
      (refuses : featureTarget asked.rule.feature signal.symbol none = .error error) :
      Raises signal asked (.resolver error)
  | latest {target : FeatureTarget} {error : EvaluationError}
      (refers : featureTarget asked.rule.feature signal.symbol none = .ok target)
      (misses : asked.backend.kv (target.featureRef ++ ":" ++ signal.symbol.toUpper) = none)
      (fails : asked.backend.selectLatestFeature target.featureRef target.symbol = .error error) :
      Raises signal asked error
  | history {target : FeatureTarget} {value : FeatureValue} {nSamples : ℕ} {error : EvaluationError}
      (refers : featureTarget asked.rule.feature signal.symbol none = .ok target)
      (found : asked.backend.resolve asked.rule.feature signal.symbol asked.rule.maxStalenessSec =
        .ok (.ok value))
      (wanted : asked.rule.condition.requiredHistoryWindow = some nSamples)
      (fails : asked.backend.selectFeatureHistory target.featureRef target.symbol nSamples =
        .error error) :
      Raises signal asked error

/-- The rule is not required, and skips its errors. -/
def ScoringRule.IsOptional (rule : ScoringRule) : Prop :=
  rule.required = false ∧ rule.onError = .skip

/-- A rule of the loader as it is evaluated.  Weights are exact numbers: a finite weight is the
number it denotes. -/
structure ReadsRule (loaded : YamlLoader.ScoringRule Condition) (rule : ScoringRule) : Prop where
  name : rule.name = loaded.name
  weight : ∀ number, loaded.weight = .finite number → rule.weight = number.value
  feature : rule.feature = loaded.feature
  condition : rule.condition = loaded.condition
  onError : rule.onError = loaded.onError
  required : rule.required = loaded.required
  maxStalenessSec : rule.maxStalenessSec = loaded.maxStalenessSec

/-- The scoring section of the loader as it is evaluated. -/
structure ReadsConfig (loaded : YamlLoader.ScoringConfig Condition) (config : ScoringConfig) :
    Prop where
  mode : config.mode = loaded.mode
  triggerThreshold : ∀ number, loaded.triggerThreshold = .finite number →
    config.triggerThreshold = number.value
  rules : List.Forall₂ ReadsRule loaded.rules config.rules

section References

variable {feature symbol : String}

/-- Only the template and the form of a reference make a lookup raise. -/
theorem featureTarget_error {error : ResolverError}
    (refused : featureTarget feature symbol none = .error error) (maxStalenessSec : Option ℤ) :
    featureTarget feature symbol maxStalenessSec = .error error := by
  rw [featureTarget] at refused ⊢
  cases substituted : substituteTemplate symbol.toList feature.toList with
  | error error' =>
      rw [substituted] at refused
      exact refused
  | ok resolvedRef =>
      rw [substituted] at refused
      simp only [bind, Except.bind] at refused ⊢
      cases parsed : parseFeatureRef resolvedRef with
      | error error' =>
          rw [parsed] at refused
          exact refused
      | ok symbolAndSeconds =>
          rw [parsed] at refused
          cases refused

/-- The staleness a rule accepts is no part of what it looks up. -/
theorem featureTarget_ok {target : FeatureTarget}
    (refers : featureTarget feature symbol none = .ok target) (maxStalenessSec : Option ℤ) :
    substituteTemplate symbol.toList feature.toList = .ok target.featureRef.toList ∧
      ∃ target', featureTarget feature symbol maxStalenessSec = .ok target' ∧
        target'.featureRef = target.featureRef ∧ target'.symbol = target.symbol := by
  rw [featureTarget] at refers ⊢
  cases substituted : substituteTemplate symbol.toList feature.toList with
  | error error =>
      rw [substituted] at refers
      cases refers
  | ok resolvedRef =>
      rw [substituted] at refers
      simp only [bind, Except.bind] at refers ⊢
      cases parsed : parseFeatureRef resolvedRef with
      | error error =>
          rw [parsed] at refers
          cases refers
      | ok symbolAndSeconds =>
          rw [parsed] at refers
          obtain rfl := Except.ok.inj refers
          exact ⟨by rw [String.toList_ofList], _, rfl, rfl, rfl⟩

end References

section Endings

variable {signal : SignalValidated} {asked : Asked} {target : FeatureTarget}

theorem ending_of_refused {error : ResolverError}
    (refused : featureTarget asked.rule.feature signal.symbol none = .error error) :
    asked.ending signal = .error (.resolver error) := by
  rw [Asked.ending, Backend.resolve, featureTarget_error refused]
  rfl

/-- A lookup asks the database only where the key is not in the key-value store. -/
theorem resolve_eq_error_iff
    (refers : featureTarget asked.rule.feature signal.symbol none = .ok target)
    {error : EvaluationError} :
    asked.backend.resolve asked.rule.feature signal.symbol asked.rule.maxStalenessSec =
        .error error ↔
      asked.backend.kv (target.featureRef ++ ":" ++ signal.symbol.toUpper) = none ∧
        asked.backend.selectLatestFeature target.featureRef target.symbol = .error error := by
  obtain ⟨-, target', is, sameRef, sameSymbol⟩ :=
    featureTarget_ok refers asked.rule.maxStalenessSec
  rw [Backend.resolve, is, ← sameRef, ← sameSymbol]
  simp only [lift, bind, Except.bind]
  cases asked.backend.kv (target'.featureRef ++ ":" ++ signal.symbol.toUpper) with
  | some found => simp [pure, Except.pure]
  | none =>
      cases asked.backend.selectLatestFeature target'.featureRef target'.symbol with
      | error error' => simp
      | ok found => cases found <;> simp [pure, Except.pure]

/-- The context of a rule raises what the query of its history raises. -/
theorem context_eq_error_iff
    (refers : featureTarget asked.rule.feature signal.symbol none = .ok target)
    {value : FeatureValue} {error : EvaluationError} :
    asked.context signal value = .error error ↔
      ∃ nSamples, asked.rule.condition.requiredHistoryWindow = some nSamples ∧
        asked.backend.selectFeatureHistory target.featureRef target.symbol nSamples =
          .error error := by
  rw [Asked.context, Backend.featureHistory, (featureTarget_ok refers none).1]
  cases asked.rule.condition.requiredHistoryWindow with
  | none => simp [lift, bind, Except.bind, pure, Except.pure]
  | some nSamples =>
      simp only [lift, bind, Except.bind, refers, Option.some_inj, exists_eq_left']
      cases asked.backend.selectFeatureHistory target.featureRef target.symbol nSamples <;>
        simp [pure, Except.pure]

/-- A rule ends in an error exactly where its lookups raise it. -/
theorem ending_eq_error_iff {error : EvaluationError} :
    asked.ending signal = .error error ↔ asked.Raises signal error := by
  constructor
  · intro ends
    cases refers : featureTarget asked.rule.feature signal.symbol none with
    | error refused =>
        rw [ending_of_refused refers] at ends
        obtain rfl := Except.error.inj ends
        exact .refused refers
    | ok target =>
        rw [Asked.ending] at ends
        cases found : asked.backend.resolve asked.rule.feature signal.symbol
            asked.rule.maxStalenessSec with
        | error error' =>
            rw [found] at ends
            obtain rfl := Except.error.inj ends
            obtain ⟨misses, fails⟩ := (resolve_eq_error_iff refers).mp found
            exact .latest refers misses fails
        | ok result =>
            rw [found] at ends
            cases result with
            | dataMissing featureRef => cases ends
            | dataStale computedAt ageSec maxStalenessSec => cases ends
            | ok value =>
                simp only [bind, Except.bind] at ends
                cases read : asked.context signal value with
                | error error' =>
                    rw [read] at ends
                    obtain rfl := Except.error.inj ends
                    obtain ⟨nSamples, wanted, fails⟩ := (context_eq_error_iff refers).mp read
                    exact .history refers found wanted fails
                | ok ctx =>
                    rw [read] at ends
                    dsimp only at ends
                    split at ends <;> cases ends
  · intro raises
    cases raises with
    | refused refuses => exact ending_of_refused refuses
    | latest refers misses fails =>
        rw [Asked.ending, (resolve_eq_error_iff refers).mpr ⟨misses, fails⟩]
        rfl
    | history refers found wanted fails =>
        rw [Asked.ending, found]
        simp only [bind, Except.bind, (context_eq_error_iff refers).mpr ⟨_, wanted, fails⟩]

/-- An optional rule never aborts. -/
theorem ScoringRule.IsOptional.abortReason (isOptional : asked.rule.IsOptional) :
    asked.abortReason signal = none := by
  obtain ⟨required, onError⟩ := isOptional
  rw [Asked.abortReason]
  split <;> simp [required, onError]

/-- An optional rule passes unless its lookups raise. -/
theorem passes_iff (isOptional : asked.rule.IsOptional) :
    asked.Passes signal ↔ ∀ error, ¬ asked.Raises signal error := by
  rw [Asked.Passes, and_iff_left isOptional.abortReason]
  constructor
  · rintro ⟨ending, ends⟩ error raises
    rw [ending_eq_error_iff.mpr raises] at ends
    cases ends
  · intro quiet
    cases ends : asked.ending signal with
    | error error => exact absurd (ending_eq_error_iff.mp ends) (quiet error)
    | ok ending => exact ⟨ending, rfl⟩

end Endings

/-- What holds of the elements of one list holds of those of the other. -/
theorem forall_mem_iff_of_forall₂ {α β : Type*} {related : α → β → Prop} {P : α → Prop}
    {Q : β → Prop} (same : ∀ a b, related a b → (P a ↔ Q b)) {l : List α} {l' : List β}
    (all : List.Forall₂ related l l') : (∀ a ∈ l, P a) ↔ ∀ b ∈ l', Q b := by
  induction all with
  | nil => simp
  | cons first _ ih =>
      rw [List.forall_mem_cons, List.forall_mem_cons, ih, same _ _ first]

section Loaded

variable {loaded : YamlLoader.ScoringConfig Condition} {config : ScoringConfig}
  {signal : SignalValidated} {rules : List Asked}

/-- Every rule that is asked is one of the loader's, in order. -/
theorem forall₂_reads (reads : ReadsConfig loaded config)
    (asks : rules.map Asked.rule = config.rules) :
    List.Forall₂ (fun rule asked => ReadsRule rule asked.rule) loaded.rules rules := by
  rw [← List.forall₂_map_right_iff, asks]
  exact reads.rules

/-- Of optional rules, the first whose lookups raise ends the evaluation. -/
theorem evaluateAsked_error_iff (optional : ∀ asked ∈ rules, asked.rule.IsOptional)
    (decoded : Decoded signal rules) {error : EvaluationError} :
    evaluateAsked config signal rules {} = .error error ↔
      ∃ before stop after, rules = before ++ stop :: after ∧
        (∀ earlier ∈ before, ∀ error', ¬ earlier.Raises signal error') ∧
        stop.Raises signal error := by
  constructor
  · intro ends
    obtain passes | ⟨before, stop, after, rfl, passes, stops⟩ := exists_stop signal rules
    · obtain ⟨result, ends', -⟩ := evaluateAsked_passes config decoded passes
      rw [ends'] at ends
      cases ends
    · have stopOptional := optional stop (List.mem_append_right before List.mem_cons_self)
      have isDecoded := decoded stop (List.mem_append_right before List.mem_cons_self)
      refine ⟨before, stop, after, rfl, fun earlier member => ?_, ?_⟩
      · have listed := List.mem_append_left (stop :: after) member
        exact (passes_iff (optional earlier listed)).mp (passes earlier member)
      · obtain ⟨error', raises⟩ | ⟨reason, aborts⟩ := Asked.Passes.of_not stops
        · rw [evaluateAsked_raises config after
            (fun earlier member => decoded earlier (List.mem_append_left _ member)) passes
            (evaluateRule_of_error isDecoded raises)] at ends
          obtain rfl := Except.error.inj ends
          exact ending_eq_error_iff.mp raises
        · rw [stopOptional.abortReason] at aborts
          cases aborts
  · rintro ⟨before, stop, after, rfl, quiet, raises⟩
    have isDecoded := decoded stop (List.mem_append_right before List.mem_cons_self)
    refine evaluateAsked_raises config after
      (fun earlier member => decoded earlier (List.mem_append_left _ member))
      (fun earlier member => ?_) (evaluateRule_of_error isDecoded (ending_eq_error_iff.mpr raises))
    have listed := List.mem_append_left (stop :: after) member
    exact (passes_iff (optional earlier listed)).mpr (quiet earlier member)

end Loaded

/-- **Optional rules**: of every configuration whose rules are all optional and skip their errors, an
evaluation that comes to no JSON text raises what the first rule raises whose lookups do: a
reference that is refused, a query that fails.  Where none do, whatever is missing or stale and
whatever the conditions raise, it returns, with the score of the rules that hold and every rule's
row. -/
theorem evaluate_optional (loaded : YamlLoader.BotConfig Condition)
    (optional : ∀ rule ∈ loaded.scoring.rules, rule.required = false ∧ rule.onError = .skip)
    (config : ScoringConfig) (reads : ReadsConfig loaded.scoring config) (signal : SignalValidated)
    (rules : List Asked) (asks : rules.map Asked.rule = config.rules)
    (decoded : ∀ asked ∈ rules, asked.jsonText signal = none) :
    (∀ error, evaluateAsked config signal rules {} = .error error ↔
      ∃ before stop after, rules = before ++ stop :: after ∧
        (∀ earlier ∈ before, ∀ error', ¬ earlier.Raises signal error') ∧
        stop.Raises signal error) ∧
    ((∀ asked ∈ rules, ∀ error, ¬ asked.Raises signal error) →
      ∃ result, evaluateAsked config signal rules {} = .ok result ∧
        result.totalScore = heldWeight signal rules ∧
        List.Forall₂ (Asked.IsResult signal) rules result.ruleResults) := by
  have isOptional : ∀ asked ∈ rules, asked.rule.IsOptional :=
    (forall_mem_iff_of_forall₂ (fun rule asked read => by
      rw [ScoringRule.IsOptional, read.required, read.onError]) (forall₂_reads reads asks)).mp
        optional
  refine ⟨fun error => evaluateAsked_error_iff isOptional decoded, fun quiet => ?_⟩
  obtain ⟨result, ends, score, -, rows⟩ := evaluateAsked_passes config decoded
    fun asked member => (passes_iff (isOptional asked member)).mpr (quiet asked member)
  exact ⟨result, ends, score, rows⟩

/-! ## Two configurations -/

/-- A rule of the loader with an exact weight; one that is not finite counts nothing here. -/
def evaluatedRule (loaded : YamlLoader.ScoringRule Condition) : ScoringRule where
  name := loaded.name
  weight := match loaded.weight with
    | .finite number => number.value
    | _ => 0
  feature := loaded.feature
  condition := loaded.condition
  onError := loaded.onError
  required := loaded.required
  maxStalenessSec := loaded.maxStalenessSec

def evaluatedConfig (loaded : YamlLoader.ScoringConfig Condition) : ScoringConfig where
  mode := loaded.mode
  triggerThreshold := match loaded.triggerThreshold with
    | .finite number => number.value
    | _ => 0
  rules := loaded.rules.map evaluatedRule

/-- Every configuration of the loader can be evaluated. -/
theorem readsConfig_evaluatedConfig (loaded : YamlLoader.ScoringConfig Condition) :
    ReadsConfig loaded (evaluatedConfig loaded) where
  mode := rfl
  triggerThreshold := fun number finite => by simp [evaluatedConfig, finite]
  rules := by
    refine List.forall₂_map_right_iff.mpr (List.forall₂_same.mpr fun rule _ => ?_)
    exact ⟨rfl, fun number finite => by simp [evaluatedRule, finite], rfl, rfl, rfl, rfl, rfl⟩

/-- `gt`: the feature is a number above `value`. -/
def gtCondition (value : ℚ) : Condition where
  evaluate ctx :=
    match ctx.featureValue.valueNum with
    | some num => .ok (value < num, none)
    | none => .ok (false, some "type_mismatch")
  requiredHistoryWindow := none

def gtConditions : YamlLoader.ConditionParser Condition where
  extractFeature := YamlLoader.gtParser.extractFeature
  parseCondition spec := (YamlLoader.gtParser.parseCondition spec).map gtCondition

/-- What is asked of a rule of the document. -/
def ruleFields (config : YamlLoader.BotConfig Condition) : List (String × Bool × OnError) :=
  config.scoring.rules.map fun rule => (rule.feature, rule.required, rule.onError)

/-- The document loads, and its rules have these fields. -/
theorem exists_of_ruleFields {document : Yaml} {fields : List (String × Bool × OnError)}
    (loads : (YamlLoader.loadBotConfig YamlLoader.plainPydantic gtConditions document).toOption.map
      ruleFields = some fields) :
    ∃ loaded, YamlLoader.loadBotConfig YamlLoader.plainPydantic gtConditions document = .ok loaded ∧
      ruleFields loaded = fields := by
  cases found : YamlLoader.loadBotConfig YamlLoader.plainPydantic gtConditions document with
  | error error => simp [found, Except.toOption] at loads
  | ok loaded =>
      rw [found] at loads
      exact ⟨loaded, rfl, Option.some.inj loads⟩

/-- The rules of a configuration, all asked of one backend. -/
def askedAll (backend : Backend) (loaded : YamlLoader.BotConfig Condition) : List Asked :=
  (evaluatedConfig loaded.scoring).rules.map (⟨·, backend⟩)

theorem map_rule_askedAll (backend : Backend) (loaded : YamlLoader.BotConfig Condition) :
    (askedAll backend loaded).map Asked.rule = (evaluatedConfig loaded.scoring).rules := by
  simp [askedAll, Function.comp_def]

/-- The one rule of a configuration, if its lookups raise, makes the evaluation raise. -/
theorem evaluateAsked_singleton {backend : Backend} {loaded : YamlLoader.BotConfig Condition}
    {rule : YamlLoader.ScoringRule Condition} {error : EvaluationError}
    (alone : loaded.scoring.rules = [rule])
    (raises : Asked.Raises sampleSignal ⟨evaluatedRule rule, backend⟩ error)
    (decoded : Asked.jsonText sampleSignal ⟨evaluatedRule rule, backend⟩ = none) :
    evaluateAsked (evaluatedConfig loaded.scoring) sampleSignal (askedAll backend loaded) {} =
      .error error := by
  have asks : askedAll backend loaded = [⟨evaluatedRule rule, backend⟩] := by
    simp [askedAll, evaluatedConfig, alone]
  rw [asks]
  exact evaluateAsked_raises _ [] (fun _ none_ => absurd none_ List.not_mem_nil)
    (fun _ none_ => absurd none_ List.not_mem_nil)
    (evaluateRule_of_error decoded (ending_eq_error_iff.mpr raises))

theorem optional_of_ruleFields {loaded : YamlLoader.BotConfig Condition} {feature : String}
    (fields : ruleFields loaded = [(feature, false, .skip)]) :
    ∀ rule ∈ loaded.scoring.rules, rule.required = false ∧ rule.onError = .skip := by
  intro rule member
  have field := List.mem_map_of_mem
    (f := fun rule : YamlLoader.ScoringRule Condition =>
      (rule.feature, rule.required, rule.onError))
    member
  rw [← ruleFields, fields, List.mem_singleton] at field
  exact ⟨congrArg (fun field => field.2.1) field, congrArg (fun field => field.2.2) field⟩

/-- A rule whose feature is `ind.rsi` loads, and its evaluation raises. -/
theorem refusedReference :
    ∃ loaded, YamlLoader.loadBotConfig YamlLoader.plainPydantic gtConditions
        (.map (YamlLoader.paperBot [YamlLoader.gtRule] [])) = .ok loaded ∧
      (∀ rule ∈ loaded.scoring.rules, rule.required = false ∧ rule.onError = .skip) ∧
      ReadsConfig loaded.scoring (evaluatedConfig loaded.scoring) ∧
      evaluateAsked (evaluatedConfig loaded.scoring) sampleSignal (askedAll everyFeature loaded)
        {} = .error (.resolver (.malformedRef "ind.rsi")) := by
  obtain ⟨loaded, loads, fields⟩ : ∃ loaded, YamlLoader.loadBotConfig YamlLoader.plainPydantic
      gtConditions (.map (YamlLoader.paperBot [YamlLoader.gtRule] [])) = .ok loaded ∧
      ruleFields loaded = [("ind.rsi", false, .skip)] := exists_of_ruleFields (by decide +kernel)
  refine ⟨loaded, loads, optional_of_ruleFields fields, readsConfig_evaluatedConfig _, ?_⟩
  obtain ⟨rule, alone, named⟩ := List.map_eq_singleton_iff.mp fields
  have feature : rule.feature = "ind.rsi" := congrArg Prod.fst named
  have literal : substituteTemplate "BTCUSDT".toList "ind.rsi".toList = .ok "ind.rsi".toList :=
    substituteTemplate_of_not_mem (by decide) _
  have parsed : parseFeatureRef "ind.rsi".toList = .error (.malformedRef "ind.rsi") := by decide
  have refused : featureTarget (evaluatedRule rule).feature sampleSignal.symbol none =
      .error (.malformedRef "ind.rsi") := by
    change featureTarget rule.feature "BTCUSDT" none = _
    rw [feature, featureTarget, literal]
    simp only [bind, Except.bind, parsed]
  refine evaluateAsked_singleton alone (.refused refused) ?_
  rw [Asked.jsonText, Backend.resolve, featureTarget_error refused]
  rfl

/-- The same rule with a reference. -/
def gtRuleOfRef : Yaml :=
  .map (YamlLoader.keyed [("name", .str "momentum"), ("weight", .int 1),
    ("condition", .map (YamlLoader.keyed [("type", .str "gt"), ("feature", .str sampleRef),
      ("value", .int 50)]))])

/-- The document with that rule loads. -/
theorem exists_gtRuleOfRef :
    ∃ loaded, YamlLoader.loadBotConfig YamlLoader.plainPydantic gtConditions
        (.map (YamlLoader.paperBot [gtRuleOfRef] [])) = .ok loaded ∧
      ruleFields loaded = [(sampleRef, false, .skip)] :=
  exists_of_ruleFields (by decide +kernel)

/-- An empty bucket, and a database that has gone away. -/
def awayDatabase : Backend where
  kv := fun _ => none
  selectLatestFeature := fun _ _ => .error (.backend "connection is closed")
  selectFeatureHistory := fun _ _ _ => .error (.backend "connection is closed")
  now := 0

/-- A rule with a reference raises what the database raises. -/
theorem failingDatabase :
    ∃ loaded, YamlLoader.loadBotConfig YamlLoader.plainPydantic gtConditions
        (.map (YamlLoader.paperBot [gtRuleOfRef] [])) = .ok loaded ∧
      (∀ rule ∈ loaded.scoring.rules, rule.required = false ∧ rule.onError = .skip) ∧
      ReadsConfig loaded.scoring (evaluatedConfig loaded.scoring) ∧
      evaluateAsked (evaluatedConfig loaded.scoring) sampleSignal (askedAll awayDatabase loaded)
        {} = .error (.backend "connection is closed") := by
  obtain ⟨loaded, loads, fields⟩ := exists_gtRuleOfRef
  refine ⟨loaded, loads, optional_of_ruleFields fields, readsConfig_evaluatedConfig _, ?_⟩
  obtain ⟨rule, alone, named⟩ := List.map_eq_singleton_iff.mp fields
  have feature : rule.feature = sampleRef := congrArg Prod.fst named
  have refers : featureTarget (evaluatedRule rule).feature sampleSignal.symbol none =
      .ok ⟨sampleRef, "btcusdt", 1800⟩ := by
    change featureTarget rule.feature "BTCUSDT" none = _
    rw [feature, featureTarget_sampleRef]
  have asksDatabase : Asked.Raises sampleSignal ⟨evaluatedRule rule, awayDatabase⟩
      (.backend "connection is closed") := .latest refers rfl rfl
  refine evaluateAsked_singleton alone asksDatabase ?_
  have raised : awayDatabase.resolve (evaluatedRule rule).feature sampleSignal.symbol
      (evaluatedRule rule).maxStalenessSec = .error (.backend "connection is closed") :=
    (@resolve_eq_error_iff _ ⟨evaluatedRule rule, awayDatabase⟩ _ refers _).mpr ⟨rfl, rfl⟩
  simp only [Asked.jsonText, raised]

/-- Two configurations of optional rules that load, and evaluations of them that raise: one on a
reference that does not parse, the other on a database error. -/
theorem optional_raises :
    (∃ loaded, YamlLoader.loadBotConfig YamlLoader.plainPydantic gtConditions
        (.map (YamlLoader.paperBot [YamlLoader.gtRule] [])) = .ok loaded ∧
      (∀ rule ∈ loaded.scoring.rules, rule.required = false ∧ rule.onError = .skip) ∧
      ReadsConfig loaded.scoring (evaluatedConfig loaded.scoring) ∧
      evaluateAsked (evaluatedConfig loaded.scoring) sampleSignal (askedAll everyFeature loaded)
        {} = .error (.resolver (.malformedRef "ind.rsi"))) ∧
    ∃ loaded, YamlLoader.loadBotConfig YamlLoader.plainPydantic gtConditions
        (.map (YamlLoader.paperBot [gtRuleOfRef] [])) = .ok loaded ∧
      (∀ rule ∈ loaded.scoring.rules, rule.required = false ∧ rule.onError = .skip) ∧
      ReadsConfig loaded.scoring (evaluatedConfig loaded.scoring) ∧
      evaluateAsked (evaluatedConfig loaded.scoring) sampleSignal (askedAll awayDatabase loaded)
        {} = .error (.backend "connection is closed") :=
  ⟨refusedReference, failingDatabase⟩

theorem evaluate_optional_gtRuleOfRef :
    ∃ loaded, YamlLoader.loadBotConfig YamlLoader.plainPydantic gtConditions
        (.map (YamlLoader.paperBot [gtRuleOfRef] [])) = .ok loaded ∧
      ∃ result, evaluateAsked (evaluatedConfig loaded.scoring) sampleSignal
        (askedAll everyFeature loaded) {} = .ok result := by
  obtain ⟨loaded, loads, fields⟩ := exists_gtRuleOfRef
  obtain ⟨only, alone, named⟩ := List.map_eq_singleton_iff.mp fields
  have feature : only.feature = sampleRef := congrArg Prod.fst named
  have asks : askedAll everyFeature loaded = [⟨evaluatedRule only, everyFeature⟩] := by
    simp [askedAll, evaluatedConfig, alone]
  have refers : featureTarget (evaluatedRule only).feature sampleSignal.symbol none =
      .ok ⟨sampleRef, "btcusdt", 1800⟩ := by
    change featureTarget only.feature "BTCUSDT" none = _
    rw [feature, featureTarget_sampleRef]
  have decoded : ∀ asked ∈ askedAll everyFeature loaded, asked.jsonText sampleSignal = none := by
    intro asked member
    obtain rfl := List.mem_singleton.mp (asks ▸ member)
    rw [Asked.jsonText]
    split <;> rfl
  have quiet : ∀ asked ∈ askedAll everyFeature loaded, ∀ error,
      ¬ asked.Raises sampleSignal error := by
    intro asked member error raises
    obtain rfl := List.mem_singleton.mp (asks ▸ member)
    cases raises with
    | refused refuses =>
        rw [refers] at refuses
        cases refuses
    | latest _ misses _ => cases misses
    | history _ _ _ fails => cases fails
  obtain ⟨result, ends, -⟩ := (evaluate_optional loaded (optional_of_ruleFields fields) _
    (readsConfig_evaluatedConfig _) sampleSignal _ (map_rule_askedAll everyFeature loaded)
    decoded).2 quiet
  exact ⟨loaded, loads, result, ends⟩

end Scalper.Scoring
