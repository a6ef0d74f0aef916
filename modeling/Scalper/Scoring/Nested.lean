import Scalper.Scoring.Outcomes

/-!
# Conditions inside conditions

`packages/scoring/conditions`: series and plugin conditions are the leaves of trees of `and`, `or`,
`not` and `when_then_else`.  A leaf that wants a history says how long a one; the evaluator asks the
root of the tree, and a composite has no answer.  Inside a composite a series condition finds no
history and is false, whatever the stored values are, and a negation above it is true.

`nested_iff` says what is left of a tree: the value it should have, exactly where it is a leaf or
its leaves combine to the same value without their history.  `notRising` is a tree that does not.
-/

set_option autoImplicit false

namespace Scalper.Scoring

open Scalper.Lib

/-! ## Leaves -/

/-- The direction a condition leans to. -/
inductive Direction where
  | up
  | down
  deriving DecidableEq, Repr

/-- `_check_history_window`. -/
def checkHistoryWindow (ctx : RuleContext) (nSamples : ℕ) : Except String (List ℚ) :=
  if ctx.featureHistory = [] then .error "feature_history_missing"
  else if ctx.featureHistory.length < nSamples then .error "feature_history_too_short"
  else
    match (ctx.featureHistory.drop (ctx.featureHistory.length - nSamples)).mapM
        FeatureValue.valueNum with
    | none => .error "type_mismatch"
    | some values => .ok values

/-- The value of another feature in the context, which holds that of its own rule only. -/
def snapshotNum (ctx : RuleContext) (ref : String) : Except String ℚ :=
  if ref ≠ ctx.featureRef then .error "feature_missing"
  else
    match ctx.featureValue.valueNum with
    | none => .error "type_mismatch"
    | some value => .ok value

/-- A series condition, or a plugin with the rule it wraps. -/
inductive Leaf where
  | rising (nSamples : ℕ) (atLeast : 2 ≤ nSamples)
  | falling (nSamples : ℕ) (atLeast : 2 ≤ nSamples)
  | emaStack (first second third : String) (direction : Direction)
  | plugin (evaluate : RuleContext → Except String (Bool × Option String))
      (lookbackCandles : Option ℕ)

/-- What a condition answers on what it read: an error it reports is no exception. -/
def answer {α : Type} (read : Except String α) (test : α → Bool) :
    Except String (Bool × Option String) :=
  match read with
  | .error info => .ok (false, some info)
  | .ok values => .ok (test values, none)

/-- `evaluate` of a leaf. -/
def Leaf.evaluate (ctx : RuleContext) : Leaf → Except String (Bool × Option String)
  | .rising nSamples _ =>
      answer (checkHistoryWindow ctx nSamples) fun values => values.IsChain (· < ·)
  | .falling nSamples _ =>
      answer (checkHistoryWindow ctx nSamples) fun values => values.IsChain (· > ·)
  | .emaStack first second third .up =>
      answer ([first, second, third].mapM (snapshotNum ctx)) fun values => values.IsChain (· > ·)
  | .emaStack first second third .down =>
      answer ([first, second, third].mapM (snapshotNum ctx)) fun values => values.IsChain (· < ·)
  | .plugin evaluate _ => evaluate ctx

/-- `_required_history_window` of a leaf. -/
def Leaf.requiredHistoryWindow : Leaf → Option ℕ
  | .rising nSamples _ | .falling nSamples _ => some nSamples
  | .emaStack _ _ _ _ => none
  | .plugin _ lookbackCandles => lookbackCandles

/-! ## Trees -/

/-- `AndCondition`, `OrCondition`, `NotCondition` and `WhenThenElseCondition` over leaves; `and` and
`or` have one condition at least. -/
inductive ConditionTree where
  | leaf (condition : Leaf)
  | and (first : ConditionTree) (conditions : List ConditionTree)
  | or (first : ConditionTree) (conditions : List ConditionTree)
  | not (condition : ConditionTree)
  | whenThenElse (when then_ else_ : ConditionTree)

namespace ConditionTree

mutual

/-- `evaluate` of a tree: what a sub-condition reports is dropped, except by `when_then_else`. -/
def evaluate (ctx : RuleContext) : ConditionTree → Except String (Bool × Option String)
  | .leaf condition => condition.evaluate ctx
  | .and first conditions => do
      let (outcome, _) ← first.evaluate ctx
      if outcome then evaluateAnd ctx conditions else return (false, none)
  | .or first conditions => do
      let (outcome, _) ← first.evaluate ctx
      if outcome then return (true, none) else evaluateOr ctx conditions
  | .not condition => do
      let (outcome, _) ← condition.evaluate ctx
      return (!outcome, none)
  | .whenThenElse when then_ else_ => do
      let (outcome, _) ← when.evaluate ctx
      if outcome then then_.evaluate ctx else else_.evaluate ctx

/-- Every condition in turn, up to a false one. -/
def evaluateAnd (ctx : RuleContext) : List ConditionTree → Except String (Bool × Option String)
  | [] => .ok (true, none)
  | condition :: conditions => do
      let (outcome, _) ← condition.evaluate ctx
      if outcome then evaluateAnd ctx conditions else return (false, none)

/-- Every condition in turn, up to a true one. -/
def evaluateOr (ctx : RuleContext) : List ConditionTree → Except String (Bool × Option String)
  | [] => .ok (false, none)
  | condition :: conditions => do
      let (outcome, _) ← condition.evaluate ctx
      if outcome then return (true, none) else evaluateOr ctx conditions

end

/-- `_required_history_window`, which looks at the root. -/
def requiredHistoryWindow : ConditionTree → Option ℕ
  | .leaf condition => condition.requiredHistoryWindow
  | _ => none

def toCondition (tree : ConditionTree) : Condition where
  evaluate := fun ctx => tree.evaluate ctx
  requiredHistoryWindow := tree.requiredHistoryWindow

/-! ## What a tree means -/

mutual

/-- The boolean combination of values of the leaves. -/
def combine (values : Leaf → Bool) : ConditionTree → Bool
  | .leaf condition => values condition
  | .and first conditions => first.combine values && combineAll values conditions
  | .or first conditions => first.combine values || combineAny values conditions
  | .not condition => !condition.combine values
  | .whenThenElse when then_ else_ =>
      if when.combine values then then_.combine values else else_.combine values

/-- All conditions hold of these values. -/
def combineAll (values : Leaf → Bool) : List ConditionTree → Bool
  | [] => true
  | condition :: conditions => condition.combine values && combineAll values conditions

/-- A condition holds of these values. -/
def combineAny (values : Leaf → Bool) : List ConditionTree → Bool
  | [] => false
  | condition :: conditions => condition.combine values || combineAny values conditions

end

mutual

/-- The same of leaves that may have no value, of which no more are read than it takes. -/
def combine? (values : Leaf → Option Bool) : ConditionTree → Option Bool
  | .leaf condition => values condition
  | .and first conditions => do
      if ← first.combine? values then combineAll? values conditions else return false
  | .or first conditions => do
      if ← first.combine? values then return true else combineAny? values conditions
  | .not condition => do
      return !(← condition.combine? values)
  | .whenThenElse when then_ else_ => do
      if ← when.combine? values then then_.combine? values else else_.combine? values

def combineAll? (values : Leaf → Option Bool) : List ConditionTree → Option Bool
  | [] => some true
  | condition :: conditions => do
      if ← condition.combine? values then combineAll? values conditions else return false

def combineAny? (values : Leaf → Option Bool) : List ConditionTree → Option Bool
  | [] => some false
  | condition :: conditions => do
      if ← condition.combine? values then return true else combineAny? values conditions

end

mutual

/-- The leaves of a tree. -/
def leaves : ConditionTree → List Leaf
  | .leaf condition => [condition]
  | .and first conditions => first.leaves ++ leavesAll conditions
  | .or first conditions => first.leaves ++ leavesAll conditions
  | .not condition => condition.leaves
  | .whenThenElse when then_ else_ => when.leaves ++ then_.leaves ++ else_.leaves

def leavesAll : List ConditionTree → List Leaf
  | [] => []
  | condition :: conditions => condition.leaves ++ leavesAll conditions

end

/-- The tree is a leaf. -/
def IsLeaf : ConditionTree → Prop
  | .leaf _ => True
  | _ => False

end ConditionTree

/-- A leaf as the whole condition of a rule. -/
def Leaf.toCondition (leaf : Leaf) : Condition where
  evaluate := fun ctx => leaf.evaluate ctx
  requiredHistoryWindow := leaf.requiredHistoryWindow

/-- A leaf that is given no history. -/
def Leaf.withoutHistory (leaf : Leaf) : Condition where
  evaluate := fun ctx => leaf.evaluate ctx
  requiredHistoryWindow := none

/-- The rule with another condition. -/
def Asked.withCondition (asked : Asked) (condition : Condition) : Asked :=
  { asked with rule := { asked.rule with condition := condition } }

/-- The value of a condition as the whole condition of the rule, if the evaluation comes to it. -/
def Asked.value (signal : SignalValidated) (asked : Asked) (condition : Condition) : Option Bool :=
  match asked.jsonText signal, (asked.withCondition condition).ending signal with
  | none, .ok (.evaluated outcome) => some outcome
  | _, _ => none

/-- So it evaluates. -/
theorem evaluateRule_of_value {signal : SignalValidated} {asked : Asked} {condition : Condition}
    {outcome : Bool} (valued : asked.value signal condition = some outcome) :
    ∃ ruleResult snapshot, ruleResult.result = .held outcome ∧
      (asked.withCondition condition).evaluateRule signal = .ok (.scored ruleResult snapshot) := by
  unfold Asked.value at valued
  split at valued
  · next decoded ends =>
      obtain rfl := Option.some.inj valued
      have passes : (asked.withCondition condition).Passes signal :=
        ⟨⟨_, ends⟩, by rw [Asked.abortReason, ends]⟩
      obtain ⟨ruleResult, snapshot, isResult, evaluated⟩ :=
        @evaluateRule_of_passes _ (asked.withCondition condition) decoded passes
      obtain ⟨ending, ends', result⟩ := isResult.result
      obtain rfl := Except.ok.inj (ends.symm.trans ends')
      exact ⟨ruleResult, snapshot, result, evaluated⟩
  · cases valued

/-! ## Composites -/

/-- What a condition evaluates to, without what it reports. -/
def outcome? (answered : Except String (Bool × Option String)) : Option Bool :=
  answered.toOption.map Prod.fst

section Combine

variable {values? others? : Leaf → Option Bool} {values : Leaf → Bool} {ctx : RuleContext}

@[simp] theorem outcome?_ok (outcome : Bool) (info : Option String) :
    outcome? (.ok (outcome, info)) = some outcome := rfl

@[simp] theorem outcome?_error (error : String) : outcome? (.error error) = none := rfl

mutual

/-- A tree evaluates to the combination of what its leaves evaluate to. -/
theorem outcome?_evaluate (tree : ConditionTree) :
    outcome? (tree.evaluate ctx) = tree.combine? fun leaf => outcome? (leaf.evaluate ctx) := by
  cases tree with
  | leaf condition => rw [ConditionTree.evaluate, ConditionTree.combine?]
  | and first conditions =>
      rw [ConditionTree.evaluate, ConditionTree.combine?, ← outcome?_evaluate first,
        ← outcome?_evaluateAnd conditions]
      cases first.evaluate ctx with
      | error error => rfl
      | ok found => obtain ⟨_ | _, info⟩ := found <;> rfl
  | or first conditions =>
      rw [ConditionTree.evaluate, ConditionTree.combine?, ← outcome?_evaluate first,
        ← outcome?_evaluateOr conditions]
      cases first.evaluate ctx with
      | error error => rfl
      | ok found => obtain ⟨_ | _, info⟩ := found <;> rfl
  | not condition =>
      rw [ConditionTree.evaluate, ConditionTree.combine?, ← outcome?_evaluate condition]
      cases condition.evaluate ctx with
      | error error => rfl
      | ok found => rfl
  | whenThenElse when then_ else_ =>
      rw [ConditionTree.evaluate, ConditionTree.combine?, ← outcome?_evaluate when,
        ← outcome?_evaluate then_, ← outcome?_evaluate else_]
      cases when.evaluate ctx with
      | error error => rfl
      | ok found => obtain ⟨_ | _, info⟩ := found <;> rfl

theorem outcome?_evaluateAnd (conditions : List ConditionTree) :
    outcome? (ConditionTree.evaluateAnd ctx conditions) =
      ConditionTree.combineAll? (fun leaf => outcome? (leaf.evaluate ctx)) conditions := by
  cases conditions with
  | nil => rw [ConditionTree.evaluateAnd, ConditionTree.combineAll?, outcome?_ok]
  | cons condition conditions =>
      rw [ConditionTree.evaluateAnd, ConditionTree.combineAll?, ← outcome?_evaluate condition,
        ← outcome?_evaluateAnd conditions]
      cases condition.evaluate ctx with
      | error error => rfl
      | ok found => obtain ⟨_ | _, info⟩ := found <;> rfl

theorem outcome?_evaluateOr (conditions : List ConditionTree) :
    outcome? (ConditionTree.evaluateOr ctx conditions) =
      ConditionTree.combineAny? (fun leaf => outcome? (leaf.evaluate ctx)) conditions := by
  cases conditions with
  | nil => rw [ConditionTree.evaluateOr, ConditionTree.combineAny?, outcome?_ok]
  | cons condition conditions =>
      rw [ConditionTree.evaluateOr, ConditionTree.combineAny?, ← outcome?_evaluate condition,
        ← outcome?_evaluateOr conditions]
      cases condition.evaluate ctx with
      | error error => rfl
      | ok found => obtain ⟨_ | _, info⟩ := found <;> rfl

end

mutual

/-- Where nothing can be read, a tree has no value. -/
theorem combine?_none (tree : ConditionTree) : tree.combine? (fun _ => none) = none := by
  cases tree with
  | leaf condition => rw [ConditionTree.combine?]
  | and first conditions =>
      rw [ConditionTree.combine?, combine?_none first]
      rfl
  | or first conditions =>
      rw [ConditionTree.combine?, combine?_none first]
      rfl
  | not condition =>
      rw [ConditionTree.combine?, combine?_none condition]
      rfl
  | whenThenElse when then_ else_ =>
      rw [ConditionTree.combine?, combine?_none when]
      rfl

end

mutual

/-- Where every leaf has a value, the order of reading does not matter. -/
theorem combine?_some (tree : ConditionTree) :
    tree.combine? (fun leaf => some (values leaf)) = some (tree.combine values) := by
  cases tree with
  | leaf condition => rw [ConditionTree.combine?, ConditionTree.combine]
  | and first conditions =>
      rw [ConditionTree.combine?, ConditionTree.combine, combine?_some first,
        combineAll?_some conditions]
      cases first.combine values <;> rfl
  | or first conditions =>
      rw [ConditionTree.combine?, ConditionTree.combine, combine?_some first,
        combineAny?_some conditions]
      cases first.combine values <;> rfl
  | not condition =>
      rw [ConditionTree.combine?, ConditionTree.combine, combine?_some condition]
      rfl
  | whenThenElse when then_ else_ =>
      rw [ConditionTree.combine?, ConditionTree.combine, combine?_some when, combine?_some then_,
        combine?_some else_]
      cases when.combine values <;> rfl

theorem combineAll?_some (conditions : List ConditionTree) :
    ConditionTree.combineAll? (fun leaf => some (values leaf)) conditions =
      some (ConditionTree.combineAll values conditions) := by
  cases conditions with
  | nil => rw [ConditionTree.combineAll?, ConditionTree.combineAll]
  | cons condition conditions =>
      rw [ConditionTree.combineAll?, ConditionTree.combineAll, combine?_some condition,
        combineAll?_some conditions]
      cases condition.combine values <;> rfl

theorem combineAny?_some (conditions : List ConditionTree) :
    ConditionTree.combineAny? (fun leaf => some (values leaf)) conditions =
      some (ConditionTree.combineAny values conditions) := by
  cases conditions with
  | nil => rw [ConditionTree.combineAny?, ConditionTree.combineAny]
  | cons condition conditions =>
      rw [ConditionTree.combineAny?, ConditionTree.combineAny, combine?_some condition,
        combineAny?_some conditions]
      cases condition.combine values <;> rfl

end

mutual

/-- A tree reads nothing but its leaves. -/
theorem combine?_congr (tree : ConditionTree)
    (same : ∀ leaf ∈ tree.leaves, values? leaf = others? leaf) :
    tree.combine? values? = tree.combine? others? := by
  cases tree with
  | leaf condition =>
      rw [ConditionTree.combine?, ConditionTree.combine?]
      exact same condition (by simp [ConditionTree.leaves])
  | and first conditions =>
      rw [ConditionTree.leaves, List.forall_mem_append] at same
      rw [ConditionTree.combine?, ConditionTree.combine?, combine?_congr first same.1,
        combineAll?_congr conditions same.2]
  | or first conditions =>
      rw [ConditionTree.leaves, List.forall_mem_append] at same
      rw [ConditionTree.combine?, ConditionTree.combine?, combine?_congr first same.1,
        combineAny?_congr conditions same.2]
  | not condition =>
      rw [ConditionTree.leaves] at same
      rw [ConditionTree.combine?, ConditionTree.combine?, combine?_congr condition same]
  | whenThenElse when then_ else_ =>
      rw [ConditionTree.leaves, List.forall_mem_append, List.forall_mem_append] at same
      rw [ConditionTree.combine?, ConditionTree.combine?, combine?_congr when same.1.1,
        combine?_congr then_ same.1.2, combine?_congr else_ same.2]

theorem combineAll?_congr (conditions : List ConditionTree)
    (same : ∀ leaf ∈ ConditionTree.leavesAll conditions, values? leaf = others? leaf) :
    ConditionTree.combineAll? values? conditions =
      ConditionTree.combineAll? others? conditions := by
  cases conditions with
  | nil => rw [ConditionTree.combineAll?, ConditionTree.combineAll?]
  | cons condition conditions =>
      rw [ConditionTree.leavesAll, List.forall_mem_append] at same
      rw [ConditionTree.combineAll?, ConditionTree.combineAll?, combine?_congr condition same.1,
        combineAll?_congr conditions same.2]

theorem combineAny?_congr (conditions : List ConditionTree)
    (same : ∀ leaf ∈ ConditionTree.leavesAll conditions, values? leaf = others? leaf) :
    ConditionTree.combineAny? values? conditions =
      ConditionTree.combineAny? others? conditions := by
  cases conditions with
  | nil => rw [ConditionTree.combineAny?, ConditionTree.combineAny?]
  | cons condition conditions =>
      rw [ConditionTree.leavesAll, List.forall_mem_append] at same
      rw [ConditionTree.combineAny?, ConditionTree.combineAny?, combine?_congr condition same.1,
        combineAny?_congr conditions same.2]

end

end Combine

section Values

variable {signal : SignalValidated} {asked : Asked}

/-- The context of a condition that is given no history. -/
def Asked.bareContext (signal : SignalValidated) (asked : Asked) : Option RuleContext :=
  match asked.jsonText signal,
      asked.backend.resolve asked.rule.feature signal.symbol asked.rule.maxStalenessSec,
      substituteTemplate signal.symbol.toList asked.rule.feature.toList with
  | none, .ok (.ok value), .ok resolvedRef => some ⟨signal, String.ofList resolvedRef, value, []⟩
  | _, _, _ => none

theorem value_of_no_history {condition : Condition}
    (history : condition.requiredHistoryWindow = none) :
    asked.value signal condition =
      (asked.bareContext signal).bind fun ctx => outcome? (condition.evaluate ctx) := by
  simp only [Asked.value, Asked.ending, Asked.context, Asked.withCondition, Asked.bareContext,
    Backend.featureHistory, history]
  cases asked.jsonText signal with
  | some text => rfl
  | none =>
      cases asked.backend.resolve asked.rule.feature signal.symbol asked.rule.maxStalenessSec with
      | error error => rfl
      | ok result =>
          cases result with
          | dataMissing featureRef => rfl
          | dataStale computedAt ageSec maxStalenessSec => rfl
          | ok value =>
              cases substituteTemplate signal.symbol.toList asked.rule.feature.toList with
              | error error => rfl
              | ok resolvedRef =>
                  simp only [lift, bind, Except.bind, pure, Except.pure, Option.bind]
                  cases condition.evaluate ⟨signal, String.ofList resolvedRef, value, []⟩ <;> rfl

/-- A composite has the combination of the values its leaves have without their history. -/
theorem value_composite {tree : ConditionTree} (composite : ¬ tree.IsLeaf) :
    asked.value signal tree.toCondition =
      tree.combine? fun leaf => asked.value signal leaf.withoutHistory := by
  have history : tree.toCondition.requiredHistoryWindow = none := by
    cases tree with
    | leaf condition => exact absurd trivial composite
    | _ => rfl
  have bare : (fun leaf : Leaf => asked.value signal leaf.withoutHistory) =
      fun leaf => (asked.bareContext signal).bind fun ctx => outcome? (leaf.evaluate ctx) :=
    funext fun leaf => value_of_no_history rfl
  rw [value_of_no_history history, bare]
  cases asked.bareContext signal with
  | none => exact (combine?_none tree).symm
  | some ctx => exact outcome?_evaluate tree

/-- Where a condition has a value, the feature has one too. -/
theorem bareContext_isSome {condition : Condition} {outcome : Bool}
    (valued : asked.value signal condition = some outcome) :
    ∃ ctx, asked.bareContext signal = some ctx ∧ ctx.featureHistory = [] := by
  simp only [Asked.value, Asked.ending, Asked.context, Asked.withCondition] at valued
  unfold Asked.bareContext
  cases isText : asked.jsonText signal with
  | some text =>
      rw [isText] at valued
      cases valued
  | none =>
      rw [isText] at valued
      cases found : asked.backend.resolve asked.rule.feature signal.symbol
          asked.rule.maxStalenessSec with
      | error error =>
          rw [found] at valued
          cases valued
      | ok result =>
          rw [found] at valued
          cases result with
          | dataMissing featureRef => cases valued
          | dataStale computedAt ageSec maxStalenessSec => cases valued
          | ok value =>
              cases resolved : substituteTemplate signal.symbol.toList asked.rule.feature.toList with
              | error error =>
                  rw [resolved] at valued
                  cases valued
              | ok resolvedRef => exact ⟨_, rfl, rfl⟩

/-- A leaf of a composite: a series condition is false, a leaf that asks for no history keeps its
value, a plugin that asks for one is evaluated without it. -/
def Asked.readsAs (signal : SignalValidated) (asked : Asked) (values : Leaf → Bool) :
    Leaf → Option Bool
  | .rising _ _ | .falling _ _ => some false
  | .emaStack first second third direction => some (values (.emaStack first second third direction))
  | .plugin evaluate none => some (values (.plugin evaluate none))
  | .plugin evaluate (some _) => asked.value signal (Leaf.plugin evaluate none).toCondition

theorem value_withoutHistory {values : Leaf → Bool} {leaf : Leaf}
    (valued : asked.value signal leaf.toCondition = some (values leaf)) :
    asked.value signal leaf.withoutHistory = asked.readsAs signal values leaf := by
  obtain ⟨ctx, bare, none_⟩ := bareContext_isSome valued
  cases leaf with
  | rising nSamples atLeast | falling nSamples atLeast =>
      rw [value_of_no_history rfl, bare]
      simp [Leaf.withoutHistory, Leaf.evaluate, checkHistoryWindow, none_, answer, Asked.readsAs]
  | emaStack first second third direction => exact valued
  | plugin evaluate lookbackCandles =>
      cases lookbackCandles with
      | none => exact valued
      | some samples => rfl

/-- A composite of leaves that have values is their combination, each as it is read. -/
theorem value_tree {tree : ConditionTree} {values : Leaf → Bool} (composite : ¬ tree.IsLeaf)
    (valued : ∀ leaf ∈ tree.leaves, asked.value signal leaf.toCondition = some (values leaf)) :
    asked.value signal tree.toCondition = tree.combine? (asked.readsAs signal values) := by
  rw [value_composite composite]
  exact combine?_congr tree fun leaf isLeaf => value_withoutHistory (valued leaf isLeaf)

end Values

/-- **What a tree evaluates to**: where every leaf has a value as the whole condition of the rule,
the tree has their boolean combination exactly if it is a leaf, or if the combination stays the same
with every leaf as a composite reads it. -/
theorem nested_iff (signal : SignalValidated) (asked : Asked) (tree : ConditionTree)
    (values : Leaf → Bool)
    (valued : ∀ leaf ∈ tree.leaves, asked.value signal leaf.toCondition = some (values leaf)) :
    asked.value signal tree.toCondition = some (tree.combine values) ↔
      tree.IsLeaf ∨
        tree.combine? (asked.readsAs signal values) = some (tree.combine values) := by
  by_cases leaf : tree.IsLeaf
  · refine iff_of_true ?_ (.inl leaf)
    cases tree with
    | leaf condition =>
        have whole : (ConditionTree.leaf condition).toCondition = condition.toCondition := by
          simp only [ConditionTree.toCondition, Leaf.toCondition, ConditionTree.evaluate,
            ConditionTree.requiredHistoryWindow]
        rw [whole, ConditionTree.combine, valued condition (by simp [ConditionTree.leaves])]
    | _ => exact absurd leaf id
  · rw [or_iff_right leaf, value_tree leaf valued]

/-! ## A rising feature -/

/-- A feature that rose from one to two. -/
def roseToTwo : Backend where
  kv := fun _ => some (⟨some 2, none, none⟩, 0)
  selectLatestFeature := fun _ _ => .ok none
  selectFeatureHistory := fun _ _ _ => .ok [⟨some 1, none, none⟩, ⟨some 2, none, none⟩]
  now := 0

def risingTwo : Leaf := .rising 2 le_rfl

def askedOfRose : Asked := ⟨presentRule, roseToTwo⟩

theorem resolve_askedOfRose :
    roseToTwo.resolve sampleRef "BTCUSDT" none = .ok (.ok ⟨some 2, none, none⟩) := by
  rw [Backend.resolve, featureTarget_sampleRef]
  rfl

theorem value_risingTwo : askedOfRose.value sampleSignal risingTwo.toCondition = some true := by
  have found : askedOfRose.backend.resolve askedOfRose.rule.feature sampleSignal.symbol
      askedOfRose.rule.maxStalenessSec = .ok (.ok ⟨some 2, none, none⟩) := resolve_askedOfRose
  have literal : substituteTemplate sampleSignal.symbol.toList askedOfRose.rule.feature.toList =
      .ok sampleRef.toList := substituteTemplate_sampleRef _
  have history : askedOfRose.backend.featureHistory sampleSignal
      (askedOfRose.withCondition risingTwo.toCondition).rule =
        .ok [⟨some 1, none, none⟩, ⟨some 2, none, none⟩] := by
    change (lift (featureTarget sampleRef _ none) >>= fun _ => _) = _
    rw [featureTarget_sampleRef]
    rfl
  simp only [Asked.withCondition] at history
  have decoded : askedOfRose.jsonText sampleSignal = none := by
    simp only [Asked.jsonText, found, literal]
    rfl
  simp only [Asked.value, decoded, Asked.ending, Asked.context, Asked.withCondition, found, literal,
    history, lift, bind, Except.bind, pure, Except.pure]
  decide +kernel

/-- Its negation over the same history is true. -/
theorem value_notRising :
    askedOfRose.value sampleSignal (ConditionTree.not (.leaf risingTwo)).toCondition =
      some true := by
  have inner : askedOfRose.value sampleSignal risingTwo.withoutHistory = some false :=
    @value_withoutHistory _ _ (fun _ => true) _ value_risingTwo
  rw [value_composite id, ConditionTree.combine?, ConditionTree.combine?, inner]
  rfl

/-- The feature rose and so it did not not rise, but the rule that says so holds. -/
theorem notRising :
    ¬ ∀ (signal : SignalValidated) (asked : Asked) (tree : ConditionTree) (values : Leaf → Bool),
      (∀ leaf ∈ tree.leaves, asked.value signal leaf.toCondition = some (values leaf)) →
        asked.value signal tree.toCondition = some (tree.combine values) := by
  intro claimed
  have valued (leaf : Leaf) (isLeaf : leaf ∈ (ConditionTree.not (.leaf risingTwo)).leaves) :
      askedOfRose.value sampleSignal leaf.toCondition = some true := by
    obtain rfl : leaf = risingTwo := by simpa [ConditionTree.leaves] using isLeaf
    exact value_risingTwo
  have combined := claimed sampleSignal askedOfRose (.not (.leaf risingTwo)) (fun _ => true) valued
  rw [value_notRising] at combined
  cases combined

/-- A rule on the feature that rose. -/
theorem nested_iff_risingTwo :
    askedOfRose.value sampleSignal (ConditionTree.leaf risingTwo).toCondition = some true := by
  have valued (leaf : Leaf) (isLeaf : leaf ∈ (ConditionTree.leaf risingTwo).leaves) :
      askedOfRose.value sampleSignal leaf.toCondition = some true := by
    obtain rfl : leaf = risingTwo := by simpa [ConditionTree.leaves] using isLeaf
    exact value_risingTwo
  exact (nested_iff sampleSignal askedOfRose (.leaf risingTwo) (fun _ => true) valued).mpr
    (.inl trivial)

end Scalper.Scoring
