import Scalper.Strategy.Consumer

/-!
# One outcome per signal

`_handle` of `services/strategy_engine/app/consumer.py` with everything that can go wrong in it: the
payload may be invalid, a gate or a lookup may raise, the evaluation and the insert are tried and
given up when they fail, and a publication is tried and its failure logged.  What is raised and not
caught leaves the handler.  A handling is kept as what the handler did, in order, and what it
raised, if anything (`Handling`).

Behind its checks the handler inserts the row of the evaluation and publishes one of an order
request and a rejection, by the decision in that row (`handleEnvelope_publishes_once`).  Where
nothing is raised it publishes what `handleSignal` says (`attempts_handleEnvelope`).
-/

set_option autoImplicit false

namespace Scalper.Strategy

open Scalper.Exchange Scalper.Execution Scalper.Scoring Scalper.Shadow
open Scalper.Bus (Subject MessageEnvelope Publication)

/-! ## What can be raised -/

/-- What a step of the handler raises. -/
inductive Fault where
  | postgres
  | os
  | timeout
  | publish
  | notConnected
  | other (error : String)
  | cancelled
  deriving DecidableEq, Repr

/-- `except Exception`: all but the cancellation of the task. -/
def Fault.isException (fault : Fault) : Bool :=
  fault ≠ .cancelled

/-- `except (PublishError, NotConnectedError)`. -/
def Fault.isPublishFailure (fault : Fault) : Bool :=
  fault = .publish ∨ fault = .notConnected

/-- `except (asyncpg.PostgresError, OSError, TimeoutError)`. -/
def Fault.isDatabaseFailure (fault : Fault) : Bool :=
  fault = .postgres ∨ fault = .os ∨ fault = .timeout

/-! ## What the handler does -/

/-- The log line of an outcome. -/
inductive LogEvent where
  | signalValidatedValidationFailed
  | signalExpired
  | signalOutsideUniverse
  | signalOutsideSourceFilter
  | closeActionUnsupportedV1
  | signalBlocked (gate : Gate)
  | signalIdUnresolved
  | scoringEvaluatorCrashed
  | scoringEvaluationsInsertFailed
  | ordersRequestPublishFailed
  | signalsRejectedPublishFailed
  | shadowRejectedResolveVirtualEntryFailed
  | shadowRejectedStartPublishFailed
  deriving DecidableEq, Repr

/-- A row of `scoring_evaluations`. -/
structure ScoringEvaluationRow where
  botId : String
  signalId : ℕ
  evaluatedAt : ℕ
  triggerThreshold : ℚ
  totalScore : ℚ
  decision : Decision
  configVersion : ℕ
  ruleResults : List RuleResult
  featureSnapshot : List (String × FeatureValue)
  correlationId : ℕ
  deriving DecidableEq, Repr

/-- The actions of the handler: a line in a log, the row it inserted, and a call of `bus.publish`,
whatever came of it. -/
inductive HandlerAction where
  | logged (event : LogEvent)
  | inserted (row : ScoringEvaluationRow)
  | attempted (publication : Publication Payload)

/-- What an invocation did, in order, and what it raised. -/
structure Handling where
  actions : List HandlerAction := []
  raised : Option Fault := none

namespace Handling

def log (event : LogEvent) : Handling :=
  { actions := [.logged event] }

def raise (fault : Fault) : Handling :=
  { raised := some fault }

/-- The second part runs unless the first raises. -/
def andThen (first second : Handling) : Handling :=
  match first.raised with
  | some _ => first
  | none => { actions := first.actions ++ second.actions, raised := second.raised }

/-- `except Exception as exc`: the failure is logged and the handler returns. -/
def giveUp (fault : Fault) (event : LogEvent) : Handling :=
  if fault.isException then log event else raise fault

/-- The calls of `bus.publish`. -/
def attempts (handling : Handling) : List (Publication Payload) :=
  handling.actions.filterMap fun
    | .attempted publication => some publication
    | _ => none

end Handling

/-- What the gates, the tables, the evaluation and the bus answer in one invocation; each may raise
instead.  A gate answers whether it holds the signal back. -/
structure HandlerAnswers where
  gate : Gate → Except Fault Bool
  signalId : String → ℕ → Except Fault (Option ℕ)
  evaluation : Except Fault ScoringResult
  insert : ScoringEvaluationRow → Except Fault Unit
  latestClose : String → Except Fault (Option ℚ)
  publish : Publication Payload → Except Fault Unit

section Handle

variable {π : Type} (config : BotConfig) (configVersion maxSignalAgeSeconds : ℕ)
  (modelValidate : π → Option SignalValidated) (answers : HandlerAnswers)
  (now publishedAt : ℕ) (envelope : MessageEnvelope π)

/-- The try block around each publication. -/
def tryPublish (event : LogEvent) (publication : Publication Payload) : Handling :=
  match answers.publish publication with
  | .ok () => { actions := [.attempted publication] }
  | .error fault =>
      if fault.isPublishFailure then { actions := [.attempted publication, .logged event] }
      else { actions := [.attempted publication], raised := some fault }

/-- `_publish_order_request`. -/
def publishOrderRequest (signal : SignalValidated) (signalId correlationId : ℕ) : Handling :=
  tryPublish answers .ordersRequestPublishFailed
    (subjectForOrdersRequest config.botId,
      ⟨correlationId, publishedAt, .orderRequest (config.orderRequest signal signalId)⟩)

/-- `_publish_signal_rejected`. -/
def publishSignalRejected (signal : SignalValidated) (signalId correlationId : ℕ)
    (result : ScoringResult) : Handling :=
  tryPublish answers .signalsRejectedPublishFailed
    (subjectForSignalsRejected config.botId,
      ⟨correlationId, publishedAt, .signalRejected (signalRejected signal signalId result now)⟩)

/-- `_resolve_virtual_entry`.  The price it finds is not kept: it is part of the start of the
observation. -/
def resolveVirtualEntry (symbol : String) : Handling :=
  match answers.latestClose symbol with
  | .ok _ => {}
  | .error fault =>
      if fault.isDatabaseFailure then .log .shadowRejectedResolveVirtualEntryFailed
      else .raise fault

/-- `_publish_shadow_rejected_start`. -/
def publishShadowRejectedStart (signal : SignalValidated) (signalId correlationId : ℕ) :
    Handling :=
  tryPublish answers .shadowRejectedStartPublishFailed
    (subjectForShadowRejectedStart config.botId,
      ⟨correlationId, publishedAt, .shadowRejectedStart signalId signal⟩)

/-- Steps 3e to 3g: the decision is dispatched. -/
def dispatchResult (signal : SignalValidated) (signalId correlationId : ℕ) (result : ScoringResult) :
    Handling :=
  match result.decision with
  | .execute | .passthrough =>
      publishOrderRequest config answers publishedAt signal signalId correlationId
  | .reject =>
      (publishSignalRejected config answers now publishedAt signal signalId correlationId
          result).andThen
        ((resolveVirtualEntry answers signal.symbol).andThen
          (publishShadowRejectedStart config answers publishedAt signal signalId correlationId))

/-- The row `insert_scoring_evaluation` is given. -/
def scoringEvaluationRow (signalId correlationId : ℕ) (result : ScoringResult) :
    ScoringEvaluationRow where
  botId := config.botId
  signalId := signalId
  evaluatedAt := now
  triggerThreshold := result.threshold
  totalScore := result.totalScore
  decision := result.decision
  configVersion := configVersion
  ruleResults := result.ruleResults
  featureSnapshot := result.featureSnapshot
  correlationId := correlationId

/-- Steps 3a to 3b' and the refusal of `CLOSE`: why the signal is skipped. -/
def screen (signal : SignalValidated) : Option LogEvent :=
  if signal.expiresAt < now then some .signalExpired
  else if signal.symbol ∉ config.symbols then some .signalOutsideUniverse
  else if config.sourceFilter.any fun sources => signal.source ∉ sources then
    some .signalOutsideSourceFilter
  else if signal.action = .close then some .closeActionUnsupportedV1
  else none

/-- The gates in the order of the handler. -/
def gates : List Gate :=
  [.oppositeSide, .cooldown, .concurrentCaps, .dailyLossLimit, .maxDrawdown]

/-- The gates are asked one after the other, up to the first that holds the signal back. -/
def askGates : List Gate → Except Fault (Option Gate)
  | [] => .ok none
  | gate :: later =>
      match answers.gate gate with
      | .error fault => .error fault
      | .ok true => .ok (some gate)
      | .ok false => askGates later

/-- The oldest receipt of a signal's row that step 3c accepts. -/
def receivedAtLowerBound : ℕ :=
  now - maxSignalAgeSeconds * ticksPerSecond

/-- `_handle`. -/
def handleEnvelope : Handling :=
  match modelValidate envelope.payload with
  | none => .log .signalValidatedValidationFailed
  | some signal =>
      match screen config now signal with
      | some event => .log event
      | none =>
          match askGates answers gates with
          | .error fault => .raise fault
          | .ok (some gate) => .log (.signalBlocked gate)
          | .ok none =>
              match answers.signalId signal.idempotencyKey
                  (receivedAtLowerBound maxSignalAgeSeconds now) with
              | .error fault => .raise fault
              | .ok none => .log .signalIdUnresolved
              | .ok (some signalId) =>
                  match answers.evaluation with
                  | .error fault => .giveUp fault .scoringEvaluatorCrashed
                  | .ok result =>
                      let row := scoringEvaluationRow config configVersion now signalId
                        envelope.correlationId result
                      match answers.insert row with
                      | .error fault => .giveUp fault .scoringEvaluationsInsertFailed
                      | .ok () =>
                          Handling.andThen { actions := [.inserted row] }
                            (dispatchResult config answers now publishedAt signal signalId
                              envelope.correlationId result)

end Handle

/-! ## What a signal has to pass -/

def HandlerAction.isOrderRequest : HandlerAction → Bool
  | .attempted (_, ⟨_, _, .orderRequest _⟩) => true
  | _ => false

def HandlerAction.isSignalRejected : HandlerAction → Bool
  | .attempted (_, ⟨_, _, .signalRejected _⟩) => true
  | _ => false

/-- The attempts that tell the bus what became of the signal. -/
def HandlerAction.isOutcome (action : HandlerAction) : Bool :=
  action.isOrderRequest || action.isSignalRejected

/-- The envelope holds a signal that no check, gate or lookup of the handler turns away, and its
evaluation comes to a result. -/
structure Accepted {π : Type} (config : BotConfig) (maxSignalAgeSeconds : ℕ)
    (modelValidate : π → Option SignalValidated) (answers : HandlerAnswers) (now : ℕ)
    (envelope : MessageEnvelope π) (signal : SignalValidated) (signalId : ℕ)
    (result : ScoringResult) : Prop where
  valid : modelValidate envelope.payload = some signal
  unexpired : now ≤ signal.expiresAt
  inUniverse : signal.symbol ∈ config.symbols
  inSourceFilter : ∀ sources, config.sourceFilter = some sources → signal.source ∈ sources
  notClose : signal.action ≠ .close
  passed : ∀ gate, answers.gate gate = .ok false
  resolved : answers.signalId signal.idempotencyKey
    (receivedAtLowerBound maxSignalAgeSeconds now) = .ok (some signalId)
  evaluated : answers.evaluation = .ok result

/-- The signal is accepted, and the row of its evaluation is inserted. -/
structure Recorded {π : Type} (config : BotConfig) (configVersion maxSignalAgeSeconds : ℕ)
    (modelValidate : π → Option SignalValidated) (answers : HandlerAnswers) (now : ℕ)
    (envelope : MessageEnvelope π) (signal : SignalValidated) (signalId : ℕ)
    (result : ScoringResult) : Prop extends
    Accepted config maxSignalAgeSeconds modelValidate answers now envelope signal signalId
      result where
  inserted : answers.insert (scoringEvaluationRow config configVersion now signalId
    envelope.correlationId result) = .ok ()

theorem screen_eq_none_iff {config : BotConfig} {now : ℕ} {signal : SignalValidated} :
    screen config now signal = none ↔
      now ≤ signal.expiresAt ∧ signal.symbol ∈ config.symbols ∧
        (∀ sources, config.sourceFilter = some sources → signal.source ∈ sources) ∧
        signal.action ≠ .close := by
  have filtered : config.sourceFilter.any (fun sources => signal.source ∉ sources) = true ↔
      ¬∀ sources, config.sourceFilter = some sources → signal.source ∈ sources := by
    cases config.sourceFilter with
    | none => simp
    | some sources => simp
  unfold screen
  split_ifs with expired inUniverse unlisted closes
  · exact iff_of_false id fun passed => absurd expired (not_lt.mpr passed.1)
  · exact iff_of_false id fun passed => filtered.mp unlisted passed.2.2.1
  · exact iff_of_false id fun passed => passed.2.2.2 closes
  · exact iff_of_true rfl ⟨not_lt.mp expired, inUniverse,
      not_not.mp fun missed => unlisted (filtered.mpr missed), closes⟩
  · exact iff_of_false id fun passed => inUniverse passed.2.1

theorem askGates_eq_ok_none_iff {answers : HandlerAnswers} (asked : List Gate) :
    askGates answers asked = .ok none ↔ ∀ gate ∈ asked, answers.gate gate = .ok false := by
  induction asked with
  | nil => simp [askGates]
  | cons gate later ih =>
      rw [List.forall_mem_cons, ← ih, askGates]
      cases answers.gate gate with
      | error fault => simp
      | ok blocked => cases blocked <;> simp

theorem mem_gates (gate : Gate) : gate ∈ gates := by
  cases gate <;> decide

/-! ## The parts of a handling -/

section Parts

variable {answers : HandlerAnswers} {acts : HandlerAction → Bool}

/-- A publication is tried once, and then at most a line is logged. -/
theorem countP_tryPublish (silent : ∀ event, acts (.logged event) = false) (event : LogEvent)
    (publication : Publication Payload) :
    (tryPublish answers event publication).actions.countP acts =
      if acts (.attempted publication) then 1 else 0 := by
  unfold tryPublish
  cases answers.publish publication with
  | ok _ => simp [List.countP_cons]
  | error fault =>
      dsimp only
      cases fault.isPublishFailure <;> simp [List.countP_cons, silent]

theorem countP_resolveVirtualEntry (silent : ∀ event, acts (.logged event) = false)
    (symbol : String) :
    (resolveVirtualEntry answers symbol).actions.countP acts = 0 := by
  unfold resolveVirtualEntry
  cases answers.latestClose symbol with
  | ok _ => rfl
  | error fault =>
      dsimp only
      cases fault.isDatabaseFailure <;> simp [Handling.log, Handling.raise, silent]

/-- What comes second adds nothing where it does none of the actions. -/
theorem countP_andThen {first second : Handling} (none : second.actions.countP acts = 0) :
    (first.andThen second).actions.countP acts = first.actions.countP acts := by
  unfold Handling.andThen
  cases first.raised with
  | some _ => rfl
  | none => simp [List.countP_append, none]

end Parts

section Handle

variable {π : Type} {config : BotConfig} {configVersion maxSignalAgeSeconds : ℕ}
  {modelValidate : π → Option SignalValidated} {answers : HandlerAnswers}
  {now publishedAt : ℕ} {envelope : MessageEnvelope π} {signal : SignalValidated}
  {signalId : ℕ} {result : ScoringResult} {acts : HandlerAction → Bool}

/-- The publication a decision calls for. -/
def outcomePublication (config : BotConfig) (now publishedAt : ℕ) (signal : SignalValidated)
    (signalId correlationId : ℕ) (result : ScoringResult) : Publication Payload :=
  match result.decision with
  | .execute | .passthrough =>
      (subjectForOrdersRequest config.botId,
        ⟨correlationId, publishedAt, .orderRequest (config.orderRequest signal signalId)⟩)
  | .reject =>
      (subjectForSignalsRejected config.botId,
        ⟨correlationId, publishedAt, .signalRejected (signalRejected signal signalId result now)⟩)

/-- The dispatchResult tries the publication of its decision once. -/
theorem countP_dispatchResult (silent : ∀ event, acts (.logged event) = false)
    (unobserved : ∀ subject correlationId publishedAt signalId signal,
      acts (.attempted (subject, ⟨correlationId, publishedAt,
        .shadowRejectedStart signalId signal⟩)) = false) (correlationId : ℕ) :
    (dispatchResult config answers now publishedAt signal signalId correlationId
        result).actions.countP acts =
      if acts (.attempted (outcomePublication config now publishedAt signal signalId correlationId
        result)) then 1 else 0 := by
  have start : (publishShadowRejectedStart config answers publishedAt signal signalId
      correlationId).actions.countP acts = 0 := by
    rw [publishShadowRejectedStart, countP_tryPublish silent, unobserved]
    rfl
  have entry : (resolveVirtualEntry answers signal.symbol).actions.countP acts = 0 :=
    countP_resolveVirtualEntry silent signal.symbol
  unfold dispatchResult outcomePublication
  cases result.decision with
  | execute => exact countP_tryPublish silent _ _
  | passthrough => exact countP_tryPublish silent _ _
  | reject =>
      dsimp only
      rw [countP_andThen (by rw [countP_andThen start, entry])]
      exact countP_tryPublish silent _ _

/-- Accepted and recorded, the signal is dispatched behind its row. -/
theorem handleEnvelope_of_recorded
    (recorded : Recorded config configVersion maxSignalAgeSeconds modelValidate answers now
      envelope signal signalId result) :
    (handleEnvelope config configVersion maxSignalAgeSeconds modelValidate answers now publishedAt
        envelope).actions =
      .inserted (scoringEvaluationRow config configVersion now signalId envelope.correlationId
          result) ::
        (dispatchResult config answers now publishedAt signal signalId envelope.correlationId
          result).actions := by
  have screened : screen config now signal = none :=
    screen_eq_none_iff.mpr ⟨recorded.unexpired, recorded.inUniverse, recorded.inSourceFilter,
      recorded.notClose⟩
  have passed : askGates answers gates = .ok none :=
    (askGates_eq_ok_none_iff gates).mpr fun gate _ => recorded.passed gate
  simp only [handleEnvelope, recorded.valid, screened, passed, recorded.resolved, recorded.evaluated,
    recorded.inserted, Handling.andThen, List.singleton_append]

/-- Otherwise the handler does no more than log. -/
theorem handleEnvelope_of_not_recorded
    (refused : ¬ ∃ signal signalId result,
      Recorded config configVersion maxSignalAgeSeconds modelValidate answers now envelope
          signal signalId result) :
    ∀ action ∈ (handleEnvelope config configVersion maxSignalAgeSeconds modelValidate answers now
      publishedAt envelope).actions, ∃ event, action = .logged event := by
  have logs : ∀ event, ∀ action ∈ (Handling.log event).actions, ∃ event,
      action = HandlerAction.logged event :=
    fun event action member => ⟨event, List.mem_singleton.mp member⟩
  have raises : ∀ fault, ∀ action ∈ (Handling.raise fault).actions, ∃ event,
      action = HandlerAction.logged event :=
    fun fault action member => absurd member List.not_mem_nil
  have givesUp : ∀ fault event, ∀ action ∈ (Handling.giveUp fault event).actions, ∃ event,
      action = HandlerAction.logged event := by
    intro fault event
    unfold Handling.giveUp
    split
    · exact logs event
    · exact raises fault
  unfold handleEnvelope
  -- one case split for each early return, in the order of the handler
  rcases valid : modelValidate envelope.payload with _ | signal
  · exact logs _
  dsimp only
  rcases screened : screen config now signal with _ | event
  swap
  · exact logs event
  obtain ⟨unexpired, inUniverse, inSourceFilter, notClose⟩ := screen_eq_none_iff.mp screened
  dsimp only
  rcases asked : askGates answers gates with fault | _ | gate
  · exact raises fault
  swap
  · exact logs _
  have passed := (askGates_eq_ok_none_iff gates).mp asked
  dsimp only
  rcases resolved : answers.signalId signal.idempotencyKey
    (receivedAtLowerBound maxSignalAgeSeconds now) with fault | _ | signalId
  · exact raises fault
  · exact logs _
  dsimp only
  rcases evaluated : answers.evaluation with fault | result
  · exact givesUp fault _
  dsimp only
  rcases inserted : answers.insert (scoringEvaluationRow config configVersion now signalId
    envelope.correlationId result) with fault | _
  · exact givesUp fault _
  have accepted : Accepted config maxSignalAgeSeconds modelValidate answers now envelope signal
      signalId result :=
    ⟨valid, unexpired, inUniverse, inSourceFilter, notClose,
      fun gate => passed gate (mem_gates gate), resolved, evaluated⟩
  exact absurd ⟨signal, signalId, result, accepted, inserted⟩ refused

/-! ## One outcome -/

theorem isOrderRequest_outcomePublication (correlationId : ℕ) :
    (HandlerAction.attempted (outcomePublication config now publishedAt signal signalId
        correlationId result)).isOrderRequest ↔
      result.decision = .execute ∨ result.decision = .passthrough := by
  unfold outcomePublication
  cases result.decision <;> simp [HandlerAction.isOrderRequest]

theorem isSignalRejected_outcomePublication (correlationId : ℕ) :
    (HandlerAction.attempted (outcomePublication config now publishedAt signal signalId
        correlationId result)).isSignalRejected ↔ result.decision = .reject := by
  unfold outcomePublication
  cases result.decision <;> simp [HandlerAction.isSignalRejected]

theorem isOutcome_outcomePublication (correlationId : ℕ) :
    (HandlerAction.attempted (outcomePublication config now publishedAt signal signalId
        correlationId result)).isOutcome = true := by
  unfold outcomePublication
  cases result.decision <;> rfl

/-- What the dispatchResult does, apart from logging and the start of an observation, is to try the
publication of its decision. -/
theorem exists_acts_dispatchResult_iff (silent : ∀ event, acts (.logged event) = false)
    (unobserved : ∀ subject correlationId publishedAt signalId signal,
      acts (.attempted (subject, ⟨correlationId, publishedAt,
        .shadowRejectedStart signalId signal⟩)) = false) (correlationId : ℕ) :
    (∃ action ∈ (dispatchResult config answers now publishedAt signal signalId correlationId
        result).actions, acts action) ↔
      acts (.attempted (outcomePublication config now publishedAt signal signalId correlationId
        result)) := by
  rw [← List.countP_pos_iff, countP_dispatchResult silent unobserved]
  split_ifs with tried <;> simp [tried]

/-- An accepted signal leads to the publication of its decision once its row is in. -/
theorem exists_acts_handleEnvelope_iff (silent : ∀ event, acts (.logged event) = false)
    (unrecorded : ∀ row, acts (.inserted row) = false)
    (unobserved : ∀ subject correlationId publishedAt signalId signal,
      acts (.attempted (subject, ⟨correlationId, publishedAt,
        .shadowRejectedStart signalId signal⟩)) = false) :
    (∃ action ∈ (handleEnvelope config configVersion maxSignalAgeSeconds modelValidate answers now
        publishedAt envelope).actions, acts action) ↔
      ∃ signal signalId result,
        Recorded config configVersion maxSignalAgeSeconds modelValidate answers now envelope
          signal signalId result ∧
        acts (.attempted (outcomePublication config now publishedAt signal signalId
          envelope.correlationId result)) := by
  constructor
  · rintro ⟨action, member, acted⟩
    by_cases reached : ∃ signal signalId result,
        Recorded config configVersion maxSignalAgeSeconds modelValidate answers now envelope
          signal signalId result
    · obtain ⟨signal, signalId, result, recorded⟩ := reached
      refine ⟨signal, signalId, result, recorded, ?_⟩
      rw [handleEnvelope_of_recorded recorded] at member
      rcases List.mem_cons.mp member with rfl | tried
      · simp [unrecorded] at acted
      · exact (exists_acts_dispatchResult_iff silent unobserved _).mp ⟨action, tried, acted⟩
    · obtain ⟨event, rfl⟩ := handleEnvelope_of_not_recorded reached action member
      simp [silent] at acted
  · rintro ⟨signal, signalId, result, recorded, acted⟩
    obtain ⟨action, member, acted⟩ : ∃ action ∈ (dispatchResult config answers now publishedAt signal
        signalId envelope.correlationId result).actions, acts action :=
      (exists_acts_dispatchResult_iff silent unobserved _).mpr acted
    rw [handleEnvelope_of_recorded recorded]
    exact ⟨action, List.mem_cons_of_mem _ member, acted⟩

/-- An order request is tried exactly when the accepted signal, its row inserted, is to be
traded. -/
theorem exists_isOrderRequest_handleEnvelope_iff :
    (∃ action ∈ (handleEnvelope config configVersion maxSignalAgeSeconds modelValidate answers now
        publishedAt envelope).actions, action.isOrderRequest) ↔
      ∃ signal signalId result,
        Recorded config configVersion maxSignalAgeSeconds modelValidate answers now envelope
          signal signalId result ∧
        (result.decision = .execute ∨ result.decision = .passthrough) := by
  rw [exists_acts_handleEnvelope_iff (fun _ => rfl) (fun _ => rfl) fun _ _ _ _ _ => rfl]
  simp only [isOrderRequest_outcomePublication]

/-- No invocation tries two outcomes. -/
theorem countP_isOutcome_handleEnvelope_le :
    (handleEnvelope config configVersion maxSignalAgeSeconds modelValidate answers now publishedAt
      envelope).actions.countP HandlerAction.isOutcome ≤ 1 := by
  by_cases reached : ∃ signal signalId result,
      Recorded config configVersion maxSignalAgeSeconds modelValidate answers now envelope
          signal signalId result
  · obtain ⟨signal, signalId, result, recorded⟩ := reached
    rw [handleEnvelope_of_recorded recorded, List.countP_cons,
      countP_dispatchResult (fun _ => rfl) fun _ _ _ _ _ => rfl, isOutcome_outcomePublication]
    simp [HandlerAction.isOutcome, HandlerAction.isOrderRequest, HandlerAction.isSignalRejected]
  · have quiet : (handleEnvelope config configVersion maxSignalAgeSeconds modelValidate answers now
        publishedAt envelope).actions.countP HandlerAction.isOutcome = 0 := by
      rw [List.countP_eq_zero]
      intro action member
      obtain ⟨event, rfl⟩ := handleEnvelope_of_not_recorded reached action member
      exact Bool.false_ne_true
    exact quiet.trans_le (Nat.zero_le 1)

/-- The row of the evaluation is in before an outcome is tried, and the outcome is the one of its
decision. -/
theorem inserted_before {before after : List HandlerAction} {action : HandlerAction}
    (handled : (handleEnvelope config configVersion maxSignalAgeSeconds modelValidate answers now
      publishedAt envelope).actions = before ++ action :: after)
    (outcome : action.isOutcome) :
    ∃ signal signalId result,
      Accepted config maxSignalAgeSeconds modelValidate answers now envelope signal signalId
        result ∧
      .inserted (scoringEvaluationRow config configVersion now signalId envelope.correlationId
        result) ∈ before ∧
      if action.isOrderRequest then result.decision = .execute ∨ result.decision = .passthrough
      else result.decision = .reject := by
  have member : action ∈ before ++ action :: after := by simp
  by_cases reached : ∃ signal signalId result,
      Recorded config configVersion maxSignalAgeSeconds modelValidate answers now envelope
          signal signalId result
  · obtain ⟨signal, signalId, result, recorded⟩ := reached
    rw [handleEnvelope_of_recorded recorded] at handled
    refine ⟨signal, signalId, result, recorded.toAccepted, ?_⟩
    cases before with
    | nil =>
        -- the row itself is no outcome
        obtain ⟨rfl, -⟩ := List.cons.inj handled
        exact absurd outcome Bool.false_ne_true
    | cons first before =>
        obtain ⟨rfl, dispatched⟩ := List.cons.inj handled
        have tried : action ∈ (dispatchResult config answers now publishedAt signal signalId
            envelope.correlationId result).actions := by
          rw [dispatched]
          simp
        refine ⟨List.mem_cons_self, ?_⟩
        split_ifs with ordered
        · exact (isOrderRequest_outcomePublication _).mp
            ((exists_acts_dispatchResult_iff (fun _ => rfl) (fun _ _ _ _ _ => rfl) _).mp
              ⟨action, tried, ordered⟩)
        · have rejected : action.isSignalRejected := by
            simpa [HandlerAction.isOutcome, ordered] using outcome
          exact (isSignalRejected_outcomePublication _).mp
            ((exists_acts_dispatchResult_iff (fun _ => rfl) (fun _ _ _ _ _ => rfl) _).mp
              ⟨action, tried, rejected⟩)
  · rw [← handled] at member
    obtain ⟨event, rfl⟩ := handleEnvelope_of_not_recorded reached action member
    exact absurd outcome Bool.false_ne_true

/-- **One outcome per signal.**  Whatever the envelope holds and whatever the gates, the lookup,
the evaluation, the insert and the bus answer, an invocation tries at most one of an order request
and a rejection, and only behind the inserted row of the evaluation, with the decision of that row.
It tries an order request exactly when the signal passes every check and gate and is resolved, the
evaluation decides to trade it and its row is inserted; and neither when one of these steps holds
the signal back or fails. -/
theorem handleEnvelope_publishes_once :
    let actions := (handleEnvelope config configVersion maxSignalAgeSeconds modelValidate answers now
      publishedAt envelope).actions
    actions.countP HandlerAction.isOutcome ≤ 1 ∧
      (∀ before action after, actions = before ++ action :: after → action.isOutcome →
        ∃ signal signalId result,
          Accepted config maxSignalAgeSeconds modelValidate answers now envelope signal signalId
            result ∧
          .inserted (scoringEvaluationRow config configVersion now signalId
            envelope.correlationId result) ∈ before ∧
          if action.isOrderRequest then
            result.decision = .execute ∨ result.decision = .passthrough
          else result.decision = .reject) ∧
      ((∃ action ∈ actions, action.isOrderRequest) ↔
        ∃ signal signalId result,
          Recorded config configVersion maxSignalAgeSeconds modelValidate answers now envelope
            signal signalId result ∧
          (result.decision = .execute ∨ result.decision = .passthrough)) ∧
      ((∀ signal signalId result,
          ¬ Recorded config configVersion maxSignalAgeSeconds modelValidate answers now envelope
            signal signalId result) →
        ∀ action ∈ actions, ¬ action.isOutcome) := by
  refine ⟨countP_isOutcome_handleEnvelope_le, fun before action after => inserted_before,
    exists_isOrderRequest_handleEnvelope_iff, ?_⟩
  intro refused action member
  obtain ⟨event, rfl⟩ := handleEnvelope_of_not_recorded
    (fun ⟨signal, signalId, result, recorded⟩ => refused signal signalId result recorded)
    action member
  exact Bool.false_ne_true

/-- A bot that trades every long signal on one symbol, whose bus is down: the row is inserted, the
order request is tried, and its failure is logged. -/
example :
    ((handleEnvelope
      { botId := "a", symbols := ["B"], ttlSeconds := 120, sourceFilter := none
        scoring := { mode := .passthrough, triggerThreshold := 0, rules := [] }
        exchangeMode := .paper, qty := 1, leverage := 1, slPct := 1, tpPct := 1, tpQtyPct := 1
        beTrigger := 1, beSlLevel := 1, trailPct := 1 }
      1 60 some
      { gate := fun _ => .ok false
        signalId := fun _ _ => .ok (some 7)
        evaluation := .ok
          { decision := .passthrough, reason := none, totalScore := 0, threshold := 0
            ruleResults := [], featureSnapshot := [] }
        insert := fun _ => .ok ()
        latestClose := fun _ => .ok none
        publish := fun _ => .error .notConnected }
      0 0
      { correlationId := 1, publishedAt := 0
        payload :=
          { source := "s", idempotencyKey := "k", receivedAt := 0, symbol := "B"
            originalSymbol := "B", action := .long, expiresAt := 0, payload := "" } }).actions.map
      HandlerAction.isOutcome) = [false, true, false] := by
  decide +kernel

end Handle

/-! ## Where nothing is raised -/

section Answers

variable {π : Type} {config : BotConfig} {configVersion maxSignalAgeSeconds : ℕ}
  {modelValidate : π → Option SignalValidated} {now publishedAt : ℕ}
  {envelope : MessageEnvelope π} {signal : SignalValidated}

/-- The answers of `handleSignal`: gates, lookups and publications raise nothing, and a feature
lookup that raises is the evaluation's. -/
def SignalAnswers.toHandlerAnswers (answers : SignalAnswers) (config : BotConfig)
    (signal : SignalValidated) : HandlerAnswers where
  gate gate := .ok (answers.blocked = some gate)
  signalId _ since := .ok (answers.signalId since)
  evaluation :=
    match evaluate config.scoring answers.store signal with
    | .error _ => .error (.other "scoring_evaluator_crashed")
    | .ok result => .ok result
  insert _ := if answers.recorded then .ok () else .error .postgres
  latestClose _ := .ok none
  publish _ := .ok ()

theorem askGates_toHandlerAnswers (answers : SignalAnswers) :
    askGates (answers.toHandlerAnswers config signal) gates = .ok answers.blocked := by
  cases blocked : answers.blocked with
  | none => simp [gates, askGates, SignalAnswers.toHandlerAnswers, blocked]
  | some gate =>
      cases gate <;> simp [gates, askGates, SignalAnswers.toHandlerAnswers, blocked]

theorem attempts_dispatchResult (answers : SignalAnswers) (signalId correlationId : ℕ)
    (result : ScoringResult) :
    (dispatchResult config (answers.toHandlerAnswers config signal) now publishedAt signal signalId
        correlationId result).attempts =
      publications config signal now correlationId publishedAt
        (dispatchDecision signalId result) := by
  unfold dispatchResult dispatchDecision
  cases result.decision <;> rfl

theorem publications_handleSignal_of_screened {event : LogEvent} (answers : SignalAnswers)
    (correlationId : ℕ) (screened : screen config now signal = some event) :
    publications config signal now correlationId publishedAt
      (handleSignal config maxSignalAgeSeconds answers now signal) = [] := by
  unfold screen at screened
  unfold handleSignal
  by_cases expired : signal.expiresAt < now
  · rw [if_pos expired]
    rfl
  rw [if_neg expired] at screened ⊢
  by_cases outside : signal.symbol ∉ config.symbols
  · rw [if_pos outside]
    rfl
  rw [if_neg outside] at screened ⊢
  by_cases filtered : config.sourceFilter.any fun sources => signal.source ∉ sources
  · rw [if_pos filtered]
    rfl
  rw [if_neg filtered] at screened ⊢
  by_cases close : signal.action = .close
  · rw [if_pos close]
    rfl
  · rw [if_neg close] at screened
    cases screened

/-- The publications of an invocation that nothing interrupts are those of `handleSignal`. -/
theorem attempts_handleEnvelope (answers : SignalAnswers)
    (valid : modelValidate envelope.payload = some signal) :
    (handleEnvelope config configVersion maxSignalAgeSeconds modelValidate
        (answers.toHandlerAnswers config signal) now publishedAt envelope).attempts =
      publications config signal now envelope.correlationId publishedAt
        (handleSignal config maxSignalAgeSeconds answers now signal) := by
  unfold handleEnvelope
  rw [valid, askGates_toHandlerAnswers]
  dsimp only
  cases screened : screen config now signal with
  | some event =>
      rw [publications_handleSignal_of_screened answers _ screened]
      rfl
  | none =>
      obtain ⟨unexpired, inUniverse, inSourceFilter, notClose⟩ := screen_eq_none_iff.mp screened
      have unfiltered : (config.sourceFilter.any fun sources => signal.source ∉ sources) = false := by
        cases filter : config.sourceFilter with
        | none => rfl
        | some sources => simpa using inSourceFilter sources filter
      simp only [handleSignal, unexpired.not_gt, inUniverse, not_true, unfiltered,
        Bool.false_eq_true, notClose, if_false]
      cases answers.blocked with
      | some gate => rfl
      | none =>
          dsimp only [SignalAnswers.toHandlerAnswers, receivedAtLowerBound]
          cases answers.signalId (now - maxSignalAgeSeconds * ticksPerSecond) with
          | none => rfl
          | some signalId =>
              dsimp only
              cases evaluated : evaluate config.scoring answers.store signal with
              | error error => rfl
              | ok result =>
                  cases recorded : answers.recorded with
                  | false => rfl
                  | true =>
                      -- the inserted row is no publication
                      exact attempts_dispatchResult answers signalId envelope.correlationId result

end Answers

end Scalper.Strategy
