import Scalper.Bus.ReplayBus
import Scalper.Execution.Persist
import Scalper.Scoring.Evaluator

/-!
# The signal handler of the strategy engine

`services/strategy_engine/app/consumer.py`: a validated signal passes the expiry check, the filters
and the pre-trade gates, is resolved to its row, scored, and the decision is recorded and then
published, as an order request or as a rejection with the start of its observation.  The time is
read once.  What the gates and the tables answer is given (`SignalAnswers`).
-/

set_option autoImplicit false

namespace Scalper.Strategy

open Scalper.Exchange Scalper.Execution Scalper.Scoring Scalper.Shadow
open Scalper.Bus (Subject MessageEnvelope Publication)

/-- The part of a `BotConfig` the handler reads, without sizing and shadow variants. -/
structure BotConfig where
  botId : String
  symbols : List String
  ttlSeconds : ℕ
  sourceFilter : Option (List String)
  scoring : ScoringConfig
  exchangeMode : ExchangeMode
  qty : ℚ
  leverage : ℕ
  slPct : ℚ
  tpPct : ℚ
  tpQtyPct : ℚ
  beTrigger : ℚ
  beSlLevel : ℚ
  trailPct : ℚ

/-- The pre-trade gates, in the order they are asked. -/
inductive Gate where
  | oppositeSide
  | cooldown
  | concurrentCaps
  | dailyLossLimit
  | maxDrawdown
  deriving DecidableEq, Repr

/-- What the gates and the database answer while a signal is handled: the first gate that holds
it back, the row of its key received since a time, the features, and whether the evaluation is
recorded. -/
structure SignalAnswers where
  blocked : Option Gate
  signalId : ℕ → Option ℕ
  store : FeatureStore
  recorded : Bool

/-- How the handler ends. -/
inductive SignalOutcome where
  | expired
  | outsideUniverse
  | outsideSourceFilter
  | closeUnsupported
  | blocked (gate : Gate)
  | idUnresolved
  | evaluatorCrashed (error : EvaluationError)
  | insertFailed (result : ScoringResult)
  | ordered (signalId : ℕ) (result : ScoringResult)
  | rejected (signalId : ℕ) (result : ScoringResult)
  deriving DecidableEq, Repr

/-- `signals.ttl_seconds` and the age of a signal's row are in seconds. -/
def ticksPerSecond : ℕ := 1000000

/-- The decision, once the evaluation is in its table. -/
def dispatchDecision (signalId : ℕ) (result : ScoringResult) : SignalOutcome :=
  match result.decision with
  | .execute | .passthrough => .ordered signalId result
  | .reject => .rejected signalId result

/-- The handler of `make_signal_handler`. -/
def handleSignal (config : BotConfig) (maxSignalAgeSeconds : ℕ) (answers : SignalAnswers)
    (now : ℕ) (signal : SignalValidated) : SignalOutcome :=
  if signal.expiresAt < now then .expired
  else if signal.symbol ∉ config.symbols then .outsideUniverse
  else if config.sourceFilter.any fun sources => signal.source ∉ sources then
    .outsideSourceFilter
  else if signal.action = .close then .closeUnsupported
  else
    match answers.blocked with
    | some gate => .blocked gate
    | none =>
        match answers.signalId (now - maxSignalAgeSeconds * ticksPerSecond) with
        | none => .idUnresolved
        | some signalId =>
            match evaluate config.scoring answers.store signal with
            | .error error => .evaluatorCrashed error
            | .ok result =>
                if answers.recorded then dispatchDecision signalId result
                else .insertFailed result

/-! ## Publications -/

/-- `SignalRejected`. -/
structure SignalRejected where
  signalId : ℕ
  idempotencyKey : String
  symbol : String
  action : SignalAction
  reason : RejectReason
  totalScore : ℚ
  threshold : ℚ
  rejectedAt : ℕ
  deriving DecidableEq, Repr

/-- The payloads the handlers exchange.  Nobody here reads the start of an observation: of it
only the signal is kept. -/
inductive Payload where
  | signalValidated (signal : SignalValidated)
  | orderRequest (request : OrderRequest)
  | signalRejected (rejection : SignalRejected)
  | shadowRejectedStart (signalId : ℕ) (signal : SignalValidated)
  deriving DecidableEq, Repr

def subjectForSignalsValidated : Subject := ["signals", "validated"]

def subjectForOrdersRequest (botId : String) : Subject := ["orders", "requests", botId]

def subjectForSignalsRejected (botId : String) : Subject := ["signals", "rejected", botId]

def subjectForShadowRejectedStart (botId : String) : Subject :=
  ["shadow", "rejected", "start", botId]

/-- The request `_publish_order_request` builds. -/
def BotConfig.orderRequest (config : BotConfig) (signal : SignalValidated) (signalId : ℕ) :
    OrderRequest where
  signalId := signalId
  symbol := signal.symbol
  side := signal.action.wouldSide
  qty := config.qty
  leverage := config.leverage
  slPct := config.slPct
  tpPct := config.tpPct
  tpQtyPct := config.tpQtyPct
  beTrigger := config.beTrigger
  beSlLevel := config.beSlLevel
  trailPct := config.trailPct
  exchangeMode := config.exchangeMode

/-- The payload `_publish_signal_rejected` builds. -/
def signalRejected (signal : SignalValidated) (signalId : ℕ) (result : ScoringResult)
    (rejectedAt : ℕ) : SignalRejected where
  signalId := signalId
  idempotencyKey := signal.idempotencyKey
  symbol := signal.symbol
  action := signal.action
  reason := result.reason.getD .scoreBelowThreshold
  totalScore := result.totalScore
  threshold := result.threshold
  rejectedAt := rejectedAt

/-- What the handler publishes for an outcome, all under the signal's correlation id.  The
publication time is the default of the envelope. -/
def publications (config : BotConfig) (signal : SignalValidated)
    (now correlationId publishedAt : ℕ) : SignalOutcome → List (Publication Payload)
  | .ordered signalId _ =>
      [(subjectForOrdersRequest config.botId,
        ⟨correlationId, publishedAt, .orderRequest (config.orderRequest signal signalId)⟩)]
  | .rejected signalId result =>
      [(subjectForSignalsRejected config.botId,
        ⟨correlationId, publishedAt, .signalRejected (signalRejected signal signalId result now)⟩),
       (subjectForShadowRejectedStart config.botId,
        ⟨correlationId, publishedAt, .shadowRejectedStart signalId signal⟩)]
  | _ => []

/-! ## What the handler depends on -/

section Handling

variable {config : BotConfig} {maxSignalAgeSeconds now : ℕ} {signal : SignalValidated}

/-- Answers that differ in the feature table only, at features no rule looks up. -/
theorem handleSignal_congr {answers : SignalAnswers} {store : FeatureStore}
    (alike : ∀ rule ∈ config.scoring.rules, ReadsAlike signal answers.store store rule) :
    handleSignal config maxSignalAgeSeconds answers now signal =
      handleSignal config maxSignalAgeSeconds { answers with store := store } now signal := by
  simp only [handleSignal, evaluate_congr alike]

/-- No outcome publishes more than two messages. -/
theorem length_publications_le (correlationId publishedAt : ℕ)
    (outcome : SignalOutcome) :
    (publications config signal now correlationId publishedAt outcome).length ≤
      2 := by
  cases outcome <;> simp [publications]

/-- The handler publishes no signal. -/
theorem of_mem_publications {correlationId publishedAt : ℕ} {outcome : SignalOutcome}
    {publication : Publication Payload}
    (published : publication ∈
      publications config signal now correlationId publishedAt outcome) :
    publication.1 ≠ subjectForSignalsValidated ∧
      ∀ other, publication.2.payload ≠ .signalValidated other := by
  cases outcome with
  | ordered signalId result =>
      rw [List.mem_singleton.mp published]
      simp [subjectForOrdersRequest, subjectForSignalsValidated]
  | rejected signalId result =>
      rcases List.mem_pair.mp published with rfl | rfl
      · simp [subjectForSignalsRejected, subjectForSignalsValidated]
      · simp [subjectForShadowRejectedStart, subjectForSignalsValidated]
  | _ => exact absurd published List.not_mem_nil

end Handling

end Scalper.Strategy
