import Scalper.Lib.Interleave
import Scalper.Bus.Dedup
import Scalper.Exchange.Quantize
import Scalper.Paper.Stops
import Scalper.Strategy.Consumer

/-!
# A backtest run

`scripts/backtest.py` from the sources to the end of the drain.  The candles of a window are fed to
a paper exchange and its signals are published to a replay bus, by two tasks that interleave in any
order and both move one replay clock; when both are done, the bus is drained: the signal handler
scores each signal and publishes an order request, and the order handler places it on the exchange.
Rows at equal times come in the order of their table.

A run is told what lies outside these parts: what the gates, the sizing and the insert of an
evaluation answer, as functions of all that happened so far, the outcomes of the paper
transactions, and the wall clock, which the resolver and the default publication time read.  The
dispatcher and the position monitors that run beside the drain neither replay candles nor move the
clock, and are left out; so is pacing, which only delays a candle.  The trace notes each candle
replayed, each signal scored and each order placed, the latter two with the correlation id and the
replay clock.
-/

set_option autoImplicit false

namespace Scalper.Backtest

open Scalper.Lib Scalper.Exchange Scalper.Paper Scalper.Scoring Scalper.Strategy
open Scalper.Execution (OrderRequest computeSlPrice computeTpPrice computeTpSize)
open Scalper.Shadow (SignalAction)
open Scalper.Bus (Consumer Consumed consume MessageEnvelope Publication Subscription deliver
  runUntilEmpty)

/-! ## The tables -/

/-- The `source` of the candles. -/
inductive OhlcSource where
  | binance
  | bybit
  deriving DecidableEq, Repr

/-- `OHLCRow`. -/
structure OhlcRow where
  candle : Candle
  source : OhlcSource
  deriving DecidableEq, Repr

/-- The `signals.action` enumeration. -/
inductive Action where
  | long
  | short
  | close
  | custom
  deriving DecidableEq, Repr

/-- The `ingestion_status` of a signal. -/
inductive IngestionStatus where
  | validated
  | duplicate
  | invalid
  deriving DecidableEq, Repr

/-- `SignalRow`; the payload is its text. -/
structure SignalRow where
  id : ℕ
  receivedAt : ℕ
  source : String
  idempotencyKey : String
  symbol : String
  originalSymbol : Option String
  action : Action
  payload : String
  ingestionStatus : IngestionStatus
  deriving DecidableEq, Repr

/-- The tables a backtest replays and looks up. -/
structure History where
  ohlc1m : List OhlcRow
  signals : List SignalRow
  features : List FeatureRow

/-! ## What a run notes -/

/-- What becomes of an order request. -/
inductive Placement where
  /-- No quantity, or one the instrument does not take. -/
  | skipped
  | refused (error : PaperError)
  | fillPriceUnresolved
  | filled (fillPrice : ℚ)
  deriving DecidableEq, Repr

/-- What a backtest records. -/
inductive Event where
  | candle (candle : Candle)
  | scored (correlationId now : ℕ) (outcome : SignalOutcome)
  | placed (correlationId now : ℕ) (placement : Consumed Placement)
  deriving DecidableEq

/-- The correlation id and the clock of a scored signal or a placed order. -/
def Event.handling : Event → Option (ℕ × ℕ)
  | .candle _ => none
  | .scored correlationId now _ => some (correlationId, now)
  | .placed correlationId now _ => some (correlationId, now)

/-- What is scored and placed under a correlation id, in order. -/
def outcomesOf (correlationId : ℕ) (trace : List Event) : List Event :=
  trace.filter fun event => event.handling.any (·.1 = correlationId)

/-- The exchange, whose clock is the replay clock, the ring of the order handler, the number of
correlation ids drawn, and the trace. -/
structure World (capacity : ℕ) where
  paper : PaperExchange
  seen : FifoRing ℕ capacity
  correlations : ℕ := 0
  trace : List Event := []

variable {capacity : ℕ}

def World.note (w : World capacity) (event : Event) : World capacity :=
  { w with trace := w.trace ++ [event] }

/-- The arguments of a run and what surrounds it. -/
structure Settings (capacity : ℕ) where
  config : BotConfig
  feeRate : ℚ
  columns : Columns
  source : OhlcSource
  fromAt : ℕ
  toAt : ℕ
  paperDb : PaperDb
  dbOutcomes : List TxOutcome
  wallClock : ℕ → ℕ
  blocked : World capacity → SignalValidated → Option Gate
  recorded : World capacity → SignalValidated → Bool
  /-- The quantity before quantization: the request's own for a bot without sizing. -/
  workingQty : World capacity → OrderRequest → Option ℚ

variable (settings : Settings capacity)

/-- The exchange of a backtest. -/
def Settings.exchange : Config where
  botId := settings.config.botId
  feeRate := settings.feeRate
  slippageModel := .fixedPct (5 / 10000)
  columns := settings.columns
  replayClock := true

/-! ## The sources -/

/-- `HistoricalOHLCSource`: the candles of the universe in the window, by their start. -/
def Settings.candles (history : History) : List Candle :=
  ((history.ohlc1m.filter fun row =>
      row.candle.symbol ∈ settings.config.symbols ∧ settings.fromAt ≤ row.candle.bucketStart ∧
        row.candle.bucketStart < settings.toAt ∧ row.source = settings.source).map
    OhlcRow.candle).insertionSort fun candle later => candle.bucketStart ≤ later.bucketStart

/-- `HistoricalSignalSource`: the validated signals of the universe in the window, by their time
of receipt. -/
def Settings.signals (history : History) : List SignalRow :=
  (history.signals.filter fun row =>
      row.symbol ∈ settings.config.symbols ∧ settings.fromAt ≤ row.receivedAt ∧
        row.receivedAt < settings.toAt ∧ row.ingestionStatus = .validated).insertionSort
    fun row later => row.receivedAt ≤ later.receivedAt

/-! ## The two producers -/

/-- The exchange, the bus and the trace together. -/
abbrev Replay (capacity : ℕ) := Bus.Replay Payload (World capacity)

def setWorld (r : Replay capacity) (w : World capacity) : Replay capacity := { r with state := w }

/-- The actions the publisher does not skip. -/
def SignalRow.wireAction (row : SignalRow) : Option SignalAction :=
  match row.action with
  | .long => some .long
  | .short => some .short
  | .close | .custom => none

/-- `signal_row.original_symbol or signal_row.symbol`. -/
def SignalRow.wireOriginalSymbol (row : SignalRow) : String :=
  match row.originalSymbol with
  | none => row.symbol
  | some original => if original = "" then row.symbol else original

/-- The `SignalValidated` a row is replayed as. -/
def SignalRow.toSignalValidated (row : SignalRow) (ttlSeconds : ℕ) (action : SignalAction) :
    SignalValidated where
  source := row.source
  idempotencyKey := row.idempotencyKey
  receivedAt := row.receivedAt
  symbol := row.symbol
  originalSymbol := row.wireOriginalSymbol
  action := action
  expiresAt := row.receivedAt + ttlSeconds * ticksPerSecond
  payload := row.payload

/-- The body of `_publish_signals`. -/
def publishSignal (row : SignalRow) (r : Replay capacity) : Replay capacity :=
  let w := { r.state with paper := r.state.paper.setReplayClock row.receivedAt }
  match row.wireAction with
  | none => setWorld r w
  | some action =>
      { bus := r.bus.publish (subjectForSignalsValidated,
          ⟨w.correlations, row.receivedAt,
            .signalValidated (row.toSignalValidated settings.config.ttlSeconds action)⟩)
        state := { w with correlations := w.correlations + 1 } }

/-- The body of `run_replay`. -/
def replayCandle (candle : Candle) (r : Replay capacity) :
    Except PaperError Unit × Replay capacity :=
  let processed := processReplayCandle settings.exchange candle r.state.paper
  (processed.1, setWorld r (World.note { r.state with paper := processed.2 } (.candle candle)))

/-- A turn of either task. -/
def produce : Candle ⊕ SignalRow → Replay capacity → Except PaperError Unit × Replay capacity
  | .inl candle => replayCandle settings candle
  | .inr row => fun r => (.ok (), publishSignal settings row r)

/-- Before the tasks start. -/
def Settings.start : Replay capacity where
  bus := {}
  state :=
    { paper :=
        { db := settings.paperDb, now := settings.fromAt, dbOutcomes := settings.dbOutcomes }
      seen := .empty }

/-! ## The handlers -/

/-- `select_signal_id_by_idempotency_key`. -/
def selectSignalIdByIdempotencyKey (signals : List SignalRow) (idempotencyKey : String)
    (receivedAtLowerBound : ℕ) : Option ℕ :=
  ((signals.filter fun row =>
      row.idempotencyKey = idempotencyKey ∧ receivedAtLowerBound ≤ row.receivedAt).argmax
    SignalRow.receivedAt).map SignalRow.id

/-- What answers the handler of the signal with a correlation id.  The resolver is built without
a clock of its own: its `now_fn` is the wall clock; the replay bus holds no features. -/
def Settings.answers (history : History) (w : World capacity) (correlationId : ℕ)
    (signal : SignalValidated) : SignalAnswers where
  blocked := settings.blocked w signal
  signalId := selectSignalIdByIdempotencyKey history.signals signal.idempotencyKey
  store :=
    { kv := fun _ => none, features := history.features
      now := settings.wallClock correlationId }
  recorded := settings.recorded w signal

/-- The subscriber of `signals.validated`.  The age of a signal's row is limited to its time to
live. -/
def signalHandler (history : History) (envelope : MessageEnvelope Payload) (w : World capacity) :
    World capacity × List (Publication Payload) :=
  match envelope.payload with
  | .signalValidated signal =>
      let outcome := handleSignal settings.config settings.config.ttlSeconds
        (settings.answers history w envelope.correlationId signal) w.paper.now signal
      (w.note (.scored envelope.correlationId w.paper.now outcome),
        publications settings.config signal w.paper.now envelope.correlationId
          (settings.wallClock envelope.correlationId) outcome)
  | _ => (w, [])

/-- `_PAPER_INSTRUMENT_FIXTURES`. -/
def paperInstrument : String → Option InstrumentInfo
  | "BTCUSDT" =>
      some { symbol := "BTCUSDT", qtyStep := 1 / 1000, minOrderQty := 1 / 1000, tickSize := 1 / 10 }
  | "ETHUSDT" =>
      some { symbol := "ETHUSDT", qtyStep := 1 / 100, minOrderQty := 1 / 100, tickSize := 1 / 100 }
  | "SOLUSDT" =>
      some { symbol := "SOLUSDT", qtyStep := 1 / 10, minOrderQty := 1 / 10, tickSize := 1 / 100 }
  | _ => none

/-- `get_fill_price`: the mean price of the order's executions by quantity. -/
def selectPaperExecutionVwapByOrderId (exchangeOrderId : Uuid) (db : PaperDb) : Option ℚ :=
  let rows := db.executions.filter fun execution =>
    db.orders.any fun order =>
      order.id = execution.orderId ∧ order.exchangeOrderId = exchangeOrderId
  let total := (rows.map PaperExecution.qty).sum
  if total = 0 then none
  else some ((rows.map fun execution => execution.price * execution.qty).sum / total)

/-- The stop of the whole position, then the take-profit of a part; the first that raises ends
the handler. -/
def setStops (request : OrderRequest) (info : InstrumentInfo) (tpSize fillPrice : ℚ)
    (p : PaperExchange) : PaperExchange :=
  match quantizePrice (computeSlPrice request.side fillPrice request.slPct) request.side
      info.tickSize,
    quantizePrice (computeTpPrice request.side fillPrice request.tpPct) request.side
      info.tickSize with
  | .ok slPrice, .ok tpPrice =>
      match setTradingStop settings.exchange request.symbol .Full (some slPrice) none none none p
        with
      | (.error _, p) => p
      | (.ok (), p) =>
          (setTradingStop settings.exchange request.symbol .Partial none (some tpPrice)
            (some tpSize) none p).2
  | _, _ => p

/-- The market order of a request, its fill price and its stops. -/
def placeOrder (request : OrderRequest) (info : InstrumentInfo) (qty tpSize : ℚ)
    (p : PaperExchange) : Placement × PaperExchange :=
  match placeMarketOrder settings.exchange request.symbol request.side qty false p with
  | (.error error, p') => (.refused error, p')
  | (.ok _, p') =>
      match selectPaperExecutionVwapByOrderId p.uuids p'.db with
      | none => (.fillPriceUnresolved, p')
      | some fillPrice =>
          (.filled fillPrice, setStops settings request info tpSize fillPrice p')

/-- The handler of `make_per_bot_handler` on a paper exchange, from the quantity on. -/
def handleOrder (workingQty : Option ℚ) (request : OrderRequest) (p : PaperExchange) :
    Placement × PaperExchange :=
  match workingQty, paperInstrument request.symbol with
  | some workingQty, some info =>
      match quantizeQty workingQty info with
      | .error _ => (.skipped, p)
      | .ok qty =>
          match quantizeQty (computeTpSize qty request.tpQtyPct) info with
          | .error _ => (.skipped, p)
          | .ok tpSize => placeOrder settings request info qty tpSize p
  | _, _ => (.skipped, p)

/-- The subscriber of the bot's order requests, behind its deduplicating consumer. -/
def orderHandler (envelope : MessageEnvelope Payload) (w : World capacity) :
    World capacity × List (Publication Payload) :=
  match envelope.payload with
  | .orderRequest request =>
      let consumed := consume OrderRequest.signalId
        (handleOrder settings (settings.workingQty w request)) request ⟨w.seen, w.paper⟩
      (World.note { w with seen := consumed.2.seen, paper := consumed.2.state }
        (.placed envelope.correlationId w.paper.now consumed.1), [])
  | _ => (w, [])

def signalSubscription (history : History) : Subscription Payload (World capacity) where
  subjectPattern := subjectForSignalsValidated
  handler := signalHandler settings history

def orderSubscription : Subscription Payload (World capacity) where
  subjectPattern := subjectForOrdersRequest settings.config.botId
  handler := orderHandler settings

def subscriptions (history : History) : List (Subscription Payload (World capacity)) :=
  [signalSubscription settings history, orderSubscription settings]

/-! ## The run -/

/-- The order the tasks take their turns in. -/
abbrev Settings.Schedule (history : History) :=
  Interleaving (settings.candles history) (settings.signals history)

/-- `asyncio.gather` over the two tasks. -/
def gather (order : List (Candle ⊕ SignalRow)) : Except PaperError Unit × Replay capacity :=
  forEach (produce settings) order settings.start

/-- The drain.  A signal is delivered, and publishes at most two messages (`drain_empties`). -/
def drain (history : History) (r : Replay capacity) : Replay capacity :=
  runUntilEmpty (subscriptions settings history) (3 * r.bus.heap.length) r

/-- The run: a task that raises ends it before anything is handled. -/
def backtest (history : History) (schedule : settings.Schedule history) :
    Except PaperError (World capacity) :=
  match gather settings schedule.order with
  | (.error error, _) => .error error
  | (.ok (), r) => .ok (drain settings history r).state

end Scalper.Backtest
