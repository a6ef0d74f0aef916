import Scalper.Paper.Persistence
import Mathlib.Logic.Function.Basic

/-!
# The paper exchange

`packages/exchange/paper/adapter.py`: the simulated exchange behind paper bots, shadow
variants and backtests.  A state holds the price caches, the in-memory positions, the fill
queue, the events emitted so far and the paper tables; it also holds the environment the
code reads from, the clock, the supply of random ids and the outcomes of the coming
database transactions.  An operation returns its result together with the state it leaves,
because `set_trading_stop` changes memory before the statement that can still fail.

An in-memory position is a dictionary of two shapes in the source: `set_trading_stop` on a
symbol without a position creates one that has stops and no side.  Here that is an
`ActivePosition` whose `position` is `none`.
-/

set_option autoImplicit false

namespace Scalper.Paper

open Scalper.Lib Scalper.Exchange

/-! ## Construction parameters -/

/-- The three slippage models. -/
inductive SlippageModel where
  | fixedPct (fixedSlippagePct : ℚ)
  | proportionalToQty (qtySlippageCoeff : ℚ)
  | halfSpread (halfSpreadFactor : ℚ)
  deriving DecidableEq, Repr

/-- What the exchange is built with. -/
structure Config where
  botId : String
  feeRate : ℚ
  slippageModel : SlippageModel
  columns : Columns
  /-- A replay clock was given, so replayed candles move the time. -/
  replayClock : Bool := false
  emitParentLifecycle : Bool := false
  terminalCallback : Bool := false

/-! ## State -/

/-- The stop fields of an in-memory position. -/
structure TradingStops where
  slPrice : Option ℚ := none
  tpPrice : Option ℚ := none
  tpSize : Option ℚ := none
  tpslMode : TpslMode := .Full
  slType : SlType := .protective
  deriving DecidableEq, Repr

/-- The fields a position has once a market order opened it. -/
structure OpenPosition where
  tradeId : ℕ
  side : Side
  qty : ℚ
  entryPrice : ℚ
  entryFee : ℚ
  feesPaid : ℚ
  tpHit : Bool := false
  realizedPnl : ℚ := 0
  deriving DecidableEq, Repr

/-- `ActivePosition`: the stops and the position of a symbol. -/
structure ActivePosition where
  stops : TradingStops := {}
  position : Option OpenPosition := none
  deriving DecidableEq, Repr

/-- Which trigger was hit. -/
inductive FillKind where
  | sl
  | tp
  deriving DecidableEq, Repr

/-- `PendingSLTPFill`. -/
structure PendingSLTPFill where
  symbol : String
  side : Side
  qty : ℚ
  triggerPrice : ℚ
  triggeredAt : ℕ
  kind : FillKind
  tpslMode : TpslMode
  deriving DecidableEq, Repr

/-- What the terminal callback of a shadow variant receives. -/
structure TerminalEvent where
  symbol : String
  execType : FillKind
  slTypeAtClose : SlType
  tpslModeAtClose : TpslMode
  realizedPnl : ℚ
  deriving DecidableEq, Repr

/-- Whether the next transaction commits. -/
inductive TxOutcome where
  | commits
  | fails
  deriving DecidableEq, Repr

/-- The state of an adapter.  The event queues hold 1000 events each; who may find one full is the
concern of the processes over it, as its `put` comes after everything an operation writes. -/
structure PaperExchange where
  lastPrice : String → Option ℚ := fun _ => none
  lastCandle : String → Option Candle := fun _ => none
  activePositions : String → Option ActivePosition := fun _ => none
  pendingSlTpFills : List PendingSLTPFill := []
  executionQueue : List (ExecutionEvent Uuid) := []
  positionQueue : List PositionEvent := []
  terminalEvents : List TerminalEvent := []
  /-- Trade ids published to `trade.closed.<bot_id>`. -/
  tradeClosed : List ℕ := []
  db : PaperDb := {}
  now : ℕ := 0
  uuids : Uuid := 0
  dbOutcomes : List TxOutcome := []

/-- The open position of a symbol, when it is fully initialised. -/
def PaperExchange.openPosition (s : PaperExchange) (symbol : String) : Option OpenPosition :=
  (s.activePositions symbol).bind (·.position)

/-- Run a transaction: either its whole body takes effect or the tables stay. -/
def transaction {α : Type} (body : Tx α) (s : PaperExchange) :
    Except PaperError α × PaperExchange :=
  match s.dbOutcomes with
  | .fails :: rest => (.error .databaseError, { s with dbOutcomes := rest })
  | outcomes =>
      match body s.db with
      | .ok (result, db) => (.ok result, { s with db := db, dbOutcomes := outcomes.tail })
      | .error e => (.error e, { s with dbOutcomes := outcomes.tail })

/-! ## Fees, slippage and profit -/

/-- `fees.compute_fee`. -/
def computeFee (qty fillPrice feeRate : ℚ) : ℚ := |qty| * fillPrice * feeRate

/-- `_compute_slippage`, the three models of `slippage.py`. -/
def computeSlippage (model : SlippageModel) (price qty : ℚ) (candle : Candle) : ℚ :=
  match model with
  | .fixedPct fixedSlippagePct => price * fixedSlippagePct
  | .proportionalToQty qtySlippageCoeff => price * qtySlippageCoeff * |qty|
  | .halfSpread halfSpreadFactor => (candle.high - candle.low) / 2 * halfSpreadFactor

/-- The gross profit of a leg before fees. -/
def grossPnl (side : Side) (entryPrice exitPrice qty : ℚ) : ℚ :=
  match side with
  | .buy => (exitPrice - entryPrice) * qty
  | .sell => (entryPrice - exitPrice) * qty

/-- `_compute_realized_pnl`: quantized to four decimals. -/
def computeRealizedPnl (side : Side) (entryPrice exitPrice qty feesOpen feesClose : ℚ) : ℚ :=
  quantize 4 (grossPnl side entryPrice exitPrice qty - feesOpen - feesClose)

section Operations

variable (cfg : Config)

/-! ## Market orders -/

/-- What `place_market_order` hands to the persist flows. -/
structure OrderTicket where
  symbol : String
  side : Side
  qty : ℚ
  fillPrice : ℚ
  fee : ℚ
  placedAt : ℕ
  uuid : Uuid
  deriving DecidableEq, Repr

/-- The order row of a ticket. -/
def OrderTicket.orderRow (t : OrderTicket) : PaperOrder :=
  { botId := cfg.botId, correlationId := t.uuid, exchangeOrderId := t.uuid, symbol := t.symbol,
    side := t.side, orderType := .market, qty := t.qty, price := t.fillPrice,
    requestedAt := t.placedAt, idempotent := false }

/-- The execution row of a ticket. -/
def OrderTicket.executionRow (t : OrderTicket) (orderId tradeId : ℕ) (execType : ExecType) :
    PaperExecution :=
  { exchangeExecId := t.uuid, orderId := orderId, tradeId := tradeId, botId := cfg.botId,
    symbol := t.symbol, side := t.side, price := t.fillPrice, qty := t.qty, fee := t.fee,
    execType := execType, executedAt := t.placedAt }

/-- The event a ticket queues. -/
def OrderTicket.event (t : OrderTicket) : ExecutionEvent Uuid :=
  { exchangeExecId := t.uuid, exchangeOrderId := t.uuid, symbol := t.symbol, side := t.side,
    price := t.fillPrice, qty := t.qty, fee := t.fee, executedAt := t.placedAt }

/-- The transaction of `_persist_open`. -/
def openTx (t : OrderTicket) : Tx ℕ := do
  let orderId ← insertPaperOrder cfg.columns (t.orderRow cfg)
  let tradeId ← insertPaperTrade cfg.columns
    { botId := cfg.botId, openOrderId := orderId, symbol := t.symbol, side := t.side,
      entryPrice := t.fillPrice, qty := t.qty,
      notionalUsd := quantize 4 (t.qty * t.fillPrice), feesPaid := t.fee, openedAt := t.placedAt }
  insertPaperExecution cfg.columns (t.executionRow cfg orderId tradeId .openFill)
  insertPaperPosition cfg.columns
    { botId := cfg.botId, symbol := t.symbol, tradeId := tradeId, side := t.side,
      entryPrice := t.fillPrice, qty := t.qty, remainingQty := t.qty }
  return tradeId

/-- `_persist_open`. -/
def persistOpen (t : OrderTicket) (s : PaperExchange) : Except PaperError ℕ × PaperExchange :=
  match s.openPosition t.symbol with
  | some _ => (.error (.orderRejected "position_already_open"), s)
  | none =>
      match transaction (openTx cfg t) s with
      | (.error e, s) => (.error e, s)
      | (.ok tradeId, s) =>
          (.ok tradeId,
            { s with
              activePositions := Function.update s.activePositions t.symbol (some
                { position := some
                    { tradeId := tradeId, side := t.side, qty := t.qty, entryPrice := t.fillPrice,
                      entryFee := t.fee, feesPaid := t.fee } })
              executionQueue := s.executionQueue ++ [t.event]
              positionQueue := s.positionQueue ++
                [{ symbol := t.symbol, side := some t.side, size := t.qty,
                   entryPrice := some t.fillPrice, occurredAt := t.placedAt }] })

/-- The transaction of `_persist_close`. -/
def closeTx (t : OrderTicket) (tradeId : ℕ) (realizedPnl feesPaid : ℚ) : Tx Unit := do
  let closeOrderId ← insertPaperOrder cfg.columns (t.orderRow cfg)
  insertPaperExecution cfg.columns (t.executionRow cfg closeOrderId tradeId .close)
  closePaperTrade cfg.columns tradeId t.fillPrice realizedPnl feesPaid t.placedAt .manual
    closeOrderId
  deletePaperPosition cfg.botId t.symbol

/-- `_persist_close`: the profit is taken on the remaining quantity, the order and the
execution carry the quantity that was asked for. -/
def persistClose (t : OrderTicket) (s : PaperExchange) : Except PaperError Unit × PaperExchange :=
  match s.openPosition t.symbol with
  | none => (.error (.orderRejected "no_position_to_close"), s)
  | some existing =>
      let realizedPnl := computeRealizedPnl existing.side existing.entryPrice t.fillPrice
        existing.qty existing.entryFee t.fee
      let realizedPnlTotal := realizedPnl + existing.realizedPnl
      match transaction
          (closeTx cfg t existing.tradeId realizedPnlTotal (existing.feesPaid + t.fee)) s with
      | (.error e, s) => (.error e, s)
      | (.ok (), s) =>
          (.ok (),
            { s with
              activePositions := Function.update s.activePositions t.symbol none
              executionQueue := s.executionQueue ++ [t.event]
              positionQueue := s.positionQueue ++
                [{ symbol := t.symbol, side := none, size := 0, entryPrice := none,
                   occurredAt := t.placedAt }]
              tradeClosed := s.tradeClosed ++
                if cfg.emitParentLifecycle then [existing.tradeId] else [] })

/-- The fill price of a market order: the last price moved against the taker. -/
def fillPrice (side : Side) (lastPrice slippage : ℚ) : ℚ :=
  match side with
  | .buy => lastPrice + slippage
  | .sell => lastPrice - slippage

/-- The fill of a market order: price, fee, time and ids. -/
def marketTicket (symbol : String) (side : Side) (qty lastPrice : ℚ) (lastCandle : Candle)
    (s : PaperExchange) : OrderTicket :=
  let price := fillPrice side lastPrice
    (computeSlippage cfg.slippageModel lastPrice qty lastCandle)
  { symbol := symbol, side := side, qty := qty, fillPrice := price,
    fee := computeFee qty price cfg.feeRate, placedAt := s.now, uuid := s.uuids }

/-- `place_market_order`.  The result is `OrderPlaceResult.paper_trade_id`. -/
def placeMarketOrder (symbol : String) (side : Side) (qty : ℚ) (reduceOnly : Bool)
    (s : PaperExchange) : Except PaperError (Option ℕ) × PaperExchange :=
  match s.lastPrice symbol, s.lastCandle symbol with
  | none, _ =>
      (.error (.valueError ("No last-observed price for " ++ symbol ++
        "; subscribe to market.ohlc.1m." ++ symbol ++ " via start_consuming() first")), s)
  | some _, none => (.error (.keyError symbol), s)
  | some lastPrice, some lastCandle =>
      let ticket := marketTicket cfg symbol side qty lastPrice lastCandle s
      let s := { s with uuids := s.uuids + 1 }
      if reduceOnly then
        match persistClose cfg ticket s with
        | (.error e, s) => (.error e, s)
        | (.ok (), s) => (.ok none, s)
      else
        match persistOpen cfg ticket s with
        | (.error e, s) => (.error e, s)
        | (.ok tradeId, s) => (.ok (some tradeId), s)

/-! ## Stops -/

/-- The stop fields `set_trading_stop` writes over whatever was there. -/
def TradingStops.overwrite (existing : TradingStops) (tpslMode : TpslMode)
    (slPrice tpPrice tpSize : Option ℚ) (slType : Option SlType) : TradingStops :=
  { slPrice := slPrice, tpPrice := tpPrice, tpSize := tpSize, tpslMode := tpslMode,
    slType := slType.getD existing.slType }

/-- `set_trading_stop`: memory is written first, then the position row. -/
def setTradingStop (symbol : String) (tpslMode : TpslMode) (slPrice tpPrice tpSize : Option ℚ)
    (slType : Option SlType) (s : PaperExchange) : Except PaperError Unit × PaperExchange :=
  if slType = some .trail then
    (.error (.valueError
      "sl_type='trail' may only be set by _drain_partial_tp per ADR-0005 v2"), s)
  else
    let existing := (s.activePositions symbol).getD {}
    let written : ActivePosition :=
      { existing with stops := existing.stops.overwrite tpslMode slPrice tpPrice tpSize slType }
    transaction (updatePaperPositionSlTp cfg.columns cfg.botId symbol slPrice tpPrice)
      { s with activePositions := Function.update s.activePositions symbol (some written) }

/-! ## Crossing detection -/

/-- The fill a price range `[low, high]` triggers: the stop-loss before the take-profit. -/
def detectCross (active : ActivePosition) (symbol : String) (low high : ℚ) (now : ℕ) :
    Except PaperError (Option PendingSLTPFill) :=
  match active.position with
  | none => .ok none
  | some position =>
      match active.stops.slPrice.filter (fun sl => low ≤ sl ∧ sl ≤ high) with
      | some sl =>
          .ok (some
            { symbol := symbol, side := position.side, qty := position.qty, triggerPrice := sl,
              triggeredAt := now, kind := .sl, tpslMode := active.stops.tpslMode })
      | none =>
          match active.stops.tpPrice.filter (fun tp => low ≤ tp ∧ tp ≤ high) with
          | none => .ok none
          | some tp =>
              match (if active.stops.tpslMode = .Partial then active.stops.tpSize
                else some position.qty) with
              | none =>
                  .error (.valueError ("Partial TP without tp_size for " ++ symbol ++
                    "; set_trading_stop must supply tp_size when tpsl_mode='Partial'"))
              | some tpQty =>
                  .ok (some
                    { symbol := symbol, side := position.side, qty := tpQty, triggerPrice := tp,
                      triggeredAt := now, kind := .tp, tpslMode := active.stops.tpslMode })

/-- The body `_check_sl_tp_crosses` and `_check_sl_tp_crosses_replay` share. -/
def enqueueCross (symbol : String) (low high : ℚ) (s : PaperExchange) :
    Except PaperError Unit × PaperExchange :=
  match s.activePositions symbol with
  | none => (.ok (), s)
  | some active =>
      match detectCross active symbol low high s.now with
      | .error e => (.error e, s)
      | .ok none => (.ok (), s)
      | .ok (some fill) =>
          (.ok (), { s with pendingSlTpFills := s.pendingSlTpFills ++ [fill] })

/-- `_check_sl_tp_crosses`. -/
def checkSlTpCrosses (candle : Candle) : PaperExchange → Except PaperError Unit × PaperExchange :=
  enqueueCross candle.symbol candle.low candle.high

/-- `_check_sl_tp_crosses_replay`. -/
def checkSlTpCrossesReplay (symbol : String) (low high : ℚ) :
    PaperExchange → Except PaperError Unit × PaperExchange :=
  enqueueCross symbol low high

/-! ## Draining fills -/

/-- `_build_drain_context` with the order and execution rows built from it. -/
structure DrainContext where
  position : OpenPosition
  fee : ℚ
  closeSide : Side
  uuid : Uuid
  deriving DecidableEq, Repr

def buildDrainContext (fill : PendingSLTPFill) (position : OpenPosition) (uuid : Uuid) :
    DrainContext :=
  { position := position, fee := computeFee fill.qty fill.triggerPrice cfg.feeRate,
    closeSide := position.side.opposite, uuid := uuid }

def FillKind.orderType : FillKind → OrderType
  | .sl => .sl
  | .tp => .tp

def FillKind.execType : FillKind → ExecType
  | .sl => .sl
  | .tp => .tp

def FillKind.closeReason : FillKind → CloseReason
  | .sl => .sl
  | .tp => .tp

/-- `_insert_synthetic_close_order`. -/
def insertSyntheticCloseOrder (fill : PendingSLTPFill) (ctx : DrainContext) : Tx ℕ :=
  insertPaperOrder cfg.columns
    { botId := cfg.botId, correlationId := ctx.uuid, exchangeOrderId := ctx.uuid,
      symbol := fill.symbol, side := ctx.closeSide, orderType := fill.kind.orderType,
      qty := fill.qty, price := fill.triggerPrice, requestedAt := fill.triggeredAt,
      idempotent := true }

/-- `_insert_close_execution`. -/
def insertCloseExecution (fill : PendingSLTPFill) (ctx : DrainContext) (orderId : ℕ) : Tx Unit :=
  insertPaperExecution cfg.columns
    { exchangeExecId := ctx.uuid, orderId := orderId, tradeId := ctx.position.tradeId,
      botId := cfg.botId, symbol := fill.symbol, side := ctx.closeSide,
      price := fill.triggerPrice, qty := fill.qty, fee := ctx.fee,
      execType := fill.kind.execType, executedAt := fill.triggeredAt }

/-- `_emit_close_events`. -/
def emitCloseEvents (fill : PendingSLTPFill) (ctx : DrainContext) (remainingSize : ℚ)
    (sideAfter : Option Side) (entryPriceAfter : Option ℚ) (s : PaperExchange) : PaperExchange :=
  { s with
    executionQueue := s.executionQueue ++
      [{ exchangeExecId := ctx.uuid, exchangeOrderId := ctx.uuid, symbol := fill.symbol,
         side := ctx.closeSide, price := fill.triggerPrice, qty := fill.qty, fee := ctx.fee,
         executedAt := fill.triggeredAt }]
    positionQueue := s.positionQueue ++
      [{ symbol := fill.symbol, side := sideAfter, size := remainingSize,
         entryPrice := entryPriceAfter, occurredAt := fill.triggeredAt }] }

/-- The transaction of `_drain_partial_tp`. -/
def partialTpTx (fill : PendingSLTPFill) (ctx : DrainContext) (newQty newFeesPaid newPnl : ℚ) :
    Tx Unit := do
  let orderId ← insertSyntheticCloseOrder cfg fill ctx
  insertCloseExecution cfg fill ctx orderId
  updatePaperTradePartial cfg.columns ctx.position.tradeId newQty newFeesPaid newPnl
  updatePaperPositionPartial cfg.columns cfg.botId fill.symbol newQty true

/-- `_drain_partial_tp`: the trade stays open with the fill's quantity taken off. -/
def drainPartialTp (fill : PendingSLTPFill) (s : PaperExchange) :
    Except PaperError Unit × PaperExchange :=
  match s.activePositions fill.symbol with
  | some { stops := stops, position := some position } =>
      let ctx := buildDrainContext cfg fill position s.uuids
      let partialPnl := computeRealizedPnl position.side position.entryPrice fill.triggerPrice
        fill.qty 0 ctx.fee
      let newQty := position.qty - fill.qty
      let newFeesPaid := position.feesPaid + ctx.fee
      let newPnlTotal := position.realizedPnl + partialPnl
      match transaction (partialTpTx cfg fill ctx newQty newFeesPaid newPnlTotal)
          { s with uuids := s.uuids + 1 } with
      | (.error e, s) => (.error e, s)
      | (.ok (), s) =>
          (.ok (),
            emitCloseEvents fill ctx newQty (some position.side) (some position.entryPrice)
              { s with
                activePositions := Function.update s.activePositions fill.symbol (some
                  { stops := { stops with slType := .trail }
                    position := some
                      { position with
                        qty := newQty, feesPaid := newFeesPaid, realizedPnl := newPnlTotal,
                        tpHit := true } }) })
  | _ => (.error (.keyError fill.symbol), s)

/-- The transaction of `_drain_full_close`. -/
def fullCloseTx (fill : PendingSLTPFill) (ctx : DrainContext) (realizedPnl feesPaid : ℚ) :
    Tx Unit := do
  let orderId ← insertSyntheticCloseOrder cfg fill ctx
  insertCloseExecution cfg fill ctx orderId
  closePaperTrade cfg.columns ctx.position.tradeId fill.triggerPrice realizedPnl feesPaid
    fill.triggeredAt fill.kind.closeReason orderId
  deletePaperPosition cfg.botId fill.symbol

/-- `_drain_full_close`: the whole position leaves, and the terminal callback fires last. -/
def drainFullClose (fill : PendingSLTPFill) (s : PaperExchange) :
    Except PaperError Unit × PaperExchange :=
  match s.activePositions fill.symbol with
  | some { stops := stops, position := some position } =>
      let ctx := buildDrainContext cfg fill position s.uuids
      let realizedPnl := computeRealizedPnl position.side position.entryPrice fill.triggerPrice
        fill.qty position.entryFee ctx.fee
      let realizedPnlTotal := realizedPnl + position.realizedPnl
      match transaction (fullCloseTx cfg fill ctx realizedPnlTotal (position.feesPaid + ctx.fee))
          { s with uuids := s.uuids + 1 } with
      | (.error e, s) => (.error e, s)
      | (.ok (), s) =>
          let s := emitCloseEvents fill ctx 0 none none
            { s with activePositions := Function.update s.activePositions fill.symbol none }
          (.ok (),
            { s with
              terminalEvents := s.terminalEvents ++
                if cfg.terminalCallback then
                  [{ symbol := fill.symbol, execType := fill.kind, slTypeAtClose := stops.slType,
                     tpslModeAtClose := stops.tpslMode, realizedPnl := realizedPnlTotal }]
                else [] })
  | _ => (.error (.keyError fill.symbol), s)

/-- `_drain_sl_tp_fill`. -/
def drainSlTpFill (fill : PendingSLTPFill) (s : PaperExchange) :
    Except PaperError Unit × PaperExchange :=
  if fill.kind = .tp ∧ fill.tpslMode = .Partial then drainPartialTp cfg fill s
  else drainFullClose cfg fill s

/-- The `while self._pending_sl_tp_fills` loop: a fill is popped before it is drained, so an
error leaves only the fills behind it in the queue.  No drain enqueues. -/
def drainLoop : List PendingSLTPFill → PaperExchange → Except PaperError Unit × PaperExchange
  | [], s => (.ok (), { s with pendingSlTpFills := [] })
  | fill :: fills, s =>
      match drainSlTpFill cfg fill { s with pendingSlTpFills := fills } with
      | (.error e, s) => (.error e, s)
      | (.ok (), s) => drainLoop fills s

/-! ## Candles -/

/-- A crossing check followed by the drain of the queue. -/
def checkAndDrain (symbol : String) (low high : ℚ) (s : PaperExchange) :
    Except PaperError Unit × PaperExchange :=
  match enqueueCross symbol low high s with
  | (.error e, s) => (.error e, s)
  | (.ok (), s) => drainLoop cfg s.pendingSlTpFills s

/-- Both price caches take the candle. -/
def PaperExchange.cacheCandle (s : PaperExchange) (candle : Candle) : PaperExchange :=
  { s with
    lastPrice := Function.update s.lastPrice candle.symbol (some candle.close)
    lastCandle := Function.update s.lastCandle candle.symbol (some candle) }

/-- `ReplayClock.set`: an earlier time does not move the clock back. -/
def PaperExchange.setReplayClock (s : PaperExchange) (t : ℕ) : PaperExchange :=
  { s with now := max s.now t }

/-- `_on_candle`: the live path. -/
def onCandle (candle : Candle) (s : PaperExchange) : Except PaperError Unit × PaperExchange :=
  if candle.isClosed then
    checkAndDrain cfg candle.symbol candle.low candle.high (s.cacheCandle candle)
  else (.ok (), s)

/-- `generate_intra_candle_path`: toward the high first on a candle that does not fall. -/
def generateIntraCandlePath (openPrice high low close : ℚ) :
    Except PaperError (ℚ × ℚ × ℚ × ℚ) :=
  if high < low then .error (.valueError "intra_candle: low > high")
  else if openPrice < low ∨ high < openPrice then
    .error (.valueError "intra_candle: open outside [low, high]")
  else if close < low ∨ high < close then
    .error (.valueError "intra_candle: close outside [low, high]")
  else if openPrice ≤ close then .ok (openPrice, high, low, close)
  else .ok (openPrice, low, high, close)

/-- The segments of a replayed candle, each as its price range. -/
def segments (path : ℚ × ℚ × ℚ × ℚ) : List (ℚ × ℚ) :=
  let (o, p1, p2, c) := path
  [(min o p1, max o p1), (min p1 p2, max p1 p2), (min p2 c, max p2 c)]

/-- The segment loop of `_process_replay_candle`. -/
def replaySegments (symbol : String) : List (ℚ × ℚ) → PaperExchange →
    Except PaperError Unit × PaperExchange
  | [], s => (.ok (), s)
  | (low, high) :: rest, s =>
      match checkAndDrain cfg symbol low high s with
      | (.error e, s) => (.error e, s)
      | (.ok (), s) => replaySegments symbol rest s

/-- `_process_replay_candle`: the replay path. -/
def processReplayCandle (ohlc : Candle) (s : PaperExchange) :
    Except PaperError Unit × PaperExchange :=
  let s := if cfg.replayClock then s.setReplayClock ohlc.bucketStart else s
  let s := s.cacheCandle { ohlc with isClosed := true }
  match generateIntraCandlePath ohlc.openPrice ohlc.high ohlc.low ohlc.close with
  | .error e => (.error e, s)
  | .ok path => replaySegments cfg ohlc.symbol (segments path) s

/-! ## Start-up -/

/-- `_hydrate_active_positions`: the mode and the take-profit size are not in the schema. -/
def hydrateActivePositions (rows : List HydrateRow)
    (active : String → Option ActivePosition) : String → Option ActivePosition :=
  rows.foldl
    (fun active row =>
      Function.update active row.position.symbol (some
        { stops := { slPrice := row.position.slPrice, tpPrice := row.position.tpPrice }
          position := some
            { tradeId := row.position.tradeId, side := row.position.side,
              qty := row.position.remainingQty, entryPrice := row.position.entryPrice,
              entryFee := row.entryFee, feesPaid := row.feesPaid,
              tpHit := row.position.tpHit } }))
    active

/-- A new process over the same tables: memory is empty but for what `start_consuming`
hydrates. -/
def restart (s : PaperExchange) : PaperExchange :=
  { activePositions :=
      hydrateActivePositions (selectPaperPositionsForHydrate cfg.botId s.db) fun _ => none
    db := s.db, now := s.now, uuids := s.uuids, dbOutcomes := s.dbOutcomes }

/-! ## Runs -/

/-- The operations of the adapter that change its state. -/
inductive Op where
  | placeMarketOrder (symbol : String) (side : Side) (qty : ℚ) (reduceOnly : Bool)
  | setTradingStop (symbol : String) (tpslMode : TpslMode) (slPrice tpPrice tpSize : Option ℚ)
      (slType : Option SlType)
  | onCandle (candle : Candle)
  | processReplayCandle (ohlc : Candle)
  deriving DecidableEq, Repr

/-- One call: an operation with the time it runs at and the outcomes of its transactions. -/
structure Call where
  op : Op
  now : ℕ := 0
  dbOutcomes : List TxOutcome := []
  deriving DecidableEq, Repr

/-- The call itself. -/
def Op.apply (s : PaperExchange) : Op → PaperExchange
  | .placeMarketOrder symbol side qty reduceOnly =>
      (Paper.placeMarketOrder cfg symbol side qty reduceOnly s).2
  | .setTradingStop symbol tpslMode slPrice tpPrice tpSize slType =>
      (Paper.setTradingStop cfg symbol tpslMode slPrice tpPrice tpSize slType s).2
  | .onCandle candle => (Paper.onCandle cfg candle s).2
  | .processReplayCandle ohlc => (Paper.processReplayCandle cfg ohlc s).2

/-- The state a call leaves, whether it returned or raised. -/
def step (call : Call) (s : PaperExchange) : PaperExchange :=
  call.op.apply cfg { s with now := call.now, dbOutcomes := call.dbOutcomes }

end Operations

end Scalper.Paper
