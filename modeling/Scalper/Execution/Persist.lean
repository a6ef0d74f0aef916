import Scalper.Execution.Db

/-!
# Placement requests and their transactions

`services/execution/app/placement_persist.py`: the prices and sizes a placement computes,
the transaction that writes an accepted order as an open trade (`persistPlacementTx`), and
the one that writes a position flattened at once because its stop was refused
(`emergencyCloseTx`).
-/

set_option autoImplicit false

namespace Scalper.Execution

open Scalper.Lib Scalper.Exchange

/-! ## Requests -/

/-- The `exchange_mode` of a bot. -/
inductive ExchangeMode where
  | live
  | testnet
  | paper
  | demo
  deriving DecidableEq, Repr

/-- `OrderRequest`, without the wire fields for sizing and shadow variants. -/
structure OrderRequest where
  signalId : ℕ
  symbol : String
  side : Side
  qty : ℚ
  leverage : ℕ
  slPct : ℚ
  tpPct : ℚ
  tpQtyPct : ℚ
  beTrigger : ℚ
  beSlLevel : ℚ
  trailPct : ℚ
  exchangeMode : ExchangeMode
  deriving DecidableEq, Repr

/-- The part of a `MessageEnvelope` that is persisted. -/
structure Envelope where
  correlationId : String
  publishedAt : ℕ
  deriving DecidableEq, Repr

/-- `OrderPlaceResult`, the exchange's answer. -/
structure OrderPlaceResult where
  exchangeOrderId : String
  placedAt : ℕ
  deriving DecidableEq, Repr

/-! ## Prices and sizes -/

def computeSlPrice : Side → ℚ → ℚ → ℚ
  | .buy, fillPrice, slPct => fillPrice * (1 - slPct)
  | .sell, fillPrice, slPct => fillPrice * (1 + slPct)

def computeTpPrice : Side → ℚ → ℚ → ℚ
  | .buy, fillPrice, tpPct => fillPrice * (1 + tpPct)
  | .sell, fillPrice, tpPct => fillPrice * (1 - tpPct)

def computeTpSize (fillQty tpQtyPct : ℚ) : ℚ := fillQty * tpQtyPct

def computeNotionalUsd (qty price : ℚ) : ℚ := quantize 4 (qty * price)

/-! ## An accepted order -/

/-- An order the exchange accepted, with everything its transaction is told: the request and
its envelope, the acknowledgement, and the quantity and fill price the handler settled on. -/
structure Placed where
  botId : String
  request : OrderRequest
  envelope : Envelope
  placeResult : OrderPlaceResult
  fillPrice : ℚ
  qty : ℚ
  deriving DecidableEq, Repr

def Placed.key (p : Placed) : PositionKey := (p.botId, p.request.symbol)

/-- The orders row both transactions open with. -/
def Placed.openOrder (p : Placed) (status : OrderStatus) (closedAt : Option ℕ) : OrderRow where
  botId := p.botId
  signalId := some p.request.signalId
  correlationId := p.envelope.correlationId
  exchangeOrderId := p.placeResult.exchangeOrderId
  symbol := p.request.symbol
  side := p.request.side
  qty := p.qty
  price := p.fillPrice
  status := status
  requestedAt := p.envelope.publishedAt
  filledAt := some p.placeResult.placedAt
  closedAt := closedAt

/-- The trades row of an order. -/
def Placed.trade (p : Placed) (openOrderId : ℕ) (notionalUsd : ℚ)
    (params : Option FsmParams) : TradeRow where
  botId := p.botId
  signalId := some p.request.signalId
  openOrderId := openOrderId
  symbol := p.request.symbol
  side := p.request.side
  entryPrice := p.fillPrice
  qty := p.qty
  notionalUsd := notionalUsd
  openedAt := p.placeResult.placedAt
  params := params

/-- The event of the opening order. -/
def Placed.orderPlaced (p : Placed) (orderId : ℕ) : OrderPlaced where
  botId := p.botId
  orderId := orderId
  exchangeOrderId := p.placeResult.exchangeOrderId
  symbol := p.request.symbol
  timestamp := p.placeResult.placedAt

/-- `persist_placement_tx`. -/
def persistPlacementTx (p : Placed) (slPrice tpPrice notionalUsd : ℚ) (slSetAt : ℕ) :
    Tx (OrderPlaced × SLMoved × ℕ) := do
  let openOrderId ← insertOrder (p.openOrder .filled none)
  let tradeId ← insertTrade (p.trade openOrderId notionalUsd
    (some ⟨p.request.beTrigger, p.request.beSlLevel, p.request.trailPct⟩))
  updateTradeLifecycleState tradeId .isOpen
  insertPositionState p.key
    { tradeId := tradeId, side := p.request.side, entryPrice := p.fillPrice, qty := p.qty,
      remainingQty := p.qty, slPrice := some slPrice, tpPrice := some tpPrice,
      slType := some .protective, updatedAt := slSetAt }
  let orderPlaced := p.orderPlaced openOrderId
  let slMoved : SLMoved :=
    { botId := p.botId, orderId := openOrderId,
      exchangeOrderId := p.placeResult.exchangeOrderId, symbol := p.request.symbol,
      timestamp := slSetAt, newSlPrice := slPrice, slType := .protective }
  insertTradingEvent
    ⟨p.placeResult.placedAt, p.botId, p.envelope.correlationId, .orderPlaced orderPlaced⟩
  insertTradingEvent ⟨slSetAt, p.botId, p.envelope.correlationId, .slMoved slMoved⟩
  pure (orderPlaced, slMoved, tradeId)

/-- The transaction of `emergency_close`: both orders, and the trade opened and closed. -/
def emergencyCloseTx (p : Placed) (closeExchangeOrderId : String) (closeAt : ℕ) :
    Tx (OrderPlaced × OrderClosed) := do
  let openOrderId ← insertOrder (p.openOrder .emergencyClosed (some closeAt))
  let closeOrderId ← insertOrder
    { botId := p.botId, signalId := some p.request.signalId,
      correlationId := p.envelope.correlationId, exchangeOrderId := closeExchangeOrderId,
      symbol := p.request.symbol, side := p.request.side.opposite, qty := p.qty,
      price := p.fillPrice, status := .filled, requestedAt := closeAt,
      filledAt := some closeAt, closedAt := some closeAt }
  let tradeId ← insertTrade
    (p.trade openOrderId (computeNotionalUsd p.qty p.fillPrice) none)
  updateTradeLifecycleState tradeId .isOpen
  updateTradeClose tradeId p.fillPrice 0 (some 0) closeAt .emergency closeOrderId
  updateTradeLifecycleState tradeId .closed
  let orderPlaced := p.orderPlaced openOrderId
  let orderClosed : OrderClosed :=
    { botId := p.botId, orderId := closeOrderId, exchangeOrderId := closeExchangeOrderId,
      symbol := p.request.symbol, timestamp := closeAt, realizedPnl := 0,
      closeReason := .emergency }
  insertTradingEvent
    ⟨p.placeResult.placedAt, p.botId, p.envelope.correlationId, .orderPlaced orderPlaced⟩
  insertTradingEvent ⟨closeAt, p.botId, p.envelope.correlationId, .orderClosed orderClosed⟩
  pure (orderPlaced, orderClosed)

end Scalper.Execution
