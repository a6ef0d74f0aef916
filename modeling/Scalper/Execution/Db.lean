import Mathlib.Data.List.AList
import Scalper.Exchange.Types
import Scalper.Lib.Rows

/-!
# The live tables and their statements

`packages/db/queries/execution.py` over the schema of migrations 0005, 0006 and 0020: the
tables the execution service writes for a live bot, and one function per statement.
`position_state` is keyed by its primary key `(bot_id, symbol)`, so two rows of one key
cannot be built; the other tables are lists in insertion order.  A statement runs inside a
transaction (`Tx`): an error anywhere in the body leaves the tables as they were.

Quantities are multiples of the instrument's `qty_step`, which `NUMERIC(30,12)` holds
exactly; prices are averages and fees are products, so these are rounded to their column.
An id drawn by a transaction that is rolled back is drawn again here, where the sequence
would skip it; ids only serve as keys.
-/

set_option autoImplicit false

namespace Scalper.Execution

open Scalper.Lib Scalper.Exchange

/-! ## Rows -/

/-- The `status` of an order. -/
inductive OrderStatus where
  | filled
  | emergencyClosed
  deriving DecidableEq, Repr

/-- The `exec_type` of an execution. -/
inductive ExecType where
  | isOpen
  | partialTp
  | sl
  | trail
  | close
  | unknown
  deriving DecidableEq, Repr

/-- The `close_reason` of a trade. -/
inductive CloseReason where
  | manual
  | sl
  | trail
  | unknown
  | emergency
  | reconcileGone
  deriving DecidableEq, Repr

/-- The `status` of a trade. -/
inductive TradeStatus where
  | isOpen
  | closed
  | error
  deriving DecidableEq, Repr

/-- The values of `trades.lifecycle_state` that some function writes or derives. -/
inductive TradeLifecycleState where
  | isOpen
  | breakevenSet
  | partiallyClosed
  | trailingActive
  | closed
  | failed
  | orphaned
  | reconciled
  deriving DecidableEq, Repr

/-- The runtime parameters a placement keeps in `trades.meta`. -/
structure FsmParams where
  beTrigger : ℚ
  beSlLevel : ℚ
  trailPct : ℚ
  deriving DecidableEq, Repr

/-- A row of `orders`. -/
structure OrderRow where
  id : ℕ := 0
  botId : String
  signalId : Option ℕ
  correlationId : String
  exchangeOrderId : String
  symbol : String
  side : Side
  qty : ℚ
  price : ℚ
  status : OrderStatus
  requestedAt : ℕ
  filledAt : Option ℕ
  closedAt : Option ℕ
  deriving DecidableEq, Repr

/-- A row of `trades`. -/
structure TradeRow where
  id : ℕ := 0
  botId : String
  signalId : Option ℕ
  openOrderId : ℕ
  closeOrderId : Option ℕ := none
  symbol : String
  side : Side
  entryPrice : ℚ
  exitPrice : Option ℚ := none
  qty : ℚ
  notionalUsd : ℚ
  realizedPnl : Option ℚ := none
  feesPaid : Option ℚ := none
  closeReason : Option CloseReason := none
  openedAt : ℕ
  closedAt : Option ℕ := none
  status : TradeStatus := .isOpen
  lifecycleState : Option TradeLifecycleState := none
  params : Option FsmParams := none
  deriving DecidableEq, Repr

/-- A row of `executions`. -/
structure ExecutionRow where
  exchangeExecId : String
  orderId : ℕ
  tradeId : Option ℕ
  botId : String
  symbol : String
  side : Side
  price : ℚ
  qty : ℚ
  fee : ℚ
  execType : ExecType
  executedAt : ℕ
  deriving DecidableEq, Repr

/-- The primary key of `position_state`. -/
abbrev PositionKey := String × String

instance : LawfulBEq PositionKey := inferInstance

/-- A row of `position_state` without its key.  The column `sl_type` is free text that is
only ever written with one of three values; `none` stands for everything else. -/
structure PositionStateRow where
  tradeId : ℕ
  side : Side
  entryPrice : ℚ
  qty : ℚ
  remainingQty : ℚ
  slPrice : Option ℚ
  tpPrice : Option ℚ
  slType : Option SlType
  bestPrice : Option ℚ := none
  mfePrice : Option ℚ := none
  maePrice : Option ℚ := none
  runningPnl : ℚ := 0
  updatedAt : ℕ
  deriving DecidableEq, Repr

/-! ## Events the service announces -/

/-- `OrderPlaced`. -/
structure OrderPlaced where
  botId : String
  orderId : ℕ
  exchangeOrderId : String
  symbol : String
  timestamp : ℕ
  deriving DecidableEq, Repr

/-- `SLMoved`. -/
structure SLMoved where
  botId : String
  orderId : ℕ
  exchangeOrderId : String
  symbol : String
  timestamp : ℕ
  newSlPrice : ℚ
  slType : SlType
  deriving DecidableEq, Repr

/-- `OrderClosed`. -/
structure OrderClosed where
  botId : String
  orderId : ℕ
  exchangeOrderId : String
  symbol : String
  timestamp : ℕ
  realizedPnl : ℚ
  closeReason : CloseReason
  deriving DecidableEq, Repr

/-- `SlOverwriteDetected`. -/
structure SlOverwriteDetected where
  botId : String
  symbol : String
  tradeId : ℕ
  slType : Option SlType
  expectedSlPrice : ℚ
  observedSlPrice : ℚ
  deriving DecidableEq, Repr

/-- A payload; its constructor is the `event_type`. -/
inductive EventPayload where
  | orderPlaced (payload : OrderPlaced)
  | slMoved (payload : SLMoved)
  | orderClosed (payload : OrderClosed)
  | slWatchdogEmergencyClose (payload : OrderClosed)
  | slOverwriteDetected (payload : SlOverwriteDetected)
  deriving DecidableEq, Repr

/-- A row of `trading_events`. -/
structure TradingEvent where
  occurredAt : ℕ
  botId : String
  correlationId : String
  payload : EventPayload
  deriving DecidableEq, Repr

/-- The tables of the execution service. -/
structure Db where
  orders : List OrderRow := []
  trades : List TradeRow := []
  executions : List ExecutionRow := []
  positions : AList fun _ : PositionKey => PositionStateRow := ∅
  tradingEvents : List TradingEvent := []
  nextOrderId : ℕ := 1
  nextTradeId : ℕ := 1

/-! ## Errors -/

/-- What ends a transaction of the service without a commit: a failed statement, an adapter
call inside it, or one of the halts it raises itself. -/
inductive TxError where
  | databaseError
  | exchange (error : ExchangeError)
  | overFill
  | orphanOrderMatch (orderId : ℕ)
  | orphanSyntheticFill (tradeId : ℕ)
  | unattributableFill
  | tradeIdMismatch (tradeId : ℕ)
  | noTradeId
  | orphanTrade (tradeId : ℕ)
  | orderMetaMissing (orderId : ℕ)
  deriving DecidableEq, Repr

/-- The body of a database transaction. -/
abbrev Tx (α : Type) := StateT Db (Except TxError) α

/-- `async with pool.acquire() as conn, conn.transaction()`: the body's writes are kept
when it returns and the commit succeeds, and dropped otherwise. -/
def transaction {α : Type} (commits : Bool) (body : Tx α) (db : Db) : Except TxError α × Db :=
  match body db with
  | .ok (value, db') => if commits then (.ok value, db') else (.error .databaseError, db)
  | .error error => (.error error, db)

/-! ## Inserts -/

def insertOrder (row : OrderRow) : Tx ℕ := fun db =>
  .ok (db.nextOrderId,
    { db with
      orders := db.orders ++ [{ row with id := db.nextOrderId, price := numeric 12 row.price }]
      nextOrderId := db.nextOrderId + 1 })

def insertTrade (row : TradeRow) : Tx ℕ := fun db =>
  .ok (db.nextTradeId,
    { db with
      trades := db.trades ++
        [{ row with
            id := db.nextTradeId, entryPrice := numeric 12 row.entryPrice,
            notionalUsd := numeric 4 row.notionalUsd, status := .isOpen }]
      nextTradeId := db.nextTradeId + 1 })

/-- The primary key refuses a second row of the bot and symbol. -/
def insertPositionState (key : PositionKey) (row : PositionStateRow) : Tx Unit := fun db =>
  match db.positions.lookup key with
  | some _ => .error .databaseError
  | none =>
      .ok ((),
        { db with
          positions := db.positions.insert key
            { row with
              entryPrice := numeric 12 row.entryPrice, slPrice := row.slPrice.map (numeric 12),
              tpPrice := row.tpPrice.map (numeric 12) } })

def insertTradingEvent (event : TradingEvent) : Tx Unit := fun db =>
  .ok ((), { db with tradingEvents := db.tradingEvents ++ [event] })

/-- The unique index on `executions`. -/
def ExecutionRow.sameKey (row other : ExecutionRow) : Bool :=
  row.exchangeExecId == other.exchangeExecId && row.executedAt == other.executedAt

/-- An execution as its columns keep it. -/
def ExecutionRow.stored (row : ExecutionRow) : ExecutionRow :=
  { row with price := numeric 12 row.price, fee := numeric 8 row.fee }

/-- The foreign keys to `orders` and `trades` and the unique index admit an execution. -/
def Db.accepts (db : Db) (row : ExecutionRow) : Bool :=
  db.orders.any (·.id == row.orderId) &&
    row.tradeId.all (fun tradeId => db.trades.any (·.id == tradeId)) &&
    !db.executions.any (ExecutionRow.sameKey row)

def insertExecution (row : ExecutionRow) : Tx Unit := fun db =>
  if db.accepts row then .ok ((), { db with executions := db.executions ++ [row.stored] })
  else .error .databaseError

/-! ## Updates and deletes -/

/-- The `SET` of `update_trade_close`; without `feesPaid` the column keeps its value. -/
def TradeRow.close (exitPrice realizedPnl : ℚ) (feesPaid : Option ℚ) (closedAt : ℕ)
    (closeReason : CloseReason) (closeOrderId : ℕ) (row : TradeRow) : TradeRow :=
  { row with
    exitPrice := some (numeric 12 exitPrice), realizedPnl := some (numeric 4 realizedPnl),
    feesPaid := (feesPaid.map (numeric 4)).or row.feesPaid, closedAt := some closedAt,
    closeReason := some closeReason, closeOrderId := some closeOrderId, status := .closed }

/-- The `SET` of `update_trade_fees_incremental`. -/
def TradeRow.addFee (feeDelta : ℚ) (row : TradeRow) : TradeRow :=
  { row with feesPaid := some (numeric 4 (row.feesPaid.getD 0 + feeDelta)) }

/-- The `SET` of `update_trade_lifecycle_state`. -/
def TradeRow.enter (state : TradeLifecycleState) (row : TradeRow) : TradeRow :=
  { row with lifecycleState := some state }

/-- The `SET` of `update_position_state_after_fill`. -/
def PositionStateRow.afterFill (qtyDelta : ℚ) (newSlType : Option SlType) (updatedAt : ℕ)
    (row : PositionStateRow) : PositionStateRow :=
  { row with
    remainingQty := row.remainingQty - qtyDelta, slType := newSlType.or row.slType,
    updatedAt := updatedAt }

@[simp] theorem PositionStateRow.afterFill_tradeId (qtyDelta : ℚ) (newSlType : Option SlType)
    (updatedAt : ℕ) (row : PositionStateRow) :
    (row.afterFill qtyDelta newSlType updatedAt).tradeId = row.tradeId := rfl

@[simp] theorem PositionStateRow.afterFill_side (qtyDelta : ℚ) (newSlType : Option SlType)
    (updatedAt : ℕ) (row : PositionStateRow) :
    (row.afterFill qtyDelta newSlType updatedAt).side = row.side := rfl

@[simp] theorem PositionStateRow.afterFill_remainingQty (qtyDelta : ℚ)
    (newSlType : Option SlType) (updatedAt : ℕ) (row : PositionStateRow) :
    (row.afterFill qtyDelta newSlType updatedAt).remainingQty = row.remainingQty - qtyDelta := rfl

/-- The `SET` of `update_position_state_sl`. -/
def PositionStateRow.moveSl (slPrice : ℚ) (slType : SlType) (updatedAt : ℕ)
    (row : PositionStateRow) : PositionStateRow :=
  { row with
    slPrice := some (numeric 12 slPrice), slType := some slType, updatedAt := updatedAt }

/-- The `SET` of `update_position_state_monitor_tick`. -/
def PositionStateRow.tick (bestPrice mfePrice maePrice runningPnl : ℚ) (updatedAt : ℕ)
    (row : PositionStateRow) : PositionStateRow :=
  { row with
    bestPrice := some (numeric 12 bestPrice), mfePrice := some (numeric 12 mfePrice),
    maePrice := some (numeric 12 maePrice), runningPnl := numeric 4 runningPnl,
    updatedAt := updatedAt }

/-- An `UPDATE trades ... WHERE id`. -/
def updateTrade (tradeId : ℕ) (set : TradeRow → TradeRow) : Tx Unit := fun db =>
  .ok ((), { db with trades := updateWhere (·.id == tradeId) set db.trades })

def updateTradeClose (tradeId : ℕ) (exitPrice realizedPnl : ℚ) (feesPaid : Option ℚ)
    (closedAt : ℕ) (closeReason : CloseReason) (closeOrderId : ℕ) : Tx Unit :=
  updateTrade tradeId (.close exitPrice realizedPnl feesPaid closedAt closeReason closeOrderId)

def updateTradeFeesIncremental (tradeId : ℕ) (feeDelta : ℚ) : Tx Unit :=
  updateTrade tradeId (.addFee feeDelta)

def updateTradeLifecycleState (tradeId : ℕ) (state : TradeLifecycleState) : Tx Unit :=
  updateTrade tradeId (.enter state)

/-- An `UPDATE position_state` of the rows of a key that `matching` selects; the number of
rows updated. -/
def updatePosition (key : PositionKey) (matching : PositionStateRow → Bool)
    (set : PositionStateRow → PositionStateRow) : Tx ℕ := fun db =>
  match db.positions.lookup key with
  | some row =>
      if matching row then .ok (1, { db with positions := db.positions.insert key (set row) })
      else .ok (0, db)
  | none => .ok (0, db)

def updatePositionStateAfterFill (key : PositionKey) (tradeId : ℕ) (qtyDelta : ℚ)
    (newSlType : Option SlType) (updatedAt : ℕ) : Tx ℕ :=
  updatePosition key (·.tradeId == tradeId) (.afterFill qtyDelta newSlType updatedAt)

def updatePositionStateSl (key : PositionKey) (slPrice : ℚ) (slType : SlType)
    (updatedAt : ℕ) : Tx ℕ :=
  updatePosition key (fun _ => true) (.moveSl slPrice slType updatedAt)

def updatePositionStateMonitorTick (key : PositionKey)
    (bestPrice mfePrice maePrice runningPnl : ℚ) (updatedAt : ℕ) : Tx ℕ :=
  updatePosition key (fun _ => true) (.tick bestPrice mfePrice maePrice runningPnl updatedAt)

def deletePositionState (key : PositionKey) : Tx Unit := fun db =>
  .ok ((), { db with positions := db.positions.erase key })

/-! ## Reads -/

namespace Db

def selectOrderIdByExchangeId (db : Db) (exchangeOrderId : String) : Option ℕ :=
  (db.orders.find? (·.exchangeOrderId == exchangeOrderId)).map (·.id)

def selectTradeByOpenOrderId (db : Db) (orderId : ℕ) : Option TradeRow :=
  db.trades.find? (·.openOrderId == orderId)

def selectTradeByCloseOrderId (db : Db) (orderId : ℕ) : Option TradeRow :=
  db.trades.find? (·.closeOrderId == some orderId)

def selectOpenOrderIdByTradeId (db : Db) (tradeId : ℕ) : Option ℕ :=
  (db.trades.find? (·.id == tradeId)).map (·.openOrderId)

/-- `(correlation_id, exchange_order_id)`. -/
def selectOrderMetaById (db : Db) (orderId : ℕ) : Option (String × String) :=
  (db.orders.find? (·.id == orderId)).map fun row => (row.correlationId, row.exchangeOrderId)

/-- `select_trade_fsm_params`: nothing for an unknown trade. -/
def selectTradeFsmParams (db : Db) (tradeId : ℕ) : Option (Option FsmParams) :=
  (db.trades.find? (·.id == tradeId)).map (·.params)

/-- `select_recent_open_trade_exists`. -/
def selectRecentOpenTradeExists (db : Db) (key : PositionKey) (since : ℤ) : Bool :=
  db.trades.any fun trade =>
    trade.botId == key.1 && trade.symbol == key.2 && decide (since ≤ trade.openedAt) &&
      decide (trade.status = .isOpen)

def selectPositionState (db : Db) (key : PositionKey) : Option PositionStateRow :=
  db.positions.lookup key

/-- The quantity a trade was opened with. -/
def openedQty (db : Db) (tradeId : ℕ) : ℚ :=
  sumWhere (·.id == tradeId) (·.qty) db.trades

/-- The quantity of a trade's executions that did not open it. -/
def exitQty (db : Db) (tradeId : ℕ) : ℚ :=
  sumWhere (fun row => row.tradeId == some tradeId && row.execType != .isOpen) (·.qty)
    db.executions

end Db

end Scalper.Execution
