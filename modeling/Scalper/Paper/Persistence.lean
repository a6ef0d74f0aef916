import Scalper.Exchange.Types
import Scalper.Lib.Rows

/-!
# The paper tables and their statements

`packages/exchange/paper/persistence.py` over the schema of migration 0008: the four
tables a `PaperExchange` writes and one function per statement.  A statement runs inside a
transaction (`Tx`), so an error anywhere in the body leaves the tables as they were.  The
constraints that can refuse a row are the foreign key of an execution to its trade and the
primary key `(bot_id, symbol)` of a position; every other key is freshly drawn from a
sequence.  Values are rounded to their column on the way in.
-/

set_option autoImplicit false

namespace Scalper.Paper

open Scalper.Lib Scalper.Exchange

/-! ## Rows -/

/-- `order_type` of a paper order. -/
inductive OrderType where
  | market
  | sl
  | tp
  deriving DecidableEq, Repr

/-- `exec_type` of a paper execution. -/
inductive ExecType where
  | openFill
  | close
  | sl
  | tp
  deriving DecidableEq, Repr

/-- `close_reason` of a paper trade. -/
inductive CloseReason where
  | manual
  | sl
  | tp
  deriving DecidableEq, Repr

/-- `status` of a paper trade. -/
inductive TradeStatus where
  | isOpen
  | closed
  deriving DecidableEq, Repr

/-- A random identifier: `uuid4` never repeats, so a counter stands for it. -/
abbrev Uuid := ℕ

/-- A row of `paper_orders`. -/
structure PaperOrder where
  id : ℕ := 0
  botId : String
  correlationId : Uuid
  exchangeOrderId : Uuid
  symbol : String
  side : Side
  orderType : OrderType
  qty : ℚ
  price : ℚ
  requestedAt : ℕ
  idempotent : Bool
  deriving DecidableEq, Repr

/-- A row of `paper_trades`. -/
structure PaperTrade where
  id : ℕ := 0
  botId : String
  openOrderId : ℕ
  closeOrderId : Option ℕ := none
  symbol : String
  side : Side
  entryPrice : ℚ
  exitPrice : Option ℚ := none
  qty : ℚ
  notionalUsd : ℚ
  realizedPnl : Option ℚ := none
  feesPaid : ℚ
  closeReason : Option CloseReason := none
  openedAt : ℕ
  closedAt : Option ℕ := none
  status : TradeStatus := .isOpen
  deriving DecidableEq, Repr

/-- A row of `paper_executions`. -/
structure PaperExecution where
  exchangeExecId : Uuid
  orderId : ℕ
  tradeId : ℕ
  botId : String
  symbol : String
  side : Side
  price : ℚ
  qty : ℚ
  fee : ℚ
  execType : ExecType
  executedAt : ℕ
  deriving DecidableEq, Repr

/-- A row of `paper_positions`. -/
structure PaperPosition where
  botId : String
  symbol : String
  tradeId : ℕ
  side : Side
  entryPrice : ℚ
  qty : ℚ
  remainingQty : ℚ
  slPrice : Option ℚ := none
  tpPrice : Option ℚ := none
  tpHit : Bool := false
  deriving DecidableEq, Repr

/-- The tables of the paper exchange. -/
structure PaperDb where
  orders : List PaperOrder := []
  trades : List PaperTrade := []
  executions : List PaperExecution := []
  positions : List PaperPosition := []
  nextOrderId : ℕ := 1
  nextTradeId : ℕ := 1
  deriving DecidableEq, Repr

/-! ## Errors -/

/-- What a paper operation can raise. -/
inductive PaperError where
  | orderRejected (reason : String)
  | valueError (message : String)
  | keyError (key : String)
  | databaseError
  deriving DecidableEq, Repr

/-- The body of a database transaction. -/
abbrev Tx (α : Type) := StateT PaperDb (Except PaperError) α

/-! ## Rows as the columns keep them -/

section Rows

variable (cols : Columns)

def PaperOrder.stored (row : PaperOrder) (id : ℕ) : PaperOrder :=
  { row with id := id, qty := cols.qty row.qty, price := cols.price row.price }

def PaperTrade.stored (row : PaperTrade) (id : ℕ) : PaperTrade :=
  { row with
    id := id, entryPrice := cols.price row.entryPrice, qty := cols.qty row.qty,
    notionalUsd := cols.money row.notionalUsd, feesPaid := cols.money row.feesPaid,
    status := .isOpen }

def PaperExecution.stored (row : PaperExecution) : PaperExecution :=
  { row with price := cols.price row.price, qty := cols.qty row.qty, fee := cols.fee row.fee }

def PaperPosition.stored (row : PaperPosition) : PaperPosition :=
  { row with
    entryPrice := cols.price row.entryPrice, qty := cols.qty row.qty,
    remainingQty := cols.qty row.remainingQty }

/-- The `SET` of `close_paper_trade`. -/
def PaperTrade.close (exitPrice realizedPnl feesPaid : ℚ) (closedAt : ℕ)
    (closeReason : CloseReason) (closeOrderId : ℕ) (row : PaperTrade) : PaperTrade :=
  { row with
    exitPrice := some (cols.price exitPrice), realizedPnl := some (cols.money realizedPnl),
    feesPaid := cols.money feesPaid, closedAt := some closedAt,
    closeReason := some closeReason, closeOrderId := some closeOrderId, status := .closed }

/-- The `SET` of `update_paper_trade_partial`. -/
def PaperTrade.reduce (newQty newFeesPaid newRealizedPnl : ℚ) (row : PaperTrade) : PaperTrade :=
  { row with
    qty := cols.qty newQty, feesPaid := cols.money newFeesPaid,
    realizedPnl := some (cols.money newRealizedPnl) }

/-- The `SET` of `update_paper_position_sl_tp`. -/
def PaperPosition.restop (slPrice tpPrice : Option ℚ) (row : PaperPosition) : PaperPosition :=
  { row with slPrice := slPrice.map cols.price, tpPrice := tpPrice.map cols.price }

/-- The `SET` of `update_paper_position_partial`. -/
def PaperPosition.reduce (newRemainingQty : ℚ) (tpHit : Bool) (row : PaperPosition) :
    PaperPosition :=
  { row with remainingQty := cols.qty newRemainingQty, tpHit := tpHit }

end Rows

/-- The `WHERE bot_id = $1 AND symbol = $2` of every `paper_positions` statement. -/
def PaperPosition.at (botId symbol : String) (row : PaperPosition) : Bool :=
  row.botId == botId && row.symbol == symbol

/-! ## Statements -/

section Statements

variable (cols : Columns)

def insertPaperOrder (row : PaperOrder) : Tx ℕ := fun db =>
  .ok (db.nextOrderId,
    { db with
      orders := db.orders ++ [row.stored cols db.nextOrderId]
      nextOrderId := db.nextOrderId + 1 })

def insertPaperTrade (row : PaperTrade) : Tx ℕ := fun db =>
  .ok (db.nextTradeId,
    { db with
      trades := db.trades ++ [row.stored cols db.nextTradeId]
      nextTradeId := db.nextTradeId + 1 })

/-- The foreign key to `paper_trades` refuses an execution of an unknown trade. -/
def insertPaperExecution (row : PaperExecution) : Tx Unit := fun db =>
  if db.trades.any (·.id == row.tradeId) then
    .ok ((), { db with executions := db.executions ++ [row.stored cols] })
  else .error .databaseError

/-- The primary key `(bot_id, symbol)` refuses a second row. -/
def insertPaperPosition (row : PaperPosition) : Tx Unit := fun db =>
  if db.positions.any (PaperPosition.at row.botId row.symbol) then .error .databaseError
  else .ok ((), { db with positions := db.positions ++ [row.stored cols] })

def closePaperTrade (tradeId : ℕ) (exitPrice realizedPnl feesPaid : ℚ) (closedAt : ℕ)
    (closeReason : CloseReason) (closeOrderId : ℕ) : Tx Unit := fun db =>
  .ok ((),
    { db with
      trades := updateWhere (·.id == tradeId)
        (.close cols exitPrice realizedPnl feesPaid closedAt closeReason closeOrderId) db.trades })

def updatePaperTradePartial (tradeId : ℕ) (newQty newFeesPaid newRealizedPnl : ℚ) :
    Tx Unit := fun db =>
  .ok ((),
    { db with
      trades := updateWhere (·.id == tradeId)
        (.reduce cols newQty newFeesPaid newRealizedPnl) db.trades })

def updatePaperPositionSlTp (botId symbol : String) (slPrice tpPrice : Option ℚ) :
    Tx Unit := fun db =>
  .ok ((),
    { db with
      positions := updateWhere (PaperPosition.at botId symbol) (.restop cols slPrice tpPrice)
        db.positions })

def updatePaperPositionPartial (botId symbol : String) (newRemainingQty : ℚ) (tpHit : Bool) :
    Tx Unit := fun db =>
  .ok ((),
    { db with
      positions := updateWhere (PaperPosition.at botId symbol) (.reduce cols newRemainingQty tpHit)
        db.positions })

end Statements

def deletePaperPosition (botId symbol : String) : Tx Unit := fun db =>
  .ok ((), { db with positions := db.positions.filter fun row => !row.at botId symbol })

/-! ## Reads -/

/-- A row of the start-up query: a position, its trade's fees and its open execution's fee. -/
structure HydrateRow where
  position : PaperPosition
  feesPaid : ℚ
  entryFee : ℚ
  deriving DecidableEq, Repr

/-- The inner joins of `select_paper_positions_for_hydrate`. -/
def selectPaperPositionsForHydrate (botId : String) (db : PaperDb) : List HydrateRow :=
  (db.positions.filter (·.botId == botId)).flatMap fun position =>
    (db.trades.filter (·.id == position.tradeId)).flatMap fun trade =>
      (db.executions.filter fun execution =>
          execution.orderId == trade.openOrderId && execution.execType == .openFill).map
        fun execution =>
          { position := position, feesPaid := trade.feesPaid, entryFee := execution.fee }

/-- What was bought or sold to open a trade, by its executions. -/
def PaperDb.openedQty (db : PaperDb) (tradeId : ℕ) : ℚ :=
  sumWhere (fun row => row.tradeId == tradeId && row.execType == .openFill) (·.qty) db.executions

/-- What was closed of a trade so far, by its executions. -/
def PaperDb.exitQty (db : PaperDb) (tradeId : ℕ) : ℚ :=
  sumWhere (fun row => row.tradeId == tradeId && row.execType != .openFill) (·.qty) db.executions

end Scalper.Paper
