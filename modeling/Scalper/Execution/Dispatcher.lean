import Scalper.Execution.Persist

/-!
# Recording a fill

`services/execution/app/dispatcher.py` and `reconcile.py`: the dispatcher infers what a fill
means from the order rows and the position row (`deriveExecType`), writes it in one
transaction (`processTx`), and when the remaining quantity comes to zero closes the trade in
the same transaction (`reconcileClose`).  `processTx` is a lookup, a derivation and
`recordFill`, so that other transactions can be placed between the three.
-/

set_option autoImplicit false

namespace Scalper.Execution

open Scalper.Lib Scalper.Exchange

/-- A fill as the private stream of a live adapter delivers it. -/
abbrev Fill := ExecutionEvent String

/-! ## Closing a trade -/

/-- `_EXEC_TYPE_TO_CLOSE_REASON.get(exec_type, "unknown")`. -/
def execTypeToCloseReason : ExecType → CloseReason
  | .close => .manual
  | .sl => .sl
  | .trail => .trail
  | .unknown | .isOpen | .partialTp => .unknown

/-- The two readings of the sub-account's cumulative closed profit around a close. -/
structure ClosedPnlReads where
  before : Except ExchangeError ℚ
  after : Except ExchangeError ℚ

def callAdapter {α : Type} (outcome : Except ExchangeError α) : Tx α := fun db =>
  match outcome with
  | .ok value => .ok (value, db)
  | .error error => .error (.exchange error)

/-- `close_order_id`, or the opening order of the trade. -/
def resolveCloseOrderId (tradeId : ℕ) : Option ℕ → Tx ℕ
  | some orderId => pure orderId
  | none => fun db =>
      match db.selectOpenOrderIdByTradeId tradeId with
      | some orderId => .ok (orderId, db)
      | none => .error (.orphanTrade tradeId)

def orderMeta (orderId : ℕ) : Tx (String × String) := fun db =>
  match db.selectOrderMetaById orderId with
  | some found => .ok (found, db)
  | none => .error (.orderMetaMissing orderId)

/-- `reconcile_close`; the payload, its correlation id and the exchange's order id. -/
def reconcileClose (key : PositionKey) (reads : ClosedPnlReads) (tradeId : ℕ)
    (closeOrderId : Option ℕ) (execType : ExecType) (feesPaidAtClose : Option ℚ)
    (finalFillPrice : ℚ) (closedAt : ℕ) : Tx (OrderClosed × String × String) := do
  let closeOrderId ← resolveCloseOrderId tradeId closeOrderId
  let (correlationId, closeExchangeOrderId) ← orderMeta closeOrderId
  let beforeTotal ← callAdapter reads.before
  let afterTotal ← callAdapter reads.after
  let closeReason := execTypeToCloseReason execType
  updateTradeClose tradeId finalFillPrice (afterTotal - beforeTotal) feesPaidAtClose closedAt
    closeReason closeOrderId
  updateTradeLifecycleState tradeId .closed
  deletePositionState key
  let orderClosed : OrderClosed :=
    { botId := key.1, orderId := closeOrderId, exchangeOrderId := closeExchangeOrderId,
      symbol := key.2, timestamp := closedAt, realizedPnl := afterTotal - beforeTotal,
      closeReason := closeReason }
  pure (orderClosed, correlationId, closeExchangeOrderId)

/-! ## What a fill means -/

/-- `(exec_type, trade_id, sl_type_observed)`. -/
structure Derived where
  execType : ExecType
  tradeId : Option ℕ
  slTypeObserved : Option SlType
  deriving DecidableEq, Repr

/-- A fill of no order of ours, against the position row. -/
def derivePositionFill (event : Fill) (ps : PositionStateRow) : Derived :=
  if event.side = ps.side then ⟨.unknown, some ps.tradeId, ps.slType⟩
  else if event.qty < ps.remainingQty then ⟨.partialTp, some ps.tradeId, some .trail⟩
  else if event.qty = ps.remainingQty then
    match ps.slType with
    | some .trail => ⟨.trail, some ps.tradeId, ps.slType⟩
    | some .protective | some .be => ⟨.sl, some ps.tradeId, ps.slType⟩
    | none => ⟨.unknown, some ps.tradeId, ps.slType⟩
  else ⟨.unknown, some ps.tradeId, ps.slType⟩

/-- `_derive_exec_type`. -/
def deriveExecType (botId : String) (event : Fill) (orderIdMatch : Option ℕ) (db : Db) :
    Derived :=
  match orderIdMatch with
  | some orderId =>
      match db.selectTradeByOpenOrderId orderId with
      | some trade => ⟨.isOpen, some trade.id, none⟩
      | none =>
          match db.selectTradeByCloseOrderId orderId with
          | some trade => ⟨.close, some trade.id, none⟩
          | none => ⟨.unknown, none, none⟩
  | none =>
      match db.selectPositionState (botId, event.symbol) with
      | none => ⟨.unknown, none, none⟩
      | some ps => derivePositionFill event ps

/-! ## Recording it -/

/-- The halt on a fill of unknown origin larger than what remains. -/
def haltOnOverFill (key : PositionKey) (event : Fill) (derived : Derived) : Tx Unit := fun db =>
  if derived.execType = .unknown ∧ derived.tradeId.isSome then
    match db.selectPositionState key with
    | some ps => if ps.remainingQty < event.qty then .error .overFill else .ok ((), db)
    | none => .ok ((), db)
  else .ok ((), db)

/-- The order an execution is attributed to: the matched one, else the opening order of the
trade; the three orphan halts. -/
def orderIdForInsert (orderIdMatch tradeId : Option ℕ) : Tx ℕ := fun db =>
  match orderIdMatch, tradeId with
  | some orderId, none => .error (.orphanOrderMatch orderId)
  | some orderId, some _ => .ok (orderId, db)
  | none, some tradeId =>
      match db.selectOpenOrderIdByTradeId tradeId with
      | some orderId => .ok (orderId, db)
      | none => .error (.orphanSyntheticFill tradeId)
  | none, none => .error .unattributableFill

/-- `assert trade_id is not None`, and the two invariant checks of the same shape. -/
def expectTradeId (tradeId : Option ℕ) : Tx ℕ := fun db =>
  match tradeId with
  | some tradeId => .ok (tradeId, db)
  | none => .error .noTradeId

/-- The executions row of a fill. -/
def executionRow (botId : String) (event : Fill) (orderId : ℕ) (derived : Derived) :
    ExecutionRow where
  exchangeExecId := event.exchangeExecId
  orderId := orderId
  tradeId := derived.tradeId
  botId := botId
  symbol := event.symbol
  side := event.side
  price := event.price
  qty := event.qty
  fee := event.fee
  execType := derived.execType
  executedAt := event.executedAt

/-- A partial take-profit turns the stop into a trailing one. -/
def newSlType (execType : ExecType) : Option SlType :=
  if execType = .partialTp then some .trail else none

/-- The decrement of the position row, which must still be that of the trade. -/
def reducePosition (key : PositionKey) (event : Fill) (derived : Derived) (now : ℕ) :
    Tx Unit := do
  let tradeId ← expectTradeId derived.tradeId
  let updated ← updatePositionStateAfterFill key tradeId event.qty
    (newSlType derived.execType) now
  if updated = 0 then throw (.tradeIdMismatch tradeId) else pure ()

/-- What follows the decrement: the close flow at zero, else the partial-fill mark. -/
def settlePosition (key : PositionKey) (event : Fill) (reads : ClosedPnlReads)
    (orderIdMatch : Option ℕ) (derived : Derived) : Tx (Option OrderClosed) := do
  let db ← get
  match db.selectPositionState key with
  | none => pure none
  | some ps =>
      let tradeId ← expectTradeId derived.tradeId
      if ps.remainingQty = 0 then
        let (payload, _, _) ← reconcileClose key reads tradeId orderIdMatch derived.execType
          none event.price event.executedAt
        pure (some payload)
      else
        updateTradeLifecycleState tradeId .partiallyClosed
        pure none

/-- The fee of a fill, charged to its trade. -/
def chargeFee (fee : ℚ) : Option ℕ → Tx Unit
  | some tradeId => updateTradeFeesIncremental tradeId fee
  | none => pure ()

/-- The body of `_process` after the derivation.  A fill of the opening order neither
decrements the position nor closes it: the placement already wrote its quantity. -/
def recordFill (botId : String) (event : Fill) (reads : ClosedPnlReads) (now : ℕ)
    (orderIdMatch : Option ℕ) (derived : Derived) : Tx (Option OrderClosed) := do
  haltOnOverFill (botId, event.symbol) event derived
  let orderId ← orderIdForInsert orderIdMatch derived.tradeId
  insertExecution (executionRow botId event orderId derived)
  (if derived.execType = .isOpen then pure ()
    else reducePosition (botId, event.symbol) event derived now)
  chargeFee event.fee derived.tradeId
  (if derived.execType = .isOpen then pure none
    else settlePosition (botId, event.symbol) event reads orderIdMatch derived)

/-- The transaction of `ExecutionDispatcher._process`. -/
def processTx (botId : String) (event : Fill) (reads : ClosedPnlReads) (now : ℕ) :
    Tx (Option OrderClosed) := fun db =>
  let orderIdMatch := db.selectOrderIdByExchangeId event.exchangeOrderId
  recordFill botId event reads now orderIdMatch (deriveExecType botId event orderIdMatch db) db

/-- A fill with what its processing meets: the two profit readings, the clock, and whether
the database keeps up until the commit. -/
structure Delivery where
  event : Fill
  reads : ClosedPnlReads
  now : ℕ
  commits : Bool := true

/-- `ExecutionDispatcher._process`: the close event to publish, or what is raised. -/
def process (botId : String) (delivery : Delivery) (db : Db) :
    Except TxError (Option OrderClosed) × Db :=
  transaction delivery.commits
    (processTx botId delivery.event delivery.reads delivery.now) db

end Scalper.Execution
