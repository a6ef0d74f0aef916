import Scalper.Execution.Recording

/-!
# The transactions of the execution service

What the service commits, one transaction after another: placements, positions flattened
because their stop was refused, the monitor's writes to the position row, and fills.  A step
is one such transaction with whatever makes it succeed or fail; a failed one changes nothing.
`step_change` lists everything a step can do to the tables (`Change`).
-/

set_option autoImplicit false

namespace Scalper.Execution

open Scalper.Lib Scalper.Exchange

/-! ## Placements -/

/-- The tables after `persist_placement_tx`. -/
def Db.afterPlacement (db : Db) (p : Placed) (slPrice tpPrice notionalUsd : ℚ)
    (slSetAt : ℕ) : Db where
  orders := db.orders ++
    [{ p.openOrder .filled none with id := db.nextOrderId, price := numeric 12 p.fillPrice }]
  trades := updateWhere (·.id == db.nextTradeId) (.enter .isOpen)
    (db.trades ++
      [{ p.trade db.nextOrderId notionalUsd
            (some ⟨p.request.beTrigger, p.request.beSlLevel, p.request.trailPct⟩) with
          id := db.nextTradeId, entryPrice := numeric 12 p.fillPrice,
          notionalUsd := numeric 4 notionalUsd, status := .isOpen }])
  executions := db.executions
  positions := db.positions.insert p.key
    { tradeId := db.nextTradeId, side := p.request.side, entryPrice := numeric 12 p.fillPrice,
      qty := p.qty, remainingQty := p.qty, slPrice := some (numeric 12 slPrice),
      tpPrice := some (numeric 12 tpPrice), slType := some .protective, updatedAt := slSetAt }
  tradingEvents := db.tradingEvents ++
    [⟨p.placeResult.placedAt, p.botId, p.envelope.correlationId,
      .orderPlaced (p.orderPlaced db.nextOrderId)⟩] ++
    [⟨slSetAt, p.botId, p.envelope.correlationId,
      .slMoved ⟨p.botId, db.nextOrderId, p.placeResult.exchangeOrderId, p.request.symbol, slSetAt,
        slPrice, .protective⟩⟩]
  nextOrderId := db.nextOrderId + 1
  nextTradeId := db.nextTradeId + 1

section Placements

variable {p : Placed} {slPrice tpPrice notionalUsd : ℚ} {slSetAt : ℕ} {db : Db}

/-- A placement on a free key returns its events and the trade, and is written. -/
theorem persistPlacementTx_free (free : db.positions.lookup p.key = none) :
    transaction true (persistPlacementTx p slPrice tpPrice notionalUsd slSetAt) db =
      (.ok (p.orderPlaced db.nextOrderId,
          ⟨p.botId, db.nextOrderId, p.placeResult.exchangeOrderId, p.request.symbol, slSetAt,
            slPrice, .protective⟩,
          db.nextTradeId),
        db.afterPlacement p slPrice tpPrice notionalUsd slSetAt) := by
  simp only [transaction, persistPlacementTx, insertOrder, insertTrade,
    updateTradeLifecycleState, updateTrade, insertPositionState, insertTradingEvent, bind,
    StateT.bind, Except.bind, pure_apply, free, if_true]
  rfl

/-- A placement on a key that is held is refused. -/
theorem persistPlacementTx_held {row : PositionStateRow}
    (held : db.positions.lookup p.key = some row) :
    transaction true (persistPlacementTx p slPrice tpPrice notionalUsd slSetAt) db =
      (.error .databaseError, db) := by
  simp only [transaction, persistPlacementTx, insertOrder, insertTrade,
    updateTradeLifecycleState, updateTrade, insertPositionState, bind, StateT.bind,
    Except.bind, held]

/-- A placement is written exactly when the bot holds no position of the symbol. -/
theorem persistPlacementTx_eq (p : Placed) (slPrice tpPrice notionalUsd : ℚ) (slSetAt : ℕ)
    (db : Db) :
    (transaction true (persistPlacementTx p slPrice tpPrice notionalUsd slSetAt) db).2 =
      if db.positions.lookup p.key = none then
        db.afterPlacement p slPrice tpPrice notionalUsd slSetAt
      else db := by
  cases held : db.positions.lookup p.key with
  | none => rw [persistPlacementTx_free held, if_pos rfl]
  | some row => rw [persistPlacementTx_held held, if_neg (Option.some_ne_none row)]

end Placements

/-- The tables after the transaction of `emergency_close`. -/
def Db.afterEmergencyClose (db : Db) (p : Placed) (closeExchangeOrderId : String)
    (closeAt : ℕ) : Db where
  orders := db.orders ++
    [{ p.openOrder .emergencyClosed (some closeAt) with
        id := db.nextOrderId, price := numeric 12 p.fillPrice }] ++
    [{ id := db.nextOrderId + 1, botId := p.botId, signalId := some p.request.signalId,
       correlationId := p.envelope.correlationId, exchangeOrderId := closeExchangeOrderId,
       symbol := p.request.symbol, side := p.request.side.opposite, qty := p.qty,
       price := numeric 12 p.fillPrice, status := .filled, requestedAt := closeAt,
       filledAt := some closeAt, closedAt := some closeAt }]
  trades := updateWhere (·.id == db.nextTradeId) (.enter .closed)
    (updateWhere (·.id == db.nextTradeId)
      (.close p.fillPrice 0 (some 0) closeAt .emergency (db.nextOrderId + 1))
      (updateWhere (·.id == db.nextTradeId) (.enter .isOpen)
        (db.trades ++
          [{ p.trade db.nextOrderId (computeNotionalUsd p.qty p.fillPrice) none with
              id := db.nextTradeId, entryPrice := numeric 12 p.fillPrice,
              notionalUsd := numeric 4 (computeNotionalUsd p.qty p.fillPrice),
              status := .isOpen }])))
  executions := db.executions
  positions := db.positions
  tradingEvents := db.tradingEvents ++
    [⟨p.placeResult.placedAt, p.botId, p.envelope.correlationId,
      .orderPlaced (p.orderPlaced db.nextOrderId)⟩] ++
    [⟨closeAt, p.botId, p.envelope.correlationId,
      .orderClosed ⟨p.botId, db.nextOrderId + 1, closeExchangeOrderId, p.request.symbol, closeAt,
        0, .emergency⟩⟩]
  nextOrderId := db.nextOrderId + 2
  nextTradeId := db.nextTradeId + 1

theorem emergencyCloseTx_eq (p : Placed) (closeExchangeOrderId : String) (closeAt : ℕ)
    (db : Db) :
    (transaction true (emergencyCloseTx p closeExchangeOrderId closeAt) db).2 =
      db.afterEmergencyClose p closeExchangeOrderId closeAt := by
  simp only [transaction, emergencyCloseTx, insertOrder, insertTrade, updateTradeClose,
    updateTradeLifecycleState, updateTrade, insertTradingEvent, bind, StateT.bind, Except.bind,
    pure_apply, if_true]
  rfl

/-! ## Steps -/

/-- What the monitor writes to a position row. -/
inductive MonitorWrite where
  | slMoved (slPrice : ℚ) (slType : SlType) (updatedAt : ℕ)
  | ticked (bestPrice mfePrice maePrice runningPnl : ℚ) (updatedAt : ℕ)

def MonitorWrite.tx (key : PositionKey) : MonitorWrite → Tx ℕ
  | .slMoved slPrice slType updatedAt => updatePositionStateSl key slPrice slType updatedAt
  | .ticked bestPrice mfePrice maePrice runningPnl updatedAt =>
      updatePositionStateMonitorTick key bestPrice mfePrice maePrice runningPnl updatedAt

/-- The assignment of a monitor write. -/
def MonitorWrite.set : MonitorWrite → PositionStateRow → PositionStateRow
  | .slMoved slPrice slType updatedAt => .moveSl slPrice slType updatedAt
  | .ticked bestPrice mfePrice maePrice runningPnl updatedAt =>
      .tick bestPrice mfePrice maePrice runningPnl updatedAt

/-- A transaction of the service, and whether the database lets it commit. -/
inductive Step where
  | placed (p : Placed) (slPrice tpPrice notionalUsd : ℚ) (slSetAt : ℕ) (commits : Bool)
  | emergencyClosed (p : Placed) (closeExchangeOrderId : String) (closeAt : ℕ) (commits : Bool)
  | monitored (key : PositionKey) (write : MonitorWrite) (commits : Bool)
  | fill (botId : String) (delivery : Delivery)

def step : Step → Db → Db
  | .placed p slPrice tpPrice notionalUsd slSetAt commits, db =>
      (transaction commits (persistPlacementTx p slPrice tpPrice notionalUsd slSetAt) db).2
  | .emergencyClosed p closeExchangeOrderId closeAt commits, db =>
      (transaction commits (emergencyCloseTx p closeExchangeOrderId closeAt) db).2
  | .monitored key write commits, db => (transaction commits (write.tx key) db).2
  | .fill botId delivery, db => (process botId delivery db).2

/-- A transaction that does not commit changes nothing. -/
theorem transaction_false {α : Type} (body : Tx α) (db : Db) :
    (transaction false body db).2 = db := by
  simp only [transaction]
  split <;> rfl

theorem monitorWrite_eq (key : PositionKey) (write : MonitorWrite) (db : Db) :
    (transaction true (write.tx key) db).2 =
      match db.positions.lookup key with
      | some row => { db with positions := db.positions.insert key (write.set row) }
      | none => db := by
  cases held : db.positions.lookup key with
  | none =>
      cases write <;>
        simp [transaction, MonitorWrite.tx, updatePositionStateSl, updatePositionStateMonitorTick,
          updatePosition, held]
  | some row =>
      cases write <;>
        simp [transaction, MonitorWrite.tx, MonitorWrite.set, updatePositionStateSl,
          updatePositionStateMonitorTick, updatePosition, held]

/-- Everything a step can do to the tables. -/
inductive Change (db : Db) : Step → Db → Prop where
  | nothing (s : Step) : Change db s db
  | placed {p : Placed} {slPrice tpPrice notionalUsd : ℚ} {slSetAt : ℕ} {commits : Bool}
      (free : db.positions.lookup p.key = none) :
      Change db (.placed p slPrice tpPrice notionalUsd slSetAt commits)
        (db.afterPlacement p slPrice tpPrice notionalUsd slSetAt)
  | emergencyClosed {p : Placed} {closeExchangeOrderId : String} {closeAt : ℕ} {commits : Bool} :
      Change db (.emergencyClosed p closeExchangeOrderId closeAt commits)
        (db.afterEmergencyClose p closeExchangeOrderId closeAt)
  | monitored {key : PositionKey} {write : MonitorWrite} {commits : Bool}
      {row : PositionStateRow} (held : db.positions.lookup key = some row) :
      Change db (.monitored key write commits)
        { db with positions := db.positions.insert key (write.set row) }
  | recorded {botId : String} {delivery : Delivery} {closed : Option OrderClosed} {db' : Db}
      (recorded : Recorded botId delivery.event delivery.reads delivery.now db closed db') :
      Change db (.fill botId delivery) db'

/-- A committed event, as its caller sees it. -/
theorem process_ok_iff {botId : String} {delivery : Delivery} {db db' : Db}
    {closed : Option OrderClosed} :
    process botId delivery db = (.ok closed, db') ↔
      delivery.commits = true ∧
        Recorded botId delivery.event delivery.reads delivery.now db closed db' := by
  rw [← processTx_ok_iff, process, transaction]
  cases processTx botId delivery.event delivery.reads delivery.now db with
  | error raised => simp
  | ok result =>
      cases delivery.commits with
      | false => simp
      | true => simp [Prod.ext_iff]

/-- An event that raises leaves the tables as they were. -/
theorem process_error {botId : String} {delivery : Delivery} {db : Db} {raised : TxError}
    (raises : (process botId delivery db).1 = .error raised) :
    (process botId delivery db).2 = db := by
  simp only [process, transaction] at raises ⊢
  cases attempt : processTx botId delivery.event delivery.reads delivery.now db with
  | error _ => rfl
  | ok result =>
      cases commits : delivery.commits with
      | false => simp
      | true => simp [attempt, commits] at raises

theorem step_change (s : Step) (db : Db) : Change db s (step s db) := by
  cases s with
  | placed p slPrice tpPrice notionalUsd slSetAt commits =>
      cases commits with
      | false => simpa only [step, transaction_false] using Change.nothing _
      | true =>
          simp only [step, persistPlacementTx_eq]
          split_ifs with free
          · exact .placed free
          · exact .nothing _
  | emergencyClosed p closeExchangeOrderId closeAt commits =>
      cases commits with
      | false => simpa only [step, transaction_false] using Change.nothing _
      | true => simpa only [step, emergencyCloseTx_eq] using Change.emergencyClosed
  | monitored key write commits =>
      cases commits with
      | false => simpa only [step, transaction_false] using Change.nothing _
      | true =>
          simp only [step, monitorWrite_eq]
          cases held : db.positions.lookup key with
          | none => exact .nothing _
          | some row => exact .monitored held
  | fill botId delivery =>
      simp only [step]
      cases outcome : (process botId delivery db).1 with
      | error raised => rw [process_error outcome]; exact .nothing _
      | ok closed =>
          have returned : process botId delivery db = (.ok closed, (process botId delivery db).2) :=
            Prod.ext outcome rfl
          exact .recorded (process_ok_iff.mp returned).2

end Scalper.Execution
