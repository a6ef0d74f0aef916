import Scalper.Execution.Dispatcher
import Scalper.Lib.Transaction

/-!
# What a recorded fill does

The dispatcher's transaction, taken apart once.  `processTx_ok_iff` says when an event is
recorded and what it does to the tables: it is a fill of the opening order, which only
charges its fee to the trade (`Db.charge`), a fill that leaves part of the position
(`Db.recordPart`), or the fill that closes the trade (`Db.recordClose`).  Every later result
starts from these three (`Recorded`).
-/

set_option autoImplicit false

namespace Scalper.Execution

open Scalper.Lib Scalper.Exchange

/-! ## What a recorded fill does to the tables -/

/-- The execution, and its fee on the trade. -/
def Db.charge (db : Db) (row : ExecutionRow) (tradeId : ℕ) : Db :=
  { db with
    executions := db.executions ++ [row.stored]
    trades := updateWhere (·.id == tradeId) (.addFee row.fee) db.trades }

/-- The same, and the decrement of the position. -/
def Db.reduce (db : Db) (row : ExecutionRow) (key : PositionKey) (ps : PositionStateRow)
    (now : ℕ) : Db :=
  { db.charge row ps.tradeId with
    positions := db.positions.insert key
      (ps.afterFill row.qty (newSlType row.execType) now) }

/-- A fill that leaves part of the position. -/
def Db.recordPart (db : Db) (row : ExecutionRow) (key : PositionKey) (ps : PositionStateRow)
    (now : ℕ) : Db :=
  { db.reduce row key ps now with
    trades := updateWhere (·.id == ps.tradeId) (.enter .partiallyClosed)
      (db.reduce row key ps now).trades }

/-- The fill that closes the trade. -/
def Db.recordClose (db : Db) (row : ExecutionRow) (key : PositionKey) (ps : PositionStateRow)
    (now : ℕ) (realizedPnl : ℚ) : Db :=
  { db.reduce row key ps now with
    trades := updateWhere (·.id == ps.tradeId) (.enter .closed)
      (updateWhere (·.id == ps.tradeId)
        (.close row.price realizedPnl none row.executedAt (execTypeToCloseReason row.execType)
          row.orderId)
        (db.reduce row key ps now).trades)
    positions := (db.reduce row key ps now).positions.erase key }

/-- The event of a close. -/
def orderClosed (row : ExecutionRow) (exchangeOrderId : String) (realizedPnl : ℚ) :
    OrderClosed where
  botId := row.botId
  orderId := row.orderId
  exchangeOrderId := exchangeOrderId
  symbol := row.symbol
  timestamp := row.executedAt
  realizedPnl := realizedPnl
  closeReason := execTypeToCloseReason row.execType

/-- A fill that takes from the position row `ps`: one of no order of ours, which takes no
more than remains, or one of the order the row's trade was closed with. -/
structure Reduces (botId : String) (event : Fill) (db : Db) (orderId : ℕ) (derived : Derived)
    (ps : PositionStateRow) : Prop where
  held : db.positions.lookup (botId, event.symbol) = some ps
  ofTrade : derived.tradeId = some ps.tradeId
  notOpen : derived.execType ≠ .isOpen
  accepted : db.accepts (executionRow botId event orderId derived) = true
  origin :
    (db.selectOrderIdByExchangeId event.exchangeOrderId = none ∧
        derived = derivePositionFill event ps ∧ event.qty ≤ ps.remainingQty ∧
        db.selectOpenOrderIdByTradeId ps.tradeId = some orderId) ∨
      (db.selectOrderIdByExchangeId event.exchangeOrderId = some orderId ∧
        ∃ trade, db.selectTradeByOpenOrderId orderId = none ∧
          db.selectTradeByCloseOrderId orderId = some trade ∧ trade.id = ps.tradeId ∧
          derived = ⟨.close, some trade.id, none⟩)

/-- The three ways an event is recorded. -/
inductive Recorded (botId : String) (event : Fill) (reads : ClosedPnlReads) (now : ℕ)
    (db : Db) : Option OrderClosed → Db → Prop where
  | opened {orderId : ℕ} {trade : TradeRow}
      (matched : db.selectOrderIdByExchangeId event.exchangeOrderId = some orderId)
      (opens : db.selectTradeByOpenOrderId orderId = some trade)
      (accepted : db.accepts
        (executionRow botId event orderId ⟨.isOpen, some trade.id, none⟩) = true) :
      Recorded botId event reads now db none
        (db.charge (executionRow botId event orderId ⟨.isOpen, some trade.id, none⟩) trade.id)
  | part {orderId : ℕ} {derived : Derived} {ps : PositionStateRow}
      (reduces : Reduces botId event db orderId derived ps)
      (remains : ps.remainingQty - event.qty ≠ 0) :
      Recorded botId event reads now db none
        (db.recordPart (executionRow botId event orderId derived) (botId, event.symbol) ps now)
  | closed {orderId : ℕ} {derived : Derived} {ps : PositionStateRow} {before after : ℚ}
      {correlationId exchangeOrderId : String}
      (reduces : Reduces botId event db orderId derived ps)
      (emptied : ps.remainingQty - event.qty = 0)
      (readBefore : reads.before = .ok before) (readAfter : reads.after = .ok after)
      (known : db.selectOrderMetaById orderId = some (correlationId, exchangeOrderId)) :
      Recorded botId event reads now db
        (some (orderClosed (executionRow botId event orderId derived) exchangeOrderId
          (after - before)))
        (db.recordClose (executionRow botId event orderId derived) (botId, event.symbol) ps now
          (after - before))

/-! ## When each statement returns -/

section Statements

variable {db : Db} {key : PositionKey} {event : Fill} {derived : Derived}

theorem haltOnOverFill_ok_iff {result : Unit × Db} :
    haltOnOverFill key event derived db = .ok result ↔
      result = ((), db) ∧
        (derived.execType = .unknown → derived.tradeId.isSome →
          ∀ ps, db.positions.lookup key = some ps → event.qty ≤ ps.remainingQty) := by
  simp only [haltOnOverFill, Db.selectPositionState]
  split_ifs with unattributed
  · cases held : db.positions.lookup key with
    | none => simpa using eq_comm
    | some ps =>
        by_cases exceeds : ps.remainingQty < event.qty
        · simp [exceeds, unattributed.1, unattributed.2]
        · simpa [exceeds, not_lt.mp exceeds] using eq_comm
  · rw [ok_iff]
    constructor
    · rintro rfl
      exact ⟨rfl, fun isUnknown known => absurd ⟨isUnknown, known⟩ unattributed⟩
    · rintro ⟨rfl, _⟩
      rfl

theorem orderIdForInsert_ok_iff {orderIdMatch tradeId : Option ℕ} {result : ℕ × Db} :
    orderIdForInsert orderIdMatch tradeId db = .ok result ↔
      ∃ id, tradeId = some id ∧ result.2 = db ∧
        (orderIdMatch = some result.1 ∨
          orderIdMatch = none ∧ db.selectOpenOrderIdByTradeId id = some result.1) := by
  obtain ⟨orderId, after⟩ := result
  cases orderIdMatch with
  | some matched =>
      cases tradeId with
      | none => simp [orderIdForInsert]
      | some id => simp [orderIdForInsert, and_comm, eq_comm]
  | none =>
      cases tradeId with
      | none => simp [orderIdForInsert]
      | some id =>
          cases found : db.selectOpenOrderIdByTradeId id with
          | none => simp [orderIdForInsert, found]
          | some opening => simp [orderIdForInsert, found, and_comm, eq_comm]

theorem insertExecution_ok_iff {row : ExecutionRow} {result : Unit × Db} :
    insertExecution row db = .ok result ↔
      db.accepts row = true ∧
        result = ((), { db with executions := db.executions ++ [row.stored] }) := by
  simp only [insertExecution]
  split_ifs with accepted
  · simp [accepted, eq_comm]
  · simp [accepted]

theorem expectTradeId_ok_iff {tradeId : Option ℕ} {result : ℕ × Db} :
    expectTradeId tradeId db = .ok result ↔ tradeId = some result.1 ∧ result.2 = db := by
  obtain ⟨id, after⟩ := result
  cases tradeId with
  | none => simp [expectTradeId]
  | some known => simp [expectTradeId, eq_comm]

/-- The decrement returns exactly when the row is there and still that of the trade. -/
theorem reducePosition_ok_iff {now : ℕ} {result : Unit × Db} :
    reducePosition key event derived now db = .ok result ↔
      ∃ ps, db.positions.lookup key = some ps ∧ derived.tradeId = some ps.tradeId ∧
        result.2 =
          { db with
            positions := db.positions.insert key
              (ps.afterFill event.qty (newSlType derived.execType) now) } := by
  simp only [reducePosition, updatePositionStateAfterFill, updatePosition, bind_ok_iff,
    expectTradeId_ok_iff]
  constructor
  · rintro ⟨tradeId, same, ⟨ofTrade, unchanged⟩, updated, after, spec, checked⟩
    obtain rfl : same = db := unchanged
    cases held : same.positions.lookup key with
    | none =>
        obtain ⟨rfl, rfl⟩ : 0 = updated ∧ same = after := by simpa [held] using spec
        exact absurd checked (by simp [throw_ok_iff])
    | some ps =>
        by_cases sameTrade : ps.tradeId = tradeId
        · obtain ⟨rfl, rfl⟩ : 1 = updated ∧ _ = after := by
            simpa [held, sameTrade] using spec
          exact ⟨ps, rfl, sameTrade ▸ ofTrade, congrArg Prod.snd (pure_ok_iff.mp checked)⟩
        · obtain ⟨rfl, rfl⟩ : 0 = updated ∧ same = after := by
            simpa [held, sameTrade] using spec
          exact absurd checked (by simp [throw_ok_iff])
  · rintro ⟨ps, held, ofTrade, after⟩
    refine ⟨ps.tradeId, db, ⟨ofTrade, rfl⟩, 1, result.2, ?_, ?_⟩
    · simp [held, after]
    · exact pure_ok_iff.mpr rfl

theorem chargeFee_ok_iff {fee : ℚ} {tradeId : ℕ} {result : Unit × Db} :
    chargeFee fee (some tradeId) db = .ok result ↔
      result.2 = { db with trades := updateWhere (·.id == tradeId) (.addFee fee) db.trades } := by
  simp only [chargeFee, updateTradeFeesIncremental, updateTrade, ok_iff, Prod.ext_iff, true_and]

theorem callAdapter_ok_iff {α : Type} {outcome : Except ExchangeError α} {result : α × Db} :
    callAdapter outcome db = .ok result ↔ outcome = .ok result.1 ∧ result.2 = db := by
  obtain ⟨value, after⟩ := result
  cases outcome with
  | error raised => simp [callAdapter]
  | ok read => simp [callAdapter, eq_comm]

theorem orderMeta_ok_iff {orderId : ℕ} {result : (String × String) × Db} :
    orderMeta orderId db = .ok result ↔
      db.selectOrderMetaById orderId = some result.1 ∧ result.2 = db := by
  obtain ⟨found, after⟩ := result
  cases known : db.selectOrderMetaById orderId with
  | none => simp [orderMeta, known]
  | some read => simp [orderMeta, known, eq_comm]

theorem resolveCloseOrderId_ok_iff {tradeId : ℕ} {orderIdMatch : Option ℕ} {result : ℕ × Db} :
    resolveCloseOrderId tradeId orderIdMatch db = .ok result ↔
      (orderIdMatch = some result.1 ∨
          orderIdMatch = none ∧ db.selectOpenOrderIdByTradeId tradeId = some result.1) ∧
        result.2 = db := by
  obtain ⟨orderId, after⟩ := result
  cases orderIdMatch with
  | some matched =>
      simp only [resolveCloseOrderId, pure_ok_iff]
      simp [eq_comm]
  | none =>
      cases found : db.selectOpenOrderIdByTradeId tradeId with
      | none => simp [resolveCloseOrderId, found]
      | some opening => simp [resolveCloseOrderId, found, eq_comm]

/-- The close flow returns exactly when the closing order is known and both profit readings
succeed. -/
theorem reconcileClose_ok_iff {reads : ClosedPnlReads} {tradeId : ℕ} {orderIdMatch : Option ℕ}
    {execType : ExecType} {price : ℚ} {closedAt : ℕ} {payload : OrderClosed}
    {correlation : String × String} {db' : Db} :
    reconcileClose key reads tradeId orderIdMatch execType none price closedAt db =
        .ok ((payload, correlation), db') ↔
      ∃ orderId before after,
        (orderIdMatch = some orderId ∨
          orderIdMatch = none ∧ db.selectOpenOrderIdByTradeId tradeId = some orderId) ∧
        db.selectOrderMetaById orderId = some correlation ∧
        reads.before = .ok before ∧ reads.after = .ok after ∧
        payload = ⟨key.1, orderId, correlation.2, key.2, closedAt, after - before,
          execTypeToCloseReason execType⟩ ∧
        db' =
          { db with
            trades := updateWhere (·.id == tradeId) (.enter .closed)
              (updateWhere (·.id == tradeId)
                (.close price (after - before) none closedAt (execTypeToCloseReason execType)
                  orderId) db.trades)
            positions := db.positions.erase key } := by
  simp only [reconcileClose, bind_ok_iff, resolveCloseOrderId_ok_iff, orderMeta_ok_iff,
    callAdapter_ok_iff, updateTradeClose, updateTradeLifecycleState, updateTrade,
    deletePositionState, pure_ok_iff, ok_iff]
  constructor
  · rintro ⟨orderId, _, ⟨resolved, rfl⟩, _, _, ⟨known, rfl⟩, before, _, ⟨readBefore, rfl⟩,
      after, _, ⟨readAfter, rfl⟩, _, _, ⟨⟩, _, _, ⟨⟩, _, _, ⟨⟩, ⟨⟩⟩
    exact ⟨orderId, before, after, resolved, known, readBefore, readAfter, rfl, rfl⟩
  · rintro ⟨orderId, before, after, resolved, known, readBefore, readAfter, rfl, rfl⟩
    exact ⟨orderId, db, ⟨resolved, rfl⟩, correlation, db, ⟨known, rfl⟩, before, db,
      ⟨readBefore, rfl⟩, after, db, ⟨readAfter, rfl⟩, _, _, rfl, _, _, rfl, _, _, rfl, rfl⟩

/-- After the decrement: the close flow when nothing remains, else the partial-fill mark. -/
theorem settlePosition_ok_iff {reads : ClosedPnlReads} {orderIdMatch : Option ℕ}
    {ps : PositionStateRow} {closed : Option OrderClosed} {db' : Db}
    (held : db.positions.lookup key = some ps) (ofTrade : derived.tradeId = some ps.tradeId) :
    settlePosition key event reads orderIdMatch derived db = .ok (closed, db') ↔
      (ps.remainingQty ≠ 0 ∧ closed = none ∧
        db' = { db with
          trades := updateWhere (·.id == ps.tradeId) (.enter .partiallyClosed) db.trades }) ∨
      (ps.remainingQty = 0 ∧ ∃ payload correlation, closed = some payload ∧
        reconcileClose key reads ps.tradeId orderIdMatch derived.execType none event.price
          event.executedAt db = .ok ((payload, correlation), db')) := by
  have unfolded : settlePosition key event reads orderIdMatch derived db =
      (if ps.remainingQty = 0 then do
        let result ← reconcileClose key reads ps.tradeId orderIdMatch derived.execType none
          event.price event.executedAt
        pure (some result.1)
      else do
        updateTradeLifecycleState ps.tradeId .partiallyClosed
        pure none : Tx (Option OrderClosed)) db := by
    simp only [settlePosition, bind, StateT.bind, Except.bind, get, getThe, MonadStateOf.get,
      StateT.get, pure, Except.pure, Db.selectPositionState, held, ofTrade, expectTradeId]
  rw [unfolded]
  by_cases empty : ps.remainingQty = 0
  · simp only [empty, if_true, bind_ok_iff, pure_ok_iff, Prod.mk.injEq, ne_eq, not_true_eq_false,
      false_and, true_and, false_or]
    constructor
    · rintro ⟨⟨payload, correlation⟩, _, returned, rfl, rfl⟩
      exact ⟨payload, correlation, rfl, returned⟩
    · rintro ⟨payload, correlation, rfl, returned⟩
      exact ⟨(payload, correlation), db', returned, rfl, rfl⟩
  · simp only [empty, if_false, bind_ok_iff, pure_ok_iff, Prod.mk.injEq, ne_eq, not_false_eq_true,
      true_and, false_and, or_false, updateTradeLifecycleState, updateTrade, ok_iff]
    constructor
    · rintro ⟨_, _, rfl, rfl, rfl⟩
      exact ⟨rfl, rfl⟩
    · rintro ⟨rfl, rfl⟩
      exact ⟨(), _, rfl, rfl, rfl⟩

end Statements

/-! ## When an event is recorded -/

section Recording

variable {botId : String} {event : Fill} {reads : ClosedPnlReads} {now : ℕ} {db db' : Db}
  {derived : Derived} {orderIdMatch : Option ℕ} {closed : Option OrderClosed}

theorem selectOpenOrderIdByTradeId_charge (row : ExecutionRow) (tradeId id : ℕ) :
    (db.charge row tradeId).selectOpenOrderIdByTradeId id = db.selectOpenOrderIdByTradeId id := by
  refine map_find?_updateWhere ?_ ?_ db.trades
  · exact fun _ => rfl
  · exact fun _ => rfl

/-- A fill of the opening order is charged to its trade and nothing else. -/
theorem recordFill_open_ok_iff {orderId tradeId : ℕ} :
    recordFill botId event reads now (some orderId) ⟨.isOpen, some tradeId, none⟩ db =
        .ok (closed, db') ↔
      db.accepts (executionRow botId event orderId ⟨.isOpen, some tradeId, none⟩) = true ∧
        closed = none ∧
        db' = db.charge (executionRow botId event orderId ⟨.isOpen, some tradeId, none⟩)
          tradeId := by
  simp only [recordFill, bind_ok_iff, haltOnOverFill_ok_iff, orderIdForInsert_ok_iff,
    insertExecution_ok_iff, if_true, chargeFee_ok_iff, pure_ok_iff]
  constructor
  · rintro ⟨_, _, ⟨⟨⟩, _⟩, _, _, ⟨_, ⟨⟩, rfl, ⟨⟨⟩⟩ | ⟨⟨⟩, _⟩⟩, _, _, ⟨accepted, ⟨⟩⟩, _, _, ⟨⟩, _, _,
      rfl, ⟨⟩⟩
    exact ⟨accepted, rfl, rfl⟩
  · rintro ⟨accepted, rfl, rfl⟩
    exact ⟨(), db, ⟨rfl, fun impossible => nomatch impossible⟩, orderId, db,
      ⟨tradeId, rfl, rfl, .inl rfl⟩, (), _, ⟨accepted, rfl⟩, (), _, rfl, (), _, rfl, rfl⟩

/-- Any other fill is recorded exactly when the position row of its trade is there, a fill
of unknown origin takes no more than remains of it, the execution is accepted, and, if
nothing remains, the close flow returns. -/
theorem recordFill_reducing_ok_iff (notOpen : derived.execType ≠ .isOpen) :
    recordFill botId event reads now orderIdMatch derived db = .ok (closed, db') ↔
      ∃ orderId ps, db.positions.lookup (botId, event.symbol) = some ps ∧
        derived.tradeId = some ps.tradeId ∧
        (derived.execType = .unknown → event.qty ≤ ps.remainingQty) ∧
        (orderIdMatch = some orderId ∨
          orderIdMatch = none ∧ db.selectOpenOrderIdByTradeId ps.tradeId = some orderId) ∧
        db.accepts (executionRow botId event orderId derived) = true ∧
        settlePosition (botId, event.symbol) event reads orderIdMatch derived
          (db.reduce (executionRow botId event orderId derived) (botId, event.symbol) ps now) =
            .ok (closed, db') := by
  simp only [recordFill, bind_ok_iff, haltOnOverFill_ok_iff, orderIdForInsert_ok_iff,
    insertExecution_ok_iff, notOpen, if_false, reducePosition_ok_iff]
  constructor
  · rintro ⟨_, _, ⟨⟨⟩, fits⟩, orderId, _, ⟨tradeId, known, rfl, resolved⟩, _, _, ⟨accepted, ⟨⟩⟩,
      _, _, ⟨ps, held, ofTrade, rfl⟩, _, _, charged, settled⟩
    obtain rfl : tradeId = ps.tradeId := Option.some.inj (known.symm.trans ofTrade)
    rw [ofTrade, chargeFee_ok_iff] at charged
    obtain rfl := charged
    refine ⟨orderId, ps, held, ofTrade, fun isUnknown => ?_, resolved, accepted, settled⟩
    exact fits isUnknown (by rw [ofTrade]; rfl) ps held
  · rintro ⟨orderId, ps, held, ofTrade, fits, resolved, accepted, settled⟩
    have within : derived.execType = .unknown → derived.tradeId.isSome = true →
        ∀ row, db.positions.lookup (botId, event.symbol) = some row →
          event.qty ≤ row.remainingQty := by
      intro isUnknown _ row found
      rw [held, Option.some.injEq] at found
      exact found ▸ fits isUnknown
    refine ⟨(), db, ⟨rfl, within⟩, orderId, db, ⟨ps.tradeId, ofTrade, rfl, resolved⟩, (), _,
      ⟨accepted, rfl⟩, (), _, ⟨ps, held, ofTrade, rfl⟩, (), _, ?_, settled⟩
    rw [ofTrade, chargeFee_ok_iff]
    rfl

theorem derivePositionFill_tradeId (event : Fill) (ps : PositionStateRow) :
    (derivePositionFill event ps).tradeId = some ps.tradeId := by
  simp only [derivePositionFill]
  split_ifs <;> first | rfl | split <;> rfl

theorem derivePositionFill_notOpen (event : Fill) (ps : PositionStateRow) :
    (derivePositionFill event ps).execType ≠ .isOpen := by
  simp only [derivePositionFill]
  split_ifs
  · simp
  · simp
  · split <;> simp
  · simp

/-- Only a fill of unknown origin can ask for more than remains. -/
theorem qty_le_of_derivePositionFill {event : Fill} {ps : PositionStateRow}
    (known : (derivePositionFill event ps).execType ≠ .unknown) :
    event.qty ≤ ps.remainingQty := by
  simp only [derivePositionFill] at known
  split_ifs at known with sameSide less equal
  · exact absurd rfl known
  · exact less.le
  · exact equal.le
  · exact absurd rfl known

/-- Settling a decrement: what is left of the row decides, and the closing order is the one
the execution is attributed to. -/
theorem settlePosition_reduce_ok_iff {orderId : ℕ} {ps : PositionStateRow}
    (ofTrade : derived.tradeId = some ps.tradeId)
    (resolved : orderIdMatch = some orderId ∨
      orderIdMatch = none ∧ db.selectOpenOrderIdByTradeId ps.tradeId = some orderId) :
    settlePosition (botId, event.symbol) event reads orderIdMatch derived
        (db.reduce (executionRow botId event orderId derived) (botId, event.symbol) ps now) =
          .ok (closed, db') ↔
      (ps.remainingQty - event.qty ≠ 0 ∧ closed = none ∧
        db' = db.recordPart (executionRow botId event orderId derived) (botId, event.symbol)
          ps now) ∨
      (ps.remainingQty - event.qty = 0 ∧ ∃ before after correlationId exchangeOrderId,
        reads.before = .ok before ∧ reads.after = .ok after ∧
        db.selectOrderMetaById orderId = some (correlationId, exchangeOrderId) ∧
        closed = some (orderClosed (executionRow botId event orderId derived) exchangeOrderId
          (after - before)) ∧
        db' = db.recordClose (executionRow botId event orderId derived) (botId, event.symbol)
          ps now (after - before)) := by
  have held : (db.reduce (executionRow botId event orderId derived) (botId, event.symbol) ps
      now).positions.lookup (botId, event.symbol) =
        some (ps.afterFill event.qty (newSlType derived.execType) now) :=
    AList.lookup_insert db.positions
  rw [settlePosition_ok_iff held ofTrade]
  refine or_congr Iff.rfl (and_congr Iff.rfl ?_)
  have sameOrder : ∀ other,
      (orderIdMatch = some other ∨ orderIdMatch = none ∧
        (db.reduce (executionRow botId event orderId derived) (botId, event.symbol) ps
          now).selectOpenOrderIdByTradeId ps.tradeId = some other) → other = orderId := by
    intro other chosen
    rw [show (db.reduce (executionRow botId event orderId derived) (botId, event.symbol) ps
      now).selectOpenOrderIdByTradeId ps.tradeId = _ from
        selectOpenOrderIdByTradeId_charge _ ps.tradeId ps.tradeId] at chosen
    rcases resolved with rfl | ⟨rfl, opening⟩
    · simpa [eq_comm] using chosen
    · simpa [opening, eq_comm] using chosen
  constructor
  · rintro ⟨payload, ⟨correlationId, exchangeOrderId⟩, rfl, returned⟩
    obtain ⟨other, before, after, chosen, known, readBefore, readAfter, rfl, rfl⟩ :=
      reconcileClose_ok_iff.mp returned
    obtain rfl := sameOrder other chosen
    exact ⟨before, after, correlationId, exchangeOrderId, readBefore, readAfter, known, rfl, rfl⟩
  · rintro ⟨before, after, correlationId, exchangeOrderId, readBefore, readAfter, known, rfl, rfl⟩
    refine ⟨_, (correlationId, exchangeOrderId), rfl, reconcileClose_ok_iff.mpr
      ⟨orderId, before, after, ?_, known, readBefore, readAfter, rfl, rfl⟩⟩
    rcases resolved with rfl | ⟨rfl, opening⟩
    · exact .inl rfl
    · exact .inr ⟨rfl, (selectOpenOrderIdByTradeId_charge _ ps.tradeId ps.tradeId).trans opening⟩

theorem Recorded.of_reduces {orderId : ℕ} {ps : PositionStateRow}
    (reduces : Reduces botId event db orderId derived ps)
    (resolved : orderIdMatch = some orderId ∨
      orderIdMatch = none ∧ db.selectOpenOrderIdByTradeId ps.tradeId = some orderId)
    (settled : settlePosition (botId, event.symbol) event reads orderIdMatch derived
      (db.reduce (executionRow botId event orderId derived) (botId, event.symbol) ps now) =
        .ok (closed, db')) :
    Recorded botId event reads now db closed db' := by
  rcases (settlePosition_reduce_ok_iff reduces.ofTrade resolved).mp settled with
    ⟨remains, rfl, rfl⟩ | ⟨emptied, before, after, _, _, readBefore, readAfter, known, rfl, rfl⟩
  · exact .part reduces remains
  · exact .closed reduces emptied readBefore readAfter known

/-- A recorded event went one of the three ways. -/
theorem Recorded.of_processTx (returned : processTx botId event reads now db = .ok (closed, db')) :
    Recorded botId event reads now db closed db' := by
  simp only [processTx] at returned
  cases matched : db.selectOrderIdByExchangeId event.exchangeOrderId with
  | some orderId =>
      cases opens : db.selectTradeByOpenOrderId orderId with
      | some trade =>
          simp only [matched, deriveExecType, opens] at returned
          obtain ⟨accepted, rfl, rfl⟩ := recordFill_open_ok_iff.mp returned
          exact .opened matched opens accepted
      | none =>
          cases closes : db.selectTradeByCloseOrderId orderId with
          | some trade =>
              simp only [matched, deriveExecType, opens, closes] at returned
              obtain ⟨other, ps, held, ofTrade, _, resolved, accepted, settled⟩ :=
                (recordFill_reducing_ok_iff (by simp)).mp returned
              obtain rfl : orderId = other := by simpa using resolved
              exact .of_reduces ⟨held, ofTrade, by simp, accepted,
                .inr ⟨matched, trade, opens, closes, Option.some.inj ofTrade, rfl⟩⟩
                resolved settled
          | none =>
              simp only [matched, deriveExecType, opens, closes] at returned
              obtain ⟨_, _, _, ofTrade, _⟩ := (recordFill_reducing_ok_iff (by simp)).mp returned
              cases ofTrade
  | none =>
      cases row : db.positions.lookup (botId, event.symbol) with
      | none =>
          simp only [matched, deriveExecType, Db.selectPositionState, row] at returned
          obtain ⟨_, _, _, ofTrade, _⟩ := (recordFill_reducing_ok_iff (by simp)).mp returned
          cases ofTrade
      | some ps =>
          simp only [matched, deriveExecType, Db.selectPositionState, row] at returned
          obtain ⟨orderId, _, held, ofTrade, fits, resolved, accepted, settled⟩ :=
            (recordFill_reducing_ok_iff (derivePositionFill_notOpen event ps)).mp returned
          obtain rfl := Option.some.inj (row.symm.trans held)
          have within : event.qty ≤ ps.remainingQty := by
            by_cases isUnknown : (derivePositionFill event ps).execType = .unknown
            · exact fits isUnknown
            · exact qty_le_of_derivePositionFill isUnknown
          have opening : db.selectOpenOrderIdByTradeId ps.tradeId = some orderId := by
            simpa using resolved
          exact .of_reduces ⟨held, ofTrade, derivePositionFill_notOpen event ps, accepted,
            .inl ⟨matched, rfl, within, opening⟩⟩ resolved settled

theorem Reduces.derives {orderId : ℕ} {ps : PositionStateRow}
    (reduces : Reduces botId event db orderId derived ps) :
    deriveExecType botId event (db.selectOrderIdByExchangeId event.exchangeOrderId) db =
      derived := by
  rcases reduces.origin with ⟨matched, rfl, _, _⟩ | ⟨matched, trade, opens, closes, _, rfl⟩
  · simp only [deriveExecType, matched, Db.selectPositionState, reduces.held]
  · simp only [deriveExecType, matched, opens, closes]

theorem Reduces.resolved {orderId : ℕ} {ps : PositionStateRow}
    (reduces : Reduces botId event db orderId derived ps) :
    db.selectOrderIdByExchangeId event.exchangeOrderId = some orderId ∨
      db.selectOrderIdByExchangeId event.exchangeOrderId = none ∧
        db.selectOpenOrderIdByTradeId ps.tradeId = some orderId := by
  rcases reduces.origin with ⟨matched, _, _, opening⟩ | ⟨matched, _⟩
  · exact .inr ⟨matched, opening⟩
  · exact .inl matched

/-- A fill that takes from a position is recorded as soon as its decrement is settled. -/
theorem Reduces.processTx_ok {orderId : ℕ} {ps : PositionStateRow}
    (reduces : Reduces botId event db orderId derived ps)
    (settled : settlePosition (botId, event.symbol) event reads
      (db.selectOrderIdByExchangeId event.exchangeOrderId) derived
      (db.reduce (executionRow botId event orderId derived) (botId, event.symbol) ps now) =
        .ok (closed, db')) :
    processTx botId event reads now db = .ok (closed, db') := by
  have fits : derived.execType = .unknown → event.qty ≤ ps.remainingQty := by
    rcases reduces.origin with ⟨_, _, within, _⟩ | ⟨_, _, _, _, _, rfl⟩
    · exact fun _ => within
    · exact fun isUnknown => nomatch isUnknown
  simp only [processTx, reduces.derives]
  exact (recordFill_reducing_ok_iff reduces.notOpen).mpr
    ⟨orderId, ps, reduces.held, reduces.ofTrade, fits, reduces.resolved, reduces.accepted, settled⟩

/-- **What a committed event does**: it is recorded in one of the three ways, and in each of
them it is recorded. -/
theorem processTx_ok_iff :
    processTx botId event reads now db = .ok (closed, db') ↔
      Recorded botId event reads now db closed db' := by
  refine ⟨Recorded.of_processTx, fun recorded => ?_⟩
  cases recorded with
  | opened matched opens accepted =>
      simp only [processTx, matched, deriveExecType, opens]
      exact recordFill_open_ok_iff.mpr ⟨accepted, rfl, rfl⟩
  | part reduces remains =>
      exact reduces.processTx_ok ((settlePosition_reduce_ok_iff reduces.ofTrade
        reduces.resolved).mpr (.inl ⟨remains, rfl, rfl⟩))
  | closed reduces emptied readBefore readAfter known =>
      exact reduces.processTx_ok ((settlePosition_reduce_ok_iff reduces.ofTrade
        reduces.resolved).mpr (.inr ⟨emptied, _, _, _, _, readBefore, readAfter, known, rfl, rfl⟩))

end Recording

end Scalper.Execution
