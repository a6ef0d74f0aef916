import Scalper.Execution.Service
import Scalper.Lib.Run

/-!
# What the keys of the live tables are worth

`Integrity` holds in every state the service's transactions reach (`run_integrity`): ids are
fresh, an order is there for every trade, an execution is of a known trade, and a position row
is that of an open trade of its bot and symbol that no closing order has been written for
(`Tracks`).  Every step is one of the changes of `step_change`, and each keeps it.
-/

set_option autoImplicit false

namespace Scalper.Execution

open Scalper.Lib Scalper.Exchange

/-! ## The invariant -/

/-- The trade a position row is about: open, of the row's key and side, not yet closed by an
order. -/
structure Tracks (key : PositionKey) (row : PositionStateRow) (trade : TradeRow) : Prop where
  id : trade.id = row.tradeId
  botId : trade.botId = key.1
  symbol : trade.symbol = key.2
  side : trade.side = row.side
  isOpen : trade.status = .isOpen
  unclosed : trade.closeOrderId = none

/-- What the keys are worth. -/
structure Integrity (db : Db) : Prop where
  orderIds : ∀ order ∈ db.orders, order.id < db.nextOrderId
  tradeIds : ∀ trade ∈ db.trades, trade.id < db.nextTradeId
  tradesDistinct : (db.trades.map (·.id)).Nodup
  openOrders : ∀ trade ∈ db.trades, ∃ order ∈ db.orders, order.id = trade.openOrderId
  executionTrades : ∀ row ∈ db.executions, ∀ tradeId, row.tradeId = some tradeId →
    tradeId < db.nextTradeId
  tracked : ∀ key row, db.positions.lookup key = some row → ∃ trade ∈ db.trades,
    Tracks key row trade

theorem Integrity.initial : Integrity {} where
  orderIds := by simp
  tradeIds := by simp
  tradesDistinct := by simp
  openOrders := by simp
  executionTrades := by simp
  tracked := by
    intro key row held
    simp at held

/-- A rewrite of a trade that leaves alone what identifies it. -/
structure KeepsIdentity (set : TradeRow → TradeRow) : Prop where
  id : ∀ trade, (set trade).id = trade.id
  botId : ∀ trade, (set trade).botId = trade.botId
  symbol : ∀ trade, (set trade).symbol = trade.symbol
  side : ∀ trade, (set trade).side = trade.side
  qty : ∀ trade, (set trade).qty = trade.qty
  openOrderId : ∀ trade, (set trade).openOrderId = trade.openOrderId

theorem keepsIdentity_addFee (fee : ℚ) : KeepsIdentity (.addFee fee) :=
  ⟨fun _ => rfl, fun _ => rfl, fun _ => rfl, fun _ => rfl, fun _ => rfl, fun _ => rfl⟩

theorem keepsIdentity_enter (state : TradeLifecycleState) : KeepsIdentity (.enter state) :=
  ⟨fun _ => rfl, fun _ => rfl, fun _ => rfl, fun _ => rfl, fun _ => rfl, fun _ => rfl⟩

theorem keepsIdentity_close (exitPrice realizedPnl : ℚ) (feesPaid : Option ℚ) (closedAt : ℕ)
    (closeReason : CloseReason) (closeOrderId : ℕ) :
    KeepsIdentity (.close exitPrice realizedPnl feesPaid closedAt closeReason closeOrderId) :=
  ⟨fun _ => rfl, fun _ => rfl, fun _ => rfl, fun _ => rfl, fun _ => rfl, fun _ => rfl⟩

theorem KeepsIdentity.comp {first second : TradeRow → TradeRow} (outer : KeepsIdentity second)
    (inner : KeepsIdentity first) : KeepsIdentity (second ∘ first) where
  id trade := (outer.id _).trans (inner.id trade)
  botId trade := (outer.botId _).trans (inner.botId trade)
  symbol trade := (outer.symbol _).trans (inner.symbol trade)
  side trade := (outer.side _).trans (inner.side trade)
  qty trade := (outer.qty _).trans (inner.qty trade)
  openOrderId trade := (outer.openOrderId _).trans (inner.openOrderId trade)

section Integrity

variable {db db' : Db} {set : TradeRow → TradeRow} {tradeId : ℕ}

theorem recordPart_trades (row : ExecutionRow) (key : PositionKey) (ps : PositionStateRow)
    (now : ℕ) :
    (db.recordPart row key ps now).trades =
      updateWhere (·.id == ps.tradeId) (TradeRow.enter .partiallyClosed ∘ TradeRow.addFee row.fee)
        db.trades := by
  refine updateWhere_updateWhere ?_ db.trades
  exact fun _ => rfl

theorem recordClose_trades (row : ExecutionRow) (key : PositionKey) (ps : PositionStateRow)
    (now : ℕ) (pnl : ℚ) :
    (db.recordClose row key ps now pnl).trades =
      updateWhere (·.id == ps.tradeId)
        ((TradeRow.enter .closed ∘ TradeRow.close row.price pnl none row.executedAt
          (execTypeToCloseReason row.execType) row.orderId) ∘ TradeRow.addFee row.fee)
        db.trades := by
  simp only [Db.recordClose, Db.reduce, Db.charge]
  rw [updateWhere_updateWhere, updateWhere_updateWhere]
  · exact fun _ => rfl
  · exact fun _ => rfl

/-- Rows of one trade have one key. -/
theorem Integrity.key_unique (integrity : Integrity db) {key key' : PositionKey}
    {row row' : PositionStateRow} (held : db.positions.lookup key = some row)
    (held' : db.positions.lookup key' = some row') (same : row.tradeId = row'.tradeId) :
    key = key' := by
  obtain ⟨trade, member, tracks⟩ := integrity.tracked key row held
  obtain ⟨trade', member', tracks'⟩ := integrity.tracked key' row' held'
  have sameTrade : trade = trade' :=
    List.inj_on_of_nodup_map integrity.tradesDistinct member member'
      (tracks.id.trans (same.trans tracks'.id.symm))
  subst sameTrade
  exact Prod.ext (tracks.botId.symm.trans tracks'.botId) (tracks.symbol.symm.trans tracks'.symbol)

/-- A rewrite of one trade, with new executions and position rows. -/
theorem Integrity.rewrite (integrity : Integrity db) (keeps : KeepsIdentity set)
    (orders : db'.orders = db.orders) (nextOrderId : db'.nextOrderId = db.nextOrderId)
    (nextTradeId : db'.nextTradeId = db.nextTradeId)
    (trades : db'.trades = updateWhere (·.id == tradeId) set db.trades)
    (executionTrades : ∀ row ∈ db'.executions, ∀ id, row.tradeId = some id → id < db.nextTradeId)
    (tracked : ∀ key row, db'.positions.lookup key = some row →
      ∃ trade ∈ updateWhere (·.id == tradeId) set db.trades, Tracks key row trade) :
    Integrity db' where
  orderIds := by rw [orders, nextOrderId]; exact integrity.orderIds
  tradeIds := by
    rw [trades, nextTradeId]
    intro trade member
    obtain ⟨old, listed, ⟨_, rfl⟩ | ⟨_, rfl⟩⟩ := mem_updateWhere.mp member
    · rw [keeps.id]; exact integrity.tradeIds old listed
    · exact integrity.tradeIds trade listed
  tradesDistinct := by
    rw [trades, map_updateWhere keeps.id]
    exact integrity.tradesDistinct
  openOrders := by
    rw [trades, orders]
    intro trade member
    obtain ⟨old, listed, ⟨_, rfl⟩ | ⟨_, rfl⟩⟩ := mem_updateWhere.mp member
    · rw [keeps.openOrderId]; exact integrity.openOrders old listed
    · exact integrity.openOrders trade listed
  executionTrades := by rw [nextTradeId]; exact executionTrades
  tracked := by rw [trades]; exact tracked

/-- A new execution of a known trade. -/
theorem Integrity.executionTrades_append (integrity : Integrity db) {row : ExecutionRow}
    (known : ∀ id, row.tradeId = some id → id < db.nextTradeId) :
    ∀ listed ∈ db.executions ++ [row.stored], ∀ id, listed.tradeId = some id →
      id < db.nextTradeId := by
  intro listed member
  rcases List.mem_append.mp member with old | added
  · exact integrity.executionTrades listed old
  · rw [List.mem_singleton.mp added]
    exact known

/-- The trade of a row after a rewrite that does not close it. -/
theorem Tracks.rewrite {key : PositionKey} {row row' : PositionStateRow} {trade : TradeRow}
    (tracks : Tracks key row trade) (keeps : KeepsIdentity set)
    (status : ∀ trade, (set trade).status = trade.status)
    (closeOrderId : ∀ trade, (set trade).closeOrderId = trade.closeOrderId)
    (sameTrade : row'.tradeId = row.tradeId) (sameSide : row'.side = row.side) :
    Tracks key row' (set trade) where
  id := (keeps.id trade).trans (tracks.id.trans sameTrade.symm)
  botId := (keeps.botId trade).trans tracks.botId
  symbol := (keeps.symbol trade).trans tracks.symbol
  side := (keeps.side trade).trans (tracks.side.trans sameSide.symm)
  isOpen := (status trade).trans tracks.isOpen
  unclosed := (closeOrderId trade).trans tracks.unclosed

theorem tracked_updateWhere {key : PositionKey} {row row' : PositionStateRow}
    (found : ∃ trade ∈ db.trades, Tracks key row trade) (keeps : KeepsIdentity set)
    (status : ∀ trade, (set trade).status = trade.status)
    (closeOrderId : ∀ trade, (set trade).closeOrderId = trade.closeOrderId)
    (sameTrade : row'.tradeId = row.tradeId) (sameSide : row'.side = row.side) :
    ∃ trade ∈ updateWhere (·.id == tradeId) set db.trades, Tracks key row' trade := by
  obtain ⟨trade, member, tracks⟩ := found
  by_cases ofTrade : trade.id = tradeId
  · exact ⟨set trade, mem_updateWhere.mpr ⟨trade, member, .inl ⟨by simpa using ofTrade, rfl⟩⟩,
      tracks.rewrite keeps status closeOrderId sameTrade sameSide⟩
  · refine ⟨trade, mem_updateWhere.mpr ⟨trade, member, .inr ⟨by simpa using ofTrade, rfl⟩⟩, ?_⟩
    exact ⟨tracks.id.trans sameTrade.symm, tracks.botId, tracks.symbol,
      tracks.side.trans sameSide.symm, tracks.isOpen, tracks.unclosed⟩

theorem Integrity.charge (integrity : Integrity db) {row : ExecutionRow}
    (known : ∀ id, row.tradeId = some id → id < db.nextTradeId) :
    Integrity (db.charge row tradeId) := by
  refine integrity.rewrite (keepsIdentity_addFee row.fee) rfl rfl rfl rfl
    (integrity.executionTrades_append known) ?_
  intro key held found
  exact tracked_updateWhere (integrity.tracked key held found) (keepsIdentity_addFee row.fee)
    (fun _ => rfl) (fun _ => rfl) rfl rfl

/-- The position rows other than the one that was written. -/
theorem lookup_insert_cases {key other : PositionKey} {row written : PositionStateRow}
    (held : (db.positions.insert key written).lookup other = some row) :
    (other = key ∧ row = written) ∨ (other ≠ key ∧ db.positions.lookup other = some row) :=
  lookup_insert_eq_some_cases held

variable {row : ExecutionRow} {key : PositionKey} {ps : PositionStateRow} {now : ℕ}

theorem Integrity.recordPart (integrity : Integrity db) (held : db.positions.lookup key = some ps)
    (known : ∀ id, row.tradeId = some id → id < db.nextTradeId) :
    Integrity (db.recordPart row key ps now) := by
  have keeps := (keepsIdentity_enter .partiallyClosed).comp (keepsIdentity_addFee row.fee)
  refine integrity.rewrite keeps rfl rfl rfl (recordPart_trades row key ps now)
    (integrity.executionTrades_append known) ?_
  intro other found heldAfter
  rcases lookup_insert_cases heldAfter with ⟨rfl, rfl⟩ | ⟨_, heldBefore⟩
  · exact tracked_updateWhere (integrity.tracked other ps held) keeps (fun _ => rfl)
      (fun _ => rfl) rfl rfl
  · exact tracked_updateWhere (integrity.tracked other found heldBefore) keeps (fun _ => rfl)
      (fun _ => rfl) rfl rfl

/-- After a close the rows left are the other ones, as they were. -/
theorem lookup_recordClose {pnl : ℚ} {other : PositionKey} {found : PositionStateRow} :
    (db.recordClose row key ps now pnl).positions.lookup other = some found ↔
      other ≠ key ∧ db.positions.lookup other = some found := by
  simp only [Db.recordClose, Db.reduce]
  by_cases same : other = key
  · subst same
    simp [AList.lookup_erase]
  · rw [AList.lookup_erase_ne same, AList.lookup_insert_ne same]
    simp [same]

theorem Integrity.recordClose (integrity : Integrity db)
    (held : db.positions.lookup key = some ps)
    (known : ∀ id, row.tradeId = some id → id < db.nextTradeId) (pnl : ℚ) :
    Integrity (db.recordClose row key ps now pnl) := by
  refine integrity.rewrite
    (((keepsIdentity_enter .closed).comp (keepsIdentity_close ..)).comp
      (keepsIdentity_addFee row.fee))
    rfl rfl rfl (recordClose_trades row key ps now pnl)
    (integrity.executionTrades_append known) ?_
  intro other found heldAfter
  obtain ⟨different, heldBefore⟩ := lookup_recordClose.mp heldAfter
  obtain ⟨trade, member, tracks⟩ := integrity.tracked other found heldBefore
  -- the closed trade is not this row's, so this row's trade is untouched
  have untouched : trade.id ≠ ps.tradeId := by
    intro same
    exact different (integrity.key_unique heldBefore held (tracks.id.symm.trans same))
  exact ⟨trade, mem_updateWhere.mpr ⟨trade, member, .inr ⟨by simpa using untouched, rfl⟩⟩, tracks⟩

theorem Integrity.monitored (integrity : Integrity db) (write : MonitorWrite)
    (held : db.positions.lookup key = some ps) :
    Integrity { db with positions := db.positions.insert key (write.set ps) } where
  orderIds := integrity.orderIds
  tradeIds := integrity.tradeIds
  tradesDistinct := integrity.tradesDistinct
  openOrders := integrity.openOrders
  executionTrades := integrity.executionTrades
  tracked := by
    intro other found heldAfter
    rcases lookup_insert_cases heldAfter with ⟨rfl, rfl⟩ | ⟨_, heldBefore⟩
    · obtain ⟨trade, member, tracks⟩ := integrity.tracked other ps held
      cases write with
      | slMoved => exact ⟨trade, member, tracks.id, tracks.botId, tracks.symbol, tracks.side,
          tracks.isOpen, tracks.unclosed⟩
      | ticked => exact ⟨trade, member, tracks.id, tracks.botId, tracks.symbol, tracks.side,
          tracks.isOpen, tracks.unclosed⟩
    · exact integrity.tracked other found heldBefore

/-! ## New trades -/

/-- No trade has the next id yet. -/
theorem Integrity.unmatched (integrity : Integrity db) :
    ∀ trade ∈ db.trades, (trade.id == db.nextTradeId) = false := by
  intro trade member
  simpa using (integrity.tradeIds trade member).ne

theorem Integrity.afterPlacement_trades (integrity : Integrity db) (p : Placed)
    (slPrice tpPrice notionalUsd : ℚ) (slSetAt : ℕ) :
    ∃ trade : TradeRow,
      (db.afterPlacement p slPrice tpPrice notionalUsd slSetAt).trades = db.trades ++ [trade] ∧
        trade.id = db.nextTradeId ∧ trade.openOrderId = db.nextOrderId ∧ trade.qty = p.qty ∧
        ∀ row : PositionStateRow, row.tradeId = db.nextTradeId → row.side = p.request.side →
          Tracks p.key row trade :=
  ⟨_, updateWhere_append_fresh integrity.unmatched (by simp), rfl, rfl, rfl,
    fun _ ofTrade ofSide => ⟨ofTrade.symm, rfl, rfl, ofSide.symm, rfl, rfl⟩⟩

theorem Integrity.afterEmergencyClose_trades (integrity : Integrity db) (p : Placed)
    (closeExchangeOrderId : String) (closeAt : ℕ) :
    ∃ trade : TradeRow,
      (db.afterEmergencyClose p closeExchangeOrderId closeAt).trades = db.trades ++ [trade] ∧
        trade.id = db.nextTradeId ∧ trade.openOrderId = db.nextOrderId ∧ trade.qty = p.qty := by
  simp only [Db.afterEmergencyClose]
  rw [updateWhere_append_fresh integrity.unmatched (by simp),
    updateWhere_append_fresh integrity.unmatched (by simp [TradeRow.enter]),
    updateWhere_append_fresh integrity.unmatched (by simp [TradeRow.enter, TradeRow.close])]
  exact ⟨_, rfl, rfl, rfl, rfl⟩

/-- Tables with a new trade and the order that opened it. -/
theorem Integrity.extend (integrity : Integrity db) {trade : TradeRow}
    {added : List OrderRow} (orders : db'.orders = db.orders ++ added)
    (addedIds : ∀ order ∈ added, order.id < db'.nextOrderId)
    (nextOrderId : db.nextOrderId ≤ db'.nextOrderId)
    (trades : db'.trades = db.trades ++ [trade]) (tradeId : trade.id = db.nextTradeId)
    (openOrder : ∃ order ∈ added, order.id = trade.openOrderId)
    (nextTradeId : db'.nextTradeId = db.nextTradeId + 1)
    (executions : db'.executions = db.executions)
    (tracked : ∀ key row, db'.positions.lookup key = some row →
      db.positions.lookup key = some row ∨ Tracks key row trade) :
    Integrity db' where
  orderIds := by
    rw [orders]
    intro order member
    rcases List.mem_append.mp member with old | new
    · exact (integrity.orderIds order old).trans_le nextOrderId
    · exact addedIds order new
  tradeIds := by
    rw [trades, nextTradeId]
    intro listed member
    rcases List.mem_append.mp member with old | new
    · exact (integrity.tradeIds listed old).trans (Nat.lt_succ_self _)
    · rw [List.mem_singleton.mp new, tradeId]
      exact Nat.lt_succ_self _
  tradesDistinct := by
    rw [trades, List.map_append, List.nodup_append]
    refine ⟨integrity.tradesDistinct, by simp, ?_⟩
    intro id old other new same
    obtain ⟨listed, member, rfl⟩ := List.mem_map.mp old
    rw [List.map_singleton, List.mem_singleton] at new
    exact (integrity.tradeIds listed member).ne (same.trans (new.trans tradeId))
  openOrders := by
    rw [trades, orders]
    intro listed member
    rcases List.mem_append.mp member with old | new
    · obtain ⟨order, present, same⟩ := integrity.openOrders listed old
      exact ⟨order, List.mem_append_left _ present, same⟩
    · obtain ⟨order, present, same⟩ := openOrder
      rw [List.mem_singleton.mp new]
      exact ⟨order, List.mem_append_right _ present, same⟩
  executionTrades := by
    rw [executions, nextTradeId]
    exact fun listed member id known =>
      (integrity.executionTrades listed member id known).trans (Nat.lt_succ_self _)
  tracked := by
    rw [trades]
    intro other found held
    rcases tracked other found held with heldBefore | tracks
    · obtain ⟨old, member, tracks⟩ := integrity.tracked other found heldBefore
      exact ⟨old, List.mem_append_left _ member, tracks⟩
    · exact ⟨trade, List.mem_append_right _ (List.mem_singleton_self trade), tracks⟩

theorem Integrity.afterPlacement (integrity : Integrity db) (p : Placed)
    (slPrice tpPrice notionalUsd : ℚ) (slSetAt : ℕ) :
    Integrity (db.afterPlacement p slPrice tpPrice notionalUsd slSetAt) := by
  obtain ⟨trade, trades, tradeId, openOrderId, _, tracks⟩ :=
    integrity.afterPlacement_trades p slPrice tpPrice notionalUsd slSetAt
  refine integrity.extend rfl ?_ (Nat.le_succ _) trades tradeId
    ⟨_, List.mem_singleton_self _, openOrderId.symm⟩ rfl rfl ?_
  · intro order member
    rw [List.mem_singleton.mp member]
    exact Nat.lt_succ_self _
  · intro other found held
    rcases lookup_insert_cases held with ⟨rfl, rfl⟩ | ⟨_, heldBefore⟩
    · exact .inr (tracks _ rfl rfl)
    · exact .inl heldBefore

theorem Integrity.afterEmergencyClose (integrity : Integrity db) (p : Placed)
    (closeExchangeOrderId : String) (closeAt : ℕ) :
    Integrity (db.afterEmergencyClose p closeExchangeOrderId closeAt) := by
  obtain ⟨trade, trades, tradeId, openOrderId, _⟩ :=
    integrity.afterEmergencyClose_trades p closeExchangeOrderId closeAt
  refine integrity.extend (List.append_assoc ..) ?_ (Nat.le_add_right _ 2) trades tradeId
    ⟨_, List.mem_cons_self, openOrderId.symm⟩ rfl rfl (fun _ _ held => .inl held)
  intro order member
  rcases List.mem_cons.mp member with rfl | member
  · exact Nat.lt_add_of_pos_right Nat.two_pos
  · rw [List.mem_singleton.mp member]
    exact Nat.lt_succ_self _

/-! ## Every step keeps it -/

/-- The trade a recorded event is charged to is known. -/
theorem Integrity.trade_known (integrity : Integrity db) {botId : String} {event : Fill}
    {orderId : ℕ} {derived : Derived} (accepted : db.accepts
      (executionRow botId event orderId derived) = true) :
    ∀ id, (executionRow botId event orderId derived).tradeId = some id → id < db.nextTradeId := by
  intro id known
  simp only [Db.accepts, known, Option.all_some, Bool.and_eq_true, List.any_eq_true,
    beq_iff_eq] at accepted
  obtain ⟨⟨_, trade, member, rfl⟩, _⟩ := accepted
  exact integrity.tradeIds trade member

theorem Integrity.recorded (integrity : Integrity db) {botId : String} {event : Fill}
    {reads : ClosedPnlReads} {closed : Option OrderClosed}
    (recorded : Recorded botId event reads now db closed db') : Integrity db' := by
  cases recorded with
  | opened _ _ accepted => exact integrity.charge (integrity.trade_known accepted)
  | part reduces _ =>
      exact integrity.recordPart reduces.held (integrity.trade_known reduces.accepted)
  | closed reduces =>
      exact integrity.recordClose reduces.held (integrity.trade_known reduces.accepted) _

theorem Integrity.step (integrity : Integrity db) (s : Step) : Integrity (step s db) := by
  generalize after : Execution.step s db = db'
  have change : Change db s db' := after ▸ step_change s db
  cases change with
  | nothing => exact integrity
  | placed free => exact integrity.afterPlacement _ _ _ _ _
  | emergencyClosed => exact integrity.afterEmergencyClose _ _ _
  | monitored held => exact integrity.monitored _ held
  | recorded recorded => exact integrity.recorded recorded

end Integrity

theorem run_integrity (steps : List Step) : Integrity (run step {} steps) :=
  run_invariant_of_always Integrity (fun _ s integrity => integrity.step s) steps
    Integrity.initial

/-! ## What a fill looks up -/

/-- The trade an order of ours opened. -/
def Db.openedBy (db : Db) (exchangeOrderId : String) : Option ℕ :=
  (db.selectOrderIdByExchangeId exchangeOrderId).bind fun orderId =>
    (db.selectTradeByOpenOrderId orderId).map (·.id)

section Lookups

variable {db db' : Db} {tradeId : ℕ} {botId : String} {event : Fill}

theorem openedBy_eq_some_iff {exchangeOrderId : String} :
    db.openedBy exchangeOrderId = some tradeId ↔
      ∃ orderId trade, db.selectOrderIdByExchangeId exchangeOrderId = some orderId ∧
        db.selectTradeByOpenOrderId orderId = some trade ∧ trade.id = tradeId := by
  simp [Db.openedBy, Option.bind_eq_some_iff, Option.map_eq_some_iff]

theorem exists_of_selectOrderIdByExchangeId {exchangeOrderId : String} {orderId : ℕ}
    (found : db.selectOrderIdByExchangeId exchangeOrderId = some orderId) :
    ∃ row ∈ db.orders, row.id = orderId := by
  obtain ⟨row, first, same⟩ := Option.map_eq_some_iff.mp found
  exact ⟨row, List.mem_of_find?_eq_some first, same⟩

/-- An execution not seen before is accepted for a known order and a known trade. -/
theorem unseen_accepts {orderId : ℕ} {derived : Derived}
    (unseen : ∀ row ∈ db.executions, row.exchangeExecId ≠ event.exchangeExecId)
    (order : ∃ row ∈ db.orders, row.id = orderId)
    (trade : ∃ row ∈ db.trades, derived.tradeId = some row.id) :
    db.accepts (executionRow botId event orderId derived) = true := by
  obtain ⟨row, listed, rfl⟩ := order
  obtain ⟨opened, known, ofTrade⟩ := trade
  have fresh : db.executions.any
      (ExecutionRow.sameKey (executionRow botId event row.id derived)) = false := by
    rw [List.any_eq_false]
    intro seen member
    simp [ExecutionRow.sameKey, executionRow, Ne.symm (unseen seen member)]
  have orderKnown : db.orders.any (·.id == row.id) = true :=
    List.any_eq_true.mpr ⟨row, listed, by simp⟩
  have tradeKnown : db.trades.any (·.id == opened.id) = true :=
    List.any_eq_true.mpr ⟨opened, known, by simp⟩
  have charged : (executionRow botId event row.id derived).tradeId = some opened.id := ofTrade
  simp only [Db.accepts, charged, Option.all_some, tradeKnown, fresh, Bool.and_true,
    Bool.not_false]
  exact orderKnown

/-- Tables only grow: orders are added, and trades are added or rewritten one at a time with
their identity kept. -/
structure Grows (db db' : Db) : Prop where
  orders : ∃ added, db'.orders = db.orders ++ added
  trades : ∃ rewritten set added, KeepsIdentity set ∧
    db'.trades = updateWhere (·.id == rewritten) set db.trades ++ added

theorem updateWhere_id (tradeId : ℕ) (trades : List TradeRow) :
    updateWhere (·.id == tradeId) id trades = trades := by
  simp [updateWhere]

theorem keepsIdentity_id : KeepsIdentity id :=
  ⟨fun _ => rfl, fun _ => rfl, fun _ => rfl, fun _ => rfl, fun _ => rfl, fun _ => rfl⟩

theorem Grows.of_append {addedOrders : List OrderRow} {addedTrades : List TradeRow}
    (orders : db'.orders = db.orders ++ addedOrders)
    (trades : db'.trades = db.trades ++ addedTrades) : Grows db db' :=
  ⟨⟨addedOrders, orders⟩, 0, id, addedTrades, keepsIdentity_id, by rw [updateWhere_id, trades]⟩

/-- A recorded fill adds no order and rewrites one trade. -/
theorem Recorded.rewrites {reads : ClosedPnlReads} {now : ℕ} {closed : Option OrderClosed}
    (recorded : Recorded botId event reads now db closed db') :
    db'.orders = db.orders ∧ ∃ rewritten set, KeepsIdentity set ∧
      db'.trades = updateWhere (·.id == rewritten) set db.trades := by
  cases recorded with
  | opened => exact ⟨rfl, _, _, keepsIdentity_addFee _, rfl⟩
  | part =>
      exact ⟨rfl, _, _, (keepsIdentity_enter _).comp (keepsIdentity_addFee _),
        recordPart_trades ..⟩
  | closed =>
      exact ⟨rfl, _, _,
        ((keepsIdentity_enter _).comp (keepsIdentity_close ..)).comp (keepsIdentity_addFee _),
        recordClose_trades ..⟩

theorem Recorded.grows {reads : ClosedPnlReads} {now : ℕ} {closed : Option OrderClosed}
    (recorded : Recorded botId event reads now db closed db') : Grows db db' := by
  obtain ⟨orders, rewritten, set, keeps, trades⟩ := recorded.rewrites
  refine ⟨⟨[], ?_⟩, rewritten, set, [], keeps, ?_⟩
  · rw [orders, List.append_nil]
  · rw [trades, List.append_nil]

theorem Integrity.grows (integrity : Integrity db) (s : Step) :
    Grows db (Execution.step s db) := by
  generalize after : Execution.step s db = db'
  have change : Change db s db' := after ▸ step_change s db
  cases change with
  | nothing => exact .of_append (List.append_nil _).symm (List.append_nil _).symm
  | placed free =>
      obtain ⟨trade, trades, _⟩ := integrity.afterPlacement_trades _ _ _ _ _
      exact .of_append rfl trades
  | emergencyClosed =>
      obtain ⟨trade, trades, _⟩ := integrity.afterEmergencyClose_trades _ _ _
      exact .of_append (List.append_assoc ..) trades
  | monitored held => exact .of_append (List.append_nil _).symm (List.append_nil _).symm
  | recorded recorded => exact recorded.grows

theorem Grows.selectOrderIdByExchangeId (grows : Grows db db') {exchangeOrderId : String}
    {orderId : ℕ} (found : db.selectOrderIdByExchangeId exchangeOrderId = some orderId) :
    db'.selectOrderIdByExchangeId exchangeOrderId = some orderId := by
  obtain ⟨added, orders⟩ := grows.orders
  obtain ⟨row, first, same⟩ := Option.map_eq_some_iff.mp found
  rw [Db.selectOrderIdByExchangeId, orders, List.find?_append, first]
  exact congrArg some same

/-- The trade an order opened keeps being found. -/
theorem Grows.selectTradeByOpenOrderId (grows : Grows db db') {orderId : ℕ}
    (found : (db.selectTradeByOpenOrderId orderId).map (·.id) = some tradeId) :
    (db'.selectTradeByOpenOrderId orderId).map (·.id) = some tradeId := by
  obtain ⟨rewritten, set, added, keeps, trades⟩ := grows.trades
  have kept : ((updateWhere (·.id == rewritten) set db.trades).find?
      (·.openOrderId == orderId)).map (·.id) = some tradeId := by
    rw [map_find?_updateWhere (fun trade => by rw [keeps.openOrderId]) keeps.id]
    exact found
  obtain ⟨trade, first, same⟩ := Option.map_eq_some_iff.mp kept
  rw [Db.selectTradeByOpenOrderId, trades, List.find?_append, first]
  exact congrArg some same

theorem Grows.openedBy (grows : Grows db db') {exchangeOrderId : String}
    (opens : db.openedBy exchangeOrderId = some tradeId) :
    db'.openedBy exchangeOrderId = some tradeId := by
  obtain ⟨orderId, matched, opened⟩ := Option.bind_eq_some_iff.mp opens
  exact Option.bind_eq_some_iff.mpr
    ⟨orderId, grows.selectOrderIdByExchangeId matched, grows.selectTradeByOpenOrderId opened⟩

/-- A known order stays known. -/
theorem Grows.order_known (grows : Grows db db') {orderId : ℕ}
    (known : ∃ row ∈ db.orders, row.id = orderId) : ∃ row ∈ db'.orders, row.id = orderId := by
  obtain ⟨added, orders⟩ := grows.orders
  obtain ⟨row, member, same⟩ := known
  exact ⟨row, orders ▸ List.mem_append_left added member, same⟩

/-- A known trade stays known. -/
theorem Grows.trade_known (grows : Grows db db')
    (known : ∃ row ∈ db.trades, row.id = tradeId) : ∃ row ∈ db'.trades, row.id = tradeId := by
  obtain ⟨rewritten, set, added, keeps, trades⟩ := grows.trades
  obtain ⟨row, member, same⟩ := known
  have kept : tradeId ∈ (updateWhere (·.id == rewritten) set db.trades).map (·.id) := by
    rw [map_updateWhere keeps.id]
    exact List.mem_map.mpr ⟨row, member, same⟩
  obtain ⟨found, listed, sameId⟩ := List.mem_map.mp kept
  exact ⟨found, trades ▸ List.mem_append_left added listed, sameId⟩

end Lookups

end Scalper.Execution
