import Scalper.Execution.Ledger

/-!
# Safety closes and the fills they cause

Two paths flatten a position for safety: `emergency_close` when a placement's stop was refused
(`Step.emergencyClosed`), and `emergency_close_tracked_position` of `placement_persist.py`,
which the watchdog of `sl_watchdog.py` calls on a position row it read at the start of its tick.
Both place a reduce-only order and write the trade as closed; the order's fill reaches the
dispatcher afterwards.

The first path writes the closing order and never a position row, the second deletes the
position row and never writes the closing order.  The dispatcher needs a position row of the
trade for any fill that does not open it, and after a safety close the trade is `Gone` for
good.  `safetyClose_unrecorded` shows that in no run is the closing fill recorded for its trade;
after a refused stop it always ends the dispatcher (`emergencyClosed_raises`).
-/

set_option autoImplicit false

namespace Scalper.Execution

open Scalper.Lib Scalper.Exchange

/-! ## Closing a tracked position -/

/-- The transaction of `emergency_close_tracked_position`; the opening order stands in for the
closing one. -/
def emergencyCloseTrackedTx (key : PositionKey) (tradeId openOrderId : ℕ)
    (closeExchangeOrderId : String) (closeAt : ℕ) : Tx Unit := do
  updateTradeClose tradeId 0 0 none closeAt .emergency openOrderId
  updateTradeLifecycleState tradeId .closed
  deletePositionState key
  insertTradingEvent
    ⟨closeAt, key.1, "sl-watchdog-" ++ key.1 ++ "-" ++ key.2,
      .slWatchdogEmergencyClose
        { botId := key.1, orderId := openOrderId, exchangeOrderId := closeExchangeOrderId,
          symbol := key.2, timestamp := closeAt, realizedPnl := 0, closeReason := .emergency }⟩

/-- `emergency_close_tracked_position` once its order was accepted. -/
def emergencyCloseTrackedPosition (key : PositionKey) (ps : PositionStateRow)
    (closeExchangeOrderId : String) (closeAt : ℕ) (commits : Bool) (db : Db) : Db :=
  match db.selectOpenOrderIdByTradeId ps.tradeId with
  | none => db
  | some openOrderId =>
      (transaction commits
        (emergencyCloseTrackedTx key ps.tradeId openOrderId closeExchangeOrderId closeAt) db).2

/-! ## Runs with a watchdog -/

/-- The tables, and the position rows the watchdog's tick has read. -/
structure Service where
  db : Db := {}
  watched : AList fun _ : PositionKey => PositionStateRow := ∅

/-- A transaction, or a part of a watchdog's tick. -/
inductive ServiceStep where
  | transacts (s : Step)
  | watchdogReads
  | trackedClosed (key : PositionKey) (closeExchangeOrderId : String) (closeAt : ℕ)
      (commits : Bool)

def serviceStep : ServiceStep → Service → Service
  | .transacts s, service => { service with db := step s service.db }
  | .watchdogReads, service => { service with watched := service.db.positions }
  | .trackedClosed key closeExchangeOrderId closeAt commits, service =>
      match service.watched.lookup key with
      | none => service
      | some ps =>
          { service with
            db := emergencyCloseTrackedPosition key ps closeExchangeOrderId closeAt commits
              service.db }

/-- The exchange's ids of the orders a step may write. -/
def ServiceStep.exchangeOrderIds : ServiceStep → List String
  | .transacts (.placed p _ _ _ _ _) => [p.placeResult.exchangeOrderId]
  | .transacts (.emergencyClosed p closeExchangeOrderId _ _) =>
      [p.placeResult.exchangeOrderId, closeExchangeOrderId]
  | _ => []

/-- A safety close, on either path. -/
inductive SafetyClose where
  | atPlacement (p : Placed)
  | ofTracked (key : PositionKey)

/-- Its transaction, committed, with the id the exchange gave the closing order. -/
def SafetyClose.step (closeExchangeOrderId : String) (closeAt : ℕ) : SafetyClose → ServiceStep
  | .atPlacement p => .transacts (.emergencyClosed p closeExchangeOrderId closeAt true)
  | .ofTracked key => .trackedClosed key closeExchangeOrderId closeAt true

/-- The trade it closes. -/
def SafetyClose.tradeId (service : Service) : SafetyClose → Option ℕ
  | .atPlacement _ => some service.db.nextTradeId
  | .ofTracked key => (service.watched.lookup key).map (·.tradeId)

/-- The exchange's id of the order that opened the position, where the close writes it. -/
def SafetyClose.opening : SafetyClose → Option String
  | .atPlacement p => some p.placeResult.exchangeOrderId
  | .ofTracked _ => none

/-- The fill is recorded as an execution of the trade, and the dispatcher goes on. -/
def RecordedFor (tradeId : ℕ) (botId : String) (delivery : Delivery) (db : Db) : Prop :=
  ∃ closed db' row, process botId delivery db = (.ok closed, db') ∧
    db'.executions = db.executions ++ [row] ∧ row.tradeId = some tradeId

/-! ## What a tracked close does -/

/-- The tables after the transaction of `emergency_close_tracked_position`. -/
def Db.afterTrackedClose (db : Db) (key : PositionKey) (tradeId openOrderId : ℕ)
    (closeExchangeOrderId : String) (closeAt : ℕ) : Db :=
  { db with
    trades := updateWhere (·.id == tradeId)
      (TradeRow.enter .closed ∘ TradeRow.close 0 0 none closeAt .emergency openOrderId) db.trades
    positions := db.positions.erase key
    tradingEvents := db.tradingEvents ++
      [⟨closeAt, key.1, "sl-watchdog-" ++ key.1 ++ "-" ++ key.2,
        .slWatchdogEmergencyClose
          ⟨key.1, openOrderId, closeExchangeOrderId, key.2, closeAt, 0, .emergency⟩⟩] }

section TrackedClose

variable {db : Db} {key : PositionKey} {ps : PositionStateRow}

theorem emergencyCloseTrackedPosition_committed {openOrderId : ℕ} (closeExchangeOrderId : String)
    (closeAt : ℕ) (found : db.selectOpenOrderIdByTradeId ps.tradeId = some openOrderId) :
    emergencyCloseTrackedPosition key ps closeExchangeOrderId closeAt true db =
      db.afterTrackedClose key ps.tradeId openOrderId closeExchangeOrderId closeAt := by
  simp only [emergencyCloseTrackedPosition, found, transaction, emergencyCloseTrackedTx,
    updateTradeClose, updateTradeLifecycleState, updateTrade, deletePositionState,
    insertTradingEvent, bind, StateT.bind, Except.bind, if_true, Db.afterTrackedClose]
  rw [updateWhere_updateWhere]
  exact fun _ => rfl

/-- A tracked close changes nothing, or closes the trade and deletes the row of the key. -/
theorem emergencyCloseTrackedPosition_cases (key : PositionKey) (ps : PositionStateRow)
    (closeExchangeOrderId : String) (closeAt : ℕ) (commits : Bool) (db : Db) :
    emergencyCloseTrackedPosition key ps closeExchangeOrderId closeAt commits db = db ∨
      ∃ openOrderId, db.selectOpenOrderIdByTradeId ps.tradeId = some openOrderId ∧
        emergencyCloseTrackedPosition key ps closeExchangeOrderId closeAt commits db =
          db.afterTrackedClose key ps.tradeId openOrderId closeExchangeOrderId closeAt := by
  cases found : db.selectOpenOrderIdByTradeId ps.tradeId with
  | none => exact .inl (by simp only [emergencyCloseTrackedPosition, found])
  | some openOrderId =>
      cases commits with
      | false =>
          exact .inl (by simp only [emergencyCloseTrackedPosition, found, transaction_false])
      | true =>
          exact .inr ⟨openOrderId, rfl,
            emergencyCloseTrackedPosition_committed closeExchangeOrderId closeAt found⟩

/-- The rows left are the other ones. -/
theorem lookup_afterTrackedClose {tradeId openOrderId closeAt : ℕ} {closeExchangeOrderId : String}
    {other : PositionKey} {found : PositionStateRow} :
    (db.afterTrackedClose key tradeId openOrderId closeExchangeOrderId closeAt).positions.lookup
        other = some found ↔ other ≠ key ∧ db.positions.lookup other = some found := by
  simp only [Db.afterTrackedClose]
  by_cases same : other = key
  · subst same
    simp [AList.lookup_erase]
  · rw [AList.lookup_erase_ne same]
    simp [same]

end TrackedClose

/-! ## Trades keep their identity -/

/-- A trade of that id, bot and symbol is in the tables. -/
def Db.Knows (db : Db) (tradeId : ℕ) (key : PositionKey) : Prop :=
  ∃ trade ∈ db.trades, trade.id = tradeId ∧ trade.botId = key.1 ∧ trade.symbol = key.2

theorem Db.Knows.openOrder {db : Db} {tradeId : ℕ} {key : PositionKey}
    (known : db.Knows tradeId key) :
    ∃ openOrderId, db.selectOpenOrderIdByTradeId tradeId = some openOrderId := by
  obtain ⟨trade, member, same, -⟩ := known
  cases found : db.trades.find? (·.id == tradeId) with
  | none => exact absurd same (by simpa using List.find?_eq_none.mp found trade member)
  | some first => exact ⟨first.openOrderId, by simp [Db.selectOpenOrderIdByTradeId, found]⟩

section Service

variable {service : Service} {db db' : Db} {key : PositionKey} {tradeId : ℕ}

theorem Grows.knows (grows : Grows db db') (known : db.Knows tradeId key) :
    db'.Knows tradeId key := by
  obtain ⟨rewritten, set, added, keeps, trades⟩ := grows.trades
  obtain ⟨trade, member, same, botId, symbol⟩ := known
  by_cases touched : (trade.id == rewritten) = true
  · refine ⟨set trade, ?_, (keeps.id trade).trans same, (keeps.botId trade).trans botId,
      (keeps.symbol trade).trans symbol⟩
    rw [trades]
    exact List.mem_append_left added
      (mem_updateWhere.mpr ⟨trade, member, .inl ⟨touched, rfl⟩⟩)
  · refine ⟨trade, ?_, same, botId, symbol⟩
    rw [trades]
    exact List.mem_append_left added
      (mem_updateWhere.mpr ⟨trade, member, .inr ⟨by simpa using touched, rfl⟩⟩)

theorem keepsIdentity_trackedClose (closeAt openOrderId : ℕ) : KeepsIdentity
    (TradeRow.enter .closed ∘ TradeRow.close 0 0 none closeAt .emergency openOrderId) :=
  (keepsIdentity_enter .closed).comp (keepsIdentity_close ..)

/-- A trade is closed and the row of its key is deleted. -/
theorem Integrity.closes (integrity : Integrity db) (known : db.Knows tradeId key)
    {set : TradeRow → TradeRow} (keeps : KeepsIdentity set) (orders : db'.orders = db.orders)
    (nextOrderId : db'.nextOrderId = db.nextOrderId)
    (nextTradeId : db'.nextTradeId = db.nextTradeId)
    (trades : db'.trades = updateWhere (·.id == tradeId) set db.trades)
    (executions : db'.executions = db.executions)
    (rows : ∀ other row, db'.positions.lookup other = some row →
      other ≠ key ∧ db.positions.lookup other = some row) :
    Integrity db' := by
  refine integrity.rewrite keeps orders nextOrderId nextTradeId trades
    (executions ▸ integrity.executionTrades) fun other found heldAfter => ?_
  obtain ⟨different, held⟩ := rows other found heldAfter
  obtain ⟨trade, member, tracks⟩ := integrity.tracked other found held
  obtain ⟨closed, closedMember, ofTrade, botId, symbol⟩ := known
  -- the trade of another key is another trade
  have untouched : trade.id ≠ tradeId := by
    intro same
    have sameTrade : trade = closed := List.inj_on_of_nodup_map integrity.tradesDistinct member
      closedMember (same.trans ofTrade.symm)
    subst sameTrade
    exact different (Prod.ext (tracks.botId.symm.trans botId) (tracks.symbol.symm.trans symbol))
  exact ⟨trade, mem_updateWhere.mpr ⟨trade, member, .inr ⟨by simpa using untouched, rfl⟩⟩, tracks⟩

theorem Integrity.afterTrackedClose (integrity : Integrity db) (known : db.Knows tradeId key)
    (openOrderId : ℕ) (closeExchangeOrderId : String) (closeAt : ℕ) :
    Integrity (db.afterTrackedClose key tradeId openOrderId closeExchangeOrderId closeAt) :=
  integrity.closes known (keepsIdentity_trackedClose closeAt openOrderId) rfl rfl rfl rfl rfl
    fun _ _ => lookup_afterTrackedClose.mp

/-- The tables are sound, and what the watchdog has read is of known trades. -/
structure Watching (service : Service) : Prop where
  integrity : Integrity service.db
  known : ∀ key row, service.watched.lookup key = some row → service.db.Knows row.tradeId key

theorem Watching.initial : Watching {} :=
  ⟨.initial, fun key row held => by simp at held⟩

/-- Everything a step does to the tables: one transaction of the service, or a tracked close of a
trade the watchdog has read. -/
theorem serviceStep_cases (watching : Watching service) (s : ServiceStep) :
    (serviceStep s service).db = service.db ∨
    (∃ tx, s = .transacts tx ∧ (serviceStep s service).db = step tx service.db) ∨
    ∃ key ps closeExchangeOrderId closeAt commits openOrderId,
      s = .trackedClosed key closeExchangeOrderId closeAt commits ∧
      service.watched.lookup key = some ps ∧ service.db.Knows ps.tradeId key ∧
      service.db.selectOpenOrderIdByTradeId ps.tradeId = some openOrderId ∧
      (serviceStep s service).db =
        service.db.afterTrackedClose key ps.tradeId openOrderId closeExchangeOrderId closeAt := by
  cases s with
  | transacts tx => exact .inr (.inl ⟨tx, rfl, rfl⟩)
  | watchdogReads => exact .inl rfl
  | trackedClosed key closeExchangeOrderId closeAt commits =>
      simp only [serviceStep]
      cases read : service.watched.lookup key with
      | none => exact .inl rfl
      | some ps =>
          rcases emergencyCloseTrackedPosition_cases key ps closeExchangeOrderId closeAt commits
            service.db with same | ⟨openOrderId, found, written⟩
          · exact .inl same
          · exact .inr (.inr ⟨key, ps, closeExchangeOrderId, closeAt, commits, openOrderId, rfl,
              read, watching.known key ps read, found, written⟩)

theorem mem_orders_serviceStep (watching : Watching service) (s : ServiceStep) {order : OrderRow}
    (member : order ∈ (serviceStep s service).db.orders) :
    order ∈ service.db.orders ∨ order.exchangeOrderId ∈ s.exchangeOrderIds := by
  rcases serviceStep_cases watching s with
    same | ⟨tx, rfl, same⟩ | ⟨key, ps, id, closeAt, commits, openOrderId, -, -, -, -, same⟩
  · exact .inl (same ▸ member)
  · rw [same] at member
    generalize after : step tx service.db = db' at member
    have change : Change service.db tx db' := after ▸ step_change tx service.db
    cases change with
    | nothing => exact .inl member
    | placed free =>
        rcases List.mem_append.mp member with listed | added
        · exact .inl listed
        · exact .inr (by simp [ServiceStep.exchangeOrderIds, List.mem_singleton.mp added,
            Placed.openOrder])
    | emergencyClosed =>
        simp only [Db.afterEmergencyClose, List.append_assoc, List.mem_append,
          List.mem_singleton] at member
        rcases member with listed | rfl | rfl
        · exact .inl listed
        · exact .inr (by simp [ServiceStep.exchangeOrderIds, Placed.openOrder])
        · exact .inr (by simp [ServiceStep.exchangeOrderIds])
    | monitored => exact .inl member
    | recorded recorded => exact .inl (recorded.rewrites.1 ▸ member)
  · rw [same] at member
    exact .inl member

theorem Watching.grows (watching : Watching service) (s : ServiceStep) :
    Grows service.db (serviceStep s service).db := by
  rcases serviceStep_cases watching s with
    same | ⟨tx, -, same⟩ | ⟨key, ps, id, closeAt, commits, openOrderId, -, -, -, -, same⟩
  · rw [same]
    exact .of_append (List.append_nil _).symm (List.append_nil _).symm
  · rw [same]
    exact watching.integrity.grows tx
  · rw [same]
    exact ⟨⟨[], (List.append_nil _).symm⟩, ps.tradeId, _, [],
      keepsIdentity_trackedClose closeAt openOrderId, (List.append_nil _).symm⟩

theorem Watching.step (watching : Watching service) (s : ServiceStep) :
    Watching (serviceStep s service) := by
  have integrity : Integrity (serviceStep s service).db := by
    rcases serviceStep_cases watching s with
      same | ⟨tx, -, same⟩ | ⟨key, ps, id, closeAt, commits, openOrderId, -, -, known, -, same⟩
    · exact same ▸ watching.integrity
    · exact same ▸ watching.integrity.step tx
    · exact same ▸ watching.integrity.afterTrackedClose known openOrderId id closeAt
  refine ⟨integrity, fun key row read => ?_⟩
  cases s with
  | watchdogReads =>
      obtain ⟨trade, member, tracks⟩ := watching.integrity.tracked key row read
      exact ⟨trade, member, tracks.id, tracks.botId, tracks.symbol⟩
  | transacts tx => exact (watching.grows _).knows (watching.known key row read)
  | trackedClosed closed id closeAt commits =>
      have kept : (serviceStep (.trackedClosed closed id closeAt commits) service).watched =
          service.watched := by
        simp only [serviceStep]
        split <;> rfl
      rw [kept] at read
      exact (watching.grows _).knows (watching.known key row read)

theorem run_watching (steps : List ServiceStep) : Watching (run serviceStep {} steps) :=
  run_invariant_of_always Watching (fun _ s watching => watching.step s) steps .initial

/-! ## A trade without a row stays without one -/

theorem Gone.serviceStep (watching : Watching service) (gone : Gone tradeId service.db)
    (s : ServiceStep) : Gone tradeId (serviceStep s service).db := by
  rcases serviceStep_cases watching s with
    same | ⟨tx, -, same⟩ | ⟨key, ps, id, closeAt, commits, openOrderId, -, -, -, -, same⟩
  · exact same ▸ gone
  · exact same ▸ gone.step tx
  · rw [same]
    exact ⟨gone.1, fun other row held => gone.2 other row (lookup_afterTrackedClose.mp held).2⟩

/-- A safety close leaves its trade without a row. -/
theorem SafetyClose.gone (watching : Watching service) {close : SafetyClose}
    (ofTrade : close.tradeId service = some tradeId) (closeExchangeOrderId : String)
    (closeAt : ℕ) :
    Gone tradeId (Execution.serviceStep (close.step closeExchangeOrderId closeAt) service).db := by
  cases close with
  | atPlacement p =>
      obtain rfl := Option.some.inj ofTrade
      simp only [SafetyClose.step, Execution.serviceStep, Execution.step, emergencyCloseTx_eq]
      refine ⟨Nat.lt_succ_self _, fun key row held same => ?_⟩
      exact absurd (watching.integrity.tradeId_lt held) (same ▸ lt_irrefl _)
  | ofTracked key =>
      obtain ⟨ps, read, rfl⟩ := Option.map_eq_some_iff.mp ofTrade
      have known := watching.known key ps read
      obtain ⟨openOrderId, found⟩ := known.openOrder
      simp only [SafetyClose.step, Execution.serviceStep, read,
        emergencyCloseTrackedPosition_committed closeExchangeOrderId closeAt found]
      obtain ⟨closed, member, same, botId, symbol⟩ := known
      refine ⟨same ▸ watching.integrity.tradeIds closed member,
        fun other row heldAfter sameRow => ?_⟩
      obtain ⟨different, held⟩ := lookup_afterTrackedClose.mp heldAfter
      obtain ⟨trade, listed, tracks⟩ := watching.integrity.tracked other row held
      obtain rfl : trade = closed := List.inj_on_of_nodup_map watching.integrity.tradesDistinct
        listed member (tracks.id.trans (sameRow.trans same.symm))
      exact different (Prod.ext (tracks.botId.symm.trans botId) (tracks.symbol.symm.trans symbol))

theorem run_gone (watching : Watching service) (gone : Gone tradeId service.db)
    (steps : List ServiceStep) : Gone tradeId (run Execution.serviceStep service steps).db :=
  (run_invariant_of_always (fun s => Watching s ∧ Gone tradeId s.db)
    (fun _ s kept => ⟨kept.1.step s, kept.2.serviceStep kept.1 s⟩) steps ⟨watching, gone⟩).2

/-! ## Fills of a trade without a row -/

/-- An event that raised is recorded for no trade. -/
theorem not_recordedFor_of_raises {tradeId : ℕ} {botId : String} {delivery : Delivery} {db : Db}
    {raised : TxError} (raises : (process botId delivery db).1 = .error raised) :
    ¬ RecordedFor tradeId botId delivery db := by
  rintro ⟨closed, db', row, returned, -⟩
  cases raises.symm.trans (congrArg Prod.fst returned)

/-- For such a trade only a fill of its opening order is recorded. -/
theorem Gone.openedBy_of_recordedFor (gone : Gone tradeId db) {botId : String}
    {delivery : Delivery} (recordedFor : RecordedFor tradeId botId delivery db) :
    db.openedBy delivery.event.exchangeOrderId = some tradeId := by
  obtain ⟨closed, db', row, returned, added, ofTrade⟩ := recordedFor
  obtain ⟨-, recorded⟩ := process_ok_iff.mp returned
  cases recorded with
  | @opened orderId trade matched opens accepted =>
      obtain rfl := List.singleton_inj.mp (List.append_cancel_left added)
      exact openedBy_eq_some_iff.mpr ⟨orderId, trade, matched, opens, Option.some.inj ofTrade⟩
  | part reduces =>
      obtain rfl := List.singleton_inj.mp (List.append_cancel_left added)
      exact absurd (Option.some.inj (reduces.ofTrade.symm.trans ofTrade))
        (gone.2 _ _ reduces.held)
  | closed reduces =>
      obtain rfl := List.singleton_inj.mp (List.append_cancel_left added)
      exact absurd (Option.some.inj (reduces.ofTrade.symm.trans ofTrade))
        (gone.2 _ _ reduces.held)

/-- Every order in the tables was there before or is one a step has written. -/
theorem mem_orders_run {steps : List ServiceStep} :
    ∀ {service : Service}, Watching service →
      ∀ order ∈ (run Execution.serviceStep service steps).db.orders,
        order ∈ service.db.orders ∨
          order.exchangeOrderId ∈ steps.flatMap (·.exchangeOrderIds) := by
  induction steps with
  | nil => exact fun _ order member => .inl member
  | cons s steps ih =>
      intro service watching order member
      rcases ih (watching.step s) order member with earlier | later
      · rcases mem_orders_serviceStep watching s earlier with before | written
        · exact .inl before
        · exact .inr (by simp [written])
      · exact .inr (by simp only [List.flatMap_cons, List.mem_append]; exact .inr later)

/-! ## After a refused stop -/

/-- The closing order of a refused stop is known, and it opened no trade. -/
structure ClosingOrder (closeExchangeOrderId : String) (orderId : ℕ) (db : Db) : Prop where
  matched : db.selectOrderIdByExchangeId closeExchangeOrderId = some orderId
  drawn : orderId < db.nextOrderId
  opensNone : ∀ trade ∈ db.trades, trade.openOrderId ≠ orderId

variable {closeExchangeOrderId : String} {orderId : ℕ}

theorem ClosingOrder.rewrite (closing : ClosingOrder closeExchangeOrderId orderId db)
    {rewritten : ℕ} {set : TradeRow → TradeRow} (keeps : KeepsIdentity set)
    (orders : db'.orders = db.orders) (nextOrderId : db'.nextOrderId = db.nextOrderId)
    (trades : db'.trades = updateWhere (·.id == rewritten) set db.trades) :
    ClosingOrder closeExchangeOrderId orderId db' where
  matched := by
    rw [Db.selectOrderIdByExchangeId, orders]
    exact closing.matched
  drawn := nextOrderId ▸ closing.drawn
  opensNone := by
    rw [trades]
    intro trade member
    obtain ⟨old, listed, ⟨-, rfl⟩ | ⟨-, rfl⟩⟩ := mem_updateWhere.mp member
    · rw [keeps.openOrderId]
      exact closing.opensNone old listed
    · exact closing.opensNone trade listed

theorem ClosingOrder.extend (closing : ClosingOrder closeExchangeOrderId orderId db)
    {added : List OrderRow} {opened : TradeRow} (orders : db'.orders = db.orders ++ added)
    (nextOrderId : db.nextOrderId ≤ db'.nextOrderId) (trades : db'.trades = db.trades ++ [opened])
    (openOrderId : opened.openOrderId = db.nextOrderId) :
    ClosingOrder closeExchangeOrderId orderId db' where
  matched := by
    obtain ⟨row, first, same⟩ := Option.map_eq_some_iff.mp closing.matched
    rw [Db.selectOrderIdByExchangeId, orders, List.find?_append, first]
    exact congrArg some same
  drawn := closing.drawn.trans_le nextOrderId
  opensNone := by
    rw [trades]
    intro trade member
    rcases List.mem_append.mp member with listed | new
    · exact closing.opensNone trade listed
    · rw [List.mem_singleton.mp new, openOrderId]
      exact closing.drawn.ne'

theorem Recorded.nextOrderId {botId : String} {event : Fill} {reads : ClosedPnlReads} {now : ℕ}
    {closed : Option OrderClosed} (recorded : Recorded botId event reads now db closed db') :
    db'.nextOrderId = db.nextOrderId := by
  cases recorded <;> rfl

theorem ClosingOrder.serviceStep (watching : Watching service)
    (closing : ClosingOrder closeExchangeOrderId orderId service.db) (s : ServiceStep) :
    ClosingOrder closeExchangeOrderId orderId (serviceStep s service).db := by
  rcases serviceStep_cases watching s with
    same | ⟨tx, -, same⟩ | ⟨key, ps, id, closeAt, commits, openOrderId, -, -, -, -, same⟩
  · exact same ▸ closing
  · rw [same]
    generalize after : step tx service.db = db'
    have change : Change service.db tx db' := after ▸ step_change tx service.db
    cases change with
    | nothing => exact closing
    | placed free =>
        obtain ⟨trade, trades, -, openOrderId, -⟩ :=
          watching.integrity.afterPlacement_trades _ _ _ _ _
        exact closing.extend rfl (Nat.le_succ _) trades openOrderId
    | emergencyClosed =>
        obtain ⟨trade, trades, -, openOrderId, -⟩ :=
          watching.integrity.afterEmergencyClose_trades _ _ _
        exact closing.extend (List.append_assoc ..) (Nat.le_add_right _ 2) trades openOrderId
    | monitored => exact ⟨closing.matched, closing.drawn, closing.opensNone⟩
    | recorded recorded =>
        obtain ⟨orders, rewritten, set, keeps, trades⟩ := recorded.rewrites
        exact closing.rewrite keeps orders recorded.nextOrderId trades
  · rw [same]
    exact closing.rewrite (keepsIdentity_trackedClose closeAt openOrderId) rfl rfl rfl

/-- The tables right after a refused stop, when the exchange's id of the closing order is new. -/
theorem Integrity.closingOrder (integrity : Integrity db) (p : Placed) (closeAt : ℕ)
    (new : ∀ order ∈ db.orders, order.exchangeOrderId ≠ closeExchangeOrderId)
    (newToo : p.placeResult.exchangeOrderId ≠ closeExchangeOrderId) :
    ClosingOrder closeExchangeOrderId (db.nextOrderId + 1)
      (db.afterEmergencyClose p closeExchangeOrderId closeAt) := by
  obtain ⟨opened, trades, -, openOrderId, -⟩ :=
    integrity.afterEmergencyClose_trades p closeExchangeOrderId closeAt
  have absent : db.orders.find? (·.exchangeOrderId == closeExchangeOrderId) = none := by
    simpa [List.find?_eq_none] using new
  refine ⟨?_, Nat.lt_succ_self _, ?_⟩
  · simp [Db.selectOrderIdByExchangeId, Db.afterEmergencyClose, List.find?_append, absent,
      Placed.openOrder, newToo]
  · rw [trades]
    intro trade member
    rcases List.mem_append.mp member with listed | added
    · obtain ⟨order, known, same⟩ := integrity.openOrders trade listed
      exact (Nat.lt_succ_of_lt (same ▸ integrity.orderIds order known)).ne
    · rw [List.mem_singleton.mp added, openOrderId]
      exact (Nat.lt_succ_self _).ne

/-- No fill of that order is recorded: it opened no trade, and a trade that is closed by an
order has no row. -/
theorem ClosingOrder.raises (integrity : Integrity db)
    (closing : ClosingOrder closeExchangeOrderId orderId db) (botId : String)
    {delivery : Delivery} (ofOrder : delivery.event.exchangeOrderId = closeExchangeOrderId) :
    ∃ raised, (process botId delivery db).1 = .error raised := by
  have matched := closing.matched
  rw [← ofOrder] at matched
  cases outcome : (process botId delivery db).1 with
  | error raised => exact ⟨raised, rfl⟩
  | ok closed =>
      exfalso
      have returned : process botId delivery db = (.ok closed, (process botId delivery db).2) :=
        Prod.ext outcome rfl
      obtain ⟨-, recorded⟩ := process_ok_iff.mp returned
      generalize (process botId delivery db).2 = db' at recorded
      cases recorded with
      | opened found opens =>
          obtain rfl := Option.some.inj (matched.symm.trans found)
          exact closing.opensNone _ (List.mem_of_find?_eq_some opens)
            (by simpa using List.find?_some opens)
      | part reduces =>
          rw [(reduces.unmatched integrity).1] at matched
          cases matched
      | closed reduces =>
          rw [(reduces.unmatched integrity).1] at matched
          cases matched

end Service

/-- **After a refused stop the closing fill ends the dispatcher.**  Whatever the service did
before and does between the close and the delivery, processing the fill raises. -/
theorem emergencyClosed_raises (before later : List ServiceStep) (p : Placed)
    (closeExchangeOrderId : String) (closeAt : ℕ)
    (new : closeExchangeOrderId ∉ before.flatMap (·.exchangeOrderIds))
    (newToo : p.placeResult.exchangeOrderId ≠ closeExchangeOrderId) (botId : String)
    (delivery : Delivery) (ofOrder : delivery.event.exchangeOrderId = closeExchangeOrderId) :
    ∃ raised, (process botId delivery (run serviceStep {} (before ++
      .transacts (.emergencyClosed p closeExchangeOrderId closeAt true) :: later)).db).1 =
        .error raised := by
  rw [run_append, run_cons]
  have watching := run_watching before
  have unknown : ∀ order ∈ (run serviceStep {} before).db.orders,
      order.exchangeOrderId ≠ closeExchangeOrderId := by
    rintro order member rfl
    rcases mem_orders_run .initial order member with listed | written
    · cases listed
    · exact new written
  have closing := watching.integrity.closingOrder p closeAt unknown newToo
  rw [← emergencyCloseTx_eq] at closing
  obtain ⟨watchingAfter, closingAfter⟩ := run_invariant_of_always
    (fun s => Watching s ∧
      ClosingOrder closeExchangeOrderId ((run serviceStep {} before).db.nextOrderId + 1) s.db)
    (fun _ s kept => ⟨kept.1.step s, kept.2.serviceStep kept.1 s⟩) later
    ⟨watching.step (.transacts (.emergencyClosed p closeExchangeOrderId closeAt true)), closing⟩
  exact closingAfter.raises watchingAfter.integrity botId ofOrder

/-- **No safety close is followed by its fill.**  Whatever the service did before a committed
safety close and does between it and the delivery, the fill of the closing order is never
recorded as an execution of the closed trade with the dispatcher going on.  Of the exchange only
that it gives the closing order an id of its own is used. -/
theorem safetyClose_unrecorded (before later : List ServiceStep) (close : SafetyClose)
    (closeExchangeOrderId : String) (closeAt tradeId : ℕ)
    (ofTrade : close.tradeId (run serviceStep {} before) = some tradeId)
    (new : closeExchangeOrderId ∉ (before ++ later).flatMap (·.exchangeOrderIds))
    (newToo : close.opening ≠ some closeExchangeOrderId) (botId : String)
    (delivery : Delivery) (ofOrder : delivery.event.exchangeOrderId = closeExchangeOrderId) :
    ¬ RecordedFor tradeId botId delivery
      (run serviceStep {} (before ++ close.step closeExchangeOrderId closeAt :: later)).db := by
  intro recordedFor
  rw [List.flatMap_append, List.mem_append, not_or] at new
  cases close with
  | atPlacement p =>
      obtain ⟨raised, raises⟩ := emergencyClosed_raises before later p closeExchangeOrderId closeAt
        new.1 (fun same => newToo (congrArg some same)) botId delivery ofOrder
      exact not_recordedFor_of_raises raises recordedFor
  | ofTracked key =>
      rw [run_append, run_cons] at recordedFor
      have watching := run_watching before
      have watchingAfter := watching.step
        ((SafetyClose.ofTracked key).step closeExchangeOrderId closeAt)
      have gone := SafetyClose.gone watching ofTrade closeExchangeOrderId closeAt
      obtain ⟨orderId, trade, matched, -⟩ := openedBy_eq_some_iff.mp
        ((run_gone watchingAfter gone later).openedBy_of_recordedFor recordedFor)
      -- the closing order is in no table, so the fill matches no order
      obtain ⟨order, first, -⟩ := Option.map_eq_some_iff.mp matched
      have bears : order.exchangeOrderId = closeExchangeOrderId := by
        simpa [ofOrder] using List.find?_some first
      rcases mem_orders_run watchingAfter order (List.mem_of_find?_eq_some first) with
        listed | written
      · rcases mem_orders_serviceStep watching _ listed with listed | written
        · rcases mem_orders_run .initial order listed with listed | written
          · cases listed
          · exact new.1 (bears ▸ written)
        · cases written
      · exact new.2 (bears ▸ written)

/-- The long is tracked, its stop disappears, and the watchdog closes it. -/
def watchedLong : List ServiceStep :=
  [.transacts (.placed placedLong 98 104 1000 3 true),
   .transacts (.fill "bot" (longFill "e1" "open-1" .buy 10 4)),
   .watchdogReads]

/-- A long opened after the watchdog's close. -/
def reopenedLong : ServiceStep :=
  .transacts (.placed { placedLong with placeResult := ⟨"open-2", 8⟩ } 98 104 1000 9 true)

theorem watchedLong_unrecorded :
    (SafetyClose.ofTracked ("bot", "BTCUSDT")).tradeId (run serviceStep {} watchedLong) = some 1 ∧
      ¬ RecordedFor 1 "bot" (longFill "e2" "close-1" .sell 10 7)
        (run serviceStep {} (watchedLong ++
          (SafetyClose.ofTracked ("bot", "BTCUSDT")).step "close-1" 6 :: [reopenedLong])).db := by
  have ofTrade : (SafetyClose.ofTracked ("bot", "BTCUSDT")).tradeId
      (run serviceStep {} watchedLong) = some 1 := by
    decide +kernel
  exact ⟨ofTrade, safetyClose_unrecorded watchedLong [reopenedLong] _ "close-1" 6 1 ofTrade
    (by decide +kernel) (by decide) "bot" _ rfl⟩

/-- After a refused stop the closing fill does not find the position row of its trade; after a
watchdog's close it finds no trade at all, or the one that was opened since. -/
theorem safetyClose_fills :
    (process "bot" (longFill "e2" "close-1" .sell 10 7)
        (run serviceStep {} [(SafetyClose.atPlacement placedLong).step "close-1" 6]).db).1 =
      .error (.tradeIdMismatch 1) ∧
    ¬ RecordedFor 1 "bot" (longFill "e2" "close-1" .sell 10 7)
        (run serviceStep {} [(SafetyClose.atPlacement placedLong).step "close-1" 6]).db ∧
    (process "bot" (longFill "e2" "close-1" .sell 10 7)
        (run serviceStep {} (watchedLong ++
          [(SafetyClose.ofTracked ("bot", "BTCUSDT")).step "close-1" 6])).db).1 =
      .error .unattributableFill ∧
    ¬ RecordedFor 1 "bot" (longFill "e2" "close-1" .sell 10 7)
        (run serviceStep {} (watchedLong ++
          [(SafetyClose.ofTracked ("bot", "BTCUSDT")).step "close-1" 6])).db ∧
    ((process "bot" (longFill "e2" "close-1" .sell 10 7)
        (run serviceStep {} (watchedLong ++
          [(SafetyClose.ofTracked ("bot", "BTCUSDT")).step "close-1" 6,
            reopenedLong])).db).2.executions.map (·.tradeId)) = [some 1, some 2] := by
  have refused : (process "bot" (longFill "e2" "close-1" .sell 10 7)
      (run serviceStep {} [(SafetyClose.atPlacement placedLong).step "close-1" 6]).db).1 =
        .error (.tradeIdMismatch 1) := by
    decide +kernel
  have watched : (process "bot" (longFill "e2" "close-1" .sell 10 7)
      (run serviceStep {} (watchedLong ++
        [(SafetyClose.ofTracked ("bot", "BTCUSDT")).step "close-1" 6])).db).1 =
          .error .unattributableFill := by
    decide +kernel
  exact ⟨refused, not_recordedFor_of_raises refused, watched, not_recordedFor_of_raises watched,
    by decide +kernel⟩

end Scalper.Execution
