import Scalper.Execution.Integrity
import Mathlib.Tactic.Linarith

/-!
# The dispatcher's quantity ledger

Three tables tell how much of a trade is left: the trade says how much was opened, its
executions how much was closed, and the position row how much remains.  In every state the
service reaches the three agree and nothing is negative (`LedgerHolds`); a fill closes a trade
in exactly the transaction in which its remaining quantity comes to zero, and a trade is closed
at most once.  `run_ledgerHolds` is the whole statement.

The exec type of a fill is inferred, and each type is recorded differently; what carries the
proof is that whatever is inferred, a recorded fill takes no more than remains and is charged
to the trade of the row it is taken from (`Reduces.unmatched`).
-/

set_option autoImplicit false

namespace Scalper.Execution

open Scalper.Lib Scalper.Exchange

/-! ## The ledger -/

/-- What the trade and its executions say is left. -/
def Db.remainingOf (db : Db) (tradeId : ℕ) : ℚ := db.openedQty tradeId - db.exitQty tradeId

/-- The position rows agree with the trades and executions. -/
structure LedgerHolds (db : Db) : Prop where
  nonneg : ∀ key row, db.positions.lookup key = some row → 0 ≤ row.remainingQty
  balanced : ∀ key row, db.positions.lookup key = some row →
    row.remainingQty = db.openedQty row.tradeId - db.exitQty row.tradeId

/-- The trade a fill's close flow runs for, if it runs. -/
def closesTrade (botId : String) (delivery : Delivery) (db : Db) : Option ℕ :=
  match (process botId delivery db).1 with
  | .ok (some _) =>
      (deriveExecType botId delivery.event
        (db.selectOrderIdByExchangeId delivery.event.exchangeOrderId) db).tradeId
  | _ => none

/-- The trades the close flow runs for, in the order of the run. -/
def closedTrades : Db → List Step → List ℕ
  | _, [] => []
  | db, .fill botId delivery :: steps =>
      (closesTrade botId delivery db).toList ++
        closedTrades (step (.fill botId delivery) db) steps
  | db, s :: steps => closedTrades (step s db) steps

/-- What the callers promise: a placement quantity passed `quantize_qty`, and an event is of
a positive quantity. -/
def Step.Sound : Step → Prop
  | .placed p _ _ _ _ _ => 0 ≤ p.qty
  | .fill _ delivery => 0 < delivery.event.qty
  | .emergencyClosed _ _ _ _ | .monitored _ _ _ => True

/-! ## How the sums move -/

section Sums

variable {db db' : Db} {tradeId : ℕ}

theorem openedQty_rewrite {set : TradeRow → TradeRow} {rewritten : ℕ}
    (keeps : KeepsIdentity set)
    (trades : db'.trades = updateWhere (·.id == rewritten) set db.trades) :
    db'.openedQty tradeId = db.openedQty tradeId := by
  rw [Db.openedQty, trades]
  exact sumWhere_updateWhere (fun trade => by rw [keeps.id]) keeps.qty db.trades

theorem exitQty_append {row : ExecutionRow}
    (executions : db'.executions = db.executions ++ [row.stored]) :
    db'.exitQty tradeId = db.exitQty tradeId +
      if row.tradeId = some tradeId ∧ row.execType ≠ .isOpen then row.qty else 0 := by
  rw [Db.exitQty, executions, sumWhere_append]
  congr 1
  simp [ExecutionRow.stored]

/-- A fill of the opening order takes nothing. -/
theorem remainingOf_charge {row : ExecutionRow} {opened : ℕ} (opens : row.execType = .isOpen) :
    (db.charge row opened).remainingOf tradeId = db.remainingOf tradeId := by
  have closedQty : (db.charge row opened).exitQty tradeId = _ := exitQty_append rfl
  have openedQty : (db.charge row opened).openedQty tradeId = db.openedQty tradeId :=
    openedQty_rewrite (keepsIdentity_addFee row.fee) rfl
  rw [Db.remainingOf, closedQty, openedQty]
  simp [opens, Db.remainingOf]

/-- Any other takes its quantity from the trade it is charged to. -/
theorem remainingOf_reduced {row : ExecutionRow} {set : TradeRow → TradeRow} {reduced : ℕ}
    (keeps : KeepsIdentity set)
    (trades : db'.trades = updateWhere (·.id == reduced) set db.trades)
    (executions : db'.executions = db.executions ++ [row.stored])
    (ofTrade : row.tradeId = some reduced) (notOpen : row.execType ≠ .isOpen) :
    db'.remainingOf tradeId =
      db.remainingOf tradeId - if reduced = tradeId then row.qty else 0 := by
  rw [Db.remainingOf, openedQty_rewrite keeps trades, exitQty_append executions, Db.remainingOf,
    ofTrade]
  simp only [Option.some.injEq, notOpen, ne_eq, not_false_eq_true, and_true]
  ring

/-- A new trade adds what it is opened with. -/
theorem remainingOf_opened {trade : TradeRow} (trades : db'.trades = db.trades ++ [trade])
    (executions : db'.executions = db.executions) :
    db'.remainingOf tradeId =
      db.remainingOf tradeId + if trade.id = tradeId then trade.qty else 0 := by
  rw [Db.remainingOf, Db.openedQty, trades, sumWhere_append, Db.exitQty, executions]
  simp only [Db.remainingOf, Db.openedQty, Db.exitQty, beq_iff_eq]
  ring

/-- Nothing is known yet of the next trade. -/
theorem Integrity.remainingOf_next (integrity : Integrity db) :
    db.remainingOf db.nextTradeId = 0 := by
  have unopened : db.openedQty db.nextTradeId = 0 := sumWhere_eq_zero integrity.unmatched
  have untaken : db.exitQty db.nextTradeId = 0 := by
    refine sumWhere_eq_zero fun row member => ?_
    have different : row.tradeId ≠ some db.nextTradeId := fun same =>
      (integrity.executionTrades row member _ same).false
    simp [different]
  rw [Db.remainingOf, unopened, untaken, sub_zero]

end Sums

/-! ## A recorded fill -/

section Recorded

variable {db db' : Db} {botId : String} {event : Fill} {reads : ClosedPnlReads} {now : ℕ}
  {closed : Option OrderClosed} {orderId : ℕ} {derived : Derived} {ps : PositionStateRow}

/-- A fill is never taken from the row of a trade by the order that closed the trade: such a
trade has no row. -/
theorem Reduces.unmatched (reduces : Reduces botId event db orderId derived ps)
    (integrity : Integrity db) :
    db.selectOrderIdByExchangeId event.exchangeOrderId = none ∧
      derived = derivePositionFill event ps ∧ event.qty ≤ ps.remainingQty := by
  rcases reduces.origin with ⟨unmatched, inferred, fits, _⟩ | ⟨_, trade, _, closes, sameId, _⟩
  · exact ⟨unmatched, inferred, fits⟩
  · exfalso
    obtain ⟨tracked, member, tracks⟩ := integrity.tracked _ ps reduces.held
    have closedBy : trade.closeOrderId = some orderId := by
      simpa using List.find?_some closes
    have same : trade = tracked :=
      List.inj_on_of_nodup_map integrity.tradesDistinct (List.mem_of_find?_eq_some closes) member
        (sameId.trans tracks.id.symm)
    rw [same, tracks.unclosed] at closedBy
    cases closedBy

theorem remainingOf_recordPart (reduces : Reduces botId event db orderId derived ps) (id : ℕ) :
    (db.recordPart (executionRow botId event orderId derived) (botId, event.symbol) ps
      now).remainingOf id = db.remainingOf id - if ps.tradeId = id then event.qty else 0 :=
  remainingOf_reduced ((keepsIdentity_enter _).comp (keepsIdentity_addFee _))
    (recordPart_trades ..) rfl reduces.ofTrade reduces.notOpen

theorem remainingOf_recordClose (reduces : Reduces botId event db orderId derived ps) (pnl : ℚ)
    (id : ℕ) :
    (db.recordClose (executionRow botId event orderId derived) (botId, event.symbol) ps now
      pnl).remainingOf id = db.remainingOf id - if ps.tradeId = id then event.qty else 0 :=
  remainingOf_reduced
    (((keepsIdentity_enter _).comp (keepsIdentity_close ..)).comp (keepsIdentity_addFee _))
    (recordClose_trades ..) rfl reduces.ofTrade reduces.notOpen

/-- The row of another key belongs to another trade. -/
theorem Integrity.tradeId_ne (integrity : Integrity db) {key other : PositionKey}
    {row found : PositionStateRow} (held : db.positions.lookup key = some row)
    (heldOther : db.positions.lookup other = some found) (different : other ≠ key) :
    row.tradeId ≠ found.tradeId :=
  fun same => different (integrity.key_unique heldOther held same.symm)

/-- Whatever is recorded, the ledger holds after it. -/
theorem LedgerHolds.recorded (ledger : LedgerHolds db) (integrity : Integrity db)
    (recorded : Recorded botId event reads now db closed db') : LedgerHolds db' := by
  cases recorded with
  | opened =>
      refine ⟨ledger.nonneg, fun key row held => ?_⟩
      rw [ledger.balanced key row held]
      exact (remainingOf_charge rfl).symm
  | part reduces remains =>
      obtain ⟨_, _, fits⟩ := reduces.unmatched integrity
      refine ⟨fun key row held => ?_, fun key row held => ?_⟩
      · rcases lookup_insert_cases held with ⟨rfl, rfl⟩ | ⟨_, heldBefore⟩
        · exact sub_nonneg.mpr fits
        · exact ledger.nonneg key row heldBefore
      · refine Eq.trans ?_ (remainingOf_recordPart reduces row.tradeId).symm
        rcases lookup_insert_cases held with ⟨rfl, rfl⟩ | ⟨different, heldBefore⟩
        · rw [PositionStateRow.afterFill_tradeId, PositionStateRow.afterFill_remainingQty,
            if_pos rfl, ledger.balanced _ _ reduces.held]
          rfl
        · rw [if_neg (integrity.tradeId_ne reduces.held heldBefore different), sub_zero]
          exact ledger.balanced key row heldBefore
  | closed reduces =>
      refine ⟨fun key row held => ?_, fun key row held => ?_⟩
      · exact ledger.nonneg key row (lookup_recordClose.mp held).2
      · obtain ⟨different, heldBefore⟩ := lookup_recordClose.mp held
        refine Eq.trans ?_ (remainingOf_recordClose reduces _ row.tradeId).symm
        rw [if_neg (integrity.tradeId_ne reduces.held heldBefore different), sub_zero]
        exact ledger.balanced key row heldBefore

/-! ## When the close flow runs -/

/-- The close flow runs for the trade of the row that is emptied. -/
theorem closesTrade_eq_some_iff {delivery : Delivery} {tradeId : ℕ} :
    closesTrade botId delivery db = some tradeId ↔
      ∃ payload db', process botId delivery db = (.ok (some payload), db') ∧
        (deriveExecType botId delivery.event
          (db.selectOrderIdByExchangeId delivery.event.exchangeOrderId) db).tradeId =
            some tradeId := by
  rw [closesTrade]
  rcases outcome : process botId delivery db with ⟨_ | _ | payload, after⟩
  · simp
  · simp
  · simp

/-- **The close flow runs for a trade in exactly the step in which its remaining quantity
comes to zero.** -/
theorem closesTrade_iff {delivery : Delivery} (ledger : LedgerHolds db)
    (positive : 0 < delivery.event.qty) (tradeId : ℕ) :
    closesTrade botId delivery db = some tradeId ↔
      db.remainingOf tradeId ≠ 0 ∧ (process botId delivery db).2.remainingOf tradeId = 0 := by
  rw [closesTrade_eq_some_iff]
  constructor
  · rintro ⟨payload, db', returned, ofTrade⟩
    obtain ⟨_, recorded⟩ := process_ok_iff.mp returned
    rw [returned]
    cases recorded with
    | closed reduces emptied =>
        obtain rfl : _ = tradeId := by
          simpa [reduces.derives, reduces.ofTrade] using ofTrade
        have remaining := ledger.balanced _ _ reduces.held
        have before : db.remainingOf _ = delivery.event.qty :=
          remaining.symm.trans (sub_eq_zero.mp emptied)
        refine ⟨before ▸ positive.ne', ?_⟩
        rw [remainingOf_recordClose reduces, if_pos rfl, before, sub_self]
  · rintro ⟨before, after⟩
    cases outcome : (process botId delivery db).1 with
    | error raised =>
        rw [process_error outcome] at after
        exact absurd after before
    | ok closed =>
        have returned : process botId delivery db = (.ok closed, (process botId delivery db).2) :=
          Prod.ext outcome rfl
        obtain ⟨_, recorded⟩ := process_ok_iff.mp returned
        generalize (process botId delivery db).2 = db' at returned recorded after
        cases recorded with
        | opened =>
            rw [remainingOf_charge rfl] at after
            exact absurd after before
        | part reduces remains =>
            rw [remainingOf_recordPart reduces] at after
            split_ifs at after with same
            · subst same
              exact absurd (ledger.balanced _ _ reduces.held ▸ after) remains
            · exact absurd (by simpa using after) before
        | closed reduces emptied =>
            rw [remainingOf_recordClose reduces] at after
            split_ifs at after with same
            · exact ⟨_, _, returned, by rw [reduces.derives, reduces.ofTrade, same]⟩
            · exact absurd (by simpa using after) before

end Recorded

/-! ## Every step -/

section Steps

variable {db : Db} {botId : String} {delivery : Delivery} {tradeId : ℕ}

/-- A position row is of a trade already drawn. -/
theorem Integrity.tradeId_lt (integrity : Integrity db) {key : PositionKey}
    {row : PositionStateRow} (held : db.positions.lookup key = some row) :
    row.tradeId < db.nextTradeId := by
  obtain ⟨trade, member, tracks⟩ := integrity.tracked key row held
  exact tracks.id ▸ integrity.tradeIds trade member

theorem LedgerHolds.afterPlacement (ledger : LedgerHolds db) (integrity : Integrity db)
    {p : Placed} (nonneg : 0 ≤ p.qty) (slPrice tpPrice notionalUsd : ℚ) (slSetAt : ℕ) :
    LedgerHolds (db.afterPlacement p slPrice tpPrice notionalUsd slSetAt) := by
  obtain ⟨trade, trades, tradeId, _, qty, _⟩ :=
    integrity.afterPlacement_trades p slPrice tpPrice notionalUsd slSetAt
  refine ⟨fun key row held => ?_, fun key row held => ?_⟩
  · rcases lookup_insert_cases held with ⟨_, rfl⟩ | ⟨_, heldBefore⟩
    · exact nonneg
    · exact ledger.nonneg key row heldBefore
  · refine Eq.trans ?_ (remainingOf_opened trades rfl).symm
    rcases lookup_insert_cases held with ⟨_, rfl⟩ | ⟨_, heldBefore⟩
    · rw [if_pos tradeId, integrity.remainingOf_next, zero_add, qty]
    · rw [if_neg (tradeId ▸ (integrity.tradeId_lt heldBefore).ne'), add_zero]
      exact ledger.balanced key row heldBefore

theorem LedgerHolds.afterEmergencyClose (ledger : LedgerHolds db) (integrity : Integrity db)
    (p : Placed) (closeExchangeOrderId : String) (closeAt : ℕ) :
    LedgerHolds (db.afterEmergencyClose p closeExchangeOrderId closeAt) := by
  obtain ⟨trade, trades, tradeId, _⟩ :=
    integrity.afterEmergencyClose_trades p closeExchangeOrderId closeAt
  refine ⟨ledger.nonneg, fun key row held => ?_⟩
  refine Eq.trans ?_ (remainingOf_opened trades rfl).symm
  rw [if_neg (tradeId ▸ (integrity.tradeId_lt held).ne'), add_zero]
  exact ledger.balanced key row held

theorem LedgerHolds.monitored (ledger : LedgerHolds db) {key : PositionKey}
    {row : PositionStateRow} (write : MonitorWrite) (held : db.positions.lookup key = some row) :
    LedgerHolds { db with positions := db.positions.insert key (write.set row) } := by
  have sameQty : (write.set row).remainingQty = row.remainingQty := by cases write <;> rfl
  have sameTrade : (write.set row).tradeId = row.tradeId := by cases write <;> rfl
  refine ⟨fun other found heldAfter => ?_, fun other found heldAfter => ?_⟩
  · rcases lookup_insert_cases heldAfter with ⟨_, rfl⟩ | ⟨_, heldBefore⟩
    · exact sameQty ▸ ledger.nonneg key row held
    · exact ledger.nonneg other found heldBefore
  · rcases lookup_insert_cases heldAfter with ⟨_, rfl⟩ | ⟨_, heldBefore⟩
    · rw [sameQty, sameTrade]
      exact ledger.balanced key row held
    · exact ledger.balanced other found heldBefore

theorem LedgerHolds.step (ledger : LedgerHolds db) (integrity : Integrity db) {s : Step}
    (sound : s.Sound) : LedgerHolds (step s db) := by
  generalize after : Execution.step s db = db'
  have change : Change db s db' := after ▸ step_change s db
  cases change with
  | nothing => exact ledger
  | placed free => exact ledger.afterPlacement integrity sound _ _ _ _
  | emergencyClosed => exact ledger.afterEmergencyClose integrity _ _ _
  | monitored held => exact ledger.monitored _ held
  | recorded recorded => exact ledger.recorded integrity recorded

/-! ## At most one close -/

/-- A trade that was drawn and has no position row: it is never closed by a fill again. -/
def Gone (tradeId : ℕ) (db : Db) : Prop :=
  tradeId < db.nextTradeId ∧ ∀ key row, db.positions.lookup key = some row → row.tradeId ≠ tradeId

/-- The close flow runs for the trade of a position row, and removes the row. -/
theorem gone_of_closesTrade (integrity : Integrity db)
    (closes : closesTrade botId delivery db = some tradeId) :
    ¬ Gone tradeId db ∧ Gone tradeId (process botId delivery db).2 := by
  obtain ⟨payload, db', returned, ofTrade⟩ := closesTrade_eq_some_iff.mp closes
  obtain ⟨_, recorded⟩ := process_ok_iff.mp returned
  rw [returned]
  cases recorded with
  | closed reduces =>
      obtain rfl : _ = tradeId := by
        simpa [reduces.derives, reduces.ofTrade] using ofTrade
      refine ⟨fun gone => gone.2 _ _ reduces.held rfl, ?_, ?_⟩
      · exact integrity.tradeId_lt reduces.held
      · intro key row held
        obtain ⟨different, heldBefore⟩ := lookup_recordClose.mp held
        exact (integrity.tradeId_ne reduces.held heldBefore different).symm

theorem Gone.step (gone : Gone tradeId db) (s : Step) : Gone tradeId (step s db) := by
  generalize after : Execution.step s db = db'
  have change : Change db s db' := after ▸ step_change s db
  obtain ⟨drawn, rowless⟩ := gone
  cases change with
  | nothing => exact ⟨drawn, rowless⟩
  | placed free =>
      refine ⟨drawn.trans (Nat.lt_succ_self _), fun key row held => ?_⟩
      rcases lookup_insert_cases held with ⟨_, rfl⟩ | ⟨_, heldBefore⟩
      · exact drawn.ne'
      · exact rowless key row heldBefore
  | emergencyClosed => exact ⟨drawn.trans (Nat.lt_succ_self _), rowless⟩
  | @monitored _ write _ old held =>
      have sameTrade : (write.set old).tradeId = old.tradeId := by cases write <;> rfl
      refine ⟨drawn, fun key row heldAfter => ?_⟩
      rcases lookup_insert_cases heldAfter with ⟨_, rfl⟩ | ⟨_, heldBefore⟩
      · exact sameTrade ▸ rowless _ _ held
      · exact rowless key row heldBefore
  | recorded recorded =>
      cases recorded with
      | opened => exact ⟨drawn, rowless⟩
      | part reduces =>
          refine ⟨drawn, fun key row held => ?_⟩
          rcases lookup_insert_cases held with ⟨_, rfl⟩ | ⟨_, heldBefore⟩
          · rw [PositionStateRow.afterFill_tradeId]
            exact rowless _ _ reduces.held
          · exact rowless key row heldBefore
      | closed reduces =>
          exact ⟨drawn, fun key row held => rowless key row (lookup_recordClose.mp held).2⟩

theorem Gone.not_mem_closedTrades {steps : List Step} :
    ∀ {db : Db}, Integrity db → Gone tradeId db → tradeId ∉ closedTrades db steps := by
  induction steps with
  | nil => exact fun _ _ member => nomatch member
  | cons s steps ih =>
      intro db integrity gone
      have later := ih (integrity.step s) (gone.step s)
      cases s with
      | fill botId delivery =>
          simp only [closedTrades, List.mem_append, Option.mem_toList, not_or]
          exact ⟨fun closes => (gone_of_closesTrade integrity closes).1 gone, later⟩
      | placed | emergencyClosed | monitored => exact later

theorem closedTrades_nodup {steps : List Step} :
    ∀ {db : Db}, Integrity db → (closedTrades db steps).Nodup := by
  induction steps with
  | nil => exact fun _ => List.nodup_nil
  | cons s steps ih =>
      intro db integrity
      have later := ih (integrity.step s)
      cases s with
      | fill botId delivery =>
          simp only [closedTrades]
          cases closes : closesTrade botId delivery db with
          | none => exact later
          | some id =>
              have gone := (gone_of_closesTrade integrity closes).2
              exact List.nodup_cons.mpr
                ⟨gone.not_mem_closedTrades (integrity.step (.fill botId delivery)), later⟩
      | placed | emergencyClosed | monitored => exact later

end Steps

/-- **The dispatcher's ledger**: in every state the service reaches, the position row of a
trade is non-negative and is the opened quantity less what its executions closed; the next fill
runs the close flow for a trade exactly when it brings that difference to zero; no trade was
closed twice; and a fill that raises changes nothing. -/
theorem run_ledgerHolds {steps : List Step} (sound : ∀ s ∈ steps, s.Sound) :
    LedgerHolds (run step {} steps) ∧
      (∀ botId delivery, 0 < delivery.event.qty → ∀ tradeId,
        closesTrade botId delivery (run step {} steps) = some tradeId ↔
          (run step {} steps).remainingOf tradeId ≠ 0 ∧
            (process botId delivery (run step {} steps)).2.remainingOf tradeId = 0) ∧
      (closedTrades {} steps).Nodup ∧
      ∀ botId delivery raised, (process botId delivery (run step {} steps)).1 = .error raised →
        (process botId delivery (run step {} steps)).2 = run step {} steps := by
  have initial : LedgerHolds {} :=
    ⟨fun _ _ held => by simp at held, fun _ _ held => by simp at held⟩
  obtain ⟨_, ledger⟩ := run_invariant (fun db => Integrity db ∧ LedgerHolds db)
    (fun db s holds sound => ⟨holds.1.step s, holds.2.step holds.1 sound⟩)
    ⟨Integrity.initial, initial⟩ (runGuarded_of_forall sound)
  exact ⟨ledger, fun _ _ positive tradeId => closesTrade_iff ledger positive tradeId,
    closedTrades_nodup Integrity.initial, fun _ _ _ raises => process_error raises⟩

/-- A long of 10 on the first bot. -/
def placedLong : Placed where
  botId := "bot"
  request :=
    { signalId := 7, symbol := "BTCUSDT", side := .buy, qty := 10, leverage := 5,
      slPct := 1 / 50, tpPct := 1 / 25, tpQtyPct := 1 / 2, beTrigger := 1 / 100,
      beSlLevel := 1 / 1000, trailPct := 1 / 100, exchangeMode := .live }
  envelope := ⟨"corr", 1⟩
  placeResult := ⟨"open-1", 2⟩
  fillPrice := 100
  qty := 10

/-- A fill of the long's symbol, with both profit readings given. -/
def longFill (execId orderId : String) (side : Side) (qty : ℚ) (at_ : ℕ) : Delivery where
  event := ⟨execId, orderId, "BTCUSDT", side, 104, qty, 1 / 20, at_⟩
  reads := ⟨.ok 0, .ok 30⟩
  now := at_

/-- The long, its opening fill, a take-profit of half of it and a stop for the rest. -/
def longRun : List Step :=
  [.placed placedLong 98 104 1000 3 true,
   .fill "bot" (longFill "e1" "open-1" .buy 10 4),
   .fill "bot" (longFill "e2" "tp" .sell 5 5),
   .monitored ("bot", "BTCUSDT") (.slMoved 103 .trail 6) true,
   .fill "bot" (longFill "e3" "sl" .sell 5 7)]

theorem longRun_ledgerHolds :
    LedgerHolds (run step {} longRun) ∧ closedTrades {} longRun = [1] := by
  have sound : ∀ s ∈ longRun, s.Sound := by
    simp [longRun, Step.Sound, placedLong, longFill]
  exact ⟨(run_ledgerHolds sound).1, by decide +kernel⟩

end Scalper.Execution
