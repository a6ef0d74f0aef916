import Scalper.Execution.Lifecycle
import Scalper.Execution.Tracking

/-!
# Whose row an operation touches

`position_state` is keyed by `(bot_id, symbol)`: when a trade is closed and the symbol is opened
again, the row of the new trade stands where the old one stood.  Three kinds of operation act for
a trade on the row of its key: the trade's monitor, a fill of it, and the watchdog's emergency
close of it.  The dispatcher's decrement asks for the row of its trade; the statements of the
monitor and the delete of the emergency close ask for the key alone, and a monitor only learns
that its trade is closed by finding no row.

A fleet is the service with all its monitors, and a step is one await of one of them, a fill, a
placement, or a statement of the watchdog's tick.  `run_ownRows` shows that every operation keeps
to the rows of its own trade, and every monitor ends at its first tick after the close, in every
run in which no placement takes a key that an operation of an earlier trade still has in hand.
`reopened_foreignRow` is the run in which one does.
-/

set_option autoImplicit false

namespace Scalper.Execution

open Scalper.Lib Scalper.Exchange

/-! ## The fleet -/

/-- An entry of `position_lifecycle_tasks`. -/
structure Task where
  monitor : Monitor
  phase : TickPhase := .asleep
  deriving DecidableEq, Repr

/-- The service and its monitors, by the id of their trade. -/
structure Fleet where
  service : Service := {}
  tasks : AList fun _ : ℕ => Task := ∅

/-- The tables of the fleet. -/
abbrev Fleet.db (w : Fleet) : Db := w.service.db

/-- A placement, one whose stop was refused, a fill, a statement of the watchdog's tick, or a
move of a monitor with the stop the exchange then has. -/
inductive FleetStep where
  | places (p : Placed) (slPrice tpPrice notionalUsd : ℚ) (slSetAt : ℕ) (tickSize : ℚ)
      (commits : Bool)
  | flattens (p : Placed) (closeExchangeOrderId : String) (closeAt : ℕ) (commits : Bool)
  | fills (botId : String) (delivery : Delivery)
  | watchdogReads
  | trackedCloses (key : PositionKey) (closeExchangeOrderId : String) (closeAt : ℕ)
      (commits : Bool)
  | watchdogEnds
  | moves (tradeId : ℕ) (move : MonitorMove) (stop : ExchangeStop)

def fleetStep : FleetStep → Fleet → Fleet
  | .places p slPrice tpPrice notionalUsd slSetAt tickSize commits, w =>
      match transaction commits (persistPlacementTx p slPrice tpPrice notionalUsd slSetAt)
          w.db with
      | (.error _, _) => w
      | (.ok (_, _, tradeId), db) =>
          { service := { w.service with db := db }
            tasks := w.tasks.insert tradeId
              { monitor := ⟨p.key, tradeId, p.request.side, p.fillPrice, p.qty, tickSize⟩ } }
  | .flattens p closeExchangeOrderId closeAt commits, w =>
      { w with
        service := serviceStep (.transacts (.emergencyClosed p closeExchangeOrderId closeAt commits))
          w.service }
  | .fills botId delivery, w =>
      { w with service := serviceStep (.transacts (.fill botId delivery)) w.service }
  | .watchdogReads, w => { w with service := serviceStep .watchdogReads w.service }
  | .trackedCloses key closeExchangeOrderId closeAt commits, w =>
      { w with
        service := serviceStep (.trackedClosed key closeExchangeOrderId closeAt commits) w.service }
  | .watchdogEnds, w => { w with service := { w.service with watched := ∅ } }
  | .moves tradeId move stop, w =>
      match w.tasks.lookup tradeId with
      | none => w
      | some task =>
          let d := monitorStep task.monitor move ⟨task.phase, w.db, stop⟩
          { service := { w.service with db := d.db }
            tasks := w.tasks.insert tradeId { task with phase := d.phase } }

/-! ## The property and its condition -/

/-- The trade a step acts for. -/
def FleetStep.actsFor (w : Fleet) : FleetStep → Option ℕ
  | .places .. | .flattens .. => some w.db.nextTradeId
  | .fills botId delivery =>
      (deriveExecType botId delivery.event
        (w.db.selectOrderIdByExchangeId delivery.event.exchangeOrderId) w.db).tradeId
  | .trackedCloses key _ _ _ => (w.service.watched.lookup key).map (·.tradeId)
  | .moves tradeId _ _ => some tradeId
  | .watchdogReads | .watchdogEnds => none

/-- The rows a step changes or deletes are of the trade it acts for. -/
def OwnRows (w : Fleet) (s : FleetStep) : Prop :=
  ∀ key row, w.db.positions.lookup key = some row →
    (fleetStep s w).db.positions.lookup key ≠ some row → s.actsFor w = some row.tradeId

/-- A monitor that reads after its trade was closed ends there. -/
def StopsOnceClosed (w : Fleet) (s : FleetStep) : Prop :=
  ∀ tradeId task price stop, s = .moves tradeId (.reads price) stop →
    w.tasks.lookup tradeId = some task → task.phase = .asleep → w.db.isClosed tradeId →
    (fleetStep s w).tasks.lookup tradeId = some { task with phase := .returned }

/-- A step writes to the rows of its own trade. -/
structure KeepsToItsTrade (w : Fleet) (s : FleetStep) : Prop where
  ownRows : OwnRows w s
  stops : StopsOnceClosed w s

/-- The task has returned or raised. -/
def TickPhase.ended : TickPhase → Bool
  | .returned | .raised => true
  | _ => false

/-- No placement is written on a key that the monitor of an earlier trade still follows. -/
def Unfollowed (w : Fleet) : FleetStep → Prop
  | .places p _ _ _ _ _ commits =>
      commits = true → w.db.positions.lookup p.key = none →
        ∀ tradeId task, w.tasks.lookup tradeId = some task → task.monitor.key = p.key →
          task.phase.ended = true
  | _ => True

/-- No placement is written on a key that the watchdog's tick has read a row of. -/
def Unread (w : Fleet) : FleetStep → Prop
  | .places p _ _ _ _ _ commits =>
      commits = true → w.db.positions.lookup p.key = none → w.service.watched.lookup p.key = none
  | _ => True

/-- No placement of the bot is under way. -/
structure Unclaimed (w : Fleet) (s : FleetStep) : Prop where
  unfollowed : Unfollowed w s
  unread : Unread w s

/-- A condition on all monitors can be checked. -/
instance Fleet.decidableTasks (w : Fleet) (p : Task → Prop) [DecidablePred p] :
    Decidable (∀ tradeId task, w.tasks.lookup tradeId = some task → p task) :=
  decidable_of_iff (∀ entry ∈ w.tasks.entries, p entry.2)
    ⟨fun all tradeId task found => all ⟨tradeId, task⟩ (AList.mem_lookup_iff.mp found),
      fun all entry member => all entry.1 entry.2 (AList.mem_lookup_iff.mpr member)⟩

instance Unfollowed.decidable (w : Fleet) : ∀ s : FleetStep, Decidable (Unfollowed w s)
  | .places p _ _ _ _ _ _ =>
      have := w.decidableTasks fun task => task.monitor.key = p.key → task.phase.ended = true
      inferInstanceAs (Decidable (_ → _ → _))
  | .flattens .. | .fills .. | .watchdogReads | .trackedCloses .. | .watchdogEnds | .moves .. =>
      isTrue trivial

instance Unread.decidable (w : Fleet) : ∀ s : FleetStep, Decidable (Unread w s)
  | .places .. => inferInstanceAs (Decidable (_ → _ → _))
  | .flattens .. | .fills .. | .watchdogReads | .trackedCloses .. | .watchdogEnds | .moves .. =>
      isTrue trivial

instance Unclaimed.decidable (w : Fleet) (s : FleetStep) : Decidable (Unclaimed w s) :=
  decidable_of_iff (Unfollowed w s ∧ Unread w s)
    ⟨fun both => ⟨both.1, both.2⟩, fun unclaimed => ⟨unclaimed.unfollowed, unclaimed.unread⟩⟩

/-! ## What the steps leave of the rows -/

section Rows

variable {db db' db'' : Db}

/-- Every row left stands where one of its trade stood. -/
def KeepsRows (db db' : Db) : Prop :=
  ∀ key row', db'.positions.lookup key = some row' →
    ∃ row, db.positions.lookup key = some row ∧ row.tradeId = row'.tradeId

theorem KeepsRows.of_positions (same : db'.positions = db.positions) : KeepsRows db db' := by
  intro key row held
  exact ⟨row, same ▸ held, rfl⟩

theorem MonitorWrite.set_tradeId (write : MonitorWrite) (row : PositionStateRow) :
    (write.set row).tradeId = row.tradeId := by
  cases write <;> rfl

theorem lookup_monitored (key other : PositionKey) (write : MonitorWrite) (db : Db) :
    (db.monitored key write).positions.lookup other =
      if other = key then (db.positions.lookup key).map write.set
      else db.positions.lookup other := by
  simp only [Db.monitored]
  cases held : db.positions.lookup key with
  | none =>
      by_cases same : other = key
      · subst same
        simp [held]
      · simp [same]
  | some row =>
      by_cases same : other = key
      · subst same
        simp
      · simp [same, AList.lookup_insert_ne same]

theorem keepsRows_monitored (key : PositionKey) (write : MonitorWrite) (db : Db) :
    KeepsRows db (db.monitored key write) := by
  intro other row held
  rw [lookup_monitored] at held
  split_ifs at held with same
  · subst same
    obtain ⟨before, found, rfl⟩ := Option.map_eq_some_iff.mp held
    exact ⟨before, found, (write.set_tradeId before).symm⟩
  · exact ⟨row, held, rfl⟩

theorem Recorded.keepsRows {botId : String} {event : Fill} {reads : ClosedPnlReads} {now : ℕ}
    {closed : Option OrderClosed} (recorded : Recorded botId event reads now db closed db') :
    KeepsRows db db' := by
  intro key row held
  cases recorded with
  | opened => exact ⟨row, held, rfl⟩
  | part reduces =>
      rcases lookup_insert_cases held with ⟨rfl, rfl⟩ | ⟨-, before⟩
      · exact ⟨_, reduces.held, rfl⟩
      · exact ⟨row, before, rfl⟩
  | closed => exact ⟨row, (lookup_recordClose.mp held).2, rfl⟩

/-- A fill changes rows of the trade it was attributed to only. -/
theorem Recorded.ownRows {botId : String} {event : Fill} {reads : ClosedPnlReads} {now : ℕ}
    {closed : Option OrderClosed} (recorded : Recorded botId event reads now db closed db')
    {key : PositionKey} {row : PositionStateRow} (held : db.positions.lookup key = some row)
    (changed : db'.positions.lookup key ≠ some row) :
    (deriveExecType botId event (db.selectOrderIdByExchangeId event.exchangeOrderId) db).tradeId =
      some row.tradeId := by
  cases recorded with
  | opened => exact absurd held changed
  | @part orderId derived ps reduces =>
      by_cases same : key = (botId, event.symbol)
      · subst same
        obtain rfl := Option.some.inj (reduces.held.symm.trans held)
        rw [reduces.derives, reduces.ofTrade]
      · exact absurd ((AList.lookup_insert_ne same).trans held) changed
  | @closed orderId derived ps before after correlationId exchangeOrderId reduces =>
      by_cases same : key = (botId, event.symbol)
      · subst same
        obtain rfl := Option.some.inj (reduces.held.symm.trans held)
        rw [reduces.derives, reduces.ofTrade]
      · exact absurd (lookup_recordClose.mpr ⟨same, held⟩) changed

end Rows

/-! ## What a move of a monitor leaves -/

section Moves

variable {m : Monitor} {move : MonitorMove} {d d' : Desk}

theorem Integrity.monitoredKey {db : Db} (integrity : Integrity db) (key : PositionKey)
    (write : MonitorWrite) : Integrity (db.monitored key write) := by
  unfold Db.monitored
  cases held : db.positions.lookup key with
  | none => exact integrity
  | some row => exact integrity.monitored write held

theorem Integrity.announced {db : Db} (integrity : Integrity db) (event : TradingEvent) :
    Integrity (db.announced event) :=
  ⟨integrity.orderIds, integrity.tradeIds, integrity.tradesDistinct, integrity.openOrders,
    integrity.executionTrades, integrity.tracked⟩

theorem Integrity.marked {db : Db} (integrity : Integrity db) (tradeId : ℕ)
    (state : TradeLifecycleState) : Integrity (db.marked tradeId state) := by
  refine integrity.rewrite (keepsIdentity_enter state) rfl rfl rfl rfl
    integrity.executionTrades ?_
  intro key row held
  exact tracked_updateWhere (integrity.tracked key row held) (keepsIdentity_enter state)
    (fun _ => rfl) (fun _ => rfl) rfl rfl

theorem monitored_trades (db : Db) (key : PositionKey) (write : MonitorWrite) :
    (db.monitored key write).trades = db.trades ∧
      (db.monitored key write).orders = db.orders ∧
      (db.monitored key write).nextTradeId = db.nextTradeId := by
  unfold Db.monitored
  cases db.positions.lookup key <;> exact ⟨rfl, rfl, rfl⟩

theorem Moved.integrity (moved : Moved m move d d') (integrity : Integrity d.db) :
    Integrity d'.db := by
  cases moved with
  | nothing | exited | read | raised | undetected | rested | chose | set | gaveUp | lost =>
      exact integrity
  | ticked now => exact integrity.monitoredKey m.key _
  | detected now => exact integrity.announced _
  | persisted now => exact integrity.monitoredKey m.key _
  | marked => exact integrity.marked m.tradeId _

theorem Moved.grows (moved : Moved m move d d') : Grows d.db d'.db := by
  cases moved with
  | nothing | exited | read | raised | undetected | rested | chose | set | gaveUp | lost
  | detected =>
      exact .of_append (List.append_nil _).symm (List.append_nil _).symm
  | ticked now =>
      obtain ⟨trades, orders, -⟩ := monitored_trades d.db m.key (Reading.write m _ now)
      exact .of_append (orders.trans (List.append_nil _).symm)
        (trades.trans (List.append_nil _).symm)
  | @persisted new now =>
      obtain ⟨trades, orders, -⟩ :=
        monitored_trades d.db m.key (.slMoved new.slPrice new.slType now)
      exact .of_append (orders.trans (List.append_nil _).symm)
        (trades.trans (List.append_nil _).symm)
  | marked =>
      exact ⟨⟨[], (List.append_nil _).symm⟩, m.tradeId, _, [], keepsIdentity_enter _,
        (List.append_nil _).symm⟩

theorem Moved.keepsRows (moved : Moved m move d d') : KeepsRows d.db d'.db := by
  cases moved with
  | nothing | exited | read | raised | undetected | rested | chose | set | gaveUp | lost
  | detected | marked => exact .of_positions rfl
  | ticked now => exact keepsRows_monitored m.key _ d.db
  | persisted now => exact keepsRows_monitored m.key _ d.db

/-- Only the row of the key changes, and only while the monitor goes on. -/
theorem Moved.changes (moved : Moved m move d d') {key : PositionKey}
    (changed : d'.db.positions.lookup key ≠ d.db.positions.lookup key) :
    key = m.key ∧ d.phase.ended = false := by
  cases moved with
  | nothing | exited | read | raised | undetected | rested | chose | set | gaveUp | lost
  | detected | marked => exact absurd rfl changed
  | ticked now here =>
      refine ⟨?_, by rw [here]; rfl⟩
      by_contra other
      exact changed (by rw [lookup_monitored, if_neg other])
  | persisted now here =>
      refine ⟨?_, by rw [here]; rfl⟩
      by_contra other
      exact changed (by rw [lookup_monitored, if_neg other])

/-- A monitor that goes on had not ended. -/
theorem Moved.ended (moved : Moved m move d d') (ended : d'.phase.ended = false) :
    d.phase.ended = false := by
  cases moved with
  | nothing => exact ended
  | exited | raised => simp [TickPhase.ended] at ended
  | read price asleep => rw [asleep]; rfl
  | ticked now here | undetected here | detected now here | rested here | chose here | set here
  | gaveUp here | lost here | persisted now here | marked here => rw [here]; rfl

end Moves

/-! ## What a step of the fleet leaves -/

/-- A placement raises, or is written on a free key and returns the new trade's id. -/
theorem placement_cases (p : Placed) (slPrice tpPrice notionalUsd : ℚ) (slSetAt : ℕ)
    (commits : Bool) (db : Db) :
    (∃ raised, transaction commits (persistPlacementTx p slPrice tpPrice notionalUsd slSetAt) db =
        (.error raised, db)) ∨
      commits = true ∧ db.positions.lookup p.key = none ∧ ∃ orderPlaced slMoved,
        transaction commits (persistPlacementTx p slPrice tpPrice notionalUsd slSetAt) db =
          (.ok (orderPlaced, slMoved, db.nextTradeId),
            db.afterPlacement p slPrice tpPrice notionalUsd slSetAt) := by
  cases commits with
  | false =>
      refine .inl ?_
      simp only [transaction]
      split
      · exact ⟨_, rfl⟩
      · exact ⟨_, rfl⟩
  | true =>
      cases held : db.positions.lookup p.key with
      | none =>
          exact .inr ⟨rfl, rfl, _, _, persistPlacementTx_free held⟩
      | some row => exact .inl ⟨.databaseError, persistPlacementTx_held held⟩

section Steps

variable {w : Fleet}

theorem keepsRows_trackedClosed (watching : Watching w.service) (key : PositionKey)
    (closeExchangeOrderId : String) (closeAt : ℕ) (commits : Bool) :
    KeepsRows w.db
      (serviceStep (.trackedClosed key closeExchangeOrderId closeAt commits) w.service).db := by
  rcases serviceStep_cases watching (.trackedClosed key closeExchangeOrderId closeAt commits) with
    same | ⟨tx, impossible, -⟩ | ⟨closed, ps, id, at', committed, openOrderId, -, -, -, -, same⟩
  · exact .of_positions (by rw [same])
  · cases impossible
  · intro other row held
    rw [same] at held
    exact ⟨row, (lookup_afterTrackedClose.mp held).2, rfl⟩

/-- A fill either changes nothing or is recorded. -/
theorem step_fill_cases (botId : String) (delivery : Delivery) (db : Db) :
    step (.fill botId delivery) db = db ∨
      ∃ closed, Recorded botId delivery.event delivery.reads delivery.now db closed
        (step (.fill botId delivery) db) := by
  generalize after : step (.fill botId delivery) db = db'
  have change : Change db (.fill botId delivery) db' := after ▸ step_change _ db
  cases change with
  | nothing => exact .inl rfl
  | recorded recorded => exact .inr ⟨_, recorded⟩

/-- An emergency close writes no position row. -/
theorem positions_emergencyClosed (p : Placed) (closeExchangeOrderId : String) (closeAt : ℕ)
    (commits : Bool) (db : Db) :
    (step (.emergencyClosed p closeExchangeOrderId closeAt commits) db).positions =
      db.positions := by
  generalize after : step (.emergencyClosed p closeExchangeOrderId closeAt commits) db = db'
  have change : Change db (.emergencyClosed p closeExchangeOrderId closeAt commits) db' :=
    after ▸ step_change _ db
  cases change with
  | nothing | emergencyClosed => rfl

theorem keepsRows_fill (botId : String) (delivery : Delivery) (db : Db) :
    KeepsRows db (step (.fill botId delivery) db) := by
  rcases step_fill_cases botId delivery db with same | ⟨_, recorded⟩
  · exact .of_positions (by rw [same])
  · exact recorded.keepsRows

theorem keepsRows_emergencyClosed (p : Placed) (closeExchangeOrderId : String) (closeAt : ℕ)
    (commits : Bool) (db : Db) :
    KeepsRows db (step (.emergencyClosed p closeExchangeOrderId closeAt commits) db) :=
  .of_positions (positions_emergencyClosed p closeExchangeOrderId closeAt commits db)

theorem Change.nextTradeId_le {db db' : Db} {s : Step} (change : Change db s db') :
    db.nextTradeId ≤ db'.nextTradeId := by
  cases change with
  | nothing | monitored => exact le_rfl
  | placed | emergencyClosed => exact Nat.le_succ _
  | recorded recorded => cases recorded <;> exact le_rfl

theorem Moved.nextTradeId {m : Monitor} {move : MonitorMove} {d d' : Desk}
    (moved : Moved m move d d') :
    d'.db.nextTradeId = d.db.nextTradeId := by
  cases moved with
  | nothing | exited | read | raised | undetected | rested | chose | set | gaveUp | lost
  | detected | marked => rfl
  | ticked now => exact (monitored_trades d.db m.key _).2.2
  | persisted now => exact (monitored_trades d.db m.key _).2.2

theorem nextTradeId_le_serviceStep (watching : Watching w.service) (s : ServiceStep) :
    w.db.nextTradeId ≤ (serviceStep s w.service).db.nextTradeId := by
  rcases serviceStep_cases watching s with
    same | ⟨tx, -, same⟩ | ⟨key, ps, id, closeAt, commits, openOrderId, -, -, -, -, same⟩
  · rw [same]
  · rw [same]
    exact (step_change tx w.db).nextTradeId_le
  · rw [same]
    exact le_rfl

/-- Everything but a placement: rows stay with their trades, monitors stay themselves, and the
watchdog knows what it read. -/
structure Carries (w w' : Fleet) : Prop where
  rows : KeepsRows w.db w'.db
  watching : Watching w'.service
  drawn : w.db.nextTradeId ≤ w'.db.nextTradeId
  tasks : ∀ tradeId task', w'.tasks.lookup tradeId = some task' → ∃ task,
    w.tasks.lookup tradeId = some task ∧ task.monitor = task'.monitor ∧
      (task'.phase.ended = false → task.phase.ended = false)
  watched : ∀ key ps, w'.service.watched.lookup key = some ps →
    w.service.watched.lookup key = some ps ∨ w.db.positions.lookup key = some ps

theorem Carries.refl (watching : Watching w.service) : Carries w w :=
  ⟨.of_positions rfl, watching, le_rfl, fun _ task found => ⟨task, found, rfl, id⟩,
    fun _ _ read => .inl read⟩

/-- The steps of the service itself. -/
theorem Carries.serves (watching : Watching w.service) (s : ServiceStep)
    (rows : KeepsRows w.db (serviceStep s w.service).db) :
    Carries w { w with service := serviceStep s w.service } where
  rows := rows
  watching := watching.step s
  drawn := nextTradeId_le_serviceStep watching s
  tasks := fun tradeId task found => ⟨task, found, rfl, id⟩
  watched := by
    intro key ps read
    cases s with
    | transacts tx => exact .inl read
    | watchdogReads => exact .inr read
    | trackedClosed closed closeExchangeOrderId closeAt commits =>
        refine .inl ?_
        simp only [serviceStep] at read
        split at read
        · exact read
        · exact read

/-- A move of a monitor. -/
theorem Carries.moved (watching : Watching w.service) {tradeId : ℕ} {task : Task}
    (found : w.tasks.lookup tradeId = some task) (stop : ExchangeStop) {move : MonitorMove}
    {d : Desk}
    (moved : Moved task.monitor move ⟨task.phase, w.db, stop⟩ d) :
    Carries w
      { service := { w.service with db := d.db }
        tasks := w.tasks.insert tradeId { task with phase := d.phase } } where
  rows := moved.keepsRows
  watching := ⟨moved.integrity watching.integrity,
    fun key row read => moved.grows.knows (watching.known key row read)⟩
  drawn := moved.nextTradeId.ge
  tasks := by
    intro other task' foundAfter
    rcases lookup_insert_eq_some_cases foundAfter with ⟨rfl, rfl⟩ | ⟨-, before⟩
    · exact ⟨task, found, rfl, moved.ended⟩
    · exact ⟨task', before, rfl, id⟩
  watched := fun key ps read => .inl read

/-- A placement that was written, and the monitor it started. -/
structure PlacedOn (w : Fleet) (s : FleetStep) (p : Placed) (w' : Fleet) : Prop where
  call : ∃ slPrice tpPrice notionalUsd slSetAt tickSize, s =
    .places p slPrice tpPrice notionalUsd slSetAt tickSize true ∧ w' =
      { service :=
          { w.service with db := w.db.afterPlacement p slPrice tpPrice notionalUsd slSetAt }
        tasks := w.tasks.insert w.db.nextTradeId
          { monitor :=
              ⟨p.key, w.db.nextTradeId, p.request.side, p.fillPrice, p.qty, tickSize⟩ } }
  free : w.db.positions.lookup p.key = none

/-- A step is a placement that was written, or leaves every row with its trade. -/
theorem fleetStep_cases (watching : Watching w.service) (s : FleetStep) :
    Carries w (fleetStep s w) ∨ ∃ p, PlacedOn w s p (fleetStep s w) := by
  cases s with
  | places p slPrice tpPrice notionalUsd slSetAt tickSize commits =>
      rcases placement_cases p slPrice tpPrice notionalUsd slSetAt commits w.db with
        ⟨raised, failed⟩ | ⟨rfl, free, orderPlaced, slMoved, written⟩
      · refine .inl ?_
        simpa only [fleetStep, failed] using Carries.refl watching
      · refine .inr ⟨p, ⟨slPrice, tpPrice, notionalUsd, slSetAt, tickSize, rfl, ?_⟩, free⟩
        simp only [fleetStep, written]
  | flattens p closeExchangeOrderId closeAt commits =>
      exact .inl (.serves watching _
        (keepsRows_emergencyClosed p closeExchangeOrderId closeAt commits w.db))
  | fills botId delivery =>
      exact .inl (.serves watching _ (keepsRows_fill botId delivery w.db))
  | watchdogReads => exact .inl (.serves watching .watchdogReads (.of_positions rfl))
  | trackedCloses key closeExchangeOrderId closeAt commits =>
      exact .inl (.serves watching _
        (keepsRows_trackedClosed watching key closeExchangeOrderId closeAt commits))
  | watchdogEnds =>
      refine .inl ⟨.of_positions rfl,
        ⟨watching.integrity, fun key row read => by simp [fleetStep] at read⟩, le_rfl,
        fun tradeId task found => ⟨task, found, rfl, id⟩, fun key ps read => ?_⟩
      simp [fleetStep] at read
  | moves tradeId move stop =>
      refine .inl ?_
      cases found : w.tasks.lookup tradeId with
      | none => simpa only [fleetStep, found] using Carries.refl watching
      | some task =>
          simp only [fleetStep, found]
          exact .moved watching found stop (monitorStep_cases task.monitor move _)

end Steps

/-! ## The invariant -/

/-- A monitor that goes on follows the row of its own trade. -/
structure Followed (w : Fleet) : Prop where
  watching : Watching w.service
  ids : ∀ tradeId task, w.tasks.lookup tradeId = some task → task.monitor.tradeId = tradeId
  drawn : ∀ tradeId task, w.tasks.lookup tradeId = some task → tradeId < w.db.nextTradeId
  followed : ∀ tradeId task, w.tasks.lookup tradeId = some task → task.phase.ended = false →
    ∀ row, w.db.positions.lookup task.monitor.key = some row → row.tradeId = tradeId

/-- And the watchdog's tick closes the trade of the row it deletes. -/
structure Owned (w : Fleet) : Prop extends Followed w where
  snapshot : ∀ key ps row, w.service.watched.lookup key = some ps →
    w.db.positions.lookup key = some row → row.tradeId = ps.tradeId

theorem Followed.monitor_drawn {w : Fleet} (followed : Followed w) {tradeId : ℕ} {task : Task}
    (found : w.tasks.lookup tradeId = some task) :
    task.monitor.tradeId < w.db.nextTradeId := by
  rw [followed.ids tradeId task found]
  exact followed.drawn tradeId task found

theorem Followed.initial : Followed {} where
  watching := .initial
  ids := fun tradeId task found => by simp at found
  drawn := fun tradeId task found => by simp at found
  followed := fun tradeId task found => by simp at found

theorem Owned.initial : Owned {} where
  toFollowed := .initial
  snapshot := fun key ps row read => by simp at read

section Invariant

variable {w w' : Fleet} {s : FleetStep} {p : Placed}

theorem Followed.carries (followed : Followed w) (carries : Carries w w') : Followed w' where
  watching := carries.watching
  ids := by
    intro tradeId task' found
    obtain ⟨task, before, same, -⟩ := carries.tasks tradeId task' found
    exact same ▸ followed.ids tradeId task before
  drawn := by
    intro tradeId task' found
    obtain ⟨task, before, -, -⟩ := carries.tasks tradeId task' found
    exact (followed.drawn tradeId task before).trans_le carries.drawn
  followed := by
    intro tradeId task' found running row' held
    obtain ⟨task, before, same, ran⟩ := carries.tasks tradeId task' found
    obtain ⟨row, heldBefore, sameTrade⟩ := carries.rows _ row' held
    exact sameTrade.symm.trans
      (followed.followed tradeId task before (ran running) row (same ▸ heldBefore))

/-- A placement on a key nobody follows any more. -/
theorem Followed.placed (followed : Followed w) (placed : PlacedOn w s p w')
    (unfollowed : Unfollowed w s) : Followed w' := by
  obtain ⟨⟨slPrice, tpPrice, notionalUsd, slSetAt, tickSize, rfl, rfl⟩, free⟩ := placed
  refine ⟨?_, fun tradeId task found => ?_, fun tradeId task found => ?_,
    fun tradeId task found running row held => ?_⟩
  · have stepped := followed.watching.step
      (.transacts (.placed p slPrice tpPrice notionalUsd slSetAt true))
    simpa only [serviceStep, Execution.step, persistPlacementTx_eq, if_pos free] using stepped
  · rcases lookup_insert_eq_some_cases found with ⟨rfl, rfl⟩ | ⟨-, before⟩
    · rfl
    · exact followed.ids tradeId task before
  · rcases lookup_insert_eq_some_cases found with ⟨rfl, rfl⟩ | ⟨-, before⟩
    · exact Nat.lt_succ_self _
    · exact Nat.lt_succ_of_lt (followed.drawn tradeId task before)
  · rcases lookup_insert_eq_some_cases found with ⟨rfl, rfl⟩ | ⟨-, before⟩
    · rcases lookup_insert_cases held with ⟨-, rfl⟩ | ⟨different, -⟩
      · rfl
      · exact absurd rfl different
    · rcases lookup_insert_cases held with ⟨sameKey, -⟩ | ⟨-, heldBefore⟩
      · rw [unfollowed rfl free tradeId task before sameKey] at running
        cases running
      · exact followed.followed tradeId task before running row heldBefore

theorem Followed.step (followed : Followed w) (unfollowed : Unfollowed w s) :
    Followed (fleetStep s w) := by
  rcases fleetStep_cases followed.watching s with carries | ⟨p, placed⟩
  · exact followed.carries carries
  · exact followed.placed placed unfollowed

theorem Owned.carries (owned : Owned w) (carries : Carries w w') : Owned w' where
  toFollowed := owned.toFollowed.carries carries
  snapshot := by
    intro key ps row' read held
    obtain ⟨row, heldBefore, sameTrade⟩ := carries.rows _ row' held
    rcases carries.watched key ps read with before | current
    · exact sameTrade.symm.trans (owned.snapshot key ps row before heldBefore)
    · obtain rfl := Option.some.inj (current.symm.trans heldBefore)
      exact sameTrade.symm

theorem Owned.step (owned : Owned w) (unclaimed : Unclaimed w s) : Owned (fleetStep s w) := by
  rcases fleetStep_cases owned.watching s with carries | ⟨p, placed⟩
  · exact owned.carries carries
  · refine ⟨owned.toFollowed.placed placed unclaimed.unfollowed, fun key ps row' read held => ?_⟩
    obtain ⟨⟨slPrice, tpPrice, notionalUsd, slSetAt, tickSize, rfl, after⟩, free⟩ := placed
    rw [after] at read held
    rcases lookup_insert_cases held with ⟨rfl, -⟩ | ⟨-, heldBefore⟩
    · cases (unclaimed.unread rfl free).symm.trans read
    · exact owned.snapshot key ps row' read heldBefore

end Invariant

/-! ## Every operation keeps to its trade -/

section Property

variable {w : Fleet}

theorem Owned.ownRows (owned : Owned w) (s : FleetStep) : OwnRows w s := by
  intro key row held changed
  cases s with
  | places p slPrice tpPrice notionalUsd slSetAt tickSize commits =>
      exfalso
      rcases placement_cases p slPrice tpPrice notionalUsd slSetAt commits w.db with
        ⟨raised, failed⟩ | ⟨-, free, orderPlaced, slMoved, written⟩
      · simp only [fleetStep, failed] at changed
        exact changed held
      · simp only [fleetStep, written] at changed
        have different : key ≠ p.key := by
          rintro rfl
          cases free.symm.trans held
        exact changed ((AList.lookup_insert_ne different).trans held)
  | flattens p closeExchangeOrderId closeAt commits =>
      have kept := positions_emergencyClosed p closeExchangeOrderId closeAt commits w.db
      exact absurd ((congrArg (AList.lookup key) kept).trans held) changed
  | fills botId delivery =>
      rcases step_fill_cases botId delivery w.db with same | ⟨_, recorded⟩
      · exact absurd ((congrArg (fun db => db.positions.lookup key) same).trans held) changed
      · exact recorded.ownRows held changed
  | watchdogReads => exact absurd held changed
  | trackedCloses closed closeExchangeOrderId closeAt commits =>
      rcases serviceStep_cases owned.watching
        (.trackedClosed closed closeExchangeOrderId closeAt commits) with
        same | ⟨tx, impossible, -⟩ |
        ⟨key', ps, id, at', committed, openOrderId, call, read, -, -, same⟩
      · exact absurd (by simpa only [fleetStep, Fleet.db, same] using held) changed
      · cases impossible
      · cases call
        have sameKey : key = closed := by
          by_contra different
          refine changed ?_
          simp only [fleetStep, Fleet.db, same]
          exact lookup_afterTrackedClose.mpr ⟨different, held⟩
        subst sameKey
        simp only [FleetStep.actsFor, read, Option.map_some]
        exact congrArg some (owned.snapshot key ps row read held).symm
  | watchdogEnds => exact absurd held changed
  | moves tradeId move stop =>
      cases found : w.tasks.lookup tradeId with
      | none =>
          simp only [fleetStep, found] at changed
          exact absurd held changed
      | some task =>
          simp only [fleetStep, found] at changed
          obtain ⟨rfl, running⟩ :=
            (monitorStep_cases task.monitor move ⟨task.phase, w.db, stop⟩).changes
              (fun same => changed (same.trans held))
          exact congrArg some (owned.followed tradeId task found running row held).symm

theorem Owned.stopsOnceClosed (owned : Owned w) (s : FleetStep) : StopsOnceClosed w s := by
  rintro tradeId task price stop rfl found asleep closed
  have gone : w.db.positions.lookup task.monitor.key = none := by
    by_contra held
    obtain ⟨row, held⟩ := Option.ne_none_iff_exists'.mp held
    have ofTrade := owned.followed tradeId task found (by rw [asleep]; rfl) row held
    exact owned.watching.integrity.not_isClosed held (ofTrade ▸ closed)
  simp [fleetStep, found, monitorStep, asleep, Db.selectPositionState, gone]

/-- **Operations keep to the rows of their own trade**, and a monitor ends once its trade is
closed, in every run whose placements are all written on keys that no monitor follows and no
watchdog tick has read. -/
theorem run_ownRows {steps : List FleetStep}
    (unclaimed : RunGuarded Unclaimed fleetStep {} steps) :
    RunGuarded KeepsToItsTrade fleetStep {} steps :=
  runGuarded_of_invariant Owned (fun _ _ owned unclaimed => owned.step unclaimed)
    (fun _ s owned _ => ⟨owned.ownRows s, owned.stopsOnceClosed s⟩) .initial unclaimed

end Property

/-! ## Reopening a symbol -/

/-- The symbol of the long, opened again. -/
def placedAgain : Placed := { placedLong with placeResult := ⟨"open-2", 20⟩ }

/-- The long is stopped out, its monitor ticks and finds no row, and the symbol is opened again. -/
def settledReopening : List FleetStep :=
  [.places placedLong 98 104 1000 3 (1 / 100) true,
   .watchdogReads,
   .fills "bot" (longFill "e1" "sl" .sell 10 4),
   .moves 1 (.reads 97) {},
   .watchdogEnds,
   .places placedAgain 98 104 1000 21 (1 / 100) true,
   .moves 2 (.reads 101) {},
   .moves 2 (.ticks 22 true) {}]

theorem settledReopening_ownRows :
    RunGuarded Unclaimed fleetStep {} settledReopening ∧
      RunGuarded KeepsToItsTrade fleetStep {} settledReopening := by
  have unclaimed : RunGuarded Unclaimed fleetStep {} settledReopening := by decide +kernel
  exact ⟨unclaimed, run_ownRows unclaimed⟩

/-- The long, its stop and the second opening, with the watchdog's read and nothing else between
them. -/
def reopening : List FleetStep :=
  [.places placedLong 98 104 1000 3 (1 / 100) true,
   .watchdogReads,
   .fills "bot" (longFill "e1" "sl" .sell 10 4),
   .places placedAgain 98 104 1000 21 (1 / 100) true]

/-- The row of the second trade. -/
def reopenedRow : PositionStateRow where
  tradeId := 2
  side := .buy
  entryPrice := 100
  qty := 10
  remainingQty := 10
  slPrice := some 98
  tpPrice := some 104
  slType := some .protective
  updatedAt := 21

/-- **A row changes hands**: after a reopening the first trade's monitor does not end, and writes
the second trade's row; and the watchdog's emergency close of the first trade deletes it. -/
theorem reopened_foreignRow :
    ¬ RunGuarded StopsOnceClosed fleetStep {} (reopening ++ [.moves 1 (.reads 105) {}]) ∧
      ¬ RunGuarded OwnRows fleetStep {}
        (reopening ++ [.moves 1 (.reads 105) {}] ++ [.moves 1 (.ticks 22 true) {}]) ∧
      ¬ RunGuarded OwnRows fleetStep {}
        (reopening ++ [.trackedCloses ("bot", "BTCUSDT") "safety" 22 true]) := by
  refine ⟨fun stops => ?_, fun own => ?_, fun own => ?_⟩
  · have closed : (run fleetStep {} reopening).db.isClosed 1 := by
      unfold Db.isClosed
      decide +kernel
    have stopped := (runGuarded_append.mp stops).2.1 1
      ⟨⟨("bot", "BTCUSDT"), 1, .buy, 100, 10, 1 / 100⟩, .asleep⟩ 105 {} rfl (by decide +kernel) rfl
      closed
    revert stopped
    decide +kernel
  · have touched := (runGuarded_append.mp own).2.1 ("bot", "BTCUSDT") reopenedRow
      (by decide +kernel) (by decide +kernel)
    cases touched
  · have touched := (runGuarded_append.mp own).2.1 ("bot", "BTCUSDT") reopenedRow
      (by decide +kernel) (by decide +kernel)
    revert touched
    decide +kernel

end Scalper.Execution
