import Scalper.Execution.RowIdentity

/-!
# The type of the stop

`sl_type` of a position row has two writers.  The dispatcher sets `trail` when a partial
take-profit is filled; the monitor sets `be` at the end of a tick that read `protective`, and
`trail` at the end of one that read `trail`.  Between the monitor's read and its write stand
several awaits, a call to the exchange among them, and the write does not look at the row again.

`run_slType_forward` shows that the type of a trade's stop only moves along protective, be and
trail, over any two moments of a run, when no partial take-profit is recorded on a key while a
monitor of that key is in a tick bound for break-even, and no placement is written on a key that
an earlier trade's monitor still follows.  `takeProfit_reverted` is the tick that overwrites
`trail` with `be`.
-/

set_option autoImplicit false

namespace Scalper.Execution

open Scalper.Lib Scalper.Exchange

/-! ## The property and its condition -/

/-- How far along its way a stop is. -/
def slRank : Option SlType → ℕ
  | none => 0
  | some .protective => 1
  | some .be => 2
  | some .trail => 3

/-- The stop a monitor has chosen and not yet written. -/
def TickPhase.chosen : TickPhase → Option NewStop
  | .setting new | .persisting new => some new
  | _ => none

/-- The monitor is in a tick that read a protective stop at a price that triggers break-even, and
has not written the new stop yet. -/
def Task.breaksEven (db : Db) (task : Task) : Bool :=
  match task.phase with
  | .ticking r | .detecting r | .deciding r =>
      match db.selectTradeFsmParams task.monitor.tradeId with
      | some (some params) =>
          r.ps.slType == some .protective &&
            checkBeTrigger task.monitor.side r.price task.monitor.entryPrice params.beTrigger
      | _ => false
  | .setting new | .persisting new => new.slType == .be
  | _ => false

/-- A partial take-profit of a key is not recorded while a monitor of the key breaks even. -/
def Unraced (w : Fleet) : FleetStep → Prop
  | .fills botId delivery =>
      (deriveExecType botId delivery.event
        (w.db.selectOrderIdByExchangeId delivery.event.exchangeOrderId) w.db).execType =
          .partialTp →
      ∀ tradeId task, w.tasks.lookup tradeId = some task →
        task.monitor.key = (botId, delivery.event.symbol) → task.breaksEven w.db = false
  | _ => True

/-- No placement of the bot overlaps with the step. -/
structure Sequenced (w : Fleet) (s : FleetStep) : Prop where
  unfollowed : Unfollowed w s
  unraced : Unraced w s

instance Unraced.decidable (w : Fleet) : ∀ s : FleetStep, Decidable (Unraced w s)
  | .fills botId delivery =>
      have := w.decidableTasks fun task =>
        task.monitor.key = (botId, delivery.event.symbol) → task.breaksEven w.db = false
      inferInstanceAs (Decidable (_ → _))
  | .places .. | .flattens .. | .watchdogReads | .trackedCloses .. | .watchdogEnds | .moves .. =>
      isTrue trivial

instance Sequenced.decidable (w : Fleet) (s : FleetStep) : Decidable (Sequenced w s) :=
  decidable_of_iff (Unfollowed w s ∧ Unraced w s)
    ⟨fun both => ⟨both.1, both.2⟩, fun sequenced => ⟨sequenced.unfollowed, sequenced.unraced⟩⟩

/-! ## The parameters of a trade stay -/

section Params

variable {db db' : Db}

/-- The trades there are keep their parameters. -/
def SameParams (db db' : Db) : Prop :=
  ∀ tradeId < db.nextTradeId, db'.selectTradeFsmParams tradeId = db.selectTradeFsmParams tradeId

theorem SameParams.of_trades (same : db'.trades = db.trades) : SameParams db db' := by
  intro tradeId _
  rw [Db.selectTradeFsmParams, same, Db.selectTradeFsmParams]

theorem SameParams.of_rewrite {rewritten : ℕ} {set : TradeRow → TradeRow}
    (keeps : KeepsIdentity set) (params : ∀ trade, (set trade).params = trade.params)
    (trades : db'.trades = updateWhere (·.id == rewritten) set db.trades) :
    SameParams db db' := by
  intro tradeId _
  rw [Db.selectTradeFsmParams, trades, Db.selectTradeFsmParams]
  exact map_find?_updateWhere (fun trade => by simp only [keeps.id]) params db.trades

theorem SameParams.of_append {trade : TradeRow} (trades : db'.trades = db.trades ++ [trade])
    (fresh : trade.id = db.nextTradeId) : SameParams db db' := by
  intro tradeId drawn
  have other : (trade.id == tradeId) = false := by
    simp only [fresh, beq_eq_false_iff_ne]
    omega
  rw [Db.selectTradeFsmParams, trades, Db.selectTradeFsmParams, List.find?_append]
  simp [other]

theorem sameParams_afterPlacement (integrity : Integrity db) (p : Placed)
    (slPrice tpPrice notionalUsd : ℚ) (slSetAt : ℕ) :
    SameParams db (db.afterPlacement p slPrice tpPrice notionalUsd slSetAt) := by
  obtain ⟨trade, trades, fresh, -⟩ :=
    integrity.afterPlacement_trades p slPrice tpPrice notionalUsd slSetAt
  exact .of_append trades fresh

theorem Recorded.sameParams {botId : String} {event : Fill} {reads : ClosedPnlReads} {now : ℕ}
    {closed : Option OrderClosed} (recorded : Recorded botId event reads now db closed db') :
    SameParams db db' := by
  cases recorded with
  | opened => exact .of_rewrite (keepsIdentity_addFee _) (fun _ => rfl) rfl
  | part =>
      exact .of_rewrite ((keepsIdentity_enter _).comp (keepsIdentity_addFee _)) (fun _ => rfl)
        (recordPart_trades ..)
  | closed =>
      exact .of_rewrite
        (((keepsIdentity_enter _).comp (keepsIdentity_close ..)).comp (keepsIdentity_addFee _))
        (fun _ => rfl) (recordClose_trades ..)

theorem Change.sameParams (integrity : Integrity db) {s : Step} (change : Change db s db') :
    SameParams db db' := by
  cases change with
  | nothing | monitored => exact .of_trades rfl
  | placed => exact sameParams_afterPlacement integrity _ _ _ _ _
  | emergencyClosed =>
      obtain ⟨trade, trades, fresh, -⟩ := integrity.afterEmergencyClose_trades _ _ _
      exact .of_append trades fresh
  | recorded recorded => exact recorded.sameParams

theorem Moved.sameParams {m : Monitor} {move : MonitorMove} {d d' : Desk}
    (moved : Moved m move d d') :
    SameParams d.db d'.db := by
  cases moved with
  | nothing | exited | read | raised | undetected | rested | chose | set | gaveUp | lost
  | detected => exact .of_trades rfl
  | ticked now => exact .of_trades (monitored_trades d.db m.key _).1
  | persisted now => exact .of_trades (monitored_trades d.db m.key _).1
  | marked => exact .of_rewrite (keepsIdentity_enter _) (fun _ => rfl) rfl

theorem sameParams_serviceStep {service : Service} (watching : Watching service)
    (s : ServiceStep) : SameParams service.db (serviceStep s service).db := by
  rcases serviceStep_cases watching s with
    same | ⟨tx, -, same⟩ | ⟨key, ps, id, closeAt, commits, openOrderId, -, -, -, -, same⟩
  · exact .of_trades (by rw [same])
  · rw [same]
    exact (step_change tx service.db).sameParams watching.integrity
  · rw [same]
    exact .of_rewrite (keepsIdentity_trackedClose closeAt openOrderId) (fun _ => rfl) rfl

/-- Whether a monitor breaks even depends on the parameters of its trade alone. -/
theorem SameParams.breaksEven (same : SameParams db db') {task : Task}
    (drawn : task.monitor.tradeId < db.nextTradeId) :
    task.breaksEven db' = task.breaksEven db := by
  unfold Task.breaksEven
  rw [same task.monitor.tradeId drawn]

theorem breaksEven_of_ended {task : Task} (ended : task.phase.ended = true) :
    task.breaksEven db = false := by
  obtain ⟨monitor, phase⟩ := task
  cases phase with
  | returned | raised => rfl
  | asleep | ticking | detecting | deciding | setting | persisting | marking => cases ended

end Params

/-! ## What a step does to the types -/

section Types

variable {db db' : Db}

/-- Every row that is left has the type it had, or one further along. -/
def Forward (db db' : Db) : Prop :=
  ∀ key row row', db.positions.lookup key = some row → db'.positions.lookup key = some row' →
    slRank row.slType ≤ slRank row'.slType

/-- The rows that are left are as they were. -/
def OnlyRemoves (db db' : Db) : Prop :=
  ∀ key row, db'.positions.lookup key = some row → db.positions.lookup key = some row

theorem OnlyRemoves.refl (db : Db) : OnlyRemoves db db := fun _ _ held => held

theorem OnlyRemoves.forward (removes : OnlyRemoves db db') : Forward db db' := by
  intro key row row' before after
  obtain rfl := Option.some.inj (before.symm.trans (removes key row' after))
  exact le_rfl

theorem slRank_le_trail (slType : Option SlType) : slRank slType ≤ slRank (some .trail) := by
  cases slType with
  | none => decide
  | some slType => cases slType <;> decide

theorem slRank_le_be {slType : Option SlType} (untrailed : slType ≠ some .trail) :
    slRank slType ≤ slRank (some .be) := by
  cases slType with
  | none => decide
  | some slType =>
      cases slType with
      | protective | be => decide
      | trail => exact absurd rfl untrailed

/-- A fill keeps the type, unless it is a partial take-profit. -/
theorem afterFill_slType (qty : ℚ) (execType : ExecType) (now : ℕ) (row : PositionStateRow) :
    (row.afterFill qty (newSlType execType) now).slType =
      if execType = .partialTp then some .trail else row.slType := by
  unfold newSlType PositionStateRow.afterFill
  split_ifs <;> simp

theorem Recorded.forward {botId : String} {event : Fill} {reads : ClosedPnlReads} {now : ℕ}
    {closed : Option OrderClosed} (recorded : Recorded botId event reads now db closed db') :
    Forward db db' := by
  intro key row row' before after
  cases recorded with
  | opened =>
      obtain rfl := Option.some.inj (before.symm.trans after)
      exact le_rfl
  | part reduces =>
      rcases lookup_insert_cases after with ⟨rfl, rfl⟩ | ⟨-, kept⟩
      · obtain rfl := Option.some.inj (reduces.held.symm.trans before)
        rw [afterFill_slType]
        split_ifs
        · exact slRank_le_trail _
        · exact le_rfl
      · obtain rfl := Option.some.inj (before.symm.trans kept)
        exact le_rfl
  | closed =>
      obtain rfl := Option.some.inj (before.symm.trans (lookup_recordClose.mp after).2)
      exact le_rfl

/-- A trailing row was one before, or its partial take-profit was just recorded. -/
theorem Recorded.trails {botId : String} {event : Fill} {reads : ClosedPnlReads} {now : ℕ}
    {closed : Option OrderClosed} (recorded : Recorded botId event reads now db closed db')
    {key : PositionKey} {row' : PositionStateRow} (after : db'.positions.lookup key = some row')
    (trail : row'.slType = some .trail) :
    (∃ row, db.positions.lookup key = some row ∧ row.slType = some .trail) ∨
      key = (botId, event.symbol) ∧
        (deriveExecType botId event (db.selectOrderIdByExchangeId event.exchangeOrderId)
          db).execType = .partialTp := by
  cases recorded with
  | opened => exact .inl ⟨row', after, trail⟩
  | @part orderId derived ps reduces =>
      rcases lookup_insert_cases after with ⟨rfl, rfl⟩ | ⟨-, kept⟩
      · rw [afterFill_slType] at trail
        split_ifs at trail with takesProfit
        · exact .inr ⟨rfl, reduces.derives ▸ takesProfit⟩
        · exact .inl ⟨ps, reduces.held, trail⟩
      · exact .inl ⟨row', kept, trail⟩
  | closed => exact .inl ⟨row', (lookup_recordClose.mp after).2, trail⟩

variable {m : Monitor} {move : MonitorMove} {d d' : Desk}

/-- A move of a monitor leaves the types alone, or writes the one it has chosen. -/
theorem Moved.slType (moved : Moved m move d d') {key : PositionKey} {row' : PositionStateRow}
    (after : d'.db.positions.lookup key = some row') :
    ∃ row, d.db.positions.lookup key = some row ∧
      (row'.slType = row.slType ∨
        ∃ new, key = m.key ∧ d.phase = .persisting new ∧ d'.phase = .marking new.slType ∧
          row'.slType = some new.slType) := by
  cases moved with
  | nothing | exited | read | raised | undetected | rested | chose | set | gaveUp | lost
  | detected | marked => exact ⟨row', after, .inl rfl⟩
  | ticked now =>
      rw [lookup_monitored] at after
      split_ifs at after with same
      · subst same
        obtain ⟨row, held, rfl⟩ := Option.map_eq_some_iff.mp after
        exact ⟨row, held, .inl rfl⟩
      · exact ⟨row', after, .inl rfl⟩
  | @persisted new now here =>
      rw [lookup_monitored] at after
      split_ifs at after with same
      · subst same
        obtain ⟨row, held, rfl⟩ := Option.map_eq_some_iff.mp after
        exact ⟨row, held, .inr ⟨new, rfl, here, rfl, rfl⟩⟩
      · exact ⟨row', after, .inl rfl⟩

/-- Where a chosen stop comes from. -/
theorem Moved.chosen (moved : Moved m move d d') {new : NewStop}
    (chosen : d'.phase.chosen = some new) :
    d.phase.chosen = some new ∨
      new.slType = .trail ∨
      new.slType = .be ∧ (Task.mk m d.phase).breaksEven d.db = true := by
  cases moved with
  | nothing => exact .inl chosen
  | exited | read | raised | ticked | undetected | detected | rested | gaveUp | lost | persisted
  | marked => cases chosen
  | chose here known choice =>
      obtain rfl := Option.some.inj chosen
      rcases (chooseStop_some choice).2 with
        ⟨breaksEven, protective, -, triggered, -⟩ | ⟨trail, -⟩
      · refine .inr (.inr ⟨breaksEven, ?_⟩)
        simp [Task.breaksEven, here, known, protective, triggered]
      · exact .inr (.inl trail)
  | set here => exact .inl (by rw [here]; exact chosen)

/-- A monitor breaks even if it did before, or has just read a protective stop. -/
theorem Moved.breaksEven (moved : Moved m move d d') (drawn : m.tradeId < d.db.nextTradeId)
    (breaks : (Task.mk m d'.phase).breaksEven d'.db = true) :
    (Task.mk m d.phase).breaksEven d.db = true ∨
      ∃ row, d.db.positions.lookup m.key = some row ∧ row.slType = some .protective := by
  rw [moved.sameParams.breaksEven drawn] at breaks
  cases moved with
  | nothing => exact .inl breaks
  | exited | raised | rested | gaveUp | lost | persisted | marked =>
      simp [Task.breaksEven] at breaks
  | @read ps price asleep held =>
      refine .inr ⟨ps, held, ?_⟩
      simp only [Task.breaksEven] at breaks
      split at breaks
      · simp only [Bool.and_eq_true, beq_iff_eq] at breaks
        exact breaks.1
      · cases breaks
  | ticked now here | undetected here | detected now here | set here =>
      exact .inl (by simpa only [Task.breaksEven, here] using breaks)
  | chose here known choice =>
      refine .inl ?_
      rcases (chooseStop_some choice).2 with
        ⟨breaksEven, protective, -, triggered, -⟩ | ⟨trail, -⟩
      · simp [Task.breaksEven, here, known, protective, triggered]
      · simp [Task.breaksEven, trail] at breaks

end Types

/-! ## The invariant -/

/-- Monitors follow their own rows, what they have chosen is break-even or a trailing stop, and
none of them breaks even on a trailing row. -/
structure Unreverted (w : Fleet) : Prop extends Followed w where
  chosen : ∀ tradeId task new, w.tasks.lookup tradeId = some task →
    task.phase.chosen = some new → new.slType ≠ .protective
  trailing : ∀ tradeId task, w.tasks.lookup tradeId = some task →
    ∀ row, w.db.positions.lookup task.monitor.key = some row → row.slType = some .trail →
      task.breaksEven w.db = false

theorem Unreverted.initial : Unreverted {} where
  toFollowed := .initial
  chosen := fun tradeId task new found => by simp at found
  trailing := fun tradeId task found => by simp at found

section Invariant

variable {w : Fleet}

/-- The steps of the service itself, given where its trailing rows come from. -/
theorem Unreverted.serves (unreverted : Unreverted w) {service : Service}
    (followed : Followed { w with service := service })
    (params : SameParams w.db service.db)
    (trails : ∀ key row', service.db.positions.lookup key = some row' →
      row'.slType = some .trail →
      (∃ row, w.db.positions.lookup key = some row ∧ row.slType = some .trail) ∨
        ∀ tradeId task, w.tasks.lookup tradeId = some task → task.monitor.key = key →
          task.breaksEven w.db = false) :
    Unreverted { w with service := service } where
  toFollowed := followed
  chosen := unreverted.chosen
  trailing := by
    intro tradeId task found row' held trail
    change task.breaksEven service.db = false
    rw [params.breaksEven (unreverted.monitor_drawn found)]
    rcases trails _ row' held trail with ⟨row, before, trailed⟩ | unraced
    · exact unreverted.trailing tradeId task found row before trailed
    · exact unraced tradeId task found rfl

/-- The steps that only remove rows. -/
theorem Unreverted.removes (unreverted : Unreverted w) {service : Service}
    (followed : Followed { w with service := service })
    (params : SameParams w.db service.db) (removes : OnlyRemoves w.db service.db) :
    Unreverted { w with service := service } :=
  unreverted.serves followed params
    fun key row held trail => .inl ⟨row, removes key row held, trail⟩

theorem onlyRemoves_emergencyClosed (p : Placed) (closeExchangeOrderId : String) (closeAt : ℕ)
    (commits : Bool) (db : Db) :
    OnlyRemoves db (step (.emergencyClosed p closeExchangeOrderId closeAt commits) db) := by
  intro key row held
  rwa [positions_emergencyClosed] at held

theorem onlyRemoves_trackedClosed {service : Service} (watching : Watching service)
    (key : PositionKey) (closeExchangeOrderId : String) (closeAt : ℕ) (commits : Bool) :
    OnlyRemoves service.db
      (serviceStep (.trackedClosed key closeExchangeOrderId closeAt commits) service).db := by
  intro other row held
  rcases serviceStep_cases watching (.trackedClosed key closeExchangeOrderId closeAt commits) with
    same | ⟨tx, impossible, -⟩ | ⟨closed, ps, id, at', committed, openOrderId, -, -, -, -, same⟩
  · exact same ▸ held
  · cases impossible
  · rw [same] at held
    exact (lookup_afterTrackedClose.mp held).2

theorem Unreverted.placed (unreverted : Unreverted w) {s : FleetStep} {p : Placed} {w' : Fleet}
    (placed : PlacedOn w s p w') (unfollowed : Unfollowed w s) : Unreverted w' where
  toFollowed := unreverted.toFollowed.placed placed unfollowed
  chosen := by
    obtain ⟨⟨slPrice, tpPrice, notionalUsd, slSetAt, tickSize, rfl, rfl⟩, free⟩ := placed
    intro tradeId task new found chosen
    rcases lookup_insert_eq_some_cases found with ⟨rfl, rfl⟩ | ⟨-, before⟩
    · cases chosen
    · exact unreverted.chosen tradeId task new before chosen
  trailing := by
    obtain ⟨⟨slPrice, tpPrice, notionalUsd, slSetAt, tickSize, rfl, rfl⟩, free⟩ := placed
    intro tradeId task found row held trail
    rcases lookup_insert_eq_some_cases found with ⟨rfl, rfl⟩ | ⟨-, before⟩
    · rfl
    · rcases lookup_insert_cases held with ⟨-, rfl⟩ | ⟨-, heldBefore⟩
      · cases trail
      · have params := sameParams_afterPlacement unreverted.watching.integrity p slPrice tpPrice
          notionalUsd slSetAt
        exact (params.breaksEven (unreverted.monitor_drawn before)).trans
          (unreverted.trailing tradeId task before row heldBefore trail)

theorem Unreverted.moved (unreverted : Unreverted w) {tradeId : ℕ} {task : Task}
    (found : w.tasks.lookup tradeId = some task) (stop : ExchangeStop) {move : MonitorMove}
    {d : Desk}
    (moved : Moved task.monitor move ⟨task.phase, w.db, stop⟩ d) :
    Unreverted
      { service := { w.service with db := d.db }
        tasks := w.tasks.insert tradeId { task with phase := d.phase } } where
  toFollowed := unreverted.toFollowed.carries (.moved unreverted.watching found stop moved)
  chosen := by
    intro other task' new foundAfter chosen
    rcases lookup_insert_eq_some_cases foundAfter with ⟨rfl, rfl⟩ | ⟨-, before⟩
    · rcases moved.chosen chosen with earlier | trail | ⟨breaksEven, -⟩
      · exact unreverted.chosen other task new found earlier
      · rw [trail]
        decide
      · rw [breaksEven]
        decide
    · exact unreverted.chosen other task' new before chosen
  trailing := by
    intro other task' foundAfter row' held trail
    obtain ⟨row, heldBefore, written⟩ := moved.slType held
    rcases lookup_insert_eq_some_cases foundAfter with ⟨rfl, rfl⟩ | ⟨different, before⟩
    · -- the monitor that moved
      by_contra breaks
      rw [Bool.not_eq_false] at breaks
      rcases written with same | ⟨new, -, -, done, -⟩
      · rcases moved.breaksEven (unreverted.monitor_drawn found) breaks with
          broke | ⟨ps, read, protective⟩
        · rw [unreverted.trailing other task found row heldBefore (same ▸ trail)] at broke
          cases broke
        · obtain rfl := Option.some.inj (read.symm.trans heldBefore)
          rw [same, protective] at trail
          cases trail
      · simp [Task.breaksEven, done] at breaks
    · -- another one: it ended, or the row that moved is not its own
      refine (moved.sameParams.breaksEven (unreverted.monitor_drawn before)).trans ?_
      rcases written with same | ⟨new, sameKey, here, -, -⟩
      · exact unreverted.trailing other task' before row heldBefore (same ▸ trail)
      · by_contra breaks
        have running : task'.phase.ended = false := by
          by_contra ended
          exact breaks (breaksEven_of_ended (by simpa using ended))
        have ofOther := unreverted.followed other task' before running row heldBefore
        rw [sameKey] at heldBefore
        have ofThis := unreverted.followed tradeId task found (congrArg TickPhase.ended here) row
          heldBefore
        exact different (ofOther.symm.trans ofThis)

theorem Unreverted.step (unreverted : Unreverted w) {s : FleetStep} (sequenced : Sequenced w s) :
    Unreverted (fleetStep s w) := by
  have followed := unreverted.toFollowed.step sequenced.unfollowed
  cases s with
  | places p slPrice tpPrice notionalUsd slSetAt tickSize commits =>
      rcases placement_cases p slPrice tpPrice notionalUsd slSetAt commits w.db with
        ⟨raised, failed⟩ | ⟨rfl, free, orderPlaced, slMoved, written⟩
      · simpa only [fleetStep, failed] using unreverted
      · refine unreverted.placed ⟨⟨slPrice, tpPrice, notionalUsd, slSetAt, tickSize, rfl, ?_⟩, free⟩
          sequenced.unfollowed
        simp only [fleetStep, written]
  | flattens p closeExchangeOrderId closeAt commits =>
      exact unreverted.removes followed (sameParams_serviceStep unreverted.watching _)
        (onlyRemoves_emergencyClosed p closeExchangeOrderId closeAt commits w.db)
  | fills botId delivery =>
      refine unreverted.serves followed (sameParams_serviceStep unreverted.watching _) ?_
      intro key row held trail
      rcases step_fill_cases botId delivery w.db with same | ⟨closed, recorded⟩
      · exact .inl ⟨row, same ▸ held, trail⟩
      · rcases recorded.trails held trail with before | ⟨rfl, takesProfit⟩
        · exact .inl before
        · exact .inr (sequenced.unraced takesProfit)
  | watchdogReads => exact unreverted.removes followed (.of_trades rfl) (.refl w.db)
  | trackedCloses key closeExchangeOrderId closeAt commits =>
      exact unreverted.removes followed (sameParams_serviceStep unreverted.watching _)
        (onlyRemoves_trackedClosed unreverted.watching key closeExchangeOrderId closeAt commits)
  | watchdogEnds => exact unreverted.removes followed (.of_trades rfl) (.refl w.db)
  | moves tradeId move stop =>
      cases found : w.tasks.lookup tradeId with
      | none => simpa only [fleetStep, found] using unreverted
      | some task =>
          simp only [fleetStep, found]
          exact unreverted.moved found stop (monitorStep_cases task.monitor move _)

/-- No step takes a type back. -/
theorem Unreverted.forward (unreverted : Unreverted w) (s : FleetStep) :
    Forward w.db (fleetStep s w).db := by
  cases s with
  | places p slPrice tpPrice notionalUsd slSetAt tickSize commits =>
      rcases placement_cases p slPrice tpPrice notionalUsd slSetAt commits w.db with
        ⟨raised, failed⟩ | ⟨-, free, orderPlaced, slMoved, written⟩
      · simp only [fleetStep, failed]
        exact (OnlyRemoves.refl w.db).forward
      · simp only [fleetStep, written]
        intro key row row' before after
        rcases lookup_insert_cases after with ⟨rfl, -⟩ | ⟨-, kept⟩
        · cases free.symm.trans before
        · obtain rfl := Option.some.inj (before.symm.trans kept)
          exact le_rfl
  | flattens p closeExchangeOrderId closeAt commits =>
      exact (onlyRemoves_emergencyClosed p closeExchangeOrderId closeAt commits w.db).forward
  | fills botId delivery =>
      change Forward w.db (Execution.step (.fill botId delivery) w.db)
      rcases step_fill_cases botId delivery w.db with same | ⟨closed, recorded⟩
      · rw [same]
        exact (OnlyRemoves.refl w.db).forward
      · exact recorded.forward
  | watchdogReads => exact (OnlyRemoves.refl w.db).forward
  | trackedCloses key closeExchangeOrderId closeAt commits =>
      exact (onlyRemoves_trackedClosed unreverted.watching key closeExchangeOrderId closeAt
        commits).forward
  | watchdogEnds => exact (OnlyRemoves.refl w.db).forward
  | moves tradeId move stop =>
      cases found : w.tasks.lookup tradeId with
      | none =>
          simp only [fleetStep, found]
          exact (OnlyRemoves.refl w.db).forward
      | some task =>
          simp only [fleetStep, found]
          intro key row row' before after
          have moved := monitorStep_cases task.monitor move ⟨task.phase, w.db, stop⟩
          obtain ⟨earlier, held, same | ⟨new, rfl, here, -, written⟩⟩ := moved.slType after
          · obtain rfl := Option.some.inj (before.symm.trans held)
            rw [same]
          · change task.phase = .persisting new at here
            have chosen : task.phase.chosen = some new := by rw [here]; rfl
            rw [written]
            cases type : new.slType with
            | protective => exact absurd type (unreverted.chosen tradeId task new found chosen)
            | trail => exact slRank_le_trail _
            | be =>
                refine slRank_le_be fun trail => ?_
                have settled := unreverted.trailing tradeId task found row before trail
                simp [Task.breaksEven, here, type] at settled

end Invariant

/-! ## Every run -/

section Runs

variable {w : Fleet} {key : PositionKey} {tradeId rank : ℕ}

/-- The trade exists, and its row, while there is one, has at least that rank. -/
structure ReachedRank (key : PositionKey) (tradeId rank : ℕ) (w : Fleet) : Prop where
  drawn : tradeId < w.db.nextTradeId
  reached : ∀ row, w.db.positions.lookup key = some row → row.tradeId = tradeId →
    rank ≤ slRank row.slType

theorem ReachedRank.step (reachedRank : ReachedRank key tradeId rank w)
    (unreverted : Unreverted w) (s : FleetStep) :
    ReachedRank key tradeId rank (fleetStep s w) := by
  rcases fleetStep_cases unreverted.watching s with carries | ⟨p, placed⟩
  · refine ⟨reachedRank.drawn.trans_le carries.drawn, fun row' after ofTrade => ?_⟩
    obtain ⟨row, before, sameTrade⟩ := carries.rows key row' after
    exact (reachedRank.reached row before (sameTrade.trans ofTrade)).trans
      (unreverted.forward s key row row' before after)
  · obtain ⟨⟨slPrice, tpPrice, notionalUsd, slSetAt, tickSize, rfl, same⟩, free⟩ := placed
    rw [same]
    refine ⟨Nat.lt_succ_of_lt reachedRank.drawn, fun row' after ofTrade => ?_⟩
    rcases lookup_insert_cases after with ⟨-, rfl⟩ | ⟨-, kept⟩
    · exact absurd reachedRank.drawn (ofTrade ▸ lt_irrefl _)
    · exact reachedRank.reached row' kept ofTrade

/-- **The type of a stop only moves forward**: over any two moments of a run in which the trade
is open, along protective, be and trail, when every step of the run is sequenced. -/
theorem run_slType_forward {earlier later : List FleetStep}
    (sequenced : RunGuarded Sequenced fleetStep {} (earlier ++ later))
    {key : PositionKey} {row row' : PositionStateRow}
    (before : (run fleetStep {} earlier).db.positions.lookup key = some row)
    (after : (run fleetStep {} (earlier ++ later)).db.positions.lookup key = some row')
    (sameTrade : row'.tradeId = row.tradeId) :
    slRank row.slType ≤ slRank row'.slType := by
  obtain ⟨first, rest⟩ := runGuarded_append.mp sequenced
  have unreverted : Unreverted (run fleetStep {} earlier) :=
    run_invariant Unreverted (fun _ _ unreverted sequenced => unreverted.step sequenced) .initial
      first
  have reached : ReachedRank key row.tradeId (slRank row.slType) (run fleetStep {} earlier) := by
    refine ⟨unreverted.watching.integrity.tradeId_lt before, fun found held _ => ?_⟩
    obtain rfl := Option.some.inj (before.symm.trans held)
    exact le_rfl
  rw [run_append] at after
  exact (run_invariant (fun w => Unreverted w ∧ ReachedRank key row.tradeId (slRank row.slType) w)
    (fun _ s holds sequenced => ⟨holds.1.step sequenced, holds.2.step holds.1 s⟩)
    ⟨unreverted, reached⟩ rest).2.reached row' after sameTrade

end Runs

/-! ## A take-profit inside a tick -/

/-- The trade and the type of the stop of a key. -/
def Fleet.slTypeOf (w : Fleet) (key : PositionKey) : Option (ℕ × Option SlType) :=
  (w.db.positions.lookup key).map fun row => (row.tradeId, row.slType)

/-- The long's monitor reads a price that triggers break-even and moves the stop on the
exchange. -/
def breakevenTick : List FleetStep :=
  [.places placedLong 98 104 1000 3 (1 / 100) true,
   .moves 1 (.reads 104) {},
   .moves 1 (.ticks 4 true) {},
   .moves 1 (.detects .held 4 true) { inForce := some 98 },
   .moves 1 (.decides true) {},
   .moves 1 (.sets .returns) {}]

/-- Half of the long is taken with profit. -/
def takesProfit : FleetStep := .fills "bot" (longFill "e2" "tp" .sell 5 5)

/-- The tick's write of the break-even stop. -/
def writesBreakeven : FleetStep := .moves 1 (.persists 6 true) {}

theorem breakeven_then_takeProfit :
    ∃ row row',
      (run fleetStep {} (breakevenTick ++ [writesBreakeven])).db.positions.lookup
        ("bot", "BTCUSDT") = some row ∧
      (run fleetStep {} (breakevenTick ++ [writesBreakeven] ++ [takesProfit])).db.positions.lookup
        ("bot", "BTCUSDT") = some row' ∧
      row.slType = some .be ∧ row'.slType = some .trail ∧
      slRank row.slType ≤ slRank row'.slType := by
  have sequenced : RunGuarded Sequenced fleetStep {}
      (breakevenTick ++ [writesBreakeven] ++ [takesProfit]) := by decide +kernel
  have first : (run fleetStep {} (breakevenTick ++ [writesBreakeven])).slTypeOf
      ("bot", "BTCUSDT") = some (1, some .be) := by decide +kernel
  have last : (run fleetStep {} (breakevenTick ++ [writesBreakeven] ++ [takesProfit])).slTypeOf
      ("bot", "BTCUSDT") = some (1, some .trail) := by decide +kernel
  obtain ⟨row, before, is⟩ := Option.map_eq_some_iff.mp first
  obtain ⟨row', after, becomes⟩ := Option.map_eq_some_iff.mp last
  obtain ⟨ofTrade, type⟩ := Prod.mk.inj is
  obtain ⟨ofSame, type'⟩ := Prod.mk.inj becomes
  exact ⟨row, row', before, after, type, type',
    run_slType_forward sequenced before after (ofSame.trans ofTrade.symm)⟩

/-- **A trailing stop is taken back**: the take-profit is recorded while the tick is about to
write `be`. -/
theorem takeProfit_reverted :
    ¬ ∀ row row',
      (run fleetStep {} (breakevenTick ++ [takesProfit])).db.positions.lookup ("bot", "BTCUSDT") =
        some row →
      (run fleetStep {} (breakevenTick ++ [takesProfit] ++ [writesBreakeven])).db.positions.lookup
        ("bot", "BTCUSDT") = some row' →
      row'.tradeId = row.tradeId → slRank row.slType ≤ slRank row'.slType := by
  intro forward
  have first : (run fleetStep {} (breakevenTick ++ [takesProfit])).slTypeOf ("bot", "BTCUSDT") =
      some (1, some .trail) := by decide +kernel
  have last : (run fleetStep {} (breakevenTick ++ [takesProfit] ++ [writesBreakeven])).slTypeOf
      ("bot", "BTCUSDT") = some (1, some .be) := by decide +kernel
  obtain ⟨row, before, is⟩ := Option.map_eq_some_iff.mp first
  obtain ⟨row', after, becomes⟩ := Option.map_eq_some_iff.mp last
  obtain ⟨ofTrade, type⟩ := Prod.mk.inj is
  obtain ⟨ofSame, type'⟩ := Prod.mk.inj becomes
  have kept := forward row row' before after (ofSame.trans ofTrade.symm)
  rw [type, type'] at kept
  exact absurd kept (by decide)

end Scalper.Execution
