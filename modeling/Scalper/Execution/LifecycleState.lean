import Scalper.Execution.RowIdentity

/-!
# The observable lifecycle state

`packages/db/queries/lifecycle.py` maps the older columns of a trade, and the stop of its position
row, to a `lifecycle_state`; migration 0020 fills the new column with it once.  From then on every
statement that moves an older column is followed by one that writes a literal into the new one.  The
dispatcher, the placement and the two safety closes write both in one transaction; the monitor moves
the stop of the row in one statement and marks the trade in the next.

`Mirroring` is what the literals are worth together: the column is what the function derives, except
while a monitor is between its two statements, and except after a partial fill, which the dispatcher
records as `partially_closed` whatever the stop of the row is.  `Mirroring.fleetStep` shows that each
step of the service keeps it.
-/

set_option autoImplicit false

namespace Scalper.Execution

open Scalper.Lib Scalper.Exchange

/-! ## The derived state -/

/-- `derive_lifecycle_state`. -/
def deriveLifecycleState (status : TradeStatus) (closeReason : Option CloseReason)
    (tpHit : Option Bool) (slType : Option SlType) (trailingActive : Option Bool)
    (hasPositionState : Bool) : TradeLifecycleState :=
  match status with
  | .error => .failed
  | .closed => if closeReason = some .reconcileGone then .reconciled else .closed
  | .isOpen =>
      if hasPositionState = false then .orphaned
      else if slType = some .trail ∨ trailingActive = some true then .trailingActive
      else if slType = some .be then .breakevenSet
      else if tpHit = some true then .partiallyClosed
      else .isOpen

/-- The `sl_type` of the row that is joined to a trade by its id, if there is one. -/
def Db.stopOf (db : Db) (tradeId : ℕ) : Option (Option SlType) :=
  (db.positions.entries.find? fun entry => entry.2.tradeId == tradeId).map (·.2.slType)

/-- The state derived for a trade.  No statement writes `tp_hit` or `trailing_active`, so they keep
the `false` they are created with. -/
def Db.derivedState (db : Db) (trade : TradeRow) : TradeLifecycleState :=
  deriveLifecycleState trade.status trade.closeReason (some false) (db.stopOf trade.id).join
    (some false) (db.stopOf trade.id).isSome

/-- The last states of a trade. -/
def TradeRow.Ended (trade : TradeRow) : Prop :=
  trade.lifecycleState = some .closed ∨ trade.lifecycleState = some .reconciled

/-- A fill of the trade that did not open it is recorded. -/
def Db.Reduced (db : Db) (tradeId : ℕ) : Prop :=
  ∃ row ∈ db.executions, row.tradeId = some tradeId ∧ row.execType ≠ .isOpen

/-- The stop type a monitor has written and not marked its trade with yet. -/
def TickPhase.unmarked : TickPhase → Option SlType
  | .marking slType => some slType
  | _ => none

def unmarkedStop (tasks : AList fun _ : ℕ => Task) (tradeId : ℕ) : Option SlType :=
  (tasks.lookup tradeId).bind (·.phase.unmarked)

/-- A trade's column against what is derived. -/
inductive Mirrors (db : Db) (tasks : AList fun _ : ℕ => Task) (trade : TradeRow) : Prop where
  | derived (same : trade.lifecycleState = some (db.derivedState trade))
  | unmarked {slType : SlType} (moved : unmarkedStop tasks trade.id = some slType)
      (derives : db.derivedState trade = lifecycleStateOf slType)
      (isOpen : trade.status = .isOpen) (notEnded : ¬ trade.Ended)
  | partlyFilled (state : trade.lifecycleState = some .partiallyClosed)
      (isOpen : trade.status = .isOpen) (reduced : db.Reduced trade.id)

/-- The stop about to be written is not a protective one. -/
def TickPhase.Advances : TickPhase → Prop
  | .setting stop | .persisting stop => stop.slType ≠ .protective
  | _ => True

/-- Every trade is mirrored, every open one has its row, and a stop that was written and not marked
is that of the row. -/
structure Mirroring (db : Db) (tasks : AList fun _ : ℕ => Task) : Prop where
  backed : ∀ trade ∈ db.trades, trade.status = .isOpen → (db.stopOf trade.id).isSome
  advances : ∀ tradeId task, tasks.lookup tradeId = some task → task.phase.Advances
  written : ∀ tradeId slType, unmarkedStop tasks tradeId = some slType →
    slType ≠ .protective ∧ db.stopOf tradeId = some (some slType)
  mirrors : ∀ trade ∈ db.trades, Mirrors db tasks trade

/-- A trade that has ended keeps its state. -/
def Absorbs (db db' : Db) : Prop :=
  ∀ trade ∈ db.trades, trade.Ended →
    ∃ trade' ∈ db'.trades, trade'.id = trade.id ∧ trade'.lifecycleState = trade.lifecycleState

/-! ## The stop of a trade's row -/

section Stop

variable {db db' : Db} {tradeId : ℕ} {slType : Option SlType}

theorem stopOf_eq_some_iff (integrity : Integrity db) :
    db.stopOf tradeId = some slType ↔
      ∃ key row, db.positions.lookup key = some row ∧ row.tradeId = tradeId ∧
        row.slType = slType := by
  constructor
  · intro found
    obtain ⟨⟨key, row⟩, listed, rfl⟩ := Option.map_eq_some_iff.mp found
    exact ⟨key, row, AList.mem_lookup_iff.mpr (List.mem_of_find?_eq_some listed),
      by simpa using List.find?_some listed, rfl⟩
  · rintro ⟨key, row, held, ofTrade, rfl⟩
    have listed : (db.positions.entries.find? fun entry => entry.2.tradeId == tradeId).isSome :=
      List.find?_isSome.mpr ⟨⟨key, row⟩, AList.mem_lookup_iff.mp held, by simpa using ofTrade⟩
    obtain ⟨⟨otherKey, other⟩, found⟩ := Option.isSome_iff_exists.mp listed
    have heldOther : db.positions.lookup otherKey = some other :=
      AList.mem_lookup_iff.mpr (List.mem_of_find?_eq_some found)
    have otherTrade : other.tradeId = tradeId := by simpa using List.find?_some found
    obtain rfl := integrity.key_unique heldOther held (otherTrade.trans ofTrade.symm)
    obtain rfl := Option.some.inj (heldOther.symm.trans held)
    rw [Db.stopOf, found, Option.map_some]

/-- Where a trade's row keeps its stop, the trade keeps its stop. -/
theorem stopOf_congr (integrity : Integrity db) (integrity' : Integrity db')
    (same : ∀ slType,
      (∃ key row, db'.positions.lookup key = some row ∧ row.tradeId = tradeId ∧
        row.slType = slType) ↔
      ∃ key row, db.positions.lookup key = some row ∧ row.tradeId = tradeId ∧
        row.slType = slType) :
    db'.stopOf tradeId = db.stopOf tradeId :=
  Option.ext fun slType => by
    rw [stopOf_eq_some_iff integrity', stopOf_eq_some_iff integrity]
    exact same slType

/-- The rows of the other trades stand. -/
theorem stopOf_of_rows (integrity : Integrity db) (integrity' : Integrity db')
    (rows : ∀ key row, row.tradeId = tradeId →
      (db'.positions.lookup key = some row ↔ db.positions.lookup key = some row)) :
    db'.stopOf tradeId = db.stopOf tradeId := by
  refine stopOf_congr integrity integrity' fun slType => ?_
  constructor
  · rintro ⟨key, row, held, ofTrade, ofType⟩
    exact ⟨key, row, (rows key row ofTrade).mp held, ofTrade, ofType⟩
  · rintro ⟨key, row, held, ofTrade, ofType⟩
    exact ⟨key, row, (rows key row ofTrade).mpr held, ofTrade, ofType⟩

/-- A trade with a row is open. -/
theorem isOpen_of_stopOf (integrity : Integrity db) (stands : (db.stopOf tradeId).isSome)
    {trade : TradeRow} (member : trade ∈ db.trades) (ofTrade : trade.id = tradeId) :
    trade.status = .isOpen := by
  obtain ⟨slType, found⟩ := Option.isSome_iff_exists.mp stands
  obtain ⟨key, row, held, rowOf, -⟩ := (stopOf_eq_some_iff integrity).mp found
  obtain ⟨tracked, present, tracks⟩ := integrity.tracked key row held
  have same : trade = tracked := List.inj_on_of_nodup_map integrity.tradesDistinct member present
    (ofTrade.trans (tracks.id.trans rowOf).symm)
  rw [same]
  exact tracks.isOpen

end Stop

/-! ## Mirrored trades -/

section Trades

variable {db db' : Db} {tasks tasks' : AList fun _ : ℕ => Task} {trade trade' : TradeRow}

/-- The columns the lifecycle state is about. -/
def TradeRow.lifecycleColumns (trade : TradeRow) :
    ℕ × TradeStatus × Option CloseReason × Option TradeLifecycleState :=
  (trade.id, trade.status, trade.closeReason, trade.lifecycleState)

theorem derivedState_open (isOpen : trade.status = .isOpen) {slType : SlType}
    (stop : db.stopOf trade.id = some (some slType)) (advanced : slType ≠ .protective) :
    db.derivedState trade = lifecycleStateOf slType := by
  cases slType with
  | protective => exact absurd rfl advanced
  | be | trail => simp [Db.derivedState, deriveLifecycleState, isOpen, stop, lifecycleStateOf]

/-- An open trade has not ended. -/
theorem Mirrors.not_ended (mirrors : Mirrors db tasks trade) (isOpen : trade.status = .isOpen) :
    ¬ trade.Ended := by
  cases mirrors with
  | derived same =>
      rw [TradeRow.Ended, same]
      simp only [Db.derivedState, deriveLifecycleState, isOpen, Option.some.injEq]
      split_ifs <;> simp
  | unmarked _ _ _ notEnded => exact notEnded
  | partlyFilled state => simp [TradeRow.Ended, state]

/-- A trade whose columns, row and monitor are as before. -/
theorem Mirrors.carried (mirrors : Mirrors db tasks trade)
    (columns : trade'.lifecycleColumns = trade.lifecycleColumns)
    (stop : db'.stopOf trade.id = db.stopOf trade.id)
    (unmarked : unmarkedStop tasks' trade.id = unmarkedStop tasks trade.id)
    (executions : db.executions ⊆ db'.executions) : Mirrors db' tasks' trade' := by
  simp only [TradeRow.lifecycleColumns, Prod.mk.injEq] at columns
  obtain ⟨id, status, closeReason, state⟩ := columns
  have derived : db'.derivedState trade' = db.derivedState trade := by
    simp only [Db.derivedState, id, status, closeReason, stop]
  cases mirrors with
  | derived same => exact .derived (by rw [derived, state, same])
  | unmarked moved derives isOpen notEnded =>
      refine .unmarked (by rw [id, unmarked, moved]) (derived.trans derives)
        (status.trans isOpen) ?_
      rwa [TradeRow.Ended, state]
  | partlyFilled partial' isOpen reduced =>
      obtain ⟨row, listed, ofTrade⟩ := reduced
      exact .partlyFilled (state.trans partial') (status.trans isOpen)
        ⟨row, executions listed, id ▸ ofTrade⟩

/-- What a step leaves: mirrored trades, ended trades as they ended, and no more reconciled ones than
those it closed as orphans. -/
structure Observed (db : Db) (db' : Db) (tasks' : AList fun _ : ℕ => Task) (orphans : List ℕ) :
    Prop where
  mirroring : Mirroring db' tasks'
  absorbs : Absorbs db db'
  reconciles : ∀ trade' ∈ db'.trades, trade'.lifecycleState = some .reconciled →
    (∃ trade ∈ db.trades, trade.id = trade'.id ∧ trade.lifecycleState = some .reconciled) ∨
      trade'.id ∈ orphans

/-- The trade a step is about, before and after. -/
structure Settles (db' : Db) (tasks' : AList fun _ : ℕ => Task) (orphans : List ℕ)
    (trade trade' : TradeRow) : Prop where
  id : trade'.id = trade.id
  mirrors : Mirrors db' tasks' trade'
  backed : trade'.status = .isOpen → (db'.stopOf trade.id).isSome
  absorbs : trade.Ended → trade'.lifecycleState = trade.lifecycleState
  reconciles : trade'.lifecycleState = some .reconciled →
    trade.lifecycleState = some .reconciled ∨ trade.id ∈ orphans

/-- A step that is about one trade. -/
theorem Mirroring.rewrites (mirroring : Mirroring db tasks) {tradeId : ℕ}
    {set : TradeRow → TradeRow} {orphans : List ℕ}
    (trades : db'.trades = updateWhere (·.id == tradeId) set db.trades)
    (executions : db.executions ⊆ db'.executions)
    (others : ∀ other, other ≠ tradeId → db'.stopOf other = db.stopOf other ∧
      unmarkedStop tasks' other = unmarkedStop tasks other)
    (advances : ∀ tradeId task, tasks'.lookup tradeId = some task → task.phase.Advances)
    (written : ∀ slType, unmarkedStop tasks' tradeId = some slType →
      slType ≠ .protective ∧ db'.stopOf tradeId = some (some slType))
    (settles : ∀ trade ∈ db.trades, trade.id = tradeId →
      Settles db' tasks' orphans trade (set trade)) :
    Observed db db' tasks' orphans := by
  refine ⟨⟨fun trade' member isOpen => ?_, advances, fun other slType moved => ?_,
    fun trade' member => ?_⟩, fun trade member ended => ?_, fun trade' member reconciled => ?_⟩
  · rw [trades] at member
    obtain ⟨trade, listed, ⟨matched, rfl⟩ | ⟨apart, rfl⟩⟩ := mem_updateWhere.mp member
    · have settled := settles trade listed (by simpa using matched)
      rw [settled.id]
      exact settled.backed isOpen
    · rw [(others trade'.id (by simpa using apart)).1]
      exact mirroring.backed trade' listed isOpen
  · by_cases own : other = tradeId
    · subst own
      exact written slType moved
    · rw [(others other own).2] at moved
      rw [(others other own).1]
      exact mirroring.written other slType moved
  · rw [trades] at member
    obtain ⟨trade, listed, ⟨matched, rfl⟩ | ⟨apart, rfl⟩⟩ := mem_updateWhere.mp member
    · exact (settles trade listed (by simpa using matched)).mirrors
    · obtain ⟨stop, unmarked⟩ := others trade'.id (by simpa using apart)
      exact (mirroring.mirrors trade' listed).carried rfl stop unmarked executions
  · rw [trades]
    by_cases own : trade.id = tradeId
    · exact ⟨set trade, mem_updateWhere.mpr ⟨trade, member, .inl ⟨by simpa using own, rfl⟩⟩,
        (settles trade member own).id, (settles trade member own).absorbs ended⟩
    · exact ⟨trade, mem_updateWhere.mpr ⟨trade, member, .inr ⟨by simpa using own, rfl⟩⟩, rfl, rfl⟩
  · rw [trades] at member
    obtain ⟨trade, listed, ⟨matched, rfl⟩ | ⟨-, rfl⟩⟩ := mem_updateWhere.mp member
    · have settled := settles trade listed (by simpa using matched)
      rw [settled.id]
      exact (settled.reconciles reconciled).imp_left fun before => ⟨trade, listed, rfl, before⟩
    · exact .inl ⟨trade', listed, rfl, reconciled⟩

/-- A step that is about no trade's lifecycle. -/
theorem Mirroring.keeps (mirroring : Mirroring db tasks) {tradeId : ℕ} {set : TradeRow → TradeRow}
    (trades : db'.trades = updateWhere (·.id == tradeId) set db.trades)
    (columns : ∀ trade, (set trade).lifecycleColumns = trade.lifecycleColumns)
    (executions : db.executions ⊆ db'.executions)
    (same : ∀ other, db'.stopOf other = db.stopOf other ∧
      unmarkedStop tasks' other = unmarkedStop tasks other)
    (advances : ∀ tradeId task, tasks'.lookup tradeId = some task → task.phase.Advances) :
    Observed db db' tasks' [] := by
  refine mirroring.rewrites trades executions (fun other _ => same other) advances
    (fun slType moved => ?_) fun trade member own => ?_
  · rw [(same tradeId).2] at moved
    rw [(same tradeId).1]
    exact mirroring.written tradeId slType moved
  · obtain ⟨stop, unmarked⟩ := same trade.id
    have kept := columns trade
    simp only [TradeRow.lifecycleColumns, Prod.mk.injEq] at kept
    obtain ⟨id, status, -, state⟩ := kept
    refine ⟨id, (mirroring.mirrors trade member).carried (columns trade) stop unmarked executions,
      fun isOpen => ?_, fun _ => state, fun reconciled => .inl (state ▸ reconciled)⟩
    rw [stop]
    exact mirroring.backed trade member (status ▸ isOpen)

/-- A step that only moves monitors, or nothing. -/
theorem Mirroring.stays (mirroring : Mirroring db tasks)
    (same : ∀ other, unmarkedStop tasks' other = unmarkedStop tasks other)
    (advances : ∀ tradeId task, tasks'.lookup tradeId = some task → task.phase.Advances) :
    Observed db db tasks' [] :=
  mirroring.keeps (updateWhere_id 0 db.trades).symm (fun _ => rfl) (List.Subset.refl _)
    (fun other => ⟨rfl, same other⟩) advances

theorem Mirroring.refl (mirroring : Mirroring db tasks) : Observed db db tasks [] :=
  mirroring.stays (fun _ => rfl) mirroring.advances

end Trades

/-! ## Fills and closes -/

section Closes

variable {db db' : Db} {tasks : AList fun _ : ℕ => Task} {key : PositionKey} {tradeId : ℕ}

/-- A close writes the reason, the status and the state together, and leaves the other rows. -/
theorem Mirroring.closes (mirroring : Mirroring db tasks) (integrity : Integrity db)
    (integrity' : Integrity db') (closeReason : CloseReason) {set : TradeRow → TradeRow}
    {orphans : List ℕ}
    (trades : db'.trades = updateWhere (·.id == tradeId) set db.trades)
    (executions : db.executions ⊆ db'.executions)
    (rows : ∀ other row, db'.positions.lookup other = some row ↔
      other ≠ key ∧ db.positions.lookup other = some row)
    (ofTrade : ∀ row, db.positions.lookup key = some row → row.tradeId = tradeId)
    (marked : unmarkedStop tasks tradeId = none)
    (columns : ∀ trade, (set trade).lifecycleColumns =
      (trade.id, .closed, some closeReason,
        some (if closeReason = .reconcileGone then .reconciled else .closed)))
    (orphan : closeReason = .reconcileGone → tradeId ∈ orphans)
    (absorbs : ∀ trade ∈ db.trades, trade.id = tradeId → trade.Ended →
      (set trade).lifecycleState = trade.lifecycleState) :
    Observed db db' tasks orphans := by
  refine mirroring.rewrites trades executions (fun other apart => ⟨?_, rfl⟩) mirroring.advances
    (fun slType moved => by rw [marked] at moved; cases moved) fun trade member own => ?_
  · refine stopOf_of_rows integrity integrity' fun otherKey row otherTrade => ?_
    rw [rows]
    refine ⟨And.right, fun held => ⟨fun same => ?_, held⟩⟩
    subst same
    exact apart (otherTrade.symm.trans (ofTrade row held))
  · have written := columns trade
    simp only [TradeRow.lifecycleColumns, Prod.mk.injEq] at written
    obtain ⟨id, status, reason, state⟩ := written
    refine ⟨id, .derived ?_, fun isOpen => ?_, absorbs trade member own, fun reconciled => ?_⟩
    · simp only [Db.derivedState, deriveLifecycleState, state, status, reason,
        Option.some.injEq]
    · rw [status] at isOpen
      cases isOpen
    · rw [state] at reconciled
      split_ifs at reconciled with gone
      · exact .inr (own ▸ orphan gone)
      · cases reconciled

variable {botId : String} {event : Fill} {reads : ClosedPnlReads} {now : ℕ}
  {closed : Option OrderClosed}

/-- A fill of a known trade takes from it, unless it is one of its opening order. -/
def takesFrom (botId : String) (event : Fill) (db : Db) : Option ℕ :=
  let derived := deriveExecType botId event (db.selectOrderIdByExchangeId event.exchangeOrderId) db
  if derived.execType = .isOpen then none else derived.tradeId

theorem Reduces.takesFrom {orderId : ℕ} {derived : Derived} {ps : PositionStateRow}
    (reduces : Reduces botId event db orderId derived ps) :
    takesFrom botId event db = some ps.tradeId := by
  simp only [Execution.takesFrom, reduces.derives, reduces.notOpen, if_false, reduces.ofTrade]

/-- The row a fill takes from. -/
theorem Reduces.stands {orderId : ℕ} {derived : Derived} {ps : PositionStateRow}
    (reduces : Reduces botId event db orderId derived ps) (integrity : Integrity db) :
    (db.stopOf ps.tradeId).isSome :=
  Option.isSome_iff_exists.mpr
    ⟨ps.slType, (stopOf_eq_some_iff integrity).mpr ⟨_, ps, reduces.held, rfl, rfl⟩⟩

theorem execTypeToCloseReason_ne (execType : ExecType) :
    execTypeToCloseReason execType ≠ .reconcileGone := by
  cases execType <;> simp [execTypeToCloseReason]

theorem Mirroring.recorded (mirroring : Mirroring db tasks) (integrity : Integrity db)
    (recorded : Recorded botId event reads now db closed db')
    (marked : ∀ tradeId, takesFrom botId event db = some tradeId →
      unmarkedStop tasks tradeId = none) :
    Observed db db' tasks [] := by
  have integrity' := integrity.recorded recorded
  cases recorded with
  | opened =>
      exact mirroring.keeps rfl (fun _ => rfl) (List.subset_append_left _ _)
        (fun other => ⟨rfl, rfl⟩) mirroring.advances
  | @part orderId derived ps reduces remains =>
      have marked := marked _ reduces.takesFrom
      have stands : (Db.recordPart db (executionRow botId event orderId derived)
          (botId, event.symbol) ps now).positions.lookup (botId, event.symbol) =
          some (ps.afterFill event.qty (newSlType derived.execType) now) := AList.lookup_insert _
      refine mirroring.rewrites (recordPart_trades _ _ ps now) (List.subset_append_left _ _)
        (fun other apart => ⟨?_, rfl⟩) mirroring.advances
        (fun slType moved => by rw [marked] at moved; cases moved) fun trade member own => ?_
      · refine stopOf_of_rows integrity integrity' fun otherKey row otherTrade => ?_
        by_cases same : otherKey = (botId, event.symbol)
        · subst same
          refine iff_of_false (fun held => apart ?_) (fun held => apart ?_)
          · obtain rfl := Option.some.inj (stands.symm.trans held)
            exact otherTrade.symm
          · obtain rfl := Option.some.inj (reduces.held.symm.trans held)
            exact otherTrade.symm
        · exact iff_of_eq (congrArg (· = some row) (AList.lookup_insert_ne same))
      · have isOpen := isOpen_of_stopOf integrity (reduces.stands integrity) member own
        refine ⟨rfl, .partlyFilled rfl isOpen ⟨_, List.mem_append_right _ (List.mem_singleton_self _),
          ?_, reduces.notOpen⟩, fun _ => ?_,
          fun ended => absurd ended ((mirroring.mirrors trade member).not_ended isOpen),
          fun reconciled => by cases reconciled⟩
        · exact reduces.ofTrade.trans (congrArg some own.symm)
        · rw [own]
          exact Option.isSome_iff_exists.mpr
            ⟨_, (stopOf_eq_some_iff integrity').mpr ⟨_, _, stands, rfl, rfl⟩⟩
  | @closed orderId derived ps before after correlationId exchangeOrderId reduces =>
      have ofTrade : ∀ row, db.positions.lookup (botId, event.symbol) = some row →
          row.tradeId = ps.tradeId := by
        intro row held
        rw [Option.some.inj (reduces.held.symm.trans held)]
      refine mirroring.closes integrity integrity' (execTypeToCloseReason derived.execType)
        (recordClose_trades _ _ ps now _) (List.subset_append_left _ _)
        (fun other row => lookup_recordClose) ofTrade (marked _ reduces.takesFrom)
        (fun trade => ?_) (fun gone => absurd gone (execTypeToCloseReason_ne _))
        fun trade member own ended => ?_
      · rw [if_neg (execTypeToCloseReason_ne _)]
        rfl
      · have isOpen := isOpen_of_stopOf integrity (reduces.stands integrity) member own
        exact absurd ended ((mirroring.mirrors trade member).not_ended isOpen)

/-- The watchdog closes a trade that was not reconciled. -/
theorem Mirroring.afterTrackedClose (mirroring : Mirroring db tasks) (integrity : Integrity db)
    (known : db.Knows tradeId key)
    (ofTrade : ∀ row, db.positions.lookup key = some row → row.tradeId = tradeId)
    (marked : unmarkedStop tasks tradeId = none)
    (notReconciled : ∀ trade ∈ db.trades, trade.id = tradeId →
      trade.lifecycleState ≠ some .reconciled)
    (openOrderId : ℕ) (closeExchangeOrderId : String) (closeAt : ℕ) :
    Observed db (db.afterTrackedClose key tradeId openOrderId closeExchangeOrderId closeAt) tasks
      [] := by
  refine mirroring.closes integrity (integrity.afterTrackedClose known _ _ _) .emergency rfl
    (List.Subset.refl _) (fun other row => lookup_afterTrackedClose) ofTrade marked
    (fun trade => rfl) (fun gone => by cases gone) fun trade member own ended => ?_
  rcases ended with closed | reconciled
  · exact closed.symm
  · exact absurd reconciled (notReconciled trade member own)

end Closes

/-! ## Placements -/

section Placements

variable {db db' : Db} {tasks tasks' : AList fun _ : ℕ => Task}

/-- A step that adds one trade. -/
theorem Mirroring.adds (mirroring : Mirroring db tasks) (integrity : Integrity db)
    {trade : TradeRow} (trades : db'.trades = db.trades ++ [trade])
    (tradeId : trade.id = db.nextTradeId) (executions : db'.executions = db.executions)
    (others : ∀ other, other ≠ db.nextTradeId → db'.stopOf other = db.stopOf other ∧
      unmarkedStop tasks' other = unmarkedStop tasks other)
    (marked : unmarkedStop tasks' db.nextTradeId = none)
    (advances : ∀ tradeId task, tasks'.lookup tradeId = some task → task.phase.Advances)
    (backed : trade.status = .isOpen → (db'.stopOf db.nextTradeId).isSome)
    (mirrors : Mirrors db' tasks' trade) (notReconciled : trade.lifecycleState ≠ some .reconciled) :
    Observed db db' tasks' [] := by
  have old (listed : TradeRow) (member : listed ∈ db.trades) : listed.id ≠ db.nextTradeId :=
    (integrity.tradeIds listed member).ne
  refine ⟨⟨fun listed member isOpen => ?_, advances, fun other slType moved => ?_,
    fun listed member => ?_⟩, fun listed member _ => ?_, fun listed member reconciled => ?_⟩
  · rw [trades] at member
    rcases List.mem_append.mp member with before | added
    · rw [(others listed.id (old listed before)).1]
      exact mirroring.backed listed before isOpen
    · obtain rfl := List.mem_singleton.mp added
      rw [tradeId]
      exact backed isOpen
  · by_cases fresh : other = db.nextTradeId
    · rw [fresh, marked] at moved
      cases moved
    · rw [(others other fresh).2] at moved
      rw [(others other fresh).1]
      exact mirroring.written other slType moved
  · rw [trades] at member
    rcases List.mem_append.mp member with before | added
    · obtain ⟨stop, unmarked⟩ := others listed.id (old listed before)
      exact (mirroring.mirrors listed before).carried rfl stop unmarked
        (executions ▸ List.Subset.refl _)
    · exact List.mem_singleton.mp added ▸ mirrors
  · exact ⟨listed, trades ▸ List.mem_append_left _ member, rfl, rfl⟩
  · rw [trades] at member
    rcases List.mem_append.mp member with before | added
    · exact .inl ⟨listed, before, rfl, reconciled⟩
    · exact absurd reconciled (List.mem_singleton.mp added ▸ notReconciled)

/-- A placement writes an open trade with a protective stop, and starts its monitor. -/
theorem Mirroring.afterPlacement (mirroring : Mirroring db tasks) (integrity : Integrity db)
    (p : Placed) (free : db.positions.lookup p.key = none) (slPrice tpPrice notionalUsd : ℚ)
    (slSetAt : ℕ) (monitor : Monitor) :
    Observed db (db.afterPlacement p slPrice tpPrice notionalUsd slSetAt)
      (tasks.insert db.nextTradeId { monitor := monitor }) [] := by
  have integrity' := integrity.afterPlacement p slPrice tpPrice notionalUsd slSetAt
  have stop : (db.afterPlacement p slPrice tpPrice notionalUsd slSetAt).stopOf db.nextTradeId =
      some (some .protective) :=
    (stopOf_eq_some_iff integrity').mpr ⟨p.key, _, AList.lookup_insert _, rfl, rfl⟩
  refine mirroring.adds integrity (updateWhere_append_fresh integrity.unmatched (by simp)) rfl rfl
    (fun other fresh => ⟨?_, ?_⟩) ?_ (fun tradeId task found => ?_) (fun _ => by rw [stop]; rfl)
    (.derived ?_) (by simp [TradeRow.enter])
  · refine stopOf_of_rows integrity integrity' fun key row ofTrade => ?_
    by_cases same : key = p.key
    · subst same
      refine iff_of_false (fun held => fresh ?_) (by rw [free]; simp)
      rcases lookup_insert_cases held with ⟨-, rfl⟩ | ⟨different, -⟩
      · exact ofTrade.symm
      · exact absurd rfl different
    · exact iff_of_eq (congrArg (· = some row) (AList.lookup_insert_ne same))
  · rw [unmarkedStop, AList.lookup_insert_ne fresh]
    rfl
  · rw [unmarkedStop, AList.lookup_insert]
    rfl
  · rcases lookup_insert_eq_some_cases found with ⟨-, rfl⟩ | ⟨-, before⟩
    · trivial
    · exact mirroring.advances tradeId task before
  · simp only [Db.derivedState, TradeRow.enter, stop]
    rfl

/-- A refused stop writes a trade that is closed from the start. -/
theorem Mirroring.afterEmergencyClose (mirroring : Mirroring db tasks) (integrity : Integrity db)
    (unknown : unmarkedStop tasks db.nextTradeId = none) (p : Placed)
    (closeExchangeOrderId : String) (closeAt : ℕ) :
    Observed db (db.afterEmergencyClose p closeExchangeOrderId closeAt) tasks [] := by
  have added : ∃ trade, (db.afterEmergencyClose p closeExchangeOrderId closeAt).trades =
      db.trades ++ [trade] ∧
        trade.lifecycleColumns = (db.nextTradeId, .closed, some .emergency, some .closed) := by
    simp only [Db.afterEmergencyClose]
    rw [updateWhere_append_fresh integrity.unmatched (by simp),
      updateWhere_append_fresh integrity.unmatched (by simp [TradeRow.enter]),
      updateWhere_append_fresh integrity.unmatched (by simp [TradeRow.enter, TradeRow.close])]
    exact ⟨_, rfl, rfl⟩
  obtain ⟨trade, trades, columns⟩ := added
  simp only [TradeRow.lifecycleColumns, Prod.mk.injEq] at columns
  obtain ⟨id, status, closeReason, state⟩ := columns
  refine mirroring.adds integrity trades id rfl (fun other _ => ⟨rfl, rfl⟩) unknown
    mirroring.advances (fun isOpen => ?_) (.derived ?_) (by simp [state])
  · rw [status] at isOpen
    cases isOpen
  · simp [Db.derivedState, deriveLifecycleState, status, closeReason, state]

end Placements

/-! ## Monitors -/

section Monitors

variable {db : Db} {tasks : AList fun _ : ℕ => Task} {tradeId : ℕ} {task : Task}
  {m : Monitor} {d : Desk}

theorem unmarkedStop_insert (found : tasks.lookup tradeId = some task) (phase : TickPhase)
    (same : phase.unmarked = task.phase.unmarked) (other : ℕ) :
    unmarkedStop (tasks.insert tradeId { task with phase := phase }) other =
      unmarkedStop tasks other := by
  by_cases own : other = tradeId
  · subst own
    simp only [unmarkedStop, AList.lookup_insert, found, Option.bind_some, same]
  · simp only [unmarkedStop, AList.lookup_insert_ne own]

theorem Mirroring.advances_insert (mirroring : Mirroring db tasks) {task' : Task}
    (advances : task'.phase.Advances) :
    ∀ other entry, (tasks.insert tradeId task').lookup other = some entry →
      entry.phase.Advances := by
  intro other entry found
  rcases lookup_insert_eq_some_cases found with ⟨-, rfl⟩ | ⟨-, before⟩
  · exact advances
  · exact mirroring.advances other entry before

/-- A monitor between its statements marks its trade, or its mark fails. -/
theorem monitorStep_marking {slType : SlType} (here : d.phase = .marking slType)
    {move : MonitorMove} (commits : move ≠ .marks false) :
    monitorStep m move d = d ∨
      monitorStep m move d =
        { d with phase := .asleep, db := d.db.marked m.tradeId (lifecycleStateOf slType) } := by
  cases move with
  | marks committed =>
      cases committed with
      | false => exact absurd rfl commits
      | true =>
          refine .inr ?_
          simp only [monitorStep, here, if_true]
          rfl
  | _ => exact .inl (by simp only [monitorStep, here])

/-- A monitor that has set a stop writes it, or its write fails. -/
theorem monitorStep_persisting {new : NewStop} (here : d.phase = .persisting new)
    (move : MonitorMove) :
    monitorStep m move d = d ∨ monitorStep m move d = { d with phase := .raised } ∨
      ∃ now, move = .persists now true ∧ monitorStep m move d =
        { d with
          phase := .marking new.slType
          db := d.db.monitored m.key (.slMoved new.slPrice new.slType now) } := by
  cases move with
  | persists now committed =>
      cases committed with
      | false => exact .inr (.inl (by simp [monitorStep, here]))
      | true =>
          refine .inr (.inr ⟨now, rfl, ?_⟩)
          simp only [monitorStep, here, if_true, transaction_monitored]
  | _ => exact .inl (by simp only [monitorStep, here])

theorem executions_monitored (key : PositionKey) (write : MonitorWrite) (db : Db) :
    (db.monitored key write).executions = db.executions := by
  unfold Db.monitored
  split <;> rfl

/-- A monitor's write moves the stop of the trade whose row it finds. -/
theorem stopOf_monitored (integrity : Integrity db) {key : PositionKey} {row : PositionStateRow}
    (held : db.positions.lookup key = some row) (write : MonitorWrite) (other : ℕ) :
    (db.monitored key write).stopOf other =
      if other = row.tradeId then some (write.set row).slType else db.stopOf other := by
  have integrity' := integrity.monitoredKey key write
  have written : (db.monitored key write).positions.lookup key = some (write.set row) := by
    rw [lookup_monitored, if_pos rfl, held, Option.map_some]
  split_ifs with own
  · subst own
    exact (stopOf_eq_some_iff integrity').mpr ⟨key, _, written, write.set_tradeId row, rfl⟩
  · refine stopOf_of_rows integrity integrity' fun otherKey found ofTrade => ?_
    by_cases same : otherKey = key
    · subst same
      rw [written, held]
      refine iff_of_false (fun here => own ?_) (fun here => own ?_)
      · rw [← ofTrade, ← Option.some.inj here, write.set_tradeId]
      · rw [← ofTrade, ← Option.some.inj here]
    · rw [lookup_monitored, if_neg same]

/-- A write that leaves the stop type leaves every trade's. -/
theorem stopOf_ticked (integrity : Integrity db) (key : PositionKey) (write : MonitorWrite)
    (keeps : ∀ row, (write.set row).slType = row.slType) (other : ℕ) :
    (db.monitored key write).stopOf other = db.stopOf other := by
  cases held : db.positions.lookup key with
  | none => rw [Db.monitored, held]
  | some row =>
      rw [stopOf_monitored integrity held]
      split_ifs with own
      · rw [keeps, own]
        exact ((stopOf_eq_some_iff integrity).mpr ⟨key, row, held, rfl, rfl⟩).symm
      · rfl

theorem TickPhase.unmarked_eq_some {phase : TickPhase} {slType : SlType}
    (marking : phase.unmarked = some slType) : phase = .marking slType := by
  cases phase with
  | marking other =>
      obtain rfl := Option.some.inj marking
      rfl
  | _ => cases marking

end Monitors

/-! ## The service -/

section Service

variable {w : Fleet}

/-- The trade a step takes from or closes, or whose mark fails. -/
def FleetStep.interrupts (w : Fleet) : FleetStep → Option ℕ
  | .fills botId delivery => takesFrom botId delivery.event w.db
  | .trackedCloses key _ _ _ => (w.service.watched.lookup key).map (·.tradeId)
  | .moves tradeId (.marks false) _ => some tradeId
  | _ => none

/-- A stop is only written while the row is there. -/
def FindsRow (w : Fleet) : FleetStep → Prop
  | .moves tradeId (.persists _ true) _ => ∀ task, w.tasks.lookup tradeId = some task →
      (w.db.positions.lookup task.monitor.key).isSome
  | _ => True

section Moves

variable {tradeId : ℕ} {task : Task}

/-- A move that only changes where the monitor stands. -/
theorem Mirroring.stays_insert (mirroring : Mirroring w.db w.tasks)
    (found : w.tasks.lookup tradeId = some task) {phase : TickPhase}
    (same : phase.unmarked = task.phase.unmarked) (advances : phase.Advances) :
    Observed w.db w.db (w.tasks.insert tradeId { task with phase := phase }) [] :=
  mirroring.stays (unmarkedStop_insert found phase same) (mirroring.advances_insert advances)

/-- The row's stop was moved, and the mark is due. -/
theorem Mirroring.moved_marking (mirroring : Mirroring w.db w.tasks) (owned : Owned w)
    (found : w.tasks.lookup tradeId = some task) {slType : SlType}
    (here : task.phase = .marking slType) (move : MonitorMove) (stop : ExchangeStop)
    (attended : move ≠ .marks false) :
    Observed w.db (monitorStep task.monitor move ⟨task.phase, w.db, stop⟩).db
      (w.tasks.insert tradeId
        { task with phase := (monitorStep task.monitor move ⟨task.phase, w.db, stop⟩).phase })
      [] := by
  have integrity := owned.watching.integrity
  have unmarked : unmarkedStop w.tasks tradeId = some slType := by
    rw [unmarkedStop, found, Option.bind_some, here]
    rfl
  obtain ⟨advanced, stands⟩ := mirroring.written tradeId slType unmarked
  rcases monitorStep_marking (m := task.monitor) (d := ⟨task.phase, w.db, stop⟩) here attended
    with same | marked
  · rw [same]
    exact mirroring.stays_insert found rfl (mirroring.advances tradeId task found)
  · rw [marked, owned.ids tradeId task found]
    refine mirroring.rewrites rfl (List.Subset.refl _) (fun other apart => ⟨rfl, ?_⟩)
      (mirroring.advances_insert trivial) (fun other moved => ?_) fun trade member own => ?_
    · rw [unmarkedStop, AList.lookup_insert_ne apart, unmarkedStop]
    · rw [unmarkedStop, AList.lookup_insert] at moved
      cases moved
    · have isOpen := isOpen_of_stopOf integrity (by rw [stands]; rfl) member own
      have derives : w.db.derivedState trade = lifecycleStateOf slType :=
        derivedState_open isOpen (own ▸ stands) advanced
      refine ⟨rfl, .derived ?_, fun _ => ?_,
        fun ended => absurd ended ((mirroring.mirrors trade member).not_ended isOpen),
        fun reconciled => ?_⟩
      · exact congrArg some derives.symm
      · rw [own]
        exact Option.isSome_iff_exists.mpr ⟨_, stands⟩
      · cases slType <;> cases reconciled

/-- The stop is set at the exchange, and the row is to be written. -/
theorem Mirroring.moved_persisting (mirroring : Mirroring w.db w.tasks) (owned : Owned w)
    (found : w.tasks.lookup tradeId = some task) {new : NewStop}
    (here : task.phase = .persisting new) (move : MonitorMove) (stop : ExchangeStop)
    (findsRow : ∀ now, move = .persists now true →
      (w.db.positions.lookup task.monitor.key).isSome) :
    Observed w.db (monitorStep task.monitor move ⟨task.phase, w.db, stop⟩).db
      (w.tasks.insert tradeId
        { task with phase := (monitorStep task.monitor move ⟨task.phase, w.db, stop⟩).phase })
      [] := by
  have integrity := owned.watching.integrity
  have unmarked : task.phase.unmarked = none := by rw [here]; rfl
  have advanced : new.slType ≠ .protective := by
    have advances := mirroring.advances tradeId task found
    rwa [here] at advances
  rcases monitorStep_persisting (m := task.monitor) (d := ⟨task.phase, w.db, stop⟩) here move
    with same | raised | ⟨now, call, written⟩
  · rw [same]
    exact mirroring.stays_insert found rfl (mirroring.advances tradeId task found)
  · rw [raised]
    exact mirroring.stays_insert found unmarked.symm trivial
  · obtain ⟨row, held⟩ := Option.isSome_iff_exists.mp (findsRow now call)
    have ofTrade := owned.followed tradeId task found (by rw [here]; rfl) row held
    rw [written]
    have stop' (other : ℕ) := stopOf_monitored integrity held
      (.slMoved new.slPrice new.slType now) other
    rw [ofTrade] at stop'
    have trades : (w.db.monitored task.monitor.key
        (.slMoved new.slPrice new.slType now)).trades =
          updateWhere (·.id == tradeId) id w.db.trades :=
      (monitored_trades w.db _ _).1.trans (updateWhere_id _ _).symm
    refine mirroring.rewrites trades
      (executions_monitored _ _ w.db ▸ List.Subset.refl _) (fun other apart => ⟨?_, ?_⟩)
      (mirroring.advances_insert trivial) (fun other moved => ?_) fun trade member own => ?_
    · exact (stop' other).trans (if_neg apart)
    · rw [unmarkedStop, AList.lookup_insert_ne apart, unmarkedStop]
    · rw [unmarkedStop, AList.lookup_insert] at moved
      obtain rfl := Option.some.inj moved
      exact ⟨advanced, (stop' tradeId).trans (if_pos rfl)⟩
    · have isOpen : trade.status = .isOpen := isOpen_of_stopOf integrity
        (Option.isSome_iff_exists.mpr
          ⟨_, (stopOf_eq_some_iff integrity).mpr ⟨_, row, held, ofTrade, rfl⟩⟩) member own
      have stands : (w.db.monitored task.monitor.key
          (.slMoved new.slPrice new.slType now)).stopOf trade.id = some (some new.slType) := by
        rw [own]
        exact (stop' tradeId).trans (if_pos rfl)
      have moved : unmarkedStop (w.tasks.insert tradeId
          { task with phase := .marking new.slType }) trade.id = some new.slType := by
        rw [own, unmarkedStop, AList.lookup_insert]
        rfl
      refine ⟨rfl, .unmarked moved (derivedState_open isOpen stands advanced) isOpen
        ((mirroring.mirrors trade member).not_ended isOpen), fun _ => ?_, fun _ => rfl,
        fun reconciled => .inl reconciled⟩
      rw [stands]
      rfl

/-- A move of a monitor. -/
theorem Mirroring.moved (mirroring : Mirroring w.db w.tasks) (owned : Owned w)
    (found : w.tasks.lookup tradeId = some task) (move : MonitorMove) (stop : ExchangeStop)
    (attended : (unmarkedStop w.tasks tradeId).isSome → move ≠ .marks false)
    (findsRow : ∀ now, move = .persists now true →
      (w.db.positions.lookup task.monitor.key).isSome) :
    Observed w.db (monitorStep task.monitor move ⟨task.phase, w.db, stop⟩).db
      (w.tasks.insert tradeId
        { task with phase := (monitorStep task.monitor move ⟨task.phase, w.db, stop⟩).phase })
      [] := by
  have integrity := owned.watching.integrity
  cases marking : task.phase.unmarked with
  | some slType =>
      refine mirroring.moved_marking owned found (TickPhase.unmarked_eq_some marking) move stop
        (attended ?_)
      rw [unmarkedStop, found, Option.bind_some, marking]
      rfl
  | none =>
      by_cases persisting : ∃ new, task.phase = .persisting new
      · obtain ⟨new, here⟩ := persisting
        exact mirroring.moved_persisting owned found here move stop findsRow
      · have moved := monitorStep_cases task.monitor move ⟨task.phase, w.db, stop⟩
        generalize monitorStep task.monitor move ⟨task.phase, w.db, stop⟩ = d at moved ⊢
        cases moved with
        | nothing =>
            exact mirroring.stays_insert found rfl (mirroring.advances tradeId task found)
        | exited | read | raised | undetected | rested | gaveUp | lost =>
            exact mirroring.stays_insert found marking.symm trivial
        | detected now =>
            exact mirroring.keeps (updateWhere_id 0 _).symm (fun _ => rfl) (List.Subset.refl _)
              (fun other => ⟨rfl, unmarkedStop_insert found (.deciding _) marking.symm other⟩)
              (mirroring.advances_insert trivial)
        | ticked now =>
            exact mirroring.keeps
              ((monitored_trades w.db _ _).1.trans (updateWhere_id 0 _).symm) (fun _ => rfl)
              (executions_monitored _ _ w.db ▸ List.Subset.refl _)
              (fun other => ⟨stopOf_ticked integrity _ _ (fun _ => rfl) other,
                unmarkedStop_insert found (.detecting _) marking.symm other⟩)
              (mirroring.advances_insert trivial)
        | chose here known chosen =>
            refine mirroring.stays_insert found marking.symm ?_
            rcases (chooseStop_some chosen).2 with ⟨be, -⟩ | ⟨trail, -⟩
            · simp [TickPhase.Advances, be]
            · simp [TickPhase.Advances, trail]
        | @set new here =>
            have advances := mirroring.advances tradeId task found
            rw [show task.phase = .setting new from here] at advances
            exact mirroring.stays_insert found marking.symm advances
        | @persisted new now here => exact absurd ⟨new, here⟩ persisting
        | marked here =>
            rw [show task.phase = .marking _ from here] at marking
            cases marking

end Moves

/-- **Each step of the service keeps the states mirrored**, where no trade is taken from or closed
while its mark is due, no stop is written to a row that is gone, and the watchdog has read no
reconciled trade. -/
theorem Mirroring.fleetStep (mirroring : Mirroring w.db w.tasks) (owned : Owned w) {s : FleetStep}
    (attended : ∀ tradeId, s.interrupts w = some tradeId → unmarkedStop w.tasks tradeId = none)
    (findsRow : FindsRow w s)
    (notReconciled : ∀ key ps, w.service.watched.lookup key = some ps → ∀ trade ∈ w.db.trades,
      trade.id = ps.tradeId → trade.lifecycleState ≠ some .reconciled) :
    Observed w.db (fleetStep s w).db (fleetStep s w).tasks [] := by
  have integrity := owned.watching.integrity
  cases s with
  | places p slPrice tpPrice notionalUsd slSetAt tickSize commits =>
      rcases placement_cases p slPrice tpPrice notionalUsd slSetAt commits w.db with
        ⟨raised, failed⟩ | ⟨rfl, free, orderPlaced, slMoved, written⟩
      · simp only [Execution.fleetStep, failed]
        exact mirroring.refl
      · simp only [Execution.fleetStep, written]
        exact mirroring.afterPlacement integrity p free _ _ _ _ _
  | flattens p closeExchangeOrderId closeAt commits =>
      have unknown : unmarkedStop w.tasks w.db.nextTradeId = none := by
        cases found : w.tasks.lookup w.db.nextTradeId with
        | none => rw [unmarkedStop, found, Option.bind_none]
        | some task => exact absurd (owned.drawn _ task found) (lt_irrefl _)
      simp only [Execution.fleetStep, serviceStep, Fleet.db]
      generalize after : step (.emergencyClosed p closeExchangeOrderId closeAt commits) w.db = db'
      have change : Change w.db (.emergencyClosed p closeExchangeOrderId closeAt commits) db' :=
        after ▸ step_change _ w.db
      cases change with
      | nothing => exact mirroring.refl
      | emergencyClosed => exact mirroring.afterEmergencyClose integrity unknown p _ _
  | fills botId delivery =>
      simp only [Execution.fleetStep, serviceStep, Fleet.db]
      rcases step_fill_cases botId delivery w.db with same | ⟨_, recorded⟩
      · rw [same]
        exact mirroring.refl
      · exact mirroring.recorded integrity recorded attended
  | watchdogReads => exact mirroring.refl
  | trackedCloses key closeExchangeOrderId closeAt commits =>
      simp only [Execution.fleetStep, Fleet.db]
      rcases serviceStep_cases owned.watching
        (.trackedClosed key closeExchangeOrderId closeAt commits) with
        same | ⟨tx, impossible, -⟩ |
        ⟨key', ps, id, at', committed, openOrderId, call, read, known, -, same⟩
      · rw [same]
        exact mirroring.refl
      · cases impossible
      · cases call
        rw [same]
        exact mirroring.afterTrackedClose integrity known
          (fun row held => owned.snapshot key ps row read held)
          (attended ps.tradeId (by rw [FleetStep.interrupts, read, Option.map_some]))
          (notReconciled key ps read) openOrderId closeExchangeOrderId closeAt
  | watchdogEnds => exact mirroring.refl
  | moves tradeId move stop =>
      cases found : w.tasks.lookup tradeId with
      | none =>
          simp only [Execution.fleetStep, found]
          exact mirroring.refl
      | some task =>
          simp only [Execution.fleetStep, found]
          refine mirroring.moved owned found move stop (fun marking => ?_) (fun now => ?_)
          · rintro rfl
            rw [attended tradeId rfl] at marking
            cases marking
          · rintro rfl
            exact findsRow task found

end Service

end Scalper.Execution
