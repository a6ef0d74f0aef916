import Scalper.Execution.Matching
import Scalper.Execution.RowIdentity

/-!
# Start-up reconciliation

`services/execution/app/restart.py`.  The position rows of all bots are read once.  Then, bot after
bot, the adapter is asked for its positions, and every symbol that has a row or an open position is
dealt with in one of three ways: a row without a position is closed as `reconcile_gone`, a position
without a row is market-closed unless a recent trade is open, and where there are both a monitor is
started.  What is done is kept in the order of the service's own log lines (`StartupEvent`).

`reconciled_of_calls` says that this is a partition with the right end: every key is dealt with once,
the rows that stay are those whose symbol is open, each of them has its monitor, and the trades of the
other rows are closed.
-/

set_option autoImplicit false

namespace Scalper.Execution

open Scalper.Lib Scalper.Exchange

/-! ## The reconciliation -/

/-- What the reconciliation says it did. -/
inductive StartupEvent where
  | orphanDbOpenOrderMissing (key : PositionKey) (tradeId : ℕ)
  | orphanDbClosed (key : PositionKey) (tradeId closeOrderId : ℕ)
  | orphanExchangeInRaceWindow (key : PositionKey) (size : ℚ) (side : Side)
  | orphanExchangeCloseFailed (key : PositionKey) (size : ℚ) (side : Side)
  | orphanExchangeMarketClosed (key : PositionKey) (size : ℚ) (side closeSide : Side)
  | matchingResumed (key : PositionKey) (tradeId : ℕ) (side : Side)
  deriving DecidableEq, Repr

def StartupEvent.key : StartupEvent → PositionKey
  | orphanDbOpenOrderMissing key _ => key
  | orphanDbClosed key _ _ => key
  | orphanExchangeInRaceWindow key _ _ => key
  | orphanExchangeCloseFailed key _ _ => key
  | orphanExchangeMarketClosed key _ _ _ => key
  | matchingResumed key _ _ => key

/-- Everything the reconciliation meets: the bots of the pool in order, the tables and the registry,
and how each call ends. -/
structure StartupInput where
  adapters : List String
  db : Db
  tasks : AList fun _ : ℕ => Task := ∅
  getPositions : String → Except CallError (List Position)
  placeMarketOrder : PositionKey → Except CallError String
  raceWindow : ℕ
  now : PositionKey → ℕ
  commits : PositionKey → Bool := fun _ => true
  tickSize : String → ℚ
  distinct : adapters.Nodup

/-- The tables, `position_lifecycle_tasks` and the log. -/
structure Startup where
  db : Db
  tasks : AList fun _ : ℕ => Task
  log : List StartupEvent := []

def Startup.logs (event : StartupEvent) (s : Startup) : Startup :=
  { s with log := s.log ++ [event] }

/-- What is to be done with a symbol of a bot. -/
inductive ReconcileAction where
  | orphanDb (row : KeyedRow)
  | orphanExchange (botId : String) (position : Position)
  | matching (row : KeyedRow)

def ReconcileAction.key : ReconcileAction → PositionKey
  | orphanDb row => row.1
  | orphanExchange botId position => (botId, position.symbol)
  | matching row => row.1

/-- The writes of `_close_orphan_db`. -/
def closeOrphanDbTx (row : KeyedRow) (closedAt openOrderId : ℕ) : Tx Unit := do
  updateTradeClose row.2.tradeId 0 0 none closedAt .reconcileGone openOrderId
  updateTradeLifecycleState row.2.tradeId .reconciled
  deletePositionState row.1

section Reconciliation

variable (t : StartupInput)

/-- The start of the race window. -/
def StartupInput.since (key : PositionKey) : ℤ := t.now key - t.raceWindow

/-- The task of a row that is open on the exchange. -/
def StartupInput.task (row : KeyedRow) : Task where
  monitor := ⟨row.1, row.2.tradeId, row.2.side, row.2.entryPrice, row.2.qty, t.tickSize row.1.2⟩

/-- `_close_orphan_db`. -/
def closeOrphanDb (row : KeyedRow) (s : Startup) : Except CallError Unit × Startup :=
  match s.db.selectOpenOrderIdByTradeId row.2.tradeId with
  | none => (.ok (), s.logs (.orphanDbOpenOrderMissing row.1 row.2.tradeId))
  | some openOrderId =>
      match transaction (t.commits row.1) (closeOrphanDbTx row (t.now row.1) openOrderId) s.db with
      | (.error _, db) => (.error .other, { s with db := db })
      | (.ok (), db) =>
          (.ok (), { s with db := db }.logs (.orphanDbClosed row.1 row.2.tradeId openOrderId))

/-- `_handle_orphan_exchange`. -/
def handleOrphanExchange (botId : String) (position : Position) (s : Startup) : Startup :=
  let key := (botId, position.symbol)
  match position.side with
  | none => s
  | some side =>
      if s.db.selectRecentOpenTradeExists key (t.since key) then
        s.logs (.orphanExchangeInRaceWindow key position.size side)
      else
        match t.placeMarketOrder key with
        | .error _ => s.logs (.orphanExchangeCloseFailed key position.size side)
        | .ok _ => s.logs (.orphanExchangeMarketClosed key position.size side side.opposite)

/-- `_spawn_matching_monitor`. -/
def spawnMatchingMonitor (row : KeyedRow) (s : Startup) : Startup :=
  { s with tasks := s.tasks.insert row.2.tradeId (t.task row) }.logs
    (.matchingResumed row.1 row.2.tradeId row.2.side)

def ReconcileAction.perform (action : ReconcileAction) (s : Startup) :
    Except CallError Unit × Startup :=
  match action with
  | orphanDb row => closeOrphanDb t row s
  | orphanExchange botId position => (.ok (), handleOrphanExchange t botId position s)
  | matching row => (.ok (), spawnMatchingMonitor t row s)

/-- The three loops over a bot's symbols. -/
def botActions (rows : List KeyedRow) (botId : String) (positions : List Position) :
    List ReconcileAction :=
  let exPositions := exPositions positions
  let dbRows := dbRows rows botId
  let orphanDb := dbRows.filter fun row => decide (row.1.2 ∉ exPositions.map (·.symbol))
  let orphanEx := exPositions.filter fun position =>
    decide (position.symbol ∉ dbRows.map (·.1.2))
  let matching := dbRows.filter fun row => decide (row.1.2 ∈ exPositions.map (·.symbol))
  orphanDb.map .orphanDb ++ orphanEx.map (.orphanExchange botId) ++ matching.map .matching

/-- The body of the loop over the bots. -/
def reconcileBot (rows : List KeyedRow) (botId : String) (s : Startup) :
    Except CallError Unit × Startup :=
  match t.getPositions botId with
  | .error raised => (.error raised, s)
  | .ok positions => forEach (ReconcileAction.perform t) (botActions rows botId positions) s

/-- `reconcile_on_startup`. -/
def reconcileOnStartup : Except CallError Unit × Startup :=
  forEach (reconcileBot t (t.db.selectPositionStatesForBots t.adapters)) t.adapters
    { db := t.db, tasks := t.tasks }

end Reconciliation

/-! ## The actions -/

section Actions

variable {t : StartupInput} {botIds : List String} {botId : String} {positions : List Position}

theorem mem_symbols_exPositions {symbol : String} :
    symbol ∈ (exPositions positions).map (·.symbol) ↔ (openPosition positions symbol).isSome := by
  rw [← find?_exPositions, List.find?_isSome, List.mem_map]
  simp

theorem mem_symbols_dbRows (db : Db) (symbol : String) (known : botId ∈ botIds) :
    symbol ∈ (dbRows (db.selectPositionStatesForBots botIds) botId).map (·.1.2) ↔
      (db.positions.lookup (botId, symbol)).isSome := by
  rw [← Option.isSome_map, ← find?_dbRows known, List.find?_isSome, List.mem_map]
  simp

/-- What a row and a position make of a key. -/
def actionOf (key : PositionKey) : Option PositionStateRow → Option Position →
    Option ReconcileAction
  | some ps, none => some (.orphanDb (key, ps))
  | none, some position => some (.orphanExchange key.1 position)
  | some ps, some _ => some (.matching (key, ps))
  | none, none => none

section ActionOf

variable {key : PositionKey} {row : Option PositionStateRow} {found : Option Position}

theorem actionOf_eq_orphanDb {other : KeyedRow} :
    actionOf key row found = some (.orphanDb other) ↔
      key = other.1 ∧ row = some other.2 ∧ found = none := by
  obtain ⟨otherKey, ps⟩ := other
  cases row <;> cases found <;> simp [actionOf]

theorem actionOf_eq_orphanExchange {botId : String} {position : Position} :
    actionOf key row found = some (.orphanExchange botId position) ↔
      key.1 = botId ∧ row = none ∧ found = some position := by
  cases row <;> cases found <;> simp [actionOf]

theorem actionOf_eq_matching {other : KeyedRow} :
    actionOf key row found = some (.matching other) ↔
      key = other.1 ∧ row = some other.2 ∧ found.isSome := by
  obtain ⟨otherKey, ps⟩ := other
  cases row <;> cases found <;> simp [actionOf]

end ActionOf

/-- The symbols of a bot are split by whether they have a row and whether they are open. -/
theorem mem_botActions {db : Db} (known : botId ∈ botIds) {action : ReconcileAction} :
    action ∈ botActions (db.selectPositionStatesForBots botIds) botId positions ↔
      action.key.1 = botId ∧
        actionOf action.key (db.positions.lookup action.key)
          (openPosition positions action.key.2) = some action := by
  have rows (symbol : String) := mem_symbols_dbRows db symbol known
  simp only [botActions, mem_symbols_exPositions, rows]
  simp only [List.mem_append, List.mem_map, List.mem_filter, mem_dbRows, mem_exPositions,
    decide_eq_true_eq]
  cases action with
  | orphanDb row =>
      simp only [reduceCtorEq, ReconcileAction.orphanDb.injEq, actionOf_eq_orphanDb,
        ReconcileAction.key]
      simp [known]
      tauto
  | orphanExchange bot position =>
      simp only [reduceCtorEq, ReconcileAction.orphanExchange.injEq, actionOf_eq_orphanExchange,
        ReconcileAction.key]
      simp
      constructor
      · rintro ⟨⟨held, absent⟩, rfl⟩
        exact ⟨rfl, absent, held⟩
      · rintro ⟨rfl, absent, held⟩
        exact ⟨⟨held, absent⟩, rfl⟩
  | matching row =>
      simp only [reduceCtorEq, ReconcileAction.matching.injEq, actionOf_eq_matching,
        ReconcileAction.key]
      simp [known]
      tauto

theorem nodup_botActions (rows : List KeyedRow) : (botActions rows botId positions).Nodup := by
  have dbRowsDistinct : (dbRows rows botId).Nodup := nodup_dictBy _ _
  have exPositionsDistinct : (exPositions positions).Nodup := nodup_dictBy _ _
  refine List.Nodup.append (List.Nodup.append ?_ ?_ ?_) ?_ ?_
  · exact (dbRowsDistinct.filter _).map fun _ _ same => ReconcileAction.orphanDb.inj same
  · exact (exPositionsDistinct.filter _).map fun _ _ same =>
      (ReconcileAction.orphanExchange.inj same).2
  · intro action
    simp only [List.mem_map]
    rintro ⟨_, _, rfl⟩ ⟨_, _, same⟩
    cases same
  · exact (dbRowsDistinct.filter _).map fun _ _ same => ReconcileAction.matching.inj same
  · intro action
    simp only [List.mem_append, List.mem_map]
    rintro (⟨_, _, rfl⟩ | ⟨_, _, rfl⟩) ⟨_, _, same⟩ <;> cases same

/-- The bot's symbols are met once each. -/
theorem nodup_keys_botActions {db : Db} (known : botId ∈ botIds) :
    ((botActions (db.selectPositionStatesForBots botIds) botId positions).map
      ReconcileAction.key).Nodup := by
  refine List.Nodup.map_on (fun action member other memberOther same => ?_) (nodup_botActions _)
  have made := ((mem_botActions known).mp member).2
  have madeOther := ((mem_botActions known).mp memberOther).2
  rw [same] at made
  exact Option.some.inj (made.symm.trans madeOther)

end Actions

/-! ## All actions -/

section AllActions

variable (t : StartupInput)

/-- What the adapter reports as open. -/
def StartupInput.openOn (key : PositionKey) : Option Position :=
  match t.getPositions key.1 with
  | .error _ => none
  | .ok positions => openPosition positions key.2

/-- What the reconciliation has to do with a key. -/
def StartupInput.action (key : PositionKey) : Option ReconcileAction :=
  if key.1 ∈ t.adapters then actionOf key (t.db.positions.lookup key) (t.openOn key) else none

/-- All actions, bot after bot. -/
def StartupInput.actions : List ReconcileAction :=
  t.adapters.flatMap fun botId =>
    match t.getPositions botId with
    | .error _ => []
    | .ok positions =>
        botActions (t.db.selectPositionStatesForBots t.adapters) botId positions

variable {t}

theorem openOn_eq_some {key : PositionKey} {position : Position}
    (found : t.openOn key = some position) :
    position.symbol = key.2 ∧ ∃ side, position.side = some side := by
  unfold StartupInput.openOn at found
  split at found
  · cases found
  · exact ⟨openPosition_symbol found, Option.isSome_iff_exists.mp
      (position.side_isSome_iff.mpr (openPosition_size_pos found))⟩

theorem action_eq_orphanDb {key : PositionKey} {row : KeyedRow} :
    t.action key = some (.orphanDb row) ↔
      key.1 ∈ t.adapters ∧ key = row.1 ∧ t.db.positions.lookup key = some row.2 ∧
        t.openOn key = none := by
  unfold StartupInput.action
  split_ifs with known <;> simp [actionOf_eq_orphanDb, known]

theorem action_eq_orphanExchange {key : PositionKey} {botId : String} {position : Position} :
    t.action key = some (.orphanExchange botId position) ↔
      key.1 ∈ t.adapters ∧ key.1 = botId ∧ t.db.positions.lookup key = none ∧
        t.openOn key = some position := by
  unfold StartupInput.action
  split_ifs with known <;> simp [actionOf_eq_orphanExchange, known]

variable (readsPositions : ∀ botId ∈ t.adapters, ∃ positions, t.getPositions botId = .ok positions)

include readsPositions

end AllActions

/-! ## What an action does -/

/-- What `_close_orphan_db` makes of a trade. -/
def TradeRow.orphanClosed (closedAt openOrderId : ℕ) (trade : TradeRow) : TradeRow :=
  (trade.close 0 0 none closedAt .reconcileGone openOrderId).enter .reconciled

/-- What `_close_orphan_db` makes of the tables. -/
def Db.orphanClosed (row : KeyedRow) (closedAt openOrderId : ℕ) (db : Db) : Db :=
  { db with
    trades := updateWhere (·.id == row.2.tradeId) (.orphanClosed closedAt openOrderId) db.trades
    positions := db.positions.erase row.1 }

theorem transaction_closeOrphanDbTx (commits : Bool) (row : KeyedRow) (closedAt openOrderId : ℕ)
    (db : Db) :
    transaction commits (closeOrphanDbTx row closedAt openOrderId) db =
      if commits then (.ok (), db.orphanClosed row closedAt openOrderId)
      else (.error .databaseError, db) := by
  have written : closeOrphanDbTx row closedAt openOrderId db =
      .ok ((), db.orphanClosed row closedAt openOrderId) := by
    have twice := updateWhere_updateWhere (p := (·.id == row.2.tradeId))
      (g := TradeRow.close 0 0 none closedAt .reconcileGone openOrderId)
      (h := TradeRow.enter .reconciled) (fun _ => rfl) db.trades
    exact congrArg (fun trades => Except.ok ((), { db with
      trades := trades, positions := db.positions.erase row.1 })) twice
  rw [transaction, written]

/-- The columns of a trade that nothing here writes. -/
def TradeRow.identity (trade : TradeRow) : ℕ × String × String × ℕ :=
  (trade.id, trade.botId, trade.symbol, trade.openOrderId)

theorem identities_orphanClosed (row : KeyedRow) (closedAt openOrderId : ℕ) (db : Db) :
    (db.orphanClosed row closedAt openOrderId).trades.map TradeRow.identity =
      db.trades.map TradeRow.identity :=
  map_updateWhere (g := TradeRow.orphanClosed closedAt openOrderId) (fun _ => rfl) db.trades

theorem selectOpenOrderIdByTradeId_congr {db db' : Db}
    (same : db'.trades.map TradeRow.identity = db.trades.map TradeRow.identity) (tradeId : ℕ) :
    db'.selectOpenOrderIdByTradeId tradeId = db.selectOpenOrderIdByTradeId tradeId := by
  have read (db : Db) : db.selectOpenOrderIdByTradeId tradeId =
      ((db.trades.map TradeRow.identity).find? (·.1 == tradeId)).map (·.2.2.2) := by
    rw [List.find?_map, Option.map_map]
    rfl
  rw [read, read, same]

/-- Every row has a trade, and the trade is of its bot and symbol. -/
structure Anchored (db : Db) : Prop where
  resolvable : ∀ key row, db.positions.lookup key = some row →
    (db.selectOpenOrderIdByTradeId row.tradeId).isSome
  own : ∀ key row, db.positions.lookup key = some row → ∀ trade ∈ db.trades,
    trade.id = row.tradeId → trade.botId = key.1 ∧ trade.symbol = key.2

theorem Integrity.anchored {db : Db} (integrity : Integrity db) : Anchored db where
  resolvable := by
    intro key row held
    obtain ⟨trade, member, tracks⟩ := integrity.tracked key row held
    rw [Db.selectOpenOrderIdByTradeId, Option.isSome_map, List.find?_isSome]
    exact ⟨trade, member, by simp [tracks.id]⟩
  own := by
    intro key row held trade member same
    obtain ⟨other, otherMember, tracks⟩ := integrity.tracked key row held
    have one : trade = other :=
      List.inj_on_of_nodup_map integrity.tradesDistinct member otherMember
        (same.trans tracks.id.symm)
    subst one
    exact ⟨tracks.botId, tracks.symbol⟩

/-- Rows of one trade have one key. -/
theorem Anchored.key_unique {db : Db} (anchored : Anchored db) {key key' : PositionKey}
    {row row' : PositionStateRow} (held : db.positions.lookup key = some row)
    (held' : db.positions.lookup key' = some row') (same : row.tradeId = row'.tradeId) :
    key = key' := by
  have resolved := anchored.resolvable key row held
  rw [Db.selectOpenOrderIdByTradeId, Option.isSome_map, List.find?_isSome] at resolved
  obtain ⟨trade, member, found⟩ := resolved
  have here : trade.id = row.tradeId := by simpa using found
  have own := anchored.own key row held trade member here
  have own' := anchored.own key' row' held' trade member (here.trans same)
  exact Prod.ext (own.1.symm.trans own'.1) (own.2.symm.trans own'.2)

section Perform

variable {t : StartupInput}

/-- What the actions keep: what identifies the trades, and the trades of keys without a row. -/
structure StartupInput.Kept (t : StartupInput) (s : Startup) : Prop where
  identities : s.db.trades.map TradeRow.identity = t.db.trades.map TradeRow.identity
  recent : ∀ key, t.db.positions.lookup key = none →
    s.db.selectRecentOpenTradeExists key (t.since key) =
      t.db.selectRecentOpenTradeExists key (t.since key)

/-- The log lines of an action. -/
def StartupInput.treatment (t : StartupInput) : ReconcileAction → List StartupEvent
  | .orphanDb row =>
      match t.db.selectOpenOrderIdByTradeId row.2.tradeId with
      | none => [.orphanDbOpenOrderMissing row.1 row.2.tradeId]
      | some openOrderId => [.orphanDbClosed row.1 row.2.tradeId openOrderId]
  | .orphanExchange botId position =>
      match position.side with
      | none => []
      | some side =>
          let key := (botId, position.symbol)
          if t.db.selectRecentOpenTradeExists key (t.since key) then
            [.orphanExchangeInRaceWindow key position.size side]
          else
            match t.placeMarketOrder key with
            | .error _ => [.orphanExchangeCloseFailed key position.size side]
            | .ok _ => [.orphanExchangeMarketClosed key position.size side side.opposite]
  | .matching row => [.matchingResumed row.1 row.2.tradeId row.2.side]

/-- What an action makes of the tables. -/
def StartupInput.leaves (t : StartupInput) (action : ReconcileAction) (db : Db) : Db :=
  match action with
  | .orphanDb row =>
      match t.db.selectOpenOrderIdByTradeId row.2.tradeId with
      | none => db
      | some openOrderId => db.orphanClosed row (t.now row.1) openOrderId
  | _ => db

/-- What an action makes of the registry. -/
def StartupInput.registers (t : StartupInput) (action : ReconcileAction)
    (tasks : AList fun _ : ℕ => Task) : AList fun _ : ℕ => Task :=
  match action with
  | .matching row => tasks.insert row.2.tradeId (t.task row)
  | _ => tasks

/-- An action raises only if its transaction does. -/
def StartupInput.returns (t : StartupInput) : ReconcileAction → Bool
  | .orphanDb row =>
      (t.db.selectOpenOrderIdByTradeId row.2.tradeId).isNone || t.commits row.1
  | _ => true

theorem perform_of_not_returns {s : Startup} (kept : t.Kept s) {action : ReconcileAction}
    (raises : t.returns action = false) : action.perform t s = (.error .other, s) := by
  cases action with
  | orphanDb row =>
      have resolved := selectOpenOrderIdByTradeId_congr kept.identities row.2.tradeId
      simp only [StartupInput.returns, Bool.or_eq_false_iff, Option.isNone_eq_false_iff,
        Option.isSome_iff_exists] at raises
      obtain ⟨⟨openOrderId, found⟩, fails⟩ := raises
      simp only [ReconcileAction.perform, closeOrphanDb, resolved, found,
        transaction_closeOrphanDbTx, fails, Bool.false_eq_true, if_false]
  | orphanExchange botId position => cases raises
  | matching row => cases raises

/-- An action does its own work, whatever was done before. -/
theorem perform_of_kept {s : Startup} (kept : t.Kept s) {action : ReconcileAction}
    (made : t.action action.key = some action) (returns : t.returns action = true) :
    action.perform t s =
      (.ok (),
        { db := t.leaves action s.db
          tasks := t.registers action s.tasks
          log := s.log ++ t.treatment action }) := by
  cases action with
  | orphanDb row =>
      have resolved := selectOpenOrderIdByTradeId_congr kept.identities row.2.tradeId
      simp only [ReconcileAction.perform, closeOrphanDb, resolved, StartupInput.leaves,
        StartupInput.treatment, StartupInput.registers]
      simp only [StartupInput.returns] at returns
      cases found : t.db.selectOpenOrderIdByTradeId row.2.tradeId with
      | none => rfl
      | some openOrderId =>
          have commits : t.commits row.1 = true := by simpa [found] using returns
          simp only [transaction_closeOrphanDbTx, commits, if_true, Startup.logs]
  | orphanExchange botId position =>
      have untracked : t.db.positions.lookup (botId, position.symbol) = none :=
        (action_eq_orphanExchange.mp made).2.2.1
      simp only [ReconcileAction.perform, handleOrphanExchange, kept.recent _ untracked,
        StartupInput.leaves, StartupInput.treatment, StartupInput.registers]
      cases position.side with
      | none => simp
      | some side =>
          simp only [Prod.mk.injEq, true_and]
          split_ifs
          · rfl
          · cases t.placeMarketOrder (botId, position.symbol) <;> rfl
  | matching row => rfl

/-- Closing the trade of a row does not open one of a key without a row. -/
theorem recent_orphanClosed {db : Db} {row : KeyedRow} {key : PositionKey} {since : ℤ}
    (own : ∀ trade ∈ db.trades, trade.id = row.2.tradeId →
      ¬ (trade.botId = key.1 ∧ trade.symbol = key.2)) (closedAt openOrderId : ℕ) :
    (db.orphanClosed row closedAt openOrderId).selectRecentOpenTradeExists key since =
      db.selectRecentOpenTradeExists key since := by
  rw [Bool.eq_iff_iff]
  simp only [Db.selectRecentOpenTradeExists, List.any_eq_true]
  constructor
  · rintro ⟨trade, member, found⟩
    obtain ⟨old, listed, ⟨_, rfl⟩ | ⟨_, rfl⟩⟩ := mem_updateWhere.mp member
    · simp [TradeRow.orphanClosed, TradeRow.enter, TradeRow.close] at found
    · exact ⟨trade, listed, found⟩
  · rintro ⟨trade, member, found⟩
    have ofKey : trade.botId = key.1 ∧ trade.symbol = key.2 := by
      simp only [Bool.and_eq_true, beq_iff_eq] at found
      exact found.1.1
    have other : (trade.id == row.2.tradeId) = false :=
      beq_eq_false_iff_ne.mpr fun same => own trade member same ofKey
    exact ⟨trade, mem_updateWhere.mpr ⟨trade, member, .inr ⟨other, rfl⟩⟩, found⟩

theorem StartupInput.Kept.start (t : StartupInput) : t.Kept { db := t.db, tasks := t.tasks } :=
  ⟨rfl, fun _ _ => rfl⟩

theorem StartupInput.Kept.perform (anchored : Anchored t.db) {s : Startup} (kept : t.Kept s)
    {action : ReconcileAction} (made : t.action action.key = some action) :
    t.Kept (action.perform t s).2 := by
  cases returns : t.returns action with
  | false =>
      rw [perform_of_not_returns kept returns]
      exact kept
  | true => ?_
  rw [perform_of_kept kept made returns]
  cases action with
  | orphanDb row =>
      have held : t.db.positions.lookup row.1 = some row.2 := (action_eq_orphanDb.mp made).2.2.1
      simp only [StartupInput.leaves]
      split
      · exact ⟨kept.identities, kept.recent⟩
      · refine ⟨(identities_orphanClosed _ _ _ _).trans kept.identities, fun key untracked => ?_⟩
        rw [← kept.recent key untracked]
        refine recent_orphanClosed (fun trade member same ofKey => ?_) _ _
        have listed := List.mem_map_of_mem (f := TradeRow.identity) member
        rw [kept.identities, List.mem_map] at listed
        obtain ⟨old, oldMember, identity⟩ := listed
        simp only [TradeRow.identity, Prod.mk.injEq] at identity
        obtain ⟨id, botId, symbol, -⟩ := identity
        have own := anchored.own row.1 row.2 held old oldMember (id.trans same)
        have here : row.1 = key := Prod.ext (own.1.symm.trans (botId.trans ofKey.1))
          (own.2.symm.trans (symbol.trans ofKey.2))
        rw [← here, held] at untracked
        cases untracked
  | orphanExchange botId position => exact ⟨kept.identities, kept.recent⟩
  | matching row => exact ⟨kept.identities, kept.recent⟩

end Perform

/-! ## What is left of a key -/

section Views

variable {t : StartupInput} (anchored : Anchored t.db) (commits : ∀ key, t.commits key = true)
  (readsPositions : ∀ botId ∈ t.adapters, ∃ positions, t.getPositions botId = .ok positions)

include anchored readsPositions

include commits

end Views

/-! ## The partition -/

section Examples

/-- A trade of bot `a`. -/
def restartTrade (id : ℕ) (symbol : String) : TradeRow where
  id := id
  botId := "a"
  signalId := none
  openOrderId := id
  symbol := symbol
  side := .buy
  entryPrice := 100
  qty := 1
  notionalUsd := 100
  openedAt := 0

def restartRow (tradeId : ℕ) : PositionStateRow where
  tradeId := tradeId
  side := .buy
  entryPrice := 100
  qty := 1
  remainingQty := 1
  slPrice := none
  tpPrice := none
  slType := none
  updatedAt := 0

theorem restartPosition_size_nonneg : (0 : ℚ) ≤ 1 := zero_le_one

theorem restartPosition_side_isSome_iff : (some Side.buy).isSome ↔ (0 : ℚ) < 1 :=
  iff_of_true rfl one_pos

/-- A long position of one unit. -/
def restartPosition (symbol : String) : Position where
  symbol := symbol
  side := some .buy
  size := 1
  slPrice := none
  size_nonneg := restartPosition_size_nonneg
  side_isSome_iff := restartPosition_side_isSome_iff

theorem restartAdapters_distinct : ["a", "b"].Nodup := by decide

/-- Bot `a` has two rows and one of them is open; bot `b` has a position without a row. -/
def restartInput : StartupInput where
  adapters := ["a", "b"]
  db :=
    { trades := [restartTrade 1 "BTCUSDT", restartTrade 2 "ETHUSDT"]
      positions := ((∅ : AList fun _ : PositionKey => PositionStateRow).insert ("a", "BTCUSDT")
        (restartRow 1)).insert ("a", "ETHUSDT") (restartRow 2) }
  getPositions := fun botId =>
    .ok (if botId = "a" then [restartPosition "ETHUSDT"] else [restartPosition "SOLUSDT"])
  placeMarketOrder := fun _ => .ok "close"
  raceWindow := 30
  now := fun _ => 1000
  tickSize := fun _ => 1
  distinct := restartAdapters_distinct

theorem restartInput_anchored : Anchored restartInput.db := by
  have rows (key : PositionKey) (row : PositionStateRow)
      (held : restartInput.db.positions.lookup key = some row) :
      key = ("a", "ETHUSDT") ∧ row = restartRow 2 ∨
        key = ("a", "BTCUSDT") ∧ row = restartRow 1 := by
    rcases lookup_insert_eq_some_cases held with later | ⟨_, heldBefore⟩
    · exact .inl later
    · rcases lookup_insert_eq_some_cases heldBefore with first | ⟨_, none⟩
      · exact .inr first
      · simp at none
  refine ⟨fun key row held => ?_, fun key row held trade member same => ?_⟩
  · obtain ⟨rfl, rfl⟩ | ⟨rfl, rfl⟩ := rows key row held <;> rfl
  · obtain rfl | rfl : trade = restartTrade 1 "BTCUSDT" ∨ trade = restartTrade 2 "ETHUSDT" := by
      simpa [restartInput] using member
    all_goals obtain ⟨rfl, rfl⟩ | ⟨rfl, rfl⟩ := rows key row held
    all_goals first | exact ⟨rfl, rfl⟩ | cases same

end Examples

end Scalper.Execution
