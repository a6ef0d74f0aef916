import Scalper.Lib.Transaction
import Scalper.Paper.Agreement

/-!
# Interleaved operations of one paper exchange

Every operation of the adapter checks the position in memory, then awaits its transaction,
and updates memory when it is resumed.  Between the check and the update other operations run.
A schedule (`Move`) starts operations, lets their transactions commit or fail, and resumes
them, in any order; the check, the enqueueing and the popping of a fill run without a
suspension, so the shared queue is empty whenever anyone else runs and is not part of the
state.  Of what an operation emits after its memory update only the execution event is kept.
Run without interruption, an operation is the one of `Adapter` (`uninterrupted_order`,
`uninterrupted_candle`).

Two closings whose checks both saw the position both commit: the trade is closed twice, and
the second one fails on the missing entry.  `run_closedOnce` shows that this is the only way
to go wrong: as long as no closing of a symbol starts while another one of it is under way,
every trade is closed once, no entry is missing, and a symbol has one open trade at most,
whatever else is interleaved.
-/

set_option autoImplicit false

namespace Scalper.Paper

open Scalper.Lib Scalper.Exchange

/-! ## Operations under way -/

/-- What an operation holds while its transaction is awaited: the fill it is going to make and
the position it read. -/
inductive Task where
  | opens (t : OrderTicket)
  | closes (t : OrderTicket) (existing : OpenPosition)
  | drainsPartial (fill : PendingSLTPFill) (position : OpenPosition) (uuid : Uuid)
  | drainsFull (fill : PendingSLTPFill) (position : OpenPosition) (uuid : Uuid)
  | restops (symbol : String) (slPrice tpPrice : Option ℚ)
  deriving DecidableEq, Repr

def Task.symbol : Task → String
  | .opens t => t.symbol
  | .closes t _ => t.symbol
  | .drainsPartial fill _ _ => fill.symbol
  | .drainsFull fill _ _ => fill.symbol
  | .restops symbol _ _ => symbol

/-- The trade a closing is about. -/
def Task.closing : Task → Option ℕ
  | .closes _ existing => some existing.tradeId
  | .drainsFull _ position _ => some position.tradeId
  | _ => none

/-- An operation that awaits its transaction, or one whose transaction committed and which is
still to be resumed; an opening then knows its trade. -/
structure Flight where
  task : Task
  committed : Option ℕ := none
  deriving DecidableEq, Repr

/-- The adapter with the operations under way.  `closings` lists the trades closed so far, one
entry for each committed close with its full-close execution; `keyErrors` the symbols on which
an operation failed because the entry it was about to delete was gone. -/
structure Concurrent where
  exchange : PaperExchange := {}
  flights : ℕ → Option Flight := fun _ => none
  closings : List ℕ := []
  keyErrors : List String := []

section Semantics

variable (cfg : Config)

/-! ## From the call to the first suspension -/

/-- A call of the exchange. -/
inductive Request where
  | order (symbol : String) (side : Side) (qty : ℚ) (reduceOnly : Bool)
  | candle (candle : Candle)
  | stop (symbol : String) (tpslMode : TpslMode) (slPrice tpPrice tpSize : Option ℚ)
      (slType : Option SlType)
  deriving DecidableEq, Repr

/-- `place_market_order` up to its transaction. -/
def beginOrder (symbol : String) (side : Side) (qty : ℚ) (reduceOnly : Bool)
    (s : PaperExchange) : Option Task × PaperExchange :=
  match s.lastPrice symbol, s.lastCandle symbol with
  | some lastPrice, some lastCandle =>
      let ticket := marketTicket cfg symbol side qty lastPrice lastCandle s
      ((match s.openPosition symbol with
        | some existing => if reduceOnly then some (.closes ticket existing) else none
        | none => if reduceOnly then none else some (.opens ticket)),
        { s with uuids := s.uuids + 1 })
  | _, _ => (none, s)

/-- A detected fill, popped and with its drain begun. -/
def drainTask (fill : PendingSLTPFill) (position : OpenPosition) (uuid : Uuid) : Task :=
  if fill.kind = .tp ∧ fill.tpslMode = .Partial then .drainsPartial fill position uuid
  else .drainsFull fill position uuid

/-- `_on_candle` up to the transaction of its drain. -/
def beginCandle (candle : Candle) (s : PaperExchange) : Option Task × PaperExchange :=
  if candle.isClosed then
    let s := s.cacheCandle candle
    match s.activePositions candle.symbol with
    | some { stops := stops, position := some position } =>
        match detectCross { stops := stops, position := some position } candle.symbol candle.low
            candle.high s.now with
        | .ok (some fill) =>
            (some (drainTask fill position s.uuids), { s with uuids := s.uuids + 1 })
        | _ => (none, s)
    | _ => (none, s)
  else (none, s)

/-- What runs of a call before it is first suspended. -/
def begin : Request → PaperExchange → Option Task × PaperExchange
  | .order symbol side qty reduceOnly, s => beginOrder cfg symbol side qty reduceOnly s
  | .candle candle, s => beginCandle candle s
  | .stop symbol tpslMode slPrice tpPrice tpSize slType, s =>
      if slType = some .trail then (none, s)
      else
        (some (.restops symbol slPrice tpPrice),
          { s with
            activePositions := Function.update s.activePositions symbol
              (some (restoppedEntry s symbol tpslMode slPrice tpPrice tpSize slType)) })

/-! ## The transaction -/

/-- The transaction of a task; the trade it opened or changed. -/
def Task.tx : Task → Tx ℕ
  | .opens t => openTx cfg t
  | .closes t existing => do
      closeTx cfg t existing.tradeId
        (computeRealizedPnl existing.side existing.entryPrice t.fillPrice existing.qty
          existing.entryFee t.fee + existing.realizedPnl)
        (existing.feesPaid + t.fee)
      pure existing.tradeId
  | .drainsPartial fill position uuid => do
      let ctx := buildDrainContext cfg fill position uuid
      partialTpTx cfg fill ctx (position.qty - fill.qty) (position.feesPaid + ctx.fee)
        (position.realizedPnl + computeRealizedPnl position.side position.entryPrice
          fill.triggerPrice fill.qty 0 ctx.fee)
      pure position.tradeId
  | .drainsFull fill position uuid => do
      let ctx := buildDrainContext cfg fill position uuid
      fullCloseTx cfg fill ctx
        (computeRealizedPnl position.side position.entryPrice fill.triggerPrice fill.qty
          position.entryFee ctx.fee + position.realizedPnl)
        (position.feesPaid + ctx.fee)
      pure position.tradeId
  | .restops symbol slPrice tpPrice => do
      updatePaperPositionSlTp cfg.columns cfg.botId symbol slPrice tpPrice
      pure 0

/-! ## After the commit -/

/-- `del self._active_positions[symbol]` and the events that follow it; `none` where the key is
missing. -/
def deleteEntry (symbol : String) (event : ExecutionEvent Uuid) (s : PaperExchange) :
    Option PaperExchange :=
  match s.activePositions symbol with
  | none => none
  | some _ =>
      some { s with
        activePositions := Function.update s.activePositions symbol none
        executionQueue := s.executionQueue ++ [event] }

/-- The fields `_drain_partial_tp` sets on the dictionary it read before its transaction.  The
entry of the symbol is that dictionary exactly while it is of the same trade; a dictionary that
was deleted meanwhile is changed without effect. -/
def reduceEntry (leg : ExitLeg) (position : OpenPosition)
    (active : String → Option ActivePosition) : String → Option ActivePosition :=
  match active leg.symbol with
  | some { stops := stops, position := some current } =>
      if current.tradeId = position.tradeId then
        Function.update active leg.symbol (some
          { stops := { stops with slType := .trail }
            position := some
              { current with
                qty := position.qty - leg.qty, feesPaid := position.feesPaid + leg.fee,
                realizedPnl := position.realizedPnl + leg.partialPnl position, tpHit := true } })
      else active
  | _ => active

/-- What runs of a task once its transaction committed; `none` is a `KeyError`. -/
def Task.resume (tradeId : ℕ) : Task → PaperExchange → Option PaperExchange
  | .opens t, s =>
      some { s with
        activePositions := Function.update s.activePositions t.symbol (some
          { position := some (t.position tradeId) })
        executionQueue := s.executionQueue ++ [t.event] }
  | .closes t _, s => deleteEntry t.symbol t.event s
  | .drainsPartial fill position uuid, s =>
      some { s with
        activePositions := reduceEntry (fill.leg cfg) position s.activePositions
        executionQueue := s.executionQueue ++ [(fill.leg cfg).event uuid] }
  | .drainsFull fill _ uuid, s => deleteEntry fill.symbol ((fill.leg cfg).event uuid) s
  | .restops _ _ _, s => some s

/-! ## Schedules -/

/-- A move of the event loop.  A task has an identity; a transaction commits or fails at one
instant, and its task is resumed later. -/
inductive Move where
  | start (id : ℕ) (request : Request) (now : ℕ)
  | commit (id : ℕ)
  | fail (id : ℕ)
  | resume (id : ℕ)
  deriving DecidableEq, Repr

/-- A task of that identity begins, unless one is under way. -/
def Concurrent.start (c : Concurrent) (id : ℕ) (request : Request) (now : ℕ) : Concurrent :=
  match c.flights id with
  | some _ => c
  | none =>
      match begin cfg request { c.exchange with now := now } with
      | (none, s) => { c with exchange := s }
      | (some task, s) =>
          { c with exchange := s, flights := Function.update c.flights id (some { task := task }) }

/-- The transaction of a task commits, unless a constraint refuses it. -/
def Concurrent.commit (c : Concurrent) (id : ℕ) : Concurrent :=
  match c.flights id with
  | some { task := task, committed := none } =>
      match task.tx cfg c.exchange.db with
      | .ok (tradeId, db) =>
          { c with
            exchange := { c.exchange with db := db }
            flights := Function.update c.flights id
              (some { task := task, committed := some tradeId })
            closings := c.closings ++ task.closing.toList }
      | .error _ => { c with flights := Function.update c.flights id none }
  | _ => c

/-- The transaction of a task fails, and the task raises. -/
def Concurrent.fail (c : Concurrent) (id : ℕ) : Concurrent :=
  match c.flights id with
  | some { task := _, committed := none } => { c with flights := Function.update c.flights id none }
  | _ => c

/-- A task whose transaction committed runs to its end. -/
def Concurrent.resume (c : Concurrent) (id : ℕ) : Concurrent :=
  match c.flights id with
  | some { task := task, committed := some tradeId } =>
      match task.resume cfg tradeId c.exchange with
      | some s => { c with exchange := s, flights := Function.update c.flights id none }
      | none =>
          { c with
            flights := Function.update c.flights id none
            keyErrors := c.keyErrors ++ [task.symbol] }
  | _ => c

def move : Move → Concurrent → Concurrent
  | .start id request now, c => c.start cfg id request now
  | .commit id, c => c.commit cfg id
  | .fail id, c => c.fail id
  | .resume id, c => c.resume cfg id

end Semantics

/-! ## What must hold -/

/-- A closing of the symbol is between its check and its memory update. -/
def Concurrent.closingAt (c : Concurrent) (symbol : String) : Prop :=
  ∃ id flight, c.flights id = some flight ∧ flight.task.closing.isSome = true ∧
    flight.task.symbol = symbol

/-- No closing starts on a symbol another closing is under way on. -/
def Exclusive (cfg : Config) (c : Concurrent) : Move → Prop
  | .start _ request now => ∀ task s,
      begin cfg request { c.exchange with now := now } = (some task, s) →
        task.closing.isSome = true → ¬ c.closingAt task.symbol
  | _ => True

/-- A trade is closed once at most, no operation missed its entry, and a symbol has one open
trade at most. -/
structure ClosedOnce (c : Concurrent) : Prop where
  once : ∀ tradeId, c.closings.count tradeId ≤ 1
  noKeyErrors : c.keyErrors = []
  oneOpen : ∀ trade ∈ c.exchange.db.trades, ∀ other ∈ c.exchange.db.trades,
    trade.status = .isOpen → other.status = .isOpen → trade.symbol = other.symbol →
      trade.id = other.id

/-! ## The keys of the tables -/

/-- What identifies the rows of `paper_positions` and `paper_trades`, and the trade ids not yet
drawn. -/
structure Keys where
  rows : List (String × String × ℕ)
  trades : List (ℕ × String × TradeStatus)
  next : ℕ

def PaperDb.keys (db : PaperDb) : Keys where
  rows := db.positions.map fun row => (row.botId, row.symbol, row.tradeId)
  trades := db.trades.map fun row => (row.id, row.symbol, row.status)
  next := db.nextTradeId

/-- A trade with its status after `close_paper_trade`. -/
def closedKey (tradeId : ℕ) (trade : ℕ × String × TradeStatus) : ℕ × String × TradeStatus :=
  if trade.1 = tradeId then (trade.1, trade.2.1, .closed) else trade

/-- What a full close does to the keys. -/
def Keys.close (keys : Keys) (botId symbol : String) (tradeId : ℕ) : Keys where
  rows := keys.rows.filter fun row => !(row.1 == botId && row.2.1 == symbol)
  trades := keys.trades.map (closedKey tradeId)
  next := keys.next

/-- Everything a committed transaction does to the keys. -/
inductive KeyChange (cfg : Config) (keys : Keys) : Task → ℕ → Keys → Prop where
  | opened {t : OrderTicket} (free : ∀ tradeId, (cfg.botId, t.symbol, tradeId) ∉ keys.rows) :
      KeyChange cfg keys (.opens t) keys.next
        { rows := keys.rows ++ [(cfg.botId, t.symbol, keys.next)]
          trades := keys.trades ++ [(keys.next, t.symbol, .isOpen)]
          next := keys.next + 1 }
  | closed {task : Task} {tradeId : ℕ} (closing : task.closing = some tradeId) :
      KeyChange cfg keys task tradeId
        (keys.close cfg.botId task.symbol tradeId)
  | kept {task : Task} {tradeId : ℕ} (notOpening : ∀ t, task ≠ .opens t)
      (notClosing : task.closing = none) : KeyChange cfg keys task tradeId keys

section Keys

variable {cfg : Config} {db db' : PaperDb}

theorem keys_close {exitPrice realizedPnl feesPaid : ℚ} {closedAt orderId tradeId : ℕ}
    {closeReason : CloseReason} {symbol : String}
    (positions : db'.positions = db.positions.filter fun row => !row.at cfg.botId symbol)
    (trades : db'.trades = updateWhere (·.id == tradeId)
      (.close cfg.columns exitPrice realizedPnl feesPaid closedAt closeReason orderId) db.trades)
    (next : db'.nextTradeId = db.nextTradeId) :
    db'.keys = db.keys.close cfg.botId symbol tradeId := by
  simp only [PaperDb.keys, Keys.close, positions, trades, next, List.filter_map, updateWhere,
    List.map_map, Keys.mk.injEq, and_true]
  refine ⟨rfl, List.map_congr_left fun row _ => ?_⟩
  by_cases same : row.id = tradeId
  · simp [closedKey, same, PaperTrade.close]
  · simp [closedKey, same]

theorem free_of_unlisted {symbol : String}
    (unlisted : db.positions.any (PaperPosition.at cfg.botId symbol) = false) (tradeId : ℕ) :
    (cfg.botId, symbol, tradeId) ∉ db.keys.rows := by
  intro member
  obtain ⟨row, listed, same⟩ := List.mem_map.mp member
  have absent := List.any_eq_false.mp unlisted row listed
  simp only [Prod.mk.injEq] at same
  simp [PaperPosition.at, same.1, same.2.1] at absent

theorem openTx_keys {t : OrderTicket} {tradeId : ℕ}
    (returned : openTx cfg t db = .ok (tradeId, db')) :
    KeyChange cfg db.keys (.opens t) tradeId db'.keys := by
  rw [openTx_eq] at returned
  split at returned
  · rename_i unlisted
    obtain ⟨rfl, rfl⟩ := Prod.mk.inj (Except.ok.inj returned)
    have change := KeyChange.opened (t := t) (free_of_unlisted (by simpa using unlisted))
    have keys : (db.afterOpen cfg t).keys =
        { rows := db.keys.rows ++ [(cfg.botId, t.symbol, db.keys.next)]
          trades := db.keys.trades ++ [(db.keys.next, t.symbol, .isOpen)]
          next := db.keys.next + 1 } := by
      simp [PaperDb.keys, PaperDb.afterOpen, PaperPosition.stored, PaperTrade.stored]
    rw [keys]
    exact change
  · cases returned

/-- A body that checks one foreign key and returns an id. -/
theorem tx_pure {body : Tx Unit} {id tradeId : ℕ} {known : Bool} {after : PaperDb}
    (spec : body db = if known then .ok ((), after) else .error .databaseError)
    (returned : (do body; pure id : Tx ℕ) db = .ok (tradeId, db')) :
    tradeId = id ∧ db' = after := by
  obtain ⟨_, middle, ran, last⟩ := bind_ok_iff.mp returned
  obtain ⟨rfl, rfl⟩ := Prod.mk.inj (pure_ok_iff.mp last)
  rw [spec] at ran
  split at ran
  · exact ⟨rfl, (Prod.mk.inj (Except.ok.inj ran)).2.symm⟩
  · cases ran

variable (cfg) in
theorem fullCloseTx_spec (fill : PendingSLTPFill) (ctx : DrainContext)
    (realizedPnl feesPaid : ℚ) (db : PaperDb) :
    ∃ after, fullCloseTx cfg fill ctx realizedPnl feesPaid db =
        (if db.trades.any (·.id == ctx.position.tradeId) then .ok ((), after)
          else .error .databaseError) ∧
      after.keys = db.keys.close cfg.botId fill.symbol ctx.position.tradeId := by
  refine ⟨?after, ?_, ?_⟩
  rotate_left
  · simp only [fullCloseTx, insertSyntheticCloseOrder, insertCloseExecution, insertPaperOrder,
      insertPaperExecution, closePaperTrade, deletePaperPosition, bind, StateT.bind, Except.bind]
    cases db.trades.any (·.id == ctx.position.tradeId) <;> rfl
  · exact keys_close rfl rfl rfl

variable (cfg) in
theorem partialTpTx_spec (fill : PendingSLTPFill) (ctx : DrainContext)
    (newQty newFeesPaid newPnl : ℚ) (db : PaperDb) :
    ∃ after, partialTpTx cfg fill ctx newQty newFeesPaid newPnl db =
        (if db.trades.any (·.id == ctx.position.tradeId) then .ok ((), after)
          else .error .databaseError) ∧ after.keys = db.keys := by
  refine ⟨?after, ?_, ?_⟩
  rotate_left
  · simp only [partialTpTx, insertSyntheticCloseOrder, insertCloseExecution, insertPaperOrder,
      insertPaperExecution, updatePaperTradePartial, updatePaperPositionPartial, bind,
      StateT.bind, Except.bind]
    cases db.trades.any (·.id == ctx.position.tradeId) <;> rfl
  · simp only [PaperDb.keys, Keys.mk.injEq, and_true]
    refine ⟨map_updateWhere ?_ db.positions, map_updateWhere ?_ db.trades⟩
    · exact fun _ => rfl
    · exact fun _ => rfl

/-- **A committed transaction, by what it does to the keys.** -/
theorem Task.tx_keys {task : Task} {tradeId : ℕ} (returned : task.tx cfg db = .ok (tradeId, db')) :
    KeyChange cfg db.keys task tradeId db'.keys := by
  cases task with
  | opens t => exact openTx_keys returned
  | closes t existing =>
      obtain ⟨rfl, rfl⟩ := tx_pure (closeTx_eq cfg t existing db) returned
      have keys : (db.afterClose cfg t.leg t.uuid existing).keys =
          db.keys.close cfg.botId t.symbol existing.tradeId := keys_close rfl rfl rfl
      have change : KeyChange cfg db.keys (.closes t existing) existing.tradeId
          (db.keys.close cfg.botId t.symbol existing.tradeId) := .closed rfl
      rw [keys]
      exact change
  | drainsPartial fill position uuid =>
      obtain ⟨after, spec, keys⟩ := partialTpTx_spec cfg fill
        (buildDrainContext cfg fill position uuid) _ _ _ db
      obtain ⟨rfl, rfl⟩ := tx_pure spec returned
      rw [keys]
      exact .kept (fun _ same => by cases same) rfl
  | drainsFull fill position uuid =>
      obtain ⟨after, spec, keys⟩ := fullCloseTx_spec cfg fill
        (buildDrainContext cfg fill position uuid) _ _ db
      obtain ⟨rfl, rfl⟩ := tx_pure spec returned
      have change : KeyChange cfg db.keys (.drainsFull fill position uuid) position.tradeId
          (db.keys.close cfg.botId fill.symbol position.tradeId) := .closed rfl
      rw [keys]
      exact change
  | restops symbol slPrice tpPrice =>
      have spec : updatePaperPositionSlTp cfg.columns cfg.botId symbol slPrice tpPrice db =
          if true then .ok ((), db.afterRestop cfg symbol slPrice tpPrice)
          else .error .databaseError := rfl
      obtain ⟨rfl, rfl⟩ := tx_pure spec returned
      have keys : (db.afterRestop cfg symbol slPrice tpPrice).keys = db.keys := by
        simp only [PaperDb.keys, PaperDb.afterRestop, Keys.mk.injEq, and_true]
        refine map_updateWhere ?_ db.positions
        exact fun _ => rfl
      rw [keys]
      exact .kept (fun _ same => by cases same) rfl

end Keys

/-! ## The invariant -/

/-- The tables in order: trades have drawn ids, every row of `paper_positions` is the bot's and
its trade is open on the row's symbol, a symbol has one row at most, and every open trade has
its row. -/
structure Keys.Sound (botId : String) (keys : Keys) : Prop where
  drawn : ∀ trade ∈ keys.trades, trade.1 < keys.next
  ofBot : ∀ row ∈ keys.rows, row.1 = botId
  known : ∀ row ∈ keys.rows, ∃ trade ∈ keys.trades, trade.1 = row.2.2
  rowOpen : ∀ row ∈ keys.rows, ∀ trade ∈ keys.trades, trade.1 = row.2.2 →
    trade.2 = (row.2.1, .isOpen)
  apart : ∀ row ∈ keys.rows, ∀ other ∈ keys.rows, row.2.1 = other.2.1 → row = other
  openRow : ∀ trade ∈ keys.trades, trade.2.2 = .isOpen → (botId, trade.2.1, trade.1) ∈ keys.rows

/-- The adapter in order: a position in memory has its row, unless a closing has deleted the row
and not yet the entry; a closing finds its entry, and its row until it commits; the trade of an
opening that committed is still unknown to memory and to every closing; and the trades closed so
far are closed in the table. -/
structure Orderly (cfg : Config) (c : Concurrent) : Prop where
  keys : c.exchange.db.keys.Sound cfg.botId
  memory : ∀ symbol position, c.exchange.openPosition symbol = some position →
    position.tradeId < c.exchange.db.keys.next ∧
      ((cfg.botId, symbol, position.tradeId) ∈ c.exchange.db.keys.rows ∨
        ∃ id flight, c.flights id = some flight ∧ flight.task.closing.isSome = true ∧
          flight.task.symbol = symbol ∧ flight.committed.isSome = true)
  closers : ∀ id flight tradeId, c.flights id = some flight →
    flight.task.closing = some tradeId → tradeId < c.exchange.db.keys.next ∧
      c.exchange.activePositions flight.task.symbol ≠ none ∧
      (flight.committed = none →
        (cfg.botId, flight.task.symbol, tradeId) ∈ c.exchange.db.keys.rows)
  closersApart : ∀ id flight other flight', c.flights id = some flight →
    c.flights other = some flight' → flight.task.closing.isSome = true →
      flight'.task.closing.isSome = true → flight.task.symbol = flight'.task.symbol → id = other
  openers : ∀ id t tradeId, c.flights id = some ⟨.opens t, some tradeId⟩ →
    (cfg.botId, t.symbol, tradeId) ∈ c.exchange.db.keys.rows ∧
      (∀ symbol position, c.exchange.openPosition symbol = some position →
        position.tradeId ≠ tradeId) ∧
      ∀ other flight, c.flights other = some flight → flight.task.closing ≠ some tradeId
  openersApart : ∀ id t other t' tradeId, c.flights id = some ⟨.opens t, some tradeId⟩ →
    c.flights other = some ⟨.opens t', some tradeId⟩ → id = other
  closed : ∀ tradeId ∈ c.closings, ∀ trade ∈ c.exchange.db.keys.trades, trade.1 = tradeId →
    trade.2.2 = .closed
  closedDrawn : ∀ tradeId ∈ c.closings, tradeId < c.exchange.db.keys.next
  once : c.closings.Nodup
  noKeyErrors : c.keyErrors = []

section Tables

variable {botId symbol : String} {keys : Keys} {tradeId : ℕ}

theorem Keys.mem_close_rows {row : String × String × ℕ} :
    row ∈ (keys.close botId symbol tradeId).rows ↔
      row ∈ keys.rows ∧ ¬ (row.1 = botId ∧ row.2.1 = symbol) := by
  simp [Keys.close, List.mem_filter, imp_iff_not_or]

theorem Keys.mem_close_trades {trade : ℕ × String × TradeStatus} :
    trade ∈ (keys.close botId symbol tradeId).trades ↔
      (trade ∈ keys.trades ∧ trade.1 ≠ tradeId) ∨
        ∃ before ∈ keys.trades, before.1 = tradeId ∧ trade = (tradeId, before.2.1, .closed) := by
  simp only [Keys.close, List.mem_map]
  constructor
  · rintro ⟨before, listed, rfl⟩
    by_cases same : before.1 = tradeId
    · exact .inr ⟨before, listed, same, by simp [closedKey, same]⟩
    · exact .inl ⟨by simpa [closedKey, same] using listed, by simp [closedKey, same]⟩
  · rintro (⟨listed, different⟩ | ⟨before, listed, same, rfl⟩)
    · exact ⟨trade, listed, by simp [closedKey, different]⟩
    · exact ⟨before, listed, by simp [closedKey, same]⟩

theorem Keys.Sound.opened (sound : keys.Sound botId)
    (free : ∀ tradeId, (botId, symbol, tradeId) ∉ keys.rows) :
    Keys.Sound botId
      { rows := keys.rows ++ [(botId, symbol, keys.next)]
        trades := keys.trades ++ [(keys.next, symbol, .isOpen)]
        next := keys.next + 1 } := by
  have old : ∀ row ∈ keys.rows, row.2.1 ≠ symbol := by
    rintro ⟨bot, rowSymbol, rowTrade⟩ listed rfl
    have owner := sound.ofBot _ listed
    simp only at owner
    exact free rowTrade (owner ▸ listed)
  have drawnRow : ∀ row ∈ keys.rows, row.2.2 < keys.next := by
    intro row listed
    obtain ⟨trade, member, same⟩ := sound.known row listed
    exact same ▸ sound.drawn trade member
  constructor
  case drawn =>
    intro trade member
    rcases List.mem_append.mp member with member | member
    · exact Nat.lt_succ_of_lt (sound.drawn trade member)
    · simp [List.mem_singleton.mp member]
  case ofBot =>
    intro row member
    rcases List.mem_append.mp member with member | member
    · exact sound.ofBot row member
    · simp [List.mem_singleton.mp member]
  case known =>
    intro row member
    rcases List.mem_append.mp member with member | member
    · obtain ⟨trade, listed, same⟩ := sound.known row member
      exact ⟨trade, List.mem_append_left _ listed, same⟩
    · exact ⟨_, List.mem_append_right _ List.mem_cons_self, by simp [List.mem_singleton.mp member]⟩
  case rowOpen =>
    intro row rowMember trade tradeMember same
    rcases List.mem_append.mp rowMember with rowMember | rowMember <;>
      rcases List.mem_append.mp tradeMember with tradeMember | tradeMember
    · exact sound.rowOpen row rowMember trade tradeMember same
    · have drawn := drawnRow row rowMember
      rw [← same, List.mem_singleton.mp tradeMember] at drawn
      exact absurd drawn (lt_irrefl _)
    · have drawn := sound.drawn trade tradeMember
      rw [same, List.mem_singleton.mp rowMember] at drawn
      exact absurd drawn (lt_irrefl _)
    · rw [List.mem_singleton.mp rowMember, List.mem_singleton.mp tradeMember]
  case apart =>
    intro row rowMember other otherMember same
    rcases List.mem_append.mp rowMember with rowMember | rowMember <;>
      rcases List.mem_append.mp otherMember with otherMember | otherMember
    · exact sound.apart row rowMember other otherMember same
    · exact absurd (by rw [same, List.mem_singleton.mp otherMember]) (old row rowMember)
    · exact absurd (by rw [← same, List.mem_singleton.mp rowMember]) (old other otherMember)
    · rw [List.mem_singleton.mp rowMember, List.mem_singleton.mp otherMember]
  case openRow =>
    intro trade member isOpen
    rcases List.mem_append.mp member with member | member
    · exact List.mem_append_left _ (sound.openRow trade member isOpen)
    · rw [List.mem_singleton.mp member]
      exact List.mem_append_right _ List.mem_cons_self

/-- Closing the trade that has the symbol's row. -/
theorem Keys.Sound.close (sound : keys.Sound botId)
    (listed : (botId, symbol, tradeId) ∈ keys.rows) :
    (keys.close botId symbol tradeId).Sound botId := by
  have otherTrade : ∀ row ∈ (keys.close botId symbol tradeId).rows, row.2.2 ≠ tradeId := by
    intro row member same
    obtain ⟨rowListed, away⟩ := Keys.mem_close_rows.mp member
    obtain ⟨trade, tradeListed, tradeSame⟩ := sound.known row rowListed
    have here := sound.rowOpen row rowListed trade tradeListed tradeSame
    have there := sound.rowOpen _ listed trade tradeListed (tradeSame.trans same)
    exact away ⟨sound.ofBot row rowListed, (Prod.mk.inj (here.symm.trans there)).1⟩
  constructor
  case drawn =>
    intro trade member
    rcases Keys.mem_close_trades.mp member with ⟨listed, -⟩ | ⟨before, listed, same, rfl⟩
    · exact sound.drawn trade listed
    · exact same ▸ sound.drawn before listed
  case ofBot =>
    intro row member
    exact sound.ofBot row (Keys.mem_close_rows.mp member).1
  case known =>
    intro row member
    obtain ⟨trade, tradeListed, same⟩ := sound.known row (Keys.mem_close_rows.mp member).1
    exact ⟨trade, Keys.mem_close_trades.mpr
      (.inl ⟨tradeListed, same ▸ otherTrade row member⟩), same⟩
  case rowOpen =>
    intro row rowMember trade tradeMember same
    rcases Keys.mem_close_trades.mp tradeMember with ⟨tradeMember, -⟩ | ⟨before, _, _, rfl⟩
    · exact sound.rowOpen row (Keys.mem_close_rows.mp rowMember).1 trade tradeMember same
    · exact absurd same.symm (otherTrade row rowMember)
  case apart =>
    intro row rowMember other otherMember same
    exact sound.apart row (Keys.mem_close_rows.mp rowMember).1 other
      (Keys.mem_close_rows.mp otherMember).1 same
  case openRow =>
    intro trade member isOpen
    rcases Keys.mem_close_trades.mp member with ⟨member, different⟩ | ⟨before, _, _, rfl⟩
    · have row := sound.openRow trade member isOpen
      refine Keys.mem_close_rows.mpr ⟨row, fun same => ?_⟩
      have equal := sound.apart _ row _ listed same.2
      exact different (Prod.mk.inj (Prod.mk.inj equal).2).2
    · cases isOpen

end Tables

/-! ## What a call does before it is suspended -/

section Begin

variable {cfg : Config} {s : PaperExchange} {request : Request}

/-- Up to its first suspension a call leaves the tables and the open positions, drops no entry,
and only closes a position it found. -/
structure Begun (s : PaperExchange) (task : Option Task) (s' : PaperExchange) : Prop where
  tables : s'.db = s.db
  positions : ∀ symbol, s'.openPosition symbol = s.openPosition symbol
  entries : ∀ symbol, s.activePositions symbol ≠ none → s'.activePositions symbol ≠ none
  checked : ∀ closing ∈ task, ∀ tradeId ∈ closing.closing,
    ∃ position, s.openPosition closing.symbol = some position ∧ position.tradeId = tradeId

theorem beginOrder_begun {symbol : String} {side : Side} {qty : ℚ} {reduceOnly : Bool} :
    Begun s (beginOrder cfg symbol side qty reduceOnly s).1
      (beginOrder cfg symbol side qty reduceOnly s).2 := by
  unfold beginOrder
  split
  · refine ⟨rfl, fun _ => rfl, fun _ listed => listed, ?_⟩
    intro task begun tradeId closing
    simp only [Option.mem_def] at begun closing
    cases found : s.openPosition symbol with
    | none => simp only [found] at begun; split at begun <;> cases begun; cases closing
    | some existing =>
        simp only [found] at begun
        split at begun
        · cases begun
          exact ⟨existing, found, Option.some.inj closing⟩
        · cases begun
  · exact ⟨rfl, fun _ => rfl, fun _ listed => listed, fun _ begun => by cases begun⟩

theorem drainTask_closing {fill : PendingSLTPFill} {position : OpenPosition} {uuid : Uuid}
    {tradeId : ℕ} (closing : (drainTask fill position uuid).closing = some tradeId) :
    position.tradeId = tradeId := by
  unfold drainTask at closing
  split at closing
  · cases closing
  · exact Option.some.inj closing

theorem drainTask_symbol {fill : PendingSLTPFill} {position : OpenPosition} {uuid : Uuid} :
    (drainTask fill position uuid).symbol = fill.symbol := by
  unfold drainTask
  split <;> rfl

theorem beginCandle_begun {candle : Candle} :
    Begun s (beginCandle candle s).1 (beginCandle candle s).2 := by
  have idle : ∀ after : PaperExchange, after.db = s.db →
      after.activePositions = s.activePositions → Begun s none after := by
    intro after tables entries
    refine ⟨tables, fun symbol => ?_, fun symbol => ?_, fun _ begun => by cases begun⟩
    · simp [PaperExchange.openPosition, entries]
    · simp [entries]
  unfold beginCandle
  split
  · dsimp only
    split
    · rename_i stops position entry
      split
      · rename_i fill crossed
        refine ⟨rfl, fun _ => rfl, fun _ listed => listed, ?_⟩
        intro task begun tradeId closing
        obtain rfl := Option.some.inj begun
        have symbol : fill.symbol = candle.symbol := (crossed_of_detectCross crossed).symbol_eq
        refine ⟨position, ?_, drainTask_closing closing⟩
        rw [drainTask_symbol, symbol]
        exact congrArg (Option.bind · (·.position)) entry
      · exact idle _ rfl rfl
    · exact idle _ rfl rfl
  · exact idle _ rfl rfl

theorem begin_begun : Begun s (begin cfg request s).1 (begin cfg request s).2 := by
  cases request with
  | order symbol side qty reduceOnly => exact beginOrder_begun
  | candle candle => exact beginCandle_begun
  | stop symbol tpslMode slPrice tpPrice tpSize slType =>
      simp only [begin]
      split
      · exact ⟨rfl, fun _ => rfl, fun _ listed => listed, fun _ begun => by cases begun⟩
      · refine ⟨rfl, fun other => ?_, fun other listed => ?_, ?_⟩
        · by_cases same : other = symbol
          · subst same
            cases entry : s.activePositions other <;>
              simp [PaperExchange.openPosition, restoppedEntry, entry]
          · simp [PaperExchange.openPosition, same]
        · by_cases same : other = symbol <;> simp [same, listed]
        · intro task begun tradeId closing
          obtain rfl := Option.some.inj begun
          cases closing

end Begin

/-! ## Every move keeps the order -/

section Moves

variable {cfg : Config} {c : Concurrent} {id : ℕ}

theorem Orderly.initial (cfg : Config) : Orderly cfg {} := by
  constructor
  · constructor <;> exact fun _ member => absurd member List.not_mem_nil
  · intro symbol position found
    cases found
  · intro id flight tradeId found
    cases found
  · intro id flight other flight' found
    cases found
  · intro id t tradeId found
    cases found
  · intro id t other t' tradeId found
    cases found
  · intro tradeId member
    cases member
  · intro tradeId member
    cases member
  · exact List.nodup_nil
  · rfl

theorem flight_kept {flights : ℕ → Option Flight} {written : Option Flight} {other : ℕ}
    {flight : Flight} (different : other ≠ id) (found : flights other = some flight) :
    Function.update flights id written other = some flight := by
  simpa [different] using found

/-- The flight of a task that closes nothing is none of the closings. -/
theorem closing_ne {task : Task} {committed : Option ℕ} {other : ℕ} {flight : Flight}
    (flying : c.flights id = some { task := task, committed := committed })
    (notClosing : task.closing = none) (found : c.flights other = some flight)
    (closing : flight.task.closing.isSome = true) : other ≠ id := by
  rintro rfl
  rw [flying] at found
  obtain rfl := Option.some.inj found
  rw [notClosing] at closing
  cases closing

/-- Every closing under way has its entry in memory. -/
theorem Orderly.closing_entry (orderly : Orderly cfg c) {other : ℕ} {flight : Flight}
    (found : c.flights other = some flight) (closing : flight.task.closing.isSome = true) :
    c.exchange.activePositions flight.task.symbol ≠ none := by
  obtain ⟨tradeId, isClosing⟩ := Option.isSome_iff_exists.mp closing
  exact (orderly.closers other flight tradeId found isClosing).2.1

/-- The order survives a change of memory with the landing of flights, as long as the tables
stay, every position in memory was there before with its closing still under way or has its row
and no opening that would bring it, and every closing under way keeps its entry. -/
theorem Orderly.settle (orderly : Orderly cfg c) {s : PaperExchange} {flights : ℕ → Option Flight}
    (tables : s.db = c.exchange.db)
    (fewer : ∀ other flight, flights other = some flight → c.flights other = some flight)
    (known : ∀ symbol position, s.openPosition symbol = some position →
      (∃ before, c.exchange.openPosition symbol = some before ∧
        before.tradeId = position.tradeId ∧
        ∀ other flight, c.flights other = some flight → flight.task.closing.isSome = true →
          flight.task.symbol = symbol → flight.committed.isSome = true →
            flights other = some flight) ∨
      ((cfg.botId, symbol, position.tradeId) ∈ c.exchange.db.keys.rows ∧
        ∀ other t, flights other ≠ some ⟨.opens t, some position.tradeId⟩))
    (entries : ∀ other flight, flights other = some flight → flight.task.closing.isSome = true →
      s.activePositions flight.task.symbol ≠ none) :
    Orderly cfg { c with exchange := s, flights := flights } := by
  have keys : s.db.keys = c.exchange.db.keys := by rw [tables]
  constructor
  case keys =>
    exact keys ▸ orderly.keys
  case memory =>
    intro symbol position found
    show position.tradeId < s.db.keys.next ∧ _
    rw [keys]
    rcases known symbol position found with ⟨before, held, same, still⟩ | ⟨row, -⟩
    · obtain ⟨drawn, row | ⟨other, flight, flying, closing, here, committed⟩⟩ :=
        orderly.memory symbol before held
      · exact ⟨same ▸ drawn, .inl (same ▸ row)⟩
      · exact ⟨same ▸ drawn, .inr ⟨other, flight,
          still other flight flying closing here committed, closing, here, committed⟩⟩
    · obtain ⟨trade, listed, same⟩ := orderly.keys.known _ row
      have drawn := orderly.keys.drawn trade listed
      rw [same] at drawn
      exact ⟨drawn, .inl row⟩
  case closers =>
    intro id flight tradeId found closing
    obtain ⟨drawn, -, row⟩ := orderly.closers id flight tradeId (fewer id flight found) closing
    exact ⟨keys ▸ drawn, entries id flight found (Option.isSome_of_mem closing), keys ▸ row⟩
  case closersApart =>
    intro one flight other flight' found found'
    exact orderly.closersApart one flight other flight' (fewer one flight found)
      (fewer other flight' found')
  case openers =>
    intro id t tradeId found
    obtain ⟨row, unknown, uncaptured⟩ := orderly.openers id t tradeId (fewer id _ found)
    refine ⟨keys ▸ row, fun symbol position held same => ?_, fun other flight flying =>
      uncaptured other flight (fewer other flight flying)⟩
    rcases known symbol position held with ⟨before, heldBefore, sameTrade, -⟩ | ⟨-, unopened⟩
    · exact unknown symbol before heldBefore (sameTrade.trans same)
    · exact unopened id t (same ▸ found)
  case openersApart =>
    intro one t other t' tradeId found found'
    exact orderly.openersApart one t other t' tradeId (fewer one _ found) (fewer other _ found')
  case closed =>
    exact keys ▸ orderly.closed
  case closedDrawn =>
    exact keys ▸ orderly.closedDrawn
  case once =>
    exact orderly.once
  case noKeyErrors =>
    exact orderly.noKeyErrors

theorem Orderly.sameBooks (orderly : Orderly cfg c) {s : PaperExchange}
    (tables : s.db = c.exchange.db)
    (positions : ∀ symbol, s.openPosition symbol = c.exchange.openPosition symbol)
    (entries : ∀ symbol, c.exchange.activePositions symbol ≠ none →
      s.activePositions symbol ≠ none) : Orderly cfg { c with exchange := s } := by
  refine orderly.settle tables (fun _ _ found => found) (fun symbol position held => ?_)
    (fun other flight found closing => ?_)
  · exact .inl ⟨position, (positions symbol).symm.trans held, rfl, fun _ _ found _ _ _ => found⟩
  · exact entries _ (orderly.closing_entry found closing)

/-- A task takes off: a closing has found its row and is alone on its symbol. -/
theorem Orderly.launch (orderly : Orderly cfg c) {task : Task} (idle : c.flights id = none)
    (checked : ∀ tradeId ∈ task.closing, ∃ position,
      c.exchange.openPosition task.symbol = some position ∧ position.tradeId = tradeId)
    (alone : task.closing.isSome = true → ¬ c.closingAt task.symbol) :
    Orderly cfg { c with flights := Function.update c.flights id (some { task := task }) } := by
  have kept : ∀ other flight, c.flights other = some flight →
      Function.update c.flights id (some { task := task }) other = some flight := by
    intro other flight found
    refine flight_kept (fun same => ?_) found
    rw [same, idle] at found
    cases found
  constructor
  case keys =>
    exact orderly.keys
  case memory =>
    intro symbol position found
    obtain ⟨drawn, row | ⟨other, flight, flying, rest⟩⟩ := orderly.memory symbol position found
    · exact ⟨drawn, .inl row⟩
    · exact ⟨drawn, .inr ⟨other, flight, kept other flight flying, rest⟩⟩
  case closers =>
    intro other flight tradeId found closing
    rcases update_eq_some_cases found with ⟨-, launched⟩ | ⟨-, flying⟩
    · obtain rfl := Option.some.inj launched
      obtain ⟨position, held, rfl⟩ := checked tradeId closing
      obtain ⟨drawn, row | ⟨other, flight, flying, isClosing, here, -⟩⟩ :=
        orderly.memory task.symbol position held
      · have present : c.exchange.activePositions task.symbol ≠ none := by
          intro absent
          simp [PaperExchange.openPosition, absent] at held
        exact ⟨drawn, present, fun _ => row⟩
      · exact absurd ⟨other, flight, flying, isClosing, here⟩
          (alone (Option.isSome_of_mem closing))
    · exact orderly.closers other flight tradeId flying closing
  case closersApart =>
    intro one flight other flight' found found' closing closing' same
    rcases update_eq_some_cases found with ⟨rfl, launched⟩ | ⟨-, flying⟩ <;>
      rcases update_eq_some_cases found' with ⟨rfl, launched'⟩ | ⟨-, flying'⟩
    · rfl
    · obtain rfl := Option.some.inj launched
      exact absurd ⟨other, flight', flying', closing', same.symm⟩ (alone closing)
    · obtain rfl := Option.some.inj launched'
      exact absurd ⟨one, flight, flying, closing, same⟩ (alone closing')
    · exact orderly.closersApart one flight other flight' flying flying' closing closing' same
  case openers =>
    intro other t tradeId found
    rcases update_eq_some_cases found with ⟨-, launched⟩ | ⟨-, flying⟩
    · cases launched
    · obtain ⟨row, unknown, uncaptured⟩ := orderly.openers other t tradeId flying
      refine ⟨row, unknown, fun third flight found' => ?_⟩
      rcases update_eq_some_cases found' with ⟨-, launched⟩ | ⟨-, flying'⟩
      · obtain rfl := Option.some.inj launched
        intro closing
        obtain ⟨position, held, same⟩ := checked tradeId closing
        exact unknown task.symbol position held same
      · exact uncaptured third flight flying'
  case openersApart =>
    intro one t other t' tradeId found found'
    rcases update_eq_some_cases found with ⟨-, launched⟩ | ⟨-, flying⟩
    · cases launched
    · rcases update_eq_some_cases found' with ⟨-, launched'⟩ | ⟨-, flying'⟩
      · cases launched'
      · exact orderly.openersApart one t other t' tradeId flying flying'
  case closed =>
    exact orderly.closed
  case closedDrawn =>
    exact orderly.closedDrawn
  case once =>
    exact orderly.once
  case noKeyErrors =>
    exact orderly.noKeyErrors

theorem Orderly.start (orderly : Orderly cfg c) {request : Request} {now : ℕ}
    (alone : Exclusive cfg c (.start id request now)) :
    Orderly cfg (c.start cfg id request now) := by
  unfold Concurrent.start
  cases idle : c.flights id with
  | some flight => exact orderly
  | none =>
      have begun : Begun { c.exchange with now := now }
          (begin cfg request { c.exchange with now := now }).1
          (begin cfg request { c.exchange with now := now }).2 := begin_begun
      have alone : ∀ task s, begin cfg request { c.exchange with now := now } = (some task, s) →
          task.closing.isSome = true → ¬ c.closingAt task.symbol := alone
      rcases result : begin cfg request { c.exchange with now := now } with ⟨_ | task, s⟩
      · rw [result] at begun
        exact orderly.sameBooks begun.tables begun.positions begun.entries
      · rw [result] at begun
        refine (orderly.sameBooks begun.tables begun.positions begun.entries).launch idle ?_
          (alone task s result)
        intro tradeId closing
        obtain ⟨position, held, same⟩ := begun.checked task rfl tradeId closing
        exact ⟨position, (begun.positions _).trans held, same⟩

/-- A task whose transaction failed is gone. -/
theorem Orderly.drop (orderly : Orderly cfg c) {task : Task}
    (flying : c.flights id = some { task := task }) :
    Orderly cfg { c with flights := Function.update c.flights id none } := by
  refine orderly.settle rfl (fun other flight landed => (update_none_eq_some landed).2)
    (fun symbol position held => ?_) (fun other flight landed closing => ?_)
  · refine .inl ⟨position, held, rfl, fun other flight found _ _ committed => ?_⟩
    refine flight_kept (fun same => ?_) found
    rw [same, flying] at found
    obtain rfl := Option.some.inj found
    cases committed
  · exact orderly.closing_entry (update_none_eq_some landed).2 closing

theorem Orderly.fail (orderly : Orderly cfg c) : Orderly cfg (c.fail id) := by
  unfold Concurrent.fail
  split
  · rename_i flying
    exact orderly.drop flying
  · exact orderly

/-! ### Commits -/

section Commit

variable {task : Task} {db : PaperDb}

/-- The closings after the commit of a task that closes nothing were there before. -/
theorem closing_before {tradeId : ℕ} {other : ℕ} {flight : Flight}
    (notClosing : task.closing = none)
    (found : Function.update c.flights id (some { task := task, committed := some tradeId }) other =
      some flight) (closing : flight.task.closing.isSome = true) :
    c.flights other = some flight := by
  rcases update_eq_some_cases found with ⟨-, launched⟩ | ⟨-, found⟩
  · obtain rfl := Option.some.inj launched
    rw [notClosing] at closing
    cases closing
  · exact found

/-- An opening commits: its trade is new to everyone. -/
theorem Orderly.commitOpening (orderly : Orderly cfg c) {t : OrderTicket}
    (flying : c.flights id = some { task := .opens t })
    (free : ∀ tradeId, (cfg.botId, t.symbol, tradeId) ∉ c.exchange.db.keys.rows)
    (keys : db.keys =
      { rows := c.exchange.db.keys.rows ++ [(cfg.botId, t.symbol, c.exchange.db.keys.next)]
        trades := c.exchange.db.keys.trades ++ [(c.exchange.db.keys.next, t.symbol, .isOpen)]
        next := c.exchange.db.keys.next + 1 }) :
    Orderly cfg { c with
      exchange := { c.exchange with db := db }
      flights := Function.update c.flights id
        (some { task := .opens t, committed := some c.exchange.db.keys.next }) } := by
  have notClosing : Task.closing (.opens t) = none := rfl
  constructor
  case keys =>
    show db.keys.Sound cfg.botId
    exact keys ▸ orderly.keys.opened free
  case memory =>
    intro symbol position held
    show position.tradeId < db.keys.next ∧ (_ ∈ db.keys.rows ∨ _)
    rw [keys]
    obtain ⟨drawn, row | ⟨other, flight, found, closing, rest⟩⟩ :=
      orderly.memory symbol position held
    · exact ⟨Nat.lt_succ_of_lt drawn, .inl (List.mem_append_left _ row)⟩
    · exact ⟨Nat.lt_succ_of_lt drawn, .inr ⟨other, flight,
        flight_kept (closing_ne flying notClosing found closing) found, closing, rest⟩⟩
  case closers =>
    intro other flight tradeId found closing
    show tradeId < db.keys.next ∧ _ ∧ (_ → _ ∈ db.keys.rows)
    rw [keys]
    obtain ⟨drawn, entry, row⟩ := orderly.closers other flight tradeId
      (closing_before notClosing found (Option.isSome_of_mem closing)) closing
    exact ⟨Nat.lt_succ_of_lt drawn, entry, fun waiting => List.mem_append_left _ (row waiting)⟩
  case closersApart =>
    intro one flight other flight' found found' closing closing'
    exact orderly.closersApart one flight other flight' (closing_before notClosing found closing)
      (closing_before notClosing found' closing') closing closing'
  case openers =>
    intro other u tradeId found
    show _ ∈ db.keys.rows ∧ _
    rw [keys]
    rcases update_eq_some_cases found with ⟨-, launched⟩ | ⟨-, found⟩
    · cases launched
      refine ⟨List.mem_append_right _ List.mem_cons_self, fun symbol position held same => ?_,
        fun third flight found' closing => ?_⟩
      · exact absurd (orderly.memory symbol position held).1 (same ▸ lt_irrefl _)
      · exact absurd (orderly.closers third flight _
          (closing_before notClosing found' (Option.isSome_of_mem closing)) closing).1
          (lt_irrefl _)
    · obtain ⟨row, unknown, uncaptured⟩ := orderly.openers other u tradeId found
      refine ⟨List.mem_append_left _ row, unknown, fun third flight found' closing => ?_⟩
      exact uncaptured third flight
        (closing_before notClosing found' (Option.isSome_of_mem closing)) closing
  case openersApart =>
    have drawn : ∀ other u tradeId, c.flights other = some ⟨.opens u, some tradeId⟩ →
        tradeId ≠ c.exchange.db.keys.next := by
      rintro other u tradeId found rfl
      obtain ⟨trade, listed, same⟩ := orderly.keys.known _ (orderly.openers other u _ found).1
      exact absurd (orderly.keys.drawn trade listed) (same ▸ lt_irrefl _)
    intro one u other u' tradeId found found'
    rcases update_eq_some_cases found with ⟨rfl, launched⟩ | ⟨-, earlier⟩ <;>
      rcases update_eq_some_cases found' with ⟨rfl, launched'⟩ | ⟨-, earlier'⟩
    · rfl
    · cases launched
      exact absurd rfl (drawn other u' _ earlier')
    · cases launched'
      exact absurd rfl (drawn one u _ earlier)
    · exact orderly.openersApart one u other u' tradeId earlier earlier'
  case closed =>
    intro tradeId closed trade listed same
    change trade ∈ db.keys.trades at listed
    rw [keys] at listed
    rcases List.mem_append.mp listed with listed | listed
    · exact orderly.closed tradeId closed trade listed same
    · have drawn := orderly.closedDrawn tradeId closed
      rw [← same, List.mem_singleton.mp listed] at drawn
      exact absurd drawn (lt_irrefl _)
  case closedDrawn =>
    intro tradeId closed
    show tradeId < db.keys.next
    rw [keys]
    exact Nat.lt_succ_of_lt (orderly.closedDrawn tradeId closed)
  case once =>
    exact orderly.once
  case noKeyErrors =>
    exact orderly.noKeyErrors

/-- What the other flights were before one of them committed. -/
theorem flight_before {tradeId : ℕ} (flying : c.flights id = some { task := task }) {other : ℕ}
    {flight : Flight}
    (found : Function.update c.flights id (some { task := task, committed := some tradeId }) other =
      some flight) :
    ∃ before, c.flights other = some before ∧ before.task = flight.task ∧
      (flight.committed = none → before.committed = none) := by
  rcases update_eq_some_cases found with ⟨rfl, launched⟩ | ⟨-, found⟩
  · obtain rfl := Option.some.inj launched
    exact ⟨_, flying, rfl, fun _ => rfl⟩
  · exact ⟨flight, found, rfl, fun waiting => waiting⟩

theorem opener_before {tradeId tradeId' : ℕ} {t : OrderTicket} (notOpening : ∀ t, task ≠ .opens t)
    {other : ℕ}
    (found : Function.update c.flights id (some { task := task, committed := some tradeId }) other =
      some ⟨.opens t, some tradeId'⟩) : c.flights other = some ⟨.opens t, some tradeId'⟩ := by
  rcases update_eq_some_cases found with ⟨-, launched⟩ | ⟨-, found⟩
  · cases launched
    exact absurd rfl (notOpening t)
  · exact found

/-- A trade that still has its row is open, so it is not among the trades closed before. -/
theorem Orderly.unclosed (orderly : Orderly cfg c) {symbol : String} {tradeId : ℕ}
    (listed : (cfg.botId, symbol, tradeId) ∈ c.exchange.db.keys.rows) : tradeId ∉ c.closings := by
  intro member
  obtain ⟨trade, tradeListed, same⟩ := orderly.keys.known _ listed
  have isOpen := orderly.keys.rowOpen _ listed trade tradeListed same
  have closed := orderly.closed tradeId member trade tradeListed same
  rw [isOpen] at closed
  cases closed

/-- A closing commits: its row goes, and it is the only one that had it. -/
theorem Orderly.commitClosing (orderly : Orderly cfg c) {tradeId : ℕ}
    (flying : c.flights id = some { task := task }) (closing : task.closing = some tradeId)
    (keys : db.keys = c.exchange.db.keys.close cfg.botId task.symbol tradeId) :
    Orderly cfg { c with
      exchange := { c.exchange with db := db }
      flights := Function.update c.flights id (some { task := task, committed := some tradeId })
      closings := c.closings ++ [tradeId] } := by
  have isClosing : task.closing.isSome = true := Option.isSome_of_mem closing
  have notOpening : ∀ t, task ≠ .opens t := by
    rintro t rfl
    cases closing
  obtain ⟨drawnHere, -, listed⟩ := orderly.closers id _ tradeId flying closing
  have listed := listed rfl
  have kept : ∀ symbol other, symbol ≠ task.symbol →
      (cfg.botId, symbol, other) ∈ c.exchange.db.keys.rows → (cfg.botId, symbol, other) ∈
        (c.exchange.db.keys.close cfg.botId task.symbol tradeId).rows := by
    intro symbol other different row
    exact Keys.mem_close_rows.mpr ⟨row, fun same => different same.2⟩
  constructor
  case keys =>
    show db.keys.Sound cfg.botId
    exact keys ▸ orderly.keys.close listed
  case memory =>
    intro symbol position held
    show position.tradeId < db.keys.next ∧ (_ ∈ db.keys.rows ∨ _)
    rw [keys]
    obtain ⟨drawn, row | ⟨other, flight, found, rest⟩⟩ := orderly.memory symbol position held
    · refine ⟨drawn, ?_⟩
      by_cases here : symbol = task.symbol
      · exact .inr ⟨id, _, Function.update_self id _ _, isClosing, here.symm, rfl⟩
      · exact .inl (kept symbol _ here row)
    · refine ⟨drawn, .inr ⟨other, flight, flight_kept (fun same => ?_) found, rest⟩⟩
      rw [same, flying] at found
      obtain rfl := Option.some.inj found
      cases rest.2.2
  case closers =>
    intro other flight captured found closing'
    show captured < db.keys.next ∧ _ ∧ (_ → _ ∈ db.keys.rows)
    rw [keys]
    obtain ⟨before, earlier, same, waiting⟩ := flight_before flying found
    obtain ⟨drawn, entry, row⟩ := orderly.closers other before captured earlier (same ▸ closing')
    rw [same] at entry row
    refine ⟨drawn, entry, fun uncommitted => kept _ _ (fun here => ?_) (row (waiting uncommitted))⟩
    obtain rfl : other = id := orderly.closersApart other before id _ earlier flying
      (same ▸ Option.isSome_of_mem closing') isClosing (same ▸ here)
    rcases update_eq_some_cases found with ⟨-, launched⟩ | ⟨different, -⟩
    · obtain rfl := Option.some.inj launched
      cases uncommitted
    · exact different rfl
  case closersApart =>
    intro one flight other flight' found found' closing closing' here
    obtain ⟨before, earlier, same, -⟩ := flight_before flying found
    obtain ⟨before', earlier', same', -⟩ := flight_before flying found'
    exact orderly.closersApart one before other before' earlier earlier' (same ▸ closing)
      (same' ▸ closing') (same ▸ same' ▸ here)
  case openers =>
    intro other t opened found
    show _ ∈ db.keys.rows ∧ _
    rw [keys]
    obtain ⟨row, unknown, uncaptured⟩ :=
      orderly.openers other t opened (opener_before notOpening found)
    refine ⟨kept _ _ (fun here => ?_) row, unknown, fun third flight found' => ?_⟩
    · have same := orderly.keys.apart _ row _ listed here
      exact uncaptured id _ flying (closing.trans (congrArg some (Prod.mk.inj
        (Prod.mk.inj same).2).2.symm))
    · obtain ⟨before, earlier, same, -⟩ := flight_before flying found'
      exact same ▸ uncaptured third before earlier
  case openersApart =>
    intro one t other t' opened found found'
    exact orderly.openersApart one t other t' opened (opener_before notOpening found)
      (opener_before notOpening found')
  case closed =>
    intro closed member trade tradeListed same
    change trade ∈ db.keys.trades at tradeListed
    rw [keys] at tradeListed
    rcases Keys.mem_close_trades.mp tradeListed with ⟨tradeListed, different⟩ | ⟨_, _, _, rfl⟩
    · rcases List.mem_append.mp member with member | member
      · exact orderly.closed closed member trade tradeListed same
      · exact absurd (same.trans (List.mem_singleton.mp member)) different
    · rfl
  case closedDrawn =>
    intro closed member
    show closed < db.keys.next
    rw [keys]
    rcases List.mem_append.mp member with member | member
    · exact orderly.closedDrawn closed member
    · exact List.mem_singleton.mp member ▸ drawnHere
  case once =>
    exact List.nodup_append.mpr ⟨orderly.once, List.nodup_singleton tradeId,
      fun closed member other here => by
        rintro rfl
        exact orderly.unclosed listed (List.mem_singleton.mp here ▸ member)⟩
  case noKeyErrors =>
    exact orderly.noKeyErrors

/-- A transaction that changes no key commits. -/
theorem Orderly.commitKept (orderly : Orderly cfg c) {tradeId : ℕ}
    (flying : c.flights id = some { task := task }) (notOpening : ∀ t, task ≠ .opens t)
    (notClosing : task.closing = none) (keys : db.keys = c.exchange.db.keys) :
    Orderly cfg { c with
      exchange := { c.exchange with db := db }
      flights := Function.update c.flights id
        (some { task := task, committed := some tradeId }) } := by
  constructor
  case keys =>
    exact keys ▸ orderly.keys
  case memory =>
    intro symbol position held
    show position.tradeId < db.keys.next ∧ (_ ∈ db.keys.rows ∨ _)
    rw [keys]
    obtain ⟨drawn, row | ⟨other, flight, found, closing, rest⟩⟩ :=
      orderly.memory symbol position held
    · exact ⟨drawn, .inl row⟩
    · exact ⟨drawn, .inr ⟨other, flight,
        flight_kept (closing_ne flying notClosing found closing) found, closing, rest⟩⟩
  case closers =>
    intro other flight captured found closing
    exact keys ▸ orderly.closers other flight captured
      (closing_before notClosing found (Option.isSome_of_mem closing)) closing
  case closersApart =>
    intro one flight other flight' found found' closing closing'
    exact orderly.closersApart one flight other flight' (closing_before notClosing found closing)
      (closing_before notClosing found' closing') closing closing'
  case openers =>
    intro other t opened found
    obtain ⟨row, unknown, uncaptured⟩ :=
      orderly.openers other t opened (opener_before notOpening found)
    refine ⟨keys ▸ row, unknown, fun third flight found' closing => ?_⟩
    exact uncaptured third flight
      (closing_before notClosing found' (Option.isSome_of_mem closing)) closing
  case openersApart =>
    intro one t other t' opened found found'
    exact orderly.openersApart one t other t' opened (opener_before notOpening found)
      (opener_before notOpening found')
  case closed =>
    exact keys ▸ orderly.closed
  case closedDrawn =>
    exact keys ▸ orderly.closedDrawn
  case once =>
    exact orderly.once
  case noKeyErrors =>
    exact orderly.noKeyErrors

theorem Orderly.commit (orderly : Orderly cfg c) : Orderly cfg (c.commit cfg id) := by
  unfold Concurrent.commit
  split
  · rename_i task flying
    split
    · rename_i tradeId db committed
      have change := Task.tx_keys committed
      generalize after : db.keys = keys at change
      cases change with
      | opened free =>
          rw [show Task.closing (.opens _) = none from rfl, Option.toList_none, List.append_nil]
          exact orderly.commitOpening flying free after
      | closed closing =>
          rw [closing, Option.toList_some]
          exact orderly.commitClosing flying closing after
      | kept notOpening notClosing =>
          rw [notClosing, Option.toList_none, List.append_nil]
          exact orderly.commitKept flying notOpening notClosing after
    · exact orderly.drop flying
  · exact orderly

end Commit

/-! ### Resumptions -/

section Resume

variable {task : Task} {tradeId : ℕ} {s : PaperExchange}

/-- The closing that deletes an entry is the only one on its symbol, so the entry is there. -/
theorem Orderly.resumeClosing (orderly : Orderly cfg c) (event : ExecutionEvent Uuid)
    (flying : c.flights id = some { task := task, committed := some tradeId })
    (closing : task.closing.isSome = true) :
    ∃ s, deleteEntry task.symbol event c.exchange = some s ∧
      Orderly cfg { c with exchange := s, flights := Function.update c.flights id none } := by
  obtain ⟨entry, found⟩ := Option.ne_none_iff_exists'.mp (orderly.closing_entry flying closing)
  have alone : ∀ other flight, Function.update c.flights id none other = some flight →
      flight.task.closing.isSome = true → flight.task.symbol ≠ task.symbol := by
    intro other flight landed closing' here
    obtain ⟨different, earlier⟩ := update_none_eq_some landed
    exact different (orderly.closersApart other flight id _ earlier flying closing' closing here)
  refine ⟨_, by simp only [deleteEntry, found]; rfl, ?_⟩
  refine orderly.settle rfl (fun other flight landed => (update_none_eq_some landed).2) ?_ ?_
  · intro symbol position held
    have elsewhere : symbol ≠ task.symbol := by
      rintro rfl
      simp [PaperExchange.openPosition] at held
    refine .inl ⟨position, ?_, rfl, fun other flight earlier _ here _ => ?_⟩
    · simpa [PaperExchange.openPosition, elsewhere] using held
    · refine flight_kept (fun same => elsewhere ?_) earlier
      rw [same, flying] at earlier
      exact here ▸ congrArg (·.task.symbol) (Option.some.inj earlier).symm
  · intro other flight landed closing'
    have kept := orderly.closing_entry (update_none_eq_some landed).2 closing'
    simpa [alone other flight landed closing'] using kept

/-- An opening brings its trade to memory; its row is there. -/
theorem Orderly.resumeOpening (orderly : Orderly cfg c) {t : OrderTicket}
    (flying : c.flights id = some { task := .opens t, committed := some tradeId }) :
    Orderly cfg { c with
      exchange := { c.exchange with
        activePositions := Function.update c.exchange.activePositions t.symbol (some
          { position := some (t.position tradeId) })
        executionQueue := c.exchange.executionQueue ++ [t.event] }
      flights := Function.update c.flights id none } := by
  obtain ⟨row, -, -⟩ := orderly.openers id t tradeId flying
  refine orderly.settle rfl (fun other flight landed => (update_none_eq_some landed).2) ?_ ?_
  · intro symbol position held
    by_cases here : symbol = t.symbol
    · subst here
      have same : t.position tradeId = position := by
        simpa [PaperExchange.openPosition] using held
      refine .inr ⟨same ▸ row, fun other u landed => ?_⟩
      obtain ⟨different, earlier⟩ := update_none_eq_some landed
      rw [← same] at earlier
      exact different (orderly.openersApart other u id t tradeId earlier flying)
    · refine .inl ⟨position, ?_, rfl, fun other flight earlier closing _ _ => ?_⟩
      · simpa [PaperExchange.openPosition, here] using held
      · exact flight_kept (closing_ne flying rfl earlier closing) earlier
  · intro other flight landed closing
    have kept := orderly.closing_entry (update_none_eq_some landed).2 closing
    by_cases here : flight.task.symbol = t.symbol
    · simp [here]
    · simpa [here] using kept

/-- Any other task changes no trade of memory. -/
theorem Orderly.resumeKept (orderly : Orderly cfg c)
    (flying : c.flights id = some { task := task, committed := some tradeId })
    (notClosing : task.closing = none) (tables : s.db = c.exchange.db)
    (known : ∀ symbol position, s.openPosition symbol = some position →
      ∃ before, c.exchange.openPosition symbol = some before ∧ before.tradeId = position.tradeId)
    (entries : ∀ symbol, c.exchange.activePositions symbol ≠ none →
      s.activePositions symbol ≠ none) :
    Orderly cfg { c with exchange := s, flights := Function.update c.flights id none } := by
  refine orderly.settle tables (fun other flight landed => (update_none_eq_some landed).2) ?_ ?_
  · intro symbol position held
    obtain ⟨before, heldBefore, same⟩ := known symbol position held
    exact .inl ⟨before, heldBefore, same, fun other flight earlier closing _ _ =>
      flight_kept (closing_ne flying notClosing earlier closing) earlier⟩
  · intro other flight landed closing
    exact entries _ (orderly.closing_entry (update_none_eq_some landed).2 closing)

theorem reduceEntry_cases (leg : ExitLeg) (position : OpenPosition)
    (active : String → Option ActivePosition) :
    reduceEntry leg position active = active ∨
      ∃ stops current stops' reduced, active leg.symbol = some ⟨stops, some current⟩ ∧
        reduced.tradeId = current.tradeId ∧ reduceEntry leg position active =
          Function.update active leg.symbol (some ⟨stops', some reduced⟩) := by
  unfold reduceEntry
  split
  · rename_i stops current entry
    split
    · exact .inr ⟨stops, current, { stops with slType := .trail },
        { current with
          qty := position.qty - leg.qty, feesPaid := position.feesPaid + leg.fee,
          realizedPnl := position.realizedPnl + leg.partialPnl position, tpHit := true },
        entry, rfl, rfl⟩
    · exact .inl rfl
  · exact .inl rfl

theorem reduceEntry_known {leg : ExitLeg} {position : OpenPosition}
    {active : String → Option ActivePosition} {symbol : String} {after : OpenPosition}
    (held : (reduceEntry leg position active symbol).bind (·.position) = some after) :
    ∃ before, (active symbol).bind (·.position) = some before ∧
      before.tradeId = after.tradeId := by
  rcases reduceEntry_cases leg position active with
    same | ⟨stops, current, stops', reduced, entry, sameTrade, written⟩
  · exact ⟨after, same ▸ held, rfl⟩
  · rw [written] at held
    by_cases here : symbol = leg.symbol
    · subst here
      have same : reduced = after := by simpa using held
      exact ⟨current, by simp [entry], same ▸ sameTrade.symm⟩
    · exact ⟨after, by simpa [here] using held, rfl⟩

theorem reduceEntry_entries {leg : ExitLeg} {position : OpenPosition}
    {active : String → Option ActivePosition} {symbol : String} (present : active symbol ≠ none) :
    reduceEntry leg position active symbol ≠ none := by
  rcases reduceEntry_cases leg position active with
    same | ⟨stops, current, stops', reduced, -, -, written⟩
  · rw [same]
    exact present
  · rw [written]
    by_cases here : symbol = leg.symbol
    · simp [here]
    · simpa [here] using present

theorem Orderly.resume (orderly : Orderly cfg c) : Orderly cfg (c.resume cfg id) := by
  unfold Concurrent.resume
  split
  · rename_i task tradeId flying
    cases task with
    | opens t => exact orderly.resumeOpening flying
    | closes t existing =>
        obtain ⟨s, deleted, after⟩ := orderly.resumeClosing t.event flying rfl
        simp only [Task.symbol] at deleted
        simpa only [Task.resume, deleted] using after
    | drainsPartial fill position uuid =>
        refine orderly.resumeKept flying rfl rfl (fun symbol after held => ?_)
          (fun symbol present => reduceEntry_entries present)
        exact reduceEntry_known held
    | drainsFull fill position uuid =>
        obtain ⟨s, deleted, after⟩ := orderly.resumeClosing
          ((fill.leg cfg).event uuid) flying rfl
        simp only [Task.symbol] at deleted
        simpa only [Task.resume, deleted] using after
    | restops symbol slPrice tpPrice =>
        exact orderly.resumeKept flying rfl rfl (fun _ position held => ⟨position, held, rfl⟩)
          (fun _ present => present)
  · exact orderly

end Resume

theorem Orderly.move (orderly : Orderly cfg c) (m : Move) (exclusive : Exclusive cfg c m) :
    Orderly cfg (Paper.move cfg m c) := by
  cases m with
  | start id request now => exact orderly.start exclusive
  | commit id => exact orderly.commit
  | fail id => exact orderly.fail
  | resume id => exact orderly.resume

theorem Orderly.closedOnce (orderly : Orderly cfg c) : ClosedOnce c := by
  refine ⟨fun tradeId => List.nodup_iff_count_le_one.mp orderly.once tradeId,
    orderly.noKeyErrors, ?_⟩
  intro trade listed other otherListed isOpen otherOpen same
  have row := orderly.keys.openRow (trade.id, trade.symbol, trade.status)
    (List.mem_map.mpr ⟨trade, listed, rfl⟩) isOpen
  have otherRow := orderly.keys.openRow (other.id, other.symbol, other.status)
    (List.mem_map.mpr ⟨other, otherListed, rfl⟩) otherOpen
  have equal := orderly.keys.apart _ row _ otherRow same
  exact (Prod.mk.inj (Prod.mk.inj equal).2).2

end Moves

/-! ## Operations that are not interrupted -/

section Uninterrupted

variable {cfg : Config} {c : Concurrent} {id now : ℕ}

/-- An operation whose moves follow each other. -/
def uninterrupted (id : ℕ) (request : Request) (now : ℕ) : TxOutcome → List Move
  | .commits => [.start id request now, .commit id, .resume id]
  | .fails => [.start id request now, .fail id]

/-- The adapter after an operation that nothing interrupts: nothing more than its beginning
without a transaction; else the tables of its transaction and the memory it leaves. -/
def finish (cfg : Config) (outcome : TxOutcome) : Option Task × PaperExchange → PaperExchange
  | (none, s) => s
  | (some task, s) =>
      match outcome, task.tx cfg s.db with
      | .commits, .ok (tradeId, db) =>
          (task.resume cfg tradeId { s with db := db }).getD { s with db := db }
      | _, _ => s

theorem run_uninterrupted (idle : c.flights id = none) (request : Request) (outcome : TxOutcome) :
    (run (move cfg) c (uninterrupted id request now outcome)).exchange =
      finish cfg outcome (begin cfg request { c.exchange with now := now }) := by
  rcases begun : begin cfg request { c.exchange with now := now } with ⟨_ | task, s⟩
  · cases outcome <;>
      simp [uninterrupted, move, Concurrent.start, Concurrent.commit, Concurrent.fail,
        Concurrent.resume, idle, begun, finish]
  · cases outcome with
    | fails =>
        simp [uninterrupted, move, Concurrent.start, Concurrent.fail, idle, begun, finish]
    | commits =>
        rcases result : task.tx cfg s.db with raised | ⟨tradeId, db⟩
        · simp [uninterrupted, move, Concurrent.start, Concurrent.commit, Concurrent.resume, idle,
            begun, result, finish]
        · cases resumed : task.resume cfg tradeId { s with db := db } <;>
            simp [uninterrupted, move, Concurrent.start, Concurrent.commit, Concurrent.resume,
              idle, begun, result, resumed, finish]

theorem transaction_outcome {α : Type} (body : Tx α) (s : PaperExchange) (outcome : TxOutcome) :
    transaction body { s with dbOutcomes := [outcome] } =
      match outcome, body s.db with
      | .commits, .ok (result, db) => (.ok result, { s with db := db, dbOutcomes := [] })
      | .commits, .error e => (.error e, { s with dbOutcomes := [] })
      | .fails, _ => (.error .databaseError, { s with dbOutcomes := [] }) := by
  cases outcome with
  | fails => rfl
  | commits =>
      unfold transaction
      simp only
      rcases body s.db with raised | ⟨result, db⟩ <;> rfl

theorem finish_opens {t : OrderTicket} {s : PaperExchange} (vacant : s.openPosition t.symbol = none)
    (outcome : TxOutcome) :
    (finish cfg outcome (some (.opens t), s)).books =
      (persistOpen cfg t { s with dbOutcomes := [outcome] }).2.books := by
  have vacant' : PaperExchange.openPosition { s with dbOutcomes := [outcome] } t.symbol = none :=
    vacant
  simp only [finish, persistOpen, vacant', transaction_outcome, Task.tx]
  cases outcome with
  | fails => rfl
  | commits => rcases openTx cfg t s.db with raised | ⟨tradeId, db⟩ <;> rfl

theorem finish_closes {t : OrderTicket} {existing : OpenPosition} {s : PaperExchange}
    (held : s.openPosition t.symbol = some existing) (outcome : TxOutcome) :
    (finish cfg outcome (some (.closes t existing), s)).books =
      (persistClose cfg t { s with dbOutcomes := [outcome] }).2.books := by
  have held' : PaperExchange.openPosition { s with dbOutcomes := [outcome] } t.symbol =
    some existing := held
  obtain ⟨entry, found⟩ : ∃ entry, s.activePositions t.symbol = some entry := by
    cases found : s.activePositions t.symbol with
    | none => simp [PaperExchange.openPosition, found] at held
    | some entry => exact ⟨entry, rfl⟩
  simp only [finish, persistClose, held', transaction_outcome, Task.tx]
  cases outcome with
  | fails => rfl
  | commits =>
      simp only [bind, StateT.bind, Except.bind]
      rcases closeTx cfg t _ _ _ s.db with raised | ⟨⟨⟩, db⟩
      · rfl
      · simp only [pure_apply, Task.resume, deleteEntry, found]
        rfl

theorem placeMarketOrder_snd {symbol : String} {side : Side} {qty lastPrice : ℚ}
    {reduceOnly : Bool} {lastCandle : Candle} {s : PaperExchange}
    (price : s.lastPrice symbol = some lastPrice) (seen : s.lastCandle symbol = some lastCandle) :
    (placeMarketOrder cfg symbol side qty reduceOnly s).2 =
      if reduceOnly then
        (persistClose cfg (marketTicket cfg symbol side qty lastPrice lastCandle s)
          { s with uuids := s.uuids + 1 }).2
      else
        (persistOpen cfg (marketTicket cfg symbol side qty lastPrice lastCandle s)
          { s with uuids := s.uuids + 1 }).2 := by
  simp only [placeMarketOrder, price, seen]
  cases reduceOnly with
  | true =>
      simp only [if_true]
      rcases persistClose cfg _ _ with ⟨_ | _, _⟩ <;> rfl
  | false =>
      simp only [Bool.false_eq_true, if_false]
      rcases persistOpen cfg _ _ with ⟨_ | _, _⟩ <;> rfl

variable (cfg) in
theorem persistOpen_held {t : OrderTicket} {existing : OpenPosition} {s : PaperExchange}
    (held : s.openPosition t.symbol = some existing) : (persistOpen cfg t s).2 = s := by
  simp only [persistOpen, held]

variable (cfg) in
theorem persistClose_vacant {t : OrderTicket} {s : PaperExchange}
    (vacant : s.openPosition t.symbol = none) : (persistClose cfg t s).2 = s := by
  simp only [persistClose, vacant]

theorem finish_order (symbol : String) (side : Side) (qty : ℚ) (reduceOnly : Bool)
    (outcome : TxOutcome) (s : PaperExchange) :
    (finish cfg outcome (beginOrder cfg symbol side qty reduceOnly s)).books =
      (placeMarketOrder cfg symbol side qty reduceOnly
        { s with dbOutcomes := [outcome] }).2.books := by
  cases price : s.lastPrice symbol with
  | none => simp [beginOrder, placeMarketOrder, price, finish, PaperExchange.books]
  | some lastPrice =>
      cases seen : s.lastCandle symbol with
      | none => simp [beginOrder, placeMarketOrder, price, seen, finish, PaperExchange.books]
      | some lastCandle =>
          rw [placeMarketOrder_snd (s := { s with dbOutcomes := [outcome] }) price seen]
          simp only [beginOrder, price, seen]
          cases held : s.openPosition symbol with
          | none =>
              cases reduceOnly with
              | false =>
                  exact finish_opens (s := { s with uuids := s.uuids + 1 })
                    (t := marketTicket cfg symbol side qty lastPrice lastCandle s) held outcome
              | true =>
                  have rejected := persistClose_vacant cfg
                    (s := { s with dbOutcomes := [outcome], uuids := s.uuids + 1 })
                    (t := marketTicket cfg symbol side qty lastPrice lastCandle s) held
                  exact (congrArg PaperExchange.books rejected).symm
          | some existing =>
              cases reduceOnly with
              | false =>
                  have rejected := persistOpen_held cfg
                    (s := { s with dbOutcomes := [outcome], uuids := s.uuids + 1 })
                    (t := marketTicket cfg symbol side qty lastPrice lastCandle s) held
                  exact (congrArg PaperExchange.books rejected).symm
              | true =>
                  exact finish_closes (s := { s with uuids := s.uuids + 1 })
                    (t := marketTicket cfg symbol side qty lastPrice lastCandle s) held outcome

/-- **Run without interruption, `place_market_order` is the adapter's own.** -/
theorem uninterrupted_order (idle : c.flights id = none) (symbol : String) (side : Side) (qty : ℚ)
    (reduceOnly : Bool) (outcome : TxOutcome) :
    (run (move cfg) c
        (uninterrupted id (.order symbol side qty reduceOnly) now outcome)).exchange.books =
      (placeMarketOrder cfg symbol side qty reduceOnly
        { c.exchange with now := now, dbOutcomes := [outcome] }).2.books := by
  rw [run_uninterrupted idle]
  exact finish_order symbol side qty reduceOnly outcome { c.exchange with now := now }

theorem reduceEntry_found {leg : ExitLeg} {stops : TradingStops} {position : OpenPosition}
    {active : String → Option ActivePosition}
    (found : active leg.symbol = some ⟨stops, some position⟩) :
    reduceEntry leg position active = Function.update active leg.symbol (some
      { stops := { stops with slType := .trail }, position := some (position.reduce leg) }) := by
  simp only [reduceEntry, found, if_true, OpenPosition.reduce]

theorem finish_drain {fill : PendingSLTPFill} {stops : TradingStops} {position : OpenPosition}
    {s : PaperExchange}
    (found : s.activePositions fill.symbol = some ⟨stops, some position⟩)
    (sameSide : fill.side = position.side) (outcome : TxOutcome) :
    (finish cfg outcome
        (some (drainTask fill position s.uuids), { s with uuids := s.uuids + 1 })).books =
      (drainSlTpFill cfg fill { s with dbOutcomes := [outcome] }).2.books := by
  have event : (fill.leg cfg).event s.uuids =
      { exchangeExecId := s.uuids, exchangeOrderId := s.uuids, symbol := fill.symbol,
        side := position.side.opposite, price := fill.triggerPrice, qty := fill.qty,
        fee := computeFee fill.qty fill.triggerPrice cfg.feeRate,
        executedAt := fill.triggeredAt } := by
    simp [ExitLeg.event, PendingSLTPFill.leg, sameSide]
  unfold drainTask drainSlTpFill
  split
  · simp only [drainPartialTp, found]
    rw [transaction_outcome _ { s with uuids := s.uuids + 1 } outcome]
    simp only [finish, Task.tx]
    cases outcome with
    | fails => rfl
    | commits =>
        simp only [bind, StateT.bind, Except.bind]
        rcases partialTpTx cfg fill _ _ _ _ s.db with raised | ⟨⟨⟩, db⟩
        · rfl
        · simp only [pure_apply, Task.resume, event]
          rw [reduceEntry_found found]
          rfl
  · simp only [drainFullClose, found]
    rw [transaction_outcome _ { s with uuids := s.uuids + 1 } outcome]
    simp only [finish, Task.tx]
    cases outcome with
    | fails => rfl
    | commits =>
        simp only [bind, StateT.bind, Except.bind]
        rcases fullCloseTx cfg fill _ _ _ s.db with raised | ⟨⟨⟩, db⟩
        · rfl
        · simp only [pure_apply, Task.resume, deleteEntry, found, event]
          rfl

theorem drainLoop_books (fill : PendingSLTPFill) (s : PaperExchange) :
    (drainLoop cfg [fill] s).2.books =
      (drainSlTpFill cfg fill { s with pendingSlTpFills := [] }).2.books := by
  simp only [drainLoop]
  rcases drainSlTpFill cfg fill _ with ⟨_ | _, _⟩ <;> rfl

theorem finish_candle (candle : Candle) (outcome : TxOutcome) {s : PaperExchange}
    (empty : s.pendingSlTpFills = []) :
    (finish cfg outcome (beginCandle candle s)).books =
      (onCandle cfg candle { s with dbOutcomes := [outcome] }).2.books := by
  unfold beginCandle onCandle
  split
  · dsimp only
    rw [show PaperExchange.cacheCandle { s with dbOutcomes := [outcome] } candle =
      { s.cacheCandle candle with dbOutcomes := [outcome] } from rfl]
    have empty : (s.cacheCandle candle).pendingSlTpFills = [] := empty
    generalize s.cacheCandle candle = s at empty
    cases found : s.activePositions candle.symbol with
    | none =>
        rw [checkAndDrain_unheld (s := { s with dbOutcomes := [outcome] }) _ _ empty
          (by simp [PaperExchange.openPosition, found])]
        rfl
    | some active =>
        obtain ⟨stops, _ | position⟩ := active
        · rw [checkAndDrain_unheld (s := { s with dbOutcomes := [outcome] }) _ _ empty
            (by simp [PaperExchange.openPosition, found])]
          rfl
        · cases crossed : detectCross ⟨stops, some position⟩ candle.symbol candle.low candle.high
              s.now with
          | error e =>
              simp only [checkAndDrain, enqueueCross, found, crossed]
              rfl
          | ok detected =>
              cases detected with
              | none =>
                  simp only [checkAndDrain, enqueueCross, found, crossed, empty, drainLoop]
                  rfl
              | some fill =>
                  simp only [checkAndDrain, enqueueCross, found, crossed, empty, List.nil_append]
                  have fillOf := crossed_of_detectCross crossed
                  rw [drainLoop_books]
                  exact finish_drain (s := { s with pendingSlTpFills := [] })
                    (fillOf.symbol_eq ▸ found) fillOf.side_eq outcome
  · rfl

/-- **Run without interruption, `_on_candle` is the adapter's own.** -/
theorem uninterrupted_candle (idle : c.flights id = none)
    (empty : c.exchange.pendingSlTpFills = []) (candle : Candle) (outcome : TxOutcome) :
    (run (move cfg) c (uninterrupted id (.candle candle) now outcome)).exchange.books =
      (onCandle cfg candle
        { c.exchange with now := now, dbOutcomes := [outcome] }).2.books := by
  rw [run_uninterrupted idle]
  exact finish_candle candle outcome (s := { c.exchange with now := now }) empty

end Uninterrupted

/-- **Closings that exclude each other are made once.**  In every schedule that starts no
closing of a symbol while another closing of it is under way, every trade is closed once at
most, no operation fails on a missing entry and no symbol has two open trades, however the
operations are interleaved and whichever transactions fail. -/
theorem run_closedOnce (cfg : Config) (moves : List Move)
    (exclusive : RunGuarded (Exclusive cfg) (move cfg) {} moves) :
    ClosedOnce (run (move cfg) {} moves) :=
  (run_invariant (Orderly cfg) (fun _ m orderly alone => orderly.move m alone)
    (Orderly.initial cfg) exclusive).closedOnce

/-- A bot buys and sets a stop; a second opening that was begun meanwhile is refused. -/
def openedOnce : List Move :=
  uninterrupted 0 (.candle (btcCandle 100 101 99 100)) 1 .commits ++
  [.start 0 (.order "BTCUSDT" .buy 1 false) 2, .start 1 (.order "BTCUSDT" .buy 2 false) 2,
    .commit 0, .commit 1, .resume 0] ++
  uninterrupted 0 (.stop "BTCUSDT" .Full (some 95) none none none) 3 .commits

/-- With two tasks none of which is a closing, anything may start. -/
theorem exclusive_of_two {cfg : Config} {c : Concurrent} {m : Move}
    (beyond : ∀ n, c.flights (n + 2) = none)
    (first : (c.flights 0).all (·.task.closing.isNone) = true)
    (second : (c.flights 1).all (·.task.closing.isNone) = true) : Exclusive cfg c m := by
  have none_closing : ∀ symbol, ¬ c.closingAt symbol := by
    rintro symbol ⟨id, flight, found, closing, -⟩
    match id with
    | 0 => simp [found, Option.isNone_iff_eq_none] at first; simp [first] at closing
    | 1 => simp [found, Option.isNone_iff_eq_none] at second; simp [second] at closing
    | n + 2 => rw [beyond n] at found; cases found
  cases m with
  | start id request now => exact fun task _ _ _ => none_closing task.symbol
  | _ => trivial

/-- The position is closed by order, and a candle passes the stop afterwards. -/
theorem openedOnce_closedOnce :
    ClosedOnce (run (move plainConfig) {} (openedOnce ++
      uninterrupted 0 (.order "BTCUSDT" .sell 1 true) 4 .commits ++
      uninterrupted 1 (.candle (btcCandle 96 97 90 91)) 5 .commits)) := by
  refine run_closedOnce plainConfig _
    ⟨?candle, trivial, trivial, ?buys, ?buysToo, trivial, trivial, trivial, ?stop, trivial, trivial,
      ?sells, trivial, trivial, ?passes, trivial, trivial, trivial⟩
  all_goals exact exclusive_of_two (fun _ => rfl) (by decide +kernel) (by decide +kernel)

/-- The position is closed by order while a candle crosses the stop. -/
def crossedClosings : List Move :=
  openedOnce ++
  [.start 0 (.order "BTCUSDT" .sell 1 true) 4, .start 1 (.candle (btcCandle 96 97 90 91)) 5,
    .commit 0, .commit 1, .resume 0, .resume 1]

/-- The same, with the symbol reopened before the candle's transaction and once more after it. -/
def reopenedMeanwhile : List Move :=
  openedOnce ++
  [.start 0 (.order "BTCUSDT" .sell 1 true) 4, .start 1 (.candle (btcCandle 96 97 90 91)) 5,
    .commit 0, .resume 0] ++
  uninterrupted 0 (.order "BTCUSDT" .buy 1 false) 6 .commits ++
  [.commit 1, .resume 1] ++
  uninterrupted 0 (.order "BTCUSDT" .buy 1 false) 7 .commits

/-- Both closings saw the position: the trade is closed twice, and the candle handler fails on
the entry the order has deleted.  Where the symbol was reopened meanwhile, the handler deletes
the row and the entry of the new trade instead, and the next opening makes a second open trade. -/
theorem crossedClosings_closedTwice :
    (run (move plainConfig) {} crossedClosings).closings = [1, 1] ∧
      (run (move plainConfig) {} crossedClosings).keyErrors = ["BTCUSDT"] ∧
      ((run (move plainConfig) {} reopenedMeanwhile).exchange.db.trades.filter
        (·.status = .isOpen)).map (fun trade => (trade.id, trade.symbol)) =
          [(2, "BTCUSDT"), (3, "BTCUSDT")] ∧
      ¬ ∀ moves, ClosedOnce (run (move plainConfig) {} moves) := by
  have keyErrors : (run (move plainConfig) {} crossedClosings).keyErrors = ["BTCUSDT"] := by
    decide +kernel
  refine ⟨by decide +kernel, keyErrors, by decide +kernel, fun always => ?_⟩
  rw [(always crossedClosings).noKeyErrors] at keyErrors
  cases keyErrors

end Scalper.Paper
