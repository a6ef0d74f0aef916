import Scalper.Execution.Placement
import Scalper.Lib.Run
import Scalper.Paper.Books
import Scalper.Strategy.TradeTables

/-!
# The cap on open trades

`services/strategy_engine/app/concurrent_caps_gate.py` with the path of a signal from the gate to
its trade.  The gate counts the open trades there are; a signal it lets through passes the other
gates and the scoring, becomes an order request on the bus, and is placed by the execution service,
whose transaction is the first the gate can count.  `capsStep` takes these in any order, for any
number of signals, with anything else that opens no trade of the bot happening to the tables.

A signal that was let through and has no trade yet is not counted, so the cap alone does not bound
the open trades (`cap_exceeded`).  They exceed it at most by the number of such signals that
another one found in flight when it was let through (`run_openTrades_le`), and some run does exceed
it by so many (`exists_run_openTrades_eq`).  Of what the services commit, only the placement of an
order of the bot opens a trade of the bot, and each placement at most one
(`openTrades_step_le`, `openTrades_handle_le`, `openTrades_entry_le`).
-/

set_option autoImplicit false

namespace Scalper.Strategy

open Scalper.Lib Scalper.Execution Scalper.Scoring

/-! ## The gate -/

/-- The cap that blocks. -/
inductive CapReason where
  | maxOpenTradesPerBot
  | maxOpenTradesGlobal
  deriving DecidableEq, Repr

/-- `CapsDecision`. -/
structure CapsDecision where
  blocked : Bool
  reason : Option CapReason
  currentCount : Option ℕ
  capLimit : Option ℕ
  deriving DecidableEq, Repr

/-- `_NOT_BLOCKED`. -/
def CapsDecision.notBlocked : CapsDecision := ⟨false, none, none, none⟩

/-- The bot whose signals the gate is asked for. -/
structure CapsSettings where
  botId : String
  exchangeMode : ExchangeMode
  risk : RiskSection

section Gate

variable (settings : CapsSettings) (tables : TradeTables)

/-- The table the gate counts in. -/
def CapsSettings.table : TradeTableName := tradeTableName settings.exchangeMode

/-- The open trades of the bot. -/
def CapsSettings.openTrades : ℕ := countOpenTrades (tables.rows settings.table) (some settings.botId)

/-- The open trades of all bots in the table. -/
def CapsSettings.openTradesGlobal : ℕ := countOpenTrades (tables.rows settings.table) none

/-- The count of the bot blocks. -/
def CapsSettings.PerBotFull : Prop :=
  0 < settings.risk.maxOpenTradesPerBot ∧
    settings.risk.maxOpenTradesPerBot ≤ settings.openTrades tables

/-- The count of all bots blocks. -/
def CapsSettings.GlobalFull : Prop :=
  0 < settings.risk.maxOpenTradesGlobal ∧
    settings.risk.maxOpenTradesGlobal ≤ settings.openTradesGlobal tables

instance : Decidable (settings.PerBotFull tables) := inferInstanceAs (Decidable (_ ∧ _))

instance : Decidable (settings.GlobalFull tables) := inferInstanceAs (Decidable (_ ∧ _))

/-- `check_concurrent_caps`, on the tables as either count finds them. -/
def checkConcurrentCaps (atPerBot atGlobal : TradeTables) : CapsDecision :=
  if settings.risk.maxOpenTradesPerBot = 0 ∧ settings.risk.maxOpenTradesGlobal = 0 then .notBlocked
  else if settings.PerBotFull atPerBot then
    ⟨true, some .maxOpenTradesPerBot, some (settings.openTrades atPerBot),
      some settings.risk.maxOpenTradesPerBot⟩
  else if settings.GlobalFull atGlobal then
    ⟨true, some .maxOpenTradesGlobal, some (settings.openTradesGlobal atGlobal),
      some settings.risk.maxOpenTradesGlobal⟩
  else .notBlocked

/-- The gate blocks where one of its counts does. -/
theorem checkConcurrentCaps_blocked_iff {settings : CapsSettings}
    {atPerBot atGlobal : TradeTables} :
    (checkConcurrentCaps settings atPerBot atGlobal).blocked = true ↔
      settings.PerBotFull atPerBot ∨ settings.GlobalFull atGlobal := by
  unfold checkConcurrentCaps
  split_ifs with disabled perBot global
  · refine iff_of_false Bool.false_ne_true ?_
    rintro (⟨enabled, _⟩ | ⟨enabled, _⟩)
    · exact enabled.ne' disabled.1
    · exact enabled.ne' disabled.2
  · exact iff_of_true rfl (.inl perBot)
  · exact iff_of_true rfl (.inr global)
  · exact iff_of_false Bool.false_ne_true (not_or.mpr ⟨perBot, global⟩)

end Gate

/-! ## From the gate to the trade -/

/-- Where a signal is that the gate has not blocked and that has no trade yet. -/
inductive CapsStage where
  /-- The count of the bot let it through; that of all bots is still to come. -/
  | counted
  /-- The gate let it through. -/
  | admitted
  /-- Its order request is on the bus or being placed. -/
  | requested
  deriving DecidableEq, Repr

/-- The tables, and the signals under way. -/
structure CapsState where
  tables : TradeTables
  inFlight : List CapsStage := []
  deriving DecidableEq, Repr

/-- A step of a signal or of a trade. -/
inductive CapsStep where
  /-- A signal reaches the gate, and the open trades of the bot are counted. -/
  | arrives
  /-- The open trades of all bots are counted for a signal. -/
  | countsGlobal (signal : ℕ)
  /-- A signal has passed the other gates and the scoring, and its request is published. -/
  | requests (signal : ℕ)
  /-- A signal is blocked or rejected later, or its request is lost or not placed. -/
  | drops (signal : ℕ)
  /-- The placement of a signal's request is committed, with a trade of this number. -/
  | commits (signal tradeId : ℕ)
  /-- Anything else that happens to the tables; it opens no trade of the bot. -/
  | others (tables : TradeTables)
  deriving DecidableEq, Repr

/-- Append a row to a table. -/
def TradeTables.insert (tables : TradeTables) (row : TradeRecord) : TradeTableName → TradeTables
  | .trades => { tables with trades := tables.trades ++ [row] }
  | .paperTrades => { tables with paperTrades := tables.paperTrades ++ [row] }

def capsStep (settings : CapsSettings) : CapsStep → CapsState → CapsState
  | .arrives, s =>
      if settings.PerBotFull s.tables then s else { s with inFlight := s.inFlight ++ [.counted] }
  | .countsGlobal i, s =>
      match s.inFlight[i]? with
      | some .counted =>
          if settings.GlobalFull s.tables then { s with inFlight := s.inFlight.eraseIdx i }
          else { s with inFlight := s.inFlight.set i .admitted }
      | _ => s
  | .requests i, s =>
      match s.inFlight[i]? with
      | some .admitted => { s with inFlight := s.inFlight.set i .requested }
      | _ => s
  | .drops i, s => { s with inFlight := s.inFlight.eraseIdx i }
  | .commits i tradeId, s =>
      match s.inFlight[i]? with
      | some .requested =>
          { tables := s.tables.insert
              { id := tradeId, botId := settings.botId, status := .isOpen } settings.table
            inFlight := s.inFlight.eraseIdx i }
      | _ => s
  | .others tables, s =>
      if settings.openTrades tables ≤ settings.openTrades s.tables then { s with tables := tables }
      else s

/-- A signal that the count of the bot lets through finds at most so many in flight. -/
def FewInFlight (settings : CapsSettings) (k : ℕ) (s : CapsState) (step : CapsStep) : Prop :=
  step = .arrives → ¬settings.PerBotFull s.tables → s.inFlight.length ≤ k

instance (settings : CapsSettings) (k : ℕ) (s : CapsState) (step : CapsStep) :
    Decidable (FewInFlight settings k s step) :=
  inferInstanceAs (Decidable (_ → _ → _))

section Runs

variable {settings : CapsSettings} {k : ℕ} {s : CapsState} {steps : List CapsStep}

theorem TradeTables.rows_insert (tables : TradeTables) (row : TradeRecord)
    (table : TradeTableName) : (tables.insert row table).rows table = tables.rows table ++ [row] := by
  cases table <;> rfl

theorem openTrades_insert (tables : TradeTables) (tradeId : ℕ) :
    settings.openTrades (tables.insert
      { id := tradeId, botId := settings.botId, status := .isOpen } settings.table) =
      settings.openTrades tables + 1 := by
  simp [CapsSettings.openTrades, countOpenTrades, TradeTables.rows_insert]

/-- The open trades of the bot and the signals on their way to one. -/
def CapsSettings.exposure (settings : CapsSettings) (s : CapsState) : ℕ :=
  settings.openTrades s.tables + s.inFlight.length

/-- Only a signal that the count lets through adds to the exposure, and only one. -/
theorem exposure_step_le (step : CapsStep) :
    settings.exposure (capsStep settings step s) ≤ settings.exposure s ∨
      step = .arrives ∧ ¬settings.PerBotFull s.tables ∧
        settings.exposure (capsStep settings step s) = settings.exposure s + 1 := by
  cases step with
  | arrives =>
      by_cases full : settings.PerBotFull s.tables
      · exact .inl (by simp [capsStep, full])
      · exact .inr ⟨rfl, full, by simp [capsStep, full, CapsSettings.exposure, add_assoc]⟩
  | countsGlobal i =>
      refine .inl ?_
      simp only [capsStep]
      split
      · split_ifs
        · exact Nat.add_le_add_left (List.length_eraseIdx_le _ _) _
        · simp [CapsSettings.exposure]
      · exact le_rfl
  | requests i =>
      refine .inl ?_
      simp only [capsStep]
      split
      · simp [CapsSettings.exposure]
      · exact le_rfl
  | drops i => exact .inl (Nat.add_le_add_left (List.length_eraseIdx_le _ _) _)
  | commits i tradeId =>
      refine .inl ?_
      simp only [capsStep]
      split
      · next found =>
          obtain ⟨inside, _⟩ := List.getElem?_eq_some_iff.mp found
          simp only [CapsSettings.exposure, openTrades_insert, List.length_eraseIdx_of_lt inside]
          omega
      · exact le_rfl
  | others tables =>
      refine .inl ?_
      simp only [capsStep]
      split_ifs with fewer
      · exact Nat.add_le_add_right fewer _
      · exact le_rfl

/-- What a signal adds stays within the cap and the signals it found in flight. -/
theorem exposure_step (capped : 0 < settings.risk.maxOpenTradesPerBot)
    (bounded : settings.exposure s ≤ settings.risk.maxOpenTradesPerBot + k) {step : CapsStep}
    (few : FewInFlight settings k s step) :
    settings.exposure (capsStep settings step s) ≤ settings.risk.maxOpenTradesPerBot + k := by
  have split : settings.exposure (capsStep settings step s) ≤ settings.exposure s ∨
      step = .arrives ∧ ¬settings.PerBotFull s.tables ∧
        settings.exposure (capsStep settings step s) = settings.exposure s + 1 :=
    exposure_step_le step
  rcases split with less | ⟨rfl, notFull, more⟩
  · exact less.trans bounded
  · have behind : s.inFlight.length ≤ k := few rfl notFull
    have below : settings.openTrades s.tables < settings.risk.maxOpenTradesPerBot :=
      not_le.mp fun full => notFull ⟨capped, full⟩
    rw [more]
    simp only [CapsSettings.exposure]
    omega

/-- **The bot's open trades exceed the cap at most by the signals in flight**: where every signal
that is let through finds at most `k` others on their way to a trade, a bot that starts within its
cap never has more than `k` open trades beyond it, and none beyond it where each signal is settled
before the next is counted. -/
theorem run_openTrades_le (capped : 0 < settings.risk.maxOpenTradesPerBot) {start : TradeTables}
    (within : settings.openTrades start ≤ settings.risk.maxOpenTradesPerBot)
    (few : RunGuarded (FewInFlight settings k) (capsStep settings) { tables := start } steps) :
    settings.openTrades (run (capsStep settings) { tables := start } steps).tables ≤
      settings.risk.maxOpenTradesPerBot + k := by
  have bounded := run_invariant
    (fun s => settings.exposure s ≤ settings.risk.maxOpenTradesPerBot + k)
    (fun _ _ bounded few => exposure_step capped bounded few)
    (s := { tables := start }) (within.trans (Nat.le_add_right _ k)) few
  exact (Nat.le_add_right _ _).trans bounded

/-! ## A run that exceeds the cap by as many -/

/-- The steps of a signal that the count of the bot let through, to its trade. -/
def placesFirst (tradeId : ℕ) : List CapsStep :=
  [.countsGlobal 0, .requests 0, .commits 0 tradeId]

theorem run_arrives (tables : TradeTables) (notFull : ¬settings.PerBotFull tables) (count : ℕ) :
    ∀ inFlight, run (capsStep settings) { tables := tables, inFlight := inFlight }
        (List.replicate count .arrives) =
      { tables := tables, inFlight := inFlight ++ List.replicate count .counted } := by
  induction count with
  | zero => simp
  | succ count ih =>
      intro inFlight
      rw [List.replicate_succ, run_cons]
      simp only [capsStep, if_neg notFull]
      rw [ih, List.append_assoc]
      rfl

theorem runGuarded_arrives (tables : TradeTables) (count : ℕ) :
    ∀ inFlight : List CapsStage, inFlight.length + count ≤ k + 1 →
      RunGuarded (FewInFlight settings k) (capsStep settings)
        { tables := tables, inFlight := inFlight } (List.replicate count .arrives) := by
  induction count with
  | zero => exact fun _ _ => trivial
  | succ count ih =>
      intro inFlight room
      rw [List.replicate_succ]
      refine ⟨fun _ _ => by simp only; omega, ?_⟩
      simp only [capsStep]
      split_ifs
      · exact ih inFlight (by omega)
      · exact ih _ (by rw [List.length_append, List.length_singleton]; omega)

theorem run_placesFirst (unlimited : settings.risk.maxOpenTradesGlobal = 0) (count : ℕ) :
    ∀ tables, settings.openTrades (run (capsStep settings)
        { tables := tables, inFlight := List.replicate count .counted }
        (List.replicate count (placesFirst 0)).flatten).tables =
      settings.openTrades tables + count := by
  induction count with
  | zero => exact fun _ => rfl
  | succ count ih =>
      intro tables
      have notFull : ¬settings.GlobalFull tables := fun full => full.1.ne' unlimited
      rw [List.replicate_succ, List.replicate_succ, List.flatten_cons, run_append]
      simp only [placesFirst, run_cons, run_nil, capsStep, List.getElem?_cons_zero, if_neg notFull,
        List.set_cons_zero, List.eraseIdx_cons_zero]
      rw [← placesFirst, ih, openTrades_insert]
      omega

theorem runGuarded_placesFirst (count : ℕ) :
    ∀ s, RunGuarded (FewInFlight settings k) (capsStep settings) s
      (List.replicate count (placesFirst 0)).flatten := by
  intro s
  have others : RunGuarded (fun _ step => step ≠ .arrives) (capsStep settings) s
      (List.replicate count (placesFirst 0)).flatten := by
    refine runGuarded_of_forall fun step member => ?_
    obtain ⟨steps, replicated, member⟩ := List.mem_flatten.mp member
    rw [List.eq_of_mem_replicate replicated] at member
    simp only [placesFirst, List.mem_cons, List.not_mem_nil, or_false] at member
    rcases member with rfl | rfl | rfl
    · exact nofun
    · exact nofun
    · exact nofun
  exact others.mono fun _ _ other arrived => absurd arrived other

/-- The bound is reached: with one trade left under the cap, `k + 1` signals that are all counted
before the first of them is placed bring the bot to `k` trades beyond it. -/
theorem exists_run_openTrades_eq (unlimited : settings.risk.maxOpenTradesGlobal = 0) {start : TradeTables}
    (short : settings.openTrades start + 1 = settings.risk.maxOpenTradesPerBot) (k : ℕ) :
    ∃ steps, RunGuarded (FewInFlight settings k) (capsStep settings) { tables := start } steps ∧
      settings.openTrades (run (capsStep settings) { tables := start } steps).tables =
        settings.risk.maxOpenTradesPerBot + k := by
  have notFull : ¬settings.PerBotFull start := fun full => by have := full.2; omega
  refine ⟨List.replicate (k + 1) .arrives ++ (List.replicate (k + 1) (placesFirst 0)).flatten,
    runGuarded_append.mpr ⟨runGuarded_arrives start (k + 1) [] (by simp), ?_⟩, ?_⟩
  · exact runGuarded_placesFirst (k + 1) _
  · rw [run_append, run_arrives start notFull, List.nil_append, run_placesFirst unlimited]
    omega

end Runs

/-! ## What the services commit -/

/-- The columns of a live trade. -/
def liveRecord (row : TradeRow) : TradeRecord where
  id := row.id
  botId := row.botId
  status := row.status
  realizedPnl := row.realizedPnl
  closedAt := row.closedAt

/-- The columns of a paper trade. -/
def paperRecord (row : Paper.PaperTrade) : TradeRecord where
  id := row.id
  botId := row.botId
  status := match row.status with
    | .isOpen => .isOpen
    | .closed => .closed
  realizedPnl := row.realizedPnl
  closedAt := row.closedAt

/-- The open trades of a bot in the tables of the execution service. -/
def liveOpenTrades (db : Db) (bot : String) : ℕ :=
  countOpenTrades (db.trades.map liveRecord) (some bot)

/-- The open trades of a bot in the tables of a paper exchange. -/
def paperOpenTrades (db : Paper.PaperDb) (bot : String) : ℕ :=
  countOpenTrades (db.trades.map paperRecord) (some bot)

/-- The step is the placement of an order of the bot. -/
def placesFor (bot : String) : Step → Bool
  | .placed p _ _ _ _ _ => p.botId = bot
  | _ => false

section Services

variable {bot : String} {db : Db}

/-- The row is an open trade of the bot. -/
def isOpenOf (bot : String) (row : TradeRow) : Bool := row.botId = bot ∧ row.status = .isOpen

theorem liveOpenTrades_eq : liveOpenTrades db bot = db.trades.countP (isOpenOf bot) := by
  simp only [liveOpenTrades, countOpenTrades, List.countP_map]
  rfl

/-- An update that keeps the bot of a trade and opens none. -/
theorem liveOpenTrades_le_of_updateWhere {db' : Db} {id : ℕ} {set : TradeRow → TradeRow}
    (trades : db'.trades = updateWhere (·.id == id) set db.trades)
    (leaves : ∀ row, isOpenOf bot (set row) = true → isOpenOf bot row = true) :
    liveOpenTrades db' bot ≤ liveOpenTrades db bot := by
  rw [liveOpenTrades_eq, liveOpenTrades_eq, trades]
  exact countP_updateWhere_le leaves db.trades

/-- A trade that is added and then rewritten. -/
theorem liveOpenTrades_le_of_added {db' : Db} {row : TradeRow} {id : ℕ}
    (set : TradeRow → TradeRow)
    (trades : db'.trades = updateWhere (·.id == id) set (db.trades ++ [row]))
    (leaves : ∀ row, isOpenOf bot (set row) = true → isOpenOf bot row = true) :
    liveOpenTrades db' bot ≤
      liveOpenTrades db bot +
        [if row.id == id then set row else row].countP (isOpenOf bot) := by
  have split : updateWhere (·.id == id) set (db.trades ++ [row]) =
      updateWhere (·.id == id) set db.trades ++ [if row.id == id then set row else row] := by
    simp [updateWhere]
  rw [liveOpenTrades_eq, liveOpenTrades_eq, trades, split, List.countP_append]
  exact Nat.add_le_add_right (countP_updateWhere_le leaves db.trades) _

/-- No transaction of the execution service opens a trade of the bot except the placement of an
order of the bot, which opens at most one. -/
theorem openTrades_step_le (bot : String) (s : Step) (db : Db) :
    liveOpenTrades (step s db) bot ≤
      liveOpenTrades db bot + if placesFor bot s then 1 else 0 := by
  generalize after : step s db = db'
  have change : Change db s db' := after ▸ step_change s db
  cases change with
  | nothing => exact Nat.le_add_right _ _
  | @placed p slPrice tpPrice notionalUsd slSetAt commits free =>
      refine (liveOpenTrades_le_of_added (.enter .isOpen) rfl fun _ => id).trans
        (Nat.add_le_add_left ?_ _)
      rw [List.countP_singleton]
      by_cases own : p.botId = bot
      · rw [if_pos (show placesFor bot (.placed p slPrice tpPrice notionalUsd slSetAt commits) = true
          from decide_eq_true own)]
        split_ifs <;> simp
      · simp [isOpenOf, placesFor, Placed.trade, TradeRow.enter, own]
  | @emergencyClosed p closeExchangeOrderId closeAt commits =>
      refine le_trans ?_ (Nat.le_add_right _ _)
      have trades : (db.afterEmergencyClose p closeExchangeOrderId closeAt).trades =
          updateWhere (·.id == db.nextTradeId)
            ((TradeRow.enter .closed ∘ TradeRow.close p.fillPrice 0 (some 0) closeAt .emergency
              (db.nextOrderId + 1)) ∘ TradeRow.enter .isOpen) (db.trades ++
            [{ p.trade db.nextOrderId (computeNotionalUsd p.qty p.fillPrice) none with
              id := db.nextTradeId, entryPrice := numeric 12 p.fillPrice,
              notionalUsd := numeric 4 (computeNotionalUsd p.qty p.fillPrice),
              status := .isOpen }]) := by
        simp only [Db.afterEmergencyClose]
        rw [updateWhere_updateWhere, updateWhere_updateWhere]
        · exact fun _ => rfl
        · exact fun _ => rfl
      refine (liveOpenTrades_le_of_added _ trades fun row closed => ?_).trans (le_of_eq ?_)
      · simp [isOpenOf, TradeRow.enter, TradeRow.close] at closed
      · simp [isOpenOf, TradeRow.enter, TradeRow.close]
  | monitored held => exact Nat.le_add_right _ _
  | recorded recorded =>
      refine le_trans ?_ (Nat.le_add_right _ _)
      cases recorded with
      | opened matched opens accepted =>
          exact liveOpenTrades_le_of_updateWhere rfl fun _ => id
      | part reduces remains =>
          exact liveOpenTrades_le_of_updateWhere (recordPart_trades _ _ _ _) fun _ => id
      | closed reduces emptied readBefore readAfter known =>
          refine liveOpenTrades_le_of_updateWhere (recordClose_trades _ _ _ _ _)
            fun row closed => ?_
          simp [isOpenOf, TradeRow.enter, TradeRow.close] at closed

/-- The handler of an order request opens at most one trade. -/
theorem openTrades_handle_le (bot : String) {settings : HandlerSettings} {request : OrderRequest}
    {envelope : Envelope} {workingQty : ℚ} {answers : Answers} (w : World) :
    liveOpenTrades (handle settings request envelope workingQty answers w).2.db bot ≤
      liveOpenTrades w.db bot + 1 := by
  generalize after : (handle settings request envelope workingQty answers w).2.db = db'
  have writes : Writes answers w.db db' := after ▸ handle_writes w
  have atMostOne : ∀ s, liveOpenTrades (step s w.db) bot ≤ liveOpenTrades w.db bot + 1 :=
    fun s => (openTrades_step_le bot s w.db).trans
      (Nat.add_le_add_left (by split_ifs <;> simp) _)
  cases writes with
  | nothing => exact Nat.le_add_right _ _
  | placed p slPrice tpPrice notionalUsd => exact atMostOne _
  | emergencyClosed p closeExchangeOrderId => exact atMostOne _

/-- The row is an open paper trade of the bot. -/
def isOpenPaperOf (bot : String) (row : Paper.PaperTrade) : Bool :=
  row.botId = bot ∧ row.status = .isOpen

theorem paperOpenTrades_eq {db : Paper.PaperDb} :
    paperOpenTrades db bot = db.trades.countP (isOpenPaperOf bot) := by
  simp only [paperOpenTrades, countOpenTrades, List.countP_map]
  refine List.countP_congr fun row _ => ?_
  cases status : row.status <;> simp [isOpenPaperOf, paperRecord, status]

/-- The entry is an open of the bot's own paper exchange. -/
def opensFor (bot : String) (cfg : Paper.Config) : Paper.Entry → Bool
  | .opened _ => cfg.botId = bot
  | _ => false

/-- No entry in the books of a paper exchange opens a trade of the bot except an open of the bot's
own exchange, which opens one. -/
theorem openTrades_entry_le (bot : String) (cfg : Paper.Config) (entry : Paper.Entry)
    (books : Paper.Books) :
    paperOpenTrades (entry.apply cfg books).db bot ≤
      paperOpenTrades books.db bot +
        if opensFor bot cfg entry then 1 else 0 := by
  rw [paperOpenTrades_eq, paperOpenTrades_eq]
  cases entry with
  | drawn => exact Nat.le_add_right _ _
  | restopped symbol stops persisted =>
      simp only [Paper.Entry.apply]
      split_ifs <;> exact Nat.le_add_right _ _
  | opened ticket =>
      simp only [Paper.Entry.apply, Paper.PaperDb.afterOpen, List.countP_append,
        List.countP_singleton]
      refine Nat.add_le_add_left ?_ _
      by_cases own : cfg.botId = bot
      · rw [if_pos (show opensFor bot cfg (.opened ticket) = true from decide_eq_true own)]
        split_ifs <;> simp
      · simp [isOpenPaperOf, Paper.PaperTrade.stored, own]
  | reduced leg =>
      refine le_trans ?_ (Nat.le_add_right _ _)
      simp only [Paper.Entry.apply]
      split
      · refine countP_updateWhere_le (fun row still => ?_) books.db.trades
        exact still
      · exact le_rfl
  | closed leg =>
      refine le_trans ?_ (Nat.le_add_right _ _)
      simp only [Paper.Entry.apply]
      split
      · refine countP_updateWhere_le (fun row closed => ?_) books.db.trades
        simp [isOpenPaperOf, Paper.PaperTrade.close] at closed
      · exact le_rfl

end Services

/-! ## Two signals under a cap of one -/

/-- A bot that may hold one trade. -/
def oneTrade : CapsSettings where
  botId := "alpha"
  exchangeMode := .live
  risk := { maxOpenTradesPerBot := 1 }

/-- Both signals are counted before either is placed. -/
def bothCounted : List CapsStep :=
  [.arrives, .countsGlobal 0, .requests 0, .arrives, .countsGlobal 1, .requests 1, .commits 0 1,
    .commits 0 2]

/-- The bot has no trade, and then two. -/
theorem cap_exceeded :
    oneTrade.openTrades {} ≤ oneTrade.risk.maxOpenTradesPerBot ∧
      ¬oneTrade.openTrades (run (capsStep oneTrade) { tables := {} } bothCounted).tables ≤
        oneTrade.risk.maxOpenTradesPerBot := by
  decide +kernel

/-- The second found one signal in flight. -/
theorem bothCounted_le :
    oneTrade.openTrades (run (capsStep oneTrade) { tables := {} } bothCounted).tables ≤
      oneTrade.risk.maxOpenTradesPerBot + 1 :=
  run_openTrades_le (by decide) (by decide +kernel) (by decide +kernel)

end Scalper.Strategy
