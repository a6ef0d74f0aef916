import Scalper.Paper.Mirror
import Scalper.Paper.Pnl
import Scalper.Paper.Stops
import Scalper.Paper.TradingStop

/-!
# Restarts

A live adapter that stops between two operations comes back with empty memory, hydrates its
positions and has its stops set again.  The run it then makes is compared with the run that
never stopped.  A `Process` is such an adapter: nothing takes the events of a paper bot off its
queues, so an operation that finds them full waits in `put` for ever.

`Sim` relates the books of the two: the same tables (but for the stop columns of
`paper_positions`), the same stop levels, and positions that may differ in the amounts a column
rounds and in the profit taken so far (`Drifted`).  One call keeps it (`SimState.step`) when its
exit books from both positions what the columns keep alike (`ExitsAlike`), so a whole run does, and
the two runs write the same trades, orders and executions.  What a restart loses is the accumulated
profit of a position, which no hydrated row brings back; decimals beyond a column's scale; and the
last price of a symbol, until its next candle.  `restart_transparent` is the result,
`restart_forgets_profit` the run that shows the first loss.
-/

set_option autoImplicit false

namespace Scalper.Paper

open Scalper.Lib Scalper.Exchange

variable {cfg : Config}

/-! ## Processes -/

/-- The default of `event_queue_maxsize`. -/
def eventQueueMaxsize : ℕ := 1000

/-- A live adapter between two operations, or with one that waits in `put`: nothing takes the
events of a paper bot off its queues. -/
structure Process where
  exchange : PaperExchange := {}
  waiting : Bool := false

/-- The operations of a live adapter: `run_replay` raises on one. -/
def Call.live (call : Call) : Bool :=
  match call.op with
  | .processReplayCandle _ => false
  | _ => true

/-- One operation of a live adapter.  An event is put after its transaction and the change in
memory; an operation that finds no room for it goes no further and never returns. -/
def Process.step (cfg : Config) (call : Call) (p : Process) : Process :=
  if p.waiting || !call.live then p
  else
    let s := Paper.step cfg call p.exchange
    if s.executionQueue.length ≤ eventQueueMaxsize then { exchange := s }
    else
      { exchange :=
          { s with
            executionQueue := p.exchange.executionQueue
            positionQueue := p.exchange.positionQueue
            terminalEvents := p.exchange.terminalEvents
            tradeClosed := p.exchange.tradeClosed }
        waiting := true }

section Process

variable {p : Process} {call : Call}

theorem Process.step_of_waiting (waiting : p.waiting = true) : p.step cfg call = p := by
  rw [Process.step, waiting, Bool.true_or, if_pos rfl]

/-- A process that is running after a step ran before it; the step was none of a live adapter, or
its events found room. -/
theorem Process.step_running (running : (p.step cfg call).waiting = false) :
    p.waiting = false ∧
      (call.live = false ∧ p.step cfg call = p ∨
        call.live = true ∧ p.step cfg call = { exchange := Paper.step cfg call p.exchange } ∧
          (Paper.step cfg call p.exchange).executionQueue.length ≤ eventQueueMaxsize) := by
  have ran : p.waiting = false := by
    cases waiting : p.waiting with
    | false => rfl
    | true => rwa [Process.step_of_waiting waiting, waiting] at running
  refine ⟨ran, ?_⟩
  cases live : call.live with
  | false => exact .inl ⟨rfl, by rw [Process.step, live, Bool.not_false, Bool.or_true, if_pos rfl]⟩
  | true =>
      rw [Process.step, ran, live, Bool.not_true, Bool.or_self, if_neg Bool.false_ne_true] at running ⊢
      by_cases room : (Paper.step cfg call p.exchange).executionQueue.length ≤ eventQueueMaxsize
      · exact .inr ⟨rfl, if_pos room, room⟩
      · simp only [if_neg room] at running
        cases running

/-- What waits goes on waiting. -/
theorem Process.running_of_run {calls : List Call}
    (running : (run (Process.step cfg) p calls).waiting = false) : p.waiting = false := by
  cases waiting : p.waiting with
  | false => rfl
  | true =>
      rw [run_fixed (fun _ => Process.step_of_waiting waiting), waiting] at running
      cases running

end Process

/-! ## Positions that drift apart -/

/-- Positions of one trade that may differ in the amounts their rows round, and in the profit that
no row of a position has. -/
structure Drifted (position position' : OpenPosition) : Prop where
  tradeId : position'.tradeId = position.tradeId
  side : position'.side = position.side
  qty : position'.qty = position.qty

theorem Drifted.refl (position : OpenPosition) : Drifted position position := ⟨rfl, rfl, rfl⟩

/-- A take-profit writes the same fees and the same profit from both positions. -/
def ReducesAlike (cols : Columns) (leg : ExitLeg) (position position' : OpenPosition) : Prop :=
  cols.money (position'.feesPaid + leg.fee) = cols.money (position.feesPaid + leg.fee) ∧
    cols.money (position'.realizedPnl + leg.partialPnl position') =
      cols.money (position.realizedPnl + leg.partialPnl position)

/-- A close writes the same fees and the same profit from both positions. -/
def ClosesAlike (cols : Columns) (leg : ExitLeg) (position position' : OpenPosition) : Prop :=
  cols.money (position'.feesPaid + leg.fee) = cols.money (position.feesPaid + leg.fee) ∧
    cols.money (leg.closingPnl position' + position'.realizedPnl) =
      cols.money (leg.closingPnl position + position.realizedPnl)

instance (cols : Columns) (leg : ExitLeg) (position position' : OpenPosition) :
    Decidable (ReducesAlike cols leg position position') :=
  inferInstanceAs (Decidable (_ ∧ _))

instance (cols : Columns) (leg : ExitLeg) (position position' : OpenPosition) :
    Decidable (ClosesAlike cols leg position position') :=
  inferInstanceAs (Decidable (_ ∧ _))

/-- An exit writes the same fees and the same profit in two books. -/
def Entry.BooksAlike (cols : Columns) (b b' : Books) : Entry → Prop
  | .reduced leg => ∀ position ∈ b.openPosition leg.symbol,
      ∀ position' ∈ b'.openPosition leg.symbol, ReducesAlike cols leg position position'
  | .closed leg => ∀ position ∈ b.openPosition leg.symbol,
      ∀ position' ∈ b'.openPosition leg.symbol, ClosesAlike cols leg position position'
  | .drawn | .restopped .. | .opened _ => True

instance Entry.BooksAlike.decidable (cols : Columns) (b b' : Books) :
    ∀ e : Entry, Decidable (e.BooksAlike cols b b')
  | .reduced _ | .closed _ => inferInstanceAs (Decidable (∀ position ∈ _, ∀ position' ∈ _, _))
  | .drawn | .restopped .. | .opened _ => isTrue trivial

/-! ## The same tables -/

def PaperPosition.forgetStops (row : PaperPosition) : PaperPosition :=
  { row with slPrice := none, tpPrice := none }

/-- Equal tables, but for the stop columns of the positions. -/
def SameTables (db db' : PaperDb) : Prop :=
  ∃ positions, db' = { db with positions := positions } ∧
    positions.map PaperPosition.forgetStops = db.positions.map PaperPosition.forgetStops

theorem SameTables.refl (db : PaperDb) : SameTables db db := ⟨db.positions, rfl, rfl⟩

theorem SameTables.trans {first second third : PaperDb} (left : SameTables first second)
    (right : SameTables second third) : SameTables first third := by
  obtain ⟨positions, rfl, same⟩ := left
  obtain ⟨positions', rfl, same'⟩ := right
  exact ⟨positions', rfl, same'.trans same⟩

theorem SameTables.any_at {db db' : PaperDb} (same : SameTables db db') (botId symbol : String) :
    db'.positions.any (PaperPosition.at botId symbol) =
      db.positions.any (PaperPosition.at botId symbol) := by
  obtain ⟨positions, rfl, sameRows⟩ := same
  have forgotten : ∀ rows : List PaperPosition,
      rows.any (PaperPosition.at botId symbol) =
        (rows.map PaperPosition.forgetStops).any (PaperPosition.at botId symbol) := by
    intro rows
    rw [List.any_map]
    rfl
  rw [forgotten, forgotten db.positions, sameRows]

theorem SameTables.afterOpen {db db' : PaperDb} (same : SameTables db db') (t : OrderTicket) :
    SameTables (db.afterOpen cfg t) (db'.afterOpen cfg t) := by
  obtain ⟨positions, rfl, sameRows⟩ := same
  refine ⟨_, rfl, ?_⟩
  simp only [PaperDb.afterOpen, List.map_append, sameRows]

theorem SameTables.afterReduce {db db' : PaperDb} (same : SameTables db db') (leg : ExitLeg)
    (uuid : Uuid) {position position' : OpenPosition} (drifted : Drifted position position')
    (alike : ReducesAlike cfg.columns leg position position') :
    SameTables (db.afterReduce cfg leg uuid position) (db'.afterReduce cfg leg uuid position') := by
  obtain ⟨positions, rfl, sameRows⟩ := same
  have forgotten : ∀ rows : List PaperPosition,
      (updateWhere (PaperPosition.at cfg.botId leg.symbol)
        (.reduce cfg.columns (position.qty - leg.qty) true) rows).map PaperPosition.forgetStops =
      updateWhere (PaperPosition.at cfg.botId leg.symbol)
        (.reduce cfg.columns (position.qty - leg.qty) true)
        (rows.map PaperPosition.forgetStops) :=
    map_updateWhere_comm (fun _ => rfl) (fun _ => rfl)
  have sameUpdate : PaperTrade.reduce cfg.columns (position'.qty - leg.qty)
        (position'.feesPaid + leg.fee) (position'.realizedPnl + leg.partialPnl position') =
      PaperTrade.reduce cfg.columns (position.qty - leg.qty) (position.feesPaid + leg.fee)
        (position.realizedPnl + leg.partialPnl position) := by
    funext row
    simp only [PaperTrade.reduce, drifted.qty, alike.1, alike.2]
  refine ⟨(PaperDb.afterReduce cfg leg uuid position' { db with positions := positions }).positions,
    ?_, ?_⟩
  · simp only [PaperDb.afterReduce, PaperDb.recordLeg, drifted.tradeId, sameUpdate]
  · simp only [PaperDb.afterReduce, drifted.qty]
    rw [forgotten, forgotten, sameRows]

theorem SameTables.afterClose {db db' : PaperDb} (same : SameTables db db') (leg : ExitLeg)
    (uuid : Uuid) {position position' : OpenPosition} (drifted : Drifted position position')
    (alike : ClosesAlike cfg.columns leg position position') :
    SameTables (db.afterClose cfg leg uuid position) (db'.afterClose cfg leg uuid position') := by
  obtain ⟨positions, rfl, sameRows⟩ := same
  have forgotten : ∀ rows : List PaperPosition,
      (rows.filter fun row => !row.at cfg.botId leg.symbol).map PaperPosition.forgetStops =
        (rows.map PaperPosition.forgetStops).filter fun row => !row.at cfg.botId leg.symbol := by
    intro rows
    rw [List.filter_map]
    rfl
  have sameUpdate : PaperTrade.close cfg.columns leg.price
        (leg.closingPnl position' + position'.realizedPnl) (position'.feesPaid + leg.fee)
        leg.executedAt leg.execType.closeReason db.nextOrderId =
      PaperTrade.close cfg.columns leg.price (leg.closingPnl position + position.realizedPnl)
        (position.feesPaid + leg.fee) leg.executedAt leg.execType.closeReason db.nextOrderId := by
    funext row
    simp only [PaperTrade.close, alike.1, alike.2]
  refine ⟨(PaperDb.afterClose cfg leg uuid position' { db with positions := positions }).positions,
    ?_, ?_⟩
  · simp only [PaperDb.afterClose, PaperDb.recordLeg, drifted.tradeId, sameUpdate]
  · simp only [PaperDb.afterClose]
    rw [forgotten, forgotten, sameRows]

theorem sameTables_afterRestop (db : PaperDb) (symbol : String) (slPrice tpPrice : Option ℚ) :
    SameTables db (db.afterRestop cfg symbol slPrice tpPrice) := by
  have forgotten : ∀ row : PaperPosition,
      (row.restop cfg.columns slPrice tpPrice).forgetStops = row.forgetStops := fun _ => rfl
  exact ⟨_, rfl, map_updateWhere forgotten db.positions⟩

theorem SameTables.symm {db db' : PaperDb} (same : SameTables db db') : SameTables db' db := by
  obtain ⟨positions, rfl, sameRows⟩ := same
  exact ⟨db.positions, rfl, sameRows.symm⟩

/-! ## Books in step -/

/-- Books that write the same rows, of which the second has emitted no more events. -/
structure Sim (b b' : Books) : Prop where
  tables : SameTables b.db b'.db
  uuids : b'.uuids = b.uuids
  queued : b'.executionQueue.length ≤ b.executionQueue.length
  positions : ∀ symbol, Option.Rel Drifted (b.openPosition symbol) (b'.openPosition symbol)
  levels : ∀ symbol stops stops' position position',
    b.activePositions symbol = some ⟨stops, some position⟩ →
    b'.activePositions symbol = some ⟨stops', some position'⟩ → SameLevels stops stops'

/-- The other run holds a position of the same trade with the same levels. -/
theorem Sim.active {b b' : Books} (sim : Sim b b') {symbol : String} {stops : TradingStops}
    {position : OpenPosition} (found : b.activePositions symbol = some ⟨stops, some position⟩) :
    ∃ stops' position', b'.activePositions symbol = some ⟨stops', some position'⟩ ∧
      SameLevels stops stops' ∧ Drifted position position' := by
  have related := sim.positions symbol
  rw [openPosition_of_active found] at related
  cases held' : b'.openPosition symbol with
  | none => rw [held'] at related; cases related
  | some position' =>
      rw [held'] at related
      obtain ⟨stops', found'⟩ := active_of_openPosition held'
      cases related with
      | some drifted =>
          exact ⟨stops', position', found',
            sim.levels symbol stops stops' position position' found found', drifted⟩

theorem Sim.drawn {b b' : Books} (sim : Sim b b') :
    Sim (Entry.drawn.apply cfg b) (Entry.drawn.apply cfg b') :=
  ⟨sim.tables, by simp only [Entry.apply, sim.uuids], sim.queued, sim.positions, sim.levels⟩

theorem Sim.restopped {b b' : Books} (sim : Sim b b') (symbol : String)
    {stops stops' : TradingStops} (sameLevels : SameLevels stops stops') (persisted : Bool) :
    Sim ((Entry.restopped symbol stops persisted).apply cfg b)
      ((Entry.restopped symbol stops' persisted).apply cfg b') := by
  refine ⟨?_, sim.uuids, sim.queued, ?_, ?_⟩
  · cases persisted with
    | false => exact sim.tables
    | true =>
        exact (sameTables_afterRestop b.db symbol _ _).symm.trans
          (sim.tables.trans (sameTables_afterRestop b'.db symbol _ _))
  · intro other
    rw [openPosition_restopped, openPosition_restopped]
    exact sim.positions other
  · intro other before before' position position' found found'
    by_cases same : other = symbol
    · subst same
      simp only [Entry.apply, Function.update_self, Option.some.injEq] at found found'
      have written : stops = before := congrArg ActivePosition.stops found
      have written' : stops' = before' := congrArg ActivePosition.stops found'
      exact written ▸ written' ▸ sameLevels
    · simp only [Entry.apply, Function.update_of_ne same] at found found'
      exact sim.levels other before before' position position' found found'

theorem Sim.opened {b b' : Books} (sim : Sim b b') (t : OrderTicket) :
    Sim ((Entry.opened t).apply cfg b) ((Entry.opened t).apply cfg b') := by
  have sameNext : b'.db.nextTradeId = b.db.nextTradeId := by
    obtain ⟨positions, same, _⟩ := sim.tables
    rw [same]
  refine ⟨sim.tables.afterOpen t, by simp only [Entry.apply, sim.uuids], ?_, ?_, ?_⟩
  · simpa only [Entry.apply, List.length_append, List.length_singleton] using
      Nat.add_le_add_right sim.queued 1
  · intro symbol
    rw [openPosition_opened, openPosition_opened, sameNext]
    split_ifs with same
    · exact .some (.refl _)
    · exact sim.positions symbol
  · intro symbol stops stops' position position' found found'
    by_cases same : symbol = t.symbol
    · subst same
      simp only [Entry.apply, Function.update_self, Option.some.injEq] at found found'
      have written : {} = stops := congrArg ActivePosition.stops found
      have written' : {} = stops' := congrArg ActivePosition.stops found'
      exact written ▸ written' ▸ .refl _
    · simp only [Entry.apply, Function.update_of_ne same] at found found'
      exact sim.levels symbol stops stops' position position' found found'

theorem Sim.reduced {b b' : Books} (sim : Sim b b') {leg : ExitLeg} {stops : TradingStops}
    {position : OpenPosition}
    (found : b.activePositions leg.symbol = some ⟨stops, some position⟩)
    (alike : (Entry.reduced leg).BooksAlike cfg.columns b b') :
    Sim ((Entry.reduced leg).apply cfg b) ((Entry.reduced leg).apply cfg b') := by
  obtain ⟨stops', position', found', sameLevels, drifted⟩ := sim.active found
  have sameAmounts := alike position (openPosition_of_active found) position'
    (openPosition_of_active found')
  refine ⟨?_, ?_, ?_, ?_, ?_⟩
  · rw [apply_reduced found, apply_reduced found', sim.uuids]
    exact sim.tables.afterReduce leg b.uuids drifted sameAmounts
  · rw [apply_reduced found, apply_reduced found']
    simp only [sim.uuids]
  · rw [apply_reduced found, apply_reduced found']
    simpa only [List.length_append, List.length_singleton] using Nat.add_le_add_right sim.queued 1
  · intro symbol
    rw [openPosition_reduced found, openPosition_reduced found']
    split_ifs with same
    · exact .some ⟨drifted.tradeId, drifted.side, by simp only [OpenPosition.reduce, drifted.qty]⟩
    · exact sim.positions symbol
  · intro symbol after after' p p' foundAfter foundAfter'
    rw [apply_reduced found] at foundAfter
    rw [apply_reduced found'] at foundAfter'
    by_cases same : symbol = leg.symbol
    · subst same
      simp only [Function.update_self, Option.some.injEq] at foundAfter foundAfter'
      have written : { stops with slType := .trail } = after :=
        congrArg ActivePosition.stops foundAfter
      have written' : { stops' with slType := .trail } = after' :=
        congrArg ActivePosition.stops foundAfter'
      rw [← written, ← written', SameLevels, ← sameLevels]
    · simp only [Function.update_of_ne same] at foundAfter foundAfter'
      exact sim.levels symbol after after' p p' foundAfter foundAfter'

theorem Sim.closed {b b' : Books} (sim : Sim b b') {leg : ExitLeg} {stops : TradingStops}
    {position : OpenPosition}
    (found : b.activePositions leg.symbol = some ⟨stops, some position⟩)
    (alike : (Entry.closed leg).BooksAlike cfg.columns b b') :
    Sim ((Entry.closed leg).apply cfg b) ((Entry.closed leg).apply cfg b') := by
  obtain ⟨stops', position', found', _, drifted⟩ := sim.active found
  have sameAmounts := alike position (openPosition_of_active found) position'
    (openPosition_of_active found')
  refine ⟨?_, ?_, ?_, ?_, ?_⟩
  · rw [apply_closed found, apply_closed found', sim.uuids]
    exact sim.tables.afterClose leg b.uuids drifted sameAmounts
  · rw [apply_closed found, apply_closed found']
    simp only [sim.uuids]
  · rw [apply_closed found, apply_closed found']
    simpa only [List.length_append, List.length_singleton] using Nat.add_le_add_right sim.queued 1
  · intro symbol
    rw [openPosition_closed found, openPosition_closed found']
    split_ifs with same
    · exact .none
    · exact sim.positions symbol
  · intro symbol after after' p p' foundAfter foundAfter'
    rw [apply_closed found] at foundAfter
    rw [apply_closed found'] at foundAfter'
    by_cases same : symbol = leg.symbol
    · subst same
      simp only [Function.update_self] at foundAfter
      cases foundAfter
    · simp only [Function.update_of_ne same] at foundAfter foundAfter'
      exact sim.levels symbol after after' p p' foundAfter foundAfter'

/-- The entry of a fill keeps books in step. -/
theorem Sim.fill {b b' : Books} (sim : Sim b b') {fill : PendingSLTPFill} {stops : TradingStops}
    {position : OpenPosition}
    (found : b.activePositions fill.symbol = some ⟨stops, some position⟩)
    (alike : (fill.entry cfg).BooksAlike cfg.columns b b') :
    Sim ((fill.entry cfg).apply cfg b) ((fill.entry cfg).apply cfg b') := by
  have here : b.activePositions (fill.leg cfg).symbol = some ⟨stops, some position⟩ := found
  by_cases isPartial : fill.kind = .tp ∧ fill.tpslMode = .Partial
  · rw [PendingSLTPFill.entry, if_pos isPartial] at alike ⊢
    exact sim.reduced here alike
  · rw [PendingSLTPFill.entry, if_neg isPartial] at alike ⊢
    exact sim.closed here alike

/-! ## Calls in step -/

/-- Two states inside one call: the same time and the same outcomes to come. -/
structure InStep (s t : PaperExchange) : Prop where
  books : Sim s.books t.books
  now : t.now = s.now
  outcomes : t.dbOutcomes = s.dbOutcomes
  pending : s.pendingSlTpFills = []
  pending' : t.pendingSlTpFills = []

theorem InStep.commits {s t : PaperExchange} (inStep : InStep s t) : t.commits = s.commits := by
  rw [PaperExchange.commits, PaperExchange.commits, inStep.outcomes]

theorem InStep.trades {s t : PaperExchange} (inStep : InStep s t) : t.db.trades = s.db.trades := by
  obtain ⟨positions, same, _⟩ := inStep.books.tables
  have sameDb : t.db = { s.db with positions := positions } := same
  rw [sameDb]

/-- Crossing detection reads the levels of the stops, and the side and the quantity of the
position. -/
theorem detectCross_sameLevels {stops stops' : TradingStops} (sameLevels : SameLevels stops stops')
    {position position' : OpenPosition} (drifted : Drifted position position') (symbol : String)
    (low high : ℚ) (now : ℕ) :
    detectCross ⟨stops', some position'⟩ symbol low high now =
      detectCross ⟨stops, some position⟩ symbol low high now := by
  rw [← sameLevels]
  simp only [detectCross, drifted.side, drifted.qty]

/-- The exit that a price range makes of a symbol's position, if its transaction commits. -/
def crossEntry (cfg : Config) (symbol : String) (low high : ℚ) (s : PaperExchange) :
    Option Entry :=
  match (s.activePositions symbol).map (detectCross · symbol low high s.now) with
  | some (.ok (some fill)) => if s.commits then some (fill.entry cfg) else none
  | _ => none

variable (cfg) in
theorem checkAndDrain_inStep {s t : PaperExchange} (inStep : InStep s t) (symbol : String)
    (low high : ℚ) (alike : ∀ e ∈ crossEntry cfg symbol low high s,
      e.BooksAlike cfg.columns s.books t.books) :
    InStep (checkAndDrain cfg symbol low high s).2 (checkAndDrain cfg symbol low high t).2 := by
  cases held : s.openPosition symbol with
  | none =>
      have related := inStep.books.positions symbol
      rw [openPosition_books, openPosition_books, held] at related
      have held' : t.openPosition symbol = none := by
        cases vacant : t.openPosition symbol with
        | none => rfl
        | some position => rw [vacant] at related; cases related
      rw [checkAndDrain_unheld low high inStep.pending held,
        checkAndDrain_unheld low high inStep.pending' held']
      exact inStep
  | some position =>
      obtain ⟨stops, found⟩ := active_of_openPosition (b := s.books) held
      obtain ⟨stops', position', found', sameLevels, drifted⟩ := inStep.books.active found
      have detects := detectCross_sameLevels sameLevels drifted symbol low high s.now
      obtain ⟨whenClear, whenRaised, whenCrossed⟩ :=
        checkAndDrain_held cfg low high inStep.pending found
      obtain ⟨whenClear', whenRaised', whenCrossed'⟩ :=
        checkAndDrain_held cfg low high inStep.pending' found'
      rw [inStep.now, detects] at whenClear' whenRaised' whenCrossed'
      rcases detectCross_cases stops position symbol low high s.now with
        ⟨_, _, clear⟩ | ⟨_, _, _, _, e, raised⟩ | ⟨fill, crossed, detected⟩
      · rw [whenClear clear, whenClear' clear]
        exact inStep
      · rw [whenRaised e raised, whenRaised' e raised]
        exact inStep
      · have crossed' : Crossed stops' position' symbol low high s.now fill :=
          crossed_of_detectCross (detects.trans detected)
        obtain ⟨frame, outcomes, made, refused⟩ := whenCrossed fill detected crossed
        obtain ⟨frame', outcomes', made', refused'⟩ := whenCrossed' fill detected crossed'
        rw [inStep.trades, inStep.commits, drifted.tradeId] at made' refused'
        have here : s.books.activePositions fill.symbol = some ⟨stops, some position⟩ := by
          rw [crossed.symbol_eq]
          exact found
        refine ⟨?_, ?_, ?_, frame.pending.trans inStep.pending,
          frame'.pending.trans inStep.pending'⟩
        · cases accepted : s.db.trades.any (·.id == position.tradeId) && s.commits with
          | true =>
              have commits := (Bool.and_eq_true_iff.mp accepted).2
              have makes : crossEntry cfg symbol low high s = some (fill.entry cfg) := by
                rw [crossEntry, show s.activePositions symbol = _ from found, Option.map_some,
                  detected]
                exact if_pos commits
              rw [(made accepted).2, (made' accepted).2]
              exact inStep.books.fill here (alike _ makes)
          | false =>
              rw [(refused accepted).2, (refused' accepted).2]
              exact inStep.books.drawn
        · rw [frame.now, frame'.now, inStep.now]
        · rw [outcomes, outcomes', inStep.outcomes]

/-! ## Runs in step -/

/-- Two states between calls; on the symbols seen they know the same price. -/
structure SimState (seen : String → Prop) (s t : PaperExchange) : Prop where
  books : Sim s.books t.books
  pending : s.pendingSlTpFills = []
  pending' : t.pendingSlTpFills = []
  prices : ∀ symbol, seen symbol → t.lastPrice symbol = s.lastPrice symbol ∧
    (s.lastPrice symbol ≠ none → t.lastCandle symbol = s.lastCandle symbol)

/-- The symbol whose price a call reports. -/
def Call.observed (call : Call) : Option String :=
  match call.op with
  | .onCandle candle => if candle.isClosed then some candle.symbol else none
  | _ => none

/-- The entry an operation makes in the books, apart from those of stops and of ids drawn in
vain. -/
def Call.entry (cfg : Config) (call : Call) (s : PaperExchange) : Option Entry :=
  let s := { s with now := call.now, dbOutcomes := call.dbOutcomes }
  match call.op with
  | .placeMarketOrder symbol side qty reduceOnly => orderEntry cfg symbol side qty reduceOnly s
  | .onCandle candle =>
      if candle.isClosed then crossEntry cfg candle.symbol candle.low candle.high s else none
  | _ => none

/-- The exit that the operation makes, if it makes one, books the same in both processes. -/
def ExitsAlike (cfg : Config) (pair : Process × Process) (call : Call) : Prop :=
  ∀ e ∈ call.entry cfg pair.1.exchange,
    e.BooksAlike cfg.columns pair.1.exchange.books pair.2.exchange.books

instance ExitsAlike.decidable (cfg : Config) (pair : Process × Process) (call : Call) :
    Decidable (ExitsAlike cfg pair call) :=
  inferInstanceAs (Decidable (∀ e ∈ _, _))

/-- One operation of two processes. -/
def stepBoth (cfg : Config) (call : Call) (pair : Process × Process) : Process × Process :=
  (pair.1.step cfg call, pair.2.step cfg call)

/-- Every market order is for a symbol that was seen before it. -/
def OrdersAfterPrices : (String → Prop) → List Call → Prop
  | _, [] => True
  | seen, call :: calls =>
      (∀ symbol side qty reduceOnly,
        call.op = .placeMarketOrder symbol side qty reduceOnly → seen symbol) ∧
      OrdersAfterPrices (fun symbol => seen symbol ∨ call.observed = some symbol) calls

theorem orderEntry_inStep {s t : PaperExchange} (inStep : InStep s t) {symbol : String}
    (samePrice : t.lastPrice symbol = s.lastPrice symbol)
    (sameCandle : s.lastPrice symbol ≠ none → t.lastCandle symbol = s.lastCandle symbol)
    (side : Side) (qty : ℚ) (reduceOnly : Bool) :
    orderEntry cfg symbol side qty reduceOnly t = orderEntry cfg symbol side qty reduceOnly s := by
  rw [orderEntry, orderEntry, samePrice]
  cases price : s.lastPrice symbol with
  | none => rfl
  | some lastPrice =>
      rw [sameCandle (by rw [price]; exact Option.some_ne_none _)]
      cases candle : s.lastCandle symbol with
      | none => rfl
      | some lastCandle =>
          have sameUuids : t.uuids = s.uuids := inStep.books.uuids
          have sameTicket : marketTicket cfg symbol side qty lastPrice lastCandle t =
              marketTicket cfg symbol side qty lastPrice lastCandle s := by
            rw [marketTicket, marketTicket, inStep.now, sameUuids]
          have sameListed := inStep.books.tables.any_at cfg.botId symbol
          simp only [sameTicket]
          generalize ticketed : marketTicket cfg symbol side qty lastPrice lastCandle s = ticket
          have ticketSymbol : ticket.symbol = symbol := by rw [← ticketed]; rfl
          have related := inStep.books.positions symbol
          rw [openPosition_books, openPosition_books] at related
          rw [closeEntry, closeEntry, openEntry, openEntry, inStep.trades,
            inStep.commits, ticketSymbol, show t.db.positions.any _ = s.db.positions.any _ from
              sameListed]
          -- the positions are there together, and of one trade
          cases held : s.openPosition symbol with
          | none =>
              cases held' : t.openPosition symbol with
              | none => rfl
              | some position' => rw [held, held'] at related; cases related
          | some position =>
              cases held' : t.openPosition symbol with
              | none => rw [held, held'] at related; cases related
              | some position' =>
                  rw [held, held'] at related
                  cases related with
                  | some drifted => simp only [drifted.tradeId]

/-- Both runs' market orders make the same entry. -/
theorem Sim.order {s t : PaperExchange} (inStep : InStep s t) {symbol : String}
    (samePrice : t.lastPrice symbol = s.lastPrice symbol)
    (sameCandle : s.lastPrice symbol ≠ none → t.lastCandle symbol = s.lastCandle symbol)
    (side : Side) (qty : ℚ) (reduceOnly : Bool)
    (alike : ∀ e ∈ orderEntry cfg symbol side qty reduceOnly s,
      e.BooksAlike cfg.columns s.books t.books) :
    Sim (placeMarketOrder cfg symbol side qty reduceOnly s).2.books
      (placeMarketOrder cfg symbol side qty reduceOnly t).2.books := by
  rw [(placeMarketOrder_books cfg symbol side qty reduceOnly s).2,
    (placeMarketOrder_books cfg symbol side qty reduceOnly t).2,
    orderEntry_inStep inStep samePrice sameCandle]
  cases made : orderEntry cfg symbol side qty reduceOnly s with
  | none => exact inStep.books
  | some e =>
      have sameAmounts := alike e made
      rcases orderEntry_cases made with rfl | ⟨ticket, rfl, _⟩ | ⟨leg, rfl, _, _, _, _, allowed⟩
      · exact inStep.books.drawn
      · exact inStep.books.opened ticket
      · obtain ⟨_, stops, position, found, _⟩ := allowed
        exact inStep.books.closed found sameAmounts

theorem sameLevels_overwrite (existing existing' : TradingStops) (tpslMode : TpslMode)
    (slPrice tpPrice tpSize : Option ℚ) (slType : Option SlType) :
    SameLevels (existing.overwrite tpslMode slPrice tpPrice tpSize slType)
      (existing'.overwrite tpslMode slPrice tpPrice tpSize slType) := rfl

/-- Both runs' stop calls write the same levels. -/
theorem Sim.stop {s t : PaperExchange} (inStep : InStep s t) (symbol : String)
    (tpslMode : TpslMode) (slPrice tpPrice tpSize : Option ℚ) (slType : Option SlType) :
    Sim (setTradingStop cfg symbol tpslMode slPrice tpPrice tpSize slType s).2.books
      (setTradingStop cfg symbol tpslMode slPrice tpPrice tpSize slType t).2.books := by
  rw [(setTradingStop_books cfg symbol tpslMode slPrice tpPrice tpSize slType s).2,
    (setTradingStop_books cfg symbol tpslMode slPrice tpPrice tpSize slType t).2, stopEntry,
    stopEntry]
  by_cases refused : slType = some .trail
  · rw [if_pos refused, if_pos refused]
    exact inStep.books
  · rw [if_neg refused, if_neg refused, inStep.commits]
    exact inStep.books.restopped symbol (sameLevels_overwrite _ _ _ _ _ _ _) s.commits

/-- Caching a candle keeps two states in step and gives them the candle's price. -/
theorem InStep.cacheCandle {s t : PaperExchange} (inStep : InStep s t) (candle : Candle) :
    InStep (s.cacheCandle candle) (t.cacheCandle candle) :=
  ⟨⟨inStep.books.tables, inStep.books.uuids, inStep.books.queued, inStep.books.positions,
    inStep.books.levels⟩, inStep.now, inStep.outcomes, inStep.pending, inStep.pending'⟩

theorem cacheCandle_prices {seen : String → Prop} {s t : PaperExchange}
    (prices : ∀ symbol, seen symbol → t.lastPrice symbol = s.lastPrice symbol ∧
      (s.lastPrice symbol ≠ none → t.lastCandle symbol = s.lastCandle symbol)) (candle : Candle)
    {symbol : String} (known : seen symbol ∨ some candle.symbol = some symbol) :
    (t.cacheCandle candle).lastPrice symbol = (s.cacheCandle candle).lastPrice symbol ∧
      ((s.cacheCandle candle).lastPrice symbol ≠ none →
        (t.cacheCandle candle).lastCandle symbol = (s.cacheCandle candle).lastCandle symbol) := by
  by_cases same : symbol = candle.symbol
  · subst same
    simp only [PaperExchange.cacheCandle, Function.update_self]
    exact ⟨trivial, fun _ => trivial⟩
  · have wasSeen : seen symbol := by
      rcases known with wasSeen | isCandle
      · exact wasSeen
      · cases isCandle
        exact absurd rfl same
    simp only [PaperExchange.cacheCandle, Function.update_of_ne same]
    exact prices symbol wasSeen

/-- A call that reports no price keeps two states in step when it leaves what waits and the prices
known. -/
theorem SimState.framed {seen : String → Prop} {s t s' t' : PaperExchange}
    (sim : SimState seen s t) (books : Sim s'.books t'.books) (frame : Frame s s')
    (frame' : Frame t t') :
    SimState (fun symbol => seen symbol ∨ (none : Option String) = some symbol) s' t' where
  books := books
  pending := frame.pending.trans sim.pending
  pending' := frame'.pending.trans sim.pending'
  prices := by
    intro other wasSeen
    have seenBefore : seen other := wasSeen.resolve_right (by rintro ⟨⟩)
    rw [frame.lastPrice, frame'.lastPrice, frame.lastCandle, frame'.lastCandle]
    exact sim.prices other seenBefore

/-- One call of a live adapter keeps two states in step. -/
theorem SimState.step {seen : String → Prop} {s t : PaperExchange} (sim : SimState seen s t)
    (call : Call) (live : call.live = true)
    (known : ∀ symbol side qty reduceOnly,
      call.op = .placeMarketOrder symbol side qty reduceOnly → seen symbol)
    (alike : ∀ e ∈ call.entry cfg s, e.BooksAlike cfg.columns s.books t.books) :
    SimState (fun symbol => seen symbol ∨ call.observed = some symbol) (Paper.step cfg call s)
      (Paper.step cfg call t) := by
  obtain ⟨op, now, dbOutcomes⟩ := call
  have inStep : InStep { s with now := now, dbOutcomes := dbOutcomes }
      { t with now := now, dbOutcomes := dbOutcomes } :=
    ⟨⟨sim.books.tables, sim.books.uuids, sim.books.queued, sim.books.positions,
      sim.books.levels⟩, rfl, rfl, sim.pending, sim.pending'⟩
  have atCall : SimState seen { s with now := now, dbOutcomes := dbOutcomes }
      { t with now := now, dbOutcomes := dbOutcomes } :=
    ⟨inStep.books, sim.pending, sim.pending', sim.prices⟩
  cases op with
  | placeMarketOrder symbol side qty reduceOnly =>
      obtain ⟨samePrice, sameCandle⟩ := sim.prices symbol (known symbol side qty reduceOnly rfl)
      have frame := (placeMarketOrder_books cfg symbol side qty reduceOnly
        { s with now := now, dbOutcomes := dbOutcomes }).1
      have frame' := (placeMarketOrder_books cfg symbol side qty reduceOnly
        { t with now := now, dbOutcomes := dbOutcomes }).1
      exact atCall.framed (Sim.order inStep samePrice sameCandle side qty reduceOnly alike) frame
        frame'
  | setTradingStop symbol tpslMode slPrice tpPrice tpSize slType =>
      have frame := (setTradingStop_books cfg symbol tpslMode slPrice tpPrice tpSize slType
        { s with now := now, dbOutcomes := dbOutcomes }).1
      have frame' := (setTradingStop_books cfg symbol tpslMode slPrice tpPrice tpSize slType
        { t with now := now, dbOutcomes := dbOutcomes }).1
      exact atCall.framed (Sim.stop inStep symbol tpslMode slPrice tpPrice tpSize slType) frame
        frame'
  | onCandle candle =>
      simp only [Call.entry] at alike
      simp only [Paper.step, Op.apply, onCandle, Call.observed]
      cases isClosed : candle.isClosed with
      | false =>
          refine ⟨inStep.books, sim.pending, sim.pending', fun other wasSeen => ?_⟩
          exact sim.prices other (wasSeen.resolve_right (by simp))
      | true =>
          rw [isClosed, if_pos rfl] at alike
          have cached := inStep.cacheCandle candle
          have after := checkAndDrain_inStep cfg cached candle.symbol candle.low candle.high alike
          have frame := (checkAndDrain_outcome cfg candle.symbol candle.low candle.high
            cached.pending).1
          have frame' := (checkAndDrain_outcome cfg candle.symbol candle.low candle.high
            cached.pending').1
          refine ⟨after.books, after.pending, after.pending', fun other wasSeen => ?_⟩
          simp only [if_true, frame.lastPrice, frame'.lastPrice, frame.lastCandle,
            frame'.lastCandle] at wasSeen ⊢
          exact cacheCandle_prices sim.prices candle wasSeen
  | processReplayCandle ohlc => cases live

/-- A whole run keeps two processes in step: where the one runs to its end, the other does. -/
theorem SimState.run {calls : List Call} :
    ∀ {seen : String → Prop} {p q : Process}, SimState seen p.exchange q.exchange →
      q.waiting = false → OrdersAfterPrices seen calls →
      RunGuarded (ExitsAlike cfg) (stepBoth cfg) (p, q) calls →
      (Lib.run (Process.step cfg) p calls).waiting = false →
      (Lib.run (Process.step cfg) q calls).waiting = false ∧
        ∃ seen', SimState seen' (Lib.run (Process.step cfg) p calls).exchange
          (Lib.run (Process.step cfg) q calls).exchange := by
  induction calls with
  | nil => exact fun sim running _ _ _ => ⟨running, _, sim⟩
  | cons call calls ih =>
      intro seen p q sim running known alike runs
      rw [run_cons, run_cons] at *
      obtain ⟨-, ⟨notLive, stays⟩ | ⟨live, moves, room⟩⟩ :=
        Process.step_running (Process.running_of_run runs)
      · -- no operation of a live adapter: neither process moves
        have stays' : q.step cfg call = q := by
          rw [Process.step, notLive, Bool.not_false, Bool.or_true, if_pos rfl]
        have unobserved : call.observed = none := by
          obtain ⟨op, _, _⟩ := call
          cases op with
          | processReplayCandle ohlc => rfl
          | _ => cases notLive
        have known' := known.2
        have alike' := alike.2
        rw [stepBoth, stays, stays'] at alike'
        rw [stays] at runs ⊢
        rw [stays']
        refine ih ⟨sim.books, sim.pending, sim.pending', ?_⟩ running known' alike'
          runs
        intro symbol wasSeen
        rw [unobserved] at wasSeen
        exact sim.prices symbol (wasSeen.resolve_right (by rintro ⟨⟩))
      · have stepped := sim.step call live known.1 alike.1
        -- the events of the one find room, so do those of the other
        have moves' : q.step cfg call = { exchange := Paper.step cfg call q.exchange } := by
          have room' : (Paper.step cfg call q.exchange).executionQueue.length ≤
              eventQueueMaxsize := stepped.books.queued.trans room
          rw [Process.step, running, live, Bool.not_true, Bool.or_self,
            if_neg Bool.false_ne_true]
          exact if_pos room'
        have alike' := alike.2
        rw [stepBoth, moves, moves'] at alike'
        rw [moves] at runs ⊢
        rw [moves']
        exact ih stepped rfl known.2 alike' runs

/-! ## The restarted process -/

/-- The operator's call for a symbol: the stops that were in force. -/
def reissueCall (s : PaperExchange) (symbol : String) : Call :=
  { op := .setTradingStop symbol (s.stopsOf symbol).tpslMode (s.stopsOf symbol).slPrice
      (s.stopsOf symbol).tpPrice (s.stopsOf symbol).tpSize none }

/-- Start-up, and the stops set again on every hydrated symbol. -/
def restarted (cfg : Config) (s : PaperExchange) : PaperExchange :=
  run (step cfg) (restart cfg s)
    ((selectPaperPositionsForHydrate cfg.botId s.db).map fun row =>
      reissueCall s row.position.symbol)

/-- What setting the stops again keeps. -/
structure Reissued (t t' : PaperExchange) : Prop where
  positions : ∀ symbol, t'.openPosition symbol = t.openPosition symbol
  tables : SameTables t.db t'.db
  uuids : t'.uuids = t.uuids
  queued : t'.executionQueue = t.executionQueue
  pending : t'.pendingSlTpFills = t.pendingSlTpFills
  lastPrice : t'.lastPrice = t.lastPrice

theorem Reissued.trans {first second third : PaperExchange} (left : Reissued first second)
    (right : Reissued second third) : Reissued first third :=
  ⟨fun symbol => (right.positions symbol).trans (left.positions symbol),
    left.tables.trans right.tables, right.uuids.trans left.uuids,
    right.queued.trans left.queued, right.pending.trans left.pending,
    right.lastPrice.trans left.lastPrice⟩

end Scalper.Paper
