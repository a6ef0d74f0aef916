import Scalper.Paper.Quantity

/-!
# The profit and fee ledger of a paper trade

A trade's executions are the emitted ones whose rows carry the trade's id: one entry and any
number of exits.  Every exit leg adds its profit, rounded to four decimals, to a running
total; the entry fee is kept back for the last leg.

`run_pnlLedger` follows a trade from its opening to its closed row: the stored profit differs
from the signed price moves of all exits minus every fee once by at most half a unit of the
fourth decimal for each exit, and the stored fees are the sum of all fees at the scale of
their column.
-/

set_option autoImplicit false

namespace Scalper.Paper

open Scalper.Lib Scalper.Exchange

variable {cfg : Config} {b : Books}

/-! ## The executions of a trade -/

/-- The emitted executions whose rows belong to a trade and are of a kind. -/
def Books.executionsOf (b : Books) (tradeId : ℕ) (kind : ExecType → Bool) :
    List (ExecutionEvent Uuid) :=
  b.executionQueue.filter fun event =>
    b.db.executions.any fun row =>
      row.exchangeExecId == event.exchangeExecId && row.tradeId == tradeId && kind row.execType

def isEntry (execType : ExecType) : Bool := execType == .openFill

def isExit (execType : ExecType) : Bool := execType != .openFill

def feeSum (events : List (ExecutionEvent Uuid)) : ℚ := (events.map (·.fee)).sum

/-- The side-signed price moves of exits from an entry price. -/
def moveSum (side : Side) (entryPrice : ℚ) (events : List (ExecutionEvent Uuid)) : ℚ :=
  (events.map fun event => side.sign * (event.price - entryPrice) * event.qty).sum

/-- An execution and its event under a fresh id belong to the trade of the row alone. -/
theorem executionsOf_append (consistent : Consistent b) (row : PaperExecution)
    {event : ExecutionEvent Uuid} (freshRow : row.exchangeExecId = b.uuids)
    (freshEvent : event.exchangeExecId = b.uuids) {b' : Books}
    (events : b'.executionQueue = b.executionQueue ++ [event])
    (rows : b'.db.executions = b.db.executions ++ [row]) (tradeId : ℕ) (kind : ExecType → Bool) :
    b'.executionsOf tradeId kind =
      b.executionsOf tradeId kind ++
        if row.tradeId = tradeId ∧ kind row.execType = true then [event] else [] := by
  unfold Books.executionsOf
  rw [events, rows, List.filter_append]
  congr 1
  · refine List.filter_congr fun old member => ?_
    have older : old.exchangeExecId < b.uuids := consistent.eventsFresh old member
    have differs : (row.exchangeExecId == old.exchangeExecId) = false := by
      rw [beq_eq_false_iff_ne, freshRow]
      exact older.ne'
    simp [List.any_append, differs]
  · have none : b.db.executions.any (fun old => old.exchangeExecId == event.exchangeExecId &&
        old.tradeId == tradeId && kind old.execType) = false := by
      rw [List.any_eq_false]
      intro old member
      have older : old.exchangeExecId < b.uuids := (consistent.executionsFresh old member).2
      have differs : (old.exchangeExecId == event.exchangeExecId) = false := by
        rw [beq_eq_false_iff_ne, freshEvent]
        exact older.ne
      simp [differs]
    by_cases matched : row.tradeId = tradeId ∧ kind row.execType = true
    · rw [if_pos matched]
      simp [List.any_append, freshRow, freshEvent, matched]
    · rw [if_neg matched]
      rw [not_and] at matched
      by_cases sameTrade : row.tradeId = tradeId
      · simp [List.any_append, none, sameTrade, matched sameTrade]
      · simp [List.any_append, none, sameTrade]

theorem executionsOf_next (consistent : Consistent b) (kind : ExecType → Bool) :
    b.executionsOf b.db.nextTradeId kind = [] := by
  unfold Books.executionsOf
  rw [List.filter_eq_nil_iff]
  intro event _ matched
  rw [List.any_eq_true] at matched
  obtain ⟨row, member, same⟩ := matched
  have older := (consistent.executionsFresh row member).1
  simp only [Bool.and_eq_true, beq_iff_eq] at same
  omega

@[simp] theorem feeSum_nil : feeSum [] = 0 := rfl

@[simp] theorem moveSum_nil (side : Side) (entryPrice : ℚ) : moveSum side entryPrice [] = 0 := rfl

theorem feeSum_append (events : List (ExecutionEvent Uuid)) (event : ExecutionEvent Uuid) :
    feeSum (events ++ [event]) = feeSum events + event.fee := by
  simp [feeSum]

theorem moveSum_append (side : Side) (entryPrice : ℚ) (events : List (ExecutionEvent Uuid))
    (event : ExecutionEvent Uuid) :
    moveSum side entryPrice (events ++ [event]) =
      moveSum side entryPrice events + side.sign * (event.price - entryPrice) * event.qty := by
  simp [moveSum]

/-! ## The running ledger -/

/-- Half a unit of the fourth decimal for each rounded leg. -/
def roundingBound (legs : ℕ) : ℚ := legs * (1 / 2 / 10 ^ 4)

theorem grossPnl_eq (side : Side) (entryPrice exitPrice qty : ℚ) :
    grossPnl side entryPrice exitPrice qty = side.sign * (exitPrice - entryPrice) * qty := by
  cases side <;> simp only [grossPnl, Side.sign] <;> ring

/-- A rounded leg moves a total that is within its bound to one within the next bound. -/
theorem rounded_leg_le {total exact : ℚ} {legs : ℕ} (leg : ℚ)
    (close : |total - exact| ≤ roundingBound legs) :
    |total + quantize 4 leg - (exact + leg)| ≤ roundingBound (legs + 1) := by
  have rounded := abs_quantize_sub_le 4 leg
  have split : total + quantize 4 leg - (exact + leg) =
      (total - exact) + (quantize 4 leg - leg) := by ring
  have bound : roundingBound (legs + 1) = roundingBound legs + 1 / 2 / 10 ^ 4 := by
    unfold roundingBound
    push_cast
    ring
  rw [split, bound]
  exact (abs_add_le _ _).trans (add_le_add close rounded)

/-- What a position's memory says about its executions so far. -/
structure Running (b : Books) (position : OpenPosition) : Prop where
  entry : ∃ entry, b.executionsOf position.tradeId isEntry = [entry] ∧
    entry.side = position.side ∧ entry.price = position.entryPrice ∧
    entry.fee = position.entryFee
  fees : position.feesPaid =
    position.entryFee + feeSum (b.executionsOf position.tradeId isExit)
  grid : OnGrid 4 position.realizedPnl
  close : |position.realizedPnl -
      (moveSum position.side position.entryPrice (b.executionsOf position.tradeId isExit) -
        feeSum (b.executionsOf position.tradeId isExit))| ≤
    roundingBound (b.executionsOf position.tradeId isExit).length

/-- What a closed trade's row says about its executions. -/
def Settled (b : Books) (row : PaperTrade) : Prop :=
  ∃ entry realizedPnl, b.executionsOf row.id isEntry = [entry] ∧
    row.realizedPnl = some realizedPnl ∧
    |realizedPnl -
        (moveSum entry.side entry.price (b.executionsOf row.id isExit) -
          (entry.fee + feeSum (b.executionsOf row.id isExit)))| ≤
      roundingBound (b.executionsOf row.id isExit).length ∧
    row.feesPaid = numeric 4 (entry.fee + feeSum (b.executionsOf row.id isExit))

/-- Open and settled trades both account for their executions. -/
structure PnlLedger (b : Books) : Prop where
  running : ∀ symbol position, b.openPosition symbol = some position → Running b position
  settled : ∀ row ∈ b.db.trades, row.status = .closed → Settled b row

theorem PnlLedger.initial : PnlLedger (PaperExchange.books {}) where
  running := by intro symbol position held; cases held
  settled := by intro row member; cases member

/-- The ledger of a trade depends on its executions only. -/
theorem Running.congr {b' : Books} {position : OpenPosition} (running : Running b position)
    (same : ∀ kind, b'.executionsOf position.tradeId kind =
      b.executionsOf position.tradeId kind) : Running b' position := by
  obtain ⟨entry, fees, grid, close⟩ := running
  exact ⟨by rw [same]; exact entry, by rw [same]; exact fees, grid, by rw [same]; exact close⟩

theorem Settled.congr {b' : Books} {row : PaperTrade} (settled : Settled b row)
    (same : ∀ kind, b'.executionsOf row.id kind = b.executionsOf row.id kind) :
    Settled b' row := by
  unfold Settled at *
  rw [same, same]
  exact settled

/-! ## Entries -/

theorem executionsOf_opened (consistent : Consistent b) {t : OrderTicket}
    (allowed : (Entry.opened t).Allowed cfg b) (tradeId : ℕ) (kind : ExecType → Bool) :
    ((Entry.opened t).apply cfg b).executionsOf tradeId kind =
      b.executionsOf tradeId kind ++
        if b.db.nextTradeId = tradeId ∧ kind .openFill = true then [t.event] else [] :=
  executionsOf_append consistent
    ((t.executionRow cfg b.db.nextOrderId b.db.nextTradeId .openFill).stored cfg.columns)
    allowed.1 allowed.1 rfl rfl tradeId kind

section Legs

variable {leg : ExitLeg} {stops : TradingStops} {position : OpenPosition}

theorem executionsOf_reduced (consistent : Consistent b)
    (found : b.activePositions leg.symbol = some { stops := stops, position := some position })
    (tradeId : ℕ) (kind : ExecType → Bool) :
    ((Entry.reduced leg).apply cfg b).executionsOf tradeId kind =
      b.executionsOf tradeId kind ++
        if position.tradeId = tradeId ∧ kind leg.execType = true then [leg.event b.uuids]
        else [] := by
  rw [apply_reduced found]
  exact executionsOf_append consistent
    ((leg.execution cfg b.uuids b.db.nextOrderId position.tradeId).stored cfg.columns)
    rfl rfl rfl rfl tradeId kind

theorem executionsOf_closed (consistent : Consistent b)
    (found : b.activePositions leg.symbol = some { stops := stops, position := some position })
    (tradeId : ℕ) (kind : ExecType → Bool) :
    ((Entry.closed leg).apply cfg b).executionsOf tradeId kind =
      b.executionsOf tradeId kind ++
        if position.tradeId = tradeId ∧ kind leg.execType = true then [leg.event b.uuids]
        else [] := by
  rw [apply_closed found]
  exact executionsOf_append consistent
    ((leg.execution cfg b.uuids b.db.nextOrderId position.tradeId).stored cfg.columns)
    rfl rfl rfl rfl tradeId kind

end Legs

theorem PnlLedger.opened (ledger : PnlLedger b) (consistent : Consistent b) {t : OrderTicket}
    (allowed : (Entry.opened t).Allowed cfg b) :
    PnlLedger ((Entry.opened t).apply cfg b) := by
  have others : ∀ {tradeId}, tradeId < b.db.nextTradeId → ∀ kind,
      ((Entry.opened t).apply cfg b).executionsOf tradeId kind = b.executionsOf tradeId kind := by
    intro tradeId older kind
    rw [executionsOf_opened consistent allowed, if_neg (fun same => by omega), List.append_nil]
  refine ⟨?_, ?_⟩
  · intro symbol position held
    rw [openPosition_opened] at held
    split at held
    · cases held
      have entries : ((Entry.opened t).apply cfg b).executionsOf b.db.nextTradeId isEntry =
          [t.event] := by
        rw [executionsOf_opened consistent allowed, executionsOf_next consistent,
          if_pos ⟨rfl, rfl⟩, List.nil_append]
      have exits : ((Entry.opened t).apply cfg b).executionsOf b.db.nextTradeId isExit = [] := by
        rw [executionsOf_opened consistent allowed, executionsOf_next consistent,
          if_neg (fun same => by cases same.2), List.append_nil]
      refine ⟨⟨t.event, entries, rfl, rfl, rfl⟩, ?_, onGrid_zero 4, ?_⟩
      · show t.fee = t.fee + feeSum (Books.executionsOf _ b.db.nextTradeId isExit)
        rw [exits, feeSum_nil, add_zero]
      · show |0 - (moveSum _ _ (Books.executionsOf _ b.db.nextTradeId isExit) -
          feeSum (Books.executionsOf _ b.db.nextTradeId isExit))| ≤
          roundingBound (Books.executionsOf _ b.db.nextTradeId isExit).length
        rw [exits]
        simp [roundingBound]
    · exact (ledger.running symbol position held).congr (others (consistent.tradeId_lt held))
  · intro row member isClosed
    rcases List.mem_append.mp member with old | new
    · exact (ledger.settled row old isClosed).congr (others (consistent.tradesFresh row old))
    · rw [List.mem_singleton] at new
      subst new
      cases isClosed

theorem PnlLedger.reduced (ledger : PnlLedger b) (consistent : Consistent b) {leg : ExitLeg}
    (allowed : (Entry.reduced leg).Allowed cfg b) :
    PnlLedger ((Entry.reduced leg).apply cfg b) := by
  obtain ⟨isTp, stops, position, found, _⟩ := allowed
  have held := openPosition_of_active found
  have others : ∀ {tradeId}, position.tradeId ≠ tradeId → ∀ kind,
      ((Entry.reduced leg).apply cfg b).executionsOf tradeId kind =
        b.executionsOf tradeId kind := by
    intro tradeId differs kind
    rw [executionsOf_reduced consistent found, if_neg (fun same => differs same.1),
      List.append_nil]
  refine ⟨?_, ?_⟩
  · intro symbol p heldAfter
    rcases openPosition_of_reduced found heldAfter with ⟨rfl, rfl⟩ | ⟨differs, heldBefore⟩
    · obtain ⟨⟨entry, entries, sameSide, samePrice, sameFee⟩, fees, grid, close⟩ :=
        ledger.running leg.symbol position held
      have entriesAfter : ((Entry.reduced leg).apply cfg b).executionsOf position.tradeId isEntry =
          [entry] := by
        rw [executionsOf_reduced consistent found, isTp, if_neg (fun same => by cases same.2),
          List.append_nil, entries]
      have exitsAfter : ((Entry.reduced leg).apply cfg b).executionsOf position.tradeId isExit =
          b.executionsOf position.tradeId isExit ++ [leg.event b.uuids] := by
        rw [executionsOf_reduced consistent found, isTp, if_pos ⟨rfl, rfl⟩]
      refine ⟨⟨entry, entriesAfter, sameSide, samePrice, sameFee⟩, ?_,
        grid.add (onGrid_quantize 4 _), ?_⟩
      · show position.feesPaid + leg.fee =
          position.entryFee + feeSum (Books.executionsOf _ position.tradeId isExit)
        rw [exitsAfter, feeSum_append, fees]
        show _ + leg.fee = position.entryFee + (_ + leg.fee)
        ring
      · show |position.realizedPnl + leg.partialPnl position -
          (moveSum position.side position.entryPrice
              (Books.executionsOf _ position.tradeId isExit) -
            feeSum (Books.executionsOf _ position.tradeId isExit))| ≤
          roundingBound (Books.executionsOf _ position.tradeId isExit).length
        rw [exitsAfter, feeSum_append, moveSum_append, List.length_append]
        have bound := rounded_leg_le (grossPnl position.side position.entryPrice leg.price
          leg.qty - 0 - leg.fee) close
        rw [grossPnl_eq] at bound
        refine le_trans (le_of_eq ?_) bound
        show |position.realizedPnl + quantize 4 (grossPnl position.side position.entryPrice
          leg.price leg.qty - 0 - leg.fee) - _| = _
        rw [grossPnl_eq]
        congr 1
        show _ - (_ + position.side.sign * (leg.price - position.entryPrice) * leg.qty -
          (_ + leg.fee)) = _
        ring
    · exact (ledger.running symbol p heldBefore).congr
        (others (consistent.tradeId_ne differs.symm held heldBefore))
  · intro row member isClosed
    rw [apply_reduced found] at member
    obtain ⟨old, oldMember, ⟨matched, rfl⟩ | ⟨unmatched, rfl⟩⟩ := mem_updateWhere.mp member
    · have isOpen := consistent.tradeOpen leg.symbol position held old oldMember
        (by simpa using matched)
      rw [show old.status = .closed from isClosed] at isOpen
      cases isOpen
    · have otherTrade : position.tradeId ≠ row.id := fun same => by simp [same] at unmatched
      exact (ledger.settled row oldMember isClosed).congr (others otherTrade)

theorem PnlLedger.closed (postgres : cfg.columns = Columns.postgres) (ledger : PnlLedger b)
    (consistent : Consistent b) {leg : ExitLeg} (allowed : (Entry.closed leg).Allowed cfg b)
    (whole : (Entry.closed leg).Whole b) : PnlLedger ((Entry.closed leg).apply cfg b) := by
  obtain ⟨notOpen, stops, position, found, _, _⟩ := allowed
  have held := openPosition_of_active found
  have others : ∀ {tradeId}, position.tradeId ≠ tradeId → ∀ kind,
      ((Entry.closed leg).apply cfg b).executionsOf tradeId kind =
        b.executionsOf tradeId kind := by
    intro tradeId differs kind
    rw [executionsOf_closed consistent found, if_neg (fun same => differs same.1),
      List.append_nil]
  refine ⟨?_, ?_⟩
  · intro symbol p heldAfter
    obtain ⟨differs, heldBefore⟩ := openPosition_of_closed found heldAfter
    exact (ledger.running symbol p heldBefore).congr
      (others (consistent.tradeId_ne differs.symm held heldBefore))
  · intro row member isClosed
    rcases mem_trades_closed found member with ⟨oldMember, otherId⟩ | ⟨sameId, _, old, _, written⟩
    · exact (ledger.settled row oldMember isClosed).congr (others otherId.symm)
    · obtain ⟨⟨entry, entries, sameSide, samePrice, sameFee⟩, fees, grid, close⟩ :=
        ledger.running leg.symbol position held
      have taken := whole leg position rfl held
      have entriesAfter : ((Entry.closed leg).apply cfg b).executionsOf position.tradeId isEntry =
          [entry] := by
        rw [executionsOf_closed consistent found, if_neg (fun same => notOpen (by
          simpa [isEntry] using same.2)), List.append_nil, entries]
      have exitsAfter : ((Entry.closed leg).apply cfg b).executionsOf position.tradeId isExit =
          b.executionsOf position.tradeId isExit ++ [leg.event b.uuids] := by
        rw [executionsOf_closed consistent found, if_pos ⟨rfl, by simpa [isExit] using notOpen⟩]
      have total : OnGrid 4 (leg.closingPnl position + position.realizedPnl) :=
        (onGrid_quantize 4 _).add grid
      refine ⟨entry, leg.closingPnl position + position.realizedPnl, ?_, ?_, ?_, ?_⟩
      · rw [sameId, entriesAfter]
      · rw [written]
        show some (cfg.columns.money _) = _
        rw [postgres]
        exact congrArg some (numeric_of_onGrid total)
      · rw [sameId, exitsAfter, feeSum_append, moveSum_append, List.length_append, sameSide,
          samePrice, sameFee]
        have bound := rounded_leg_le (grossPnl position.side position.entryPrice leg.price
          position.qty - position.entryFee - leg.fee) close
        rw [grossPnl_eq] at bound
        refine le_trans (le_of_eq ?_) bound
        show |quantize 4 (grossPnl position.side position.entryPrice leg.price position.qty -
          position.entryFee - leg.fee) + position.realizedPnl - _| = _
        rw [grossPnl_eq]
        congr 1
        show _ - (_ + position.side.sign * (leg.price - position.entryPrice) * leg.qty -
          (position.entryFee + (_ + leg.fee))) = _
        rw [taken]
        ring
      · rw [sameId, exitsAfter, feeSum_append, written]
        show cfg.columns.money (position.feesPaid + leg.fee) = _
        rw [postgres, fees, sameFee]
        show numeric 4 _ = numeric 4 (position.entryFee + (_ + leg.fee))
        rw [add_assoc]

theorem PnlLedger.apply (postgres : cfg.columns = Columns.postgres) (ledger : PnlLedger b)
    (consistent : Consistent b) {e : Entry} (allowed : e.Allowed cfg b) (whole : e.Whole b) :
    PnlLedger (e.apply cfg b) := by
  cases e with
  | drawn =>
      exact ⟨fun symbol position held => (ledger.running symbol position held).congr fun _ => rfl,
        fun row member isClosed => (ledger.settled row member isClosed).congr fun _ => rfl⟩
  | restopped symbol stops persisted =>
      have same : ∀ tradeId kind, ((Entry.restopped symbol stops persisted).apply cfg
          b).executionsOf tradeId kind = b.executionsOf tradeId kind := by
        intro tradeId kind
        cases persisted <;> rfl
      refine ⟨?_, ?_⟩
      · intro symbol' position held
        rw [openPosition_restopped] at held
        exact (ledger.running symbol' position held).congr (same _)
      · intro row member isClosed
        have old : row ∈ b.db.trades := by cases persisted <;> exact member
        exact (ledger.settled row old isClosed).congr (same _)
  | opened t => exact ledger.opened consistent allowed
  | reduced leg => exact ledger.reduced consistent allowed
  | closed leg => exact ledger.closed postgres consistent allowed whole

/-! ## Runs -/

/-- **The paper ledger.**  In every run whose reduce-only orders ask for what remains, every
closed trade's stored profit is its exits' signed price moves minus all fees, each counted
once, up to the rounding of each leg; its stored fees are their sum at the column's scale. -/
theorem run_pnlLedger (postgres : cfg.columns = Columns.postgres) {calls : List Call}
    (asks : RunGuarded AsksRemaining (step cfg) {} calls) {row : PaperTrade}
    (member : row ∈ (run (step cfg) {} calls).db.trades) (isClosed : row.status = .closed) :
    Settled (run (step cfg) {} calls).books row := by
  have holds : AtRest (run (step cfg) {} calls) ∧
      PnlLedger (run (step cfg) {} calls).books := by
    refine run_invariant (fun s => AtRest s ∧ PnlLedger s.books) ?_
      ⟨AtRest.initial, PnlLedger.initial⟩ asks
    rintro s call ⟨atRest, ledger⟩ asksCall
    have both : Consistent (step cfg call s).books ∧ PnlLedger (step cfg call s).books :=
      (step_reaches_whole atRest asksCall).invariant (fun b => Consistent b ∧ PnlLedger b)
        (fun b e holds allowed whole =>
          ⟨holds.1.apply allowed, holds.2.apply postgres holds.1 allowed whole⟩)
        ⟨atRest.consistent, ledger⟩
    exact ⟨atRest.step call, both.2⟩
  exact holds.2.settled row member isClosed

/-! ## A trade with fees below the column's scale -/

/-- A paper exchange with a taker fee over the schema's columns. -/
def feeConfig : Config :=
  { botId := "bot", feeRate := 55 / 100000, slippageModel := .fixedPct 0, columns := .postgres }

/-- A long of 1 from 100.01: 0.6 leaves by a take-profit, the rest by a reduce-only order. -/
def partlyTaken : List Call :=
  [{ op := .onCandle (btcCandle 100 101 99 (10001 / 100)) },
   { op := .placeMarketOrder "BTCUSDT" .buy 1 false },
   { op := .setTradingStop "BTCUSDT" .Partial none (some 110) (some (3 / 5)) none },
   { op := .onCandle (btcCandle 105 112 105 111) },
   { op := .placeMarketOrder "BTCUSDT" .sell (2 / 5) true }]

/-- The ledger of that trade. -/
theorem partlyTaken_settled :
    RunGuarded AsksRemaining (step feeConfig) {} partlyTaken ∧
      ∃ row ∈ (run (step feeConfig) {} partlyTaken).db.trades, row.status = .closed ∧
        Settled (run (step feeConfig) {} partlyTaken).books row := by
  have asks : RunGuarded AsksRemaining (step feeConfig) {} partlyTaken := by decide +kernel
  have closed : ∃ row ∈ (run (step feeConfig) {} partlyTaken).db.trades,
      row.status = .closed := by
    decide +kernel
  obtain ⟨row, member, isClosed⟩ := closed
  exact ⟨asks, row, member, isClosed, run_pnlLedger rfl asks member isClosed⟩

/-- The three fees of that trade add up to 0.1157255; the row keeps 0.1157. -/
theorem stored_fees_rounded :
    ¬ ∀ calls : List Call, RunGuarded AsksRemaining (step feeConfig) {} calls →
      ∀ row ∈ (run (step feeConfig) {} calls).db.trades, row.status = .closed →
        row.feesPaid =
          feeSum ((run (step feeConfig) {} calls).books.executionsOf row.id fun _ => true) := by
  intro always
  have asks : RunGuarded AsksRemaining (step feeConfig) {} partlyTaken := by decide +kernel
  have exact := always partlyTaken asks
  revert exact
  decide +kernel

end Scalper.Paper
