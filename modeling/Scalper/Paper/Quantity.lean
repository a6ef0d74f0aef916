import Scalper.Paper.Consistency
import Mathlib.Tactic.Linarith

/-!
# Quantity conservation

A trade is opened with a quantity and closed by executions.  `QuantityConserved` says that
the remaining quantity in memory is never negative, that the exits of a trade never exceed
what it was opened with, and that they add up to it once the trade is closed.

The ledger equation between memory and executions holds along every run whose reduce-only
orders ask for the remaining quantity (`Ledger.apply`).  What it does not give is the sign:
a partial take-profit stays in force after it has been taken, so the same level can be taken
again, from a later candle or a later segment of the same candle, until more has left the
position than was in it.  `SoundCall` is the condition on one call that rules this out, and
`run_quantityConserved` is conservation for every run of such calls.
-/

set_option autoImplicit false

namespace Scalper.Paper

open Scalper.Lib Scalper.Exchange

variable {cfg : Config} {b : Books}

/-! ## Execution sums after each entry -/

theorem openedQty_afterOpen (t : OrderTicket) (db : PaperDb) (tradeId : ℕ) :
    (db.afterOpen cfg t).openedQty tradeId =
      db.openedQty tradeId + if db.nextTradeId = tradeId then cfg.columns.qty t.qty else 0 := by
  unfold PaperDb.openedQty PaperDb.afterOpen
  rw [sumWhere_append]
  simp [PaperExecution.stored, OrderTicket.executionRow]

theorem exitQty_afterOpen (t : OrderTicket) (db : PaperDb) (tradeId : ℕ) :
    (db.afterOpen cfg t).exitQty tradeId = db.exitQty tradeId := by
  unfold PaperDb.exitQty PaperDb.afterOpen
  rw [sumWhere_append]
  simp [PaperExecution.stored, OrderTicket.executionRow]

section Legs

variable {leg : ExitLeg} {uuid : Uuid} {tradeId : ℕ}

theorem openedQty_recordLeg (isExit : leg.execType ≠ .openFill) (db : PaperDb) (other : ℕ) :
    (db.recordLeg cfg leg uuid tradeId).openedQty other = db.openedQty other := by
  unfold PaperDb.openedQty PaperDb.recordLeg
  rw [sumWhere_append]
  simp [PaperExecution.stored, ExitLeg.execution, isExit]

theorem exitQty_recordLeg (isExit : leg.execType ≠ .openFill) (db : PaperDb) (other : ℕ) :
    (db.recordLeg cfg leg uuid tradeId).exitQty other =
      db.exitQty other + if tradeId = other then cfg.columns.qty leg.qty else 0 := by
  unfold PaperDb.exitQty PaperDb.recordLeg
  rw [sumWhere_append]
  simp [PaperExecution.stored, ExitLeg.execution, isExit]

end Legs

/-- A trade that is still to be created has no executions. -/
theorem Consistent.openedQty_next (consistent : Consistent b) :
    b.db.openedQty b.db.nextTradeId = 0 := by
  refine sumWhere_eq_zero fun row member => ?_
  have older := (consistent.executionsFresh row member).1
  have differs : row.tradeId ≠ b.db.nextTradeId := by omega
  simp [differs]

theorem Consistent.exitQty_next (consistent : Consistent b) :
    b.db.exitQty b.db.nextTradeId = 0 := by
  refine sumWhere_eq_zero fun row member => ?_
  have older := (consistent.executionsFresh row member).1
  have differs : row.tradeId ≠ b.db.nextTradeId := by omega
  simp [differs]

/-! ## The ledger equation -/

/-- A closing leg takes the whole remaining quantity. -/
def Entry.Whole (b : Books) (e : Entry) : Prop :=
  ∀ leg position, e = .closed leg → b.openPosition leg.symbol = some position →
    leg.qty = position.qty

/-- Memory and executions agree on what is left, and nothing is left of a closed trade. -/
structure Ledger (b : Books) : Prop where
  remaining : ∀ symbol position, b.openPosition symbol = some position →
    position.qty = b.db.openedQty position.tradeId - b.db.exitQty position.tradeId
  settled : ∀ row ∈ b.db.trades, row.status = .closed →
    b.db.exitQty row.id = b.db.openedQty row.id

theorem Ledger.initial : Ledger (PaperExchange.books {}) where
  remaining := by intro symbol position held; cases held
  settled := by intro row member; cases member

section Preservation

variable (exactColumns : cfg.columns = Columns.exact)

include exactColumns

theorem Ledger.opened (ledger : Ledger b) (consistent : Consistent b) {t : OrderTicket} :
    Ledger ((Entry.opened t).apply cfg b) := by
  have sums : ∀ tradeId, ((Entry.opened t).apply cfg b).db.openedQty tradeId =
      b.db.openedQty tradeId + if b.db.nextTradeId = tradeId then t.qty else 0 := by
    intro tradeId
    refine (openedQty_afterOpen t b.db tradeId).trans ?_
    rw [exactColumns]
    rfl
  have exits : ∀ tradeId, ((Entry.opened t).apply cfg b).db.exitQty tradeId =
      b.db.exitQty tradeId := exitQty_afterOpen t b.db
  refine ⟨?_, ?_⟩
  · intro symbol position held
    rw [openPosition_opened] at held
    split at held
    · cases held
      have sum := sums b.db.nextTradeId
      have exit := exits b.db.nextTradeId
      rw [consistent.openedQty_next, if_pos rfl, zero_add] at sum
      rw [consistent.exitQty_next] at exit
      show t.qty = _ - _
      rw [show (t.position b.db.nextTradeId).tradeId = b.db.nextTradeId from rfl, sum, exit,
        sub_zero]
    · have older := consistent.tradeId_lt held
      rw [sums, exits, if_neg (by omega), add_zero]
      exact ledger.remaining symbol position held
  · intro row member isClosed
    rcases List.mem_append.mp member with old | new
    · have older := consistent.tradesFresh row old
      rw [sums, exits, if_neg (by omega), add_zero]
      exact ledger.settled row old isClosed
    · rw [List.mem_singleton] at new
      subst new
      cases isClosed

/-- The two sums after an exit leg of the position of its symbol. -/
theorem sums_recordLeg {leg : ExitLeg} {position : OpenPosition} (isExit : leg.execType ≠ .openFill)
    (tradeId : ℕ) :
    (b.db.recordLeg cfg leg b.uuids position.tradeId).openedQty tradeId -
        (b.db.recordLeg cfg leg b.uuids position.tradeId).exitQty tradeId =
      b.db.openedQty tradeId - b.db.exitQty tradeId -
        if position.tradeId = tradeId then leg.qty else 0 := by
  rw [openedQty_recordLeg isExit, exitQty_recordLeg isExit, exactColumns]
  show _ - (_ + if _ then leg.qty else 0) = _
  ring

theorem Ledger.reduced (ledger : Ledger b) (consistent : Consistent b) {leg : ExitLeg}
    (allowed : (Entry.reduced leg).Allowed cfg b) :
    Ledger ((Entry.reduced leg).apply cfg b) := by
  obtain ⟨isTp, stops, position, found, _⟩ := allowed
  have held := openPosition_of_active found
  have isExit : leg.execType ≠ .openFill := by rw [isTp]; decide
  have sums : ∀ tradeId, ((Entry.reduced leg).apply cfg b).db.openedQty tradeId -
      ((Entry.reduced leg).apply cfg b).db.exitQty tradeId =
      b.db.openedQty tradeId - b.db.exitQty tradeId -
        if position.tradeId = tradeId then leg.qty else 0 := by
    intro tradeId
    rw [apply_reduced found]
    exact sums_recordLeg exactColumns isExit tradeId
  refine ⟨?_, ?_⟩
  · intro symbol p heldAfter
    rcases openPosition_of_reduced found heldAfter with ⟨rfl, rfl⟩ | ⟨differs, heldBefore⟩
    · rw [sums]
      show position.qty - leg.qty = _ - if position.tradeId = position.tradeId then leg.qty else 0
      rw [if_pos rfl, ledger.remaining leg.symbol position held]
      rfl
    · rw [sums, if_neg (consistent.tradeId_ne differs.symm held heldBefore), sub_zero]
      exact ledger.remaining symbol p heldBefore
  · intro row member isClosed
    obtain ⟨old, oldMember, sameId, sameStatus⟩ := mem_trades_reduced found member
    rw [sameStatus] at isClosed
    have otherTrade : position.tradeId ≠ old.id := fun same => by
      have isOpen := consistent.tradeOpen leg.symbol position held old oldMember same.symm
      rw [isClosed] at isOpen
      cases isOpen
    have before := ledger.settled old oldMember isClosed
    have after := sums old.id
    rw [if_neg otherTrade] at after
    rw [sameId]
    linarith

theorem Ledger.closed (ledger : Ledger b) (consistent : Consistent b) {leg : ExitLeg}
    (allowed : (Entry.closed leg).Allowed cfg b) (whole : (Entry.closed leg).Whole b) :
    Ledger ((Entry.closed leg).apply cfg b) := by
  obtain ⟨isExit, stops, position, found, _, _⟩ := allowed
  have held := openPosition_of_active found
  have sums : ∀ tradeId, ((Entry.closed leg).apply cfg b).db.openedQty tradeId -
      ((Entry.closed leg).apply cfg b).db.exitQty tradeId =
      b.db.openedQty tradeId - b.db.exitQty tradeId -
        if position.tradeId = tradeId then leg.qty else 0 := by
    intro tradeId
    rw [apply_closed found]
    exact sums_recordLeg exactColumns isExit tradeId
  refine ⟨?_, ?_⟩
  · intro symbol p heldAfter
    obtain ⟨differs, heldBefore⟩ := openPosition_of_closed found heldAfter
    rw [sums, if_neg (consistent.tradeId_ne differs.symm held heldBefore), sub_zero]
    exact ledger.remaining symbol p heldBefore
  · intro row member isClosed
    have after := sums row.id
    rcases mem_trades_closed found member with ⟨oldMember, otherId⟩ | ⟨sameId, _, _⟩
    · have before := ledger.settled row oldMember isClosed
      rw [if_neg otherId.symm] at after
      linarith
    · have remaining := ledger.remaining leg.symbol position held
      have taken := whole leg position rfl held
      rw [sameId] at after ⊢
      rw [if_pos rfl] at after
      linarith

/-- Every allowed entry whose closes are whole keeps the ledger. -/
theorem Ledger.apply (ledger : Ledger b) (consistent : Consistent b) {e : Entry}
    (allowed : e.Allowed cfg b) (whole : e.Whole b) : Ledger (e.apply cfg b) := by
  cases e with
  | drawn => exact ⟨ledger.remaining, ledger.settled⟩
  | restopped symbol stops persisted =>
      have sameDb : ∀ persisted : Bool,
          ((Entry.restopped symbol stops persisted).apply cfg b).db.executions = b.db.executions ∧
          ((Entry.restopped symbol stops persisted).apply cfg b).db.trades = b.db.trades := by
        intro persisted
        cases persisted <;> exact ⟨rfl, rfl⟩
      refine ⟨?_, ?_⟩
      · intro symbol' position held
        rw [openPosition_restopped] at held
        unfold PaperDb.openedQty PaperDb.exitQty
        rw [(sameDb persisted).1]
        exact ledger.remaining symbol' position held
      · intro row member isClosed
        rw [(sameDb persisted).2] at member
        unfold PaperDb.openedQty PaperDb.exitQty
        rw [(sameDb persisted).1]
        exact ledger.settled row member isClosed
  | opened t => exact ledger.opened exactColumns consistent
  | reduced leg => exact ledger.reduced exactColumns consistent allowed
  | closed leg => exact ledger.closed exactColumns consistent allowed whole

end Preservation

/-- A reduce-only order asks for what remains of the position. -/
def AsksRemaining (s : PaperExchange) (call : Call) : Prop :=
  match call.op with
  | .placeMarketOrder symbol _ qty true => ∀ position ∈ s.openPosition symbol, qty = position.qty
  | _ => True

instance : ∀ (s : PaperExchange) (call : Call), Decidable (AsksRemaining s call)
  | s, ⟨.placeMarketOrder symbol _ _ true, _, _⟩ =>
      inferInstanceAs (Decidable (∀ position ∈ s.openPosition symbol, _))
  | _, ⟨.placeMarketOrder _ _ _ false, _, _⟩ => isTrue trivial
  | _, ⟨.setTradingStop .., _, _⟩ => isTrue trivial
  | _, ⟨.onCandle _, _, _⟩ => isTrue trivial
  | _, ⟨.processReplayCandle _, _, _⟩ => isTrue trivial

/-- The entries of such a call close positions whole. -/
theorem step_reaches_whole {s : PaperExchange} (atRest : AtRest s) {call : Call}
    (asks : AsksRemaining s call) :
    Reaches cfg (fun b e => e.Whole b) s.books (step cfg call s).books := by
  have free : ∀ b e, Entry.Allowed cfg b e → e.Unordered → e.Whole b := by
    rintro b e allowed unordered leg position rfl held
    obtain ⟨_, stops, p, found, _, whole⟩ := allowed
    rw [openPosition_of_active found] at held
    cases held
    exact whole (unordered leg rfl)
  refine (step_reaches free call atRest.pending ?_).1
  rintro leg side isOrder _ leg' position ⟨⟩ held
  unfold AsksRemaining at asks
  rw [isOrder] at asks
  exact asks position held

/-- Along such a call the ledger is kept. -/
theorem ledger_step (exactColumns : cfg.columns = Columns.exact) {s : PaperExchange}
    (ledger : Ledger s.books) (atRest : AtRest s) {call : Call} (asks : AsksRemaining s call) :
    Ledger (step cfg call s).books := by
  have both : Consistent (step cfg call s).books ∧ Ledger (step cfg call s).books :=
    (step_reaches_whole atRest asks).invariant (fun b => Consistent b ∧ Ledger b)
      (fun b e holds allowed whole =>
        ⟨holds.1.apply allowed, holds.2.apply exactColumns holds.1 allowed whole⟩)
      ⟨atRest.consistent, ledger⟩
  exact both.2

/-! ## The sign of the remaining quantity -/

/-- No open position has a negative quantity. -/
def Books.NonNegative (b : Books) : Prop :=
  ∀ symbol position, b.openPosition symbol = some position → 0 ≤ position.qty

/-- How many of the price ranges touch the take-profit before one touches the stop-loss. -/
def takeProfitTouches (stops : TradingStops) : List (ℚ × ℚ) → ℕ
  | [] => 0
  | (low, high) :: ranges =>
      if InRange low high stops.slPrice then 0
      else (if InRange low high stops.tpPrice then 1 else 0) + takeProfitTouches stops ranges

/-- The type of the stop does not matter to it. -/
theorem takeProfitTouches_trail (stops : TradingStops) (ranges : List (ℚ × ℚ)) :
    takeProfitTouches { stops with slType := .trail } ranges = takeProfitTouches stops ranges := by
  induction ranges with
  | nil => rfl
  | cons range ranges ih =>
      simp only [takeProfitTouches, ih]

/-- The symbol's position holds what its partial take-profit can take over the ranges. -/
def Books.TakeProfitFits (b : Books) (symbol : String) (ranges : List (ℚ × ℚ)) : Prop :=
  ∀ active ∈ b.activePositions symbol, ∀ position ∈ active.position,
    ∀ size ∈ active.stops.tpSize, active.stops.tpslMode = .Partial →
      takeProfitTouches active.stops ranges * size ≤ position.qty

instance (symbol : String) (ranges : List (ℚ × ℚ)) : Decidable (b.TakeProfitFits symbol ranges) :=
  inferInstanceAs (Decidable (∀ active ∈ b.activePositions symbol, _))

theorem Books.NonNegative.opened (nonneg : b.NonNegative) {t : OrderTicket}
    (ticketNonneg : 0 ≤ t.qty) : ((Entry.opened t).apply cfg b).NonNegative := by
  intro symbol position held
  rw [openPosition_opened] at held
  split at held
  · cases held
    exact ticketNonneg
  · exact nonneg symbol position held

theorem Books.NonNegative.closed (nonneg : b.NonNegative) {leg : ExitLeg}
    (allowed : (Entry.closed leg).Allowed cfg b) :
    ((Entry.closed leg).apply cfg b).NonNegative := by
  obtain ⟨_, stops, position, found, _⟩ := allowed
  intro symbol p held
  rw [openPosition_closed found] at held
  split at held
  · cases held
  · exact nonneg symbol p held

theorem Books.NonNegative.reduced (nonneg : b.NonNegative) {leg : ExitLeg} {stops : TradingStops}
    {position : OpenPosition}
    (found : b.activePositions leg.symbol = some { stops := stops, position := some position })
    (enough : leg.qty ≤ position.qty) : ((Entry.reduced leg).apply cfg b).NonNegative := by
  intro symbol p held
  rw [openPosition_reduced found] at held
  split at held
  · cases held
    exact sub_nonneg.mpr enough
  · exact nonneg symbol p held

/-- A take-profit that fits over several touches fits the first of them. -/
theorem size_le_of_touches {n : ℕ} {size qty : ℚ} (nonneg : 0 ≤ qty)
    (fits : ((1 + n : ℕ) : ℚ) * size ≤ qty) : size ≤ qty := by
  push_cast at fits
  rcases le_or_gt 0 size with positive | negative
  · have rest : 0 ≤ (n : ℚ) * size := mul_nonneg (Nat.cast_nonneg n) positive
    linarith
  · exact negative.le.trans nonneg

variable (cfg) in
/-- One range of a candle: the quantity stays nonnegative and what is left still fits the
ranges to come. -/
theorem checkAndDrain_nonneg {symbol : String} {low high : ℚ} {ranges : List (ℚ × ℚ)}
    {s : PaperExchange} (empty : s.pendingSlTpFills = []) (nonneg : s.books.NonNegative)
    (fits : s.books.TakeProfitFits symbol ((low, high) :: ranges)) :
    (checkAndDrain cfg symbol low high s).2.books.NonNegative ∧
      ((checkAndDrain cfg symbol low high s).1 = .ok () →
        (checkAndDrain cfg symbol low high s).2.books.TakeProfitFits symbol ranges) := by
  obtain ⟨_, outcome⟩ := checkAndDrain_outcome cfg symbol low high empty
  generalize (checkAndDrain cfg symbol low high s).1 = result at outcome ⊢
  generalize (checkAndDrain cfg symbol low high s).2.books = books at outcome ⊢
  generalize (checkAndDrain cfg symbol low high s).2.dbOutcomes = outcomes at outcome
  cases outcome with
  | untouched clear =>
      refine ⟨nonneg, fun _ => ?_⟩
      rintro ⟨stops, _⟩ found position ⟨⟩ size sized mode
      obtain ⟨slClear, tpClear⟩ := clear stops position found
      have before := fits _ found position rfl size sized mode
      rw [takeProfitTouches, if_neg slClear, if_neg tpClear, zero_add] at before
      exact before
  | malformed e found slClear tpInside mode unsized =>
      exact ⟨nonneg, fun returned => by cases returned⟩
  | failed e found crossed refused => exact ⟨nonneg, fun returned => by cases returned⟩
  | @entered stops position fill found crossed accepted =>
      have allowed := crossed.allowed cfg (b := s.books) found
        (Bool.and_eq_true _ _ ▸ accepted).1
      rw [← crossed.symbol_eq] at found
      by_cases isPartial : fill.kind = .tp ∧ fill.tpslMode = .Partial
      · rw [PendingSLTPFill.entry, if_pos isPartial] at allowed ⊢
        have here : s.books.activePositions (fill.leg cfg).symbol =
            some { stops := stops, position := some position } := found
        obtain ⟨slClear, tpInside, mode, sized⟩ := crossed.partial_level isPartial
        have before := fits _ (crossed.symbol_eq ▸ found) position rfl fill.qty sized mode
        rw [takeProfitTouches, if_neg slClear, if_pos tpInside] at before
        have held : s.books.openPosition fill.symbol = some position :=
          openPosition_of_active found
        have enough : fill.qty ≤ position.qty :=
          size_le_of_touches (nonneg fill.symbol position held) before
        refine ⟨nonneg.reduced here enough, fun _ => ?_⟩
        intro active found' position' isOpen' size' sized' _
        rw [apply_reduced here, ← crossed.symbol_eq] at found'
        simp only [show (fill.leg cfg).symbol = fill.symbol from rfl, Function.update_self,
          Option.mem_some_iff] at found'
        subst found'
        cases isOpen'
        have sameSize : size' = fill.qty := by
          rw [show stops.tpSize = some size' from sized'] at sized
          cases sized
          rfl
        rw [takeProfitTouches_trail, sameSize]
        show _ ≤ position.qty - fill.qty
        push_cast at before
        linarith
      · rw [PendingSLTPFill.entry, if_neg isPartial] at allowed ⊢
        refine ⟨nonneg.closed allowed, fun _ => ?_⟩
        rintro ⟨stops', _⟩ found' position' ⟨⟩ size' sized' mode'
        have held' := openPosition_of_active found'
        have here : s.books.activePositions (fill.leg cfg).symbol =
            some { stops := stops, position := some position } := found
        rw [openPosition_closed here,
          if_pos (show symbol = (fill.leg cfg).symbol from crossed.symbol_eq.symm)] at held'
        cases held'

theorem replaySegments_nonneg {symbol : String} (ranges : List (ℚ × ℚ)) :
    ∀ {s : PaperExchange}, s.pendingSlTpFills = [] → s.books.NonNegative →
      s.books.TakeProfitFits symbol ranges →
      (replaySegments cfg symbol ranges s).2.books.NonNegative := by
  induction ranges with
  | nil => exact fun _ nonneg _ => nonneg
  | cons range ranges ih =>
      obtain ⟨low, high⟩ := range
      intro s empty nonneg fits
      obtain ⟨nonnegAfter, fitsAfter⟩ := checkAndDrain_nonneg cfg empty nonneg fits
      have emptied := (checkAndDrain_outcome cfg symbol low high empty).1.pending
      unfold replaySegments
      cases checked : checkAndDrain cfg symbol low high s with
      | mk result s' =>
          rw [checked] at nonnegAfter fitsAfter emptied
          cases result with
          | error e => exact nonnegAfter
          | ok _ => exact ih (emptied.trans empty) nonnegAfter (fitsAfter rfl)

/-! ## Sound calls -/

/-- The condition on one call under which quantities are conserved: an order that opens asks
for no negative quantity, one that closes asks for what remains, and a candle touches a
partial take-profit no more often than the remaining quantity allows. -/
def SoundCall (s : PaperExchange) (call : Call) : Prop :=
  match call.op with
  | .placeMarketOrder _ _ qty false => 0 ≤ qty
  | .placeMarketOrder symbol _ qty true =>
      ∀ position ∈ s.openPosition symbol, qty = position.qty
  | .setTradingStop .. => True
  | .onCandle candle =>
      candle.isClosed = true →
        s.books.TakeProfitFits candle.symbol [(candle.low, candle.high)]
  | .processReplayCandle ohlc =>
      ∀ path ∈ (generateIntraCandlePath ohlc.openPrice ohlc.high ohlc.low ohlc.close).toOption,
        s.books.TakeProfitFits ohlc.symbol (segments path)

instance : ∀ (s : PaperExchange) (call : Call), Decidable (SoundCall s call)
  | _, ⟨.placeMarketOrder _ _ qty false, _, _⟩ => inferInstanceAs (Decidable (0 ≤ qty))
  | s, ⟨.placeMarketOrder symbol _ _ true, _, _⟩ =>
      inferInstanceAs (Decidable (∀ position ∈ s.openPosition symbol, _))
  | _, ⟨.setTradingStop .., _, _⟩ => isTrue trivial
  | _, ⟨.onCandle candle, _, _⟩ => inferInstanceAs (Decidable (candle.isClosed = true → _))
  | _, ⟨.processReplayCandle ohlc, _, _⟩ =>
      inferInstanceAs (Decidable (∀ path ∈
        (generateIntraCandlePath ohlc.openPrice ohlc.high ohlc.low ohlc.close).toOption, _))

theorem SoundCall.asksRemaining {s : PaperExchange} {call : Call} (sound : SoundCall s call) :
    AsksRemaining s call := by
  obtain ⟨op, now, dbOutcomes⟩ := call
  cases op with
  | placeMarketOrder symbol side qty reduceOnly =>
      cases reduceOnly with
      | true => exact sound
      | false => trivial
  | setTradingStop symbol tpslMode slPrice tpPrice tpSize slType => trivial
  | onCandle candle => trivial
  | processReplayCandle ohlc => trivial

theorem step_nonneg {s : PaperExchange} (nonneg : s.books.NonNegative) (atRest : AtRest s)
    (call : Call) (sound : SoundCall s call) : (step cfg call s).books.NonNegative := by
  obtain ⟨op, now, dbOutcomes⟩ := call
  let started : PaperExchange := { s with now := now, dbOutcomes := dbOutcomes }
  cases op with
  | placeMarketOrder symbol side qty reduceOnly =>
      obtain ⟨_, books⟩ := placeMarketOrder_books cfg symbol side qty reduceOnly started
      refine Eq.subst (motive := Books.NonNegative) books.symm ?_
      cases made : orderEntry cfg symbol side qty reduceOnly started with
      | none => exact nonneg
      | some e =>
          rcases orderEntry_cases made with rfl | ⟨t, rfl, rfl, _, sameQty, _⟩ |
            ⟨leg, rfl, _, _, _, _, allowed⟩
          · exact nonneg
          · exact Books.NonNegative.opened (b := started.books) nonneg (sameQty ▸ sound)
          · exact Books.NonNegative.closed (b := started.books) nonneg allowed
  | setTradingStop symbol tpslMode slPrice tpPrice tpSize slType =>
      obtain ⟨_, books⟩ :=
        setTradingStop_books cfg symbol tpslMode slPrice tpPrice tpSize slType started
      refine Eq.subst (motive := Books.NonNegative) books.symm ?_
      unfold stopEntry
      split
      · exact nonneg
      · rename_i made
        split at made
        · cases made
        · cases made
          intro other position held
          rw [openPosition_restopped] at held
          exact nonneg other position held
  | onCandle candle =>
      show (onCandle cfg candle started).2.books.NonNegative
      unfold onCandle
      split
      · rename_i isClosed
        exact (checkAndDrain_nonneg cfg (s := started.cacheCandle candle) atRest.pending nonneg
          (sound isClosed)).1
      · exact nonneg
  | processReplayCandle ohlc =>
      show (processReplayCandle cfg ohlc started).2.books.NonNegative
      unfold processReplayCandle
      simp only
      generalize clocked : (if cfg.replayClock = true then
        started.setReplayClock ohlc.bucketStart else started) = s₁
      have sameBooks : s₁.books = s.books := by rw [← clocked]; split <;> rfl
      have stillEmpty : s₁.pendingSlTpFills = [] := by
        rw [← clocked]
        split <;> exact atRest.pending
      split
      · show s₁.books.NonNegative
        rw [sameBooks]
        exact nonneg
      · rename_i path generated
        refine replaySegments_nonneg (segments path)
          (s := s₁.cacheCandle { ohlc with isClosed := true }) stillEmpty ?_ ?_
        · show s₁.books.NonNegative
          rw [sameBooks]
          exact nonneg
        · show s₁.books.TakeProfitFits ohlc.symbol (segments path)
          rw [sameBooks]
          exact sound path (by rw [generated]; rfl)

/-! ## Conservation along runs -/

/-- Nothing leaves a position twice: the remaining quantity is never negative, the exits of a
trade never exceed its opening, and they equal it once the trade is closed. -/
structure QuantityConserved (s : PaperExchange) : Prop where
  remaining_nonneg : ∀ symbol position, s.openPosition symbol = some position → 0 ≤ position.qty
  exits_le : ∀ row ∈ s.db.trades, s.db.exitQty row.id ≤ s.db.openedQty row.id
  exits_eq : ∀ row ∈ s.db.trades, row.status = .closed →
    s.db.exitQty row.id = s.db.openedQty row.id

theorem QuantityConserved.of_ledger {s : PaperExchange} (consistent : Consistent s.books)
    (ledger : Ledger s.books) (nonneg : s.books.NonNegative) : QuantityConserved s where
  remaining_nonneg := nonneg
  exits_le := by
    intro row member
    cases status : row.status with
    | closed => exact (ledger.settled row member status).le
    | isOpen =>
        obtain ⟨symbol, position, held, sameId⟩ := consistent.tradeOwned row member status
        have remaining := ledger.remaining symbol position held
        have left := nonneg symbol position held
        rw [sameId] at remaining
        have known : position.qty = s.db.openedQty row.id - s.db.exitQty row.id := remaining
        linarith
  exits_eq := ledger.settled

/-- **Quantity conservation.**  In every state a run of sound calls reaches, quantities are
conserved, whatever the database does to the transactions. -/
theorem run_quantityConserved (exactColumns : cfg.columns = Columns.exact) {calls : List Call}
    (sound : RunGuarded SoundCall (step cfg) {} calls) :
    QuantityConserved (run (step cfg) {} calls) := by
  have holds : AtRest (run (step cfg) {} calls) ∧ Ledger (run (step cfg) {} calls).books ∧
      (run (step cfg) {} calls).books.NonNegative := by
    refine run_invariant (fun s => AtRest s ∧ Ledger s.books ∧ s.books.NonNegative) ?_
      ⟨AtRest.initial, Ledger.initial, by intro symbol position held; cases held⟩ sound
    rintro s call ⟨atRest, ledger, nonneg⟩ soundCall
    exact ⟨atRest.step call, ledger_step exactColumns ledger atRest soundCall.asksRemaining,
      step_nonneg nonneg atRest call soundCall⟩
  exact .of_ledger holds.1.consistent holds.2.1 holds.2.2

/-! ## A take-profit taken twice -/

/-- A paper exchange without fees and slippage over exact columns. -/
def plainConfig : Config :=
  { botId := "bot", feeRate := 0, slippageModel := .fixedPct 0, columns := .exact }

def btcCandle (openPrice high low close : ℚ) : Candle :=
  { symbol := "BTCUSDT", bucketStart := 0, openPrice := openPrice, high := high, low := low,
    close := close, volume := 1, isClosed := true }

/-- A long of 1 with a partial take-profit of `size` at 110. -/
def openWithTakeProfit (size : ℚ) : List Call :=
  [{ op := .onCandle (btcCandle 100 101 99 100) },
   { op := .placeMarketOrder "BTCUSDT" .buy 1 false },
   { op := .setTradingStop "BTCUSDT" .Partial none (some 110) (some size) none }]

/-- The take-profit fits once, is taken by a live candle, and the rest is closed by order. -/
theorem openWithTakeProfit_conserved :
    RunGuarded SoundCall (step plainConfig) {}
        (openWithTakeProfit (3 / 5) ++
          [{ op := .onCandle (btcCandle 105 112 105 111) },
           { op := .placeMarketOrder "BTCUSDT" .sell (2 / 5) true }]) ∧
      QuantityConserved (run (step plainConfig) {}
        (openWithTakeProfit (3 / 5) ++
          [{ op := .onCandle (btcCandle 105 112 105 111) },
           { op := .placeMarketOrder "BTCUSDT" .sell (2 / 5) true }])) := by
  have sound : RunGuarded SoundCall (step plainConfig) {}
      (openWithTakeProfit (3 / 5) ++
        [{ op := .onCandle (btcCandle 105 112 105 111) },
         { op := .placeMarketOrder "BTCUSDT" .sell (2 / 5) true }]) := by
    decide +kernel
  exact ⟨sound, run_quantityConserved rfl sound⟩

/-- Two candles that touch the level take 0.6 twice out of 1. -/
theorem not_always_quantityConserved :
    ¬ ∀ calls : List Call, QuantityConserved (run (step plainConfig) {} calls) := by
  intro always
  have conserved := always (openWithTakeProfit (3 / 5) ++
    [{ op := .onCandle (btcCandle 105 112 105 111) },
     { op := .onCandle (btcCandle 111 112 105 111) }])
  have overdrawn : ((run (step plainConfig) {} (openWithTakeProfit (3 / 5) ++
      [{ op := .onCandle (btcCandle 105 112 105 111) },
       { op := .onCandle (btcCandle 111 112 105 111) }])).openPosition "BTCUSDT").map (·.qty) =
      some (-1 / 5) := by
    decide +kernel
  obtain ⟨position, held, negative⟩ := Option.map_eq_some_iff.mp overdrawn
  have nonneg := conserved.remaining_nonneg "BTCUSDT" position held
  rw [negative] at nonneg
  norm_num at nonneg

end Scalper.Paper
