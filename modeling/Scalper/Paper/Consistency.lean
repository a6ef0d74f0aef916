import Scalper.Paper.Operations
import Scalper.Lib.Run

/-!
# Positions and their trades

Every in-memory position belongs to exactly one open trade row, every open trade row to
exactly one position, and ids are never used twice.  This holds in every state a run can
reach, whatever the calls and whatever the database does (`run_consistent`); the results on
quantities, stops and profit all start from it.
-/

set_option autoImplicit false

namespace Scalper.Paper

open Scalper.Lib Scalper.Exchange

variable {cfg : Config} {b : Books}

/-! ## Positions after each entry -/

@[simp] theorem openPosition_books (s : PaperExchange) (symbol : String) :
    s.books.openPosition symbol = s.openPosition symbol := rfl

theorem openPosition_of_active {symbol : String} {stops : TradingStops} {position : OpenPosition}
    (found : b.activePositions symbol = some { stops := stops, position := some position }) :
    b.openPosition symbol = some position := by
  simp [Books.openPosition, found]

theorem active_of_openPosition {symbol : String} {position : OpenPosition}
    (held : b.openPosition symbol = some position) :
    ∃ stops, b.activePositions symbol = some { stops := stops, position := some position } := by
  obtain ⟨⟨stops, _⟩, found, isOpen⟩ := Option.bind_eq_some_iff.mp held
  cases isOpen
  exact ⟨stops, found⟩

theorem openPosition_restopped (symbol : String) (stops : TradingStops) (persisted : Bool)
    (other : String) :
    ((Entry.restopped symbol stops persisted).apply cfg b).openPosition other =
      b.openPosition other := by
  by_cases same : other = symbol
  · subst same
    cases found : b.activePositions other with
    | none => simp [Entry.apply, Books.openPosition, found]
    | some active => simp [Entry.apply, Books.openPosition, found]
  · simp [Entry.apply, Books.openPosition, Function.update_of_ne same]

theorem openPosition_opened (t : OrderTicket) (symbol : String) :
    ((Entry.opened t).apply cfg b).openPosition symbol =
      if symbol = t.symbol then some (t.position b.db.nextTradeId) else b.openPosition symbol := by
  by_cases same : symbol = t.symbol
  · simp [Entry.apply, Books.openPosition, same]
  · simp [Entry.apply, Books.openPosition, same]

section Legs

variable {leg : ExitLeg} {stops : TradingStops} {position : OpenPosition}

theorem apply_reduced
    (found : b.activePositions leg.symbol = some { stops := stops, position := some position }) :
    (Entry.reduced leg).apply cfg b =
      { activePositions := Function.update b.activePositions leg.symbol (some
          { stops := { stops with slType := .trail }, position := some (position.reduce leg) })
        db := b.db.afterReduce cfg leg b.uuids position
        executionQueue := b.executionQueue ++ [leg.event b.uuids]
        uuids := b.uuids + 1 } := by
  simp only [Entry.apply, found]

theorem apply_closed
    (found : b.activePositions leg.symbol = some { stops := stops, position := some position }) :
    (Entry.closed leg).apply cfg b =
      { activePositions := Function.update b.activePositions leg.symbol none
        db := b.db.afterClose cfg leg b.uuids position
        executionQueue := b.executionQueue ++ [leg.event b.uuids]
        uuids := b.uuids + 1 } := by
  simp only [Entry.apply, found]

theorem openPosition_reduced
    (found : b.activePositions leg.symbol = some { stops := stops, position := some position })
    (symbol : String) :
    ((Entry.reduced leg).apply cfg b).openPosition symbol =
      if symbol = leg.symbol then some (position.reduce leg) else b.openPosition symbol := by
  rw [apply_reduced found]
  by_cases same : symbol = leg.symbol
  · simp [Books.openPosition, same]
  · simp [Books.openPosition, same]

theorem openPosition_closed
    (found : b.activePositions leg.symbol = some { stops := stops, position := some position })
    (symbol : String) :
    ((Entry.closed leg).apply cfg b).openPosition symbol =
      if symbol = leg.symbol then none else b.openPosition symbol := by
  rw [apply_closed found]
  by_cases same : symbol = leg.symbol
  · simp [Books.openPosition, same]
  · simp [Books.openPosition, same]

/-- A position after a reduction is the reduced one, or stands at another symbol. -/
theorem openPosition_of_reduced
    (found : b.activePositions leg.symbol = some { stops := stops, position := some position })
    {symbol : String} {p : OpenPosition}
    (held : ((Entry.reduced leg).apply cfg b).openPosition symbol = some p) :
    symbol = leg.symbol ∧ p = position.reduce leg ∨
      symbol ≠ leg.symbol ∧ b.openPosition symbol = some p := by
  rw [openPosition_reduced found] at held
  split at held
  · next same => exact .inl ⟨same, (Option.some.inj held).symm⟩
  · next differs => exact .inr ⟨differs, held⟩

/-- A position after a close stands at another symbol. -/
theorem openPosition_of_closed
    (found : b.activePositions leg.symbol = some { stops := stops, position := some position })
    {symbol : String} {p : OpenPosition}
    (held : ((Entry.closed leg).apply cfg b).openPosition symbol = some p) :
    symbol ≠ leg.symbol ∧ b.openPosition symbol = some p := by
  rw [openPosition_closed found] at held
  split at held
  · cases held
  · next differs => exact ⟨differs, held⟩

/-- A reduction keeps the id and the status of every trade row. -/
theorem mem_trades_reduced
    (found : b.activePositions leg.symbol = some { stops := stops, position := some position })
    {row : PaperTrade} (member : row ∈ ((Entry.reduced leg).apply cfg b).db.trades) :
    ∃ old ∈ b.db.trades, row.id = old.id ∧ row.status = old.status := by
  rw [apply_reduced found] at member
  obtain ⟨old, oldMember, ⟨_, rfl⟩ | ⟨_, rfl⟩⟩ := mem_updateWhere.mp member
  · exact ⟨old, oldMember, rfl, rfl⟩
  · exact ⟨row, oldMember, rfl, rfl⟩

/-- A close rewrites the rows of the position's trade and keeps every other row. -/
theorem mem_trades_closed
    (found : b.activePositions leg.symbol = some { stops := stops, position := some position })
    {row : PaperTrade} (member : row ∈ ((Entry.closed leg).apply cfg b).db.trades) :
    (row ∈ b.db.trades ∧ row.id ≠ position.tradeId) ∨
    (row.id = position.tradeId ∧ row.status = .closed ∧ ∃ old ∈ b.db.trades,
      row = old.close cfg.columns leg.price (leg.closingPnl position + position.realizedPnl)
        (position.feesPaid + leg.fee) leg.executedAt leg.execType.closeReason
        b.db.nextOrderId) := by
  rw [apply_closed found] at member
  obtain ⟨old, oldMember, ⟨matched, rfl⟩ | ⟨unmatched, rfl⟩⟩ := mem_updateWhere.mp member
  · have sameId : old.id = position.tradeId := by simpa using matched
    exact .inr ⟨sameId, rfl, old, oldMember, rfl⟩
  · exact .inl ⟨oldMember, by simpa using unmatched⟩

end Legs

/-! ## The invariant -/

/-- Ids are fresh and positions match open trades one to one. -/
structure Consistent (b : Books) : Prop where
  tradesFresh : ∀ row ∈ b.db.trades, row.id < b.db.nextTradeId
  executionsFresh : ∀ row ∈ b.db.executions,
    row.tradeId < b.db.nextTradeId ∧ row.exchangeExecId < b.uuids
  eventsFresh : ∀ event ∈ b.executionQueue, event.exchangeExecId < b.uuids
  tradeKnown : ∀ symbol position, b.openPosition symbol = some position →
    ∃ row ∈ b.db.trades, row.id = position.tradeId
  tradeOpen : ∀ symbol position, b.openPosition symbol = some position →
    ∀ row ∈ b.db.trades, row.id = position.tradeId → row.status = .isOpen
  tradeOwned : ∀ row ∈ b.db.trades, row.status = .isOpen →
    ∃ symbol position, b.openPosition symbol = some position ∧ position.tradeId = row.id
  distinct : ∀ symbol symbol' position position', b.openPosition symbol = some position →
    b.openPosition symbol' = some position' → position.tradeId = position'.tradeId →
    symbol = symbol'

theorem Consistent.initial : Consistent (PaperExchange.books {}) where
  tradesFresh := by intro row member; cases member
  executionsFresh := by intro row member; cases member
  eventsFresh := by intro event member; cases member
  tradeKnown := by intro symbol position held; cases held
  tradeOpen := by intro symbol position held; cases held
  tradeOwned := by intro row member; cases member
  distinct := by intro symbol symbol' position position' held; cases held

/-- Positions of two symbols belong to two trades. -/
theorem Consistent.tradeId_ne (consistent : Consistent b) {symbol symbol' : String}
    {position position' : OpenPosition} (differs : symbol ≠ symbol')
    (held : b.openPosition symbol = some position)
    (held' : b.openPosition symbol' = some position') : position.tradeId ≠ position'.tradeId :=
  fun same => differs (consistent.distinct symbol symbol' position position' held held' same)

theorem Consistent.tradeId_lt (consistent : Consistent b) {symbol : String}
    {position : OpenPosition} (held : b.openPosition symbol = some position) :
    position.tradeId < b.db.nextTradeId := by
  obtain ⟨row, member, same⟩ := consistent.tradeKnown symbol position held
  exact same ▸ consistent.tradesFresh row member

theorem Consistent.drawn (consistent : Consistent b) :
    Consistent (Entry.drawn.apply cfg b) where
  tradesFresh := consistent.tradesFresh
  executionsFresh := fun row member =>
    ⟨(consistent.executionsFresh row member).1, (consistent.executionsFresh row member).2.trans
      (Nat.lt_succ_self _)⟩
  eventsFresh := fun event member =>
    (consistent.eventsFresh event member).trans (Nat.lt_succ_self _)
  tradeKnown := consistent.tradeKnown
  tradeOpen := consistent.tradeOpen
  tradeOwned := consistent.tradeOwned
  distinct := consistent.distinct

theorem Consistent.restopped (consistent : Consistent b) (symbol : String) (stops : TradingStops)
    (persisted : Bool) : Consistent ((Entry.restopped symbol stops persisted).apply cfg b) := by
  have sameTrades : ((Entry.restopped symbol stops persisted).apply cfg b).db.trades =
      b.db.trades := by
    cases persisted <;> rfl
  have sameExecutions : ((Entry.restopped symbol stops persisted).apply cfg b).db.executions =
      b.db.executions := by
    cases persisted <;> rfl
  have sameNext : ((Entry.restopped symbol stops persisted).apply cfg b).db.nextTradeId =
      b.db.nextTradeId := by
    cases persisted <;> rfl
  refine ⟨?_, ?_, consistent.eventsFresh, ?_, ?_, ?_, ?_⟩
  · rw [sameTrades, sameNext]
    exact consistent.tradesFresh
  · rw [sameExecutions, sameNext]
    exact consistent.executionsFresh
  · simp only [openPosition_restopped, sameTrades]
    exact consistent.tradeKnown
  · simp only [openPosition_restopped, sameTrades]
    exact consistent.tradeOpen
  · simp only [openPosition_restopped, sameTrades]
    exact consistent.tradeOwned
  · simp only [openPosition_restopped]
    exact consistent.distinct

theorem mem_trades_opened {t : OrderTicket} {row : PaperTrade}
    (member : row ∈ ((Entry.opened t).apply cfg b).db.trades) :
    row ∈ b.db.trades ∨ row.id = b.db.nextTradeId ∧ row.status = .isOpen := by
  rcases List.mem_append.mp member with old | new
  · exact .inl old
  · rw [List.mem_singleton] at new
    subst new
    exact .inr ⟨rfl, rfl⟩

/-- A position after an opening is the one it opened or one of before. -/
theorem openPosition_of_opened {t : OrderTicket} {symbol : String} {position : OpenPosition}
    (held : ((Entry.opened t).apply cfg b).openPosition symbol = some position) :
    symbol = t.symbol ∧ position.tradeId = b.db.nextTradeId ∨
      symbol ≠ t.symbol ∧ b.openPosition symbol = some position := by
  by_cases same : symbol = t.symbol
  · rw [openPosition_opened, if_pos same] at held
    cases held
    exact .inl ⟨same, rfl⟩
  · rw [openPosition_opened, if_neg same] at held
    exact .inr ⟨same, held⟩

theorem Consistent.opened (consistent : Consistent b) {t : OrderTicket}
    (allowed : (Entry.opened t).Allowed cfg b) :
    Consistent ((Entry.opened t).apply cfg b) := by
  obtain ⟨uuid, vacant, unlisted⟩ := allowed
  constructor
  case tradesFresh =>
    intro row member
    rcases mem_trades_opened member with old | ⟨isNew, _⟩
    · exact (consistent.tradesFresh row old).trans (Nat.lt_succ_self _)
    · exact isNew ▸ Nat.lt_succ_self _
  case executionsFresh =>
    intro row member
    rcases List.mem_append.mp member with old | new
    · obtain ⟨tradeFresh, execFresh⟩ := consistent.executionsFresh row old
      exact ⟨tradeFresh.trans (Nat.lt_succ_self _), execFresh.trans (Nat.lt_succ_self _)⟩
    · rw [List.mem_singleton] at new
      subst new
      exact ⟨Nat.lt_succ_self _, Nat.lt_succ_of_le uuid.le⟩
  case eventsFresh =>
    intro event member
    rcases List.mem_append.mp member with old | new
    · exact (consistent.eventsFresh event old).trans (Nat.lt_succ_self _)
    · rw [List.mem_singleton] at new
      subst new
      exact Nat.lt_succ_of_le uuid.le
  case tradeKnown =>
    intro symbol position held
    rcases openPosition_of_opened held with ⟨_, isNew⟩ | ⟨_, heldBefore⟩
    · exact ⟨_, List.mem_append_right _ (List.mem_singleton_self _), isNew.symm⟩
    · obtain ⟨row, member, sameId⟩ := consistent.tradeKnown symbol position heldBefore
      exact ⟨row, List.mem_append_left _ member, sameId⟩
  case tradeOpen =>
    intro symbol position held row member sameId
    rcases mem_trades_opened member with old | ⟨_, isOpen⟩
    · rcases openPosition_of_opened held with ⟨_, isNew⟩ | ⟨_, heldBefore⟩
      · exact absurd (consistent.tradesFresh row old) (by omega)
      · exact consistent.tradeOpen symbol position heldBefore row old sameId
    · exact isOpen
  case tradeOwned =>
    intro row member isOpen
    rcases mem_trades_opened member with old | ⟨isNew, _⟩
    · obtain ⟨symbol, position, held, sameId⟩ := consistent.tradeOwned row old isOpen
      have differs : symbol ≠ t.symbol := by
        rintro rfl
        rw [vacant] at held
        cases held
      exact ⟨symbol, position, by rw [openPosition_opened, if_neg differs, held], sameId⟩
    · exact ⟨t.symbol, t.position b.db.nextTradeId, by rw [openPosition_opened, if_pos rfl],
        isNew.symm⟩
  case distinct =>
    intro symbol symbol' position position' held held' sameId
    rcases openPosition_of_opened held with ⟨same, isNew⟩ | ⟨_, heldBefore⟩ <;>
      rcases openPosition_of_opened held' with ⟨same', isNew'⟩ | ⟨_, heldBefore'⟩
    · exact same.trans same'.symm
    · exact absurd (consistent.tradeId_lt heldBefore') (by omega)
    · exact absurd (consistent.tradeId_lt heldBefore) (by omega)
    · exact consistent.distinct symbol symbol' position position' heldBefore heldBefore' sameId

section Legs

variable {leg : ExitLeg} {position : OpenPosition}

theorem Consistent.leg_executionsFresh (consistent : Consistent b)
    (held : b.openPosition leg.symbol = some position) :
    ∀ row ∈ (b.db.recordLeg cfg leg b.uuids position.tradeId).executions,
      row.tradeId < b.db.nextTradeId ∧ row.exchangeExecId < b.uuids + 1 := by
  intro row member
  rcases List.mem_append.mp member with old | new
  · obtain ⟨tradeFresh, execFresh⟩ := consistent.executionsFresh row old
    exact ⟨tradeFresh, execFresh.trans (Nat.lt_succ_self _)⟩
  · rw [List.mem_singleton] at new
    subst new
    exact ⟨consistent.tradeId_lt held, Nat.lt_succ_self _⟩

theorem Consistent.leg_eventsFresh (consistent : Consistent b) :
    ∀ event ∈ b.executionQueue ++ [leg.event b.uuids], event.exchangeExecId < b.uuids + 1 := by
  intro event member
  rcases List.mem_append.mp member with old | new
  · exact (consistent.eventsFresh event old).trans (Nat.lt_succ_self _)
  · rw [List.mem_singleton] at new
    subst new
    exact Nat.lt_succ_self _

theorem Consistent.reduced (consistent : Consistent b)
    (allowed : (Entry.reduced leg).Allowed cfg b) :
    Consistent ((Entry.reduced leg).apply cfg b) := by
  obtain ⟨_, stops, position, found, _⟩ := allowed
  have held := openPosition_of_active found
  have trades : ∀ {row}, row ∈ ((Entry.reduced leg).apply cfg b).db.trades →
      ∃ old ∈ b.db.trades, row.id = old.id ∧ row.status = old.status :=
    mem_trades_reduced found
  have tradesBack : ∀ {old}, old ∈ b.db.trades →
      ∃ row ∈ ((Entry.reduced leg).apply cfg b).db.trades, row.id = old.id := by
    intro old member
    rw [apply_reduced found]
    cases matched : old.id == position.tradeId with
    | true => exact ⟨_, mem_updateWhere.mpr ⟨old, member, .inl ⟨matched, rfl⟩⟩, rfl⟩
    | false => exact ⟨_, mem_updateWhere.mpr ⟨old, member, .inr ⟨matched, rfl⟩⟩, rfl⟩
  have positions : ∀ {symbol p}, ((Entry.reduced leg).apply cfg b).openPosition symbol = some p →
      ∃ p', b.openPosition symbol = some p' ∧ p'.tradeId = p.tradeId := by
    intro symbol p heldAfter
    rcases openPosition_of_reduced found heldAfter with ⟨rfl, rfl⟩ | ⟨-, heldBefore⟩
    · exact ⟨position, held, rfl⟩
    · exact ⟨p, heldBefore, rfl⟩
  constructor
  case tradesFresh =>
    intro row member
    obtain ⟨old, oldMember, sameId, _⟩ := trades member
    rw [apply_reduced found, sameId]
    exact consistent.tradesFresh old oldMember
  case executionsFresh =>
    rw [apply_reduced found]
    exact consistent.leg_executionsFresh held
  case eventsFresh =>
    rw [apply_reduced found]
    exact consistent.leg_eventsFresh
  case tradeKnown =>
    intro symbol p heldAfter
    obtain ⟨p', heldBefore, sameTrade⟩ := positions heldAfter
    obtain ⟨old, oldMember, sameId⟩ := consistent.tradeKnown symbol p' heldBefore
    obtain ⟨row, member, keptId⟩ := tradesBack oldMember
    exact ⟨row, member, keptId.trans (sameId.trans sameTrade)⟩
  case tradeOpen =>
    intro symbol p heldAfter row member sameId
    obtain ⟨p', heldBefore, sameTrade⟩ := positions heldAfter
    obtain ⟨old, oldMember, keptId, keptStatus⟩ := trades member
    rw [keptStatus]
    exact consistent.tradeOpen symbol p' heldBefore old oldMember
      (keptId.symm.trans (sameId.trans sameTrade.symm))
  case tradeOwned =>
    intro row member isOpen
    obtain ⟨old, oldMember, keptId, keptStatus⟩ := trades member
    obtain ⟨symbol, p, heldBefore, sameId⟩ :=
      consistent.tradeOwned old oldMember (keptStatus ▸ isOpen)
    by_cases same : symbol = leg.symbol
    · subst same
      rw [held] at heldBefore
      cases heldBefore
      exact ⟨leg.symbol, position.reduce leg, by rw [openPosition_reduced found, if_pos rfl],
        sameId.trans keptId.symm⟩
    · exact ⟨symbol, p, by rw [openPosition_reduced found, if_neg same, heldBefore],
        sameId.trans keptId.symm⟩
  case distinct =>
    intro symbol symbol' p p' heldAfter heldAfter' sameId
    obtain ⟨q, heldBefore, sameTrade⟩ := positions heldAfter
    obtain ⟨q', heldBefore', sameTrade'⟩ := positions heldAfter'
    exact consistent.distinct symbol symbol' q q' heldBefore heldBefore'
      (sameTrade.trans (sameId.trans sameTrade'.symm))

theorem Consistent.closed (consistent : Consistent b)
    (allowed : (Entry.closed leg).Allowed cfg b) :
    Consistent ((Entry.closed leg).apply cfg b) := by
  obtain ⟨_, stops, position, found, _, _⟩ := allowed
  have held := openPosition_of_active found
  constructor
  case tradesFresh =>
    intro row member
    rcases mem_trades_closed found member with ⟨old, _⟩ | ⟨sameId, _, _⟩
    · rw [apply_closed found]
      exact consistent.tradesFresh row old
    · rw [apply_closed found, sameId]
      exact consistent.tradeId_lt held
  case executionsFresh =>
    rw [apply_closed found]
    exact consistent.leg_executionsFresh held
  case eventsFresh =>
    rw [apply_closed found]
    exact consistent.leg_eventsFresh
  case tradeKnown =>
    intro symbol p heldAfter
    obtain ⟨differs, heldBefore⟩ := openPosition_of_closed found heldAfter
    obtain ⟨old, oldMember, sameId⟩ := consistent.tradeKnown symbol p heldBefore
    refine ⟨old, ?_, sameId⟩
    rw [apply_closed found]
    refine mem_updateWhere.mpr ⟨old, oldMember, .inr ⟨?_, rfl⟩⟩
    have otherId := consistent.tradeId_ne differs heldBefore held
    simpa [sameId] using otherId
  case tradeOpen =>
    intro symbol p heldAfter row member sameId
    obtain ⟨differs, heldBefore⟩ := openPosition_of_closed found heldAfter
    rcases mem_trades_closed found member with ⟨old, _⟩ | ⟨closedId, _, _⟩
    · exact consistent.tradeOpen symbol p heldBefore row old sameId
    · exact absurd (sameId.symm.trans closedId)
        (consistent.tradeId_ne differs heldBefore held)
  case tradeOwned =>
    intro row member isOpen
    rcases mem_trades_closed found member with ⟨old, otherId⟩ | ⟨_, isClosed, _⟩
    · obtain ⟨symbol, p, heldBefore, sameId⟩ := consistent.tradeOwned row old isOpen
      have differs : symbol ≠ leg.symbol := by
        rintro rfl
        rw [held] at heldBefore
        cases heldBefore
        exact otherId sameId.symm
      exact ⟨symbol, p, by rw [openPosition_closed found, if_neg differs, heldBefore], sameId⟩
    · rw [isClosed] at isOpen
      cases isOpen
  case distinct =>
    intro symbol symbol' p p' heldAfter heldAfter' sameId
    exact consistent.distinct symbol symbol' p p' (openPosition_of_closed found heldAfter).2
      (openPosition_of_closed found heldAfter').2 sameId

end Legs

theorem Consistent.apply (consistent : Consistent b) {e : Entry} (allowed : e.Allowed cfg b) :
    Consistent (e.apply cfg b) := by
  cases e with
  | drawn => exact consistent.drawn
  | restopped symbol stops persisted => exact consistent.restopped symbol stops persisted
  | opened t => exact consistent.opened allowed
  | reduced leg => exact consistent.reduced allowed
  | closed leg => exact consistent.closed allowed

/-! ## Runs -/

/-- The states between two calls: consistent books and nothing waiting to be drained. -/
structure AtRest (s : PaperExchange) : Prop where
  consistent : Consistent s.books
  pending : s.pendingSlTpFills = []

theorem AtRest.initial : AtRest {} := ⟨Consistent.initial, rfl⟩

theorem AtRest.step {s : PaperExchange} (atRest : AtRest s) (call : Call) :
    AtRest (step cfg call s) := by
  have free : ∀ b e, Entry.Allowed cfg b e → e.Unordered → True := fun _ _ _ _ => trivial
  obtain ⟨reached, emptied⟩ := step_reaches free call atRest.pending (fun _ _ _ _ => trivial)
  exact ⟨reached.invariant Consistent
    (fun b e consistent allowed _ => consistent.apply allowed) atRest.consistent, emptied⟩

/-- Every state a run reaches is at rest, whatever was called and whatever failed. -/
theorem run_atRest (calls : List Call) : AtRest (run (step cfg) {} calls) :=
  run_invariant_of_always AtRest (fun _ call atRest => atRest.step call) calls AtRest.initial

end Scalper.Paper
