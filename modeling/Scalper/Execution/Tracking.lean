import Scalper.Execution.Ledger

/-!
# The position row and the exchange's position

The exchange nets fills into one signed position per symbol; the dispatcher sees the same
fills one by one and keeps `position_state.remaining_qty`.  `Venue` is the exchange side: a
fill of the opening order is already in the position when the trade is tracked (the placement
wrote its whole quantity), every other fill moves it.

As long as fills close no more than is left, the row is the exchange's position and the trade
is closed exactly when the exchange is flat (`run_inSync`).  A fill that crosses zero is
refused: the dispatcher halts and the row keeps what it had, by the explicit guard on
over-fills (`overFill_halts`).
-/

set_option autoImplicit false

namespace Scalper.Execution

open Scalper.Lib Scalper.Exchange

/-! ## The two sides -/

/-- The tables of the bot, and the exchange's signed position of the symbol. -/
structure Venue where
  db : Db
  net : ℚ

/-- A fill the exchange makes on the symbol, or a write of the bot's own monitor. -/
inductive VenueStep where
  | fill (delivery : Delivery)
  | monitored (write : MonitorWrite)

/-- How a fill moves the exchange's position: not at all if it is of the opening order. -/
def netAfter (opening : String) (event : Fill) (net : ℚ) : ℚ :=
  if event.exchangeOrderId = opening then net else net + event.side.sign * event.qty

/-- The exchange makes the fill and the dispatcher processes it. -/
def venueStep (key : PositionKey) (opening : String) : VenueStep → Venue → Venue
  | .fill delivery, s =>
      { db := (process key.1 delivery s.db).2, net := netAfter opening delivery.event s.net }
  | .monitored write, s => { s with db := step (.monitored key write true) s.db }

/-- A trade is marked closed. -/
def Db.isClosed (db : Db) (tradeId : ℕ) : Prop :=
  ∃ trade ∈ db.trades, trade.id = tradeId ∧ trade.status = .closed

/-- What the position row says is left; a missing row is nothing. -/
def Db.heldQty (db : Db) (key : PositionKey) : ℚ :=
  ((db.positions.lookup key).map (·.remainingQty)).getD 0

/-- The row holds the size of the exchange's position, and the trade is closed exactly when
that is flat. -/
structure InSync (key : PositionKey) (tradeId : ℕ) (side : Side) (s : Venue) : Prop where
  size : s.db.heldQty key = side.sign * s.net
  closed : s.db.isClosed tradeId ↔ s.net = 0

/-- A delivery that is processed: of the symbol, not seen before, with nothing failing. -/
structure Delivered (key : PositionKey) (delivery : Delivery) (db : Db) : Prop where
  symbol : delivery.event.symbol = key.2
  unseen : ∀ row ∈ db.executions, row.exchangeExecId ≠ delivery.event.exchangeExecId
  positive : 0 < delivery.event.qty
  commits : delivery.commits = true
  readBefore : delivery.reads.before.isOk = true
  readAfter : delivery.reads.after.isOk = true

instance Delivered.decidable (key : PositionKey) (delivery : Delivery) (db : Db) :
    Decidable (Delivered key delivery db) :=
  decidable_of_iff
    (delivery.event.symbol = key.2 ∧
      (∀ row ∈ db.executions, row.exchangeExecId ≠ delivery.event.exchangeExecId) ∧
      0 < delivery.event.qty ∧ delivery.commits = true ∧ delivery.reads.before.isOk = true ∧
      delivery.reads.after.isOk = true)
    ⟨fun ⟨symbol, unseen, positive, commits, readBefore, readAfter⟩ =>
        ⟨symbol, unseen, positive, commits, readBefore, readAfter⟩,
      fun delivered => ⟨delivered.symbol, delivered.unseen, delivered.positive, delivered.commits,
        delivered.readBefore, delivered.readAfter⟩⟩

/-- The fills the dispatcher follows: of the opening order, or of no order of ours, on the
closing side and for no more than the exchange's position. -/
def Follows (key : PositionKey) (opening : String) (side : Side) (s : Venue) : VenueStep → Prop
  | .fill delivery =>
      Delivered key delivery s.db ∧
        (delivery.event.exchangeOrderId = opening ∨
          (s.db.selectOrderIdByExchangeId delivery.event.exchangeOrderId = none ∧
            delivery.event.side = side.opposite ∧ delivery.event.qty ≤ side.sign * s.net))
  | .monitored _ => True

instance Follows.decidable (key : PositionKey) (opening : String) (side : Side) (s : Venue) :
    ∀ input : VenueStep, Decidable (Follows key opening side s input)
  | .fill delivery => inferInstanceAs (Decidable (Delivered key delivery s.db ∧ _))
  | .monitored _ => isTrue trivial

/-- A closing fill of no order of ours for more than the exchange's position. -/
structure OverFill (key : PositionKey) (side : Side) (s : Venue) (event : Fill) : Prop where
  symbol : event.symbol = key.2
  unmatched : s.db.selectOrderIdByExchangeId event.exchangeOrderId = none
  closing : event.side = side.opposite
  exceeds : side.sign * s.net < event.qty

/-- The two sides when a row starts to be followed: the exchange holds what the row says. -/
def Venue.tracking (db : Db) (ps : PositionStateRow) : Venue :=
  ⟨db, ps.side.sign * ps.remainingQty⟩

/-! ## What a fill finds in the tables -/

section Lookups

variable {db : Db} {key : PositionKey} {ps : PositionStateRow} {tradeId : ℕ}

theorem exists_of_isOk {ε α : Type} {outcome : Except ε α} (returned : outcome.isOk = true) :
    ∃ value, outcome = .ok value := by
  cases outcome with
  | error raised => cases returned
  | ok value => exact ⟨value, rfl⟩

/-- The opening order of a tracked trade, as the dispatcher and the close flow look it up. -/
theorem Integrity.opening (integrity : Integrity db) (held : db.positions.lookup key = some ps) :
    ∃ orderId found, db.selectOpenOrderIdByTradeId ps.tradeId = some orderId ∧
      (∃ row ∈ db.orders, row.id = orderId) ∧ db.selectOrderMetaById orderId = some found := by
  obtain ⟨trade, member, tracks⟩ := integrity.tracked key ps held
  have listed : (db.trades.find? (·.id == ps.tradeId)).isSome = true :=
    List.find?_isSome.mpr ⟨trade, member, by simpa using tracks.id⟩
  obtain ⟨first, found⟩ := Option.isSome_iff_exists.mp listed
  obtain ⟨order, present, same⟩ := integrity.openOrders first (List.mem_of_find?_eq_some found)
  have known : (db.orders.find? (·.id == first.openOrderId)).isSome = true :=
    List.find?_isSome.mpr ⟨order, present, by simpa using same⟩
  obtain ⟨row, read⟩ := Option.isSome_iff_exists.mp known
  refine ⟨first.openOrderId, (row.correlationId, row.exchangeOrderId), ?_,
    ⟨order, present, same⟩, ?_⟩
  · rw [Db.selectOpenOrderIdByTradeId, found, Option.map_some]
  · rw [Db.selectOrderMetaById, read, Option.map_some]

/-- A fill of no order of ours, for no more than the row holds, is taken from the row. -/
theorem Integrity.reduces (integrity : Integrity db) {botId : String} {event : Fill}
    (held : db.positions.lookup (botId, event.symbol) = some ps)
    (unmatched : db.selectOrderIdByExchangeId event.exchangeOrderId = none)
    (fits : event.qty ≤ ps.remainingQty)
    (unseen : ∀ row ∈ db.executions, row.exchangeExecId ≠ event.exchangeExecId) :
    ∃ orderId found, Reduces botId event db orderId (derivePositionFill event ps) ps ∧
      db.selectOrderMetaById orderId = some found := by
  obtain ⟨orderId, found, opening, order, read⟩ := integrity.opening held
  obtain ⟨trade, member, tracks⟩ := integrity.tracked _ ps held
  have ofTrade := derivePositionFill_tradeId event ps
  refine ⟨orderId, found, ⟨held, ofTrade, derivePositionFill_notOpen event ps, ?_, ?_⟩, read⟩
  · exact unseen_accepts unseen order ⟨trade, member, by rw [ofTrade, tracks.id]⟩
  · exact .inl ⟨unmatched, rfl, fits, opening⟩

end Lookups

/-! ## Following the exchange -/

theorem Side.sign_opposite (side : Side) : side.opposite.sign = -side.sign := by
  cases side <;> simp [Side.opposite, Side.sign]

theorem Side.sign_mul_sign (side : Side) (q : ℚ) : side.sign * (side.sign * q) = q := by
  cases side <;> simp [Side.sign]

/-- What is known of both sides along a run. -/
structure Following (key : PositionKey) (opening : String) (tradeId : ℕ) (side : Side)
    (s : Venue) : Prop where
  integrity : Integrity s.db
  opens : s.db.openedBy opening = some tradeId
  position :
    (∃ ps, s.db.positions.lookup key = some ps ∧ ps.tradeId = tradeId ∧ ps.side = side ∧
        0 < ps.remainingQty ∧ s.net = side.sign * ps.remainingQty) ∨
      (s.db.positions.lookup key = none ∧ s.net = 0 ∧ s.db.isClosed tradeId)

section Following

variable {key : PositionKey} {opening : String} {tradeId : ℕ} {side : Side} {s : Venue}

/-- A trade with a position row is not closed. -/
theorem Integrity.not_isClosed {db : Db} (integrity : Integrity db) {ps : PositionStateRow}
    (held : db.positions.lookup key = some ps) : ¬ db.isClosed ps.tradeId := by
  rintro ⟨trade, member, ofTrade, closed⟩
  obtain ⟨tracked, present, tracks⟩ := integrity.tracked key ps held
  have same : trade = tracked :=
    List.inj_on_of_nodup_map integrity.tradesDistinct member present
      (ofTrade.trans tracks.id.symm)
  rw [same, tracks.isOpen] at closed
  cases closed

theorem Following.inSync (following : Following key opening tradeId side s) :
    InSync key tradeId side s := by
  rcases following.position with ⟨ps, held, rfl, _, positive, net⟩ | ⟨free, flat, closed⟩
  · refine ⟨?_, ?_⟩
    · rw [Db.heldQty, held, net, Side.sign_mul_sign]
      rfl
    · have moved : s.net ≠ 0 := by
        rw [net]
        cases side <;> simp [Side.sign, positive.ne']
      exact iff_of_false (following.integrity.not_isClosed held) moved
  · refine ⟨?_, iff_of_true closed flat⟩
    rw [Db.heldQty, free, flat, mul_zero]
    rfl

theorem isClosed_rewrite {db db' : Db} {set : TradeRow → TradeRow} {rewritten : ℕ}
    (keeps : KeepsIdentity set) (status : ∀ trade, (set trade).status = trade.status)
    (trades : db'.trades = updateWhere (·.id == rewritten) set db.trades)
    (closed : db.isClosed tradeId) : db'.isClosed tradeId := by
  obtain ⟨trade, member, ofTrade, isClosed⟩ := closed
  rw [Db.isClosed, trades]
  by_cases touched : trade.id = rewritten
  · refine ⟨set trade, mem_updateWhere.mpr ⟨trade, member, .inl ⟨by simpa using touched, rfl⟩⟩, ?_⟩
    exact ⟨(keeps.id trade).trans ofTrade, (status trade).trans isClosed⟩
  · exact ⟨trade, mem_updateWhere.mpr ⟨trade, member, .inr ⟨by simpa using touched, rfl⟩⟩, ofTrade,
      isClosed⟩

/-- A fill of the opening order only charges the trade: both sides stand still. -/
theorem Following.opened (following : Following key opening tradeId side s) {delivery : Delivery}
    (delivered : Delivered key delivery s.db)
    (ours : delivery.event.exchangeOrderId = opening) :
    Following key opening tradeId side (venueStep key opening (.fill delivery) s) := by
  obtain ⟨orderId, trade, matched, opens, rfl⟩ := openedBy_eq_some_iff.mp following.opens
  have accepted : s.db.accepts
      (executionRow key.1 delivery.event orderId ⟨.isOpen, some trade.id, none⟩) = true :=
    unseen_accepts delivered.unseen (exists_of_selectOrderIdByExchangeId matched)
      ⟨trade, List.mem_of_find?_eq_some opens, rfl⟩
  have recorded : Recorded key.1 delivery.event delivery.reads delivery.now s.db none _ :=
    .opened (ours ▸ matched) opens accepted
  simp only [venueStep, netAfter, ours, if_true,
    process_ok_iff.mpr ⟨delivered.commits, recorded⟩]
  refine ⟨following.integrity.recorded recorded,
    recorded.grows.openedBy following.opens, ?_⟩
  · rcases following.position with tracked | ⟨free, flat, closed⟩
    · exact .inl tracked
    · exact .inr ⟨free, flat, isClosed_rewrite (keepsIdentity_addFee _) (fun _ => rfl) rfl closed⟩

/-- A closing fill for no more than is left takes the same from both sides. -/
theorem Following.reduced (following : Following key opening tradeId side s) {delivery : Delivery}
    (delivered : Delivered key delivery s.db)
    (unmatched : s.db.selectOrderIdByExchangeId delivery.event.exchangeOrderId = none)
    (closing : delivery.event.side = side.opposite)
    (fits : delivery.event.qty ≤ side.sign * s.net) :
    Following key opening tradeId side (venueStep key opening (.fill delivery) s) := by
  obtain ⟨ps, held, rfl, ofSide, positive, net⟩ | ⟨_, flat, _⟩ := following.position
  · obtain ⟨botId, symbol⟩ := key
    obtain rfl : delivery.event.symbol = symbol := delivered.symbol
    rw [net, Side.sign_mul_sign] at fits
    obtain ⟨before, readBefore⟩ := exists_of_isOk delivered.readBefore
    obtain ⟨after, readAfter⟩ := exists_of_isOk delivered.readAfter
    obtain ⟨orderId, ⟨correlationId, exchangeOrderId⟩, reduces, known⟩ :=
      following.integrity.reduces held unmatched fits delivered.unseen
    have notOurs : delivery.event.exchangeOrderId ≠ opening := by
      intro same
      obtain ⟨_, _, matched, _⟩ := openedBy_eq_some_iff.mp following.opens
      rw [← same, unmatched] at matched
      cases matched
    have moved : netAfter opening delivery.event s.net =
        side.sign * (ps.remainingQty - delivery.event.qty) := by
      rw [netAfter, if_neg notOurs, closing, Side.sign_opposite, net]
      ring
    by_cases emptied : ps.remainingQty - delivery.event.qty = 0
    · have recorded : Recorded botId delivery.event delivery.reads delivery.now s.db _ _ :=
        .closed reduces emptied readBefore readAfter known
      simp only [venueStep, moved, process_ok_iff.mpr ⟨delivered.commits, recorded⟩]
      refine ⟨following.integrity.recorded recorded,
        recorded.grows.openedBy following.opens, .inr ⟨?_, ?_, ?_⟩⟩
      · exact AList.lookup_erase _ _
      · rw [emptied, mul_zero]
      · obtain ⟨trade, member, tracks⟩ := following.integrity.tracked _ ps held
        rw [Db.isClosed, recordClose_trades]
        exact ⟨_, mem_updateWhere.mpr ⟨trade, member, .inl ⟨by simpa using tracks.id, rfl⟩⟩,
          tracks.id, rfl⟩
    · have recorded : Recorded botId delivery.event delivery.reads delivery.now s.db _ _ :=
        .part reduces emptied
      simp only [venueStep, moved, process_ok_iff.mpr ⟨delivered.commits, recorded⟩]
      refine ⟨following.integrity.recorded recorded,
        recorded.grows.openedBy following.opens,
        .inl ⟨_, AList.lookup_insert _, rfl, ofSide, ?_, rfl⟩⟩
      exact lt_of_le_of_ne (sub_nonneg.mpr fits) (Ne.symm emptied)
  · rw [flat, mul_zero] at fits
    exact absurd delivered.positive (not_lt.mpr fits)

theorem Following.monitored (following : Following key opening tradeId side s)
    (write : MonitorWrite) :
    Following key opening tradeId side (venueStep key opening (.monitored write) s) := by
  have integrity := following.integrity.step (.monitored key write true)
  simp only [venueStep]
  have change := monitorWrite_eq key write s.db
  rcases following.position with ⟨ps, held, ofTrade, ofSide, positive, net⟩ | ⟨free, flat, closed⟩
  · simp only [held] at change
    simp only [step, change] at integrity ⊢
    refine ⟨integrity, following.opens, .inl ⟨_, AList.lookup_insert _, ?_, ?_, ?_, ?_⟩⟩
    · cases write <;> exact ofTrade
    · cases write <;> exact ofSide
    · cases write <;> exact positive
    · cases write <;> exact net
  · simp only [free] at change
    simp only [step, change] at integrity ⊢
    exact ⟨integrity, following.opens, .inr ⟨free, flat, closed⟩⟩

theorem Following.step (following : Following key opening tradeId side s) {input : VenueStep}
    (follows : Follows key opening side s input) :
    Following key opening tradeId side (venueStep key opening input s) := by
  cases input with
  | fill delivery =>
      obtain ⟨delivered, ours | ⟨unmatched, closing, fits⟩⟩ := follows
      · exact following.opened delivered ours
      · exact following.reduced delivered unmatched closing fits
  | monitored write => exact following.monitored write

/-- An over-fill is refused, and nothing is written. -/
theorem overFill_halts (following : Following key opening tradeId side s) {delivery : Delivery}
    (overFill : OverFill key side s delivery.event) (tracked : s.net ≠ 0) :
    process key.1 delivery s.db = (.error .overFill, s.db) := by
  obtain ⟨ps, held, _, rfl, _, net⟩ | ⟨_, flat, _⟩ := following.position
  · obtain ⟨botId, name⟩ := key
    obtain rfl : delivery.event.symbol = name := overFill.symbol
    have exceeds : ps.remainingQty < delivery.event.qty := by
      simpa only [net, Side.sign_mul_sign] using overFill.exceeds
    have otherSide : delivery.event.side ≠ ps.side := by
      rw [overFill.closing]
      cases ps.side <;> simp [Side.opposite]
    have unknown : derivePositionFill delivery.event ps =
        ⟨.unknown, some ps.tradeId, ps.slType⟩ := by
      simp [derivePositionFill, otherSide, exceeds.not_gt, exceeds.ne']
    have halted : processTx botId delivery.event delivery.reads delivery.now s.db =
        .error .overFill := by
      simp only [processTx, overFill.unmatched, deriveExecType, Db.selectPositionState, held,
        unknown, recordFill, haltOnOverFill, bind, StateT.bind, Except.bind, Option.isSome_some,
        and_self, if_true, exceeds]
    simp only [process, transaction, halted]
  · exact absurd flat tracked

end Following

/-- **The row follows the exchange**: from any reachable state in which the bot tracks a trade
with something left, along every sequence of fills of its opening order and of closing fills
for no more than the exchange's position, split in any way, the row holds the size of that
position and the trade is closed exactly when it is flat; and wherever the trade is still
tracked a closing fill for more is refused without a write. -/
theorem run_inSync {history : List Step} {key : PositionKey} {ps : PositionStateRow}
    {opening : String} {fills : List VenueStep} {s : Venue}
    (held : (run step {} history).positions.lookup key = some ps)
    (positive : 0 < ps.remainingQty)
    (opens : (run step {} history).openedBy opening = some ps.tradeId)
    (follows : RunGuarded (Follows key opening ps.side) (venueStep key opening)
      (.tracking (run step {} history) ps) fills)
    (reached : run (venueStep key opening) (.tracking (run step {} history) ps) fills = s) :
    InSync key ps.tradeId ps.side s ∧
      ∀ delivery : Delivery, OverFill key ps.side s delivery.event → s.net ≠ 0 →
        process key.1 delivery s.db = (.error .overFill, s.db) := by
  have initial : Following key opening ps.tradeId ps.side (.tracking (run step {} history) ps) :=
    ⟨run_integrity history, opens, .inl ⟨ps, held, rfl, rfl, positive, rfl⟩⟩
  have following : Following key opening ps.tradeId ps.side s :=
    reached ▸ run_invariant (Following key opening ps.tradeId ps.side)
      (fun _ _ following follows => following.step follows) initial follows
  exact ⟨following.inSync, fun _ overFill tracked => overFill_halts following overFill tracked⟩

/-! ## A long of 10 -/

/-- The row the long's placement writes. -/
def longRow : PositionStateRow where
  tradeId := 1
  side := .buy
  entryPrice := 100
  qty := 10
  remainingQty := 10
  slPrice := some 98
  tpPrice := some 104
  slType := some .protective
  updatedAt := 3

/-- Its opening fill, a take-profit in two executions, a stop for the rest. -/
def longFills : List VenueStep :=
  [.fill (longFill "e1" "open-1" .buy 10 4), .fill (longFill "e2" "tp" .sell 3 5),
   .fill (longFill "e3" "tp" .sell 2 6), .fill (longFill "e4" "sl" .sell 5 7)]

theorem longFills_inSync :
    InSync ("bot", "BTCUSDT") 1 .buy (run (venueStep ("bot", "BTCUSDT") "open-1")
      (.tracking (run step {} [.placed placedLong 98 104 1000 3 true]) longRow) longFills) := by
  have held : (run step {} [.placed placedLong 98 104 1000 3 true]).positions.lookup
      ("bot", "BTCUSDT") = some longRow := by decide +kernel
  have opens : (run step {} [.placed placedLong 98 104 1000 3 true]).openedBy "open-1" =
      some 1 := by decide +kernel
  exact (run_inSync held (by decide) opens (by decide +kernel) rfl).1

/-- The row does not follow an operator who sells 15 of the 10: the exchange is short 5, and
the row still says 10. -/
theorem overFill_outOfSync :
    ¬ ∀ fills : List Delivery,
      RunGuarded (fun s delivery => Delivered ("bot", "BTCUSDT") delivery s.db)
        (fun delivery => venueStep ("bot", "BTCUSDT") "open-1" (.fill delivery))
        (.tracking (run step {} [.placed placedLong 98 104 1000 3 true]) longRow) fills →
      InSync ("bot", "BTCUSDT") 1 .buy
        (run (fun delivery => venueStep ("bot", "BTCUSDT") "open-1" (.fill delivery))
          (.tracking (run step {} [.placed placedLong 98 104 1000 3 true]) longRow) fills) := by
  intro follows
  have sync := (follows [longFill "e1" "manual" .sell 15 4] (by decide +kernel)).size
  revert sync
  decide +kernel

end Scalper.Execution
