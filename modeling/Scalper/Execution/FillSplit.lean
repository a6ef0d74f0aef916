import Scalper.Execution.Redelivery
import Scalper.Execution.Tracking

/-!
# One exit order in several fills

The exchange may fill a stop or a take-profit in any number of executions.  The dispatcher does
not see the order, only its executions, and takes the meaning of each from its quantity: less
than what is left is a take-profit, all of it is the stop.  `ExitStanding` is what the tables say
of a trade while it is exited, and on it a fill is one function (`process_standing`).

Delivering the executions is then delivering one of the whole quantity in three cases only
(`splitInvariant_iff`): nothing fits in what is left; the stop trails already; or the order is a
take-profit for a part, or is not split at all.  A stop-loss in two executions turns the stop
into a trailing one and closes the trade as trailed (`stopInTwo_closes_as_trail`).
-/

set_option autoImplicit false

namespace Scalper.Execution

open Scalper.Lib Scalper.Exchange

/-! ## What an exit does to a trade -/

/-- The columns of the position row that a fill moves. -/
structure HeldPart where
  remainingQty : ℚ
  slType : Option SlType
  deriving DecidableEq, Repr

/-- What the tables say of a trade while it is exited. -/
structure ExitStanding where
  held : Option HeldPart
  closeReason : Option CloseReason
  feesPaid : Option ℚ
  deriving DecidableEq, Repr

/-- The reason a trade is closed with when a fill takes all that is left. -/
def stopCloseReason : Option SlType → CloseReason
  | some .trail => .trail
  | some .protective | some .be => .sl
  | none => .unknown

/-- The fees of a trade with one more, as their column keeps them. -/
def addedFee (fee : ℚ) (paid : Option ℚ) : Option ℚ := some (numeric 4 (paid.getD 0 + fee))

/-- A closing fill of no order of ours: refused for more than is left, the stop for all of it, a
take-profit for less. -/
def ExitStanding.fill (qty fee : ℚ) (s : ExitStanding) : ExitStanding :=
  match s.held with
  | none => s
  | some part =>
      if part.remainingQty < qty then s
      else if qty = part.remainingQty then
        ⟨none, some (stopCloseReason part.slType), addedFee fee s.feesPaid⟩
      else ⟨some ⟨part.remainingQty - qty, some .trail⟩, s.closeReason, addedFee fee s.feesPaid⟩

/-- The standing of a trade in the tables. -/
def Db.standing (db : Db) (key : PositionKey) (tradeId : ℕ) : ExitStanding where
  held := (db.positions.lookup key).map fun ps => ⟨ps.remainingQty, ps.slType⟩
  closeReason := (db.trades.find? (·.id == tradeId)).bind (·.closeReason)
  feesPaid := (db.trades.find? (·.id == tradeId)).bind (·.feesPaid)

/-- The tables after the dispatcher has processed a delivery. -/
def processed (botId : String) (delivery : Delivery) (db : Db) : Db :=
  (process botId delivery db).2

/-! ## The order and its fills -/

/-- The order that exits a trade. -/
inductive ExitKind where
  | stopLoss
  | trail
  | takeProfit
  deriving DecidableEq, Repr

/-- A fill of an exit order: processed with nothing failing, of an order the tables do not know,
and on the closing side. -/
structure ExitFill (key : PositionKey) (side : Side) (db : Db) (delivery : Delivery) : Prop where
  delivered : Delivered key delivery db
  unmatched : db.selectOrderIdByExchangeId delivery.event.exchangeOrderId = none
  closing : delivery.event.side = side.opposite

instance ExitFill.decidable (key : PositionKey) (side : Side) (db : Db) (delivery : Delivery) :
    Decidable (ExitFill key side db delivery) :=
  decidable_of_iff
    (Delivered key delivery db ∧
      db.selectOrderIdByExchangeId delivery.event.exchangeOrderId = none ∧
      delivery.event.side = side.opposite)
    ⟨fun ⟨delivered, unmatched, closing⟩ => ⟨delivered, unmatched, closing⟩,
      fun fill => ⟨fill.delivered, fill.unmatched, fill.closing⟩⟩

/-- The executions of one exit order, and one execution of its whole quantity and fee. -/
structure SplitOf (key : PositionKey) (side : Side) (db : Db) (parts : List Delivery)
    (whole : Delivery) : Prop where
  fills : ∀ part ∈ parts, ExitFill key side db part
  wholeFill : ExitFill key side db whole
  oneOrder : ∀ part ∈ parts, part.event.exchangeOrderId = whole.event.exchangeOrderId
  distinct : (parts.map (·.event.exchangeExecId)).Nodup
  qty : (parts.map (·.event.qty)).sum = whole.event.qty
  fee : (parts.map (·.event.fee)).sum = whole.event.fee

/-- **Splitting makes no difference**: the close reason, the stop type, the remaining quantity
and the fees come out as for one execution, and along the way the stop comes to trail only
because a take-profit filled. -/
structure SplitInvariant (kind : ExitKind) (key : PositionKey) (ps : PositionStateRow) (db : Db)
    (parts : List Delivery) (whole : Delivery) : Prop where
  same : (run (processed key.1) db parts).standing key ps.tradeId =
    (processed key.1 whole db).standing key ps.tradeId
  trails : ∀ done, done <+: parts → ∀ row,
    (run (processed key.1) db done).positions.lookup key = some row →
      row.slType = some .trail → ps.slType = some .trail ∨ kind = .takeProfit

/-- The fees, rounded to the column as each is added, come to their sum rounded once. -/
def FeesAddUp (paid : Option ℚ) (parts : List Delivery) (whole : Delivery) : Prop :=
  run addedFee paid (parts.map (·.event.fee)) = addedFee whole.event.fee paid

instance FeesAddUp.decidable (paid : Option ℚ) (parts : List Delivery) (whole : Delivery) :
    Decidable (FeesAddUp paid parts whole) :=
  inferInstanceAs (Decidable (run addedFee paid _ = _))

/-- No execution fits in what is left; or the whole order does, its fees add up, and either the
stop trails already, or the order is a take-profit for less than is left, or it is for all that
is left in one execution. -/
def SplitHarmless (kind : ExitKind) (ps : PositionStateRow) (paid : Option ℚ)
    (parts : List Delivery) (whole : Delivery) : Prop :=
  (∀ part ∈ parts, ps.remainingQty < part.event.qty) ∨
    (whole.event.qty ≤ ps.remainingQty ∧ FeesAddUp paid parts whole ∧
      (ps.slType = some .trail ∨
        (kind = .takeProfit ∧ whole.event.qty < ps.remainingQty) ∨
        (whole.event.qty = ps.remainingQty ∧ parts.length = 1)))

instance SplitHarmless.decidable (kind : ExitKind) (ps : PositionStateRow) (paid : Option ℚ)
    (parts : List Delivery) (whole : Delivery) :
    Decidable (SplitHarmless kind ps paid parts whole) :=
  inferInstanceAs (Decidable (_ ∨ _))

/-! ## A fill on the standing -/

section Standing

variable {db : Db} {key : PositionKey} {ps : PositionStateRow}

theorem derivePositionFill_execType {event : Fill} (closing : event.side = ps.side.opposite)
    (whole : event.qty = ps.remainingQty) :
    execTypeToCloseReason (derivePositionFill event ps).execType = stopCloseReason ps.slType := by
  have otherSide : event.side ≠ ps.side := by
    rw [closing]
    cases ps.side <;> simp [Side.opposite]
  rcases ofType : ps.slType with _ | _ | _ | _ <;>
    simp [derivePositionFill, otherSide, whole, ofType, execTypeToCloseReason, stopCloseReason]

theorem derivePositionFill_part {event : Fill} (closing : event.side = ps.side.opposite)
    (less : event.qty < ps.remainingQty) :
    derivePositionFill event ps = ⟨.partialTp, some ps.tradeId, some .trail⟩ := by
  have otherSide : event.side ≠ ps.side := by
    rw [closing]
    cases ps.side <;> simp [Side.opposite]
  simp [derivePositionFill, otherSide, less]

/-- The trade a rewrite is about, in the rewritten table. -/
theorem find?_rewritten {trades : List TradeRow} {set : TradeRow → TradeRow} {tradeId : ℕ}
    (keeps : KeepsIdentity set) :
    (updateWhere (·.id == tradeId) set trades).find? (·.id == tradeId) =
      (trades.find? (·.id == tradeId)).map set :=
  find?_updateWhere (fun trade => by rw [keeps.id]) trades

/-- A trade with a position row is in the table. -/
theorem Integrity.find?_trade (integrity : Integrity db)
    (held : db.positions.lookup key = some ps) :
    ∃ trade, db.trades.find? (·.id == ps.tradeId) = some trade := by
  obtain ⟨trade, member, tracks⟩ := integrity.tracked key ps held
  exact Option.isSome_iff_exists.mp
    (List.find?_isSome.mpr ⟨trade, member, by simpa using tracks.id⟩)

theorem recordPart_standing (integrity : Integrity db) (held : db.positions.lookup key = some ps)
    {row : ExecutionRow} (ofType : row.execType = .partialTp) (now : ℕ) :
    (db.recordPart row key ps now).standing key ps.tradeId =
      ⟨some ⟨ps.remainingQty - row.qty, some .trail⟩,
        (db.standing key ps.tradeId).closeReason,
        addedFee row.fee (db.standing key ps.tradeId).feesPaid⟩ := by
  obtain ⟨trade, found⟩ := integrity.find?_trade held
  have keeps := (keepsIdentity_enter .partiallyClosed).comp (keepsIdentity_addFee row.fee)
  have rewritten : (db.recordPart row key ps now).trades.find? (·.id == ps.tradeId) =
      some ((trade.addFee row.fee).enter .partiallyClosed) := by
    rw [recordPart_trades, find?_rewritten keeps, found]
    rfl
  have position : (db.recordPart row key ps now).positions.lookup key =
      some (ps.afterFill row.qty (newSlType row.execType) now) := AList.lookup_insert _
  simp only [Db.standing, rewritten, position, found, ofType]
  rfl

theorem recordClose_standing (integrity : Integrity db)
    (held : db.positions.lookup key = some ps) {row : ExecutionRow} (now : ℕ) (pnl : ℚ) :
    (db.recordClose row key ps now pnl).standing key ps.tradeId =
      ⟨none, some (execTypeToCloseReason row.execType),
        addedFee row.fee (db.standing key ps.tradeId).feesPaid⟩ := by
  obtain ⟨trade, found⟩ := integrity.find?_trade held
  have keeps := ((keepsIdentity_enter .closed).comp (keepsIdentity_close row.price pnl none
    row.executedAt (execTypeToCloseReason row.execType) row.orderId)).comp
      (keepsIdentity_addFee row.fee)
  have rewritten : (db.recordClose row key ps now pnl).trades.find? (·.id == ps.tradeId) =
      some (((trade.addFee row.fee).close row.price pnl none row.executedAt
        (execTypeToCloseReason row.execType) row.orderId).enter .closed) := by
    rw [recordClose_trades, find?_rewritten keeps, found]
    rfl
  have position : (db.recordClose row key ps now pnl).positions.lookup key = none :=
    AList.lookup_erase _ _
  simp only [Db.standing, rewritten, position, found]
  rfl

/-- The tables while a trade is exited: its row, as long as there is one, is that of the trade. -/
structure ExitTables (key : PositionKey) (tradeId : ℕ) (side : Side) (db : Db) : Prop where
  integrity : Integrity db
  ofTrade : ∀ ps, db.positions.lookup key = some ps → ps.tradeId = tradeId ∧ ps.side = side

variable {tradeId : ℕ} {side : Side} {delivery : Delivery}

/-- A delivery that cannot be recorded leaves the tables as they were. -/
theorem processed_of_refused {botId : String}
    (refused : ∀ closed db',
      ¬ Recorded botId delivery.event delivery.reads delivery.now db closed db') :
    processed botId delivery db = db := by
  cases outcome : (process botId delivery db).1 with
  | error raised => exact process_error outcome
  | ok closed =>
      have returned : process botId delivery db = (.ok closed, (process botId delivery db).2) :=
        Prod.ext outcome rfl
      exact absurd (process_ok_iff.mp returned).2 (refused closed _)

/-- A recorded exit fill takes from the row, and no more than it holds. -/
theorem ExitFill.reduces (fill : ExitFill key side db delivery) (integrity : Integrity db)
    {closed : Option OrderClosed} {db' : Db}
    (recorded : Recorded key.1 delivery.event delivery.reads delivery.now db closed db') :
    ∃ ps, db.positions.lookup key = some ps ∧ delivery.event.qty ≤ ps.remainingQty := by
  have atKey : (key.1, delivery.event.symbol) = key := by rw [fill.delivered.symbol]
  cases recorded with
  | opened matched =>
      rw [fill.unmatched] at matched
      cases matched
  | part reduces => exact ⟨_, atKey ▸ reduces.held, (reduces.unmatched integrity).2.2⟩
  | closed reduces => exact ⟨_, atKey ▸ reduces.held, (reduces.unmatched integrity).2.2⟩

/-- **A fill is the same function on the standing**, whatever the tables hold. -/
theorem process_standing (tables : ExitTables key tradeId side db)
    (fill : ExitFill key side db delivery) :
    (processed key.1 delivery db).standing key tradeId =
      (db.standing key tradeId).fill delivery.event.qty delivery.event.fee := by
  obtain ⟨botId, symbol⟩ := key
  obtain rfl : delivery.event.symbol = symbol := fill.delivered.symbol
  cases held : db.positions.lookup (botId, delivery.event.symbol) with
  | none =>
      have free : (db.standing (botId, delivery.event.symbol) tradeId).held = none := by
        simp only [Db.standing, held, Option.map_none]
      rw [processed_of_refused, ExitStanding.fill, free]
      intro closed db' recorded
      obtain ⟨ps, found, _⟩ := fill.reduces tables.integrity recorded
      rw [held] at found
      cases found
  | some ps =>
      obtain ⟨rfl, rfl⟩ := tables.ofTrade ps held
      have stands : (db.standing (botId, delivery.event.symbol) ps.tradeId).held =
          some ⟨ps.remainingQty, ps.slType⟩ := by
        simp only [Db.standing, held, Option.map_some]
      simp only [ExitStanding.fill, stands]
      rcases lt_trichotomy ps.remainingQty delivery.event.qty with exceeds | all | part
      · rw [if_pos exceeds, processed_of_refused]
        intro closed db' recorded
        obtain ⟨found, heldToo, fits⟩ := fill.reduces tables.integrity recorded
        obtain rfl := Option.some.inj (held.symm.trans heldToo)
        exact absurd exceeds (not_lt.mpr fits)
      · obtain ⟨before, readBefore⟩ := exists_of_isOk fill.delivered.readBefore
        obtain ⟨after, readAfter⟩ := exists_of_isOk fill.delivered.readAfter
        obtain ⟨orderId, ⟨correlationId, exchangeOrderId⟩, reduces, known⟩ :=
          tables.integrity.reduces held fill.unmatched all.ge fill.delivered.unseen
        have recorded : Recorded botId delivery.event delivery.reads delivery.now db _ _ :=
          .closed reduces (sub_eq_zero.mpr all) readBefore readAfter known
        rw [if_neg all.not_lt, if_pos all.symm, processed,
          process_ok_iff.mpr ⟨fill.delivered.commits, recorded⟩,
          recordClose_standing tables.integrity held, ← derivePositionFill_execType fill.closing
            all.symm]
        rfl
      · obtain ⟨orderId, _, reduces, _⟩ :=
          tables.integrity.reduces held fill.unmatched part.le fill.delivered.unseen
        have recorded : Recorded botId delivery.event delivery.reads delivery.now db _ _ :=
          .part reduces (sub_ne_zero.mpr part.ne')
        rw [if_neg part.not_gt, if_neg part.ne, processed,
          process_ok_iff.mpr ⟨fill.delivered.commits, recorded⟩,
          recordPart_standing tables.integrity held]
        · rfl
        · rw [executionRow, derivePositionFill_part fill.closing part]

end Standing

/-! ## Many fills on the standing -/

section Parts

/-- The total of a list of quantities and fees. -/
def totalQty (parts : List (ℚ × ℚ)) : ℚ := (parts.map Prod.fst).sum

@[simp] theorem totalQty_cons (part : ℚ × ℚ) (parts : List (ℚ × ℚ)) :
    totalQty (part :: parts) = part.1 + totalQty parts := by
  simp [totalQty]

/-- The fills on a standing, in order. -/
def ExitStanding.fills (parts : List (ℚ × ℚ)) (s : ExitStanding) : ExitStanding :=
  run (fun part => ExitStanding.fill part.1 part.2) s parts

/-- The fees after the fills. -/
def paidAfter (paid : Option ℚ) (parts : List (ℚ × ℚ)) : Option ℚ :=
  run addedFee paid (parts.map Prod.snd)

variable {remaining : ℚ} {slType : Option SlType} {closeReason : Option CloseReason}
  {paid : Option ℚ} {parts : List (ℚ × ℚ)}

theorem fill_refused {qty : ℚ} (fee : ℚ) (exceeds : remaining < qty) :
    ExitStanding.fill qty fee ⟨some ⟨remaining, slType⟩, closeReason, paid⟩ =
      ⟨some ⟨remaining, slType⟩, closeReason, paid⟩ := by
  simp only [ExitStanding.fill, if_pos exceeds]

theorem fill_all (fee : ℚ) :
    ExitStanding.fill remaining fee ⟨some ⟨remaining, slType⟩, closeReason, paid⟩ =
      ⟨none, some (stopCloseReason slType), addedFee fee paid⟩ := by
  simp only [ExitStanding.fill, lt_irrefl, if_false, if_true]

theorem fill_part {qty : ℚ} (fee : ℚ) (less : qty < remaining) :
    ExitStanding.fill qty fee ⟨some ⟨remaining, slType⟩, closeReason, paid⟩ =
      ⟨some ⟨remaining - qty, some .trail⟩, closeReason, addedFee fee paid⟩ := by
  simp only [ExitStanding.fill, if_neg less.not_gt, if_neg less.ne]

theorem totalQty_nonneg (positive : ∀ part ∈ parts, 0 < part.1) : 0 ≤ totalQty parts := by
  refine List.sum_nonneg fun qty member => ?_
  obtain ⟨part, listed, rfl⟩ := List.mem_map.mp member
  exact (positive part listed).le

/-- Nothing fits: the standing is kept. -/
theorem fills_refused (exceed : ∀ part ∈ parts, remaining < part.1) :
    ExitStanding.fills parts ⟨some ⟨remaining, slType⟩, closeReason, paid⟩ =
      ⟨some ⟨remaining, slType⟩, closeReason, paid⟩ := by
  induction parts with
  | nil => rfl
  | cons part parts ih =>
      rw [List.forall_mem_cons] at exceed
      rw [ExitStanding.fills, run_cons, fill_refused part.2 exceed.1]
      exact ih exceed.2

/-- Something is filled and something is left: each of the fills was taken for a take-profit. -/
theorem fills_part (positive : ∀ part ∈ parts, 0 < part.1) (nonempty : parts ≠ [])
    (less : totalQty parts < remaining) :
    ExitStanding.fills parts ⟨some ⟨remaining, slType⟩, closeReason, paid⟩ =
      ⟨some ⟨remaining - totalQty parts, some .trail⟩, closeReason, paidAfter paid parts⟩ := by
  induction parts generalizing remaining slType paid with
  | nil => exact absurd rfl nonempty
  | cons part parts ih =>
      rw [List.forall_mem_cons] at positive
      rw [totalQty_cons] at less ⊢
      have rest := totalQty_nonneg positive.2
      rw [ExitStanding.fills, run_cons, fill_part part.2 (by linarith)]
      by_cases last : parts = []
      · subst last
        simp [totalQty, paidAfter]
      · refine (ih positive.2 last (by linarith)).trans ?_
        rw [sub_sub]
        rfl

/-- All that is left is filled: a single fill was the stop, and several leave a trailing one for
the last. -/
theorem fills_all (positive : ∀ part ∈ parts, 0 < part.1) (nonempty : parts ≠ [])
    (all : totalQty parts = remaining) :
    ExitStanding.fills parts ⟨some ⟨remaining, slType⟩, closeReason, paid⟩ =
      ⟨none, some (stopCloseReason (if parts.length = 1 then slType else some .trail)),
        paidAfter paid parts⟩ := by
  induction parts generalizing remaining slType paid with
  | nil => exact absurd rfl nonempty
  | cons part parts ih =>
      rw [List.forall_mem_cons] at positive
      rw [totalQty_cons] at all
      rw [ExitStanding.fills, run_cons]
      by_cases last : parts = []
      · obtain rfl : part.1 = remaining := by
          simpa [last, totalQty] using all
        rw [fill_all, last]
        simp [paidAfter]
      · have rest : 0 < totalQty parts := by
          obtain ⟨next, later, rfl⟩ := List.exists_cons_of_ne_nil last
          have following := totalQty_nonneg fun part member =>
            positive.2 part (List.mem_cons_of_mem next member)
          rw [totalQty_cons]
          linarith [positive.2 next List.mem_cons_self]
        rw [fill_part part.2 (by linarith)]
        refine (ih positive.2 last (by linarith)).trans ?_
        have several : (part :: parts).length ≠ 1 := by simpa using last
        rw [ite_self, if_neg several]
        rfl

/-- Less is left than before. -/
def ExitStanding.Below (bound : ℚ) (s : ExitStanding) : Prop :=
  ∀ part, s.held = some part → part.remainingQty < bound

theorem ExitStanding.Below.fill {bound : ℚ} {s : ExitStanding} (below : s.Below bound) {qty : ℚ}
    (positive : 0 < qty) (fee : ℚ) : (s.fill qty fee).Below bound := by
  intro part held
  simp only [ExitStanding.fill] at held
  split at held
  · exact below part held
  · rename_i before found
    have less := below before found
    split_ifs at held with exceeds all
    · exact below part held
    · cases Option.some.inj held
      show before.remainingQty - qty < bound
      linarith

theorem fill_below {qty : ℚ} (positive : 0 < qty) (fits : qty ≤ remaining) (fee : ℚ) :
    (ExitStanding.fill qty fee ⟨some ⟨remaining, slType⟩, closeReason, paid⟩).Below remaining := by
  intro held found
  rcases fits.eq_or_lt with rfl | less
  · rw [fill_all] at found
    cases found
  · rw [fill_part fee less] at found
    cases Option.some.inj found
    exact sub_lt_self remaining positive

/-- As soon as one of the fills fits, less is left. -/
theorem fills_below (positive : ∀ part ∈ parts, 0 < part.1)
    (fits : ∃ part ∈ parts, part.1 ≤ remaining) :
    (ExitStanding.fills parts ⟨some ⟨remaining, slType⟩, closeReason, paid⟩).Below remaining := by
  induction parts with
  | nil =>
      obtain ⟨part, member, _⟩ := fits
      cases member
  | cons part parts ih =>
      rw [List.forall_mem_cons] at positive
      rw [ExitStanding.fills, run_cons]
      by_cases within : part.1 ≤ remaining
      · exact run_invariant (ExitStanding.Below remaining)
          (fun s part below (positive : 0 < part.1) => below.fill positive part.2)
          (fill_below positive.1 within part.2) (runGuarded_of_forall positive.2)
      · rw [fill_refused part.2 (not_le.mp within)]
        refine ih positive.2 ?_
        obtain ⟨fitting, member, fits⟩ := fits
        rcases List.mem_cons.mp member with rfl | later
        · exact absurd fits within
        · exact ⟨fitting, later, fits⟩

end Parts

/-! ## Many fills on the tables -/

section Tables

variable {db : Db} {key : PositionKey} {ps : PositionStateRow} {tradeId : ℕ} {side : Side}
  {parts : List Delivery} {whole : Delivery}

/-- A delivery leaves the tables as they were, or is recorded in them. -/
theorem processed_cases (botId : String) (delivery : Delivery) (db : Db) :
    processed botId delivery db = db ∨
      ∃ closed, Recorded botId delivery.event delivery.reads delivery.now db closed
        (processed botId delivery db) := by
  cases outcome : (process botId delivery db).1 with
  | error raised => exact .inl (process_error outcome)
  | ok closed =>
      exact .inr ⟨closed, (process_ok_iff.mp (Prod.ext outcome rfl)).2⟩

/-- A fill that is not the one delivered can still be delivered after it. -/
theorem ExitFill.processed {delivery : Delivery} {botId : String}
    (fill : ExitFill key side db delivery) {other : Delivery}
    (different : other.event.exchangeExecId ≠ delivery.event.exchangeExecId) :
    ExitFill key side (processed botId other db) delivery := by
  rcases processed_cases botId other db with kept | ⟨closed, recorded⟩
  · rw [kept]
    exact fill
  · obtain ⟨row, executions, ofEvent⟩ := recorded.executions
    obtain ⟨orders, _⟩ := recorded.rewrites
    refine ⟨⟨fill.delivered.symbol, ?_, fill.delivered.positive, fill.delivered.commits,
      fill.delivered.readBefore, fill.delivered.readAfter⟩, ?_, fill.closing⟩
    · rw [executions]
      intro listed member
      rcases List.mem_append.mp member with old | added
      · exact fill.delivered.unseen listed old
      · rw [List.mem_singleton.mp added, ofEvent]
        exact different
    · rw [Db.selectOrderIdByExchangeId, orders]
      exact fill.unmatched

theorem ExitTables.processed (tables : ExitTables key tradeId side db) {delivery : Delivery}
    (fill : ExitFill key side db delivery) :
    ExitTables key tradeId side (processed key.1 delivery db) := by
  rcases processed_cases key.1 delivery db with kept | ⟨closed, recorded⟩
  · rw [kept]
    exact tables
  · refine ⟨tables.integrity.recorded recorded, fun ps held => ?_⟩
    have atKey : (key.1, delivery.event.symbol) = key := by rw [fill.delivered.symbol]
    generalize Execution.processed key.1 delivery db = db' at recorded held
    cases recorded with
    | opened matched =>
        rw [fill.unmatched] at matched
        cases matched
    | part reduces =>
        rcases lookup_insert_cases held with ⟨_, rfl⟩ | ⟨different, _⟩
        · have before := reduces.held
          rw [atKey] at before
          have ofTrade := tables.ofTrade _ before
          exact ofTrade
        · exact absurd atKey.symm different
    | closed => exact absurd atKey.symm (lookup_recordClose.mp held).1

/-- What the dispatcher sees of a delivery: its quantity and its fee. -/
def Delivery.part (delivery : Delivery) : ℚ × ℚ := (delivery.event.qty, delivery.event.fee)

/-- **The dispatcher follows the standing** along every sequence of fills. -/
theorem run_standing (tables : ExitTables key tradeId side db)
    (fills : ∀ part ∈ parts, ExitFill key side db part)
    (distinct : (parts.map (·.event.exchangeExecId)).Nodup) :
    (run (processed key.1) db parts).standing key tradeId =
      (db.standing key tradeId).fills (parts.map Delivery.part) := by
  induction parts generalizing db with
  | nil => rfl
  | cons part parts ih =>
      rw [List.forall_mem_cons] at fills
      rw [List.map_cons, List.nodup_cons] at distinct
      have later : ∀ other ∈ parts, ExitFill key side (processed key.1 part db) other := by
        intro other member
        refine (fills.2 other member).processed fun same => distinct.1 ?_
        exact List.mem_map.mpr ⟨other, member, same.symm⟩
      rw [run_cons, ih (tables.processed fills.1) later distinct.2,
        process_standing tables fills.1]
      rfl

theorem totalQty_parts (parts : List Delivery) :
    totalQty (parts.map Delivery.part) = (parts.map (·.event.qty)).sum := by
  rw [totalQty, List.map_map]
  rfl

theorem paidAfter_parts (paid : Option ℚ) (parts : List Delivery) :
    paidAfter paid (parts.map Delivery.part) = run addedFee paid (parts.map (·.event.fee)) := by
  rw [paidAfter, List.map_map]
  rfl

end Tables

/-! ## When splitting makes no difference -/

section Invariance

variable {remaining : ℚ} {slType : Option SlType} {closeReason : Option CloseReason}
  {paid : Option ℚ} {parts : List (ℚ × ℚ)} {kind : ExitKind}

theorem stopCloseReason_eq_trail_iff {slType : Option SlType} :
    stopCloseReason slType = .trail ↔ slType = some .trail := by
  rcases slType with _ | _ | _ | _ <;> simp [stopCloseReason]

/-- Along the fills the stop comes to trail only because a take-profit filled. -/
def TrailsByTakeProfit (kind : ExitKind) (slType : Option SlType) (parts : List (ℚ × ℚ))
    (s : ExitStanding) : Prop :=
  ∀ done, done <+: parts → ∀ part, (s.fills done).held = some part →
    part.slType = some .trail → slType = some .trail ∨ kind = .takeProfit

/-- Many fills that make no difference: all are refused, or all fit and the stop stays what it
was. -/
theorem harmless_of_fills_invariant (positive : ∀ part ∈ parts, 0 < part.1) (nonempty : parts ≠ [])
    {fee : ℚ}
    (same : ExitStanding.fills parts ⟨some ⟨remaining, slType⟩, closeReason, paid⟩ =
      ExitStanding.fill (totalQty parts) fee ⟨some ⟨remaining, slType⟩, closeReason, paid⟩)
    (trails : TrailsByTakeProfit kind slType parts
      ⟨some ⟨remaining, slType⟩, closeReason, paid⟩) :
    (∀ part ∈ parts, remaining < part.1) ∨
      (totalQty parts ≤ remaining ∧ paidAfter paid parts = addedFee fee paid ∧
        (slType = some .trail ∨ (kind = .takeProfit ∧ totalQty parts < remaining) ∨
          (totalQty parts = remaining ∧ parts.length = 1))) := by
  by_cases refused : ∀ part ∈ parts, remaining < part.1
  · exact .inl refused
  have fitting : ∃ part ∈ parts, part.1 ≤ remaining := by simpa using refused
  rcases lt_trichotomy remaining (totalQty parts) with exceeds | all | less
  · -- the whole order is refused, and a part of it is not
    rw [fill_refused fee exceeds] at same
    have below : (ExitStanding.fills parts
        ⟨some ⟨remaining, slType⟩, closeReason, paid⟩).Below remaining :=
      fills_below positive fitting
    rw [same] at below
    exact absurd (below _ rfl) (lt_irrefl _)
  · rw [fills_all positive nonempty all.symm, ← all, fill_all] at same
    obtain ⟨reason, fees⟩ : stopCloseReason (if parts.length = 1 then slType else some .trail) =
        stopCloseReason slType ∧ paidAfter paid parts = addedFee fee paid := by
      simpa using same
    refine .inr ⟨all.ge, fees, ?_⟩
    by_cases single : parts.length = 1
    · exact .inr (.inr ⟨all.symm, single⟩)
    · rw [if_neg single] at reason
      exact .inl (stopCloseReason_eq_trail_iff.mp reason.symm)
  · have partly : ExitStanding.fills parts ⟨some ⟨remaining, slType⟩, closeReason, paid⟩ =
        ⟨some ⟨remaining - totalQty parts, some .trail⟩, closeReason, paidAfter paid parts⟩ :=
      fills_part positive nonempty less
    have trailing := trails parts List.prefix_rfl _ (congrArg ExitStanding.held partly) rfl
    rw [partly, fill_part fee less] at same
    have fees : paidAfter paid parts = addedFee fee paid := congrArg ExitStanding.feesPaid same
    exact .inr ⟨less.le, fees, trailing.imp id fun ofKind => .inl ⟨ofKind, less⟩⟩

theorem fills_invariant_of_refused (positive : ∀ part ∈ parts, 0 < part.1) (nonempty : parts ≠ [])
    (refused : ∀ part ∈ parts, remaining < part.1) (fee : ℚ) :
    ExitStanding.fills parts ⟨some ⟨remaining, slType⟩, closeReason, paid⟩ =
        ExitStanding.fill (totalQty parts) fee ⟨some ⟨remaining, slType⟩, closeReason, paid⟩ ∧
      TrailsByTakeProfit kind slType parts ⟨some ⟨remaining, slType⟩, closeReason, paid⟩ := by
  obtain ⟨part, others, rfl⟩ := List.exists_cons_of_ne_nil nonempty
  have rest := totalQty_nonneg fun other member =>
    positive other (List.mem_cons_of_mem part member)
  have exceeds : remaining < totalQty (part :: others) := by
    rw [totalQty_cons]
    linarith [refused part List.mem_cons_self]
  refine ⟨by rw [fills_refused refused, fill_refused fee exceeds], ?_⟩
  intro done within held found trailing
  rw [fills_refused fun part member => refused part (within.subset member)] at found
  cases Option.some.inj found
  exact .inl trailing

theorem fills_invariant_of_fits (positive : ∀ part ∈ parts, 0 < part.1) (nonempty : parts ≠ [])
    {fee : ℚ} (fits : totalQty parts ≤ remaining) (fees : paidAfter paid parts = addedFee fee paid)
    (unharmed : slType = some .trail ∨ (kind = .takeProfit ∧ totalQty parts < remaining) ∨
      (totalQty parts = remaining ∧ parts.length = 1)) :
    ExitStanding.fills parts ⟨some ⟨remaining, slType⟩, closeReason, paid⟩ =
        ExitStanding.fill (totalQty parts) fee ⟨some ⟨remaining, slType⟩, closeReason, paid⟩ ∧
      TrailsByTakeProfit kind slType parts ⟨some ⟨remaining, slType⟩, closeReason, paid⟩ := by
  rcases fits.eq_or_lt with all | less
  · rw [fills_all positive nonempty all, all, fill_all, fees]
    rcases unharmed with trailing | ⟨_, less⟩ | ⟨_, single⟩
    · rw [trailing, ite_self]
      exact ⟨rfl, fun _ _ _ _ _ => .inl rfl⟩
    · exact absurd all less.ne
    · rw [if_pos single]
      refine ⟨rfl, fun done within held found trailing => ?_⟩
      -- before the only fill the row is as it was, and after it there is none
      obtain ⟨part, rfl⟩ := List.length_eq_one_iff.mp single
      rcases List.prefix_cons_iff.mp within with rfl | ⟨later, rfl, empty⟩
      · cases Option.some.inj found
        exact .inl trailing
      · rw [List.prefix_nil.mp empty, fills_all positive nonempty all] at found
        cases found
  · rw [fills_part positive nonempty less, fill_part fee less, fees]
    refine ⟨rfl, fun _ _ _ _ _ => ?_⟩
    rcases unharmed with trailing | ⟨ofKind, _⟩ | ⟨all, _⟩
    · exact .inl trailing
    · exact .inr ofKind
    · exact absurd all less.ne

/-- On the standing: many fills against one of their total. -/
theorem fills_invariant_iff (positive : ∀ part ∈ parts, 0 < part.1) (nonempty : parts ≠ [])
    {fee : ℚ} :
    (ExitStanding.fills parts ⟨some ⟨remaining, slType⟩, closeReason, paid⟩ =
        ExitStanding.fill (totalQty parts) fee ⟨some ⟨remaining, slType⟩, closeReason, paid⟩ ∧
      TrailsByTakeProfit kind slType parts ⟨some ⟨remaining, slType⟩, closeReason, paid⟩) ↔
    (∀ part ∈ parts, remaining < part.1) ∨
      (totalQty parts ≤ remaining ∧ paidAfter paid parts = addedFee fee paid ∧
        (slType = some .trail ∨ (kind = .takeProfit ∧ totalQty parts < remaining) ∨
          (totalQty parts = remaining ∧ parts.length = 1))) := by
  constructor
  · exact fun ⟨same, trails⟩ => harmless_of_fills_invariant positive nonempty same trails
  · rintro (refused | ⟨fits, fees, unharmed⟩)
    · exact fills_invariant_of_refused positive nonempty refused fee
    · exact fills_invariant_of_fits positive nonempty fits fees unharmed

end Invariance

section Claim

variable {db : Db} {key : PositionKey} {ps : PositionStateRow} {tradeId : ℕ} {side : Side}
  {parts : List Delivery} {whole : Delivery}

theorem standing_held (held : db.positions.lookup key = some ps) (tradeId : ℕ) :
    db.standing key tradeId = ⟨some ⟨ps.remainingQty, ps.slType⟩,
      (db.standing key tradeId).closeReason, (db.standing key tradeId).feesPaid⟩ := by
  simp only [Db.standing, held, Option.map_some]

/-- The stop types along the fills, in the tables and on the standing. -/
theorem trails_iff (tables : ExitTables key tradeId side db)
    (fills : ∀ part ∈ parts, ExitFill key side db part)
    (distinct : (parts.map (·.event.exchangeExecId)).Nodup) {kind : ExitKind}
    {slType : Option SlType} :
    (∀ done, done <+: parts → ∀ row,
        (run (processed key.1) db done).positions.lookup key = some row →
          row.slType = some .trail → slType = some .trail ∨ kind = .takeProfit) ↔
      TrailsByTakeProfit kind slType (parts.map Delivery.part) (db.standing key tradeId) := by
  have follows : ∀ done, done <+: parts →
      (run (processed key.1) db done).standing key tradeId =
        (db.standing key tradeId).fills (done.map Delivery.part) := fun done within =>
    run_standing tables (fun part member => fills part (within.subset member))
      (distinct.sublist (within.sublist.map _))
  constructor
  · intro trails done within part found trailing
    obtain ⟨earlier, before, rfl⟩ := List.prefix_map_iff.mp within
    rw [← follows earlier before] at found
    obtain ⟨row, held, rfl⟩ := Option.map_eq_some_iff.mp found
    exact trails earlier before row held trailing
  · intro trails done within row held trailing
    refine trails _ (within.map _) ⟨row.remainingQty, row.slType⟩ ?_ trailing
    rw [← follows done within, standing_held held]

/-- **Splitting an order makes no difference exactly when `SplitHarmless`**: from every reachable
state with a tracked trade, for every order that exits it, delivered in any executions. -/
theorem splitInvariant_iff {history : List Step} {kind : ExitKind}
    (held : (run step {} history).positions.lookup key = some ps)
    (split : SplitOf key ps.side (run step {} history) parts whole) :
    SplitInvariant kind key ps (run step {} history) parts whole ↔
      SplitHarmless kind ps ((run step {} history).standing key ps.tradeId).feesPaid parts
        whole := by
  have tables : ExitTables key ps.tradeId ps.side (run step {} history) := by
    refine ⟨run_integrity history, fun found heldToo => ?_⟩
    obtain rfl := Option.some.inj (held.symm.trans heldToo)
    exact ⟨rfl, rfl⟩
  have positive : ∀ part ∈ parts.map Delivery.part, 0 < part.1 := by
    intro part member
    obtain ⟨delivery, listed, rfl⟩ := List.mem_map.mp member
    exact (split.fills delivery listed).delivered.positive
  have nonempty : parts.map Delivery.part ≠ [] := by
    intro empty
    have total := split.qty
    rw [List.map_eq_nil_iff.mp empty] at total
    exact split.wholeFill.delivered.positive.ne total
  have total : totalQty (parts.map Delivery.part) = whole.event.qty :=
    (totalQty_parts parts).trans split.qty
  have onStanding : SplitInvariant kind key ps (run step {} history) parts whole ↔
      ((run step {} history).standing key ps.tradeId).fills (parts.map Delivery.part) =
          ((run step {} history).standing key ps.tradeId).fill (totalQty (parts.map Delivery.part))
            whole.event.fee ∧
        TrailsByTakeProfit kind ps.slType (parts.map Delivery.part)
          ((run step {} history).standing key ps.tradeId) := by
    rw [total, ← run_standing tables split.fills split.distinct,
      ← process_standing tables split.wholeFill, ← trails_iff tables split.fills split.distinct]
    exact ⟨fun invariant => ⟨invariant.same, invariant.trails⟩,
      fun ⟨same, trails⟩ => ⟨same, trails⟩⟩
  rw [onStanding, standing_held held, fills_invariant_iff positive nonempty, total,
    List.forall_mem_map, List.length_map, paidAfter_parts]
  exact Iff.rfl

/-! ## A long of 10 -/

/-- A stop for 10 in one execution. -/
def wholeStop : Delivery :=
  { longFill "e9" "sl" .sell 10 4 with
    event := { (longFill "e9" "sl" .sell 10 4).event with fee := 1 / 10 } }

/-- The same in two. -/
def stopInTwo : List Delivery := [longFill "e2" "sl" .sell 5 4, longFill "e3" "sl" .sell 5 5]

/-- A take-profit for half of it in one execution, and in two. -/
def wholeTakeProfit : Delivery :=
  { longFill "e9" "tp" .sell 5 4 with
    event := { (longFill "e9" "tp" .sell 5 4).event with fee := 1 / 10 } }

def takeProfitInTwo : List Delivery :=
  [longFill "e2" "tp" .sell 3 4, longFill "e3" "tp" .sell 2 5]

theorem takeProfitInTwo_invariant :
    SplitInvariant .takeProfit ("bot", "BTCUSDT") longRow
      (run step {} [.placed placedLong 98 104 1000 3 true]) takeProfitInTwo wholeTakeProfit := by
  have held : (run step {} [.placed placedLong 98 104 1000 3 true]).positions.lookup
      ("bot", "BTCUSDT") = some longRow := by decide +kernel
  have split : SplitOf ("bot", "BTCUSDT") .buy
      (run step {} [.placed placedLong 98 104 1000 3 true]) takeProfitInTwo wholeTakeProfit :=
    ⟨by decide +kernel, by decide +kernel, by decide, by decide, by decide +kernel,
      by decide +kernel⟩
  exact (splitInvariant_iff held split).mpr (by decide +kernel)

/-- The stop of a long in two executions: the first is taken for a take-profit, and the trade is
closed as trailed. -/
theorem stopInTwo_closes_as_trail :
    ¬ ∀ (parts : List Delivery) (whole : Delivery),
      SplitOf ("bot", "BTCUSDT") .buy (run step {} [.placed placedLong 98 104 1000 3 true]) parts
        whole →
      SplitInvariant .stopLoss ("bot", "BTCUSDT") longRow
        (run step {} [.placed placedLong 98 104 1000 3 true]) parts whole := by
  intro invariant
  have split : SplitOf ("bot", "BTCUSDT") .buy
      (run step {} [.placed placedLong 98 104 1000 3 true]) stopInTwo wholeStop :=
    ⟨by decide +kernel, by decide +kernel, by decide, by decide, by decide +kernel,
      by decide +kernel⟩
  have same := congrArg ExitStanding.closeReason (invariant stopInTwo wholeStop split).same
  revert same
  decide +kernel

end Claim

end Scalper.Execution
