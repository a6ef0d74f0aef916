import Scalper.Paper.Adapter
import Mathlib.Logic.Relation

/-!
# What an operation enters in the books

The books are the part of an adapter's state that quantities and money are kept in: the
in-memory positions, the tables, the emitted executions and the id supply.  Every operation,
whatever it returns, changes the books by a sequence of five kinds of entry: an id drawn in
vain, stops written, a position opened, a position reduced by a take-profit, a position
closed.  `Entry.Allowed` lists what the code has checked before it makes an entry.

The transactions of the adapter are evaluated here once (`openTx_eq`, `closeTx_eq`,
`partialTpTx_eq`, `fullCloseTx_eq`); that every operation is made of these entries is the
subject of `Operations`.
-/

set_option autoImplicit false

namespace Scalper.Paper

open Scalper.Lib Scalper.Exchange

/-- The part of the exchange that fills write. -/
structure Books where
  activePositions : String → Option ActivePosition
  db : PaperDb
  executionQueue : List (ExecutionEvent Uuid)
  uuids : Uuid

/-- The books of the exchange. -/
def PaperExchange.books (s : PaperExchange) : Books :=
  { activePositions := s.activePositions, db := s.db, executionQueue := s.executionQueue,
    uuids := s.uuids }

def Books.openPosition (b : Books) (symbol : String) : Option OpenPosition :=
  (b.activePositions symbol).bind (·.position)

/-! ## Exit legs -/

/-- A fill that takes quantity out of a position. -/
structure ExitLeg where
  symbol : String
  side : Side
  qty : ℚ
  price : ℚ
  fee : ℚ
  executedAt : ℕ
  execType : ExecType

def ExecType.orderType : ExecType → OrderType
  | .openFill => .market
  | .close => .market
  | .sl => .sl
  | .tp => .tp

def ExecType.closeReason : ExecType → CloseReason
  | .openFill => .manual
  | .close => .manual
  | .sl => .sl
  | .tp => .tp

/-- The leg of a reduce-only order. -/
def OrderTicket.leg (t : OrderTicket) : ExitLeg :=
  { symbol := t.symbol, side := t.side, qty := t.qty, price := t.fillPrice, fee := t.fee,
    executedAt := t.placedAt, execType := .close }

/-- The leg of a stop-loss or take-profit fill. -/
def PendingSLTPFill.leg (cfg : Config) (fill : PendingSLTPFill) : ExitLeg :=
  { symbol := fill.symbol, side := fill.side.opposite, qty := fill.qty,
    price := fill.triggerPrice, fee := computeFee fill.qty fill.triggerPrice cfg.feeRate,
    executedAt := fill.triggeredAt, execType := fill.kind.execType }

/-- The order row of an exit. -/
def ExitLeg.order (cfg : Config) (leg : ExitLeg) (uuid : Uuid) : PaperOrder :=
  { botId := cfg.botId, correlationId := uuid, exchangeOrderId := uuid, symbol := leg.symbol,
    side := leg.side, orderType := leg.execType.orderType, qty := leg.qty, price := leg.price,
    requestedAt := leg.executedAt, idempotent := leg.execType != .close }

/-- The execution row of an exit. -/
def ExitLeg.execution (cfg : Config) (leg : ExitLeg) (uuid : Uuid) (orderId tradeId : ℕ) :
    PaperExecution :=
  { exchangeExecId := uuid, orderId := orderId, tradeId := tradeId, botId := cfg.botId,
    symbol := leg.symbol, side := leg.side, price := leg.price, qty := leg.qty, fee := leg.fee,
    execType := leg.execType, executedAt := leg.executedAt }

/-- The event an exit queues. -/
def ExitLeg.event (leg : ExitLeg) (uuid : Uuid) : ExecutionEvent Uuid :=
  { exchangeExecId := uuid, exchangeOrderId := uuid, symbol := leg.symbol, side := leg.side,
    price := leg.price, qty := leg.qty, fee := leg.fee, executedAt := leg.executedAt }

/-- The profit of the last leg: it takes the whole remaining quantity and the entry fee. -/
def ExitLeg.closingPnl (leg : ExitLeg) (position : OpenPosition) : ℚ :=
  computeRealizedPnl position.side position.entryPrice leg.price position.qty position.entryFee
    leg.fee

/-- The profit of a leg that leaves the position open. -/
def ExitLeg.partialPnl (leg : ExitLeg) (position : OpenPosition) : ℚ :=
  computeRealizedPnl position.side position.entryPrice leg.price leg.qty 0 leg.fee

/-! ## The tables after each transaction -/

section Tables

variable (cfg : Config)

/-- The tables after `_persist_open`. -/
def PaperDb.afterOpen (t : OrderTicket) (db : PaperDb) : PaperDb :=
  { orders := db.orders ++ [(t.orderRow cfg).stored cfg.columns db.nextOrderId]
    trades := db.trades ++
      [PaperTrade.stored cfg.columns
        { botId := cfg.botId, openOrderId := db.nextOrderId, symbol := t.symbol, side := t.side,
          entryPrice := t.fillPrice, qty := t.qty,
          notionalUsd := quantize 4 (t.qty * t.fillPrice), feesPaid := t.fee,
          openedAt := t.placedAt } db.nextTradeId]
    executions := db.executions ++
      [(t.executionRow cfg db.nextOrderId db.nextTradeId .openFill).stored cfg.columns]
    positions := db.positions ++
      [PaperPosition.stored cfg.columns
        { botId := cfg.botId, symbol := t.symbol, tradeId := db.nextTradeId, side := t.side,
          entryPrice := t.fillPrice, qty := t.qty, remainingQty := t.qty }]
    nextOrderId := db.nextOrderId + 1
    nextTradeId := db.nextTradeId + 1 }

/-- The order and the execution of an exit leg. -/
def PaperDb.recordLeg (leg : ExitLeg) (uuid : Uuid) (tradeId : ℕ) (db : PaperDb) : PaperDb :=
  { db with
    orders := db.orders ++ [(leg.order cfg uuid).stored cfg.columns db.nextOrderId]
    executions := db.executions ++
      [(leg.execution cfg uuid db.nextOrderId tradeId).stored cfg.columns]
    nextOrderId := db.nextOrderId + 1 }

/-- The tables after a partial exit. -/
def PaperDb.afterReduce (leg : ExitLeg) (uuid : Uuid) (position : OpenPosition) (db : PaperDb) :
    PaperDb :=
  { db.recordLeg cfg leg uuid position.tradeId with
    trades := updateWhere (·.id == position.tradeId)
      (.reduce cfg.columns (position.qty - leg.qty) (position.feesPaid + leg.fee)
        (position.realizedPnl + leg.partialPnl position)) db.trades
    positions := updateWhere (PaperPosition.at cfg.botId leg.symbol)
      (.reduce cfg.columns (position.qty - leg.qty) true) db.positions }

/-- The tables after the last exit. -/
def PaperDb.afterClose (leg : ExitLeg) (uuid : Uuid) (position : OpenPosition) (db : PaperDb) :
    PaperDb :=
  { db.recordLeg cfg leg uuid position.tradeId with
    trades := updateWhere (·.id == position.tradeId)
      (.close cfg.columns leg.price (leg.closingPnl position + position.realizedPnl)
        (position.feesPaid + leg.fee) leg.executedAt leg.execType.closeReason db.nextOrderId)
      db.trades
    positions := db.positions.filter fun row => !row.at cfg.botId leg.symbol }

/-- The tables after new stops. -/
def PaperDb.afterRestop (symbol : String) (slPrice tpPrice : Option ℚ) (db : PaperDb) :
    PaperDb :=
  { db with
    positions := updateWhere (PaperPosition.at cfg.botId symbol)
      (.restop cfg.columns slPrice tpPrice) db.positions }

end Tables

/-! ## Entries -/

/-- One change of the books. -/
inductive Entry where
  | drawn
  | restopped (symbol : String) (stops : TradingStops) (persisted : Bool)
  | opened (ticket : OrderTicket)
  | reduced (leg : ExitLeg)
  | closed (leg : ExitLeg)

section Entries

variable (cfg : Config)

/-- The position an order opens. -/
def OrderTicket.position (t : OrderTicket) (tradeId : ℕ) : OpenPosition :=
  { tradeId := tradeId, side := t.side, qty := t.qty, entryPrice := t.fillPrice,
    entryFee := t.fee, feesPaid := t.fee }

/-- The position a partial take-profit leaves. -/
def OpenPosition.reduce (position : OpenPosition) (leg : ExitLeg) : OpenPosition :=
  { position with
    qty := position.qty - leg.qty, feesPaid := position.feesPaid + leg.fee,
    realizedPnl := position.realizedPnl + leg.partialPnl position, tpHit := true }

/-- What an entry does to the books. -/
def Entry.apply (b : Books) : Entry → Books
  | .drawn => { b with uuids := b.uuids + 1 }
  | .restopped symbol stops persisted =>
      { b with
        activePositions := Function.update b.activePositions symbol (some
          { (b.activePositions symbol).getD {} with stops := stops })
        db := if persisted then b.db.afterRestop cfg symbol stops.slPrice stops.tpPrice else b.db }
  | .opened t =>
      { activePositions := Function.update b.activePositions t.symbol (some
          { position := some (t.position b.db.nextTradeId) })
        db := b.db.afterOpen cfg t
        executionQueue := b.executionQueue ++ [t.event]
        uuids := b.uuids + 1 }
  | .reduced leg =>
      match b.activePositions leg.symbol with
      | some { stops := stops, position := some position } =>
          { activePositions := Function.update b.activePositions leg.symbol (some
              { stops := { stops with slType := .trail }
                position := some (position.reduce leg) })
            db := b.db.afterReduce cfg leg b.uuids position
            executionQueue := b.executionQueue ++ [leg.event b.uuids]
            uuids := b.uuids + 1 }
      | _ => b
  | .closed leg =>
      match b.activePositions leg.symbol with
      | some { stops := _, position := some position } =>
          { activePositions := Function.update b.activePositions leg.symbol none
            db := b.db.afterClose cfg leg b.uuids position
            executionQueue := b.executionQueue ++ [leg.event b.uuids]
            uuids := b.uuids + 1 }
      | _ => b

/-- What the code has checked when it makes an entry. -/
def Entry.Allowed (b : Books) : Entry → Prop
  | .drawn => True
  | .restopped _ _ _ => True
  | .opened t =>
      t.uuid = b.uuids ∧ b.openPosition t.symbol = none ∧
        b.db.positions.any (PaperPosition.at cfg.botId t.symbol) = false
  | .reduced leg =>
      leg.execType = .tp ∧ ∃ stops position,
        b.activePositions leg.symbol = some { stops := stops, position := some position } ∧
        b.db.trades.any (·.id == position.tradeId) = true
  | .closed leg =>
      leg.execType ≠ .openFill ∧ ∃ stops position,
        b.activePositions leg.symbol = some { stops := stops, position := some position } ∧
        b.db.trades.any (·.id == position.tradeId) = true ∧
        (leg.execType ≠ .close → leg.qty = position.qty)

/-- Books reached by allowed entries, each meeting `ok` where it is made. -/
def Reaches (ok : Books → Entry → Prop) : Books → Books → Prop :=
  Relation.ReflTransGen fun b b' => ∃ e : Entry, e.Allowed cfg b ∧ ok b e ∧ b' = e.apply cfg b

end Entries

/-- What every such entry preserves, the books reached keep. -/
theorem Reaches.invariant {cfg : Config} {ok : Books → Entry → Prop} {b b' : Books}
    (reached : Reaches cfg ok b b') (invariant : Books → Prop)
    (preserved : ∀ b e, invariant b → Entry.Allowed cfg b e → ok b e →
      invariant (e.apply cfg b))
    (holds : invariant b) : invariant b' := by
  induction reached with
  | refl => exact holds
  | tail _ entered ih =>
      obtain ⟨e, allowed, met, rfl⟩ := entered
      exact preserved _ e ih allowed met

theorem Reaches.single {cfg : Config} {ok : Books → Entry → Prop} {b : Books} (e : Entry)
    (allowed : e.Allowed cfg b) (met : ok b e) : Reaches cfg ok b (e.apply cfg b) :=
  Relation.ReflTransGen.single ⟨e, allowed, met, rfl⟩

/-! ## Transactions -/

section Transactions

variable {cfg : Config}

/-- The next transaction is not going to fail. -/
def PaperExchange.commits (s : PaperExchange) : Bool := s.dbOutcomes.head? != some .fails

/-- A transaction whose body only checks one key, evaluated. -/
theorem transaction_eq {α : Type} {body : Tx α} {s : PaperExchange} {accepted : Bool}
    {result : α} {after : PaperDb}
    (spec : body s.db = if accepted then .ok (result, after) else .error .databaseError) :
    transaction body s =
      if accepted && s.commits then
        (.ok result, { s with db := after, dbOutcomes := s.dbOutcomes.tail })
      else (.error .databaseError, { s with dbOutcomes := s.dbOutcomes.tail }) := by
  unfold transaction PaperExchange.commits
  cases supply : s.dbOutcomes with
  | nil => cases accepted <;> simp [spec]
  | cons outcome rest =>
      cases outcome with
      | fails => simp
      | commits => cases accepted <;> simp [spec]

variable (cfg) in
theorem openTx_eq (t : OrderTicket) (db : PaperDb) :
    openTx cfg t db =
      if !db.positions.any (PaperPosition.at cfg.botId t.symbol) then
        .ok (db.nextTradeId, db.afterOpen cfg t)
      else .error .databaseError := by
  have referenced : (db.trades ++ [PaperTrade.stored cfg.columns
      { botId := cfg.botId, openOrderId := db.nextOrderId, symbol := t.symbol, side := t.side,
        entryPrice := t.fillPrice, qty := t.qty,
        notionalUsd := quantize 4 (t.qty * t.fillPrice), feesPaid := t.fee,
        openedAt := t.placedAt } db.nextTradeId]).any (·.id == db.nextTradeId) = true := by
    simp [PaperTrade.stored]
  cases listed : db.positions.any (PaperPosition.at cfg.botId t.symbol) <;>
    simp only [openTx, insertPaperOrder, insertPaperTrade, insertPaperExecution,
      insertPaperPosition, bind, StateT.bind, Except.bind, OrderTicket.executionRow, referenced,
      listed, Bool.not_true, Bool.not_false, if_true, Bool.false_eq_true, if_false]
  rfl

variable (cfg) in
theorem closeTx_eq (t : OrderTicket) (position : OpenPosition) (db : PaperDb) :
    closeTx cfg t position.tradeId (t.leg.closingPnl position + position.realizedPnl)
        (position.feesPaid + t.fee) db =
      if db.trades.any (·.id == position.tradeId) then
        .ok ((), db.afterClose cfg t.leg t.uuid position)
      else .error .databaseError := by
  cases known : db.trades.any (·.id == position.tradeId) <;>
    simp only [closeTx, insertPaperOrder, insertPaperExecution, closePaperTrade,
      deletePaperPosition, bind, StateT.bind, Except.bind, OrderTicket.executionRow, known,
      if_true, Bool.false_eq_true, if_false]
  rfl

variable (cfg) in
/-- The rows of a fill are those of its leg when the fill was made for the position's side. -/
theorem partialTpTx_eq (fill : PendingSLTPFill) (position : OpenPosition) (uuid : Uuid)
    (db : PaperDb) (sameSide : fill.side = position.side) (kind : fill.kind = .tp) :
    partialTpTx cfg fill (buildDrainContext cfg fill position uuid)
        (position.qty - (fill.leg cfg).qty) (position.feesPaid + (fill.leg cfg).fee)
        (position.realizedPnl + (fill.leg cfg).partialPnl position) db =
      if db.trades.any (·.id == position.tradeId) then
        .ok ((), db.afterReduce cfg (fill.leg cfg) uuid position)
      else .error .databaseError := by
  obtain ⟨symbol, side, qty, triggerPrice, triggeredAt, _, tpslMode⟩ := fill
  subst sameSide kind
  cases known : db.trades.any (·.id == position.tradeId) <;>
    simp only [partialTpTx, insertSyntheticCloseOrder, insertCloseExecution, buildDrainContext,
      insertPaperOrder, insertPaperExecution, updatePaperTradePartial,
      updatePaperPositionPartial, bind, StateT.bind, Except.bind, known, if_true,
      Bool.false_eq_true, if_false]
  rfl

variable (cfg) in
theorem fullCloseTx_eq (fill : PendingSLTPFill) (position : OpenPosition) (uuid : Uuid)
    (db : PaperDb) (sameSide : fill.side = position.side) :
    fullCloseTx cfg fill (buildDrainContext cfg fill position uuid)
        ((fill.leg cfg).closingPnl position + position.realizedPnl)
        (position.feesPaid + (fill.leg cfg).fee) db =
      if db.trades.any (·.id == position.tradeId) then
        .ok ((), db.afterClose cfg (fill.leg cfg) uuid position)
      else .error .databaseError := by
  obtain ⟨symbol, side, qty, triggerPrice, triggeredAt, kind, tpslMode⟩ := fill
  subst sameSide
  cases kind <;> cases known : db.trades.any (·.id == position.tradeId) <;>
    simp only [fullCloseTx, insertSyntheticCloseOrder, insertCloseExecution, buildDrainContext,
      insertPaperOrder, insertPaperExecution, closePaperTrade, deletePaperPosition, bind,
      StateT.bind, Except.bind, known, if_true, Bool.false_eq_true, if_false] <;>
    rfl

end Transactions

end Scalper.Paper
