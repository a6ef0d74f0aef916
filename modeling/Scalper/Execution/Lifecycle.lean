import Scalper.Exchange.Quantize
import Scalper.Execution.Watchdog

/-!
# The position monitor

`services/execution/app/lifecycle.py`: the task that follows one trade.  Each tick reads the
latest price and the position row, writes the metrics, compares the stop on the exchange with the
row's, and may move the stop to break-even or trail it: on the exchange first, in the row after.
Every statement and every call is an await, so other tasks run between any two of them; a monitor
is therefore a place in its tick (`TickPhase`) with what it has read so far, and a move takes it
one await further.  A statement that fails, and a call that raises outside the two `try` blocks,
ends the task.

`monitorStep_cases` says once what a move can do.  What it writes to the position row
(`Db.monitored`) goes to the row of its key, whichever trade the row is of.
-/

set_option autoImplicit false

namespace Scalper.Execution

open Scalper.Lib Scalper.Exchange

/-! ## Prices -/

/-- `_check_be_trigger`. -/
def checkBeTrigger (side : Side) (currentPrice entryPrice beTrigger : ℚ) : Bool :=
  match side with
  | .buy => decide (beTrigger ≤ (currentPrice - entryPrice) / entryPrice)
  | .sell => decide (beTrigger ≤ (entryPrice - currentPrice) / entryPrice)

/-- `_compute_be_sl_price`. -/
def computeBeSlPrice : Side → ℚ → ℚ → ℚ
  | .buy, entryPrice, beSlLevel => entryPrice * (1 + beSlLevel)
  | .sell, entryPrice, beSlLevel => entryPrice * (1 - beSlLevel)

/-- `_compute_trail_sl_price`. -/
def computeTrailSlPrice : Side → ℚ → ℚ → ℚ
  | .buy, bestPrice, trailPct => bestPrice * (1 - trailPct)
  | .sell, bestPrice, trailPct => bestPrice * (1 + trailPct)

/-- `_update_best_price`. -/
def updateBestPrice (side : Side) (currentPrice : ℚ) : Option ℚ → ℚ
  | none => currentPrice
  | some best =>
      match side with
      | .buy => if best < currentPrice then currentPrice else best
      | .sell => if currentPrice < best then currentPrice else best

/-- `_update_mfe_mae`. -/
def updateMfeMae (side : Side) (currentPrice : ℚ) (psMfe psMae : Option ℚ) : ℚ × ℚ :=
  let mfe := psMfe.getD currentPrice
  let mae := psMae.getD currentPrice
  match side with
  | .buy => (if mfe < currentPrice then currentPrice else mfe,
      if currentPrice < mae then currentPrice else mae)
  | .sell => (if currentPrice < mfe then currentPrice else mfe,
      if mae < currentPrice then currentPrice else mae)

/-! ## A monitor and what it talks to -/

/-- The arguments of `run_position_monitor_for_trade`, and the tick size its adapter reports. -/
structure Monitor where
  key : PositionKey
  tradeId : ℕ
  side : Side
  entryPrice : ℚ
  qty : ℚ
  tickSize : ℚ
  deriving DecidableEq, Repr

/-- What a tick has read: the position row and the price. -/
structure Reading where
  ps : PositionStateRow
  price : ℚ
  deriving DecidableEq, Repr

/-- `new_best` of the tick. -/
def Reading.newBest (r : Reading) (side : Side) : ℚ := updateBestPrice side r.price r.ps.bestPrice

/-- A stop a tick is about to set, with the best price it was computed from. -/
structure NewStop where
  slPrice : ℚ
  slType : SlType
  best : ℚ
  deriving DecidableEq, Repr

/-- Where a monitor is in its loop; the last two are its ends. -/
inductive TickPhase where
  | asleep
  | ticking (r : Reading)
  | detecting (r : Reading)
  | deciding (r : Reading)
  | setting (stop : NewStop)
  | persisting (stop : NewStop)
  | marking (slType : SlType)
  | returned
  | raised
  deriving DecidableEq, Repr

/-- The stop of a position on the exchange: the one in force, the last one of ours that was
applied, and the best price that one trails, if it trails. -/
structure ExchangeStop where
  inForce : Option ℚ := none
  ours : Option ℚ := none
  trails : Option ℚ := none
  deriving DecidableEq, Repr

/-- What `get_positions` answers: it raises, there is no position of the symbol, or the position
with its stop. -/
inductive PositionsAnswer where
  | raises
  | flat
  | held
  deriving DecidableEq, Repr

/-- How `set_trading_stop` ends: it returns, it raises and was not applied, or it raises although
the exchange applied it. -/
inductive StopOutcome where
  | returns
  | raises
  | raisesApplied
  deriving DecidableEq, Repr

/-- One await of a monitor, with how it ends. -/
inductive MonitorMove where
  | reads (price : ℚ)
  | readFails
  | ticks (now : ℕ) (commits : Bool)
  | detects (answer : PositionsAnswer) (now : ℕ) (commits : Bool)
  | decides (instrumentInfo : Bool)
  | sets (outcome : StopOutcome)
  | persists (now : ℕ) (commits : Bool)
  | marks (commits : Bool)
  deriving DecidableEq, Repr

/-- A monitor's place, the tables and the exchange's stop. -/
structure Desk where
  phase : TickPhase := .asleep
  db : Db := {}
  stop : ExchangeStop := {}

section Semantics

variable (m : Monitor)

/-- The metrics a tick writes. -/
def Reading.write (r : Reading) (now : ℕ) : MonitorWrite :=
  let (mfe, mae) := updateMfeMae m.side r.price r.ps.mfePrice r.ps.maePrice
  .ticked (r.newBest m.side) mfe mae ((r.price - m.entryPrice) * m.qty * m.side.sign) now

/-- The stop of a position as the adapter decodes it: a stop that is not positive is none. -/
def ExchangeStop.decoded (stop : ExchangeStop) : Option ℚ := stop.inForce.filter (0 < ·)

/-- The event of `_detect_sl_overwrite`, if it is due. -/
def detectSlOverwrite (r : Reading) (answer : PositionsAnswer) (stop : ExchangeStop) :
    Option SlOverwriteDetected :=
  match r.ps.slPrice, answer, stop.decoded with
  | some expected, .held, some observed =>
      if observed = expected then none
      else some
        { botId := m.key.1, symbol := m.key.2, tradeId := m.tradeId, slType := r.ps.slType,
          expectedSlPrice := expected, observedSlPrice := observed }
  | _, _, _ => none

def SlOverwriteDetected.event (payload : SlOverwriteDetected) (now : ℕ) : TradingEvent :=
  ⟨now, payload.botId,
    "sl-overwrite-" ++ payload.botId ++ "-" ++ payload.symbol ++ "-" ++ toString payload.tradeId,
    .slOverwriteDetected payload⟩

/-- The break-even and trail branches: the stop to set, if any; `none` where the task raises. -/
def chooseStop (r : Reading) (params : FsmParams) (instrumentInfo : Bool) :
    Option (Option NewStop) :=
  let best := r.newBest m.side
  let quantized (price : ℚ) (slType : SlType) : Option (Option NewStop) :=
    match instrumentInfo, quantizePrice price m.side m.tickSize with
    | true, .ok slPrice => some (some ⟨slPrice, slType, best⟩)
    | _, _ => none
  if r.ps.slType = some .protective then
    if m.entryPrice = 0 then none
    else if checkBeTrigger m.side r.price m.entryPrice params.beTrigger then
      quantized (computeBeSlPrice m.side m.entryPrice params.beSlLevel) .be
    else some none
  else if r.ps.slType = some .trail ∧ r.ps.bestPrice.isSome ∧ some best ≠ r.ps.bestPrice then
    quantized (computeTrailSlPrice m.side best params.trailPct) .trail
  else some none

/-- The exchange applies a stop of ours. -/
def ExchangeStop.apply (new : NewStop) (_ : ExchangeStop) : ExchangeStop :=
  { inForce := some new.slPrice, ours := some new.slPrice,
    trails := if new.slType = .trail then some new.best else none }

/-- The `lifecycle_state` a moved stop is marked with. -/
def lifecycleStateOf : SlType → TradeLifecycleState
  | .trail => .trailingActive
  | .protective | .be => .breakevenSet

/-- One await of `run_position_monitor_for_trade`; a move that is not the monitor's next one
changes nothing. -/
def monitorStep (move : MonitorMove) (d : Desk) : Desk :=
  match d.phase, move with
  | .asleep, .reads price =>
      match d.db.selectPositionState m.key with
      | none => { d with phase := .returned }
      | some ps => { d with phase := .ticking ⟨ps, price⟩ }
  | .asleep, .readFails => { d with phase := .raised }
  | .ticking r, .ticks now commits =>
      if commits then
        { d with
          phase := .detecting r, db := (transaction true ((r.write m now).tx m.key) d.db).2 }
      else { d with phase := .raised }
  | .detecting r, .detects answer now commits =>
      match detectSlOverwrite m r answer d.stop with
      | none => { d with phase := .deciding r }
      | some payload =>
          if commits then
            { d with
              phase := .deciding r
              db := (transaction true (insertTradingEvent (payload.event now)) d.db).2 }
          else { d with phase := .raised }
  | .deciding r, .decides instrumentInfo =>
      match d.db.selectTradeFsmParams m.tradeId with
      | none => { d with phase := .asleep }
      | some none => { d with phase := .raised }
      | some (some params) =>
          match chooseStop m r params instrumentInfo with
          | none => { d with phase := .raised }
          | some none => { d with phase := .asleep }
          | some (some new) => { d with phase := .setting new }
  | .setting new, .sets outcome =>
      match outcome with
      | .returns => { d with phase := .persisting new, stop := d.stop.apply new }
      | .raises => { d with phase := .asleep }
      | .raisesApplied => { d with phase := .asleep, stop := d.stop.apply new }
  | .persisting new, .persists now commits =>
      if commits then
        { d with
          phase := .marking new.slType
          db := (transaction true
            ((MonitorWrite.slMoved new.slPrice new.slType now).tx m.key) d.db).2 }
      else { d with phase := .raised }
  | .marking slType, .marks commits =>
      if commits then
        { d with
          phase := .asleep
          db := (transaction true
            (updateTradeLifecycleState m.tradeId (lifecycleStateOf slType)) d.db).2 }
      else { d with phase := .raised }
  | _, _ => d

end Semantics

/-! ## What a move can do -/

/-- The tables after a monitor's write to the row of a key. -/
def Db.monitored (db : Db) (key : PositionKey) (write : MonitorWrite) : Db :=
  match db.positions.lookup key with
  | some row => { db with positions := db.positions.insert key (write.set row) }
  | none => db

/-- The tables with one more event. -/
def Db.announced (db : Db) (event : TradingEvent) : Db :=
  { db with tradingEvents := db.tradingEvents ++ [event] }

/-- The tables with a trade's `lifecycle_state` set. -/
def Db.marked (db : Db) (tradeId : ℕ) (state : TradeLifecycleState) : Db :=
  { db with trades := updateWhere (·.id == tradeId) (.enter state) db.trades }

/-- Everything a move of a monitor can do. -/
inductive Moved (m : Monitor) (move : MonitorMove) (d : Desk) : Desk → Prop where
  | nothing : Moved m move d d
  | exited (asleep : d.phase = .asleep) (gone : d.db.positions.lookup m.key = none) :
      Moved m move d { d with phase := .returned }
  | read {ps : PositionStateRow} (price : ℚ) (asleep : d.phase = .asleep)
      (held : d.db.positions.lookup m.key = some ps) (call : move = .reads price) :
      Moved m move d { d with phase := .ticking ⟨ps, price⟩ }
  | raised : Moved m move d { d with phase := .raised }
  | ticked {r : Reading} (now : ℕ) (here : d.phase = .ticking r) :
      Moved m move d { d with phase := .detecting r, db := d.db.monitored m.key (r.write m now) }
  | undetected {r : Reading} (here : d.phase = .detecting r) (answer : PositionsAnswer)
      (quiet : detectSlOverwrite m r answer d.stop = none)
      (call : ∃ now commits, move = .detects answer now commits) :
      Moved m move d { d with phase := .deciding r }
  | detected {r : Reading} {payload : SlOverwriteDetected} (now : ℕ)
      (here : d.phase = .detecting r) (answer : PositionsAnswer)
      (due : detectSlOverwrite m r answer d.stop = some payload)
      (call : move = .detects answer now true) :
      Moved m move d { d with phase := .deciding r, db := d.db.announced (payload.event now) }
  | rested {r : Reading} (here : d.phase = .deciding r) : Moved m move d { d with phase := .asleep }
  | chose {r : Reading} {params : FsmParams} {new : NewStop} {instrumentInfo : Bool}
      (here : d.phase = .deciding r)
      (known : d.db.selectTradeFsmParams m.tradeId = some (some params))
      (chosen : chooseStop m r params instrumentInfo = some (some new)) :
      Moved m move d { d with phase := .setting new }
  | set {new : NewStop} (here : d.phase = .setting new) (call : move = .sets .returns) :
      Moved m move d { d with phase := .persisting new, stop := d.stop.apply new }
  | gaveUp {new : NewStop} (here : d.phase = .setting new) :
      Moved m move d { d with phase := .asleep }
  | lost {new : NewStop} (here : d.phase = .setting new) (call : move = .sets .raisesApplied) :
      Moved m move d { d with phase := .asleep, stop := d.stop.apply new }
  | persisted {new : NewStop} (now : ℕ) (here : d.phase = .persisting new) :
      Moved m move d { d with
        phase := .marking new.slType
        db := d.db.monitored m.key (.slMoved new.slPrice new.slType now) }
  | marked {slType : SlType} (here : d.phase = .marking slType) :
      Moved m move d { d with phase := .asleep, db := d.db.marked m.tradeId (lifecycleStateOf slType) }

section Moves

variable {m : Monitor} {d : Desk}

theorem transaction_monitored (key : PositionKey) (write : MonitorWrite) (db : Db) :
    (transaction true (write.tx key) db).2 = db.monitored key write :=
  monitorWrite_eq key write db

theorem monitorStep_cases (m : Monitor) (move : MonitorMove) (d : Desk) :
    Moved m move d (monitorStep m move d) := by
  unfold monitorStep
  split
  · rename_i price asleep
    cases held : d.db.selectPositionState m.key with
    | none => exact .exited asleep held
    | some ps => exact .read price asleep held rfl
  · exact .raised
  · rename_i r now commits here
    cases commits with
    | false => exact .raised
    | true => simpa only [if_true, transaction_monitored] using Moved.ticked now here
  · rename_i r answer now commits here
    cases due : detectSlOverwrite m r answer d.stop with
    | none => exact .undetected here answer due ⟨now, commits, rfl⟩
    | some payload =>
        cases commits with
        | false => exact .raised
        | true => exact .detected now here answer due rfl
  · rename_i r instrumentInfo here
    cases known : d.db.selectTradeFsmParams m.tradeId with
    | none => exact .rested here
    | some stored =>
        cases stored with
        | none => exact .raised
        | some params =>
            cases chosen : chooseStop m r params instrumentInfo with
            | none => simpa only [chosen] using Moved.raised
            | some choice =>
                cases choice with
                | none => simpa only [chosen] using Moved.rested here
                | some new => simpa only [chosen] using Moved.chose here known chosen
  · rename_i new outcome here
    cases outcome with
    | returns => exact .set here rfl
    | raises => exact .gaveUp here
    | raisesApplied => exact .lost here rfl
  · rename_i new now commits here
    cases commits with
    | false => exact .raised
    | true => simpa only [if_true, transaction_monitored] using Moved.persisted now here
  · rename_i slType commits here
    cases commits with
    | false => exact .raised
    | true => exact .marked here
  · exact .nothing

/-- Where a stop comes from: break-even from a protective one, a trailing one from a better best
price. -/
theorem chooseStop_some {r : Reading} {params : FsmParams} {instrumentInfo : Bool} {new : NewStop}
    (chosen : chooseStop m r params instrumentInfo = some (some new)) :
    new.best = r.newBest m.side ∧
      (new.slType = .be ∧ r.ps.slType = some .protective ∧ m.entryPrice ≠ 0 ∧
          checkBeTrigger m.side r.price m.entryPrice params.beTrigger = true ∧
          quantizePrice (computeBeSlPrice m.side m.entryPrice params.beSlLevel) m.side m.tickSize =
            .ok new.slPrice ∨
        new.slType = .trail ∧ r.ps.slType = some .trail ∧
          (∃ best, r.ps.bestPrice = some best ∧ r.newBest m.side ≠ best) ∧
          quantizePrice (computeTrailSlPrice m.side (r.newBest m.side) params.trailPct) m.side
            m.tickSize = .ok new.slPrice) := by
  unfold chooseStop at chosen
  dsimp only at chosen
  split_ifs at chosen with protective free triggered trails
  · split at chosen
    · rename_i slPrice quantized
      obtain rfl := Option.some.inj (Option.some.inj chosen)
      exact ⟨rfl, .inl ⟨rfl, protective, free, triggered, quantized⟩⟩
    · cases chosen
  · cases chosen
  · split at chosen
    · rename_i slPrice quantized
      obtain rfl := Option.some.inj (Option.some.inj chosen)
      obtain ⟨trail, tracked, moved⟩ := trails
      obtain ⟨best, found⟩ := Option.isSome_iff_exists.mp tracked
      exact ⟨rfl, .inr ⟨rfl, trail, ⟨best, found, fun same => moved (same ▸ found.symm)⟩,
        quantized⟩⟩
    · cases chosen
  · cases chosen

end Moves

end Scalper.Execution
