import Scalper.Execution.Trailing
import Scalper.Execution.Tick
import Scalper.Paper.TradingStop
import Scalper.Shadow.Noninterference

/-!
# The monitor and the shadow variant of one trade

The stop of a trade is moved by two hand-written copies of one machine: the position monitor
(`services/execution/app/lifecycle.py`) and the candle handler of a shadow variant
(`services/execution/app/shadow_worker.py`), which says that it mirrors the monitor.  A `Twin` is
a trade's monitor and a variant with the trade's own parameters.  Both get the same feed: a price
is one tick of the monitor and one candle of the handler whose four prices it is, and a partial
take-profit is recorded by the dispatcher and drained by the variant's exchange.

The copies differ in their guards.  The handler moves to break-even only for a positive
`be_trigger`, the monitor for any.  The handler trails only for a positive `trail_pct` and only
where the new stop is tighter than the one in force, at every candle; the monitor trails whenever
a tick brings a new best price, and only then.

`run_movesAlike_iff` says which runs the copies agree on: those in which these differences never show
(`Together`).  `takeProfit_apart` is a long whose price falls after its take-profit: the variant
trails at once, and the monitor waits for a price it has already seen.
-/

set_option autoImplicit false

namespace Scalper.Shadow

open Scalper.Lib Scalper.Exchange Scalper.Paper
open Scalper.Execution (Monitor MonitorMove Desk Reading NewStop PositionStateRow FsmParams Placed
  Delivery Db monitorStep deskStep chooseStop checkBeTrigger computeBeSlPrice computeTrailSlPrice
  updateBestPrice computeSlPrice deriveExecType process tickMoves run_tickMoves run_raised
  run_params updateBestPrice_cases process_ok_iff afterFill_slType step_fill_cases step_change
  SameParams selectTradeFsmParams_afterPlacement run_integrity placedLong longFill)

/-! ## One feed for both -/

/-- A desk and a shadow task on one feed. -/
structure Twin where
  desk : Desk
  task : VariantTask

/-- What both of them receive. -/
inductive Feed where
  | price (price : ℚ) (now : ℕ)
  | partialTp (delivery : Delivery) (fill : PendingSLTPFill)

/-- The closed candle of a minute without movement. -/
def flatCandle (symbol : String) (price : ℚ) (now : ℕ) : Candle where
  symbol := symbol
  bucketStart := now
  openPrice := price
  high := price
  low := price
  close := price
  volume := 0
  isClosed := true

def twinStep (settings : Settings) (m : Monitor) : Feed → Twin → Twin
  | .price price now, w =>
      { desk := run (monitorStep m) w.desk (tickMoves price now)
        task := (candleHandler settings (flatCandle w.task.variant.symbol price now) w.task).2 }
  | .partialTp delivery fill, w =>
      { desk := deskStep m (.fills m.key.1 delivery) w.desk
        task := { w.task with
          pe := (drainPartialTp (settings.config w.task.variant) fill w.task.pe).2 } }

/-- The variant with the parameters of its parent. -/
def ownVariant (p : Placed) (tradeId : ℕ) : Variant where
  parentTradeId := tradeId
  parentKind := .live
  botId := p.botId
  symbol := p.request.symbol
  side := p.request.side
  entryPrice := p.fillPrice
  qty := p.qty
  overrides :=
    { beTrigger := some p.request.beTrigger, beSlLevel := some p.request.beSlLevel,
      trailPct := some p.request.trailPct, slPct := some p.request.slPct,
      tpPct := some p.request.tpPct, tpQtyPct := some p.request.tpQtyPct }

/-- The twin a placement starts: the stop it set, and the variant that was started with it. -/
def Twin.start (settings : Settings) (p : Placed) (db : Db) (tpPrice notionalUsd : ℚ)
    (slSetAt : ℕ) (moment : Moment) (paperDb : PaperDb) : Twin where
  desk := p.desk db (computeSlPrice p.request.side p.fillPrice p.request.slPct) tpPrice
    notionalUsd slSetAt
  task := ((ownVariant p db.nextTradeId).task moment paperDb).start settings

/-! ## What the two hold -/

section Readings

variable (m : Monitor) (price : ℚ) (w : Twin)

/-- The monitor's `sl_type` and `best_price`. -/
def Twin.liveType : Option SlType := (w.desk.db.selectPositionState m.key).bind (·.slType)

def Twin.liveBest : Option ℚ := (w.desk.db.selectPositionState m.key).bind (·.bestPrice)

/-- The stop on the exchange. -/
def Twin.liveStop : Option ℚ := w.desk.stop.inForce

/-- The stops of the variant's position. -/
def Twin.shadowStops : TradingStops := w.task.pe.stopsOf w.task.variant.symbol

/-- The trailing stop of each best price, with the price that comes. -/
def Twin.liveTrail : ℚ :=
  computeTrailSlPrice m.side (updateBestPrice m.side price (w.liveBest m))
    w.task.variant.params.trailPct

def Twin.shadowTrail : ℚ :=
  computeTrailSlPrice m.side (w.task.observe (flatCandle w.task.variant.symbol price 0)).bestPrice
    w.task.variant.params.trailPct

/-- The stop is tighter than the one in force, if there is one. -/
def tighter (side : Side) (stop : ℚ) (inForce : Option ℚ) : Bool :=
  inForce.any (tightened side stop ·)

/-- The trailing stops that are tighter than the stop in force. -/
def Twin.tighterTrails : List ℚ :=
  (if tighter m.side (w.liveTrail m price) w.liveStop then [w.liveTrail m price] else []) ++
    if tighter m.side (w.shadowTrail m price) w.shadowStops.slPrice then [w.shadowTrail m price]
    else []

/-- Both are in the trailing phase. -/
def Twin.trails : Prop := w.liveType m = some .trail ∧ w.shadowStops.slType = .trail

/-- The price is a new best of the monitor's, after its first. -/
def Twin.improves : Prop :=
  w.desk.phase = .asleep ∧ (w.liveBest m).isSome ∧
    some (updateBestPrice m.side price (w.liveBest m)) ≠ w.liveBest m

instance Twin.decidableTrails : Decidable (w.trails m) := inferInstanceAs (Decidable (_ ∧ _))

instance Twin.decidableImproves : Decidable (w.improves m price) :=
  inferInstanceAs (Decidable (_ ∧ _))

end Readings

/-- A stop moves to break-even. -/
def BreaksEven (before after : Option SlType) : Prop :=
  before = some .protective ∧ after = some .be

instance BreaksEven.decidable (before after : Option SlType) :
    Decidable (BreaksEven before after) :=
  inferInstanceAs (Decidable (_ ∧ _))

/-! ## Agreement -/

section Agreement

variable (settings : Settings) (m : Monitor)

/-- Both move to break-even or none does, with the same stop; and in the trailing phase a trailing
stop that is tighter than the one in force is then the stop of both. -/
def MovesAlike (w : Twin) : Feed → Prop
  | .price price now =>
      let after := twinStep settings m (.price price now) w
      (BreaksEven (w.liveType m) (after.liveType m) ↔
          BreaksEven (some w.shadowStops.slType) (some after.shadowStops.slType)) ∧
        (BreaksEven (w.liveType m) (after.liveType m) →
          after.liveStop = after.shadowStops.slPrice) ∧
        (w.trails m → ∀ stop ∈ w.tighterTrails m price,
          after.liveStop = some stop ∧ after.shadowStops.slPrice = some stop)
  | .partialTp _ _ => True

/-- A price on which the guards of the two do not differ. -/
structure Together (w : Twin) (price : ℚ) : Prop where
  /-- A trigger that is reached is positive. -/
  breakeven : w.liveType m = some .protective → m.entryPrice ≠ 0 →
    checkBeTrigger m.side price m.entryPrice w.task.variant.params.beTrigger = true →
    0 < w.task.variant.params.beTrigger
  /-- The monitor's tighter stop comes with a new best price, and the variant gets it or has it. -/
  live : w.trails m → tighter m.side (w.liveTrail m price) w.liveStop = true →
    w.improves m price ∧
      (tighter m.side (w.shadowTrail m price) w.shadowStops.slPrice = true ∨
        w.shadowStops.slPrice = some (w.liveTrail m price))
  /-- The variant's tighter stop comes with a positive distance, and the monitor gets it or has
  it. -/
  shadow : w.trails m →
    tighter m.side (w.shadowTrail m price) w.shadowStops.slPrice = true →
    0 < w.task.variant.params.trailPct ∧
      (w.improves m price ∧ w.liveTrail m price = w.shadowTrail m price ∨
        ¬ w.improves m price ∧ w.liveStop = some (w.shadowTrail m price))

/-- The feed has no price on which they differ. -/
def StaysTogether (w : Twin) : Feed → Prop
  | .price price _ => Together m w price
  | .partialTp _ _ => True

/-- The stop is on the tick. -/
def OnTick (stop : ℚ) : Prop := quantizePrice stop m.side m.tickSize = .ok stop

/-- Prices are exact: the column of the best price keeps them, and the stops computed from them
are on the tick.  A partial take-profit is one on both sides. -/
def Presented (w : Twin) : Feed → Prop
  | .price price _ =>
      OnGrid 12 price ∧
        OnTick m (computeTrailSlPrice m.side price w.task.variant.params.trailPct) ∧
        OnTick m (computeBeSlPrice m.side m.entryPrice w.task.variant.params.beSlLevel)
  | .partialTp delivery fill =>
      delivery.event.symbol = m.key.2 ∧
        (deriveExecType m.key.1 delivery.event
          (w.desk.db.selectOrderIdByExchangeId delivery.event.exchangeOrderId)
          w.desk.db).execType = .partialTp ∧
        (process m.key.1 delivery w.desk.db).1 = .ok none ∧
        fill.symbol = w.task.variant.symbol ∧
        (drainPartialTp (settings.config w.task.variant) fill w.task.pe).1 = .ok ()

instance MovesAlike.decidable (w : Twin) : ∀ feed, Decidable (MovesAlike settings m w feed)
  | .price _ _ => inferInstanceAs (Decidable (_ ∧ _ ∧ _))
  | .partialTp _ _ => isTrue trivial

instance Together.decidable (w : Twin) (price : ℚ) : Decidable (Together m w price) :=
  decidable_of_iff (_ ∧ _ ∧ _) ⟨fun t => ⟨t.1, t.2.1, t.2.2⟩, fun t => ⟨t.1, t.2, t.3⟩⟩

instance StaysTogether.decidable (w : Twin) : ∀ feed, Decidable (StaysTogether m w feed)
  | .price price _ => inferInstanceAs (Decidable (Together m w price))
  | .partialTp _ _ => isTrue trivial

instance OnTick.decidable (stop : ℚ) : Decidable (OnTick m stop) :=
  inferInstanceAs (Decidable (_ = _))

instance Presented.decidable (w : Twin) : ∀ feed, Decidable (Presented settings m w feed)
  | .price _ _ => inferInstanceAs (Decidable (_ ∧ _ ∧ _))
  | .partialTp _ _ => inferInstanceAs (Decidable (_ ∧ _ ∧ _ ∧ _ ∧ _))

end Agreement

/-! ## The step of each -/

section Steps

variable {settings : Settings} {m : Monitor} {w : Twin} {price : ℚ} {now : ℕ}

/-- A monitor and a variant of one trade, each with the trade's parameters. -/
structure Paired (m : Monitor) (w : Twin) : Prop where
  side : w.task.variant.side = m.side
  entryPrice : w.task.variant.entryPrice = m.entryPrice
  drawn : m.tradeId < w.desk.db.nextTradeId
  known : w.desk.db.selectTradeFsmParams m.tradeId =
    some (some ⟨w.task.variant.params.beTrigger, w.task.variant.params.beSlLevel,
      w.task.variant.params.trailPct⟩)
  running : w.desk.phase = .asleep ∨ w.desk.phase = .raised ∧ m.entryPrice = 0
  row : ∃ row, w.desk.db.positions.lookup m.key = some row
  best : ∀ best, w.liveBest m = some best →
    OnGrid 12 best ∧ OnTick m (computeTrailSlPrice m.side best w.task.variant.params.trailPct)
  active : ∃ active, w.task.pe.activePositions w.task.variant.symbol = some active
  type : w.liveType m = some w.shadowStops.slType

/-- The best price of the monitor after a price is exact. -/
theorem Paired.newBest (paired : Paired m w)
    (grid : OnGrid 12 price)
    (onTick : OnTick m (computeTrailSlPrice m.side price w.task.variant.params.trailPct)) :
    OnGrid 12 (updateBestPrice m.side price (w.liveBest m)) ∧
      OnTick m (w.liveTrail m price) := by
  unfold Twin.liveTrail
  rcases updateBestPrice_cases m.side price (w.liveBest m) with isPrice | isBest
  · rw [isPrice]
    exact ⟨grid, onTick⟩
  · exact paired.best _ isBest.symm

variable (m price w) in
/-- The monitor's stop after a price. -/
def Twin.liveNext : SlType → SlType × Option ℚ
  | .protective =>
      if m.entryPrice ≠ 0 ∧
          checkBeTrigger m.side price m.entryPrice w.task.variant.params.beTrigger = true then
        (.be, some (computeBeSlPrice m.side m.entryPrice w.task.variant.params.beSlLevel))
      else (.protective, w.liveStop)
  | .be => (.be, w.liveStop)
  | .trail => (.trail, if w.improves m price then some (w.liveTrail m price) else w.liveStop)

variable (m price w) in
/-- The variant's stop after a price. -/
def Twin.shadowNext : SlType → SlType × Option ℚ
  | .protective =>
      if 0 < w.task.variant.params.beTrigger ∧
          checkBeTrigger m.side price m.entryPrice w.task.variant.params.beTrigger = true then
        (.be, some (computeBeSlPrice m.side m.entryPrice w.task.variant.params.beSlLevel))
      else (.protective, w.shadowStops.slPrice)
  | .be => (.be, w.shadowStops.slPrice)
  | .trail =>
      (.trail,
        if 0 < w.task.variant.params.trailPct ∧
            tighter m.side (w.shadowTrail m price) w.shadowStops.slPrice = true then
          some (w.shadowTrail m price)
        else w.shadowStops.slPrice)

/-- What a price leaves of the monitor. -/
structure LiveAfter (m : Monitor) (w : Twin) (price : ℚ) (slType : SlType) (after : Twin) :
    Prop where
  type : after.liveType m = some (w.liveNext m price slType).1
  stop : after.liveStop = (w.liveNext m price slType).2
  row : ∃ row, after.desk.db.positions.lookup m.key = some row
  best : after.liveBest m = w.liveBest m ∨
    after.liveBest m = some (updateBestPrice m.side price (w.liveBest m))
  running : after.desk.phase = .asleep ∨ after.desk.phase = .raised ∧ m.entryPrice = 0

/-- One price, as a monitor takes it that raised before. -/
theorem Paired.livePrice_raised (paired : Paired m w) (raised : w.desk.phase = .raised)
    (free : m.entryPrice = 0) {slType : SlType} (type : w.liveType m = some slType) {after : Twin}
    (stepped : after.desk = run (monitorStep m) w.desk (tickMoves price now)) :
    LiveAfter m w price slType after := by
  rw [run_raised raised] at stepped
  have sameType : after.liveType m = w.liveType m := by rw [Twin.liveType, stepped, Twin.liveType]
  have sameBest : after.liveBest m = w.liveBest m := by rw [Twin.liveBest, stepped, Twin.liveBest]
  refine ⟨?_, ?_, stepped ▸ paired.row, .inl sameBest, .inr ⟨stepped ▸ raised, free⟩⟩
  · rw [sameType, type]
    cases slType with
    | protective => simp [Twin.liveNext, free]
    | be | trail => rfl
  · rw [Twin.liveStop, stepped]
    cases slType with
    | protective => simp [Twin.liveNext, free, Twin.liveStop]
    | be => rfl
    | trail => simp [Twin.liveNext, Twin.improves, raised, Twin.liveStop]

/-- One price, as a monitor takes it that waits for prices. -/
theorem Paired.livePrice_asleep (paired : Paired m w) (asleep : w.desk.phase = .asleep)
    (presented : Presented settings m w (.price price now)) {slType : SlType}
    (type : w.liveType m = some slType) {after : Twin}
    (stepped : after.desk = run (monitorStep m) w.desk (tickMoves price now)) :
    LiveAfter m w price slType after := by
  obtain ⟨grid, trail, breakeven⟩ := presented
  obtain ⟨exactBest, onTick⟩ := paired.newBest grid trail
  unfold OnTick at onTick breakeven
  obtain ⟨row, held⟩ := paired.row
  have found : w.desk.db.selectPositionState m.key = some row := held
  have best : w.liveBest m = row.bestPrice := by
    rw [Twin.liveBest, found]
    rfl
  have rowType : row.slType = some slType := by
    rw [← type, Twin.liveType, found]
    rfl
  have ticked := @run_tickMoves _ _ _ price now _ asleep held paired.drawn paired.known
  rw [← stepped] at ticked
  obtain ⟨row', held', best', type'⟩ := ticked.row
  have found' : after.desk.db.selectPositionState m.key = some row' := held'
  have typed : after.liveType m = row'.slType := by
    rw [Twin.liveType, found']
    rfl
  have priced : after.liveBest m = some (updateBestPrice m.side price (w.liveBest m)) := by
    rw [Twin.liveBest, found', Option.bind_some, best', ← best, numeric_of_onGrid exactBest]
  unfold Twin.liveTrail at onTick
  rw [best] at onTick
  have moved : after.liveType m = some (w.liveNext m price slType).1 ∧
      after.liveStop = (w.liveNext m price slType).2 := by
    rw [typed, type', Twin.liveStop, ticked.stop, rowType]
    cases slType with
    | protective =>
        unfold Twin.liveNext
        simp only [chooseStop, rowType, breakeven, if_true]
        split_ifs <;> simp_all [Twin.liveStop]
    | be => simp [chooseStop, rowType, Twin.liveNext, Twin.liveStop]
    | trail =>
        simp only [chooseStop, rowType, Twin.liveNext, Twin.improves, Twin.liveTrail, asleep,
          best, Reading.newBest, onTick, reduceCtorEq, if_false, true_and, Option.some.injEq]
        split_ifs <;> simp [Twin.liveStop]
  have goesOn : m.entryPrice ≠ 0 → (chooseStop m ⟨row, price⟩
      ⟨w.task.variant.params.beTrigger, w.task.variant.params.beSlLevel,
        w.task.variant.params.trailPct⟩ true).isNone = false := by
    intro free
    simp only [chooseStop, breakeven, Reading.newBest, onTick, free, if_false]
    split_ifs <;> rfl
  refine ⟨moved.1, moved.2, ⟨row', held'⟩, .inr priced, ?_⟩
  by_cases free : m.entryPrice = 0
  · rw [ticked.phase]
    split_ifs
    · exact .inr ⟨rfl, free⟩
    · exact .inl rfl
  · refine .inl ?_
    rw [ticked.phase, goesOn free, if_neg Bool.false_ne_true]

/-- One price, as the monitor takes it. -/
theorem Paired.livePrice (paired : Paired m w)
    (presented : Presented settings m w (.price price now)) {slType : SlType}
    (type : w.liveType m = some slType) {after : Twin}
    (stepped : after.desk = run (monitorStep m) w.desk (tickMoves price now)) :
    LiveAfter m w price slType after := by
  rcases paired.running with asleep | ⟨raised, free⟩
  · exact paired.livePrice_asleep asleep presented type stepped
  · exact paired.livePrice_raised raised free type stepped

/-- A stop the handler sets. -/
theorem activePositions_setTradingStop (cfg : Config) {symbol : String} (request : StopRequest)
    (untrailed : request.slType ≠ some .trail) {s : PaperExchange} {active : ActivePosition}
    (held : s.activePositions symbol = some active) :
    (setTradingStop cfg symbol request.tpslMode (some request.slPrice) request.tpPrice
        request.tpSize request.slType s).2.activePositions symbol =
      some { active with
        stops := active.stops.overwrite request.tpslMode (some request.slPrice) request.tpPrice
          request.tpSize request.slType } := by
  rw [setTradingStop_eq cfg untrailed held]
  exact Function.update_self _ _ _

/-- What the variant asks for at a flat candle. -/
theorem variantStop_flat {v : Variant} {best : ℚ} {symbol : String} {active : ActivePosition} :
    (variantStop v best (flatCandle symbol price now) active).map
        (fun request => (request.slType, request.slPrice)) =
      match active.stops.slType with
      | .protective =>
          if 0 < v.params.beTrigger ∧
              checkBeTrigger v.side price v.entryPrice v.params.beTrigger = true then
            some (some .be, computeBeSlPrice v.side v.entryPrice v.params.beSlLevel)
          else none
      | .be => none
      | .trail =>
          if 0 < v.params.trailPct ∧
              tighter v.side (computeTrailSlPrice v.side best v.params.trailPct)
                active.stops.slPrice = true then
            some (none, computeTrailSlPrice v.side best v.params.trailPct)
          else none := by
  unfold variantStop
  cases type : active.stops.slType with
  | protective =>
      cases side : v.side with
      | buy | sell =>
          simp only [flatCandle, true_and, reduceCtorEq, false_and, if_false]
          split_ifs <;> rfl
  | be => simp
  | trail =>
      simp only [true_and, reduceCtorEq, false_and, if_false]
      by_cases positive : 0 < v.params.trailPct
      · cases active.stops.slPrice with
        | none => simp [tighter, positive]
        | some current =>
            simp only [tighter, Option.any_some, positive, if_true, true_and]
            split_ifs <;> rfl
      · simp [positive]

theorem Twin.stopRequest_flat {active : ActivePosition}
    (held : w.task.pe.activePositions w.task.variant.symbol = some active) :
    w.task.stopRequest (flatCandle w.task.variant.symbol price now) =
      variantStop w.task.variant
        (w.task.observe (flatCandle w.task.variant.symbol price 0)).bestPrice
        (flatCandle w.task.variant.symbol price now) active := by
  have best : (w.task.observe (flatCandle w.task.variant.symbol price now)).bestPrice =
      (w.task.observe (flatCandle w.task.variant.symbol price 0)).bestPrice := by
    unfold VariantTask.observe
    split <;> rfl
  rw [← best]
  simp only [VariantTask.stopRequest, flatCandle, if_true, held, Option.bind_some]

theorem Twin.shadowStops_eq {active : ActivePosition}
    (held : w.task.pe.activePositions w.task.variant.symbol = some active) :
    w.shadowStops = active.stops := by
  rw [Twin.shadowStops, PaperExchange.stopsOf, held]
  rfl

/-- The variant's next stop is the one it asks for, or the one it has. -/
theorem Paired.shadowNext_eq (paired : Paired m w) (price : ℚ) (now : ℕ) :
    w.shadowNext m price w.shadowStops.slType =
      ((w.task.stopRequest (flatCandle w.task.variant.symbol price now)).map
        (fun request => (request.slType, request.slPrice))).elim
        (w.shadowStops.slType, w.shadowStops.slPrice)
        fun stop => (stop.1.getD w.shadowStops.slType, some stop.2) := by
  obtain ⟨active, held⟩ := paired.active
  have asked := @variantStop_flat price now w.task.variant
    (w.task.observe (flatCandle w.task.variant.symbol price 0)).bestPrice
    w.task.variant.symbol active
  have trailStop : computeTrailSlPrice m.side
      (w.task.observe (flatCandle w.task.variant.symbol price 0)).bestPrice
      w.task.variant.params.trailPct = w.shadowTrail m price := rfl
  rw [← Twin.shadowStops_eq held, paired.side, paired.entryPrice, trailStop,
    ← Twin.stopRequest_flat held] at asked
  rw [asked]
  cases w.shadowStops.slType with
  | protective =>
      simp only [Twin.shadowNext]
      split_ifs <;> rfl
  | be => rfl
  | trail =>
      simp only [Twin.shadowNext]
      by_cases trails : 0 < w.task.variant.params.trailPct ∧
          tighter m.side (w.shadowTrail m price) w.shadowStops.slPrice = true
      · rw [if_pos trails, if_pos trails]
        rfl
      · rw [if_neg trails, if_neg trails]
        rfl

/-- One price, as the variant takes it. -/
theorem Paired.shadowPrice (paired : Paired m w) {after : Twin}
    (stepped : after.task =
      (candleHandler settings (flatCandle w.task.variant.symbol price now) w.task).2) :
    after.task.variant = w.task.variant ∧
      (∃ active, after.task.pe.activePositions w.task.variant.symbol = some active) ∧
      after.shadowStops.slType = (w.shadowNext m price w.shadowStops.slType).1 ∧
      after.shadowStops.slPrice = (w.shadowNext m price w.shadowStops.slType).2 := by
  obtain ⟨active, held⟩ := paired.active
  have stops := Twin.shadowStops_eq held
  have request := @Twin.stopRequest_flat w price now active held
  rw [paired.shadowNext_eq price now]
  cases requested : w.task.stopRequest (flatCandle w.task.variant.symbol price now) with
  | none =>
      rw [candleHandler_none rfl requested] at stepped
      have pe : after.task.pe = w.task.pe := by rw [stepped, VariantTask.observe_pe]
      have variant : after.task.variant = w.task.variant := by
        rw [stepped, VariantTask.observe_variant]
      refine ⟨variant, ⟨active, pe ▸ held⟩, ?_⟩
      rw [Twin.shadowStops, pe, variant]
      exact ⟨rfl, rfl⟩
  | some made =>
      have ran : after.task = { w.task.observe (flatCandle w.task.variant.symbol price now) with
          pe := (setTradingStop (settings.config w.task.variant) w.task.variant.symbol
            made.tpslMode (some made.slPrice) made.tpPrice made.tpSize made.slType
            w.task.pe).2 } := by
        rw [stepped, candleHandler]
        simp only [requested]
        rfl
      have variant : after.task.variant = w.task.variant := by
        rw [ran, VariantTask.observe_variant]
      have written := activePositions_setTradingStop (settings.config w.task.variant) made
        (variantStop_untrailed (request ▸ requested)) held
      refine ⟨variant, ⟨_, by rw [ran]; exact written⟩, ?_⟩
      have stopsAfter : after.shadowStops = active.stops.overwrite made.tpslMode
          (some made.slPrice) made.tpPrice made.tpSize made.slType := by
        rw [Twin.shadowStops, variant, PaperExchange.stopsOf, ran, written]
        rfl
      rw [stopsAfter, stops]
      exact ⟨rfl, rfl⟩

/-! ## One price -/

/-- A stop that is tighter than the one in force is not the one in force. -/
theorem ne_of_tighter {side : Side} {stop : ℚ} {inForce : Option ℚ}
    (tight : tighter side stop inForce = true) : inForce ≠ some stop := by
  rintro rfl
  cases side <;> simp [tighter, tightened] at tight

/-- Two trailing stops, each in force after its guard: where one of them is tighter than what was
in force, both sides hold it. -/
theorem forall_tighter_iff {side : Side} {liveTrail shadowTrail : ℚ} {live shadow : Option ℚ}
    {improves positive : Prop} [Decidable improves] [Decidable positive] :
    (∀ stop ∈ (if tighter side liveTrail live then [liveTrail] else []) ++
        (if tighter side shadowTrail shadow then [shadowTrail] else []),
      (if improves then some liveTrail else live) = some stop ∧
        (if positive ∧ tighter side shadowTrail shadow = true then some shadowTrail
          else shadow) = some stop) ↔
      (tighter side liveTrail live = true →
        improves ∧ (tighter side shadowTrail shadow = true ∨ shadow = some liveTrail)) ∧
      (tighter side shadowTrail shadow = true →
        positive ∧ (improves ∧ liveTrail = shadowTrail ∨
          ¬ improves ∧ live = some shadowTrail)) := by
  have liveMoved : tighter side liveTrail live = true → live ≠ some liveTrail := ne_of_tighter
  have shadowMoved : tighter side shadowTrail shadow = true → shadow ≠ some shadowTrail :=
    ne_of_tighter
  by_cases liveTight : tighter side liveTrail live = true
  · by_cases shadowTight : tighter side shadowTrail shadow = true
    · have liveStays := liveMoved liveTight
      have shadowStays := shadowMoved shadowTight
      by_cases moves : improves
      · by_cases trails : positive
        · simpa [liveTight, shadowTight, moves, trails] using Eq.symm
        · simp [liveTight, shadowTight, moves, trails, shadowStays]
      · simp [liveTight, shadowTight, moves, liveStays]
    · have liveStays := liveMoved liveTight
      by_cases moves : improves
      · simp [liveTight, shadowTight, moves]
      · simp [liveTight, shadowTight, moves, liveStays]
  · by_cases shadowTight : tighter side shadowTrail shadow = true
    · have shadowStays := shadowMoved shadowTight
      by_cases trails : positive
      · by_cases moves : improves
        · simp [liveTight, shadowTight, moves, trails]
        · simp [liveTight, shadowTight, moves, trails]
      · simp [liveTight, shadowTight, trails, shadowStays]
    · simp [liveTight, shadowTight]
/-- An entry price of zero reaches no positive trigger. -/
theorem entryPrice_ne_zero {side : Side} {entryPrice beTrigger : ℚ} (positive : 0 < beTrigger)
    (reached : checkBeTrigger side price entryPrice beTrigger = true) : entryPrice ≠ 0 := by
  rintro rfl
  cases side with
  | buy | sell =>
      simp only [checkBeTrigger, div_zero, decide_eq_true_eq] at reached
      exact absurd reached (not_le.mpr positive)

/-- **On one price** the two move alike exactly where their guards do not differ. -/
theorem Paired.movesAlike_iff (paired : Paired m w)
    (presented : Presented settings m w (.price price now)) :
    MovesAlike settings m w (.price price now) ↔ Together m w price := by
  obtain ⟨liveType, liveStop, -⟩ := @Paired.livePrice _ _ _ _ now paired presented _ paired.type
    (twinStep settings m (.price price now) w) rfl
  obtain ⟨-, -, shadowType, shadowStop⟩ := @Paired.shadowPrice settings _ _ price now paired
    (twinStep settings m (.price price now) w) rfl
  have trails : w.trails m ↔ w.shadowStops.slType = .trail := by
    rw [Twin.trails, paired.type, Option.some.injEq, and_self]
  have together : Together m w price ↔ _ := ⟨fun t => (⟨t.breakeven, t.live, t.shadow⟩ : _ ∧ _ ∧ _),
    fun t => ⟨t.1, t.2.1, t.2.2⟩⟩
  rw [together]
  simp only [MovesAlike, liveType, liveStop, shadowType, shadowStop, paired.type, trails]
  cases w.shadowStops.slType with
  | protective =>
      simp only [reduceCtorEq, false_imp_iff, and_true, true_imp_iff]
      by_cases reached :
          checkBeTrigger m.side price m.entryPrice w.task.variant.params.beTrigger = true
      · by_cases positive : 0 < w.task.variant.params.beTrigger
        · have free := entryPrice_ne_zero positive reached
          simp [Twin.liveNext, Twin.shadowNext, BreaksEven, reached, positive, free]
        · by_cases free : m.entryPrice = 0
          · simp [Twin.liveNext, Twin.shadowNext, BreaksEven, positive, free]
          · simp [Twin.liveNext, Twin.shadowNext, BreaksEven, reached, positive, free]
      · simp [Twin.liveNext, Twin.shadowNext, BreaksEven, reached]
  | be => simp [BreaksEven]
  | trail =>
      simp only [reduceCtorEq, BreaksEven, Option.some.injEq, false_and, false_imp_iff, true_and,
        true_imp_iff]
      exact forall_tighter_iff

/-- A price on which they move alike leaves them paired. -/
theorem Paired.twinStep_price (paired : Paired m w) (presented : Presented settings m w (.price price now))
    (together : Together m w price) : Paired m (twinStep settings m (.price price now) w) := by
  obtain ⟨liveType, -, row, best, running⟩ := @Paired.livePrice _ _ _ _ now paired presented _
    paired.type (twinStep settings m (.price price now) w) rfl
  obtain ⟨variant, active, shadowType, -⟩ := @Paired.shadowPrice settings _ _ price now paired
    (twinStep settings m (.price price now) w) rfl
  obtain ⟨drawn, known⟩ := @run_params m w.desk _ (tickMoves price now) paired.drawn paired.known
  obtain ⟨grid, trail, -⟩ := presented
  have sameType : (w.liveNext m price w.shadowStops.slType).1 =
      (w.shadowNext m price w.shadowStops.slType).1 := by
    have guard := together.breakeven
    rw [paired.type] at guard
    generalize w.shadowStops.slType = slType at guard
    cases slType with
    | protective =>
        simp only [Twin.liveNext, Twin.shadowNext]
        split_ifs with moves asks asks
        · rfl
        · exact absurd ⟨guard rfl moves.1 moves.2, moves.2⟩ asks
        · exact absurd ⟨entryPrice_ne_zero asks.1 asks.2, asks.2⟩ moves
        · rfl
    | be | trail => rfl
  refine
    { side := variant.symm ▸ paired.side, entryPrice := variant.symm ▸ paired.entryPrice,
      drawn := drawn, known := variant.symm ▸ known, running := running, row := row,
      best := fun exactBest found => ?_, active := variant.symm ▸ active, type := ?_ }
  · rw [variant]
    rcases best with same | moved
    · exact paired.best exactBest (same ▸ found)
    · obtain rfl := Option.some.inj (moved.symm.trans found)
      exact paired.newBest grid trail
  · rw [liveType, shadowType, sameType]

/-! ## One partial take-profit -/

theorem activePositions_drainPartialTp {cfg : Config} {fill : PendingSLTPFill}
    {s : PaperExchange} (drained : (drainPartialTp cfg fill s).1 = .ok ()) :
    ∃ active left, s.activePositions fill.symbol = some active ∧
      (drainPartialTp cfg fill s).2.activePositions fill.symbol =
        some { stops := { active.stops with slType := .trail }, position := left } := by
  cases held : s.activePositions fill.symbol with
  | none => simp [drainPartialTp, held] at drained
  | some active =>
      obtain ⟨stops, position⟩ := active
      cases position with
      | none => simp [drainPartialTp, held] at drained
      | some position =>
          simp only [drainPartialTp, held] at drained ⊢
          split at drained
          · cases drained
          · exact ⟨_, _, rfl, Function.update_self ..⟩

/-- The position row after a partial take-profit. -/
theorem lookup_partialTp {botId : String} {delivery : Delivery} {db : Db}
    (takesProfit : (deriveExecType botId delivery.event
      (db.selectOrderIdByExchangeId delivery.event.exchangeOrderId) db).execType = .partialTp)
    (recorded : (process botId delivery db).1 = .ok none) :
    ∃ row row', db.positions.lookup (botId, delivery.event.symbol) = some row ∧
      (process botId delivery db).2.positions.lookup (botId, delivery.event.symbol) = some row' ∧
      row'.bestPrice = row.bestPrice ∧ row'.slType = some .trail := by
  obtain ⟨-, recorded⟩ := process_ok_iff.mp
    (show process botId delivery db = (.ok none, (process botId delivery db).2) from
      Prod.ext recorded rfl)
  generalize (process botId delivery db).2 = db' at recorded ⊢
  cases recorded with
  | opened matched opens =>
      rw [matched] at takesProfit
      simp only [deriveExecType, opens] at takesProfit
      cases takesProfit
  | part reduces =>
      rw [reduces.derives] at takesProfit
      refine ⟨_, _, reduces.held, AList.lookup_insert _, rfl, ?_⟩
      rw [afterFill_slType]
      exact if_pos takesProfit

/-- A partial take-profit starts the trailing phase of both. -/
theorem Paired.twinStep_partialTp (paired : Paired m w) {delivery : Delivery} {fill : PendingSLTPFill}
    (presented : Presented settings m w (.partialTp delivery fill)) :
    Paired m (twinStep settings m (.partialTp delivery fill) w) := by
  obtain ⟨symbol, takesProfit, recorded, own, drained⟩ := presented
  have key : (m.key.1, delivery.event.symbol) = m.key := by rw [symbol]
  obtain ⟨row, row', held, held', best, type⟩ := lookup_partialTp takesProfit recorded
  rw [key] at held held'
  obtain ⟨active, left, -, heldAfter⟩ := activePositions_drainPartialTp drained
  rw [own] at heldAfter
  have found : w.desk.db.selectPositionState m.key = some row := held
  have found' : (twinStep settings m (.partialTp delivery fill) w).desk.db.selectPositionState
      m.key = some row' := held'
  refine
    { side := paired.side, entryPrice := paired.entryPrice,
      drawn := paired.drawn.trans_le
        (step_change (.fill m.key.1 delivery) w.desk.db).nextTradeId_le,
      known := ?_, running := paired.running, row := ⟨row', held'⟩,
      best := fun exactBest known => ?_, active := ⟨_, heldAfter⟩, type := ?_ }
  · rcases step_fill_cases m.key.1 delivery w.desk.db with same | ⟨closed, recorded⟩
    · exact (congrArg (·.selectTradeFsmParams m.tradeId) same).trans paired.known
    · exact (recorded.sameParams m.tradeId paired.drawn).trans paired.known
  · refine paired.best exactBest ?_
    rw [Twin.liveBest, found', Option.bind_some, best] at known
    rw [Twin.liveBest, found]
    exact known
  · rw [Twin.liveType, found', Option.bind_some, type, Twin.shadowStops, PaperExchange.stopsOf]
    change some SlType.trail = some ((((drainPartialTp (settings.config w.task.variant) fill
      w.task.pe).2.activePositions w.task.variant.symbol).getD {}).stops.slType)
    rw [heldAfter]
    rfl

end Steps

/-! ## Every run from a placement -/

section Runs

variable (settings : Settings) (history : List Execution.Step) (p : Placed)
  (tpPrice notionalUsd tickSize : ℚ) (slSetAt : ℕ) (moment : Moment) (paperDb : PaperDb)

theorem Paired.start :
    Paired (p.monitor (run Execution.step {} history) tickSize)
      (.start settings p (run Execution.step {} history) tpPrice notionalUsd slSetAt moment
        paperDb) where
  side := rfl
  entryPrice := rfl
  drawn := Nat.lt_succ_self _
  known := selectTradeFsmParams_afterPlacement (run_integrity history) p _ tpPrice notionalUsd
    slSetAt
  running := .inl rfl
  row := ⟨_, AList.lookup_insert _⟩
  best := by
    intro best found
    have placed : (((run Execution.step {} history).afterPlacement p
        (computeSlPrice p.request.side p.fillPrice p.request.slPct) tpPrice notionalUsd
        slSetAt).selectPositionState p.key).bind (·.bestPrice) = none := by
      rw [Db.selectPositionState, Db.afterPlacement, AList.lookup_insert]
      rfl
    cases placed.symm.trans found
  active := ⟨_, Function.update_self ..⟩
  type := by
    have live : (Twin.start settings p (run Execution.step {} history) tpPrice notionalUsd slSetAt
        moment paperDb).liveType (p.monitor (run Execution.step {} history) tickSize) =
        some .protective := by
      change (((run Execution.step {} history).afterPlacement p
        (computeSlPrice p.request.side p.fillPrice p.request.slPct) tpPrice notionalUsd
        slSetAt).selectPositionState p.key).bind (·.slType) = _
      rw [Db.selectPositionState, Db.afterPlacement, AList.lookup_insert]
      rfl
    rw [live, Twin.shadowStops, PaperExchange.stopsOf]
    change _ = some ((((Function.update _ p.request.symbol (some _) :
      String → Option ActivePosition) p.request.symbol).getD {}).stops.slType)
    rw [Function.update_self]
    rfl

/-- **The monitor and the variant of a trade move alike**, on every feed of exact prices and
partial take-profits from the placement on, exactly when the feed has no price on which their
guards differ. -/
theorem run_movesAlike_iff {feed : List Feed}
    (presented : RunGuarded (Presented settings (p.monitor (run Execution.step {} history) tickSize))
      (twinStep settings (p.monitor (run Execution.step {} history) tickSize))
      (.start settings p (run Execution.step {} history) tpPrice notionalUsd slSetAt moment paperDb)
      feed) :
    RunGuarded (MovesAlike settings (p.monitor (run Execution.step {} history) tickSize))
        (twinStep settings (p.monitor (run Execution.step {} history) tickSize))
        (.start settings p (run Execution.step {} history) tpPrice notionalUsd slSetAt moment
          paperDb) feed ↔
      RunGuarded (StaysTogether (p.monitor (run Execution.step {} history) tickSize))
        (twinStep settings (p.monitor (run Execution.step {} history) tickSize))
        (.start settings p (run Execution.step {} history) tpPrice notionalUsd slSetAt moment
          paperDb) feed := by
  refine runGuarded_iff_of_invariant (Paired (p.monitor (run Execution.step {} history) tickSize))
    ?_ ?_ feed (.start settings history p tpPrice notionalUsd tickSize slSetAt moment paperDb)
    presented
  · rintro w (⟨price, now⟩ | ⟨delivery, fill⟩) paired presented
    · exact paired.movesAlike_iff presented
    · exact Iff.rfl
  · rintro w (⟨price, now⟩ | ⟨delivery, fill⟩) paired presented met
    · exact paired.twinStep_price presented met
    · exact paired.twinStep_partialTp presented

end Runs

/-! ## A price that falls after the take-profit -/

def exactSettings : Settings where columns := .exact

/-- The paper trade of the parent's id, which the variant's executions refer to. -/
def parentRow : PaperTrade where
  id := 1
  botId := "bot"
  openOrderId := 1
  symbol := "BTCUSDT"
  side := .buy
  entryPrice := 100
  qty := 10
  notionalUsd := 1000
  feesPaid := 0
  openedAt := 2

def longTwin : Twin :=
  .start exactSettings placedLong {} 104 1000 3 {} { trades := [parentRow], nextTradeId := 2 }

/-- Half of the long, at its target, on both sides. -/
def longTakeProfit : Feed :=
  .partialTp (longFill "e2" "tp" .sell 5 5)
    { symbol := "BTCUSDT", side := .buy, qty := 5, triggerPrice := 104, triggeredAt := 5,
      kind := .tp, tpslMode := .Partial }

theorem risingLong_movesAlike :
    RunGuarded (MovesAlike exactSettings (placedLong.monitor {} (1 / 100)))
      (twinStep exactSettings (placedLong.monitor {} (1 / 100))) longTwin
      [.price 104 4, longTakeProfit, .price 106 6] :=
  (run_movesAlike_iff exactSettings [] placedLong 104 1000 (1 / 100) 3 {}
    { trades := [parentRow], nextTradeId := 2 } (by decide +kernel)).mpr (by decide +kernel)

/-- **They part after the take-profit**: at 103 the variant trails the best price, 104, and the
monitor, which has seen 104 before, leaves its stop at break-even. -/
theorem takeProfit_apart :
    RunGuarded (Presented exactSettings (placedLong.monitor {} (1 / 100)))
        (twinStep exactSettings (placedLong.monitor {} (1 / 100))) longTwin
        [.price 104 4, longTakeProfit, .price 103 6] ∧
      ¬ RunGuarded (MovesAlike exactSettings (placedLong.monitor {} (1 / 100)))
        (twinStep exactSettings (placedLong.monitor {} (1 / 100))) longTwin
        [.price 104 4, longTakeProfit, .price 103 6] := by
  decide +kernel

end Scalper.Shadow
