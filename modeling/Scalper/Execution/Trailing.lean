import Scalper.Execution.StopType

/-!
# Whether the stop tightens

The stop of a trade goes through three formulas: the protective one of the placement, the
break-even one of its entry price, and the trailing one of the best price seen.  The monitor sets
each new stop without looking at the one in force; the shadow worker's copy of the trailing branch
does (`tightened`).

`run_tightens` shows that every stop the monitor sets is at least as tight as the one in force, in
every run of ticks and fills from the placement, when the break-even level is not looser than the
protective one, the first trailing stop does not fall behind the stop it replaces, the trailing
distance moves the stop with the price, and prices have no more decimals than their column.  From
the first trailing stop on nothing has to be asked of the prices: the best price only improves, and
rounding to the tick keeps the order.  `looseTrail_loosens` is a long whose first trailing stop
undoes its break-even.
-/

set_option autoImplicit false

namespace Scalper.Execution

open Scalper.Lib Scalper.Exchange

/-! ## Prices ordered by a side -/

/-- `y` is at least as good as `x`: as high for a long, as low for a short. -/
def Reaches : Side → ℚ → ℚ → Prop
  | .buy, x, y => x ≤ y
  | .sell, x, y => y ≤ x

instance Reaches.decidable : ∀ (side : Side) (x y : ℚ), Decidable (Reaches side x y)
  | .buy, x, y => inferInstanceAs (Decidable (x ≤ y))
  | .sell, x, y => inferInstanceAs (Decidable (y ≤ x))

/-- The trailing stop moves the way the price does. -/
def TrailsAlong : Side → ℚ → Prop
  | .buy, trailPct => trailPct ≤ 1
  | .sell, trailPct => -1 ≤ trailPct

section Prices

variable {side : Side} {x y z tick : ℚ}

theorem Reaches.refl (side : Side) (x : ℚ) : Reaches side x x := by
  cases side <;> exact le_refl x

theorem Reaches.trans (first : Reaches side x y) (second : Reaches side y z) :
    Reaches side x z := by
  cases side with
  | buy => exact le_trans first second
  | sell => exact le_trans second first

/-- The price on the tick grid. -/
def onTick (side : Side) (tick price : ℚ) : ℚ := side.toIntegral (price / tick) * tick

theorem quantizePrice_ok_iff {price : ℚ} :
    quantizePrice price side tick = .ok x ↔ 0 < tick ∧ x = onTick side tick price := by
  by_cases positive : 0 < tick
  · rw [quantizePrice_of_pos positive]
    simp only [positive, true_and, Except.ok.injEq, onTick]
    exact eq_comm
  · rw [quantizePrice_of_nonpos (not_lt.mp positive)]
    simp [positive]

theorem Reaches.onTick (positive : 0 < tick) (reaches : Reaches side x y) :
    Reaches side (onTick side tick x) (onTick side tick y) := by
  cases side with
  | buy => exact roundDown_mono positive reaches
  | sell => exact roundUp_mono positive reaches

/-- Prices on the grid stay. -/
theorem onTick_onTick (positive : 0 < tick) (price : ℚ) :
    onTick side tick (onTick side tick price) = onTick side tick price := by
  cases side with
  | buy => exact roundDown_of_isMultiple positive isMultiple_roundDown
  | sell => exact roundUp_of_isMultiple positive isMultiple_roundUp

theorem Reaches.computeTrailSlPrice {trailPct : ℚ} (along : TrailsAlong side trailPct)
    (reaches : Reaches side x y) :
    Reaches side (computeTrailSlPrice side x trailPct) (computeTrailSlPrice side y trailPct) := by
  cases side with
  | buy => exact mul_le_mul_of_nonneg_right reaches (sub_nonneg.mpr along)
  | sell =>
      have factor : 0 ≤ 1 + trailPct := by
        have bound : -1 ≤ trailPct := along
        linarith
      exact mul_le_mul_of_nonneg_right reaches factor

/-- The best price only improves. -/
theorem reaches_updateBestPrice (side : Side) (price best : ℚ) :
    Reaches side best (updateBestPrice side price (some best)) := by
  cases side with
  | buy =>
      simp only [updateBestPrice]
      split_ifs with better
      · exact better.le
      · exact le_refl best
  | sell =>
      simp only [updateBestPrice]
      split_ifs with better
      · exact better.le
      · exact le_refl best

/-- The best price is one of the prices. -/
theorem updateBestPrice_cases (side : Side) (price : ℚ) (best : Option ℚ) :
    updateBestPrice side price best = price ∨ some (updateBestPrice side price best) = best := by
  cases best with
  | none => exact .inl rfl
  | some best =>
      cases side with
      | buy =>
          simp only [updateBestPrice]
          split_ifs
          · exact .inl rfl
          · exact .inr rfl
      | sell =>
          simp only [updateBestPrice]
          split_ifs
          · exact .inl rfl
          · exact .inr rfl

end Prices

/-! ## One trade, its monitor and its fills -/

/-- A move of the monitor or a fill of the bot. -/
inductive DeskStep where
  | moves (move : MonitorMove)
  | fills (botId : String) (delivery : Delivery)

def deskStep (m : Monitor) : DeskStep → Desk → Desk
  | .moves move, d => monitorStep m move d
  | .fills botId delivery, d => { d with db := (process botId delivery d.db).2 }

/-- The monitor a placement starts. -/
def Placed.monitor (p : Placed) (db : Db) (tickSize : ℚ) : Monitor :=
  ⟨p.key, db.nextTradeId, p.request.side, p.fillPrice, p.qty, tickSize⟩

/-- The desk a placement leaves: its tables, and its protective stop in force. -/
def Placed.desk (p : Placed) (db : Db) (slPrice tpPrice notionalUsd : ℚ) (slSetAt : ℕ) : Desk where
  db := db.afterPlacement p slPrice tpPrice notionalUsd slSetAt
  stop := { inForce := some slPrice, ours := some slPrice }

/-- The stop the monitor is about to set is at least as tight as the one in force. -/
def Tightens (m : Monitor) (d : Desk) (s : DeskStep) : Prop :=
  ∀ outcome new inForce, s = .moves (.sets outcome) → d.phase = .setting new →
    d.stop.inForce = some inForce → Reaches m.side inForce new.slPrice

/-- Prices have at most the decimals of their column, and the first trailing stop is not behind
the stop it replaces: the best price is far enough ahead of it. -/
def FarEnough (m : Monitor) (trailPct : ℚ) (d : Desk) : DeskStep → Prop
  | .moves (.reads price) => OnGrid 12 price
  | .moves (.sets _) =>
      ∀ new inForce, d.phase = .setting new → new.slType = .trail → d.stop.trails = none →
        d.stop.inForce = some inForce →
        Reaches m.side inForce (computeTrailSlPrice m.side new.best trailPct)
  | _ => True

instance FarEnough.decidable (m : Monitor) (trailPct : ℚ) (d : Desk) :
    ∀ s : DeskStep, Decidable (FarEnough m trailPct d s)
  | .moves (.reads price) => inferInstanceAs (Decidable (OnGrid 12 price))
  | .moves (.sets _) =>
      match phase : d.phase, inForce : d.stop.inForce with
      | .setting new, some inForceNow =>
          decidable_of_iff (new.slType = .trail → d.stop.trails = none →
              Reaches m.side inForceNow (computeTrailSlPrice m.side new.best trailPct))
            ⟨fun ahead new' inForce' here trail trails inForceNow' => by
                cases phase.symm.trans here
                cases inForce.symm.trans inForceNow'
                exact ahead trail trails,
              fun ahead trail trails => ahead new inForceNow phase trail trails inForce⟩
      | .setting _, none => isTrue fun _ _ _ _ _ inForceNow => nomatch inForce.symm.trans inForceNow
      | .asleep, _ | .ticking _, _ | .detecting _, _ | .deciding _, _ | .persisting _, _
      | .marking _, _ | .returned, _ | .raised, _ =>
          isTrue fun _ _ here => nomatch phase.symm.trans here
  | .moves .readFails | .moves (.ticks _ _) | .moves (.detects _ _ _) | .moves (.decides _)
  | .moves (.persists _ _) | .moves (.marks _) | .fills _ _ => isTrue trivial

/-! ## The invariant -/

section Desk

variable (m : Monitor) (params : FsmParams) (slPrice : ℚ)

/-- The break-even stop of the trade. -/
def breakevenStop : ℚ :=
  onTick m.side m.tickSize (computeBeSlPrice m.side m.entryPrice params.beSlLevel)

/-- The trailing stop of a best price. -/
def trailingStop (best : ℚ) : ℚ :=
  onTick m.side m.tickSize (computeTrailSlPrice m.side best params.trailPct)

/-- What a tick has read is no older than the stop in force. -/
structure Current (d : Desk) (r : Reading) : Prop where
  untrailed : r.ps.slType = some .protective → d.stop.trails = none
  best : ∀ trailed, d.stop.trails = some trailed →
    ∃ best, r.ps.bestPrice = some best ∧ Reaches m.side trailed best
  left : r.ps.slType = some .trail → ∀ row, d.db.positions.lookup m.key = some row →
    row.slType ≠ some .protective
  grid : OnGrid 12 (r.newBest m.side)

/-- The stop a tick has chosen: break-even before any trailing stop, or one that trails a best
price the row already has. -/
def ChosenWell (d : Desk) (new : NewStop) : Prop :=
  (new.slType = .be ∧ d.stop.trails = none ∧ new.slPrice = breakevenStop m params) ∨
    (new.slType = .trail ∧ new.slPrice = trailingStop m params new.best ∧
      (∀ trailed, d.stop.trails = some trailed → Reaches m.side trailed new.best) ∧
      ∀ row, d.db.positions.lookup m.key = some row →
        row.bestPrice = some new.best ∧ row.slType ≠ some .protective)

/-- What holds at each place of a tick. -/
def InTick (d : Desk) : TickPhase → Prop
  | .ticking r => Current m d r
  | .detecting r | .deciding r =>
      Current m d r ∧ ∀ row, d.db.positions.lookup m.key = some row →
        row.bestPrice = some (r.newBest m.side)
  | .setting new => ChosenWell m params d new
  | .persisting new => new.slType ≠ .protective
  | .asleep | .marking _ | .returned | .raised => True

/-- The stop in force is the protective one, the break-even one, or trails a best price that the
row has reached since. -/
structure Trailing (d : Desk) : Prop where
  drawn : m.tradeId < d.db.nextTradeId
  known : d.db.selectTradeFsmParams m.tradeId = some (some params)
  grid : ∀ row best, d.db.positions.lookup m.key = some row → row.bestPrice = some best →
    OnGrid 12 best
  reached : ∀ row trailed, d.db.positions.lookup m.key = some row →
    d.stop.trails = some trailed → row.slType ≠ some .protective ∧
      ∃ best, row.bestPrice = some best ∧ Reaches m.side trailed best
  untrailed : d.stop.trails = none →
    d.stop.inForce = some slPrice ∨ d.stop.inForce = some (breakevenStop m params)
  trailed : ∀ trailed, d.stop.trails = some trailed →
    d.stop.inForce = some (trailingStop m params trailed)
  inTick : InTick m params d d.phase

end Desk

section Steps

variable {m : Monitor} {params : FsmParams} {slPrice : ℚ} {d d' : Desk}

/-- The best price of a tick is at least the one the stop in force trails. -/
theorem Current.reaches_newBest {r : Reading} (current : Current m d r) {trailed : ℚ}
    (trails : d.stop.trails = some trailed) : Reaches m.side trailed (r.newBest m.side) := by
  obtain ⟨best, known, reaches⟩ := current.best trailed trails
  refine reaches.trans ?_
  rw [Reading.newBest, known]
  exact reaches_updateBestPrice m.side r.price best

/-- The rows of the key keep their best price, and do not become protective. -/
def KeepsBest (key : PositionKey) (db db' : Db) : Prop :=
  ∀ row', db'.positions.lookup key = some row' → ∃ row, db.positions.lookup key = some row ∧
    row'.bestPrice = row.bestPrice ∧ (row'.slType = row.slType ∨ row'.slType ≠ some .protective)

theorem KeepsBest.unprotected {key : PositionKey} {db db' : Db} (keeps : KeepsBest key db db')
    (left : ∀ row, db.positions.lookup key = some row → row.slType ≠ some .protective) :
    ∀ row', db'.positions.lookup key = some row' → row'.slType ≠ some .protective := by
  intro row' after
  obtain ⟨row, before, -, same | moved⟩ := keeps row' after
  · exact same ▸ left row before
  · exact moved

theorem Current.keepsBest {r : Reading} (current : Current m d r)
    (keeps : KeepsBest m.key d.db d'.db) (stop : d'.stop = d.stop) : Current m d' r where
  untrailed := stop ▸ current.untrailed
  best := stop ▸ current.best
  left := fun trail => keeps.unprotected (current.left trail)
  grid := current.grid

theorem InTick.keepsBest {phase : TickPhase} (inTick : InTick m params d phase)
    (keeps : KeepsBest m.key d.db d'.db) (stop : d'.stop = d.stop) :
    InTick m params d' phase := by
  cases phase with
  | asleep | marking | returned | raised => trivial
  | persisting new => exact inTick
  | ticking r => exact Current.keepsBest inTick keeps stop
  | detecting r | deciding r =>
      refine ⟨inTick.1.keepsBest keeps stop, fun row' after => ?_⟩
      obtain ⟨row, before, same, -⟩ := keeps row' after
      exact same.trans (inTick.2 row before)
  | setting new =>
      rcases inTick with ⟨be, untrailed, priced⟩ | ⟨trail, priced, reaches, rows⟩
      · exact .inl ⟨be, stop ▸ untrailed, priced⟩
      · refine .inr ⟨trail, priced, stop ▸ reaches, fun row' after => ?_⟩
        obtain ⟨row, before, same, -⟩ := keeps row' after
        exact ⟨same.trans (rows row before).1,
          keeps.unprotected (fun row before => (rows row before).2) row' after⟩

/-- Steps that leave the stop, the parameters and the best price alone. -/
theorem Trailing.keepsBest (trailing : Trailing m params slPrice d)
    (keeps : KeepsBest m.key d.db d'.db) (stop : d'.stop = d.stop)
    (drawn : d.db.nextTradeId ≤ d'.db.nextTradeId) (same : SameParams d.db d'.db)
    (inTick : InTick m params d' d'.phase) : Trailing m params slPrice d' where
  drawn := trailing.drawn.trans_le drawn
  known := (same m.tradeId trailing.drawn).trans trailing.known
  grid := by
    intro row' best after known
    obtain ⟨row, before, sameBest, -⟩ := keeps row' after
    exact trailing.grid row best before (sameBest ▸ known)
  reached := by
    intro row' trailed after trails
    obtain ⟨row, before, sameBest, type⟩ := keeps row' after
    obtain ⟨left, best, known, reaches⟩ := trailing.reached row trailed before (stop ▸ trails)
    refine ⟨?_, best, sameBest.trans known, reaches⟩
    rcases type with sameType | moved
    · exact sameType ▸ left
    · exact moved
  untrailed := stop ▸ trailing.untrailed
  trailed := stop ▸ trailing.trailed
  inTick := inTick

theorem KeepsBest.of_positions {key : PositionKey} {db db' : Db}
    (same : db'.positions = db.positions) : KeepsBest key db db' :=
  fun row' after => ⟨row', same ▸ after, rfl, .inl rfl⟩

theorem Recorded.keepsBest {botId : String} {event : Fill} {reads : ClosedPnlReads} {now : ℕ}
    {closed : Option OrderClosed} {db db' : Db}
    (recorded : Recorded botId event reads now db closed db') (key : PositionKey) :
    KeepsBest key db db' := by
  intro row' after
  cases recorded with
  | opened => exact ⟨row', after, rfl, .inl rfl⟩
  | @part orderId derived ps reduces =>
      rcases lookup_insert_cases after with ⟨rfl, rfl⟩ | ⟨-, kept⟩
      · refine ⟨ps, reduces.held, rfl, ?_⟩
        rw [afterFill_slType]
        split_ifs
        · exact .inr (by decide)
        · exact .inl rfl
      · exact ⟨row', kept, rfl, .inl rfl⟩
  | closed => exact ⟨row', (lookup_recordClose.mp after).2, rfl, .inl rfl⟩

/-- A fill leaves the stop and the best price alone. -/
theorem Trailing.fill (trailing : Trailing m params slPrice d) (botId : String)
    (delivery : Delivery) : Trailing m params slPrice (deskStep m (.fills botId delivery) d) := by
  change Trailing m params slPrice { d with db := step (.fill botId delivery) d.db }
  rcases step_fill_cases botId delivery d.db with same | ⟨closed, recorded⟩
  · rw [same]
    exact trailing
  · have keeps := recorded.keepsBest m.key
    exact trailing.keepsBest keeps rfl (step_change (.fill botId delivery) d.db).nextTradeId_le
      recorded.sameParams (trailing.inTick.keepsBest keeps rfl)

/-- A tick starts from what the row says. -/
theorem Trailing.read (trailing : Trailing m params slPrice d) {ps : PositionStateRow} {price : ℚ}
    (held : d.db.positions.lookup m.key = some ps) (priced : OnGrid 12 price) :
    Current m d ⟨ps, price⟩ where
  untrailed := by
    intro protective
    cases trails : d.stop.trails with
    | none => rfl
    | some trailed => exact absurd protective (trailing.reached ps trailed held trails).1
  best := fun trailed trails => (trailing.reached ps trailed held trails).2
  left := by
    intro trail row again
    obtain rfl := Option.some.inj (held.symm.trans again)
    change ps.slType = some .trail at trail
    rw [trail]
    decide
  grid := by
    rcases updateBestPrice_cases m.side price ps.bestPrice with isPrice | isBest
    · change OnGrid 12 (updateBestPrice m.side price ps.bestPrice)
      rw [isPrice]
      exact priced
    · exact trailing.grid ps _ held isBest.symm

/-- The metrics of a tick, written. -/
theorem Trailing.ticked (trailing : Trailing m params slPrice d) {r : Reading} (now : ℕ)
    (here : d.phase = .ticking r) :
    Trailing m params slPrice
      { d with phase := .detecting r, db := d.db.monitored m.key (r.write m now) } := by
  have current : Current m d r := by
    have inTick := trailing.inTick
    rw [here] at inTick
    exact inTick
  have written : ∀ row', (d.db.monitored m.key (r.write m now)).positions.lookup m.key =
      some row' → ∃ row, d.db.positions.lookup m.key = some row ∧
        row'.bestPrice = some (r.newBest m.side) ∧ row'.slType = row.slType := by
    intro row' after
    rw [lookup_monitored, if_pos rfl] at after
    obtain ⟨row, before, rfl⟩ := Option.map_eq_some_iff.mp after
    exact ⟨row, before, congrArg some (numeric_of_onGrid current.grid), rfl⟩
  obtain ⟨trades, -, nextTradeId⟩ := monitored_trades d.db m.key (r.write m now)
  refine ⟨?_, ?_, fun row' best after known => ?_, fun row' trailed after trails => ?_,
    trailing.untrailed, trailing.trailed, ⟨?_, fun row' after => ?_⟩⟩
  · exact trailing.drawn.trans_eq nextTradeId.symm
  · exact (SameParams.of_trades trades m.tradeId trailing.drawn).trans trailing.known
  · obtain ⟨row, before, best', -⟩ := written row' after
    obtain rfl := Option.some.inj (best'.symm.trans known)
    exact current.grid
  · obtain ⟨row, before, best, type⟩ := written row' after
    exact ⟨type ▸ (trailing.reached row trailed before trails).1, _, best,
      current.reaches_newBest trails⟩
  · refine ⟨current.untrailed, current.best, fun trail row' after => ?_, current.grid⟩
    obtain ⟨row, before, -, type⟩ := written row' after
    exact type ▸ current.left trail row before
  · obtain ⟨row, -, best, -⟩ := written row' after
    exact best

/-- A stop that was chosen, from what the tick has read. -/
theorem Trailing.chose (trailing : Trailing m params slPrice d) {r : Reading}
    (here : d.phase = .deciding r) {stored : FsmParams} {new : NewStop} {instrumentInfo : Bool}
    (known : d.db.selectTradeFsmParams m.tradeId = some (some stored))
    (chosen : chooseStop m r stored instrumentInfo = some (some new)) :
    ChosenWell m params d new := by
  have inTick := trailing.inTick
  rw [here] at inTick
  obtain ⟨current, written⟩ := inTick
  obtain rfl := Option.some.inj (Option.some.inj (trailing.known.symm.trans known))
  obtain ⟨best, ⟨be, protective, -, -, quantized⟩ | ⟨trail, trails, -, quantized⟩⟩ :=
    chooseStop_some chosen
  · exact .inl ⟨be, current.untrailed protective, (quantizePrice_ok_iff.mp quantized).2⟩
  · refine .inr ⟨trail, ?_, fun trailed trails => ?_, fun row held => ⟨?_, ?_⟩⟩
    · rw [best]
      exact (quantizePrice_ok_iff.mp quantized).2
    · rw [best]
      exact current.reaches_newBest trails
    · rw [best]
      exact written row held
    · exact current.left trails row held

/-- A stop that was applied, whichever way the call ended. -/
theorem Trailing.applied (trailing : Trailing m params slPrice d) {new : NewStop}
    (here : d.phase = .setting new) {phase : TickPhase}
    (inTick : phase = .persisting new ∨ phase = .asleep) :
    Trailing m params slPrice { d with phase := phase, stop := d.stop.apply new } := by
  have well := trailing.inTick
  rw [here] at well
  have further : InTick m params { d with phase := phase, stop := d.stop.apply new } phase := by
    rcases inTick with rfl | rfl
    · rcases well with ⟨be, -⟩ | ⟨trail, -⟩
      · change new.slType ≠ .protective
        rw [be]
        decide
      · change new.slType ≠ .protective
        rw [trail]
        decide
    · trivial
  rcases well with ⟨be, -, priced⟩ | ⟨trail, priced, -, rows⟩
  · have untrailed : (d.stop.apply new).trails = none := by simp [ExchangeStop.apply, be]
    refine ⟨trailing.drawn, trailing.known, trailing.grid, fun row trailed _ trails => ?_,
      fun _ => .inr (congrArg some priced), fun trailed trails => ?_, further⟩
    · cases untrailed.symm.trans trails
    · cases untrailed.symm.trans trails
  · have trails : (d.stop.apply new).trails = some new.best := by simp [ExchangeStop.apply, trail]
    refine ⟨trailing.drawn, trailing.known, trailing.grid, fun row trailed held same => ?_,
      fun untrailed => ?_, fun trailed same => ?_, further⟩
    · obtain rfl := Option.some.inj (trails.symm.trans same)
      exact ⟨(rows row held).2, new.best, (rows row held).1, .refl m.side new.best⟩
    · cases trails.symm.trans untrailed
    · obtain rfl := Option.some.inj (trails.symm.trans same)
      exact congrArg some priced

theorem Trailing.rephase (trailing : Trailing m params slPrice d) {phase : TickPhase}
    (inTick : InTick m params d phase) : Trailing m params slPrice { d with phase := phase } :=
  trailing.keepsBest (.of_positions rfl) rfl le_rfl (.of_trades rfl)
    (inTick.keepsBest (.of_positions rfl) rfl)

theorem Trailing.move (trailing : Trailing m params slPrice d) {trailPct : ℚ} {move : MonitorMove}
    (farEnough : FarEnough m trailPct d (.moves move)) :
    Trailing m params slPrice (monitorStep m move d) := by
  have moved := monitorStep_cases m move d
  generalize monitorStep m move d = d' at moved ⊢
  cases moved with
  | nothing => exact trailing
  | exited | raised | rested | gaveUp => exact trailing.rephase trivial
  | read price asleep held call =>
      subst call
      exact trailing.rephase (trailing.read held farEnough)
  | ticked now here => exact trailing.ticked now here
  | undetected here =>
      have inTick := trailing.inTick
      rw [here] at inTick
      exact trailing.rephase inTick
  | detected now here =>
      have inTick := trailing.inTick
      rw [here] at inTick
      exact trailing.keepsBest (.of_positions rfl) rfl le_rfl (.of_trades rfl)
        (InTick.keepsBest inTick (.of_positions rfl) rfl)
  | chose here known chosen => exact trailing.rephase (trailing.chose here known chosen)
  | set here => exact trailing.applied here (.inl rfl)
  | lost here => exact trailing.applied here (.inr rfl)
  | @persisted new now here =>
      have moved : new.slType ≠ .protective := by
        have inTick := trailing.inTick
        rw [here] at inTick
        exact inTick
      obtain ⟨trades, -, nextTradeId⟩ :=
        monitored_trades d.db m.key (.slMoved new.slPrice new.slType now)
      refine trailing.keepsBest (fun row' after => ?_) rfl nextTradeId.ge (.of_trades trades)
        trivial
      rw [lookup_monitored, if_pos rfl] at after
      obtain ⟨row, before, rfl⟩ := Option.map_eq_some_iff.mp after
      exact ⟨row, before, rfl, .inr fun same => moved (Option.some.inj same)⟩
  | marked here =>
      exact trailing.keepsBest (.of_positions rfl) rfl le_rfl
        (.of_rewrite (keepsIdentity_enter _) (fun _ => rfl) rfl) trivial

theorem Trailing.step (trailing : Trailing m params slPrice d) {trailPct : ℚ} {s : DeskStep}
    (farEnough : FarEnough m trailPct d s) : Trailing m params slPrice (deskStep m s d) := by
  cases s with
  | moves move => exact trailing.move farEnough
  | fills botId delivery => exact trailing.fill botId delivery

/-- What the invariant says of the stop that is about to be set. -/
theorem Trailing.tightens (trailing : Trailing m params slPrice d) (positive : 0 < m.tickSize)
    (protective : slPrice = onTick m.side m.tickSize slPrice)
    (breakeven : Reaches m.side slPrice (breakevenStop m params))
    (along : TrailsAlong m.side params.trailPct) {s : DeskStep}
    (farEnough : FarEnough m params.trailPct d s) : Tightens m d s := by
  rintro outcome new inForce rfl here inForceNow
  have well := trailing.inTick
  rw [here] at well
  rcases well with ⟨-, untrailed, priced⟩ | ⟨trail, priced, reaches, -⟩
  · -- break-even replaces the protective stop, or itself
    rw [priced]
    rcases trailing.untrailed untrailed with isProtective | isBreakeven
    · obtain rfl := Option.some.inj (isProtective.symm.trans inForceNow)
      exact breakeven
    · obtain rfl := Option.some.inj (isBreakeven.symm.trans inForceNow)
      exact .refl m.side _
  · rw [priced]
    cases trails : d.stop.trails with
    | none =>
        -- the first trailing stop
        have ahead := (farEnough new inForce here trail trails inForceNow).onTick positive
        have kept : onTick m.side m.tickSize inForce = inForce := by
          rcases trailing.untrailed trails with isProtective | isBreakeven
          · obtain rfl := Option.some.inj (isProtective.symm.trans inForceNow)
            exact protective.symm
          · obtain rfl := Option.some.inj (isBreakeven.symm.trans inForceNow)
            exact onTick_onTick positive _
        rwa [kept] at ahead
    | some trailed =>
        obtain rfl := Option.some.inj ((trailing.trailed trailed trails).symm.trans inForceNow)
        exact ((reaches trailed trails).computeTrailSlPrice along).onTick positive

end Steps

/-! ## Every run from a placement -/

/-- The parameters a request asks for. -/
def Placed.params (p : Placed) : FsmParams :=
  ⟨p.request.beTrigger, p.request.beSlLevel, p.request.trailPct⟩

theorem selectTradeFsmParams_afterPlacement {db : Db} (integrity : Integrity db) (p : Placed)
    (slPrice tpPrice notionalUsd : ℚ) (slSetAt : ℕ) :
    (db.afterPlacement p slPrice tpPrice notionalUsd slSetAt).selectTradeFsmParams db.nextTradeId =
      some (some p.params) := by
  have unmatched : db.trades.find? (·.id == db.nextTradeId) = none :=
    List.find?_eq_none.mpr fun trade member => by simp [integrity.unmatched trade member]
  simp only [Db.selectTradeFsmParams, Db.afterPlacement]
  rw [updateWhere_append_fresh integrity.unmatched (by simp), List.find?_append, unmatched]
  simp [TradeRow.enter, Placed.trade, Placed.params]

theorem Trailing.initial {db : Db} (integrity : Integrity db) (p : Placed)
    (slPrice tpPrice notionalUsd tickSize : ℚ) (slSetAt : ℕ) :
    Trailing (p.monitor db tickSize) p.params slPrice
      (p.desk db slPrice tpPrice notionalUsd slSetAt) where
  drawn := Nat.lt_succ_self _
  known := selectTradeFsmParams_afterPlacement integrity p slPrice tpPrice notionalUsd slSetAt
  grid := by
    intro row best held known
    rcases lookup_insert_cases held with ⟨-, rfl⟩ | ⟨different, -⟩
    · cases known
    · exact absurd rfl different
  reached := fun row trailed _ trails => nomatch trails
  untrailed := fun _ => .inl rfl
  trailed := fun trailed trails => nomatch trails
  inTick := trivial

/-- **The stop never loosens**, from the placement on and over every run of ticks and fills, when
the break-even stop is not looser than the protective one, the trailing distance moves the stop
with the price, and every step is far enough. -/
theorem run_tightens {history : List Step} {p : Placed}
    {slPrice tpPrice notionalUsd tickSize : ℚ} {slSetAt : ℕ}
    (protective : quantizePrice
      (computeSlPrice p.request.side p.fillPrice p.request.slPct) p.request.side tickSize =
        .ok slPrice)
    (breakeven : Reaches p.request.side slPrice
      (breakevenStop (p.monitor (run step {} history) tickSize) p.params))
    (along : TrailsAlong p.request.side p.request.trailPct) {steps : List DeskStep}
    (farEnough : RunGuarded
      (FarEnough (p.monitor (run step {} history) tickSize) p.request.trailPct)
      (deskStep (p.monitor (run step {} history) tickSize))
      (p.desk (run step {} history) slPrice tpPrice notionalUsd slSetAt) steps) :
    RunGuarded (Tightens (p.monitor (run step {} history) tickSize))
      (deskStep (p.monitor (run step {} history) tickSize))
      (p.desk (run step {} history) slPrice tpPrice notionalUsd slSetAt) steps := by
  obtain ⟨positive, rounded⟩ := quantizePrice_ok_iff.mp protective
  have onGrid : slPrice = onTick p.request.side tickSize slPrice := by
    rw [rounded, onTick_onTick positive]
  exact runGuarded_of_invariant
    (Trailing (p.monitor (run step {} history) tickSize) p.params slPrice)
    (fun _ _ trailing farEnough => trailing.step farEnough)
    (fun _ _ trailing farEnough => trailing.tightens positive onGrid breakeven along farEnough)
    (.initial (run_integrity history) p slPrice tpPrice notionalUsd tickSize slSetAt) farEnough

/-! ## A first trailing stop -/

/-- Break-even at 104, a take-profit of half of the position, and a trailing stop at 105. -/
def takeProfitRun : List DeskStep :=
  [.moves (.reads 104), .moves (.ticks 4 true), .moves (.detects .held 4 true),
   .moves (.decides true), .moves (.sets .returns), .moves (.persists 4 true),
   .moves (.marks true),
   .fills "bot" (longFill "e2" "tp" .sell 5 5),
   .moves (.reads 105), .moves (.ticks 6 true), .moves (.detects .held 6 true),
   .moves (.decides true)]

/-- The tick's call to the exchange. -/
def setsStop : DeskStep := .moves (.sets .returns)

theorem takeProfitRun_tightens :
    RunGuarded (Tightens (placedLong.monitor {} (1 / 10)))
      (deskStep (placedLong.monitor {} (1 / 10))) (placedLong.desk {} 98 104 1000 3)
      (takeProfitRun ++ [setsStop]) := by
  have along : TrailsAlong placedLong.request.side placedLong.request.trailPct := by
    norm_num [TrailsAlong, placedLong]
  exact @run_tightens [] placedLong 98 104 1000 (1 / 10) 3 (by decide +kernel)
    (by decide +kernel) along _ (by decide +kernel)

/-- The long with a trailing distance of five percent. -/
def looseLong : Placed :=
  { placedLong with request := { placedLong.request with trailPct := 1 / 20 } }

/-- **A trailing stop loosens**: break-even stands at 100.1 when the take-profit is filled, and the
first trailing stop is set at 99.7. -/
theorem looseTrail_loosens :
    ¬ RunGuarded (Tightens (looseLong.monitor {} (1 / 10)))
      (deskStep (looseLong.monitor {} (1 / 10))) (looseLong.desk {} 98 104 1000 3)
      (takeProfitRun ++ [setsStop]) := by
  intro tightens
  have looser := (runGuarded_append.mp tightens).2.1 .returns ⟨997 / 10, .trail, 105⟩ (1001 / 10)
    rfl
    (by decide +kernel) (by decide +kernel)
  exact absurd looser (by decide +kernel)

end Scalper.Execution
