import Scalper.Execution.Trailing

/-!
# Whether the trailing stop catches up

The trail audit relies on the monitor: what the exchange has is to be the stop of the best price,
and if it is not, the next tick sets it again.  The monitor writes a new best price to the row
before it calls the exchange, and it trails only in a tick that improves on the row's.  So the stop
of a best price whose call failed, or that was written before the trade began to trail, is not set
until the price improves once more.

A `Watch` follows a desk with the best price seen and with whether its stop was applied.
`run_catchesUp` shows that after every tick of a trailing trade the stop in force is the one of the
best price seen, in every run in which a trailing tick either improves on the best price or finds
its stop applied.
-/

set_option autoImplicit false

namespace Scalper.Execution

open Scalper.Lib Scalper.Exchange

/-- A desk with the history of its monitor: the best price that was seen, and whether its trailing
stop was applied. -/
structure Watch where
  desk : Desk
  seen : Option ℚ := none
  applied : Bool := false

section Watching

variable (m : Monitor)

/-- The best price, when the price of a tick is written. -/
def sees (phase : TickPhase) (s : DeskStep) (seen : Option ℚ) : Option ℚ :=
  match phase, s with
  | .ticking r, .moves (.ticks _ true) => some (updateBestPrice m.side r.price seen)
  | _, _ => seen

/-- A new best price has no stop yet; a stop that is applied is a trailing one or not. -/
def applies (phase : TickPhase) (s : DeskStep) (seen : Option ℚ) (applied : Bool) : Bool :=
  match phase, s with
  | .ticking _, .moves (.ticks _ true) => applied && decide (sees m phase s seen = seen)
  | .setting new, .moves (.sets .returns) | .setting new, .moves (.sets .raisesApplied) =>
      decide (new.slType = .trail)
  | _, _ => applied

def followStep (s : DeskStep) (w : Watch) : Watch where
  desk := deskStep m s w.desk
  seen := sees m w.desk.phase s w.seen
  applied := applies m w.desk.phase s w.seen w.applied

/-- A tick of a trailing trade comes to its end: it needed no stop, or set one. -/
def TrailTickEnds (d : Desk) (s : DeskStep) : Prop :=
  (deskStep m s d).phase = .asleep ∧
    ((∃ r, d.phase = .deciding r ∧ r.ps.slType = some .trail) ∨ d.phase = .marking .trail)

variable (trailPct : ℚ)

/-- The stop in force is the trailing stop of a best price, on the tick grid. -/
def Trails (best : ℚ) (d : Desk) : Prop :=
  ∃ slPrice, quantizePrice (computeTrailSlPrice m.side best trailPct) m.side m.tickSize =
    .ok slPrice ∧ d.stop.inForce = some slPrice

/-- After a tick of a trailing trade, the stop is the one of the best price seen. -/
def CatchesUp (w : Watch) (s : DeskStep) : Prop :=
  TrailTickEnds m w.desk s →
    ∃ best, (followStep m s w).seen = some best ∧ Trails m trailPct best (followStep m s w).desk

/-- A best price is written as it is, and a trailing tick improves on the one of the row unless the
stop of that one was applied. -/
def Renews (w : Watch) : DeskStep → Prop
  | .moves (.ticks _ _) => ∀ r, w.desk.phase = .ticking r → OnGrid 12 (r.newBest m.side)
  | .moves (.decides _) => ∀ r, w.desk.phase = .deciding r → r.ps.slType = some .trail →
      (∃ best ∈ r.ps.bestPrice, r.newBest m.side ≠ best) ∨ w.applied = true
  | _ => True

instance Renews.decidable (w : Watch) : ∀ s : DeskStep, Decidable (Renews m w s)
  | .moves (.ticks _ _) =>
      match phase : w.desk.phase with
      | .ticking r =>
          decidable_of_iff (OnGrid 12 (r.newBest m.side))
            ⟨fun grid r' here => by cases phase.symm.trans here; exact grid,
              fun grids => grids r phase⟩
      | .asleep | .detecting _ | .deciding _ | .setting _ | .persisting _ | .marking _ | .returned
      | .raised => isTrue fun _ here => nomatch phase.symm.trans here
  | .moves (.decides _) =>
      match phase : w.desk.phase with
      | .deciding r =>
          decidable_of_iff (r.ps.slType = some .trail →
              (∃ best ∈ r.ps.bestPrice, r.newBest m.side ≠ best) ∨ w.applied = true)
            ⟨fun renews r' here => by cases phase.symm.trans here; exact renews,
              fun renews => renews r phase⟩
      | .asleep | .ticking _ | .detecting _ | .setting _ | .persisting _ | .marking _ | .returned
      | .raised => isTrue fun _ here => nomatch phase.symm.trans here
  | .moves (.reads _) | .moves .readFails | .moves (.detects _ _ _) | .moves (.sets _)
  | .moves (.persists _ _) | .moves (.marks _) | .fills _ _ => isTrue trivial

end Watching

/-! ## The invariant -/

section Invariant

variable (m : Monitor) (params : FsmParams)

/-- What the history says at each place of a tick. -/
def InHistory (seen : Option ℚ) (applied : Bool) : TickPhase → Prop
  | .ticking r => r.ps.bestPrice = seen
  | .detecting r | .deciding r => seen = some (r.newBest m.side)
  | .setting new => new.slType = .trail → seen = some new.best ∧
      quantizePrice (computeTrailSlPrice m.side new.best params.trailPct) m.side m.tickSize =
        .ok new.slPrice
  | .persisting new => new.slType = .trail → applied = true
  | .marking slType => slType = .trail → applied = true
  | .asleep | .returned | .raised => True

/-- The row has the best price seen, and its stop is in force if it was applied. -/
structure CatchUp (w : Watch) : Prop where
  drawn : m.tradeId < w.desk.db.nextTradeId
  known : w.desk.db.selectTradeFsmParams m.tradeId = some (some params)
  recorded : ∀ row, w.desk.db.positions.lookup m.key = some row → row.bestPrice = w.seen
  applied : w.applied = true → ∃ best, w.seen = some best ∧ Trails m params.trailPct best w.desk
  inHistory : InHistory m params w.seen w.applied w.desk.phase

end Invariant

section Steps

variable {m : Monitor} {params : FsmParams} {w : Watch} {d : Desk} {move : MonitorMove}

variable (m move) in
/-- The move of a tick that has read. -/
theorem monitorStep_ticking {r : Reading} (here : d.phase = .ticking r) :
    (∃ now, move = .ticks now true ∧ monitorStep m move d =
        { d with phase := .detecting r, db := d.db.monitored m.key (r.write m now) }) ∨
      (∀ now, move ≠ .ticks now true) ∧
        (monitorStep m move d = d ∨ monitorStep m move d = { d with phase := .raised }) := by
  cases move with
  | ticks now commits =>
      cases commits with
      | true =>
          refine .inl ⟨now, rfl, ?_⟩
          simp only [monitorStep, here, if_true, transaction_monitored]
      | false =>
          refine .inr ⟨fun _ => by simp, .inr ?_⟩
          simp only [monitorStep, here, Bool.false_eq_true, if_false]
  | reads | readFails | detects | decides | sets | persists | marks =>
      exact .inr ⟨fun _ => MonitorMove.noConfusion, .inl (by simp only [monitorStep, here])⟩

variable (m move) in
/-- The move of a tick that has chosen a stop. -/
theorem monitorStep_setting {new : NewStop} (here : d.phase = .setting new) :
    (move = .sets .returns ∧
        monitorStep m move d = { d with phase := .persisting new, stop := d.stop.apply new }) ∨
      (move = .sets .raisesApplied ∧
        monitorStep m move d = { d with phase := .asleep, stop := d.stop.apply new }) ∨
      (∀ outcome, move = .sets outcome → outcome = .raises) ∧
        (monitorStep m move d = d ∨ monitorStep m move d = { d with phase := .asleep }) := by
  cases move with
  | sets outcome =>
      cases outcome with
      | returns => exact .inl ⟨rfl, by simp only [monitorStep, here]⟩
      | raisesApplied => exact .inr (.inl ⟨rfl, by simp only [monitorStep, here]⟩)
      | raises =>
          refine .inr (.inr ⟨fun outcome same => (MonitorMove.sets.inj same).symm, .inr ?_⟩)
          simp only [monitorStep, here]
  | reads | readFails | ticks | detects | decides | persists | marks =>
      exact .inr (.inr ⟨fun _ => MonitorMove.noConfusion, .inl (by simp only [monitorStep, here])⟩)

/-- Outside of the two places the history stays. -/
theorem followStep_quiet {s : DeskStep} (reads : ∀ r, w.desk.phase ≠ .ticking r)
    (sets : ∀ new, w.desk.phase ≠ .setting new) :
    followStep m s w = { w with desk := deskStep m s w.desk } := by
  have seen : sees m w.desk.phase s w.seen = w.seen := by
    unfold sees
    split
    · next r _ here => exact absurd here (reads r)
    · rfl
  have applied : applies m w.desk.phase s w.seen w.applied = w.applied := by
    unfold applies
    split
    · next r _ here => exact absurd here (reads r)
    · next new here => exact absurd here (sets new)
    · next new here => exact absurd here (sets new)
    · rfl
  rw [followStep, seen, applied]

/-- A step that leaves the stop and the best price alone. -/
theorem CatchUp.keeps (catchUp : CatchUp m params w) {desk : Desk}
    (stop : desk.stop = w.desk.stop)
    (keeps : ∀ row', desk.db.positions.lookup m.key = some row' →
      ∃ row, w.desk.db.positions.lookup m.key = some row ∧ row'.bestPrice = row.bestPrice)
    (drawn : w.desk.db.nextTradeId ≤ desk.db.nextTradeId) (same : SameParams w.desk.db desk.db)
    (inHistory : InHistory m params w.seen w.applied desk.phase) :
    CatchUp m params { w with desk := desk } where
  drawn := catchUp.drawn.trans_le drawn
  known := (same m.tradeId catchUp.drawn).trans catchUp.known
  recorded := by
    intro row' after
    obtain ⟨row, before, best⟩ := keeps row' after
    exact best.trans (catchUp.recorded row before)
  applied := by
    intro applied
    obtain ⟨best, seen, slPrice, quantized, inForce⟩ := catchUp.applied applied
    exact ⟨best, seen, slPrice, quantized, stop ▸ inForce⟩
  inHistory := inHistory

/-- A move to another place of the tick. -/
theorem CatchUp.rephase (catchUp : CatchUp m params w) {phase : TickPhase}
    (inHistory : InHistory m params w.seen w.applied phase) :
    CatchUp m params { w with desk := { w.desk with phase := phase } } :=
  catchUp.keeps rfl (fun row' after => ⟨row', after, rfl⟩) le_rfl (.of_trades rfl) inHistory

theorem CatchUp.fill (catchUp : CatchUp m params w) (botId : String) (delivery : Delivery) :
    CatchUp m params (followStep m (.fills botId delivery) w) := by
  have quiet : followStep m (.fills botId delivery) w =
      { w with desk := { w.desk with db := step (.fill botId delivery) w.desk.db } } := by
    unfold followStep sees applies
    cases w.desk.phase <;> rfl
  rw [quiet]
  rcases step_fill_cases botId delivery w.desk.db with same | ⟨closed, recorded⟩
  · rw [same]
    exact catchUp
  · refine catchUp.keeps rfl (fun row' after => ?_)
      (step_change (.fill botId delivery) w.desk.db).nextTradeId_le recorded.sameParams
      catchUp.inHistory
    obtain ⟨row, before, best, -⟩ := recorded.keepsBest m.key row' after
    exact ⟨row, before, best⟩

/-- A tick writes its best price. -/
theorem CatchUp.ticked (catchUp : CatchUp m params w) {r : Reading} (now : ℕ)
    (grid : OnGrid 12 (r.newBest m.side)) :
    CatchUp m params
      { desk :=
          { w.desk with phase := .detecting r, db := w.desk.db.monitored m.key (r.write m now) }
        seen := some (r.newBest m.side)
        applied := w.applied && decide (some (r.newBest m.side) = w.seen) } where
  drawn := catchUp.drawn.trans_eq (monitored_trades w.desk.db m.key _).2.2.symm
  known := (SameParams.of_trades (monitored_trades w.desk.db m.key _).1 m.tradeId
    catchUp.drawn).trans catchUp.known
  recorded := by
    intro row' after
    change (w.desk.db.monitored m.key (r.write m now)).positions.lookup m.key = some row' at after
    rw [lookup_monitored, if_pos rfl] at after
    obtain ⟨row, before, rfl⟩ := Option.map_eq_some_iff.mp after
    exact congrArg some (numeric_of_onGrid grid)
  applied := by
    intro applied
    rw [Bool.and_eq_true, decide_eq_true_eq] at applied
    rw [applied.2]
    exact catchUp.applied applied.1
  inHistory := rfl

/-- A stop of the tick is applied. -/
theorem CatchUp.set (catchUp : CatchUp m params w) {new : NewStop}
    (here : w.desk.phase = .setting new) {phase : TickPhase}
    (next : phase = .persisting new ∨ phase = .asleep) :
    CatchUp m params
      { desk := { w.desk with phase := phase, stop := w.desk.stop.apply new }
        seen := w.seen
        applied := decide (new.slType = .trail) } where
  drawn := catchUp.drawn
  known := catchUp.known
  recorded := catchUp.recorded
  applied := by
    intro trail
    have inHistory := catchUp.inHistory
    rw [here] at inHistory
    obtain ⟨seen, quantized⟩ := inHistory (decide_eq_true_eq.mp trail)
    exact ⟨new.best, seen, new.slPrice, quantized, rfl⟩
  inHistory := by
    rcases next with rfl | rfl
    · exact fun trail => decide_eq_true trail
    · trivial

/-- A move at a place where the history stays. -/
theorem CatchUp.moved (catchUp : CatchUp m params w) {desk : Desk} {r : MonitorMove}
    (moved : Moved m r w.desk desk) (reads : ∀ r, w.desk.phase ≠ .ticking r)
    (sets : ∀ new, w.desk.phase ≠ .setting new) : CatchUp m params { w with desk := desk } := by
  have inHistory := catchUp.inHistory
  cases moved with
  | nothing => exact catchUp
  | exited | raised | rested => exact catchUp.rephase trivial
  | read price asleep held => exact catchUp.rephase (catchUp.recorded _ held)
  | ticked now here => exact absurd here (reads _)
  | undetected here =>
      rw [here] at inHistory
      exact catchUp.rephase inHistory
  | detected now here =>
      rw [here] at inHistory
      exact catchUp.keeps rfl (fun row' after => ⟨row', after, rfl⟩) le_rfl (.of_trades rfl)
        inHistory
  | @chose r stored new _ here known chosen =>
      rw [here] at inHistory
      obtain rfl := Option.some.inj (Option.some.inj (catchUp.known.symm.trans known))
      refine catchUp.rephase fun trail => ?_
      obtain ⟨best, ⟨be, -⟩ | ⟨-, -, -, quantized⟩⟩ := chooseStop_some chosen
      · cases be.symm.trans trail
      · exact best ▸ ⟨inHistory, quantized⟩
  | set here | gaveUp here | lost here => exact absurd here (sets _)
  | @persisted new now here =>
      rw [here] at inHistory
      obtain ⟨trades, -, nextTradeId⟩ :=
        monitored_trades w.desk.db m.key (.slMoved new.slPrice new.slType now)
      refine catchUp.keeps rfl (fun row' after => ?_) nextTradeId.ge (.of_trades trades) inHistory
      change (w.desk.db.monitored m.key _).positions.lookup m.key = some row' at after
      rw [lookup_monitored, if_pos rfl] at after
      obtain ⟨row, before, rfl⟩ := Option.map_eq_some_iff.mp after
      exact ⟨row, before, rfl⟩
  | marked here =>
      exact catchUp.keeps rfl (fun row' after => ⟨row', after, rfl⟩) le_rfl
        (.of_rewrite (keepsIdentity_enter _) (fun _ => rfl) rfl) trivial

/-- At a tick that has read. -/
theorem CatchUp.stepTicking (catchUp : CatchUp m params w) {r : Reading}
    (here : w.desk.phase = .ticking r) (renews : Renews m w (.moves move)) :
    CatchUp m params (followStep m (.moves move) w) := by
  have inHistory := catchUp.inHistory
  rw [here] at inHistory
  rcases monitorStep_ticking m move here with ⟨now, rfl, ticked⟩ | ⟨other, quiet⟩
  · have best : updateBestPrice m.side r.price w.seen = r.newBest m.side := by
      rw [← inHistory, Reading.newBest]
    have followed : followStep m (.moves (.ticks now true)) w =
        { desk := monitorStep m (.ticks now true) w.desk
          seen := some (r.newBest m.side)
          applied := w.applied && decide (some (r.newBest m.side) = w.seen) } := by
      simp only [followStep, sees, applies, here, deskStep, best]
    rw [followed, ticked]
    exact catchUp.ticked now (renews r here)
  · have followed : followStep m (.moves move) w =
        { w with desk := monitorStep m move w.desk } := by
      unfold followStep sees applies
      cases move with
      | ticks now commits =>
          cases commits with
          | true => exact absurd rfl (other now)
          | false => simp only [here, deskStep]
      | reads | readFails | detects | decides | sets | persists | marks =>
          simp only [here, deskStep]
    rw [followed]
    rcases quiet with same | raised
    · rw [same]
      exact catchUp
    · rw [raised]
      exact catchUp.rephase trivial

/-- At a tick that has chosen a stop. -/
theorem CatchUp.stepSetting (catchUp : CatchUp m params w) {new : NewStop}
    (here : w.desk.phase = .setting new) : CatchUp m params (followStep m (.moves move) w) := by
  rcases monitorStep_setting m move here with ⟨rfl, set⟩ | ⟨rfl, lost⟩ | ⟨other, quiet⟩
  · simp only [followStep, sees, applies, here, deskStep, set]
    exact catchUp.set here (.inl rfl)
  · simp only [followStep, sees, applies, here, deskStep, lost]
    exact catchUp.set here (.inr rfl)
  · have followed : followStep m (.moves move) w =
        { w with desk := monitorStep m move w.desk } := by
      unfold followStep sees applies
      cases move with
      | sets outcome =>
          obtain rfl := other outcome rfl
          simp only [here, deskStep]
      | reads | readFails | ticks | detects | decides | persists | marks =>
          simp only [here, deskStep]
    rw [followed]
    rcases quiet with same | gaveUp
    · rw [same]
      exact catchUp
    · rw [gaveUp]
      exact catchUp.rephase trivial

/-- Every step that renews the stop keeps the history. -/
theorem CatchUp.step (catchUp : CatchUp m params w) {s : DeskStep} (renews : Renews m w s) :
    CatchUp m params (followStep m s w) := by
  cases s with
  | fills botId delivery => exact catchUp.fill botId delivery
  | moves move =>
      by_cases reading : ∃ r, w.desk.phase = .ticking r
      · obtain ⟨r, here⟩ := reading
        exact catchUp.stepTicking here renews
      · by_cases setting : ∃ new, w.desk.phase = .setting new
        · obtain ⟨new, here⟩ := setting
          exact catchUp.stepSetting here
        · rw [followStep_quiet (not_exists.mp reading) (not_exists.mp setting)]
          exact catchUp.moved (monitorStep_cases m move w.desk) (not_exists.mp reading)
            (not_exists.mp setting)

variable (params) in
/-- A trailing tick that improves on the best price chooses a stop, or raises. -/
theorem chooseStop_improves {r : Reading} {best : ℚ} (instrumentInfo : Bool)
    (trail : r.ps.slType = some .trail) (known : r.ps.bestPrice = some best)
    (improved : r.newBest m.side ≠ best) : chooseStop m r params instrumentInfo ≠ some none := by
  have unprotected : r.ps.slType ≠ some .protective := by
    rw [trail]
    decide
  have moves : r.ps.slType = some .trail ∧ r.ps.bestPrice.isSome = true ∧
      some (r.newBest m.side) ≠ r.ps.bestPrice := by
    rw [known]
    exact ⟨trail, rfl, fun same => improved (Option.some.inj same)⟩
  unfold chooseStop
  dsimp only
  rw [if_neg unprotected, if_pos moves]
  split
  · exact fun chosen => Option.some_ne_none _ (Option.some.inj chosen)
  · exact (Option.some_ne_none _).symm

/-- A trailing tick that needs no stop finds its stop applied. -/
theorem CatchUp.applied_of_rested (catchUp : CatchUp m params w) {r : Reading} {s : DeskStep}
    (here : w.desk.phase = .deciding r) (trail : r.ps.slType = some .trail)
    (renews : Renews m w s) (rested : (deskStep m s w.desk).phase = .asleep) :
    w.applied = true := by
  cases s with
  | fills botId delivery =>
      cases here.symm.trans rested
  | moves move =>
      change (monitorStep m move w.desk).phase = .asleep at rested
      cases move with
      | decides instrumentInfo =>
          rcases renews r here trail with ⟨best, known, improved⟩ | applied
          · exfalso
            have chooses := chooseStop_improves params instrumentInfo trail known improved
            simp only [monitorStep, here, catchUp.known] at rested
            split at rested
            · cases rested
            · next none_chosen => exact chooses none_chosen
            · cases rested
          · exact applied
      | reads | readFails | ticks | detects | sets | persists | marks =>
          simp only [monitorStep, here] at rested
          cases rested

/-- What the history says when a trailing tick ends. -/
theorem CatchUp.catchesUp (catchUp : CatchUp m params w) {s : DeskStep} (renews : Renews m w s) :
    CatchesUp m params.trailPct w s := by
  rintro ⟨rested, ended⟩
  have applied : w.applied = true := by
    rcases ended with ⟨r, here, trail⟩ | here
    · exact catchUp.applied_of_rested here trail renews rested
    · have inHistory := catchUp.inHistory
      rw [here] at inHistory
      exact inHistory rfl
  have after := (catchUp.step renews).applied
  have quiet : followStep m s w = { w with desk := deskStep m s w.desk } := by
    rcases ended with ⟨r, here, -⟩ | here
    · exact followStep_quiet (by simp [here]) (by simp [here])
    · exact followStep_quiet (by simp [here]) (by simp [here])
  rw [quiet] at after ⊢
  exact after applied

end Steps

/-! ## Every run from a placement -/

/-- The desk of a placement, with nothing seen. -/
def Placed.watch (p : Placed) (db : Db) (slPrice tpPrice notionalUsd : ℚ) (slSetAt : ℕ)
    (stop : ExchangeStop) : Watch where
  desk := { p.desk db slPrice tpPrice notionalUsd slSetAt with stop := stop }

theorem CatchUp.initial {db : Db} (integrity : Integrity db) (p : Placed)
    (slPrice tpPrice notionalUsd tickSize : ℚ) (slSetAt : ℕ) (stop : ExchangeStop) :
    CatchUp (p.monitor db tickSize) p.params
      (p.watch db slPrice tpPrice notionalUsd slSetAt stop) where
  drawn := Nat.lt_succ_self _
  known := selectTradeFsmParams_afterPlacement integrity p slPrice tpPrice notionalUsd slSetAt
  recorded := by
    intro row held
    rcases lookup_insert_cases held with ⟨-, rfl⟩ | ⟨different, -⟩
    · rfl
    · exact absurd rfl different
  applied := fun applied => absurd applied Bool.false_ne_true
  inHistory := trivial

/-- **When the trail catches up.** From a placement on, whatever prices, fills and failures follow,
after every tick of a trailing trade that needed no stop or set one, the stop in force is the one of
the best price seen, if every trailing tick either improves on the best price or finds its stop
applied, and best prices have the decimals of their column. -/
theorem run_catchesUp {history : List Step} {p : Placed} {slPrice tpPrice notionalUsd tickSize : ℚ}
    {slSetAt : ℕ} {stop : ExchangeStop} {steps : List DeskStep}
    (renews : RunGuarded (Renews (p.monitor (run step {} history) tickSize))
      (followStep (p.monitor (run step {} history) tickSize))
      (p.watch (run step {} history) slPrice tpPrice notionalUsd slSetAt stop) steps) :
    RunGuarded (CatchesUp (p.monitor (run step {} history) tickSize) p.request.trailPct)
      (followStep (p.monitor (run step {} history) tickSize))
      (p.watch (run step {} history) slPrice tpPrice notionalUsd slSetAt stop) steps :=
  runGuarded_of_invariant (CatchUp (p.monitor (run step {} history) tickSize) p.params)
    (fun _ _ catchUp renews => catchUp.step renews)
    (fun _ _ catchUp renews => catchUp.catchesUp renews)
    (.initial (run_integrity history) p slPrice tpPrice notionalUsd tickSize slSetAt stop) renews

/-- The long from its placement on, with its protective stop. -/
def longWatch : Watch :=
  placedLong.watch {} 98 104 1000 3 { inForce := some 98, ours := some 98 }

/-- The tick after the take-profit improves on the best price and sets its trailing stop. -/
def trailingTick : List DeskStep :=
  takeProfitRun ++ [.moves (.sets .returns), .moves (.persists 6 true), .moves (.marks true)]

theorem trailingTick_catchesUp :
    RunGuarded (CatchesUp (placedLong.monitor {} (1 / 10)) (1 / 100))
      (followStep (placedLong.monitor {} (1 / 10))) longWatch trailingTick :=
  @run_catchesUp [] placedLong 98 104 1000 (1 / 10) 3 _ trailingTick (by decide +kernel)

/-- A tick at the best price, after the take-profit. -/
def lateTick : List DeskStep :=
  takeProfitRun.take 8 ++
    [.moves (.reads 104), .moves (.ticks 6 true), .moves (.detects .held 6 true)]

/-- What that tick has read. -/
def lateReading : Reading where
  ps :=
    { tradeId := 1, side := .buy, entryPrice := 100, qty := 10, remainingQty := 5,
      slPrice := some (1001 / 10), tpPrice := some 104, slType := some .trail,
      bestPrice := some 104, mfePrice := some 104, maePrice := some 104, runningPnl := 40,
      updatedAt := 5 }
  price := 104

/-- The best price of 104 was seen while the stop was at break-even.  The tick after the
take-profit sees it again and leaves the stop there. -/
theorem lateTick_leaves_stop :
    ¬ RunGuarded (CatchesUp (placedLong.monitor {} (1 / 10)) (1 / 100))
      (followStep (placedLong.monitor {} (1 / 10))) longWatch
      (lateTick ++ [.moves (.decides true)]) := by
  intro catchesUp
  have last := (runGuarded_append.mp catchesUp).2.1
  obtain ⟨best, seen, slPrice, quantized, inForce⟩ :=
    last ⟨by decide +kernel, .inl ⟨lateReading, by decide +kernel, rfl⟩⟩
  have best_eq : some 104 = some best := by
    rw [← seen]
    decide +kernel
  obtain rfl := Option.some.inj best_eq
  have slPrice_eq : some (1001 / 10) = some slPrice := by
    rw [← inForce]
    decide +kernel
  obtain rfl := Option.some.inj slPrice_eq
  revert quantized
  decide +kernel

end Scalper.Execution
