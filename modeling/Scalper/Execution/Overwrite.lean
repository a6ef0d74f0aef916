import Scalper.Execution.Trailing

/-!
# Detecting that someone else moved the stop

Each tick compares the stop on the exchange with `sl_price` of the row it has read, and writes a
`sl_overwrite_detected` event when they differ.  The comparison means what it says as long as the
row holds the last stop of ours that the exchange applied.  Two writes keep that agreement, the
call to the exchange and the row's update after it, and either can be left alone: a call that
raises although it was applied is not followed by the update, and a failed update, or a crash
before it, ends the task.

A post is a trade's desk with the monitor that is on it; besides the moves and the fills, someone
else may set the exchange's stop, and the service may restart, which starts the monitor again from
the row.  `run_detects` shows both halves of the guarantee for every run that keeps the agreement:
without a foreign stop no event is written, and a tick that finds a foreign one writes one.
`detection_fails` has a false alarm after a call that timed out, one after a failed update, and a
foreign stop that goes unnoticed.
-/

set_option autoImplicit false

namespace Scalper.Execution

open Scalper.Lib Scalper.Exchange

/-! ## A post -/

/-- A position's monitor and the exchange's desk. -/
structure Post where
  monitor : Monitor
  desk : Desk

/-- A move of the monitor, a fill, a stop someone else sets or removes, or a restart of the service
with the position still open on the exchange. -/
inductive PostStep where
  | moves (move : MonitorMove)
  | fills (botId : String) (delivery : Delivery)
  | foreignSets (slPrice : Option ℚ)
  | restarts

/-- `_spawn_matching_monitor`: the monitor of a row. -/
def Monitor.respawned (m : Monitor) (row : PositionStateRow) : Monitor :=
  { m with tradeId := row.tradeId, side := row.side, entryPrice := row.entryPrice, qty := row.qty }

def postStep : PostStep → Post → Post
  | .moves move, post => { post with desk := monitorStep post.monitor move post.desk }
  | .fills botId delivery, post =>
      { post with desk := deskStep post.monitor (.fills botId delivery) post.desk }
  | .foreignSets slPrice, post =>
      { post with desk := { post.desk with stop := { post.desk.stop with inForce := slPrice } } }
  | .restarts, post =>
      match post.desk.db.selectPositionState post.monitor.key with
      | none => { post with desk := { post.desk with phase := .returned } }
      | some row =>
          { monitor := post.monitor.respawned row, desk := { post.desk with phase := .asleep } }

/-! ## The property and its condition -/

/-- The `sl_overwrite_detected` events. -/
def Db.overwrites (db : Db) : List SlOverwriteDetected :=
  db.tradingEvents.filterMap fun event =>
    match event.payload with
    | .slOverwriteDetected payload => some payload
    | _ => none

/-- A tick that reads a positive stop other than the last one of ours writes one event, with that
stop. -/
def DetectsForeign (post : Post) (s : PostStep) : Prop :=
  ∀ r now observed, s = .moves (.detects .held now true) → post.desk.phase = .detecting r →
    post.desk.stop.inForce = some observed → 0 < observed →
    post.desk.stop.ours ≠ some observed →
    ∃ payload, payload.observedSlPrice = observed ∧
      (postStep s post).desk.db.overwrites = post.desk.db.overwrites ++ [payload]

/-- The row holds the last stop of ours that was applied. -/
def Agrees (post : Post) : Prop :=
  ∀ row, post.desk.db.positions.lookup post.monitor.key = some row →
    row.slPrice = post.desk.stop.ours

/-- A call that raises was not applied, unless with the stop there was; and the service restarts
only while row and exchange agree. -/
def KeepsAgreement (post : Post) : PostStep → Prop
  | .moves (.sets outcome) =>
      outcome = .raisesApplied → ∀ new, post.desk.phase = .setting new →
        post.desk.stop.ours = some new.slPrice
  | .restarts => Agrees post
  | _ => True

def PostStep.isForeign : PostStep → Bool
  | .foreignSets _ => true
  | _ => false

instance Agrees.decidable (post : Post) : Decidable (Agrees post) :=
  inferInstanceAs (Decidable (∀ row, row ∈ post.desk.db.positions.lookup post.monitor.key →
    row.slPrice = post.desk.stop.ours))

instance KeepsAgreement.decidable (post : Post) :
    ∀ s : PostStep, Decidable (KeepsAgreement post s)
  | .moves (.sets outcome) =>
      match phase : post.desk.phase with
      | .setting new =>
          decidable_of_iff (outcome = .raisesApplied → post.desk.stop.ours = some new.slPrice)
            ⟨fun same raised new' here => by cases phase.symm.trans here; exact same raised,
              fun same raised => same raised new phase⟩
      | .asleep | .ticking _ | .detecting _ | .deciding _ | .persisting _ | .marking _ | .returned
      | .raised => isTrue fun _ _ here => nomatch phase.symm.trans here
  | .restarts => Agrees.decidable post
  | .moves (.reads _) | .moves .readFails | .moves (.ticks _ _) | .moves (.detects _ _ _)
  | .moves (.decides _) | .moves (.persists _ _) | .moves (.marks _) | .fills _ _
  | .foreignSets _ => isTrue trivial

/-! ## What the steps leave of the stop and the events -/

section Steps

variable {m : Monitor} {move : MonitorMove} {d d' : Desk} {db db' : Db}

/-- The rows of the key keep their stop. -/
def KeepsSl (key : PositionKey) (db db' : Db) : Prop :=
  ∀ row', db'.positions.lookup key = some row' →
    ∃ row, db.positions.lookup key = some row ∧ row'.slPrice = row.slPrice

theorem KeepsSl.of_positions {key : PositionKey} (same : db'.positions = db.positions) :
    KeepsSl key db db' :=
  fun row' after => ⟨row', same ▸ after, rfl⟩

theorem Recorded.keepsSl {botId : String} {event : Fill} {reads : ClosedPnlReads} {now : ℕ}
    {closed : Option OrderClosed} (recorded : Recorded botId event reads now db closed db')
    (key : PositionKey) : KeepsSl key db db' := by
  intro row' after
  cases recorded with
  | opened => exact ⟨row', after, rfl⟩
  | @part orderId derived ps reduces =>
      rcases lookup_insert_cases after with ⟨rfl, rfl⟩ | ⟨-, kept⟩
      · exact ⟨ps, reduces.held, rfl⟩
      · exact ⟨row', kept, rfl⟩
  | closed => exact ⟨row', (lookup_recordClose.mp after).2, rfl⟩

theorem Recorded.tradingEvents {botId : String} {event : Fill} {reads : ClosedPnlReads} {now : ℕ}
    {closed : Option OrderClosed} (recorded : Recorded botId event reads now db closed db') :
    db'.tradingEvents = db.tradingEvents := by
  cases recorded <;> rfl

theorem overwrites_of_tradingEvents (same : db'.tradingEvents = db.tradingEvents) :
    db'.overwrites = db.overwrites := by
  rw [Db.overwrites, same, Db.overwrites]

theorem monitored_tradingEvents (db : Db) (key : PositionKey) (write : MonitorWrite) :
    (db.monitored key write).tradingEvents = db.tradingEvents := by
  unfold Db.monitored
  cases db.positions.lookup key <;> rfl

theorem overwrites_announced (db : Db) (payload : SlOverwriteDetected) (now : ℕ) :
    (db.announced (payload.event now)).overwrites = db.overwrites ++ [payload] := by
  simp [Db.overwrites, Db.announced, SlOverwriteDetected.event]

/-- A move writes no event, or the one that is due. -/
theorem Moved.overwrites (moved : Moved m move d d') :
    d'.db.overwrites = d.db.overwrites ∨ ∃ r answer payload, d.phase = .detecting r ∧
      detectSlOverwrite m r answer d.stop = some payload := by
  cases moved with
  | nothing | exited | read | raised | undetected | rested | chose | set | gaveUp | lost
  | marked => exact .inl rfl
  | ticked now =>
      exact .inl (overwrites_of_tradingEvents (monitored_tradingEvents d.db m.key _))
  | persisted now =>
      exact .inl (overwrites_of_tradingEvents (monitored_tradingEvents d.db m.key _))
  | detected now here answer due => exact .inr ⟨_, answer, _, here, due⟩

/-- No event is due while the exchange has the stop of the row. -/
theorem detectSlOverwrite_of_same {r : Reading} {answer : PositionsAnswer} {stop : ExchangeStop}
    (same : stop.inForce = r.ps.slPrice) : detectSlOverwrite m r answer stop = none := by
  unfold detectSlOverwrite ExchangeStop.decoded
  rw [same]
  cases r.ps.slPrice with
  | none => rfl
  | some expected =>
      cases answer with
      | raises | flat => rfl
      | held =>
          by_cases positive : 0 < expected
          · simp [Option.filter, positive]
          · simp [Option.filter, positive]

/-- One is due when it has another positive one. -/
theorem detectSlOverwrite_of_other {r : Reading} {stop : ExchangeStop} {expected observed : ℚ}
    (known : r.ps.slPrice = some expected) (inForce : stop.inForce = some observed)
    (positive : 0 < observed) (other : observed ≠ expected) :
    ∃ payload, detectSlOverwrite m r .held stop = some payload ∧
      payload.observedSlPrice = observed := by
  refine ⟨⟨m.key.1, m.key.2, m.tradeId, r.ps.slType, expected, observed⟩, ?_, rfl⟩
  simp [detectSlOverwrite, ExchangeStop.decoded, known, inForce, Option.filter, positive, other]

end Steps

/-! ## The invariant -/

/-- What a tick has in hand agrees with the last stop of ours. -/
def InAgreement (stop : ExchangeStop) : TickPhase → Prop
  | .ticking r | .detecting r | .deciding r => r.ps.slPrice = stop.ours
  | .setting new => OnGrid 12 new.slPrice
  | .persisting new => OnGrid 12 new.slPrice ∧ stop.ours = some new.slPrice
  | .asleep | .marking _ | .returned | .raised => True

/-- The stop that was applied is in the row, or the task will not look before a restart. -/
def TickPhase.written : TickPhase → Bool
  | .persisting _ | .raised => false
  | _ => true

/-- Monitor, row and exchange agree on the stop. -/
structure Agreement (post : Post) : Prop where
  tick : OnGrid 12 post.monitor.tickSize
  known : ∃ ours, post.desk.stop.ours = some ours
  rows : post.desk.phase.written = true → Agrees post
  inTick : InAgreement post.desk.stop post.desk.phase

section Invariant

variable {m : Monitor} {d d' : Desk}

/-- Moves of a monitor whose rows keep their stop. -/
theorem Agreement.keepsSl (agreement : Agreement ⟨m, d⟩) (keeps : KeepsSl m.key d.db d'.db)
    (stop : d'.stop = d.stop) (written : d'.phase.written = true → d.phase.written = true)
    (inTick : InAgreement d.stop d'.phase) : Agreement ⟨m, d'⟩ where
  tick := agreement.tick
  known := stop ▸ agreement.known
  rows := by
    intro writtenNow row' after
    obtain ⟨row, before, same⟩ := keeps row' after
    change row'.slPrice = d'.stop.ours
    rw [same, stop]
    exact agreement.rows (written writtenNow) row before
  inTick := by
    change InAgreement d'.stop d'.phase
    rw [stop]
    exact inTick

theorem Agreement.rephase (agreement : Agreement ⟨m, d⟩) {phase : TickPhase}
    (written : phase.written = true → d.phase.written = true)
    (inTick : InAgreement d.stop phase) : Agreement ⟨m, { d with phase := phase }⟩ :=
  agreement.keepsSl (.of_positions rfl) rfl written inTick

theorem onGrid_of_quantizePrice {price tick x : ℚ} {side : Side} (grid : OnGrid 12 tick)
    (quantized : quantizePrice price side tick = .ok x) : OnGrid 12 x := by
  obtain ⟨-, rfl⟩ := quantizePrice_ok_iff.mp quantized
  exact grid.intCast_mul _

theorem Agreement.moves (agreement : Agreement ⟨m, d⟩) {move : MonitorMove}
    (keeps : KeepsAgreement ⟨m, d⟩ (.moves move)) : Agreement ⟨m, monitorStep m move d⟩ := by
  have moved := monitorStep_cases m move d
  generalize monitorStep m move d = d' at moved ⊢
  have inPhase : ∀ {phase}, d.phase = phase → InAgreement d.stop phase := by
    rintro _ rfl
    exact agreement.inTick
  cases moved with
  | nothing => exact agreement
  | exited asleep => exact agreement.rephase (fun _ => by rw [asleep]; rfl) trivial
  | raised => exact agreement.rephase (fun impossible => nomatch impossible) trivial
  | @read ps price asleep held =>
      refine agreement.rephase (fun _ => by rw [asleep]; rfl) ?_
      exact agreement.rows (by change d.phase.written = true; rw [asleep]; rfl) ps held
  | @ticked r now phase =>
      refine agreement.keepsSl (fun row' after => ?_) rfl (fun _ => by rw [phase]; rfl) ?_
      · rw [lookup_monitored, if_pos rfl] at after
        obtain ⟨row, before, rfl⟩ := Option.map_eq_some_iff.mp after
        exact ⟨row, before, rfl⟩
      · have here := inPhase phase
        exact here
  | undetected phase =>
      have here := inPhase phase
      exact agreement.rephase (fun _ => by rw [phase]; rfl) here
  | detected now phase =>
      have here := inPhase phase
      exact agreement.keepsSl (.of_positions rfl) rfl (fun _ => by rw [phase]; rfl) here
  | rested phase => exact agreement.rephase (fun _ => by rw [phase]; rfl) trivial
  | chose phase known chosen =>
      refine agreement.rephase (fun _ => by rw [phase]; rfl) ?_
      rcases (chooseStop_some chosen).2 with ⟨-, -, -, -, quantized⟩ | ⟨-, -, -, quantized⟩
      · exact onGrid_of_quantizePrice agreement.tick quantized
      · exact onGrid_of_quantizePrice agreement.tick quantized
  | @set new phase =>
      exact ⟨agreement.tick, ⟨new.slPrice, rfl⟩, (fun impossible => nomatch impossible),
        inPhase phase, rfl⟩
  | gaveUp phase => exact agreement.rephase (fun _ => by rw [phase]; rfl) trivial
  | @lost new phase call =>
      subst call
      refine ⟨agreement.tick, ⟨new.slPrice, rfl⟩, fun _ row held => ?_, trivial⟩
      have same : d.stop.ours = some new.slPrice := keeps rfl new phase
      exact (agreement.rows (by change d.phase.written = true; rw [phase]; rfl) row held).trans same
  | @persisted new now phase =>
      have here := inPhase phase
      refine ⟨agreement.tick, agreement.known, fun _ row' after => ?_, trivial⟩
      change (d.db.monitored m.key (.slMoved new.slPrice new.slType now)).positions.lookup m.key =
        some row' at after
      rw [lookup_monitored, if_pos rfl] at after
      obtain ⟨row, before, rfl⟩ := Option.map_eq_some_iff.mp after
      exact (congrArg some (numeric_of_onGrid here.1)).trans here.2.symm
  | marked phase =>
      exact agreement.keepsSl (.of_positions rfl) rfl (fun _ => by rw [phase]; rfl) trivial

theorem Agreement.step {post : Post} (agreement : Agreement post) {s : PostStep}
    (keeps : KeepsAgreement post s) : Agreement (postStep s post) := by
  obtain ⟨m, d⟩ := post
  cases s with
  | moves move => exact agreement.moves keeps
  | fills botId delivery =>
      change Agreement ⟨m, { d with db := Execution.step (.fill botId delivery) d.db }⟩
      rcases step_fill_cases botId delivery d.db with same | ⟨closed, recorded⟩
      · rw [same]
        exact agreement
      · exact agreement.keepsSl (recorded.keepsSl m.key) rfl id agreement.inTick
  | foreignSets slPrice =>
      refine ⟨agreement.tick, agreement.known, agreement.rows, ?_⟩
      have here := agreement.inTick
      change InAgreement { d.stop with inForce := slPrice } d.phase
      change InAgreement d.stop d.phase at here
      cases phase : d.phase with
      | asleep | marking | returned | raised => trivial
      | ticking | detecting | deciding | setting | persisting =>
          rw [phase] at here
          exact here
  | restarts =>
      simp only [postStep]
      cases held : d.db.selectPositionState m.key with
      | none => exact ⟨agreement.tick, agreement.known, fun _ => keeps, trivial⟩
      | some row => exact ⟨agreement.tick, agreement.known, fun _ => keeps, trivial⟩

end Invariant

/-! ## Both halves of the guarantee -/

section Guarantee

variable {post : Post} {s : PostStep}

/-- Whoever else may have set the stop, ours is in force. -/
def OursInForce (post : Post) : Prop := post.desk.stop.inForce = post.desk.stop.ours

theorem OursInForce.step (ours : OursInForce post) (own : s.isForeign = false) :
    OursInForce (postStep s post) := by
  obtain ⟨m, d⟩ := post
  cases s with
  | moves move =>
      have moved := monitorStep_cases m move d
      change (monitorStep m move d).stop.inForce = (monitorStep m move d).stop.ours
      generalize monitorStep m move d = d' at moved ⊢
      cases moved with
      | nothing | exited | read | raised | ticked | undetected | detected | rested | chose | gaveUp
      | persisted | marked => exact ours
      | set | lost => rfl
  | fills botId delivery => exact ours
  | foreignSets slPrice => cases own
  | restarts =>
      simp only [postStep]
      cases d.db.selectPositionState m.key with
      | none => exact ours
      | some row => exact ours

/-- While ours is in force no event is written. -/
theorem Agreement.silent (agreement : Agreement post) (ours : OursInForce post) (s : PostStep) :
    (postStep s post).desk.db.overwrites = post.desk.db.overwrites := by
  obtain ⟨m, d⟩ := post
  cases s with
  | moves move =>
      rcases (monitorStep_cases m move d).overwrites with same | ⟨r, answer, payload, here, due⟩
      · exact same
      · have read := agreement.inTick
        change InAgreement d.stop d.phase at read
        rw [here] at read
        cases (detectSlOverwrite_of_same (Eq.trans ours read.symm)).symm.trans due
  | fills botId delivery =>
      change (Execution.step (.fill botId delivery) d.db).overwrites = d.db.overwrites
      rcases step_fill_cases botId delivery d.db with same | ⟨closed, recorded⟩
      · rw [same]
      · exact overwrites_of_tradingEvents recorded.tradingEvents
  | foreignSets slPrice => rfl
  | restarts =>
      simp only [postStep]
      cases d.db.selectPositionState m.key with
      | none => rfl
      | some row => rfl

/-- A foreign stop is noticed. -/
theorem Agreement.detects (agreement : Agreement post) (s : PostStep) : DetectsForeign post s := by
  obtain ⟨m, d⟩ := post
  rintro r now observed rfl here inForce positive foreign
  change d.phase = .detecting r at here
  change d.stop.inForce = some observed at inForce
  change d.stop.ours ≠ some observed at foreign
  obtain ⟨expected, known⟩ := agreement.known
  change d.stop.ours = some expected at known
  have read := agreement.inTick
  change InAgreement d.stop d.phase at read
  rw [here] at read
  obtain ⟨payload, due, isObserved⟩ := detectSlOverwrite_of_other (m := m)
    (Eq.trans read known) inForce positive fun same => foreign (same ▸ known)
  refine ⟨payload, isObserved, ?_⟩
  rw [← overwrites_announced d.db payload now]
  simp only [postStep, monitorStep, here, due, if_true]
  rfl

/-- A run without a foreign stop writes no event. -/
theorem overwrites_run {steps : List PostStep} :
    ∀ {post : Post}, Agreement post → OursInForce post → (∀ s ∈ steps, s.isForeign = false) →
      RunGuarded KeepsAgreement postStep post steps →
      (run postStep post steps).desk.db.overwrites = post.desk.db.overwrites := by
  induction steps with
  | nil => exact fun _ _ _ _ => rfl
  | cons s steps ih =>
      intro post agreement ours own keeps
      have first : s.isForeign = false := own s List.mem_cons_self
      have rest := ih (agreement.step keeps.1) (ours.step first)
        (fun later member => own later (List.mem_cons_of_mem s member)) keeps.2
      exact rest.trans (agreement.silent ours s)

end Guarantee

/-! ## Every run from a placement -/

/-- The post a placement leaves. -/
def Placed.post (p : Placed) (db : Db) (slPrice tpPrice notionalUsd tickSize : ℚ) (slSetAt : ℕ) :
    Post where
  monitor := p.monitor db tickSize
  desk := p.desk db slPrice tpPrice notionalUsd slSetAt

theorem Agreement.initial (p : Placed) (db : Db) {slPrice tickSize : ℚ} (tpPrice notionalUsd : ℚ)
    (slSetAt : ℕ) (grid : OnGrid 12 tickSize) (stopGrid : OnGrid 12 slPrice) :
    Agreement (p.post db slPrice tpPrice notionalUsd tickSize slSetAt) where
  tick := grid
  known := ⟨slPrice, rfl⟩
  rows := by
    intro _ row held
    rcases lookup_insert_cases held with ⟨-, rfl⟩ | ⟨different, -⟩
    · exact congrArg some (numeric_of_onGrid stopGrid)
    · exact absurd rfl different
  inTick := trivial

/-- **Detection neither raises false alarms nor misses a foreign stop**, from the placement on and
over every run that keeps row and exchange in agreement: no event without a foreign stop, and one
event at every tick that finds one. -/
theorem run_detects {db : Db} {p : Placed} {slPrice tpPrice notionalUsd tickSize : ℚ} {slSetAt : ℕ}
    (grid : OnGrid 12 tickSize)
    (protective : quantizePrice
      (computeSlPrice p.request.side p.fillPrice p.request.slPct) p.request.side tickSize =
        .ok slPrice)
    {steps : List PostStep}
    (keeps : RunGuarded KeepsAgreement postStep
      (p.post db slPrice tpPrice notionalUsd tickSize slSetAt) steps) :
    ((∀ s ∈ steps, s.isForeign = false) →
      (run postStep (p.post db slPrice tpPrice notionalUsd tickSize slSetAt)
        steps).desk.db.overwrites =
          (p.post db slPrice tpPrice notionalUsd tickSize slSetAt).desk.db.overwrites) ∧
      RunGuarded DetectsForeign postStep
        (p.post db slPrice tpPrice notionalUsd tickSize slSetAt) steps := by
  have initial : Agreement (p.post db slPrice tpPrice notionalUsd tickSize slSetAt) :=
    .initial p db tpPrice notionalUsd slSetAt grid (onGrid_of_quantizePrice grid protective)
  exact ⟨fun own => overwrites_run initial rfl own keeps,
    runGuarded_of_invariant Agreement (fun _ _ agreement keeps => agreement.step keeps)
      (fun _ s agreement _ => agreement.detects s) initial keeps⟩

/-! ## Alarms -/

/-- The long's post. -/
def longPost : Post := placedLong.post {} 98 104 1000 (1 / 10) 3

/-- A tick at 104 up to its call to the exchange. -/
def tickAt (now : ℕ) : List PostStep :=
  [.moves (.reads 104), .moves (.ticks now true), .moves (.detects .held now true),
   .moves (.decides true)]

/-- The tick moves the stop to break-even. -/
def breaksEvenAt (now : ℕ) : List PostStep :=
  tickAt now ++
    [.moves (.sets .returns), .moves (.persists now true), .moves (.marks true)]

theorem breakeven_then_foreign :
    (run postStep longPost (breaksEvenAt 4 ++ tickAt 5)).desk.db.overwrites = [] ∧
      RunGuarded DetectsForeign postStep longPost
        (breaksEvenAt 4 ++ [.foreignSets (some 95)] ++ tickAt 5) ∧
      ((run postStep longPost
        (breaksEvenAt 4 ++ [.foreignSets (some 95)] ++ tickAt 5)).desk.db.overwrites.map
          (·.observedSlPrice)) = [95] := by
  refine ⟨?_, ?_, by decide +kernel⟩
  · exact (@run_detects {} placedLong 98 104 1000 (1 / 10) 3 (by decide +kernel)
      (by decide +kernel) (breaksEvenAt 4 ++ tickAt 5) (by decide +kernel)).1 (by decide)
  · exact (@run_detects {} placedLong 98 104 1000 (1 / 10) 3 (by decide +kernel)
      (by decide +kernel) _ (by decide +kernel)).2

/-- What the second tick reads. -/
def secondReading : Reading where
  ps :=
    { tradeId := 1, side := .buy, entryPrice := 100, qty := 10, remainingQty := 10,
      slPrice := some 98, tpPrice := some 104, slType := some .protective, bestPrice := some 104,
      mfePrice := some 104, maePrice := some 104, runningPnl := 40, updatedAt := 4 }
  price := 104

/-- **Detection fails both ways**: a call that was applied although it raised, and a failed update
of the row followed by a restart, are each reported as an overwrite; and after the first, a stop
someone else sets back to the old price is not. -/
theorem detection_fails :
    (run postStep longPost
        (tickAt 4 ++ [.moves (.sets .raisesApplied)] ++ tickAt 5)).desk.db.overwrites ≠ [] ∧
      (run postStep longPost
        (tickAt 4 ++ [.moves (.sets .returns), .moves (.persists 4 false), .restarts] ++
          tickAt 5)).desk.db.overwrites ≠ [] ∧
      ¬ RunGuarded DetectsForeign postStep longPost
        (tickAt 4 ++ [.moves (.sets .raisesApplied), .foreignSets (some 98), .moves (.reads 104),
          .moves (.ticks 5 true)] ++ [.moves (.detects .held 5 true)]) := by
  refine ⟨by decide +kernel, by decide +kernel, fun detects => ?_⟩
  obtain ⟨payload, -, emitted⟩ := (runGuarded_append.mp detects).2.1 secondReading 5 98 rfl
    (by decide +kernel) (by decide +kernel) (by decide) (by decide +kernel)
  have silent : (run postStep longPost
      (tickAt 4 ++ [.moves (.sets .raisesApplied), .foreignSets (some 98), .moves (.reads 104),
        .moves (.ticks 5 true)] ++ [.moves (.detects .held 5 true)])).desk.db.overwrites = [] := by
    decide +kernel
  rw [run_append] at silent
  exact absurd (emitted.symm.trans silent) (by simp)

end Scalper.Execution
