import Scalper.Shadow.Noninterference

/-!
# A variant across a restart

A variant that was interrupted and resumed ought to end as the variant that ran through.  What it
takes to rebuild it, its symbol and its overrides, is in the `meta` of its row, and the pool of the
service reads none of it back.  A restart finds no symbol and the default overrides: it raises, and
the row stays without a result and without a task, or, once the default duration is over, it closes
the row as timed out with no excursion.

The main result is `run_resumed_iff`: the two runs end alike exactly where the variant had ended
before the crash, where the variant that ran through has not ended either, or where the restart
comes after the default duration and the variant that ran through times out without a candle off
its entry price.
-/

set_option autoImplicit false

namespace Scalper.Shadow

open Scalper.Lib Scalper.Exchange Scalper.Paper

/-! ## Candles that are delivered -/

/-- The order in which the two subscriptions and the task get to a candle. -/
inductive HandlerOrder where
  | exchangeFirst
  | handlerFirst
  | settlesFirst
  deriving DecidableEq, Repr

/-- A candle that was delivered to a running variant, and what everything else did until the
next. -/
structure Delivery (ε : Type) where
  candle : Candle
  order : HandlerOrder := .exchangeFirst
  exchangeAt : Moment := {}
  handlerAt : Moment := {}
  writes : ε × PaperDb → ε × PaperDb := id

/-- The steps a delivery is made of, in its order. -/
def Delivery.steps {ε : Type} (d : Delivery ε) : List (ShadowStep ε) :=
  match d.order with
  | .exchangeFirst =>
      [.exchange d.candle d.exchangeAt, .handler d.candle d.handlerAt, .settles, .others d.writes]
  | .handlerFirst =>
      [.handler d.candle d.handlerAt, .exchange d.candle d.exchangeAt, .settles, .others d.writes]
  | .settlesFirst =>
      [.exchange d.candle d.exchangeAt, .settles, .handler d.candle d.handlerAt, .others d.writes]

/-- A step that no process starts, ends or takes up a variant with. -/
def ShadowStep.goesOn {ε : Type} : ShadowStep ε → Bool
  | .starts _ | .stopped | .resumes _ => false
  | _ => true

/-- The candle a step makes the handler take note of. -/
def ShadowStep.watched {ε : Type} (symbol : String) : ShadowStep ε → Option Candle
  | .handler candle _ => if candle.isClosed && candle.symbol == symbol then some candle else none
  | _ => none

/-- What the variant's row says of its end. -/
def World.result {ε : Type} (w : World ε) : Option TerminalRecord := w.row.bind (·.result)

section Tasks

variable {t t' : VariantTask}

/-- The record is made of the prices watched and the events told. -/
theorem driveToTerminal_congr (variant : t.variant = t'.variant)
    (best : t.bestPrice = t'.bestPrice) (worst : t.worstPrice = t'.worstPrice)
    (events : t.pe.terminalEvents = t'.pe.terminalEvents) :
    t.driveToTerminal = t'.driveToTerminal := by
  have mfe : t.mfePct = t'.mfePct := by
    unfold VariantTask.mfePct
    rw [variant, best]
  have mae : t.maePct = t'.maePct := by
    unfold VariantTask.maePct
    rw [variant, worst]
  unfold VariantTask.driveToTerminal
  rw [events, mfe, mae]

/-- Which stop the handler asks for is settled by the task alone. -/
theorem stopRequest_atMoment (t : VariantTask) (moment : Moment) (db : PaperDb)
    (candle : Candle) : (t.atMoment moment db).stopRequest candle = t.stopRequest candle := by
  unfold VariantTask.stopRequest VariantTask.atMoment
  rw [VariantTask.observe_with_pe]

end Tasks

/-! ## The prices watched -/

section Prices

/-- The best price is the highest or the lowest one by the side, the worst price the other. -/
theorem run_observe_prices (rows : List Candle) :
    ∀ t : VariantTask,
      (t.variant.side = .buy →
        (run VariantTask.observe t rows).bestPrice =
            run (fun candle x => max x (Candle.high candle)) t.bestPrice rows ∧
          (run VariantTask.observe t rows).worstPrice =
            run (fun candle x => min x (Candle.low candle)) t.worstPrice rows) ∧
      (t.variant.side = .sell →
        (run VariantTask.observe t rows).bestPrice =
            run (fun candle x => min x (Candle.low candle)) t.bestPrice rows ∧
          (run VariantTask.observe t rows).worstPrice =
            run (fun candle x => max x (Candle.high candle)) t.worstPrice rows) := by
  induction rows with
  | nil => exact fun t => ⟨fun _ => ⟨rfl, rfl⟩, fun _ => ⟨rfl, rfl⟩⟩
  | cons row rows ih =>
      intro t
      obtain ⟨long, short⟩ := ih (t.observe row)
      rw [VariantTask.observe_variant] at long short
      constructor
      · intro side
        have observed : t.observe row =
            { t with
              bestPrice := max t.bestPrice row.high, worstPrice := min t.worstPrice row.low } := by
          rw [VariantTask.observe, side]
        simp only [run_cons]
        rw [(long side).1, (long side).2, observed]
        exact ⟨rfl, rfl⟩
      · intro side
        have observed : t.observe row =
            { t with
              bestPrice := min t.bestPrice row.low, worstPrice := max t.worstPrice row.high } := by
          rw [VariantTask.observe, side]
        simp only [run_cons]
        rw [(short side).1, (short side).2, observed]
        exact ⟨rfl, rfl⟩

/-- No candle went above or below the price. -/
def Unmoved (price : ℚ) (rows : List Candle) : Prop :=
  ∀ candle ∈ rows, candle.high ≤ price ∧ price ≤ candle.low

variable {price : ℚ} {rows : List Candle}

theorem highest_eq_iff :
    run (fun candle x => max x (Candle.high candle)) price rows = price ↔
      ∀ candle ∈ rows, candle.high ≤ price := by
  constructor
  · exact fun same => ((run_max_le_iff Candle.high rows).mp same.le).2
  · intro below
    exact le_antisymm ((run_max_le_iff Candle.high rows).mpr ⟨le_rfl, below⟩)
      ((run_max_le_iff Candle.high rows).mp le_rfl).1

theorem lowest_eq_iff :
    run (fun candle x => min x (Candle.low candle)) price rows = price ↔
      ∀ candle ∈ rows, price ≤ candle.low := by
  constructor
  · exact fun same => ((le_run_min_iff Candle.low rows).mp same.ge).2
  · intro above
    exact le_antisymm ((le_run_min_iff Candle.low rows).mp le_rfl).1
      ((le_run_min_iff Candle.low rows).mpr ⟨le_rfl, above⟩)

/-- The extreme prices are still those of the entry exactly if no candle went off it. -/
theorem prices_eq_iff {t : VariantTask} (best : t.bestPrice = price) (worst : t.worstPrice = price) :
    (run VariantTask.observe t rows).bestPrice = price ∧
        (run VariantTask.observe t rows).worstPrice = price ↔
      Unmoved price rows := by
  obtain ⟨long, short⟩ := run_observe_prices rows t
  have apart : Unmoved price rows ↔
      (∀ candle ∈ rows, candle.high ≤ price) ∧ ∀ candle ∈ rows, price ≤ candle.low :=
    forall₂_and
  rw [apart, ← highest_eq_iff, ← lowest_eq_iff]
  cases side : t.variant.side with
  | buy => rw [(long side).1, (long side).2, best, worst]
  | sell => rw [(short side).1, (short side).2, best, worst, and_comm]

end Prices

/-! ## A run between two restarts -/

section Steps

variable {ε : Type} {settings : Settings} {v : Variant}

theorem shadowStep_expires {w : World ε} {t : VariantTask} (running : w.task = some t) :
    shadowStep settings v .expires w = w.finished settings t.driveToTerminal := by
  unfold shadowStep
  rw [running]

/-- What ends a task: its wait times out, or it finds its future done. -/
def Ends (t : VariantTask) (step : ShadowStep ε) : Prop :=
  step = .expires ∨ step = .settles ∧ t.pe.terminalEvents ≠ []

/-- A step adds to the prices watched, or it ends the task. -/
theorem shadowStep_running {w : World ε} {t : VariantTask} {step : ShadowStep ε}
    (goesOn : step.goesOn = true) (running : w.task = some t) :
    (∃ pe, (shadowStep settings v step w).row = w.row ∧
        (shadowStep settings v step w).task =
          some
            { run VariantTask.observe t (step.watched t.variant.symbol).toList with
              pe := pe }) ∨
      Ends t step ∧ shadowStep settings v step w = w.finished settings t.driveToTerminal := by
  unfold shadowStep
  rw [running]
  cases step with
  | exchange candle moment => exact .inl ⟨_, rfl, rfl⟩
  | handler candle moment =>
      refine .inl ?_
      have noted : (t.atMoment moment w.db).watches candle =
        (candle.isClosed && candle.symbol == t.variant.symbol) := rfl
      have watched : (ShadowStep.handler candle moment : ShadowStep ε).watched t.variant.symbol =
        if candle.isClosed && candle.symbol == t.variant.symbol then some candle else none := rfl
      rcases handlerSees_cases settings (t.atMoment moment w.db) candle with
        ⟨_, seen⟩ | ⟨request, own, asked, seen⟩
      · refine ⟨(t.atMoment moment w.db).pe, rfl, ?_⟩
        show some ((t.atMoment moment w.db).handlerSees settings candle) = _
        rw [seen, noted, watched]
        split
        · exact congrArg some (VariantTask.observe_with_pe candle t _)
        · rfl
      · have closed : candle.isClosed = true := by
          by_contra unclosed
          rw [VariantTask.stopRequest, if_neg unclosed] at asked
          cases asked
        have here : candle.symbol = t.variant.symbol := own
        obtain ⟨pe, moved⟩ : ∃ pe, (t.atMoment moment w.db).handlerSees settings candle =
            { (t.atMoment moment w.db).observe candle with pe := pe } := ⟨_, seen⟩
        refine ⟨pe, rfl, ?_⟩
        show some ((t.atMoment moment w.db).handlerSees settings candle) = _
        rw [moved, watched, closed, here, beq_self_eq_true]
        exact congrArg (fun seen : VariantTask => some { seen with pe := pe })
          (VariantTask.observe_with_pe candle t _)
  | settles =>
      dsimp only
      by_cases eventless : t.pe.terminalEvents = []
      · rw [if_pos eventless]
        exact .inl ⟨t.pe, rfl, running⟩
      · rw [if_neg eventless]
        exact .inr ⟨.inr ⟨rfl, eventless⟩, rfl⟩
  | expires => exact .inr ⟨.inl rfl, rfl⟩
  | others write => exact .inl ⟨t.pe, rfl, rfl⟩
  | starts | stopped | resumes => cases goesOn

/-- Without a task such a step leaves the variant's row, and no task. -/
theorem shadowStep_idle {w : World ε} {step : ShadowStep ε} (goesOn : step.goesOn = true)
    (idle : w.task = none) :
    (shadowStep settings v step w).row = w.row ∧ (shadowStep settings v step w).task = none := by
  unfold shadowStep
  rw [idle]
  cases step with
  | exchange | handler | settles | expires => exact ⟨rfl, idle⟩
  | others write => exact ⟨rfl, rfl⟩
  | starts | stopped | resumes => cases goesOn

theorem run_idle {steps : List (ShadowStep ε)} :
    ∀ {w : World ε}, (∀ step ∈ steps, step.goesOn = true) → w.task = none →
      (run (shadowStep settings v) w steps).row = w.row ∧
        (run (shadowStep settings v) w steps).task = none := by
  induction steps with
  | nil => exact fun _ idle => ⟨rfl, idle⟩
  | cons step steps ih =>
      intro w goesOn idle
      rw [List.forall_mem_cons] at goesOn
      obtain ⟨row, task⟩ := @shadowStep_idle ε settings v w step goesOn.1 idle
      obtain ⟨row', task'⟩ := ih goesOn.2 task
      exact ⟨row'.trans row, task'⟩

/-- **Between two restarts** a task watches the candles of its symbol, until a step ends it and its
row takes the record of it. -/
theorem run_running {steps : List (ShadowStep ε)} :
    ∀ {w : World ε} {t : VariantTask}, (∀ step ∈ steps, step.goesOn = true) → w.task = some t →
      (∃ pe, (run (shadowStep settings v) w steps).row = w.row ∧
          (run (shadowStep settings v) w steps).task =
            some
              { run VariantTask.observe t (steps.filterMap (·.watched t.variant.symbol)) with
                pe := pe }) ∨
        ∃ before step after t', steps = before ++ step :: after ∧
          (run (shadowStep settings v) w before).task = some t' ∧ Ends t' step ∧
          (run (shadowStep settings v) w steps).task = none ∧
          (run (shadowStep settings v) w steps).row =
            w.row.map (updateShadowVariantTerminal settings t'.driveToTerminal) := by
  induction steps with
  | nil => exact fun _ running => .inl ⟨_, rfl, running⟩
  | cons step steps ih =>
      intro w t goesOn running
      rw [List.forall_mem_cons] at goesOn
      obtain ⟨pe, row, task⟩ | ⟨ends, finished⟩ :=
        @shadowStep_running ε settings v w t step goesOn.1 running
      · obtain ⟨pe', row', task'⟩ |
            ⟨before, last, after, t', rfl, task', ends, idle, ended⟩ :=
          ih goesOn.2 task
        · refine .inl ⟨pe', row'.trans row, ?_⟩
          have split : (step :: steps).filterMap (·.watched t.variant.symbol) =
              (step.watched t.variant.symbol).toList ++
                steps.filterMap (·.watched t.variant.symbol) := by
            cases noted : step.watched t.variant.symbol <;> simp [noted]
          rw [run_cons, task', run_observe_with_pe, run_observe_variant, split, run_append]
        · exact .inr ⟨step :: before, last, after, t', rfl, task', ends, idle,
            ended.trans (congrArg _ row)⟩
      · obtain ⟨row', task'⟩ := @run_idle ε settings v steps _ goesOn.2
          (congrArg World.task finished)
        exact .inr ⟨[], step, steps, t, rfl, running, ends, task',
          row'.trans (congrArg World.row finished)⟩

end Steps

/-! ## The two runs -/

/-- A variant runs through. -/
def uninterrupted {ε : Type} (moment : Moment) (steps : List (ShadowStep ε)) :
    List (ShadowStep ε) :=
  .starts moment :: steps

/-- A variant runs up to the crash; while the process is down everything else goes on; then the
process is back. -/
def interrupted {ε : Type} (moment : Moment) (before during : List (ShadowStep ε)) :
    List (ShadowStep ε) :=
  .starts moment :: (before ++ .stopped :: during.filter fun step => !step.ofVariant)

/-- A restart within the limits and with the parent open. -/
structure Restart (settings : Settings) (v : Variant) (moment : Moment) (db : PaperDb)
    (r : Replay) : Prop where
  inWindow : ((r.moment.now : ℚ) - moment.now) / ticksPerHour ≤
    settings.shadowReplayQueryWindowMaxHours
  parentOpen : checkParentOpen v r.liveParentOpen db = true

/-- The wait of the variant times out, with no event told and no candle off the entry price. -/
def TimesOutUnmoved {ε : Type} (settings : Settings) (v : Variant) (w : World ε) (moment : Moment)
    (steps : List (ShadowStep ε)) : Prop :=
  ∃ before after t, steps = before ++ .expires :: after ∧
    (run (shadowStep settings v) w (uninterrupted moment before)).task = some t ∧
    t.pe.terminalEvents = [] ∧ Unmoved v.entryPrice (before.filterMap (·.watched v.symbol))

/-- Where a restart does not show.  The four hours are the default of `max_duration_hours`. -/
inductive Unseen {ε : Type} (settings : Settings) (v : Variant) (w : World ε) (moment : Moment)
    (before during later : List (ShadowStep ε)) (r : Replay) : Prop where
  /-- The variant had ended before the crash. -/
  | ended (idle : (run (shadowStep settings v) w (uninterrupted moment before)).task = none)
  /-- The variant that ran through has not ended. -/
  | unended (early : (r.moment.now : ℚ) - moment.now < 4 * ticksPerHour)
      (runs : (run (shadowStep settings v) w
        (uninterrupted moment (before ++ during ++ later))).task ≠ none)
  /-- It has timed out, and there was nothing to see. -/
  | unmoved (late : 4 * ticksPerHour ≤ (r.moment.now : ℚ) - moment.now)
      (timesOut : TimesOutUnmoved settings v w moment (before ++ during ++ later))

section Runs

variable {ε : Type} {settings : Settings} {v : Variant} {w : World ε} {moment : Moment}
  {before during later : List (ShadowStep ε)} {r : Replay}

/-- A time-out without excursions. -/
def unmovedTimeout : TerminalRecord :=
  { outcome := .timeout, mfePct := some 0, maePct := some 0 }

/-- A task ends so exactly if no event was told and no candle went off the entry price. -/
theorem driveToTerminal_eq_iff (nonzero : v.entryPrice ≠ 0) {db : PaperDb} {pe : PaperExchange}
    {rows : List Candle} {t : VariantTask}
    (is : t = { run VariantTask.observe ((v.task moment db).start settings) rows with pe := pe }) :
    t.driveToTerminal.outcome = .timeout ∧ t.driveToTerminal.mfePct = some 0 ∧
        t.driveToTerminal.maePct = some 0 ↔
      t.pe.terminalEvents = [] ∧ Unmoved v.entryPrice rows := by
  have variant : t.variant = v := by
    rw [is]
    exact run_observe_variant rows _
  have best : t.mfePct = 0 ↔ t.bestPrice = v.entryPrice := by
    unfold VariantTask.mfePct
    rw [variant]
    cases v.side <;> simp [nonzero, sub_eq_zero, eq_comm]
  have worst : t.maePct = 0 ↔ t.worstPrice = v.entryPrice := by
    unfold VariantTask.maePct
    rw [variant]
    cases v.side <;> simp [nonzero, sub_eq_zero, eq_comm]
  have watched : t.bestPrice = v.entryPrice ∧ t.worstPrice = v.entryPrice ↔
      Unmoved v.entryPrice rows := by
    rw [is]
    exact prices_eq_iff rfl rfl
  rw [← watched, ← best, ← worst, VariantTask.driveToTerminal]
  cases events : t.pe.terminalEvents with
  | nil => simp
  | cons event events =>
      simp only [List.head?_cons, reduceCtorEq, false_and, iff_false, not_and]
      intro timedOut
      exact absurd timedOut (by unfold terminalFromPeState; split <;> (try split) <;> simp)

/-- The task of a variant that ran through up to here. -/
theorem task_of_running {steps : List (ShadowStep ε)} {t : VariantTask}
    (goesOn : ∀ step ∈ steps, step.goesOn = true)
    (running : (run (shadowStep settings v) w (uninterrupted moment steps)).task = some t) :
    (run (shadowStep settings v) w (uninterrupted moment steps)).row =
        some (insertShadowVariant settings v moment.now) ∧
      ∃ pe, t =
        { run VariantTask.observe ((v.task moment w.db).start settings)
            (steps.filterMap (·.watched v.symbol)) with
          pe := pe } := by
  obtain ⟨pe, row, task⟩ | ⟨_, _, _, _, _, _, _, idle, _⟩ :=
    @run_running ε settings v steps (shadowStep settings v (.starts moment) w) _ goesOn rfl
  · exact ⟨row, pe, Option.some.inj (running.symm.trans task)⟩
  · rw [uninterrupted, run_cons, idle] at running
    cases running

/-- The result of a variant that ran through: none while it runs. -/
theorem result_uninterrupted_eq_none_iff {steps : List (ShadowStep ε)}
    (goesOn : ∀ step ∈ steps, step.goesOn = true) :
    (run (shadowStep settings v) w (uninterrupted moment steps)).result = none ↔
      (run (shadowStep settings v) w (uninterrupted moment steps)).task ≠ none := by
  obtain ⟨pe, row, task⟩ | ⟨_, _, _, _, _, _, _, idle, ended⟩ :=
    @run_running ε settings v steps (shadowStep settings v (.starts moment) w) _ goesOn rfl
  · rw [World.result, uninterrupted, run_cons, row, task]
    exact iff_of_true rfl (Option.some_ne_none _)
  · rw [World.result, uninterrupted, run_cons, ended, idle]
    exact iff_of_false (Option.some_ne_none _) fun runs => runs rfl

/-- It is a time-out without excursions where nothing was to be seen. -/
theorem result_uninterrupted_eq_iff (nonzero : v.entryPrice ≠ 0) {steps : List (ShadowStep ε)}
    (goesOn : ∀ step ∈ steps, step.goesOn = true) :
    (run (shadowStep settings v) w (uninterrupted moment steps)).result = some unmovedTimeout ↔
      TimesOutUnmoved settings v w moment steps := by
  constructor
  · intro timedOut
    obtain ⟨pe, row, task⟩ | ⟨before, step, after, t, rfl, running, ends, idle, ended⟩ :=
      @run_running ε settings v steps (shadowStep settings v (.starts moment) w) _ goesOn rfl
    · rw [World.result, uninterrupted, run_cons, row] at timedOut
      cases timedOut
    · rw [World.result, uninterrupted, run_cons, ended] at timedOut
      obtain ⟨-, pe, is⟩ := @task_of_running ε settings v w moment before t
        (fun step member => goesOn step (List.mem_append_left _ member)) running
      have same := Option.some.inj timedOut
      obtain ⟨eventless, unmoved⟩ := (driveToTerminal_eq_iff nonzero is).mp
        ⟨congrArg TerminalRecord.outcome same, congrArg TerminalRecord.mfePct same,
          congrArg TerminalRecord.maePct same⟩
      obtain rfl : step = .expires := ends.resolve_right fun settles => settles.2 eventless
      exact ⟨before, after, t, rfl, running, eventless, unmoved⟩
  · rintro ⟨before, after, t, rfl, running, eventless, unmoved⟩
    rw [List.forall_mem_append, List.forall_mem_cons] at goesOn
    obtain ⟨row, pe, is⟩ := @task_of_running ε settings v w moment before t goesOn.1 running
    obtain ⟨outcome, mfe, mae⟩ :=
      (driveToTerminal_eq_iff nonzero is).mpr ⟨eventless, unmoved⟩
    have unpaid : t.driveToTerminal.realizedPnl = none := by
      rw [VariantTask.driveToTerminal, eventless]
      rfl
    have ends := @shadowStep_expires ε settings v _ t running
    have idles := (@run_idle ε settings v after _ goesOn.2.2 (congrArg World.task ends)).1
    have through : run (shadowStep settings v) w (uninterrupted moment (before ++ .expires :: after))
        = run (shadowStep settings v) (shadowStep settings v .expires
            (run (shadowStep settings v) w (uninterrupted moment before))) after := by
      rw [uninterrupted, ← List.cons_append, run_append, run_cons]
      rfl
    rw [World.result, through, idles, ends, World.finished, row]
    simp [updateShadowVariantTerminal, unmovedTimeout, outcome, unpaid, mfe, mae]

/-- A row that no task runs for, at a restart: it is left as it is, or closed as timed out. -/
theorem result_resumed {row : VariantRow} (found : w.row = some row) (active : row.result = none)
    (idle : w.task = none) (inWindow : ((r.moment.now : ℚ) - row.createdAt) / ticksPerHour ≤
      settings.shadowReplayQueryWindowMaxHours)
    (parentOpen : checkParentOpen v r.liveParentOpen w.db = true) :
    (shadowStep settings v (.resumes r) w).task = none ∧
      (shadowStep settings v (.resumes r) w).result =
        if (r.moment.now : ℚ) - row.createdAt < 4 * ticksPerHour then none
        else some unmovedTimeout := by
  have taken : shadowStep settings v (.resumes r) w = w.resumed settings v r := by
    rw [shadowStep]
  rw [taken, World.resumed, found, idle]
  dsimp only
  rw [active, Option.isNone_none, if_pos rfl]
  by_cases early : (r.moment.now : ℚ) - row.createdAt < 4 * ticksPerHour
  · rw [if_pos early, replayShadowVariantToNow_early inWindow parentOpen early]
    exact ⟨rfl, active⟩
  · rw [if_neg early, replayShadowVariantToNow_late inWindow parentOpen (not_lt.mp early)]
    exact ⟨rfl, rfl⟩

/-- While the process is down the variant's row stays as it was, and no task runs. -/
theorem run_down :
    (run (shadowStep settings v) w (interrupted moment before during)).row =
        (run (shadowStep settings v) w (uninterrupted moment before)).row ∧
      (run (shadowStep settings v) w (interrupted moment before during)).task = none := by
  have others : ∀ step ∈ during.filter (fun step => !step.ofVariant), step.goesOn = true := by
    intro step member
    have foreign := (List.mem_filter.mp member).2
    cases step with
    | others write => rfl
    | starts | exchange | handler | settles | expires | stopped | resumes => cases foreign
  rw [interrupted, ← List.cons_append, run_append, run_cons]
  exact run_idle others rfl

/-- A restart leaves a row that has a result. -/
theorem resumes_of_result {record : TerminalRecord} (ended : w.result = some record) :
    shadowStep settings v (.resumes r) w = w := by
  have taken : shadowStep settings v (.resumes r) w = w.resumed settings v r := by
    rw [shadowStep]
  rw [taken]
  unfold World.resumed
  split
  · next row found idle =>
      have result : row.result = some record := by
        rw [World.result, found] at ended
        exact ended
      rw [result]
      rfl
  · rfl

/-- What a restart leaves without a task stays as it is. -/
theorem result_resumes (goesOn : ∀ step ∈ later, step.goesOn = true)
    (idle : (shadowStep settings v (.resumes r) w).task = none) :
    (run (shadowStep settings v) w (.resumes r :: later)).result =
      (shadowStep settings v (.resumes r) w).result := by
  rw [run_cons]
  exact congrArg (Option.bind · _) (run_idle goesOn idle).1

/-- **A restart does not show** exactly where the variant had ended before it, where the variant
that ran through has not ended, or where it has timed out without a candle off its entry price and
the restart came after the default duration.  Whatever else happens meanwhile, and in whatever order
the candles are handled. -/
theorem run_resumed_iff (settings : Settings) (v : Variant) (nonzero : v.entryPrice ≠ 0)
    {w : World ε} {moment : Moment} {before during later : List (ShadowStep ε)} {r : Replay}
    (goesOn : ∀ step ∈ before ++ during ++ later, step.goesOn = true)
    (restart : Restart settings v moment
      (run (shadowStep settings v) w (interrupted moment before during)).db r) :
    (run (shadowStep settings v) w
        (interrupted moment before during ++ .resumes r :: later)).result =
      (run (shadowStep settings v) w
        (uninterrupted moment (before ++ during ++ later))).result ↔
      Unseen settings v w moment before during later r := by
  obtain ⟨rowDown, idleDown⟩ := @run_down ε settings v w moment before during
  have goesOnBefore : ∀ step ∈ before, step.goesOn = true := fun step member =>
    goesOn step (List.mem_append_left _ (List.mem_append_left _ member))
  have goesOnAfter : ∀ step ∈ during ++ later, step.goesOn = true := fun step member =>
    goesOn step (List.append_assoc before during later ▸ List.mem_append_right before member)
  have goesOnLater : ∀ step ∈ later, step.goesOn = true := fun step member =>
    goesOn step (List.mem_append_right _ member)
  rw [run_append]
  cases running : (run (shadowStep settings v) w (uninterrupted moment before)).task with
  | none =>
      refine iff_of_true ?_ (.ended running)
      have ended := (@result_uninterrupted_eq_none_iff ε settings v w moment before
        goesOnBefore).not.mpr (not_not.mpr running)
      obtain ⟨record, result⟩ := Option.ne_none_iff_exists'.mp ended
      have resultDown :
          (run (shadowStep settings v) w (interrupted moment before during)).result =
            some record := by
        rw [World.result, rowDown]
        exact result
      have stays := @resumes_of_result ε settings v _ r record resultDown
      rw [result_resumes goesOnLater (stays.symm ▸ idleDown), stays, resultDown,
        List.append_assoc, uninterrupted, ← List.cons_append, run_append, ← result]
      exact (congrArg (Option.bind · _) (run_idle goesOnAfter running).1).symm
  | some t =>
      obtain ⟨row, -⟩ := task_of_running goesOnBefore running
      obtain ⟨idle, result⟩ := result_resumed (rowDown.trans row) rfl idleDown restart.inWindow
        restart.parentOpen
      rw [result_resumes goesOnLater idle, eq_comm]
      by_cases early : (r.moment.now : ℚ) - moment.now < 4 * ticksPerHour
      · rw [result.trans (if_pos early), result_uninterrupted_eq_none_iff goesOn]
        constructor
        · exact .unended early
        · rintro (ended | ⟨-, runs⟩ | ⟨late, -⟩)
          · rw [running] at ended
            cases ended
          · exact runs
          · exact absurd early (not_lt.mpr late)
      · rw [result.trans (if_neg early), result_uninterrupted_eq_iff nonzero goesOn]
        constructor
        · exact .unmoved (not_lt.mp early)
        · rintro (ended | ⟨early', -⟩ | ⟨-, timesOut⟩)
          · rw [running] at ended
            cases ended
          · exact absurd early' early
          · exact timesOut

end Runs

/-! ## A variant of an open trade -/

/-- The parent holds a long of 1 at 100. -/
def parentWorld : World PaperExchange :=
  run (shadowStep plainSettings plainVariant) emptyWorld parentOpens

/-- A candle through the levels given, delivered to the exchange first. -/
def delivered (high low : ℚ) : Delivery PaperExchange := { candle := btcCandle 100 high low 100 }

/-- The variant with a duration of twelve hours. -/
def longVariant : Variant :=
  { plainVariant with
    overrides := { plainVariant.overrides with maxDurationHours := some 12 } }

/-- A restart after five hours. -/
def fiveHoursLater : Replay := { moment := { now := 18000000000 }, ohlc1m := [] }

/-- The price stays where it was until the variant times out. -/
theorem flat_resumed :
    (run (shadowStep plainSettings longVariant) parentWorld
        (interrupted {} (delivered 100 100).steps [] ++
          .resumes fiveHoursLater :: [.expires])).result =
      (run (shadowStep plainSettings longVariant) parentWorld
        (uninterrupted {} ((delivered 100 100).steps ++ [] ++ [.expires]))).result := by
  have told : (run (shadowStep plainSettings longVariant) parentWorld
      (uninterrupted {} (delivered 100 100).steps)).task.map (·.pe.terminalEvents) = some [] := by
    decide +kernel
  obtain ⟨t, running, eventless⟩ := Option.map_eq_some_iff.mp told
  refine (run_resumed_iff plainSettings longVariant (by simp [longVariant, plainVariant])
    (by decide) ⟨?_, by decide +kernel⟩).mpr (.unmoved ?_
      ⟨(delivered 100 100).steps, [], t, rfl, running, eventless, ?_⟩)
  · norm_num [fiveHoursLater, ticksPerHour, plainSettings]
  · norm_num [fiveHoursLater, ticksPerHour]
  · unfold Unmoved
    decide +kernel

/-- A restart one minute later. -/
def minuteLater : Replay := { moment := { now := 60000000 }, ohlc1m := [] }

/-- The variant that ran through is stopped out by the candle after the restart; the one that was
to be resumed has no result. -/
theorem resume_raises :
    ¬ ∀ (before during later : List (ShadowStep PaperExchange)) (r : Replay),
      (∀ step ∈ before ++ during ++ later, step.goesOn = true) →
      Restart plainSettings plainVariant {}
        (run (shadowStep plainSettings plainVariant) parentWorld
          (interrupted {} before during)).db r →
      (run (shadowStep plainSettings plainVariant) parentWorld
          (interrupted {} before during ++ .resumes r :: later)).result =
        (run (shadowStep plainSettings plainVariant) parentWorld
          (uninterrupted {} (before ++ during ++ later))).result := by
  intro always
  have same := congrArg (Option.map TerminalRecord.outcome)
    (always (delivered 103 99).steps [] (delivered 101 97).steps minuteLater (by decide)
      ⟨by norm_num [minuteLater, ticksPerHour, plainSettings], by decide +kernel⟩)
  have resumed : (run (shadowStep plainSettings plainVariant) parentWorld
      (interrupted {} (delivered 103 99).steps [] ++
        .resumes minuteLater :: (delivered 101 97).steps)).result.map TerminalRecord.outcome =
      none := by
    decide +kernel
  have through : (run (shadowStep plainSettings plainVariant) parentWorld
      (uninterrupted {} ((delivered 103 99).steps ++ [] ++ (delivered 101 97).steps))).result.map
        TerminalRecord.outcome = some .slHit := by
    decide +kernel
  rw [resumed, through] at same
  cases same

end Scalper.Shadow
