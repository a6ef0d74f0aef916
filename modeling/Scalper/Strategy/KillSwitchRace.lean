import Scalper.Strategy.KillSwitch
import Scalper.Lib.Rows
import Scalper.Lib.Run
import Mathlib.Logic.Function.Iterate

/-!
# The kill switch, interleaved

The gates read the row, clear it, read the trades and latch the row in statements of their own,
each awaited and none in a transaction with another.  `issue` is one statement of an evaluation or
of the startup hook; left alone, the statements of an evaluation are the two gates
(`issue_alone`).  In `killSwitchStep` the statements of any number of tasks come in any order.

What a task read may be out of date when it writes.  A hard stop that is latched meanwhile is then
cleared, or relabelled as a daily latch, which the next day clears (`hardStop_lost`).  It survives
every run in which no such write is open when it is latched and none is opened by a sum of that
moment (`StopsAlone`, `hardStop_survives`), and in no other run is it safe from the next statement
(`runGuarded_stopsAlone_iff`).
-/

set_option autoImplicit false

namespace Scalper.Strategy

open Scalper.Lib Scalper.Execution Scalper.Scoring

/-! ## Statements -/

/-- The statement a task issues next. -/
inductive NextStatement where
  | readLossLimit
  | clearLossLimit
  | sumLossLimit
  | tripLossLimit (total : ℚ)
  | readDrawdown
  | clearDrawdown
  | peakDrawdown
  | tripDrawdown (current drawdownPct : ℚ)
  | readStartup
  | clearStartup
  | finished (verdict : Option KillSwitchVerdict)
  deriving DecidableEq, Repr

/-- Where a signal goes that the loss gate lets through. -/
def afterLossLimit (settings : GateSettings) : NextStatement :=
  if settings.risk.maxDrawdownPct ≤ 0 then .finished (some .passed) else .readDrawdown

/-- Where an evaluation begins. -/
def firstStatement (settings : GateSettings) : NextStatement :=
  if settings.risk.dailyLossLimitUsd ≤ 0 then afterLossLimit settings else .readLossLimit

/-- One statement, on the row and the trades as it finds them. -/
def issue (settings : GateSettings) (now : ℕ) (tables : TradeTables)
    (row : Option KillSwitchState) : NextStatement → NextStatement × Option KillSwitchState
  | .readLossLimit =>
      (match readLatch row now with
        | .holds state =>
            .finished (some (.lossLimit ⟨true, state.tripReason, state.cumulativeLossUsd,
              some settings.risk.dailyLossLimitUsd⟩))
        | .stale => .clearLossLimit
        | .untripped => .sumLossLimit, row)
  | .clearLossLimit => (.sumLossLimit, some clearKillSwitch)
  | .sumLossLimit =>
      (if settings.todaysPnl now tables ≤ -settings.risk.dailyLossLimitUsd then
          .tripLossLimit (settings.todaysPnl now tables)
        else afterLossLimit settings, row)
  | .tripLossLimit total =>
      (.finished (some (.lossLimit ⟨true, some .dailyLossLimit, some total,
          some settings.risk.dailyLossLimitUsd⟩)),
        some (upsertKillSwitchTrip .dailyLossLimit now total))
  | .readDrawdown =>
      (match readLatch row now with
        | .holds state =>
            .finished (some (.drawdown ⟨true, state.tripReason, none,
              some settings.risk.maxDrawdownPct⟩))
        | .stale => .clearDrawdown
        | .untripped => .peakDrawdown, row)
  | .clearDrawdown => (.peakDrawdown, some clearKillSwitch)
  | .peakDrawdown =>
      let (peak, current) := settings.peakAndCurrent tables
      (if peak ≤ 0 then .finished (some .passed)
        else if settings.risk.maxDrawdownPct ≤ drawdownPct peak current then
          .tripDrawdown current (drawdownPct peak current)
        else .finished (some .passed), row)
  | .tripDrawdown current drawdownPct =>
      (.finished (some (.drawdown ⟨true, some .maxDrawdown, some drawdownPct,
          some settings.risk.maxDrawdownPct⟩)),
        some (upsertKillSwitchTrip .maxDrawdown now current))
  | .readStartup =>
      (match row with
        | none => .finished none
        | some state => if isStaleDailyLatch state now then .clearStartup else .finished none, row)
  | .clearStartup => (.finished none, some clearKillSwitch)
  | .finished verdict => (.finished verdict, row)

/-! ## Statements without interruption -/

section Alone

variable (settings : GateSettings) (check : SignalCheck)

/-- The trades a statement of the evaluation finds. -/
def SignalCheck.tables : NextStatement → TradeTables
  | .sumLossLimit => check.atLossLimit
  | _ => check.atDrawdown

/-- The next statement of an evaluation that is left alone. -/
def issueNext (task : NextStatement × Option KillSwitchState) :
    NextStatement × Option KillSwitchState :=
  issue settings check.now (check.tables task.1) task.2 task.1

/-- The statements of an evaluation come to an end with this verdict and row. -/
def EndsWith (task : NextStatement × Option KillSwitchState)
    (outcome : KillSwitchVerdict × Option KillSwitchState) : Prop :=
  ∃ count, (issueNext settings check)^[count] task = (.finished (some outcome.1), outcome.2)

/-- The verdict of the drawdown gate. -/
def DrawdownDecision.verdict (decision : DrawdownDecision) : KillSwitchVerdict :=
  if decision.blocked then .drawdown decision else .passed

/-- The drawdown gate's verdict, or that of the loss gate where it blocks. -/
def verdictAfter (lossLimit : LossLimitDecision × Option KillSwitchState) :
    KillSwitchVerdict × Option KillSwitchState :=
  if lossLimit.1.blocked then (.lossLimit lossLimit.1, lossLimit.2)
  else
    ((checkMaxDrawdown settings check.now check.atDrawdown lossLimit.2).1.verdict,
      (checkMaxDrawdown settings check.now check.atDrawdown lossLimit.2).2)

variable {settings : GateSettings} {check : SignalCheck}
  {task : NextStatement × Option KillSwitchState} {row : Option KillSwitchState}
  {outcome : KillSwitchVerdict × Option KillSwitchState}

theorem checkKillSwitch_eq_verdictAfter :
    checkKillSwitch settings check row =
      verdictAfter settings check
        (checkDailyLossLimit settings check.now check.atLossLimit row) := by
  simp only [checkKillSwitch, verdictAfter, DrawdownDecision.verdict]
  split_ifs <;> rfl

theorem endsWith_finished (verdict : KillSwitchVerdict) (row : Option KillSwitchState) :
    EndsWith settings check (.finished (some verdict), row) (verdict, row) := ⟨0, rfl⟩

theorem EndsWith.next (ends : EndsWith settings check (issueNext settings check task) outcome) :
    EndsWith settings check task outcome := by
  obtain ⟨count, ended⟩ := ends
  exact ⟨count + 1, (Function.iterate_succ_apply _ count task).trans ended⟩

theorem endsWith_compareDrawdown (row : Option KillSwitchState) :
    EndsWith settings check (.peakDrawdown, row)
      ((compareDrawdown settings check.now check.atDrawdown row).1.verdict,
        (compareDrawdown settings check.now check.atDrawdown row).2) := by
  rcases found : settings.peakAndCurrent check.atDrawdown with ⟨peak, current⟩
  refine EndsWith.next ?_
  simp only [issueNext, issue, SignalCheck.tables, compareDrawdown, found]
  by_cases flat : peak ≤ 0
  · simp only [if_pos flat]
    exact endsWith_finished _ _
  · by_cases trips : settings.risk.maxDrawdownPct ≤ drawdownPct peak current
    · simp only [if_neg flat, if_pos trips]
      exact EndsWith.next (endsWith_finished _ _)
    · simp only [if_neg flat, if_neg trips]
      exact endsWith_finished _ _

theorem endsWith_checkMaxDrawdown (row : Option KillSwitchState) :
    EndsWith settings check (afterLossLimit settings, row)
      ((checkMaxDrawdown settings check.now check.atDrawdown row).1.verdict,
        (checkMaxDrawdown settings check.now check.atDrawdown row).2) := by
  unfold afterLossLimit checkMaxDrawdown
  split_ifs with disabled
  · exact endsWith_finished _ _
  · refine EndsWith.next ?_
    cases latch : readLatch row check.now with
    | holds state =>
        simp only [issueNext, issue, behindLatch, latch]
        exact endsWith_finished _ _
    | stale =>
        simp only [issueNext, issue, behindLatch, latch]
        exact EndsWith.next (endsWith_compareDrawdown _)
    | untripped =>
        simp only [issueNext, issue, behindLatch, latch]
        exact endsWith_compareDrawdown row

/-- The rest of the loss gate, and the drawdown gate behind it. -/
theorem endsWith_sumLossLimit (row : Option KillSwitchState) :
    EndsWith settings check (.sumLossLimit, row)
      (verdictAfter settings check (sumLossLimit settings check.now check.atLossLimit row)) := by
  refine EndsWith.next ?_
  by_cases trips :
      settings.todaysPnl check.now check.atLossLimit ≤ -settings.risk.dailyLossLimitUsd
  · have summed : issueNext settings check (.sumLossLimit, row) =
        (.tripLossLimit (settings.todaysPnl check.now check.atLossLimit), row) := by
      simp [issueNext, issue, SignalCheck.tables, trips]
    rw [summed]
    simp only [sumLossLimit, if_pos trips]
    exact EndsWith.next (endsWith_finished _ _)
  · have summed : issueNext settings check (.sumLossLimit, row) =
        (afterLossLimit settings, row) := by
      simp [issueNext, issue, SignalCheck.tables, trips]
    rw [summed]
    simp only [sumLossLimit, if_neg trips]
    exact endsWith_checkMaxDrawdown row

/-- With nothing in between, the statements of an evaluation are the two gates. -/
theorem issue_alone (row : Option KillSwitchState) :
    EndsWith settings check (firstStatement settings, row)
      (checkKillSwitch settings check row) := by
  rw [checkKillSwitch_eq_verdictAfter]
  unfold firstStatement checkDailyLossLimit
  split_ifs with disabled
  · exact endsWith_checkMaxDrawdown row
  · refine EndsWith.next ?_
    cases latch : readLatch row check.now with
    | holds state =>
        simp only [issueNext, issue, behindLatch, latch]
        exact endsWith_finished _ _
    | stale =>
        simp only [issueNext, issue, behindLatch, latch]
        exact EndsWith.next (endsWith_sumLossLimit _)
    | untripped =>
        simp only [issueNext, issue, behindLatch, latch]
        exact endsWith_sumLossLimit row

/-- With nothing in between, the statements of the startup hook are the hook. -/
theorem issue_alone_startup (now : ℕ) (tables : TradeTables) (row : Option KillSwitchState) :
    (issue settings now tables row .readStartup).1 = .finished none ∧
        reconcileKillSwitchOnStartup now false row = row ∨
      (issue settings now tables row .readStartup).1 = .clearStartup ∧
        reconcileKillSwitchOnStartup now false row =
          (issue settings now tables row .clearStartup).2 := by
  cases row with
  | none => exact .inl ⟨rfl, rfl⟩
  | some state =>
      cases stale : isStaleDailyLatch state now with
      | false => exact .inl (by simp [issue, reconcileKillSwitchOnStartup, stale])
      | true => exact .inr (by simp [issue, reconcileKillSwitchOnStartup, stale])

end Alone

/-! ## Tasks in any order -/

/-- An evaluation or the startup hook, with the time it read when it began. -/
structure GateTask where
  now : ℕ
  next : NextStatement
  deriving DecidableEq, Repr

/-- The row of the bot, and the tasks there have been. -/
structure KillSwitchTasks where
  row : Option KillSwitchState
  tasks : List GateTask := []
  deriving DecidableEq, Repr

/-- A step of the tasks of the kill switch. -/
inductive KillSwitchStep where
  /-- A signal reaches the gates. -/
  | signal (now : ℕ)
  /-- The strategy engine starts. -/
  | startup (now : ℕ)
  /-- A task issues its next statement. -/
  | issues (task : ℕ) (tables : TradeTables)
  /-- A task ends with an exception. -/
  | fails (task : ℕ)
  deriving DecidableEq, Repr

def killSwitchStep (settings : GateSettings) : KillSwitchStep → KillSwitchTasks → KillSwitchTasks
  | .signal now, s => { s with tasks := s.tasks ++ [⟨now, firstStatement settings⟩] }
  | .startup now, s => { s with tasks := s.tasks ++ [⟨now, .readStartup⟩] }
  | .issues i tables, s =>
      match s.tasks[i]? with
      | none => s
      | some task =>
          let issued := issue settings task.now tables s.row task.next
          { row := issued.2
            tasks := s.tasks.modify i fun task => { task with next := issued.1 } }
  | .fails i, s =>
      { s with tasks := s.tasks.modify i fun task => { task with next := .finished none } }

/-- The row is latched for the drawdown. -/
def hardStop (row : Option KillSwitchState) : Bool :=
  row.any fun state => state.tripped && state.tripReason = some .maxDrawdown

/-- The statement clears the row or makes it a daily latch. -/
def NextStatement.overwrites : NextStatement → Bool
  | .clearLossLimit | .tripLossLimit _ | .clearDrawdown | .clearStartup => true
  | _ => false

/-- The statement latches the hard stop. -/
def NextStatement.stops : NextStatement → Bool
  | .tripDrawdown _ _ => true
  | _ => false

/-- The hard stop is latched while no task is about to overwrite the row, and a task that sums the
day's loss behind it finds the limit not reached. -/
def StopsAlone (settings : GateSettings) (s : KillSwitchTasks) : KillSwitchStep → Prop
  | .issues i tables =>
      ∀ task ∈ s.tasks[i]?,
        (task.next.stops = true → ∀ other ∈ s.tasks, other.next.overwrites = false) ∧
        (task.next = .sumLossLimit → hardStop s.row = true →
          -settings.risk.dailyLossLimitUsd < settings.todaysPnl task.now tables)
  | _ => True

instance (settings : GateSettings) (s : KillSwitchTasks) :
    ∀ step, Decidable (StopsAlone settings s step)
  | .issues i _ => inferInstanceAs (Decidable (∀ task ∈ s.tasks[i]?, _ ∧ _))
  | .signal _ | .startup _ | .fails _ => isTrue trivial

/-- Nothing is about to overwrite the hard stop. -/
def Unthreatened (s : KillSwitchTasks) : Prop :=
  hardStop s.row = true → ∀ task ∈ s.tasks, task.next.overwrites = false

section Steps

variable {settings : GateSettings} {s : KillSwitchTasks} {now i : ℕ} {tables : TradeTables}
  {row : Option KillSwitchState} {next : NextStatement}

@[simp] theorem overwrites_afterLossLimit : (afterLossLimit settings).overwrites = false := by
  unfold afterLossLimit
  split_ifs <;> rfl

@[simp] theorem overwrites_firstStatement : (firstStatement settings).overwrites = false := by
  unfold firstStatement
  split_ifs
  · exact overwrites_afterLossLimit
  · rfl

theorem hardStop_iff :
    hardStop row = true ↔ ∃ state, row = some state ∧ state.tripped = true ∧
      state.tripReason = some .maxDrawdown := by
  cases row <;> simp [hardStop]

/-- Every read of the hard stop finds a latch that holds. -/
theorem readLatch_of_hardStop (stopped : hardStop row = true) (now : ℕ) :
    ∃ state, row = some state ∧ readLatch row now = .holds state ∧
      isStaleDailyLatch state now = false := by
  obtain ⟨state, rfl, tripped, hard⟩ := hardStop_iff.mp stopped
  have fresh : isStaleDailyLatch state now = false := by simp [isStaleDailyLatch, hard]
  exact ⟨state, rfl, by simp [readLatch, tripped, fresh], fresh⟩

/-- A statement keeps the hard stop unless it overwrites the row. -/
theorem hardStop_issue (stopped : hardStop row = true) :
    hardStop (issue settings now tables row next).2 = !next.overwrites := by
  cases next with
  | clearLossLimit | clearDrawdown | clearStartup | tripLossLimit _ | tripDrawdown _ _ => rfl
  | _ => exact stopped

/-- A statement latches the hard stop only where it is the trip of the drawdown gate. -/
theorem hardStop_issue_of_not (clear : hardStop row = false) :
    hardStop (issue settings now tables row next).2 = next.stops := by
  cases next with
  | clearLossLimit | clearDrawdown | clearStartup | tripLossLimit _ | tripDrawdown _ _ => rfl
  | _ => exact clear

/-- Behind the hard stop, only a sum that reaches the limit leads to overwriting the row. -/
theorem overwrites_issue (stopped : hardStop row = true) :
    (issue settings now tables row next).1.overwrites = true ↔
      next = .sumLossLimit ∧
        settings.todaysPnl now tables ≤ -settings.risk.dailyLossLimitUsd := by
  obtain ⟨state, rfl, latch, fresh⟩ := readLatch_of_hardStop stopped now
  cases next with
  | sumLossLimit =>
      by_cases trips : settings.todaysPnl now tables ≤ -settings.risk.dailyLossLimitUsd
      · simp [issue, trips, NextStatement.overwrites]
      · simp [issue, trips]
  | peakDrawdown =>
      simp only [issue, reduceCtorEq, false_and, iff_false, Bool.not_eq_true]
      split_ifs <;> rfl
  | readLossLimit | readDrawdown => simp [issue, latch, NextStatement.overwrites]
  | readStartup => simp [issue, fresh, NextStatement.overwrites]
  | _ => simp [issue, NextStatement.overwrites]

theorem not_overwrites_of_stops {next : NextStatement} (stops : next.stops = true) :
    next.overwrites = false ∧ (issue settings now tables row next).1.overwrites = false := by
  cases next with
  | tripDrawdown current drawdownPct => exact ⟨rfl, rfl⟩
  | _ => exact Bool.noConfusion stops

/-- **Nothing threatens the hard stop after a step exactly when the step meets the condition.** -/
theorem unthreatened_step_iff (unthreatened : Unthreatened s) (step : KillSwitchStep) :
    Unthreatened (killSwitchStep settings step s) ↔ StopsAlone settings s step := by
  cases step with
  | signal now =>
      refine iff_of_true (fun stopped task member => ?_) trivial
      rcases List.mem_append.mp member with old | new
      · exact unthreatened stopped task old
      · rw [List.mem_singleton.mp new]
        exact overwrites_firstStatement
  | startup now =>
      refine iff_of_true (fun stopped task member => ?_) trivial
      rcases List.mem_append.mp member with old | new
      · exact unthreatened stopped task old
      · rw [List.mem_singleton.mp new]
        rfl
  | fails i =>
      refine iff_of_true (fun stopped => ?_) trivial
      simp only [killSwitchStep] at stopped ⊢
      cases found : s.tasks[i]? with
      | none =>
          rw [List.modify_eq_self (List.getElem?_eq_none_iff.mp found)]
          exact unthreatened stopped
      | some task =>
          have others := unthreatened stopped
          exact (forall_mem_modify_iff found (others task (List.mem_of_getElem? found))).mpr
            ⟨rfl, others⟩
  | issues i tables =>
      cases found : s.tasks[i]? with
      | none => simp [killSwitchStep, StopsAlone, found, unthreatened]
      | some task =>
          have member : task ∈ s.tasks := List.mem_of_getElem? found
          simp only [killSwitchStep, found, StopsAlone, Option.mem_some_iff, forall_eq',
            Unthreatened]
          cases stopped : hardStop s.row with
          | true =>
              -- The row stays latched: it is left to see what the task does next.
              have others := unthreatened stopped
              have quiet : task.next.overwrites = false := others task member
              have next : (issue settings task.now tables s.row task.next).1.overwrites = true ↔
                  task.next = .sumLossLimit ∧
                    settings.todaysPnl task.now tables ≤ -settings.risk.dailyLossLimitUsd :=
                overwrites_issue stopped
              rw [hardStop_issue stopped, quiet, forall_mem_modify_iff found quiet,
                ← Bool.not_eq_true (NextStatement.overwrites _), next]
              simp only [Bool.not_false, forall_const, not_and, not_le]
              exact ⟨fun safe => ⟨fun _ => safe.2, safe.1⟩, fun alone => ⟨alone.2, others⟩⟩
          | false =>
              -- The row is latched now or not at all.
              rw [hardStop_issue_of_not stopped]
              constructor
              · refine fun safe => ⟨fun stops => ?_, fun _ latched => nomatch latched⟩
                have quiet : task.next.overwrites = false ∧
                    (issue settings task.now tables s.row task.next).1.overwrites = false :=
                  not_overwrites_of_stops stops
                exact ((forall_mem_modify_iff found quiet.1).mp (safe stops)).2
              · rintro ⟨alone, _⟩ stops
                have quiet : task.next.overwrites = false ∧
                    (issue settings task.now tables s.row task.next).1.overwrites = false :=
                  not_overwrites_of_stops stops
                exact (forall_mem_modify_iff found quiet.1).mpr ⟨quiet.2, alone stops⟩

/-- Where nothing threatens the hard stop, a step keeps it. -/
theorem hardStop_step (unthreatened : Unthreatened s) (stopped : hardStop s.row = true)
    (step : KillSwitchStep) : hardStop (killSwitchStep settings step s).row = true := by
  cases step with
  | signal now | startup now | fails i => exact stopped
  | issues i tables =>
      cases found : s.tasks[i]? with
      | none => simpa only [killSwitchStep, found] using stopped
      | some task =>
          simp only [killSwitchStep, found]
          rw [hardStop_issue stopped, unthreatened stopped task (List.mem_of_getElem? found)]
          rfl

/-- Where something threatens it, the next statement of that task loses it. -/
theorem unthreatened_iff_hardStop_step :
    Unthreatened s ↔ (hardStop s.row = true → ∀ step,
      hardStop (killSwitchStep settings step s).row = true) := by
  refine ⟨fun unthreatened stopped step => hardStop_step unthreatened stopped step, ?_⟩
  intro kept stopped task member
  obtain ⟨i, found⟩ := List.getElem?_of_mem member
  have after := kept stopped (.issues i {})
  simp only [killSwitchStep, found] at after
  rw [hardStop_issue stopped] at after
  simpa using after

end Steps

/-! ## Runs -/

section Runs

variable {settings : GateSettings} {row : Option KillSwitchState}
  {steps later : List KillSwitchStep}

theorem unthreatened_start (row : Option KillSwitchState) :
    Unthreatened { row := row } := fun _ _ member => absurd member List.not_mem_nil

theorem unthreatened_run {s : KillSwitchTasks} (unthreatened : Unthreatened s)
    (guarded : RunGuarded (StopsAlone settings) (killSwitchStep settings) s steps) :
    Unthreatened (run (killSwitchStep settings) s steps) :=
  run_invariant Unthreatened
    (fun _ step safe alone => (unthreatened_step_iff safe step).mpr alone) unthreatened guarded

/-- **The hard stop survives every run in which it is latched alone**: from whatever row the tasks
begin, once it is latched it is neither cleared nor made a daily latch. -/
theorem hardStop_survives
    (guarded : RunGuarded (StopsAlone settings) (killSwitchStep settings) { row := row }
      (steps ++ later))
    (stopped : hardStop (run (killSwitchStep settings) { row := row } steps).row = true) :
    hardStop (run (killSwitchStep settings) { row := row } (steps ++ later)).row = true := by
  obtain ⟨before, after⟩ := runGuarded_append.mp guarded
  rw [run_append]
  have reached := unthreatened_run (unthreatened_start row) before
  have kept := run_invariant
    (fun s : KillSwitchTasks => Unthreatened s ∧ hardStop s.row = true)
    (fun _ step safe alone => ⟨(unthreatened_step_iff safe.1 step).mpr alone,
      hardStop_step safe.1 safe.2 step⟩) ⟨reached, stopped⟩ after
  exact kept.2

/-- A run meets the condition exactly when at no point of it any next statement could lose the hard
stop. -/
theorem runGuarded_stopsAlone_iff :
    RunGuarded (StopsAlone settings) (killSwitchStep settings) { row := row } steps ↔
      ∀ done, done <+: steps →
        hardStop (run (killSwitchStep settings) { row := row } done).row = true → ∀ step,
          hardStop (killSwitchStep settings step
            (run (killSwitchStep settings) { row := row } done)).row = true := by
  rw [runGuarded_iff_forall_split Unthreatened (fun _ step safe => unthreatened_step_iff safe step)
    steps (unthreatened_start row)]
  exact forall₂_congr fun done _ => unthreatened_iff_hardStop_step

end Runs

/-! ## How the hard stop is lost -/

/-- The bot won two hundred, lost half of it two days later and is under yesterday's daily latch. -/
def latchedYesterday : Option KillSwitchState :=
  some (upsertKillSwitchTrip .dailyLossLimit (2 * ticksPerDay) (-100))

def halfLost : TradeTables := closedResults [(0, 200), (2, -100)]

/-- The same, and fifty more lost today. -/
def lostToday : TradeTables := closedResults [(0, 200), (2, -100), (3, -50)]

/-- Two signals of the next day.  The second clears the latch and latches the hard stop before the
first clears what it read. -/
def clearedLate : List KillSwitchStep × List KillSwitchStep :=
  ([.signal (3 * ticksPerDay), .signal (3 * ticksPerDay), .issues 0 halfLost, .issues 1 halfLost,
      .issues 1 halfLost, .issues 1 halfLost, .issues 1 halfLost, .issues 1 halfLost,
      .issues 1 halfLost],
    [.issues 0 halfLost])

/-- Two signals with no latch.  The second latches the hard stop; a trade closes at a loss; the
first, which read no latch, sums the day's loss and latches that. -/
def relabelled : List KillSwitchStep × List KillSwitchStep :=
  ([.signal (3 * ticksPerDay), .signal (3 * ticksPerDay), .issues 0 halfLost, .issues 1 halfLost,
      .issues 1 halfLost, .issues 1 halfLost, .issues 1 halfLost, .issues 1 halfLost],
    [.issues 0 lostToday, .issues 0 lostToday])

/-- A stale read clears the hard stop, or replaces it by a daily latch. -/
theorem hardStop_lost :
    (hardStop (run (killSwitchStep fiftyAndHalf) { row := latchedYesterday } clearedLate.1).row =
        true ∧
      (run (killSwitchStep fiftyAndHalf) { row := latchedYesterday }
        (clearedLate.1 ++ clearedLate.2)).row = some clearKillSwitch) ∧
    hardStop (run (killSwitchStep fiftyAndHalf) { row := none } relabelled.1).row = true ∧
      (run (killSwitchStep fiftyAndHalf) { row := none } (relabelled.1 ++ relabelled.2)).row =
        some (upsertKillSwitchTrip .dailyLossLimit (3 * ticksPerDay) (-50)) := by
  decide +kernel

/-- The stale latch is cleared before the second signal comes, and the hard stop is kept. -/
theorem hardStop_survives_second :
    hardStop (run (killSwitchStep fiftyAndHalf) { row := latchedYesterday }
      ([.signal (3 * ticksPerDay), .issues 0 halfLost, .issues 0 halfLost, .issues 0 halfLost,
          .issues 0 halfLost, .issues 0 halfLost, .issues 0 halfLost] ++
        [.signal (3 * ticksPerDay), .startup (4 * ticksPerDay), .issues 1 lostToday,
          .issues 2 lostToday])).row = true :=
  hardStop_survives (by decide +kernel) (by decide +kernel)

end Scalper.Strategy
