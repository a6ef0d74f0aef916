import Scalper.Execution.RowIdentity
import Scalper.Lib.DecimalText

/-!
# What ends a monitor

`run_position_monitor_for_trade` once more, from its poll on: the price is read from the key-value
bucket, where the read may raise and the bytes may be anything.  The calls to the exchange end in any
of the adapter's error classes; the database answers, but for a price it cannot store.  Other tasks
change the tables and the exchange between any two awaits.

`run_outlives_iff` says what the task survives: it ends in order, because its row is gone or because
it is cancelled, exactly as long as no step is `Fatal`.  The key-value read and the instrument read
stand outside the `try` blocks, and a text such as `NaN` passes the decode and raises in the first
comparison; each of these ends the task of an open position (`standing_ends`).
-/

set_option autoImplicit false

namespace Scalper.Execution

open Scalper.Lib Scalper.Exchange

/-! ## The task -/

/-- What `kv_get` raises. -/
inductive BusError where
  | notConnected
  | publish
  deriving DecidableEq, Repr

/-- A monitor with its threshold for stale ticks.  `stores` is whether the driver and the columns
`NUMERIC(30, 12)` and `NUMERIC(20, 4)` take the metrics of a row and a price. -/
structure MonitorSettings where
  monitor : Monitor
  staleTicksThreshold : ℕ
  stores : PositionStateRow → DecimalNumber → Bool

/-- What the task logs of its polls. -/
inductive PollEvent where
  | lifecyclePriceStalePause (staleTicks : ℕ)
  | lifecyclePriceDecodeError
  | lifecycleExitPositionClosed
  deriving DecidableEq, Repr

/-- The task with its stale count, and whether the metrics of its last price can be stored. -/
structure MonitorTask where
  desk : Desk := {}
  staleCount : ℕ := 0
  storable : Bool := true
  cancelled : Bool := false
  log : List PollEvent := []

/-- One await of the task with how it ends, or what happens meanwhile. -/
inductive MonitorInput where
  | polls (answer : Except BusError (Option ByteArray))
  | ticks (now : ℕ)
  | detects (answer : PositionsAnswer) (now : ℕ)
  | decides (instrumentInfo : Except ExchangeError Unit)
  | sets (outcome : StopOutcome)
  | persists (now : ℕ)
  | marks
  | others (db : Db) (stop : ExchangeStop)
  | cancels

namespace MonitorTask

def isOver (w : MonitorTask) : Bool := w.cancelled || w.desk.phase.ended

def enters (phase : TickPhase) (w : MonitorTask) : MonitorTask :=
  { w with desk := { w.desk with phase := phase } }

def logs (event : PollEvent) (w : MonitorTask) : MonitorTask := { w with log := w.log ++ [event] }

end MonitorTask

section Semantics

variable (c : MonitorSettings)

/-- A move of the monitor itself. -/
def MonitorTask.moves (move : MonitorMove) (w : MonitorTask) : MonitorTask :=
  { w with desk := monitorStep c.monitor move w.desk }

/-- No price: the tick is stale, and once a warning is due. -/
def MonitorTask.stalls (w : MonitorTask) : MonitorTask :=
  let stalled := { w with staleCount := w.staleCount + 1 }
  if stalled.staleCount = c.staleTicksThreshold then
    stalled.logs (.lifecyclePriceStalePause stalled.staleCount)
  else stalled

/-- The row is read with the decoded price.  A NaN raises in its first comparison, or in the
subtraction before it, and the columns take no infinity. -/
def MonitorTask.readsRow (value : DecimalValue) (w : MonitorTask) : MonitorTask :=
  match w.desk.db.selectPositionState c.monitor.key with
  | none => (w.enters .returned).logs .lifecycleExitPositionClosed
  | some ps =>
      match value with
      | .finite number =>
          { w with storable := c.stores ps number }.enters (.ticking ⟨ps, number.value⟩)
      | .infinite _ | .nan _ => w.enters .raised

/-- The poll of the loop. -/
def MonitorTask.polls (answer : Except BusError (Option ByteArray)) (w : MonitorTask) :
    MonitorTask :=
  match answer with
  | .error _ => w.enters .raised
  | .ok none => w.stalls c
  | .ok (some bytes) =>
      match decodeDecimal bytes with
      | none => { w with staleCount := w.staleCount + 1 }.logs .lifecyclePriceDecodeError
      | some value => { w with staleCount := 0 }.readsRow c value

/-- One await of the task, or what happens meanwhile. -/
def monitorTick (input : MonitorInput) (w : MonitorTask) : MonitorTask :=
  if w.isOver then w
  else
    match input with
    | .polls answer => if w.desk.phase = .asleep then w.polls c answer else w
    | .ticks now => w.moves c (.ticks now w.storable)
    | .detects answer now => w.moves c (.detects answer now true)
    | .decides instrumentInfo => w.moves c (.decides instrumentInfo.isOk)
    | .sets outcome => w.moves c (.sets outcome)
    | .persists now => w.moves c (.persists now true)
    | .marks => w.moves c (.marks true)
    | .others db stop => { w with desk := { w.desk with db := db, stop := stop } }
    | .cancels => { w with cancelled := true }

end Semantics

/-! ## The property and its condition -/

section Properties

variable (c : MonitorSettings)

/-- A task that ends is cancelled, or returns because its row is gone. -/
def Outlives (w : MonitorTask) (input : MonitorInput) : Prop :=
  w.isOver = false → (monitorTick c input w).isOver = true →
    input = .cancels ∨
      (monitorTick c input w).desk.phase = .returned ∧
        w.desk.db.selectPositionState c.monitor.key = none

/-- A stop is to be moved in the decision of a tick. -/
def Reading.stopDue (m : Monitor) (r : Reading) (params : FsmParams) : Bool :=
  if r.ps.slType = some .protective then
    checkBeTrigger m.side r.price m.entryPrice params.beTrigger
  else
    decide (r.ps.slType = some .trail ∧ r.ps.bestPrice.isSome ∧
      some (r.newBest m.side) ≠ r.ps.bestPrice)

/-- The decision of a tick raises: the trade has no parameters, the trigger is a ratio to an entry
price of zero, or a stop is due and the instrument's tick cannot be read or is not positive. -/
def DecisionFails (r : Reading) (instrumentInfo : Except ExchangeError Unit) (db : Db) : Prop :=
  match db.selectTradeFsmParams c.monitor.tradeId with
  | none => False
  | some none => True
  | some (some params) =>
      r.ps.slType = some .protective ∧ c.monitor.entryPrice = 0 ∨
        r.stopDue c.monitor params = true ∧
          (instrumentInfo.isOk = false ∨ c.monitor.tickSize ≤ 0)

/-- The steps that end the task of a standing position. -/
def Fatal (w : MonitorTask) (input : MonitorInput) : Prop :=
  w.isOver = false ∧
    match input, w.desk.phase with
    | .polls (.error _), .asleep => True
    | .polls (.ok (some bytes)), .asleep =>
        (w.desk.db.selectPositionState c.monitor.key).isSome ∧
          (decodeDecimal bytes).any (fun value => !value.isFinite) = true
    | .ticks _, .ticking _ => w.storable = false
    | .decides instrumentInfo, .deciding r => DecisionFails c r instrumentInfo w.desk.db
    | _, _ => False

end Properties

/-! ## What a step ends -/

section Steps

variable {c : MonitorSettings} {w : MonitorTask} {m : Monitor}

/-- When no stop can be chosen. -/
theorem chooseStop_eq_none_iff {r : Reading} {params : FsmParams} {instrumentInfo : Bool} :
    chooseStop m r params instrumentInfo = none ↔
      r.ps.slType = some .protective ∧ m.entryPrice = 0 ∨
        r.stopDue m params = true ∧ (instrumentInfo = false ∨ m.tickSize ≤ 0) := by
  unfold chooseStop Reading.stopDue
  dsimp only
  rcases le_or_gt m.tickSize 0 with nonpositive | positive
  · have refused (price : ℚ) : quantizePrice price m.side m.tickSize =
        .error (.tickNotPositive m.tickSize) := quantizePrice_of_nonpos nonpositive
    cases instrumentInfo with
    | false => split_ifs <;> simp_all
    | true => split_ifs <;> simp_all
  · have rounded (price : ℚ) : quantizePrice price m.side m.tickSize =
        .ok (m.side.toIntegral (price / m.tickSize) * m.tickSize) := quantizePrice_of_pos positive
    cases instrumentInfo with
    | false => split_ifs <;> simp_all
    | true => split_ifs <;> simp_all

/-- The decision of a tick raises, or the task goes on. -/
theorem decides_cases {d : Desk} {r : Reading} (here : d.phase = .deciding r)
    (instrumentInfo : Except ExchangeError Unit) :
    (DecisionFails c r instrumentInfo d.db ∧
        (monitorStep c.monitor (.decides instrumentInfo.isOk) d).phase = .raised) ∨
      ¬ DecisionFails c r instrumentInfo d.db ∧
        (monitorStep c.monitor (.decides instrumentInfo.isOk) d).phase.ended = false := by
  simp only [monitorStep, here, DecisionFails]
  cases d.db.selectTradeFsmParams c.monitor.tradeId with
  | none => exact .inr ⟨id, rfl⟩
  | some stored =>
      cases stored with
      | none => exact .inl ⟨trivial, rfl⟩
      | some params =>
          dsimp only
          rw [← chooseStop_eq_none_iff]
          cases chooseStop c.monitor r params instrumentInfo.isOk with
          | none => exact .inl ⟨rfl, rfl⟩
          | some choice =>
              cases choice with
              | none => exact .inr ⟨Option.some_ne_none _, rfl⟩
              | some new => exact .inr ⟨Option.some_ne_none _, rfl⟩

/-- A poll ends the task where the read raises, where the row is gone, and where the price is not
finite. -/
theorem polls_over (running : w.isOver = false) (asleep : w.desk.phase = .asleep)
    (answer : Except BusError (Option ByteArray)) :
    ((w.polls c answer).isOver = false ∧ ¬ Fatal c w (.polls answer)) ∨
      ((w.polls c answer).desk.phase = .returned ∧
        w.desk.db.selectPositionState c.monitor.key = none ∧ ¬ Fatal c w (.polls answer)) ∨
      (w.polls c answer).desk.phase = .raised ∧ Fatal c w (.polls answer) := by
  have live : w.cancelled = false := by
    simp only [MonitorTask.isOver, Bool.or_eq_false_iff] at running
    exact running.1
  cases answer with
  | error raised =>
      exact .inr (.inr ⟨rfl, by simp [Fatal, running, asleep]⟩)
  | ok latest =>
      cases latest with
      | none =>
          refine .inl ⟨?_, by simp [Fatal]⟩
          simp only [MonitorTask.polls, MonitorTask.stalls]
          split_ifs <;> simp [MonitorTask.logs, MonitorTask.isOver, live, asleep, TickPhase.ended]
      | some bytes =>
          simp only [MonitorTask.polls, Fatal, running, asleep, true_and]
          cases decodeDecimal bytes with
          | none =>
              refine .inl ⟨?_, by simp⟩
              simp [MonitorTask.logs, MonitorTask.isOver, live, asleep, TickPhase.ended]
          | some value =>
              simp only [MonitorTask.readsRow, Option.any_some]
              cases w.desk.db.selectPositionState c.monitor.key with
              | none =>
                  refine .inr (.inl ⟨rfl, rfl, by simp⟩)
              | some ps =>
                  cases value with
                  | finite number =>
                      refine .inl ⟨?_, by simp [DecimalValue.isFinite]⟩
                      simp [MonitorTask.enters, MonitorTask.isOver, live, TickPhase.ended]
                  | infinite | nan =>
                      exact .inr (.inr ⟨rfl, by simp [DecimalValue.isFinite]⟩)

/-- A move whose statement and call return. -/
def MonitorMove.returns : MonitorMove → Bool
  | .ticks _ commits | .detects _ _ commits | .persists _ commits | .marks commits => commits
  | .sets _ => true
  | .reads _ | .readFails | .decides _ => false

/-- Such a move ends no task. -/
theorem monitorStep_goesOn {move : MonitorMove} {d : Desk} (returns : move.returns = true)
    (going : d.phase.ended = false) : (monitorStep m move d).phase.ended = false := by
  cases move with
  | reads | readFails | decides => cases returns
  | ticks now commits =>
      obtain rfl : commits = true := returns
      cases here : d.phase <;> simp_all [monitorStep, TickPhase.ended]
  | detects answer now commits =>
      obtain rfl : commits = true := returns
      cases here : d.phase with
      | detecting r =>
          simp only [monitorStep, here, if_true]
          cases detectSlOverwrite m r answer d.stop <;> rfl
      | _ => simp_all [monitorStep, TickPhase.ended]
  | sets outcome =>
      cases here : d.phase with
      | setting new => cases outcome <;> simp [monitorStep, here, TickPhase.ended]
      | _ => simp_all [monitorStep, TickPhase.ended]
  | persists now commits =>
      obtain rfl : commits = true := returns
      cases here : d.phase <;> simp_all [monitorStep, TickPhase.ended]
  | marks commits =>
      obtain rfl : commits = true := returns
      cases here : d.phase <;> simp_all [monitorStep, TickPhase.ended]

/-- A step that goes on is in order. -/
theorem outlives_of_goesOn {input : MonitorInput} (goesOn : (monitorTick c input w).isOver = false)
    (harmless : ¬ Fatal c w input) : Outlives c w input ↔ ¬ Fatal c w input :=
  iff_of_true (fun _ ended => by rw [goesOn] at ended; cases ended) harmless

/-- A step that raises is not. -/
theorem outlives_of_raised {input : MonitorInput} (running : w.isOver = false)
    (raised : (monitorTick c input w).desk.phase = .raised) (cancels : input ≠ .cancels)
    (fatal : Fatal c w input) : Outlives c w input ↔ ¬ Fatal c w input := by
  refine iff_of_false (fun outlives => ?_) (not_not.mpr fatal)
  rcases outlives running (by simp [MonitorTask.isOver, raised, TickPhase.ended]) with
    cancelled | ⟨returned, -⟩
  · exact cancels cancelled
  · rw [raised] at returned
    cases returned

/-- A move that returns is in order. -/
theorem outlives_of_moves {input : MonitorInput} (move : MonitorMove)
    (running : w.isOver = false) (call : monitorTick c input w = w.moves c move)
    (returns : move.returns = true) (harmless : ¬ Fatal c w input) :
    Outlives c w input ↔ ¬ Fatal c w input := by
  obtain ⟨live, going⟩ := Bool.or_eq_false_iff.mp running
  refine outlives_of_goesOn ?_ harmless
  rw [call]
  simp [MonitorTask.isOver, MonitorTask.moves, live, monitorStep_goesOn returns going]

/-- A move that the task does not wait for leaves it. -/
theorem outlives_of_unmoved {input : MonitorInput} (move : MonitorMove)
    (running : w.isOver = false) (call : monitorTick c input w = w.moves c move)
    (unmoved : monitorStep c.monitor move w.desk = w.desk) (harmless : ¬ Fatal c w input) :
    Outlives c w input ↔ ¬ Fatal c w input := by
  refine outlives_of_goesOn ?_ harmless
  rw [call, MonitorTask.moves, unmoved]
  exact running

theorem outlives_polls_iff (running : w.isOver = false)
    (answer : Except BusError (Option ByteArray)) :
    Outlives c w (.polls answer) ↔ ¬ Fatal c w (.polls answer) := by
  by_cases asleep : w.desk.phase = .asleep
  · have call : monitorTick c (.polls answer) w = w.polls c answer := by
      simp [monitorTick, running, asleep]
    rcases polls_over running asleep answer with
      ⟨goesOn, harmless⟩ | ⟨returned, gone, harmless⟩ | ⟨raised, fatal⟩
    · exact outlives_of_goesOn (call ▸ goesOn) harmless
    · refine iff_of_true (fun _ _ => .inr ⟨?_, gone⟩) harmless
      rw [call]
      exact returned
    · exact outlives_of_raised running (call ▸ raised) (by simp) fatal
  · refine outlives_of_goesOn ?_ ?_
    · simp [monitorTick, running, asleep]
    · simp only [Fatal, running, true_and]
      split <;> simp_all

theorem outlives_ticks_iff (running : w.isOver = false) (now : ℕ) :
    Outlives c w (.ticks now) ↔ ¬ Fatal c w (.ticks now) := by
  have call : monitorTick c (.ticks now) w = w.moves c (.ticks now w.storable) := by
    simp [monitorTick, running]
  cases storable : w.storable with
  | true =>
      refine outlives_of_moves (.ticks now true) running (storable ▸ call) rfl ?_
      simp only [Fatal, running, storable, true_and]
      split <;> simp_all
  | false =>
      rw [storable] at call
      cases here : w.desk.phase with
      | ticking r =>
          refine outlives_of_raised running ?_ (by simp) ?_
          · rw [call]
            simp [MonitorTask.moves, monitorStep, here]
          · simp [Fatal, running, here, storable]
      | _ =>
          exact outlives_of_unmoved (.ticks now false) running call (by simp [monitorStep, here])
            (by simp [Fatal, here])

theorem outlives_decides_iff (running : w.isOver = false)
    (instrumentInfo : Except ExchangeError Unit) :
    Outlives c w (.decides instrumentInfo) ↔ ¬ Fatal c w (.decides instrumentInfo) := by
  obtain ⟨live, -⟩ := Bool.or_eq_false_iff.mp running
  have call : monitorTick c (.decides instrumentInfo) w =
      w.moves c (.decides instrumentInfo.isOk) := by
    simp [monitorTick, running]
  cases here : w.desk.phase with
  | deciding r =>
      rcases decides_cases (c := c) here instrumentInfo with ⟨fails, raised⟩ | ⟨chooses, goesOn⟩
      · exact outlives_of_raised running (call ▸ raised) (by simp)
          (by simp [Fatal, running, here, fails])
      · refine outlives_of_goesOn ?_ (by simp [Fatal, here, chooses])
        rw [call]
        simp [MonitorTask.moves, MonitorTask.isOver, live, goesOn]
  | _ =>
      exact outlives_of_unmoved (.decides instrumentInfo.isOk) running call
        (by simp [monitorStep, here]) (by simp [Fatal, here])

/-- **A step ends a standing task exactly where it is fatal.** -/
theorem outlives_iff (w : MonitorTask) (input : MonitorInput) :
    Outlives c w input ↔ ¬ Fatal c w input := by
  cases running : w.isOver with
  | true => simp [Outlives, Fatal, running]
  | false =>
      cases input with
      | polls answer => exact outlives_polls_iff running answer
      | ticks now => exact outlives_ticks_iff running now
      | detects answer now =>
          exact outlives_of_moves (.detects answer now true) running
            (by simp [monitorTick, running]) rfl (by simp [Fatal])
      | decides instrumentInfo => exact outlives_decides_iff running instrumentInfo
      | sets outcome =>
          exact outlives_of_moves (.sets outcome) running (by simp [monitorTick, running]) rfl
            (by simp [Fatal])
      | persists now =>
          exact outlives_of_moves (.persists now true) running (by simp [monitorTick, running]) rfl
            (by simp [Fatal])
      | marks =>
          exact outlives_of_moves (.marks true) running (by simp [monitorTick, running]) rfl
            (by simp [Fatal])
      | others db stop =>
          obtain ⟨live, going⟩ := Bool.or_eq_false_iff.mp running
          refine outlives_of_goesOn ?_ (by simp [Fatal])
          simp [monitorTick, MonitorTask.isOver, live, going]
      | cancels => simp [Outlives, Fatal]

end Steps

/-! ## Every run -/

/-- **What a monitor's task survives**: in a run of any steps from any state, the task ends only
because its row is gone or because it is cancelled, if and only if no step is fatal. -/
theorem run_outlives_iff (c : MonitorSettings) (w : MonitorTask) (inputs : List MonitorInput) :
    RunGuarded (Outlives c) (monitorTick c) w inputs ↔
      RunGuarded (fun w input => ¬ Fatal c w input) (monitorTick c) w inputs :=
  runGuarded_congr outlives_iff inputs w

/-- The monitor of the long. -/
def longMonitor : MonitorSettings where
  monitor := ⟨("bot", "BTCUSDT"), 1, .buy, 100, 10, 1 / 100⟩
  staleTicksThreshold := 3
  stores := fun _ number => decide (|number.value| < 10 ^ 15 ∧ -12 ≤ number.exponent)

/-- Its task once the placement is written. -/
def standing : MonitorTask where
  desk := { db := run step {} [.placed placedLong 98 104 1000 3 true] }

/-- The long trades at 102, above its break-even trigger. -/
def standingAt102 : MonitorTask :=
  { standing with
    desk := { standing.desk with
      phase := .ticking
        ⟨{ tradeId := 1, side := .buy, entryPrice := 100, qty := 10, remainingQty := 10,
           slPrice := some 98, tpPrice := some 104, slType := some .protective, updatedAt := 3 },
          102⟩ } }

theorem polls_102 :
    monitorTick longMonitor (.polls (.ok (some "102".toList.utf8Encode))) standing =
      standingAt102 := by
  have text : parseDecimal "102".toList = some (.finite ⟨102, 0⟩) := by decide +kernel
  have held : standing.desk.db.selectPositionState longMonitor.monitor.key =
      some { tradeId := 1, side := .buy, entryPrice := 100, qty := 10, remainingQty := 10,
             slPrice := some 98, tpPrice := some 104, slType := some .protective,
             updatedAt := 3 } := by decide +kernel
  have running : standing.isOver = false := rfl
  have asleep : standing.desk.phase = .asleep := rfl
  have stores (ps : PositionStateRow) : longMonitor.stores ps ⟨102, 0⟩ = true := by
    show decide _ = true
    decide +kernel
  have value : DecimalNumber.value ⟨102, 0⟩ = 102 := by norm_num [DecimalNumber.value]
  simp only [monitorTick, running, asleep, MonitorTask.polls, decodeDecimal_utf8Encode, text,
    MonitorTask.readsRow, held, stores, value, if_true, Bool.false_eq_true, if_false]
  rfl

/-- **Three faults that end the monitor of a standing long**: the bucket cannot be read, it holds the
text `NaN`, and the instrument read times out when the stop is due to move to break-even. -/
theorem standing_ends :
    (¬ RunGuarded (Outlives longMonitor) (monitorTick longMonitor) standing
      [.polls (.error .notConnected)]) ∧
    (¬ RunGuarded (Outlives longMonitor) (monitorTick longMonitor) standing
      [.polls (.ok (some "NaN".toList.utf8Encode))]) ∧
    ¬ RunGuarded (Outlives longMonitor) (monitorTick longMonitor) standing
      [.polls (.ok (some "102".toList.utf8Encode)), .ticks 5, .detects .raises 5,
        .decides (.error .networkTimeout)] := by
  simp only [runGuarded_congr outlives_iff]
  refine ⟨fun harmless => harmless.1 ⟨rfl, trivial⟩, fun harmless => harmless.1 ⟨rfl, ?_, ?_⟩,
    fun harmless => ?_⟩
  · decide +kernel
  · have text : parseDecimal "NaN".toList = some (.nan false) := by decide +kernel
    rw [decodeDecimal_utf8Encode, text]
    rfl
  · obtain ⟨-, -, -, deciding, -⟩ := harmless
    rw [polls_102] at deciding
    refine deciding ⟨rfl, .inr ⟨?_, .inl rfl⟩⟩
    decide +kernel

end Scalper.Execution
