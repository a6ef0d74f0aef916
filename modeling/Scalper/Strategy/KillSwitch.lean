import Scalper.Strategy.TradeTables

/-!
# The kill switch

`services/strategy_engine/app/loss_limit_gate.py`, `drawdown_gate.py` and
`kill_switch_reconcile.py` over the statements of `packages/db/queries/kill_switch.py`, for the one
row a bot has in `bot_kill_switch_state`.  Before a signal is scored, the loss gate sums what the
bot realized since midnight and the drawdown gate compares the peak of what it ever realized with
what is left; either may latch the row, and a latched row blocks until it is cleared.  Only a latch
of the loss gate is ever cleared, by whichever of the gates and the startup hook first meets it on a
later day.

Signals are evaluated one after another here, and every gate may find other trades than the one
before it.  A row the gates can have left is `Written`.  Rows that no gate can tell apart from a
time on (`SameFrom`) lead to the same decisions (`decisions_congr`), which is why a startup hook
changes none (`decisions_eq_of_signals_eq`).  `killSwitch_decides` puts together what a pass says
about the trades, how long either latch blocks, and that the hook is not seen.
-/

set_option autoImplicit false

namespace Scalper.Strategy

open Scalper.Execution Scalper.Scoring

/-! ## The row -/

/-- The values of `trip_reason` that are written. -/
inductive TripReason where
  | dailyLossLimit
  | maxDrawdown
  deriving DecidableEq, Repr

/-- `KillSwitchState`, of one bot.  `updated_at` is written and never read. -/
structure KillSwitchState where
  tripped : Bool
  tripReason : Option TripReason
  trippedAt : Option ℕ
  dailyAnchorDate : Option ℕ
  cumulativeLossUsd : Option ℚ
  deriving DecidableEq, Repr

/-- Times are in microseconds. -/
def ticksPerDay : ℕ := 86400000000

/-- `now.date()`, counted in days. -/
def utcDate (now : ℕ) : ℕ := now / ticksPerDay

/-- `now` at midnight. -/
def utcMidnight (now : ℕ) : ℕ := utcDate now * ticksPerDay

/-- `is_stale_daily_latch`. -/
def isStaleDailyLatch (state : KillSwitchState) (now : ℕ) : Bool :=
  if state.tripped = false then false
  else if state.tripReason ≠ some .dailyLossLimit then false
  else
    match state.dailyAnchorDate with
    | none => false
    | some dailyAnchorDate => dailyAnchorDate < utcDate now

/-- `upsert_kill_switch_trip`: whatever the row was, it becomes this. -/
def upsertKillSwitchTrip (tripReason : TripReason) (trippedAt : ℕ) (cumulativeLossUsd : ℚ) :
    KillSwitchState where
  tripped := true
  tripReason := some tripReason
  trippedAt := some trippedAt
  dailyAnchorDate := some (utcDate trippedAt)
  cumulativeLossUsd := some cumulativeLossUsd

/-- `clear_kill_switch`: whatever the row was, it becomes this. -/
def clearKillSwitch : KillSwitchState where
  tripped := false
  tripReason := none
  trippedAt := none
  dailyAnchorDate := none
  cumulativeLossUsd := none

/-- What both gates make of the row first: it blocks nothing, it is a latch of an earlier day, or
it blocks. -/
inductive Latch where
  | untripped
  | stale
  | holds (state : KillSwitchState)
  deriving DecidableEq, Repr

def readLatch (row : Option KillSwitchState) (now : ℕ) : Latch :=
  match row with
  | none => .untripped
  | some state =>
      if state.tripped then
        if isStaleDailyLatch state now then .stale else .holds state
      else .untripped

/-- How both gates begin: a latch that holds answers at once, a stale one is cleared. -/
def behindLatch {δ : Type} (now : ℕ) (held : KillSwitchState → δ)
    (rest : Option KillSwitchState → δ × Option KillSwitchState) (row : Option KillSwitchState) :
    δ × Option KillSwitchState :=
  match readLatch row now with
  | .holds state => (held state, row)
  | .stale => rest (some clearKillSwitch)
  | .untripped => rest row

/-! ## The gates -/

/-- `LossLimitDecision`. -/
structure LossLimitDecision where
  blocked : Bool
  reason : Option TripReason
  cumulativeLossUsd : Option ℚ
  limitUsd : Option ℚ
  deriving DecidableEq, Repr

/-- `DrawdownDecision`. -/
structure DrawdownDecision where
  blocked : Bool
  reason : Option TripReason
  drawdownPct : Option ℚ
  limitPct : Option ℚ
  deriving DecidableEq, Repr

/-- `_NOT_BLOCKED`. -/
def LossLimitDecision.notBlocked : LossLimitDecision := ⟨false, none, none, none⟩

/-- `_NOT_BLOCKED`. -/
def DrawdownDecision.notBlocked : DrawdownDecision := ⟨false, none, none, none⟩

/-- The bot a gate is asked for. -/
structure GateSettings where
  botId : String
  exchangeMode : ExchangeMode
  risk : RiskSection

section Gates

variable (settings : GateSettings) (now : ℕ) (tables : TradeTables)

/-- What the bot realized since midnight. -/
def GateSettings.todaysPnl : ℚ :=
  sumRealizedPnlSince (tables.rows (tradeTableName settings.exchangeMode)) settings.botId
    (utcMidnight now)

/-- The peak of what the bot realized, and what is left of it. -/
def GateSettings.peakAndCurrent : ℚ × ℚ :=
  selectPnlPeakAndCurrent (tables.rows (tradeTableName settings.exchangeMode)) settings.botId

/-- The share of the peak that was given back. -/
def drawdownPct (peak current : ℚ) : ℚ := (peak - current) / peak

/-- The rest of `check_daily_loss_limit`, behind the latch. -/
def sumLossLimit (row : Option KillSwitchState) : LossLimitDecision × Option KillSwitchState :=
  let total := settings.todaysPnl now tables
  if total ≤ -settings.risk.dailyLossLimitUsd then
    (⟨true, some .dailyLossLimit, some total, some settings.risk.dailyLossLimitUsd⟩,
      some (upsertKillSwitchTrip .dailyLossLimit now total))
  else (.notBlocked, row)

/-- `check_daily_loss_limit`. -/
def checkDailyLossLimit (row : Option KillSwitchState) :
    LossLimitDecision × Option KillSwitchState :=
  if settings.risk.dailyLossLimitUsd ≤ 0 then (.notBlocked, row)
  else
    behindLatch now
      (fun state =>
        ⟨true, state.tripReason, state.cumulativeLossUsd, some settings.risk.dailyLossLimitUsd⟩)
      (sumLossLimit settings now tables) row

/-- The rest of `check_max_drawdown`, behind the latch. -/
def compareDrawdown (row : Option KillSwitchState) : DrawdownDecision × Option KillSwitchState :=
  let (peak, current) := settings.peakAndCurrent tables
  if peak ≤ 0 then (.notBlocked, row)
  else if settings.risk.maxDrawdownPct ≤ drawdownPct peak current then
    (⟨true, some .maxDrawdown, some (drawdownPct peak current),
        some settings.risk.maxDrawdownPct⟩,
      some (upsertKillSwitchTrip .maxDrawdown now current))
  else (.notBlocked, row)

/-- `check_max_drawdown`. -/
def checkMaxDrawdown (row : Option KillSwitchState) :
    DrawdownDecision × Option KillSwitchState :=
  if settings.risk.maxDrawdownPct ≤ 0 then (.notBlocked, row)
  else
    behindLatch now
      (fun state => ⟨true, state.tripReason, none, some settings.risk.maxDrawdownPct⟩)
      (compareDrawdown settings now tables) row

end Gates

/-- How a signal leaves the two gates. -/
inductive KillSwitchVerdict where
  | passed
  | lossLimit (decision : LossLimitDecision)
  | drawdown (decision : DrawdownDecision)
  deriving DecidableEq, Repr

/-- The reason a signal is blocked for. -/
def KillSwitchVerdict.reason : KillSwitchVerdict → Option TripReason
  | .passed => none
  | .lossLimit decision => decision.reason
  | .drawdown decision => decision.reason

/-- A signal at the gates: the clock of its handler, and the trades as either gate finds them. -/
structure SignalCheck where
  now : ℕ
  atLossLimit : TradeTables
  atDrawdown : TradeTables
  deriving DecidableEq, Repr

/-- The handler asks the loss gate, and the drawdown gate if that lets the signal through. -/
def checkKillSwitch (settings : GateSettings) (check : SignalCheck)
    (row : Option KillSwitchState) : KillSwitchVerdict × Option KillSwitchState :=
  let (lossLimit, row) := checkDailyLossLimit settings check.now check.atLossLimit row
  if lossLimit.blocked then (.lossLimit lossLimit, row)
  else
    let (drawdown, row) := checkMaxDrawdown settings check.now check.atDrawdown row
    if drawdown.blocked then (.drawdown drawdown, row) else (.passed, row)

/-- `reconcile_kill_switch_on_startup`.  An error of the database, at whichever statement, is logged
and the row stays. -/
def reconcileKillSwitchOnStartup (now : ℕ) (failed : Bool) (row : Option KillSwitchState) :
    Option KillSwitchState :=
  match row with
  | none => none
  | some state =>
      if failed = false ∧ isStaleDailyLatch state now then some clearKillSwitch else some state

/-! ## Runs -/

/-- What the kill switch reacts to. -/
inductive KillSwitchEvent where
  | signal (check : SignalCheck)
  | startup (now : ℕ) (failed : Bool)
  deriving DecidableEq, Repr

def KillSwitchEvent.time : KillSwitchEvent → ℕ
  | .signal check => check.now
  | .startup now _ => now

/-- The clock does not go back, from a time on. -/
def Chronological : ℕ → List KillSwitchEvent → Prop
  | _, [] => True
  | now, event :: events => now ≤ event.time ∧ Chronological event.time events

instance Chronological.decidable : ∀ (now : ℕ) (events : List KillSwitchEvent),
    Decidable (Chronological now events)
  | _, [] => isTrue trivial
  | _, event :: events =>
      @instDecidableAnd _ _ inferInstance (Chronological.decidable event.time events)

/-- The signals of a run with their verdicts, in order. -/
def decisions (settings : GateSettings) : Option KillSwitchState → List KillSwitchEvent →
    List (SignalCheck × KillSwitchVerdict)
  | _, [] => []
  | row, .signal check :: events =>
      (check, (checkKillSwitch settings check row).1) ::
        decisions settings (checkKillSwitch settings check row).2 events
  | row, .startup now failed :: events =>
      decisions settings (reconcileKillSwitchOnStartup now failed row) events

/-- The signals among the events. -/
def signalsOf : List KillSwitchEvent → List SignalCheck
  | [] => []
  | .signal check :: events => check :: signalsOf events
  | .startup _ _ :: events => signalsOf events

/-! ## Rows that no gate can tell apart -/

/-- The latch that blocks at a time. -/
def blocking (row : Option KillSwitchState) (now : ℕ) : Option KillSwitchState :=
  match readLatch row now with
  | .holds state => some state
  | .stale | .untripped => none

/-- Two rows that block alike from a time on. -/
def SameFrom (now : ℕ) (row other : Option KillSwitchState) : Prop :=
  ∀ later, now ≤ later → blocking row later = blocking other later

section Rows

variable {now later : ℕ} {row other : Option KillSwitchState} {state : KillSwitchState}

theorem SameFrom.refl (now : ℕ) (row : Option KillSwitchState) : SameFrom now row row :=
  fun _ _ => rfl

theorem SameFrom.mono (same : SameFrom now row other) (after : now ≤ later) :
    SameFrom later row other :=
  fun muchLater muchAfter => same muchLater (after.trans muchAfter)

@[simp] theorem blocking_none (now : ℕ) : blocking none now = none := rfl

@[simp] theorem blocking_clearKillSwitch (now : ℕ) : blocking (some clearKillSwitch) now = none :=
  rfl

theorem blocking_some_iff :
    blocking row now = some state ↔
      row = some state ∧ state.tripped = true ∧ isStaleDailyLatch state now = false := by
  cases row with
  | none => simp
  | some present =>
      cases tripped : present.tripped <;> cases stale : isStaleDailyLatch present now <;>
        simp only [blocking, readLatch, tripped, stale, Bool.false_eq_true, if_true, if_false,
          Option.some.injEq, reduceCtorEq, false_iff, not_and]
      · rintro rfl
        simp [tripped]
      · rintro rfl
        simp [tripped]
      · constructor
        · rintro rfl
          exact ⟨rfl, tripped, stale⟩
        · exact fun found => found.1
      · rintro rfl _
        simp [stale]

/-- A daily latch with the day it anchors. -/
theorem isStaleDailyLatch_iff :
    isStaleDailyLatch state now = true ↔
      state.tripped = true ∧ state.tripReason = some .dailyLossLimit ∧
        ∃ day, state.dailyAnchorDate = some day ∧ day < utcDate now := by
  cases anchor : state.dailyAnchorDate <;> simp [isStaleDailyLatch, anchor]

theorem utcDate_le (after : now ≤ later) : utcDate now ≤ utcDate later :=
  Nat.div_le_div_right after

/-- What blocks nothing now blocks nothing later. -/
theorem blocking_eq_none_of_le (after : now ≤ later) (free : blocking row now = none) :
    blocking row later = none := by
  by_contra blocked
  obtain ⟨state, found⟩ := Option.ne_none_iff_exists'.mp blocked
  obtain ⟨rfl, tripped, fresh⟩ := blocking_some_iff.mp found
  have stale : isStaleDailyLatch state now = true := by
    by_contra unstale
    rw [blocking_some_iff.mpr ⟨rfl, tripped, by simpa using unstale⟩] at free
    exact Option.some_ne_none _ free
  obtain ⟨_, daily, day, anchored, past⟩ := isStaleDailyLatch_iff.mp stale
  rw [isStaleDailyLatch_iff.mpr
    ⟨tripped, daily, day, anchored, past.trans_le (utcDate_le after)⟩] at fresh
  exact Bool.noConfusion fresh

theorem sameFrom_none (free : blocking row now = none) : SameFrom now row none :=
  fun _ after => blocking_eq_none_of_le after free

/-- Startup clears only what blocks nothing. -/
theorem sameFrom_reconcileKillSwitchOnStartup (failed : Bool) :
    SameFrom now (reconcileKillSwitchOnStartup now failed row) row := by
  cases row with
  | none => exact SameFrom.refl now none
  | some state =>
      simp only [reconcileKillSwitchOnStartup]
      split_ifs with cleared
      · have free : blocking (some state) now = none := by
          obtain ⟨tripped, _⟩ := isStaleDailyLatch_iff.mp cleared.2
          simp [blocking, readLatch, tripped, cleared.2]
        exact fun later after => (blocking_eq_none_of_le after free).symm
      · exact SameFrom.refl now (some state)

end Rows

/-! ## The gates behind the latch -/

/-- A gate's rest decides without looking at the row, and trips or leaves it. -/
def Uniform {δ : Type} (rest : Option KillSwitchState → δ × Option KillSwitchState) : Prop :=
  ∀ row, rest row = ((rest none).1, (rest none).2.or row)

section Gates

variable {settings : GateSettings} {now : ℕ} {tables : TradeTables} {check : SignalCheck}
  {row other : Option KillSwitchState} {state : KillSwitchState}

theorem uniform_sumLossLimit : Uniform (sumLossLimit settings now tables) := by
  intro row
  simp only [sumLossLimit]
  split_ifs <;> rfl

theorem uniform_compareDrawdown : Uniform (compareDrawdown settings now tables) := by
  intro row
  simp only [compareDrawdown]
  split_ifs <;> rfl

theorem behindLatch_of_blocking {δ : Type} {held : KillSwitchState → δ}
    {rest : Option KillSwitchState → δ × Option KillSwitchState}
    (blocked : blocking row now = some state) :
    behindLatch now held rest row = (held state, row) := by
  obtain ⟨rfl, tripped, fresh⟩ := blocking_some_iff.mp blocked
  simp [behindLatch, readLatch, tripped, fresh]

/-- A row that blocks nothing is passed on as it is, or cleared. -/
theorem behindLatch_of_free {δ : Type} (held : KillSwitchState → δ)
    (rest : Option KillSwitchState → δ × Option KillSwitchState)
    (free : blocking row now = none) :
    behindLatch now held rest row = rest row ∨
      behindLatch now held rest row = rest (some clearKillSwitch) := by
  unfold behindLatch
  cases latch : readLatch row now with
  | untripped => exact .inl rfl
  | stale => exact .inr rfl
  | holds state =>
      simp [blocking, latch] at free

/-- Neither gate tells apart rows that block alike. -/
theorem behindLatch_congr {δ : Type} {held : KillSwitchState → δ}
    {rest : Option KillSwitchState → δ × Option KillSwitchState} (uniform : Uniform rest)
    (same : SameFrom now row other) :
    (behindLatch now held rest row).1 = (behindLatch now held rest other).1 ∧
      SameFrom now (behindLatch now held rest row).2 (behindLatch now held rest other).2 := by
  cases blocked : blocking row now with
  | some state =>
      rw [behindLatch_of_blocking blocked,
        behindLatch_of_blocking ((same now le_rfl).symm.trans blocked)]
      exact ⟨rfl, same⟩
  | none =>
      -- Whatever row reaches the rest, it decides as from none.
      have leaves : ∀ row, blocking row now = none →
          (behindLatch now held rest row).1 = (rest none).1 ∧
            SameFrom now (behindLatch now held rest row).2 (rest none).2 := by
        intro row free
        have passed : ∀ passed, blocking passed now = none →
            (rest passed).1 = (rest none).1 ∧ SameFrom now (rest passed).2 (rest none).2 := by
          intro passed unblocked
          rw [uniform passed]
          refine ⟨rfl, ?_⟩
          cases (rest none).2 with
          | none => exact sameFrom_none unblocked
          | some trip => exact SameFrom.refl now (some trip)
        rcases behindLatch_of_free held rest free with same | same
        · rw [same]
          exact passed row free
        · rw [same]
          exact passed _ (blocking_clearKillSwitch now)
      have left := leaves row blocked
      have right := leaves other ((same now le_rfl).symm.trans blocked)
      exact ⟨left.1.trans right.1.symm, fun later after =>
        (left.2 later after).trans (right.2 later after).symm⟩

theorem checkDailyLossLimit_congr (settings : GateSettings) (tables : TradeTables)
    (same : SameFrom now row other) :
    (checkDailyLossLimit settings now tables row).1 =
        (checkDailyLossLimit settings now tables other).1 ∧
      SameFrom now (checkDailyLossLimit settings now tables row).2
        (checkDailyLossLimit settings now tables other).2 := by
  unfold checkDailyLossLimit
  split_ifs with disabled
  · exact ⟨rfl, same⟩
  · exact behindLatch_congr uniform_sumLossLimit same

theorem checkMaxDrawdown_congr (settings : GateSettings) (tables : TradeTables)
    (same : SameFrom now row other) :
    (checkMaxDrawdown settings now tables row).1 =
        (checkMaxDrawdown settings now tables other).1 ∧
      SameFrom now (checkMaxDrawdown settings now tables row).2
        (checkMaxDrawdown settings now tables other).2 := by
  unfold checkMaxDrawdown
  split_ifs with disabled
  · exact ⟨rfl, same⟩
  · exact behindLatch_congr uniform_compareDrawdown same

/-- Rows that block alike get one verdict, and block alike afterwards. -/
theorem checkKillSwitch_congr (settings : GateSettings)
    (same : SameFrom check.now row other) :
    (checkKillSwitch settings check row).1 = (checkKillSwitch settings check other).1 ∧
      SameFrom check.now (checkKillSwitch settings check row).2
        (checkKillSwitch settings check other).2 := by
  obtain ⟨lossLimit, afterLossLimit⟩ := checkDailyLossLimit_congr settings check.atLossLimit same
  obtain ⟨drawdown, afterDrawdown⟩ :=
    checkMaxDrawdown_congr settings check.atDrawdown afterLossLimit
  simp only [checkKillSwitch, lossLimit, drawdown]
  split_ifs with blocked
  · exact ⟨rfl, afterLossLimit⟩
  · exact ⟨rfl, afterDrawdown⟩
  · exact ⟨rfl, afterDrawdown⟩

end Gates

/-! ## Runs from rows that no gate can tell apart -/

section Runs

variable {settings : GateSettings} {since : ℕ} {row other : Option KillSwitchState}
  {events events' : List KillSwitchEvent}

theorem decisions_congr :
    ∀ {events : List KillSwitchEvent} {since : ℕ} {row other : Option KillSwitchState},
      SameFrom since row other → Chronological since events →
        decisions settings row events = decisions settings other events
  | [], _, _, _ => fun _ _ => rfl
  | .signal check :: events, since, row, other => by
      intro same ordered
      obtain ⟨verdict, after⟩ :=
        checkKillSwitch_congr settings (same.mono ordered.1)
      rw [decisions, decisions, verdict, decisions_congr after ordered.2]
  | .startup now failed :: events, since, row, other => by
      intro same ordered
      have after : SameFrom now (reconcileKillSwitchOnStartup now failed row)
          (reconcileKillSwitchOnStartup now failed other) := fun later behind =>
        (sameFrom_reconcileKillSwitchOnStartup failed later behind).trans
          ((same later (ordered.1.trans behind)).trans
            (sameFrom_reconcileKillSwitchOnStartup failed later behind).symm)
      rw [decisions, decisions, decisions_congr after ordered.2]

/-- The startups may be left out. -/
theorem decisions_signalsOf :
    ∀ {events : List KillSwitchEvent} {since : ℕ} {row : Option KillSwitchState},
      Chronological since events →
        decisions settings row events =
          decisions settings row ((signalsOf events).map KillSwitchEvent.signal)
  | [], _, _ => fun _ => rfl
  | .signal check :: events, since, row => by
      intro ordered
      rw [decisions, decisions_signalsOf ordered.2]
      rfl
  | .startup now failed :: events, since, row => by
      intro ordered
      have hidden : SameFrom now (reconcileKillSwitchOnStartup now failed row) row :=
        sameFrom_reconcileKillSwitchOnStartup failed
      rw [decisions, decisions_congr hidden ordered.2, decisions_signalsOf ordered.2]
      rfl

/-- Runs with the same signals have the same decisions, wherever the startups are. -/
theorem decisions_eq_of_signals_eq (ordered : Chronological since events)
    (ordered' : Chronological since events') (same : signalsOf events' = signalsOf events) :
    decisions settings row events' = decisions settings row events := by
  rw [decisions_signalsOf ordered, decisions_signalsOf ordered', same]

end Runs

/-! ## What a verdict says -/

/-- A row the gates can have left by a time. -/
def Written (row : Option KillSwitchState) (now : ℕ) : Prop :=
  ∀ state, row = some state → state = clearKillSwitch ∨
    ∃ tripReason trippedAt cumulativeLossUsd, trippedAt ≤ now ∧
      state = upsertKillSwitchTrip tripReason trippedAt cumulativeLossUsd

/-- The row is a latch, of the given reason and day. -/
def LatchedAs (tripReason : TripReason) (day : ℕ) (row : Option KillSwitchState) : Prop :=
  ∃ state, row = some state ∧ state.tripped = true ∧ state.tripReason = some tripReason ∧
    state.dailyAnchorDate = some day

section Verdicts

variable {settings : GateSettings} {now later : ℕ} {tables : TradeTables} {check : SignalCheck}
  {row : Option KillSwitchState} {state : KillSwitchState}

theorem written_none (now : ℕ) : Written none now := fun _ found => nomatch found

theorem Written.mono (written : Written row now) (after : now ≤ later) : Written row later := by
  intro state found
  rcases written state found with cleared | ⟨tripReason, trippedAt, loss, early, tripped⟩
  · exact .inl cleared
  · exact .inr ⟨tripReason, trippedAt, loss, early.trans after, tripped⟩

theorem written_clearKillSwitch (now : ℕ) : Written (some clearKillSwitch) now :=
  fun _ found => .inl (Option.some.inj found).symm

theorem written_trip (tripReason : TripReason) (now : ℕ) (loss : ℚ) :
    Written (some (upsertKillSwitchTrip tripReason now loss)) now :=
  fun _ found => .inr ⟨tripReason, now, loss, le_rfl, (Option.some.inj found).symm⟩

theorem latchedAs_trip (tripReason : TripReason) (now : ℕ) (loss : ℚ) :
    LatchedAs tripReason (utcDate now) (some (upsertKillSwitchTrip tripReason now loss)) :=
  ⟨_, rfl, rfl, rfl, rfl⟩

/-- A latch that blocks a written row is the hard stop, or of this very day. -/
theorem latchedAs_of_blocking (written : Written row now) (blocked : blocking row now = some state) :
    ∃ tripReason day, state.tripReason = some tripReason ∧ LatchedAs tripReason day row ∧
      (tripReason = .dailyLossLimit → day = utcDate now) := by
  obtain ⟨rfl, tripped, fresh⟩ := blocking_some_iff.mp blocked
  rcases written state rfl with rfl | ⟨tripReason, trippedAt, loss, early, rfl⟩
  · exact Bool.noConfusion tripped
  · refine ⟨tripReason, utcDate trippedAt, rfl, latchedAs_trip tripReason trippedAt loss, ?_⟩
    rintro rfl
    have current : ¬utcDate trippedAt < utcDate now := by
      intro past
      rw [isStaleDailyLatch_iff.mpr ⟨rfl, rfl, _, rfl, past⟩] at fresh
      exact Bool.noConfusion fresh
    exact le_antisymm (utcDate_le early) (not_lt.mp current)

/-- A gate lets a signal through where nothing is latched, or blocks it for the reason that is
latched. -/
def GateAnswer (now : ℕ) (passes : Prop) (blocked : Bool) (reason : Option TripReason)
    (row : Option KillSwitchState) : Prop :=
  Written row now ∧
    (blocked = false ∧ passes ∧ blocking row now = none ∨
      blocked = true ∧ ∃ tripReason day, reason = some tripReason ∧ LatchedAs tripReason day row ∧
        (tripReason = .dailyLossLimit → day = utcDate now))

theorem gateAnswer_passed {passes : Prop} (written : Written row now) (met : passes)
    (free : blocking row now = none) : GateAnswer now passes false none row :=
  ⟨written, .inl ⟨rfl, met, free⟩⟩

theorem gateAnswer_trip (passes : Prop) (tripReason : TripReason) (loss : ℚ) :
    GateAnswer now passes true (some tripReason)
      (some (upsertKillSwitchTrip tripReason now loss)) :=
  ⟨written_trip tripReason now loss,
    .inr ⟨rfl, tripReason, utcDate now, rfl, latchedAs_trip tripReason now loss, fun _ => rfl⟩⟩

/-- What the rest of a gate answers where nothing is latched, the gate answers. -/
theorem gateAnswer_behindLatch {δ : Type} {held : KillSwitchState → δ}
    {rest : Option KillSwitchState → δ × Option KillSwitchState} {passes : Prop}
    (blocked : δ → Bool) (reason : δ → Option TripReason)
    (holds : ∀ state, blocked (held state) = true ∧ reason (held state) = state.tripReason)
    (answers : ∀ row, Written row now → blocking row now = none →
      GateAnswer now passes (blocked (rest row).1) (reason (rest row).1) (rest row).2)
    (written : Written row now) :
    GateAnswer now passes (blocked (behindLatch now held rest row).1)
      (reason (behindLatch now held rest row).1) (behindLatch now held rest row).2 := by
  cases latched : blocking row now with
  | some state =>
      rw [behindLatch_of_blocking latched, (holds state).1, (holds state).2]
      exact ⟨written, .inr ⟨rfl, latchedAs_of_blocking written latched⟩⟩
  | none =>
      rcases behindLatch_of_free held rest latched with same | same
      · rw [same]
        exact answers row written latched
      · rw [same]
        exact answers _ (written_clearKillSwitch now) (blocking_clearKillSwitch now)

theorem checkDailyLossLimit_answer (tables : TradeTables)
    (limited : 0 < settings.risk.dailyLossLimitUsd) (written : Written row now) :
    GateAnswer now (-settings.risk.dailyLossLimitUsd < settings.todaysPnl now tables)
      (checkDailyLossLimit settings now tables row).1.blocked
      (checkDailyLossLimit settings now tables row).1.reason
      (checkDailyLossLimit settings now tables row).2 := by
  rw [checkDailyLossLimit, if_neg (not_le.mpr limited)]
  refine gateAnswer_behindLatch LossLimitDecision.blocked LossLimitDecision.reason
    (fun _ => ⟨rfl, rfl⟩) ?_ written
  intro row written free
  simp only [sumLossLimit]
  split_ifs with trips
  · exact gateAnswer_trip _ .dailyLossLimit _
  · exact gateAnswer_passed written (not_le.mp trips) free

/-- The give-back a signal may pass with. -/
def GateSettings.DrawdownBelow (settings : GateSettings) (tables : TradeTables) : Prop :=
  (settings.peakAndCurrent tables).1 ≤ 0 ∨
    drawdownPct (settings.peakAndCurrent tables).1 (settings.peakAndCurrent tables).2 <
      settings.risk.maxDrawdownPct

theorem checkMaxDrawdown_answer (tables : TradeTables)
    (limited : 0 < settings.risk.maxDrawdownPct) (written : Written row now) :
    GateAnswer now (settings.DrawdownBelow tables)
      (checkMaxDrawdown settings now tables row).1.blocked
      (checkMaxDrawdown settings now tables row).1.reason
      (checkMaxDrawdown settings now tables row).2 := by
  rw [checkMaxDrawdown, if_neg (not_le.mpr limited)]
  refine gateAnswer_behindLatch DrawdownDecision.blocked DrawdownDecision.reason
    (fun _ => ⟨rfl, rfl⟩) ?_ written
  intro row written free
  simp only [compareDrawdown]
  split_ifs with flat trips
  · exact gateAnswer_passed written (.inl flat) free
  · exact gateAnswer_trip _ .maxDrawdown _
  · exact gateAnswer_passed written (.inr (not_le.mp trips)) free

/-- What the two gates together answer. -/
theorem checkKillSwitch_answer (limited : 0 < settings.risk.dailyLossLimitUsd)
    (stopped : 0 < settings.risk.maxDrawdownPct) (written : Written row check.now) :
    Written (checkKillSwitch settings check row).2 check.now ∧
      ((checkKillSwitch settings check row).1 = .passed ∧
          -settings.risk.dailyLossLimitUsd < settings.todaysPnl check.now check.atLossLimit ∧
          settings.DrawdownBelow check.atDrawdown ∨
        (checkKillSwitch settings check row).1 ≠ .passed ∧
          ∃ tripReason day, (checkKillSwitch settings check row).1.reason = some tripReason ∧
            LatchedAs tripReason day (checkKillSwitch settings check row).2 ∧
            (tripReason = .dailyLossLimit → day = utcDate check.now)) := by
  obtain ⟨afterLossLimit, lossLimit⟩ :=
    checkDailyLossLimit_answer check.atLossLimit limited written
  obtain ⟨afterDrawdown, drawdown⟩ :=
    checkMaxDrawdown_answer check.atDrawdown stopped afterLossLimit
  simp only [checkKillSwitch]
  rcases lossLimit with ⟨through, above, _⟩ | ⟨blocked, latched⟩
  · rw [if_neg (by simp [through])]
    rcases drawdown with ⟨through', below, _⟩ | ⟨blocked', latched'⟩
    · rw [if_neg (by simp [through'])]
      exact ⟨afterDrawdown, .inl ⟨rfl, above, below⟩⟩
    · rw [if_pos blocked']
      exact ⟨afterDrawdown, .inr ⟨nofun, latched'⟩⟩
  · rw [if_pos blocked]
    exact ⟨afterLossLimit, .inr ⟨nofun, latched⟩⟩

theorem written_reconcileKillSwitchOnStartup (failed : Bool) (written : Written row now) :
    Written (reconcileKillSwitchOnStartup now failed row) now := by
  cases row with
  | none => exact written
  | some state =>
      simp only [reconcileKillSwitchOnStartup]
      split_ifs
      · exact written_clearKillSwitch now
      · exact written

/-! ## How long a latch blocks -/

theorem checkKillSwitch_of_blocking (limited : 0 < settings.risk.dailyLossLimitUsd)
    (blocked : blocking row check.now = some state) :
    (checkKillSwitch settings check row).1 ≠ .passed ∧
      (checkKillSwitch settings check row).2 = row := by
  simp [checkKillSwitch, checkDailyLossLimit, not_le.mpr limited, behindLatch_of_blocking blocked]

/-- The hard stop blocks at all times. -/
theorem LatchedAs.blocking_maxDrawdown {day : ℕ} (latched : LatchedAs .maxDrawdown day row)
    (now : ℕ) : ∃ state, blocking row now = some state := by
  obtain ⟨state, rfl, tripped, hard, _⟩ := latched
  refine ⟨state, blocking_some_iff.mpr ⟨rfl, tripped, ?_⟩⟩
  simp [isStaleDailyLatch, hard]

/-- A daily latch blocks on its day and not later. -/
theorem LatchedAs.blocking_daily_iff {day : ℕ} (latched : LatchedAs .dailyLossLimit day row)
    (now : ℕ) : (∃ state, blocking row now = some state) ↔ utcDate now ≤ day := by
  obtain ⟨state, rfl, tripped, daily, anchored⟩ := latched
  have stale : isStaleDailyLatch state now = true ↔ day < utcDate now := by
    simp [isStaleDailyLatch_iff, tripped, daily, anchored]
  constructor
  · rintro ⟨present, blocked⟩
    obtain ⟨found, _, fresh⟩ := blocking_some_iff.mp blocked
    obtain rfl := Option.some.inj found
    rw [← not_lt, ← stale, fresh]
    exact Bool.false_ne_true
  · intro early
    refine ⟨state, blocking_some_iff.mpr ⟨rfl, tripped, ?_⟩⟩
    rw [Bool.eq_false_iff, ne_eq, stale]
    exact not_lt.mpr early

end Verdicts

section Blocked

variable {settings : GateSettings} {since day : ℕ} {row start : Option KillSwitchState}
  {events : List KillSwitchEvent} {entry first : SignalCheck × KillSwitchVerdict}
  {before between rest after : List (SignalCheck × KillSwitchVerdict)}

/-- Every decision is the gates' verdict on some row, from which the later ones follow. -/
theorem decisions_split (limited : 0 < settings.risk.dailyLossLimitUsd)
    (stopped : 0 < settings.risk.maxDrawdownPct) :
    ∀ {events : List KillSwitchEvent} {since : ℕ} {row : Option KillSwitchState}
      {before : List (SignalCheck × KillSwitchVerdict)},
      Written row since → Chronological since events →
        decisions settings row events = before ++ entry :: after →
          ∃ found later, Written found entry.1.now ∧ Chronological entry.1.now later ∧
            entry.2 = (checkKillSwitch settings entry.1 found).1 ∧
            after = decisions settings (checkKillSwitch settings entry.1 found).2 later
  | [], _, _, before => fun _ _ split => by simp [decisions] at split
  | .signal check :: events, since, row, before => by
      intro written ordered split
      have written' : Written row check.now := written.mono ordered.1
      rw [decisions] at split
      cases before with
      | nil =>
          obtain ⟨rfl, rfl⟩ := List.cons.inj split
          exact ⟨row, events, written', ordered.2, rfl, rfl⟩
      | cons earlier before =>
          exact decisions_split limited stopped
            (checkKillSwitch_answer limited stopped written').1 ordered.2 (List.cons.inj split).2
  | .startup now failed :: events, since, row, before => by
      intro written ordered split
      exact decisions_split limited stopped
        (written_reconcileKillSwitchOnStartup failed (written.mono ordered.1)) ordered.2 split

theorem le_of_mem_decisions :
    ∀ (events : List KillSwitchEvent) {since : ℕ} {row : Option KillSwitchState},
      Chronological since events → entry ∈ decisions settings row events → since ≤ entry.1.now
  | [], _, _ => fun _ member => absurd member List.not_mem_nil
  | .signal check :: events, _, _ => by
      intro ordered member
      rcases List.mem_cons.mp member with rfl | member
      · exact ordered.1
      · exact ordered.1.trans (le_of_mem_decisions events ordered.2 member)
  | .startup now failed :: events, _, _ =>
      fun ordered member => ordered.1.trans (le_of_mem_decisions events ordered.2 member)

theorem decisions_startup (now : ℕ) (failed : Bool) (ordered : Chronological now events) :
    decisions settings row (.startup now failed :: events) = decisions settings row events :=
  decisions_congr (sameFrom_reconcileKillSwitchOnStartup failed) ordered

/-- Behind the hard stop nothing passes. -/
theorem not_passed_of_maxDrawdown (limited : 0 < settings.risk.dailyLossLimitUsd) :
    ∀ {events : List KillSwitchEvent} {since : ℕ}, LatchedAs .maxDrawdown day row →
      Chronological since events → ∀ later ∈ decisions settings row events, later.2 ≠ .passed
  | [], _ => fun _ _ _ member => absurd member List.not_mem_nil
  | .signal check :: events, _ => by
      intro latched ordered later member
      obtain ⟨state, blocked⟩ := latched.blocking_maxDrawdown check.now
      obtain ⟨refused, kept⟩ := checkKillSwitch_of_blocking limited blocked
      rcases List.mem_cons.mp member with rfl | member
      · exact refused
      · rw [kept] at member
        exact not_passed_of_maxDrawdown limited latched ordered.2 later member
  | .startup now failed :: events, _ => by
      intro latched ordered
      rw [decisions_startup now failed ordered.2]
      exact not_passed_of_maxDrawdown limited latched ordered.2

/-- Behind a daily latch nothing passes on its day. -/
theorem not_passed_of_dailyLossLimit (limited : 0 < settings.risk.dailyLossLimitUsd) :
    ∀ {events : List KillSwitchEvent} {since : ℕ} {row : Option KillSwitchState},
      LatchedAs .dailyLossLimit day row → Chronological since events →
        ∀ later ∈ decisions settings row events, utcDate later.1.now ≤ day → later.2 ≠ .passed
  | [], _, _ => fun _ _ _ member => absurd member List.not_mem_nil
  | .signal check :: events, _, row => by
      intro latched ordered later member sameDay
      by_cases early : utcDate check.now ≤ day
      · obtain ⟨state, blocked⟩ := (latched.blocking_daily_iff check.now).mpr early
        obtain ⟨refused, kept⟩ := checkKillSwitch_of_blocking limited blocked
        rcases List.mem_cons.mp member with rfl | member
        · exact refused
        · rw [kept] at member
          exact not_passed_of_dailyLossLimit limited latched ordered.2 later member sameDay
      · -- From a later day on no signal is of the latch's day.
        have late : check.now ≤ later.1.now :=
          le_of_mem_decisions (.signal check :: events) ⟨le_rfl, ordered.2⟩ member
        exact absurd ((utcDate_le late).trans sameDay) early
  | .startup now failed :: events, _, row => by
      intro latched ordered
      rw [decisions_startup now failed ordered.2]
      exact not_passed_of_dailyLossLimit limited latched ordered.2

/-- The first signal after the day of a daily latch is decided as from no latch. -/
theorem decided_afresh (limited : 0 < settings.risk.dailyLossLimitUsd) :
    ∀ {events : List KillSwitchEvent} {since : ℕ} {row : Option KillSwitchState}
      {between : List (SignalCheck × KillSwitchVerdict)},
      LatchedAs .dailyLossLimit day row → Chronological since events →
        decisions settings row events = between ++ first :: rest →
          (∀ earlier ∈ between, utcDate earlier.1.now ≤ day) → day < utcDate first.1.now →
            first.2 = (checkKillSwitch settings first.1 none).1
  | [], _, _, _ => fun _ _ split => by simp [decisions] at split
  | .signal check :: events, _, row, between => by
      intro latched ordered split during after
      rw [decisions] at split
      cases between with
      | nil =>
          obtain ⟨rfl, rfl⟩ := List.cons.inj split
          have free : blocking row check.now = none := by
            by_contra blocked
            have early := (latched.blocking_daily_iff check.now).mp
              (Option.ne_none_iff_exists'.mp blocked)
            exact absurd after (not_lt.mpr early)
          exact (checkKillSwitch_congr settings (sameFrom_none free)).1
      | cons earlier between =>
          obtain ⟨rfl, remaining⟩ := List.cons.inj split
          have early : utcDate check.now ≤ day := during _ List.mem_cons_self
          obtain ⟨state, blocked⟩ := (latched.blocking_daily_iff check.now).mpr early
          rw [(checkKillSwitch_of_blocking limited blocked).2] at remaining
          exact decided_afresh limited latched ordered.2 remaining
            (fun earlier member => during earlier (List.mem_cons_of_mem _ member)) after
  | .startup now failed :: events, _, row, between => by
      intro latched ordered
      rw [decisions_startup now failed ordered.2]
      exact decided_afresh limited latched ordered.2

/-- What the limits mean for the signals of a run. -/
structure DecidesByLimits (settings : GateSettings) (start : Option KillSwitchState) (since : ℕ)
    (events : List KillSwitchEvent) : Prop where
  /-- A signal that passes has today's sum above the limit and the give-back below its own. -/
  passed : ∀ check, (check, KillSwitchVerdict.passed) ∈ decisions settings start events →
    -settings.risk.dailyLossLimitUsd < settings.todaysPnl check.now check.atLossLimit ∧
      settings.DrawdownBelow check.atDrawdown
  /-- A daily block holds for the rest of its day. -/
  restOfDay : ∀ before entry after, decisions settings start events = before ++ entry :: after →
    entry.2.reason = some .dailyLossLimit →
      ∀ later ∈ after, utcDate later.1.now = utcDate entry.1.now → later.2 ≠ .passed
  /-- The first signal of a later day is decided as from no latch. -/
  laterDay : ∀ before entry between first rest,
    decisions settings start events = before ++ entry :: (between ++ first :: rest) →
      entry.2.reason = some .dailyLossLimit →
        (∀ earlier ∈ between, utcDate earlier.1.now = utcDate entry.1.now) →
          utcDate entry.1.now < utcDate first.1.now →
            first.2 = (checkKillSwitch settings first.1 none).1
  /-- A drawdown block holds for ever. -/
  hardStop : ∀ before entry after, decisions settings start events = before ++ entry :: after →
    entry.2.reason = some .maxDrawdown → ∀ later ∈ after, later.2 ≠ .passed
  /-- Other startups, the same decisions. -/
  startups : ∀ events', Chronological since events' → signalsOf events' = signalsOf events →
    decisions settings start events' = decisions settings start events

/-- What a decision leaves behind, where it gives a reason. -/
theorem latchedAs_of_decided (limited : 0 < settings.risk.dailyLossLimitUsd)
    (stopped : 0 < settings.risk.maxDrawdownPct) (written : Written start since)
    (ordered : Chronological since events)
    (split : decisions settings start events = before ++ entry :: after) {tripReason : TripReason}
    (blocked : entry.2.reason = some tripReason) :
    ∃ day row later, LatchedAs tripReason day row ∧ Chronological entry.1.now later ∧
      (tripReason = .dailyLossLimit → day = utcDate entry.1.now) ∧
      after = decisions settings row later := by
  obtain ⟨found, later, written', ordered', verdict, rfl⟩ :=
    decisions_split limited stopped written ordered split
  obtain ⟨_, ⟨passed, _⟩ | ⟨_, reason, day, given, latched, today⟩⟩ :=
    checkKillSwitch_answer limited stopped written'
  · rw [verdict, passed] at blocked
    exact absurd blocked nofun
  · rw [verdict, given] at blocked
    obtain rfl := Option.some.inj blocked
    exact ⟨day, _, later, latched, ordered', today, rfl⟩

/-- **With both limits set, signals evaluated one after another are decided by the limits**: what
passes is within both, a daily block lasts for its day, a drawdown block for ever, and the startups
are not seen. -/
theorem killSwitch_decides (limited : 0 < settings.risk.dailyLossLimitUsd)
    (stopped : 0 < settings.risk.maxDrawdownPct) (written : Written start since)
    (ordered : Chronological since events) : DecidesByLimits settings start since events where
  passed := by
    intro check member
    obtain ⟨before, after, split⟩ := List.append_of_mem member
    obtain ⟨found, _, written', _, verdict, _⟩ :=
      decisions_split limited stopped written ordered split
    obtain ⟨_, ⟨_, within⟩ | ⟨refused, _⟩⟩ := checkKillSwitch_answer limited stopped written'
    · exact within
    · exact absurd verdict.symm refused
  restOfDay := by
    intro before entry after split blocked later member sameDay
    obtain ⟨day, row, events, latched, ordered', today, rfl⟩ :=
      latchedAs_of_decided limited stopped written ordered split blocked
    exact not_passed_of_dailyLossLimit limited latched ordered' later member
      (sameDay.trans (today rfl).symm).le
  laterDay := by
    intro before entry between first rest split blocked during after
    obtain ⟨day, row, events, latched, ordered', today, remaining⟩ :=
      latchedAs_of_decided limited stopped written ordered split blocked
    rw [← today rfl] at during after
    exact decided_afresh limited latched ordered' remaining.symm
      (fun earlier member => (during earlier member).le) after
  hardStop := by
    intro before entry after split blocked
    obtain ⟨day, row, events, latched, ordered', _, rfl⟩ :=
      latchedAs_of_decided limited stopped written ordered split blocked
    exact not_passed_of_maxDrawdown limited latched ordered'
  startups := fun events' ordered' same => decisions_eq_of_signals_eq ordered ordered' same

end Blocked

/-! ## A run -/

/-- A bot that may lose fifty a day and give back half of its peak. -/
def fiftyAndHalf : GateSettings where
  botId := "alpha"
  exchangeMode := .live
  risk := { dailyLossLimitUsd := 50, maxDrawdownPct := 1 / 2 }

/-- The closed trades of the bot, by day and result. -/
def closedResults (results : List (ℕ × ℚ)) : TradeTables where
  trades := results.zipIdx.map fun ((day, pnl), i) =>
    { id := i, botId := "alpha", status := .closed, realizedPnl := some pnl
      closedAt := some (day * ticksPerDay) }

/-- Two losses on two days: the first trips the daily latch, the second the hard stop. -/
def twoLosses : List KillSwitchEvent :=
  let won := closedResults [(0, 200)]
  let lost := closedResults [(0, 200), (1, -60)]
  let lostMore := closedResults [(0, 200), (1, -60), (2, -40)]
  [.signal ⟨ticksPerDay, won, won⟩, .signal ⟨ticksPerDay + 1, lost, lost⟩,
    .startup (ticksPerDay + 2) false, .signal ⟨ticksPerDay + 3, lost, lost⟩,
    .startup (2 * ticksPerDay) false, .signal ⟨2 * ticksPerDay, lost, lost⟩,
    .signal ⟨2 * ticksPerDay + 1, lostMore, lostMore⟩,
    .signal ⟨3 * ticksPerDay, won, won⟩]

theorem twoLosses_decides :
    (decisions fiftyAndHalf none twoLosses).map (fun entry => entry.2.reason) =
        [none, some .dailyLossLimit, some .dailyLossLimit, none, some .maxDrawdown,
          some .maxDrawdown] ∧
      DecidesByLimits fiftyAndHalf none 0 twoLosses :=
  ⟨by decide +kernel, killSwitch_decides (by decide +kernel) (by decide +kernel) (written_none 0)
    (by decide +kernel)⟩

end Scalper.Strategy
