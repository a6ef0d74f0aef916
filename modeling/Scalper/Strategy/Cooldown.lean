import Scalper.Lib.Comprehension
import Scalper.Strategy.KillSwitch

/-!
# The cooldown gate

`services/strategy_engine/app/cooldown_gate.py`: before a signal is scored, the gate reads the
newest closed trades of its bot, counts the losses since the last trade that was none, and blocks
for some time after the newest of them and, from a number of losses on, after that many.  It reads
no more rows than its knobs ask for.

That is enough (`verdict_buildDecision_congr`): one row shows the newest loss, and a streak that is
cut short is cut at the number that counts.  `checkCooldown_whole` compares the gate with the
decision on the whole history, and shows that another loss never shortens a cooldown.

Times are in microseconds.  A time beyond the last one of `datetime` raises.
-/

set_option autoImplicit false

namespace Scalper.Strategy

open Scalper.Execution Scalper.Scoring Scalper.Lib

/-! ## The rows -/

/-- `ClosedTradeRow`. -/
structure ClosedTradeRow where
  realizedPnl : ℚ
  closedAt : Option ℕ
  deriving DecidableEq, Repr

def ClosedTradeRow.isLoss (row : ClosedTradeRow) : Bool := row.realizedPnl < 0

def TradeRecord.closedTradeRow (row : TradeRecord) : Option ClosedTradeRow :=
  row.realizedPnl.map fun realizedPnl => ⟨realizedPnl, row.closedAt⟩

/-- The closed trades of a bot, `ORDER BY closed_at DESC, id DESC`. -/
def closedTrades (rows : List TradeRecord) (botId : String) : List ClosedTradeRow :=
  ((closedWithPnl rows botId).insertionSort fun row other => other.orderedBefore row).filterMap
    TradeRecord.closedTradeRow

/-- `select_recent_closed_trades`. -/
def selectRecentClosedTrades (rows : List TradeRecord) (botId : String) (limit : ℕ) :
    List ClosedTradeRow :=
  (closedTrades rows botId).take limit

/-- The tables as they are written: `update_trade_close` gives every trade it closes a time. -/
structure TimedTables extends TradeTables where
  timed : ∀ name, ∀ row ∈ toTradeTables.rows name, row.status = .closed → row.closedAt.isSome

/-! ## The gate -/

/-- Which cooldown blocks. -/
inductive CooldownReason where
  | afterLoss
  | afterStreak
  | afterLossAndStreak
  deriving DecidableEq, Repr

/-- `CooldownDecision`. -/
structure CooldownDecision where
  active : Bool
  reason : Option CooldownReason
  cooldownUntil : Option ℕ
  streakCount : ℕ
  lastLossAt : Option ℕ
  deriving DecidableEq, Repr

/-- `_INACTIVE`. -/
def CooldownDecision.inactive : CooldownDecision := ⟨false, none, none, 0, none⟩

/-- What the consumer of the decision acts on. -/
def CooldownDecision.verdict (decision : CooldownDecision) :
    Bool × Option CooldownReason × Option ℕ :=
  (decision.active, decision.reason, decision.cooldownUntil)

/-- The cooldown after a loss is on. -/
def lossEnabled (risk : RiskSection) : Prop := 0 < risk.cooldownAfterLossMinutes

/-- The cooldown after a streak is on. -/
def streakEnabled (risk : RiskSection) : Prop :=
  0 < risk.cooldownAfterStreakNLosses ∧ 0 < risk.cooldownAfterStreakNLossesMinutes

instance (risk : RiskSection) : Decidable (lossEnabled risk) := inferInstanceAs (Decidable (_ < _))

instance (risk : RiskSection) : Decidable (streakEnabled risk) :=
  inferInstanceAs (Decidable (_ ∧ _))

/-- `_compute_limit`. -/
def computeLimit (risk : RiskSection) : ℕ :=
  if ¬ lossEnabled risk ∧ ¬ streakEnabled risk then 0
  else
    max (if lossEnabled risk then 1 else 0)
      (if streakEnabled risk then risk.cooldownAfterStreakNLosses else 0)

/-- `_walk_streak`, from what was counted so far. -/
def walkStreak : List ClosedTradeRow → ℕ → Option ℕ → ℕ × Option ℕ
  | [], streakCount, lastLossAt => (streakCount, lastLossAt)
  | row :: rows, streakCount, lastLossAt =>
      if row.isLoss then walkStreak rows (streakCount + 1) (lastLossAt <|> row.closedAt)
      else (streakCount, lastLossAt)

/-- `OverflowError`, of a `datetime`. -/
inductive DatetimeOverflow where
  | overflowError
  deriving DecidableEq, Repr

/-- `datetime.max`. -/
def datetimeMax : ℕ := 253402300799999999

/-- `time + timedelta(minutes=minutes)`. -/
def addMinutes (time minutes : ℕ) : Except DatetimeOverflow ℕ :=
  if time + minutes * 60000000 ≤ datetimeMax then .ok (time + minutes * 60000000)
  else .error .overflowError

/-- The deadline of a knob that binds, unless it is over. -/
def deadline (binds : Bool) (lastLossAt minutes now : ℕ) : Except DatetimeOverflow (Option ℕ) :=
  if binds then do
    let candidate ← addMinutes lastLossAt minutes
    .ok (if now < candidate then some candidate else none)
  else .ok none

/-- The deadlines of both knobs together. -/
def combineDeadlines (lossUntil streakUntil : Option ℕ) (streakCount lastLossAt : ℕ) :
    CooldownDecision :=
  match lossUntil, streakUntil with
  | some loss, some streak =>
      ⟨true, some .afterLossAndStreak, some (max loss streak), streakCount, some lastLossAt⟩
  | some loss, none => ⟨true, some .afterLoss, some loss, streakCount, some lastLossAt⟩
  | none, some streak => ⟨true, some .afterStreak, some streak, streakCount, some lastLossAt⟩
  | none, none => ⟨false, none, none, streakCount, some lastLossAt⟩

/-- `_build_decision`. -/
def buildDecision (now : ℕ) (risk : RiskSection) (streakCount : ℕ) (lastLossAt : Option ℕ) :
    Except DatetimeOverflow CooldownDecision :=
  match lastLossAt with
  | none => .ok .inactive
  | some lastLossAt => do
      let lossUntil ←
        deadline (lossEnabled risk) lastLossAt risk.cooldownAfterLossMinutes now
      let streakUntil ←
        deadline (streakEnabled risk ∧ risk.cooldownAfterStreakNLosses ≤ streakCount) lastLossAt
          risk.cooldownAfterStreakNLossesMinutes now
      .ok (combineDeadlines lossUntil streakUntil streakCount lastLossAt)

/-- `check_cooldown`. -/
def checkCooldown (settings : GateSettings) (now : ℕ) (tables : TradeTables) :
    Except DatetimeOverflow CooldownDecision :=
  if computeLimit settings.risk = 0 then .ok .inactive
  else
    let rows := selectRecentClosedTrades (tables.rows (tradeTableName settings.exchangeMode))
      settings.botId (computeLimit settings.risk)
    let (streakCount, lastLossAt) := walkStreak rows 0 none
    buildDecision now settings.risk streakCount lastLossAt

/-! ## The whole history -/

/-- The current losing streak, newest first. -/
def losingStreak (history : List ClosedTradeRow) : List ClosedTradeRow :=
  history.takeWhile ClosedTradeRow.isLoss

/-- The decision on the whole history: the newest loss, if no other trade came after it, and the
full length of the streak it ends. -/
def wholeDecision (settings : GateSettings) (now : ℕ) (tables : TradeTables) :
    Except DatetimeOverflow CooldownDecision :=
  let streak := losingStreak
    (closedTrades (tables.rows (tradeTableName settings.exchangeMode)) settings.botId)
  buildDecision now settings.risk streak.length (streak.head?.bind ClosedTradeRow.closedAt)

section Walk

variable {rows history : List ClosedTradeRow} {risk : RiskSection}

theorem walkStreak_eq (timed : ∀ row ∈ rows, row.closedAt.isSome) (streakCount : ℕ)
    (lastLossAt : Option ℕ) :
    walkStreak rows streakCount lastLossAt =
      (streakCount + (losingStreak rows).length,
        lastLossAt <|> (losingStreak rows).head?.bind ClosedTradeRow.closedAt) := by
  induction rows generalizing streakCount lastLossAt with
  | nil => simp [walkStreak, losingStreak]
  | cons row rows ih =>
      rw [List.forall_mem_cons] at timed
      obtain ⟨time, closed⟩ := Option.isSome_iff_exists.mp timed.1
      rw [walkStreak, losingStreak]
      by_cases loss : row.isLoss = true
      · rw [if_pos loss, ih timed.2, List.takeWhile_cons_of_pos loss, closed]
        cases lastLossAt <;> simp [losingStreak, closed, Nat.add_comm, Nat.add_left_comm]
      · rw [if_neg loss, List.takeWhile_cons_of_neg loss]
        simp

theorem closedTrades_timed (tables : TimedTables) (name : TradeTableName) (botId : String) :
    ∀ row ∈ closedTrades (tables.rows name) botId, row.closedAt.isSome := by
  intro row member
  obtain ⟨record, listed, shown⟩ := List.mem_filterMap.mp member
  have kept := (List.mem_insertionSort _).mp listed
  obtain ⟨inTable, closed⟩ := List.mem_filter.mp kept
  obtain ⟨-, closed, -⟩ := of_decide_eq_true closed
  obtain ⟨realizedPnl, -, rfl⟩ := Option.map_eq_some_iff.mp shown
  exact tables.timed name record inTable closed

/-- The rows the limit leaves show the streak up to the limit. -/
theorem losingStreak_take (limit : ℕ) :
    losingStreak (history.take limit) = (losingStreak history).take limit :=
  List.take_takeWhile.symm

theorem computeLimit_eq_zero_iff :
    computeLimit risk = 0 ↔ ¬ lossEnabled risk ∧ ¬ streakEnabled risk := by
  constructor
  · intro zero
    by_contra enabled
    rw [computeLimit, if_neg enabled] at zero
    by_cases loss : lossEnabled risk
    · simp [loss] at zero
    · have streak : streakEnabled risk := by tauto
      have counted := streak.1
      simp [loss, streak] at zero
      omega
  · intro disabled
    rw [computeLimit, if_pos disabled]

theorem le_computeLimit (enabled : streakEnabled risk) :
    risk.cooldownAfterStreakNLosses ≤ computeLimit risk := by
  rw [computeLimit, if_neg (fun none_enabled => none_enabled.2 enabled), if_pos enabled]
  exact le_max_right _ _

end Walk

section Decision

variable {now lastLossAt streakCount streakCount' : ℕ} {risk : RiskSection}

/-- A streak matters only as far as it reaches the number of losses that counts. -/
theorem verdict_buildDecision_congr {lastLossAt : Option ℕ}
    (same : streakEnabled risk → (risk.cooldownAfterStreakNLosses ≤ streakCount ↔
      risk.cooldownAfterStreakNLosses ≤ streakCount')) :
    (buildDecision now risk streakCount lastLossAt).map CooldownDecision.verdict =
      (buildDecision now risk streakCount' lastLossAt).map CooldownDecision.verdict := by
  cases lastLossAt with
  | none => rfl
  | some lastLossAt =>
      have binds : (streakEnabled risk ∧ risk.cooldownAfterStreakNLosses ≤ streakCount) ↔
          streakEnabled risk ∧ risk.cooldownAfterStreakNLosses ≤ streakCount' :=
        and_congr_right same
      simp only [buildDecision, binds]
      cases deadline (lossEnabled risk) lastLossAt risk.cooldownAfterLossMinutes now with
      | error overflow => rfl
      | ok lossUntil =>
          cases deadline (streakEnabled risk ∧ risk.cooldownAfterStreakNLosses ≤ streakCount')
              lastLossAt risk.cooldownAfterStreakNLossesMinutes now with
          | error overflow => rfl
          | ok streakUntil => cases lossUntil <;> cases streakUntil <;> rfl

/-- With both knobs off no streak binds. -/
theorem verdict_buildDecision_disabled (noLoss : ¬ lossEnabled risk)
    (noStreak : ¬ streakEnabled risk) (lastLossAt : Option ℕ) :
    (buildDecision now risk streakCount lastLossAt).map CooldownDecision.verdict =
      .ok CooldownDecision.inactive.verdict := by
  cases lastLossAt with
  | none => rfl
  | some lastLossAt => simp only [buildDecision, deadline, noLoss, noStreak]; rfl

/-- What the gate reads off the rows it read, it reads off the whole history. -/
theorem verdict_checkCooldown (settings : GateSettings) (now : ℕ) (tables : TimedTables) :
    (checkCooldown settings now tables.toTradeTables).map CooldownDecision.verdict =
      (wholeDecision settings now tables.toTradeTables).map CooldownDecision.verdict := by
  simp only [checkCooldown, wholeDecision, selectRecentClosedTrades]
  by_cases zero : computeLimit settings.risk = 0
  · obtain ⟨noLoss, noStreak⟩ := computeLimit_eq_zero_iff.mp zero
    rw [if_pos zero, verdict_buildDecision_disabled noLoss noStreak]
    rfl
  · have timed : ∀ row ∈ (closedTrades (tables.rows (tradeTableName settings.exchangeMode))
        settings.botId).take (computeLimit settings.risk), row.closedAt.isSome :=
      fun row member => closedTrades_timed tables _ _ row (List.mem_of_mem_take member)
    rw [if_neg zero, walkStreak_eq timed, losingStreak_take, List.head?_take, if_neg zero]
    refine verdict_buildDecision_congr fun enabled => ?_
    have reached := le_computeLimit enabled
    simp only [List.length_take]
    omega

/-! ## One more loss -/

/-- No deadline, or one that is not after the other. -/
def NotLater (cooldownUntil other : Option ℕ) : Prop :=
  ∀ time ∈ cooldownUntil, ∃ otherTime ∈ other, time ≤ otherTime

theorem NotLater.of_none (other : Option ℕ) : NotLater none other := by
  simp [NotLater]

theorem NotLater.of_some {time : ℕ} {other : Option ℕ} (notLater : NotLater (some time) other) :
    ∃ otherTime, other = some otherTime ∧ time ≤ otherTime :=
  notLater time rfl

/-- A deadline that has not passed lies at its own distance after the loss. -/
theorem mem_deadline {binds : Bool} {minutes time : ℕ} {until_ : Option ℕ}
    (is : deadline binds lastLossAt minutes now = .ok until_) :
    time ∈ until_ ↔ binds = true ∧ time = lastLossAt + minutes * 60000000 ∧ now < time := by
  cases binds with
  | false =>
      obtain rfl : none = until_ := Except.ok.inj is
      simp
  | true =>
      simp only [deadline, addMinutes, if_true] at is
      split at is
      · obtain rfl := Except.ok.inj is
        rw [Option.mem_def, Option.ite_none_right_eq_some, Option.some_inj]
        constructor
        · rintro ⟨open_, rfl⟩
          exact ⟨rfl, rfl, open_⟩
        · rintro ⟨-, rfl, open_⟩
          exact ⟨open_, rfl⟩
      · cases is

theorem deadline_notLater {binds binds' : Bool} {lastLossAt' minutes : ℕ} {before after : Option ℕ}
    (stays : binds = true → binds' = true) (later : lastLossAt ≤ lastLossAt')
    (was : deadline binds lastLossAt minutes now = .ok before)
    (became : deadline binds' lastLossAt' minutes now = .ok after) :
    NotLater before after := by
  intro time member
  obtain ⟨bound, rfl, open_⟩ := (mem_deadline was).mp member
  refine ⟨lastLossAt' + minutes * 60000000, (mem_deadline became).mpr ⟨stays bound, rfl, ?_⟩, ?_⟩
  · omega
  · omega

/-- The time of the decision is the later one of the two deadlines. -/
theorem cooldownUntil_combineDeadlines (lossUntil streakUntil : Option ℕ) :
    (combineDeadlines lossUntil streakUntil streakCount lastLossAt).cooldownUntil =
      lossUntil.merge max streakUntil := by
  cases lossUntil <;> cases streakUntil <;> rfl

/-- The later of two deadlines moves back only if one of the two does. -/
theorem NotLater.merge {loss loss' streak streak' : Option ℕ} (lossNotLater : NotLater loss loss')
    (streakNotLater : NotLater streak streak') :
    NotLater (loss.merge max streak) (loss'.merge max streak') := by
  cases loss with
  | none =>
      cases streak with
      | none => exact NotLater.of_none _
      | some streak =>
          obtain ⟨streak', rfl, le⟩ := streakNotLater.of_some
          rintro time ⟨rfl⟩
          cases loss' with
          | none => exact ⟨streak', rfl, le⟩
          | some loss' => exact ⟨max loss' streak', rfl, le.trans (le_max_right _ _)⟩
  | some loss =>
      obtain ⟨loss', rfl, lossLe⟩ := lossNotLater.of_some
      cases streak with
      | none =>
          rintro time ⟨rfl⟩
          cases streak' with
          | none => exact ⟨loss', rfl, lossLe⟩
          | some streak' => exact ⟨max loss' streak', rfl, lossLe.trans (le_max_left _ _)⟩
      | some streak =>
          obtain ⟨streak', rfl, streakLe⟩ := streakNotLater.of_some
          rintro time ⟨rfl⟩
          exact ⟨max loss' streak', rfl, max_le_max lossLe streakLe⟩

theorem buildDecision_some {decision : CooldownDecision}
    (decided : buildDecision now risk streakCount (some lastLossAt) = .ok decision) :
    ∃ lossUntil streakUntil,
      deadline (lossEnabled risk) lastLossAt risk.cooldownAfterLossMinutes now = .ok lossUntil ∧
      deadline (streakEnabled risk ∧ risk.cooldownAfterStreakNLosses ≤ streakCount) lastLossAt
        risk.cooldownAfterStreakNLossesMinutes now = .ok streakUntil ∧
      decision.cooldownUntil = lossUntil.merge max streakUntil := by
  obtain ⟨lossUntil, lossIs, rest⟩ := bind_eq_ok_iff.mp decided
  obtain ⟨streakUntil, streakIs, rest⟩ := bind_eq_ok_iff.mp rest
  obtain rfl := Except.ok.inj rest
  exact ⟨lossUntil, streakUntil, lossIs, streakIs, cooldownUntil_combineDeadlines _ _⟩

/-- A later loss at the end of a longer streak never brings a deadline forward. -/
theorem buildDecision_notLater {lastLossAt' : ℕ} {before after : CooldownDecision}
    (longer : streakCount ≤ streakCount') (later : lastLossAt ≤ lastLossAt')
    (was : buildDecision now risk streakCount (some lastLossAt) = .ok before)
    (became : buildDecision now risk streakCount' (some lastLossAt') = .ok after) :
    NotLater before.cooldownUntil after.cooldownUntil := by
  obtain ⟨lossUntil, streakUntil, lossIs, streakIs, beforeIs⟩ := buildDecision_some was
  obtain ⟨lossUntil', streakUntil', lossIs', streakIs', afterIs⟩ := buildDecision_some became
  rw [beforeIs, afterIs]
  refine (deadline_notLater id later lossIs lossIs').merge
    (deadline_notLater (fun binds => ?_) later streakIs streakIs')
  obtain ⟨enabled, reached⟩ := of_decide_eq_true binds
  exact decide_eq_true ⟨enabled, reached.trans longer⟩

end Decision

section Newer

variable {rows : List TradeRecord} {botId : String} {trade : TradeRecord}

/-- `trade` closed at a loss, after every closed trade of the bot in `rows`. -/
structure NewerLoss (rows : List TradeRecord) (botId : String) (trade : TradeRecord) : Prop where
  ofBot : trade.botId = botId
  closed : trade.status = .closed
  loss : ∃ pnl ∈ trade.realizedPnl, pnl < 0
  newest : ∀ row ∈ closedWithPnl rows botId, trade.orderedBefore row = false

theorem insertionSort_append_newest {α : Type*} (r : α → α → Prop) [DecidableRel r] {l : List α}
    {last : α} (newest : ∀ a ∈ l, ¬ r a last) :
    (l ++ [last]).insertionSort r = last :: l.insertionSort r := by
  induction l with
  | nil => rfl
  | cons a l ih =>
      rw [List.forall_mem_cons] at newest
      rw [List.cons_append, List.insertionSort_cons, ih newest.2,
        List.orderedInsert, if_neg newest.1, List.insertionSort_cons]

/-- The loss comes first, before the trades there were. -/
theorem closedTrades_append (newer : NewerLoss rows botId trade) :
    ∃ row : ClosedTradeRow, row.isLoss ∧ row.closedAt = trade.closedAt ∧
      closedTrades (rows ++ [trade]) botId = row :: closedTrades rows botId := by
  obtain ⟨pnl, pnlIs, negative⟩ := newer.loss
  refine ⟨⟨pnl, trade.closedAt⟩, decide_eq_true negative, rfl, ?_⟩
  have kept : closedWithPnl (rows ++ [trade]) botId = closedWithPnl rows botId ++ [trade] := by
    rw [closedWithPnl, List.filter_append, closedWithPnl]
    simp [newer.ofBot, newer.closed, Option.mem_def.mp pnlIs]
  have newest : ∀ row ∈ closedWithPnl rows botId, ¬ trade.orderedBefore row = true := by
    simpa using newer.newest
  rw [closedTrades, kept, insertionSort_append_newest _ newest,
    List.filterMap_cons_some (b := ⟨pnl, trade.closedAt⟩)]
  · rfl
  · rw [TradeRecord.closedTradeRow, Option.mem_def.mp pnlIs]
    rfl

/-- No trade of the history closed after the loss. -/
theorem closedAt_le (newer : NewerLoss rows botId trade) {time newTime : ℕ}
    (closes : trade.closedAt = some newTime) {row : ClosedTradeRow}
    (member : row ∈ closedTrades rows botId) (closed : row.closedAt = some time) :
    time ≤ newTime := by
  obtain ⟨record, listed, shown⟩ := List.mem_filterMap.mp member
  obtain ⟨pnl, -, rfl⟩ := Option.map_eq_some_iff.mp shown
  have ordered := newer.newest record ((List.mem_insertionSort _).mp listed)
  rw [TradeRecord.orderedBefore, closes, show record.closedAt = some time from closed] at ordered
  simp only [Bool.or_eq_false_iff, decide_eq_false_iff_not] at ordered
  omega

end Newer

section Whole

variable {settings : GateSettings} {now : ℕ} {decision decision' : CooldownDecision}

theorem wholeDecision_of_checkCooldown {tables : TimedTables}
    (decided : checkCooldown settings now tables.toTradeTables = .ok decision) :
    ∃ whole, wholeDecision settings now tables.toTradeTables = .ok whole ∧
      whole.cooldownUntil = decision.cooldownUntil := by
  have same := verdict_checkCooldown settings now tables
  rw [decided] at same
  cases is : wholeDecision settings now tables.toTradeTables with
  | error overflow => rw [is] at same; cases same
  | ok whole =>
      rw [is] at same
      exact ⟨whole, rfl, (congrArg (fun v => v.2.2) (Except.ok.inj same)).symm⟩

theorem wholeDecision_notLater {tables after : TimedTables} {trade : TradeRecord}
    (newer : NewerLoss (tables.rows (tradeTableName settings.exchangeMode)) settings.botId trade)
    (appended : after.rows (tradeTableName settings.exchangeMode) =
      tables.rows (tradeTableName settings.exchangeMode) ++ [trade])
    (decided : wholeDecision settings now tables.toTradeTables = .ok decision)
    (decided' : wholeDecision settings now after.toTradeTables = .ok decision') :
    NotLater decision.cooldownUntil decision'.cooldownUntil := by
  obtain ⟨newest, loss, newestAt, history'⟩ := closedTrades_append newer
  have inAfter : trade ∈ after.rows (tradeTableName settings.exchangeMode) := by
    rw [appended]
    exact List.mem_append_right _ (List.mem_singleton_self trade)
  obtain ⟨newTime, closes⟩ := Option.isSome_iff_exists.mp (after.timed _ trade inAfter newer.closed)
  have timed := closedTrades_timed tables (tradeTableName settings.exchangeMode) settings.botId
  simp only [wholeDecision] at decided decided'
  rw [appended, history', losingStreak, List.takeWhile_cons_of_pos loss, ← losingStreak,
    List.head?_cons, Option.bind_some, newestAt, closes] at decided'
  cases streak : losingStreak
      (closedTrades (tables.rows (tradeTableName settings.exchangeMode)) settings.botId) with
  | nil =>
      rw [streak] at decided
      obtain rfl := Except.ok.inj decided
      exact NotLater.of_none _
  | cons row rest =>
      have member : row ∈ closedTrades _ settings.botId :=
        (List.takeWhile_sublist _).subset (streak ▸ List.mem_cons_self)
      obtain ⟨time, closed⟩ := Option.isSome_iff_exists.mp (timed row member)
      rw [streak, List.head?_cons, Option.bind_some, closed] at decided
      refine buildDecision_notLater ?_ (closedAt_le newer closes member closed) decided decided'
      rw [streak]
      exact Nat.le_succ _

end Whole

/-- The gate decides from the rows it reads as it would from the whole history, and another loss,
newer than all trades there are, never ends its cooldown earlier. -/
theorem checkCooldown_whole (settings : GateSettings) (now : ℕ) (tables : TimedTables) :
    (checkCooldown settings now tables.toTradeTables).map CooldownDecision.verdict =
      (wholeDecision settings now tables.toTradeTables).map CooldownDecision.verdict ∧
    ∀ (after : TimedTables) (trade : TradeRecord) (decision decision' : CooldownDecision),
      NewerLoss (tables.rows (tradeTableName settings.exchangeMode)) settings.botId trade →
      after.rows (tradeTableName settings.exchangeMode) =
        tables.rows (tradeTableName settings.exchangeMode) ++ [trade] →
      checkCooldown settings now tables.toTradeTables = .ok decision →
      checkCooldown settings now after.toTradeTables = .ok decision' →
      NotLater decision.cooldownUntil decision'.cooldownUntil := by
  refine ⟨verdict_checkCooldown settings now tables, ?_⟩
  intro after trade decision decision' newer appended decided decided'
  obtain ⟨whole, wholeIs, same⟩ := wholeDecision_of_checkCooldown decided
  obtain ⟨whole', wholeIs', same'⟩ := wholeDecision_of_checkCooldown decided'
  rw [← same, ← same']
  exact wholeDecision_notLater newer appended wholeIs wholeIs'

/-- A loss at noon and another one ten minutes later, with a cooldown of half an hour. -/
theorem checkCooldown_second_loss :
    let first : TradeRecord := ⟨1, "bot", .closed, some (-5), some 43200000000⟩
    let second : TradeRecord := ⟨2, "bot", .closed, some (-3), some 43800000000⟩
    let settings : GateSettings := ⟨"bot", .live, { cooldownAfterLossMinutes := 30 }⟩
    checkCooldown settings 43900000000 ⟨[first], []⟩ =
        .ok ⟨true, some .afterLoss, some 45000000000, 1, some 43200000000⟩ ∧
      checkCooldown settings 43900000000 ⟨[first, second], []⟩ =
        .ok ⟨true, some .afterLoss, some 45600000000, 1, some 43800000000⟩ ∧
      NotLater (some 45000000000) (some 45600000000) := by
  intro first second settings
  have decided : checkCooldown settings 43900000000 ⟨[first], []⟩ =
      .ok ⟨true, some .afterLoss, some 45000000000, 1, some 43200000000⟩ := by decide +kernel
  have decided' : checkCooldown settings 43900000000 ⟨[first, second], []⟩ =
      .ok ⟨true, some .afterLoss, some 45600000000, 1, some 43800000000⟩ := by decide +kernel
  let tables : TimedTables := ⟨⟨[first], []⟩, by rintro ⟨⟩ <;> decide⟩
  let after : TimedTables := ⟨⟨[first, second], []⟩, by rintro ⟨⟩ <;> decide⟩
  have newer : NewerLoss [first] "bot" second := ⟨rfl, rfl, ⟨-3, rfl, by norm_num⟩, by decide⟩
  exact ⟨decided, decided',
    (checkCooldown_whole settings 43900000000 tables).2 after second _ _ newer rfl decided decided'⟩

end Scalper.Strategy
