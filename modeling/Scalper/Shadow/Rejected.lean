import Scalper.Shadow.Worker
import Scalper.Lib.Run

/-!
# Observations of rejected signals

`services/execution/app/shadow_rejected_worker.py` and `shadow_rejected_replay.py`, with the rows
of `packages/db/queries/shadow.py`.  A rejected signal is watched for a fixed time: its observation
hears the closed candles of the symbol, notes the extreme prices, and ends at the first candle that
reaches the stop or the target, the stop first, else when the time is over.  After a restart the
observation is rebuilt from its row by driving the same handler through the stored candles, and
goes on live until the row's expiry.

The prices and percentages of an observation are kept in the `meta` column.  The pool of the
execution service registers no JSONB codec, so a row that is read back has its `meta` as text, and
`_row_to_shadow_rejected` makes an empty dictionary of it.  Times are in microseconds.
-/

set_option autoImplicit false

namespace Scalper.Shadow

open Scalper.Lib Scalper.Exchange

/-! ## Signals, rows and results -/

/-- The `action` of a signal. -/
inductive SignalAction where
  | long
  | short
  | close
  deriving DecidableEq, Repr

/-- Everything that is not long is watched as a short. -/
def SignalAction.wouldSide : SignalAction → Side
  | .long => .buy
  | .short | .close => .sell

/-- `ShadowRejectedStartPayload`. -/
structure RejectedStart where
  symbol : String
  action : SignalAction
  virtualEntryPrice : ℚ
  slPct : ℚ
  tpPct : ℚ
  beTrigger : ℚ
  beSlLevel : ℚ
  deriving DecidableEq, Repr

/-- How an observation ends. -/
inductive ShadowRejectedTerminal where
  | wouldTp
  | wouldSl
  | wouldBe
  | noTrigger
  | shutdownMidReplay
  deriving DecidableEq, Repr

/-- What `update_shadow_rejected_terminal` writes.  The excursions are the exact values that the
code rounds to floats. -/
structure RejectedRecord where
  outcome : ShadowRejectedTerminal
  mfePct : Option ℚ := none
  maePct : Option ℚ := none
  deriving DecidableEq, Repr

/-- The `meta` column: a dictionary of decimals as strings. -/
structure RejectedMeta where
  virtualEntryPrice : Option ℚ := none
  slPct : Option ℚ := none
  tpPct : Option ℚ := none
  beTrigger : Option ℚ := none
  beSlLevel : Option ℚ := none
  deriving DecidableEq, Repr

/-- What `_decode_meta` returns. -/
structure ObservationMeta where
  virtualEntryPrice : ℚ
  slPct : ℚ
  tpPct : ℚ
  beTrigger : ℚ
  beSlLevel : ℚ
  deriving DecidableEq, Repr

/-- `_decode_meta`, with its defaults. -/
def decodeMeta (raw : RejectedMeta) : ObservationMeta where
  virtualEntryPrice := raw.virtualEntryPrice.getD 0
  slPct := raw.slPct.getD (5 / 1000)
  tpPct := raw.tpPct.getD (1 / 100)
  beTrigger := raw.beTrigger.getD 0
  beSlLevel := raw.beSlLevel.getD 0

/-- A row of `shadow_rejected`; a row without a result has `terminated_at` null. -/
structure RejectedRow where
  symbol : String
  wouldSide : Side
  createdAt : ℕ
  metaColumn : RejectedMeta
  result : Option RejectedRecord := none
  deriving DecidableEq, Repr

/-- `insert_shadow_rejected`. -/
def insertShadowRejected (payload : RejectedStart) (createdAt : ℕ) : RejectedRow where
  symbol := payload.symbol
  wouldSide := payload.action.wouldSide
  createdAt := createdAt
  metaColumn :=
    { virtualEntryPrice := some payload.virtualEntryPrice, slPct := some payload.slPct,
      tpPct := some payload.tpPct, beTrigger := some payload.beTrigger,
      beSlLevel := some payload.beSlLevel }

/-- `update_shadow_rejected_terminal`. -/
def updateShadowRejectedTerminal (record : RejectedRecord) (row : RejectedRow) : RejectedRow :=
  { row with result := some record }

/-- `_row_to_shadow_rejected` as the execution service reads a row: a `meta` that is no dictionary,
and text is none, is narrowed to the empty one. -/
def rowToShadowRejected (row : RejectedRow) : RejectedRow := { row with metaColumn := {} }

/-! ## The handler -/

/-- The three prices an observation watches for. -/
structure Thresholds where
  tp : ℚ
  sl : ℚ
  be : ℚ
  deriving DecidableEq, Repr

/-- `_compute_thresholds`. -/
def computeThresholds (side : Side) (entry slPct tpPct beTrigger : ℚ) : Thresholds :=
  match side with
  | .buy => ⟨entry * (1 + tpPct), entry * (1 - slPct), entry * (1 + beTrigger)⟩
  | .sell => ⟨entry * (1 - tpPct), entry * (1 + slPct), entry * (1 - beTrigger)⟩

/-- `_compute_mfe_mae_pcts`. -/
def computeMfeMaePcts (side : Side) (entry best worst : ℚ) : ℚ × ℚ :=
  if entry = 0 then (0, 0)
  else
    match side with
    | .buy => ((best - entry) / entry, (entry - worst) / entry)
    | .sell => ((entry - best) / entry, (worst - entry) / entry)

/-- `obs_state`; the future is done when there is an outcome. -/
structure ObservationState where
  bestPrice : ℚ
  worstPrice : ℚ
  beTriggered : Bool := false
  outcome : Option ShadowRejectedTerminal := none
  deriving DecidableEq, Repr

/-- The extreme prices after a candle. -/
def ObservationState.observe (side : Side) (candle : Candle) (s : ObservationState) :
    ObservationState :=
  match side with
  | .buy =>
      { s with
        bestPrice := if s.bestPrice < candle.high then candle.high else s.bestPrice
        worstPrice := if candle.low < s.worstPrice then candle.low else s.worstPrice }
  | .sell =>
      { s with
        bestPrice := if candle.low < s.bestPrice then candle.low else s.bestPrice
        worstPrice := if s.worstPrice < candle.high then candle.high else s.worstPrice }

/-- The closure of `_make_observation_candle_handler`. -/
def observationHandler (side : Side) (thresholds : Thresholds) (candle : Candle)
    (s : ObservationState) : ObservationState :=
  if !candle.isClosed || s.outcome.isSome then s
  else
    let seen := s.observe side candle
    match side with
    | .buy =>
        if candle.low ≤ thresholds.sl then { seen with outcome := some .wouldSl }
        else if thresholds.tp ≤ candle.high then { seen with outcome := some .wouldTp }
        else if thresholds.be ≤ candle.high then { seen with beTriggered := true }
        else seen
    | .sell =>
        if thresholds.sl ≤ candle.high then { seen with outcome := some .wouldSl }
        else if candle.low ≤ thresholds.tp then { seen with outcome := some .wouldTp }
        else if candle.low ≤ thresholds.be then { seen with beTriggered := true }
        else seen

/-- The state an observation begins with. -/
def ObservationState.start (entry : ℚ) : ObservationState where
  bestPrice := entry
  worstPrice := entry

/-- What an observation records when its wait has ended: the outcome, else what the time-out makes
of the break-even mark. -/
def ObservationState.record (side : Side) (entry : ℚ) (s : ObservationState) : RejectedRecord :=
  let (mfePct, maePct) := computeMfeMaePcts side entry s.bestPrice s.worstPrice
  { outcome := s.outcome.getD (if s.beTriggered then .wouldBe else .noTrigger)
    mfePct := some mfePct, maePct := some maePct }

/-- The record of an observation that was never begun. -/
def noTriggerRecord : RejectedRecord where
  outcome := .noTrigger
  mfePct := some 0
  maePct := some 0

/-! ## The worker and the replay -/

/-- The settings of an observation. -/
structure RejectedSettings where
  observationMinutes : ℕ := 60
  replayQueryWindowMaxHours : ℚ := 48

/-- One minute. -/
def ticksPerMinute : ℕ := 60000000

/-- How long an observation waits. -/
def RejectedSettings.window (settings : RejectedSettings) : ℕ :=
  settings.observationMinutes * ticksPerMinute

/-- `_run_observation`, with the candles its subscription hears until the wait ends. -/
def runObservation (payload : RejectedStart) (heard : List Candle) : RejectedRecord :=
  let side := payload.action.wouldSide
  let entry := payload.virtualEntryPrice
  if entry = 0 then noTriggerRecord
  else
    let thresholds := computeThresholds side entry payload.slPct payload.tpPct payload.beTrigger
    (run (observationHandler side thresholds) (.start entry) heard).record side entry

/-- `_replay_observation_candle_loop`: whether the future was done, and the state. -/
def replayObservationCandleLoop (handler : Candle → ObservationState → ObservationState) :
    List Candle → ObservationState → Bool × ObservationState
  | [], s => (false, s)
  | row :: rows, s =>
      let s := handler { row with isClosed := true } s
      if s.outcome.isSome then (true, s) else replayObservationCandleLoop handler rows s

/-- What a restart finds. -/
structure RejectedReplay where
  now : ℕ
  /-- The table `ohlc_1m` as the replay's query sees it. -/
  ohlc1m : List Candle
  /-- The compute limit struck after this many candles. -/
  cutAfter : Option ℕ := none
  /-- What the live continuation hears until its wait ends. -/
  heard : List Candle

/-- The rows the replay gets through. -/
def RejectedReplay.consumed (r : RejectedReplay) (row : RejectedRow) : List Candle :=
  let window := selectOhlcForReplayWindow row.symbol row.createdAt r.now r.ohlc1m
  (r.cutAfter.map window.take).getD window

/-- `replay_rejected_observation_to_now` with its live continuation: what the row gets. -/
def replayRejectedObservationToNow (settings : RejectedSettings) (row : RejectedRow)
    (r : RejectedReplay) : RejectedRecord :=
  let stored := decodeMeta row.metaColumn
  let side := row.wouldSide
  let entry := stored.virtualEntryPrice
  if settings.replayQueryWindowMaxHours < ((r.now : ℚ) - row.createdAt) / ticksPerHour then
    { outcome := .shutdownMidReplay }
  else if row.createdAt + settings.window ≤ r.now then noTriggerRecord
  else if entry = 0 then noTriggerRecord
  else
    let handler := observationHandler side
      (computeThresholds side entry stored.slPct stored.tpPct stored.beTrigger)
    match replayObservationCandleLoop handler (r.consumed row) (.start entry) with
    | (true, s) => s.record side entry
    | (false, s) =>
        match r.cutAfter with
        | some _ => { outcome := .shutdownMidReplay }
        | none => (run handler s r.heard).record side entry

/-- `resume_active_observations_on_startup`, one row of the table: a row that has a result is left
alone, another one is replayed as it is read. -/
def resumeActiveObservation (settings : RejectedSettings) (r : RejectedReplay)
    (row : RejectedRow) : RejectedRow :=
  if row.result.isNone then
    updateShadowRejectedTerminal
      (replayRejectedObservationToNow settings (rowToShadowRejected row) r) row
  else row

end Scalper.Shadow
