import Scalper.Shadow.Rejected
import Scalper.Lib.Through

/-!
# An observation across a restart

A `Market` is a stream of candles with the instants at which they are published, the closed ones of
a symbol in their order, as the pipeline of `packages/market/ohlc.py` publishes them.  A `Timeline`
has the instants of an observation, of the stop of its process and of the restart, and what the
restart finds: its clock, the table of candles, the compute limit, and what its continuation hears.

A restart leaves an observation alone whose result is written.  Any other one it reads without its
`meta`, so without an entry price, and closes at once: as `no_trigger` with excursions of zero, or,
past the limit of the replay's window, as `shutdown_mid_replay` with none.  No candle is counted,
whatever the table and the continuation have.

`Timeline.resumed_equivalent_iff` is the exact condition under which this is what the uninterrupted
observation records and counts.  `stopAfterRestart_missed` is a stop that is reached after the
restart.
-/

set_option autoImplicit false

namespace Scalper.Shadow

open Scalper.Lib Scalper.Exchange

/-! ## What an observation counts -/

/-- The candle reaches the stop or the target. -/
def endsAt (side : Side) (thresholds : Thresholds) (candle : Candle) : Bool :=
  candle.isClosed &&
    match side with
    | .buy => decide (candle.low ≤ thresholds.sl) || decide (thresholds.tp ≤ candle.high)
    | .sell => decide (thresholds.sl ≤ candle.high) || decide (candle.low ≤ thresholds.tp)

/-- The candles an observation counts of those it hears: the closed ones, up to the one that ends
it.  Without an entry price nothing is watched. -/
def countedBy (side : Side) (entry : ℚ) (thresholds : Thresholds) (heard : List Candle) :
    List Candle :=
  if entry = 0 then [] else through (endsAt side thresholds) (heard.filter (·.isClosed))

section Counting

variable {side : Side} {thresholds : Thresholds}

theorem observationHandler_of_done {s : ObservationState} (done : s.outcome.isSome = true)
    (candle : Candle) : observationHandler side thresholds candle s = s := by
  simp [observationHandler, done]

theorem observationHandler_of_open {candle : Candle} (isOpen : candle.isClosed = false)
    (s : ObservationState) : observationHandler side thresholds candle s = s := by
  simp [observationHandler, isOpen]

/-- A candle ends an observation exactly when it reaches the stop or the target. -/
theorem observationHandler_done {s : ObservationState} (goesOn : s.outcome.isSome = false)
    (candle : Candle) :
    (observationHandler side thresholds candle s).outcome.isSome =
      endsAt side thresholds candle := by
  have observed : ∀ side, (s.observe side candle).outcome.isSome = false := by
    intro side
    cases side <;> exact goesOn
  unfold observationHandler endsAt
  cases isClosed : candle.isClosed with
  | false => simpa using goesOn
  | true =>
      cases side with
      | buy =>
          simp only [goesOn, Bool.not_true, Bool.or_self, Bool.true_and, Bool.false_eq_true,
            if_false]
          split_ifs with stop target breakeven
          · simp [stop]
          · simp [target]
          · simpa [stop, target] using observed .buy
          · simpa [stop, target] using observed .buy
      | sell =>
          simp only [goesOn, Bool.not_true, Bool.or_self, Bool.true_and, Bool.false_eq_true,
            if_false]
          split_ifs with stop target breakeven
          · simp [stop]
          · simp [target]
          · simpa [stop, target] using observed .sell
          · simpa [stop, target] using observed .sell

/-- The state depends on what is counted, and is done when something counted ends it. -/
theorem run_observationHandler {s : ObservationState} (goesOn : s.outcome.isSome = false)
    (heard : List Candle) :
    run (observationHandler side thresholds) s
        (through (endsAt side thresholds) (heard.filter (·.isClosed))) =
      run (observationHandler side thresholds) s heard ∧
      (run (observationHandler side thresholds) s heard).outcome.isSome =
        (heard.filter (·.isClosed)).any (endsAt side thresholds) := by
  have ignored : run (observationHandler side thresholds) s (heard.filter (·.isClosed)) =
      run (observationHandler side thresholds) s heard :=
    run_filter (fun s candle isOpen => observationHandler_of_open isOpen s) heard s
  rw [← ignored]
  exact run_through (fun s : ObservationState => s.outcome.isSome)
    (fun s candle isDone => observationHandler_of_done isDone candle)
    (fun s candle undone => observationHandler_done undone candle) (heard.filter (·.isClosed))
    goesOn

end Counting

/-! ## Payloads -/

section Payloads

/-- The thresholds of an observation. -/
def RejectedStart.thresholds (payload : RejectedStart) : Thresholds :=
  computeThresholds payload.action.wouldSide payload.virtualEntryPrice payload.slPct payload.tpPct
    payload.beTrigger

/-- The candle reaches the stop or the target of the signal. -/
def RejectedStart.ends (payload : RejectedStart) (candle : Candle) : Bool :=
  endsAt payload.action.wouldSide payload.thresholds candle

/-- The candles the observation of a signal counts. -/
def RejectedStart.counted (payload : RejectedStart) (heard : List Candle) : List Candle :=
  countedBy payload.action.wouldSide payload.virtualEntryPrice payload.thresholds heard

/-- The wait of an observation has ended by what it has heard. -/
def RejectedStart.ended (payload : RejectedStart) (heard : List Candle) : Bool :=
  decide (payload.virtualEntryPrice = 0) ||
    (run (observationHandler payload.action.wouldSide payload.thresholds)
      (.start payload.virtualEntryPrice) heard).outcome.isSome

variable {payload : RejectedStart} {heard heard' : List Candle}

theorem ended_iff : payload.ended heard = true ↔
    payload.virtualEntryPrice = 0 ∨ ∃ candle ∈ heard, payload.ends candle = true := by
  have reached : (heard.filter (·.isClosed)).any payload.ends = true ↔
      ∃ candle ∈ heard, payload.ends candle = true := by
    simp only [List.any_eq_true, List.mem_filter]
    constructor
    · rintro ⟨candle, ⟨member, -⟩, ends⟩
      exact ⟨candle, member, ends⟩
    · rintro ⟨candle, member, ends⟩
      exact ⟨candle, ⟨member, (Bool.and_eq_true_iff.mp ends).1⟩, ends⟩
  rw [RejectedStart.ended, Bool.or_eq_true, decide_eq_true_iff, (run_observationHandler rfl heard).2]
  exact or_congr_right reached

/-- Nothing is counted exactly when there is nothing to watch or no closed candle is heard. -/
theorem counted_eq_nil_iff : payload.counted heard = [] ↔
    payload.virtualEntryPrice = 0 ∨ ∀ candle ∈ heard, candle.isClosed = false := by
  rw [RejectedStart.counted, countedBy]
  split_ifs with unpriced
  · simp [unpriced]
  · simp only [unpriced, false_or]
    have noneClosed : heard.filter (·.isClosed) = [] ↔
        ∀ candle ∈ heard, candle.isClosed = false := by
      simp [List.filter_eq_nil_iff]
    rw [← noneClosed]
    cases heard.filter (·.isClosed) with
    | nil => simp [through]
    | cons candle later => simp [through]

/-- A record depends on what is counted. -/
theorem runObservation_congr (same : payload.counted heard = payload.counted heard') :
    runObservation payload heard = runObservation payload heard' := by
  by_cases unpriced : payload.virtualEntryPrice = 0
  · rw [runObservation, runObservation, if_pos unpriced, if_pos unpriced]
  · rw [RejectedStart.counted, RejectedStart.counted, countedBy, countedBy, if_neg unpriced,
      if_neg unpriced] at same
    have states : run (observationHandler payload.action.wouldSide payload.thresholds)
          (.start payload.virtualEntryPrice) heard =
        run (observationHandler payload.action.wouldSide payload.thresholds)
          (.start payload.virtualEntryPrice) heard' := by
      rw [← (run_observationHandler rfl heard).1, same, (run_observationHandler rfl heard').1]
    rw [runObservation, runObservation, if_neg unpriced, if_neg unpriced]
    exact congrArg (·.record payload.action.wouldSide payload.virtualEntryPrice) states

/-- An observation that counts nothing records that nothing was reached. -/
theorem runObservation_of_counted_nil (nothing : payload.counted heard = []) :
    runObservation payload heard = noTriggerRecord := by
  have silent : payload.counted [] = [] := counted_eq_nil_iff.mpr (.inr fun _ none => nomatch none)
  rw [runObservation_congr (nothing.trans silent.symm), runObservation]
  split_ifs with unpriced
  · rfl
  · cases side : payload.action.wouldSide with
    | buy => simp [ObservationState.record, computeMfeMaePcts, ObservationState.start,
        noTriggerRecord, unpriced]
    | sell => simp [ObservationState.record, computeMfeMaePcts, ObservationState.start,
        noTriggerRecord, unpriced]

end Payloads

/-! ## Markets -/

/-- A stream of candles with the instants at which they are published.  The closed candles of a
symbol are published one after the other. -/
structure Market where
  candles : List Candle
  publishedAt : Candle → ℕ
  inOrder : candles.Pairwise fun candle later =>
    candle.isClosed = true → later.isClosed = true → candle.symbol = later.symbol →
      publishedAt candle ≤ publishedAt later

/-- What a subscription to the candles of a symbol hears from one instant to another. -/
def Market.heard (market : Market) (symbol : String) (since until' : ℕ) : List Candle :=
  market.candles.filter fun candle =>
    candle.symbol == symbol && decide (since ≤ market.publishedAt candle) &&
      decide (market.publishedAt candle < until')

/-- What is kept below a bound comes before what is kept from it on. -/
theorem filter_lt_append {α : Type*} {at_ : α → ℕ} {middle last : ℕ} (ordered : middle ≤ last)
    {xs : List α} (sorted : xs.Pairwise fun x y => at_ x ≤ at_ y) :
    xs.filter (fun x => decide (at_ x < last)) =
      xs.filter (fun x => decide (at_ x < middle)) ++
        xs.filter (fun x => decide (middle ≤ at_ x) && decide (at_ x < last)) := by
  induction xs with
  | nil => rfl
  | cons x xs ih =>
      obtain ⟨first, sortedRest⟩ := List.pairwise_cons.mp sorted
      have rest := ih sortedRest
      by_cases early : at_ x < middle
      · have inside : at_ x < last := early.trans_le ordered
        simpa [List.filter_cons, early, inside, not_le.mpr early] using rest
      · -- after an element from the bound on there is none below it
        have noneEarly : xs.filter (fun x => decide (at_ x < middle)) = [] :=
          List.filter_eq_nil_iff.mpr fun y member => by
            have := first y member
            simp only [decide_eq_true_eq]
            omega
        rw [noneEarly, List.nil_append] at rest
        simp [List.filter_cons, early, not_lt.mp early, noneEarly, rest]

/-- A subscription hears the closed candles until an instant, and then those from it on. -/
theorem Market.closed_heard_append (market : Market) (symbol : String) (since : ℕ)
    {middle last : ℕ} (ordered : middle ≤ last) :
    ∃ later, (market.heard symbol since last).filter (·.isClosed) =
      (market.heard symbol since middle).filter (·.isClosed) ++ later := by
  have parted : ∀ until', (market.heard symbol since until').filter (·.isClosed) =
      (market.candles.filter fun candle => candle.isClosed && candle.symbol == symbol &&
        decide (since ≤ market.publishedAt candle)).filter
          fun candle => decide (market.publishedAt candle < until') := by
    intro until'
    rw [Market.heard, List.filter_filter, List.filter_filter]
    refine List.filter_congr fun candle _ => ?_
    cases candle.isClosed <;> cases candle.symbol == symbol <;> simp [Bool.and_comm]
  have sorted : (market.candles.filter fun candle => candle.isClosed && candle.symbol == symbol &&
      decide (since ≤ market.publishedAt candle)).Pairwise fun candle later =>
        market.publishedAt candle ≤ market.publishedAt later := by
    refine List.pairwise_filter.mpr (market.inOrder.imp fun inOrder own ownLater => ?_)
    simp only [Bool.and_eq_true, beq_iff_eq] at own ownLater
    exact inOrder own.1.1 ownLater.1.1 (own.1.2.trans ownLater.1.2.symm)
  exact ⟨_, by rw [parted, parted]; exact filter_lt_append ordered sorted⟩

/-! ## Timelines -/

/-- The instants of an observation and of a restart before its expiry: the row is created, the
subscription made; the process stops, and the restart reads the clock, finds the table and hears
its continuation. -/
structure Timeline (settings : RejectedSettings) where
  createdAt : ℕ
  subscribedAt : ℕ
  stoppedAt : ℕ
  /-- A result that the observation had reached was written before the stop. -/
  written : Bool := true
  replay : RejectedReplay
  created : createdAt ≤ subscribedAt
  stopped : stoppedAt ≤ replay.now
  unexpired : replay.now < createdAt + settings.window

/-- The candles a resumed observation counts. -/
def RejectedReplay.counted (settings : RejectedSettings) (row : RejectedRow) (r : RejectedReplay) :
    List Candle :=
  let stored := decodeMeta row.metaColumn
  if settings.replayQueryWindowMaxHours < ((r.now : ℚ) - row.createdAt) / ticksPerHour ∨
      row.createdAt + settings.window ≤ r.now then []
  else
    countedBy row.wouldSide stored.virtualEntryPrice
      (computeThresholds row.wouldSide stored.virtualEntryPrice stored.slPct stored.tpPct
        stored.beTrigger)
      (r.consumed row ++ if r.cutAfter.isSome then [] else r.heard)

section Observations

variable {settings : RejectedSettings} (payload : RejectedStart) (market : Market)
  (t : Timeline settings)

/-- What the uninterrupted observation hears. -/
def Timeline.heard : List Candle :=
  market.heard payload.symbol t.subscribedAt (t.subscribedAt + settings.window)

/-- What the interrupted observation has heard when its process stops. -/
def Timeline.heardBefore : List Candle :=
  market.heard payload.symbol t.subscribedAt t.stoppedAt

/-- The row of the uninterrupted observation. -/
def Timeline.uninterrupted : RejectedRow :=
  updateShadowRejectedTerminal (runObservation payload (t.heard payload market))
    (insertShadowRejected payload t.createdAt)

/-- The row of the interrupted observation when the restart finds it. -/
def Timeline.atStop : RejectedRow :=
  if t.written && payload.ended (t.heardBefore payload market) then
    updateShadowRejectedTerminal (runObservation payload (t.heardBefore payload market))
      (insertShadowRejected payload t.createdAt)
  else insertShadowRejected payload t.createdAt

/-- The row of the interrupted observation after the restart. -/
def Timeline.resumed : RejectedRow :=
  resumeActiveObservation settings t.replay (t.atStop payload market)

/-- The candles behind the result of the interrupted observation. -/
def Timeline.recounted : List Candle :=
  if (t.atStop payload market).result.isSome then payload.counted (t.heardBefore payload market)
  else t.replay.counted settings (rowToShadowRejected (t.atStop payload market))

/-- The interrupted observation ends as the uninterrupted one does, and counts the same candles,
each once and in the same order. -/
def Timeline.Equivalent : Prop :=
  t.resumed payload market = t.uninterrupted payload market ∧
    t.recounted payload market = payload.counted (t.heard payload market)

/-- The observation had ended before the stop, and its result was written. -/
def Timeline.EndedBefore : Prop :=
  t.written = true ∧
    (payload.virtualEntryPrice = 0 ∨
      ∃ candle ∈ t.heardBefore payload market, payload.ends candle = true)

/-- The restart comes too late for a replay. -/
def Timeline.TooLate : Prop :=
  settings.replayQueryWindowMaxHours < ((t.replay.now : ℚ) - t.createdAt) / ticksPerHour

variable {payload market t}

/-- The row at the stop has its result exactly when the observation had ended and it was written. -/
theorem Timeline.atStop_eq :
    (t.EndedBefore payload market ∧ t.atStop payload market =
        updateShadowRejectedTerminal (runObservation payload (t.heardBefore payload market))
          (insertShadowRejected payload t.createdAt)) ∨
      (¬ t.EndedBefore payload market ∧
        t.atStop payload market = insertShadowRejected payload t.createdAt) := by
  have ended : (t.written && payload.ended (t.heardBefore payload market)) = true ↔
      t.EndedBefore payload market := by
    rw [Bool.and_eq_true, ended_iff]
    rfl
  unfold Timeline.atStop
  split_ifs with result
  · exact .inl ⟨ended.mp result, rfl⟩
  · exact .inr ⟨fun before => result (ended.mpr before), rfl⟩

/-- An observation that had ended counts nothing more. -/
theorem Timeline.counted_heardBefore (before : t.EndedBefore payload market) :
    payload.counted (t.heardBefore payload market) = payload.counted (t.heard payload market) := by
  have created := t.created
  have stopped := t.stopped
  have unexpired := t.unexpired
  obtain ⟨later, parted⟩ := market.closed_heard_append payload.symbol t.subscribedAt
    (show t.stoppedAt ≤ t.subscribedAt + settings.window by omega)
  rw [RejectedStart.counted, RejectedStart.counted, countedBy, countedBy]
  split_ifs with unpriced
  · rfl
  · obtain ⟨candle, member, ends⟩ := before.2.resolve_left unpriced
    have ended : ((t.heardBefore payload market).filter (·.isClosed)).any payload.ends = true :=
      List.any_eq_true.mpr ⟨candle, List.mem_filter.mpr
        ⟨member, (Bool.and_eq_true_iff.mp ends).1⟩, ends⟩
    have parted' : (t.heard payload market).filter (·.isClosed) =
        (t.heardBefore payload market).filter (·.isClosed) ++ later := parted
    rw [parted', through_append]
    exact (if_pos ended).symm

/-- What the replay makes of a row as the execution service reads it. -/
theorem replayRejectedObservationToNow_read (row : RejectedRow) (r : RejectedReplay) :
    replayRejectedObservationToNow settings (rowToShadowRejected row) r =
      if settings.replayQueryWindowMaxHours < ((r.now : ℚ) - row.createdAt) / ticksPerHour then
        { outcome := .shutdownMidReplay }
      else noTriggerRecord := by
  have unpriced : (decodeMeta (rowToShadowRejected row).metaColumn).virtualEntryPrice = 0 := rfl
  simp only [replayRejectedObservationToNow, unpriced, if_true, ite_self]
  rfl

/-- A resumed observation counts no candle. -/
theorem counted_read (row : RejectedRow) (r : RejectedReplay) :
    r.counted settings (rowToShadowRejected row) = [] := by
  have unpriced : (decodeMeta (rowToShadowRejected row).metaColumn).virtualEntryPrice = 0 := rfl
  simp only [RejectedReplay.counted, countedBy, unpriced, if_true, ite_self]

/-- **When a restart changes nothing**: the interrupted observation records what the uninterrupted
one does and counts the same candles, each once, exactly when it had ended before the stop, or the
restart is not too late and the uninterrupted one has nothing to count either. -/
theorem Timeline.resumed_equivalent_iff :
    t.Equivalent payload market ↔
      t.EndedBefore payload market ∨
        ¬ t.TooLate ∧ (payload.virtualEntryPrice = 0 ∨
          ∀ candle ∈ t.heard payload market, candle.isClosed = false) := by
  rw [← counted_eq_nil_iff]
  unfold Timeline.Equivalent Timeline.resumed Timeline.recounted resumeActiveObservation
  rcases @Timeline.atStop_eq settings payload market t with ⟨before, row⟩ | ⟨active, row⟩
  · -- the result is written: the restart leaves the row alone
    have counts := Timeline.counted_heardBefore before
    refine iff_of_true ?_ (.inl before)
    rw [row]
    exact ⟨congrArg (updateShadowRejectedTerminal · _) (runObservation_congr counts), counts⟩
  · -- the row is active: it is closed without a candle
    have found : (t.atStop payload market).result = none := by
      rw [row]
      rfl
    rw [found, row, replayRejectedObservationToNow_read]
    simp only [Option.isNone_none, if_true, Option.isSome_none, Bool.false_eq_true, if_false,
      counted_read]
    constructor
    · rintro ⟨rows, counts⟩
      refine .inr ⟨fun tooLate => ?_, counts.symm⟩
      have recorded := Option.some.inj (congrArg RejectedRow.result rows)
      rw [runObservation_of_counted_nil counts.symm] at recorded
      have givenUp := congrArg RejectedRecord.outcome ((if_pos tooLate).symm.trans recorded)
      exact nomatch givenUp
    · rintro (before | ⟨inTime, nothing⟩)
      · exact absurd before active
      · refine ⟨congrArg (updateShadowRejectedTerminal · _) ?_, nothing.symm⟩
        rw [runObservation_of_counted_nil nothing]
        exact if_neg inTime

end Observations

/-! ## A stop that is reached after the restart -/

/-- A rejected long at 100, with its stop at 98 and its target at 104. -/
def rejectedLong : RejectedStart where
  symbol := "BTCUSDT"
  action := .long
  virtualEntryPrice := 100
  slPct := 1 / 50
  tpPct := 1 / 25
  beTrigger := 1 / 100
  beSlLevel := 1 / 1000

/-- A minute that reaches the stop. -/
def fallingMinute : Candle where
  symbol := "BTCUSDT"
  bucketStart := 120000000
  openPrice := 100
  high := 101
  low := 97
  close := 98
  volume := 1
  isClosed := true

def fallingMarket : Market where
  candles := [fallingMinute]
  publishedAt := fun _ => 180000001
  inOrder := List.pairwise_singleton ..

/-- An observation, and a restart one minute after its start: the next minute is heard. -/
def watchedMinute : Timeline {} where
  createdAt := 30000000
  subscribedAt := 30000000
  stoppedAt := 89000000
  replay := { now := 90000000, ohlc1m := [], heard := [fallingMinute] }
  created := by decide
  stopped := by decide
  unexpired := by decide

/-- **A stop after the restart is missed**: the uninterrupted observation ends with it, and the
resumed one has been closed at the restart. -/
theorem stopAfterRestart_missed :
    (watchedMinute.uninterrupted rejectedLong fallingMarket).result =
        some ⟨.wouldSl, some (1 / 100), some (3 / 100)⟩ ∧
      (watchedMinute.resumed rejectedLong fallingMarket).result =
        some ⟨.noTrigger, some 0, some 0⟩ ∧
      ¬ watchedMinute.Equivalent rejectedLong fallingMarket := by
  have stopped : (watchedMinute.uninterrupted rejectedLong fallingMarket).result =
      some ⟨.wouldSl, some (1 / 100), some (3 / 100)⟩ := by decide +kernel
  have missed : (watchedMinute.resumed rejectedLong fallingMarket).result =
      some ⟨.noTrigger, some 0, some 0⟩ := by decide +kernel
  refine ⟨stopped, missed, fun same => ?_⟩
  have results := congrArg RejectedRow.result same.1
  rw [missed, stopped] at results
  exact absurd results (by decide +kernel)

end Scalper.Shadow
