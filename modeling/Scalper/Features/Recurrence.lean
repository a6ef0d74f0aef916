import Mathlib.Tactic.FieldSimp
import Mathlib.Tactic.Linarith
import Mathlib.Tactic.Ring
import Scalper.Features.Pipeline

/-!
# Recursive indicators over a stream

The exponential moving average, and Wilder's averages behind the strength index and the true
range, are documented by the step from one value to the next.  `compute` starts anew on every
window it gets, from the plain average of the first `period` values, and the pipeline hands it
`warmup_candles`, which is just enough for that start: no step is ever taken, and what is published
is the plain average of the window (`emaOf_window`, `wilder_window`).

Two plain averages of consecutive windows are one step apart only if the value that leaves the
window has the right size, which is the condition of `recurrences_iff`; `ema_restarts` is a stream
where it has not.
-/

set_option autoImplicit false

namespace Scalper.Features

open Scalper.Lib

/-! ## The steps -/

/-- One step of the exponential moving average. -/
def emaStep (period : ℕ) (ema close : ℚ) : ℚ :=
  2 / ((period : ℚ) + 1) * close + (1 - 2 / ((period : ℚ) + 1)) * ema

/-- One step of Wilder's smoothing. -/
def wilderStep (period : ℕ) (average value : ℚ) : ℚ := (average * (period - 1) + value) / period

/-- Consecutive values of the moving average. -/
def EmaRecurrence (period : ℕ) (earlier later : OhlcCandle × FeatureValue) : Prop :=
  ∃ ema, earlier.2 = .num ema ∧ later.2 = .num (emaStep period ema later.1.close)

/-- Consecutive values of the average true range. -/
def AtrRecurrence (period : ℕ) (earlier later : OhlcCandle × FeatureValue) : Prop :=
  ∃ atr, earlier.2 = .num atr ∧
    later.2 = .num (wilderStep period atr (trueRange later.1 earlier.1))

/-- The gain and the loss of a close behind another. -/
def gain (close last : ℚ) : ℚ := if 0 ≤ close - last then close - last else 0

def loss (close last : ℚ) : ℚ := if 0 ≤ close - last then 0 else -(close - last)

/-- Consecutive averages of gains and losses. -/
def RsiRecurrence (period : ℕ) (earlier later : OhlcCandle × ℚ × ℚ) : Prop :=
  later.2.1 = wilderStep period earlier.2.1 (gain later.1.close earlier.1.close) ∧
    later.2.2 = wilderStep period earlier.2.2 (loss later.1.close earlier.1.close)

/-- The averages behind the strength index after some candles. -/
def averagesAfter (rsi : RsiFeature) (candles : List OhlcCandle) : Option (OhlcCandle × ℚ × ℚ) :=
  if rsi.warmupCandles ≤ candles.length then
    candles.getLast?.map fun candle =>
      (candle, rsi.averages (candles.rtake rsi.warmupCandles))
  else none

/-- The index of some averages. -/
def rsiValue (averages : OhlcCandle × ℚ × ℚ) : OhlcCandle × FeatureValue :=
  (averages.1, .num (rsiOf averages.2.1 averages.2.2))

/-! ## When a stream keeps the steps -/

/-- After every full window of closes: twice their sum is `period + 1` times the oldest and
`period - 1` times the next close. -/
def EmaSettled (period : ℕ) (candles : List OhlcCandle) : Prop :=
  ∀ done next, done ++ [next] <+: candles → period ≤ done.length →
    ∀ oldest ∈ ((done.rtake period).map OhlcCandle.close).head?,
      2 * ((done.rtake period).map OhlcCandle.close).sum =
        ((period : ℚ) + 1) * oldest + (period - 1) * next.close

/-- In every full window before the end, the oldest of the values is their average. -/
def WilderSettled (values : List OhlcCandle → List ℚ) (period : ℕ) (candles : List OhlcCandle) :
    Prop :=
  ∀ done next, done ++ [next] <+: candles → period + 1 ≤ done.length →
    ∀ oldest ∈ (values (done.rtake (period + 1))).head?,
      (period : ℚ) * oldest = (values (done.rtake (period + 1))).sum

/-! ## Windows -/

theorem exists_newest {n : ℕ} {done : List OhlcCandle} (full : n + 1 ≤ done.length) :
    ∃ last, done.getLast? = some last :=
  ⟨_, List.getLast?_eq_some_getLast (List.ne_nil_of_length_pos (by omega))⟩

/-- On a window of its length the moving average is the plain average. -/
theorem emaOf_window {period : ℕ} {values : List ℚ} (full : values.length = period) :
    emaOf period values = values.sum / period := by
  rw [emaOf, List.drop_eq_nil_of_le full.le, List.take_of_length_le full.le]
  rfl

theorem wilder_window {period : ℕ} {values : List ℚ} (full : values.length = period) :
    wilder period values = values.sum / period := by
  rw [wilder, List.drop_eq_nil_of_le full.le, List.take_of_length_le full.le]
  rfl

/-- When two windows are one step of the moving average apart. -/
theorem ema_window_step_iff {period : ℕ} {oldest next : ℚ} {values : List ℚ}
    (full : (oldest :: values).length = period) :
    emaOf period (values ++ [next]) = emaStep period (emaOf period (oldest :: values)) next ↔
      2 * (oldest :: values).sum = ((period : ℚ) + 1) * oldest + (period - 1) * next := by
  have positive : (period : ℚ) ≠ 0 :=
    Nat.cast_ne_zero.mpr (full ▸ Nat.succ_ne_zero values.length)
  have more : (period : ℚ) + 1 ≠ 0 := by positivity
  rw [emaOf_window full, emaOf_window (by simpa using full), emaStep, List.sum_append,
    List.sum_singleton, List.sum_cons]
  field_simp
  constructor
  · intro step
    linarith
  · intro settled
    linarith

/-- When two windows are one step of Wilder's smoothing apart. -/
theorem wilder_window_step_iff {period : ℕ} {oldest next : ℚ} {values : List ℚ}
    (full : (oldest :: values).length = period) :
    wilder period (values ++ [next]) = wilderStep period (wilder period (oldest :: values)) next ↔
      (period : ℚ) * oldest = (oldest :: values).sum := by
  have positive : (period : ℚ) ≠ 0 :=
    Nat.cast_ne_zero.mpr (full ▸ Nat.succ_ne_zero values.length)
  rw [wilder_window full, wilder_window (by simpa using full), wilderStep, List.sum_append,
    List.sum_singleton, List.sum_cons]
  field_simp
  constructor
  · intro step
    linarith
  · intro settled
    linarith

/-! ## One candle more -/

/-- What every candle makes of the one before it. -/
def stepValues (f : OhlcCandle → OhlcCandle → ℚ) (candles : List OhlcCandle) : List ℚ :=
  candles.tail.zipWith f candles

theorem zipWith_tail_concat {α β : Type} (f : α → α → β) (last next : α) (xs : List α) :
    (xs ++ [last] ++ [next]).tail.zipWith f (xs ++ [last] ++ [next]) =
      (xs ++ [last]).tail.zipWith f (xs ++ [last]) ++ [f next last] := by
  induction xs with
  | nil => rfl
  | cons x xs ih =>
      cases xs with
      | nil => rfl
      | cons y ys => exact congrArg (f y x :: ·) ih

theorem stepValues_tail (f : OhlcCandle → OhlcCandle → ℚ) (candles : List OhlcCandle) :
    stepValues f candles.tail = (stepValues f candles).tail :=
  List.tail_zipWith.symm

theorem stepValues_concat (f : OhlcCandle → OhlcCandle → ℚ) {candles : List OhlcCandle}
    {last : OhlcCandle} (newest : candles.getLast? = some last) (next : OhlcCandle) :
    stepValues f (candles ++ [next]) = stepValues f candles ++ [f next last] := by
  obtain ⟨init, rfl⟩ := List.getLast?_eq_some_iff.mp newest
  exact zipWith_tail_concat f last next init

theorem gains_eq_stepValues (candles : List OhlcCandle) :
    gains (candles.map OhlcCandle.close) =
      stepValues (fun candle last => gain candle.close last.close) candles := by
  simp only [gains, deltas, stepValues, gain, List.map_zipWith, ← List.map_tail,
    List.zipWith_map_left, List.zipWith_map_right]

theorem losses_eq_stepValues (candles : List OhlcCandle) :
    losses (candles.map OhlcCandle.close) =
      stepValues (fun candle last => loss candle.close last.close) candles := by
  simp only [losses, deltas, stepValues, loss, List.map_zipWith, ← List.map_tail,
    List.zipWith_map_left, List.zipWith_map_right]

section Next

variable {period : ℕ} {done : List OhlcCandle} {next : OhlcCandle}

theorem ema_next_iff (positive : 1 ≤ period) (full : period ≤ done.length) :
    emaOf period (((done ++ [next]).rtake period).map OhlcCandle.close) =
        emaStep period (emaOf period ((done.rtake period).map OhlcCandle.close)) next.close ↔
      ∀ oldest ∈ ((done.rtake period).map OhlcCandle.close).head?,
        2 * ((done.rtake period).map OhlcCandle.close).sum =
          ((period : ℚ) + 1) * oldest + (period - 1) * next.close := by
  have length : ((done.rtake period).map OhlcCandle.close).length = period := by
    rw [List.length_map, length_rtake, min_eq_right full]
  rw [rtake_concat_of_full positive full, List.map_append, List.map_tail, List.map_singleton]
  cases window : (done.rtake period).map OhlcCandle.close with
  | nil => exact absurd (window ▸ length) (by simp; omega)
  | cons oldest values =>
      rw [window] at length
      rw [List.tail_cons, ema_window_step_iff length]
      simp

theorem wilder_next_iff (f : OhlcCandle → OhlcCandle → ℚ) (next : OhlcCandle)
    (positive : 1 ≤ period) (full : period + 1 ≤ done.length) {last : OhlcCandle}
    (newest : done.getLast? = some last) :
    wilder period (stepValues f ((done ++ [next]).rtake (period + 1))) =
        wilderStep period (wilder period (stepValues f (done.rtake (period + 1)))) (f next last) ↔
      ∀ oldest ∈ (stepValues f (done.rtake (period + 1))).head?,
        (period : ℚ) * oldest = (stepValues f (done.rtake (period + 1))).sum := by
  have length : (stepValues f (done.rtake (period + 1))).length = period := by
    rw [stepValues, List.length_zipWith, List.length_tail, length_rtake, min_eq_right full]
    omega
  have window_last : (done.rtake (period + 1)).getLast? = some last := by
    rw [getLast?_rtake (Nat.succ_pos period), newest]
  have window_nonempty : done.rtake (period + 1) ≠ [] := by
    intro empty
    rw [empty] at window_last
    cases window_last
  have values_nonempty : stepValues f (done.rtake (period + 1)) ≠ [] :=
    List.ne_nil_of_length_pos (by rw [length]; exact positive)
  have following : stepValues f ((done ++ [next]).rtake (period + 1)) =
      (stepValues f (done.rtake (period + 1))).tail ++ [f next last] := by
    rw [rtake_concat_of_full (Nat.succ_pos period) full,
      ← List.tail_append_of_ne_nil window_nonempty, stepValues_tail,
      stepValues_concat f window_last, List.tail_append_of_ne_nil values_nonempty]
  rw [following]
  cases window : stepValues f (done.rtake (period + 1)) with
  | nil => exact absurd (window ▸ length) (by simp; omega)
  | cons oldest values =>
      rw [window] at length
      rw [List.tail_cons, wilder_window_step_iff length]
      simp

end Next

/-- A feature that answers on every full window and refuses a short one. -/
theorem warmFrom_valueAfter {feature : Feature} (reading : List OhlcCandle → FeatureValue)
    (positive : 0 < feature.warmupCandles)
    (answers : ∀ window : List OhlcCandle, feature.warmupCandles ≤ window.length →
      feature.compute window = .ok (reading window))
    (refuses : ∀ window : List OhlcCandle, window.length < feature.warmupCandles →
      ∃ raised, feature.compute window = .error raised) :
    WarmFrom (valueAfter feature) feature.warmupCandles fun candles =>
      (candles.getLast?.getD default, reading (candles.rtake feature.warmupCandles)) := by
  intro done
  cases newest : done.getLast? with
  | none =>
      rw [List.getLast?_eq_none_iff.mp newest, if_neg (by simpa using positive.ne')]
      rfl
  | some candle =>
      rw [valueAfter, newest, Option.bind_some]
      split_ifs with full
      · rw [answers _ (by rw [length_rtake, min_eq_right full])]
        simp only [newest, Option.getD_some]
        rfl
      · obtain ⟨raised, refused⟩ := refuses (done.rtake feature.warmupCandles)
          (by rw [length_rtake]; omega)
        rw [refused]
        rfl

/-! ## Over a stream -/

section Stream

variable {featuresByKey : FeaturesByKey} {pipeline : FeaturePipeline} {symbol : String}

theorem ema_recurrence_iff (ema : EmaFeature) (candles : List OhlcCandle) :
    (series (valueAfter ema.toFeature) candles).IsChain (EmaRecurrence ema.period) ↔
      EmaSettled ema.period candles := by
  have warm : WarmFrom (valueAfter ema.toFeature) ema.period fun candles =>
      (candles.getLast?.getD default,
        .num (emaOf ema.period ((candles.rtake ema.period).map OhlcCandle.close))) :=
    warmFrom_valueAfter (fun window => .num (emaOf ema.period (window.map OhlcCandle.close)))
      ema.positive (fun window full => if_neg (not_lt.mpr full))
      fun window short => ⟨_, if_pos short⟩
  rw [isChain_series_iff ema.positive warm]
  refine forall_congr' fun done => forall_congr' fun next => forall_congr' fun within =>
    forall_congr' fun full => ?_
  rw [← ema_next_iff ema.positive full]
  simp [EmaRecurrence]

theorem atr_recurrence_iff (atr : AtrFeature) (candles : List OhlcCandle) :
    (series (valueAfter atr.toFeature) candles).IsChain (AtrRecurrence atr.period) ↔
      WilderSettled trueRanges atr.period candles := by
  have warm : WarmFrom (valueAfter atr.toFeature) (atr.period + 1) fun candles =>
      (candles.getLast?.getD default,
        .num (wilder atr.period (trueRanges (candles.rtake (atr.period + 1))))) :=
    warmFrom_valueAfter (fun window => .num (wilder atr.period (trueRanges window)))
      (Nat.succ_pos _) (fun window full => if_neg (not_lt.mpr full))
      fun window short => ⟨_, if_pos short⟩
  rw [isChain_series_iff (Nat.succ_pos _) warm]
  refine forall_congr' fun done => forall_congr' fun next => forall_congr' fun within =>
    forall_congr' fun full => ?_
  obtain ⟨last, newest⟩ := exists_newest full
  have step := wilder_next_iff trueRange next atr.positive full newest
  unfold stepValues at step
  unfold trueRanges
  rw [← step]
  simp [AtrRecurrence, newest]

theorem valueAfter_rsi (rsi : RsiFeature) :
    valueAfter rsi.toFeature = fun candles => (averagesAfter rsi candles).map rsiValue := by
  funext candles
  unfold valueAfter averagesAfter
  split_ifs with full
  · have answers : rsi.toFeature.compute (candles.rtake rsi.warmupCandles) =
        .ok (.num (rsiOf (rsi.averages (candles.rtake rsi.warmupCandles)).1
          (rsi.averages (candles.rtake rsi.warmupCandles)).2)) :=
      if_neg (by rw [length_rtake]; omega)
    change candles.getLast?.bind (fun candle => (rsi.toFeature.compute (candles.rtake
      rsi.warmupCandles)).toOption.map fun value => (candle, value)) = _
    rw [answers]
    cases candles.getLast? <;> rfl
  · have refuses : ∃ raised, rsi.toFeature.compute (candles.rtake rsi.warmupCandles) =
        .error raised :=
      ⟨_, if_pos (by rw [length_rtake]; omega)⟩
    obtain ⟨raised, refused⟩ := refuses
    change candles.getLast?.bind (fun candle => (rsi.toFeature.compute (candles.rtake
      rsi.warmupCandles)).toOption.map fun value => (candle, value)) = _
    rw [refused]
    cases candles.getLast? <;> rfl

/-- The averages behind the strength index. -/
theorem rsi_recurrence_iff (rsi : RsiFeature) (candles : List OhlcCandle) :
    series (valueAfter rsi.toFeature) candles =
        (series (averagesAfter rsi) candles).map rsiValue ∧
      ((series (averagesAfter rsi) candles).IsChain (RsiRecurrence rsi.period) ↔
        WilderSettled (fun window => gains (window.map OhlcCandle.close)) rsi.period candles ∧
          WilderSettled (fun window => losses (window.map OhlcCandle.close)) rsi.period candles) := by
  refine ⟨by rw [valueAfter_rsi, series_map], ?_⟩
  have warm : WarmFrom (averagesAfter rsi) (rsi.period + 1) fun candles =>
      (candles.getLast?.getD default, rsi.averages (candles.rtake (rsi.period + 1))) := by
    intro done
    change (if rsi.period + 1 ≤ done.length then _ else none) = _
    cases newest : done.getLast? with
    | none =>
        rw [List.getLast?_eq_none_iff.mp newest]
        rfl
    | some candle =>
        simp only [newest, Option.getD_some]
        rfl
  rw [isChain_series_iff (Nat.succ_pos _) warm]
  have step (done : List OhlcCandle) (next : OhlcCandle) (full : rsi.period + 1 ≤ done.length) :
      RsiRecurrence rsi.period
          (done.getLast?.getD default, rsi.averages (done.rtake (rsi.period + 1)))
          ((done ++ [next]).getLast?.getD default,
            rsi.averages ((done ++ [next]).rtake (rsi.period + 1))) ↔
        (∀ oldest ∈ (gains ((done.rtake (rsi.period + 1)).map OhlcCandle.close)).head?,
          (rsi.period : ℚ) * oldest =
            (gains ((done.rtake (rsi.period + 1)).map OhlcCandle.close)).sum) ∧
        ∀ oldest ∈ (losses ((done.rtake (rsi.period + 1)).map OhlcCandle.close)).head?,
          (rsi.period : ℚ) * oldest =
            (losses ((done.rtake (rsi.period + 1)).map OhlcCandle.close)).sum := by
    obtain ⟨last, newest⟩ := exists_newest full
    simp only [gains_eq_stepValues, losses_eq_stepValues]
    rw [← wilder_next_iff _ next rsi.positive full newest,
      ← wilder_next_iff _ next rsi.positive full newest]
    simp only [RsiRecurrence, RsiFeature.averages, newest, Option.getD_some,
      List.getLast?_concat, gains_eq_stepValues, losses_eq_stepValues]
  constructor
  · intro chain
    exact ⟨fun done next within full => ((step done next full).mp (chain done next within full)).1,
      fun done next within full => ((step done next full).mp (chain done next within full)).2⟩
  · rintro ⟨gains_settled, losses_settled⟩ done next within full
    exact (step done next full).mpr
      ⟨gains_settled done next within full, losses_settled done next within full⟩

/-- **When the published indicators satisfy their recurrences.**  Over any stream, for a feature
registered for the one-minute candles of a symbol: the moving average steps by `emaStep` exactly
when every window of closes is settled, and Wilder's averages step by `wilderStep` exactly when the
oldest gain, loss or true range of every window is the average of the window. -/
theorem recurrences_iff (started : FeaturePipeline.start featuresByKey = .ok pipeline)
    (stream : List OhlcCandlePayload) :
    (∀ (i : ℕ) (featureName : String) (ema : EmaFeature),
      (featuresByKey.get (symbol, "1m"))[i]? = some (featureName, ema.toFeature) →
        ((emitted symbol i pipeline stream).IsChain (EmaRecurrence ema.period) ↔
          EmaSettled ema.period (ownCandles symbol stream))) ∧
    (∀ (i : ℕ) (featureName : String) (rsi : RsiFeature),
      (featuresByKey.get (symbol, "1m"))[i]? = some (featureName, rsi.toFeature) →
        emitted symbol i pipeline stream =
            (series (averagesAfter rsi) (ownCandles symbol stream)).map rsiValue ∧
        ((series (averagesAfter rsi) (ownCandles symbol stream)).IsChain
            (RsiRecurrence rsi.period) ↔
          WilderSettled (fun window => gains (window.map OhlcCandle.close)) rsi.period
              (ownCandles symbol stream) ∧
            WilderSettled (fun window => losses (window.map OhlcCandle.close)) rsi.period
              (ownCandles symbol stream))) ∧
    (∀ (i : ℕ) (featureName : String) (atr : AtrFeature),
      (featuresByKey.get (symbol, "1m"))[i]? = some (featureName, atr.toFeature) →
        ((emitted symbol i pipeline stream).IsChain (AtrRecurrence atr.period) ↔
          WilderSettled trueRanges atr.period (ownCandles symbol stream))) := by
  refine ⟨fun i featureName ema here => ?_, fun i featureName rsi here => ?_,
    fun i featureName atr here => ?_⟩
  · rw [emitted_eq started here]
    exact ema_recurrence_iff ema _
  · rw [emitted_eq started here]
    exact rsi_recurrence_iff rsi _
  · rw [emitted_eq started here]
    exact atr_recurrence_iff atr _

end Stream

/-! ## A period of two -/

/-- One symbol with a moving average of two closes, and Wilder's indicators of two values. -/
def averageFeatures : FeaturesByKey :=
  [(("BTCUSDT", "1m"),
    [("ind.btcusdt.1m.ema_2", EmaFeature.toFeature ⟨2, Nat.le_succ 1, "1m"⟩),
      ("ind.btcusdt.1m.rsi_2", RsiFeature.toFeature ⟨2, Nat.le_succ 1, "1m"⟩),
      ("ind.btcusdt.1m.atr_2", AtrFeature.toFeature ⟨2, Nat.le_succ 1, "1m"⟩)])]

def averagePipeline : FeaturePipeline where
  featuresByKey := averageFeatures
  registry :=
    { capacityMap := capacityMap averageFeatures
      buffers := Function.update (fun _ => none) ("BTCUSDT", "1m") (some (.empty 3))
      counts := Function.update (fun _ => none) ("BTCUSDT", "1m") (some 1) }
  handles := Function.update (fun _ => none) ("BTCUSDT", "1m") (some ⟨("BTCUSDT", "1m"), false⟩)

theorem averagePipeline_started :
    FeaturePipeline.start averageFeatures = .ok averagePipeline :=
  rfl

/-- A closed candle of one price. -/
def closeAt (bucketStart : ℕ) (price : ℚ) : OhlcCandlePayload :=
  ⟨"BTCUSDT", bucketStart, price, price, price, price, 1, true⟩

theorem recurrences_iff_flat :
    (emitted "BTCUSDT" 0 averagePipeline
        [closeAt 0 5, closeAt 60000000 5, closeAt 120000000 5]).IsChain (EmaRecurrence 2) ↔
      EmaSettled 2 (ownCandles "BTCUSDT" [closeAt 0 5, closeAt 60000000 5, closeAt 120000000 5]) := by
  have registered : (averageFeatures.get ("BTCUSDT", "1m"))[0]? =
      some ("ind.btcusdt.1m.ema_2", EmaFeature.toFeature ⟨2, Nat.le_succ 1, "1m"⟩) :=
    rfl
  exact (recurrences_iff averagePipeline_started _).1 0 _ _ registered

/-- A jump from 0 to 6, and two candles at 6. -/
def jump : List OhlcCandlePayload :=
  [closeAt 0 0, closeAt 60000000 6, closeAt 120000000 6, closeAt 180000000 6]

/-- With a period of two the published average goes from 3 to 6, where a step of the recurrence
leads to 5; the average gain and the true range go from 3 to 0, where a step leads to 3/2. -/
theorem ema_restarts :
    ¬ (emitted "BTCUSDT" 0 averagePipeline jump).IsChain (EmaRecurrence 2) ∧
      ¬ (series (averagesAfter ⟨2, Nat.le_succ 1, "1m"⟩)
        (ownCandles "BTCUSDT" jump)).IsChain (RsiRecurrence 2) ∧
      ¬ (emitted "BTCUSDT" 2 averagePipeline jump).IsChain (AtrRecurrence 2) := by
  have averages : emitted "BTCUSDT" 0 averagePipeline jump =
      [(wireToDomain (closeAt 60000000 6), .num 3), (wireToDomain (closeAt 120000000 6), .num 6),
        (wireToDomain (closeAt 180000000 6), .num 6)] := by
    decide +kernel
  have behind : series (averagesAfter ⟨2, Nat.le_succ 1, "1m"⟩) (ownCandles "BTCUSDT" jump) =
      [(wireToDomain (closeAt 120000000 6), 3, 0), (wireToDomain (closeAt 180000000 6), 0, 0)] := by
    decide +kernel
  have ranges : emitted "BTCUSDT" 2 averagePipeline jump =
      [(wireToDomain (closeAt 120000000 6), .num 3),
        (wireToDomain (closeAt 180000000 6), .num 0)] := by
    decide +kernel
  refine ⟨fun chain => ?_, fun chain => ?_, fun chain => ?_⟩
  · rw [averages, List.isChain_cons_cons] at chain
    obtain ⟨⟨ema, is_three, is_six⟩, -⟩ := chain
    obtain rfl := FeatureValue.num.inj is_three
    exact absurd is_six (by decide +kernel)
  · rw [behind, List.isChain_cons_cons] at chain
    exact absurd chain.1.1 (by decide +kernel)
  · rw [ranges, List.isChain_cons_cons] at chain
    obtain ⟨⟨atr, is_three, is_zero⟩, -⟩ := chain
    obtain rfl := FeatureValue.num.inj is_three
    exact absurd is_zero (by decide +kernel)

end Scalper.Features
