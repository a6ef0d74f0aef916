import Mathlib.Algebra.BigOperators.Group.List.Basic
import Mathlib.Algebra.Field.Rat
import Mathlib.Algebra.Order.Ring.Rat
import Scalper.Lib.Window

/-!
# The built-in indicators

Six pure functions of a window of closed candles, with exact arithmetic: the conversion to `float`
comes later, where a value is written.  Times are in microseconds.  The square root of the
Bollinger bands, and the way their multiplier is written in the name, are those of `decimal`, and
stay parameters.

Every indicator refuses a window shorter than its warmup; on a full one all answer
(`compute_of_full`), except the volume-weighted price, which is undefined on a session without
volume (`compute_vwap`).

The convergence indicator subtracts two series of averages that start at different bars and averages
the differences; `macd_shows` says which bars these are.
-/

set_option autoImplicit false

namespace Scalper.Features

/-! ## Types -/

/-- `OhlcCandle`, a closed candle. -/
structure OhlcCandle where
  symbol : String
  interval : String
  bucketStart : ℕ
  openPrice : ℚ
  high : ℚ
  low : ℚ
  close : ℚ
  volume : ℚ
  source : String
  deriving DecidableEq, Inhabited

/-- A value inside `value_json`. -/
inductive SubValue where
  | decimal (value : ℚ)
  | other (text : String)
  deriving DecidableEq

/-- `FeatureValue`: exactly one of its three fields is set. -/
inductive FeatureValue where
  | num (value : ℚ)
  | bool (value : Bool)
  | json (fields : List (String × SubValue))
  deriving DecidableEq

/-- What a `compute` raises. -/
inductive ComputeError where
  | featureUnderflow (text : String)
  | valueError (text : String)
  | indexError (text : String)
  deriving DecidableEq

/-- `Feature`, the port the indicators implement. -/
structure Feature where
  nameTemplate : String
  sourceVersion : String
  interval : String
  warmupCandles : ℕ
  compute : List OhlcCandle → Except ComputeError FeatureValue

/-! ## Averages -/

/-- The average of the first `period` values, then smoothed over the others. -/
def emaOf (period : ℕ) (values : List ℚ) : ℚ :=
  let alpha := 2 / ((period : ℚ) + 1)
  (values.drop period).foldl (fun ema value => value * alpha + ema * (1 - alpha))
    ((values.take period).sum / period)

/-- Wilder's smoothing, from the average of the first `period` values on. -/
def wilder (period : ℕ) (values : List ℚ) : ℚ :=
  (values.drop period).foldl (fun average value => (average * (period - 1) + value) / period)
    ((values.take period).sum / period)

/-- `_sma_seeded_ema_series`. -/
def smaSeededEmaSeries (values : List ℚ) (period : ℕ) : Except ComputeError (List ℚ) :=
  if values.length < period then
    .error (.valueError
      s!"_sma_seeded_ema_series requires >= {period} values, got {values.length}")
  else
    let alpha := 2 / ((period : ℚ) + 1)
    .ok ((values.drop period).scanl (fun ema value => value * alpha + ema * (1 - alpha))
      ((values.take period).sum / period))

/-! ## The exponential moving average -/

/-- `EmaFeature`. -/
structure EmaFeature where
  period : ℕ
  positive : 1 ≤ period
  interval : String

/-- `EmaFeature.__init__`. -/
def EmaFeature.init (period : ℤ) (interval : String) : Except ComputeError EmaFeature :=
  if small : period < 1 then .error (.valueError s!"period must be >= 1, got {period}")
  else .ok ⟨period.toNat, by omega, interval⟩

namespace EmaFeature

def warmupCandles (ema : EmaFeature) : ℕ := ema.period

def compute (ema : EmaFeature) (candles : List OhlcCandle) : Except ComputeError FeatureValue :=
  if candles.length < ema.warmupCandles then
    .error (.featureUnderflow
      s!"EMA(period={ema.period}) requires >= {ema.warmupCandles} candles, got {candles.length}")
  else .ok (.num (emaOf ema.period (candles.map OhlcCandle.close)))

def toFeature (ema : EmaFeature) : Feature where
  nameTemplate := "ind.\x7bsymbol\x7d.\x7binterval\x7d.ema_" ++ toString ema.period
  sourceVersion := "builtin.ema.v1"
  interval := ema.interval
  warmupCandles := ema.warmupCandles
  compute := ema.compute

end EmaFeature

/-! ## The relative strength index -/

/-- `RsiFeature`. -/
structure RsiFeature where
  period : ℕ
  positive : 1 ≤ period
  interval : String

/-- `RsiFeature.__init__`. -/
def RsiFeature.init (period : ℤ) (interval : String) : Except ComputeError RsiFeature :=
  if small : period < 1 then .error (.valueError s!"period must be >= 1, got {period}")
  else .ok ⟨period.toNat, by omega, interval⟩

/-- What each close adds to the one before. -/
def deltas (closes : List ℚ) : List ℚ := closes.tail.zipWith (fun close last => close - last) closes

/-- The rises, 0 for a fall. -/
def gains (closes : List ℚ) : List ℚ :=
  (deltas closes).map fun delta => if 0 ≤ delta then delta else 0

/-- The falls, 0 for a rise. -/
def losses (closes : List ℚ) : List ℚ :=
  (deltas closes).map fun delta => if 0 ≤ delta then 0 else -delta

/-- The index of two averages. -/
def rsiOf (avgGain avgLoss : ℚ) : ℚ :=
  if avgLoss = 0 then if 0 < avgGain then 100 else 50
  else 100 - 100 / (1 + avgGain / avgLoss)

namespace RsiFeature

def warmupCandles (rsi : RsiFeature) : ℕ := rsi.period + 1

/-- The average gain and the average loss behind the index. -/
def averages (rsi : RsiFeature) (candles : List OhlcCandle) : ℚ × ℚ :=
  let closes := candles.map OhlcCandle.close
  (wilder rsi.period (gains closes), wilder rsi.period (losses closes))

def compute (rsi : RsiFeature) (candles : List OhlcCandle) : Except ComputeError FeatureValue :=
  if candles.length < rsi.warmupCandles then
    .error (.featureUnderflow
      s!"RSI(period={rsi.period}) requires >= {rsi.warmupCandles} candles, got {candles.length}")
  else .ok (.num (rsiOf (rsi.averages candles).1 (rsi.averages candles).2))

def toFeature (rsi : RsiFeature) : Feature where
  nameTemplate := "ind.\x7bsymbol\x7d.\x7binterval\x7d.rsi_" ++ toString rsi.period
  sourceVersion := "builtin.rsi.v1"
  interval := rsi.interval
  warmupCandles := rsi.warmupCandles
  compute := rsi.compute

end RsiFeature

/-! ## The average true range -/

/-- `AtrFeature`. -/
structure AtrFeature where
  period : ℕ
  positive : 1 ≤ period
  interval : String

/-- `AtrFeature.__init__`. -/
def AtrFeature.init (period : ℤ) (interval : String) : Except ComputeError AtrFeature :=
  if small : period < 1 then .error (.valueError s!"period must be >= 1, got {period}")
  else .ok ⟨period.toNat, by omega, interval⟩

/-- The true range of a candle behind another. -/
def trueRange (candle last : OhlcCandle) : ℚ :=
  max (max (candle.high - candle.low) |candle.high - last.close|) |candle.low - last.close|

/-- `trueRange` of each candle but the first. -/
def trueRanges (candles : List OhlcCandle) : List ℚ := candles.tail.zipWith trueRange candles

namespace AtrFeature

def warmupCandles (atr : AtrFeature) : ℕ := atr.period + 1

def compute (atr : AtrFeature) (candles : List OhlcCandle) : Except ComputeError FeatureValue :=
  if candles.length < atr.warmupCandles then
    .error (.featureUnderflow
      s!"ATR(period={atr.period}) requires >= {atr.warmupCandles} candles, got {candles.length}")
  else .ok (.num (wilder atr.period (trueRanges candles)))

def toFeature (atr : AtrFeature) : Feature where
  nameTemplate := "ind.\x7bsymbol\x7d.\x7binterval\x7d.atr_" ++ toString atr.period
  sourceVersion := "builtin.atr.v1"
  interval := atr.interval
  warmupCandles := atr.warmupCandles
  compute := atr.compute

end AtrFeature

/-! ## The volume-weighted average price of a session -/

/-- `VwapFeature`; the only session is a UTC day. -/
structure VwapFeature where
  interval : String

/-- `VwapFeature.__init__`. -/
def VwapFeature.init (session interval : String) : Except ComputeError VwapFeature :=
  if session ≠ "daily" then
    .error (.valueError ("session must be 'daily', got '" ++ session ++
      "' (weekly/hourly are F1+)"))
  else .ok ⟨interval⟩

/-- `bucket_start.date()`, counted in days. -/
def dateOf (candle : OhlcCandle) : ℕ := candle.bucketStart / 86400000000

/-- The mean of high, low and close. -/
def typicalPrice (candle : OhlcCandle) : ℚ := (candle.high + candle.low + candle.close) / 3

/-- The candles with the UTC date of the last. -/
def sessionCandles (candles : List OhlcCandle) : List OhlcCandle :=
  match candles.getLast? with
  | none => []
  | some latest => candles.filter fun candle => dateOf candle = dateOf latest

/-- The sum of price times volume. -/
def turnover (candles : List OhlcCandle) : ℚ :=
  (candles.map fun candle => typicalPrice candle * candle.volume).sum

/-- The volume of the window. -/
def totalVolume (candles : List OhlcCandle) : ℚ := (candles.map OhlcCandle.volume).sum

namespace VwapFeature

def warmupCandles (_ : VwapFeature) : ℕ := 1

def compute (vwap : VwapFeature) (candles : List OhlcCandle) : Except ComputeError FeatureValue :=
  if candles.length < vwap.warmupCandles then
    .error (.featureUnderflow
      s!"VWAP requires >= {vwap.warmupCandles} candles, got {candles.length}")
  else
    let session := sessionCandles candles
    if totalVolume session = 0 then
      .error (.featureUnderflow
        s!"VWAP undefined on zero-volume session ({session.length} candles, sum(volume)=0)")
    else .ok (.num (turnover session / totalVolume session))

def toFeature (vwap : VwapFeature) : Feature where
  nameTemplate := "ind.\x7bsymbol\x7d.\x7binterval\x7d.vwap_session"
  sourceVersion := "builtin.vwap.v1"
  interval := vwap.interval
  warmupCandles := vwap.warmupCandles
  compute := vwap.compute

end VwapFeature

/-! ## Moving average convergence and divergence -/

/-- `zip(..., strict=True)`. -/
def zipStrict {α β : Type*} (xs : List α) (ys : List β) : Except ComputeError (List (α × β)) :=
  if ys.length < xs.length then
    .error (.valueError "zip() argument 2 is shorter than argument 1")
  else if xs.length < ys.length then
    .error (.valueError "zip() argument 2 is longer than argument 1")
  else .ok (xs.zip ys)

/-- `values[-1]`. -/
def lastItem (values : List ℚ) : Except ComputeError ℚ :=
  match values.getLast? with
  | none => .error (.indexError "list index out of range")
  | some value => .ok value

/-- `MacdFeature`. -/
structure MacdFeature where
  fast : ℕ
  slow : ℕ
  signal : ℕ
  fast_positive : 1 ≤ fast
  signal_positive : 1 ≤ signal
  fast_lt_slow : fast < slow
  interval : String

/-- `MacdFeature.__init__`. -/
def MacdFeature.init (fast slow signal : ℤ) (interval : String) :
    Except ComputeError MacdFeature :=
  if small : fast < 1 ∨ slow < 1 ∨ signal < 1 then
    .error (.valueError
      s!"fast/slow/signal must be >= 1, got fast={fast} slow={slow} signal={signal}")
  else if order : slow ≤ fast then
    .error (.valueError s!"fast must be < slow, got fast={fast} slow={slow}")
  else .ok ⟨fast.toNat, slow.toNat, signal.toNat, by omega, by omega, by omega, interval⟩

namespace MacdFeature

def warmupCandles (macd : MacdFeature) : ℕ := macd.slow + macd.signal - 1

def compute (macd : MacdFeature) (candles : List OhlcCandle) : Except ComputeError FeatureValue :=
  if candles.length < macd.warmupCandles then
    .error (.featureUnderflow
      (s!"MACD(fast={macd.fast},slow={macd.slow},signal={macd.signal}) " ++
        s!"requires >= {macd.warmupCandles} candles, got {candles.length}"))
  else do
    let closes := candles.map OhlcCandle.close
    let slowEma ← smaSeededEmaSeries closes macd.slow
    let fastEmaFull ← smaSeededEmaSeries closes macd.fast
    let fastEma := fastEmaFull.drop (macd.slow - macd.fast)
    let aligned ← zipStrict fastEma slowEma
    let macdLine := aligned.map fun (fast, slow) => fast - slow
    let signalLine ← smaSeededEmaSeries macdLine macd.signal
    let macdValue ← lastItem macdLine
    let signalValue ← lastItem signalLine
    return .json [("macd", .decimal macdValue), ("signal", .decimal signalValue),
      ("histogram", .decimal (macdValue - signalValue))]

def toFeature (macd : MacdFeature) : Feature where
  nameTemplate := "ind.\x7bsymbol\x7d.\x7binterval\x7d.macd_" ++
    s!"{macd.fast}_{macd.slow}_{macd.signal}"
  sourceVersion := "builtin.macd.v1"
  interval := macd.interval
  warmupCandles := macd.warmupCandles
  compute := macd.compute

end MacdFeature

/-! ## Bollinger bands -/

/-- `BollingerFeature`, with its multiplier and the text of it. -/
structure BollingerFeature where
  period : ℕ
  large : 2 ≤ period
  stdDevMultiplier : ℚ
  positive : 0 < stdDevMultiplier
  multiplierText : String
  interval : String

/-- `BollingerFeature.__init__`. -/
def BollingerFeature.init (format : ℚ → String) (period : ℤ) (stdDevMultiplier : ℚ)
    (interval : String) : Except ComputeError BollingerFeature :=
  if small : period < 2 then .error (.valueError s!"period must be >= 2, got {period}")
  else if positive : 0 < stdDevMultiplier then
    .ok ⟨period.toNat, by omega, stdDevMultiplier, positive, format stdDevMultiplier, interval⟩
  else
    .error (.valueError ("std_dev_multiplier must be > 0, got " ++ format stdDevMultiplier))

namespace BollingerFeature

def warmupCandles (bollinger : BollingerFeature) : ℕ := bollinger.period

def compute (sqrt : ℚ → ℚ) (bollinger : BollingerFeature) (candles : List OhlcCandle) :
    Except ComputeError FeatureValue :=
  if candles.length < bollinger.warmupCandles then
    .error (.featureUnderflow
      (s!"Bollinger(period={bollinger.period}) requires >= {bollinger.warmupCandles} " ++
        s!"candles, got {candles.length}"))
  else
    let closes := (candles.rtake bollinger.period).map OhlcCandle.close
    let middle : ℚ := closes.sum / bollinger.period
    let variance : ℚ := (closes.map fun close => (close - middle) ^ 2).sum / bollinger.period
    let offset := bollinger.stdDevMultiplier * sqrt variance
    .ok (.json [("upper", .decimal (middle + offset)), ("middle", .decimal middle),
      ("lower", .decimal (middle - offset))])

def toFeature (sqrt : ℚ → ℚ) (bollinger : BollingerFeature) : Feature where
  nameTemplate := "ind.\x7bsymbol\x7d.\x7binterval\x7d.bollinger_" ++
    s!"{bollinger.period}_" ++ bollinger.multiplierText
  sourceVersion := "builtin.bollinger.v1"
  interval := bollinger.interval
  warmupCandles := bollinger.warmupCandles
  compute := bollinger.compute sqrt

end BollingerFeature

/-! ## All of them -/

/-- A built-in indicator. -/
inductive Builtin where
  | ema (feature : EmaFeature)
  | rsi (feature : RsiFeature)
  | atr (feature : AtrFeature)
  | bollinger (feature : BollingerFeature)
  | macd (feature : MacdFeature)
  | vwap (feature : VwapFeature)

/-- The indicator as a feature. -/
def Builtin.toFeature (sqrt : ℚ → ℚ) : Builtin → Feature
  | .ema feature => feature.toFeature
  | .rsi feature => feature.toFeature
  | .atr feature => feature.toFeature
  | .bollinger feature => feature.toFeature sqrt
  | .macd feature => feature.toFeature
  | .vwap feature => feature.toFeature

/-- Undefined on a session without volume. -/
def Builtin.IsVwap : Builtin → Prop
  | .vwap _ => True
  | _ => False

/-! ## When an indicator answers -/

section Series

variable {values : List ℚ} {period : ℕ}

/-- What the series holds for every bar from `period - 1` on: the average of the values so far. -/
def emaSeries (period : ℕ) (values : List ℚ) : List ℚ :=
  (List.range (values.length - period + 1)).map fun i => emaOf period (values.take (period + i))

@[simp] theorem length_emaSeries :
    (emaSeries period values).length = values.length - period + 1 := by
  rw [emaSeries, List.length_map, List.length_range]

theorem getElem_emaSeries {i : ℕ} (bound : i < (emaSeries period values).length) :
    (emaSeries period values)[i] = emaOf period (values.take (period + i)) := by
  simp only [emaSeries, List.getElem_map, List.getElem_range]

theorem smaSeededEmaSeries_of_long (long : period ≤ values.length) :
    smaSeededEmaSeries values period = .ok (emaSeries period values) := by
  rw [smaSeededEmaSeries, if_neg (not_lt.mpr long)]
  refine congrArg Except.ok (List.ext_getElem ?_ fun i bound _ => ?_)
  · rw [List.length_scanl, List.length_drop, length_emaSeries]
  · have first : (values.take (period + i)).take period = values.take period := by
      rw [List.take_take, min_eq_left (Nat.le_add_right period i)]
    rw [getElem_emaSeries, List.getElem_scanl, emaOf, List.drop_take, Nat.add_sub_cancel_left,
      first]

/-- The last value of the series is the average of all values. -/
theorem getLast?_emaSeries (long : period ≤ values.length) :
    (emaSeries period values).getLast? = some (emaOf period values) := by
  have last : (emaSeries period values).length - 1 < (emaSeries period values).length := by
    rw [length_emaSeries]
    omega
  rw [List.getLast?_eq_getElem?, List.getElem?_eq_getElem last, getElem_emaSeries, length_emaSeries,
    List.take_of_length_le (by omega)]

theorem lastItem_of_some {value : ℚ} (last : values.getLast? = some value) :
    lastItem values = .ok value := by
  rw [lastItem, last]

theorem zipStrict_of_length {xs ys : List ℚ} (same : xs.length = ys.length) :
    zipStrict xs ys = .ok (xs.zip ys) := by
  rw [zipStrict, if_neg same.not_gt, if_neg same.not_lt]

end Series

theorem BollingerFeature.compute_of_full {sqrt : ℚ → ℚ} (bollinger : BollingerFeature)
    {candles : List OhlcCandle} (full : bollinger.warmupCandles ≤ candles.length) :
    ∃ value, bollinger.compute sqrt candles = .ok value :=
  ⟨_, if_neg (not_lt.mpr full)⟩

theorem BollingerFeature.compute_of_short {sqrt : ℚ → ℚ} (bollinger : BollingerFeature)
    {candles : List OhlcCandle} (short : candles.length < bollinger.warmupCandles) :
    ∃ text, bollinger.compute sqrt candles = .error (.featureUnderflow text) :=
  ⟨_, if_pos short⟩

namespace MacdFeature

variable (macd : MacdFeature)

/-- The differences of the two averages, one for every bar from `slow - 1` on. -/
def differences (closes : List ℚ) : List ℚ :=
  (List.range (closes.length - macd.slow + 1)).map fun i =>
    emaOf macd.fast (closes.take (macd.slow + i)) - emaOf macd.slow (closes.take (macd.slow + i))

theorem length_differences (closes : List ℚ) :
    (macd.differences closes).length = closes.length - macd.slow + 1 := by
  rw [differences, List.length_map, List.length_range]

variable {closes : List ℚ} {candles : List OhlcCandle}

/-- Without its first values the faster series starts where the slower one does. -/
theorem length_aligned (long : macd.slow ≤ closes.length) :
    ((emaSeries macd.fast closes).drop (macd.slow - macd.fast)).length =
      (emaSeries macd.slow closes).length := by
  have order := macd.fast_lt_slow
  rw [List.length_drop, length_emaSeries, length_emaSeries]
  omega

theorem macdLine_eq (long : macd.slow ≤ closes.length) :
    ((((emaSeries macd.fast closes).drop (macd.slow - macd.fast)).zip
      (emaSeries macd.slow closes)).map fun (fast, slow) => fast - slow) =
        macd.differences closes := by
  have order := macd.fast_lt_slow
  have aligned := macd.length_aligned long
  refine List.ext_getElem ?_ fun i bound _ => ?_
  · rw [List.length_map, List.length_zip, aligned, min_self, length_emaSeries, length_differences]
  · -- the two series are at the same bar
    have bar : macd.fast + (macd.slow - macd.fast + i) = macd.slow + i := by omega
    simp only [List.getElem_map, List.getElem_zip, List.getElem_drop, getElem_emaSeries, bar,
      differences, List.getElem_range]

theorem getLast?_differences (long : macd.slow ≤ closes.length) :
    (macd.differences closes).getLast? =
      some (emaOf macd.fast closes - emaOf macd.slow closes) := by
  rw [differences, List.getLast?_map, List.range_succ, List.getLast?_concat, Option.map_some,
    Nat.add_sub_cancel' long, List.take_length]

/-- What the indicator answers on a full window. -/
theorem compute_eq (full : macd.warmupCandles ≤ candles.length) :
    let closes := candles.map OhlcCandle.close
    let macdValue := emaOf macd.fast closes - emaOf macd.slow closes
    let signalValue := emaOf macd.signal (macd.differences closes)
    macd.compute candles =
      .ok (.json [("macd", .decimal macdValue), ("signal", .decimal signalValue),
        ("histogram", .decimal (macdValue - signalValue))]) := by
  intro closes macdValue signalValue
  have signal := macd.signal_positive
  have order := macd.fast_lt_slow
  have window : macd.slow + macd.signal - 1 ≤ closes.length := by rwa [List.length_map]
  have slowLong : macd.slow ≤ closes.length := by omega
  have fastLong : macd.fast ≤ closes.length := by omega
  have signalLong : macd.signal ≤ (macd.differences closes).length := by
    rw [length_differences]
    omega
  rw [compute, if_neg (not_lt.mpr full)]
  change (smaSeededEmaSeries closes macd.slow >>= _) = _
  rw [smaSeededEmaSeries_of_long slowLong, smaSeededEmaSeries_of_long fastLong]
  change (zipStrict _ _ >>= _) = _
  rw [zipStrict_of_length (macd.length_aligned slowLong)]
  change (smaSeededEmaSeries (((_ : List (ℚ × ℚ)).map _)) macd.signal >>= _) = _
  rw [macd.macdLine_eq slowLong, smaSeededEmaSeries_of_long signalLong]
  change (lastItem _ >>= fun macdValue => lastItem _ >>= _) = _
  rw [lastItem_of_some (macd.getLast?_differences slowLong),
    lastItem_of_some (getLast?_emaSeries signalLong)]
  rfl

theorem compute_of_full (full : macd.warmupCandles ≤ candles.length) :
    ∃ value, macd.compute candles = .ok value :=
  ⟨_, macd.compute_eq full⟩

end MacdFeature

/-- On a full window every indicator but the volume-weighted price answers. -/
theorem compute_of_full {sqrt : ℚ → ℚ} {builtin : Builtin} (defined : ¬ builtin.IsVwap)
    {candles : List OhlcCandle}
    (full : (builtin.toFeature sqrt).warmupCandles ≤ candles.length) :
    ∃ value, (builtin.toFeature sqrt).compute candles = .ok value := by
  cases builtin with
  | ema feature => exact ⟨_, if_neg (not_lt.mpr full)⟩
  | rsi feature => exact ⟨_, if_neg (not_lt.mpr full)⟩
  | atr feature => exact ⟨_, if_neg (not_lt.mpr full)⟩
  | bollinger feature => exact feature.compute_of_full full
  | macd feature => exact feature.compute_of_full full
  | vwap feature => exact absurd trivial defined

/-- A short window is refused. -/
theorem compute_of_short {sqrt : ℚ → ℚ} {builtin : Builtin} {candles : List OhlcCandle}
    (short : candles.length < (builtin.toFeature sqrt).warmupCandles) :
    ∃ text, (builtin.toFeature sqrt).compute candles = .error (.featureUnderflow text) := by
  cases builtin with
  | ema feature => exact ⟨_, if_pos short⟩
  | rsi feature => exact ⟨_, if_pos short⟩
  | atr feature => exact ⟨_, if_pos short⟩
  | bollinger feature => exact feature.compute_of_short short
  | macd feature => exact ⟨_, if_pos short⟩
  | vwap feature => exact ⟨_, if_pos short⟩

/-- The volume-weighted price of one candle is its typical price, if it has volume. -/
theorem compute_vwap (vwap : VwapFeature) (candle : OhlcCandle) (traded : candle.volume ≠ 0) :
    vwap.compute [candle] = .ok (.num (typicalPrice candle)) := by
  have alone : sessionCandles [candle] = [candle] := by simp [sessionCandles]
  have volume : totalVolume [candle] = candle.volume := by simp [totalVolume]
  have weighted : turnover [candle] = typicalPrice candle * candle.volume := by simp [turnover]
  unfold VwapFeature.compute
  rw [if_neg (by simp [VwapFeature.warmupCandles])]
  simp only [alone, volume, weighted, if_neg traded]
  rw [mul_div_cancel_right₀ _ traded]

theorem compute_vwap_of_no_volume (vwap : VwapFeature) (candle : OhlcCandle)
    (untraded : candle.volume = 0) :
    ∃ text, vwap.compute [candle] = .error (.featureUnderflow text) := by
  have alone : sessionCandles [candle] = [candle] := by simp [sessionCandles]
  have volume : totalVolume [candle] = 0 := by simp [totalVolume, untraded]
  unfold VwapFeature.compute
  rw [if_neg (by simp [VwapFeature.warmupCandles])]
  simp only [alone, volume, if_true]
  exact ⟨_, rfl⟩

/-! ## What the lines are made of -/

section Alignment

/-- The two moving averages of the indicator, as features of their own. -/
def MacdFeature.fastEma (macd : MacdFeature) : EmaFeature :=
  ⟨macd.fast, macd.fast_positive, macd.interval⟩

def MacdFeature.slowEma (macd : MacdFeature) : EmaFeature :=
  ⟨macd.slow, macd.fast_positive.trans macd.fast_lt_slow.le, macd.interval⟩

/-- The difference of the two moving averages of the candles up to a bar, as `EmaFeature.compute`
gives them. -/
def DifferenceAt (macd : MacdFeature) (candles : List OhlcCandle) (bar : ℕ) (difference : ℚ) :
    Prop :=
  ∃ fast slow, macd.fastEma.compute (candles.take (bar + 1)) = .ok (.num fast) ∧
    macd.slowEma.compute (candles.take (bar + 1)) = .ok (.num slow) ∧ difference = fast - slow

theorem EmaFeature.compute_eq_ok_iff (ema : EmaFeature) (candles : List OhlcCandle) (value : ℚ) :
    ema.compute candles = .ok (.num value) ↔
      ema.period ≤ candles.length ∧ value = emaOf ema.period (candles.map OhlcCandle.close) := by
  rw [EmaFeature.compute, EmaFeature.warmupCandles]
  split_ifs with short
  · simp [short]
  · simp [not_lt.mp short, eq_comm]

/-- The last value of the series is what the feature computes, where either of them answers. -/
theorem lastItem_smaSeededEmaSeries_iff (ema : EmaFeature) (candles : List OhlcCandle) (value : ℚ) :
    smaSeededEmaSeries (candles.map OhlcCandle.close) ema.period >>= lastItem = .ok value ↔
      ema.compute candles = .ok (.num value) := by
  rw [ema.compute_eq_ok_iff]
  obtain short | long := Nat.lt_or_ge candles.length ema.period
  · rw [smaSeededEmaSeries, if_pos (by rwa [List.length_map])]
    simp [bind, Except.bind, short]
  · have closesLong : ema.period ≤ (candles.map OhlcCandle.close).length := by
      rwa [List.length_map]
    rw [smaSeededEmaSeries_of_long closesLong]
    change lastItem _ = _ ↔ _
    rw [lastItem_of_some (getLast?_emaSeries closesLong)]
    simp [long, eq_comm]

variable (macd : MacdFeature) {candles : List OhlcCandle}

theorem differenceAt_of_le {bar : ℕ} (warm : macd.slow ≤ bar + 1)
    (inside : bar + 1 ≤ candles.length) :
    DifferenceAt macd candles bar
      (emaOf macd.fast ((candles.map OhlcCandle.close).take (bar + 1)) -
        emaOf macd.slow ((candles.map OhlcCandle.close).take (bar + 1))) := by
  have order := macd.fast_lt_slow
  have window : (candles.take (bar + 1)).length = bar + 1 := List.length_take_of_le inside
  rw [← List.map_take]
  refine ⟨_, _, (EmaFeature.compute_eq_ok_iff _ _ _).mpr ⟨?_, rfl⟩,
    (EmaFeature.compute_eq_ok_iff _ _ _).mpr ⟨?_, rfl⟩, rfl⟩
  · rw [window]
    exact order.le.trans warm
  · rw [window]
    exact warm

/-- The differences belong to the bars from `slow - 1` to the last one. -/
theorem differences_at (long : macd.slow ≤ candles.length) :
    List.Forall₂ (DifferenceAt macd candles)
      (List.range' (macd.slow - 1) (candles.length - (macd.slow - 1)))
      (macd.differences (candles.map OhlcCandle.close)) := by
  have positive := macd.fast_positive.trans macd.fast_lt_slow.le
  have closes : (candles.map OhlcCandle.close).length = candles.length := List.length_map _
  refine List.forall₂_iff_get.mpr ⟨?_, fun i inRange inLine => ?_⟩
  · rw [List.length_range', macd.length_differences, closes]
    omega
  · have bar : macd.slow + i = macd.slow - 1 + i + 1 := by omega
    rw [List.length_range'] at inRange
    simp only [List.get_eq_getElem, List.getElem_range', MacdFeature.differences, List.getElem_map,
      List.getElem_range, one_mul, bar]
    exact differenceAt_of_le macd (by omega) (by omega)

end Alignment

/-- **The lines of the indicator**: on every window of at least its warmup it answers.  Its line is
the difference of the two moving averages of the window, its signal the average of these
differences at every bar from `slow - 1` to the last.  The series they are taken from end with what
`EmaFeature` computes. -/
theorem macd_shows :
    (∀ (macd : MacdFeature) (candles : List OhlcCandle),
      macd.slow + macd.signal - 1 ≤ candles.length →
      ∃ differences macdValue,
        List.Forall₂ (DifferenceAt macd candles)
          (List.range' (macd.slow - 1) (candles.length - (macd.slow - 1))) differences ∧
        DifferenceAt macd candles (candles.length - 1) macdValue ∧
        macd.compute candles = .ok (.json [("macd", .decimal macdValue),
          ("signal", .decimal (emaOf macd.signal differences)),
          ("histogram", .decimal (macdValue - emaOf macd.signal differences))])) ∧
    ∀ (ema : EmaFeature) (candles : List OhlcCandle) (value : ℚ),
      smaSeededEmaSeries (candles.map OhlcCandle.close) ema.period >>= lastItem = .ok value ↔
        ema.compute candles = .ok (.num value) := by
  refine ⟨fun macd candles full => ?_, lastItem_smaSeededEmaSeries_iff⟩
  have signal := macd.signal_positive
  have long : macd.slow ≤ candles.length := by omega
  refine ⟨_, _, differences_at macd long, ?_, macd.compute_eq full⟩
  have last : candles.length - 1 + 1 = candles.length := by
    have order := macd.fast_lt_slow
    omega
  have whole : (candles.map OhlcCandle.close).take (candles.length - 1 + 1) =
      candles.map OhlcCandle.close := by
    rw [last, List.take_of_length_le (List.length_map _).le]
  have difference : DifferenceAt macd candles (candles.length - 1) _ :=
    differenceAt_of_le macd (long.trans last.ge) last.le
  rwa [whole] at difference

/-- Periods of one, two and two on three closes: 1, 2, 6. -/
theorem macd_shows_three :
    let candle (close : ℚ) : OhlcCandle := ⟨"BTCUSDT", "15m", 0, close, close, close, close, 1, ""⟩
    let macd : MacdFeature := ⟨1, 2, 2, by decide, by decide, by decide, "15m"⟩
    ∃ differences macdValue,
      List.Forall₂ (DifferenceAt macd [candle 1, candle 2, candle 6]) [1, 2] differences ∧
      DifferenceAt macd [candle 1, candle 2, candle 6] 2 macdValue ∧
      macd.compute [candle 1, candle 2, candle 6] = .ok (.json [("macd", .decimal macdValue),
        ("signal", .decimal (emaOf 2 differences)),
        ("histogram", .decimal (macdValue - emaOf 2 differences))]) := by
  intro candle macd
  exact macd_shows.1 macd [candle 1, candle 2, candle 6] le_rfl

end Scalper.Features
