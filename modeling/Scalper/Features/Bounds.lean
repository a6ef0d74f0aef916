import Mathlib.Data.List.MinMax
import Mathlib.Tactic.FieldSimp
import Mathlib.Tactic.Linarith
import Mathlib.Tactic.Positivity
import Scalper.Lib.Average
import Scalper.Features.Builtins

/-!
# Bounds of the indicators

With exact arithmetic every moving average is an average, so that it stays between the values it is
taken of.  The relative strength index is the share of the average gain in the average movement, in
percent, and one half of it where nothing moves; that share is between 0 and 100, and gains and
losses change places when the closes are mirrored.

`indicators_bounded` says this of what the four features compute.  That the index never divides by
zero is said of `RsiFeature.divided`, the same computation with divisions that may fail.
-/

set_option autoImplicit false

namespace Scalper.Features

open Scalper.Lib

/-! ## Averages -/

section Averages

variable {period : ℕ} {values : List ℚ} {lo hi : ℚ}

/-- The average of the first values. -/
theorem seed_mem_Icc (positive : 1 ≤ period) (long : period ≤ values.length)
    (within : ∀ value ∈ values, value ∈ Set.Icc lo hi) :
    (values.take period).sum / period ∈ Set.Icc lo hi := by
  have length : (values.take period).length = period := List.length_take_of_le long
  have nonempty : values.take period ≠ [] := by
    rw [← List.length_pos_iff, length]
    exact positive
  have average := sum_div_length_mem_Icc nonempty fun value member =>
    within value (List.mem_of_mem_take member)
  rwa [length] at average

theorem emaOf_mem_Icc (positive : 1 ≤ period) (long : period ≤ values.length)
    (within : ∀ value ∈ values, value ∈ Set.Icc lo hi) : emaOf period values ∈ Set.Icc lo hi := by
  have one : (1 : ℚ) ≤ period := by exact_mod_cast positive
  have le_one : 2 / ((period : ℚ) + 1) ≤ 1 := by
    rw [div_le_one (by linarith)]
    linarith
  exact smoothed_mem_Icc (by positivity) le_one
    (fun value member => within value (List.mem_of_mem_drop member))
    (seed_mem_Icc positive long within)

/-- Wilder's smoothing takes one part in `period` of each value. -/
theorem wilder_eq (positive : 1 ≤ period) : wilder period values =
    (values.drop period).foldl
      (fun average value => value * (1 / (period : ℚ)) + average * (1 - 1 / (period : ℚ)))
      ((values.take period).sum / period) := by
  have nonzero : (period : ℚ) ≠ 0 := by
    exact_mod_cast Nat.one_le_iff_ne_zero.mp positive
  unfold wilder
  congr
  funext average value
  field_simp
  ring

theorem wilder_mem_Icc (positive : 1 ≤ period) (long : period ≤ values.length)
    (within : ∀ value ∈ values, value ∈ Set.Icc lo hi) : wilder period values ∈ Set.Icc lo hi := by
  have one : (1 : ℚ) ≤ period := by exact_mod_cast positive
  have le_one : 1 / (period : ℚ) ≤ 1 := by
    rw [div_le_one (by linarith)]
    exact one
  rw [wilder_eq positive]
  exact smoothed_mem_Icc (by positivity) le_one
    (fun value member => within value (List.mem_of_mem_drop member))
    (seed_mem_Icc positive long within)

/-- An average of values that are not negative. -/
theorem wilder_nonneg (positive : 1 ≤ period) (long : period ≤ values.length)
    (nonneg : ∀ value ∈ values, 0 ≤ value) : 0 ≤ wilder period values := by
  have nonempty : 0 < values.length := positive.trans long
  have within : ∀ value ∈ values, value ∈ Set.Icc 0 (values.maximum_of_length_pos nonempty) :=
    fun value member =>
      ⟨nonneg value member, List.le_maximum_of_length_pos_of_mem member nonempty⟩
  exact (wilder_mem_Icc positive long within).1

/-- What lies between all bounds of some values lies between the least and the greatest of them. -/
theorem between_extremes {value : ℚ} (nonempty : 0 < values.length)
    (between : ∀ lo hi, (∀ other ∈ values, other ∈ Set.Icc lo hi) → value ∈ Set.Icc lo hi) :
    values.minimum ≤ value ∧ (value : WithBot ℚ) ≤ values.maximum := by
  have inside := between (values.minimum_of_length_pos nonempty)
    (values.maximum_of_length_pos nonempty) fun other member =>
      ⟨List.minimum_of_length_pos_le_of_mem member nonempty,
        List.le_maximum_of_length_pos_of_mem member nonempty⟩
  exact ⟨(List.minimum_of_length_pos_le_iff nonempty).mp inside.1,
    (List.le_maximum_of_length_pos_iff nonempty).mp inside.2⟩

end Averages

/-! ## Gains and losses -/

/-- The candle with its close mirrored. -/
def OhlcCandle.mirror (total : ℚ) (candle : OhlcCandle) : OhlcCandle :=
  { candle with close := total - candle.close }

section Movements

variable {closes : List ℚ} {gain loss : ℚ}

theorem length_deltas : (deltas closes).length = closes.length - 1 := by
  rw [deltas, List.length_zipWith, List.length_tail]
  omega

theorem length_gains : (gains closes).length = closes.length - 1 := by
  rw [gains, List.length_map, length_deltas]

theorem length_losses : (losses closes).length = closes.length - 1 := by
  rw [losses, List.length_map, length_deltas]

theorem gains_nonneg : ∀ gain ∈ gains closes, 0 ≤ gain := by
  intro gain member
  obtain ⟨delta, _, rfl⟩ := List.mem_map.mp member
  split_ifs with up
  · exact up
  · exact le_rfl

theorem losses_nonneg : ∀ loss ∈ losses closes, 0 ≤ loss := by
  intro loss member
  obtain ⟨delta, _, rfl⟩ := List.mem_map.mp member
  split_ifs with up
  · exact le_rfl
  · linarith

variable (closes) in
/-- Mirrored closes move the other way. -/
theorem deltas_mirrored (total : ℚ) :
    deltas (closes.map (total - ·)) = (deltas closes).map (-·) := by
  simp only [deltas, ← List.map_tail, List.zipWith_map, List.map_zipWith]
  congr
  funext close last
  ring

variable (closes) in
theorem gains_mirrored (total : ℚ) : gains (closes.map (total - ·)) = losses closes := by
  rw [gains, deltas_mirrored, List.map_map, losses]
  refine List.map_congr_left fun delta _ => ?_
  simp only [Function.comp_apply]
  split_ifs with down up
  · linarith
  · rfl
  · rfl
  · linarith

variable (closes) in
theorem losses_mirrored (total : ℚ) : losses (closes.map (total - ·)) = gains closes := by
  rw [losses, deltas_mirrored, List.map_map, gains]
  refine List.map_congr_left fun delta _ => ?_
  simp only [Function.comp_apply]
  split_ifs with down up
  · linarith
  · rfl
  · exact neg_neg delta
  · linarith

/-- The index is the share of the gains in all movement. -/
theorem rsiOf_eq (gains : 0 ≤ gain) (losses : 0 ≤ loss) (moves : gain + loss ≠ 0) :
    rsiOf gain loss = 100 * (gain / (gain + loss)) := by
  unfold rsiOf
  by_cases none : loss = 0
  · subst none
    rw [add_zero] at moves ⊢
    rw [if_pos rfl, if_pos (lt_of_le_of_ne gains moves.symm), div_self moves, mul_one]
  · have positive : 0 < loss := lt_of_le_of_ne losses (Ne.symm none)
    have ratio : 1 + gain / loss ≠ 0 := by positivity
    rw [if_neg none]
    field_simp
    ring

theorem rsiOf_of_still : rsiOf 0 0 = 50 := by
  rw [rsiOf, if_pos rfl, if_neg (lt_irrefl 0)]

theorem rsiOf_mem_Icc (gains : 0 ≤ gain) (losses : 0 ≤ loss) :
    rsiOf gain loss ∈ Set.Icc 0 100 := by
  by_cases still : gain + loss = 0
  · obtain ⟨rfl, rfl⟩ := (add_eq_zero_iff_of_nonneg gains losses).mp still
    rw [rsiOf_of_still]
    constructor <;> norm_num
  · have share : gain / (gain + loss) ≤ 1 := div_le_one_of_le₀ (by linarith) (by linarith)
    rw [rsiOf_eq gains losses still]
    refine ⟨by positivity, ?_⟩
    linarith

/-- Gains and losses in each other's place. -/
theorem rsiOf_swap (gains : 0 ≤ gain) (losses : 0 ≤ loss) :
    rsiOf loss gain = 100 - rsiOf gain loss := by
  by_cases still : gain + loss = 0
  · obtain ⟨rfl, rfl⟩ := (add_eq_zero_iff_of_nonneg gains losses).mp still
    rw [rsiOf_of_still]
    norm_num
  · have moves : loss + gain ≠ 0 := by rwa [add_comm]
    rw [rsiOf_eq gains losses still, rsiOf_eq losses gains moves]
    field_simp
    ring

end Movements

/-! ## Divisions that may fail -/

/-- `x / y` of two decimals; `none` where it raises. -/
def quotient (x y : ℚ) : Option ℚ := if y = 0 then none else some (x / y)

/-- `wilder`, with divisions that may fail. -/
def wilderDivided (period : ℕ) (values : List ℚ) : Option ℚ := do
  let seed ← quotient (values.take period).sum period
  (values.drop period).foldlM
    (fun average value => quotient (average * (period - 1) + value) period) seed

/-- `rsiOf`, with divisions that may fail. -/
def rsiDivided (avgGain avgLoss : ℚ) : Option ℚ :=
  if avgLoss = 0 then some (if 0 < avgGain then 100 else 50)
  else do
    let rs ← quotient avgGain avgLoss
    let share ← quotient 100 (1 + rs)
    return 100 - share

/-- The value `RsiFeature.compute` gives, with divisions that may fail. -/
def RsiFeature.divided (rsi : RsiFeature) (candles : List OhlcCandle) : Option ℚ := do
  let closes := candles.map OhlcCandle.close
  let avgGain ← wilderDivided rsi.period (gains closes)
  let avgLoss ← wilderDivided rsi.period (losses closes)
  rsiDivided avgGain avgLoss

section Divided

theorem quotient_of_ne {x y : ℚ} (nonzero : y ≠ 0) : quotient x y = some (x / y) := if_neg nonzero

theorem wilderDivided_eq {period : ℕ} (positive : 1 ≤ period) (values : List ℚ) :
    wilderDivided period values = some (wilder period values) := by
  have nonzero : (period : ℚ) ≠ 0 := by
    exact_mod_cast Nat.one_le_iff_ne_zero.mp positive
  have steps : (fun average value : ℚ => quotient (average * (period - 1) + value) period) =
      fun (average value : ℚ) => some ((average * (period - 1) + value) / period) := by
    funext average value
    exact quotient_of_ne nonzero
  rw [wilderDivided, quotient_of_ne nonzero, steps]
  exact List.foldlM_pure

theorem rsiDivided_eq {gain loss : ℚ} (gains : 0 ≤ gain) (losses : 0 ≤ loss) :
    rsiDivided gain loss = some (rsiOf gain loss) := by
  unfold rsiDivided rsiOf
  split_ifs with none up
  · rfl
  · rfl
  · have positive : 0 < loss := lt_of_le_of_ne losses (Ne.symm none)
    have ratio : 1 + gain / loss ≠ 0 := by positivity
    rw [quotient_of_ne none]
    change (quotient 100 (1 + gain / loss) >>= _) = _
    rw [quotient_of_ne ratio]
    rfl

end Divided

/-! ## The features -/

section Features

variable {candles : List OhlcCandle}

namespace RsiFeature

variable (rsi : RsiFeature)

/-- The averages behind the index are not negative. -/
theorem averages_nonneg (full : rsi.warmupCandles ≤ candles.length) :
    0 ≤ (rsi.averages candles).1 ∧ 0 ≤ (rsi.averages candles).2 := by
  have long : rsi.period ≤ (candles.map OhlcCandle.close).length - 1 := by
    rw [List.length_map]
    exact Nat.le_sub_of_add_le full
  exact ⟨wilder_nonneg rsi.positive (long.trans_eq length_gains.symm) gains_nonneg,
    wilder_nonneg rsi.positive (long.trans_eq length_losses.symm) losses_nonneg⟩

/-- Mirrored closes exchange the two averages. -/
theorem averages_mirrored (total : ℚ) :
    rsi.averages (candles.map (OhlcCandle.mirror total)) = (rsi.averages candles).swap := by
  have closes : (candles.map (OhlcCandle.mirror total)).map OhlcCandle.close =
      (candles.map OhlcCandle.close).map (total - ·) := by
    rw [List.map_map, List.map_map]
    rfl
  simp only [averages, closes, gains_mirrored, losses_mirrored, Prod.swap_prod_mk]

theorem divided_eq (full : rsi.warmupCandles ≤ candles.length) :
    rsi.divided candles =
      some (rsiOf (rsi.averages candles).1 (rsi.averages candles).2) := by
  obtain ⟨gains, losses⟩ := rsi.averages_nonneg full
  simp only [divided, wilderDivided_eq rsi.positive]
  exact rsiDivided_eq gains losses

theorem compute_mirrored (full : rsi.warmupCandles ≤ candles.length) (total : ℚ) :
    rsi.compute (candles.map (OhlcCandle.mirror total)) =
      .ok (.num (100 - rsiOf (rsi.averages candles).1 (rsi.averages candles).2)) := by
  obtain ⟨gains, losses⟩ := rsi.averages_nonneg full
  rw [compute, List.length_map, if_neg (not_lt.mpr full), averages_mirrored, Prod.fst_swap,
    Prod.snd_swap, rsiOf_swap gains losses]

end RsiFeature

theorem EmaFeature.between (ema : EmaFeature) (full : ema.period ≤ candles.length) :
    (candles.map OhlcCandle.close).minimum ≤ emaOf ema.period (candles.map OhlcCandle.close) ∧
      (emaOf ema.period (candles.map OhlcCandle.close) : WithBot ℚ) ≤
        (candles.map OhlcCandle.close).maximum := by
  have long : ema.period ≤ (candles.map OhlcCandle.close).length := by rwa [List.length_map]
  exact between_extremes (ema.positive.trans long) fun _ _ => emaOf_mem_Icc ema.positive long

/-- The true range reaches from the previous close to the high. -/
theorem trueRange_nonneg (candle last : OhlcCandle) : 0 ≤ trueRange candle last :=
  (abs_nonneg _).trans ((le_max_right _ _).trans (le_max_left _ _))

theorem trueRanges_nonneg : ∀ range ∈ trueRanges candles, 0 ≤ range := by
  intro range member
  rw [trueRanges, ← List.map_uncurry_zip_eq_zipWith] at member
  obtain ⟨⟨candle, last⟩, _, rfl⟩ := List.mem_map.mp member
  exact trueRange_nonneg candle last

theorem length_trueRanges : (trueRanges candles).length = candles.length - 1 := by
  rw [trueRanges, List.length_zipWith, List.length_tail]
  omega

theorem AtrFeature.between (atr : AtrFeature) (full : atr.warmupCandles ≤ candles.length) :
    0 ≤ wilder atr.period (trueRanges candles) ∧
      (wilder atr.period (trueRanges candles) : WithBot ℚ) ≤ (trueRanges candles).maximum := by
  have long : atr.period ≤ (trueRanges candles).length := by
    rw [length_trueRanges]
    exact Nat.le_sub_of_add_le full
  exact ⟨wilder_nonneg atr.positive long trueRanges_nonneg,
    (between_extremes (atr.positive.trans long) fun _ _ => wilder_mem_Icc atr.positive long).2⟩

/-- The average of the prices of a candle. -/
theorem typicalPrice_mem_Icc {candle : OhlcCandle} (bottom : candle.low ≤ candle.close)
    (top : candle.close ≤ candle.high) : typicalPrice candle ∈ Set.Icc candle.low candle.high := by
  unfold typicalPrice
  constructor
  · linarith
  · linarith

/-- A day that has volume has a candle. -/
theorem length_pos_of_totalVolume {session : List OhlcCandle} (traded : 0 < totalVolume session) :
    0 < session.length := by
  rw [List.length_pos_iff]
  rintro rfl
  exact lt_irrefl 0 traded

theorem VwapFeature.between (vwap : VwapFeature)
    (ordered : ∀ candle ∈ sessionCandles candles, candle.low ≤ candle.close ∧
      candle.close ≤ candle.high ∧ 0 ≤ candle.volume)
    (traded : 0 < totalVolume (sessionCandles candles)) :
    ∃ value, vwap.compute candles = .ok (.num value) ∧
      ((sessionCandles candles).map OhlcCandle.low).minimum ≤ value ∧
      (value : WithBot ℚ) ≤ ((sessionCandles candles).map OhlcCandle.high).maximum := by
  have session := length_pos_of_totalVolume traded
  have full : ¬ candles.length < vwap.warmupCandles := by
    intro short
    have empty : candles = [] := List.length_eq_zero_iff.mp (Nat.lt_one_iff.mp short)
    rw [empty] at session
    exact lt_irrefl 0 session
  have lows : 0 < ((sessionCandles candles).map OhlcCandle.low).length := by rwa [List.length_map]
  have highs : 0 < ((sessionCandles candles).map OhlcCandle.high).length := by
    rwa [List.length_map]
  refine ⟨turnover (sessionCandles candles) / totalVolume (sessionCandles candles), ?_, ?_⟩
  · rw [compute, if_neg full]
    exact if_neg traded.ne'
  · rw [← List.minimum_of_length_pos_le_iff lows, ← List.le_maximum_of_length_pos_iff highs]
    refine weighted_mem_Icc (fun candle member => ?_) (fun candle member =>
      (ordered candle member).2.2) traded
    obtain ⟨bottom, top, _⟩ := ordered candle member
    have typical := typicalPrice_mem_Icc bottom top
    exact ⟨(List.minimum_of_length_pos_le_of_mem (List.mem_map_of_mem member) lows).trans typical.1,
      typical.2.trans (List.le_maximum_of_length_pos_of_mem (List.mem_map_of_mem member) highs)⟩

end Features

/-- **Bounds and symmetry of the indicators**: on every window of at least its warmup the
exponential average is between the least and the greatest close; the relative strength index
divides by nothing that is zero, is between 0 and 100, and mirroring the closes turns it into what
is left of 100; the average true range is between zero and the greatest true range.  The
volume-weighted price of a day with volume is between its lowest low and its highest high. -/
theorem indicators_bounded :
    (∀ (ema : EmaFeature) (candles : List OhlcCandle), ema.period ≤ candles.length →
      ∃ value, ema.compute candles = .ok (.num value) ∧
        (candles.map OhlcCandle.close).minimum ≤ value ∧
        (value : WithBot ℚ) ≤ (candles.map OhlcCandle.close).maximum) ∧
    (∀ (rsi : RsiFeature) (candles : List OhlcCandle), rsi.period + 1 ≤ candles.length →
      ∃ value, rsi.compute candles = .ok (.num value) ∧ rsi.divided candles = some value ∧
        0 ≤ value ∧ value ≤ 100 ∧
        ∀ total, rsi.compute (candles.map (OhlcCandle.mirror total)) =
          .ok (.num (100 - value))) ∧
    (∀ (atr : AtrFeature) (candles : List OhlcCandle), atr.period + 1 ≤ candles.length →
      ∃ value, atr.compute candles = .ok (.num value) ∧ 0 ≤ value ∧
        (value : WithBot ℚ) ≤ (trueRanges candles).maximum) ∧
    ∀ (vwap : VwapFeature) (candles : List OhlcCandle),
      (∀ candle ∈ sessionCandles candles, candle.low ≤ candle.close ∧
        candle.close ≤ candle.high ∧ 0 ≤ candle.volume) →
      0 < totalVolume (sessionCandles candles) →
      ∃ value, vwap.compute candles = .ok (.num value) ∧
        ((sessionCandles candles).map OhlcCandle.low).minimum ≤ value ∧
        (value : WithBot ℚ) ≤ ((sessionCandles candles).map OhlcCandle.high).maximum := by
  refine ⟨fun ema candles full => ?_, fun rsi candles full => ?_, fun atr candles full => ?_,
    fun vwap candles ordered traded => ?_⟩
  · exact ⟨_, if_neg (not_lt.mpr full), ema.between full⟩
  · obtain ⟨gains, losses⟩ := rsi.averages_nonneg full
    have bounds := rsiOf_mem_Icc gains losses
    exact ⟨_, if_neg (not_lt.mpr full), rsi.divided_eq full, bounds.1, bounds.2,
      rsi.compute_mirrored full⟩
  · exact ⟨_, if_neg (not_lt.mpr full), atr.between full⟩
  · exact vwap.between ordered traded

/-- Two candles, at 10 and at 12. -/
theorem indicators_bounded_two :
    let candle (close : ℚ) : OhlcCandle :=
      ⟨"BTCUSDT", "15m", 0, close, close + 1, close - 1, close, 1, ""⟩
    let candles := [candle 10, candle 12]
    let ema : EmaFeature := ⟨2, by decide, "15m"⟩
    let rsi : RsiFeature := ⟨1, by decide, "15m"⟩
    let atr : AtrFeature := ⟨1, by decide, "15m"⟩
    (∃ value, ema.compute candles = .ok (.num value) ∧
      (candles.map OhlcCandle.close).minimum ≤ value ∧
      (value : WithBot ℚ) ≤ (candles.map OhlcCandle.close).maximum) ∧
    (∃ value, rsi.compute candles = .ok (.num value) ∧ rsi.divided candles = some value ∧
      0 ≤ value ∧ value ≤ 100 ∧
      ∀ total, rsi.compute (candles.map (OhlcCandle.mirror total)) = .ok (.num (100 - value))) ∧
    (∃ value, atr.compute candles = .ok (.num value) ∧ 0 ≤ value ∧
      (value : WithBot ℚ) ≤ (trueRanges candles).maximum) ∧
    ∃ value, (VwapFeature.mk "1m").compute candles = .ok (.num value) ∧
      ((sessionCandles candles).map OhlcCandle.low).minimum ≤ value ∧
      (value : WithBot ℚ) ≤ ((sessionCandles candles).map OhlcCandle.high).maximum := by
  intro candle candles ema rsi atr
  have session : sessionCandles candles = candles := by decide +kernel
  refine ⟨indicators_bounded.1 ema candles le_rfl, indicators_bounded.2.1 rsi candles le_rfl,
    indicators_bounded.2.2.1 atr candles le_rfl, indicators_bounded.2.2.2 _ candles ?_ ?_⟩
  · rw [session]
    decide +kernel
  · rw [session]
    decide +kernel

end Scalper.Features
