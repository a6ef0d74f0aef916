import Scalper.Exchange.Types
import Scalper.Lib.Grid

/-!
# Quantities and prices on an instrument's grid

`packages/exchange/quantize.py`: order quantities are rounded down to the instrument's
quantity step and checked against its minimum, prices are aligned to its tick towards the
side's conservative direction.

With exact arithmetic the quotient of a quantity that is not negative is its floor, so that both are
roundings to a grid; `quantize_laws` says what that gives.
-/

set_option autoImplicit false

namespace Scalper.Exchange

open Scalper.Lib

/-- The part of an instrument's metadata that quantization reads. -/
structure InstrumentInfo where
  symbol : String
  qtyStep : ℚ
  minOrderQty : ℚ
  tickSize : ℚ
  deriving DecidableEq, Repr

/-- What quantization can raise. -/
inductive QuantizeError where
  /-- `QtyValidationError` on `min_order_qty`. -/
  | belowMinOrderQty (symbol : String) (actualQty : ℚ)
  | divisionByZero
  /-- `ValueError` of `quantize_price`. -/
  | tickNotPositive (tick : ℚ)
  deriving DecidableEq, Repr

/-- `Decimal.__floordiv__`, which truncates towards zero. -/
def floorDiv (x y : ℚ) : ℤ := (x / y).num.tdiv (x / y).den

/-- `quantize_qty`: the minimum is checked before and after the rounding. -/
def quantizeQty (qty : ℚ) (info : InstrumentInfo) : Except QuantizeError ℚ :=
  if qty < info.minOrderQty then .error (.belowMinOrderQty info.symbol qty)
  else if info.qtyStep = 0 then .error .divisionByZero
  else if floorDiv qty info.qtyStep * info.qtyStep < info.minOrderQty then
    .error (.belowMinOrderQty info.symbol qty)
  else .ok (floorDiv qty info.qtyStep * info.qtyStep)

/-- `ROUND_FLOOR` for a buy, `ROUND_CEILING` for a sell. -/
def Side.toIntegral : Side → ℚ → ℤ
  | .buy, x => ⌊x⌋
  | .sell, x => ⌈x⌉

/-- `quantize_price`: down for a buy, up for a sell, whichever price it is. -/
def quantizePrice (price : ℚ) (side : Side) (tick : ℚ) : Except QuantizeError ℚ :=
  if tick ≤ 0 then .error (.tickNotPositive tick)
  else .ok (side.toIntegral (price / tick) * tick)

theorem quantizePrice_of_pos {price tick : ℚ} {side : Side} (positive : 0 < tick) :
    quantizePrice price side tick = .ok (side.toIntegral (price / tick) * tick) := by
  rw [quantizePrice, if_neg (not_le.mpr positive)]

theorem quantizePrice_of_nonpos {price tick : ℚ} {side : Side} (nonpositive : tick ≤ 0) :
    quantizePrice price side tick = .error (.tickNotPositive tick) := by
  rw [quantizePrice, if_pos nonpositive]

/-! ## Roundings to a grid -/

section Grids

variable {info : InstrumentInfo} {side : Side} {price tick qty x y : ℚ}

theorem quantizePrice_buy (positive : 0 < tick) :
    quantizePrice price .buy tick = .ok (roundDown tick price) := quantizePrice_of_pos positive

theorem quantizePrice_sell (positive : 0 < tick) :
    quantizePrice price .sell tick = .ok (roundUp tick price) := quantizePrice_of_pos positive

theorem floorDiv_eq_floor (nonneg : 0 ≤ x / y) : floorDiv x y = ⌊x / y⌋ := by
  rw [floorDiv, Rat.floor_def', Int.tdiv_eq_ediv_of_nonneg (Rat.num_nonneg.mpr nonneg)]

/-- The first check of the minimum decides nothing that the second would not. -/
theorem quantizeQty_of_nonneg (nonneg : 0 ≤ qty) (stepPositive : 0 < info.qtyStep) :
    quantizeQty qty info =
      if roundDown info.qtyStep qty < info.minOrderQty then
        .error (.belowMinOrderQty info.symbol qty)
      else .ok (roundDown info.qtyStep qty) := by
  have rounded : (floorDiv qty info.qtyStep : ℚ) * info.qtyStep = roundDown info.qtyStep qty := by
    rw [floorDiv_eq_floor (div_nonneg nonneg stepPositive.le), roundDown]
  rw [quantizeQty, if_neg stepPositive.ne', rounded]
  split_ifs with small few
  · rfl
  · exact absurd ((roundDown_le stepPositive).trans_lt small) few
  · rfl
  · rfl

theorem quantizeQty_eq_ok_iff {lot : ℚ} (nonneg : 0 ≤ qty) (stepPositive : 0 < info.qtyStep) :
    quantizeQty qty info = .ok lot ↔
      lot = roundDown info.qtyStep qty ∧ info.minOrderQty ≤ lot := by
  rw [quantizeQty_of_nonneg nonneg stepPositive]
  split_ifs with few
  · refine iff_of_false (by intro same; cases same) ?_
    rintro ⟨rfl, enough⟩
    exact few.not_ge enough
  · constructor
    · intro same
      obtain rfl := Except.ok.inj same
      exact ⟨rfl, not_lt.mp few⟩
    · rintro ⟨rfl, _⟩
      rfl

/-- The price on the grid nearest to a price on the side's conservative side. -/
def Side.OnGrid (tick price quantized : ℚ) : Side → Prop
  | .buy => IsGreatest {m | IsMultiple tick m ∧ m ≤ price} quantized
  | .sell => IsLeast {m | IsMultiple tick m ∧ price ≤ m} quantized

/-- The laws of a quantized price. -/
structure PriceLaws (side : Side) (tick price quantized : ℚ) : Prop where
  onGrid : side.OnGrid tick price quantized
  within : |price - quantized| < tick
  idempotent : quantizePrice quantized side tick = .ok quantized
  monotone : ∀ other quantized', price ≤ other → quantizePrice other side tick = .ok quantized' →
    quantized ≤ quantized'

theorem priceLaws_of_pos (positive : 0 < tick) (side : Side) (price : ℚ) :
    ∃ quantized, quantizePrice price side tick = .ok quantized ∧
      PriceLaws side tick price quantized := by
  cases side with
  | buy =>
      refine ⟨_, quantizePrice_buy positive, isGreatest_roundDown positive, ?_, ?_, ?_⟩
      · rw [abs_of_nonneg (sub_nonneg.mpr (roundDown_le positive))]
        exact sub_lt_iff_lt_add'.mpr (lt_roundDown_add positive)
      · rw [quantizePrice_buy positive, roundDown_of_isMultiple positive isMultiple_roundDown]
      · intro other quantized' ordered quantized
        rw [quantizePrice_buy positive] at quantized
        obtain rfl := Except.ok.inj quantized
        exact roundDown_mono positive ordered
  | sell =>
      refine ⟨_, quantizePrice_sell positive, isLeast_roundUp positive, ?_, ?_, ?_⟩
      · rw [abs_sub_comm, abs_of_nonneg (sub_nonneg.mpr (le_roundUp positive))]
        exact sub_lt_iff_lt_add'.mpr (roundUp_lt_add positive)
      · rw [quantizePrice_sell positive, roundUp_of_isMultiple positive isMultiple_roundUp]
      · intro other quantized' ordered quantized
        rw [quantizePrice_sell positive] at quantized
        obtain rfl := Except.ok.inj quantized
        exact roundUp_mono positive ordered

/-- The laws of a quantized quantity, `lot` being the greatest multiple of the step under it. -/
structure QtyLaws (info : InstrumentInfo) (qty lot : ℚ) : Prop where
  greatest : IsGreatest {m | IsMultiple info.qtyStep m ∧ m ≤ qty} lot
  raises : (∃ raised, quantizeQty qty info = .error raised) ↔ lot < info.minOrderQty
  returns : ∀ quantized, quantizeQty qty info = .ok quantized → quantized = lot
  idempotent : ∀ quantized, quantizeQty qty info = .ok quantized →
    quantizeQty quantized info = .ok quantized
  monotone : ∀ other quantized quantized', qty ≤ other → quantizeQty qty info = .ok quantized →
    quantizeQty other info = .ok quantized' → quantized ≤ quantized'

theorem qtyLaws_of_nonneg (nonneg : 0 ≤ qty) (stepPositive : 0 < info.qtyStep)
    (minPositive : 0 < info.minOrderQty) :
    QtyLaws info qty (roundDown info.qtyStep qty) where
  greatest := isGreatest_roundDown stepPositive
  raises := by
    rw [quantizeQty_of_nonneg nonneg stepPositive]
    split_ifs with few
    · exact iff_of_true ⟨_, rfl⟩ few
    · exact iff_of_false (by rintro ⟨_, ⟨⟩⟩) few
  returns := fun quantized returned => ((quantizeQty_eq_ok_iff nonneg stepPositive).mp returned).1
  idempotent := by
    intro quantized returned
    obtain ⟨rfl, enough⟩ := (quantizeQty_eq_ok_iff nonneg stepPositive).mp returned
    refine (quantizeQty_eq_ok_iff (minPositive.le.trans enough) stepPositive).mpr ⟨?_, enough⟩
    rw [roundDown_of_isMultiple stepPositive isMultiple_roundDown]
  monotone := by
    intro other quantized quantized' ordered returned returned'
    obtain ⟨rfl, _⟩ := (quantizeQty_eq_ok_iff nonneg stepPositive).mp returned
    obtain ⟨rfl, _⟩ :=
      (quantizeQty_eq_ok_iff (nonneg.trans ordered) stepPositive).mp returned'
    exact roundDown_mono stepPositive ordered

end Grids

/-- **The laws of quantization**: on a positive tick every price is put on the nearest multiple on
its side's conservative side, less than a tick away; of a quantity that is not negative the greatest
multiple of the step under it is left, unless that is below the minimum.  What is quantized stays,
and the order is kept. -/
theorem quantize_laws :
    (∀ (side : Side) (price tick : ℚ), 0 < tick →
      ∃ quantized, quantizePrice price side tick = .ok quantized ∧
        PriceLaws side tick price quantized) ∧
    ∀ (info : InstrumentInfo) (qty : ℚ), 0 ≤ qty → 0 < info.qtyStep → 0 < info.minOrderQty →
      ∃ lot, QtyLaws info qty lot :=
  ⟨fun side price _ positive => priceLaws_of_pos positive side price,
    fun _ _ nonneg stepPositive minPositive =>
      ⟨_, qtyLaws_of_nonneg nonneg stepPositive minPositive⟩⟩

/-- A price between two ticks, and a quantity between two steps. -/
theorem quantize_laws_tenth :
    let info : InstrumentInfo := ⟨"BTCUSDT", 1 / 1000, 1 / 1000, 1 / 10⟩
    (∃ quantized, quantizePrice (76017546 / 1000) .sell (1 / 10) = .ok quantized ∧
      PriceLaws .sell (1 / 10) (76017546 / 1000) quantized) ∧
      ∃ lot, QtyLaws info (15 / 10000) lot := by
  intro info
  exact ⟨quantize_laws.1 .sell _ _ (by norm_num),
    quantize_laws.2 info _ (by norm_num) (by norm_num [info]) (by norm_num [info])⟩

end Scalper.Exchange
