import Scalper.Lib.Grid
import Scalper.Execution.Placement

/-!
# On which side of the entry the stops are

The placement handler computes the stop and the take-profit of an order from its fill price, and
puts both on the instrument's grid: down for a buy, up for a sell.  That moves the stop away from
the entry and the take-profit towards it.

`handle_stops_right_iff` says, for every run of the handler that fills its order, when everything
it sends is a positive multiple of the tick on the right side of the fill price.  A stop always is
for a sell; for a buy it needs a tick of room above zero, or it is rounded to zero.  A take-profit
needs the whole of the next tick beyond the fill price, or it is rounded onto the entry or past it.
-/

set_option autoImplicit false

namespace Scalper.Execution

open Scalper.Lib Scalper.Exchange

/-! ## Sides of a price -/

/-- `x` is strictly on the losing side of the entry. -/
def IsLoss : Side → ℚ → ℚ → Prop
  | .buy, entry, x => x < entry
  | .sell, entry, x => entry < x

/-- `x` is strictly on the winning side of the entry. -/
def IsProfit (side : Side) (entry x : ℚ) : Prop := IsLoss side.opposite entry x

/-- A price an exchange takes: a positive multiple of the tick. -/
structure IsQuote (tick price : ℚ) : Prop where
  positive : 0 < price
  multiple : IsMultiple tick price

/-- What a call asks for as a stop and as a take-profit of a position of this side and entry. -/
def StopsRight (side : Side) (entry tick : ℚ) : Call → Prop
  | .setTradingStop _ _ slPrice tpPrice _ =>
      (∀ price ∈ slPrice, IsQuote tick price ∧ IsLoss side entry price) ∧
        ∀ price ∈ tpPrice, IsQuote tick price ∧ IsProfit side entry price
  | .getInstrumentInfo _ | .setLeverage _ _ | .placeMarketOrder .. | .getFillPrice _ _ => True

/-- The stop is not rounded to zero. -/
def StopFits (tick fillPrice slPct : ℚ) : Side → Prop
  | .buy => tick ≤ fillPrice * (1 - slPct)
  | .sell => True

/-- The take-profit has the next multiple of the tick beyond the fill price. -/
def ProfitFits (tick fillPrice tpPct : ℚ) : Side → Prop
  | .buy => roundDown tick fillPrice + tick ≤ fillPrice * (1 + tpPct)
  | .sell => fillPrice * (1 - tpPct) ≤ roundUp tick fillPrice - tick

section Prices

variable {side : Side} {tick fillPrice pct price : ℚ}

/-- The stop is a quote on the losing side exactly when it is not rounded to zero. -/
theorem slPrice_right_iff (tickPositive : 0 < tick) (filled : 0 < fillPrice) (positive : 0 < pct)
    {slPrice : ℚ}
    (quantized : quantizePrice (computeSlPrice side fillPrice pct) side tick = .ok slPrice) :
    IsQuote tick slPrice ∧ IsLoss side fillPrice slPrice ↔ StopFits tick fillPrice pct side := by
  have share : 0 < fillPrice * pct := mul_pos filled positive
  cases side with
  | buy =>
      rw [quantizePrice_buy tickPositive] at quantized
      obtain rfl := Except.ok.inj quantized
      have below : roundDown tick (fillPrice * (1 - pct)) < fillPrice := by
        refine (roundDown_le tickPositive).trans_lt ?_
        linarith
      constructor
      · rintro ⟨quote, -⟩
        exact (roundDown_pos_iff tickPositive).mp quote.positive
      · intro fits
        exact ⟨⟨(roundDown_pos_iff tickPositive).mpr fits, isMultiple_roundDown⟩, below⟩
  | sell =>
      rw [quantizePrice_sell tickPositive] at quantized
      obtain rfl := Except.ok.inj quantized
      have above : fillPrice < roundUp tick (fillPrice * (1 + pct)) := by
        refine lt_of_lt_of_le ?_ (le_roundUp tickPositive)
        linarith
      exact iff_of_true ⟨⟨filled.trans above, isMultiple_roundUp⟩, above⟩ trivial

/-- The take-profit is a quote on the winning side exactly when the next multiple of the tick is
not beyond it. -/
theorem tpPrice_right_iff (tickPositive : 0 < tick) (filled : 0 < fillPrice) (below : pct < 1)
    {tpPrice : ℚ}
    (quantized : quantizePrice (computeTpPrice side fillPrice pct) side tick = .ok tpPrice) :
    IsQuote tick tpPrice ∧ IsProfit side fillPrice tpPrice ↔
      ProfitFits tick fillPrice pct side := by
  cases side with
  | buy =>
      rw [quantizePrice_buy tickPositive] at quantized
      obtain rfl := Except.ok.inj quantized
      constructor
      · rintro ⟨-, profit⟩
        exact (lt_roundDown_iff tickPositive).mp profit
      · intro fits
        have profit := (lt_roundDown_iff tickPositive).mpr fits
        exact ⟨⟨filled.trans profit, isMultiple_roundDown⟩, profit⟩
  | sell =>
      rw [quantizePrice_sell tickPositive] at quantized
      obtain rfl := Except.ok.inj quantized
      have left : 0 < fillPrice * (1 - pct) := mul_pos filled (sub_pos.mpr below)
      constructor
      · rintro ⟨-, profit⟩
        exact (roundUp_lt_iff tickPositive).mp profit
      · intro fits
        exact ⟨⟨left.trans_le (le_roundUp tickPositive), isMultiple_roundUp⟩,
          (roundUp_lt_iff tickPositive).mpr fits⟩

end Prices

/-! ## The calls of a run -/

/-- Everything sent so far is right. -/
def AllRight (side : Side) (entry tick : ℚ) (calls : List (Call × Bool)) : Prop :=
  ∀ made ∈ calls, StopsRight side entry tick made.1

section Calls

variable {side : Side} {entry tick : ℚ} {w : World} {call : Call} {α : Type}
  {answer : Except ExchangeError α} {p : Placed} {answers : Answers}
  {slPrice tpPrice tpSize notionalUsd : ℚ}

theorem allRight_call : AllRight side entry tick (w.call call answer).calls ↔
    AllRight side entry tick w.calls ∧ StopsRight side entry tick call := by
  simp [AllRight, World.call, or_imp, forall_and]

theorem stopsRight_slCall : StopsRight side entry tick (p.slCall slPrice) ↔
    IsQuote tick slPrice ∧ IsLoss side entry slPrice := by
  simp [StopsRight, Placed.slCall]

theorem stopsRight_tpCall : StopsRight side entry tick (p.tpCall tpPrice tpSize) ↔
    IsQuote tick tpPrice ∧ IsProfit side entry tpPrice := by
  simp [StopsRight, Placed.tpCall]

/-- The stop is sent first, and the take-profit after a stop that was accepted. -/
theorem setStops_allRight_iff :
    AllRight side entry tick (setStops p slPrice tpPrice tpSize notionalUsd answers w).2.calls ↔
      AllRight side entry tick w.calls ∧ (IsQuote tick slPrice ∧ IsLoss side entry slPrice) ∧
        (answers.slSet.isOk = true → IsQuote tick tpPrice ∧ IsProfit side entry tpPrice) := by
  rw [setStops_calls]
  split
  · next accepted =>
      rw [allRight_call, allRight_call, stopsRight_slCall, stopsRight_tpCall]
      simp [accepted, Except.isOk, Except.toBool, and_assoc]
  · next error refused =>
      split_ifs
      · rw [allRight_call, allRight_call, stopsRight_slCall]
        simp [StopsRight, refused, Except.isOk, Except.toBool]
      · rw [allRight_call, stopsRight_slCall]
        simp [refused, Except.isOk, Except.toBool]

theorem setPaperStops_calls : (setPaperStops p slPrice tpPrice tpSize answers w).2.calls =
    if answers.slSet.isOk then
      ((w.call (p.slCall slPrice) answers.slSet).call (p.tpCall tpPrice tpSize) answers.tpSet).calls
    else (w.call (p.slCall slPrice) answers.slSet).calls := by
  simp only [setPaperStops]
  cases answers.slSet with
  | error raised => rfl
  | ok _ => cases answers.tpSet <;> rfl

theorem setPaperStops_allRight_iff :
    AllRight side entry tick (setPaperStops p slPrice tpPrice tpSize answers w).2.calls ↔
      AllRight side entry tick w.calls ∧ (IsQuote tick slPrice ∧ IsLoss side entry slPrice) ∧
        (answers.slSet.isOk = true → IsQuote tick tpPrice ∧ IsProfit side entry tpPrice) := by
  rw [setPaperStops_calls]
  split_ifs with set
  · rw [allRight_call, allRight_call, stopsRight_slCall, stopsRight_tpCall, and_assoc]
    simp [set]
  · rw [allRight_call, stopsRight_slCall]
    simp [set]

/-- An order with a fill price: its stop, and the take-profit if the stop was accepted. -/
theorem protect_allRight_iff (tickPositive : 0 < tick) (filled : 0 < p.fillPrice)
    (slPositive : 0 < p.request.slPct) (tpBelow : p.request.tpPct < 1) :
    AllRight p.request.side p.fillPrice tick (protect p tick tpSize answers w).2.calls ↔
      AllRight p.request.side p.fillPrice tick w.calls ∧
        StopFits tick p.fillPrice p.request.slPct p.request.side ∧
        (answers.slSet.isOk = true →
          ProfitFits tick p.fillPrice p.request.tpPct p.request.side) := by
  have slQuantized := @quantizePrice_of_pos
    (computeSlPrice p.request.side p.fillPrice p.request.slPct) _ p.request.side tickPositive
  have tpQuantized := @quantizePrice_of_pos
    (computeTpPrice p.request.side p.fillPrice p.request.tpPct) _ p.request.side tickPositive
  rw [← slPrice_right_iff tickPositive filled slPositive slQuantized,
    ← tpPrice_right_iff tickPositive filled tpBelow tpQuantized]
  simp only [protect, slQuantized, tpQuantized]
  split_ifs with paper
  · exact setPaperStops_allRight_iff
  · exact setStops_allRight_iff

end Calls

/-! ## The handler -/

/-- The price the retry loop ends with: the first that is resolved, within the attempts. -/
def FillPriceIs (attempts : ℕ) (answers : ℕ → Except ExchangeError (Option ℚ)) (price : ℚ) :
    Prop :=
  ∃ attempt < attempts, answers attempt = .ok (some price) ∧
    ∀ earlier < attempt, IsUnresolved (answers earlier)

theorem fillPriceIs_succ {attempts : ℕ} {answers : ℕ → Except ExchangeError (Option ℚ)}
    {price : ℚ} :
    FillPriceIs (attempts + 1) answers price ↔ answers 0 = .ok (some price) ∨
      IsUnresolved (answers 0) ∧
        FillPriceIs attempts (fun attempt => answers (attempt + 1)) price := by
  simp only [FillPriceIs, Nat.exists_lt_succ_left, Nat.forall_lt_succ_left, not_lt_zero,
    IsEmpty.forall_iff, implies_true, and_true]
  refine or_congr_right ⟨?_, ?_⟩
  · rintro ⟨attempt, within, found, first, before⟩
    exact ⟨first, attempt, within, found, before⟩
  · rintro ⟨first, attempt, within, found, before⟩
    exact ⟨attempt, within, found, first, before⟩

theorem resolveFillPrice_of_is {call : Call} {price : ℚ} {attempts : ℕ} :
    ∀ {answers : ℕ → Except ExchangeError (Option ℚ)} {w : World},
      FillPriceIs attempts answers price →
        (resolveFillPrice call attempts answers w).1 = .ok (some price) := by
  induction attempts with
  | zero =>
      rintro _ _ ⟨attempt, within, -⟩
      exact absurd within (Nat.not_lt_zero attempt)
  | succ attempts ih =>
      intro answers w filled
      rcases resolveFillPrice_succ call attempts answers w with
        ⟨unresolved, next⟩ | ⟨found, first, next⟩ | ⟨error, first, final, next⟩
      · rw [next]
        rcases fillPriceIs_succ.mp filled with first | ⟨-, rest⟩
        · rw [first] at unresolved
          exact absurd unresolved not_false
        · exact ih rest
      · rw [next]
        rcases fillPriceIs_succ.mp filled with same | ⟨unresolved, -⟩
        · obtain rfl := Option.some.inj (Except.ok.inj (first.symm.trans same))
          rfl
        · rw [first] at unresolved
          exact absurd unresolved not_false
      · rcases fillPriceIs_succ.mp filled with same | ⟨unresolved, -⟩
        · rw [first] at same
          cases same
        · rw [first] at unresolved
          exact absurd (final.symm.trans unresolved) Bool.false_ne_true

section Handler

variable {settings : HandlerSettings} {request : OrderRequest} {envelope : Envelope}
  {workingQty qty fillPrice : ℚ} {answers : Answers} {db : Db} {info : InstrumentInfo}

theorem settleOrder_allRight_iff {tpSize : ℚ} {placeResult : OrderPlaceResult} {w : World}
    (filled : FillPriceIs settings.fillPriceRetryAttempts answers.fillPrice fillPrice)
    (positive : 0 < fillPrice) (tickPositive : 0 < info.tickSize)
    (slPositive : 0 < request.slPct) (tpBelow : request.tpPct < 1) :
    AllRight request.side fillPrice info.tickSize
        (settleOrder settings request envelope info qty tpSize placeResult answers w).2.calls ↔
      AllRight request.side fillPrice info.tickSize w.calls ∧
        StopFits info.tickSize fillPrice request.slPct request.side ∧
        (answers.slSet.isOk = true →
          ProfitFits info.tickSize fillPrice request.tpPct request.side) := by
  obtain ⟨asked, after⟩ := resolveFillPrice_world
    (.getFillPrice request.symbol placeResult.exchangeOrderId) settings.fillPriceRetryAttempts
    answers.fillPrice w
  simp only [settleOrder]
  rw [resolveFillPrice_of_is filled, after]
  refine (protect_allRight_iff
    (p := ⟨settings.botId, request, envelope, placeResult, fillPrice, qty⟩)
    tickPositive positive slPositive tpBelow).trans (and_congr_left' ?_)
  simp [AllRight, or_imp, forall_and, StopsRight]

/-- **When the stops are on the right side of the entry.** In a run whose order was accepted and
filled, everything sent as a stop or a take-profit is a positive multiple of the tick strictly on
its side of the fill price, exactly when the stop of a buy has a tick of room above zero and, if
the stop was accepted so that a take-profit is sent, the next multiple of the tick beyond the fill
price is within the take-profit's distance. -/
theorem handle_stops_right_iff (known : answers.instrumentInfo = .ok info)
    (accepted : (Call.placeMarketOrder request.symbol request.side qty false, true) ∈
      (handle settings request envelope workingQty answers { db := db }).2.calls)
    (filled : FillPriceIs settings.fillPriceRetryAttempts answers.fillPrice fillPrice)
    (positive : 0 < fillPrice) (tickPositive : 0 < info.tickSize)
    (slPct : 0 < request.slPct ∧ request.slPct < 1)
    (tpPct : 0 < request.tpPct ∧ request.tpPct < 1) :
    (∀ made ∈ (handle settings request envelope workingQty answers { db := db }).2.calls,
        StopsRight request.side fillPrice info.tickSize made.1) ↔
      StopFits info.tickSize fillPrice request.slPct request.side ∧
        (answers.slSet.isOk = true →
          ProfitFits info.tickSize fillPrice request.tpPct request.side) := by
  obtain ⟨info', tpSize, placeResult, known', settled⟩ := handle_of_accepted accepted
  obtain rfl := Except.ok.inj (known.symm.trans known')
  rw [settled]
  refine (settleOrder_allRight_iff filled positive tickPositive slPct.1 tpPct.2).trans ?_
  simp [AllRight, StopsRight]

end Handler

/-! ## The long of 10 -/

/-- The exchange fills the long at 100 on a grid of tenths, and accepts its stops. -/
def filledAnswers : Answers := { longAnswers with slSet := .ok () }

theorem filledAnswers_filled : FillPriceIs 12 filledAnswers.fillPrice 100 := by
  refine ⟨2, by decide, rfl, fun earlier before => ?_⟩
  cases earlier with
  | zero => exact rfl
  | succ earlier =>
      obtain rfl : earlier = 0 := by omega
      trivial

/-- A stop two percent below and a take-profit four percent above. -/
theorem filledAnswers_right :
    FillPriceIs 12 filledAnswers.fillPrice 100 ∧
      ∀ made ∈ (handle ⟨"bot", 12⟩ placedLong.request placedLong.envelope 10 filledAnswers
        { db := {} }).2.calls, StopsRight .buy 100 (1 / 10) made.1 :=
  ⟨filledAnswers_filled, (@handle_stops_right_iff ⟨"bot", 12⟩ placedLong.request
    placedLong.envelope 10 10 100 filledAnswers {} ⟨"BTCUSDT", 1 / 1000, 1 / 1000, 1 / 10⟩ rfl
    (by decide +kernel) filledAnswers_filled (by norm_num) (by norm_num)
    (by norm_num [placedLong]) (by norm_num [placedLong])).mpr
    ⟨by norm_num [StopFits, placedLong],
      fun _ => by norm_num [ProfitFits, placedLong, roundDown]⟩⟩

/-- A take-profit half a tick above the entry is rounded onto it. -/
theorem narrowProfit_on_entry :
    ¬ ∀ (settings : HandlerSettings) (request : OrderRequest) (envelope : Envelope)
      (workingQty fillPrice : ℚ) (answers : Answers) (db : Db) (info : InstrumentInfo),
      answers.instrumentInfo = .ok info →
      FillPriceIs settings.fillPriceRetryAttempts answers.fillPrice fillPrice →
      0 < fillPrice → 0 < info.tickSize → 0 < request.slPct ∧ request.slPct < 1 →
      0 < request.tpPct ∧ request.tpPct < 1 →
      ∀ made ∈ (handle settings request envelope workingQty answers { db := db }).2.calls,
        StopsRight request.side fillPrice info.tickSize made.1 := by
  intro alwaysRight
  have sent : (Call.setTradingStop "BTCUSDT" .Partial none (some 100) (some 5), true) ∈
      (handle ⟨"bot", 12⟩ { placedLong.request with tpPct := 1 / 2000 } placedLong.envelope 10
        filledAnswers { db := {} }).2.calls := by decide +kernel
  have right := alwaysRight ⟨"bot", 12⟩ { placedLong.request with tpPct := 1 / 2000 }
    placedLong.envelope 10 100 filledAnswers {} _ rfl filledAnswers_filled (by norm_num)
    (by decide +kernel) (by decide +kernel) (by decide +kernel) _ sent
  exact absurd (right.2 100 rfl).2 (lt_irrefl 100)

end Scalper.Execution
