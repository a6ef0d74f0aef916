import Scalper.Paper.Quantity

/-!
# `set_trading_stop` on the paper exchange and on Bybit

Both adapters take the same optional prices.  The Bybit adapter puts a field into its request
only when it was given (`BybitV5.setTradingStopBody`), so an omitted stop stays in force.  The
paper adapter writes every field, omitted or not, over what was there.

`tradingStops_perField` says exactly which call sequences do not tell the two apart: those in
which a call omits a stop only where none is in force.  The pair of calls a placement makes
is never one of them.
-/

set_option autoImplicit false

namespace Scalper

open Scalper.Lib Scalper.Exchange

/-! ## The request of the Bybit adapter -/

namespace BybitV5

/-- The optional fields of the `/v5/position/trading-stop` body; `none` is an absent key. -/
structure TradingStopBody where
  symbol : String
  tpslMode : TpslMode
  stopLoss : Option ℚ
  takeProfit : Option ℚ
  tpSize : Option ℚ
  deriving DecidableEq, Repr

/-- `BybitV5Adapter.set_trading_stop`: a key is added only for a value that was given. -/
def setTradingStopBody (symbol : String) (tpslMode : TpslMode)
    (slPrice tpPrice tpSize : Option ℚ) : TradingStopBody :=
  { symbol := symbol, tpslMode := tpslMode, stopLoss := slPrice, takeProfit := tpPrice,
    tpSize := tpSize }

end BybitV5

namespace Paper

variable {cfg : Config}

/-- What a per-field update makes of the stops in force: absent keys change nothing. -/
def TradingStops.update (existing : TradingStops) (body : BybitV5.TradingStopBody) :
    TradingStops :=
  { existing with
    slPrice := body.stopLoss.or existing.slPrice
    tpPrice := body.takeProfit.or existing.tpPrice
    tpSize := body.tpSize.or existing.tpSize
    tpslMode := body.tpslMode }

/-! ## Calls -/

/-- The arguments of one `set_trading_stop` call. -/
structure StopCall where
  symbol : String
  tpslMode : TpslMode
  slPrice : Option ℚ := none
  tpPrice : Option ℚ := none
  tpSize : Option ℚ := none
  slType : Option SlType := none
  deriving DecidableEq, Repr

def stopStep (cfg : Config) (call : StopCall) (s : PaperExchange) : PaperExchange :=
  (setTradingStop cfg call.symbol call.tpslMode call.slPrice call.tpPrice call.tpSize call.slType
    s).2

/-- The stops of a symbol as the next crossing check reads them. -/
def PaperExchange.stopsOf (s : PaperExchange) (symbol : String) : TradingStops :=
  ((s.activePositions symbol).getD {}).stops

variable (cfg) in
theorem stopsOf_stopStep (call : StopCall) (s : PaperExchange) :
    (stopStep cfg call s).stopsOf call.symbol =
      if call.slType = some .trail then s.stopsOf call.symbol
      else (s.stopsOf call.symbol).overwrite call.tpslMode call.slPrice call.tpPrice call.tpSize
        call.slType := by
  have books := (setTradingStop_books cfg call.symbol call.tpslMode call.slPrice
    call.tpPrice call.tpSize call.slType s).2
  have active : (stopStep cfg call s).activePositions =
      (stopStep cfg call s).books.activePositions := rfl
  unfold PaperExchange.stopsOf
  rw [active, show (stopStep cfg call s).books = _ from books]
  unfold stopEntry
  by_cases refused : call.slType = some .trail
  · rw [if_pos refused, if_pos refused]
    rfl
  · rw [if_neg refused, if_neg refused]
    simp [Entry.apply, PaperExchange.books]

/-! ## Omitted fields -/

/-- The stops a call omits are the same after it, as a per-field update would have them. -/
def KeepsOmitted (cfg : Config) (s : PaperExchange) (call : StopCall) : Prop :=
  let after := (stopStep cfg call s).stopsOf call.symbol
  let updated := (s.stopsOf call.symbol).update
    (BybitV5.setTradingStopBody call.symbol call.tpslMode call.slPrice call.tpPrice call.tpSize)
  (call.slPrice = none → after.slPrice = updated.slPrice) ∧
    (call.tpPrice = none → call.tpSize = none →
      after.tpPrice = updated.tpPrice ∧ after.tpSize = updated.tpSize)

/-- The call omits a stop only where none is in force (or is refused before it writes). -/
def OmitsOnlyUnset (s : PaperExchange) (call : StopCall) : Prop :=
  call.slType = some .trail ∨
    (call.slPrice = none → (s.stopsOf call.symbol).slPrice = none) ∧
      (call.tpPrice = none → call.tpSize = none →
        (s.stopsOf call.symbol).tpPrice = none ∧ (s.stopsOf call.symbol).tpSize = none)

theorem keepsOmitted_iff (s : PaperExchange) (call : StopCall) :
    KeepsOmitted cfg s call ↔ OmitsOnlyUnset s call := by
  unfold KeepsOmitted OmitsOnlyUnset
  simp only
  rw [stopsOf_stopStep]
  by_cases refused : call.slType = some .trail
  · rw [if_pos refused]
    refine iff_of_true ⟨?_, ?_⟩ (.inl refused)
    · intro omitted
      simp [TradingStops.update, BybitV5.setTradingStopBody, omitted]
    · intro omitted unsized
      simp [TradingStops.update, BybitV5.setTradingStopBody, omitted, unsized]
  · rw [if_neg refused]
    constructor
    · rintro ⟨stop, target⟩
      refine .inr ⟨?_, ?_⟩
      · intro omitted
        have kept := stop omitted
        simp only [TradingStops.overwrite, TradingStops.update, BybitV5.setTradingStopBody,
          omitted, Option.none_or] at kept
        exact kept.symm
      · intro omitted unsized
        obtain ⟨keptPrice, keptSize⟩ := target omitted unsized
        simp only [TradingStops.overwrite, TradingStops.update, BybitV5.setTradingStopBody,
          omitted, unsized, Option.none_or] at keptPrice keptSize
        exact ⟨keptPrice.symm, keptSize.symm⟩
    · rintro (isTrail | ⟨stop, target⟩)
      · exact absurd isTrail refused
      · refine ⟨?_, ?_⟩
        · intro omitted
          simp [TradingStops.overwrite, TradingStops.update, BybitV5.setTradingStopBody, omitted,
            stop omitted]
        · intro omitted unsized
          simp [TradingStops.overwrite, TradingStops.update, BybitV5.setTradingStopBody, omitted,
            unsized, target omitted unsized]

/-! ## Sequences -/

/-- The two calls of a placement on a paper bot: the stop alone, then the target alone. -/
def placementStops (symbol : String) (slPrice tpPrice tpSize : ℚ) : List StopCall :=
  [{ symbol := symbol, tpslMode := .Full, slPrice := some slPrice },
   { symbol := symbol, tpslMode := .Partial, tpPrice := some tpPrice, tpSize := some tpSize }]

theorem stopsOf_placementStops (s : PaperExchange) (symbol : String)
    (slPrice tpPrice tpSize : ℚ) :
    ((run (stopStep cfg) s (placementStops symbol slPrice tpPrice tpSize)).stopsOf
      symbol).slPrice = none := by
  unfold placementStops
  rw [run_cons, run_cons, run_nil]
  generalize stopStep cfg { symbol := symbol, tpslMode := .Full, slPrice := some slPrice } s = s₁
  have written := stopsOf_stopStep cfg
    { symbol := symbol, tpslMode := .Partial, tpPrice := some tpPrice, tpSize := some tpSize } s₁
  rw [if_neg (by simp)] at written
  exact congrArg TradingStops.slPrice written

/-- **Which call sequences keep what they omit.**  From any state, a sequence of calls acts on
omitted stops as Bybit does exactly when no call omits a stop that is in force; and after the
calls of a placement the position never has a stop-loss. -/
theorem tradingStops_perField (s : PaperExchange) :
    (∀ calls : List StopCall,
      RunGuarded (KeepsOmitted cfg) (stopStep cfg) s calls ↔
        RunGuarded OmitsOnlyUnset (stopStep cfg) s calls) ∧
    ∀ (symbol : String) (slPrice tpPrice tpSize : ℚ),
      ((run (stopStep cfg) s (placementStops symbol slPrice tpPrice tpSize)).stopsOf
        symbol).slPrice ≠ some slPrice := by
  refine ⟨fun calls => runGuarded_congr keepsOmitted_iff calls s, ?_⟩
  intro symbol slPrice tpPrice tpSize kept
  rw [stopsOf_placementStops] at kept
  cases kept

/-- A placement's second call takes the stop-loss of a long away. -/
theorem placement_drops_stop :
    ¬ ∀ (calls : List Call) (stopCalls : List StopCall),
      RunGuarded (KeepsOmitted plainConfig) (stopStep plainConfig)
        (run (step plainConfig) {} calls) stopCalls := by
  intro always
  have kept := (always
    [{ op := .onCandle (btcCandle 100 101 99 100) },
     { op := .placeMarketOrder "BTCUSDT" .buy 1 false }]
    (placementStops "BTCUSDT" 95 110 (3 / 5))).2.1.1 rfl
  revert kept
  decide +kernel

end Paper

end Scalper
