import Scalper.Execution.StopGeometry
import Scalper.Sizing.Compute

/-!
# The size of an order

The sizing seam of `services/execution/app/placement.py`: a request that carries a sizing section
is sized from the balance and the mark price before the placement handler goes on with it, and is
skipped where that fails.

`handleRequest_sized_iff` bounds the quantity of every order placed this way.  Two roundings down and
a cap only ever take away, so the notional stays under the cap and the risk, and what they take away
is less than one step.  But the multiplier of the score is looked up under one of the texts of its
bucket: where the bucket is under another one, the order is of the tier's whole size.
-/

set_option autoImplicit false

namespace Scalper.Execution

open Scalper.Lib Scalper.Exchange Scalper.Scoring Scalper.Sizing

/-! ## The section on the wire -/

/-- `SizingTierWire`. -/
structure SizingTierWire where
  balanceMin : ℚ
  size : ℚ
  deriving DecidableEq, Repr

/-- `SizingSpecForWire`. -/
structure SizingSpecForWire where
  method : SizingMethod
  tiers : List SizingTierWire
  scoreMultipliers : List (String × ℚ)
  riskPct : Option ℚ
  maxNotionalPerSymbol : List (String × ℚ)
  deriving DecidableEq, Repr

/-- What the strategy engine puts into an order request. -/
def wireOf (sizing : SizingSection) : SizingSpecForWire where
  method := sizing.method
  tiers := sizing.tiers.map fun tier => ⟨tier.balanceMin, tier.size⟩
  scoreMultipliers := sizing.scoreMultipliers
  riskPct := sizing.riskPct
  maxNotionalPerSymbol := sizing.maxNotionalPerSymbol

/-! ## The seam -/

/-- The reasons a signal is skipped for. -/
inductive SizingSkip where
  | fetchFailed
  | computeError
  | subLowestTier
  deriving DecidableEq, Repr

/-- How sizing ends without a quantity: a skipped signal, or an exception that leaves the
handler. -/
inductive SizingStop where
  | skips (reason : SizingSkip)
  | exchange (error : ExchangeError)
  | validation
  | overflow
  deriving DecidableEq

/-- The answers of the two calls before the sizing. -/
structure Fetches where
  totalEquity : Except ExchangeError ℚ
  markPrice : Except ExchangeError ℚ

/-- A transient failure of a fetch skips the signal. -/
def fetched : Except ExchangeError ℚ → Except SizingStop ℚ
  | .ok value => .ok value
  | .error error => .error (if isTransient error then .skips .fetchFailed else .exchange error)

/-- `SizingTier(balance_min=..., size=...)`, which validates. -/
def SizingTierWire.rehydrate (tier : SizingTierWire) : Except SizingStop SizingTier :=
  if valid : 0 ≤ tier.balanceMin ∧ 0 ≤ tier.size then
    .ok ⟨tier.balanceMin, tier.size, valid.1, valid.2⟩
  else .error .validation

/-- A `ValueError` and a missing quantity skip the signal. -/
def computed : Except ComputeError (Option ℚ) → Except SizingStop ℚ
  | .ok (some qty) => .ok qty
  | .ok none => .error (.skips .subLowestTier)
  | .error .valueError => .error (.skips .computeError)
  | .error .overflowError => .error .overflow

/-- The quantity of a request with a sizing section. -/
def sizedQty (request : OrderRequest) (score : Option Score) (sizing : SizingSpecForWire)
    (fetches : Fetches) : Except SizingStop ℚ := do
  let totalEquity ← fetched fetches.totalEquity
  let markPrice ← fetched fetches.markPrice
  match sizing.method with
  | .riskPerSl =>
      match sizing.riskPct with
      | none => .error (.skips .computeError)
      | some riskPct =>
          computed (computeQtyFromRisk totalEquity markPrice request.slPct riskPct
            sizing.maxNotionalPerSymbol request.symbol)
  | .tier => do
      let tiers ← sizing.tiers.mapM SizingTierWire.rehydrate
      computed (computeQtyFromSizing totalEquity markPrice tiers score sizing.scoreMultipliers
        sizing.maxNotionalPerSymbol request.symbol)

/-- The handler of an order request: sized, or with its static quantity. -/
def handleRequest (settings : HandlerSettings) (request : OrderRequest) (score : Option Score)
    (sizing : Option SizingSpecForWire) (envelope : Envelope) (fetches : Fetches)
    (answers : Answers) (w : World) : Except SizingStop Handled :=
  match sizing with
  | none => .ok (handle settings request envelope request.qty answers w)
  | some sizing => do
      let workingQty ← sizedQty request score sizing fetches
      return handle settings request envelope workingQty answers w

/-! ## Quantities on the grid -/

section Quantities

variable {info : InstrumentInfo} {x y q r : ℚ}

/-- What is left of a quantity: the greatest multiple of the step under it, if that reaches the
minimum. -/
structure IsQuantized (info : InstrumentInfo) (x q : ℚ) : Prop where
  rounded : q = roundDown info.qtyStep x
  min_le : info.minOrderQty ≤ q

theorem quantizeQty_eq_ok (stepPositive : 0 < info.qtyStep) (minPositive : 0 < info.minOrderQty)
    (quantized : quantizeQty x info = .ok q) : IsQuantized info x q := by
  have large : info.minOrderQty ≤ x := by
    by_contra small
    rw [quantizeQty, if_pos (not_le.mp small)] at quantized
    cases quantized
  obtain ⟨rounded, enough⟩ :=
    (quantizeQty_eq_ok_iff (minPositive.le.trans large) stepPositive).mp quantized
  exact ⟨rounded, enough⟩

namespace IsQuantized

theorem multiple (quantized : IsQuantized info x q) : IsMultiple info.qtyStep q :=
  quantized.rounded ▸ isMultiple_roundDown

theorem le (quantized : IsQuantized info x q) (stepPositive : 0 < info.qtyStep) : q ≤ x :=
  quantized.rounded ▸ roundDown_le stepPositive

theorem mono (quantized : IsQuantized info x q) (other : IsQuantized info y r)
    (stepPositive : 0 < info.qtyStep) (ordered : x ≤ y) : q ≤ r := by
  rw [quantized.rounded, other.rounded]
  exact roundDown_mono stepPositive ordered

end IsQuantized

end Quantities

/-! ## The sizes of the calls -/

/-- The size of a take-profit. -/
def Call.tpSize : Call → Option ℚ
  | .setTradingStop _ _ _ _ tpSize => tpSize
  | .getInstrumentInfo _ | .setLeverage _ _ | .placeMarketOrder .. | .getFillPrice _ _ => none

/-- From `w` to `w'` every take-profit was sent with this size. -/
def TakesProfitOf (tpSize : ℚ) (w w' : World) : Prop :=
  ∀ made ∈ w'.calls, made ∈ w.calls ∨ ∀ size ∈ made.1.tpSize, size = tpSize

section Calls

variable {p : Placed} {answers : Answers} {w w' w'' : World}
  {slPrice tpPrice tpSize notionalUsd : ℚ}

theorem TakesProfitOf.of_calls (same : w'.calls = w.calls) : TakesProfitOf tpSize w w' :=
  fun _ member => .inl (same ▸ member)

theorem TakesProfitOf.trans (first : TakesProfitOf tpSize w w')
    (second : TakesProfitOf tpSize w' w'') : TakesProfitOf tpSize w w'' := by
  intro made member
  rcases second made member with before | sized
  · exact first made before
  · exact .inr sized

theorem takesProfitOf_call {α : Type} {call : Call} {answer : Except ExchangeError α}
    (sized : ∀ size ∈ call.tpSize, size = tpSize) :
    TakesProfitOf tpSize w (w.call call answer) := by
  intro made member
  rcases List.mem_append.mp member with before | now
  · exact .inl before
  · rw [List.mem_singleton.mp now]
    exact .inr sized

theorem tpSize_slCall : ∀ size ∈ (p.slCall slPrice).tpSize, size = tpSize := by
  simp [Placed.slCall, Call.tpSize]

theorem tpSize_tpCall : ∀ size ∈ (p.tpCall tpPrice tpSize).tpSize, size = tpSize := by
  simp [Placed.tpCall, Call.tpSize]

theorem setStops_takesProfitOf :
    TakesProfitOf tpSize w (setStops p slPrice tpPrice tpSize notionalUsd answers w).2 := by
  have stop : TakesProfitOf tpSize w (w.call (p.slCall slPrice) answers.slSet) :=
    takesProfitOf_call tpSize_slCall
  simp only [setStops]
  split
  · split_ifs
    · exact stop.trans
        ((takesProfitOf_call (by simp [Call.tpSize])).trans (.of_calls emergencyClose_calls))
    · exact stop
  · exact stop.trans ((takesProfitOf_call tpSize_tpCall).trans (.of_calls setTakeProfit_calls))

theorem setPaperStops_takesProfitOf :
    TakesProfitOf tpSize w (setPaperStops p slPrice tpPrice tpSize answers w).2 := by
  intro made member
  rw [setPaperStops_calls] at member
  split_ifs at member with set
  · exact ((takesProfitOf_call tpSize_slCall).trans (takesProfitOf_call tpSize_tpCall)) made member
  · exact takesProfitOf_call tpSize_slCall made member

theorem protect_takesProfitOf {tick : ℚ} :
    TakesProfitOf tpSize w (protect p tick tpSize answers w).2 := by
  simp only [protect]
  split
  · exact .of_calls rfl
  · split
    · exact .of_calls rfl
    · split_ifs with paper
      · exact setPaperStops_takesProfitOf
      · exact setStops_takesProfitOf

theorem resolveFillPrice_takesProfitOf {symbol exchangeOrderId : String} {attempts : ℕ}
    {fillPrices : ℕ → Except ExchangeError (Option ℚ)} : TakesProfitOf tpSize w
      (resolveFillPrice (.getFillPrice symbol exchangeOrderId) attempts fillPrices w).2 := by
  obtain ⟨asked, after⟩ := resolveFillPrice_world (.getFillPrice symbol exchangeOrderId) attempts
    fillPrices w
  rw [after]
  intro made member
  rcases List.mem_append.mp member with before | now
  · exact .inl before
  · obtain ⟨_, _, rfl⟩ := List.mem_map.mp now
    exact .inr (by simp [Call.tpSize])

theorem settleOrder_takesProfitOf {settings : HandlerSettings} {request : OrderRequest}
    {envelope : Envelope} {info : InstrumentInfo} {qty : ℚ} {placeResult : OrderPlaceResult} :
    TakesProfitOf tpSize w
      (settleOrder settings request envelope info qty tpSize placeResult answers w).2 := by
  have asking : TakesProfitOf tpSize w (resolveFillPrice
      (.getFillPrice request.symbol placeResult.exchangeOrderId)
      settings.fillPriceRetryAttempts answers.fillPrice w).2 := resolveFillPrice_takesProfitOf
  refine asking.trans ?_
  simp only [settleOrder, afterFillPrice]
  split
  · exact .of_calls rfl
  · exact .of_calls rfl
  · exact protect_takesProfitOf

end Calls

/-- What precedes an order that was sent, and the size of the take-profits that follow. -/
theorem handle_of_placed {settings : HandlerSettings} {request : OrderRequest}
    {envelope : Envelope} {workingQty qty : ℚ} {answers : Answers} {db : Db} {accepted : Bool}
    (placed : (Call.placeMarketOrder request.symbol request.side qty false, accepted) ∈
      (handle settings request envelope workingQty answers { db := db }).2.calls) :
    ∃ info tpSize, answers.instrumentInfo = .ok info ∧ quantizeQty workingQty info = .ok qty ∧
      quantizeQty (computeTpSize qty request.tpQtyPct) info = .ok tpSize ∧
      ∀ made ∈ (handle settings request envelope workingQty answers { db := db }).2.calls,
        ∀ size ∈ made.1.tpSize, size = tpSize := by
  cases known : answers.instrumentInfo with
  | error raised =>
      simp only [handle, known, World.call] at placed
      split at placed <;> simp at placed
  | ok info =>
      cases rounded : quantizeQty workingQty info with
      | error raised =>
          simp only [handle, known, rounded, World.call] at placed
          split at placed <;> simp_all
      | ok quantizedQty =>
          cases part : quantizeQty (computeTpSize quantizedQty request.tpQtyPct) info with
          | error raised =>
              simp only [handle, known, rounded, part, World.call] at placed
              split at placed <;> simp_all
          | ok tpSize =>
              cases leveraged : answers.leverage with
              | error raised =>
                  simp only [handle, known, rounded, part, placeOrder, leveraged,
                    World.call] at placed
                  split at placed <;> simp_all
              | ok _ =>
                  cases answered : answers.placed with
                  | error raised =>
                      simp only [handle, known, rounded, part, placeOrder, leveraged, answered,
                        World.call, List.nil_append, List.cons_append] at placed ⊢
                      have same : qty = quantizedQty := by simp_all
                      subst same
                      exact ⟨info, tpSize, rfl, rounded, part, by simp [Call.tpSize]⟩
                  | ok placeResult =>
                      simp only [handle, known, rounded, part, placeOrder, leveraged, answered,
                        World.call, List.nil_append, List.cons_append] at placed ⊢
                      -- What follows opens nothing, so the order is the one just placed.
                      have opened := settleOrder_opensNothing _ placed rfl
                      have same : qty = quantizedQty := by simp_all
                      subst same
                      refine ⟨info, tpSize, rfl, rounded, part, fun made member size sized => ?_⟩
                      rcases settleOrder_takesProfitOf made member with before | sizes
                      · simp only [List.mem_cons, List.not_mem_nil, or_false] at before
                        rcases before with rfl | rfl | rfl <;> simp [Call.tpSize] at sized
                      · exact sizes size sized

/-! ## The target -/

/-- The multiplier of a score: that of an entry of its bucket, and one where the bucket has no entry
or there is no score. -/
inductive IsMultiplier (scoreMultipliers : List (String × ℚ)) : Option Score → ℚ → Prop where
  | unscored : IsMultiplier scoreMultipliers none 1
  | entry {x : ℚ} {n : ℤ} {key : String} {multiplier : ℚ} (bucket : IsBucket scoreMultipliers x n)
      (denotes : Denotes key n) (listed : scoreMultipliers.lookup key = some multiplier) :
      IsMultiplier scoreMultipliers (some (.finite x)) multiplier
  | gap {x : ℚ} (absent : ∀ n, IsBucket scoreMultipliers x n → n ∉ denoted scoreMultipliers) :
      IsMultiplier scoreMultipliers (some (.finite x)) 1

/-- The notional an order is to have: that of the balance's tier scaled by the multiplier of the
score, or the one that loses the risk at the stop, and at most the cap of the symbol. -/
inductive IsTarget (sizing : SizingSection) (score : Option Score) (totalEquity slPct : ℚ)
    (symbol : String) : ℚ → Prop where
  | tier {tier : SizingTier} {multiplier : ℚ} (method : sizing.method = .tier)
      (tierOf : IsTierOf totalEquity sizing.tiers tier)
      (scales : IsMultiplier sizing.scoreMultipliers score multiplier) :
      IsTarget sizing score totalEquity slPct symbol
        (min (tier.size * multiplier) (capOf sizing.maxNotionalPerSymbol symbol))
  | risk {riskPct : ℚ} (method : sizing.method = .riskPerSl)
      (known : sizing.riskPct = some riskPct) :
      IsTarget sizing score totalEquity slPct symbol
        (min (totalEquity * riskPct / slPct) (capOf sizing.maxNotionalPerSymbol symbol))

/-- What a notional buys of a symbol at the mark price, within the cap and in whole steps. -/
def bought (sizing : SizingSection) (symbol : String) (info : InstrumentInfo)
    (markPrice notional : ℚ) : ℚ :=
  roundDown info.qtyStep (min notional (capOf sizing.maxNotionalPerSymbol symbol) / markPrice)

/-- The order is sized by the risk, or not scored, or the bucket of the score has its entry under the
text that `str` writes, or no entry, or one with which the tier buys what it buys without it. -/
def BucketFound (sizing : SizingSection) (score : Option Score) (totalEquity : ℚ) (symbol : String)
    (info : InstrumentInfo) (markPrice : ℚ) : Prop :=
  sizing.method = .tier → ∀ x, score = some (.finite x) → ∀ n,
    IsBucket sizing.scoreMultipliers x n →
      (sizing.scoreMultipliers.lookup (toString n)).isSome = true ∨
        n ∉ denoted sizing.scoreMultipliers ∨
        ∃ key multiplier, Denotes key n ∧ sizing.scoreMultipliers.lookup key = some multiplier ∧
          ∀ tier, IsTierOf totalEquity sizing.tiers tier →
            bought sizing symbol info markPrice (tier.size * multiplier) =
              bought sizing symbol info markPrice tier.size

/-- What the multiplier of a score is looked up as. -/
inductive LooksUp (scoreMultipliers : List (String × ℚ)) : Option Score → ℚ → Prop where
  | unscored : LooksUp scoreMultipliers none 1
  | bucket {x : ℚ} {n : ℤ} (bucket : IsBucket scoreMultipliers x n) :
      LooksUp scoreMultipliers (some (.finite x)) ((scoreMultipliers.lookup (toString n)).getD 1)

section Target

variable {sizing : SizingSection} {score : Option Score} {request : OrderRequest}
  {fetches : Fetches} {totalEquity markPrice x : ℚ}

theorem looksUp_of_ok {notional scaled : ℚ} {scoreMultipliers : List (String × ℚ)}
    (some_key : scoreMultipliers ≠ [])
    (returned : applyScoreMultiplier notional score scoreMultipliers = .ok scaled) :
    ∃ multiplier, LooksUp scoreMultipliers score multiplier ∧ scaled = notional * multiplier := by
  cases score with
  | none =>
      obtain rfl := Except.ok.inj returned
      exact ⟨1, .unscored, (mul_one _).symm⟩
  | some score =>
      have floors := returned
      simp only [applyScoreMultiplier, if_neg some_key, bind_eq_ok_iff] at floors
      obtain ⟨keys, read, floored, floor, -⟩ := floors
      cases score with
      | finite x =>
          obtain ⟨n, bucket, result⟩ := applyScoreMultiplier_of_readable x notional some_key
            (exists_keys_iff.mp ⟨keys, read⟩)
          obtain rfl := Except.ok.inj (returned.symm.trans result)
          refine ⟨_, .bucket bucket, ?_⟩
          cases scoreMultipliers.lookup (toString n) with
          | none => exact (mul_one _).symm
          | some multiplier => rfl
      | infinite => cases floor
      | nan => cases floor

theorem mapM_rehydrate (tiers : List SizingTier) :
    (tiers.map fun tier => (⟨tier.balanceMin, tier.size⟩ : SizingTierWire)).mapM
      SizingTierWire.rehydrate = .ok tiers := by
  rw [mapM_eq_ok_iff, List.forall₂_map_left_iff]
  refine List.forall₂_same.mpr fun tier _ => ?_
  rw [SizingTierWire.rehydrate, dif_pos ⟨tier.balanceMin_nonneg, tier.size_nonneg⟩]

theorem computed_eq_ok {result : Except ComputeError (Option ℚ)} (ok : computed result = .ok x) :
    result = .ok (some x) := by
  cases result with
  | error raised => cases raised <;> cases ok
  | ok qty =>
      cases qty with
      | none => cases ok
      | some qty =>
          obtain rfl := Except.ok.inj ok
          rfl

/-- A computed quantity is what a notional buys at the mark price, which is positive: that of the
tier, scaled as the score is looked up, or that of the risk per stop, where the distance of the stop
is positive too. -/
theorem sizedQty_eq_ok (equity : fetches.totalEquity = .ok totalEquity)
    (mark : fetches.markPrice = .ok markPrice)
    (sized : sizedQty request score (wireOf sizing) fetches = .ok x) :
    0 < markPrice ∧
      (sizing.method = .tier → ∃ tier multiplier, IsTierOf totalEquity sizing.tiers tier ∧
        LooksUp sizing.scoreMultipliers score multiplier ∧
        x = min (tier.size * multiplier) (capOf sizing.maxNotionalPerSymbol request.symbol) /
          markPrice) ∧
      (sizing.method = .riskPerSl → ∃ riskPct, sizing.riskPct = some riskPct ∧
        0 < request.slPct ∧ 0 < riskPct ∧
        x = min (totalEquity * riskPct / request.slPct)
          (capOf sizing.maxNotionalPerSymbol request.symbol) / markPrice) := by
  rw [sizedQty, equity, mark, bind_eq_ok_iff] at sized
  obtain ⟨_, same, sized⟩ := sized
  obtain rfl := Except.ok.inj same
  rw [bind_eq_ok_iff] at sized
  obtain ⟨_, same, sized⟩ := sized
  obtain rfl := Except.ok.inj same
  cases method : sizing.method with
  | riskPerSl =>
      rw [show (wireOf sizing).method = .riskPerSl from method] at sized
      simp only at sized
      cases known : sizing.riskPct with
      | none =>
          rw [show (wireOf sizing).riskPct = none from known] at sized
          cases sized
      | some riskPct =>
          rw [show (wireOf sizing).riskPct = some riskPct from known] at sized
          have result := computed_eq_ok sized
          rw [computeQtyFromRisk] at result
          split_ifs at result with noEquity noMark noStop noRisk
          · cases Except.ok.inj result
          · obtain rfl := Option.some.inj (Except.ok.inj result)
            exact ⟨not_le.mp noMark, (fun other => by cases other),
              fun _ => ⟨riskPct, rfl, not_le.mp noStop, not_le.mp noRisk, rfl⟩⟩
  | tier =>
      rw [show (wireOf sizing).method = .tier from method] at sized
      simp only [wireOf, bind_eq_ok_iff] at sized
      obtain ⟨tiers, rehydrated, result⟩ := sized
      obtain rfl := Except.ok.inj ((mapM_rehydrate sizing.tiers).symm.trans rehydrated)
      have result := computed_eq_ok result
      rw [computeQtyFromSizing] at result
      cases chosen : selectTier totalEquity sizing.tiers with
      | none =>
          rw [chosen] at result
          cases Except.ok.inj result
      | some tier =>
          rw [chosen] at result
          simp only at result
          split_ifs at result with noMark
          obtain ⟨scaled, returned, result⟩ := bind_eq_ok_iff.mp result
          obtain rfl := Option.some.inj (Except.ok.inj result)
          obtain ⟨multiplier, looked, rfl⟩ := looksUp_of_ok (sizing.guards.1 method).2.2.1 returned
          exact ⟨not_le.mp noMark,
            fun _ => ⟨tier, multiplier, isTierOf_of_selectTier method chosen, looked, rfl⟩,
            fun other => by cases other⟩

/-- A multiple of the step is within a step under a target exactly if it is what the target buys. -/
theorem within_step_iff {step target q : ℚ} (stepPositive : 0 < step) (markPositive : 0 < markPrice)
    (multiple : IsMultiple step q) :
    (target - step * markPrice < q * markPrice ∧ q * markPrice ≤ target) ↔
      roundDown step (target / markPrice) = q := by
  rw [roundDown_eq_iff stepPositive multiple, le_div_iff₀ markPositive, div_lt_iff₀ markPositive,
    add_mul, sub_lt_iff_lt_add, and_comm]

/-- The order of a tier is within a step under the target exactly if the bucket of the score is
found. -/
theorem tier_onTarget_iff {info : InstrumentInfo} {symbol : String} {slPct q multiplier : ℚ}
    {tier : SizingTier} (stepPositive : 0 < info.qtyStep) (markPositive : 0 < markPrice)
    (method : sizing.method = .tier) (tierOf : IsTierOf totalEquity sizing.tiers tier)
    (looked : LooksUp sizing.scoreMultipliers score multiplier)
    (worth : q = bought sizing symbol info markPrice (tier.size * multiplier)) :
    (∃ target, IsTarget sizing score totalEquity slPct symbol target ∧
        target - info.qtyStep * markPrice < q * markPrice ∧ q * markPrice ≤ target) ↔
      BucketFound sizing score totalEquity symbol info markPrice := by
  have multiple : IsMultiple info.qtyStep q := worth ▸ isMultiple_roundDown
  have ascending := List.isChain_iff_pairwise.mp (sizing.guards.1 method).2.2.2
  simp only [within_step_iff stepPositive markPositive multiple]
  constructor
  · rintro ⟨target, isTarget, buys⟩ _ x rfl n bucket
    cases isTarget with
    | risk other => rw [method] at other; cases other
    | @tier tier' multiplier' _ tierOf' scales =>
        obtain rfl := tierOf.unique ascending tierOf'
        cases scales with
        | gap absent => exact .inr (.inl (absent n bucket))
        | @entry _ m key _ bucket' denotes listed =>
            obtain rfl := bucket.unique bucket'
            cases looked with
            | @bucket _ m bucket' =>
                obtain rfl := bucket.unique bucket'
                cases found : sizing.scoreMultipliers.lookup (toString n) with
                | some entry => exact .inl rfl
                | none =>
                    rw [found, Option.getD_none, mul_one] at worth
                    refine .inr (.inr ⟨key, multiplier', denotes, listed, fun other otherOf => ?_⟩)
                    obtain rfl := tierOf.unique ascending otherOf
                    exact buys.trans worth
  · intro found
    cases looked with
    | unscored => exact ⟨_, .tier method tierOf .unscored, worth.symm⟩
    | @bucket x n bucket =>
        rcases found method x rfl n bucket with here | absent |
          ⟨key, multiplier', denotes, listed, same⟩
        · obtain ⟨entry, listed⟩ := Option.isSome_iff_exists.mp here
          rw [listed, Option.getD_some] at worth
          exact ⟨_, .tier method tierOf (.entry bucket (denotes_toString bucket.nonneg) listed),
            worth.symm⟩
        · rw [lookup_eq_none_of_absent bucket.nonneg absent, Option.getD_none] at worth
          exact ⟨_, .tier method tierOf (.gap fun m other => other.unique bucket ▸ absent),
            worth.symm⟩
        · cases here : sizing.scoreMultipliers.lookup (toString n) with
          | some entry =>
              rw [here, Option.getD_some] at worth
              exact ⟨_, .tier method tierOf (.entry bucket (denotes_toString bucket.nonneg) here),
                worth.symm⟩
          | none =>
              rw [here, Option.getD_none, mul_one] at worth
              exact ⟨_, .tier method tierOf (.entry bucket denotes listed),
                (same tier tierOf).trans worth.symm⟩

end Target

/-! ## The order -/

/-- What the order of a sized request is: on the grid, from the minimum on, under the cap and under
its target by less than a step, within the risk, with take-profits of no more than it. -/
structure WellSized (sizing : SizingSection) (score : Option Score) (request : OrderRequest)
    (info : InstrumentInfo) (totalEquity markPrice qty : ℚ) (calls : List (Call × Bool)) :
    Prop where
  multiple : IsMultiple info.qtyStep qty
  min_le : info.minOrderQty ≤ qty
  capped : qty * markPrice ≤ capOf sizing.maxNotionalPerSymbol request.symbol
  onTarget : ∃ target, IsTarget sizing score totalEquity request.slPct request.symbol target ∧
    target - info.qtyStep * markPrice < qty * markPrice ∧ qty * markPrice ≤ target
  withinRisk : sizing.method = .riskPerSl → ∃ riskPct, sizing.riskPct = some riskPct ∧
    qty * markPrice * request.slPct ≤ totalEquity * riskPct
  takeProfit : 0 < request.tpQtyPct → request.tpQtyPct ≤ 1 → ∀ made ∈ calls,
    ∀ size ∈ made.1.tpSize,
      IsMultiple info.qtyStep size ∧ info.minOrderQty ≤ size ∧ size ≤ qty

section Sized

variable {settings : HandlerSettings} {request : OrderRequest} {sizing : SizingSection}
  {score : Option Score} {envelope : Envelope} {fetches : Fetches} {answers : Answers} {db : Db}
  {handled : Handled} {info : InstrumentInfo} {totalEquity markPrice qty : ℚ} {accepted : Bool}

/-- The quantity before the rounding. -/
theorem handleRequest_of_placed
    (known : answers.instrumentInfo = .ok info) (stepPositive : 0 < info.qtyStep)
    (minPositive : 0 < info.minOrderQty)
    (run : handleRequest settings request score (some (wireOf sizing)) envelope fetches answers
      { db := db } = .ok handled)
    (placed : (Call.placeMarketOrder request.symbol request.side qty false, accepted) ∈
      handled.2.calls) :
    ∃ workingQty tpSize, sizedQty request score (wireOf sizing) fetches = .ok workingQty ∧
      IsQuantized info workingQty qty ∧
      IsQuantized info (computeTpSize qty request.tpQtyPct) tpSize ∧
      ∀ made ∈ handled.2.calls, ∀ size ∈ made.1.tpSize, size = tpSize := by
  rw [handleRequest, bind_eq_ok_iff] at run
  obtain ⟨workingQty, sized, handles⟩ := run
  obtain rfl := Except.ok.inj handles
  obtain ⟨info', tpSize, known', rounded, part, sizes⟩ := handle_of_placed placed
  obtain rfl := Except.ok.inj (known.symm.trans known')
  exact ⟨workingQty, tpSize, sized, quantizeQty_eq_ok stepPositive minPositive rounded,
    quantizeQty_eq_ok stepPositive minPositive part, sizes⟩

/-- The order, from the quantity it is rounded from. -/
theorem wellSized_iff_of_sizedQty {workingQty tpSize : ℚ} {calls : List (Call × Bool)}
    (equity : fetches.totalEquity = .ok totalEquity) (mark : fetches.markPrice = .ok markPrice)
    (stepPositive : 0 < info.qtyStep) (minPositive : 0 < info.minOrderQty)
    (sized : sizedQty request score (wireOf sizing) fetches = .ok workingQty)
    (rounded : IsQuantized info workingQty qty)
    (part : IsQuantized info (computeTpSize qty request.tpQtyPct) tpSize)
    (sizes : ∀ made ∈ calls, ∀ size ∈ made.1.tpSize, size = tpSize) :
    WellSized sizing score request info totalEquity markPrice qty calls ↔
      BucketFound sizing score totalEquity request.symbol info markPrice := by
  obtain ⟨markPositive, tiered, risked⟩ := sizedQty_eq_ok equity mark sized
  have less : qty * markPrice ≤ workingQty * markPrice :=
    mul_le_mul_of_nonneg_right (rounded.le stepPositive) markPositive.le
  have takeProfit : 0 < request.tpQtyPct → request.tpQtyPct ≤ 1 → ∀ made ∈ calls,
      ∀ size ∈ made.1.tpSize,
        IsMultiple info.qtyStep size ∧ info.minOrderQty ≤ size ∧ size ≤ qty := by
    intro _ whole made member size sent
    rw [sizes made member size sent]
    have nonneg : 0 ≤ qty := minPositive.le.trans rounded.min_le
    refine ⟨part.multiple, part.min_le, (part.le stepPositive).trans ?_⟩
    exact mul_le_of_le_one_right nonneg whole
  cases method : sizing.method with
  | tier =>
      obtain ⟨tier, multiplier, tierOf, looked, worth⟩ := tiered method
      have onTarget := @tier_onTarget_iff _ _ _ _ _ _ request.slPct _ _ _ stepPositive markPositive
        method tierOf looked (rounded.rounded.trans (congrArg _ worth))
      refine ⟨fun right => onTarget.mp right.onTarget, fun found =>
        ⟨rounded.multiple, rounded.min_le, less.trans ?_, onTarget.mpr found,
          (fun other => by rw [method] at other; cases other), takeProfit⟩⟩
      rw [worth, div_mul_cancel₀ _ markPositive.ne']
      exact min_le_right _ _
  | riskPerSl =>
      obtain ⟨riskPct, same, stopPositive, -, worth⟩ := risked method
      have atTarget : workingQty * markPrice = min (totalEquity * riskPct / request.slPct)
          (capOf sizing.maxNotionalPerSymbol request.symbol) := by
        rw [worth, div_mul_cancel₀ _ markPositive.ne']
      refine iff_of_true ⟨rounded.multiple, rounded.min_le, less.trans ?_,
        ⟨_, .risk method same, ?_⟩, fun _ => ⟨riskPct, same, ?_⟩, takeProfit⟩
        fun other => by rw [method] at other; cases other
      · rw [atTarget]
        exact min_le_right _ _
      · rw [within_step_iff stepPositive markPositive rounded.multiple, ← worth]
        exact rounded.rounded.symm
      · have risk : qty * markPrice ≤ totalEquity * riskPct / request.slPct := by
          calc qty * markPrice ≤ workingQty * markPrice := less
            _ ≤ totalEquity * riskPct / request.slPct := atTarget.le.trans (min_le_left _ _)
        exact (le_div_iff₀ stopPositive).mp risk

/-- Sized by the risk, a greater equity computes no less. -/
theorem sizedQty_mono {totalEquity' x x' : ℚ} {score' : Option Score}
    (equity : fetches.totalEquity = .ok totalEquity) (mark : fetches.markPrice = .ok markPrice)
    (method : sizing.method = .riskPerSl) (more : totalEquity ≤ totalEquity')
    (sized : sizedQty request score (wireOf sizing) fetches = .ok x)
    (sized' : sizedQty request score' (wireOf sizing) ⟨.ok totalEquity', .ok markPrice⟩ = .ok x') :
    x ≤ x' := by
  obtain ⟨markPositive, -, risked⟩ := sizedQty_eq_ok equity mark sized
  obtain ⟨-, -, risked'⟩ := sizedQty_eq_ok rfl rfl sized'
  obtain ⟨riskPct, same, stopPositive, riskPositive, worth⟩ := risked method
  obtain ⟨riskPct', same', -, -, worth'⟩ := risked' method
  obtain rfl := Option.some.inj (same.symm.trans same')
  rw [worth, worth']
  refine div_le_div_of_nonneg_right (min_le_min_right _ ?_) markPositive.le
  exact div_le_div_of_nonneg_right (mul_le_mul_of_nonneg_right more riskPositive.le)
    stopPositive.le

/-- **The size of an order.** An order placed through the sizing path is a multiple of the step, at
least the minimum, within the cap of its symbol and within one step under the target of its tier or
of its risk, and risks at most the part of the equity it is to risk, and its take-profits are
multiples of the step between the minimum and the whole of it, exactly if the bucket of its score is
found.  Sized by the risk, a greater equity never places less. -/
theorem handleRequest_sized_iff (equity : fetches.totalEquity = .ok totalEquity)
    (mark : fetches.markPrice = .ok markPrice) (known : answers.instrumentInfo = .ok info)
    (stepPositive : 0 < info.qtyStep) (minPositive : 0 < info.minOrderQty)
    (run : handleRequest settings request score (some (wireOf sizing)) envelope fetches answers
      { db := db } = .ok handled)
    (placed : (Call.placeMarketOrder request.symbol request.side qty false, accepted) ∈
      handled.2.calls) :
    (WellSized sizing score request info totalEquity markPrice qty handled.2.calls ↔
        BucketFound sizing score totalEquity request.symbol info markPrice) ∧
      (sizing.method = .riskPerSl →
        ∀ (settings' : HandlerSettings) (score' : Option Score) (envelope' : Envelope)
          (answers' : Answers) (db' : Db) (handled' : Handled) (totalEquity' qty' : ℚ)
          (accepted' : Bool), totalEquity ≤ totalEquity' → answers'.instrumentInfo = .ok info →
          handleRequest settings' request score' (some (wireOf sizing)) envelope'
            ⟨.ok totalEquity', .ok markPrice⟩ answers' { db := db' } = .ok handled' →
          (Call.placeMarketOrder request.symbol request.side qty' false, accepted') ∈
            handled'.2.calls →
          qty ≤ qty') := by
  obtain ⟨workingQty, tpSize, sized, rounded, part, sizes⟩ :=
    handleRequest_of_placed known stepPositive minPositive run placed
  constructor
  · exact wellSized_iff_of_sizedQty equity mark stepPositive minPositive sized rounded part sizes
  · intro method settings' score' envelope' answers' db' handled' totalEquity' qty' accepted' more
      known' run' placed'
    obtain ⟨workingQty', tpSize', sized', rounded', -, -⟩ :=
      handleRequest_of_placed known' stepPositive minPositive run' placed'
    exact rounded.mono rounded' stepPositive (sizedQty_mono equity mark method more sized sized')

end Sized

/-! ## The long, sized -/

/-- One percent of the equity at risk, and a cap of 5000. -/
def riskSizing : SizingSection :=
  ⟨.riskPerSl, [], [], some (1 / 100), [("default", 5000)], by simp, by decide⟩

/-- An equity of 1000 at a stop of two percent buys 500 at the mark price of 101: 4.950. -/
theorem riskSizing_sized :
    ∃ handled, WellSized riskSizing none placedLong.request
      ⟨"BTCUSDT", 1 / 1000, 1 / 1000, 1 / 10⟩ 1000 101 (99 / 20) handled := by
  refine ⟨(handle ⟨"bot", 12⟩ placedLong.request placedLong.envelope (500 / 101) longAnswers
    { db := {} }).2.calls, ?_⟩
  refine (@handleRequest_sized_iff ⟨"bot", 12⟩ placedLong.request riskSizing none
    placedLong.envelope ⟨.ok 1000, .ok 101⟩ longAnswers {} (handle ⟨"bot", 12⟩ placedLong.request
      placedLong.envelope (500 / 101) longAnswers { db := {} })
    ⟨"BTCUSDT", 1 / 1000, 1 / 1000, 1 / 10⟩ 1000 101 (99 / 20) true rfl rfl rfl (by norm_num)
    (by norm_num) (by
      have sized : sizedQty placedLong.request none (wireOf riskSizing) ⟨.ok 1000, .ok 101⟩ =
          .ok (500 / 101) := by decide +kernel
      rw [handleRequest, sized]
      rfl) (by decide +kernel)).1.mpr fun other => by cases other

/-- A tier of 1000, and half of it for the scores from four on. -/
def halvedSizing : SizingSection :=
  ⟨.tier, [⟨0, 1000, by norm_num, by norm_num⟩], [("04", 1 / 2)], none, [("default", 5000)],
    by simp, by decide⟩

/-- A score of four and a half, at a bucket named "04": the order is of the whole tier. -/
theorem halvedSizing_whole :
    ¬ ∀ (settings : HandlerSettings) (request : OrderRequest) (sizing : SizingSection)
      (score : Option Score) (envelope : Envelope) (fetches : Fetches) (answers : Answers) (db : Db)
      (handled : Handled) (info : InstrumentInfo) (totalEquity markPrice qty : ℚ)
      (accepted : Bool), fetches.totalEquity = .ok totalEquity →
      fetches.markPrice = .ok markPrice → answers.instrumentInfo = .ok info → 0 < info.qtyStep →
      0 < info.minOrderQty →
      handleRequest settings request score (some (wireOf sizing)) envelope fetches answers
        { db := db } = .ok handled →
      (Call.placeMarketOrder request.symbol request.side qty false, accepted) ∈ handled.2.calls →
      WellSized sizing score request info totalEquity markPrice qty handled.2.calls := by
  intro alwaysSized
  have sized : sizedQty placedLong.request (some (.finite (9 / 2))) (wireOf halvedSizing)
      ⟨.ok 1000, .ok 100⟩ = .ok 10 := by decide +kernel
  have right := alwaysSized ⟨"bot", 12⟩ placedLong.request halvedSizing (some (.finite (9 / 2)))
    placedLong.envelope ⟨.ok 1000, .ok 100⟩ longAnswers {}
    (handle ⟨"bot", 12⟩ placedLong.request placedLong.envelope 10 longAnswers { db := {} })
    ⟨"BTCUSDT", 1 / 1000, 1 / 1000, 1 / 10⟩ 1000 100 10 true rfl rfl rfl (by norm_num) (by norm_num)
    (by rw [handleRequest, sized]; rfl) (by decide +kernel)
  have bucket : IsBucket [("04", 1 / 2)] (9 / 2) 4 := isBucket_singleton (by decide) _ _
  obtain ⟨target, isTarget, -, below⟩ := right.onTarget
  cases isTarget with
  | risk method => cases method
  | @tier tier multiplier _ tierOf scales =>
      obtain rfl := List.mem_singleton.mp tierOf.member
      cases scales with
      | gap absent => exact absent 4 bucket ⟨_, List.mem_cons_self, by decide⟩
      | @entry _ n key _ _ _ listed =>
          obtain ⟨before, after, split, -⟩ := List.lookup_eq_some_iff.mp listed
          have member : (key, multiplier) ∈ [("04", (1 : ℚ) / 2)] := by
            rw [show [("04", (1 : ℚ) / 2)] = _ from split]
            exact List.mem_append_right before List.mem_cons_self
          obtain ⟨-, rfl⟩ := Prod.mk.inj (List.mem_singleton.mp member)
          have half := below.trans (min_le_left _ _)
          norm_num at half

end Scalper.Execution
