import Scalper.Exchange.Quantize
import Scalper.Execution.Ledger

/-!
# The placement handler

`services/execution/app/placement.py`, from the quantity on: the instrument's grid, the
leverage, the market order, its fill price with the configured retries, the stop and the
take-profit, and the transaction; and `emergency_close`, which flattens a position whose stop
was refused.  What the exchange, the database and the bus answer is given (`Answers`), and a
run of the handler leaves the calls it made, with what the exchange accepted of them.

The stop is followed by the emergency close for five classes of errors.  Another one leaves the
handler and the position with neither (`bareError_unprotected`), and so does a fill price that is
not resolved, whose request goes to the dead-letter queue.  `handle_protected_iff` says exactly when
the handler leaves the position with a stop or flattened.
-/

set_option autoImplicit false

namespace Scalper.Execution

open Scalper.Lib Scalper.Exchange

/-! ## The exchange, the database and the bus -/

/-- A call of the exchange adapter. -/
inductive Call where
  | getInstrumentInfo (symbol : String)
  | setLeverage (symbol : String) (leverage : ℕ)
  | placeMarketOrder (symbol : String) (side : Side) (qty : ℚ) (reduceOnly : Bool)
  | getFillPrice (symbol exchangeOrderId : String)
  | setTradingStop (symbol : String) (tpslMode : TpslMode) (slPrice tpPrice tpSize : Option ℚ)
  deriving DecidableEq

/-- What the adapter answers each call of one placement, what the database and the bus do,
and the clock.  `fillPrice` gives the answers of the attempts in turn. -/
structure Answers where
  instrumentInfo : Except ExchangeError InstrumentInfo
  leverage : Except ExchangeError Unit
  placed : Except ExchangeError OrderPlaceResult
  fillPrice : ℕ → Except ExchangeError (Option ℚ)
  slSet : Except ExchangeError Unit
  tpSet : Except ExchangeError Unit
  closed : Except ExchangeError OrderPlaceResult
  commits : Bool
  dlqPublishes : Bool
  slSetAt : ℕ
  closeAt : ℕ

/-- The tables, the calls made with whether the adapter returned, and the dead-letter queue. -/
structure World where
  db : Db
  calls : List (Call × Bool) := []
  dlq : List Envelope := []

def World.call {α : Type} (w : World) (call : Call) (answer : Except ExchangeError α) : World :=
  { w with calls := w.calls ++ [(call, answer.isOk)] }

/-- What leaves the handler as an exception. -/
inductive Raised where
  | exchange (error : ExchangeError)
  | quantize (error : QuantizeError)
  | fillPriceUnresolved (attempts : ℕ)
  deriving DecidableEq

/-- How the handler returns: the log entry it ends with, or the trade it opened. -/
inductive Finish where
  | getInstrumentInfoFailed
  | qtyValidationFailed
  | tpSizeBelowMinOrderQty
  | setLeverageFailed
  | placeMarketOrderUnknownState
  | placeMarketOrderQtyRejected
  | placeMarketOrderRejected
  | placeMarketOrderFailed
  | paperStopsSet
  | emergencyCloseUnknownState
  | emergencyClosePersistFailed
  | emergencyClosed
  | persistTxFailed
  | opened (tradeId : ℕ)
  deriving DecidableEq

/-- How a handler ends, and the world it leaves. -/
abbrev Handled := Except Raised Finish × World

/-! ## The stop, or the emergency close -/

/-- `emergency_close`: only an unknown state is caught. -/
def emergencyClose (p : Placed) (answers : Answers) (w : World) : Handled :=
  let w := w.call
    (.placeMarketOrder p.request.symbol p.request.side.opposite p.qty true) answers.closed
  match answers.closed with
  | .error (.unknownState _) => (.ok .emergencyCloseUnknownState, w)
  | .error error => (.error (.exchange error), w)
  | .ok close =>
      let written := transaction answers.commits
        (emergencyCloseTx p close.exchangeOrderId answers.closeAt) w.db
      (.ok (match written.1 with
          | .ok _ => .emergencyClosed
          | .error _ => .emergencyClosePersistFailed),
        { w with db := written.2 })

/-- The transaction of a placement; a failed one leaves an orphan. -/
def persistPlacement (p : Placed) (slPrice tpPrice notionalUsd : ℚ) (answers : Answers)
    (w : World) : Handled :=
  let written := transaction answers.commits
    (persistPlacementTx p slPrice tpPrice notionalUsd answers.slSetAt) w.db
  (.ok (match written.1 with
      | .ok (_, _, tradeId) => .opened tradeId
      | .error _ => .persistTxFailed),
    { w with db := written.2 })

/-- The call that sets a position's stop, for all of it. -/
def Placed.slCall (p : Placed) (slPrice : ℚ) : Call :=
  .setTradingStop p.request.symbol .Full (some slPrice) none none

/-- The call that sets the take-profit, for part of the position. -/
def Placed.tpCall (p : Placed) (tpPrice tpSize : ℚ) : Call :=
  .setTradingStop p.request.symbol .Partial none (some tpPrice) (some tpSize)

/-- `except (AuthError, OrderRejected, NetworkTimeout, RateLimitError)`. -/
def isRefusal : ExchangeError → Bool
  | .auth | .orderRejected _ | .networkTimeout | .rateLimit => true
  | .unknownState _ | .exchangeError _ | .other _ => false

/-- `except (AuthError, OrderRejected, NetworkTimeout, RateLimitError, UnknownState)`. -/
def isCaught : ExchangeError → Bool
  | .auth | .orderRejected _ | .networkTimeout | .rateLimit | .unknownState _ => true
  | .exchangeError _ | .other _ => false

/-- A refused take-profit leaves the position with its stop; another error leaves the handler. -/
def setTakeProfit (p : Placed) (slPrice tpPrice tpSize notionalUsd : ℚ) (answers : Answers)
    (w : World) : Handled :=
  let w := w.call (p.tpCall tpPrice tpSize) answers.tpSet
  match answers.tpSet with
  | .error error =>
      if isCaught error then persistPlacement p slPrice tpPrice notionalUsd answers w
      else (.error (.exchange error), w)
  | .ok _ => persistPlacement p slPrice tpPrice notionalUsd answers w

/-- A refused stop flattens the position; another error leaves the handler. -/
def setStops (p : Placed) (slPrice tpPrice tpSize notionalUsd : ℚ) (answers : Answers)
    (w : World) : Handled :=
  let w := w.call (p.slCall slPrice) answers.slSet
  match answers.slSet with
  | .error error =>
      if isCaught error then emergencyClose p answers w else (.error (.exchange error), w)
  | .ok _ => setTakeProfit p slPrice tpPrice tpSize notionalUsd answers w

/-- The paper fork: the paper adapter persists on its own, and what it raises leaves. -/
def setPaperStops (p : Placed) (slPrice tpPrice tpSize : ℚ) (answers : Answers)
    (w : World) : Handled :=
  let w := w.call (p.slCall slPrice) answers.slSet
  match answers.slSet with
  | .error error => (.error (.exchange error), w)
  | .ok _ =>
      let w := w.call (p.tpCall tpPrice tpSize) answers.tpSet
      match answers.tpSet with
      | .error error => (.error (.exchange error), w)
      | .ok _ => (.ok .paperStopsSet, w)

/-- The prices of an order whose fill price is known, and the stops. -/
def protect (p : Placed) (tick tpSize : ℚ) (answers : Answers) (w : World) : Handled :=
  match quantizePrice (computeSlPrice p.request.side p.fillPrice p.request.slPct)
    p.request.side tick with
  | .error error => (.error (.quantize error), w)
  | .ok slPrice =>
      match quantizePrice (computeTpPrice p.request.side p.fillPrice p.request.tpPct)
        p.request.side tick with
      | .error error => (.error (.quantize error), w)
      | .ok tpPrice =>
          if p.request.exchangeMode = .paper then setPaperStops p slPrice tpPrice tpSize answers w
          else
            setStops p slPrice tpPrice tpSize (computeNotionalUsd p.qty p.fillPrice) answers w

/-! ## The order -/

/-- The errors a retried or pre-trade call is expected to meet. -/
def isTransient : ExchangeError → Bool
  | .auth | .networkTimeout | .rateLimit => true
  | .orderRejected _ | .unknownState _ | .exchangeError _ | .other _ => false

/-- The retry loop over `get_fill_price`; `answers` are those of the attempts still to come. -/
def resolveFillPrice (call : Call) :
    ℕ → (ℕ → Except ExchangeError (Option ℚ)) → World → Except Raised (Option ℚ) × World
  | 0, _, w => (.ok none, w)
  | attempts + 1, answers, w =>
      let w := w.call call (answers 0)
      match answers 0 with
      | .ok (some price) => (.ok (some price), w)
      | .ok none => resolveFillPrice call attempts (fun attempt => answers (attempt + 1)) w
      | .error error =>
          if isTransient error then
            resolveFillPrice call attempts (fun attempt => answers (attempt + 1)) w
          else (.error (.exchange error), w)

/-- The settings of a bot's handler. -/
structure HandlerSettings where
  botId : String
  fillPriceRetryAttempts : ℕ

/-- What follows the loop: the stops, or the dead-letter queue for a request whose fill price
is unresolved. -/
def afterFillPrice (settings : HandlerSettings) (request : OrderRequest) (envelope : Envelope)
    (info : InstrumentInfo) (quantizedQty tpSize : ℚ) (placeResult : OrderPlaceResult)
    (answers : Answers) (fillPrice : Except Raised (Option ℚ)) (w : World) : Handled :=
  match fillPrice with
  | .error raised => (.error raised, w)
  | .ok none =>
      (.error (.fillPriceUnresolved settings.fillPriceRetryAttempts),
        { w with dlq := w.dlq ++ if answers.dlqPublishes then [envelope] else [] })
  | .ok (some fillPrice) =>
      protect
        { botId := settings.botId, request := request, envelope := envelope,
          placeResult := placeResult, fillPrice := fillPrice, qty := quantizedQty }
        info.tickSize tpSize answers w

/-- An accepted order. -/
def settleOrder (settings : HandlerSettings) (request : OrderRequest) (envelope : Envelope)
    (info : InstrumentInfo) (quantizedQty tpSize : ℚ) (placeResult : OrderPlaceResult)
    (answers : Answers) (w : World) : Handled :=
  let resolved := resolveFillPrice
    (.getFillPrice request.symbol placeResult.exchangeOrderId)
    settings.fillPriceRetryAttempts answers.fillPrice w
  afterFillPrice settings request envelope info quantizedQty tpSize placeResult answers
    resolved.1 resolved.2

/-- The log entry of a refused order; an error that is not caught leaves the handler. -/
def orderRefused : ExchangeError → Except Raised Finish
  | .unknownState _ => .ok .placeMarketOrderUnknownState
  | .orderRejected reason =>
      .ok (if reason.toLower.contains "precision" || reason.toLower.contains "qty" then
        .placeMarketOrderQtyRejected
      else .placeMarketOrderRejected)
  | .auth | .networkTimeout | .rateLimit => .ok .placeMarketOrderFailed
  | error => .error (.exchange error)

/-- The leverage and the market order. -/
def placeOrder (settings : HandlerSettings) (request : OrderRequest) (envelope : Envelope)
    (info : InstrumentInfo) (quantizedQty tpSize : ℚ) (answers : Answers) (w : World) : Handled :=
  let w := w.call (.setLeverage request.symbol request.leverage) answers.leverage
  match answers.leverage with
  | .error error =>
      if isRefusal error then (.ok .setLeverageFailed, w) else (.error (.exchange error), w)
  | .ok _ =>
      let w := w.call (.placeMarketOrder request.symbol request.side quantizedQty false)
        answers.placed
      match answers.placed with
      | .error error => (orderRefused error, w)
      | .ok placeResult =>
          settleOrder settings request envelope info quantizedQty tpSize placeResult answers w

/-- The handler of an order request, from the quantity on. -/
def handle (settings : HandlerSettings) (request : OrderRequest) (envelope : Envelope)
    (workingQty : ℚ) (answers : Answers) (w : World) : Handled :=
  let w := w.call (.getInstrumentInfo request.symbol) answers.instrumentInfo
  match answers.instrumentInfo with
  | .error error =>
      if isTransient error then (.ok .getInstrumentInfoFailed, w)
      else (.error (.exchange error), w)
  | .ok info =>
      match quantizeQty workingQty info with
      | .error (.belowMinOrderQty _ _) => (.ok .qtyValidationFailed, w)
      | .error error => (.error (.quantize error), w)
      | .ok quantizedQty =>
          match quantizeQty (computeTpSize quantizedQty request.tpQtyPct) info with
          | .error (.belowMinOrderQty _ _) => (.ok .tpSizeBelowMinOrderQty, w)
          | .error error => (.error (.quantize error), w)
          | .ok tpSize =>
              placeOrder settings request envelope info quantizedQty tpSize answers w

/-! ## Protected positions -/

/-- The call gives a position of the request its stop, or takes all of it off. -/
def Protects (request : OrderRequest) (qty : ℚ) (call : Call) : Prop :=
  (∃ slPrice, call = .setTradingStop request.symbol .Full (some slPrice) none none) ∨
    call = .placeMarketOrder request.symbol request.side.opposite qty true

/-- The exchange accepted a stop for the position, or a reduce-only order for all of it. -/
def Protected (request : OrderRequest) (qty : ℚ) (calls : List (Call × Bool)) : Prop :=
  ∃ call, Protects request qty call ∧ (call, true) ∈ calls

section Calls

variable {request : OrderRequest} {qty : ℚ} {w : World} {call : Call} {α : Type}
  {answer : Except ExchangeError α}

theorem protected_call (protects : Protects request qty call) :
    Protected request qty (w.call call answer).calls ↔
      Protected request qty w.calls ∨ answer.isOk = true := by
  constructor
  · rintro ⟨accepted, guards, member⟩
    rcases List.mem_append.mp member with before | now
    · exact .inl ⟨accepted, guards, before⟩
    · obtain ⟨_, isOk⟩ := Prod.ext_iff.mp (List.mem_singleton.mp now)
      exact .inr isOk.symm
  · rintro (⟨accepted, guards, before⟩ | isOk)
    · exact ⟨accepted, guards, List.mem_append_left _ before⟩
    · refine ⟨call, protects, List.mem_append_right _ ?_⟩
      rw [isOk]
      exact List.mem_singleton_self _

theorem protected_call_other (other : ¬ Protects request qty call) :
    Protected request qty (w.call call answer).calls ↔ Protected request qty w.calls := by
  constructor
  · rintro ⟨accepted, guards, member⟩
    rcases List.mem_append.mp member with before | now
    · exact ⟨accepted, guards, before⟩
    · obtain ⟨rfl, _⟩ := Prod.ext_iff.mp (List.mem_singleton.mp now)
      exact absurd guards other
  · rintro ⟨accepted, guards, before⟩
    exact ⟨accepted, guards, List.mem_append_left _ before⟩

end Calls

section Protection

variable {p : Placed} {answers : Answers} {w : World} {slPrice tpPrice tpSize notionalUsd : ℚ}

theorem emergencyClose_calls :
    (emergencyClose p answers w).2.calls = (w.call
      (.placeMarketOrder p.request.symbol p.request.side.opposite p.qty true)
      answers.closed).calls := by
  simp only [emergencyClose]
  repeat' split
  all_goals rfl

/-- The exchange accepted the stop, or refused it with an error that is caught and accepted the
close. -/
def Answers.Secures (answers : Answers) : Prop :=
  answers.slSet.isOk = true ∨
    (∃ error, answers.slSet = .error error ∧ isCaught error = true) ∧ answers.closed.isOk = true

theorem setTakeProfit_calls :
    (setTakeProfit p slPrice tpPrice tpSize notionalUsd answers w).2.calls =
      (w.call (p.tpCall tpPrice tpSize) answers.tpSet).calls := by
  simp only [setTakeProfit]
  repeat' split
  all_goals rfl

/-- The calls that set the stops, or close the position. -/
theorem setStops_calls :
    (setStops p slPrice tpPrice tpSize notionalUsd answers w).2.calls =
      match answers.slSet with
      | .ok _ => ((w.call (p.slCall slPrice) answers.slSet).call (p.tpCall tpPrice tpSize)
          answers.tpSet).calls
      | .error error =>
          if isCaught error then ((w.call (p.slCall slPrice) answers.slSet).call
            (.placeMarketOrder p.request.symbol p.request.side.opposite p.qty true)
            answers.closed).calls
          else (w.call (p.slCall slPrice) answers.slSet).calls := by
  cases answer : answers.slSet with
  | error error =>
      simp only [setStops, answer]
      split_ifs
      · exact emergencyClose_calls
      · rfl
  | ok _ =>
      simp only [setStops, answer]
      exact setTakeProfit_calls

theorem setStops_protected_iff :
    Protected p.request p.qty
        (setStops p slPrice tpPrice tpSize notionalUsd answers w).2.calls ↔
      Protected p.request p.qty w.calls ∨ answers.Secures := by
  have slProtects : Protects p.request p.qty (p.slCall slPrice) := .inl ⟨slPrice, rfl⟩
  have tpDoesNot : ¬ Protects p.request p.qty (p.tpCall tpPrice tpSize) := by
    simp [Protects, Placed.tpCall]
  rw [setStops_calls, Answers.Secures]
  split
  · next accepted =>
      rw [protected_call_other tpDoesNot, protected_call slProtects]
      simp [accepted, Except.isOk, Except.toBool]
  · next error refused =>
      split_ifs with caught
      · rw [protected_call (.inr rfl), protected_call slProtects]
        simp [refused, Except.isOk, Except.toBool, caught]
      · rw [protected_call slProtects]
        simp [refused, Except.isOk, Except.toBool, caught]

/-- An order with a fill price is protected exactly when its prices are on a grid and the stop
or the emergency close was accepted. -/
theorem protect_protected_iff (p : Placed) {tick : ℚ} (live : p.request.exchangeMode ≠ .paper) :
    Protected p.request p.qty (protect p tick tpSize answers w).2.calls ↔
      Protected p.request p.qty w.calls ∨
        0 < tick ∧ answers.Secures := by
  by_cases positive : 0 < tick
  · simp only [protect, quantizePrice_of_pos positive, if_neg live, setStops_protected_iff,
      positive, true_and]
  · simp only [protect, quantizePrice_of_nonpos (not_lt.mp positive), positive, false_and, or_false]

end Protection

/-! ## The fill price -/

/-- An attempt after which the loop goes on. -/
def IsUnresolved : Except ExchangeError (Option ℚ) → Prop
  | .ok none => True
  | .ok (some _) => False
  | .error error => isTransient error = true

/-- The fill price is resolved within the attempts: by the first that is not unresolved. -/
def FillPriceResolved (attempts : ℕ) (answers : ℕ → Except ExchangeError (Option ℚ)) : Prop :=
  ∃ attempt < attempts, (∃ price, answers attempt = .ok (some price)) ∧
    ∀ earlier < attempt, IsUnresolved (answers earlier)

section FillPrice

variable {call : Call}

/-- The first attempt either resolves it or leaves it to the rest. -/
theorem fillPriceResolved_succ {attempts : ℕ} {answers : ℕ → Except ExchangeError (Option ℚ)} :
    FillPriceResolved (attempts + 1) answers ↔ (∃ price, answers 0 = .ok (some price)) ∨
      IsUnresolved (answers 0) ∧
        FillPriceResolved attempts (fun attempt => answers (attempt + 1)) := by
  simp only [FillPriceResolved, Nat.exists_lt_succ_left, Nat.forall_lt_succ_left, not_lt_zero,
    IsEmpty.forall_iff, implies_true, and_true]
  refine or_congr_right ⟨?_, ?_⟩
  · rintro ⟨attempt, within, found, first, before⟩
    exact ⟨first, attempt, within, found, before⟩
  · rintro ⟨first, attempt, within, found, before⟩
    exact ⟨attempt, within, found, first, before⟩

/-- What one attempt does: an unresolved one leaves it to the rest, any other ends the loop. -/
theorem resolveFillPrice_succ (call : Call) (attempts : ℕ)
    (answers : ℕ → Except ExchangeError (Option ℚ)) (w : World) :
    (IsUnresolved (answers 0) ∧ resolveFillPrice call (attempts + 1) answers w =
        resolveFillPrice call attempts (fun attempt => answers (attempt + 1))
          (w.call call (answers 0))) ∨
      (∃ price, answers 0 = .ok (some price) ∧ resolveFillPrice call (attempts + 1) answers w =
        (.ok (some price), w.call call (answers 0))) ∨
      ∃ error, answers 0 = .error error ∧ isTransient error = false ∧
        resolveFillPrice call (attempts + 1) answers w =
          (.error (.exchange error), w.call call (answers 0)) := by
  simp only [resolveFillPrice]
  cases first : answers 0 with
  | ok found =>
      cases found with
      | none => exact .inl ⟨trivial, rfl⟩
      | some price => exact .inr (.inl ⟨price, rfl, rfl⟩)
  | error error =>
      cases transient : isTransient error with
      | true => exact .inl ⟨transient, by simp [transient]⟩
      | false => exact .inr (.inr ⟨error, rfl, transient, by simp [transient]⟩)

/-- The loop returns a price exactly when one is resolved within the attempts. -/
theorem resolveFillPrice_resolved_iff {attempts : ℕ} :
    ∀ {answers : ℕ → Except ExchangeError (Option ℚ)} {w : World},
      (∃ price, (resolveFillPrice call attempts answers w).1 = .ok (some price)) ↔
        FillPriceResolved attempts answers := by
  induction attempts with
  | zero => simp [resolveFillPrice, FillPriceResolved]
  | succ attempts ih =>
      intro answers w
      rw [fillPriceResolved_succ]
      rcases resolveFillPrice_succ call attempts answers w with
        ⟨unresolved, next⟩ | ⟨price, first, next⟩ | ⟨error, first, final, next⟩
      · rw [next, ih]
        have unpriced : ¬ ∃ price, answers 0 = .ok (some price) := by
          rintro ⟨price, first⟩
          rw [first] at unresolved
          exact unresolved
        simp [unresolved, unpriced]
      · simp [next, first]
      · simp [next, first, final, IsUnresolved]

/-- It returns none exactly when every attempt is unresolved. -/
theorem resolveFillPrice_none_iff {attempts : ℕ} :
    ∀ {answers : ℕ → Except ExchangeError (Option ℚ)} {w : World},
      (resolveFillPrice call attempts answers w).1 = .ok none ↔
        ∀ attempt < attempts, IsUnresolved (answers attempt) := by
  induction attempts with
  | zero => simp [resolveFillPrice]
  | succ attempts ih =>
      intro answers w
      rw [Nat.forall_lt_succ_left]
      rcases resolveFillPrice_succ call attempts answers w with
        ⟨unresolved, next⟩ | ⟨price, first, next⟩ | ⟨error, first, final, next⟩
      · rw [next, ih]
        simp [unresolved]
      · simp [next, first, IsUnresolved]
      · simp [next, first, final, IsUnresolved]

/-- The loop asks for the fill price and does nothing else. -/
theorem resolveFillPrice_world (call : Call) (attempts : ℕ) :
    ∀ (answers : ℕ → Except ExchangeError (Option ℚ)) (w : World),
      ∃ asked : List Bool, (resolveFillPrice call attempts answers w).2 =
        { w with calls := w.calls ++ asked.map (call, ·) } := by
  induction attempts with
  | zero => exact fun _ _ => ⟨[], by simp [resolveFillPrice]⟩
  | succ attempts ih =>
      intro answers w
      have askedOnce : ∃ asked : List Bool,
          w.call call (answers 0) = { w with calls := w.calls ++ asked.map (call, ·) } :=
        ⟨[(answers 0).isOk], by simp [World.call]⟩
      rcases resolveFillPrice_succ call attempts answers w with
        ⟨_, next⟩ | ⟨_, _, next⟩ | ⟨_, _, _, next⟩
      · obtain ⟨asked, after⟩ := ih (fun attempt => answers (attempt + 1))
          (w.call call (answers 0))
        refine ⟨(answers 0).isOk :: asked, ?_⟩
        rw [next, after]
        simp [World.call]
      · rw [next]
        exact askedOnce
      · rw [next]
        exact askedOnce

end FillPrice

section Settled

variable {settings : HandlerSettings} {request : OrderRequest} {envelope : Envelope}
  {info : InstrumentInfo} {qty tpSize : ℚ} {placeResult : OrderPlaceResult} {answers : Answers}
  {w : World}

theorem protected_asked {symbol exchangeOrderId : String} (asked : List Bool) :
    Protected request qty (w.calls ++ asked.map (Call.getFillPrice symbol exchangeOrderId, ·)) ↔
      Protected request qty w.calls := by
  constructor
  · rintro ⟨call, guards, member⟩
    rcases List.mem_append.mp member with before | now
    · exact ⟨call, guards, before⟩
    · obtain ⟨_, _, same⟩ := List.mem_map.mp now
      obtain ⟨rfl, _⟩ := Prod.ext_iff.mp same
      simp [Protects] at guards
  · rintro ⟨call, guards, before⟩
    exact ⟨call, guards, List.mem_append_left _ before⟩

theorem afterFillPrice_protected_iff (live : request.exchangeMode ≠ .paper)
    {fillPrice : Except Raised (Option ℚ)} :
    Protected request qty (afterFillPrice settings request envelope info qty tpSize placeResult
        answers fillPrice w).2.calls ↔
      Protected request qty w.calls ∨ (∃ price, fillPrice = .ok (some price)) ∧
        0 < info.tickSize ∧ answers.Secures := by
  cases fillPrice with
  | error raised => simp [afterFillPrice]
  | ok found =>
      cases found with
      | none => simp [afterFillPrice]
      | some price =>
          refine (protect_protected_iff
            ⟨settings.botId, request, envelope, placeResult, price, qty⟩ live).trans ?_
          simp

theorem settleOrder_protected_iff (live : request.exchangeMode ≠ .paper) :
    Protected request qty
        (settleOrder settings request envelope info qty tpSize placeResult answers w).2.calls ↔
      Protected request qty w.calls ∨
        FillPriceResolved settings.fillPriceRetryAttempts answers.fillPrice ∧ 0 < info.tickSize ∧
          answers.Secures := by
  obtain ⟨asked, after⟩ := resolveFillPrice_world
    (.getFillPrice request.symbol placeResult.exchangeOrderId) settings.fillPriceRetryAttempts
    answers.fillPrice w
  simp only [settleOrder]
  rw [afterFillPrice_protected_iff live, resolveFillPrice_resolved_iff, after, protected_asked]

/-- Without a fill price the request is put on the dead-letter queue. -/
theorem settleOrder_unresolved (unresolved : ∀ attempt < settings.fillPriceRetryAttempts,
      IsUnresolved (answers.fillPrice attempt)) :
    (settleOrder settings request envelope info qty tpSize placeResult answers w).1 =
        .error (.fillPriceUnresolved settings.fillPriceRetryAttempts) ∧
      (settleOrder settings request envelope info qty tpSize placeResult answers w).2.dlq =
        w.dlq ++ if answers.dlqPublishes then [envelope] else [] := by
  obtain ⟨asked, after⟩ := resolveFillPrice_world
    (.getFillPrice request.symbol placeResult.exchangeOrderId) settings.fillPriceRetryAttempts
    answers.fillPrice w
  simp only [settleOrder]
  rw [resolveFillPrice_none_iff.mpr unresolved, after]
  exact ⟨rfl, rfl⟩

end Settled

/-! ## What is called after the order -/

/-- The call opens a position. -/
def Call.opens : Call → Bool
  | .placeMarketOrder _ _ _ reduceOnly => !reduceOnly
  | .getInstrumentInfo _ | .setLeverage _ _ | .getFillPrice _ _ | .setTradingStop .. => false

/-- From `w` to `w'` no further position was opened. -/
def OpensNothing (w w' : World) : Prop :=
  ∀ made ∈ w'.calls, made.1.opens = true → made ∈ w.calls

section OpensNothing

variable {p : Placed} {answers : Answers} {w w' w'' : World}
  {slPrice tpPrice tpSize notionalUsd : ℚ}

theorem OpensNothing.of_calls (same : w'.calls = w.calls) : OpensNothing w w' :=
  fun _ member _ => same ▸ member

theorem OpensNothing.trans (first : OpensNothing w w') (second : OpensNothing w' w'') :
    OpensNothing w w'' :=
  fun made member opens => first made (second made member opens) opens

theorem opensNothing_call {α : Type} {call : Call} {answer : Except ExchangeError α}
    (other : call.opens = false) : OpensNothing w (w.call call answer) := by
  intro made member opens
  rcases List.mem_append.mp member with before | now
  · exact before
  · rw [List.mem_singleton.mp now, other] at opens
    exact absurd opens Bool.false_ne_true

theorem emergencyClose_opensNothing : OpensNothing w (emergencyClose p answers w).2 :=
  (opensNothing_call rfl).trans (.of_calls emergencyClose_calls)

theorem setStops_opensNothing :
    OpensNothing w (setStops p slPrice tpPrice tpSize notionalUsd answers w).2 := by
  have stop : OpensNothing w (w.call (p.slCall slPrice) answers.slSet) := opensNothing_call rfl
  simp only [setStops]
  split
  · split_ifs
    · exact stop.trans emergencyClose_opensNothing
    · exact stop
  · exact stop.trans ((opensNothing_call rfl).trans (.of_calls setTakeProfit_calls))

theorem setPaperStops_opensNothing :
    OpensNothing w (setPaperStops p slPrice tpPrice tpSize answers w).2 := by
  simp only [setPaperStops]
  cases answers.slSet with
  | error raised => exact opensNothing_call rfl
  | ok _ =>
      cases answers.tpSet with
      | error raised => exact (opensNothing_call rfl).trans (opensNothing_call rfl)
      | ok _ => exact (opensNothing_call rfl).trans (opensNothing_call rfl)

theorem protect_opensNothing {tick : ℚ} : OpensNothing w (protect p tick tpSize answers w).2 := by
  simp only [protect]
  split
  · exact .of_calls rfl
  · split
    · exact .of_calls rfl
    · split_ifs with paper
      · exact setPaperStops_opensNothing
      · exact setStops_opensNothing

theorem resolveFillPrice_opensNothing {call : Call} {attempts : ℕ}
    {fillPrices : ℕ → Except ExchangeError (Option ℚ)} (other : call.opens = false) :
    OpensNothing w (resolveFillPrice call attempts fillPrices w).2 := by
  obtain ⟨asked, after⟩ := resolveFillPrice_world call attempts fillPrices w
  rw [after]
  intro made member opens
  rcases List.mem_append.mp member with before | now
  · exact before
  · obtain ⟨_, _, rfl⟩ := List.mem_map.mp now
    rw [other] at opens
    exact absurd opens Bool.false_ne_true

theorem settleOrder_opensNothing {settings : HandlerSettings} {request : OrderRequest}
    {envelope : Envelope} {info : InstrumentInfo} {qty : ℚ} {placeResult : OrderPlaceResult} :
    OpensNothing w
      (settleOrder settings request envelope info qty tpSize placeResult answers w).2 := by
  have asking : OpensNothing w (resolveFillPrice
      (.getFillPrice request.symbol placeResult.exchangeOrderId)
      settings.fillPriceRetryAttempts answers.fillPrice w).2 := resolveFillPrice_opensNothing rfl
  refine asking.trans ?_
  simp only [settleOrder, afterFillPrice]
  split
  · exact .of_calls rfl
  · exact .of_calls rfl
  · exact protect_opensNothing

end OpensNothing

/-! ## What is written -/

/-- At most one transaction of the service. -/
inductive Writes (answers : Answers) (db : Db) : Db → Prop where
  | nothing : Writes answers db db
  | placed (p : Placed) (slPrice tpPrice notionalUsd : ℚ) : Writes answers db
      (step (.placed p slPrice tpPrice notionalUsd answers.slSetAt answers.commits) db)
  | emergencyClosed (p : Placed) (closeExchangeOrderId : String) : Writes answers db
      (step (.emergencyClosed p closeExchangeOrderId answers.closeAt answers.commits) db)

section Writes

variable {p : Placed} {answers : Answers} {db : Db} {w : World}
  {slPrice tpPrice tpSize notionalUsd : ℚ}

theorem emergencyClose_writes (same : w.db = db) :
    Writes answers db (emergencyClose p answers w).2.db := by
  subst same
  simp only [emergencyClose]
  split
  · exact .nothing
  · exact .nothing
  · exact .emergencyClosed p _

theorem persistPlacement_writes (same : w.db = db) :
    Writes answers db (persistPlacement p slPrice tpPrice notionalUsd answers w).2.db := by
  subst same
  exact .placed p slPrice tpPrice notionalUsd

theorem setTakeProfit_writes (same : w.db = db) :
    Writes answers db (setTakeProfit p slPrice tpPrice tpSize notionalUsd answers w).2.db := by
  simp only [setTakeProfit]
  split
  · split_ifs
    · exact persistPlacement_writes same
    · exact same ▸ .nothing
  · exact persistPlacement_writes same

theorem setStops_writes (same : w.db = db) :
    Writes answers db (setStops p slPrice tpPrice tpSize notionalUsd answers w).2.db := by
  simp only [setStops]
  split
  · split_ifs
    · exact emergencyClose_writes same
    · exact same ▸ .nothing
  · exact setTakeProfit_writes same

theorem setPaperStops_db : (setPaperStops p slPrice tpPrice tpSize answers w).2.db = w.db := by
  simp only [setPaperStops]
  repeat' split
  all_goals rfl

theorem protect_writes {tick : ℚ} (same : w.db = db) :
    Writes answers db (protect p tick tpSize answers w).2.db := by
  simp only [protect]
  split
  · exact same ▸ .nothing
  · split
    · exact same ▸ .nothing
    · split_ifs with paper
      · rw [setPaperStops_db, same]
        exact .nothing
      · exact setStops_writes same

theorem settleOrder_writes {settings : HandlerSettings} {request : OrderRequest}
    {envelope : Envelope} {info : InstrumentInfo} {qty : ℚ} {placeResult : OrderPlaceResult}
    (same : w.db = db) : Writes answers db
      (settleOrder settings request envelope info qty tpSize placeResult answers w).2.db := by
  obtain ⟨asked, after⟩ := resolveFillPrice_world
    (.getFillPrice request.symbol placeResult.exchangeOrderId) settings.fillPriceRetryAttempts
    answers.fillPrice w
  simp only [settleOrder, after, afterFillPrice]
  split
  · exact same ▸ .nothing
  · exact same ▸ .nothing
  · exact protect_writes same

end Writes

/-! ## The handler -/

section Handler

variable {settings : HandlerSettings} {request : OrderRequest} {envelope : Envelope}
  {workingQty qty : ℚ} {answers : Answers} {db : Db}

/-- Everything that precedes an accepted order, and what follows it. -/
theorem handle_of_accepted (accepted : (Call.placeMarketOrder request.symbol request.side qty false,
      true) ∈ (handle settings request envelope workingQty answers { db := db }).2.calls) :
    ∃ info tpSize placeResult, answers.instrumentInfo = .ok info ∧
      handle settings request envelope workingQty answers { db := db } =
        settleOrder settings request envelope info qty tpSize placeResult answers
          { db := db
            calls := [(.getInstrumentInfo request.symbol, true),
              (.setLeverage request.symbol request.leverage, true),
              (.placeMarketOrder request.symbol request.side qty false, true)] } := by
  cases known : answers.instrumentInfo with
  | error raised =>
      simp only [handle, known, World.call] at accepted
      split at accepted <;> simp at accepted
  | ok info =>
      cases rounded : quantizeQty workingQty info with
      | error raised =>
          simp only [handle, known, rounded, World.call] at accepted
          split at accepted <;> simp_all
      | ok quantizedQty =>
          cases part : quantizeQty (computeTpSize quantizedQty request.tpQtyPct) info with
          | error raised =>
              simp only [handle, known, rounded, part, World.call] at accepted
              split at accepted <;> simp_all
          | ok tpSize =>
              cases leveraged : answers.leverage with
              | error raised =>
                  simp only [handle, known, rounded, part, placeOrder, leveraged,
                    World.call] at accepted
                  split at accepted <;> simp_all
              | ok _ =>
                  cases placed : answers.placed with
                  | error raised =>
                      simp [handle, known, rounded, part, placeOrder, leveraged, placed, World.call,
                        Except.isOk, Except.toBool] at accepted
                  | ok placeResult =>
                      simp only [handle, known, rounded, part, placeOrder, leveraged, placed,
                        World.call, Except.isOk, Except.toBool, List.nil_append, List.cons_append]
                        at accepted ⊢
                      -- What follows opens nothing, so the accepted order is the one just placed.
                      have opened := settleOrder_opensNothing _ accepted rfl
                      have same : qty = quantizedQty := by simpa using opened
                      subst same
                      exact ⟨info, tpSize, placeResult, rfl, rfl⟩

/-- A position that was just opened is not protected by what led to it. -/
theorem not_protected_opening :
    ¬ Protected request qty [(.getInstrumentInfo request.symbol, true),
      (.setLeverage request.symbol request.leverage, true),
      (.placeMarketOrder request.symbol request.side qty false, true)] := by
  rintro ⟨call, guards, member⟩
  simp only [List.mem_cons, List.not_mem_nil, or_false, Prod.mk.injEq, and_true] at member
  rcases member with rfl | rfl | rfl
  · simp [Protects] at guards
  · simp [Protects] at guards
  · simp [Protects] at guards

/-- **When a live position is not left naked.** After the market order was accepted, a stop or
a reduce-only close of the full quantity was accepted exactly when the fill price was resolved
within the attempts, the tick is positive, and the stop was accepted, or was refused with an error
that is caught and the emergency close was accepted.  An order whose fill price stays unresolved is
reported on the dead-letter queue. -/
theorem handle_protected_iff (live : request.exchangeMode ≠ .paper)
    (accepted : (Call.placeMarketOrder request.symbol request.side qty false, true) ∈
      (handle settings request envelope workingQty answers { db := db }).2.calls) :
    (Protected request qty
        (handle settings request envelope workingQty answers { db := db }).2.calls ↔
      FillPriceResolved settings.fillPriceRetryAttempts answers.fillPrice ∧
        (∃ info, answers.instrumentInfo = .ok info ∧ 0 < info.tickSize) ∧ answers.Secures) ∧
      ((∀ attempt < settings.fillPriceRetryAttempts, IsUnresolved (answers.fillPrice attempt)) →
        (handle settings request envelope workingQty answers { db := db }).1 =
            .error (.fillPriceUnresolved settings.fillPriceRetryAttempts) ∧
          (handle settings request envelope workingQty answers { db := db }).2.dlq =
            if answers.dlqPublishes then [envelope] else []) := by
  obtain ⟨info, tpSize, placeResult, known, settled⟩ := handle_of_accepted accepted
  rw [settled]
  constructor
  · rw [settleOrder_protected_iff live]
    simp [not_protected_opening, known]
  · intro unresolved
    exact settleOrder_unresolved unresolved

/-- The handler commits at most one transaction of the service. -/
theorem handle_writes (w : World) :
    Writes answers w.db (handle settings request envelope workingQty answers w).2.db := by
  simp only [handle, placeOrder]
  repeat' split
  all_goals first
    | exact .nothing
    | exact settleOrder_writes rfl

end Handler

/-! ## The long of 10 -/

/-- The exchange fills the long, is slow to tell, refuses its stop and accepts the close. -/
def longAnswers : Answers where
  instrumentInfo := .ok ⟨"BTCUSDT", 1 / 1000, 1 / 1000, 1 / 10⟩
  leverage := .ok ()
  placed := .ok ⟨"open-1", 2⟩
  fillPrice
    | 0 => .error .networkTimeout
    | 1 => .ok none
    | _ => .ok (some 100)
  slSet := .error .rateLimit
  tpSet := .ok ()
  closed := .ok ⟨"close-1", 5⟩
  commits := true
  dlqPublishes := true
  slSetAt := 3
  closeAt := 4

theorem longAnswers_protected :
    Protected placedLong.request 10 (handle ⟨"bot", 12⟩ placedLong.request placedLong.envelope 10
      longAnswers { db := {} }).2.calls := by
  have resolved : FillPriceResolved 12 longAnswers.fillPrice := by
    refine ⟨2, by decide, ⟨100, rfl⟩, fun earlier before => ?_⟩
    match earlier, before with
    | 0, _ => exact rfl
    | 1, _ => trivial
  exact (handle_protected_iff (by decide) (by decide +kernel)).1.mpr
    ⟨resolved, ⟨_, rfl, by decide +kernel⟩, .inr ⟨⟨_, rfl, rfl⟩, rfl⟩⟩

/-- The exchange answers the stop with a code that the client does not map. -/
def unmapped : Answers :=
  { longAnswers with
    slSet := .error (.exchangeError "retCode=10002 retMsg=invalid request, recv_window") }

/-- The error of the stop leaves the handler, and the position has neither stop nor close. -/
theorem bareError_unprotected :
    ¬ ∀ (settings : HandlerSettings) (request : OrderRequest) (envelope : Envelope)
      (workingQty qty : ℚ) (answers : Answers) (db : Db), request.exchangeMode ≠ .paper →
      (Call.placeMarketOrder request.symbol request.side qty false, true) ∈
        (handle settings request envelope workingQty answers { db := db }).2.calls →
      Protected request qty
        (handle settings request envelope workingQty answers { db := db }).2.calls := by
  intro alwaysProtected
  have calls : (handle ⟨"bot", 12⟩ placedLong.request placedLong.envelope 10 unmapped
      { db := {} }).2.calls =
        [(.getInstrumentInfo "BTCUSDT", true), (.setLeverage "BTCUSDT" 5, true),
          (.placeMarketOrder "BTCUSDT" .buy 10 false, true),
          (.getFillPrice "BTCUSDT" "open-1", false), (.getFillPrice "BTCUSDT" "open-1", true),
          (.getFillPrice "BTCUSDT" "open-1", true),
          (.setTradingStop "BTCUSDT" .Full (some 98) none none, false)] := by decide +kernel
  obtain ⟨call, guards, member⟩ := alwaysProtected ⟨"bot", 12⟩ placedLong.request
    placedLong.envelope 10 10 unmapped {} (by decide) (by decide +kernel)
  rw [calls] at member
  simp only [List.mem_cons, List.not_mem_nil, or_false, Prod.mk.injEq, and_true,
    Bool.true_eq_false, and_false, or_false, false_or] at member
  rcases member with rfl | rfl | rfl | rfl | rfl <;> simp [Protects, placedLong] at guards

end Scalper.Execution
