import Scalper.Exchange.BybitClient

/-!
# What a call of the adapter has done

The exchange answers truly: it returns a code of success only for a request that it performed, and
another code, or a status of 400 to 499, only for one that it did not.  A body that cannot be read,
or a status of 500 to 599, tells nothing.

A market order is sent once.  What `place_market_order` returns or raises tells the number of orders
placed exactly where it returns, or raises for the rate limit, the credentials or a rejection
(`market_order_known_iff`): an `UnknownState` leaves it open, and so does an `ExchangeError`, which is
also raised for a body that cannot be read, and an error of the connection, which leaves the adapter
as it is.

The other calls are sent up to four times.  Where what they ask for absorbs itself, the exchange is
as if each call had been performed once (`calls_take_effect_once`).
-/

set_option autoImplicit false

namespace Scalper.Exchange.Bybit

open Scalper.Lib Scalper.Exchange

/-- Whether a response tells that its request was performed, or that it was not. -/
def tells (response : Response) : Option Bool :=
  if 500 ≤ response.status ∧ response.status < 600 then none
  else if 400 ≤ response.status then some false
  else
    match response.json with
    | .value (.object envelope) => (retcodeOf envelope).toOption.map succeeds
    | _ => none

/-- How a call ends. -/
inductive Ending where
  | returned
  | rateLimit
  | auth
  | orderRejected
  | networkTimeout
  | unknownState
  | exchangeError
  | raised
  | http
  deriving DecidableEq, Repr

def ClientError.ending : ClientError → Ending
  | .rateLimit _ => .rateLimit
  | .auth _ => .auth
  | .orderRejected _ => .orderRejected
  | .networkTimeout _ => .networkTimeout
  | .unknownState _ => .unknownState
  | .exchangeError _ => .exchangeError
  | .raised _ => .raised
  | .http => .http

def Outcome.ending (outcome : Outcome) : Ending :=
  match outcome.answer with
  | .ok _ => .returned
  | .error error => error.ending

/-- The endings of a market order that leave open whether it was placed. -/
def Ending.leavesOpen : Ending → Bool
  | .unknownState | .exchangeError | .raised | .http => true
  | _ => false

section Turns

variable {repr : Json → String} {str : ℚ → String} {skew : ℚ}

/-- What a call comes to agrees with what its response tells. -/
def Agrees (told : Option Bool) : Except ClientError Fields → Prop
  | .ok _ => told = some true
  | .error error => error.ending.leavesOpen = false → told = some false

variable (repr) in
theorem agrees_readBody (request : Request) {response : Response}
    (low : ¬400 ≤ response.status) :
    Agrees (tells response) (readBody repr request response.json) := by
  have notFive : ¬(500 ≤ response.status ∧ response.status < 600) := by omega
  simp only [tells, if_neg notFive, if_neg low]
  cases response.json with
  | decodeError => exact fun closed => by cases closed
  | raised => exact fun closed => by cases closed
  | value parsed =>
      cases parsed with
      | object envelope =>
          simp only [readBody, readEnvelope]
          cases retcodeOf envelope with
          | error raised => exact fun closed => by cases closed
          | ok retcode =>
              cases good : succeeds retcode with
              | true => simp [Agrees, good, Except.toOption]
              | false => simp [Agrees, good, Except.toOption]
      | _ => exact fun closed => by cases closed

/-- A turn that returns is told of a request that was performed. -/
theorem tells_of_returned {request : Request} {attempt : ℕ} {result : SendResult Response}
    {fields : Fields} (turned : attemptTurn repr request attempt result = some (.ok fields)) :
    ∃ response, result = .response response ∧ tells response = some true := by
  cases result with
  | response response =>
      refine ⟨response, rfl, ?_⟩
      simp only [attemptTurn] at turned
      split_ifs at turned
      · cases turned
      · cases turned
      · cases turned
      · cases turned
      · next low =>
          have agrees := agrees_readBody repr request low
          rwa [Option.some.inj turned] at agrees
  | brokeOff => cases turned
  | unsent =>
      simp only [attemptTurn] at turned
      split_ifs at turned
      cases turned
  | timedOut =>
      simp only [attemptTurn] at turned
      split_ifs at turned
      cases turned

/-- A turn that raises an error that settles the matter is told of a request that was not
performed. -/
theorem tells_of_raised {request : Request} {attempt : ℕ} {result : SendResult Response}
    {error : ClientError} (turned : attemptTurn repr request attempt result = some (.error error))
    (closed : error.ending.leavesOpen = false) (inTime : error.ending ≠ .networkTimeout) :
    ∃ response, result = .response response ∧ tells response = some false := by
  cases result with
  | response response =>
      refine ⟨response, rfl, ?_⟩
      have refuses : 400 ≤ response.status → response.status < 500 →
          tells response = some false := by
        intro four less
        rw [tells, if_neg (by omega), if_pos four]
      simp only [attemptTurn] at turned
      split_ifs at turned
      · next status => exact refuses (by omega) (by omega)
      · next status => exact refuses (by omega) (by omega)
      · obtain rfl := Except.error.inj (Option.some.inj turned)
        exact absurd rfl inTime
      · obtain rfl := Except.error.inj (Option.some.inj turned)
        cases closed
      · next low =>
          have agrees := agrees_readBody repr request low
          rw [Option.some.inj turned] at agrees
          exact agrees closed
  | brokeOff =>
      obtain rfl := Except.error.inj (Option.some.inj turned)
      cases closed
  | unsent =>
      simp only [attemptTurn] at turned
      split_ifs at turned
      obtain rfl := Except.error.inj (Option.some.inj turned)
      exact absurd rfl inTime
  | timedOut =>
      simp only [attemptTurn] at turned
      split_ifs at turned
      obtain rfl := Except.error.inj (Option.some.inj turned)
      exact absurd rfl inTime

/-- A call that ends in a way that settles the matter was told whether its last request was
performed. -/
theorem tells_of_ending {call : AdapterCall} {attempt : ℕ} {result : SendResult Response}
    {outcome : Outcome}
    (turned : (bybitClient repr str skew).turn call attempt result = some outcome)
    (closed : outcome.ending.leavesOpen = false) (inTime : outcome.ending ≠ .networkTimeout) :
    ∃ response, result = .response response ∧
      tells response = some (outcome.ending = .returned : Bool) := by
  obtain ⟨answer, turn, rfl⟩ := Option.map_eq_some_iff.mp turned
  cases answer with
  | ok fields =>
      obtain ⟨response, heard, told⟩ := tells_of_returned turn
      refine ⟨response, heard, told.trans ?_⟩
      by_cases order : call.nonIdempotent = true
      · simp only [AdapterCall.finish, order, if_true] at closed ⊢
        unfold readOrder at closed ⊢
        split at closed
        · rfl
        · cases closed
      · simp [AdapterCall.finish, order, Outcome.ending]
  | error error =>
      have same : (call.finish repr (.error error)).ending ≠ .returned := by
        cases error <;> simp only [AdapterCall.finish] <;> (try split_ifs) <;>
          exact fun same => by cases same
      have kept : error.ending.leavesOpen = false ∧ error.ending ≠ .networkTimeout := by
        cases error with
        | networkTimeout message =>
            exfalso
            simp only [AdapterCall.finish] at closed inTime
            split_ifs at closed inTime
            · cases closed
            · exact inTime rfl
        | _ => exact ⟨closed, inTime⟩
      obtain ⟨response, heard, told⟩ := tells_of_raised turn kept.1 kept.2
      exact ⟨response, heard, told.trans (by simp [same])⟩

end Turns

section Runs

variable {ι : Type*} [DecidableEq ι]

/-- The orders that a run has placed for the current call of a caller. -/
def ordersPlaced (repr : Json → String) (str : ℚ → String) (skew clock : ℚ)
    (steps : List (AttemptsStep ι AdapterCall Response)) (i : ι) : ℕ :=
  let s := run (bybitClient repr str skew).step (calling clock) steps
  (s.performedOf i (s.calls i)).length

variable (str : ℚ → String) in
/-- A market order is not tried again. -/
theorem retries_eq_zero {call : AdapterCall} (once : call.nonIdempotent = true) :
    (call.request str).retries = 0 := by
  by_contra again
  have idempotent := (retries_pos_iff str call).mp (Nat.pos_of_ne_zero again)
  rw [once] at idempotent
  cases idempotent

/-- A market order ends so in a run with an exchange that answers truly. -/
structure EndsSo (repr : Json → String) (str : ℚ → String) (ending : Ending) (skew clock : ℚ)
    (steps : List (AttemptsStep ι AdapterCall Response)) (i : ι) : Prop where
  truthful : ∀ step ∈ steps, step.Truthful tells
  ended : ∃ symbol side qty reduceOnly outcome,
    (run (bybitClient repr str skew).step (calling clock) steps).phase i =
      .ended (.placeMarketOrder symbol side qty reduceOnly) outcome ∧ outcome.ending = ending

variable {repr : Json → String} {str : ℚ → String} {skew : ℚ}

/-- The number of orders where the ending settles it. -/
theorem EndsSo.ordersPlaced_eq {ending : Ending} {clock : ℚ}
    {steps : List (AttemptsStep ι AdapterCall Response)} {i : ι}
    (ends : EndsSo repr str ending skew clock steps i) (closed : ending.leavesOpen = false) :
    ordersPlaced repr str skew clock steps i = if ending = .returned then 1 else 0 := by
  obtain ⟨symbol, side, qty, reduceOnly, outcome, ended, rfl⟩ := ends.ended
  obtain ⟨f, member, caller, call, asked, result, turned, shows, told⟩ :=
    told_run clock ends.truthful ended
  have numbered : Numbered (run (bybitClient repr str skew).step (calling clock) steps) :=
    numbered_run clock steps
  have called := called_run (bybitClient_ends repr str skew) clock steps
  have single : ((f.request).request str).retries = 0 := by rw [asked]; rfl
  have counted := called.length_performedOf numbered member single
  rw [caller, call] at counted
  have inTime : outcome.ending ≠ .networkTimeout := by
    obtain ⟨answer, -, rfl⟩ := Option.map_eq_some_iff.mp turned
    cases answer with
    | ok fields =>
        simp only [AdapterCall.finish, AdapterCall.nonIdempotent, if_true, readOrder]
        split <;> exact fun same => by cases same
    | error error => cases error <;> exact fun same => by cases same
  obtain ⟨response, heard, tellsSo⟩ := tells_of_ending turned closed inTime
  have done := told response heard _ tellsSo
  by_cases returned : outcome.ending = .returned
  · rw [if_pos returned]
    exact counted.1 (done.mp (by simpa using returned))
  · rw [if_neg returned]
    exact counted.2 fun performed => returned (by simpa using done.mpr performed)

/-- A response with a body that is no JSON. -/
def garbled : Response := ⟨200, "", .decodeError⟩

/-- A response with a body that is no object. -/
def notObject : Response := ⟨200, "null", .value .null⟩

def oneOrder : AdapterCall := .placeMarketOrder "BTCUSDT" .buy 1 false

/-- A market order, and its answer on the way back. -/
def answeredBy (i : ι) (performs : Bool) (response : Response) :
    List (AttemptsStep ι AdapterCall Response) :=
  [.calls i oneOrder, .arrives 0 performs response]

def answered (i : ι) (performs : Bool) (response : Response) :
    Attempts ι AdapterCall Response Outcome where
  clock := 0
  calls := Function.update (fun _ => 0) i 1
  phase := Function.update (fun _ => .idle) i (.waiting ⟨0, i, 1, 0, oneOrder, 0⟩)
  sents := [⟨0, i, 1, 0, oneOrder, 0⟩]
  answer := Function.update (fun _ => none) 0 (some response)
  performed := if performs then [⟨0, i, 1, 0, oneOrder, 0⟩] else []

theorem run_answeredBy (i : ι) (performs : Bool) (response : Response) :
    run (bybitClient repr str 0).step (calling 0) (answeredBy i performs response) =
      answered i performs response := by
  have window : ¬(5000 / 1000 : ℚ) < 0 := by norm_num
  cases performs <;>
    simp [answeredBy, answered, bybitClient, Retrying.step, Attempts.begin, Attempts.send,
      Attempts.arrive, recvWindowMs, window]

/-- The end of an order that is answered so and on which its caller hears so. -/
theorem endsSo_answered {i : ι} {performs : Bool} (response : Response) {ending : Ending}
    (hears : List (AttemptsStep ι AdapterCall Response)) (outcome : Outcome)
    (silent : tells response = none) (truthful : ∀ step ∈ hears, step.Truthful tells)
    (heard : (run (bybitClient repr str 0).step (answered i performs response) hears).phase i =
      .ended oneOrder outcome) (so : outcome.ending = ending)
    (performed : (run (bybitClient repr str 0).step (answered i performs response) hears).performed =
      (answered i performs response : Attempts ι AdapterCall Response Outcome).performed)
    (calls : (run (bybitClient repr str 0).step (answered i performs response) hears).calls i = 1) :
    EndsSo repr str ending 0 0 (answeredBy i performs response ++ hears) i ∧
      ordersPlaced repr str 0 0 (answeredBy i performs response ++ hears) i =
        if performs then 1 else 0 := by
  refine ⟨⟨?_, "BTCUSDT", .buy, 1, false, outcome, ?_, so⟩, ?_⟩
  · intro step member
    rcases List.mem_append.mp member with first | later
    · simp only [answeredBy, List.mem_cons, List.not_mem_nil, or_false] at first
      rcases first with rfl | rfl
      · trivial
      · intro told tellsSo
        rw [silent] at tellsSo
        cases tellsSo
    · exact truthful step later
  · rw [run_append, run_answeredBy]
    exact heard
  · simp only [ordersPlaced, run_append, run_answeredBy, Attempts.performedOf, performed, calls]
    cases performs <;> simp [answered]

/-- Whether or not the order was placed, it may end so. -/
theorem exists_endsSo (repr : Json → String) (str : ℚ → String) (i : ι) {ending : Ending}
    (opens : ending.leavesOpen = true) (performs : Bool) :
    ∃ steps, EndsSo repr str ending 0 0 steps i ∧
      ordersPlaced repr str 0 0 steps i = if performs then 1 else 0 := by
  cases ending with
  | unknownState =>
      refine ⟨_, endsSo_answered garbled [.ticks 10, .timesOut i]
        ⟨.error (.unknownState "place_market_order"), none⟩ rfl ?_ ?_ rfl ?_ ?_⟩
      · simp [AttemptsStep.Truthful]
      · simp [answered, bybitClient, Retrying.step, Retrying.hear, Retrying.after, readTimeout,
          attemptTurn, oneOrder, AdapterCall.request, AdapterCall.finish, AdapterCall.nonIdempotent]
      · simp [answered, bybitClient, Retrying.step, Retrying.hear, readTimeout]
      · simp [answered, bybitClient, Retrying.step, Retrying.hear, readTimeout]
  | exchangeError =>
      refine ⟨_, endsSo_answered garbled [.receives i]
        ⟨.error (.exchangeError "malformed response body for POST /v5/order/create"), none⟩
        rfl ?_ ?_ rfl ?_ ?_⟩
      · simp [AttemptsStep.Truthful]
      · simp [answered, bybitClient, Retrying.step, Retrying.hear, Retrying.after, attemptTurn,
          garbled, readBody, oneOrder, AdapterCall.request, HttpMethod.text, AdapterCall.finish]
      · simp [answered, bybitClient, Retrying.step, Retrying.hear]
      · simp [answered, bybitClient, Retrying.step, Retrying.hear]
  | raised =>
      refine ⟨_, endsSo_answered notObject [.receives i]
        ⟨.error (.raised .attributeError), none⟩ rfl ?_ ?_ rfl ?_ ?_⟩
      · simp [AttemptsStep.Truthful]
      · simp [answered, bybitClient, Retrying.step, Retrying.hear, Retrying.after, attemptTurn,
          notObject, readBody, AdapterCall.finish]
      · simp [answered, bybitClient, Retrying.step, Retrying.hear]
      · simp [answered, bybitClient, Retrying.step, Retrying.hear]
  | http =>
      refine ⟨_, endsSo_answered garbled [.breaksOff i]
        ⟨.error .http, none⟩ rfl ?_ ?_ rfl ?_ ?_⟩
      · simp [AttemptsStep.Truthful]
      · simp [answered, bybitClient, Retrying.step, Retrying.hear, Retrying.after, attemptTurn,
          AdapterCall.finish]
      · simp [answered, bybitClient, Retrying.step, Retrying.hear]
      · simp [answered, bybitClient, Retrying.step, Retrying.hear]
  | _ => cases opens

/-- No call of `place_market_order` places more than one order, however far it has come. -/
theorem performedOf_marketOrder_le (clock : ℚ)
    (steps : List (AttemptsStep ι AdapterCall Response)) :
    let s := run (bybitClient repr str skew).step (calling clock) steps
    ∀ f ∈ s.sents, f.request.nonIdempotent = true →
      (s.performedOf f.caller f.call).length ≤ 1 := by
  intro s f member once
  have numbered : Numbered s := numbered_run clock steps
  have counted := (called_run (bybitClient_ends repr str skew) clock steps).length_performedOf
    numbered member (retries_eq_zero str once)
  by_cases performed : f ∈ s.performed
  · exact (counted.1 performed).le
  · exact (counted.2 performed).le.trans zero_le_one

/-- **What the ending of a market order tells.**  In every run no call of `place_market_order` places
more than one order, however it ends and while it is under way; and with an exchange that answers
truly the way it ends tells how many it placed exactly where it is not an `UnknownState`, an
`ExchangeError` or an error that the client does not handle. -/
theorem market_order_known_iff (repr : Json → String) (str : ℚ → String) (i : ι) (ending : Ending) :
    (∀ (skew clock : ℚ) (steps : List (AttemptsStep ι AdapterCall Response)),
        let s := run (bybitClient repr str skew).step (calling clock) steps
        ∀ f ∈ s.sents, f.request.nonIdempotent = true →
          (s.performedOf f.caller f.call).length ≤ 1) ∧
      ((∃ placed, placed ≤ 1 ∧
          ∀ (skew clock : ℚ) (steps : List (AttemptsStep ι AdapterCall Response)),
            EndsSo repr str ending skew clock steps i →
              ordersPlaced repr str skew clock steps i = placed) ↔
        ending.leavesOpen = false) := by
  refine ⟨fun skew clock steps => performedOf_marketOrder_le clock steps, ?_, fun closed => ?_⟩
  · rintro ⟨placed, -, known⟩
    by_contra opens
    obtain ⟨none, endsNone, zero⟩ := exists_endsSo repr str i (Bool.eq_true_of_not_eq_false opens)
      false
    obtain ⟨once, endsOnce, one⟩ := exists_endsSo repr str i (Bool.eq_true_of_not_eq_false opens)
      true
    have zero' := (known 0 0 none endsNone).symm.trans zero
    have one' := (known 0 0 once endsOnce).symm.trans one
    rw [zero'] at one'
    cases one'
  · exact ⟨if ending = .returned then 1 else 0, by split_ifs <;> simp,
      fun skew clock steps ends => ends.ordersPlaced_eq closed⟩

end Runs

/-! ## An account -/

/-- What the calls set on an account. -/
structure Account where
  leverage : String → ℕ
  stops : String → Paper.TradingStops
  orders : List (String × Side × ℚ × Bool)

def Account.perform : AdapterCall → Account → Account
  | .setLeverage symbol leverage, account =>
      { account with leverage := Function.update account.leverage symbol leverage }
  | .placeMarketOrder symbol side qty reduceOnly, account =>
      { account with orders := account.orders ++ [(symbol, side, qty, reduceOnly)] }
  | .setTradingStop body, account =>
      { account with
        stops := Function.update account.stops body.symbol
          ((account.stops body.symbol).update body) }
  | _, account => account

/-- A request absorbs itself if it may be repeated, and does not tell apart after a request what it
does not tell apart before. -/
theorem absorbs_of_repeated {σ : Type*} {perform : AdapterCall → σ → σ} {call : AdapterCall}
    (repeated : ∀ s, perform call (perform call s) = perform call s)
    (kept : ∀ (other : AdapterCall) (s t : σ), perform call s = perform call t →
      perform call (perform other s) = perform call (perform other t)) :
    Absorbs perform call := by
  have after : ∀ (between : List AdapterCall) (s t : σ), perform call s = perform call t →
      perform call (run perform s between) = perform call (run perform t between) := by
    intro between
    induction between with
    | nil => exact fun _ _ same => same
    | cons other between ih =>
        exact fun s t same => ih _ _ (kept other s t same)
  exact fun s between => after between _ _ (repeated s)

theorem update_update_self (body : BybitV5.TradingStopBody) (stops : Paper.TradingStops) :
    (stops.update body).update body = stops.update body := by
  simp only [Paper.TradingStops.update]
  cases body.stopLoss <;> cases body.takeProfit <;> cases body.tpSize <;> rfl

theorem update_after_update (body other : BybitV5.TradingStopBody)
    {stops stops' : Paper.TradingStops} (same : stops.update body = stops'.update body) :
    (stops.update other).update body = (stops'.update other).update body := by
  simp only [Paper.TradingStops.update, Paper.TradingStops.mk.injEq] at same ⊢
  obtain ⟨slPrice, tpPrice, tpSize, -, slType⟩ := same
  refine ⟨?_, ?_, ?_, trivial, slType⟩
  · cases stop : body.stopLoss with
    | none => rw [stop] at slPrice; simpa using congrArg other.stopLoss.or slPrice
    | some price => rfl
  · cases stop : body.takeProfit with
    | none => rw [stop] at tpPrice; simpa using congrArg other.takeProfit.or tpPrice
    | some price => rfl
  · cases stop : body.tpSize with
    | none => rw [stop] at tpSize; simpa using congrArg other.tpSize.or tpSize
    | some size => rfl

/-- Maps that a change at one key makes the same still are after a change elsewhere, and after one
at the key that the first covers. -/
theorem update_after_change {κ α : Type*} [DecidableEq κ] {k k' : κ} {f g : α → α} {m m' : κ → α}
    (covered : ∀ a a', f a = f a' → f (g a) = f (g a'))
    (same : Function.update m k (f (m k)) = Function.update m' k (f (m' k))) :
    let changed := Function.update m k' (g (m k'))
    let changed' := Function.update m' k' (g (m' k'))
    Function.update changed k (f (changed k)) = Function.update changed' k (f (changed' k)) := by
  dsimp only
  funext other
  have before := congrFun same other
  by_cases here : other = k
  · subst here
    rw [Function.update_self, Function.update_self] at before ⊢
    by_cases there : other = k'
    · subst there
      simpa using covered _ _ before
    · rw [Function.update_of_ne there, Function.update_of_ne there, before]
  · rw [Function.update_of_ne here, Function.update_of_ne here] at before ⊢
    by_cases there : other = k'
    · subst there
      rw [Function.update_self, Function.update_self, before]
    · rw [Function.update_of_ne there, Function.update_of_ne there, before]

/-- What the idempotent calls set on an account absorbs itself. -/
theorem Account.absorbs {call : AdapterCall} (idempotent : call.nonIdempotent = false) :
    Absorbs Account.perform call := by
  cases call with
  | placeMarketOrder symbol side qty reduceOnly => cases idempotent
  | setLeverage symbol leverage =>
      refine absorbs_of_repeated (fun s => by simp [Account.perform]) fun other s t same => ?_
      simp only [Account.perform, Account.mk.injEq] at same
      obtain ⟨leverages, stops, orders⟩ := same
      cases other with
      | setLeverage symbol' leverage' =>
          simp only [Account.perform, Account.mk.injEq]
          exact ⟨update_after_change (f := fun _ => leverage) (g := fun _ => leverage')
            (fun _ _ _ => rfl) leverages, stops, orders⟩
      | _ => simp only [Account.perform, leverages, stops, orders]
  | setTradingStop body =>
      refine absorbs_of_repeated (fun s => ?_) fun other s t same => ?_
      · simp [Account.perform, update_update_self]
      · simp only [Account.perform, Account.mk.injEq] at same
        obtain ⟨leverages, stops, orders⟩ := same
        cases other with
        | setTradingStop body' =>
            simp only [Account.perform, Account.mk.injEq]
            exact ⟨leverages, update_after_change
              (f := fun old : Paper.TradingStops => old.update body)
              (g := fun old => old.update body') (fun _ _ => update_after_update body body') stops,
              orders⟩
        | _ => simp only [Account.perform, leverages, stops, orders]
  | _ => exact fun _ _ => rfl

end Scalper.Exchange.Bybit
