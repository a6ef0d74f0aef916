import Scalper.Exchange.PrivateWs
import Scalper.Lib.AttemptEffects
import Scalper.Paper.TradingStop

/-!
# The REST client and its calls

`packages/exchange/bybit_v5/client.py` and `adapter.py`: an adapter call is one request, which the
client signs and sends, up to three times more for the calls that are marked idempotent, and never
again for a market order.  The client waits ten seconds for an answer, and signs with a time, from
which on the exchange takes the request for five seconds.  The exchange's clock may be behind: `skew`
is by how much.  Callers of one client, and of several, run at the same time.

The signature itself, the acquisition before a call and the length of the sleep between two attempts
are left out: an attempt may be sent at any time after the one before it was given up.
-/

set_option autoImplicit false

namespace Scalper.Exchange.Bybit

open Scalper.Lib Scalper.Exchange

/-! ## The client -/

/-- The methods the client uses. -/
inductive HttpMethod where
  | GET
  | POST
  | DELETE
  deriving DecidableEq, Repr

def HttpMethod.text : HttpMethod → String
  | .GET => "GET"
  | .POST => "POST"
  | .DELETE => "DELETE"

/-- The arguments of `BybitV5Client.request`. -/
structure Request where
  method : HttpMethod
  path : String
  params : Option Fields := none
  body : Option Fields := none
  retries : ℕ

/-- `_RECV_WINDOW_MS`. -/
def recvWindowMs : ℚ := 5000

/-- The default of `read_timeout`, in seconds. -/
def readTimeout : ℚ := 10

/-- `_RETCODE_RATE_LIMIT`. -/
def retcodeRateLimit : List ℤ := [10006, 10016]

/-- `_RETCODE_AUTH`. -/
def retcodeAuth : List ℤ := [10003, 10004]

/-- `_RETCODE_REJECT`. -/
def retcodeReject : List ℤ := [10001, 10005]

/-- `_RETCODE_BENIGN`. -/
def retcodeBenign : List ℤ := [110043]

/-- What leaves the client or the adapter as an exception. -/
inductive ClientError where
  | rateLimit (message : String)
  | auth (message : String)
  | orderRejected (reason : String)
  | networkTimeout (message : String)
  | unknownState (lastKnownAction : String)
  /-- `ExchangeError` itself. -/
  | exchangeError (message : String)
  /-- An error of the interpreter. -/
  | raised (error : Raised)
  /-- An error of the HTTP library that is not tried again, or a cancellation. -/
  | http
  deriving DecidableEq, Repr

/-- What the client reads of an HTTP response. -/
structure Response where
  status : ℕ
  text : String
  json : Loaded

/-- `_translate_retcode`. -/
def translateRetcode (retcode : ℤ) (retmsg : String) : ClientError :=
  let message := "retCode=" ++ toString retcode ++ " retMsg=" ++ retmsg
  if retcode ∈ retcodeRateLimit then .rateLimit message
  else if retcode ∈ retcodeAuth then .auth message
  else if retcode ∈ retcodeReject then .orderRejected retmsg
  else .exchangeError message

/-- `int(envelope.get("retCode", -1))`. -/
def retcodeOf (envelope : Fields) : Except Raised ℤ :=
  intOf ((envelope.lookup "retCode").getD (.int (-1)))

/-- `result if isinstance(result, dict) else {}`. -/
def resultOf (envelope : Fields) : Fields :=
  match envelope.lookup "result" with
  | some (.object result) => result
  | _ => []

/-- A return code that the client takes for success. -/
def succeeds (retcode : ℤ) : Bool := retcode = 0 ∨ retcode ∈ retcodeBenign

section Client

variable (repr : Json → String)

/-- The envelope of a response, from the return code on. -/
def readEnvelope (envelope : Fields) : Except ClientError Fields :=
  match retcodeOf envelope with
  | .error error => .error (.raised error)
  | .ok retcode =>
      if succeeds retcode then .ok (resultOf envelope)
      else
        .error (translateRetcode retcode
          (((envelope.lookup "retMsg").getD (.string "")).str repr))

/-- What a response with a status below 400 comes to. -/
def readBody (request : Request) : Loaded → Except ClientError Fields
  | .value (.object envelope) => readEnvelope repr envelope
  | .value _ => .error (.raised .attributeError)
  | .decodeError =>
      .error (.exchangeError
        ("malformed response body for " ++ request.method.text ++ " " ++ request.path))
  | .raised => .error (.raised .valueError)

/-- One turn of the loop in `_request_with_retry`: what it returns or raises, or `none` where it
sleeps and goes on. -/
def attemptTurn (request : Request) (attempt : ℕ) :
    SendResult Response → Option (Except ClientError Fields)
  | .response response =>
      let status := toString response.status
      if response.status = 401 ∨ response.status = 403 then
        some (.error (.auth ("HTTP " ++ status ++ ": auth failed")))
      else if response.status = 429 then some (.error (.rateLimit "HTTP 429: rate limit hit"))
      else if 500 ≤ response.status ∧ response.status < 600 then
        if request.retries + 1 ≤ attempt + 1 then
          some (.error (.networkTimeout
            (request.method.text ++ " " ++ request.path ++ " returned HTTP " ++ status ++
              " after " ++ toString (request.retries + 1) ++ " attempts")))
        else none
      else if 400 ≤ response.status then
        some (.error (.exchangeError
          ("HTTP " ++ status ++ ": " ++ (response.text.take 200).toString)))
      else some (readBody repr request response.json)
  | .brokeOff => some (.error .http)
  | _ =>
      if request.retries + 1 ≤ attempt + 1 then
        some (.error (.networkTimeout
          (request.method.text ++ " " ++ request.path ++ " timed out after " ++
            toString (request.retries + 1) ++ " attempts")))
      else none

end Client

/-! ## The calls of the adapter -/

/-- The groups that share a rate limit. -/
inductive EndpointGroup where
  | orders
  | positions
  | market
  deriving DecidableEq, Repr

/-- A call that comes to a request: a page of a paged one is a call of its own, and one that is
answered from a cache is none. -/
inductive AdapterCall where
  | setLeverage (symbol : String) (leverage : ℕ)
  | placeMarketOrder (symbol : String) (side : Side) (qty : ℚ) (reduceOnly : Bool)
  | setTradingStop (body : BybitV5.TradingStopBody)
  | cancelOrder (symbol orderId : String)
  | getPositions (symbol : Option String)
  | getFillPrice (symbol orderId : String)
  | getInstrumentInfo (symbol : String)
  | getClosedPnl (sinceMs : Option ℤ) (cursor : Option String)
  | getFundingFees (sinceMs : ℤ) (cursor : Option String)
  | getAccountBalance
  | getMarkPrice (symbol : String)
  deriving DecidableEq, Repr

/-- `_to_bybit_side`. -/
def toBybitSide : Side → String
  | .buy => "Buy"
  | .sell => "Sell"

def tpslText : TpslMode → String
  | .Full => "Full"
  | .Partial => "Partial"

/-- The first field of a request about a linear contract. -/
def categoryField : String × Json := ("category", .string "linear")

/-- A key that is added for a value that was given. -/
def optionalField {α : Type} (name : String) (write : α → Json) (value : Option α) : Fields :=
  value.toList.map fun value => (name, write value)

section Calls

variable (str : ℚ → String)

/-- The request of a call. -/
def AdapterCall.request : AdapterCall → Request
  | .setLeverage symbol leverage =>
      { method := .POST
        path := "/v5/position/set-leverage"
        body := some [categoryField, ("symbol", .string symbol),
          ("buyLeverage", .string (toString leverage)),
          ("sellLeverage", .string (toString leverage))]
        retries := 3 }
  | .placeMarketOrder symbol side qty reduceOnly =>
      { method := .POST
        path := "/v5/order/create"
        body := some [categoryField, ("symbol", .string symbol), ("side", .string (toBybitSide side)),
          ("orderType", .string "Market"), ("qty", .string (str qty)),
          ("reduceOnly", .bool reduceOnly)]
        retries := 0 }
  | .setTradingStop stop =>
      { method := .POST
        path := "/v5/position/trading-stop"
        body := some ([categoryField, ("symbol", .string stop.symbol),
          ("tpslMode", .string (tpslText stop.tpslMode))] ++
          optionalField "stopLoss" (fun price => .string (str price)) stop.stopLoss ++
          optionalField "takeProfit" (fun price => .string (str price)) stop.takeProfit ++
          optionalField "tpSize" (fun size => .string (str size)) stop.tpSize)
        retries := 3 }
  | .cancelOrder symbol orderId =>
      { method := .POST
        path := "/v5/order/cancel"
        body := some [categoryField, ("symbol", .string symbol), ("orderId", .string orderId)]
        retries := 3 }
  | .getPositions symbol =>
      { method := .GET
        path := "/v5/position/list"
        params := some [categoryField, symbol.elim ("settleCoin", .string "USDT") fun symbol =>
          ("symbol", .string symbol)]
        retries := 3 }
  | .getFillPrice symbol orderId =>
      { method := .GET
        path := "/v5/execution/list"
        params := some [categoryField, ("symbol", .string symbol), ("orderId", .string orderId),
          ("limit", .int 100)]
        retries := 3 }
  | .getInstrumentInfo symbol =>
      { method := .GET
        path := "/v5/market/instruments-info"
        params := some [categoryField, ("symbol", .string symbol)]
        retries := 3 }
  | .getClosedPnl sinceMs cursor =>
      { method := .GET
        path := "/v5/position/closed-pnl"
        params := some ([categoryField, ("limit", .int 200)] ++
          optionalField "startTime" .int sinceMs ++ optionalField "cursor" .string cursor)
        retries := 3 }
  | .getFundingFees sinceMs cursor =>
      { method := .GET
        path := "/v5/asset/transaction-log"
        params := some ([categoryField, ("type", .string "SETTLEMENT"), ("limit", .int 200),
          ("startTime", .int sinceMs)] ++ optionalField "cursor" .string cursor)
        retries := 3 }
  | .getAccountBalance =>
      { method := .GET
        path := "/v5/account/wallet-balance"
        params := some [("accountType", .string "UNIFIED")]
        retries := 3 }
  | .getMarkPrice symbol =>
      { method := .GET
        path := "/v5/market/tickers"
        params := some [categoryField, ("symbol", .string symbol)]
        retries := 3 }

end Calls

/-- The group whose tokens a call takes. -/
def AdapterCall.group : AdapterCall → EndpointGroup
  | .placeMarketOrder _ _ _ _ | .cancelOrder _ _ | .getFillPrice _ _ => .orders
  | .getInstrumentInfo _ | .getMarkPrice _ => .market
  | _ => .positions

/-- `@non_idempotent`. -/
def AdapterCall.nonIdempotent : AdapterCall → Bool
  | .placeMarketOrder _ _ _ _ => true
  | _ => false

/-- What a call returns: the order's id of `place_market_order`, and the result that the others
have. -/
inductive Reply where
  | order (exchangeOrderId : String)
  | result (fields : Fields)

/-- What a call comes to, and the group whose limit it has hit. -/
structure Outcome where
  answer : Except ClientError Reply
  rateLimitHit : Option EndpointGroup := none

/-- `OrderPlaceResult(exchange_order_id=str(result["orderId"]), ...)`. -/
def readOrder (repr : Json → String) (result : Fields) : Except ClientError Reply :=
  match required result "orderId" with
  | .ok orderId => .ok (.order (orderId.str repr))
  | .error error => .error (.raised error)

/-- What the adapter makes of what the client returned or raised. -/
def AdapterCall.finish (repr : Json → String) (call : AdapterCall) :
    Except ClientError Fields → Outcome
  | .error (.rateLimit message) => ⟨.error (.rateLimit message), some call.group⟩
  | .error (.networkTimeout message) =>
      if call.nonIdempotent then ⟨.error (.unknownState "place_market_order"), none⟩
      else ⟨.error (.networkTimeout message), none⟩
  | .error error => ⟨.error error, none⟩
  | .ok result =>
      if call.nonIdempotent then ⟨readOrder repr result, none⟩ else ⟨.ok (.result result), none⟩

/-- The client and its adapter, with a clock ahead of the exchange's by `skew` seconds. -/
def bybitClient (repr : Json → String) (str : ℚ → String) (skew : ℚ) :
    Retrying AdapterCall Response Outcome where
  window := recvWindowMs / 1000 + skew
  timeout := readTimeout
  turn call attempt result :=
    (attemptTurn repr (call.request str) attempt result).map (call.finish repr)

/-! ## The attempts of the calls -/

variable {repr : Json → String} {str : ℚ → String} {skew : ℚ}

variable (str) in
/-- The calls that are tried again are the idempotent ones. -/
theorem retries_pos_iff (call : AdapterCall) :
    0 < (call.request str).retries ↔ call.nonIdempotent = false := by
  cases call <;> simp [AdapterCall.request, AdapterCall.nonIdempotent]

theorem attemptTurn_isSome {request : Request} {attempt : ℕ} (last : request.retries ≤ attempt)
    (result : SendResult Response) : (attemptTurn repr request attempt result).isSome = true := by
  have upTo : request.retries + 1 ≤ attempt + 1 := Nat.succ_le_succ last
  cases result with
  | response response =>
      simp only [attemptTurn, if_pos upTo]
      split_ifs <;> rfl
  | _ => simp [attemptTurn, last]

variable (repr str skew) in
theorem bybitClient_ends :
    (bybitClient repr str skew).Ends fun call => (call.request str).retries := by
  intro call attempt result last
  rw [bybitClient, Option.isSome_map]
  exact attemptTurn_isSome last result

section Runs

variable {ι : Type*} [DecidableEq ι]

/-- The callers, from a time on. -/
abbrev calling (clock : ℚ) : Attempts ι AdapterCall Response Outcome := { clock := clock }

end Runs

end Scalper.Exchange.Bybit
