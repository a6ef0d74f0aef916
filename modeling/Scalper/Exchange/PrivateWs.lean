import Scalper.Exchange.Types
import Scalper.Lib.Comprehension
import Scalper.Lib.Json
import Scalper.Lib.Loop
import Scalper.Lib.Numeral
import Mathlib.Data.Rat.Floor

/-!
# The private websocket

`packages/exchange/bybit_v5/ws.py`: the receive loop decodes a text frame, and `_on_frame` maps the
items of the execution and position topics and puts them on their queues.  Only the error of the
JSON decoder is caught around a frame, and only connection errors around the loop; everything else
that a frame makes the mapping raise ends the client.

`Harmless` says which frames the client survives with nothing lost and nothing made up
(`robust_iff`).  A frame that is not an object, or an item that lacks a field, ends the client, and
with it the items behind it are lost (`badNeighbour_ends_client`).

The decoder, the text `str` writes for a container, and the date of a number of milliseconds are
parameters.  What the exchange sends while the client is not connected is not among the frames.
-/

set_option autoImplicit false

namespace Scalper.Exchange.Bybit

open Scalper.Lib Scalper.Exchange

/-! ## Values of a frame -/

/-- What the handling of a frame raises. -/
inductive Raised where
  | attributeError
  | typeError
  | keyError
  | valueError
  | overflowError
  | invalidOperation
  | osError
  deriving DecidableEq, Repr

/-- `except (WebSocketException, OSError)`: the loop connects again. -/
def Raised.reconnects : Raised → Bool
  | .osError => true
  | _ => false

/-- The fields of an object. -/
abbrev Fields := List (String × Json)

/-- `fields[name]`. -/
def required (fields : Fields) (name : String) : Except Raised Json :=
  match fields.lookup name with
  | some value => .ok value
  | none => .error .keyError

/-- `fields.get(name) == text`. -/
def fieldIs (fields : Fields) (name text : String) : Bool :=
  ((fields.lookup name).map (Json.isText text)).getD false

/-- The integer part of a number, towards zero. -/
def truncate (x : ℚ) : ℤ := if 0 ≤ x then ⌊x⌋ else ⌈x⌉

/-- `int(value)`.  A float is read from its text, which may differ from its value beyond 2 ** 53;
no date is that late. -/
def intOf : Json → Except Raised ℤ
  | .int value => .ok value
  | .bool value => .ok (if value then 1 else 0)
  | .float text =>
      match parseDecimal text.toList with
      | some (.finite number) => .ok (truncate number.value)
      | some (.infinite _) => .error .overflowError
      | _ => .error .valueError
  | .string text =>
      match parseInt text.toList with
      | some value => .ok value
      | none => .error .valueError
  | _ => .error .typeError

/-- The items of `for item in data`. -/
def iterate : Json → Except Raised (List Json)
  | .array items => .ok items
  | .object fields => .ok (fields.map fun field => .string field.1)
  | .string text => .ok (text.toList.map fun char => .string (String.singleton char))
  | _ => .error .typeError

/-- `msg.get("data", [])`, as it is iterated. -/
def dataItems (msg : Fields) : Except Raised (List Json) :=
  match msg.lookup "data" with
  | some data => iterate data
  | none => .ok []

/-! ## The mappings -/

/-- An `ExecutionEvent` as it is streamed. -/
structure StreamedExecution where
  exchangeExecId : String
  exchangeOrderId : String
  symbol : String
  side : Side
  price : DecimalValue
  qty : DecimalValue
  fee : DecimalValue
  executedAt : ℤ
  deriving DecidableEq, Repr

/-- A `PositionEvent` as it is streamed. -/
structure StreamedPosition where
  symbol : String
  side : Option Side
  size : DecimalValue
  entryPrice : Option DecimalValue
  leverage : Option ℤ
  unrealizedPnl : Option DecimalValue
  occurredAt : ℤ
  deriving DecidableEq, Repr

section Mappings

variable (repr : Json → String) (fromTimestamp : ℤ → Except Raised ℤ)

/-- `Decimal(str(value))`. -/
def decimalOf (value : Json) : Except Raised DecimalValue :=
  match parseDecimal (value.str repr).toList with
  | some number => .ok number
  | none => .error .invalidOperation

/-- `int(str(value))`. -/
def intOfText (value : Json) : Except Raised ℤ :=
  match parseInt (value.str repr).toList with
  | some number => .ok number
  | none => .error .valueError

/-- `value in ("", None)`. -/
def isBlank : Json → Bool
  | .null => true
  | .string text => text == ""
  | _ => false

/-- `read(value) if value not in ("", None) else None`, of a field that may be absent. -/
def optional {α : Type} (read : Json → Except Raised α) (fields : Fields) (name : String) :
    Except Raised (Option α) :=
  match fields.lookup name with
  | none => .ok none
  | some value => if isBlank value then .ok none else (read value).map some

/-- `_map_execution_event`. -/
def mapExecutionEvent (item : Fields) : Except Raised StreamedExecution := do
  let sideRaw ← required item "side"
  let side := if sideRaw.isText "Buy" then Side.buy else Side.sell
  let execId ← required item "execId"
  let orderId ← required item "orderId"
  let symbol ← required item "symbol"
  let price ← required item "execPrice" >>= decimalOf repr
  let qty ← required item "execQty" >>= decimalOf repr
  let fee ← required item "execFee" >>= decimalOf repr
  let executedAt ← required item "execTime" >>= intOf >>= fromTimestamp
  return ⟨execId.str repr, orderId.str repr, symbol.str repr, side, price, qty, fee, executedAt⟩

/-- `_map_position_event`. -/
def mapPositionEvent (item : Fields) : Except Raised StreamedPosition := do
  let sideRaw ← required item "side"
  let side := if sideRaw.isText "Buy" then some Side.buy
    else if sideRaw.isText "Sell" then some Side.sell else none
  let entryPrice ← optional (decimalOf repr) item "avgPrice"
  let leverage ← optional (intOfText repr) item "leverage"
  let unrealizedPnl ← optional (decimalOf repr) item "unrealisedPnl"
  let symbol ← required item "symbol"
  let size ← required item "size" >>= decimalOf repr
  let occurredAt ← required item "updatedTime" >>= intOf >>= fromTimestamp
  return ⟨symbol.str repr, side, size, entryPrice, leverage, unrealizedPnl, occurredAt⟩

end Mappings

/-! ## The receive loop -/

/-- The client while `run` is under way: its queues, with the item each entry was mapped from, and
whether `run` has ended with an exception. -/
structure PrivateWs where
  executionQueue : List (Json × StreamedExecution) := []
  positionQueue : List (Json × StreamedPosition) := []
  terminated : Bool := false

/-- The body of a loop over the items of a topic. -/
def enqueue {ε : Type} (map : Fields → Except Raised ε) (item : Json) (queue : List (Json × ε)) :
    Except Raised Unit × List (Json × ε) :=
  match item with
  | .object fields =>
      if fieldIs fields "category" "linear" then
        match map fields with
        | .ok event => (.ok (), queue ++ [(item, event)])
        | .error raised => (.error raised, queue)
      else (.ok (), queue)
  | _ => (.error .attributeError, queue)

section Client

variable (loads : String → Loaded) (repr : Json → String) (fromTimestamp : ℤ → Except Raised ℤ)

/-- `_on_frame`. -/
def onFrame (msg : Json) (c : PrivateWs) : Except Raised Unit × PrivateWs :=
  match msg with
  | .object fields =>
      if fieldIs fields "topic" "execution" then
        match dataItems fields with
        | .ok items =>
            let (outcome, queue) :=
              forEach (enqueue (mapExecutionEvent repr fromTimestamp)) items c.executionQueue
            (outcome, { c with executionQueue := queue })
        | .error raised => (.error raised, c)
      else if fieldIs fields "topic" "position" then
        match dataItems fields with
        | .ok items =>
            let (outcome, queue) :=
              forEach (enqueue (mapPositionEvent repr fromTimestamp)) items c.positionQueue
            (outcome, { c with positionQueue := queue })
        | .error raised => (.error raised, c)
      else (.ok (), c)
  | _ => (.error .attributeError, c)

/-- One turn of `_receive_until_closed`, inside `_reconnect_loop`. -/
def receive (raw : String) (c : PrivateWs) : PrivateWs :=
  if c.terminated then c
  else
    match loads raw with
    | .decodeError => c
    | .raised => { c with terminated := true }
    | .value msg =>
        match onFrame repr fromTimestamp msg c with
        | (.ok (), c') => c'
        | (.error raised, c') =>
            if raised.reconnects then c' else { c' with terminated := true }

end Client

/-! ## What is well formed -/

section WellFormed

variable (loads : String → Loaded) (repr : Json → String) (fromTimestamp : ℤ → Except Raised ℤ)

/-- A field that is a text. -/
def textField (item : Fields) (name : String) : Option String :=
  match item.lookup name with
  | some (.string text) => some text
  | _ => none

/-- A field that is a finite decimal, as a text or as a number. -/
def amountField (item : Fields) (name : String) : Option DecimalValue :=
  match item.lookup name with
  | some (.string text) | some (.float text) =>
      (parseDecimal text.toList).filter DecimalValue.isFinite
  | some (.int value) => (parseDecimal (toString value).toList).filter DecimalValue.isFinite
  | _ => none

/-- A field that is a date in milliseconds, as a text or as an integer. -/
def dateField (item : Fields) (name : String) : Option ℤ :=
  match item.lookup name with
  | some (.string text) => (parseInt text.toList).bind fun ms => (fromTimestamp ms).toOption
  | some (.int ms) => (fromTimestamp ms).toOption
  | _ => none

def sideField (item : Fields) : Option Side :=
  if fieldIs item "side" "Buy" then some .buy
  else if fieldIs item "side" "Sell" then some .sell
  else none

/-- A well-formed linear execution item. -/
structure WellFormed (item : Fields) (event : StreamedExecution) : Prop where
  category : fieldIs item "category" "linear" = true
  execId : textField item "execId" = some event.exchangeExecId
  orderId : textField item "orderId" = some event.exchangeOrderId
  symbol : textField item "symbol" = some event.symbol
  side : sideField item = some event.side
  price : amountField item "execPrice" = some event.price
  qty : amountField item "execQty" = some event.qty
  fee : amountField item "execFee" = some event.fee
  date : dateField fromTimestamp item "execTime" = some event.executedAt

/-- The event of a well-formed item. -/
def eventOf (item : Fields) : Option StreamedExecution :=
  if fieldIs item "category" "linear" then do
    let execId ← textField item "execId"
    let orderId ← textField item "orderId"
    let symbol ← textField item "symbol"
    let side ← sideField item
    let price ← amountField item "execPrice"
    let qty ← amountField item "execQty"
    let fee ← amountField item "execFee"
    let executedAt ← dateField fromTimestamp item "execTime"
    return ⟨execId, orderId, symbol, side, price, qty, fee, executedAt⟩
  else none

/-- A well-formed item, with its event. -/
def wellFormedItem : Json → Option (Json × StreamedExecution)
  | .object item => (eventOf fromTimestamp item).map fun event => (.object item, event)
  | _ => none

/-- The well-formed linear execution items of a message, in order. -/
def messageItems : Json → List (Json × StreamedExecution)
  | .object msg =>
      if fieldIs msg "topic" "execution" then
        match msg.lookup "data" with
        | some (.array items) => items.filterMap (wellFormedItem fromTimestamp)
        | _ => []
      else []
  | _ => []

/-- The well-formed linear execution items of a frame, in order. -/
def wellFormedItems (raw : String) : List (Json × StreamedExecution) :=
  match loads raw with
  | .value msg => messageItems fromTimestamp msg
  | .decodeError | .raised => []

/-- **The client is robust** on a sequence of frames: it is not ended, and its queue holds exactly
the well-formed items of the frames, in order. -/
structure Robust (frames : List String) : Prop where
  running : (run (receive loads repr fromTimestamp) {} frames).terminated = false
  queued : (run (receive loads repr fromTimestamp) {} frames).executionQueue =
    frames.flatMap (wellFormedItems loads fromTimestamp)

end WellFormed

/-! ## Which frames are harmless -/

section Harmless

variable (loads : String → Loaded) (repr : Json → String) (fromTimestamp : ℤ → Except Raised ℤ)

/-- A field that is a decimal once it is written as text. -/
def Readable (item : Fields) (name : String) : Prop :=
  ∃ value, item.lookup name = some value ∧ (parseDecimal (value.str repr).toList).isSome

/-- A field that is absent, null or empty, or that `read` reads. -/
def ReadableIfGiven {α : Type} (read : Json → Except Raised α) (item : Fields) (name : String) :
    Prop :=
  ∀ value, item.lookup name = some value → isBlank value = false → (read value).isOk = true

/-- A field that is an integer, of which the platform makes `date`. -/
def Dated (item : Fields) (name : String) (date : Except Raised ℤ) : Prop :=
  ∃ value ms, item.lookup name = some value ∧ intOf value = .ok ms ∧ fromTimestamp ms = date

/-- The fields an execution item is mapped from are there and can be converted. -/
structure ExecutionReadable (item : Fields) (date : Except Raised ℤ) : Prop where
  side : (item.lookup "side").isSome
  execId : (item.lookup "execId").isSome
  orderId : (item.lookup "orderId").isSome
  symbol : (item.lookup "symbol").isSome
  price : Readable repr item "execPrice"
  qty : Readable repr item "execQty"
  fee : Readable repr item "execFee"
  dated : Dated fromTimestamp item "execTime" date

/-- The same for a position item. -/
structure PositionReadable (item : Fields) (date : Except Raised ℤ) : Prop where
  side : (item.lookup "side").isSome
  entryPrice : ReadableIfGiven (decimalOf repr) item "avgPrice"
  leverage : ReadableIfGiven (intOfText repr) item "leverage"
  unrealizedPnl : ReadableIfGiven (decimalOf repr) item "unrealisedPnl"
  symbol : (item.lookup "symbol").isSome
  size : Readable repr item "size"
  dated : Dated fromTimestamp item "updatedTime" date

/-- An object of another category. -/
def Ignored (item : Json) : Prop :=
  ∃ fields, item = .object fields ∧ fieldIs fields "category" "linear" = false

/-- An object of the linear category with a property. -/
def Linear (property : Fields → Prop) (item : Json) : Prop :=
  ∃ fields, item = .object fields ∧ fieldIs fields "category" "linear" = true ∧ property fields

/-- Every item is of another category or well formed, up to one whose date makes the platform fail
with an `OSError`, behind which no item is well formed. -/
def HarmlessExecutions : List Json → Prop
  | [] => True
  | item :: items =>
      (Ignored item ∧ HarmlessExecutions items) ∨
        ((wellFormedItem fromTimestamp item).isSome ∧ HarmlessExecutions items) ∨
        (Linear (fun fields => ExecutionReadable repr fromTimestamp fields (.error .osError)) item ∧
          ∀ later ∈ items, wellFormedItem fromTimestamp later = none)

/-- Every item is of another category or can be mapped, up to one whose date makes the platform
fail with an `OSError`. -/
def HarmlessPositions : List Json → Prop
  | [] => True
  | item :: items =>
      (Ignored item ∧ HarmlessPositions items) ∨
        (Linear (fun fields => ∃ date, PositionReadable repr fromTimestamp fields (.ok date)) item ∧
          HarmlessPositions items) ∨
        Linear (fun fields => PositionReadable repr fromTimestamp fields (.error .osError)) item

/-- An object, whose data can be iterated and is harmless if it is of one of the two topics. -/
def HarmlessMessage : Json → Prop
  | .object msg =>
      (fieldIs msg "topic" "execution" = true →
        ∃ items, dataItems msg = .ok items ∧ HarmlessExecutions repr fromTimestamp items) ∧
      (fieldIs msg "topic" "position" = true →
        ∃ items, dataItems msg = .ok items ∧ HarmlessPositions repr fromTimestamp items)
  | _ => False

/-- Not JSON, or a harmless message. -/
def Harmless (raw : String) : Prop :=
  loads raw = .decodeError ∨ ∃ msg, loads raw = .value msg ∧ HarmlessMessage repr fromTimestamp msg

end Harmless

/-! ## What a mapping raises -/

section Mapped

variable {repr : Json → String} {fromTimestamp : ℤ → Except Raised ℤ} {item : Fields}
  {name : String} {value : Json} {raised : Raised}

theorem required_ok_iff : required item name = .ok value ↔ item.lookup name = some value := by
  rw [required]
  cases item.lookup name <;> simp

theorem required_error_iff :
    required item name = .error raised ↔ item.lookup name = none ∧ raised = .keyError := by
  rw [required]
  cases item.lookup name <;> simp [eq_comm]

theorem decimalOf_ok_iff {number : DecimalValue} :
    decimalOf repr value = .ok number ↔ parseDecimal (value.str repr).toList = some number := by
  rw [decimalOf]
  cases parseDecimal (value.str repr).toList <;> simp

theorem decimalOf_error_iff :
    decimalOf repr value = .error raised ↔
      parseDecimal (value.str repr).toList = none ∧ raised = .invalidOperation := by
  rw [decimalOf]
  cases parseDecimal (value.str repr).toList <;> simp [eq_comm]

/-- Only the platform's dates fail with an `OSError`. -/
theorem intOf_ne_osError (value : Json) : intOf value ≠ .error .osError := by
  cases value with
  | null => simp [intOf]
  | bool value => simp [intOf]
  | int value => simp [intOf]
  | float text =>
      simp only [intOf]
      split <;> simp
  | string text =>
      simp only [intOf]
      split <;> simp
  | array items => simp [intOf]
  | object fields => simp [intOf]

theorem decimalOf_ne_osError (value : Json) : decimalOf repr value ≠ .error .osError := by
  simp [decimalOf_error_iff]

theorem intOfText_ne_osError (value : Json) : intOfText repr value ≠ .error .osError := by
  rw [intOfText]
  split <;> simp

/-- The mapping of an execution item fails with an `OSError` exactly at its date. -/
theorem mapExecutionEvent_osError_iff :
    mapExecutionEvent repr fromTimestamp item = .error .osError ↔
      ExecutionReadable repr fromTimestamp item (.error .osError) := by
  simp only [mapExecutionEvent, bind_eq_error_iff, bind_eq_ok_iff, required_ok_iff,
    required_error_iff, decimalOf_ok_iff, decimalOf_error_iff, intOf_ne_osError, reduceCtorEq,
    and_false, or_false, false_or, exists_false, pure, Except.pure]
  constructor
  · rintro ⟨_, side, _, execId, _, orderId, _, symbol, _, ⟨_, price, priced⟩, _, ⟨_, qty, counted⟩,
      _, ⟨_, fee, charged⟩, ms, ⟨_, time, read⟩, made⟩
    exact ⟨Option.isSome_of_eq_some side, Option.isSome_of_eq_some execId,
      Option.isSome_of_eq_some orderId, Option.isSome_of_eq_some symbol,
      ⟨_, price, Option.isSome_of_eq_some priced⟩, ⟨_, qty, Option.isSome_of_eq_some counted⟩,
      ⟨_, fee, Option.isSome_of_eq_some charged⟩, ⟨_, ms, time, read, made⟩⟩
  · intro readable
    obtain ⟨side, sideFound⟩ := Option.isSome_iff_exists.mp readable.side
    obtain ⟨execId, execIdFound⟩ := Option.isSome_iff_exists.mp readable.execId
    obtain ⟨orderId, orderIdFound⟩ := Option.isSome_iff_exists.mp readable.orderId
    obtain ⟨symbol, symbolFound⟩ := Option.isSome_iff_exists.mp readable.symbol
    obtain ⟨price, priceFound, priced⟩ := readable.price
    obtain ⟨qty, qtyFound, counted⟩ := readable.qty
    obtain ⟨fee, feeFound, charged⟩ := readable.fee
    obtain ⟨time, ms, timeFound, read, made⟩ := readable.dated
    obtain ⟨priceRead, priced⟩ := Option.isSome_iff_exists.mp priced
    obtain ⟨qtyRead, counted⟩ := Option.isSome_iff_exists.mp counted
    obtain ⟨feeRead, charged⟩ := Option.isSome_iff_exists.mp charged
    exact ⟨side, sideFound, execId, execIdFound, orderId, orderIdFound, symbol, symbolFound,
      priceRead, ⟨price, priceFound, priced⟩, qtyRead, ⟨qty, qtyFound, counted⟩, feeRead,
      ⟨fee, feeFound, charged⟩, ms, ⟨time, timeFound, read⟩, made⟩

section Optional

variable {α : Type} {read : Json → Except Raised α}

theorem optional_ok_iff :
    (∃ result, optional read item name = .ok result) ↔ ReadableIfGiven read item name := by
  simp only [optional, ReadableIfGiven]
  cases item.lookup name with
  | none => simp
  | some value =>
      cases blank : isBlank value with
      | true => simp [blank]
      | false =>
          cases outcome : read value <;>
            simp [blank, outcome, Except.map, Except.isOk, Except.toBool]

theorem optional_ne_osError (noOsError : ∀ value, read value ≠ .error .osError) :
    optional read item name ≠ .error .osError := by
  intro raises
  simp only [optional] at raises
  cases found : item.lookup name with
  | none => simp [found] at raises
  | some value =>
      simp only [found] at raises
      split_ifs at raises
      cases outcome : read value with
      | ok result => simp [outcome, Except.map] at raises
      | error raised =>
          rw [outcome] at raises
          cases raises
          exact noOsError value outcome

end Optional

/-- A position item is mapped exactly when its fields can be read. -/
theorem mapPositionEvent_ok_iff :
    (∃ event, mapPositionEvent repr fromTimestamp item = .ok event) ↔
      ∃ date, PositionReadable repr fromTimestamp item (.ok date) := by
  simp only [mapPositionEvent, bind_eq_ok_iff, required_ok_iff, decimalOf_ok_iff, pure, Except.pure]
  constructor
  · rintro ⟨_, _, side, _, entryPrice, _, leverage, _, unrealizedPnl, _, symbol, _,
      ⟨_, size, sized⟩, date, ⟨ms, ⟨_, time, read⟩, made⟩, _⟩
    exact ⟨date, Option.isSome_of_eq_some side, optional_ok_iff.mp ⟨_, entryPrice⟩,
      optional_ok_iff.mp ⟨_, leverage⟩, optional_ok_iff.mp ⟨_, unrealizedPnl⟩,
      Option.isSome_of_eq_some symbol, ⟨_, size, Option.isSome_of_eq_some sized⟩,
      ⟨_, ms, time, read, made⟩⟩
  · rintro ⟨date, readable⟩
    obtain ⟨side, sideFound⟩ := Option.isSome_iff_exists.mp readable.side
    obtain ⟨entryPrice, entryRead⟩ := optional_ok_iff.mpr readable.entryPrice
    obtain ⟨leverage, leverageRead⟩ := optional_ok_iff.mpr readable.leverage
    obtain ⟨unrealizedPnl, unrealizedRead⟩ := optional_ok_iff.mpr readable.unrealizedPnl
    obtain ⟨symbol, symbolFound⟩ := Option.isSome_iff_exists.mp readable.symbol
    obtain ⟨size, sizeFound, sized⟩ := readable.size
    obtain ⟨sizeRead, sized⟩ := Option.isSome_iff_exists.mp sized
    obtain ⟨time, ms, timeFound, read, made⟩ := readable.dated
    exact ⟨_, side, sideFound, entryPrice, entryRead, leverage, leverageRead, unrealizedPnl,
      unrealizedRead, symbol, symbolFound, sizeRead, ⟨size, sizeFound, sized⟩, date,
      ⟨ms, ⟨time, timeFound, read⟩, made⟩, rfl⟩

theorem mapPositionEvent_osError_iff :
    mapPositionEvent repr fromTimestamp item = .error .osError ↔
      PositionReadable repr fromTimestamp item (.error .osError) := by
  simp only [mapPositionEvent, bind_eq_error_iff, bind_eq_ok_iff, required_ok_iff,
    required_error_iff, decimalOf_ok_iff, decimalOf_error_iff, intOf_ne_osError,
    optional_ne_osError decimalOf_ne_osError, optional_ne_osError intOfText_ne_osError,
    reduceCtorEq, and_false, or_false, false_or, exists_false, pure, Except.pure]
  constructor
  · rintro ⟨_, side, _, entryPrice, _, leverage, _, unrealizedPnl, _, symbol, _,
      ⟨_, size, sized⟩, ms, ⟨_, time, read⟩, made⟩
    exact ⟨Option.isSome_of_eq_some side, optional_ok_iff.mp ⟨_, entryPrice⟩,
      optional_ok_iff.mp ⟨_, leverage⟩, optional_ok_iff.mp ⟨_, unrealizedPnl⟩,
      Option.isSome_of_eq_some symbol, ⟨_, size, Option.isSome_of_eq_some sized⟩,
      ⟨_, ms, time, read, made⟩⟩
  · intro readable
    obtain ⟨side, sideFound⟩ := Option.isSome_iff_exists.mp readable.side
    obtain ⟨entryPrice, entryRead⟩ := optional_ok_iff.mpr readable.entryPrice
    obtain ⟨leverage, leverageRead⟩ := optional_ok_iff.mpr readable.leverage
    obtain ⟨unrealizedPnl, unrealizedRead⟩ := optional_ok_iff.mpr readable.unrealizedPnl
    obtain ⟨symbol, symbolFound⟩ := Option.isSome_iff_exists.mp readable.symbol
    obtain ⟨size, sizeFound, sized⟩ := readable.size
    obtain ⟨sizeRead, sized⟩ := Option.isSome_iff_exists.mp sized
    obtain ⟨time, ms, timeFound, read, made⟩ := readable.dated
    exact ⟨side, sideFound, entryPrice, entryRead, leverage, leverageRead, unrealizedPnl,
      unrealizedRead, symbol, symbolFound, sizeRead, ⟨size, sizeFound, sized⟩, ms,
      ⟨time, timeFound, read⟩, made⟩

/-! ## A well-formed item is mapped to its event -/

theorem textField_eq_some_iff {text : String} :
    textField item name = some text ↔ item.lookup name = some (.string text) := by
  rw [textField]
  split
  · next found => simp [found]
  · next other => simpa using other text

theorem amountField_read {number : DecimalValue} (read : amountField item name = some number) :
    required item name >>= decimalOf repr = .ok number := by
  simp only [bind_eq_ok_iff, required_ok_iff, decimalOf_ok_iff]
  rw [amountField] at read
  split at read
  · next text found => exact ⟨_, found, (Option.filter_eq_some_iff.mp read).1⟩
  · next text found => exact ⟨_, found, (Option.filter_eq_some_iff.mp read).1⟩
  · next value found => exact ⟨_, found, (Option.filter_eq_some_iff.mp read).1⟩
  · cases read

theorem toOption_eq_some_iff {date : ℤ} {outcome : Except Raised ℤ} :
    outcome.toOption = some date ↔ outcome = .ok date := by
  cases outcome <;> simp [Except.toOption]

theorem dateField_read {date : ℤ} (read : dateField fromTimestamp item name = some date) :
    required item name >>= intOf >>= fromTimestamp = .ok date := by
  simp only [bind_eq_ok_iff, required_ok_iff]
  rw [dateField] at read
  split at read
  · next text found =>
      obtain ⟨ms, parsed, made⟩ := Option.bind_eq_some_iff.mp read
      exact ⟨ms, ⟨_, found, by rw [intOf, parsed]⟩, toOption_eq_some_iff.mp made⟩
  · next ms found => exact ⟨ms, ⟨_, found, rfl⟩, toOption_eq_some_iff.mp read⟩
  · cases read

theorem fieldIs_iff {text : String} :
    fieldIs item name text = true ↔ item.lookup name = some (.string text) := by
  rw [fieldIs]
  cases item.lookup name with
  | none => simp
  | some value => cases value <;> simp [Json.isText]

theorem sideField_read {side : Side} (read : sideField item = some side) :
    ∃ value, required item "side" = .ok value ∧
      (if value.isText "Buy" then Side.buy else Side.sell) = side := by
  simp only [required_ok_iff]
  rw [sideField] at read
  split_ifs at read with buys sells
  · cases read
    exact ⟨_, fieldIs_iff.mp buys, by simp [Json.isText]⟩
  · cases read
    exact ⟨_, fieldIs_iff.mp sells, by simp [Json.isText]⟩

theorem eventOf_eq_some_iff {event : StreamedExecution} :
    eventOf fromTimestamp item = some event ↔ WellFormed fromTimestamp item event := by
  simp only [eventOf, bind, Option.ite_none_right_eq_some, Option.bind_eq_some_iff]
  constructor
  · rintro ⟨category, execId, execIdRead, orderId, orderIdRead, symbol, symbolRead, side,
      sideRead, price, priceRead, qty, qtyRead, fee, feeRead, date, dateRead, ⟨⟩⟩
    exact ⟨category, execIdRead, orderIdRead, symbolRead, sideRead, priceRead, qtyRead, feeRead,
      dateRead⟩
  · intro wellFormed
    exact ⟨wellFormed.category, _, wellFormed.execId, _, wellFormed.orderId, _,
      wellFormed.symbol, _, wellFormed.side, _, wellFormed.price, _, wellFormed.qty, _,
      wellFormed.fee, _, wellFormed.date, rfl⟩

/-- **A well-formed item is mapped to its event.** -/
theorem WellFormed.mapped {event : StreamedExecution}
    (wellFormed : WellFormed fromTimestamp item event) :
    mapExecutionEvent repr fromTimestamp item = .ok event := by
  obtain ⟨value, side, ofSide⟩ := sideField_read wellFormed.side
  have execId := required_ok_iff.mpr (textField_eq_some_iff.mp wellFormed.execId)
  have orderId := required_ok_iff.mpr (textField_eq_some_iff.mp wellFormed.orderId)
  have symbol := required_ok_iff.mpr (textField_eq_some_iff.mp wellFormed.symbol)
  have price : required item "execPrice" >>= decimalOf repr = _ := amountField_read wellFormed.price
  have qty : required item "execQty" >>= decimalOf repr = _ := amountField_read wellFormed.qty
  have fee : required item "execFee" >>= decimalOf repr = _ := amountField_read wellFormed.fee
  have date := dateField_read wellFormed.date
  refine bind_eq_ok_iff.mpr ⟨_, side, bind_eq_ok_iff.mpr ⟨_, execId, bind_eq_ok_iff.mpr
    ⟨_, orderId, bind_eq_ok_iff.mpr ⟨_, symbol, bind_eq_ok_iff.mpr ⟨_, price, bind_eq_ok_iff.mpr
      ⟨_, qty, bind_eq_ok_iff.mpr ⟨_, fee, bind_eq_ok_iff.mpr ⟨_, date, ?_⟩⟩⟩⟩⟩⟩⟩⟩
  simp only [ofSide, Json.str, pure, Except.pure]

end Mapped

/-! ## The loops over the items -/

/-- The client goes on after the loop, if only by connecting again. -/
def Survives (outcome : Except Raised Unit) : Prop :=
  ∀ raised, outcome = .error raised → raised.reconnects = true

section Items

variable {repr : Json → String} {fromTimestamp : ℤ → Except Raised ℤ}

theorem survives_ok {returned : Unit} : Survives (.ok returned) := by
  intro raised impossible
  cases impossible

theorem survives_error_iff {raised : Raised} : Survives (.error raised) ↔ raised = .osError := by
  refine ⟨fun survives => ?_, ?_⟩
  · have reconnects := survives raised rfl
    cases raised <;> first | rfl | cases reconnects
  · rintro rfl raised same
    cases same
    rfl

theorem ignored_object {fields : Fields} :
    Ignored (.object fields) ↔ fieldIs fields "category" "linear" = false := by
  simp [Ignored]

theorem linear_object {fields : Fields} {property : Fields → Prop} :
    Linear property (.object fields) ↔
      fieldIs fields "category" "linear" = true ∧ property fields := by
  simp [Linear]

/-- What an item does to the queue of its topic. -/
theorem enqueue_cases {ε : Type} (map : Fields → Except Raised ε) (item : Json)
    (queue : List (Json × ε)) :
    (Ignored item ∧ enqueue map item queue = (.ok (), queue)) ∨
      (∃ fields event, item = .object fields ∧ fieldIs fields "category" "linear" = true ∧
        map fields = .ok event ∧ enqueue map item queue = (.ok (), queue ++ [(item, event)])) ∨
      (∃ fields raised, item = .object fields ∧ fieldIs fields "category" "linear" = true ∧
        map fields = .error raised ∧ enqueue map item queue = (.error raised, queue)) ∨
      ((∀ fields, item ≠ .object fields) ∧
        enqueue map item queue = (.error .attributeError, queue)) := by
  cases item with
  | object fields =>
      simp only [enqueue]
      cases linear : fieldIs fields "category" "linear" with
      | false => exact .inl ⟨⟨fields, rfl, linear⟩, rfl⟩
      | true =>
          cases outcome : map fields with
          | ok event => exact .inr (.inl ⟨fields, event, rfl, linear, outcome, rfl⟩)
          | error raised => exact .inr (.inr (.inl ⟨fields, raised, rfl, linear, outcome, rfl⟩))
  | null | bool | int | float | string | array =>
      exact .inr (.inr (.inr ⟨fun _ => Json.noConfusion, rfl⟩))

/-- A loop only adds to the queue. -/
theorem queue_prefix {ε : Type} (map : Fields → Except Raised ε) (items : List Json)
    (queue : List (Json × ε)) : queue <+: (forEach (enqueue map) items queue).2 := by
  refine forEach_invariant (fun later => queue <+: later) (fun item _ later before => ?_)
    List.prefix_rfl
  rcases enqueue_cases map item later with ⟨_, enqueued⟩ | ⟨_, _, _, _, _, enqueued⟩ |
    ⟨_, _, _, _, _, enqueued⟩ | ⟨_, enqueued⟩
  · rw [enqueued]
    exact before
  · rw [enqueued]
    exact before.trans (List.prefix_append _ _)
  · rw [enqueued]
    exact before
  · rw [enqueued]
    exact before

theorem wellFormedItem_eq_some_iff {item : Json} {entry : Json × StreamedExecution} :
    wellFormedItem fromTimestamp item = some entry ↔
      ∃ fields, item = .object fields ∧ WellFormed fromTimestamp fields entry.2 ∧
        entry.1 = item := by
  obtain ⟨source, event⟩ := entry
  cases item with
  | object fields =>
      simp only [wellFormedItem, Option.map_eq_some_iff, eventOf_eq_some_iff, Prod.mk.injEq,
        Json.object.injEq, exists_eq_left']
      constructor
      · rintro ⟨_, wellFormed, rfl, rfl⟩
        exact ⟨wellFormed, rfl⟩
      · rintro ⟨wellFormed, rfl⟩
        exact ⟨event, wellFormed, rfl, rfl⟩
  | null | bool | int | float | string | array => simp [wellFormedItem]

theorem wellFormedItem_linear {item : Json}
    (wellFormed : (wellFormedItem fromTimestamp item).isSome) :
    ∃ fields event, item = .object fields ∧ fieldIs fields "category" "linear" = true ∧
      (∀ repr, mapExecutionEvent repr fromTimestamp fields = .ok event) ∧
      wellFormedItem fromTimestamp item = some (item, event) := by
  obtain ⟨⟨source, event⟩, found⟩ := Option.isSome_iff_exists.mp wellFormed
  obtain ⟨fields, rfl, mapped, same⟩ := wellFormedItem_eq_some_iff.mp found
  obtain rfl : source = .object fields := same
  exact ⟨fields, event, rfl, mapped.category, fun _ => mapped.mapped, found⟩

theorem wellFormedItem_ignored {item : Json} (ignored : Ignored item) :
    wellFormedItem fromTimestamp item = none := by
  by_contra wellFormed
  obtain ⟨fields, _, rfl, linear, _⟩ :=
    wellFormedItem_linear (Option.isSome_iff_ne_none.mpr wellFormed)
  rw [ignored_object, linear] at ignored
  cases ignored

theorem harmlessExecutions_ignored {item : Json} {items : List Json} (ignored : Ignored item) :
    HarmlessExecutions repr fromTimestamp (item :: items) ↔
      HarmlessExecutions repr fromTimestamp items := by
  have unformed : wellFormedItem fromTimestamp item = none := wellFormedItem_ignored ignored
  obtain ⟨fields, rfl, other⟩ := ignored
  simp only [HarmlessExecutions, ignored_object, linear_object, other, unformed, true_and,
    Option.isSome_none, Bool.false_eq_true, false_and, or_false]

/-- An item that the code does not read. -/
theorem wellFormedItem_of_failed {fields : List (String × Json)} {raised : Raised}
    (failed : mapExecutionEvent repr fromTimestamp fields = .error raised) :
    wellFormedItem fromTimestamp (.object fields) = none := by
  by_contra wellFormed
  obtain ⟨_, event, ⟨⟩, _, mapped, _⟩ :=
    wellFormedItem_linear (Option.isSome_iff_ne_none.mpr wellFormed)
  cases failed.symm.trans (mapped repr)

/-- An item that the queue has where the well-formed ones are to be is one of them. -/
theorem wellFormed_of_queued {fields : List (String × Json)} {event : StreamedExecution}
    {items : List Json} {queue : List (Json × StreamedExecution)}
    (queued : (forEach (enqueue (mapExecutionEvent repr fromTimestamp)) items
        (queue ++ [(.object fields, event)])).2 =
      queue ++ (Json.object fields :: items).filterMap (wellFormedItem fromTimestamp)) :
    (wellFormedItem fromTimestamp (.object fields)).isSome := by
  have taken := queue_prefix (mapExecutionEvent repr fromTimestamp) items
    (queue ++ [(.object fields, event)])
  rw [queued] at taken
  have member : (Json.object fields, event) ∈
      (Json.object fields :: items).filterMap (wellFormedItem fromTimestamp) :=
    (List.prefix_append_right_inj queue |>.mp taken).subset List.mem_cons_self
  obtain ⟨source, _, found⟩ := List.mem_filterMap.mp member
  obtain ⟨_, _, _, same⟩ := wellFormedItem_eq_some_iff.mp found
  obtain rfl : Json.object fields = source := same
  rw [found]
  rfl

/-- **The items of an execution frame**: the loop survives them and takes exactly the well-formed
ones when they are harmless, and only then. -/
theorem executions_iff (items : List Json) (queue : List (Json × StreamedExecution)) :
    (Survives (forEach (enqueue (mapExecutionEvent repr fromTimestamp)) items queue).1 ∧
      (forEach (enqueue (mapExecutionEvent repr fromTimestamp)) items queue).2 =
        queue ++ items.filterMap (wellFormedItem fromTimestamp)) ↔
      HarmlessExecutions repr fromTimestamp items := by
  induction items generalizing queue with
  | nil => exact iff_of_true ⟨survives_ok, (List.append_nil queue).symm⟩ trivial
  | cons item items ih =>
      rcases enqueue_cases (mapExecutionEvent repr fromTimestamp) item queue with
        ⟨ignored, enqueued⟩ | ⟨fields, event, rfl, linear, mapped, enqueued⟩ |
          ⟨fields, raised, rfl, linear, failed, enqueued⟩ | ⟨notObject, enqueued⟩
      · rw [forEach_cons_of_ok (by rw [enqueued]), enqueued,
          List.filterMap_cons_none (wellFormedItem_ignored ignored), ih]
        exact (harmlessExecutions_ignored ignored).symm
      · rw [forEach_cons_of_ok (by rw [enqueued]), enqueued]
        dsimp only
        have noError : ¬ ExecutionReadable repr fromTimestamp fields (.error .osError) := by
          rw [← mapExecutionEvent_osError_iff, mapped]
          intro impossible
          cases impossible
        by_cases wellFormed : (wellFormedItem fromTimestamp (.object fields)).isSome
        · obtain ⟨_, event', ⟨⟩, _, mapped', found⟩ := wellFormedItem_linear wellFormed
          obtain rfl : event = event' := Except.ok.inj ((mapped).symm.trans (mapped' repr))
          rw [List.filterMap_cons_some found, List.append_cons queue _ (items.filterMap _),
            ih]
          simp only [HarmlessExecutions, ignored_object, linear_object, linear, wellFormed, noError,
            Bool.true_eq_false, false_and, and_false, or_false, false_or, true_and]
        · refine iff_of_false (fun ⟨_, queued⟩ => wellFormed (wellFormed_of_queued queued)) ?_
          simp only [HarmlessExecutions, ignored_object, linear_object, linear, wellFormed,
            noError, Bool.true_eq_false, Bool.false_eq_true, false_and, and_false, or_false,
            not_false_eq_true]
      · have unformed := wellFormedItem_of_failed failed
        rw [forEach_cons_of_error (by rw [enqueued]), enqueued, survives_error_iff,
          List.filterMap_cons_none unformed]
        simp only [HarmlessExecutions, ignored_object, linear_object, linear, unformed,
          Bool.true_eq_false, Option.isSome_none, Bool.false_eq_true, false_and, false_or, true_and,
          ← mapExecutionEvent_osError_iff, failed, Except.error.injEq, List.self_eq_append_right,
          List.filterMap_eq_nil_iff]
      · rw [forEach_cons_of_error (by rw [enqueued]), enqueued, survives_error_iff]
        refine iff_of_false (fun ⟨impossible, _⟩ => by cases impossible) ?_
        rintro (⟨⟨_, same, _⟩, _⟩ | ⟨wellFormed, _⟩ | ⟨⟨_, same, _⟩, _⟩)
        · exact notObject _ same
        · obtain ⟨_, _, same, _⟩ := wellFormedItem_linear wellFormed
          exact notObject _ same
        · exact notObject _ same

/-- **The items of a position frame**: the loop survives them when they are harmless, and only
then. -/
theorem positions_iff (items : List Json) (queue : List (Json × StreamedPosition)) :
    Survives (forEach (enqueue (mapPositionEvent repr fromTimestamp)) items queue).1 ↔
      HarmlessPositions repr fromTimestamp items := by
  induction items generalizing queue with
  | nil => exact iff_of_true survives_ok trivial
  | cons item items ih =>
      rcases enqueue_cases (mapPositionEvent repr fromTimestamp) item queue with
        ⟨⟨fields, rfl, other⟩, enqueued⟩ | ⟨fields, event, rfl, linear, mapped, enqueued⟩ |
          ⟨fields, raised, rfl, linear, failed, enqueued⟩ | ⟨notObject, enqueued⟩
      · rw [forEach_cons_of_ok (by rw [enqueued]), ih]
        simp only [HarmlessPositions, ignored_object, linear_object, other, true_and,
          Bool.false_eq_true, false_and, or_false]
      · rw [forEach_cons_of_ok (by rw [enqueued]), ih]
        simp only [HarmlessPositions, ignored_object, linear_object, linear, true_and,
          Bool.true_eq_false, false_and, false_or, ← mapPositionEvent_ok_iff,
          ← mapPositionEvent_osError_iff, mapped, Except.ok.injEq, exists_eq', reduceCtorEq,
          or_false]
      · rw [forEach_cons_of_error (by rw [enqueued]), enqueued, survives_error_iff]
        simp only [HarmlessPositions, ignored_object, linear_object, linear, true_and,
          Bool.true_eq_false, false_and, false_or, ← mapPositionEvent_ok_iff,
          ← mapPositionEvent_osError_iff, failed, reduceCtorEq, exists_false, Except.error.injEq]
      · rw [forEach_cons_of_error (by rw [enqueued]), enqueued, survives_error_iff]
        refine iff_of_false (fun impossible => by cases impossible) ?_
        rintro (⟨⟨_, same, _⟩, _⟩ | ⟨⟨_, same, _⟩, _⟩ | ⟨_, same, _⟩)
        · exact notObject _ same
        · exact notObject _ same
        · exact notObject _ same

/-- What is well formed among the items that are iterated. -/
theorem messageItems_of_dataItems {msg : Fields} {items : List Json}
    (ofExecution : fieldIs msg "topic" "execution" = true) (iterated : dataItems msg = .ok items) :
    messageItems fromTimestamp (.object msg) = items.filterMap (wellFormedItem fromTimestamp) := by
  have unformed : ∀ texts : List String,
      (texts.map Json.string).filterMap (wellFormedItem fromTimestamp) = [] := by
    intro texts
    refine List.filterMap_eq_nil_iff.mpr fun item member => ?_
    obtain ⟨text, _, rfl⟩ := List.mem_map.mp member
    rfl
  rw [dataItems] at iterated
  simp only [messageItems, ofExecution, if_true]
  cases data : msg.lookup "data" with
  | none =>
      rw [data] at iterated
      cases iterated
      rfl
  | some value =>
      rw [data] at iterated
      cases value with
      | array given =>
          cases iterated
          rfl
      | object fields =>
          cases iterated
          rw [← unformed (fields.map Prod.fst), List.map_map]
          rfl
      | string text =>
          cases iterated
          rw [← unformed (text.toList.map String.singleton), List.map_map]
          rfl
      | null | bool | int | float => cases iterated

theorem dataItems_error {msg : Fields} {raised : Raised} (failed : dataItems msg = .error raised) :
    raised = .typeError := by
  rw [dataItems] at failed
  cases data : msg.lookup "data" with
  | none =>
      rw [data] at failed
      cases failed
  | some value =>
      rw [data] at failed
      cases value with
      | array | object | string => cases failed
      | null | bool | int | float =>
          cases failed
          rfl

variable (repr fromTimestamp) in
/-- **A message** is survived, with exactly its well-formed items taken, when it is harmless, and
only then. -/
theorem onFrame_iff (msg : Json) (c : PrivateWs) :
    (Survives (onFrame repr fromTimestamp msg c).1 ∧
      (onFrame repr fromTimestamp msg c).2.executionQueue =
        c.executionQueue ++ messageItems fromTimestamp msg) ↔
      HarmlessMessage repr fromTimestamp msg := by
  cases msg with
  | object fields =>
      have oneTopic : fieldIs fields "topic" "execution" = true →
          fieldIs fields "topic" "position" = false := by
        intro ofExecution
        by_contra ofPosition
        rw [Bool.not_eq_false, fieldIs_iff, fieldIs_iff.mp ofExecution] at ofPosition
        simp at ofPosition
      have refused : ∀ raised, dataItems fields = .error raised → ¬ Survives (.error raised) := by
        intro raised failed survives
        cases (dataItems_error failed).symm.trans (survives_error_iff.mp survives)
      cases ofExecution : fieldIs fields "topic" "execution" with
      | true =>
          cases iterated : dataItems fields with
          | ok items =>
              simp only [onFrame, HarmlessMessage, ofExecution, oneTopic ofExecution, iterated,
                if_true, messageItems_of_dataItems ofExecution iterated, executions_iff,
                forall_const, Except.ok.injEq, exists_eq_left', Bool.false_eq_true, false_implies,
                and_true]
          | error raised =>
              simp only [onFrame, HarmlessMessage, ofExecution, iterated, if_true,
                refused raised iterated, false_and, forall_const, reduceCtorEq, exists_false]
      | false =>
          have noItems : messageItems fromTimestamp (.object fields) = [] := by
            simp [messageItems, ofExecution]
          cases ofPosition : fieldIs fields "topic" "position" with
          | true =>
              cases iterated : dataItems fields with
              | ok items =>
                  simp only [onFrame, HarmlessMessage, ofExecution, ofPosition, iterated, noItems,
                    Bool.false_eq_true, if_false, if_true, positions_iff, List.append_nil, and_true,
                    forall_const, Except.ok.injEq, exists_eq_left', false_implies, true_and]
              | error raised =>
                  simp only [onFrame, HarmlessMessage, ofExecution, ofPosition, iterated,
                    Bool.false_eq_true, if_false, if_true, refused raised iterated, false_and,
                    forall_const, reduceCtorEq, exists_false, and_false]
          | false =>
              simp only [onFrame, HarmlessMessage, ofExecution, ofPosition, noItems,
                Bool.false_eq_true, if_false, survives_ok, List.append_nil, and_true,
                false_implies]
  | null | bool | int | float | string | array =>
      refine iff_of_false (fun ⟨survives, _⟩ => ?_) id
      cases survives_error_iff.mp survives

variable (repr fromTimestamp) in
theorem onFrame_terminated (msg : Json) (c : PrivateWs) :
    (onFrame repr fromTimestamp msg c).2.terminated = c.terminated := by
  cases msg with
  | object fields =>
      simp only [onFrame]
      split_ifs
      · split <;> rfl
      · split <;> rfl
      · rfl
  | null | bool | int | float | string | array => rfl

end Items

/-! ## Every sequence of frames -/

section Frames

variable {loads : String → Loaded} {repr : Json → String} {fromTimestamp : ℤ → Except Raised ℤ}

/-- **A frame** leaves the client running, with exactly its well-formed items taken, when it is
harmless, and only then. -/
theorem receive_iff (raw : String) {c : PrivateWs} (running : c.terminated = false) :
    ((receive loads repr fromTimestamp raw c).terminated = false ∧
      (receive loads repr fromTimestamp raw c).executionQueue =
        c.executionQueue ++ wellFormedItems loads fromTimestamp raw) ↔
      Harmless loads repr fromTimestamp raw := by
  cases loaded : loads raw with
  | decodeError =>
      simp only [receive, running, wellFormedItems, loaded, Harmless]
      simp [running]
  | raised =>
      simp only [receive, running, wellFormedItems, loaded, Harmless]
      simp
  | value msg =>
      have harmless : Harmless loads repr fromTimestamp raw ↔
          HarmlessMessage repr fromTimestamp msg := by
        simp [Harmless, loaded]
      rw [harmless, ← onFrame_iff repr fromTimestamp msg c]
      have same := onFrame_terminated repr fromTimestamp msg c
      simp only [receive, running, wellFormedItems, loaded, Bool.false_eq_true, if_false]
      rcases handled : onFrame repr fromTimestamp msg c with ⟨raised | returned, after⟩
      · have kept : after.terminated = false := by
          rw [handled] at same
          exact same.trans running
        cases reconnects : raised.reconnects with
        | true =>
            have survives : Survives (.error raised) := by
              rintro _ ⟨⟩
              exact reconnects
            simp only [reconnects, if_true, kept, survives]
        | false =>
            have ended : ¬ Survives (.error raised) := by
              intro survives
              rw [survives raised rfl] at reconnects
              cases reconnects
            simp only [reconnects, Bool.false_eq_true, if_false, Bool.true_eq_false, false_and,
              ended]
      · have kept : after.terminated = false := by
          rw [handled] at same
          exact same.trans running
        simp only [kept, survives_ok]

/-- From any running client: at every point it runs on with the well-formed items so far when every
frame is harmless, and only then. -/
theorem run_receive_iff (frames : List String) :
    ∀ {c : PrivateWs}, c.terminated = false →
      ((∀ done, done <+: frames →
        (run (receive loads repr fromTimestamp) c done).terminated = false ∧
          (run (receive loads repr fromTimestamp) c done).executionQueue =
            c.executionQueue ++ done.flatMap (wellFormedItems loads fromTimestamp)) ↔
        ∀ raw ∈ frames, Harmless loads repr fromTimestamp raw) := by
  induction frames with
  | nil =>
      intro c running
      refine iff_of_true (fun done within => ?_) (List.forall_mem_nil _)
      rw [List.prefix_nil.mp within]
      exact ⟨running, (List.append_nil _).symm⟩
  | cons raw frames ih =>
      intro c running
      rw [List.forall_mem_cons]
      constructor
      · intro throughout
        have first := throughout [raw] (List.cons_prefix_cons.mpr ⟨rfl, List.nil_prefix⟩)
        rw [List.flatMap_singleton] at first
        refine ⟨(receive_iff raw running).mp first, (ih first.1).mp ?_⟩
        intro done within
        have later := throughout (raw :: done) (List.cons_prefix_cons.mpr ⟨rfl, within⟩)
        rw [List.flatMap_cons, ← List.append_assoc, ← first.2] at later
        exact later
      · rintro ⟨harmless, others⟩ done within
        have first := (receive_iff raw running).mpr harmless
        cases done with
        | nil => exact ⟨running, (List.append_nil _).symm⟩
        | cons next done =>
            obtain ⟨rfl, rest⟩ := List.cons_prefix_cons.mp within
            rw [List.flatMap_cons, ← List.append_assoc, ← first.2]
            exact (ih first.1).mpr others done rest

/-- **The client is robust exactly on harmless frames**: at every point of every sequence of frames
it is running and has taken exactly the well-formed linear execution items so far, in order, when
every frame is harmless, and only then. -/
theorem robust_iff (frames : List String) :
    (∀ done, done <+: frames → Robust loads repr fromTimestamp done) ↔
      ∀ raw ∈ frames, Harmless loads repr fromTimestamp raw := by
  rw [← run_receive_iff (c := {}) frames rfl]
  refine forall₂_congr fun done _ => ?_
  rw [List.nil_append]
  exact ⟨fun robust => ⟨robust.running, robust.queued⟩, fun ⟨running, queued⟩ => ⟨running, queued⟩⟩

end Frames

/-! ## An item without its fields -/

/-- A well-formed item. -/
def filledItem : Json :=
  .object [("category", .string "linear"), ("execId", .string "e1"), ("orderId", .string "o1"),
    ("symbol", .string "BTCUSDT"), ("side", .string "Buy"), ("execPrice", .string "100.5"),
    ("execQty", .string "2"), ("execFee", .string "0.1"), ("execTime", .string "1672364262474")]

/-- A message with an item that has only its category, in front of it. -/
def badNeighbour : Json :=
  .object [("topic", .string "execution"),
    ("data", .array [.object [("category", .string "linear")], filledItem])]

def badNeighbourText : String :=
  "\x7b\"topic\": \"execution\", \"data\": [\x7b\"category\": \"linear\"\x7d, " ++
    "\x7b\"category\": \"linear\", \"execId\": \"e1\", \"orderId\": \"o1\", " ++
    "\"symbol\": \"BTCUSDT\", \"side\": \"Buy\", \"execPrice\": \"100.5\", " ++
    "\"execQty\": \"2\", \"execFee\": \"0.1\", \"execTime\": \"1672364262474\"\x7d]\x7d"

/-- The first item has no side: the client is ended, and the item behind it is lost. -/
theorem badNeighbour_ends_client :
    ¬ ∀ (loads : String → Loaded) (repr : Json → String)
      (fromTimestamp : ℤ → Except Raised ℤ) (frames : List String),
      ∀ done, done <+: frames → Robust loads repr fromTimestamp done := by
  intro robust
  have running := (robust
    (fun raw => if raw = badNeighbourText then .value badNeighbour else .decodeError)
    (fun _ => "") (fun ms => .ok (1000 * ms)) [badNeighbourText] [badNeighbourText]
    List.prefix_rfl).running
  revert running
  decide +kernel

/-- The same item alone is taken. -/
example : ((wellFormedItem (fun ms => .ok (1000 * ms)) filledItem).map (·.2.executedAt)) =
    some 1672364262474000 := by
  decide +kernel

end Scalper.Exchange.Bybit
