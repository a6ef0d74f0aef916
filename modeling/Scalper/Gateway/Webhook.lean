import Scalper.Lib.DecimalText
import Scalper.Lib.Json
import Mathlib.Algebra.Order.Ring.Rat
import Mathlib.Logic.Function.Basic

/-!
# The webhook

`services/signal_gateway/app/webhook.py` with `dedup.py`, `symbol_map.py`, `models.py` and the
inserts of `packages/db/queries/signal_gateway.py` and `packages/outbox/queries.py`: a request is
authenticated, read, checked against the ring of recent keys and against the symbol map, and stored
together with the event that announces it.

A request is handled at a `Moment`: the readings of the clocks, the answers of the database, and the
points at which the handler fails.  The decoder of JSON, the keyed digest and the text that `str`
writes for a container are parameters.
-/

set_option autoImplicit false

namespace Scalper.Gateway

open Scalper.Lib

/-! ## The envelope -/

/-- The `action` of an alert. -/
inductive Action where
  | long
  | short
  | close
  deriving DecidableEq, Repr

def Action.ofText (text : String) : Option Action :=
  if text = "LONG" then some .long
  else if text = "SHORT" then some .short
  else if text = "CLOSE" then some .close
  else none

def Action.text : Action → String
  | .long => "LONG"
  | .short => "SHORT"
  | .close => "CLOSE"

/-- The inbound body. -/
structure SignalEnvelope where
  symbol : String
  action : Action
  source : String
  idempotencyKey : String
  payload : List (String × Json)
  symbolSet : symbol ≠ ""
  sourceSet : source ≠ ""
  keySet : idempotencyKey ≠ ""

def envelopeFields : List String := ["symbol", "action", "source", "idempotency_key", "payload"]

/-- `_migrate_unknown_keys`: fields that are not of the envelope move into its payload, whose own
fields win. -/
def migrateUnknownKeys : Json → Json
  | .object fields =>
      let extras := fields.filter fun field => field.1 ∉ envelopeFields
      let kept := fields.filter fun field => field.1 ∈ envelopeFields
      if extras.isEmpty then .object fields
      else
        match fields.lookup "payload" with
        | none | some .null => .object (upsert Prod.fst ("payload", .object extras) kept)
        | some (.object existing) =>
            .object (upsert Prod.fst ("payload", .object (mergeFields extras existing)) kept)
        | some _ => .object fields
  | data => data

/-- The payload field, an empty dictionary by default; `none` where it is something else. -/
def payloadOf (fields : List (String × Json)) : Option (List (String × Json)) :=
  match fields.lookup "payload" with
  | none => some []
  | some (.object payload) => some payload
  | some _ => none

/-- A text field. -/
def textOf (fields : List (String × Json)) (name : String) : Option String :=
  match fields.lookup name with
  | some (.string text) => some text
  | _ => none

/-- `SignalEnvelope.model_validate`; `none` where it raises. -/
def modelValidate (data : Json) : Option SignalEnvelope :=
  match migrateUnknownKeys data with
  | .object fields =>
      if fields.all fun field => field.1 ∈ envelopeFields then do
        let symbol ← textOf fields "symbol"
        let action ← (textOf fields "action").bind Action.ofText
        let source ← textOf fields "source"
        let key ← textOf fields "idempotency_key"
        let payload ← payloadOf fields
        if set : symbol ≠ "" ∧ source ≠ "" ∧ key ≠ "" then
          some
            { symbol := symbol, action := action, source := source, idempotencyKey := key,
              payload := payload, symbolSet := set.1, sourceSet := set.2.1, keySet := set.2.2 }
        else none
      else none
  | _ => none

/-! ## Tables -/

/-- The `ingestion_status` of a signal. -/
inductive IngestionStatus where
  | validated
  | invalid
  | duplicate
  deriving DecidableEq, Repr

/-- A row of `signals`; times are microseconds. -/
structure SignalRow where
  id : ℕ
  receivedAt : ℤ
  schemaVersion : String
  source : String
  idempotencyKey : String
  symbol : String
  originalSymbol : Option String
  action : String
  payload : List (String × Json)
  ingestionStatus : IngestionStatus
  correlationId : String

/-- The payload of `signals.validated`. -/
structure SignalValidated where
  schemaVersion : String := "1.0"
  source : String
  idempotencyKey : String
  receivedAt : ℤ
  symbol : String
  originalSymbol : String
  action : Action
  expiresAt : ℤ
  payload : List (String × Json)

/-- A row of `outbox_events`. -/
structure OutboxEvent where
  service : String
  subject : String
  correlationId : Option String
  payload : SignalValidated
  createdAt : ℤ

/-- The two tables the gateway writes. -/
structure Tables where
  signals : List SignalRow := []
  outbox : List OutboxEvent := []

/-- The unique index `signals_idempotency` has the key and the time of a row. -/
def Tables.taken (tables : Tables) (row : SignalRow) : Bool :=
  tables.signals.any fun other =>
    other.idempotencyKey == row.idempotencyKey && other.receivedAt == row.receivedAt

/-- What becomes of a commit: it is acknowledged, it does not happen, or it happens and the handler
does not learn of it. -/
inductive Commit where
  | acknowledged
  | rolledBack
  | lost
  deriving DecidableEq, Repr

/-- Whether the statement returns, and the tables after it. -/
def Commit.apply (commit : Commit) (before after : Tables) : Bool × Tables :=
  match commit with
  | .acknowledged => (true, after)
  | .rolledBack => (false, before)
  | .lost => (false, after)

/-! ## The process -/

/-- An audit event on `signals.raw`. -/
structure RawSignal where
  body : List UInt8
  sourceIp : String
  receivedAt : ℤ
  userAgent : String

/-- `app.state` with the tables and what was published. -/
structure AppState where
  /-- `_seen`: when a key was recorded. -/
  seen : String → Option ℚ := fun _ => none
  /-- `_cache`: what a symbol resolved to, and when. -/
  cache : String → Option (Option String × ℚ) := fun _ => none
  tables : Tables := {}
  raw : List RawSignal := []

/-- The settings of the gateway. -/
structure Settings where
  hmacSecret : String
  dedupTtl : ℚ := 10
  symbolTtl : ℚ := 60

/-- A request as it arrives. -/
structure Request where
  body : List UInt8
  signature : String
  realIp : String := ""
  forwardedFor : String := ""
  clientHost : Option String := none
  userAgent : String := ""

/-- What a request meets. -/
structure Moment where
  /-- The time of the audit event. -/
  rawAt : ℤ
  receivedAt : ℤ
  /-- `time.monotonic()` at the ring, at the look-up of the symbol and after its query. -/
  clock : ℚ
  resolveClock : ℚ
  fetchClock : ℚ
  /-- The table `symbol_map`. -/
  symbolMap : String → Option String
  /-- The identity of the next row. -/
  signalId : ℕ
  publishes : Bool := true
  fetches : Bool := true
  /-- The insert of an `invalid` or `duplicate` row. -/
  audit : Commit := .acknowledged
  insertsSignal : Bool := true
  insertsOutbox : Bool := true
  commit : Commit := .acknowledged

/-- The `reason` of an error answer. -/
inductive ErrorReason where
  | invalidJson
  | validationFailed
  | hmacInvalid
  | symbolUnknown
  | internal
  deriving DecidableEq, Repr

/-- A response; `unhandled` is the one that the server gives when the handler raises. -/
inductive Answer where
  | validated (signalId : ℕ)
  | duplicate
  | error (status : ℕ) (detail : String) (reason : ErrorReason)
  | unhandled
  deriving DecidableEq, Repr

/-- The HTTP status of an answer. -/
def Answer.status : Answer → ℕ
  | .validated _ => 200
  | .duplicate => 202
  | .error status _ _ => status
  | .unhandled => 500

/-- The answer after a failure. -/
def Answer.internalError : Answer := .error 500 "internal error" .internal

/-! ## The ring and the symbols -/

/-- `str.strip`. -/
def strip (text : String) : String :=
  String.ofList ((text.toList.dropWhile isSpace).reverse.dropWhile isSpace).reverse

/-- `_client_ip`. -/
def clientIp (request : Request) : String :=
  let realIp := strip request.realIp
  let first := strip (String.ofList (request.forwardedFor.toList.takeWhile (· ≠ ',')))
  if realIp ≠ "" then realIp
  else if first ≠ "" then first
  else
    match request.clientHost with
    | some host => if host ≠ "" then host else "unknown"
    | none => "unknown"

/-- `DedupRing.check_and_record`: whether the key is new, with the ring swept. -/
def checkAndRecord (ttl now : ℚ) (key : String) (seen : String → Option ℚ) :
    Bool × (String → Option ℚ) :=
  let swept := fun other => (seen other).filter fun recorded => ¬ recorded < now - ttl
  if (swept key).isSome then (false, swept) else (true, Function.update swept key (some now))

/-- `SymbolMapCache.resolve`: `none` where the query raises. -/
def resolve (settings : Settings) (moment : Moment) (symbol : String)
    (cache : String → Option (Option String × ℚ)) :
    Option (Option String) × (String → Option (Option String × ℚ)) :=
  let fetch :=
    if moment.fetches then
      (some (moment.symbolMap symbol),
        Function.update cache symbol (some (moment.symbolMap symbol, moment.fetchClock)))
    else (none, cache)
  match cache symbol with
  | some (canonical, recorded) =>
      if moment.resolveClock - recorded < settings.symbolTtl then (some canonical, cache) else fetch
  | none => fetch

/-! ## The handler -/

section Handler

variable (loads : List UInt8 → Loaded) (hexdigest : String → List UInt8 → String)
  (repr : Json → String) (settings : Settings)

/-- `verify_hmac`; `none` where `compare_digest` raises, which takes ASCII texts only. -/
def verifyHmac (request : Request) : Option Bool :=
  if request.signature.toList.all fun char => char.toNat < 128 then
    some (request.signature == hexdigest settings.hmacSecret request.body)
  else none

/-- The audit row of a request that is not accepted. -/
def insertAudit (moment : Moment) (row : SignalRow) (s : AppState) : Bool × AppState :=
  if s.tables.taken row then (false, s)
  else
    let (returned, tables) := moment.audit.apply s.tables
      { s.tables with signals := s.tables.signals ++ [row] }
    (returned, { s with tables := tables })

/-- The row of an envelope. -/
def SignalEnvelope.row (envelope : SignalEnvelope) (moment : Moment) (symbol : String)
    (originalSymbol : Option String) (status : IngestionStatus) : SignalRow :=
  { id := moment.signalId, receivedAt := moment.receivedAt, schemaVersion := "1.0",
    source := envelope.source, idempotencyKey := envelope.idempotencyKey, symbol := symbol,
    originalSymbol := originalSymbol, action := envelope.action.text, payload := envelope.payload,
    ingestionStatus := status, correlationId := envelope.idempotencyKey }

/-- `_SIGNAL_TTL_SECONDS`, in microseconds. -/
def signalTtl : ℤ := 120 * 1000000

/-- The event of an envelope. -/
def SignalEnvelope.event (envelope : SignalEnvelope) (moment : Moment) (canonical : String) :
    OutboxEvent :=
  { service := "signal-gateway", subject := "signals.validated",
    correlationId := some envelope.idempotencyKey, createdAt := moment.receivedAt,
    payload :=
      { source := envelope.source, idempotencyKey := envelope.idempotencyKey,
        receivedAt := moment.receivedAt, symbol := canonical, originalSymbol := envelope.symbol,
        action := envelope.action, expiresAt := moment.receivedAt + signalTtl,
        payload := envelope.payload } }

/-- Step 11: the signal and its event, in one transaction. -/
def persist (envelope : SignalEnvelope) (canonical : String) (moment : Moment) (s : AppState) :
    Answer × AppState :=
  let row := envelope.row moment canonical (some envelope.symbol) .validated
  if moment.insertsSignal && !s.tables.taken row && moment.insertsOutbox then
    let (returned, tables) := moment.commit.apply s.tables
      { signals := s.tables.signals ++ [row]
        outbox := s.tables.outbox ++ [envelope.event moment canonical] }
    (if returned then .validated moment.signalId else .internalError, { s with tables := tables })
  else (.internalError, s)

/-- Steps 9 to 12, for a valid envelope. -/
def ingest (envelope : SignalEnvelope) (moment : Moment) (s : AppState) : Answer × AppState :=
  let (isNew, seen) := checkAndRecord settings.dedupTtl moment.clock envelope.idempotencyKey s.seen
  let s := { s with seen := seen }
  if !isNew then
    let (returned, s) := insertAudit moment (envelope.row moment envelope.symbol none .duplicate) s
    (if returned then .duplicate else .internalError, s)
  else
    let (resolved, cache) := resolve settings moment envelope.symbol s.cache
    let s := { s with cache := cache }
    match resolved with
    | none => (.unhandled, s)
    | some none =>
        let (returned, s) :=
          insertAudit moment (envelope.row moment envelope.symbol none .invalid) s
        (if returned then .error 422 "symbol not in symbol_map" .symbolUnknown else .internalError,
          s)
    | some (some canonical) => persist envelope canonical moment s

/-- The key that a body carries, before it is checked. -/
def peekedKey : Json → String
  | .object fields => ((textOf fields "idempotency_key").map strip).getD ""
  | _ => ""

/-- A field of the audit row of a body that is not valid. -/
def auditField (parsed : Json) (name : String) : String :=
  match parsed with
  | .object fields => ((fields.lookup name).getD (.string "")).str repr
  | _ => ""

def auditPayload : Json → List (String × Json)
  | .object fields => fields
  | _ => []

/-- The audit row of a body that is not valid. -/
def invalidRow (parsed : Json) (key : String) (moment : Moment) : SignalRow :=
  { id := moment.signalId, receivedAt := moment.receivedAt, schemaVersion := "1.0",
    source := auditField repr parsed "source", idempotencyKey := key,
    symbol := auditField repr parsed "symbol", originalSymbol := none,
    action := auditField repr parsed "action", payload := auditPayload parsed,
    ingestionStatus := .invalid, correlationId := key }

/-- Step 6, where the body is not valid. -/
def rejectInvalid (parsed : Json) (moment : Moment) (s : AppState) : Answer × AppState :=
  let key := peekedKey parsed
  if key ≠ "" then
    let (returned, s) := insertAudit moment (invalidRow repr parsed key moment) s
    (if returned then .error 400 "validation failed" .validationFailed else .internalError, s)
  else (.error 400 "validation failed" .validationFailed, s)

/-- Step 3: the audit event, if it can be published. -/
def publishRaw (request : Request) (moment : Moment) (s : AppState) : AppState :=
  { s with raw := s.raw ++
      if moment.publishes then
        [{ body := request.body, sourceIp := clientIp request, receivedAt := moment.rawAt,
           userAgent := request.userAgent }]
      else [] }

/-- `webhook`. -/
def webhook (request : Request) (moment : Moment) (s : AppState) : Answer × AppState :=
  match verifyHmac hexdigest settings request with
  | none => (.unhandled, s)
  | some false => (.error 401 "unauthorized" .hmacInvalid, s)
  | some true =>
      let s := publishRaw request moment s
      match loads request.body with
      | .decodeError => (.error 400 "invalid JSON body" .invalidJson, s)
      | .raised => (.unhandled, s)
      | .value parsed =>
          match modelValidate parsed with
          | none => rejectInvalid repr parsed moment s
          | some envelope => ingest settings envelope moment s

end Handler

end Scalper.Gateway
