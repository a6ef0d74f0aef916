import Scalper.Gateway.Webhook
import Scalper.Lib.Run

/-!
# Retried webhooks

A sender that is answered with a server error sends its signal again.  For that to be safe the error
must have left no signal behind, and the key must not be taken for a duplicate.

The handler records the key before it resolves the symbol and stores the signal, and takes the
record back on no path: a retry within the ten seconds of the ring is answered as a duplicate of a
signal that was never stored.  `retrySafe_iff` says when a run of requests is safe.
-/

set_option autoImplicit false

namespace Scalper.Gateway

open Scalper.Lib

/-! ## Requests and their answers -/

/-- A request with what it meets. -/
structure Call where
  request : Request
  moment : Moment

/-- The process, and the answers it gave to each key. -/
structure Service where
  app : AppState := {}
  answered : List (String × Answer) := []

section Service

variable (loads : List UInt8 → Loaded) (hexdigest : String → List UInt8 → String)
  (repr : Json → String) (settings : Settings)

/-- The key in the body of a request. -/
def carriedKey (request : Request) : Option String :=
  match loads request.body with
  | .value (.object fields) => textOf fields "idempotency_key"
  | _ => none

/-- The answer to a call. -/
def answer (call : Call) (s : Service) : Answer :=
  (webhook loads hexdigest repr settings call.request call.moment s.app).1

/-- Handle one request. -/
def serve (call : Call) (s : Service) : Service :=
  { app := (webhook loads hexdigest repr settings call.request call.moment s.app).2
    answered := s.answered ++ (carriedKey loads call.request).toList.map fun key =>
      (key, answer loads hexdigest repr settings call s) }

/-- A request that reaches the ring, with its envelope. -/
def Ingests (request : Request) (envelope : SignalEnvelope) : Prop :=
  verifyHmac hexdigest settings request = some true ∧
    ∃ parsed, loads request.body = .value parsed ∧ modelValidate parsed = some envelope

end Service

/-! ## Stored signals -/

/-- The accepted signals of a key. -/
def signalsOf (tables : Tables) (key : String) : List SignalRow :=
  tables.signals.filter fun row =>
    row.ingestionStatus == .validated && row.idempotencyKey == key

/-- The events that announce them. -/
def eventsOf (tables : Tables) (key : String) : List OutboxEvent :=
  tables.outbox.filter fun event =>
    event.subject == "signals.validated" && event.correlationId == some key

/-- A signal of the key is stored. -/
def Stored (tables : Tables) (key : String) : Prop := signalsOf tables key ≠ []

/-- A request with the key was answered with a server error. -/
def ServerError (s : Service) (key : String) : Prop :=
  ∃ given, (key, given) ∈ s.answered ∧ 500 ≤ given.status

/-- A request with the key was answered with success. -/
def Succeeded (s : Service) (key : String) : Prop :=
  ∃ signalId, (key, Answer.validated signalId) ∈ s.answered

/-! ## The property -/

section Safety

variable (loads : List UInt8 → Loaded) (hexdigest : String → List UInt8 → String)
  (repr : Json → String) (settings : Settings)

/-- The key has no row of this time. -/
def Free (key : String) (moment : Moment) (tables : Tables) : Prop :=
  ∀ row ∈ tables.signals, row.idempotencyKey = key → row.receivedAt ≠ moment.receivedAt

/-- No step of the handler fails. -/
structure Faultless (envelope : SignalEnvelope) (moment : Moment) (s : AppState) : Prop where
  fetches : moment.fetches = true
  audit : moment.audit = .acknowledged
  insertsSignal : moment.insertsSignal = true
  insertsOutbox : moment.insertsOutbox = true
  commit : moment.commit = .acknowledged
  free : Free envelope.idempotencyKey moment s.tables

/-- The symbol of the envelope is known. -/
def Resolves (envelope : SignalEnvelope) (moment : Moment) (s : AppState) : Prop :=
  ∃ canonical, (resolve settings moment envelope.symbol s.cache).1 = some (some canonical)

/-- A server error leaves no signal behind; a key that was answered with one and of which nothing is
stored is not a duplicate, and is stored if nothing fails; and a key that was answered with success
has one signal and one event. -/
structure RetrySafe (s : Service) (call : Call) : Prop where
  nothingLeft : 500 ≤ (answer loads hexdigest repr settings call s).status → ∀ key,
    signalsOf (serve loads hexdigest repr settings call s).app.tables key =
        signalsOf s.app.tables key ∧
      eventsOf (serve loads hexdigest repr settings call s).app.tables key =
        eventsOf s.app.tables key
  retried : ∀ key ∈ carriedKey loads call.request, ServerError s key → ¬ Stored s.app.tables key →
    answer loads hexdigest repr settings call s ≠ .duplicate
  taken : ∀ key ∈ carriedKey loads call.request, ServerError s key → ¬ Stored s.app.tables key →
    ∀ envelope, Ingests loads hexdigest settings call.request envelope →
      Faultless envelope call.moment s.app → Resolves settings envelope call.moment s.app →
        (∃ signalId, answer loads hexdigest repr settings call s = .validated signalId) ∧
          Stored (serve loads hexdigest repr settings call s).app.tables key
  once : ∀ key, Succeeded (serve loads hexdigest repr settings call s) key →
    (signalsOf (serve loads hexdigest repr settings call s).app.tables key).length = 1 ∧
      (eventsOf (serve loads hexdigest repr settings call s).app.tables key).length = 1

/-- The ring has the key, and not for longer than it keeps one. -/
def Recorded (key : String) (moment : Moment) (s : AppState) : Prop :=
  ∃ recorded, s.seen key = some recorded ∧ moment.clock - settings.dedupTtl ≤ recorded

/-- The transaction of the signal comes to its commit. -/
structure Commits (envelope : SignalEnvelope) (moment : Moment) (s : AppState) : Prop where
  isNew : ¬ Recorded settings envelope.idempotencyKey moment s
  resolves : Resolves settings envelope moment s
  insertsSignal : moment.insertsSignal = true
  free : Free envelope.idempotencyKey moment s.tables
  insertsOutbox : moment.insertsOutbox = true

/-- Where the handler is safe: a commit is not lost, and is not of a key that is stored already; and
a key that was answered with a server error, and of which nothing is stored, is in the ring no more,
or the row of the duplicate cannot be written. -/
structure Sound (s : Service) (call : Call) : Prop where
  commit : ∀ envelope, Ingests loads hexdigest settings call.request envelope →
    Commits settings envelope call.moment s.app →
      call.moment.commit ≠ .lost ∧
        (call.moment.commit = .acknowledged → ¬ Stored s.app.tables envelope.idempotencyKey)
  ring : ∀ envelope, Ingests loads hexdigest settings call.request envelope →
    Recorded settings envelope.idempotencyKey call.moment s.app →
      ServerError s envelope.idempotencyKey → ¬ Stored s.app.tables envelope.idempotencyKey →
        ¬ (call.moment.audit = .acknowledged ∧
          Free envelope.idempotencyKey call.moment s.app.tables)

end Safety

/-! ## One request -/

/-- Nothing is accepted. -/
structure Idle (before : Tables) (result : Answer × AppState) : Prop where
  signals : ∀ key, signalsOf result.2.tables key = signalsOf before key
  events : ∀ key, eventsOf result.2.tables key = eventsOf before key
  refused : ∀ signalId, result.1 ≠ .validated signalId

section Handler

variable {loads : List UInt8 → Loaded} {hexdigest : String → List UInt8 → String}
  {repr : Json → String} {settings : Settings} {s : AppState} {moment : Moment}
  {envelope : SignalEnvelope} {row : SignalRow}

theorem taken_row_iff {symbol : String} {originalSymbol : Option String}
    {status : IngestionStatus} :
    s.tables.taken (envelope.row moment symbol originalSymbol status) = false ↔
      Free envelope.idempotencyKey moment s.tables := by
  simp [Tables.taken, Free, SignalEnvelope.row]

variable (s moment row) in
/-- An audit row is not an accepted signal, and is written where its time is free and its commit
acknowledged. -/
theorem insertAudit_spec (audit : row.ingestionStatus ≠ .validated) :
    ∃ returned after, insertAudit moment row s = (returned, after) ∧
      (returned = true ↔ moment.audit = .acknowledged ∧ s.tables.taken row = false) ∧
      ∀ key, signalsOf after.tables key = signalsOf s.tables key ∧
        eventsOf after.tables key = eventsOf s.tables key := by
  have other : (row.ingestionStatus == .validated) = false := beq_false_of_ne audit
  have appended : ∀ key, signalsOf { s.tables with signals := s.tables.signals ++ [row] } key =
      signalsOf s.tables key := by
    intro key
    simp [signalsOf, List.filter_append, other]
  rw [insertAudit]
  cases s.tables.taken row with
  | true => exact ⟨false, s, rfl, by simp, fun key => ⟨rfl, rfl⟩⟩
  | false =>
      cases moment.audit with
      | acknowledged => exact ⟨true, _, rfl, by simp, fun key => ⟨appended key, rfl⟩⟩
      | rolledBack => exact ⟨false, _, rfl, by simp, fun key => ⟨rfl, rfl⟩⟩
      | lost => exact ⟨false, _, rfl, by simp, fun key => ⟨appended key, rfl⟩⟩

/-- A key is new when the ring does not have it, or had it for too long. -/
theorem checkAndRecord_fst {key : String} :
    (checkAndRecord settings.dedupTtl moment.clock key s.seen).1 = false ↔
      Recorded settings key moment s := by
  have swept : ((s.seen key).filter fun recorded =>
      ¬ recorded < moment.clock - settings.dedupTtl).isSome = true ↔
        Recorded settings key moment s := by
    rw [Option.isSome_filter, Option.any_eq_true]
    simp only [not_lt, decide_eq_true_eq, Recorded]
  simp only [checkAndRecord]
  split
  · next known => exact iff_of_true rfl (swept.mp known)
  · next unknown => exact iff_of_false (Bool.false_ne_true ·.symm) (swept.not.mp unknown)

variable (settings moment s) in
/-- A key in the ring: a duplicate, if its row is written. -/
theorem ingest_recorded (recorded : Recorded settings envelope.idempotencyKey moment s) :
    Idle s.tables (ingest settings envelope moment s) ∧
      ((ingest settings envelope moment s).1 = .duplicate ↔
        moment.audit = .acknowledged ∧ Free envelope.idempotencyKey moment s.tables) := by
  have known := checkAndRecord_fst.mpr recorded
  rcases checked : checkAndRecord settings.dedupTtl moment.clock envelope.idempotencyKey s.seen
    with ⟨isNew, seen⟩
  rw [checked] at known
  obtain rfl : isNew = false := known
  obtain ⟨returned, after, inserted, returns, kept⟩ := insertAudit_spec
    { s with seen := seen } moment (envelope.row moment envelope.symbol none .duplicate)
    (by simp [SignalEnvelope.row])
  rw [taken_row_iff] at returns
  simp only [ingest, checked, Bool.not_false, if_true, inserted]
  refine ⟨⟨fun key => (kept key).1, fun key => (kept key).2, fun signalId => ?_⟩, ?_⟩
  · cases returned <;> simp [Answer.internalError]
  · refine Iff.trans ?_ returns
    cases returned <;> simp [Answer.internalError]

/-- The signal of an envelope and its event are in the tables. -/
structure Accepted (key : String) (before after : Tables) : Prop where
  signal : ∃ row, signalsOf after key = signalsOf before key ++ [row]
  event : ∃ event, eventsOf after key = eventsOf before key ++ [event]
  others : ∀ other ≠ key, signalsOf after other = signalsOf before other ∧
    eventsOf after other = eventsOf before other

/-- What the commit makes of a signal. -/
structure Committed (envelope : SignalEnvelope) (moment : Moment) (before : Tables)
    (result : Answer × AppState) : Prop where
  acknowledged : moment.commit = .acknowledged →
    result.1 = .validated moment.signalId ∧ Accepted envelope.idempotencyKey before result.2.tables
  rolledBack : moment.commit = .rolledBack → result.1 = .internalError ∧ Idle before result
  lost : moment.commit = .lost →
    result.1 = .internalError ∧ Accepted envelope.idempotencyKey before result.2.tables

theorem idle_of_tables {result : Answer × AppState} (same : result.2.tables = s.tables)
    (refused : ∀ signalId, result.1 ≠ .validated signalId) : Idle s.tables result where
  signals key := by rw [signalsOf, same, signalsOf]
  events key := by rw [eventsOf, same, eventsOf]
  refused := refused

variable (s moment envelope) in
/-- The row of an accepted envelope and its event are counted for its key. -/
theorem accepted_append (canonical : String) :
    Accepted envelope.idempotencyKey s.tables
      { signals := s.tables.signals ++
          [envelope.row moment canonical (some envelope.symbol) .validated]
        outbox := s.tables.outbox ++ [envelope.event moment canonical] } where
  signal := ⟨_, by simp [signalsOf, List.filter_append, SignalEnvelope.row]; rfl⟩
  event := ⟨_, by simp [eventsOf, List.filter_append, SignalEnvelope.event]; rfl⟩
  others other differs := by
    have different : envelope.idempotencyKey ≠ other := differs.symm
    simp [signalsOf, eventsOf, List.filter_append, SignalEnvelope.row, SignalEnvelope.event,
      different]

variable (s moment envelope) in
/-- The transaction either comes to its commit, or accepts nothing. -/
theorem persist_spec (canonical : String) :
    (moment.insertsSignal = true ∧ Free envelope.idempotencyKey moment s.tables ∧
        moment.insertsOutbox = true →
      Committed envelope moment s.tables (persist envelope canonical moment s)) ∧
    (¬ (moment.insertsSignal = true ∧ Free envelope.idempotencyKey moment s.tables ∧
        moment.insertsOutbox = true) →
      (persist envelope canonical moment s).1 = .internalError ∧
        Idle s.tables (persist envelope canonical moment s)) := by
  have guard : (moment.insertsSignal &&
      !s.tables.taken (envelope.row moment canonical (some envelope.symbol) .validated) &&
        moment.insertsOutbox) = true ↔
      moment.insertsSignal = true ∧ Free envelope.idempotencyKey moment s.tables ∧
        moment.insertsOutbox = true := by
    rw [Bool.and_eq_true, Bool.and_eq_true, Bool.not_eq_true', taken_row_iff, and_assoc]
  refine ⟨fun passes => ?_, fun stops => ?_⟩
  · have appended := accepted_append s moment envelope canonical
    simp only [persist, guard.mpr passes, if_true]
    refine ⟨fun commit => ?_, fun commit => ?_, fun commit => ?_⟩
    · rw [commit]
      exact ⟨rfl, appended⟩
    · rw [commit]
      exact ⟨rfl, idle_of_tables rfl fun _ => Answer.noConfusion⟩
    · rw [commit]
      exact ⟨rfl, appended⟩
  · simp only [persist, if_neg (guard.not.mpr stops)]
    exact ⟨trivial, idle_of_tables rfl fun _ => Answer.noConfusion⟩

variable (settings moment s) in
/-- A new key: either the transaction of its signal comes to the commit, or nothing is accepted. -/
theorem ingest_new (isNew : ¬ Recorded settings envelope.idempotencyKey moment s) :
    (Commits settings envelope moment s →
      Committed envelope moment s.tables (ingest settings envelope moment s)) ∧
    (¬ Commits settings envelope moment s →
      (ingest settings envelope moment s).1 ≠ .duplicate ∧
        Idle s.tables (ingest settings envelope moment s)) := by
  have unknown := checkAndRecord_fst.not.mpr isNew
  rcases checked : checkAndRecord settings.dedupTtl moment.clock envelope.idempotencyKey s.seen
    with ⟨fresh, seen⟩
  rw [checked, Bool.not_eq_false] at unknown
  obtain rfl : fresh = true := unknown
  rcases resolved : resolve settings moment envelope.symbol s.cache with ⟨found, cache⟩
  have resolves : Resolves settings envelope moment s ↔
      ∃ canonical, found = some (some canonical) := by
    rw [Resolves, resolved]
  simp only [ingest, checked, resolved, Bool.not_true, Bool.false_eq_true, if_false]
  rcases found with - | - | canonical
  · -- the query raised
    refine ⟨fun commits => ?_,
      fun _ => ⟨Answer.noConfusion, idle_of_tables rfl fun _ => Answer.noConfusion⟩⟩
    obtain ⟨canonical, impossible⟩ := resolves.mp commits.resolves
    cases impossible
  · -- the symbol is not known
    refine ⟨fun commits => ?_, fun _ => ?_⟩
    · obtain ⟨canonical, impossible⟩ := resolves.mp commits.resolves
      cases impossible
    · obtain ⟨returned, after, inserted, -, kept⟩ := insertAudit_spec
        { s with seen := seen, cache := cache } moment
        (envelope.row moment envelope.symbol none .invalid) (by simp [SignalEnvelope.row])
      simp only [inserted]
      cases returned with
      | false =>
          exact ⟨Answer.noConfusion, fun key => (kept key).1, fun key => (kept key).2,
            fun _ => Answer.noConfusion⟩
      | true =>
          exact ⟨Answer.noConfusion, fun key => (kept key).1, fun key => (kept key).2,
            fun _ => Answer.noConfusion⟩
  · obtain ⟨passes, stops⟩ := persist_spec
      { s with seen := seen, cache := cache } moment envelope canonical
    have known := resolves.mpr ⟨canonical, rfl⟩
    refine ⟨fun commits => passes ⟨commits.insertsSignal, commits.free, commits.insertsOutbox⟩,
      fun stopped => ?_⟩
    obtain ⟨failed, idle⟩ := stops fun reaches =>
      stopped ⟨isNew, known, reaches.1, reaches.2.1, reaches.2.2⟩
    rw [failed]
    exact ⟨Answer.noConfusion, idle⟩

theorem Ingests.unique {request : Request} {other : SignalEnvelope}
    (ingests : Ingests loads hexdigest settings request envelope)
    (ingests' : Ingests loads hexdigest settings request other) : envelope = other := by
  obtain ⟨-, parsed, loaded, valid⟩ := ingests
  obtain ⟨-, parsed', loaded', valid'⟩ := ingests'
  rw [loaded] at loaded'
  obtain rfl := Loaded.value.inj loaded'
  exact Option.some.inj (valid.symm.trans valid')

theorem commits_publishRaw {request : Request} :
    Commits settings envelope moment (publishRaw request moment s) ↔
      Commits settings envelope moment s :=
  ⟨fun commits => ⟨commits.isNew, commits.resolves, commits.insertsSignal, commits.free,
      commits.insertsOutbox⟩,
    fun commits => ⟨commits.isNew, commits.resolves, commits.insertsSignal, commits.free,
      commits.insertsOutbox⟩⟩

variable (repr moment s) in
theorem webhook_of_ingests {request : Request}
    (ingests : Ingests loads hexdigest settings request envelope) :
    webhook loads hexdigest repr settings request moment s =
      ingest settings envelope moment (publishRaw request moment s) := by
  obtain ⟨authentic, parsed, loaded, valid⟩ := ingests
  simp only [webhook, authentic, loaded, valid]

variable (repr s moment) in
/-- Any other request leaves the ring alone, and nothing is accepted. -/
theorem webhook_of_not_ingests {request : Request}
    (outside : ∀ envelope, ¬ Ingests loads hexdigest settings request envelope) :
    (webhook loads hexdigest repr settings request moment s).1 ≠ .duplicate ∧
      Idle s.tables (webhook loads hexdigest repr settings request moment s) := by
  have idle : ∀ result : Answer × AppState, result.2.tables = s.tables →
      result.1 ≠ .duplicate → (∀ signalId, result.1 ≠ .validated signalId) →
        result.1 ≠ .duplicate ∧ Idle s.tables result :=
    fun result same other refused => ⟨other, idle_of_tables same refused⟩
  rw [webhook]
  split
  · exact idle _ rfl Answer.noConfusion fun _ => Answer.noConfusion
  · exact idle _ rfl Answer.noConfusion fun _ => Answer.noConfusion
  · next authentic =>
      simp only
      split
      · exact idle _ rfl Answer.noConfusion fun _ => Answer.noConfusion
      · exact idle _ rfl Answer.noConfusion fun _ => Answer.noConfusion
      · next parsed loaded =>
          split
          · simp only [rejectInvalid]
            split
            · obtain ⟨returned, after, inserted, -, kept⟩ := insertAudit_spec
                (publishRaw request moment s) moment
                (invalidRow repr parsed (peekedKey parsed) moment) (by simp [invalidRow])
              rw [inserted]
              cases returned with
              | false =>
                  exact ⟨Answer.noConfusion, fun key => (kept key).1, fun key => (kept key).2,
                    fun _ => Answer.noConfusion⟩
              | true =>
                  exact ⟨Answer.noConfusion, fun key => (kept key).1, fun key => (kept key).2,
                    fun _ => Answer.noConfusion⟩
            · exact idle _ rfl Answer.noConfusion fun _ => Answer.noConfusion
          · next envelope valid =>
              exact absurd ⟨authentic, parsed, loaded, valid⟩ (outside envelope)

/-! ## The key of a request -/

theorem textOf_migrated {fields migrated : List (String × Json)} {name : String}
    (listed : name ∈ envelopeFields) (other : name ≠ "payload")
    (moved : migrateUnknownKeys (.object fields) = .object migrated) :
    textOf migrated name = textOf fields name := by
  have kept : (fields.filter fun field => field.1 ∈ envelopeFields).lookup name =
      fields.lookup name :=
    lookup_filter (fun _ => decide_eq_true listed) fields
  have set : ∀ payload : Json, (upsert Prod.fst ("payload", payload)
      (fields.filter fun field => field.1 ∈ envelopeFields)).lookup name = fields.lookup name :=
    fun payload => (lookup_upsert_of_ne other.symm _).trans kept
  have same : migrated.lookup name = fields.lookup name := by
    simp only [migrateUnknownKeys] at moved
    split at moved
    · exact congrArg _ (Json.object.inj moved).symm
    · split at moved
      · exact Json.object.inj moved ▸ set _
      · exact Json.object.inj moved ▸ set _
      · exact Json.object.inj moved ▸ set _
      · exact congrArg _ (Json.object.inj moved).symm
  rw [textOf, textOf, same]

theorem textOf_of_modelValidate {parsed : Json} (valid : modelValidate parsed = some envelope) :
    ∃ fields, parsed = .object fields ∧
      textOf fields "idempotency_key" = some envelope.idempotencyKey := by
  rw [modelValidate] at valid
  split at valid
  · next migrated moved =>
      split at valid
      · simp only [Option.bind_eq_bind, Option.bind_eq_some_iff] at valid
        obtain ⟨symbol, -, action, -, source, -, key, read, payload, -, built⟩ := valid
        split at built
        · obtain rfl := Option.some.inj built
          cases parsed with
          | object fields =>
              refine ⟨fields, rfl, ?_⟩
              rw [← textOf_migrated (by decide) (by decide) moved, read]
          | _ => cases moved
        · cases built
      · cases valid
  · cases valid

/-- The key of an envelope is the one in the body. -/
theorem carriedKey_of_ingests {request : Request}
    (ingests : Ingests loads hexdigest settings request envelope) :
    carriedKey loads request = some envelope.idempotencyKey := by
  obtain ⟨-, parsed, loaded, valid⟩ := ingests
  obtain ⟨fields, rfl, read⟩ := textOf_of_modelValidate valid
  rw [carriedKey, loaded]
  exact read

end Handler

/-! ## Runs -/

/-- The keys that were answered with success are those of one signal and one event, and no other key
has any. -/
structure Ledger (s : Service) : Prop where
  succeeded : ∀ key, Succeeded s key →
    (signalsOf s.app.tables key).length = 1 ∧ (eventsOf s.app.tables key).length = 1
  others : ∀ key, ¬ Succeeded s key →
    signalsOf s.app.tables key = [] ∧ eventsOf s.app.tables key = []

section Runs

variable {loads : List UInt8 → Loaded} {hexdigest : String → List UInt8 → String}
  {repr : Json → String} {settings : Settings} {s : Service} {call : Call}
  {envelope : SignalEnvelope} {key : String}

theorem Ledger.stored_iff (ledger : Ledger s) : Stored s.app.tables key ↔ Succeeded s key := by
  constructor
  · intro stored
    by_contra other
    exact stored (ledger.others key other).1
  · intro succeeded empty
    have one := (ledger.succeeded key succeeded).1
    rw [empty] at one
    cases one

theorem succeeded_serve :
    Succeeded (serve loads hexdigest repr settings call s) key ↔
      Succeeded s key ∨ key ∈ carriedKey loads call.request ∧
        ∃ signalId, answer loads hexdigest repr settings call s = .validated signalId := by
  simp only [Succeeded, serve, List.mem_append, List.mem_map, Option.mem_toList, Prod.mk.injEq]
  constructor
  · rintro ⟨signalId, before | ⟨_, carried, rfl, answered⟩⟩
    · exact .inl ⟨signalId, before⟩
    · exact .inr ⟨carried, signalId, answered⟩
  · rintro (⟨signalId, before⟩ | ⟨carried, signalId, answered⟩)
    · exact ⟨signalId, .inl before⟩
    · exact ⟨signalId, .inr ⟨key, carried, rfl, answered⟩⟩

/-- A request of which nothing is accepted keeps the ledger. -/
theorem Ledger.idle (ledger : Ledger s)
    (idle : Idle s.app.tables
      (webhook loads hexdigest repr settings call.request call.moment s.app)) :
    Ledger (serve loads hexdigest repr settings call s) := by
  have same : ∀ key, Succeeded (serve loads hexdigest repr settings call s) key ↔
      Succeeded s key := by
    intro key
    rw [succeeded_serve]
    exact or_iff_left fun ⟨_, signalId, answered⟩ => idle.refused signalId answered
  refine ⟨fun key succeeded => ?_, fun key other => ?_⟩
  · rw [serve, idle.signals, idle.events]
    exact ledger.succeeded key ((same key).mp succeeded)
  · rw [serve, idle.signals, idle.events]
    exact ledger.others key ((same key).not.mp other)

/-- So does a signal of a key that has none, if its answer says so. -/
theorem Ledger.accepted (ledger : Ledger s)
    (carried : envelope.idempotencyKey ∈ carriedKey loads call.request)
    (accepted : Accepted envelope.idempotencyKey s.app.tables
      (serve loads hexdigest repr settings call s).app.tables)
    (answered : ∃ signalId, answer loads hexdigest repr settings call s = .validated signalId)
    (unstored : ¬ Stored s.app.tables envelope.idempotencyKey) :
    Ledger (serve loads hexdigest repr settings call s) := by
  obtain ⟨noSignal, noEvent⟩ := ledger.others _ (ledger.stored_iff.not.mp unstored)
  have others : ∀ key ≠ envelope.idempotencyKey,
      (Succeeded (serve loads hexdigest repr settings call s) key ↔ Succeeded s key) := by
    intro key differs
    rw [succeeded_serve]
    refine or_iff_left fun ⟨carried', _⟩ => differs ?_
    exact Option.some.inj (carried'.symm.trans carried)
  refine ⟨fun key succeeded => ?_, fun key other => ?_⟩
  · by_cases same : key = envelope.idempotencyKey
    · obtain ⟨row, signal⟩ := accepted.signal
      obtain ⟨event, announced⟩ := accepted.event
      rw [same, signal, announced, noSignal, noEvent]
      exact ⟨rfl, rfl⟩
    · rw [(accepted.others key same).1, (accepted.others key same).2]
      exact ledger.succeeded key ((others key same).mp succeeded)
  · have differs : key ≠ envelope.idempotencyKey := by
      rintro rfl
      exact other (succeeded_serve.mpr (.inr ⟨carried, answered⟩))
    rw [(accepted.others key differs).1, (accepted.others key differs).2]
    exact ledger.others key ((others key differs).not.mp other)

/-- A call that accepts nothing is safe where it is no duplicate of a key that was answered with a
server error. -/
theorem retrySafe_of_idle (ledger : Ledger s)
    (idle : Idle s.app.tables
      (webhook loads hexdigest repr settings call.request call.moment s.app)) :
    RetrySafe loads hexdigest repr settings s call ↔
      ∀ key ∈ carriedKey loads call.request, ServerError s key → ¬ Stored s.app.tables key →
        answer loads hexdigest repr settings call s ≠ .duplicate ∧
          ∀ envelope, Ingests loads hexdigest settings call.request envelope →
            Faultless envelope call.moment s.app →
              ¬ Resolves settings envelope call.moment s.app := by
  constructor
  · intro safe key carried failed unstored
    refine ⟨safe.retried key carried failed unstored, fun envelope ingests faultless resolves => ?_⟩
    obtain ⟨⟨signalId, answered⟩, -⟩ :=
      safe.taken key carried failed unstored envelope ingests faultless resolves
    exact idle.refused signalId answered
  · intro safe
    refine ⟨fun _ key => ⟨idle.signals key, idle.events key⟩, fun key carried failed unstored =>
      (safe key carried failed unstored).1, fun key carried failed unstored envelope ingests
        faultless resolves => ?_, (ledger.idle idle).succeeded⟩
    exact absurd resolves ((safe key carried failed unstored).2 envelope ingests faultless)

/-- A request outside the ring is safe. -/
theorem retrySafe_of_not_ingests (ledger : Ledger s)
    (outside : ∀ envelope, ¬ Ingests loads hexdigest settings call.request envelope) :
    RetrySafe loads hexdigest repr settings s call ∧ Sound loads hexdigest settings s call ∧
      Ledger (serve loads hexdigest repr settings call s) := by
  obtain ⟨other, idle⟩ := webhook_of_not_ingests repr s.app call.moment outside
  refine ⟨(retrySafe_of_idle ledger idle).mpr fun key _ _ _ => ⟨other, fun envelope ingests =>
    absurd ingests (outside envelope)⟩, ⟨fun envelope ingests => absurd ingests (outside envelope),
      fun envelope ingests => absurd ingests (outside envelope)⟩, ledger.idle idle⟩

/-- A request with a key in the ring is safe where the duplicate is one, or is not written. -/
theorem retrySafe_iff_of_recorded (ledger : Ledger s)
    (ingests : Ingests loads hexdigest settings call.request envelope)
    (recorded : Recorded settings envelope.idempotencyKey call.moment s.app) :
    (RetrySafe loads hexdigest repr settings s call ↔ Sound loads hexdigest settings s call) ∧
      Ledger (serve loads hexdigest repr settings call s) := by
  obtain ⟨idle, duplicate⟩ := ingest_recorded settings
    (publishRaw call.request call.moment s.app) call.moment recorded
  rw [← webhook_of_ingests repr s.app call.moment ingests] at idle duplicate
  have carried := carriedKey_of_ingests ingests
  refine ⟨?_, ledger.idle idle⟩
  rw [retrySafe_of_idle ledger idle]
  constructor
  · intro safe
    refine ⟨fun other ingests' commits => ?_, fun other ingests' _ failed unstored => ?_⟩
    · obtain rfl := ingests.unique ingests'
      exact absurd recorded commits.isNew
    · obtain rfl := ingests.unique ingests'
      exact duplicate.not.mp (safe _ carried failed unstored).1
  · intro sound key carried' failed unstored
    obtain rfl := Option.some.inj (carried.symm.trans carried')
    have blocked := sound.ring envelope ingests recorded failed unstored
    refine ⟨duplicate.not.mpr blocked, fun other ingests' faultless _ => blocked ?_⟩
    obtain rfl := ingests.unique ingests'
    exact ⟨faultless.audit, faultless.free⟩

/-- A signal that comes to its commit. -/
theorem retrySafe_iff_of_commit (ledger : Ledger s)
    (carried : carriedKey loads call.request = some envelope.idempotencyKey)
    (committed : Committed envelope call.moment s.app.tables
      (webhook loads hexdigest repr settings call.request call.moment s.app)) :
    (RetrySafe loads hexdigest repr settings s call ↔ call.moment.commit ≠ .lost ∧
      (call.moment.commit = .acknowledged → ¬ Stored s.app.tables envelope.idempotencyKey)) ∧
      (call.moment.commit ≠ .lost ∧
        (call.moment.commit = .acknowledged → ¬ Stored s.app.tables envelope.idempotencyKey) →
          Ledger (serve loads hexdigest repr settings call s)) := by
  cases commit : call.moment.commit with
  | acknowledged =>
      obtain ⟨answered, accepted⟩ := committed.acknowledged commit
      have given : ∃ signalId, answer loads hexdigest repr settings call s = .validated signalId :=
        ⟨_, answered⟩
      have kept : ¬ Stored s.app.tables envelope.idempotencyKey →
          Ledger (serve loads hexdigest repr settings call s) :=
        ledger.accepted carried accepted given
      refine ⟨⟨fun safe => ⟨Commit.noConfusion, fun _ stored => ?_⟩, fun sound => ?_⟩,
        fun sound => kept (sound.2 rfl)⟩
      · -- a second signal
        have one := (safe.once _ (succeeded_serve.mpr (.inr ⟨carried, given⟩))).1
        obtain ⟨row, signal⟩ := accepted.signal
        rw [serve, signal, List.length_append, List.length_singleton, Nat.add_eq_right,
          List.length_eq_zero_iff] at one
        exact stored one
      · refine ⟨fun failed => ?_, fun _ _ _ _ => ?_, fun key carried' _ _ _ _ _ _ => ⟨given, ?_⟩,
          (kept (sound.2 rfl)).succeeded⟩
        · rw [answer, answered, Answer.status] at failed
          omega
        · rw [answer, answered]
          exact Answer.noConfusion
        · obtain rfl := Option.some.inj (carried.symm.trans carried')
          obtain ⟨row, signal⟩ := accepted.signal
          rw [Stored, serve, signal]
          exact List.append_ne_nil_of_right_ne_nil _ (List.cons_ne_nil _ _)
  | rolledBack =>
      obtain ⟨answered, idle⟩ := committed.rolledBack commit
      refine ⟨iff_of_true ((retrySafe_of_idle ledger idle).mpr fun key _ _ _ => ⟨?_, ?_⟩)
        ⟨Commit.noConfusion, Commit.noConfusion⟩, fun _ => ledger.idle idle⟩
      · rw [answer, answered]
        exact Answer.noConfusion
      · intro other _ faultless
        exact Commit.noConfusion (commit.symm.trans faultless.commit)
  | lost =>
      obtain ⟨answered, accepted⟩ := committed.lost commit
      have never : ¬ (Commit.lost ≠ .lost ∧
          (Commit.lost = .acknowledged → ¬ Stored s.app.tables envelope.idempotencyKey)) :=
        fun sound => sound.1 rfl
      refine ⟨iff_of_false (fun safe => ?_) never, fun sound => absurd sound never⟩
      have failed : 500 ≤ (answer loads hexdigest repr settings call s).status := by
        rw [answer, answered]
        decide
      obtain ⟨row, signal⟩ := accepted.signal
      have left := (safe.nothingLeft failed envelope.idempotencyKey).1
      rw [serve, signal] at left
      exact List.cons_ne_nil _ _ (List.append_right_eq_self.mp left)

/-- A request with a new key is safe where its commit is not lost and its key is not stored. -/
theorem retrySafe_iff_of_new (ledger : Ledger s)
    (ingests : Ingests loads hexdigest settings call.request envelope)
    (isNew : ¬ Recorded settings envelope.idempotencyKey call.moment s.app) :
    (RetrySafe loads hexdigest repr settings s call ↔ Sound loads hexdigest settings s call) ∧
      (Sound loads hexdigest settings s call →
        Ledger (serve loads hexdigest repr settings call s)) := by
  obtain ⟨comes, stops⟩ := ingest_new settings
    (publishRaw call.request call.moment s.app) call.moment isNew
  rw [← webhook_of_ingests repr s.app call.moment ingests] at comes stops
  have carried := carriedKey_of_ingests ingests
  have sound_iff : Sound loads hexdigest settings s call ↔
      (Commits settings envelope call.moment s.app → call.moment.commit ≠ .lost ∧
        (call.moment.commit = .acknowledged → ¬ Stored s.app.tables envelope.idempotencyKey)) := by
    refine ⟨fun sound => sound.commit envelope ingests, fun commit => ⟨?_, ?_⟩⟩
    · intro other ingests'
      obtain rfl := ingests.unique ingests'
      exact commit
    · intro other ingests' recorded
      obtain rfl := ingests.unique ingests'
      exact absurd recorded isNew
  rw [sound_iff]
  rw [commits_publishRaw] at comes stops
  by_cases commits : Commits settings envelope call.moment s.app
  · rw [forall_prop_of_true commits]
    exact retrySafe_iff_of_commit ledger carried (comes commits)
  · obtain ⟨other, idle⟩ := stops commits
    refine ⟨iff_of_true ((retrySafe_of_idle ledger idle).mpr fun key _ _ _ => ⟨other, ?_⟩)
      fun impossible => absurd impossible commits, fun _ => ledger.idle idle⟩
    intro envelope' ingests' faultless resolves
    obtain rfl := ingests.unique ingests'
    exact commits ⟨isNew, resolves, faultless.insertsSignal, faultless.free,
      faultless.insertsOutbox⟩

/-- A sound call is safe and keeps the ledger, and only a sound one is safe. -/
theorem retrySafe_iff_sound (ledger : Ledger s) :
    (RetrySafe loads hexdigest repr settings s call ↔ Sound loads hexdigest settings s call) ∧
      (Sound loads hexdigest settings s call →
        Ledger (serve loads hexdigest repr settings call s)) := by
  by_cases outside : ∀ envelope, ¬ Ingests loads hexdigest settings call.request envelope
  · obtain ⟨safe, sound, kept⟩ := retrySafe_of_not_ingests ledger outside
    exact ⟨iff_of_true safe sound, fun _ => kept⟩
  · obtain ⟨envelope, ingests⟩ := not_forall_not.mp outside
    by_cases recorded : Recorded settings envelope.idempotencyKey call.moment s.app
    · obtain ⟨same, kept⟩ := retrySafe_iff_of_recorded ledger ingests recorded
      exact ⟨same, fun _ => kept⟩
    · exact retrySafe_iff_of_new ledger ingests recorded

/-- **When retries are safe.** A run of requests is safe at every request exactly when at each of
them no commit is lost, nothing is stored for a key that has a signal already, and no key in the
ring was answered with a server error without a signal of it being stored. -/
theorem retrySafe_iff (loads : List UInt8 → Loaded) (hexdigest : String → List UInt8 → String)
    (repr : Json → String) (settings : Settings) (calls : List Call) :
    RunGuarded (RetrySafe loads hexdigest repr settings)
        (serve loads hexdigest repr settings) {} calls ↔
      RunGuarded (Sound loads hexdigest settings) (serve loads hexdigest repr settings) {}
        calls := by
  have start : Ledger {} := by
    refine ⟨fun key succeeded => ?_, fun _ _ => ⟨rfl, rfl⟩⟩
    obtain ⟨signalId, answered⟩ := succeeded
    cases answered
  have always : RunGuarded (fun _ _ => True) (serve loads hexdigest repr settings) {} calls :=
    runGuarded_of_forall fun _ _ => trivial
  exact runGuarded_iff_of_invariant Ledger (fun _ _ ledger _ => (retrySafe_iff_sound ledger).1)
    (fun _ _ ledger _ sound => (retrySafe_iff_sound ledger).2 sound) calls start always

end Runs

/-! ## A retry that is dropped -/

def longBody : String :=
  "\x7b\"symbol\": \"BTCUSDT.P\", \"action\": \"LONG\", \"source\": \"tv_rsi\", " ++
    "\"idempotency_key\": \"k1\"\x7d"

/-- A signal for BTCUSDT.P at a time, with what becomes of its commit. -/
def longCall (clock : ℚ) (commit : Commit) : Call where
  request :=
    { body := longBody.toUTF8.toList
      signature := "62ad9d3b6740314e278788110e04745428dfa43ad5db96f7655b0a9416b8061a" }
  moment :=
    { rawAt := 0, receivedAt := 0, clock := clock, resolveClock := clock, fetchClock := clock,
      symbolMap := fun symbol => if symbol = "BTCUSDT.P" then some "BTCUSDT" else none,
      signalId := 1, commit := commit }

/-- The transaction of the first request fails.  Its retry, a second later, is answered as a
duplicate, and there is no signal. -/
theorem failed_commit_blocks_retry :
    ¬ ∀ (loads : List UInt8 → Loaded) (hexdigest : String → List UInt8 → String)
      (repr : Json → String) (settings : Settings) (calls : List Call),
      RunGuarded (RetrySafe loads hexdigest repr settings)
        (serve loads hexdigest repr settings) {} calls := by
  intro always
  have safe := always
    (fun _ => .value (.object [("symbol", .string "BTCUSDT.P"), ("action", .string "LONG"),
      ("source", .string "tv_rsi"), ("idempotency_key", .string "k1")]))
    (fun _ _ => "62ad9d3b6740314e278788110e04745428dfa43ad5db96f7655b0a9416b8061a")
    (fun _ => "") { hmacSecret := "secret" } [longCall 0 .rolledBack, longCall 1 .acknowledged]
  refine safe.2.1.retried "k1" ?_ ⟨.internalError, ?_, ?_⟩ ?_ ?_
  · decide +kernel
  · decide +kernel
  · decide
  · exact fun stored => stored rfl
  · decide +kernel

end Scalper.Gateway
