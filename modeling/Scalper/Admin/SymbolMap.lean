import Scalper.Admin.Audit
import Scalper.Lib.Locks

/-!
# Editing the symbol map

The write endpoints of `services/analytics_api/app/routers/symbol_map.py` with the statements of
`packages/db/queries/analytics.py` they issue.  A request reads the entry before its transaction,
writes it and inserts its audit event inside, and is answered after the commit.  Any number of
requests run at once, one statement at a time: a write waits while another transaction has written
the entry and is still open, and is then made on what that one left.

A request may fail at any point, which rolls its transaction back.  So does, here, a write that
waited and then finds that the entry it waited for was deleted: the source answers 404 for it.
The commit and the answer are one step: whether the answer reaches the client is not followed.
-/

set_option autoImplicit false

namespace Scalper.Admin

open Scalper.Lib

/-- The `source` of an entry. -/
inductive ExchangeSource where
  | binance
  | bybit
  | custom
  deriving DecidableEq, Repr

def ExchangeSource.text : ExchangeSource → String
  | .binance => "binance"
  | .bybit => "bybit"
  | .custom => "custom"

/-- A row of `symbol_map`. -/
structure SymbolMapRow where
  inputSymbol : String
  canonicalSymbol : String
  exchangeSource : ExchangeSource
  notes : Option String
  createdAt : ℤ
  updatedAt : ℤ
  deriving DecidableEq, Repr

/-- `asdict`. -/
def SymbolMapRow.asdict (row : SymbolMapRow) : List (String × ColumnValue) :=
  [("input_symbol", .native (.string row.inputSymbol)),
    ("canonical_symbol", .native (.string row.canonicalSymbol)),
    ("exchange_source", .native (.string row.exchangeSource.text)),
    ("notes", optionalText row.notes),
    ("created_at", .datetime row.createdAt),
    ("updated_at", .datetime row.updatedAt)]

/-- A text of the length the bodies ask for. -/
def Sized (limit : ℕ) (text : String) : Prop := 0 < text.length ∧ text.length ≤ limit

/-- `SymbolMapEntryUpdate`. -/
structure SymbolMapEntryUpdate where
  canonicalSymbol : String
  exchangeSource : ExchangeSource
  notes : Option String := none
  canonicalSized : Sized 64 canonicalSymbol
  notesSized : ∀ text ∈ notes, text.length ≤ 500

/-- `SymbolMapEntryCreate`. -/
structure SymbolMapEntryCreate extends SymbolMapEntryUpdate where
  inputSymbol : String
  inputSized : Sized 64 inputSymbol

/-- A request to the symbol map. -/
inductive SymbolMapRequest where
  | create (body : SymbolMapEntryCreate)
  | update (inputSymbol : String) (body : SymbolMapEntryUpdate)
  | delete (inputSymbol : String)

/-- What the caller is answered. -/
inductive SymbolMapAnswer where
  | created (row : SymbolMapRow)
  | updated (row : SymbolMapRow)
  | deleted
  | notFound
  | conflict
  deriving DecidableEq, Repr

def SymbolMapAnswer.status : SymbolMapAnswer → ℕ
  | .created _ => 201
  | .updated _ => 200
  | .deleted => 204
  | .notFound => 404
  | .conflict => 409

/-- The table `symbol_map`, by input symbol. -/
abbrev SymbolMap := String → Option SymbolMapRow

namespace SymbolMapRequest

/-- The entry a request is about; its audit event names it too. -/
def key : SymbolMapRequest → String
  | .create body => body.inputSymbol
  | .update inputSymbol _ => inputSymbol
  | .delete inputSymbol => inputSymbol

def action : SymbolMapRequest → String
  | .create _ => "symbol_map.create"
  | .update _ _ => "symbol_map.update"
  | .delete _ => "symbol_map.delete"

/-- `insert_symbol_map_entry`, `update_symbol_map_entry` and `delete_symbol_map_entry`: what a write
leaves of an entry; nothing where no row can be written. -/
def write (now : ℤ) : SymbolMapRequest → Option SymbolMapRow → Option (Option SymbolMapRow)
  | .create body, none =>
      some (some ⟨body.inputSymbol, body.canonicalSymbol, body.exchangeSource, body.notes, now, now⟩)
  | .create _, some _ => none
  | .update _ body, some row =>
      some (some { row with
        canonicalSymbol := body.canonicalSymbol, exchangeSource := body.exchangeSource,
        notes := body.notes, updatedAt := now })
  | .delete _, some _ => some none
  | .update _ _, none => none
  | .delete _, none => none

/-- The answer where no row can be written. -/
def refused : SymbolMapRequest → SymbolMapAnswer
  | .create _ => .conflict
  | .update _ _ => .notFound
  | .delete _ => .notFound

/-- The answer after the commit, from the row that the write returned. -/
def done : SymbolMapRequest → Option SymbolMapRow → SymbolMapAnswer
  | .create _, some row => .created row
  | .update _ _, some row => .updated row
  | _, _ => .deleted

end SymbolMapRequest

/-! ## A request -/

/-- The tables, and the sequence that numbers the audit events. -/
structure AdminTables where
  symbolMap : SymbolMap
  auditEvents : List AuditEvent := []
  auditSequence : ℕ := 0

/-- The commit of a transaction that has written an entry and inserted its event. -/
def AdminTables.commitEntry (tables : AdminTables) (key : String) (after : Option SymbolMapRow)
    (event : AuditEvent) : AdminTables :=
  { tables with
    symbolMap := Function.update tables.symbolMap key after
    auditEvents := tables.auditEvents ++ [event] }

/-- How far a request has come. -/
inductive SymbolMapPhase where
  | arrived
  /-- The read before the transaction found this row. -/
  | read (before : SymbolMapRow)
  /-- The transaction has written the entry. -/
  | written (before after : Option SymbolMapRow)
  /-- The transaction has inserted its audit event. -/
  | logged (event : AuditEvent) (after : Option SymbolMapRow)
  | answered (answer : SymbolMapAnswer)
  | failed

/-- A request under way. -/
structure SymbolMapSession where
  call : AdminCall SymbolMapRequest
  phase : SymbolMapPhase := .arrived

section Program

variable (str : ℤ → String)

def SymbolMapSession.key (session : SymbolMapSession) : String := session.call.request.key

/-- A row as the audit trail has it. -/
def stateOf (row : Option SymbolMapRow) : Option Json :=
  row.map fun row => jsonableRow str row.asdict

/-- The audit event of a request. -/
def symbolMapEvent (call : AdminCall SymbolMapRequest) (id : ℕ)
    (before after : Option SymbolMapRow) : AuditEvent where
  id := id
  occurredAt := call.now
  actor := call.actor
  action := call.request.action
  entityType := "symbol_map"
  entityId := call.request.key
  beforeState := stateOf str before
  afterState := stateOf str after
  correlationId := call.correlationId

/-- The write in the transaction. -/
def writeEntry (call : AdminCall SymbolMapRequest) (before : Option SymbolMapRow)
    (tables : AdminTables) : SymbolMapPhase :=
  match call.request.write call.now (tables.symbolMap call.request.key) with
  | some after => .written before after
  | none => .answered call.request.refused

/-- `create_symbol_map_entry_endpoint`, `update_symbol_map_entry_endpoint` and
`delete_symbol_map_entry_endpoint`, one statement further. -/
def symbolMapNext (tables : AdminTables) (session : SymbolMapSession) :
    AdminTables × SymbolMapSession :=
  let call := session.call
  match session.phase with
  | .arrived =>
      match call.request with
      | .create _ => (tables, { session with phase := writeEntry call none tables })
      | request =>
          match tables.symbolMap request.key with
          | none => (tables, { session with phase := .answered .notFound })
          | some row => (tables, { session with phase := .read row })
  | .read before => (tables, { session with phase := writeEntry call (some before) tables })
  | .written before after =>
      ({ tables with auditSequence := tables.auditSequence + 1 },
        { session with
          phase := .logged (symbolMapEvent str call tables.auditSequence before after) after })
  | .logged event after =>
      (tables.commitEntry call.request.key after event,
        { session with phase := .answered (call.request.done after) })
  | .answered _ => (tables, session)
  | .failed => (tables, session)

/-- The entry that the open transaction of a request has written. -/
def SymbolMapSession.holds (session : SymbolMapSession) : Option String :=
  match session.phase with
  | .written _ _ => some session.key
  | .logged _ _ => some session.key
  | _ => none

/-- The entry that the next statement of a request writes. -/
def SymbolMapSession.wants (session : SymbolMapSession) : Option String :=
  match session.phase, session.call.request with
  | .arrived, .create body => some body.inputSymbol
  | .read _, request => some request.key
  | _, _ => none

/-- A request that fails before it has answered. -/
def SymbolMapSession.fail (session : SymbolMapSession) : SymbolMapSession :=
  match session.phase with
  | .answered _ => session
  | _ => { session with phase := .failed }

def symbolMapProgram : Locking AdminTables SymbolMapSession String where
  holds := SymbolMapSession.holds
  wants := SymbolMapSession.wants
  next := symbolMapNext str
  fail := SymbolMapSession.fail

end Program

/-! ## What a statement does -/

variable {str : ℤ → String}

/-- What the open transaction of a request leaves of its entry. -/
def SymbolMapPhase.pending : SymbolMapPhase → Option (Option SymbolMapRow)
  | .written _ after => some after
  | .logged _ after => some after
  | _ => none

theorem holds_eq_some_iff {session : SymbolMapSession} {key : String} :
    session.holds = some key ↔ session.phase.pending.isSome = true ∧ session.key = key := by
  obtain ⟨call, phase⟩ := session
  cases phase <;> simp [SymbolMapSession.holds, SymbolMapPhase.pending]

/-- What a statement does: before it, the phase; after it, the tables and the phase. -/
inductive SymbolMapMove (str : ℤ → String) (tables : AdminTables)
    (call : AdminCall SymbolMapRequest) : SymbolMapPhase → AdminTables → SymbolMapPhase → Prop
  /-- The read before the transaction finds nothing. -/
  | misses (absent : tables.symbolMap call.request.key = none)
      (refused : call.request.write call.now none = none) :
      SymbolMapMove str tables call .arrived tables (.answered call.request.refused)
  | reads (row : SymbolMapRow) (found : tables.symbolMap call.request.key = some row)
      (refused : call.request.write call.now none = none) :
      SymbolMapMove str tables call .arrived tables (.read row)
  | creates (body : SymbolMapEntryCreate) (asked : call.request = .create body)
      (after : Option SymbolMapRow)
      (written : call.request.write call.now (tables.symbolMap call.request.key) = some after) :
      SymbolMapMove str tables call .arrived tables (.written none after)
  | writes (before : SymbolMapRow) (after : Option SymbolMapRow)
      (written : call.request.write call.now (tables.symbolMap call.request.key) = some after) :
      SymbolMapMove str tables call (.read before) tables (.written (some before) after)
  /-- The write finds the entry there, or gone. -/
  | refuses (phase : SymbolMapPhase)
      (waited : SymbolMapSession.wants ⟨call, phase⟩ = some call.request.key)
      (refused : call.request.write call.now (tables.symbolMap call.request.key) = none) :
      SymbolMapMove str tables call phase tables (.answered call.request.refused)
  | logs (before after : Option SymbolMapRow) :
      SymbolMapMove str tables call (.written before after)
        { tables with auditSequence := tables.auditSequence + 1 }
        (.logged (symbolMapEvent str call tables.auditSequence before after) after)
  | commits (event : AuditEvent) (after : Option SymbolMapRow) :
      SymbolMapMove str tables call (.logged event after)
        (tables.commitEntry call.request.key after event)
        (.answered (call.request.done after))
  | ended (phase : SymbolMapPhase) (closed : phase.pending = none)
      (waits : SymbolMapSession.wants ⟨call, phase⟩ = none) :
      SymbolMapMove str tables call phase tables phase

variable (str) in
/-- Every statement does one of these. -/
theorem symbolMapNext_moves (tables : AdminTables) (call : AdminCall SymbolMapRequest)
    (phase : SymbolMapPhase) :
    ∃ tables' phase', (symbolMapProgram str).next tables ⟨call, phase⟩ = (tables', ⟨call, phase'⟩) ∧
      SymbolMapMove str tables call phase tables' phase' := by
  have writing : ∀ before : Option SymbolMapRow,
      (∃ after, call.request.write call.now (tables.symbolMap call.request.key) = some after ∧
        writeEntry call before tables = .written before after) ∨
      (call.request.write call.now (tables.symbolMap call.request.key) = none ∧
        writeEntry call before tables = .answered call.request.refused) := by
    intro before
    unfold writeEntry
    cases call.request.write call.now (tables.symbolMap call.request.key) with
    | some after => exact .inl ⟨after, rfl, rfl⟩
    | none => exact .inr ⟨rfl, rfl⟩
  cases phase with
  | arrived =>
      have reading : ∀ request, call.request = request → request.write call.now none = none →
          ∃ tables' phase',
            (match tables.symbolMap request.key with
              | none => (tables, { call := call, phase := .answered request.refused })
              | some row => (tables, ({ call := call, phase := .read row } : SymbolMapSession))) =
                (tables', ⟨call, phase'⟩) ∧
              SymbolMapMove str tables call .arrived tables' phase' := by
        rintro request rfl unwritten
        cases found : tables.symbolMap call.request.key with
        | none => exact ⟨_, _, rfl, .misses found unwritten⟩
        | some row => exact ⟨_, _, rfl, .reads row found unwritten⟩
      cases asked : call.request with
      | create body =>
          refine ⟨_, _, by simp only [symbolMapProgram, symbolMapNext, asked]; rfl, ?_⟩
          rcases writing none with ⟨after, written, same⟩ | ⟨refused, same⟩
          · rw [same]
            exact .creates body asked after written
          · rw [same]
            exact .refuses _ (by simp [SymbolMapSession.wants, asked, SymbolMapRequest.key]) refused
      | update inputSymbol body =>
          simp only [symbolMapProgram, symbolMapNext, asked]
          exact reading _ asked rfl
      | delete inputSymbol =>
          simp only [symbolMapProgram, symbolMapNext, asked]
          exact reading _ asked rfl
  | read before =>
      refine ⟨_, _, rfl, ?_⟩
      rcases writing (some before) with ⟨after, written, same⟩ | ⟨refused, same⟩
      · rw [same]
        exact .writes before after written
      · rw [same]
        exact .refuses _ rfl refused
  | written before after => exact ⟨_, _, rfl, .logs before after⟩
  | logged event after => exact ⟨_, _, rfl, .commits event after⟩
  | answered answer => exact ⟨_, _, rfl, .ended _ rfl rfl⟩
  | failed => exact ⟨_, _, rfl, .ended _ rfl rfl⟩

theorem symbolMap_disciplined : (symbolMapProgram str).Disciplined where
  acquires := by
    rintro tables ⟨call, phase⟩ key held
    obtain ⟨tables', phase', same, move⟩ := symbolMapNext_moves str tables call phase
    rw [same] at held
    obtain ⟨pending, rfl⟩ := holds_eq_some_iff.mp held
    cases move with
    | creates body asked after written =>
        exact .inr (by simp [symbolMapProgram, SymbolMapSession.wants, asked, SymbolMapSession.key,
          SymbolMapRequest.key])
    | writes before after written => exact .inr rfl
    | logs before after => exact .inl rfl
    | ended phase closed waits =>
        rw [closed] at pending
        cases pending
    | misses => cases pending
    | reads => cases pending
    | refuses => cases pending
    | commits => cases pending
  releases := by
    rintro ⟨call, phase⟩
    cases phase <;> rfl

/-- Only the commit of a request changes the table, at the entry it has written. -/
theorem SymbolMapMove.symbolMap_eq {tables tables' : AdminTables}
    {call : AdminCall SymbolMapRequest} {phase phase' : SymbolMapPhase} {key : String}
    (move : SymbolMapMove str tables call phase tables' phase')
    (apart : SymbolMapSession.holds ⟨call, phase⟩ ≠ some key) :
    tables'.symbolMap key = tables.symbolMap key := by
  cases move with
  | commits event after =>
      refine Function.update_of_ne (fun same => apart ?_) ..
      rw [same]
      rfl
  | _ => rfl

/-! ## Runs -/

/-- The requests, none of which has begun. -/
def arriving {ι : Type*} (calls : ι → AdminCall SymbolMapRequest) (tables : AdminTables) :
    Sessions ι AdminTables SymbolMapSession :=
  ⟨tables, fun i => ⟨calls i, .arrived⟩⟩

end Scalper.Admin
