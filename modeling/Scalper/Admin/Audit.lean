import Scalper.Gateway.Webhook
import Scalper.Lib.Window

/-!
# The audit trail

`packages/db/queries/audit.py` with what the admin routers of the analytics service share: whom a
request is attributed to, its correlation id, and the row that a write leaves in `audit_events`.
Times are microseconds, and what `str` writes for one is a parameter.
-/

set_option autoImplicit false

namespace Scalper.Admin

open Scalper.Lib Scalper.Gateway

/-- A value of a column, as a row projection holds it. -/
inductive ColumnValue where
  | native (value : Json)
  | datetime (moment : ℤ)

/-- `_to_jsonable`, of a value that is not a container. -/
def toJsonable (str : ℤ → String) : ColumnValue → Json
  | .native value => value
  | .datetime moment => .string (str moment)

/-- `_to_jsonable` of the dictionary of a row. -/
def jsonableRow (str : ℤ → String) (columns : List (String × ColumnValue)) : Json :=
  .object (columns.map fun column => (column.1, toJsonable str column.2))

def optionalText : Option String → ColumnValue
  | some text => .native (.string text)
  | none => .native .null

/-- A row of `audit_events`. -/
structure AuditEvent where
  id : ℕ
  occurredAt : ℤ
  actor : String
  action : String
  entityType : String
  entityId : String
  beforeState : Option Json
  afterState : Option Json
  correlationId : Option String

/-- An admin request: what is asked, by whom, and the reading of `now_fn`. -/
structure AdminCall (ω : Type*) where
  request : ω
  clientHost : Option String := none
  correlationHeader : Option String := none
  now : ℤ

namespace AdminCall

variable {ω : Type*} (call : AdminCall ω)

/-- `_resolve_actor`. -/
def actor : String :=
  match call.clientHost with
  | none => "lan:unknown"
  | some host => "lan:" ++ host

/-- `_resolve_correlation_id`. -/
def correlationId : Option String :=
  call.correlationHeader.filter fun header => header ≠ "" ∧ strip header ≠ ""

end AdminCall

/-! ## The events of one entity -/

/-- The events of an entity, in the order in which they were committed. -/
def auditTrail (entityType entityId : String) (events : List AuditEvent) : List AuditEvent :=
  events.filter fun event => event.entityType = entityType ∧ event.entityId = entityId

/-- What an entity was before any event, and after each. -/
def auditStates (initial : Option Json) (trail : List AuditEvent) : List (Option Json) :=
  initial :: trail.map AuditEvent.afterState

/-- What an entity is by its events. -/
def auditedState (initial : Option Json) (trail : List AuditEvent) : Option Json :=
  (trail.map AuditEvent.afterState).getLastD initial

section Trails

variable {entityType entityId : String} {events : List AuditEvent} {event : AuditEvent}
  {initial : Option Json}

theorem auditTrail_concat_of (ofEntity : event.entityType = entityType ∧
    event.entityId = entityId) :
    auditTrail entityType entityId (events ++ [event]) =
      auditTrail entityType entityId events ++ [event] := by
  simp [auditTrail, List.filter_append, ofEntity]

theorem auditTrail_concat_of_not (ofOther : ¬(event.entityType = entityType ∧
    event.entityId = entityId)) :
    auditTrail entityType entityId (events ++ [event]) =
      auditTrail entityType entityId events := by
  rw [auditTrail, auditTrail, List.filter_append, List.filter_cons_of_neg (by simpa using ofOther),
    List.filter_nil, List.append_nil]

theorem auditStates_concat (trail : List AuditEvent) :
    auditStates initial (trail ++ [event]) = auditStates initial trail ++ [event.afterState] := by
  simp [auditStates]

theorem auditedState_concat (trail : List AuditEvent) :
    auditedState initial (trail ++ [event]) = event.afterState := by
  simp [auditedState]

/-- The state by the events is one of the states. -/
theorem auditedState_mem (trail : List AuditEvent) :
    auditedState initial trail ∈ auditStates initial trail := by
  induction trail using List.reverseRecOn with
  | nil => exact List.mem_cons_self
  | append_singleton trail event _ =>
      rw [auditedState_concat, auditStates_concat]
      exact List.mem_append_right _ List.mem_cons_self

end Trails

end Scalper.Admin
