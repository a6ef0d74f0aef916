import Scalper.Admin.SymbolMap

/-!
# The audit trail of the symbol map

What the events of an entry say about it (`Trailed`).  The last one has the entry as it is now, the
events are numbered in the order of their commits, and each is a legal change of what the one before
it left: an entry is created where there was none, updated and deleted where there was one, and an
update keeps the time of its creation.

The state an event gives as the one before is read before the transaction opens.  It is a state the
entry had at some time, and not always the last one.
-/

set_option autoImplicit false

namespace Scalper.Admin

open Scalper.Lib

/-- The time of creation in a recorded state. -/
def createdAtOf : Option Json → Option Json
  | some (.object fields) =>
      (fields.find? fun field => field.1 = "created_at").map Prod.snd
  | _ => none

/-- A change of an entry that was as recorded before. -/
inductive LegalChange (current : Option Json) (event : AuditEvent) : Prop
  | create (action : event.action = "symbol_map.create") (absent : current = none)
      (present : event.afterState ≠ none)
  | update (action : event.action = "symbol_map.update") (present : current ≠ none)
      (still : event.afterState ≠ none) (created : createdAtOf event.afterState = createdAtOf current)
  | delete (action : event.action = "symbol_map.delete") (present : current ≠ none)
      (absent : event.afterState = none)

/-- An event of an entry that had these states, the first of them before any event. -/
structure LegalEvent (initial : Option Json) (earlier : List AuditEvent) (event : AuditEvent) :
    Prop where
  change : LegalChange (auditedState initial earlier) event
  before : event.beforeState ∈ auditStates initial earlier
  created : event.beforeState = none ↔ event.action = "symbol_map.create"
  numbered : ∀ other ∈ earlier, other.id < event.id

section Trails

variable (str : ℤ → String) (initial : SymbolMap)

def symbolMapTrail (tables : AdminTables) (key : String) : List AuditEvent :=
  auditTrail "symbol_map" key tables.auditEvents

/-- The events and the table tell the same. -/
structure Trailed (tables : AdminTables) : Prop where
  table : ∀ key, stateOf str (tables.symbolMap key) =
    auditedState (stateOf str (initial key)) (symbolMapTrail tables key)
  legal : ∀ key, EachAfter (LegalEvent (stateOf str (initial key))) (symbolMapTrail tables key)
  below : ∀ event ∈ tables.auditEvents, event.id < tables.auditSequence

/-- The row a request takes for the one before its change. -/
structure WasRead (tables : AdminTables) (call : AdminCall SymbolMapRequest)
    (before : Option SymbolMapRow) : Prop where
  state : stateOf str before ∈
    auditStates (stateOf str (initial call.request.key)) (symbolMapTrail tables call.request.key)
  created : before = none ↔ call.request.action = "symbol_map.create"

/-- What an open request knows of its entry. -/
inductive Recorded (tables : AdminTables) (call : AdminCall SymbolMapRequest) :
    SymbolMapPhase → Prop
  | arrived : Recorded tables call .arrived
  | read (row : SymbolMapRow) (known : WasRead str initial tables call (some row)) :
      Recorded tables call (.read row)
  | written (before after : Option SymbolMapRow) (known : WasRead str initial tables call before)
      (writes : call.request.write call.now (tables.symbolMap call.request.key) = some after) :
      Recorded tables call (.written before after)
  | logged (before after : Option SymbolMapRow) (known : WasRead str initial tables call before)
      (writes : call.request.write call.now (tables.symbolMap call.request.key) = some after)
      (id : ℕ) (numbered : id < tables.auditSequence)
      (latest : ∀ event ∈ symbolMapTrail tables call.request.key, event.id < id) :
      Recorded tables call (.logged (symbolMapEvent str call id before after) after)
  | answered (answer : SymbolMapAnswer) : Recorded tables call (.answered answer)
  | failed : Recorded tables call .failed

variable {str initial}

/-- What a request leaves of an entry is a legal change of what it finds. -/
theorem legalChange_of_write {call : AdminCall SymbolMapRequest} {current after : Option SymbolMapRow}
    (writes : call.request.write call.now current = some after) (id : ℕ)
    (before : Option SymbolMapRow) :
    LegalChange (stateOf str current) (symbolMapEvent str call id before after) := by
  obtain ⟨request, host, header, now⟩ := call
  cases request with
  | create body =>
      cases current with
      | some row => cases writes
      | none =>
          obtain rfl := Option.some.inj writes
          exact .create rfl rfl (by simp [symbolMapEvent, stateOf])
  | update inputSymbol body =>
      cases current with
      | none => cases writes
      | some row =>
          obtain rfl := Option.some.inj writes
          exact .update rfl (by simp [stateOf]) (by simp [symbolMapEvent, stateOf]) rfl
  | delete inputSymbol =>
      cases current with
      | none => cases writes
      | some row =>
          obtain rfl := Option.some.inj writes
          exact .delete rfl (by simp [stateOf]) rfl

/-- The event of a request, where the table agrees with the events. -/
theorem Trailed.legalEvent {tables : AdminTables} (trailed : Trailed str initial tables)
    {call : AdminCall SymbolMapRequest} {before after : Option SymbolMapRow} {id : ℕ}
    (known : WasRead str initial tables call before)
    (writes : call.request.write call.now (tables.symbolMap call.request.key) = some after)
    (latest : ∀ event ∈ symbolMapTrail tables call.request.key, event.id < id) :
    LegalEvent (stateOf str (initial call.request.key)) (symbolMapTrail tables call.request.key)
      (symbolMapEvent str call id before after) where
  change := by
    rw [← trailed.table]
    exact legalChange_of_write writes id before
  before := known.state
  created := by
    have same : stateOf str before = none ↔ before = none := Option.map_eq_none_iff
    exact same.trans known.created
  numbered := latest

/-- Only a creation writes where there is no row. -/
theorem action_eq_create_iff {call : AdminCall SymbolMapRequest} :
    call.request.action = "symbol_map.create" ↔ call.request.write call.now none ≠ none := by
  obtain ⟨request, host, header, now⟩ := call
  cases request <;> simp [SymbolMapRequest.action, SymbolMapRequest.write]

variable {tables tables' : AdminTables} {call : AdminCall SymbolMapRequest}
  {phase phase' : SymbolMapPhase}

/-- The row that is there, or none, is one the entry had. -/
theorem Trailed.current_mem (trailed : Trailed str initial tables) (key : String) :
    stateOf str (tables.symbolMap key) ∈
      auditStates (stateOf str (initial key)) (symbolMapTrail tables key) := by
  rw [trailed.table]
  exact auditedState_mem _

theorem symbolMapTrail_commit_own (id : ℕ) (before after : Option SymbolMapRow) :
    symbolMapTrail (tables.commitEntry call.request.key after
        (symbolMapEvent str call id before after)) call.request.key =
      symbolMapTrail tables call.request.key ++ [symbolMapEvent str call id before after] :=
  auditTrail_concat_of ⟨rfl, rfl⟩

theorem symbolMapTrail_commit_other {key : String} (different : key ≠ call.request.key) (id : ℕ)
    (before after : Option SymbolMapRow) :
    symbolMapTrail (tables.commitEntry call.request.key after
        (symbolMapEvent str call id before after)) key = symbolMapTrail tables key :=
  auditTrail_concat_of_not fun both => different both.2.symm

/-- A statement adds at most one event to an entry, and to no other entry than its own. -/
theorem SymbolMapMove.trail_cases (move : SymbolMapMove str tables call phase tables' phase')
    (recorded : Recorded str initial tables call phase) (key : String) :
    symbolMapTrail tables' key = symbolMapTrail tables key ∨
      (SymbolMapSession.holds ⟨call, phase⟩ = some key ∧
        ∃ event, symbolMapTrail tables' key = symbolMapTrail tables key ++ [event]) := by
  cases move with
  | commits event after =>
      cases recorded with
      | logged before after known writes id numbered latest =>
          by_cases own : key = call.request.key
          · subst own
            exact .inr ⟨rfl, _, symbolMapTrail_commit_own id before after⟩
          · exact .inl (symbolMapTrail_commit_other own id before after)
  | _ => exact .inl rfl

theorem SymbolMapMove.sequence_le (move : SymbolMapMove str tables call phase tables' phase') :
    tables.auditSequence ≤ tables'.auditSequence := by
  cases move with
  | logs before after => exact Nat.le_succ _
  | _ => exact le_rfl

/-- What was read stays a state the entry had. -/
theorem WasRead.of_move {other : AdminCall SymbolMapRequest} {before : Option SymbolMapRow}
    (known : WasRead str initial tables other before)
    (move : SymbolMapMove str tables call phase tables' phase')
    (recorded : Recorded str initial tables call phase) :
    WasRead str initial tables' other before where
  created := known.created
  state := by
    rcases move.trail_cases recorded other.request.key with same | ⟨-, event, added⟩
    · rw [same]
      exact known.state
    · rw [added, auditStates_concat]
      exact List.mem_append_left _ known.state

/-- The commit of a request adds its event to the trail of its entry, and its row to the table. -/
theorem Trailed.commit (trailed : Trailed str initial tables) {before after : Option SymbolMapRow}
    {id : ℕ} (known : WasRead str initial tables call before)
    (writes : call.request.write call.now (tables.symbolMap call.request.key) = some after)
    (numbered : id < tables.auditSequence)
    (latest : ∀ event ∈ symbolMapTrail tables call.request.key, event.id < id) :
    Trailed str initial (tables.commitEntry call.request.key after
      (symbolMapEvent str call id before after)) where
  table := by
    intro key
    by_cases own : key = call.request.key
    · subst own
      rw [symbolMapTrail_commit_own, auditedState_concat]
      exact congrArg (stateOf str) (Function.update_self ..)
    · rw [symbolMapTrail_commit_other own, ← trailed.table]
      exact congrArg (stateOf str) (Function.update_of_ne own ..)
  legal := by
    intro key
    by_cases own : key = call.request.key
    · subst own
      rw [symbolMapTrail_commit_own]
      exact (trailed.legal _).concat (trailed.legalEvent known writes latest)
    · rw [symbolMapTrail_commit_other own]
      exact trailed.legal key
  below := by
    intro event member
    rcases List.mem_append.mp member with earlier | new
    · exact trailed.below event earlier
    · rw [List.mem_singleton.mp new]
      exact numbered

theorem Trailed.of_move (trailed : Trailed str initial tables)
    (recorded : Recorded str initial tables call phase)
    (move : SymbolMapMove str tables call phase tables' phase') :
    Trailed str initial tables' := by
  cases move with
  | logs before after =>
      exact ⟨trailed.table, trailed.legal, fun event member =>
        (trailed.below event member).trans (Nat.lt_succ_self _)⟩
  | commits event after =>
      cases recorded with
      | logged before after known writes id numbered latest =>
          exact trailed.commit known writes numbered latest
  | _ => exact trailed

/-- What a request knows after its own statement. -/
theorem Recorded.of_own (recorded : Recorded str initial tables call phase)
    (trailed : Trailed str initial tables)
    (move : SymbolMapMove str tables call phase tables' phase') :
    Recorded str initial tables' call phase' := by
  cases move with
  | misses absent refused => exact .answered _
  | reads row found refused =>
      refine .read row ⟨?_, iff_of_false (by simp) fun creation => ?_⟩
      · rw [← found]
        exact trailed.current_mem _
      · exact action_eq_create_iff.mp creation refused
  | creates body asked after written =>
      have creation : call.request.action = "symbol_map.create" := by rw [asked]; rfl
      refine .written none after ⟨?_, iff_of_true rfl creation⟩ written
      have absent : tables.symbolMap call.request.key = none := by
        cases found : tables.symbolMap call.request.key with
        | none => rfl
        | some row =>
            rw [found, asked] at written
            cases written
      rw [← absent]
      exact trailed.current_mem _
  | writes before after written =>
      cases recorded with
      | read row known => exact .written _ after known written
  | refuses phase waited refused => exact .answered _
  | logs before after =>
      cases recorded with
      | written before after known writes =>
          have still : WasRead str initial
              { tables with auditSequence := tables.auditSequence + 1 } call before :=
            ⟨known.state, known.created⟩
          exact .logged before after still writes _ (Nat.lt_succ_self _) fun event member =>
            trailed.below event (List.mem_of_mem_filter member)
  | commits event after => exact .answered _
  | ended phase closed waits => exact recorded

/-- What a request knows after the statement of another. -/
theorem Recorded.of_other {other : AdminCall SymbolMapRequest} {waiting : SymbolMapPhase}
    (known : Recorded str initial tables other waiting)
    (recorded : Recorded str initial tables call phase)
    (move : SymbolMapMove str tables call phase tables' phase')
    (apart : Locking.Apart (SymbolMapSession.holds ⟨call, phase⟩)
      (SymbolMapSession.holds ⟨other, waiting⟩)) :
    Recorded str initial tables' other waiting := by
  have untouched : SymbolMapSession.holds ⟨other, waiting⟩ = some other.request.key →
      SymbolMapSession.holds ⟨call, phase⟩ ≠ some other.request.key :=
    fun held both => apart _ both held
  cases known with
  | arrived => exact .arrived
  | read row before => exact .read row (before.of_move move recorded)
  | written before after read writes =>
      refine .written before after (read.of_move move recorded) ?_
      rwa [move.symbolMap_eq (untouched rfl)]
  | logged before after read writes id numbered latest =>
      refine .logged before after (read.of_move move recorded) ?_ id
        (numbered.trans_le move.sequence_le) ?_
      · rwa [move.symbolMap_eq (untouched rfl)]
      · rcases move.trail_cases recorded other.request.key with same | ⟨held, -⟩
        · rwa [same]
        · exact absurd held (untouched rfl)
  | answered answer => exact .answered answer
  | failed => exact .failed

theorem trailed_kept :
    (symbolMapProgram str).Kept (Trailed str initial)
      (fun tables session => Recorded str initial tables session.call session.phase) where
  own := by
    rintro tables ⟨call, phase⟩ trailed recorded
    obtain ⟨tables', phase', same, move⟩ := symbolMapNext_moves str tables call phase
    rw [same]
    exact ⟨trailed.of_move recorded move, recorded.of_own trailed move⟩
  others := by
    rintro tables ⟨call, phase⟩ ⟨other, waiting⟩ trailed recorded known apart -
    obtain ⟨tables', phase', same, move⟩ := symbolMapNext_moves str tables call phase
    rw [same]
    exact known.of_other recorded move apart
  failed := by
    rintro tables ⟨call, phase⟩ recorded
    cases phase with
    | answered answer => exact recorded
    | _ => exact .failed

end Trails

/-- The audit trail accounts for the symbol map: whatever the order of the statements of any number
of requests, and whichever of them fail, the last event of each entry has it as it is in the table,
each event is a legal change of what the one before it left, numbered after it, and the state it
gives as the one before is a state the entry had. -/
theorem symbolMap_trailed {ι : Type*} [Fintype ι] [DecidableEq ι] (str : ℤ → String)
    (initial : SymbolMap) (calls : ι → AdminCall SymbolMapRequest)
    (events : List (SessionStep ι)) :
    Trailed str initial (run (symbolMapProgram str).step
      (arriving calls { symbolMap := initial }) events).shared := by
  refine (trailed_kept.run_kept symbolMap_disciplined (s := arriving calls _) ?_ events).data
  exact
    { exclusive := fun i j _ key held => by cases held
      data :=
        { table := fun key => rfl
          legal := fun key => eachAfter_nil
          below := fun event member => absurd member List.not_mem_nil }
      seen := fun i => .arrived }

end Scalper.Admin
