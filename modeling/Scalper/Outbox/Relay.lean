import Mathlib.Data.Fintype.Defs
import Mathlib.Data.List.Sort
import Mathlib.Logic.Function.Basic
import Scalper.Lib.Decimal
import Scalper.Lib.Rows

/-!
# The outbox relay

`packages/outbox`: business transactions write the events they mean to publish into `outbox_events`,
and relay workers publish them.  A batch of a worker is one transaction: it selects and locks the
pending events of its service, then publishes and marks them one by one, and commits.  Whatever
goes wrong but a failed publish rolls the transaction back, while messages that have left stay out.

`relayStep` takes one step of any worker, so that a run is an interleaving of the batches of all of
them, with publishes that fail or are cancelled, transactions that are rolled back, and connections
that are lost while their worker goes on.  A batch holds the rows it locked as its transaction sees
them; a commit puts them in the place of the old ones.

Times are in microseconds; the settings' numbers are exact.  Rows of equal `created_at` come in any
order: a step that selects is told the order in which the table was scanned.
-/

set_option autoImplicit false

namespace Scalper.Outbox

open Scalper.Lib

/-- `OutboxRelaySettings`. -/
structure OutboxRelaySettings where
  batchSize : ℕ
  maxAttempts : ℕ
  backoffBase : ℚ
  backoffCap : ℚ
  batchSize_pos : 0 < batchSize
  maxAttempts_pos : 1 ≤ maxAttempts
  backoffBase_pos : 0 < backoffBase
  base_le_cap : backoffBase ≤ backoffCap

/-- `OutboxEvent`, a row of `outbox_events`. -/
structure OutboxEvent where
  id : ℕ
  service : String
  subject : String
  correlationId : Option String
  payload : String
  createdAt : ℤ
  publishedAt : Option ℤ
  attemptCount : ℕ
  lastAttemptAt : Option ℤ
  lastError : Option String
  failedAt : Option ℤ
  deriving DecidableEq

/-- Neither published nor given up. -/
def OutboxEvent.Outstanding (row : OutboxEvent) : Prop :=
  row.publishedAt = none ∧ row.failedAt = none

instance (row : OutboxEvent) : Decidable row.Outstanding := inferInstanceAs (Decidable (_ ∧ _))

/-- What a business transaction writes. -/
structure Intent where
  service : String
  subject : String
  correlationId : Option String
  payload : String
  createdAt : ℤ

/-- The row of an intent, with the defaults of the table. -/
def Intent.row (id : ℕ) (intent : Intent) : OutboxEvent where
  id := id
  service := intent.service
  subject := intent.subject
  correlationId := intent.correlationId
  payload := intent.payload
  createdAt := intent.createdAt
  publishedAt := none
  attemptCount := 0
  lastAttemptAt := none
  lastError := none
  failedAt := none

/-! ## The table -/

/-- The table `outbox_events`. -/
structure OutboxTable where
  rows : List OutboxEvent
  keyed : (rows.map OutboxEvent.id).Nodup

/-- `insert_outbox_event`, with an identifier of the sequence. -/
def insertOutboxEvent (table : OutboxTable) (id : ℕ) (intent : Intent) : OutboxTable :=
  if fresh : id ∉ table.rows.map OutboxEvent.id then
    ⟨table.rows ++ [intent.row id], by
      rw [List.map_append, List.map_singleton]
      exact List.nodup_append.mpr ⟨table.keyed, List.nodup_singleton _, fun old listed new here =>
        (List.mem_singleton.mp here).symm ▸ ne_of_mem_of_not_mem listed fresh⟩⟩
  else table

theorem rows_insertOutboxEvent (table : OutboxTable) (id : ℕ) (intent : Intent) :
    (insertOutboxEvent table id intent).rows = table.rows ∨
      id ∉ table.rows.map OutboxEvent.id ∧
        (insertOutboxEvent table id intent).rows = table.rows ++ [intent.row id] := by
  unfold insertOutboxEvent
  split
  · next fresh => exact .inr ⟨fresh, rfl⟩
  · exact .inl rfl

/-- A row after an insert is an old one, or the new. -/
theorem mem_insertOutboxEvent {table : OutboxTable} {id : ℕ} {intent : Intent} {row : OutboxEvent}
    (member : row ∈ (insertOutboxEvent table id intent).rows) :
    row ∈ table.rows ∨ row = intent.row id := by
  rcases rows_insertOutboxEvent table id intent with same | ⟨-, added⟩
  · exact .inl (same ▸ member)
  · rw [added] at member
    simpa using member

/-- A row as it is after a transaction wrote some of the rows. -/
def afterWrites (written : List OutboxEvent) (row : OutboxEvent) : OutboxEvent :=
  (written.find? (·.id = row.id)).getD row

theorem afterWrites_cases (written : List OutboxEvent) (row : OutboxEvent) :
    afterWrites written row ∈ written ∧ (afterWrites written row).id = row.id ∨
      afterWrites written row = row ∧ row.id ∉ written.map OutboxEvent.id := by
  unfold afterWrites
  cases found : written.find? (·.id = row.id) with
  | some other =>
      exact .inl ⟨List.mem_of_find?_eq_some found, by simpa using List.find?_some found⟩
  | none =>
      refine .inr ⟨rfl, fun listed => ?_⟩
      obtain ⟨other, member, same⟩ := List.mem_map.mp listed
      simpa [same] using List.find?_eq_none.mp found other member

theorem id_afterWrites (written : List OutboxEvent) (row : OutboxEvent) :
    (afterWrites written row).id = row.id := by
  rcases afterWrites_cases written row with ⟨-, same⟩ | ⟨same, -⟩
  · exact same
  · rw [same]

/-- The table after a transaction that wrote some of the rows. -/
def OutboxTable.commit (table : OutboxTable) (written : List OutboxEvent) : OutboxTable where
  rows := table.rows.map (afterWrites written)
  keyed := by
    rw [List.map_map, show OutboxEvent.id ∘ afterWrites written = OutboxEvent.id from
      funext (id_afterWrites written)]
    exact table.keyed

/-- A row after a transaction is one it wrote, or an old one it did not hold. -/
theorem mem_commit {table : OutboxTable} {written : List OutboxEvent} {row : OutboxEvent}
    (member : row ∈ (table.commit written).rows) :
    row ∈ written ∨ row ∈ table.rows ∧ row.id ∉ written.map OutboxEvent.id := by
  obtain ⟨old, listed, rfl⟩ := List.mem_map.mp member
  rcases afterWrites_cases written old with ⟨wrote, -⟩ | ⟨same, outside⟩
  · exact .inl wrote
  · exact .inr (same.symm ▸ ⟨listed, outside⟩)

/-! ## The queries -/

/-- The interval of `make_interval`, to the microsecond. -/
def backoff (settings : OutboxRelaySettings) (attemptCount : ℕ) : ℤ :=
  roundHalfEven (min (settings.backoffBase * 2 ^ attemptCount) settings.backoffCap * 1000000)

/-- No backoff is longer than the cap. -/
theorem backoff_le_cap (settings : OutboxRelaySettings) (attemptCount : ℕ) :
    backoff settings attemptCount ≤ roundHalfEven (settings.backoffCap * 1000000) :=
  roundHalfEven_nearest.mono
    (mul_le_mul_of_nonneg_right (min_le_right _ _) (by norm_num))

/-- The `WHERE` clause of `select_pending_outbox_events`, but for the service. -/
def Pending (settings : OutboxRelaySettings) (now : ℤ) (row : OutboxEvent) : Prop :=
  row.publishedAt = none ∧ row.failedAt = none ∧
    ∀ last ∈ row.lastAttemptAt, last ≤ now - backoff settings row.attemptCount

instance (settings : OutboxRelaySettings) (now : ℤ) (row : OutboxEvent) :
    Decidable (Pending settings now row) :=
  inferInstanceAs (Decidable (_ ∧ _ ∧ _))

/-- `select_pending_outbox_events`: the oldest pending rows that nobody has locked. -/
def selectPendingOutboxEvents (settings : OutboxRelaySettings) (service : String) (now : ℤ)
    (locked : ℕ → Bool) (scan : List OutboxEvent) : List OutboxEvent :=
  ((scan.filter fun row => row.service = service ∧ Pending settings now row ∧
    locked row.id = false).insertionSort fun row later => row.createdAt ≤ later.createdAt).take
      settings.batchSize

/-- A statement that marks an event. -/
inductive Mark where
  | published (eventId : ℕ) (publishedAt : ℤ)
  | failed (eventId : ℕ) (lastAttemptAt : ℤ) (lastError : String) (maxAttempts : ℕ) (failedAt : ℤ)
  deriving DecidableEq

def Mark.eventId : Mark → ℕ
  | .published eventId _ => eventId
  | .failed eventId _ _ _ _ => eventId

/-- `mark_outbox_event_published` and `mark_outbox_event_failed`, on the row. -/
def Mark.write : Mark → OutboxEvent → OutboxEvent
  | .published _ publishedAt, row => { row with publishedAt := some publishedAt }
  | .failed _ lastAttemptAt lastError maxAttempts failedAt, row =>
      { row with
        attemptCount := row.attemptCount + 1
        lastAttemptAt := some lastAttemptAt
        lastError := some lastError
        failedAt := if maxAttempts ≤ row.attemptCount + 1 then some failedAt else none }

/-- The statement, on the rows of the transaction. -/
def Mark.apply (mark : Mark) (rows : List OutboxEvent) : List OutboxEvent :=
  updateWhere (fun row => row.id = mark.eventId) mark.write rows

/-! ## Messages -/

section Messages

variable {MessageId : Type}

/-- `MessageEnvelope`. -/
structure MessageEnvelope (MessageId : Type) where
  messageId : MessageId
  correlationId : String
  publisher : String
  payload : String
  deriving DecidableEq

/-- A message that reached the server: the event, its envelope, the batch it was sent in, and
whether the publish returned. -/
structure Publication (MessageId : Type) where
  event : OutboxEvent
  envelope : MessageEnvelope MessageId
  batch : ℕ
  returned : Bool
  deriving DecidableEq

/-- What becomes of a publish. -/
inductive PublishOutcome where
  | returns
  | raises (error : String) (sent : Bool)
  | cancelled (sent : Bool)
  deriving DecidableEq

/-- Whether the message reached the server. -/
def PublishOutcome.sent : PublishOutcome → Bool
  | .returns => true
  | .raises _ sent => sent
  | .cancelled sent => sent

/-- The statement that follows a publish, unless the worker was cancelled. -/
def PublishOutcome.mark (eventId : ℕ) (now : ℤ) (maxAttempts : ℕ) : PublishOutcome → Option Mark
  | .returns => some (.published eventId now)
  | .raises error _ => some (.failed eventId now error maxAttempts now)
  | .cancelled _ => none

end Messages

/-! ## Workers -/

/-- The transaction of a worker: the rows it locked as it sees them, the events it has yet to
publish, the statement it has yet to issue, and whether its connection is alive.  Batches are
numbered in the order of their selections. -/
structure Batch where
  number : ℕ
  rows : List OutboxEvent
  events : List OutboxEvent
  unmarked : Option Mark
  connected : Bool
  deriving DecidableEq

/-- The table, the batches that are open, and all that was published. -/
structure State (Worker MessageId : Type) where
  table : OutboxTable
  batches : Worker → Option Batch
  begun : ℕ
  log : List (Publication MessageId)
  drawn : ℕ

/-- The relay workers: the service of each, the settings of a service, and the identifiers
`uuid4` draws one after the other. -/
structure Relay (Worker MessageId : Type) where
  service : Worker → String
  settings : String → OutboxRelaySettings
  uuid4 : ℕ → MessageId

/-- A step of a writer or of a relay worker. -/
inductive Action (Worker : Type) where
  | inserts (id : ℕ) (intent : Intent)
  | begins (worker : Worker) (now : ℤ) (scan : List OutboxEvent)
  | publishes (worker : Worker) (outcome : PublishOutcome) (now : ℤ)
  | marks (worker : Worker)
  | commits (worker : Worker)
  | rollsBack (worker : Worker)
  | disconnects (worker : Worker)

section Steps

variable {Worker MessageId : Type} [Fintype Worker] [DecidableEq Worker]

/-- Nothing written, nobody at work. -/
def initial : State Worker MessageId := ⟨⟨[], List.nodup_nil⟩, fun _ => none, 0, [], 0⟩

/-- Some live transaction holds the row. -/
def State.locked (s : State Worker MessageId) (id : ℕ) : Bool :=
  decide (∃ worker, (s.batches worker).any fun batch =>
    batch.connected && decide (id ∈ batch.rows.map OutboxEvent.id))

def State.setBatch (s : State Worker MessageId) (worker : Worker) (batch : Option Batch) :
    State Worker MessageId :=
  { s with batches := Function.update s.batches worker batch }

namespace Relay

variable (relay : Relay Worker MessageId)

/-- The settings of a worker. -/
def settingsOf (worker : Worker) : OutboxRelaySettings := relay.settings (relay.service worker)

/-- The events a worker selects. -/
def selection (s : State Worker MessageId) (worker : Worker) (now : ℤ) (scan : List OutboxEvent) :
    List OutboxEvent :=
  selectPendingOutboxEvents (relay.settingsOf worker) (relay.service worker) now s.locked scan

/-- The envelope of an event. -/
def envelope (worker : Worker) (event : OutboxEvent) (messageId : MessageId) :
    MessageEnvelope MessageId where
  messageId := messageId
  correlationId := event.correlationId.getD ""
  publisher := relay.service worker
  payload := event.payload

/-- One turn of the loop, up to the statement that marks the event. -/
def publishEvent (s : State Worker MessageId) (worker : Worker) (batch : Batch)
    (event : OutboxEvent) (rest : List OutboxEvent) (outcome : PublishOutcome) (now : ℤ) :
    State Worker MessageId :=
  let marked := outcome.mark event.id now (relay.settingsOf worker).maxAttempts
  let message := relay.envelope worker event (relay.uuid4 s.drawn)
  { s.setBatch worker (marked.map fun mark =>
      { batch with events := rest, unmarked := some mark }) with
    log := if outcome.sent then
        s.log ++ [⟨event, message, batch.number, outcome = .returns⟩]
      else s.log
    drawn := s.drawn + 1 }

/-- One step of a worker, or of a business transaction. -/
def relayStep : Action Worker → State Worker MessageId → State Worker MessageId
  | .inserts id intent, s => { s with table := insertOutboxEvent s.table id intent }
  | .begins worker now scan, s =>
      match s.batches worker with
      | some _ => s
      | none =>
          if scan.Perm s.table.rows ∧ relay.selection s worker now scan ≠ [] then
            { s.setBatch worker (some
                { number := s.begun, rows := relay.selection s worker now scan
                  events := relay.selection s worker now scan, unmarked := none
                  connected := true }) with
              begun := s.begun + 1 }
          else s
  | .publishes worker outcome now, s =>
      match s.batches worker with
      | none => s
      | some batch =>
          match batch.unmarked, batch.events with
          | none, event :: rest => relay.publishEvent s worker batch event rest outcome now
          | _, _ => s
  | .marks worker, s =>
      match s.batches worker with
      | none => s
      | some batch =>
          match batch.connected, batch.unmarked with
          | true, some mark =>
              s.setBatch worker (some { batch with rows := mark.apply batch.rows, unmarked := none })
          | _, _ => s
  | .commits worker, s =>
      match s.batches worker with
      | none => s
      | some batch =>
          match batch.connected, batch.unmarked, batch.events with
          | true, none, [] => { s.setBatch worker none with table := s.table.commit batch.rows }
          | _, _, _ => s
  | .rollsBack worker, s => s.setBatch worker none
  | .disconnects worker, s =>
      s.setBatch worker ((s.batches worker).map fun batch => { batch with connected := false })

/-! ## What a step can do -/

variable (s : State Worker MessageId) (worker : Worker)

/-- A worker without a batch selects one. -/
theorem begins_cases (now : ℤ) (scan : List OutboxEvent) :
    relay.relayStep (.begins worker now scan) s = s ∨
      s.batches worker = none ∧ scan.Perm s.table.rows ∧
        relay.selection s worker now scan ≠ [] ∧
        relay.relayStep (.begins worker now scan) s =
          { s.setBatch worker (some
              { number := s.begun, rows := relay.selection s worker now scan
                events := relay.selection s worker now scan, unmarked := none
                connected := true }) with
            begun := s.begun + 1 } := by
  cases busy : s.batches worker with
  | some batch => exact .inl (by simp only [relayStep, busy])
  | none =>
      by_cases enabled : scan.Perm s.table.rows ∧ relay.selection s worker now scan ≠ []
      · exact .inr ⟨rfl, enabled.1, enabled.2, by simp only [relayStep, busy, if_pos enabled]⟩
      · exact .inl (by simp only [relayStep, busy, if_neg enabled])

/-- An event is published when the one before it was marked. -/
theorem publishes_cases (outcome : PublishOutcome) (now : ℤ) :
    relay.relayStep (.publishes worker outcome now) s = s ∨
      ∃ batch event rest, s.batches worker = some batch ∧ batch.unmarked = none ∧
        batch.events = event :: rest ∧
        relay.relayStep (.publishes worker outcome now) s =
          relay.publishEvent s worker batch event rest outcome now := by
  cases busy : s.batches worker with
  | none => exact .inl (by simp only [relayStep, busy])
  | some batch =>
      cases unmarked : batch.unmarked with
      | some mark => exact .inl (by simp only [relayStep, busy, unmarked])
      | none =>
          cases events : batch.events with
          | nil => exact .inl (by simp only [relayStep, busy, unmarked, events])
          | cons event rest =>
              exact .inr ⟨batch, event, rest, rfl, unmarked, events,
                by simp only [relayStep, busy, unmarked, events]⟩

/-- A statement is issued on a live connection. -/
theorem marks_cases :
    relay.relayStep (.marks worker) s = s ∨
      ∃ batch mark, s.batches worker = some batch ∧ batch.connected = true ∧
        batch.unmarked = some mark ∧
        relay.relayStep (.marks worker) s =
          s.setBatch worker
            (some { batch with rows := mark.apply batch.rows, unmarked := none }) := by
  cases busy : s.batches worker with
  | none => exact .inl (by simp only [relayStep, busy])
  | some batch =>
      cases connected : batch.connected with
      | false => exact .inl (by simp only [relayStep, busy, connected])
      | true =>
          cases unmarked : batch.unmarked with
          | none => exact .inl (by simp only [relayStep, busy, connected, unmarked])
          | some mark =>
              exact .inr ⟨batch, mark, rfl, connected, unmarked,
                by simp only [relayStep, busy, connected, unmarked]⟩

/-- A live transaction commits at the end of its batch. -/
theorem commits_cases :
    relay.relayStep (.commits worker) s = s ∨
      ∃ batch, s.batches worker = some batch ∧ batch.connected = true ∧
        batch.unmarked = none ∧ batch.events = [] ∧
        relay.relayStep (.commits worker) s =
          { s.setBatch worker none with table := s.table.commit batch.rows } := by
  cases busy : s.batches worker with
  | none => exact .inl (by simp only [relayStep, busy])
  | some batch =>
      cases connected : batch.connected with
      | false => exact .inl (by simp only [relayStep, busy, connected])
      | true =>
          cases unmarked : batch.unmarked with
          | some mark => exact .inl (by simp only [relayStep, busy, connected, unmarked])
          | none =>
              cases events : batch.events with
              | cons event rest =>
                  exact .inl (by simp only [relayStep, busy, connected, unmarked, events])
              | nil =>
                  exact .inr ⟨batch, rfl, connected, unmarked, events,
                    by simp only [relayStep, busy, connected, unmarked, events]⟩

/-- Only a publish that reaches the server adds to what was published. -/
theorem log_relayStep (action : Action Worker) :
    (relay.relayStep action s).log = s.log ∨
      ∃ worker batch event rest outcome now, action = .publishes worker outcome now ∧
        s.batches worker = some batch ∧ batch.unmarked = none ∧ batch.events = event :: rest ∧
        outcome.sent = true ∧ (relay.relayStep action s).drawn = s.drawn + 1 ∧
        (relay.relayStep action s).log = s.log ++
          [⟨event, relay.envelope worker event (relay.uuid4 s.drawn), batch.number,
            outcome = .returns⟩] := by
  cases action with
  | inserts id intent => exact .inl rfl
  | begins worker now scan =>
      rcases relay.begins_cases s worker now scan with same | ⟨-, -, -, same⟩
      · rw [same]
        exact .inl rfl
      · rw [same]
        exact .inl rfl
  | publishes worker outcome now =>
      rcases relay.publishes_cases s worker outcome now with
        same | ⟨batch, event, rest, busy, unmarked, events, same⟩
      · rw [same]
        exact .inl rfl
      · rw [same]
        cases sent : outcome.sent with
        | false => exact .inl (by simp [publishEvent, State.setBatch, sent])
        | true =>
            exact .inr ⟨worker, batch, event, rest, outcome, now, rfl, busy, unmarked, events, sent,
              rfl, by simp [publishEvent, sent]⟩
  | marks worker =>
      rcases relay.marks_cases s worker with same | ⟨batch, mark, -, -, -, same⟩
      · rw [same]
        exact .inl rfl
      · rw [same]
        exact .inl rfl
  | commits worker =>
      rcases relay.commits_cases s worker with same | ⟨batch, -, -, -, -, same⟩
      · rw [same]
        exact .inl rfl
      · rw [same]
        exact .inl rfl
  | rollsBack worker => exact .inl rfl
  | disconnects worker => exact .inl rfl

/-- Batches and identifiers are counted upwards. -/
theorem counters_le_relayStep (action : Action Worker) :
    s.begun ≤ (relay.relayStep action s).begun ∧ s.drawn ≤ (relay.relayStep action s).drawn := by
  cases action with
  | begins worker now scan =>
      rcases relay.begins_cases s worker now scan with same | ⟨-, -, -, same⟩
      · rw [same]
        exact ⟨le_rfl, le_rfl⟩
      · rw [same]
        exact ⟨Nat.le_succ _, le_rfl⟩
  | publishes worker outcome now =>
      rcases relay.publishes_cases s worker outcome now with same | ⟨_, _, _, -, -, -, same⟩
      · rw [same]
        exact ⟨le_rfl, le_rfl⟩
      · rw [same]
        exact ⟨le_rfl, Nat.le_succ _⟩
  | marks worker =>
      rcases relay.marks_cases s worker with same | ⟨_, _, -, -, -, same⟩
      · rw [same]
        exact ⟨le_rfl, le_rfl⟩
      · rw [same]
        exact ⟨le_rfl, le_rfl⟩
  | commits worker =>
      rcases relay.commits_cases s worker with same | ⟨_, -, -, -, -, same⟩
      · rw [same]
        exact ⟨le_rfl, le_rfl⟩
      · rw [same]
        exact ⟨le_rfl, le_rfl⟩
  | inserts id intent => exact ⟨le_rfl, le_rfl⟩
  | rollsBack worker => exact ⟨le_rfl, le_rfl⟩
  | disconnects worker => exact ⟨le_rfl, le_rfl⟩

end Relay

omit [Fintype Worker] in
/-- The batches after one of them changed. -/
theorem State.setBatch_cases {s : State Worker MessageId} {worker other : Worker}
    {batch : Option Batch} {found : Batch}
    (holds : (s.setBatch worker batch).batches other = some found) :
    other = worker ∧ batch = some found ∨ other ≠ worker ∧ s.batches other = some found :=
  update_eq_some_cases holds

end Steps

/-! ## Selections and statements -/

section Queries

variable {settings : OutboxRelaySettings} {service : String} {now : ℤ} {locked : ℕ → Bool}
  {scan : List OutboxEvent} {row : OutboxEvent}

theorem mem_of_mem_selectPendingOutboxEvents
    (selected : row ∈ selectPendingOutboxEvents settings service now locked scan) :
    row ∈ scan ∧ row.service = service ∧ Pending settings now row ∧ locked row.id = false := by
  have candidate := (List.mem_insertionSort _).mp (List.mem_of_mem_take selected)
  rw [List.mem_filter, decide_eq_true_eq] at candidate
  exact candidate

/-- A selection holds a row once. -/
theorem nodup_selectPendingOutboxEvents (distinct : (scan.map OutboxEvent.id).Nodup) :
    ((selectPendingOutboxEvents settings service now locked scan).map OutboxEvent.id).Nodup := by
  refine List.Nodup.sublist ((List.take_sublist _ _).map _) ?_
  rw [((List.perm_insertionSort _ _).map OutboxEvent.id).nodup_iff]
  exact distinct.sublist (List.filter_sublist.map _)

/-- Oldest first. -/
theorem pairwise_selectPendingOutboxEvents :
    (selectPendingOutboxEvents settings service now locked scan).Pairwise
      fun row later => row.createdAt ≤ later.createdAt :=
  (pairwise_insertionSort_le OutboxEvent.createdAt _).sublist (List.take_sublist _ _)

/-- What could be selected is, unless the batch is full of older events. -/
theorem mem_selectPendingOutboxEvents_or (listed : row ∈ scan) (own : row.service = service)
    (pending : Pending settings now row) (free : locked row.id = false) :
    row ∈ selectPendingOutboxEvents settings service now locked scan ∨
      (selectPendingOutboxEvents settings service now locked scan).length = settings.batchSize ∧
        ∀ event ∈ selectPendingOutboxEvents settings service now locked scan,
          event.createdAt ≤ row.createdAt := by
  unfold selectPendingOutboxEvents
  have candidate : row ∈ scan.filter fun row =>
      row.service = service ∧ Pending settings now row ∧ locked row.id = false :=
    List.mem_filter.mpr ⟨listed, decide_eq_true ⟨own, pending, free⟩⟩
  rw [← List.mem_insertionSort fun row later => row.createdAt ≤ later.createdAt] at candidate
  have sorted := pairwise_insertionSort_le OutboxEvent.createdAt (scan.filter fun row =>
    row.service = service ∧ Pending settings now row ∧ locked row.id = false)
  rw [← List.take_append_drop settings.batchSize (List.insertionSort _ _), List.mem_append]
    at candidate
  rcases candidate with selected | left
  · exact .inl selected
  · refine .inr ⟨List.length_take_of_le ?_, fun event member => ?_⟩
    · by_contra short
      rw [List.drop_of_length_le (Nat.le_of_lt (Nat.lt_of_not_le short))] at left
      exact absurd left List.not_mem_nil
    · rw [← List.take_append_drop settings.batchSize (List.insertionSort _ _)] at sorted
      exact (List.pairwise_append.mp sorted).2.2 event member row left

@[simp] theorem Mark.id_write (mark : Mark) (row : OutboxEvent) : (mark.write row).id = row.id := by
  cases mark <;> rfl

@[simp] theorem Mark.service_write (mark : Mark) (row : OutboxEvent) :
    (mark.write row).service = row.service := by
  cases mark <;> rfl

/-- A statement writes no row's identifier. -/
@[simp] theorem Mark.map_id_apply (mark : Mark) (rows : List OutboxEvent) :
    (mark.apply rows).map OutboxEvent.id = rows.map OutboxEvent.id :=
  map_updateWhere mark.id_write rows

theorem Mark.mem_apply {mark : Mark} {rows : List OutboxEvent} (member : row ∈ mark.apply rows) :
    (∃ old ∈ rows, old.id = mark.eventId ∧ row = mark.write old) ∨
      row ∈ rows ∧ row.id ≠ mark.eventId := by
  obtain ⟨old, listed, ⟨marked, same⟩ | ⟨unmarked, same⟩⟩ := mem_updateWhere.mp member
  · exact .inl ⟨old, listed, of_decide_eq_true marked, same⟩
  · exact .inr ⟨same ▸ listed, same ▸ of_decide_eq_false unmarked⟩

end Queries

end Scalper.Outbox
