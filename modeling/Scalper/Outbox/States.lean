import Scalper.Lib.Run
import Scalper.Outbox.Relay

/-!
# The states of an outbox row

A row is outstanding, published or given up, and four of its columns say which.  They agree in
every row of the table and in every row that a transaction holds (`RowOk`), because a transaction
marks an event once and only while it is outstanding, and because a live transaction holds rows
that nobody else does and that are outstanding in the table (`RelayOk`).

`outbox_rows` says so of every run: the columns agree, a row that is settled is published again by
no batch that begins afterwards, and any other is selectable from the end of its backoff.
-/

set_option autoImplicit false

namespace Scalper.Outbox

open Scalper.Lib

variable {Worker MessageId : Type}

/-- A publish of the event has returned. -/
def Returned (log : List (Publication MessageId)) (id : ℕ) : Prop :=
  ∃ publication ∈ log, publication.event.id = id ∧ publication.returned = true

/-- The columns of a row agree with each other and with what was published. -/
structure RowOk (relay : Relay Worker MessageId) (log : List (Publication MessageId))
    (row : OutboxEvent) : Prop where
  exclusive : row.publishedAt = none ∨ row.failedAt = none
  returned : row.publishedAt ≠ none → Returned log row.id
  attempts : row.attemptCount ≤ (relay.settings row.service).maxAttempts
  failed : row.failedAt ≠ none ↔ (relay.settings row.service).maxAttempts ≤ row.attemptCount

/-- The events a batch has yet to mark. -/
def Batch.unsettled (batch : Batch) : List ℕ :=
  (batch.unmarked.map Mark.eventId).toList ++ batch.events.map OutboxEvent.id

/-- A statement that is due: the publish it reports has returned, or it counts against the limit
of the worker. -/
def MarkOk (relay : Relay Worker MessageId) (log : List (Publication MessageId))
    (worker : Worker) : Mark → Prop
  | .published eventId _ => Returned log eventId
  | .failed _ _ _ maxAttempts _ => maxAttempts = (relay.settingsOf worker).maxAttempts

/-- What holds of an open batch. -/
structure BatchOk (relay : Relay Worker MessageId) (s : State Worker MessageId) (worker : Worker)
    (batch : Batch) : Prop where
  number : batch.number < s.begun
  own : ∀ row ∈ batch.rows, row.service = relay.service worker
  rows : ∀ row ∈ batch.rows, RowOk relay s.log row
  once : batch.unsettled.Nodup
  outstanding : ∀ row ∈ batch.rows, row.id ∈ batch.unsettled → row.Outstanding
  held : ∀ event ∈ batch.events, event.id ∈ batch.rows.map OutboxEvent.id
  marks : ∀ mark ∈ batch.unmarked, MarkOk relay s.log worker mark

/-- What holds of every state: of the rows, of the batches, and between them. -/
structure RelayOk (relay : Relay Worker MessageId) (s : State Worker MessageId) : Prop where
  rows : ∀ row ∈ s.table.rows, RowOk relay s.log row
  batches : ∀ worker batch, s.batches worker = some batch → BatchOk relay s worker batch
  free : ∀ worker batch, s.batches worker = some batch → batch.connected = true →
    ∀ row ∈ s.table.rows, row.id ∈ batch.rows.map OutboxEvent.id → row.Outstanding
  apart : ∀ worker other batch otherBatch, s.batches worker = some batch →
    s.batches other = some otherBatch → batch.connected = true → otherBatch.connected = true →
    worker ≠ other → ∀ id ∈ batch.rows.map OutboxEvent.id,
      id ∉ otherBatch.rows.map OutboxEvent.id

/-! ## One row -/

section Rows

variable {relay : Relay Worker MessageId} {log later : List (Publication MessageId)}
  {worker : Worker} {row : OutboxEvent} {mark : Mark}

theorem Returned.mono {id : ℕ} (returned : Returned log id) (more : log ⊆ later) :
    Returned later id := by
  obtain ⟨publication, member, same⟩ := returned
  exact ⟨publication, more member, same⟩

theorem RowOk.mono (ok : RowOk relay log row) (more : log ⊆ later) : RowOk relay later row :=
  { ok with returned := fun published => (ok.returned published).mono more }

theorem MarkOk.mono (ok : MarkOk relay log worker mark) (more : log ⊆ later) :
    MarkOk relay later worker mark := by
  cases mark with
  | published eventId publishedAt => exact Returned.mono ok more
  | failed eventId lastAttemptAt lastError maxAttempts failedAt => exact ok

theorem rowOk_intent (id : ℕ) (intent : Intent) : RowOk relay log (intent.row id) where
  exclusive := .inl rfl
  returned := fun published => absurd rfl published
  attempts := Nat.zero_le _
  failed := by
    have positive := (relay.settings intent.service).maxAttempts_pos
    simp only [Intent.row, ne_eq, not_true_eq_false, false_iff]
    omega

/-- An outstanding row that is marked. -/
theorem RowOk.write (ok : RowOk relay log row) (outstanding : row.Outstanding)
    (own : row.service = relay.service worker) (due : MarkOk relay log worker mark)
    (marked : row.id = mark.eventId) : RowOk relay log (mark.write row) := by
  cases mark with
  | published eventId publishedAt =>
      exact
        { exclusive := .inr outstanding.2
          returned := fun _ => marked ▸ due
          attempts := ok.attempts
          failed := ok.failed }
  | failed eventId lastAttemptAt lastError maxAttempts failedAt =>
      have limit : maxAttempts = (relay.settings row.service).maxAttempts := own ▸ due
      have left : row.attemptCount < (relay.settings row.service).maxAttempts := by
        by_contra reached
        exact ok.failed.mpr (Nat.le_of_not_lt reached) outstanding.2
      exact
        { exclusive := .inl outstanding.1
          returned := fun published => absurd outstanding.1 published
          attempts := left
          failed := by simp only [Mark.write, limit, ne_eq, ite_eq_right_iff, reduceCtorEq,
            imp_false, not_not] }

theorem Pending.outstanding {settings : OutboxRelaySettings} {now : ℤ}
    (pending : Pending settings now row) : row.Outstanding :=
  ⟨pending.1, pending.2.1⟩

end Rows

/-! ## One step -/

section Steps

variable [DecidableEq Worker] {relay : Relay Worker MessageId} {s s' : State Worker MessageId}
  {worker : Worker} {batch : Batch}

omit [DecidableEq Worker] in
theorem BatchOk.mono (ok : BatchOk relay s worker batch) (more : s.log ⊆ s'.log)
    (later : s.begun ≤ s'.begun) : BatchOk relay s' worker batch :=
  { ok with
    number := Nat.lt_of_lt_of_le ok.number later
    rows := fun row member => (ok.rows row member).mono more
    marks := fun mark due => (ok.marks mark due).mono more }

/-- One batch is another afterwards, or none. -/
theorem RelayOk.withBatch (ok : RelayOk relay s) {changed : Option Batch}
    (table : s'.table = s.table)
    (batches : s'.batches = Function.update s.batches worker changed)
    (more : s.log ⊆ s'.log) (later : s.begun ≤ s'.begun)
    (good : ∀ batch, changed = some batch → BatchOk relay s' worker batch)
    (free : ∀ batch, changed = some batch → batch.connected = true → ∀ row ∈ s.table.rows,
      row.id ∈ batch.rows.map OutboxEvent.id → row.Outstanding)
    (apart : ∀ batch, changed = some batch → batch.connected = true → ∀ other otherBatch,
      s.batches other = some otherBatch → otherBatch.connected = true → other ≠ worker →
      ∀ id ∈ batch.rows.map OutboxEvent.id, id ∉ otherBatch.rows.map OutboxEvent.id) :
    RelayOk relay s' where
  rows := by
    rw [table]
    exact fun row member => (ok.rows row member).mono more
  batches := by
    intro other found holds
    rw [batches] at holds
    rcases update_eq_some_cases holds with ⟨rfl, here⟩ | ⟨-, before⟩
    · exact good found here
    · exact (ok.batches other found before).mono more later
  free := by
    intro other found holds
    rw [batches] at holds
    rw [table]
    rcases update_eq_some_cases holds with ⟨-, here⟩ | ⟨-, before⟩
    · exact free found here
    · exact ok.free other found before
  apart := by
    intro first second firstBatch secondBatch firstHolds secondHolds firstLive secondLive different
      id listed
    rw [batches] at firstHolds secondHolds
    rcases update_eq_some_cases firstHolds with ⟨rfl, here⟩ | ⟨-, before⟩
    · rcases update_eq_some_cases secondHolds with ⟨same, -⟩ | ⟨-, other⟩
      · exact absurd same.symm different
      · exact apart firstBatch here firstLive second secondBatch other secondLive
          (Ne.symm different) id listed
    · rcases update_eq_some_cases secondHolds with ⟨rfl, here⟩ | ⟨-, other⟩
      · exact fun shared => apart secondBatch here secondLive first firstBatch before firstLive
          different id shared listed
      · exact ok.apart first second firstBatch secondBatch before other firstLive secondLive
          different id listed

/-- A batch goes on with the rows it holds. -/
theorem RelayOk.continue (ok : RelayOk relay s) (busy : s.batches worker = some batch)
    (next : Batch) (table : s'.table = s.table)
    (batches : s'.batches = Function.update s.batches worker (some next))
    (more : s.log ⊆ s'.log) (later : s.begun ≤ s'.begun)
    (holds : next.rows.map OutboxEvent.id = batch.rows.map OutboxEvent.id)
    (live : next.connected = true → batch.connected = true)
    (good : BatchOk relay s' worker next) : RelayOk relay s' := by
  refine ok.withBatch table batches more later ?_ ?_ ?_
  · rintro found ⟨⟩
    exact good
  · rintro found ⟨⟩ connected
    rw [holds]
    exact ok.free worker batch busy (live connected)
  · rintro found ⟨⟩ connected other otherBatch otherOpen otherLive different
    rw [holds]
    exact ok.apart worker other batch otherBatch busy otherOpen (live connected) otherLive
      (Ne.symm different)

theorem RelayOk.close (ok : RelayOk relay s) (worker : Worker) (table : s'.table = s.table)
    (batches : s'.batches = Function.update s.batches worker none) (more : s.log ⊆ s'.log)
    (later : s.begun ≤ s'.begun) : RelayOk relay s' :=
  ok.withBatch table batches more later (fun _ found => absurd found (by simp))
    (fun _ found => absurd found (by simp)) (fun _ found => absurd found (by simp))

omit [DecidableEq Worker] in
theorem RelayOk.inserts (ok : RelayOk relay s) (id : ℕ) (intent : Intent) :
    RelayOk relay { s with table := insertOutboxEvent s.table id intent } := by
  refine ⟨fun row member => ?_, fun other found holds => (ok.batches other found holds).mono
    (List.Subset.refl _) le_rfl, fun other found holds live row member listed => ?_, ok.apart⟩
  · rcases mem_insertOutboxEvent member with old | rfl
    · exact ok.rows row old
    · exact rowOk_intent id intent
  · rcases mem_insertOutboxEvent member with old | rfl
    · exact ok.free other found holds live row old listed
    · exact ⟨rfl, rfl⟩

/-- A live transaction leaves its rows. -/
theorem RelayOk.commits (ok : RelayOk relay s) (busy : s.batches worker = some batch)
    (live : batch.connected = true) :
    RelayOk relay { s.setBatch worker none with table := s.table.commit batch.rows } where
  rows := by
    intro row member
    rcases mem_commit member with written | ⟨old, -⟩
    · exact (ok.batches worker batch busy).rows row written
    · exact ok.rows row old
  batches := by
    intro other found holds
    rcases State.setBatch_cases holds with ⟨-, none⟩ | ⟨-, before⟩
    · cases none
    · exact (ok.batches other found before).mono (List.Subset.refl _) le_rfl
  free := by
    intro other found holds foundLive row member shared
    rcases State.setBatch_cases holds with ⟨-, none⟩ | ⟨different, before⟩
    · cases none
    · rcases mem_commit member with written | ⟨old, -⟩
      · exact absurd shared (ok.apart worker other batch found busy before live foundLive
          (Ne.symm different) row.id (List.mem_map_of_mem written))
      · exact ok.free other found before foundLive row old shared
  apart := by
    intro first second firstBatch secondBatch firstHolds secondHolds
    rcases State.setBatch_cases firstHolds with ⟨-, none⟩ | ⟨-, before⟩
    · cases none
    · rcases State.setBatch_cases secondHolds with ⟨-, none⟩ | ⟨-, other⟩
      · cases none
      · exact ok.apart first second firstBatch secondBatch before other

end Steps

/-! ## Selections -/

section Selections

variable [Fintype Worker] {relay : Relay Worker MessageId} {s : State Worker MessageId}
  {worker : Worker} {batch : Batch} {now : ℤ} {scan : List OutboxEvent}

/-- A row that is not locked is in no live transaction. -/
theorem State.not_mem_of_not_locked {id : ℕ} (free : s.locked id = false)
    (busy : s.batches worker = some batch) (live : batch.connected = true) :
    id ∉ batch.rows.map OutboxEvent.id := by
  intro held
  refine of_decide_eq_false free ⟨worker, ?_⟩
  rw [busy, Option.any_some, live, Bool.true_and]
  exact decide_eq_true held

theorem mem_selection {event : OutboxEvent} (scanned : scan.Perm s.table.rows)
    (selected : event ∈ relay.selection s worker now scan) :
    event ∈ s.table.rows ∧ event.service = relay.service worker ∧
      Pending (relay.settingsOf worker) now event ∧ s.locked event.id = false := by
  obtain ⟨listed, own, pending, free⟩ := mem_of_mem_selectPendingOutboxEvents selected
  exact ⟨scanned.mem_iff.mp listed, own, pending, free⟩

theorem nodup_selection (scanned : scan.Perm s.table.rows) :
    ((relay.selection s worker now scan).map OutboxEvent.id).Nodup :=
  nodup_selectPendingOutboxEvents ((scanned.map OutboxEvent.id).nodup_iff.mpr s.table.keyed)

/-- The table's row of a selected event is the event. -/
theorem eq_of_id_mem_selection {row : OutboxEvent} (scanned : scan.Perm s.table.rows)
    (member : row ∈ s.table.rows)
    (selected : row.id ∈ (relay.selection s worker now scan).map OutboxEvent.id) :
    row ∈ relay.selection s worker now scan := by
  obtain ⟨event, chosen, same⟩ := List.mem_map.mp selected
  rwa [← List.inj_on_of_nodup_map s.table.keyed (mem_selection scanned chosen).1 member same]

end Selections

/-! ## Every step -/

section Workers

variable [Fintype Worker] [DecidableEq Worker] {relay : Relay Worker MessageId}
  {s : State Worker MessageId} {worker : Worker}

theorem RelayOk.begins (ok : RelayOk relay s) (now : ℤ) (scan : List OutboxEvent) :
    RelayOk relay (relay.relayStep (.begins worker now scan) s) := by
  rcases relay.begins_cases s worker now scan with same | ⟨idle, scanned, -, same⟩
  · rwa [same]
  · rw [same]
    refine ok.withBatch rfl rfl (List.Subset.refl _) (Nat.le_succ _) ?_ ?_ ?_
    · rintro _ ⟨⟩
      exact
        { number := Nat.lt_succ_self _
          own := fun row selected => (mem_selection scanned selected).2.1
          rows := fun row selected => ok.rows row (mem_selection scanned selected).1
          once := nodup_selection scanned
          outstanding := fun row selected _ =>
            (mem_selection scanned selected).2.2.1.outstanding
          held := fun event selected => List.mem_map_of_mem selected
          marks := fun mark due => by cases due }
    · rintro _ ⟨⟩ - row member listed
      exact (mem_selection scanned
        (eq_of_id_mem_selection scanned member listed)).2.2.1.outstanding
    · rintro _ ⟨⟩ - other otherBatch otherBusy otherLive - id selected
      obtain ⟨event, chosen, rfl⟩ := List.mem_map.mp selected
      exact State.not_mem_of_not_locked (mem_selection scanned chosen).2.2.2 otherBusy otherLive

theorem RelayOk.publishes (ok : RelayOk relay s) (outcome : PublishOutcome) (now : ℤ) :
    RelayOk relay (relay.relayStep (.publishes worker outcome now) s) := by
  rcases relay.publishes_cases s worker outcome now with
    same | ⟨batch, event, rest, busy, unmarked, events, same⟩
  · rwa [same]
  · rw [same]
    have good := ok.batches worker batch busy
    have more : s.log ⊆ (relay.publishEvent s worker batch event rest outcome now).log := by
      simp only [Relay.publishEvent]
      split
      · exact List.subset_append_left _ _
      · exact List.Subset.refl _
    cases due : outcome.mark event.id now (relay.settingsOf worker).maxAttempts with
    | none =>
        exact ok.close worker (by simp [Relay.publishEvent, State.setBatch])
          (by simp [Relay.publishEvent, State.setBatch, due]) more le_rfl
    | some mark =>
        have marked : mark.eventId = event.id := by
          cases outcome <;> cases due <;> rfl
        have same : ({ batch with events := rest, unmarked := some mark } : Batch).unsettled =
            batch.unsettled := by
          simp [Batch.unsettled, unmarked, events, marked]
        refine ok.continue busy { batch with events := rest, unmarked := some mark }
          (by simp [Relay.publishEvent, State.setBatch])
          (by simp [Relay.publishEvent, State.setBatch, due]) more le_rfl rfl id ?_
        exact
          { number := good.number
            own := good.own
            rows := fun row member => (good.rows row member).mono more
            once := same ▸ good.once
            outstanding := fun row member listed => good.outstanding row member (same ▸ listed)
            held := fun later member =>
              good.held later (events ▸ List.mem_cons_of_mem event member)
            marks := by
              rintro _ ⟨⟩
              cases outcome with
              | returns =>
                  cases due
                  refine ⟨_, List.mem_append_right _ List.mem_cons_self, rfl, ?_⟩
                  simp
              | raises error sent =>
                  cases due
                  rfl
              | cancelled sent => cases due }

theorem RelayOk.marks (ok : RelayOk relay s) :
    RelayOk relay (relay.relayStep (.marks worker) s) := by
  rcases relay.marks_cases s worker with
    same | ⟨batch, mark, busy, live, unmarked, same⟩
  · rwa [same]
  · rw [same]
    have good := ok.batches worker batch busy
    have unsettled : batch.unsettled = mark.eventId :: batch.events.map OutboxEvent.id := by
      simp [Batch.unsettled, unmarked]
    have once := good.once
    rw [unsettled, List.nodup_cons] at once
    refine ok.continue busy { batch with rows := mark.apply batch.rows, unmarked := none } rfl rfl
      (List.Subset.refl _) le_rfl (mark.map_id_apply _) id ?_
    exact
      { number := good.number
        own := by
          intro row member
          rcases Mark.mem_apply member with ⟨old, listed, -, rfl⟩ | ⟨listed, -⟩
          · rw [Mark.service_write]
            exact good.own old listed
          · exact good.own row listed
        rows := by
          intro row member
          rcases Mark.mem_apply member with ⟨old, listed, marked, rfl⟩ | ⟨listed, -⟩
          · exact (good.rows old listed).write
              (good.outstanding old listed (by rw [unsettled, marked]; exact List.mem_cons_self))
              (good.own old listed) (good.marks mark unmarked) marked
          · exact good.rows row listed
        once := once.2
        outstanding := by
          intro row member listed
          have waits : row.id ∈ batch.events.map OutboxEvent.id := listed
          rcases Mark.mem_apply member with ⟨old, -, marked, rfl⟩ | ⟨old, -⟩
          · rw [Mark.id_write, marked] at waits
            exact absurd waits once.1
          · exact good.outstanding row old (by
              rw [unsettled]
              exact List.mem_cons_of_mem _ waits)
        held := by
          intro event member
          rw [Mark.map_id_apply]
          exact good.held event member
        marks := fun mark due => by cases due }

theorem RelayOk.disconnects (ok : RelayOk relay s) :
    RelayOk relay (relay.relayStep (.disconnects worker) s) := by
  cases busy : s.batches worker with
  | none =>
      exact ok.close worker rfl (by simp [Relay.relayStep, State.setBatch, busy])
        (List.Subset.refl _) le_rfl
  | some batch =>
      have good := ok.batches worker batch busy
      exact ok.continue busy { batch with connected := false } rfl
        (by simp [Relay.relayStep, State.setBatch, busy]) (List.Subset.refl _) le_rfl rfl
        (fun live => by cases live) { good with }

/-- Every step keeps what holds of the states. -/
theorem RelayOk.relayStep (ok : RelayOk relay s) (action : Action Worker) :
    RelayOk relay (relay.relayStep action s) := by
  cases action with
  | inserts id intent => exact ok.inserts id intent
  | begins worker now scan => exact ok.begins now scan
  | publishes worker outcome now => exact ok.publishes outcome now
  | marks worker => exact ok.marks
  | commits worker =>
      rcases relay.commits_cases s worker with
        same | ⟨batch, busy, live, -, -, same⟩
      · rwa [same]
      · rw [same]
        exact ok.commits busy live
  | rollsBack worker => exact ok.close worker rfl rfl (List.Subset.refl _) le_rfl
  | disconnects worker => exact ok.disconnects

omit [Fintype Worker] [DecidableEq Worker] in
theorem relayOk_initial : RelayOk relay (initial : State Worker MessageId) where
  rows := fun _ member => absurd member List.not_mem_nil
  batches := fun _ _ busy => by cases busy
  free := fun _ _ busy => by cases busy
  apart := fun _ _ _ _ busy => by cases busy

/-- Every state of every run. -/
theorem relayOk_run (actions : List (Action Worker)) :
    RelayOk relay (run relay.relayStep initial actions) :=
  run_invariant_of_always (RelayOk relay) (fun _ action ok => ok.relayStep action) actions
    relayOk_initial

/-- Every publication belongs to a batch that has begun. -/
theorem batch_lt_begun (actions : List (Action Worker)) :
    ∀ publication ∈ (run relay.relayStep initial actions).log,
      publication.batch < (run relay.relayStep initial actions).begun := by
  refine (run_invariant_of_always (fun s : State Worker MessageId => RelayOk relay s ∧
    ∀ publication ∈ s.log, publication.batch < s.begun) ?_ actions
    ⟨relayOk_initial, fun _ member => absurd member List.not_mem_nil⟩).2
  rintro s action ⟨ok, begun⟩
  refine ⟨ok.relayStep action, fun publication member => ?_⟩
  refine Nat.lt_of_lt_of_le ?_ (relay.counters_le_relayStep s action).1
  rcases relay.log_relayStep s action with same |
    ⟨worker, batch, event, rest, outcome, now, -, busy, -, -, -, -, added⟩
  · exact begun publication (same ▸ member)
  · rw [added, List.mem_append, List.mem_singleton] at member
    rcases member with old | rfl
    · exact begun publication old
    · exact (ok.batches worker batch busy).number

/-! ## Settled rows -/

/-- The row of an event is settled, and the event is in no live transaction and only in batches
before the `first`. -/
structure Settled (id first : ℕ) (s : State Worker MessageId) : Prop where
  stored : id ∈ s.table.rows.map OutboxEvent.id
  rows : ∀ row ∈ s.table.rows, row.id = id → ¬ row.Outstanding
  batches : ∀ worker batch, s.batches worker = some batch →
    id ∈ batch.rows.map OutboxEvent.id → batch.number < first ∧ batch.connected = false
  log : ∀ publication ∈ s.log, publication.event.id = id → publication.batch < first
  begun : first ≤ s.begun

section SettledRows

variable {s' : State Worker MessageId} {id first : ℕ}

omit [Fintype Worker] in
theorem Settled.withBatch (settled : Settled id first s) {changed : Option Batch}
    (table : s'.table = s.table)
    (batches : s'.batches = Function.update s.batches worker changed)
    (log : ∀ publication ∈ s'.log, publication.event.id = id → publication.batch < first)
    (later : s.begun ≤ s'.begun)
    (good : ∀ batch, changed = some batch → id ∈ batch.rows.map OutboxEvent.id →
      batch.number < first ∧ batch.connected = false) : Settled id first s' where
  stored := table ▸ settled.stored
  rows := table ▸ settled.rows
  batches := by
    intro other found holds held
    rw [batches] at holds
    rcases update_eq_some_cases holds with ⟨-, here⟩ | ⟨-, before⟩
    · exact good found here held
    · exact settled.batches other found before held
  log := log
  begun := settled.begun.trans later

omit [Fintype Worker] [DecidableEq Worker] in
theorem Settled.inserts (settled : Settled id first s) (newId : ℕ) (intent : Intent) :
    Settled id first { s with table := insertOutboxEvent s.table newId intent } := by
  rcases rows_insertOutboxEvent s.table newId intent with same | ⟨fresh, added⟩
  · exact { settled with stored := same ▸ settled.stored, rows := same ▸ settled.rows }
  · refine { settled with stored := ?_, rows := fun row member here => ?_ }
    · rw [added, List.map_append]
      exact List.mem_append_left _ settled.stored
    · rw [added, List.mem_append, List.mem_singleton] at member
      rcases member with old | rfl
      · exact settled.rows row old here
      · have same : newId = id := here
        exact absurd (same ▸ settled.stored) fresh

omit [DecidableEq Worker] in
/-- What is settled is not outstanding, and only that is selected. -/
theorem Settled.not_mem_selection (settled : Settled id first s) {now : ℤ}
    {scan : List OutboxEvent} (scanned : scan.Perm s.table.rows) :
    id ∉ (relay.selection s worker now scan).map OutboxEvent.id := by
  intro selected
  obtain ⟨event, chosen, same⟩ := List.mem_map.mp selected
  obtain ⟨member, -, pending, -⟩ := mem_selection scanned chosen
  exact settled.rows event member same pending.outstanding

omit [Fintype Worker] in
/-- A live transaction does not write the row. -/
theorem Settled.commits (settled : Settled id first s) {batch : Batch}
    (busy : s.batches worker = some batch) (live : batch.connected = true) :
    Settled id first { s.setBatch worker none with table := s.table.commit batch.rows } where
  stored := by
    obtain ⟨row, member, same⟩ := List.mem_map.mp settled.stored
    exact List.mem_map.mpr ⟨afterWrites batch.rows row, List.mem_map_of_mem member,
      (id_afterWrites _ _).trans same⟩
  rows := by
    intro row member here
    rcases mem_commit member with written | ⟨old, -⟩
    · have held : id ∈ batch.rows.map OutboxEvent.id := here ▸ List.mem_map_of_mem written
      have dead := (settled.batches worker batch busy held).2
      rw [live] at dead
      cases dead
    · exact settled.rows row old here
  batches := by
    intro other found holds held
    rcases State.setBatch_cases holds with ⟨-, none⟩ | ⟨-, before⟩
    · cases none
    · exact settled.batches other found before held
  log := settled.log
  begun := settled.begun

theorem Settled.relayStep (settled : Settled id first s) (ok : RelayOk relay s)
    (action : Action Worker) : Settled id first (relay.relayStep action s) := by
  cases action with
  | inserts newId intent => exact settled.inserts newId intent
  | begins worker now scan =>
      rcases relay.begins_cases s worker now scan with same | ⟨-, scanned, -, same⟩
      · rwa [same]
      · rw [same]
        refine settled.withBatch rfl rfl settled.log (Nat.le_succ _) ?_
        rintro _ ⟨⟩ selected
        exact absurd selected (settled.not_mem_selection scanned)
  | publishes worker outcome now =>
      have log : ∀ publication ∈ (relay.relayStep (.publishes worker outcome now) s).log,
          publication.event.id = id → publication.batch < first := by
        intro publication member here
        rcases relay.log_relayStep s (.publishes worker outcome now) with same |
          ⟨other, batch, event, rest, _, _, -, busy, -, events, -, -, added⟩
        · exact settled.log publication (same ▸ member) here
        · rw [added, List.mem_append, List.mem_singleton] at member
          rcases member with old | rfl
          · exact settled.log publication old here
          · have held := (ok.batches other batch busy).held event (events ▸ List.mem_cons_self)
            exact (settled.batches other batch busy (here ▸ held)).1
      rcases relay.publishes_cases s worker outcome now with
        same | ⟨batch, event, rest, busy, -, -, same⟩
      · rwa [same]
      · rw [same] at log ⊢
        refine settled.withBatch rfl rfl log le_rfl fun found holds held => ?_
        obtain ⟨mark, -, rfl⟩ := Option.map_eq_some_iff.mp holds
        exact settled.batches worker batch busy held
  | marks worker =>
      rcases relay.marks_cases s worker with same | ⟨batch, mark, busy, -, -, same⟩
      · rwa [same]
      · rw [same]
        refine settled.withBatch rfl rfl settled.log le_rfl ?_
        rintro _ ⟨⟩ held
        exact settled.batches worker batch busy (mark.map_id_apply batch.rows ▸ held)
  | commits worker =>
      rcases relay.commits_cases s worker with same | ⟨batch, busy, live, -, -, same⟩
      · rwa [same]
      · rw [same]
        exact settled.commits busy live
  | rollsBack worker =>
      exact settled.withBatch rfl rfl settled.log le_rfl fun _ none => by cases none
  | disconnects worker =>
      refine settled.withBatch rfl rfl settled.log le_rfl fun found holds held => ?_
      obtain ⟨batch, busy, rfl⟩ := Option.map_eq_some_iff.mp holds
      exact ⟨(settled.batches worker batch busy held).1, rfl⟩

omit [Fintype Worker] [DecidableEq Worker] in
/-- Whatever is not outstanding is settled. -/
theorem settled_of_not_outstanding (ok : RelayOk relay s)
    (begun : ∀ publication ∈ s.log, publication.batch < s.begun) {row : OutboxEvent}
    (stored : row ∈ s.table.rows) (done : ¬ row.Outstanding) : Settled row.id s.begun s where
  stored := List.mem_map_of_mem stored
  rows := by
    intro other member same
    rwa [List.inj_on_of_nodup_map s.table.keyed member stored same]
  batches := by
    intro worker batch busy held
    refine ⟨(ok.batches worker batch busy).number, ?_⟩
    by_contra live
    exact done (ok.free worker batch busy (Bool.of_not_eq_false live) row stored held)
  log := fun publication member _ => begun publication member
  begun := le_rfl

end SettledRows

/-! ## All rows of all runs -/

/-- **The columns of a row agree, what is settled stays so, and what is not is selectable again.**
After any steps of any workers, of every row: it is not both published and given up; it is
published only if a publish of it returned; its attempts keep within the limit; it is given up
exactly when they reach it and it is unpublished; once settled it is published by no batch that
begins later; and until then it is pending from the end of its backoff, so that an idle worker of
its service selects it unless it is locked or the batch is full of older events. -/
theorem outbox_rows (relay : Relay Worker MessageId) (actions : List (Action Worker)) :
    let s := run relay.relayStep initial actions
    ∀ row ∈ s.table.rows,
      let settings := relay.settings row.service
      ¬ (row.publishedAt ≠ none ∧ row.failedAt ≠ none) ∧
      (row.publishedAt ≠ none → Returned s.log row.id) ∧
      row.attemptCount ≤ settings.maxAttempts ∧
      (row.failedAt ≠ none ↔
        settings.maxAttempts ≤ row.attemptCount ∧ row.publishedAt = none) ∧
      (¬ row.Outstanding → ∀ later, ∀ publication ∈ (run relay.relayStep s later).log,
        publication.event.id = row.id → publication.batch < s.begun) ∧
      (row.Outstanding → ∀ now,
        (∀ last ∈ row.lastAttemptAt, last + backoff settings row.attemptCount ≤ now) →
          Pending settings now row ∧
          ∀ worker scan, relay.service worker = row.service → scan.Perm s.table.rows →
            s.locked row.id = false →
            row ∈ relay.selection s worker now scan ∨
              (relay.selection s worker now scan).length = settings.batchSize ∧
                ∀ event ∈ relay.selection s worker now scan,
                  event.createdAt ≤ row.createdAt) ∧
      backoff settings row.attemptCount ≤ roundHalfEven (settings.backoffCap * 1000000) := by
  intro s row stored settings
  have ok : RelayOk relay s := relayOk_run actions
  have good : RowOk relay s.log row := ok.rows row stored
  refine ⟨?_, good.returned, good.attempts, ?_, ?_, ?_, backoff_le_cap _ _⟩
  · rintro ⟨published, failed⟩
    rcases good.exclusive with unpublished | unfailed
    · exact published unpublished
    · exact failed unfailed
  · constructor
    · intro failed
      exact ⟨good.failed.mp failed, good.exclusive.resolve_right failed⟩
    · rintro ⟨reached, -⟩
      exact good.failed.mpr reached
  · intro done later
    have settled := settled_of_not_outstanding ok (batch_lt_begun actions) stored done
    exact (run_invariant_of_always (fun s => RelayOk relay s ∧ Settled row.id _ s)
      (fun _ action holds => ⟨holds.1.relayStep action, holds.2.relayStep holds.1 action⟩) later
      ⟨ok, settled⟩).2.log
  · intro outstanding now elapsed
    have pending : Pending settings now row :=
      ⟨outstanding.1, outstanding.2, fun last attempted => by
        have due := elapsed last attempted
        omega⟩
    refine ⟨pending, fun worker scan own scanned free => ?_⟩
    have same : relay.settingsOf worker = settings := congrArg relay.settings own
    have selected := mem_selectPendingOutboxEvents_or (scanned.mem_iff.mpr stored) own.symm
      (same.symm ▸ pending) free
    rw [← same]
    exact selected

end Workers

/-! ## One worker, one event -/

/-- Settings within their bounds. -/
def defaultSettings : OutboxRelaySettings where
  batchSize := 100
  maxAttempts := 100
  backoffBase := 2
  backoffCap := 60
  batchSize_pos := by norm_num
  maxAttempts_pos := by norm_num
  backoffBase_pos := by norm_num
  base_le_cap := by norm_num

/-- One worker of the signal gateway, and identifiers that count. -/
def oneWorker : Relay Unit ℕ := ⟨fun _ => "signal_gateway", fun _ => defaultSettings, id⟩

def oneIntent : Intent := ⟨"signal_gateway", "signals.validated", none, "{}", 0⟩

/-- An event that is published. -/
theorem outbox_rows_published :
    let published : OutboxEvent := { oneIntent.row 1 with publishedAt := some 5 }
    let s := run oneWorker.relayStep initial [.inserts 1 oneIntent,
      .begins () 0 [oneIntent.row 1], .publishes () .returns 5, .marks (), .commits ()]
    Returned s.log published.id := by
  intro published s
  have stored : published ∈ s.table.rows := by decide +kernel
  have isPublished : published.publishedAt ≠ none := by decide
  exact (outbox_rows oneWorker _ published stored).2.1 isPublished

end Scalper.Outbox
