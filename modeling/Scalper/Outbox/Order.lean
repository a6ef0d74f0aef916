import Scalper.Outbox.States

/-!
# The order of publications

A batch selects the oldest pending events of its service and publishes them one after the other, so
that the events of a subject would come out in the order of `created_at`.  But a failed publish
puts its event off, while the batch goes on and later batches pass it over: what is younger then
overtakes it.

With one worker for each service, `published_in_order` says what else a run needs for the order to
be kept on every subject: nothing is sent while an older event of its subject waits to be retried,
no event is committed that is older than one that was sent or is about to be, and no transaction is
rolled back that has sent something.  `overtaken` is a run in which one publish fails.

The proof follows what a worker sees: the rows of its transaction, and the others as they are in
the table.  Whatever it sees outstanding is as young as everything sent on its subject (`OrderOk`).
-/

set_option autoImplicit false

namespace Scalper.Outbox

open Scalper.Lib

variable {Worker MessageId : Type}

/-- On one subject of a service, the first is not younger. -/
def NotYounger (first second : OutboxEvent) : Prop :=
  first.service = second.service → first.subject = second.subject →
    first.createdAt ≤ second.createdAt

instance (first second : OutboxEvent) : Decidable (NotYounger first second) :=
  inferInstanceAs (Decidable (_ → _ → _))

/-- The publications of every subject are in the order of `created_at`. -/
def Ordered (log : List (Publication MessageId)) : Prop :=
  log.Pairwise fun earlier later => NotYounger earlier.event later.event

/-- The rows a worker sees: those of its transaction, and the others of the table. -/
def Sees (s : State Worker MessageId) (worker : Worker) (row : OutboxEvent) : Prop :=
  (∃ batch, s.batches worker = some batch ∧ row ∈ batch.rows) ∨
    row ∈ s.table.rows ∧ ∀ batch, s.batches worker = some batch →
      row.id ∉ batch.rows.map OutboxEvent.id

/-- A publish has failed and another is to come. -/
def Retrying (row : OutboxEvent) : Prop := row.Outstanding ∧ row.lastAttemptAt ≠ none

/-- The batch has sent nothing. -/
def Silent (log : List (Publication MessageId)) (batch : Batch) : Prop :=
  ∀ publication ∈ log, publication.batch ≠ batch.number

/-- What a step must not do for the order to be kept. -/
def KeepsOrder (s : State Worker MessageId) : Action Worker → Prop
  | .inserts id intent =>
      (∀ publication ∈ s.log, NotYounger publication.event (intent.row id)) ∧
        ∀ worker batch, s.batches worker = some batch →
          ∀ event ∈ batch.events, NotYounger event (intent.row id)
  | .publishes worker outcome _ =>
      ∀ batch, s.batches worker = some batch →
        (∀ sent, outcome = .cancelled sent → sent = false ∧ Silent s.log batch) ∧
          (outcome.sent = true → ∀ event ∈ batch.events.head?, ∀ row, Sees s worker row →
            Retrying row → NotYounger event row)
  | .rollsBack worker => ∀ batch, s.batches worker = some batch → Silent s.log batch
  | _ => True

/-! ## What holds -/

/-- Two versions of one event. -/
structure SameEvent (row other : OutboxEvent) : Prop where
  id : row.id = other.id
  service : row.service = other.service
  subject : row.subject = other.subject
  createdAt : row.createdAt = other.createdAt

/-- What holds of an open batch: its rows are versions of rows of the table, its events are versions
of its rows and come oldest first; what it sees outstanding and has passed is to be retried; no
other event of its service that was never tried is older than what is to be published; and as long
as it has sent nothing, the rows of the table are still as young as what was sent. -/
structure BatchOrder (relay : Relay Worker MessageId) (rows : List OutboxEvent)
    (log : List (Publication MessageId)) (worker : Worker) (batch : Batch) : Prop where
  versions : ∀ row ∈ batch.rows, ∃ old ∈ rows, SameEvent old row
  keyed : (batch.rows.map OutboxEvent.id).Nodup
  sorted : batch.events.Pairwise fun event later => event.createdAt ≤ later.createdAt
  events : ∀ event ∈ batch.events, ∃ row ∈ batch.rows, SameEvent row event
  passed : ∀ row ∈ batch.rows, row.Outstanding → row.id ∉ batch.unsettled →
    row.lastAttemptAt ≠ none
  untried : ∀ row ∈ rows, row.id ∉ batch.rows.map OutboxEvent.id →
    row.service = relay.service worker → row.Outstanding → row.lastAttemptAt = none →
      ∀ event ∈ batch.events, NotYounger event row
  silent : Silent log batch → ∀ row ∈ rows, row.service = relay.service worker →
    row.Outstanding → ∀ publication ∈ log, NotYounger publication.event row

/-- What holds of every state in which the order was kept. -/
structure OrderOk (relay : Relay Worker MessageId) (s : State Worker MessageId) : Prop where
  log : Ordered s.log
  seen : ∀ worker row, Sees s worker row → row.service = relay.service worker →
    row.Outstanding → ∀ publication ∈ s.log, NotYounger publication.event row
  batches : ∀ worker batch, s.batches worker = some batch →
    BatchOrder relay s.table.rows s.log worker batch

section Versions

variable {row other third : OutboxEvent} {mark : Mark}

theorem SameEvent.refl (row : OutboxEvent) : SameEvent row row := ⟨rfl, rfl, rfl, rfl⟩

theorem SameEvent.symm (same : SameEvent row other) : SameEvent other row :=
  ⟨same.id.symm, same.service.symm, same.subject.symm, same.createdAt.symm⟩

theorem SameEvent.trans (same : SameEvent row other) (more : SameEvent other third) :
    SameEvent row third :=
  ⟨same.id.trans more.id, same.service.trans more.service, same.subject.trans more.subject,
    same.createdAt.trans more.createdAt⟩

theorem sameEvent_write (mark : Mark) (row : OutboxEvent) : SameEvent (mark.write row) row := by
  cases mark <;> exact ⟨rfl, rfl, rfl, rfl⟩

theorem NotYounger.congr_right (holds : NotYounger third row) (same : SameEvent row other) :
    NotYounger third other := by
  intro service subject
  rw [← same.createdAt]
  exact holds (service.trans same.service.symm) (subject.trans same.subject.symm)

/-- A marked row that is still outstanding was tried. -/
theorem lastAttemptAt_write (outstanding : (mark.write row).Outstanding) :
    (mark.write row).lastAttemptAt ≠ none := by
  cases mark with
  | published eventId publishedAt => cases outstanding.1
  | failed eventId lastAttemptAt lastError maxAttempts failedAt => exact Option.some_ne_none _

end Versions

/-! ## One step -/

section Steps

variable [DecidableEq Worker] {relay : Relay Worker MessageId} {s s' : State Worker MessageId}
  {worker : Worker} {batch : Batch} {event : OutboxEvent} {rest : List OutboxEvent}

omit [DecidableEq Worker] in
/-- The row of an event that is to be published. -/
theorem BatchOrder.sameEvent {rows : List OutboxEvent} {log : List (Publication MessageId)}
    (order : BatchOrder relay rows log worker batch) {row : OutboxEvent} (member : row ∈ batch.rows)
    (listed : event ∈ batch.events) (same : row.id = event.id) : SameEvent row event := by
  obtain ⟨found, held, version⟩ := order.events event listed
  rwa [List.inj_on_of_nodup_map order.keyed member held (same.trans version.id.symm)]

omit [DecidableEq Worker] in
/-- The table's row of a row that a batch holds. -/
theorem BatchOrder.version {table : OutboxTable} {log : List (Publication MessageId)}
    (order : BatchOrder relay table.rows log worker batch) {row old : OutboxEvent}
    (member : row ∈ batch.rows) (listed : old ∈ table.rows) (same : old.id = row.id) :
    SameEvent old row := by
  obtain ⟨found, held, version⟩ := order.versions row member
  rwa [List.inj_on_of_nodup_map table.keyed listed held (same.trans version.id.symm)]

omit [DecidableEq Worker] in
/-- The next event is as old as anything its worker sees outstanding. -/
theorem OrderOk.head_notYounger (order : OrderOk relay s) (busy : s.batches worker = some batch)
    (unmarked : batch.unmarked = none) (events : batch.events = event :: rest)
    (guarded : ∀ row, Sees s worker row → Retrying row → NotYounger event row)
    {row : OutboxEvent} (sees : Sees s worker row) (own : row.service = relay.service worker)
    (outstanding : row.Outstanding) : NotYounger event row := by
  have good := order.batches worker batch busy
  have head : event ∈ batch.events := events ▸ List.mem_cons_self
  by_cases tried : row.lastAttemptAt = none
  · rcases sees with ⟨found, here, member⟩ | ⟨member, outside⟩
    · obtain rfl : batch = found := Option.some.inj (busy.symm.trans here)
      by_cases waits : row.id ∈ batch.unsettled
      · rw [Batch.unsettled, unmarked, Option.map_none, Option.toList_none, List.nil_append]
          at waits
        obtain ⟨later, listed, same⟩ := List.mem_map.mp waits
        have version := good.sameEvent member listed same.symm
        have older : event.createdAt ≤ later.createdAt := by
          have sorted := good.sorted
          rw [events] at sorted listed
          rcases List.mem_cons.mp listed with rfl | behind
          · exact le_rfl
          · exact (List.pairwise_cons.mp sorted).1 later behind
        exact fun _ _ => older.trans_eq version.createdAt.symm
      · exact absurd tried (good.passed row member outstanding waits)
    · exact good.untried row member (outside batch busy) own outstanding tried event head
  · exact guarded row sees ⟨outstanding, tried⟩

omit [DecidableEq Worker] in
/-- The next event is sent. -/
theorem OrderOk.sends (order : OrderOk relay s) (ok : RelayOk relay s)
    (single : Function.Injective relay.service) (busy : s.batches worker = some batch)
    (unmarked : batch.unmarked = none) (events : batch.events = event :: rest)
    (guarded : ∀ row, Sees s worker row → Retrying row → NotYounger event row)
    {publication : Publication MessageId} (sent : publication.event = event)
    (number : publication.batch = batch.number) :
    OrderOk relay { s with log := s.log ++ [publication] } := by
  have good := order.batches worker batch busy
  have head : event ∈ batch.events := events ▸ List.mem_cons_self
  obtain ⟨held, member, version⟩ := good.events event head
  have own : event.service = relay.service worker :=
    version.service.symm.trans ((ok.batches worker batch busy).own held member)
  -- An event of another service is on no subject of this one.
  have apart : ∀ other, other ≠ worker → ∀ row : OutboxEvent,
      row.service = relay.service other → NotYounger event row := by
    intro other different row service same
    exact absurd (single (service.symm.trans (same.symm.trans own))) different
  have waits : event.id ∈ batch.unsettled := by
    rw [Batch.unsettled, events]
    exact List.mem_append_right _ List.mem_cons_self
  have next : ∀ earlier ∈ s.log, NotYounger earlier.event event := fun earlier listed =>
    (order.seen worker held (.inl ⟨batch, busy, member⟩)
      ((ok.batches worker batch busy).own held member)
      ((ok.batches worker batch busy).outstanding held member (version.id ▸ waits))
      earlier listed).congr_right version
  refine ⟨?_, fun other row sees service outstanding earlier listed => ?_,
    fun other found holds => ?_⟩
  · refine List.pairwise_append.mpr ⟨order.log, List.pairwise_singleton _ _, ?_⟩
    intro earlier listed later here
    rw [List.mem_singleton.mp here, sent]
    exact next earlier listed
  · rcases List.mem_append.mp listed with before | new
    · exact order.seen other row sees service outstanding earlier before
    · rw [List.mem_singleton.mp new, sent]
      by_cases same : other = worker
      · subst same
        exact order.head_notYounger busy unmarked events guarded sees service outstanding
      · exact apart other same row service
  · have before := order.batches other found holds
    refine { before with silent := fun silent row listed service outstanding earlier new => ?_ }
    by_cases same : other = worker
    · subst same
      obtain rfl : batch = found := Option.some.inj (busy.symm.trans holds)
      exact absurd number (silent publication (List.mem_append_right _ List.mem_cons_self))
    · rcases List.mem_append.mp new with old | new
      · exact before.silent (fun publication listed => silent publication
          (List.mem_append_left _ listed)) row listed service outstanding earlier old
      · rw [List.mem_singleton.mp new, sent]
        exact apart other same row service

/-- One batch is another afterwards, or none, and nothing is sent. -/
theorem OrderOk.withBatch (order : OrderOk relay s) {changed : Option Batch}
    (table : s'.table = s.table)
    (batches : s'.batches = Function.update s.batches worker changed) (log : s'.log = s.log)
    (seen : ∀ row, Sees s' worker row → row.service = relay.service worker →
      row.Outstanding → ∀ publication ∈ s.log, NotYounger publication.event row)
    (good : ∀ batch, changed = some batch → BatchOrder relay s.table.rows s.log worker batch) :
    OrderOk relay s' := by
  refine ⟨log ▸ order.log, fun other row sees => ?_, fun other found holds => ?_⟩
  · rw [log]
    by_cases same : other = worker
    · subst same
      exact seen row sees
    · refine order.seen other row ?_
      simpa only [Sees, table, batches, Function.update_of_ne same] using sees
  · rw [batches] at holds
    rw [table, log]
    rcases update_eq_some_cases holds with ⟨rfl, here⟩ | ⟨-, before⟩
    · exact good found here
    · exact order.batches other found before

omit [DecidableEq Worker] in
theorem OrderOk.inserts (order : OrderOk relay s) (id : ℕ) (intent : Intent)
    (guarded : KeepsOrder s (.inserts id intent)) :
    OrderOk relay { s with table := insertOutboxEvent s.table id intent } := by
  have kept : s.table.rows ⊆ (insertOutboxEvent s.table id intent).rows := by
    rcases rows_insertOutboxEvent s.table id intent with same | ⟨-, added⟩
    · exact (same ▸ List.Subset.refl _)
    · exact (added ▸ List.subset_append_left _ _)
  refine ⟨order.log, fun worker row sees service outstanding => ?_, fun worker batch busy => ?_⟩
  · rcases sees with held | ⟨member, outside⟩
    · exact order.seen worker row (.inl held) service outstanding
    · rcases mem_insertOutboxEvent member with old | rfl
      · exact order.seen worker row (.inr ⟨old, outside⟩) service outstanding
      · exact guarded.1
  · have good := order.batches worker batch busy
    refine { good with
      versions := fun row member => ?_
      untried := fun row member outside service outstanding tried => ?_
      silent := fun silent row member service outstanding => ?_ }
    · obtain ⟨old, listed, version⟩ := good.versions row member
      exact ⟨old, kept listed, version⟩
    · rcases mem_insertOutboxEvent member with old | rfl
      · exact good.untried row old outside service outstanding tried
      · exact guarded.2 worker batch busy
    · rcases mem_insertOutboxEvent member with old | rfl
      · exact good.silent silent row old service outstanding
      · exact guarded.1

/-- A statement marks an event. -/
theorem OrderOk.marks (order : OrderOk relay s) (ok : RelayOk relay s)
    (busy : s.batches worker = some batch) {mark : Mark} (unmarked : batch.unmarked = some mark) :
    OrderOk relay (s.setBatch worker
      (some { batch with rows := mark.apply batch.rows, unmarked := none })) := by
  have good := order.batches worker batch busy
  have unsettled : batch.unsettled = mark.eventId :: batch.events.map OutboxEvent.id := by
    simp [Batch.unsettled, unmarked]
  refine order.withBatch rfl rfl rfl (fun row sees service outstanding => ?_) ?_
  · rcases sees with ⟨found, here, member⟩ | ⟨member, outside⟩
    · obtain rfl : ({ batch with rows := mark.apply batch.rows, unmarked := none } : Batch) =
          found := Option.some.inj (by simpa [State.setBatch] using here)
      rcases Mark.mem_apply member with ⟨old, listed, marked, rfl⟩ | ⟨listed, -⟩
      · intro publication sent
        have waited : old.Outstanding := (ok.batches worker batch busy).outstanding old listed
          (by rw [unsettled, marked]; exact List.mem_cons_self)
        exact (order.seen worker old (.inl ⟨batch, busy, listed⟩)
          ((ok.batches worker batch busy).own old listed) waited publication sent).congr_right
            (sameEvent_write mark old).symm
      · exact order.seen worker row (.inl ⟨batch, busy, listed⟩) service outstanding
    · refine order.seen worker row (.inr ⟨member, fun found here => ?_⟩) service outstanding
      obtain rfl : batch = found := Option.some.inj (busy.symm.trans here)
      rw [← Mark.map_id_apply mark]
      exact outside { batch with rows := mark.apply batch.rows, unmarked := none }
        (by simp [State.setBatch])
  · rintro _ ⟨⟩
    exact
      { good with
        versions := by
          intro row member
          rcases Mark.mem_apply member with ⟨old, listed, -, rfl⟩ | ⟨listed, -⟩
          · obtain ⟨stored, held, version⟩ := good.versions old listed
            exact ⟨stored, held, version.trans (sameEvent_write mark old).symm⟩
          · exact good.versions row listed
        keyed := (mark.map_id_apply batch.rows).symm ▸ good.keyed
        events := by
          intro event listed
          obtain ⟨row, member, version⟩ := good.events event listed
          by_cases marked : row.id = mark.eventId
          · refine ⟨mark.write row, ?_, (sameEvent_write mark row).trans version⟩
            exact mem_updateWhere.mpr ⟨row, member, .inl ⟨decide_eq_true marked, rfl⟩⟩
          · refine ⟨row, ?_, version⟩
            exact mem_updateWhere.mpr ⟨row, member, .inr ⟨decide_eq_false marked, rfl⟩⟩
        passed := by
          intro row member outstanding settled
          rcases Mark.mem_apply member with ⟨old, -, -, rfl⟩ | ⟨listed, other⟩
          · exact lastAttemptAt_write outstanding
          · refine good.passed row listed outstanding ?_
            rw [unsettled, List.mem_cons, not_or]
            exact ⟨other, settled⟩
        untried := by
          intro row member outside
          rw [Mark.map_id_apply] at outside
          exact good.untried row member outside
        silent := good.silent }

/-- What a transaction wrote takes the place of what was there. -/
theorem OrderOk.commits (order : OrderOk relay s) (ok : RelayOk relay s)
    (single : Function.Injective relay.service) (busy : s.batches worker = some batch) :
    OrderOk relay { s.setBatch worker none with table := s.table.commit batch.rows } := by
  have good := order.batches worker batch busy
  have own := (ok.batches worker batch busy).own
  -- Rows of another service are as they were.
  have others : ∀ other, other ≠ worker → ∀ row ∈ (s.table.commit batch.rows).rows,
      row.service = relay.service other → row ∈ s.table.rows := by
    intro other different row member service
    rcases mem_commit member with written | ⟨old, -⟩
    · exact absurd (single (service.symm.trans (own row written))) different
    · exact old
  refine ⟨order.log, fun other row sees service outstanding => ?_, fun other found holds => ?_⟩
  · by_cases same : other = worker
    · subst same
      rcases sees with ⟨found, here, -⟩ | ⟨member, -⟩
      · simp [State.setBatch] at here
      · rcases mem_commit member with written | ⟨old, outside⟩
        · exact order.seen other row (.inl ⟨batch, busy, written⟩) service outstanding
        · refine order.seen other row (.inr ⟨old, fun found here => ?_⟩) service outstanding
          obtain rfl : batch = found := Option.some.inj (busy.symm.trans here)
          exact outside
    · refine order.seen other row ?_ service outstanding
      rcases sees with ⟨found, here, member⟩ | ⟨member, outside⟩
      · exact .inl ⟨found, by simpa [State.setBatch, same] using here, member⟩
      · exact .inr ⟨others other same row member service, fun found here =>
          outside found (by simpa [State.setBatch, same] using here)⟩
  · rcases State.setBatch_cases holds with ⟨-, none⟩ | ⟨different, before⟩
    · cases none
    · have kept := order.batches other found before
      refine { kept with
        versions := fun row member => ?_
        untried := fun row member outside service => ?_
        silent := fun silent row member service => ?_ }
      · obtain ⟨old, listed, version⟩ := kept.versions row member
        refine ⟨afterWrites batch.rows old, List.mem_map_of_mem listed, ?_⟩
        rcases afterWrites_cases batch.rows old with ⟨written, same⟩ | ⟨same, -⟩
        · exact (good.version written listed same.symm).symm.trans version
        · rwa [same]
      · exact kept.untried row (others other different row member service) outside service
      · exact kept.silent silent row (others other different row member service) service

/-- A batch that has sent nothing is forgotten. -/
theorem OrderOk.close (order : OrderOk relay s) (worker : Worker)
    (quiet : ∀ batch, s.batches worker = some batch → Silent s.log batch)
    (table : s'.table = s.table) (batches : s'.batches = Function.update s.batches worker none)
    (log : s'.log = s.log) : OrderOk relay s' := by
  refine order.withBatch table batches log (fun row sees service outstanding => ?_)
    (fun _ found => absurd found (by simp))
  have member : row ∈ s.table.rows := by
    rcases sees with ⟨found, here, -⟩ | ⟨member, -⟩
    · simp [batches] at here
    · exact table ▸ member
  cases busy : s.batches worker with
  | none => exact order.seen worker row (.inr ⟨member, by simp [busy]⟩) service outstanding
  | some batch =>
      exact (order.batches worker batch busy).silent (quiet batch busy) row member service
        outstanding

/-- A batch goes on with the rows it holds. -/
theorem OrderOk.continue (order : OrderOk relay s) (busy : s.batches worker = some batch)
    (next : Batch) (table : s'.table = s.table)
    (batches : s'.batches = Function.update s.batches worker (some next)) (log : s'.log = s.log)
    (rows : next.rows = batch.rows)
    (good : BatchOrder relay s.table.rows s.log worker next) : OrderOk relay s' := by
  refine order.withBatch table batches log (fun row sees => order.seen worker row ?_) ?_
  · rcases sees with ⟨found, here, member⟩ | ⟨member, outside⟩
    · obtain rfl : next = found := Option.some.inj (by simpa [batches] using here)
      exact .inl ⟨batch, busy, rows ▸ member⟩
    · refine .inr ⟨table ▸ member, fun found here => ?_⟩
      obtain rfl : batch = found := Option.some.inj (busy.symm.trans here)
      rw [← rows]
      exact outside next (by simp [batches])
  · rintro _ ⟨⟩
    exact good

end Steps

/-! ## Every step -/

section Workers

variable [Fintype Worker] [DecidableEq Worker] {relay : Relay Worker MessageId}
  {s : State Worker MessageId} {worker : Worker}

omit [DecidableEq Worker] in
/-- What was never tried and is not selected is younger than what is. -/
theorem OrderOk.selection_notYounger (order : OrderOk relay s) (ok : RelayOk relay s)
    (single : Function.Injective relay.service) (idle : s.batches worker = none) {now : ℤ}
    {scan : List OutboxEvent} (scanned : scan.Perm s.table.rows) {row : OutboxEvent}
    (member : row ∈ s.table.rows)
    (outside : row.id ∉ (relay.selection s worker now scan).map OutboxEvent.id)
    (own : row.service = relay.service worker) (outstanding : row.Outstanding)
    (tried : row.lastAttemptAt = none) :
    ∀ event ∈ relay.selection s worker now scan, NotYounger event row := by
  have pending : Pending (relay.settingsOf worker) now row :=
    ⟨outstanding.1, outstanding.2, fun last attempted => by
      rw [tried] at attempted
      cases attempted⟩
  have free : s.locked row.id = false := by
    refine decide_eq_false ?_
    rintro ⟨other, held⟩
    cases busy : s.batches other with
    | none => simp [busy] at held
    | some batch =>
        simp only [busy, Option.any_some, Bool.and_eq_true, decide_eq_true_eq] at held
        obtain ⟨version, listed, same⟩ := List.mem_map.mp held.2
        have service := ((order.batches other batch busy).version listed member same.symm).service
        have mine : other = worker := single
          (((ok.batches other batch busy).own version listed).symm.trans
            (service.symm.trans own))
        rw [mine, idle] at busy
        cases busy
  rcases mem_selectPendingOutboxEvents_or (scanned.mem_iff.mpr member) own pending free with
    selected | ⟨-, older⟩
  · exact absurd (List.mem_map_of_mem selected) outside
  · exact fun event selected _ _ => older event selected

theorem OrderOk.begins (order : OrderOk relay s) (ok : RelayOk relay s)
    (single : Function.Injective relay.service) (now : ℤ) (scan : List OutboxEvent) :
    OrderOk relay (relay.relayStep (.begins worker now scan) s) := by
  rcases relay.begins_cases s worker now scan with same | ⟨idle, scanned, -, same⟩
  · rwa [same]
  · rw [same]
    have sees : ∀ row ∈ s.table.rows, Sees s worker row :=
      fun row member => .inr ⟨member, by simp [idle]⟩
    refine order.withBatch rfl rfl rfl (fun row seen => ?_) ?_
    · refine order.seen worker row (sees row ?_)
      rcases seen with ⟨found, here, member⟩ | ⟨member, -⟩
      · obtain rfl := Option.some.inj ((Function.update_self worker _ _).symm.trans here)
        exact (mem_selection scanned member).1
      · exact member
    · rintro _ ⟨⟩
      exact
        { versions := fun row selected =>
            ⟨row, (mem_selection scanned selected).1, SameEvent.refl row⟩
          keyed := nodup_selection scanned
          sorted := pairwise_selectPendingOutboxEvents
          events := fun event selected => ⟨event, selected, SameEvent.refl event⟩
          passed := fun row selected _ settled =>
            absurd (List.mem_map_of_mem selected : row.id ∈ _) settled
          untried := fun row member outside own outstanding tried =>
            order.selection_notYounger ok single idle scanned member outside own outstanding tried
          silent := fun _ row member => order.seen worker row (sees row member) }

theorem OrderOk.publishes (order : OrderOk relay s) (ok : RelayOk relay s)
    (single : Function.Injective relay.service) (outcome : PublishOutcome) (now : ℤ)
    (guarded : KeepsOrder s (.publishes worker outcome now)) :
    OrderOk relay (relay.relayStep (.publishes worker outcome now) s) := by
  rcases relay.publishes_cases s worker outcome now with
    same | ⟨batch, event, rest, busy, unmarked, events, same⟩
  · rwa [same]
  · rw [same]
    obtain ⟨quiet, waits⟩ := guarded batch busy
    rw [events] at waits
    cases due : outcome.mark event.id now (relay.settingsOf worker).maxAttempts with
    | none =>
        cases outcome with
        | returns => cases due
        | raises error sent => cases due
        | cancelled sent =>
            obtain ⟨rfl, silent⟩ := quiet sent rfl
            refine order.close worker (fun found here => ?_) rfl
              (by simp [Relay.publishEvent, State.setBatch, due])
              (by simp [Relay.publishEvent, State.setBatch, PublishOutcome.sent])
            exact Option.some.inj (busy.symm.trans here) ▸ silent
    | some mark =>
        -- First the message is sent, then the batch goes on.
        have sends : OrderOk relay
            { s with log := (relay.publishEvent s worker batch event rest outcome now).log } := by
          simp only [Relay.publishEvent, State.setBatch]
          split
          · next sent =>
              exact order.sends ok single busy unmarked events (waits sent event rfl) rfl rfl
          · exact order
        have marked : mark.eventId = event.id := by
          cases outcome <;> cases due <;> rfl
        have good := sends.batches worker batch busy
        refine sends.continue busy { batch with events := rest, unmarked := some mark } rfl
          (by simp [Relay.publishEvent, State.setBatch, due]) rfl rfl ?_
        exact
          { versions := good.versions
            keyed := good.keyed
            sorted := (List.pairwise_cons.mp (events ▸ good.sorted)).2
            events := fun later listed =>
              good.events later (events ▸ List.mem_cons_of_mem event listed)
            passed := by
              intro row member outstanding settled
              refine good.passed row member outstanding ?_
              simpa [Batch.unsettled, unmarked, events, marked] using settled
            untried := fun row member outside own outstanding tried later listed =>
              good.untried row member outside own outstanding tried later
                (events ▸ List.mem_cons_of_mem event listed)
            silent := good.silent }

theorem OrderOk.relayStep (order : OrderOk relay s) (ok : RelayOk relay s)
    (single : Function.Injective relay.service) (action : Action Worker)
    (guarded : KeepsOrder s action) : OrderOk relay (relay.relayStep action s) := by
  cases action with
  | inserts id intent => exact order.inserts id intent guarded
  | begins worker now scan => exact order.begins ok single now scan
  | publishes worker outcome now => exact order.publishes ok single outcome now guarded
  | marks worker =>
      rcases relay.marks_cases s worker with same | ⟨batch, mark, busy, -, unmarked, same⟩
      · rwa [same]
      · rw [same]
        exact order.marks ok busy unmarked
  | commits worker =>
      rcases relay.commits_cases s worker with same | ⟨batch, busy, -, -, -, same⟩
      · rwa [same]
      · rw [same]
        exact order.commits ok single busy
  | rollsBack worker => exact order.close worker guarded rfl rfl rfl
  | disconnects worker =>
      cases busy : s.batches worker with
      | none =>
          exact order.close worker (by simp [busy]) rfl
            (by simp [Relay.relayStep, State.setBatch, busy]) rfl
      | some batch =>
          exact order.continue busy { batch with connected := false } rfl
            (by simp [Relay.relayStep, State.setBatch, busy]) rfl rfl
            { order.batches worker batch busy with }

/-- **With one worker for each service, the events of a subject are published in the order of
`created_at`** in every run in which nothing is sent while an older event of its subject waits to be
retried, nothing is committed that is older than what was sent or is about to be, and no
transaction is rolled back after it has sent something. -/
theorem published_in_order (relay : Relay Worker MessageId)
    (single : Function.Injective relay.service) (actions : List (Action Worker))
    (guarded : RunGuarded KeepsOrder relay.relayStep initial actions) :
    Ordered (run relay.relayStep initial actions).log := by
  have start : OrderOk relay (initial : State Worker MessageId) :=
    ⟨List.Pairwise.nil, fun _ _ _ _ _ _ member => absurd member List.not_mem_nil,
      fun _ _ busy => by cases busy⟩
  exact (run_invariant (fun s => RelayOk relay s ∧ OrderOk relay s)
    (fun _ action holds keeps => ⟨holds.1.relayStep action,
      holds.2.relayStep holds.1 single action keeps⟩) ⟨relayOk_initial, start⟩ guarded).2.log

end Workers

/-! ## Two events of one subject -/

/-- As long as no publish has failed, a publish keeps the order unless it is cancelled. -/
theorem keepsOrder_publishes {s : State Worker MessageId} {worker : Worker}
    {outcome : PublishOutcome} {now : ℤ} (done : ∀ sent, outcome ≠ .cancelled sent)
    (table : ∀ row ∈ s.table.rows, row.lastAttemptAt = none)
    (held : ∀ batch ∈ s.batches worker, ∀ row ∈ batch.rows, row.lastAttemptAt = none) :
    KeepsOrder s (.publishes worker outcome now) := by
  intro batch busy
  refine ⟨fun sent cancelled => absurd cancelled (done sent), ?_⟩
  rintro - event - row (⟨found, here, member⟩ | ⟨member, -⟩) retrying
  · exact absurd (held found here row member) retrying.2
  · exact absurd (table row member) retrying.2

def laterIntent : Intent := { oneIntent with createdAt := 1 }

/-- Both are published. -/
def bothPublished : List (Action Unit) :=
  [.inserts 1 oneIntent, .inserts 2 laterIntent,
    .begins () 5 [oneIntent.row 1, laterIntent.row 2], .publishes () .returns 6, .marks (),
    .publishes () .returns 7]

theorem published_in_order_both :
    (run oneWorker.relayStep initial bothPublished).log.map
        (fun publication => publication.event.createdAt) = [0, 1] ∧
      Ordered (run oneWorker.relayStep initial bothPublished).log := by
  have single : Function.Injective oneWorker.service := fun _ _ _ => rfl
  refine ⟨by decide +kernel, published_in_order oneWorker single bothPublished ?_⟩
  refine ⟨?_, ?_, trivial, ?_, trivial, ?_, trivial⟩
  · exact ⟨fun _ member => absurd member List.not_mem_nil, fun _ _ busy => by cases busy⟩
  · exact ⟨fun _ member => absurd member List.not_mem_nil, fun _ _ busy => by cases busy⟩
  · exact keepsOrder_publishes (fun _ same => by cases same) (by decide +kernel)
      (by decide +kernel)
  · exact keepsOrder_publishes (fun _ same => by cases same) (by decide +kernel)
      (by decide +kernel)

/-- The first publish fails, the batch goes on, and the older event comes four seconds later. -/
def firstFails : List (Action Unit) :=
  [.inserts 1 oneIntent, .inserts 2 laterIntent,
    .begins () 5 [oneIntent.row 1, laterIntent.row 2], .publishes () (.raises "down" false) 6,
    .marks (), .publishes () .returns 7, .marks (), .commits (),
    .begins () 4000006
      [{ oneIntent.row 1 with
          attemptCount := 1, lastAttemptAt := some 6, lastError := some "down" },
        { laterIntent.row 2 with publishedAt := some 7 }],
    .publishes () .returns 4000007]

/-- The younger event is published first. -/
theorem overtaken :
    Function.Injective oneWorker.service ∧
      (run oneWorker.relayStep initial firstFails).log.map
        (fun publication => (publication.event.subject, publication.event.createdAt)) =
          [("signals.validated", 1), ("signals.validated", 0)] ∧
      ¬ Ordered (run oneWorker.relayStep initial firstFails).log := by
  refine ⟨fun _ _ _ => rfl, by decide +kernel, ?_⟩
  unfold Ordered
  decide +kernel

end Scalper.Outbox
