import Scalper.Bus.Dedup
import Scalper.Execution.Ledger

/-!
# Redelivery of a failed event

The dispatcher is a deduplicating consumer of fills keyed by their execution id.  An event
whose transaction is rolled back leaves no row, but its key stays in the ring, so a later
redelivery is dropped like a duplicate until the key is evicted.  `notLost_iff` says exactly
when a failed event is not lost: before each redelivery at least `capacity` other events
were admitted since the last one.  `redelivery_dropped` is the failing case.
-/

set_option autoImplicit false

namespace Scalper.Execution

open Scalper.Lib Scalper.Exchange Scalper.Bus

/-! ## The dispatcher as a consumer -/

/-- The dispatcher's ring and the tables. -/
abbrev DispatcherState (capacity : ℕ) := Consumer String Db capacity

/-- What became of a delivered event: dropped, or the outcome of `_process`. -/
abbrev Dispatched := Consumed (Except TxError (Option OrderClosed))

def Delivery.key (delivery : Delivery) : String := delivery.event.exchangeExecId

/-- `ExecutionDispatcher.consume`. -/
def dispatch {capacity : ℕ} (botId : String) :
    Delivery → DispatcherState capacity → Dispatched × DispatcherState capacity :=
  consume Delivery.key (process botId)

theorem dispatch_ne_dropped_iff {capacity : ℕ} {botId : String} {delivery : Delivery}
    {s : DispatcherState capacity} :
    (dispatch botId delivery s).1 ≠ .dropped ↔ delivery.key ∉ s.seen.keys :=
  consume_ne_dropped_iff

theorem seen_dispatch {capacity : ℕ} {botId : String} {delivery : Delivery}
    {s : DispatcherState capacity} :
    (dispatch botId delivery s).2.seen = s.seen.remember delivery.key :=
  seen_consume

/-- Deliver events in order. -/
def dispatchAll {capacity : ℕ} (botId : String) :
    DispatcherState capacity → List Delivery → DispatcherState capacity :=
  consumeAll Delivery.key (process botId)

/-- How often an event is recorded. -/
def Db.recordedTimes (db : Db) (execId : String) : ℕ :=
  (db.executions.filter (·.exchangeExecId == execId)).length

/-! ## Redeliveries -/

/-- A redelivery, after other events. -/
structure Retry where
  others : List Delivery
  again : Delivery

variable {capacity : ℕ}

/-- The state after each redelivery in turn. -/
def retryAll (botId : String) (s : DispatcherState capacity) (retries : List Retry) :
    DispatcherState capacity :=
  retries.foldl (fun s retry => (dispatch botId retry.again (dispatchAll botId s retry.others)).2) s

/-- What became of each redelivery. -/
def retryOutcomes (botId : String) : DispatcherState capacity → List Retry → List Dispatched
  | _, [] => []
  | s, retry :: retries =>
      (dispatch botId retry.again (dispatchAll botId s retry.others)).1 ::
        retryOutcomes botId (dispatch botId retry.again (dispatchAll botId s retry.others)).2
          retries

/-- The redeliveries are of one event, and the events between them are others. -/
def RetriesOf (event : Fill) (retries : List Retry) : Prop :=
  ∀ retry ∈ retries, retry.again.event = event ∧
    ∀ other ∈ retry.others, other.key ≠ event.exchangeExecId

/-- Before each redelivery the ring admitted at least `capacity` other events. -/
def EvictedBetween (botId : String) : DispatcherState capacity → List Retry → Prop
  | _, [] => True
  | s, retry :: retries =>
      capacity ≤ s.seen.freshCount (retry.others.map Delivery.key) ∧
        EvictedBetween botId (dispatch botId retry.again (dispatchAll botId s retry.others)).2
          retries

/-- A failed event is not lost: every redelivery is processed, and when the last one is the
first to succeed the event is recorded exactly once. -/
structure NotLost (botId : String) (s : DispatcherState capacity) (event : Fill)
    (retries : List Retry) : Prop where
  processed : ∀ outcome ∈ retryOutcomes botId s retries, outcome ≠ .dropped
  once : ∀ failures closed,
    retryOutcomes botId s retries = failures ++ [.processed (.ok closed)] →
    (∀ outcome ∈ failures, ∃ raised, outcome = .processed (.error raised)) →
    (retryAll botId s retries).state.recordedTimes event.exchangeExecId = 1

/-! ## What is recorded -/

section Recording

variable {botId : String} {db db' : Db}

/-- A recorded event adds one row, with its execution id. -/
theorem Recorded.executions {event : Fill} {reads : ClosedPnlReads} {now : ℕ}
    {closed : Option OrderClosed} (recorded : Recorded botId event reads now db closed db') :
    ∃ row, db'.executions = db.executions ++ [row] ∧
      row.exchangeExecId = event.exchangeExecId := by
  cases recorded with
  | opened => exact ⟨_, rfl, rfl⟩
  | part => exact ⟨_, rfl, rfl⟩
  | closed => exact ⟨_, rfl, rfl⟩

/-- One more row counts for its execution id. -/
theorem recordedTimes_append {row : ExecutionRow}
    (executions : db'.executions = db.executions ++ [row]) (execId : String) :
    db'.recordedTimes execId =
      db.recordedTimes execId + if row.exchangeExecId = execId then 1 else 0 := by
  rw [Db.recordedTimes, executions, List.filter_append, List.length_append, Db.recordedTimes]
  by_cases same : row.exchangeExecId = execId
  · simp [same]
  · simp [same]

/-- The event was recorded by this delivery. -/
def isRecorded : Dispatched → Bool
  | .processed (.ok _) => true
  | .processed (.error _) | .dropped => false

theorem recordedTimes_process {delivery : Delivery} (execId : String) :
    (process botId delivery db).2.recordedTimes execId =
      db.recordedTimes execId +
        if isRecorded (.processed (process botId delivery db).1) = true ∧
          delivery.key = execId then 1 else 0 := by
  cases outcome : (process botId delivery db).1 with
  | error raised =>
      rw [process_error outcome]
      simp [isRecorded]
  | ok closed =>
      have returned : process botId delivery db = (.ok closed, (process botId delivery db).2) :=
        Prod.ext outcome rfl
      obtain ⟨row, executions, sameId⟩ := (process_ok_iff.mp returned).2.executions
      rw [recordedTimes_append executions, sameId]
      simp [isRecorded, Delivery.key]

theorem recordedTimes_dispatch {delivery : Delivery} {s : DispatcherState capacity}
    (execId : String) :
    (dispatch botId delivery s).2.state.recordedTimes execId =
      s.state.recordedTimes execId +
        if isRecorded (dispatch botId delivery s).1 = true ∧ delivery.key = execId then 1
        else 0 := by
  by_cases seen : delivery.key ∈ s.seen.keys
  · simp only [dispatch, consume_seen seen]
    simp [isRecorded]
  · simp only [dispatch, consume_fresh seen]
    exact recordedTimes_process execId

/-- Other events do not record this one. -/
theorem recordedTimes_dispatchAll {execId : String} {others : List Delivery}
    (different : ∀ other ∈ others, other.key ≠ execId) :
    ∀ s : DispatcherState capacity,
      (dispatchAll botId s others).state.recordedTimes execId =
        s.state.recordedTimes execId := by
  induction others with
  | nil => exact fun _ => rfl
  | cons other others ih =>
      intro s
      have later := ih
        (fun next member => different next (List.mem_cons_of_mem other member))
        (dispatch botId other s).2
      refine later.trans ?_
      rw [recordedTimes_dispatch, if_neg fun same => different other List.mem_cons_self same.2,
        add_zero]

/-- Each redelivery that succeeds records the event once more. -/
theorem recordedTimes_retryAll {event : Fill} {retries : List Retry}
    (ofEvent : RetriesOf event retries) :
    ∀ s : DispatcherState capacity,
      (retryAll botId s retries).state.recordedTimes event.exchangeExecId =
        s.state.recordedTimes event.exchangeExecId +
          (retryOutcomes botId s retries).countP isRecorded := by
  induction retries with
  | nil => exact fun _ => rfl
  | cons retry retries ih =>
      intro s
      obtain ⟨sameEvent, different⟩ := ofEvent retry List.mem_cons_self
      have sameKey : retry.again.key = event.exchangeExecId :=
        congrArg ExecutionEvent.exchangeExecId sameEvent
      have later := ih
        (fun next member => ofEvent next (List.mem_cons_of_mem retry member))
        (dispatch botId retry.again (dispatchAll botId s retry.others)).2
      refine later.trans ?_
      rw [recordedTimes_dispatch, recordedTimes_dispatchAll different, retryOutcomes,
        List.countP_cons]
      simp only [sameKey, and_true]
      omega

end Recording

/-! ## When a redelivery is processed -/

section Redelivery

variable {botId : String} {event : Fill}

/-- Of a key that was just admitted: every redelivery is processed exactly when the key was
evicted before each. -/
theorem processed_iff (positive : 0 < capacity) {retries : List Retry} :
    ∀ {s : DispatcherState capacity} {ring : FifoRing String capacity},
      event.exchangeExecId ∉ ring.keys → s.seen = ring.remember event.exchangeExecId →
      RetriesOf event retries →
      ((∀ outcome ∈ retryOutcomes botId s retries, outcome ≠ .dropped) ↔
        EvictedBetween botId s retries) := by
  induction retries with
  | nil =>
      intro s ring _ _ _
      simp [retryOutcomes, EvictedBetween]
  | cons retry retries ih =>
      intro s ring fresh newest ofEvent
      obtain ⟨sameEvent, different⟩ := ofEvent retry List.mem_cons_self
      have sameKey : retry.again.key = event.exchangeExecId :=
        congrArg ExecutionEvent.exchangeExecId sameEvent
      have absent : event.exchangeExecId ∉ retry.others.map Delivery.key := by
        intro member
        obtain ⟨other, listed, equal⟩ := List.mem_map.mp member
        exact different other listed equal
      have seenBefore : (dispatchAll botId s retry.others).seen =
          (ring.remember event.exchangeExecId).rememberAll (retry.others.map Delivery.key) := by
        rw [← newest]
        exact seen_consumeAll retry.others s
      have firstProcessed : (dispatch botId retry.again (dispatchAll botId s retry.others)).1 ≠
          .dropped ↔ capacity ≤ s.seen.freshCount (retry.others.map Delivery.key) := by
        rw [dispatch_ne_dropped_iff, sameKey, seenBefore,
          FifoRing.mem_rememberAll_iff positive fresh absent, newest, not_lt]
      rw [retryOutcomes, EvictedBetween, List.forall_mem_cons, firstProcessed]
      refine and_congr_right fun evicted => ?_
      have freshAgain : event.exchangeExecId ∉ (dispatchAll botId s retry.others).seen.keys := by
        rw [← sameKey]
        exact dispatch_ne_dropped_iff.mp (firstProcessed.mpr evicted)
      refine ih freshAgain ?_
        (fun next member => ofEvent next (List.mem_cons_of_mem retry member))
      rw [seen_dispatch, sameKey]

/-- **A failed event is not lost exactly when its key was evicted before each redelivery.** -/
theorem notLost_iff (positive : 0 < capacity) {s : DispatcherState capacity} {first : Delivery}
    {raised : TxError} {retries : List Retry}
    (failed : (dispatch botId first s).1 = .processed (.error raised))
    (unrecorded : s.state.recordedTimes first.event.exchangeExecId = 0)
    (ofEvent : RetriesOf first.event retries) :
    NotLost botId (dispatch botId first s).2 first.event retries ↔
      EvictedBetween botId (dispatch botId first s).2 retries := by
  have handled : (dispatch botId first s).1 ≠ .dropped := by simp [failed]
  have fresh : first.event.exchangeExecId ∉ s.seen.keys := dispatch_ne_dropped_iff.mp handled
  have newest : (dispatch botId first s).2.seen = s.seen.remember first.event.exchangeExecId :=
    seen_dispatch
  have processed : (∀ outcome ∈ retryOutcomes botId (dispatch botId first s).2 retries,
      outcome ≠ .dropped) ↔ _ := processed_iff positive fresh newest ofEvent
  refine ⟨fun notLost => processed.mp notLost.processed, fun evicted =>
    ⟨processed.mpr evicted, fun failures closed outcomes failing => ?_⟩⟩
  have stillUnrecorded :
      (dispatch botId first s).2.state.recordedTimes first.event.exchangeExecId = 0 := by
    rw [recordedTimes_dispatch, failed]
    simpa [isRecorded] using unrecorded
  have noneBefore : failures.countP isRecorded = 0 := by
    rw [List.countP_eq_zero]
    intro outcome member
    obtain ⟨error, rfl⟩ := failing outcome member
    simp [isRecorded]
  rw [recordedTimes_retryAll ofEvent, outcomes, List.countP_append, noneBefore]
  simpa [isRecorded] using stillUnrecorded

end Redelivery

/-! ## A fill whose commit fails -/

/-- The tables with the long of 10 placed, and a dispatcher that has seen nothing. -/
def longTracked (capacity : ℕ) : DispatcherState capacity :=
  ⟨.empty, step (.placed placedLong 98 104 1000 3 true) {}⟩

/-- A take-profit of 5 whose transaction does not commit. -/
def failedFill : Delivery := { longFill "e2" "tp" .sell 5 5 with commits := false }

/-- With a ring of one key, one other event lets the redelivery through. -/
theorem failedFill_notLost :
    NotLost "bot" (dispatch "bot" failedFill (longTracked 1)).2 failedFill.event
      [⟨[longFill "e1" "open-1" .buy 10 4], longFill "e2" "tp" .sell 5 5⟩] := by
  have failed : (dispatch "bot" failedFill (longTracked 1)).1 =
      .processed (.error .databaseError) := by decide +kernel
  have ofEvent : RetriesOf failedFill.event
      [⟨[longFill "e1" "open-1" .buy 10 4], longFill "e2" "tp" .sell 5 5⟩] := by
    intro retry member
    obtain rfl := List.mem_singleton.mp member
    refine ⟨rfl, fun other listed => ?_⟩
    obtain rfl := List.mem_singleton.mp listed
    decide
  exact (notLost_iff (by decide) failed (by decide) ofEvent).mpr ⟨by decide +kernel, trivial⟩

/-- With the configured ring of 10000 keys, an event redelivered at once is dropped, and it is
never recorded. -/
theorem redelivery_dropped :
    ¬ ∀ (s : DispatcherState 10000) (first : Delivery) (retries : List Retry) (raised : TxError),
      (dispatch "bot" first s).1 = .processed (.error raised) →
      s.state.recordedTimes first.event.exchangeExecId = 0 → RetriesOf first.event retries →
      NotLost "bot" (dispatch "bot" first s).2 first.event retries := by
  intro notLost
  have ofEvent : RetriesOf failedFill.event [⟨[], longFill "e2" "tp" .sell 5 5⟩] := by
    intro retry member
    obtain rfl := List.mem_singleton.mp member
    exact ⟨rfl, fun other listed => nomatch listed⟩
  have processed := (notLost (longTracked 10000) failedFill _ .databaseError (by decide +kernel)
    (by decide) ofEvent).processed
  exact processed .dropped (by decide +kernel) rfl

end Scalper.Execution
