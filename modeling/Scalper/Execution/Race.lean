import Scalper.Execution.Redelivery

/-!
# Placement and dispatcher, interleaved

A placement is several awaits: the exchange accepts the order, the stop and the take-profit
are set, and only then are the orders, trades and position rows committed.  The exchange may
deliver fills of the order any time after it accepted it; they wait in the stream's queue
until the dispatcher takes them.  The dispatcher then reads the committed rows in awaits of its
own: the order by its exchange id, the rows the exec type is derived from, and the rows the
fill is recorded in.  `raceStep` takes one await at a time, of any placement, of the
dispatcher, or of any other transaction of the service.  Without interruption the dispatcher's
awaits are `_process` (`dispatcherRuns_taken`).

A fill whose order is looked up before it is committed is unattributable, and the dispatcher's
task ends for good (`uncommitted_dies`, `fill_before_commit`).  In every run in which orders are
looked up only after their commit, the dispatcher lives and every fill delivered is recorded
exactly once (`run_exactlyOnce`).
-/

set_option autoImplicit false

namespace Scalper.Execution

open Scalper.Lib Scalper.Exchange Scalper.Bus

/-! ## The parties -/

/-- Where a placement is, once its order is accepted. -/
inductive Phase where
  | accepted
  | slSet
  | tpSet
  deriving DecidableEq

/-- Where the dispatcher's task is with the event in hand. -/
inductive Stage where
  | idle
  | taken (delivery : Delivery)
  | lookedUp (delivery : Delivery) (orderIdMatch : Option ℕ)
  | derived (delivery : Delivery) (orderIdMatch : Option ℕ) (meaning : Derived)
  | dead

/-- The event in hand. -/
def Stage.inHand : Stage → Option Delivery
  | .taken delivery | .lookedUp delivery _ | .derived delivery _ _ => some delivery
  | .idle | .dead => none

/-- The tables, the dispatcher with its ring, the queue of the stream and the placements under
way; and, for the record, the orders the exchange accepted and the execution ids it delivered. -/
structure Race (capacity : ℕ) where
  db : Db := {}
  seen : FifoRing String capacity := .empty
  stage : Stage := .idle
  inbox : List Delivery := []
  placing : List (Placed × Phase) := []
  accepted : List String := []
  delivered : List String := []

/-- A step of a placement among fills. -/
inductive RaceStep where
  /-- `place_market_order` returns: from here on the exchange may deliver fills. -/
  | accepted (p : Placed)
  | slSet (p : Placed)
  /-- The take-profit was set, or refused: the placement goes on either way. -/
  | tpSet (p : Placed)
  | persisted (p : Placed) (slPrice tpPrice notionalUsd : ℚ) (slSetAt : ℕ) (commits : Bool)
  /-- The stop was refused and the position flattened. -/
  | emergencyClosed (p : Placed) (closeExchangeOrderId : String) (closeAt : ℕ) (commits : Bool)
  | delivered (delivery : Delivery)
  | dispatcherRuns
  /-- Any other transaction of the service. -/
  | other (s : Step)

/-- Move a placement to its next phase. -/
def advance (p : Placed) (now next : Phase) (placing : List (Placed × Phase)) :
    List (Placed × Phase) :=
  if (p, now) ∈ placing then placing.erase (p, now) ++ [(p, next)] else placing

variable {capacity : ℕ}

/-- The dispatcher's next await: the next event off the stream, or the next statement on the
event in hand.  An exception ends the task. -/
def dispatcherRuns (botId : String) (s : Race capacity) : Race capacity :=
  match s.stage with
  | .dead => s
  | .idle =>
      match s.inbox with
      | [] => s
      | delivery :: inbox =>
          if s.seen.isFresh delivery.key then
            { s with
              seen := s.seen.remember delivery.key
              stage := .taken delivery
              inbox := inbox }
          else { s with inbox := inbox }
  | .taken delivery =>
      { s with
        stage := .lookedUp delivery
          (s.db.selectOrderIdByExchangeId delivery.event.exchangeOrderId) }
  | .lookedUp delivery orderIdMatch =>
      { s with
        stage := .derived delivery orderIdMatch
          (deriveExecType botId delivery.event orderIdMatch s.db) }
  | .derived delivery orderIdMatch meaning =>
      match transaction delivery.commits
        (recordFill botId delivery.event delivery.reads delivery.now orderIdMatch meaning) s.db with
      | (.ok _, db) => { s with db := db, stage := .idle }
      | (.error _, db) => { s with db := db, stage := .dead }

def raceStep (botId : String) : RaceStep → Race capacity → Race capacity
  | .accepted p, s =>
      { s with
        placing := s.placing ++ [(p, .accepted)]
        accepted := s.accepted ++ [p.placeResult.exchangeOrderId] }
  | .slSet p, s => { s with placing := advance p .accepted .slSet s.placing }
  | .tpSet p, s => { s with placing := advance p .slSet .tpSet s.placing }
  | .persisted p slPrice tpPrice notionalUsd slSetAt commits, s =>
      if (p, .tpSet) ∈ s.placing then
        { s with
          db := step (.placed p slPrice tpPrice notionalUsd slSetAt commits) s.db
          placing := s.placing.erase (p, .tpSet) }
      else s
  | .emergencyClosed p closeExchangeOrderId closeAt commits, s =>
      if (p, .accepted) ∈ s.placing then
        { s with
          db := step (.emergencyClosed p closeExchangeOrderId closeAt commits) s.db
          placing := s.placing.erase (p, .accepted)
          accepted := s.accepted ++ [closeExchangeOrderId] }
      else s
  | .delivered delivery, s =>
      { s with
        inbox := s.inbox ++ [delivery]
        delivered := s.delivered ++ [delivery.key] }
  | .dispatcherRuns, s => dispatcherRuns botId s
  | .other other, s => { s with db := step other s.db }

/-- With nothing in between, the dispatcher's awaits are `_process`. -/
theorem dispatcherRuns_taken {botId : String} {s : Race capacity} {delivery : Delivery}
    (taken : s.stage = .taken delivery) :
    dispatcherRuns botId (dispatcherRuns botId (dispatcherRuns botId s)) =
      { s with
        db := (process botId delivery s.db).2
        stage := match (process botId delivery s.db).1 with
          | .ok _ => .idle
          | .error _ => .dead } := by
  simp only [dispatcherRuns, taken, process, processTx, transaction]
  cases recordFill botId delivery.event delivery.reads delivery.now
      (s.db.selectOrderIdByExchangeId delivery.event.exchangeOrderId)
      (deriveExecType botId delivery.event
        (s.db.selectOrderIdByExchangeId delivery.event.exchangeOrderId) s.db) s.db with
  | error raised => rfl
  | ok result => cases delivery.commits <;> rfl

/-! ## What is promised, and what is not -/

/-- The event the dispatcher takes next, when it is idle. -/
def Race.nextEvent (s : Race capacity) : Option Delivery :=
  match s.stage with
  | .idle => s.inbox.head?
  | .taken _ | .lookedUp _ _ | .derived _ _ _ | .dead => none

/-- The event whose order is looked up next. -/
def Stage.toLookUp : Stage → Option Delivery
  | .taken delivery => some delivery
  | .idle | .lookedUp _ _ | .derived _ _ _ | .dead => none

/-- The exchange delivers fills of orders it accepted, under execution ids of their own, and
again only while the dispatcher remembers them; the database commits what the dispatcher
writes. -/
def Orderly (s : Race capacity) : RaceStep → Prop
  | .delivered delivery =>
      delivery.commits = true ∧ delivery.event.exchangeOrderId ∈ s.accepted ∧
        (delivery.key ∉ s.delivered → s.db.recordedTimes delivery.key = 0)
  | .dispatcherRuns => ∀ delivery ∈ s.nextEvent,
      delivery.key ∉ s.seen.keys → s.db.recordedTimes delivery.key = 0
  | .other (.fill _ delivery) => delivery.key ∉ s.delivered
  | .other (.placed ..) | .other (.emergencyClosed ..) | .other (.monitored ..)
  | .accepted _ | .slSet _ | .tpSet _ | .persisted .. | .emergencyClosed .. => True

instance (s : Race capacity) : DecidablePred (Orderly s)
  | .delivered _ => inferInstanceAs (Decidable (_ ∧ _ ∧ _))
  | .dispatcherRuns => inferInstanceAs (Decidable (∀ delivery ∈ s.nextEvent, _ → _))
  | .other (.fill _ _) => inferInstanceAs (Decidable (_ ∉ _))
  | .other (.placed ..) | .other (.emergencyClosed ..) | .other (.monitored ..)
  | .accepted _ | .slSet _ | .tpSet _ | .persisted .. | .emergencyClosed .. => isTrue trivial

/-- The dispatcher looks an opening order up only after the rows of its trade are committed. -/
def LooksUpCommitted (s : Race capacity) : RaceStep → Prop
  | .dispatcherRuns => ∀ delivery ∈ s.stage.toLookUp,
      (s.db.openedBy delivery.event.exchangeOrderId).isSome = true
  | .delivered _ | .other _ | .accepted _ | .slSet _ | .tpSet _ | .persisted ..
  | .emergencyClosed .. => True

instance (s : Race capacity) : DecidablePred (LooksUpCommitted s)
  | .dispatcherRuns => inferInstanceAs (Decidable (∀ delivery ∈ s.stage.toLookUp, _ = true))
  | .delivered _ | .other _ | .accepted _ | .slSet _ | .tpSet _ | .persisted ..
  | .emergencyClosed .. => isTrue trivial

/-- Every step is in order, and every look-up after its commit. -/
def Timely (s : Race capacity) (next : RaceStep) : Prop :=
  Orderly s next ∧ LooksUpCommitted s next

instance (s : Race capacity) : DecidablePred (Timely s) :=
  fun _ => inferInstanceAs (Decidable (_ ∧ _))

/-- The events that wait for the dispatcher, the one in hand first. -/
def Race.waiting (s : Race capacity) : List Delivery := s.stage.inHand.toList ++ s.inbox

/-- The dispatcher lives, and every fill delivered is recorded exactly once or still waits. -/
structure ExactlyOnce (s : Race capacity) : Prop where
  alive : s.stage ≠ .dead
  recorded : ∀ execId ∈ s.delivered, s.db.recordedTimes execId = 1 ∨
    s.db.recordedTimes execId = 0 ∧ execId ∈ s.waiting.map Delivery.key

/-! ## The invariant -/

/-- What the dispatcher has read stays true while it waits: the opening order and its trade
are there to be written to. -/
def Stage.Attributed (db : Db) : Stage → Prop
  | .idle | .taken _ => True
  | .lookedUp _ orderIdMatch => ∃ orderId tradeId, orderIdMatch = some orderId ∧
      (∃ row ∈ db.orders, row.id = orderId) ∧
      (db.selectTradeByOpenOrderId orderId).map (·.id) = some tradeId
  | .derived _ orderIdMatch meaning => ∃ orderId tradeId, orderIdMatch = some orderId ∧
      meaning = ⟨.isOpen, some tradeId, none⟩ ∧
      (∃ row ∈ db.orders, row.id = orderId) ∧ ∃ row ∈ db.trades, row.id = tradeId
  | .dead => False

theorem Stage.Attributed.grows {db db' : Db} {stage : Stage} (grows : Grows db db')
    (attributed : stage.Attributed db) : stage.Attributed db' := by
  cases stage with
  | idle => trivial
  | taken delivery => trivial
  | lookedUp delivery orderIdMatch =>
      obtain ⟨orderId, tradeId, matched, known, opened⟩ := attributed
      exact ⟨orderId, tradeId, matched, grows.order_known known,
        grows.selectTradeByOpenOrderId opened⟩
  | derived delivery orderIdMatch meaning =>
      obtain ⟨orderId, tradeId, matched, derivedAs, known, traded⟩ := attributed
      exact ⟨orderId, tradeId, matched, derivedAs, grows.order_known known,
        grows.trade_known traded⟩
  | dead => exact attributed.elim

/-- The invariant of timely runs. -/
structure OnTrack (s : Race capacity) : Prop where
  integrity : Integrity s.db
  attributed : s.stage.Attributed s.db
  waiting : ∀ delivery ∈ s.waiting, delivery.commits = true ∧ delivery.key ∈ s.delivered
  inHand : ∀ delivery ∈ s.stage.inHand, s.db.recordedTimes delivery.key = 0
  remembered : ∀ execId ∈ s.seen.keys, execId ∈ s.delivered ∧
    (s.db.recordedTimes execId = 1 ∨ execId ∈ s.stage.inHand.map Delivery.key)
  recorded : ∀ execId ∈ s.delivered, s.db.recordedTimes execId = 1 ∨
    s.db.recordedTimes execId = 0 ∧ execId ∈ s.waiting.map Delivery.key

theorem OnTrack.exactlyOnce {s : Race capacity} (onTrack : OnTrack s) : ExactlyOnce s where
  alive := by
    intro dead
    have attributed := onTrack.attributed
    rw [dead] at attributed
    exact attributed
  recorded := onTrack.recorded

theorem OnTrack.initial : OnTrack ({} : Race capacity) where
  integrity := Integrity.initial
  attributed := trivial
  waiting := by simp [Race.waiting, Stage.inHand]
  inHand := by simp [Stage.inHand]
  remembered := by simp [FifoRing.empty]
  recorded := by simp

/-! ## Transactions of the other parties -/

theorem recordedTimes_congr {db db' : Db} (executions : db'.executions = db.executions)
    (execId : String) : db'.recordedTimes execId = db.recordedTimes execId := by
  rw [Db.recordedTimes, Db.recordedTimes, executions]

/-- A transaction records an execution only as a fill of that id. -/
theorem recordedTimes_step {s : Step} {db : Db} {execId : String}
    (different : ∀ botId delivery, s = .fill botId delivery → delivery.key ≠ execId) :
    (step s db).recordedTimes execId = db.recordedTimes execId := by
  generalize after : step s db = db'
  have change : Change db s db' := after ▸ step_change s db
  cases change with
  | nothing => rfl
  | placed free => exact recordedTimes_congr rfl _
  | emergencyClosed => exact recordedTimes_congr rfl _
  | monitored held => exact recordedTimes_congr rfl _
  | @recorded botId delivery _ _ _ =>
      subst after
      refine (recordedTimes_process execId).trans ?_
      rw [if_neg fun same => different botId delivery rfl same.2, add_zero]

/-- Orders and phases of placements do not matter to the dispatcher. -/
theorem OnTrack.place {s : Race capacity} (onTrack : OnTrack s)
    (placing : List (Placed × Phase)) (accepted : List String) :
    OnTrack { s with placing := placing, accepted := accepted } :=
  ⟨onTrack.integrity, onTrack.attributed, onTrack.waiting, onTrack.inHand, onTrack.remembered,
    onTrack.recorded⟩

/-- A transaction that records no delivered event keeps the dispatcher on track. -/
theorem OnTrack.commit {s : Race capacity} (onTrack : OnTrack s) (other : Step)
    (unheard : ∀ botId delivery, other = .fill botId delivery → delivery.key ∉ s.delivered) :
    OnTrack { s with db := step other s.db } := by
  have same : ∀ execId ∈ s.delivered,
      (step other s.db).recordedTimes execId = s.db.recordedTimes execId := by
    intro execId heard
    refine recordedTimes_step fun botId delivery isFill equal => ?_
    exact unheard botId delivery isFill (equal ▸ heard)
  refine ⟨onTrack.integrity.step other, onTrack.attributed.grows (onTrack.integrity.grows other),
    onTrack.waiting, ?_, ?_, ?_⟩
  · intro delivery held
    have heard : delivery.key ∈ s.delivered :=
      (onTrack.waiting delivery (List.mem_append_left _ (Option.mem_toList.mpr held))).2
    exact (same _ heard).trans (onTrack.inHand delivery held)
  · intro execId member
    obtain ⟨heard, settled⟩ := onTrack.remembered execId member
    refine ⟨heard, ?_⟩
    rw [same execId heard]
    exact settled
  · intro execId heard
    rw [same execId heard]
    exact onTrack.recorded execId heard

/-! ## The dispatcher -/

/-- A new event joins the queue. -/
theorem OnTrack.deliver {s : Race capacity} (onTrack : OnTrack s) {delivery : Delivery}
    (commits : delivery.commits = true)
    (unrecorded : delivery.key ∉ s.delivered → s.db.recordedTimes delivery.key = 0) :
    OnTrack { s with
      inbox := s.inbox ++ [delivery]
      delivered := s.delivered ++ [delivery.key] } := by
  have queued : ∀ event, event ∈ s.stage.inHand.toList ++ (s.inbox ++ [delivery]) ↔
      event ∈ s.waiting ∨ event = delivery := by
    intro event
    simp [Race.waiting, or_assoc]
  refine ⟨onTrack.integrity, onTrack.attributed, ?_, onTrack.inHand, ?_, ?_⟩
  · intro event waits
    rcases (queued event).mp waits with before | rfl
    · obtain ⟨kept, heard⟩ := onTrack.waiting event before
      exact ⟨kept, List.mem_append_left _ heard⟩
    · exact ⟨commits, List.mem_append_right _ (List.mem_singleton_self _)⟩
  · intro execId member
    obtain ⟨heard, settled⟩ := onTrack.remembered execId member
    exact ⟨List.mem_append_left _ heard, settled⟩
  · have stillWaits : ∀ execId ∈ s.waiting.map Delivery.key, execId ∈
        (s.stage.inHand.toList ++ (s.inbox ++ [delivery])).map Delivery.key := by
      intro execId waits
      obtain ⟨event, before, rfl⟩ := List.mem_map.mp waits
      exact List.mem_map_of_mem ((queued event).mpr (.inl before))
    intro execId heard
    by_cases before : execId ∈ s.delivered
    · exact (onTrack.recorded execId before).imp_right fun ⟨unwritten, waits⟩ =>
        ⟨unwritten, stillWaits execId waits⟩
    · have new : execId = delivery.key := by simpa [before] using heard
      subst new
      exact .inr ⟨unrecorded before, List.mem_map_of_mem ((queued delivery).mpr (.inr rfl))⟩

/-- A remembered event is dropped: it was recorded before. -/
theorem OnTrack.drop {s : Race capacity} (onTrack : OnTrack s) {delivery : Delivery}
    {inbox : List Delivery} (idle : s.stage = .idle) (next : s.inbox = delivery :: inbox)
    (seen : delivery.key ∈ s.seen.keys) : OnTrack { s with inbox := inbox } := by
  -- Nothing is in hand, so a remembered id is a recorded one.
  have once : s.db.recordedTimes delivery.key = 1 := by
    simpa [idle, Stage.inHand] using (onTrack.remembered _ seen).2
  have waiting : s.waiting = delivery :: inbox := by simp [Race.waiting, idle, Stage.inHand, next]
  have left : ({ s with inbox := inbox } : Race capacity).waiting = inbox := by
    simp [Race.waiting, idle, Stage.inHand]
  refine ⟨onTrack.integrity, onTrack.attributed, ?_, onTrack.inHand, onTrack.remembered, ?_⟩
  · rw [left]
    intro event waits
    exact onTrack.waiting event (waiting ▸ List.mem_cons_of_mem _ waits)
  · rw [left]
    intro execId heard
    refine (onTrack.recorded execId heard).imp_right fun ⟨unwritten, waits⟩ => ⟨unwritten, ?_⟩
    rw [waiting, List.map_cons, List.mem_cons] at waits
    rcases waits with rfl | later
    · omega
    · exact later

/-- A fresh event is taken in hand. -/
theorem OnTrack.take {s : Race capacity} (onTrack : OnTrack s) {delivery : Delivery}
    {inbox : List Delivery} (idle : s.stage = .idle) (next : s.inbox = delivery :: inbox)
    (unrecorded : s.db.recordedTimes delivery.key = 0) :
    OnTrack { s with
      seen := s.seen.remember delivery.key
      stage := .taken delivery
      inbox := inbox } := by
  have waiting : s.waiting = delivery :: inbox := by simp [Race.waiting, idle, Stage.inHand, next]
  have heard : delivery.key ∈ s.delivered :=
    (onTrack.waiting delivery (waiting ▸ List.mem_cons_self)).2
  refine ⟨onTrack.integrity, trivial, ?_, ?_, ?_, ?_⟩
  · intro event waits
    exact onTrack.waiting event (waiting ▸ waits)
  · intro event held
    obtain rfl := Option.some.inj held
    exact unrecorded
  · intro execId member
    rcases FifoRing.mem_of_mem_remember member with before | rfl
    · obtain ⟨heardBefore, settled⟩ := onTrack.remembered execId before
      refine ⟨heardBefore, .inl ?_⟩
      simpa [idle, Stage.inHand] using settled
    · exact ⟨heard, .inr rfl⟩
  · intro execId heardBefore
    have accounted := onTrack.recorded execId heardBefore
    rw [waiting] at accounted
    exact accounted

/-- The event in hand stays the same while the dispatcher reads. -/
theorem OnTrack.read {s : Race capacity} (onTrack : OnTrack s) {stage : Stage}
    (inHand : stage.inHand = s.stage.inHand) (attributed : stage.Attributed s.db) :
    OnTrack { s with stage := stage } := by
  have waiting : ({ s with stage := stage } : Race capacity).waiting = s.waiting := by
    simp [Race.waiting, inHand]
  refine ⟨onTrack.integrity, attributed, ?_, ?_, ?_, ?_⟩
  · rw [waiting]
    exact onTrack.waiting
  · intro delivery held
    exact onTrack.inHand delivery (inHand ▸ held)
  · intro execId member
    obtain ⟨heard, settled⟩ := onTrack.remembered execId member
    refine ⟨heard, settled.imp_right fun held => ?_⟩
    exact inHand.symm ▸ held
  · rw [waiting]
    exact onTrack.recorded

/-- An event that was never recorded is written, and nothing but its own count changes. -/
theorem recordFill_attributed {botId : String} {delivery : Delivery} {orderId tradeId : ℕ}
    {db : Db} (unrecorded : db.recordedTimes delivery.key = 0)
    (order : ∃ row ∈ db.orders, row.id = orderId) (trade : ∃ row ∈ db.trades, row.id = tradeId) :
    recordFill botId delivery.event delivery.reads delivery.now (some orderId)
        ⟨.isOpen, some tradeId, none⟩ db =
      .ok (none, db.charge
        (executionRow botId delivery.event orderId ⟨.isOpen, some tradeId, none⟩) tradeId) := by
  have unseen : ∀ row ∈ db.executions, row.exchangeExecId ≠ delivery.event.exchangeExecId := by
    intro row member same
    have listed : row ∈ db.executions.filter (·.exchangeExecId == delivery.key) :=
      List.mem_filter.mpr ⟨member, beq_iff_eq.mpr same⟩
    rw [List.eq_nil_of_length_eq_zero unrecorded] at listed
    exact List.not_mem_nil listed
  obtain ⟨opened, known, rfl⟩ := trade
  exact recordFill_open_ok_iff.mpr
    ⟨unseen_accepts unseen order ⟨opened, known, rfl⟩, rfl, rfl⟩

theorem recordedTimes_charge {db : Db} {row : ExecutionRow} {tradeId : ℕ} (execId : String) :
    (db.charge row tradeId).recordedTimes execId =
      db.recordedTimes execId + if row.exchangeExecId = execId then 1 else 0 := by
  have executions : (db.charge row tradeId).executions = db.executions ++ [row.stored] := rfl
  exact recordedTimes_append executions execId

/-- The event in hand is written. -/
theorem OnTrack.write {s : Race capacity} (onTrack : OnTrack s) {botId : String}
    {delivery : Delivery} {orderId tradeId : ℕ} (held : s.stage.inHand = some delivery)
    (trade : ∃ row ∈ s.db.trades, row.id = tradeId) :
    OnTrack { s with
      db := s.db.charge
        (executionRow botId delivery.event orderId ⟨.isOpen, some tradeId, none⟩) tradeId
      stage := .idle } := by
  have waiting : s.waiting = delivery :: s.inbox := by simp [Race.waiting, held]
  have unrecorded := onTrack.inHand delivery held
  have written : ∀ execId, (s.db.charge (executionRow botId delivery.event orderId
      ⟨.isOpen, some tradeId, none⟩) tradeId).recordedTimes execId =
        s.db.recordedTimes execId + if delivery.key = execId then 1 else 0 :=
    fun execId => recordedTimes_charge execId
  refine ⟨onTrack.integrity.charge ?_, trivial, ?_, ?_, ?_, ?_⟩
  · intro id known
    obtain ⟨row, member, rfl⟩ := trade
    obtain rfl := Option.some.inj known
    exact onTrack.integrity.tradeIds row member
  · intro event waits
    exact onTrack.waiting event (waiting ▸ List.mem_cons_of_mem _ waits)
  · intro event stillHeld
    exact absurd stillHeld (by simp [Stage.inHand])
  · intro execId member
    obtain ⟨heard, settled⟩ := onTrack.remembered execId member
    refine ⟨heard, .inl ?_⟩
    rw [written]
    by_cases same : delivery.key = execId
    · subst same
      rw [if_pos rfl, unrecorded]
    · rw [if_neg same, add_zero]
      simpa [held, same] using settled
  · intro execId heard
    show _ ∨ _ ∧ execId ∈ s.inbox.map Delivery.key
    rw [written]
    by_cases same : delivery.key = execId
    · subst same
      exact .inl (by rw [if_pos rfl, unrecorded])
    · rw [if_neg same, add_zero]
      refine (onTrack.recorded execId heard).imp_right fun ⟨unwritten, waits⟩ => ⟨unwritten, ?_⟩
      rw [waiting, List.map_cons, List.mem_cons] at waits
      exact waits.resolve_left fun equal => same equal.symm

theorem OnTrack.dispatcherRuns {s : Race capacity} (onTrack : OnTrack s) {botId : String}
    (timely : Timely s .dispatcherRuns) : OnTrack (dispatcherRuns botId s) := by
  have attributed := onTrack.attributed
  obtain ⟨orderly, committed⟩ := timely
  simp only [Execution.dispatcherRuns]
  cases stage : s.stage with
  | dead =>
      rw [stage] at attributed
      exact attributed.elim
  | idle =>
      cases next : s.inbox with
      | nil => exact onTrack
      | cons delivery inbox =>
          have unrecorded := orderly delivery (by simp [Race.nextEvent, stage, next])
          by_cases seen : delivery.key ∈ s.seen.keys
          · simpa [FifoRing.isFresh, seen, stage] using onTrack.drop stage next seen
          · simpa [FifoRing.isFresh, seen] using onTrack.take stage next (unrecorded seen)
  | taken delivery =>
      -- The one place where the condition on the lookup is needed.
      have lookedUp := committed delivery (by simp [stage, Stage.toLookUp])
      obtain ⟨tradeId, opens⟩ := Option.isSome_iff_exists.mp lookedUp
      obtain ⟨orderId, trade, matched, opened, sameId⟩ := openedBy_eq_some_iff.mp opens
      refine onTrack.read (by rw [stage]; rfl) ⟨orderId, tradeId, matched, ?_, ?_⟩
      · exact exists_of_selectOrderIdByExchangeId matched
      · rw [opened, Option.map_some, sameId]
  | lookedUp delivery orderIdMatch =>
      rw [stage] at attributed
      obtain ⟨orderId, tradeId, rfl, known, opened⟩ := attributed
      obtain ⟨trade, first, rfl⟩ := Option.map_eq_some_iff.mp opened
      refine onTrack.read (by rw [stage]; rfl) ⟨orderId, trade.id, rfl, ?_, known, trade, ?_, rfl⟩
      · simp only [deriveExecType, first]
      · exact List.mem_of_find?_eq_some first
  | derived delivery orderIdMatch meaning =>
      rw [stage] at attributed
      obtain ⟨orderId, tradeId, rfl, rfl, known, traded⟩ := attributed
      have held : s.stage.inHand = some delivery := by rw [stage]; rfl
      have commits : delivery.commits = true :=
        (onTrack.waiting delivery (by simp [Race.waiting, held])).1
      simp only [transaction, commits, if_true,
        recordFill_attributed (onTrack.inHand delivery held) known traded]
      exact onTrack.write held traded

/-- One await of any party keeps the dispatcher on track. -/
theorem OnTrack.raceStep {s : Race capacity} (onTrack : OnTrack s) {botId : String}
    (next : RaceStep) (timely : Timely s next) : OnTrack (raceStep botId next s) := by
  cases next with
  | accepted p => exact onTrack.place _ _
  | slSet p => exact onTrack.place _ _
  | tpSet p => exact onTrack.place _ _
  | persisted p slPrice tpPrice notionalUsd slSetAt commits =>
      simp only [Execution.raceStep]
      split_ifs with ready
      · have committed := onTrack.commit (.placed p slPrice tpPrice notionalUsd slSetAt commits)
          (by rintro _ _ ⟨⟩)
        exact committed.place _ _
      · exact onTrack
  | emergencyClosed p closeExchangeOrderId closeAt commits =>
      simp only [Execution.raceStep]
      split_ifs with ready
      · have committed := onTrack.commit (.emergencyClosed p closeExchangeOrderId closeAt commits)
          (by rintro _ _ ⟨⟩)
        exact committed.place _ _
      · exact onTrack
  | delivered delivery => exact onTrack.deliver timely.1.1 timely.1.2.2
  | dispatcherRuns => exact onTrack.dispatcherRuns timely
  | other other =>
      refine onTrack.commit other fun botId delivery isFill => ?_
      subst isFill
      exact timely.1

theorem run_onTrack {botId : String} {steps : List RaceStep} {s : Race capacity}
    (onTrack : OnTrack s) (timely : RunGuarded Timely (raceStep botId) s steps) :
    OnTrack (run (raceStep botId) s steps) :=
  run_invariant OnTrack (fun _ next onTrack timely => onTrack.raceStep next timely) onTrack timely

/-! ## Catching up -/

/-- How many awaits the dispatcher has left on an event. -/
def Stage.awaits : Stage → ℕ
  | .taken _ => 3
  | .lookedUp _ _ => 2
  | .derived _ _ _ => 1
  | .idle | .dead => 0

/-- How many awaits the dispatcher has left at most. -/
def Race.pending (s : Race capacity) : ℕ := s.stage.awaits + 4 * s.inbox.length

/-- The dispatcher runs until nothing waits. -/
def catchUp (botId : String) (s : Race capacity) : Race capacity :=
  run (raceStep botId) s (List.replicate s.pending .dispatcherRuns)

theorem dispatcherRuns_delivered (botId : String) (s : Race capacity) :
    (dispatcherRuns botId s).delivered = s.delivered := by
  simp only [dispatcherRuns]
  repeat' split
  all_goals rfl

theorem pending_dispatcherRuns {botId : String} {s : Race capacity} (alive : s.stage ≠ .dead) :
    (dispatcherRuns botId s).pending ≤ s.pending - 1 := by
  simp only [dispatcherRuns]
  cases stage : s.stage with
  | dead => exact absurd stage alive
  | idle =>
      cases next : s.inbox with
      | nil => simp [Race.pending, stage, next, Stage.awaits]
      | cons delivery inbox =>
          simp only
          split_ifs with fresh
          · simp only [Race.pending, Stage.awaits, next, stage, List.length_cons]
            omega
          · simp only [Race.pending, Stage.awaits, next, stage, List.length_cons]
            omega
  | taken delivery =>
      simp only [Race.pending, Stage.awaits, stage]
      omega
  | lookedUp delivery orderIdMatch =>
      simp only [Race.pending, Stage.awaits, stage]
      omega
  | derived delivery orderIdMatch meaning =>
      simp only
      split
      · simp only [Race.pending, Stage.awaits, stage]
        omega
      · simp only [Race.pending, Stage.awaits, stage]
        omega

/-- Enough awaits leave nothing to do; the induction is on their number. -/
theorem run_dispatcherRuns {botId : String} :
    ∀ {awaits : ℕ} {s : Race capacity}, OnTrack s → s.pending ≤ awaits →
      RunGuarded Timely (raceStep botId) s (List.replicate awaits .dispatcherRuns) →
      (run (raceStep botId) s (List.replicate awaits .dispatcherRuns)).pending = 0 ∧
        (run (raceStep botId) s (List.replicate awaits .dispatcherRuns)).delivered =
          s.delivered := by
  intro awaits
  induction awaits with
  | zero => exact fun _ enough _ => ⟨Nat.le_zero.mp enough, rfl⟩
  | succ awaits ih =>
      intro s onTrack enough timely
      have fewer : (dispatcherRuns botId s).pending ≤ s.pending - 1 :=
        pending_dispatcherRuns onTrack.exactlyOnce.alive
      obtain ⟨done, delivered⟩ := ih (onTrack.dispatcherRuns timely.1)
        (by omega) timely.2
      exact ⟨done, delivered.trans (dispatcherRuns_delivered botId s)⟩

theorem waiting_eq_nil {s : Race capacity} (alive : s.stage ≠ .dead) (done : s.pending = 0) :
    s.stage = .idle ∧ s.waiting = [] := by
  simp only [Race.pending, Nat.add_eq_zero_iff, Nat.mul_eq_zero, List.length_eq_zero_iff] at done
  obtain ⟨nothingLeft, empty⟩ := done
  cases stage : s.stage with
  | idle => simpa [Race.waiting, stage, Stage.inHand] using empty
  | dead => exact absurd stage alive
  | taken delivery => simp [stage, Stage.awaits] at nothingLeft
  | lookedUp delivery orderIdMatch => simp [stage, Stage.awaits] at nothingLeft
  | derived delivery orderIdMatch meaning => simp [stage, Stage.awaits] at nothingLeft

/-- **Exactly-once recording.** In every interleaving in which orders are looked up after
their commit, the dispatcher lives and every fill delivered is recorded exactly once or still
waits; and once the dispatcher has caught up, every fill delivered is recorded exactly once. -/
theorem run_exactlyOnce {botId : String} {steps : List RaceStep}
    (timely : RunGuarded Timely (raceStep botId) ({} : Race capacity) steps) :
    ExactlyOnce (run (raceStep botId) ({} : Race capacity) steps) ∧
      (RunGuarded Timely (raceStep botId) (run (raceStep botId) ({} : Race capacity) steps)
          (List.replicate (run (raceStep botId) ({} : Race capacity) steps).pending
            .dispatcherRuns) →
        (catchUp botId (run (raceStep botId) ({} : Race capacity) steps)).stage = .idle ∧
          ∀ execId ∈ (run (raceStep botId) ({} : Race capacity) steps).delivered,
            (catchUp botId (run (raceStep botId) ({} : Race capacity) steps)).db.recordedTimes
              execId = 1) := by
  have onTrack := run_onTrack OnTrack.initial timely
  refine ⟨onTrack.exactlyOnce, fun timelyToo => ?_⟩
  have caughtUp := (run_onTrack onTrack timelyToo).exactlyOnce
  obtain ⟨done, delivered⟩ := run_dispatcherRuns onTrack le_rfl timelyToo
  obtain ⟨idle, nothingWaits⟩ := waiting_eq_nil caughtUp.alive done
  refine ⟨idle, fun execId heard => ?_⟩
  rw [← delivered] at heard
  exact (caughtUp.recorded execId heard).resolve_right fun ⟨_, waits⟩ => by
    simp [nothingWaits] at waits

/-! ## A fill before its commit -/

theorem process_unattributable {botId : String} {delivery : Delivery} {db : Db}
    (noOrder : db.selectOrderIdByExchangeId delivery.event.exchangeOrderId = none)
    (noPosition : db.selectPositionState (botId, delivery.event.symbol) = none) :
    process botId delivery db = (.error .unattributableFill, db) := by
  have raises : processTx botId delivery.event delivery.reads delivery.now db =
      .error .unattributableFill := by
    simp only [processTx, noOrder, deriveExecType, noPosition]
    rfl
  rw [process, transaction, raises]

/-- A task that ended is not started again. -/
theorem run_dead {botId : String} {s : Race capacity} (dead : s.stage = .dead)
    (steps : List RaceStep) : (run (raceStep botId) s steps).stage = .dead := by
  refine run_invariant_of_always (fun s : Race capacity => s.stage = .dead) ?_ steps dead
  intro s next dead
  cases next with
  | persisted => simp only [raceStep]; split_ifs <;> exact dead
  | emergencyClosed => simp only [raceStep]; split_ifs <;> exact dead
  | dispatcherRuns => simp only [raceStep, dispatcherRuns, dead]
  | accepted | slSet | tpSet | delivered | other => exact dead

/-- An opening fill that is looked up before the rows of its placement are there ends the
dispatcher for good, whatever the placement and the exchange do afterwards. -/
theorem uncommitted_dies {botId : String} {s : Race capacity} {delivery : Delivery}
    (taken : s.stage = .taken delivery)
    (noOrder : s.db.selectOrderIdByExchangeId delivery.event.exchangeOrderId = none)
    (noPosition : s.db.selectPositionState (botId, delivery.event.symbol) = none)
    (steps : List RaceStep) :
    (run (raceStep botId) s
      (.dispatcherRuns :: .dispatcherRuns :: .dispatcherRuns :: steps)).stage = .dead := by
  simp only [run_cons]
  refine run_dead ?_ steps
  simp only [raceStep, dispatcherRuns_taken taken, process_unattributable noOrder noPosition]

/-! ## The long of 10 -/

/-- The long is placed, and its two opening fills arrive before the commit but are looked up
after it. -/
def longRace : List RaceStep :=
  [.accepted placedLong, .delivered (longFill "e1" "open-1" .buy 4 3), .dispatcherRuns,
   .slSet placedLong, .delivered (longFill "e2" "open-1" .buy 6 3), .tpSet placedLong,
   .persisted placedLong 98 104 1000 3 true, .dispatcherRuns]

theorem longRace_exactlyOnce :
    (catchUp "bot" (run (raceStep "bot") ({} : Race 10000) longRace)).stage = .idle ∧
      (catchUp "bot" (run (raceStep "bot") ({} : Race 10000) longRace)).db.recordedTimes "e1" = 1 ∧
      (catchUp "bot" (run (raceStep "bot") ({} : Race 10000) longRace)).db.recordedTimes "e2" =
        1 := by
  have timely : RunGuarded Timely (raceStep "bot") ({} : Race 10000) longRace := by decide +kernel
  obtain ⟨idle, once⟩ := (run_exactlyOnce timely).2 (by decide +kernel)
  exact ⟨idle, once "e1" (by decide +kernel), once "e2" (by decide +kernel)⟩

/-- The exchange keeps its promises, but the fill is looked up before the placement is
committed: the dispatcher dies. -/
theorem fill_before_commit :
    ¬ ∀ steps : List RaceStep, RunGuarded Orderly (raceStep "bot") ({} : Race 10000) steps →
      ExactlyOnce (run (raceStep "bot") ({} : Race 10000) steps) := by
  intro exactlyOnce
  have once := exactlyOnce
    [.accepted placedLong, .delivered (longFill "e1" "open-1" .buy 10 3), .dispatcherRuns,
     .dispatcherRuns, .dispatcherRuns, .dispatcherRuns] (by decide +kernel)
  exact once.alive rfl

end Scalper.Execution
