import Scalper.Lib.Run
import Scalper.Lib.While
import Mathlib.Data.List.Sort
import Mathlib.Algebra.BigOperators.Group.List.Basic
import Mathlib.Algebra.GroupWithZero.Nat

/-!
# The replay bus

`packages/bus/replay_bus.py`: published envelopes wait in a heap ordered by their timestamp and,
at equal timestamps, by the order they were published in; `run_until_empty` takes them out one by
one and calls the handlers of the subscriptions that match.  A handler works on a state of its own
and may publish; one that raises keeps what it did before it raised.  The heap is kept as the list
of its entries in order, and a subject as its dot-separated tokens.

The loop ends when every handler's publications weigh less than the message it handles
(`runUntilEmpty_empties`), and then every message that was waiting has been delivered
(`delivered_of_mem`).
-/

set_option autoImplicit false

namespace Scalper.Bus

open Scalper.Lib

/-- The tokens of a subject, or of a pattern of subjects. -/
abbrev Subject := List String

/-- `_subject_matches`. -/
def subjectMatches : Subject → Subject → Bool
  | [], subject => subject.isEmpty
  | token :: pattern, subject =>
      if token = ">" then true
      else
        match subject with
        | [] => false
        | head :: subject =>
            if token = "*" ∨ token = head then subjectMatches pattern subject else false

/-- `MessageEnvelope`, with the parsed payload. -/
structure MessageEnvelope (π : Type) where
  correlationId : ℕ
  publishedAt : ℕ
  payload : π

variable {π σ : Type}

/-- An entry of the heap. -/
structure HeapEntry (π : Type) where
  insertionSeq : ℕ
  subject : Subject
  envelope : MessageEnvelope π

/-- The order of the heap's tuples: the timestamp, then the sequence number. -/
def HeapEntry.Precedes (entry later : HeapEntry π) : Prop :=
  entry.envelope.publishedAt < later.envelope.publishedAt ∨
    entry.envelope.publishedAt = later.envelope.publishedAt ∧
      entry.insertionSeq ≤ later.insertionSeq

instance HeapEntry.decidablePrecedes :
    DecidableRel (HeapEntry.Precedes : HeapEntry π → HeapEntry π → Prop) :=
  fun _ _ => inferInstanceAs (Decidable (_ ∨ _))

instance HeapEntry.total_precedes :
    Std.Total (HeapEntry.Precedes : HeapEntry π → HeapEntry π → Prop) :=
  ⟨fun entry later => by
    unfold HeapEntry.Precedes
    omega⟩

instance HeapEntry.trans_precedes :
    IsTrans (HeapEntry π) HeapEntry.Precedes :=
  ⟨fun entry later last first second => by
    unfold HeapEntry.Precedes at *
    omega⟩

/-- `ReplayBus`: the heap and the insertion counter. -/
structure ReplayBus (π : Type) where
  heap : List (HeapEntry π) := []
  insertionSeq : ℕ := 0

/-- A message with its subject. -/
abbrev Publication (π : Type) := Subject × MessageEnvelope π

/-- `ReplayBus.publish`. -/
def ReplayBus.publish (bus : ReplayBus π) (publication : Publication π) : ReplayBus π :=
  { heap := List.orderedInsert HeapEntry.Precedes
      { insertionSeq := bus.insertionSeq, subject := publication.1, envelope := publication.2 }
      bus.heap
    insertionSeq := bus.insertionSeq + 1 }

def ReplayBus.publishAll (bus : ReplayBus π) (publications : List (Publication π)) : ReplayBus π :=
  run (fun publication bus => bus.publish publication) bus publications

/-- `ReplaySubscription`. -/
structure Subscription (π σ : Type) where
  subjectPattern : Subject
  handler : MessageEnvelope π → σ → σ × List (Publication π)
  active : Bool := true

def Subscription.hears (subscription : Subscription π σ) (subject : Subject) : Bool :=
  subscription.active && subjectMatches subscription.subjectPattern subject

/-- The bus with the state its handlers work on. -/
structure Replay (π σ : Type) where
  bus : ReplayBus π
  state : σ

/-- A subscription's turn at a message. -/
def Subscription.invoke (entry : HeapEntry π) (subscription : Subscription π σ)
    (r : Replay π σ) : Replay π σ :=
  if subscription.hears entry.subject then
    let handled := subscription.handler entry.envelope r.state
    { bus := r.bus.publishAll handled.2, state := handled.1 }
  else r

/-- The subscriptions' turns, in the order they were made. -/
def deliver (subscriptions : List (Subscription π σ)) (entry : HeapEntry π) (r : Replay π σ) :
    Replay π σ :=
  run (Subscription.invoke entry) r subscriptions

/-- One round of the drain loop. -/
def deliverNext (subscriptions : List (Subscription π σ)) (r : Replay π σ) :
    Option (Replay π σ) :=
  match r.bus.heap with
  | [] => none
  | entry :: heap => some (deliver subscriptions entry { r with bus := { r.bus with heap := heap } })

/-- `ReplayBus.run_until_empty`, for a number of deliveries. -/
def runUntilEmpty (subscriptions : List (Subscription π σ)) : ℕ → Replay π σ → Replay π σ :=
  whileSome (deliverNext subscriptions)

/-! ## What is waiting -/

section Heap

variable {bus : ReplayBus π} {entry : HeapEntry π}

theorem mem_publish {publication : Publication π} :
    entry ∈ (bus.publish publication).heap ↔
      entry = ⟨bus.insertionSeq, publication.1, publication.2⟩ ∨ entry ∈ bus.heap :=
  List.mem_orderedInsert _

/-- The heap stays in order. -/
theorem pairwise_publish (ordered : bus.heap.Pairwise HeapEntry.Precedes)
    (publication : Publication π) :
    (bus.publish publication).heap.Pairwise HeapEntry.Precedes :=
  ordered.orderedInsert _ _

@[simp] theorem publishAll_nil : bus.publishAll [] = bus := rfl

@[simp] theorem publishAll_cons (publication : Publication π)
    (publications : List (Publication π)) :
    bus.publishAll (publication :: publications) =
      (bus.publish publication).publishAll publications := rfl

/-- Publishing drops nothing that waits. -/
theorem mem_publishAll_of_mem (publications : List (Publication π)) :
    ∀ {bus : ReplayBus π}, entry ∈ bus.heap → entry ∈ (bus.publishAll publications).heap := by
  induction publications with
  | nil => exact fun waits => waits
  | cons publication publications ih =>
      exact fun waits => ih (mem_publish.mpr (.inr waits))

/-- Everything that waits was waiting or is among the publications. -/
theorem of_mem_publishAll (publications : List (Publication π)) :
    ∀ {bus : ReplayBus π}, entry ∈ (bus.publishAll publications).heap →
      entry ∈ bus.heap ∨ (entry.subject, entry.envelope) ∈ publications := by
  induction publications with
  | nil => exact fun waits => .inl waits
  | cons publication publications ih =>
      intro bus waits
      rcases ih waits with published | later
      · rcases mem_publish.mp published with rfl | before
        · exact .inr List.mem_cons_self
        · exact .inl before
      · exact .inr (List.mem_cons_of_mem _ later)

/-- Each publication waits. -/
theorem mem_publishAll (publications : List (Publication π)) :
    ∀ {bus : ReplayBus π} {publication : Publication π}, publication ∈ publications →
      ∃ entry ∈ (bus.publishAll publications).heap,
        (entry.subject, entry.envelope) = publication := by
  induction publications with
  | nil => exact fun member => absurd member List.not_mem_nil
  | cons first publications ih =>
      intro bus publication member
      rcases List.mem_cons.mp member with rfl | later
      · exact ⟨⟨bus.insertionSeq, publication.1, publication.2⟩,
          mem_publishAll_of_mem publications (mem_publish.mpr (.inl rfl)), rfl⟩
      · exact ih later

/-- What the waiting messages weigh together. -/
def ReplayBus.load (weight : Subject → ℕ) (bus : ReplayBus π) : ℕ :=
  (bus.heap.map fun entry => weight entry.subject).sum

theorem load_publish (weight : Subject → ℕ) (publication : Publication π) :
    (bus.publish publication).load weight = weight publication.1 + bus.load weight := by
  have reordered := (List.perm_orderedInsert HeapEntry.Precedes
    ⟨bus.insertionSeq, publication.1, publication.2⟩ bus.heap).map fun entry => weight entry.subject
  exact reordered.sum_eq

theorem load_publishAll (weight : Subject → ℕ) (publications : List (Publication π)) :
    ∀ bus : ReplayBus π, (bus.publishAll publications).load weight =
      (publications.map fun publication => weight publication.1).sum + bus.load weight := by
  induction publications with
  | nil => exact fun bus => (Nat.zero_add _).symm
  | cons publication publications ih =>
      intro bus
      rw [publishAll_cons, ih, load_publish, List.map_cons, List.sum_cons]
      omega

end Heap

/-! ## Rules of the drain loop -/

section Drain

variable {subscriptions : List (Subscription π σ)}

theorem invoke_of_hears {entry : HeapEntry π} {subscription : Subscription π σ}
    (heard : subscription.hears entry.subject = true) (r : Replay π σ) :
    subscription.invoke entry r =
      ⟨r.bus.publishAll (subscription.handler entry.envelope r.state).2,
        (subscription.handler entry.envelope r.state).1⟩ :=
  if_pos heard

theorem invoke_of_not_hears {entry : HeapEntry π} {subscription : Subscription π σ}
    (unheard : ¬ subscription.hears entry.subject = true) (r : Replay π σ) :
    subscription.invoke entry r = r :=
  if_neg unheard

/-- What every handler of a delivered message keeps, its delivery keeps. -/
theorem deliver_invariant {entry : HeapEntry π} (invariant : Replay π σ → Prop)
    (preserved : ∀ subscription ∈ subscriptions, ∀ r : Replay π σ, invariant r →
      subscription.hears entry.subject = true →
      invariant ⟨r.bus.publishAll (subscription.handler entry.envelope r.state).2,
        (subscription.handler entry.envelope r.state).1⟩) :
    ∀ {r : Replay π σ}, invariant r → invariant (deliver subscriptions entry r) := by
  induction subscriptions with
  | nil => exact fun holds => holds
  | cons subscription subscriptions ih =>
      intro r holds
      refine ih
        (fun other member => preserved other (List.mem_cons_of_mem _ member)) ?_
      show invariant (subscription.invoke entry r)
      by_cases heard : subscription.hears entry.subject = true
      · rw [invoke_of_hears heard]
        exact preserved subscription List.mem_cons_self r holds heard
      · rwa [invoke_of_not_hears heard]

/-- A round of the loop takes the first message out and delivers it. -/
theorem of_deliverNext {r next : Replay π σ} (found : deliverNext subscriptions r = some next) :
    ∃ entry heap, r.bus.heap = entry :: heap ∧
      next = deliver subscriptions entry { r with bus := { r.bus with heap := heap } } := by
  unfold deliverNext at found
  split at found
  · exact absurd found (by simp)
  · next entry heap waits => exact ⟨entry, heap, waits, (Option.some.inj found).symm⟩

theorem deliverNext_eq_none {r : Replay π σ} :
    deliverNext subscriptions r = none ↔ r.bus.heap = [] := by
  unfold deliverNext
  split <;> simp_all

/-- What every delivery keeps, the drain keeps. -/
theorem runUntilEmpty_invariant (invariant : Replay π σ → Prop)
    (preserved : ∀ (entry : HeapEntry π) (heap : List (HeapEntry π)) (r : Replay π σ),
      invariant r → r.bus.heap = entry :: heap →
      invariant (deliver subscriptions entry { r with bus := { r.bus with heap := heap } }))
    (fuel : ℕ) {r : Replay π σ} (holds : invariant r) :
    invariant (runUntilEmpty subscriptions fuel r) := by
  refine whileSome_invariant invariant (fun t next kept found => ?_) fuel holds
  obtain ⟨entry, heap, waits, rfl⟩ := of_deliverNext found
  exact preserved entry heap t kept waits

/-- A delivery drops nothing that waits. -/
theorem mem_deliver_of_mem {entry waiting : HeapEntry π} {r : Replay π σ}
    (waits : waiting ∈ r.bus.heap) : waiting ∈ (deliver subscriptions entry r).bus.heap :=
  deliver_invariant (fun r => waiting ∈ r.bus.heap)
    (fun _ _ _ waits _ => mem_publishAll_of_mem _ waits) waits

/-- When each delivery publishes less than it takes away, the drain leaves nothing. -/
theorem runUntilEmpty_empties (weight : Subject → ℕ)
    (falls : ∀ (entry : HeapEntry π) (r : Replay π σ),
      (deliver subscriptions entry r).bus.load weight < weight entry.subject + r.bus.load weight)
    {fuel : ℕ} {r : Replay π σ} (enough : r.bus.load weight ≤ fuel) :
    (runUntilEmpty subscriptions fuel r).bus.heap = [] := by
  refine deliverNext_eq_none.mp (whileSome_done (fun _ => True) (fun r => r.bus.load weight)
    (fun _ _ _ _ => trivial) (fun t next _ found => ?_) fuel trivial enough)
  obtain ⟨entry, heap, waits, rfl⟩ := of_deliverNext found
  refine (falls entry _).trans_le ?_
  simp [ReplayBus.load, waits]

/-- A message that waits before a drain which leaves nothing is delivered by it: what its
delivery establishes and no other delivery undoes holds at the end. -/
theorem delivered_of_mem {entry : HeapEntry π} (delivered : σ → Prop)
    (established : ∀ r : Replay π σ, delivered (deliver subscriptions entry r).state)
    (kept : ∀ (other : HeapEntry π) (r : Replay π σ), delivered r.state →
      delivered (deliver subscriptions other r).state)
    {fuel : ℕ} {r : Replay π σ} (emptied : (runUntilEmpty subscriptions fuel r).bus.heap = [])
    (waits : entry ∈ r.bus.heap) : delivered (runUntilEmpty subscriptions fuel r).state := by
  have waitsOrDelivered : ∀ (next : HeapEntry π) (heap : List (HeapEntry π)) (r : Replay π σ),
      (entry ∈ r.bus.heap ∨ delivered r.state) → r.bus.heap = next :: heap →
      entry ∈ (deliver subscriptions next { r with bus := { r.bus with heap := heap } }).bus.heap ∨
        delivered
          (deliver subscriptions next { r with bus := { r.bus with heap := heap } }).state := by
    intro next heap r holds waiting
    rcases holds with still | done
    · rw [waiting] at still
      rcases List.mem_cons.mp still with rfl | behind
      · exact .inr (established _)
      · exact .inl (mem_deliver_of_mem behind)
    · exact .inr (kept next _ done)
  rcases runUntilEmpty_invariant _ waitsOrDelivered fuel (.inl waits) with waiting | done
  · rw [emptied] at waiting
    exact absurd waiting List.not_mem_nil
  · exact done

/-- Subscriptions that treat every message alike which comes up. -/
theorem runUntilEmpty_congr {subscriptions' : List (Subscription π σ)}
    (invariant : Replay π σ → Prop)
    (same : ∀ (entry : HeapEntry π) (heap : List (HeapEntry π)) (r : Replay π σ),
      invariant r → r.bus.heap = entry :: heap →
      deliver subscriptions entry { r with bus := { r.bus with heap := heap } } =
        deliver subscriptions' entry { r with bus := { r.bus with heap := heap } })
    (preserved : ∀ (entry : HeapEntry π) (heap : List (HeapEntry π)) (r : Replay π σ),
      invariant r → r.bus.heap = entry :: heap →
      invariant (deliver subscriptions entry { r with bus := { r.bus with heap := heap } }))
    (fuel : ℕ) {r : Replay π σ} (holds : invariant r) :
    runUntilEmpty subscriptions fuel r = runUntilEmpty subscriptions' fuel r := by
  refine whileSome_congr invariant (fun t kept => ?_) (fun t next kept found => ?_) fuel holds
  · unfold deliverNext
    split
    · rfl
    · next entry heap waits => exact congrArg some (same entry heap t kept waits)
  · obtain ⟨entry, heap, waits, rfl⟩ := of_deliverNext found
    exact preserved entry heap t kept waits

end Drain

end Scalper.Bus
