import Scalper.Bus.ReplayBus
import Mathlib.Data.List.Count

/-!
# A replay bus whose handlers use it

`packages/bus/replay_bus.py` as its handlers find it: while a message is delivered a handler may
publish, subscribe other handlers and set the `active` flag of any subscription.  The loop over the
subscriptions reads the list as it is, place by place, so it comes to subscriptions made meanwhile
and reads the flags as they are by then; an exception of a handler is suppressed and what it did
before stays.  `close` is left out.

`LiveReplay` is the bus between two places of the loop; it records what was published, and with each
message taken what else was pending, the subscriptions there were, the places whose handler was
invoked and those whose flag was set.  `replayBus_delivers` says for all handlers that every message
is taken once, always the first that is pending, and invokes each subscription that is active and
matches when it is taken once, unless a handler sets its flag meanwhile; and that the drain ends when
the handlers publish and subscribe finitely often.  `static_runUntilEmpty` finds the drain of
`ReplayBus` in it, for handlers that only publish or raise.
-/

set_option autoImplicit false

namespace Scalper.Bus

open Scalper.Lib

/-- `ReplaySubscription`, with the name of its handler. -/
structure LiveSubscription (ι : Type) where
  subjectPattern : Subject
  handler : ι
  active : Bool := true

variable {π σ ι : Type}

/-- Active, and of a pattern that matches. -/
def LiveSubscription.hears (subscription : LiveSubscription ι) (subject : Subject) : Bool :=
  subscription.active && subjectMatches subscription.subjectPattern subject

/-- What a handler does with the bus. -/
inductive BusCall (π ι : Type) where
  | publish (publication : Publication π)
  | subscribe (subjectPattern : Subject) (handler : ι)
  | setActive (subscription : ℕ) (active : Bool)

/-- One run of a handler: its calls in order, the state it leaves, and whether it returns. -/
structure HandlerRun (π σ ι : Type) where
  calls : List (BusCall π ι)
  state : σ
  outcome : Except Unit Unit := .ok ()

/-- The handler of each subscription. -/
abbrev Handlers (π σ ι : Type) := ι → MessageEnvelope π → σ → HandlerRun π σ ι

/-- A message taken from the heap: what else was pending, the subscriptions there were, the places
whose handler it invoked and those whose flag was set meanwhile. -/
structure MessageDelivery (π ι : Type) where
  entry : HeapEntry π
  pending : List (HeapEntry π)
  subscriptions : List (LiveSubscription ι)
  invoked : List ℕ := []
  changed : List ℕ := []

/-- The bus, the state its handlers work on, the delivery under way with the place of the next
subscription, and what has been published and delivered. -/
structure LiveReplay (π σ ι : Type) where
  bus : ReplayBus π
  subscriptions : List (LiveSubscription ι)
  state : σ
  current : Option (MessageDelivery π ι × ℕ) := none
  published : List (Publication π) := []
  deliveries : List (MessageDelivery π ι) := []

/-- `ReplayBus.publish`, `ReplayBus.subscribe` and the assignment of `sub.active`. -/
def BusCall.apply : BusCall π ι → LiveReplay π σ ι → LiveReplay π σ ι
  | .publish publication, r =>
      { r with bus := r.bus.publish publication, published := r.published ++ [publication] }
  | .subscribe subjectPattern handler, r =>
      { r with subscriptions := r.subscriptions ++ [{ subjectPattern, handler }] }
  | .setActive place active, r =>
      { r with
        subscriptions := r.subscriptions.modify place ({ · with active := active })
        current := r.current.map fun c => ({ c.1 with changed := c.1.changed ++ [place] }, c.2) }

/-- `contextlib.suppress(Exception)`: what was done stays, whatever the outcome. -/
def suppress {α ε : Type} : Except ε Unit × α → α
  | (.ok (), a) => a
  | (.error _, a) => a

/-- `await sub.handler(envelope)`. -/
def LiveReplay.await (run : HandlerRun π σ ι) (r : LiveReplay π σ ι) :
    Except Unit Unit × LiveReplay π σ ι :=
  (run.outcome, { Lib.run BusCall.apply r run.calls with state := run.state })

/-- One step of `run_until_empty`: take a message, come to a subscription, or end the loop over
them. -/
def replayStep (handlers : Handlers π σ ι) (r : LiveReplay π σ ι) : Option (LiveReplay π σ ι) :=
  match r.current with
  | none =>
      match r.bus.heap with
      | [] => none
      | entry :: heap =>
          some { r with
            bus := { r.bus with heap := heap }
            current := some ({ entry, pending := heap, subscriptions := r.subscriptions }, 0) }
  | some (delivery, place) =>
      match r.subscriptions[place]? with
      | none => some { r with current := none, deliveries := r.deliveries ++ [delivery] }
      | some subscription =>
          if subscription.hears delivery.entry.subject then
            some (suppress (LiveReplay.await
              (handlers subscription.handler delivery.entry.envelope r.state)
              { r with
                current := some ({ delivery with invoked := delivery.invoked ++ [place] },
                  place + 1) }))
          else some { r with current := some (delivery, place + 1) }

/-- `run_until_empty`, for a number of steps. -/
def drainSteps (handlers : Handlers π σ ι) : ℕ → LiveReplay π σ ι → LiveReplay π σ ι :=
  whileSome (replayStep handlers)

/-- A bus with its subscriptions and the messages published before the drain. -/
def LiveReplay.start (subscriptions : List (LiveSubscription ι)) (messages : List (Publication π))
    (state : σ) : LiveReplay π σ ι :=
  run BusCall.apply { bus := {}, subscriptions := subscriptions, state := state }
    (messages.map .publish)

/-- The messages taken so far. -/
def LiveReplay.taken (r : LiveReplay π σ ι) : List (MessageDelivery π ι) :=
  r.deliveries ++ (r.current.map Prod.fst).toList

/-- The drain has nothing left to do. -/
def LiveReplay.Done (r : LiveReplay π σ ι) : Prop :=
  r.bus.heap = [] ∧ r.current = none

/-! ## What a step does -/

@[simp] theorem suppress_eq {α ε : Type} (outcome : Except ε Unit) (a : α) :
    suppress (outcome, a) = a := by
  cases outcome <;> rfl

section Steps

variable {handlers : Handlers π σ ι} {r next : LiveReplay π σ ι}

/-- The three things a step does. -/
theorem replayStep_cases (found : replayStep handlers r = some next) :
    (∃ entry heap, r.current = none ∧ r.bus.heap = entry :: heap ∧
      next = { r with
        bus := { r.bus with heap := heap }
        current := some ({ entry, pending := heap, subscriptions := r.subscriptions }, 0) }) ∨
    (∃ delivery place, r.current = some (delivery, place) ∧ r.subscriptions[place]? = none ∧
      next = { r with current := none, deliveries := r.deliveries ++ [delivery] }) ∨
    (∃ delivery place subscription, r.current = some (delivery, place) ∧
      r.subscriptions[place]? = some subscription ∧
      ((subscription.hears delivery.entry.subject = true ∧
          next = { run BusCall.apply
                { r with
                  current := some ({ delivery with invoked := delivery.invoked ++ [place] },
                    place + 1) }
                (handlers subscription.handler delivery.entry.envelope r.state).calls with
            state := (handlers subscription.handler delivery.entry.envelope r.state).state }) ∨
        (subscription.hears delivery.entry.subject = false ∧
          next = { r with current := some (delivery, place + 1) }))) := by
  unfold replayStep at found
  split at found
  · next none =>
      split at found
      · exact absurd found (by simp)
      · next entry heap waits =>
          exact .inl ⟨entry, heap, none, waits, (Option.some.inj found).symm⟩
  · next delivery place under =>
      split at found
      · next ended =>
          exact .inr (.inl ⟨delivery, place, under, ended, (Option.some.inj found).symm⟩)
      · next subscription here =>
          refine .inr (.inr ⟨delivery, place, subscription, under, here, ?_⟩)
          split_ifs at found with heard
          · rw [LiveReplay.await, suppress_eq] at found
            exact .inl ⟨heard, (Option.some.inj found).symm⟩
          · exact .inr ⟨by simpa using heard, (Option.some.inj found).symm⟩

/-- Between two deliveries the first message that is pending is taken. -/
theorem replayStep_takes {entry : HeapEntry π} {heap : List (HeapEntry π)} (idle : r.current = none)
    (waits : r.bus.heap = entry :: heap) : replayStep handlers r = some { r with
      bus := { r.bus with heap := heap }
      current := some (⟨entry, heap, r.subscriptions, [], []⟩, 0) } := by
  simp only [replayStep, idle, waits]

theorem replayStep_eq_none : replayStep handlers r = none ↔ r.Done := by
  unfold replayStep LiveReplay.Done
  cases under : r.current with
  | none => cases waits : r.bus.heap <;> simp
  | some current =>
      obtain ⟨delivery, place⟩ := current
      cases here : r.subscriptions[place]? with
      | none => simp [here]
      | some subscription =>
          by_cases heard : subscription.hears delivery.entry.subject <;> simp [here, heard]

end Steps

/-! ## The messages -/

/-- What is taken and what is pending are together what was published, each once; and what is
taken comes first. -/
structure Ledger (r : LiveReplay π σ ι) : Prop where
  numbered : r.bus.insertionSeq = r.published.length
  ordered : r.bus.heap.Pairwise HeapEntry.Precedes
  once : ((r.taken.map (·.entry) ++ r.bus.heap).map (·.insertionSeq)).Perm
    (List.range r.published.length)
  content : ∀ entry ∈ r.taken.map (·.entry) ++ r.bus.heap,
    r.published[entry.insertionSeq]? = some (entry.subject, entry.envelope)
  first : ∀ delivery ∈ r.taken, ∀ other ∈ delivery.pending, delivery.entry.Precedes other

section Messages

variable {r : LiveReplay π σ ι}

theorem taken_none (none : r.current = none) : r.taken = r.deliveries := by
  simp [LiveReplay.taken, none]

theorem taken_some {delivery : MessageDelivery π ι} {place : ℕ}
    (under : r.current = some (delivery, place)) : r.taken = r.deliveries ++ [delivery] := by
  simp [LiveReplay.taken, under]

/-- A ledger only depends on the heap, on what was published, and on what was taken with what else
was pending. -/
theorem Ledger.congr (ledger : Ledger r) {r' : LiveReplay π σ ι} (bus : r'.bus = r.bus)
    (published : r'.published = r.published)
    (taken : r'.taken.map (fun delivery => (delivery.entry, delivery.pending)) =
      r.taken.map fun delivery => (delivery.entry, delivery.pending)) : Ledger r' := by
  have entries : r'.taken.map (·.entry) = r.taken.map (·.entry) := by
    simpa [List.map_map, Function.comp_def] using congrArg (List.map Prod.fst) taken
  refine ⟨?_, ?_, ?_, ?_, ?_⟩
  · rw [bus, published, ledger.numbered]
  · rw [bus]
    exact ledger.ordered
  · rw [bus, published, entries]
    exact ledger.once
  · rw [bus, published, entries]
    exact ledger.content
  · intro delivery member other waits
    have listed : (delivery.entry, delivery.pending) ∈
        r.taken.map fun delivery => (delivery.entry, delivery.pending) :=
      taken ▸ List.mem_map_of_mem member
    obtain ⟨same, member', equal⟩ := List.mem_map.mp listed
    obtain ⟨sameEntry, samePending⟩ := Prod.mk.inj equal
    rw [← sameEntry]
    exact ledger.first same member' other (samePending ▸ waits)

theorem getElem?_append_of_eq_some {α : Type} {xs ys : List α} {place : ℕ} {x : α}
    (known : xs[place]? = some x) : (xs ++ ys)[place]? = some x := by
  rw [List.getElem?_append_left (List.getElem?_eq_some_iff.mp known).1, known]

theorem Ledger.publish (ledger : Ledger r) (publication : Publication π) :
    Ledger (BusCall.apply (.publish publication) r) := by
  have inserted := List.perm_orderedInsert HeapEntry.Precedes
    ⟨r.bus.insertionSeq, publication.1, publication.2⟩ r.bus.heap
  refine ⟨?_, pairwise_publish ledger.ordered publication, ?_, ?_, ledger.first⟩
  · simp [BusCall.apply, ReplayBus.publish, ledger.numbered]
  · have last : ((r.taken.map (·.entry) ++ (r.bus.publish publication).heap).map
        (·.insertionSeq)).Perm
          (r.bus.insertionSeq :: (r.taken.map (·.entry) ++ r.bus.heap).map (·.insertionSeq)) :=
      ((inserted.append_left _).trans List.perm_middle).map _
    have range : (List.range (r.published ++ [publication]).length).Perm
        (r.bus.insertionSeq :: List.range r.published.length) := by
      rw [List.length_append, List.length_singleton, List.range_succ, ledger.numbered]
      exact List.perm_append_singleton _ _
    exact (last.trans (ledger.once.cons _)).trans range.symm
  · intro entry member
    rcases List.mem_append.mp member with before | waits
    · have known := ledger.content entry (List.mem_append_left _ before)
      exact getElem?_append_of_eq_some known
    · rcases mem_publish.mp waits with rfl | before
      · simp [BusCall.apply, ledger.numbered]
      · have known := ledger.content entry (List.mem_append_right _ before)
        exact getElem?_append_of_eq_some known

theorem Ledger.apply (ledger : Ledger r) (call : BusCall π ι) : Ledger (call.apply r) := by
  cases call with
  | publish publication => exact ledger.publish publication
  | subscribe subjectPattern handler => exact ledger.congr rfl rfl rfl
  | setActive place active =>
      refine ledger.congr rfl rfl ?_
      cases under : r.current with
      | none => simp [BusCall.apply, LiveReplay.taken, under]
      | some current => simp [BusCall.apply, LiveReplay.taken, under]

theorem Ledger.run_apply (ledger : Ledger r) (calls : List (BusCall π ι)) :
    Ledger (run BusCall.apply r calls) :=
  run_invariant_of_always Ledger (fun _ call ledger => ledger.apply call) calls ledger

theorem Ledger.step {handlers : Handlers π σ ι} (ledger : Ledger r) {next : LiveReplay π σ ι}
    (found : replayStep handlers r = some next) : Ledger next := by
  rcases replayStep_cases found with ⟨entry, heap, idle, waits, rfl⟩ |
    ⟨delivery, place, under, _, rfl⟩ | ⟨delivery, place, subscription, under, _, step⟩
  · obtain ⟨numbered, ordered, once, content, first⟩ := ledger
    rw [waits] at ordered once content
    rw [taken_none idle] at once content first
    refine ⟨numbered, ordered.tail, ?_, ?_, ?_⟩
    · simpa [LiveReplay.taken] using once
    · simpa [LiveReplay.taken] using content
    · intro delivery member other behind
      rcases List.mem_append.mp member with before | new
      · exact first delivery before other behind
      · obtain rfl : delivery = _ := by simpa using new
        exact List.rel_of_pairwise_cons ordered behind
  · refine ledger.congr rfl rfl ?_
    simp [LiveReplay.taken, under]
  · rcases step with ⟨_, rfl⟩ | ⟨_, rfl⟩
    · have visited : Ledger { r with
          current := some ({ delivery with invoked := delivery.invoked ++ [place] },
            place + 1) } := by
        refine ledger.congr rfl rfl ?_
        simp [LiveReplay.taken, under]
      exact (visited.run_apply _).congr rfl rfl rfl
    · refine ledger.congr rfl rfl ?_
      simp [LiveReplay.taken, under]

theorem Ledger.start (subscriptions : List (LiveSubscription ι)) (messages : List (Publication π))
    (state : σ) : Ledger (LiveReplay.start subscriptions messages state) := by
  have empty : Ledger ({ bus := {}, subscriptions := subscriptions, state := state } :
      LiveReplay π σ ι) :=
    ⟨rfl, List.Pairwise.nil, List.Perm.refl _, fun _ member => absurd member List.not_mem_nil,
      fun _ member => absurd member List.not_mem_nil⟩
  exact empty.run_apply _

end Messages

/-! ## The subscriptions -/

/-- A delivery that is over: in the order of the subscriptions, each that was active and matched
when the message was taken was invoked once, unless a handler set its flag meanwhile. -/
structure MessageDelivery.Complete (delivery : MessageDelivery π ι) : Prop where
  ascending : delivery.invoked.Pairwise (· < ·)
  once : ∀ place subscription, delivery.subscriptions[place]? = some subscription →
    place ∉ delivery.changed →
      delivery.invoked.count place = if subscription.hears delivery.entry.subject then 1 else 0

/-- A delivery that has come to a place: the subscriptions whose flag was not set are as they were,
and those before the place were invoked if they hear the message. -/
structure MessageDelivery.UpTo (delivery : MessageDelivery π ι)
    (subscriptions : List (LiveSubscription ι)) (place : ℕ) : Prop where
  unchanged : ∀ i subscription, delivery.subscriptions[i]? = some subscription →
    i ∉ delivery.changed → subscriptions[i]? = some subscription
  within : place ≤ subscriptions.length
  before : ∀ i ∈ delivery.invoked, i < place
  ascending : delivery.invoked.Pairwise (· < ·)
  heard : ∀ i subscription, i < place → delivery.subscriptions[i]? = some subscription →
    i ∉ delivery.changed → (i ∈ delivery.invoked ↔ subscription.hears delivery.entry.subject = true)

/-- The deliveries that are over and the one under way. -/
structure Served (r : LiveReplay π σ ι) : Prop where
  complete : ∀ delivery ∈ r.deliveries, delivery.Complete
  upTo : ∀ delivery place, r.current = some (delivery, place) →
    delivery.UpTo r.subscriptions place

section Subscriptions

variable {r : LiveReplay π σ ι} {delivery : MessageDelivery π ι}
  {subscriptions : List (LiveSubscription ι)} {place : ℕ}

theorem MessageDelivery.UpTo.of_extended (upTo : delivery.UpTo subscriptions place)
    (later : List (LiveSubscription ι)) : delivery.UpTo (subscriptions ++ later) place := by
  obtain ⟨unchanged, within, before, ascending, heard⟩ := upTo
  refine ⟨fun i subscription shown kept => ?_, ?_, before, ascending, heard⟩
  · exact getElem?_append_of_eq_some (unchanged i subscription shown kept)
  · rw [List.length_append]
    exact within.trans (Nat.le_add_right _ _)

theorem MessageDelivery.UpTo.set (upTo : delivery.UpTo subscriptions place) (changed : ℕ)
    (active : Bool) :
    { delivery with changed := delivery.changed ++ [changed] }.UpTo
      (subscriptions.modify changed ({ · with active := active })) place := by
  obtain ⟨unchanged, within, before, ascending, heard⟩ := upTo
  have apart {i : ℕ} (kept : i ∉ delivery.changed ++ [changed]) :
      i ∉ delivery.changed ∧ changed ≠ i := by
    simp only [List.mem_append, List.mem_singleton, not_or] at kept
    exact ⟨kept.1, fun same => kept.2 same.symm⟩
  refine ⟨fun i subscription shown kept => ?_, ?_, before, ascending,
    fun i subscription visited shown kept => heard i subscription visited shown (apart kept).1⟩
  · rw [List.getElem?_modify_ne _ _ (apart kept).2]
    exact unchanged i subscription shown (apart kept).1
  · rwa [List.length_modify]

theorem MessageDelivery.UpTo.visit (upTo : delivery.UpTo subscriptions place)
    {subscription : LiveSubscription ι} (here : subscriptions[place]? = some subscription) :
    (if subscription.hears delivery.entry.subject then
        { delivery with invoked := delivery.invoked ++ [place] } else delivery).UpTo
      subscriptions (place + 1) := by
  obtain ⟨unchanged, within, before, ascending, heard⟩ := upTo
  have room : place + 1 ≤ subscriptions.length := (List.getElem?_eq_some_iff.mp here).1
  have fresh : place ∉ delivery.invoked := fun invoked => (before place invoked).false
  have same {other : LiveSubscription ι} (shown : delivery.subscriptions[place]? = some other)
      (kept : place ∉ delivery.changed) : other = subscription :=
    Option.some.inj ((unchanged place other shown kept).symm.trans here)
  split_ifs with hears
  · refine ⟨unchanged, room, ?_, ?_, ?_⟩
    · intro i invoked
      rcases List.mem_append.mp invoked with earlier | now
      · exact (before i earlier).trans (Nat.lt_succ_self place)
      · exact (List.mem_singleton.mp now).le.trans_lt (Nat.lt_succ_self place)
    · refine List.pairwise_append.mpr ⟨ascending, List.pairwise_singleton _ _, ?_⟩
      intro i earlier j now
      exact (List.mem_singleton.mp now) ▸ before i earlier
    · intro i other visited shown kept
      simp only [List.mem_append, List.mem_singleton]
      rcases Nat.lt_succ_iff_lt_or_eq.mp visited with earlier | rfl
      · simp [heard i other earlier shown kept, earlier.ne]
      · simp [same shown kept, hears]
  · refine ⟨unchanged, room, fun i invoked => (before i invoked).trans (Nat.lt_succ_self place),
      ascending, ?_⟩
    intro i other visited shown kept
    rcases Nat.lt_succ_iff_lt_or_eq.mp visited with earlier | rfl
    · exact heard i other earlier shown kept
    · simp [same shown kept, hears, fresh]

/-- A delivery that has come to the end of the list is complete. -/
theorem MessageDelivery.UpTo.complete (upTo : delivery.UpTo subscriptions place)
    (ended : subscriptions[place]? = none) : delivery.Complete := by
  refine ⟨upTo.ascending, fun i subscription shown kept => ?_⟩
  have visited : i < place :=
    (List.getElem?_eq_some_iff.mp (upTo.unchanged i subscription shown kept)).1.trans_le
      (List.getElem?_eq_none_iff.mp ended)
  have distinct : delivery.invoked.Nodup := upTo.ascending.imp Nat.ne_of_lt
  rw [distinct.count, if_congr (upTo.heard i subscription visited shown kept) rfl rfl]

theorem Served.apply (served : Served r) (call : BusCall π ι) : Served (call.apply r) := by
  obtain ⟨complete, upTo⟩ := served
  cases call with
  | publish publication => exact ⟨complete, upTo⟩
  | subscribe subjectPattern handler =>
      exact ⟨complete, fun delivery place under => (upTo delivery place under).of_extended _⟩
  | setActive changed active =>
      refine ⟨complete, fun delivery place under => ?_⟩
      obtain ⟨⟨before, _⟩, here, same⟩ := Option.map_eq_some_iff.mp under
      cases same
      exact (upTo before _ here).set changed active

theorem Served.run_apply (served : Served r) (calls : List (BusCall π ι)) :
    Served (run BusCall.apply r calls) :=
  run_invariant_of_always Served (fun _ call served => served.apply call) calls served

theorem Served.step {handlers : Handlers π σ ι} (served : Served r) {next : LiveReplay π σ ι}
    (found : replayStep handlers r = some next) : Served next := by
  obtain ⟨complete, upTo⟩ := served
  rcases replayStep_cases found with ⟨entry, heap, idle, _, rfl⟩ |
    ⟨delivery, place, under, ended, rfl⟩ | ⟨delivery, place, subscription, under, here, step⟩
  · refine ⟨complete, fun delivery place under => ?_⟩
    cases under
    exact ⟨fun _ _ shown _ => shown, Nat.zero_le _, fun _ none => absurd none List.not_mem_nil,
      List.Pairwise.nil, fun _ _ none => absurd none (Nat.not_lt_zero _)⟩
  · refine ⟨fun finished member => ?_, fun _ _ under' => nomatch under'⟩
    rcases List.mem_append.mp member with before | new
    · exact complete finished before
    · rw [List.mem_singleton.mp new]
      exact (upTo delivery place under).complete ended
  · have visited := (upTo delivery place under).visit here
    rcases step with ⟨hears, rfl⟩ | ⟨deaf, rfl⟩
    · rw [if_pos hears] at visited
      have invoked : Served { r with
          current := some ({ delivery with invoked := delivery.invoked ++ [place] },
            place + 1) } := by
        refine ⟨complete, fun _ _ under' => ?_⟩
        cases under'
        exact visited
      obtain ⟨complete', upTo'⟩ := invoked.run_apply
        (handlers subscription.handler delivery.entry.envelope r.state).calls
      exact ⟨complete', upTo'⟩
    · rw [if_neg (by simp [deaf])] at visited
      refine ⟨complete, fun _ _ under' => ?_⟩
      cases under'
      exact visited

end Subscriptions

/-! ## The end of the drain -/

/-- What was published and subscribed so far. -/
def LiveReplay.additions (r : LiveReplay π σ ι) : ℕ := r.published.length + r.subscriptions.length

/-- There is a bound on what is ever published and subscribed. -/
def AddsFinitely (handlers : Handlers π σ ι) (r : LiveReplay π σ ι) : Prop :=
  ∃ bound, ∀ fuel, (drainSteps handlers fuel r).additions ≤ bound

/-- The place the loop over the subscriptions has come to. -/
def LiveReplay.place (r : LiveReplay π σ ι) : Option ℕ := r.current.map Prod.snd

/-- The rounds left under a bound on the additions, and what is left of the one under way. -/
def LiveReplay.remaining (bound : ℕ) (r : LiveReplay π σ ι) : ℕ :=
  (bound - (r.taken.length + r.subscriptions.length)) * (bound + 2) +
    r.place.elim 0 fun place => bound + 1 - place

section Termination

variable {handlers : Handlers π σ ι} {r next : LiveReplay π σ ι}

theorem length_taken (r : LiveReplay π σ ι) :
    r.taken.length = r.deliveries.length + r.place.elim 0 fun _ => 1 := by
  cases under : r.current <;> simp [LiveReplay.taken, LiveReplay.place, under]

/-- Calls leave the loop where it is and remove no subscription. -/
theorem run_apply_kept (calls : List (BusCall π ι)) (r : LiveReplay π σ ι) :
    (run BusCall.apply r calls).deliveries = r.deliveries ∧
      (run BusCall.apply r calls).place = r.place ∧
        r.subscriptions.length ≤ (run BusCall.apply r calls).subscriptions.length := by
  refine run_invariant_of_always (fun t : LiveReplay π σ ι => t.deliveries = r.deliveries ∧
    t.place = r.place ∧ r.subscriptions.length ≤ t.subscriptions.length) ?_ calls ⟨rfl, rfl, le_rfl⟩
  rintro t call ⟨deliveries, place, grown⟩
  cases call with
  | publish publication => exact ⟨deliveries, place, grown⟩
  | subscribe subjectPattern handler =>
      exact ⟨deliveries, place, grown.trans (by simp [BusCall.apply])⟩
  | setActive changed active =>
      refine ⟨deliveries, ?_, grown.trans (by simp [BusCall.apply])⟩
      rw [← place, LiveReplay.place, LiveReplay.place, BusCall.apply, Option.map_map]
      rfl

theorem Ledger.length_taken_le (ledger : Ledger r) : r.taken.length ≤ r.published.length := by
  have counted := ledger.once.length_eq
  rw [List.length_map, List.length_append, List.length_map, List.length_range] at counted
  omega

/-- Every step leaves less to do. -/
theorem remaining_step {bound : ℕ} (ledger : Ledger next) (served : Served r)
    (bounded : r.subscriptions.length ≤ bound) (bounded' : next.additions ≤ bound)
    (found : replayStep handlers r = some next) : next.remaining bound < r.remaining bound := by
  have few : next.taken.length + next.subscriptions.length ≤ bound :=
    (Nat.add_le_add_right ledger.length_taken_le _).trans bounded'
  unfold LiveReplay.remaining
  rw [length_taken] at few ⊢
  rw [length_taken r]
  rcases replayStep_cases found with ⟨entry, heap, idle, _, rfl⟩ |
    ⟨delivery, place, under, _, rfl⟩ | ⟨delivery, place, subscription, under, here, step⟩
  · simp only [LiveReplay.place, idle, Option.map_some, Option.map_none, Option.elim_some,
      Option.elim_none, Nat.add_zero, Nat.sub_zero] at few ⊢
    obtain ⟨rounds, left⟩ := Nat.exists_eq_add_of_le few
    have before : bound - (r.deliveries.length + r.subscriptions.length) = rounds + 1 := by omega
    have after : bound - (r.deliveries.length + 1 + r.subscriptions.length) = rounds := by omega
    rw [before, after, Nat.add_mul]
    omega
  · have within := (served.upTo delivery place under).within
    simp only [LiveReplay.place, under, Option.map_some, Option.map_none, Option.elim_some,
      Option.elim_none, Nat.add_zero, List.length_append, List.length_singleton] at few ⊢
    omega
  · have inside : place < r.subscriptions.length := (List.getElem?_eq_some_iff.mp here).1
    have came : r.place = some place := by simp [LiveReplay.place, under]
    have moved : next.deliveries = r.deliveries ∧ next.place = some (place + 1) ∧
        r.subscriptions.length ≤ next.subscriptions.length := by
      rcases step with ⟨_, rfl⟩ | ⟨_, rfl⟩
      · exact run_apply_kept _ { r with
          current := some ({ delivery with invoked := delivery.invoked ++ [place] }, place + 1) }
      · exact ⟨rfl, rfl, le_rfl⟩
    obtain ⟨deliveries, place', grown⟩ := moved
    rw [deliveries, place', came]
    simp only [Option.elim_some]
    have fewer : (bound - (r.deliveries.length + 1 + next.subscriptions.length)) * (bound + 2) ≤
        (bound - (r.deliveries.length + 1 + r.subscriptions.length)) * (bound + 2) :=
      Nat.mul_le_mul_right _ (by omega)
    omega

/-- The states of a drain. -/
theorem drainSteps_reached (ledger : Ledger r) (served : Served r) (fuel : ℕ) :
    Ledger (drainSteps handlers fuel r) ∧ Served (drainSteps handlers fuel r) :=
  whileSome_invariant (fun t => Ledger t ∧ Served t)
    (fun _ _ reached found => ⟨reached.1.step found, reached.2.step found⟩) fuel ⟨ledger, served⟩

/-- When the handlers publish and subscribe finitely often, the drain ends. -/
theorem exists_done (ledger : Ledger r) (served : Served r) (finite : AddsFinitely handlers r) :
    ∃ fuel, (drainSteps handlers fuel r).Done := by
  obtain ⟨bound, bounded⟩ := finite
  refine ⟨r.remaining bound, replayStep_eq_none.mp (whileSome_done
    (fun t => (∃ fuel, t = drainSteps handlers fuel r) ∧ Ledger t ∧ Served t)
    (LiveReplay.remaining bound) ?_ ?_ _ ⟨⟨0, rfl⟩, ledger, served⟩ le_rfl)⟩
  · rintro t next ⟨⟨fuel, rfl⟩, ledger, served⟩ found
    exact ⟨⟨fuel + 1, (whileSome_succ fuel found).symm⟩, ledger.step found, served.step found⟩
  · rintro t next ⟨⟨fuel, rfl⟩, ledger, served⟩ found
    have further : next = drainSteps handlers (fuel + 1) r := (whileSome_succ fuel found).symm
    refine remaining_step (ledger.step found) served ?_ (further ▸ bounded _) found
    exact (Nat.le_add_left _ _).trans (bounded fuel)

end Termination

/-! ## Handlers that only publish -/

/-- The handlers publish or raise and do nothing else with the bus. -/
def OnlyPublish (handlers : Handlers π σ ι) : Prop :=
  ∀ name envelope state, ∀ call ∈ (handlers name envelope state).calls,
    ∃ publication, call = .publish publication

/-- The subscriptions are those the drain began with, in every delivery. -/
structure Still (subscriptions : List (LiveSubscription ι)) (r : LiveReplay π σ ι) : Prop where
  now : r.subscriptions = subscriptions
  taken : ∀ delivery ∈ r.taken, delivery.subscriptions = subscriptions ∧ delivery.changed = []

def BusCall.publication : BusCall π ι → Option (Publication π)
  | .publish publication => some publication
  | _ => none

/-- A subscription with what its handler publishes. -/
def LiveSubscription.static (handlers : Handlers π σ ι) (subscription : LiveSubscription ι) :
    Subscription π σ where
  subjectPattern := subscription.subjectPattern
  active := subscription.active
  handler envelope state :=
    ((handlers subscription.handler envelope state).state,
      (handlers subscription.handler envelope state).calls.filterMap BusCall.publication)

def LiveReplay.replay (r : LiveReplay π σ ι) : Replay π σ := ⟨r.bus, r.state⟩

section Static

variable {handlers : Handlers π σ ι} {r : LiveReplay π σ ι}
  {subscriptions : List (LiveSubscription ι)}

/-- Calls that only publish. -/
theorem run_apply_publish {calls : List (BusCall π ι)}
    (publish : ∀ call ∈ calls, ∃ publication, call = .publish publication) :
    ∀ r : LiveReplay π σ ι, run BusCall.apply r calls =
      { r with
        bus := r.bus.publishAll (calls.filterMap BusCall.publication)
        published := r.published ++ calls.filterMap BusCall.publication } := by
  induction calls with
  | nil => simp
  | cons call calls ih =>
      intro r
      obtain ⟨publication, rfl⟩ := publish call List.mem_cons_self
      rw [run_cons, ih fun later member =>
        publish later (List.mem_cons_of_mem _ member)]
      simp [BusCall.apply, BusCall.publication]

theorem only_publications (messages : List (Publication π)) :
    ∀ call ∈ messages.map (BusCall.publish (ι := ι)), ∃ publication, call = .publish publication := by
  intro call member
  obtain ⟨publication, _, rfl⟩ := List.mem_map.mp member
  exact ⟨publication, rfl⟩

theorem Still.start (messages : List (Publication π)) (state : σ) :
    Still subscriptions (LiveReplay.start subscriptions messages state) := by
  rw [LiveReplay.start, run_apply_publish (only_publications messages)]
  exact ⟨rfl, fun _ member => absurd member List.not_mem_nil⟩

theorem Still.step (still : Still subscriptions r) (publish : OnlyPublish handlers)
    {next : LiveReplay π σ ι} (found : replayStep handlers r = some next) :
    Still subscriptions next := by
  obtain ⟨now, taken⟩ := still
  rcases replayStep_cases found with ⟨entry, heap, idle, _, rfl⟩ |
    ⟨delivery, place, under, _, rfl⟩ | ⟨delivery, place, subscription, under, _, step⟩
  · rw [taken_none idle] at taken
    refine ⟨now, fun delivery member => ?_⟩
    rcases List.mem_append.mp member with before | new
    · exact taken delivery before
    · obtain rfl : delivery = _ := by simpa using new
      exact ⟨now, rfl⟩
  · rw [taken_some under] at taken
    exact ⟨now, fun finished member => taken finished (by simpa [LiveReplay.taken] using member)⟩
  · rw [taken_some under] at taken
    have here := taken delivery (by simp)
    have visited (delivery' : MessageDelivery π ι)
        (same : delivery'.subscriptions = subscriptions ∧ delivery'.changed = []) :
        ∀ other ∈ r.deliveries ++ [delivery'],
          other.subscriptions = subscriptions ∧ other.changed = [] := by
      intro other member
      rcases List.mem_append.mp member with before | new
      · exact taken other (List.mem_append_left _ before)
      · rwa [List.mem_singleton.mp new]
    rcases step with ⟨_, rfl⟩ | ⟨_, rfl⟩
    · rw [run_apply_publish (publish _ _ _)]
      exact ⟨now, visited _ here⟩
    · exact ⟨now, visited _ here⟩

theorem drainSteps_still (publish : OnlyPublish handlers) (still : Still subscriptions r)
    (fuel : ℕ) : Still subscriptions (drainSteps handlers fuel r) :=
  whileSome_invariant (Still subscriptions) (fun _ _ still found => still.step publish found) fuel
    still

/-- A subscription's turn is that of the bus with fixed subscriptions. -/
theorem replayStep_visit (publish : OnlyPublish handlers) {delivery : MessageDelivery π ι}
    {place : ℕ} {subscription : LiveSubscription ι} (under : r.current = some (delivery, place))
    (here : r.subscriptions[place]? = some subscription) :
    ∃ next delivery', replayStep handlers r = some next ∧
      next.current = some (delivery', place + 1) ∧ delivery'.entry = delivery.entry ∧
      next.subscriptions = r.subscriptions ∧
      next.replay = (subscription.static handlers).invoke delivery.entry r.replay := by
  by_cases heard : subscription.hears delivery.entry.subject = true
  · have calls := publish subscription.handler delivery.entry.envelope r.state
    refine ⟨{ r with
        bus := r.bus.publishAll ((handlers subscription.handler delivery.entry.envelope
          r.state).calls.filterMap BusCall.publication)
        published := r.published ++ (handlers subscription.handler delivery.entry.envelope
          r.state).calls.filterMap BusCall.publication
        current := some ({ delivery with invoked := delivery.invoked ++ [place] }, place + 1)
        state := (handlers subscription.handler delivery.entry.envelope r.state).state },
      { delivery with invoked := delivery.invoked ++ [place] }, ?_, rfl, rfl, rfl, ?_⟩
    · simp only [replayStep, under, here, if_pos heard, LiveReplay.await, suppress_eq,
        run_apply_publish calls]
    · have hears : (subscription.static handlers).hears delivery.entry.subject = true := heard
      exact (invoke_of_hears hears r.replay).symm
  · refine ⟨{ r with current := some (delivery, place + 1) }, delivery, ?_, rfl, rfl, rfl, ?_⟩
    · simp only [replayStep, under, here, if_neg heard]
    · have deaf : ¬ (subscription.static handlers).hears delivery.entry.subject = true := heard
      exact (invoke_of_not_hears deaf r.replay).symm

/-- The loop over the subscriptions from a place on. -/
theorem drainSteps_visits (publish : OnlyPublish handlers) (rest : List (LiveSubscription ι)) :
    ∀ {r : LiveReplay π σ ι} {delivery : MessageDelivery π ι} {place : ℕ},
      r.current = some (delivery, place) → r.subscriptions.drop place = rest →
      ∃ next delivery' place', drainSteps handlers rest.length r = next ∧
        next.current = some (delivery', place') ∧ next.subscriptions[place']? = none ∧
        next.subscriptions = r.subscriptions ∧
        next.replay = run (Subscription.invoke delivery.entry) r.replay
          (rest.map (·.static handlers)) := by
  induction rest with
  | nil =>
      intro r delivery place under remaining
      exact ⟨r, delivery, place, rfl, under,
        List.getElem?_eq_none (List.drop_eq_nil_iff.mp remaining), rfl, rfl⟩
  | cons subscription rest ih =>
      intro r delivery place under remaining
      have here : r.subscriptions[place]? = some subscription := by
        rw [← List.head?_drop, remaining, List.head?_cons]
      obtain ⟨next, delivery', found, under', entry, same, visited⟩ :=
        replayStep_visit publish under here
      have remaining' : next.subscriptions.drop (place + 1) = rest := by
        rw [same, ← List.tail_drop, remaining, List.tail_cons]
      obtain ⟨last, delivery'', place'', steps, under'', ended, same', visits⟩ :=
        ih under' remaining'
      refine ⟨last, delivery'', place'', ?_, under'', ended, same'.trans same, ?_⟩
      · rw [List.length_cons, drainSteps, whileSome_some found]
        exact steps
      · rw [visits, entry, visited, List.map_cons, run_cons]

/-- A round of the drain is a round of the bus with fixed subscriptions. -/
theorem drainSteps_round (publish : OnlyPublish handlers) (idle : r.current = none)
    {round : Replay π σ}
    (found : deliverNext (r.subscriptions.map (·.static handlers)) r.replay = some round) :
    ∃ fuel, (drainSteps handlers fuel r).current = none ∧
      (drainSteps handlers fuel r).subscriptions = r.subscriptions ∧
      (drainSteps handlers fuel r).replay = round := by
  obtain ⟨entry, heap, waits, rfl⟩ := of_deliverNext found
  have waiting : r.bus.heap = entry :: heap := waits
  let begun : LiveReplay π σ ι :=
    { r with
      bus := { r.bus with heap := heap }
      current := some ({ entry, pending := heap, subscriptions := r.subscriptions }, 0) }
  have takes : replayStep handlers r = some begun := replayStep_takes idle waiting
  obtain ⟨next, delivery, place, steps, under, ended, same, visits⟩ :=
    drainSteps_visits publish r.subscriptions (r := begun) rfl rfl
  have ends : replayStep handlers next =
      some { next with current := none, deliveries := next.deliveries ++ [delivery] } := by
    simp only [replayStep, under, ended]
  have whole : drainSteps handlers (r.subscriptions.length + 1 + 1) r =
      { next with current := none, deliveries := next.deliveries ++ [delivery] } := by
    refine whileSome_succ _ ?_
    rw [whileSome_some takes]
    exact (congrArg (replayStep handlers) steps).trans ends
  exact ⟨_, by rw [whole], by rw [whole]; exact same, by rw [whole]; exact visits⟩

/-- For handlers that only publish or raise, the drain of the bus with fixed subscriptions is a
drain of this one. -/
theorem static_runUntilEmpty (publish : OnlyPublish handlers) (rounds : ℕ) :
    ∀ {r : LiveReplay π σ ι}, r.current = none →
      ∃ fuel, (drainSteps handlers fuel r).current = none ∧
        (drainSteps handlers fuel r).replay =
          runUntilEmpty (r.subscriptions.map (·.static handlers)) rounds r.replay := by
  induction rounds with
  | zero => exact fun idle => ⟨0, idle, rfl⟩
  | succ rounds ih =>
      intro r idle
      cases found : deliverNext (r.subscriptions.map (·.static handlers)) r.replay with
      | none => exact ⟨0, idle, (whileSome_none found _).symm⟩
      | some round =>
          obtain ⟨fuel, idle', same, reached⟩ := drainSteps_round publish idle found
          obtain ⟨more, idle'', rest⟩ := ih idle'
          refine ⟨fuel + more, ?_, ?_⟩
          · rw [drainSteps, whileSome_add]
            exact idle''
          · rw [drainSteps, whileSome_add, runUntilEmpty, whileSome_some found]
            rw [same, reached] at rest
            exact rest

end Static

/-! ## The drain -/

/-- A handler is called: what it publishes is published, its state is the state, and the delivery
records its place. -/
structure Calls (run : HandlerRun π σ ι) (delivery : MessageDelivery π ι) (place : ℕ)
    (r next : LiveReplay π σ ι) : Prop where
  published : next.published = r.published ++ run.calls.filterMap BusCall.publication
  state : next.state = run.state
  invoked : ∃ changed, next.current =
    some ({ delivery with invoked := delivery.invoked ++ [place], changed }, place + 1)

/-- What calls of the bus publish, and what they leave of the delivery under way. -/
theorem run_apply_calls (calls : List (BusCall π ι)) :
    ∀ (r : LiveReplay π σ ι) (delivery : MessageDelivery π ι) (place : ℕ),
      r.current = some (delivery, place) →
      (run BusCall.apply r calls).published =
          r.published ++ calls.filterMap BusCall.publication ∧
        ∃ changed, (run BusCall.apply r calls).current =
          some ({ delivery with changed }, place) := by
  induction calls with
  | nil => exact fun r delivery place under => ⟨by simp, delivery.changed, under⟩
  | cons call calls ih =>
      intro r delivery place under
      rw [run_cons]
      cases call with
      | publish publication =>
          obtain ⟨published, kept⟩ :=
            ih (BusCall.apply (.publish publication) r) delivery place under
          exact ⟨published.trans (by simp [BusCall.apply, BusCall.publication]), kept⟩
      | subscribe subjectPattern handler =>
          exact ih (BusCall.apply (.subscribe subjectPattern handler) r) delivery
            place under
      | setActive other active =>
          exact ih (BusCall.apply (.setActive other active) r)
            { delivery with changed := delivery.changed ++ [other] } place
            (by simp [BusCall.apply, under])

/-- The loop comes to a subscription that is active and matches. -/
theorem calls_replayStep {handlers : Handlers π σ ι} {r next : LiveReplay π σ ι}
    {delivery : MessageDelivery π ι} {place : ℕ} {subscription : LiveSubscription ι}
    (under : r.current = some (delivery, place)) (here : r.subscriptions[place]? = some subscription)
    (heard : subscription.hears delivery.entry.subject = true)
    (found : replayStep handlers r = some next) :
    Calls (handlers subscription.handler delivery.entry.envelope r.state) delivery place r next := by
  simp only [replayStep, under, here, if_pos heard, LiveReplay.await, suppress_eq,
    Option.some.injEq] at found
  subst found
  obtain ⟨published, invoked⟩ := run_apply_calls
    (handlers subscription.handler delivery.entry.envelope r.state).calls
    { r with
      current := some ({ delivery with invoked := delivery.invoked ++ [place] }, place + 1) }
    { delivery with invoked := delivery.invoked ++ [place] } (place + 1) rfl
  exact ⟨published, rfl, invoked⟩

/-- What a drain owes, after every number of steps. -/
structure Drains (handlers : Handlers π σ ι) (subscriptions : List (LiveSubscription ι))
    (messages : List (Publication π)) (r : LiveReplay π σ ι) : Prop where
  started : r.published = messages
  /-- A subscription that the loop comes to and that is active and matches is called. -/
  calls : ∀ fuel delivery place subscription,
    (drainSteps handlers fuel r).current = some (delivery, place) →
      (drainSteps handlers fuel r).subscriptions[place]? = some subscription →
        subscription.hears delivery.entry.subject = true →
          Calls (handlers subscription.handler delivery.entry.envelope
            (drainSteps handlers fuel r).state) delivery place (drainSteps handlers fuel r)
            (drainSteps handlers (fuel + 1) r)
  /-- What was taken and what is pending is what was published, each message once. -/
  ledger : ∀ fuel, Ledger (drainSteps handlers fuel r)
  /-- The next message taken is the first that is pending. -/
  next : ∀ fuel entry heap, (drainSteps handlers fuel r).current = none →
    (drainSteps handlers fuel r).bus.heap = entry :: heap →
      (∀ other ∈ heap, entry.Precedes other) ∧
        (drainSteps handlers (fuel + 1) r).current =
          some (⟨entry, heap, (drainSteps handlers fuel r).subscriptions, [], []⟩, 0)
  /-- Every delivery that is over was made to each subscription once that was active and matched
  when the message was taken and whose flag was not set meanwhile. -/
  delivers : ∀ fuel, ∀ delivery ∈ (drainSteps handlers fuel r).deliveries, delivery.Complete
  /-- Handlers that only publish or raise set no flag and make no subscription. -/
  still : OnlyPublish handlers → ∀ fuel, Still subscriptions (drainSteps handlers fuel r)
  /-- The drain ends, with every message delivered once. -/
  ends : AddsFinitely handlers r → ∃ fuel, (drainSteps handlers fuel r).Done ∧
    ((drainSteps handlers fuel r).deliveries.map
      fun delivery => (delivery.entry.subject, delivery.entry.envelope)).Perm
        (drainSteps handlers fuel r).published

/-- When nothing is pending every message was delivered once. -/
theorem Ledger.perm_of_done {r : LiveReplay π σ ι} (ledger : Ledger r) (done : r.Done) :
    (r.deliveries.map fun delivery => (delivery.entry.subject, delivery.entry.envelope)).Perm
      r.published := by
  have once := ledger.once
  have content := ledger.content
  rw [taken_none done.2, done.1, List.append_nil] at once content
  have read := once.map fun place => r.published[place]?
  have known : (List.range r.published.length).map (fun place => r.published[place]?) =
      r.published.map some := by
    refine List.ext_getElem (by simp) fun place _ _ => by simp
  have taken : ((r.deliveries.map (·.entry)).map (·.insertionSeq)).map
      (fun place => r.published[place]?) =
        (r.deliveries.map fun delivery =>
          (delivery.entry.subject, delivery.entry.envelope)).map some := by
    simp only [List.map_map]
    exact List.map_congr_left fun delivery member =>
      content delivery.entry (List.mem_map_of_mem member)
  rw [known, taken] at read
  exact (List.map_perm_map_iff (Option.some_injective _)).mp read

/-- **Whatever its handlers publish, subscribe, switch or raise, the bus takes every message once,
always the first that is pending, and delivers it once to each subscription that is active and
matches; and the drain ends when the handlers add finitely much.** -/
theorem replayBus_delivers (handlers : Handlers π σ ι) (subscriptions : List (LiveSubscription ι))
    (messages : List (Publication π)) (state : σ) :
    Drains handlers subscriptions messages (LiveReplay.start subscriptions messages state) := by
  have ledger := Ledger.start subscriptions messages state
  have served : Served (LiveReplay.start subscriptions messages state) := by
    rw [LiveReplay.start, run_apply_publish (only_publications messages)]
    exact ⟨fun _ member => absurd member List.not_mem_nil, fun _ _ under => nomatch under⟩
  have reached : ∀ fuel,
      Ledger (drainSteps handlers fuel (.start subscriptions messages state)) ∧
        Served (drainSteps handlers fuel (.start subscriptions messages state)) :=
    drainSteps_reached ledger served
  refine ⟨?_, fun fuel delivery place subscription under here heard => ?_,
    fun fuel => (reached fuel).1, fun fuel entry heap idle waits => ⟨?_, ?_⟩,
    fun fuel => (reached fuel).2.complete,
    fun publish fuel => drainSteps_still publish (.start messages state) fuel, fun finite => ?_⟩
  · rw [LiveReplay.start, run_apply_publish (only_publications messages)]
    simp [List.filterMap_map, Function.comp_def, BusCall.publication]
  · obtain ⟨next, found⟩ : ∃ next, replayStep handlers
        (drainSteps handlers fuel (.start subscriptions messages state)) = some next := by
      simp [replayStep, under, here, heard]
    rw [show drainSteps handlers (fuel + 1) (.start subscriptions messages state) = next from
      whileSome_succ fuel found]
    exact calls_replayStep under here heard found
  · have ordered := (reached fuel).1.ordered
    rw [waits] at ordered
    exact fun other behind => List.rel_of_pairwise_cons ordered behind
  · exact congrArg LiveReplay.current (whileSome_succ fuel (replayStep_takes idle waits))
  · obtain ⟨fuel, done⟩ := exists_done ledger served finite
    exact ⟨fuel, done, (reached fuel).1.perm_of_done done⟩

/-- A handler that answers message 1 with message 2 and raises, before one that only listens. -/
def answering : Handlers ℕ Unit Bool
  | true, envelope, () =>
      { calls := if envelope.payload = 1 then [.publish (["a", "b"], ⟨0, 15, 2⟩)] else []
        state := ()
        outcome := .error () }
  | false, _, () => { calls := [], state := () }

/-- The answer is delivered in its place, to both. -/
example : ((drainSteps answering 20 (.start [⟨["a", ">"], true, true⟩, ⟨["a", "*"], false, true⟩]
      [(["a", "b"], ⟨0, 20, 3⟩), (["a", "c"], ⟨0, 10, 1⟩)] ())).deliveries.map
        fun delivery => (delivery.entry.envelope.payload, delivery.invoked)) =
      [(1, [0, 1]), (2, [0, 1]), (3, [0, 1])] := by
  decide +kernel

end Scalper.Bus
