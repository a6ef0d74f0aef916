import Scalper.Lib.Run
import Mathlib.Data.Finset.Insert
import Mathlib.Data.List.Perm.Basic
import Mathlib.Tactic.Linarith

/-!
# The SSE multiplexer

`services/analytics_api/app/sse.py` and the generator of `routers/events.py`: a client takes a slot,
subscribes to one subject after the other, streams, and is unregistered by its generator or by the
shutdown.  Everything runs on one loop, so what happens between two awaits is one step; an `Act`
lets one await come back, returning, raising or cancelled, and says whether the bus has the
subscription afterwards.

`Accounted` is what the slots and subscriptions are worth.  It holds throughout exactly the runs
whose acts are `Sound` (`accounting_iff`): a registration cancelled at an await keeps its slot
(`cancelled_registration_leaks`), and so does a client that is unregistered by a task that is
cancelled, or whose stream never starts.
-/

set_option autoImplicit false

namespace Scalper.Analytics

open Scalper.Lib

/-! ## Clients -/

/-- `EventType` of a stream. -/
inductive EventType where
  | positions
  | signals
  | trades
  | scoring
  | alerts
  deriving DecidableEq, Repr

/-- `_subjects_for_types`: the subjects to subscribe to, with the types each of them feeds. -/
def subjectsForTypes (types : Finset EventType) : List (String × List EventType) :=
  let sharedOrders := [EventType.positions, .trades].filter (· ∈ types)
  (if sharedOrders = [] then [] else [("orders.events.>", sharedOrders)]) ++
    (if .signals ∈ types then [("signals.validated", [.signals])] else []) ++
    (if .scoring ∈ types then [("signals.rejected.>", [.scoring])] else []) ++
    (if .alerts ∈ types then [("system.alerts", [.alerts])] else [])

/-- The generator of a registered client: not started yet, started, or never to be started. -/
inductive Stream where
  | waiting
  | running
  | gone
  deriving DecidableEq, Repr

/-- Where the tasks of a client stand.  The first subject or subscription is the awaited one; a
handle that the shutdown unregisters comes with the handles that are next. -/
inductive Phase where
  | subscribing (subject : String) (remaining : List String)
  | rollingBack (sub : String) (remaining : List String)
  | registered (stream : Stream)
  | unregistering (sub : String) (remaining : List String) (shutdown : Option (List ℕ))
  | ended
  | cancelled
  deriving DecidableEq, Repr

/-- A `ClientHandle`, and the subscriptions the bus has for it. -/
structure Client where
  phase : Phase
  subscriptions : List String := []
  active : List String := []
  deriving DecidableEq, Repr

/-- The multiplexer; the clients are listed in the order they came, and `closed` is set when a
shutdown has returned. -/
structure SSEMultiplexer where
  activeCount : ℤ := 0
  activeHandles : List ℕ := []
  clients : List Client := []
  closed : Bool := false
  deriving DecidableEq, Repr

/-- How an await comes back; where it does not return, whether the bus has the subscription. -/
inductive Outcome where
  | returned
  | raised (active : Bool)
  | cancelled (active : Bool)
  deriving DecidableEq, Repr

/-- Whether the bus has the subscription after an unsubscribe. -/
def Outcome.keeps : Outcome → Bool
  | .returned => false
  | .raised active | .cancelled active => active

def Outcome.isCancelled : Outcome → Bool
  | .cancelled _ => true
  | .returned | .raised _ => false

/-- The bus after a subscribe that did not return. -/
def Client.reached (subject : String) (active : Bool) (client : Client) : Client :=
  if active then { client with active := client.active ++ [subject] } else client

/-- The bus after an unsubscribe. -/
def Client.dropped (sub : String) (active : Bool) (client : Client) : Client :=
  if active then client else { client with active := client.active.filter (· ≠ sub) }

/-! ## The methods, from await to await -/

namespace SSEMultiplexer

def put (id : ℕ) (client : Client) (s : SSEMultiplexer) : SSEMultiplexer :=
  { s with clients := s.clients.set id client }

/-- `self._active_count -= 1`, at the end of a rollback or an unregistration. -/
def release (id : ℕ) (client : Client) (s : SSEMultiplexer) : SSEMultiplexer :=
  { s.put id { client with phase := .ended } with activeCount := s.activeCount - 1 }

/-- The end of `unregister_client`. -/
def disconnect (id : ℕ) (client : Client) (s : SSEMultiplexer) : SSEMultiplexer :=
  { s.release id client with activeHandles := s.activeHandles.erase id }

/-- The `except Exception` of `register_client`, up to its first await. -/
def rollBack (id : ℕ) (client : Client) (s : SSEMultiplexer) : SSEMultiplexer :=
  match client.subscriptions with
  | [] => s.release id client
  | sub :: remaining => s.put id { client with phase := .rollingBack sub remaining }

/-- `register_client` up to its first await, or to the end where there is none. -/
def register (maxConnections : ℕ) (types : Finset EventType) (s : SSEMultiplexer) :
    SSEMultiplexer :=
  if maxConnections ≤ s.activeCount then s
  else
    match (subjectsForTypes types).map Prod.fst with
    | [] =>
        { s with
          activeCount := s.activeCount + 1
          clients := s.clients ++ [{ phase := .registered .waiting }]
          activeHandles := s.activeHandles ++ [s.clients.length] }
    | subject :: remaining =>
        { s with
          activeCount := s.activeCount + 1
          clients := s.clients ++ [{ phase := .subscribing subject remaining }] }

/-- `register_client` from the await of `subscribe` on. -/
def subscribed (id : ℕ) (outcome : Outcome) (s : SSEMultiplexer) : SSEMultiplexer :=
  match s.clients[id]? with
  | some client =>
      match client.phase with
      | .subscribing subject remaining =>
          match outcome with
          | .returned =>
              let client :=
                { client with
                  subscriptions := client.subscriptions ++ [subject]
                  active := client.active ++ [subject] }
              match remaining with
              | [] =>
                  { s.put id { client with phase := .registered .waiting } with
                    activeHandles := s.activeHandles ++ [id] }
              | next :: remaining =>
                  s.put id { client with phase := .subscribing next remaining }
          | .raised active => s.rollBack id (client.reached subject active)
          | .cancelled active =>
              s.put id { client.reached subject active with phase := .cancelled }
      | _ => s
  | none => s

/-- `unregister_client` of an active handle up to its first await. -/
def unregister (id : ℕ) (client : Client) (s : SSEMultiplexer) : SSEMultiplexer :=
  match client.subscriptions with
  | [] => s.disconnect id client
  | sub :: remaining => s.put id { client with phase := .unregistering sub remaining none }

/-- `shutdown` from the next handle of its snapshot on, up to its next await. -/
def shutdownFrom : List ℕ → SSEMultiplexer → SSEMultiplexer
  | [], s => { s with closed := true }
  | id :: handles, s =>
      match s.clients[id]? with
      | some client =>
          match client.phase with
          | .registered _ =>
              match client.subscriptions with
              | [] => shutdownFrom handles (s.disconnect id client)
              | sub :: remaining =>
                  s.put id { client with phase := .unregistering sub remaining (some handles) }
          | _ => shutdownFrom handles s
      | none => shutdownFrom handles s

/-- The rollback, or `unregister_client`, from the await of `unsubscribe` on. -/
def unsubscribed (id : ℕ) (outcome : Outcome) (s : SSEMultiplexer) : SSEMultiplexer :=
  match s.clients[id]? with
  | some client =>
      match client.phase with
      | .rollingBack sub remaining =>
          let client := client.dropped sub outcome.keeps
          if outcome.isCancelled then s.put id { client with phase := .cancelled }
          else
            match remaining with
            | [] => s.release id client
            | next :: remaining => s.put id { client with phase := .rollingBack next remaining }
      | .unregistering sub remaining shutdown =>
          let client := client.dropped sub outcome.keeps
          if outcome.isCancelled then s.put id { client with phase := .cancelled }
          else
            match remaining, shutdown with
            | next :: remaining, _ =>
                s.put id { client with phase := .unregistering next remaining shutdown }
            | [], none => s.disconnect id client
            | [], some handles => shutdownFrom handles (s.disconnect id client)
      | _ => s
  | none => s

end SSEMultiplexer

/-- What happens on the loop: a request, an await that comes back, the generator of a response, and
the shutdown with the order in which it meets the handles. -/
inductive Act where
  | registers (types : Finset EventType)
  | subscribes (id : ℕ) (outcome : Outcome)
  | unsubscribes (id : ℕ) (outcome : Outcome)
  | starts (id : ℕ)
  | abandons (id : ℕ)
  | leaves (id : ℕ)
  | shutsDown (handles : List ℕ)

/-- A step that a client in a phase takes, and no other. -/
def inPhase (id : ℕ) (phase : Phase) (next : Client → SSEMultiplexer → SSEMultiplexer)
    (s : SSEMultiplexer) : SSEMultiplexer :=
  match s.clients[id]? with
  | some client => if client.phase = phase then next client s else s
  | none => s

def step (maxConnections : ℕ) : Act → SSEMultiplexer → SSEMultiplexer
  | .registers types, s => s.register maxConnections types
  | .subscribes id outcome, s => s.subscribed id outcome
  | .unsubscribes id outcome, s => s.unsubscribed id outcome
  | .starts id, s =>
      inPhase id (.registered .waiting)
        (fun client s => s.put id { client with phase := .registered .running }) s
  | .abandons id, s =>
      inPhase id (.registered .waiting)
        (fun client s => s.put id { client with phase := .registered .gone }) s
  | .leaves id, s =>
      inPhase id (.registered .running) (fun client s => s.unregister id client) s
  | .shutsDown handles, s => if handles.Perm s.activeHandles then s.shutdownFrom handles else s

/-! ## The accounts -/

/-- The client holds a slot: its registration or unregistration is under way, or it streams or is
about to. -/
def Client.present (client : Client) : Bool :=
  match client.phase with
  | .subscribing _ _ | .rollingBack _ _ | .unregistering _ _ _ => true
  | .registered stream => stream ≠ .gone
  | .ended | .cancelled => false

/-- The client is to have its subscriptions. -/
def Client.serving (client : Client) : Bool :=
  match client.phase with
  | .subscribing _ _ => true
  | .registered stream => stream ≠ .gone
  | .rollingBack _ _ | .unregistering _ _ _ | .ended | .cancelled => false

/-- The subscriptions about to be given back. -/
def Client.pending (client : Client) : List String :=
  match client.phase with
  | .rollingBack sub remaining | .unregistering sub remaining _ => sub :: remaining
  | .subscribing _ _ | .registered _ | .ended | .cancelled => []

/-- **The accounts of the multiplexer**: the count is within its bounds, is the number of clients
that hold a slot and so zero when all are gone, and a subscription is active only for a client that
is served before a shutdown has returned, or is about to be given back. -/
structure Accounted (maxConnections : ℕ) (s : SSEMultiplexer) : Prop where
  nonneg : 0 ≤ s.activeCount
  bounded : s.activeCount ≤ maxConnections
  counted : s.activeCount = s.clients.countP Client.present
  returned : (∀ client ∈ s.clients, client.present = false) → s.activeCount = 0
  given : ∀ client ∈ s.clients, ∀ sub ∈ client.active,
    sub ∈ client.pending ∨ (client.serving = true ∧ s.closed = false)

/-! ## Sound acts -/

namespace SSEMultiplexer

/-- A client is in a phase. -/
def Has (s : SSEMultiplexer) (id : ℕ) (phase : Phase → Prop) : Prop :=
  ∃ client, s.clients[id]? = some client ∧ phase client.phase

/-- One of the handles is registered and has something to unsubscribe. -/
def Drains (s : SSEMultiplexer) (handles : List ℕ) : Prop :=
  ∃ id ∈ handles, ∃ client, s.clients[id]? = some client ∧
    (∃ stream, client.phase = .registered stream) ∧ client.subscriptions ≠ []

/-- No client is being served with a subscription. -/
def ServesNone (s : SSEMultiplexer) : Prop :=
  ∀ client ∈ s.clients, client.serving = true → client.active = []

/-- The client's unsubscribe is the last of a shutdown. -/
def LastOfShutdown (s : SSEMultiplexer) (id : ℕ) : Prop :=
  ∃ client sub handles, s.clients[id]? = some client ∧
    client.phase = .unregistering sub [] (some handles) ∧ ¬ s.Drains handles

end SSEMultiplexer

/-- No await is cancelled, nothing that fails leaves a subscription on the bus, no response is
dropped before its generator starts; and when a shutdown returns no client has a subscription that
it does not know of, and none gets one afterwards. -/
def Sound (s : SSEMultiplexer) : Act → Prop
  | .registers _ | .starts _ | .leaves _ => True
  | .subscribes id outcome =>
      s.Has id (fun phase => ∃ subject remaining, phase = .subscribing subject remaining) →
        (outcome = .returned ∧ s.closed = false) ∨ outcome = .raised false
  | .unsubscribes id outcome =>
      s.Has id (fun phase => (∃ sub remaining, phase = .rollingBack sub remaining) ∨
          ∃ sub remaining shutdown, phase = .unregistering sub remaining shutdown) →
        (outcome = .returned ∨ outcome = .raised false) ∧ (s.LastOfShutdown id → s.ServesNone)
  | .abandons id => ¬ s.Has id (· = .registered .waiting)
  | .shutsDown handles =>
      handles.Perm s.activeHandles → ¬ s.Drains handles → s.ServesNone

/-! ## The invariant -/

/-- What a client in its phase has on the bus: the subscriptions of its handle, or those that are
still to be given back. -/
def Client.Kept (client : Client) : Prop :=
  match client.phase with
  | .subscribing subject remaining =>
      client.active = client.subscriptions ∧
        (client.subscriptions ++ subject :: remaining).Nodup
  | .registered stream =>
      stream ≠ .gone ∧ client.active = client.subscriptions ∧ client.subscriptions.Nodup
  | .rollingBack sub remaining | .unregistering sub remaining _ =>
      client.active = sub :: remaining ∧ (sub :: remaining).Nodup
  | .ended => client.active = []
  | .cancelled => False

/-- What sound acts keep. -/
structure Balanced (maxConnections : ℕ) (s : SSEMultiplexer) : Prop where
  bounded : s.activeCount ≤ maxConnections
  counted : s.activeCount = s.clients.countP Client.present
  kept : ∀ client ∈ s.clients, client.Kept
  closed : s.closed = true → s.ServesNone

section Accounts

variable {maxConnections : ℕ} {s : SSEMultiplexer} {id : ℕ} {client after : Client}

theorem Balanced.initial : Balanced maxConnections {} where
  bounded := Int.natCast_nonneg maxConnections
  counted := rfl
  kept := fun _ member => absurd member List.not_mem_nil
  closed := fun shut => absurd shut Bool.false_ne_true

/-- A subscription is accounted for by the phase of its client. -/
theorem Client.Kept.given (kept : client.Kept) {sub : String} (member : sub ∈ client.active) :
    sub ∈ client.pending ∨ client.serving = true := by
  obtain ⟨phase, subscriptions, active⟩ := client
  cases phase with
  | subscribing subject remaining => exact .inr rfl
  | registered stream => exact .inr (decide_eq_true kept.1)
  | rollingBack first remaining =>
      rw [show active = first :: remaining from kept.1] at member
      exact .inl member
  | unregistering first remaining shutdown =>
      rw [show active = first :: remaining from kept.1] at member
      exact .inl member
  | ended =>
      rw [show active = [] from kept] at member
      exact absurd member List.not_mem_nil
  | cancelled => exact kept.elim

theorem Balanced.accounted (balanced : Balanced maxConnections s) :
    Accounted maxConnections s where
  nonneg := by rw [balanced.counted]; exact Int.natCast_nonneg _
  bounded := balanced.bounded
  counted := balanced.counted
  returned := by
    intro gone
    rw [balanced.counted, List.countP_eq_zero.mpr fun client member => by simp [gone client member]]
    rfl
  given := by
    intro client member sub active
    rcases (balanced.kept client member).given active with pending | serving
    · exact .inl pending
    · refine .inr ⟨serving, ?_⟩
      by_contra shut
      rw [balanced.closed (Bool.eq_true_of_not_eq_false shut) client member serving] at active
      exact absurd active List.not_mem_nil

/-! ### One client changes -/

theorem getElem?_put (found : s.clients[id]? = some client) :
    (s.put id after).clients[id]? = some after := by
  obtain ⟨bound, -⟩ := List.getElem?_eq_some_iff.mp found
  exact List.getElem?_set_self bound

theorem getElem?_put_ne {other : ℕ} (different : other ≠ id) :
    (s.put id after).clients[other]? = s.clients[other]? :=
  List.getElem?_set_ne different.symm

variable (after) in
/-- The number of slots in use, when a client changes its phase. -/
theorem countP_put (found : s.clients[id]? = some client) :
    (s.put id after).clients.countP Client.present + (if client.present then 1 else 0) =
      s.clients.countP Client.present + if after.present then 1 else 0 := by
  obtain ⟨bound, rfl⟩ := List.getElem?_eq_some_iff.mp found
  have counted := List.boole_getElem_le_countP (p := Client.present) bound
  rw [SSEMultiplexer.put, List.countP_set bound]
  omega

theorem forall_put {p : Client → Prop} (before : ∀ client ∈ s.clients, p client) (now : p after) :
    ∀ client ∈ (s.put id after).clients, p client := by
  intro other member
  rcases List.mem_or_eq_of_mem_set member with old | rfl
  · exact before other old
  · exact now

/-- A client that keeps its slot. -/
theorem Balanced.put (balanced : Balanced maxConnections s)
    (found : s.clients[id]? = some client) (present : after.present = client.present)
    (kept : after.Kept) (quiet : s.closed = true → after.serving = true → after.active = []) :
    Balanced maxConnections (s.put id after) where
  bounded := balanced.bounded
  counted := by
    have same := countP_put after found
    rw [present, Nat.add_right_cancel_iff] at same
    exact balanced.counted.trans (congrArg _ same.symm)
  kept := forall_put balanced.kept kept
  closed := fun shut => forall_put (balanced.closed shut) (quiet shut)

/-- A client that gives its slot back has nothing left on the bus. -/
theorem Balanced.release (balanced : Balanced maxConnections s)
    (found : s.clients[id]? = some client) (present : client.present = true)
    (given : after.active = []) : Balanced maxConnections (s.release id after) where
  bounded := (Int.sub_le_self _ Int.one_nonneg).trans balanced.bounded
  counted := by
    have gone : ({ after with phase := .ended } : Client).present = false := rfl
    have fewer : (s.put id { after with phase := .ended }).clients.countP Client.present + 1 =
        s.clients.countP Client.present := by
      simpa [present, gone] using countP_put { after with phase := .ended } found
    have before := balanced.counted
    rw [← fewer, Nat.cast_add, Nat.cast_one] at before
    exact sub_eq_of_eq_add before
  kept := forall_put balanced.kept given
  closed := fun shut =>
    forall_put (balanced.closed shut) fun serving => absurd serving Bool.false_ne_true

theorem Balanced.disconnect (balanced : Balanced maxConnections s)
    (found : s.clients[id]? = some client) (present : client.present = true)
    (given : after.active = []) : Balanced maxConnections (s.disconnect id after) :=
  ⟨(balanced.release found present given).bounded, (balanced.release found present given).counted,
    (balanced.release found present given).kept, (balanced.release found present given).closed⟩

theorem Balanced.registered (balanced : Balanced maxConnections s)
    (found : s.clients[id]? = some client) {stream : Stream}
    (registered : client.phase = .registered stream) :
    client.present = true ∧ client.active = client.subscriptions ∧
      client.subscriptions.Nodup := by
  have kept := balanced.kept client (List.mem_of_getElem? found)
  rw [Client.Kept, registered] at kept
  refine ⟨?_, kept.2⟩
  rw [Client.present, registered]
  exact decide_eq_true kept.1

/-! ### The shutdown -/

section Shutdown

variable {handles : List ℕ}

/-- The first handle has nothing to unsubscribe. -/
theorem drains_cons_iff
    (passed : ∀ client, s.clients[id]? = some client → ∀ stream,
      client.phase = .registered stream → client.subscriptions = []) :
    s.Drains (id :: handles) ↔ s.Drains handles := by
  constructor
  · rintro ⟨other, member, client, found, ⟨stream, registered⟩, subscribed⟩
    rcases List.mem_cons.mp member with rfl | member
    · exact absurd (passed client found stream registered) subscribed
    · exact ⟨other, member, client, found, ⟨stream, registered⟩, subscribed⟩
  · rintro ⟨other, member, client, found, registered, subscribed⟩
    exact ⟨other, List.mem_cons_of_mem id member, client, found, registered, subscribed⟩

theorem drains_cons_iff_of_not_registered (found : s.clients[id]? = some client)
    (other : ∀ stream, client.phase ≠ .registered stream) :
    s.Drains (id :: handles) ↔ s.Drains handles := by
  refine drains_cons_iff fun here same stream registered => ?_
  rw [found] at same
  exact absurd (Option.some.inj same ▸ registered) (other stream)

variable (after handles) in
/-- A client that is not there to be drained changes, and is not there afterwards. -/
theorem drains_put_iff (found : s.clients[id]? = some client)
    (before : ∀ stream, client.phase = .registered stream → client.subscriptions = [])
    (now : ∀ stream, after.phase ≠ .registered stream) :
    (s.put id after).Drains handles ↔ s.Drains handles := by
  refine exists_congr fun other => and_congr_right fun _ => ?_
  by_cases same : other = id
  · subst same
    rw [getElem?_put found, found]
    refine iff_of_false ?_ ?_
    · rintro ⟨_, ⟨⟩, ⟨stream, registered⟩, -⟩
      exact now stream registered
    · rintro ⟨_, ⟨⟩, ⟨stream, registered⟩, subscribed⟩
      exact subscribed (before stream registered)
  · rw [getElem?_put_ne same]

theorem drains_disconnect_iff (found : s.clients[id]? = some client)
    (nothing : client.subscriptions = []) :
    (s.disconnect id client).Drains handles ↔ s.Drains (id :: handles) := by
  have same : (s.disconnect id client).Drains handles ↔ s.Drains handles :=
    drains_put_iff { client with phase := .ended } handles found (fun _ _ => nothing) (by simp)
  refine same.trans (drains_cons_iff fun other here _ _ => ?_).symm
  rw [found] at here
  exact Option.some.inj here ▸ nothing

variable (after handles) in
theorem drains_disconnect_of_unregistering (found : s.clients[id]? = some client) {sub : String}
    {remaining : List String} {shutdown : Option (List ℕ)}
    (phase : client.phase = .unregistering sub remaining shutdown) :
    (s.disconnect id after).Drains handles ↔ s.Drains handles :=
  drains_put_iff { after with phase := .ended } handles found (by simp [phase]) (by simp)

end Shutdown

/-- The shutdown passes over handles without subscriptions, and returns where there is no other. -/
theorem Balanced.shutdownFrom (handles : List ℕ) (balanced : Balanced maxConnections s)
    (none_served : ¬ s.Drains handles → s.ServesNone) :
    Balanced maxConnections (SSEMultiplexer.shutdownFrom handles s) := by
  fun_induction SSEMultiplexer.shutdownFrom handles s with
  | case1 s =>
      have served : s.ServesNone := none_served fun ⟨_, member, _⟩ => List.not_mem_nil member
      exact ⟨balanced.bounded, balanced.counted, balanced.kept, fun _ => served⟩
  | case2 id handles s client found stream registered nothing ih =>
      obtain ⟨present, active, -⟩ := balanced.registered found registered
      refine ih
        (balanced.disconnect found present (active.trans nothing)) fun drains => ?_
      exact forall_put (none_served (mt (drains_disconnect_iff found nothing).mpr drains))
        fun serving => absurd serving Bool.false_ne_true
  | case3 id handles s client found stream registered sub remaining subscribed =>
      obtain ⟨present, active, distinct⟩ := balanced.registered found registered
      rw [subscribed] at active distinct
      exact balanced.put found present.symm ⟨active, distinct⟩
        fun _ serving => absurd serving Bool.false_ne_true
  | case4 id handles s client found other ih =>
      exact ih balanced fun drains =>
        none_served (mt (drains_cons_iff_of_not_registered found other).mp drains)
  | case5 id handles s missing ih =>
      exact ih balanced fun drains =>
        none_served (mt (drains_cons_iff (by simp [missing])).mp drains)

/-- A shutdown that unsubscribes nothing returns, and passes over the clients with
subscriptions. -/
theorem shutdownFrom_of_not_drains (handles : List ℕ) (drains : ¬ s.Drains handles) :
    (SSEMultiplexer.shutdownFrom handles s).closed = true ∧
      ∀ (id : ℕ) (client : Client), s.clients[id]? = some client → client.subscriptions ≠ [] →
        (SSEMultiplexer.shutdownFrom handles s).clients[id]? = some client := by
  fun_induction SSEMultiplexer.shutdownFrom handles s with
  | case1 s => exact ⟨rfl, fun _ _ found _ => found⟩
  | case2 id handles s client found stream registered nothing ih =>
      obtain ⟨shut, passed⟩ := ih
        (mt (drains_disconnect_iff found nothing).mp drains)
      refine ⟨shut, fun other later here subscribed => passed other later ?_ subscribed⟩
      have different : other ≠ id := by
        rintro rfl
        rw [found] at here
        exact subscribed (Option.some.inj here ▸ nothing)
      exact (getElem?_put_ne different).trans here
  | case3 id handles s client found stream registered sub remaining subscribed =>
      refine absurd ⟨id, List.mem_cons_self, client, found, ⟨stream, registered⟩, ?_⟩ drains
      rw [subscribed]
      exact List.cons_ne_nil sub remaining
  | case4 id handles s client found other ih =>
      exact ih (mt (drains_cons_iff_of_not_registered found other).mpr drains)
  | case5 id handles s missing ih =>
      exact ih (mt (drains_cons_iff (by simp [missing])).mpr drains)

/-! ### The methods -/

theorem subjectsForTypes_nodup (types : Finset EventType) :
    ((subjectsForTypes types).map Prod.fst).Nodup := by
  have at_most : ∀ (p : Prop) [Decidable p] (subject : String) (feeds : List EventType),
      ((if p then [(subject, feeds)] else []).map Prod.fst).Sublist [subject] := by
    intro p _ subject feeds
    by_cases holds : p <;> simp [holds]
  have within : ((subjectsForTypes types).map Prod.fst).Sublist
      ["orders.events.>", "signals.validated", "signals.rejected.>", "system.alerts"] := by
    rw [subjectsForTypes]
    simp only [List.map_append, ← ite_not (_ = [])]
    exact (((at_most _ _ _).append (at_most _ _ _)).append (at_most _ _ _)).append (at_most _ _ _)
  exact within.nodup (by decide)

variable (client) in
/-- A client that takes a slot, before it has a subscription. -/
theorem Balanced.joins (balanced : Balanced maxConnections s)
    (free : s.activeCount < maxConnections) (present : client.present = true)
    (kept : client.Kept) (nothing : client.active = []) :
    Balanced maxConnections
      { s with activeCount := s.activeCount + 1, clients := s.clients ++ [client] } where
  bounded := free
  counted := by
    rw [List.countP_append, List.countP_singleton, present, if_pos rfl, balanced.counted]
    rfl
  kept := by
    intro other member
    rcases List.mem_append.mp member with old | new
    · exact balanced.kept other old
    · exact List.mem_singleton.mp new ▸ kept
  closed := by
    intro shut other member serving
    rcases List.mem_append.mp member with old | new
    · exact balanced.closed shut other old serving
    · exact List.mem_singleton.mp new ▸ nothing

theorem Balanced.register (balanced : Balanced maxConnections s) (types : Finset EventType) :
    Balanced maxConnections (s.register maxConnections types) := by
  rw [SSEMultiplexer.register]
  by_cases full : (maxConnections : ℤ) ≤ s.activeCount
  · rw [if_pos full]
    exact balanced
  · rw [if_neg full]
    have distinct := subjectsForTypes_nodup types
    cases subjects : (subjectsForTypes types).map Prod.fst with
    | nil =>
        have joined := balanced.joins { phase := .registered .waiting }
          (not_le.mp full) rfl ⟨by decide, rfl, List.nodup_nil⟩ rfl
        exact ⟨joined.bounded, joined.counted, joined.kept, joined.closed⟩
    | cons subject remaining =>
        rw [subjects] at distinct
        exact balanced.joins { phase := .subscribing subject remaining }
          (not_le.mp full) rfl ⟨rfl, distinct⟩ rfl

theorem Balanced.rollBack (balanced : Balanced maxConnections s)
    (found : s.clients[id]? = some client) (present : client.present = true)
    (active : client.active = client.subscriptions) (distinct : client.subscriptions.Nodup) :
    Balanced maxConnections (s.rollBack id client) := by
  rw [SSEMultiplexer.rollBack]
  cases subscribed : client.subscriptions with
  | nil => exact balanced.release found present (active.trans subscribed)
  | cons sub remaining =>
      rw [subscribed] at active distinct
      exact balanced.put found present.symm ⟨active, distinct⟩
        fun _ serving => absurd serving Bool.false_ne_true

theorem Balanced.unregister (balanced : Balanced maxConnections s)
    (found : s.clients[id]? = some client) (present : client.present = true)
    (active : client.active = client.subscriptions) (distinct : client.subscriptions.Nodup) :
    Balanced maxConnections (s.unregister id client) := by
  rw [SSEMultiplexer.unregister]
  cases subscribed : client.subscriptions with
  | nil => exact balanced.disconnect found present (active.trans subscribed)
  | cons sub remaining =>
      rw [subscribed] at active distinct
      exact balanced.put found present.symm ⟨active, distinct⟩
        fun _ serving => absurd serving Bool.false_ne_true

/-! ### Awaits that come back -/

section Awaits

variable {outcome : Outcome} {subject sub next : String} {remaining : List String}
  {shutdown : Option (List ℕ)} {handles : List ℕ}

/-- The client's subscription has come. -/
def Client.gained (subject : String) (client : Client) : Client :=
  { client with
    subscriptions := client.subscriptions ++ [subject]
    active := client.active ++ [subject] }

theorem subscribed_of_not_subscribing
    (idle : ¬ s.Has id fun phase => ∃ subject remaining, phase = .subscribing subject remaining) :
    s.subscribed id outcome = s := by
  rw [SSEMultiplexer.subscribed]
  split
  next client found =>
      split
      next subject remaining phase => exact absurd ⟨client, found, subject, remaining, phase⟩ idle
      next => rfl
  next => rfl

theorem subscribed_last (found : s.clients[id]? = some client)
    (phase : client.phase = .subscribing subject []) :
    s.subscribed id .returned =
      { s.put id { client.gained subject with phase := .registered .waiting } with
        activeHandles := s.activeHandles ++ [id] } := by
  rw [SSEMultiplexer.subscribed]
  simp only [found, phase, Client.gained]

theorem subscribed_next (found : s.clients[id]? = some client)
    (phase : client.phase = .subscribing subject (next :: remaining)) :
    s.subscribed id .returned =
      s.put id { client.gained subject with phase := .subscribing next remaining } := by
  rw [SSEMultiplexer.subscribed]
  simp only [found, phase, Client.gained]

theorem subscribed_raised (found : s.clients[id]? = some client) {active : Bool}
    (phase : client.phase = .subscribing subject remaining) :
    s.subscribed id (.raised active) = s.rollBack id (client.reached subject active) := by
  rw [SSEMultiplexer.subscribed]
  simp only [found, phase]

theorem subscribed_cancelled (found : s.clients[id]? = some client) {active : Bool}
    (phase : client.phase = .subscribing subject remaining) :
    s.subscribed id (.cancelled active) =
      s.put id { client.reached subject active with phase := .cancelled } := by
  rw [SSEMultiplexer.subscribed]
  simp only [found, phase]

theorem unsubscribed_of_not_unsubscribing
    (idle : ¬ s.Has id fun phase => (∃ sub remaining, phase = .rollingBack sub remaining) ∨
      ∃ sub remaining shutdown, phase = .unregistering sub remaining shutdown) :
    s.unsubscribed id outcome = s := by
  rw [SSEMultiplexer.unsubscribed]
  split
  next client found =>
      split
      next sub remaining phase =>
          exact absurd ⟨client, found, .inl ⟨sub, remaining, phase⟩⟩ idle
      next sub remaining shutdown phase =>
          exact absurd ⟨client, found, .inr ⟨sub, remaining, shutdown, phase⟩⟩ idle
      next => rfl
  next => rfl

/-- The task awaits an unsubscribe. -/
def Phase.Unsubscribing (sub : String) (remaining : List String) (phase : Phase) : Prop :=
  phase = .rollingBack sub remaining ∨ ∃ shutdown, phase = .unregistering sub remaining shutdown

theorem unsubscribed_cancelled (found : s.clients[id]? = some client)
    (phase : client.phase.Unsubscribing sub remaining)
    (cancelled : outcome.isCancelled = true) :
    s.unsubscribed id outcome =
      s.put id { client.dropped sub outcome.keeps with phase := .cancelled } := by
  rw [SSEMultiplexer.unsubscribed]
  rcases phase with phase | ⟨shutdown, phase⟩
  · simp only [found, phase, cancelled, if_true]
  · simp only [found, phase, cancelled, if_true]

theorem rolledBack_next (found : s.clients[id]? = some client)
    (phase : client.phase = .rollingBack sub (next :: remaining))
    (ran : outcome.isCancelled = false) :
    s.unsubscribed id outcome =
      s.put id { client.dropped sub outcome.keeps with phase := .rollingBack next remaining } := by
  rw [SSEMultiplexer.unsubscribed]
  simp only [found, phase, ran, Bool.false_eq_true, if_false]

theorem rolledBack_last (found : s.clients[id]? = some client)
    (phase : client.phase = .rollingBack sub []) (ran : outcome.isCancelled = false) :
    s.unsubscribed id outcome = s.release id (client.dropped sub outcome.keeps) := by
  rw [SSEMultiplexer.unsubscribed]
  simp only [found, phase, ran, Bool.false_eq_true, if_false]

theorem unregistered_next (found : s.clients[id]? = some client)
    (phase : client.phase = .unregistering sub (next :: remaining) shutdown)
    (ran : outcome.isCancelled = false) :
    s.unsubscribed id outcome =
      s.put id { client.dropped sub outcome.keeps with
        phase := .unregistering next remaining shutdown } := by
  rw [SSEMultiplexer.unsubscribed]
  simp only [found, phase, ran, Bool.false_eq_true, if_false]

theorem unregistered_last (found : s.clients[id]? = some client)
    (phase : client.phase = .unregistering sub [] none) (ran : outcome.isCancelled = false) :
    s.unsubscribed id outcome = s.disconnect id (client.dropped sub outcome.keeps) := by
  rw [SSEMultiplexer.unsubscribed]
  simp only [found, phase, ran, Bool.false_eq_true, if_false]

theorem unregistered_last_of_shutdown (found : s.clients[id]? = some client)
    (phase : client.phase = .unregistering sub [] (some handles))
    (ran : outcome.isCancelled = false) :
    s.unsubscribed id outcome =
      SSEMultiplexer.shutdownFrom handles (s.disconnect id (client.dropped sub outcome.keeps)) := by
  rw [SSEMultiplexer.unsubscribed]
  simp only [found, phase, ran, Bool.false_eq_true, if_false]

/-- A subscribe that returns before a shutdown has, or raises without a subscription. -/
theorem Balanced.subscribed (balanced : Balanced maxConnections s)
    (sound : Sound s (.subscribes id outcome)) :
    Balanced maxConnections (s.subscribed id outcome) := by
  by_cases awaited : s.Has id fun phase =>
      ∃ subject remaining, phase = .subscribing subject remaining
  · have came := sound awaited
    obtain ⟨client, found, subject, remaining, phase⟩ := awaited
    have kept := balanced.kept client (List.mem_of_getElem? found)
    rw [Client.Kept, phase] at kept
    obtain ⟨active, distinct⟩ := kept
    have present : client.present = true := by rw [Client.present, phase]
    rcases came with ⟨rfl, running⟩ | rfl
    · have both : (client.gained subject).active = (client.gained subject).subscriptions :=
        congrArg (· ++ [subject]) active
      have shut : s.closed ≠ true := by simp [running]
      cases remaining with
      | nil =>
          rw [subscribed_last found phase]
          have joined : Balanced maxConnections
              (s.put id { client.gained subject with phase := .registered .waiting }) :=
            balanced.put found present.symm ⟨by decide, both, distinct⟩
              fun closed => absurd closed shut
          exact ⟨joined.bounded, joined.counted, joined.kept, joined.closed⟩
      | cons next remaining =>
          rw [subscribed_next found phase]
          rw [List.append_cons] at distinct
          exact balanced.put found present.symm ⟨both, distinct⟩ fun closed => absurd closed shut
    · rw [subscribed_raised found phase]
      exact balanced.rollBack found present active distinct.of_append_left
  · rw [subscribed_of_not_subscribing awaited]
    exact balanced

theorem Balanced.unsubscribing (balanced : Balanced maxConnections s)
    (found : s.clients[id]? = some client) (phase : client.phase.Unsubscribing sub remaining) :
    client.present = true ∧ client.active = sub :: remaining ∧ (sub :: remaining).Nodup := by
  have kept := balanced.kept client (List.mem_of_getElem? found)
  rcases phase with phase | ⟨shutdown, phase⟩
  · rw [Client.Kept, phase] at kept
    exact ⟨by rw [Client.present, phase], kept⟩
  · rw [Client.Kept, phase] at kept
    exact ⟨by rw [Client.present, phase], kept⟩

theorem dropped_active (active : client.active = sub :: remaining)
    (distinct : (sub :: remaining).Nodup) : (client.dropped sub false).active = remaining := by
  obtain ⟨absent, -⟩ := List.nodup_cons.mp distinct
  show client.active.filter (· ≠ sub) = remaining
  rw [active, List.filter_cons_of_neg (by simp)]
  exact List.filter_eq_self.mpr fun other member =>
    decide_eq_true fun same => absent (same ▸ member)

/-- An unsubscribe that returns, or raises when the bus has dropped the subscription. -/
theorem Balanced.unsubscribed (balanced : Balanced maxConnections s)
    (sound : Sound s (.unsubscribes id outcome)) :
    Balanced maxConnections (s.unsubscribed id outcome) := by
  by_cases awaited : s.Has id fun phase => (∃ sub remaining, phase = .rollingBack sub remaining) ∨
      ∃ sub remaining shutdown, phase = .unregistering sub remaining shutdown
  · obtain ⟨came, last⟩ := sound awaited
    have ran : outcome.isCancelled = false := by rcases came with rfl | rfl <;> rfl
    have lost : outcome.keeps = false := by rcases came with rfl | rfl <;> rfl
    obtain ⟨client, found, unsubscribing⟩ := awaited
    rcases unsubscribing with ⟨sub, remaining, phase⟩ | ⟨sub, remaining, shutdown, phase⟩
    · obtain ⟨present, active, distinct⟩ := balanced.unsubscribing found (.inl phase)
      have left := dropped_active active distinct
      rw [← lost] at left
      cases remaining with
      | nil =>
          rw [rolledBack_last found phase ran]
          exact balanced.release found present left
      | cons next remaining =>
          rw [rolledBack_next found phase ran]
          exact balanced.put found present.symm ⟨left, distinct.of_cons⟩
            fun _ serving => absurd serving Bool.false_ne_true
    · obtain ⟨present, active, distinct⟩ := balanced.unsubscribing found (.inr ⟨shutdown, phase⟩)
      have left := dropped_active active distinct
      rw [← lost] at left
      cases remaining with
      | nil =>
          have gone := balanced.disconnect found present left
          cases shutdown with
          | none =>
              rw [unregistered_last found phase ran]
              exact gone
          | some handles =>
              rw [unregistered_last_of_shutdown found phase ran]
              refine gone.shutdownFrom handles fun drains => ?_
              have drained := drains_disconnect_of_unregistering
                (client.dropped sub outcome.keeps) handles found phase
              exact forall_put
                (last ⟨client, sub, handles, found, phase, mt drained.mpr drains⟩)
                fun serving => absurd serving Bool.false_ne_true
      | cons next remaining =>
          rw [unregistered_next found phase ran]
          exact balanced.put found present.symm ⟨left, distinct.of_cons⟩
            fun _ serving => absurd serving Bool.false_ne_true
  · rw [unsubscribed_of_not_unsubscribing awaited]
    exact balanced

end Awaits

section InPhase

variable {phase : Phase} {next : Client → SSEMultiplexer → SSEMultiplexer}

theorem inPhase_of_not_has (other : ¬ s.Has id (· = phase)) : inPhase id phase next s = s := by
  rw [inPhase]
  split
  next client found => exact if_neg fun same => other ⟨client, found, same⟩
  next => rfl

theorem inPhase_of_phase (found : s.clients[id]? = some client) (same : client.phase = phase) :
    inPhase id phase next s = next client s := by
  simp only [inPhase, found, if_pos same]

end InPhase

/-- What a sound act keeps. -/
theorem Balanced.step (balanced : Balanced maxConnections s) {act : Act} (sound : Sound s act) :
    Balanced maxConnections (step maxConnections act s) := by
  cases act with
  | registers types => exact balanced.register types
  | subscribes id outcome => exact balanced.subscribed sound
  | unsubscribes id outcome => exact balanced.unsubscribed sound
  | starts id =>
      by_cases waiting : s.Has id (· = .registered .waiting)
      · obtain ⟨client, found, phase⟩ := waiting
        obtain ⟨present, kept⟩ := balanced.registered found phase
        rw [Analytics.step, inPhase_of_phase found phase]
        refine balanced.put found present.symm ⟨by decide, kept⟩ fun shut _ => ?_
        exact balanced.closed shut client (List.mem_of_getElem? found)
          (by rw [Client.serving, phase]; rfl)
      · rw [Analytics.step, inPhase_of_not_has waiting]
        exact balanced
  | abandons id =>
      rw [Analytics.step, inPhase_of_not_has sound]
      exact balanced
  | leaves id =>
      by_cases running : s.Has id (· = .registered .running)
      · obtain ⟨client, found, phase⟩ := running
        obtain ⟨present, active, distinct⟩ := balanced.registered found phase
        rw [Analytics.step, inPhase_of_phase found phase]
        exact balanced.unregister found present active distinct
      · rw [Analytics.step, inPhase_of_not_has running]
        exact balanced
  | shutsDown handles =>
      rw [Analytics.step]
      by_cases snapshot : handles.Perm s.activeHandles
      · rw [if_pos snapshot]
        exact balanced.shutdownFrom handles (sound snapshot)
      · rw [if_neg snapshot]
        exact balanced

/-! ### What an unsound act does -/

/-- A client that keeps a slot it has no use of. -/
theorem Balanced.not_accounted_put (balanced : Balanced maxConnections s)
    (found : s.clients[id]? = some client) (present : client.present = true)
    (gone : after.present = false) : ¬ Accounted maxConnections (s.put id after) := by
  intro accounted
  have fewer : (s.put id after).clients.countP Client.present + 1 =
      s.clients.countP Client.present := by
    simpa [present, gone] using countP_put after found
  have before := balanced.counted
  have counted : s.activeCount = (s.put id after).clients.countP Client.present := accounted.counted
  omega

/-- A client that is to have its subscriptions. -/
theorem Client.Kept.of_serving (kept : client.Kept) (serving : client.serving = true) :
    client.active = client.subscriptions ∧ client.pending = [] := by
  obtain ⟨phase, subscriptions, active⟩ := client
  cases phase with
  | subscribing subject remaining => exact ⟨kept.1, rfl⟩
  | registered stream => exact ⟨kept.2.1, rfl⟩
  | rollingBack first remaining => cases serving
  | unregistering first remaining shutdown => cases serving
  | ended => cases serving
  | cancelled => cases serving

/-- A shutdown that returns leaves no client a subscription only if none has one that it passes
over. -/
theorem Balanced.servesNone_of_shutdownFrom (balanced : Balanced maxConnections s)
    {handles : List ℕ} (drains : ¬ s.Drains handles)
    (accounted : Accounted maxConnections (SSEMultiplexer.shutdownFrom handles s)) :
    s.ServesNone := by
  intro client member serving
  obtain ⟨active, pending⟩ := (balanced.kept client member).of_serving serving
  by_contra subscribed
  obtain ⟨sub, first⟩ := List.exists_mem_of_ne_nil client.active subscribed
  obtain ⟨id, found⟩ := List.mem_iff_getElem?.mp member
  obtain ⟨shut, passed⟩ := shutdownFrom_of_not_drains handles drains
  have same := passed id client found (active ▸ subscribed)
  rcases accounted.given client (List.mem_of_getElem? same) sub first with pended | ⟨-, running⟩
  · rw [pending] at pended
    exact List.not_mem_nil pended
  · exact absurd shut (by simp [running])

/-- The shutdown passes over a client that is not registered. -/
theorem getElem?_shutdownFrom (handles : List ℕ) (found : s.clients[id]? = some client)
    (other : ∀ stream, client.phase ≠ .registered stream) :
    (SSEMultiplexer.shutdownFrom handles s).clients[id]? = some client := by
  have untouched : ∀ {s : SSEMultiplexer} {handle handled stream},
      s.clients[id]? = some client → s.clients[handle]? = some handled →
        handled.phase = .registered stream →
          ∀ after, (s.put handle after).clients[id]? = some client := by
    intro s handle handled stream found here registered after
    have different : id ≠ handle := by
      rintro rfl
      rw [found] at here
      exact other stream (Option.some.inj here ▸ registered)
    exact (getElem?_put_ne different).trans found
  fun_induction SSEMultiplexer.shutdownFrom handles s with
  | case1 s => exact found
  | case2 handle handles s handled here stream registered nothing ih =>
      exact ih (untouched found here registered _)
  | case3 handle handles s handled here stream registered sub remaining subscribed =>
      exact untouched found here registered _
  | case4 handle handles s handled here passed ih =>
      exact ih found
  | case5 handle handles s missing ih => exact ih found

/-- A subscription of a client that is not to have it, or has it after a shutdown. -/
theorem Accounted.false_of_stray (accounted : Accounted maxConnections s)
    (found : s.clients[id]? = some client) {sub : String} (active : sub ∈ client.active)
    (pending : sub ∉ client.pending) (unserved : client.serving = true → s.closed = true) :
    False := by
  rcases accounted.given client (List.mem_of_getElem? found) sub active with
    pended | ⟨served, running⟩
  · exact pending pended
  · rw [unserved served] at running
    cases running

/-- A subscription the handle does not know of is not given back. -/
theorem Accounted.false_of_rollBack (accounted : Accounted maxConnections (s.rollBack id after))
    (found : s.clients[id]? = some client) {sub : String} (active : sub ∈ after.active)
    (unknown : sub ∉ after.subscriptions) : False := by
  rw [SSEMultiplexer.rollBack] at accounted
  cases subscribed : after.subscriptions with
  | nil =>
      simp only [subscribed] at accounted
      have now : (s.release id after).clients[id]? = some { after with phase := .ended } :=
        getElem?_put found
      exact accounted.false_of_stray now active List.not_mem_nil
        fun serving => absurd serving Bool.false_ne_true
  | cons first remaining =>
      rw [subscribed] at unknown
      simp only [subscribed] at accounted
      exact accounted.false_of_stray (getElem?_put found) active unknown
        fun serving => absurd serving Bool.false_ne_true

theorem Balanced.sound_subscribes (balanced : Balanced maxConnections s) {outcome : Outcome}
    (accounted : Accounted maxConnections (s.subscribed id outcome)) :
    Sound s (.subscribes id outcome) := by
  rintro ⟨client, found, subject, remaining, phase⟩
  have kept := balanced.kept client (List.mem_of_getElem? found)
  rw [Client.Kept, phase] at kept
  obtain ⟨active, distinct⟩ := kept
  have present : client.present = true := by rw [Client.present, phase]
  have reached : subject ∈ client.active ++ [subject] :=
    List.mem_append_right _ List.mem_cons_self
  cases outcome with
  | returned =>
      refine .inl ⟨rfl, ?_⟩
      by_contra shut
      have closed := Bool.eq_true_of_not_eq_false shut
      cases remaining with
      | nil =>
          rw [subscribed_last found phase] at accounted
          exact accounted.false_of_stray (getElem?_put found) reached List.not_mem_nil
            fun _ => closed
      | cons next remaining =>
          rw [subscribed_next found phase] at accounted
          exact accounted.false_of_stray (getElem?_put found) reached List.not_mem_nil
            fun _ => closed
  | raised active =>
      cases active with
      | false => exact .inr rfl
      | true =>
          rw [subscribed_raised found phase] at accounted
          refine (accounted.false_of_rollBack found reached fun member => ?_).elim
          exact List.disjoint_of_nodup_append distinct member List.mem_cons_self
  | cancelled active =>
      rw [subscribed_cancelled found phase] at accounted
      exact absurd accounted (balanced.not_accounted_put found present rfl)

/-- The client after its unsubscribe: one subscription less is to be given back. -/
theorem getElem?_unsubscribed (found : s.clients[id]? = some client) {sub : String}
    {remaining : List String} {outcome : Outcome}
    (phase : client.phase.Unsubscribing sub remaining) (ran : outcome.isCancelled = false) :
    ∃ after, (s.unsubscribed id outcome).clients[id]? = some after ∧
      after.active = (client.dropped sub outcome.keeps).active ∧ after.pending = remaining ∧
        after.serving = false := by
  rcases phase with phase | ⟨shutdown, phase⟩
  · cases remaining with
    | nil =>
        rw [rolledBack_last found phase ran]
        exact ⟨_, getElem?_put found, rfl, rfl, rfl⟩
    | cons next remaining =>
        rw [rolledBack_next found phase ran]
        exact ⟨_, getElem?_put found, rfl, rfl, rfl⟩
  · cases remaining with
    | nil =>
        cases shutdown with
        | none =>
            rw [unregistered_last found phase ran]
            exact ⟨_, getElem?_put found, rfl, rfl, rfl⟩
        | some handles =>
            rw [unregistered_last_of_shutdown found phase ran]
            exact ⟨_, getElem?_shutdownFrom handles (getElem?_put found) (by simp), rfl, rfl, rfl⟩
    | cons next remaining =>
        rw [unregistered_next found phase ran]
        exact ⟨_, getElem?_put found, rfl, rfl, rfl⟩

section Unsubscribing

variable {outcome : Outcome} {sub : String} {remaining : List String} {handles : List ℕ}

theorem Balanced.isCancelled_of_accounted (balanced : Balanced maxConnections s)
    (found : s.clients[id]? = some client) (phase : client.phase.Unsubscribing sub remaining)
    (accounted : Accounted maxConnections (s.unsubscribed id outcome)) :
    outcome.isCancelled = false := by
  by_contra cancelled
  rw [Bool.not_eq_false] at cancelled
  rw [unsubscribed_cancelled found phase cancelled] at accounted
  exact balanced.not_accounted_put found (balanced.unsubscribing found phase).1 rfl accounted

theorem Balanced.keeps_of_accounted (balanced : Balanced maxConnections s)
    (found : s.clients[id]? = some client) (phase : client.phase.Unsubscribing sub remaining)
    (ran : outcome.isCancelled = false)
    (accounted : Accounted maxConnections (s.unsubscribed id outcome)) :
    outcome.keeps = false := by
  by_contra kept
  rw [Bool.not_eq_false] at kept
  obtain ⟨-, active, distinct⟩ := balanced.unsubscribing found phase
  obtain ⟨after, now, still, pending, unserved⟩ := getElem?_unsubscribed found phase ran
  have stray : sub ∈ after.active := by
    rw [still, kept, Client.dropped, if_pos rfl, active]
    exact List.mem_cons_self
  refine accounted.false_of_stray now stray ?_ fun serving => ?_
  · rw [pending]
    exact (List.nodup_cons.mp distinct).1
  · rw [unserved] at serving
    cases serving

/-- The last unsubscribe of a shutdown. -/
theorem Balanced.servesNone_of_last (balanced : Balanced maxConnections s)
    (found : s.clients[id]? = some client)
    (phase : client.phase = .unregistering sub [] (some handles))
    (ran : outcome.isCancelled = false) (lost : outcome.keeps = false)
    (drains : ¬ s.Drains handles)
    (accounted : Accounted maxConnections (s.unsubscribed id outcome)) : s.ServesNone := by
  rw [unregistered_last_of_shutdown found phase ran] at accounted
  obtain ⟨present, active, distinct⟩ := balanced.unsubscribing found (.inr ⟨_, phase⟩)
  have left := dropped_active active distinct
  rw [← lost] at left
  have drained := drains_disconnect_of_unregistering
    (client.dropped sub outcome.keeps) handles found phase
  have none_served := (balanced.disconnect found present left).servesNone_of_shutdownFrom
    (mt drained.mp drains) accounted
  intro other member serving
  obtain ⟨index, there⟩ := List.mem_iff_getElem?.mp member
  have different : index ≠ id := by
    rintro rfl
    rw [found] at there
    rw [← Option.some.inj there, Client.serving, phase] at serving
    cases serving
  exact none_served other
    (List.mem_of_getElem? ((getElem?_put_ne different).trans there)) serving

theorem Balanced.sound_unsubscribes (balanced : Balanced maxConnections s)
    (accounted : Accounted maxConnections (s.unsubscribed id outcome)) :
    Sound s (.unsubscribes id outcome) := by
  rintro ⟨client, found, unsubscribing⟩
  obtain ⟨sub, remaining, phase⟩ : ∃ sub remaining, client.phase.Unsubscribing sub remaining := by
    rcases unsubscribing with ⟨sub, remaining, phase⟩ | ⟨sub, remaining, shutdown, phase⟩
    · exact ⟨sub, remaining, .inl phase⟩
    · exact ⟨sub, remaining, .inr ⟨shutdown, phase⟩⟩
  have ran := balanced.isCancelled_of_accounted found phase accounted
  have lost := balanced.keeps_of_accounted found phase ran accounted
  constructor
  · cases outcome with
    | returned => exact .inl rfl
    | raised active => exact .inr (congrArg Outcome.raised lost)
    | cancelled active => cases ran
  · rintro ⟨last, sub, handles, here, unregistering, drains⟩
    exact balanced.servesNone_of_last here unregistering ran lost drains accounted

end Unsubscribing

/-- What an act has to be to leave the accounts right. -/
theorem Balanced.sound (balanced : Balanced maxConnections s) {act : Act}
    (accounted : Accounted maxConnections (Analytics.step maxConnections act s)) : Sound s act := by
  cases act with
  | registers types => exact trivial
  | subscribes id outcome => exact balanced.sound_subscribes accounted
  | unsubscribes id outcome => exact balanced.sound_unsubscribes accounted
  | starts id => exact trivial
  | abandons id =>
      rintro ⟨client, found, phase⟩
      rw [Analytics.step, inPhase_of_phase found phase] at accounted
      exact balanced.not_accounted_put found (balanced.registered found phase).1 rfl accounted
  | leaves id => exact trivial
  | shutsDown handles =>
      intro snapshot drains
      rw [Analytics.step, if_pos snapshot] at accounted
      exact balanced.servesNone_of_shutdownFrom drains accounted

end Accounts

/-! ## The accounts of a run -/

/-- The accounts are right throughout a run, in whatever order the tasks interleave, exactly when
its acts are sound. -/
theorem accounting_iff (maxConnections : ℕ) (acts : List Act) :
    RunGuarded Sound (step maxConnections) {} acts ↔
      ∀ done, done <+: acts → Accounted maxConnections (run (step maxConnections) {} done) :=
  runGuarded_iff_throughout (Balanced maxConnections) (Accounted maxConnections)
    (fun _ => Balanced.accounted) (fun _ _ balanced => balanced.step)
    (fun _ _ balanced => balanced.sound) acts Balanced.initial

/-- A request that is cancelled while its first subscribe is awaited keeps its slot. -/
theorem cancelled_registration_leaks :
    ¬ ∀ (maxConnections : ℕ) (acts : List Act),
      Accounted maxConnections (run (step maxConnections) {} acts) := by
  intro all
  have leaked := (all 1
    [.registers ({.alerts} : Finset EventType), .subscribes 0 (.cancelled false)]).returned
  exact absurd (leaked (by decide)) (by decide)

end Scalper.Analytics
