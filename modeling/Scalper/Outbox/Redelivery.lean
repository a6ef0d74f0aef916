import Mathlib.Data.Set.Function
import Scalper.Outbox.States

/-!
# Events that are published again

The relay builds an envelope for every publish, and an envelope draws a fresh identifier.  Whatever
was published in a transaction that is rolled back is published again under another identifier,
and the server, which knows a message by its identifier, cannot tell that it is the same event.

`message_ids_distinct` says so of every run, as far as `uuid4` does not repeat itself, and
`same_message_id_iff` of every event: its publications agree on the identifier exactly when there
is at most one.  `redelivered` is an event that is delivered twice.
-/

set_option autoImplicit false

namespace Scalper.Outbox

open Scalper.Lib

variable {Worker MessageId : Type} [Fintype Worker] [DecidableEq Worker]
  {relay : Relay Worker MessageId} {s : State Worker MessageId}

/-- The publications of an event. -/
def publicationsOf (log : List (Publication MessageId)) (id : ℕ) : List (Publication MessageId) :=
  log.filter fun publication => publication.event.id = id

/-- The messages carry identifiers that were drawn one after the other. -/
def Drawn (relay : Relay Worker MessageId) (s : State Worker MessageId) : Prop :=
  ∃ draws : List ℕ, draws.Pairwise (· < ·) ∧ (∀ draw ∈ draws, draw < s.drawn) ∧
    s.log.map (fun publication => publication.envelope.messageId) = draws.map relay.uuid4

theorem Drawn.relayStep (drawn : Drawn relay s) (action : Action Worker) :
    Drawn relay (relay.relayStep action s) := by
  obtain ⟨draws, increasing, before, ids⟩ := drawn
  rcases relay.log_relayStep s action with same |
    ⟨worker, batch, event, rest, outcome, now, -, -, -, -, -, counted, added⟩
  · refine ⟨draws, increasing, fun draw member => ?_, same ▸ ids⟩
    exact (before draw member).trans_le (relay.counters_le_relayStep s action).2
  · refine ⟨draws ++ [s.drawn], ?_, fun draw member => ?_, ?_⟩
    · refine List.pairwise_append.mpr ⟨increasing, List.pairwise_singleton _ _, ?_⟩
      intro draw member last here
      rw [List.mem_singleton.mp here]
      exact before draw member
    · rw [counted]
      rcases List.mem_append.mp member with old | new
      · exact (before draw old).trans (Nat.lt_succ_self _)
      · rw [List.mem_singleton.mp new]
        exact Nat.lt_succ_self _
    · rw [added, List.map_append, ids, List.map_append]
      rfl

theorem drawn_run (actions : List (Action Worker)) :
    Drawn relay (run relay.relayStep initial actions) :=
  run_invariant_of_always (Drawn relay) (fun _ action drawn => drawn.relayStep action) actions
    ⟨[], List.Pairwise.nil, fun _ member => absurd member List.not_mem_nil, rfl⟩

/-- No two messages share an identifier. -/
theorem message_ids_distinct (actions : List (Action Worker))
    (distinct : Set.InjOn relay.uuid4 (Set.Iio (run relay.relayStep initial actions).drawn)) :
    ((run relay.relayStep initial actions).log.map fun publication =>
      publication.envelope.messageId).Nodup := by
  have drawn : Drawn relay (run relay.relayStep initial actions) := drawn_run actions
  obtain ⟨draws, increasing, before, ids⟩ := drawn
  rw [ids]
  refine (List.nodup_map_iff_inj_on (increasing.imp ne_of_lt)).mpr
    fun draw member other listed => ?_
  exact distinct (before draw member) (before other listed)

/-- **The publications of an event carry one identifier exactly when there is at most one.**  The
assumption is that `uuid4` did not repeat itself in the run. -/
theorem same_message_id_iff (relay : Relay Worker MessageId) (actions : List (Action Worker))
    (distinct : Set.InjOn relay.uuid4 (Set.Iio (run relay.relayStep initial actions).drawn))
    (id : ℕ) :
    let publications := publicationsOf (run relay.relayStep initial actions).log id
    (∀ publication ∈ publications, ∀ other ∈ publications,
      publication.envelope.messageId = other.envelope.messageId) ↔ publications.length ≤ 1 := by
  intro publications
  have nodup : (publications.map fun publication => publication.envelope.messageId).Nodup :=
    (message_ids_distinct actions distinct).sublist (List.filter_sublist.map _)
  rcases listed : publications with _ | ⟨first, _ | ⟨second, rest⟩⟩
  · exact iff_of_true (fun _ member => absurd member List.not_mem_nil) (Nat.zero_le 1)
  · refine iff_of_true (fun publication member other otherMember => ?_) le_rfl
    rw [List.mem_singleton.mp member, List.mem_singleton.mp otherMember]
  · rw [listed] at nodup
    refine iff_of_false (fun same => ?_) (by simp)
    have equal := same first List.mem_cons_self second (List.mem_cons_of_mem _ List.mem_cons_self)
    simp [equal] at nodup

/-- The transaction is rolled back after the publish, and the next batch publishes again. -/
def rolledBack : List (Action Unit) :=
  [.inserts 1 oneIntent, .begins () 0 [oneIntent.row 1], .publishes () .returns 5, .rollsBack (),
    .begins () 6 [oneIntent.row 1], .publishes () .returns 7]

/-- The two publications do not agree. -/
theorem same_message_id_iff_rolledBack :
    ¬ ∀ publication ∈ publicationsOf (run oneWorker.relayStep initial rolledBack).log 1,
      ∀ other ∈ publicationsOf (run oneWorker.relayStep initial rolledBack).log 1,
        publication.envelope.messageId = other.envelope.messageId := by
  have twice : (publicationsOf (run oneWorker.relayStep initial rolledBack).log 1).length = 2 := by
    decide +kernel
  intro same
  have few : (publicationsOf (run oneWorker.relayStep initial rolledBack).log 1).length ≤ 1 :=
    (same_message_id_iff oneWorker rolledBack Function.injective_id.injOn 1).mp same
  rw [twice] at few
  exact absurd few (by decide)

/-- One event under two identifiers. -/
theorem redelivered :
    (publicationsOf (run oneWorker.relayStep initial rolledBack).log 1).map
      (fun publication => publication.envelope.messageId) = [0, 1] := by
  decide +kernel

end Scalper.Outbox
