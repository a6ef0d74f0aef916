import Scalper.Lib.Ring
import Scalper.Lib.Run

/-!
# The deduplicating consumer

`packages/bus/dedup.py`: a consumer remembers the keys of the last messages in a ring and
hands a message to its handler only when its key is not in the ring.  The key is recorded
before the handler runs, whatever the handler does.
-/

set_option autoImplicit false

namespace Scalper.Bus

open Scalper.Lib

variable {κ σ μ ρ : Type} [DecidableEq κ] {capacity : ℕ}

/-- The keys a consumer remembers, and the state its handler works on. -/
structure Consumer (κ σ : Type) (capacity : ℕ) where
  seen : FifoRing κ capacity
  state : σ

/-- What became of a message. -/
inductive Consumed (ρ : Type) where
  | dropped
  | processed (result : ρ)
  deriving DecidableEq

/-- `DedupingConsumer.consume`. -/
def consume (keyFn : μ → κ) (process : μ → σ → ρ × σ) (message : μ)
    (s : Consumer κ σ capacity) : Consumed ρ × Consumer κ σ capacity :=
  if s.seen.isFresh (keyFn message) then
    (.processed (process message s.state).1,
      ⟨s.seen.remember (keyFn message), (process message s.state).2⟩)
  else (.dropped, s)

/-- Consume messages in order. -/
def consumeAll (keyFn : μ → κ) (process : μ → σ → ρ × σ) (s : Consumer κ σ capacity)
    (messages : List μ) : Consumer κ σ capacity :=
  run (fun message s => (consume keyFn process message s).2) s messages

section Consuming

variable {keyFn : μ → κ} {process : μ → σ → ρ × σ} {message : μ} {s : Consumer κ σ capacity}

theorem consume_fresh (fresh : keyFn message ∉ s.seen.keys) :
    consume keyFn process message s =
      (.processed (process message s.state).1,
        ⟨s.seen.remember (keyFn message), (process message s.state).2⟩) := by
  simp [consume, FifoRing.isFresh, fresh]

theorem consume_seen (seen : keyFn message ∈ s.seen.keys) :
    consume keyFn process message s = (.dropped, s) := by
  simp [consume, FifoRing.isFresh, seen]

/-- A message is handled exactly when its key is not remembered. -/
theorem consume_ne_dropped_iff :
    (consume keyFn process message s).1 ≠ .dropped ↔ keyFn message ∉ s.seen.keys := by
  by_cases seen : keyFn message ∈ s.seen.keys
  · simp [consume_seen seen, seen]
  · simp [consume_fresh seen, seen]

/-- The ring only depends on the keys that arrived. -/
theorem seen_consume :
    (consume keyFn process message s).2.seen = s.seen.remember (keyFn message) := by
  by_cases seen : keyFn message ∈ s.seen.keys
  · rw [consume_seen seen, FifoRing.remember_of_mem seen]
  · rw [consume_fresh seen]

theorem seen_consumeAll (messages : List μ) :
    ∀ s : Consumer κ σ capacity,
      (consumeAll keyFn process s messages).seen = s.seen.rememberAll (messages.map keyFn) := by
  induction messages with
  | nil => exact fun _ => rfl
  | cons message messages ih =>
      intro s
      rw [consumeAll, run_cons, List.map_cons, FifoRing.rememberAll_cons, ← seen_consume]
      exact ih _

end Consuming

end Scalper.Bus
