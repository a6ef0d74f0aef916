import Scalper.Bus.Dedup
import Scalper.Lib.Window

/-!
# Concurrent calls of a deduplicating consumer

`packages/bus/dedup.py` under `asyncio`.  A call of `consume` asks for the lock, and waits while
another call has it; once it has the lock it looks its key up, records it, drops the oldest key when
there is no room, releases the lock and, if its key was fresh, begins `_process`, all without
awaiting.  `_process` may await, so calls go on while others are being processed, and it may return
or raise.

`Dedup` records the calls in the order they were made, the turns they had at the lock and the
`_process` invocations.  The steps come in any order.  `deduplicated` says what holds in every state
that is reached, at every capacity.
-/

set_option autoImplicit false

namespace Scalper.Bus

open Scalper.Lib

variable {κ μ : Type} [DecidableEq κ] {capacity : ℕ}

/-- A call of `consume`. -/
structure ConsumeCall (μ : Type) where
  id : ℕ
  message : μ

/-- A consumer, with the calls made, those at the lock, the turns had, the calls whose `_process`
was invoked and those whose `_process` has not ended. -/
structure Dedup (κ μ : Type) (capacity : ℕ) where
  seen : FifoRing κ capacity := .empty
  calls : List (ConsumeCall μ) := []
  waiting : List (ConsumeCall μ) := []
  turns : List (ConsumeCall μ) := []
  processed : List (ConsumeCall μ) := []
  running : List ℕ := []

/-- What happens between two awaits. -/
inductive ConsumeStep (μ : Type) where
  /-- `consume` is called and asks for the lock. -/
  | calls (message : μ)
  /-- The first call that waits has the lock. -/
  | enters
  /-- A call that waits is cancelled. -/
  | cancels (id : ℕ)
  /-- A `_process` returns, raises or is cancelled. -/
  | ends (id : ℕ)

/-- The message of a call that is made in a step. -/
def ConsumeStep.message : ConsumeStep μ → Option μ
  | .calls message => some message
  | _ => none

/-- The key of the message of a call. -/
def ConsumeCall.key (keyFn : μ → κ) (call : ConsumeCall μ) : κ := keyFn call.message

/-- `DedupingConsumer.consume`, one step at a time. -/
def consumeStep (keyFn : μ → κ) : ConsumeStep μ → Dedup κ μ capacity → Dedup κ μ capacity
  | .calls message, s =>
      let call : ConsumeCall μ := ⟨s.calls.length, message⟩
      { s with calls := s.calls ++ [call], waiting := s.waiting ++ [call] }
  | .enters, s =>
      match s.waiting with
      | [] => s
      | call :: waiting =>
          let s := { s with waiting := waiting, turns := s.turns ++ [call] }
          if s.seen.isFresh (call.key keyFn) then
            { s with
              seen := s.seen.remember (call.key keyFn)
              processed := s.processed ++ [call]
              running := s.running ++ [call.id] }
          else s
  | .cancels id, s => { s with waiting := s.waiting.filter (·.id ≠ id) }
  | .ends id, s => { s with running := s.running.filter (· ≠ id) }

/-- `OrderRequestDedupConsumer`'s payload fields, as `str` prints them. -/
structure OrderRequestFields where
  botId : Option String
  signalId : Option String

/-- `OrderRequestDedupConsumer._extract_key`. -/
def extractKey (payload : OrderRequestFields) : String :=
  payload.botId.getD "None" ++ ":" ++ payload.signalId.getD "None"

/-- A list is parted at the last place of an element in one way. -/
theorem append_cons_inj_of_not_mem {α : Type} {c : α} {xs ys xs' ys' : List α} (absent : c ∉ ys)
    (absent' : c ∉ ys') : xs ++ c :: ys = xs' ++ c :: ys' ↔ xs = xs' ∧ ys = ys' := by
  refine ⟨fun same => ?_, fun ⟨left, right⟩ => left ▸ right ▸ rfl⟩
  rw [List.append_eq_append_iff] at same
  rcases same with ⟨zs, left, right⟩ | ⟨zs, left, right⟩
  · cases zs with
    | nil => exact ⟨by simpa using left.symm, (List.cons.inj right).2⟩
    | cons z zs =>
        have inside : c ∈ ys := by simp [(List.cons.inj right).2]
        exact absurd inside absent
  · cases zs with
    | nil => exact ⟨by simpa using left, (List.cons.inj right).2.symm⟩
    | cons z zs =>
        have inside : c ∈ ys' := by simp [(List.cons.inj right).2]
        exact absurd inside absent'

/-- Two order requests of signal ids without a colon have one key only if they are of one bot and
one signal. -/
theorem extractKey_eq_iff {botId signalId botId' signalId' : String}
    (plain : ':' ∉ signalId.toList) (plain' : ':' ∉ signalId'.toList) :
    extractKey ⟨some botId, some signalId⟩ = extractKey ⟨some botId', some signalId'⟩ ↔
      botId = botId' ∧ signalId = signalId' := by
  have text (botId signalId : String) : (extractKey ⟨some botId, some signalId⟩).toList =
      botId.toList ++ ':' :: signalId.toList := by
    simp [extractKey]
  rw [← String.toList_inj, text, text, append_cons_inj_of_not_mem plain plain', String.toList_inj,
    String.toList_inj]

/-! ## What holds in every state -/

/-- What a consumer owes: turns in the order of the calls, the last keys in the ring, one `_process`
for each fresh key, none for a key that stays in the ring, and none again before `capacity` other
keys. -/
structure Deduplicated (keyFn : μ → κ) (steps : List (ConsumeStep μ)) (s : Dedup κ μ capacity) :
    Prop where
  /-- The calls are those that were made. -/
  made : s.calls.map (·.message) = steps.filterMap ConsumeStep.message
  /-- A call has its turn or waits for it, unless it is cancelled. -/
  kept : ∀ call ∈ s.calls, call ∈ s.turns ++ s.waiting ∨ .cancels call.id ∈ steps
  arrival : (s.turns ++ s.waiting).Sublist s.calls
  ring : s.seen.keys = (s.processed.map (·.key keyFn)).rtake capacity
  distinct : s.seen.keys.Nodup
  size : s.seen.keys.length = min s.processed.length capacity
  once : s.processed.Nodup
  /-- A call is processed if and only if none of the last `capacity` fresh keys before it is its
  own. -/
  fresh : s.processed = admitAll (·.key keyFn) capacity s.turns
  held : ∀ (key : κ) (later : List (ConsumeStep μ)),
    RunGuarded (fun s _ => key ∈ s.seen.keys) (consumeStep keyFn) s later →
      (run (consumeStep keyFn) s later).processed.filter (·.key keyFn = key) =
        s.processed.filter (·.key keyFn = key)
  again : ∀ older first between second newer,
    s.processed = older ++ first :: (between ++ second :: newer) →
      first.key keyFn = second.key keyFn →
        capacity ≤ between.length ∧
          second.key keyFn ∉ (between.map (·.key keyFn)).rtake capacity ∧
          ((between.map (·.key keyFn)).rtake capacity).Nodup

/-- The invariant: the calls are numbered, the ring is the window of what was processed. -/
structure Windowed (keyFn : μ → κ) (s : Dedup κ μ capacity) : Prop where
  numbered : s.calls.map (·.id) = List.range s.calls.length
  arrival : (s.turns ++ s.waiting).Sublist s.calls
  ring : s.seen.keys = (s.processed.map (·.key keyFn)).rtake capacity
  fresh : s.processed = admitAll (·.key keyFn) capacity s.turns

section Steps

variable {keyFn : μ → κ} {s : Dedup κ μ capacity}

/-- The lock goes to the first call that waits. -/
theorem consumeStep_enters {call : ConsumeCall μ} {waiting : List (ConsumeCall μ)}
    (first : s.waiting = call :: waiting) :
    consumeStep keyFn .enters s =
      if call.key keyFn ∈ s.seen.keys then
        { s with waiting := waiting, turns := s.turns ++ [call] }
      else
        { s with
          waiting := waiting
          turns := s.turns ++ [call]
          seen := s.seen.remember (call.key keyFn)
          processed := s.processed ++ [call]
          running := s.running ++ [call.id] } := by
  rw [consumeStep, first]
  by_cases seen : call.key keyFn ∈ s.seen.keys
  · simp [FifoRing.isFresh, seen]
  · simp [FifoRing.isFresh, seen]

/-- A turn admits the call to the window or leaves it out. -/
theorem Windowed.enters (windowed : Windowed keyFn s) {call : ConsumeCall μ}
    {waiting : List (ConsumeCall μ)} (first : s.waiting = call :: waiting) :
    Windowed keyFn (consumeStep keyFn .enters s) := by
  obtain ⟨numbered, arrival, ring, fresh⟩ := windowed
  rw [first] at arrival
  have order : (s.turns ++ [call] ++ waiting).Sublist s.calls := by simpa using arrival
  rw [consumeStep_enters first]
  split_ifs with seen
  · refine ⟨numbered, order, ring, ?_⟩
    rw [admitAll_concat, ← fresh, admit_of_mem (ring ▸ seen)]
  · have unseen : call.key keyFn ∉ (s.processed.map (·.key keyFn)).rtake capacity := ring ▸ seen
    refine ⟨numbered, order, ?_, ?_⟩
    · rw [keys_remember_eq ring call, admit_of_not_mem unseen]
    · rw [admitAll_concat, ← fresh, admit_of_not_mem unseen]

theorem Windowed.step (windowed : Windowed keyFn s) (step : ConsumeStep μ) :
    Windowed keyFn (consumeStep keyFn step s) := by
  cases step with
  | calls message =>
      refine ⟨?_, ?_, windowed.ring, windowed.fresh⟩
      · simp only [consumeStep, List.map_append, windowed.numbered, List.map_singleton,
          List.length_append, List.length_singleton, List.range_succ]
      · simp only [consumeStep, ← List.append_assoc]
        exact windowed.arrival.append (List.Sublist.refl _)
  | enters =>
      cases waiting : s.waiting with
      | nil => simpa only [consumeStep, waiting] using windowed
      | cons call rest => exact windowed.enters waiting
  | cancels id =>
      refine ⟨windowed.numbered, ?_, windowed.ring, windowed.fresh⟩
      exact ((List.Sublist.refl _).append List.filter_sublist).trans windowed.arrival
  | ends id => exact ⟨windowed.numbered, windowed.arrival, windowed.ring, windowed.fresh⟩

theorem Windowed.run (keyFn : μ → κ) (steps : List (ConsumeStep μ)) :
    Windowed keyFn (Lib.run (consumeStep keyFn) ({} : Dedup κ μ capacity) steps) :=
  run_invariant_of_always (Windowed keyFn) (fun _ step windowed => windowed.step step) steps
    ⟨rfl, List.Sublist.refl _, by simp [FifoRing.empty], rfl⟩

/-- A step invokes `_process` for no key that is in the ring. -/
theorem filter_processed_step {key : κ} (held : key ∈ s.seen.keys) (step : ConsumeStep μ) :
    (consumeStep keyFn step s).processed.filter (·.key keyFn = key) =
      s.processed.filter (·.key keyFn = key) := by
  cases step with
  | calls message => rfl
  | enters =>
      cases waiting : s.waiting with
      | nil => rw [consumeStep, waiting]
      | cons call rest =>
          rw [consumeStep_enters waiting]
          split_ifs with seen
          · rfl
          · have other : ¬ call.key keyFn = key := fun same => seen (same ▸ held)
            simp [List.filter_append, other]
  | cancels id => rfl
  | ends id => rfl

/-- While a key stays in the ring, `_process` is invoked for it no more. -/
theorem filter_processed_run {key : κ} (later : List (ConsumeStep μ)) :
    ∀ {s : Dedup κ μ capacity},
      RunGuarded (fun s _ => key ∈ s.seen.keys) (consumeStep keyFn) s later →
        (run (consumeStep keyFn) s later).processed.filter (·.key keyFn = key) =
          s.processed.filter (·.key keyFn = key) := by
  induction later with
  | nil => exact fun _ => rfl
  | cons step later ih =>
      intro s held
      rw [run_cons, ih held.2, filter_processed_step held.1]

/-- The calls of a run, and what has become of them. -/
structure Accounted (steps : List (ConsumeStep μ)) (s : Dedup κ μ capacity) : Prop where
  made : s.calls.map (·.message) = steps.filterMap ConsumeStep.message
  kept : ∀ call ∈ s.calls, call ∈ s.turns ++ s.waiting ∨ .cancels call.id ∈ steps

theorem Accounted.concat {steps : List (ConsumeStep μ)} (accounted : Accounted steps s)
    (step : ConsumeStep μ) : Accounted (steps ++ [step]) (consumeStep keyFn step s) := by
  have later : ∀ {call : ConsumeCall μ}, .cancels call.id ∈ steps →
      .cancels call.id ∈ steps ++ [step] := List.mem_append_left _
  cases step with
  | calls message =>
      refine ⟨by simp [consumeStep, ConsumeStep.message, accounted.made], fun call member => ?_⟩
      rcases List.mem_append.mp member with old | new
      · refine (accounted.kept call old).imp (fun among => ?_) later
        simp only [consumeStep, ← List.append_assoc]
        exact List.mem_append_left _ among
      · exact .inl (List.mem_append_right _ (List.mem_append_right _ new))
  | enters =>
      cases waiting : s.waiting with
      | nil =>
          rw [consumeStep, waiting]
          exact ⟨by simp [ConsumeStep.message, accounted.made], fun call member =>
            (accounted.kept call member).imp id later⟩
      | cons first rest =>
          have moved : ∀ call, call ∈ s.turns ++ s.waiting ↔
              call ∈ (s.turns ++ [first]) ++ rest := by
            rw [waiting, List.append_assoc, List.singleton_append]
            exact fun call => Iff.rfl
          rw [consumeStep_enters waiting]
          split_ifs <;>
            exact ⟨by simp [ConsumeStep.message, accounted.made], fun call member =>
              (accounted.kept call member).imp (moved call).mp later⟩
  | cancels id =>
      refine ⟨by simp [consumeStep, ConsumeStep.message, accounted.made], fun call member => ?_⟩
      rcases accounted.kept call member with among | cancelled
      · by_cases same : call.id = id
        · exact .inr (List.mem_append_right _ (List.mem_singleton.mpr (by rw [same])))
        · refine .inl ((List.mem_append.mp among).elim (List.mem_append_left _) fun waits => ?_)
          exact List.mem_append_right _ (List.mem_filter.mpr ⟨waits, by simpa using same⟩)
      · exact .inr (later cancelled)
  | ends id =>
      exact ⟨by simp [consumeStep, ConsumeStep.message, accounted.made], fun call member =>
        (accounted.kept call member).imp (fun among => among) later⟩

theorem Accounted.run (keyFn : μ → κ) (steps : List (ConsumeStep μ)) :
    Accounted steps (Lib.run (consumeStep keyFn) ({} : Dedup κ μ capacity) steps) := by
  induction steps using List.reverseRecOn with
  | nil => exact ⟨rfl, fun call member => absurd member List.not_mem_nil⟩
  | append_singleton steps step accounted =>
      rw [run_concat]
      exact accounted.concat step

/-- What follows from the invariants. -/
theorem Windowed.owed (windowed : Windowed keyFn s) {steps : List (ConsumeStep μ)}
    (accounted : Accounted steps s) : Deduplicated keyFn steps s := by
  have spaced : Spaced (·.key keyFn) capacity s.processed :=
    windowed.fresh ▸ spaced_admitAll s.turns
  have distinctCalls : s.calls.Nodup :=
    List.Nodup.of_map (·.id) (windowed.numbered ▸ List.nodup_range)
  have turned : s.processed.Sublist s.calls := by
    have admitted : s.processed.Sublist s.turns := by
      rw [windowed.fresh]
      exact sublist_admitAll s.turns
    exact (admitted.trans (List.sublist_append_left _ _)).trans windowed.arrival
  refine ⟨accounted.made, accounted.kept, windowed.arrival, windowed.ring, s.seen.distinct, ?_,
    distinctCalls.sublist turned, windowed.fresh, fun key later => filter_processed_run later, ?_⟩
  · rw [windowed.ring, length_rtake, List.length_map]
  · intro older first between second newer split same
    exact spaced.between split same

end Steps

/-- **In every order of calls, turns at the lock, cancellations and ends of `_process`, the ring
holds the last fresh keys in the order they arrived, `_process` is invoked once for each fresh key
and not at all for a key in the ring, and again for a key only after `capacity` others.** -/
theorem deduplicated (keyFn : μ → κ) (capacity : ℕ) (steps : List (ConsumeStep μ)) :
    Deduplicated keyFn steps (run (consumeStep keyFn) ({} : Dedup κ μ capacity) steps) :=
  (Windowed.run keyFn steps).owed (Accounted.run keyFn steps)

/-- A third key at capacity two, then the first again while the third is being processed. -/
example : (run (consumeStep id) ({} : Dedup ℕ ℕ 2)
      [.calls 1, .calls 1, .enters, .enters, .calls 2, .enters, .calls 3, .enters, .calls 1,
        .enters]).processed.map (·.message) = [1, 2, 3, 1] := by
  decide +kernel

end Scalper.Bus
