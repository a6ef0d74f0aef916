import Mathlib.Algebra.Group.Int.Defs
import Mathlib.Data.List.Count
import Mathlib.Logic.Function.Basic
import Scalper.Lib.Deque
import Scalper.Lib.Run

/-!
# The candle buffers of the feature engine

One rolling buffer per symbol and interval, shared by every feature that reads it.  A handle is
one reference: the buffer is created when the number of unreleased handles rises from zero and
deleted when it falls back to zero.  What a candle is plays no part here.

Counts, buffers and the flags of the handles are three pieces of state.  `Consistent` says that
they agree, and every operation keeps it (`consistent_step`); so a buffer exists exactly while
there is an unreleased handle.  A step changes a buffer that outlives it only by a push
(`buffer_step`), so the buffer holds the end of what was pushed since the count last rose from
zero (`buffer_of_lastRise`).  `buffer_registry` puts the law of the registry together, for every
order of operations.
-/

set_option autoImplicit false

namespace Scalper.Features

open Scalper.Lib

variable {α : Type}

/-- A symbol and an interval. -/
abbrev Key := String × String

/-- What an operation raises. -/
inductive BufferError where
  | keyError (key : Key)
  | valueError (text : String)
  | overflowError (text : String)
  | runtimeError (text : String)
  deriving DecidableEq

/-- The largest length a container can have. -/
def maxsize : ℤ := 2 ^ 63 - 1

/-- `deque(maxlen=capacity)`. -/
def newDeque (capacity : ℤ) : Except BufferError (Deque α) :=
  if maxsize < capacity ∨ capacity < -maxsize - 1 then
    .error (.overflowError "Python int too large to convert to C ssize_t")
  else if capacity < 0 then .error (.valueError "maxlen must be non-negative")
  else .ok (.empty capacity.toNat)

/-- `BufferRegistry`: the pinned capacities, the buffers and the counts. -/
structure BufferRegistry (α : Type) where
  capacityMap : Key → Option ℤ
  buffers : Key → Option (Deque α)
  counts : Key → Option ℕ

/-- `BufferHandle`: one reference into a buffer. -/
structure BufferHandle where
  key : Key
  released : Bool
  deriving DecidableEq

namespace BufferRegistry

/-- `BufferRegistry.__init__`. -/
def init (capacityMap : Key → Option ℤ) : BufferRegistry α :=
  ⟨capacityMap, fun _ => none, fun _ => none⟩

/-- `self._counts.get(key, 0)`. -/
def count (registry : BufferRegistry α) (key : Key) : ℕ := (registry.counts key).getD 0

/-- `acquire`: one handle more, with a fresh buffer where there was none. -/
def acquire (registry : BufferRegistry α) (key : Key) :
    Except BufferError (BufferHandle × BufferRegistry α) :=
  let counts := Function.update registry.counts key (some (registry.count key + 1))
  match registry.capacityMap key with
  | none => .error (.keyError key)
  | some capacity =>
      if registry.count key = 0 then
        match newDeque capacity with
        | .error raised => .error raised
        | .ok deque =>
            .ok (⟨key, false⟩, { registry with
              buffers := Function.update registry.buffers key (some deque), counts })
      else .ok (⟨key, false⟩, { registry with counts })

/-- `push`: append to the buffer, if there is one. -/
def push (registry : BufferRegistry α) (key : Key) (candle : α) : BufferRegistry α :=
  match registry.buffers key with
  | none => registry
  | some buffer =>
      { registry with buffers := Function.update registry.buffers key (some (buffer.append candle)) }

/-- `_release`: one reference less, without the buffer when it was the last. -/
def release (registry : BufferRegistry α) (key : Key) : BufferRegistry α :=
  if registry.count key = 0 then registry
  else if registry.count key > 1 then
    { registry with counts := Function.update registry.counts key (some (registry.count key - 1)) }
  else
    { registry with
      counts := Function.update registry.counts key none
      buffers := Function.update registry.buffers key none }

/-- `_tail`: the items from `max(0, size - n)` on. -/
def tail (registry : BufferRegistry α) (key : Key) (n : ℤ) : List α :=
  match registry.buffers key with
  | none => []
  | some buffer => buffer.items.drop (max 0 ((buffer.items.length : ℤ) - n)).toNat

end BufferRegistry

namespace BufferHandle

/-- `BufferHandle.tail`. -/
def tail (handle : BufferHandle) (registry : BufferRegistry α) (n : ℤ) :
    Except BufferError (List α) :=
  if handle.released then .error (.runtimeError "handle released")
  else .ok (registry.tail handle.key n)

/-- `BufferHandle.__exit__`: the first exit releases, a later one does nothing. -/
def exit (handle : BufferHandle) (registry : BufferRegistry α) :
    BufferHandle × BufferRegistry α :=
  if handle.released then (handle, registry)
  else ({ handle with released := true }, registry.release handle.key)

end BufferHandle

/-- A registry and every handle it has given out. -/
structure Engine (α : Type) where
  registry : BufferRegistry α
  handles : List BufferHandle

/-- An operation; a handle is named by its place. -/
inductive Operation (α : Type) where
  | acquire (key : Key)
  | push (key : Key) (candle : α)
  | tail (handle : ℕ) (n : ℤ)
  | exit (handle : ℕ)

/-- The engine with nothing acquired. -/
def Engine.init (capacityMap : Key → Option ℤ) : Engine α := ⟨.init capacityMap, []⟩

/-- One operation.  What raises changes nothing, and reading changes nothing. -/
def operate : Operation α → Engine α → Engine α
  | .acquire key, engine =>
      match engine.registry.acquire key with
      | .error _ => engine
      | .ok (handle, registry) => ⟨registry, engine.handles ++ [handle]⟩
  | .push key candle, engine => { engine with registry := engine.registry.push key candle }
  | .tail _ _, engine => engine
  | .exit i, engine =>
      match engine.handles[i]? with
      | none => engine
      | some handle =>
          ⟨(handle.exit engine.registry).2, engine.handles.set i (handle.exit engine.registry).1⟩

/-- The number of unreleased handles on a key. -/
def unreleased (handles : List BufferHandle) (key : Key) : ℕ :=
  handles.countP fun handle => handle.key = key ∧ handle.released = false

/-- The candles pushed to a key, in order. -/
def pushedTo (key : Key) : List (Operation α) → List α
  | [] => []
  | .push pushed candle :: operations =>
      if pushed = key then candle :: pushedTo key operations else pushedTo key operations
  | _ :: operations => pushedTo key operations

/-- The run splits at the operation that last raised the number of handles on `key` from zero. -/
structure LastRise (capacityMap : Key → Option ℤ) (key : Key)
    (before after : List (Operation α)) : Prop where
  none_before : unreleased (run operate (.init capacityMap) before).handles key = 0
  some_since : ∀ done, done <+: after →
    0 < unreleased (run operate (.init capacityMap) (before ++ .acquire key :: done)).handles key

/-! ## What each operation does -/

section Operations

variable {registry : BufferRegistry α} {key : Key}

theorem newDeque_eq_ok {capacity : ℤ} {deque : Deque α} (made : newDeque capacity = .ok deque) :
    0 ≤ capacity ∧ deque = .empty capacity.toNat := by
  unfold newDeque at made
  split_ifs at made with large negative
  exact ⟨not_lt.mp negative, (Except.ok.inj made).symm⟩

/-- An acquire that does not raise. -/
theorem acquire_eq_ok {handle : BufferHandle} {registry' : BufferRegistry α}
    (acquired : registry.acquire key = .ok (handle, registry')) :
    handle = ⟨key, false⟩ ∧ registry'.capacityMap = registry.capacityMap ∧
      (∀ other, registry'.count other = registry.count other + if other = key then 1 else 0) ∧
      ∃ capacity, registry.capacityMap key = some capacity ∧
        (registry.count key = 0 → 0 ≤ capacity) ∧
        ∀ other, registry'.buffers other =
          if other = key ∧ registry.count key = 0 then some (.empty capacity.toNat)
          else registry.buffers other := by
  have counted (other : Key) :
      (Function.update registry.counts key (some (registry.count key + 1)) other).getD 0 =
        registry.count other + if other = key then 1 else 0 := by
    by_cases same : other = key
    · rw [same, Function.update_self, if_pos rfl]
      rfl
    · rw [Function.update_of_ne same, if_neg same]
      rfl
  unfold BufferRegistry.acquire at acquired
  cases pinned : registry.capacityMap key with
  | none =>
      simp only [pinned] at acquired
      cases acquired
  | some capacity =>
      by_cases first : registry.count key = 0
      · cases made : (newDeque capacity : Except BufferError (Deque α)) with
        | error raised =>
            simp only [pinned, if_pos first, made] at acquired
            cases acquired
        | ok deque =>
            simp only [pinned, if_pos first, made] at acquired
            cases acquired
            obtain ⟨nonneg, rfl⟩ := newDeque_eq_ok made
            refine ⟨rfl, rfl, counted, capacity, rfl, fun _ => nonneg, fun other => ?_⟩
            by_cases same : other = key
            · rw [if_pos ⟨same, first⟩, same]
              exact Function.update_self _ _ _
            · rw [if_neg fun both => same both.1]
              exact Function.update_of_ne same _ _
      · simp only [pinned, if_neg first] at acquired
        cases acquired
        refine ⟨rfl, rfl, counted, capacity, rfl, fun absent => absurd absent first,
          fun other => ?_⟩
        rw [if_neg fun both => first both.2]

@[simp] theorem count_push (pushed : Key) (candle : α) :
    (registry.push pushed candle).count key = registry.count key := by
  unfold BufferRegistry.push
  cases registry.buffers pushed <;> rfl

theorem buffers_push (pushed : Key) (candle : α) :
    (registry.push pushed candle).buffers key =
      if key = pushed then (registry.buffers key).map (·.append candle)
      else registry.buffers key := by
  unfold BufferRegistry.push
  cases held : registry.buffers pushed with
  | none =>
      split_ifs with same
      · rw [same, held]
        rfl
      · rfl
  | some buffer =>
      split_ifs with same
      · rw [same, held]
        exact Function.update_self _ _ _
      · exact Function.update_of_ne same _ _

theorem count_release (released : Key) :
    (registry.release released).count key =
      if key = released then registry.count key - 1 else registry.count key := by
  unfold BufferRegistry.release
  by_cases same : key = released
  · rw [if_pos same, same]
    split_ifs with absent many
    · omega
    · simp [BufferRegistry.count]
    · rw [show registry.count released = 1 by omega]
      simp [BufferRegistry.count]
  · rw [if_neg same]
    split_ifs
    · rfl
    · simp [BufferRegistry.count, same]
    · simp [BufferRegistry.count, same]

theorem buffers_release (released : Key) :
    (registry.release released).buffers key =
      if key = released ∧ registry.count released = 1 then none else registry.buffers key := by
  unfold BufferRegistry.release
  by_cases last : registry.count released = 1
  · by_cases same : key = released
    · simp [last, same]
    · simp [last, same, Function.update_of_ne]
  · split_ifs with none_left <;> first | rfl | omega

end Operations

section Handles

variable {handles : List BufferHandle} {key : Key}

theorem unreleased_acquire (acquired : Key) :
    unreleased (handles ++ [⟨acquired, false⟩]) key =
      unreleased handles key + if key = acquired then 1 else 0 := by
  unfold unreleased
  rw [List.countP_append, List.countP_singleton]
  simp [@eq_comm _ acquired key]

theorem unreleased_exit {i : ℕ} {handle : BufferHandle} (here : handles[i]? = some handle)
    (held : handle.released = false) :
    unreleased (handles.set i { handle with released := true }) key =
      unreleased handles key - if key = handle.key then 1 else 0 := by
  obtain ⟨within, is_handle⟩ := List.getElem?_eq_some_iff.mp here
  unfold unreleased
  rw [List.countP_set within, is_handle]
  simp [held, @eq_comm _ handle.key key]

theorem unreleased_pos {handle : BufferHandle} (member : handle ∈ handles)
    (held : handle.released = false) : 0 < unreleased handles handle.key :=
  List.countP_pos_iff.mpr ⟨handle, member, by simp [held]⟩

end Handles

section Steps

variable {engine : Engine α}

/-- An acquire raises and changes nothing, or gives out one handle more. -/
theorem acquire_cases (engine : Engine α) (key : Key) :
    operate (.acquire key) engine = engine ∨
      ∃ registry capacity,
        operate (.acquire key) engine = ⟨registry, engine.handles ++ [⟨key, false⟩]⟩ ∧
        registry.capacityMap = engine.registry.capacityMap ∧
        (∀ other, registry.count other =
          engine.registry.count other + if other = key then 1 else 0) ∧
        engine.registry.capacityMap key = some capacity ∧
        (engine.registry.count key = 0 → 0 ≤ capacity) ∧
        ∀ other, registry.buffers other =
          if other = key ∧ engine.registry.count key = 0 then some (.empty capacity.toNat)
          else engine.registry.buffers other := by
  cases acquired : engine.registry.acquire key with
  | error raised =>
      left
      simp only [operate, acquired]
  | ok result =>
      right
      obtain ⟨fresh, pinned, counts, capacity, declared, nonneg, buffers⟩ :=
        acquire_eq_ok acquired
      refine ⟨result.2, capacity, ?_, pinned, counts, declared, nonneg, buffers⟩
      simp only [operate, acquired, ← fresh]

/-- An exit does nothing, or releases a handle for the first time. -/
theorem exit_cases (engine : Engine α) (i : ℕ) :
    operate (.exit i) engine = engine ∨
      ∃ handle, engine.handles[i]? = some handle ∧ handle.released = false ∧
        operate (.exit i) engine =
          ⟨engine.registry.release handle.key,
            engine.handles.set i { handle with released := true }⟩ := by
  cases here : engine.handles[i]? with
  | none =>
      left
      simp only [operate, here]
  | some handle =>
      cases held : handle.released with
      | true =>
          left
          simp only [operate, here, BufferHandle.exit, held, if_true]
          obtain ⟨within, rfl⟩ := List.getElem?_eq_some_iff.mp here
          rw [List.set_getElem_self]
      | false =>
          right
          refine ⟨handle, rfl, held, ?_⟩
          simp [operate, here, BufferHandle.exit, held]

theorem capacityMap_operate (operation : Operation α) (engine : Engine α) :
    (operate operation engine).registry.capacityMap = engine.registry.capacityMap := by
  cases operation with
  | acquire key =>
      obtain same | ⟨registry, capacity, same, pinned, -⟩ := acquire_cases engine key
      · rw [same]
      · rw [same, pinned]
  | push key candle =>
      simp only [operate, BufferRegistry.push]
      cases engine.registry.buffers key <;> rfl
  | tail i n => rfl
  | exit i =>
      obtain same | ⟨handle, -, -, same⟩ := exit_cases engine i
      · rw [same]
      · rw [same]
        simp only [BufferRegistry.release]
        split_ifs <;> rfl

end Steps

/-! ## The invariant -/

/-- Counts, buffers and flags agree. -/
structure Consistent (engine : Engine α) : Prop where
  counted : ∀ key, engine.registry.count key = unreleased engine.handles key
  buffered : ∀ key,
    (engine.registry.buffers key).isSome = true ↔ 0 < unreleased engine.handles key

theorem consistent_init (capacityMap : Key → Option ℤ) :
    Consistent (.init capacityMap : Engine α) :=
  ⟨fun _ => rfl, fun _ => by simp [Engine.init, BufferRegistry.init, unreleased]⟩

theorem consistent_operate (operation : Operation α) {engine : Engine α}
    (consistent : Consistent engine) : Consistent (operate operation engine) := by
  obtain ⟨counted, buffered⟩ := consistent
  cases operation with
  | acquire key =>
      obtain same | ⟨registry, capacity, same, -, counts, -, -, buffers⟩ :=
        acquire_cases engine key
      · rw [same]
        exact ⟨counted, buffered⟩
      · rw [same]
        constructor
        · intro other
          rw [counts, unreleased_acquire, counted other]
        · intro other
          rw [buffers, unreleased_acquire]
          by_cases here : other = key
          · subst here
            by_cases first : engine.registry.count other = 0
            · simp [first]
            · have present := (buffered other).mpr (counted other ▸ Nat.pos_of_ne_zero first)
              simp [first, present]
          · simpa [here] using buffered other
  | push key candle =>
      refine ⟨fun other => (count_push key candle).trans (counted other), fun other => ?_⟩
      simp only [operate, buffers_push]
      split_ifs
      · rw [Option.isSome_map]
        exact buffered other
      · exact buffered other
  | tail i n => exact ⟨counted, buffered⟩
  | exit i =>
      obtain same | ⟨handle, here, held, same⟩ := exit_cases engine i
      · rw [same]
        exact ⟨counted, buffered⟩
      · rw [same]
        constructor
        · intro other
          rw [count_release, unreleased_exit here held, counted other]
          split_ifs <;> rfl
        · intro other
          rw [buffers_release, unreleased_exit here held, counted handle.key]
          have positive := unreleased_pos (List.mem_of_getElem? here) held
          by_cases own : other = handle.key
          · subst own
            by_cases last : unreleased engine.handles handle.key = 1
            · simp [last]
            · have present := (buffered handle.key).mpr positive
              have more : 0 < unreleased engine.handles handle.key - 1 := by omega
              simp [last, present, more]
          · simpa [own] using buffered other

theorem consistent_run (capacityMap : Key → Option ℤ) (operations : List (Operation α)) :
    Consistent (run operate (.init capacityMap) operations) :=
  run_invariant_of_always Consistent (fun _ operation => consistent_operate operation) operations
    (consistent_init capacityMap)

theorem capacityMap_run (capacityMap : Key → Option ℤ) (operations : List (Operation α)) :
    (run operate (.init capacityMap) operations).registry.capacityMap = capacityMap :=
  run_invariant_of_always (fun engine => engine.registry.capacityMap = capacityMap)
    (fun engine operation pinned => (capacityMap_operate operation engine).trans pinned)
    operations rfl

/-! ## What a buffer holds -/

theorem pushedTo_append (key : Key) (operations later : List (Operation α)) :
    pushedTo key (operations ++ later) = pushedTo key operations ++ pushedTo key later := by
  induction operations with
  | nil => rfl
  | cons operation operations ih =>
      cases operation with
      | push pushed candle =>
          simp only [List.cons_append, pushedTo, ih]
          split_ifs <;> rfl
      | acquire | tail | exit => simp only [List.cons_append, pushedTo, ih]

/-- A buffer that outlives an operation changes by what is pushed to it. -/
theorem buffer_operate {engine : Engine α} {key : Key} {buffer : Deque α}
    (consistent : Consistent engine) (held : engine.registry.buffers key = some buffer)
    (operation : Operation α) (outlives : 0 < unreleased (operate operation engine).handles key) :
    (operate operation engine).registry.buffers key =
      some (buffer.appendAll (pushedTo key [operation])) := by
  have some_held : 0 < unreleased engine.handles key :=
    (consistent.buffered key).mp (by rw [held]; rfl)
  cases operation with
  | acquire acquired =>
      obtain same | ⟨registry, capacity, same, -, -, -, -, buffers⟩ :=
        acquire_cases engine acquired
      · rw [same]
        exact held
      · rw [same, buffers, if_neg]
        · exact held
        · rintro ⟨rfl, first⟩
          rw [consistent.counted] at first
          omega
  | push pushed candle =>
      simp only [operate, buffers_push, held, pushedTo, @eq_comm _ pushed key]
      split_ifs <;> rfl
  | tail i n => exact held
  | exit i =>
      obtain same | ⟨handle, here, unreleased_handle, same⟩ := exit_cases engine i
      · rw [same]
        exact held
      · rw [same, unreleased_exit here unreleased_handle] at outlives
        rw [same, buffers_release, if_neg]
        · exact held
        · rintro ⟨rfl, last⟩
          rw [consistent.counted] at last
          rw [if_pos rfl] at outlives
          omega

/-- The buffer since the number of handles last rose from zero. -/
theorem buffer_of_lastRise {capacityMap : Key → Option ℤ} {key : Key}
    {before after : List (Operation α)} (rise : LastRise capacityMap key before after) :
    ∃ capacity : ℕ, capacityMap key = some (capacity : ℤ) ∧
      (run operate (.init capacityMap) (before ++ .acquire key :: after)).registry.buffers key =
        some ((Deque.empty capacity).appendAll (pushedTo key after)) := by
  induction after using List.reverseRecOn with
  | nil =>
      have risen := rise.some_since [] List.nil_prefix
      rw [run_concat] at risen ⊢
      have first := (consistent_run capacityMap before).counted key
      rw [rise.none_before] at first
      obtain same | ⟨registry, capacity, same, -, -, declared, nonneg, buffers⟩ :=
        acquire_cases (run operate (.init capacityMap) before) key
      · rw [same, rise.none_before] at risen
        exact absurd risen (lt_irrefl 0)
      · refine ⟨capacity.toNat, ?_, ?_⟩
        · rw [Int.toNat_of_nonneg (nonneg first), ← declared, capacityMap_run]
        · rw [same, buffers, if_pos ⟨rfl, first⟩]
          rfl
  | append_singleton after operation ih =>
      have outlives := rise.some_since _ List.prefix_rfl
      have earlier : LastRise capacityMap key before after :=
        ⟨rise.none_before, fun done within =>
          rise.some_since done (within.trans (List.prefix_append after [operation]))⟩
      obtain ⟨capacity, declared, held⟩ := ih earlier
      rw [← List.cons_append, ← List.append_assoc, run_concat] at outlives ⊢
      refine ⟨capacity, declared, ?_⟩
      rw [buffer_operate (consistent_run capacityMap _) held operation outlives,
        pushedTo_append, Deque.appendAll_append]

/-- Only an acquire raises the number of handles on a key. -/
theorem eq_acquire_of_unreleased {engine : Engine α} {key : Key} {operation : Operation α}
    (absent : unreleased engine.handles key = 0)
    (risen : 0 < unreleased (operate operation engine).handles key) :
    operation = .acquire key := by
  cases operation with
  | acquire acquired =>
      obtain same | ⟨registry, capacity, same, -⟩ := acquire_cases engine acquired
      · rw [same] at risen
        omega
      · rw [same, unreleased_acquire, absent] at risen
        split_ifs at risen with own
        · rw [own]
        · omega
  | push pushed candle => exact absurd risen (by simp [operate, absent])
  | tail i n => exact absurd risen (by simp [operate, absent])
  | exit i =>
      obtain same | ⟨handle, here, held, same⟩ := exit_cases engine i
      · rw [same] at risen
        omega
      · rw [same, unreleased_exit here held, absent] at risen
        omega

/-- While there is a handle, its number once rose from zero for the last time. -/
theorem exists_lastRise {capacityMap : Key → Option ℤ} {key : Key}
    {operations : List (Operation α)}
    (some_held : 0 < unreleased (run operate (.init capacityMap) operations).handles key) :
    ∃ before after, operations = before ++ .acquire key :: after ∧
      LastRise capacityMap key before after := by
  induction operations using List.reverseRecOn with
  | nil => exact absurd some_held (by simp [Engine.init, unreleased])
  | append_singleton operations operation ih =>
      rw [run_concat] at some_held
      rcases Nat.eq_zero_or_pos
        (unreleased (run operate (.init capacityMap) operations).handles key) with absent | present
      · obtain rfl := eq_acquire_of_unreleased absent some_held
        refine ⟨operations, [], rfl, absent, fun done within => ?_⟩
        rw [List.prefix_nil.mp within, run_concat]
        exact some_held
      · obtain ⟨before, after, rfl, rise⟩ := ih present
        refine ⟨before, after ++ [operation], by simp, rise.none_before, fun done within => ?_⟩
        rcases List.prefix_concat_iff.mp within with whole | shorter
        · rw [whole, ← List.cons_append, ← List.append_assoc, run_concat]
          exact some_held
        · exact rise.some_since done shorter

/-! ## What a handle reads -/

theorem tail_eq_rtake {registry : BufferRegistry α} {key : Key} {buffer : Deque α}
    (held : registry.buffers key = some buffer) (n : ℤ) :
    registry.tail key n = buffer.items.rtake n.toNat := by
  rw [BufferRegistry.tail, held, List.rtake]
  change buffer.items.drop _ = _
  rcases le_total 0 n with positive | negative
  · congr 1
    omega
  · rw [List.drop_eq_nil_of_le (by omega), List.drop_eq_nil_of_le (by omega)]

/-- Releasing one handle does not change what another reads. -/
theorem tail_exit {engine : Engine α} (consistent : Consistent engine) {i j : ℕ}
    (other : i ≠ j) {handle : BufferHandle} (here : engine.handles[j]? = some handle) :
    (operate (.exit i) engine).handles[j]? = some handle ∧
      ∀ n, handle.tail (operate (.exit i) engine).registry n =
        handle.tail engine.registry n := by
  have kept : (operate (.exit i) engine).handles[j]? = some handle := by
    obtain same | ⟨released, -, -, same⟩ := exit_cases engine i
    · rw [same, here]
    · rw [same, List.getElem?_set_ne other, here]
  refine ⟨kept, fun n => ?_⟩
  unfold BufferHandle.tail
  cases held : handle.released with
  | true => rfl
  | false =>
      have outlives := unreleased_pos (List.mem_of_getElem? kept) held
      have present := unreleased_pos (List.mem_of_getElem? here) held
      obtain ⟨buffer, found⟩ :=
        Option.isSome_iff_exists.mp ((consistent.buffered handle.key).mpr present)
      have after := buffer_operate consistent found (.exit i) outlives
      rw [BufferRegistry.tail, BufferRegistry.tail, after, found]
      rfl

/-- An exit releases the handle that it names. -/
theorem handles_exit (engine : Engine α) (i j : ℕ) :
    (operate (.exit j) engine).handles[i]? =
      if i = j then engine.handles[i]?.map fun handle => { handle with released := true }
      else engine.handles[i]? := by
  cases here : engine.handles[j]? with
  | none =>
      simp only [operate, here]
      split_ifs with own
      · rw [own, here, Option.map_none]
      · rfl
  | some handle =>
      have after : (handle.exit engine.registry).1 = { handle with released := true } := by
        obtain ⟨key, released⟩ := handle
        cases released <;> rfl
      simp only [operate, here, after]
      split_ifs with own
      · subst own
        rw [here, List.getElem?_set_self (List.getElem?_eq_some_iff.mp here).1, Option.map_some]
      · exact List.getElem?_set_ne (Ne.symm own)

/-- Other operations change no handle, and give out unreleased ones. -/
theorem handles_operate {operation : Operation α} (noExit : ∀ i, operation ≠ .exit i)
    (engine : Engine α) :
    ∃ given, (operate operation engine).handles = engine.handles ++ given ∧
      ∀ handle ∈ given, handle.released = false := by
  have same : ∃ given, engine.handles = engine.handles ++ given ∧
      ∀ handle ∈ given, handle.released = false :=
    ⟨[], (List.append_nil _).symm, fun handle member => absurd member List.not_mem_nil⟩
  cases operation with
  | acquire key =>
      obtain kept | ⟨registry, capacity, kept, -⟩ := acquire_cases engine key
      · rw [kept]
        exact same
      · rw [kept]
        exact ⟨[⟨key, false⟩], rfl, fun handle member => by rw [List.mem_singleton.mp member]⟩
  | exit i => exact absurd rfl (noExit i)
  | _ => exact same

/-- An exit of a handle that was given out before. -/
def Exited (capacityMap : Key → Option ℤ) (operations : List (Operation α)) (i : ℕ) : Prop :=
  ∃ before after, operations = before ++ .exit i :: after ∧
    i < (run operate (.init capacityMap) before).handles.length

theorem exited_concat {capacityMap : Key → Option ℤ} {operations : List (Operation α)}
    {operation : Operation α} {i : ℕ} :
    Exited capacityMap (operations ++ [operation]) i ↔ Exited capacityMap operations i ∨
      operation = .exit i ∧ i < (run operate (.init capacityMap) operations).handles.length := by
  constructor
  · rintro ⟨before, after, split, given⟩
    rcases List.eq_nil_or_concat after with rfl | ⟨after, last, rfl⟩
    · obtain ⟨rfl, same⟩ := List.append_inj' split rfl
      exact .inr ⟨List.singleton_injective same, given⟩
    · rw [List.concat_eq_append, ← List.cons_append, ← List.append_assoc] at split
      exact .inl ⟨before, after, (List.append_inj' split rfl).1, given⟩
  · rintro (⟨before, after, rfl, given⟩ | ⟨rfl, given⟩)
    · exact ⟨before, after ++ [operation], by simp, given⟩
    · exact ⟨operations, [], rfl, given⟩

/-- A handle is released exactly by its exits. -/
theorem released_iff_exited (capacityMap : Key → Option ℤ) (operations : List (Operation α)) :
    let engine := run operate (.init capacityMap) operations
    (∀ i, Exited capacityMap operations i → i < engine.handles.length) ∧
      ∀ (i : ℕ) (handle : BufferHandle), engine.handles[i]? = some handle →
        (handle.released = true ↔ Exited capacityMap operations i) := by
  induction operations using List.reverseRecOn with
  | nil => exact ⟨fun i ⟨before, after, split, _⟩ => by simp at split, fun i handle here => by
      simp [Engine.init] at here⟩
  | append_singleton operations operation ih =>
      simp only [run_concat, exited_concat]
      revert ih
      generalize run operate (.init capacityMap) operations = engine
      rintro ⟨given, released⟩
      by_cases exits : ∃ j, operation = .exit j
      · obtain ⟨j, rfl⟩ := exits
        have longer : (operate (.exit j) engine).handles.length = engine.handles.length := by
          obtain same | ⟨handle, -, -, same⟩ := exit_cases engine j <;> simp [same]
        refine ⟨fun i exited => longer ▸ exited.elim (given i) fun now => now.2, ?_⟩
        intro i handle here
        rw [handles_exit] at here
        split_ifs at here with own
        · subst own
          obtain ⟨old, was, rfl⟩ := Option.map_eq_some_iff.mp here
          exact iff_of_true rfl (.inr ⟨rfl, (List.getElem?_eq_some_iff.mp was).1⟩)
        · rw [released i handle here]
          exact ⟨.inl, fun exited => exited.resolve_right fun now =>
            own (Operation.exit.inj now.1).symm⟩
      · have noExit : ∀ j, operation ≠ .exit j := fun j same => exits ⟨j, same⟩
        obtain ⟨more, same, fresh⟩ := handles_operate noExit engine
        rw [same]
        have kept : ∀ i, (Exited capacityMap operations i ∨
            operation = .exit i ∧ i < engine.handles.length) ↔ Exited capacityMap operations i :=
          fun i => or_iff_left fun now => noExit i now.1
        simp only [kept]
        refine ⟨fun i exited => ?_, fun i handle here => ?_⟩
        · exact (given i exited).trans_le (by simp)
        · rcases Nat.lt_or_ge i engine.handles.length with below | above
          · rw [List.getElem?_append_left below] at here
            exact released i handle here
          · rw [List.getElem?_append_right above] at here
            have unreleased := fresh handle (List.mem_of_getElem? here)
            rw [unreleased]
            exact iff_of_false Bool.false_ne_true fun exited => absurd (given i exited) above.not_gt

/-- **The law of the buffer registry.**  After any operations, a buffer exists for a key exactly
while a handle on it is unreleased; then the number of handles has risen from zero for a last
time, and the buffer holds the last `capacity` candles pushed since, in order.  An unreleased
handle reads the last `n` of them, and an exit changes what no other handle reads.  A handle is
given out by an acquire and released by an exit of it, and by nothing else. -/
theorem buffer_registry (capacityMap : Key → Option ℤ) (operations : List (Operation α)) :
    let engine := run operate (.init capacityMap) operations
    (∀ key, (engine.registry.buffers key).isSome = true ↔ 0 < unreleased engine.handles key) ∧
    (∀ key, 0 < unreleased engine.handles key → ∃ before after,
      operations = before ++ .acquire key :: after ∧ LastRise capacityMap key before after) ∧
    (∀ key before after, operations = before ++ .acquire key :: after →
      LastRise capacityMap key before after →
        ∃ (capacity : ℕ) (buffer : Deque α), capacityMap key = some (capacity : ℤ) ∧
          engine.registry.buffers key = some buffer ∧
          buffer.items = (pushedTo key after).rtake capacity) ∧
    (∀ (i : ℕ) (handle : BufferHandle), engine.handles[i]? = some handle →
      handle.released = false → ∃ buffer, engine.registry.buffers handle.key = some buffer ∧
        ∀ n, handle.tail engine.registry n = .ok (buffer.items.rtake n.toNat)) ∧
    (∀ (i j : ℕ) (handle : BufferHandle), i ≠ j → engine.handles[j]? = some handle →
      (operate (.exit i) engine).handles[j]? = some handle ∧
        ∀ n, handle.tail (operate (.exit i) engine).registry n =
          handle.tail engine.registry n) ∧
    (∀ (i : ℕ) (handle : BufferHandle), engine.handles[i]? = some handle →
      (handle.released = true ↔ Exited capacityMap operations i)) ∧
    (∀ (key : Key) (given : BufferHandle) (registry : BufferRegistry α),
      engine.registry.acquire key = .ok (given, registry) →
        (operate (.acquire key) engine).handles = engine.handles ++ [⟨key, false⟩]) := by
  have consistent := consistent_run capacityMap operations
  refine ⟨consistent.buffered, fun key => exists_lastRise, ?_, ?_, ?_,
    (released_iff_exited capacityMap operations).2, fun key given registry acquired => ?_⟩
  · intro key before after split rise
    obtain ⟨capacity, declared, held⟩ := buffer_of_lastRise rise
    exact ⟨capacity, _, declared, split ▸ held, Deque.items_appendAll capacity _⟩
  · intro i handle here held
    have present := unreleased_pos (List.mem_of_getElem? here) held
    obtain ⟨buffer, found⟩ :=
      Option.isSome_iff_exists.mp ((consistent.buffered handle.key).mpr present)
    refine ⟨buffer, found, fun n => ?_⟩
    rw [BufferHandle.tail, held, if_neg Bool.false_ne_true, tail_eq_rtake found]
  · intro i j handle other here
    exact tail_exit consistent other here
  · obtain ⟨rfl, -⟩ := acquire_eq_ok acquired
    simp only [operate, acquired]

end Scalper.Features
