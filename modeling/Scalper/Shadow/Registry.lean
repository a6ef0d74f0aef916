import Scalper.Lib.Groups
import Scalper.Lib.Run
import Scalper.Shadow.Worker
import Mathlib.Data.List.Nodup

/-!
# The registry of variant tasks

`ShadowWorker._active_tasks` in `services/execution/app/shadow_worker.py` lists the tasks of running
variants by the number of their parent trade.  `shadow.start` spawns a task for each variant of the
payload, `register_resume_task` adds the live continuation of a variant that was replayed after a
restart, `trade.closed` cancels the tasks listed under the parent's number, and `stop` cancels all
and clears the dictionary.  A task takes itself out in the `finally` block of `_run_shadow_variant`,
after it has awaited its two unsubscriptions; `_live_continuation` has no such step, and a task that
is cancelled before its first step never enters the block.

An event is what happens between two awaits; the events come in any order.  A parent is a live or a
paper trade, and the numbers of the two kinds come from different sequences: `closes_iff` says that a
run cancels exactly the children of the parents that close as long as nothing runs under the same
number of the other kind.  `registry_exact` says when the registry holds exactly the tasks that have
not finished.
-/

set_option autoImplicit false

namespace Scalper.Shadow

open Scalper.Lib

/-- A parent trade: `trades.id` for a live one, `paper_trades.id` for a paper one. -/
structure ParentTrade where
  kind : ParentKind
  tradeId : ℕ
  deriving DecidableEq

/-- Which body a task runs: `_run_shadow_variant` or `_live_continuation`. -/
inductive TaskBody where
  | runShadowVariant
  | liveContinuation
  deriving DecidableEq

/-- Created and not yet begun, inside the `try` block, inside the `finally` block, done. -/
inductive TaskPhase where
  | created
  | running
  | finalizing
  | done
  deriving DecidableEq

/-- A task, with the number of `cancel` calls that reached it. -/
structure VariantHandle where
  parent : ParentTrade
  body : TaskBody
  phase : TaskPhase := .created
  cancels : ℕ := 0
  deriving DecidableEq

/-- The tasks there have been, by the order of their creation, and `_active_tasks`. -/
structure ShadowTasks where
  tasks : List VariantHandle := []
  activeTasks : Groups ℕ ℕ := ∅

/-- A step of the registry of shadow tasks. -/
inductive RegistryEvent where
  /-- `_on_shadow_start`, with the number of variants in the payload. -/
  | shadowStart (parent : ParentTrade) (variants : ℕ)
  /-- A live continuation is created and registered. -/
  | resumes (parent : ParentTrade)
  /-- `_on_parent_close`. -/
  | tradeClosed (parent : ParentTrade)
  /-- A task takes its first step. -/
  | begins (task : ℕ)
  /-- A task leaves its `try` block: it has terminated, failed or been cancelled. -/
  | leaves (task : ℕ)
  /-- A task leaves its `finally` block, which is cut short when an unsubscription raises or another
  cancellation arrives. -/
  | ends (task : ℕ) (cutShort : Bool)
  | stop
  deriving DecidableEq

/-- `if not task.done(): task.cancel()`. -/
def VariantHandle.cancel (task : VariantHandle) : VariantHandle :=
  if task.phase = .done then task else { task with cancels := task.cancels + 1 }

/-- Cancel the listed tasks. -/
def cancelTasks (listed : List ℕ) (tasks : List VariantHandle) : List VariantHandle :=
  run (fun i tasks => tasks.modify i VariantHandle.cancel) tasks listed

/-- Tasks are created and registered under the number of their parent. -/
def ShadowTasks.register (parent : ParentTrade) (body : TaskBody) (count : ℕ) (s : ShadowTasks) :
    ShadowTasks :=
  { tasks := s.tasks ++ List.replicate count { parent, body }
    activeTasks := s.activeTasks.join parent.tradeId (List.range' s.tasks.length count) }

/-- A task cancelled before its first step never enters its body. -/
def VariantHandle.begin (task : VariantHandle) : VariantHandle :=
  if task.phase = .created then
    { task with phase := if task.cancels = 0 then .running else .done }
  else task

def VariantHandle.leave (task : VariantHandle) : VariantHandle :=
  if task.phase = .running then { task with phase := .finalizing } else task

def VariantHandle.finish (task : VariantHandle) : VariantHandle :=
  if task.phase = .finalizing then { task with phase := .done } else task

/-- The end of the `finally` block. -/
def ShadowTasks.finalize (i : ℕ) (cutShort : Bool) (s : ShadowTasks) : ShadowTasks :=
  match s.tasks[i]? with
  | none => s
  | some task =>
      { tasks := s.tasks.modify i VariantHandle.finish
        activeTasks :=
          if task.phase = .finalizing ∧ task.body = .runShadowVariant ∧ cutShort = false then
            s.activeTasks.leave task.parent.tradeId i
          else s.activeTasks }

def registryStep : RegistryEvent → ShadowTasks → ShadowTasks
  | .shadowStart parent variants, s => s.register parent .runShadowVariant variants
  | .resumes parent, s => s.register parent .liveContinuation 1
  | .tradeClosed parent, s =>
      { s with tasks := cancelTasks (s.activeTasks.members parent.tradeId) s.tasks }
  | .begins i, s => { s with tasks := s.tasks.modify i VariantHandle.begin }
  | .leaves i, s => { s with tasks := s.tasks.modify i VariantHandle.leave }
  | .ends i cutShort, s => s.finalize i cutShort
  | .stop, s => { tasks := cancelTasks s.activeTasks.everyone s.tasks, activeTasks := ∅ }

/-- The task is registered under the number of its parent. -/
def ShadowTasks.Lists (s : ShadowTasks) (i : ℕ) (task : VariantHandle) : Prop :=
  i ∈ s.activeTasks.members task.parent.tradeId

instance (s : ShadowTasks) (i : ℕ) (task : VariantHandle) : Decidable (s.Lists i task) :=
  inferInstanceAs (Decidable (_ ∈ _))

/-! ## What cancelling does -/

/-- What became of a task, by whether `cancel` was called on it. -/
structure Cancelled (called : Prop) (task after : VariantHandle) : Prop where
  same : after = { task with cancels := after.cancels }
  kept : task.cancels ≤ after.cancels
  grows : called → task.phase ≠ .done → task.cancels < after.cancels
  uncalled : ¬ called → after = task

section Cancel

variable {tasks : List VariantHandle} {i : ℕ} {task : VariantHandle}

theorem cancelled_cancel (task : VariantHandle) : Cancelled True task task.cancel := by
  unfold VariantHandle.cancel
  split_ifs with done
  · exact ⟨rfl, le_rfl, fun _ undone => absurd done undone, fun not => absurd trivial not⟩
  · exact ⟨rfl, Nat.le_succ _, fun _ _ => Nat.lt_succ_self _, fun not => absurd trivial not⟩

theorem Cancelled.trans {first second : Prop} {task next after : VariantHandle}
    (left : Cancelled first task next) (right : Cancelled second next after) :
    Cancelled (first ∨ second) task after := by
  obtain ⟨same, kept, grows, uncalled⟩ := left
  obtain ⟨same', kept', grows', uncalled'⟩ := right
  have phase : next.phase = task.phase := by rw [same]
  refine ⟨?_, kept.trans kept', ?_, ?_⟩
  · rw [same', same]
  · rintro (called | called) undone
    · exact (grows called undone).trans_le kept'
    · exact kept.trans_lt (grows' called (phase ▸ undone))
  · intro neither
    rw [not_or] at neither
    rw [uncalled' neither.2, uncalled neither.1]

/-- What a loop of cancellations leaves of a task. -/
theorem getElem?_cancelTasks (listed : List ℕ) :
    ∀ {tasks : List VariantHandle} {task : VariantHandle}, tasks[i]? = some task →
      ∃ after, (cancelTasks listed tasks)[i]? = some after ∧ Cancelled (i ∈ listed) task after := by
  induction listed with
  | nil =>
      exact fun found => ⟨_, found, rfl, le_rfl, fun none => absurd none List.not_mem_nil,
        fun _ => rfl⟩
  | cons first listed ih =>
      intro tasks task found
      by_cases here : first = i
      · subst here
        have modified : (tasks.modify first VariantHandle.cancel)[first]? = some task.cancel := by
          rw [List.getElem?_modify_eq, found]
          rfl
        obtain ⟨after, last, cancelled⟩ := ih modified
        refine ⟨after, last, ?_⟩
        have both := (cancelled_cancel task).trans cancelled
        exact ⟨both.same, both.kept, fun _ => both.grows (.inl trivial),
          fun not => absurd List.mem_cons_self not⟩
      · have unmodified : (tasks.modify first VariantHandle.cancel)[i]? = some task := by
          rw [List.getElem?_modify_ne _ _ here, found]
        obtain ⟨after, last, cancelled⟩ := ih unmodified
        have same : i ∈ first :: listed ↔ i ∈ listed :=
          List.mem_cons.trans (or_iff_right fun equal => here equal.symm)
        refine ⟨after, last, ?_⟩
        rw [same]
        exact cancelled

theorem length_cancelTasks (listed : List ℕ) (tasks : List VariantHandle) :
    (cancelTasks listed tasks).length = tasks.length := by
  refine run_invariant_of_always (fun t : List VariantHandle => t.length = tasks.length) ?_ listed rfl
  intro t first same
  rw [List.length_modify, same]

/-- Every task after a loop of cancellations is one from before. -/
theorem of_getElem?_cancelTasks {listed : List ℕ} {after : VariantHandle}
    (found : (cancelTasks listed tasks)[i]? = some after) :
    ∃ task, tasks[i]? = some task ∧ Cancelled (i ∈ listed) task after := by
  have inside : i < tasks.length :=
    length_cancelTasks listed tasks ▸ (List.getElem?_eq_some_iff.mp found).1
  obtain ⟨after', found', cancelled⟩ :=
    getElem?_cancelTasks listed (List.getElem?_eq_getElem inside)
  obtain rfl := Option.some.inj (found'.symm.trans found)
  exact ⟨_, List.getElem?_eq_getElem inside, cancelled⟩

/-- Every task after a change of one task is one from before. -/
theorem of_getElem?_modify {j : ℕ} {f : VariantHandle → VariantHandle} {after : VariantHandle}
    (found : (tasks.modify j f)[i]? = some after) :
    ∃ task, tasks[i]? = some task ∧ after = if j = i then f task else task := by
  rw [List.getElem?_modify] at found
  obtain ⟨task, before, same⟩ := Option.map_eq_some_iff.mp found
  exact ⟨task, before, same.symm⟩

end Cancel

/-! ## What the registry lists -/

/-- What is listed under a number is a child of a parent of that number, and a task that is neither
done nor cancelled is listed. -/
structure Keyed (s : ShadowTasks) : Prop where
  keyed : ∀ key, ∀ i ∈ s.activeTasks.members key, ∃ task,
    s.tasks[i]? = some task ∧ task.parent.tradeId = key
  listed : ∀ i task, s.tasks[i]? = some task → task.phase ≠ .done → task.cancels = 0 →
    s.Lists i task

section Keyed

variable {s : ShadowTasks}

theorem getElem?_register {parent : ParentTrade} {body : TaskBody} {count i : ℕ}
    {task : VariantHandle}
    (found : (s.register parent body count).tasks[i]? = some task) :
    s.tasks[i]? = some task ∨
      task = { parent, body } ∧ i ∈ List.range' s.tasks.length count := by
  rw [ShadowTasks.register, List.getElem?_append] at found
  split_ifs at found with before
  · exact .inl found
  · obtain ⟨inside, same⟩ := List.getElem?_eq_some_iff.mp found
    rw [List.length_replicate] at inside
    rw [List.getElem_replicate] at same
    exact .inr ⟨same.symm, List.mem_range'_1.mpr (by omega)⟩

theorem getElem?_register_new {parent : ParentTrade} {body : TaskBody} {count i : ℕ}
    (new : i ∈ List.range' s.tasks.length count) :
    (s.register parent body count).tasks[i]? = some { parent, body } := by
  have range := List.mem_range'_1.mp new
  rw [ShadowTasks.register, List.getElem?_append_right range.1, List.getElem?_replicate]
  exact if_pos (by omega)

theorem getElem?_register_old {parent : ParentTrade} {body : TaskBody} {count i : ℕ}
    {task : VariantHandle} (found : s.tasks[i]? = some task) :
    (s.register parent body count).tasks[i]? = some task := by
  rw [ShadowTasks.register,
    List.getElem?_append_left (List.getElem?_eq_some_iff.mp found).1, found]

theorem members_register (parent : ParentTrade) (body : TaskBody) (count key : ℕ) :
    (s.register parent body count).activeTasks.members key =
      if key = parent.tradeId then
        s.activeTasks.members parent.tradeId ++ List.range' s.tasks.length count
      else s.activeTasks.members key :=
  Groups.members_join _ _ _

theorem Keyed.register (keyed : Keyed s) (parent : ParentTrade) (body : TaskBody) (count : ℕ) :
    Keyed (s.register parent body count) := by
  obtain ⟨keyed, listed⟩ := keyed
  constructor
  · intro key i member
    have old (member : i ∈ s.activeTasks.members key) : ∃ task,
        (s.register parent body count).tasks[i]? = some task ∧ task.parent.tradeId = key := by
      obtain ⟨task, found, same⟩ := keyed key i member
      exact ⟨task, getElem?_register_old found, same⟩
    rw [members_register] at member
    split_ifs at member with here
    · subst here
      rcases List.mem_append.mp member with before | new
      · exact old before
      · exact ⟨_, getElem?_register_new new, rfl⟩
    · exact old member
  · intro i task found undone uncancelled
    rw [ShadowTasks.Lists, members_register]
    rcases getElem?_register found with before | ⟨rfl, new⟩
    · have member := listed i task before undone uncancelled
      split_ifs with here
      · exact List.mem_append_left _ (here ▸ member)
      · exact member
    · rw [if_pos rfl]
      exact List.mem_append_right _ new

theorem Keyed.cancel (keyed : Keyed s) (called : List ℕ) :
    Keyed { s with tasks := cancelTasks called s.tasks } := by
  obtain ⟨keyed, listed⟩ := keyed
  constructor
  · intro key i member
    obtain ⟨task, found, same⟩ := keyed key i member
    obtain ⟨after, found', cancelled⟩ := getElem?_cancelTasks called found
    exact ⟨after, found', by rw [cancelled.same]; exact same⟩
  · intro i after found undone uncancelled
    obtain ⟨task, before, cancelled⟩ := of_getElem?_cancelTasks found
    have phase : after.phase = task.phase := by rw [cancelled.same]
    have parent : after.parent = task.parent := by rw [cancelled.same]
    have member := listed i task before (phase ▸ undone)
      (Nat.le_zero.mp (uncancelled ▸ cancelled.kept))
    rwa [ShadowTasks.Lists, parent]

/-- A change of a task that keeps its parent and its cancellations, and revives no task. -/
structure Moves (f : VariantHandle → VariantHandle) : Prop where
  parent : ∀ task, (f task).parent = task.parent
  body : ∀ task, (f task).body = task.body
  cancels : ∀ task, (f task).cancels = task.cancels
  done : ∀ task, task.phase = .done → (f task).phase = .done

/-- Such are the changes of the phase of tasks that are not done. -/
theorem moves_of_phase {f : VariantHandle → VariantHandle}
    (changes : ∀ task, f task = task ∨
      task.phase ≠ .done ∧ ∃ phase, f task = { task with phase := phase }) : Moves f where
  parent task := by rcases changes task with same | ⟨-, phase, same⟩ <;> rw [same]
  body task := by rcases changes task with same | ⟨-, phase, same⟩ <;> rw [same]
  cancels task := by rcases changes task with same | ⟨-, phase, same⟩ <;> rw [same]
  done task isDone := by
    rcases changes task with same | ⟨undone, -⟩
    · rw [same, isDone]
    · exact absurd isDone undone

theorem moves_begin : Moves VariantHandle.begin := by
  refine moves_of_phase fun task => ?_
  unfold VariantHandle.begin
  split_ifs with created
  · exact .inr ⟨by simp [created], _, rfl⟩
  · exact .inr ⟨by simp [created], _, rfl⟩
  · exact .inl rfl

theorem moves_leave : Moves VariantHandle.leave := by
  refine moves_of_phase fun task => ?_
  unfold VariantHandle.leave
  split_ifs with isRunning
  · exact .inr ⟨by simp [isRunning], _, rfl⟩
  · exact .inl rfl

theorem moves_finish : Moves VariantHandle.finish := by
  refine moves_of_phase fun task => ?_
  unfold VariantHandle.finish
  split_ifs with finalizing
  · exact .inr ⟨by simp [finalizing], _, rfl⟩
  · exact .inl rfl

theorem Keyed.modify (keyed : Keyed s) {f : VariantHandle → VariantHandle} (moves : Moves f)
    (i : ℕ) : Keyed { s with tasks := s.tasks.modify i f } := by
  obtain ⟨keyed, listed⟩ := keyed
  constructor
  · intro key j member
    obtain ⟨task, found, same⟩ := keyed key j member
    refine ⟨if i = j then f task else task, ?_, ?_⟩
    · rw [List.getElem?_modify, found]
      rfl
    · split_ifs
      · rw [moves.parent, same]
      · exact same
  · intro j after found undone uncancelled
    obtain ⟨task, before, rfl⟩ := of_getElem?_modify found
    split_ifs at undone uncancelled ⊢ with here
    · have member := listed j task before (fun done => undone (moves.done task done))
        (moves.cancels task ▸ uncancelled)
      rwa [ShadowTasks.Lists, moves.parent]
    · exact listed j task before undone uncancelled

/-- A task is taken out of the registry in the step it becomes done. -/
theorem Keyed.leaveGroup (keyed : Keyed s) {i : ℕ} {task : VariantHandle}
    (found : s.tasks[i]? = some task) (done : task.phase = .done) (key : ℕ) :
    Keyed { s with activeTasks := s.activeTasks.leave key i } := by
  obtain ⟨keyed, listed⟩ := keyed
  constructor
  · intro key' j member
    rw [Groups.members_leave] at member
    split_ifs at member with here
    · exact here ▸ keyed key j (List.mem_of_mem_filter member)
    · exact keyed key' j member
  · intro j other found' undone uncancelled
    have member := listed j other found' undone uncancelled
    rw [ShadowTasks.Lists, Groups.members_leave]
    split_ifs with here
    · refine List.mem_filter.mpr ⟨here ▸ member, decide_eq_true fun same => undone ?_⟩
      rw [same, found] at found'
      rw [← Option.some.inj found', done]
    · exact member

theorem Keyed.finalize (keyed : Keyed s) (i : ℕ) (cutShort : Bool) :
    Keyed (s.finalize i cutShort) := by
  unfold ShadowTasks.finalize
  split
  · exact keyed
  · next task found =>
      have moved := keyed.modify moves_finish i
      split_ifs with taken
      · have after : (s.tasks.modify i VariantHandle.finish)[i]? = some task.finish := by
          rw [List.getElem?_modify_eq, found]
          rfl
        exact moved.leaveGroup after (by simp [VariantHandle.finish, taken.1]) _
      · exact moved

theorem Keyed.step (keyed : Keyed s) (event : RegistryEvent) : Keyed (registryStep event s) := by
  cases event with
  | shadowStart parent variants => exact keyed.register parent _ variants
  | resumes parent => exact keyed.register parent _ 1
  | tradeClosed parent => exact keyed.cancel _
  | begins i => exact keyed.modify moves_begin i
  | leaves i => exact keyed.modify moves_leave i
  | ends i cutShort => exact keyed.finalize i cutShort
  | stop =>
      refine ⟨fun _ _ member => absurd member List.not_mem_nil, ?_⟩
      intro i after found undone uncancelled
      obtain ⟨task, before, cancelled⟩ := of_getElem?_cancelTasks found
      have phase : after.phase = task.phase := by rw [cancelled.same]
      have none : task.cancels = 0 := Nat.le_zero.mp (uncancelled ▸ cancelled.kept)
      have member := keyed.listed i task before (phase ▸ undone) none
      have grown := cancelled.grows (Groups.mem_everyone.mpr ⟨_, member⟩) (phase ▸ undone)
      omega

theorem keyed_empty : Keyed {} :=
  ⟨fun _ _ member => absurd member List.not_mem_nil, fun _ _ found => nomatch found⟩

end Keyed

/-! ## Closing a parent -/

/-- Where a parent closes, each of its tasks that is not done has been cancelled, and every other
such task is left alone. -/
def CancelsItsChildren (s : ShadowTasks) : RegistryEvent → Prop
  | .tradeClosed parent => ∀ (i : ℕ) (task : VariantHandle), s.tasks[i]? = some task →
      task.phase ≠ .done → ∃ after, (registryStep (.tradeClosed parent) s).tasks[i]? = some after ∧
        if task.parent = parent then 0 < after.cancels else after = task
  | _ => True

/-- Where a parent closes, what is listed under its number and is not done is of its kind. -/
def OneKind (s : ShadowTasks) : RegistryEvent → Prop
  | .tradeClosed parent => ∀ i ∈ s.activeTasks.members parent.tradeId, ∀ task,
      s.tasks[i]? = some task → task.phase ≠ .done → task.parent.kind = parent.kind
  | _ => True

theorem Keyed.cancelsItsChildren_iff {s : ShadowTasks} (keyed : Keyed s) (event : RegistryEvent) :
    CancelsItsChildren s event ↔ OneKind s event := by
  cases event with
  | tradeClosed parent =>
      constructor
      · intro exact i member task found undone
        obtain ⟨after, found', becomes⟩ := exact i task found undone
        obtain ⟨after', found'', cancelled⟩ :=
          getElem?_cancelTasks (s.activeTasks.members parent.tradeId) found
        obtain rfl := Option.some.inj (found''.symm.trans found')
        split_ifs at becomes with child
        · rw [child]
        · have grown := cancelled.grows member undone
          rw [becomes] at grown
          exact absurd grown (lt_irrefl _)
      · intro oneKind i task found undone
        obtain ⟨after, found', cancelled⟩ :=
          getElem?_cancelTasks (s.activeTasks.members parent.tradeId) found
        refine ⟨after, found', ?_⟩
        split_ifs with child
        · rcases Nat.eq_zero_or_pos task.cancels with uncancelled | already
          · have member := keyed.listed i task found undone uncancelled
            rw [ShadowTasks.Lists, child] at member
            exact (Nat.zero_le _).trans_lt (cancelled.grows member undone)
          · exact already.trans_le cancelled.kept
        · refine cancelled.uncalled fun member => child ?_
          obtain ⟨task', found'', number⟩ := keyed.keyed _ i member
          obtain rfl := Option.some.inj (found''.symm.trans found)
          have kind := oneKind i member task' found undone
          cases parent
          cases parentEq : task'.parent
          simp_all
  | _ => exact Iff.rfl

/-- **A run cancels exactly the children of the parents that close if and only if, whenever a parent
closes, nothing that is listed under its number and still runs belongs to a parent of the other
kind.** -/
theorem closes_iff (events : List RegistryEvent) :
    RunGuarded CancelsItsChildren registryStep {} events ↔
      RunGuarded OneKind registryStep {} events :=
  runGuarded_iff_of_invariant Keyed
    (fun _ event keyed _ => keyed.cancelsItsChildren_iff event)
    (fun _ event keyed _ _ => keyed.step event) events keyed_empty
    (show RunGuarded (fun _ _ => True) _ _ _ from runGuarded_of_forall fun _ _ => trivial)

/-- The live trade 7 closes while a variant of the paper trade 7 runs. -/
def otherKindCloses : List RegistryEvent :=
  [.shadowStart ⟨.paper, 7⟩ 1, .begins 0, .tradeClosed ⟨.live, 7⟩]

/-- The variant of the paper trade is cancelled. -/
theorem otherKind_cancelled : ¬ RunGuarded CancelsItsChildren registryStep {} otherKindCloses := by
  intro exact
  obtain ⟨after, found, becomes⟩ := exact.2.2.1 0 ⟨⟨.paper, 7⟩, .runShadowVariant, .running, 0⟩
    (by decide +kernel) (by decide)
  rw [if_neg (by decide)] at becomes
  rw [becomes] at found
  exact absurd found (by decide +kernel)

/-! ## What the registry holds -/

/-- Every task is done, or runs and has not been cancelled: no callback is pending. -/
def Quiet (s : ShadowTasks) : Prop :=
  ∀ task ∈ s.tasks, task.phase = .done ∨ task.phase = .running ∧ task.cancels = 0

instance (s : ShadowTasks) : Decidable (Quiet s) := List.decidableBAll _ _

/-- The registry holds the tasks that have not finished, each once under the number of its parent,
and no empty list. -/
structure HoldsUnfinished (s : ShadowTasks) : Prop where
  listed : ∀ i task, s.tasks[i]? = some task → task.phase ≠ .done → s.Lists i task
  unfinished : ∀ key, ∀ i ∈ s.activeTasks.members key, ∃ task,
    s.tasks[i]? = some task ∧ task.phase ≠ .done ∧ task.parent.tradeId = key
  distinct : ∀ key, (s.activeTasks.members key).Nodup
  noneEmpty : s.activeTasks.NoneEmpty

/-- Tasks that are listed end in the `finally` block of `_run_shadow_variant`: none is cancelled
before its first step, none is a live continuation, no block is cut short; and no payload without
variants makes a new key. -/
def EndsInFinalizer (s : ShadowTasks) : RegistryEvent → Prop
  | .shadowStart parent variants =>
      variants ≠ 0 ∨ s.activeTasks.members parent.tradeId ≠ []
  | .begins i => ∀ task ∈ s.tasks[i]?, s.Lists i task → task.phase = .created → task.cancels = 0
  | .ends i cutShort => ∀ task ∈ s.tasks[i]?, s.Lists i task → task.phase = .finalizing →
      task.body = .runShadowVariant ∧ cutShort = false
  | _ => True

instance EndsInFinalizer.decidable (s : ShadowTasks) :
    ∀ event, Decidable (EndsInFinalizer s event)
  | .shadowStart _ _ => inferInstanceAs (Decidable (_ ∨ _))
  | .begins _ => inferInstanceAs (Decidable (∀ task ∈ _, _))
  | .ends _ _ => inferInstanceAs (Decidable (∀ task ∈ _, _))
  | .resumes _ => inferInstanceAs (Decidable True)
  | .tradeClosed _ => inferInstanceAs (Decidable True)
  | .leaves _ => inferInstanceAs (Decidable True)
  | .stop => inferInstanceAs (Decidable True)

/-- What is listed has not finished, and is listed once. -/
structure Tidy (s : ShadowTasks) : Prop extends Keyed s where
  unfinished : ∀ i task, s.tasks[i]? = some task → s.Lists i task → task.phase ≠ .done
  distinct : ∀ key, (s.activeTasks.members key).Nodup
  noneEmpty : s.activeTasks.NoneEmpty

section Tidy

variable {s : ShadowTasks}

theorem Tidy.register_iff (tidy : Tidy s) (parent : ParentTrade) (body : TaskBody) (count : ℕ) :
    Tidy (s.register parent body count) ↔
      count ≠ 0 ∨ s.activeTasks.members parent.tradeId ≠ [] := by
  have filled : (s.register parent body count).activeTasks.NoneEmpty ↔
      count ≠ 0 ∨ s.activeTasks.members parent.tradeId ≠ [] := by
    rw [ShadowTasks.register, Groups.noneEmpty_join_iff tidy.noneEmpty]
    simp only [ne_eq, List.append_eq_nil_iff, List.range'_eq_nil_iff, not_and_or]
    exact or_comm
  have old {key i : ℕ} (member : i ∈ s.activeTasks.members key) : i < s.tasks.length := by
    obtain ⟨task, found, _⟩ := tidy.keyed key i member
    exact (List.getElem?_eq_some_iff.mp found).1
  rw [← filled]
  refine ⟨fun after => after.noneEmpty, fun noneEmpty =>
    ⟨tidy.toKeyed.register parent body count, ?_, ?_, noneEmpty⟩⟩
  · intro i task found listed
    rcases getElem?_register found with before | ⟨rfl, _⟩
    · refine tidy.unfinished i task before ?_
      rw [ShadowTasks.Lists, members_register] at listed
      split_ifs at listed with here
      · rcases List.mem_append.mp listed with member | new
        · rwa [ShadowTasks.Lists, here]
        · have inside := (List.getElem?_eq_some_iff.mp before).1
          exact absurd inside (Nat.not_lt.mpr (List.mem_range'_1.mp new).1)
      · exact listed
    · intro impossible
      cases impossible
  · intro key
    rw [members_register]
    split_ifs
    · refine List.nodup_append.mpr ⟨tidy.distinct _, List.nodup_range', ?_⟩
      rintro i member j new rfl
      exact absurd (old member) (Nat.not_lt.mpr (List.mem_range'_1.mp new).1)
    · exact tidy.distinct key

theorem Tidy.cancel (tidy : Tidy s) (called : List ℕ) :
    Tidy { s with tasks := cancelTasks called s.tasks } := by
  refine ⟨tidy.toKeyed.cancel called, ?_, tidy.distinct, tidy.noneEmpty⟩
  intro i after found listed
  obtain ⟨task, before, cancelled⟩ := of_getElem?_cancelTasks found
  have parent : after.parent = task.parent := by rw [cancelled.same]
  have phase : after.phase = task.phase := by rw [cancelled.same]
  rw [phase]
  refine tidy.unfinished i task before ?_
  rwa [ShadowTasks.Lists, ← parent]

theorem Tidy.modify_iff (tidy : Tidy s) {f : VariantHandle → VariantHandle} (moves : Moves f)
    (i : ℕ) : Tidy { s with tasks := s.tasks.modify i f } ↔
      ∀ task, s.tasks[i]? = some task → s.Lists i task → (f task).phase ≠ .done := by
  constructor
  · intro after task found listed
    refine after.unfinished i (f task) ?_ ?_
    · rw [List.getElem?_modify_eq, found]
      rfl
    · rwa [ShadowTasks.Lists, moves.parent]
  · intro undone
    refine ⟨tidy.toKeyed.modify moves i, ?_, tidy.distinct, tidy.noneEmpty⟩
    intro j after found listed
    obtain ⟨task, before, rfl⟩ := of_getElem?_modify found
    split_ifs at listed ⊢ with here
    · rw [ShadowTasks.Lists, moves.parent] at listed
      exact undone task (here ▸ before) (here ▸ listed)
    · exact tidy.unfinished j task before listed

/-- The step of a task that takes itself out. -/
theorem Tidy.takesOut (tidy : Tidy s) {i : ℕ} {task : VariantHandle}
    (found : s.tasks[i]? = some task) (here : task.phase = .finalizing) :
    Tidy { tasks := s.tasks.modify i VariantHandle.finish
           activeTasks := s.activeTasks.leave task.parent.tradeId i } := by
  have moved := tidy.toKeyed.modify moves_finish i
  have after : (s.tasks.modify i VariantHandle.finish)[i]? = some task.finish := by
    rw [List.getElem?_modify_eq, found]
    rfl
  have finished : task.finish.phase = .done := by simp [VariantHandle.finish, here]
  refine ⟨moved.leaveGroup after finished _, ?_, ?_, Groups.noneEmpty_leave tidy.noneEmpty _ _⟩
  · intro j other found' listed
    rw [ShadowTasks.Lists, Groups.members_leave] at listed
    by_cases same : i = j
    · subst same
      obtain rfl := Option.some.inj (after.symm.trans found')
      rw [if_pos (by rw [moves_finish.parent])] at listed
      exact absurd rfl (of_decide_eq_true (List.mem_filter.mp listed).2)
    · have before : s.tasks[j]? = some other := by
        rw [← found', List.getElem?_modify_ne _ _ same]
      refine tidy.unfinished j other before ?_
      split_ifs at listed with own
      · rw [ShadowTasks.Lists, own]
        exact (List.mem_filter.mp listed).1
      · exact listed
  · intro key
    rw [Groups.members_leave]
    split_ifs
    · exact (tidy.distinct _).filter _
    · exact tidy.distinct key

theorem Tidy.finalize_iff (tidy : Tidy s) (i : ℕ) (cutShort : Bool) :
    Tidy (s.finalize i cutShort) ↔ EndsInFinalizer s (.ends i cutShort) := by
  unfold ShadowTasks.finalize EndsInFinalizer
  cases found : s.tasks[i]? with
  | none =>
      dsimp only
      rw [found]
      exact iff_of_true tidy fun _ none => nomatch none
  | some task =>
      dsimp only
      by_cases taken : task.phase = .finalizing ∧ task.body = .runShadowVariant ∧ cutShort = false
      · rw [if_pos taken]
        refine iff_of_true (tidy.takesOut found taken.1) fun other same _ _ => ?_
        obtain rfl := Option.some.inj (found.symm.trans same)
        exact taken.2
      · rw [if_neg taken, tidy.modify_iff moves_finish]
        refine forall_congr' fun other => forall₂_congr fun same listed => ?_
        obtain rfl := Option.some.inj (found.symm.trans same)
        have undone := tidy.unfinished i task found listed
        unfold VariantHandle.finish
        by_cases finalizing : task.phase = .finalizing
        · simp only [finalizing, true_and] at taken
          simp [finalizing, taken]
        · simp [finalizing, undone]

/-- A tidy registry stays tidy exactly when its tasks end in the finalizer. -/
theorem Tidy.step_iff (tidy : Tidy s) (event : RegistryEvent) :
    Tidy (registryStep event s) ↔ EndsInFinalizer s event := by
  cases event with
  | shadowStart parent variants => exact tidy.register_iff parent _ variants
  | resumes parent =>
      exact iff_of_true ((tidy.register_iff parent _ 1).mpr (.inl one_ne_zero)) trivial
  | tradeClosed parent => exact iff_of_true (tidy.cancel _) trivial
  | begins i =>
      refine (tidy.modify_iff moves_begin i).trans ?_
      refine forall_congr' fun task => forall₂_congr fun found listed => ?_
      have undone := tidy.unfinished i task found listed
      unfold VariantHandle.begin
      by_cases created : task.phase = .created
      · by_cases cancelled : task.cancels = 0 <;> simp [created, cancelled]
      · simp [created, undone]
  | leaves i =>
      refine iff_of_true ((tidy.modify_iff moves_leave i).mpr fun task found listed => ?_) trivial
      have undone := tidy.unfinished i task found listed
      unfold VariantHandle.leave
      split_ifs
      · exact nofun
      · exact undone
  | ends i cutShort => exact tidy.finalize_iff i cutShort
  | stop =>
      exact iff_of_true ⟨tidy.toKeyed.step .stop, fun _ _ _ listed => absurd listed List.not_mem_nil,
        fun _ => List.nodup_nil, Groups.noneEmpty_empty⟩ trivial

theorem tidy_empty : Tidy {} :=
  ⟨keyed_empty, fun _ _ found => (nomatch found), fun _ => List.nodup_nil, Groups.noneEmpty_empty⟩

/-- When no callback is pending, a tidy registry holds exactly what has not finished. -/
theorem Tidy.holdsUnfinished (tidy : Tidy s) (quiet : Quiet s) : HoldsUnfinished s := by
  refine ⟨fun i task found undone => ?_, fun key i member => ?_, tidy.distinct, tidy.noneEmpty⟩
  · rcases quiet task (List.mem_of_getElem? found) with done | ⟨_, uncancelled⟩
    · exact absurd done undone
    · exact tidy.listed i task found undone uncancelled
  · obtain ⟨task, found, same⟩ := tidy.keyed key i member
    exact ⟨task, found, tidy.unfinished i task found (by rwa [ShadowTasks.Lists, same]), same⟩

end Tidy

/-- **In every run in which the tasks that are listed end in the `finally` block of
`_run_shadow_variant`, the registry holds exactly the tasks that have not finished whenever no
callback is pending.** -/
theorem registry_exact {events : List RegistryEvent}
    (finalized : RunGuarded EndsInFinalizer registryStep {} events) :
    ∀ reached later, events = reached ++ later → Quiet (run registryStep {} reached) →
      HoldsUnfinished (run registryStep {} reached) := by
  rintro reached later rfl quiet
  have tidy : Tidy (run registryStep {} reached) :=
    run_invariant Tidy (fun s event tidy finalized => (tidy.step_iff event).mpr finalized) tidy_empty
      (runGuarded_append.mp finalized).1
  exact tidy.holdsUnfinished quiet

/-- Two variants, one of which terminates. -/
def oneTerminates : List RegistryEvent :=
  [.shadowStart ⟨.live, 7⟩ 2, .begins 0, .begins 1, .leaves 0, .ends 0 false]

theorem oneTerminates_exact : HoldsUnfinished (run registryStep {} oneTerminates) :=
  registry_exact (by decide +kernel) oneTerminates [] (List.append_nil _).symm (by decide +kernel)

/-- A variant that was resumed after a restart terminates. -/
def resumedTerminates : List RegistryEvent :=
  [.resumes ⟨.live, 7⟩, .begins 0, .leaves 0, .ends 0 false]

/-- It stays in the registry. -/
theorem resumed_listed : ¬ ∀ events, Quiet (run registryStep {} events) →
    HoldsUnfinished (run registryStep {} events) := by
  intro exact
  have held := exact resumedTerminates (by decide +kernel)
  obtain ⟨task, found, undone, _⟩ := held.unfinished 7 0 (by decide +kernel)
  have done : (run registryStep {} resumedTerminates).tasks[0]? =
      some ⟨⟨.live, 7⟩, .liveContinuation, .done, 0⟩ := by
    decide +kernel
  exact undone (Option.some.inj (found.symm.trans done) ▸ rfl)

end Scalper.Shadow
