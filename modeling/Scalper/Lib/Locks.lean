import Scalper.Lib.Run
import Mathlib.Data.Fintype.Basic
import Mathlib.Logic.Function.Basic

/-!
# Sessions that lock

One program is run by any number of sessions over shared data.  A session holds at most one lock at
a time.  A statement that wants a lock another session holds waits, that is it does nothing and is
tried again, and a session may fail at any point, which takes back what it has not committed.

The locks exclude each other (`exclusive_step`).  A property of a session, in the shared data it
sees, needs only be shown for its own statements and for those of sessions it shares no lock with
(`Kept`, `run_kept`).
-/

set_option autoImplicit false

namespace Scalper.Lib

variable {ι σ π κ : Type*}

/-- What every session runs, one statement at a time. -/
structure Locking (σ π κ : Type*) where
  /-- The lock a session holds. -/
  holds : π → Option κ
  /-- The lock its next statement wants. -/
  wants : π → Option κ
  /-- Its next statement, on the shared data. -/
  next : σ → π → σ × π
  /-- What is left of a session that fails. -/
  fail : π → π

/-- The shared data and where every session is. -/
structure Sessions (ι σ π : Type*) where
  shared : σ
  session : ι → π

/-- A step of a session. -/
inductive SessionStep (ι : Type*) where
  /-- The session tries its next statement. -/
  | advances (i : ι)
  /-- The session fails, and what it has not committed is taken back. -/
  | fails (i : ι)
  deriving DecidableEq, Repr

def SessionStep.of : SessionStep ι → ι
  | .advances i => i
  | .fails i => i

namespace Locking

variable {program : Locking σ π κ} {s : Sessions ι σ π}

/-- The two are not one lock. -/
def Apart (lock other : Option κ) : Prop := ∀ key, lock = some key → other ≠ some key

theorem Apart.symm {lock other : Option κ} (apart : Apart lock other) : Apart other lock :=
  fun key second first => apart key first second

variable (program) in
/-- The next statement of a session wants a lock that another one holds. -/
def Waits (s : Sessions ι σ π) (i : ι) : Prop :=
  ∃ j, j ≠ i ∧ program.holds (s.session j) = program.wants (s.session i) ∧
    (program.wants (s.session i)).isSome = true

instance [Fintype ι] [DecidableEq ι] [DecidableEq κ] (s : Sessions ι σ π) (i : ι) :
    Decidable (program.Waits s i) :=
  inferInstanceAs (Decidable (∃ j, j ≠ i ∧ _ ∧ _))

/-- A session that does not wait wants no lock of another one. -/
theorem apart_of_not_waits {i j : ι} (runs : ¬program.Waits s i) (different : j ≠ i) :
    Apart (program.wants (s.session i)) (program.holds (s.session j)) := by
  intro key wanted held
  exact runs ⟨j, different, held.trans wanted.symm, by rw [wanted]; rfl⟩

variable (program) in
/-- No two sessions hold one lock. -/
def Exclusive (s : Sessions ι σ π) : Prop :=
  ∀ i j, i ≠ j → Apart (program.holds (s.session i)) (program.holds (s.session j))

variable [DecidableEq ι]

variable (program) in
/-- A statement of a session. -/
def advance (s : Sessions ι σ π) (i : ι) : Sessions ι σ π where
  shared := (program.next s.shared (s.session i)).1
  session := Function.update s.session i (program.next s.shared (s.session i)).2

variable (program) in
/-- The failure of a session. -/
def lose (s : Sessions ι σ π) (i : ι) : Sessions ι σ π where
  shared := s.shared
  session := Function.update s.session i (program.fail (s.session i))

/-- One session changes; the others keep their locks. -/
theorem exclusive_update {c : σ} {i : ι} {p : π} (exclusive : program.Exclusive s)
    (apart : ∀ j, j ≠ i → Apart (program.holds p) (program.holds (s.session j))) :
    program.Exclusive ⟨c, Function.update s.session i p⟩ := by
  intro j k differ
  by_cases first : j = i
  · subst first
    simpa [Function.update_of_ne differ.symm] using apart k differ.symm
  · by_cases second : k = i
    · subst second
      simpa [Function.update_of_ne differ] using (apart j differ).symm
    · simpa [Function.update_of_ne first, Function.update_of_ne second] using exclusive j k differ

variable [Fintype ι] [DecidableEq κ]

variable (program) in
def step : SessionStep ι → Sessions ι σ π → Sessions ι σ π
  | .advances i, s => if program.Waits s i then s else program.advance s i
  | .fails i, s => program.lose s i

theorem step_fails (i : ι) : program.step (.fails i) s = program.lose s i := rfl

theorem step_waits {i : ι} (waits : program.Waits s i) : program.step (.advances i) s = s :=
  if_pos waits

theorem step_runs {i : ι} (runs : ¬program.Waits s i) :
    program.step (.advances i) s = program.advance s i :=
  if_neg runs

/-! ## Exclusion -/

variable (program) in
/-- Locks are taken where they were wanted, and a session that fails lets go. -/
structure Disciplined : Prop where
  acquires : ∀ c p key, program.holds (program.next c p).2 = some key →
    program.holds p = some key ∨ program.wants p = some key
  releases : ∀ p, program.holds (program.fail p) = none

theorem Disciplined.exclusive_step (disciplined : program.Disciplined)
    (exclusive : program.Exclusive s) (event : SessionStep ι) :
    program.Exclusive (program.step event s) := by
  cases event with
  | advances i =>
      by_cases waits : program.Waits s i
      · rwa [step_waits waits]
      · rw [step_runs waits]
        refine exclusive_update exclusive fun j different key held => ?_
        rcases disciplined.acquires _ _ _ held with before | wanted
        · exact exclusive i j different.symm key before
        · exact apart_of_not_waits waits different key wanted
  | fails i =>
      refine exclusive_update exclusive fun j _ key held => ?_
      rw [disciplined.releases] at held
      cases held

/-! ## What every session keeps -/

variable (program) in
/-- A property of the shared data with a property of a session in them: what a session's own
statement keeps of both, and what the statement of another session keeps of the second. -/
structure Kept (data : σ → Prop) (seen : σ → π → Prop) : Prop where
  own : ∀ c p, data c → seen c p →
    data (program.next c p).1 ∧ seen (program.next c p).1 (program.next c p).2
  others : ∀ c p q, data c → seen c p → seen c q → Apart (program.holds p) (program.holds q) →
    Apart (program.wants p) (program.holds q) → seen (program.next c p).1 q
  failed : ∀ c p, seen c p → seen c (program.fail p)

variable (program) in
/-- The property of the data, and that of every session. -/
structure Consistent (data : σ → Prop) (seen : σ → π → Prop) (s : Sessions ι σ π) : Prop where
  exclusive : program.Exclusive s
  data : data s.shared
  seen : ∀ i, seen s.shared (s.session i)

variable {data : σ → Prop} {seen : σ → π → Prop}

theorem Kept.step (kept : program.Kept data seen) (disciplined : program.Disciplined)
    (consistent : program.Consistent data seen s) (event : SessionStep ι) :
    program.Consistent data seen (program.step event s) := by
  have exclusive := disciplined.exclusive_step consistent.exclusive event
  cases event with
  | advances i =>
      by_cases waits : program.Waits s i
      · rwa [step_waits waits]
      · rw [step_runs waits] at exclusive ⊢
        have own := kept.own _ _ consistent.data (consistent.seen i)
        refine ⟨exclusive, own.1, fun j => ?_⟩
        by_cases same : j = i
        · subst same
          simpa [advance] using own.2
        · simp only [advance, Function.update_of_ne same]
          exact kept.others _ _ _ consistent.data (consistent.seen i) (consistent.seen j)
            (consistent.exclusive i j (Ne.symm same)) (apart_of_not_waits waits same)
  | fails i =>
      refine ⟨exclusive, consistent.data, fun j => ?_⟩
      rw [step_fails]
      by_cases same : j = i
      · subst same
        simpa [lose] using kept.failed _ _ (consistent.seen j)
      · simpa [lose, Function.update_of_ne same] using consistent.seen j

/-- Whatever the order of the statements and whoever fails. -/
theorem Kept.run_kept (kept : program.Kept data seen) (disciplined : program.Disciplined)
    (consistent : program.Consistent data seen s) (events : List (SessionStep ι)) :
    program.Consistent data seen (run program.step s events) :=
  run_invariant_of_always (program.Consistent data seen)
    (fun _ event before => kept.step disciplined before event) events consistent

/-- One session among others: what it keeps of a property by its own statements, and what theirs
keep of it. -/
theorem Kept.run_session (kept : program.Kept data seen) (disciplined : program.Disciplined)
    (mine : σ → π → Prop)
    (own : ∀ c p, data c → seen c p → mine c p → mine (program.next c p).1 (program.next c p).2)
    (others : ∀ c p q, data c → seen c p → mine c q → mine (program.next c p).1 q)
    (failed : ∀ c p, mine c p → mine c (program.fail p)) {i : ι}
    (consistent : program.Consistent data seen s) (holds : mine s.shared (s.session i))
    (events : List (SessionStep ι)) :
    mine (run program.step s events).shared ((run program.step s events).session i) := by
  refine (run_invariant_of_always
    (fun s => program.Consistent data seen s ∧ mine s.shared (s.session i)) ?_ events
    ⟨consistent, holds⟩).2
  intro s event ⟨consistent, holds⟩
  refine ⟨kept.step disciplined consistent event, ?_⟩
  cases event with
  | advances j =>
      by_cases waits : program.Waits s j
      · rwa [step_waits waits]
      · rw [step_runs waits]
        by_cases same : i = j
        · subst same
          simpa [advance] using own _ _ consistent.data (consistent.seen i) holds
        · simpa [advance, Function.update_of_ne same] using
            others _ _ _ consistent.data (consistent.seen j) holds
  | fails j =>
      rw [step_fails]
      by_cases same : i = j
      · subst same
        simpa [lose] using failed _ _ holds
      · simpa [lose, Function.update_of_ne same] using holds

/-- A session stays where it is while others take their steps. -/
theorem session_run_of_others {i : ι} {events : List (SessionStep ι)}
    (others : ∀ event ∈ events, event.of ≠ i) :
    (run program.step s events).session i = s.session i := by
  have guarded : RunGuarded (fun _ event => SessionStep.of event ≠ i) program.step s events :=
    runGuarded_of_forall others
  refine run_invariant (fun after => after.session i = s.session i) ?_ rfl guarded
  intro after event same other
  cases event with
  | advances j =>
      have different : i ≠ j := Ne.symm other
      by_cases waits : program.Waits after j
      · rwa [step_waits waits]
      · rw [step_runs waits]
        simpa [advance, Function.update_of_ne different] using same
  | fails j =>
      have different : i ≠ j := Ne.symm other
      rw [step_fails]
      simpa [lose, Function.update_of_ne different] using same

end Locking

end Scalper.Lib
