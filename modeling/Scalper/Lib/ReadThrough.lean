import Scalper.Lib.Run
import Mathlib.Algebra.Order.Ring.Rat
import Mathlib.Logic.Function.Basic
import Mathlib.Tactic.Linarith

/-!
# Read-through caches

A cache in front of a source that changes.  A request looks its key up; an entry that is not older
than the time to live answers it, and otherwise it queries the source and stores what it got, with
the time of the store.  Any number of requests are in flight, also for one key: nothing keeps the
older of two answers from being stored last.

Where a store comes at most `latency` after its query, an answer is what the source was at some time
after the request looked, less the time to live and the latency (`run_fresh`).  So a source that has
settled is answered right that much later (`run_settled`), and no sooner (`exists_run_stale`).
-/

set_option autoImplicit false

namespace Scalper.Lib

variable {ι κ ν : Type*}

/-- Where a request is. -/
inductive ReadPhase (κ ν : Type*) where
  | idle
  /-- It found no fresh entry. -/
  | missed (key : κ) (asked : ℚ)
  /-- The source has answered it. -/
  | fetched (key : κ) (asked : ℚ) (value : ν) (queried : ℚ)
  | answered (key : κ) (asked : ℚ) (value : ν)
  deriving DecidableEq, Repr

/-- A cache with an expiry, and the requests through it. -/
structure ReadThrough (ι κ ν : Type*) where
  cache : κ → Option (ν × ℚ)
  request : ι → ReadPhase κ ν
  clock : ℚ

/-- A step of a request. -/
inductive ReadStep (ι κ : Type*) where
  | looks (i : ι) (key : κ)
  | queries (i : ι)
  | stores (i : ι)
  /-- The query of a request raises. -/
  | fails (i : ι)
  deriving DecidableEq, Repr

/-- A step at a reading of the clock. -/
structure TimedStep (ι κ : Type*) where
  step : ReadStep ι κ
  now : ℚ
  deriving DecidableEq, Repr

/-- What a request that looks at its key finds. -/
def lookUp (ttl now : ℚ) (key : κ) : Option (ν × ℚ) → ReadPhase κ ν
  | some (value, recorded) =>
      if now - recorded < ttl then .answered key now value else .missed key now
  | none => .missed key now

/-- When the value that a request is about to store was queried. -/
def ReadPhase.queriedAt : ReadPhase κ ν → Option ℚ
  | .fetched _ _ _ queried => some queried
  | _ => none

/-- The request that stores in a step. -/
def ReadStep.storing : ReadStep ι κ → Option ι
  | .stores i => some i
  | _ => none

/-- The clock does not go back, and a store comes at most so long after its query. -/
def ReadThrough.Timely (latency : ℚ) (s : ReadThrough ι κ ν) (timed : TimedStep ι κ) : Prop :=
  s.clock ≤ timed.now ∧ ∀ i ∈ timed.step.storing, ∀ queried ∈ (s.request i).queriedAt,
    timed.now ≤ queried + latency

variable [DecidableEq ι] [DecidableEq κ]

def ReadThrough.moves (ttl : ℚ) (source : ℚ → κ → ν) (now : ℚ) (s : ReadThrough ι κ ν) :
    ReadStep ι κ → ReadThrough ι κ ν
  | .looks i key =>
      match s.request i with
      | .missed _ _ => s
      | .fetched _ _ _ _ => s
      | _ => { s with request := Function.update s.request i (lookUp ttl now key (s.cache key)) }
  | .queries i =>
      match s.request i with
      | .missed key asked =>
          { s with request := Function.update s.request i (.fetched key asked (source now key) now) }
      | _ => s
  | .stores i =>
      match s.request i with
      | .fetched key asked value _ =>
          { s with
            cache := Function.update s.cache key (some (value, now))
            request := Function.update s.request i (.answered key asked value) }
      | _ => s
  | .fails i => { s with request := Function.update s.request i .idle }

/-- One step of a request. -/
def ReadThrough.step (ttl : ℚ) (source : ℚ → κ → ν) (timed : TimedStep ι κ)
    (s : ReadThrough ι κ ν) : ReadThrough ι κ ν :=
  { s.moves ttl source timed.now timed.step with clock := timed.now }

namespace ReadThrough

instance (latency : ℚ) (s : ReadThrough ι κ ν) (timed : TimedStep ι κ) :
    Decidable (Timely latency s timed) :=
  inferInstanceAs (Decidable (_ ∧ _))

variable {ttl latency now : ℚ} {source : ℚ → κ → ν} {s : ReadThrough ι κ ν}

/-- The source had the value of an entry when it was stored, or so long before. -/
def Stored (latency : ℚ) (source : ℚ → κ → ν) (key : κ) (entry : ν × ℚ) : Prop :=
  ∃ time, entry.2 - latency ≤ time ∧ time ≤ entry.2 ∧ source time key = entry.1

/-- The source had the value of an answer after the request was made, less the time an entry lives
and the time a store takes. -/
def Fresh (ttl latency : ℚ) (source : ℚ → κ → ν) (clock : ℚ) (key : κ) (asked : ℚ) (value : ν) :
    Prop :=
  ∃ time, asked - ttl - latency < time ∧ time ≤ clock ∧ source time key = value

/-- What a request knows. -/
inductive Sound (ttl latency : ℚ) (source : ℚ → κ → ν) (clock : ℚ) : ReadPhase κ ν → Prop
  | idle : Sound ttl latency source clock .idle
  | missed (key : κ) (asked : ℚ) (past : asked ≤ clock) :
      Sound ttl latency source clock (.missed key asked)
  | fetched (key : κ) (asked queried : ℚ) (later : asked ≤ queried) (past : queried ≤ clock) :
      Sound ttl latency source clock (.fetched key asked (source queried key) queried)
  | answered (key : κ) (asked : ℚ) (value : ν)
      (fresh : Fresh ttl latency source clock key asked value) :
      Sound ttl latency source clock (.answered key asked value)

/-- What holds of a cache at all times. -/
structure Coherent (ttl latency : ℚ) (source : ℚ → κ → ν) (s : ReadThrough ι κ ν) : Prop where
  cached : ∀ key entry, s.cache key = some entry →
    entry.2 ≤ s.clock ∧ Stored latency source key entry
  sound : ∀ i, Sound ttl latency source s.clock (s.request i)

omit [DecidableEq κ] in
theorem Sound.later {clock : ℚ} {phase : ReadPhase κ ν}
    (sound : Sound ttl latency source clock phase) (forward : clock ≤ now) :
    Sound ttl latency source now phase := by
  cases sound with
  | idle => exact .idle
  | missed key asked past => exact .missed key asked (past.trans forward)
  | fetched key asked queried later past => exact .fetched key asked queried later (past.trans forward)
  | answered key asked value fresh =>
      obtain ⟨time, after, before, had⟩ := fresh
      exact .answered key asked value ⟨time, after, before.trans forward, had⟩

omit [DecidableEq ι] [DecidableEq κ] in
/-- A look-up finds a fresh entry, or none. -/
theorem sound_lookUp (coherent : Coherent ttl latency source s) (forward : s.clock ≤ now)
    (key : κ) : Sound ttl latency source now (lookUp ttl now key (s.cache key)) := by
  cases found : s.cache key with
  | none => exact .missed key now le_rfl
  | some entry =>
      obtain ⟨value, recorded⟩ := entry
      rw [lookUp]
      split_ifs with fresh
      · obtain ⟨past, time, after, before, had⟩ := coherent.cached key _ found
        refine .answered key now value ⟨time, ?_, ?_, had⟩
        · simp only at after
          linarith
        · simp only at before past
          linarith
      · exact .missed key now le_rfl

omit [DecidableEq κ] in
/-- One request changes. -/
theorem Coherent.update (coherent : Coherent ttl latency source s) (forward : s.clock ≤ now)
    {i : ι} {phase : ReadPhase κ ν} (sound : Sound ttl latency source now phase) :
    Coherent ttl latency source
      { s with request := Function.update s.request i phase, clock := now } where
  cached := fun key entry found =>
    ⟨(coherent.cached key entry found).1.trans forward, (coherent.cached key entry found).2⟩
  sound := by
    intro j
    by_cases same : j = i
    · subst same
      simpa using sound
    · simpa [Function.update_of_ne same] using (coherent.sound j).later forward

omit [DecidableEq ι] [DecidableEq κ] in
theorem Coherent.wait (coherent : Coherent ttl latency source s) (forward : s.clock ≤ now) :
    Coherent ttl latency source { s with clock := now } where
  cached := fun key entry found =>
    ⟨(coherent.cached key entry found).1.trans forward, (coherent.cached key entry found).2⟩
  sound := fun i => (coherent.sound i).later forward

/-- A store that comes soon after its query. -/
theorem Coherent.store (coherent : Coherent ttl latency source s) (forward : s.clock ≤ now)
    (lives : 0 < ttl) {i : ι} {key : κ} {asked queried : ℚ} {value : ν}
    (fetched : s.request i = .fetched key asked value queried) (soon : now ≤ queried + latency) :
    Coherent ttl latency source
      { cache := Function.update s.cache key (some (value, now))
        request := Function.update s.request i (.answered key asked value)
        clock := now } := by
  have sound := coherent.sound i
  rw [fetched] at sound
  cases sound with
  | fetched key asked queried later past =>
      have answer : Fresh ttl latency source now key asked (source queried key) :=
        ⟨queried, by linarith, past.trans forward, rfl⟩
      refine ⟨fun other entry found => ?_, (coherent.update forward (.answered _ _ _ answer)).sound⟩
      by_cases same : other = key
      · subst same
        simp only [Function.update_self] at found
        obtain rfl := Option.some.inj found
        refine ⟨le_rfl, queried, ?_, past.trans forward, rfl⟩
        simp only
        linarith
      · simp only [Function.update_of_ne same] at found
        have earlier := coherent.cached other entry found
        exact ⟨earlier.1.trans forward, earlier.2⟩

theorem Coherent.step (coherent : Coherent ttl latency source s) (lives : 0 < ttl)
    {timed : TimedStep ι κ} (timely : Timely latency s timed) :
    Coherent ttl latency source (s.step ttl source timed) := by
  obtain ⟨move, now⟩ := timed
  obtain ⟨forward, soon⟩ := timely
  simp only at forward soon
  unfold ReadThrough.step
  cases move with
  | looks i key =>
      simp only [moves]
      split
      · exact coherent.wait forward
      · exact coherent.wait forward
      · exact coherent.update forward (sound_lookUp coherent forward key)
  | queries i =>
      simp only [moves]
      split
      next key asked missed =>
          have sound := coherent.sound i
          rw [missed] at sound
          cases sound with
          | missed key asked past =>
              exact coherent.update forward (.fetched key asked now (past.trans forward) le_rfl)
      next => exact coherent.wait forward
  | stores i =>
      simp only [moves]
      split
      next key asked value queried fetched =>
          exact coherent.store forward lives fetched
            (soon i rfl queried (by rw [fetched]; rfl))
      next => exact coherent.wait forward
  | fails i => exact coherent.update forward .idle

/-- Nothing is cached and no request has been made. -/
def empty (clock : ℚ) : ReadThrough ι κ ν := ⟨fun _ => none, fun _ => .idle, clock⟩

omit [DecidableEq ι] [DecidableEq κ] in
theorem coherent_empty (clock : ℚ) :
    Coherent ttl latency source (empty clock : ReadThrough ι κ ν) where
  cached := fun key entry found => by cases found
  sound := fun i => .idle

/-- However the requests interleave, an answer is fresh. -/
theorem run_fresh (lives : 0 < ttl) {clock : ℚ} {steps : List (TimedStep ι κ)}
    (timely : RunGuarded (Timely latency) (ReadThrough.step ttl source) (empty clock) steps) {i : ι}
    {key : κ} {asked : ℚ} {value : ν} :
    let after := run (ReadThrough.step ttl source) (empty clock) steps
    after.request i = .answered key asked value →
      Fresh ttl latency source after.clock key asked value := by
  intro after answered
  have coherent : Coherent ttl latency source after :=
    run_invariant (Coherent ttl latency source) (fun s timed kept => kept.step lives)
      (coherent_empty clock) timely
  have sound := coherent.sound i
  rw [answered] at sound
  cases sound with
  | answered key asked value fresh => exact fresh

/-- A source that has settled is answered right from then on, plus the time an entry lives and the
time a store takes. -/
theorem run_settled (lives : 0 < ttl) {clock : ℚ} {steps : List (TimedStep ι κ)}
    (timely : RunGuarded (Timely latency) (ReadThrough.step ttl source) (empty clock) steps) {i : ι}
    {key : κ} {asked since : ℚ} {value settled : ν}
    (stays : ∀ time, since ≤ time → source time key = settled)
    (late : since + ttl + latency ≤ asked)
    (answered : (run (ReadThrough.step ttl source) (empty clock) steps).request i =
      .answered key asked value) : value = settled := by
  obtain ⟨time, after, -, rfl⟩ := run_fresh lives timely answered
  exact stays time (by linarith)

/-- A change that comes just after a query is not seen until the entry of the query expires. -/
theorem exists_run_stale (lives : 0 < ttl) (i : ι) (key : κ) {old settled : ν}
    (differ : old ≠ settled) (takes : 0 ≤ latency) {since asked : ℚ}
    (tooEarly : asked < since + ttl + latency) :
    ∃ (source : ℚ → κ → ν) (clock : ℚ) (steps : List (TimedStep ι κ)) (value : ν),
      (∀ time, since ≤ time → source time key = settled) ∧
      RunGuarded (Timely latency) (ReadThrough.step ttl source) (empty clock) steps ∧
      (run (ReadThrough.step ttl source) (empty clock) steps).request i =
        .answered key asked value ∧ value ≠ settled := by
  -- the query comes before the change, so late that its entry has not expired
  obtain ⟨queried, before, soon, notExpired⟩ : ∃ queried : ℚ,
      queried < since ∧ queried ≤ asked ∧
        (queried = asked ∨ asked < queried + latency + ttl) := by
    obtain ⟨left, half⟩ : ∃ left : ℚ, left + left = since + ttl + latency - asked :=
      ⟨_, add_halves _⟩
    rcases le_total asked (since - left) with sooner | later
    · exact ⟨asked, by linarith, le_rfl, .inl rfl⟩
    · exact ⟨since - left, by linarith, later, .inr (by linarith)⟩
  have stored : queried ≤ min (queried + latency) asked := le_min (by linarith) soon
  have fresh : asked - min (queried + latency) asked < ttl := by
    rcases min_choice (queried + latency) asked with late | late <;> rw [late]
    · rcases notExpired with rfl | notExpired <;> linarith
    · simpa using lives
  refine ⟨fun time _ => if time < since then old else settled, queried,
    [⟨.looks i key, queried⟩, ⟨.queries i, queried⟩,
      ⟨.stores i, min (queried + latency) asked⟩, ⟨.looks i key, asked⟩], old, ?_, ?_, ?_, differ⟩
  · exact fun time late => if_neg (not_lt.mpr late)
  · simp only [RunGuarded, Timely, step, moves, empty, lookUp, ReadStep.storing,
      ReadPhase.queriedAt, Function.update_self]
    refine ⟨⟨le_rfl, by simp⟩, ⟨le_rfl, by simp⟩, ⟨stored, ?_⟩, ⟨min_le_right _ _, by simp⟩,
      trivial⟩
    intro j same time member
    obtain rfl := Option.some.inj same
    simp only [Function.update_self] at member
    rw [← Option.some.inj member]
    exact min_le_left _ _
  · simp only [run_cons, run_nil, step, moves, empty, lookUp, Function.update_self]
    rw [if_pos before, if_pos fresh]

end ReadThrough

end Scalper.Lib
