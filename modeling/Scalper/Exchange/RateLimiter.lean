import Mathlib.Algebra.Order.Ring.Rat
import Mathlib.Data.Rat.Defs
import Scalper.Lib.Rows
import Scalper.Lib.Run
import Scalper.Lib.TokenBucket

/-!
# The shared rate limiter

`packages/exchange/rate_limiter.py`: clients share a token bucket in a key-value store.  A client
reads the bucket and its revision, reads the clock, refills the bucket up to this time, and writes
it back with a token less.  It writes by compare-and-swap on the revision it read, and tries again
when that was overtaken; after three turns it lets the request pass and logs it.  A bucket that is
absent or malformed has no revision to compare: a full one is put in its place, whatever came
between.

`limiterStep` takes one step of any client, of the clock, or of what else can happen to the bucket:
it expires, or is corrupted.  Token counts and times are exact; an acquisition counts at the
reading of the clock at which its token was debited.

Compare-and-swap alone keeps the bound of a token bucket, and a put keeps it when the bucket would
be full anyway: `grants_bounded` is the bound for every run whose puts meet this
(`PutsWhenFull`).  `two_puts` is a run of two clients that both create the bucket.
-/

set_option autoImplicit false

namespace Scalper.Exchange

open Scalper.Lib

/-- `_MAX_CAS_RETRIES`. -/
def maxCasRetries : ℕ := 3

/-- The rate and the capacity of a bucket. -/
structure BucketParams where
  rate : ℚ
  capacity : ℚ
  rate_nonneg : 0 ≤ rate
  capacity_nonneg : 0 ≤ capacity

/-- What is stored: a state, a text that is not one and is taken for a fresh bucket, or one that
makes the reader raise. -/
inductive BucketValue where
  | tokens (tokens lastRefillAt : ℚ)
  | malformed
  | unreadable
  deriving DecidableEq

/-- What a turn of `_refill_and_debit` comes to. -/
inductive Turn where
  | raises
  | sleeps
  | writes (tokens : ℚ) (revision : Option ℕ)
  deriving DecidableEq

/-- The refill, and the debit where there is a token. -/
def refillAndDebit (params : BucketParams) (now tokens lastRefillAt : ℚ) (revision : Option ℕ) :
    Turn :=
  let tokens := min params.capacity (tokens + (now - lastRefillAt) * params.rate)
  if tokens < 1 then .sleeps else .writes (tokens - 1) revision

/-- A turn, from what `kv_get` returned and the clock. -/
def takeTurn (params : BucketParams) (now : ℚ) : Option (BucketValue × ℕ) → Turn
  | none => refillAndDebit params now params.capacity now none
  | some (.malformed, _) => refillAndDebit params now params.capacity now none
  | some (.tokens tokens lastRefillAt, revision) =>
      refillAndDebit params now tokens lastRefillAt (some revision)
  | some (.unreadable, _) => .raises

/-- Where a client is: between calls, before a turn, with a bucket it read, or about to write. -/
inductive Phase where
  | idle
  | turning (attempt : ℕ)
  | read (attempt : ℕ) (result : Option (BucketValue × ℕ))
  | writing (attempt : ℕ) (tokens now : ℚ) (revision : Option ℕ)
  deriving DecidableEq

/-- An acquisition: a token was debited, or the call was let pass and logged. -/
inductive Grant where
  | debited (now : ℚ)
  | failedOpen (now : ℚ)
  deriving DecidableEq

/-- The time of a debit. -/
def Grant.debit? : Grant → Option ℚ
  | .debited now => some now
  | .failedOpen _ => none

/-- The time of a logged fail-open. -/
def Grant.failOpen? : Grant → Option ℚ
  | .debited _ => none
  | .failedOpen now => some now

def Grant.time : Grant → ℚ
  | .debited now => now
  | .failedOpen now => now

/-- The bucket and its revision, the clients, the clock, and what was granted. -/
structure LimiterState (Client : Type) where
  stored : Option BucketValue
  revision : ℕ
  phases : Client → Phase
  clock : ℚ
  grants : List Grant

/-- The times of all debits. -/
def LimiterState.debits {Client : Type} (s : LimiterState Client) : List ℚ :=
  s.grants.filterMap Grant.debit?

/-- A step of the limiter. -/
inductive LimiterAction (Client : Type) where
  | ticks (now : ℚ)
  | calls (client : Client)
  | gets (client : Client)
  | turns (client : Client)
  | writes (client : Client) (arrives acknowledged : Bool)
  | raises (client : Client)
  | expires
  | corrupts (unreadable : Bool)

section Steps

variable {Client : Type} [DecidableEq Client]

/-- No bucket, and nobody calls. -/
def freshLimiter (clock : ℚ) : LimiterState Client := ⟨none, 0, fun _ => .idle, clock, []⟩

namespace LimiterState

variable (s : LimiterState Client) (client : Client)

def setPhase (phase : Phase) : LimiterState Client :=
  { s with phases := Function.update s.phases client phase }

/-- The bucket becomes another. -/
def store (value : Option BucketValue) : LimiterState Client :=
  { s with stored := value, revision := s.revision + 1 }

/-- `continue`: the next turn, or the end of the loop. -/
def nextTurn (attempt : ℕ) : LimiterState Client :=
  if attempt + 1 < maxCasRetries then s.setPhase client (.turning (attempt + 1))
  else { s.setPhase client .idle with grants := s.grants ++ [.failedOpen s.clock] }

/-- A request to write is accepted: a put always is, an update when nobody wrote since. -/
def accepts : Option ℕ → Bool
  | none => true
  | some revision => revision = s.revision

end LimiterState

/-- One step. -/
def limiterStep (params : BucketParams) :
    LimiterAction Client → LimiterState Client → LimiterState Client
  | .ticks now, s => { s with clock := max s.clock now }
  | .calls client, s =>
      match s.phases client with
      | .idle => s.setPhase client (.turning 0)
      | _ => s
  | .gets client, s =>
      match s.phases client with
      | .turning attempt =>
          s.setPhase client (.read attempt (s.stored.map fun value => (value, s.revision)))
      | _ => s
  | .turns client, s =>
      match s.phases client with
      | .read attempt result =>
          match takeTurn params s.clock result with
          | .raises => s.setPhase client .idle
          | .sleeps => s.nextTurn client attempt
          | .writes tokens revision =>
              s.setPhase client (.writing attempt tokens s.clock revision)
      | _ => s
  | .writes client arrives acknowledged, s =>
      match s.phases client with
      | .writing attempt tokens now revision =>
          if arrives && s.accepts revision then
            let written := s.store (some (.tokens tokens now))
            if acknowledged then
              { written.setPhase client .idle with grants := s.grants ++ [.debited now] }
            else written.nextTurn client attempt
          else s.nextTurn client attempt
      | _ => s
  | .raises client, s => s.setPhase client .idle
  | .expires, s => s.store none
  | .corrupts unreadable, s =>
      s.store (some (if unreadable then .unreadable else .malformed))

/-- A put is only made when a bucket that took all earlier debits is full again at its reading of
the clock. -/
def PutsWhenFull (params : BucketParams) (s : LimiterState Client) : LimiterAction Client → Prop
  | .writes client arrives _ =>
      ∀ attempt tokens now, s.phases client = .writing attempt tokens now none →
        arrives = true → (∀ time ∈ s.debits, time ≤ now) ∧
          Holds params.capacity params.rate s.debits now params.capacity
  | _ => True

end Steps

/-! ## What is kept -/

section Kept

variable {Client : Type}

/-- At a time no earlier than any debit, a bucket that took all of them still holds a level. -/
def Fits (params : BucketParams) (s : LimiterState Client) (now level : ℚ) : Prop :=
  (∀ time ∈ s.debits, time ≤ now) ∧ Holds params.capacity params.rate s.debits now level

/-- The debits conform; what is stored is never more than what a bucket that took them all would
hold; and neither is what a client may still write by compare-and-swap. -/
structure LimiterOk (params : BucketParams) (s : LimiterState Client) : Prop where
  conforms : Conforms params.capacity params.rate s.debits
  past : ∀ time ∈ s.debits, time ≤ s.clock
  stored : ∀ tokens lastRefillAt, s.stored = some (.tokens tokens lastRefillAt) →
    lastRefillAt ≤ s.clock ∧ Fits params s lastRefillAt tokens
  read : ∀ client attempt value revision,
    s.phases client = .read attempt (some (value, revision)) →
      revision ≤ s.revision ∧ (revision = s.revision → s.stored = some value)
  writing : ∀ client attempt tokens now revision,
    s.phases client = .writing attempt tokens now revision →
      now ≤ s.clock ∧ 0 ≤ tokens ∧ tokens + 1 ≤ params.capacity ∧
        ∀ read ∈ revision, read ≤ s.revision ∧
          (read = s.revision → Fits params s now (tokens + 1))

variable {params : BucketParams} {s : LimiterState Client} {client : Client}

theorem refillAndDebit_writes {now tokens lastRefillAt left : ℚ} {revision written : Option ℕ}
    (turn : refillAndDebit params now tokens lastRefillAt revision = .writes left written) :
    written = revision ∧ 0 ≤ left ∧
      left + 1 = min params.capacity (tokens + (now - lastRefillAt) * params.rate) := by
  unfold refillAndDebit at turn
  dsimp only at turn
  split_ifs at turn with empty
  obtain ⟨rfl, rfl⟩ := Turn.writes.inj turn
  exact ⟨rfl, sub_nonneg.mpr (not_lt.mp empty), sub_add_cancel _ _⟩

/-- What a client is about to write after its turn. -/
theorem LimiterOk.writes_of_takeTurn (ok : LimiterOk params s) {attempt : ℕ}
    {result : Option (BucketValue × ℕ)} (holds : s.phases client = .read attempt result)
    {left : ℚ} {written : Option ℕ}
    (turn : takeTurn params s.clock result = .writes left written) :
    0 ≤ left ∧ left + 1 ≤ params.capacity ∧ ∀ read ∈ written, read ≤ s.revision ∧
      (read = s.revision → Fits params s s.clock (left + 1)) := by
  cases result with
  | none =>
      obtain ⟨rfl, nonneg, debited⟩ := refillAndDebit_writes turn
      exact ⟨nonneg, debited.trans_le (min_le_left _ _), fun _ found => by cases found⟩
  | some found =>
      obtain ⟨value, revision⟩ := found
      cases value with
      | unreadable => cases turn
      | malformed =>
          obtain ⟨rfl, nonneg, debited⟩ := refillAndDebit_writes turn
          exact ⟨nonneg, debited.trans_le (min_le_left _ _), fun _ found => by cases found⟩
      | tokens tokens lastRefillAt =>
          obtain ⟨rfl, nonneg, debited⟩ := refillAndDebit_writes turn
          refine ⟨nonneg, debited.trans_le (min_le_left _ _), ?_⟩
          rintro _ ⟨⟩
          obtain ⟨known, current⟩ := ok.read client attempt _ revision holds
          refine ⟨known, fun same => ?_⟩
          obtain ⟨before, past, level⟩ := ok.stored tokens lastRefillAt (current same)
          rw [Fits, debited]
          exact ⟨fun time taken => (past time taken).trans before,
            level.refill params.rate_nonneg past before⟩

/-- Only debits count. -/
theorem LimiterOk.failedOpen (ok : LimiterOk params s) (now : ℚ) :
    LimiterOk params { s with grants := s.grants ++ [.failedOpen now] } := by
  have same : ({ s with grants := s.grants ++ [.failedOpen now] } : LimiterState Client).debits =
      s.debits := by
    simp [LimiterState.debits, List.filterMap_append, Grant.debit?]
  refine ⟨?_, ?_, ?_, ok.read, ?_⟩
  · rw [same]
    exact ok.conforms
  · rw [same]
    exact ok.past
  · simp only [Fits, same]
    exact ok.stored
  · simp only [Fits, same]
    exact ok.writing

/-- A revision read before a write is no longer the current one. -/
theorem overtaken_of_le {read revision : ℕ} (known : read ≤ revision) {current : Prop} :
    read ≤ revision + 1 ∧ (read = revision + 1 → current) :=
  ⟨Nat.le_succ_of_le known, fun same => absurd same (Nat.lt_succ_of_le known).ne⟩

/-- Whoever read the bucket before it was written is overtaken. -/
theorem LimiterOk.store (ok : LimiterOk params s) {value : Option BucketValue}
    (stored : ∀ tokens lastRefillAt, value = some (.tokens tokens lastRefillAt) →
      lastRefillAt ≤ s.clock ∧ Fits params s lastRefillAt tokens) :
    LimiterOk params (s.store value) where
  conforms := ok.conforms
  past := ok.past
  stored := stored
  read := fun other attempt value revision holds =>
    overtaken_of_le (ok.read other attempt value revision holds).1
  writing := by
    intro other attempt tokens now revision holds
    obtain ⟨past, nonneg, fits, known⟩ := ok.writing other attempt tokens now revision holds
    exact ⟨past, nonneg, fits, fun read found => overtaken_of_le (known read found).1⟩

/-- A debit is written and acknowledged. -/
theorem LimiterOk.debited (ok : LimiterOk params s) {tokens now : ℚ} (past : now ≤ s.clock)
    (nonneg : 0 ≤ tokens) (fits : Fits params s now (tokens + 1)) :
    LimiterOk params
      { s.store (some (.tokens tokens now)) with grants := s.grants ++ [.debited now] } := by
  have debits : ({ s.store (some (.tokens tokens now)) with
      grants := s.grants ++ [.debited now] } : LimiterState Client).debits = s.debits ++ [now] := by
    simp [LimiterState.debits, List.filterMap_append, Grant.debit?]
  have upTo : ∀ time ∈ s.debits ++ [now], time ≤ now := by
    intro time taken
    rcases List.mem_append.mp taken with before | here
    · exact fits.1 time before
    · exact (List.mem_singleton.mp here).le
  refine ⟨?_, ?_, ?_, ?_, ?_⟩
  · rw [debits]
    exact ok.conforms.take fits.2 nonneg params.rate_nonneg fits.1
  · rw [debits]
    exact fun time taken => (upTo time taken).trans past
  · rintro _ _ ⟨⟩
    rw [Fits, debits]
    exact ⟨past, upTo, fits.2.take⟩
  · exact fun other attempt value revision holds =>
      overtaken_of_le (ok.read other attempt value revision holds).1
  · intro other attempt left time revision holds
    obtain ⟨before, nonneg, capacity, known⟩ := ok.writing other attempt left time revision holds
    exact ⟨before, nonneg, capacity, fun read found => overtaken_of_le (known read found).1⟩

theorem limiterOk_fresh (params : BucketParams) (clock : ℚ) :
    LimiterOk params (freshLimiter clock : LimiterState Client) where
  conforms := Conforms.nil params.capacity_nonneg params.rate_nonneg
  past := fun _ taken => absurd taken List.not_mem_nil
  stored := fun _ _ same => by cases same
  read := fun _ _ _ _ same => by cases same
  writing := fun _ _ _ _ _ same => by cases same

end Kept

/-! ## Every step -/

section Clients

variable {Client : Type} [DecidableEq Client] {params : BucketParams} {s : LimiterState Client}

/-- A client moves on. -/
theorem LimiterOk.setPhase (ok : LimiterOk params s) (client : Client) {phase : Phase}
    (read : ∀ attempt value revision, phase = .read attempt (some (value, revision)) →
      revision = s.revision ∧ s.stored = some value)
    (writing : ∀ attempt tokens now revision, phase = .writing attempt tokens now revision →
      now ≤ s.clock ∧ 0 ≤ tokens ∧ tokens + 1 ≤ params.capacity ∧
        ∀ read ∈ revision, read ≤ s.revision ∧
          (read = s.revision → Fits params s now (tokens + 1))) :
    LimiterOk params (s.setPhase client phase) where
  conforms := ok.conforms
  past := ok.past
  stored := ok.stored
  read := by
    intro other attempt value revision holds
    by_cases same : other = client
    · subst same
      have here : phase = .read attempt (some (value, revision)) := by
        simpa [LimiterState.setPhase] using holds
      obtain ⟨current, found⟩ := read attempt value revision here
      exact ⟨current.le, fun _ => found⟩
    · exact ok.read other attempt value revision (by
        simpa [LimiterState.setPhase, same] using holds)
  writing := by
    intro other attempt tokens now revision holds
    by_cases same : other = client
    · subst same
      exact writing attempt tokens now revision (by
        simpa [LimiterState.setPhase] using holds)
    · exact ok.writing other attempt tokens now revision (by
        simpa [LimiterState.setPhase, same] using holds)

theorem LimiterOk.rest (ok : LimiterOk params s) (client : Client) :
    LimiterOk params (s.setPhase client .idle) :=
  ok.setPhase client (fun _ _ _ same => by cases same) (fun _ _ _ _ same => by cases same)

theorem LimiterOk.nextTurn (ok : LimiterOk params s) (client : Client) (attempt : ℕ) :
    LimiterOk params (s.nextTurn client attempt) := by
  unfold LimiterState.nextTurn
  split
  · exact ok.setPhase client (fun _ _ _ same => by cases same) (fun _ _ _ _ same => by cases same)
  · exact (ok.rest client).failedOpen s.clock

/-- A write that the store accepts debits a bucket that was as the client read it. -/
theorem LimiterOk.writes (ok : LimiterOk params s) {client : Client} {attempt : ℕ} {tokens now : ℚ}
    {revision : Option ℕ} {arrives acknowledged : Bool}
    (phase : s.phases client = .writing attempt tokens now revision)
    (guarded : PutsWhenFull params s (.writes client arrives acknowledged)) :
    LimiterOk params (limiterStep params (.writes client arrives acknowledged) s) := by
  obtain ⟨past, nonneg, capacity, known⟩ := ok.writing client attempt tokens now revision phase
  simp only [Exchange.limiterStep, phase]
  split
  · next accepted =>
      rw [Bool.and_eq_true] at accepted
      have fits : Fits params s now (tokens + 1) := by
        cases revision with
        | none =>
            obtain ⟨upTo, full⟩ := guarded attempt tokens now phase accepted.1
            exact ⟨upTo, full.mono capacity⟩
        | some read => exact (known read rfl).2 (of_decide_eq_true accepted.2)
      split
      · exact (ok.debited past nonneg fits).rest client
      · refine LimiterOk.nextTurn (ok.store ?_) client attempt
        rintro _ _ ⟨⟩
        exact ⟨past, fits.1, fits.2.mono (le_add_of_nonneg_right zero_le_one)⟩
  · exact ok.nextTurn client attempt

/-- Every step whose puts find the bucket full keeps what holds. -/
theorem LimiterOk.limiterStep (ok : LimiterOk params s) (action : LimiterAction Client)
    (guarded : PutsWhenFull params s action) :
    LimiterOk params (limiterStep params action s) := by
  cases action with
  | ticks now =>
      refine ⟨ok.conforms, fun time taken => (ok.past time taken).trans (le_max_left _ _),
        fun tokens last stored => ?_, ok.read, fun client attempt tokens time revision holds => ?_⟩
      · exact ⟨(ok.stored tokens last stored).1.trans (le_max_left _ _),
          (ok.stored tokens last stored).2⟩
      · exact ⟨(ok.writing client attempt tokens time revision holds).1.trans (le_max_left _ _),
          (ok.writing client attempt tokens time revision holds).2⟩
  | calls client =>
      cases phase : s.phases client with
      | idle =>
          simp only [Exchange.limiterStep, phase]
          exact ok.setPhase client (fun _ _ _ same => by cases same)
            (fun _ _ _ _ same => by cases same)
      | turning | read | writing => simpa only [Exchange.limiterStep, phase] using ok
  | gets client =>
      cases phase : s.phases client with
      | turning attempt =>
          simp only [Exchange.limiterStep, phase]
          refine ok.setPhase client (fun _ value revision same => ?_)
            (fun _ _ _ _ same => by cases same)
          obtain ⟨found, stored, same⟩ := Option.map_eq_some_iff.mp (Phase.read.inj same).2
          obtain ⟨rfl, rfl⟩ := Prod.mk.inj same
          exact ⟨rfl, stored⟩
      | idle | read | writing => simpa only [Exchange.limiterStep, phase] using ok
  | turns client =>
      cases phase : s.phases client with
      | read attempt result =>
          cases turn : takeTurn params s.clock result with
          | raises =>
              simp only [Exchange.limiterStep, phase, turn]
              exact ok.rest client
          | sleeps =>
              simp only [Exchange.limiterStep, phase, turn]
              exact ok.nextTurn client attempt
          | writes tokens revision =>
              simp only [Exchange.limiterStep, phase, turn]
              refine ok.setPhase client (fun _ _ _ same => by cases same) ?_
              rintro _ _ _ _ ⟨⟩
              exact ⟨le_rfl, ok.writes_of_takeTurn phase turn⟩
      | idle | turning | writing => simpa only [Exchange.limiterStep, phase] using ok
  | writes client arrives acknowledged =>
      cases phase : s.phases client with
      | writing attempt tokens now revision => exact ok.writes phase guarded
      | idle | turning | read => simpa only [Exchange.limiterStep, phase] using ok
  | raises client => exact ok.rest client
  | expires => exact ok.store fun _ _ same => by cases same
  | corrupts unreadable =>
      refine ok.store fun _ _ same => ?_
      cases unreadable <;> cases same

end Clients

/-! ## The bound -/

/-- Every acquisition is a debit or a fail-open. -/
theorem countIn_time (grants : List Grant) (first last : ℚ) :
    countIn (grants.map Grant.time) first last =
      countIn (grants.filterMap Grant.debit?) first last +
        countIn (grants.filterMap Grant.failOpen?) first last := by
  induction grants using List.reverseRecOn with
  | nil => rfl
  | append_singleton grants grant ih =>
      cases grant with
      | debited now =>
          simp only [List.map_append, List.map_singleton, List.filterMap_append,
            List.filterMap_cons, Grant.debit?, Grant.failOpen?, Grant.time, List.filterMap_nil,
            List.append_nil, countIn_concat, ih]
          omega
      | failedOpen now =>
          simp only [List.map_append, List.map_singleton, List.filterMap_append,
            List.filterMap_cons, Grant.debit?, Grant.failOpen?, Grant.time, List.filterMap_nil,
            List.append_nil, countIn_concat, ih]
          omega

/-- **The shared limit.**  In every run whose puts find the bucket full, any interval has at most as
many acquisitions as the bucket holds and is refilled with, and as were logged as fail-opens. -/
theorem grants_bounded {Client : Type} [DecidableEq Client] (params : BucketParams) (clock : ℚ)
    (actions : List (LimiterAction Client))
    (guarded : RunGuarded (PutsWhenFull params) (limiterStep params) (freshLimiter clock) actions)
    (first last : ℚ) (le : first ≤ last) :
    let s := run (limiterStep params) (freshLimiter clock) actions
    (countIn (s.grants.map Grant.time) first last : ℚ) ≤
      params.capacity + params.rate * (last - first) +
        countIn (s.grants.filterMap Grant.failOpen?) first last := by
  intro s
  have ok : LimiterOk params s :=
    run_invariant (LimiterOk params) (fun _ action ok keeps => ok.limiterStep action keeps)
      (limiterOk_fresh params clock) guarded
  have debits : (countIn s.debits first last : ℚ) ≤
      params.capacity + params.rate * (last - first) := ok.conforms first last le
  rw [countIn_time]
  push_cast
  exact add_le_add_left debits _

/-! ## Buckets of two tokens and of one -/

section Puts

variable {Client : Type} {params : BucketParams} {s : LimiterState Client}

/-- The first put finds the bucket full. -/
theorem putsWhenFull_of_nil (untouched : s.debits = []) {action : LimiterAction Client} :
    PutsWhenFull params s action := by
  cases action with
  | writes client arrives acknowledged =>
      intro attempt tokens now _ _
      rw [untouched]
      exact ⟨fun _ taken => absurd taken List.not_mem_nil, Holds.full params.rate_nonneg now⟩
  | _ => trivial

/-- An update is no put. -/
theorem putsWhenFull_update {client : Client} {attempt read : ℕ} {tokens now : ℚ}
    (phase : s.phases client = .writing attempt tokens now (some read))
    {arrives acknowledged : Bool} :
    PutsWhenFull params s (.writes client arrives acknowledged) := by
  intro _ _ _ put
  rw [phase] at put
  cases put

end Puts

def twoTokens : BucketParams where
  rate := 1
  capacity := 2
  rate_nonneg := zero_le_one
  capacity_nonneg := zero_le_two

/-- One client creates the bucket, and the other takes the second token. -/
def createdOnce : List (LimiterAction Bool) :=
  [.calls true, .gets true, .turns true, .writes true true true,
    .calls false, .gets false, .turns false, .writes false true true]

theorem grants_bounded_createdOnce :
    let s := run (limiterStep twoTokens) (freshLimiter 0) createdOnce
    countIn (s.grants.map Grant.time) 0 0 = 2 ∧
      (countIn (s.grants.map Grant.time) 0 0 : ℚ) ≤
        2 + 1 * (0 - 0) + countIn (s.grants.filterMap Grant.failOpen?) 0 0 := by
  refine ⟨by decide +kernel, grants_bounded twoTokens 0 createdOnce ?_ 0 0 le_rfl⟩
  refine ⟨trivial, trivial, trivial, ?_, trivial, trivial, trivial, ?_, trivial⟩
  · exact putsWhenFull_of_nil (by decide +kernel)
  · have reads : (run (limiterStep twoTokens) (freshLimiter 0) (createdOnce.take 7)).phases false =
        .writing 0 0 0 (some 1) := by decide +kernel
    exact putsWhenFull_update reads

def oneToken : BucketParams where
  rate := 1
  capacity := 1
  rate_nonneg := zero_le_one
  capacity_nonneg := zero_le_one

/-- Both clients find no bucket, and both create it. -/
def createdTwice : List (LimiterAction Bool) :=
  [.calls true, .calls false, .gets true, .gets false, .turns true, .turns false,
    .writes true true true, .writes false true true]

/-- Two acquisitions at one time, from a bucket of one token. -/
theorem two_puts :
    let s := run (limiterStep oneToken) (freshLimiter 0) createdTwice
    s.grants = [.debited 0, .debited 0] ∧
      ¬ (countIn (s.grants.map Grant.time) 0 0 : ℚ) ≤
        oneToken.capacity + oneToken.rate * (0 - 0) +
          countIn (s.grants.filterMap Grant.failOpen?) 0 0 := by
  decide +kernel

end Scalper.Exchange
