import Scalper.Exchange.RateLimiter

/-!
# When the rate limiter fails open

`_refill_and_debit` gives up after three turns and lets the request pass.  The documentation speaks
of three conflicts, but a turn that found less than a token and slept is a turn as well, the last
one included, and so is one whose request to write was lost.

`followStep` keeps, beside the state of the limiter, how the turns of every call ended.  A call that
fails open had exactly three turns (`Follows`).  So it met three conflicts exactly when it never
slept and lost no request (`failsOpen_iff`).  In `neverConflicts` a client sleeps three times, while
another one takes every token that comes, and fails open without having written at all.
-/

set_option autoImplicit false

namespace Scalper.Exchange

open Scalper.Lib

/-- How a turn ends that is followed by another one, or by the fail-open: there was no token; the
request to write did not arrive; the bucket had been written since it was read; the write was made,
and its answer lost. -/
inductive TurnEnd where
  | slept
  | lost
  | conflict
  | unacknowledged
  deriving DecidableEq

/-- The attempt a client is at. -/
def Phase.attempt? : Phase → Option ℕ
  | .idle => none
  | .turning attempt => some attempt
  | .read attempt _ => some attempt
  | .writing attempt _ _ _ => some attempt

/-- The limiter, how the turns of every client's call ended so far, and the turns of the calls that
failed open. -/
structure Followed (Client : Type) where
  limiter : LimiterState Client
  turns : Client → List TurnEnd
  failedOpen : List (List TurnEnd)

section Steps

variable {Client : Type} [DecidableEq Client]

/-- The turn a step ends, unless it debits or raises. -/
def turnEnd? (params : BucketParams) (s : LimiterState Client) :
    LimiterAction Client → Option (Client × TurnEnd)
  | .turns client =>
      match s.phases client with
      | .read _ result =>
          if takeTurn params s.clock result = .sleeps then some (client, .slept) else none
      | _ => none
  | .writes client arrives acknowledged =>
      match s.phases client with
      | .writing _ _ _ revision =>
          if arrives = false then some (client, .lost)
          else if s.accepts revision = false then some (client, .conflict)
          else if acknowledged then none
          else some (client, .unacknowledged)
      | _ => none
  | _ => none

namespace Followed

variable (f : Followed Client)

/-- The turns of a call begin with it. -/
def begin (action : LimiterAction Client) : Client → List TurnEnd :=
  match action with
  | .calls client =>
      if f.limiter.phases client = .idle then Function.update f.turns client [] else f.turns
  | _ => f.turns

/-- A turn of `client` ended; if the call is over with it, it failed open. -/
def endTurn (limiter : LimiterState Client) (client : Client) (turnEnd : TurnEnd) :
    Followed Client where
  limiter := limiter
  turns := Function.update f.turns client (f.turns client ++ [turnEnd])
  failedOpen :=
    if limiter.phases client = .idle then f.failedOpen ++ [f.turns client ++ [turnEnd]]
    else f.failedOpen

end Followed

/-- One step of the limiter, followed. -/
def followStep (params : BucketParams) (action : LimiterAction Client) (f : Followed Client) :
    Followed Client :=
  let limiter := limiterStep params action f.limiter
  match turnEnd? params f.limiter action with
  | some (client, turnEnd) => f.endTurn limiter client turnEnd
  | none => { f with limiter := limiter, turns := f.begin action }

/-- A bucket in any state, and nobody calls. -/
def bucketAt (stored : Option BucketValue) (revision : ℕ) (clock : ℚ) : LimiterState Client :=
  ⟨stored, revision, fun _ => .idle, clock, []⟩

def follow (limiter : LimiterState Client) : Followed Client := ⟨limiter, fun _ => [], []⟩

end Steps

/-! ## Turns are counted -/

/-- The turns of a call are as many as the attempt says, and those of a failed-open call are all. -/
structure Follows {Client : Type} (f : Followed Client) : Prop where
  counted : ∀ client, ∀ attempt ∈ (f.limiter.phases client).attempt?,
    (f.turns client).length = attempt ∧ attempt < maxCasRetries
  full : ∀ call ∈ f.failedOpen, call.length = maxCasRetries
  logged : f.failedOpen.length = (f.limiter.grants.filterMap Grant.failOpen?).length

section Counting

variable {Client : Type} [DecidableEq Client] {params : BucketParams}
  {s : LimiterState Client} {action : LimiterAction Client} {client : Client}

/-- Where a client may be after a step that ends no turn: it does not call any more, it is at the
attempt it was at, or its call begins. -/
def StaysAt (action : LimiterAction Client) (before after : Phase) (client : Client) : Prop :=
  after.attempt? = none ∨ after.attempt? = before.attempt? ∨
    action = .calls client ∧ before = .idle ∧ after = .turning 0

omit [DecidableEq Client] in
theorem StaysAt.refl (phase : Phase) (client : Client) : StaysAt action phase phase client :=
  .inr (.inl rfl)

/-- A client in a phase with the same attempt, and the others as they were. -/
theorem staysAt_setPhase {phase : Phase} (kept : phase.attempt? = none ∨
    phase.attempt? = (s.phases client).attempt?) (other : Client) :
    StaysAt action (s.phases other) ((s.setPhase client phase).phases other) other := by
  by_cases same : other = client
  · subst same
    simp only [LimiterState.setPhase, Function.update_self]
    exact kept.imp_right Or.inl
  · simp only [LimiterState.setPhase, Function.update_of_ne same]
    exact .refl _ _

/-- A step that ends no turn lets nobody pass, and takes no client to another attempt. -/
theorem limiterStep_of_none (ends : turnEnd? params s action = none) :
    (limiterStep params action s).grants.filterMap Grant.failOpen? =
        s.grants.filterMap Grant.failOpen? ∧
      ∀ other, StaysAt action (s.phases other)
        ((limiterStep params action s).phases other) other := by
  cases action with
  | ticks now => exact ⟨rfl, fun other => .refl _ _⟩
  | expires => exact ⟨rfl, fun other => .refl _ _⟩
  | corrupts unreadable => exact ⟨rfl, fun other => .refl _ _⟩
  | raises client => exact ⟨rfl, staysAt_setPhase (.inl rfl)⟩
  | calls client =>
      cases phase : s.phases client with
      | idle =>
          simp only [limiterStep, phase]
          refine ⟨rfl, fun other => ?_⟩
          by_cases same : other = client
          · subst same
            exact .inr (.inr ⟨rfl, phase, by simp [LimiterState.setPhase]⟩)
          · simp only [LimiterState.setPhase, Function.update_of_ne same]
            exact .refl _ _
      | _ =>
          simp only [limiterStep, phase]
          exact ⟨trivial, fun other => .refl _ _⟩
  | gets client =>
      cases phase : s.phases client with
      | turning attempt =>
          simp only [limiterStep, phase]
          exact ⟨rfl, staysAt_setPhase (.inr (by rw [phase]; rfl))⟩
      | _ =>
          simp only [limiterStep, phase]
          exact ⟨trivial, fun other => .refl _ _⟩
  | turns client =>
      cases phase : s.phases client with
      | read attempt result =>
          cases turn : takeTurn params s.clock result with
          | raises =>
              simp only [limiterStep, phase, turn]
              exact ⟨rfl, staysAt_setPhase (.inl rfl)⟩
          | sleeps => simp [turnEnd?, phase, turn] at ends
          | writes tokens revision =>
              simp only [limiterStep, phase, turn]
              exact ⟨rfl, staysAt_setPhase (.inr (by rw [phase]; rfl))⟩
      | _ =>
          simp only [limiterStep, phase]
          exact ⟨trivial, fun other => .refl _ _⟩
  | writes client arrives acknowledged =>
      cases phase : s.phases client with
      | writing attempt tokens now revision =>
          simp only [turnEnd?, phase] at ends
          split_ifs at ends with lost conflict answered
          rw [Bool.not_eq_false] at lost conflict
          simp only [limiterStep, phase, lost, conflict, answered, Bool.and_self, if_true]
          refine ⟨?_, staysAt_setPhase (s := s.store _) (.inl rfl)⟩
          rw [List.filterMap_append]
          exact List.append_nil _
      | _ =>
          simp only [limiterStep, phase]
          exact ⟨trivial, fun other => .refl _ _⟩

/-- A step that ends a turn goes on to the next one. -/
theorem limiterStep_of_some {turnEnd : TurnEnd}
    (ends : turnEnd? params s action = some (client, turnEnd)) :
    ∃ (attempt : ℕ) (before : LimiterState Client), attempt ∈ (s.phases client).attempt? ∧
      before.phases = s.phases ∧ before.grants = s.grants ∧
      limiterStep params action s = before.nextTurn client attempt := by
  cases action with
  | turns other =>
      cases phase : s.phases other with
      | read attempt result =>
          simp only [turnEnd?, phase, Option.ite_none_right_eq_some, Option.some_inj,
            Prod.mk.injEq] at ends
          obtain ⟨sleeps, rfl, -⟩ := ends
          refine ⟨attempt, s, by rw [phase]; rfl, rfl, rfl, ?_⟩
          simp only [limiterStep, phase, sleeps]
      | _ => simp [turnEnd?, phase] at ends
  | writes other arrives acknowledged =>
      cases phase : s.phases other with
      | writing attempt tokens now revision =>
          simp only [turnEnd?, phase] at ends
          split_ifs at ends with lost conflict answered
          · obtain ⟨rfl, -⟩ := Prod.mk.inj (Option.some.inj ends)
            refine ⟨attempt, s, by rw [phase]; rfl, rfl, rfl, ?_⟩
            simp [limiterStep, phase, lost]
          · obtain ⟨rfl, -⟩ := Prod.mk.inj (Option.some.inj ends)
            refine ⟨attempt, s, by rw [phase]; rfl, rfl, rfl, ?_⟩
            simp [limiterStep, phase, conflict]
          · obtain ⟨rfl, -⟩ := Prod.mk.inj (Option.some.inj ends)
            rw [Bool.not_eq_false] at lost conflict
            refine ⟨attempt, s.store (some (.tokens tokens now)), by rw [phase]; rfl, rfl, rfl, ?_⟩
            simp [limiterStep, phase, lost, conflict, answered]
      | _ => simp [turnEnd?, phase] at ends
  | _ => simp [turnEnd?] at ends

variable {f : Followed Client}

omit [DecidableEq Client] in
theorem follows_follow (stored : Option BucketValue) (revision : ℕ) (clock : ℚ) :
    Follows (follow (bucketAt stored revision clock : LimiterState Client)) where
  counted := by simp [follow, bucketAt, Phase.attempt?]
  full := by simp [follow]
  logged := rfl

/-- A call that begins has no turns, and the others keep theirs. -/
theorem Follows.quiet (follows : Follows f) (ends : turnEnd? params f.limiter action = none) :
    Follows { f with limiter := limiterStep params action f.limiter, turns := f.begin action } := by
  obtain ⟨passed, stays⟩ := limiterStep_of_none ends
  refine ⟨fun other attempt standing => ?_, follows.full, follows.logged.trans (passed ▸ rfl)⟩
  obtain absent | same | ⟨rfl, idle, called⟩ := stays other
  · rw [absent] at standing
    cases standing
  · rw [same] at standing
    have kept : f.begin action other = f.turns other := by
      cases action with
      | calls client =>
          dsimp only [Followed.begin]
          split_ifs with idle
          · have others : other ≠ client := by
              rintro rfl
              rw [idle] at standing
              cases standing
            rw [Function.update_of_ne others]
          · rfl
      | _ => rfl
    dsimp only
    rw [kept]
    exact follows.counted other attempt standing
  · rw [called] at standing
    obtain rfl := Option.some.inj standing
    simp [Followed.begin, idle, maxCasRetries]

/-- The other clients are at the attempts they were at. -/
theorem Follows.others (follows : Follows f) {before : LimiterState Client}
    (phases : before.phases = f.limiter.phases) (turnEnd : TurnEnd) (phase : Phase)
    {other : Client} (different : other ≠ client) :
    ∀ attempt ∈ ((before.setPhase client phase).phases other).attempt?,
      (Function.update f.turns client (f.turns client ++ [turnEnd]) other).length = attempt ∧
        attempt < maxCasRetries := by
  intro attempt standing
  simp only [LimiterState.setPhase, Function.update_of_ne different, phases] at standing ⊢
  exact follows.counted other attempt standing

/-- A turn more. -/
theorem Follows.goesOn (follows : Follows f) {attempt : ℕ} {before : LimiterState Client}
    (length : (f.turns client).length = attempt) (more : attempt + 1 < maxCasRetries)
    (phases : before.phases = f.limiter.phases) (grants : before.grants = f.limiter.grants)
    (turnEnd : TurnEnd) :
    Follows (f.endTurn (before.nextTurn client attempt) client turnEnd) := by
  have next : before.nextTurn client attempt = before.setPhase client (.turning (attempt + 1)) :=
    if_pos more
  have calling : ¬ (before.setPhase client (.turning (attempt + 1))).phases client = .idle := by
    simp [LimiterState.setPhase]
  rw [next, Followed.endTurn, if_neg calling]
  refine ⟨fun other found standing => ?_, follows.full, ?_⟩
  · by_cases same : other = client
    · subst same
      simp only [LimiterState.setPhase, Function.update_self] at standing ⊢
      obtain rfl := Option.some.inj standing
      exact ⟨by rw [List.length_append, length, List.length_singleton], more⟩
    · exact follows.others phases turnEnd _ same found standing
  · exact follows.logged.trans (by rw [LimiterState.setPhase, grants])

/-- The last turn: the call fails open. -/
theorem Follows.failsOpen (follows : Follows f) {attempt : ℕ} {before : LimiterState Client}
    (length : (f.turns client).length = attempt) (bound : attempt < maxCasRetries)
    (last : ¬ attempt + 1 < maxCasRetries) (phases : before.phases = f.limiter.phases)
    (grants : before.grants = f.limiter.grants) (turnEnd : TurnEnd) :
    Follows (f.endTurn (before.nextTurn client attempt) client turnEnd) := by
  have next : before.nextTurn client attempt =
      { before.setPhase client .idle with
        grants := before.grants ++ [.failedOpen before.clock] } := if_neg last
  have isIdle : (before.setPhase client .idle).phases client = .idle := by
    simp [LimiterState.setPhase]
  rw [next, Followed.endTurn]
  dsimp only
  rw [if_pos isIdle]
  refine ⟨fun other found standing => ?_, fun call member => ?_, ?_⟩
  · by_cases same : other = client
    · subst same
      rw [isIdle] at standing
      cases standing
    · exact follows.others phases turnEnd _ same found standing
  · obtain earlier | here := List.mem_append.mp member
    · exact follows.full call earlier
    · rw [List.mem_singleton.mp here, List.length_append, length, List.length_singleton]
      omega
  · dsimp only
    rw [List.length_append, follows.logged, grants, List.filterMap_append, List.length_append]
    rfl

/-- A turn more, or the last one. -/
theorem Follows.endTurn (follows : Follows f) {attempt : ℕ} {before : LimiterState Client}
    (standing : attempt ∈ (f.limiter.phases client).attempt?)
    (phases : before.phases = f.limiter.phases) (grants : before.grants = f.limiter.grants)
    (turnEnd : TurnEnd) :
    Follows (f.endTurn (before.nextTurn client attempt) client turnEnd) := by
  obtain ⟨length, bound⟩ := follows.counted client attempt standing
  by_cases more : attempt + 1 < maxCasRetries
  · exact follows.goesOn length more phases grants turnEnd
  · exact follows.failsOpen length bound more phases grants turnEnd

theorem Follows.followStep (follows : Follows f) (action : LimiterAction Client) :
    Follows (followStep params action f) := by
  rw [Exchange.followStep]
  cases ends : turnEnd? params f.limiter action with
  | none => exact follows.quiet ends
  | some ended =>
      obtain ⟨client, turnEnd⟩ := ended
      obtain ⟨attempt, before, standing, phases, grants, next⟩ := limiterStep_of_some ends
      dsimp only
      rw [next]
      exact follows.endTurn standing phases grants turnEnd

theorem run_followStep_limiter (actions : List (LimiterAction Client)) :
    ∀ f : Followed Client, (run (Exchange.followStep params) f actions).limiter =
      run (limiterStep params) f.limiter actions := by
  induction actions with
  | nil => exact fun _ => rfl
  | cons action actions ih =>
      intro f
      rw [run_cons, run_cons, ih]
      congr 1
      rw [Exchange.followStep]
      cases turnEnd? params f.limiter action <;> rfl

end Counting

/-! ## What the documentation promises -/

/-- A failed-open call that made no debit had three of its writes rejected. -/
def OnContention (call : List TurnEnd) : Prop :=
  .unacknowledged ∉ call → maxCasRetries ≤ call.count .conflict

instance (call : List TurnEnd) : Decidable (OnContention call) :=
  inferInstanceAs (Decidable (_ → _))

theorem onContention_iff {call : List TurnEnd} (full : call.length = maxCasRetries) :
    OnContention call ↔ .unacknowledged ∈ call ∨ .slept ∉ call ∧ .lost ∉ call := by
  by_cases debited : TurnEnd.unacknowledged ∈ call
  · exact iff_of_true (fun absent => absurd debited absent) (.inl debited)
  · rw [OnContention, forall_prop_of_true debited, or_iff_right debited, ← full]
    constructor
    · intro conflicts
      have all := List.count_eq_length.mp (le_antisymm List.count_le_length conflicts)
      exact ⟨fun slept => absurd (all _ slept) (by decide),
        fun lost => absurd (all _ lost) (by decide)⟩
    · rintro ⟨awake, arrived⟩
      refine (List.count_eq_length.mpr fun turnEnd member => ?_).ge
      cases turnEnd with
      | conflict => rfl
      | slept => exact absurd member awake
      | lost => exact absurd member arrived
      | unacknowledged => exact absurd member debited

section Guarded

variable {Client : Type} [DecidableEq Client] {params : BucketParams} {f : Followed Client}

/-- The turn a step takes finds a token in the bucket it read, and the request it writes with
arrives. -/
def findsToken (params : BucketParams) (s : LimiterState Client) : LimiterAction Client → Bool
  | .turns client =>
      match s.phases client with
      | .read _ result => takeTurn params s.clock result ≠ .sleeps
      | _ => true
  | .writes client arrives _ =>
      match s.phases client with
      | .writing _ _ _ _ => arrives
      | _ => true
  | _ => true

/-- A turn that neither slept nor lost its request. -/
def TurnEnd.Wrote (turnEnd : TurnEnd) : Prop := turnEnd ≠ .slept ∧ turnEnd ≠ .lost

omit [DecidableEq Client] in
theorem turnEnd?_wrote {s : LimiterState Client} {action : LimiterAction Client}
    (finds : findsToken params s action = true) {client : Client} {turnEnd : TurnEnd}
    (ends : turnEnd? params s action = some (client, turnEnd)) : turnEnd.Wrote := by
  cases action with
  | turns other =>
      cases phase : s.phases other with
      | read attempt result =>
          simp only [findsToken, phase, decide_eq_true_eq] at finds
          simp [turnEnd?, phase, finds] at ends
      | _ => simp [turnEnd?, phase] at ends
  | writes other arrives acknowledged =>
      cases phase : s.phases other with
      | writing attempt tokens now revision =>
          simp only [findsToken, phase] at finds
          simp only [turnEnd?, phase, finds, Bool.true_eq_false, if_false] at ends
          split_ifs at ends with conflict answered
          all_goals
            obtain ⟨-, rfl⟩ := Prod.mk.inj (Option.some.inj ends)
            exact ⟨nofun, nofun⟩
      | _ => simp [turnEnd?, phase] at ends
  | _ => simp [turnEnd?] at ends

/-- No turn slept or lost its request, neither in a call that goes on nor in one that failed
open. -/
structure AllWrote (f : Followed Client) : Prop where
  turns : ∀ client, ∀ turnEnd ∈ f.turns client, turnEnd.Wrote
  failedOpen : ∀ call ∈ f.failedOpen, ∀ turnEnd ∈ call, turnEnd.Wrote

theorem AllWrote.followStep (wrote : AllWrote f) {action : LimiterAction Client}
    (finds : findsToken params f.limiter action = true) :
    AllWrote (followStep params action f) := by
  rw [Exchange.followStep]
  cases ends : turnEnd? params f.limiter action with
  | none =>
      refine ⟨fun client turnEnd member => ?_, wrote.failedOpen⟩
      have begun : f.begin action client = f.turns client ∨ f.begin action client = [] := by
        cases action with
        | calls other =>
            dsimp only [Followed.begin]
            split_ifs with idle
            · by_cases same : client = other
              · exact .inr (by rw [same, Function.update_self])
              · exact .inl (Function.update_of_ne same _ _)
            · exact .inl rfl
        | _ => exact .inl rfl
      dsimp only at member
      obtain same | empty := begun
      · rw [same] at member
        exact wrote.turns client turnEnd member
      · rw [empty] at member
        exact absurd member List.not_mem_nil
  | some ended =>
      obtain ⟨client, turnEnd⟩ := ended
      have ending : ∀ other ∈ f.turns client ++ [turnEnd], other.Wrote := by
        intro other member
        obtain earlier | here := List.mem_append.mp member
        · exact wrote.turns client other earlier
        · exact List.mem_singleton.mp here ▸ turnEnd?_wrote finds ends
      refine ⟨fun other next member => ?_, fun call member => ?_⟩
      · by_cases same : other = client
        · simp only [Followed.endTurn, same, Function.update_self] at member
          exact ending next member
        · simp only [Followed.endTurn, Function.update_of_ne same] at member
          exact wrote.turns other next member
      · simp only [Followed.endTurn] at member
        split_ifs at member with isIdle
        · obtain earlier | here := List.mem_append.mp member
          · exact wrote.failedOpen call earlier
          · rw [List.mem_singleton.mp here]
            exact ending
        · exact wrote.failedOpen call member

theorem allWrote_run {actions : List (LimiterAction Client)} :
    ∀ {f : Followed Client}, AllWrote f →
      RunGuarded (fun s action => findsToken params s action = true) (limiterStep params) f.limiter
        actions →
      AllWrote (run (Exchange.followStep params) f actions) := by
  induction actions with
  | nil => exact fun wrote _ => wrote
  | cons action actions ih =>
      intro f wrote guarded
      have next : (Exchange.followStep params action f).limiter =
          limiterStep params action f.limiter := run_followStep_limiter [action] f
      exact ih (wrote.followStep guarded.1) (next ▸ guarded.2)

end Guarded

/-- **When a call fails open on contention only**: whatever the bucket holds and in every run of all
clients, a call that fails open without a debit met three conflicts exactly when none of its turns
slept and none lost its request.  So it is where every turn finds a token and every request
arrives. -/
theorem failsOpen_iff {Client : Type} [DecidableEq Client] (params : BucketParams)
    (stored : Option BucketValue) (revision : ℕ) (clock : ℚ)
    (actions : List (LimiterAction Client)) :
    let start : LimiterState Client := bucketAt stored revision clock
    let f := run (followStep params) (follow start) actions
    f.limiter = run (limiterStep params) start actions ∧
    f.failedOpen.length = (f.limiter.grants.filterMap Grant.failOpen?).length ∧
    (∀ call ∈ f.failedOpen,
      OnContention call ↔ .unacknowledged ∈ call ∨ .slept ∉ call ∧ .lost ∉ call) ∧
    (RunGuarded (fun s action => findsToken params s action = true) (limiterStep params) start
        actions →
      ∀ call ∈ f.failedOpen, OnContention call) := by
  intro start f
  have follows : Follows f := run_invariant_of_always Follows
    (fun _ action follows => follows.followStep action) actions
    (follows_follow stored revision clock)
  refine ⟨run_followStep_limiter actions (follow start), follows.logged,
    fun call member => onContention_iff (follows.full call member), fun guarded call member => ?_⟩
  have empty : AllWrote (follow start) :=
    ⟨fun _ _ absent => absurd absent List.not_mem_nil,
      fun _ absent => absurd absent List.not_mem_nil⟩
  have wrote := (allWrote_run empty guarded).failedOpen call member
  exact (onContention_iff (follows.full call member)).mpr
    (.inr ⟨fun slept => (wrote _ slept).1 rfl, fun lost => (wrote _ lost).2 rfl⟩)

/-- A turn of a client, from its read to its write. -/
def wholeTurn (client : Bool) : List (LimiterAction Bool) :=
  [.gets client, .turns client, .writes client true true]

/-- A client reads the bucket, and another one takes a token before it writes. -/
def overtaken : List (LimiterAction Bool) :=
  [.gets true, .turns true, .calls false] ++ wholeTurn false ++ [.writes true true true]

/-- Three times overtaken, in a bucket that has a token each time. -/
theorem failsOpen_overtaken :
    let start : LimiterState Bool := bucketAt (some (.tokens 2 0)) 1 0
    let f := run (followStep twoTokens) (follow start)
      (.calls true :: overtaken ++ overtaken ++ .ticks 1 :: overtaken)
    f.failedOpen = [[.conflict, .conflict, .conflict]] ∧ ∀ call ∈ f.failedOpen, OnContention call :=
  ⟨by decide +kernel, (failsOpen_iff twoTokens (some (.tokens 2 0)) 1 0
    (.calls true :: overtaken ++ overtaken ++ .ticks 1 :: overtaken)).2.2.2 (by decide +kernel)⟩

/-- A client finds no token and sleeps for a second, and another one takes the token that comes. -/
def tooLate (second : ℚ) : List (LimiterAction Bool) :=
  [.gets true, .turns true, .ticks second, .calls false] ++ wholeTurn false

/-- Three turns without a token, while the other client has one every second: no write is rejected,
and the call fails open. -/
theorem neverConflicts :
    let f := run (followStep oneToken)
      (follow (bucketAt (some (.tokens 0 0)) 1 0 : LimiterState Bool))
      (.calls true :: tooLate 1 ++ tooLate 2 ++ tooLate 3)
    f.failedOpen = [[.slept, .slept, .slept]] ∧ ¬ ∀ call ∈ f.failedOpen, OnContention call := by
  decide +kernel

end Scalper.Exchange
