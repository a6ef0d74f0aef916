import Scalper.Lib.Backoff
import Scalper.Lib.Run
import Mathlib.Algebra.Order.Ring.Rat
import Mathlib.Tactic.NormNum

/-!
# Reconnecting

The reconnect loops of `packages/market/ws.py` and `packages/exchange/bybit_v5/ws.py`, and the
generators they draw their delays from.  A turn of a loop is one connection: it is refused, or it is
dropped or ends after it was set up, or something else is raised, which ends the loop.  The private
client also draws a delay when its login is refused.

A loop resets its own count of attempts at every connection that is set up, and the generator
counts on.  So the first delay after such a connection is drawn below the base only if none was
drawn before it, and the generator raises when it is asked once more after 1024 delays: the power
of two is too large for a float then, and the loop ends (`reconnect_backs_off_iff`).
-/

set_option autoImplicit false

namespace Scalper.Market

open Scalper.Lib

/-! ## Generators -/

/-- What asking a generator raises. -/
inductive BackoffError where
  | overflowError
  | stopIteration
  deriving DecidableEq, Repr

/-- A delay, and the ceiling it was drawn below. -/
structure Draw where
  ceiling : ℚ
  delay : ℚ
  deriving DecidableEq, Repr

/-- What `uniform` draws, as a share of the range. -/
structure Jitter where
  share : ℚ
  nonneg : 0 ≤ share
  le_one : share ≤ 1

/-- Where a generator stands. -/
structure Generator where
  attempt : ℕ := 0
  finished : Bool := false
  deriving DecidableEq, Repr

/-- `sys.float_info.max_exp`. -/
def floatMaxExp : ℕ := 1024

/-- The integers from here on are too large for a float. -/
def floatRange : ℕ := 2 ^ floatMaxExp

/-- `next` of `exp_backoff_delays`; a generator that has raised is finished. -/
def expBackoffDelays (baseSeconds capSeconds : ℚ) (jitter : Jitter) (generator : Generator) :
    Except BackoffError Draw × Generator :=
  if generator.finished then (.error .stopIteration, generator)
  else if 2 ^ generator.attempt < floatRange then
    let top := ceiling 2 baseSeconds capSeconds generator.attempt
    (.ok ⟨top, top * jitter.share⟩, { generator with attempt := generator.attempt + 1 })
  else (.error .overflowError, { generator with finished := true })

/-- `_BACKOFF_BASE_S`. -/
def backoffBase : ℚ := 1

/-- `_BACKOFF_CAP_S`. -/
def backoffCap : ℚ := 60

/-- `next` of `_full_jitter_backoff_delays`. -/
def fullJitterBackoffDelays : Jitter → Generator → Except BackoffError Draw × Generator :=
  expBackoffDelays backoffBase backoffCap

/-! ## The loops -/

/-- `ConnectionState` of a client. -/
inductive ConnectionState where
  | disconnected
  | connecting
  | connected
  | reconnecting
  | closed
  deriving DecidableEq, Repr

/-- What ends a loop: its generator raises, or something it does not catch. -/
inductive LoopError where
  | backoff (error : BackoffError)
  | uncaught
  deriving DecidableEq, Repr

/-- A client and the locals of its loop, with the attempt and the delay of every sleep. -/
structure Client where
  state : ConnectionState := .disconnected
  delays : Generator := {}
  disconnectStartedAt : Option ℚ := none
  longDisconnectLogged : Bool := false
  longDisconnectCount : ℕ := 0
  authFailureCount : ℕ := 0
  attempt : ℕ := 0
  slept : List (ℕ × Draw) := []
  raised : Option LoopError := none

/-- The two readings of the clock at a disconnect, and what is drawn. -/
structure Outage where
  now : ℚ
  later : ℚ
  jitter : Jitter

/-- What becomes of a connection.  `opened` says that it was opened before it failed, and `closed`
that the client was closed since the loop last set its state. -/
inductive Turn where
  /-- It fails before it is set up. -/
  | refused (opened closed : Bool) (outage : Outage)
  /-- It fails after it was set up. -/
  | dropped (closed : Bool) (outage : Outage)
  /-- It ends without an exception. -/
  | ended (closed : Bool)
  /-- Something is raised that the loop does not catch. -/
  | failed (opened : Bool)

/-- What happens to a client: a turn of its loop, or `close` while the loop sleeps. -/
inductive LoopStep (τ : Type) where
  | turns (turn : τ)
  | closes

/-- `attempt += 1` and the sleep. -/
def Client.backsOff (next : Jitter → Generator → Except BackoffError Draw × Generator)
    (jitter : Jitter) (c : Client) : Client :=
  match next jitter c.delays with
  | (.ok draw, delays) =>
      { c with
        attempt := c.attempt + 1
        delays := delays
        slept := c.slept ++ [(c.attempt, draw)] }
  | (.error error, delays) =>
      { c with
        attempt := c.attempt + 1
        delays := delays
        raised := some (.backoff error) }

/-- The handler of a disconnect. -/
def Client.disconnects (next : Jitter → Generator → Except BackoffError Draw × Generator)
    (threshold : ℚ) (outage : Outage) (c : Client) : Client :=
  let startedAt := c.disconnectStartedAt.getD outage.now
  let long := !c.longDisconnectLogged && decide (threshold ≤ outage.later - startedAt)
  Client.backsOff next outage.jitter
    { c with
      disconnectStartedAt := some startedAt
      longDisconnectLogged := c.longDisconnectLogged || long
      longDisconnectCount := if long then c.longDisconnectCount + 1 else c.longDisconnectCount }

/-- The connection is set up. -/
def Client.succeeds (c : Client) : Client :=
  { c with disconnectStartedAt := none, longDisconnectLogged := false, attempt := 0 }

/-- The state a turn begins in. -/
def Client.begins (c : Client) : ConnectionState :=
  if c.disconnectStartedAt = none then .connecting else .reconnecting

/-- A turn of `_reconnect_loop`. -/
def turn (next : Jitter → Generator → Except BackoffError Draw × Generator) (threshold : ℚ) :
    Turn → Client → Client
  | .refused opened closed outage, c =>
      if closed then { c with state := .closed }
      else Client.disconnects next threshold outage
        { c with state := if opened then .connected else c.begins }
  | .dropped closed outage, c =>
      if closed then { c.succeeds with state := .closed }
      else Client.disconnects next threshold outage { c.succeeds with state := .connected }
  | .ended closed, c => { c.succeeds with state := if closed then .closed else .connected }
  | .failed opened, c =>
      { c with
        state := if opened then .connected else c.begins
        raised := some .uncaught }

/-- The loop has ended. -/
def Client.Over (c : Client) : Prop := c.raised ≠ none ∨ c.state = .closed

instance (c : Client) : Decidable c.Over := inferInstanceAs (Decidable (_ ∨ _))

/-- A turn of the loop, or `close()`. -/
def clientStep {τ : Type} (turn : τ → Client → Client) : LoopStep τ → Client → Client
  | .turns t, c => if c.Over then c else turn t c
  | .closes, c => { c with state := .closed }

/-- The public client, whose generator has its defaults. -/
def binanceStep (threshold : ℚ) : LoopStep Turn → Client → Client :=
  clientStep (turn (expBackoffDelays backoffBase backoffCap) threshold)

/-- What becomes of a private connection. -/
inductive PrivateTurn where
  /-- The login is refused. -/
  | unauthenticated (closed : Bool) (now : ℚ) (jitter : Jitter)
  | plain (turn : Turn)

/-- A turn of the private client's `_reconnect_loop`. -/
def privateTurn (threshold : ℚ) : PrivateTurn → Client → Client
  | .unauthenticated closed now jitter, c =>
      Client.backsOff fullJitterBackoffDelays jitter
        { c with
          state := if closed then .closed else .connected
          authFailureCount := c.authFailureCount + 1
          disconnectStartedAt := some (c.disconnectStartedAt.getD now) }
  | .plain t, c => turn fullJitterBackoffDelays threshold t c

/-- A step of the private client. -/
def bybitStep (threshold : ℚ) : LoopStep PrivateTurn → Client → Client :=
  clientStep (privateTurn threshold)

/-! ## Backing off -/

/-- The generator has raised nothing, every delay is between zero and the cap, and the ceiling of
the first one after a connection that was set up is the base. -/
def Client.BacksOff (base cap : ℚ) (c : Client) : Prop :=
  (∀ error, c.raised ≠ some (.backoff error)) ∧
    ∀ attempt draw, (attempt, draw) ∈ c.slept →
      (0 ≤ draw.delay ∧ draw.delay ≤ cap) ∧ (attempt = 0 → draw.ceiling = base)

section Generator

variable {base cap : ℚ} {c : Client} {jitter : Jitter}

theorem pow_lt_floatRange_iff {n : ℕ} : 2 ^ n < floatRange ↔ n < floatMaxExp :=
  Nat.pow_lt_pow_iff_right one_lt_two

theorem backsOff_of_lt (going : c.delays.finished = false) (fits : c.delays.attempt < floatMaxExp) :
    c.backsOff (expBackoffDelays base cap) jitter =
      { c with
        attempt := c.attempt + 1
        delays := { c.delays with attempt := c.delays.attempt + 1 }
        slept := c.slept ++ [(c.attempt, ⟨ceiling 2 base cap c.delays.attempt,
          ceiling 2 base cap c.delays.attempt * jitter.share⟩)] } := by
  have finite := pow_lt_floatRange_iff.mpr fits
  simp only [Client.backsOff, expBackoffDelays, going, Bool.false_eq_true, if_false, if_pos finite]

theorem backsOff_of_le (going : c.delays.finished = false)
    (large : floatMaxExp ≤ c.delays.attempt) :
    c.backsOff (expBackoffDelays base cap) jitter =
      { c with
        attempt := c.attempt + 1
        delays := { c.delays with finished := true }
        raised := some (.backoff .overflowError) } := by
  have infinite : ¬ 2 ^ c.delays.attempt < floatRange := fun finite =>
    absurd (pow_lt_floatRange_iff.mp finite) large.not_gt
  simp only [Client.backsOff, expBackoffDelays, going, Bool.false_eq_true, if_false,
    if_neg infinite]

/-- One more delay: the generator has to have one, and its first one where the loop is at its
first attempt. -/
theorem backsOff_iff (jitter : Jitter) (positive : 0 < base) (less : base < cap)
    (backed : c.BacksOff base cap) (going : c.delays.finished = false) :
    (c.backsOff (expBackoffDelays base cap) jitter).BacksOff base cap ↔
      c.delays.attempt < floatMaxExp ∧ (c.attempt = 0 → c.delays.attempt = 0) := by
  rcases lt_or_ge c.delays.attempt floatMaxExp with fits | large
  · rw [backsOff_of_lt going fits, and_iff_right fits]
    have range := delay_mem_Icc one_lt_two positive.le (positive.trans less).le jitter.nonneg
      jitter.le_one (n := c.delays.attempt)
    constructor
    · rintro ⟨_, draws⟩ first
      exact (ceiling_eq_base_iff one_lt_two positive less).mp
        ((draws c.attempt _ (List.mem_append_right _ List.mem_cons_self)).2 first)
    · intro fresh
      refine ⟨backed.1, fun attempt draw member => ?_⟩
      rcases List.mem_append.mp member with old | new
      · exact backed.2 attempt draw old
      · obtain ⟨rfl, rfl⟩ := Prod.mk.inj (List.mem_singleton.mp new)
        exact ⟨range, fun first => (ceiling_eq_base_iff one_lt_two positive less).mpr (fresh first)⟩
  · rw [backsOff_of_le going large]
    refine iff_of_false (fun after => ?_) fun both => absurd both.1 large.not_gt
    exact after.1 .overflowError rfl

theorem backsOff_going (going : c.delays.finished = false) (fits : c.delays.attempt < floatMaxExp) :
    (c.backsOff (expBackoffDelays base cap) jitter).delays.finished = false := by
  rw [backsOff_of_lt going fits]
  exact going

end Generator

/-! ## Turns -/

/-- The turn comes to a sleep. -/
def Turn.draws : Turn → Bool
  | .refused _ closed _ => !closed
  | .dropped closed _ => !closed
  | .ended _ | .failed _ => false

/-- The connection was set up. -/
def Turn.setsUp : Turn → Bool
  | .dropped _ _ | .ended _ => true
  | .refused _ _ _ | .failed _ => false

def PrivateTurn.draws : PrivateTurn → Bool
  | .unauthenticated _ _ _ => true
  | .plain t => t.draws

def PrivateTurn.setsUp : PrivateTurn → Bool
  | .unauthenticated _ _ _ => false
  | .plain t => t.setsUp

/-- What the turns of a loop do: some draw a delay, at the first attempt if they set a connection
up, and the others leave the generator alone. -/
structure Turns {τ : Type} (base cap : ℚ) (draws setsUp : τ → Bool) (turn : τ → Client → Client) :
    Prop where
  draw : ∀ t c, draws t = true → ∃ (c' : Client) (jitter : Jitter),
    turn t c = c'.backsOff (expBackoffDelays base cap) jitter ∧ c'.delays = c.delays ∧
      c'.slept = c.slept ∧ c'.raised = c.raised ∧
      c'.attempt = if setsUp t then 0 else c.attempt
  quiet : ∀ t c, draws t = false → (turn t c).delays = c.delays ∧ (turn t c).slept = c.slept ∧
    ∀ error, (turn t c).raised = some (.backoff error) → c.raised = some (.backoff error)

theorem turns_turn (base cap threshold : ℚ) :
    Turns base cap Turn.draws Turn.setsUp (turn (expBackoffDelays base cap) threshold) where
  draw := by
    intro t c draws
    cases t with
    | refused opened closed outage =>
        obtain rfl : closed = false := by simpa [Turn.draws] using draws
        exact ⟨_, outage.jitter, rfl, rfl, rfl, rfl, rfl⟩
    | dropped closed outage =>
        obtain rfl : closed = false := by simpa [Turn.draws] using draws
        exact ⟨_, outage.jitter, rfl, rfl, rfl, rfl, rfl⟩
    | ended closed => cases draws
    | failed opened => cases draws
  quiet := by
    intro t c quiet
    cases t with
    | refused opened closed outage =>
        obtain rfl : closed = true := by simpa [Turn.draws] using quiet
        exact ⟨rfl, rfl, fun _ => id⟩
    | dropped closed outage =>
        obtain rfl : closed = true := by simpa [Turn.draws] using quiet
        exact ⟨rfl, rfl, fun _ => id⟩
    | ended closed => exact ⟨rfl, rfl, fun _ => id⟩
    | failed opened => exact ⟨rfl, rfl, fun _ uncaught => by cases uncaught⟩

theorem turns_privateTurn (threshold : ℚ) :
    Turns backoffBase backoffCap PrivateTurn.draws PrivateTurn.setsUp (privateTurn threshold) where
  draw := by
    intro t c draws
    cases t with
    | unauthenticated closed now jitter => exact ⟨_, jitter, rfl, rfl, rfl, rfl, rfl⟩
    | plain t => exact (turns_turn backoffBase backoffCap threshold).draw t c draws
  quiet := by
    intro t c quiet
    cases t with
    | unauthenticated closed now jitter => cases quiet
    | plain t => exact (turns_turn backoffBase backoffCap threshold).quiet t c quiet

/-! ## Runs -/

/-- A delay is only drawn while the generator has one, and the first one after a connection that was
set up only if the generator gave none before. -/
def Steady {τ : Type} (draws setsUp : τ → Bool) (c : Client) : LoopStep τ → Prop
  | .turns t => ¬ c.Over → draws t = true →
      c.delays.attempt < floatMaxExp ∧ (setsUp t = true ∨ c.attempt = 0 → c.delays.attempt = 0)
  | .closes => True

section Runs

variable {τ : Type} {base cap : ℚ} {draws setsUp : τ → Bool} {turn : τ → Client → Client}
  {c : Client}

theorem Turns.step_iff (turns : Turns base cap draws setsUp turn) (positive : 0 < base)
    (less : base < cap) (backed : c.BacksOff base cap) (going : c.delays.finished = false)
    (step : LoopStep τ) :
    ((clientStep turn step c).BacksOff base cap ↔ Steady draws setsUp c step) ∧
      (Steady draws setsUp c step → (clientStep turn step c).delays.finished = false) := by
  cases step with
  | closes => exact ⟨iff_of_true backed trivial, fun _ => going⟩
  | turns t =>
      rw [clientStep]
      split_ifs with stopped
      · exact ⟨iff_of_true backed fun running => absurd stopped running, fun _ => going⟩
      · cases draw : draws t with
        | false =>
            obtain ⟨delays, slept, raised⟩ := turns.quiet t c draw
            have quiet : (turn t c).BacksOff base cap := by
              refine ⟨fun error raises => backed.1 error (raised error raises), ?_⟩
              rw [slept]
              exact backed.2
            refine ⟨iff_of_true quiet fun _ drawn => ?_, fun _ => ?_⟩
            · rw [draw] at drawn
              cases drawn
            · rw [delays]
              exact going
        | true =>
            obtain ⟨c', jitter, same, delays, slept, raised, attempt⟩ := turns.draw t c draw
            have backed' : c'.BacksOff base cap := by
              rw [Client.BacksOff, raised, slept]
              exact backed
            have going' : c'.delays.finished = false := by rwa [delays]
            have fresh : c'.attempt = 0 ↔ setsUp t = true ∨ c.attempt = 0 := by
              rw [attempt]
              split_ifs with setUp
              · exact iff_of_true rfl (.inl setUp)
              · exact (or_iff_right setUp).symm
            have drawn := backsOff_iff jitter positive less backed' going'
            rw [delays, fresh] at drawn
            rw [same]
            refine ⟨drawn.trans ⟨fun both _ _ => both, fun steady => steady stopped draw⟩,
              fun steady => backsOff_going going' ?_⟩
            rw [delays]
            exact (steady stopped draw).1

/-- A loop keeps backing off exactly as long as its turns are steady. -/
theorem Turns.run_iff (turns : Turns base cap draws setsUp turn) (positive : 0 < base)
    (less : base < cap) (steps : List (LoopStep τ)) :
    RunGuarded (Steady draws setsUp) (clientStep turn) {} steps ↔
      ∀ done, done <+: steps → (run (clientStep turn) {} done).BacksOff base cap := by
  have start : ({} : Client).BacksOff base cap := by
    refine ⟨fun error raised => ?_, fun attempt draw member => ?_⟩
    · cases raised
    · cases member
  exact runGuarded_iff_throughout
    (fun c : Client => c.BacksOff base cap ∧ c.delays.finished = false) (Client.BacksOff base cap)
    (fun _ => And.left)
    (fun _ step both steady =>
      have spec := turns.step_iff positive less both.1 both.2 step
      ⟨spec.1.mpr steady, spec.2 steady⟩)
    (fun _ step both after => (turns.step_iff positive less both.1 both.2 step).1.mp after)
    steps ⟨start, rfl⟩

end Runs

/-- **Reconnecting goes on while the generator does.**  At every point of a run of either client
its generator has raised nothing, its delays were between zero and the cap, and the first ceiling
after every connection that was set up was the base, exactly if no more than 1024 delays were drawn
and none of those after such a connection came behind another. -/
theorem reconnect_backs_off_iff (threshold : ℚ) :
    (∀ steps : List (LoopStep Turn),
      RunGuarded (Steady Turn.draws Turn.setsUp) (binanceStep threshold) {} steps ↔
        ∀ done, done <+: steps →
          (run (binanceStep threshold) {} done).BacksOff backoffBase backoffCap) ∧
    ∀ steps : List (LoopStep PrivateTurn),
      RunGuarded (Steady PrivateTurn.draws PrivateTurn.setsUp) (bybitStep threshold) {} steps ↔
        ∀ done, done <+: steps →
          (run (bybitStep threshold) {} done).BacksOff backoffBase backoffCap := by
  have positive : 0 < backoffBase := by norm_num [backoffBase]
  have less : backoffBase < backoffCap := by norm_num [backoffBase, backoffCap]
  exact ⟨fun steps => (turns_turn backoffBase backoffCap threshold).run_iff positive less steps,
    fun steps => (turns_privateTurn threshold).run_iff positive less steps⟩

/-! ## Giving up -/

theorem half_nonneg : (0 : ℚ) ≤ 1 / 2 := one_half_pos.le

theorem half_le_one : (1 / 2 : ℚ) ≤ 1 := one_half_lt_one.le

/-- A disconnect after which half the ceiling is slept. -/
def halfway : Outage := ⟨0, 0, ⟨1 / 2, half_nonneg, half_le_one⟩⟩

def refusal : Turn := .refused false false halfway

theorem refusal_step (threshold : ℚ) {c : Client} (running : ¬ c.Over) :
    ∃ c' : Client, binanceStep threshold (.turns refusal) c =
        c'.backsOff (expBackoffDelays backoffBase backoffCap) halfway.jitter ∧
      c'.delays = c.delays ∧ c'.state ≠ .closed ∧ c'.raised = none := by
  have open' : c.begins ≠ .closed := by
    rw [Client.begins]
    split_ifs <;> decide
  have raised : c.raised = none := by
    by_contra some
    exact running (.inl some)
  exact ⟨_, if_neg running, rfl, open', raised⟩

/-- Every refused connection moves the generator on. -/
theorem run_refusals (threshold : ℚ) {n : ℕ} (fits : n ≤ floatMaxExp) :
    (run (binanceStep threshold) {} (List.replicate n (.turns refusal))).delays = ⟨n, false⟩ ∧
      ¬ (run (binanceStep threshold) {} (List.replicate n (.turns refusal))).Over := by
  induction n with
  | zero =>
      refine ⟨rfl, ?_⟩
      rintro (some | closed)
      · exact some rfl
      · cases closed
  | succ n ih =>
      obtain ⟨delays, running⟩ := ih (Nat.le_of_succ_le fits)
      rw [List.replicate_succ', run_concat]
      obtain ⟨c', step, same, open', raised⟩ := refusal_step threshold running
      rw [delays] at same
      rw [step, backsOff_of_lt (by rw [same]) (by rw [same]; exact fits)]
      refine ⟨by rw [same], ?_⟩
      rintro (some | closed)
      · exact some raised
      · exact open' closed

/-- The private client meets what is not a refused login as the public one does. -/
theorem run_plain (threshold : ℚ) (turns : List Turn) (c : Client) :
    run (bybitStep threshold) c (turns.map fun t => .turns (.plain t)) =
      run (binanceStep threshold) c (turns.map .turns) := by
  induction turns generalizing c with
  | nil => rfl
  | cons t turns ih => exact ih _

/-- After 1024 refused connections the next one ends the loop, and the second time a connection that
was set up is dropped, up to two seconds are slept. -/
theorem reconnect_gives_up :
    (run (binanceStep 60) {} (List.replicate 1025 (.turns refusal))).raised =
        some (.backoff .overflowError) ∧
      (run (bybitStep 60) {} (List.replicate 1025 (.turns (.plain refusal)))).raised =
        some (.backoff .overflowError) ∧
      (run (binanceStep 60) {}
          [.turns (.dropped false halfway), .turns (.dropped false halfway)]).slept =
        [(0, ⟨1, 1 / 2⟩), (0, ⟨2, 1⟩)] := by
  have overflows : (run (binanceStep 60) {} (List.replicate 1025 (.turns refusal))).raised =
      some (.backoff .overflowError) := by
    obtain ⟨delays, running⟩ := run_refusals 60 (le_refl floatMaxExp)
    rw [show 1025 = floatMaxExp + 1 from rfl, List.replicate_succ', run_concat]
    obtain ⟨c', step, same, _, _⟩ := refusal_step 60 running
    rw [delays] at same
    rw [step, backsOff_of_le (by rw [same]) (by rw [same])]
  refine ⟨overflows, ?_, by decide +kernel⟩
  have plain := run_plain 60 (List.replicate 1025 refusal) {}
  rw [List.map_replicate, List.map_replicate] at plain
  rw [plain]
  exact overflows

end Scalper.Market
