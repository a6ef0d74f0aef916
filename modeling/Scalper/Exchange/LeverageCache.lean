import Mathlib.Data.Rat.Defs
import Mathlib.Algebra.Order.Ring.Rat
import Mathlib.Logic.Function.Basic
import Mathlib.Tactic.NormNum
import Scalper.Lib.Run

/-!
# The leverage an order is opened at

`set_leverage` of `packages/exchange/bybit_v5/adapter.py`, which the placement of a bot calls before
every order.  An adapter remembers when a leverage was set for a symbol, and asks the exchange again
only after a time.  What it remembers is one entry for each symbol and leverage, and nothing takes an
entry back when another leverage is set; nor does the adapter learn what the adapters of other bots
set on the same sub-account.

So an order may be opened at another leverage than the one that was asked for.  This comes up in
some run exactly if two leverages may be asked for one symbol, by one bot or by two that share the
sub-account (`opened_as_asked_iff`).

A call that raises leaves no request on its way (`performedOf_after`), so that its request is
performed before it raises or not at all.
-/

set_option autoImplicit false

namespace Scalper.Exchange.Bybit

open Scalper.Lib

/-! ## The adapters of a sub-account -/

/-- Where the placement of a bot is: in `set_leverage`, with or without the request performed by
now, or before `place_market_order` is performed. -/
inductive PlacingPhase where
  | idle
  | setting (symbol : String) (leverage : ℤ) (performed : Bool)
  | placing (symbol : String) (leverage : ℤ)
  deriving DecidableEq

/-- An order, with the leverage that the placement asked for and the one it was opened at. -/
structure OpenedOrder where
  bot : String
  symbol : String
  asked : ℤ
  openedAt : ℤ
  deriving DecidableEq

/-- A sub-account on the exchange, and the bots that trade on it. -/
structure SubAccount where
  leverage : String → ℤ
  /-- `_leverage_cache` of the adapter of each bot. -/
  leverageCache : String → String × ℤ → Option ℚ := fun _ _ => none
  placings : String → PlacingPhase := fun _ => .idle
  opened : List OpenedOrder := []

/-- A step of a `set_leverage` call. -/
inductive LeverageStep where
  /-- The service starts again, with an adapter that remembers nothing. -/
  | restarts (bot : String)
  | calls (bot symbol : String) (leverage : ℤ) (now : ℚ)
  | performs (bot : String)
  | returns (bot : String) (now : ℚ)
  | raises (bot : String)
  | opens (bot : String)

/-- `cached_at is not None and (now - cached_at) < ttl`. -/
def isCached (ttl : ℚ) (cache : String × ℤ → Option ℚ) (symbol : String) (leverage : ℤ)
    (now : ℚ) : Bool :=
  match cache (symbol, leverage) with
  | some cachedAt => now - cachedAt < ttl
  | none => false

namespace SubAccount

/-- The placement of a bot goes on. -/
def enter (bot : String) (phase : PlacingPhase) (s : SubAccount) : SubAccount :=
  { s with placings := Function.update s.placings bot phase }

/-- `self._leverage_cache[key] = self._now_fn()`. -/
def remember (bot symbol : String) (leverage : ℤ) (now : ℚ) (s : SubAccount) : SubAccount :=
  { s with
    leverageCache := Function.update s.leverageCache bot
      (Function.update (s.leverageCache bot) (symbol, leverage) (some now)) }

end SubAccount

/-- A step; a call returns only after its request was performed. -/
def leverageStep (ttl : ℚ) : LeverageStep → SubAccount → SubAccount
  | .restarts bot, s =>
      { s.enter bot .idle with
        leverageCache := Function.update s.leverageCache bot fun _ => none }
  | .calls bot symbol leverage now, s =>
      match s.placings bot with
      | .idle =>
          if isCached ttl (s.leverageCache bot) symbol leverage now then
            s.enter bot (.placing symbol leverage)
          else s.enter bot (.setting symbol leverage false)
      | _ => s
  | .performs bot, s =>
      match s.placings bot with
      | .setting symbol leverage _ =>
          { s.enter bot (.setting symbol leverage true) with
            leverage := Function.update s.leverage symbol leverage }
      | _ => s
  | .returns bot now, s =>
      match s.placings bot with
      | .setting symbol leverage true =>
          (s.remember bot symbol leverage now).enter bot (.placing symbol leverage)
      | _ => s
  | .raises bot, s => s.enter bot .idle
  | .opens bot, s =>
      match s.placings bot with
      | .placing symbol leverage =>
          { s.enter bot .idle with
            opened := s.opened ++ [⟨bot, symbol, leverage, s.leverage symbol⟩] }
      | _ => s

/-- What is asked for is among what may be. -/
def LeverageStep.Among (requested : String → String → ℤ → Prop) : LeverageStep → Prop
  | .calls bot symbol leverage _ => requested bot symbol leverage
  | _ => True

/-- Every order was opened at the leverage that was asked for. -/
def OpenedAsAsked (s : SubAccount) : Prop := ∀ order ∈ s.opened, order.openedAt = order.asked

/-! ## One leverage for each symbol -/

section Settled

variable (requested : String → String → ℤ → Prop)

/-- A leverage that may be asked for is in force. -/
structure InForce (held : String → ℤ) (symbol : String) (leverage : ℤ) : Prop where
  requested : ∃ bot, requested bot symbol leverage
  set : held symbol = leverage

/-- What the placement of a bot relies on. -/
def PlacingPhase.Settled (held : String → ℤ) : PlacingPhase → Prop
  | .idle => True
  | .setting symbol leverage performed => (∃ bot, requested bot symbol leverage) ∧
      (performed = true → held symbol = leverage)
  | .placing symbol leverage => InForce requested held symbol leverage

/-- What is remembered is in force. -/
structure Settled (s : SubAccount) : Prop where
  cached : ∀ bot symbol leverage, (s.leverageCache bot (symbol, leverage)).isSome = true →
    InForce requested s.leverage symbol leverage
  placings : ∀ bot, (s.placings bot).Settled requested s.leverage
  opened : OpenedAsAsked s

end Settled

section Steps

variable {requested : String → String → ℤ → Prop} {ttl : ℚ} {s : SubAccount}

theorem Settled.enter (settled : Settled requested s) (bot : String) {phase : PlacingPhase}
    (next : phase.Settled requested s.leverage) : Settled requested (s.enter bot phase) where
  cached := settled.cached
  placings other := by
    show ((Function.update s.placings bot phase) other).Settled requested s.leverage
    by_cases same : other = bot
    · subst same
      rw [Function.update_self]
      exact next
    · rw [Function.update_of_ne same]
      exact settled.placings other
  opened := settled.opened

theorem Settled.idle (settled : Settled requested s) (bot : String) :
    Settled requested (s.enter bot .idle) :=
  settled.enter bot trivial

theorem Settled.remember (settled : Settled requested s) (bot : String) {symbol : String}
    {leverage : ℤ} (inForce : InForce requested s.leverage symbol leverage) (now : ℚ) :
    Settled requested (s.remember bot symbol leverage now) where
  cached other symbol' leverage' found := by
    simp only [SubAccount.remember] at found
    by_cases same : other = bot
    · subst same
      rw [Function.update_self] at found
      by_cases key : (symbol', leverage') = (symbol, leverage)
      · obtain ⟨rfl, rfl⟩ := Prod.mk.inj key
        exact inForce
      · rw [Function.update_of_ne key] at found
        exact settled.cached other symbol' leverage' found
    · rw [Function.update_of_ne same] at found
      exact settled.cached other symbol' leverage' found
  placings := settled.placings
  opened := settled.opened

/-- Where one leverage may be asked for each symbol, setting it changes nothing that is in force. -/
theorem Settled.perform
    (single : ∀ bot bot' symbol leverage leverage', requested bot symbol leverage →
      requested bot' symbol leverage' → leverage = leverage')
    (settled : Settled requested s) {bot symbol : String} {leverage : ℤ}
    (asked : requested bot symbol leverage) :
    Settled requested { s with leverage := Function.update s.leverage symbol leverage } := by
  have kept {other : String} {leverage' : ℤ} (stands : ∃ bot, requested bot other leverage')
      (set : s.leverage other = leverage') :
      Function.update s.leverage symbol leverage other = leverage' := by
    by_cases same : other = symbol
    · subst same
      obtain ⟨bot', asked'⟩ := stands
      rw [Function.update_self]
      exact single bot bot' other leverage leverage' asked asked'
    · rw [Function.update_of_ne same]
      exact set
  have inForce {other : String} {leverage' : ℤ}
      (stands : InForce requested s.leverage other leverage') :
      InForce requested (Function.update s.leverage symbol leverage) other leverage' :=
    ⟨stands.requested, kept stands.requested stands.set⟩
  refine ⟨fun bot' other leverage' found => inForce (settled.cached bot' other leverage' found),
    fun bot' => ?_, settled.opened⟩
  have stands := settled.placings bot'
  show (s.placings bot').Settled requested (Function.update s.leverage symbol leverage)
  cases phase : s.placings bot' with
  | idle => trivial
  | setting other leverage' performed =>
      rw [phase] at stands
      exact ⟨stands.1, fun done => kept stands.1 (stands.2 done)⟩
  | placing other leverage' =>
      rw [phase] at stands
      exact inForce stands

theorem Settled.step
    (single : ∀ bot bot' symbol leverage leverage', requested bot symbol leverage →
      requested bot' symbol leverage' → leverage = leverage')
    (settled : Settled requested s) {step : LeverageStep} (among : step.Among requested) :
    Settled requested (leverageStep ttl step s) := by
  cases step with
  | restarts bot =>
      have idle := settled.idle bot
      refine ⟨fun other symbol leverage found => ?_, idle.placings, idle.opened⟩
      have kept : (Function.update s.leverageCache bot (fun _ => none) other
        (symbol, leverage)).isSome = true := found
      by_cases same : other = bot
      · simp [same] at kept
      · rw [Function.update_of_ne same] at kept
        exact settled.cached other symbol leverage kept
  | calls bot symbol leverage now =>
      simp only [leverageStep]
      split
      · split_ifs with hit
        · refine settled.enter bot (settled.cached bot symbol leverage ?_)
          unfold isCached at hit
          split at hit
          · next cachedAt found => rw [found]; rfl
          · cases hit
        · exact settled.enter bot ⟨⟨bot, among⟩, fun done => by cases done⟩
      · exact settled
  | performs bot =>
      simp only [leverageStep]
      split
      · next symbol leverage performed phase =>
          have stands := settled.placings bot
          rw [phase] at stands
          obtain ⟨⟨bot', asked⟩, -⟩ := stands
          have performed := settled.perform single asked
          refine performed.enter bot ⟨⟨bot', asked⟩, fun _ => ?_⟩
          exact Function.update_self symbol leverage s.leverage
      · exact settled
  | returns bot now =>
      simp only [leverageStep]
      split
      · next symbol leverage phase =>
          have stands := settled.placings bot
          rw [phase] at stands
          have inForce : InForce requested s.leverage symbol leverage := ⟨stands.1, stands.2 rfl⟩
          exact (settled.remember bot inForce now).enter bot inForce
      · exact settled
  | raises bot => exact settled.idle bot
  | opens bot =>
      simp only [leverageStep]
      split
      · next symbol leverage phase =>
          have stands := settled.placings bot
          rw [phase] at stands
          have idle := settled.idle bot
          refine ⟨idle.cached, idle.placings, fun order member => ?_⟩
          rcases List.mem_append.mp member with old | new
          · exact settled.opened order old
          · rw [List.mem_singleton.mp new]
            exact stands.set
      · exact settled

/-- The first leverage is set and an order is opened, then the second, and then the first is asked for
again. -/
def thereAndBack (bot bot' symbol : String) (leverage leverage' : ℤ) : List LeverageStep :=
  [.calls bot symbol leverage 0, .performs bot, .returns bot 0, .opens bot,
    .calls bot' symbol leverage' 0, .performs bot', .returns bot' 0, .opens bot',
    .calls bot symbol leverage 0, .opens bot]

theorem opened_thereAndBack (caching : 0 < ttl) (held : String → ℤ) {bot bot' symbol : String}
    {leverage leverage' : ℤ} (differ : leverage ≠ leverage') :
    ⟨bot, symbol, leverage, leverage'⟩ ∈
      (run (leverageStep ttl) { leverage := held }
        (thereAndBack bot bot' symbol leverage leverage')).opened := by
  by_cases same : bot' = bot
  · subst same
    simp [thereAndBack, leverageStep, isCached, SubAccount.enter, SubAccount.remember, caching,
      differ, differ.symm]
  · simp [thereAndBack, leverageStep, isCached, SubAccount.enter, SubAccount.remember, caching,
      same, Ne.symm same]

/-- **When an order is opened at the leverage that was asked for.**  With a cache that holds for any
time at all, and whichever leverages may be asked for: in every run, whatever calls fail, and in
every order of the steps of the bots of a sub-account, each order is opened at the leverage that its
placement asked for, exactly if no two leverages may be asked for one symbol. -/
theorem opened_as_asked_iff (caching : 0 < ttl) (held : String → ℤ)
    (requested : String → String → ℤ → Prop) :
    (∀ steps : List LeverageStep, (∀ step ∈ steps, step.Among requested) →
        OpenedAsAsked (run (leverageStep ttl) { leverage := held } steps)) ↔
      ∀ bot bot' symbol leverage leverage', requested bot symbol leverage →
        requested bot' symbol leverage' → leverage = leverage' := by
  constructor
  · intro asAsked bot bot' symbol leverage leverage' asked asked'
    by_contra differ
    have among : ∀ step ∈ thereAndBack bot bot' symbol leverage leverage',
        step.Among requested := by
      simp [thereAndBack, LeverageStep.Among, asked, asked']
    have opened := asAsked _ among _ (opened_thereAndBack caching held differ)
    exact differ opened.symm
  · intro single steps among
    have start : Settled requested { leverage := held } :=
      ⟨fun bot symbol leverage found => (by cases found), fun bot => trivial,
        fun order member => absurd member List.not_mem_nil⟩
    have guarded : RunGuarded (fun _ step => step.Among requested) (leverageStep ttl)
        { leverage := held } steps := runGuarded_of_forall among
    have settled := run_invariant (Settled requested)
      (fun s step kept met => kept.step single met) start guarded
    exact settled.opened

end Steps

/-- Two bots of a sub-account, one with a leverage of 5 and the other with 10. -/
def twoBots (bot _symbol : String) (leverage : ℤ) : Prop :=
  bot = "slow" ∧ leverage = 5 ∨ bot = "fast" ∧ leverage = 10

theorem twoBots_opened_as_asked_iff :
    (∀ steps : List LeverageStep, (∀ step ∈ steps, step.Among twoBots) →
        OpenedAsAsked (run (leverageStep 3600) { leverage := fun _ => 1 } steps)) ↔
      ∀ bot bot' symbol leverage leverage', twoBots bot symbol leverage →
        twoBots bot' symbol leverage' → leverage = leverage' :=
  opened_as_asked_iff (by norm_num) (fun _ => 1) twoBots

end Scalper.Exchange.Bybit
