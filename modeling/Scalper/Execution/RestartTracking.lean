import Scalper.Execution.Restart
import Scalper.Paper.Persistence

/-!
# What start-up reconciliation closes

An adapter reports the positions of its sub-account, and `position_state` is keyed by bot.  Several
bots may share a sub-account, and the paper bots, whose positions are in `paper_positions`, are in the
pool too.  So a position without a row of the bot that reports it need not be untracked.

`log_reconcileOnStartup_eq` gives the whole log of a reconciliation, also of one that raises.
`closesOnlyUntracked_iff` says exactly when all market closes hit positions that no bot tracks;
`closesOnlyUntracked_of_exclusive` names the pools where they do, and `sharedPool_closes_tracked` is a
pool of two bots in which a healthy position is closed.
-/

set_option autoImplicit false

namespace Scalper.Execution

open Scalper.Lib Scalper.Exchange Scalper.Paper

/-! ## The log of any reconciliation -/

/-- An action, or a read of positions that raised. -/
abbrev StartupStep := Except CallError ReconcileAction

section Steps

variable (t : StartupInput)

/-- The steps, bot after bot. -/
def StartupInput.steps : List StartupStep :=
  t.adapters.flatMap fun botId =>
    match t.getPositions botId with
    | .error raised => [.error raised]
    | .ok positions =>
        (botActions (t.db.selectPositionStatesForBots t.adapters) botId positions).map .ok

def performStep (step : StartupStep) (s : Startup) : Except CallError Unit × Startup :=
  match step with
  | .error raised => (.error raised, s)
  | .ok action => action.perform t s

def StartupInput.stepReturns : StartupStep → Bool
  | .error _ => false
  | .ok action => t.returns action

/-- The actions that are done before a step raises. -/
def StartupInput.done : List ReconcileAction :=
  (t.steps.takeWhile t.stepReturns).filterMap Except.toOption

variable {t}

theorem reconcileOnStartup_eq_steps :
    reconcileOnStartup t = forEach (performStep t) t.steps { db := t.db, tasks := t.tasks } := by
  refine forEach_flatMap (fun botId known s => ?_) _
  unfold reconcileBot
  cases t.getPositions botId with
  | error raised => rfl
  | ok positions =>
      have mapped : forEach (performStep t) ((botActions
          (t.db.selectPositionStatesForBots t.adapters) botId positions).map .ok) s = _ :=
        forEach_map _ _ s
      exact mapped.symm

theorem action_of_mem_steps {action : ReconcileAction} (member : .ok action ∈ t.steps) :
    t.action action.key = some action := by
  simp only [StartupInput.steps, List.mem_flatMap] at member
  obtain ⟨botId, known, listed⟩ := member
  split at listed
  · cases List.mem_singleton.mp listed
  · rename_i positions answer
    obtain ⟨_, listed, same⟩ := List.mem_map.mp listed
    cases same
    obtain ⟨rfl, made⟩ := (mem_botActions known).mp listed
    rw [StartupInput.action, if_pos known, StartupInput.openOn, answer]
    exact made

theorem log_forEach_performStep (anchored : Anchored t.db) {steps : List StartupStep}
    (made : ∀ action, .ok action ∈ steps → t.action action.key = some action) {s : Startup}
    (kept : t.Kept s) :
    (forEach (performStep t) steps s).2.log =
      s.log ++ ((steps.takeWhile t.stepReturns).filterMap Except.toOption).flatMap
        t.treatment := by
  induction steps generalizing s with
  | nil => simp [forEach]
  | cons step steps ih =>
      cases step with
      | error raised =>
          rw [forEach_cons_of_error (show (performStep t (.error raised) s).1 = .error raised from rfl)]
          simp [performStep, StartupInput.stepReturns]
      | ok action =>
          have here := made action List.mem_cons_self
          cases returns : t.returns action with
          | false =>
              have raises := perform_of_not_returns kept returns
              have outcome : performStep t (.ok action) s = (.error .other, s) := raises
              rw [forEach_cons_of_error (congrArg Prod.fst outcome), outcome]
              simp [StartupInput.stepReturns, returns]
          | true =>
              have outcome : performStep t (.ok action) s = _ := perform_of_kept kept here returns
              rw [forEach_cons_of_ok (by rw [outcome]), performStep,
                ih (fun later member => made later (List.mem_cons_of_mem _ member))
                  (kept.perform anchored here), perform_of_kept kept here returns]
              simp [StartupInput.stepReturns, returns, Except.toOption]

/-- The log of a reconciliation is that of the actions that were done. -/
theorem log_reconcileOnStartup_eq (anchored : Anchored t.db) :
    (reconcileOnStartup t).2.log = t.done.flatMap t.treatment := by
  rw [reconcileOnStartup_eq_steps, log_forEach_performStep anchored
    (fun action => action_of_mem_steps) (.start t)]
  rfl

theorem action_of_mem_done {action : ReconcileAction} (member : action ∈ t.done) :
    t.action action.key = some action := by
  obtain ⟨step, listed, done⟩ := List.mem_filterMap.mp member
  cases step with
  | error raised => cases done
  | ok other =>
      cases done
      exact action_of_mem_steps ((List.takeWhile_prefix _).subset listed)

/-- A market close in the log. -/
theorem mem_log_marketClosed (anchored : Anchored t.db) {key : PositionKey} {size : ℚ}
    {side closeSide : Side} :
    .orphanExchangeMarketClosed key size side closeSide ∈ (reconcileOnStartup t).2.log ↔
      ∃ botId position exchangeOrderId, .orphanExchange botId position ∈ t.done ∧
        key = (botId, position.symbol) ∧ position.size = size ∧ position.side = some side ∧
        closeSide = side.opposite ∧ t.db.selectRecentOpenTradeExists key (t.since key) = false ∧
        t.placeMarketOrder key = .ok exchangeOrderId := by
  rw [log_reconcileOnStartup_eq anchored, List.mem_flatMap]
  constructor
  · rintro ⟨action, done, logged⟩
    cases action with
    | orphanDb row =>
        simp only [StartupInput.treatment] at logged
        split at logged <;> cases List.mem_singleton.mp logged
    | orphanExchange botId position =>
        simp only [StartupInput.treatment] at logged
        split at logged
        · cases logged
        · rename_i side' sided
          split_ifs at logged with recent
          · cases List.mem_singleton.mp logged
          · split at logged
            · cases List.mem_singleton.mp logged
            · rename_i exchangeOrderId placed
              cases List.mem_singleton.mp logged
              exact ⟨botId, position, exchangeOrderId, done, rfl, rfl, sided, rfl,
                by simpa using recent, placed⟩
    | matching row => cases List.mem_singleton.mp logged
  · rintro ⟨botId, position, exchangeOrderId, done, rfl, rfl, sided, rfl, recent, placed⟩
    refine ⟨_, done, ?_⟩
    simp [StartupInput.treatment, sided, recent, placed]

end Steps

/-! ## Pools -/

/-- A pool: whose sub-account a bot trades on, and the paper bots with their table, which is what
their adapters report. -/
structure Pool extends StartupInput where
  subAccount : String → String
  paperBotIds : List String := []
  paperPositions : List PaperPosition := []
  paperReports : ∀ botId ∈ paperBotIds, ∀ positions, getPositions botId = .ok positions →
    (positions.map fun position => (position.symbol, position.side, position.size)) =
      (paperPositions.filter (·.botId = botId)).map fun row =>
        (row.symbol, some row.side, row.remainingQty)

namespace Pool

variable (p : Pool)

/-- The bot has a paper position in the symbol. -/
def hasPaperRow (key : PositionKey) : Prop :=
  ∃ row ∈ p.paperPositions, row.botId = key.1 ∧ row.symbol = key.2

/-- Some bot of the sub-account has a row for the symbol, or the bot has a paper position. -/
def tracked (key : PositionKey) : Prop :=
  (∃ botId, p.subAccount botId = p.subAccount key.1 ∧
    (p.db.positions.lookup (botId, key.2)).isSome) ∨ p.hasPaperRow key

/-- What is market-closed is tracked by no bot. -/
def ClosesOnlyUntracked : Prop :=
  ∀ key size side closeSide, .orphanExchangeMarketClosed key size side closeSide ∈
    (reconcileOnStartup p.toStartupInput).2.log → ¬ p.tracked key

/-- The reconciliation comes to a position without a row of its bot and without a recent open trade,
and its close is accepted. -/
def closes (botId : String) (position : Position) : Prop :=
  .orphanExchange botId position ∈ p.done ∧
    p.db.selectRecentOpenTradeExists (botId, position.symbol)
      (p.since (botId, position.symbol)) = false ∧
    ∃ exchangeOrderId, p.placeMarketOrder (botId, position.symbol) = .ok exchangeOrderId

end Pool

section Tracking

variable {p : Pool}

/-- **Only untracked positions are closed if and only if no position the reconciliation closes has a
row of another bot of the sub-account or is a paper position.** -/
theorem closesOnlyUntracked_iff (p : Pool) (anchored : Anchored p.db) :
    p.ClosesOnlyUntracked ↔
      ∀ botId position, p.closes botId position →
        (∀ other, other ≠ botId → p.subAccount other = p.subAccount botId →
          p.db.positions.lookup (other, position.symbol) = none) ∧
        ¬ p.hasPaperRow (botId, position.symbol) := by
  constructor
  · rintro untracked botId position ⟨done, recent, exchangeOrderId, placed⟩
    have made := action_of_mem_done done
    obtain ⟨_, side, sided⟩ := openOn_eq_some (action_eq_orphanExchange.mp made).2.2.2
    have closed := untracked (botId, position.symbol) position.size side side.opposite
      ((mem_log_marketClosed anchored).mpr
        ⟨botId, position, exchangeOrderId, done, rfl, rfl, sided, rfl, recent, placed⟩)
    obtain ⟨rows, paper⟩ := not_or.mp closed
    refine ⟨fun other _ shared => ?_, paper⟩
    by_contra held
    exact rows ⟨other, shared, Option.isSome_iff_ne_none.mpr held⟩
  · intro met key size side closeSide logged
    obtain ⟨botId, position, exchangeOrderId, done, rfl, rfl, sided, rfl, recent, placed⟩ :=
      (mem_log_marketClosed anchored).mp logged
    obtain ⟨rows, paper⟩ := met botId position ⟨done, recent, exchangeOrderId, placed⟩
    rintro (⟨other, shared, held⟩ | held)
    · by_cases own : other = botId
      · subst own
        have untracked := (action_eq_orphanExchange.mp (action_of_mem_done done)).2.2.1
        rw [show p.db.positions.lookup (other, position.symbol) = none from untracked] at held
        cases held
      · rw [rows other own shared] at held
        cases held
    · exact paper held

/-- Two bots on sub-accounts of their own. -/
def ownPool : Pool where
  toStartupInput := restartInput
  subAccount := id
  paperReports := by simp

theorem ownPool_closesOnlyUntracked : ownPool.ClosesOnlyUntracked := by
  refine (closesOnlyUntracked_iff ownPool restartInput_anchored).mpr fun botId position _ => ⟨?_, ?_⟩
  · exact fun other apart shared => absurd shared apart
  · rintro ⟨row, listed, _⟩
    cases listed

/-- Bots with a sub-account each and no paper positions. -/
theorem closesOnlyUntracked_of_exclusive (anchored : Anchored p.db)
    (exclusive : Function.Injective p.subAccount) (noPaper : p.paperPositions = []) :
    p.ClosesOnlyUntracked := by
  refine (closesOnlyUntracked_iff p anchored).mpr fun botId position _ => ⟨?_, ?_⟩
  · exact fun other apart shared => absurd (exclusive shared) apart
  · rintro ⟨row, listed, _⟩
    rw [noPaper] at listed
    cases listed

/-- Bots `a` and `b` share a sub-account; the position in it is a long of `a`. -/
def sharedPool : Pool where
  adapters := ["a", "b"]
  db :=
    { trades := [restartTrade 1 "BTCUSDT"]
      positions := (∅ : AList fun _ : PositionKey => PositionStateRow).insert ("a", "BTCUSDT")
        (restartRow 1) }
  getPositions := fun _ => .ok [restartPosition "BTCUSDT"]
  placeMarketOrder := fun _ => .ok "close"
  raceWindow := 30
  now := fun _ => 1000
  tickSize := fun _ => 1
  distinct := restartAdapters_distinct
  subAccount := fun _ => "main"
  paperReports := by simp

/-- The healthy position of `a` is closed in the name of `b`. -/
theorem sharedPool_closes_tracked :
    .orphanExchangeMarketClosed ("b", "BTCUSDT") 1 .buy .sell ∈
        (reconcileOnStartup sharedPool.toStartupInput).2.log ∧
      sharedPool.tracked ("b", "BTCUSDT") ∧ ¬ sharedPool.ClosesOnlyUntracked := by
  have closed : .orphanExchangeMarketClosed ("b", "BTCUSDT") 1 .buy .sell ∈
      (reconcileOnStartup sharedPool.toStartupInput).2.log := by decide +kernel
  have tracked : sharedPool.tracked ("b", "BTCUSDT") := .inl ⟨"a", rfl, by decide +kernel⟩
  exact ⟨closed, tracked, fun untracked => untracked _ _ _ _ closed tracked⟩

end Tracking

end Scalper.Execution
