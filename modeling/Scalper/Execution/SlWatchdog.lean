import Scalper.Execution.Watchdog
import Scalper.Execution.Matching

/-!
# The stop-loss watchdog

`services/execution/app/sl_watchdog.py`.  A tick reads the position rows of all live bots, asks
each bot's adapter for its positions, and counts for every `(bot, symbol)` the ticks in a row in
which a tracked, open position had no stop; at the threshold it closes the position
(`emergency_close_tracked_position`) and starts over.  A bot whose adapter raises is passed over.
At the end the counters of observed bots that were not confirmed are pruned.

Every key is a slot of its own (`Slot`): what a tick leaves of it is decided by what the tick saw of
it (`Sight`) and by what was in it (`slot_runSlWatchdogTick`).
`run_counts` reads the counters over whole runs of ticks as the number of ticks in a row, and the
emergency closes as the moments at which that number reaches the threshold.
`isolated_iff` says when a tick is finished for every bot: the row read must return, and so must
every emergency close; the helper lets all errors of its order but one through
(`rejectedClose_stops`).
-/

set_option autoImplicit false

namespace Scalper.Execution

open Scalper.Lib Scalper.Exchange

/-! ## Calls and their outcomes -/

/-- How an emergency close goes: the closing order, and whether the database keeps up.  The
announcement at its end is caught. -/
structure CloseOutcome where
  place : Except CallError String
  closeAt : ℕ
  commits : Bool := true

/-- `emergency_close_tracked_position`: of the errors of its order only `UnknownState` is caught. -/
def emergencyCloseTracked (key : PositionKey) (ps : PositionStateRow) (outcome : CloseOutcome)
    (db : Db) : Except CallError Unit × Db :=
  match outcome.place with
  | .error (.exchange (.unknownState _)) => (.ok (), db)
  | .error raised => (.error raised, db)
  | .ok closeExchangeOrderId =>
      (.ok (), emergencyCloseTrackedPosition key ps closeExchangeOrderId outcome.closeAt
        outcome.commits db)

/-- The closing order is accepted, or ends in `UnknownState`. -/
def CloseOutcome.returns (outcome : CloseOutcome) : Bool :=
  match outcome.place with
  | .ok _ | .error (.exchange (.unknownState _)) => true
  | .error _ => false

/-- Everything a tick meets: the bots of the pool in order and the paper bots among them, the
tables, and how each call ends. -/
structure WatchInput where
  adapters : List String
  paperBotIds : List String := []
  missingThresholdTicks : ℤ
  db : Db := {}
  readsRows : Bool := true
  getPositions : String → Except CallError (List Position)
  close : PositionKey → CloseOutcome
  distinct : adapters.Nodup

def WatchInput.liveBotIds (t : WatchInput) : List String :=
  t.adapters.filter fun botId => !t.paperBotIds.contains botId

/-- `sl_miss_counters`. -/
abbrev SlMissCounters := PositionKey → Option ℕ

/-- What a tick works on, with the adapters it has asked and the closes it has called. -/
structure WatchState where
  counters : SlMissCounters
  db : Db
  botsObserved : List String := []
  seenEligible : List PositionKey := []
  asked : List String := []
  closed : List PositionKey := []

/-! ## A tick -/

/-- `pos.sl_price is None or pos.sl_price <= 0`. -/
def slMissing (position : Position) : Bool := position.slPrice.all fun slPrice => decide (slPrice ≤ 0)

namespace WatchState

/-- A bot's positions are asked for. -/
def ask (botId : String) (s : WatchState) : WatchState := { s with asked := botId :: s.asked }

/-- `bots_observed.add(bot_key)`. -/
def observe (botId : String) (s : WatchState) : WatchState :=
  { s with botsObserved := botId :: s.botsObserved }

/-- `sl_miss_counters.pop(key, None)`. -/
def pop (key : PositionKey) (s : WatchState) : WatchState :=
  { s with counters := Function.update s.counters key none }

/-- The number the next miss of a key makes it. -/
def nextCount (key : PositionKey) (s : WatchState) : ℕ := (s.counters key).getD 0 + 1

/-- A miss of an eligible key is counted. -/
def miss (key : PositionKey) (s : WatchState) : WatchState :=
  { s with
    seenEligible := key :: s.seenEligible
    counters := Function.update s.counters key (some (s.nextCount key)) }

/-- An emergency close was called, and left these tables. -/
def close (key : PositionKey) (db : Db) (s : WatchState) : WatchState :=
  { s with db := db, closed := key :: s.closed }

/-- The end-of-tick prune. -/
def pruned (s : WatchState) : WatchState :=
  { s with
    counters := fun key =>
      if key.1 ∈ s.botsObserved ∧ key ∉ s.seenEligible then none else s.counters key }

end WatchState

section Tick

variable (t : WatchInput)

/-- The counter is dropped once the emergency close has returned. -/
def closeMissing (key : PositionKey) (ps : PositionStateRow) (s : WatchState) :
    Except CallError Unit × WatchState :=
  match emergencyCloseTracked key ps (t.close key) s.db with
  | (.error raised, db) => (.error raised, s.close key db)
  | (.ok (), db) => (.ok (), (s.close key db).pop key)

/-- The body of the loop over a bot's open positions. -/
def watchPosition (botId : String) (rows : List KeyedRow) (position : Position) (s : WatchState) :
    Except CallError Unit × WatchState :=
  match rows.find? (·.1.2 = position.symbol) with
  | none => (.ok (), s)
  | some (_, ps) =>
      let key := (botId, position.symbol)
      if slMissing position then
        if t.missingThresholdTicks ≤ s.nextCount key then closeMissing t key ps (s.miss key)
        else (.ok (), s.miss key)
      else (.ok (), s.pop key)

/-- The body of the loop over the live bots. -/
def watchBot (rows : List KeyedRow) (botId : String) (s : WatchState) :
    Except CallError Unit × WatchState :=
  match t.getPositions botId with
  | .error _ => (.ok (), s.ask botId)
  | .ok positions =>
      forEach (watchPosition t botId (dbRows rows botId)) (exPositions positions)
        ((s.ask botId).observe botId)

/-- The loop over the live bots. -/
def watchBots (counters : SlMissCounters) : Except CallError Unit × WatchState :=
  forEach (watchBot t (t.db.selectPositionStatesForBots t.liveBotIds)) t.liveBotIds
    { counters := counters, db := t.db }

/-- `run_sl_watchdog_tick`. -/
def runSlWatchdogTick (counters : SlMissCounters) : Except CallError Unit × WatchState :=
  if t.liveBotIds = [] then (.ok (), { counters := counters, db := t.db })
  else if t.readsRows then
    match watchBots t counters with
    | (.ok (), s) => (.ok (), s.pruned)
    | (.error raised, s) => (.error raised, s)
  else (.error .other, { counters := counters, db := t.db })

end Tick

/-! ## What a tick sees of a key -/

/-- The bot's positions were not read; the pair is tracked, open and without a stop; or anything
else. -/
inductive Sight where
  | unobserved
  | eligible
  | ineligible
  deriving DecidableEq, Repr

def WatchInput.sight (t : WatchInput) (key : PositionKey) : Sight :=
  if key.1 ∈ t.liveBotIds ∧ t.readsRows = true then
    match t.getPositions key.1 with
    | .error _ => .unobserved
    | .ok positions =>
        match openPosition positions key.2, t.db.positions.lookup key with
        | some position, some _ => if slMissing position then .eligible else .ineligible
        | _, _ => .ineligible
  else .unobserved

/-! ## Slots -/

/-- What a tick has of one key. -/
structure Slot where
  counter : Option ℕ
  observed : Bool := false
  eligible : Bool := false
  closes : ℕ := 0
  deriving DecidableEq, Repr

def WatchState.slot (s : WatchState) (key : PositionKey) : Slot where
  counter := s.counters key
  observed := s.botsObserved.contains key.1
  eligible := s.seenEligible.contains key
  closes := s.closed.count key

/-- The number of ticks in a row that an eligible tick makes it. -/
def Slot.next (slot : Slot) : ℕ := slot.counter.getD 0 + 1

/-- The slot after the prune. -/
def Slot.pruned (slot : Slot) : Slot :=
  { slot with counter := if slot.observed && !slot.eligible then none else slot.counter }

section Operations

variable (s : WatchState) (key other : PositionKey)

@[simp] theorem slot_ask (botId : String) : (s.ask botId).slot key = s.slot key := rfl

theorem slot_observe (botId : String) :
    (s.observe botId).slot key =
      if key.1 = botId then { s.slot key with observed := true } else s.slot key := by
  by_cases same : key.1 = botId <;> simp [WatchState.slot, WatchState.observe, same]

theorem slot_pruned : s.pruned.slot key = (s.slot key).pruned := by
  simp [WatchState.slot, WatchState.pruned, Slot.pruned]

theorem slot_pop :
    (s.pop key).slot other =
      if other = key then { s.slot other with counter := none } else s.slot other := by
  by_cases same : other = key
  · subst same
    simp [WatchState.slot, WatchState.pop]
  · simp [WatchState.slot, WatchState.pop, same]

theorem slot_miss :
    (s.miss key).slot other =
      if other = key then
        { s.slot other with counter := some (s.slot other).next, eligible := true }
      else s.slot other := by
  by_cases same : other = key
  · subst same
    simp [WatchState.slot, WatchState.miss, WatchState.nextCount, Slot.next]
  · simp [WatchState.slot, WatchState.miss, same]

theorem slot_close (db : Db) :
    (s.close key db).slot other =
      if other = key then { s.slot other with closes := (s.slot other).closes + 1 }
      else s.slot other := by
  by_cases same : other = key
  · subst same
    simp [WatchState.slot, WatchState.close]
  · have apart : key ≠ other := fun equal => same equal.symm
    simp [WatchState.slot, WatchState.close, same, List.count_cons_of_ne apart]

end Operations

section Slots

variable (t : WatchInput)

/-- What an open position of the key does to the slot. -/
def Slot.sees (key : PositionKey) (position : Position) (slot : Slot) : Slot :=
  match t.db.positions.lookup key with
  | none => slot
  | some _ =>
      if slMissing position then
        if t.missingThresholdTicks ≤ slot.next then
          { slot with
            counter := if (t.close key).returns then none else some slot.next
            eligible := true, closes := slot.closes + 1 }
        else { slot with counter := some slot.next, eligible := true }
      else { slot with counter := none }

/-- The slot after its bot was asked. -/
def Slot.asked (key : PositionKey) (slot : Slot) : Slot :=
  match t.getPositions key.1 with
  | .error _ => slot
  | .ok positions =>
      match openPosition positions key.2 with
      | none => { slot with observed := true }
      | some position => { slot with observed := true }.sees t key position

/-- An emergency close is due. -/
def Slot.due (slot : Slot) (key : PositionKey) : Prop :=
  t.sight key = .eligible ∧ t.missingThresholdTicks ≤ slot.next

variable {t}

theorem emergencyCloseTracked_ok_iff (key : PositionKey) (ps : PositionStateRow) (db : Db)
    {outcome : CloseOutcome} :
    (emergencyCloseTracked key ps outcome db).1 = .ok () ↔ outcome.returns = true := by
  unfold emergencyCloseTracked CloseOutcome.returns
  split <;> simp_all

theorem closeMissing_ok_iff (key : PositionKey) (ps : PositionStateRow) (s : WatchState) :
    (closeMissing t key ps s).1 = .ok () ↔ (t.close key).returns = true := by
  rw [← emergencyCloseTracked_ok_iff key ps s.db, closeMissing]
  split <;> simp_all

theorem slot_closeMissing (key other : PositionKey) (ps : PositionStateRow) (s : WatchState) :
    (closeMissing t key ps s).2.slot other =
      if other = key then
        { s.slot other with
          counter := if (t.close key).returns then none else (s.slot other).counter
          closes := (s.slot other).closes + 1 }
      else s.slot other := by
  have returned := closeMissing_ok_iff (t := t) key ps s
  rw [closeMissing] at returned ⊢
  split at returned
  · have raises : (t.close key).returns = false := by simpa using returned
    rw [slot_close]
    simp [raises]
  · have returns : (t.close key).returns = true := returned.mp rfl
    rw [slot_pop, slot_close]
    split_ifs <;> simp_all

section OnePosition

variable {botIds : List String} {botId : String} {position : Position} {s : WatchState}

theorem slot_watchPosition (known : botId ∈ botIds) (key : PositionKey) :
    (watchPosition t botId (dbRows (t.db.selectPositionStatesForBots botIds) botId) position
        s).2.slot key =
      if key = (botId, position.symbol) then (s.slot key).sees t key position else s.slot key := by
  rw [watchPosition, find?_dbRows known]
  cases held : t.db.positions.lookup (botId, position.symbol) with
  | none =>
      by_cases here : key = (botId, position.symbol)
      · subst here
        simp [Slot.sees, held]
      · simp [here]
  | some ps =>
      have count : s.nextCount (botId, position.symbol) =
          (s.slot (botId, position.symbol)).next := rfl
      by_cases here : key = (botId, position.symbol)
      · subst here
        simp only [Option.map_some, count, if_true, Slot.sees, held]
        split_ifs with missing due returns
        · simp [slot_closeMissing, slot_miss, returns]
        · simp [slot_closeMissing, slot_miss, returns]
        · simp [slot_miss]
        · simp [slot_pop]
      · simp only [Option.map_some, if_neg here]
        split_ifs
        · simp [slot_closeMissing, slot_miss, here]
        · simp [slot_miss, here]
        · simp [slot_pop, here]

/-- The loop over a bot's positions goes on unless an emergency close is due and raises. -/
theorem watchPosition_ok_iff (known : botId ∈ botIds) :
    (watchPosition t botId (dbRows (t.db.selectPositionStatesForBots botIds) botId) position
        s).1 = .ok () ↔
      ((t.db.positions.lookup (botId, position.symbol)).isSome → slMissing position = true →
        t.missingThresholdTicks ≤ (s.slot (botId, position.symbol)).next →
        (t.close (botId, position.symbol)).returns = true) := by
  rw [watchPosition, find?_dbRows known]
  cases held : t.db.positions.lookup (botId, position.symbol) with
  | none => simp
  | some ps =>
      have count : s.nextCount (botId, position.symbol) =
          (s.slot (botId, position.symbol)).next := rfl
      simp only [Option.map_some, count, Option.isSome_some, true_implies]
      split_ifs with missing due
      · simp [closeMissing_ok_iff, missing, due]
      · simp [due]
      · simp [missing]

/-- A bot's turn, whether it raises or not, leaves the keys of other bots alone. -/
theorem slot_watchBot_of_ne (known : botId ∈ botIds) {key : PositionKey} (other : key.1 ≠ botId) :
    (watchBot t (t.db.selectPositionStatesForBots botIds) botId s).2.slot key = s.slot key := by
  unfold watchBot
  split
  · rfl
  · rw [forEach_kept (fun s : WatchState => s.slot key), slot_observe, if_neg other,
      slot_ask]
    intro position _ s
    rw [slot_watchPosition known, if_neg fun same => other (congrArg Prod.fst same)]

/-- A bot's turn that does not raise. -/
theorem slot_watchBot (known : botId ∈ botIds) (symbol : String)
    (returns : (watchBot t (t.db.selectPositionStatesForBots botIds) botId s).1 = .ok ()) :
    (watchBot t (t.db.selectPositionStatesForBots botIds) botId s).2.slot (botId, symbol) =
      (s.slot (botId, symbol)).asked t (botId, symbol) := by
  unfold watchBot Slot.asked at *
  cases answer : t.getPositions botId with
  | error _ => rfl
  | ok positions =>
      simp only [answer] at returns ⊢
      rw [view_forEach_of_distinct Position.symbol
        (fun symbol (s : WatchState) => s.slot (botId, symbol))
        (fun position slot => slot.sees t (botId, symbol) position) ?_ ?_
        (nodup_symbols_exPositions positions) returns, find?_exPositions, slot_observe, if_pos rfl,
        slot_ask]
      · cases openPosition positions symbol <;> rfl
      · rintro position _ s rfl _
        rw [slot_watchPosition known, if_pos rfl]
      · intro position _ s other
        rw [slot_watchPosition known, if_neg fun same => other (congrArg Prod.snd same).symm]

end OnePosition

end Slots

section Ticks

variable {t : WatchInput}

theorem nodup_liveBotIds : t.liveBotIds.Nodup := t.distinct.filter _

theorem sight_eligible_iff (key : PositionKey) (live : key.1 ∈ t.liveBotIds)
    (reads : t.readsRows = true) :
    t.sight key = .eligible ↔
      ∃ positions position, t.getPositions key.1 = .ok positions ∧
        openPosition positions key.2 = some position ∧
        (t.db.positions.lookup key).isSome ∧ slMissing position = true := by
  rw [WatchInput.sight, if_pos ⟨live, reads⟩]
  cases t.getPositions key.1 with
  | error _ => simp
  | ok positions =>
      cases held : openPosition positions key.2 <;> cases t.db.positions.lookup key <;> simp [held]

theorem watchBot_ok_iff {botId : String} {s : WatchState} (live : botId ∈ t.liveBotIds)
    (reads : t.readsRows = true) :
    (watchBot t (t.db.selectPositionStatesForBots t.liveBotIds) botId s).1 = .ok () ↔
      ∀ symbol, (s.slot (botId, symbol)).due t (botId, symbol) →
        (t.close (botId, symbol)).returns = true := by
  have dueIff (symbol : String) := sight_eligible_iff (botId, symbol) live reads
  simp only [Slot.due, dueIff]
  unfold watchBot
  cases t.getPositions botId with
  | error _ => simp
  | ok positions =>
      simp only
      rw [forEach_ok_iff_of_distinct Position.symbol
        (fun symbol (s : WatchState) => s.slot (botId, symbol))
        (fun position slot =>
          (t.db.positions.lookup (botId, position.symbol)).isSome → slMissing position = true →
            t.missingThresholdTicks ≤ slot.next →
            (t.close (botId, position.symbol)).returns = true)
        (fun position _ s => watchPosition_ok_iff live) ?_ (nodup_symbols_exPositions positions)]
      · simp only [slot_observe, slot_ask, if_true, Slot.next]
        constructor
        · rintro good symbol ⟨⟨_, position, equal, held, tracked, missing⟩, due⟩
          cases equal
          have here : position.symbol = symbol := openPosition_symbol held
          subst here
          exact good position (mem_exPositions.mpr held) tracked missing due
        · intro good position member tracked missing due
          exact good position.symbol
            ⟨⟨positions, position, rfl, mem_exPositions.mp member, tracked, missing⟩, due⟩
      · intro position _ s symbol other
        rw [slot_watchPosition live, if_neg fun same => other (congrArg Prod.snd same).symm]

theorem runSlWatchdogTick_of_none (none : t.liveBotIds = []) (counters : SlMissCounters) :
    runSlWatchdogTick t counters = (.ok (), { counters := counters, db := t.db }) :=
  if_pos none

/-- The tick ends as its loop over the bots does. -/
theorem runSlWatchdogTick_of_reads (some : t.liveBotIds ≠ []) (reads : t.readsRows = true)
    (counters : SlMissCounters) :
    runSlWatchdogTick t counters =
      ((watchBots t counters).1,
        if (watchBots t counters).1 = .ok () then (watchBots t counters).2.pruned
        else (watchBots t counters).2) := by
  rw [runSlWatchdogTick, if_neg some, if_pos reads]
  split <;> simp_all

theorem watchBots_ok_iff (reads : t.readsRows = true) (counters : SlMissCounters) :
    (watchBots t counters).1 = .ok () ↔
      ∀ botId ∈ t.liveBotIds, ∀ symbol,
        ({ counter := counters (botId, symbol) } : Slot).due t (botId, symbol) →
          (t.close (botId, symbol)).returns = true :=
  forEach_ok_iff_of_distinct id
    (fun botId (s : WatchState) symbol => s.slot (botId, symbol))
    (fun botId slots => ∀ symbol, (slots symbol).due t (botId, symbol) →
      (t.close (botId, symbol)).returns = true)
    (fun _ live _ => watchBot_ok_iff live reads)
    (fun _ live _ _ apart => funext fun _ => slot_watchBot_of_ne live fun same => apart same.symm)
    (by simpa using nodup_liveBotIds) { counters := counters, db := t.db }

/-- Every live bot has had its turn. -/
theorem slot_watchBots {counters : SlMissCounters} {key : PositionKey}
    (live : key.1 ∈ t.liveBotIds) (returns : (watchBots t counters).1 = .ok ()) :
    (watchBots t counters).2.slot key = ({ counter := counters key } : Slot).asked t key := by
  refine (view_forEach_of_distinct id
    (fun botId (s : WatchState) => s.slot (botId, key.2))
    (fun _ slot => slot.asked t key) (k := key.1) ?_ ?_ (by simpa using nodup_liveBotIds)
    returns).trans ?_
  · rintro botId known s rfl ended
    exact slot_watchBot known key.2 ended
  · exact fun botId known s apart => slot_watchBot_of_ne known fun same => apart same.symm
  · have found : t.liveBotIds.find? (id · = key.1) = some key.1 :=
      (find?_key_eq_some_iff (by simpa using nodup_liveBotIds)).mpr ⟨live, rfl⟩
    rw [found]
    rfl

theorem not_due_of_unseen {key : PositionKey} {slot : Slot}
    (unseen : ¬ (key.1 ∈ t.liveBotIds ∧ t.readsRows = true)) : ¬ slot.due t key := by
  rintro ⟨seen, _⟩
  rw [WatchInput.sight, if_neg unseen] at seen
  cases seen

/-- A tick is finished unless the row read or an emergency close that is due raises. -/
theorem runSlWatchdogTick_ok_iff (counters : SlMissCounters) :
    (runSlWatchdogTick t counters).1 = .ok () ↔
      (t.liveBotIds = [] ∨ t.readsRows = true) ∧
        ∀ key, ({ counter := counters key } : Slot).due t key → (t.close key).returns = true := by
  by_cases none : t.liveBotIds = []
  · rw [runSlWatchdogTick_of_none none]
    exact ⟨fun _ => ⟨.inl none, fun key due => (not_due_of_unseen (by simp [none]) due).elim⟩,
      fun _ => rfl⟩
  by_cases reads : t.readsRows = true
  · rw [runSlWatchdogTick_of_reads none reads, watchBots_ok_iff reads]
    constructor
    · refine fun good => ⟨.inr reads, fun key due => ?_⟩
      by_cases live : key.1 ∈ t.liveBotIds
      · exact good key.1 live key.2 due
      · exact (not_due_of_unseen (fun seen => live seen.1) due).elim
    · exact fun good botId _ symbol due => good.2 (botId, symbol) due
  · simp [runSlWatchdogTick, none, reads]

/-- A finished tick takes every key through the turn of its bot and the prune. -/
theorem slot_runSlWatchdogTick {counters : SlMissCounters} {key : PositionKey}
    (finished : (runSlWatchdogTick t counters).1 = .ok ()) :
    (runSlWatchdogTick t counters).2.slot key =
      if key.1 ∈ t.liveBotIds then (({ counter := counters key } : Slot).asked t key).pruned
      else { counter := counters key } := by
  by_cases none : t.liveBotIds = []
  · rw [runSlWatchdogTick_of_none none, if_neg (by simp [none])]
    rfl
  have reads := ((runSlWatchdogTick_ok_iff counters).mp finished).1.resolve_left none
  rw [runSlWatchdogTick_of_reads none reads] at finished ⊢
  simp only at finished
  rw [if_pos finished, slot_pruned]
  split_ifs with live
  · rw [slot_watchBots live finished]
  · have untouched : (watchBots t counters).2.slot key = { counter := counters key } :=
      forEach_kept (fun s : WatchState => s.slot key)
        (fun botId known s => slot_watchBot_of_ne known fun same => live (same ▸ known)) _
    rw [untouched]
    rfl

/-- What a tick makes of a slot. -/
def Slot.ticked (t : WatchInput) (key : PositionKey) (slot : Slot) : Slot :=
  match t.sight key with
  | .unobserved => slot
  | .ineligible => { slot with counter := none, observed := true }
  | .eligible =>
      { counter := if t.missingThresholdTicks ≤ slot.next then none else some slot.next
        observed := true
        eligible := true
        closes := if t.missingThresholdTicks ≤ slot.next then 1 else 0 }

/-- What a tick leaves of a key depends on what it saw of it and on what its slot held. -/
theorem ticked_of_finished (key : PositionKey) {counters : SlMissCounters}
    (finished : (runSlWatchdogTick t counters).1 = .ok ()) :
    (runSlWatchdogTick t counters).2.slot key =
      ({ counter := counters key } : Slot).ticked t key := by
  have closes := ((runSlWatchdogTick_ok_iff counters).mp finished).2 key
  rw [slot_runSlWatchdogTick finished]
  split_ifs with live
  · have reads : t.readsRows = true :=
      ((runSlWatchdogTick_ok_iff counters).mp finished).1.resolve_left (List.ne_nil_of_mem live)
    have seen : t.sight key = _ := if_pos ⟨live, reads⟩
    unfold Slot.due at closes
    unfold Slot.ticked Slot.asked
    cases answer : t.getPositions key.1 with
    | error _ => simp [seen, answer, Slot.pruned]
    | ok positions =>
        simp only [answer] at seen ⊢
        cases held : openPosition positions key.2 with
        | none => simp [seen, held, Slot.pruned]
        | some position =>
            simp only [held, Slot.sees] at seen ⊢
            cases tracked : t.db.positions.lookup key with
            | none => simp [seen, tracked, Slot.pruned]
            | some ps =>
                simp only [tracked] at seen ⊢
                cases missing : slMissing position with
                | false => simp [seen, missing, Slot.pruned]
                | true =>
                    rw [missing, if_pos rfl] at seen
                    by_cases due : t.missingThresholdTicks ≤
                      ((({ counter := counters key } : Slot).next : ℕ) : ℤ)
                    · have returns := closes ⟨seen, due⟩
                      simp only [seen, if_true, if_pos due, returns]
                      rw [if_pos (by exact due)]
                      rfl
                    · simp only [seen, if_true, if_neg due]
                      rw [if_neg (by exact due)]
                      rfl
  · rw [Slot.ticked, WatchInput.sight, if_neg fun seen => live seen.1]

/-- A tick in which emergency closes return is finished, or sees nothing. -/
theorem ticked_of_returns (returns : ∀ key, (t.close key).returns = true)
    (counters : SlMissCounters) (key : PositionKey) :
    (runSlWatchdogTick t counters).2.slot key =
      ({ counter := counters key } : Slot).ticked t key := by
  by_cases possible : t.liveBotIds = [] ∨ t.readsRows = true
  · exact ticked_of_finished key ((runSlWatchdogTick_ok_iff counters).mpr
      ⟨possible, fun key _ => returns key⟩)
  · obtain ⟨some, raises⟩ := not_or.mp possible
    have unseen : t.sight key = .unobserved := if_neg fun seen => raises seen.2
    rw [runSlWatchdogTick, if_neg some, if_neg raises, Slot.ticked, unseen]
    rfl

end Ticks

/-! ## Runs of ticks -/

/-- The counters between two ticks, and the ticks so far with the closes they called, latest
first. -/
structure WatchRun where
  counters : SlMissCounters := fun _ => none
  past : List (WatchInput × List PositionKey) := []

def watchStep (t : WatchInput) (s : WatchRun) : WatchRun where
  counters := (runSlWatchdogTick t s.counters).2.counters
  past := (t, (runSlWatchdogTick t s.counters).2.closed) :: s.past

/-- The pair was tracked, open and without a stop, and was not closed for it. -/
def missed (key : PositionKey) (tick : WatchInput × List PositionKey) : Bool :=
  decide (tick.1.sight key = .eligible) && !tick.2.contains key

/-- The misses in a row among the ticks that observed the bot. -/
def streak (key : PositionKey) (past : List (WatchInput × List PositionKey)) : ℕ :=
  ((past.filter fun tick => decide (tick.1.sight key ≠ .unobserved)).takeWhile (missed key)).length

theorem streak_cons (key : PositionKey) (t : WatchInput) (closed : List PositionKey)
    (past : List (WatchInput × List PositionKey)) :
    streak key ((t, closed) :: past) =
      match t.sight key with
      | .unobserved => streak key past
      | .ineligible => 0
      | .eligible => if key ∈ closed then 0 else streak key past + 1 := by
  cases seen : t.sight key <;> simp [streak, missed, seen, List.takeWhile_cons]
  split_ifs <;> simp_all

/-- A tick leaves every counter at the misses in a row, does not touch a bot it did not observe, and
calls an emergency close for the pairs whose misses reach the threshold and for no others. -/
structure Counts (s : WatchRun) (t : WatchInput) : Prop where
  counter : ∀ key, ((watchStep t s).counters key).getD 0 = streak key (watchStep t s).past
  unobserved : ∀ key, t.sight key = .unobserved →
    (watchStep t s).counters key = s.counters key
  closes : ∀ key, (runSlWatchdogTick t s.counters).2.closed.count key =
    if t.sight key = .eligible ∧ t.missingThresholdTicks ≤ (streak key s.past + 1 : ℕ) then 1 else 0

theorem counts_of_streak {s : WatchRun} {t : WatchInput}
    (returns : ∀ key, (t.close key).returns = true)
    (counted : ∀ key, (s.counters key).getD 0 = streak key s.past) : Counts s t := by
  have slot (key : PositionKey) := ticked_of_returns returns s.counters key
  have closes : ∀ key, (runSlWatchdogTick t s.counters).2.closed.count key =
      if t.sight key = .eligible ∧ t.missingThresholdTicks ≤ (streak key s.past + 1 : ℕ) then 1
      else 0 := by
    intro key
    have closed := congrArg Slot.closes (slot key)
    rw [Slot.ticked, Slot.next, counted key] at closed
    cases seen : t.sight key <;> simpa [WatchState.slot, seen] using closed
  have counter (key : PositionKey) : (watchStep t s).counters key = _ :=
    congrArg Slot.counter (slot key)
  refine ⟨fun key => ?_, fun key unseen => ?_, closes⟩
  · have fired : key ∈ (runSlWatchdogTick t s.counters).2.closed ↔
        t.sight key = .eligible ∧ t.missingThresholdTicks ≤ (streak key s.past + 1 : ℕ) := by
      rw [← List.count_pos_iff, closes key]
      split_ifs with due
      · simp only [due, and_self, Nat.one_pos]
      · simp only [due, Nat.lt_irrefl]
    rw [counter key, watchStep, streak_cons, Slot.ticked, Slot.next, counted key]
    cases seen : t.sight key with
    | unobserved => exact counted key
    | ineligible => rfl
    | eligible =>
        simp only [fired, seen, true_and]
        split_ifs <;> rfl
  · rw [counter key, Slot.ticked, unseen]

/-- **Over every run of ticks in which emergency closes return, the counters are the misses in a
row, and the emergency closes are called when these reach the threshold.** -/
theorem run_counts (ticks : List WatchInput)
    (returns : ∀ t ∈ ticks, ∀ key, (t.close key).returns = true) :
    RunGuarded Counts watchStep {} ticks :=
  runGuarded_of_invariant
    (fun s : WatchRun => ∀ key, (s.counters key).getD 0 = streak key s.past)
    (fun _ _ counted returns => (counts_of_streak returns counted).counter)
    (fun _ _ counted returns => counts_of_streak returns counted) (fun _ => rfl)
    (runGuarded_of_forall returns)

section Examples

/-- A long row without a stop. -/
def watchedRow : PositionStateRow where
  tradeId := 1
  side := .buy
  entryPrice := 100
  qty := 1
  remainingQty := 1
  slPrice := none
  tpPrice := none
  slType := none
  updatedAt := 0

/-- An open position without a stop. -/
def nakedPosition : Position where
  symbol := "BTCUSDT"
  side := some .buy
  size := 1
  slPrice := none
  size_nonneg := by norm_num
  side_isSome_iff := by norm_num

/-- Two bots with such a position each; the closing order of the first ends as given. -/
def nakedTick (threshold : ℤ) (place : Except CallError String) : WatchInput where
  adapters := ["a", "b"]
  missingThresholdTicks := threshold
  db.positions :=
    (AList.singleton ("a", "BTCUSDT") watchedRow).insert ("b", "BTCUSDT") watchedRow
  getPositions := fun _ => .ok [nakedPosition]
  close := fun key =>
    { place := if key.1 = "a" then place else .ok "close", closeAt := 1 }
  distinct := by decide

/-- Three ticks without a stop are three misses, and the third closes the position. -/
theorem thirdMiss_closes :
    RunGuarded Counts watchStep {} (List.replicate 3 (nakedTick 3 (.ok "close"))) ∧
      (run watchStep {} (List.replicate 2 (nakedTick 3 (.ok "close")))).counters ("a", "BTCUSDT") =
        some 2 ∧
      (run watchStep {} (List.replicate 3 (nakedTick 3 (.ok "close")))).counters ("a", "BTCUSDT") =
        none := by
  refine ⟨run_counts _ fun t member key => ?_, by decide +kernel, by decide +kernel⟩
  rw [List.eq_of_mem_replicate member]
  simp [nakedTick, CloseOutcome.returns]

end Examples

/-! ## Isolation -/

/-- The tick does not raise, asks every live bot, and prunes. -/
structure Isolated (t : WatchInput) (counters : SlMissCounters) : Prop where
  returns : (runSlWatchdogTick t counters).1 = .ok ()
  asksAll : ∀ botId ∈ t.liveBotIds, botId ∈ (runSlWatchdogTick t counters).2.asked
  prunes : ∀ key, t.sight key = .ineligible → (runSlWatchdogTick t counters).2.counters key = none

section Asked

variable {t : WatchInput}

theorem asked_watchPosition {botId : String} {rows : List KeyedRow} {position : Position}
    {s : WatchState} : (watchPosition t botId rows position s).2.asked = s.asked := by
  unfold watchPosition
  split
  · rfl
  · simp only
    split_ifs
    · unfold closeMissing
      split <;> rfl
    · rfl
    · rfl

theorem asked_watchBot {rows : List KeyedRow} {botId : String} {s : WatchState} :
    (watchBot t rows botId s).2.asked = botId :: s.asked := by
  unfold watchBot
  split
  · rfl
  · exact forEach_kept WatchState.asked (fun _ _ _ => asked_watchPosition) _

theorem asked_watchBots {counters : SlMissCounters} {botId : String}
    (returns : (watchBots t counters).1 = .ok ()) (live : botId ∈ t.liveBotIds) :
    botId ∈ (watchBots t counters).2.asked := by
  have found : t.liveBotIds.find? (id · = botId) = some botId :=
    (find?_key_eq_some_iff (by simpa using nodup_liveBotIds)).mpr ⟨live, rfl⟩
  have asked := view_forEach_of_distinct id (k := botId)
    (fun botId (s : WatchState) => decide (botId ∈ s.asked))
    (fun _ _ => true) (fun other _ s here _ => by simp [asked_watchBot, ← here])
    (fun other _ s apart => by simp [asked_watchBot, show botId ≠ other from Ne.symm apart])
    (by simpa using nodup_liveBotIds) returns
  rw [found] at asked
  exact of_decide_eq_true asked

end Asked

/-- **A tick is finished for every bot if and only if the rows can be read and every emergency
close that is due returns.** -/
theorem isolated_iff (t : WatchInput) (counters : SlMissCounters) :
    Isolated t counters ↔
      (t.liveBotIds = [] ∨ t.readsRows = true) ∧
        ∀ key, t.sight key = .eligible →
          t.missingThresholdTicks ≤ ((counters key).getD 0 + 1 : ℕ) →
            (t.close key).returns = true := by
  have returns : (runSlWatchdogTick t counters).1 = .ok () ↔ _ := runSlWatchdogTick_ok_iff counters
  simp only [Slot.due, and_imp] at returns
  refine ⟨fun isolated => returns.mp isolated.returns, fun met => ?_⟩
  have finished := returns.mpr met
  refine ⟨finished, fun botId live => ?_, fun key seen => ?_⟩
  · have some := List.ne_nil_of_mem live
    have reads := met.1.resolve_left some
    rw [runSlWatchdogTick_of_reads some reads] at finished ⊢
    simp only at finished
    rw [if_pos finished]
    exact asked_watchBots finished live
  · have slot := congrArg Slot.counter (ticked_of_finished key finished)
    rw [Slot.ticked, seen] at slot
    exact slot

/-- The closing order of the first bot is rejected: the tick raises, and the second bot is not
asked. -/
theorem rejectedClose_stops :
    let t := nakedTick 1 (.error (.exchange (.orderRejected "reduce-only rejected")))
    (runSlWatchdogTick t fun _ => none).1 ≠ .ok () ∧
      "b" ∉ (runSlWatchdogTick t fun _ => none).2.asked ∧
      ¬ Isolated t fun _ => none := by
  have raises : (runSlWatchdogTick
      (nakedTick 1 (.error (.exchange (.orderRejected "reduce-only rejected"))))
      fun _ => none).1 ≠ .ok () := by decide +kernel
  exact ⟨raises, by decide +kernel, fun isolated => raises isolated.returns⟩

end Scalper.Execution
