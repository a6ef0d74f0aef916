import Scalper.Execution.Restart

/-!
# Start-up beside placements

`services/execution/app/main.py`: the subscriptions for order requests exist before the
reconciliation runs, and the dispatchers and the watchdog start after it has returned.  So while the
reconciliation works through its bots, orders are placed, their transactions commit, and their
monitors run.  Every await of either side is a step here: the reconciliation reads its rows, then the
positions of one bot after the other, and each row or position takes a look-up and a write
(`Half`); a placement is between its accepted order and its transaction as long as its key is in
`placing`.

`run_keepsCommitted`: whatever the order of the steps, a row that was committed after the snapshot is
not deleted by the reconciliation, since the primary key keeps placements off the rows it is about to
delete.  A position whose placement is in progress is not spared, though
(`placementInProgress_closed`): the look-up before a market close only sees committed trades.
`run_spares` says between which moments no order may be accepted.
-/

set_option autoImplicit false

namespace Scalper.Execution

open Scalper.Lib Scalper.Exchange

/-! ## The process -/

/-- What the service is started with. -/
structure StartupSettings where
  adapters : List String
  raceWindow : ℕ
  tickSize : String → ℚ
  subAccount : String → String
  distinct : adapters.Nodup

/-- An action between its look-up and its write. -/
inductive Half where
  | closesRow (row : KeyedRow) (openOrderId : ℕ)
  | placesClose (botId : String) (position : Position) (side : Side)

/-- Where the reconciliation is: its rows, the bots it has not asked yet, and what is left to do for
the one it asked last. -/
structure Reconciler where
  started : Bool := false
  raised : Bool := false
  rows : List KeyedRow := []
  bots : List String := []
  actions : List ReconcileAction := []
  half : Option Half := none

/-- The reconciliation has returned. -/
def Reconciler.returned (r : Reconciler) : Bool :=
  r.started && !r.raised && r.bots.isEmpty && r.actions.isEmpty && r.half.isNone

/-- An exception leaves the reconciliation. -/
def Reconciler.raises (r : Reconciler) : Reconciler :=
  { r with raised := true, bots := [], actions := [], half := none }

/-- The process, with the keys whose order was accepted and is not written yet, and the keys whose
row was committed since the snapshot. -/
structure Lifespan where
  fleet : Fleet := {}
  reconciler : Reconciler := {}
  log : List StartupEvent := []
  placing : List PositionKey := []
  committedSince : List PositionKey := []

/-- A step of the startup, or of the fleet after it. -/
inductive LifespanStep where
  | restarts
  | snapshots
  | readsPositions (answer : Except CallError (List Position))
  | looksUp (now : ℕ)
  | writesRow (now : ℕ) (commits : Bool)
  | placesClose (answer : Except CallError String)
  | accepted (key : PositionKey)
  | abandoned (key : PositionKey)
  | fleet (s : FleetStep)

namespace Lifespan

abbrev db (w : Lifespan) : Db := w.fleet.db

def logs (event : StartupEvent) (w : Lifespan) : Lifespan := { w with log := w.log ++ [event] }

def withDb (db : Db) (w : Lifespan) : Lifespan :=
  { w with fleet := { w.fleet with service := { w.fleet.service with db := db } } }

def withHalf (half : Option Half) (w : Lifespan) : Lifespan :=
  { w with reconciler := { w.reconciler with half := half } }

def raises (w : Lifespan) : Lifespan := { w with reconciler := w.reconciler.raises }

/-- A step of the service, with the placements it ends. -/
def serves (s : FleetStep) (w : Lifespan) : Lifespan :=
  match s with
  | .places p .. =>
      if p.key ∈ w.placing then
        let fleet := fleetStep s w.fleet
        { w with
          fleet := fleet
          placing := w.placing.erase p.key
          committedSince :=
            if w.db.positions.lookup p.key = none ∧ (fleet.db.positions.lookup p.key).isSome then
              p.key :: w.committedSince
            else w.committedSince }
      else w
  | .flattens p .. =>
      if p.key ∈ w.placing then
        { w with fleet := fleetStep s w.fleet, placing := w.placing.erase p.key }
      else w
  | .moves .. => { w with fleet := fleetStep s w.fleet }
  | .fills .. | .watchdogReads | .trackedCloses .. | .watchdogEnds =>
      if w.reconciler.returned then { w with fleet := fleetStep s w.fleet } else w

end Lifespan

section Steps

variable (c : StartupSettings)

/-- The first half of an action; a monitor is started at once. -/
def lookUp (now : ℕ) (action : ReconcileAction) (w : Lifespan) : Lifespan :=
  match action with
  | .orphanDb row =>
      match w.db.selectOpenOrderIdByTradeId row.2.tradeId with
      | none => w.logs (.orphanDbOpenOrderMissing row.1 row.2.tradeId)
      | some openOrderId => w.withHalf (some (.closesRow row openOrderId))
  | .orphanExchange botId position =>
      match position.side with
      | none => w
      | some side =>
          if w.db.selectRecentOpenTradeExists (botId, position.symbol) (now - c.raceWindow) then
            w.logs (.orphanExchangeInRaceWindow (botId, position.symbol) position.size side)
          else w.withHalf (some (.placesClose botId position side))
  | .matching row =>
      { w with
        fleet.tasks := w.fleet.tasks.insert row.2.tradeId
          { monitor := ⟨row.1, row.2.tradeId, row.2.side, row.2.entryPrice, row.2.qty,
              c.tickSize row.1.2⟩ } }.logs
        (.matchingResumed row.1 row.2.tradeId row.2.side)

/-- One await of the process; a step that is not the reconciliation's next one changes nothing. -/
def lifespanStep : LifespanStep → Lifespan → Lifespan
  | .restarts, w => { fleet := { service := { db := w.db } } }
  | .snapshots, w =>
      if w.reconciler.started then w
      else
        { w with
          reconciler :=
            { started := true, rows := w.db.selectPositionStatesForBots c.adapters,
              bots := c.adapters }
          committedSince := [] }
  | .readsPositions answer, w =>
      match w.reconciler.half, w.reconciler.actions, w.reconciler.bots with
      | none, [], botId :: bots =>
          match answer with
          | .error _ => w.raises
          | .ok positions =>
              { w with
                reconciler :=
                  { w.reconciler with
                    bots := bots, actions := botActions w.reconciler.rows botId positions } }
      | _, _, _ => w
  | .looksUp now, w =>
      match w.reconciler.half, w.reconciler.actions with
      | none, action :: actions =>
          lookUp c now action { w with reconciler := { w.reconciler with actions := actions } }
      | _, _ => w
  | .writesRow now commits, w =>
      match w.reconciler.half with
      | some (.closesRow row openOrderId) =>
          match transaction commits (closeOrphanDbTx row now openOrderId) w.db with
          | (.error _, _) => w.raises
          | (.ok (), db) =>
              ((w.withDb db).withHalf none).logs
                (.orphanDbClosed row.1 row.2.tradeId openOrderId)
      | _ => w
  | .placesClose answer, w =>
      match w.reconciler.half with
      | some (.placesClose botId position side) =>
          (w.withHalf none).logs
            (match answer with
              | .error _ =>
                  .orphanExchangeCloseFailed (botId, position.symbol) position.size side
              | .ok _ =>
                  .orphanExchangeMarketClosed (botId, position.symbol) position.size side
                    side.opposite)
      | _ => w
  | .accepted key, w => { w with placing := key :: w.placing }
  | .abandoned key, w => { w with placing := w.placing.erase key }
  | .fleet s, w => w.serves s

end Steps

/-! ## The reconciliation on its own -/

section Alone

/-- What the reconciliation works on. -/
def Lifespan.startup (w : Lifespan) : Startup := ⟨w.db, w.fleet.tasks, w.log⟩

/-- The process of a start-up. -/
def StartupInput.settings (t : StartupInput) (subAccount : String → String) : StartupSettings :=
  ⟨t.adapters, t.raceWindow, t.tickSize, subAccount, t.distinct⟩

/-- The write of an action, as it ends in this start-up. -/
def StartupInput.finishes (t : StartupInput) : ReconcileAction → LifespanStep
  | .orphanDb row => .writesRow (t.now row.1) (t.commits row.1)
  | action => .placesClose (t.placeMarketOrder action.key)

theorem startup_finishes (t : StartupInput) (subAccount : String → String) {w : Lifespan}
    (half : w.reconciler.half = none) (action : ReconcileAction) :
    (lifespanStep (t.settings subAccount) (t.finishes action)
        (lookUp (t.settings subAccount) (t.now action.key) action w)).startup =
      (action.perform t w.startup).2 := by
  cases action with
  | orphanDb row =>
      simp only [lookUp, ReconcileAction.perform, closeOrphanDb, Lifespan.startup]
      cases w.db.selectOpenOrderIdByTradeId row.2.tradeId with
      | none =>
          simp only [StartupInput.finishes, lifespanStep, Lifespan.logs, half]
          rfl
      | some openOrderId =>
          simp only [StartupInput.finishes, lifespanStep, Lifespan.withHalf]
          rw [transaction_closeOrphanDbTx]
          cases t.commits row.1 <;> rfl
  | orphanExchange botId position =>
      simp only [ReconcileAction.perform]
      cases sided : position.side with
      | none =>
          simp only [lookUp, handleOrphanExchange, sided, StartupInput.finishes, lifespanStep, half]
      | some side =>
          by_cases recent : w.db.selectRecentOpenTradeExists (botId, position.symbol)
              (t.since (botId, position.symbol)) = true
          · have inWindow : lookUp (t.settings subAccount)
                (t.now (ReconcileAction.orphanExchange botId position).key)
                (.orphanExchange botId position) w =
                w.logs (.orphanExchangeInRaceWindow (botId, position.symbol) position.size side) := by
              simp only [lookUp, sided]
              exact if_pos recent
            simp only [inWindow, StartupInput.finishes, lifespanStep, Lifespan.logs, half,
              handleOrphanExchange, sided]
            exact (if_pos recent).symm
          · have outside : lookUp (t.settings subAccount)
                (t.now (ReconcileAction.orphanExchange botId position).key)
                (.orphanExchange botId position) w =
                w.withHalf (some (.placesClose botId position side)) := by
              simp only [lookUp, sided]
              exact if_neg recent
            rw [outside]
            simp only [StartupInput.finishes, lifespanStep, Lifespan.withHalf,
              ReconcileAction.key, handleOrphanExchange, sided]
            refine Eq.trans ?_ (if_neg recent).symm
            cases t.placeMarketOrder (botId, position.symbol) <;> rfl
  | matching row =>
      simp only [lookUp, StartupInput.finishes, lifespanStep, Lifespan.logs, half]
      rfl

/-- The two halves of an action, with nothing between them, are the action. -/
theorem startup_of_halves (t : StartupInput) (subAccount : String → String) {w : Lifespan}
    (half : w.reconciler.half = none) {action : ReconcileAction} {actions : List ReconcileAction}
    (next : w.reconciler.actions = action :: actions) :
    (run (lifespanStep (t.settings subAccount)) w
        [.looksUp (t.now action.key), t.finishes action]).startup =
      (action.perform t w.startup).2 := by
  have first : lifespanStep (t.settings subAccount) (.looksUp (t.now action.key)) w =
      lookUp (t.settings subAccount) (t.now action.key) action
        { w with reconciler := { w.reconciler with actions := actions } } := by
    simp only [lifespanStep, half, next]
  rw [run_cons, run_cons, run_nil, first]
  exact startup_finishes t subAccount
    (w := { w with reconciler := { w.reconciler with actions := actions } }) half action

end Alone

/-! ## Rows the reconciliation has not come to -/

/-- The key is still to be dealt with. -/
def Reconciler.awaits (r : Reconciler) (key : PositionKey) : Prop :=
  key.1 ∈ r.bots ∨ (∃ action ∈ r.actions, action.key = key) ∨
    ∃ row openOrderId, r.half = some (.closesRow row openOrderId) ∧ row.1 = key

/-- What is left to do is of the snapshot and meets no key twice. -/
structure Reconciler.Ordered (c : StartupSettings) (r : Reconciler) : Prop where
  snapshot : ∃ db : Db, r.rows = db.selectPositionStatesForBots c.adapters
  known : r.bots ⊆ c.adapters
  botsDistinct : r.bots.Nodup
  keysDistinct : (r.actions.map ReconcileAction.key).Nodup
  asked : ∀ action ∈ r.actions, action.key.1 ∉ r.bots
  fromRows : ∀ row, .orphanDb row ∈ r.actions → row ∈ r.rows
  half : ∀ row openOrderId, r.half = some (.closesRow row openOrderId) →
    row ∈ r.rows ∧ row.1.1 ∉ r.bots ∧ ∀ action ∈ r.actions, action.key ≠ row.1

/-- The rows the reconciliation has not come to are held, and are those of the snapshot. -/
structure Untouched (c : StartupSettings) (w : Lifespan) : Prop where
  ordered : Reconciler.Ordered c w.reconciler
  held : ∀ row ∈ w.reconciler.rows, w.reconciler.awaits row.1 →
    (w.db.positions.lookup row.1).isSome ∧ row.1 ∉ w.committedSince

section Held

theorem Moved.held {m : Monitor} {move : MonitorMove} {d d' : Desk} (moved : Moved m move d d')
    {key : PositionKey} (held : (d.db.positions.lookup key).isSome) :
    (d'.db.positions.lookup key).isSome := by
  have monitored (write : MonitorWrite) :
      ((d.db.monitored m.key write).positions.lookup key).isSome := by
    rw [lookup_monitored]
    split_ifs with same
    · subst same
      simpa using held
    · exact held
  cases moved with
  | ticked now here => exact monitored _
  | persisted now here => exact monitored _
  | _ => exact held

/-- A monitor deletes no row. -/
theorem held_moves {w : Fleet} (tradeId : ℕ) (move : MonitorMove) (stop : ExchangeStop)
    {key : PositionKey} (held : (w.db.positions.lookup key).isSome) :
    ((fleetStep (.moves tradeId move stop) w).db.positions.lookup key).isSome := by
  cases found : w.tasks.lookup tradeId with
  | none => simpa only [fleetStep, found] using held
  | some task =>
      simp only [fleetStep, found]
      exact (monitorStep_cases task.monitor move _).held held

/-- A placement deletes no row. -/
theorem held_places {w : Fleet} (p : Placed) (slPrice tpPrice notionalUsd : ℚ) (slSetAt : ℕ)
    (tickSize : ℚ) (commits : Bool) {key : PositionKey}
    (held : (w.db.positions.lookup key).isSome) :
    ((fleetStep (.places p slPrice tpPrice notionalUsd slSetAt tickSize commits)
      w).db.positions.lookup key).isSome := by
  rcases placement_cases p slPrice tpPrice notionalUsd slSetAt commits w.db with
    ⟨raised, failed⟩ | ⟨rfl, free, orderPlaced, slMoved, written⟩
  · simpa only [fleetStep, failed] using held
  · simp only [fleetStep, written, Fleet.db, Db.afterPlacement]
    by_cases same : key = p.key
    · subst same
      simp
    · rwa [AList.lookup_insert_ne same]

end Held

section Invariant

variable {c : StartupSettings} {w : Lifespan}

theorem Untouched.of_same {w' : Lifespan} (untouched : Untouched c w)
    (reconciler : w'.reconciler = w.reconciler)
    (held : ∀ key, (w.db.positions.lookup key).isSome → key ∉ w.committedSince →
      (w'.db.positions.lookup key).isSome ∧ key ∉ w'.committedSince) : Untouched c w' where
  ordered := reconciler ▸ untouched.ordered
  held := by
    rw [reconciler]
    intro row member awaits
    obtain ⟨before, old⟩ := untouched.held row member awaits
    exact held row.1 before old

/-- A part of what was left to do is left. -/
theorem Untouched.shrinks {w' : Lifespan} (untouched : Untouched c w)
    (ordered : Reconciler.Ordered c w'.reconciler) (rows : w'.reconciler.rows = w.reconciler.rows)
    (awaits : ∀ key, w'.reconciler.awaits key → w.reconciler.awaits key)
    (positions : w'.db.positions = w.db.positions)
    (committedSince : w'.committedSince = w.committedSince) : Untouched c w' where
  ordered := ordered
  held := by
    rw [rows, positions, committedSince]
    exact fun row member here => untouched.held row member (awaits row.1 here)

theorem Reconciler.Ordered.raises {r : Reconciler} (ordered : r.Ordered c) : r.raises.Ordered c where
  snapshot := ordered.snapshot
  known := List.nil_subset _
  botsDistinct := List.nodup_nil
  keysDistinct := List.nodup_nil
  asked := by simp [Reconciler.raises]
  fromRows := by simp [Reconciler.raises]
  half := by simp [Reconciler.raises]

theorem Untouched.raises (untouched : Untouched c w) : Untouched c w.raises :=
  untouched.shrinks untouched.ordered.raises rfl
    (by simp [Lifespan.raises, Reconciler.raises, Reconciler.awaits]) rfl rfl

/-- The positions of the next bot are read. -/
theorem Reconciler.Ordered.asks {r : Reconciler} (ordered : r.Ordered c) {botId : String}
    {bots : List String} (next : r.bots = botId :: bots) (half : r.half = none)
    (positions : List Position) :
    Reconciler.Ordered c { r with bots := bots, actions := botActions r.rows botId positions } := by
  obtain ⟨db, rows⟩ := ordered.snapshot
  have known := ordered.known
  have distinct := ordered.botsDistinct
  rw [next] at known distinct
  have member := known List.mem_cons_self
  refine ⟨⟨db, rows⟩, fun other listed => known (List.mem_cons_of_mem _ listed),
    (List.nodup_cons.mp distinct).2, ?_, fun action listed => ?_, fun row listed => ?_, ?_⟩
  · simp only [rows]
    exact nodup_keys_botActions member
  · simp only [rows] at listed
    rw [((mem_botActions member).mp listed).1]
    exact (List.nodup_cons.mp distinct).1
  · simp only [rows] at listed ⊢
    obtain ⟨bot, made⟩ := (mem_botActions member).mp listed
    refine mem_selectPositionStatesForBots.mpr ⟨?_, (actionOf_eq_orphanDb.mp made).2.1⟩
    have bot : row.1.1 = botId := bot
    rw [bot]
    exact member
  · simp [half]

/-- The next action is taken up. -/
theorem Reconciler.Ordered.takes {r : Reconciler} (ordered : r.Ordered c)
    {action : ReconcileAction} {actions : List ReconcileAction}
    (next : r.actions = action :: actions) {half : Option Half}
    (closes : ∀ row openOrderId, half = some (.closesRow row openOrderId) →
      action = .orphanDb row) :
    Reconciler.Ordered c { r with actions := actions, half := half } := by
  have distinct := ordered.keysDistinct
  rw [next, List.map_cons, List.nodup_cons] at distinct
  have member (later : ReconcileAction) (listed : later ∈ actions) : later ∈ r.actions :=
    next ▸ List.mem_cons_of_mem action listed
  refine ⟨ordered.snapshot, ordered.known, ordered.botsDistinct, distinct.2,
    fun later listed => ordered.asked later (member later listed),
    fun row listed => ordered.fromRows row (member _ listed), fun row openOrderId here => ?_⟩
  obtain rfl := closes row openOrderId here
  have listed : .orphanDb row ∈ r.actions := next ▸ List.mem_cons_self
  exact ⟨ordered.fromRows row listed, ordered.asked _ listed,
    fun later laterListed same => distinct.1 (List.mem_map.mpr ⟨later, laterListed, same⟩)⟩

/-- The write of an action is done. -/
theorem Reconciler.Ordered.rests {r : Reconciler} (ordered : r.Ordered c) :
    Reconciler.Ordered c { r with half := none } :=
  { ordered with half := by simp }

theorem Reconciler.awaits_of_rests {r : Reconciler} {key : PositionKey}
    (awaits : Reconciler.awaits { r with half := none } key) : r.awaits key := by
  rcases awaits with asked | next | ⟨_, _, here, _⟩
  · exact .inl asked
  · exact .inr (.inl next)
  · cases here

theorem Reconciler.Ordered.fresh : Reconciler.Ordered c {} :=
  ⟨⟨{}, rfl⟩, List.nil_subset _, List.nodup_nil, List.nodup_nil, by simp, by simp, by simp⟩

theorem Untouched.fresh {w : Lifespan} (fresh : w.reconciler = {}) : Untouched c w where
  ordered := fresh ▸ .fresh
  held := by simp [fresh]

/-- What a look-up leaves alone. -/
theorem lookUp_same (now : ℕ) (action : ReconcileAction) :
    (lookUp c now action w).db = w.db ∧ (lookUp c now action w).placing = w.placing ∧
      (lookUp c now action w).committedSince = w.committedSince := by
  unfold lookUp
  cases action with
  | orphanDb row => dsimp only; split <;> exact ⟨rfl, rfl, rfl⟩
  | orphanExchange botId position =>
      dsimp only
      split
      · exact ⟨rfl, rfl, rfl⟩
      · split_ifs <;> exact ⟨rfl, rfl, rfl⟩
  | matching row => exact ⟨rfl, rfl, rfl⟩

/-- Where a look-up leaves the reconciliation. -/
inductive LookedUp (c : StartupSettings) (w : Lifespan) (now : ℕ) :
    ReconcileAction → Reconciler → Prop where
  | done (action : ReconcileAction) : LookedUp c w now action w.reconciler
  | closesRow (row : KeyedRow) (openOrderId : ℕ) :
      LookedUp c w now (.orphanDb row)
        { w.reconciler with half := some (.closesRow row openOrderId) }
  | placesClose (botId : String) (position : Position) (side : Side)
      (none : w.db.selectRecentOpenTradeExists (botId, position.symbol) (now - c.raceWindow) =
        false) :
      LookedUp c w now (.orphanExchange botId position)
        { w.reconciler with half := some (.placesClose botId position side) }

theorem lookUp_cases (now : ℕ) (action : ReconcileAction) :
    LookedUp c w now action (lookUp c now action w).reconciler := by
  unfold lookUp
  cases action with
  | orphanDb row =>
      dsimp only
      split
      · exact .done _
      · exact .closesRow row _
  | orphanExchange botId position =>
      dsimp only
      split
      · exact .done _
      · split_ifs with recent
        · exact .done _
        · exact .placesClose botId position _ (by simpa using recent)
  | matching row => exact .done _

theorem Untouched.lookUp (untouched : Untouched c w) (half : w.reconciler.half = none)
    {action : ReconcileAction} {actions : List ReconcileAction}
    (next : w.reconciler.actions = action :: actions) (now : ℕ) :
    Untouched c (lookUp c now action
      { w with reconciler := { w.reconciler with actions := actions } }) := by
  have rests (half' : Option Half) (closes : ∀ row openOrderId,
      half' = some (.closesRow row openOrderId) → action = .orphanDb row) {w' : Lifespan}
      (reconciler : w'.reconciler = { w.reconciler with actions := actions, half := half' })
      (same : w'.db = w.db ∧ w'.placing = w.placing ∧ w'.committedSince = w.committedSince) :
      Untouched c w' := by
    refine untouched.shrinks (reconciler ▸ untouched.ordered.takes next closes) (by rw [reconciler])
      (fun key awaits => ?_) (by rw [same.1]) same.2.2
    rw [reconciler] at awaits
    rcases awaits with asked | ⟨later, listed, rfl⟩ | ⟨row, openOrderId, here, rfl⟩
    · exact .inl asked
    · exact .inr (.inl ⟨later, next ▸ List.mem_cons_of_mem _ listed, rfl⟩)
    · obtain rfl := closes row openOrderId here
      exact .inr (.inl ⟨_, next ▸ List.mem_cons_self, rfl⟩)
  have same := lookUp_same (c := c)
    (w := { w with reconciler := { w.reconciler with actions := actions } }) now action
  generalize equal : Scalper.Execution.lookUp c now action
    { w with reconciler := { w.reconciler with actions := actions } } = w' at same ⊢
  have cases := lookUp_cases (c := c)
    (w := { w with reconciler := { w.reconciler with actions := actions } }) now action
  rw [equal] at cases
  generalize reconciler : w'.reconciler = r at cases
  cases cases with
  | done => exact rests w.reconciler.half (by simp [half]) reconciler same
  | closesRow row openOrderId =>
      exact rests (some (.closesRow row openOrderId)) (fun _ _ here => by cases here; rfl)
        reconciler same
  | placesClose botId position side none =>
      exact rests (some (.placesClose botId position side)) (by simp) reconciler same

theorem Reconciler.awaits_of_returned {r : Reconciler} (returned : r.returned = true)
    (key : PositionKey) : ¬ r.awaits key := by
  simp only [Reconciler.returned, Bool.and_eq_true, List.isEmpty_iff, Option.isNone_iff_eq_none]
    at returned
  obtain ⟨⟨⟨_, bots⟩, actions⟩, half⟩ := returned
  simp [Reconciler.awaits, bots, actions, half]

theorem Untouched.serves (untouched : Untouched c w) (s : FleetStep) :
    Untouched c (w.serves s) := by
  cases s with
  | places p slPrice tpPrice notionalUsd slSetAt tickSize commits =>
      simp only [Lifespan.serves]
      split_ifs with placing inserted
      · refine untouched.of_same rfl fun key held old => ⟨held_places p _ _ _ _ _ _ held, ?_⟩
        rw [List.mem_cons, not_or]
        refine ⟨fun same => ?_, old⟩
        rw [same, inserted.1] at held
        cases held
      · exact untouched.of_same rfl fun key held old => ⟨held_places p _ _ _ _ _ _ held, old⟩
      · exact untouched
  | flattens p closeExchangeOrderId closeAt commits =>
      simp only [Lifespan.serves]
      split_ifs
      · refine untouched.of_same rfl fun key held old => ⟨?_, old⟩
        rwa [show (fleetStep (.flattens p closeExchangeOrderId closeAt commits) w.fleet).db.positions
          = w.db.positions from positions_emergencyClosed p closeExchangeOrderId closeAt commits w.db]
      · exact untouched
  | moves tradeId move stop =>
      exact untouched.of_same rfl fun key held old => ⟨held_moves tradeId move stop held, old⟩
  | fills | watchdogReads | trackedCloses | watchdogEnds =>
      simp only [Lifespan.serves]
      split_ifs with returned
      · exact ⟨untouched.ordered, fun row _ awaits =>
          absurd awaits (Reconciler.awaits_of_returned returned row.1)⟩
      · exact untouched

/-- The row of an orphan is closed: none of the rows that are waited for has its key. -/
theorem Untouched.closesRow (untouched : Untouched c w) {row : KeyedRow} {openOrderId : ℕ}
    (half : w.reconciler.half = some (.closesRow row openOrderId)) (now : ℕ) :
    Untouched c (((w.withDb (w.db.orphanClosed row now openOrderId)).withHalf none).logs
      (.orphanDbClosed row.1 row.2.tradeId openOrderId)) where
  ordered := untouched.ordered.rests
  held := by
    intro other member awaits
    obtain ⟨_, notAsked, notNext⟩ := untouched.ordered.half row openOrderId half
    have apart : other.1 ≠ row.1 := by
      intro same
      rcases awaits with asked | ⟨action, listed, here⟩ | ⟨_, _, here, _⟩
      · exact notAsked (same ▸ asked)
      · exact notNext action listed (here.trans same)
      · cases here
    have before := untouched.held other member (Reconciler.awaits_of_rests awaits)
    have kept : (w.db.orphanClosed row now openOrderId).positions.lookup other.1 =
        w.db.positions.lookup other.1 := AList.lookup_erase_ne apart
    exact ⟨(congrArg Option.isSome kept).trans before.1, before.2⟩

/-- Every step leaves the rows the reconciliation has not come to. -/
theorem Untouched.step (untouched : Untouched c w) (s : LifespanStep) :
    Untouched c (lifespanStep c s w) := by
  cases s with
  | restarts => exact .fresh rfl
  | snapshots =>
      simp only [lifespanStep]
      split_ifs
      · exact untouched
      · refine ⟨⟨⟨w.db, rfl⟩, List.Subset.refl _, c.distinct, List.nodup_nil, by simp, by simp,
          by simp⟩, fun row member _ => ⟨?_, by simp⟩⟩
        rw [(mem_selectPositionStatesForBots.mp member).2]
        rfl
  | readsPositions answer =>
      simp only [lifespanStep]
      split
      · rename_i botId bots half actions next
        cases answer with
        | error raised => exact untouched.raises
        | ok positions =>
            refine untouched.shrinks (untouched.ordered.asks next half positions) rfl
              (fun key awaits => ?_) rfl rfl
            rcases awaits with asked | ⟨action, listed, rfl⟩ | ⟨row, openOrderId, here, rfl⟩
            · exact .inl (next ▸ List.mem_cons_of_mem _ asked)
            · obtain ⟨db, rows⟩ := untouched.ordered.snapshot
              simp only [rows] at listed
              have known := untouched.ordered.known (next ▸ List.mem_cons_self)
              exact .inl (next ▸ ((mem_botActions known).mp listed).1 ▸ List.mem_cons_self)
            · simp [half] at here
      · exact untouched
  | looksUp now =>
      simp only [lifespanStep]
      split
      · rename_i action actions half next
        exact untouched.lookUp half next now
      · exact untouched
  | writesRow now commits =>
      simp only [lifespanStep]
      split
      · rename_i row openOrderId half
        rw [transaction_closeOrphanDbTx]
        cases commits with
        | false => exact untouched.raises
        | true => exact untouched.closesRow half now
      · exact untouched
  | placesClose answer =>
      simp only [lifespanStep]
      split
      · exact untouched.shrinks untouched.ordered.rests rfl
          (fun key awaits => Reconciler.awaits_of_rests awaits) rfl rfl
      · exact untouched
  | accepted key => exact untouched.of_same rfl fun key held old => ⟨held, old⟩
  | abandoned key => exact untouched.of_same rfl fun key held old => ⟨held, old⟩
  | fleet s => exact untouched.serves s

end Invariant

/-! ## Placements and the reconciliation -/

section Properties

variable (c : StartupSettings)

/-- The symbol of the bot's sub-account has no placement in progress. -/
def Quiet (w : Lifespan) (botId symbol : String) : Prop :=
  ∀ key ∈ w.placing, c.subAccount key.1 = c.subAccount botId → key.2 ≠ symbol

/-- No position whose placement is in progress is market-closed. -/
def SparesPlacing (w : Lifespan) (s : LifespanStep) : Prop :=
  ∀ answer, s = .placesClose answer → ∀ botId position side,
    w.reconciler.half = some (.placesClose botId position side) → Quiet c w botId position.symbol

/-- No row that was committed since the snapshot is deleted by the reconciliation. -/
def KeepsCommitted (w : Lifespan) (s : LifespanStep) : Prop :=
  ∀ now commits, s = .writesRow now commits → ∀ row openOrderId,
    w.reconciler.half = some (.closesRow row openOrderId) → row.1 ∉ w.committedSince

/-- The condition of one step of the reconciler. -/
structure Apart (w : Lifespan) (s : LifespanStep) : Prop where
  sparesPlacing : SparesPlacing c w s
  keepsCommitted : KeepsCommitted w s

/-- Where the look-up for a position finds no recent open trade, no placement of the position is in
progress, and none is accepted before the closing order is sent. -/
structure LooksWhileQuiet (w : Lifespan) (s : LifespanStep) : Prop where
  looks : ∀ now, s = .looksUp now → w.reconciler.half = none → ∀ botId position actions,
    w.reconciler.actions = .orphanExchange botId position :: actions →
    w.db.selectRecentOpenTradeExists (botId, position.symbol) (now - c.raceWindow) = false →
      Quiet c w botId position.symbol
  accepts : ∀ key, s = .accepted key → ∀ botId position side,
    w.reconciler.half = some (.placesClose botId position side) →
      c.subAccount key.1 = c.subAccount botId → key.2 ≠ position.symbol

variable {c}

theorem Untouched.keepsCommitted {w : Lifespan} (untouched : Untouched c w) (s : LifespanStep) :
    KeepsCommitted w s := by
  intro now commits _ row openOrderId half
  exact (untouched.held row (untouched.ordered.half row openOrderId half).1
    (.inr (.inr ⟨row, openOrderId, half, rfl⟩))).2

/-- In every order of steps, the rows committed since the snapshot stay. -/
theorem run_keepsCommitted (fleet : Fleet) (placing : List PositionKey)
    (steps : List LifespanStep) :
    RunGuarded KeepsCommitted (lifespanStep c) { fleet := fleet, placing := placing } steps :=
  runGuarded_of_invariant (Untouched c)
    (fun _ s untouched _ => untouched.step s) (fun _ s untouched _ => untouched.keepsCommitted s)
    (.fresh rfl) (runGuarded_of_forall fun _ _ => trivial)

/-- A position about to be closed has no placement in progress. -/
def ClosesQuiet (c : StartupSettings) (w : Lifespan) : Prop :=
  ∀ botId position side, w.reconciler.half = some (.placesClose botId position side) →
    Quiet c w botId position.symbol

theorem ClosesQuiet.of_none {w : Lifespan} (none : w.reconciler.half = none) :
    ClosesQuiet c w := by
  intro botId position side here
  rw [none] at here
  cases here

theorem ClosesQuiet.of_subset {w w' : Lifespan} (closesQuiet : ClosesQuiet c w)
    (half : w'.reconciler.half = w.reconciler.half) (placing : w'.placing ⊆ w.placing) :
    ClosesQuiet c w' := by
  intro botId position side here key placed
  exact closesQuiet botId position side (half ▸ here) key (placing placed)

/-- A service step accepts no order. -/
theorem serves_subset (w : Lifespan) (s : FleetStep) :
    (w.serves s).reconciler = w.reconciler ∧ (w.serves s).placing ⊆ w.placing := by
  unfold Lifespan.serves
  split
  · split_ifs
    · exact ⟨rfl, List.erase_subset⟩
    · exact ⟨rfl, List.Subset.refl _⟩
  · split_ifs
    · exact ⟨rfl, List.erase_subset⟩
    · exact ⟨rfl, List.Subset.refl _⟩
  · exact ⟨rfl, List.Subset.refl _⟩
  all_goals split_ifs <;> exact ⟨rfl, List.Subset.refl _⟩

theorem ClosesQuiet.step {w : Lifespan} (closesQuiet : ClosesQuiet c w) {s : LifespanStep}
    (looks : LooksWhileQuiet c w s) : ClosesQuiet c (lifespanStep c s w) := by
  cases s with
  | restarts => exact .of_none rfl
  | snapshots =>
      simp only [lifespanStep]
      split_ifs
      · exact closesQuiet
      · exact .of_none rfl
  | readsPositions answer =>
      simp only [lifespanStep]
      split
      · rename_i botId bots half actions next
        cases answer with
        | error raised => exact .of_none rfl
        | ok positions => exact closesQuiet.of_subset rfl (List.Subset.refl _)
      · exact closesQuiet
  | looksUp now =>
      simp only [lifespanStep]
      split
      · rename_i action actions half next
        have same := lookUp_same (c := c)
          (w := { w with reconciler := { w.reconciler with actions := actions } }) now action
        have cases := lookUp_cases (c := c)
          (w := { w with reconciler := { w.reconciler with actions := actions } }) now action
        intro botId position side here key placed
        rw [same.2.1] at placed
        generalize (lookUp c now action _).reconciler = r at cases here
        cases cases with
        | done => simp [half] at here
        | closesRow row openOrderId => simp at here
        | placesClose botId' position' side' none =>
            simp only [Option.some.injEq, Half.placesClose.injEq] at here
            obtain ⟨rfl, rfl, rfl⟩ := here
            exact looks.looks now rfl half botId' position' actions next none key placed
      · exact closesQuiet
  | writesRow now commits =>
      simp only [lifespanStep]
      split
      · split <;> exact .of_none rfl
      · exact closesQuiet
  | placesClose answer =>
      simp only [lifespanStep]
      split
      · exact .of_none rfl
      · exact closesQuiet
  | accepted key =>
      intro botId position side here other placed shared
      rcases List.mem_cons.mp placed with rfl | before
      · exact looks.accepts other rfl botId position side here shared
      · exact closesQuiet botId position side here other before shared
  | abandoned key => exact closesQuiet.of_subset rfl List.erase_subset
  | fleet s =>
      obtain ⟨reconciler, placing⟩ := serves_subset w s
      exact closesQuiet.of_subset (congrArg Reconciler.half reconciler) placing

/-- **Reconciliation and placement keep apart in every run whose look-ups find quiet positions.** -/
theorem run_apart (fleet : Fleet) (placing : List PositionKey) (steps : List LifespanStep)
    (looks : RunGuarded (LooksWhileQuiet c) (lifespanStep c) { fleet := fleet, placing := placing }
      steps) :
    RunGuarded (Apart c) (lifespanStep c) { fleet := fleet, placing := placing } steps :=
  runGuarded_of_invariant (fun w => Untouched c w ∧ ClosesQuiet c w)
    (fun _ s holds looks => ⟨holds.1.step s, holds.2.step looks⟩)
    (fun _ s holds _ => ⟨fun _ _ => holds.2, holds.1.keepsCommitted s⟩)
    ⟨.fresh rfl, .of_none rfl⟩ looks

/-- A pool of one bot. -/
def oneBot : StartupSettings where
  adapters := ["a"]
  raceWindow := 30
  tickSize := fun _ => 1
  subAccount := id
  distinct := by decide

/-- A position that no one tracks is closed while an order in another symbol is placed. -/
theorem otherSymbol_apart :
    RunGuarded (Apart oneBot) (lifespanStep oneBot) { fleet := {}, placing := [("a", "ETHUSDT")] }
      [.snapshots, .readsPositions (.ok [restartPosition "BTCUSDT"]), .looksUp 1000,
        .placesClose (.ok "close"), .accepted ("a", "BTCUSDT")] := by
  refine run_apart {} [("a", "ETHUSDT")] _ ⟨⟨by simp, by simp⟩, ⟨by simp, by simp⟩,
    ⟨fun now _ _ botId position actions next _ key placed _ => ?_, by simp⟩, ⟨by simp, by simp⟩,
    ⟨by simp, fun key _ botId position side here => ?_⟩, trivial⟩
  · have listed : [.orphanExchange "a" (restartPosition "BTCUSDT")] =
        ReconcileAction.orphanExchange botId position :: actions := next
    cases listed
    cases List.mem_singleton.mp placed
    decide
  · cases (here : (none : Option Half) = _)

/-- An order is accepted after the snapshot, and its position is reported before its transaction. -/
def acceptedDuringStartup : List LifespanStep :=
  [.snapshots, .accepted ("a", "BTCUSDT"), .readsPositions (.ok [restartPosition "BTCUSDT"]),
    .looksUp 1000, .placesClose (.ok "close")]

/-- The position is market-closed while its placement is in progress. -/
theorem placementInProgress_closed :
    (run (lifespanStep oneBot) {} acceptedDuringStartup).log =
        [.orphanExchangeMarketClosed ("a", "BTCUSDT") 1 .buy .sell] ∧
      (run (lifespanStep oneBot) {} acceptedDuringStartup).placing = [("a", "BTCUSDT")] ∧
      ¬ RunGuarded (Apart oneBot) (lifespanStep oneBot) {} acceptedDuringStartup := by
  refine ⟨by decide +kernel, by decide +kernel, fun apart => ?_⟩
  obtain ⟨_, _, _, _, closing, _⟩ := apart
  exact closing.sparesPlacing (.ok "close") rfl "a" (restartPosition "BTCUSDT") .buy rfl
    ("a", "BTCUSDT") (by decide) rfl rfl

end Properties

end Scalper.Execution
