import Scalper.Execution.Lifespan
import Scalper.Execution.LifecycleState

/-!
# The lifecycle state along a run

The steps of the process (`lifespanStep`): the service with its placements, monitors, fills and
watchdog, beside the start-up reconciliation, over any number of restarts.  After each step every
trade is mirrored, and a trade that is `closed` or `reconciled` keeps that state
(`run_dualWritten`).

The condition (`Settled`) excludes what would let a mark land on a trade it is not about: a placement
on a key that a monitor or the watchdog's tick still has in hand, a stop written to a row that is
gone, and anything that takes from or closes a trade, or ends the process, between the two statements
of its monitor.
-/

set_option autoImplicit false

namespace Scalper.Execution

open Scalper.Lib Scalper.Exchange

/-! ## The condition -/

/-- A condition on the steps of the service. -/
def OnFleet (condition : Fleet → FleetStep → Prop) (w : Lifespan) : LifespanStep → Prop
  | .fleet s => condition w.fleet s
  | _ => True

/-- The step takes from the trade or closes it, or its monitor's mark is lost. -/
def LifespanStep.interrupts (w : Lifespan) (tradeId : ℕ) : LifespanStep → Bool
  | .restarts => true
  | .writesRow .. =>
      match w.reconciler.half with
      | some (.closesRow row _) => row.2.tradeId == tradeId
      | _ => false
  | .fleet s => s.interrupts w.fleet == some tradeId
  | _ => false

/-- No trade whose mark is due is interrupted. -/
def Attended (w : Lifespan) (s : LifespanStep) : Prop :=
  ∀ tradeId task, w.fleet.tasks.lookup tradeId = some task → task.phase.unmarked ≠ none →
    s.interrupts w task.monitor.tradeId = false

/-- The reconciliation starts no second monitor of a trade. -/
def ResumesOnce (w : Lifespan) : LifespanStep → Prop
  | .looksUp _ =>
      match w.reconciler.half, w.reconciler.actions with
      | none, .matching row :: _ => w.fleet.tasks.lookup row.2.tradeId = none
      | _, _ => True
  | _ => True

/-- What a step meets when each fill settles its own trade. -/
structure Settled (w : Lifespan) (s : LifespanStep) : Prop where
  unclaimed : OnFleet Unclaimed w s
  findsRow : OnFleet FindsRow w s
  attended : Attended w s
  resumesOnce : ResumesOnce w s

instance FindsRow.decidable (w : Fleet) : ∀ s : FleetStep, Decidable (FindsRow w s)
  | .moves tradeId (.persists _ true) _ =>
      match found : w.tasks.lookup tradeId with
      | none => isTrue fun task here => by rw [found] at here; cases here
      | some task =>
          if held : (w.db.positions.lookup task.monitor.key).isSome then
            isTrue fun other here => Option.some.inj (found.symm.trans here) ▸ held
          else isFalse fun finds => held (finds task found)
  | .moves _ (.persists _ false) _ | .moves _ (.reads _) _ | .moves _ .readFails _
  | .moves _ (.ticks ..) _ | .moves _ (.detects ..) _ | .moves _ (.decides _) _
  | .moves _ (.sets _) _ | .moves _ (.marks _) _ | .places .. | .flattens .. | .fills ..
  | .watchdogReads | .trackedCloses .. | .watchdogEnds => isTrue trivial

instance OnFleet.decidable (condition : Fleet → FleetStep → Prop)
    [∀ w s, Decidable (condition w s)] (w : Lifespan) :
    ∀ s : LifespanStep, Decidable (OnFleet condition w s)
  | .fleet s => inferInstanceAs (Decidable (condition w.fleet s))
  | .restarts | .snapshots | .readsPositions _ | .looksUp _ | .writesRow .. | .placesClose _
  | .accepted _ | .abandoned _ => isTrue trivial

instance Attended.decidable (w : Lifespan) (s : LifespanStep) : Decidable (Attended w s) :=
  w.fleet.decidableTasks fun task => task.phase.unmarked ≠ none →
    s.interrupts w task.monitor.tradeId = false

instance ResumesOnce.decidable (w : Lifespan) : ∀ s : LifespanStep, Decidable (ResumesOnce w s)
  | .looksUp _ => by
      unfold ResumesOnce
      exact match w.reconciler.half, w.reconciler.actions with
        | none, .matching row :: _ =>
            inferInstanceAs (Decidable (w.fleet.tasks.lookup row.2.tradeId = none))
        | none, [] | none, .orphanDb _ :: _ | none, .orphanExchange .. :: _ | some _, _ =>
            isTrue trivial
  | .restarts | .snapshots | .readsPositions _ | .writesRow .. | .placesClose _ | .accepted _
  | .abandoned _ | .fleet _ => isTrue trivial

instance Settled.decidable (w : Lifespan) (s : LifespanStep) : Decidable (Settled w s) :=
  decidable_of_iff (OnFleet Unclaimed w s ∧ OnFleet FindsRow w s ∧ Attended w s ∧ ResumesOnce w s)
    ⟨fun all => ⟨all.1, all.2.1, all.2.2.1, all.2.2.2⟩,
      fun settled => ⟨settled.unclaimed, settled.findsRow, settled.attended, settled.resumesOnce⟩⟩

/-! ## What a step does to the service -/

section Moved

variable {c : StartupSettings} {w : Lifespan}

/-- Everything a step does to the tables, the watchdog and the monitors. -/
inductive FleetMoved (c : StartupSettings) (w : Lifespan) : LifespanStep → Fleet → Prop where
  | same (s : LifespanStep) (goesOn : s ≠ .restarts) : FleetMoved c w s w.fleet
  | restarted : FleetMoved c w .restarts { service := { db := w.db } }
  | resumed (now : ℕ) {row : KeyedRow} {actions : List ReconcileAction}
      (half : w.reconciler.half = none) (next : w.reconciler.actions = .matching row :: actions) :
      FleetMoved c w (.looksUp now)
        { w.fleet with
          tasks := w.fleet.tasks.insert row.2.tradeId
            { monitor := ⟨row.1, row.2.tradeId, row.2.side, row.2.entryPrice, row.2.qty,
                c.tickSize row.1.2⟩ } }
  | orphanClosed (now : ℕ) {row : KeyedRow} {openOrderId : ℕ}
      (half : w.reconciler.half = some (.closesRow row openOrderId)) :
      FleetMoved c w (.writesRow now true)
        { w.fleet with
          service := { w.fleet.service with db := w.db.orphanClosed row now openOrderId } }
  | served (s : FleetStep) (reads : s = .watchdogReads → w.reconciler.returned = true) :
      FleetMoved c w (.fleet s) (fleetStep s w.fleet)

theorem lifespanStep_fleet (s : LifespanStep) :
    FleetMoved c w s (lifespanStep c s w).fleet := by
  cases s with
  | restarts => exact .restarted
  | snapshots =>
      simp only [lifespanStep]
      split_ifs <;> exact .same _ (by simp)
  | readsPositions answer =>
      simp only [lifespanStep]
      split
      · cases answer <;> exact .same _ (by simp)
      · exact .same _ (by simp)
  | looksUp now =>
      simp only [lifespanStep]
      split
      · rename_i action actions half next
        unfold lookUp
        cases action with
        | orphanDb row => dsimp only; split <;> exact .same _ (by simp)
        | orphanExchange botId position =>
            dsimp only
            split
            · exact .same _ (by simp)
            · split_ifs <;> exact .same _ (by simp)
        | matching row => exact .resumed now half next
      · exact .same _ (by simp)
  | writesRow now commits =>
      simp only [lifespanStep]
      split
      · rename_i row openOrderId half
        rw [transaction_closeOrphanDbTx]
        cases commits with
        | false => exact .same _ (by simp)
        | true => exact .orphanClosed now half
      · exact .same _ (by simp)
  | placesClose answer =>
      simp only [lifespanStep]
      split <;> exact .same _ (by simp)
  | accepted key => exact .same _ (by simp)
  | abandoned key => exact .same _ (by simp)
  | fleet s =>
      simp only [lifespanStep]
      cases s with
      | places p slPrice tpPrice notionalUsd slSetAt tickSize commits =>
          simp only [Lifespan.serves]
          split_ifs
          · exact .served _ (by simp)
          · exact .served _ (by simp)
          · exact .same _ (by simp)
      | flattens p closeExchangeOrderId closeAt commits =>
          simp only [Lifespan.serves]
          split_ifs
          · exact .served _ (by simp)
          · exact .same _ (by simp)
      | moves tradeId move stop => exact .served _ (by simp)
      | fills | watchdogReads | trackedCloses | watchdogEnds =>
          simp only [Lifespan.serves]
          split_ifs with returned
          · exact .served _ (fun _ => returned)
          · exact .same _ (by simp)

/-- A reconciliation that has returned stays so until the restart. -/
theorem reconciler_of_returned (returned : w.reconciler.returned = true) {s : LifespanStep}
    (goesOn : s ≠ .restarts) : (lifespanStep c s w).reconciler = w.reconciler := by
  simp only [Reconciler.returned, Bool.and_eq_true, List.isEmpty_iff, Option.isNone_iff_eq_none]
    at returned
  obtain ⟨⟨⟨⟨started, _⟩, bots⟩, actions⟩, half⟩ := returned
  cases s with
  | restarts => exact absurd rfl goesOn
  | fleet s => exact (serves_subset w s).1
  | snapshots | readsPositions | looksUp | writesRow | placesClose | accepted | abandoned =>
      simp [lifespanStep, started, half, actions, bots]

end Moved

/-! ## The rows of the snapshot -/

/-- The rows the reconciliation has not come to are of the trades they were of, and it starts
monitors for rows of its snapshot. -/
structure Recalls (w : Lifespan) : Prop where
  rows : ∀ row ∈ w.reconciler.rows, w.reconciler.awaits row.1 →
    ∀ held, w.db.positions.lookup row.1 = some held → held.tradeId = row.2.tradeId
  matching : ∀ row, .matching row ∈ w.reconciler.actions → row ∈ w.reconciler.rows

section Recalls

variable {c : StartupSettings} {w w' : Lifespan}

/-- The reconciliation as it was or further on, with rows that are kept. -/
theorem Recalls.shrinks (recalls : Recalls w) (rows : w'.reconciler.rows = w.reconciler.rows)
    (awaits : ∀ key, w'.reconciler.awaits key → w.reconciler.awaits key)
    (matching : ∀ row, .matching row ∈ w'.reconciler.actions → row ∈ w.reconciler.rows)
    (kept : ∀ row ∈ w.reconciler.rows, w.reconciler.awaits row.1 → ∀ held',
      w'.db.positions.lookup row.1 = some held' →
        ∃ held, w.db.positions.lookup row.1 = some held ∧ held.tradeId = held'.tradeId) :
    Recalls w' where
  rows := by
    rw [rows]
    intro row member here held' found
    obtain ⟨held, before, same⟩ := kept row member (awaits row.1 here) held' found
    exact same.symm.trans (recalls.rows row member (awaits row.1 here) held before)
  matching := by
    rw [rows]
    exact matching

theorem Recalls.of_same (recalls : Recalls w) (reconciler : w'.reconciler = w.reconciler)
    (kept : ∀ row ∈ w.reconciler.rows, w.reconciler.awaits row.1 → ∀ held',
      w'.db.positions.lookup row.1 = some held' →
        ∃ held, w.db.positions.lookup row.1 = some held ∧ held.tradeId = held'.tradeId) :
    Recalls w' :=
  recalls.shrinks (congrArg _ reconciler) (fun _ here => reconciler ▸ here)
    (fun row listed => recalls.matching row (reconciler ▸ listed)) kept

theorem Recalls.of_idle (bots : w.reconciler.bots = []) (actions : w.reconciler.actions = [])
    (half : w.reconciler.half = none) : Recalls w where
  rows := by
    intro row _ here
    simp [Reconciler.awaits, bots, actions, half] at here
  matching := by simp [actions]

/-- A bot's positions are read, and its actions are those of the snapshot. -/
theorem Recalls.readsPositions (recalls : Recalls w) (untouched : Untouched c w)
    (answer : Except CallError (List Position)) :
    Recalls (lifespanStep c (.readsPositions answer) w) := by
  simp only [lifespanStep]
  split
  · rename_i botId bots half actions next
    cases answer with
    | error raised => exact .of_idle rfl rfl rfl
    | ok positions =>
        obtain ⟨db, rows⟩ := untouched.ordered.snapshot
        have known := untouched.ordered.known (next ▸ List.mem_cons_self)
        refine recalls.shrinks rfl (fun key awaits => ?_) (fun row listed => ?_)
          (fun _ _ _ held' found => ⟨held', found, rfl⟩)
        · rcases awaits with asked | ⟨action, listed, rfl⟩ | ⟨row, openOrderId, here, rfl⟩
          · exact .inl (next ▸ List.mem_cons_of_mem _ asked)
          · simp only [rows] at listed
            exact .inl (next ▸ ((mem_botActions known).mp listed).1 ▸ List.mem_cons_self)
          · simp [half] at here
        · simp only [rows] at listed ⊢
          obtain ⟨bot, made⟩ := (mem_botActions known).mp listed
          have bot : row.1.1 = botId := bot
          exact mem_selectPositionStatesForBots.mpr
            ⟨bot ▸ known, (actionOf_eq_matching.mp made).2.1⟩
  · exact recalls

/-- The next action is looked up, and done or left half done. -/
theorem Recalls.looksUp (recalls : Recalls w) (now : ℕ) :
    Recalls (lifespanStep c (.looksUp now) w) := by
  simp only [lifespanStep]
  split
  · rename_i action actions half next
    have same := lookUp_same (c := c)
      (w := { w with reconciler := { w.reconciler with actions := actions } }) now action
    have cases := lookUp_cases (c := c)
      (w := { w with reconciler := { w.reconciler with actions := actions } }) now action
    generalize lookUp c now action _ = w' at same cases
    have later (other : ReconcileAction) (listed : other ∈ actions) :
        other ∈ w.reconciler.actions := next ▸ List.mem_cons_of_mem action listed
    have kept : ∀ row ∈ w.reconciler.rows, w.reconciler.awaits row.1 → ∀ held',
        w'.db.positions.lookup row.1 = some held' →
          ∃ held, w.db.positions.lookup row.1 = some held ∧ held.tradeId = held'.tradeId :=
      fun _ _ _ held' found => ⟨held', by rwa [same.1] at found, rfl⟩
    generalize reconciler : w'.reconciler = r at cases
    cases cases with
    | done | placesClose =>
        refine recalls.shrinks (by rw [reconciler]) (fun key awaits => ?_)
          (fun row listed => ?_) kept
        · rw [reconciler] at awaits
          rcases awaits with asked | ⟨other, listed, rfl⟩ | ⟨row, openOrderId, here, -⟩
          · exact .inl asked
          · exact .inr (.inl ⟨other, later other listed, rfl⟩)
          · simp [half] at here
        · rw [reconciler] at listed
          exact recalls.matching row (later _ listed)
    | closesRow row openOrderId =>
        refine recalls.shrinks (by rw [reconciler]) (fun key awaits => ?_)
          (fun row listed => ?_) kept
        · rw [reconciler] at awaits
          rcases awaits with asked | ⟨other, listed, rfl⟩ | ⟨other, _, here, rfl⟩
          · exact .inl asked
          · exact .inr (.inl ⟨other, later other listed, rfl⟩)
          · cases here
            exact .inr (.inl ⟨.orphanDb row, next ▸ List.mem_cons_self, rfl⟩)
        · rw [reconciler] at listed
          exact recalls.matching row (later _ listed)
  · exact recalls

/-- The row of a trade that has no position is removed. -/
theorem Recalls.writesRow (recalls : Recalls w) (now : ℕ) (commits : Bool) :
    Recalls (lifespanStep c (.writesRow now commits) w) := by
  simp only [lifespanStep]
  split
  · rename_i row openOrderId half
    rw [transaction_closeOrphanDbTx]
    cases commits with
    | false => exact .of_idle rfl rfl rfl
    | true =>
        simp only [if_true]
        refine recalls.shrinks rfl (fun key awaits => Reconciler.awaits_of_rests awaits)
          recalls.matching (fun other _ _ held' found => ⟨held', ?_, rfl⟩)
        have found : (w.db.positions.erase row.1).lookup other.1 = some held' := found
        by_cases same : other.1 = row.1
        · rw [same, AList.lookup_erase] at found
          cases found
        · rwa [AList.lookup_erase_ne same] at found
  · exact recalls

/-- The service does not put another trade in a row the reconciler has read. -/
theorem Recalls.fleet (recalls : Recalls w) (untouched : Untouched c w)
    (watching : Watching w.fleet.service) (s : FleetStep) :
    Recalls (lifespanStep c (.fleet s) w) := by
  have moved := lifespanStep_fleet (c := c) (w := w) (.fleet s)
  refine recalls.of_same (serves_subset w s).1 fun row member awaits held' found => ?_
  have found : (lifespanStep c (.fleet s) w).fleet.db.positions.lookup row.1 = some held' := found
  generalize (lifespanStep c (.fleet s) w).fleet = fleet at moved found
  cases moved with
  | same => exact ⟨held', found, rfl⟩
  | served =>
      rcases fleetStep_cases watching s with carries | ⟨p, placed⟩
      · exact carries.rows row.1 held' found
      · -- the key of a placement is free, and this row is held
        obtain ⟨⟨slPrice, tpPrice, notionalUsd, slSetAt, tickSize, rfl, after⟩, free⟩ := placed
        rw [after] at found
        have different : row.1 ≠ p.key := by
          intro same
          have held := (untouched.held row member awaits).1
          rw [same] at held
          rw [show w.db.positions.lookup p.key = none from free] at held
          cases held
        exact ⟨held', (AList.lookup_insert_ne different).symm.trans found, rfl⟩

theorem Recalls.step (recalls : Recalls w) (untouched : Untouched c w)
    (watching : Watching w.fleet.service) (s : LifespanStep) : Recalls (lifespanStep c s w) := by
  cases s with
  | restarts => exact .of_idle rfl rfl rfl
  | snapshots =>
      simp only [lifespanStep]
      split_ifs
      · exact recalls
      · refine ⟨fun row member _ held found => ?_, by simp⟩
        have read := (mem_selectPositionStatesForBots.mp member).2
        exact congrArg _ (Option.some.inj (found.symm.trans read))
  | readsPositions answer => exact recalls.readsPositions untouched answer
  | looksUp now => exact recalls.looksUp now
  | writesRow now commits => exact recalls.writesRow now commits
  | placesClose answer =>
      simp only [lifespanStep]
      split
      · exact recalls.shrinks rfl (fun key awaits => Reconciler.awaits_of_rests awaits)
          recalls.matching (fun _ _ _ held' found => ⟨held', found, rfl⟩)
      · exact recalls
  | accepted key | abandoned key =>
      exact recalls.of_same rfl fun _ _ _ held' found => ⟨held', found, rfl⟩
  | fleet s => exact recalls.fleet untouched watching s

end Recalls

/-! ## The invariant -/

/-- What a run keeps. -/
structure Accounted (c : StartupSettings) (w : Lifespan) : Prop where
  owned : Owned w.fleet
  untouched : Untouched c w
  recalls : Recalls w
  watched : ∀ key ps, w.fleet.service.watched.lookup key = some ps →
    w.reconciler.returned = true ∧ ∀ trade ∈ w.db.trades, trade.id = ps.tradeId →
      trade.lifecycleState ≠ some .reconciled
  mirroring : Mirroring w.db w.fleet.tasks

section Invariant

variable {c : StartupSettings} {w : Lifespan}

theorem Accounted.initial : Accounted c {} where
  owned := .initial
  untouched := .fresh rfl
  recalls := .of_idle rfl rfl rfl
  watched := fun key ps read => by simp at read
  mirroring := ⟨by simp, by simp, by simp [unmarkedStop], by simp⟩

/-- The trade of a row the reconciliation is about to close or to resume. -/
theorem Accounted.row_known (accounted : Accounted c w) {row : KeyedRow}
    (member : row ∈ w.reconciler.rows) (awaits : w.reconciler.awaits row.1) :
    ∃ held, w.db.positions.lookup row.1 = some held ∧ held.tradeId = row.2.tradeId ∧
      w.db.Knows row.2.tradeId row.1 := by
  obtain ⟨held, found⟩ :=
    Option.isSome_iff_exists.mp (accounted.untouched.held row member awaits).1
  have same := accounted.recalls.rows row member awaits held found
  obtain ⟨trade, listed, tracks⟩ := accounted.owned.watching.integrity.tracked row.1 held found
  exact ⟨held, found, same, trade, listed, tracks.id.trans same, tracks.botId, tracks.symbol⟩

theorem lookup_orphanClosed {row : KeyedRow} {closedAt openOrderId : ℕ} {db : Db}
    {other : PositionKey} {found : PositionStateRow} :
    (db.orphanClosed row closedAt openOrderId).positions.lookup other = some found ↔
      other ≠ row.1 ∧ db.positions.lookup other = some found := by
  simp only [Db.orphanClosed]
  by_cases same : other = row.1
  · subst same
    simp [AList.lookup_erase]
  · rw [AList.lookup_erase_ne same]
    simp [same]

theorem keepsIdentity_orphanClosed (closedAt openOrderId : ℕ) :
    KeepsIdentity (.orphanClosed closedAt openOrderId) :=
  (keepsIdentity_enter .reconciled).comp (keepsIdentity_close ..)

theorem Integrity.orphanClosed {db : Db} (integrity : Integrity db) {row : KeyedRow}
    (known : db.Knows row.2.tradeId row.1) (closedAt openOrderId : ℕ) :
    Integrity (db.orphanClosed row closedAt openOrderId) :=
  integrity.closes known (keepsIdentity_orphanClosed closedAt openOrderId) rfl rfl rfl rfl rfl
    fun _ _ => lookup_orphanClosed.mp

/-- An orphan's close leaves the rows of the other trades, and the watchdog knows what it read. -/
theorem Carries.orphanClosed {w : Fleet} (watching : Watching w.service) {row : KeyedRow}
    (known : w.db.Knows row.2.tradeId row.1) (closedAt openOrderId : ℕ) :
    Carries w
      { w with service := { w.service with db := w.db.orphanClosed row closedAt openOrderId } } where
  rows := fun _ found held => ⟨found, (lookup_orphanClosed.mp held).2, rfl⟩
  watching := by
    have grows : Grows w.db (w.db.orphanClosed row closedAt openOrderId) :=
      ⟨⟨[], (List.append_nil _).symm⟩, row.2.tradeId, _, [],
        keepsIdentity_orphanClosed closedAt openOrderId, (List.append_nil _).symm⟩
    exact ⟨watching.integrity.orphanClosed known closedAt openOrderId,
      fun key ps read => grows.knows (watching.known key ps read)⟩
  drawn := le_rfl
  tasks := fun _ task found => ⟨task, found, rfl, id⟩
  watched := fun _ _ read => .inl read

/-- A restart keeps the tables alone. -/
theorem Owned.restarted {w : Fleet} (owned : Owned w) : Owned { service := { db := w.db } } where
  watching := ⟨owned.watching.integrity, fun key ps read => by simp at read⟩
  ids := fun tradeId task found => by simp at found
  drawn := fun tradeId task found => by simp at found
  followed := fun tradeId task found => by simp at found
  snapshot := fun key ps row read => by simp at read

/-- A monitor of a row of its trade is started. -/
theorem Owned.resumed {w : Fleet} (owned : Owned w) {row : KeyedRow}
    (known : w.db.Knows row.2.tradeId row.1)
    (ofTrade : ∀ held, w.db.positions.lookup row.1 = some held → held.tradeId = row.2.tradeId)
    {monitor : Monitor} (key : monitor.key = row.1) (id : monitor.tradeId = row.2.tradeId) :
    Owned { w with tasks := w.tasks.insert row.2.tradeId { monitor := monitor } } where
  watching := owned.watching
  ids := by
    intro tradeId task found
    rcases lookup_insert_eq_some_cases found with ⟨rfl, rfl⟩ | ⟨-, before⟩
    · exact id
    · exact owned.ids tradeId task before
  drawn := by
    intro tradeId task found
    rcases lookup_insert_eq_some_cases found with ⟨rfl, -⟩ | ⟨-, before⟩
    · obtain ⟨trade, member, same, -⟩ := known
      exact same ▸ owned.watching.integrity.tradeIds trade member
    · exact owned.drawn tradeId task before
  followed := by
    intro tradeId task found running held here
    rcases lookup_insert_eq_some_cases found with ⟨rfl, rfl⟩ | ⟨-, before⟩
    · rw [key] at here
      exact ofTrade held here
    · exact owned.followed tradeId task before running held here
  snapshot := owned.snapshot

/-- What the watchdog knows after a step. -/
theorem watched_fleetStep {w : Fleet} (s : FleetStep) {key : PositionKey} {ps : PositionStateRow}
    (read : (fleetStep s w).service.watched.lookup key = some ps) :
    w.service.watched.lookup key = some ps ∨
      s = .watchdogReads ∧ w.db.positions.lookup key = some ps := by
  cases s with
  | places | moves =>
      refine .inl ?_
      simp only [fleetStep] at read
      split at read <;> exact read
  | flattens | fills => exact .inl read
  | watchdogReads => exact .inr ⟨rfl, read⟩
  | trackedCloses =>
      refine .inl ?_
      simp only [fleetStep, serviceStep] at read
      split at read <;> exact read
  | watchdogEnds => simp [fleetStep] at read

theorem Attended.unmarked {s : LifespanStep} (attended : Attended w s) (owned : Owned w.fleet)
    {tradeId : ℕ} (interrupts : s.interrupts w tradeId = true) :
    unmarkedStop w.fleet.tasks tradeId = none := by
  cases found : w.fleet.tasks.lookup tradeId with
  | none => rw [unmarkedStop, found, Option.bind_none]
  | some task =>
      rw [unmarkedStop, found, Option.bind_some]
      by_contra due
      have kept := attended tradeId task found due
      rw [owned.ids tradeId task found, interrupts] at kept
      cases kept

/-- What a step leaves of the service; only an orphan's close reconciles a trade. -/
theorem Accounted.moved (accounted : Accounted c w) {s : LifespanStep} (settled : Settled w s)
    {w' : Fleet} (moved : FleetMoved c w s w') :
    Owned w' ∧ ∃ orphans, Observed w.db w'.db w'.tasks orphans ∧
      (w.reconciler.returned = true → orphans = []) := by
  have integrity := accounted.owned.watching.integrity
  cases moved with
  | same => exact ⟨accounted.owned, [], accounted.mirroring.refl, fun _ => rfl⟩
  | restarted =>
      refine ⟨accounted.owned.restarted, [], accounted.mirroring.stays (fun other => ?_)
        (fun tradeId task found => by simp at found), fun _ => rfl⟩
      exact (settled.attended.unmarked accounted.owned rfl).symm
  | @resumed now row actions half next =>
      have listed : .matching row ∈ w.reconciler.actions := next ▸ List.mem_cons_self
      have member := accounted.recalls.matching row listed
      have awaits : w.reconciler.awaits row.1 := .inr (.inl ⟨_, listed, rfl⟩)
      obtain ⟨-, -, -, known⟩ := accounted.row_known member awaits
      have unregistered : w.fleet.tasks.lookup row.2.tradeId = none := by
        have resumes := settled.resumesOnce
        simpa only [ResumesOnce, half, next] using resumes
      refine ⟨accounted.owned.resumed known (accounted.recalls.rows row member awaits) rfl rfl, [],
        accounted.mirroring.stays (fun other => ?_)
          (accounted.mirroring.advances_insert trivial), fun _ => rfl⟩
      by_cases own : other = row.2.tradeId
      · rw [own, unmarkedStop, AList.lookup_insert, unmarkedStop, unregistered]
        rfl
      · rw [unmarkedStop, AList.lookup_insert_ne own, unmarkedStop]
  | @orphanClosed now row openOrderId half =>
      have member := (accounted.untouched.ordered.half row openOrderId half).1
      have awaits : w.reconciler.awaits row.1 := .inr (.inr ⟨row, openOrderId, half, rfl⟩)
      obtain ⟨held, found, ofTrade, known⟩ := accounted.row_known member awaits
      have marked : unmarkedStop w.fleet.tasks row.2.tradeId = none :=
        settled.attended.unmarked accounted.owned (by simp [LifespanStep.interrupts, half])
      have stands : (w.db.stopOf row.2.tradeId).isSome := Option.isSome_iff_exists.mpr
        ⟨held.slType, (stopOf_eq_some_iff integrity).mpr ⟨row.1, held, found, ofTrade, rfl⟩⟩
      refine ⟨accounted.owned.carries (.orphanClosed accounted.owned.watching known now openOrderId),
        [row.2.tradeId], ?_, fun returned => ?_⟩
      · refine accounted.mirroring.closes integrity (integrity.orphanClosed known now openOrderId)
          .reconcileGone rfl (List.Subset.refl _) (fun other found => lookup_orphanClosed)
          (accounted.recalls.rows row member awaits) marked (fun trade => rfl)
          (fun _ => List.mem_singleton_self _) fun trade listed own ended => ?_
        have isOpen := isOpen_of_stopOf integrity stands listed own
        exact absurd ended ((accounted.mirroring.mirrors trade listed).not_ended isOpen)
      · simp [Reconciler.returned, half] at returned
  | served s =>
      refine ⟨accounted.owned.step settled.unclaimed, [], ?_, fun _ => rfl⟩
      refine accounted.mirroring.fleetStep accounted.owned (fun tradeId interrupts => ?_)
        settled.findsRow fun key ps read => (accounted.watched key ps read).2
      exact settled.attended.unmarked accounted.owned (by simp [LifespanStep.interrupts, interrupts])

theorem Accounted.step (accounted : Accounted c w) {s : LifespanStep} (settled : Settled w s) :
    Accounted c (lifespanStep c s w) ∧ Absorbs w.db (lifespanStep c s w).db := by
  have moved := lifespanStep_fleet (c := c) (w := w) s
  obtain ⟨owned, orphans, observed, returned⟩ := accounted.moved settled moved
  refine ⟨⟨owned, accounted.untouched.step s,
    accounted.recalls.step accounted.untouched accounted.owned.watching s, fun key ps read => ?_,
    observed.mirroring⟩, observed.absorbs⟩
  -- what was watched before the step is not reconciled by it
  have still (before : w.fleet.service.watched.lookup key = some ps) (goesOn : s ≠ .restarts) :
      (lifespanStep c s w).reconciler.returned = true ∧ ∀ trade ∈ (lifespanStep c s w).db.trades,
        trade.id = ps.tradeId → trade.lifecycleState ≠ some .reconciled := by
    obtain ⟨ready, notReconciled⟩ := accounted.watched key ps before
    refine ⟨by rw [reconciler_of_returned ready goesOn]; exact ready,
      fun trade' member own reconciled => ?_⟩
    rcases observed.reconciles trade' member reconciled with ⟨trade, listed, same, was⟩ | orphan
    · exact notReconciled trade listed (same.trans own) was
    · rw [returned ready] at orphan
      cases orphan
  have read : (lifespanStep c s w).fleet.service.watched.lookup key = some ps := read
  generalize fleet : (lifespanStep c s w).fleet = w' at moved read
  cases moved with
  | same _ goesOn => exact still read goesOn
  | restarted => simp at read
  | resumed | orphanClosed => exact still read (by simp)
  | served s reads =>
      rcases watched_fleetStep s read with before | ⟨rfl, held⟩
      · exact still before (by simp)
      · -- the watchdog reads rows, and a trade with a row has not ended
        have ready := reads rfl
        have integrity := accounted.owned.watching.integrity
        refine ⟨by rw [reconciler_of_returned ready (by simp)]; exact ready,
          fun trade member own reconciled => ?_⟩
        have member : trade ∈ w.db.trades := by
          have db : (fleetStep .watchdogReads w.fleet).db = w.db := rfl
          rw [← db, ← fleet]
          exact member
        have stands : (w.db.stopOf ps.tradeId).isSome := Option.isSome_iff_exists.mpr
          ⟨ps.slType, (stopOf_eq_some_iff integrity).mpr ⟨key, ps, held, rfl, rfl⟩⟩
        exact (accounted.mirroring.mirrors trade member).not_ended
          (isOpen_of_stopOf integrity stands member own) (.inr reconciled)

end Invariant

/-! ## Every run -/

/-- After the step every trade is mirrored, and none has left a last state. -/
structure DualWritten (c : StartupSettings) (w : Lifespan) (s : LifespanStep) : Prop where
  mirrors : ∀ trade ∈ (lifespanStep c s w).db.trades,
    Mirrors (lifespanStep c s w).db (lifespanStep c s w).fleet.tasks trade
  absorbs : Absorbs w.db (lifespanStep c s w).db

/-- **The lifecycle state mirrors the older columns after every step**, and `closed` and
`reconciled` are last states, in every run of placements, monitors, fills, closes, watchdog closes,
reconciliations and restarts whose steps let each stop that was written be marked. -/
theorem run_dualWritten {c : StartupSettings} {steps : List LifespanStep}
    (settled : RunGuarded Settled (lifespanStep c) {} steps) :
    RunGuarded (DualWritten c) (lifespanStep c) {} steps :=
  runGuarded_of_invariant (Accounted c) (fun _ _ accounted settled => (accounted.step settled).1)
    (fun _ _ accounted settled =>
      ⟨(accounted.step settled).1.mirroring.mirrors, (accounted.step settled).2⟩)
    .initial settled

/-- A pool of the long's bot. -/
def longPool : StartupSettings where
  adapters := ["bot"]
  raceWindow := 30
  tickSize := fun _ => 1 / 100
  subAccount := id
  distinct := by decide

/-- The long is placed, and its monitor is resumed by the next process. -/
def resumedLong : List LifespanStep :=
  [.accepted ("bot", "BTCUSDT"), .fleet (.places placedLong 98 104 1000 3 (1 / 100) true),
    .restarts, .snapshots, .readsPositions (.ok [restartPosition "BTCUSDT"]), .looksUp 1000]

/-- A tick moves its stop to break-even; the mark is still due. -/
def movedToBreakEven : List LifespanStep :=
  resumedLong ++
    [.fleet (.moves 1 (.reads 102) {}), .fleet (.moves 1 (.ticks 5 true) {}),
      .fleet (.moves 1 (.detects .flat 5 true) {}), .fleet (.moves 1 (.decides true) {}),
      .fleet (.moves 1 (.sets .returns) {}), .fleet (.moves 1 (.persists 6 true) {})]

/-- The watchdog reads the row, the trade is marked, and its stop fills. -/
def markedAndClosed : List LifespanStep :=
  movedToBreakEven ++
    [.fleet .watchdogReads, .fleet (.moves 1 (.marks true) {}),
      .fleet (.fills "bot" (longFill "e1" "sl" .sell 10 7)),
      .fleet (.trackedCloses ("bot", "BTCUSDT") "safety" 8 true)]

theorem markedAndClosed_dualWritten :
    RunGuarded (DualWritten longPool) (lifespanStep longPool) {} markedAndClosed :=
  run_dualWritten (by decide +kernel)

/-- What is stored and what is derived for each trade. -/
def statesOf (w : Lifespan) : List (Option TradeLifecycleState × TradeLifecycleState) :=
  w.db.trades.map fun trade => (trade.lifecycleState, w.db.derivedState trade)

/-- **A partial fill leaves the derived state**: half of the long is taken in profit, the trade reads
`partially_closed`, and `trailing_active` is derived from its row. -/
theorem partialFill_diverges :
    statesOf (run (lifespanStep longPool) {}
        (resumedLong ++ [.fleet (.fills "bot" (longFill "e1" "tp" .sell 5 7))])) =
      [(some .partiallyClosed, .trailingActive)] ∧
    ¬ ∀ steps : List LifespanStep, ∀ states ∈ statesOf (run (lifespanStep longPool) {} steps),
      states.1 = some states.2 := by
  have diverges : statesOf (run (lifespanStep longPool) {}
      (resumedLong ++ [.fleet (.fills "bot" (longFill "e1" "tp" .sell 5 7))])) =
      [(some .partiallyClosed, .trailingActive)] := by decide +kernel
  refine ⟨diverges, fun agrees => ?_⟩
  have same := agrees _ _ (diverges ▸ List.mem_singleton_self _)
  cases same

end Scalper.Execution
