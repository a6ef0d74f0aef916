import Scalper.Paper.Quantity
import Scalper.Shadow.Worker
import Scalper.Lib.Run

/-!
# What a shadow variant leaves in the real tables

A variant is a what-if: the paper tables ought to be the same as in the run without it.  Its
exchange is a full `PaperExchange` under the parent's bot, though, so a stop of the variant
that is crossed records an order and an execution, closes the trade whose id the variant
carries and deletes the position row of the bot's symbol, and a stop that it moves is moved in
that row.  The same goes for the other positions of the bot, which its exchange hydrates.

A variant is *silent* at a step when nothing of this happens there: no candle fills a level of
a position whose trade `paper_trades` knows (`VariantTask.fills`), and no stop is moved where
the bot has a position row (`VariantTask.restops`).  A restart is always silent: the replay
does not get as far as an exchange.

The main result is `run_noninterfering`: a run in which the variant is silent leaves the
tables, and everything else outside the variant, as the run of the other steps alone.
-/

set_option autoImplicit false

namespace Scalper.Shadow

open Scalper.Lib Scalper.Exchange Scalper.Paper

/-! ## Candles that fill nothing -/

/-- The next candle is going to fill a level of a position whose trade is known. -/
def VariantTask.fills (candle : Candle) (t : VariantTask) : Bool :=
  candle.isClosed && match t.pe.activePositions candle.symbol with
    | some { stops := stops, position := some position } =>
        match detectCross ⟨stops, some position⟩ candle.symbol candle.low candle.high t.pe.now with
        | .ok (some _) => t.pe.db.trades.any (·.id == position.tradeId) && t.pe.commits
        | _ => false
    | _ => false

/-- Two exchanges that differ in their caches, queues and supplies only. -/
structure Unfilled (pe pe' : PaperExchange) : Prop where
  activePositions : pe'.activePositions = pe.activePositions
  db : pe'.db = pe.db
  terminalEvents : pe'.terminalEvents = pe.terminalEvents
  pending : pe'.pendingSlTpFills = pe.pendingSlTpFills

theorem Unfilled.refl (pe : PaperExchange) : Unfilled pe pe := ⟨rfl, rfl, rfl, rfl⟩

/-- A transaction that raises only uses up its outcome. -/
theorem transaction_raised {α : Type} {body : Tx α} {e : PaperError} {s s' : PaperExchange}
    (raised : transaction body s = (.error e, s')) :
    ∃ outcomes, s' = { s with dbOutcomes := outcomes } := by
  unfold transaction at raised
  split at raised
  · cases raised
    exact ⟨_, rfl⟩
  · split at raised
    · cases raised
    · cases raised
      exact ⟨_, rfl⟩

/-- A drain that raises only draws an id. -/
theorem drainSlTpFill_raised {cfg : Config} {fill : PendingSLTPFill} {s : PaperExchange}
    {e : PaperError} (raised : (drainSlTpFill cfg fill s).1 = .error e) :
    ∃ uuids outcomes,
      (drainSlTpFill cfg fill s).2 = { s with uuids := uuids, dbOutcomes := outcomes } := by
  have kept : ∀ {body : Tx Unit} {e : PaperError} {s' : PaperExchange},
      transaction body { s with uuids := s.uuids + 1 } = (.error e, s') →
        ∃ uuids outcomes, s' = { s with uuids := uuids, dbOutcomes := outcomes } := by
    intro body e s' failed
    obtain ⟨outcomes, rfl⟩ := transaction_raised failed
    exact ⟨_, outcomes, rfl⟩
  unfold drainSlTpFill at raised ⊢
  by_cases isPartial : fill.kind = .tp ∧ fill.tpslMode = .Partial
  · rw [if_pos isPartial] at raised ⊢
    unfold drainPartialTp at raised ⊢
    split at raised
    · dsimp only at raised ⊢
      split at raised
      · rename_i failed
        exact kept failed
      · cases raised
    · exact ⟨_, _, rfl⟩
  · rw [if_neg isPartial] at raised ⊢
    unfold drainFullClose at raised ⊢
    split at raised
    · dsimp only at raised ⊢
      split at raised
      · rename_i failed
        exact kept failed
      · cases raised
    · exact ⟨_, _, rfl⟩

section Candles

variable {cfg : Config} {t : VariantTask} {candle : Candle}

variable (cfg) in
/-- A crossing check whose fill is refused only draws an id. -/
theorem checkAndDrain_unfilled (symbol : String) (low high : ℚ) {s : PaperExchange}
    (empty : s.pendingSlTpFills = [])
    (refused : ∀ stops position fill,
      s.activePositions symbol = some { stops := stops, position := some position } →
      detectCross ⟨stops, some position⟩ symbol low high s.now = .ok (some fill) →
        (s.db.trades.any (·.id == position.tradeId) && s.commits) = false) :
    ∃ uuids outcomes,
      (checkAndDrain cfg symbol low high s).2 =
        { s with uuids := uuids, dbOutcomes := outcomes } := by
  cases held : s.openPosition symbol with
  | none =>
      rw [checkAndDrain_unheld low high empty held]
      exact ⟨_, _, rfl⟩
  | some position =>
      obtain ⟨⟨stops, _⟩, found, isOpen⟩ := Option.bind_eq_some_iff.mp held
      cases isOpen
      obtain ⟨whenClear, whenRaised, whenCrossed⟩ :=
        checkAndDrain_held cfg low high empty found
      cases detected : detectCross ⟨stops, some position⟩ symbol low high s.now with
      | error e =>
          rw [whenRaised e detected]
          exact ⟨_, _, rfl⟩
      | ok crossing =>
          cases crossing with
          | none =>
              rw [whenClear detected]
              exact ⟨_, _, rfl⟩
          | some fill =>
              obtain ⟨-, -, -, failed⟩ :=
                whenCrossed fill detected (crossed_of_detectCross detected)
              obtain ⟨⟨e, raised⟩, -⟩ := failed (refused stops position fill found detected)
              have popped : { s with pendingSlTpFills := [] } = s := by rw [← empty]
              simp only [checkAndDrain, enqueueCross, found, detected, empty, List.nil_append,
                drainLoop, popped] at raised ⊢
              split at raised
              · rename_i drained
                have kept := drainSlTpFill_raised (congrArg Prod.fst drained)
                rw [drained] at kept
                obtain ⟨uuids, outcomes, same⟩ := kept
                exact ⟨uuids, outcomes, by rw [same, empty]⟩
              · cases raised

theorem fills_eq_false_iff :
    t.fills candle = false ↔
      (candle.isClosed = true → ∀ stops position fill,
        t.pe.activePositions candle.symbol = some { stops := stops, position := some position } →
        detectCross ⟨stops, some position⟩ candle.symbol candle.low candle.high t.pe.now =
            .ok (some fill) →
          (t.pe.db.trades.any (·.id == position.tradeId) && t.pe.commits) = false) := by
  unfold VariantTask.fills
  rw [Bool.and_eq_false_iff]
  constructor
  · rintro (unclosed | clear) closed stops position fill found detected
    · rw [closed] at unclosed
      cases unclosed
    · rw [found] at clear
      dsimp only at clear
      rw [detected] at clear
      exact clear
  · intro clear
    cases closed : candle.isClosed with
    | false => exact .inl rfl
    | true =>
        refine .inr ?_
        split
        · rename_i stops position found
          split
          · rename_i fill detected
            exact clear closed stops position fill found detected
          · rfl
        · rfl

/-- A candle that fills nothing only moves the price caches and draws ids. -/
theorem onCandle_cached (empty : t.pe.pendingSlTpFills = []) (clear : t.fills candle = false) :
    ∃ uuids outcomes, (onCandle cfg candle t.pe).2 =
      { (if candle.isClosed then t.pe.cacheCandle candle else t.pe) with
        uuids := uuids, dbOutcomes := outcomes } := by
  unfold onCandle
  cases closed : candle.isClosed with
  | false => exact ⟨_, _, rfl⟩
  | true =>
      rw [if_pos rfl, if_pos rfl]
      exact checkAndDrain_unfilled cfg candle.symbol candle.low candle.high
        (s := t.pe.cacheCandle candle) empty (fills_eq_false_iff.mp clear closed)

theorem onCandle_unfilled (empty : t.pe.pendingSlTpFills = []) (clear : t.fills candle = false) :
    Unfilled t.pe (onCandle cfg candle t.pe).2 := by
  obtain ⟨uuids, outcomes, cached⟩ := @onCandle_cached cfg t candle empty clear
  rw [cached]
  split <;> exact ⟨rfl, rfl, rfl, rfl⟩

theorem exchangeSees_unfilled (settings : Settings) (empty : t.pe.pendingSlTpFills = [])
    (clear : t.fills candle = false) :
    Unfilled t.pe (t.exchangeSees settings candle).pe :=
  onCandle_unfilled empty clear

/-- The entry of a fill records an order. -/
theorem orders_entry (fill : PendingSLTPFill) {b : Books}
    (allowed : (fill.entry cfg).Allowed cfg b) :
    ((fill.entry cfg).apply cfg b).db.orders.length = b.db.orders.length + 1 := by
  unfold PendingSLTPFill.entry at allowed ⊢
  by_cases isPartial : fill.kind = .tp ∧ fill.tpslMode = .Partial
  · rw [if_pos isPartial] at allowed ⊢
    obtain ⟨_, stops, position, found, _⟩ := allowed
    simp [Entry.apply, found, PaperDb.afterReduce, PaperDb.recordLeg]
  · rw [if_neg isPartial] at allowed ⊢
    obtain ⟨_, stops, position, found, _⟩ := allowed
    simp [Entry.apply, found, PaperDb.afterClose, PaperDb.recordLeg]

/-- A candle that fills is on record, so `fills` says exactly when a candle writes. -/
theorem onCandle_db_iff (empty : t.pe.pendingSlTpFills = []) :
    (onCandle cfg candle t.pe).2.db = t.pe.db ↔ t.fills candle = false := by
  refine ⟨fun unwritten => ?_, fun clear => (onCandle_unfilled empty clear).db⟩
  refine fills_eq_false_iff.mpr fun closed stops position fill found detected => ?_
  rw [Bool.eq_false_iff]
  intro accepted
  have crossed := crossed_of_detectCross detected
  have attempted := (checkAndDrain_held cfg candle.low candle.high
    (s := t.pe.cacheCandle candle) empty found).2.2 fill detected crossed
  have books := (attempted.made accepted).2
  rw [onCandle, if_pos closed] at unwritten
  have recorded := orders_entry fill
    (crossed.allowed cfg (b := (t.pe.cacheCandle candle).books) found
      (Bool.and_eq_true _ _ ▸ accepted).1)
  rw [← books] at recorded
  have counted : (checkAndDrain cfg candle.symbol candle.low candle.high
      (t.pe.cacheCandle candle)).2.db.orders.length = t.pe.db.orders.length + 1 := recorded
  rw [unwritten] at counted
  omega

theorem exchangeSees_pending {settings : Settings} (empty : t.pe.pendingSlTpFills = []) :
    (t.exchangeSees settings candle).pe.pendingSlTpFills = [] :=
  (@onCandle_reaches _ (fun _ _ => True) (fun _ _ _ _ => trivial) candle t.pe empty).2

end Candles

/-! ## Stops that reach no row -/

/-- The next candle is going to move the stop of a position row. -/
def VariantTask.restops (candle : Candle) (t : VariantTask) : Bool :=
  (t.stopRequest candle).isSome &&
    t.pe.db.positions.any (PaperPosition.at t.variant.botId candle.symbol) && t.pe.commits

section Handler

variable {settings : Settings} {t : VariantTask} {candle : Candle}

@[simp] theorem VariantTask.observe_pe (candle : Candle) (t : VariantTask) :
    (t.observe candle).pe = t.pe := by
  unfold VariantTask.observe
  split <;> rfl

@[simp] theorem VariantTask.observe_variant (candle : Candle) (t : VariantTask) :
    (t.observe candle).variant = t.variant := by
  unfold VariantTask.observe
  split <;> rfl

theorem candleHandler_none (closed : candle.isClosed = true)
    (unasked : t.stopRequest candle = none) :
    candleHandler settings candle t = (.ok (), t.observe candle) := by
  simp [candleHandler, closed, unasked]

/-- The handler takes note of the candle. -/
def VariantTask.watches (candle : Candle) (t : VariantTask) : Bool :=
  candle.isClosed && candle.symbol == t.variant.symbol

variable (settings t candle) in
/-- What the handler does: it notes the prices, and it may set a stop. -/
theorem handlerSees_cases :
    ((candle.symbol = t.variant.symbol → t.stopRequest candle = none) ∧
      t.handlerSees settings candle = if t.watches candle then t.observe candle else t) ∨
    ∃ request, candle.symbol = t.variant.symbol ∧ t.stopRequest candle = some request ∧
      t.handlerSees settings candle =
        { t.observe candle with
          pe := (setTradingStop (settings.config t.variant) candle.symbol request.tpslMode
            (some request.slPrice) request.tpPrice request.tpSize request.slType t.pe).2 } := by
  unfold VariantTask.handlerSees VariantTask.watches
  by_cases own : candle.symbol = t.variant.symbol
  · rw [if_pos own, beq_iff_eq.mpr own, Bool.and_true]
    cases closed : candle.isClosed with
    | false =>
        refine .inl ⟨fun _ => ?_, ?_⟩
        · simp [VariantTask.stopRequest, closed]
        · simp [candleHandler, closed]
    | true =>
        cases asked : t.stopRequest candle with
        | none => exact .inl ⟨fun _ => rfl, by rw [candleHandler_none closed asked, if_pos rfl]⟩
        | some request =>
            exact .inr ⟨request, own, rfl, by simp [candleHandler, closed, asked]⟩
  · refine .inl ⟨fun same => absurd same own, ?_⟩
    rw [if_neg own, beq_eq_false_iff_ne.mpr own, Bool.and_false, if_neg Bool.false_ne_true]

/-- A stop of a type that the handler may set, written out. -/
theorem setTradingStop_eq (cfg : Config) {symbol : String} {tpslMode : TpslMode}
    {slPrice tpPrice tpSize : Option ℚ} {slType : Option SlType} (untrailed : slType ≠ some .trail)
    {s : PaperExchange} {active : ActivePosition}
    (held : s.activePositions symbol = some active) :
    (setTradingStop cfg symbol tpslMode slPrice tpPrice tpSize slType s).2 =
      { s with
        activePositions := Function.update s.activePositions symbol (some
          { active with stops := active.stops.overwrite tpslMode slPrice tpPrice tpSize slType })
        db := if s.commits then s.db.afterRestop cfg symbol slPrice tpPrice else s.db
        dbOutcomes := s.dbOutcomes.tail } := by
  have spec : updatePaperPositionSlTp cfg.columns cfg.botId symbol slPrice tpPrice s.db =
      if true then .ok ((), s.db.afterRestop cfg symbol slPrice tpPrice)
      else .error .databaseError := rfl
  have ran := transaction_eq
    (s := { s with
      activePositions := Function.update s.activePositions symbol (some
        { active with stops := active.stops.overwrite tpslMode slPrice tpPrice tpSize slType }) })
    spec
  change _ = if true && s.commits then _ else _ at ran
  rw [Bool.true_and] at ran
  rw [setTradingStop, if_neg untrailed]
  simp only [held, Option.getD_some]
  rw [ran]
  cases s.commits <;> rfl

/-- The handler leaves it to the take-profit to start the trailing phase. -/
theorem variantStop_untrailed {v : Variant} {best : ℚ} {candle : Candle}
    {active : ActivePosition} {request : StopRequest}
    (asked : variantStop v best candle active = some request) : request.slType ≠ some .trail := by
  unfold variantStop at asked
  dsimp only at asked
  split_ifs at asked with breakeven trails
  · obtain rfl := Option.some.inj asked
    simp
  · split at asked
    · cases asked
    · split_ifs at asked
      obtain rfl := Option.some.inj asked
      simp

theorem setTradingStop_db {cfg : Config} {symbol : String} {tpslMode : TpslMode}
    {slPrice tpPrice tpSize : Option ℚ} {slType : Option SlType} {s : PaperExchange}
    (unwritten : (s.db.positions.any (PaperPosition.at cfg.botId symbol) && s.commits) = false) :
    (setTradingStop cfg symbol tpslMode slPrice tpPrice tpSize slType s).2.db = s.db := by
  obtain ⟨_, books⟩ := setTradingStop_books cfg symbol tpslMode slPrice tpPrice tpSize slType s
  have sameDb := congrArg Books.db books
  refine sameDb.trans ?_
  unfold stopEntry
  split
  · rfl
  · rename_i made
    split at made
    · cases made
    · cases made
      show (if s.commits = true then s.db.afterRestop cfg symbol _ _ else s.db) = s.db
      rcases Bool.and_eq_false_iff.mp unwritten with unlisted | failing
      · have kept : s.db.afterRestop cfg symbol slPrice tpPrice = s.db := by
          unfold PaperDb.afterRestop
          rw [updateWhere_eq_self (List.any_eq_false.mp unlisted)]
        split
        · exact kept
        · rfl
      · rw [failing, if_neg Bool.false_ne_true]

/-- A handler that moves no stop of a row leaves the tables. -/
theorem handlerSees_db
    (silent : candle.symbol = t.variant.symbol → t.restops candle = false) :
    (t.handlerSees settings candle).pe.db = t.pe.db := by
  rcases handlerSees_cases settings t candle with ⟨_, seen⟩ | ⟨request, own, asked, seen⟩
  · rw [seen]
    split
    · rw [VariantTask.observe_pe]
    · rfl
  · have unwritten := silent own
    rw [VariantTask.restops, asked, Option.isSome_some, Bool.true_and] at unwritten
    rw [seen]
    exact setTradingStop_db unwritten

theorem handlerSees_pending (empty : t.pe.pendingSlTpFills = []) :
    (t.handlerSees settings candle).pe.pendingSlTpFills = [] := by
  rcases handlerSees_cases settings t candle with ⟨_, seen⟩ | ⟨request, own, asked, seen⟩
  · rw [seen]
    split
    · rwa [VariantTask.observe_pe]
    · exact empty
  · rw [seen]
    exact (setTradingStop_books _ _ _ _ _ _ _ _).1.pending.trans empty

theorem handlerSees_variant : (t.handlerSees settings candle).variant = t.variant := by
  rcases handlerSees_cases settings t candle with ⟨_, seen⟩ | ⟨request, own, asked, seen⟩
  · rw [seen]
    split
    · exact VariantTask.observe_variant candle t
    · rfl
  · rw [seen]
    exact VariantTask.observe_variant candle t

end Handler

/-! ## The replay -/

section Replays

variable {settings : Settings}

theorem VariantTask.observe_with_pe (candle : Candle) (t : VariantTask) (pe : PaperExchange) :
    VariantTask.observe candle { t with pe := pe } = { t.observe candle with pe := pe } := by
  obtain ⟨⟨_, _, _, _, side, _, _, _⟩, _, _, _⟩ := t
  cases side <;> rfl

/-- Watching prices and changing the exchange do not get in each other's way. -/
theorem run_observe_with_pe (rows : List Candle) (pe : PaperExchange) :
    ∀ t : VariantTask,
      run VariantTask.observe { t with pe := pe } rows =
        { run VariantTask.observe t rows with pe := pe } := by
  induction rows with
  | nil => exact fun _ => rfl
  | cons row rows ih =>
      intro t
      rw [run_cons, run_cons, VariantTask.observe_with_pe]
      exact ih (t.observe row)

theorem run_observe_variant (rows : List Candle) (t : VariantTask) :
    (run VariantTask.observe t rows).variant = t.variant :=
  run_invariant_of_always (fun seen => seen.variant = t.variant)
    (fun seen row same => (VariantTask.observe_variant row seen).trans same) rows rfl

/-- **A restart rebuilds nothing.**  The row that the pool returns has no symbol, so the replay ends
before it makes an exchange: the row takes a result that no candle was looked at for, or the replay
raises. -/
theorem replayShadowVariantToNow_cases (v : Variant) (row : VariantRow) (r : Replay)
    (db : PaperDb) :
    (∃ record, replayShadowVariantToNow settings v (rowToShadowVariant row) r db =
        (.finalized record, db)) ∨
      replayShadowVariantToNow settings v (rowToShadowVariant row) r db = (.failed, db) := by
  unfold replayShadowVariantToNow
  dsimp only [rowToShadowVariant, variantSymbolFromRow]
  split
  · exact .inl ⟨_, rfl⟩
  · split
    · exact .inl ⟨_, rfl⟩
    · obtain late | early := le_or_gt (4 * ticksPerHour) ((r.moment.now : ℚ) - row.createdAt)
      · exact .inl ⟨_, if_pos late⟩
      · exact .inr (if_neg (not_le.mpr early))

section Limits

variable {v : Variant} {row : VariantRow} {r : Replay} {db : PaperDb}
  (inWindow : ((r.moment.now : ℚ) - row.createdAt) / ticksPerHour ≤
    settings.shadowReplayQueryWindowMaxHours)
  (parentOpen : checkParentOpen v r.liveParentOpen db = true)

include inWindow parentOpen

/-- The duration that counts is the default one, whatever the variant's own is. -/
theorem replayShadowVariantToNow_late
    (late : 4 * ticksPerHour ≤ (r.moment.now : ℚ) - row.createdAt) :
    replayShadowVariantToNow settings v (rowToShadowVariant row) r db =
      (.finalized { outcome := .timeout, mfePct := some 0, maePct := some 0 }, db) := by
  unfold replayShadowVariantToNow
  dsimp only [rowToShadowVariant]
  rw [if_neg (not_lt.mpr inWindow), parentOpen, Bool.not_true, if_neg Bool.false_ne_true]
  exact if_pos late

/-- Before it is over, the replay raises. -/
theorem replayShadowVariantToNow_early
    (early : (r.moment.now : ℚ) - row.createdAt < 4 * ticksPerHour) :
    replayShadowVariantToNow settings v (rowToShadowVariant row) r db = (.failed, db) := by
  unfold replayShadowVariantToNow
  dsimp only [rowToShadowVariant]
  rw [if_neg (not_lt.mpr inWindow), parentOpen, Bool.not_true, if_neg Bool.false_ne_true]
  exact if_neg (not_le.mpr early)

end Limits

end Replays

/-! ## Steps -/

section Steps

variable {ε : Type} (settings : Settings) (v : Variant)

/-- The step is the variant's own. -/
def ShadowStep.ofVariant : ShadowStep ε → Bool
  | .others _ => false
  | _ => true

/-- What the variant shares with everything else. -/
def World.tables (w : World ε) : ε × PaperDb := (w.env, w.db)

/-- The variant writes nothing at this step. -/
def Silent (w : World ε) : ShadowStep ε → Prop
  | .exchange candle moment => ∀ t ∈ w.task, (t.atMoment moment w.db).fills candle = false
  | .handler candle moment => ∀ t ∈ w.task, candle.symbol = t.variant.symbol →
      (t.atMoment moment w.db).restops candle = false
  | _ => True

instance Silent.decidable (w : World ε) : ∀ step : ShadowStep ε, Decidable (Silent w step)
  | .exchange candle moment =>
      inferInstanceAs (Decidable (∀ t ∈ w.task, (t.atMoment moment w.db).fills candle = false))
  | .handler candle moment =>
      inferInstanceAs (Decidable (∀ t ∈ w.task, candle.symbol = t.variant.symbol →
        (t.atMoment moment w.db).restops candle = false))
  | .starts _ | .settles | .expires | .stopped | .resumes _ | .others _ => isTrue trivial

/-- Between two steps no fill waits in the exchange of the variant's task. -/
def AtRest (w : World ε) : Prop :=
  ∀ t ∈ w.task, t.variant.symbol = v.symbol ∧ t.pe.pendingSlTpFills = []

variable {settings v} {w : World ε}

theorem atRest_of_idle (idle : w.task = none) : AtRest v w := by
  intro t running
  rw [idle] at running
  cases running

theorem World.resumed_quiet (r : Replay) (rest : AtRest v w) :
    AtRest v (w.resumed settings v r) ∧ (w.resumed settings v r).tables = w.tables := by
  unfold World.resumed
  split
  · rename_i row found idle
    split
    · obtain ⟨record, ended⟩ | ended := @replayShadowVariantToNow_cases settings v row r w.db
      · rw [ended]
        exact ⟨atRest_of_idle rfl, rfl⟩
      · rw [ended]
        exact ⟨atRest_of_idle idle, rfl⟩
    · exact ⟨rest, rfl⟩
  · exact ⟨rest, rfl⟩

theorem shadowStep_atRest (step : ShadowStep ε) (rest : AtRest v w) :
    AtRest v (shadowStep settings v step w) := by
  unfold shadowStep
  split
  · rintro t ⟨⟩
    exact ⟨rfl, rfl⟩
  · rename_i t running
    rintro _ ⟨⟩
    obtain ⟨own, empty⟩ := rest t running
    exact ⟨own, exchangeSees_pending (t := t.atMoment _ w.db) empty⟩
  · rename_i t running
    rintro _ ⟨⟩
    obtain ⟨own, empty⟩ := rest t running
    exact ⟨(congrArg Variant.symbol handlerSees_variant).trans own,
      handlerSees_pending (t := t.atMoment _ w.db) empty⟩
  · split
    · exact rest
    · exact atRest_of_idle rfl
  · exact atRest_of_idle rfl
  · exact atRest_of_idle rfl
  · exact (World.resumed_quiet _ rest).1
  · exact rest
  · exact rest

/-- A silent step of the variant leaves everything outside it. -/
theorem shadowStep_silent (step : ShadowStep ε) (own : step.ofVariant = true)
    (rest : AtRest v w) (silent : Silent w step) :
    (shadowStep settings v step w).tables = w.tables := by
  unfold shadowStep
  split
  · rfl
  · rename_i t running
    refine Prod.ext rfl ?_
    exact (exchangeSees_unfilled settings (t := t.atMoment _ w.db) (rest t running).2
      (silent t running)).db
  · rename_i t running
    refine Prod.ext rfl ?_
    exact handlerSees_db (t := t.atMoment _ w.db) (silent t running)
  · split <;> rfl
  · rfl
  · rfl
  · exact (World.resumed_quiet _ rest).2
  · cases own
  · rfl

/-- Everything else depends on what is outside the variant only. -/
theorem shadowStep_others {w w' : World ε} (step : ShadowStep ε) (foreign : step.ofVariant = false)
    (same : w.tables = w'.tables) :
    (shadowStep settings v step w).tables = (shadowStep settings v step w').tables := by
  cases step with
  | others write =>
      show ((write w.tables).1, (write w.tables).2) = ((write w'.tables).1, (write w'.tables).2)
      rw [same]
  | starts | exchange | handler | settles | expires | stopped | resumes => cases foreign

/-- A run in which the variant is silent looks, from outside, like the run without it. -/
theorem tables_run_of_silent (rest : AtRest v w) {steps : List (ShadowStep ε)}
    (silent : RunGuarded Silent (shadowStep settings v) w steps) :
    (run (shadowStep settings v) w steps).tables =
      (run (shadowStep settings v) w (steps.filter fun step => !step.ofVariant)).tables := by
  have quiet : RunGuarded (fun w step => AtRest v w ∧ Silent w step) (shadowStep settings v) w
      steps :=
    runGuarded_of_invariant (AtRest v) (fun _ step rest _ => shadowStep_atRest step rest)
      (fun _ _ rest silent => ⟨rest, silent⟩) rest silent
  exact run_purge World.tables ShadowStep.ofVariant
    (fun _ step own met => shadowStep_silent step own met.1 met.2)
    (fun _ _ step foreign same => shadowStep_others step foreign same) steps rfl quiet

/-- **A silent variant does not interfere.**  Whatever the variant, its parent and the candles
are, and however its steps interleave with those of everything else, a run in which the
variant is silent leaves the tables as the run without the variant does. -/
theorem run_noninterfering (settings : Settings) (v : Variant) {w : World ε}
    (unstarted : w.task = none) {steps : List (ShadowStep ε)}
    (silent : RunGuarded Silent (shadowStep settings v) w steps) :
    (run (shadowStep settings v) w steps).tables =
      (run (shadowStep settings v) w (steps.filter fun step => !step.ofVariant)).tables :=
  tables_run_of_silent (atRest_of_idle unstarted) silent

end Steps

/-! ## A parent and its variant -/

/-- A call on the exchange of the parent's bot, which keeps its own memory. -/
def parentCall (call : Call) : ShadowStep PaperExchange :=
  .others fun tables =>
    let parent := step plainConfig call { tables.1 with db := tables.2 }
    (parent, parent.db)

/-- A variant of the first paper trade of the bot, with a stop at 98 and the take-profit at
104. -/
def plainVariant : Variant :=
  { parentTradeId := 1, parentKind := .paper, botId := "bot", symbol := "BTCUSDT", side := .buy,
    entryPrice := 100, qty := 1,
    overrides := { slPct := some (2 / 100), tpPct := some (4 / 100) } }

def plainSettings : Settings := { columns := .postgres }

/-- Nothing has happened yet. -/
def emptyWorld : World PaperExchange := { env := {}, db := {} }

/-- The parent opens a long of 1 at 100. -/
def parentOpens : List (ShadowStep PaperExchange) :=
  [parentCall { op := .onCandle (btcCandle 100 101 99 100) },
   parentCall { op := .placeMarketOrder "BTCUSDT" .buy 1 false }]

/-- The variant expires between its levels, and the parent is closed by order. -/
def expiresUnfilled : List (ShadowStep PaperExchange) :=
  parentOpens ++
    [.starts {}, .exchange (btcCandle 100 103 99 102) {}, .handler (btcCandle 100 103 99 102) {},
     parentCall { op := .placeMarketOrder "BTCUSDT" .sell 1 true }, .expires]

theorem expiresUnfilled_noninterfering :
    (run (shadowStep plainSettings plainVariant) emptyWorld expiresUnfilled).tables =
      (run (shadowStep plainSettings plainVariant) emptyWorld
        (expiresUnfilled.filter fun step => !step.ofVariant)).tables :=
  run_noninterfering plainSettings plainVariant rfl (by decide +kernel)

/-- A candle goes through the variant's stop. -/
def stopCrossed : List (ShadowStep PaperExchange) :=
  parentOpens ++ [.starts {}, .exchange (btcCandle 100 100 97 98) {}, .settles]

/-- The stop of the variant closes the parent's own trade. -/
theorem stopCrossed_closes_parent :
    ¬ ∀ steps : List (ShadowStep PaperExchange),
      (run (shadowStep plainSettings plainVariant) emptyWorld steps).tables =
        (run (shadowStep plainSettings plainVariant) emptyWorld
          (steps.filter fun step => !step.ofVariant)).tables := by
  intro always
  have same := congrArg (fun tables => tables.2.trades.map (·.status)) (always stopCrossed)
  have closed : (run (shadowStep plainSettings plainVariant) emptyWorld
      stopCrossed).tables.2.trades.map (·.status) = [.closed] := by
    decide +kernel
  have stillOpen : (run (shadowStep plainSettings plainVariant) emptyWorld
      (stopCrossed.filter fun step => !step.ofVariant)).tables.2.trades.map (·.status) =
        [.isOpen] := by
    decide +kernel
  rw [closed, stillOpen] at same
  cases same

end Scalper.Shadow
