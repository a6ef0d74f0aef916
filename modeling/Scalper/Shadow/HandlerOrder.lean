import Scalper.Shadow.Replay

/-!
# The order of the two subscriptions

The exchange of a variant and the variant's own handler each have a subscription, and nothing
orders them: a candle may come to either first, and a fill may end the task before its handler has
seen the candle that was filled.  Where the handler moves the stop into the range of the candle, the
exchange closes the position if it is second and not if it is first; the replay always takes the
exchange first.

Two worlds are the same for what follows if they differ only in what a handler finds anew when it
runs (`World.still`).  `deliver_order` says when a candle leaves the same world in two orders, and
`run_orderFree` that a run in which every candle does ends alike in both.  `stop_in_range` is a
candle that does not.
-/

set_option autoImplicit false

namespace Scalper.Shadow

open Scalper.Lib Scalper.Exchange Scalper.Paper

variable {ε : Type}

/-! ## The property and its condition -/

/-- The delivery of a candle in the other order named. -/
def reordered (turn : Delivery ε × HandlerOrder) : Delivery ε :=
  { turn.1 with order := turn.2 }

/-- The stop that is asked for lies outside the candle. -/
def StopClear (candle : Candle) (request : Option StopRequest) : Prop :=
  ∀ new ∈ request, ¬ (candle.low ≤ new.slPrice ∧ new.slPrice ≤ candle.high)

/-- A property of what the exchange finds in a candle of the variant's symbol, at a position
whose fills go through. -/
def VariantTask.Finds
    (p : TradingStops → OpenPosition → Except PaperError (Option PendingSLTPFill) → Prop)
    (candle : Candle) (moment : Moment) (db : PaperDb) (t : VariantTask) : Prop :=
  candle.isClosed = true → candle.symbol = t.variant.symbol →
    ∀ active ∈ t.pe.activePositions candle.symbol, ∀ position ∈ active.position,
      (db.trades.any (·.id == position.tradeId) && (t.atMoment moment db).pe.commits) = true →
        p active.stops position
          (detectCross active candle.symbol candle.low candle.high moment.now)

/-- Exchange and handler do not get in each other's way: the stop that the handler asks for is
not filled by the candle that made it ask, and where a level is filled the handler would not
have moved the stop before, or after a partial fill. -/
def Agrees (candle : Candle) (t : VariantTask) (stops : TradingStops) (position : OpenPosition) :
    Except PaperError (Option PendingSLTPFill) → Prop
  | .ok (some fill) =>
      let best := (t.observe candle).bestPrice
      if fill.kind = .tp ∧ fill.tpslMode = .Partial then
        variantStop t.variant best candle ⟨stops, some position⟩ = none ∧
          variantStop t.variant best candle ⟨{ stops with slType := .trail }, some position⟩ = none
      else if fill.kind = .sl then
        variantStop t.variant best candle ⟨stops, some position⟩ = none
      else StopClear candle (variantStop t.variant best candle ⟨stops, some position⟩)
  | _ =>
      StopClear candle
        (variantStop t.variant (t.observe candle).bestPrice candle ⟨stops, some position⟩)

/-- A candle that closes the position reaches no further than the prices watched. -/
def Watched (candle : Candle) (t : VariantTask) (_ : TradingStops) (_ : OpenPosition) :
    Except PaperError (Option PendingSLTPFill) → Prop
  | .ok (some fill) =>
      fill.kind = .tp ∧ fill.tpslMode = .Partial ∨
        (t.observe candle).bestPrice = t.bestPrice ∧ (t.observe candle).worstPrice = t.worstPrice
  | _ => True

/-- What the order of a candle must not decide, as far as the two orders differ: whether the
handler is first, and whether the task settles before its handler. -/
def OrderFree (w : World ε) (turn : Delivery ε × HandlerOrder) : Prop :=
  ∀ t ∈ w.task,
    ((turn.1.order = .handlerFirst ↔ turn.2 = .handlerFirst) ∨
      t.Finds (Agrees turn.1.candle t) turn.1.candle turn.1.exchangeAt w.db) ∧
    ((turn.1.order = .settlesFirst ↔ turn.2 = .settlesFirst) ∨
      t.Finds (Watched turn.1.candle t) turn.1.candle turn.1.exchangeAt w.db)

instance (candle : Candle) (request : Option StopRequest) : Decidable (StopClear candle request) :=
  inferInstanceAs (Decidable (∀ new ∈ request,
    ¬ (candle.low ≤ new.slPrice ∧ new.slPrice ≤ candle.high)))

instance (candle : Candle) (t : VariantTask) (stops : TradingStops) (position : OpenPosition) :
    DecidablePred (Agrees candle t stops position)
  | .ok (some fill) =>
      inferInstanceAs (Decidable (
        if fill.kind = .tp ∧ fill.tpslMode = .Partial then
          variantStop t.variant (t.observe candle).bestPrice candle ⟨stops, some position⟩ = none ∧
            variantStop t.variant (t.observe candle).bestPrice candle
              ⟨{ stops with slType := .trail }, some position⟩ = none
        else if fill.kind = .sl then
          variantStop t.variant (t.observe candle).bestPrice candle ⟨stops, some position⟩ = none
        else
          StopClear candle (variantStop t.variant (t.observe candle).bestPrice candle
            ⟨stops, some position⟩)))
  | .ok none | .error _ => inferInstanceAs (Decidable (StopClear _ _))

instance (candle : Candle) (t : VariantTask) (stops : TradingStops) (position : OpenPosition) :
    DecidablePred (Watched candle t stops position)
  | .ok (some _) => inferInstanceAs (Decidable (_ ∨ _))
  | .ok none | .error _ => isTrue trivial

instance (p : TradingStops → OpenPosition → Except PaperError (Option PendingSLTPFill) → Prop)
    [∀ stops position, DecidablePred (p stops position)] (candle : Candle) (moment : Moment)
    (db : PaperDb) (t : VariantTask) : Decidable (t.Finds p candle moment db) :=
  inferInstanceAs (Decidable (_ → _ → ∀ active ∈ t.pe.activePositions candle.symbol,
    ∀ position ∈ active.position, _ → _))

instance OrderFree.decidable (w : World ε) (turn : Delivery ε × HandlerOrder) :
    Decidable (OrderFree w turn) :=
  inferInstanceAs (Decidable (∀ t ∈ w.task, _ ∧ _))

/-! ## Worlds that differ in the moment only -/

/-- The task without what its next handler finds anew. -/
def VariantTask.still (t : VariantTask) : VariantTask := t.atMoment {} {}

def World.still (w : World ε) : World ε := { w with task := w.task.map (·.still) }

section Still

variable {settings : Settings} {v : Variant} {w w' : World ε} {t t' : VariantTask}

theorem atMoment_of_still (same : t.still = t'.still) (moment : Moment) (db : PaperDb) :
    t.atMoment moment db = t'.atMoment moment db :=
  congrArg (·.atMoment moment db) same

/-- **Every step treats such worlds alike.** -/
theorem still_shadowStep (step : ShadowStep ε) (same : w.still = w'.still) :
    (shadowStep settings v step w).still = (shadowStep settings v step w').still := by
  obtain ⟨env, db, row, task⟩ := w
  obtain ⟨env', db', row', task'⟩ := w'
  simp only [World.still, World.mk.injEq] at same
  obtain ⟨rfl, rfl, rfl, tasks⟩ := same
  cases task with
  | none =>
      obtain rfl : task' = none := by simpa using tasks.symm
      rfl
  | some t =>
      obtain ⟨t', rfl, stills⟩ := Option.map_eq_some_iff.mp tasks.symm
      replace stills : t.still = t'.still := stills.symm
      have found := atMoment_of_still stills
      have ended : t.still.driveToTerminal = t'.still.driveToTerminal := by rw [stills]
      have events : t.still.pe.terminalEvents = t'.still.pe.terminalEvents := by rw [stills]
      change t.driveToTerminal = t'.driveToTerminal at ended
      change t.pe.terminalEvents = t'.pe.terminalEvents at events
      cases step with
      | starts moment => rfl
      | exchange candle moment =>
          simp only [shadowStep, found moment db]
          rfl
      | handler candle moment =>
          simp only [shadowStep, found moment db]
          rfl
      | settles =>
          simp only [shadowStep, events, ended]
          split_ifs
          · simp only [World.still, Option.map_some, stills]
          · rfl
      | expires =>
          simp only [shadowStep, ended]
          rfl
      | stopped => rfl
      | resumes r =>
          cases row <;> simp only [shadowStep, World.resumed, World.still, Option.map_some, stills]
      | others write => simp only [shadowStep, World.still, Option.map_some, stills]

theorem still_run (steps : List (ShadowStep ε)) (same : w.still = w'.still) :
    (run (shadowStep settings v) w steps).still = (run (shadowStep settings v) w' steps).still := by
  induction steps generalizing w w' with
  | nil => exact same
  | cons step steps ih => exact ih (still_shadowStep step same)

end Still

/-! ## A candle that fills nothing -/

/-- The task with the candle in its exchange's caches. -/
def VariantTask.cached (candle : Candle) (t : VariantTask) : VariantTask :=
  { t with pe := if candle.isClosed then t.pe.cacheCandle candle else t.pe }

section Candles

variable {settings : Settings} {t t' : VariantTask} {candle : Candle} {stops : TradingStops}
  {position : OpenPosition}

/-- The exchange only caches such a candle. -/
theorem exchangeSees_still (empty : t.pe.pendingSlTpFills = []) (clear : t.fills candle = false) :
    (t.exchangeSees settings candle).still = (t.cached candle).still ∧
      (t.exchangeSees settings candle).pe.db = t.pe.db := by
  obtain ⟨uuids, outcomes, cached⟩ :=
    @onCandle_cached (settings.config t.variant) t candle empty clear
  unfold VariantTask.exchangeSees VariantTask.cached
  rw [cached]
  refine ⟨rfl, ?_⟩
  split <;> rfl

/-- Watching a candle and the exchange do not get in each other's way. -/
theorem exchangeSees_observe (t : VariantTask) :
    (t.observe candle).exchangeSees settings candle =
      (t.exchangeSees settings candle).observe candle := by
  have seen : onCandle (settings.config (t.observe candle).variant) candle (t.observe candle).pe =
      onCandle (settings.config t.variant) candle t.pe := by
    rw [VariantTask.observe_pe, VariantTask.observe_variant]
  unfold VariantTask.exchangeSees
  rw [seen]
  exact (VariantTask.observe_with_pe candle t _).symm

/-- The stop asked for keeps the levels and the mode of the position. -/
theorem variantStop_keeps {v : Variant} {best : ℚ} {active : ActivePosition}
    {request : StopRequest} (asked : variantStop v best candle active = some request) :
    request.tpslMode = active.stops.tpslMode ∧ request.tpPrice = active.stops.tpPrice ∧
      request.tpSize = active.stops.tpSize := by
  unfold variantStop at asked
  dsimp only at asked
  split_ifs at asked with breakeven trails
  · obtain rfl := Option.some.inj asked
    exact ⟨rfl, rfl, rfl⟩
  · split at asked
    · cases asked
    · split_ifs at asked
      obtain rfl := Option.some.inj asked
      exact ⟨rfl, rfl, rfl⟩

/-- The stops once a request is written. -/
def TradingStops.requested (stops : TradingStops) (request : StopRequest) : TradingStops :=
  stops.overwrite request.tpslMode (some request.slPrice) request.tpPrice request.tpSize
    request.slType

/-- Where neither stop is in the candle, the check finds the same with either. -/
theorem detectCross_requested {v : Variant} {best : ℚ} {request : StopRequest} {now : ℕ}
    (asked : variantStop v best candle ⟨stops, some position⟩ = some request)
    (clear : ¬ InRange candle.low candle.high stops.slPrice)
    (clearToo : StopClear candle (some request)) :
    detectCross ⟨TradingStops.requested stops request, some position⟩ candle.symbol candle.low
        candle.high now =
      detectCross ⟨stops, some position⟩ candle.symbol candle.low candle.high now := by
  obtain ⟨mode, tpPrice, tpSize⟩ := variantStop_keeps asked
  have outside : ¬ InRange candle.low candle.high (some request.slPrice) := by
    rintro ⟨_, ⟨⟩, inside⟩
    exact clearToo request rfl inside
  simp only [detectCross, TradingStops.requested, TradingStops.overwrite, filter_inRange, mode,
    tpPrice, tpSize, if_neg clear, if_neg outside]

end Candles

/-! ## A candle that fills a level -/

/-- The event of a fill that closes a position. -/
def closingEvent (stops : TradingStops) (position : OpenPosition) (leg : ExitLeg)
    (fill : PendingSLTPFill) : TerminalEvent where
  symbol := fill.symbol
  execType := fill.kind
  slTypeAtClose := stops.slType
  tpslModeAtClose := stops.tpslMode
  realizedPnl := leg.closingPnl position + position.realizedPnl

/-- The events that a fill tells. -/
def toldEvents (cfg : Config) (stops : TradingStops) (position : OpenPosition)
    (fill : PendingSLTPFill) : List TerminalEvent :=
  if fill.kind = .tp ∧ fill.tpslMode = .Partial then []
  else if cfg.terminalCallback then [closingEvent stops position (fill.leg cfg) fill]
  else []

section Fills

variable {cfg : Config} {symbol : String} {low high : ℚ} {now : ℕ} {stops : TradingStops}
  {position : OpenPosition} {fill : PendingSLTPFill} {s : PaperExchange}

theorem transaction_events {α : Type} (body : Tx α) (s : PaperExchange) :
    (transaction body s).2.terminalEvents = s.terminalEvents := by
  unfold transaction
  split
  · rfl
  · split <;> rfl

theorem drainPartialTp_events (cfg : Config) (fill : PendingSLTPFill) (s : PaperExchange) :
    (drainPartialTp cfg fill s).2.terminalEvents = s.terminalEvents := by
  unfold drainPartialTp
  split
  · dsimp only
    split <;> rename_i ran <;>
      exact (congrArg (·.2.terminalEvents) ran).symm.trans (transaction_events _ _)
  · rfl

theorem drainFullClose_events (found : s.activePositions fill.symbol = some ⟨stops, some position⟩)
    (sameSide : fill.side = position.side) (whole : fill.qty = position.qty)
    (accepted : (s.db.trades.any (·.id == position.tradeId) && s.commits) = true) :
    (drainFullClose cfg fill s).2.terminalEvents =
      s.terminalEvents ++
        if cfg.terminalCallback then [closingEvent stops position (fill.leg cfg) fill] else [] := by
  have ran := transaction_eq (s := { s with uuids := s.uuids + 1 })
    (fullCloseTx_eq cfg fill position s.uuids s.db sameSide)
  change transaction (fullCloseTx cfg fill _ _
    (position.feesPaid + (buildDrainContext cfg fill position s.uuids).fee)) _ =
    if _ && s.commits then _ else _ at ran
  rw [accepted, if_pos rfl] at ran
  unfold drainFullClose
  simp only [found, PendingSLTPFill.closingPnl_leg whole, ran]
  rfl

/-- A fill of the check that is accepted tells its events. -/
theorem checkAndDrain_events (empty : s.pendingSlTpFills = [])
    (found : s.activePositions symbol = some ⟨stops, some position⟩)
    (detected : detectCross ⟨stops, some position⟩ symbol low high s.now = .ok (some fill))
    (accepted : (s.db.trades.any (·.id == position.tradeId) && s.commits) = true) :
    (checkAndDrain cfg symbol low high s).2.terminalEvents =
      s.terminalEvents ++ toldEvents cfg stops position fill := by
  have crossed := crossed_of_detectCross detected
  have here : s.activePositions fill.symbol = some ⟨stops, some position⟩ :=
    crossed.symbol_eq ▸ found
  have made := ((drainSlTpFill_attempted cfg found crossed).made accepted).1
  have events : (drainSlTpFill cfg fill s).2.terminalEvents =
      s.terminalEvents ++ toldEvents cfg stops position fill := by
    unfold drainSlTpFill toldEvents
    by_cases isPartial : fill.kind = .tp ∧ fill.tpslMode = .Partial
    · rw [if_pos isPartial, if_pos isPartial, List.append_nil]
      exact drainPartialTp_events cfg fill s
    · rw [if_neg isPartial, if_neg isPartial]
      exact drainFullClose_events here crossed.side_eq (crossed.whole isPartial) accepted
  have popped : { s with pendingSlTpFills := [] } = s := by rw [← empty]
  simp only [checkAndDrain, enqueueCross, found, detected, empty, List.nil_append, drainLoop,
    popped]
  split
  · rename_i drained
    rw [drained] at made
    cases made
  · rename_i drained
    rw [drained] at events
    exact events

end Fills

/-- The exchange of a task makes a fill. -/
structure Filled (settings : Settings) (t : VariantTask) (candle : Candle) (stops : TradingStops)
    (position : OpenPosition) (fill : PendingSLTPFill) : Prop where
  found : t.pe.activePositions candle.symbol = some ⟨stops, some position⟩
  crossed : Crossed stops position candle.symbol candle.low candle.high t.pe.now fill
  books : (t.exchangeSees settings candle).pe.books =
    (fill.entry (settings.config t.variant)).apply (settings.config t.variant) t.pe.books
  events : (t.exchangeSees settings candle).pe.terminalEvents =
    t.pe.terminalEvents ++ toldEvents (settings.config t.variant) stops position fill

section Filled

variable {settings : Settings} {t : VariantTask} {candle : Candle} {stops : TradingStops}
  {position : OpenPosition} {fill : PendingSLTPFill}

theorem exchangeSees_filled (closed : candle.isClosed = true)
    (empty : t.pe.pendingSlTpFills = [])
    (found : t.pe.activePositions candle.symbol = some ⟨stops, some position⟩)
    (detected : detectCross ⟨stops, some position⟩ candle.symbol candle.low candle.high t.pe.now =
      .ok (some fill))
    (accepted : (t.pe.db.trades.any (·.id == position.tradeId) && t.pe.commits) = true) :
    Filled settings t candle stops position fill := by
  have crossed := crossed_of_detectCross detected
  obtain ⟨-, -, attempted⟩ := @checkAndDrain_held (settings.config t.variant) candle.symbol
    candle.low candle.high (t.pe.cacheCandle candle) stops position empty found
  have seen : (t.exchangeSees settings candle).pe = (checkAndDrain (settings.config t.variant)
      candle.symbol candle.low candle.high (t.pe.cacheCandle candle)).2 := by
    unfold VariantTask.exchangeSees onCandle
    rw [if_pos closed]
  refine ⟨found, crossed, ?_, ?_⟩
  · rw [seen]
    exact ((attempted fill detected crossed).made accepted).2
  · rw [seen]
    exact @checkAndDrain_events (settings.config t.variant) candle.symbol candle.low candle.high
      stops position fill (t.pe.cacheCandle candle) empty found detected accepted

theorem Filled.here (filled : Filled settings t candle stops position fill) :
    t.pe.books.activePositions (fill.leg (settings.config t.variant)).symbol =
      some ⟨stops, some position⟩ := by
  change t.pe.activePositions fill.symbol = _
  rw [filled.crossed.symbol_eq, filled.found]

/-- A partial take-profit starts the trailing phase. -/
theorem Filled.trails (filled : Filled settings t candle stops position fill)
    (isPartial : fill.kind = .tp ∧ fill.tpslMode = .Partial) :
    (t.exchangeSees settings candle).pe.activePositions candle.symbol =
      some ⟨{ stops with slType := .trail },
        some (position.reduce (fill.leg (settings.config t.variant)))⟩ := by
  have books := filled.books
  rw [PendingSLTPFill.entry, if_pos isPartial, apply_reduced filled.here] at books
  refine (congrFun (congrArg Books.activePositions books) candle.symbol).trans ?_
  change Function.update t.pe.activePositions fill.symbol _ candle.symbol = _
  rw [filled.crossed.symbol_eq, Function.update_self]

/-- Every other fill closes the position. -/
theorem Filled.closes (filled : Filled settings t candle stops position fill)
    (notPartial : ¬ (fill.kind = .tp ∧ fill.tpslMode = .Partial)) :
    (t.exchangeSees settings candle).pe.activePositions =
        Function.update t.pe.activePositions candle.symbol none ∧
      (t.exchangeSees settings candle).pe.db =
        t.pe.db.afterClose (settings.config t.variant) (fill.leg (settings.config t.variant))
          t.pe.uuids position ∧
      (t.exchangeSees settings candle).pe.terminalEvents =
        t.pe.terminalEvents ++
          [closingEvent stops position (fill.leg (settings.config t.variant)) fill] := by
  have books := filled.books
  rw [PendingSLTPFill.entry, if_neg notPartial, apply_closed filled.here] at books
  refine ⟨(congrArg Books.activePositions books).trans ?_, congrArg Books.db books, ?_⟩
  · change Function.update t.pe.activePositions fill.symbol none = _
    rw [filled.crossed.symbol_eq]
  · rw [filled.events, toldEvents, if_neg notPartial]
    rfl

/-- After which the handler has no position to move a stop of. -/
theorem Filled.unasked (filled : Filled settings t candle stops position fill)
    (notPartial : ¬ (fill.kind = .tp ∧ fill.tpslMode = .Partial)) :
    (t.exchangeSees settings candle).stopRequest candle = none := by
  unfold VariantTask.stopRequest
  rw [(filled.closes notPartial).1, Function.update_self]
  exact ite_self _

end Filled

/-! ## One candle -/

/-- Two tasks that come to the same once they have settled. -/
structure Meet (t t' : VariantTask) : Prop where
  db : t.pe.db = t'.pe.db
  meets : t.still = t'.still ∨
    t.pe.terminalEvents ≠ [] ∧ t'.pe.terminalEvents ≠ [] ∧ t.driveToTerminal = t'.driveToTerminal

section Turn

variable {settings : Settings} {t : VariantTask} {candle : Candle} {stops : TradingStops}
  {position : OpenPosition} {first second : Moment} {db : PaperDb}

/-- A stop does not read the price caches. -/
theorem setTradingStop_cacheCandle (cfg : Config) (symbol : String) (tpslMode : TpslMode)
    (slPrice tpPrice tpSize : Option ℚ) (slType : Option SlType) (s : PaperExchange) :
    (setTradingStop cfg symbol tpslMode slPrice tpPrice tpSize slType (s.cacheCandle candle)).2 =
      (setTradingStop cfg symbol tpslMode slPrice tpPrice tpSize slType s).2.cacheCandle
        candle := by
  unfold setTradingStop transaction
  split
  · rfl
  · simp only [PaperExchange.cacheCandle]
    cases s.dbOutcomes with
    | nil => rfl
    | cons outcome rest => cases outcome <;> rfl

/-- The handler does not read them either. -/
theorem handlerSees_cached (t : VariantTask) :
    (t.cached candle).handlerSees settings candle =
      (t.handlerSees settings candle).cached candle := by
  unfold VariantTask.handlerSees VariantTask.cached
  dsimp only
  split
  · cases closed : candle.isClosed with
    | false => simp [candleHandler, closed]
    | true =>
        have same : VariantTask.stopRequest { t with pe := t.pe.cacheCandle candle } candle =
            t.stopRequest candle := by
          unfold VariantTask.stopRequest
          rw [VariantTask.observe_with_pe]
          rfl
        simp only [candleHandler, closed, if_true, same]
        cases t.stopRequest candle with
        | none =>
            simp only [VariantTask.observe_with_pe, VariantTask.observe_pe]
        | some request =>
            simp only [VariantTask.observe_with_pe, setTradingStop_cacheCandle]
  · rfl

theorem cached_atMoment (t : VariantTask) :
    (t.cached candle).atMoment first db = (t.atMoment first db).cached candle := by
  unfold VariantTask.cached VariantTask.atMoment
  cases candle.isClosed <;> rfl

/-- **Where the exchange fills nothing in either order**, the two commute. -/
theorem meet_of_unfilled (empty : t.pe.pendingSlTpFills = [])
    (clear : (t.atMoment first db).fills candle = false)
    (clearToo : (((t.atMoment second db).handlerSees settings candle).atMoment first
      ((t.atMoment second db).handlerSees settings candle).pe.db).fills candle = false) :
    let exchanged := (t.atMoment first db).exchangeSees settings candle
    let handled := (t.atMoment second db).handlerSees settings candle
    let both := (exchanged.atMoment second exchanged.pe.db).handlerSees settings candle
    let other := (handled.atMoment first handled.pe.db).exchangeSees settings candle
    Meet both other := by
  intro exchanged handled both other
  have vacant : handled.pe.pendingSlTpFills = [] :=
    handlerSees_pending (t := t.atMoment second db) empty
  obtain ⟨stillFirst, dbFirst⟩ :=
    @exchangeSees_still settings (t.atMoment first db) candle empty clear
  obtain ⟨stillLast, dbLast⟩ :=
    @exchangeSees_still settings (handled.atMoment first handled.pe.db) candle vacant clearToo
  have same : both = handled.cached candle := by
    have found := atMoment_of_still stillFirst second exchanged.pe.db
    have kept : exchanged.pe.db = db := dbFirst
    show (exchanged.atMoment second exchanged.pe.db).handlerSees settings candle = _
    rw [show exchanged.atMoment second exchanged.pe.db = _ from found, kept, cached_atMoment]
    exact handlerSees_cached (t.atMoment second db)
  rw [same]
  refine ⟨?_, .inl ?_⟩
  · refine Eq.trans ?_ dbLast.symm
    unfold VariantTask.cached
    cases candle.isClosed <;> rfl
  · refine Eq.trans ?_ stillLast.symm
    rw [← cached_atMoment]
    rfl

/-- The task once its handler has taken note of the candle. -/
def VariantTask.noted (candle : Candle) (t : VariantTask) : VariantTask :=
  if t.watches candle then t.observe candle else t

theorem handlerSees_unasked
    (unasked : candle.symbol = t.variant.symbol → t.stopRequest candle = none) :
    t.handlerSees settings candle = t.noted candle := by
  rcases handlerSees_cases settings t candle with ⟨_, seen⟩ | ⟨request, own, asked, _⟩
  · exact seen
  · rw [unasked own] at asked
    cases asked

theorem watches_of_own (closed : candle.isClosed = true) (own : candle.symbol = t.variant.symbol) :
    t.watches candle = true := by
  rw [VariantTask.watches, closed, own, beq_self_eq_true]
  rfl

/-- The handler watches the prices of every closed candle of its symbol. -/
theorem handlerSees_observed (closed : candle.isClosed = true)
    (own : candle.symbol = t.variant.symbol) (pe : PaperExchange) :
    ({ t with pe := pe } : VariantTask).handlerSees settings candle =
      { t.observe candle with
        pe := (({ t with pe := pe } : VariantTask).handlerSees settings candle).pe } := by
  rcases handlerSees_cases settings { t with pe := pe } candle with
    ⟨_, seen⟩ | ⟨request, _, _, seen⟩
  · rw [seen, if_pos (watches_of_own (t := { t with pe := pe }) closed own),
      VariantTask.observe_with_pe]
  · rw [seen, VariantTask.observe_with_pe]

theorem noted_pe (t : VariantTask) : (t.noted candle).pe = t.pe := by
  unfold VariantTask.noted
  split
  · exact VariantTask.observe_pe candle t
  · rfl

theorem handlerSees_pe (unasked : t.stopRequest candle = none) (moment : Moment)
    (db : PaperDb) :
    ((t.atMoment moment db).handlerSees settings candle).pe = (t.atMoment moment db).pe :=
  (congrArg VariantTask.pe (handlerSees_unasked fun _ =>
    (stopRequest_atMoment t moment db candle).trans unasked)).trans (noted_pe _)

theorem noted_atMoment (t : VariantTask) :
    (t.noted candle).atMoment first db = (t.atMoment first db).noted candle := by
  unfold VariantTask.noted
  by_cases watches : t.watches candle = true
  · rw [if_pos watches, if_pos (show (t.atMoment first db).watches candle = true from watches)]
    unfold VariantTask.atMoment
    rw [VariantTask.observe_pe]
    exact (VariantTask.observe_with_pe candle t _).symm
  · rw [if_neg watches, if_neg (show ¬ (t.atMoment first db).watches candle = true from watches)]

theorem exchangeSees_noted (t : VariantTask) :
    (t.noted candle).exchangeSees settings candle =
      (t.exchangeSees settings candle).noted candle := by
  unfold VariantTask.noted
  by_cases watches : t.watches candle = true
  · rw [if_pos watches,
      if_pos (show (t.exchangeSees settings candle).watches candle = true from watches)]
    exact exchangeSees_observe t
  · rw [if_neg watches,
      if_neg (show ¬ (t.exchangeSees settings candle).watches candle = true from watches)]

/-- **Where the handler asks for no stop in either order**, the two commute. -/
theorem meet_of_unasked
    (unasked : candle.symbol = t.variant.symbol → t.stopRequest candle = none)
    (unaskedToo : candle.symbol = t.variant.symbol →
      ((t.atMoment first db).exchangeSees settings candle).stopRequest candle = none) :
    let exchanged := (t.atMoment first db).exchangeSees settings candle
    let handled := (t.atMoment second db).handlerSees settings candle
    let both := (exchanged.atMoment second exchanged.pe.db).handlerSees settings candle
    let other := (handled.atMoment first handled.pe.db).exchangeSees settings candle
    Meet both other := by
  intro exchanged handled both other
  have one : handled = (t.atMoment second db).noted candle :=
    handlerSees_unasked fun own => (stopRequest_atMoment t second db candle).trans (unasked own)
  have two : both = (exchanged.atMoment second exchanged.pe.db).noted candle :=
    handlerSees_unasked fun own =>
      (stopRequest_atMoment exchanged second exchanged.pe.db candle).trans (unaskedToo own)
  have three : other = exchanged.noted candle := by
    show (handled.atMoment first handled.pe.db).exchangeSees settings candle = _
    rw [one, noted_atMoment, noted_pe]
    exact exchangeSees_noted (t.atMoment first db)
  rw [two, three]
  refine ⟨?_, .inl ?_⟩
  · rw [noted_pe, noted_pe]
    rfl
  · unfold VariantTask.still
    rw [noted_atMoment, noted_atMoment]
    rfl

theorem fills_iff : t.fills candle = true ↔
    candle.isClosed = true ∧ ∃ stops position fill,
      t.pe.activePositions candle.symbol = some { stops := stops, position := some position } ∧
      detectCross ⟨stops, some position⟩ candle.symbol candle.low candle.high t.pe.now =
          .ok (some fill) ∧
      (t.pe.db.trades.any (·.id == position.tradeId) && t.pe.commits) = true := by
  rw [← Bool.not_eq_false, fills_eq_false_iff]
  simp only [not_forall, Bool.not_eq_false, exists_prop]

theorem fills_congr {t' : VariantTask} (same : t.pe = t'.pe) :
    t.fills candle = t'.fills candle := by
  unfold VariantTask.fills
  rw [same]

theorem stopRequest_eq (closed : candle.isClosed = true) {active : ActivePosition}
    (found : t.pe.activePositions candle.symbol = some active) :
    t.stopRequest candle = variantStop t.variant (t.observe candle).bestPrice candle active := by
  rw [VariantTask.stopRequest, if_pos closed, found, Option.bind_some]

/-- What a handler leaves that sets a stop. -/
theorem handlerSees_asked {active : ActivePosition} {request : StopRequest}
    (own : candle.symbol = t.variant.symbol) (closed : candle.isClosed = true)
    (found : t.pe.activePositions candle.symbol = some active)
    (asked : t.stopRequest candle = some request) :
    t.handlerSees settings candle =
      { t.observe candle with
        pe := { t.pe with
          activePositions := Function.update t.pe.activePositions candle.symbol
            (some { active with stops := TradingStops.requested active.stops request })
          db := if t.pe.commits then t.pe.db.afterRestop (settings.config t.variant) candle.symbol
              (some request.slPrice) request.tpPrice else t.pe.db
          dbOutcomes := t.pe.dbOutcomes.tail } } := by
  have untrailed := variantStop_untrailed ((stopRequest_eq closed found).symm.trans asked)
  rcases handlerSees_cases settings t candle with ⟨unasked, _⟩ | ⟨request', _, asked', seen⟩
  · rw [unasked own] at asked
    cases asked
  · rw [asked] at asked'
    obtain rfl := Option.some.inj asked'
    rw [seen, setTradingStop_eq (settings.config t.variant) untrailed found]
    rfl

variable (settings t candle) in
/-- What the handler does to its exchange: nothing, or the stop it asked for is written. -/
theorem handlerSees_pe_cases :
    (t.handlerSees settings candle).pe = t.pe ∨
    ∃ (active : ActivePosition) (request : StopRequest),
      (t.handlerSees settings candle).pe =
        { t.pe with
          activePositions := Function.update t.pe.activePositions candle.symbol
            (some { active with stops := TradingStops.requested active.stops request })
          db := if t.pe.commits then t.pe.db.afterRestop (settings.config t.variant) candle.symbol
              (some request.slPrice) request.tpPrice else t.pe.db
          dbOutcomes := t.pe.dbOutcomes.tail } := by
  rcases handlerSees_cases settings t candle with ⟨_, seen⟩ | ⟨request, own, asked, _⟩
  · exact .inl ((congrArg VariantTask.pe seen).trans (noted_pe t))
  · obtain ⟨closed, bound⟩ := Option.ite_none_right_eq_some.mp asked
    obtain ⟨active, found, _⟩ := Option.bind_eq_some_iff.mp bound
    exact .inr ⟨active, request, congrArg VariantTask.pe (handlerSees_asked own closed found asked)⟩

/-- The handler leaves the trades. -/
theorem handlerSees_trades : (t.handlerSees settings candle).pe.db.trades = t.pe.db.trades := by
  rcases handlerSees_pe_cases settings t candle with kept | ⟨active, request, moved⟩
  · rw [kept]
  · rw [moved]
    dsimp only
    split <;> rfl

theorem handlerSees_events :
    (t.handlerSees settings candle).pe.terminalEvents = t.pe.terminalEvents := by
  rcases handlerSees_pe_cases settings t candle with kept | ⟨active, request, moved⟩
  · rw [kept]
  · rw [moved]

/-- The position after a stop that was asked for. -/
theorem handlerSees_moves {held : Option OpenPosition} {request : StopRequest}
    (own : candle.symbol = t.variant.symbol)
    (found : t.pe.activePositions candle.symbol = some ⟨stops, held⟩)
    (asked : t.stopRequest candle = some request) (moment : Moment) (db : PaperDb) :
    ((t.atMoment moment db).handlerSees settings candle).pe.activePositions candle.symbol =
      some ⟨TradingStops.requested stops request, held⟩ := by
  have closed := (Option.ite_none_right_eq_some.mp asked).1
  rw [@handlerSees_asked settings (t.atMoment moment db) candle ⟨stops, held⟩ request own closed
    found ((stopRequest_atMoment t moment db candle).trans asked)]
  exact Function.update_self _ _ _

/-- Moving a stop that stays outside the candle does not make the candle fill. -/
theorem fills_handled (clear : (t.atMoment first db).fills candle = false)
    (stopClear : ∀ stops position, candle.symbol = t.variant.symbol →
      t.pe.activePositions candle.symbol = some ⟨stops, some position⟩ →
      (db.trades.any (·.id == position.tradeId) && (t.atMoment first db).pe.commits) = true →
        StopClear candle (t.stopRequest candle)) :
    (((t.atMoment second db).handlerSees settings candle).atMoment first
      ((t.atMoment second db).handlerSees settings candle).pe.db).fills candle = false := by
  have trades := @handlerSees_trades settings (t.atMoment second db) candle
  rcases handlerSees_cases settings (t.atMoment second db) candle with
    ⟨_, seen⟩ | ⟨request, own, asked, _⟩
  · have kept : ((t.atMoment second db).handlerSees settings candle).pe =
        (t.atMoment second db).pe := (congrArg VariantTask.pe seen).trans (noted_pe _)
    refine (fills_congr ?_).trans clear
    unfold VariantTask.atMoment at kept ⊢
    rw [kept]
  · rw [stopRequest_atMoment] at asked
    obtain ⟨closed, bound⟩ := Option.ite_none_right_eq_some.mp asked
    obtain ⟨⟨stops, held⟩, found, asks⟩ := Option.bind_eq_some_iff.mp bound
    have moved := @handlerSees_moves settings t candle stops held request own found asked second db
    generalize (t.atMoment second db).handlerSees settings candle = handled at trades moved ⊢
    refine fills_eq_false_iff.mpr fun _ stops' position fill found' detected => ?_
    rw [Bool.eq_false_iff]
    intro accepted
    change handled.pe.activePositions candle.symbol = _ at found'
    rw [moved, Option.some.injEq, ActivePosition.mk.injEq] at found'
    obtain ⟨rfl, rfl⟩ := found'
    have known : (db.trades.any (·.id == position.tradeId) &&
        (t.atMoment first db).pe.commits) = true :=
      (congrArg (fun rows : List PaperTrade => rows.any (·.id == position.tradeId) &&
        (t.atMoment first db).pe.commits) trades).symm.trans accepted
    have outside := asked ▸ stopClear stops position own found known
    have same := fun clearSl =>
      @detectCross_requested candle stops position t.variant _ request first.now asks clearSl
        outside
    change detectCross ⟨TradingStops.requested stops request, some position⟩ candle.symbol
      candle.low candle.high first.now = _ at detected
    rcases detectCross_cases stops position candle.symbol candle.low candle.high first.now with
      ⟨clearSl, _, none⟩ | ⟨clearSl, _, _, _, e, raised⟩ | ⟨crossing, _, crosses⟩
    · rw [same clearSl, none] at detected
      cases detected
    · rw [same clearSl, raised] at detected
      cases detected
    · have refused := fills_eq_false_iff.mp clear closed stops position crossing found crosses
      exact absurd known (Bool.eq_false_iff.mp refused)

/-- A close takes no account of a stop that was moved before. -/
theorem afterClose_afterRestop {cfg : Config} {leg : ExitLeg} {symbol : String}
    (same : leg.symbol = symbol) (slPrice tpPrice : Option ℚ) (uuid : Uuid) :
    (db.afterRestop cfg symbol slPrice tpPrice).afterClose cfg leg uuid position =
      db.afterClose cfg leg uuid position := by
  subst same
  exact (PaperDb.mk.injEq ..).mpr
    ⟨rfl, rfl, rfl,
      filter_not_updateWhere (p := PaperPosition.at cfg.botId leg.symbol)
        (g := .restop cfg.columns slPrice tpPrice) (fun _ => rfl) db.positions, rfl, rfl⟩

theorem afterClose_handlerSees {leg : ExitLeg} (same : leg.symbol = candle.symbol) (uuid : Uuid) :
    (t.handlerSees settings candle).pe.db.afterClose (settings.config t.variant) leg uuid position =
      t.pe.db.afterClose (settings.config t.variant) leg uuid position := by
  rcases handlerSees_pe_cases settings t candle with kept | ⟨active, request, moved⟩
  · rw [kept]
  · rw [moved]
    dsimp only
    split
    · exact afterClose_afterRestop same _ _ _
    · rfl

/-- The take-profit is filled as well once the handler has moved the stop. -/
theorem handled_filled (closed : candle.isClosed = true) (empty : t.pe.pendingSlTpFills = [])
    (found : t.pe.activePositions candle.symbol = some ⟨stops, some position⟩)
    {fill : PendingSLTPFill} (isTp : fill.kind = .tp)
    (detected : detectCross ⟨stops, some position⟩ candle.symbol candle.low candle.high first.now =
      .ok (some fill))
    (accepted : (db.trades.any (·.id == position.tradeId) &&
      (t.atMoment first db).pe.commits) = true)
    (own : candle.symbol = t.variant.symbol) {request : StopRequest}
    (asked : t.stopRequest candle = some request) (outside : StopClear candle (some request)) :
    let handled := (t.atMoment second db).handlerSees settings candle
    Filled settings (handled.atMoment first handled.pe.db) candle
      (TradingStops.requested stops request) position fill := by
  intro handled
  have trades := @handlerSees_trades settings (t.atMoment second db) candle
  have asks := (stopRequest_eq closed found).symm.trans asked
  have clearSl : ¬ InRange candle.low candle.high stops.slPrice := by
    rcases (crossed_of_detectCross detected).level with ⟨isSl, _⟩ | ⟨_, clear, _⟩
    · rw [isTp] at isSl
      cases isSl
    · exact clear
  refine exchangeSees_filled closed (handlerSees_pending (t := t.atMoment second db) empty)
    (handlerSees_moves own found asked second db)
    ((detectCross_requested asks clearSl outside).trans detected) ?_
  exact (congrArg (fun rows : List PaperTrade => rows.any (·.id == position.tradeId) &&
    (t.atMoment first db).pe.commits) trades).trans accepted

/-- Of the events only the first counts, and of it the outcome and the profit. -/
theorem driveToTerminal_told (t : VariantTask) {pe pe' : PaperExchange}
    {events : List TerminalEvent} {event event' : TerminalEvent}
    (told : pe.terminalEvents = events ++ [event])
    (told' : pe'.terminalEvents = events ++ [event'])
    (outcome :
      terminalFromPeState event.execType event.slTypeAtClose event.tpslModeAtClose =
        terminalFromPeState event'.execType event'.slTypeAtClose event'.tpslModeAtClose)
    (pnl : event.realizedPnl = event'.realizedPnl) :
    ({ t with pe := pe } : VariantTask).driveToTerminal =
      ({ t with pe := pe' } : VariantTask).driveToTerminal := by
  unfold VariantTask.driveToTerminal VariantTask.mfePct VariantTask.maePct
  dsimp only
  rw [told, told']
  cases events with
  | nil =>
      dsimp only [List.nil_append, List.head?_cons]
      rw [outcome, pnl]
  | cons earlier events => rfl

/-- A take-profit that closes the position closes it alike whether or not the handler moved
the stop before. -/
theorem meet_of_closed (closed : candle.isClosed = true) (empty : t.pe.pendingSlTpFills = [])
    (found : t.pe.activePositions candle.symbol = some ⟨stops, some position⟩)
    {fill : PendingSLTPFill} (isTp : fill.kind = .tp) (whole : fill.tpslMode ≠ .Partial)
    (detected : detectCross ⟨stops, some position⟩ candle.symbol candle.low candle.high first.now =
      .ok (some fill))
    (accepted : (db.trades.any (·.id == position.tradeId) &&
      (t.atMoment first db).pe.commits) = true)
    (own : candle.symbol = t.variant.symbol) {request : StopRequest}
    (asked : t.stopRequest candle = some request) (outside : StopClear candle (some request)) :
    let exchanged := (t.atMoment first db).exchangeSees settings candle
    let handled := (t.atMoment second db).handlerSees settings candle
    let both := (exchanged.atMoment second exchanged.pe.db).handlerSees settings candle
    let other := (handled.atMoment first handled.pe.db).exchangeSees settings candle
    Meet both other := by
  intro exchanged handled both other
  have notPartial : ¬ (fill.kind = .tp ∧ fill.tpslMode = .Partial) := fun both => whole both.2
  -- the exchange first: it closes, and the handler only notes the candle
  have filled := @exchangeSees_filled settings (t.atMoment first db) candle stops position fill
    closed empty found detected accepted
  obtain ⟨_, closedDb, events⟩ := filled.closes notPartial
  have noted : both.pe = (exchanged.atMoment second exchanged.pe.db).pe :=
    handlerSees_pe (filled.unasked notPartial) second exchanged.pe.db
  -- the handler first: the moved stop is outside the candle, so the same level is filled
  have refilled : Filled settings (handled.atMoment first handled.pe.db) candle
      (TradingStops.requested stops request) position fill :=
    handled_filled closed empty found isTp detected accepted own asked outside
  obtain ⟨_, otherDb, otherEvents⟩ := refilled.closes notPartial
  have variant : handled.variant = t.variant := handlerSees_variant
  have keptEvents : handled.pe.terminalEvents = t.pe.terminalEvents :=
    handlerSees_events (t := t.atMoment second db)
  have kept : handled.pe.db.afterClose (settings.config t.variant)
      (fill.leg (settings.config t.variant)) first.uuids position =
        db.afterClose (settings.config t.variant) (fill.leg (settings.config t.variant))
          first.uuids position :=
    afterClose_handlerSees (t := t.atMoment second db)
      (crossed_of_detectCross detected).symbol_eq first.uuids
  change _ = handled.pe.db.afterClose (settings.config handled.variant)
    (fill.leg (settings.config handled.variant)) first.uuids position at otherDb
  change _ = handled.pe.terminalEvents ++
    [closingEvent _ position (fill.leg (settings.config handled.variant)) fill] at otherEvents
  rw [variant, kept] at otherDb
  rw [variant, keptEvents] at otherEvents
  have bothEvents : both.pe.terminalEvents = t.pe.terminalEvents ++
      [closingEvent stops position (fill.leg (settings.config t.variant)) fill] := by
    rw [noted]
    exact events
  refine ⟨?_, .inr ⟨?_, ?_, ?_⟩⟩
  · rw [noted, otherDb]
    exact closedDb
  · rw [bothEvents]
    exact List.concat_ne_nil _ _
  · rw [otherEvents]
    exact List.concat_ne_nil _ _
  · have seen : both = { t.observe candle with pe := both.pe } :=
      handlerSees_observed closed own _
    have moved : handled = { t.observe candle with pe := handled.pe } :=
      handlerSees_observed closed own _
    have last : other = { t.observe candle with pe := other.pe } := by
      show ({ handled with pe := other.pe } : VariantTask) = _
      rw [moved]
    rw [seen, last]
    refine driveToTerminal_told (t.observe candle) bothEvents otherEvents ?_ rfl
    simp only [closingEvent, isTp, terminalFromPeState]

/-- A stop that agrees with a candle that fills nothing is clear of it. -/
theorem stopClear_of_unfilled (free : t.Finds (Agrees candle t) candle first db)
    (fills : (t.atMoment first db).fills candle = false) (own : candle.symbol = t.variant.symbol)
    (found : t.pe.activePositions candle.symbol = some ⟨stops, some position⟩)
    (accepted : (db.trades.any (·.id == position.tradeId) &&
      (t.atMoment first db).pe.commits) = true) :
    StopClear candle (t.stopRequest candle) := by
  cases closed : candle.isClosed with
  | false =>
      rw [VariantTask.stopRequest, closed]
      rintro new ⟨⟩
  | true =>
      have agrees := free closed own _ found position rfl accepted
      rw [stopRequest_eq closed found]
      cases detected : detectCross ⟨stops, some position⟩ candle.symbol candle.low candle.high
          first.now with
      | error e => exact (detected ▸ agrees :)
      | ok crossing =>
          rw [detected] at agrees
          cases crossing with
          | none => exact agrees
          | some fill =>
              have refused := fills_eq_false_iff.mp fills closed stops position fill found detected
              exact absurd accepted (Bool.eq_false_iff.mp refused)

/-- **Either order comes to the same** where the order does not matter. -/
theorem meet_of_agrees (empty : t.pe.pendingSlTpFills = [])
    (free : t.Finds (Agrees candle t) candle first db) :
    let exchanged := (t.atMoment first db).exchangeSees settings candle
    let handled := (t.atMoment second db).handlerSees settings candle
    let both := (exchanged.atMoment second exchanged.pe.db).handlerSees settings candle
    let other := (handled.atMoment first handled.pe.db).exchangeSees settings candle
    Meet both other := by
  intro exchanged handled both other
  have unmoved : (candle.symbol = t.variant.symbol → t.stopRequest candle = none) →
      (candle.symbol = t.variant.symbol → exchanged.stopRequest candle = none) →
        Meet both other := meet_of_unasked
  by_cases own : candle.symbol = t.variant.symbol
  swap
  · exact unmoved (fun same => absurd same own) (fun same => absurd same own)
  cases fills : (t.atMoment first db).fills candle with
  | false =>
      exact meet_of_unfilled empty fills (fills_handled fills fun _ _ own found accepted =>
        stopClear_of_unfilled free fills own found accepted)
  | true =>
      obtain ⟨closed, stops, position, fill, found, detected, accepted⟩ := fills_iff.mp fills
      change t.pe.activePositions candle.symbol = _ at found
      have asks := stopRequest_eq closed found
      have filled := @exchangeSees_filled settings (t.atMoment first db) candle stops position fill
        closed empty found detected accepted
      have agrees := free closed own _ found position rfl accepted
      rw [show detectCross ⟨stops, some position⟩ candle.symbol candle.low candle.high first.now =
        .ok (some fill) from detected] at agrees
      dsimp only [Agrees] at agrees
      by_cases isPartial : fill.kind = .tp ∧ fill.tpslMode = .Partial
      · -- the handler asks for nothing, before and after the position is reduced
        rw [if_pos isPartial] at agrees
        refine unmoved (fun _ => asks.trans agrees.1) fun _ => ?_
        rw [stopRequest_eq closed (filled.trails isPartial)]
        refine Eq.trans ?_ agrees.2
        show variantStop t.variant (VariantTask.observe candle { t with pe := _ }).bestPrice candle
          _ = _
        rw [VariantTask.observe_with_pe]
        rfl
      · rw [if_neg isPartial] at agrees
        have vacant : exchanged.stopRequest candle = none := filled.unasked isPartial
        cases kind : fill.kind with
        | sl =>
            rw [if_pos kind] at agrees
            exact unmoved (fun _ => asks.trans agrees) fun _ => vacant
        | tp =>
            rw [if_neg (by rw [kind]; simp)] at agrees
            cases asked : t.stopRequest candle with
            | none => exact unmoved (fun _ => asked) fun _ => vacant
            | some request =>
                exact meet_of_closed closed empty found kind (fun mode => isPartial ⟨kind, mode⟩)
                  detected accepted own asked (asked ▸ asks ▸ agrees)

/-- Where the exchange tells an event the task may end at once: the handler would have added
nothing to the record. -/
theorem noted_of_told (empty : t.pe.pendingSlTpFills = []) (eventless : t.pe.terminalEvents = [])
    (free : t.Finds (Watched candle t) candle first db)
    (told : ((t.atMoment first db).exchangeSees settings candle).pe.terminalEvents ≠ []) :
    let exchanged := (t.atMoment first db).exchangeSees settings candle
    let both := (exchanged.atMoment second exchanged.pe.db).handlerSees settings candle
    both.pe.db = exchanged.pe.db ∧ both.driveToTerminal = exchanged.driveToTerminal := by
  intro exchanged both
  by_cases own : candle.symbol = t.variant.symbol
  swap
  · have blind : both = exchanged.atMoment second exchanged.pe.db := if_neg own
    rw [blind]
    exact ⟨rfl, rfl⟩
  cases fills : (t.atMoment first db).fills candle with
  | false =>
      have kept := (exchangeSees_unfilled settings (t := t.atMoment first db) empty
        fills).terminalEvents
      exact absurd (kept.trans eventless) told
  | true =>
      obtain ⟨closed, stops, position, fill, found, detected, accepted⟩ := fills_iff.mp fills
      have filled := @exchangeSees_filled settings (t.atMoment first db) candle stops position fill
        closed empty found detected accepted
      have watched := free closed own _ found position rfl accepted
      rw [show detectCross ⟨stops, some position⟩ candle.symbol candle.low candle.high first.now =
        .ok (some fill) from detected] at watched
      by_cases isPartial : fill.kind = .tp ∧ fill.tpslMode = .Partial
      · have events := filled.events
        rw [toldEvents, if_pos isPartial, List.append_nil] at events
        exact absurd (events.trans eventless) told
      · obtain ⟨best, worst⟩ := Or.resolve_left watched isPartial
        have noted : both.pe = (exchanged.atMoment second exchanged.pe.db).pe :=
          handlerSees_pe (filled.unasked isPartial) second exchanged.pe.db
        have seen : both = { t.observe candle with pe := both.pe } :=
          handlerSees_observed closed own _
        refine ⟨by rw [noted]; rfl, driveToTerminal_congr ?_ ?_ ?_ ?_⟩
        · exact (congrArg VariantTask.variant seen).trans (VariantTask.observe_variant candle t)
        · exact (congrArg VariantTask.bestPrice seen).trans best
        · exact (congrArg VariantTask.worstPrice seen).trans worst
        · rw [noted]
          rfl

end Turn

/-! ## Whole runs -/

/-- Between two candles no fill waits in the exchange and the task has no event to settle. -/
structure Fresh (v : Variant) (w : World ε) : Prop where
  rest : AtRest v w
  eventless : ∀ t ∈ w.task, t.pe.terminalEvents = []

section Runs

variable {settings : Settings} {v : Variant} {w : World ε} {t t' : VariantTask}
  {d d' : Delivery ε} {moment : Moment}

/-- Tasks that meet leave the same world once they settle. -/
theorem settles_of_meet (meet : Meet t t') :
    (shadowStep settings v .settles (w.ran t)).still =
      (shadowStep settings v .settles (w.ran t')).still := by
  obtain ⟨sameDb, same | ⟨told, told', ended⟩⟩ := meet
  · refine still_shadowStep .settles ?_
    unfold World.still World.ran
    rw [sameDb]
    exact congrArg (fun u => World.mk w.env t'.pe.db w.row (some u)) same
  · show (if t.pe.terminalEvents = [] then _ else _ : World ε).still =
      (if t'.pe.terminalEvents = [] then _ else _ : World ε).still
    rw [if_neg told, if_neg told', ended]
    unfold World.still World.finished World.ran
    rw [sameDb]

/-- **A candle whose order does not matter leaves what it leaves when the exchange is first.** -/
theorem deliver_exchangeFirst (fresh : Fresh v w)
    (agrees : d.order = .handlerFirst → ∀ t ∈ w.task,
      t.Finds (Agrees d.candle t) d.candle d.exchangeAt w.db)
    (watched : d.order = .settlesFirst → ∀ t ∈ w.task,
      t.Finds (Watched d.candle t) d.candle d.exchangeAt w.db) :
    (run (shadowStep settings v) w d.steps).still =
      (run (shadowStep settings v) w (reordered (d, .exchangeFirst)).steps).still := by
  obtain ⟨candle, order, first, second, writes⟩ := d
  cases running : w.task with
  | none =>
      cases order <;> simp only [Delivery.steps, reordered, run_cons, run_nil, shadowStep, running]
  | some t =>
      obtain ⟨empty, eventless⟩ := And.intro (fresh.rest t running).2 (fresh.eventless t running)
      let exchanged := (t.atMoment first w.db).exchangeSees settings candle
      let handled := (t.atMoment second w.db).handlerSees settings candle
      let both := (exchanged.atMoment second exchanged.pe.db).handlerSees settings candle
      let other := (handled.atMoment first handled.pe.db).exchangeSees settings candle
      have keptEvents : both.pe.terminalEvents = exchanged.pe.terminalEvents :=
        handlerSees_events (t := exchanged.atMoment second exchanged.pe.db)
      have exchanges : shadowStep settings v (.exchange candle first) w = w.ran exchanged := by
        simp only [shadowStep, running]
        rfl
      have handles : shadowStep settings v (.handler candle second) w = w.ran handled := by
        simp only [shadowStep, running]
        rfl
      have inTurn : shadowStep settings v (.handler candle second) (w.ran exchanged) =
        w.ran both := rfl
      have otherTurn : shadowStep settings v (.exchange candle first) (w.ran handled) =
        w.ran other := rfl
      cases order with
      | exchangeFirst => rfl
      | handlerFirst =>
          have meet : Meet both other := meet_of_agrees empty (agrees rfl t running)
          simp only [Delivery.steps, reordered, run_cons, run_nil, exchanges, handles, inTurn,
            otherTurn]
          exact still_shadowStep (.others writes) (settles_of_meet meet).symm
      | settlesFirst =>
          simp only [Delivery.steps, reordered, run_cons, run_nil, exchanges, inTurn]
          refine congrArg (fun w => (shadowStep settings v (.others writes) w).still) ?_
          by_cases told : exchanged.pe.terminalEvents = []
          · have toldBoth : both.pe.terminalEvents = [] := keptEvents.trans told
            have settled : shadowStep settings v .settles (w.ran exchanged) = w.ran exchanged :=
              if_pos told
            rw [settled, inTurn]
            exact (if_pos toldBoth).symm
          · obtain ⟨sameDb, ended⟩ : both.pe.db = exchanged.pe.db ∧
                both.driveToTerminal = exchanged.driveToTerminal :=
              noted_of_told empty eventless (watched rfl t running) told
            have toldBoth : both.pe.terminalEvents ≠ [] := fun none =>
              told (keptEvents.symm.trans none)
            have settled : shadowStep settings v .settles (w.ran exchanged) =
              (w.ran exchanged).finished settings exchanged.driveToTerminal := if_neg told
            have settledBoth : shadowStep settings v .settles (w.ran both) =
              (w.ran both).finished settings both.driveToTerminal := if_neg toldBoth
            rw [settled, settledBoth, ended]
            unfold World.finished World.ran
            rw [sameDb]
            rfl

/-- A task that settles has no event, or it is gone. -/
theorem eventless_settles (w : World ε) :
    ∀ t ∈ (shadowStep settings v .settles w).task, t.pe.terminalEvents = [] := by
  unfold shadowStep
  cases running : w.task with
  | none =>
      intro t settled
      rw [running] at settled
      cases settled
  | some t =>
      dsimp only
      split
      · rename_i eventless
        rintro t' settled
        rw [running] at settled
        obtain rfl := Option.some.inj settled
        exact eventless
      · rintro _ ⟨⟩

/-- The handler tells no event. -/
theorem eventless_handler {candle : Candle}
    (eventless : ∀ t ∈ w.task, t.pe.terminalEvents = []) :
    ∀ t ∈ (shadowStep settings v (.handler candle moment) w).task, t.pe.terminalEvents = [] := by
  unfold shadowStep
  cases running : w.task with
  | none =>
      intro t settled
      rw [running] at settled
      cases settled
  | some t =>
      rintro _ ⟨⟩
      exact handlerSees_events.trans (eventless t running)

theorem Fresh.deliver (fresh : Fresh v w) (d : Delivery ε) :
    Fresh v (run (shadowStep settings v) w d.steps) := by
  refine ⟨run_invariant_of_always (AtRest v) (fun _ step rest => shadowStep_atRest step rest)
    d.steps fresh.rest, ?_⟩
  obtain ⟨candle, order, first, second, writes⟩ := d
  cases order with
  | exchangeFirst | handlerFirst => exact eventless_settles _
  | settlesFirst => exact eventless_handler (eventless_settles _)

theorem Fresh.starts (moment : Moment) : Fresh v (shadowStep settings v (.starts moment) w) := by
  constructor <;> rintro t ⟨⟩
  · exact ⟨rfl, rfl⟩
  · rfl

/-- **A candle whose order does not matter leaves the same world in either order.** -/
theorem deliver_order {turn : Delivery ε × HandlerOrder} (fresh : Fresh v w)
    (free : OrderFree w turn) :
    (run (shadowStep settings v) w turn.1.steps).still =
      (run (shadowStep settings v) w (reordered turn).steps).still := by
  by_cases same : turn.1.order = turn.2
  · rw [reordered, ← same]
  · have one := @deliver_exchangeFirst ε settings v w turn.1 fresh
      (fun is t running => (free t running).1.resolve_left fun both =>
        same (is.trans (both.mp is).symm))
      (fun is t running => (free t running).2.resolve_left fun both =>
        same (is.trans (both.mp is).symm))
    have two := @deliver_exchangeFirst ε settings v w (reordered turn) fresh
      (fun is t running => (free t running).1.resolve_left fun both =>
        same ((both.mpr is).trans is.symm))
      (fun is t running => (free t running).2.resolve_left fun both =>
        same ((both.mpr is).trans is.symm))
    exact one.trans two.symm

/-- Candle after candle, worlds that are the same stay the same. -/
theorem deliver_orders (turns : List (Delivery ε × HandlerOrder)) :
    ∀ {w w' : World ε}, Fresh v w → w.still = w'.still →
      RunGuarded OrderFree (fun turn w => run (shadowStep settings v) w turn.1.steps) w turns →
      (run (shadowStep settings v) w (turns.flatMap (·.1.steps))).still =
        (run (shadowStep settings v) w'
          (turns.flatMap fun turn => (reordered turn).steps)).still := by
  induction turns with
  | nil => exact fun _ same _ => same
  | cons turn turns ih =>
      intro w w' fresh same free
      rw [List.flatMap_cons, List.flatMap_cons, run_append, run_append]
      refine ih (fresh.deliver turn.1) ?_ free.2
      exact (deliver_order fresh free.1).trans (still_run (reordered turn).steps same)

/-- **The order of the handlers does not show.**  Whatever candles a variant is delivered, and
whatever other order each of them is given, the two runs end with the outcome, the profit and the
excursions alike if no candle depends on its order, whatever comes after them. -/
theorem run_orderFree (settings : Settings) (v : Variant) {w : World ε} {moment : Moment}
    {turns : List (Delivery ε × HandlerOrder)}
    (free : RunGuarded OrderFree (fun turn w => run (shadowStep settings v) w turn.1.steps)
      (shadowStep settings v (.starts moment) w) turns) (later : List (ShadowStep ε)) :
    (run (shadowStep settings v) w
        (.starts moment :: turns.flatMap (·.1.steps) ++ later)).result =
      (run (shadowStep settings v) w
        (.starts moment :: turns.flatMap (fun turn => (reordered turn).steps) ++
          later)).result := by
  have delivered := deliver_orders turns (Fresh.starts moment) rfl free
  have ended := @still_run ε settings v _ _ later delivered
  rw [← run_append, ← run_append] at ended
  have results := congrArg World.result ended
  exact results

end Runs

/-! ## A variant that moves its stop -/

/-- The stop goes to 100.1 once the price has been at 101. -/
def breakevenVariant : Variant :=
  { plainVariant with
    overrides :=
      { plainVariant.overrides with
        beTrigger := some (1 / 100), beSlLevel := some (1 / 1000) } }

/-- The first candle moves the stop below it, the second goes through the stop; each has another
order in the other run. -/
def breakevenTurns : List (Delivery PaperExchange × HandlerOrder) :=
  [(delivered 103 (1005 / 10), .handlerFirst),
   ({ delivered 101 100 with order := .settlesFirst }, .exchangeFirst)]

theorem breakevenTurns_alike :
    (run (shadowStep plainSettings breakevenVariant) parentWorld
        (.starts {} :: breakevenTurns.flatMap (·.1.steps) ++ [.expires])).result =
      (run (shadowStep plainSettings breakevenVariant) parentWorld
        (.starts {} :: breakevenTurns.flatMap (fun turn => (reordered turn).steps) ++
          [.expires])).result ∧
    (run (shadowStep plainSettings breakevenVariant) parentWorld
        (.starts {} :: breakevenTurns.flatMap (·.1.steps) ++ [.expires])).result.map
      TerminalRecord.outcome = some .beHit :=
  ⟨@run_orderFree _ plainSettings breakevenVariant parentWorld {} breakevenTurns
    (by decide +kernel) [.expires], by decide +kernel⟩

/-- A stop that the handler moves into the candle is filled by it where the handler is first,
and outlives it where the exchange is. -/
theorem stop_in_range :
    ¬ ∀ (turns : List (Delivery PaperExchange × HandlerOrder))
        (later : List (ShadowStep PaperExchange)),
      (run (shadowStep plainSettings breakevenVariant) parentWorld
          (.starts {} :: turns.flatMap (·.1.steps) ++ later)).result =
        (run (shadowStep plainSettings breakevenVariant) parentWorld
          (.starts {} :: turns.flatMap (fun turn => (reordered turn).steps) ++ later)).result := by
  intro always
  have same := congrArg (Option.map TerminalRecord.outcome)
    (always [(delivered 103 99, .handlerFirst)] [.expires])
  have exchangeFirst : (run (shadowStep plainSettings breakevenVariant) parentWorld
      (.starts {} :: [(delivered 103 99, HandlerOrder.handlerFirst)].flatMap (·.1.steps) ++
        [.expires])).result.map TerminalRecord.outcome = some .timeout := by
    decide +kernel
  have handlerFirst : (run (shadowStep plainSettings breakevenVariant) parentWorld
      (.starts {} :: [(delivered 103 99, HandlerOrder.handlerFirst)].flatMap
          (fun turn => (reordered turn).steps) ++
        [.expires])).result.map TerminalRecord.outcome = some .beHit := by
    decide +kernel
  rw [exchangeFirst, handlerFirst] at same
  cases same

end Scalper.Shadow
