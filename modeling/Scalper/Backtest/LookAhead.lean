import Scalper.Backtest.Run

/-!
# What a backtest lets a signal see

The two producers run to the end before the bus is drained, so every candle has been replayed and
the clock stands at the last time of the run when the first signal is handled; the resolver reads
the newest rows there are, by the wall clock.  `handledAll_iff` says exactly when every signal is
handled as of its time all the same: when nothing of the run comes later than any of its signals.
Where that holds of two runs, what a signal is scored and filled at depends only on what the two
histories share up to its time (`drain_congr`); `laterCandle_foreseen` is a run where a signal is
filled at the price of a later candle.
-/

set_option autoImplicit false

namespace Scalper.Backtest

open Scalper.Lib Scalper.Exchange Scalper.Paper Scalper.Scoring Scalper.Strategy
open Scalper.Execution (OrderRequest)
open Scalper.Bus (consume HeapEntry deliver runUntilEmpty deliver_invariant
  runUntilEmpty_invariant mem_publish ReplayBus)

variable {capacity : ℕ} (settings : Settings capacity)

/-! ## Handled as of a time -/

/-- The signals the publisher does not skip; the position of one is its correlation id. -/
def Settings.published (history : History) : List SignalRow :=
  (settings.signals history).filter fun row => row.wireAction.isSome

/-- The rows a rule's lookup can read for a target are those computed by a time, and the age of
the newest is judged as at that time. -/
structure ReadAsOf (features : List FeatureRow) (target : FeatureTarget) (clock t : ℕ) : Prop where
  latest : selectLatestFeature features target.featureRef target.symbol =
    selectLatestFeature (upTo t features) target.featureRef target.symbol
  history : ∀ nSamples, selectFeatureHistory features target.featureRef target.symbol nSamples =
    selectFeatureHistory (upTo t features) target.featureRef target.symbol nSamples
  status : (tryDb { kv := fun _ => none, features := features, now := clock } target).status =
    (tryDb { kv := fun _ => none, features := upTo t features, now := t } target).status

/-- The signal published under a correlation id is handled, and whatever is scored or placed for
it comes after every earlier candle and before every later one, with the clock and the features as
of the time it was received. -/
structure HandledAsOf (history : History) (trace : List Event) (correlationId : ℕ)
    (row : SignalRow) : Prop where
  handled : ∃ now outcome, Event.scored correlationId now outcome ∈ trace
  after : ∀ before event later now, trace = before ++ event :: later →
    event.handling = some (correlationId, now) →
    ∀ candle ∈ settings.candles history, candle.bucketStart < row.receivedAt →
      Event.candle candle ∈ before
  before : ∀ before event later now, trace = before ++ event :: later →
    event.handling = some (correlationId, now) →
    ∀ candle ∈ settings.candles history, row.receivedAt < candle.bucketStart →
      Event.candle candle ∉ before
  clock : ∀ event ∈ trace, ∀ now, event.handling = some (correlationId, now) →
    now = row.receivedAt
  features : ∀ rule ∈ settings.config.scoring.rules, ∀ maxStalenessSec target,
    featureTarget rule.feature row.symbol maxStalenessSec = .ok target →
    ReadAsOf history.features target (settings.wallClock correlationId) row.receivedAt

/-- Every published signal of a run is handled as of its time. -/
def HandledAll (history : History) (schedule : settings.Schedule history) : Prop :=
  ∀ correlationId row, (settings.published history)[correlationId]? = some row →
    ∃ w, backtest settings history schedule = .ok w ∧
      HandledAsOf settings history w.trace correlationId row

/-- No row of the feature is computed after a time, and the newest is as stale by the resolver's
clock as it is at that time. -/
def FeatureSettled (features : List FeatureRow) (target : FeatureTarget) (clock t : ℕ) : Prop :=
  (∀ row ∈ rowsOf features target.featureRef target.symbol, row.computedAt ≤ t) ∧
    ∀ latest, selectLatestFeature features target.featureRef target.symbol = some latest →
      (IsStale clock target.maxStalenessSec latest.computedAt ↔
        IsStale t target.maxStalenessSec latest.computedAt)

/-- Nothing a signal could be handled with is later than the signal: no candle and no signal of
the run, and no row of a feature its rules look up.  The candles are well formed, or the run ends
at one that is not. -/
structure NothingLater (history : History) (correlationId : ℕ) (row : SignalRow) : Prop where
  wellFormed : ∀ candle ∈ settings.candles history, WellFormed candle
  candles : ∀ candle ∈ settings.candles history, candle.bucketStart ≤ row.receivedAt
  signals : ∀ later ∈ settings.signals history, later.receivedAt ≤ row.receivedAt
  features : ∀ rule ∈ settings.config.scoring.rules, ∀ maxStalenessSec target,
    featureTarget rule.feature row.symbol maxStalenessSec = .ok target →
    FeatureSettled history.features target (settings.wallClock correlationId) row.receivedAt

theorem status_tryDb_eq_iff {features : List FeatureRow} {target : FeatureTarget} {clock t : ℕ} :
    (tryDb { kv := fun _ => none, features := features, now := clock } target).status =
        (tryDb { kv := fun _ => none, features := features, now := t } target).status ↔
      ∀ latest, selectLatestFeature features target.featureRef target.symbol = some latest →
        (IsStale clock target.maxStalenessSec latest.computedAt ↔
          IsStale t target.maxStalenessSec latest.computedAt) := by
  unfold tryDb
  cases selectLatestFeature features target.featureRef target.symbol with
  | none => simp
  | some latest =>
      by_cases stale : IsStale clock target.maxStalenessSec latest.computedAt <;>
        by_cases staleThen : IsStale t target.maxStalenessSec latest.computedAt <;>
          simp [checkStaleness, stale, staleThen, ResolverResult.status]

theorem readAsOf_iff {features : List FeatureRow} {target : FeatureTarget} {clock t : ℕ} :
    ReadAsOf features target clock t ↔ FeatureSettled features target clock t := by
  constructor
  · rintro ⟨latest, _, status⟩
    refine ⟨selectLatestFeature_upTo_iff.mp latest, status_tryDb_eq_iff.mp ?_⟩
    simpa only [tryDb, ← latest] using status
  · rintro ⟨settled, judged⟩
    have latest := selectLatestFeature_upTo_iff.mpr settled
    refine ⟨latest, selectFeatureHistory_upTo settled, ?_⟩
    simpa only [tryDb, ← latest] using status_tryDb_eq_iff.mpr judged

/-! ## The producers -/

/-- A candle that crosses nothing: it moves the clock and enters the price caches. -/
def observeCandle (candle : Candle) (r : Replay capacity) : Replay capacity :=
  setWorld r (World.note
    { r.state with
      paper := (r.state.paper.setReplayClock candle.bucketStart).cacheCandle
        { candle with isClosed := true } }
    (.candle candle))

/-- Nothing is open and nothing waits to be filled. -/
def Idle (p : PaperExchange) : Prop :=
  p.activePositions = (fun _ => none) ∧ p.pendingSlTpFills = []

theorem checkAndDrain_idle {cfg : Config} {p : PaperExchange} (idle : Idle p) (symbol : String)
    (low high : ℚ) : checkAndDrain cfg symbol low high p = (.ok (), p) := by
  obtain ⟨flat, empty⟩ := idle
  have drained : { p with pendingSlTpFills := [] } = p := by rw [← empty]
  have unchecked : enqueueCross symbol low high p = (.ok (), p) := by
    simp only [enqueueCross, flat]
  rw [checkAndDrain, unchecked, ← drained]
  rfl

theorem replaySegments_idle {cfg : Config} {p : PaperExchange} (idle : Idle p) (symbol : String)
    (ranges : List (ℚ × ℚ)) : replaySegments cfg symbol ranges p = (.ok (), p) := by
  induction ranges with
  | nil => rfl
  | cons range ranges ih =>
      obtain ⟨low, high⟩ := range
      rw [replaySegments, checkAndDrain_idle idle symbol low high]
      exact ih

theorem processReplayCandle_idle (cfg : Config) {p : PaperExchange} (clocked : cfg.replayClock)
    (idle : Idle p) (candle : Candle) :
    ((processReplayCandle cfg candle p).1 = .ok () ↔ WellFormed candle) ∧
      (processReplayCandle cfg candle p).2 =
        (p.setReplayClock candle.bucketStart).cacheCandle { candle with isClosed := true } := by
  simp only [processReplayCandle, clocked, if_true]
  by_cases valid : WellFormed candle
  · obtain ⟨path, _, drawn, _⟩ := segments_of_wellFormed valid
    have still : Idle ((p.setReplayClock candle.bucketStart).cacheCandle
        { candle with isClosed := true }) := idle
    rw [drawn]
    simp only [replaySegments_idle still, valid, and_self]
  · obtain ⟨error, raised⟩ := generateIntraCandlePath_error valid
    rw [raised]
    exact ⟨⟨fun returned => (nomatch returned), fun formed => absurd formed valid⟩, rfl⟩

theorem idle_publishSignal {row : SignalRow} {r : Replay capacity} (idle : Idle r.state.paper) :
    Idle (publishSignal settings row r).state.paper := by
  unfold publishSignal
  cases row.wireAction with
  | none => exact idle
  | some action => exact idle

/-- While nothing is open, a turn of either task raises at malformed candles only, and does what
`observeCandle` and `publishSignal` do. -/
theorem produce_idle {r : Replay capacity} (idle : Idle r.state.paper)
    (next : Candle ⊕ SignalRow) :
    ((produce settings next r).1 = .ok () ↔ ∀ candle, next = .inl candle → WellFormed candle) ∧
      (produce settings next r).2 =
        Sum.elim observeCandle (publishSignal settings) next r ∧
      Idle (produce settings next r).2.state.paper := by
  cases next with
  | inl candle =>
      obtain ⟨returns, left⟩ :=
        processReplayCandle_idle settings.exchange rfl idle candle
      refine ⟨?_, ?_, ?_⟩
      · show (processReplayCandle settings.exchange candle r.state.paper).1 = .ok () ↔ _
        rw [returns]
        exact ⟨fun valid other same => Sum.inl.inj same ▸ valid, fun valid => valid candle rfl⟩
      · simp only [produce, replayCandle, Sum.elim_inl, observeCandle, left]
      · show Idle (processReplayCandle settings.exchange candle r.state.paper).2
        rw [left]
        exact idle
  | inr row =>
      exact ⟨⟨fun _ _ same => (nomatch same), fun _ => rfl⟩, rfl, idle_publishSignal settings idle⟩

/-- The producers raise at malformed candles only, and otherwise observe and publish. -/
theorem forEach_produce (order : List (Candle ⊕ SignalRow)) :
    ∀ {r : Replay capacity}, Idle r.state.paper →
      ((forEach (produce settings) order r).1 = .ok () ↔
          ∀ candle, .inl candle ∈ order → WellFormed candle) ∧
        ((forEach (produce settings) order r).1 = .ok () →
          (forEach (produce settings) order r).2 =
            run (Sum.elim observeCandle (publishSignal settings)) r order) := by
  induction order with
  | nil => exact fun _ => ⟨⟨fun _ _ member => absurd member List.not_mem_nil, fun _ => rfl⟩,
      fun _ => rfl⟩
  | cons next order ih =>
      intro r idle
      obtain ⟨returns, left, still⟩ := produce_idle settings idle next
      obtain ⟨onward, onwardLeft⟩ := ih still
      constructor
      · rw [forEach_cons_ok_iff, returns, onward]
        constructor
        · rintro ⟨first, rest⟩ candle member
          rcases List.mem_cons.mp member with same | later
          · exact first candle same.symm
          · exact rest candle later
        · exact fun all => ⟨fun candle same => all candle (same ▸ List.mem_cons_self),
            fun candle member => all candle (List.mem_cons_of_mem _ member)⟩
      · intro finished
        rw [forEach_cons_ok_iff] at finished
        rw [forEach_cons_of_ok finished.1, onwardLeft finished.2, run_cons, left]

/-- The candles, then the signals. -/
def gathered (history : History) : Replay capacity :=
  run (publishSignal settings) (run observeCandle settings.start (settings.candles history))
    (settings.signals history)

/-- The two tasks commute: they share the clock, and the later time wins. -/
theorem observeCandle_publishSignal (candle : Candle) (row : SignalRow) (r : Replay capacity) :
    observeCandle candle (publishSignal settings row r) =
      publishSignal settings row (observeCandle candle r) := by
  have clocks : max (max r.state.paper.now row.receivedAt) candle.bucketStart =
      max (max r.state.paper.now candle.bucketStart) row.receivedAt := max_right_comm _ _ _
  unfold publishSignal observeCandle
  cases row.wireAction with
  | none =>
      simp only [setWorld, World.note, PaperExchange.setReplayClock, PaperExchange.cacheCandle,
        clocks]
  | some action =>
      simp only [setWorld, World.note, PaperExchange.setReplayClock, PaperExchange.cacheCandle,
        clocks]

/-- Whatever the schedule, the tasks leave the same: both are done before anything is handled. -/
theorem gather_eq (history : History) (schedule : settings.Schedule history) :
    ((gather settings schedule.order).1 = .ok () ↔
        ∀ candle ∈ settings.candles history, WellFormed candle) ∧
      ((gather settings schedule.order).1 = .ok () →
        (gather settings schedule.order).2 = gathered settings history) := by
  obtain ⟨returns, left⟩ := forEach_produce settings schedule.order (r := settings.start)
    ⟨rfl, rfl⟩
  constructor
  · rw [gather, returns]
    exact ⟨fun all candle member => all candle (schedule.mem_left_iff.mpr member),
      fun all candle member => all candle (schedule.mem_left_iff.mp member)⟩
  · intro finished
    rw [gather, left finished, run_interleaved (observeCandle_publishSignal settings),
      schedule.lefts, schedule.rights, gathered]

/-! ## What the producers leave -/

/-- What the publisher publishes for a row, under its correlation id. -/
def Settings.announcement (correlationId : ℕ) (row : SignalRow) : Bus.Publication Payload :=
  (subjectForSignalsValidated,
    ⟨correlationId, row.receivedAt,
      .signalValidated (row.toSignalValidated settings.config.ttlSeconds
        (row.wireAction.getD .close))⟩)

theorem now_gathered_le_iff (history : History) {t : ℕ} :
    (gathered settings history).state.paper.now ≤ t ↔
      settings.fromAt ≤ t ∧ (∀ candle ∈ settings.candles history, candle.bucketStart ≤ t) ∧
        ∀ row ∈ settings.signals history, row.receivedAt ≤ t := by
  have publishing : ∀ (row : SignalRow) (r : Replay capacity),
      (publishSignal settings row r).state.paper.now = max r.state.paper.now row.receivedAt := by
    intro row r
    unfold publishSignal
    cases row.wireAction <;> rfl
  let clock : Replay capacity → ℕ := fun r => r.state.paper.now
  have signals := @clock_run_le_iff _ _ _ _ SignalRow.receivedAt (publishSignal settings) clock
    publishing (settings.signals history) t
    (run observeCandle settings.start (settings.candles history))
  have candles := @clock_run_le_iff _ _ _ _ Candle.bucketStart observeCandle clock
    (fun _ _ => rfl) (settings.candles history) t settings.start
  rw [candles, and_assoc] at signals
  exact signals

theorem trace_observed (candles : List Candle) : ∀ r : Replay capacity,
    (run observeCandle r candles).state.trace = r.state.trace ++ candles.map .candle ∧
      (run observeCandle r candles).bus = r.bus ∧
      (run observeCandle r candles).state.correlations = r.state.correlations := by
  induction candles with
  | nil => exact fun r => ⟨(List.append_nil _).symm, rfl, rfl⟩
  | cons candle candles ih =>
      intro r
      obtain ⟨trace, bus, correlations⟩ := ih (observeCandle candle r)
      refine ⟨?_, bus, correlations⟩
      rw [run_cons, trace]
      simp [observeCandle, setWorld, World.note]

theorem run_publishSignal (rows : List SignalRow) : ∀ r : Replay capacity,
    (run (publishSignal settings) r rows).state.trace = r.state.trace ∧
      (run (publishSignal settings) r rows).bus =
        r.bus.publishAll (((rows.filter fun row => row.wireAction.isSome).zipIdx
          r.state.correlations).map fun item => settings.announcement item.2 item.1) := by
  induction rows with
  | nil => exact fun r => ⟨rfl, rfl⟩
  | cons row rows ih =>
      intro r
      obtain ⟨trace, bus⟩ := ih (publishSignal settings row r)
      rw [run_cons, trace, bus]
      unfold publishSignal
      cases action : row.wireAction with
      | none => simp [action, setWorld]
      | some action' => simp [action, Settings.announcement]

theorem trace_gathered (history : History) :
    (gathered settings history).state.trace = (settings.candles history).map .candle := by
  rw [gathered, (run_publishSignal settings _ _).1, (trace_observed _ _).1]
  rfl

/-- The heap holds the announcements of the published signals, each under its position. -/
theorem bus_gathered (history : History) :
    (gathered settings history).bus = ReplayBus.publishAll {}
      ((settings.published history).zipIdx.map fun item =>
        settings.announcement item.2 item.1) := by
  obtain ⟨_, bus, correlations⟩ := trace_observed (settings.candles history) settings.start
  rw [gathered, (run_publishSignal settings _ _).2, bus, correlations]
  rfl

theorem mem_heap_gathered {history : History} {entry : HeapEntry Payload}
    (waits : entry ∈ (gathered settings history).bus.heap) :
    ∃ correlationId row, (settings.published history)[correlationId]? = some row ∧
      (entry.subject, entry.envelope) = settings.announcement correlationId row := by
  rw [bus_gathered] at waits
  rcases Bus.of_mem_publishAll _ waits with nothing | announced
  · exact absurd nothing List.not_mem_nil
  · obtain ⟨⟨row, correlationId⟩, member, same⟩ := List.mem_map.mp announced
    exact ⟨correlationId, row, List.mem_zipIdx_iff_getElem?.mp member, same.symm⟩

theorem heap_gathered_of_published {history : History} {correlationId : ℕ} {row : SignalRow}
    (found : (settings.published history)[correlationId]? = some row) :
    ∃ entry ∈ (gathered settings history).bus.heap,
      (entry.subject, entry.envelope) = settings.announcement correlationId row := by
  rw [bus_gathered]
  exact Bus.mem_publishAll _
    (List.mem_map.mpr ⟨(row, correlationId), List.mem_zipIdx_iff_getElem?.mpr found, rfl⟩)

/-! ## The drain -/

section Handlers

variable {settings}

theorem setStops_now (request : OrderRequest) (info : InstrumentInfo) (tpSize fillPrice : ℚ)
    (p : PaperExchange) : (setStops settings request info tpSize fillPrice p).now = p.now := by
  unfold setStops
  split
  · next slPrice tpPrice _ _ =>
      have first := (setTradingStop_books settings.exchange request.symbol .Full (some slPrice)
        none none none p).1.now
      split
      · next _ p' left => rwa [left] at first
      · next p' left =>
          rw [left] at first
          exact (setTradingStop_books settings.exchange request.symbol .Partial none
            (some tpPrice) (some tpSize) none p').1.now.trans first
  · rfl

theorem placeOrder_now (request : OrderRequest) (info : InstrumentInfo) (qty tpSize : ℚ)
    (p : PaperExchange) : (placeOrder settings request info qty tpSize p).2.now = p.now := by
  have placed := (placeMarketOrder_books settings.exchange request.symbol request.side qty false
    p).1.now
  unfold placeOrder
  split
  · next _ p' left => rwa [left] at placed
  · next _ p' left =>
      rw [left] at placed
      split
      · exact placed
      · exact (setStops_now request info tpSize _ p').trans placed

theorem handleOrder_now (workingQty : Option ℚ) (request : OrderRequest) (p : PaperExchange) :
    (handleOrder settings workingQty request p).2.now = p.now := by
  unfold handleOrder
  split
  · split
    · rfl
    · split
      · rfl
      · exact placeOrder_now request _ _ _ p
  · rfl

/-- A handler moves no clock, and notes events of its own message and time only. -/
structure Notes (correlationId : ℕ) (w w' : World capacity) : Prop where
  now : w'.paper.now = w.paper.now
  trace : ∃ events, w'.trace = w.trace ++ events ∧
    ∀ event ∈ events, event.handling = some (correlationId, w.paper.now)

theorem notes_signalHandler (history : History) (envelope : Bus.MessageEnvelope Payload)
    (w : World capacity) :
    Notes envelope.correlationId w (signalHandler settings history envelope w).1 := by
  unfold signalHandler
  split
  · exact ⟨rfl, _, rfl, fun event member => by rw [List.mem_singleton.mp member]; rfl⟩
  · exact ⟨rfl, [], (List.append_nil _).symm, fun event member => absurd member List.not_mem_nil⟩

theorem notes_orderHandler (envelope : Bus.MessageEnvelope Payload) (w : World capacity) :
    Notes envelope.correlationId w (orderHandler settings envelope w).1 := by
  unfold orderHandler
  split
  · next request _ =>
      refine ⟨?_, _, rfl, fun event member => by rw [List.mem_singleton.mp member]; rfl⟩
      show (consume OrderRequest.signalId _ request ⟨w.seen, w.paper⟩).2.state.now = w.paper.now
      by_cases seen : request.signalId ∈ w.seen.keys
      · rw [Bus.consume_seen (s := ⟨w.seen, w.paper⟩) seen]
      · rw [Bus.consume_fresh (s := ⟨w.seen, w.paper⟩) seen]
        exact handleOrder_now _ request w.paper
  · exact ⟨rfl, [], (List.append_nil _).symm, fun event member => absurd member List.not_mem_nil⟩

theorem notes_of_mem {history : History} {subscription : Bus.Subscription Payload (World capacity)}
    (member : subscription ∈ subscriptions settings history)
    (envelope : Bus.MessageEnvelope Payload) (w : World capacity) :
    Notes envelope.correlationId w (subscription.handler envelope w).1 := by
  rcases List.mem_pair.mp member with rfl | rfl
  · exact notes_signalHandler history envelope w
  · exact notes_orderHandler envelope w

/-- The trace since the producers ended: everything in it is scored or placed, at one time. -/
def Drained (gathered : World capacity) (w : World capacity) : Prop :=
  w.paper.now = gathered.paper.now ∧
    ∃ later, w.trace = gathered.trace ++ later ∧
      ∀ event ∈ later, ∃ correlationId, event.handling = some (correlationId, gathered.paper.now)

theorem Drained.notes {gathered w w' : World capacity} {correlationId : ℕ}
    (drained : Drained gathered w) (notes : Notes correlationId w w') : Drained gathered w' := by
  obtain ⟨clock, later, trace, handled⟩ := drained
  obtain ⟨events, noted, mine⟩ := notes.trace
  refine ⟨notes.now.trans clock, later ++ events, ?_, fun event member => ?_⟩
  · rw [noted, trace, List.append_assoc]
  · rcases List.mem_append.mp member with before | now
    · exact handled event before
    · exact ⟨correlationId, clock ▸ mine event now⟩

theorem drained_deliver {history : History} {gathered : World capacity}
    {entry : HeapEntry Payload} {r : Replay capacity} (drained : Drained gathered r.state) :
    Drained gathered (deliver (subscriptions settings history) entry r).state :=
  deliver_invariant (fun r => Drained gathered r.state)
    (fun _ member r drained _ => drained.notes (notes_of_mem member entry.envelope r.state)) drained

variable (settings) in
theorem drained_drain (history : History) (r : Replay capacity) :
    Drained r.state (drain settings history r).state :=
  runUntilEmpty_invariant (fun r' => Drained r.state r'.state)
    (fun _ _ _ drained _ => drained_deliver drained) _
    ⟨rfl, [], (List.append_nil _).symm, fun _ member => absurd member List.not_mem_nil⟩

/-! ## Nothing is left in the heap -/

theorem deliver_subscriptions (history : History) (entry : HeapEntry Payload)
    (r : Replay capacity) :
    deliver (subscriptions settings history) entry r =
      (orderSubscription settings).invoke entry
        ((signalSubscription settings history).invoke entry r) := rfl

theorem hears_signals {history : History} {subject : Bus.Subject} :
    (signalSubscription settings history).hears subject = true ↔
      subject = subjectForSignalsValidated := by
  show Bus.subjectMatches subjectForSignalsValidated subject = true ↔ _
  unfold subjectForSignalsValidated
  constructor
  · intro matched
    match subject with
    | [] => simp [Bus.subjectMatches] at matched
    | [first] => simp [Bus.subjectMatches] at matched
    | first :: second :: [] => simp_all [Bus.subjectMatches]
    | first :: second :: third :: rest => simp [Bus.subjectMatches] at matched
  · rintro rfl
    decide

/-- A signal's weight is one more than what handling it can publish. -/
def weight (subject : Bus.Subject) : ℕ := if subject = subjectForSignalsValidated then 3 else 1

theorem weight_publications_le {config : BotConfig} {signal : SignalValidated}
    {now correlationId publishedAt : ℕ} (outcome : SignalOutcome) :
    ((publications config signal now correlationId publishedAt outcome).map fun publication =>
      weight publication.1).sum ≤ 2 := by
  have light : ∀ n ∈ (publications config signal now correlationId publishedAt outcome).map
      (fun publication => weight publication.1), n ≤ 1 := by
    intro n member
    obtain ⟨publication, published, rfl⟩ := List.mem_map.mp member
    rw [weight, if_neg (of_mem_publications published).1]
  have bounded := List.sum_le_card_nsmul _ 1 light
  rw [List.length_map] at bounded
  exact bounded.trans (by simpa using length_publications_le correlationId publishedAt outcome)

variable (settings) in
theorem weight_signalHandler_le (history : History) (envelope : Bus.MessageEnvelope Payload)
    (w : World capacity) :
    ((signalHandler settings history envelope w).2.map fun publication =>
      weight publication.1).sum ≤ 2 := by
  unfold signalHandler
  split
  · exact weight_publications_le _
  · simp

/-- Nothing in a backtest hears what the order handler might publish. -/
theorem orderHandler_publishes (envelope : Bus.MessageEnvelope Payload) (w : World capacity) :
    (orderHandler settings envelope w).2 = [] := by
  unfold orderHandler
  split <;> rfl

theorem load_deliver_lt (history : History) (entry : HeapEntry Payload) (r : Replay capacity) :
    (deliver (subscriptions settings history) entry r).bus.load weight <
      weight entry.subject + r.bus.load weight := by
  have silent : ∀ r : Replay capacity,
      ((orderSubscription settings).invoke entry r).bus = r.bus := by
    intro r
    unfold Bus.Subscription.invoke
    split
    · show r.bus.publishAll (orderHandler settings entry.envelope r.state).2 = r.bus
      rw [orderHandler_publishes, Bus.publishAll_nil]
    · rfl
  rw [deliver_subscriptions, silent]
  by_cases subject : entry.subject = subjectForSignalsValidated
  · rw [Bus.invoke_of_hears (hears_signals.mpr subject), Bus.load_publishAll, weight,
      if_pos subject]
    have light := weight_signalHandler_le settings history entry.envelope r.state
    exact Nat.add_lt_add_right (light.trans_lt (by omega)) _
  · rw [Bus.invoke_of_not_hears fun heard => subject (hears_signals.mp heard), weight,
      if_neg subject]
    omega

theorem load_gathered (history : History) :
    (gathered settings history).bus.load weight =
      3 * (gathered settings history).bus.heap.length := by
  have heavy : ∀ entry ∈ (gathered settings history).bus.heap, weight entry.subject = 3 := by
    intro entry waits
    obtain ⟨_, _, _, announced⟩ := mem_heap_gathered settings waits
    have subject : entry.subject = subjectForSignalsValidated := (Prod.ext_iff.mp announced).1
    rw [weight, if_pos subject]
  rw [ReplayBus.load, List.map_congr_left heavy]
  simp [mul_comm]

/-- The drain leaves nothing. -/
theorem drain_empties (history : History) :
    (drain settings history (gathered settings history)).bus.heap = [] :=
  Bus.runUntilEmpty_empties weight (load_deliver_lt history) (load_gathered history).le

theorem scored_of_published {history : History} {correlationId : ℕ} {row : SignalRow}
    (found : (settings.published history)[correlationId]? = some row) :
    ∃ now outcome, Event.scored correlationId now outcome ∈
      (drain settings history (gathered settings history)).state.trace := by
  obtain ⟨entry, waits, announced⟩ := heap_gathered_of_published settings found
  obtain ⟨subject, envelope⟩ := Prod.ext_iff.mp announced
  have kept : ∀ (other : HeapEntry Payload) (r : Replay capacity),
      (∃ now outcome, Event.scored correlationId now outcome ∈ r.state.trace) →
      ∃ now outcome, Event.scored correlationId now outcome ∈
        (deliver (subscriptions settings history) other r).state.trace := by
    intro other r scored
    refine deliver_invariant (fun r : Replay capacity =>
      ∃ now outcome, Event.scored correlationId now outcome ∈ r.state.trace)
      (fun subscription member r scored _ => ?_) scored
    obtain ⟨now, outcome, noted⟩ := scored
    obtain ⟨events, trace, _⟩ := (notes_of_mem member other.envelope r.state).trace
    exact ⟨now, outcome, by rw [trace]; exact List.mem_append_left _ noted⟩
  refine Bus.delivered_of_mem (fun w : World capacity =>
    ∃ now outcome, Event.scored correlationId now outcome ∈ w.trace) (fun r => ?_) kept
    (drain_empties history) waits
  have first : ∃ now outcome, Event.scored correlationId now outcome ∈
      ((signalSubscription settings history).invoke entry r).state.trace := by
    have message : entry.envelope = (settings.announcement correlationId row).2 := envelope
    rw [Bus.invoke_of_hears (hears_signals.mpr subject), message]
    exact ⟨_, _, List.mem_append_right _ (List.mem_singleton_self _)⟩
  obtain ⟨now, outcome, noted⟩ := first
  refine ⟨now, outcome, ?_⟩
  rw [deliver_subscriptions]
  generalize (signalSubscription settings history).invoke entry r = r' at noted
  by_cases heard : (orderSubscription settings).hears entry.subject = true
  · obtain ⟨events, trace, _⟩ := (@notes_orderHandler _ settings entry.envelope r'.state).trace
    rw [Bus.invoke_of_hears heard]
    show _ ∈ (orderHandler settings entry.envelope r'.state).1.trace
    rw [trace]
    exact List.mem_append_left _ noted
  · rwa [Bus.invoke_of_not_hears heard]

end Handlers

/-! ## When every signal is handled as of its time -/

section Runs

variable {settings} {history : History}

theorem backtest_eq_ok_iff {schedule : settings.Schedule history} {w : World capacity} :
    backtest settings history schedule = .ok w ↔
      (∀ candle ∈ settings.candles history, WellFormed candle) ∧
        w = (drain settings history (gathered settings history)).state := by
  obtain ⟨returns, left⟩ := gather_eq settings history schedule
  rw [← returns]
  unfold backtest
  generalize gather settings schedule.order = outcome at left
  obtain ⟨_ | ⟨⟩, r⟩ := outcome
  · simp
  · rw [show r = gathered settings history from left rfl]
    simp [eq_comm]

variable (settings) in
/-- The trace of a run: the candles, then what is scored and placed, all at one time. -/
theorem trace_drained (history : History) :
    ∃ later, (drain settings history (gathered settings history)).state.trace =
        (settings.candles history).map .candle ++ later ∧
      ∀ event ∈ later, ∃ correlationId, event.handling =
        some (correlationId, (gathered settings history).state.paper.now) := by
  obtain ⟨_, later, trace, handled⟩ := drained_drain settings history
    (gathered settings history)
  exact ⟨later, by rw [trace, trace_gathered], handled⟩

/-- What is scored or placed comes behind all candles. -/
theorem candle_mem_before {candles : List Candle} {later before rest : List Event} {event : Event}
    {handling : ℕ × ℕ} (trace : candles.map .candle ++ later = before ++ event :: rest)
    (handled : event.handling = some handling) {candle : Candle} (member : candle ∈ candles) :
    Event.candle candle ∈ before := by
  have listed : Event.candle candle ∈ candles.map Event.candle := List.mem_map_of_mem member
  rcases List.append_eq_append_iff.mp trace with ⟨rest', rfl, _⟩ | ⟨rest', candlesEq, restEq⟩
  · exact List.mem_append_left _ listed
  · cases rest' with
    | nil =>
        rw [List.append_nil] at candlesEq
        exact candlesEq ▸ listed
    | cons first rest' =>
        rw [List.cons_append] at restEq
        obtain ⟨rfl, _⟩ := List.cons_eq_cons.mp restEq
        have isCandle : event ∈ candles.map Event.candle := by
          rw [candlesEq]
          exact List.mem_append_right _ List.mem_cons_self
        obtain ⟨_, _, rfl⟩ := List.mem_map.mp isCandle
        exact absurd handled (by simp [Event.handling])

theorem mem_signals_of_published {correlationId : ℕ} {row : SignalRow}
    (found : (settings.published history)[correlationId]? = some row) :
    row ∈ settings.signals history :=
  List.mem_of_mem_filter (List.mem_of_getElem? found)

theorem fromAt_le_of_mem_signals {row : SignalRow} (member : row ∈ settings.signals history) :
    settings.fromAt ≤ row.receivedAt := by
  rw [Settings.signals, List.mem_insertionSort] at member
  exact (of_decide_eq_true (List.mem_filter.mp member).2).2.1

/-- A published signal is handled as of its time exactly when nothing of the run is later. -/
theorem handledAsOf_iff (schedule : settings.Schedule history) {correlationId : ℕ}
    {row : SignalRow} (found : (settings.published history)[correlationId]? = some row) :
    (∃ w, backtest settings history schedule = .ok w ∧
        HandledAsOf settings history w.trace correlationId row) ↔
      NothingLater settings history correlationId row := by
  obtain ⟨later, trace, handling⟩ := trace_drained settings history
  have listed := mem_signals_of_published found
  constructor
  · rintro ⟨w, ran, handled⟩
    obtain ⟨wellFormed, rfl⟩ := backtest_eq_ok_iff.mp ran
    obtain ⟨now, outcome, scored⟩ := handled.handled
    have isLater : Event.scored correlationId now outcome ∈ later := by
      rw [trace] at scored
      rcases List.mem_append.mp scored with candle | later
      · obtain ⟨_, _, same⟩ := List.mem_map.mp candle
        exact absurd same (by simp)
      · exact later
    obtain ⟨first, rest, rfl⟩ := List.append_of_mem isLater
    have clock : (gathered settings history).state.paper.now = row.receivedAt := by
      obtain ⟨_, same⟩ := handling _ isLater
      rw [Event.handling] at same
      rw [← handled.clock _ scored now rfl]
      exact (Prod.ext_iff.mp (Option.some.inj same)).2.symm
    obtain ⟨_, candles, signals⟩ := (now_gathered_le_iff settings history).mp clock.le
    exact ⟨wellFormed, candles, signals, fun rule member maxStalenessSec target resolved =>
      readAsOf_iff.mp (handled.features rule member maxStalenessSec target resolved)⟩
  · rintro ⟨wellFormed, candles, signals, features⟩
    have clock : (gathered settings history).state.paper.now = row.receivedAt :=
      le_antisymm
        ((now_gathered_le_iff settings history).mpr
          ⟨fromAt_le_of_mem_signals listed, candles, signals⟩)
        (((now_gathered_le_iff settings history).mp le_rfl).2.2 row listed)
    refine ⟨_, backtest_eq_ok_iff.mpr ⟨wellFormed, rfl⟩, scored_of_published found, ?_, ?_, ?_,
      fun rule member maxStalenessSec target resolved =>
        readAsOf_iff.mpr (features rule member maxStalenessSec target resolved)⟩
    · intro before event rest now split handled candle member _
      exact candle_mem_before (trace.symm.trans split) handled member
    · intro before event rest now split handled candle member isLater
      exact absurd (candles candle member) (not_le.mpr isLater)
    · intro event member now handled
      rw [trace] at member
      rcases List.mem_append.mp member with candle | later
      · obtain ⟨_, _, rfl⟩ := List.mem_map.mp candle
        exact absurd handled (by simp [Event.handling])
      · obtain ⟨_, same⟩ := handling event later
        rw [handled] at same
        exact (Prod.ext_iff.mp (Option.some.inj same)).2.trans clock

/-- Every signal of a run is handled as of its time exactly when nothing of the run is later than
any of its signals. -/
theorem handledAll_iff (schedule : settings.Schedule history) :
    HandledAll settings history schedule ↔
      ∀ correlationId row, (settings.published history)[correlationId]? = some row →
        NothingLater settings history correlationId row :=
  forall_congr' fun _ => forall_congr' fun _ => forall_congr' fun found =>
    handledAsOf_iff schedule found

/-! ## Two histories -/

/-- The same signals, and the same candles and feature rows up to a time. -/
structure AgreeUpTo (t : ℕ) (history other : History) : Prop where
  ohlc1m : (history.ohlc1m.filter fun row => row.candle.bucketStart ≤ t) =
    other.ohlc1m.filter fun row => row.candle.bucketStart ≤ t
  features : upTo t history.features = upTo t other.features
  signals : history.signals = other.signals

theorem filter_eq_of_agree {α : Type} {p q : α → Bool} {xs ys : List α}
    (agree : xs.filter q = ys.filter q) (within : ∀ x ∈ xs, p x = true → q x = true)
    (within' : ∀ y ∈ ys, p y = true → q y = true) : xs.filter p = ys.filter p := by
  have narrowed : ∀ zs : List α, (∀ z ∈ zs, p z = true → q z = true) →
      zs.filter p = (zs.filter q).filter p := by
    intro zs inside
    rw [List.filter_filter]
    refine List.filter_congr fun z member => ?_
    cases met : p z with
    | false => rfl
    | true => simp [inside z member met]
  rw [narrowed xs within, narrowed ys within', agree]

theorem candles_of_agree {other : History} {t : ℕ} (agree : AgreeUpTo t history other)
    (early : ∀ candle ∈ settings.candles history, candle.bucketStart ≤ t)
    (early' : ∀ candle ∈ settings.candles other, candle.bucketStart ≤ t) :
    settings.candles history = settings.candles other := by
  have inWindow : ∀ (history : History), (∀ candle ∈ settings.candles history,
      candle.bucketStart ≤ t) → ∀ row ∈ history.ohlc1m,
      decide (row.candle.symbol ∈ settings.config.symbols ∧
        settings.fromAt ≤ row.candle.bucketStart ∧ row.candle.bucketStart < settings.toAt ∧
        row.source = settings.source) = true →
      decide (row.candle.bucketStart ≤ t) = true := by
    intro history early row member selected
    refine decide_eq_true (early row.candle ?_)
    rw [Settings.candles, List.mem_insertionSort]
    exact List.mem_map_of_mem (List.mem_filter.mpr ⟨member, selected⟩)
  rw [Settings.candles, Settings.candles,
    filter_eq_of_agree agree.ohlc1m (inWindow history early) (inWindow other early')]

/-- A signal that waits was published for a row, under its position. -/
def Announced (settings : Settings capacity) (history : History) (r : Replay capacity) : Prop :=
  ∀ entry ∈ r.bus.heap, ∀ signal, entry.envelope.payload = .signalValidated signal →
    ∃ row, (settings.published history)[entry.envelope.correlationId]? = some row ∧
      signal.symbol = row.symbol

theorem announced_gathered : Announced settings history (gathered settings history) := by
  intro entry waits signal isSignal
  obtain ⟨correlationId, row, found, announced⟩ := mem_heap_gathered settings waits
  have envelope : entry.envelope = (settings.announcement correlationId row).2 :=
    (Prod.ext_iff.mp announced).2
  rw [envelope] at isSignal ⊢
  exact ⟨row, found, by rw [← Payload.signalValidated.inj isSignal]; rfl⟩

/-- Deliveries announce no further signal. -/
theorem announced_deliver {entry : HeapEntry Payload} {r : Replay capacity}
    (announced : Announced settings history r) :
    Announced settings history (deliver (subscriptions settings history) entry r) := by
  refine deliver_invariant (Announced settings history) (fun subscription member r announced _ => ?_)
    announced
  intro waiting waits signal isSignal
  rcases Bus.of_mem_publishAll _ waits with before | published
  · exact announced waiting before signal isSignal
  · rcases List.mem_pair.mp member with rfl | rfl
    · change _ ∈ (signalHandler settings history entry.envelope r.state).2 at published
      unfold signalHandler at published
      split at published
      · exact absurd isSignal ((of_mem_publications published).2 signal)
      · exact absurd published List.not_mem_nil
    · change _ ∈ (orderHandler settings entry.envelope r.state).2 at published
      rw [orderHandler_publishes] at published
      exact absurd published List.not_mem_nil

variable (settings) in
/-- Tables with the same rows for every rule give a signal the same handling. -/
theorem signalHandler_congr {other : History} (envelope : Bus.MessageEnvelope Payload)
    (signals : history.signals = other.signals)
    (alike : ∀ signal, envelope.payload = .signalValidated signal →
      ∀ rule ∈ settings.config.scoring.rules, ∀ maxStalenessSec target,
        featureTarget rule.feature signal.symbol maxStalenessSec = .ok target →
        rowsOf history.features target.featureRef target.symbol =
          rowsOf other.features target.featureRef target.symbol) (w : World capacity) :
    signalHandler settings history envelope w = signalHandler settings other envelope w := by
  unfold signalHandler
  cases payload : envelope.payload with
  | signalValidated signal =>
      have same : handleSignal settings.config settings.config.ttlSeconds
          (settings.answers history w envelope.correlationId signal) w.paper.now signal =
          handleSignal settings.config settings.config.ttlSeconds
            (settings.answers other w envelope.correlationId signal) w.paper.now signal := by
        let answers := settings.answers history w envelope.correlationId signal
        have read : ∀ rule ∈ settings.config.scoring.rules, ReadsAlike signal answers.store
            { answers.store with features := other.features } rule :=
          fun rule member => @readsAlike_of_rows signal answers.store rule history.features
            other.features (alike signal payload rule member)
        rw [handleSignal_congr read]
        simp only [answers, Settings.answers, signals]
      simp only [same]
  | orderRequest request => rfl
  | signalRejected rejection => rfl
  | shadowRejectedStart signalId signal => rfl

/-- A run whose signals are all handled as of their times, and another on a history that agrees
with the first up to one of them, come to the same. -/
theorem drain_congr {other : History} {correlationId : ℕ} {row : SignalRow}
    (found : (settings.published history)[correlationId]? = some row)
    (agree : AgreeUpTo row.receivedAt history other)
    (settled : ∀ correlationId row, (settings.published history)[correlationId]? = some row →
      NothingLater settings history correlationId row)
    (settled' : ∀ correlationId row, (settings.published other)[correlationId]? = some row →
      NothingLater settings other correlationId row) :
    drain settings history (gathered settings history) =
      drain settings other (gathered settings other) := by
  have signals : settings.signals history = settings.signals other := by
    rw [Settings.signals, Settings.signals, agree.signals]
  have published : settings.published history = settings.published other := by
    rw [Settings.published, Settings.published, signals]
  have found' : (settings.published other)[correlationId]? = some row := published ▸ found
  have candles : settings.candles history = settings.candles other :=
    candles_of_agree agree (settled correlationId row found).candles
      (settled' correlationId row found').candles
  have same : gathered settings history = gathered settings other := by
    rw [gathered, gathered, candles, signals]
  have handlers : ∀ (entry : HeapEntry Payload) (heap : List (HeapEntry Payload))
      (r : Replay capacity), Announced settings history r → r.bus.heap = entry :: heap →
      deliver (subscriptions settings history) entry
          { r with bus := { r.bus with heap := heap } } =
        deliver (subscriptions settings other) entry
          { r with bus := { r.bus with heap := heap } } := by
    intro entry heap r announced waits
    have alike := signalHandler_congr settings entry.envelope
      agree.signals fun signal isSignal rule member maxStalenessSec target resolved => by
        obtain ⟨mine, foundMine, symbol⟩ :=
          announced entry (waits ▸ List.mem_cons_self) signal isSignal
        have early : mine.receivedAt ≤ row.receivedAt :=
          (settled correlationId row found).signals mine (mem_signals_of_published foundMine)
        rw [symbol] at resolved
        have rows := (settled _ mine foundMine).features rule member _ target resolved
        have rows' := (settled' _ mine (published ▸ foundMine)).features rule member _ target
          resolved
        rw [← rowsOf_upTo_of_forall fun old listed => (rows.1 old listed).trans early,
          ← rowsOf_upTo_of_forall fun old listed => (rows'.1 old listed).trans early,
          agree.features]
    rw [deliver_subscriptions, deliver_subscriptions]
    refine congrArg ((orderSubscription settings).invoke entry) ?_
    by_cases subject : entry.subject = subjectForSignalsValidated
    · rw [Bus.invoke_of_hears (hears_signals.mpr subject),
        Bus.invoke_of_hears (hears_signals.mpr subject)]
      simp only [signalSubscription, alike]
    · rw [Bus.invoke_of_not_hears fun heard => subject (hears_signals.mp heard),
        Bus.invoke_of_not_hears fun heard => subject (hears_signals.mp heard)]
  rw [drain, Bus.runUntilEmpty_congr (Announced settings history) handlers
    (fun _ heap r announced waits => announced_deliver fun entry member =>
      announced entry (waits ▸ List.mem_cons_of_mem _ member)) _ announced_gathered, same]
  rfl

/-- **A backtest handles every signal as of its time exactly when nothing of the run is later
than any of its signals.**  In two such runs on histories that agree up to a signal's time, the
signal is scored and filled the same. -/
theorem backtest_asOf_iff (settings : Settings capacity) (history : History)
    (schedule : settings.Schedule history) :
    (HandledAll settings history schedule ↔
      ∀ correlationId row, (settings.published history)[correlationId]? = some row →
        NothingLater settings history correlationId row) ∧
    ∀ (other : History) (schedule' : settings.Schedule other),
      HandledAll settings history schedule → HandledAll settings other schedule' →
      ∀ correlationId row, (settings.published history)[correlationId]? = some row →
        AgreeUpTo row.receivedAt history other →
        (backtest settings history schedule).map (fun w => outcomesOf correlationId w.trace) =
          (backtest settings other schedule').map fun w => outcomesOf correlationId w.trace := by
  refine ⟨handledAll_iff schedule, fun other schedule' handled handled' correlationId row found
    agree => ?_⟩
  obtain ⟨w, ran, _⟩ := handled correlationId row found
  have published : settings.published history = settings.published other := by
    rw [Settings.published, Settings.published, Settings.signals, Settings.signals, agree.signals]
  obtain ⟨w', ran', _⟩ := handled' correlationId row (published ▸ found)
  have same := drain_congr found agree ((handledAll_iff schedule).mp handled)
    ((handledAll_iff schedule').mp handled')
  rw [ran, ran', (backtest_eq_ok_iff.mp ran).2, (backtest_eq_ok_iff.mp ran').2, same]

end Runs

/-! ## A candle the signal should not have seen -/

/-- A bot that places an order for every signal. -/
def passthroughBot : BotConfig where
  botId := "alpha"
  symbols := ["BTCUSDT"]
  ttlSeconds := 120
  sourceFilter := none
  scoring := { mode := .passthrough, triggerThreshold := 0, rules := [] }
  exchangeMode := .paper
  qty := 1
  leverage := 1
  slPct := 1 / 100
  tpPct := 1 / 50
  tpQtyPct := 1 / 2
  beTrigger := 0
  beSlLevel := 0
  trailPct := 0

def passthroughSettings : Settings 8 where
  config := passthroughBot
  feeRate := 0
  columns := .postgres
  source := .binance
  fromAt := 0
  toAt := 600000000
  paperDb := {}
  dbOutcomes := []
  wallClock := fun _ => 1000000000
  blocked := fun _ _ => none
  recorded := fun _ _ => true
  workingQty := fun _ request => some request.qty

/-- A candle whose prices do not move. -/
def flatRow (bucketStart : ℕ) (price : ℚ) : OhlcRow where
  candle :=
    { symbol := "BTCUSDT", bucketStart := bucketStart, openPrice := price, high := price,
      low := price, close := price, volume := 1, isClosed := true }
  source := .binance

def longRow : SignalRow where
  id := 7
  receivedAt := 30000000
  source := "tradingview"
  idempotencyKey := "key"
  symbol := "BTCUSDT"
  originalSymbol := none
  action := .long
  payload := "{}"
  ingestionStatus := .validated

/-- One candle before the signal, and one after it at twice the price. -/
def risenHistory : History := ⟨[flatRow 0 100, flatRow 60000000 200], [longRow], []⟩

/-- The same up to the signal. -/
def flatHistory : History := ⟨[flatRow 0 100], [longRow], []⟩

def risenSchedule : passthroughSettings.Schedule risenHistory where
  order := [.inl (flatRow 0 100).candle, .inr longRow, .inl (flatRow 60000000 200).candle]
  lefts := by decide +kernel
  rights := by decide +kernel

def flatSchedule : passthroughSettings.Schedule flatHistory where
  order := [.inl (flatRow 0 100).candle, .inr longRow]
  lefts := by decide +kernel
  rights := by decide +kernel

/-- The order of a signal is filled at the price of a candle that came after the signal. -/
theorem laterCandle_foreseen :
    ¬ HandledAll passthroughSettings risenHistory risenSchedule ∧
      AgreeUpTo longRow.receivedAt risenHistory flatHistory ∧
      (backtest passthroughSettings risenHistory risenSchedule).map
          (fun w => outcomesOf 0 w.trace) ≠
        (backtest passthroughSettings flatHistory flatSchedule).map
          fun w => outcomesOf 0 w.trace := by
  refine ⟨fun handled => ?_, ⟨by decide +kernel, rfl, rfl⟩, by decide +kernel⟩
  have published : (passthroughSettings.published risenHistory)[0]? = some longRow := by
    decide +kernel
  have replayed : (flatRow 60000000 200).candle ∈ passthroughSettings.candles risenHistory := by
    decide +kernel
  have early := ((handledAll_iff risenSchedule).mp handled 0 longRow published).candles _ replayed
  exact absurd early (by decide +kernel)

end Scalper.Backtest
