import Scalper.Paper.Adapter
import Scalper.Execution.Lifecycle

/-!
# Shadow variants

`services/execution/app/shadow_worker.py` and `shadow_replay.py`.  A variant is a what-if copy
of a trade under other stop parameters.  The worker runs it on a `PaperExchange` of its own,
which is constructed with the parent's bot and the parent's trade id and which shares the
database with everything else; after a restart the variant is to be rebuilt from its row by
driving a fresh exchange through the stored candles, then to go on live.

Two subscriptions feed a variant: the exchange sees the candles of every symbol, the variant's
own handler those of its symbol.  A `World` holds the paper tables, whatever else there is
(`env`), the variant's row and its task; a `ShadowStep` is one message taken by one of the
two handlers, a move of the task (start, terminal, expiry, stop, resume), or a write by
anything that is not the variant.  A handler runs to its end in one step; the steps come in any
order.
-/

set_option autoImplicit false

namespace Scalper.Shadow

open Scalper.Lib Scalper.Exchange Scalper.Paper
open Scalper.Execution (checkBeTrigger computeBeSlPrice computeTrailSlPrice)

/-! ## Variants -/

/-- The kind of the parent trade. -/
inductive ParentKind where
  | live
  | paper
  deriving DecidableEq, Repr

/-- `VariantSpec.overrides`: a partial dictionary. -/
structure Overrides where
  beTrigger : Option ℚ := none
  beSlLevel : Option ℚ := none
  trailPct : Option ℚ := none
  slPct : Option ℚ := none
  tpPct : Option ℚ := none
  tpQtyPct : Option ℚ := none
  maxDurationHours : Option ℚ := none
  deriving DecidableEq, Repr

/-- The parameters of a variant with the defaults in place. -/
structure Params where
  beTrigger : ℚ
  beSlLevel : ℚ
  trailPct : ℚ
  slPct : ℚ
  tpPct : ℚ
  tpQtyPct : ℚ
  maxDurationHours : ℚ
  deriving DecidableEq, Repr

/-- `_decode_overrides`, which the worker writes out inline with the same defaults. -/
def decodeOverrides (raw : Overrides) : Params :=
  { beTrigger := raw.beTrigger.getD 0
    beSlLevel := raw.beSlLevel.getD 0
    trailPct := raw.trailPct.getD 0
    slPct := raw.slPct.getD (5 / 1000)
    tpPct := raw.tpPct.getD (1 / 100)
    tpQtyPct := raw.tpQtyPct.getD 1
    maxDurationHours := raw.maxDurationHours.getD 4 }

/-- A `ShadowStartPayload` with one of its variants. -/
structure Variant where
  parentTradeId : ℕ
  parentKind : ParentKind
  botId : String
  symbol : String
  side : Side
  entryPrice : ℚ
  qty : ℚ
  overrides : Overrides := {}
  deriving DecidableEq, Repr

def Variant.params (v : Variant) : Params := decodeOverrides v.overrides

/-- The settings the worker and the replay read. -/
structure Settings where
  columns : Columns
  shadowFeeRate : ℚ := 6 / 10000
  shadowReplayQueryWindowMaxHours : ℚ := 48

/-- The exchange of a variant is constructed alike by the worker and by the replay. -/
def Settings.config (settings : Settings) (v : Variant) : Config :=
  { botId := v.botId, feeRate := settings.shadowFeeRate, slippageModel := .fixedPct 0,
    columns := settings.columns, terminalCallback := true }

/-- `seed_open_state` as `_apply_seed_open_state` installs it. -/
def Variant.seedOpenState (v : Variant) : ActivePosition :=
  { stops :=
      { slPrice := some (match v.side with
          | .buy => v.entryPrice * (1 - v.params.slPct)
          | .sell => v.entryPrice * (1 + v.params.slPct))
        tpPrice := some (match v.side with
          | .buy => v.entryPrice * (1 + v.params.tpPct)
          | .sell => v.entryPrice * (1 - v.params.tpPct))
        tpSize := some (v.qty * v.params.tpQtyPct)
        tpslMode := if v.params.tpQtyPct < 1 then .Partial else .Full }
    position := some
      { tradeId := v.parentTradeId, side := v.side, qty := v.qty, entryPrice := v.entryPrice,
        entryFee := 0, feesPaid := 0 } }

/-- `start_consuming`: the bot's positions are hydrated first, then the seed is laid over the
variant's own symbol. -/
def startConsuming (cfg : Config) (v : Variant) (pe : PaperExchange) : PaperExchange :=
  { pe with
    activePositions := Function.update
      (hydrateActivePositions (selectPaperPositionsForHydrate cfg.botId pe.db)
        pe.activePositions)
      v.symbol (some v.seedOpenState)
    lastPrice := Function.update pe.lastPrice v.symbol (some v.entryPrice)
    lastCandle := Function.update pe.lastCandle v.symbol (some
      { symbol := v.symbol, bucketStart := pe.now, openPrice := v.entryPrice,
        high := v.entryPrice, low := v.entryPrice, close := v.entryPrice, volume := 0,
        isClosed := true }) }

/-! ## The candle handler -/

/-- The state of a variant's task: the values its handlers were made with, its exchange and
the extreme prices seen. -/
structure VariantTask where
  variant : Variant
  pe : PaperExchange
  bestPrice : ℚ
  worstPrice : ℚ

/-- The extreme prices after a candle. -/
def VariantTask.observe (candle : Candle) (t : VariantTask) : VariantTask :=
  match t.variant.side with
  | .buy =>
      { t with
        bestPrice := max t.bestPrice candle.high, worstPrice := min t.worstPrice candle.low }
  | .sell =>
      { t with
        bestPrice := min t.bestPrice candle.low, worstPrice := max t.worstPrice candle.high }

/-- The arguments of a `set_trading_stop` call. -/
structure StopRequest where
  tpslMode : TpslMode
  slPrice : ℚ
  tpPrice : Option ℚ
  tpSize : Option ℚ
  slType : Option SlType
  deriving DecidableEq, Repr

/-- The new level is on the profit side of the current one. -/
def tightened (side : Side) (newSl currentSl : ℚ) : Bool :=
  match side with
  | .buy => decide (currentSl < newSl)
  | .sell => decide (newSl < currentSl)

/-- The stop a closed candle asks for: break-even once, then the trail of the best price. -/
def variantStop (v : Variant) (bestPrice : ℚ) (candle : Candle) (active : ActivePosition) :
    Option StopRequest :=
  let favorable := match v.side with
    | .buy => candle.high
    | .sell => candle.low
  if active.stops.slType = .protective ∧ 0 < v.params.beTrigger ∧
      checkBeTrigger v.side favorable v.entryPrice v.params.beTrigger = true then
    some
      { tpslMode := active.stops.tpslMode
        slPrice := computeBeSlPrice v.side v.entryPrice v.params.beSlLevel
        tpPrice := active.stops.tpPrice, tpSize := active.stops.tpSize, slType := some .be }
  else if active.stops.slType = .trail ∧ 0 < v.params.trailPct then
    match active.stops.slPrice with
    | none => none
    | some currentSl =>
        let newTrailSl := computeTrailSlPrice v.side bestPrice v.params.trailPct
        if tightened v.side newTrailSl currentSl then
          some
            { tpslMode := active.stops.tpslMode, slPrice := newTrailSl
              tpPrice := active.stops.tpPrice, tpSize := active.stops.tpSize, slType := none }
        else none
  else none

/-- The stop the handler would set on the next candle, if any. -/
def VariantTask.stopRequest (t : VariantTask) (candle : Candle) : Option StopRequest :=
  if candle.isClosed then
    (t.pe.activePositions candle.symbol).bind
      (variantStop t.variant (t.observe candle).bestPrice candle)
  else none

section Worker

variable (settings : Settings)

/-- The closure of `_make_candle_handler`. -/
def candleHandler (candle : Candle) (t : VariantTask) : Except PaperError Unit × VariantTask :=
  if candle.isClosed then
    let seen := t.observe candle
    match t.stopRequest candle with
    | none => (.ok (), seen)
    | some request =>
        let (result, pe) := setTradingStop (settings.config t.variant) candle.symbol
          request.tpslMode (some request.slPrice) request.tpPrice request.tpSize request.slType
          t.pe
        (result, { seen with pe := pe })
  else (.ok (), t)

/-! ## Terminal states -/

/-- How a variant ends. -/
inductive ShadowVariantTerminal where
  | slHit
  | beHit
  | tpTrail
  | tpFull
  | timeout
  | shutdownMidReplay
  deriving DecidableEq, Repr

/-- `_terminal_from_pe_state`; the mode is passed and not read. -/
def terminalFromPeState (execType : FillKind) (slTypeAtClose : SlType)
    (_tpslModeAtClose : TpslMode) : ShadowVariantTerminal :=
  match execType with
  | .sl =>
      match slTypeAtClose with
      | .protective => .slHit
      | .be => .beHit
      | .trail => .tpTrail
  | .tp => .tpFull

/-- What `update_shadow_variant_terminal` writes.  The excursions are the exact values that
the code rounds to floats. -/
structure TerminalRecord where
  outcome : ShadowVariantTerminal
  realizedPnl : Option ℚ := none
  mfePct : Option ℚ := none
  maePct : Option ℚ := none
  deriving DecidableEq, Repr

def VariantTask.mfePct (t : VariantTask) : ℚ :=
  match t.variant.side with
  | .buy => (t.bestPrice - t.variant.entryPrice) / t.variant.entryPrice
  | .sell => (t.variant.entryPrice - t.bestPrice) / t.variant.entryPrice

def VariantTask.maePct (t : VariantTask) : ℚ :=
  match t.variant.side with
  | .buy => (t.variant.entryPrice - t.worstPrice) / t.variant.entryPrice
  | .sell => (t.worstPrice - t.variant.entryPrice) / t.variant.entryPrice

/-- What `_drive_variant_to_terminal` returns: the future holds the first terminal event, and
without one the wait has timed out. -/
def VariantTask.driveToTerminal (t : VariantTask) : TerminalRecord :=
  match t.pe.terminalEvents.head? with
  | some event =>
      { outcome := terminalFromPeState event.execType event.slTypeAtClose event.tpslModeAtClose
        realizedPnl := some event.realizedPnl, mfePct := some t.mfePct, maePct := some t.maePct }
  | none => { outcome := .timeout, mfePct := some t.mfePct, maePct := some t.maePct }

/-! ## Rows of `shadow_variants` -/

/-- `shadow_variants.meta`; `{}` has neither key. -/
structure VariantMeta where
  symbol : Option String := none
  overrides : Overrides := {}
  deriving DecidableEq, Repr

/-- The columns a restart reads back besides those that never change; a row without a result
has `terminated_at` null. -/
structure VariantRow where
  entryPrice : ℚ
  qty : ℚ
  createdAt : ℕ
  meta_ : VariantMeta
  result : Option TerminalRecord := none
  deriving DecidableEq, Repr

/-- `insert_shadow_variant`. -/
def insertShadowVariant (v : Variant) (createdAt : ℕ) : VariantRow :=
  { entryPrice := settings.columns.price v.entryPrice, qty := settings.columns.qty v.qty,
    createdAt := createdAt, meta_ := { symbol := some v.symbol, overrides := v.overrides } }

/-- `_row_to_shadow_variant`.  The pool of the service registers no codec, so a JSONB column comes
as its text, which is not a dictionary and is narrowed to the empty one. -/
def rowToShadowVariant (row : VariantRow) : VariantRow := { row with meta_ := {} }

/-- `update_shadow_variant_terminal`. -/
def updateShadowVariantTerminal (record : TerminalRecord) (row : VariantRow) : VariantRow :=
  { row with
    result := some { record with realizedPnl := record.realizedPnl.map settings.columns.money } }

/-- `_variant_symbol_from_row`; a row whose `meta` has no symbol raises. -/
def variantSymbolFromRow (row : VariantRow) : Option String := row.meta_.symbol

/-- The variant a restart rebuilds from a row and its symbol. -/
def VariantRow.decode (row : VariantRow) (v : Variant) (symbol : String) : Variant :=
  { v with
    symbol := symbol, entryPrice := row.entryPrice, qty := row.qty
    overrides := row.meta_.overrides }

/-! ## Restart -/

/-- `select_ohlc_for_replay_window`. -/
def selectOhlcForReplayWindow (symbol : String) (fromAt toAt : ℕ) (rows : List Candle) :
    List Candle :=
  (rows.filter fun row =>
    row.symbol = symbol ∧ fromAt ≤ row.bucketStart ∧ row.bucketStart ≤ toAt).mergeSort
      fun row later => decide (row.bucketStart ≤ later.bucketStart)

/-- `_replay_candle_loop`: the exchange first, then the handler, then the look at the future. -/
def replayCandleLoop : List Candle → VariantTask → Except PaperError Bool × VariantTask
  | [], t => (.ok false, t)
  | row :: rows, t =>
      let candle := { row with isClosed := true }
      match onCandle (settings.config t.variant) candle t.pe with
      | (.error e, pe) => (.error e, { t with pe := pe })
      | (.ok (), pe) =>
          match candleHandler settings candle { t with pe := pe } with
          | (.error e, t) => (.error e, t)
          | (.ok (), t) =>
              if t.pe.terminalEvents = [] then replayCandleLoop rows t else (.ok true, t)

/-- Times are in microseconds, the resolution of a timestamp. -/
def ticksPerHour : ℚ := 3600000000

/-- What a handler finds when it runs: the time, the supply of ids and the outcomes of its
transactions. -/
structure Moment where
  now : ℕ := 0
  uuids : Uuid := 0
  dbOutcomes : List TxOutcome := []
  deriving DecidableEq, Repr

/-- What a restart finds. -/
structure Replay where
  moment : Moment
  /-- The parent's row in `trades` is there and not closed. -/
  liveParentOpen : Bool := true
  /-- The table `ohlc_1m`. -/
  ohlc1m : List Candle
  /-- The compute limit struck after this many candles. -/
  cutAfter : Option ℕ := none

/-- `_check_parent_open`. -/
def checkParentOpen (v : Variant) (liveParentOpen : Bool) (db : PaperDb) : Bool :=
  match v.parentKind with
  | .live => liveParentOpen
  | .paper => (db.trades.find? (·.id == v.parentTradeId)).any (·.closedAt.isNone)

/-- How a replay ends. -/
inductive ReplayEnd where
  | finalized (record : TerminalRecord)
  | continued (task : VariantTask)
  /-- An exception: the row stays active and no task runs. -/
  | failed

/-- A fresh exchange over the tables, before anything started it. -/
def freshExchange (moment : Moment) (db : PaperDb) : PaperExchange :=
  { db := db, now := moment.now, uuids := moment.uuids, dbOutcomes := moment.dbOutcomes }

/-- A task as `replay_shadow_variant_to_now` makes it: the seed is handed to the exchange and
not yet applied. -/
def Variant.task (v : Variant) (moment : Moment) (db : PaperDb) : VariantTask :=
  { variant := v, pe := freshExchange moment db, bestPrice := v.entryPrice,
    worstPrice := v.entryPrice }

/-- The exchange of a task starts to consume. -/
def VariantTask.start (t : VariantTask) : VariantTask :=
  { t with pe := startConsuming (settings.config t.variant) t.variant t.pe }

/-- `replay_shadow_variant_to_now`: how it ends, and the tables it leaves. -/
def replayShadowVariantToNow (v : Variant) (row : VariantRow) (r : Replay) (db : PaperDb) :
    ReplayEnd × PaperDb :=
  let now := r.moment.now
  let elapsed : ℚ := (now : ℚ) - row.createdAt
  if settings.shadowReplayQueryWindowMaxHours < elapsed / ticksPerHour then
    (.finalized { outcome := .shutdownMidReplay }, db)
  else if !checkParentOpen v r.liveParentOpen db then
    (.finalized { outcome := .shutdownMidReplay }, db)
  else if (decodeOverrides row.meta_.overrides).maxDurationHours * ticksPerHour ≤ elapsed then
    (.finalized { outcome := .timeout, mfePct := some 0, maePct := some 0 }, db)
  else
    match variantSymbolFromRow row with
    | none => (.failed, db)
    | some symbol =>
        let window := selectOhlcForReplayWindow symbol row.createdAt now r.ohlc1m
        let consumed := (r.cutAfter.map window.take).getD window
        match replayCandleLoop settings consumed ((row.decode v symbol).task r.moment db) with
        | (.error _, t) => (.failed, t.pe.db)
        | (.ok true, t) => (.finalized t.driveToTerminal, t.pe.db)
        | (.ok false, t) =>
            match r.cutAfter with
            | some _ => (.finalized { outcome := .shutdownMidReplay }, t.pe.db)
            | none => (.continued (t.start settings), t.pe.db)

/-! ## The world of a variant -/

/-- A paper exchange with the shadow variant beside it. -/
structure World (ε : Type) where
  env : ε
  db : PaperDb
  row : Option VariantRow := none
  task : Option VariantTask := none

/-- A step of the exchange or of the variant. -/
inductive ShadowStep (ε : Type) where
  /-- `_run_shadow_variant` up to its subscriptions. -/
  | starts (moment : Moment)
  /-- The exchange's subscription takes a candle of any symbol. -/
  | exchange (candle : Candle) (moment : Moment)
  /-- The variant's own subscription takes a candle. -/
  | handler (candle : Candle) (moment : Moment)
  /-- The task finds its future done, if it is. -/
  | settles
  /-- The wait of the task times out. -/
  | expires
  /-- The task goes without a result: a crash, or a cancellation on the parent's close. -/
  | stopped
  | resumes (replay : Replay)
  /-- Anything that is not the variant. -/
  | others (write : ε × PaperDb → ε × PaperDb)

/-- The exchange as a handler finds it. -/
def VariantTask.atMoment (t : VariantTask) (moment : Moment) (db : PaperDb) : VariantTask :=
  { t with
    pe := { t.pe with
      db := db, now := moment.now, uuids := moment.uuids, dbOutcomes := moment.dbOutcomes } }

/-- The exchange's subscription calls `_on_candle`; an error is logged by the bus. -/
def VariantTask.exchangeSees (candle : Candle) (t : VariantTask) : VariantTask :=
  { t with pe := (onCandle (settings.config t.variant) candle t.pe).2 }

/-- The handler is subscribed to the variant's symbol. -/
def VariantTask.handlerSees (candle : Candle) (t : VariantTask) : VariantTask :=
  if candle.symbol = t.variant.symbol then (candleHandler settings candle t).2 else t

variable {ε : Type}

/-- A handler ran: its writes are in the tables. -/
def World.ran (w : World ε) (t : VariantTask) : World ε :=
  { w with db := t.pe.db, task := some t }

/-- The task ends and its row takes the result. -/
def World.finished (w : World ε) (record : TerminalRecord) : World ε :=
  { w with row := w.row.map (updateShadowVariantTerminal settings record), task := none }

/-- A restart takes up a row that has no result; what the replay raises is logged. -/
def World.resumed (v : Variant) (r : Replay) (w : World ε) : World ε :=
  match w.row, w.task with
  | some row, none =>
      if row.result.isNone then
        match replayShadowVariantToNow settings v (rowToShadowVariant row) r w.db with
        | (.finalized record, db) => { w with db := db }.finished settings record
        | (.continued t, db) => { w with db := db, task := some t }
        | (.failed, db) => { w with db := db }
      else w
  | _, _ => w

def shadowStep (v : Variant) (step : ShadowStep ε) (w : World ε) : World ε :=
  match step, w.task with
  | .starts moment, _ =>
      { w with
        row := some (insertShadowVariant settings v moment.now)
        task := some ((v.task moment w.db).start settings) }
  | .exchange candle moment, some t =>
      w.ran ((t.atMoment moment w.db).exchangeSees settings candle)
  | .handler candle moment, some t =>
      w.ran ((t.atMoment moment w.db).handlerSees settings candle)
  | .settles, some t =>
      if t.pe.terminalEvents = [] then w else w.finished settings t.driveToTerminal
  | .expires, some t => w.finished settings t.driveToTerminal
  | .stopped, _ => { w with task := none }
  | .resumes r, _ => w.resumed settings v r
  | .others write, _ =>
      { w with env := (write (w.env, w.db)).1, db := (write (w.env, w.db)).2 }
  | _, none => w

end Worker

end Scalper.Shadow
