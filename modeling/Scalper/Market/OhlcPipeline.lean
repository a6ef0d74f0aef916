import Mathlib.Logic.Function.Basic
import Scalper.Exchange.PrivateWs
import Scalper.Lib.Run
import Scalper.Lib.Writes
import Scalper.Market.Backfill

/-!
# The live candles

`OhlcPipeline` of `packages/market/ohlc.py`, and the backfills that every connect starts beside it.
A consumer per symbol takes the frames of its feed one at a time.  It stores a closed candle and
publishes it after that, publishes an open one only, and puts the close of what it published into
the `latest_price` bucket; a step that raises ends the handling of the frame.  The backfills write
into the same table, one candle at a time, and the last write wins.  Every wait is a point at which
the others may go on, and a write that is not heard of may have taken effect.

A closed candle is stored before it is published.  Whether what is stored stays what was published is
a matter of what is reported, not of the order of the writes (`published_agrees_iff`).  A backfill
starts behind the newest stored candle.  So at and before that one, what is stored is what the
consumers store: the backfills neither fill a gap nor repair a candle there (`behind_newest`).
-/

set_option autoImplicit false

namespace Scalper.Market

open Scalper.Lib
open Scalper.Exchange.Bybit (Fields Raised required fieldIs intOf decimalOf)

/-! ## Frames -/

/-- What a frame is to `_handle`. -/
inductive Handled where
  | ignored
  | malformed
  | raised (error : Raised)
  | candle (candle : OhlcCandle) (isClosed : Bool)

/-- `datetime.fromtimestamp(ms / 1000.0)`, in minutes. -/
def bucketOf (ms : ℤ) : Except Raised ℤ :=
  if -62135596800000 ≤ ms ∧ ms < 253402300800000 then .ok (ms / 60000) else .error .valueError

section Frames

variable (repr : Json → String)

/-- `_parse`; the payload takes finite numbers only. -/
def parse (symbol : String) (kline : Fields) : Except Raised OhlcCandle := do
  let bucketStart ← required kline "t" >>= intOf >>= bucketOf
  let openPrice ← required kline "o" >>= decimalOf repr
  let high ← required kline "h" >>= decimalOf repr
  let low ← required kline "l" >>= decimalOf repr
  let close ← required kline "c" >>= decimalOf repr
  let volume ← required kline "v" >>= decimalOf repr
  match openPrice, high, low, close, volume with
  | .finite openPrice, .finite high, .finite low, .finite close, .finite volume =>
      .ok ⟨symbol, bucketStart, openPrice.value, high.value, low.value, close.value, volume.value⟩
  | _, _, _, _, _ => .error .valueError

/-- `_handle`, up to the first wait. -/
def handle (symbol : String) (frame : Fields) : Handled :=
  match frame.lookup "data" with
  | some (.object data) =>
      if fieldIs data "e" "kline" then
        match data.lookup "k" with
        | some (.object kline) =>
            match kline.lookup "x" with
            | some (.bool isClosed) =>
                match parse repr symbol kline with
                | .ok candle => .candle candle isClosed
                | .error error => .raised error
            | _ => .malformed
        | _ => .malformed
      else .ignored
  | _ => .ignored

end Frames

/-! ## The backfills -/

/-- A row of the answer of REST, without the symbol. -/
structure KlineRow where
  bucketStart : ℤ
  openPrice : ℚ
  high : ℚ
  low : ℚ
  close : ℚ
  volume : ℚ
  deriving DecidableEq

/-- `_parse_kline_row`. -/
def parseKlineRow (symbol : String) (row : KlineRow) : OhlcCandle :=
  ⟨symbol, row.bucketStart, row.openPrice, row.high, row.low, row.close, row.volume⟩

/-- Where a `run_for_symbols` is: between two symbols, or before one of the waits of
`_backfill_symbol`, with the symbols that come later. -/
inductive BackfillPhase where
  | pausing (symbols : List String)
  | resolving (symbol : String) (endTime : ℤ) (later : List String)
  | fetching (symbol : String) (endTime cursor : ℤ) (later : List String)
  | storing (symbol : String) (endTime : ℤ) (candles : List OhlcCandle) (cursor : ℤ)
      (later : List String)

/-- What happens in a backfill. -/
inductive BackfillEvent where
  | begins (now : ℤ)
  | resolves (heard : Bool)
  | answers (page : Option (List KlineRow))
  | stores (result : WriteResult)
  | cancelled

section Backfills

variable (initialHours : ℤ)

/-- After a page: `while cursor < end_time`. -/
def BackfillPhase.turn (symbol : String) (endTime cursor : ℤ) (later : List String) :
    BackfillPhase :=
  if cursor < endTime then .fetching symbol endTime cursor later else .pausing later

/-- A step of a backfill, and the candle that it wrote. -/
def BackfillPhase.next (table : OhlcTable) :
    BackfillEvent → BackfillPhase → BackfillPhase × Option OhlcCandle
  | .begins now, .pausing (symbol :: later) => (.resolving symbol (endTime now) later, none)
  | .resolves true, .resolving symbol endTime later =>
      (.turn symbol endTime (resolveStartTime table symbol endTime initialHours) later, none)
  | .resolves false, .resolving _ _ later => (.pausing later, none)
  | .answers none, .fetching _ _ _ later => (.pausing later, none)
  | .answers (some rows), .fetching symbol endTime _ later =>
      match rows.getLast? with
      | none => (.pausing later, none)
      | some last =>
          (.storing symbol endTime (rows.map (parseKlineRow symbol)) (last.bucketStart + 1) later,
            none)
  | .stores result, .storing symbol endTime (candle :: candles) cursor later =>
      let next : BackfillPhase :=
        if result.heard then
          match candles with
          | [] => .turn symbol endTime cursor later
          | _ :: _ => .storing symbol endTime candles cursor later
        else .pausing later
      (next, if result.takes then some candle else none)
  | .cancelled, _ => (.pausing [], none)
  | _, phase => (phase, none)

end Backfills

/-! ## The service -/

/-- `message_id_for_closed_candle`, or a fresh one. -/
inductive MessageId where
  | closedCandle (symbol : String) (bucketStart : ℤ)
  | minted (number : ℕ)
  deriving DecidableEq

/-- A published candle. -/
structure OhlcMessage where
  id : MessageId
  candle : OhlcCandle
  isClosed : Bool

/-- Where the consumer of a symbol is. -/
inductive ConsumerPhase where
  | ended
  | waiting
  | persisting (candle : OhlcCandle)
  | publishing (candle : OhlcCandle) (isClosed : Bool)
  | pricing (candle : OhlcCandle)

/-- The table, what was published, the bucket, and where the tasks are. -/
structure OhlcService where
  table : OhlcTable
  /-- In order; the subscribers hear all of it. -/
  published : List OhlcMessage := []
  latestPrice : String → Option ℚ := fun _ => none
  minted : ℕ := 0
  consumers : String → ConsumerPhase := fun _ => .ended
  backfills : List BackfillPhase := []
  /-- The candles that the consumers have stored, in order. -/
  persisted : List OhlcCandle := []

/-- A step of the service. -/
inductive OhlcStep where
  /-- The service ends, and starts again with these symbols. -/
  | restarts (symbols : List String)
  | takes (symbol : String) (frame : Fields)
  | persists (symbol : String) (result : WriteResult)
  | publishes (symbol : String) (result : WriteResult)
  | prices (symbol : String) (result : WriteResult)
  | connects (symbols : List String)
  | backfills (task : ℕ) (event : BackfillEvent)

namespace OhlcService

/-- The consumer of a symbol goes on. -/
def enter (symbol : String) (phase : ConsumerPhase) (s : OhlcService) : OhlcService :=
  { s with consumers := Function.update s.consumers symbol phase }

def persist (candle : OhlcCandle) (s : OhlcService) : OhlcService :=
  { s with table := insertOhlc1m s.table candle, persisted := s.persisted ++ [candle] }

/-- `_build_envelope` and `bus.publish`. -/
def publish (candle : OhlcCandle) (isClosed : Bool) (s : OhlcService) : OhlcService :=
  if isClosed then
    { s with
      published :=
        s.published ++ [⟨.closedCandle candle.symbol candle.bucketStart, candle, true⟩] }
  else
    { s with
      published := s.published ++ [⟨.minted s.minted, candle, false⟩]
      minted := s.minted + 1 }

def putPrice (candle : OhlcCandle) (s : OhlcService) : OhlcService :=
  { s with latestPrice := Function.update s.latestPrice candle.symbol (some candle.close) }

/-- A backfill task goes on, and stores a candle or none. -/
def turn (task : ℕ) (next : BackfillPhase × Option OhlcCandle) (s : OhlcService) : OhlcService :=
  { s with
    backfills := s.backfills.set task next.1
    table := (next.2.map (insertOhlc1m s.table)).getD s.table }

end OhlcService

section Steps

variable (repr : Json → String) (initialHours : ℤ)

/-- A step of a backfill task. -/
def backfillStep (task : ℕ) (event : BackfillEvent) (s : OhlcService) : OhlcService :=
  match s.backfills[task]? with
  | none => s
  | some phase => s.turn task (phase.next initialHours s.table event)

def ohlcStep : OhlcStep → OhlcService → OhlcService
  | .restarts symbols, s =>
      { s with
        consumers := fun symbol => if symbol ∈ symbols then .waiting else .ended
        backfills := [] }
  | .takes symbol frame, s =>
      match s.consumers symbol, handle repr symbol frame with
      | .waiting, .candle candle true => s.enter symbol (.persisting candle)
      | .waiting, .candle candle false => s.enter symbol (.publishing candle false)
      | _, _ => s
  | .persists symbol result, s =>
      match s.consumers symbol with
      | .persisting candle =>
          (if result.takes then s.persist candle else s).enter symbol
            (if result.heard then .publishing candle true else .waiting)
      | _ => s
  | .publishes symbol result, s =>
      match s.consumers symbol with
      | .publishing candle isClosed =>
          (if result.takes then s.publish candle isClosed else s).enter symbol
            (if result.heard then .pricing candle else .waiting)
      | _ => s
  | .prices symbol result, s =>
      match s.consumers symbol with
      | .pricing candle => (if result.takes then s.putPrice candle else s).enter symbol .waiting
      | _ => s
  | .connects symbols, s => { s with backfills := s.backfills ++ [.pausing symbols] }
  | .backfills task event, s => backfillStep initialHours task event s

end Steps

/-! ## What is stored -/

/-- The candle that is stored for a minute. -/
def OhlcTable.row (table : OhlcTable) (symbol : String) (bucketStart : ℤ) : Option OhlcCandle :=
  (table.rows.find? (OhlcRow.key · = (symbol, bucketStart, source))).map OhlcRow.candle

theorem row_insertOhlc1m (table : OhlcTable) (candle : OhlcCandle) (symbol : String)
    (bucketStart : ℤ) : (insertOhlc1m table candle).row symbol bucketStart =
      if candle.symbol = symbol ∧ candle.bucketStart = bucketStart then some candle
      else table.row symbol bucketStart := by
  rw [OhlcTable.row, insertOhlc1m, find?_upsert]
  by_cases same : candle.symbol = symbol ∧ candle.bucketStart = bucketStart
  · rw [if_pos (by rw [OhlcRow.key, same.1, same.2]), if_pos same, Option.map_some]
  · have other : ¬OhlcRow.key ⟨candle, source⟩ = (symbol, bucketStart, source) := fun equal =>
      same ⟨congrArg Prod.fst equal, congrArg (fun key => key.2.1) equal⟩
    rw [if_neg other, if_neg same]
    rfl

theorem row_insertOhlc1m_self (table : OhlcTable) (candle : OhlcCandle) :
    (insertOhlc1m table candle).row candle.symbol candle.bucketStart = some candle := by
  rw [row_insertOhlc1m, if_pos ⟨rfl, rfl⟩]

theorem mem_buckets_insert {table : OhlcTable} {symbol : String} {bucket : ℤ}
    (stored : bucket ∈ table.buckets symbol) (candle : OhlcCandle) :
    bucket ∈ (insertOhlc1m table candle).buckets symbol := by
  rw [mem_buckets] at stored ⊢
  exact mem_map_key_upsert.mpr (.inl stored)

/-- A backfill starts behind what is stored. -/
theorem lt_resolveStartTime {table : OhlcTable} {symbol : String} {bucket : ℤ}
    (stored : bucket ∈ table.buckets symbol) (endTime initialHours : ℤ) :
    bucket < resolveStartTime table symbol endTime initialHours := by
  unfold resolveStartTime fetchLatestOhlcBucket
  cases newest : (table.buckets symbol).max? with
  | none =>
      rw [List.max?_eq_none_iff.mp newest] at stored
      cases stored
  | some last =>
      have least := (List.max?_eq_some_iff.mp newest).2 bucket stored
      exact Int.lt_add_one_of_le least

section Parsed

variable {repr : Json → String} {symbol : String}

theorem symbol_of_parse {kline : Fields} {candle : OhlcCandle}
    (parsed : parse repr symbol kline = .ok candle) : candle.symbol = symbol := by
  unfold parse at parsed
  obtain ⟨bucketStart, -, parsed⟩ := bind_eq_ok_iff.mp parsed
  obtain ⟨openPrice, -, parsed⟩ := bind_eq_ok_iff.mp parsed
  obtain ⟨high, -, parsed⟩ := bind_eq_ok_iff.mp parsed
  obtain ⟨low, -, parsed⟩ := bind_eq_ok_iff.mp parsed
  obtain ⟨close, -, parsed⟩ := bind_eq_ok_iff.mp parsed
  obtain ⟨volume, -, parsed⟩ := bind_eq_ok_iff.mp parsed
  split at parsed
  · rw [← Except.ok.inj parsed]
  · cases parsed

theorem symbol_of_handle {frame : Fields} {candle : OhlcCandle} {isClosed : Bool}
    (handled : handle repr symbol frame = .candle candle isClosed) : candle.symbol = symbol := by
  unfold handle at handled
  repeat' split at handled
  all_goals try cases handled
  exact symbol_of_parse ‹parse repr symbol _ = .ok candle›

end Parsed

/-! ## Behind the newest candle -/

/-- The last of the candles that is of a minute. -/
def lastOf (symbol : String) (minute : ℤ) (candles : List OhlcCandle) : Option OhlcCandle :=
  candles.reverse.find? fun candle => candle.symbol = symbol ∧ candle.bucketStart = minute

theorem lastOf_concat (symbol : String) (minute : ℤ) (candles : List OhlcCandle)
    (candle : OhlcCandle) : lastOf symbol minute (candles ++ [candle]) =
      if candle.symbol = symbol ∧ candle.bucketStart = minute then some candle
      else lastOf symbol minute candles := by
  by_cases same : candle.symbol = symbol ∧ candle.bucketStart = minute
  · simp [lastOf, same]
  · rw [if_neg same, lastOf, List.reverse_append, List.reverse_singleton, List.singleton_append,
      List.find?_cons_of_neg (by simpa using same), lastOf]

section Behind

variable (symbol : String) (minute : ℤ)

/-- The backfill is past a minute of a symbol, or has not asked yet where to start. -/
def BackfillPhase.Past : BackfillPhase → Prop
  | .pausing _ | .resolving _ _ _ => True
  | .fetching own _ cursor _ => own = symbol → minute < cursor
  | .storing own _ candles cursor _ => (own = symbol → minute < cursor) ∧
      ∀ candle ∈ candles, candle.symbol = symbol → minute < candle.bucketStart

/-- A minute is not behind the newest candle of its symbol, and no backfill under way will come to
it. -/
structure Behind (s : OhlcService) : Prop where
  stored : ∃ bucket ∈ s.table.buckets symbol, minute ≤ bucket
  past : ∀ phase ∈ s.backfills, phase.Past symbol minute

end Behind

/-- REST returns no candle before the one it is asked from. -/
def Ranged (s : OhlcService) : OhlcStep → Prop
  | .backfills task (.answers (some rows)) => ∀ symbol endTime cursor later,
      s.backfills[task]? = some (.fetching symbol endTime cursor later) →
        ∀ row ∈ rows, cursor ≤ row.bucketStart
  | _ => True

section BehindSteps

variable {symbol : String} {minute : ℤ}

theorem past_turn {own : String} {endTime cursor : ℤ} {later : List String}
    (past : own = symbol → minute < cursor) :
    (BackfillPhase.turn own endTime cursor later).Past symbol minute := by
  unfold BackfillPhase.turn
  split_ifs
  · exact past
  · trivial

/-- A step of a backfill that is past the minute, in a table with a candle that is not before it. -/
theorem past_next {table : OhlcTable} (stored : ∃ bucket ∈ table.buckets symbol, minute ≤ bucket)
    (initialHours : ℤ) (event : BackfillEvent) {phase : BackfillPhase}
    (past : phase.Past symbol minute)
    (ranged : ∀ rows own endTime cursor later, event = .answers (some rows) →
      phase = .fetching own endTime cursor later → ∀ row ∈ rows, cursor ≤ row.bucketStart) :
    (phase.next initialHours table event).1.Past symbol minute ∧
      ∀ candle, (phase.next initialHours table event).2 = some candle → candle.symbol = symbol →
        minute < candle.bucketStart := by
  have unwritten : ∀ candle, (none : Option OhlcCandle) = some candle → candle.symbol = symbol →
      minute < candle.bucketStart := fun candle written => by cases written
  fun_cases BackfillPhase.next initialHours table event phase with
  | case1 now own later => exact ⟨trivial, unwritten⟩
  | case2 own endTime later =>
      refine ⟨past_turn ?_, unwritten⟩
      rintro rfl
      obtain ⟨bucket, member, reached⟩ := stored
      exact lt_of_le_of_lt reached (lt_resolveStartTime member endTime initialHours)
  | case3 own endTime later => exact ⟨trivial, unwritten⟩
  | case4 own endTime cursor later => exact ⟨trivial, unwritten⟩
  | case5 rows own endTime cursor later empty => exact ⟨trivial, unwritten⟩
  | case6 rows own endTime cursor later last newest =>
      have onward : own = symbol → ∀ row ∈ rows, minute < row.bucketStart := fun same row member =>
        lt_of_lt_of_le (past same) (ranged rows own endTime cursor later rfl rfl row member)
      refine ⟨⟨fun same => ?_, fun candle member same => ?_⟩, unwritten⟩
      · exact Int.lt_add_one_of_le (onward same last (List.mem_of_getLast? newest)).le
      · obtain ⟨row, listed, rfl⟩ := List.mem_map.mp member
        exact onward same row listed
  | case7 result own endTime candle candles cursor later next =>
      obtain ⟨ahead, behind⟩ := past
      constructor
      · simp only [next]
        cases result.heard with
        | false => trivial
        | true =>
            cases candles with
            | nil => exact past_turn ahead
            | cons second candles =>
                exact ⟨ahead, fun other member => behind other (List.mem_cons_of_mem candle member)⟩
      · intro other written same
        split_ifs at written
        obtain rfl := Option.some.inj written
        exact behind candle List.mem_cons_self same
  | case8 phase => exact ⟨trivial, unwritten⟩
  | case9 event phase => exact ⟨past, unwritten⟩

end BehindSteps

/-! ## What a step does to the table -/

namespace OhlcService

section Fields

variable (s : OhlcService) (symbol : String) (phase : ConsumerPhase) (candle : OhlcCandle)
  (isClosed : Bool)

@[simp] theorem table_enter : (s.enter symbol phase).table = s.table := rfl
@[simp] theorem persisted_enter : (s.enter symbol phase).persisted = s.persisted := rfl
@[simp] theorem published_enter : (s.enter symbol phase).published = s.published := rfl
@[simp] theorem backfills_enter : (s.enter symbol phase).backfills = s.backfills := rfl

@[simp] theorem consumers_enter :
    (s.enter symbol phase).consumers = Function.update s.consumers symbol phase := rfl

@[simp] theorem table_publish : (s.publish candle isClosed).table = s.table := by
  cases isClosed <;> rfl

@[simp] theorem persisted_publish : (s.publish candle isClosed).persisted = s.persisted := by
  cases isClosed <;> rfl

@[simp] theorem backfills_publish : (s.publish candle isClosed).backfills = s.backfills := by
  cases isClosed <;> rfl

@[simp] theorem consumers_publish : (s.publish candle isClosed).consumers = s.consumers := by
  cases isClosed <;> rfl

end Fields

end OhlcService

/-- What a step may do to the table and to the backfills: nothing but to start or to end backfills, a
consumer stores, or a backfill goes on. -/
inductive TableMove (initialHours : ℤ) (s t : OhlcService) (step : OhlcStep) : Prop where
  | keeps (table : t.table = s.table) (persisted : t.persisted = s.persisted)
      (backfills : ∀ phase ∈ t.backfills, phase ∈ s.backfills ∨
        ∃ symbols, phase = .pausing symbols)
  | persists (candle : OhlcCandle) (table : t.table = insertOhlc1m s.table candle)
      (persisted : t.persisted = s.persisted ++ [candle]) (backfills : t.backfills = s.backfills)
  | backfills (task : ℕ) (event : BackfillEvent) (phase : BackfillPhase)
      (step_eq : step = .backfills task event) (found : s.backfills[task]? = some phase)
      (table : t.table = ((phase.next initialHours s.table event).2.map
        (insertOhlc1m s.table)).getD s.table)
      (persisted : t.persisted = s.persisted)
      (backfills : t.backfills = s.backfills.set task (phase.next initialHours s.table event).1)

theorem tableMove (repr : Json → String) (initialHours : ℤ) (s : OhlcService) (step : OhlcStep) :
    TableMove initialHours s (ohlcStep repr initialHours step s) step := by
  have idle : TableMove initialHours s s step := .keeps rfl rfl fun phase member => .inl member
  cases step with
  | restarts symbols => exact .keeps rfl rfl fun phase member => by cases member
  | takes symbol frame =>
      simp only [ohlcStep]
      split
      · exact .keeps rfl rfl fun phase member => .inl member
      · exact .keeps rfl rfl fun phase member => .inl member
      · exact idle
  | persists symbol result =>
      simp only [ohlcStep]
      split
      · next candle at_it =>
          cases result.takes with
          | true => exact .persists candle rfl rfl rfl
          | false => exact .keeps rfl rfl fun phase member => .inl member
      · exact idle
  | publishes symbol result =>
      simp only [ohlcStep]
      split
      · next candle isClosed at_it =>
          cases result.takes with
          | true => exact .keeps (by simp) (by simp) fun phase member => .inl (by simpa using member)
          | false => exact .keeps rfl rfl fun phase member => .inl member
      · exact idle
  | prices symbol result =>
      simp only [ohlcStep]
      split
      · next candle at_it =>
          cases result.takes with
          | true => exact .keeps rfl rfl fun phase member => .inl member
          | false => exact .keeps rfl rfl fun phase member => .inl member
      · exact idle
  | connects symbols =>
      refine .keeps rfl rfl fun phase member => ?_
      rcases List.mem_append.mp member with old | new
      · exact .inl old
      · exact .inr ⟨symbols, List.mem_singleton.mp new⟩
  | backfills task event =>
      simp only [ohlcStep, backfillStep]
      cases found : s.backfills[task]? with
      | none => exact idle
      | some phase => exact .backfills task event phase rfl found rfl rfl rfl

/-! ## What the consumers store -/

section BehindRuns

variable {repr : Json → String} {initialHours : ℤ} {symbol : String} {minute : ℤ}

/-- What is stored for a minute since a point of the run. -/
structure StoredSince (symbol : String) (minute : ℤ) (s t : OhlcService) : Prop where
  before : s.persisted <+: t.persisted
  row : t.table.row symbol minute =
    (lastOf symbol minute (t.persisted.drop s.persisted.length)).or (s.table.row symbol minute)

theorem behind_step {s t : OhlcService} (behind : Behind symbol minute t) {step : OhlcStep}
    (ranged : Ranged t step) (since : StoredSince symbol minute s t) :
    Behind symbol minute (ohlcStep repr initialHours step t) ∧
      StoredSince symbol minute s (ohlcStep repr initialHours step t) := by
  obtain ⟨newest, member, reached⟩ := behind.stored
  generalize moved : ohlcStep repr initialHours step t = u
  have move : TableMove initialHours t u step := moved ▸ tableMove repr initialHours t step
  cases move with
  | keeps table persisted backfills =>
      refine ⟨⟨by rw [table]; exact behind.stored, fun phase listed => ?_⟩,
        ⟨by rw [persisted]; exact since.before, by rw [table, persisted]; exact since.row⟩⟩
      rcases backfills phase listed with old | ⟨symbols, rfl⟩
      · exact behind.past phase old
      · trivial
  | persists candle table persisted backfills =>
      refine ⟨⟨?_, by rw [backfills]; exact behind.past⟩, ?_, ?_⟩
      · rw [table]
        exact ⟨newest, mem_buckets_insert member candle, reached⟩
      · rw [persisted]
        exact since.before.trans (List.prefix_append _ _)
      · rw [table, persisted, List.drop_append_of_le_length since.before.length_le, lastOf_concat,
          row_insertOhlc1m]
        split_ifs
        · rfl
        · exact since.row
  | backfills task event phase step_eq found table persisted backfills =>
      subst step_eq
      obtain ⟨past, written⟩ := past_next behind.stored initialHours event
        (behind.past phase (List.mem_of_getElem? found)) (by
          rintro rows own endTime cursor later rfl rfl
          exact ranged own endTime cursor later found)
      refine ⟨⟨?_, fun other listed => ?_⟩, by rw [persisted]; exact since.before, ?_⟩
      · rw [table]
        cases (phase.next initialHours t.table event).2 with
        | none => exact behind.stored
        | some candle => exact ⟨newest, mem_buckets_insert member candle, reached⟩
      · rw [backfills] at listed
        rcases List.mem_or_eq_of_mem_set listed with old | rfl
        · exact behind.past other old
        · exact past
      · rw [table, persisted, ← since.row]
        cases wrote : (phase.next initialHours t.table event).2 with
        | none => rfl
        | some candle =>
            rw [Option.map_some, Option.getD_some, row_insertOhlc1m, if_neg]
            rintro ⟨own, at_minute⟩
            exact absurd at_minute (written candle wrote own).ne'

/-- **Behind the newest candle, only the consumers store.**  From any point of a run at which no
backfill under way will come to a minute that is not behind the newest stored candle, and in every
order of the steps after it, what is stored for the minute is what a consumer has stored for it last
since then, or else what was stored for it at that point: neither a gap is filled nor a candle
repaired by the backfills that start later. -/
theorem behind_newest (repr : Json → String) (initialHours : ℤ) {symbol : String} {minute : ℤ}
    {s : OhlcService} (behind : Behind symbol minute s) {steps : List OhlcStep}
    (ranged : RunGuarded Ranged (ohlcStep repr initialHours) s steps) :
    (run (ohlcStep repr initialHours) s steps).table.row symbol minute =
      (lastOf symbol minute ((run (ohlcStep repr initialHours) s steps).persisted.drop
        s.persisted.length)).or (s.table.row symbol minute) := by
  have start : StoredSince symbol minute s s :=
    ⟨List.prefix_rfl, by rw [List.drop_length]; rfl⟩
  have invariant := run_invariant
    (fun t => Behind symbol minute t ∧ StoredSince symbol minute s t)
    (fun t step kept met => behind_step kept.1 met kept.2) (s := s) ⟨behind, start⟩ ranged
  exact invariant.2.row

end BehindRuns

/-! ## What is published -/

section Published

variable (repr : Json → String) (frames : String → Fields → Prop)
  (answers : String → KlineRow → Prop)

/-- The feed may report a closed candle. -/
def Reported (candle : OhlcCandle) : Prop :=
  ∃ frame, frames candle.symbol frame ∧ handle repr candle.symbol frame = .candle candle true

/-- REST may answer with a candle. -/
def Answered (candle : OhlcCandle) : Prop :=
  ∃ row, answers candle.symbol row ∧ parseKlineRow candle.symbol row = candle

/-- The feed and REST report what they may. -/
def Allowed (s : OhlcService) : OhlcStep → Prop
  | .takes symbol frame => frames symbol frame
  | .backfills task (.answers (some rows)) => ∀ symbol endTime cursor later,
      s.backfills[task]? = some (.fetching symbol endTime cursor later) →
        ∀ row ∈ rows, answers symbol row
  | _ => True

/-- A closed candle that the feed may report is the only one that is reported for its minute. -/
def Consistent : Prop :=
  ∀ candle, Reported repr frames candle → ∀ other,
    Reported repr frames other ∨ Answered answers other →
      other.symbol = candle.symbol ∧ other.bucketStart = candle.bucketStart → other = candle

/-- What is stored for the minute of a closed candle that was published is that candle. -/
def Agrees (s : OhlcService) : Prop :=
  ∀ message ∈ s.published, message.isClosed = true →
    s.table.row message.candle.symbol message.candle.bucketStart = some message.candle

/-- A candle that the feed may report is stored. -/
structure Held (table : OhlcTable) (candle : OhlcCandle) : Prop where
  reported : Reported repr frames candle
  row : table.row candle.symbol candle.bucketStart = some candle

/-- The candle of a consumer is one that the feed may report, and stored before it is published. -/
def ConsumerPhase.Backed (table : OhlcTable) : ConsumerPhase → Prop
  | .persisting candle => Reported repr frames candle
  | .publishing candle true => Held repr frames table candle
  | _ => True

def BackfillPhase.Backed : BackfillPhase → Prop
  | .storing _ _ candles _ _ => ∀ candle ∈ candles, Answered answers candle
  | _ => True

/-- All that is held or published comes from a frame or an answer. -/
structure Backed (s : OhlcService) : Prop where
  consumers : ∀ symbol, (s.consumers symbol).Backed repr frames s.table
  backfills : ∀ phase ∈ s.backfills, phase.Backed answers
  published : ∀ message ∈ s.published, message.isClosed = true →
    Held repr frames s.table message.candle

end Published

section PublishedSteps

variable {repr : Json → String} {initialHours : ℤ} {frames : String → Fields → Prop}
  {answers : String → KlineRow → Prop}

theorem Held.insert (consistent : Consistent repr frames answers) {table : OhlcTable}
    {candle other : OhlcCandle} (held : Held repr frames table candle)
    (given : Reported repr frames other ∨ Answered answers other) :
    Held repr frames (insertOhlc1m table other) candle := by
  refine ⟨held.reported, ?_⟩
  rw [row_insertOhlc1m]
  split_ifs with same
  · rw [consistent candle held.reported other given same]
  · exact held.row

theorem ConsumerPhase.Backed.insert (consistent : Consistent repr frames answers)
    {table : OhlcTable} {phase : ConsumerPhase} {other : OhlcCandle}
    (backed : phase.Backed repr frames table)
    (given : Reported repr frames other ∨ Answered answers other) :
    phase.Backed repr frames (insertOhlc1m table other) := by
  cases phase with
  | publishing candle isClosed =>
      cases isClosed with
      | true => exact Held.insert consistent backed given
      | false => trivial
  | _ => exact backed

/-- Storing what may be reported. -/
theorem Backed.insert {s : OhlcService} (backed : Backed repr frames answers s)
    {other : OhlcCandle} (persisted : List OhlcCandle) (consistent : Consistent repr frames answers)
    (given : Reported repr frames other ∨ Answered answers other) :
    Backed repr frames answers
      { s with table := insertOhlc1m s.table other, persisted := persisted } where
  consumers symbol := (backed.consumers symbol).insert consistent given
  backfills := backed.backfills
  published message member closed := (backed.published message member closed).insert consistent given

/-- A consumer that goes on. -/
theorem Backed.enter {s : OhlcService} (backed : Backed repr frames answers s) (symbol : String)
    {phase : ConsumerPhase} (next : phase.Backed repr frames s.table) :
    Backed repr frames answers (s.enter symbol phase) where
  consumers other := by
    by_cases same : other = symbol
    · subst same
      rw [OhlcService.consumers_enter, Function.update_self]
      exact next
    · rw [OhlcService.consumers_enter, Function.update_of_ne same]
      exact backed.consumers other
  backfills := backed.backfills
  published := backed.published

theorem Backed.publish {s : OhlcService} (backed : Backed repr frames answers s)
    {candle : OhlcCandle} {isClosed : Bool}
    (held : isClosed = true → Held repr frames s.table candle) :
    Backed repr frames answers (s.publish candle isClosed) := by
  refine ⟨fun symbol => ?_, ?_, fun message member closed => ?_⟩
  · rw [OhlcService.consumers_publish, OhlcService.table_publish]
    exact backed.consumers symbol
  · rw [OhlcService.backfills_publish]
    exact backed.backfills
  · rw [OhlcService.table_publish]
    cases isClosed with
    | true =>
        rcases List.mem_append.mp member with old | new
        · exact backed.published message old closed
        · rw [List.mem_singleton.mp new]
          exact held rfl
    | false =>
        rcases List.mem_append.mp member with old | new
        · exact backed.published message old closed
        · rw [List.mem_singleton.mp new] at closed
          cases closed

/-- A step of a backfill writes what REST may answer. -/
theorem BackfillPhase.Backed.next {phase : BackfillPhase} (backed : phase.Backed answers)
    (initialHours : ℤ) (table : OhlcTable) (event : BackfillEvent)
    (allowed : ∀ rows own endTime cursor later, event = .answers (some rows) →
      phase = .fetching own endTime cursor later → ∀ row ∈ rows, answers own row) :
    (phase.next initialHours table event).1.Backed answers ∧
      ∀ candle, (phase.next initialHours table event).2 = some candle →
        Answered answers candle := by
  have unwritten : ∀ candle, (none : Option OhlcCandle) = some candle → Answered answers candle :=
    fun candle written => by cases written
  have turned (own : String) (endTime cursor : ℤ) (later : List String) :
      (BackfillPhase.turn own endTime cursor later).Backed answers := by
    unfold BackfillPhase.turn
    split_ifs <;> trivial
  fun_cases BackfillPhase.next initialHours table event phase with
  | case2 own endTime later => exact ⟨turned _ _ _ _, unwritten⟩
  | case6 rows own endTime cursor later last newest =>
      refine ⟨fun candle member => ?_, unwritten⟩
      obtain ⟨row, listed, rfl⟩ := List.mem_map.mp member
      exact ⟨row, allowed rows own endTime cursor later rfl rfl row listed, rfl⟩
  | case7 result own endTime candle candles cursor later next =>
      constructor
      · simp only [next]
        cases result.heard with
        | false => trivial
        | true =>
            cases candles with
            | nil => exact turned _ _ _ _
            | cons second candles =>
                exact fun other member => backed other (List.mem_cons_of_mem candle member)
      · intro other written
        split_ifs at written
        obtain rfl := Option.some.inj written
        exact backed candle List.mem_cons_self
  | case9 event phase => exact ⟨backed, unwritten⟩
  | _ => exact ⟨trivial, unwritten⟩

theorem Backed.step (consistent : Consistent repr frames answers) {s : OhlcService}
    (backed : Backed repr frames answers s) {step : OhlcStep}
    (allowed : Allowed frames answers s step) :
    Backed repr frames answers (ohlcStep repr initialHours step s) := by
  cases step with
  | restarts symbols =>
      refine ⟨fun symbol => ?_, fun phase member => absurd member List.not_mem_nil, backed.published⟩
      simp only [ohlcStep]
      split_ifs <;> trivial
  | takes symbol frame =>
      simp only [ohlcStep]
      split
      · next candle at_it handled =>
          obtain rfl := symbol_of_handle handled
          exact backed.enter _ ⟨frame, allowed, handled⟩
      · exact backed.enter symbol trivial
      · exact backed
  | persists symbol result =>
      simp only [ohlcStep]
      split
      · next candle at_it =>
          have reported := backed.consumers symbol
          rw [at_it] at reported
          have stored : Backed repr frames answers (s.persist candle) :=
            backed.insert _ consistent (.inl reported)
          have row := row_insertOhlc1m_self s.table candle
          cases result with
          | done => exact stored.enter symbol ⟨reported, row⟩
          | failed => exact backed.enter symbol trivial
          | unheard => exact stored.enter symbol trivial
      · exact backed
  | publishes symbol result =>
      simp only [ohlcStep]
      split
      · next candle isClosed at_it =>
          have held := backed.consumers symbol
          rw [at_it] at held
          have sent : Backed repr frames answers (s.publish candle isClosed) :=
            backed.publish fun closed => by
              subst closed
              exact held
          cases result with
          | done => exact sent.enter symbol trivial
          | failed => exact backed.enter symbol trivial
          | unheard => exact sent.enter symbol trivial
      · exact backed
  | prices symbol result =>
      simp only [ohlcStep]
      split
      · next candle at_it =>
          have put : Backed repr frames answers (s.putPrice candle) :=
            ⟨backed.consumers, backed.backfills, backed.published⟩
          cases result.takes with
          | true => exact put.enter symbol trivial
          | false => exact backed.enter symbol trivial
      · exact backed
  | connects symbols =>
      refine ⟨backed.consumers, fun phase member => ?_, backed.published⟩
      rcases List.mem_append.mp member with old | new
      · exact backed.backfills phase old
      · rw [List.mem_singleton.mp new]
        trivial
  | backfills task event =>
      simp only [ohlcStep, backfillStep]
      cases found : s.backfills[task]? with
      | none => exact backed
      | some phase =>
          obtain ⟨next, written⟩ := BackfillPhase.Backed.next
            (backed.backfills phase (List.mem_of_getElem? found)) initialHours s.table event (by
              rintro rows own endTime cursor later rfl rfl
              exact allowed own endTime cursor later found)
          have moved : ∀ other ∈ s.backfills.set task (phase.next initialHours s.table event).1,
              other.Backed answers := by
            intro other listed
            rcases List.mem_or_eq_of_mem_set listed with old | rfl
            · exact backed.backfills other old
            · exact next
          show Backed repr frames answers (s.turn task (phase.next initialHours s.table event))
          generalize phase.next initialHours s.table event = turn at written moved
          obtain ⟨phase', candle⟩ := turn
          cases candle with
          | none => exact ⟨backed.consumers, moved, backed.published⟩
          | some candle =>
              have stored := backed.insert s.persisted consistent (.inr (written candle rfl))
              exact ⟨stored.consumers, moved, stored.published⟩

/-- A closed candle that is published. -/
def airing (symbol : String) (frame : Fields) : List OhlcStep :=
  [.restarts [symbol], .takes symbol frame, .persists symbol .done, .publishes symbol .done]

/-- Another one of its symbol, as far as the table. -/
def airingNext (symbol : String) (frame : Fields) : List OhlcStep :=
  [.prices symbol .done, .takes symbol frame, .persists symbol .done]

/-- A backfill that is answered with one candle. -/
def refetching (symbol : String) (now : ℤ) (row : KlineRow) : List OhlcStep :=
  [.connects [symbol], .backfills 0 (.begins now), .backfills 0 (.resolves true),
    .backfills 0 (.answers (some [row])), .backfills 0 (.stores .done)]

/-- Where `airing` comes to. -/
structure Aired (table : OhlcTable) (candle : OhlcCandle) (s : OhlcService) : Prop where
  table : s.table = insertOhlc1m table candle
  published : s.published =
    [⟨.closedCandle candle.symbol candle.bucketStart, candle, true⟩]
  consumer : s.consumers candle.symbol = .pricing candle
  backfills : s.backfills = []

variable (initialHours answers) in
theorem aired_run {candle : OhlcCandle} {frame : Fields} (table : OhlcTable)
    (allowed : frames candle.symbol frame)
    (handled : handle repr candle.symbol frame = .candle candle true) :
    RunGuarded (Allowed frames answers) (ohlcStep repr initialHours) { table := table }
        (airing candle.symbol frame) ∧
      Aired table candle
        (run (ohlcStep repr initialHours) { table := table } (airing candle.symbol frame)) := by
  refine ⟨⟨trivial, allowed, trivial, trivial, trivial⟩, ?_, ?_, ?_, ?_⟩ <;>
    simp [airing, ohlcStep, handled, WriteResult.takes, WriteResult.heard, OhlcService.persist,
      OhlcService.publish]

theorem aired_next {table : OhlcTable} {candle other : OhlcCandle} {s : OhlcService}
    (aired : Aired table candle s) {frame : Fields} (allowed : frames candle.symbol frame)
    (handled : handle repr candle.symbol frame = .candle other true) :
    RunGuarded (Allowed frames answers) (ohlcStep repr initialHours) s
        (airingNext candle.symbol frame) ∧
      let t := run (ohlcStep repr initialHours) s (airingNext candle.symbol frame)
      t.published = s.published ∧ t.table = insertOhlc1m s.table other := by
  refine ⟨⟨trivial, allowed, trivial, trivial⟩, ?_, ?_⟩ <;>
    simp [airingNext, ohlcStep, handled, aired.consumer, WriteResult.takes, WriteResult.heard,
      OhlcService.putPrice, OhlcService.persist]

theorem refetched {s : OhlcService} (none : s.backfills = []) {symbol : String} {now : ℤ}
    {row : KlineRow} (allowed : answers symbol row)
    (gap : resolveStartTime s.table symbol (endTime now) initialHours < endTime now) :
    RunGuarded (Allowed frames answers) (ohlcStep repr initialHours) s
        (refetching symbol now row) ∧
      let t := run (ohlcStep repr initialHours) s (refetching symbol now row)
      t.published = s.published ∧ t.table = insertOhlc1m s.table (parseKlineRow symbol row) := by
  refine ⟨⟨trivial, trivial, trivial, ?_, trivial, trivial⟩, ?_, ?_⟩
  · intro own endTime cursor later found
    simp [ohlcStep, backfillStep, none, BackfillPhase.next, BackfillPhase.turn, gap,
      OhlcService.turn] at found
    simpa [found.1] using allowed
  all_goals simp [refetching, ohlcStep, backfillStep, none, BackfillPhase.next, BackfillPhase.turn,
    gap, OhlcService.turn, WriteResult.takes, WriteResult.heard]

/-- After what is stored, there is a time at which a backfill has something to fetch. -/
theorem exists_gap {table : OhlcTable} {symbol : String} {bucket : ℤ}
    (stored : bucket ∈ table.buckets symbol) (initialHours : ℤ) :
    ∃ now, resolveStartTime table symbol (endTime now) initialHours < endTime now := by
  obtain ⟨last, newest⟩ : ∃ last, (table.buckets symbol).max? = some last :=
    Option.isSome_iff_exists.mp (List.isSome_max?_of_mem stored)
  refine ⟨(last + 3) * 60000000, ?_⟩
  simp only [resolveStartTime, fetchLatestOhlcBucket, newest, endTime]
  omega

/-- **When what is published is what is stored.**  In every run, at every point and in every order
of the steps, whichever writes fail or are not heard of, what is stored for the minute of each closed
candle that was published is that candle, exactly if the feed and REST report one candle for each
minute that the feed reports. -/
theorem published_agrees_iff (repr : Json → String) (initialHours : ℤ)
    (frames : String → Fields → Prop) (answers : String → KlineRow → Prop) (table : OhlcTable) :
    (∀ steps, RunGuarded (Allowed frames answers) (ohlcStep repr initialHours) { table := table }
        steps → Agrees (run (ohlcStep repr initialHours) { table := table } steps)) ↔
      Consistent repr frames answers := by
  constructor
  · rintro agrees candle ⟨frame, allowed, handled⟩ other given ⟨own, at_minute⟩
    obtain ⟨guarded, aired⟩ := aired_run initialHours answers table allowed handled
    generalize reached : run (ohlcStep repr initialHours) { table := table }
      (airing candle.symbol frame) = s at aired
    -- What is written next is stored, while what is published stays.
    have same (steps : List OhlcStep)
        (later : RunGuarded (Allowed frames answers) (ohlcStep repr initialHours) s steps)
        (published : (run (ohlcStep repr initialHours) s steps).published = s.published)
        (written : (run (ohlcStep repr initialHours) s steps).table =
          insertOhlc1m s.table other) : other = candle := by
      subst reached
      have agreed := agrees _ (runGuarded_append.mpr ⟨guarded, later⟩)
        ⟨.closedCandle candle.symbol candle.bucketStart, candle, true⟩
        (by rw [run_append, published, aired.published]; exact List.mem_singleton_self _) rfl
      rw [run_append, written, row_insertOhlc1m, if_pos ⟨own, at_minute⟩] at agreed
      exact Option.some.inj agreed
    rcases given with ⟨frame', allowed', handled'⟩ | ⟨row, allowed', parsed⟩
    · rw [own] at allowed' handled'
      obtain ⟨later, published, written⟩ := aired_next aired allowed' handled'
      exact same _ later published written
    · have stored : candle.bucketStart ∈ s.table.buckets candle.symbol := by
        rw [aired.table]
        exact (mem_buckets_insertOhlc1m rfl).mpr (.inr rfl)
      obtain ⟨now, gap⟩ := exists_gap stored initialHours
      rw [← own] at gap
      obtain ⟨later, published, written⟩ := refetched aired.backfills allowed' gap
      rw [parsed] at written
      exact same _ later published written
  · intro consistent steps allowed
    have start : Backed repr frames answers { table := table } :=
      ⟨fun _ => trivial, fun phase member => absurd member List.not_mem_nil,
        fun message member => absurd member List.not_mem_nil⟩
    have backed := run_invariant (Backed repr frames answers)
      (fun s step kept met => kept.step consistent met) start allowed
    exact fun message member closed => (backed.published message member closed).row

end PublishedSteps

/-! ## A gap that stays -/

/-- Minutes 11 to 14 were missed, and the first candle after them was stored before the backfill of
the connect read the table. -/
def gapped : OhlcService where
  table := twoRows 10 15 (by decide)
  consumers := fun _ => .waiting

/-- The backfill of the connect, seven minutes later. -/
def reconnect : List OhlcStep :=
  [.connects ["BTCUSDT"], .backfills 0 (.begins 1440000000), .backfills 0 (.resolves true),
    .backfills 0 (.answers (some [⟨16, 1, 1, 1, 1, 1⟩, ⟨17, 1, 1, 1, 1, 1⟩])),
    .backfills 0 (.stores .done), .backfills 0 (.stores .done)]

theorem reconnect_ranged : RunGuarded Ranged (ohlcStep (fun _ => "") 24) gapped reconnect := by
  refine ⟨trivial, trivial, trivial, ?_, trivial, trivial, trivial⟩
  intro symbol endTime cursor later found
  obtain rfl : (16 : ℤ) = cursor := by
    injection found with phase
    injection phase
  decide

theorem gap_behind_newest :
    (run (ohlcStep (fun _ => "") 24) gapped reconnect).table.row "BTCUSDT" 12 =
      (lastOf "BTCUSDT" 12 ((run (ohlcStep (fun _ => "") 24) gapped reconnect).persisted.drop
        gapped.persisted.length)).or (gapped.table.row "BTCUSDT" 12) :=
  behind_newest (fun _ => "") 24
    ⟨⟨15, by decide, by decide⟩, fun phase member => absurd member List.not_mem_nil⟩
    reconnect_ranged

end Scalper.Market
