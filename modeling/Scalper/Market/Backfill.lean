import Mathlib.Algebra.Order.Ring.Int
import Mathlib.Data.Rat.Defs
import Scalper.Lib.Dict
import Scalper.Lib.While

/-!
# The backfill of one-minute candles

`ohlc_1m` has one row per symbol, minute and source.  After every connect the backfill asks REST
for the candles between the last stored minute and the last closed one, page by page, and stores
them.  Buckets of one-minute candles are minute boundaries and are counted in minutes here; the
clock is in microseconds.

REST is taken at its word: a `RestService` returns, in order, every closed candle of the requested
range, both ends included, up to a page limit of its own.  The loop then stores a run of minutes
without holes from where it starts (`advanced_step`), but it goes on only while its cursor is
before the last closed minute, which it therefore misses when it is the only one left
(`stored_backfillSymbol`).  And it starts behind the last stored row, so an earlier gap stays.

`backfill_complete_iff` is the exact condition under which no minute is missing afterwards;
`backfill_leaves_last_minute` is a run that leaves the last closed minute out.
-/

set_option autoImplicit false

namespace Scalper.Market

open Scalper.Lib

/-- The source under which the backfill stores. -/
def source : String := "binance"

/-- `_REST_PAGE_LIMIT`. -/
def restPageLimit : ℕ := 1000

/-- `OhlcCandle`; the bucket is in minutes. -/
structure OhlcCandle where
  symbol : String
  bucketStart : ℤ
  openPrice : ℚ
  high : ℚ
  low : ℚ
  close : ℚ
  volume : ℚ

/-- A row of `ohlc_1m`. -/
structure OhlcRow where
  candle : OhlcCandle
  source : String

/-- The primary key. -/
def OhlcRow.key (row : OhlcRow) : String × ℤ × String :=
  (row.candle.symbol, row.candle.bucketStart, row.source)

/-- The table `ohlc_1m`. -/
structure OhlcTable where
  rows : List OhlcRow
  keyed : (rows.map OhlcRow.key).Nodup

/-- The buckets stored for a symbol. -/
def OhlcTable.buckets (table : OhlcTable) (symbol : String) : List ℤ :=
  (table.rows.filter fun row => row.candle.symbol = symbol ∧ row.source = source).map
    fun row => row.candle.bucketStart

/-- `insert_ohlc_1m`: the row of a key becomes this one. -/
def insertOhlc1m (table : OhlcTable) (candle : OhlcCandle) : OhlcTable :=
  ⟨upsert OhlcRow.key ⟨candle, source⟩ table.rows, nodup_keys_upsert table.keyed _⟩

/-- `fetch_latest_ohlc_bucket`. -/
def fetchLatestOhlcBucket (table : OhlcTable) (symbol : String) : Option ℤ :=
  (table.buckets symbol).max?

/-- `_end_time`: the minute before the one of the clock. -/
def endTime (now : ℤ) : ℤ := now / 60000000 - 1

/-- A candle is closed when its minute is over. -/
def Closed (now bucketStart : ℤ) : Prop := (bucketStart + 1) * 60000000 ≤ now

/-- The minutes from `start` on. -/
def minutesFrom (start : ℤ) (count : ℕ) : List ℤ :=
  (List.range count).map fun offset : ℕ => start + offset

/-- A REST service that returns, in order, all closed candles of a range up to its page limit. -/
structure RestService (now : ℤ) where
  pageLimit : ℕ
  positive : 0 < pageLimit
  getKlines (symbol : String) (startTime endTime : ℤ) (limit : ℕ) : List OhlcCandle
  own : ∀ symbol startTime endTime limit, ∀ candle ∈ getKlines symbol startTime endTime limit,
    candle.symbol = symbol
  complete : ∀ symbol startTime endTime limit, Closed now endTime →
    (getKlines symbol startTime endTime limit).map OhlcCandle.bucketStart =
      minutesFrom startTime (min (min limit pageLimit) (endTime + 1 - startTime).toNat)

/-- The size of a page the loop gets. -/
def RestService.pageSize {now : ℤ} (rest : RestService now) : ℕ := min restPageLimit rest.pageLimit

/-- `_persist_page`. -/
def persistPage (table : OhlcTable) (candles : List OhlcCandle) : OhlcTable :=
  candles.foldl insertOhlc1m table

/-- Where the loop is. -/
structure Progress where
  cursor : ℤ
  table : OhlcTable
  persisted : ℕ

/-- The body of the loop. -/
def fetchPage {now : ℤ} (rest : RestService now) (symbol : String) (endTime : ℤ)
    (progress : Progress) : Option Progress :=
  if progress.cursor < endTime then
    let candles := rest.getKlines symbol progress.cursor endTime restPageLimit
    candles.getLast?.map fun last =>
      ⟨last.bucketStart + 1, persistPage progress.table candles,
        progress.persisted + candles.length⟩
  else none

/-- `_resolve_start_time`. -/
def resolveStartTime (table : OhlcTable) (symbol : String) (endTime initialHours : ℤ) : ℤ :=
  match fetchLatestOhlcBucket table symbol with
  | none => endTime - 60 * initialHours
  | some lastBucket => lastBucket + 1

/-- The loop of `_backfill_symbol`, with a bound on its pages. -/
def fetchPages {now : ℤ} (rest : RestService now) (symbol : String) (endTime startTime : ℤ)
    (table : OhlcTable) : Progress :=
  whileSome (fetchPage rest symbol endTime) (endTime - startTime).toNat ⟨startTime, table, 0⟩

/-- `_backfill_symbol`: what the table becomes, and how many candles were stored. -/
def backfillSymbol {now : ℤ} (rest : RestService now) (initialHours : ℤ) (symbol : String)
    (table : OhlcTable) : OhlcTable × ℕ :=
  let startTime := resolveStartTime table symbol (endTime now) initialHours
  if endTime now ≤ startTime then (table, 0)
  else
    let done := fetchPages rest symbol (endTime now) startTime table
    (done.table, done.persisted)

/-! ## The table -/

section Table

variable {table : OhlcTable} {symbol : String}

theorem mem_buckets {bucket : ℤ} :
    bucket ∈ table.buckets symbol ↔ (symbol, bucket, source) ∈ table.rows.map OhlcRow.key := by
  simp only [OhlcTable.buckets, List.mem_map, List.mem_filter, decide_eq_true_eq, OhlcRow.key,
    Prod.mk.injEq]
  constructor
  · rintro ⟨row, ⟨listed, own, from_rest⟩, same⟩
    exact ⟨row, listed, own, same, from_rest⟩
  · rintro ⟨row, listed, own, same, from_rest⟩
    exact ⟨row, ⟨listed, own, from_rest⟩, same⟩

theorem mem_buckets_insertOhlc1m {candle : OhlcCandle} (own : candle.symbol = symbol)
    {bucket : ℤ} : bucket ∈ (insertOhlc1m table candle).buckets symbol ↔
      bucket ∈ table.buckets symbol ∨ bucket = candle.bucketStart := by
  rw [mem_buckets, mem_buckets, insertOhlc1m, mem_map_key_upsert]
  simp [OhlcRow.key, own]

theorem mem_buckets_persistPage {candles : List OhlcCandle} {bucket : ℤ} :
    ∀ {table : OhlcTable}, (∀ candle ∈ candles, candle.symbol = symbol) →
      (bucket ∈ (persistPage table candles).buckets symbol ↔
        bucket ∈ table.buckets symbol ∨ bucket ∈ candles.map OhlcCandle.bucketStart) := by
  induction candles with
  | nil => simp [persistPage]
  | cons candle candles ih =>
      intro table own
      have later := @ih (insertOhlc1m table candle)
        fun other member => own other (List.mem_cons_of_mem candle member)
      change bucket ∈ (persistPage (insertOhlc1m table candle) candles).buckets symbol ↔ _
      rw [later, mem_buckets_insertOhlc1m (own candle List.mem_cons_self), List.map_cons,
        List.mem_cons, or_assoc]

end Table

theorem closed_iff {now bucketStart : ℤ} : Closed now bucketStart ↔ bucketStart ≤ endTime now := by
  unfold Closed endTime
  omega

theorem mem_minutesFrom {start minute : ℤ} {count : ℕ} :
    minute ∈ minutesFrom start count ↔ start ≤ minute ∧ minute < start + count := by
  simp only [minutesFrom, List.mem_map, List.mem_range]
  constructor
  · rintro ⟨offset, within, rfl⟩
    omega
  · rintro ⟨from_start, within⟩
    exact ⟨(minute - start).toNat, by omega, by omega⟩

theorem getLast?_minutesFrom (start : ℤ) (count : ℕ) :
    (minutesFrom start count).getLast? = if count = 0 then none else some (start + count - 1) := by
  cases count with
  | zero => rfl
  | succ count =>
      simp only [minutesFrom, List.range_succ, List.map_append, List.map_singleton,
        List.getLast?_concat, Nat.succ_ne_zero, if_false, Option.some.injEq]
      omega

/-! ## The loop -/

section Loop

variable {now : ℤ} {rest : RestService now} {symbol : String} {progress : Progress}

/-- The number of candles of the next page. -/
def pageCount (rest : RestService now) (progress : Progress) : ℕ :=
  min rest.pageSize (endTime now + 1 - progress.cursor).toNat

/-- A page of the loop. -/
theorem fetchPage_eq_some {next : Progress}
    (fetched : fetchPage rest symbol (endTime now) progress = some next) :
    progress.cursor < endTime now ∧
      next.cursor = progress.cursor + pageCount rest progress ∧
      ∀ bucket, bucket ∈ next.table.buckets symbol ↔
        bucket ∈ progress.table.buckets symbol ∨
          progress.cursor ≤ bucket ∧ bucket < next.cursor := by
  unfold fetchPage at fetched
  split_ifs at fetched with before
  have complete := rest.complete symbol progress.cursor (endTime now) restPageLimit
    (closed_iff.mpr le_rfl)
  have own := rest.own symbol progress.cursor (endTime now) restPageLimit
  obtain ⟨last, is_last, rfl⟩ := Option.map_eq_some_iff.mp fetched
  have last_minute := congrArg List.getLast? complete
  rw [List.getLast?_map, is_last, getLast?_minutesFrom] at last_minute
  split_ifs at last_minute with empty
  · cases last_minute
  have reached : last.bucketStart + 1 = progress.cursor + pageCount rest progress := by
    rw [Option.some.inj last_minute, pageCount, RestService.pageSize]
    omega
  refine ⟨before, reached, fun bucket => ?_⟩
  rw [mem_buckets_persistPage own, complete, mem_minutesFrom, reached]
  rfl

/-- A page is not empty before the last closed minute. -/
theorem fetchPage_eq_none
    (ended : fetchPage rest symbol (endTime now) progress = none) :
    endTime now ≤ progress.cursor := by
  by_contra before
  rw [not_le] at before
  have complete := rest.complete symbol progress.cursor (endTime now) restPageLimit
    (closed_iff.mpr le_rfl)
  unfold fetchPage at ended
  rw [if_pos before] at ended
  have empty := List.getLast?_eq_none_iff.mp (Option.map_eq_none_iff.mp ended)
  rw [empty] at complete
  have size : (minutesFrom progress.cursor _).length = _ := congrArg List.length complete.symm
  rw [minutesFrom, List.length_map, List.length_range] at size
  have positive := rest.positive
  simp only [restPageLimit, List.length_nil, List.map_nil] at size
  omega

/-- How far the loop has come: whole pages up to the last closed minute, or the rest of the range,
which is no whole number of pages. -/
structure Advanced (rest : RestService now) (symbol : String) (startTime : ℤ)
    (table : OhlcTable) (progress : Progress) : Prop where
  from_start : startTime ≤ progress.cursor
  place : progress.cursor ≤ endTime now ∧ (rest.pageSize : ℤ) ∣ progress.cursor - startTime ∨
    progress.cursor = endTime now + 1 ∧ ¬ (rest.pageSize : ℤ) ∣ endTime now - startTime
  stored : ∀ bucket, bucket ∈ progress.table.buckets symbol ↔
    bucket ∈ table.buckets symbol ∨ startTime ≤ bucket ∧ bucket < progress.cursor

theorem pageSize_pos (rest : RestService now) : 0 < rest.pageSize :=
  lt_min (by decide) rest.positive

theorem advanced_step {startTime : ℤ} {table : OhlcTable} {next : Progress}
    (advanced : Advanced rest symbol startTime table progress)
    (fetched : fetchPage rest symbol (endTime now) progress = some next) :
    Advanced rest symbol startTime table next := by
  obtain ⟨before, moved, stored⟩ := fetchPage_eq_some fetched
  obtain ⟨from_start, place, so_far⟩ := advanced
  have positive := pageSize_pos rest
  obtain ⟨-, pages, whole⟩ : progress.cursor ≤ endTime now ∧
      (rest.pageSize : ℤ) ∣ progress.cursor - startTime := by
    rcases place with inside | ⟨past, -⟩
    · exact inside
    · omega
  refine ⟨by omega, ?_, fun bucket => ?_⟩
  · by_cases fits : progress.cursor + rest.pageSize ≤ endTime now
    · have full : pageCount rest progress = rest.pageSize := by
        unfold pageCount
        omega
      left
      refine ⟨by omega, pages + 1, ?_⟩
      rw [moved, full, mul_add_one, ← whole]
      omega
    · have past_end : next.cursor = endTime now + 1 := by
        rw [moved, pageCount]
        omega
      right
      refine ⟨past_end, ?_⟩
      rintro ⟨count, covered⟩
      have more : (rest.pageSize : ℤ) * pages < rest.pageSize * count := by omega
      have no_more : (rest.pageSize : ℤ) * count < rest.pageSize * (pages + 1) := by
        rw [mul_add_one]
        omega
      have nonneg : (0 : ℤ) ≤ rest.pageSize := Int.natCast_nonneg _
      have above := lt_of_mul_lt_mul_left more nonneg
      have below := lt_of_mul_lt_mul_left no_more nonneg
      omega
  · rw [stored, so_far, or_assoc]
    refine or_congr_right ?_
    omega

/-- The loop ends by itself, having stored everything up to its cursor. -/
theorem fetchPages_advanced (rest : RestService now) (symbol : String) {startTime : ℤ}
    (before : startTime ≤ endTime now) (table : OhlcTable) :
    let done := fetchPages rest symbol (endTime now) startTime table
    Advanced rest symbol startTime table done ∧
      fetchPage rest symbol (endTime now) done = none := by
  have start : Advanced rest symbol startTime table ⟨startTime, table, 0⟩ :=
    ⟨le_rfl, .inl ⟨before, by simp⟩, fun bucket => ⟨.inl, fun held => held.elim id fun within =>
      absurd within.2 (not_lt.mpr within.1)⟩⟩
  have kept (progress next : Progress) (advanced : Advanced rest symbol startTime table progress)
      (fetched : fetchPage rest symbol (endTime now) progress = some next) :
      Advanced rest symbol startTime table next :=
    advanced_step advanced fetched
  refine ⟨whileSome_invariant _ kept _ start, ?_⟩
  refine whileSome_done (Advanced rest symbol startTime table)
    (fun progress => (endTime now - progress.cursor).toNat) kept ?_ _ start le_rfl
  intro progress next advanced fetched
  obtain ⟨inside, moved, -⟩ := fetchPage_eq_some fetched
  have positive : 0 < pageCount rest progress := by
    have size := pageSize_pos rest
    unfold pageCount
    omega
  omega

end Loop

/-! ## What is stored afterwards -/

section Backfill

variable {now : ℤ}

/-- Nothing is fetched at or behind the last closed minute; before it, every minute from the start
on is stored, but the last closed one only if the range is no whole number of pages. -/
theorem stored_backfillSymbol (rest : RestService now) (initialHours : ℤ) (symbol : String)
    (table : OhlcTable) (bucket : ℤ) :
    let startTime := resolveStartTime table symbol (endTime now) initialHours
    bucket ∈ (backfillSymbol rest initialHours symbol table).1.buckets symbol ↔
      bucket ∈ table.buckets symbol ∨ startTime ≤ bucket ∧ bucket ≤ endTime now ∧
        (bucket = endTime now → ¬ (rest.pageSize : ℤ) ∣ endTime now - startTime) := by
  intro startTime
  have size := pageSize_pos rest
  by_cases no_gap : endTime now ≤ startTime
  · have unchanged : backfillSymbol rest initialHours symbol table = (table, 0) := if_pos no_gap
    rw [unchanged]
    refine ⟨.inl, fun held => held.elim id ?_⟩
    rintro ⟨from_start, inside, last⟩
    have meets : endTime now - startTime = 0 := by omega
    exact absurd (meets ▸ Int.dvd_zero _) (last (by omega))
  · have fetched : (backfillSymbol rest initialHours symbol table).1 =
        (fetchPages rest symbol (endTime now) startTime table).table :=
      congrArg Prod.fst (if_neg no_gap)
    obtain ⟨⟨-, place, stored⟩, ended⟩ :=
      fetchPages_advanced rest symbol (not_le.mp no_gap).le table
    have reached := fetchPage_eq_none ended
    rw [fetched, stored]
    refine or_congr_right (and_congr_right fun _ => ?_)
    rcases place with ⟨inside, whole⟩ | ⟨past, broken⟩
    · have at_end := le_antisymm inside reached
      rw [at_end] at whole ⊢
      constructor
      · exact fun earlier => ⟨earlier.le, fun last => absurd last earlier.ne⟩
      · exact fun within => lt_of_le_of_ne within.1 fun last => within.2 last whole
    · rw [past]
      exact ⟨fun within => ⟨by omega, fun _ => broken⟩, fun within => by omega⟩

/-- The first minute the backfill answers for. -/
def firstMinute (table : OhlcTable) (symbol : String) (endTime initialHours : ℤ) : ℤ :=
  (table.buckets symbol).min?.getD (endTime - 60 * initialHours)

/-- What the backfill can complete: no minute is missing before the last stored one, and the range
behind it, or the initial one, is no whole number of pages. -/
def Completable (pageSize : ℕ) (endTime initialHours : ℤ) (buckets : List ℤ) : Prop :=
  (buckets = [] → 0 ≤ initialHours → ¬ (pageSize : ℤ) ∣ 60 * initialHours) ∧
  ∀ first last, buckets.min? = some first → buckets.max? = some last →
    (∀ minute, first ≤ minute → minute ≤ last → minute ≤ endTime → minute ∈ buckets) ∧
    (last < endTime → ¬ (pageSize : ℤ) ∣ endTime - (last + 1))

/-- **When the backfill leaves no minute out.**  The loop ends by itself.  Afterwards every minute
from the first stored one, or from the initial hours before the last closed one, through the last
closed one has a row, exactly when no minute was missing between the stored rows and the range to
fetch is no whole number of pages. -/
theorem backfill_complete_iff (rest : RestService now) (initialHours : ℤ) (symbol : String)
    (table : OhlcTable) :
    let startTime := resolveStartTime table symbol (endTime now) initialHours
    (startTime < endTime now → fetchPage rest symbol (endTime now)
      (fetchPages rest symbol (endTime now) startTime table) = none) ∧
    ((∀ minute, firstMinute table symbol (endTime now) initialHours ≤ minute → Closed now minute →
        minute ∈ (backfillSymbol rest initialHours symbol table).1.buckets symbol) ↔
      Completable rest.pageSize (endTime now) initialHours (table.buckets symbol)) := by
  intro startTime
  have stored (minute : ℤ) := stored_backfillSymbol rest initialHours symbol table minute
  refine ⟨fun gap => (fetchPages_advanced rest symbol gap.le table).2, ?_⟩
  simp only [closed_iff, stored, Completable, firstMinute, resolveStartTime,
    fetchLatestOhlcBucket]
  cases newest : (table.buckets symbol).max? with
  | none =>
      have empty := List.max?_eq_none_iff.mp newest
      simp only [empty, List.min?_nil, Option.getD_none, List.not_mem_nil, false_or]
      have range : endTime now - (endTime now - 60 * initialHours) = 60 * initialHours := by omega
      rw [range]
      constructor
      · intro complete
        refine ⟨fun _ nonneg => ?_, fun first last oldest => by simp at oldest⟩
        exact (complete (endTime now) (by omega) le_rfl).2.2 rfl
      · rintro ⟨broken, -⟩ minute from_start inside
        exact ⟨from_start, inside, fun _ => broken trivial (by omega)⟩
  | some last =>
      obtain ⟨last_stored, newest_last⟩ := List.max?_eq_some_iff.mp newest
      have nonempty : table.buckets symbol ≠ [] := List.ne_nil_of_mem last_stored
      obtain ⟨first, oldest⟩ := Option.isSome_iff_exists.mp (List.isSome_min?_of_mem last_stored)
      obtain ⟨-, oldest_first⟩ := List.min?_eq_some_iff.mp oldest
      have ordered := oldest_first last last_stored
      simp only [oldest, Option.getD_some, Option.some.injEq, nonempty, false_implies, true_and]
      constructor
      · intro complete
        rintro _ _ rfl rfl
        constructor
        · intro minute from_first to_last inside
          rcases complete minute from_first inside with held | ⟨behind, -⟩
          · exact held
          · omega
        · intro gap
          rcases complete (endTime now) (by omega) le_rfl with held | ⟨-, -, broken⟩
          · exact absurd (newest_last _ held) (by omega)
          · exact broken rfl
      · intro completable minute from_first inside
        obtain ⟨no_hole, broken⟩ := completable first last rfl rfl
        by_cases to_last : minute ≤ last
        · exact .inl (no_hole minute from_first to_last inside)
        · exact .inr ⟨by omega, inside, fun _ => broken (by omega)⟩

/-- A service with a candle for every minute. -/
def steadyRest (now : ℤ) : RestService now where
  pageLimit := 1000
  positive := Nat.succ_pos 999
  getKlines symbol startTime endTime limit :=
    (minutesFrom startTime (min (min limit 1000) (endTime + 1 - startTime).toNat)).map
      fun minute => ⟨symbol, minute, 1, 1, 1, 1, 1⟩
  own := by
    intro symbol startTime endTime limit candle listed
    obtain ⟨minute, -, rfl⟩ := List.mem_map.mp listed
    rfl
  complete := by
    intro symbol startTime endTime limit closed
    rw [List.map_map]
    exact List.map_id _

/-- A table with a row for each of two minutes. -/
def twoRows (first second : ℤ) (distinct : first ≠ second) : OhlcTable where
  rows := [⟨⟨"BTCUSDT", first, 1, 1, 1, 1, 1⟩, source⟩,
    ⟨⟨"BTCUSDT", second, 1, 1, 1, 1, 1⟩, source⟩]
  keyed := by simp [OhlcRow.key, distinct]

/-- At 00:13 the minute 00:12 is closed.  With 00:10 and 00:11 stored it is left out; with 00:07
and 00:10 stored it is fetched, but 00:08 is left out. -/
theorem backfill_leaves_last_minute :
    Closed 780000000 12 ∧
    12 ∉ (backfillSymbol (steadyRest 780000000) 24 "BTCUSDT"
      (twoRows 10 11 (by decide))).1.buckets "BTCUSDT" ∧
    8 ∉ (backfillSymbol (steadyRest 780000000) 24 "BTCUSDT"
      (twoRows 7 10 (by decide))).1.buckets "BTCUSDT" := by
  refine ⟨?_, ?_, ?_⟩
  · unfold Closed
    decide
  · decide
  · decide

end Backfill

end Scalper.Market
