import Scalper.Features.Backfill

/-!
# The start of the feature engine

The lifespan acquires the buffers, loads the end of the stored candles into each of them, and
subscribes to the closed candles after that.  Every query and the subscription are waits: the market
service goes on storing and publishing in between, and a frame published while the subscription does
not stand is not delivered later.

From the subscription on a window is what was read and then what was heard.  It is the window of a
pipeline that has never stopped exactly if what was read ends like what was published before the
subscription, as far as the window still reaches back (`window_eq_iff`); the frames heard push the
difference out.  Where the market service stores every candle before it publishes it, in order, this
is a matter of one candle: the newest row that was read is the last candle published before the
subscription (`seamless_iff`).
-/

set_option autoImplicit false

namespace Scalper.Features

open Scalper.Lib

/-! ## The rows -/

/-- The keys of `_INTERVAL_TO_TABLE`. -/
def storedIntervals : List String := ["1m", "5m", "15m", "1h", "4h", "1d"]

/-- The primary key of the tables, with the interval of the table. -/
def OhlcCandle.rowKey (candle : OhlcCandle) : String × String × ℕ × String :=
  (candle.symbol, candle.interval, candle.bucketStart, candle.source)

/-- The rows of a key, from the one source. -/
def storedRows (key : Key) (stored : List OhlcCandle) : List OhlcCandle :=
  stored.filter fun candle =>
    candle.symbol = key.1 ∧ candle.interval = key.2 ∧ candle.source = "binance"

/-- `fetch_warmup_window`: the newest `n` rows of a key, oldest first.  It raises for an interval
without a table. -/
def fetchWarmupWindow (stored : List OhlcCandle) (key : Key) (n : ℕ) : Option (List OhlcCandle) :=
  if key.2 ∈ storedIntervals then
    some (((storedRows key stored).insertionSort fun earlier later =>
      earlier.bucketStart ≤ later.bucketStart).rtake n)
  else none

/-- `max(feature.warmup_candles for _, feature in entries)`. -/
def warmupLength (entries : List (String × Feature)) : ℕ :=
  (entries.map fun entry => entry.2.warmupCandles).foldr max 0

/-- What `warmup_load` pushes for one key: a read that raises is logged and passed over. -/
def warmupRows (stored : List OhlcCandle) (key : Key) (entries : List (String × Feature))
    (fails : Bool) : List OhlcCandle :=
  if fails then [] else (fetchWarmupWindow stored key (warmupLength entries)).getD []

/-! ## The lifespan -/

namespace FeaturePipeline

/-- The pushes of `warmup_load` for one key. -/
def pushAll (pipeline : FeaturePipeline) (key : Key) (rows : List OhlcCandle) : FeaturePipeline :=
  { pipeline with
    registry := rows.foldl (fun registry candle => registry.push key candle) pipeline.registry }

/-- The last `n` candles of the one-minute buffer of a symbol, which a feature computes on. -/
def window (pipeline : FeaturePipeline) (symbol : String) (n : ℕ) : List OhlcCandle :=
  match pipeline.handles (symbol, "1m") with
  | none => []
  | some handle => ((handle.tail pipeline.registry n).toOption).getD []

end FeaturePipeline

/-- Where the lifespan is: not running, between `acquire_handles` and `start_consuming` with the keys
that are still to be loaded, or behind `start_consuming`. -/
inductive EngineStage where
  | down
  | warming (pipeline : FeaturePipeline) (keys : FeaturesByKey)
  | consuming (pipeline : FeaturePipeline)

/-- The candles stored, the engine, and what has happened: the frames published before the
subscription that stands and those since, and the rows loaded in this start. -/
structure FeatureEngine where
  stored : List OhlcCandle
  stage : EngineStage
  missed : List OhlcCandlePayload
  heard : List OhlcCandlePayload
  loaded : Key → List OhlcCandle

/-- An engine that has not been started, and frames that have not been published. -/
def FeatureEngine.init (stored : List OhlcCandle) : FeatureEngine :=
  ⟨stored, .down, [], [], fun _ => []⟩

/-- The frames published. -/
def FeatureEngine.frames (s : FeatureEngine) : List OhlcCandlePayload := s.missed ++ s.heard

namespace FeatureEngine

/-- The features of a symbol that frames are dispatched to. -/
def registered (s : FeatureEngine) (symbol : String) : List (String × Feature) :=
  match s.stage with
  | .consuming pipeline => pipeline.featuresByKey.get (symbol, "1m")
  | _ => []

/-- The window of a symbol that the next frame is put behind. -/
def window (s : FeatureEngine) (symbol : String) (n : ℕ) : List OhlcCandle :=
  match s.stage with
  | .consuming pipeline => pipeline.window symbol n
  | _ => []

/-- What the feature in place `i` of a symbol gives for the frames to come. -/
def emits (s : FeatureEngine) (symbol : String) (i : ℕ) (later : List OhlcCandlePayload) :
    List (OhlcCandle × FeatureValue) :=
  match s.stage with
  | .consuming pipeline => emitted symbol i pipeline later
  | _ => []

end FeatureEngine

/-- What happens: the market service stores a candle or publishes a frame, and the lifespan takes a
step. -/
inductive EngineMove where
  | stores (candle : OhlcCandle)
  | publishes (payload : OhlcCandlePayload)
  | starts (featuresByKey : FeaturesByKey)
  | loads (fails : Bool)
  | subscribes
  | stops

def engineMove : EngineMove → FeatureEngine → FeatureEngine
  | .stores candle, s => { s with stored := upsert OhlcCandle.rowKey candle s.stored }
  | .publishes payload, s =>
      match s.stage with
      | .consuming pipeline =>
          { s with
            stage := .consuming (pipeline.onEnvelope payload).1
            heard := s.heard ++ [payload] }
      | _ => { s with missed := s.missed ++ [payload] }
  | .starts featuresByKey, s =>
      match s.stage, FeaturePipeline.start featuresByKey with
      | .down, .ok pipeline =>
          { s with stage := .warming pipeline featuresByKey, loaded := fun _ => [] }
      | _, _ => s
  | .loads fails, s =>
      match s.stage with
      | .warming pipeline ((key, entries) :: keys) =>
          let rows := warmupRows s.stored key entries fails
          { s with
            stage := .warming (pipeline.pushAll key rows) keys
            loaded := Function.update s.loaded key (s.loaded key ++ rows) }
      | _ => s
  | .subscribes, s =>
      match s.stage with
      | .warming pipeline [] => { s with stage := .consuming pipeline }
      | _ => s
  | .stops, s => { s with stage := .down, missed := s.frames, heard := [] }

/-! ## What the buffers hold -/

theorem ownCandles_append (symbol : String) (stream later : List OhlcCandlePayload) :
    ownCandles symbol (stream ++ later) = ownCandles symbol stream ++ ownCandles symbol later := by
  rw [ownCandles, List.filter_append, List.map_append]
  rfl

section Buffers

variable {featuresByKey : FeaturesByKey} {symbol : String} {own : List OhlcCandle}
  {pipeline : FeaturePipeline}

/-- The rows of a key go to its buffer, and to no other. -/
theorem standing_pushAll (standing : Standing featuresByKey symbol own pipeline) (key : Key)
    (rows : List OhlcCandle) :
    Standing featuresByKey symbol (if key = (symbol, "1m") then own ++ rows else own)
      (pipeline.pushAll key rows) := by
  induction rows using List.reverseRecOn with
  | nil => simpa [FeaturePipeline.pushAll] using standing
  | append_singleton rows candle ih =>
      obtain ⟨table, handle, capacity, buffer, large⟩ := ih
      refine ⟨table, handle, capacity, ?_, large⟩
      simp only [FeaturePipeline.pushAll, List.foldl_append, List.foldl_cons, List.foldl_nil,
        buffers_push] at buffer ⊢
      rw [buffer]
      by_cases same : key = (symbol, "1m")
      · rw [if_pos same, if_pos same, if_pos same.symm, ← List.append_assoc,
          Deque.appendAll_concat]
        rfl
      · rw [if_neg same, if_neg same, if_neg (Ne.symm same)]

/-- The window of a feature is the end of what its buffer was fed. -/
theorem Standing.window (standing : Standing featuresByKey symbol own pipeline)
    {registered : String × Feature} (member : registered ∈ featuresByKey.get (symbol, "1m")) :
    pipeline.window symbol registered.2.warmupCandles = own.rtake registered.2.warmupCandles := by
  obtain ⟨-, handle, capacity, buffer, large⟩ := standing
  simp only [FeaturePipeline.window, handle, BufferHandle.tail, Bool.false_eq_true, if_false]
  rw [tail_eq_rtake buffer, Deque.items_appendAll, Int.toNat_natCast,
    rtake_rtake (large registered member)]
  rfl

theorem featuresByKey_onEnvelope (payload : OhlcCandlePayload) :
    (pipeline.onEnvelope payload).1.featuresByKey = pipeline.featuresByKey := by
  unfold FeaturePipeline.onEnvelope
  split_ifs with closed
  · unfold FeaturePipeline.dispatch
    dsimp only
    split <;> rfl
  · rfl

theorem featuresByKey_start (started : FeaturePipeline.start featuresByKey = .ok pipeline) :
    pipeline.featuresByKey = featuresByKey := by
  have untouched : Prepared ("", "1m")
      ⟨featuresByKey, .init (capacityMap featuresByKey), fun _ => none⟩ :=
    .inl rfl
  exact (acquireHandles_eq_ok untouched started).1

/-- A frame that the subscription delivers. -/
theorem standing_onEnvelope (standing : Standing featuresByKey symbol own pipeline)
    {registered : String × Feature} (member : registered ∈ featuresByKey.get (symbol, "1m"))
    (payload : OhlcCandlePayload) :
    Standing featuresByKey symbol (own ++ ownCandles symbol [payload])
      (pipeline.onEnvelope payload).1 := by
  obtain ⟨i, here⟩ := List.mem_iff_getElem?.mp member
  have counted := ownCandles_concat symbol [] payload
  rw [List.nil_append] at counted
  rw [counted]
  split_ifs with taken
  · rw [FeaturePipeline.onEnvelope, if_pos taken.1]
    exact (dispatch_own standing _ taken.2 here).1
  · rw [show ownCandles symbol [] = [] from rfl, List.append_nil]
    exact standing_skipped standing taken

end Buffers

/-- What is loaded for one key, at any key. -/
theorem update_append_apply (loaded : Key → List OhlcCandle) (key other : Key)
    (rows : List OhlcCandle) : Function.update loaded key (loaded key ++ rows) other =
      if key = other then loaded other ++ rows else loaded other := by
  by_cases same : key = other
  · rw [if_pos same, same, Function.update_self]
  · rw [if_neg same, Function.update_of_ne (Ne.symm same)]

/-! ## What was read and what was heard -/

section Follows

variable {s : FeatureEngine} {symbol : String}

/-- The buffers of a symbol with a registered feature hold what was loaded and heard. -/
def Follows (symbol : String) (s : FeatureEngine) : Prop :=
  match s.stage with
  | .down => s.heard = []
  | .warming pipeline _ => s.heard = [] ∧
      ∀ registered ∈ pipeline.featuresByKey.get (symbol, "1m"),
        Standing pipeline.featuresByKey symbol (s.loaded (symbol, "1m")) pipeline
  | .consuming pipeline => ∀ registered ∈ pipeline.featuresByKey.get (symbol, "1m"),
      Standing pipeline.featuresByKey symbol
        (s.loaded (symbol, "1m") ++ ownCandles symbol s.heard) pipeline

theorem follows_step (symbol : String) (s : FeatureEngine) (move : EngineMove)
    (follows : Follows symbol s) : Follows symbol (engineMove move s) := by
  obtain ⟨stored, stage, missed, heard, loaded⟩ := s
  cases move with
  | stores candle => exact follows
  | publishes payload =>
      cases stage with
      | down => exact follows
      | warming pipeline keys => exact follows
      | consuming pipeline =>
          intro registered member
          rw [featuresByKey_onEnvelope] at member ⊢
          have next := standing_onEnvelope (follows registered member) member payload
          rw [List.append_assoc, ← ownCandles_append] at next
          exact next
  | starts featuresByKey =>
      cases stage with
      | down =>
          simp only [engineMove]
          cases started : FeaturePipeline.start featuresByKey with
          | error raised => exact follows
          | ok pipeline =>
              refine ⟨follows, fun registered member => ?_⟩
              rw [featuresByKey_start started] at member ⊢
              exact standing_start started member
      | warming pipeline keys => exact follows
      | consuming pipeline => exact follows
  | loads fails =>
      cases stage with
      | down => exact follows
      | warming pipeline keys =>
          cases keys with
          | nil => exact follows
          | cons entry keys =>
              obtain ⟨key, entries⟩ := entry
              obtain ⟨silent, standing⟩ := follows
              refine ⟨silent, fun registered member => ?_⟩
              have next := standing_pushAll (standing registered member) key
                (warmupRows stored key entries fails)
              rw [← update_append_apply] at next
              exact next
      | consuming pipeline => exact follows
  | subscribes =>
      cases stage with
      | down => exact follows
      | warming pipeline keys =>
          cases keys with
          | nil =>
              obtain ⟨silent, standing⟩ := follows
              intro registered member
              have unheard : loaded (symbol, "1m") ++ ownCandles symbol heard =
                  loaded (symbol, "1m") := by
                rw [show heard = [] from silent, show ownCandles symbol [] = [] from rfl,
                  List.append_nil]
              exact unheard ▸ standing registered member
          | cons entry keys => exact follows
      | consuming pipeline => exact follows
  | stops => rfl

theorem follows_run (symbol : String) (stored : List OhlcCandle) (moves : List EngineMove) :
    Follows symbol (run engineMove (.init stored) moves) :=
  run_invariant_of_always (Follows symbol) (follows_step symbol) moves rfl

end Follows

/-- What is given from some point on depends on the window there. -/
theorem seriesFrom_valueAfter_congr {feature : Feature} {own other : List OhlcCandle}
    (same : own.rtake feature.warmupCandles = other.rtake feature.warmupCandles)
    (later : List OhlcCandle) :
    seriesFrom (valueAfter feature) own later = seriesFrom (valueAfter feature) other later := by
  induction later generalizing own other with
  | nil => rfl
  | cons candle later ih =>
      have still : (own ++ [candle]).rtake feature.warmupCandles =
          (other ++ [candle]).rtake feature.warmupCandles := by
        have shorter := Nat.sub_le feature.warmupCandles [candle].length
        rw [rtake_append_inj, ← rtake_rtake shorter own, same, rtake_rtake shorter]
      rw [seriesFrom, seriesFrom, ih still, valueAfter_concat, valueAfter_concat,
        still]

/-- A feature that frames are dispatched to, and the pipeline that dispatches. -/
theorem exists_consuming {stored : List OhlcCandle} {moves : List EngineMove} {symbol : String}
    {registered : String × Feature}
    (member : registered ∈ (run engineMove (.init stored) moves).registered symbol) :
    let s := run engineMove (.init stored) moves
    ∃ pipeline : FeaturePipeline, s.stage = .consuming pipeline ∧
      registered ∈ pipeline.featuresByKey.get (symbol, "1m") ∧
      Standing pipeline.featuresByKey symbol
        (s.loaded (symbol, "1m") ++ ownCandles symbol s.heard) pipeline := by
  intro s
  have follows : Follows symbol s := follows_run symbol stored moves
  cases stage : s.stage with
  | down => exact absurd member (by rw [FeatureEngine.registered, stage]; exact List.not_mem_nil)
  | warming pipeline keys =>
      exact absurd member (by rw [FeatureEngine.registered, stage]; exact List.not_mem_nil)
  | consuming pipeline =>
      rw [FeatureEngine.registered, stage] at member
      rw [Follows, stage] at follows
      exact ⟨pipeline, rfl, member, follows registered member⟩

theorem window_eq_rtake {stored : List OhlcCandle} {moves : List EngineMove} {symbol : String}
    {registered : String × Feature}
    (member : registered ∈ (run engineMove (.init stored) moves).registered symbol) :
    let s := run engineMove (.init stored) moves
    s.window symbol registered.2.warmupCandles =
      (s.loaded (symbol, "1m") ++ ownCandles symbol s.heard).rtake registered.2.warmupCandles := by
  intro s
  obtain ⟨pipeline, stage, listed, standing⟩ := exists_consuming member
  rw [← standing.window listed]
  simp only [FeatureEngine.window, s, stage]

theorem emits_eq {stored : List OhlcCandle} {moves : List EngineMove} {symbol : String} {i : ℕ}
    {registered : String × Feature}
    (here : ((run engineMove (.init stored) moves).registered symbol)[i]? = some registered)
    (later : List OhlcCandlePayload) :
    let s := run engineMove (.init stored) moves
    s.emits symbol i later = seriesFrom (valueAfter registered.2)
      (s.loaded (symbol, "1m") ++ ownCandles symbol s.heard) (ownCandles symbol later) := by
  intro s
  obtain ⟨pipeline, stage, -, standing⟩ := exists_consuming (List.mem_of_getElem? here)
  simp only [FeatureEngine.registered, stage] at here
  rw [← emitted_of_standing here later standing]
  simp only [FeatureEngine.emits, s, stage]

/-- **The windows of a restarted engine.**  In every run, with any number of starts: the window of a
registered feature after the frames heard is that of a pipeline that has heard all frames published,
exactly if the rows loaded end like the frames missed as far as the window reaches back behind the
frames heard; and then the two give the same values from there on. -/
theorem window_eq_iff (stored : List OhlcCandle) (moves : List EngineMove)
    {featuresByKey : FeaturesByKey} {symbol : String} {i : ℕ} {registered : String × Feature}
    {unbroken : FeaturePipeline}
    (same : (run engineMove (.init stored) moves).registered symbol =
      featuresByKey.get (symbol, "1m"))
    (here : (featuresByKey.get (symbol, "1m"))[i]? = some registered)
    (started : FeaturePipeline.start featuresByKey = .ok unbroken) :
    let s := run engineMove (.init stored) moves
    let unbroken := run (fun payload pipeline => (pipeline.onEnvelope payload).1) unbroken s.frames
    let w := registered.2.warmupCandles
    let behind := w - (ownCandles symbol s.heard).length
    (s.window symbol w = unbroken.window symbol w ↔
      (s.loaded (symbol, "1m")).rtake behind = (ownCandles symbol s.missed).rtake behind) ∧
    (s.window symbol w = unbroken.window symbol w → ∀ later,
      s.emits symbol i later = emitted symbol i unbroken later) := by
  intro s unbroken w behind
  have member := List.mem_of_getElem? here
  have reference := standing_run started here s.frames
  have published : ownCandles symbol s.frames =
      ownCandles symbol s.missed ++ ownCandles symbol s.heard :=
    ownCandles_append symbol _ _
  rw [published] at reference
  rw [window_eq_rtake (same ▸ member), reference.window member]
  refine ⟨rtake_append_inj, fun equal later => ?_⟩
  rw [emits_eq (same ▸ here), emitted_of_standing here later reference]
  exact seriesFrom_valueAfter_congr equal _

/-- One symbol with a moving average of two closes. -/
def twoCloses : FeaturesByKey :=
  [(("BTCUSDT", "1m"),
    [("ind.btcusdt.1m.ema_2", EmaFeature.toFeature ⟨2, Nat.two_pos, "1m"⟩)])]

def twoClosesPipeline : FeaturePipeline where
  featuresByKey := twoCloses
  registry :=
    { capacityMap := capacityMap twoCloses
      buffers := Function.update (fun _ => none) ("BTCUSDT", "1m") (some (.empty 2))
      counts := Function.update (fun _ => none) ("BTCUSDT", "1m") (some 1) }
  handles := Function.update (fun _ => none) ("BTCUSDT", "1m") (some ⟨("BTCUSDT", "1m"), false⟩)

/-- The candle of a minute. -/
def minuteTick (minute : ℕ) : OhlcCandlePayload := tick (60000000 * minute) minute 1

/-- A start that reads two candles; one is published before it subscribes, and one after that. -/
def gappedStart : List EngineMove :=
  [.starts twoCloses, .loads false, .stores (wireToDomain (minuteTick 2)),
    .publishes (minuteTick 2), .subscribes, .stores (wireToDomain (minuteTick 3)),
    .publishes (minuteTick 3)]

/-- The candles of the first two minutes. -/
def twoStored : List OhlcCandle := [wireToDomain (minuteTick 0), wireToDomain (minuteTick 1)]

/-- The candle between is missing from the window. -/
theorem gap_in_window :
    (run engineMove (.init twoStored) gappedStart).window "BTCUSDT" 2 ≠
      (run (fun payload pipeline => (pipeline.onEnvelope payload).1) twoClosesPipeline
        (run engineMove (.init twoStored) gappedStart).frames).window "BTCUSDT" 2 := by
  intro same
  have compared := (@window_eq_iff twoStored gappedStart twoCloses "BTCUSDT" 0 _
    twoClosesPipeline rfl rfl rfl).1.mp same
  revert compared
  decide +kernel

/-! ## Behind a market service that stores before it publishes -/

section Orderly

variable {symbol : String}

/-- The candles of a symbol are stored one after the other in time, and published in this order, each
after it is stored; `history` of them are never published.  A mapping of features has an entry for
every key. -/
def Orderly (symbol : String) (history : ℕ) (s : FeatureEngine) : EngineMove → Prop
  | .stores candle => candle ∈ storedRows (symbol, "1m") [candle] →
      ∀ earlier ∈ storedRows (symbol, "1m") s.stored, earlier.bucketStart < candle.bucketStart
  | .publishes payload => ∀ candle ∈ ownCandles symbol [payload],
      (storedRows (symbol, "1m") s.stored)[history + (ownCandles symbol s.frames).length]? =
        some candle
  | .starts featuresByKey => (featuresByKey.map Prod.fst).Nodup
  | _ => True

instance Orderly.decidable (symbol : String) (history : ℕ) (s : FeatureEngine) :
    ∀ move, Decidable (Orderly symbol history s move)
  | .stores _ => inferInstanceAs (Decidable (_ ∈ _ → ∀ _ ∈ _, _))
  | .publishes _ => inferInstanceAs (Decidable (∀ _ ∈ _, _))
  | .starts _ => inferInstanceAs (Decidable (List.Nodup _))
  | .loads _ => .isTrue trivial
  | .subscribes => .isTrue trivial
  | .stops => .isTrue trivial

/-- What was loaded for a symbol is the end of a beginning of its rows, as long as its features
need. -/
def Loaded (symbol : String) (s : FeatureEngine) (featuresByKey : FeaturesByKey) : Prop :=
  ∃ (rows : List OhlcCandle) (n : ℕ), rows <+: storedRows (symbol, "1m") s.stored ∧
    s.loaded (symbol, "1m") = rows.rtake n ∧
    ∀ registered ∈ featuresByKey.get (symbol, "1m"), registered.2.warmupCandles ≤ n

/-- What holds of the loading, at every stage of the lifespan. -/
def StageLoaded (symbol : String) (s : FeatureEngine) : Prop :=
  match s.stage with
  | .down => True
  | .warming pipeline keys => Loaded symbol s pipeline.featuresByKey ∧
      (keys.map Prod.fst).Nodup ∧
      ∀ entry ∈ keys, entry.1 = (symbol, "1m") →
        s.loaded (symbol, "1m") = [] ∧ pipeline.featuresByKey.get (symbol, "1m") = entry.2
  | .consuming pipeline => Loaded symbol s pipeline.featuresByKey

/-- Where an orderly run is, for a symbol that has had these rows. -/
structure InOrder (symbol : String) (history : List OhlcCandle) (s : FeatureEngine) : Prop where
  ascending : (storedRows (symbol, "1m") s.stored).Pairwise fun earlier later =>
    earlier.bucketStart < later.bucketStart
  published : history ++ ownCandles symbol s.frames <+: storedRows (symbol, "1m") s.stored
  loaded : StageLoaded symbol s

theorem warmupCandles_le_warmupLength {entries : List (String × Feature)}
    {registered : String × Feature} (member : registered ∈ entries) :
    registered.2.warmupCandles ≤ warmupLength entries :=
  List.le_max_of_le' 0 (List.mem_map_of_mem (f := fun entry => entry.2.warmupCandles) member) le_rfl

theorem Loaded.empty {s : FeatureEngine} (featuresByKey : FeaturesByKey)
    (empty : s.loaded (symbol, "1m") = []) : Loaded symbol s featuresByKey :=
  ⟨[], warmupLength (featuresByKey.get (symbol, "1m")), List.nil_prefix, by rw [empty, List.rtake_nil],
    fun _ => warmupCandles_le_warmupLength⟩

/-- The rows of a symbol after a candle is stored. -/
theorem storedRows_upsert (key : Key) (candle : OhlcCandle) (stored : List OhlcCandle)
    (newest : candle ∈ storedRows key [candle] → ∀ earlier ∈ storedRows key stored,
      earlier.bucketStart < candle.bucketStart) :
    storedRows key (upsert OhlcCandle.rowKey candle stored) =
      storedRows key stored ++ storedRows key [candle] := by
  have onKey (x y : OhlcCandle) (same : x.rowKey = y.rowKey) :
      decide (x.symbol = key.1 ∧ x.interval = key.2 ∧ x.source = "binance") =
        decide (y.symbol = key.1 ∧ y.interval = key.2 ∧ y.source = "binance") := by
    simp only [OhlcCandle.rowKey, Prod.mk.injEq] at same
    rw [same.1, same.2.1, same.2.2.2]
  unfold storedRows at newest ⊢
  rw [filter_upsert onKey]
  by_cases own : candle.symbol = key.1 ∧ candle.interval = key.2 ∧ candle.source = "binance"
  · have among : [candle].filter (fun candle =>
        candle.symbol = key.1 ∧ candle.interval = key.2 ∧ candle.source = "binance") = [candle] := by
      simp [own]
    rw [among] at newest ⊢
    rw [if_pos (decide_eq_true own)]
    refine upsert_of_notMem fun known => ?_
    obtain ⟨earlier, member, same⟩ := List.mem_map.mp known
    have before := newest List.mem_cons_self earlier member
    simp only [OhlcCandle.rowKey, Prod.mk.injEq] at same
    omega
  · have none_own : [candle].filter (fun candle =>
        candle.symbol = key.1 ∧ candle.interval = key.2 ∧ candle.source = "binance") = [] := by
      simp [own]
    rw [none_own, if_neg (by simpa using own), List.append_nil]

theorem Loaded.mono {s s' : FeatureEngine} {featuresByKey : FeaturesByKey}
    (held : Loaded symbol s featuresByKey)
    (longer : storedRows (symbol, "1m") s.stored <+: storedRows (symbol, "1m") s'.stored)
    (same : s'.loaded = s.loaded) : Loaded symbol s' featuresByKey := by
  obtain ⟨rows, n, within, loaded, covers⟩ := held
  exact ⟨rows, n, within.trans longer, same ▸ loaded, covers⟩

/-- The next item of a list behind a beginning of it. -/
theorem concat_isPrefix_of_getElem? {α : Type} {xs all : List α} {x : α} (within : xs <+: all)
    (next : all[xs.length]? = some x) : xs ++ [x] <+: all := by
  obtain ⟨rest, rfl⟩ := within
  rw [List.getElem?_append_right le_rfl, Nat.sub_self] at next
  cases rest with
  | nil => cases next
  | cons y rest =>
      obtain rfl := Option.some.inj next
      exact ⟨rest, by rw [List.append_assoc, List.singleton_append]⟩

/-- The rows that are read are the newest. -/
theorem fetchWarmupWindow_of_ascending {stored : List OhlcCandle}
    (ascending : (storedRows (symbol, "1m") stored).Pairwise fun earlier later =>
      earlier.bucketStart < later.bucketStart) (n : ℕ) :
    fetchWarmupWindow stored (symbol, "1m") n = some ((storedRows (symbol, "1m") stored).rtake n) := by
  have sorted := List.Pairwise.insertionSort_eq (ascending.imp fun less => less.le)
  have minutes : "1m" ∈ storedIntervals := by decide
  rw [fetchWarmupWindow, if_pos minutes, sorted]

theorem frames_publishes {s : FeatureEngine} (follows : Follows symbol s)
    (payload : OhlcCandlePayload) :
    (engineMove (.publishes payload) s).frames = s.frames ++ [payload] := by
  obtain ⟨stored, stage, missed, heard, loaded⟩ := s
  cases stage with
  | down =>
      have silent : heard = [] := follows
      simp [engineMove, FeatureEngine.frames, silent]
  | warming pipeline keys =>
      have silent : heard = [] := follows.1
      simp [engineMove, FeatureEngine.frames, silent]
  | consuming pipeline => simp [engineMove, FeatureEngine.frames]

theorem get_of_mem {featuresByKey : FeaturesByKey} (distinct : (featuresByKey.map Prod.fst).Nodup)
    {entry : Key × List (String × Feature)} (member : entry ∈ featuresByKey) :
    featuresByKey.get entry.1 = entry.2 := by
  induction featuresByKey with
  | nil => cases member
  | cons first others ih =>
      rw [List.map_cons, List.nodup_cons] at distinct
      rw [FeaturesByKey.get, List.lookup_cons]
      rcases List.mem_cons.mp member with rfl | later
      · simp
      · have other : entry.1 ≠ first.1 := fun same =>
          distinct.1 (same ▸ List.mem_map_of_mem later)
        rw [beq_eq_false_iff_ne.mpr other, ← ih distinct.2 later]
        rfl

/-- A move that stores nothing and publishes nothing leaves the order as it is. -/
theorem InOrder.of_same {history : List OhlcCandle} {s s' : FeatureEngine}
    (inOrder : InOrder symbol history s) (stored : s'.stored = s.stored)
    (frames : s'.frames = s.frames) (loaded : StageLoaded symbol s') : InOrder symbol history s' :=
  ⟨stored ▸ inOrder.ascending, by rw [stored, frames]; exact inOrder.published, loaded⟩

theorem inOrder_stores {history : List OhlcCandle} {s : FeatureEngine} {candle : OhlcCandle}
    (inOrder : InOrder symbol history s)
    (newest : candle ∈ storedRows (symbol, "1m") [candle] →
      ∀ earlier ∈ storedRows (symbol, "1m") s.stored, earlier.bucketStart < candle.bucketStart) :
    InOrder symbol history (engineMove (.stores candle) s) := by
  have rows := storedRows_upsert (symbol, "1m") candle s.stored newest
  have longer : storedRows (symbol, "1m") s.stored <+:
      storedRows (symbol, "1m") (upsert OhlcCandle.rowKey candle s.stored) :=
    ⟨_, rows.symm⟩
  obtain ⟨ascending, published, loaded⟩ := inOrder
  refine ⟨?_, published.trans longer, ?_⟩
  · rw [engineMove, rows, List.pairwise_append]
    refine ⟨ascending, List.Pairwise.filter _ (List.pairwise_singleton _ _), ?_⟩
    intro earlier among later own
    obtain rfl := List.mem_singleton.mp (List.mem_of_mem_filter own)
    exact newest own earlier among
  · obtain ⟨stored, stage, missed, heard, held⟩ := s
    cases stage with
    | down => trivial
    | warming pipeline keys => exact ⟨loaded.1.mono longer rfl, loaded.2⟩
    | consuming pipeline => exact Loaded.mono loaded longer rfl

theorem inOrder_publishes {history : List OhlcCandle} {s : FeatureEngine}
    {payload : OhlcCandlePayload} (follows : Follows symbol s) (inOrder : InOrder symbol history s)
    (oldest : ∀ candle ∈ ownCandles symbol [payload],
      (storedRows (symbol, "1m") s.stored)[history.length +
        (ownCandles symbol s.frames).length]? = some candle) :
    InOrder symbol history (engineMove (.publishes payload) s) := by
  have frames := frames_publishes follows payload
  obtain ⟨ascending, published, loaded⟩ := inOrder
  have stored : (engineMove (.publishes payload) s).stored = s.stored := by
    simp only [engineMove]
    split <;> rfl
  refine ⟨stored ▸ ascending, ?_, ?_⟩
  · rw [stored, frames, ownCandles_append, ← List.append_assoc]
    rcases own : ownCandles symbol [payload] with _ | ⟨candle, others⟩
    · rw [List.append_nil]
      exact published
    · have single : others = [] := by
        have length : (ownCandles symbol [payload]).length ≤ 1 := by
          rw [ownCandles, List.length_map]
          exact List.length_filter_le _ _
        rw [own, List.length_cons] at length
        exact List.eq_nil_of_length_eq_zero (by omega)
      subst single
      refine concat_isPrefix_of_getElem? published ?_
      rw [List.length_append]
      exact oldest candle (own ▸ List.mem_cons_self)
  · obtain ⟨rows, stage, missed, heard, held⟩ := s
    cases stage with
    | down => trivial
    | warming pipeline keys => exact loaded
    | consuming pipeline =>
        change Loaded symbol _ (pipeline.onEnvelope payload).1.featuresByKey
        rw [featuresByKey_onEnvelope]
        exact loaded

theorem inOrder_loads {history : List OhlcCandle} {s : FeatureEngine}
    (inOrder : InOrder symbol history s) (fails : Bool) :
    InOrder symbol history (engineMove (.loads fails) s) := by
  obtain ⟨stored, stage, missed, heard, held⟩ := s
  cases stage with
  | down => exact inOrder
  | consuming pipeline => exact inOrder
  | warming pipeline keys =>
      cases keys with
      | nil => exact inOrder
      | cons entry keys =>
          obtain ⟨key, entries⟩ := entry
          refine inOrder.of_same rfl rfl ?_
          obtain ⟨loaded, distinct, unloaded⟩ := inOrder.loaded
          rw [List.map_cons, List.nodup_cons] at distinct
          by_cases same : key = (symbol, "1m")
          · subst same
            obtain ⟨empty, table⟩ := unloaded _ List.mem_cons_self rfl
            refine ⟨?_, distinct.2, fun later among again =>
              absurd (List.mem_map.mpr ⟨later, among, again⟩) distinct.1⟩
            have fed : (engineMove (.loads fails) ⟨stored, .warming pipeline
                (((symbol, "1m"), entries) :: keys), missed, heard, held⟩).loaded (symbol, "1m") =
                warmupRows stored (symbol, "1m") entries fails := by
              refine (update_append_apply held _ _ _).trans ?_
              rw [if_pos rfl, show held (symbol, "1m") = [] from empty, List.nil_append]
            cases fails with
            | true => exact .empty _ fed
            | false =>
                refine ⟨_, warmupLength entries, List.prefix_rfl, ?_, fun registered member => ?_⟩
                · rw [fed, warmupRows, fetchWarmupWindow_of_ascending inOrder.ascending]
                  rfl
                · have among : registered ∈ pipeline.featuresByKey.get (symbol, "1m") := member
                  rw [table] at among
                  exact warmupCandles_le_warmupLength among
          · have kept : (engineMove (.loads fails) ⟨stored, .warming pipeline
                ((key, entries) :: keys), missed, heard, held⟩).loaded (symbol, "1m") =
                held (symbol, "1m") :=
              (update_append_apply held _ _ _).trans (if_neg same)
            obtain ⟨rows, n, within, ends, covers⟩ := loaded
            refine ⟨⟨rows, n, within, kept.trans ends, covers⟩, distinct.2,
              fun later among again => ?_⟩
            obtain ⟨empty, table⟩ := unloaded later (List.mem_cons_of_mem _ among) again
            exact ⟨kept.trans empty, table⟩

theorem inOrder_starts {history : List OhlcCandle} {s : FeatureEngine}
    (inOrder : InOrder symbol history s) {featuresByKey : FeaturesByKey}
    (distinct : (featuresByKey.map Prod.fst).Nodup) :
    InOrder symbol history (engineMove (.starts featuresByKey) s) := by
  obtain ⟨stored, stage, missed, heard, held⟩ := s
  cases stage with
  | warming pipeline keys => exact inOrder
  | consuming pipeline => exact inOrder
  | down =>
      simp only [engineMove]
      cases started : FeaturePipeline.start featuresByKey with
      | error raised => exact inOrder
      | ok pipeline =>
          refine inOrder.of_same rfl rfl ⟨.empty _ rfl, distinct, fun entry member own => ⟨rfl, ?_⟩⟩
          rw [featuresByKey_start started, ← own]
          exact get_of_mem distinct member

theorem inOrder_step {history : List OhlcCandle} {s : FeatureEngine} {move : EngineMove}
    (follows : Follows symbol s) (inOrder : InOrder symbol history s)
    (orderly : Orderly symbol history.length s move) :
    InOrder symbol history (engineMove move s) := by
  cases move with
  | stores candle => exact inOrder_stores inOrder orderly
  | publishes payload => exact inOrder_publishes follows inOrder orderly
  | starts featuresByKey => exact inOrder_starts inOrder orderly
  | loads fails => exact inOrder_loads inOrder fails
  | subscribes =>
      obtain ⟨stored, stage, missed, heard, held⟩ := s
      cases stage with
      | down => exact inOrder
      | consuming pipeline => exact inOrder
      | warming pipeline keys =>
          cases keys with
          | nil => exact inOrder.of_same rfl rfl inOrder.loaded.1
          | cons entry keys => exact inOrder
  | stops =>
      refine inOrder.of_same rfl ?_ trivial
      simp [engineMove, FeatureEngine.frames]

theorem inOrder_run {stored : List OhlcCandle} {moves : List EngineMove}
    (ascending : (storedRows (symbol, "1m") stored).Pairwise fun earlier later =>
      earlier.bucketStart < later.bucketStart)
    (orderly : RunGuarded (Orderly symbol (storedRows (symbol, "1m") stored).length) engineMove
      (.init stored) moves) :
    InOrder symbol (storedRows (symbol, "1m") stored) (run engineMove (.init stored) moves) := by
  have start : InOrder symbol (storedRows (symbol, "1m") stored) (.init stored) :=
    ⟨ascending, by simp [FeatureEngine.init, FeatureEngine.frames, ownCandles], trivial⟩
  exact (run_invariant
    (fun s => Follows symbol s ∧ InOrder symbol (storedRows (symbol, "1m") stored) s)
    (fun s move held met => ⟨follows_step symbol s move held.1, inOrder_step held.1 held.2 met⟩)
    ⟨follows_run symbol stored [], start⟩ orderly).2

/-- **When a start is seamless.**  Behind a market service that stores every candle before it
publishes it, in order: the window of a registered feature after the frames heard is the end of the
candles published, with those stored before them, exactly if the frames heard fill it or the newest
row that was loaded is the last candle published before the subscription. -/
theorem seamless_iff {stored : List OhlcCandle} {moves : List EngineMove}
    (ascending : (storedRows (symbol, "1m") stored).Pairwise fun earlier later =>
      earlier.bucketStart < later.bucketStart)
    (orderly : RunGuarded (Orderly symbol (storedRows (symbol, "1m") stored).length) engineMove
      (.init stored) moves) {registered : String × Feature}
    (member : registered ∈ (run engineMove (.init stored) moves).registered symbol) :
    let s := run engineMove (.init stored) moves
    let history := storedRows (symbol, "1m") stored
    let w := registered.2.warmupCandles
    s.window symbol w = (history ++ ownCandles symbol s.frames).rtake w ↔
      w ≤ (ownCandles symbol s.heard).length ∨
        (s.loaded (symbol, "1m")).getLast? = (history ++ ownCandles symbol s.missed).getLast? := by
  intro s history w
  have inOrder : InOrder symbol history s := inOrder_run ascending orderly
  obtain ⟨pipeline, stage, listed, -⟩ := exists_consuming member
  have loaded : StageLoaded symbol s := inOrder.loaded
  rw [StageLoaded, stage] at loaded
  obtain ⟨rows, n, within, ends, covers⟩ := loaded
  have long : w ≤ n := covers registered listed
  have published : history ++ ownCandles symbol s.frames =
      (history ++ ownCandles symbol s.missed) ++ ownCandles symbol s.heard := by
    rw [List.append_assoc, ← ownCandles_append]
    rfl
  have earlier : history ++ ownCandles symbol s.missed <+: storedRows (symbol, "1m") s.stored :=
    (List.prefix_append _ _).trans (published ▸ inOrder.published)
  have distinct : (storedRows (symbol, "1m") s.stored).Nodup :=
    inOrder.ascending.imp fun less same => by rw [same] at less; exact lt_irrefl _ less
  rw [window_eq_rtake member, published, rtake_append_inj, ends,
    rtake_rtake ((Nat.sub_le _ _).trans long), rtake_inj_of_beginnings distinct within earlier,
    Nat.sub_eq_zero_iff_le]
  rcases Nat.eq_zero_or_pos n with none_kept | positive
  · have filled : w ≤ (ownCandles symbol s.heard).length := by omega
    exact ⟨fun _ => .inl filled, fun _ => .inl filled⟩
  · rw [getLast?_rtake positive]

theorem gap_not_seamless :
    (run engineMove (.init twoStored) gappedStart).window "BTCUSDT" 2 ≠
      (storedRows ("BTCUSDT", "1m") twoStored ++ ownCandles "BTCUSDT"
        (run engineMove (.init twoStored) gappedStart).frames).rtake 2 := by
  intro same
  have compared := (@seamless_iff "BTCUSDT" twoStored gappedStart (by decide +kernel)
    (by decide +kernel) _ (List.mem_singleton.mpr rfl)).mp same
  revert compared
  decide +kernel

end Orderly

end Scalper.Features
