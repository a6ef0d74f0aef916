import Mathlib.Data.List.MinMax
import Scalper.Features.Buffers
import Scalper.Features.Builtins
import Scalper.Lib.Series

/-!
# The live pipeline

The feature engine keeps one candle buffer per symbol and interval, as long as the longest warmup
of its features, and holds one handle on each.  Every closed candle is pushed to the one-minute
buffer of its symbol; then every feature registered there is computed over the last
`warmup_candles` of the buffer, and what it raises is logged and passed over.

`emitted` is what one registered feature gives over a stream of envelopes, any symbols mixed.  By
`emitted_eq` it is a function of the candles of its own symbol alone: after each of them, what the
feature computes on the last `warmup_candles`.
-/

set_option autoImplicit false

namespace Scalper.Features

open Scalper.Lib

/-- `OhlcCandlePayload`; its interval is `1m` and its source `binance`. -/
structure OhlcCandlePayload where
  symbol : String
  bucketStart : ℕ
  openPrice : ℚ
  high : ℚ
  low : ℚ
  close : ℚ
  volume : ℚ
  isClosed : Bool
  deriving DecidableEq

/-- `_wire_to_domain`. -/
def wireToDomain (payload : OhlcCandlePayload) : OhlcCandle where
  symbol := payload.symbol
  interval := "1m"
  bucketStart := payload.bucketStart
  openPrice := payload.openPrice
  high := payload.high
  low := payload.low
  close := payload.close
  volume := payload.volume
  source := "binance"

/-- The features under a key, with the names they are published under. -/
abbrev FeaturesByKey := List (Key × List (String × Feature))

/-- `features_by_key.get(key, [])`. -/
def FeaturesByKey.get (featuresByKey : FeaturesByKey) (key : Key) : List (String × Feature) :=
  (featuresByKey.lookup key).getD []

/-- `capacity_map`: the longest warmup under a key. -/
def capacityMap (featuresByKey : FeaturesByKey) (key : Key) : Option ℤ :=
  (featuresByKey.lookup key).map fun entries =>
    ((entries.map fun entry => entry.2.warmupCandles).foldr max 0 : ℕ)

/-- `FeaturePipeline`: the registered features, the buffers and the handles on them. -/
structure FeaturePipeline where
  featuresByKey : FeaturesByKey
  registry : BufferRegistry OhlcCandle
  handles : Key → Option BufferHandle

/-- What is logged for a feature. -/
inductive PipelineError where
  | buffer (raised : BufferError)
  | compute (raised : ComputeError)
  deriving DecidableEq

/-- What became of one registered feature. -/
structure FeatureOutcome where
  featureName : String
  feature : Feature
  outcome : Except PipelineError FeatureValue

namespace FeaturePipeline

/-- One handle. -/
def acquireHandle (pipeline : FeaturePipeline) (key : Key) : Except BufferError FeaturePipeline :=
  match pipeline.registry.acquire key with
  | .error raised => .error raised
  | .ok (handle, registry) =>
      .ok { pipeline with registry, handles := Function.update pipeline.handles key (some handle) }

/-- `acquire_handles`. -/
def acquireHandles : List Key → FeaturePipeline → Except BufferError FeaturePipeline
  | [], pipeline => .ok pipeline
  | key :: keys, pipeline =>
      match pipeline.acquireHandle key with
      | .error raised => .error raised
      | .ok pipeline => acquireHandles keys pipeline

/-- The pipeline as the lifespan builds it, with empty buffers. -/
def start (featuresByKey : FeaturesByKey) : Except BufferError FeaturePipeline :=
  acquireHandles (featuresByKey.map Prod.fst)
    ⟨featuresByKey, .init (capacityMap featuresByKey), fun _ => none⟩

/-- What a feature computes on the end of its buffer. -/
def computeFeature (registry : BufferRegistry OhlcCandle) (handle : BufferHandle)
    (feature : Feature) : Except PipelineError FeatureValue :=
  match handle.tail registry feature.warmupCandles with
  | .error raised => .error (.buffer raised)
  | .ok tail =>
      match feature.compute tail with
      | .error raised => .error (.compute raised)
      | .ok value => .ok value

/-- `_dispatch`. -/
def dispatch (pipeline : FeaturePipeline) (candle : OhlcCandle) :
    FeaturePipeline × List FeatureOutcome :=
  let key := (candle.symbol, "1m")
  match pipeline.featuresByKey.get key, pipeline.handles key with
  | entry :: entries, some handle =>
      let registry := pipeline.registry.push key candle
      ({ pipeline with registry }, (entry :: entries).map fun registered =>
        ⟨registered.1, registered.2, computeFeature registry handle registered.2⟩)
  | _, _ => (pipeline, [])

/-- `_on_envelope`. -/
def onEnvelope (pipeline : FeaturePipeline) (payload : OhlcCandlePayload) :
    FeaturePipeline × List FeatureOutcome :=
  if payload.isClosed then pipeline.dispatch (wireToDomain payload) else (pipeline, [])

end FeaturePipeline

/-- What the outcomes of a candle hold for the feature in place `i`. -/
def valueAt (i : ℕ) (outcomes : List FeatureOutcome) : Option FeatureValue :=
  outcomes[i]?.bind fun outcome => outcome.outcome.toOption

/-- What the feature in place `i` of a symbol gives over a stream. -/
def emitted (symbol : String) (i : ℕ) :
    FeaturePipeline → List OhlcCandlePayload → List (OhlcCandle × FeatureValue)
  | _, [] => []
  | pipeline, payload :: rest =>
      let (next, outcomes) := pipeline.onEnvelope payload
      (if payload.symbol = symbol then
        ((valueAt i outcomes).map fun value => (wireToDomain payload, value)).toList
      else []) ++ emitted symbol i next rest

/-- What the feature in place `i` gives for an envelope that comes after others. -/
def published (i : ℕ) (pipeline : FeaturePipeline) (before : List OhlcCandlePayload)
    (payload : OhlcCandlePayload) : Option FeatureValue :=
  valueAt i ((run (fun payload pipeline => (pipeline.onEnvelope payload).1) pipeline
    before).onEnvelope payload).2

/-- The closed candles of a symbol. -/
def ownCandles (symbol : String) (stream : List OhlcCandlePayload) : List OhlcCandle :=
  (stream.filter fun payload => payload.isClosed ∧ payload.symbol = symbol).map wireToDomain

/-- What a feature gives after some candles: its value on the last `warmup_candles`, for the last
of them. -/
def valueAfter (feature : Feature) (candles : List OhlcCandle) : Option (OhlcCandle × FeatureValue) :=
  candles.getLast?.bind fun candle =>
    (feature.compute (candles.rtake feature.warmupCandles)).toOption.map fun value => (candle, value)

theorem ownCandles_concat (symbol : String) (stream : List OhlcCandlePayload)
    (payload : OhlcCandlePayload) :
    ownCandles symbol (stream ++ [payload]) =
      if payload.isClosed = true ∧ payload.symbol = symbol
      then ownCandles symbol stream ++ [wireToDomain payload] else ownCandles symbol stream := by
  rw [ownCandles, List.filter_append, List.map_append, ← ownCandles]
  split_ifs with taken
  · have kept : [payload].filter (fun payload => payload.isClosed ∧ payload.symbol = symbol) =
        [payload] := by
      simp [taken]
    rw [kept]
    rfl
  · have dropped : [payload].filter (fun payload => payload.isClosed ∧ payload.symbol = symbol) =
        [] :=
      List.filter_eq_nil_iff.mpr (by simpa using taken)
    rw [dropped, List.map_nil, List.append_nil]

/-! ## The start -/

section Start

variable {key : Key} {pipeline next : FeaturePipeline}

/-- A key with its handle and an empty buffer of the declared length. -/
structure Acquired (key : Key) (pipeline : FeaturePipeline) : Prop where
  handle : pipeline.handles key = some ⟨key, false⟩
  counted : pipeline.registry.count key ≠ 0
  buffer : ∃ capacity : ℤ, pipeline.registry.capacityMap key = some capacity ∧
    pipeline.registry.buffers key = some (.empty capacity.toNat)

/-- A key is untouched, or acquired. -/
def Prepared (key : Key) (pipeline : FeaturePipeline) : Prop :=
  pipeline.registry.count key = 0 ∨ Acquired key pipeline

theorem acquireHandle_eq_ok {acquired : Key} (prepared : Prepared key pipeline)
    (given : pipeline.acquireHandle acquired = .ok next) :
    next.featuresByKey = pipeline.featuresByKey ∧
      next.registry.capacityMap = pipeline.registry.capacityMap ∧
      Prepared key next ∧ (Acquired key pipeline → Acquired key next) ∧
      (key = acquired → Acquired key next) := by
  unfold FeaturePipeline.acquireHandle at given
  cases result : pipeline.registry.acquire acquired with
  | error raised =>
      simp only [result] at given
      cases given
  | ok pair =>
      simp only [result] at given
      cases given
      obtain ⟨handle, pinned, counts, capacity, declared, -, buffers⟩ := acquire_eq_ok result
      by_cases own : key = acquired
      · subst own
        have became : Acquired key { pipeline with
            registry := pair.2
            handles := Function.update pipeline.handles key (some pair.1) } := by
          refine ⟨?_, ?_, ?_⟩
          · simp only [Function.update_self, handle]
          · simp only [counts, if_true]
            exact Nat.succ_ne_zero _
          · rcases prepared with fresh | ⟨-, counted, old, old_declared, old_buffer⟩
            · exact ⟨capacity, by rw [pinned, declared], by rw [buffers, if_pos ⟨rfl, fresh⟩]⟩
            · refine ⟨old, by rw [pinned, old_declared], ?_⟩
              rw [buffers, if_neg fun both => counted both.2, old_buffer]
        exact ⟨rfl, pinned, .inr became, fun _ => became, fun _ => became⟩
      · have kept (held : Acquired key pipeline) : Acquired key { pipeline with
            registry := pair.2
            handles := Function.update pipeline.handles acquired (some pair.1) } := by
          obtain ⟨handle, counted, old, old_declared, old_buffer⟩ := held
          refine ⟨?_, ?_, old, by rw [pinned, old_declared], ?_⟩
          · simp only [Function.update_of_ne own, handle]
          · rw [counts, if_neg own]
            exact counted
          · rw [buffers, if_neg fun both => own both.1, old_buffer]
        refine ⟨rfl, pinned, prepared.imp ?_ kept, kept, fun same => absurd same own⟩
        intro fresh
        rw [counts, if_neg own, fresh]

theorem acquireHandles_eq_ok {keys : List Key} :
    ∀ {pipeline : FeaturePipeline}, Prepared key pipeline →
      FeaturePipeline.acquireHandles keys pipeline = .ok next →
        next.featuresByKey = pipeline.featuresByKey ∧
          next.registry.capacityMap = pipeline.registry.capacityMap ∧
          (Acquired key pipeline → Acquired key next) ∧ (key ∈ keys → Acquired key next) := by
  induction keys with
  | nil =>
      intro pipeline prepared given
      cases given
      exact ⟨rfl, rfl, id, fun listed => absurd listed List.not_mem_nil⟩
  | cons first keys ih =>
      intro pipeline prepared given
      unfold FeaturePipeline.acquireHandles at given
      cases step : pipeline.acquireHandle first with
      | error raised =>
          simp only [step] at given
          cases given
      | ok middle =>
          simp only [step] at given
          obtain ⟨same, pinned, still, kept, own⟩ := acquireHandle_eq_ok prepared step
          obtain ⟨same', pinned', kept', listed⟩ := ih still given
          refine ⟨same'.trans same, pinned'.trans pinned, fun held => kept' (kept held), ?_⟩
          intro member
          rcases List.mem_cons.mp member with here | later
          · exact kept' (own here)
          · exact listed later

end Start

/-- Where the pipeline stands for a symbol: its buffer holds the end of the symbol's candles. -/
structure Standing (featuresByKey : FeaturesByKey) (symbol : String) (own : List OhlcCandle)
    (pipeline : FeaturePipeline) : Prop where
  registered : pipeline.featuresByKey = featuresByKey
  handle : pipeline.handles (symbol, "1m") = some ⟨(symbol, "1m"), false⟩
  buffer : ∃ capacity,
    pipeline.registry.buffers (symbol, "1m") = some ((Deque.empty capacity).appendAll own) ∧
      ∀ entry ∈ featuresByKey.get (symbol, "1m"), entry.2.warmupCandles ≤ capacity

section Standing

variable {featuresByKey : FeaturesByKey} {symbol : String} {own : List OhlcCandle}
  {pipeline : FeaturePipeline}

/-- The pipeline starts with empty buffers. -/
theorem standing_start (started : FeaturePipeline.start featuresByKey = .ok pipeline)
    {registered : String × Feature} (member : registered ∈ featuresByKey.get (symbol, "1m")) :
    Standing featuresByKey symbol [] pipeline := by
  cases found : featuresByKey.lookup (symbol, "1m") with
  | none =>
      rw [FeaturesByKey.get, found] at member
      exact absurd member List.not_mem_nil
  | some entries =>
      have prepared : Prepared (symbol, "1m")
          ⟨featuresByKey, .init (capacityMap featuresByKey), fun _ => none⟩ :=
        .inl rfl
      have key_listed : (symbol, "1m") ∈ featuresByKey.map Prod.fst := by
        obtain ⟨before, after, rfl, -⟩ := List.lookup_eq_some_iff.mp found
        simp
      obtain ⟨same, pinned, -, listed⟩ := acquireHandles_eq_ok prepared started
      obtain ⟨handle, -, capacity, declared, buffer⟩ := listed key_listed
      refine ⟨same, handle, capacity.toNat, buffer, fun entry among => ?_⟩
      rw [pinned] at declared
      simp only [BufferRegistry.init, capacityMap, found, Option.map_some,
        Option.some.injEq] at declared
      rw [FeaturesByKey.get, found] at among
      rw [← declared, Int.toNat_natCast]
      exact List.le_max_of_le' 0 (List.mem_map_of_mem among) le_rfl

/-- A candle of the symbol. -/
theorem dispatch_own (standing : Standing featuresByKey symbol own pipeline)
    (candle : OhlcCandle) (same : candle.symbol = symbol) {i : ℕ} {registered : String × Feature}
    (here : (featuresByKey.get (symbol, "1m"))[i]? = some registered) :
    Standing featuresByKey symbol (own ++ [candle]) (pipeline.dispatch candle).1 ∧
      valueAt i (pipeline.dispatch candle).2 =
        (registered.2.compute ((own ++ [candle]).rtake registered.2.warmupCandles)).toOption := by
  obtain ⟨table, handle, capacity, buffer, large⟩ := standing
  subst same
  cases entries : featuresByKey.get (candle.symbol, "1m") with
  | nil =>
      rw [entries] at here
      exact absurd here (by simp)
  | cons first others =>
      have pushed : (pipeline.registry.push (candle.symbol, "1m") candle).buffers
          (candle.symbol, "1m") = some ((Deque.empty capacity).appendAll (own ++ [candle])) := by
        rw [buffers_push, if_pos rfl, buffer, Deque.appendAll_concat]
        rfl
      simp only [FeaturePipeline.dispatch, table, entries, handle]
      refine ⟨⟨rfl, handle, capacity, pushed, large⟩, ?_⟩
      rw [entries] at here
      have fits := large registered (entries ▸ List.mem_of_getElem? here)
      simp only [valueAt, List.getElem?_map, here, Option.map_some, Option.bind_some,
        FeaturePipeline.computeFeature, BufferHandle.tail, Bool.false_eq_true, if_false]
      rw [tail_eq_rtake pushed, Deque.items_appendAll, Int.toNat_natCast, rtake_rtake fits]
      cases registered.2.compute ((own ++ [candle]).rtake registered.2.warmupCandles) <;> rfl

/-- A candle of another symbol. -/
theorem dispatch_other (standing : Standing featuresByKey symbol own pipeline)
    (candle : OhlcCandle) (other : candle.symbol ≠ symbol) :
    Standing featuresByKey symbol own (pipeline.dispatch candle).1 := by
  have untouched : Standing featuresByKey symbol own
      { pipeline with registry := pipeline.registry.push (candle.symbol, "1m") candle } := by
    obtain ⟨table, handle, capacity, buffer, large⟩ := standing
    refine ⟨table, handle, capacity, ?_, large⟩
    rw [buffers_push, if_neg fun same => other (congrArg Prod.fst same).symm, buffer]
  cases entries : pipeline.featuresByKey.get (candle.symbol, "1m") with
  | nil => simpa only [FeaturePipeline.dispatch, entries] using standing
  | cons first others =>
      cases held : pipeline.handles (candle.symbol, "1m") with
      | none => simpa only [FeaturePipeline.dispatch, entries, held] using standing
      | some handle => simpa only [FeaturePipeline.dispatch, entries, held] using untouched

/-- An envelope that is not a closed candle of the symbol. -/
theorem standing_skipped (standing : Standing featuresByKey symbol own pipeline)
    {payload : OhlcCandlePayload} (skipped : ¬ (payload.isClosed ∧ payload.symbol = symbol)) :
    Standing featuresByKey symbol own (pipeline.onEnvelope payload).1 := by
  unfold FeaturePipeline.onEnvelope
  split_ifs with closed
  · exact dispatch_other standing _ fun same => skipped ⟨closed, same⟩
  · exact standing

/-- Where the pipeline stands after a stream. -/
theorem standing_run (started : FeaturePipeline.start featuresByKey = .ok pipeline) {i : ℕ}
    {registered : String × Feature}
    (here : (featuresByKey.get (symbol, "1m"))[i]? = some registered)
    (stream : List OhlcCandlePayload) :
    Standing featuresByKey symbol (ownCandles symbol stream)
      (run (fun payload pipeline => (pipeline.onEnvelope payload).1) pipeline stream) := by
  induction stream using List.reverseRecOn with
  | nil => exact standing_start started (List.mem_of_getElem? here)
  | append_singleton stream payload ih =>
      rw [run_concat, ownCandles_concat]
      split_ifs with taken
      · rw [FeaturePipeline.onEnvelope, if_pos taken.1]
        exact (dispatch_own ih _ taken.2 here).1
      · exact standing_skipped ih taken

/-- What is given for a closed candle of the symbol. -/
theorem published_eq (started : FeaturePipeline.start featuresByKey = .ok pipeline) {i : ℕ}
    {registered : String × Feature}
    (here : (featuresByKey.get (symbol, "1m"))[i]? = some registered)
    (before : List OhlcCandlePayload) {payload : OhlcCandlePayload}
    (closed : payload.isClosed = true) (same : payload.symbol = symbol) :
    published i pipeline before payload =
      (registered.2.compute ((ownCandles symbol before ++ [wireToDomain payload]).rtake
        registered.2.warmupCandles)).toOption := by
  rw [published, FeaturePipeline.onEnvelope, if_pos closed]
  exact (dispatch_own (standing_run started here before) _ same here).2

theorem valueAfter_concat (feature : Feature) (own : List OhlcCandle) (candle : OhlcCandle) :
    valueAfter feature (own ++ [candle]) =
      (feature.compute ((own ++ [candle]).rtake feature.warmupCandles)).toOption.map
        fun value => (candle, value) := by
  rw [valueAfter, List.getLast?_concat]
  rfl

/-- What a pipeline goes on to give. -/
theorem emitted_of_standing {i : ℕ} {registered : String × Feature}
    (here : (featuresByKey.get (symbol, "1m"))[i]? = some registered)
    (stream : List OhlcCandlePayload) :
    ∀ {own : List OhlcCandle} {pipeline : FeaturePipeline},
      Standing featuresByKey symbol own pipeline →
        emitted symbol i pipeline stream =
          seriesFrom (valueAfter registered.2) own (ownCandles symbol stream) := by
  induction stream with
  | nil => exact fun _ => rfl
  | cons payload rest ih =>
      intro own pipeline standing
      unfold emitted FeaturePipeline.onEnvelope
      cases closed : payload.isClosed with
      | false =>
          have skipped : ownCandles symbol (payload :: rest) = ownCandles symbol rest := by
            simp [ownCandles, closed]
          rw [skipped, ← ih standing]
          simp [valueAt]
      | true =>
          by_cases same : payload.symbol = symbol
          · obtain ⟨next, value⟩ :=
              dispatch_own standing (wireToDomain payload) same here
            have taken : ownCandles symbol (payload :: rest) =
                wireToDomain payload :: ownCandles symbol rest := by
              simp [ownCandles, closed, same]
            rw [taken, seriesFrom, valueAfter_concat, ← ih next]
            simp only [if_true, if_pos same, value]
          · have next := dispatch_other standing (wireToDomain payload) same
            have skipped : ownCandles symbol (payload :: rest) = ownCandles symbol rest := by
              simp [ownCandles, same]
            rw [skipped, ← ih next]
            simp only [if_true, if_neg same, List.nil_append]

/-- **What a registered feature gives over a stream**: after every closed candle of its symbol,
what it computes on the last `warmup_candles` of them, if it computes. -/
theorem emitted_eq (started : FeaturePipeline.start featuresByKey = .ok pipeline) {i : ℕ}
    {registered : String × Feature}
    (here : (featuresByKey.get (symbol, "1m"))[i]? = some registered)
    (stream : List OhlcCandlePayload) :
    emitted symbol i pipeline stream =
      series (valueAfter registered.2) (ownCandles symbol stream) :=
  emitted_of_standing here stream (standing_start started (List.mem_of_getElem? here))

end Standing

end Scalper.Features
