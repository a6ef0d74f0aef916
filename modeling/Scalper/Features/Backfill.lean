import Mathlib.Data.List.Sort
import Mathlib.Tactic.Tauto
import Scalper.Features.Persistence
import Scalper.Features.Session

/-!
# Backfilled features and live features

`backfill_features` computes one feature over the stored candles of a symbol, with a deque of its
own, and writes the same rows as the live pipeline: it waits until its deque is full, where the
pipeline lets the indicator refuse a short window.  They part where an indicator is undefined on a
full window: the pipeline logs the error and goes on with the next candle, the backfill lets it
pass, and ends.

`backfill_eq_live_iff` says when the rows are the same, for a stream without gaps: always, except
for the session price, where no candle without volume may be followed by one with volume.
`backfill_stops` is the smallest such stream.
-/

set_option autoImplicit false

namespace Scalper.Features

open Scalper.Lib

section Backfill

variable (float : ℚ → ℚ) (jsonText : List (String × SubValue) → String)

/-- The conversion of `_backfill_one_feature`. -/
def backfillValue (value : FeatureValue) : Scoring.FeatureValue where
  valueNum := value.valueNum.map float
  valueBool := value.valueBool
  valueJson := value.valueJson.map fun fields => jsonText (floatFields float fields)

/-- `fetch_ohlc_range`, on the one-minute candles of one source. -/
def fetchOhlcRange (stored : List OhlcCandle) (symbol : String) (fromDt toDt : ℕ) :
    List OhlcCandle :=
  (stored.filter fun candle => candle.symbol = symbol ∧ fromDt ≤ candle.bucketStart ∧
    candle.bucketStart ≤ toDt).insertionSort fun earlier later =>
      earlier.bucketStart ≤ later.bucketStart

/-- The row of a backfilled value. -/
def backfillRow (featureName symbol : String) (feature : Feature) (candle : OhlcCandle)
    (value : FeatureValue) : FeatureUpdate where
  featureName := featureName
  symbol := symbol
  computedAt := candle.bucketStart + oneMinute
  value := backfillValue float jsonText value
  sourceVersion := feature.sourceVersion

/-- The loop of `_backfill_one_feature`: what it raises or how many rows it inserted, and the
table. -/
def backfillLoop (featureName symbol : String) (feature : Feature) :
    Deque OhlcCandle → ℕ → List FeatureUpdate → List OhlcCandle →
      Except ComputeError ℕ × List FeatureUpdate
  | _, inserted, features, [] => (.ok inserted, features)
  | buf, inserted, features, candle :: rest =>
      let buf := buf.append candle
      if buf.items.length < feature.warmupCandles then
        backfillLoop featureName symbol feature buf inserted features rest
      else
        match feature.compute buf.items with
        | .error raised => (.error raised, features)
        | .ok value =>
            backfillLoop featureName symbol feature buf (inserted + 1) (insertFeature features
              (backfillRow float jsonText featureName symbol feature candle value)) rest

/-- `_backfill_one_feature`, into an empty table. -/
def backfillOneFeature (featureName symbol : String) (feature : Feature)
    (stored : List OhlcCandle) (fromDt toDt : ℕ) : Except ComputeError ℕ × List FeatureUpdate :=
  backfillLoop float jsonText featureName symbol feature (.empty feature.warmupCandles) 0 []
    (fetchOhlcRange stored symbol fromDt toDt)

/-- The rows the live pipeline writes for the feature in place `i` of a symbol. -/
def liveRows (featureName : String) (feature : Feature) (symbol : String) (i : ℕ)
    (pipeline : FeaturePipeline) (stream : List OhlcCandlePayload) : List FeatureUpdate :=
  (emitted symbol i pipeline stream).foldl (fun features computed => insertFeature features
    (buildUpdate float jsonText featureName feature computed.2 computed.1)) []

end Backfill

/-- The closed candles of a stream, as the table `ohlc_1m` holds them. -/
def storedCandles (stream : List OhlcCandlePayload) : List OhlcCandle :=
  (stream.filter OhlcCandlePayload.isClosed).map wireToDomain

/-- The candles of a symbol follow each other minute by minute. -/
def GapFree (symbol : String) (stream : List OhlcCandlePayload) : Prop :=
  (ownCandles symbol stream).IsChain fun candle next =>
    next.bucketStart = candle.bucketStart + oneMinute

/-- What a feature makes of some candles: nothing while they are too few, then a value for the
last of them, or an error. -/
def outcomeAfter (feature : Feature) (candles : List OhlcCandle) :
    Option (Except ComputeError (OhlcCandle × FeatureValue)) :=
  if candles.length < feature.warmupCandles then none
  else candles.getLast?.map fun candle =>
    (feature.compute (candles.rtake feature.warmupCandles)).map fun value => (candle, value)

/-! ## The two loops -/

section Loops

variable {float : ℚ → ℚ} {jsonText : List (String × SubValue) → String}

theorem backfillValue_eq (value : FeatureValue) :
    backfillValue float jsonText value = wireValue float jsonText value := by
  cases value <;> rfl

/-- The rows of the backfill are those of its values until one raises. -/
theorem backfillLoop_eq (featureName symbol : String) (feature : Feature)
    (rest : List OhlcCandle) :
    ∀ (done : List OhlcCandle) (inserted : ℕ) (features : List FeatureUpdate),
      (backfillLoop float jsonText featureName symbol feature
          ((Deque.empty feature.warmupCandles).appendAll done) inserted features rest).2 =
        (seriesUntilFrom (outcomeAfter feature) done rest).foldl (fun features computed =>
          insertFeature features
            (backfillRow float jsonText featureName symbol feature computed.1 computed.2))
          features := by
  induction rest with
  | nil => exact fun _ _ _ => rfl
  | cons candle rest ih =>
      intro done inserted features
      have items : (((Deque.empty feature.warmupCandles).appendAll done).append candle).items =
          (done ++ [candle]).rtake feature.warmupCandles := by
        rw [← Deque.appendAll_concat, Deque.items_appendAll]
      have size := length_rtake feature.warmupCandles (done ++ [candle])
      rw [backfillLoop, seriesUntilFrom, outcomeAfter, List.getLast?_concat, items]
      by_cases short : (done ++ [candle]).length < feature.warmupCandles
      · rw [if_pos (by omega), if_pos short, ← Deque.appendAll_concat]
        exact ih (done ++ [candle]) inserted features
      · rw [if_neg (by omega), if_neg short]
        cases feature.compute ((done ++ [candle]).rtake feature.warmupCandles) with
        | error raised => rfl
        | ok value =>
            rw [← Deque.appendAll_concat]
            exact ih (done ++ [candle]) (inserted + 1) _

/-- An indicator that refuses short windows is passed over while there are too few candles. -/
theorem series_valueAfter {feature : Feature}
    (refuses : ∀ window : List OhlcCandle, window.length < feature.warmupCandles →
      ∃ raised, feature.compute window = .error raised) (candles : List OhlcCandle) :
    series (valueAfter feature) candles = seriesPast (outcomeAfter feature) candles := by
  rw [seriesPast]
  congr 1
  funext done
  unfold valueAfter outcomeAfter
  split_ifs with short
  · obtain ⟨raised, refused⟩ := refuses (done.rtake feature.warmupCandles)
      (by rw [length_rtake]; omega)
    rw [refused]
    cases done.getLast? <;> rfl
  · cases done.getLast? with
    | none => rfl
    | some candle => cases feature.compute (done.rtake feature.warmupCandles) <;> rfl

end Loops

/-! ## Streams without gaps -/

section GapFree

variable {symbol : String} {stream : List OhlcCandlePayload} {feature : Feature}

theorem symbol_of_own {candle : OhlcCandle} (own : candle ∈ ownCandles symbol stream) :
    candle.symbol = symbol := by
  obtain ⟨payload, among, rfl⟩ := List.mem_map.mp own
  exact (of_decide_eq_true (List.mem_filter.mp among).2).2

theorem GapFree.pairwise (gapFree : GapFree symbol stream) :
    (ownCandles symbol stream).Pairwise fun earlier later =>
      earlier.bucketStart < later.bucketStart := by
  have ascending : (ownCandles symbol stream).IsChain fun earlier later =>
      earlier.bucketStart < later.bucketStart :=
    List.IsChain.imp (fun earlier later (next : later.bucketStart = earlier.bucketStart + _) =>
      next ▸ Nat.lt_add_of_pos_right (by decide)) gapFree
  have trans : IsTrans OhlcCandle fun earlier later => earlier.bucketStart < later.bucketStart :=
    ⟨fun _ _ _ => lt_trans⟩
  exact List.isChain_iff_pairwise.mp ascending

theorem GapFree.nodup (gapFree : GapFree symbol stream) :
    ((ownCandles symbol stream).map OhlcCandle.bucketStart).Nodup :=
  List.pairwise_map.mpr (gapFree.pairwise.imp fun less => less.ne)

/-- The backfill reads the symbol's candles in order. -/
theorem fetchOhlcRange_storedCandles (gapFree : GapFree symbol stream) {fromDt toDt : ℕ}
    (covered : ∀ candle ∈ ownCandles symbol stream,
      fromDt ≤ candle.bucketStart ∧ candle.bucketStart ≤ toDt) :
    fetchOhlcRange (storedCandles stream) symbol fromDt toDt = ownCandles symbol stream := by
  have selected : (storedCandles stream).filter (fun candle => candle.symbol = symbol ∧
      fromDt ≤ candle.bucketStart ∧ candle.bucketStart ≤ toDt) = ownCandles symbol stream := by
    have within : (ownCandles symbol stream).filter (fun candle =>
        fromDt ≤ candle.bucketStart ∧ candle.bucketStart ≤ toDt) = ownCandles symbol stream :=
      List.filter_eq_self.mpr fun candle own => decide_eq_true (covered candle own)
    rw [← within]
    unfold storedCandles ownCandles
    rw [List.filter_map, List.filter_map, List.filter_filter, List.filter_filter]
    congr 1
    refine List.filter_congr fun payload _ => ?_
    rw [Bool.eq_iff_iff]
    simp only [Function.comp_apply, Bool.and_eq_true, decide_eq_true_eq]
    simp only [wireToDomain]
    tauto
  rw [fetchOhlcRange, selected]
  exact List.Pairwise.insertionSort_eq (gapFree.pairwise.imp fun less => less.le)

/-- Two beginnings that end in the same minute are one. -/
theorem prefix_eq_of_bucket {candles done later : List OhlcCandle}
    (distinct : (candles.map OhlcCandle.bucketStart).Nodup) (within : done <+: candles)
    (later_within : later <+: candles) {first second : OhlcCandle}
    (ends : done.getLast? = some first) (later_ends : later.getLast? = some second)
    (same : first.bucketStart = second.bucketStart) : done = later := by
  have ordered {short long : List OhlcCandle} (longer : short <+: long)
      (long_within : long <+: candles)
      {a b : OhlcCandle} (a_last : short.getLast? = some a) (b_last : long.getLast? = some b)
      (equal : a.bucketStart = b.bucketStart) : short = long := by
    obtain ⟨more, rfl⟩ := longer
    rcases List.eq_nil_or_concat more with rfl | ⟨init, last, rfl⟩
    · simp
    · rw [List.concat_eq_append, ← List.append_assoc, List.getLast?_concat] at b_last
      obtain rfl := Option.some.inj b_last
      have apart := distinct.sublist ((long_within.sublist).map OhlcCandle.bucketStart)
      rw [List.concat_eq_append, List.map_append, List.nodup_append] at apart
      exact absurd equal (apart.2.2 _ (List.mem_map_of_mem (List.mem_of_getLast? a_last)) _
        (List.mem_map_of_mem (by simp)))
  rcases List.prefix_or_prefix_of_prefix within later_within with shorter | longer
  · exact ordered shorter later_within ends later_ends same
  · exact (ordered longer within later_ends ends same.symm).symm

theorem outcomeAfter_eq_ok {candles : List OhlcCandle} {computed : OhlcCandle × FeatureValue}
    (gives : outcomeAfter feature candles = some (.ok computed)) :
    candles.getLast? = some computed.1 := by
  unfold outcomeAfter at gives
  split_ifs at gives
  obtain ⟨candle, newest, mapped⟩ := Option.map_eq_some_iff.mp gives
  rw [newest]
  cases result : feature.compute (candles.rtake feature.warmupCandles) with
  | error raised =>
      rw [result] at mapped
      cases mapped
  | ok value =>
      rw [result] at mapped
      cases mapped
      rfl

/-- Every value belongs to one beginning of the stream. -/
theorem outcome_told_apart (gapFree : GapFree symbol stream) {done later : List OhlcCandle}
    {first second : OhlcCandle × FeatureValue} (within : done <+: ownCandles symbol stream)
    (later_within : later <+: ownCandles symbol stream)
    (gives : outcomeAfter feature done = some (.ok first))
    (later_gives : outcomeAfter feature later = some (.ok second))
    (same : first.1.bucketStart = second.1.bucketStart) : done = later :=
  prefix_eq_of_bucket gapFree.nodup within later_within (outcomeAfter_eq_ok gives)
    (outcomeAfter_eq_ok later_gives) same

/-- Values of the stream that are for one minute are the same. -/
theorem computed_eq_of_bucket (gapFree : GapFree symbol stream)
    {first second : OhlcCandle × FeatureValue}
    (among : first ∈ seriesPast (outcomeAfter feature) (ownCandles symbol stream))
    (also : second ∈ seriesPast (outcomeAfter feature) (ownCandles symbol stream))
    (same : first.1.bucketStart = second.1.bucketStart) : first = second := by
  obtain ⟨done, within, -, gives⟩ := (mem_seriesPast _).mp among
  obtain ⟨later, later_within, -, later_gives⟩ := (mem_seriesPast _).mp also
  rw [outcome_told_apart gapFree within later_within gives later_gives same] at gives
  exact Except.ok.inj (Option.some.inj (gives.symm.trans later_gives))

theorem mem_own_of_computed {computed : OhlcCandle × FeatureValue}
    (among : computed ∈ seriesPast (outcomeAfter feature) (ownCandles symbol stream)) :
    computed.1 ∈ ownCandles symbol stream := by
  obtain ⟨done, within, -, gives⟩ := (mem_seriesPast _).mp among
  exact within.subset (List.mem_of_getLast? (outcomeAfter_eq_ok gives))

/-- Values that are for different minutes become rows of their own. -/
theorem mem_rows_iff {row : OhlcCandle × FeatureValue → FeatureUpdate}
    (minute : ∀ computed, (row computed).computedAt = computed.1.bucketStart + oneMinute)
    {computed : List (OhlcCandle × FeatureValue)} (distinct : computed.Nodup)
    (told_apart : ∀ first ∈ computed, ∀ second ∈ computed,
      first.1.bucketStart = second.1.bucketStart → first = second) {update : FeatureUpdate} :
    update ∈ computed.foldl (fun features computed => insertFeature features (row computed)) [] ↔
      ∃ one ∈ computed, row one = update := by
  have keys : ((computed.map row).map FeatureUpdate.key).Nodup := by
    rw [List.map_map]
    refine distinct.map_on fun first among second also same => told_apart first among second also ?_
    have times := congrArg (fun key => key.2.2.1) same
    simp only [Function.comp_apply, FeatureUpdate.key, minute] at times
    omega
  have folded : computed.foldl (fun features computed => insertFeature features (row computed)) [] =
      dictBy FeatureUpdate.key (computed.map row) := by
    rw [dictBy, List.foldl_map]
    rfl
  rw [folded, mem_dictBy_of_nodup _ keys, List.mem_map]

theorem nodup_seriesPast (gapFree : GapFree symbol stream) :
    (seriesPast (outcomeAfter feature) (ownCandles symbol stream)).Nodup := by
  have ordered : ((seriesPast (outcomeAfter feature) (ownCandles symbol stream)).map
      Prod.fst).Sublist (ownCandles symbol stream) := by
    refine map_series_sublist (fun done computed gives => ?_) _
    obtain ⟨result, outcome, is_ok⟩ := Option.bind_eq_some_iff.mp gives
    cases result with
    | error raised => cases is_ok
    | ok value =>
        cases is_ok
        exact outcomeAfter_eq_ok outcome
  exact ((gapFree.nodup.of_map _).sublist ordered).of_map _

/-- The live pipeline and the backfill write the same rows exactly when no window on which the
feature is defined comes behind a full one on which it raises. -/
theorem rows_eq_iff {float : ℚ → ℚ} {jsonText : List (String × SubValue) → String}
    {featuresByKey : FeaturesByKey} {pipeline : FeaturePipeline} {i : ℕ} {featureName : String}
    {fromDt toDt : ℕ} (started : FeaturePipeline.start featuresByKey = .ok pipeline)
    (here : (featuresByKey.get (symbol, "1m"))[i]? = some (featureName, feature))
    (refuses : ∀ window : List OhlcCandle, window.length < feature.warmupCandles →
      ∃ raised, feature.compute window = .error raised)
    (gapFree : GapFree symbol stream)
    (covered : ∀ candle ∈ ownCandles symbol stream,
      fromDt ≤ candle.bucketStart ∧ candle.bucketStart ≤ toDt) :
    (∀ row, row ∈ liveRows float jsonText featureName feature symbol i pipeline stream ↔
        row ∈ (backfillOneFeature float jsonText featureName symbol feature
          (storedCandles stream) fromDt toDt).2) ↔
      ∀ done, done <+: ownCandles symbol stream → done ≠ [] → ∀ computed,
        outcomeAfter feature done = some (.ok computed) →
          Unfailing (outcomeAfter feature) done := by
  have past_distinct : (seriesPast (outcomeAfter feature) (ownCandles symbol stream)).Nodup :=
    nodup_seriesPast gapFree
  have until_past : (seriesUntil (outcomeAfter feature) (ownCandles symbol stream)).Sublist
      (seriesPast (outcomeAfter feature) (ownCandles symbol stream)) :=
    seriesUntil_sublist _
  have live (row : FeatureUpdate) :
      row ∈ liveRows float jsonText featureName feature symbol i pipeline stream ↔
        ∃ one ∈ seriesPast (outcomeAfter feature) (ownCandles symbol stream),
          buildUpdate float jsonText featureName feature one.2 one.1 = row := by
    rw [liveRows, emitted_eq started here, series_valueAfter refuses]
    exact mem_rows_iff (fun _ => rfl) past_distinct fun first among second also =>
      computed_eq_of_bucket gapFree among also
  have backfilled (row : FeatureUpdate) :
      row ∈ (backfillOneFeature float jsonText featureName symbol feature (storedCandles stream)
          fromDt toDt).2 ↔
        ∃ one ∈ seriesUntil (outcomeAfter feature) (ownCandles symbol stream),
          backfillRow float jsonText featureName symbol feature one.1 one.2 = row := by
    have loop : (backfillLoop float jsonText featureName symbol feature
        ((Deque.empty feature.warmupCandles).appendAll []) 0 [] (ownCandles symbol stream)).2 = _ :=
      backfillLoop_eq featureName symbol feature (ownCandles symbol stream) [] 0 []
    rw [backfillOneFeature, fetchOhlcRange_storedCandles gapFree covered]
    rw [Deque.appendAll_nil] at loop
    rw [loop]
    exact mem_rows_iff (fun _ => rfl) (past_distinct.sublist until_past)
      fun first among second also =>
        computed_eq_of_bucket gapFree (until_past.subset among) (until_past.subset also)
  have same_row (one : OhlcCandle × FeatureValue)
      (among : one ∈ seriesPast (outcomeAfter feature) (ownCandles symbol stream)) :
      buildUpdate float jsonText featureName feature one.2 one.1 =
        backfillRow float jsonText featureName symbol feature one.1 one.2 := by
    rw [buildUpdate, backfillRow, backfillValue_eq, symbol_of_own (mem_own_of_computed among)]
  rw [← mem_series_iff_until fun done later computed within later_within gives later_gives =>
    outcome_told_apart gapFree within later_within gives later_gives rfl]
  constructor
  · intro same computed
    refine ⟨fun among => ?_, fun among => until_past.subset among⟩
    obtain ⟨one, one_among, equal⟩ :=
      (backfilled _).mp ((same _).mp ((live _).mpr ⟨computed, among, same_row computed among⟩))
    have times := congrArg FeatureUpdate.computedAt equal
    simp only [backfillRow] at times
    rw [computed_eq_of_bucket gapFree among (until_past.subset one_among) (by omega)]
    exact one_among
  · intro same row
    rw [live, backfilled]
    constructor
    · rintro ⟨one, among, rfl⟩
      exact ⟨one, (same one).mp among, (same_row one among).symm⟩
    · rintro ⟨one, among, rfl⟩
      exact ⟨one, (same one).mpr among, same_row one ((same one).mpr among)⟩

end GapFree

/-! ## The session price -/

section Vwap

variable {candles : List OhlcCandle}

theorem outcomeAfter_vwap (vwap : VwapFeature) (done : List OhlcCandle) (candle : OhlcCandle) :
    (candle.volume = 0 ∧ ∃ raised,
        outcomeAfter vwap.toFeature (done ++ [candle]) = some (.error raised)) ∨
      (candle.volume ≠ 0 ∧ outcomeAfter vwap.toFeature (done ++ [candle]) =
        some (.ok (candle, .num (typicalPrice candle)))) := by
  have opened : outcomeAfter vwap.toFeature (done ++ [candle]) =
      some ((vwap.compute [candle]).map fun value => (candle, value)) := by
    have window : (done ++ [candle]).rtake 1 = [candle] := by simp
    rw [outcomeAfter, if_neg (by simp [VwapFeature.toFeature, VwapFeature.warmupCandles]),
      List.getLast?_concat]
    change some ((vwap.compute ((done ++ [candle]).rtake 1)).map fun value => (candle, value)) = _
    rw [window]
  rw [opened]
  by_cases untraded : candle.volume = 0
  · obtain ⟨text, raised⟩ := compute_vwap_of_no_volume vwap candle untraded
    exact .inl ⟨untraded, _, by rw [raised]; rfl⟩
  · exact .inr ⟨untraded, by rw [compute_vwap vwap candle untraded]; rfl⟩

theorem unfailing_vwap_iff (vwap : VwapFeature) :
    Unfailing (outcomeAfter vwap.toFeature) candles ↔ ∀ candle ∈ candles, candle.volume ≠ 0 := by
  constructor
  · intro unfailing candle member untraded
    obtain ⟨before, after, rfl⟩ := List.append_of_mem member
    rcases outcomeAfter_vwap vwap before candle with ⟨-, raised, failed⟩ | ⟨traded, -⟩
    · exact unfailing (before ++ [candle]) (by simp) (by simp) raised failed
    · exact traded untraded
  · intro traded earlier within nonempty raised failed
    obtain ⟨init, candle, rfl⟩ := List.eq_nil_or_concat earlier |>.resolve_left nonempty
    rw [List.concat_eq_append] at failed within
    rcases outcomeAfter_vwap vwap init candle with ⟨untraded, -⟩ | ⟨-, given⟩
    · exact traded candle (within.subset (by simp)) untraded
    · rw [given] at failed
      cases failed

/-- No defined window comes behind an undefined one when no candle with volume comes behind one
without. -/
theorem vwap_unfailing_iff (vwap : VwapFeature) (candles : List OhlcCandle) :
    (∀ done, done <+: candles → done ≠ [] → ∀ computed,
        outcomeAfter vwap.toFeature done = some (.ok computed) →
          Unfailing (outcomeAfter vwap.toFeature) done) ↔
      candles.Pairwise fun earlier later => earlier.volume = 0 → later.volume = 0 := by
  simp only [unfailing_vwap_iff]
  constructor
  · intro unfailing
    induction candles using List.reverseRecOn with
    | nil => exact List.Pairwise.nil
    | append_singleton candles candle ih =>
        have earlier := ih fun done within =>
          unfailing done (within.trans (List.prefix_append candles [candle]))
        refine List.pairwise_append.mpr ⟨earlier, List.pairwise_singleton _ _, ?_⟩
        intro old member newest is_newest untraded
        obtain rfl := List.mem_singleton.mp is_newest
        rcases outcomeAfter_vwap vwap candles newest with ⟨empty, -⟩ | ⟨-, given⟩
        · exact empty
        · exact absurd untraded (unfailing _ List.prefix_rfl (by simp) _ given old
            (List.mem_append_left _ member))
  · intro steady done within nonempty computed gives candle member
    obtain ⟨init, newest, rfl⟩ := List.eq_nil_or_concat done |>.resolve_left nonempty
    rw [List.concat_eq_append] at gives within member
    rcases outcomeAfter_vwap vwap init newest with ⟨-, raised, failed⟩ | ⟨traded, -⟩
    · rw [failed] at gives
      cases gives
    · rcases List.mem_append.mp member with old | new
      · intro untraded
        have ordered := List.pairwise_append.mp (steady.sublist within.sublist)
        exact traded (ordered.2.2 candle old newest (by simp) untraded)
      · rw [List.mem_singleton.mp new]
        exact traded

end Vwap

/-- **When the backfilled rows are the live rows.**  Over a stream without gaps, delivered to the
pipeline from empty buffers and stored in full: for every built-in feature but the session price
always, and for the session price exactly when no candle without volume is followed by one with
volume. -/
theorem backfill_eq_live_iff {float sqrt : ℚ → ℚ} {jsonText : List (String × SubValue) → String}
    {featuresByKey : FeaturesByKey} {pipeline : FeaturePipeline} {symbol featureName : String}
    {builtin : Builtin} {i : ℕ} {stream : List OhlcCandlePayload} {fromDt toDt : ℕ}
    (started : FeaturePipeline.start featuresByKey = .ok pipeline)
    (here : (featuresByKey.get (symbol, "1m"))[i]? = some (featureName, builtin.toFeature sqrt))
    (gapFree : GapFree symbol stream)
    (covered : ∀ candle ∈ ownCandles symbol stream,
      fromDt ≤ candle.bucketStart ∧ candle.bucketStart ≤ toDt) :
    (∀ row, row ∈ liveRows float jsonText featureName (builtin.toFeature sqrt) symbol i pipeline
          stream ↔
        row ∈ (backfillOneFeature float jsonText featureName symbol (builtin.toFeature sqrt)
          (storedCandles stream) fromDt toDt).2) ↔
      (builtin.IsVwap → (ownCandles symbol stream).Pairwise fun earlier later =>
        earlier.volume = 0 → later.volume = 0) := by
  have refuses (window : List OhlcCandle)
      (short : window.length < (builtin.toFeature sqrt).warmupCandles) :
      ∃ raised, (builtin.toFeature sqrt).compute window = .error raised := by
    obtain ⟨text, refused⟩ := compute_of_short short
    exact ⟨_, refused⟩
  rw [rows_eq_iff started here refuses gapFree covered]
  by_cases session : builtin.IsVwap
  · obtain ⟨vwap, rfl⟩ : ∃ vwap, builtin = .vwap vwap := by
      cases builtin with
      | vwap feature => exact ⟨feature, rfl⟩
      | ema | rsi | atr | bollinger | macd => exact absurd session not_false
    simp only [session, true_implies]
    exact vwap_unfailing_iff vwap (ownCandles symbol stream)
  · refine iff_of_true ?_ fun is_session => absurd is_session session
    intro done within nonempty computed gives earlier shorter not_empty raised failed
    unfold outcomeAfter at failed
    split_ifs at failed with short
    obtain ⟨candle, newest, mapped⟩ := Option.map_eq_some_iff.mp failed
    have full : (builtin.toFeature sqrt).warmupCandles ≤
        (earlier.rtake (builtin.toFeature sqrt).warmupCandles).length := by
      rw [length_rtake]
      omega
    obtain ⟨value, answered⟩ := compute_of_full session full
    rw [answered] at mapped
    cases mapped

/-- The conversions play no part in what follows. -/
def anyText (_ : List (String × SubValue)) : String := ""

/-- A candle without volume and one with. -/
def resumed : List OhlcCandlePayload := [tick 0 1 0, tick 60000000 1 1]

theorem backfill_eq_live_iff_resumed :
    (∀ row, row ∈ liveRows id anyText "ind.btcusdt.1m.vwap_session"
          ((Builtin.vwap ⟨"1m"⟩).toFeature id) "BTCUSDT" 0 sessionPipeline resumed ↔
        row ∈ (backfillOneFeature id anyText "ind.btcusdt.1m.vwap_session" "BTCUSDT"
          ((Builtin.vwap ⟨"1m"⟩).toFeature id) (storedCandles resumed) 0 60000000).2) ↔
      ((Builtin.vwap ⟨"1m"⟩).IsVwap →
        (ownCandles "BTCUSDT" resumed).Pairwise fun earlier later =>
          earlier.volume = 0 → later.volume = 0) := by
  have registered : (sessionFeatures.get ("BTCUSDT", "1m"))[0]? =
      some ("ind.btcusdt.1m.vwap_session", (Builtin.vwap ⟨"1m"⟩).toFeature id) :=
    rfl
  have gapFree : GapFree "BTCUSDT" resumed := by
    unfold GapFree
    decide +kernel
  exact backfill_eq_live_iff sessionPipeline_started registered gapFree (by decide +kernel)

/-- The pipeline passes over the first candle and writes a row for the second; the backfill ends
at the first. -/
theorem backfill_stops :
    GapFree "BTCUSDT" resumed ∧
      (liveRows id anyText "ind.btcusdt.1m.vwap_session" (VwapFeature.toFeature ⟨"1m"⟩) "BTCUSDT" 0
        sessionPipeline resumed).map FeatureUpdate.computedAt = [120000000] ∧
      (backfillOneFeature id anyText "ind.btcusdt.1m.vwap_session" "BTCUSDT"
        (VwapFeature.toFeature ⟨"1m"⟩) (storedCandles resumed) 0 60000000).2 = [] := by
  refine ⟨?_, by decide +kernel, by decide +kernel⟩
  unfold GapFree
  decide +kernel

end Scalper.Features
