import Mathlib.Algebra.Order.Field.Basic
import Mathlib.Algebra.Order.BigOperators.Group.List
import Mathlib.Tactic.Ring
import Mathlib.Tactic.FieldSimp
import Mathlib.Tactic.Linarith
import Scalper.Features.Pipeline

/-!
# The session price over a stream

`vwap_session` is documented as the volume-weighted price of the UTC day so far, over a window of
any width.  The pipeline hands it the last `warmup_candles` of the buffer, and its warmup is one
candle, so that what it publishes is the typical price of the newest candle, or nothing when that
candle has no volume.

`sessionVwap_iff` is the exact condition on a stream: whenever the day has volume, its newest
candle has volume and does not move the price.  Where no volume is negative, that says of every
day that from its first candle with volume on all candles have volume and one typical price
(`steadySession_iff_of_nonneg`).  `two_candles_published` is the smallest stream where it fails.
-/

set_option autoImplicit false

namespace Scalper.Features

open Scalper.Lib

/-- The candles of the day of `candle` among `received`. -/
def sameDay (received : List OhlcCandle) (candle : OhlcCandle) : List OhlcCandle :=
  received.filter fun earlier => dateOf earlier = dateOf candle

/-- After every closed candle of the symbol whose day has volume so far, the published value is the
volume-weighted price of that day. -/
def SessionVwap (symbol : String) (i : ℕ) (pipeline : FeaturePipeline)
    (stream : List OhlcCandlePayload) : Prop :=
  ∀ before payload after, stream = before ++ payload :: after → payload.isClosed = true →
    payload.symbol = symbol →
      let session := sameDay (ownCandles symbol (before ++ [payload])) (wireToDomain payload)
      0 < totalVolume session →
        published i pipeline before payload =
          some (.num (turnover session / totalVolume session))

/-- Whenever a day has volume, its newest candle has volume, and the price it adds is the price of
the earlier ones. -/
def SteadySession (symbol : String) (stream : List OhlcCandlePayload) : Prop :=
  ∀ before payload after, stream = before ++ payload :: after → payload.isClosed = true →
    payload.symbol = symbol →
      let candle := wireToDomain payload
      let earlier := sameDay (ownCandles symbol before) candle
      0 < totalVolume earlier + candle.volume →
        candle.volume ≠ 0 ∧ typicalPrice candle * totalVolume earlier = turnover earlier

theorem sameDay_concat (received : List OhlcCandle) (candle : OhlcCandle) :
    sameDay (received ++ [candle]) candle = sameDay received candle ++ [candle] := by
  simp [sameDay, List.filter_append]

theorem totalVolume_concat (candles : List OhlcCandle) (candle : OhlcCandle) :
    totalVolume (candles ++ [candle]) = totalVolume candles + candle.volume := by
  simp [totalVolume]

theorem turnover_concat (candles : List OhlcCandle) (candle : OhlcCandle) :
    turnover (candles ++ [candle]) = turnover candles + typicalPrice candle * candle.volume := by
  simp [turnover]

/-- What is published for the session price. -/
theorem published_vwap {featuresByKey : FeaturesByKey} {pipeline : FeaturePipeline}
    {symbol : String} (started : FeaturePipeline.start featuresByKey = .ok pipeline) {i : ℕ}
    {featureName : String} {vwap : VwapFeature}
    (here : (featuresByKey.get (symbol, "1m"))[i]? = some (featureName, vwap.toFeature))
    (before : List OhlcCandlePayload) {payload : OhlcCandlePayload}
    (closed : payload.isClosed = true) (same : payload.symbol = symbol) :
    published i pipeline before payload =
      if payload.volume = 0 then none else some (.num (typicalPrice (wireToDomain payload))) := by
  rw [published_eq started here before closed same]
  have window : (ownCandles symbol before ++ [wireToDomain payload]).rtake 1 =
      [wireToDomain payload] := by
    simp
  change (vwap.compute ((ownCandles symbol before ++ [wireToDomain payload]).rtake 1)).toOption = _
  rw [window]
  split_ifs with untraded
  · obtain ⟨text, raised⟩ :=
      compute_vwap_of_no_volume vwap (wireToDomain payload) untraded
    rw [raised]
    rfl
  · rw [compute_vwap vwap (wireToDomain payload) untraded]
    rfl

/-- The price of a day and the price of its newest candle. -/
theorem eq_session_price_iff (price weighted : ℚ) {volume more : ℚ} (traded : 0 < volume + more) :
    price = (weighted + price * more) / (volume + more) ↔ price * volume = weighted := by
  rw [eq_div_iff traded.ne', mul_add, add_left_inj]

/-- **When the session price is published.** -/
theorem sessionVwap_iff {featuresByKey : FeaturesByKey} {pipeline : FeaturePipeline}
    {symbol : String} (started : FeaturePipeline.start featuresByKey = .ok pipeline) {i : ℕ}
    {featureName : String} {vwap : VwapFeature}
    (here : (featuresByKey.get (symbol, "1m"))[i]? = some (featureName, vwap.toFeature))
    (stream : List OhlcCandlePayload) :
    SessionVwap symbol i pipeline stream ↔ SteadySession symbol stream := by
  unfold SessionVwap SteadySession
  refine forall_congr' fun before => forall_congr' fun payload => forall_congr' fun after =>
    forall_congr' fun split => forall_congr' fun closed => forall_congr' fun same => ?_
  have received : ownCandles symbol (before ++ [payload]) =
      ownCandles symbol before ++ [wireToDomain payload] := by
    rw [ownCandles_concat, if_pos ⟨closed, same⟩]
  simp only [received, sameDay_concat, totalVolume_concat, turnover_concat,
    published_vwap started here before closed same]
  refine forall_congr' fun traded => ?_
  have price := eq_session_price_iff (typicalPrice (wireToDomain payload))
    (turnover (sameDay (ownCandles symbol before) (wireToDomain payload))) traded
  split_ifs with untraded
  · exact ⟨fun none_some => absurd none_some (by simp), fun steady => absurd untraded steady.1⟩
  · rw [Option.some.injEq, FeatureValue.num.injEq, price]
    exact ⟨fun equal => ⟨untraded, equal⟩, fun steady => steady.2⟩

/-- One symbol with the session price as its only feature. -/
def sessionFeatures : FeaturesByKey :=
  [(("BTCUSDT", "1m"), [("ind.btcusdt.1m.vwap_session", VwapFeature.toFeature ⟨"1m"⟩)])]

def sessionPipeline : FeaturePipeline where
  featuresByKey := sessionFeatures
  registry :=
    { capacityMap := capacityMap sessionFeatures
      buffers := Function.update (fun _ => none) ("BTCUSDT", "1m") (some (.empty 1))
      counts := Function.update (fun _ => none) ("BTCUSDT", "1m") (some 1) }
  handles := Function.update (fun _ => none) ("BTCUSDT", "1m") (some ⟨("BTCUSDT", "1m"), false⟩)

theorem sessionPipeline_started :
    FeaturePipeline.start sessionFeatures = .ok sessionPipeline :=
  rfl

/-- A closed candle at one price. -/
def tick (bucketStart : ℕ) (price volume : ℚ) : OhlcCandlePayload :=
  ⟨"BTCUSDT", bucketStart, price, price, price, price, volume, true⟩

theorem sessionVwap_iff_steady_ticks :
    SessionVwap "BTCUSDT" 0 sessionPipeline [tick 0 5 1, tick 60000000 5 2] ↔
      SteadySession "BTCUSDT" [tick 0 5 1, tick 60000000 5 2] := by
  have registered : (sessionFeatures.get ("BTCUSDT", "1m"))[0]? =
      some ("ind.btcusdt.1m.vwap_session", VwapFeature.toFeature ⟨"1m"⟩) :=
    rfl
  exact sessionVwap_iff sessionPipeline_started registered _

/-- One lot at 1, then one at 2: the price of the day is 3/2, and 2 is published. -/
theorem two_candles_published :
    published 0 sessionPipeline [tick 0 1 1] (tick 60000000 2 1) = some (.num 2) ∧
      ¬ SessionVwap "BTCUSDT" 0 sessionPipeline [tick 0 1 1, tick 60000000 2 1] := by
  refine ⟨by decide +kernel, fun holds => ?_⟩
  have wrong := holds [tick 0 1 1] (tick 60000000 2 1) [] rfl rfl rfl (by decide +kernel)
  exact absurd wrong (by decide +kernel)

/-! ## Volumes that are not negative -/

section Nonnegative

variable {candles : List OhlcCandle}

theorem totalVolume_nonneg (nonneg : ∀ candle ∈ candles, 0 ≤ candle.volume) :
    0 ≤ totalVolume candles :=
  List.sum_nonneg (by simpa using nonneg)

theorem totalVolume_pos_iff (nonneg : ∀ candle ∈ candles, 0 ≤ candle.volume) :
    0 < totalVolume candles ↔ ∃ candle ∈ candles, 0 < candle.volume := by
  induction candles with
  | nil => simp [totalVolume]
  | cons first candles ih =>
      obtain ⟨first_nonneg, others_nonneg⟩ := List.forall_mem_cons.mp nonneg
      have others := totalVolume_nonneg others_nonneg
      have sum : totalVolume (first :: candles) = first.volume + totalVolume candles := by
        simp [totalVolume]
      rw [sum, List.exists_mem_cons_iff, ← ih others_nonneg]
      constructor
      · intro positive
        rcases first_nonneg.eq_or_lt with untraded | traded
        · exact .inr (by rwa [← untraded, zero_add] at positive)
        · exact .inl traded
      · rintro (traded | traded)
        · exact add_pos_of_pos_of_nonneg traded others
        · exact add_pos_of_nonneg_of_pos first_nonneg traded

/-- Candles that trade at one price. -/
theorem turnover_of_price {price : ℚ} (nonneg : ∀ candle ∈ candles, 0 ≤ candle.volume)
    (same : ∀ candle ∈ candles, 0 < candle.volume → typicalPrice candle = price) :
    turnover candles = price * totalVolume candles := by
  induction candles with
  | nil => simp [turnover, totalVolume]
  | cons first candles ih =>
      obtain ⟨first_nonneg, others_nonneg⟩ := List.forall_mem_cons.mp nonneg
      obtain ⟨first_same, others_same⟩ := List.forall_mem_cons.mp same
      have others := ih others_nonneg others_same
      have own : typicalPrice first * first.volume = price * first.volume := by
        rcases first_nonneg.eq_or_lt with untraded | traded
        · rw [← untraded, mul_zero, mul_zero]
        · rw [first_same traded]
      unfold turnover totalVolume at others ⊢
      rw [List.map_cons, List.sum_cons, List.map_cons, List.sum_cons, others, own, mul_add]

end Nonnegative

/-- Behind a candle with volume, every candle of the day has volume and the same price. -/
def OnePrice (symbol : String) (stream : List OhlcCandlePayload) : Prop :=
  ∀ before payload after, stream = before ++ payload :: after → payload.isClosed = true →
    payload.symbol = symbol →
      let candle := wireToDomain payload
      ∀ earlier ∈ sameDay (ownCandles symbol before) candle, 0 < earlier.volume →
        candle.volume ≠ 0 ∧ typicalPrice candle = typicalPrice earlier

section OnePrice

variable {symbol : String} {stream : List OhlcCandlePayload}

theorem volume_nonneg (nonneg : ∀ payload ∈ stream, 0 ≤ payload.volume)
    {before after : List OhlcCandlePayload} (split : stream = before ++ after) :
    ∀ candle ∈ ownCandles symbol before, 0 ≤ candle.volume := by
  intro candle member
  obtain ⟨payload, among, rfl⟩ := List.mem_map.mp member
  exact nonneg payload (split ▸ List.mem_append_left after (List.mem_of_mem_filter among))

/-- A steady candle behind candles of one price has that price. -/
theorem steady_price {earlier : List OhlcCandle} {candle old : OhlcCandle}
    (nonneg : ∀ other ∈ earlier, 0 ≤ other.volume) (listed : old ∈ earlier)
    (traded : 0 < old.volume)
    (same : ∀ other ∈ earlier, 0 < other.volume → typicalPrice other = typicalPrice old)
    (steady : typicalPrice candle * totalVolume earlier = turnover earlier) :
    typicalPrice candle = typicalPrice old := by
  have volume : 0 < totalVolume earlier :=
    (totalVolume_pos_iff nonneg).mpr ⟨old, listed, traded⟩
  rw [turnover_of_price nonneg same] at steady
  exact mul_right_cancel₀ volume.ne' steady

/-- In a steady stream the candles of a day that have volume have one price. -/
theorem one_price_of_steady (nonneg : ∀ payload ∈ stream, 0 ≤ payload.volume)
    (steady : SteadySession symbol stream) (before : List OhlcCandlePayload) :
    ∀ after, stream = before ++ after → ∀ first ∈ ownCandles symbol before,
      ∀ second ∈ ownCandles symbol before, dateOf first = dateOf second → 0 < first.volume →
        0 < second.volume → typicalPrice first = typicalPrice second := by
  induction before using List.reverseRecOn with
  | nil => exact fun after split first member => absurd member List.not_mem_nil
  | append_singleton before payload ih =>
      intro after split first first_member second second_member day first_traded second_traded
      rw [List.append_assoc] at split
      have earlier_price := ih _ split
      rw [ownCandles_concat] at first_member second_member
      split_ifs at first_member second_member with taken
      · -- the newest candle has the price of any earlier one of its day
        have newest (old : OhlcCandle) (listed : old ∈ ownCandles symbol before)
            (same_day : dateOf old = dateOf (wireToDomain payload)) (traded : 0 < old.volume) :
            typicalPrice (wireToDomain payload) = typicalPrice old := by
          have earlier_nonneg : ∀ other ∈ sameDay (ownCandles symbol before) (wireToDomain payload),
              0 ≤ other.volume :=
            fun other member => volume_nonneg nonneg split other (List.mem_of_mem_filter member)
          have among : old ∈ sameDay (ownCandles symbol before) (wireToDomain payload) :=
            List.mem_filter.mpr ⟨listed, decide_eq_true same_day⟩
          have volume := (totalVolume_pos_iff earlier_nonneg).mpr ⟨old, among, traded⟩
          have own_nonneg : 0 ≤ (wireToDomain payload).volume :=
            nonneg payload (split ▸ List.mem_append_right before List.mem_cons_self)
          refine steady_price earlier_nonneg among traded (fun other member other_traded => ?_)
            (steady before payload after split taken.1 taken.2
              (add_pos_of_pos_of_nonneg volume own_nonneg)).2
          obtain ⟨other_listed, other_day⟩ := List.mem_filter.mp member
          exact earlier_price other other_listed old listed
            ((of_decide_eq_true other_day).trans same_day.symm) other_traded traded
        rcases List.mem_append.mp first_member with old | new
        · rcases List.mem_append.mp second_member with old' | new'
          · exact earlier_price first old second old' day first_traded second_traded
          · obtain rfl := List.mem_singleton.mp new'
            exact (newest first old day first_traded).symm
        · obtain rfl := List.mem_singleton.mp new
          rcases List.mem_append.mp second_member with old' | new'
          · exact newest second old' day.symm second_traded
          · rw [List.mem_singleton.mp new']
      · exact earlier_price first first_member second second_member day first_traded second_traded

/-- **Without negative volumes**: one price a day. -/
theorem steadySession_iff_of_nonneg (nonneg : ∀ payload ∈ stream, 0 ≤ payload.volume) :
    SteadySession symbol stream ↔ OnePrice symbol stream := by
  have earlier_nonneg (before : List OhlcCandlePayload) (payload : OhlcCandlePayload)
      (after : List OhlcCandlePayload) (split : stream = before ++ payload :: after) :
      ∀ other ∈ sameDay (ownCandles symbol before) (wireToDomain payload), 0 ≤ other.volume :=
    fun other member => volume_nonneg nonneg split other (List.mem_of_mem_filter member)
  constructor
  · intro steady before payload after split closed same candle earlier listed traded
    have volume := (totalVolume_pos_iff (earlier_nonneg before payload after split)).mpr
      ⟨earlier, listed, traded⟩
    have own_nonneg : 0 ≤ candle.volume :=
      nonneg payload (split ▸ List.mem_append_right before List.mem_cons_self)
    obtain ⟨has_volume, price⟩ := steady before payload after split closed same
      (add_pos_of_pos_of_nonneg volume own_nonneg)
    refine ⟨has_volume, steady_price (earlier_nonneg before payload after split) listed traded
      (fun other member other_traded => ?_) price⟩
    obtain ⟨other_listed, other_day⟩ := List.mem_filter.mp member
    obtain ⟨earlier_listed, earlier_day⟩ := List.mem_filter.mp listed
    exact one_price_of_steady nonneg steady before _ split other other_listed earlier earlier_listed
      ((of_decide_eq_true other_day).trans (of_decide_eq_true earlier_day).symm) other_traded traded
  · intro one before payload after split closed same candle earlier positive
    have nonneg_earlier := earlier_nonneg before payload after split
    rcases (totalVolume_nonneg nonneg_earlier).eq_or_lt with untraded | traded
    · rw [← untraded, zero_add] at positive
      refine ⟨positive.ne',
        (turnover_of_price nonneg_earlier fun other member other_traded => ?_).symm⟩
      have volume := (totalVolume_pos_iff nonneg_earlier).mpr ⟨other, member, other_traded⟩
      exact absurd untraded volume.ne
    · obtain ⟨old, listed, old_traded⟩ := (totalVolume_pos_iff nonneg_earlier).mp traded
      refine ⟨(one before payload after split closed same old listed old_traded).1, ?_⟩
      refine (turnover_of_price nonneg_earlier fun other member other_traded => ?_).symm
      exact (one before payload after split closed same other member other_traded).2.symm

end OnePrice

end Scalper.Features
