import Mathlib.Data.List.GetD
import Mathlib.Data.Prod.Lex
import Mathlib.Data.Rat.Floor
import Mathlib.Data.String.Basic
import Scalper.Lib.Grouping
import Scalper.Lib.Interpolation

/-!
# Aggregates over closed trades

`services/analytics_api/app/analytics_compute.py`: the P&L series, the heatmap, the aggregate of
the variants, and the percentile of a sample.  Decimals and floats are rationals, and a time is the
number of microseconds since the epoch, UTC.

The P&L of a bucket is what its trades sum up to, and the cells of the heatmap and the variants are
groups of distinct keys, so that nothing is lost or counted twice.  The results are made from
sorted keys and from sums and counts of groups, which the order of the rows does not change.  The
percentile is a value between those of an ascending sequence (`percentileLinear_eq`).
-/

set_option autoImplicit false

namespace Scalper.Analytics

open Scalper.Lib

/-! ## Rows and times -/

/-- `TradeRealizedPnlRow`: a closed trade. -/
structure TradeRealizedPnlRow where
  realizedPnl : ℚ
  closedAt : ℤ

def hourLength : ℤ := 3600000000

def dayLength : ℤ := 24 * hourLength

/-- `datetime.hour`. -/
def hour (moment : ℤ) : ℕ := (moment / hourLength % 24).toNat

/-- `datetime.weekday()`; the epoch is a Thursday. -/
def weekday (moment : ℤ) : ℕ := ((moment / dayLength + 3) % 7).toNat

/-- The key `(wd, hr)` of a trade. -/
def TradeRealizedPnlRow.slot (row : TradeRealizedPnlRow) : ℕ × ℕ :=
  (weekday row.closedAt, hour row.closedAt)

/-- The width of a bucket. -/
inductive PnlBucket where
  | hour
  | day
  deriving DecidableEq, Repr

/-- `closed_at.replace(...)`: the start of the hour, or of the day. -/
def PnlBucket.start : PnlBucket → ℤ → ℤ
  | .hour, moment => moment - moment % hourLength
  | .day, moment => moment - moment % dayLength

/-! ## The P&L series -/

/-- `PnlSeriesPoint`. -/
structure PnlSeriesPoint where
  bucketAt : ℤ
  bucketPnl : ℚ
  cumulativePnl : ℚ
  deriving DecidableEq, Repr

/-- The loop over the sorted keys. -/
def pointsFrom (bucketPnl : ℤ → ℚ) : ℚ → List ℤ → List PnlSeriesPoint
  | _, [] => []
  | cumulative, key :: keys =>
      ⟨key, bucketPnl key, cumulative + bucketPnl key⟩ ::
        pointsFrom bucketPnl (cumulative + bucketPnl key) keys

/-- `compute_pnl_series`. -/
def computePnlSeries (rows : List TradeRealizedPnlRow) (bucket : PnlBucket) :
    List PnlSeriesPoint :=
  if rows.isEmpty then []
  else
    let bucketPnls := sumBy (fun row : TradeRealizedPnlRow => bucket.start row.closedAt)
      (·.realizedPnl) rows
    let sortedKeys := bucketPnls.keys.insertionSort (· ≤ ·)
    pointsFrom (fun key => (bucketPnls.lookup key).getD 0) 0 sortedKeys

/-! ## The heatmap -/

/-- The mean of the values, if there are any. -/
def mean (values : List ℚ) : Option ℚ :=
  if values.isEmpty then none else some (values.sum / values.length)

/-- `HeatmapCell`. -/
structure HeatmapCell where
  weekday : ℕ
  hour : ℕ
  tradeCount : ℕ
  avgPnl : Option ℚ
  deriving DecidableEq, Repr

/-- The cell of the trades with these P&Ls. -/
def heatmapCell (wd hr : ℕ) (pnlList : List ℚ) : HeatmapCell :=
  let count := pnlList.length
  if count = 0 then ⟨wd, hr, 0, none⟩ else ⟨wd, hr, count, some (pnlList.sum / count)⟩

/-- `compute_hourly_heatmap`. -/
def computeHourlyHeatmap (rows : List TradeRealizedPnlRow) : List HeatmapCell :=
  let bucketSums := groupBy TradeRealizedPnlRow.slot (·.realizedPnl) rows
  (List.range 7).flatMap fun wd => (List.range 24).map fun hr =>
    heatmapCell wd hr (bucketSums.members (wd, hr))

/-- The trades of a cell. -/
def HeatmapCell.trades (cell : HeatmapCell) (rows : List TradeRealizedPnlRow) :
    List TradeRealizedPnlRow :=
  rows.filter fun row => row.slot = (cell.weekday, cell.hour)

/-! ## Variants -/

/-- `ShadowVariantAggregateRow`. -/
structure ShadowVariantAggregateRow where
  variantName : String
  realizedPnl : ℚ
  mfePct : Option ℚ
  maePct : Option ℚ

/-- `VariantAggregateMetrics`. -/
structure VariantAggregateMetrics where
  variantName : String
  nTrades : ℕ
  winCount : ℕ
  winRate : ℚ
  totalPnl : ℚ
  avgPnl : ℚ
  bestPnl : ℚ
  worstPnl : ℚ
  avgMfePct : Option ℚ
  avgMaePct : Option ℚ
  deriving DecidableEq, Repr

/-- The metrics of one bucket, which holds a row. -/
def variantMetrics (variantName : String) (bucketRows : List ShadowVariantAggregateRow) :
    VariantAggregateMetrics :=
  let nTrades := bucketRows.length
  let pnls := bucketRows.map (·.realizedPnl)
  let winCount := pnls.countP (0 < ·)
  let totalPnl := pnls.sum
  { variantName
    nTrades
    winCount
    winRate := winCount / nTrades
    totalPnl
    avgPnl := totalPnl / nTrades
    bestPnl := pnls.max?.getD 0
    worstPnl := pnls.min?.getD 0
    avgMfePct := mean (bucketRows.filterMap (·.mfePct))
    avgMaePct := mean (bucketRows.filterMap (·.maePct)) }

/-- The key `(-total_pnl, variant_name)` of the order. -/
def VariantAggregateMetrics.sortKey (m : VariantAggregateMetrics) : ℚ ×ₗ String :=
  toLex (-m.totalPnl, m.variantName)

/-- `compute_variant_aggregate`. -/
def computeVariantAggregate (rows : List ShadowVariantAggregateRow) :
    List VariantAggregateMetrics :=
  if rows.isEmpty then []
  else
    let buckets := groupBy (fun row : ShadowVariantAggregateRow => row.variantName) id rows
    (buckets.keys.map fun variantName =>
      variantMetrics variantName (buckets.members variantName)).insertionSort
        fun m other => m.sortKey ≤ other.sortKey

/-- The trades of a variant. -/
def VariantAggregateMetrics.trades (m : VariantAggregateMetrics)
    (rows : List ShadowVariantAggregateRow) : List ShadowVariantAggregateRow :=
  rows.filter fun row => row.variantName = m.variantName

/-! ## Percentiles -/

/-- `xs[i]`: a negative index counts from the end, and out of range nothing is there. -/
def itemAt (xs : List ℚ) (i : ℤ) : Option ℚ :=
  if 0 ≤ i then xs[i.toNat]?
  else if 0 ≤ xs.length + i then xs[(xs.length + i).toNat]?
  else none

/-- `(Decimal(pct) / Decimal(100)) * Decimal(n - 1)`. -/
def rankOf (n : ℕ) (pct : ℚ) : ℚ := pct / 100 * ((n : ℚ) - 1)

/-- `int(rank_f)`, which truncates. -/
def lowerIdx (n : ℕ) (pct : ℚ) : ℤ :=
  if 0 ≤ rankOf n pct then ⌊rankOf n pct⌋ else ⌈rankOf n pct⌉

def upperIdx (n : ℕ) (pct : ℚ) : ℤ :=
  if lowerIdx n pct < n - 1 then lowerIdx n pct + 1 else lowerIdx n pct

/-- `_percentile_linear`. -/
def percentileLinear (sortedValues : List ℚ) (pct : ℚ) : Option ℚ :=
  match sortedValues with
  | [] => some 0
  | [value] => some value
  | _ :: _ :: _ =>
      let n := sortedValues.length
      let frac := rankOf n pct - lowerIdx n pct
      (itemAt sortedValues (lowerIdx n pct)).bind fun lowerVal =>
        (itemAt sortedValues (upperIdx n pct)).map fun upperVal =>
          lowerVal + frac * (upperVal - lowerVal)

/-! ## The series -/

section Series

variable {rows rows' : List TradeRealizedPnlRow} {bucket : PnlBucket} {bucketPnl : ℤ → ℚ}
  {keys : List ℤ} {cumulative : ℚ}

theorem map_bucketAt_pointsFrom :
    (pointsFrom bucketPnl cumulative keys).map (·.bucketAt) = keys := by
  induction keys generalizing cumulative with
  | nil => rfl
  | cons key keys ih => rw [pointsFrom, List.map_cons, ih]

theorem map_bucketPnl_pointsFrom :
    (pointsFrom bucketPnl cumulative keys).map (·.bucketPnl) = keys.map bucketPnl := by
  induction keys generalizing cumulative with
  | nil => rfl
  | cons key keys ih =>
      rw [pointsFrom, List.map_cons, ih, List.map_cons]

theorem bucketPnl_of_mem_pointsFrom {point : PnlSeriesPoint}
    (member : point ∈ pointsFrom bucketPnl cumulative keys) :
    point.bucketPnl = bucketPnl point.bucketAt := by
  induction keys generalizing cumulative with
  | nil => cases member
  | cons key keys ih =>
      rcases List.mem_cons.mp member with rfl | later
      · rfl
      · exact ih later

/-- The loop carries what the buckets so far sum up to. -/
theorem cumulativePnl_of_split {before after : List PnlSeriesPoint} {point : PnlSeriesPoint}
    (split : pointsFrom bucketPnl cumulative keys = before ++ point :: after) :
    point.cumulativePnl = cumulative + ((before ++ [point]).map (·.bucketPnl)).sum := by
  induction keys generalizing cumulative before with
  | nil => simp [pointsFrom] at split
  | cons key keys ih =>
      cases before with
      | nil =>
          obtain ⟨rfl, _⟩ := List.cons.inj split
          simp
      | cons first before =>
          obtain ⟨rfl, rest⟩ := List.cons.inj split
          rw [ih rest, List.cons_append, List.map_cons, List.sum_cons, add_assoc]

/-- The series, by what the trades of each bucket sum up to. -/
theorem computePnlSeries_eq (rows : List TradeRealizedPnlRow) (bucket : PnlBucket) :
    computePnlSeries rows bucket = pointsFrom
      (fun key =>
        ((rows.filter fun row => bucket.start row.closedAt = key).map (·.realizedPnl)).sum)
      0 ((sumBy (fun row : TradeRealizedPnlRow => bucket.start row.closedAt) (·.realizedPnl)
        rows).keys.insertionSort (· ≤ ·)) := by
  unfold computePnlSeries
  split_ifs with empty
  · rw [List.isEmpty_iff.mp empty]
    rfl
  · simp only [getD_lookup_sumBy]

/-- The keys of the dictionary in order. -/
theorem pairwise_lt_insertionSort {κ : Type} {β : κ → Type} [LinearOrder κ] (d : AList β) :
    (d.keys.insertionSort (· ≤ ·)).Pairwise (· < ·) := by
  have distinct : (d.keys.insertionSort (· ≤ ·)).Nodup :=
    (List.perm_insertionSort _ _).nodup_iff.mpr d.keys_nodup
  exact ((List.pairwise_insertionSort (· ≤ ·) d.keys).and distinct).imp
    fun both => lt_of_le_of_ne both.1 both.2

theorem pairwise_bucketAt : ((computePnlSeries rows bucket).map (·.bucketAt)).Pairwise (· < ·) := by
  rw [computePnlSeries_eq, map_bucketAt_pointsFrom]
  exact pairwise_lt_insertionSort _

/-- No trade is lost, and none is counted twice. -/
theorem sum_bucketPnl : ((computePnlSeries rows bucket).map (·.bucketPnl)).sum =
    (rows.map (·.realizedPnl)).sum := by
  rw [computePnlSeries_eq, map_bucketPnl_pointsFrom]
  have sorted := List.perm_insertionSort (· ≤ ·)
    (sumBy (fun row : TradeRealizedPnlRow => bucket.start row.closedAt) (·.realizedPnl) rows).keys
  refine sum_groups _ (sorted.nodup_iff.mpr (AList.keys_nodup _)) fun row member => ?_
  rw [sorted.mem_iff]
  exact mem_keys_gather.mpr (List.mem_map_of_mem member)

theorem computePnlSeries_perm (same : rows.Perm rows') :
    computePnlSeries rows bucket = computePnlSeries rows' bucket := by
  rw [computePnlSeries_eq, computePnlSeries_eq]
  congr 1
  · funext key
    exact ((same.filter _).map _).sum_eq
  · exact List.Perm.eq_of_pairwise' (List.pairwise_insertionSort _ _)
      (List.pairwise_insertionSort _ _) (((List.perm_insertionSort _ _).trans
        (keys_gather_perm same)).trans (List.perm_insertionSort _ _).symm)

end Series

/-! ## The cells -/

section Heatmap

variable {rows rows' : List TradeRealizedPnlRow}

theorem slot_mem (row : TradeRealizedPnlRow) : row.slot ∈ List.range 7 ×ˢ List.range 24 := by
  refine List.pair_mem_product.mpr ⟨List.mem_range.mpr ?_, List.mem_range.mpr ?_⟩
  · rw [weekday]
    omega
  · rw [hour]
    omega

theorem heatmapCell_eq (wd hr : ℕ) (pnlList : List ℚ) :
    heatmapCell wd hr pnlList = ⟨wd, hr, pnlList.length, mean pnlList⟩ := by
  cases pnlList with
  | nil => rfl
  | cons pnl pnls => rfl

theorem map_slot_computeHourlyHeatmap (rows : List TradeRealizedPnlRow) :
    (computeHourlyHeatmap rows).map (fun cell => (cell.weekday, cell.hour)) =
      List.range 7 ×ˢ List.range 24 := by
  simp only [computeHourlyHeatmap, List.map_flatMap, List.map_map, Function.comp_def,
    heatmapCell_eq]
  rfl

/-- Every trade is in one cell. -/
theorem flatMap_trades_computeHourlyHeatmap :
    ((computeHourlyHeatmap rows).flatMap (·.trades rows)).Perm rows := by
  have partitioned : ((List.range 7 ×ˢ List.range 24).flatMap fun k =>
      rows.filter (·.slot = k)).Perm rows :=
    flatMap_filter_perm (List.nodup_range.product List.nodup_range) fun row _ => slot_mem row
  rwa [← map_slot_computeHourlyHeatmap rows, List.flatMap_map] at partitioned

theorem count_of_mem_computeHourlyHeatmap {cell : HeatmapCell}
    (member : cell ∈ computeHourlyHeatmap rows) :
    cell.tradeCount = (cell.trades rows).length ∧
      cell.avgPnl = mean ((cell.trades rows).map (·.realizedPnl)) := by
  obtain ⟨wd, _, member⟩ := List.mem_flatMap.mp member
  obtain ⟨hr, _, rfl⟩ := List.mem_map.mp member
  rw [heatmapCell_eq, members_groupBy, List.length_map]
  exact ⟨rfl, rfl⟩

theorem mean_perm {values values' : List ℚ} (same : values.Perm values') :
    mean values = mean values' := by
  rw [mean, mean, same.isEmpty_eq, same.sum_eq, same.length_eq]

theorem computeHourlyHeatmap_perm (same : rows.Perm rows') :
    computeHourlyHeatmap rows = computeHourlyHeatmap rows' := by
  unfold computeHourlyHeatmap
  refine List.flatMap_congr fun wd _ => List.map_congr_left fun hr _ => ?_
  have group := (same.filter fun row => row.slot = (wd, hr)).map (·.realizedPnl)
  rw [members_groupBy, members_groupBy, heatmapCell_eq, heatmapCell_eq, group.length_eq,
    mean_perm group]

end Heatmap

/-! ## The metrics -/

section Variants

variable {rows rows' : List ShadowVariantAggregateRow} {values values' : List ℚ}

theorem isGreatest_max? (nonempty : values ≠ []) :
    IsGreatest {x | x ∈ values} (values.max?.getD 0) := by
  cases found : values.max? with
  | none => exact absurd (List.max?_eq_none_iff.mp found) nonempty
  | some best =>
      obtain ⟨member, above⟩ := List.max?_eq_some_iff.mp found
      exact ⟨member, above⟩

theorem isLeast_min? (nonempty : values ≠ []) :
    IsLeast {x | x ∈ values} (values.min?.getD 0) := by
  cases found : values.min? with
  | none => exact absurd (List.min?_eq_none_iff.mp found) nonempty
  | some worst =>
      obtain ⟨member, below⟩ := List.min?_eq_some_iff.mp found
      exact ⟨member, below⟩

theorem max?_perm (same : values.Perm values') : values.max?.getD 0 = values'.max?.getD 0 := by
  by_cases empty : values = []
  · rw [empty] at same ⊢
    rw [same.nil_eq]
  · have nonempty : values' ≠ [] := fun none => empty (List.perm_nil.mp (none ▸ same))
    have best := isGreatest_max? empty
    simp only [same.mem_iff] at best
    exact best.unique (isGreatest_max? nonempty)

theorem min?_perm (same : values.Perm values') : values.min?.getD 0 = values'.min?.getD 0 := by
  by_cases empty : values = []
  · rw [empty] at same ⊢
    rw [same.nil_eq]
  · have nonempty : values' ≠ [] := fun none => empty (List.perm_nil.mp (none ▸ same))
    have worst := isLeast_min? empty
    simp only [same.mem_iff] at worst
    exact worst.unique (isLeast_min? nonempty)

theorem variantMetrics_perm (variantName : String) (same : rows.Perm rows') :
    variantMetrics variantName rows = variantMetrics variantName rows' := by
  have pnls := same.map (·.realizedPnl)
  simp only [variantMetrics, same.length_eq, pnls.countP_eq, pnls.sum_eq, max?_perm pnls,
    min?_perm pnls, mean_perm (same.filterMap (·.mfePct)), mean_perm (same.filterMap (·.maePct))]

/-- The metrics of the variants, before they are sorted. -/
def metricsOf (rows : List ShadowVariantAggregateRow) : List VariantAggregateMetrics :=
  (groupBy (fun row : ShadowVariantAggregateRow => row.variantName) id rows).keys.map
    fun variantName => variantMetrics variantName
      (rows.filter fun row => row.variantName = variantName)

theorem computeVariantAggregate_eq (rows : List ShadowVariantAggregateRow) :
    computeVariantAggregate rows =
      (metricsOf rows).insertionSort fun m other => m.sortKey ≤ other.sortKey := by
  unfold computeVariantAggregate metricsOf
  split_ifs with empty
  · rw [List.isEmpty_iff.mp empty]
    rfl
  · simp only [members_groupBy, List.map_id]

theorem computeVariantAggregate_perm_metricsOf :
    (computeVariantAggregate rows).Perm (metricsOf rows) := by
  rw [computeVariantAggregate_eq]
  exact List.perm_insertionSort _ _

theorem mem_computeVariantAggregate {m : VariantAggregateMetrics}
    (member : m ∈ computeVariantAggregate rows) :
    m.trades rows ≠ [] ∧ m = variantMetrics m.variantName (m.trades rows) := by
  obtain ⟨variantName, listed, rfl⟩ :=
    List.mem_map.mp (computeVariantAggregate_perm_metricsOf.mem_iff.mp member)
  refine ⟨?_, rfl⟩
  exact fun none => filter_key_eq_nil_iff.mp none (mem_keys_gather.mp listed)

theorem map_variantName_metricsOf : (metricsOf rows).map (·.variantName) =
    (groupBy (fun row : ShadowVariantAggregateRow => row.variantName) id rows).keys := by
  rw [metricsOf, List.map_map]
  exact List.map_id _

/-- Every trade is in one variant. -/
theorem flatMap_trades_computeVariantAggregate :
    ((computeVariantAggregate rows).flatMap (·.trades rows)).Perm rows := by
  have partitioned : ((groupBy (fun row : ShadowVariantAggregateRow => row.variantName) id
      rows).keys.flatMap fun k => rows.filter (·.variantName = k)).Perm rows :=
    flatMap_filter_perm (AList.keys_nodup _) fun row member =>
      mem_keys_gather.mpr (List.mem_map_of_mem member)
  rw [← map_variantName_metricsOf, List.flatMap_map] at partitioned
  exact (computeVariantAggregate_perm_metricsOf.flatMap_right _).trans partitioned

theorem pairwise_sortKey :
    (computeVariantAggregate rows).Pairwise fun m other => m.sortKey ≤ other.sortKey := by
  rw [computeVariantAggregate_eq]
  exact List.pairwise_insertionSort _ _

theorem computeVariantAggregate_perm (same : rows.Perm rows') :
    computeVariantAggregate rows = computeVariantAggregate rows' := by
  have metrics : (metricsOf rows).Perm (metricsOf rows') := by
    have alike : ∀ variantName : String,
        variantMetrics variantName (rows.filter fun row => row.variantName = variantName) =
          variantMetrics variantName (rows'.filter fun row => row.variantName = variantName) :=
      fun variantName => variantMetrics_perm variantName (same.filter _)
    simp only [metricsOf, alike]
    exact (keys_gather_perm same).map _
  refine List.Perm.eq_of_pairwise ?_ pairwise_sortKey pairwise_sortKey
    ((computeVariantAggregate_perm_metricsOf.trans metrics).trans
      computeVariantAggregate_perm_metricsOf.symm)
  -- the order tells variants of different names apart
  intro m other member member' le ge
  have names : m.variantName = other.variantName :=
    congrArg (fun key => (ofLex key).2) (le_antisymm le ge)
  rw [(mem_computeVariantAggregate member).2, (mem_computeVariantAggregate member').2, names]
  refine variantMetrics_perm _ ?_
  rw [VariantAggregateMetrics.trades, VariantAggregateMetrics.trades, names]
  exact same.filter _

end Variants

/-! ## Between the values of a sample -/

section Percentile

variable {values : List ℚ} {pct : ℚ}

/-- The value at a position, and the last one from there on. -/
def clamped (values : List ℚ) (i : ℕ) : ℚ := values.getD (min i (values.length - 1)) 0

theorem clamped_eq (nonempty : values ≠ []) (i : ℕ) :
    ∃ inside : min i (values.length - 1) < values.length,
      clamped values i = values[min i (values.length - 1)] := by
  have positive := List.length_pos_iff.mpr nonempty
  have inside : min i (values.length - 1) < values.length := by omega
  exact ⟨inside, List.getD_eq_getElem _ _ inside⟩

theorem clamped_mem (nonempty : values ≠ []) (i : ℕ) : clamped values i ∈ values := by
  obtain ⟨inside, item⟩ := clamped_eq nonempty i
  rw [item]
  exact List.getElem_mem inside

theorem itemAt_natCast {i : ℕ} (inside : i < values.length) :
    itemAt values i = some (clamped values i) := by
  obtain ⟨_, item⟩ := clamped_eq (List.ne_nil_of_length_pos (Nat.zero_lt_of_lt inside)) i
  have same : min i (values.length - 1) = i := min_eq_left (Nat.le_sub_one_of_lt inside)
  simp only [same] at item
  rw [itemAt, if_pos (Int.natCast_nonneg _), Int.toNat_natCast, List.getElem?_eq_getElem inside,
    item]

theorem monotone_clamped (ascending : values.Pairwise (· ≤ ·)) : Monotone (clamped values) := by
  intro i j le
  by_cases empty : values = []
  · rw [empty]
    rfl
  · obtain ⟨insideI, itemI⟩ := clamped_eq empty i
    obtain ⟨insideJ, itemJ⟩ := clamped_eq empty j
    rw [itemI, itemJ]
    rcases (min_le_min_right (values.length - 1) le).eq_or_lt with same | before
    · simp only [same, le_refl]
    · exact List.pairwise_iff_getElem.mp ascending _ _ insideI insideJ before

theorem rankOf_nonneg (nonempty : values ≠ []) (nonneg : 0 ≤ pct) :
    0 ≤ rankOf values.length pct := by
  have positive : (1 : ℚ) ≤ values.length := by
    exact_mod_cast List.length_pos_iff.mpr nonempty
  exact mul_nonneg (div_nonneg nonneg (by norm_num)) (sub_nonneg.mpr positive)

theorem rankOf_le (nonempty : values ≠ []) (le : pct ≤ 100) :
    rankOf values.length pct ≤ (values.length - 1 : ℕ) := by
  have positive := List.length_pos_iff.mpr nonempty
  have last : (1 : ℚ) ≤ values.length := by exact_mod_cast positive
  have share : pct / 100 ≤ 1 := (div_le_one (by norm_num)).mpr le
  rw [Nat.cast_sub positive, Nat.cast_one, rankOf]
  exact mul_le_of_le_one_left (sub_nonneg.mpr last) share

/-- The indices are those of the sample. -/
theorem idx_eq (nonempty : values ≠ []) (nonneg : 0 ≤ pct) (le : pct ≤ 100) :
    ∃ lower upper : ℕ, lower = ⌊rankOf values.length pct⌋₊ ∧
      upper = min (lower + 1) (values.length - 1) ∧ lower ≤ values.length - 1 ∧
      lowerIdx values.length pct = lower ∧ upperIdx values.length pct = upper := by
  have positive := List.length_pos_iff.mpr nonempty
  have rank := rankOf_nonneg nonempty nonneg
  have within : ⌊rankOf values.length pct⌋₊ ≤ values.length - 1 :=
    Nat.floor_le_of_le (rankOf_le nonempty le)
  have lower : lowerIdx values.length pct = ⌊rankOf values.length pct⌋₊ := by
    rw [lowerIdx, if_pos rank, Int.natCast_floor_eq_floor rank]
  refine ⟨_, _, rfl, rfl, within, lower, ?_⟩
  rw [upperIdx, lower]
  split_ifs <;> omega

/-- The percentile is a value between those of the sample. -/
theorem percentileLinear_eq (nonempty : values ≠ []) (nonneg : 0 ≤ pct) (le : pct ≤ 100) :
    percentileLinear values pct =
      some (interpolate (clamped values) (rankOf values.length pct)) := by
  obtain ⟨lower, upper, floor, next, within, lowerIs, upperIs⟩ := idx_eq nonempty nonneg le
  have positive := List.length_pos_iff.mpr nonempty
  have after : clamped values upper = clamped values (lower + 1) := by
    rw [clamped, clamped, next, min_assoc, min_self]
  match values, nonempty with
  | [value], _ => simp [percentileLinear, interpolate, rankOf, clamped]
  | first :: second :: rest, _ =>
      rw [percentileLinear, lowerIs, upperIs, itemAt_natCast (by omega), itemAt_natCast (by omega),
        after, Option.bind_some, Option.map_some, interpolate, ← floor, Int.cast_natCast]

theorem interpolate_clamped_mem {least greatest : ℚ} (nonempty : values ≠ [])
    (ascending : values.Pairwise (· ≤ ·)) (nonneg : 0 ≤ pct)
    (minimum : IsLeast {x | x ∈ values} least) (maximum : IsGreatest {x | x ∈ values} greatest) :
    interpolate (clamped values) (rankOf values.length pct) ∈ Set.Icc least greatest := by
  obtain ⟨above, below⟩ :=
    interpolate_mem_Icc (monotone_clamped ascending) (rankOf_nonneg nonempty nonneg)
  exact ⟨(minimum.2 (clamped_mem nonempty _)).trans above,
    below.trans (maximum.2 (clamped_mem nonempty _))⟩

theorem rankOf_mono (nonempty : values ≠ []) {later : ℚ} (le : pct ≤ later) :
    rankOf values.length pct ≤ rankOf values.length later := by
  have last : (1 : ℚ) ≤ values.length := by exact_mod_cast List.length_pos_iff.mpr nonempty
  exact mul_le_mul_of_nonneg_right (div_le_div_of_nonneg_right le (by norm_num))
    (sub_nonneg.mpr last)

end Percentile

/-! ## All aggregates -/

/-- **The P&L series.**  The buckets ascend, each is the sum of its trades and all are the sum of
all trades, and a cumulative value is the sum of the buckets up to it. -/
theorem pnl_series_sums (rows : List TradeRealizedPnlRow) (bucket : PnlBucket) :
    let points := computePnlSeries rows bucket
    (points.map (·.bucketAt)).Pairwise (· < ·) ∧
      (∀ point ∈ points, point.bucketPnl = ((rows.filter fun row =>
        bucket.start row.closedAt = point.bucketAt).map (·.realizedPnl)).sum) ∧
      (points.map (·.bucketPnl)).sum = (rows.map (·.realizedPnl)).sum ∧
      ∀ before point after, points = before ++ point :: after →
        point.cumulativePnl = ((before ++ [point]).map (·.bucketPnl)).sum := by
  refine ⟨pairwise_bucketAt, fun point member => ?_, sum_bucketPnl,
    fun before point after split => ?_⟩
  · rw [computePnlSeries_eq] at member
    exact bucketPnl_of_mem_pointsFrom member
  · rw [computePnlSeries_eq] at split
    rw [cumulativePnl_of_split split, zero_add]

/-- **Analytics aggregation.**  The P&L series sums up the trades, the cells of the heatmap and the
variants are partitions of them, the order of the rows does not matter, and a percentile of an
ascending sample is found at indices of the sample, between its least and its greatest value, and
ascends with the percentage. -/
theorem analytics_aggregation :
    (∀ (rows : List TradeRealizedPnlRow) (bucket : PnlBucket),
      let points := computePnlSeries rows bucket
      (points.map (·.bucketAt)).Pairwise (· < ·) ∧
        (∀ point ∈ points, point.bucketPnl = ((rows.filter fun row =>
          bucket.start row.closedAt = point.bucketAt).map (·.realizedPnl)).sum) ∧
        (points.map (·.bucketPnl)).sum = (rows.map (·.realizedPnl)).sum ∧
        ∀ before point after, points = before ++ point :: after →
          point.cumulativePnl = ((before ++ [point]).map (·.bucketPnl)).sum) ∧
    (∀ rows : List TradeRealizedPnlRow,
      let cells := computeHourlyHeatmap rows
      (cells.flatMap (·.trades rows)).Perm rows ∧
        ∀ cell ∈ cells, cell.tradeCount = (cell.trades rows).length ∧
          cell.avgPnl = mean ((cell.trades rows).map (·.realizedPnl))) ∧
    (∀ rows : List ShadowVariantAggregateRow,
      let metrics := computeVariantAggregate rows
      (metrics.flatMap (·.trades rows)).Perm rows ∧
        metrics.Pairwise (fun m other => m.sortKey ≤ other.sortKey) ∧
        ∀ m ∈ metrics, m.nTrades = (m.trades rows).length ∧
          m.totalPnl = ((m.trades rows).map (·.realizedPnl)).sum ∧
          IsGreatest {pnl | pnl ∈ (m.trades rows).map (·.realizedPnl)} m.bestPnl ∧
          IsLeast {pnl | pnl ∈ (m.trades rows).map (·.realizedPnl)} m.worstPnl) ∧
    (∀ rows rows' : List TradeRealizedPnlRow, rows.Perm rows' →
      (∀ bucket, computePnlSeries rows bucket = computePnlSeries rows' bucket) ∧
        computeHourlyHeatmap rows = computeHourlyHeatmap rows') ∧
    (∀ rows rows' : List ShadowVariantAggregateRow, rows.Perm rows' →
      computeVariantAggregate rows = computeVariantAggregate rows') ∧
    ∀ (values : List ℚ) (pct : ℚ), values ≠ [] → values.Pairwise (· ≤ ·) → 0 ≤ pct → pct ≤ 100 →
      (0 ≤ lowerIdx values.length pct ∧
        lowerIdx values.length pct ≤ upperIdx values.length pct ∧
        upperIdx values.length pct < values.length) ∧
      ∃ value, percentileLinear values pct = some value ∧
        (∀ least greatest, IsLeast {x | x ∈ values} least → IsGreatest {x | x ∈ values} greatest →
          least ≤ value ∧ value ≤ greatest) ∧
        ∀ later, pct ≤ later → later ≤ 100 →
          ∃ value', percentileLinear values later = some value' ∧ value ≤ value' := by
  refine ⟨pnl_series_sums, fun rows => ⟨flatMap_trades_computeHourlyHeatmap,
    fun cell member => count_of_mem_computeHourlyHeatmap member⟩, fun rows => ?_, ?_,
    fun rows rows' same => computeVariantAggregate_perm same, ?_⟩
  · refine ⟨flatMap_trades_computeVariantAggregate, pairwise_sortKey, fun m member => ?_⟩
    obtain ⟨filled, metrics⟩ := mem_computeVariantAggregate member
    have pnls : (m.trades rows).map (·.realizedPnl) ≠ [] := by
      rwa [ne_eq, List.map_eq_nil_iff]
    have best : m.bestPnl = ((m.trades rows).map (·.realizedPnl)).max?.getD 0 :=
      congrArg VariantAggregateMetrics.bestPnl metrics
    have worst : m.worstPnl = ((m.trades rows).map (·.realizedPnl)).min?.getD 0 :=
      congrArg VariantAggregateMetrics.worstPnl metrics
    refine ⟨congrArg VariantAggregateMetrics.nTrades metrics,
      congrArg VariantAggregateMetrics.totalPnl metrics, ?_, ?_⟩
    · rw [best]
      exact isGreatest_max? pnls
    · rw [worst]
      exact isLeast_min? pnls
  · intro rows rows' same
    exact ⟨fun bucket => computePnlSeries_perm same, computeHourlyHeatmap_perm same⟩
  · intro values pct nonempty ascending nonneg le
    obtain ⟨lower, upper, _, next, within, lowerIs, upperIs⟩ := idx_eq nonempty nonneg le
    have positive := List.length_pos_iff.mpr nonempty
    refine ⟨by omega, _, percentileLinear_eq nonempty nonneg le,
      fun least greatest minimum maximum =>
        interpolate_clamped_mem nonempty ascending nonneg minimum maximum,
      fun later after last => ⟨_, percentileLinear_eq nonempty (nonneg.trans after) last, ?_⟩⟩
    exact interpolate_mono (monotone_clamped ascending) (rankOf_nonneg nonempty nonneg)
      (rankOf_mono nonempty after)

/-- Two trades on two days, and the quartiles of three values. -/
theorem analytics_aggregation_three :
    (computePnlSeries [⟨2, dayLength⟩, ⟨1, 5⟩] .day =
        computePnlSeries [⟨1, 5⟩, ⟨2, dayLength⟩] .day ∧
      computePnlSeries [⟨1, 5⟩, ⟨2, dayLength⟩] .day = [⟨0, 1, 1⟩, ⟨dayLength, 2, 3⟩]) ∧
    percentileLinear [1, 2, 4] 75 = some 3 ∧
    ∃ value, percentileLinear [1, 2, 4] 25 = some value ∧ value ≤ 3 := by
  obtain ⟨_, _, _, reordered, _, percentiles⟩ := analytics_aggregation
  have quartile : percentileLinear [1, 2, 4] 75 = some 3 := by decide +kernel
  obtain ⟨_, value, found, _, later⟩ := percentiles [1, 2, 4] 25 (by simp) (by norm_num)
    (by norm_num) (by norm_num)
  obtain ⟨value', found', le⟩ := later 75 (by norm_num) (by norm_num)
  obtain rfl := Option.some.inj (found'.symm.trans quartile)
  exact ⟨⟨(reordered _ _ (List.Perm.swap _ _ [])).1 .day, by decide +kernel⟩,
    quartile, value, found, le⟩

end Scalper.Analytics
