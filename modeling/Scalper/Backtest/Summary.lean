import Scalper.Lib.Drawdown
import Scalper.Strategy.TradeTables
import Mathlib.Tactic.Linarith

/-!
# The summary of a backtest

`_compute_summary` of `scripts/backtest.py`: the results of the closed trades of a run, in the order
they were closed, are added up, and one loop keeps the highest sum so far and the deepest fall below
it.  That fall is the greatest one between any two places of the list (`isGreatest_mdd`).

The kill switch reads the peak and the current sum of the same results out of the database
(`select_pnl_peak_and_current`), where the peak does not count the sum before the first trade.  What
it takes for given back lies within what the summary reports (`computeSummary_figures`).

The sums are exact.  The two proportions are binary floats, and how they are computed and rounded is
left open.
-/

set_option autoImplicit false

namespace Scalper.Backtest

open Scalper.Lib Scalper.Strategy

variable {F : Type*}

/-- What `_compute_summary` returns, before the sums are printed. -/
structure Summary (F : Type*) where
  totalTrades : ℕ
  wr : Option F
  pnl : ℚ
  pf : Option F
  mdd : ℚ
  deriving DecidableEq, Repr

/-- `cum`, `peak` and `mdd` of the loop. -/
structure Curve where
  cum : ℚ := 0
  peak : ℚ := 0
  mdd : ℚ := 0
  deriving DecidableEq, Repr

/-- One turn of the loop. -/
def Curve.step (curve : Curve) (p : ℚ) : Curve :=
  let cum := curve.cum + p
  let peak := if curve.peak < cum then cum else curve.peak
  let drawdown := peak - cum
  ⟨cum, peak, if curve.mdd < drawdown then drawdown else curve.mdd⟩

def curve (pnls : List ℚ) : Curve := pnls.foldl Curve.step {}

def wins (pnls : List ℚ) : ℕ := pnls.countP fun p => 0 < p

def grossWins (pnls : List ℚ) : ℚ := (pnls.filter fun p => 0 < p).sum

def grossLosses (pnls : List ℚ) : ℚ := ((pnls.filter fun p => p < 0).map fun p => -p).sum

section Computed

variable (proportion : ℕ → ℕ → F) (ratio : ℚ → ℚ → F)

/-- `_compute_summary`, of the fetched results.  `proportion` and `ratio` are the rounded quotients
of two counts and of two sums. -/
def computeSummary (pnls : List ℚ) : Summary F :=
  if pnls = [] then ⟨0, none, 0, none, 0⟩
  else
    { totalTrades := pnls.length
      wr := some (proportion (wins pnls) pnls.length)
      pnl := pnls.sum
      pf :=
        if grossWins pnls = 0 ∨ grossLosses pnls = 0 then none
        else some (ratio (grossWins pnls) (grossLosses pnls))
      mdd := (curve pnls).mdd }

end Computed

/-! ## The loop -/

/-- What the loop has after the results `pnls`. -/
structure Tracks (pnls : List ℚ) (curve : Curve) : Prop where
  cum : curve.cum = pnls.sum
  peak : IsGreatest (runningSums pnls) curve.peak
  mdd : IsGreatest (falls pnls) curve.mdd

section Loop

variable {pnls : List ℚ}

theorem Tracks.step {reached : Curve} (tracks : Tracks pnls reached) (p : ℚ) :
    Tracks (pnls ++ [p]) (reached.step p) := by
  have cum : reached.cum + p = (pnls ++ [p]).sum := by
    rw [tracks.cum, List.sum_append, List.sum_singleton]
  have peak := isGreatest_runningSums_concat p tracks.peak
  have mdd := isGreatest_falls_concat p tracks.mdd peak
  rw [← cum] at peak mdd
  -- both assignments of the loop are a maximum
  have peakIs : (reached.step p).peak = max (reached.cum + p) reached.peak :=
    (max_def_lt' _ _).symm
  have mddIs : (reached.step p).mdd =
      max reached.mdd ((reached.step p).peak - (reached.cum + p)) := (max_def_lt _ _).symm
  refine ⟨cum, peakIs ▸ peak, ?_⟩
  rw [mddIs, peakIs]
  exact mdd

theorem tracks_curve (pnls : List ℚ) : Tracks pnls (curve pnls) := by
  induction pnls using List.reverseRecOn with
  | nil =>
      refine ⟨rfl, ?_, ?_⟩
      · rw [runningSums_nil]
        exact isGreatest_singleton
      · rw [falls_nil]
        exact isGreatest_singleton
  | append_singleton pnls p tracks =>
      rw [curve, List.foldl_append]
      exact tracks.step p

end Loop

section Computed

variable (proportion : ℕ → ℕ → F) (ratio : ℚ → ℚ → F) (pnls : List ℚ)

theorem pnl_eq : (computeSummary proportion ratio pnls).pnl = pnls.sum := by
  by_cases empty : pnls = []
  · rw [computeSummary, if_pos empty, empty, List.sum_nil]
  · rw [computeSummary, if_neg empty]

/-- The reported drawdown is the greatest fall of the running sums. -/
theorem isGreatest_mdd :
    IsGreatest (falls pnls) (computeSummary proportion ratio pnls).mdd := by
  by_cases empty : pnls = []
  · rw [computeSummary, if_pos empty, empty, falls_nil]
    exact isGreatest_singleton
  · rw [computeSummary, if_neg empty]
    exact (tracks_curve pnls).mdd

variable {pnls}

/-- Items that are all positive add up to nothing only if there is none. -/
theorem sum_eq_zero_iff_nil {items : List ℚ} (positive : ∀ item ∈ items, 0 < item) :
    items.sum = 0 ↔ items = [] := by
  constructor
  · intro zero
    cases items with
    | nil => rfl
    | cons item items =>
        rw [List.forall_mem_cons] at positive
        have rest : 0 ≤ items.sum := List.sum_nonneg fun item member =>
          (positive.2 item member).le
        have first := positive.1
        rw [List.sum_cons] at zero
        linarith
  · rintro rfl
    rfl

theorem grossWins_eq_zero_iff : grossWins pnls = 0 ↔ ¬ ∃ p ∈ pnls, 0 < p := by
  rw [grossWins,
    sum_eq_zero_iff_nil fun p member => of_decide_eq_true (List.mem_filter.mp member).2,
    List.filter_eq_nil_iff]
  simp

theorem grossLosses_eq_zero_iff : grossLosses pnls = 0 ↔ ¬ ∃ p ∈ pnls, p < 0 := by
  have positive : ∀ loss ∈ (pnls.filter fun p => p < 0).map fun p => -p, 0 < loss := by
    intro loss member
    obtain ⟨p, listed, rfl⟩ := List.mem_map.mp member
    have negative := of_decide_eq_true (List.mem_filter.mp listed).2
    linarith
  rw [grossLosses, sum_eq_zero_iff_nil positive, List.map_eq_nil_iff, List.filter_eq_nil_iff]
  simp

/-- The profit factor is left out when nothing was won or nothing was lost. -/
theorem pf_eq_none_iff :
    (computeSummary proportion ratio pnls).pf = none ↔
      (¬ ∃ p ∈ pnls, 0 < p) ∨ ¬ ∃ p ∈ pnls, p < 0 := by
  rw [computeSummary, ← grossWins_eq_zero_iff, ← grossLosses_eq_zero_iff]
  split_ifs with empty zero
  · simp [empty, grossWins]
  · simp [zero]
  · simp [zero]

end Computed

/-! ## The peak in the database -/

/-- The results of the closed trades of a bot, `ORDER BY closed_at, id`. -/
def closedPnls (rows : List TradeRecord) (botId : String) : List ℚ :=
  ((closedWithPnl rows botId).insertionSort fun row other => row.orderedBefore other).filterMap
    TradeRecord.realizedPnl

section Peak

variable (rows : List TradeRecord) (botId : String)

theorem current_eq : (selectPnlPeakAndCurrent rows botId).2 = (closedPnls rows botId).sum :=
  (((closedWithPnl rows botId).perm_insertionSort _).filterMap _).sum_eq.symm

/-- The peak is one of the running sums: of those after a trade, or zero where there is none. -/
theorem peak_mem_runningSums :
    (selectPnlPeakAndCurrent rows botId).1 ∈ runningSums (closedPnls rows botId) := by
  change (((closedPnls rows botId).scanl (· + ·) 0).tail.max?).getD 0 ∈ _
  cases peak : ((closedPnls rows botId).scanl (· + ·) 0).tail.max? with
  | none => exact zero_mem_runningSums _
  | some greatest => exact mem_runningSums_of_mem_scanl (List.mem_of_mem_tail (List.max?_mem peak))

/-- What the kill switch takes for given back is one of the falls. -/
theorem giveBack_mem_falls :
    (selectPnlPeakAndCurrent rows botId).1 - (selectPnlPeakAndCurrent rows botId).2 ∈
      falls (closedPnls rows botId) := by
  rw [current_eq]
  exact sub_sum_mem_falls (peak_mem_runningSums rows botId)

end Peak

/-- **The figures of the summary**: the sum of the results, the greatest fall of their running sums,
and no profit factor exactly when nothing was won or nothing was lost.  On the history of a bot the
drop from the peak of the database to the current sum is no deeper than that fall. -/
theorem computeSummary_figures (proportion : ℕ → ℕ → F) (ratio : ℚ → ℚ → F) (pnls : List ℚ) :
    (computeSummary proportion ratio pnls).pnl = pnls.sum ∧
    IsGreatest
      {fall | ∃ i j, i ≤ j ∧ j ≤ pnls.length ∧ fall = (pnls.take i).sum - (pnls.take j).sum}
      (computeSummary proportion ratio pnls).mdd ∧
    ((computeSummary proportion ratio pnls).pf = none ↔
      (¬ ∃ p ∈ pnls, 0 < p) ∨ ¬ ∃ p ∈ pnls, p < 0) ∧
    ∀ rows botId,
      (selectPnlPeakAndCurrent rows botId).1 - (selectPnlPeakAndCurrent rows botId).2 ≤
        (computeSummary proportion ratio (closedPnls rows botId)).mdd := by
  refine ⟨pnl_eq proportion ratio pnls, isGreatest_mdd proportion ratio pnls,
    pf_eq_none_iff proportion ratio, fun rows botId => ?_⟩
  exact (isGreatest_mdd proportion ratio (closedPnls rows botId)).2 (giveBack_mem_falls rows botId)

end Scalper.Backtest
