import Scalper.Backtest.Runs
import Scalper.Lib.Comprehension

/-!
# What backtest runs report

The copy at the end of a backtest takes every closed paper trade of the bot, whoever opened it.  So
the figures of a run are those of the trades that are recorded under it, but of two runs of a bot
the later one reports the trades of the earlier one once more, and at most one of them reports its
own alone (`reports_nested`).

The paper tables never name the signal of a trade.  So a comparison of two runs finds no signal
that they have in common (`compare_finds_nothing`).
-/

set_option autoImplicit false

namespace Scalper.Backtest

open Scalper.Lib Scalper.Exchange Scalper.Paper

variable {ι : Type} {F : Type*}

/-! ## Comparisons -/

/-- `DivergingTradeRow`. -/
structure DivergingTradeRow where
  signalId : ℕ
  aCloseReason : Option CloseReason
  aRealizedPnl : Option ℚ
  bCloseReason : Option CloseReason
  bRealizedPnl : Option ℚ
  deriving DecidableEq

/-- The inner join of two runs on the signal, which is not `NULL`. -/
def joinOnSignal (runA runB : ℕ) (trades : List (BacktestTrade ι)) :
    List (ℕ × BacktestTrade ι × BacktestTrade ι) :=
  (trades.filter (·.runId = runA)).flatMap fun a =>
    (trades.filter (·.runId = runB)).filterMap fun b =>
      match a.signalId, b.signalId with
      | some signalId, some other => if signalId = other then some (signalId, a, b) else none
      | _, _ => none

/-- `select_diverging_trades_for_compare`. -/
def selectDivergingTrades (runA runB : ℕ) (trades : List (BacktestTrade ι)) :
    List DivergingTradeRow :=
  (((joinOnSignal runA runB trades).filter fun (_, a, b) =>
    a.closeReason ≠ b.closeReason ∨ a.realizedPnl ≠ b.realizedPnl).map fun (signalId, a, b) =>
      ⟨signalId, a.closeReason, a.realizedPnl, b.closeReason, b.realizedPnl⟩).insertionSort
    fun row later => row.signalId ≤ later.signalId

/-- `count_common_signals_for_compare`. -/
def countCommonSignals (runA runB : ℕ) (trades : List (BacktestTrade ι)) : ℕ :=
  (joinOnSignal runA runB trades).length

/-! ## What is copied -/

/-- Two rows of one paper trade: it is as it was opened, and closed if it was. -/
structure PaperTradeRow.Keeps (row later : PaperTradeRow ι) : Prop where
  botId : later.trade.botId = row.trade.botId
  opening : later.opening = row.opening
  signalId : later.signalId = row.signalId
  closed : row.trade.status = .closed → later.trade.status = .closed

theorem PaperTradeRow.Keeps.refl (row : PaperTradeRow ι) : row.Keeps row :=
  ⟨rfl, rfl, rfl, fun closed => closed⟩

section Copied

variable {w : BacktestWorld ι F}

/-- No statement takes a paper trade away, or changes how it was opened. -/
theorem keeps_perform (cols : Columns) (who : Option ι) (statement : PaperStatement)
    {row : PaperTradeRow ι} (member : row ∈ w.paperTrades) :
    ∃ later ∈ (w.perform cols who statement).paperTrades, row.Keeps later := by
  have updated : ∀ (tradeId : ℕ) (set : PaperTradeRow ι → PaperTradeRow ι),
      row.Keeps (set row) →
        ∃ later ∈ updateWhere (·.trade.id == tradeId) set w.paperTrades, row.Keeps later := by
    intro tradeId set keeps
    by_cases matched : (row.trade.id == tradeId) = true
    · exact ⟨set row, mem_updateWhere.mpr ⟨row, member, .inl ⟨matched, rfl⟩⟩, keeps⟩
    · exact ⟨row, mem_updateWhere.mpr ⟨row, member, .inr ⟨by simpa using matched, rfl⟩⟩, .refl row⟩
  cases statement with
  | opens opened => exact ⟨row, List.mem_append_left _ member, .refl row⟩
  | reduces tradeId newQty newFeesPaid newRealizedPnl =>
      exact updated tradeId _ ⟨rfl, rfl, rfl, fun closed => closed⟩
  | closes tradeId exitPrice realizedPnl feesPaid closedAt closeReason closeOrderId =>
      exact updated tradeId _ ⟨rfl, rfl, rfl, fun _ => rfl⟩

/-- What a statement leaves has been there, or was just opened. -/
theorem keeps_of_perform (cols : Columns) (who : Option ι) (statement : PaperStatement)
    {later : PaperTradeRow ι} (member : later ∈ (w.perform cols who statement).paperTrades) :
    later.signalId = none ∨ ∃ row ∈ w.paperTrades, row.Keeps later := by
  have updated : ∀ (tradeId : ℕ) (set : PaperTradeRow ι → PaperTradeRow ι),
      later ∈ updateWhere (·.trade.id == tradeId) set w.paperTrades →
        (∀ row : PaperTradeRow ι, row.Keeps (set row)) →
          ∃ row ∈ w.paperTrades, row.Keeps later := by
    intro tradeId set listed keeps
    obtain ⟨row, before, ⟨-, rfl⟩ | ⟨-, rfl⟩⟩ := mem_updateWhere.mp listed
    · exact ⟨row, before, keeps row⟩
    · exact ⟨later, before, .refl later⟩
  cases statement with
  | opens opened =>
      rcases List.mem_append.mp member with old | new
      · exact .inr ⟨later, old, .refl later⟩
      · exact .inl (by rw [List.mem_singleton.mp new])
  | reduces tradeId newQty newFeesPaid newRealizedPnl =>
      exact .inr (updated tradeId _ member fun row => ⟨rfl, rfl, rfl, fun closed => closed⟩)
  | closes tradeId exitPrice realizedPnl feesPaid closedAt closeReason closeOrderId =>
      exact .inr (updated tradeId _ member fun row => ⟨rfl, rfl, rfl, fun _ => rfl⟩)

/-- Every recorded trade is a copy of a paper trade that is closed, and no paper trade has a
signal. -/
structure Copied (w : BacktestWorld ι F) : Prop where
  unsigned : ∀ row ∈ w.paperTrades, row.signalId = none
  trades : ∀ trade ∈ w.trades, trade.signalId = none ∧ trade.status = .closed ∧
    ∃ row ∈ w.paperTrades, row.trade.status = .closed ∧ row.trade.botId = trade.botId ∧
      row.opening = trade.opening

/-- Neither the copies nor the paper trades name a signal, so that there is nothing to join on. -/
theorem joinOnSignal_eq_nil (copied : Copied w) (runA runB : ℕ) :
    joinOnSignal runA runB w.trades = [] := by
  refine List.flatMap_eq_nil_iff.mpr fun a member => List.filterMap_eq_nil_iff.mpr fun b _ => ?_
  rw [(copied.trades a (List.mem_of_mem_filter member)).1]

variable [DecidableEq ι] (setting : BacktestSetting F) (args : ι → BacktestArgs)

variable {setting args}

theorem Copied.move (copied : Copied w) {w' : BacktestWorld ι F}
    (move : BacktestMove setting args w w') : Copied w' := by
  cases move with
  | copies i runId now phase pnls held fetched next =>
      refine ⟨copied.unsigned, fun trade member => ?_⟩
      rcases List.mem_append.mp member with old | new
      · exact copied.trades trade old
      · obtain ⟨row, selected, rfl⟩ := List.mem_map.mp new
        obtain ⟨listed, ofBot, closed⟩ := by simpa using List.mem_filter.mp selected
        exact ⟨copied.unsigned row listed, closed, row, listed, closed, ofBot, rfl⟩
  | performs who statement =>
      obtain ⟨trades, -⟩ := trades_perform (w := w) setting.cols who statement
      refine ⟨fun later member => ?_, fun trade member => ?_⟩
      · rcases keeps_of_perform setting.cols who statement member with new | ⟨row, listed, keeps⟩
        · exact new
        · exact keeps.signalId.trans (copied.unsigned row listed)
      · rw [trades] at member
        obtain ⟨unsigned, isClosed, row, listed, closed, ofBot, opening⟩ :=
          copied.trades trade member
        obtain ⟨later, still, keeps⟩ := keeps_perform setting.cols who statement listed
        exact ⟨unsigned, isClosed, later, still, keeps.closed closed, keeps.botId.trans ofBot,
          keeps.opening.trans opening⟩
  | _ => exact ⟨copied.unsigned, copied.trades⟩

variable (setting args) in
/-- **A comparison finds nothing**: in every run of the system, two runs have no signal in common
and no diverging trade, whatever they traded. -/
theorem compare_finds_nothing (steps : List (BacktestStep ι)) (runA runB : ℕ) :
    countCommonSignals runA runB
        (run (backtestStep setting args) ({} : BacktestWorld ι F) steps).trades = 0 ∧
      selectDivergingTrades runA runB
        (run (backtestStep setting args) ({} : BacktestWorld ι F) steps).trades = [] := by
  have copied := run_invariant_of_always (Copied (ι := ι) (F := F))
    (fun w step copied => copied.move (backtestMove setting args w step)) steps
    (s := ({} : BacktestWorld ι F))
    ⟨fun row member => absurd member List.not_mem_nil,
      fun trade member => absurd member List.not_mem_nil⟩
  have nothing := joinOnSignal_eq_nil copied runA runB
  exact ⟨congrArg List.length nothing, by rw [selectDivergingTrades, nothing]; rfl⟩

end Copied

/-! ## What the runs of a bot report -/

/-- Each trade of one list is a trade of the other, opened as it was. -/
def CoveredBy (trades again : List (BacktestTrade ι)) : Prop :=
  ∀ trade ∈ trades, ∃ same ∈ again, same.opening = trade.opening

/-- The run that a process has not completed, and has not failed to. -/
def BacktestPhase.pending : BacktestPhase → Option ℕ
  | .marking runId | .replaying runId => some runId
  | .starting | .failing _ _ | .ended _ => none

theorem BacktestPhase.run_of_pending {phase : BacktestPhase} {runId : ℕ}
    (pending : phase.pending = some runId) : phase.run = some runId := by
  cases phase with
  | marking _ => exact pending
  | replaying _ => exact pending
  | starting => cases pending
  | failing _ _ => cases pending
  | ended _ => cases pending

section Reports

variable {w : BacktestWorld ι F}

theorem tradesOf_copyPaperTrades_self (runId : ℕ) (botId : String) :
    (w.copyPaperTrades runId botId).tradesOf runId =
      w.tradesOf runId ++ (w.closedOf botId).map (PaperTradeRow.copy runId botId) := by
  have all : ((w.closedOf botId).map (PaperTradeRow.copy runId botId)).filter
      (fun trade => trade.runId = runId) =
        (w.closedOf botId).map (PaperTradeRow.copy runId botId) := by
    refine List.filter_eq_self.mpr fun trade member => ?_
    obtain ⟨row, -, rfl⟩ := List.mem_map.mp member
    exact decide_eq_true rfl
  rw [BacktestWorld.tradesOf, BacktestWorld.copyPaperTrades, List.filter_append, all]
  rfl

theorem tradesOf_copyPaperTrades_of_ne {runId other : ℕ} (botId : String) (ne : other ≠ runId) :
    (w.copyPaperTrades runId botId).tradesOf other = w.tradesOf other := by
  have none : ((w.closedOf botId).map (PaperTradeRow.copy runId botId)).filter
      (fun trade => trade.runId = other) = [] := by
    refine List.filter_eq_nil_iff.mpr fun trade member => ?_
    obtain ⟨row, -, rfl⟩ := List.mem_map.mp member
    rw [decide_eq_true_iff]
    exact ne.symm
  rw [BacktestWorld.tradesOf, BacktestWorld.copyPaperTrades, List.filter_append, none,
    List.append_nil]
  rfl

/-- The results of the trades of a run, in the order in which they were closed. -/
def BacktestWorld.resultsOf (w : BacktestWorld ι F) (runId : ℕ) : List ℚ :=
  ((w.tradesOf runId).insertionSort fun trade later =>
    trade.closedAt.getD 0 ≤ later.closedAt.getD 0).filterMap BacktestTrade.realizedPnl

/-- What `_compute_summary` sums up, where all trades of a run are closed. -/
theorem fetchPnls_ok {runId : ℕ} {pnls : List ℚ} (fetched : w.fetchPnls runId = .ok pnls)
    (closed : ∀ trade ∈ w.tradesOf runId, trade.status = .closed) :
    pnls.length = (w.tradesOf runId).length ∧ pnls = w.resultsOf runId := by
  have all : (w.tradesOf runId).filter (fun trade => trade.status = .closed) = w.tradesOf runId :=
    List.filter_eq_self.mpr fun trade member => decide_eq_true (closed trade member)
  rw [BacktestWorld.fetchPnls, all] at fetched
  have each := (mapM_eq_ok_iff _).mp fetched
  have sorted := List.perm_insertionSort
    (fun trade later : BacktestTrade ι => trade.closedAt.getD 0 ≤ later.closedAt.getD 0)
    (w.tradesOf runId)
  have read : ∀ {trades : List (BacktestTrade ι)} {read : List ℚ},
      List.Forall₂ (fun trade p => trade.result = .ok p) trades read →
        trades.filterMap BacktestTrade.realizedPnl = read := by
    intro trades read results
    induction results with
    | nil => rfl
    | @cons trade p trades read result _ ih =>
        have some : trade.realizedPnl = some p := by
          unfold BacktestTrade.result at result
          cases pnl : trade.realizedPnl with
          | none => rw [pnl] at result; cases result
          | some value => rw [pnl] at result; exact congrArg _ (Except.ok.inj result)
        rw [List.filterMap_cons_some some, ih]
  exact ⟨each.length_eq.symm.trans sorted.length_eq, (read each).symm⟩

/-- What the figures of a run say of the results of its trades, in the order of their closing. -/
structure Figures (setting : BacktestSetting F) (results : List ℚ) (summary : Summary F) :
    Prop where
  totalTrades : summary.totalTrades = results.length
  /-- The share of the trades that won. -/
  wr : summary.wr =
    if results = [] then none else some (setting.proportion (wins results) results.length)
  pnl : summary.pnl = results.sum
  /-- What was won for what was lost, where both are. -/
  pf : summary.pf =
    if (∃ p ∈ results, 0 < p) ∧ ∃ p ∈ results, p < 0 then
      some (setting.ratio (grossWins results) (grossLosses results))
    else none
  /-- The greatest fall of the running sums. -/
  mdd : IsGreatest (falls results) summary.mdd

theorem figures_computeSummary (setting : BacktestSetting F) (pnls : List ℚ) :
    Figures setting pnls (computeSummary setting.proportion setting.ratio pnls) := by
  have some : pnls ≠ [] →
      computeSummary setting.proportion setting.ratio pnls =
        ⟨pnls.length, some (setting.proportion (wins pnls) pnls.length), pnls.sum,
          if grossWins pnls = 0 ∨ grossLosses pnls = 0 then none
          else some (setting.ratio (grossWins pnls) (grossLosses pnls)), (curve pnls).mdd⟩ :=
    fun some => by rw [computeSummary, if_neg some]
  refine ⟨?_, ?_, pnl_eq _ _ pnls, ?_, isGreatest_mdd _ _ pnls⟩
  · by_cases empty : pnls = []
    · rw [computeSummary, if_pos empty, empty, List.length_nil]
    · rw [some empty]
  · by_cases empty : pnls = []
    · rw [computeSummary, if_pos empty, if_pos empty]
    · rw [some empty, if_neg empty]
  · by_cases none : (computeSummary setting.proportion setting.ratio pnls).pf = none
    · rw [none, if_neg fun both => ((pf_eq_none_iff _ _).mp none).elim (fun no => no both.1)
        fun no => no both.2]
    · have both := mt (@pf_eq_none_iff _ setting.proportion setting.ratio pnls).mpr none
      rw [not_or, not_not, not_not] at both
      obtain ⟨p, listed, -⟩ := both.1
      rw [some (List.ne_nil_of_mem listed), if_pos both, if_neg]
      exact fun zero => zero.elim (fun won => grossWins_eq_zero_iff.mp won both.1)
        fun lost => grossLosses_eq_zero_iff.mp lost both.2

/-- A run that is held has no summary, and no trade. -/
def Uncopied (w : BacktestWorld ι F) : Prop :=
  ∀ i runId, (w.processes i).pending = some runId →
    w.tradesOf runId = [] ∧ ∀ row ∈ w.runs, row.id = runId → row.summary = none

/-- The figures of a run are those of its trades, each of which has a result. -/
def Summed (setting : BacktestSetting F) (w : BacktestWorld ι F) : Prop :=
  ∀ row ∈ w.runs, ∀ summary, row.summary = some (.figures summary) →
    summary.totalTrades = (w.tradesOf row.id).length ∧
      Figures setting (w.resultsOf row.id) summary

/-- Of two lists of trades of one bot, one covers the other. -/
def Nested (w : BacktestWorld ι F) : Prop :=
  ∀ runId other,
    (∀ trade ∈ w.tradesOf runId, ∀ again ∈ w.tradesOf other, trade.botId = again.botId) →
      CoveredBy (w.tradesOf runId) (w.tradesOf other) ∨
        CoveredBy (w.tradesOf other) (w.tradesOf runId)

variable [DecidableEq ι] {setting : BacktestSetting F} {args : ι → BacktestArgs}

/-- A process that holds a run still, when another has none any more, holds another one. -/
theorem Held.pending_of_enter (held : Held args w) {i j : ι} {runId other : ℕ}
    {phase : BacktestPhase} (holds : (w.processes i).run = some runId)
    (gone : phase.pending = none)
    (pending : ((w.enter i phase).processes j).pending = some other) :
    other ≠ runId ∧ (w.processes j).pending = some other := by
  rcases (enter_eq_some BacktestPhase.pending).mp pending with ⟨rfl, taken⟩ | ⟨apart, old⟩
  · rw [gone] at taken
    cases taken
  · exact ⟨fun same => apart (held.apart j i other (BacktestPhase.run_of_pending old)
      (holds.trans (congrArg some same.symm))), old⟩

omit [DecidableEq ι] in
/-- The end of a run leaves the rows of the others. -/
theorem mem_runs_of_complete {row : BacktestRunRow F} {runId : ℕ} {status : BacktestStatus}
    {summary : RunSummary F} {now : ℤ} (member : row ∈ (w.complete runId status summary now).runs)
    (apart : row.id ≠ runId) : row ∈ w.runs := by
  obtain ⟨old, listed, ⟨matched, rfl⟩ | ⟨-, rfl⟩⟩ := mem_updateWhere.mp member
  · exact absurd (by simpa using matched) apart
  · exact listed

theorem Uncopied.move (uncopied : Uncopied w) (held : Held args w) {w' : BacktestWorld ι F}
    (move : BacktestMove setting args w w') : Uncopied w' := by
  cases move with
  | stays => exact uncopied
  | queues call queued event accepted =>
      intro i runId pending
      obtain ⟨none, unsummed⟩ := uncopied i runId pending
      refine ⟨none, fun row member same => ?_⟩
      rcases List.mem_append.mp member with old | new
      · exact unsummed row old same
      · rw [List.mem_singleton.mp new]
        exact (triggerBacktestRun_ok accepted).2.2.1
  | gives => exact uncopied
  | inserts i now phase next =>
      intro j runId pending
      have inserted : w.tradesOf runId = [] ∧
          ∀ row ∈ w.runs, row.id = runId → row.summary = none := by
        rcases (enter_eq_some BacktestPhase.pending).mp pending with ⟨rfl, taken⟩ | ⟨-, old⟩
        · rw [next runId (BacktestPhase.run_of_pending taken)]
          refine ⟨List.filter_eq_nil_iff.mpr fun trade member => ?_, fun row member same => ?_⟩
          · rw [decide_eq_true_iff]
            exact (held.trades trade member).ne
          · exact absurd same (held.runs row member).ne
        · exact uncopied j runId old
      refine ⟨inserted.1, fun row member same => ?_⟩
      rcases List.mem_append.mp member with old | new
      · exact inserted.2 row old same
      · rw [List.mem_singleton.mp new]
        rfl
  | leaves i phase gone =>
      intro j runId pending
      rcases (enter_eq_some BacktestPhase.pending).mp pending with ⟨rfl, taken⟩ | ⟨-, old⟩
      · rw [BacktestPhase.run_of_pending taken] at gone
        cases gone
      · exact uncopied j runId old
  | breaks i runId raised holds =>
      intro j other pending
      rcases (enter_eq_some BacktestPhase.pending).mp pending with ⟨rfl, taken⟩ | ⟨-, old⟩
      · cases taken
      · exact uncopied j other old
  | marks i runId now phase holds next =>
      intro j other pending
      have before : (w.processes j).pending = some other := by
        rcases (enter_eq_some BacktestPhase.pending).mp pending with ⟨rfl, taken⟩ | ⟨-, old⟩
        · rcases next with rfl | ⟨raised, rfl⟩
          · rw [holds]
            exact taken
          · cases taken
        · exact old
      obtain ⟨none, unsummed⟩ := uncopied j other before
      refine ⟨none, fun row member same => ?_⟩
      obtain ⟨old, listed, ⟨-, rfl⟩ | ⟨-, rfl⟩⟩ := mem_updateWhere.mp member
      · exact unsummed old listed same
      · exact unsummed row listed same
  | copies i runId now phase pnls holds fetched next =>
      intro j other pending
      have gone : phase.pending = none := by rcases next with rfl | ⟨raised, rfl⟩ <;> rfl
      obtain ⟨apart, before⟩ :=
        held.pending_of_enter (congrArg BacktestPhase.run holds) gone pending
      obtain ⟨none, unsummed⟩ := uncopied j other before
      exact ⟨(tradesOf_copyPaperTrades_of_ne _ apart).trans none, fun row member same =>
        unsummed row (mem_runs_of_complete member (same ▸ apart)) same⟩
  | fails i runId raised text now code holds =>
      intro j other pending
      obtain ⟨apart, before⟩ :=
        held.pending_of_enter (congrArg BacktestPhase.run holds) rfl pending
      obtain ⟨none, unsummed⟩ := uncopied j other before
      exact ⟨none, fun row member same =>
        unsummed row (mem_runs_of_complete member (same ▸ apart)) same⟩
  | performs who statement =>
      obtain ⟨trades, runs, processes, -⟩ := trades_perform (w := w) setting.cols who statement
      rw [Uncopied, processes, runs]
      simp only [BacktestWorld.tradesOf, trades]
      exact uncopied

theorem Summed.move (summed : Summed setting w) (uncopied : Uncopied w)
    {w' : BacktestWorld ι F} (move : BacktestMove setting args w w') : Summed setting w' := by
  cases move with
  | stays => exact summed
  | queues call queued event accepted =>
      intro row member summary figures
      rcases List.mem_append.mp member with old | new
      · exact summed row old summary figures
      · rw [List.mem_singleton.mp new, (triggerBacktestRun_ok accepted).2.2.1] at figures
        cases figures
  | gives => exact summed
  | inserts i now phase next =>
      intro row member summary figures
      rcases List.mem_append.mp member with old | new
      · exact summed row old summary figures
      · rw [List.mem_singleton.mp new] at figures
        cases figures
  | leaves i phase gone => exact summed
  | breaks i runId raised holds => exact summed
  | marks i runId now phase holds next =>
      intro row member summary figures
      obtain ⟨old, listed, ⟨-, rfl⟩ | ⟨-, rfl⟩⟩ := mem_updateWhere.mp member
      · exact summed old listed summary figures
      · exact summed row listed summary figures
  | copies i runId now phase pnls holds fetched next =>
      intro row member summary figures
      have none : w.tradesOf runId = [] :=
        (uncopied i runId (congrArg BacktestPhase.pending holds)).1
      have closed : ∀ trade ∈ (w.copyPaperTrades runId (args i).bot).tradesOf runId,
          trade.status = .closed := by
        intro trade recorded
        rw [tradesOf_copyPaperTrades_self, none, List.nil_append] at recorded
        obtain ⟨paper, selected, rfl⟩ := List.mem_map.mp recorded
        exact (by simpa using (List.mem_filter.mp selected).2 :
          paper.trade.botId = (args i).bot ∧ paper.trade.status = .closed).2
      obtain ⟨old, listed, ⟨matched, rfl⟩ | ⟨unmatched, rfl⟩⟩ := mem_updateWhere.mp member
      · have own : old.id = runId := by simpa using matched
        cases figures
        obtain ⟨total, results⟩ := fetchPnls_ok fetched closed
        have figures := figures_computeSummary setting pnls
        show _ = ((w.copyPaperTrades runId (args i).bot).tradesOf old.id).length ∧
          Figures setting ((w.copyPaperTrades runId (args i).bot).resultsOf old.id) _
        rw [own, ← results]
        exact ⟨figures.totalTrades.trans total, figures⟩
      · have other : row.id ≠ runId := by simpa using unmatched
        show _ = ((w.copyPaperTrades runId (args i).bot).tradesOf row.id).length ∧
          Figures setting ((w.copyPaperTrades runId (args i).bot).resultsOf row.id) _
        rw [BacktestWorld.resultsOf, tradesOf_copyPaperTrades_of_ne _ other]
        exact summed row listed summary figures
  | fails i runId raised text now code holds =>
      intro row member summary figures
      obtain ⟨old, listed, ⟨-, rfl⟩ | ⟨-, rfl⟩⟩ := mem_updateWhere.mp member
      · cases figures
      · exact summed row listed summary figures
  | performs who statement =>
      obtain ⟨trades, runs, -⟩ := trades_perform (w := w) setting.cols who statement
      rw [Summed, runs]
      simp only [BacktestWorld.resultsOf, BacktestWorld.tradesOf, trades]
      exact summed

omit [DecidableEq ι] in
/-- What was recorded for the bot before is copied again. -/
theorem coveredBy_copy (copied : Copied w) {runId other : ℕ} {botId : String}
    (ofBot : ∀ trade ∈ w.tradesOf other, trade.botId = botId) :
    CoveredBy (w.tradesOf other) ((w.copyPaperTrades runId botId).tradesOf runId) := by
  intro trade member
  obtain ⟨-, -, row, listed, closed, bot, opening⟩ :=
    copied.trades trade (List.mem_of_mem_filter member)
  refine ⟨row.copy runId botId, ?_, opening⟩
  rw [tradesOf_copyPaperTrades_self]
  refine List.mem_append_right _ (List.mem_map_of_mem (List.mem_filter.mpr ⟨listed, ?_⟩))
  exact decide_eq_true ⟨bot.trans (ofBot trade member), closed⟩

omit [DecidableEq ι] in
theorem Nested.copyPaperTrades (nested : Nested w) (copied : Copied w) {runId : ℕ}
    (none : w.tradesOf runId = []) (botId : String) : Nested (w.copyPaperTrades runId botId) := by
  have ofBot : ∀ trade ∈ (w.copyPaperTrades runId botId).tradesOf runId, trade.botId = botId := by
    intro trade member
    rw [tradesOf_copyPaperTrades_self, none, List.nil_append] at member
    obtain ⟨row, -, rfl⟩ := List.mem_map.mp member
    rfl
  -- the other run is covered where this one has a trade, and this one where it has none
  have beside : ∀ other, other ≠ runId →
      (∀ trade ∈ w.tradesOf other,
        ∀ again ∈ (w.copyPaperTrades runId botId).tradesOf runId, trade.botId = again.botId) →
      CoveredBy (w.tradesOf other) ((w.copyPaperTrades runId botId).tradesOf runId) ∨
        CoveredBy ((w.copyPaperTrades runId botId).tradesOf runId) (w.tradesOf other) := by
    intro other _ same
    cases selected : (w.copyPaperTrades runId botId).tradesOf runId with
    | nil => exact .inr fun trade member => absurd member List.not_mem_nil
    | cons again rest =>
        have here : again ∈ (w.copyPaperTrades runId botId).tradesOf runId :=
          selected ▸ List.mem_cons_self
        rw [← selected]
        exact .inl (coveredBy_copy copied fun trade member =>
          (same trade member again here).trans (ofBot again here))
  intro first second same
  by_cases own : first = runId
  · subst own
    by_cases both : second = first
    · subst both
      exact .inl fun trade member => ⟨trade, member, rfl⟩
    · rw [tradesOf_copyPaperTrades_of_ne _ both] at same ⊢
      exact (beside second both fun trade member again here =>
        (same again here trade member).symm).symm
  · rw [tradesOf_copyPaperTrades_of_ne _ own] at same ⊢
    by_cases other : second = runId
    · subst other
      exact beside first own same
    · rw [tradesOf_copyPaperTrades_of_ne _ other] at same ⊢
      exact nested first second same

theorem Nested.move (nested : Nested w) (copied : Copied w) (uncopied : Uncopied w)
    {w' : BacktestWorld ι F} (move : BacktestMove setting args w w') : Nested w' := by
  cases move with
  | copies i runId now phase pnls holds fetched next =>
      exact nested.copyPaperTrades copied
        (uncopied i runId (congrArg BacktestPhase.pending holds)).1 (args i).bot
  | performs who statement =>
      simp only [Nested, BacktestWorld.tradesOf,
        (trades_perform (w := w) setting.cols who statement).1]
      exact nested
  | _ => exact nested

/-- The trades of one process and of no other. -/
def OpenedBy (i : ι) (trades : List (BacktestTrade ι)) : Prop :=
  ∀ trade ∈ trades, trade.openedBy = some i

omit [DecidableEq ι] in
/-- Where one list covers the other, they are not both of one process alone. -/
theorem CoveredBy.not_openedBy {trades again : List (BacktestTrade ι)}
    (covered : CoveredBy trades again) {i j : ι} (apart : i ≠ j) (some : trades ≠ [])
    (own : OpenedBy i trades) : ¬OpenedBy j again := by
  intro other
  obtain ⟨trade, member⟩ := List.exists_mem_of_ne_nil trades some
  obtain ⟨same, listed, opening⟩ := covered trade member
  have openedBy : same.openedBy = trade.openedBy := congrArg Opening.openedBy opening
  rw [own trade member, other same listed] at openedBy
  exact apart (Option.some.inj openedBy).symm

/-- What is reported of the runs of one bot. -/
structure Reports (setting : BacktestSetting F) (w : BacktestWorld ι F) : Prop where
  summed : Summed setting w
  nested : ∀ row ∈ w.runs, ∀ other ∈ w.runs, row.botId = other.botId →
    CoveredBy (w.tradesOf row.id) (w.tradesOf other.id) ∨
      CoveredBy (w.tradesOf other.id) (w.tradesOf row.id)
  alone : ∀ row ∈ w.runs, ∀ other ∈ w.runs, row.botId = other.botId →
    w.tradesOf row.id ≠ [] → w.tradesOf other.id ≠ [] → ∀ i j, i ≠ j →
      ¬(OpenedBy i (w.tradesOf row.id) ∧ OpenedBy j (w.tradesOf other.id))

variable (setting args) in
/-- **The runs of a bot report each other's trades**: in every run of the system the figures of a
completed run are those of the trades recorded under it, and of two runs of one bot, one has all the
trades that the other has; so that two runs with trades are not both left with those of their own
process. -/
theorem reports_nested (steps : List (BacktestStep ι)) :
    Reports setting (run (backtestStep setting args) ({} : BacktestWorld ι F) steps) := by
  obtain ⟨held, copied, -, summed, nested⟩ := run_invariant_of_always
    (fun w : BacktestWorld ι F => Held args w ∧ Copied w ∧ Uncopied w ∧ Summed setting w ∧ Nested w)
    (fun w step ⟨held, copied, uncopied, summed, nested⟩ =>
      have move := backtestMove setting args w step
      ⟨held.move move, copied.move move, uncopied.move held move, summed.move uncopied move,
        nested.move copied uncopied move⟩) steps
    (s := ({} : BacktestWorld ι F))
    ⟨held_empty, ⟨fun row member => absurd member List.not_mem_nil,
        fun trade member => absurd member List.not_mem_nil⟩,
      fun i runId pending => (by cases pending), fun row member => absurd member List.not_mem_nil,
      fun runId other _ => .inl fun trade member => absurd member List.not_mem_nil⟩
  set w := run (backtestStep setting args) ({} : BacktestWorld ι F) steps
  have covered : ∀ row ∈ w.runs, ∀ other ∈ w.runs, row.botId = other.botId →
      CoveredBy (w.tradesOf row.id) (w.tradesOf other.id) ∨
        CoveredBy (w.tradesOf other.id) (w.tradesOf row.id) := by
    intro row member other listed same
    refine nested row.id other.id fun trade recorded again recorded' => ?_
    have ofRun : ∀ trade ∈ w.tradesOf row.id, row.botId = trade.botId := fun trade recorded =>
      held.ofTrade trade (List.mem_of_mem_filter recorded) row member
        (of_decide_eq_true (List.mem_filter.mp recorded).2).symm
    have ofOther : ∀ trade ∈ w.tradesOf other.id, other.botId = trade.botId := fun trade recorded =>
      held.ofTrade trade (List.mem_of_mem_filter recorded) other listed
        (of_decide_eq_true (List.mem_filter.mp recorded).2).symm
    exact (ofRun trade recorded).symm.trans (same.trans (ofOther again recorded'))
  refine ⟨summed, covered, fun row member other listed same some some' i j apart both => ?_⟩
  rcases covered row member other listed same with first | second
  · exact first.not_openedBy apart some both.1 both.2
  · exact second.not_openedBy apart.symm some' both.2 both.1

end Reports

/-! ## Two runs of one bot -/

/-- A setting in which every configuration is one of `alpha`. -/
def alphaSetting : BacktestSetting Unit where
  loads _ := some "alpha"
  sha256 _ := ""
  isBot _ := true
  isoformat _ := ""
  str _ := ""
  uuid _ := ""
  summaryJson _ := .null
  proportion _ _ := ()
  ratio _ _ := ()
  cols := ⟨id, id, id, id⟩
  oldest := List.head?

/-- A process that trades once and completes its run. -/
def replayOnce (i : Bool) (tradeId : ℕ) : List (BacktestStep Bool) :=
  [.inserts i 0 .done, .marksRunning i 0 .done "",
    .performs (some i)
      (.opens ⟨0, "alpha", tradeId, none, "BTCUSDT", .buy, 100, none, 1, 100, none, 0, none, 0,
        none, .isOpen⟩),
    .performs (some i) (.closes tradeId 101 1 0 1 .tp 0), .finishes i 1 .done ""]

/-- The second of two equal replays reports the trade of the first as well. -/
example :
    let w := run (backtestStep alphaSetting fun _ => ⟨"alpha", 0, 1, "", none, none⟩)
      ({} : BacktestWorld Bool Unit) (replayOnce true 1 ++ replayOnce false 2)
    w.runs.map BacktestRunRow.summary =
      [some (.figures ⟨1, some (), 1, none, 0⟩), some (.figures ⟨2, some (), 2, none, 0⟩)] := by
  decide +kernel

end Scalper.Backtest
