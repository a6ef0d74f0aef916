import Scalper.Execution.MonitorFaults

/-!
# How far the price has gone

Each tick of the position monitor compares its price with `best_price`, `mfe_price` and `mae_price`
of the row, which are null in a new row, and writes the three and the running profit back.  Stale
polls and texts that do not decode go to the next poll before the row is read.

The prices a task has `processedPrices` are those of its written ticks.  `run_shows` says what the
row shows of them in every run: their extremes by side and the profit at the last of them, each as
its column keeps it.  The numbers are exact where the columns have digits enough (`Shows.exact`);
in `dogeTick_rounded` they have not.
-/

set_option autoImplicit false

namespace Scalper.Execution

open Scalper.Lib Scalper.Exchange

/-! ## Extremes -/

/-- The best of some prices for a side, and for the opposite side the worst. -/
def extreme : Side → List ℚ → Option ℚ
  | .buy, prices => prices.max?
  | .sell, prices => prices.min?

section Extremes

variable {side : Side}

theorem extreme_nil (side : Side) : extreme side [] = none := by
  cases side <;> rfl

/-- `_update_best_price` takes the extreme of one price more. -/
theorem extreme_concat (side : Side) (prices : List ℚ) (price : ℚ) :
    extreme side (prices ++ [price]) = some (updateBestPrice side price (extreme side prices)) := by
  cases prices with
  | nil => cases side <;> rfl
  | cons first prices =>
      cases side with
      | buy =>
          simp only [extreme, List.cons_append, List.max?_cons', List.foldl_append, List.foldl_cons,
            List.foldl_nil, updateBestPrice, max_def_lt]
      | sell =>
          simp only [extreme, List.cons_append, List.min?_cons', List.foldl_append, List.foldl_cons,
            List.foldl_nil, updateBestPrice]
          rw [min_comm, min_def_lt]

/-- `_update_mfe_mae` tracks the best price twice, once for the opposite side. -/
theorem updateMfeMae_eq (side : Side) (price : ℚ) (mfe mae : Option ℚ) :
    updateMfeMae side price mfe mae =
      (updateBestPrice side price mfe, updateBestPrice side.opposite price mae) := by
  cases side <;> cases mfe <;> cases mae <;>
    simp [updateMfeMae, updateBestPrice, Side.opposite]

theorem numeric_numeric (scale : ℕ) (x : ℚ) : numeric scale (numeric scale x) = numeric scale x :=
  numeric_of_onGrid (onGrid_toScale _ _ _)

/-- A best price may be compared as its column keeps it. -/
theorem numeric_updateBestPrice (scale : ℕ) (side : Side) (price : ℚ) (best : Option ℚ) :
    numeric scale (updateBestPrice side price (best.map (numeric scale))) =
      numeric scale (updateBestPrice side price best) := by
  have monotone : Monotone (numeric scale) := fun _ _ le => numeric_mono le
  cases best with
  | none => rfl
  | some best =>
      cases side with
      | buy =>
          simp only [Option.map_some, updateBestPrice, ← max_def_lt, monotone.map_max,
            numeric_numeric]
      | sell =>
          simp only [Option.map_some, updateBestPrice, ← min_def_lt, monotone.map_min,
            numeric_numeric]

end Extremes

/-! ## What a row shows -/

/-- The row of a monitor shows the prices that were processed, each value at the scale of its
column. -/
structure Shows (atScale : ℕ → ℚ → ℚ) (m : Monitor) (prices : List ℚ) (row : PositionStateRow) :
    Prop where
  bestPrice : row.bestPrice = (extreme m.side prices).map (atScale 12)
  mfePrice : row.mfePrice = (extreme m.side prices).map (atScale 12)
  maePrice : row.maePrice = (extreme m.side.opposite prices).map (atScale 12)
  runningPnl : row.runningPnl =
    prices.getLast?.elim 0 fun price => atScale 4 ((price - m.entryPrice) * m.qty * m.side.sign)

/-- The values themselves, at any scale. -/
def unrounded (_ : ℕ) (x : ℚ) : ℚ := x

/-- The tracked columns of two rows are the same. -/
structure SameExcursions (row row' : PositionStateRow) : Prop where
  bestPrice : row'.bestPrice = row.bestPrice
  mfePrice : row'.mfePrice = row.mfePrice
  maePrice : row'.maePrice = row.maePrice
  runningPnl : row'.runningPnl = row.runningPnl

section Rows

variable {atScale : ℕ → ℚ → ℚ} {m : Monitor} {prices : List ℚ} {row row' : PositionStateRow}

/-- A row that was just created. -/
theorem shows_created (best : row.bestPrice = none) (mfe : row.mfePrice = none)
    (mae : row.maePrice = none) (pnl : row.runningPnl = 0) : Shows atScale m [] row where
  bestPrice := by rw [best, extreme_nil, Option.map_none]
  mfePrice := by rw [mfe, extreme_nil, Option.map_none]
  maePrice := by rw [mae, extreme_nil, Option.map_none]
  runningPnl := pnl

theorem Shows.congr (shown : Shows atScale m prices row) (same : SameExcursions row row') :
    Shows atScale m prices row' where
  bestPrice := same.bestPrice.trans shown.bestPrice
  mfePrice := same.mfePrice.trans shown.mfePrice
  maePrice := same.maePrice.trans shown.maePrice
  runningPnl := same.runningPnl.trans shown.runningPnl

/-- A tick shows its price, whatever else the row it writes to holds. -/
theorem Shows.ticked {r : Reading} (shown : Shows numeric m prices r.ps) (now : ℕ)
    (row : PositionStateRow) :
    Shows numeric m (prices ++ [r.price]) ((r.write m now).set row) where
  bestPrice := by
    simp only [Reading.write, Reading.newBest, MonitorWrite.set, PositionStateRow.tick]
    rw [extreme_concat, Option.map_some, shown.bestPrice, numeric_updateBestPrice]
  mfePrice := by
    simp only [Reading.write, updateMfeMae_eq, MonitorWrite.set, PositionStateRow.tick]
    rw [extreme_concat, Option.map_some, shown.mfePrice, numeric_updateBestPrice]
  maePrice := by
    simp only [Reading.write, updateMfeMae_eq, MonitorWrite.set, PositionStateRow.tick]
    rw [extreme_concat, Option.map_some, shown.maePrice, numeric_updateBestPrice]
  runningPnl := by
    rw [List.getLast?_concat]
    rfl

theorem extreme_onGrid {scale : ℕ} {side : Side} (grid : ∀ price ∈ prices, OnGrid scale price) :
    (extreme side prices).map (numeric scale) = extreme side prices := by
  cases best : extreme side prices with
  | none => rfl
  | some price =>
      have member : price ∈ prices := by
        cases side with
        | buy => exact List.max?_mem best
        | sell => exact List.min?_mem best
      rw [Option.map_some, numeric_of_onGrid (grid price member)]

/-- Prices and profits that their columns hold are shown as they are. -/
theorem Shows.exact (shown : Shows numeric m prices row)
    (grid : ∀ price ∈ prices, OnGrid 12 price)
    (pnls : ∀ price ∈ prices, OnGrid 4 ((price - m.entryPrice) * m.qty * m.side.sign)) :
    Shows unrounded m prices row where
  bestPrice := by
    rw [shown.bestPrice, extreme_onGrid grid]
    exact Option.map_id'.symm
  mfePrice := by
    rw [shown.mfePrice, extreme_onGrid grid]
    exact Option.map_id'.symm
  maePrice := by
    rw [shown.maePrice, extreme_onGrid grid]
    exact Option.map_id'.symm
  runningPnl := by
    rw [shown.runningPnl]
    cases last : prices.getLast? with
    | none => rfl
    | some price => exact numeric_of_onGrid (pnls price (List.mem_of_getLast? last))

end Rows

/-! ## Runs -/

/-- The prices of the ticks that a step writes. -/
def MonitorTask.processes (w : MonitorTask) (input : MonitorInput) : List ℚ :=
  match w.isOver, w.desk.phase, input with
  | false, .ticking r, .ticks _ => if w.storable then [r.price] else []
  | _, _, _ => []

/-- The prices a task processes in a run. -/
def processedPrices (c : MonitorSettings) : MonitorTask → List MonitorInput → List ℚ
  | _, [] => []
  | w, input :: inputs => w.processes input ++ processedPrices c (monitorTick c input w) inputs

/-- The row of the key keeps its tracked columns, or is deleted. -/
def KeepsExcursions (key : PositionKey) (db db' : Db) : Prop :=
  ∀ row', db'.positions.lookup key = some row' →
    ∃ row, db.positions.lookup key = some row ∧ SameExcursions row row'

/-- What other tasks do to the tables leaves the tracked columns to the monitor. -/
def LeavesExcursions (c : MonitorSettings) (w : MonitorTask) : MonitorInput → Prop
  | .others db _ => KeepsExcursions c.monitor.key w.desk.db db
  | _ => True

/-- The row shows the processed prices, and so does the row a tick has read. -/
structure Displays (m : Monitor) (prices : List ℚ) (d : Desk) : Prop where
  stored : ∀ row, d.db.positions.lookup m.key = some row → Shows numeric m prices row
  read : ∀ r, d.phase = .ticking r → Shows numeric m prices r.ps

section Keeps

variable {key : PositionKey} {db db' : Db}

theorem KeepsExcursions.of_positions (same : db'.positions = db.positions) :
    KeepsExcursions key db db' :=
  fun row' after => ⟨row', same ▸ after, rfl, rfl, rfl, rfl⟩

theorem KeepsExcursions.slMoved (slPrice : ℚ) (slType : SlType) (now : ℕ) :
    KeepsExcursions key db (db.monitored key (.slMoved slPrice slType now)) := by
  intro row' after
  rw [lookup_monitored, if_pos rfl] at after
  obtain ⟨row, before, rfl⟩ := Option.map_eq_some_iff.mp after
  exact ⟨row, before, rfl, rfl, rfl, rfl⟩

end Keeps

section Runs

variable {c : MonitorSettings} {m : Monitor} {prices : List ℚ} {d d' : Desk} {w : MonitorTask}

/-- Steps that write no tracked column and read no row. -/
theorem Displays.keeps (displays : Displays m prices d) (keeps : KeepsExcursions m.key d.db d'.db)
    (phase : ∀ r, d'.phase = .ticking r → d.phase = .ticking r) : Displays m prices d' where
  stored := by
    intro row' after
    obtain ⟨row, before, same⟩ := keeps row' after
    exact (displays.stored row before).congr same
  read := fun r here => displays.read r (phase r here)

/-- Steps that leave the tables and read no row. -/
theorem Displays.enters (displays : Displays m prices d) {phase : TickPhase}
    (elsewhere : ∀ r, phase ≠ .ticking r) : Displays m prices { d with phase := phase } :=
  displays.keeps (.of_positions rfl) fun r here => absurd here (elsewhere r)

/-- A written tick. -/
theorem Displays.ticked (displays : Displays m prices d) {r : Reading} (here : d.phase = .ticking r)
    (now : ℕ) : Displays m (prices ++ [r.price])
      { d with phase := .detecting r, db := d.db.monitored m.key (r.write m now) } where
  stored := by
    intro row' after
    rw [lookup_monitored, if_pos rfl] at after
    obtain ⟨row, -, rfl⟩ := Option.map_eq_some_iff.mp after
    exact (displays.read r here).ticked now row
  read := fun r' other => by cases other

/-- The moves of a monitor but its reads and writes of ticks. -/
theorem Displays.move (displays : Displays m prices d) {move : MonitorMove}
    (reads : ∀ price, move ≠ .reads price) (ticks : ∀ now commits, move ≠ .ticks now commits) :
    Displays m prices (monitorStep m move d) := by
  by_cases ticking : ∃ r, d.phase = .ticking r
  · obtain ⟨r, here⟩ := ticking
    have waits : monitorStep m move d = d := by
      cases move with
      | ticks now commits => exact absurd rfl (ticks now commits)
      | _ => simp only [monitorStep, here]
    rw [waits]
    exact displays
  · have moved := monitorStep_cases m move d
    generalize monitorStep m move d = d' at moved
    cases moved with
    | nothing => exact displays
    | read price asleep held call => exact absurd call (reads price)
    | ticked now here => exact absurd ⟨_, here⟩ ticking
    | exited | raised | undetected | rested | chose | set | gaveUp | lost =>
        exact displays.keeps (.of_positions rfl) fun r here => by cases here
    | detected | marked => exact displays.keeps (.of_positions rfl) fun r here => by cases here
    | persisted now here => exact displays.keeps (.slMoved _ _ now) fun r here => by cases here

/-- A poll reads the row that stands. -/
theorem Displays.polls (displays : Displays c.monitor prices w.desk)
    (answer : Except BusError (Option ByteArray)) :
    Displays c.monitor prices (w.polls c answer).desk := by
  cases answer with
  | error raised => exact displays.enters fun r here => by cases here
  | ok latest =>
      cases latest with
      | none =>
          simp only [MonitorTask.polls, MonitorTask.stalls]
          split_ifs <;> exact displays
      | some bytes =>
          simp only [MonitorTask.polls]
          cases decodeDecimal bytes with
          | none => exact displays
          | some value =>
              simp only [MonitorTask.readsRow]
              cases held : w.desk.db.selectPositionState c.monitor.key with
              | none => exact displays.enters fun r here => by cases here
              | some ps =>
                  cases value with
                  | finite number =>
                      refine ⟨displays.stored, fun r here => ?_⟩
                      obtain rfl : r = ⟨ps, number.value⟩ := (TickPhase.ticking.inj here).symm
                      exact displays.stored ps held
                  | infinite | nan => exact displays.enters fun r here => by cases here

/-- Only the write of a tick processes a price. -/
theorem processes_eq_nil {input : MonitorInput} (other : ∀ now, input ≠ .ticks now) :
    w.processes input = [] := by
  unfold MonitorTask.processes
  split
  · exact absurd rfl (other _)
  · rfl

/-- The write of a tick, if there is one. -/
theorem Displays.ticks (displays : Displays c.monitor prices w.desk) (running : w.isOver = false)
    (now : ℕ) : Displays c.monitor (prices ++ w.processes (.ticks now))
      (w.moves c (.ticks now w.storable)).desk := by
  by_cases ticking : ∃ r, w.desk.phase = .ticking r
  · obtain ⟨r, here⟩ := ticking
    cases stored : w.storable with
    | true =>
        simp only [MonitorTask.processes, MonitorTask.moves, monitorStep, running, here, stored,
          if_true, transaction_monitored]
        exact displays.ticked here now
    | false =>
        simp only [MonitorTask.processes, MonitorTask.moves, monitorStep, running, here, stored,
          Bool.false_eq_true, if_false, List.append_nil]
        exact displays.enters fun r here => by cases here
  · have none_ : w.processes (.ticks now) = [] := by
      unfold MonitorTask.processes
      split
      · exact absurd ⟨_, by assumption⟩ ticking
      · rfl
    have waits : monitorStep c.monitor (.ticks now w.storable) w.desk = w.desk := by
      cases here : w.desk.phase with
      | ticking r => exact absurd ⟨r, here⟩ ticking
      | _ => simp only [monitorStep, here]
    rw [none_, List.append_nil, MonitorTask.moves, waits]
    exact displays

/-- **One step**: what is shown, with the price the step has written. -/
theorem Displays.step (displays : Displays c.monitor prices w.desk) {input : MonitorInput}
    (leaves : LeavesExcursions c w input) :
    Displays c.monitor (prices ++ w.processes input) (monitorTick c input w).desk := by
  cases running : w.isOver with
  | true =>
      simp only [MonitorTask.processes, monitorTick, running, if_true, List.append_nil]
      exact displays
  | false =>
      simp only [monitorTick, running, Bool.false_eq_true, if_false]
      cases input with
      | ticks now => exact displays.ticks running now
      | polls answer =>
          rw [processes_eq_nil (by simp), List.append_nil]
          split_ifs with asleep
          · exact displays.polls answer
          · exact displays
      | detects | decides | sets | persists | marks =>
          rw [processes_eq_nil (by simp), List.append_nil]
          exact displays.move (by simp) (by simp)
      | others db stop =>
          rw [processes_eq_nil (by simp), List.append_nil]
          exact displays.keeps leaves fun r here => here
      | cancels =>
          rw [processes_eq_nil (by simp), List.append_nil]
          exact displays

theorem Displays.run {inputs : List MonitorInput} (displays : Displays c.monitor prices w.desk)
    (leaves : RunGuarded (LeavesExcursions c) (monitorTick c) w inputs) :
    Displays c.monitor (prices ++ processedPrices c w inputs)
      (run (monitorTick c) w inputs).desk := by
  induction inputs generalizing w prices with
  | nil =>
      rw [processedPrices, List.append_nil]
      exact displays
  | cons input inputs ih =>
      rw [processedPrices, ← List.append_assoc]
      exact ih (displays.step leaves.1) leaves.2

end Runs

/-! ## Whole passes -/

/-- One pass of the loop: what the poll answers, and what the rest of the tick meets. -/
structure Pass where
  latest : Option ByteArray
  now : ℕ
  positions : PositionsAnswer
  instrumentInfo : Except ExchangeError Unit
  outcome : StopOutcome

def Pass.inputs (pass : Pass) : List MonitorInput :=
  [.polls (.ok pass.latest), .ticks pass.now, .detects pass.positions pass.now,
    .decides pass.instrumentInfo, .sets pass.outcome, .persists pass.now, .marks]

/-- The price of a pass, if the poll has one. -/
def Pass.price? (pass : Pass) : Option ℚ :=
  match pass.latest.bind decodeDecimal with
  | some (.finite number) => some number.value
  | _ => none

/-- The place in a pass that a phase waits at; at the ends of a tick nothing more is to come. -/
@[simp] def TickPhase.place : TickPhase → ℕ
  | .ticking _ => 1
  | .detecting _ => 2
  | .deciding _ => 3
  | .setting _ => 4
  | .persisting _ => 5
  | .marking _ => 6
  | .asleep | .returned | .raised => 7

/-- The place of a move in its pass. -/
@[simp] def MonitorMove.place : MonitorMove → ℕ
  | .reads _ | .readFails => 0
  | .ticks _ _ => 1
  | .detects _ _ _ => 2
  | .decides _ => 3
  | .sets _ => 4
  | .persists _ _ => 5
  | .marks _ => 6

@[simp] def MonitorInput.place : MonitorInput → ℕ
  | .polls _ | .others _ _ | .cancels => 0
  | .ticks _ => 1
  | .detects _ _ => 2
  | .decides _ => 3
  | .sets _ => 4
  | .persists _ => 5
  | .marks => 6

section Passes

variable {c : MonitorSettings} {w : MonitorTask}

theorem run_over (over_ : w.isOver = true) (inputs : List MonitorInput) :
    run (monitorTick c) w inputs = w :=
  run_fixed (fun input => by simp only [monitorTick, over_, if_true]) inputs

theorem running_of_run {inputs : List MonitorInput}
    (goesOn : (run (monitorTick c) w inputs).isOver = false) : w.isOver = false := by
  cases running : w.isOver with
  | false => rfl
  | true =>
      rw [run_over running, running] at goesOn
      cases goesOn

theorem processedPrices_append (inputs later : List MonitorInput) :
    ∀ w : MonitorTask, processedPrices c w (inputs ++ later) =
      processedPrices c w inputs ++ processedPrices c (run (monitorTick c) w inputs) later := by
  induction inputs with
  | nil => exact fun w => rfl
  | cons input inputs ih =>
      intro w
      rw [List.cons_append, processedPrices, processedPrices, ih, run_cons,
        List.append_assoc]

/-- A move waits for the tick to come to its place. -/
theorem monitorStep_elsewhere {m : Monitor} {move : MonitorMove} {d : Desk}
    (moves : 0 < move.place) (elsewhere : d.phase.place ≠ move.place) :
    monitorStep m move d = d := by
  cases move <;> cases phase : d.phase <;>
    simp_all [monitorStep]

/-- Each move of a pass takes the tick beyond its place. -/
theorem place_lt_monitorStep {m : Monitor} {move : MonitorMove} {d : Desk}
    (moves : 0 < move.place) (reached : move.place ≤ d.phase.place) :
    move.place < (monitorStep m move d).phase.place := by
  rcases reached.lt_or_eq with beyond | here
  · rw [monitorStep_elsewhere moves beyond.ne']
    exact beyond
  · cases move with
    | reads | readFails => exact absurd moves (lt_irrefl 0)
    | ticks now commits =>
        cases phase : d.phase with
        | ticking r => cases commits <;> simp [monitorStep, phase]
        | _ => simp [phase] at here
    | detects answer now commits =>
        cases phase : d.phase with
        | detecting r =>
            simp only [monitorStep, phase, MonitorMove.place]
            cases detectSlOverwrite m r answer d.stop with
            | none => simp
            | some payload => cases commits <;> simp
        | _ => simp [phase] at here
    | decides instrumentInfo =>
        cases phase : d.phase with
        | deciding r =>
            simp only [monitorStep, phase, MonitorMove.place]
            split
            · simp
            · simp
            · split <;> simp
        | _ => simp [phase] at here
    | sets outcome =>
        cases phase : d.phase with
        | setting new => cases outcome <;> simp [monitorStep, phase]
        | _ => simp [phase] at here
    | persists now commits =>
        cases phase : d.phase with
        | persisting new => cases commits <;> simp [monitorStep, phase]
        | _ => simp [phase] at here
    | marks commits =>
        cases phase : d.phase with
        | marking slType => cases commits <;> simp [monitorStep, phase]
        | _ => simp [phase] at here

theorem place_lt_monitorTick {input : MonitorInput} (running : w.isOver = false)
    (moves : 0 < input.place) (reached : input.place ≤ w.desk.phase.place) :
    input.place < (monitorTick c input w).desk.phase.place := by
  simp only [monitorTick, running, Bool.false_eq_true, if_false]
  cases input with
  | polls | others | cancels => exact absurd moves (lt_irrefl 0)
  | ticks now => exact @place_lt_monitorStep _ (.ticks now w.storable) _ moves reached
  | detects answer now => exact @place_lt_monitorStep _ (.detects answer now true) _ moves reached
  | decides info => exact @place_lt_monitorStep _ (.decides info.isOk) _ moves reached
  | sets outcome => exact @place_lt_monitorStep _ (.sets outcome) _ moves reached
  | persists now => exact @place_lt_monitorStep _ (.persists now true) _ moves reached
  | marks => exact @place_lt_monitorStep _ (.marks true) _ moves reached

/-- Awaits in the order of a pass take a task that goes on beyond them all. -/
theorem place_run (inputs : List MonitorInput) {n : ℕ} (moves : 0 < n)
    (ordered : inputs.map MonitorInput.place = List.range' n inputs.length)
    (reached : n ≤ w.desk.phase.place)
    (goesOn : (run (monitorTick c) w inputs).isOver = false) :
    n + inputs.length ≤ (run (monitorTick c) w inputs).desk.phase.place := by
  induction inputs generalizing w n with
  | nil => exact reached
  | cons input inputs ih =>
      rw [List.map_cons, List.length_cons, List.range'_succ, List.cons.injEq] at ordered
      obtain ⟨here, ordered⟩ := ordered
      have beyond := @place_lt_monitorTick c w input (running_of_run goesOn) (here ▸ moves)
        (here ▸ reached)
      rw [here] at beyond
      have later := ih (Nat.succ_pos n) ordered beyond goesOn
      rw [run_cons, List.length_cons]
      omega

theorem processedPrices_eq_nil (inputs : List MonitorInput)
    (other : ∀ input ∈ inputs, ∀ now, input ≠ .ticks now) :
    ∀ w : MonitorTask, processedPrices c w inputs = [] := by
  induction inputs with
  | nil => exact fun w => rfl
  | cons input inputs ih =>
      intro w
      rw [List.forall_mem_cons] at other
      rw [processedPrices, processes_eq_nil other.1, ih other.2, List.append_nil]

/-- What a poll leaves: nothing read, the price of the pass, or the end of the task. -/
theorem polls_cases (pass : Pass) (asleep : w.desk.phase = .asleep) :
    (pass.price? = none ∧ (w.polls c (.ok pass.latest)).desk.phase = .asleep) ∨
      (∃ r, pass.price? = some r.price ∧
        (w.polls c (.ok pass.latest)).desk.phase = .ticking r) ∨
      (w.polls c (.ok pass.latest)).isOver = true := by
  cases latest : pass.latest with
  | none =>
      refine .inl ⟨by simp [Pass.price?, latest], ?_⟩
      simp only [MonitorTask.polls, MonitorTask.stalls]
      split_ifs <;> exact asleep
  | some bytes =>
      simp only [Pass.price?, latest, Option.bind_some, MonitorTask.polls]
      cases decodeDecimal bytes with
      | none => exact .inl ⟨rfl, asleep⟩
      | some value =>
          simp only [MonitorTask.readsRow]
          cases w.desk.db.selectPositionState c.monitor.key with
          | none => exact .inr (.inr (by simp [MonitorTask.isOver, MonitorTask.logs,
              MonitorTask.enters, TickPhase.ended]))
          | some ps =>
              cases value with
              | finite number => exact .inr (.inl ⟨⟨ps, number.value⟩, rfl, rfl⟩)
              | infinite | nan => exact .inr (.inr (by simp [MonitorTask.isOver,
                  MonitorTask.enters, TickPhase.ended]))

/-- The tick that was read is written by a task that goes on. -/
theorem processes_ticks {r : Reading} {now : ℕ} (here : w.desk.phase = .ticking r)
    (running : w.isOver = false) (goesOn : (monitorTick c (.ticks now) w).isOver = false) :
    w.processes (.ticks now) = [r.price] := by
  have stored : w.storable = true := by
    by_contra refused
    rw [Bool.not_eq_true] at refused
    have raised : (monitorTick c (.ticks now) w).desk.phase = .raised := by
      simp [monitorTick, running, MonitorTask.moves, monitorStep, here, refused]
    simp [MonitorTask.isOver, raised, TickPhase.ended] at goesOn
  simp only [MonitorTask.processes, running, here, stored, if_true]

/-- The awaits of a pass after its poll take the task back to sleep. -/
theorem asleep_after_poll (pass : Pass) (polled : 0 < w.desk.phase.place)
    (goesOn : (run (monitorTick c) w pass.inputs.tail).isOver = false) :
    (run (monitorTick c) w pass.inputs.tail).desk.phase = .asleep := by
  have beyond := place_run pass.inputs.tail one_pos rfl polled goesOn
  have going := (Bool.or_eq_false_iff.mp goesOn).2
  generalize (run (monitorTick c) w pass.inputs.tail).desk.phase = phase at beyond going
  cases phase with
  | asleep => rfl
  | returned | raised => cases going
  | _ => exact absurd beyond (by simp [Pass.inputs])

/-- A pass that the task survives processes the price it has polled, and ends asleep. -/
theorem processedPrices_pass (pass : Pass) (asleep : w.desk.phase = .asleep)
    (goesOn : (run (monitorTick c) w pass.inputs).isOver = false) :
    processedPrices c w pass.inputs = pass.price?.toList ∧
      (run (monitorTick c) w pass.inputs).desk.phase = .asleep := by
  have poll : monitorTick c (.polls (.ok pass.latest)) w = w.polls c (.ok pass.latest) := by
    simp [monitorTick, running_of_run goesOn, asleep]
  have split : pass.inputs = .polls (.ok pass.latest) :: pass.inputs.tail := rfl
  rw [split, run_cons, poll] at goesOn ⊢
  have running := running_of_run goesOn
  have ticksOn : (monitorTick c (.ticks pass.now) (w.polls c (.ok pass.latest))).isOver = false :=
    running_of_run goesOn
  have one : processedPrices c w (.polls (.ok pass.latest) :: pass.inputs.tail) =
      (w.polls c (.ok pass.latest)).processes (.ticks pass.now) := by
    rw [processedPrices, poll, processes_eq_nil (by simp), List.nil_append]
    simp only [Pass.inputs, List.tail_cons]
    rw [processedPrices, processedPrices_eq_nil _ (by simp), List.append_nil]
  rw [one]
  rcases @polls_cases c w pass asleep with ⟨unpriced, still⟩ | ⟨r, priced, ticking⟩ | over_
  · refine ⟨?_, asleep_after_poll pass (by simp [still]) goesOn⟩
    simp [MonitorTask.processes, unpriced, still]
  · refine ⟨?_, asleep_after_poll pass (by simp [ticking]) goesOn⟩
    rw [priced, processes_ticks ticking running ticksOn]
    rfl
  · rw [running] at over_
    cases over_

/-- **The prices of whole passes**: a task that goes on has processed every price it has polled,
and nothing for the polls that had none. -/
theorem processedPrices_passes (passes : List Pass) :
    ∀ w : MonitorTask, w.desk.phase = .asleep →
      (run (monitorTick c) w (passes.flatMap Pass.inputs)).isOver = false →
        processedPrices c w (passes.flatMap Pass.inputs) = passes.filterMap Pass.price? := by
  induction passes with
  | nil => exact fun w asleep goesOn => rfl
  | cons pass passes ih =>
      intro w asleep goesOn
      rw [List.flatMap_cons, run_append] at goesOn
      obtain ⟨first, again⟩ := processedPrices_pass pass asleep (running_of_run goesOn)
      rw [List.flatMap_cons, processedPrices_append, first, ih _ again goesOn,
        List.filterMap_cons]
      cases pass.price? <;> rfl

end Passes

/-- **What the row shows**: in every run of a monitor whose row shows the prices that were
processed before, it shows these and the ones the monitor has processed. -/
theorem run_shows (c : MonitorSettings) {w : MonitorTask} {earlier : List ℚ}
    {inputs : List MonitorInput} (asleep : w.desk.phase = .asleep)
    (shown : ∀ row, w.desk.db.positions.lookup c.monitor.key = some row →
      Shows numeric c.monitor earlier row)
    (leaves : RunGuarded (LeavesExcursions c) (monitorTick c) w inputs)
    {row : PositionStateRow}
    (held : (run (monitorTick c) w inputs).desk.db.positions.lookup c.monitor.key = some row) :
    Shows numeric c.monitor (earlier ++ processedPrices c w inputs) row ∧
      row.bestPrice = row.mfePrice := by
  have unread (r : Reading) (here : w.desk.phase = .ticking r) :
      Shows numeric c.monitor earlier r.ps := by
    rw [asleep] at here
    cases here
  have displays : Displays c.monitor earlier w.desk := ⟨shown, unread⟩
  have shows_ := (displays.run leaves).stored row held
  exact ⟨shows_, shows_.bestPrice.trans shows_.mfePrice.symm⟩

/-! ## A tick of the long -/

/-- The row of the long after a tick at 102. -/
def rowAt102 : PositionStateRow where
  tradeId := 1
  side := .buy
  entryPrice := 100
  qty := 10
  remainingQty := 10
  slPrice := some 98
  tpPrice := some 104
  slType := some .protective
  bestPrice := some 102
  mfePrice := some 102
  maePrice := some 102
  runningPnl := 20
  updatedAt := 5

noncomputable def tickAt102 : List MonitorInput :=
  [.polls (.ok (some "102".toList.utf8Encode)), .ticks 5]

theorem run_shows_rowAt102 :
    Shows numeric longMonitor.monitor ([] ++ processedPrices longMonitor standing tickAt102)
        rowAt102 ∧
      rowAt102.bestPrice = rowAt102.mfePrice := by
  have created (row : PositionStateRow)
      (held : standing.desk.db.positions.lookup longMonitor.monitor.key = some row) :
      Shows numeric longMonitor.monitor [] row := by
    have found : standing.desk.db.positions.lookup longMonitor.monitor.key =
        some { tradeId := 1, side := .buy, entryPrice := 100, qty := 10, remainingQty := 10,
               slPrice := some 98, tpPrice := some 104, slType := some .protective,
               updatedAt := 3 } := by decide +kernel
    obtain rfl := Option.some.inj (held.symm.trans found)
    exact shows_created rfl rfl rfl rfl
  have held : (run (monitorTick longMonitor) standing tickAt102).desk.db.positions.lookup
      longMonitor.monitor.key = some rowAt102 := by
    rw [tickAt102, run_cons, polls_102]
    decide +kernel
  exact @run_shows longMonitor standing [] tickAt102 rfl created ⟨trivial, trivial, trivial⟩
    rowAt102 held

/-! ## Digits beyond the columns -/

/-- One unit of a coin at ten cents. -/
def placedDoge : Placed :=
  { placedLong with
    request := { placedLong.request with symbol := "DOGEUSDT", qty := 1 }
    fillPrice := 1 / 10
    qty := 1 }

def dogeMonitor : MonitorSettings where
  monitor := ⟨("bot", "DOGEUSDT"), 1, .buy, 1 / 10, 1, 1 / 100000⟩
  staleTicksThreshold := 3
  stores := fun _ number => decide (|number.value| < 10 ^ 15)

def dogeStanding : MonitorTask where
  desk := { db := run step {} [.placed placedDoge (49 / 500) (13 / 125) (1 / 10) 3 true] }

def dogeRow : PositionStateRow where
  tradeId := 1
  side := .buy
  entryPrice := 1 / 10
  qty := 1
  remainingQty := 1
  slPrice := some (49 / 500)
  tpPrice := some (13 / 125)
  slType := some .protective
  updatedAt := 3

/-- The price is a tick up, with a thirteenth decimal. -/
noncomputable def dogeTick : List MonitorInput :=
  [.polls (.ok (some "0.1000100000001".toList.utf8Encode)), .ticks 5]

theorem dogePolled :
    monitorTick dogeMonitor (.polls (.ok (some "0.1000100000001".toList.utf8Encode)))
        dogeStanding =
      { dogeStanding with
        desk := { dogeStanding.desk with
          phase := .ticking ⟨dogeRow, 1000100000001 / 10 ^ 13⟩ } } := by
  have text : parseDecimal "0.1000100000001".toList = some (.finite ⟨1000100000001, -13⟩) := by
    decide +kernel
  have held : dogeStanding.desk.db.selectPositionState dogeMonitor.monitor.key = some dogeRow := by
    decide +kernel
  have running : dogeStanding.isOver = false := rfl
  have asleep : dogeStanding.desk.phase = .asleep := rfl
  have stores (ps : PositionStateRow) : dogeMonitor.stores ps ⟨1000100000001, -13⟩ = true := by
    show decide _ = true
    decide +kernel
  have value : DecimalNumber.value ⟨1000100000001, -13⟩ = 1000100000001 / 10 ^ 13 := by
    norm_num [DecimalNumber.value]
  simp only [monitorTick, running, asleep, MonitorTask.polls, decodeDecimal_utf8Encode, text,
    MonitorTask.readsRow, held, stores, value, if_true, Bool.false_eq_true, if_false]
  rfl

/-- **Values that the columns round**: the best price loses a decimal, and the profit of a tick on
one unit is stored as zero. -/
theorem dogeTick_rounded :
    ∃ (c : MonitorSettings) (w : MonitorTask) (inputs : List MonitorInput)
      (row : PositionStateRow), w.desk.phase = .asleep ∧
      (∀ row, w.desk.db.positions.lookup c.monitor.key = some row →
        Shows unrounded c.monitor [] row) ∧
      RunGuarded (LeavesExcursions c) (monitorTick c) w inputs ∧
      (run (monitorTick c) w inputs).desk.db.positions.lookup c.monitor.key = some row ∧
      row.bestPrice ≠ extreme c.monitor.side (processedPrices c w inputs) ∧
      row.runningPnl ≠ (processedPrices c w inputs).getLast?.elim 0 fun price =>
        (price - c.monitor.entryPrice) * c.monitor.qty * c.monitor.side.sign := by
  have created (row : PositionStateRow)
      (held : dogeStanding.desk.db.positions.lookup dogeMonitor.monitor.key = some row) :
      Shows unrounded dogeMonitor.monitor [] row := by
    have found : dogeStanding.desk.db.positions.lookup dogeMonitor.monitor.key = some dogeRow := by
      decide +kernel
    obtain rfl := Option.some.inj (held.symm.trans found)
    exact shows_created rfl rfl rfl rfl
  have held : (run (monitorTick dogeMonitor) dogeStanding dogeTick).desk.db.positions.lookup
      dogeMonitor.monitor.key = some { dogeRow with
        bestPrice := some (10001 / 100000), mfePrice := some (10001 / 100000),
        maePrice := some (10001 / 100000), updatedAt := 5 } := by
    rw [dogeTick, run_cons, dogePolled]
    decide +kernel
  have once : processedPrices dogeMonitor dogeStanding dogeTick = [1000100000001 / 10 ^ 13] := by
    rw [dogeTick, processedPrices, dogePolled]
    rfl
  refine ⟨dogeMonitor, dogeStanding, dogeTick, _, rfl, created, ⟨trivial, trivial, trivial⟩, held,
    ?_, ?_⟩
  · rw [once]
    decide +kernel
  · rw [once]
    decide +kernel

end Scalper.Execution
