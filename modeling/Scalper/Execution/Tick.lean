import Scalper.Execution.StopType

/-!
# A whole tick

One tick of a position monitor in which every await succeeds, as one step: `run_tickMoves` says
what it leaves in the row, on the exchange and of the task, by the stop it chose.
-/

set_option autoImplicit false

namespace Scalper.Execution

open Scalper.Lib Scalper.Exchange

/-- The moves of one tick in which every await succeeds. -/
def tickMoves (price : ℚ) (now : ℕ) : List MonitorMove :=
  [.reads price, .ticks now true, .detects .held now true, .decides true, .sets .returns,
    .persists now true, .marks true]

section Tick

variable {m : Monitor} {d : Desk} {row : PositionStateRow} {price : ℚ} {now : ℕ}

/-- The moves of a monitor leave the parameters of its trade alone. -/
theorem run_params {params : FsmParams} (moves : List MonitorMove)
    (drawn : m.tradeId < d.db.nextTradeId)
    (known : d.db.selectTradeFsmParams m.tradeId = some (some params)) :
    m.tradeId < (run (monitorStep m) d moves).db.nextTradeId ∧
      (run (monitorStep m) d moves).db.selectTradeFsmParams m.tradeId = some (some params) := by
  refine run_invariant_of_always (fun d : Desk => m.tradeId < d.db.nextTradeId ∧
    d.db.selectTradeFsmParams m.tradeId = some (some params)) ?_ moves ⟨drawn, known⟩
  rintro d move ⟨drawn, known⟩
  have moved := monitorStep_cases m move d
  exact ⟨drawn.trans_le (moved.nextTradeId).ge, (moved.sameParams _ drawn).trans known⟩

/-- The tables a tick has written its metrics to, with the event of the overwrite check. -/
structure Noted (m : Monitor) (price : ℚ) (row : PositionStateRow) (db : Db) : Prop where
  row : ∃ ticked, db.positions.lookup m.key = some ticked ∧
    ticked.bestPrice = some (numeric 12 (updateBestPrice m.side price row.bestPrice)) ∧
    ticked.slType = row.slType

/-- The first half of a tick: read, write the metrics, look for an overwrite. -/
theorem run_noting (price : ℚ) (now : ℕ) (asleep : d.phase = .asleep)
    (held : d.db.positions.lookup m.key = some row) :
    ∃ db, run (monitorStep m) d [.reads price, .ticks now true, .detects .held now true] =
        { d with phase := .deciding ⟨row, price⟩, db := db } ∧
      Noted m price row db := by
  have noted : Noted m price row
      (d.db.monitored m.key ((⟨row, price⟩ : Reading).write m now)) := by
    refine ⟨((⟨row, price⟩ : Reading).write m now).set row, ?_, rfl, rfl⟩
    rw [lookup_monitored, if_pos rfl, held]
    rfl
  have read : monitorStep m (.reads price) d = { d with phase := .ticking ⟨row, price⟩ } := by
    simp only [monitorStep, asleep, Db.selectPositionState, held]
  have ticked : monitorStep m (.ticks now true) { d with phase := .ticking ⟨row, price⟩ } =
      { d with
        phase := .detecting ⟨row, price⟩
        db := d.db.monitored m.key ((⟨row, price⟩ : Reading).write m now) } := by
    simp only [monitorStep, if_true, transaction_monitored]
  rw [run_cons, read, run_cons, ticked, run_cons, run_nil]
  simp only [monitorStep]
  split
  · exact ⟨_, rfl, noted⟩
  · exact ⟨_, rfl, ⟨noted.row⟩⟩

/-- What a tick leaves, by the stop it chose. -/
structure Ticked (m : Monitor) (price : ℚ) (row : PositionStateRow) (d after : Desk)
    (chosen : Option (Option NewStop)) : Prop where
  row : ∃ ticked, after.db.positions.lookup m.key = some ticked ∧
    ticked.bestPrice = some (numeric 12 (updateBestPrice m.side price row.bestPrice)) ∧
    ticked.slType = (chosen.join.map (·.slType)).or row.slType
  stop : after.stop.inForce = (chosen.join.map (·.slPrice)).or d.stop.inForce
  phase : after.phase = if chosen.isNone then .raised else .asleep

/-- The second half of a tick: choose a stop, set it, write it and mark the trade. -/
theorem run_deciding {params : FsmParams} {r : Reading} (now : ℕ) (here : d.phase = .deciding r)
    (noted : Noted m price row d.db)
    (known : d.db.selectTradeFsmParams m.tradeId = some (some params)) :
    Ticked m price row d (run (monitorStep m) d
      [.decides true, .sets .returns, .persists now true, .marks true])
      (chooseStop m r params true) := by
  obtain ⟨ticked, held, best, type⟩ := noted.row
  cases chosen : chooseStop m r params true with
  | none =>
      have ended : run (monitorStep m) d
          [.decides true, .sets .returns, .persists now true, .marks true] =
          { d with phase := .raised } := by
        simp only [run_cons, run_nil, monitorStep, here, known, chosen]
      rw [ended]
      exact ⟨⟨ticked, held, best, type⟩, rfl, rfl⟩
  | some choice =>
      cases choice with
      | none =>
          have ended : run (monitorStep m) d
              [.decides true, .sets .returns, .persists now true, .marks true] =
              { d with phase := .asleep } := by
            simp only [run_cons, run_nil, monitorStep, here, known, chosen]
          rw [ended]
          exact ⟨⟨ticked, held, best, type⟩, rfl, rfl⟩
      | some new =>
          have ended : run (monitorStep m) d
              [.decides true, .sets .returns, .persists now true, .marks true] =
              { d with
                phase := .asleep
                stop := d.stop.apply new
                db := (d.db.monitored m.key (.slMoved new.slPrice new.slType now)).marked
                  m.tradeId (lifecycleStateOf new.slType) } := by
            simp only [run_cons, run_nil, monitorStep, here, known, chosen, if_true,
              transaction_monitored]
            rfl
          rw [ended]
          refine ⟨⟨(MonitorWrite.slMoved new.slPrice new.slType now).set ticked, ?_, best, rfl⟩,
            rfl, rfl⟩
          change (d.db.monitored m.key (.slMoved new.slPrice new.slType now)).positions.lookup
            m.key = _
          rw [lookup_monitored, if_pos rfl, held]
          rfl

/-- A tick of a monitor that is asleep. -/
theorem run_tickMoves {params : FsmParams} (asleep : d.phase = .asleep)
    (held : d.db.positions.lookup m.key = some row) (drawn : m.tradeId < d.db.nextTradeId)
    (known : d.db.selectTradeFsmParams m.tradeId = some (some params)) :
    Ticked m price row d (run (monitorStep m) d (tickMoves price now))
      (chooseStop m ⟨row, price⟩ params true) := by
  obtain ⟨db, first, noted⟩ := run_noting price now asleep held
  have same := run_params (m := m) [.reads price, .ticks now true, .detects .held now true]
    drawn known
  rw [first] at same
  have later := run_deciding (d := { d with phase := .deciding ⟨row, price⟩, db := db }) now
    rfl noted same.2
  have split : tickMoves price now = [.reads price, .ticks now true, .detects .held now true] ++
      [.decides true, .sets .returns, .persists now true, .marks true] := rfl
  rw [split, run_append, first]
  exact ⟨later.row, later.stop, later.phase⟩

/-- A monitor that has raised does nothing more. -/
theorem run_raised (raised : d.phase = .raised) (moves : List MonitorMove) :
    run (monitorStep m) d moves = d := by
  refine run_fixed (fun move => ?_) moves
  simp only [monitorStep, raised]

end Tick
end Scalper.Execution
