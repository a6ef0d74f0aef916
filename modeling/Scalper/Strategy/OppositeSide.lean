import Scalper.Execution.Persist
import Scalper.Paper.Mirror
import Scalper.Paper.Quantity
import Scalper.Scoring.Sections

/-!
# The opposite-side gate

`services/strategy_engine/app/opposite_side_gate.py` with `select_open_position_side`: the side of
the bot's open position in a symbol is read from a table whose name is put into the statement, and
a signal of the other side is blocked.  A statement that names a table the migrations do not create
is refused by the database.

For a paper bot the gate names `paper_position_state`.  The migrations create no such table: the
paper exchange keeps its positions in `paper_positions`.  So the gate of a paper bot answers no
signal (`checkOppositeSide_paper`), and the signal's handler ends with the error of the database.
The statement itself would do: on `paper_positions` it finds the side of the open position after
every run of a paper exchange (`selectOpenPositionSide_paperPositions`).
-/

set_option autoImplicit false

namespace Scalper.Strategy

open Scalper.Lib Scalper.Exchange Scalper.Execution Scalper.Scoring

/-! ## The tables -/

/-- The tables and views that `migrations/versions` create, in order. -/
def createdRelations : List String :=
  ["bots", "bot_configs", "symbol_map", "signals", "ohlc_1m", "ohlc_5m", "ohlc_15m", "ohlc_1h",
    "ohlc_4h", "ohlc_1d", "features", "orders", "trades", "executions", "position_state",
    "trading_events", "paper_orders", "paper_trades", "paper_executions", "paper_positions",
    "trade_pnl_deltas", "scoring_evaluations", "audit_events", "backtest_runs", "backtest_trades",
    "shadow_variants", "shadow_rejected", "outbox_events", "bot_kill_switch_state",
    "bot_equity_snapshots", "funding_fees"]

/-- What the database answers a statement it cannot run. -/
inductive QueryError where
  | undefinedTable (name : String)
  deriving DecidableEq, Repr

/-- The columns of a position the statement names. -/
structure PositionRecord where
  botId : String
  symbol : String
  side : Side
  deriving DecidableEq, Repr

/-- The rows of the tables, by name, as far as they are positions. -/
structure PositionTables where
  positionState : List PositionRecord := []
  paperPositions : List PositionRecord := []

def PositionTables.rows (tables : PositionTables) (tableName : String) : List PositionRecord :=
  if tableName = "position_state" then tables.positionState
  else if tableName = "paper_positions" then tables.paperPositions
  else []

/-- `select_open_position_side`. -/
def selectOpenPositionSide (tables : PositionTables) (botId symbol tableName : String) :
    Except QueryError (Option Side) :=
  if tableName ∈ createdRelations then
    .ok (((tables.rows tableName).find? fun row => row.botId = botId ∧ row.symbol = symbol).map
      (·.side))
  else .error (.undefinedTable tableName)

/-! ## The gate -/

/-- `OppositeSideDecision`. -/
structure OppositeSideDecision where
  active : Bool
  reason : Option String
  openSide : Option Side
  signalSide : Option Side
  deriving DecidableEq, Repr

/-- The table the gate names. -/
def positionTableName : ExchangeMode → String
  | .live | .testnet | .demo => "position_state"
  | .paper => "paper_position_state"

/-- `check_opposite_side`. -/
def checkOppositeSide (tables : PositionTables) (botId : String) (exchangeMode : ExchangeMode)
    (symbol : String) (signalSide : Side) (risk : RiskSection) :
    Except QueryError OppositeSideDecision :=
  if risk.blockOppositeSide = false then .ok ⟨false, none, none, some signalSide⟩
  else do
    let openSide ← selectOpenPositionSide tables botId symbol (positionTableName exchangeMode)
    if openSide.any (· ≠ signalSide) then
      return ⟨true, some "opposite_side_open", openSide, some signalSide⟩
    else return ⟨false, none, openSide, some signalSide⟩

/-! ## The gate of a paper bot -/

/-- The columns of a row of `paper_positions`. -/
def paperPositionRecord (row : Paper.PaperPosition) : PositionRecord :=
  ⟨row.botId, row.symbol, row.side⟩

/-- The tables of a paper exchange, beside the positions of the live bots. -/
def paperTables (live : List PositionRecord) (s : Paper.PaperExchange) : PositionTables where
  positionState := live
  paperPositions := s.db.positions.map paperPositionRecord

/-- The open position of the symbol is on the other side. -/
def HoldsOpposite (s : Paper.PaperExchange) (symbol : String) (signalSide : Side) : Prop :=
  ∃ position, s.openPosition symbol = some position ∧ position.side ≠ signalSide

/-- The gate answers, and blocks the signal exactly when the open position is on the other side. -/
def BlocksOpposite (answer : Except QueryError OppositeSideDecision) (s : Paper.PaperExchange)
    (symbol : String) (signalSide : Side) : Prop :=
  ∃ decision, answer = .ok decision ∧
    (decision.active = true ↔ HoldsOpposite s symbol signalSide)

section Paper

variable {cfg : Paper.Config} {symbol : String} {signalSide : Side} {live : List PositionRecord}

/-- The row the statement finds is that of the open position. -/
theorem find?_paperPositions {s : Paper.PaperExchange} (mirrored : Paper.Mirrored cfg s.books) :
    (((paperTables live s).rows "paper_positions").find?
        fun row => row.botId = cfg.botId ∧ row.symbol = symbol).map (·.side) =
      (s.openPosition symbol).map (·.side) := by
  have rows : (paperTables live s).rows "paper_positions" =
      s.db.positions.map paperPositionRecord := rfl
  rw [rows, List.find?_map, Option.map_map]
  cases found : s.db.positions.find? ((fun row : PositionRecord =>
      decide (row.botId = cfg.botId ∧ row.symbol = symbol)) ∘ paperPositionRecord) with
  | some row =>
      have selected := List.find?_some found
      have matched : row.botId = cfg.botId ∧ row.symbol = symbol :=
        of_decide_eq_true (p := row.botId = cfg.botId ∧ row.symbol = symbol) selected
      obtain ⟨position, held, mirrors⟩ := mirrored.rows row (List.mem_of_find?_eq_some found)
      have open_ : s.openPosition symbol = some position := matched.2 ▸ held
      rw [open_]
      exact congrArg some mirrors.side
  | none =>
      cases held : s.openPosition symbol with
      | none => rfl
      | some position =>
          obtain ⟨row, member, sameSymbol⟩ := mirrored.listed symbol position held
          obtain ⟨_, _, mirrors⟩ := mirrored.rows row member
          have unmatched := List.find?_eq_none.mp found row member
          exact absurd (decide_eq_true ⟨mirrors.botId, sameSymbol⟩) unmatched

/-- Read from the table the paper exchange writes, the side is that of the open position. -/
theorem selectOpenPositionSide_paperPositions (calls : List Paper.Call) :
    selectOpenPositionSide (paperTables live (run (Paper.step cfg) {} calls)) cfg.botId symbol
        "paper_positions" =
      .ok (((run (Paper.step cfg) {} calls).openPosition symbol).map (·.side)) := by
  rw [selectOpenPositionSide, if_pos (by decide), find?_paperPositions (Paper.run_mirrored calls)]

/-- The statement the gate of a paper bot issues is refused. -/
theorem checkOppositeSide_paper_error {risk : RiskSection}
    (guarded : risk.blockOppositeSide = true) (tables : PositionTables) (botId : String) :
    checkOppositeSide tables botId .paper symbol signalSide risk =
      .error (.undefinedTable "paper_position_state") := by
  have missing : "paper_position_state" ∉ createdRelations := by decide
  have refused : selectOpenPositionSide tables botId symbol (positionTableName .paper) =
      .error (.undefinedTable "paper_position_state") := if_neg missing
  rw [checkOppositeSide, if_neg (by simp [guarded]), refused]
  rfl

/-- **The gate of a paper bot answers no signal**: whatever the paper exchange did before, the
statement names a table that does not exist. -/
theorem checkOppositeSide_paper {risk : RiskSection} (guarded : risk.blockOppositeSide = true)
    (calls : List Paper.Call) :
    ¬BlocksOpposite
      (checkOppositeSide (paperTables live (run (Paper.step cfg) {} calls)) cfg.botId .paper symbol
        signalSide risk)
      (run (Paper.step cfg) {} calls) symbol signalSide := by
  rw [checkOppositeSide_paper_error guarded]
  rintro ⟨decision, answered, _⟩
  exact absurd answered nofun

end Paper

/-! ## A long and a signal to sell -/

/-- A long of 1. -/
def openedLong : List Paper.Call :=
  [{ op := .onCandle (Paper.btcCandle 100 101 99 100) },
   { op := .placeMarketOrder "BTCUSDT" .buy 1 false }]

/-- The paper bot holds the long, and the gate answers the signal to sell with an error. -/
theorem openedLong_unanswered :
    HoldsOpposite (run (Paper.step Paper.plainConfig) {} openedLong) "BTCUSDT" .sell ∧
      checkOppositeSide (paperTables [] (run (Paper.step Paper.plainConfig) {} openedLong))
        Paper.plainConfig.botId .paper "BTCUSDT" .sell {} =
        .error (.undefinedTable "paper_position_state") := by
  refine ⟨⟨⟨1, .buy, 1, 100, 0, 0, false, 0⟩, by decide +kernel, by decide⟩, ?_⟩
  decide +kernel

/-- The gate of the long is one that answers nothing. -/
theorem openedLong_not_blocks :
    ¬BlocksOpposite
      (checkOppositeSide (paperTables [] (run (Paper.step Paper.plainConfig) {} openedLong))
        Paper.plainConfig.botId .paper "BTCUSDT" .sell {})
      (run (Paper.step Paper.plainConfig) {} openedLong) "BTCUSDT" .sell :=
  checkOppositeSide_paper rfl openedLong

end Scalper.Strategy
