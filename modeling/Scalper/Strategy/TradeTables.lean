import Scalper.Execution.Persist
import Scalper.Scoring.Sections
import Mathlib.Algebra.BigOperators.Group.List.Basic
import Mathlib.Data.List.Sort

/-!
# The trade tables as the gates read them

The three statements of `packages/db/queries/trades.py` that the caps gate and the kill switch
issue, over `trades` for live, testnet and demo bots and over `paper_trades` for paper bots.  A row
is the columns these statements name.  `NUMERIC` values are exact numbers.
-/

set_option autoImplicit false

namespace Scalper.Strategy

open Scalper.Execution

/-- The table a bot's trades are in. -/
inductive TradeTableName where
  | trades
  | paperTrades
  deriving DecidableEq, Repr

/-- The table every gate picks for the mode of its bot. -/
def tradeTableName : ExchangeMode → TradeTableName
  | .live | .testnet | .demo => .trades
  | .paper => .paperTrades

/-- The columns of a trade the statements below name. -/
structure TradeRecord where
  id : ℕ
  botId : String
  status : TradeStatus
  realizedPnl : Option ℚ := none
  closedAt : Option ℕ := none
  deriving DecidableEq, Repr

/-- Both tables of trades. -/
structure TradeTables where
  trades : List TradeRecord := []
  paperTrades : List TradeRecord := []
  deriving DecidableEq, Repr

def TradeTables.rows (tables : TradeTables) : TradeTableName → List TradeRecord
  | .trades => tables.trades
  | .paperTrades => tables.paperTrades

/-- `count_open_trades`: of one bot, or of all. -/
def countOpenTrades (rows : List TradeRecord) (botId : Option String) : ℕ :=
  match botId with
  | none => rows.countP fun row => row.status = .isOpen
  | some bot => rows.countP fun row => row.botId = bot ∧ row.status = .isOpen

/-- The rows of the bot that are closed with a result. -/
def closedWithPnl (rows : List TradeRecord) (botId : String) : List TradeRecord :=
  rows.filter fun row => row.botId = botId ∧ row.status = .closed ∧ row.realizedPnl.isSome

/-- `sum_realized_pnl_since`. -/
def sumRealizedPnlSince (rows : List TradeRecord) (botId : String) (since : ℕ) : ℚ :=
  (((closedWithPnl rows botId).filter fun row => row.closedAt.any (since ≤ ·)).filterMap
    TradeRecord.realizedPnl).sum

/-- `ORDER BY closed_at, id`, with the rows that have no time last. -/
def TradeRecord.orderedBefore (row other : TradeRecord) : Bool :=
  match row.closedAt, other.closedAt with
  | some closed, some otherClosed => closed < otherClosed || closed = otherClosed && row.id ≤ other.id
  | some _, none => true
  | none, some _ => false
  | none, none => row.id ≤ other.id

/-- `SUM(realized_pnl) OVER (ORDER BY closed_at, id ROWS UNBOUNDED PRECEDING)`. -/
def runningPnl (rows : List TradeRecord) (botId : String) : List ℚ :=
  ((((closedWithPnl rows botId).insertionSort fun row other => row.orderedBefore other).filterMap
    TradeRecord.realizedPnl).scanl (· + ·) 0).tail

/-- `select_pnl_peak_and_current`. -/
def selectPnlPeakAndCurrent (rows : List TradeRecord) (botId : String) : ℚ × ℚ :=
  ((runningPnl rows botId).max?.getD 0,
    ((closedWithPnl rows botId).filterMap TradeRecord.realizedPnl).sum)

end Scalper.Strategy
