import Scalper.Admin.Audit
import Scalper.Backtest.Summary
import Scalper.Lib.Run
import Scalper.Lib.Writes
import Scalper.Paper.Persistence

/-!
# The table of backtest runs

A backtest is asked for in two ways.  `POST /api/backtests/` inserts a run with the status `queued`
and its audit event, for the worker loop of the analytics service to claim; `scripts/backtest.py`
inserts a run of its own, marks it as running, replays, and then copies in one transaction the
closed paper trades of the bot to `backtest_trades`, sums them up and completes the run.  Any number
of these processes run at once, beside the paper exchanges of the execution service, and each
statement may fail, or take effect without its process hearing of it.

The statement that claims a run orders by a column that the table does not have.  So the worker ends
in its first turn, and a run that was queued by the API stays as it was queued
(`queued_stay_queued`).

The loader of configurations, the digest, the texts of times, numbers and errors, and what the
replay does apart from its paper trades are parameters.
-/

set_option autoImplicit false

namespace Scalper.Backtest

open Scalper.Lib Scalper.Exchange Scalper.Paper Scalper.Admin

variable {ι : Type} {F : Type*}

/-! ## The tables -/

/-- The `status` of a run. -/
inductive BacktestStatus where
  | queued
  | running
  | completed
  | failed
  deriving DecidableEq, Repr

def BacktestStatus.text : BacktestStatus → String
  | .queued => "queued"
  | .running => "running"
  | .completed => "completed"
  | .failed => "failed"

/-- What the column `summary` holds. -/
inductive RunSummary (F : Type*) where
  | figures (summary : Summary F)
  | error (text : String)
  deriving DecidableEq, Repr

/-- `BacktestRunRow`. -/
structure BacktestRunRow (F : Type*) where
  id : ℕ
  name : String
  botId : String
  configYaml : String
  configHash : String
  dateRangeStart : ℤ
  dateRangeEnd : ℤ
  status : BacktestStatus := .queued
  startedAt : ℤ
  finishedAt : Option ℤ := none
  summary : Option (RunSummary F) := none
  notes : Option String := none
  deriving DecidableEq, Repr

/-- A row of `paper_trades` with its signal.  Who opened it is not a column. -/
structure PaperTradeRow (ι : Type) where
  trade : PaperTrade
  signalId : Option ℕ
  openedBy : Option ι
  deriving DecidableEq

/-- A row of `backtest_trades`.  Which paper trade it is a copy of, and who opened that one, are not
columns. -/
structure BacktestTrade (ι : Type) where
  runId : ℕ
  botId : String
  signalId : Option ℕ
  openOrderId : ℕ
  closeOrderId : Option ℕ
  symbol : String
  side : Side
  entryPrice : ℚ
  exitPrice : Option ℚ
  qty : ℚ
  notionalUsd : ℚ
  realizedPnl : Option ℚ
  feesPaid : ℚ
  closeReason : Option CloseReason
  openedAt : ℕ
  closedAt : Option ℕ
  status : TradeStatus
  paperTradeId : ℕ
  openedBy : Option ι
  deriving DecidableEq

/-- `Decimal(r["realized_pnl"])`, which raises where there is none. -/
def BacktestTrade.result (trade : BacktestTrade ι) : Except Unit ℚ :=
  match trade.realizedPnl with
  | none => .error ()
  | some realizedPnl => .ok realizedPnl

/-- The `SELECT` of `_COPY_PAPER_TRADES_TO_BACKTEST_SQL`. -/
def PaperTradeRow.copy (runId : ℕ) (botId : String) (row : PaperTradeRow ι) : BacktestTrade ι where
  runId := runId
  botId := botId
  signalId := row.signalId
  openOrderId := row.trade.openOrderId
  closeOrderId := row.trade.closeOrderId
  symbol := row.trade.symbol
  side := row.trade.side
  entryPrice := row.trade.entryPrice
  exitPrice := row.trade.exitPrice
  qty := row.trade.qty
  notionalUsd := row.trade.notionalUsd
  realizedPnl := row.trade.realizedPnl
  feesPaid := row.trade.feesPaid
  closeReason := row.trade.closeReason
  openedAt := row.trade.openedAt
  closedAt := row.trade.closedAt
  status := row.trade.status
  paperTradeId := row.trade.id
  openedBy := row.openedBy

/-- How a paper trade was opened, and by whom. -/
structure Opening (ι : Type) where
  paperTradeId : ℕ
  openedBy : Option ι
  openOrderId : ℕ
  symbol : String
  side : Side
  entryPrice : ℚ
  notionalUsd : ℚ
  openedAt : ℕ
  deriving DecidableEq

def PaperTradeRow.opening (row : PaperTradeRow ι) : Opening ι :=
  ⟨row.trade.id, row.openedBy, row.trade.openOrderId, row.trade.symbol, row.trade.side,
    row.trade.entryPrice, row.trade.notionalUsd, row.trade.openedAt⟩

def BacktestTrade.opening (trade : BacktestTrade ι) : Opening ι :=
  ⟨trade.paperTradeId, trade.openedBy, trade.openOrderId, trade.symbol, trade.side,
    trade.entryPrice, trade.notionalUsd, trade.openedAt⟩

/-- `_audit_state_dict`: all but the text of the configuration. -/
def BacktestRunRow.auditStateDict (uuid : ℕ → String) (summaryJson : RunSummary F → Json)
    (row : BacktestRunRow F) : List (String × ColumnValue) :=
  [("id", .native (.string (uuid row.id))),
    ("name", .native (.string row.name)),
    ("bot_id", .native (.string row.botId)),
    ("config_hash", .native (.string row.configHash)),
    ("date_range_start", .datetime row.dateRangeStart),
    ("date_range_end", .datetime row.dateRangeEnd),
    ("status", .native (.string row.status.text)),
    ("started_at", .datetime row.startedAt),
    ("finished_at", (row.finishedAt.map ColumnValue.datetime).getD (.native .null)),
    ("summary", .native ((row.summary.map summaryJson).getD .null)),
    ("notes", optionalText row.notes)]

/-! ## Requests -/

/-- `BacktestRunCreateRequest`. -/
structure BacktestRequest where
  name : String
  botId : String
  configYaml : String
  dateRangeStart : ℤ
  dateRangeEnd : ℤ
  notes : Option String := none

/-- What its fields and `_date_range_ordered` ask of it. -/
def BacktestRequest.valid (request : BacktestRequest) : Bool :=
  1 ≤ request.name.length && request.name.length ≤ 200 &&
    1 ≤ request.botId.length && request.botId.length ≤ 64 &&
    1 ≤ request.configYaml.length && request.configYaml.length ≤ 200000 &&
    request.notes.all (fun notes => notes.length ≤ 1000) &&
    request.dateRangeStart < request.dateRangeEnd

/-- The arguments of a process. -/
structure BacktestArgs where
  bot : String
  fromAt : ℤ
  toAt : ℤ
  configYaml : String
  name : Option String := none
  notes : Option String := none

/-- What lies outside: the bot that a configuration names where it loads, the digest, whether there
is a bot, the texts, the two proportions of a summary, the columns of the paper tables, and which of
some rows an `ORDER BY created_at LIMIT 1` takes. -/
structure BacktestSetting (F : Type*) where
  loads : String → Option String
  sha256 : String → String
  isBot : String → Bool
  isoformat : ℤ → String
  str : ℤ → String
  uuid : ℕ → String
  summaryJson : RunSummary F → Json
  proportion : ℕ → ℕ → F
  ratio : ℚ → ℚ → F
  cols : Columns
  oldest : List (BacktestRunRow F) → Option (BacktestRunRow F)

/-- Why a request is refused. -/
inductive BacktestRefusal where
  | unprocessable
  | notFound
  deriving DecidableEq, Repr

section Requests

variable (setting : BacktestSetting F)

/-- `trigger_backtest_run`, up to the commit: the two rows it inserts. -/
def triggerBacktestRun (runId eventId : ℕ) (call : AdminCall BacktestRequest) :
    Except BacktestRefusal (BacktestRunRow F × AuditEvent) :=
  if call.request.valid = false ∨
      setting.loads call.request.configYaml ≠ some call.request.botId then
    .error .unprocessable
  else if setting.isBot call.request.botId = false then .error .notFound
  else
    let row : BacktestRunRow F :=
      { id := runId, name := call.request.name, botId := call.request.botId,
        configYaml := call.request.configYaml, configHash := setting.sha256 call.request.configYaml,
        dateRangeStart := call.request.dateRangeStart, dateRangeEnd := call.request.dateRangeEnd,
        startedAt := call.now, notes := call.request.notes }
    .ok (row,
      { id := eventId, occurredAt := call.now, actor := call.actor,
        action := "backtest_run.queued", entityType := "backtest_run",
        entityId := setting.uuid runId, beforeState := none,
        afterState :=
          some (jsonableRow setting.str (row.auditStateDict setting.uuid setting.summaryJson)),
        correlationId := call.correlationId })

variable {setting} in
theorem triggerBacktestRun_ok {runId eventId : ℕ} {call : AdminCall BacktestRequest}
    {row : BacktestRunRow F} {event : AuditEvent}
    (accepted : triggerBacktestRun setting runId eventId call = .ok (row, event)) :
    row.id = runId ∧ row.status = .queued ∧ row.summary = none ∧
      event.entityId = setting.uuid row.id ∧ event.afterState =
        some (jsonableRow setting.str (row.auditStateDict setting.uuid setting.summaryJson)) := by
  simp only [triggerBacktestRun] at accepted
  split at accepted
  · cases accepted
  · split at accepted
    · cases accepted
    · cases accepted
      exact ⟨rfl, rfl, rfl, rfl, rfl⟩

/-- The row that `main` inserts. -/
def BacktestArgs.row (args : BacktestArgs) (runId : ℕ) (now : ℤ) : BacktestRunRow F :=
  { id := runId
    name := args.name.getD
      ("cli-" ++ args.bot ++ "-" ++ setting.isoformat args.fromAt ++ "-" ++
        setting.isoformat args.toAt)
    botId := args.bot, configYaml := args.configYaml,
    configHash := setting.sha256 args.configYaml, dateRangeStart := args.fromAt,
    dateRangeEnd := args.toAt, startedAt := now, notes := args.notes }

end Requests

/-! ## The worker -/

/-- The columns of `backtest_runs`, of migration 0012. -/
def backtestRunsColumns : List String :=
  ["id", "name", "bot_id", "config_yaml", "config_hash", "date_range_start", "date_range_end",
    "status", "started_at", "finished_at", "summary", "notes"]

/-- The columns that `_CLAIM_NEXT_BACKTEST_RUN_SQL` names, in the order in which it names them. -/
def claimColumns : List String :=
  ["status", "started_at", "id", "created_at", "name", "bot_id", "config_yaml", "config_hash",
    "date_range_start", "date_range_end", "finished_at", "summary", "notes"]

/-- What ends the loop of the worker: its statement is refused, or the connection or the statement
fails. -/
inductive ClaimError where
  | undefinedColumn (column : String)
  | raised (error : String)
  deriving DecidableEq, Repr

/-- `claim_next_backtest_run`: a statement that names an undefined column is refused; else the
oldest queued run is marked as running. -/
def claimNextBacktestRun (oldest : List (BacktestRunRow F) → Option (BacktestRunRow F)) (now : ℤ)
    (runs : List (BacktestRunRow F)) :
    Except ClaimError (Option (BacktestRunRow F) × List (BacktestRunRow F)) :=
  match claimColumns.find? (· ∉ backtestRunsColumns) with
  | some column => .error (.undefinedColumn column)
  | none =>
      match oldest (runs.filter (·.status = .queued)) with
      | none => .ok (none, runs)
      | some row =>
          let claimed := { row with status := .running, startedAt := now }
          .ok (some claimed, updateWhere (·.id == row.id) (fun _ => claimed) runs)

/-- Where `run_backtest_worker_loop` is: at the start of a turn, with a run that it claimed, or
ended by an error. -/
inductive WorkerPhase where
  | polling
  | dispatching (runId : ℕ)
  | ended (error : ClaimError)
  deriving DecidableEq, Repr

/-! ## Processes -/

/-- Where a process of `main` is: before its insert, before the statement that marks its run, in the
replay, in the `except` branch, or at its end. -/
inductive BacktestPhase where
  | starting
  | marking (runId : ℕ)
  | replaying (runId : ℕ)
  | failing (runId : ℕ) (error : String)
  | ended (code : Option ℕ)
  deriving DecidableEq, Repr

/-- The run that a process may still write to. -/
def BacktestPhase.run : BacktestPhase → Option ℕ
  | .marking runId | .replaying runId | .failing runId _ => some runId
  | .starting | .ended _ => none

/-- A statement on `paper_trades`. -/
inductive PaperStatement where
  | opens (row : PaperTrade)
  | reduces (tradeId : ℕ) (newQty newFeesPaid newRealizedPnl : ℚ)
  | closes (tradeId : ℕ) (exitPrice realizedPnl feesPaid : ℚ) (closedAt : ℕ)
      (closeReason : CloseReason) (closeOrderId : ℕ)

/-- The tables, the sequences, and where the processes and the worker are. -/
structure BacktestWorld (ι : Type) (F : Type*) where
  paperTrades : List (PaperTradeRow ι) := []
  nextTradeId : ℕ := 1
  runs : List (BacktestRunRow F) := []
  nextRunId : ℕ := 0
  trades : List (BacktestTrade ι) := []
  auditEvents : List AuditEvent := []
  auditSequence : ℕ := 1
  processes : ι → BacktestPhase := fun _ => .starting
  worker : WorkerPhase := .polling

/-- A step of the API, the worker or a run. -/
inductive BacktestStep (ι : Type) where
  /-- A request to the API, and how its transaction ends. -/
  | triggers (call : AdminCall BacktestRequest) (result : WriteResult)
  /-- A turn of the worker, and what its connection or its statement fails with. -/
  | polls (now : ℤ) (failure : Option String)
  | inserts (i : ι) (now : ℤ) (result : WriteResult)
  | marksRunning (i : ι) (now : ℤ) (result : WriteResult) (raised : String)
  /-- A committed statement of the paper exchange of a process, or of one of the service. -/
  | performs (who : Option ι) (statement : PaperStatement)
  | breaks (i : ι) (raised : String)
  | finishes (i : ι) (now : ℤ) (result : WriteResult) (raised : String)
  | fails (i : ι) (now : ℤ) (result : WriteResult)
  | killed (i : ι)

namespace BacktestWorld

def enter [DecidableEq ι] (i : ι) (phase : BacktestPhase) (w : BacktestWorld ι F) :
    BacktestWorld ι F :=
  { w with processes := Function.update w.processes i phase }

/-- `insert_backtest_run`. -/
def insertRun (row : BacktestRunRow F) (w : BacktestWorld ι F) : BacktestWorld ι F :=
  { w with runs := w.runs ++ [row], nextRunId := w.nextRunId + 1 }

/-- The transaction of the API. -/
def queue (row : BacktestRunRow F) (event : AuditEvent) (w : BacktestWorld ι F) :
    BacktestWorld ι F :=
  { w.insertRun row with
    auditEvents := w.auditEvents ++ [event], auditSequence := w.auditSequence + 1 }

/-- What a request to the API commits. -/
def trigger (setting : BacktestSetting F) (call : AdminCall BacktestRequest)
    (w : BacktestWorld ι F) : BacktestWorld ι F :=
  ((triggerBacktestRun setting w.nextRunId w.auditSequence call).toOption.map fun rows =>
    w.queue rows.1 rows.2).getD w

/-- `update_backtest_run_to_running`. -/
def markRunning (runId : ℕ) (now : ℤ) (w : BacktestWorld ι F) : BacktestWorld ι F :=
  { w with
    runs := updateWhere (·.id == runId)
      (fun row => { row with status := .running, startedAt := now }) w.runs }

/-- `update_backtest_run_completion`. -/
def complete (runId : ℕ) (status : BacktestStatus) (summary : RunSummary F) (now : ℤ)
    (w : BacktestWorld ι F) : BacktestWorld ι F :=
  { w with
    runs := updateWhere (·.id == runId)
      (fun row =>
        { row with status := status, summary := some summary, finishedAt := some now }) w.runs }

/-- What `copy_paper_trades_to_backtest` selects. -/
def closedOf (botId : String) (w : BacktestWorld ι F) : List (PaperTradeRow ι) :=
  w.paperTrades.filter fun row => row.trade.botId = botId ∧ row.trade.status = .closed

/-- `copy_paper_trades_to_backtest`. -/
def copyPaperTrades (runId : ℕ) (botId : String) (w : BacktestWorld ι F) : BacktestWorld ι F :=
  { w with trades := w.trades ++ (w.closedOf botId).map (PaperTradeRow.copy runId botId) }

/-- The trades that are recorded under a run. -/
def tradesOf (runId : ℕ) (w : BacktestWorld ι F) : List (BacktestTrade ι) :=
  w.trades.filter fun trade => trade.runId = runId

/-- The results that `_compute_summary` fetches. -/
def fetchPnls (runId : ℕ) (w : BacktestWorld ι F) : Except Unit (List ℚ) :=
  (((w.tradesOf runId).filter fun trade => trade.status = .closed).insertionSort
    fun trade later => trade.closedAt.getD 0 ≤ later.closedAt.getD 0).mapM BacktestTrade.result

/-- A turn of the worker loop. -/
def claim (oldest : List (BacktestRunRow F) → Option (BacktestRunRow F)) (now : ℤ)
    (w : BacktestWorld ι F) : BacktestWorld ι F :=
  match claimNextBacktestRun oldest now w.runs with
  | .ok (none, _) => w
  | .ok (some row, runs) => { w with runs := runs, worker := .dispatching row.id }
  | .error raised => { w with worker := .ended raised }

/-- What a failed run keeps of the text of the error. -/
def errorText (raised : String) : String := String.ofList (raised.toList.take 500)

section Performed

variable (cols : Columns) (who : Option ι)

/-- A statement of `packages/exchange/paper/persistence.py` on `paper_trades`. -/
def perform (statement : PaperStatement) (w : BacktestWorld ι F) : BacktestWorld ι F :=
  match statement with
  | .opens row =>
      { w with
        paperTrades := w.paperTrades ++ [⟨row.stored cols w.nextTradeId, none, who⟩]
        nextTradeId := w.nextTradeId + 1 }
  | .reduces tradeId newQty newFeesPaid newRealizedPnl =>
      { w with
        paperTrades := updateWhere (·.trade.id == tradeId)
          (fun row => { row with
            trade := row.trade.reduce cols newQty newFeesPaid newRealizedPnl }) w.paperTrades }
  | .closes tradeId exitPrice realizedPnl feesPaid closedAt closeReason closeOrderId =>
      { w with
        paperTrades := updateWhere (·.trade.id == tradeId)
          (fun row => { row with
            trade := row.trade.close cols exitPrice realizedPnl feesPaid closedAt closeReason
              closeOrderId }) w.paperTrades }

end Performed

end BacktestWorld

section Steps

variable [DecidableEq ι] (setting : BacktestSetting F) (args : ι → BacktestArgs)

/-- Whether a statement is one of a paper exchange that is up.  The exchange of a process trades as
its bot, while the process replays. -/
def performed (w : BacktestWorld ι F) : Option ι → PaperStatement → Bool
  | none, _ => true
  | some i, statement =>
      match w.processes i, statement with
      | .replaying _, .opens row => row.botId = (args i).bot
      | .replaying _, _ => true
      | _, _ => false

/-- The last transaction of `main`: the copy, the summary and the completion.  It is rolled back
where a result cannot be read. -/
def finishing (i : ι) (runId : ℕ) (now : ℤ) (w : BacktestWorld ι F) :
    Except Unit (BacktestWorld ι F) :=
  let copied := w.copyPaperTrades runId (args i).bot
  (copied.fetchPnls runId).map fun pnls =>
    copied.complete runId .completed
      (.figures (computeSummary setting.proportion setting.ratio pnls)) now

def backtestStep : BacktestStep ι → BacktestWorld ι F → BacktestWorld ι F
  | .triggers call result, w => if result.takes then w.trigger setting call else w
  | .polls now failure, w =>
      match w.worker, failure with
      | .polling, none => w.claim setting.oldest now
      | .polling, some raised => { w with worker := .ended (.raised raised) }
      | _, _ => w
  | .inserts i now result, w =>
      match w.processes i with
      | .starting =>
          (if result.takes then w.insertRun ((args i).row setting w.nextRunId now) else w).enter i
            (if result.heard then .marking w.nextRunId else .ended (some 1))
      | _ => w
  | .marksRunning i now result raised, w =>
      match w.processes i with
      | .marking runId =>
          (if result.takes then w.markRunning runId now else w).enter i
            (if result.heard then .replaying runId else .failing runId raised)
      | _ => w
  | .performs who statement, w =>
      if performed args w who statement then w.perform setting.cols who statement else w
  | .breaks i raised, w =>
      match w.processes i with
      | .replaying runId => w.enter i (.failing runId raised)
      | _ => w
  | .finishes i now result raised, w =>
      match w.processes i with
      | .replaying runId =>
          match finishing setting args i runId now w with
          | .error _ => w.enter i (.failing runId raised)
          | .ok finished =>
              (if result.takes then finished else w).enter i
                (if result.heard then .ended (some 0) else .failing runId raised)
      | _ => w
  | .fails i now result, w =>
      match w.processes i with
      | .failing runId raised =>
          (if result.takes then
              w.complete runId .failed (.error (BacktestWorld.errorText raised)) now
            else w).enter i (.ended (if result.heard then some 1 else none))
      | _ => w
  | .killed i, w => w.enter i (.ended none)

end Steps

/-! ## What a step may do -/

section Moves

/-- No turn of the worker claims a run. -/
theorem claimNextBacktestRun_eq (oldest : List (BacktestRunRow F) → Option (BacktestRunRow F))
    (now : ℤ) (runs : List (BacktestRunRow F)) :
    claimNextBacktestRun oldest now runs = .error (.undefinedColumn "created_at") :=
  rfl

theorem claim_eq (oldest : List (BacktestRunRow F) → Option (BacktestRunRow F)) (now : ℤ)
    (w : BacktestWorld ι F) :
    w.claim oldest now = { w with worker := .ended (.undefinedColumn "created_at") } := by
  rw [BacktestWorld.claim, claimNextBacktestRun_eq]

variable [DecidableEq ι] (setting : BacktestSetting F) (args : ι → BacktestArgs)

/-- What a step does: nothing to the runs but to insert a new one or to rewrite the one that the
process holds, and nothing to the trades of runs but to copy. -/
inductive BacktestMove (w : BacktestWorld ι F) : BacktestWorld ι F → Prop where
  | stays : BacktestMove w w
  | queues (call : AdminCall BacktestRequest) (row : BacktestRunRow F) (event : AuditEvent)
      (accepted :
        triggerBacktestRun setting w.nextRunId w.auditSequence call = .ok (row, event)) :
      BacktestMove w (w.queue row event)
  | gives (error : ClaimError)
      (given : error = .undefinedColumn "created_at" ∨ ∃ raised, error = .raised raised) :
      BacktestMove w { w with worker := .ended error }
  | inserts (i : ι) (now : ℤ) (phase : BacktestPhase)
      (next : ∀ runId, phase.run = some runId → runId = w.nextRunId) :
      BacktestMove w ((w.insertRun ((args i).row setting w.nextRunId now)).enter i phase)
  | leaves (i : ι) (phase : BacktestPhase) (gone : phase.run = none) :
      BacktestMove w (w.enter i phase)
  | breaks (i : ι) (runId : ℕ) (raised : String) (held : (w.processes i).run = some runId) :
      BacktestMove w (w.enter i (.failing runId raised))
  | marks (i : ι) (runId : ℕ) (now : ℤ) (phase : BacktestPhase)
      (held : w.processes i = .marking runId)
      (next : phase = .replaying runId ∨ ∃ raised, phase = .failing runId raised) :
      BacktestMove w ((w.markRunning runId now).enter i phase)
  | copies (i : ι) (runId : ℕ) (now : ℤ) (phase : BacktestPhase) (pnls : List ℚ)
      (held : w.processes i = .replaying runId)
      (fetched : (w.copyPaperTrades runId (args i).bot).fetchPnls runId = .ok pnls)
      (next : phase = .ended (some 0) ∨ ∃ raised, phase = .failing runId raised) :
      BacktestMove w
        (((w.copyPaperTrades runId (args i).bot).complete runId .completed
          (.figures (computeSummary setting.proportion setting.ratio pnls)) now).enter i phase)
  | fails (i : ι) (runId : ℕ) (raised text : String) (now : ℤ) (code : Option ℕ)
      (held : w.processes i = .failing runId raised) :
      BacktestMove w ((w.complete runId .failed (.error text) now).enter i (.ended code))
  | performs (who : Option ι) (statement : PaperStatement) :
      BacktestMove w (w.perform setting.cols who statement)

theorem backtestMove (w : BacktestWorld ι F) (step : BacktestStep ι) :
    BacktestMove setting args w (backtestStep setting args step w) := by
  cases step with
  | triggers call result =>
      cases taken : result.takes with
      | true =>
          simp only [backtestStep, taken, if_true, BacktestWorld.trigger]
          cases accepted : triggerBacktestRun setting w.nextRunId w.auditSequence call with
          | ok rows =>
              simp only [Except.toOption, Option.map_some, Option.getD_some]
              exact .queues call rows.1 rows.2 accepted
          | error refused =>
              simp only [Except.toOption, Option.map_none, Option.getD_none]
              exact .stays
      | false =>
          simp only [backtestStep, taken, Bool.false_eq_true, if_false]
          exact .stays
  | polls now failure =>
      cases turn : w.worker with
      | polling =>
          cases failure with
          | none =>
              simp only [backtestStep, turn, claim_eq]
              exact .gives _ (.inl rfl)
          | some raised =>
              simp only [backtestStep, turn]
              exact .gives _ (.inr ⟨raised, rfl⟩)
      | dispatching runId =>
          simp only [backtestStep, turn]
          exact .stays
      | ended raised =>
          simp only [backtestStep, turn]
          exact .stays
  | inserts i now result =>
      cases held : w.processes i with
      | starting =>
          cases result with
          | done =>
              simp only [backtestStep, held, WriteResult.takes, WriteResult.heard, if_true]
              exact .inserts i now _ fun runId same => (Option.some.inj same).symm
          | failed =>
              simp only [backtestStep, held, WriteResult.takes, WriteResult.heard,
                Bool.false_eq_true, if_false]
              exact .leaves i _ rfl
          | unheard =>
              simp only [backtestStep, held, WriteResult.takes, WriteResult.heard, if_true,
                Bool.false_eq_true, if_false]
              exact .inserts i now _ fun runId same => by cases same
      | _ =>
          simp only [backtestStep, held]
          exact .stays
  | marksRunning i now result raised =>
      cases held : w.processes i with
      | marking runId =>
          cases result with
          | done =>
              simp only [backtestStep, held, WriteResult.takes, WriteResult.heard, if_true]
              exact .marks i runId now _ held (.inl rfl)
          | failed =>
              simp only [backtestStep, held, WriteResult.takes, WriteResult.heard,
                Bool.false_eq_true, if_false]
              exact .breaks i runId raised (congrArg BacktestPhase.run held)
          | unheard =>
              simp only [backtestStep, held, WriteResult.takes, WriteResult.heard, if_true,
                Bool.false_eq_true, if_false]
              exact .marks i runId now _ held (.inr ⟨raised, rfl⟩)
      | _ =>
          simp only [backtestStep, held]
          exact .stays
  | performs who statement =>
      cases up : performed args w who statement with
      | true =>
          simp only [backtestStep, up, if_true]
          exact .performs who statement
      | false =>
          simp only [backtestStep, up, Bool.false_eq_true, if_false]
          exact .stays
  | breaks i raised =>
      cases held : w.processes i with
      | replaying runId =>
          simp only [backtestStep, held]
          exact .breaks i runId raised (congrArg BacktestPhase.run held)
      | _ =>
          simp only [backtestStep, held]
          exact .stays
  | finishes i now result raised =>
      cases held : w.processes i with
      | replaying runId =>
          have breaks : BacktestMove setting args w (w.enter i (.failing runId raised)) :=
            .breaks i runId raised (congrArg BacktestPhase.run held)
          cases fetched : (w.copyPaperTrades runId (args i).bot).fetchPnls runId with
          | error missing =>
              simp only [backtestStep, held, finishing, fetched, Except.map]
              exact breaks
          | ok pnls =>
              cases result with
              | done =>
                  simp only [backtestStep, held, finishing, fetched, Except.map,
                    WriteResult.takes, WriteResult.heard, if_true]
                  exact .copies i runId now _ pnls held fetched (.inl rfl)
              | failed =>
                  simp only [backtestStep, held, finishing, fetched, Except.map,
                    WriteResult.takes, WriteResult.heard, Bool.false_eq_true, if_false]
                  exact breaks
              | unheard =>
                  simp only [backtestStep, held, finishing, fetched, Except.map,
                    WriteResult.takes, WriteResult.heard, if_true, Bool.false_eq_true, if_false]
                  exact .copies i runId now _ pnls held fetched (.inr ⟨raised, rfl⟩)
      | _ =>
          simp only [backtestStep, held]
          exact .stays
  | fails i now result =>
      cases held : w.processes i with
      | failing runId raised =>
          cases taken : result.takes with
          | true =>
              simp only [backtestStep, held, taken, if_true]
              exact .fails i runId raised _ now _ held
          | false =>
              simp only [backtestStep, held, taken, Bool.false_eq_true, if_false]
              exact .leaves i _ rfl
      | _ =>
          simp only [backtestStep, held]
          exact .stays
  | killed i => exact .leaves i _ rfl

end Moves

/-! ## Runs and the processes that hold them -/

section Held

variable [DecidableEq ι] (setting : BacktestSetting F) (args : ι → BacktestArgs)

/-- The numbers of the runs are below the next one, one process at most holds a run, and a run is
one of the bot of its process and of its trades. -/
structure Held (w : BacktestWorld ι F) : Prop where
  processes : ∀ i runId, (w.processes i).run = some runId → runId < w.nextRunId
  apart : ∀ i j runId, (w.processes i).run = some runId → (w.processes j).run = some runId → i = j
  runs : ∀ row ∈ w.runs, row.id < w.nextRunId
  trades : ∀ trade ∈ w.trades, trade.runId < w.nextRunId
  ofProcess : ∀ i runId, (w.processes i).run = some runId →
    ∀ row ∈ w.runs, row.id = runId → row.botId = (args i).bot
  ofTrade : ∀ trade ∈ w.trades, ∀ row ∈ w.runs, row.id = trade.runId → row.botId = trade.botId

variable {setting args} {w : BacktestWorld ι F}

theorem enter_eq_some (f : BacktestPhase → Option ℕ) {i j : ι} {phase : BacktestPhase} {runId : ℕ} :
    f ((w.enter i phase).processes j) = some runId ↔
      (j = i ∧ f phase = some runId) ∨ (j ≠ i ∧ f (w.processes j) = some runId) := by
  by_cases same : j = i
  · subst same
    simp [BacktestWorld.enter]
  · simp [BacktestWorld.enter, same]

/-- A process that holds no other run than before. -/
theorem Held.enter (held : Held args w) {i : ι} {phase : BacktestPhase}
    (within : ∀ runId, phase.run = some runId → (w.processes i).run = some runId) :
    Held args (w.enter i phase) := by
  have kept : ∀ j runId, ((w.enter i phase).processes j).run = some runId →
      (w.processes j).run = some runId := by
    intro j runId holds
    rcases (enter_eq_some BacktestPhase.run).mp holds with ⟨rfl, own⟩ | ⟨-, own⟩
    · exact within runId own
    · exact own
  exact
    { processes := fun j runId holds => held.processes j runId (kept j runId holds)
      apart := fun j k runId holds holds' =>
        held.apart j k runId (kept j runId holds) (kept k runId holds')
      runs := held.runs
      trades := held.trades
      ofProcess := fun j runId holds => held.ofProcess j runId (kept j runId holds)
      ofTrade := held.ofTrade }

/-- A process that takes a run nobody holds. -/
theorem Held.enterNew (held : Held args w) {i : ι} {phase : BacktestPhase} {fresh : ℕ}
    (numbered : w.nextRunId = fresh + 1) (free : ∀ j, (w.processes j).run ≠ some fresh)
    (next : ∀ runId, phase.run = some runId → runId = fresh)
    (own : ∀ row ∈ w.runs, row.id = fresh → row.botId = (args i).bot) :
    Held args (w.enter i phase) := by
  refine ⟨fun j runId holds => ?_, fun j k runId holds holds' => ?_, held.runs, held.trades,
    fun j runId holds row member same => ?_, held.ofTrade⟩
  · rcases (enter_eq_some BacktestPhase.run).mp holds with ⟨rfl, taken⟩ | ⟨-, old⟩
    · rw [next runId taken]
      exact numbered ▸ Nat.lt_succ_self fresh
    · exact held.processes j runId old
  · rcases (enter_eq_some BacktestPhase.run).mp holds with ⟨rfl, taken⟩ | ⟨-, old⟩
    · rcases (enter_eq_some BacktestPhase.run).mp holds' with ⟨rfl, -⟩ | ⟨-, old⟩
      · rfl
      · exact absurd (next runId taken ▸ old) (free k)
    · rcases (enter_eq_some BacktestPhase.run).mp holds' with ⟨rfl, taken⟩ | ⟨-, old'⟩
      · exact absurd (next runId taken ▸ old) (free j)
      · exact held.apart j k runId old old'
  · rcases (enter_eq_some BacktestPhase.run).mp holds with ⟨rfl, taken⟩ | ⟨-, old⟩
    · exact own row member (same.trans (next runId taken))
    · exact held.ofProcess j runId old row member same

omit [DecidableEq ι] in
/-- A run that is inserted, by the API or by a process, is nobody's before. -/
theorem Held.insertRun (held : Held args w) {row : BacktestRunRow F} (id : row.id = w.nextRunId) :
    Held args (w.insertRun row) := by
  refine ⟨fun i runId holds => (held.processes i runId holds).trans (Nat.lt_succ_self _),
    held.apart, fun other member => ?_,
    fun trade member => (held.trades trade member).trans (Nat.lt_succ_self _),
    fun i runId holds other member same => ?_, fun trade member other listed same => ?_⟩
  · rcases List.mem_append.mp member with old | new
    · exact (held.runs other old).trans (Nat.lt_succ_self _)
    · rw [List.mem_singleton.mp new, id]
      exact Nat.lt_succ_self _
  · rcases List.mem_append.mp member with old | new
    · exact held.ofProcess i runId holds other old same
    · rw [List.mem_singleton.mp new, id] at same
      exact absurd same (held.processes i runId holds).ne'
  · rcases List.mem_append.mp listed with old | new
    · exact held.ofTrade trade member other old same
    · rw [List.mem_singleton.mp new, id] at same
      exact absurd same (held.trades trade member).ne'

omit [DecidableEq ι] in
/-- A rewrite of runs that keeps their numbers and their bots. -/
theorem Held.update (held : Held args w) {runId : ℕ} {set : BacktestRunRow F → BacktestRunRow F}
    (keeps : ∀ row, (set row).id = row.id ∧ (set row).botId = row.botId) :
    Held args { w with runs := updateWhere (·.id == runId) set w.runs } := by
  have old : ∀ row ∈ updateWhere (·.id == runId) set w.runs,
      ∃ before ∈ w.runs, row.id = before.id ∧ row.botId = before.botId := by
    intro row member
    obtain ⟨before, listed, ⟨-, rfl⟩ | ⟨-, rfl⟩⟩ := mem_updateWhere.mp member
    · exact ⟨before, listed, keeps before⟩
    · exact ⟨row, listed, rfl, rfl⟩
  refine ⟨held.processes, held.apart, fun row member => ?_, held.trades,
    fun i other holds row member same => ?_, fun trade member row listed same => ?_⟩
  · obtain ⟨before, listed, id, -⟩ := old row member
    exact id ▸ held.runs before listed
  · obtain ⟨before, listed, id, bot⟩ := old row member
    exact bot.trans (held.ofProcess i other holds before listed (id.symm.trans same))
  · obtain ⟨before, listed', id, bot⟩ := old row listed
    exact bot.trans (held.ofTrade trade member before listed' (id.symm.trans same))

omit [DecidableEq ι] in
theorem Held.markRunning (held : Held args w) (runId : ℕ) (now : ℤ) :
    Held args (w.markRunning runId now) :=
  held.update fun _ => ⟨rfl, rfl⟩

omit [DecidableEq ι] in
theorem Held.complete (held : Held args w) (runId : ℕ) (status : BacktestStatus)
    (summary : RunSummary F) (now : ℤ) : Held args (w.complete runId status summary now) :=
  held.update fun _ => ⟨rfl, rfl⟩

omit [DecidableEq ι] in
theorem Held.copyPaperTrades (held : Held args w) {i : ι} {runId : ℕ}
    (holds : (w.processes i).run = some runId) :
    Held args (w.copyPaperTrades runId (args i).bot) := by
  refine ⟨held.processes, held.apart, held.runs, fun trade member => ?_, held.ofProcess,
    fun trade member row listed same => ?_⟩
  · rcases List.mem_append.mp member with old | new
    · exact held.trades trade old
    · obtain ⟨row, -, rfl⟩ := List.mem_map.mp new
      exact held.processes i runId holds
  · rcases List.mem_append.mp member with old | new
    · exact held.ofTrade trade old row listed same
    · obtain ⟨paper, -, rfl⟩ := List.mem_map.mp new
      exact held.ofProcess i runId holds row listed same

omit [DecidableEq ι] in
theorem trades_perform (cols : Columns) (who : Option ι) (statement : PaperStatement) :
    (w.perform cols who statement).trades = w.trades ∧
      (w.perform cols who statement).runs = w.runs ∧
      (w.perform cols who statement).processes = w.processes ∧
      (w.perform cols who statement).nextRunId = w.nextRunId := by
  cases statement <;> exact ⟨rfl, rfl, rfl, rfl⟩

theorem Held.move (held : Held args w) {w' : BacktestWorld ι F}
    (move : BacktestMove setting args w w') : Held args w' := by
  cases move with
  | stays => exact held
  | queues call row event accepted =>
      have inserted := held.insertRun (triggerBacktestRun_ok accepted).1
      exact ⟨inserted.processes, inserted.apart, inserted.runs, inserted.trades,
        inserted.ofProcess, inserted.ofTrade⟩
  | gives =>
      exact ⟨held.processes, held.apart, held.runs, held.trades, held.ofProcess, held.ofTrade⟩
  | inserts i now phase next =>
      exact (held.insertRun rfl).enterNew rfl (fun j holds => (held.processes j _ holds).ne rfl)
        next fun row member same => by
          rcases List.mem_append.mp member with old | new
          · exact absurd same (held.runs row old).ne
          · rw [List.mem_singleton.mp new]
            rfl
  | leaves i phase gone =>
      exact held.enter fun runId same => by
        rw [gone] at same
        cases same
  | breaks i runId raised holds =>
      exact held.enter fun other same => holds.trans same
  | marks i runId now phase holds next =>
      refine (held.markRunning runId now).enter fun other same => ?_
      rcases next with rfl | ⟨raised, rfl⟩ <;>
        exact (congrArg BacktestPhase.run holds).trans same
  | copies i runId now phase pnls holds fetched next =>
      have holdsRun := congrArg BacktestPhase.run holds
      refine ((held.copyPaperTrades holdsRun).complete runId _ _ now).enter fun other same => ?_
      rcases next with rfl | ⟨raised, rfl⟩
      · cases same
      · exact holdsRun.trans same
  | fails i runId raised text now code holds =>
      refine (held.complete runId _ _ now).enter fun other same => ?_
      cases same
  | performs who statement =>
      obtain ⟨trades, runs, processes, next⟩ := trades_perform (w := w) setting.cols who statement
      refine ⟨?_, ?_, ?_, ?_, ?_, ?_⟩
      · rw [processes, next]
        exact held.processes
      · rw [processes]
        exact held.apart
      · rw [runs, next]
        exact held.runs
      · rw [trades, next]
        exact held.trades
      · rw [processes, runs]
        exact held.ofProcess
      · rw [trades, runs]
        exact held.ofTrade

omit [DecidableEq ι] in
theorem held_empty : Held args ({} : BacktestWorld ι F) where
  processes i runId holds := by cases holds
  apart i j runId holds := by cases holds
  runs row member := absurd member List.not_mem_nil
  trades trade member := absurd member List.not_mem_nil
  ofProcess i runId holds := by cases holds
  ofTrade trade member := absurd member List.not_mem_nil

end Held

/-! ## What the API queued -/

section Queued

variable [DecidableEq ι] (setting : BacktestSetting F) (args : ι → BacktestArgs)

/-- A run stands as it was queued, and no process writes to it. -/
structure StandsQueued (w : BacktestWorld ι F) (event : AuditEvent) (row : BacktestRunRow F) :
    Prop where
  stands : row ∈ w.runs
  queued : row.status = .queued ∧ row.summary = none
  entity : event.entityId = setting.uuid row.id
  recorded : event.afterState =
    some (jsonableRow setting.str (row.auditStateDict setting.uuid setting.summaryJson))
  free : ∀ i, (w.processes i).run ≠ some row.id
  untraded : ∀ trade ∈ w.trades, trade.runId ≠ row.id

variable {setting args} {w : BacktestWorld ι F} {event : AuditEvent} {row : BacktestRunRow F}

theorem StandsQueued.enter (stands : StandsQueued setting w event row) {i : ι}
    {phase : BacktestPhase} (other : phase.run ≠ some row.id) :
    StandsQueued setting (w.enter i phase) event row where
  stands := stands.stands
  queued := stands.queued
  entity := stands.entity
  recorded := stands.recorded
  untraded := stands.untraded
  free j holds := by
    rcases (enter_eq_some BacktestPhase.run).mp holds with ⟨-, own⟩ | ⟨-, own⟩
    · exact other own
    · exact stands.free j own

omit [DecidableEq ι] in
/-- A rewrite of another run. -/
theorem StandsQueued.update (stands : StandsQueued setting w event row) {runId : ℕ}
    (other : runId ≠ row.id) (set : BacktestRunRow F → BacktestRunRow F) :
    StandsQueued setting { w with runs := updateWhere (·.id == runId) set w.runs } event row where
  stands := mem_updateWhere.mpr ⟨row, stands.stands, .inr ⟨by simpa using other.symm, rfl⟩⟩
  queued := stands.queued
  entity := stands.entity
  recorded := stands.recorded
  free := stands.free
  untraded := stands.untraded

omit [DecidableEq ι] in
theorem StandsQueued.copyPaperTrades (stands : StandsQueued setting w event row) {runId : ℕ}
    (other : runId ≠ row.id) (botId : String) :
    StandsQueued setting (w.copyPaperTrades runId botId) event row where
  stands := stands.stands
  queued := stands.queued
  entity := stands.entity
  recorded := stands.recorded
  free := stands.free
  untraded trade member := by
    rcases List.mem_append.mp member with old | new
    · exact stands.untraded trade old
    · obtain ⟨paper, -, rfl⟩ := List.mem_map.mp new
      exact other

omit [DecidableEq ι] in
/-- Another run is inserted. -/
theorem StandsQueued.insertRun (stands : StandsQueued setting w event row)
    (inserted : BacktestRunRow F) : StandsQueued setting (w.insertRun inserted) event row where
  stands := List.mem_append_left _ stands.stands
  queued := stands.queued
  entity := stands.entity
  recorded := stands.recorded
  free := stands.free
  untraded := stands.untraded

theorem StandsQueued.move (stands : StandsQueued setting w event row) (held : Held args w)
    {w' : BacktestWorld ι F} (move : BacktestMove setting args w w') :
    StandsQueued setting w' event row := by
  have other : ∀ i runId, (w.processes i).run = some runId → runId ≠ row.id :=
    fun i runId holds same => stands.free i (same ▸ holds)
  cases move with
  | stays => exact stands
  | queues call queued event' accepted =>
      have inserted := stands.insertRun queued
      exact ⟨inserted.stands, stands.queued, stands.entity, stands.recorded, stands.free,
        stands.untraded⟩
  | gives =>
      exact ⟨stands.stands, stands.queued, stands.entity, stands.recorded, stands.free,
        stands.untraded⟩
  | inserts i now phase next =>
      exact (stands.insertRun _).enter fun same =>
        absurd (next row.id same) (held.runs row stands.stands).ne
  | leaves i phase gone =>
      refine stands.enter fun same => ?_
      rw [gone] at same
      cases same
  | breaks i runId raised holds =>
      exact stands.enter fun same => other i runId holds (Option.some.inj same)
  | marks i runId now phase holds next =>
      have apart := other i runId (congrArg BacktestPhase.run holds)
      refine (stands.update apart _).enter fun same => ?_
      rcases next with rfl | ⟨raised, rfl⟩ <;> exact apart (Option.some.inj same)
  | copies i runId now phase pnls holds fetched next =>
      have apart := other i runId (congrArg BacktestPhase.run holds)
      refine ((stands.copyPaperTrades apart _).update apart _).enter fun same => ?_
      rcases next with rfl | ⟨raised, rfl⟩
      · cases same
      · exact apart (Option.some.inj same)
  | fails i runId raised text now code holds =>
      have apart := other i runId (congrArg BacktestPhase.run holds)
      exact (stands.update apart _).enter fun same => by cases same
  | performs who statement =>
      obtain ⟨trades, runs, processes, -⟩ := trades_perform (w := w) setting.cols who statement
      refine ⟨?_, stands.queued, stands.entity, stands.recorded, ?_, ?_⟩
      · rw [runs]
        exact stands.stands
      · rw [processes]
        exact stands.free
      · rw [trades]
        exact stands.untraded

omit [DecidableEq ι] in
theorem auditEvents_perform (cols : Columns) (who : Option ι) (statement : PaperStatement) :
    (w.perform cols who statement).auditEvents = w.auditEvents ∧
      (w.perform cols who statement).worker = w.worker := by
  cases statement <;> exact ⟨rfl, rfl⟩

variable (setting) in
/-- Every run that the API queued stands as it was queued. -/
def AllQueued (w : BacktestWorld ι F) : Prop :=
  ∀ event ∈ w.auditEvents, ∃ row, StandsQueued setting w event row

theorem AllQueued.move (queued : AllQueued setting w) (held : Held args w)
    {w' : BacktestWorld ι F} (move : BacktestMove setting args w w') : AllQueued setting w' := by
  have kept : ∀ event ∈ w.auditEvents, ∃ row, StandsQueued setting w' event row := by
    intro event member
    obtain ⟨row, stands⟩ := queued event member
    exact ⟨row, stands.move held move⟩
  intro event member
  cases move with
  | queues call row event' accepted =>
      obtain ⟨id, status, summary, entity, recorded⟩ := triggerBacktestRun_ok accepted
      rcases List.mem_append.mp member with old | new
      · exact kept event old
      · rw [List.mem_singleton.mp new]
        exact ⟨row, List.mem_append_right _ List.mem_cons_self, ⟨status, summary⟩, entity, recorded,
          fun i holds => (held.processes i row.id holds).ne id,
          fun trade listed => id ▸ (held.trades trade listed).ne⟩
  | performs who statement =>
      exact kept event ((auditEvents_perform setting.cols who statement).1 ▸ member)
  | _ => exact kept event member

/-- The worker is in its first turn, or it has ended there, by its statement or by a failure. -/
def WorkerIdle (w : BacktestWorld ι F) : Prop :=
  w.worker = .polling ∨ w.worker = .ended (.undefinedColumn "created_at") ∨
    ∃ raised, w.worker = .ended (.raised raised)

theorem WorkerIdle.move (idle : WorkerIdle w) {w' : BacktestWorld ι F}
    (move : BacktestMove setting args w w') : WorkerIdle w' := by
  cases move with
  | gives error given =>
      exact .inr (given.imp (congrArg _) (Exists.imp fun raised same => congrArg _ same))
  | performs who statement =>
      rw [WorkerIdle, (auditEvents_perform setting.cols who statement).2]
      exact idle
  | _ => exact idle

/-- **What the API queues stays queued**: in every run of the system, whatever the requests, the
processes, the paper exchanges and the turns of the worker do, each run that an audit event records
as queued stands in the table as the event records it, without a trade; and the worker, once it has
taken a turn, has ended. -/
theorem queued_stay_queued (steps : List (BacktestStep ι)) :
    AllQueued setting (run (backtestStep setting args) ({} : BacktestWorld ι F) steps) ∧
      WorkerIdle (run (backtestStep setting args) ({} : BacktestWorld ι F) steps) := by
  have reached := run_invariant_of_always
    (fun w : BacktestWorld ι F => Held args w ∧ AllQueued setting w ∧ WorkerIdle w)
    (fun w step ⟨held, queued, idle⟩ =>
      have move := backtestMove setting args w step
      ⟨held.move move, queued.move held move, idle.move move⟩) steps
    (s := ({} : BacktestWorld ι F))
    ⟨held_empty, fun event member => absurd member List.not_mem_nil, .inl rfl⟩
  exact reached.2

end Queued

end Scalper.Backtest
