import Scalper.Admin.Audit
import Scalper.Lib.Locks
import Scalper.Scoring.YamlLoader

/-!
# Applying bot configurations

`apply_bot_config` of `services/analytics_api/app/routers/configs.py` with the statements of
`packages/db/queries/analytics.py` it issues.  A configuration is loaded and must name the bot of the
request; then a transaction reads the current version, reads the highest version number, inserts the
next version, marks it as applied on the bot and inserts an audit event.  Any number of requests run
at once, one statement at a time, each statement on what is committed then.  The versions of a bot
are unique: an insert waits while an open transaction has inserted the same version of the bot, and
is refused where that version is committed.

The YAML parser, the conversions of pydantic, the digest and the text of a time are parameters.
-/

set_option autoImplicit false

namespace Scalper.Admin

open Scalper.Lib Scalper.Scoring Scalper.Scoring.YamlLoader

/-- A row of `bot_configs`. -/
structure BotConfigRow where
  id : ℕ
  botId : String
  version : ℕ
  appliedAt : ℤ
  appliedBy : String
  configYaml : String
  configHash : String
  notes : Option String
  deriving DecidableEq, Repr

/-- `_audit_state_dict`: all but the text of the configuration. -/
def BotConfigRow.auditStateDict (row : BotConfigRow) : List (String × ColumnValue) :=
  [("id", .native (.int row.id)),
    ("bot_id", .native (.string row.botId)),
    ("version", .native (.int row.version)),
    ("applied_at", .datetime row.appliedAt),
    ("applied_by", .native (.string row.appliedBy)),
    ("config_hash", .native (.string row.configHash)),
    ("notes", optionalText row.notes)]

/-- What `bots` says of the configuration of a bot. -/
structure BotRow where
  configHash : String
  configAppliedAt : ℤ
  deriving DecidableEq, Repr

/-- The tables a config apply works on. -/
structure ConfigTables where
  bots : String → Option BotRow
  botConfigs : List BotConfigRow := []
  auditEvents : List AuditEvent := []
  configSequence : ℕ := 0
  auditSequence : ℕ := 0

/-- `ConfigApplyRequest` with the bot of the path. -/
structure ConfigApply where
  botId : String
  yamlText : String
  appliedBy : String
  notes : Option String := none

/-- What the caller is answered. -/
inductive ConfigAnswer where
  | applied (row : BotConfigRow)
  | unprocessable
  | mismatch
  | race
  deriving DecidableEq, Repr

def ConfigAnswer.status : ConfigAnswer → ℕ
  | .applied _ => 201
  | .unprocessable => 422
  | .mismatch => 409
  | .race => 409

/-- What lies outside the request: the loader, the digest and the text of a time. -/
structure ConfigWorld (γ : Type) where
  safeLoad : String → Option Yaml
  pydantic : Pydantic
  parser : ConditionParser γ
  sha256 : String → String
  str : ℤ → String

/-! ## The statements -/

namespace ConfigTables

variable (tables : ConfigTables) (botId : String)

/-- The versions of a bot, in the order in which they were committed. -/
def configsOf : List BotConfigRow := tables.botConfigs.filter fun row => row.botId = botId

/-- `select_bot_config_current`. -/
def selectBotConfigCurrent : Option BotConfigRow :=
  (tables.configsOf botId).argmax BotConfigRow.version

/-- `select_max_bot_config_version`. -/
def selectMaxBotConfigVersion : ℕ :=
  ((tables.configsOf botId).map BotConfigRow.version).foldr max 0

/-- Whether a version of the bot is committed. -/
def hasVersion (version : ℕ) : Bool :=
  (tables.configsOf botId).any fun row => row.version = version

/-- The commit of a new version: its row, its mark on the bot and its audit event. -/
def commitVersion (row : BotConfigRow) (event : AuditEvent) : ConfigTables :=
  { tables with
    bots := Function.update tables.bots row.botId (some ⟨row.configHash, row.appliedAt⟩)
    botConfigs := tables.botConfigs ++ [row]
    auditEvents := tables.auditEvents ++ [event] }

end ConfigTables

/-! ## A request -/

/-- How far a config apply has come. -/
inductive ConfigPhase where
  | arrived
  /-- The current version is read. -/
  | current (before : Option BotConfigRow)
  /-- The highest version number is read too. -/
  | counted (before : Option BotConfigRow) (maxVersion : ℕ)
  | inserted (before : Option BotConfigRow) (row : BotConfigRow)
  /-- The bot is marked. -/
  | updated (before : Option BotConfigRow) (row : BotConfigRow)
  | logged (event : AuditEvent) (row : BotConfigRow)
  | answered (answer : ConfigAnswer)
  /-- An error that is not caught, or a lost request; the transaction is rolled back. -/
  | failed

/-- A config apply under way. -/
structure ConfigSession where
  call : AdminCall ConfigApply
  phase : ConfigPhase := .arrived

/-- What a request has answered. -/
def ConfigPhase.answer : ConfigPhase → Option ConfigAnswer
  | .answered answer => some answer
  | _ => none

/-- The version that the open transaction of a request has inserted. -/
def ConfigSession.holds (session : ConfigSession) : Option (String × ℕ) :=
  match session.phase with
  | .inserted _ row => some (session.call.request.botId, row.version)
  | .updated _ row => some (session.call.request.botId, row.version)
  | .logged _ row => some (session.call.request.botId, row.version)
  | _ => none

/-- The version that the next statement of a request inserts. -/
def ConfigSession.wants (session : ConfigSession) : Option (String × ℕ) :=
  match session.phase with
  | .counted _ maxVersion => some (session.call.request.botId, maxVersion + 1)
  | _ => none

/-- A request that fails before it has answered. -/
def ConfigSession.fail (session : ConfigSession) : ConfigSession :=
  match session.phase with
  | .answered _ => session
  | _ => { session with phase := .failed }

section Program

variable {γ : Type} (world : ConfigWorld γ)

/-- `load_bot_config_from_string`; nothing where it raises. -/
def ConfigWorld.loadBotConfigFromString (text : String) : Option (BotConfig γ) :=
  (world.safeLoad text).bind fun document =>
    (loadBotConfig world.pydantic world.parser document).toOption

/-- The row that a request inserts. -/
def ConfigWorld.configRow (call : AdminCall ConfigApply) (id version : ℕ) : BotConfigRow where
  id := id
  botId := call.request.botId
  version := version
  appliedAt := call.now
  appliedBy := call.request.appliedBy
  configYaml := call.request.yamlText
  configHash := world.sha256 call.request.yamlText
  notes := call.request.notes

/-- A version as the audit trail has it. -/
def ConfigWorld.configState (row : BotConfigRow) : Json :=
  jsonableRow world.str row.auditStateDict

def ConfigWorld.configEvent (call : AdminCall ConfigApply) (id : ℕ)
    (before : Option BotConfigRow) (row : BotConfigRow) : AuditEvent where
  id := id
  occurredAt := call.now
  actor := call.actor
  action := "bot_config.apply"
  entityType := "bot_config"
  entityId := call.request.botId
  beforeState := before.map world.configState
  afterState := some (world.configState row)
  correlationId := call.correlationId

/-- `insert_bot_config`.  A version that is there raises, and so does a bot that is not. -/
def ConfigWorld.insertBotConfig (call : AdminCall ConfigApply) (before : Option BotConfigRow)
    (version : ℕ) (tables : ConfigTables) : ConfigPhase :=
  if tables.hasVersion call.request.botId version then .answered .race
  else if (tables.bots call.request.botId).isNone then .failed
  else .inserted before (world.configRow call tables.configSequence version)

/-- `apply_bot_config`, one statement further. -/
def ConfigWorld.applyNext (tables : ConfigTables) (session : ConfigSession) :
    ConfigTables × ConfigSession :=
  let call := session.call
  match session.phase with
  | .arrived =>
      match world.loadBotConfigFromString call.request.yamlText with
      | none => (tables, { session with phase := .answered .unprocessable })
      | some parsed =>
          if parsed.botId ≠ call.request.botId then
            (tables, { session with phase := .answered .mismatch })
          else
            (tables,
              { session with
                phase := .current (tables.selectBotConfigCurrent call.request.botId) })
  | .current before =>
      (tables,
        { session with
          phase := .counted before (tables.selectMaxBotConfigVersion call.request.botId) })
  | .counted before maxVersion =>
      ({ tables with configSequence := tables.configSequence + 1 },
        { session with phase := world.insertBotConfig call before (maxVersion + 1) tables })
  | .inserted before row =>
      -- `update_bot_config_applied`
      if (tables.bots call.request.botId).isSome then
        (tables, { session with phase := .updated before row })
      else (tables, { session with phase := .failed })
  | .updated before row =>
      ({ tables with auditSequence := tables.auditSequence + 1 },
        { session with
          phase := .logged (world.configEvent call tables.auditSequence before row) row })
  | .logged event row =>
      (tables.commitVersion row event, { session with phase := .answered (.applied row) })
  | .answered _ => (tables, session)
  | .failed => (tables, session)

def ConfigWorld.program : Locking ConfigTables ConfigSession (String × ℕ) where
  holds := ConfigSession.holds
  wants := ConfigSession.wants
  next := world.applyNext
  fail := ConfigSession.fail

end Program

end Scalper.Admin
