import Scalper.Admin.BotConfigs
import Scalper.Scoring.NothingDropped
import Mathlib.Data.List.MinMax
import Mathlib.Data.List.Range

/-!
# The versions of a configuration

What any number of requests that apply configurations leave (`configs_versioned`).  The versions of
a bot are 1, 2, 3 and so on, in the order in which they are committed, each from a text that the
loader accepts and that names the bot; the bot is marked with the last of them; and each has its one
audit event, in the same order.  A request never finds its bot gone when it marks it: that failure
cannot occur.

The state that an event gives as the one before is that of the version that was current when the
request made its first read, so it lags behind by the versions committed between that read and the
next (`before_lags`).
-/

set_option autoImplicit false

namespace Scalper.Admin

open Scalper.Lib Scalper.Scoring Scalper.Scoring.YamlLoader

section Statements

variable {γ : Type} {world : ConfigWorld γ} {tables tables' : ConfigTables} {botId : String}

/-- The events of a bot's configuration. -/
def configTrail (tables : ConfigTables) (botId : String) : List AuditEvent :=
  auditTrail "bot_config" botId tables.auditEvents

/-- The bot, once versions have been committed. -/
def markedBot (initial : Option BotRow) (versions : List BotConfigRow) : Option BotRow :=
  match versions.getLast? with
  | none => initial
  | some row => some ⟨row.configHash, row.appliedAt⟩

/-- A version, with its audit event, after the versions and events before it. -/
structure VersionEvent (earlier : List AuditEvent) (event : AuditEvent) : Prop where
  before : event.beforeState ∈ auditStates none earlier
  numbered : ∀ other ∈ earlier, other.id < event.id

variable (world) in
/-- The row is of a configuration that the loader accepts, of the bot it names. -/
structure ValidConfig (row : BotConfigRow) : Prop where
  loads : ∃ parsed, world.loadBotConfigFromString row.configYaml = some parsed ∧
    parsed.botId = row.botId
  hash : row.configHash = world.sha256 row.configYaml

variable (world) in
/-- The versions, the marks and the events agree. -/
structure Versioned (bots : String → Option BotRow) (tables : ConfigTables) : Prop where
  versions : ∀ botId, (tables.configsOf botId).map BotConfigRow.version =
    List.range' 1 (tables.configsOf botId).length
  marked : ∀ botId, tables.bots botId = markedBot (bots botId) (tables.configsOf botId)
  valid : ∀ row ∈ tables.botConfigs, ValidConfig world row
  audited : ∀ botId, (configTrail tables botId).map AuditEvent.afterState =
    (tables.configsOf botId).map fun row => some (world.configState row)
  events : ∀ botId, EachAfter VersionEvent (configTrail tables botId)
  below : ∀ event ∈ tables.auditEvents, event.id < tables.auditSequence

variable {bots : String → Option BotRow}

/-- The versions are all the numbers up to their count. -/
theorem Versioned.hasVersion_iff (versioned : Versioned world bots tables) {version : ℕ} :
    tables.hasVersion botId version = true ↔
      1 ≤ version ∧ version ≤ (tables.configsOf botId).length := by
  have listed : tables.hasVersion botId version = true ↔
      version ∈ (tables.configsOf botId).map BotConfigRow.version := by
    simp [ConfigTables.hasVersion, List.any_eq_true, List.mem_map]
  rw [listed, versioned.versions, List.mem_range'_1]
  omega

theorem foldr_max_range' (count : ℕ) : (List.range' 1 count).foldr max 0 = count := by
  induction count with
  | zero => rfl
  | succ count ih =>
      have folded : ∀ (xs : List ℕ) (x : ℕ), (xs ++ [x]).foldr max 0 = max (xs.foldr max 0) x := by
        intro xs x
        induction xs with
        | nil => simp
        | cons y ys ih => simp [ih, max_assoc]
      rw [List.range'_1_concat, folded, ih]
      omega

/-- The highest version is the number of versions. -/
theorem Versioned.selectMax_eq (versioned : Versioned world bots tables) (botId : String) :
    tables.selectMaxBotConfigVersion botId = (tables.configsOf botId).length := by
  rw [ConfigTables.selectMaxBotConfigVersion, versioned.versions, foldr_max_range']

/-- Of versions that are numbered in order, the last is the newest. -/
theorem argmax_version {rows : List BotConfigRow}
    (versions : rows.map BotConfigRow.version = List.range' 1 rows.length) :
    rows.argmax BotConfigRow.version = rows.getLast? := by
  induction rows using List.reverseRecOn with
  | nil => rfl
  | append_singleton rows row ih =>
      rw [List.map_append, List.length_append, List.length_singleton, List.range'_1_concat]
        at versions
      obtain ⟨earlier, last⟩ := List.append_inj' versions rfl
      have version : row.version = 1 + rows.length := by simpa using last
      rw [List.argmax_concat, List.getLast?_concat, ih earlier]
      cases newest : rows.getLast? with
      | none => rfl
      | some other =>
          have member : other.version ∈ List.range' 1 rows.length := by
            rw [← earlier]
            exact List.mem_map_of_mem (List.mem_of_getLast? newest)
          have less : other.version < row.version := by
            rw [List.mem_range'_1] at member
            omega
          simp [less]

/-- The current version is the last one. -/
theorem Versioned.selectCurrent_eq (versioned : Versioned world bots tables) (botId : String) :
    tables.selectBotConfigCurrent botId = (tables.configsOf botId).getLast? :=
  argmax_version (versioned.versions botId)

/-! ## Statements -/

variable (world) in
/-- The configuration of a request is accepted, and is of the bot it is for. -/
def Accepted (call : AdminCall ConfigApply) : Prop :=
  ∃ parsed, world.loadBotConfigFromString call.request.yamlText = some parsed ∧
    parsed.botId = call.request.botId

variable (world) in
/-- What a statement does: before it, the phase; after it, the tables and the phase. -/
inductive ConfigMove (tables : ConfigTables) (call : AdminCall ConfigApply) :
    ConfigPhase → ConfigTables → ConfigPhase → Prop
  | rejects (answer : ConfigAnswer) (rejected : ∀ row, answer ≠ .applied row) :
      ConfigMove tables call .arrived tables (.answered answer)
  | reads (accepted : Accepted world call) :
      ConfigMove tables call .arrived tables
        (.current (tables.selectBotConfigCurrent call.request.botId))
  | counts (before : Option BotConfigRow) :
      ConfigMove tables call (.current before) tables
        (.counted before (tables.selectMaxBotConfigVersion call.request.botId))
  /-- The version is committed, or the bot is not there. -/
  | refuses (before : Option BotConfigRow) (maxVersion : ℕ) (phase : ConfigPhase)
      (closed : phase = .answered .race ∨ phase = .failed) :
      ConfigMove tables call (.counted before maxVersion)
        { tables with configSequence := tables.configSequence + 1 } phase
  | inserts (before : Option BotConfigRow) (maxVersion : ℕ)
      (free : tables.hasVersion call.request.botId (maxVersion + 1) = false)
      (known : (tables.bots call.request.botId).isSome = true) :
      ConfigMove tables call (.counted before maxVersion)
        { tables with configSequence := tables.configSequence + 1 }
        (.inserted before (world.configRow call tables.configSequence (maxVersion + 1)))
  | marks (before : Option BotConfigRow) (row : BotConfigRow)
      (known : (tables.bots call.request.botId).isSome = true) :
      ConfigMove tables call (.inserted before row) tables (.updated before row)
  | orphaned (before : Option BotConfigRow) (row : BotConfigRow)
      (unknown : (tables.bots call.request.botId).isSome = false) :
      ConfigMove tables call (.inserted before row) tables .failed
  | logs (before : Option BotConfigRow) (row : BotConfigRow) :
      ConfigMove tables call (.updated before row)
        { tables with auditSequence := tables.auditSequence + 1 }
        (.logged (world.configEvent call tables.auditSequence before row) row)
  | commits (event : AuditEvent) (row : BotConfigRow) :
      ConfigMove tables call (.logged event row) (tables.commitVersion row event)
        (.answered (.applied row))
  | answered (answer : ConfigAnswer) :
      ConfigMove tables call (.answered answer) tables (.answered answer)
  | failed : ConfigMove tables call .failed tables .failed

variable (world) in
/-- Every statement does one of these. -/
theorem applyNext_moves (tables : ConfigTables) (call : AdminCall ConfigApply)
    (phase : ConfigPhase) :
    ∃ tables' phase', world.program.next tables ⟨call, phase⟩ = (tables', ⟨call, phase'⟩) ∧
      ConfigMove world tables call phase tables' phase' := by
  cases phase with
  | arrived =>
      cases loaded : world.loadBotConfigFromString call.request.yamlText with
      | none =>
          refine ⟨tables, .answered .unprocessable, ?_, .rejects _ (by simp)⟩
          simp [ConfigWorld.program, ConfigWorld.applyNext, loaded]
      | some parsed =>
          by_cases named : parsed.botId = call.request.botId
          · refine ⟨tables, .current (tables.selectBotConfigCurrent call.request.botId), ?_,
              .reads ⟨parsed, loaded, named⟩⟩
            simp [ConfigWorld.program, ConfigWorld.applyNext, loaded, named]
          · refine ⟨tables, .answered .mismatch, ?_, .rejects _ (by simp)⟩
            simp [ConfigWorld.program, ConfigWorld.applyNext, loaded, named]
  | current before => exact ⟨_, _, rfl, .counts before⟩
  | counted before maxVersion =>
      refine ⟨_, _, rfl, ?_⟩
      unfold ConfigWorld.insertBotConfig
      split_ifs with taken unknown
      · exact .refuses before maxVersion _ (.inl rfl)
      · exact .refuses before maxVersion _ (.inr rfl)
      · exact .inserts before maxVersion (by simpa using taken)
          (by simpa [Option.isSome_iff_ne_none] using unknown)
  | inserted before row =>
      by_cases known : (tables.bots call.request.botId).isSome = true
      · refine ⟨tables, .updated before row, ?_, .marks before row known⟩
        simp [ConfigWorld.program, ConfigWorld.applyNext, known]
      · refine ⟨tables, .failed, ?_, .orphaned before row (by simpa using known)⟩
        simp [ConfigWorld.program, ConfigWorld.applyNext, known]
  | updated before row => exact ⟨_, _, rfl, .logs before row⟩
  | logged event row => exact ⟨_, _, rfl, .commits event row⟩
  | answered answer => exact ⟨_, _, rfl, .answered answer⟩
  | failed => exact ⟨_, _, rfl, .failed⟩

theorem config_disciplined : world.program.Disciplined where
  acquires := by
    rintro tables ⟨call, phase⟩ key held
    obtain ⟨tables', phase', same, move⟩ := applyNext_moves world tables call phase
    rw [same] at held
    cases move with
    | inserts before maxVersion free known => exact .inr held
    | marks before row known => exact .inl held
    | logs before row => exact .inl held
    | refuses before maxVersion phase closed =>
        rcases closed with rfl | rfl
        · cases held
        · cases held
    | rejects => cases held
    | reads => cases held
    | counts => cases held
    | orphaned => cases held
    | commits => cases held
    | answered => cases held
    | failed => cases held
  releases := by
    rintro ⟨call, phase⟩
    cases phase <;> rfl

/-! ## What a commit leaves -/

theorem configsOf_commit_own (row : BotConfigRow) (event : AuditEvent) :
    (tables.commitVersion row event).configsOf row.botId = tables.configsOf row.botId ++ [row] := by
  simp [ConfigTables.configsOf, ConfigTables.commitVersion, List.filter_append]

theorem configsOf_commit_other {row : BotConfigRow} (event : AuditEvent)
    (different : botId ≠ row.botId) :
    (tables.commitVersion row event).configsOf botId = tables.configsOf botId := by
  simp [ConfigTables.configsOf, ConfigTables.commitVersion, List.filter_append,
    different.symm]

theorem bots_commit_own (row : BotConfigRow) (event : AuditEvent) :
    (tables.commitVersion row event).bots row.botId = some ⟨row.configHash, row.appliedAt⟩ :=
  Function.update_self ..

theorem bots_commit_other {row : BotConfigRow} (event : AuditEvent)
    (different : botId ≠ row.botId) :
    (tables.commitVersion row event).bots botId = tables.bots botId :=
  Function.update_of_ne different ..

theorem configTrail_commit_own (call : AdminCall ConfigApply) (id version eventId : ℕ)
    (before : Option BotConfigRow) :
    configTrail (tables.commitVersion (world.configRow call id version)
        (world.configEvent call eventId before (world.configRow call id version)))
      call.request.botId = configTrail tables call.request.botId ++
        [world.configEvent call eventId before (world.configRow call id version)] :=
  auditTrail_concat_of ⟨rfl, rfl⟩

theorem configTrail_commit_other {call : AdminCall ConfigApply} {row : BotConfigRow}
    (different : botId ≠ call.request.botId) (eventId : ℕ) (before : Option BotConfigRow) :
    configTrail (tables.commitVersion row (world.configEvent call eventId before row)) botId =
      configTrail tables botId :=
  auditTrail_concat_of_not fun both => different both.2.symm

/-! ## What a request knows -/

/-- The version that a request takes for the one before its own. -/
def WasCurrent (tables : ConfigTables) (botId : String) (before : Option BotConfigRow) : Prop :=
  ∀ row ∈ before, row ∈ tables.configsOf botId

variable (world) in
/-- A transaction has inserted the next version of its bot. -/
structure OpenVersion (tables : ConfigTables) (call : AdminCall ConfigApply)
    (before : Option BotConfigRow) (row : BotConfigRow) : Prop where
  accepted : Accepted world call
  was : WasCurrent tables call.request.botId before
  next : ∃ id, row = world.configRow call id ((tables.configsOf call.request.botId).length + 1)
  known : (tables.bots call.request.botId).isSome = true

variable (world) in
/-- What a session has read was so when it read it. -/
inductive ConfigKnown (tables : ConfigTables) (call : AdminCall ConfigApply) : ConfigPhase → Prop
  | arrived : ConfigKnown tables call .arrived
  | current (before : Option BotConfigRow) (accepted : Accepted world call)
      (was : WasCurrent tables call.request.botId before) :
      ConfigKnown tables call (.current before)
  | counted (before : Option BotConfigRow) (maxVersion : ℕ) (accepted : Accepted world call)
      (was : WasCurrent tables call.request.botId before)
      (counted : maxVersion ≤ (tables.configsOf call.request.botId).length) :
      ConfigKnown tables call (.counted before maxVersion)
  | inserted (before : Option BotConfigRow) (row : BotConfigRow)
      (opened : OpenVersion world tables call before row) :
      ConfigKnown tables call (.inserted before row)
  | updated (before : Option BotConfigRow) (row : BotConfigRow)
      (opened : OpenVersion world tables call before row) :
      ConfigKnown tables call (.updated before row)
  | logged (before : Option BotConfigRow) (row : BotConfigRow)
      (opened : OpenVersion world tables call before row) (id : ℕ)
      (numbered : id < tables.auditSequence)
      (latest : ∀ event ∈ configTrail tables call.request.botId, event.id < id) :
      ConfigKnown tables call (.logged (world.configEvent call id before row) row)
  | answered (answer : ConfigAnswer)
      (stored : ∀ row, answer = .applied row → row ∈ tables.botConfigs) :
      ConfigKnown tables call (.answered answer)
  | failed : ConfigKnown tables call .failed

variable {call : AdminCall ConfigApply} {phase phase' : ConfigPhase}

/-- The state before, as the events have it. -/
theorem Versioned.was_mem (versioned : Versioned world bots tables)
    {before : Option BotConfigRow} (was : WasCurrent tables botId before) :
    before.map world.configState ∈ auditStates none (configTrail tables botId) := by
  rw [auditStates, versioned.audited]
  cases before with
  | none => exact List.mem_cons_self
  | some row => exact List.mem_cons_of_mem _ (List.mem_map_of_mem (was row rfl))

/-- The commit of the next version. -/
theorem Versioned.commit (versioned : Versioned world bots tables) {before : Option BotConfigRow}
    {row : BotConfigRow} (opened : OpenVersion world tables call before row) {id : ℕ}
    (numbered : id < tables.auditSequence)
    (latest : ∀ event ∈ configTrail tables call.request.botId, event.id < id) :
    Versioned world bots
      (tables.commitVersion row (world.configEvent call id before row)) := by
  obtain ⟨accepted, was, ⟨rowId, rfl⟩, known⟩ := opened
  set row := world.configRow call rowId ((tables.configsOf call.request.botId).length + 1) with isRow
  have own : row.botId = call.request.botId := rfl
  have split : ∀ botId, botId = row.botId ∨ botId ≠ call.request.botId :=
    fun botId => (em (botId = call.request.botId)).imp_left fun same => same.trans own.symm
  refine ⟨fun botId => ?_, fun botId => ?_, fun other member => ?_, fun botId => ?_,
    fun botId => ?_, fun event member => ?_⟩
  · rcases split botId with rfl | different
    · rw [configsOf_commit_own, List.map_append, versioned.versions, List.length_append,
        List.length_singleton, List.range'_1_concat, List.map_singleton, own, isRow,
        ConfigWorld.configRow, add_comm]
    · rw [configsOf_commit_other _ different]
      exact versioned.versions botId
  · rcases split botId with rfl | different
    · rw [configsOf_commit_own, markedBot, List.getLast?_concat]
      exact bots_commit_own row _
    · rw [configsOf_commit_other _ different, ← versioned.marked]
      exact bots_commit_other _ different
  · rcases List.mem_append.mp member with earlier | new
    · exact versioned.valid other earlier
    · rw [List.mem_singleton.mp new]
      exact ⟨accepted, rfl⟩
  · rcases split botId with rfl | different
    · rw [configsOf_commit_own, own, configTrail_commit_own, List.map_append, List.map_append,
        versioned.audited]
      rfl
    · rw [configsOf_commit_other _ different, configTrail_commit_other different]
      exact versioned.audited botId
  · rcases split botId with rfl | different
    · rw [own, configTrail_commit_own]
      exact (versioned.events _).concat ⟨versioned.was_mem was, latest⟩
    · rw [configTrail_commit_other different]
      exact versioned.events botId
  · rcases List.mem_append.mp member with earlier | new
    · exact versioned.below event earlier
    · rw [List.mem_singleton.mp new]
      exact numbered

theorem Versioned.of_move (versioned : Versioned world bots tables)
    (known : ConfigKnown world tables call phase)
    (move : ConfigMove world tables call phase tables' phase') :
    Versioned world bots tables' := by
  cases move with
  | logs before row =>
      exact ⟨versioned.versions, versioned.marked, versioned.valid, versioned.audited,
        versioned.events, fun event member =>
          (versioned.below event member).trans (Nat.lt_succ_self _)⟩
  | commits event row =>
      cases known with
      | logged before row opened id numbered latest =>
          exact versioned.commit opened numbered latest
  | refuses before maxVersion phase closed =>
      exact ⟨versioned.versions, versioned.marked, versioned.valid, versioned.audited,
        versioned.events, versioned.below⟩
  | inserts before maxVersion free known =>
      exact ⟨versioned.versions, versioned.marked, versioned.valid, versioned.audited,
        versioned.events, versioned.below⟩
  | _ => exact versioned

/-- A statement commits at most one version, and only of a bot whose next version is held. -/
theorem ConfigMove.commit_cases (move : ConfigMove world tables call phase tables' phase')
    (known : ConfigKnown world tables call phase) (botId : String) :
    (tables'.configsOf botId = tables.configsOf botId ∧
        configTrail tables' botId = configTrail tables botId ∧
        tables'.bots botId = tables.bots botId) ∨
      (botId = call.request.botId ∧
        ConfigSession.holds ⟨call, phase⟩ = some (botId, (tables.configsOf botId).length + 1) ∧
        (∃ row, tables'.configsOf botId = tables.configsOf botId ++ [row]) ∧
        (tables'.bots botId).isSome = true) := by
  cases move with
  | commits event row =>
      cases known with
      | logged before row opened id numbered latest =>
          obtain ⟨accepted, was, ⟨rowId, rfl⟩, marked⟩ := opened
          by_cases same : botId = call.request.botId
          · subst same
            exact .inr ⟨rfl, rfl, ⟨_, configsOf_commit_own _ _⟩,
              congrArg Option.isSome (bots_commit_own (world.configRow call rowId _) _)⟩
          · exact .inl ⟨configsOf_commit_other _ same, configTrail_commit_other same _ _,
              bots_commit_other _ same⟩
  | _ => exact .inl ⟨rfl, rfl, rfl⟩

theorem ConfigMove.sequence_le (move : ConfigMove world tables call phase tables' phase') :
    tables.auditSequence ≤ tables'.auditSequence := by
  cases move with
  | logs before row => exact Nat.le_succ _
  | _ => exact le_rfl

theorem ConfigMove.botConfigs_subset (move : ConfigMove world tables call phase tables' phase') :
    tables.botConfigs ⊆ tables'.botConfigs := by
  cases move with
  | commits event row => exact List.subset_append_left ..
  | _ => exact List.Subset.refl _

/-- No version of a bot is lost. -/
theorem ConfigMove.configsOf_prefix (move : ConfigMove world tables call phase tables' phase')
    (known : ConfigKnown world tables call phase) (botId : String) :
    tables.configsOf botId <+: tables'.configsOf botId := by
  rcases move.commit_cases known botId with ⟨same, -⟩ | ⟨-, -, ⟨row, added⟩, -⟩
  · rw [same]
  · rw [added]
    exact List.prefix_append ..

/-- A free version above the count is the next one. -/
theorem Versioned.next_of_free (versioned : Versioned world bots tables) {maxVersion : ℕ}
    (counted : maxVersion ≤ (tables.configsOf botId).length)
    (free : tables.hasVersion botId (maxVersion + 1) = false) :
    maxVersion = (tables.configsOf botId).length := by
  by_contra differs
  have taken : tables.hasVersion botId (maxVersion + 1) = true :=
    versioned.hasVersion_iff.mpr ⟨by omega, by omega⟩
  rw [taken] at free
  cases free

/-- What a request knows after its own statement. -/
theorem ConfigKnown.of_own (known : ConfigKnown world tables call phase)
    (versioned : Versioned world bots tables)
    (move : ConfigMove world tables call phase tables' phase') :
    ConfigKnown world tables' call phase' := by
  cases move with
  | rejects answer rejected => exact .answered _ fun row same => absurd same (rejected row)
  | reads accepted =>
      refine .current _ accepted fun row found => ?_
      rw [versioned.selectCurrent_eq] at found
      exact List.mem_of_getLast? found
  | counts before =>
      cases known with
      | current before accepted was =>
          exact .counted _ _ accepted was (versioned.selectMax_eq _).le
  | refuses before maxVersion phase closed =>
      rcases closed with rfl | rfl
      · exact .answered _ fun row same => by cases same
      · exact .failed
  | inserts before maxVersion free marked =>
      cases known with
      | counted before maxVersion accepted was counted =>
          obtain rfl := versioned.next_of_free counted free
          exact .inserted _ _ ⟨accepted, was, ⟨_, rfl⟩, marked⟩
  | marks before row marked =>
      cases known with
      | inserted before row opened => exact .updated _ _ opened
  | orphaned before row unknown => exact .failed
  | logs before row =>
      cases known with
      | updated before row opened =>
          have still : OpenVersion world
              { tables with auditSequence := tables.auditSequence + 1 } call before row :=
            ⟨opened.accepted, opened.was, opened.next, opened.known⟩
          exact .logged _ _ still _ (Nat.lt_succ_self _) fun event member =>
            versioned.below event (List.mem_of_mem_filter member)
  | commits event row =>
      refine .answered _ fun other same => ?_
      obtain rfl := ConfigAnswer.applied.inj same
      exact List.mem_append_right _ List.mem_cons_self
  | answered answer => exact known
  | failed => exact .failed

/-- Another statement leaves an open version the next one of its bot. -/
theorem OpenVersion.of_other {other : AdminCall ConfigApply} {before : Option BotConfigRow}
    {row : BotConfigRow} (opened : OpenVersion world tables other before row)
    (known : ConfigKnown world tables call phase)
    (move : ConfigMove world tables call phase tables' phase')
    (apart : ConfigSession.holds ⟨call, phase⟩ ≠ some (other.request.botId, row.version)) :
    OpenVersion world tables' other before row ∧
      configTrail tables' other.request.botId = configTrail tables other.request.botId := by
  obtain ⟨accepted, was, ⟨id, rfl⟩, marked⟩ := opened
  rcases move.commit_cases known other.request.botId with ⟨same, trail, bots⟩ | ⟨-, held, -⟩
  · refine ⟨⟨accepted, ?_, ⟨id, ?_⟩, ?_⟩, trail⟩
    · rwa [WasCurrent, same]
    · rw [same]
    · rwa [bots]
  · exact absurd held apart

/-- What a request knows after the statement of another. -/
theorem ConfigKnown.of_other {other : AdminCall ConfigApply} {waiting : ConfigPhase}
    (knows : ConfigKnown world tables other waiting)
    (known : ConfigKnown world tables call phase)
    (move : ConfigMove world tables call phase tables' phase')
    (apart : Locking.Apart (ConfigSession.holds ⟨call, phase⟩)
      (ConfigSession.holds ⟨other, waiting⟩)) :
    ConfigKnown world tables' other waiting := by
  have grows := move.configsOf_prefix known other.request.botId
  cases knows with
  | arrived => exact .arrived
  | current before accepted was =>
      exact .current _ accepted fun row found => grows.subset (was row found)
  | counted before maxVersion accepted was counted =>
      exact .counted _ _ accepted (fun row found => grows.subset (was row found))
        (counted.trans grows.length_le)
  | inserted before row opened =>
      exact .inserted _ _ (opened.of_other known move fun held => apart _ held rfl).1
  | updated before row opened =>
      exact .updated _ _ (opened.of_other known move fun held => apart _ held rfl).1
  | logged before row opened id numbered latest =>
      have still := opened.of_other known move fun held => apart _ held rfl
      refine .logged _ _ still.1 id (numbered.trans_le move.sequence_le) ?_
      rwa [still.2]
  | answered answer stored =>
      exact .answered _ fun row same => move.botConfigs_subset (stored row same)
  | failed => exact .failed

theorem versioned_kept :
    world.program.Kept (Versioned world bots)
      (fun tables session => ConfigKnown world tables session.call session.phase) where
  own := by
    rintro tables ⟨call, phase⟩ versioned known
    obtain ⟨tables', phase', same, move⟩ := applyNext_moves world tables call phase
    rw [same]
    exact ⟨versioned.of_move known move, known.of_own versioned move⟩
  others := by
    rintro tables ⟨call, phase⟩ ⟨other, waiting⟩ - known knows apart -
    obtain ⟨tables', phase', same, move⟩ := applyNext_moves world tables call phase
    rw [same]
    exact knows.of_other known move apart
  failed := by
    rintro tables ⟨call, phase⟩ known
    cases phase with
    | answered answer => exact known
    | _ => exact .failed

end Statements

/-! ## Runs -/

section Runs

variable {γ : Type} {world : ConfigWorld γ} {ι : Type*} [Fintype ι] [DecidableEq ι]

/-- The requests, none of which has begun, and no version yet. -/
def applying {ι : Type*} (bots : String → Option BotRow) (calls : ι → AdminCall ConfigApply) :
    Sessions ι ConfigTables ConfigSession :=
  ⟨{ bots := bots }, fun i => ⟨calls i, .arrived⟩⟩

variable (world) in
theorem applying_consistent (bots : String → Option BotRow) (calls : ι → AdminCall ConfigApply)
    (events : List (SessionStep ι)) :
    world.program.Consistent (Versioned world bots)
      (fun tables session => ConfigKnown world tables session.call session.phase)
      (run world.program.step (applying bots calls) events) := by
  refine versioned_kept.run_kept config_disciplined ?_ events
  exact
    { exclusive := fun i j _ key held => by cases held
      data :=
        { versions := fun botId => rfl
          marked := fun botId => rfl
          valid := fun row member => absurd member List.not_mem_nil
          audited := fun botId => rfl
          events := fun botId => eachAfter_nil
          below := fun event member => absurd member List.not_mem_nil }
      seen := fun i => .arrived }

/-- Whatever the order of the statements of any number of requests, and whichever of them fail: the
versions of each bot are numbered without a gap in the order of their commits, are valid, and each
has its audit event; the bot is marked with the last; a version that a request is answered with is
stored; and no request that has inserted a version finds its bot gone. -/
theorem configs_versioned (world : ConfigWorld γ) (bots : String → Option BotRow)
    (calls : ι → AdminCall ConfigApply) (events : List (SessionStep ι)) :
    let after := run world.program.step (applying bots calls) events
    Versioned world bots after.shared ∧ ∀ i,
      (∀ row, (after.session i).phase = .answered (.applied row) →
        row ∈ after.shared.botConfigs) ∧
      ∀ before row, (after.session i).phase = .inserted before row →
        (after.shared.bots (after.session i).call.request.botId).isSome = true := by
  intro after
  have consistent := applying_consistent world bots calls events
  refine ⟨consistent.data, fun i => ⟨fun row answered => ?_, fun before row inserted => ?_⟩⟩
  · have known := consistent.seen i
    rw [show (run world.program.step (applying bots calls) events).session i = after.session i
      from rfl, answered] at known
    cases known with
    | answered answer stored => exact stored row rfl
  · have known := consistent.seen i
    rw [show (run world.program.step (applying bots calls) events).session i = after.session i
      from rfl, inserted] at known
    cases known with
    | inserted before row opened => exact opened.known

/-! ## The state before -/

variable (world) in
/-- A request that has read this version as the current one, and then this number of versions. -/
inductive HasRead (before : Option BotConfigRow) (maxVersion : ℕ) (tables : ConfigTables)
    (call : AdminCall ConfigApply) : ConfigPhase → Prop
  | counted : HasRead before maxVersion tables call (.counted before maxVersion)
  | inserted (row : BotConfigRow) (next : row.version = maxVersion + 1) :
      HasRead before maxVersion tables call (.inserted before row)
  | updated (row : BotConfigRow) (next : row.version = maxVersion + 1) :
      HasRead before maxVersion tables call (.updated before row)
  | logged (id : ℕ) (row : BotConfigRow) (next : row.version = maxVersion + 1) :
      HasRead before maxVersion tables call
        (.logged (world.configEvent call id before row) row)
  | applied (id : ℕ) (row : BotConfigRow) (next : row.version = maxVersion + 1)
      (recorded : world.configEvent call id before row ∈ tables.auditEvents) :
      HasRead before maxVersion tables call (.answered (.applied row))
  | refused (answer : ConfigAnswer) (rejected : ∀ row, answer ≠ .applied row) :
      HasRead before maxVersion tables call (.answered answer)
  | failed : HasRead before maxVersion tables call .failed

theorem HasRead.of_own {before : Option BotConfigRow} {maxVersion : ℕ}
    {tables tables' : ConfigTables} {call : AdminCall ConfigApply} {phase phase' : ConfigPhase}
    (read : HasRead world before maxVersion tables call phase)
    (move : ConfigMove world tables call phase tables' phase') :
    HasRead world before maxVersion tables' call phase' := by
  cases read with
  | counted =>
      cases move with
      | refuses before maxVersion phase closed =>
          rcases closed with rfl | rfl
          · exact .refused _ (by simp)
          · exact .failed
      | inserts before maxVersion free known => exact .inserted _ rfl
  | inserted row next =>
      cases move with
      | marks before row known => exact .updated row next
      | orphaned before row unknown => exact .failed
  | updated row next =>
      cases move with
      | logs before row => exact .logged _ row next
  | logged id row next =>
      cases move with
      | commits event row =>
          exact .applied id row next (List.mem_append_right _ List.mem_cons_self)
  | applied id row next recorded =>
      cases move with
      | answered answer => exact .applied id row next recorded
  | refused answer rejected =>
      cases move with
      | answered answer => exact .refused answer rejected
  | failed =>
      cases move with
      | failed => exact .failed

theorem HasRead.of_other {before : Option BotConfigRow} {maxVersion : ℕ}
    {tables tables' : ConfigTables} {call : AdminCall ConfigApply} {phase : ConfigPhase}
    (read : HasRead world before maxVersion tables call phase)
    (grows : tables.auditEvents ⊆ tables'.auditEvents) :
    HasRead world before maxVersion tables' call phase := by
  cases read with
  | applied id row next recorded => exact .applied id row next (grows recorded)
  | counted => exact .counted
  | inserted row next => exact .inserted row next
  | updated row next => exact .updated row next
  | logged id row next => exact .logged id row next
  | refused answer rejected => exact .refused answer rejected
  | failed => exact .failed

theorem ConfigMove.auditEvents_subset {tables tables' : ConfigTables}
    {call : AdminCall ConfigApply} {phase phase' : ConfigPhase}
    (move : ConfigMove world tables call phase tables' phase') :
    tables.auditEvents ⊆ tables'.auditEvents := by
  cases move with
  | commits event row => exact List.subset_append_left ..
  | _ => exact List.Subset.refl _

theorem hasRead_run {bots : String → Option BotRow} {s : Sessions ι ConfigTables ConfigSession}
    (consistent : world.program.Consistent (Versioned world bots)
      (fun tables session => ConfigKnown world tables session.call session.phase) s) {i : ι}
    {before : Option BotConfigRow} {maxVersion : ℕ}
    (read : HasRead world before maxVersion s.shared (s.session i).call (s.session i).phase)
    (events : List (SessionStep ι)) :
    HasRead world before maxVersion (run world.program.step s events).shared
      ((run world.program.step s events).session i).call
      ((run world.program.step s events).session i).phase := by
  refine versioned_kept.run_session config_disciplined (fun tables session =>
    HasRead world before maxVersion tables session.call session.phase) ?_ ?_ ?_ consistent read
    events
  · rintro tables ⟨call, phase⟩ - - read
    obtain ⟨tables', phase', same, move⟩ := applyNext_moves world tables call phase
    rw [same]
    exact read.of_own move
  · rintro tables ⟨call, phase⟩ other - - read
    obtain ⟨tables', phase', same, move⟩ := applyNext_moves world tables call phase
    rw [same]
    exact read.of_other move.auditEvents_subset
  · rintro tables ⟨call, phase⟩ read
    cases phase with
    | answered answer => exact read
    | _ => exact .failed

variable (world) in
/-- A statement that wants no version does not wait. -/
theorem step_of_wants_none {s : Sessions ι ConfigTables ConfigSession} {i : ι}
    {session session' : ConfigSession} {tables' : ConfigTables} (stands : s.session i = session)
    (wants : session.wants = none)
    (next : world.program.next s.shared session = (tables', session')) :
    (world.program.step (.advances i) s).shared = tables' ∧
      (world.program.step (.advances i) s).session i = session' := by
  have runs : ¬world.program.Waits s i := by
    rintro ⟨j, -, -, wanted⟩
    rw [stands, show world.program.wants session = none from wants] at wanted
    cases wanted
  rw [Locking.step_runs runs, Locking.advance, stands, next]
  exact ⟨rfl, Function.update_self ..⟩

/-- The first two statements of a request, with those of others between them: it has been rejected,
or has read the current version and then the highest number. -/
theorem hasRead_of_two (world : ConfigWorld γ) (bots : String → Option BotRow)
    (calls : ι → AdminCall ConfigApply) {i : ι} {first between : List (SessionStep ι)}
    (before : ∀ event ∈ first, event.of ≠ i)
    (others : ∀ event ∈ between, event.of ≠ i) :
    let start := run world.program.step (applying bots calls) first
    let later := run world.program.step (applying bots calls) (first ++ .advances i :: between)
    let counted := world.program.step (.advances i) later
    HasRead world (start.shared.selectBotConfigCurrent (calls i).request.botId)
      (later.shared.selectMaxBotConfigVersion (calls i).request.botId) counted.shared
      (counted.session i).call (counted.session i).phase := by
  intro start later counted
  have arrived : start.session i = ⟨calls i, .arrived⟩ := Locking.session_run_of_others before
  obtain ⟨tables', phase', same, move⟩ :=
    applyNext_moves world start.shared (calls i) .arrived
  have stands : later.session i = ⟨calls i, phase'⟩ := by
    have stays : later.session i = (world.program.step (.advances i) start).session i := by
      rw [show later = run world.program.step (world.program.step (.advances i) start) between by
        rw [← run_cons, ← run_append]]
      exact Locking.session_run_of_others others
    rw [stays, (step_of_wants_none world arrived rfl same).2]
  cases move with
  | rejects answer rejected =>
      obtain ⟨-, itself⟩ := step_of_wants_none world stands rfl rfl
      rw [show counted.session i = _ from itself]
      exact .refused answer rejected
  | reads accepted =>
      obtain ⟨-, itself⟩ := step_of_wants_none world stands rfl rfl
      rw [show counted.session i = _ from itself]
      exact .counted

/-- The versions of a bot that are committed. -/
def versionCount (s : Sessions ι ConfigTables ConfigSession) (botId : String) : ℕ :=
  (s.shared.configsOf botId).length

omit [Fintype ι] [DecidableEq ι] in
/-- The number of the current version is the number of versions. -/
theorem Versioned.current_version {bots : String → Option BotRow} {tables : ConfigTables}
    (versioned : Versioned world bots tables) (botId : String) :
    (tables.selectBotConfigCurrent botId).elim 0 BotConfigRow.version =
      (tables.configsOf botId).length := by
  have versions := versioned.versions botId
  rw [versioned.selectCurrent_eq]
  generalize tables.configsOf botId = rows at versions
  rcases List.eq_nil_or_concat rows with rfl | ⟨earlier, row, rfl⟩
  · rfl
  · rw [List.concat_eq_append, List.map_append, List.length_append, List.length_singleton,
      List.range'_1_concat] at versions
    have last := (List.append_inj' versions rfl).2
    rw [List.concat_eq_append, List.getLast?_concat, List.length_append, List.length_singleton]
    simpa [add_comm] using last

/-- A run only adds versions. -/
theorem versionCount_le {bots : String → Option BotRow} {calls : ι → AdminCall ConfigApply} (i : ι)
    (first later : List (SessionStep ι)) (botId : String) :
    versionCount (run world.program.step (applying bots calls) first) botId ≤
      versionCount (run world.program.step (applying bots calls) (first ++ later)) botId := by
  rw [run_append]
  have grows : ∀ (tables : ConfigTables) (session : ConfigSession),
      ConfigKnown world tables session.call session.phase →
        (tables.configsOf botId).length ≤
          ((world.program.next tables session).1.configsOf botId).length := by
    rintro tables ⟨call, phase⟩ known
    obtain ⟨tables', phase', same, move⟩ := applyNext_moves world tables call phase
    rw [same]
    exact (move.configsOf_prefix known botId).length_le
  exact versioned_kept.run_session (i := i) config_disciplined
    (fun tables _ => versionCount _ botId ≤ (tables.configsOf botId).length)
    (fun tables session _ known kept => kept.trans (grows tables session known))
    (fun tables session _ _ known kept => kept.trans (grows tables session known))
    (fun _ _ kept => kept) (applying_consistent world bots calls first) le_rfl later

/-- The event of a version gives as the state before it the earlier version, which is as far back as
this many committed ones. -/
def EventLags (world : ConfigWorld γ) (earlier : Option BotConfigRow) (tables : ConfigTables)
    (row : BotConfigRow) (lag : ℕ) : Prop :=
  (∃ event ∈ tables.auditEvents, event.afterState = some (world.configState row) ∧
    event.beforeState = earlier.map world.configState) ∧
  row.version = earlier.elim 0 BotConfigRow.version + lag + 1

/-- The audit event of a version gives as the state before it the version that was current when the
request made its first read: between it and the new version lie exactly those that were committed
between the two reads of the request. -/
theorem before_lags (world : ConfigWorld γ) (bots : String → Option BotRow)
    (calls : ι → AdminCall ConfigApply) (i : ι) (first between rest : List (SessionStep ι))
    (row : BotConfigRow) (before : ∀ event ∈ first, event.of ≠ i)
    (others : ∀ event ∈ between, event.of ≠ i) :
    let start := run world.program.step (applying bots calls) first
    let later := run world.program.step (applying bots calls) (first ++ .advances i :: between)
    let after := run world.program.step (world.program.step (.advances i) later) rest
    (after.session i).phase.answer = some (.applied row) →
      EventLags world (start.shared.selectBotConfigCurrent (calls i).request.botId) after.shared row
        (versionCount later (calls i).request.botId - versionCount start (calls i).request.botId) := by
  intro start later after applied
  have read := hasRead_of_two world bots calls before others
  have consistent := applying_consistent world bots calls
    (first ++ .advances i :: between ++ [.advances i])
  rw [run_concat] at consistent
  have finished : HasRead world (start.shared.selectBotConfigCurrent (calls i).request.botId)
      (later.shared.selectMaxBotConfigVersion (calls i).request.botId) after.shared
      (after.session i).call (after.session i).phase := hasRead_run consistent read rest
  have versioned := (applying_consistent world bots calls first).data
  have counted := (applying_consistent world bots calls
    (first ++ .advances i :: between)).data.selectMax_eq (calls i).request.botId
  generalize (after.session i).phase = phase at applied finished
  cases finished with
  | applied id row next recorded =>
      cases applied
      refine ⟨⟨_, recorded, rfl, rfl⟩, ?_⟩
      rw [next, show later.shared.selectMaxBotConfigVersion _ = _ from counted,
        versioned.current_version]
      exact congrArg Nat.succ (Nat.add_sub_cancel' (versionCount_le i first _ _)).symm
  | refused answer rejected =>
      obtain rfl := Option.some.inj applied
      exact absurd rfl (rejected row)
  | counted => cases applied
  | inserted => cases applied
  | updated => cases applied
  | logged => cases applied
  | failed => cases applied

end Runs

/-! ## A race -/

/-- A world with one configuration. -/
def oneConfig : ConfigWorld ℚ where
  safeLoad text := if text = "alpha" then some (.map (paperBot [gtRule] [])) else none
  pydantic := plainPydantic
  parser := gtParser
  sha256 text := "sha256 of " ++ text
  str moment := toString moment

def applyAlpha (appliedBy : String) (now : ℤ) : AdminCall ConfigApply where
  request := { botId := "alpha", yamlText := "alpha", appliedBy := appliedBy }
  now := now

def alphaBots : String → Option BotRow := fun botId =>
  if botId = "alpha" then some ⟨"", 0⟩ else none

def racing (request : Fin 2) : AdminCall ConfigApply :=
  if request = 0 then applyAlpha "first" 1 else applyAlpha "second" 2

set_option maxRecDepth 4096 in
/-- One request reads that there is no version yet, another applies the first, and the one then
applies the second: its event says that there was none before. -/
theorem race_lags :
    let later := run oneConfig.program.step (applying alphaBots racing)
      ([] ++ .advances 0 :: List.replicate 6 (.advances 1))
    let after := run oneConfig.program.step (oneConfig.program.step (.advances 0) later)
      (List.replicate 4 (.advances 0))
    EventLags oneConfig none after.shared (oneConfig.configRow (applyAlpha "first" 1) 1 2)
      (versionCount later (racing 0).request.botId -
        versionCount (applying alphaBots racing) (racing 0).request.botId) :=
  before_lags oneConfig alphaBots racing 0 [] (List.replicate 6 (.advances 1))
    (List.replicate 4 (.advances 0)) (oneConfig.configRow (applyAlpha "first" 1) 1 2)
    (by decide) (by decide) (by decide +kernel)

end Scalper.Admin
