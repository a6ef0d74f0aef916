import Scalper.Alerting.Config
import Scalper.Lib.Marks
import Scalper.Lib.Run
import Scalper.Lib.Window

/-!
# The alert handler

`services/alerting/app/consumer.py`, `dedup.py` and `telegram.py`: a message is matched with a rule,
passes its threshold, is looked up among the alerts of the last window and marked, and is then
rendered and sent, a critical one with retries.  Messages are handled one after the other, and what
an error leaves unsent stays marked.

An alert is tried exactly if the same alert was not tried within the window before it
(`alerts_tried`).  So no alert goes unnoticed, in the sense that it was delivered or the same one
was within the window before, exactly if every alert that is tried is also delivered
(`alerts_noticed_iff`): a delivery that fails silences the alert for the window.

The rendering, the digest, the JSON encoder and `float` are parameters.
-/

set_option autoImplicit false

namespace Scalper.Alerting

open Scalper.Lib

/-- The fields of a payload. -/
abbrev Payload := List (String × Json)

/-- What one POST comes to. -/
inductive Post where
  | ok
  | httpError
  /-- An error that the client does not catch. -/
  | raises
  deriving DecidableEq, Repr

/-- A message on `system.alerts`, with what the clock says when it is looked up and marked, and what
its rendering and the attempts to send it come to. -/
structure Message where
  payload : Payload
  askedAt : ℚ
  markedAt : ℚ
  renders : Bool
  posts : ℕ → Post

/-- The library functions that the handler uses. -/
structure AlertWorld where
  dumps : Payload → String
  sha256 : String → String
  /-- `float(value) >= min`; false where `float` raises. -/
  atLeast : Json → ℚ → Bool

/-! ## The sending -/

/-- How `send_alert` ends. -/
inductive SendResult where
  | delivered (attempts : ℕ)
  | dropped (attempts : ℕ)
  | raised (attempts : ℕ)
  | unknownChannel
  deriving DecidableEq, Repr

/-- The loop over the attempts, with so many left after this one. -/
def sendAttempts (posts : ℕ → Post) (attempt : ℕ) : ℕ → SendResult
  | 0 =>
      match posts attempt with
      | .ok => .delivered attempt
      | .httpError => .dropped attempt
      | .raises => .raised attempt
  | left + 1 =>
      match posts attempt with
      | .ok => .delivered attempt
      | .httpError => sendAttempts posts (attempt + 1) left
      | .raises => .raised attempt

/-- The retries of an alert. -/
def retriesOf (maxRetries : ℕ) (severity : Severity) : ℕ :=
  if severity = .critical then maxRetries else 0

/-- `TelegramClient.send`. -/
def send (maxRetries : ℕ) (chatIds : List (String × String)) (rule : RuleConfig)
    (posts : ℕ → Post) : SendResult :=
  match chatIds.lookup rule.channel with
  | none => .unknownChannel
  | some _ => sendAttempts posts 1 (retriesOf maxRetries rule.severity)

/-! ## The handler -/

/-- How an event ends. -/
inductive AlertOutcome where
  | missingEvent
  | noRule
  | belowThreshold
  | deduped
  | renderFailed
  | sent (result : SendResult)
  deriving DecidableEq, Repr

/-- The alert was marked, and its sending begun. -/
def AlertOutcome.tried : AlertOutcome → Bool
  | .renderFailed | .sent _ => true
  | _ => false

def AlertOutcome.delivered : AlertOutcome → Bool
  | .sent (.delivered _) => true
  | _ => false

section Handler

variable (world : AlertWorld) (maxRetries : ℕ) (config : AlertsConfig)

/-- `_passes_threshold`. -/
def passesThreshold (payload : Payload) (threshold : AlertThreshold) : Bool :=
  match payload.lookup threshold.field with
  | none => false
  | some .null => false
  | some value => world.atLeast value threshold.min

/-- The name of the event, where there is one. -/
def eventName (payload : Payload) : Option String :=
  match payload.lookup "event" with
  | some (.string name) => if name = "" then none else some name
  | _ => none

/-- `_compute_dedup_key`. -/
def computeDedupKey (rule : RuleConfig) (payload : Payload) : String :=
  world.sha256 (rule.event ++ ":" ++ world.dumps payload)

/-- The rule by which a payload is an alert. -/
def ruleOf (payload : Payload) : Except AlertOutcome RuleConfig :=
  match eventName payload with
  | none => .error .missingEvent
  | some name =>
      match config.findRule name with
      | none => .error .noRule
      | some rule =>
          if (rule.threshold.map (passesThreshold world payload)).getD true then .ok rule
          else .error .belowThreshold

/-- The key of a payload that is an alert. -/
def alertKey (payload : Payload) : Option String :=
  (ruleOf world config payload).toOption.map fun rule => computeDedupKey world rule payload

/-- The handler: what it does with a message, and the marks it leaves. -/
def handle (message : Message) (marks : Marks String) : AlertOutcome × Marks String :=
  match ruleOf world config message.payload with
  | .error outcome => (outcome, marks)
  | .ok rule =>
      let key := computeDedupKey world rule message.payload
      let marks := marks.expire (message.askedAt - config.dedupWindowSeconds)
      if (marks key).isSome then (.deduped, marks)
      else
        (if message.renders then .sent (send maxRetries config.channelChatIds rule message.posts)
          else .renderFailed, marks.mark key message.markedAt)

/-- The service: its marks, the time of the last reading of the clock, and what it has done. -/
structure AlertService where
  marks : Marks String := fun _ => none
  clock : ℚ
  log : List (Message × AlertOutcome) := []

def alertStep (message : Message) (s : AlertService) : AlertService where
  marks := (handle world maxRetries config message s.marks).2
  clock := message.markedAt
  log := s.log ++ [(message, (handle world maxRetries config message s.marks).1)]

/-- The clock does not go back. -/
def Ticking (s : AlertService) (message : Message) : Prop :=
  s.clock ≤ message.askedAt ∧ message.askedAt ≤ message.markedAt

/-- The two messages are one alert. -/
def SameAlert (first second : Message) : Prop :=
  alertKey world config first.payload = alertKey world config second.payload

/-- A message comes within the window after another. -/
def Within (first second : Message) : Prop :=
  second.askedAt ≤ first.markedAt + config.dedupWindowSeconds

/-! ## Which alerts are tried -/

/-- An alert is tried exactly if the same alert was not tried within the window before. -/
def TriedInTurn (before : List (Message × AlertOutcome)) (entry : Message × AlertOutcome) : Prop :=
  entry.2.tried = true ↔ (alertKey world config entry.1.payload).isSome = true ∧
    ∀ earlier ∈ before, earlier.2.tried = true → SameAlert world config earlier.1 entry.1 →
      ¬Within config earlier.1 entry.1

/-- The marks that a log has left. -/
def markedBy (log : List (Message × AlertOutcome)) : List (String × ℚ) :=
  log.filterMap fun entry =>
    if entry.2.tried then
      (alertKey world config entry.1.payload).map fun key => (key, entry.1.markedAt)
    else none

/-- The marks remember, and alerts are tried in turn. -/
structure AlertsKept (s : AlertService) : Prop where
  remembers : Remembers config.dedupWindowSeconds s.marks (markedBy world config s.log) s.clock
  inTurn : EachAfter (TriedInTurn world config) s.log

variable {world maxRetries config}

theorem alertKey_of_ok {payload : Payload} {rule : RuleConfig}
    (found : ruleOf world config payload = .ok rule) :
    alertKey world config payload = some (computeDedupKey world rule payload) := by
  rw [alertKey, found]
  rfl

theorem alertKey_of_error {payload : Payload} {outcome : AlertOutcome}
    (refused : ruleOf world config payload = .error outcome) :
    alertKey world config payload = none := by
  rw [alertKey, refused]
  rfl

theorem tried_of_error {payload : Payload} {outcome : AlertOutcome}
    (refused : ruleOf world config payload = .error outcome) : outcome.tried = false := by
  unfold ruleOf at refused
  split at refused
  · rw [← Except.error.inj refused]
    rfl
  · split at refused
    · rw [← Except.error.inj refused]
      rfl
    · split_ifs at refused
      rw [← Except.error.inj refused]
      rfl

theorem markedBy_concat (log : List (Message × AlertOutcome)) (message : Message)
    (outcome : AlertOutcome) : markedBy world config (log ++ [(message, outcome)]) =
      markedBy world config log ++ (if outcome.tried then
        ((alertKey world config message.payload).map fun key => (key, message.markedAt)).toList
        else []) := by
  rw [markedBy, List.filterMap_append, ← markedBy]
  congr 1
  split_ifs with tried
  · cases keyed : alertKey world config message.payload <;> simp [tried, keyed]
  · simp [tried]

/-- The marks of an alert within the window are the trials of the same alert within it. -/
theorem marked_iff {log : List (Message × AlertOutcome)} {message : Message} {key : String}
    (keyed : alertKey world config message.payload = some key) :
    (∃ entry ∈ markedBy world config log, entry.1 = key ∧
        message.askedAt - config.dedupWindowSeconds ≤ entry.2) ↔
      ∃ earlier ∈ log, earlier.2.tried = true ∧ SameAlert world config earlier.1 message ∧
        Within config earlier.1 message := by
  constructor
  · rintro ⟨⟨_, time⟩, member, rfl, recent⟩
    obtain ⟨earlier, listed, marked⟩ := List.mem_filterMap.mp member
    split_ifs at marked with tried
    obtain ⟨other, keyed', same⟩ := Option.map_eq_some_iff.mp marked
    obtain ⟨rfl, rfl⟩ := Prod.mk.inj same
    refine ⟨earlier, listed, tried, keyed'.trans keyed.symm, ?_⟩
    rw [Within]
    linarith
  · rintro ⟨earlier, listed, tried, same, within⟩
    refine ⟨(key, earlier.1.markedAt), List.mem_filterMap.mpr ⟨earlier, listed, ?_⟩, rfl, ?_⟩
    · rw [if_pos tried, show alertKey world config earlier.1.payload = some key from
        same.trans keyed]
      rfl
    · rw [Within] at within
      linarith

theorem AlertsKept.step {s : AlertService} (kept : AlertsKept world config s) {message : Message}
    (ticking : Ticking s message) :
    AlertsKept world config (alertStep world maxRetries config message s) := by
  obtain ⟨later, onward⟩ := ticking
  cases found : ruleOf world config message.payload with
  | error outcome =>
      have handled : handle world maxRetries config message s.marks = (outcome, s.marks) := by
        rw [handle, found]
      have untried := tried_of_error found
      have keyless := alertKey_of_error found
      constructor
      · simp only [alertStep, handled, markedBy_concat, untried, Bool.false_eq_true, if_false,
          List.append_nil]
        have past := kept.remembers
        exact
          { past := fun entry member => (past.past entry member).trans (later.trans onward)
            holds := fun key now further =>
              past.holds key now ((later.trans onward).trans further) }
      · simp only [alertStep, handled]
        refine kept.inTurn.concat ?_
        rw [TriedInTurn, untried, keyless]
        simp
  | ok rule =>
      have keyed := alertKey_of_ok found
      set key := computeDedupKey world rule message.payload with named
      have expired := kept.remembers.expire later
      have known : ((s.marks.expire (message.askedAt - config.dedupWindowSeconds)) key).isSome =
          true ↔ _ := (kept.remembers.isSome_iff later).trans (marked_iff keyed)
      by_cases duplicate :
          ((s.marks.expire (message.askedAt - config.dedupWindowSeconds)) key).isSome = true
      · have handled : handle world maxRetries config message s.marks =
            (.deduped, s.marks.expire (message.askedAt - config.dedupWindowSeconds)) := by
          simp only [handle, found, ← named, duplicate, if_true]
        constructor
        · simp only [alertStep, handled, markedBy_concat, AlertOutcome.tried, Bool.false_eq_true,
            if_false, List.append_nil]
          exact
            { past := fun entry member => (expired.past entry member).trans onward
              holds := fun key now further => expired.holds key now (onward.trans further) }
        · simp only [alertStep, handled]
          refine kept.inTurn.concat (iff_of_false (by simp [AlertOutcome.tried]) ?_)
          rintro ⟨-, fresh⟩
          obtain ⟨earlier, listed, tried, same, within⟩ := known.mp duplicate
          exact fresh earlier listed tried same within
      · have fresh := mt known.mpr duplicate
        obtain ⟨outcome, tried, handled⟩ : ∃ outcome : AlertOutcome, outcome.tried = true ∧
            handle world maxRetries config message s.marks = (outcome,
              (s.marks.expire (message.askedAt - config.dedupWindowSeconds)).mark key
                message.markedAt) := by
          refine ⟨if message.renders then
              .sent (send maxRetries config.channelChatIds rule message.posts)
            else .renderFailed, ?_, ?_⟩
          · split_ifs <;> rfl
          · simp only [handle, found, ← named]
            rw [if_neg duplicate]
        constructor
        · simp only [alertStep, handled, markedBy_concat, tried, if_true, keyed]
          exact expired.mark onward
        · simp only [alertStep, handled]
          refine kept.inTurn.concat (iff_of_true tried ⟨by rw [keyed]; rfl, ?_⟩)
          exact fun earlier listed tried' same within => fresh ⟨earlier, listed, tried', same, within⟩

theorem alertsKept_run {clock : ℚ} {messages : List Message}
    (ticking : RunGuarded Ticking (alertStep world maxRetries config) { clock := clock } messages) :
    AlertsKept world config (run (alertStep world maxRetries config) { clock := clock } messages) :=
  run_invariant (AlertsKept world config) (fun _ _ kept met => kept.step met)
    ⟨Remembers.start _ clock, eachAfter_nil⟩ ticking

/-- **Which alerts are tried.**  As long as the clock does not go back, a message is rendered and
sent exactly if it is an alert and the same alert was not tried within the window before it, whatever
became of the alerts that were. -/
theorem alerts_tried (world : AlertWorld) (maxRetries : ℕ) (config : AlertsConfig) (clock : ℚ)
    (messages : List Message)
    (ticking : RunGuarded Ticking (alertStep world maxRetries config) { clock := clock } messages) :
    EachAfter (TriedInTurn world config)
      (run (alertStep world maxRetries config) { clock := clock } messages).log :=
  (alertsKept_run ticking).inTurn

/-! ## Which alerts are delivered -/

/-- One of the attempts succeeds, and those before it are tried again. -/
def Reaches (retries : ℕ) (posts : ℕ → Post) (attempt : ℕ) : Prop :=
  ∃ n ≤ retries, posts (attempt + n) = .ok ∧ ∀ m < n, posts (attempt + m) = .httpError

theorem sendAttempts_delivered_iff (posts : ℕ → Post) (left : ℕ) : ∀ attempt : ℕ,
    (AlertOutcome.sent (sendAttempts posts attempt left)).delivered = true ↔
      Reaches left posts attempt := by
  induction left with
  | zero =>
      intro attempt
      rw [sendAttempts]
      cases first : posts attempt with
      | ok =>
          refine iff_of_true rfl ⟨0, le_rfl, first, ?_⟩
          exact fun m none => absurd none (Nat.not_lt_zero m)
      | _ =>
          refine iff_of_false (by simp [AlertOutcome.delivered]) ?_
          rintro ⟨n, none, success, -⟩
          rw [Nat.le_zero.mp none, Nat.add_zero, first] at success
          cases success
  | succ left ih =>
      intro attempt
      rw [sendAttempts]
      cases first : posts attempt with
      | ok =>
          refine iff_of_true rfl ⟨0, Nat.zero_le _, first, ?_⟩
          exact fun m none => absurd none (Nat.not_lt_zero m)
      | raises =>
          refine iff_of_false (by simp [AlertOutcome.delivered]) ?_
          rintro ⟨n, -, success, before⟩
          cases n with
          | zero => rw [Nat.add_zero, first] at success; cases success
          | succ n =>
              have again := before 0 (Nat.succ_pos n)
              rw [Nat.add_zero, first] at again
              cases again
      | httpError =>
          have shift : ∀ n, attempt + (n + 1) = attempt + 1 + n := fun n => by omega
          rw [ih (attempt + 1)]
          constructor
          · rintro ⟨n, within, success, before⟩
            refine ⟨n + 1, Nat.succ_le_succ within, by rwa [shift], ?_⟩
            intro m less
            cases m with
            | zero => exact first
            | succ m =>
                rw [shift]
                exact before m (Nat.lt_of_succ_lt_succ less)
          · rintro ⟨n, within, success, before⟩
            cases n with
            | zero => rw [Nat.add_zero, first] at success; cases success
            | succ n =>
                refine ⟨n, Nat.le_of_succ_le_succ within, by rwa [← shift], ?_⟩
                intro m less
                rw [← shift]
                exact before (m + 1) (Nat.succ_lt_succ less)

variable (world maxRetries config) in
/-- What a message that is tried comes to. -/
def Carried (entry : Message × AlertOutcome) : Prop :=
  ∀ rule, ruleOf world config entry.1.payload = .ok rule → entry.2.tried = true →
    (entry.2.delivered = true ↔
      entry.1.renders = true ∧ Reaches (retriesOf maxRetries rule.severity) entry.1.posts 1)

theorem handle_carried (message : Message) (marks : Marks String) :
    Carried world maxRetries config
      (message, (handle world maxRetries config message marks).1) := by
  intro rule found tried
  simp only [handle, found] at tried ⊢
  split_ifs at tried ⊢ with duplicate renders
  · cases tried
  · obtain ⟨name, -, matched⟩ : ∃ name, True ∧ config.findRule name = some rule := by
      unfold ruleOf at found
      split at found
      · cases found
      · next name _ =>
          split at found
          · cases found
          · next other matched =>
              split_ifs at found
              exact ⟨name, trivial, by rw [matched, Except.ok.inj found]⟩
    obtain ⟨chat, known⟩ := Option.isSome_iff_exists.mp
      (config.known rule (AlertsConfig.findRule_mem matched).1)
    simp only [send, known, sendAttempts_delivered_iff, renders, true_and]
  · simp [AlertOutcome.delivered, renders]

variable (world maxRetries config) in
theorem carried_run (clock : ℚ) (messages : List Message) :
    ∀ entry ∈ (run (alertStep world maxRetries config) { clock := clock } messages).log,
      Carried world maxRetries config entry := by
  refine run_invariant_of_always
    (fun s : AlertService => ∀ entry ∈ s.log, Carried world maxRetries config entry)
    (fun s message kept entry member => ?_) messages (s := { clock := clock })
    fun entry member => absurd member List.not_mem_nil
  rcases List.mem_append.mp member with old | new
  · exact kept entry old
  · rw [List.mem_singleton.mp new]
    exact handle_carried message s.marks

variable (world config) in
/-- An alert was delivered, or the same one was within the window before it. -/
def Noticed (before : List (Message × AlertOutcome)) (entry : Message × AlertOutcome) : Prop :=
  (alertKey world config entry.1.payload).isSome = true → entry.2.delivered = true ∨
    ∃ earlier ∈ before, earlier.2.delivered = true ∧ SameAlert world config earlier.1 entry.1 ∧
      Within config earlier.1 entry.1

theorem tried_of_delivered {outcome : AlertOutcome} (delivered : outcome.delivered = true) :
    outcome.tried = true := by
  cases outcome with
  | sent result => rfl
  | _ => cases delivered

/-- **When no alert goes unnoticed.**  As long as the clock does not go back, every alert is
delivered, or the same one was within the window before it, exactly if each alert that is tried can
be rendered and one of its attempts succeeds, of which a critical one has its retries and the others
have one.  That a rule's channel has no chat never comes up. -/
theorem alerts_noticed_iff (world : AlertWorld) (maxRetries : ℕ) (config : AlertsConfig) (clock : ℚ)
    (messages : List Message)
    (ticking : RunGuarded Ticking (alertStep world maxRetries config) { clock := clock } messages) :
    EachAfter (Noticed world config)
        (run (alertStep world maxRetries config) { clock := clock } messages).log ↔
      ∀ entry ∈ (run (alertStep world maxRetries config) { clock := clock } messages).log,
        entry.2.tried = true → ∀ rule, ruleOf world config entry.1.payload = .ok rule →
          entry.1.renders = true ∧
            Reaches (retriesOf maxRetries rule.severity) entry.1.posts 1 := by
  have inTurn := alerts_tried world maxRetries config clock messages ticking
  have carried := carried_run world maxRetries config clock messages
  generalize (run (alertStep world maxRetries config) { clock := clock } messages).log = log
    at inTurn carried
  constructor
  · intro noticed entry member tried rule found
    obtain ⟨before, after, split⟩ := List.append_of_mem member
    have turn := (inTurn before entry after split).mp tried
    refine (carried entry member rule found tried).mp ?_
    refine (noticed before entry after split turn.1).resolve_right ?_
    rintro ⟨earlier, listed, delivered, same, within⟩
    exact turn.2 earlier listed (tried_of_delivered delivered) same within
  · intro reaches before entry after split keyed
    have listed : ∀ other ∈ before ++ [entry], other ∈ log := by
      intro other member
      rw [split, ← List.singleton_append, ← List.append_assoc]
      exact List.mem_append_left _ member
    have delivers : ∀ other ∈ before ++ [entry], other.2.tried = true →
        (alertKey world config other.1.payload).isSome = true → other.2.delivered = true := by
      intro other member tried known
      obtain ⟨key, found⟩ := Option.isSome_iff_exists.mp known
      cases ruled : ruleOf world config other.1.payload with
      | error outcome => rw [alertKey_of_error ruled] at found; cases found
      | ok rule =>
          exact (carried other (listed other member) rule ruled tried).mpr
            (reaches other (listed other member) tried rule ruled)
    by_cases tried : entry.2.tried = true
    · exact .inl (delivers entry (List.mem_append_right _ List.mem_cons_self) tried keyed)
    · refine .inr ?_
      have turn := mt (inTurn before entry after split).mpr tried
      push Not at turn
      obtain ⟨earlier, among, tried', same, within⟩ := turn keyed
      refine ⟨earlier, among, ?_, same, within⟩
      refine delivers earlier (List.mem_append_left _ among) tried' ?_
      rw [show alertKey world config earlier.1.payload = alertKey world config entry.1.payload
        from same]
      exact keyed

end Handler

/-! ## The catch-all rule -/

def catchAllRule : RuleConfig := ⟨"*", "system", .info, "alerts/templates/default.j2", none⟩

theorem catchAllRule_known :
    ∀ rule ∈ [catchAllRule], (List.lookup rule.channel [("system", "1")]).isSome = true := by
  decide

/-- The rule that the repository comes with, and its channel. -/
def catchAll : AlertsConfig where
  channels := [("system", ⟨"TELEGRAM_CHAT_SYSTEM"⟩)]
  dedupWindowSeconds := 300
  rules := [catchAllRule]
  channelChatIds := [("system", "1")]
  window_pos := Nat.succ_pos 299
  known := catchAllRule_known

def plainWorld : AlertWorld where
  dumps payload := (payload.map Prod.fst).toString
  sha256 text := text
  atLeast _ _ := false

/-- A bot that is started three times: at once, within the window and after it. -/
def startups : List Message :=
  [⟨[("event", .string "live_mode_engaged")], 0, 0, true, fun _ => .httpError⟩,
    ⟨[("event", .string "live_mode_engaged")], 100, 100, true, fun _ => .ok⟩,
    ⟨[("event", .string "live_mode_engaged")], 400, 400, true, fun _ => .ok⟩]

theorem startups_ticking :
    RunGuarded Ticking (alertStep plainWorld 3 catchAll) { clock := 0 } startups := by
  simp only [startups, RunGuarded, Ticking, alertStep]
  norm_num

theorem startups_tried :
    EachAfter (TriedInTurn plainWorld catchAll)
      (run (alertStep plainWorld 3 catchAll) { clock := 0 } startups).log :=
  alerts_tried plainWorld 3 catchAll 0 startups startups_ticking

theorem startups_noticed_iff :
    EachAfter (Noticed plainWorld catchAll)
        (run (alertStep plainWorld 3 catchAll) { clock := 0 } startups).log ↔
      ∀ entry ∈ (run (alertStep plainWorld 3 catchAll) { clock := 0 } startups).log,
        entry.2.tried = true → ∀ rule, ruleOf plainWorld catchAll entry.1.payload = .ok rule →
          entry.1.renders = true ∧ Reaches (retriesOf 3 rule.severity) entry.1.posts 1 :=
  alerts_noticed_iff plainWorld 3 catchAll 0 startups
    startups_ticking

end Scalper.Alerting
