import Mathlib.Data.Rat.Defs
import Mathlib.Data.List.Basic
import Scalper.Lib.Json

/-!
# The alert rules

`services/alerting/app/config.py`: what `load_alerts_config` makes of the models of the document,
and the rule of an event.  A configuration that was loaded carries that every channel of a rule has
its chat, so that the unknown channel of the Telegram client never comes up.

The parser of the document and the type checks of its models are left out.
-/

set_option autoImplicit false

namespace Scalper.Alerting

open Scalper.Lib

/-- `severity` of a rule. -/
inductive Severity where
  | info
  | warning
  | critical
  deriving DecidableEq, Repr

/-- `AlertThreshold`. -/
structure AlertThreshold where
  field : String
  min : ℚ
  deriving DecidableEq, Repr

/-- `RuleConfig`. -/
structure RuleConfig where
  event : String
  channel : String
  severity : Severity
  template : String
  threshold : Option AlertThreshold := none
  deriving DecidableEq, Repr

/-- `ChannelConfig`. -/
structure ChannelConfig where
  telegramChatIdEnv : String
  deriving DecidableEq, Repr

/-- The models of `alerts.yaml`. -/
structure AlertsDocument where
  channels : List (String × ChannelConfig)
  dedupWindowSeconds : ℕ
  rules : List RuleConfig

/-- The errors of the loader. -/
inductive AlertsError where
  | noChannels
  | dedupWindow
  | undefinedChannel (event channel : String)
  | chatIdUnset (channel env : String)
  deriving DecidableEq, Repr

/-- A configuration whose rules all have a chat to go to. -/
structure AlertsConfig where
  channels : List (String × ChannelConfig)
  dedupWindowSeconds : ℕ
  rules : List RuleConfig
  channelChatIds : List (String × String)
  window_pos : 1 ≤ dedupWindowSeconds
  known : ∀ rule ∈ rules, (channelChatIds.lookup rule.channel).isSome = true

/-- `os.environ.get(env, "")`, and the check that it is set. -/
def chatIdOf (environ : String → Option String) (channel : String × ChannelConfig) :
    Except AlertsError (String × String) :=
  let value := (environ channel.2.telegramChatIdEnv).getD ""
  if value = "" then .error (.chatIdUnset channel.1 channel.2.telegramChatIdEnv)
  else .ok (channel.1, value)

/-- The chats of the channels, up to the first that has none. -/
def resolveChatIds (environ : String → Option String) :
    List (String × ChannelConfig) → Except AlertsError (List (String × String))
  | [] => .ok []
  | channel :: channels =>
      match chatIdOf environ channel with
      | .error error => .error error
      | .ok resolved => (resolveChatIds environ channels).map (resolved :: ·)

/-- The channels that have a chat are those of the document. -/
theorem isSome_lookup_of_resolved {environ : String → Option String}
    {channels : List (String × ChannelConfig)} {chats : List (String × String)}
    (resolved : resolveChatIds environ channels = .ok chats) (name : String) :
    (chats.lookup name).isSome = (channels.lookup name).isSome := by
  induction channels generalizing chats with
  | nil =>
      obtain rfl := Except.ok.inj resolved
      rfl
  | cons channel channels ih =>
      obtain ⟨known, config⟩ := channel
      rw [resolveChatIds] at resolved
      split at resolved
      · cases resolved
      · next chat found =>
          obtain ⟨rest, others, rfl⟩ : ∃ rest, resolveChatIds environ channels = .ok rest ∧
              chat :: rest = chats := by
            cases others : resolveChatIds environ channels with
            | error error => rw [others] at resolved; cases resolved
            | ok rest =>
                rw [others] at resolved
                exact ⟨rest, rfl, Except.ok.inj resolved⟩
          have same : chat.1 = known := by
            simp only [chatIdOf] at found
            split_ifs at found
            rw [← Except.ok.inj found]
          obtain ⟨chatName, value⟩ := chat
          obtain rfl : chatName = known := same
          by_cases here : name = chatName
          · subst here
            rw [List.lookup_cons_self, List.lookup_cons_self]
            rfl
          · have differs : (name == chatName) = false := beq_false_of_ne here
            rw [List.lookup_cons, List.lookup_cons, differs]
            exact ih others

theorem known_of_resolved {environ : String → Option String} {document : AlertsDocument}
    {chats : List (String × String)}
    (defined : (document.rules.find? fun rule =>
      (document.channels.lookup rule.channel).isNone) = none)
    (resolved : resolveChatIds environ document.channels = .ok chats) :
    ∀ rule ∈ document.rules, (chats.lookup rule.channel).isSome = true := by
  intro rule member
  rw [isSome_lookup_of_resolved resolved]
  simpa using List.find?_eq_none.mp defined rule member

/-- `load_alerts_config`. -/
def loadAlertsConfig (environ : String → Option String) (document : AlertsDocument) :
    Except AlertsError AlertsConfig :=
  if document.channels.isEmpty then .error .noChannels
  else if window : 1 ≤ document.dedupWindowSeconds ∧ document.dedupWindowSeconds ≤ 86400 then
    match undefined : document.rules.find? fun rule =>
        (document.channels.lookup rule.channel).isNone with
    | some rule => .error (.undefinedChannel rule.event rule.channel)
    | none =>
        match resolved : resolveChatIds environ document.channels with
        | .error error => .error error
        | .ok chats =>
            .ok
              { channels := document.channels
                dedupWindowSeconds := document.dedupWindowSeconds
                rules := document.rules
                channelChatIds := chats
                window_pos := window.1
                known := known_of_resolved undefined resolved }
  else .error .dedupWindow

/-- `find_rule`: the first rule of the event, or the first of all events. -/
def AlertsConfig.findRule (config : AlertsConfig) (eventName : String) : Option RuleConfig :=
  (config.rules.find? fun rule => rule.event = eventName).or
    (config.rules.find? fun rule => rule.event = "*")

theorem AlertsConfig.findRule_mem {config : AlertsConfig} {eventName : String} {rule : RuleConfig}
    (found : config.findRule eventName = some rule) :
    rule ∈ config.rules ∧ (rule.event = eventName ∨ rule.event = "*") := by
  rw [AlertsConfig.findRule, Option.or_eq_some_iff] at found
  rcases found with exact | ⟨-, wildcard⟩
  · exact ⟨List.mem_of_find?_eq_some exact, .inl (by simpa using List.find?_some exact)⟩
  · exact ⟨List.mem_of_find?_eq_some wildcard, .inr (by simpa using List.find?_some wildcard)⟩

end Scalper.Alerting
