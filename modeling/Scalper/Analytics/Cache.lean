import Mathlib.Data.List.Sort
import Mathlib.Data.Prod.Lex
import Mathlib.Data.String.Basic
import Scalper.Lib.Numeral
import Scalper.Lib.Rendering
import Scalper.Lib.Run

/-!
# The cache of the analytics

`services/analytics_api/app/analytics_cache.py` and the Monte Carlo endpoint that uses it.  A call
answers with a cached value that is fresh, or waits for the lock of its key, looks again, and
otherwise computes under the lock and stores.  The key is a digest of the request's parameters as
text.

The text says all of the parameters but one thing: a request for no bot and one for a bot that is
called None have the same text (`cacheKeyRaw_eq_iff`).  Where keys tell the requests of a run apart,
a cached value was computed for the parameters of whoever reads it (`Computes.step`).
-/

set_option autoImplicit false

namespace Scalper.Analytics

open Scalper.Lib

/-! ## Parameters as text -/

/-- `datetime`, with the offset from UTC in seconds if it has a time zone. -/
@[ext]
structure DateTime where
  year : ℕ
  month : ℕ
  day : ℕ
  hour : ℕ
  minute : ℕ
  second : ℕ
  microsecond : ℕ
  offset : Option ℤ
  date : (1 ≤ year ∧ year ≤ 9999) ∧ (1 ≤ month ∧ month ≤ 12) ∧ 1 ≤ day ∧ day ≤ 31
  time : hour < 24 ∧ minute < 60 ∧ second < 60 ∧ microsecond < 1000000
  zone : ∀ seconds ∈ offset, seconds.natAbs < 86400
  deriving DecidableEq

/-- The microseconds, if there are any. -/
def fractionText (microsecond : ℕ) : List Char :=
  if microsecond = 0 then [] else '.' :: padded 6 microsecond

/-- The offset, with its seconds if there are any. -/
def offsetText : Option ℤ → List Char
  | none => []
  | some offset =>
      let seconds := offset.natAbs
      (if offset < 0 then '-' else '+') :: (padded 2 (seconds / 3600) ++
        ':' :: (padded 2 (seconds / 60 % 60) ++
          if seconds % 60 = 0 then [] else ':' :: padded 2 (seconds % 60)))

/-- `str(datetime)`. -/
def DateTime.chars (d : DateTime) : List Char :=
  padded 4 d.year ++ '-' :: (padded 2 d.month ++ '-' :: (padded 2 d.day ++
    ' ' :: (padded 2 d.hour ++ ':' :: (padded 2 d.minute ++ ':' :: (padded 2 d.second ++
      (fractionText d.microsecond ++ offsetText d.offset))))))

/-- A value of a dictionary of parameters. -/
inductive ParamValue where
  | none
  | text (value : String)
  | moment (value : DateTime)
  | int (value : ℕ)

/-- `str(v)`. -/
def ParamValue.str : ParamValue → String
  | .none => "None"
  | .text value => value
  | .moment value => String.ofList value.chars
  | .int value => toString value

/-- What `cache_key` hashes. -/
def cacheKeyRaw (endpoint : String) (params : List (String × ParamValue)) : String :=
  let sortedPairs := (params.map fun (k, v) => (k, v.str)).insertionSort
    fun p q => toLex p ≤ toLex q
  endpoint ++ "|" ++ "|".intercalate (sortedPairs.map fun (k, v) => k ++ "=" ++ v)

def mcMaxSimulations : ℕ := 10000

/-- A request for a Monte Carlo simulation, as the router accepts it. -/
@[ext]
structure MonteCarloRequest where
  botId : Option String
  fromAt : Option DateTime
  toAt : Option DateTime
  nSimulations : ℕ
  accepted : 1 ≤ nSimulations ∧ nSimulations ≤ mcMaxSimulations
  deriving DecidableEq

/-- An optional parameter. -/
def optionalValue {α : Type} (value : α → ParamValue) : Option α → ParamValue
  | none => .none
  | some x => value x

/-- What `post_monte_carlo` has hashed. -/
def MonteCarloRequest.raw (p : MonteCarloRequest) : String :=
  cacheKeyRaw "monte-carlo"
    [("bot_id", optionalValue .text p.botId), ("from_at", optionalValue .moment p.fromAt),
      ("to_at", optionalValue .moment p.toAt), ("n_simulations", .int p.nSimulations)]

/-! ## The cache -/

/-- A value, with the request it was computed for. -/
structure Computed (α ρ : Type) where
  request : α
  result : ρ
  deriving DecidableEq

/-- How far a call of `get_or_compute` is. -/
inductive CachePhase (α ρ : Type) where
  | waiting (request : α)
  | computing (request : α) (nowTs : ℚ)
  | answered (request : α) (response : Computed α ρ)
  | raised (request : α)
  deriving DecidableEq

/-- `AnalyticsCache`, with the calls: the values and when they expire, and who holds the lock of a
key. -/
structure AnalyticsCache (κ α ρ : Type) where
  values : κ → Option (ℚ × Computed α ρ) := fun _ => none
  locks : κ → Option ℕ := fun _ => none
  calls : ℕ → Option (CachePhase α ρ) := fun _ => none

/-- A step of the calls on the cache. -/
inductive CacheStep (α ρ : Type) where
  /-- A call begins. -/
  | begins (call : ℕ) (request : α) (now : ℚ)
  /-- A call gets the lock of its key. -/
  | enters (call : ℕ) (now : ℚ)
  /-- What was computed comes back, or the computation raises. -/
  | finishes (call : ℕ) (outcome : Option ρ)

section Cache

variable {κ α ρ : Type} [DecidableEq κ]

/-- The cached value, if it is fresh. -/
def AnalyticsCache.fresh (cache : AnalyticsCache κ α ρ) (key : κ) (now : ℚ) :
    Option (Computed α ρ) :=
  (cache.values key).bind fun cached => if now < cached.1 then some cached.2 else none

def AnalyticsCache.moves (cache : AnalyticsCache κ α ρ) (call : ℕ) (phase : CachePhase α ρ) :
    AnalyticsCache κ α ρ :=
  { cache with calls := Function.update cache.calls call (some phase) }

/-- A step of `get_or_compute`. -/
def cacheStep (key : α → κ) (ttl : ℚ) :
    CacheStep α ρ → AnalyticsCache κ α ρ → AnalyticsCache κ α ρ
  | .begins call request now, cache =>
      match cache.calls call with
      | some _ => cache
      | none =>
          match cache.fresh (key request) now with
          | some value => cache.moves call (.answered request value)
          | none => cache.moves call (.waiting request)
  | .enters call now, cache =>
      match cache.calls call with
      | some (.waiting request) =>
          match cache.locks (key request) with
          | some _ => cache
          | none =>
              match cache.fresh (key request) now with
              | some value => cache.moves call (.answered request value)
              | none =>
                  { cache.moves call (.computing request now) with
                    locks := Function.update cache.locks (key request) (some call) }
      | some (.computing _ _) | some (.answered _ _) | some (.raised _) | none => cache
  | .finishes call outcome, cache =>
      match cache.calls call with
      | some (.computing request nowTs) =>
          match outcome with
          | some result =>
              { cache.moves call (.answered request ⟨request, result⟩) with
                values := Function.update cache.values (key request)
                  (some (nowTs + ttl, ⟨request, result⟩))
                locks := Function.update cache.locks (key request) none }
          | none =>
              { cache.moves call (.raised request) with
                locks := Function.update cache.locks (key request) none }
      | some (.waiting _) | some (.answered _ _) | some (.raised _) | none => cache

/-- The requests of a run. -/
def requests (steps : List (CacheStep α ρ)) : List α :=
  steps.filterMap fun
    | .begins _ request _ => some request
    | .enters _ _ | .finishes _ _ => none

end Cache

/-! ## Times as text -/

section Times

variable {offset offset' : Option ℤ} {microsecond microsecond' : ℕ}

theorem offsetText_ne_dot {rest : List Char} : offsetText offset ≠ '.' :: rest := by
  intro same
  cases offset with
  | none => cases same
  | some offset =>
      have sign := (List.cons.inj same).1
      split_ifs at sign <;> exact absurd sign (by decide)

theorem offsetText_inj (within : ∀ seconds ∈ offset, seconds.natAbs < 86400)
    (within' : ∀ seconds ∈ offset', seconds.natAbs < 86400)
    (same : offsetText offset = offsetText offset') : offset = offset' := by
  cases offset with
  | none =>
      cases offset' with
      | none => rfl
      | some offset' => cases same
  | some offset =>
      cases offset' with
      | none => cases same
      | some offset' =>
          have small := within offset rfl
          have small' := within' offset' rfl
          obtain ⟨sign, rest⟩ := List.cons.inj same
          obtain ⟨hours, rest⟩ := padded_append_inj (by omega) (by omega) rest
          obtain ⟨minutes, rest⟩ := padded_append_inj (by omega) (by omega) (List.cons.inj rest).2
          have seconds : offset.natAbs % 60 = offset'.natAbs % 60 := by
            split_ifs at rest with whole whole' whole'
            · rw [whole, whole']
            · exact padded_inj (by omega) (by omega) (List.cons.inj rest).2
          have negative : offset < 0 ↔ offset' < 0 := by
            split_ifs at sign with less less' less'
            · exact iff_of_true less less'
            · exact absurd sign (by decide)
            · exact absurd sign (by decide)
            · exact iff_of_false less less'
          congr 1
          omega

theorem fractionText_append_inj (below : microsecond < 1000000) (below' : microsecond' < 1000000)
    (same : fractionText microsecond ++ offsetText offset =
      fractionText microsecond' ++ offsetText offset') :
    microsecond = microsecond' ∧ offsetText offset = offsetText offset' := by
  rw [fractionText, fractionText] at same
  split_ifs at same with whole whole' whole'
  · exact ⟨whole.trans whole'.symm, same⟩
  · exact absurd same offsetText_ne_dot
  · exact absurd same.symm offsetText_ne_dot
  · exact padded_append_inj below below' (List.cons.inj same).2

/-- The text of a time is that of no other. -/
theorem DateTime.chars_inj {d d' : DateTime} (same : d.chars = d'.chars) : d = d' := by
  obtain ⟨⟨⟨_, year⟩, ⟨_, month⟩, _, day⟩, hour, minute, second, micro⟩ := And.intro d.date d.time
  obtain ⟨⟨⟨_, year'⟩, ⟨_, month'⟩, _, day'⟩, hour', minute', second', micro'⟩ :=
    And.intro d'.date d'.time
  obtain ⟨years, rest⟩ := padded_append_inj (by omega) (by omega) same
  obtain ⟨months, rest⟩ := padded_append_inj (by omega) (by omega) (List.cons.inj rest).2
  obtain ⟨days, rest⟩ := padded_append_inj (by omega) (by omega) (List.cons.inj rest).2
  obtain ⟨hours, rest⟩ := padded_append_inj (by omega) (by omega) (List.cons.inj rest).2
  obtain ⟨minutes, rest⟩ := padded_append_inj (by omega) (by omega) (List.cons.inj rest).2
  obtain ⟨seconds, rest⟩ := padded_append_inj (by omega) (by omega) (List.cons.inj rest).2
  obtain ⟨micros, rest⟩ := fractionText_append_inj micro micro' rest
  exact DateTime.ext years months days hours minutes seconds micros
    (offsetText_inj d.zone d'.zone rest)

theorem DateTime.chars_ne_none (d : DateTime) : d.chars ≠ "None".toList := by
  intro same
  have lengths := congrArg List.length same
  simp [DateTime.chars, length_padded] at lengths

theorem bar_not_mem_padded {width n : ℕ} : '|' ∉ padded width n :=
  fun member => absurd (isDigit_of_mem_padded member) (by decide)

theorem bar_not_mem_offsetText : '|' ∉ offsetText offset := by
  cases offset with
  | none => exact List.not_mem_nil
  | some offset =>
      rw [offsetText]
      split_ifs <;> simp [bar_not_mem_padded]

theorem DateTime.bar_not_mem_chars (d : DateTime) : '|' ∉ d.chars := by
  have fraction : '|' ∉ fractionText d.microsecond := by
    rw [fractionText]
    split_ifs <;> simp [bar_not_mem_padded]
  simp [DateTime.chars, bar_not_mem_padded, bar_not_mem_offsetText, fraction]

end Times

/-! ## The text of a request -/

section Text

theorem DateTime.toList_str (d : DateTime) : (ParamValue.moment d).str.toList = d.chars :=
  String.toList_ofList

theorem moment_str_inj {d d' : Option DateTime}
    (same : (optionalValue .moment d).str.toList = (optionalValue .moment d').str.toList) :
    d = d' := by
  cases d with
  | none =>
      cases d' with
      | none => rfl
      | some d' =>
          have written := d'.toList_str
          exact absurd (written.symm.trans same.symm) d'.chars_ne_none
  | some d =>
      have written := d.toList_str
      cases d' with
      | none => exact absurd (written.symm.trans same) d.chars_ne_none
      | some d' =>
          have written' := d'.toList_str
          exact congrArg some (DateTime.chars_inj ((written.symm.trans same).trans written'))

theorem bar_not_mem_moment (d : Option DateTime) :
    '|' ∉ (optionalValue .moment d).str.toList := by
  cases d with
  | none => decide
  | some d =>
      rw [optionalValue, d.toList_str]
      exact d.bar_not_mem_chars

theorem bar_not_mem_int (n : ℕ) : '|' ∉ (ParamValue.int n).str.toList := by
  have digits : (toString n).toList = Nat.toDigits 10 n := by
    rw [Nat.toString_eq_repr, Nat.toList_repr]
  rw [ParamValue.str, digits]
  exact fun member =>
    absurd (Nat.isDigit_of_mem_toDigits (by decide) (by decide) member) (by decide)

theorem int_str_inj {n n' : ℕ}
    (same : (ParamValue.int n).str.toList = (ParamValue.int n').str.toList) : n = n' := by
  have read := numeralValue_toString n
  rw [show (toString n).toList = (toString n').toList from same, numeralValue_toString] at read
  exact (Option.some.inj read).symm

/-- No bot is written like a bot that is called None. -/
theorem text_str_eq_iff {bot bot' : Option String} :
    (optionalValue .text bot).str = (optionalValue .text bot').str ↔
      bot = bot' ∨ (bot = none ∧ bot' = some "None") ∨ (bot = some "None" ∧ bot' = none) := by
  cases bot <;> cases bot' <;> simp [optionalValue, ParamValue.str, eq_comm]

/-- The order of the keys. -/
theorem insertionSort_pairs (b f t n : String) :
    [("bot_id", b), ("from_at", f), ("to_at", t), ("n_simulations", n)].insertionSort
        (fun p q => toLex p ≤ toLex q) =
      [("bot_id", b), ("from_at", f), ("n_simulations", n), ("to_at", t)] := by
  have before : ∀ {k k' : String} (v v' : String), k < k' → toLex (k, v) ≤ toLex (k', v') :=
    fun _ _ less => Prod.Lex.toLex_le_toLex.mpr (.inl less)
  have ordered : [("bot_id", b), ("from_at", f), ("n_simulations", n), ("to_at", t)].Pairwise
      fun p q => toLex p ≤ toLex q := by
    simp only [List.pairwise_cons, List.forall_mem_cons, List.not_mem_nil, false_implies,
      implies_true, and_true, List.Pairwise.nil]
    exact ⟨⟨before b f (by decide), before b n (by decide), before b t (by decide)⟩,
      ⟨before f n (by decide), before f t (by decide)⟩, before n t (by decide)⟩
  refine List.Perm.eq_of_pairwise (fun p q _ _ le ge => toLex.injective (le_antisymm le ge))
    (List.pairwise_insertionSort _ _) ordered ?_
  exact (List.perm_insertionSort _ _).trans (((List.Perm.swap _ _ _).cons _).cons _)

theorem toList_raw (p : MonteCarloRequest) : p.raw.toList =
    (("monte-carlo|bot_id=".toList ++ (optionalValue .text p.botId).str.toList ++
      '|' :: ("from_at=".toList ++ (optionalValue .moment p.fromAt).str.toList)) ++
      '|' :: ("n_simulations=".toList ++ (ParamValue.int p.nSimulations).str.toList)) ++
      '|' :: ("to_at=".toList ++ (optionalValue .moment p.toAt).str.toList) := by
  have joined : ∀ a b c d : String,
      "|".intercalate [a, b, c, d] = a ++ "|" ++ b ++ "|" ++ c ++ "|" ++ d := fun _ _ _ _ => rfl
  simp only [MonteCarloRequest.raw, cacheKeyRaw, List.map_cons, List.map_nil, insertionSort_pairs,
    joined, String.toList_append, List.append_assoc]
  rfl

/-- The requests only differ in that one is for no bot and the other for a bot that is called
None. -/
def MonteCarloRequest.Twins (p q : MonteCarloRequest) : Prop :=
  p.fromAt = q.fromAt ∧ p.toAt = q.toAt ∧ p.nSimulations = q.nSimulations ∧
    ((p.botId = none ∧ q.botId = some "None") ∨ (p.botId = some "None" ∧ q.botId = none))

instance (p q : MonteCarloRequest) : Decidable (p.Twins q) :=
  inferInstanceAs (Decidable (_ ∧ _ ∧ _ ∧ _))

/-- Twins, and only twins, share a text. -/
theorem raw_eq_iff {p q : MonteCarloRequest} : p.raw = q.raw ↔ p = q ∨ p.Twins q := by
  constructor
  · intro same
    have texts := congrArg String.toList same
    rw [toList_raw, toList_raw] at texts
    obtain ⟨texts, finish⟩ := append_separator_inj (by simp [bar_not_mem_moment])
      (by simp [bar_not_mem_moment]) texts
    obtain ⟨texts, simulations⟩ := append_separator_inj (by simp [bar_not_mem_int])
      (by simp [bar_not_mem_int]) texts
    obtain ⟨texts, start⟩ := append_separator_inj (by simp [bar_not_mem_moment])
      (by simp [bar_not_mem_moment]) texts
    have toAt := moment_str_inj (List.append_cancel_left finish)
    have nSimulations := int_str_inj (List.append_cancel_left simulations)
    have fromAt := moment_str_inj (List.append_cancel_left start)
    have bots := text_str_eq_iff.mp (String.toList_inj.mp (List.append_cancel_left texts))
    rcases bots with botId | apart
    · exact .inl (MonteCarloRequest.ext botId fromAt toAt nSimulations)
    · exact .inr ⟨fromAt, toAt, nSimulations, apart⟩
  · rintro (rfl | ⟨fromAt, toAt, nSimulations, apart⟩)
    · rfl
    · have bots := text_str_eq_iff.mpr (.inr apart)
      rw [← String.toList_inj, toList_raw, toList_raw, fromAt, toAt, nSimulations, bots]

end Text

/-! ## Whose value a call is answered with -/

section Runs

variable {κ α ρ : Type} {key : α → κ} {ttl : ℚ} {asked : List α}
  {cache : AnalyticsCache κ α ρ}

/-- The request a call was made with. -/
def CachePhase.request : CachePhase α ρ → α
  | .waiting request => request
  | .computing request _ => request
  | .answered request _ => request
  | .raised request => request

/-- If the call is answered, it is with a value that was computed for its own request. -/
def CachePhase.Own : CachePhase α ρ → Prop
  | .answered request response => response.request = request
  | .waiting _ | .computing _ _ | .raised _ => True

/-- Every value was computed for a request that was asked and has its key. -/
structure Computes (key : α → κ) (asked : List α) (cache : AnalyticsCache κ α ρ) : Prop where
  cached : ∀ k expiry value, cache.values k = some (expiry, value) →
    value.request ∈ asked ∧ key value.request = k
  phases : ∀ call phase, cache.calls call = some phase → phase.request ∈ asked ∧ phase.Own

theorem Computes.initial : Computes key asked ({} : AnalyticsCache κ α ρ) where
  cached := by intro k expiry value found; cases found
  phases := by intro call phase found; cases found

/-- A fresh value is the caller's own. -/
theorem Computes.fresh (computes : Computes key asked cache)
    (apart : ∀ p ∈ asked, ∀ q ∈ asked, key p = key q → p = q) {request : α} {now : ℚ}
    (listed : request ∈ asked) {value : Computed α ρ}
    (found : cache.fresh (key request) now = some value) : value.request = request := by
  obtain ⟨⟨expiry, held⟩, stored, valid⟩ := Option.bind_eq_some_iff.mp found
  split_ifs at valid
  obtain rfl := Option.some.inj valid
  obtain ⟨member, same⟩ := computes.cached _ _ _ stored
  exact apart _ member _ listed same

theorem Computes.moves (computes : Computes key asked cache) (call : ℕ) (phase : CachePhase α ρ)
    (listed : phase.request ∈ asked) (own : phase.Own) :
    Computes key asked (cache.moves call phase) where
  cached := computes.cached
  phases := by
    intro other phase' found
    by_cases here : other = call
    · subst here
      simp only [AnalyticsCache.moves, Function.update_self, Option.some.injEq] at found
      subst found
      exact ⟨listed, own⟩
    · simp only [AnalyticsCache.moves, Function.update_of_ne here] at found
      exact computes.phases other phase' found

/-- Locks are not looked at. -/
theorem Computes.locked (computes : Computes key asked cache) (locks : κ → Option ℕ) :
    Computes key asked { cache with locks := locks } :=
  ⟨computes.cached, computes.phases⟩

variable [DecidableEq κ]

/-- A value that is stored was computed for the request whose key it is stored under. -/
theorem Computes.stores (computes : Computes key asked cache) {request : α} {expiry : ℚ}
    {result : ρ} (listed : request ∈ asked) :
    Computes key asked { cache with
      values :=
        Function.update cache.values (key request) (some (expiry, ⟨request, result⟩)) } where
  cached := by
    intro k expiry' value found
    by_cases here : k = key request
    · subst here
      simp only [Function.update_self, Option.some.injEq, Prod.mk.injEq] at found
      obtain ⟨_, rfl⟩ := found
      exact ⟨listed, rfl⟩
    · simp only [Function.update_of_ne here] at found
      exact computes.cached k expiry' value found
  phases := computes.phases

theorem Computes.step (computes : Computes key asked cache)
    (apart : ∀ p ∈ asked, ∀ q ∈ asked, key p = key q → p = q) (step : CacheStep α ρ)
    (listed : ∀ request ∈ requests [step], request ∈ asked) :
    Computes key asked (cacheStep key ttl step cache) := by
  cases step with
  | begins call request now =>
      have member := listed request List.mem_cons_self
      rw [cacheStep]
      cases cache.calls call with
      | some _ => exact computes
      | none =>
          cases found : cache.fresh (key request) now with
          | some value =>
              exact computes.moves call (.answered request value) member
                (computes.fresh apart member found)
          | none => exact computes.moves call (.waiting request) member trivial
  | enters call now =>
      rw [cacheStep]
      split
      · rename_i request waits
        have member := (computes.phases _ _ waits).1
        cases cache.locks (key request) with
        | some _ => exact computes
        | none =>
            cases found : cache.fresh (key request) now with
            | some value =>
                exact computes.moves call (.answered request value) member
                  (computes.fresh apart member found)
            | none => exact (computes.moves call (.computing request now) member trivial).locked _
      all_goals exact computes
  | finishes call outcome =>
      rw [cacheStep]
      split
      · rename_i request nowTs computing
        have member := (computes.phases _ _ computing).1
        cases outcome with
        | some result =>
            have answered := computes.moves call (.answered request ⟨request, result⟩) member rfl
            exact (answered.stores member).locked _
        | none => exact (computes.moves call (.raised request) member trivial).locked _
      all_goals exact computes

/-- Where keys tell the requests of a run apart, every call is answered for its own request. -/
theorem Computes.run {steps : List (CacheStep α ρ)}
    (apart : ∀ p ∈ requests steps, ∀ q ∈ requests steps, key p = key q → p = q) :
    Computes key (requests steps) (Lib.run (cacheStep key ttl) {} steps) := by
  have guarded : RunGuarded (fun _ step => ∀ request ∈ requests [step], request ∈ requests steps)
      (cacheStep key ttl) ({} : AnalyticsCache κ α ρ) steps := by
    refine runGuarded_of_forall fun step member request asks => ?_
    obtain ⟨other, listed, is⟩ := List.mem_filterMap.mp asks
    rw [List.mem_singleton.mp listed] at is
    exact List.mem_filterMap.mpr ⟨step, member, is⟩
  exact run_invariant (Computes key (requests steps))
    (fun cache step computes listed => computes.step apart step listed) Computes.initial guarded

end Runs

/-! ## Separation -/

/-- **The cache is separated but for a bot that is called None.**  The texts of two different
requests differ unless the requests are twins.  With a digest that tells texts apart, in every run
without twins every response was computed for the request it answers. -/
theorem cache_separation_iff (ttl : ℚ) :
    (∀ p q : MonteCarloRequest, p ≠ q → (p.raw ≠ q.raw ↔ ¬ p.Twins q)) ∧
    ∀ (ρ : Type) (sha256 : String → String), Function.Injective sha256 →
      ∀ steps : List (CacheStep MonteCarloRequest ρ),
      (∀ p ∈ requests steps, ∀ q ∈ requests steps, ¬ p.Twins q) →
      ∀ call request response,
        (run (cacheStep (fun p : MonteCarloRequest => sha256 p.raw) ttl) {} steps).calls call =
          some (.answered request response) → response.request = request := by
  refine ⟨fun p q different => ?_,
    fun ρ sha256 injective steps single call request response answered => ?_⟩
  · rw [ne_eq, raw_eq_iff, or_iff_right different]
  · have apart : ∀ p ∈ requests steps, ∀ q ∈ requests steps,
        sha256 p.raw = sha256 q.raw → p = q := fun p member q member' same =>
      (raw_eq_iff.mp (injective same)).resolve_right (single p member q member')
    exact ((Computes.run apart).phases call _ answered).2

/-- A request for the bot, over all trades. -/
def requestFor (botId : Option String) : MonteCarloRequest :=
  ⟨botId, none, none, 1000, by decide⟩

/-- One call computes, and another begins while the value is fresh. -/
def twoCalls (first second : Option String) : List (CacheStep MonteCarloRequest Unit) :=
  [.begins 0 (requestFor first) 0, .enters 0 0, .finishes 0 (some ()),
    .begins 1 (requestFor second) 10, .enters 1 10, .finishes 1 (some ())]

theorem cache_separation_two_bots :
    (requestFor (some "a")).raw ≠ (requestFor (some "b")).raw ∧
      ∃ response, (run (cacheStep (fun p : MonteCarloRequest => p.raw) 300) {}
        (twoCalls (some "a") (some "b"))).calls 1 =
          some (.answered (requestFor (some "b")) response) ∧
        response.request = requestFor (some "b") := by
  obtain ⟨texts, runs⟩ := cache_separation_iff 300
  have differ := (texts (requestFor (some "a")) (requestFor (some "b")) (by decide)).mpr (by decide)
  refine ⟨differ, ⟨requestFor (some "b"), ()⟩, by rfl, ?_⟩
  exact runs Unit id Function.injective_id (twoCalls (some "a") (some "b")) (by decide) 1 _ _
    (by rfl)

/-- A request for the bot called None is answered with what was computed for all bots. -/
theorem cache_mixes_twins :
    requestFor none ≠ requestFor (some "None") ∧
      (requestFor none).raw = (requestFor (some "None")).raw ∧
      (run (cacheStep (fun p : MonteCarloRequest => p.raw) 300) {}
        (twoCalls none (some "None"))).calls 1 =
          some (.answered (requestFor (some "None")) ⟨requestFor none, ()⟩) :=
  ⟨by decide, raw_eq_iff.mpr (.inr (by decide)), by decide +kernel⟩

end Scalper.Analytics
