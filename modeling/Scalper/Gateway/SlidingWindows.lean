import Scalper.Gateway.Webhook
import Scalper.Lib.Expiry
import Scalper.Lib.Window
import Scalper.Lib.Run

/-!
# The sliding windows of the gateway

`services/signal_gateway/app/rate_limit.py` and `dedup.py`: the rate limiter keeps the times of the
requests it accepted of each key, and the dedup ring the time it accepted each key last.  Both drop
what has expired when somebody asks, with the clock of that moment: the limiter the entries of the
key asked for, the ring all of them.  A lock makes each call one step.

Entries are dropped late but are not looked at before, so that both answer as if they kept
everything (`Windowed`, `Remembered`).  `sliding_windows` says what follows for every sequence of
arrivals with a clock that does not go back.
-/

set_option autoImplicit false

namespace Scalper.Gateway

open Scalper.Lib

/-! ## The two structures -/

/-- `RateLimiter`. -/
structure RateLimiter where
  window : ℚ
  limit : ℕ
  deriving DecidableEq, Repr

/-- `RateLimiter.check_and_record`, on the buckets: whether the request is accepted. -/
def RateLimiter.checkAndRecord (limiter : RateLimiter) (now : ℚ) (key : String)
    (buckets : String → Option (List ℚ)) : Bool × (String → Option (List ℚ)) :=
  let windowStart := now - limiter.window
  let bucket := ((buckets key).getD []).dropWhile fun time => decide (time < windowStart)
  if limiter.limit ≤ bucket.length then (false, Function.update buckets key (some bucket))
  else (true, Function.update buckets key (some (bucket ++ [now])))

/-! ## Arrivals -/

/-- A key at a reading of the clock. -/
structure Arrival where
  key : String
  now : ℚ
  deriving DecidableEq, Repr

/-- An arrival with its answer. -/
structure Answered extends Arrival where
  accepted : Bool
  deriving DecidableEq, Repr

/-- What a structure holds, and what it answered. -/
structure Log (σ : Type) where
  state : σ
  answered : List Answered := []

/-- One call. -/
def arrive {σ : Type} (check : ℚ → String → σ → Bool × σ) (arrival : Arrival) (log : Log σ) :
    Log σ where
  state := (check arrival.now arrival.key log.state).2
  answered := log.answered ++ [⟨arrival, (check arrival.now arrival.key log.state).1⟩]

/-- The times at which arrivals of the key were accepted. -/
def acceptedTimes (key : String) (answered : List Answered) : List ℚ :=
  (answered.filter fun a => a.accepted && a.key = key).map fun a => a.now

/-- The clock does not go back. -/
def Forward (arrivals : List Arrival) : Prop := arrivals.Pairwise fun a b => a.now ≤ b.now

section Arrivals

variable {σ : Type} {check : ℚ → String → σ → Bool × σ} {log : Log σ} {answered : List Answered}
  {key : String} {a : Answered} {now : ℚ}

theorem acceptedTimes_concat : acceptedTimes key (answered ++ [a]) =
    acceptedTimes key answered ++ if a.accepted && a.key = key then [a.now] else [] := by
  rw [acceptedTimes, List.filter_append, List.map_append, acceptedTimes]
  cases counted : a.accepted && decide (a.key = key) with
  | true => simp [counted]
  | false => simp [counted]

theorem acceptedTimes_concat_of_accepted (accepted : a.accepted = true) (same : a.key = key) :
    acceptedTimes key (answered ++ [a]) = acceptedTimes key answered ++ [a.now] := by
  rw [acceptedTimes_concat, if_pos (by simp [accepted, same])]

theorem acceptedTimes_concat_of_rejected (rejected : a.accepted = false) :
    acceptedTimes key (answered ++ [a]) = acceptedTimes key answered := by
  rw [acceptedTimes_concat, if_neg (by simp [rejected]), List.append_nil]

theorem acceptedTimes_concat_of_ne (other : a.key ≠ key) :
    acceptedTimes key (answered ++ [a]) = acceptedTimes key answered := by
  rw [acceptedTimes_concat, if_neg (by simp [other]), List.append_nil]

/-- What every two times of a key are to each other, they are with one more that is accepted. -/
theorem pairwise_acceptedTimes_concat {R : ℚ → ℚ → Prop}
    (before : ∀ key, (acceptedTimes key answered).Pairwise R) (accepted : a.accepted = true)
    (related : ∀ time ∈ acceptedTimes a.key answered, R time a.now) (key : String) :
    (acceptedTimes key (answered ++ [a])).Pairwise R := by
  by_cases here : a.key = key
  · subst here
    rw [acceptedTimes_concat_of_accepted accepted rfl, List.pairwise_append]
    refine ⟨before a.key, List.pairwise_singleton _ _, fun time member => ?_⟩
    rw [List.forall_mem_singleton]
    exact related time member
  · rw [acceptedTimes_concat_of_ne here]
    exact before key

theorem acceptedTimes_le (late : ∀ a ∈ answered, a.now ≤ now) :
    ∀ time ∈ acceptedTimes key answered, time ≤ now := by
  intro time member
  obtain ⟨a, listed, rfl⟩ := List.mem_map.mp member
  exact late a (List.mem_of_mem_filter listed)

/-- Every arrival is answered, in order. -/
theorem map_answered_run (arrivals : List Arrival) (log : Log σ) :
    (run (arrive check) log arrivals).answered.map (·.toArrival) =
      log.answered.map (·.toArrival) ++ arrivals := by
  induction arrivals generalizing log with
  | nil => simp
  | cons arrival arrivals ih =>
      rw [run_cons, ih]
      simp [arrive]

/-- What an arrival that is not earlier than the others keeps, all of them keep. -/
theorem run_invariant_of_forward (invariant : Log σ → Prop)
    (preserved : ∀ log arrival, invariant log → (∀ a ∈ log.answered, a.now ≤ arrival.now) →
      invariant (arrive check arrival log))
    {arrivals : List Arrival} (forward : Forward arrivals) {state : σ}
    (initial : invariant { state := state }) :
    invariant (run (arrive check) { state := state } arrivals) := by
  induction arrivals using List.reverseRecOn with
  | nil => exact initial
  | append_singleton arrivals arrival ih =>
      rw [Forward, List.pairwise_append] at forward
      rw [run_concat]
      refine preserved _ arrival (ih forward.1) fun a member => ?_
      have arrived : a.toArrival ∈ arrivals := by
        have listed := List.mem_map_of_mem (f := (·.toArrival)) member
        rwa [map_answered_run] at listed
      exact forward.2.2 a.toArrival arrived arrival List.mem_cons_self

end Arrivals

/-! ## The rate limiter -/

/-- The window before a rejected arrival is full. -/
def RateLimiter.FullBefore (limiter : RateLimiter) (before : List Answered) (a : Answered) : Prop :=
  a.accepted = false →
    limiter.limit ≤ windowCount limiter.window (a.now - limiter.window) (acceptedTimes a.key before)

/-- The buckets hold, as far as the window of any later arrival reaches, the accepted times. -/
structure Windowed (limiter : RateLimiter) (log : Log (String → Option (List ℚ))) : Prop where
  ordered : ∀ key, (acceptedTimes key log.answered).Pairwise (· ≤ ·)
  kept : ∀ key, ((log.state key).getD []).Sublist (acceptedTimes key log.answered)
  agree : ∀ key now, (∀ a ∈ log.answered, a.now ≤ now) →
    AgreeFrom (now - limiter.window) ((log.state key).getD []) (acceptedTimes key log.answered)
  fits : ∀ key start,
    windowCount limiter.window start (acceptedTimes key log.answered) ≤ limiter.limit
  full : EachAfter limiter.FullBefore log.answered

namespace Windowed

variable {limiter : RateLimiter} {log : Log (String → Option (List ℚ))} {arrival : Arrival}

theorem initial : Windowed limiter { state := fun _ => none } where
  ordered := fun _ => List.Pairwise.nil
  kept := fun _ => List.Sublist.refl []
  agree := fun _ _ _ => rfl
  fits := fun _ _ => Nat.zero_le _
  full := eachAfter_nil

/-- What is left of the bucket of a key when it arrives: the accepted times of the window. -/
theorem bucket_eq (windowed : Windowed limiter log) (late : ∀ a ∈ log.answered, a.now ≤ arrival.now)
    (key : String) :
    (((log.state key).getD []).dropWhile
        fun time => decide (time < arrival.now - limiter.window)) =
      (acceptedTimes key log.answered).filter
        fun time => decide (arrival.now - limiter.window ≤ time) := by
  rw [dropWhile_lt_eq_filter ((windowed.ordered key).sublist (windowed.kept key))]
  exact windowed.agree key arrival.now late

/-- Its length is what the window before the arrival counts. -/
theorem length_bucket (late : ∀ a ∈ log.answered, a.now ≤ arrival.now) (key : String) :
    ((acceptedTimes key log.answered).filter
        fun time => decide (arrival.now - limiter.window ≤ time)).length =
      windowCount limiter.window (arrival.now - limiter.window)
        (acceptedTimes key log.answered) := by
  rw [windowCount_of_late]
  intro time member
  rw [sub_add_cancel]
  exact acceptedTimes_le late time member

/-- A call, by what the window before it counts. -/
theorem arrive_eq (windowed : Windowed limiter log)
    (late : ∀ a ∈ log.answered, a.now ≤ arrival.now) :
    let windowStart := arrival.now - limiter.window
    let times := acceptedTimes arrival.key log.answered
    let bucket := times.filter fun time => decide (windowStart ≤ time)
    Gateway.arrive limiter.checkAndRecord arrival log =
      if limiter.limit ≤ windowCount limiter.window windowStart times then
        { state := Function.update log.state arrival.key (some bucket)
          answered := log.answered ++ [⟨arrival, false⟩] }
      else
        { state := Function.update log.state arrival.key (some (bucket ++ [arrival.now]))
          answered := log.answered ++ [⟨arrival, true⟩] } := by
  rw [Gateway.arrive, RateLimiter.checkAndRecord]
  simp only [windowed.bucket_eq late, length_bucket late]
  split_ifs <;> rfl

/-- A rejected call only drops what has expired. -/
theorem rejects (windowed : Windowed limiter log)
    (full : limiter.limit ≤ windowCount limiter.window (arrival.now - limiter.window)
      (acceptedTimes arrival.key log.answered)) :
    Windowed limiter
      { state := Function.update log.state arrival.key (some
          ((acceptedTimes arrival.key log.answered).filter fun time =>
            decide (arrival.now - limiter.window ≤ time)))
        answered := log.answered ++ [⟨arrival, false⟩] } := by
  have same (key : String) : acceptedTimes key (log.answered ++ [⟨arrival, false⟩]) =
      acceptedTimes key log.answered := acceptedTimes_concat_of_rejected rfl
  constructor
  case ordered => simpa only [same] using windowed.ordered
  case kept =>
    intro key
    rw [same]
    by_cases here : key = arrival.key
    · subst here
      simp only [Function.update_self, Option.getD_some]
      exact List.filter_sublist
    · simp only [Function.update_of_ne here]
      exact windowed.kept key
  case agree =>
    intro key now later
    rw [List.forall_mem_append, List.forall_mem_singleton] at later
    rw [same]
    by_cases here : key = arrival.key
    · subst here
      simp only [Function.update_self, Option.getD_some]
      exact (AgreeFrom.refl.expire).mono (sub_le_sub_right later.2 _)
    · simp only [Function.update_of_ne here]
      exact windowed.agree key now later.1
  case fits => simpa only [same] using windowed.fits
  case full => exact windowed.full.concat fun _ => full

/-- An accepted call is appended to what has not expired. -/
theorem accepts (windowed : Windowed limiter log)
    (late : ∀ a ∈ log.answered, a.now ≤ arrival.now)
    (room : windowCount limiter.window (arrival.now - limiter.window)
      (acceptedTimes arrival.key log.answered) < limiter.limit) :
    Windowed limiter
      { state := Function.update log.state arrival.key (some
          (((acceptedTimes arrival.key log.answered).filter fun time =>
            decide (arrival.now - limiter.window ≤ time)) ++ [arrival.now]))
        answered := log.answered ++ [⟨arrival, true⟩] } := by
  have times : ∀ time ∈ acceptedTimes arrival.key log.answered, time ≤ arrival.now :=
    acceptedTimes_le late
  have own : acceptedTimes arrival.key (log.answered ++ [⟨arrival, true⟩]) =
      acceptedTimes arrival.key log.answered ++ [arrival.now] :=
    acceptedTimes_concat_of_accepted rfl rfl
  have others (key : String) (other : key ≠ arrival.key) :
      acceptedTimes key (log.answered ++ [⟨arrival, true⟩]) = acceptedTimes key log.answered :=
    acceptedTimes_concat_of_ne other.symm
  constructor
  case ordered => exact pairwise_acceptedTimes_concat windowed.ordered rfl times
  case kept =>
    intro key
    by_cases here : key = arrival.key
    · subst here
      simp only [Function.update_self, Option.getD_some, own]
      exact List.filter_sublist.append (List.Sublist.refl _)
    · simp only [Function.update_of_ne here, others key here]
      exact windowed.kept key
  case agree =>
    intro key now later
    rw [List.forall_mem_append, List.forall_mem_singleton] at later
    by_cases here : key = arrival.key
    · subst here
      simp only [Function.update_self, Option.getD_some, own]
      exact ((AgreeFrom.refl.expire).mono (sub_le_sub_right later.2 _)).append _
    · simp only [Function.update_of_ne here, others key here]
      exact windowed.agree key now later.1
  case fits =>
    intro key start
    by_cases here : key = arrival.key
    · subst here
      rw [own]
      exact windowCount_concat_le (windowed.fits arrival.key) times room start
    · rw [others key here]
      exact windowed.fits key start
  case full => exact windowed.full.concat fun rejected => by cases rejected

theorem arrives (windowed : Windowed limiter log)
    (late : ∀ a ∈ log.answered, a.now ≤ arrival.now) :
    Windowed limiter (Gateway.arrive limiter.checkAndRecord arrival log) := by
  rw [windowed.arrive_eq late]
  split_ifs with full
  · exact windowed.rejects full
  · exact windowed.accepts late (not_le.mp full)

end Windowed

/-! ## The dedup ring -/

/-- The key of a duplicate was accepted not longer ago than the ring remembers. -/
def SeenBefore (ttl : ℚ) (before : List Answered) (a : Answered) : Prop :=
  a.accepted = false → ∃ time ∈ acceptedTimes a.key before, time ≤ a.now ∧ a.now - time ≤ ttl

/-- The ring holds the last accepted time of a key, unless it has expired. -/
structure Remembered (ttl : ℚ) (log : Log (String → Option ℚ)) : Prop where
  last : ∀ key time, log.state key = some time →
    (acceptedTimes key log.answered).getLast? = some time
  held : ∀ key now, (∀ a ∈ log.answered, a.now ≤ now) →
    ∀ time ∈ (acceptedTimes key log.answered).getLast?, now - ttl ≤ time →
      log.state key = some time
  ordered : ∀ key, (acceptedTimes key log.answered).Pairwise (· ≤ ·)
  apart : ∀ key, (acceptedTimes key log.answered).Pairwise fun time later => ttl < later - time
  seen : EachAfter (SeenBefore ttl) log.answered

namespace Remembered

variable {ttl : ℚ} {log : Log (String → Option ℚ)} {arrival : Arrival}

theorem initial : Remembered ttl { state := fun _ => none } where
  last := by intro key time held; cases held
  held := by intro key now late time last; cases last
  ordered := fun _ => List.Pairwise.nil
  apart := fun _ => List.Pairwise.nil
  seen := eachAfter_nil

/-- The ring after what has expired is dropped. -/
def swept (ttl now : ℚ) (seen : String → Option ℚ) (key : String) : Option ℚ :=
  (seen key).filter fun recorded => ¬ recorded < now - ttl

theorem swept_eq_some_iff {now time : ℚ} {seen : String → Option ℚ} {key : String} :
    swept ttl now seen key = some time ↔ seen key = some time ∧ now - ttl ≤ time := by
  simp [swept, Option.filter_eq_some_iff]

/-- What is swept is still held as far as any later arrival looks. -/
theorem held_swept (remembered : Remembered ttl log)
    (late : ∀ a ∈ log.answered, a.now ≤ arrival.now) {now : ℚ} (later : arrival.now ≤ now)
    {key : String} {time : ℚ} (last : time ∈ (acceptedTimes key log.answered).getLast?)
    (recent : now - ttl ≤ time) : swept ttl arrival.now log.state key = some time := by
  have inTime : arrival.now - ttl ≤ time := (sub_le_sub_right later ttl).trans recent
  exact swept_eq_some_iff.mpr ⟨remembered.held key arrival.now late time last inTime, inTime⟩

/-- A duplicate. -/
theorem repeats (remembered : Remembered ttl log)
    (late : ∀ a ∈ log.answered, a.now ≤ arrival.now) {time : ℚ}
    (known : swept ttl arrival.now log.state arrival.key = some time) :
    Remembered ttl
      { state := swept ttl arrival.now log.state
        answered := log.answered ++ [⟨arrival, false⟩] } := by
  have same (key : String) : acceptedTimes key (log.answered ++ [⟨arrival, false⟩]) =
      acceptedTimes key log.answered := acceptedTimes_concat_of_rejected rfl
  constructor
  case last =>
    intro key held kept
    rw [same]
    exact remembered.last key held (swept_eq_some_iff.mp kept).1
  case held =>
    intro key now later held last recent
    rw [List.forall_mem_append, List.forall_mem_singleton] at later
    rw [same] at last
    exact remembered.held_swept late later.2 last recent
  case ordered => simpa only [same] using remembered.ordered
  case apart => simpa only [same] using remembered.apart
  case seen =>
    refine remembered.seen.concat fun _ => ?_
    obtain ⟨held, recent⟩ := swept_eq_some_iff.mp known
    have member := List.mem_of_getLast? (remembered.last arrival.key time held)
    exact ⟨time, member, acceptedTimes_le late time member, by linarith⟩

/-- A key that was not accepted for longer than the ring remembers. -/
theorem isNew (remembered : Remembered ttl log)
    (late : ∀ a ∈ log.answered, a.now ≤ arrival.now)
    (unknown : swept ttl arrival.now log.state arrival.key = none) :
    ∀ time ∈ acceptedTimes arrival.key log.answered, ttl < arrival.now - time := by
  intro time member
  obtain ⟨last, isLast⟩ := Option.isSome_iff_exists.mp
    (List.getLast?_isSome.mpr (List.ne_nil_of_mem member))
  have expired : ¬ arrival.now - ttl ≤ last := by
    intro recent
    rw [remembered.held_swept late le_rfl isLast recent] at unknown
    cases unknown
  have before : time ≤ last := by
    obtain ⟨earlier, split⟩ := List.getLast?_eq_some_iff.mp isLast
    have ordered := remembered.ordered arrival.key
    rw [split, List.pairwise_append] at ordered
    rw [split] at member
    rcases List.mem_append.mp member with old | this
    · exact ordered.2.2 time old last List.mem_cons_self
    · exact (List.mem_singleton.mp this).le
  linarith [not_le.mp expired]

theorem records (remembered : Remembered ttl log)
    (late : ∀ a ∈ log.answered, a.now ≤ arrival.now)
    (unknown : swept ttl arrival.now log.state arrival.key = none) :
    Remembered ttl
      { state := Function.update (swept ttl arrival.now log.state) arrival.key (some arrival.now)
        answered := log.answered ++ [⟨arrival, true⟩] } := by
  have own : acceptedTimes arrival.key (log.answered ++ [⟨arrival, true⟩]) =
      acceptedTimes arrival.key log.answered ++ [arrival.now] :=
    acceptedTimes_concat_of_accepted rfl rfl
  have others (key : String) (other : key ≠ arrival.key) :
      acceptedTimes key (log.answered ++ [⟨arrival, true⟩]) = acceptedTimes key log.answered :=
    acceptedTimes_concat_of_ne other.symm
  constructor
  case last =>
    intro key time held
    by_cases here : key = arrival.key
    · subst here
      simp only [Function.update_self] at held
      rw [own, List.getLast?_concat, held]
    · simp only [Function.update_of_ne here] at held
      rw [others key here]
      exact remembered.last key time (swept_eq_some_iff.mp held).1
  case held =>
    intro key now later time last recent
    rw [List.forall_mem_append, List.forall_mem_singleton] at later
    by_cases here : key = arrival.key
    · subst here
      rw [own, List.getLast?_concat] at last
      simp only [Function.update_self]
      exact last
    · rw [others key here] at last
      simp only [Function.update_of_ne here]
      exact remembered.held_swept late later.2 last recent
  case ordered => exact pairwise_acceptedTimes_concat remembered.ordered rfl (acceptedTimes_le late)
  case apart =>
    exact pairwise_acceptedTimes_concat remembered.apart rfl (remembered.isNew late unknown)
  case seen => exact remembered.seen.concat fun rejected => by cases rejected

theorem arrives (remembered : Remembered ttl log)
    (late : ∀ a ∈ log.answered, a.now ≤ arrival.now) :
    Remembered ttl (arrive (checkAndRecord ttl) arrival log) := by
  have shape : arrive (checkAndRecord ttl) arrival log =
      if (swept ttl arrival.now log.state arrival.key).isSome then
        { state := swept ttl arrival.now log.state
          answered := log.answered ++ [⟨arrival, false⟩] }
      else
        { state := Function.update (swept ttl arrival.now log.state) arrival.key (some arrival.now)
          answered := log.answered ++ [⟨arrival, true⟩] } := by
    rw [arrive, checkAndRecord]
    change Log.mk
      (if (swept ttl arrival.now log.state arrival.key).isSome then _ else _ : Bool × _).2
      (log.answered ++ [⟨arrival,
        (if (swept ttl arrival.now log.state arrival.key).isSome then _ else _ : Bool × _).1⟩]) = _
    split_ifs <;> rfl
  rw [shape]
  cases known : swept ttl arrival.now log.state arrival.key with
  | some time => exact remembered.repeats late known
  | none => exact remembered.records late known

end Remembered

/-- **The window laws**: with a clock that does not go back, the rate limiter accepts at most
`limit` arrivals of a key in any window of its length, and rejects one only when it accepted
`limit` of its key in the window that ends there.  The dedup ring accepts a key again only after
more than its time to live, and reports a duplicate only when it accepted the key within that
time. -/
theorem sliding_windows (arrivals : List Arrival) (forward : Forward arrivals) :
    (∀ limiter : RateLimiter,
      let answered :=
        (run (arrive limiter.checkAndRecord) { state := fun _ => none } arrivals).answered
      answered.map (·.toArrival) = arrivals ∧
        (∀ key start,
          windowCount limiter.window start (acceptedTimes key answered) ≤ limiter.limit) ∧
        ∀ before a after, answered = before ++ a :: after → a.accepted = false →
          limiter.limit ≤ windowCount limiter.window (a.now - limiter.window)
            (acceptedTimes a.key before)) ∧
    ∀ ttl : ℚ,
      let answered :=
        (run (arrive (checkAndRecord ttl)) { state := fun _ => none } arrivals).answered
      answered.map (·.toArrival) = arrivals ∧
        (∀ key, (acceptedTimes key answered).Pairwise fun time later => ttl < later - time) ∧
        ∀ before a after, answered = before ++ a :: after → a.accepted = false →
          ∃ time ∈ acceptedTimes a.key before, time ≤ a.now ∧ a.now - time ≤ ttl := by
  refine ⟨fun limiter => ?_, fun ttl => ?_⟩
  · have windowed : Windowed limiter _ := run_invariant_of_forward (Windowed limiter)
      (fun _ _ windowed late => windowed.arrives late) forward Windowed.initial
    exact ⟨map_answered_run arrivals _, windowed.fits, windowed.full⟩
  · have remembered : Remembered ttl _ := run_invariant_of_forward (Remembered ttl)
      (fun _ _ remembered late => remembered.arrives late) forward Remembered.initial
    exact ⟨map_answered_run arrivals _, remembered.apart, remembered.seen⟩

/-- Two requests of one address, a whole window apart, and a third one after that. -/
theorem sliding_windows_boundary :
    let arrivals : List Arrival := [⟨"10.0.0.1", 0⟩, ⟨"10.0.0.1", 60⟩, ⟨"10.0.0.1", 61⟩]
    let answered := (run (arrive (RateLimiter.mk 60 1).checkAndRecord)
      { state := fun _ => none } arrivals).answered
    (∀ start, windowCount 60 start (acceptedTimes "10.0.0.1" answered) ≤ 1) ∧
      answered.map (·.accepted) = [true, false, true] := by
  intro arrivals answered
  have forward : Forward arrivals := by
    unfold Forward
    decide +kernel
  exact ⟨fun start => ((sliding_windows arrivals forward).1 ⟨60, 1⟩).2.1 "10.0.0.1" start,
    by decide +kernel⟩

end Scalper.Gateway
