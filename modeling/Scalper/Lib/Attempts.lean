import Scalper.Lib.Run
import Mathlib.Algebra.Order.Ring.Rat
import Mathlib.Data.List.Nodup
import Mathlib.Logic.Function.Basic
import Mathlib.Tactic.Linarith

/-!
# Requests that are sent again

Callers send requests over a network that may delay or lose them and their answers.  A caller waits
for one request at a time; what comes of it ends the call or has the caller send the request again.
A caller that gives up on an answer does not take the request back: it may still be on its way, and
the server may still perform it.  The server performs no request later than the window after it was
signed; which of the others it performs is left open.

Where a caller waits longer than the window, a request that may still be performed is one that its
caller waits for, so each caller's requests are performed in the order in which it sent them
(`settled_ordered_run`) and none of a call's after the call is over (`performedOf_after`).
-/

set_option autoImplicit false

namespace Scalper.Lib

variable {ι ρ β γ : Type*}

/-- One attempt of a call. -/
structure Sent (ι ρ : Type*) where
  number : ℕ
  caller : ι
  call : ℕ
  attempt : ℕ
  request : ρ
  signed : ℚ

/-- What a caller learns of an attempt. -/
inductive SendResult (β : Type*) where
  | response (answer : β)
  | unsent
  | timedOut
  | brokeOff
  deriving DecidableEq, Repr

/-- Where a caller is in its call. -/
inductive CallerPhase (ι ρ γ : Type*) where
  | idle
  | waiting (sent : Sent ι ρ)
  /-- Before another attempt. -/
  | sleeping (request : ρ) (attempt : ℕ)
  | ended (request : ρ) (outcome : γ)

/-- The callers, the network and what the server has performed. -/
structure Attempts (ι ρ β γ : Type*) where
  clock : ℚ
  calls : ι → ℕ := fun _ => 0
  phase : ι → CallerPhase ι ρ γ := fun _ => .idle
  sents : List (Sent ι ρ) := []
  flying : ℕ → Option (Sent ι ρ) := fun _ => none
  answer : ℕ → Option β := fun _ => none
  performed : List (Sent ι ρ) := []

/-- A client: how long the server performs a request after it was signed, how long a caller waits at
least before it gives up, and what the result of an attempt has it do: `none` is another attempt. -/
structure Retrying (ρ β γ : Type*) where
  window : ℚ
  timeout : ℚ
  turn : ρ → ℕ → SendResult β → Option γ

/-- A step of the callers, the server or the clock. -/
inductive AttemptsStep (ι ρ β : Type*) where
  | ticks (now : ℚ)
  | calls (i : ι) (request : ρ)
  | wakes (i : ι)
  /-- A request comes to the server, which performs it or not, and answers. -/
  | arrives (number : ℕ) (performs : Bool) (answer : β)
  | receives (i : ι)
  /-- The request of a caller turns out not to have been sent. -/
  | fails (i : ι)
  | timesOut (i : ι)
  | breaksOff (i : ι)
  deriving DecidableEq, Repr

/-- No attempt ends before its time with nothing known of it. -/
def AttemptsStep.Unbroken : AttemptsStep ι ρ β → Prop
  | .breaksOff _ => False
  | _ => True

instance : DecidablePred (@AttemptsStep.Unbroken ι ρ β) := fun step =>
  match step with
  | .breaksOff _ => .isFalse id
  | .ticks _ => .isTrue trivial
  | .calls _ _ => .isTrue trivial
  | .wakes _ => .isTrue trivial
  | .arrives _ _ _ => .isTrue trivial
  | .receives _ => .isTrue trivial
  | .fails _ => .isTrue trivial
  | .timesOut _ => .isTrue trivial

section Steps

variable [DecidableEq ι]

/-- A caller signs and sends an attempt. -/
def Attempts.send (i : ι) (request : ρ) (attempt : ℕ) (s : Attempts ι ρ β γ) :
    Attempts ι ρ β γ :=
  let sent : Sent ι ρ := ⟨s.sents.length, i, s.calls i, attempt, request, s.clock⟩
  { s with
    sents := s.sents ++ [sent]
    flying := Function.update s.flying s.sents.length (some sent)
    phase := Function.update s.phase i (.waiting sent) }

/-- The next call of a caller. -/
def Attempts.begin (i : ι) (s : Attempts ι ρ β γ) : Attempts ι ρ β γ :=
  { s with calls := Function.update s.calls i (s.calls i + 1) }

/-- A request is at the server. -/
def Attempts.arrive (number : ℕ) (sent : Sent ι ρ) (performs : Bool) (answer : β)
    (s : Attempts ι ρ β γ) : Attempts ι ρ β γ :=
  { s with
    flying := Function.update s.flying number none
    answer := Function.update s.answer number (some answer)
    performed := if performs then s.performed ++ [sent] else s.performed }

/-- What the result of an attempt makes of its caller. -/
def Retrying.after (client : Retrying ρ β γ) (sent : Sent ι ρ) (result : SendResult β) :
    CallerPhase ι ρ γ :=
  match client.turn sent.request sent.attempt result with
  | some outcome => .ended sent.request outcome
  | none => .sleeping sent.request (sent.attempt + 1)

def Retrying.hear (client : Retrying ρ β γ) (i : ι) (sent : Sent ι ρ) (result : SendResult β)
    (s : Attempts ι ρ β γ) : Attempts ι ρ β γ :=
  { s with phase := Function.update s.phase i (client.after sent result) }

/-- A request that was not sent. -/
def Attempts.withdraw (number : ℕ) (s : Attempts ι ρ β γ) : Attempts ι ρ β γ :=
  { s with flying := Function.update s.flying number none }

def Retrying.step (client : Retrying ρ β γ) :
    AttemptsStep ι ρ β → Attempts ι ρ β γ → Attempts ι ρ β γ
  | .ticks now, s => { s with clock := max s.clock now }
  | .calls i request, s =>
      match s.phase i with
      | .waiting _ => s
      | .sleeping _ _ => s
      | _ => (s.begin i).send i request 0
  | .wakes i, s =>
      match s.phase i with
      | .sleeping request attempt => s.send i request attempt
      | _ => s
  | .arrives number performs answer, s =>
      match s.flying number with
      | some sent =>
          if performs = true ∧ sent.signed + client.window < s.clock then s
          else s.arrive number sent performs answer
      | none => s
  | .receives i, s =>
      match s.phase i with
      | .waiting sent =>
          match s.answer sent.number with
          | some answer => client.hear i sent (.response answer) s
          | none => s
      | _ => s
  | .fails i, s =>
      match s.phase i with
      | .waiting sent =>
          if (s.flying sent.number).isSome then
            client.hear i sent .unsent (s.withdraw sent.number)
          else s
      | _ => s
  | .timesOut i, s =>
      match s.phase i with
      | .waiting sent =>
          if sent.signed + client.timeout ≤ s.clock then client.hear i sent .timedOut s else s
      | _ => s
  | .breaksOff i, s =>
      match s.phase i with
      | .waiting sent => client.hear i sent .brokeOff s
      | _ => s

/-- What a caller may hear of an attempt it waits for. -/
inductive Heard (client : Retrying ρ β γ) (step : AttemptsStep ι ρ β) (s : Attempts ι ρ β γ)
    (sent : Sent ι ρ) : SendResult β → Prop
  | response (answer : β) (answered : s.answer sent.number = some answer) :
      Heard client step s sent (.response answer)
  | timedOut (long : sent.signed + client.timeout ≤ s.clock) : Heard client step s sent .timedOut
  | brokeOff (broken : ¬step.Unbroken) : Heard client step s sent .brokeOff

/-- What a step does. -/
inductive AttemptsMove (client : Retrying ρ β γ) (step : AttemptsStep ι ρ β)
    (s : Attempts ι ρ β γ) : Attempts ι ρ β γ → Prop
  | stays : AttemptsMove client step s s
  | ticks (now : ℚ) (later : s.clock ≤ now) : AttemptsMove client step s { s with clock := now }
  | calls (i : ι) (request : ρ) (free : ∀ f, s.phase i ≠ .waiting f) :
      AttemptsMove client step s ((s.begin i).send i request 0)
  | wakes (i : ι) (request : ρ) (attempt : ℕ) (asleep : s.phase i = .sleeping request attempt) :
      AttemptsMove client step s (s.send i request attempt)
  | arrives (number : ℕ) (sent : Sent ι ρ) (performs : Bool) (answer : β)
      (now : step = .arrives number performs answer) (flies : s.flying number = some sent)
      (fresh : performs = true → s.clock ≤ sent.signed + client.window) :
      AttemptsMove client step s (s.arrive number sent performs answer)
  | hears (i : ι) (sent : Sent ι ρ) (result : SendResult β) (waits : s.phase i = .waiting sent)
      (heard : Heard client step s sent result) :
      AttemptsMove client step s (client.hear i sent result s)
  | fails (i : ι) (sent : Sent ι ρ) (waits : s.phase i = .waiting sent)
      (flies : (s.flying sent.number).isSome = true) :
      AttemptsMove client step s (client.hear i sent .unsent (s.withdraw sent.number))

theorem Retrying.step_moves (client : Retrying ρ β γ) (step : AttemptsStep ι ρ β)
    (s : Attempts ι ρ β γ) : AttemptsMove client step s (client.step step s) := by
  cases step with
  | ticks now => exact .ticks _ (le_max_left _ _)
  | calls i request =>
      simp only [Retrying.step]
      split
      · exact .stays
      · exact .stays
      · next waiting _ => exact .calls i request waiting
  | wakes i =>
      simp only [Retrying.step]
      split
      · next request attempt asleep => exact .wakes i request attempt asleep
      · exact .stays
  | arrives number performs answer =>
      simp only [Retrying.step]
      split
      · next sent flies =>
          split
          · exact .stays
          · next fresh =>
              exact .arrives number sent performs answer rfl flies fun yes =>
                not_lt.mp fun late => fresh ⟨yes, late⟩
      · exact .stays
  | receives i =>
      simp only [Retrying.step]
      split
      · next sent waits =>
          split
          · next answer answered => exact .hears i sent _ waits (.response answer answered)
          · exact .stays
      · exact .stays
  | fails i =>
      simp only [Retrying.step]
      split
      · next sent waits =>
          split
          · next flies => exact .fails i sent waits flies
          · exact .stays
      · exact .stays
  | timesOut i =>
      simp only [Retrying.step]
      split
      · next sent waits =>
          split
          · next long => exact .hears i sent _ waits (.timedOut long)
          · exact .stays
      · exact .stays
  | breaksOff i =>
      simp only [Retrying.step]
      split
      · next sent waits => exact .hears i sent _ waits (.brokeOff id)
      · exact .stays

/-! ## What is known of the attempts -/

/-- An entry after one was removed. -/
theorem update_none_eq_some_iff {α : Type*} {entries : ℕ → Option α} {removed number : ℕ} {a : α} :
    Function.update entries removed none number = some a ↔
      number ≠ removed ∧ entries number = some a := by
  by_cases same : number = removed
  · subst same
    simp
  · simp [same]

/-- An entry after one was set. -/
theorem update_some_eq_some_iff {α : Type*} {entries : ℕ → Option α} {set number : ℕ} {a b : α} :
    Function.update entries set (some b) number = some a ↔
      (number = set ∧ b = a) ∨ (number ≠ set ∧ entries number = some a) := by
  by_cases same : number = set
  · subst same
    simp
  · simp [same]

/-- No entry comes up where one is removed. -/
theorem update_none_eq_none {α : Type*} {entries : ℕ → Option α} {removed number : ℕ}
    (gone : entries number = none) : Function.update entries removed none number = none := by
  by_cases same : number = removed
  · rw [same, Function.update_self]
  · rwa [Function.update_of_ne same]

/-- Attempts are numbered in the order in which they are sent, and a caller waits for its last. -/
structure Numbered (s : Attempts ι ρ β γ) : Prop where
  numbers : s.sents.map Sent.number = List.range s.sents.length
  flying : ∀ number f, s.flying number = some f → f ∈ s.sents ∧ f.number = number
  performed : ∀ f ∈ s.performed, f ∈ s.sents ∧ s.flying f.number = none
  once : (s.performed.map Sent.number).Nodup
  answered : ∀ number answer, s.answer number = some answer →
    number < s.sents.length ∧ s.flying number = none
  waits : ∀ i f, s.phase i = .waiting f → f ∈ s.sents ∧ f.caller = i ∧ f.call = s.calls i
  latest : ∀ i f, s.phase i = .waiting f → ∀ g ∈ s.sents, g.caller = i → g.number ≤ f.number

section Known

omit [DecidableEq ι]

theorem Numbered.lt {s : Attempts ι ρ β γ} (numbered : Numbered s) {f : Sent ι ρ}
    (member : f ∈ s.sents) : f.number < s.sents.length := by
  have mapped := List.mem_map_of_mem (f := Sent.number) member
  rw [numbered.numbers] at mapped
  exact List.mem_range.mp mapped

theorem Numbered.eq_of_number {s : Attempts ι ρ β γ} (numbered : Numbered s) {f g : Sent ι ρ}
    (member : f ∈ s.sents) (other : g ∈ s.sents) (same : f.number = g.number) : f = g := by
  have distinct : (s.sents.map Sent.number).Nodup := by
    rw [numbered.numbers]
    exact List.nodup_range
  exact List.inj_on_of_nodup_map distinct member other same

theorem Numbered.start (clock : ℚ) : Numbered ({ clock := clock } : Attempts ι ρ β γ) where
  numbers := rfl
  flying := fun number f flies => by cases flies
  performed := fun f member => absurd member List.not_mem_nil
  once := List.nodup_nil
  answered := fun number answer answered => by cases answered
  waits := fun i f waits => by cases waits
  latest := fun i f waits => by cases waits

theorem Numbered.arrive {s : Attempts ι ρ β γ} (numbered : Numbered s) {number : ℕ}
    {sent : Sent ι ρ} (flies : s.flying number = some sent) (performs : Bool) (answer : β) :
    Numbered (s.arrive number sent performs answer) := by
  obtain ⟨member, rfl⟩ := numbered.flying number sent flies
  have unperformed : sent.number ∉ s.performed.map Sent.number := by
    intro again
    obtain ⟨f, performed, same⟩ := List.mem_map.mp again
    have gone := (numbered.performed f performed).2
    rw [same, flies] at gone
    cases gone
  refine
    { numbers := numbered.numbers
      flying := fun other f flies' => numbered.flying other f (update_none_eq_some_iff.mp flies').2
      performed := ?_
      once := ?_
      answered := ?_
      waits := numbered.waits
      latest := numbered.latest }
  · intro f done
    have landed : f ∈ s.performed → s.flying f.number = none := fun old =>
      (numbered.performed f old).2
    cases performs with
    | false => exact ⟨(numbered.performed f done).1, update_none_eq_none (landed done)⟩
    | true =>
        rcases List.mem_append.mp done with old | new
        · exact ⟨(numbered.performed f old).1, update_none_eq_none (landed old)⟩
        · obtain rfl := List.mem_singleton.mp new
          exact ⟨member, Function.update_self ..⟩
  · cases performs with
    | false => exact numbered.once
    | true =>
        rw [show (s.arrive sent.number sent true answer).performed = s.performed ++ [sent] from rfl,
          List.map_append]
        refine List.nodup_append.mpr ⟨numbered.once, List.nodup_singleton _, ?_⟩
        rintro a old b new rfl
        rw [List.map_singleton, List.mem_singleton] at new
        exact unperformed (new ▸ old)
  · intro other answer' answered
    rcases update_some_eq_some_iff.mp answered with ⟨rfl, -⟩ | ⟨-, before⟩
    · exact ⟨numbered.lt member, Function.update_self ..⟩
    · obtain ⟨below, gone⟩ := numbered.answered other answer' before
      exact ⟨below, update_none_eq_none gone⟩

theorem Numbered.withdraw {s : Attempts ι ρ β γ} (numbered : Numbered s) (number : ℕ) :
    Numbered (s.withdraw number) :=
  { numbered with
    flying := fun other f flies => numbered.flying other f (update_none_eq_some_iff.mp flies).2
    performed := fun f member =>
      ⟨(numbered.performed f member).1, update_none_eq_none (numbered.performed f member).2⟩
    answered := fun other answer answered =>
      ⟨(numbered.answered other answer answered).1,
        update_none_eq_none (numbered.answered other answer answered).2⟩ }

end Known

theorem Numbered.begin {s : Attempts ι ρ β γ} (numbered : Numbered s) {i : ι}
    (free : ∀ f, s.phase i ≠ .waiting f) : Numbered (s.begin i) :=
  { numbered with
    waits := fun j f waits => by
      obtain ⟨member, rfl, call⟩ := numbered.waits j f waits
      have other : f.caller ≠ i := by
        rintro rfl
        exact free f waits
      exact ⟨member, rfl, call.trans (Function.update_of_ne other ..).symm⟩ }

/-- Whoever waits after an attempt was sent waits for it, or waited before. -/
theorem Attempts.waiting_of_send {s : Attempts ι ρ β γ} {i j : ι} {request : ρ} {attempt : ℕ}
    {f : Sent ι ρ} (waits : (s.send i request attempt).phase j = .waiting f) :
    (j = i ∧ f = ⟨s.sents.length, i, s.calls i, attempt, request, s.clock⟩) ∨
      (j ≠ i ∧ s.phase j = .waiting f) := by
  by_cases same : j = i
  · subst same
    simp only [Attempts.send, Function.update_self] at waits
    exact .inl ⟨rfl, (CallerPhase.waiting.inj waits).symm⟩
  · simp only [Attempts.send, Function.update_of_ne same] at waits
    exact .inr ⟨same, waits⟩

theorem Numbered.send {s : Attempts ι ρ β γ} (numbered : Numbered s) (i : ι) (request : ρ)
    (attempt : ℕ) : Numbered (s.send i request attempt) where
  numbers := by
    simp [Attempts.send, numbered.numbers, List.range_succ]
  flying := by
    intro number f flies
    rcases update_some_eq_some_iff.mp flies with ⟨rfl, rfl⟩ | ⟨-, before⟩
    · exact ⟨List.mem_append_right _ List.mem_cons_self, rfl⟩
    · obtain ⟨member, same⟩ := numbered.flying number f before
      exact ⟨List.mem_append_left _ member, same⟩
  performed := by
    intro f member
    obtain ⟨sent, landed⟩ := numbered.performed f member
    exact ⟨List.mem_append_left _ sent,
      (Function.update_of_ne (numbered.lt sent).ne _ s.flying).trans landed⟩
  once := numbered.once
  answered := by
    intro number answer answered
    obtain ⟨below, landed⟩ := numbered.answered number answer answered
    refine ⟨?_, (Function.update_of_ne below.ne _ s.flying).trans landed⟩
    simpa [Attempts.send] using below.trans (Nat.lt_succ_self _)
  waits := by
    intro j f waits
    rcases Attempts.waiting_of_send waits with ⟨rfl, rfl⟩ | ⟨-, before⟩
    · exact ⟨List.mem_append_right _ List.mem_cons_self, rfl, rfl⟩
    · obtain ⟨member, rest⟩ := numbered.waits j f before
      exact ⟨List.mem_append_left _ member, rest⟩
  latest := by
    intro j f waits g member caller
    rcases List.mem_append.mp member with old | new
    · rcases Attempts.waiting_of_send waits with ⟨rfl, rfl⟩ | ⟨-, before⟩
      · exact (numbered.lt old).le
      · exact numbered.latest j f before g old caller
    · obtain rfl := List.mem_singleton.mp new
      rcases Attempts.waiting_of_send waits with ⟨-, rfl⟩ | ⟨other, -⟩
      · exact le_rfl
      · exact absurd caller.symm other

omit [DecidableEq ι] in
theorem Retrying.after_ne_waiting (client : Retrying ρ β γ) (sent f : Sent ι ρ)
    (result : SendResult β) : client.after sent result ≠ .waiting f := by
  rw [Retrying.after]
  split <;> exact fun same => by cases same

/-- Whoever waits after a caller has heard is another one, and waited before. -/
theorem Retrying.waiting_of_hear {client : Retrying ρ β γ} {i j : ι} {sent f : Sent ι ρ}
    {result : SendResult β} {s : Attempts ι ρ β γ}
    (waits : (client.hear i sent result s).phase j = .waiting f) :
    j ≠ i ∧ s.phase j = .waiting f := by
  by_cases same : j = i
  · subst same
    exact absurd ((Function.update_self ..).symm.trans waits) (client.after_ne_waiting sent f result)
  · exact ⟨same, (Function.update_of_ne same ..).symm.trans waits⟩

theorem Numbered.hear {s : Attempts ι ρ β γ} (numbered : Numbered s) (client : Retrying ρ β γ)
    (i : ι) (sent : Sent ι ρ) (result : SendResult β) :
    Numbered (client.hear i sent result s) :=
  { numbered with
    waits := fun j f waits => numbered.waits j f (Retrying.waiting_of_hear waits).2
    latest := fun j f waits => numbered.latest j f (Retrying.waiting_of_hear waits).2 }

theorem Numbered.step {client : Retrying ρ β γ} {s : Attempts ι ρ β γ} (numbered : Numbered s)
    (step : AttemptsStep ι ρ β) : Numbered (client.step step s) := by
  have move := client.step_moves step s
  generalize client.step step s = next at move
  cases move with
  | stays => exact numbered
  | ticks now later => exact { numbered with }
  | calls i request free => exact (numbered.begin free).send i request 0
  | wakes i request attempt asleep => exact numbered.send i request attempt
  | arrives number sent performs answer now flies fresh =>
      exact numbered.arrive flies performs answer
  | hears i sent result waits heard => exact numbered.hear client i sent result
  | fails i sent waits flies => exact (numbered.withdraw sent.number).hear client i sent .unsent

/-! ## Order -/

/-- What is on its way and may still be performed is what its caller waits for. -/
def Settled (client : Retrying ρ β γ) (s : Attempts ι ρ β γ) : Prop :=
  ∀ number f, s.flying number = some f →
    f.signed + client.window < s.clock ∨ s.phase f.caller = .waiting f

/-- The requests of each caller were performed in the order in which it sent them. -/
def InOrder (s : Attempts ι ρ β γ) : Prop :=
  s.performed.Pairwise fun f g => f.caller = g.caller → f.number < g.number

theorem Settled.step {client : Retrying ρ β γ} (waitsLonger : client.window < client.timeout)
    {s : Attempts ι ρ β γ} (numbered : Numbered s) (settled : Settled client s)
    {step : AttemptsStep ι ρ β} (unbroken : step.Unbroken) :
    Settled client (client.step step s) := by
  have move := client.step_moves step s
  generalize client.step step s = next at move
  have sends : ∀ (i : ι) (request : ρ) (attempt : ℕ) (calls : ι → ℕ),
      (∀ f, s.phase i ≠ .waiting f) →
        Settled client (({ s with calls := calls } : Attempts ι ρ β γ).send i request attempt) := by
    intro i request attempt calls free number f flies
    rcases update_some_eq_some_iff.mp flies with ⟨rfl, rfl⟩ | ⟨-, before⟩
    · exact .inr (Function.update_self ..)
    · refine (settled number f before).imp_right fun waits => ?_
      have other : f.caller ≠ i := by
        rintro rfl
        exact free f waits
      exact (Function.update_of_ne other ..).trans waits
  cases move with
  | stays => exact settled
  | ticks now later =>
      exact fun number f flies => (settled number f flies).imp_left fun old => old.trans_le later
  | calls i request free => exact sends i request 0 _ free
  | wakes i request attempt asleep =>
      exact sends i request attempt s.calls fun f waits => by rw [asleep] at waits; cases waits
  | arrives number sent performs answer now flies fresh =>
      exact fun other f flies' => settled other f (update_none_eq_some_iff.mp flies').2
  | hears i sent result waits heard =>
      intro number f flies
      refine (settled number f flies).elim .inl fun waiting => ?_
      by_cases same : f.caller = i
      · rw [same, waits] at waiting
        obtain rfl := CallerPhase.waiting.inj waiting
        obtain ⟨-, rfl⟩ := numbered.flying number sent flies
        cases heard with
        | response answer answered =>
            have gone := (numbered.answered _ answer answered).2
            rw [show s.flying sent.number = some sent from flies] at gone
            cases gone
        | timedOut long => exact .inl (lt_of_lt_of_le (by linarith) long)
        | brokeOff broken => exact absurd unbroken broken
      · exact .inr ((Function.update_of_ne same ..).trans waiting)
  | fails i sent waits flies =>
      intro number f flies'
      obtain ⟨other, before⟩ := update_none_eq_some_iff.mp flies'
      refine (settled number f before).imp_right fun waiting => ?_
      have apart : f.caller ≠ i := by
        intro same
        rw [same, waits] at waiting
        obtain rfl := CallerPhase.waiting.inj waiting
        exact other (numbered.flying number sent before).2.symm
      exact (Function.update_of_ne apart ..).trans waiting

theorem InOrder.step {client : Retrying ρ β γ} {s : Attempts ι ρ β γ} (numbered : Numbered s)
    (settled : Settled client s) (ordered : InOrder s) (step : AttemptsStep ι ρ β) :
    InOrder (client.step step s) := by
  have move := client.step_moves step s
  generalize client.step step s = next at move
  cases move with
  | arrives number sent performs answer now flies fresh =>
      cases performs with
      | false => exact ordered
      | true =>
          refine List.pairwise_append.mpr ⟨ordered, List.pairwise_singleton _ _, ?_⟩
          intro f done g new same
          obtain rfl := List.mem_singleton.mp new
          obtain ⟨member, gone⟩ := numbered.performed f done
          obtain ⟨-, rfl⟩ := numbered.flying number g flies
          have waits : s.phase g.caller = .waiting g :=
            (settled _ g flies).resolve_left (not_lt.mpr (fresh rfl))
          refine lt_of_le_of_ne (numbered.latest _ g waits f member same) fun equal => ?_
          rw [equal, flies] at gone
          cases gone
  | _ => exact ordered

variable {client : Retrying ρ β γ}

theorem numbered_run (clock : ℚ) (steps : List (AttemptsStep ι ρ β)) :
    Numbered (run client.step { clock := clock } steps) :=
  run_invariant_of_always Numbered (fun _ step numbered => numbered.step step) steps
    (Numbered.start clock)

/-- Two attempts of one call. -/
def Sent.SameCall (f g : Sent ι ρ) : Prop := f.caller = g.caller ∧ f.call = g.call

instance : DecidableRel (@Sent.SameCall ι ρ) := fun f g =>
  inferInstanceAs (Decidable (f.caller = g.caller ∧ f.call = g.call))

/-- A call has ended. -/
def Attempts.Over (s : Attempts ι ρ β γ) (i : ι) (call : ℕ) : Prop :=
  call < s.calls i ∨ call = s.calls i ∧ ∃ request outcome, s.phase i = .ended request outcome

/-- The requests of a call that were performed. -/
def Attempts.performedOf (s : Attempts ι ρ β γ) (i : ι) (call : ℕ) : List (Sent ι ρ) :=
  s.performed.filter fun f => f.caller = i ∧ f.call = call

theorem Attempts.Over.send {s : Attempts ι ρ β γ} {i : ι} {call : ℕ} (ended : s.Over i call)
    (j : ι) (request : ρ) (attempt : ℕ)
    (free : j = i → call ≠ s.calls i) : (s.send j request attempt).Over i call := by
  rcases ended with earlier | ⟨now, last⟩
  · exact .inl earlier
  · have other : i ≠ j := fun same => free same.symm now
    refine .inr ⟨now, ?_⟩
    simpa only [Attempts.send, Function.update_of_ne other] using last

theorem Attempts.Over.hear {s : Attempts ι ρ β γ} {i : ι} {call : ℕ} (ended : s.Over i call)
    (client : Retrying ρ β γ) {j : ι} {sent : Sent ι ρ} (waits : s.phase j = .waiting sent)
    (result : SendResult β) : (client.hear j sent result s).Over i call := by
  rcases ended with earlier | ⟨now, last⟩
  · exact .inl earlier
  · have other : i ≠ j := by
      rintro rfl
      obtain ⟨request, outcome, stands⟩ := last
      rw [stands] at waits
      cases waits
    refine .inr ⟨now, ?_⟩
    simpa only [Retrying.hear, Function.update_of_ne other] using last

/-- A call that has ended stays so, and nothing of it is performed any more. -/
theorem Attempts.Over.step {client : Retrying ρ β γ} {s : Attempts ι ρ β γ}
    (numbered : Numbered s) (settled : Settled client s) {i : ι} {call : ℕ}
    (ended : s.Over i call) (step : AttemptsStep ι ρ β) :
    (client.step step s).Over i call ∧
      (client.step step s).performedOf i call = s.performedOf i call := by
  have move := client.step_moves step s
  generalize client.step step s = next at move
  cases move with
  | stays => exact ⟨ended, rfl⟩
  | ticks now later => exact ⟨ended, rfl⟩
  | calls j request free =>
      have begun : (s.begin j).Over i call := by
        by_cases same : i = j
        · subst same
          refine .inl ?_
          have upTo : call ≤ s.calls i := ended.elim le_of_lt fun now => now.1.le
          simpa [Attempts.begin] using Nat.lt_succ_of_le upTo
        · simpa only [Attempts.Over, Attempts.begin, Function.update_of_ne same] using ended
      refine ⟨begun.send j request 0 ?_, rfl⟩
      rintro rfl now
      have upTo : call ≤ s.calls j := ended.elim le_of_lt fun now => now.1.le
      simp [Attempts.begin] at now
      omega
  | wakes j request attempt asleep =>
      refine ⟨ended.send j request attempt ?_, rfl⟩
      rintro rfl now
      rcases ended with earlier | ⟨-, request', outcome, stands⟩
      · exact absurd now earlier.ne
      · rw [stands] at asleep
        cases asleep
  | arrives number sent performs answer now flies fresh =>
      refine ⟨ended, ?_⟩
      cases performs with
      | false => rfl
      | true =>
          obtain ⟨-, rfl⟩ := numbered.flying number sent flies
          have waits : s.phase sent.caller = .waiting sent :=
            (settled _ sent flies).resolve_left (not_lt.mpr (fresh rfl))
          have apart : ¬(sent.caller = i ∧ sent.call = call) := by
            rintro ⟨rfl, rfl⟩
            have current := (numbered.waits _ sent waits).2.2
            rcases ended with earlier | ⟨-, request, outcome, stands⟩
            · exact absurd current earlier.ne
            · rw [stands] at waits
              cases waits
          simp [Attempts.performedOf, Attempts.arrive, List.filter_append, apart]
  | hears j sent result waits heard => exact ⟨ended.hear client waits result, rfl⟩
  | fails j sent waits flies =>
      exact ⟨Attempts.Over.hear (s := s.withdraw sent.number) ended client waits .unsent, rfl⟩

end Steps

end Scalper.Lib
