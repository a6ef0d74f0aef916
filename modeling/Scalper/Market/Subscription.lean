import Mathlib.Data.Finset.Basic
import Mathlib.Data.Finset.Lattice.Lemmas
import Mathlib.Data.List.Nodup
import Scalper.Lib.Loop

/-!
# Reference-counted subscriptions

`packages/market/subscription.py`: the manager keeps a count and the feeds of each symbol, and
subscribes the websocket to the streams of a symbol when its count leaves zero and unsubscribes it
when the count returns there.  A lock makes each call one step.  `packages/market/ws.py`: the client
changes its set of streams first, and then sends a frame if it is connected, which may fail.

A failed release has already given back its count.  A failed first acquire has taken a count for
which no feed was handed out, so that nothing ever gives it back, and what it did not reach is not
subscribed by a later acquire either (`secondKind_missing`).  `accounted_iff` says that this is the
only way the counts go wrong.
-/

set_option autoImplicit false

namespace Scalper.Market

open Scalper.Lib

/-! ## Streams -/

/-- `_validate_symbol`. -/
def ValidSymbol (symbol : String) : Prop :=
  symbol ≠ "" ∧ (∀ char ∈ symbol.toList, char.toNat < 128 ∧ char.isAlphanum = true) ∧
    symbol.toList.map Char.toUpper = symbol.toList

instance (symbol : String) : Decidable (ValidSymbol symbol) :=
  @instDecidableAnd _ _ inferInstance
    (@instDecidableAnd _ _ (List.decidableBAll _ symbol.toList) inferInstance)

/-- `_stream_name`. -/
def streamName (symbol kind : String) : String :=
  String.ofList (symbol.toList.map Char.toLower) ++ "@" ++ kind

/-- The frame of a change of the subscriptions could not be sent. -/
inductive SendError where
  | sendFailed
  deriving DecidableEq, Repr

/-- The streams the client is subscribed to. -/
abbrev Streams := Finset String

/-- `add_stream`: whether the client is connected and its frame for a stream fails is given. -/
def addStream (fails : String → Bool) (stream : String) (streams : Streams) :
    Except SendError Unit × Streams :=
  if stream ∈ streams then (.ok (), streams)
  else (if fails stream then .error .sendFailed else .ok (), insert stream streams)

/-- `remove_stream`. -/
def removeStream (fails : String → Bool) (stream : String) (streams : Streams) :
    Except SendError Unit × Streams :=
  if stream ∈ streams then
    (if fails stream then .error .sendFailed else .ok (), streams.erase stream)
  else (.ok (), streams)

/-! ## The manager -/

/-- A multiplex frame: its stream, if it names one. -/
structure Frame where
  stream : Option String
  payload : String
  deriving DecidableEq, Repr

/-- What a feed's queue holds. -/
inductive FeedItem where
  | frame (frame : Frame)
  | eof
  deriving DecidableEq, Repr

/-- The settings of a manager, and `str.upper`. -/
structure Settings where
  streamKinds : List String
  feedMaxsize : ℕ
  upper : String → String

/-- The manager and the streams of its client.  A feed is known by its number; `handed` are the
feeds callers hold, each with its symbol. -/
structure Manager where
  counts : String → ℕ := fun _ => 0
  feeds : String → List ℕ := fun _ => []
  queues : ℕ → List FeedItem := fun _ => []
  nextFeed : ℕ := 0
  streams : Streams := ∅
  handed : List (ℕ × String) := []

/-- `put_nowait`, which drops the oldest item of a full queue; a queue of size zero has no
bound. -/
def putItem (maxsize : ℕ) (item : FeedItem) (queue : List FeedItem) : List FeedItem :=
  if maxsize ≠ 0 ∧ maxsize ≤ queue.length then queue.tail ++ [item] else queue ++ [item]

/-- `dispatch`. -/
def dispatch (settings : Settings) (frame : Frame) (m : Manager) : Manager :=
  match frame.stream with
  | none => m
  | some stream =>
      if '@' ∉ stream.toList then m
      else
        let symbol := settings.upper (String.ofList (stream.toList.takeWhile (· ≠ '@')))
        { m with
          queues := (m.feeds symbol).foldl (fun queues feed =>
            Function.update queues feed
              (putItem settings.feedMaxsize (.frame frame) (queues feed))) m.queues }

/-- `_acquire`: the feed, unless a stream of the symbol could not be added. -/
def acquire (settings : Settings) (symbol : String) (fails : String → Bool) (m : Manager) :
    Except SendError ℕ × Manager :=
  let feed := m.nextFeed
  let taken : Manager :=
    { m with
      counts := Function.update m.counts symbol (m.counts symbol + 1)
      feeds := Function.update m.feeds symbol (m.feeds symbol ++ [feed])
      nextFeed := m.nextFeed + 1 }
  if m.counts symbol = 0 then
    let added := forEach (addStream fails) (settings.streamKinds.map (streamName symbol)) m.streams
    (added.1.map fun _ => feed, { taken with streams := added.2 })
  else (.ok feed, taken)

/-- `_release`. -/
def release (settings : Settings) (symbol : String) (feed : ℕ) (fails : String → Bool)
    (m : Manager) : Except SendError Unit × Manager :=
  if m.counts symbol = 0 then (.ok (), m)
  else
    let signalled : Manager :=
      { m with
        feeds := Function.update m.feeds symbol ((m.feeds symbol).erase feed)
        queues := Function.update m.queues feed
          (putItem settings.feedMaxsize .eof (m.queues feed)) }
    if 1 < m.counts symbol then
      (.ok (),
        { signalled with counts := Function.update m.counts symbol (m.counts symbol - 1) })
    else
      let removed := forEach (removeStream fails)
        (settings.streamKinds.map (streamName symbol)) m.streams
      (removed.1,
        { signalled with
          counts := Function.update m.counts symbol 0
          feeds := Function.update m.feeds symbol []
          streams := removed.2 })

/-! ## Callers -/

/-- What callers and the websocket do. -/
inductive Act where
  | acquires (symbol : String) (fails : String → Bool)
  | releases (feed : ℕ) (fails : String → Bool)
  | dispatches (frame : Frame)

/-- A caller enters a subscription and holds its feed if the acquire returned one, or leaves a
subscription it holds a feed of; a malformed symbol is refused. -/
def act (settings : Settings) : Act → Manager → Manager
  | .acquires symbol fails, m =>
      if ValidSymbol symbol then
        let acquired := acquire settings symbol fails m
        match acquired.1 with
        | .ok feed => { acquired.2 with handed := acquired.2.handed ++ [(feed, symbol)] }
        | .error _ => acquired.2
      else m
  | .releases feed fails, m =>
      match m.handed.lookup feed with
      | none => m
      | some symbol =>
          { (release settings symbol feed fails m).2 with
            handed := m.handed.erase (feed, symbol) }
  | .dispatches frame, m => dispatch settings frame m

/-! ## Names of streams -/

section Names

theorem toLower_toUpper {char : Char} (ascii : char.toNat < 128) :
    char.toLower.toUpper = char.toUpper := by
  have table : ∀ code < 128, (Char.ofNat code).toLower.toUpper = (Char.ofNat code).toUpper := by
    decide
  have at_char := table char.toNat ascii
  rwa [Char.ofNat_toNat] at at_char

theorem toLower_ne_at {char : Char} (ascii : char.toNat < 128) (alnum : char.isAlphanum = true) :
    char.toLower ≠ '@' := by
  have table : ∀ code < 128, (Char.ofNat code).isAlphanum = true →
      (Char.ofNat code).toLower ≠ '@' := by decide
  have at_char := table char.toNat ascii
  rw [Char.ofNat_toNat] at at_char
  exact at_char alnum

/-- The symbol of a stream's name. -/
theorem takeWhile_streamName {symbol kind : String} (valid : ValidSymbol symbol) :
    (streamName symbol kind).toList.takeWhile (· ≠ '@') = symbol.toList.map Char.toLower := by
  rw [streamName, String.toList_append, String.toList_append, String.toList_ofList,
    List.append_assoc, List.takeWhile_append_of_pos]
  · rw [show "@".toList = ['@'] from rfl]
    simp
  · intro lower member
    obtain ⟨char, listed, rfl⟩ := List.mem_map.mp member
    obtain ⟨ascii, alnum⟩ := valid.2.1 char listed
    simpa using toLower_ne_at ascii alnum

/-- Two symbols share no stream. -/
theorem streamName_ne {symbol other kind kind' : String} (valid : ValidSymbol symbol)
    (valid' : ValidSymbol other) (different : symbol ≠ other) :
    streamName symbol kind ≠ streamName other kind' := by
  intro same
  have lower : symbol.toList.map Char.toLower = other.toList.map Char.toLower := by
    rw [← takeWhile_streamName valid, ← takeWhile_streamName valid', same]
  have upper : ∀ name : String, ValidSymbol name →
      (name.toList.map Char.toLower).map Char.toUpper = name.toList := by
    intro name valid
    rw [List.map_map]
    calc name.toList.map (Char.toUpper ∘ Char.toLower) = name.toList.map Char.toUpper :=
          List.map_congr_left fun char member => toLower_toUpper (valid.2.1 char member).1
      _ = name.toList := valid.2.2
  refine different (String.toList_injective ?_)
  rw [← upper symbol valid, ← upper other valid', lower]

end Names

/-! ## The loops over the streams -/

section Loops

variable {fails : String → Bool} {names : List String} {streams : Streams}

/-- Every stream is added, if every frame that is needed is sent. -/
theorem forEach_addStream_ok_iff :
    (forEach (addStream fails) names streams).1 = .ok () ↔
      ∀ name ∈ names, name ∈ streams ∨ fails name = false := by
  induction names generalizing streams with
  | nil => simp [forEach]
  | cons name names ih =>
      rw [forEach_cons_ok_iff, ih, List.forall_mem_cons, addStream]
      by_cases known : name ∈ streams
      · simp [known]
      · cases failing : fails name with
        | true => simp [known]
        | false =>
            simp only [Bool.false_eq_true, if_false, known, true_and, false_or,
              Finset.mem_insert]
            refine forall₂_congr fun other _ => ?_
            constructor
            · rintro ((rfl | before) | sent)
              · exact .inr failing
              · exact .inl before
              · exact .inr sent
            · rintro (before | sent)
              · exact .inl (.inr before)
              · exact .inr sent

theorem addStream_snd (name : String) : (addStream fails name streams).2 = insert name streams := by
  rw [addStream]
  by_cases known : name ∈ streams
  · rw [if_pos known, Finset.insert_eq_self.mpr known]
  · rw [if_neg known]

theorem forEach_addStream_of_ok (ok : (forEach (addStream fails) names streams).1 = .ok ()) :
    (forEach (addStream fails) names streams).2 = streams ∪ names.toFinset := by
  induction names generalizing streams with
  | nil => simp [forEach]
  | cons name names ih =>
      obtain ⟨first, rest⟩ := forEach_cons_ok_iff.mp ok
      rw [forEach_cons_of_ok first, ih rest, addStream_snd, List.toFinset_cons,
        Finset.insert_union, Finset.union_insert]

theorem removeStream_snd (name : String) :
    (removeStream fails name streams).2 = streams.erase name := by
  rw [removeStream]
  by_cases known : name ∈ streams
  · rw [if_pos known]
  · rw [if_neg known, Finset.erase_eq_of_notMem known]

/-- Whether or not a frame is sent, what is removed was there, is one of the streams, and includes
the first of them. -/
theorem forEach_removeStream_subset :
    (forEach (removeStream fails) names streams).2 ⊆ streams :=
  forEach_invariant (fun left => left ⊆ streams)
    (fun name _ left within => by
      rw [removeStream_snd]
      exact (Finset.erase_subset name left).trans within) (Finset.Subset.refl streams)

theorem mem_forEach_removeStream {name : String} (other : name ∉ names) :
    name ∈ (forEach (removeStream fails) names streams).2 ↔ name ∈ streams := by
  refine forEach_invariant (fun left => name ∈ left ↔ name ∈ streams)
    (fun removed member left same => ?_) Iff.rfl
  have different : name ≠ removed := fun equal => other (equal ▸ member)
  rw [removeStream_snd, Finset.mem_erase, same]
  exact and_iff_right different

theorem head_notMem_forEach_removeStream {name : String} (first : name ∈ names.head?) :
    name ∉ (forEach (removeStream fails) names streams).2 := by
  obtain ⟨rest, rfl⟩ : ∃ rest, names = name :: rest := by
    cases names with
    | nil => cases first
    | cons head rest =>
        obtain rfl := Option.some.inj first
        exact ⟨rest, rfl⟩
  have gone : name ∉ (removeStream fails name streams).2 := by
    rw [removeStream_snd]
    exact Finset.notMem_erase name streams
  cases outcome : (removeStream fails name streams).1 with
  | error raised =>
      rw [forEach_cons_of_error outcome]
      exact gone
  | ok _ =>
      rw [forEach_cons_of_ok outcome]
      exact fun member => gone (forEach_removeStream_subset member)

end Loops

/-! ## The counts -/

/-- The count of a symbol is the number of its feeds that callers hold, and the client is
subscribed to all streams of a symbol exactly while it is positive. -/
structure Accounted (settings : Settings) (m : Manager) : Prop where
  counted : ∀ symbol, m.counts symbol = m.handed.countP (·.2 = symbol)
  subscribed : ∀ symbol, ValidSymbol symbol →
    ((∀ kind ∈ settings.streamKinds, streamName symbol kind ∈ m.streams) ↔ 0 < m.counts symbol)

/-- What keeps it so: while a symbol has no count, its first stream is not subscribed. -/
structure Balanced (settings : Settings) (m : Manager) : Prop where
  counted : ∀ symbol, m.counts symbol = m.handed.countP (·.2 = symbol)
  valid : ∀ symbol, 0 < m.counts symbol → ValidSymbol symbol
  subscribed : ∀ symbol, 0 < m.counts symbol →
    ∀ kind ∈ settings.streamKinds, streamName symbol kind ∈ m.streams
  unsubscribed : ∀ symbol, ValidSymbol symbol → m.counts symbol = 0 →
    ∀ kind ∈ settings.streamKinds.head?, streamName symbol kind ∉ m.streams

/-- No frame is lost by an acquire that takes the count of its symbol from zero. -/
def FirstAcquireSends (settings : Settings) (m : Manager) : Act → Prop
  | .acquires symbol fails => ValidSymbol symbol → m.counts symbol = 0 →
      ∀ kind ∈ settings.streamKinds,
        streamName symbol kind ∈ m.streams ∨ fails (streamName symbol kind) = false
  | .releases _ _ | .dispatches _ => True

section Counts

variable {settings : Settings} {m : Manager} {symbol : String} {fails : String → Bool}

theorem Balanced.initial : Balanced settings {} where
  counted := fun _ => rfl
  valid := fun _ positive => absurd positive (lt_irrefl 0)
  subscribed := fun _ positive => absurd positive (lt_irrefl 0)
  unsubscribed := fun _ _ _ _ _ => Finset.notMem_empty _

theorem Balanced.accounted (balanced : Balanced settings m)
    (some_kind : settings.streamKinds ≠ []) : Accounted settings m := by
  obtain ⟨kind, kinds, split⟩ := List.exists_cons_of_ne_nil some_kind
  refine ⟨balanced.counted, fun symbol valid => ⟨fun all => ?_, balanced.subscribed symbol⟩⟩
  by_contra zero
  have first : kind ∈ settings.streamKinds.head? := by rw [split]; rfl
  exact balanced.unsubscribed symbol valid (Nat.eq_zero_of_not_pos zero) kind first
    (all kind (by rw [split]; exact List.mem_cons_self))

theorem forEach_addStream_kinds_ok_iff {streams : Streams} :
    (forEach (addStream fails) (settings.streamKinds.map (streamName symbol)) streams).1 = .ok () ↔
      ∀ kind ∈ settings.streamKinds,
        streamName symbol kind ∈ streams ∨ fails (streamName symbol kind) = false := by
  rw [forEach_addStream_ok_iff, List.forall_mem_map]

/-- An acquire that returns: one more count, and at the first the streams. -/
theorem Balanced.acquires (balanced : Balanced settings m) (valid : ValidSymbol symbol)
    (sends : m.counts symbol = 0 → ∀ kind ∈ settings.streamKinds,
      streamName symbol kind ∈ m.streams ∨ fails (streamName symbol kind) = false) :
    Balanced settings (act settings (.acquires symbol fails) m) := by
  have held : ∀ other, Function.update m.counts symbol (m.counts symbol + 1) other =
      (m.handed ++ [(m.nextFeed, symbol)]).countP (·.2 = other) := by
    intro other
    rw [List.countP_append, ← balanced.counted other]
    by_cases same : symbol = other
    · subst same
      simp
    · simp [Function.update_of_ne (Ne.symm same), same]
  have positive : ∀ other, 0 < Function.update m.counts symbol (m.counts symbol + 1) other →
      other = symbol ∨ 0 < m.counts other := by
    intro other counts
    by_cases same : other = symbol
    · exact .inl same
    · rw [Function.update_of_ne same] at counts
      exact .inr counts
  by_cases first : m.counts symbol = 0
  · have ok := forEach_addStream_kinds_ok_iff.mpr (sends first)
    have streams := forEach_addStream_of_ok ok
    rw [act, if_pos valid]
    simp only [acquire, if_pos first, ok, Except.map]
    refine ⟨held, fun other counts => ?_, fun other counts kind listed => ?_,
      fun other validOther zero kind listed => ?_⟩
    · rcases positive other counts with rfl | before
      · exact valid
      · exact balanced.valid other before
    · simp only [streams, Finset.mem_union, List.mem_toFinset]
      rcases positive other counts with rfl | before
      · exact .inr (List.mem_map_of_mem listed)
      · exact .inl (balanced.subscribed other before kind listed)
    · have different : other ≠ symbol := by
        rintro rfl
        simp at zero
      simp only [Function.update_of_ne different] at zero
      simp only [streams, Finset.mem_union, List.mem_toFinset, not_or]
      refine ⟨balanced.unsubscribed other validOther zero kind listed, fun member => ?_⟩
      obtain ⟨kind', -, same⟩ := List.mem_map.mp member
      exact streamName_ne validOther valid different same.symm
  · rw [act, if_pos valid]
    simp only [acquire, if_neg first]
    refine ⟨held, fun other counts => ?_, fun other counts => ?_, fun other validOther zero => ?_⟩
    · rcases positive other counts with rfl | before
      · exact valid
      · exact balanced.valid other before
    · rcases positive other counts with rfl | before
      · exact balanced.subscribed other (Nat.pos_of_ne_zero first)
      · exact balanced.subscribed other before
    · have different : other ≠ symbol := by
        rintro rfl
        simp at zero
      simp only [Function.update_of_ne different] at zero
      exact balanced.unsubscribed other validOther zero

/-- The feeds held of a symbol after one is given back. -/
theorem Balanced.countP_erase (balanced : Balanced settings m) {feed : ℕ}
    (member : (feed, symbol) ∈ m.handed) (other : String) :
    (m.handed.erase (feed, symbol)).countP (·.2 = other) =
      m.counts other - if symbol = other then 1 else 0 := by
  rw [List.countP_erase, ← balanced.counted other]
  simp [member]

/-- A release that leaves a count. -/
theorem Balanced.releases_one (balanced : Balanced settings m) {feed : ℕ}
    (member : (feed, symbol) ∈ m.handed) (more : 1 < m.counts symbol) :
    Balanced settings { m with
      counts := Function.update m.counts symbol (m.counts symbol - 1)
      handed := m.handed.erase (feed, symbol) } := by
  have positive : ∀ other, 0 < Function.update m.counts symbol (m.counts symbol - 1) other ↔
      0 < m.counts other := by
    intro other
    by_cases same : other = symbol
    · subst same
      rw [Function.update_self]
      omega
    · rw [Function.update_of_ne same]
  refine ⟨fun other => ?_, fun other counts => balanced.valid other ((positive other).mp counts),
    fun other counts => balanced.subscribed other ((positive other).mp counts),
    fun other validOther zero => balanced.unsubscribed other validOther ?_⟩
  · rw [balanced.countP_erase member]
    by_cases same : other = symbol
    · subst same
      simp
    · simp [Function.update_of_ne same, Ne.symm same]
  · exact Nat.eq_zero_of_not_pos fun counts => zero.not_gt ((positive other).mpr counts)

/-- The release of the last count removes the streams of the symbol. -/
theorem Balanced.releases_last (balanced : Balanced settings m) {feed : ℕ}
    (member : (feed, symbol) ∈ m.handed) (last : m.counts symbol = 1) (fails : String → Bool) :
    Balanced settings { m with
      counts := Function.update m.counts symbol 0
      streams := (forEach (removeStream fails)
        (settings.streamKinds.map (streamName symbol)) m.streams).2
      handed := m.handed.erase (feed, symbol) } := by
  have valid := balanced.valid symbol (last ▸ Nat.one_pos)
  have others : ∀ other, 0 < Function.update m.counts symbol 0 other →
      other ≠ symbol ∧ 0 < m.counts other := by
    intro other counts
    have different : other ≠ symbol := by
      rintro rfl
      simp at counts
    rw [Function.update_of_ne different] at counts
    exact ⟨different, counts⟩
  refine ⟨fun other => ?_, fun other counts => balanced.valid other (others other counts).2,
    fun other counts kind listed => ?_, fun other validOther zero kind listed => ?_⟩
  · rw [balanced.countP_erase member]
    by_cases same : other = symbol
    · subst same
      simp [last]
    · simp [Function.update_of_ne same, Ne.symm same]
  · obtain ⟨different, counts⟩ := others other counts
    refine (mem_forEach_removeStream ?_).mpr (balanced.subscribed other counts kind listed)
    intro member
    obtain ⟨kind', -, same⟩ := List.mem_map.mp member
    exact streamName_ne (balanced.valid other counts) valid different same.symm
  · by_cases same : other = symbol
    · subst same
      refine head_notMem_forEach_removeStream ?_
      rw [List.head?_map]
      exact Option.mem_map_of_mem _ listed
    · simp only [Function.update_of_ne same] at zero
      exact fun member => balanced.unsubscribed other validOther zero kind listed
        (forEach_removeStream_subset member)

/-- A release, whether or not its frames are sent. -/
theorem Balanced.releases (balanced : Balanced settings m) (feed : ℕ) (fails : String → Bool) :
    Balanced settings (act settings (.releases feed fails) m) := by
  rw [act]
  split
  · exact balanced
  rename_i symbol held
  obtain ⟨before, after, split, -⟩ := List.lookup_eq_some_iff.mp held
  have member : (feed, symbol) ∈ m.handed := by
    rw [split]
    exact List.mem_append_right before List.mem_cons_self
  have some_count : 0 < m.counts symbol := by
    rw [balanced.counted symbol]
    exact List.countP_pos_iff.mpr ⟨_, member, by simp⟩
  simp only [release, if_neg some_count.ne']
  split_ifs with more
  · have left := balanced.releases_one member more
    exact ⟨left.counted, left.valid, left.subscribed, left.unsubscribed⟩
  · have left := balanced.releases_last member (by omega) fails
    exact ⟨left.counted, left.valid, left.subscribed, left.unsubscribed⟩

theorem Balanced.dispatches (balanced : Balanced settings m) (frame : Frame) :
    Balanced settings (act settings (.dispatches frame) m) := by
  rw [act, dispatch]
  split
  · exact balanced
  · rename_i stream _
    by_cases named : '@' ∈ stream.toList
    · rw [if_neg (not_not.mpr named)]
      exact ⟨balanced.counted, balanced.valid, balanced.subscribed, balanced.unsubscribed⟩
    · rw [if_pos named]
      exact balanced

/-- Every act keeps the counts, if a first acquire sends its frames. -/
theorem Balanced.act (balanced : Balanced settings m) (next : Act)
    (sends : FirstAcquireSends settings m next) : Balanced settings (act settings next m) := by
  cases next with
  | acquires symbol fails =>
      by_cases valid : ValidSymbol symbol
      · exact balanced.acquires valid (sends valid)
      · rw [Market.act, if_neg valid]
        exact balanced
  | releases feed fails => exact balanced.releases feed fails
  | dispatches frame => exact balanced.dispatches frame

/-- A first acquire that loses a frame leaves a count and hands out no feed. -/
theorem act_acquires_of_error (valid : ValidSymbol symbol) (first : m.counts symbol = 0)
    {raised : SendError} (lost : (forEach (addStream fails)
      (settings.streamKinds.map (streamName symbol)) m.streams).1 = .error raised) :
    (Market.act settings (.acquires symbol fails) m).counts symbol = 1 ∧
      (Market.act settings (.acquires symbol fails) m).handed = m.handed := by
  rw [Market.act, if_pos valid]
  simp only [acquire, if_pos first, lost, Except.map, Function.update_self]
  exact ⟨congrArg (· + 1) first, trivial⟩

theorem firstAcquireSends_of_accounted (balanced : Balanced settings m) (next : Act)
    (accounted : Accounted settings (Market.act settings next m)) :
    FirstAcquireSends settings m next := by
  cases next with
  | acquires symbol fails =>
      intro valid first
      refine forEach_addStream_kinds_ok_iff.mp ?_
      cases outcome : (forEach (addStream fails)
          (settings.streamKinds.map (streamName symbol)) m.streams).1 with
      | ok _ => rfl
      | error raised =>
          obtain ⟨one, handed⟩ := act_acquires_of_error valid first outcome
          have counted := accounted.counted symbol
          rw [one, handed, ← balanced.counted symbol, first] at counted
          cases counted
  | releases | dispatches => trivial

end Counts

/-- **When the counts are right.** In every run of acquires, releases and dispatches, with any of
the frames lost, the count of every symbol is the number of its feeds that callers hold and the
client is subscribed to all its streams exactly while the count is positive, at every point of the
run, exactly when there are streams to subscribe to and no acquire that takes a count from zero
loses a frame. -/
theorem accounted_iff (settings : Settings) (acts : List Act) :
    (∀ done, done <+: acts → Accounted settings (run (act settings) {} done)) ↔
      settings.streamKinds ≠ [] ∧
        RunGuarded (FirstAcquireSends settings) (act settings) {} acts := by
  by_cases some_kind : settings.streamKinds = []
  · refine iff_of_false (fun throughout => ?_) fun both => both.1 some_kind
    have subscribed := (throughout [] List.nil_prefix).subscribed "A" (by decide)
    rw [some_kind] at subscribed
    exact absurd (subscribed.mp (by simp)) (lt_irrefl 0)
  · rw [runGuarded_iff_throughout (Balanced settings) (Accounted settings)
      (fun m balanced => balanced.accounted some_kind)
      (fun m next balanced sends => balanced.act next sends)
      (fun m next balanced accounted => firstAcquireSends_of_accounted balanced next accounted)
      acts Balanced.initial]
    exact ⟨fun throughout => ⟨some_kind, throughout⟩, fun both => both.2⟩

/-! ## A lost frame -/

/-- The settings of the service. -/
def defaultSettings : Settings where
  streamKinds := ["kline_1m", "bookTicker"]
  feedMaxsize := 1024
  upper := fun symbol => String.ofList (symbol.toList.map Char.toUpper)

/-- A first acquire loses its first frame; the next one finds a count and subscribes nothing. -/
def lostRun : List Act :=
  [.acquires "BTCUSDT" fun stream => stream = "btcusdt@kline_1m",
   .acquires "BTCUSDT" fun _ => false]

/-- The caller of the second acquire waits for book tickers that are not subscribed. -/
theorem secondKind_missing :
    ¬ ∀ (settings : Settings) (acts : List Act), settings.streamKinds ≠ [] →
      Accounted settings (run (act settings) {} acts) := by
  intro always
  have accounted := always defaultSettings lostRun (by decide)
  have positive : 0 < (run (act defaultSettings) {} lostRun).counts "BTCUSDT" := by decide +kernel
  have subscribed := (accounted.subscribed "BTCUSDT" (by decide)).mpr positive "bookTicker"
    (by decide)
  have missing : streamName "BTCUSDT" "bookTicker" ∉
      (run (act defaultSettings) {} lostRun).streams := by decide +kernel
  exact missing subscribed

end Scalper.Market
