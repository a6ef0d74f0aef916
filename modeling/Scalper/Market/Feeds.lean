import Scalper.Lib.Window
import Scalper.Market.Subscription

/-!
# Reading the feeds

`SymbolFeed` of `packages/market/subscription.py`: an iterator over the frames of one symbol.  The
manager puts each frame on the queue of every feed of its symbol and drops the oldest of a full one;
the iterator takes the oldest, waits at an empty queue, and ends at the marker that a release puts
behind the frames.

What a feed has not read are the frames dispatched after the last one it yielded, and its queue
holds the newest of these, as many as fit (`Following`).  After the release nothing is added any
more, so that reading comes to the marker (`Draining`).  `feeds_bounded` puts this together for
every order of the steps, with what one feed reads hidden from the others.
-/

set_option autoImplicit false

namespace Scalper.Market

open Scalper.Lib

/-! ## Reading -/

/-- The manager, with what the iterators of the feeds have yielded and which of them have ended. -/
structure Feeds where
  manager : Manager := {}
  yielded : ℕ → List Frame := fun _ => []
  ended : ℕ → Bool := fun _ => false

/-- What happens: to the manager, or at an iterator. -/
inductive FeedStep where
  | acts (act : Act)
  | reads (feed : ℕ)

/-- `SymbolFeed.__anext__`; at an empty queue it waits. -/
def anext (feed : ℕ) (s : Feeds) : Feeds :=
  match s.manager.queues feed with
  | [] => s
  | .frame frame :: rest =>
      { s with
        manager := { s.manager with queues := Function.update s.manager.queues feed rest }
        yielded := Function.update s.yielded feed (s.yielded feed ++ [frame]) }
  | .eof :: rest =>
      { s with
        manager := { s.manager with queues := Function.update s.manager.queues feed rest }
        ended := Function.update s.ended feed true }

def feedStep (settings : Settings) : FeedStep → Feeds → Feeds
  | .acts next, s => { s with manager := act settings next s.manager }
  | .reads feed, s => anext feed s

/-! ## Frames of a symbol -/

/-- The symbol a frame is routed to. -/
def routed (settings : Settings) (frame : Frame) : Option String :=
  frame.stream.bind fun stream =>
    if '@' ∈ stream.toList then
      some (settings.upper (String.ofList (stream.toList.takeWhile (· ≠ '@'))))
    else none

/-- The frame of the symbol that a step dispatches. -/
def FeedStep.dispatchedTo (settings : Settings) (symbol : String) : FeedStep → List Frame
  | .acts (.dispatches frame) => if routed settings frame = some symbol then [frame] else []
  | .acts (.acquires _ _) | .acts (.releases _ _) | .reads _ => []

/-- The frames of the symbol that are dispatched, in order. -/
def dispatchedTo (settings : Settings) (symbol : String) (steps : List FeedStep) : List Frame :=
  steps.flatMap (·.dispatchedTo settings symbol)

/-- The step is a read of the feed. -/
def FeedStep.isRead (feed : ℕ) : FeedStep → Bool
  | .reads other => other = feed
  | .acts _ => false

/-- The step is a release of the feed. -/
def FeedStep.Releases (feed : ℕ) : FeedStep → Prop
  | .acts (.releases other _) => other = feed
  | .acts (.acquires _ _) | .acts (.dispatches _) | .reads _ => False

section Dispatch

variable {settings : Settings} {frame : Frame} {m : Manager}

theorem dispatch_eq : dispatch settings frame m =
    match routed settings frame with
    | none => m
    | some symbol =>
        { m with
          queues := (m.feeds symbol).foldl (fun queues feed => Function.update queues feed
            (putItem settings.feedMaxsize (.frame frame) (queues feed))) m.queues } := by
  cases named : frame.stream with
  | none => simp [dispatch, routed, named]
  | some stream =>
      by_cases multiplexed : '@' ∈ stream.toList
      · simp [dispatch, routed, named, multiplexed]
      · simp [dispatch, routed, named, multiplexed]

/-- What a loop over the feeds makes of each queue. -/
theorem foldl_update_apply (change : List FeedItem → List FeedItem) (feeds : List ℕ)
    (distinct : feeds.Nodup) (queues : ℕ → List FeedItem) (feed : ℕ) :
    feeds.foldl (fun queues feed => Function.update queues feed (change (queues feed)))
        queues feed =
      if feed ∈ feeds then change (queues feed) else queues feed := by
  induction feeds generalizing queues with
  | nil => rfl
  | cons first feeds ih =>
      rw [List.nodup_cons] at distinct
      rw [List.foldl_cons, ih distinct.2]
      by_cases here : feed = first
      · subst here
        rw [if_neg distinct.1, if_pos List.mem_cons_self, Function.update_self]
      · simp only [Function.update_of_ne here, List.mem_cons, here, false_or]

end Dispatch

/-! ## What an act does -/

/-- Every count is the number of feeds, a feed belongs to one symbol and to at most one caller, and
a number that was not given out yet has no queue. -/
structure Owned (m : Manager) : Prop where
  counted : ∀ symbol, m.counts symbol = (m.feeds symbol).length
  distinct : ∀ symbol, (m.feeds symbol).Nodup
  apart : ∀ symbol other feed, feed ∈ m.feeds symbol → feed ∈ m.feeds other → symbol = other
  issued : ∀ symbol, ∀ feed ∈ m.feeds symbol, feed < m.nextFeed
  held : ∀ feed symbol, (feed, symbol) ∈ m.handed → feed ∈ m.feeds symbol
  once : (m.handed.map Prod.fst).Nodup
  unused : ∀ feed, m.nextFeed ≤ feed → m.queues feed = []

/-- Everything an act does to the manager. -/
inductive Acted (settings : Settings) (m : Manager) : Act → Manager → Prop where
  | refused (symbol : String) (fails : String → Bool) :
      Acted settings m (.acquires symbol fails) m
  | acquired (symbol : String) (fails : String → Bool) (streams : Streams)
      (handed : List (ℕ × String))
      (outcome : handed = m.handed ++ [(m.nextFeed, symbol)] ∨
        handed = m.handed ∧ (acquire settings symbol fails m).1 ≠ .ok m.nextFeed) :
      Acted settings m (.acquires symbol fails)
        { m with
          counts := Function.update m.counts symbol (m.counts symbol + 1)
          feeds := Function.update m.feeds symbol (m.feeds symbol ++ [m.nextFeed])
          nextFeed := m.nextFeed + 1
          streams := streams
          handed := handed }
  | unknown (feed : ℕ) (fails : String → Bool) (absent : m.handed.lookup feed = none) :
      Acted settings m (.releases feed fails) m
  | released (feed : ℕ) (symbol : String) (fails : String → Bool) (streams : Streams)
      (known : (feed, symbol) ∈ m.handed) :
      Acted settings m (.releases feed fails)
        { m with
          counts := Function.update m.counts symbol (m.counts symbol - 1)
          feeds := Function.update m.feeds symbol ((m.feeds symbol).erase feed)
          queues := Function.update m.queues feed
            (putItem settings.feedMaxsize .eof (m.queues feed))
          streams := streams
          handed := m.handed.erase (feed, symbol) }
  | ignored (frame : Frame) (unnamed : routed settings frame = none) :
      Acted settings m (.dispatches frame) m
  | dispatched (frame : Frame) (symbol : String) (named : routed settings frame = some symbol) :
      Acted settings m (.dispatches frame)
        { m with
          queues := fun feed =>
            if feed ∈ m.feeds symbol then
              putItem settings.feedMaxsize (.frame frame) (m.queues feed)
            else m.queues feed }

section Acted

variable {settings : Settings} {m : Manager}

theorem mem_feeds_acquired {feeds : String → List ℕ} {symbol other : String} {new feed : ℕ} :
    feed ∈ Function.update feeds symbol (feeds symbol ++ [new]) other ↔
      feed ∈ feeds other ∨ (other = symbol ∧ feed = new) := by
  by_cases same : other = symbol
  · subst same
    simp
  · simp [same]

theorem mem_feeds_released {feeds : String → List ℕ} (distinct : ∀ symbol, (feeds symbol).Nodup)
    {symbol other : String} {gone feed : ℕ} :
    feed ∈ Function.update feeds symbol ((feeds symbol).erase gone) other ↔
      feed ∈ feeds other ∧ ¬ (other = symbol ∧ feed = gone) := by
  by_cases same : other = symbol
  · subst same
    rw [Function.update_self, (distinct other).mem_erase_iff]
    simp [and_comm]
  · simp [same]

theorem acquire_fst {symbol : String} {fails : String → Bool} {feed : ℕ}
    (acquired : (acquire settings symbol fails m).1 = .ok feed) : feed = m.nextFeed := by
  rw [acquire] at acquired
  split_ifs at acquired with first
  · cases added : (forEach (addStream fails)
        (settings.streamKinds.map (streamName symbol)) m.streams).1 with
    | error raised => simp [added, Except.map] at acquired
    | ok _ =>
        simp only [added, Except.map, Except.ok.injEq] at acquired
        exact acquired.symm
  · exact (Except.ok.inj acquired).symm

theorem acquire_snd (symbol : String) (fails : String → Bool) :
    ∃ streams, (acquire settings symbol fails m).2 =
      { m with
        counts := Function.update m.counts symbol (m.counts symbol + 1)
        feeds := Function.update m.feeds symbol (m.feeds symbol ++ [m.nextFeed])
        nextFeed := m.nextFeed + 1
        streams := streams } := by
  rw [acquire]
  split_ifs with first
  · exact ⟨_, rfl⟩
  · exact ⟨m.streams, rfl⟩

/-- The last feed of a symbol is the only one, so that forgetting the feeds is taking it out. -/
theorem Owned.release_snd (settings : Settings) (owned : Owned m) {symbol : String} {feed : ℕ}
    (member : feed ∈ m.feeds symbol) (fails : String → Bool) :
    ∃ streams, (release settings symbol feed fails m).2 =
      { m with
        counts := Function.update m.counts symbol (m.counts symbol - 1)
        feeds := Function.update m.feeds symbol ((m.feeds symbol).erase feed)
        queues := Function.update m.queues feed
          (putItem settings.feedMaxsize .eof (m.queues feed))
        streams := streams } := by
  have positive : 0 < m.counts symbol := by
    rw [owned.counted symbol]
    exact List.length_pos_of_mem member
  rw [release, if_neg positive.ne']
  split_ifs with more
  · exact ⟨m.streams, rfl⟩
  · have last : m.counts symbol - 1 = 0 := by omega
    have none : (m.feeds symbol).erase feed = [] := by
      rw [← List.length_eq_zero_iff, List.length_erase_of_mem member, ← owned.counted symbol, last]
    refine ⟨(forEach (removeStream fails)
      (settings.streamKinds.map (streamName symbol)) m.streams).2, ?_⟩
    rw [last, none]

theorem Owned.acted (settings : Settings) (owned : Owned m) (next : Act) :
    Acted settings m next (act settings next m) := by
  cases next with
  | acquires symbol fails =>
      by_cases valid : ValidSymbol symbol
      · obtain ⟨streams, taken⟩ := @acquire_snd settings m symbol fails
        rw [act, if_pos valid]
        dsimp only
        rw [taken]
        cases outcome : (acquire settings symbol fails m).1 with
        | ok feed =>
            obtain rfl := acquire_fst outcome
            exact .acquired symbol fails streams _ (.inl rfl)
        | error raised =>
            exact .acquired symbol fails streams _ (.inr ⟨rfl, by simp [outcome]⟩)
      · rw [act, if_neg valid]
        exact .refused symbol fails
  | releases feed fails =>
      rw [act]
      cases known : m.handed.lookup feed with
      | none => exact .unknown feed fails known
      | some symbol =>
          obtain ⟨before, after, split, -⟩ := List.lookup_eq_some_iff.mp known
          have member : (feed, symbol) ∈ m.handed := by
            rw [split]
            exact List.mem_append_right before List.mem_cons_self
          obtain ⟨streams, left⟩ :=
            owned.release_snd settings (owned.held feed symbol member) fails
          dsimp only
          rw [left]
          exact .released feed symbol fails streams member
  | dispatches frame =>
      rw [act, dispatch_eq]
      cases named : routed settings frame with
      | none => exact .ignored frame named
      | some symbol =>
          have each : (m.feeds symbol).foldl (fun queues feed => Function.update queues feed
              (putItem settings.feedMaxsize (.frame frame) (queues feed))) m.queues =
              fun feed => if feed ∈ m.feeds symbol then
                putItem settings.feedMaxsize (.frame frame) (m.queues feed) else m.queues feed := by
            funext feed
            exact foldl_update_apply _ _ (owned.distinct symbol) m.queues feed
          dsimp only
          rw [each]
          exact .dispatched frame symbol named

theorem Owned.initial : Owned {} where
  counted := fun _ => rfl
  distinct := fun _ => List.nodup_nil
  apart := by intro symbol other feed member; cases member
  issued := by intro symbol feed member; cases member
  held := by intro feed symbol member; cases member
  once := List.nodup_nil
  unused := fun _ _ => rfl

/-- A new feed belongs to the symbol it was acquired for. -/
theorem Owned.acquired (owned : Owned m) (symbol : String) (streams : Streams)
    {handed : List (ℕ × String)}
    (outcome : handed = m.handed ++ [(m.nextFeed, symbol)] ∨ handed = m.handed) :
    Owned { m with
      counts := Function.update m.counts symbol (m.counts symbol + 1)
      feeds := Function.update m.feeds symbol (m.feeds symbol ++ [m.nextFeed])
      nextFeed := m.nextFeed + 1
      streams := streams
      handed := handed } := by
  have fresh : ∀ other, m.nextFeed ∉ m.feeds other := fun other member =>
    lt_irrefl _ (owned.issued other _ member)
  have unheld : m.nextFeed ∉ m.handed.map Prod.fst := by
    intro member
    obtain ⟨⟨feed, other⟩, listed, same⟩ := List.mem_map.mp member
    exact fresh other (same ▸ owned.held feed other listed)
  constructor
  case counted =>
    intro other
    by_cases same : other = symbol
    · subst same
      simp only [Function.update_self, List.length_append, List.length_singleton,
        owned.counted other]
    · simp only [Function.update_of_ne same, owned.counted other]
  case distinct =>
    intro other
    by_cases same : other = symbol
    · subst same
      simp only [Function.update_self, ← List.concat_eq_append]
      exact (owned.distinct other).concat (fresh other)
    · simp only [Function.update_of_ne same]
      exact owned.distinct other
  case apart =>
    intro one other feed first second
    rcases mem_feeds_acquired.mp first with old | ⟨rfl, rfl⟩
    · rcases mem_feeds_acquired.mp second with old' | ⟨rfl, rfl⟩
      · exact owned.apart one other feed old old'
      · exact absurd old (fresh one)
    · rcases mem_feeds_acquired.mp second with old' | ⟨rfl, _⟩
      · exact absurd old' (fresh other)
      · rfl
  case issued =>
    intro other feed member
    rcases mem_feeds_acquired.mp member with old | ⟨_, rfl⟩
    · exact (owned.issued other feed old).trans (Nat.lt_succ_self _)
    · exact Nat.lt_succ_self _
  case held =>
    intro feed other member
    rw [mem_feeds_acquired]
    rcases outcome with rfl | rfl
    · rcases List.mem_append.mp member with old | new
      · exact .inl (owned.held feed other old)
      · obtain ⟨rfl, rfl⟩ := Prod.mk.inj (List.mem_singleton.mp new)
        exact .inr ⟨rfl, rfl⟩
    · exact .inl (owned.held feed other member)
  case once =>
    rcases outcome with rfl | rfl
    · rw [List.map_append, List.map_singleton, ← List.concat_eq_append]
      exact owned.once.concat unheld
    · exact owned.once
  case unused => exact fun feed unissued => owned.unused feed (Nat.le_of_succ_le unissued)

/-- A released feed belongs to nobody, whatever its queue holds. -/
theorem Owned.released (owned : Owned m) {feed : ℕ} {symbol : String}
    (known : (feed, symbol) ∈ m.handed) (queue : List FeedItem) (streams : Streams) :
    Owned { m with
      counts := Function.update m.counts symbol (m.counts symbol - 1)
      feeds := Function.update m.feeds symbol ((m.feeds symbol).erase feed)
      queues := Function.update m.queues feed queue
      streams := streams
      handed := m.handed.erase (feed, symbol) } := by
  have member := owned.held feed symbol known
  constructor
  case counted =>
    intro other
    by_cases same : other = symbol
    · subst same
      simp only [Function.update_self, List.length_erase_of_mem member, owned.counted other]
    · simp only [Function.update_of_ne same, owned.counted other]
  case distinct =>
    intro other
    by_cases same : other = symbol
    · subst same
      simp only [Function.update_self]
      exact (owned.distinct other).erase feed
    · simp only [Function.update_of_ne same]
      exact owned.distinct other
  case apart =>
    intro one other feed' first second
    exact owned.apart one other feed' ((mem_feeds_released owned.distinct).mp first).1
      ((mem_feeds_released owned.distinct).mp second).1
  case issued =>
    intro other feed' listed
    exact owned.issued other feed' ((mem_feeds_released owned.distinct).mp listed).1
  case held =>
    intro feed' other listed
    refine (mem_feeds_released owned.distinct).mpr
      ⟨owned.held feed' other (List.mem_of_mem_erase listed), ?_⟩
    rintro ⟨rfl, rfl⟩
    exact List.Nodup.not_mem_erase (owned.once.of_map _) listed
  case once => exact owned.once.sublist (List.erase_sublist.map _)
  case unused =>
    intro other unissued
    have different : other ≠ feed := by
      rintro rfl
      exact (owned.issued symbol other member).not_ge unissued
    simp only [Function.update_of_ne different]
    exact owned.unused other unissued

theorem Owned.act (owned : Owned m) (next : Act) : Owned (act settings next m) := by
  have acted := owned.acted settings next
  generalize Market.act settings next m = m' at acted ⊢
  cases acted with
  | refused | unknown | ignored => exact owned
  | acquired symbol _ streams _ outcome =>
      exact owned.acquired symbol streams (outcome.imp_right And.left)
  | released _ _ _ streams known => exact owned.released known _ streams
  | dispatched frame symbol named =>
      refine ⟨owned.counted, owned.distinct, owned.apart, owned.issued, owned.held, owned.once,
        fun feed unissued => ?_⟩
      have absent : feed ∉ m.feeds symbol := fun member =>
        (owned.issued symbol feed member).not_ge unissued
      dsimp only
      rw [if_neg absent]
      exact owned.unused feed unissued

end Acted

/-! ## What a feed has before it -/

/-- The frames not read yet are those after the last one that was, and the queue holds the newest of
them. -/
def Waits (maxsize : ℕ) (dispatched yielded : List Frame) (queue : List FeedItem) : Prop :=
  ∃ passed waiting, dispatched = passed ++ waiting ∧
    queue = (waiting.rtake maxsize).map FeedItem.frame ∧
    yielded.Sublist passed ∧ yielded.getLast? = passed.getLast?

/-- After its release a feed has what was left before it, and the marker behind that; `earlier` was
yielded before, and `reads` is how often the iterator was asked since. -/
def Drains (maxsize : ℕ) (earlier dispatched : List Frame) (reads : ℕ) (yielded : List Frame)
    (ended : Bool) (queue : List FeedItem) : Prop :=
  ∃ further remaining, yielded = earlier ++ further ∧
    (yielded ++ remaining).Sublist dispatched ∧ further.length + remaining.length < maxsize ∧
    ((ended = false ∧ queue = remaining.map FeedItem.frame ++ [.eof] ∧ reads = further.length) ∨
      (ended = true ∧ queue = [] ∧ remaining = [] ∧ further.length < reads))

section Queues

variable {maxsize reads : ℕ} {earlier dispatched yielded : List Frame} {queue rest : List FeedItem}
  {item : FeedItem} {ended : Bool}

/-- What fits of the frames and one more. -/
theorem putItem_frame (bounded : 1 ≤ maxsize) (waiting : List Frame) (frame : Frame) :
    putItem maxsize (.frame frame) ((waiting.rtake maxsize).map FeedItem.frame) =
      ((waiting ++ [frame]).rtake maxsize).map FeedItem.frame := by
  have length := length_rtake maxsize waiting
  rw [putItem, rtake_concat, List.length_map]
  split_ifs with full room room
  · omega
  · have nonempty : waiting.rtake maxsize ≠ [] := by
      rw [← List.length_pos_iff]
      omega
    rw [List.tail_append_of_ne_nil nonempty, List.map_append, List.map_tail, List.map_singleton]
  · rw [List.map_append, List.map_singleton]
  · omega

theorem Waits.put (waits : Waits maxsize dispatched yielded queue) (bounded : 1 ≤ maxsize)
    (frame : Frame) :
    Waits maxsize (dispatched ++ [frame]) yielded (putItem maxsize (.frame frame) queue) := by
  obtain ⟨passed, waiting, rfl, rfl, inOrder, last⟩ := waits
  exact ⟨passed, waiting ++ [frame], List.append_assoc .., putItem_frame bounded waiting frame,
    inOrder, last⟩

/-- The oldest frame is taken; what was dropped before it is passed with it. -/
theorem Waits.take (waits : Waits maxsize dispatched yielded (item :: rest)) :
    ∃ frame, item = .frame frame ∧ Waits maxsize dispatched (yielded ++ [frame]) rest := by
  obtain ⟨passed, waiting, rfl, holds, inOrder, last⟩ := waits
  obtain ⟨frame, kept, held, rfl, rfl⟩ := List.map_eq_cons_iff.mp holds.symm
  have split : waiting = waiting.take (waiting.length - maxsize) ++ frame :: kept := by
    rw [← held, List.rtake, List.take_append_drop]
  have fits : kept.length ≤ maxsize := by
    have length := length_rtake maxsize waiting
    rw [held, List.length_cons] at length
    omega
  have all : kept.rtake maxsize = kept := by
    rw [List.rtake, Nat.sub_eq_zero_of_le fits, List.drop_zero]
  refine ⟨frame, rfl, passed ++ waiting.take (waiting.length - maxsize) ++ [frame], kept,
    ?_, ?_, ?_, ?_⟩
  · rw [List.append_assoc, List.append_assoc, List.singleton_append, ← split]
  · rw [all]
  · exact (inOrder.trans (List.sublist_append_left _ _)).append (List.Sublist.refl _)
  · rw [List.getLast?_concat, List.getLast?_concat]

/-- The marker behind what is left, or in the place of the oldest of it. -/
theorem Waits.signal (waits : Waits maxsize dispatched yielded queue) (bounded : 1 ≤ maxsize) :
    Drains maxsize yielded dispatched 0 yielded false (putItem maxsize .eof queue) := by
  obtain ⟨passed, waiting, rfl, rfl, inOrder, last⟩ := waits
  have length := length_rtake maxsize waiting
  have held : (waiting.rtake maxsize).Sublist waiting := List.drop_sublist _ _
  rw [putItem, List.length_map]
  split_ifs with full
  · refine ⟨[], (waiting.rtake maxsize).tail, (List.append_nil _).symm,
      inOrder.append ((List.tail_sublist _).trans held), ?_, .inl ⟨rfl, ?_, rfl⟩⟩
    · rw [List.length_tail, List.length_nil]
      omega
    · rw [List.map_tail]
  · refine ⟨[], waiting.rtake maxsize, (List.append_nil _).symm, inOrder.append held, ?_,
      .inl ⟨rfl, rfl, rfl⟩⟩
    rw [List.length_nil]
    omega

/-- One more turn of the iterator: a frame, or the end. -/
theorem Drains.take
    (drains : Drains maxsize earlier dispatched reads yielded ended (item :: rest)) :
    (∃ frame, item = .frame frame ∧
      Drains maxsize earlier dispatched (reads + 1) (yielded ++ [frame]) ended rest) ∨
    item = .eof ∧ Drains maxsize earlier dispatched (reads + 1) yielded true rest := by
  obtain ⟨further, remaining, rfl, inOrder, fits, ⟨rfl, holds, rfl⟩ | ⟨_, none, _⟩⟩ := drains
  · cases remaining with
    | nil =>
        obtain ⟨rfl, rfl⟩ := List.cons.inj holds
        exact .inr ⟨rfl, further, [], rfl, inOrder, fits,
          .inr ⟨rfl, rfl, rfl, Nat.lt_succ_self _⟩⟩
    | cons frame remaining =>
        obtain ⟨rfl, rfl⟩ := List.cons.inj holds
        refine .inl ⟨frame, rfl, further ++ [frame], remaining, List.append_assoc .., ?_, ?_,
          .inl ⟨rfl, rfl, ?_⟩⟩
        · rwa [List.append_assoc, List.singleton_append]
        · rw [List.length_append, List.length_singleton]
          rw [List.length_cons] at fits
          omega
        · rw [List.length_append, List.length_singleton]
  · cases none

/-- A turn at the queue of an iterator that has ended. -/
theorem Drains.wait (drains : Drains maxsize earlier dispatched reads yielded ended []) :
    Drains maxsize earlier dispatched (reads + 1) yielded ended [] := by
  obtain ⟨further, remaining, split, inOrder, fits,
    ⟨_, holds, _⟩ | ⟨finished, none, nothing, more⟩⟩ := drains
  · simp at holds
  · exact ⟨further, remaining, split, inOrder, fits,
      .inr ⟨finished, none, nothing, Nat.lt_succ_of_lt more⟩⟩

end Queues

/-! ## Steps -/

/-- The manager is sound, and nobody has read a feed that was not given out yet. -/
structure Sound (s : Feeds) : Prop where
  owned : Owned s.manager
  unread : ∀ feed, s.manager.nextFeed ≤ feed → s.yielded feed = [] ∧ s.ended feed = false

/-- A feed that a caller holds. -/
structure Following (settings : Settings) (feed : ℕ) (symbol : String) (dispatched : List Frame)
    (s : Feeds) : Prop where
  known : (feed, symbol) ∈ s.manager.handed
  going : s.ended feed = false
  waits : Waits settings.feedMaxsize dispatched (s.yielded feed) (s.manager.queues feed)

/-- A feed that was released. -/
structure Draining (settings : Settings) (feed : ℕ) (earlier dispatched : List Frame) (reads : ℕ)
    (s : Feeds) : Prop where
  gone : ∀ symbol, feed ∉ s.manager.feeds symbol
  unheld : ∀ symbol, (feed, symbol) ∉ s.manager.handed
  issued : feed < s.manager.nextFeed
  drains : Drains settings.feedMaxsize earlier dispatched reads (s.yielded feed) (s.ended feed)
    (s.manager.queues feed)

section Steps

variable {settings : Settings} {s : Feeds} {feed other : ℕ} {symbol : String}
  {dispatched earlier : List Frame} {turns : ℕ}

theorem Sound.initial : Sound {} where
  owned := .initial
  unread := fun _ _ => ⟨rfl, rfl⟩

/-- A turn of an iterator: it waits, or it takes an item of its own queue. -/
theorem anext_cases (feed : ℕ) (s : Feeds) :
    (s.manager.queues feed = [] ∧ anext feed s = s) ∨
    ∃ item rest yielded ended, s.manager.queues feed = item :: rest ∧
      anext feed s =
        { manager := { s.manager with queues := Function.update s.manager.queues feed rest }
          yielded := Function.update s.yielded feed yielded
          ended := Function.update s.ended feed ended } ∧
      (∀ frame, item = .frame frame →
        yielded = s.yielded feed ++ [frame] ∧ ended = s.ended feed) ∧
      (item = .eof → yielded = s.yielded feed ∧ ended = true) := by
  unfold anext
  cases queue : s.manager.queues feed with
  | nil => exact .inl ⟨rfl, rfl⟩
  | cons item rest =>
      cases item with
      | frame frame =>
          refine .inr ⟨.frame frame, rest, s.yielded feed ++ [frame], s.ended feed, rfl, ?_, ?_,
            fun same => by cases same⟩
          · rw [Function.update_eq_self]
          · rintro _ ⟨⟩
            exact ⟨rfl, rfl⟩
      | eof =>
          refine .inr ⟨.eof, rest, s.yielded feed, true, rfl, ?_, ?_, fun _ => ⟨rfl, rfl⟩⟩
          · rw [Function.update_eq_self]
          · intro _ same
            cases same

/-- An iterator touches nothing but its own feed. -/
theorem anext_manager (feed : ℕ) (s : Feeds) : ∃ queue,
    (anext feed s).manager =
      { s.manager with queues := Function.update s.manager.queues feed queue } := by
  rcases anext_cases feed s with ⟨_, same⟩ | ⟨_, rest, _, _, _, taken, _, _⟩
  · refine ⟨s.manager.queues feed, ?_⟩
    rw [same, Function.update_eq_self]
  · exact ⟨rest, congrArg Feeds.manager taken⟩

theorem anext_of_ne (different : feed ≠ other) :
    (anext other s).manager.queues feed = s.manager.queues feed ∧
      (anext other s).yielded feed = s.yielded feed ∧
      (anext other s).ended feed = s.ended feed := by
  rcases anext_cases other s with ⟨_, same⟩ | ⟨_, _, _, _, _, taken, _, _⟩
  · rw [same]
    exact ⟨rfl, rfl, rfl⟩
  · rw [taken]
    exact ⟨Function.update_of_ne different _ _, Function.update_of_ne different _ _,
      Function.update_of_ne different _ _⟩

theorem Sound.reads (sound : Sound s) (feed : ℕ) : Sound (anext feed s) := by
  rcases anext_cases feed s with ⟨_, same⟩ | ⟨item, rest, yielded, ended, queue, taken, _, _⟩
  · rwa [same]
  · have issued : feed < s.manager.nextFeed := by
      by_contra unissued
      rw [sound.owned.unused feed (not_lt.mp unissued)] at queue
      cases queue
    have apart : ∀ other, s.manager.nextFeed ≤ other → other ≠ feed := by
      rintro other unissued rfl
      exact issued.not_ge unissued
    rw [taken]
    refine ⟨⟨sound.owned.counted, sound.owned.distinct, sound.owned.apart, sound.owned.issued,
      sound.owned.held, sound.owned.once, fun other unissued => ?_⟩, fun other unissued => ?_⟩
    · simp only [Function.update_of_ne (apart other unissued)]
      exact sound.owned.unused other unissued
    · simp only [Function.update_of_ne (apart other unissued)]
      exact sound.unread other unissued

theorem Sound.step (sound : Sound s) (step : FeedStep) : Sound (feedStep settings step s) := by
  cases step with
  | acts next =>
      refine ⟨sound.owned.act next, fun feed unissued => sound.unread feed ?_⟩
      have acted := sound.owned.acted settings next
      simp only [feedStep] at unissued
      generalize act settings next s.manager = m' at acted unissued
      cases acted with
      | acquired => exact Nat.le_of_succ_le unissued
      | refused | unknown | released | ignored | dispatched => exact unissued
  | reads feed => exact sound.reads feed

/-- A feed that is held goes on being held unless the act releases it. -/
theorem Following.acts (following : Following settings feed symbol dispatched s) (sound : Sound s)
    (bounded : 1 ≤ settings.feedMaxsize) {next : Act}
    (keeps : ¬ (FeedStep.acts next).Releases feed) :
    Following settings feed symbol
      (dispatched ++ (FeedStep.acts next).dispatchedTo settings symbol)
      (feedStep settings (.acts next) s) := by
  have member := sound.owned.held feed symbol following.known
  have acted := sound.owned.acted settings next
  simp only [feedStep]
  generalize act settings next s.manager = m' at acted ⊢
  cases acted with
  | refused | unknown =>
      rw [show FeedStep.dispatchedTo settings symbol _ = [] from rfl, List.append_nil]
      exact ⟨following.known, following.going, following.waits⟩
  | acquired other fails streams handed outcome =>
      rw [show FeedStep.dispatchedTo settings symbol _ = [] from rfl, List.append_nil]
      refine ⟨?_, following.going, following.waits⟩
      rcases outcome with rfl | ⟨rfl, _⟩
      · exact List.mem_append_left _ following.known
      · exact following.known
  | released other otherSymbol fails streams known =>
      have different : feed ≠ other := fun same => keeps same.symm
      rw [show FeedStep.dispatchedTo settings symbol _ = [] from rfl, List.append_nil]
      refine ⟨?_, following.going, ?_⟩
      · exact (List.mem_erase_of_ne fun same => different (Prod.mk.inj same).1).mpr
          following.known
      · simp only [Function.update_of_ne different]
        exact following.waits
  | ignored frame unnamed =>
      have nothing : (FeedStep.acts (.dispatches frame)).dispatchedTo settings symbol = [] := by
        simp [FeedStep.dispatchedTo, unnamed]
      rw [nothing, List.append_nil]
      exact ⟨following.known, following.going, following.waits⟩
  | dispatched frame other named =>
      by_cases here : other = symbol
      · subst here
        have one : (FeedStep.acts (.dispatches frame)).dispatchedTo settings other = [frame] :=
          if_pos named
        refine ⟨following.known, following.going, ?_⟩
        simp only [one, if_pos member]
        exact following.waits.put bounded frame
      · have nothing :
            (FeedStep.acts (.dispatches frame)).dispatchedTo settings symbol = [] :=
          if_neg fun same => here (Option.some.inj (named.symm.trans same))
        have absent : feed ∉ s.manager.feeds other := fun listed =>
          here (sound.owned.apart other symbol feed listed member)
        refine ⟨following.known, following.going, ?_⟩
        simp only [nothing, List.append_nil, if_neg absent]
        exact following.waits

/-- A turn of an iterator leaves the feed held. -/
theorem Following.reads (following : Following settings feed symbol dispatched s) (other : ℕ) :
    Following settings feed symbol dispatched (anext other s) := by
  obtain ⟨queue, manager⟩ := anext_manager other s
  have known : (feed, symbol) ∈ (anext other s).manager.handed := by
    rw [manager]
    exact following.known
  by_cases here : feed = other
  · subst here
    rcases anext_cases feed s with ⟨_, same⟩ | ⟨item, rest, _, _, holds, taken, frames, _⟩
    · rwa [same]
    · have waits := following.waits
      rw [holds] at waits
      obtain ⟨frame, rfl, next⟩ := waits.take
      obtain ⟨rfl, rfl⟩ := frames frame rfl
      refine ⟨known, ?_, ?_⟩
      · rw [taken]
        simp only [Function.update_self]
        exact following.going
      · rw [taken]
        simp only [Function.update_self]
        exact next
  · obtain ⟨queues, yielded, ended⟩ := anext_of_ne here (s := s)
    exact ⟨known, ended.trans following.going, queues.symm ▸ yielded.symm ▸ following.waits⟩

/-- With one more frame of its symbol or without. -/
theorem Following.step (following : Following settings feed symbol dispatched s) (sound : Sound s)
    (bounded : 1 ≤ settings.feedMaxsize) {step : FeedStep} (keeps : ¬ step.Releases feed) :
    Following settings feed symbol (dispatched ++ step.dispatchedTo settings symbol)
      (feedStep settings step s) := by
  cases step with
  | acts next => exact following.acts sound bounded keeps
  | reads other =>
      rw [show FeedStep.dispatchedTo settings symbol _ = [] from rfl, List.append_nil]
      exact following.reads other

/-- A feed that was just acquired. -/
theorem Sound.acquires (sound : Sound s) {fails : String → Bool} (valid : ValidSymbol symbol)
    (acquired : (acquire settings symbol fails s.manager).1 = .ok feed) :
    Following settings feed symbol [] (feedStep settings (.acts (.acquires symbol fails)) s) := by
  obtain rfl := acquire_fst acquired
  have new := sound.unread s.manager.nextFeed le_rfl
  have nothing := sound.owned.unused s.manager.nextFeed le_rfl
  obtain ⟨streams, taken⟩ := @acquire_snd settings s.manager symbol fails
  simp only [feedStep, act, if_pos valid, acquired, taken]
  refine ⟨List.mem_append_right _ List.mem_cons_self, new.2, [], [], rfl, ?_, ?_, ?_⟩
  · rw [List.rtake_nil, List.map_nil]
    exact nothing
  · rw [new.1]
  · rw [new.1]

/-- The release of a feed that is held. -/
theorem Following.release (following : Following settings feed symbol dispatched s)
    (sound : Sound s) (bounded : 1 ≤ settings.feedMaxsize) (fails : String → Bool) :
    Draining settings feed (s.yielded feed) dispatched 0
        (feedStep settings (.acts (.releases feed fails)) s) ∧
      (feedStep settings (.acts (.releases feed fails)) s).yielded feed = s.yielded feed := by
  refine ⟨?_, rfl⟩
  have acted := sound.owned.acted settings (.releases feed fails)
  have held := following.known
  simp only [feedStep]
  generalize act settings (.releases feed fails) s.manager = m' at acted ⊢
  cases acted with
  | unknown _ _ absent =>
      have differs := List.lookup_eq_none_iff.mp absent (feed, symbol) held
      simp at differs
  | released _ other _ streams known =>
      have only : ∀ symbol', (feed, symbol') ∈ s.manager.handed → symbol' = other := by
        intro symbol' listed
        exact sound.owned.apart symbol' other feed (sound.owned.held feed symbol' listed)
          (sound.owned.held feed other known)
      obtain rfl := only symbol held
      refine ⟨?_, ?_, sound.owned.issued symbol feed (sound.owned.held feed symbol held), ?_⟩
      · intro other member
        obtain ⟨listed, different⟩ := (mem_feeds_released sound.owned.distinct).mp member
        exact different ⟨sound.owned.apart other symbol feed listed
          (sound.owned.held feed symbol held), rfl⟩
      · intro other listed
        obtain rfl := only other (List.mem_of_mem_erase listed)
        exact List.Nodup.not_mem_erase (sound.owned.once.of_map _) listed
      · simp only [Function.update_self, following.going]
        exact following.waits.signal bounded

/-- After the release no act changes what the iterator has before it. -/
theorem Draining.acts (draining : Draining settings feed earlier dispatched turns s)
    (sound : Sound s) (next : Act) :
    Draining settings feed earlier dispatched turns (feedStep settings (.acts next) s) := by
  have acted := sound.owned.acted settings next
  simp only [feedStep]
  generalize act settings next s.manager = m' at acted ⊢
  cases acted with
  | refused | unknown | ignored => exact draining
  | acquired symbol fails streams handed outcome =>
      have different : feed ≠ s.manager.nextFeed := draining.issued.ne
      refine ⟨fun other member => ?_, fun other listed => ?_,
        draining.issued.trans (Nat.lt_succ_self _), draining.drains⟩
      · rcases mem_feeds_acquired.mp member with old | ⟨_, same⟩
        · exact draining.gone other old
        · exact different same
      · rcases outcome with rfl | ⟨rfl, _⟩
        · rcases List.mem_append.mp listed with old | new
          · exact draining.unheld other old
          · exact different (Prod.mk.inj (List.mem_singleton.mp new)).1
        · exact draining.unheld other listed
  | released other symbol fails streams known =>
      have different : feed ≠ other := by
        rintro rfl
        exact draining.unheld symbol known
      refine ⟨fun other' member => ?_, fun other' listed => ?_, draining.issued, ?_⟩
      · exact draining.gone other' ((mem_feeds_released sound.owned.distinct).mp member).1
      · exact draining.unheld other' (List.mem_of_mem_erase listed)
      · simp only [Function.update_of_ne different]
        exact draining.drains
  | dispatched frame symbol named =>
      refine ⟨draining.gone, draining.unheld, draining.issued, ?_⟩
      simp only [if_neg (draining.gone symbol)]
      exact draining.drains

/-- After the release the iterator takes what it has before it. -/
theorem Draining.reads (draining : Draining settings feed earlier dispatched turns s)
    (other : ℕ) :
    Draining settings feed earlier dispatched (turns + if other = feed then 1 else 0)
      (anext other s) := by
  obtain ⟨queue, manager⟩ := anext_manager other s
  have gone : ∀ symbol, feed ∉ (anext other s).manager.feeds symbol := by
    rw [manager]
    exact draining.gone
  have unheld : ∀ symbol, (feed, symbol) ∉ (anext other s).manager.handed := by
    rw [manager]
    exact draining.unheld
  have issued : feed < (anext other s).manager.nextFeed := by
    rw [manager]
    exact draining.issued
  refine ⟨gone, unheld, issued, ?_⟩
  have drains := draining.drains
  by_cases here : other = feed
  · subst here
    rw [if_pos rfl]
    rcases anext_cases other s with ⟨empty, same⟩ |
      ⟨item, rest, yielded, ended, holds, taken, frames, marker⟩
    · rw [same, empty]
      rw [empty] at drains
      exact drains.wait
    · rw [holds] at drains
      rw [taken]
      simp only [Function.update_self]
      rcases drains.take with ⟨frame, rfl, next⟩ | ⟨rfl, next⟩
      · obtain ⟨rfl, rfl⟩ := frames frame rfl
        exact next
      · obtain ⟨rfl, rfl⟩ := marker rfl
        exact next
  · obtain ⟨queues, yielded, ended⟩ := anext_of_ne (fun same => here same.symm) (s := s)
    rw [if_neg here, Nat.add_zero, queues, yielded, ended]
    exact drains

theorem Draining.step (draining : Draining settings feed earlier dispatched turns s)
    (sound : Sound s) (step : FeedStep) :
    Draining settings feed earlier dispatched (turns + if step.isRead feed then 1 else 0)
      (feedStep settings step s) := by
  cases step with
  | acts next => exact draining.acts sound next
  | reads other =>
      simp only [FeedStep.isRead, decide_eq_true_eq]
      exact draining.reads other

end Steps

/-! ## Runs -/

section Runs

variable {settings : Settings} {s : Feeds} {feed : ℕ} {symbol : String}
  {dispatched earlier : List Frame} {turns : ℕ}

theorem Sound.run (sound : Sound s) (steps : List FeedStep) :
    Sound (run (feedStep settings) s steps) :=
  run_invariant_of_always Sound (fun _ step sound => sound.step step) steps sound

theorem Following.run (following : Following settings feed symbol dispatched s) (sound : Sound s)
    (bounded : 1 ≤ settings.feedMaxsize) {steps : List FeedStep}
    (keeps : ∀ step ∈ steps, ¬ step.Releases feed) :
    Following settings feed symbol (dispatched ++ dispatchedTo settings symbol steps)
      (run (feedStep settings) s steps) := by
  induction steps generalizing dispatched s with
  | nil =>
      rw [dispatchedTo, List.flatMap_nil, List.append_nil]
      exact following
  | cons step steps ih =>
      obtain ⟨first, others⟩ := List.forall_mem_cons.mp keeps
      rw [dispatchedTo, List.flatMap_cons, ← List.append_assoc, run_cons]
      exact ih (following.step sound bounded first) (sound.step step) others

theorem Draining.run (draining : Draining settings feed earlier dispatched turns s)
    (sound : Sound s) (steps : List FeedStep) :
    Draining settings feed earlier dispatched (turns + steps.countP (·.isRead feed))
      (run (feedStep settings) s steps) := by
  induction steps generalizing turns s with
  | nil => exact draining
  | cons step steps ih =>
      have next := ih (draining.step sound step) (sound.step step)
      rwa [Nat.add_assoc, Nat.add_comm (ite _ _ _), ← List.countP_cons] at next

end Runs

/-! ## What the others see -/

/-- Everything but what the feed has before it. -/
def Manager.without (feed : ℕ) (m : Manager) : Manager :=
  { m with queues := Function.update m.queues feed [] }

/-- Everything but the feed and its reader. -/
def Feeds.without (feed : ℕ) (s : Feeds) : Feeds where
  manager := s.manager.without feed
  yielded := Function.update s.yielded feed []
  ended := Function.update s.ended feed false

section Others

variable {feed : ℕ}

theorem update_eq_update_iff {α : Type} {f g : ℕ → α} {value : α} :
    Function.update f feed value = Function.update g feed value ↔
      ∀ other, other ≠ feed → f other = g other := by
  constructor
  · intro same other different
    have point := congrFun same other
    rwa [Function.update_of_ne different, Function.update_of_ne different] at point
  · intro same
    funext other
    by_cases here : other = feed
    · subst here
      rw [Function.update_self, Function.update_self]
    · rw [Function.update_of_ne here, Function.update_of_ne here, same other here]

/-- A change of the queue of one feed only reads that queue. -/
theorem update_apart {queues queues' : ℕ → List FeedItem} (changed : ℕ)
    (change : List FeedItem → List FeedItem)
    (same : ∀ other, other ≠ feed → queues other = queues' other) :
    ∀ other, other ≠ feed → Function.update queues changed (change (queues changed)) other =
      Function.update queues' changed (change (queues' changed)) other := by
  intro other different
  by_cases here : other = changed
  · subst here
    rw [Function.update_self, Function.update_self, same other different]
  · rw [Function.update_of_ne here, Function.update_of_ne here, same other different]

theorem foldl_update_apart (change : List FeedItem → List FeedItem) (feeds : List ℕ)
    {queues queues' : ℕ → List FeedItem}
    (same : ∀ other, other ≠ feed → queues other = queues' other) :
    ∀ other, other ≠ feed →
      feeds.foldl (fun queues feed => Function.update queues feed (change (queues feed)))
          queues other =
        feeds.foldl (fun queues feed => Function.update queues feed (change (queues feed)))
          queues' other := by
  induction feeds generalizing queues queues' with
  | nil => exact same
  | cons first feeds ih =>
      exact ih (update_apart first change same)

/-- What an act makes of the queues, and that it reads nothing else of them. -/
theorem act_queues (settings : Settings) (next : Act) (m : Manager) :
    ∃ change : (ℕ → List FeedItem) → ℕ → List FeedItem,
      (∀ queues, act settings next { m with queues := queues } =
        { act settings next m with queues := change queues }) ∧
      ∀ feed queues queues', (∀ other, other ≠ feed → queues other = queues' other) →
        ∀ other, other ≠ feed → change queues other = change queues' other := by
  cases next with
  | acquires symbol fails =>
      refine ⟨id, fun queues => ?_, fun _ _ _ same => same⟩
      have taken : acquire settings symbol fails { m with queues := queues } =
          ((acquire settings symbol fails m).1,
            { (acquire settings symbol fails m).2 with queues := queues }) := by
        simp only [acquire]
        split_ifs <;> rfl
      simp only [act, taken]
      split_ifs with valid
      · cases (acquire settings symbol fails m).1 <;> rfl
      · rfl
  | releases released fails =>
      cases known : m.handed.lookup released with
      | none =>
          refine ⟨id, fun queues => ?_, fun _ _ _ same => same⟩
          simp only [act, known]
          rfl
      | some symbol =>
          by_cases counted : m.counts symbol = 0
          · refine ⟨id, fun queues => ?_, fun _ _ _ same => same⟩
            simp only [act, known, release, if_pos counted]
            rfl
          · refine ⟨fun queues => Function.update queues released
              (putItem settings.feedMaxsize .eof (queues released)), fun queues => ?_,
              fun _ _ _ same => update_apart released (putItem settings.feedMaxsize .eof) same⟩
            simp only [act, known, release, if_neg counted]
            split_ifs <;> rfl
  | dispatches frame =>
      cases named : routed settings frame with
      | none =>
          refine ⟨id, fun queues => ?_, fun _ _ _ same => same⟩
          simp only [act, dispatch_eq, named]
          rfl
      | some symbol =>
          refine ⟨(m.feeds symbol).foldl fun queues feed => Function.update queues feed
            (putItem settings.feedMaxsize (.frame frame) (queues feed)), fun queues => ?_,
            fun _ _ _ same => foldl_update_apart (putItem settings.feedMaxsize (.frame frame))
              (m.feeds symbol) same⟩
          simp only [act, dispatch_eq, named]

theorem act_without (settings : Settings) (next : Act) {m m' : Manager}
    (same : m.without feed = m'.without feed) :
    (act settings next m).without feed = (act settings next m').without feed := by
  obtain ⟨change, changes, apart⟩ := act_queues settings next m
  have queues := update_eq_update_iff.mp (congrArg Manager.queues same)
  have rest : m' = { m with queues := m'.queues } := by
    cases m
    cases m'
    simp only [Manager.without, Manager.mk.injEq] at same ⊢
    obtain ⟨counts, feeds, _, nextFeed, streams, handed⟩ := same
    exact ⟨counts.symm, feeds.symm, trivial, nextFeed.symm, streams.symm, handed.symm⟩
  have own : act settings next m = { act settings next m with queues := change m.queues } :=
    changes m.queues
  have other : act settings next m' = { act settings next m with queues := change m'.queues } := by
    rw [rest]
    exact changes m'.queues
  rw [own, other]
  simp only [Manager.without]
  rw [update_eq_update_iff.mpr (apart feed m.queues m'.queues queues)]

/-- A read of the feed is nothing to the others. -/
theorem anext_without (s : Feeds) : (anext feed s).without feed = s.without feed := by
  rcases anext_cases feed s with ⟨_, same⟩ | ⟨_, _, _, _, _, taken, _, _⟩
  · rw [same]
  · rw [taken]
    simp only [Feeds.without, Manager.without, Function.update_idem]

/-- Another iterator reads its own queue only. -/
theorem anext_without_of_ne {other : ℕ} (different : other ≠ feed) (s : Feeds) :
    (anext other s).without feed = anext other (s.without feed) := by
  have queue : (s.without feed).manager.queues other = s.manager.queues other :=
    Function.update_of_ne different _ _
  unfold anext
  rw [queue]
  cases s.manager.queues other with
  | nil => rfl
  | cons item rest =>
      cases item with
      | frame frame =>
          simp only [Feeds.without, Manager.without, Function.update_of_ne different,
            Function.update_comm different]
      | eof =>
          simp only [Feeds.without, Manager.without, Function.update_comm different]

/-- **A slow feed changes nothing for the others.**  They see the same whether it is read or not. -/
theorem run_without (settings : Settings) (feed : ℕ) (s : Feeds) (steps : List FeedStep) :
    (run (feedStep settings) s steps).without feed =
      (run (feedStep settings) s (steps.filter fun step => !step.isRead feed)).without feed := by
  have free : RunGuarded (fun _ _ => True) (feedStep settings) s steps :=
    runGuarded_of_forall fun _ _ => trivial
  refine run_purge (Feeds.without feed) (FeedStep.isRead feed) ?_ ?_ steps rfl free
  · intro s step hidden _
    cases step with
    | acts next => cases hidden
    | reads other =>
        obtain rfl := of_decide_eq_true hidden
        exact anext_without s
  · intro s t step seen same
    cases step with
    | acts next =>
        have manager := act_without settings next (congrArg Feeds.manager same)
        have readers := (Feeds.mk.injEq .. ▸ same).2
        simp only [feedStep, Feeds.without, manager, readers]
    | reads other =>
        have different : other ≠ feed := of_decide_eq_false seen
        simp only [feedStep]
        rw [anext_without_of_ne different, anext_without_of_ne different, same]

end Others

/-! ## Bounded feeds -/

/-- The run of the steps from a manager without feeds. -/
def feedRun (settings : Settings) (steps : List FeedStep) : Feeds :=
  run (feedStep settings) {} steps

section Bounded

variable {settings : Settings} {symbol : String} {feed : ℕ} {before : List FeedStep}
  {fails : String → Bool}

theorem sound_feedRun (settings : Settings) (steps : List FeedStep) :
    Sound (feedRun settings steps) :=
  Sound.initial.run steps

/-- Until its release a feed follows what is dispatched to its symbol. -/
theorem following_feedRun (bounded : 1 ≤ settings.feedMaxsize) (valid : ValidSymbol symbol)
    (acquired : (acquire settings symbol fails (feedRun settings before).manager).1 = .ok feed)
    {after : List FeedStep} (keeps : ∀ step ∈ after, ¬ step.Releases feed) :
    Following settings feed symbol (dispatchedTo settings symbol after)
      (feedRun settings (before ++ .acts (.acquires symbol fails) :: after)) := by
  have sound := sound_feedRun settings before
  have entered := sound.acquires valid acquired
  rw [feedRun, run_append, run_cons]
  exact entered.run (sound.step _) bounded keeps

/-- From its release on a feed has what was left before it. -/
theorem draining_feedRun (bounded : 1 ≤ settings.feedMaxsize) (valid : ValidSymbol symbol)
    (acquired : (acquire settings symbol fails (feedRun settings before).manager).1 = .ok feed)
    {during : List FeedStep} (keeps : ∀ step ∈ during, ¬ step.Releases feed)
    (later : List FeedStep) (leaves : String → Bool) :
    Draining settings feed
      ((feedRun settings (before ++ .acts (.acquires symbol fails) :: during)).yielded feed)
      (dispatchedTo settings symbol during) (later.countP (·.isRead feed))
      (feedRun settings (before ++ .acts (.acquires symbol fails) ::
        (during ++ .acts (.releases feed leaves) :: later))) := by
  have following := following_feedRun bounded valid acquired keeps
  have sound := sound_feedRun settings (before ++ .acts (.acquires symbol fails) :: during)
  have draining := (following.release sound bounded leaves).1.run (sound.step _) later
  rw [Nat.zero_add] at draining
  simp only [feedRun, run_append, run_cons] at draining ⊢
  exact draining

/-- **Bounded feeds.**  Take a feed that was acquired after any steps.  Until it is released, its
queue holds the newest frames of its symbol that were dispatched since and not read or passed over,
as many as fit, and what it yielded are such frames in their order.  Once it is released, it yields
fewer than fit and ends.  And whether it is read or not is nothing to the other feeds. -/
theorem feeds_bounded (bounded : 1 ≤ settings.feedMaxsize) (valid : ValidSymbol symbol)
    (acquired : (acquire settings symbol fails (feedRun settings before).manager).1 = .ok feed) :
    (∀ after : List FeedStep, (∀ step ∈ after, ¬ step.Releases feed) →
      let s := feedRun settings (before ++ .acts (.acquires symbol fails) :: after)
      s.ended feed = false ∧
        Waits settings.feedMaxsize (dispatchedTo settings symbol after) (s.yielded feed)
          (s.manager.queues feed)) ∧
    (∀ during later : List FeedStep, (∀ step ∈ during, ¬ step.Releases feed) →
      ∀ leaves : String → Bool,
      let s := feedRun settings (before ++ .acts (.acquires symbol fails) :: during)
      let t := feedRun settings (before ++ .acts (.acquires symbol fails) ::
        (during ++ .acts (.releases feed leaves) :: later))
      (t.yielded feed).Sublist (dispatchedTo settings symbol during) ∧
        (∃ further, t.yielded feed = s.yielded feed ++ further ∧
          further.length ≤ settings.feedMaxsize - 1) ∧
        (settings.feedMaxsize ≤ later.countP (·.isRead feed) → t.ended feed = true)) ∧
    ∀ steps : List FeedStep, (feedRun settings steps).without feed =
      (feedRun settings (steps.filter fun step => !step.isRead feed)).without feed := by
  refine ⟨fun after keeps => ?_, fun during later keeps leaves => ?_,
    run_without settings feed {}⟩
  · have following := following_feedRun bounded valid acquired keeps
    exact ⟨following.going, following.waits⟩
  · obtain ⟨further, remaining, split, inOrder, fits, progress⟩ :=
      (draining_feedRun bounded valid acquired keeps later leaves).drains
    refine ⟨(List.sublist_append_left _ _).trans inOrder, ⟨further, split, by omega⟩,
      fun many => ?_⟩
    rcases progress with ⟨_, _, turns⟩ | ⟨finished, _⟩
    · omega
    · exact finished

/-- Three frames of the symbol for a feed with room for two. -/
def crowded : List FeedStep :=
  [.acts (.dispatches ⟨some "btcusdt@trade", "1"⟩),
    .acts (.dispatches ⟨some "btcusdt@trade", "2"⟩),
    .acts (.dispatches ⟨some "ethusdt@trade", "3"⟩),
    .acts (.dispatches ⟨some "btcusdt@trade", "4"⟩),
    .reads 0]

/-- The first frame is dropped, and the last is left when the feed is released. -/
theorem feeds_bounded_two :
    let settings : Settings := ⟨["trade"], 2, String.toUpper⟩
    let acquires : FeedStep := .acts (.acquires "BTCUSDT" fun _ => false)
    let releases : FeedStep := .acts (.releases 0 fun _ => false)
    (feedRun settings (acquires :: crowded)).yielded 0 = [⟨some "btcusdt@trade", "2"⟩] ∧
      Waits 2 (dispatchedTo settings "BTCUSDT" crowded) [⟨some "btcusdt@trade", "2"⟩]
        [.frame ⟨some "btcusdt@trade", "4"⟩] ∧
      (feedRun settings (acquires :: (crowded ++ releases :: [.reads 0, .reads 0]))).ended 0
        = true := by
  have keeps : ∀ step ∈ crowded, ¬ step.Releases 0 := by
    simp [crowded, FeedStep.Releases]
  obtain ⟨follows, drains, _⟩ := @feeds_bounded ⟨["trade"], 2, String.toUpper⟩ "BTCUSDT" 0 []
    (fun _ => false) (by decide) (by decide) rfl
  refine ⟨by decide +kernel, ?_, (drains crowded [.reads 0, .reads 0] keeps _).2.2 (by decide)⟩
  have yielded : (feedRun ⟨["trade"], 2, String.toUpper⟩
      (.acts (.acquires "BTCUSDT" fun _ => false) :: crowded)).yielded 0 =
      [⟨some "btcusdt@trade", "2"⟩] := by decide +kernel
  have queue : (feedRun ⟨["trade"], 2, String.toUpper⟩
      (.acts (.acquires "BTCUSDT" fun _ => false) :: crowded)).manager.queues 0 =
      [.frame ⟨some "btcusdt@trade", "4"⟩] := by decide +kernel
  have waits := (follows crowded keeps).2
  rw [List.nil_append, yielded, queue] at waits
  exact waits

end Bounded

end Scalper.Market
