import Scalper.Paper.Quantity

/-!
# Positions and their stops

What a closed candle does to an open position, on the live path and on the replay path.  A
crossing check looks for the stop inside the range of a candle or of a segment of it, so a
candle that lies wholly beyond the stop leaves the position open: `gapped_stop_outlives`.

`noneOutlives_iff` says exactly when no position outlives its stop, in every reachable state
and on both paths: whenever the candle is at or beyond a stop, the stop (or a take-profit
that closes the position) must lie inside the candle's range, and on the replay path the
candle must be well formed and its first segment must not raise.
-/

set_option autoImplicit false

namespace Scalper.Paper

open Scalper.Lib Scalper.Exchange

variable {cfg : Config}

/-! ## One price range -/

/-- The range closes a position with these stops. -/
def ClosesIn (low high : ℚ) (stops : TradingStops) : Prop :=
  InRange low high stops.slPrice ∨ stops.tpslMode = .Full ∧ InRange low high stops.tpPrice

/-- The range raises: a partial take-profit is touched and has no size. -/
def UnsizedIn (low high : ℚ) (stops : TradingStops) : Prop :=
  ¬ InRange low high stops.slPrice ∧ InRange low high stops.tpPrice ∧
    stops.tpslMode = .Partial ∧ stops.tpSize = none

/-- The stop fields a candle keeps; a partial take-profit only changes the type. -/
def SameLevels (stops stops' : TradingStops) : Prop :=
  { stops' with slType := stops.slType } = stops

theorem SameLevels.refl (stops : TradingStops) : SameLevels stops stops := rfl

theorem SameLevels.trans {first second third : TradingStops} (left : SameLevels first second)
    (right : SameLevels second third) : SameLevels first third := by
  unfold SameLevels at *
  rw [← left, ← right]

theorem SameLevels.closesIn {stops stops' : TradingStops} (same : SameLevels stops stops')
    (low high : ℚ) : ClosesIn low high stops' ↔ ClosesIn low high stops := by
  unfold SameLevels at same
  rw [← same]
  exact Iff.rfl

theorem SameLevels.unsizedIn {stops stops' : TradingStops} (same : SameLevels stops stops')
    (low high : ℚ) : UnsizedIn low high stops' ↔ UnsizedIn low high stops := by
  unfold SameLevels at same
  rw [← same]
  exact Iff.rfl

/-- What is left of a position: nothing, or the position with the same side and levels. -/
def Survives (stops : TradingStops) (position : OpenPosition) (symbol : String)
    (s : PaperExchange) : Prop :=
  ∃ stops' position', s.activePositions symbol = some ⟨stops', some position'⟩ ∧
    SameLevels stops stops' ∧ position'.side = position.side

/-- The states a candle is handled in: at rest, and no transaction is going to fail. -/
structure Ready (s : PaperExchange) : Prop where
  atRest : AtRest s
  commits : s.dbOutcomes = []

variable (cfg) in
theorem Ready.afterCheck {s : PaperExchange} (ready : Ready s) (symbol : String)
    (low high : ℚ) : Ready (checkAndDrain cfg symbol low high s).2 := by
  obtain ⟨_, outcome⟩ := checkAndDrain_outcome cfg symbol low high ready.atRest.pending
  have free : ∀ b e, Entry.Allowed cfg b e → e.Unordered → True := fun _ _ _ _ => trivial
  obtain ⟨reached, emptied⟩ := checkAndDrain_reaches free symbol low high ready.atRest.pending
  refine ⟨⟨reached.invariant Consistent (fun b e consistent allowed _ => consistent.apply allowed)
    ready.atRest.consistent, emptied⟩, ?_⟩
  have supply := ready.commits
  generalize (checkAndDrain cfg symbol low high s).1 = result at outcome
  generalize (checkAndDrain cfg symbol low high s).2.books = books at outcome
  generalize (checkAndDrain cfg symbol low high s).2.dbOutcomes = outcomes at outcome ⊢
  cases outcome with
  | untouched clear => exact supply
  | malformed e found slClear tpInside mode unsized => exact supply
  | failed e found crossed refused => rw [supply]; rfl
  | entered found crossed accepted => rw [supply]; rfl

theorem Ready.trade_known {s : PaperExchange} (ready : Ready s) {symbol : String}
    {stops : TradingStops} {position : OpenPosition}
    (found : s.activePositions symbol = some ⟨stops, some position⟩) :
    s.db.trades.any (·.id == position.tradeId) = true := by
  obtain ⟨row, member, sameId⟩ := ready.atRest.consistent.tradeKnown symbol position
    (openPosition_of_active (b := s.books) found)
  rw [List.any_eq_true]
  exact ⟨row, member, by simpa using sameId⟩

/-- A take-profit of a part closes no position. -/
theorem not_closesIn_of_missed {stops : TradingStops} {low high : ℚ}
    (slClear : ¬ InRange low high stops.slPrice) (mode : stops.tpslMode = .Partial) :
    ¬ ClosesIn low high stops := by
  rintro (slInside | ⟨full, _⟩)
  · exact slClear slInside
  · rw [mode] at full
    cases full

variable (cfg) in
/-- A crossing check with its drain: a range that closes the position leaves none; any other
range leaves it with its levels, and returns unless a take-profit lacks its size. -/
theorem checkAndDrain_spec {s : PaperExchange} (ready : Ready s) {symbol : String}
    {stops : TradingStops} {position : OpenPosition}
    (found : s.activePositions symbol = some ⟨stops, some position⟩) (low high : ℚ) :
    (ClosesIn low high stops ∧ (checkAndDrain cfg symbol low high s).1 = .ok () ∧
      (checkAndDrain cfg symbol low high s).2.openPosition symbol = none) ∨
    (¬ ClosesIn low high stops ∧
      Survives stops position symbol (checkAndDrain cfg symbol low high s).2 ∧
      ((checkAndDrain cfg symbol low high s).1 = .ok () ↔ ¬ UnsizedIn low high stops)) := by
  obtain ⟨_, outcome⟩ := checkAndDrain_outcome cfg symbol low high ready.atRest.pending
  have active : (checkAndDrain cfg symbol low high s).2.activePositions =
      (checkAndDrain cfg symbol low high s).2.books.activePositions := rfl
  unfold Survives
  rw [active, ← openPosition_books]
  generalize (checkAndDrain cfg symbol low high s).1 = result at outcome ⊢
  generalize (checkAndDrain cfg symbol low high s).2.books = books at outcome ⊢
  generalize (checkAndDrain cfg symbol low high s).2.dbOutcomes = outcomes at outcome
  cases outcome with
  | untouched clear =>
      obtain ⟨slClear, tpClear⟩ := clear stops position found
      refine .inr ⟨?_, ⟨stops, position, found, .refl stops, rfl⟩, ?_⟩
      · rintro (slInside | ⟨_, tpInside⟩)
        · exact slClear slInside
        · exact tpClear tpInside
      · exact ⟨fun _ unsized => tpClear unsized.2.1, fun _ => rfl⟩
  | malformed e found' slClear tpInside mode unsized =>
      rw [found] at found'
      cases found'
      refine .inr ⟨not_closesIn_of_missed slClear mode, ⟨stops, position, found, .refl stops, rfl⟩,
        (fun returned => by cases returned), fun sized => ?_⟩
      exact absurd ⟨slClear, tpInside, mode, unsized⟩ sized
  | failed e found' crossed refused =>
      rw [found] at found'
      cases found'
      have commits : s.commits = true := by
        unfold PaperExchange.commits
        rw [ready.commits]
        rfl
      rw [ready.trade_known found, commits] at refused
      cases refused
  | @entered stops' position' fill found' crossed accepted =>
      rw [found] at found'
      cases found'
      have here : s.books.activePositions (fill.leg cfg).symbol =
          some ⟨stops, some position⟩ := by
        show s.activePositions fill.symbol = _
        rw [crossed.symbol_eq, found]
      have sameSymbol : (fill.leg cfg).symbol = symbol := crossed.symbol_eq
      by_cases isPartial : fill.kind = .tp ∧ fill.tpslMode = .Partial
      · rw [PendingSLTPFill.entry, if_pos isPartial, apply_reduced here, sameSymbol]
        obtain ⟨slClear, _, mode, sized⟩ := crossed.partial_level isPartial
        refine .inr ⟨not_closesIn_of_missed slClear mode,
          ⟨_, _, Function.update_self .., rfl, rfl⟩, fun _ unsized => ?_, fun _ => rfl⟩
        rw [unsized.2.2.2] at sized
        cases sized
      · rw [PendingSLTPFill.entry, if_neg isPartial, openPosition_closed here,
          if_pos sameSymbol.symm]
        exact .inl ⟨crossed.closing_level isPartial, rfl, rfl⟩

/-! ## The segments of a replayed candle -/

/-- Some range closes the position before one raises. -/
def ClosesWithin (stops : TradingStops) : List (ℚ × ℚ) → Prop
  | [] => False
  | (low, high) :: ranges =>
      ClosesIn low high stops ∨ ¬ UnsizedIn low high stops ∧ ClosesWithin stops ranges

theorem SameLevels.closesWithin {stops stops' : TradingStops} (same : SameLevels stops stops')
    (ranges : List (ℚ × ℚ)) : ClosesWithin stops' ranges ↔ ClosesWithin stops ranges := by
  induction ranges with
  | nil => exact Iff.rfl
  | cons range ranges ih =>
      simp only [ClosesWithin, same.closesIn, same.unsizedIn, ih]

variable (cfg) in
/-- A crossing check opens nothing. -/
theorem checkAndDrain_none {symbol : String} {s : PaperExchange} (ready : Ready s)
    (vacant : s.openPosition symbol = none) (low high : ℚ) :
    (checkAndDrain cfg symbol low high s).2.openPosition symbol = none := by
  have unheld : ∀ {stops position}, s.activePositions symbol ≠ some ⟨stops, some position⟩ := by
    intro stops position found
    have held := openPosition_of_active (b := s.books) found
    rw [openPosition_books, vacant] at held
    cases held
  obtain ⟨_, outcome⟩ := checkAndDrain_outcome cfg symbol low high ready.atRest.pending
  rw [← openPosition_books]
  generalize (checkAndDrain cfg symbol low high s).1 = result at outcome
  generalize (checkAndDrain cfg symbol low high s).2.books = books at outcome ⊢
  generalize (checkAndDrain cfg symbol low high s).2.dbOutcomes = outcomes at outcome
  cases outcome with
  | untouched clear => exact vacant
  | malformed e found slClear tpInside mode unsized => exact absurd found unheld
  | failed e found crossed refused => exact absurd found unheld
  | entered found crossed accepted => exact absurd found unheld

theorem replaySegments_none {symbol : String} (ranges : List (ℚ × ℚ)) :
    ∀ {s : PaperExchange}, Ready s → s.openPosition symbol = none →
      (replaySegments cfg symbol ranges s).2.openPosition symbol = none := by
  induction ranges with
  | nil => exact fun _ vacant => vacant
  | cons range ranges ih =>
      obtain ⟨low, high⟩ := range
      intro s ready vacant
      have vacantAfter := checkAndDrain_none cfg ready vacant low high
      have readyAfter := ready.afterCheck cfg symbol low high
      unfold replaySegments
      cases checked : checkAndDrain cfg symbol low high s with
      | mk result s' =>
          rw [checked] at vacantAfter readyAfter
          cases result with
          | error e => exact vacantAfter
          | ok _ => exact ih readyAfter vacantAfter

variable (cfg) in
/-- A sequence of ranges leaves no position when it closes it in time, and otherwise leaves
it with its levels. -/
theorem replaySegments_spec {symbol : String} (ranges : List (ℚ × ℚ)) :
    ∀ {s : PaperExchange} {stops : TradingStops} {position : OpenPosition}, Ready s →
      s.activePositions symbol = some ⟨stops, some position⟩ →
      (ClosesWithin stops ranges ∧
        (replaySegments cfg symbol ranges s).2.openPosition symbol = none) ∨
      (¬ ClosesWithin stops ranges ∧
        Survives stops position symbol (replaySegments cfg symbol ranges s).2) := by
  induction ranges with
  | nil => exact fun _ found => .inr ⟨id, _, _, found, .refl _, rfl⟩
  | cons range ranges ih =>
      obtain ⟨low, high⟩ := range
      intro s stops position ready found
      have spec := checkAndDrain_spec cfg ready found low high
      have readyAfter := ready.afterCheck cfg symbol low high
      unfold replaySegments
      cases checked : checkAndDrain cfg symbol low high s with
      | mk result s' =>
          rw [checked] at spec readyAfter
          rcases spec with ⟨closes, returned, vacant⟩ | ⟨open', ⟨stops', position', found',
            sameLevels, sameSide⟩, returns⟩
          · cases returned
            exact .inl ⟨.inl closes, replaySegments_none ranges readyAfter vacant⟩
          · cases result with
            | error e =>
                have unsized : UnsizedIn low high stops := by
                  by_contra sized
                  cases returns.mpr sized
                refine .inr ⟨?_, stops', position', found', sameLevels, sameSide⟩
                rintro (closes | ⟨sized, _⟩)
                · exact open' closes
                · exact sized unsized
            | ok _ =>
                have sized := returns.mp rfl
                rcases ih readyAfter found' with ⟨closes, vacant⟩ |
                  ⟨stays, stops'', position'', found'', sameLevels', sameSide'⟩
                · exact .inl ⟨.inr ⟨sized, (sameLevels.closesWithin ranges).mp closes⟩, vacant⟩
                · refine .inr ⟨?_, stops'', position'', found'', sameLevels.trans sameLevels',
                    sameSide'.trans sameSide⟩
                  rintro (closes | ⟨_, closes⟩)
                  · exact open' closes
                  · exact stays ((sameLevels.closesWithin ranges).mpr closes)

theorem InRange.mono {low high low' high' : ℚ} {level : Option ℚ} (inside : InRange low high level)
    (lower : low' ≤ low) (upper : high ≤ high') : InRange low' high' level := by
  obtain ⟨price, found, above, below⟩ := inside
  exact ⟨price, found, lower.trans above, below.trans upper⟩

theorem ClosesIn.mono {low high low' high' : ℚ} {stops : TradingStops}
    (closes : ClosesIn low high stops) (lower : low' ≤ low) (upper : high ≤ high') :
    ClosesIn low' high' stops := by
  rcases closes with slInside | ⟨full, tpInside⟩
  · exact .inl (slInside.mono lower upper)
  · exact .inr ⟨full, tpInside.mono lower upper⟩

/-- The range of the first segment: from the open toward the high of a candle that does not
fall, toward the low of one that does. -/
def firstSegment (candle : Candle) : ℚ × ℚ :=
  if candle.openPrice ≤ candle.close then (candle.openPrice, candle.high)
  else (candle.low, candle.openPrice)

/-- The open and the close lie in the candle's range. -/
structure WellFormed (candle : Candle) : Prop where
  openAbove : candle.low ≤ candle.openPrice
  openBelow : candle.openPrice ≤ candle.high
  closeAbove : candle.low ≤ candle.close
  closeBelow : candle.close ≤ candle.high

/-- The path of a well-formed candle visits its first segment, then its whole range. -/
theorem segments_of_wellFormed {candle : Candle} (valid : WellFormed candle) :
    ∃ path last, generateIntraCandlePath candle.openPrice candle.high candle.low candle.close =
        .ok path ∧
      segments path = [firstSegment candle, (candle.low, candle.high), last] ∧
      candle.low ≤ (firstSegment candle).1 ∧ (firstSegment candle).2 ≤ candle.high ∧
      candle.low ≤ last.1 ∧ last.2 ≤ candle.high := by
  obtain ⟨openAbove, openBelow, closeAbove, closeBelow⟩ := valid
  have ordered : candle.low ≤ candle.high := openAbove.trans openBelow
  have inside : ¬ (candle.openPrice < candle.low ∨ candle.high < candle.openPrice) := by
    rintro (below | above)
    · exact absurd openAbove (not_le.mpr below)
    · exact absurd openBelow (not_le.mpr above)
  have insideClose : ¬ (candle.close < candle.low ∨ candle.high < candle.close) := by
    rintro (below | above)
    · exact absurd closeAbove (not_le.mpr below)
    · exact absurd closeBelow (not_le.mpr above)
  unfold generateIntraCandlePath firstSegment
  rw [if_neg (not_lt.mpr ordered), if_neg inside, if_neg insideClose]
  by_cases rising : candle.openPrice ≤ candle.close
  · rw [if_pos rising, if_pos rising]
    refine ⟨_, (candle.low, candle.close), rfl, ?_, openAbove, le_refl _, le_refl _, closeBelow⟩
    simp only [segments, min_eq_left openBelow, max_eq_right openBelow, min_eq_right ordered,
      max_eq_left ordered, min_eq_left closeAbove, max_eq_right closeAbove]
  · rw [if_neg rising, if_neg rising]
    refine ⟨_, (candle.close, candle.high), rfl, ?_, le_refl _, openBelow, closeAbove, le_refl _⟩
    simp only [segments, min_eq_right openAbove, max_eq_left openAbove, min_eq_left ordered,
      max_eq_right ordered, min_eq_right closeBelow, max_eq_left closeBelow]

theorem generateIntraCandlePath_error {candle : Candle} (malformed : ¬ WellFormed candle) :
    ∃ e, generateIntraCandlePath candle.openPrice candle.high candle.low candle.close =
      .error e := by
  unfold generateIntraCandlePath
  by_cases inverted : candle.high < candle.low
  · exact ⟨_, if_pos inverted⟩
  · rw [if_neg inverted]
    by_cases outside : candle.openPrice < candle.low ∨ candle.high < candle.openPrice
    · exact ⟨_, if_pos outside⟩
    · rw [if_neg outside]
      by_cases outsideClose : candle.close < candle.low ∨ candle.high < candle.close
      · exact ⟨_, if_pos outsideClose⟩
      · rw [not_or, not_lt, not_lt] at outside outsideClose
        exact absurd ⟨outside.1, outside.2, outsideClose.1, outsideClose.2⟩ malformed

/-- The second segment is the whole range, so only a raise in the first can come before it. -/
theorem closesWithin_segments (stops : TradingStops) {first last : ℚ × ℚ} {low high : ℚ}
    (firstAbove : low ≤ first.1) (firstBelow : first.2 ≤ high) (lastAbove : low ≤ last.1)
    (lastBelow : last.2 ≤ high) :
    ClosesWithin stops [first, (low, high), last] ↔
      InRange low high stops.slPrice ∧ ¬ UnsizedIn first.1 first.2 stops ∨
        stops.tpslMode = .Full ∧ InRange low high stops.tpPrice := by
  have notUnsized : stops.tpslMode = .Full → ∀ low high, ¬ UnsizedIn low high stops := by
    rintro full _ _ ⟨_, _, isPartial, _⟩
    rw [full] at isPartial
    cases isPartial
  constructor
  · rintro (closes | ⟨sized, closes | ⟨_, closes | ⟨_, never⟩⟩⟩)
    · rcases closes with slInside | ⟨full, tpInside⟩
      · exact .inl ⟨slInside.mono firstAbove firstBelow, fun unsized => unsized.1 slInside⟩
      · exact .inr ⟨full, tpInside.mono firstAbove firstBelow⟩
    · rcases closes with slInside | fullTp
      · exact .inl ⟨slInside, sized⟩
      · exact .inr fullTp
    · rcases closes.mono lastAbove lastBelow with slInside | fullTp
      · exact .inl ⟨slInside, sized⟩
      · exact .inr fullTp
    · exact never.elim
  · rintro (⟨slInside, sized⟩ | ⟨full, tpInside⟩)
    · exact .inr ⟨sized, .inl (.inl slInside)⟩
    · exact .inr ⟨notUnsized full _ _, .inl (.inr ⟨full, tpInside⟩)⟩

/-! ## Candles on both paths -/

/-- Who hands the candle over: the bus or the replay of history. -/
inductive CandlePath where
  | live
  | replay
  deriving DecidableEq, Repr

def CandlePath.op : CandlePath → Candle → Op
  | .live, candle => .onCandle candle
  | .replay, candle => .processReplayCandle candle

/-- The candle reached or passed the stop of a position on this side. -/
def StopCrossed (side : Side) (candle : Candle) (sl : ℚ) : Prop :=
  match side with
  | .buy => candle.low ≤ sl
  | .sell => sl ≤ candle.high

/-- No open position of the candle's symbol has a stop the candle reached or passed. -/
def NoneOutlives (candle : Candle) (s : PaperExchange) : Prop :=
  ∀ stops position sl, s.activePositions candle.symbol = some ⟨stops, some position⟩ →
    stops.slPrice = some sl → ¬ StopCrossed position.side candle sl

/-- The candle closes a position with these stops on this path. -/
def StopCovered (candle : Candle) (stops : TradingStops) : CandlePath → Prop
  | .live => ClosesIn candle.low candle.high stops
  | .replay =>
      WellFormed candle ∧
        (InRange candle.low candle.high stops.slPrice ∧
            ¬ UnsizedIn (firstSegment candle).1 (firstSegment candle).2 stops ∨
          stops.tpslMode = .Full ∧ InRange candle.low candle.high stops.tpPrice)

theorem onCandle_spec {candle : Candle} (isClosed : candle.isClosed = true)
    {s : PaperExchange} (ready : Ready s) {stops : TradingStops} {position : OpenPosition}
    (found : s.activePositions candle.symbol = some ⟨stops, some position⟩) :
    (StopCovered candle stops .live ∧
      (onCandle cfg candle s).2.openPosition candle.symbol = none) ∨
    (¬ StopCovered candle stops .live ∧
      Survives stops position candle.symbol (onCandle cfg candle s).2) := by
  have cached : Ready (s.cacheCandle candle) := ⟨⟨ready.atRest.1, ready.atRest.2⟩, ready.commits⟩
  unfold onCandle
  rw [if_pos isClosed]
  rcases checkAndDrain_spec cfg cached found candle.low candle.high with
    ⟨closes, _, vacant⟩ | ⟨stays, survives, _⟩
  · exact .inl ⟨closes, vacant⟩
  · exact .inr ⟨stays, survives⟩

theorem processReplayCandle_spec {candle : Candle} {s : PaperExchange} (ready : Ready s)
    {stops : TradingStops} {position : OpenPosition}
    (found : s.activePositions candle.symbol = some ⟨stops, some position⟩) :
    (StopCovered candle stops .replay ∧
      (processReplayCandle cfg candle s).2.openPosition candle.symbol = none) ∨
    (¬ StopCovered candle stops .replay ∧
      Survives stops position candle.symbol (processReplayCandle cfg candle s).2) := by
  unfold processReplayCandle
  simp only
  generalize clocked : (if cfg.replayClock = true then s.setReplayClock candle.bucketStart
    else s) = s₁
  have foundLater : s₁.activePositions candle.symbol = some ⟨stops, some position⟩ := by
    rw [← clocked]
    split <;> exact found
  have cached : Ready (s₁.cacheCandle { candle with isClosed := true }) := by
    rw [← clocked]
    split <;> exact ⟨⟨ready.atRest.1, ready.atRest.2⟩, ready.commits⟩
  by_cases valid : WellFormed candle
  · obtain ⟨path, last, generated, visited, firstAbove, firstBelow, lastAbove, lastBelow⟩ :=
      segments_of_wellFormed valid
    have covered := closesWithin_segments stops firstAbove firstBelow lastAbove lastBelow
    rw [← visited] at covered
    rw [generated]
    rcases replaySegments_spec cfg (segments path) cached foundLater with
      ⟨closes, vacant⟩ | ⟨stays, survives⟩
    · exact .inl ⟨⟨valid, covered.mp closes⟩, vacant⟩
    · exact .inr ⟨fun closes => stays (covered.mpr closes.2), survives⟩
  · obtain ⟨e, raised⟩ := generateIntraCandlePath_error valid
    rw [raised]
    exact .inr ⟨fun closes => valid closes.1, stops, position, foundLater, .refl stops, rfl⟩

variable (cfg) in
/-- What a candle does to the position of its symbol, on either path. -/
theorem candle_spec (path : CandlePath) {candle : Candle} (isClosed : candle.isClosed = true)
    (now : ℕ) {s : PaperExchange} (atRest : AtRest s) {stops : TradingStops}
    {position : OpenPosition}
    (found : s.activePositions candle.symbol = some ⟨stops, some position⟩) :
    (StopCovered candle stops path ∧
      (step cfg { op := path.op candle, now := now } s).openPosition candle.symbol = none) ∨
    (¬ StopCovered candle stops path ∧
      Survives stops position candle.symbol
        (step cfg { op := path.op candle, now := now } s)) := by
  have ready : Ready { s with now := now, dbOutcomes := [] } := ⟨⟨atRest.1, atRest.2⟩, rfl⟩
  cases path with
  | live => exact onCandle_spec isClosed ready found
  | replay => exact processReplayCandle_spec ready found

/-- A candle opens nothing. -/
theorem candle_none (path : CandlePath) {candle : Candle} (now : ℕ) {s : PaperExchange}
    (atRest : AtRest s) (vacant : s.openPosition candle.symbol = none) :
    (step cfg { op := path.op candle, now := now } s).openPosition candle.symbol = none := by
  cases path with
  | live =>
      show (onCandle cfg candle _).2.openPosition candle.symbol = none
      unfold onCandle
      split
      · have cached : Ready (PaperExchange.cacheCandle
            { s with now := now, dbOutcomes := [] } candle) := ⟨⟨atRest.1, atRest.2⟩, rfl⟩
        exact checkAndDrain_none cfg cached vacant candle.low candle.high
      · exact vacant
  | replay =>
      show (processReplayCandle cfg candle _).2.openPosition candle.symbol = none
      unfold processReplayCandle
      simp only
      split
      · split <;> exact vacant
      · refine replaySegments_none _ ?_ ?_
        · split <;> exact ⟨⟨atRest.1, atRest.2⟩, rfl⟩
        · split <;> exact vacant

/-- **When no position outlives its stop.**  In every reachable state and on both paths: no
open position is left with a stop the candle reached or passed exactly when the candle closes
every such position. -/
theorem noneOutlives_iff (calls : List Call) (path : CandlePath) {candle : Candle}
    (isClosed : candle.isClosed = true) (now : ℕ) :
    NoneOutlives candle
        (step cfg { op := path.op candle, now := now } (run (step cfg) {} calls)) ↔
      ∀ stops position sl,
        (run (step cfg) {} calls).activePositions candle.symbol = some ⟨stops, some position⟩ →
        stops.slPrice = some sl → StopCrossed position.side candle sl →
        StopCovered candle stops path := by
  have atRest : AtRest (run (step cfg) {} calls) := run_atRest calls
  generalize run (step cfg) {} calls = s at atRest ⊢
  constructor
  · intro none stops position sl found stopped crossed
    rcases candle_spec cfg path isClosed now atRest found with
      ⟨covered, _⟩ | ⟨_, stops', position', found', sameLevels, sameSide⟩
    · exact covered
    · have stopped' : stops'.slPrice = some sl := by rw [← stopped, ← sameLevels]
      exact absurd (sameSide ▸ crossed) (none stops' position' sl found' stopped')
  · intro covers stops' position' sl found' stopped' crossed
    have held' := openPosition_of_active
      (b := (step cfg { op := path.op candle, now := now } s).books) found'
    rw [openPosition_books] at held'
    cases held : s.openPosition candle.symbol with
    | none =>
        rw [candle_none path now atRest held] at held'
        cases held'
    | some position =>
        obtain ⟨stops, found⟩ := active_of_openPosition (b := s.books) held
        rcases candle_spec cfg path isClosed now atRest found with
          ⟨_, vacant⟩ | ⟨stays, stops'', position'', found'', sameLevels, sameSide⟩
        · rw [vacant] at held'
          cases held'
        · rw [found'] at found''
          cases found''
          have stopped : stops.slPrice = some sl := by rw [← stopped', ← sameLevels]
          exact stays (covers stops position sl found stopped (sameSide ▸ crossed))

/-- A long of 1 from 100 with its stop at 95. -/
def openWithStop : List Call :=
  [{ op := .onCandle (btcCandle 100 101 99 100) },
   { op := .placeMarketOrder "BTCUSDT" .buy 1 false },
   { op := .setTradingStop "BTCUSDT" .Full (some 95) none none none }]

/-- A candle through the stop closes the long on both paths. -/
theorem openWithStop_covered :
    NoneOutlives (btcCandle 97 98 94 96)
        (step plainConfig { op := CandlePath.live.op (btcCandle 97 98 94 96) }
          (run (step plainConfig) {} openWithStop)) ∧
      NoneOutlives (btcCandle 97 98 94 96)
        (step plainConfig { op := CandlePath.replay.op (btcCandle 97 98 94 96) }
          (run (step plainConfig) {} openWithStop)) := by
  have held : (run (step plainConfig) {} openWithStop).activePositions "BTCUSDT" =
      some { stops := { slPrice := some 95 }
             position := some
               { tradeId := 1, side := .buy, qty := 1, entryPrice := 100, entryFee := 0,
                 feesPaid := 0 } } := by
    decide +kernel
  have inside : InRange 94 98 (some (95 : ℚ)) := by decide +kernel
  refine ⟨(noneOutlives_iff openWithStop .live rfl 0).mpr ?_,
    (noneOutlives_iff openWithStop .replay rfl 0).mpr ?_⟩
  · intro stops position sl found _ _
    rw [show (btcCandle 97 98 94 96).symbol = "BTCUSDT" from rfl, held] at found
    cases found
    exact .inl inside
  · intro stops position sl found _ _
    rw [show (btcCandle 97 98 94 96).symbol = "BTCUSDT" from rfl, held] at found
    cases found
    refine ⟨⟨?_, ?_, ?_, ?_⟩, .inl ⟨inside, ?_⟩⟩
    iterate 4 decide +kernel
    rintro ⟨_, tpInside, _⟩
    revert tpInside
    decide +kernel

/-- The next candle opens below the stop and never comes back: the long stays open. -/
theorem gapped_stop_outlives :
    ¬ ∀ (calls : List Call) (path : CandlePath) (candle : Candle), candle.isClosed = true →
      NoneOutlives candle
        (step plainConfig { op := path.op candle } (run (step plainConfig) {} calls)) := by
  intro always
  have gapped := always openWithStop .live (btcCandle 90 92 80 85) rfl
  have held : (step plainConfig { op := CandlePath.live.op (btcCandle 90 92 80 85) }
      (run (step plainConfig) {} openWithStop)).activePositions "BTCUSDT" =
      some { stops := { slPrice := some 95 }
             position := some
               { tradeId := 1, side := .buy, qty := 1, entryPrice := 100, entryFee := 0,
                 feesPaid := 0 } } := by
    decide +kernel
  refine gapped _ _ 95 held rfl ?_
  show (80 : ℚ) ≤ 95
  norm_num

end Scalper.Paper
