import Scalper.Lib.Polyline
import Scalper.Paper.Pnl
import Scalper.Paper.Stops

/-!
# The live and the replayed candle

The live path looks for the stop and then for the take-profit in the whole range of a candle.  The
replay path looks for them in the ranges of three legs, from the open over both extremes to the
close, one leg after the other.

`candle_paths_agree` relates the two for a position with both levels that closes as a whole.  They
close it for the same candles, because the second leg of the replay is the whole range.  From an
open between the levels the replay fills at the first level on the way.  And the live path, which
prefers the stop, never realizes more than the replay.
-/

set_option autoImplicit false

namespace Scalper.Paper

open Scalper.Lib Scalper.Exchange

/-! ## Levels and ranges -/

/-- A position with a stop and a take-profit, either of which closes all of it. -/
structure FullStops (stops : TradingStops) (sl tp : ℚ) : Prop where
  mode : stops.tpslMode = .Full
  sl : stops.slPrice = some sl
  tp : stops.tpPrice = some tp

/-- The level a range triggers, the stop before the take-profit. -/
def levelIn (sl tp : ℚ) (range : ℚ × ℚ) : Option ℚ :=
  if range.1 ≤ sl ∧ sl ≤ range.2 then some sl
  else if range.1 ≤ tp ∧ tp ≤ range.2 then some tp
  else none

section Levels

variable {sl tp low high x : ℚ} {ranges : List (ℚ × ℚ)}

theorem levelIn_isSome_iff : (levelIn sl tp (low, high)).isSome ↔
    (low ≤ sl ∧ sl ≤ high) ∨ low ≤ tp ∧ tp ≤ high := by
  rw [levelIn]
  split_ifs with first second
  · exact iff_of_true rfl (.inl first)
  · exact iff_of_true rfl (.inr second)
  · refine iff_of_false Bool.false_ne_true ?_
    rintro (inside | inside)
    · exact first inside
    · exact second inside

theorem levelIn_eq (found : levelIn sl tp (low, high) = some x) : x = sl ∨ x = tp := by
  rw [levelIn] at found
  split_ifs at found with first second
  · exact .inl (Option.some.inj found).symm
  · exact .inr (Option.some.inj found).symm

/-- A range inside another triggers what that does, or the take-profit where that triggers the
stop. -/
theorem levelIn_within {low' high' y : ℚ} (lower : low ≤ low') (upper : high' ≤ high)
    (whole : levelIn sl tp (low, high) = some x) (inner : levelIn sl tp (low', high') = some y) :
    x = y ∨ x = sl ∧ y = tp := by
  rcases levelIn_eq inner with rfl | rfl
  · -- a stop in the inner range is in the outer one
    have within : low' ≤ y ∧ y ≤ high' ∨ y = tp := by
      rw [levelIn] at inner
      split_ifs at inner with first second
      · exact .inl first
      · exact .inr (Option.some.inj inner).symm
    rcases within with within | rfl
    · rw [levelIn, if_pos ⟨lower.trans within.1, within.2.trans upper⟩] at whole
      exact .inl (Option.some.inj whole).symm
    · rcases levelIn_eq whole with same | same <;> exact .inl same
  · rcases levelIn_eq whole with same | same
    · exact .inr ⟨same, rfl⟩
    · exact .inl same

/-- The ranges of legs trigger the levels on them. -/
theorem findSome?_ranges (pairs : List (ℚ × ℚ)) :
    (pairs.map fun leg => (min leg.1 leg.2, max leg.1 leg.2)).findSome? (levelIn sl tp) =
      pairs.findSome? (levelOn sl tp) := by
  rw [List.findSome?_map]
  rfl

end Levels

/-! ## One range -/

/-- The whole position leaves at a price. -/
def ClosedAt (cfg : Config) (symbol : String) (position : OpenPosition) (x : ℚ)
    (before after : Books) : Prop :=
  ∃ leg : ExitLeg, leg.symbol = symbol ∧ leg.price = x ∧
    leg.fee = computeFee position.qty x cfg.feeRate ∧ after = (Entry.closed leg).apply cfg before

/-- What becomes of the books when a level, or none, is triggered: the position leaves at it unless
its transaction fails. -/
def Settles (cfg : Config) (symbol : String) (position : OpenPosition) (before : PaperExchange)
    (level : Option ℚ) (after : Books) : Prop :=
  match level with
  | none => after = before.books
  | some x =>
      ((before.db.trades.any (·.id == position.tradeId) && before.commits) = true →
        ClosedAt cfg symbol position x before.books after) ∧
      ((before.db.trades.any (·.id == position.tradeId) && before.commits) = false →
        after = Entry.drawn.apply cfg before.books)

section Range

variable {cfg : Config} {symbol : String} {s : PaperExchange} {stops : TradingStops}
  {position : OpenPosition} {sl tp low high x : ℚ}

variable (symbol position low high) in
/-- The crossing check of such a position. -/
theorem detectCross_full (full : FullStops stops sl tp) (now : ℕ) :
    (levelIn sl tp (low, high) = none ∧
      detectCross ⟨stops, some position⟩ symbol low high now = .ok none) ∨
    ∃ fill, Crossed stops position symbol low high now fill ∧
      levelIn sl tp (low, high) = some fill.triggerPrice ∧
      ¬ (fill.kind = .tp ∧ fill.tpslMode = .Partial) ∧
      detectCross ⟨stops, some position⟩ symbol low high now = .ok (some fill) := by
  have inSl : InRange low high stops.slPrice ↔ low ≤ sl ∧ sl ≤ high := by
    rw [full.sl]
    exact ⟨by rintro ⟨_, ⟨⟩, within⟩; exact within, fun within => ⟨sl, rfl, within⟩⟩
  have inTp : InRange low high stops.tpPrice ↔ low ≤ tp ∧ tp ≤ high := by
    rw [full.tp]
    exact ⟨by rintro ⟨_, ⟨⟩, within⟩; exact within, fun within => ⟨tp, rfl, within⟩⟩
  rcases detectCross_cases stops position symbol low high now with
    ⟨slClear, tpClear, clear⟩ | ⟨-, -, isPartial, -⟩ | ⟨fill, crossed, detected⟩
  · refine .inl ⟨?_, clear⟩
    rw [levelIn, if_neg (inSl.not.mp slClear), if_neg (inTp.not.mp tpClear)]
  · rw [full.mode] at isPartial
    cases isPartial
  · refine .inr ⟨fill, crossed, ?_, ?_, detected⟩
    · rcases crossed.level with ⟨-, slInside, level, -⟩ | ⟨-, slClear, tpInside, level, -⟩
      · rw [levelIn, if_pos (inSl.mp slInside), ← full.sl, level]
      · rw [levelIn, if_neg (inSl.not.mp slClear), if_pos (inTp.mp tpInside), ← full.tp, level]
    · rintro ⟨-, isPartial⟩
      rw [crossed.tpslMode_eq, full.mode] at isPartial
      cases isPartial

variable (cfg) in
/-- A range without a level changes nothing. -/
theorem checkAndDrain_clear (full : FullStops stops sl tp) (empty : s.pendingSlTpFills = [])
    (found : s.activePositions symbol = some ⟨stops, some position⟩)
    (clear : levelIn sl tp (low, high) = none) :
    checkAndDrain cfg symbol low high s = (.ok (), s) := by
  rcases detectCross_full symbol position low high full s.now with
    ⟨-, detected⟩ | ⟨fill, -, level, -, -⟩
  · exact (checkAndDrain_held cfg low high empty found).1 detected
  · rw [clear] at level
    cases level

variable (cfg) in
/-- A range with one settles the position, and raises where its transaction fails. -/
theorem checkAndDrain_level (full : FullStops stops sl tp) (empty : s.pendingSlTpFills = [])
    (found : s.activePositions symbol = some ⟨stops, some position⟩)
    (level : levelIn sl tp (low, high) = some x) :
    Settles cfg symbol position s (some x) (checkAndDrain cfg symbol low high s).2.books ∧
      (checkAndDrain cfg symbol low high s).2.pendingSlTpFills = [] ∧
      ((checkAndDrain cfg symbol low high s).1 = .ok () →
        (s.db.trades.any (·.id == position.tradeId) && s.commits) = true) := by
  rcases detectCross_full symbol position low high full s.now with
    ⟨clear, -⟩ | ⟨fill, crossed, level', whole, detected⟩
  · rw [level] at clear
    cases clear
  · rw [level] at level'
    obtain rfl := Option.some.inj level'
    obtain ⟨frame, -, made, refused⟩ :=
      (checkAndDrain_held cfg low high empty found).2.2 fill detected crossed
    rw [PendingSLTPFill.entry, if_neg whole] at made
    refine ⟨⟨fun accepted => ?_, fun failed => (refused failed).2⟩, frame.pending.trans empty,
      fun returned => ?_⟩
    · refine ⟨fill.leg cfg, crossed.symbol_eq, rfl, ?_, (made accepted).2⟩
      rw [← crossed.whole whole]
      rfl
    · by_contra failed
      obtain ⟨⟨e, raised⟩, -⟩ := refused (Bool.eq_false_iff.mpr failed)
      rw [returned] at raised
      cases raised

/-! ## The ranges of a replayed candle -/

theorem ClosedAt.openPosition_none {before after : Books}
    (found : before.activePositions symbol = some ⟨stops, some position⟩)
    (closed : ClosedAt cfg symbol position x before after) : after.openPosition symbol = none := by
  obtain ⟨leg, sameSymbol, -, -, rfl⟩ := closed
  rw [← sameSymbol] at found
  rw [openPosition_closed found, if_pos sameSymbol.symm]

/-- Without a position the remaining ranges change nothing. -/
theorem replaySegments_vacant (ranges : List (ℚ × ℚ)) (empty : s.pendingSlTpFills = [])
    (vacant : s.openPosition symbol = none) :
    replaySegments cfg symbol ranges s = (.ok (), s) := by
  induction ranges with
  | nil => rfl
  | cons range ranges ih =>
      rw [replaySegments, checkAndDrain_unheld range.1 range.2 empty vacant]
      exact ih

variable (cfg) in
/-- The first range with a level settles the position. -/
theorem replaySegments_settles (full : FullStops stops sl tp) (ranges : List (ℚ × ℚ))
    (empty : s.pendingSlTpFills = [])
    (found : s.activePositions symbol = some ⟨stops, some position⟩) :
    Settles cfg symbol position s (ranges.findSome? (levelIn sl tp))
      (replaySegments cfg symbol ranges s).2.books := by
  induction ranges with
  | nil => exact rfl
  | cons range ranges ih =>
      rw [List.findSome?_cons]
      cases level : levelIn sl tp range with
      | none =>
          rw [replaySegments, checkAndDrain_clear cfg full empty found level]
          exact ih
      | some x =>
          obtain ⟨settles, emptied, accepts⟩ :=
            checkAndDrain_level cfg full empty found level
          rw [replaySegments]
          cases ran : checkAndDrain cfg symbol range.1 range.2 s with
          | mk result after =>
              rw [ran] at settles emptied accepts
              cases result with
              | error raised => exact settles
              | ok _ =>
                  -- what is settled is closed, and nothing follows
                  have vacant := (settles.1 (accepts rfl)).openPosition_none found
                  rw [openPosition_books] at vacant
                  simp only [replaySegments_vacant ranges emptied vacant]
                  exact settles

end Range

/-! ## Both paths -/

/-- The points a replayed candle visits after its open. -/
def visited (candle : Candle) : List ℚ :=
  if candle.openPrice ≤ candle.close then [candle.high, candle.low, candle.close]
  else [candle.low, candle.high, candle.close]

/-- The ranges of the replay are those of the legs over the visited points. -/
theorem segments_eq {candle : Candle} (valid : WellFormed candle) :
    ∃ path, generateIntraCandlePath candle.openPrice candle.high candle.low candle.close =
        .ok path ∧
      segments path = (legs candle.openPrice (visited candle)).map
        fun leg => (min leg.1 leg.2, max leg.1 leg.2) := by
  obtain ⟨openAbove, openBelow, closeAbove, closeBelow⟩ := valid
  rw [generateIntraCandlePath, if_neg (not_lt.mpr (openAbove.trans openBelow)),
    if_neg (not_or.mpr ⟨not_lt.mpr openAbove, not_lt.mpr openBelow⟩),
    if_neg (not_or.mpr ⟨not_lt.mpr closeAbove, not_lt.mpr closeBelow⟩), visited]
  split_ifs with rising
  · exact ⟨_, rfl, rfl⟩
  · exact ⟨_, rfl, rfl⟩

/-- Before fees the stop realizes no more than the take-profit: below it for a long, above it for a
short. -/
def OnLosingSide (position : OpenPosition) (sl tp : ℚ) : Prop :=
  grossPnl position.side position.entryPrice sl position.qty ≤
    grossPnl position.side position.entryPrice tp position.qty

theorem onLosingSide_iff {position : OpenPosition} {sl tp : ℚ} (positive : 0 < position.qty) :
    OnLosingSide position sl tp ↔
      (position.side = .buy ∧ sl ≤ tp) ∨ (position.side = .sell ∧ tp ≤ sl) := by
  rw [OnLosingSide]
  cases position.side with
  | buy =>
      simp only [grossPnl, true_and, reduceCtorEq, false_and, or_false]
      rw [mul_le_mul_iff_left₀ positive, sub_le_sub_iff_right]
  | sell =>
      simp only [grossPnl, true_and, reduceCtorEq, false_and, false_or]
      rw [mul_le_mul_iff_left₀ positive, sub_le_sub_iff_left]

section Profit

variable {position : OpenPosition} {sl tp feeRate : ℚ}

/-- A fee of at most the notional does not turn the order around. -/
theorem closingPnl_le (nonneg : 0 ≤ feeRate) (le_one : feeRate ≤ 1)
    (losing : OnLosingSide position sl tp) :
    computeRealizedPnl position.side position.entryPrice sl position.qty position.entryFee
        (computeFee position.qty sl feeRate) ≤
      computeRealizedPnl position.side position.entryPrice tp position.qty position.entryFee
        (computeFee position.qty tp feeRate) := by
  refine quantize_mono ?_
  rw [OnLosingSide] at losing
  rw [computeFee, computeFee]
  -- the difference of the fees is the fee rate of the difference of the prices
  have fees : |position.qty| * tp * feeRate - |position.qty| * sl * feeRate ≤
      grossPnl position.side position.entryPrice tp position.qty -
        grossPnl position.side position.entryPrice sl position.qty := by
    have moved : |(tp - sl) * position.qty| =
        grossPnl position.side position.entryPrice tp position.qty -
          grossPnl position.side position.entryPrice sl position.qty := by
      cases side : position.side with
      | buy =>
          simp only [side, grossPnl] at losing ⊢
          rw [abs_of_nonneg (by linarith)]
          ring
      | sell =>
          simp only [side, grossPnl] at losing ⊢
          rw [abs_of_nonpos (by linarith)]
          ring
    calc |position.qty| * tp * feeRate - |position.qty| * sl * feeRate
        = (tp - sl) * |position.qty| * feeRate := by ring
      _ ≤ |(tp - sl) * position.qty| * feeRate := by
          rw [abs_mul]
          exact mul_le_mul_of_nonneg_right
            (mul_le_mul_of_nonneg_right (le_abs_self _) (abs_nonneg _)) nonneg
      _ ≤ |(tp - sl) * position.qty| := mul_le_of_le_one_right (abs_nonneg _) le_one
      _ = _ := moved
  linarith

end Profit

section Paths

variable {cfg : Config} {symbol : String} {s : PaperExchange} {stops : TradingStops}
  {position : OpenPosition} {sl tp x : ℚ} {candle : Candle}

/-- What is settled at a level is closed where its transaction commits. -/
theorem Settles.openPosition_iff {level : Option ℚ} {after : Books}
    (found : s.activePositions symbol = some ⟨stops, some position⟩)
    (settles : Settles cfg symbol position s level after) :
    after.openPosition symbol = none ↔
      level.isSome ∧ (s.db.trades.any (·.id == position.tradeId) && s.commits) = true := by
  have held : s.books.openPosition symbol = some position := openPosition_of_active found
  cases level with
  | none =>
      obtain rfl : after = s.books := settles
      rw [held]
      exact iff_of_false (Option.some_ne_none _) fun level => Bool.false_ne_true level.1
  | some x =>
      cases accepted : s.db.trades.any (·.id == position.tradeId) && s.commits with
      | true => exact iff_of_true ((settles.1 accepted).openPosition_none found) ⟨rfl, rfl⟩
      | false =>
          obtain rfl := settles.2 accepted
          change s.books.openPosition symbol = none ↔ _
          rw [held]
          exact iff_of_false (Option.some_ne_none _) fun commits => Bool.false_ne_true commits.2

/-- A position that is closed has left at the level. -/
theorem Settles.closedAt {level : Option ℚ} {after : Books}
    (found : s.activePositions symbol = some ⟨stops, some position⟩)
    (settles : Settles cfg symbol position s level after)
    (vacant : after.openPosition symbol = none) :
    ∃ x, level = some x ∧ ClosedAt cfg symbol position x s.books after := by
  obtain ⟨triggered, accepted⟩ := (settles.openPosition_iff found).mp vacant
  obtain ⟨x, rfl⟩ := Option.isSome_iff_exists.mp triggered
  exact ⟨x, rfl, settles.1 accepted⟩

/-- The event of a position that left at a price. -/
theorem ClosedAt.event_price (found : s.activePositions symbol = some ⟨stops, some position⟩)
    {after : Books} (closed : ClosedAt cfg symbol position x s.books after) :
    ∃ event, after.executionQueue = s.executionQueue ++ [event] ∧ event.price = x := by
  obtain ⟨leg, rfl, rfl, -, rfl⟩ := closed
  rw [apply_closed (b := s.books) found]
  exact ⟨leg.event s.books.uuids, rfl, rfl⟩

/-- Its row in the trade table. -/
theorem ClosedAt.realizedPnl_eq (found : s.activePositions symbol = some ⟨stops, some position⟩)
    {after : Books} (closed : ClosedAt cfg symbol position x s.books after) {row : PaperTrade}
    (member : row ∈ after.db.trades) (same : row.id = position.tradeId) :
    row.realizedPnl = some (cfg.columns.money
      (computeRealizedPnl position.side position.entryPrice x position.qty position.entryFee
        (computeFee position.qty x cfg.feeRate) + position.realizedPnl)) := by
  obtain ⟨leg, rfl, rfl, fee, rfl⟩ := closed
  rw [apply_closed (b := s.books) found] at member
  obtain ⟨old, -, ⟨-, rfl⟩ | ⟨other, rfl⟩⟩ := mem_updateWhere.mp member
  · rw [← fee]
    rfl
  · exact absurd same (by simpa using other)

variable (cfg) in
/-- The live path looks at the whole range. -/
theorem onCandle_settles (full : FullStops stops sl tp) (empty : s.pendingSlTpFills = [])
    (found : s.activePositions candle.symbol = some ⟨stops, some position⟩) :
    Settles cfg candle.symbol position s (levelIn sl tp (candle.low, candle.high))
      (onCandle cfg { candle with isClosed := true } s).2.books := by
  rw [onCandle, if_pos rfl]
  cases level : levelIn sl tp (candle.low, candle.high) with
  | none =>
      have clear := checkAndDrain_clear cfg (s := s.cacheCandle { candle with isClosed := true })
        full empty found level
      rw [clear]
      exact rfl
  | some x =>
      exact (checkAndDrain_level cfg (s := s.cacheCandle { candle with isClosed := true }) full
        empty found level).1

variable (cfg) in
/-- The replay path looks at the legs between the visited points, one after the other. -/
theorem processReplayCandle_settles (full : FullStops stops sl tp) (valid : WellFormed candle)
    (empty : s.pendingSlTpFills = [])
    (found : s.activePositions candle.symbol = some ⟨stops, some position⟩) :
    Settles cfg candle.symbol position s
      ((legs candle.openPrice (visited candle)).findSome? (levelOn sl tp))
      (processReplayCandle cfg candle s).2.books := by
  obtain ⟨path, generated, ranges⟩ := segments_eq valid
  rw [← findSome?_ranges, ← ranges, processReplayCandle]
  simp only [generated]
  -- the clock and the caches are no part of what is settled
  cases cfg.replayClock with
  | false =>
      exact replaySegments_settles cfg (s := s.cacheCandle { candle with isClosed := true }) full
        (segments path) empty found
  | true =>
      exact replaySegments_settles cfg
        (s := (s.setReplayClock candle.bucketStart).cacheCandle { candle with isClosed := true })
        full (segments path) empty found

variable (sl tp) in
/-- The legs trigger a level when the whole range does, and no worse one: the same level, or the
take-profit where the whole range triggers the stop. -/
theorem levelOn_visited (valid : WellFormed candle) :
    ((legs candle.openPrice (visited candle)).findSome? (levelOn sl tp)).isSome =
        (levelIn sl tp (candle.low, candle.high)).isSome ∧
      ∀ x y, levelIn sl tp (candle.low, candle.high) = some x →
        (legs candle.openPrice (visited candle)).findSome? (levelOn sl tp) = some y →
        x = y ∨ x = sl ∧ y = tp := by
  obtain ⟨path, generated, ranges⟩ := segments_eq valid
  obtain ⟨path', last, generated', visits, firstAbove, firstBelow, lastAbove, lastBelow⟩ :=
    segments_of_wellFormed valid
  obtain rfl := Except.ok.inj (generated.symm.trans generated')
  rw [← findSome?_ranges, ← ranges, visits]
  have inside : ∀ range ∈ [firstSegment candle, (candle.low, candle.high), last],
      candle.low ≤ range.1 ∧ range.2 ≤ candle.high := by
    simp only [List.mem_cons, List.not_mem_nil, or_false]
    rintro range (rfl | rfl | rfl)
    · exact ⟨firstAbove, firstBelow⟩
    · exact ⟨le_refl _, le_refl _⟩
    · exact ⟨lastAbove, lastBelow⟩
  refine ⟨Bool.eq_iff_iff.mpr ?_, fun x y whole found => ?_⟩
  · rw [List.findSome?_isSome_iff]
    refine ⟨?_, fun triggered => ⟨_, by simp, triggered⟩⟩
    rintro ⟨range, member, triggered⟩
    obtain ⟨lower, upper⟩ := inside range member
    rw [levelIn_isSome_iff] at triggered ⊢
    exact triggered.imp (fun hit => ⟨lower.trans hit.1, hit.2.trans upper⟩)
      fun hit => ⟨lower.trans hit.1, hit.2.trans upper⟩
  · obtain ⟨range, member, inner⟩ := List.exists_of_findSome?_eq_some found
    obtain ⟨lower, upper⟩ := inside range member
    exact levelIn_within lower upper whole inner

end Paths

/-- Replayed and live, a candle closes such a position in the same states.  From an open between the
levels the replay fills at the first one on the way, and the live path never realizes more. -/
theorem candle_paths_agree (cfg : Config) {s : PaperExchange} {stops : TradingStops}
    {position : OpenPosition} {sl tp : ℚ} {candle : Candle} (full : FullStops stops sl tp)
    (valid : WellFormed candle) (empty : s.pendingSlTpFills = [])
    (found : s.activePositions candle.symbol = some ⟨stops, some position⟩) :
    ((processReplayCandle cfg candle s).2.openPosition candle.symbol = none ↔
        (onCandle cfg { candle with isClosed := true } s).2.openPosition candle.symbol = none) ∧
      (candle.openPrice ∈ Set.uIoo sl tp →
        (processReplayCandle cfg candle s).2.openPosition candle.symbol = none →
        ∃ event, (processReplayCandle cfg candle s).2.executionQueue =
            s.executionQueue ++ [event] ∧
          FirstMet {sl, tp} event.price (legs candle.openPrice (visited candle))) ∧
      (cfg.columns = Columns.postgres → 0 ≤ cfg.feeRate → cfg.feeRate ≤ 1 →
        OnLosingSide position sl tp →
        (onCandle cfg { candle with isClosed := true } s).2.openPosition candle.symbol = none →
        ∀ row ∈ (onCandle cfg { candle with isClosed := true } s).2.db.trades,
        ∀ row' ∈ (processReplayCandle cfg candle s).2.db.trades,
          row.id = position.tradeId → row'.id = position.tradeId →
          ∃ pnl pnl', row.realizedPnl = some pnl ∧ row'.realizedPnl = some pnl' ∧ pnl ≤ pnl') := by
  have live := onCandle_settles cfg full empty found
  have replay := processReplayCandle_settles cfg full valid empty found
  obtain ⟨sameTrigger, optimism⟩ := levelOn_visited sl tp valid
  have agree : (processReplayCandle cfg candle s).2.openPosition candle.symbol = none ↔
      (onCandle cfg { candle with isClosed := true } s).2.openPosition candle.symbol = none := by
    rw [← openPosition_books, ← openPosition_books, live.openPosition_iff found,
      replay.openPosition_iff found, sameTrigger]
  refine ⟨agree, fun between vacant => ?_, ?_⟩
  · obtain ⟨x, level, closed⟩ := replay.closedAt found vacant
    obtain ⟨event, queued, rfl⟩ := closed.event_price found
    exact ⟨event, queued, firstMet_of_findSome? between level⟩
  · intro postgres nonneg le_one losing vacant row member row' member' same same'
    obtain ⟨x, level, closed⟩ := live.closedAt found vacant
    obtain ⟨y, level', closed'⟩ := replay.closedAt found (agree.mpr vacant)
    refine ⟨_, _, closed.realizedPnl_eq found member same,
      closed'.realizedPnl_eq found member' same', ?_⟩
    rcases optimism x y level level' with rfl | ⟨rfl, rfl⟩
    · exact le_refl _
    · rw [postgres]
      exact numeric_mono (add_le_add_left (closingPnl_le nonneg le_one losing) _)

/-- A long of 1 from 100 with its stop at 95 and its take-profit at 105. -/
def openWithLevels : List Call :=
  [{ op := .onCandle (btcCandle 100 101 99 100) },
   { op := .placeMarketOrder "BTCUSDT" .buy 1 false },
   { op := .setTradingStop "BTCUSDT" .Full (some 95) (some 105) none none }]

/-- A candle over both levels that rises: the replay meets the take-profit before the stop the live
path takes. -/
theorem openWithLevels_agree :
    (∃ event, (processReplayCandle feeConfig (btcCandle 100 106 94 101)
          (run (step feeConfig) {} openWithLevels)).2.executionQueue =
        (run (step feeConfig) {} openWithLevels).executionQueue ++ [event] ∧
      FirstMet {95, 105} event.price (legs 100 [106, 94, 101])) ∧
    ∀ row ∈ (onCandle feeConfig (btcCandle 100 106 94 101)
        (run (step feeConfig) {} openWithLevels)).2.db.trades,
    ∀ row' ∈ (processReplayCandle feeConfig (btcCandle 100 106 94 101)
        (run (step feeConfig) {} openWithLevels)).2.db.trades,
      row.id = 1 → row'.id = 1 →
      ∃ pnl pnl', row.realizedPnl = some pnl ∧ row'.realizedPnl = some pnl' ∧ pnl ≤ pnl' := by
  have held : (run (step feeConfig) {} openWithLevels).activePositions "BTCUSDT" =
      some { stops := { slPrice := some 95, tpPrice := some 105 }
             position := some
               { tradeId := 1, side := .buy, qty := 1, entryPrice := 100,
                 entryFee := 55 / 1000, feesPaid := 55 / 1000 } } := by
    decide +kernel
  have valid : WellFormed (btcCandle 100 106 94 101) := by
    constructor <;> decide +kernel
  obtain ⟨-, met, pnl⟩ := candle_paths_agree feeConfig ⟨rfl, rfl, rfl⟩ valid
    (by decide +kernel) held
  refine ⟨met ?_ (by decide +kernel), pnl rfl (by decide +kernel) (by decide +kernel) ?_ ?_⟩
  · rw [Set.uIoo_of_le (by decide +kernel)]
    constructor <;> decide +kernel
  · change (95 - 100 : ℚ) * 1 ≤ (105 - 100) * 1
    norm_num
  · decide +kernel

end Scalper.Paper
