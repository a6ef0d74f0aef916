import Scalper.Paper.Books

/-!
# Every operation is a sequence of entries

One inversion lemma for each operation of the adapter: which entries it can make, and what
the code had checked when it made them.  A crossing check with its drain is read as one of
four endings (`CrossOutcome`), a market order as one of four (`placeMarketOrder_cases`).

The main result is `step_reaches`: the books after a call are reached from the books before
it by allowed entries, each meeting any further condition the caller can vouch for.  The
invariants of the other modules are proved over entries only.
-/

set_option autoImplicit false

namespace Scalper.Paper

open Scalper.Lib Scalper.Exchange

/-! ## What an operation leaves alone -/

/-- No operation but a candle touches the price caches; none leaves a fill waiting or moves
the time. -/
structure Frame (s s' : PaperExchange) : Prop where
  pending : s'.pendingSlTpFills = s.pendingSlTpFills
  now : s'.now = s.now
  lastPrice : s'.lastPrice = s.lastPrice
  lastCandle : s'.lastCandle = s.lastCandle

theorem Frame.refl (s : PaperExchange) : Frame s s := ⟨rfl, rfl, rfl, rfl⟩

/-! ## Market orders -/

section Orders

variable (cfg : Config)

/-- The entry `_persist_open` makes. -/
def openEntry (t : OrderTicket) (s : PaperExchange) : Entry :=
  match s.openPosition t.symbol with
  | some _ => .drawn
  | none =>
      if !s.db.positions.any (PaperPosition.at cfg.botId t.symbol) && s.commits then .opened t
      else .drawn

/-- The entry `_persist_close` makes. -/
def closeEntry (t : OrderTicket) (s : PaperExchange) : Entry :=
  match s.openPosition t.symbol with
  | none => .drawn
  | some position =>
      if s.db.trades.any (·.id == position.tradeId) && s.commits then .closed t.leg else .drawn

/-- The entry `place_market_order` makes, if it gets as far as drawing an id. -/
def orderEntry (symbol : String) (side : Side) (qty : ℚ) (reduceOnly : Bool)
    (s : PaperExchange) : Option Entry :=
  match s.lastPrice symbol, s.lastCandle symbol with
  | some lastPrice, some lastCandle =>
      let ticket := marketTicket cfg symbol side qty lastPrice lastCandle s
      some (if reduceOnly then closeEntry ticket s else openEntry cfg ticket s)
  | _, _ => none

variable {cfg}

variable (cfg) in
theorem persistOpen_books (t : OrderTicket) (s : PaperExchange) :
    Frame s (persistOpen cfg t { s with uuids := s.uuids + 1 }).2 ∧
      (persistOpen cfg t { s with uuids := s.uuids + 1 }).2.books =
        (openEntry cfg t s).apply cfg s.books := by
  unfold persistOpen openEntry
  rw [show PaperExchange.openPosition { s with uuids := s.uuids + 1 } t.symbol =
    s.openPosition t.symbol from rfl]
  cases held : s.openPosition t.symbol with
  | some position => exact ⟨⟨rfl, rfl, rfl, rfl⟩, rfl⟩
  | none =>
      have ran := transaction_eq (s := { s with uuids := s.uuids + 1 })
        (openTx_eq cfg t s.db)
      change _ = if _ && s.commits then _ else _ at ran
      cases accepted : !s.db.positions.any (PaperPosition.at cfg.botId t.symbol) && s.commits with
      | true =>
          rw [accepted, if_pos rfl] at ran
          simp only [ran]
          exact ⟨⟨rfl, rfl, rfl, rfl⟩, rfl⟩
      | false =>
          rw [accepted, if_neg Bool.false_ne_true] at ran
          simp only [ran]
          exact ⟨⟨rfl, rfl, rfl, rfl⟩, rfl⟩

variable (cfg) in
theorem persistClose_books (t : OrderTicket) (s : PaperExchange) (fresh : t.uuid = s.uuids) :
    Frame s (persistClose cfg t { s with uuids := s.uuids + 1 }).2 ∧
      (persistClose cfg t { s with uuids := s.uuids + 1 }).2.books =
        (closeEntry t s).apply cfg s.books := by
  obtain ⟨symbol, side, qty, fillPrice, fee, placedAt, uuid⟩ := t
  subst fresh
  generalize ticketed :
    (⟨symbol, side, qty, fillPrice, fee, placedAt, s.uuids⟩ : OrderTicket) = t
  unfold persistClose closeEntry
  rw [show PaperExchange.openPosition { s with uuids := s.uuids + 1 } t.symbol =
    s.openPosition t.symbol from rfl]
  cases held : s.openPosition t.symbol with
  | none => exact ⟨⟨rfl, rfl, rfl, rfl⟩, rfl⟩
  | some position =>
      have ran := transaction_eq (s := { s with uuids := s.uuids + 1 })
        (closeTx_eq cfg t position s.db)
      change _ = if _ && s.commits then _ else _ at ran
      have folded : computeRealizedPnl position.side position.entryPrice t.fillPrice position.qty
          position.entryFee t.fee = t.leg.closingPnl position := rfl
      simp only [folded]
      cases accepted : s.db.trades.any (·.id == position.tradeId) && s.commits with
      | true =>
          rw [accepted, if_pos rfl] at ran
          obtain ⟨⟨stops, _⟩, found, isOpen⟩ := Option.bind_eq_some_iff.mp held
          cases isOpen
          have here : s.books.activePositions t.leg.symbol =
              some { stops := stops, position := some position } := found
          simp only [ran]
          refine ⟨⟨rfl, rfl, rfl, rfl⟩, ?_⟩
          simp only [Entry.apply, here, if_true]
          subst ticketed
          rfl
      | false =>
          rw [accepted, if_neg Bool.false_ne_true] at ran
          simp only [ran]
          exact ⟨⟨rfl, rfl, rfl, rfl⟩, rfl⟩

variable (cfg) in
/-- A market order makes the entry `orderEntry` names and nothing else. -/
theorem placeMarketOrder_books (symbol : String) (side : Side) (qty : ℚ) (reduceOnly : Bool)
    (s : PaperExchange) :
    Frame s (placeMarketOrder cfg symbol side qty reduceOnly s).2 ∧
      (placeMarketOrder cfg symbol side qty reduceOnly s).2.books =
        match orderEntry cfg symbol side qty reduceOnly s with
        | none => s.books
        | some e => e.apply cfg s.books := by
  unfold placeMarketOrder orderEntry
  cases price : s.lastPrice symbol with
  | none => exact ⟨.refl s, rfl⟩
  | some lastPrice =>
      cases candle : s.lastCandle symbol with
      | none => exact ⟨.refl s, rfl⟩
      | some lastCandle =>
          simp only
          have fresh : (marketTicket cfg symbol side qty lastPrice lastCandle s).uuid = s.uuids :=
            rfl
          generalize marketTicket cfg symbol side qty lastPrice lastCandle s = t at fresh ⊢
          cases reduceOnly with
          | true =>
              have closed := persistClose_books cfg t s fresh
              rw [if_pos rfl, if_pos rfl]
              split <;> rename_i result <;> rw [result] at closed <;> exact closed
          | false =>
              have opened := persistOpen_books cfg t s
              rw [if_neg Bool.false_ne_true, if_neg Bool.false_ne_true]
              split <;> rename_i result <;> rw [result] at opened <;> exact opened

/-- What the entry of a market order can be. -/
theorem orderEntry_cases {symbol : String} {side : Side} {qty : ℚ} {reduceOnly : Bool}
    {s : PaperExchange} {e : Entry} (made : orderEntry cfg symbol side qty reduceOnly s = some e) :
    e = .drawn ∨
    (∃ t : OrderTicket, e = .opened t ∧ reduceOnly = false ∧ t.symbol = symbol ∧ t.qty = qty ∧
      (Entry.opened t).Allowed cfg s.books) ∨
    (∃ leg : ExitLeg, e = .closed leg ∧ reduceOnly = true ∧ leg.symbol = symbol ∧ leg.qty = qty ∧
      leg.execType = .close ∧ (Entry.closed leg).Allowed cfg s.books) := by
  unfold orderEntry at made
  split at made
  · rename_i lastPrice lastCandle _ _
    cases made
    cases reduceOnly with
    | true =>
        rw [if_pos rfl]
        unfold closeEntry
        split
        · exact .inl rfl
        · rename_i position held
          split
          · rename_i accepted
            rw [Bool.and_eq_true] at accepted
            obtain ⟨⟨stops, _⟩, found, isOpen⟩ := Option.bind_eq_some_iff.mp held
            cases isOpen
            refine .inr (.inr ⟨_, rfl, rfl, rfl, rfl, rfl, ?_, stops, position, found,
              accepted.1, ?_⟩)
            · exact fun isOpen => by cases isOpen
            · exact fun notClose => absurd rfl notClose
          · exact .inl rfl
    | false =>
        rw [if_neg Bool.false_ne_true]
        unfold openEntry
        split
        · exact .inl rfl
        · rename_i vacant
          split
          · rename_i accepted
            rw [Bool.and_eq_true, Bool.not_eq_true'] at accepted
            exact .inr (.inl ⟨_, rfl, rfl, rfl, rfl, rfl, vacant, accepted.1⟩)
          · exact .inl rfl
  · cases made

end Orders

/-! ## Crossings -/

section Crossings

variable {cfg : Config}

/-- The price range contains the level. -/
def InRange (low high : ℚ) (level : Option ℚ) : Prop :=
  ∃ price, level = some price ∧ low ≤ price ∧ price ≤ high

instance (low high : ℚ) (level : Option ℚ) : Decidable (InRange low high level) :=
  match level with
  | none => isFalse (by rintro ⟨_, found, _⟩; cases found)
  | some price =>
      decidable_of_iff (low ≤ price ∧ price ≤ high)
        ⟨fun within => ⟨price, rfl, within⟩, by rintro ⟨_, ⟨⟩, within⟩; exact within⟩

/-- Filtering a level by the range, as the crossing checks do. -/
theorem filter_inRange (low high : ℚ) (level : Option ℚ) :
    level.filter (fun price => low ≤ price ∧ price ≤ high) =
      if InRange low high level then level else none := by
  cases level with
  | none => simp
  | some price =>
      have same : InRange low high (some price) ↔ low ≤ price ∧ price ≤ high :=
        ⟨by rintro ⟨_, ⟨⟩, within⟩; exact within, fun within => ⟨price, rfl, within⟩⟩
      by_cases within : low ≤ price ∧ price ≤ high
      · rw [if_pos (same.mpr within)]
        simp [Option.filter, within]
      · rw [if_neg (fun inside => within (same.mp inside))]
        simp [Option.filter, within]

/-- What a crossing check saw when it made a fill. -/
structure Crossed (stops : TradingStops) (position : OpenPosition) (symbol : String)
    (low high : ℚ) (now : ℕ) (fill : PendingSLTPFill) : Prop where
  symbol_eq : fill.symbol = symbol
  side_eq : fill.side = position.side
  triggeredAt_eq : fill.triggeredAt = now
  tpslMode_eq : fill.tpslMode = stops.tpslMode
  level :
    (fill.kind = .sl ∧ InRange low high stops.slPrice ∧ stops.slPrice = some fill.triggerPrice ∧
      fill.qty = position.qty) ∨
    (fill.kind = .tp ∧ ¬ InRange low high stops.slPrice ∧ InRange low high stops.tpPrice ∧
      stops.tpPrice = some fill.triggerPrice ∧
      (stops.tpslMode = .Partial ∧ stops.tpSize = some fill.qty ∨
        stops.tpslMode = .Full ∧ fill.qty = position.qty))

section Level

variable {stops : TradingStops} {position : OpenPosition} {symbol : String} {low high : ℚ}
  {now : ℕ} {fill : PendingSLTPFill}

/-- Only the take-profit branch of the check makes a partial fill. -/
theorem Crossed.partial_level (crossed : Crossed stops position symbol low high now fill)
    (isPartial : fill.kind = .tp ∧ fill.tpslMode = .Partial) :
    ¬ InRange low high stops.slPrice ∧ InRange low high stops.tpPrice ∧
      stops.tpslMode = .Partial ∧ stops.tpSize = some fill.qty := by
  rcases crossed.level with ⟨isSl, _⟩ | ⟨_, slClear, tpInside, _, ⟨mode, sized⟩ | ⟨mode, _⟩⟩
  · rw [isPartial.1] at isSl
    cases isSl
  · exact ⟨slClear, tpInside, mode, sized⟩
  · rw [← crossed.tpslMode_eq, isPartial.2] at mode
    cases mode

/-- Any other fill is of the stop, or of a take-profit of the whole position. -/
theorem Crossed.closing_level (crossed : Crossed stops position symbol low high now fill)
    (notPartial : ¬ (fill.kind = .tp ∧ fill.tpslMode = .Partial)) :
    InRange low high stops.slPrice ∨ stops.tpslMode = .Full ∧ InRange low high stops.tpPrice := by
  rcases crossed.level with ⟨_, slInside, _⟩ | ⟨isTp, _, tpInside, _, ⟨mode, _⟩ | ⟨mode, _⟩⟩
  · exact .inl slInside
  · exact absurd ⟨isTp, crossed.tpslMode_eq.trans mode⟩ notPartial
  · exact .inr ⟨mode, tpInside⟩

end Level

/-- The three ways a crossing check ends for an open position. -/
theorem detectCross_cases (stops : TradingStops) (position : OpenPosition) (symbol : String)
    (low high : ℚ) (now : ℕ) :
    (¬ InRange low high stops.slPrice ∧ ¬ InRange low high stops.tpPrice ∧
      detectCross ⟨stops, some position⟩ symbol low high now = .ok none) ∨
    (¬ InRange low high stops.slPrice ∧ InRange low high stops.tpPrice ∧
      stops.tpslMode = .Partial ∧ stops.tpSize = none ∧
      ∃ e, detectCross ⟨stops, some position⟩ symbol low high now = .error e) ∨
    (∃ fill, Crossed stops position symbol low high now fill ∧
      detectCross ⟨stops, some position⟩ symbol low high now = .ok (some fill)) := by
  unfold detectCross
  simp only [filter_inRange]
  by_cases slInside : InRange low high stops.slPrice
  · obtain ⟨sl, slFound, _⟩ := id slInside
    rw [if_pos slInside, slFound]
    exact .inr (.inr ⟨_, ⟨rfl, rfl, rfl, rfl, .inl ⟨rfl, slInside, slFound, rfl⟩⟩, rfl⟩)
  · rw [if_neg slInside]
    by_cases tpInside : InRange low high stops.tpPrice
    · obtain ⟨tp, tpFound, _⟩ := id tpInside
      rw [if_pos tpInside, tpFound]
      cases mode : stops.tpslMode with
      | Full =>
          exact .inr (.inr ⟨_, ⟨rfl, rfl, rfl, mode.symm,
            .inr ⟨rfl, slInside, tpInside, tpFound, .inr ⟨mode, rfl⟩⟩⟩, rfl⟩)
      | Partial =>
          cases size : stops.tpSize with
          | none => exact .inr (.inl ⟨slInside, tpFound ▸ tpInside, rfl, rfl, _, rfl⟩)
          | some tpSize =>
              exact .inr (.inr ⟨_, ⟨rfl, rfl, rfl, mode.symm,
                .inr ⟨rfl, slInside, tpInside, tpFound, .inl ⟨mode, size⟩⟩⟩, rfl⟩)
    · rw [if_neg tpInside]
      exact .inl ⟨slInside, tpInside, rfl⟩

theorem crossed_of_detectCross {stops : TradingStops} {position : OpenPosition} {symbol : String}
    {low high : ℚ} {now : ℕ} {fill : PendingSLTPFill}
    (detected : detectCross ⟨stops, some position⟩ symbol low high now = .ok (some fill)) :
    Crossed stops position symbol low high now fill := by
  rcases detectCross_cases stops position symbol low high now with
    ⟨_, _, clear⟩ | ⟨_, _, _, _, e, raised⟩ | ⟨made, crossed, detectedToo⟩
  · rw [detected] at clear
    cases clear
  · rw [detected] at raised
    cases raised
  · rw [detected] at detectedToo
    cases detectedToo
    exact crossed

/-- The entry a fill makes. -/
def PendingSLTPFill.entry (cfg : Config) (fill : PendingSLTPFill) : Entry :=
  if fill.kind = .tp ∧ fill.tpslMode = .Partial then .reduced (fill.leg cfg)
  else .closed (fill.leg cfg)

/-- How an attempt to make an entry ends: the entry, or an id drawn in vain. -/
structure Attempted (cfg : Config) (entry : Entry) (known : Bool) (s : PaperExchange)
    (result : Except PaperError Unit × PaperExchange) : Prop where
  frame : Frame s result.2
  outcomes : result.2.dbOutcomes = s.dbOutcomes.tail
  made : (known && s.commits) = true →
    result.1 = .ok () ∧ result.2.books = entry.apply cfg s.books
  refused : (known && s.commits) = false →
    (∃ e, result.1 = .error e) ∧ result.2.books = Entry.drawn.apply cfg s.books

theorem Attempted.of_made {entry : Entry} {known : Bool} {s : PaperExchange}
    {result : Except PaperError Unit × PaperExchange} (accepted : (known && s.commits) = true)
    (frame : Frame s result.2) (outcomes : result.2.dbOutcomes = s.dbOutcomes.tail)
    (returned : result.1 = .ok ()) (books : result.2.books = entry.apply cfg s.books) :
    Attempted cfg entry known s result := by
  refine ⟨frame, outcomes, fun _ => ⟨returned, books⟩, fun refused => ?_⟩
  rw [accepted] at refused
  cases refused

theorem Attempted.of_refused {entry : Entry} {known : Bool} {s : PaperExchange}
    {result : Except PaperError Unit × PaperExchange} (refused : (known && s.commits) = false)
    (frame : Frame s result.2) (outcomes : result.2.dbOutcomes = s.dbOutcomes.tail)
    (raised : ∃ e, result.1 = .error e)
    (books : result.2.books = Entry.drawn.apply cfg s.books) :
    Attempted cfg entry known s result := by
  refine ⟨frame, outcomes, fun made => ?_, fun _ => ⟨raised, books⟩⟩
  rw [refused] at made
  cases made

/-- What a fill of the whole position realizes. -/
theorem PendingSLTPFill.closingPnl_leg {fill : PendingSLTPFill} {position : OpenPosition}
    (whole : fill.qty = position.qty) (uuids : ℕ) :
    computeRealizedPnl position.side position.entryPrice fill.triggerPrice fill.qty
        position.entryFee (buildDrainContext cfg fill position uuids).fee =
      (fill.leg cfg).closingPnl position := by
  unfold ExitLeg.closingPnl PendingSLTPFill.leg buildDrainContext
  rw [whole]

theorem drainPartialTp_attempted {stops : TradingStops} {position : OpenPosition}
    {fill : PendingSLTPFill} {s : PaperExchange}
    (found : s.activePositions fill.symbol = some { stops := stops, position := some position })
    (sameSide : fill.side = position.side) (kind : fill.kind = .tp) :
    Attempted cfg (.reduced (fill.leg cfg)) (s.db.trades.any (·.id == position.tradeId)) s
      (drainPartialTp cfg fill s) := by
  have here : s.books.activePositions (fill.leg cfg).symbol =
      some { stops := stops, position := some position } := found
  have ran := transaction_eq (s := { s with uuids := s.uuids + 1 })
    (partialTpTx_eq cfg fill position s.uuids s.db sameSide kind)
  change transaction (partialTpTx cfg fill _ (position.qty - fill.qty)
    (position.feesPaid + (buildDrainContext cfg fill position s.uuids).fee)
    (position.realizedPnl + computeRealizedPnl position.side position.entryPrice
      fill.triggerPrice fill.qty 0 (buildDrainContext cfg fill position s.uuids).fee)) _ =
    if _ && s.commits then _ else _ at ran
  unfold drainPartialTp
  simp only [found]
  cases accepted : s.db.trades.any (·.id == position.tradeId) && s.commits with
  | true =>
      rw [accepted, if_pos rfl] at ran
      simp only [ran]
      refine .of_made accepted ⟨rfl, rfl, rfl, rfl⟩ rfl rfl ?_
      simp only [Entry.apply, here]
      obtain ⟨symbol, side, qty, triggerPrice, triggeredAt, kind, tpslMode⟩ := fill
      subst sameSide
      rfl
  | false =>
      rw [accepted, if_neg Bool.false_ne_true] at ran
      simp only [ran]
      exact .of_refused accepted ⟨rfl, rfl, rfl, rfl⟩ rfl ⟨_, rfl⟩ rfl

theorem drainFullClose_attempted {stops : TradingStops} {position : OpenPosition}
    {fill : PendingSLTPFill} {s : PaperExchange}
    (found : s.activePositions fill.symbol = some { stops := stops, position := some position })
    (sameSide : fill.side = position.side) (whole : fill.qty = position.qty) :
    Attempted cfg (.closed (fill.leg cfg)) (s.db.trades.any (·.id == position.tradeId)) s
      (drainFullClose cfg fill s) := by
  have here : s.books.activePositions (fill.leg cfg).symbol =
      some { stops := stops, position := some position } := found
  have ran := transaction_eq (s := { s with uuids := s.uuids + 1 })
    (fullCloseTx_eq cfg fill position s.uuids s.db sameSide)
  change transaction (fullCloseTx cfg fill _ _
    (position.feesPaid + (buildDrainContext cfg fill position s.uuids).fee)) _ =
    if _ && s.commits then _ else _ at ran
  unfold drainFullClose
  simp only [found, PendingSLTPFill.closingPnl_leg whole]
  cases accepted : s.db.trades.any (·.id == position.tradeId) && s.commits with
  | true =>
      rw [accepted, if_pos rfl] at ran
      simp only [ran]
      refine .of_made accepted ⟨rfl, rfl, rfl, rfl⟩ rfl rfl ?_
      simp only [Entry.apply, here]
      obtain ⟨symbol, side, qty, triggerPrice, triggeredAt, kind, tpslMode⟩ := fill
      subst sameSide
      rfl
  | false =>
      rw [accepted, if_neg Bool.false_ne_true] at ran
      simp only [ran]
      exact .of_refused accepted ⟨rfl, rfl, rfl, rfl⟩ rfl ⟨_, rfl⟩ rfl

/-- A fill the crossing check made closes the whole position unless it is a partial
take-profit. -/
theorem Crossed.whole {stops : TradingStops} {position : OpenPosition} {symbol : String}
    {low high : ℚ} {now : ℕ} {fill : PendingSLTPFill}
    (crossed : Crossed stops position symbol low high now fill)
    (notPartial : ¬ (fill.kind = .tp ∧ fill.tpslMode = .Partial)) : fill.qty = position.qty := by
  rcases crossed.level with ⟨_, _, _, same⟩ | ⟨isTp, _, _, _, ⟨isPartial, _⟩ | ⟨_, same⟩⟩
  · exact same
  · exact absurd ⟨isTp, crossed.tpslMode_eq.trans isPartial⟩ notPartial
  · exact same

variable (cfg) in
theorem drainSlTpFill_attempted {stops : TradingStops} {position : OpenPosition}
    {symbol : String} {low high : ℚ} {now : ℕ} {fill : PendingSLTPFill} {s : PaperExchange}
    (found : s.activePositions symbol = some { stops := stops, position := some position })
    (crossed : Crossed stops position symbol low high now fill) :
    Attempted cfg (fill.entry cfg) (s.db.trades.any (·.id == position.tradeId)) s
      (drainSlTpFill cfg fill s) := by
  rw [← crossed.symbol_eq] at found
  unfold drainSlTpFill PendingSLTPFill.entry
  by_cases isPartial : fill.kind = .tp ∧ fill.tpslMode = .Partial
  · rw [if_pos isPartial, if_pos isPartial]
    exact drainPartialTp_attempted found crossed.side_eq isPartial.1
  · rw [if_neg isPartial, if_neg isPartial]
    exact drainFullClose_attempted found crossed.side_eq (crossed.whole isPartial)

variable (cfg) in
/-- The entry of a fill is allowed once its trade is known. -/
theorem Crossed.allowed {stops : TradingStops} {position : OpenPosition} {symbol : String}
    {low high : ℚ} {now : ℕ} {fill : PendingSLTPFill} {b : Books}
    (crossed : Crossed stops position symbol low high now fill)
    (found : b.activePositions symbol = some { stops := stops, position := some position })
    (known : b.db.trades.any (·.id == position.tradeId) = true) :
    (fill.entry cfg).Allowed cfg b := by
  rw [← crossed.symbol_eq] at found
  unfold PendingSLTPFill.entry
  by_cases isPartial : fill.kind = .tp ∧ fill.tpslMode = .Partial
  · rw [if_pos isPartial]
    refine ⟨?_, stops, position, found, known⟩
    show fill.kind.execType = .tp
    rw [isPartial.1]
    rfl
  · rw [if_neg isPartial]
    refine ⟨?_, stops, position, found, known, fun _ => crossed.whole isPartial⟩
    show fill.kind.execType ≠ .openFill
    cases fill.kind <;> simp [FillKind.execType]

/-- How a crossing check with its drain ends: its result, the books and the outcomes left. -/
inductive CrossOutcome (cfg : Config) (symbol : String) (low high : ℚ) (s : PaperExchange) :
    Except PaperError Unit → Books → List TxOutcome → Prop where
  | untouched
      (clear : ∀ stops position,
        s.activePositions symbol = some { stops := stops, position := some position } →
          ¬ InRange low high stops.slPrice ∧ ¬ InRange low high stops.tpPrice) :
      CrossOutcome cfg symbol low high s (.ok ()) s.books s.dbOutcomes
  | malformed {stops : TradingStops} {position : OpenPosition} (e : PaperError)
      (found : s.activePositions symbol = some { stops := stops, position := some position })
      (slClear : ¬ InRange low high stops.slPrice) (tpInside : InRange low high stops.tpPrice)
      (mode : stops.tpslMode = .Partial) (unsized : stops.tpSize = none) :
      CrossOutcome cfg symbol low high s (.error e) s.books s.dbOutcomes
  | failed {stops : TradingStops} {position : OpenPosition} {fill : PendingSLTPFill}
      (e : PaperError)
      (found : s.activePositions symbol = some { stops := stops, position := some position })
      (crossed : Crossed stops position symbol low high s.now fill)
      (refused : (s.db.trades.any (·.id == position.tradeId) && s.commits) = false) :
      CrossOutcome cfg symbol low high s (.error e) (Entry.drawn.apply cfg s.books)
        s.dbOutcomes.tail
  | entered {stops : TradingStops} {position : OpenPosition} {fill : PendingSLTPFill}
      (found : s.activePositions symbol = some { stops := stops, position := some position })
      (crossed : Crossed stops position symbol low high s.now fill)
      (accepted : (s.db.trades.any (·.id == position.tradeId) && s.commits) = true) :
      CrossOutcome cfg symbol low high s (.ok ()) ((fill.entry cfg).apply cfg s.books)
        s.dbOutcomes.tail

/-- The queue holds one fill at most, so the drain loop is a single drain. -/
theorem drainLoop_single (fill : PendingSLTPFill) (s : PaperExchange) {entry : Entry}
    {known : Bool} (empty : s.pendingSlTpFills = [])
    (attempted : Attempted cfg entry known s
      (drainSlTpFill cfg fill { s with pendingSlTpFills := [] })) :
    Attempted cfg entry known s
      (drainLoop cfg [fill] { s with pendingSlTpFills := [fill] }) := by
  unfold drainLoop
  cases drained : drainSlTpFill cfg fill { s with pendingSlTpFills := [] } with
  | mk result s' =>
      rw [drained] at attempted
      obtain ⟨frame, outcomes, made, refused⟩ := attempted
      cases result with
      | error e => exact ⟨frame, outcomes, made, refused⟩
      | ok _ =>
          unfold drainLoop
          exact ⟨⟨empty.symm, frame.now, frame.lastPrice, frame.lastCandle⟩, outcomes, made,
            refused⟩

/-- Nothing waits, so draining does nothing. -/
theorem drainLoop_idle {s : PaperExchange} (empty : s.pendingSlTpFills = []) :
    drainLoop cfg [] s = (.ok (), s) := by
  rw [drainLoop, ← empty]

/-- Without an open position a crossing check does nothing. -/
theorem checkAndDrain_unheld {symbol : String} (low high : ℚ) {s : PaperExchange}
    (empty : s.pendingSlTpFills = []) (vacant : s.openPosition symbol = none) :
    checkAndDrain cfg symbol low high s = (.ok (), s) := by
  rw [checkAndDrain, enqueueCross]
  cases found : s.activePositions symbol with
  | none => simp only [empty, drainLoop_idle empty]
  | some active =>
      obtain ⟨stops, _ | position⟩ := active
      · simp only [detectCross, empty, drainLoop_idle empty]
      · rw [PaperExchange.openPosition, found] at vacant
        cases vacant

variable (cfg) in
/-- With one, it does what the crossing it detects asks for. -/
theorem checkAndDrain_held {symbol : String} (low high : ℚ) {s : PaperExchange}
    {stops : TradingStops} {position : OpenPosition} (empty : s.pendingSlTpFills = [])
    (found : s.activePositions symbol = some ⟨stops, some position⟩) :
    (detectCross ⟨stops, some position⟩ symbol low high s.now = .ok none →
      checkAndDrain cfg symbol low high s = (.ok (), s)) ∧
    (∀ e, detectCross ⟨stops, some position⟩ symbol low high s.now = .error e →
      checkAndDrain cfg symbol low high s = (.error e, s)) ∧
    (∀ fill, detectCross ⟨stops, some position⟩ symbol low high s.now = .ok (some fill) →
      Crossed stops position symbol low high s.now fill →
      Attempted cfg (fill.entry cfg) (s.db.trades.any (·.id == position.tradeId)) s
        (checkAndDrain cfg symbol low high s)) := by
  have still : { s with pendingSlTpFills := [] } = s := by rw [← empty]
  refine ⟨?_, ?_, ?_⟩
  · intro clear
    simp only [checkAndDrain, enqueueCross, found, clear, empty, drainLoop_idle empty]
  · intro e raised
    simp only [checkAndDrain, enqueueCross, found, raised]
  · intro fill detected crossed
    simp only [checkAndDrain, enqueueCross, found, detected, empty, List.nil_append]
    have attempted := drainSlTpFill_attempted cfg found crossed
    exact drainLoop_single fill s empty (by rw [still]; exact attempted)

variable (cfg) in
theorem checkAndDrain_outcome (symbol : String) (low high : ℚ) {s : PaperExchange}
    (empty : s.pendingSlTpFills = []) :
    Frame s (checkAndDrain cfg symbol low high s).2 ∧
    CrossOutcome cfg symbol low high s (checkAndDrain cfg symbol low high s).1
      (checkAndDrain cfg symbol low high s).2.books
      (checkAndDrain cfg symbol low high s).2.dbOutcomes := by
  cases held : s.openPosition symbol with
  | none =>
      rw [checkAndDrain_unheld low high empty held]
      refine ⟨.refl s, .untouched fun stops position found => ?_⟩
      rw [PaperExchange.openPosition, found] at held
      cases held
  | some position =>
      obtain ⟨⟨stops, _⟩, found, isOpen⟩ := Option.bind_eq_some_iff.mp held
      cases isOpen
      obtain ⟨whenClear, whenRaised, whenCrossed⟩ :=
        checkAndDrain_held cfg low high empty found
      rcases detectCross_cases stops position symbol low high s.now with
        ⟨slClear, tpClear, clear⟩ | ⟨slClear, tpInside, mode, unsized, e, raised⟩ |
        ⟨fill, crossed, detected⟩
      · rw [whenClear clear]
        refine ⟨.refl s, .untouched fun stops' position' found' => ?_⟩
        rw [found] at found'
        cases found'
        exact ⟨slClear, tpClear⟩
      · rw [whenRaised e raised]
        exact ⟨.refl s, .malformed e found slClear tpInside mode unsized⟩
      · obtain ⟨frame, outcomes, made, refused⟩ := whenCrossed fill detected crossed
        refine ⟨frame, ?_⟩
        cases accepted : s.db.trades.any (·.id == position.tradeId) && s.commits with
        | true =>
            obtain ⟨returned, books⟩ := made accepted
            rw [returned, books, outcomes]
            exact .entered found crossed accepted
        | false =>
            obtain ⟨⟨e, raised⟩, books⟩ := refused accepted
            rw [raised, books, outcomes]
            exact .failed e found crossed accepted

end Crossings

/-! ## Calls -/

section Calls

variable {cfg : Config} {ok : Books → Entry → Prop}

/-- An entry that is not the close of a reduce-only order. -/
def Entry.Unordered (e : Entry) : Prop := ∀ leg, e = .closed leg → leg.execType ≠ .close

theorem PendingSLTPFill.entry_unordered (fill : PendingSLTPFill) :
    (fill.entry cfg).Unordered := by
  unfold PendingSLTPFill.entry
  split
  · rintro leg ⟨⟩
  · rintro leg ⟨⟩
    show fill.kind.execType ≠ .close
    cases fill.kind <;> simp [FillKind.execType]

theorem checkAndDrain_reaches
    (free : ∀ b e, Entry.Allowed cfg b e → e.Unordered → ok b e)
    (symbol : String) (low high : ℚ) {s : PaperExchange} (empty : s.pendingSlTpFills = []) :
    Reaches cfg ok s.books (checkAndDrain cfg symbol low high s).2.books ∧
      (checkAndDrain cfg symbol low high s).2.pendingSlTpFills = [] := by
  obtain ⟨frame, outcome⟩ := checkAndDrain_outcome cfg symbol low high empty
  refine ⟨?_, frame.pending.trans empty⟩
  generalize (checkAndDrain cfg symbol low high s).1 = result at outcome
  generalize (checkAndDrain cfg symbol low high s).2.books = books at outcome ⊢
  generalize (checkAndDrain cfg symbol low high s).2.dbOutcomes = outcomes at outcome
  cases outcome with
  | untouched clear => exact .refl
  | malformed e found slClear tpInside mode unsized => exact .refl
  | failed e found crossed refused =>
      exact .single .drawn trivial (free _ _ trivial (by rintro leg ⟨⟩))
  | entered found crossed accepted =>
      have allowed := crossed.allowed cfg (b := s.books) found
        (Bool.and_eq_true _ _ ▸ accepted).1
      exact .single _ allowed (free _ _ allowed (PendingSLTPFill.entry_unordered _))

theorem replaySegments_reaches
    (free : ∀ b e, Entry.Allowed cfg b e → e.Unordered → ok b e)
    (symbol : String) (ranges : List (ℚ × ℚ)) :
    ∀ {s : PaperExchange}, s.pendingSlTpFills = [] →
      Reaches cfg ok s.books (replaySegments cfg symbol ranges s).2.books ∧
        (replaySegments cfg symbol ranges s).2.pendingSlTpFills = [] := by
  induction ranges with
  | nil => exact fun empty => ⟨.refl, empty⟩
  | cons range ranges ih =>
      obtain ⟨low, high⟩ := range
      intro s empty
      obtain ⟨reached, emptied⟩ := checkAndDrain_reaches free symbol low high empty
      unfold replaySegments
      cases checked : checkAndDrain cfg symbol low high s with
      | mk result s' =>
          rw [checked] at reached emptied
          cases result with
          | error e => exact ⟨reached, emptied⟩
          | ok _ =>
              obtain ⟨onward, stillEmpty⟩ := ih emptied
              exact ⟨reached.trans onward, stillEmpty⟩

theorem onCandle_reaches
    (free : ∀ b e, Entry.Allowed cfg b e → e.Unordered → ok b e)
    (candle : Candle) {s : PaperExchange} (empty : s.pendingSlTpFills = []) :
    Reaches cfg ok s.books (onCandle cfg candle s).2.books ∧
      (onCandle cfg candle s).2.pendingSlTpFills = [] := by
  unfold onCandle
  split
  · exact checkAndDrain_reaches (s := s.cacheCandle candle) free candle.symbol candle.low
      candle.high empty
  · exact ⟨.refl, empty⟩

theorem processReplayCandle_reaches
    (free : ∀ b e, Entry.Allowed cfg b e → e.Unordered → ok b e)
    (ohlc : Candle) {s : PaperExchange} (empty : s.pendingSlTpFills = []) :
    Reaches cfg ok s.books (processReplayCandle cfg ohlc s).2.books ∧
      (processReplayCandle cfg ohlc s).2.pendingSlTpFills = [] := by
  unfold processReplayCandle
  simp only
  generalize clocked : (if cfg.replayClock = true then s.setReplayClock ohlc.bucketStart else s) =
    s₁
  have sameBooks : s₁.books = s.books := by rw [← clocked]; split <;> rfl
  have stillEmpty : s₁.pendingSlTpFills = [] := by rw [← clocked]; split <;> exact empty
  rw [← sameBooks]
  split
  · exact ⟨.refl, stillEmpty⟩
  · exact replaySegments_reaches (s := s₁.cacheCandle { ohlc with isClosed := true }) free
      ohlc.symbol _ stillEmpty

/-- The entry `set_trading_stop` makes, unless it refuses the type. -/
def stopEntry (symbol : String) (tpslMode : TpslMode) (slPrice tpPrice tpSize : Option ℚ)
    (slType : Option SlType) (s : PaperExchange) : Option Entry :=
  if slType = some .trail then none
  else
    some (.restopped symbol
      (((s.activePositions symbol).getD {}).stops.overwrite tpslMode slPrice tpPrice tpSize slType)
      s.commits)

variable (cfg) in
theorem setTradingStop_books (symbol : String) (tpslMode : TpslMode)
    (slPrice tpPrice tpSize : Option ℚ) (slType : Option SlType) (s : PaperExchange) :
    Frame s (setTradingStop cfg symbol tpslMode slPrice tpPrice tpSize slType s).2 ∧
      (setTradingStop cfg symbol tpslMode slPrice tpPrice tpSize slType s).2.books =
        match stopEntry symbol tpslMode slPrice tpPrice tpSize slType s with
        | none => s.books
        | some e => e.apply cfg s.books := by
  unfold setTradingStop stopEntry
  split
  · exact ⟨.refl s, rfl⟩
  · simp only
    generalize written : (ActivePosition.mk _ _) = active
    have spec : updatePaperPositionSlTp cfg.columns cfg.botId symbol slPrice tpPrice s.db =
        if true then .ok ((), s.db.afterRestop cfg symbol slPrice tpPrice)
        else .error .databaseError := rfl
    have ran := transaction_eq
      (s := { s with activePositions := Function.update s.activePositions symbol (some active) })
      spec
    change _ = if true && s.commits then _ else _ at ran
    rw [Bool.true_and] at ran
    subst written
    cases accepted : s.commits with
    | true =>
        rw [accepted, if_pos rfl] at ran
        rw [ran]
        exact ⟨⟨rfl, rfl, rfl, rfl⟩, rfl⟩
    | false =>
        rw [accepted, if_neg Bool.false_ne_true] at ran
        rw [ran]
        exact ⟨⟨rfl, rfl, rfl, rfl⟩, rfl⟩

/-- **A call is a sequence of allowed entries.**  They meet `ok` when every entry that is not
the close of a reduce-only order does, and when that close does for the call's own order. -/
theorem step_reaches
    (free : ∀ b e, Entry.Allowed cfg b e → e.Unordered → ok b e)
    (call : Call) {s : PaperExchange} (empty : s.pendingSlTpFills = [])
    (order : ∀ leg side, call.op = .placeMarketOrder leg.symbol side leg.qty true →
      (Entry.closed leg).Allowed cfg s.books → ok s.books (.closed leg)) :
    Reaches cfg ok s.books (step cfg call s).books ∧
      (step cfg call s).pendingSlTpFills = [] := by
  obtain ⟨op, now, dbOutcomes⟩ := call
  let started : PaperExchange := { s with now := now, dbOutcomes := dbOutcomes }
  have empty : started.pendingSlTpFills = [] := empty
  cases op with
  | placeMarketOrder symbol side qty reduceOnly =>
      obtain ⟨frame, books⟩ :=
        placeMarketOrder_books cfg symbol side qty reduceOnly started
      refine ⟨?_, frame.pending.trans empty⟩
      refine Eq.subst (motive := Reaches cfg ok s.books) books.symm ?_
      cases made : orderEntry cfg symbol side qty reduceOnly started with
      | none => exact .refl
      | some e =>
          rcases orderEntry_cases made with rfl | ⟨t, rfl, _, _, _, allowed⟩ |
            ⟨leg, rfl, rfl, rfl, rfl, _, allowed⟩
          · exact .single .drawn trivial (free _ _ trivial (by rintro leg ⟨⟩))
          · exact .single _ allowed (free _ _ allowed (by rintro leg ⟨⟩))
          · exact .single _ allowed (order leg side rfl allowed)
  | setTradingStop symbol tpslMode slPrice tpPrice tpSize slType =>
      obtain ⟨frame, books⟩ :=
        setTradingStop_books cfg symbol tpslMode slPrice tpPrice tpSize slType started
      refine ⟨?_, frame.pending.trans empty⟩
      refine Eq.subst (motive := Reaches cfg ok s.books) books.symm ?_
      unfold stopEntry
      split
      · exact .refl
      · rename_i made
        split at made
        · cases made
        · cases made
          exact .single _ trivial (free _ _ trivial (by rintro leg ⟨⟩))
  | onCandle candle => exact onCandle_reaches free candle empty
  | processReplayCandle ohlc => exact processReplayCandle_reaches free ohlc empty

end Calls

end Scalper.Paper
