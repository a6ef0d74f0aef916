import Scalper.Paper.Mirror
import Scalper.Paper.Quantity

/-!
# Memory and tables agree

A paper position lives twice: in the adapter's dictionary, which decides what the next candle
fills, and in `paper_positions`, which decides what a restart brings back.  The opening, the
closing and the two drains commit their transaction first and touch memory after it, so a
failed statement leaves both as they were.  `set_trading_stop` writes memory first; when its
statement fails the call raises, the stop is in force in memory, and the row never heard of
it.

`run_faithful_iff` says exactly which runs keep the two in agreement call after call: those in
which a stop whose write fails is the one that was there already.
-/

set_option autoImplicit false

namespace Scalper.Paper

open Scalper.Lib Scalper.Exchange

variable {cfg : Config} {b : Books}

/-! ## Agreement -/

/-- A row and an in-memory entry that say the same, each value at the scale of its column. -/
structure Agrees (cfg : Config) (stops : TradingStops) (position : OpenPosition)
    (row : PaperPosition) : Prop where
  tradeId : row.tradeId = position.tradeId
  side : row.side = position.side
  remainingQty : row.remainingQty = cfg.columns.qty position.qty
  slPrice : row.slPrice = stops.slPrice.map cfg.columns.price
  tpPrice : row.tpPrice = stops.tpPrice.map cfg.columns.price

/-- Every initialised entry has a row, every row of the bot has an initialised entry, and the
two agree. -/
structure Agreement (cfg : Config) (b : Books) : Prop where
  listed : ∀ symbol stops position, b.activePositions symbol = some ⟨stops, some position⟩ →
    ∃ row ∈ b.db.positions, row.at cfg.botId symbol = true ∧ Agrees cfg stops position row
  held : ∀ row ∈ b.db.positions, row.botId = cfg.botId →
    ∃ stops position, b.activePositions row.symbol = some ⟨stops, some position⟩ ∧
      Agrees cfg stops position row

/-- What a call returned or raised. -/
def Op.result (cfg : Config) (s : PaperExchange) : Op → Except PaperError Unit
  | .placeMarketOrder symbol side qty reduceOnly =>
      (Paper.placeMarketOrder cfg symbol side qty reduceOnly s).1.map fun _ => ()
  | .setTradingStop symbol tpslMode slPrice tpPrice tpSize slType =>
      (Paper.setTradingStop cfg symbol tpslMode slPrice tpPrice tpSize slType s).1
  | .onCandle candle => (Paper.onCandle cfg candle s).1
  | .processReplayCandle ohlc => (Paper.processReplayCandle cfg ohlc s).1

/-- The state the last drain of a replayed candle began in. -/
def replayStart (cfg : Config) (symbol : String) : List (ℚ × ℚ) → PaperExchange → PaperExchange
  | [], s => s
  | (low, high) :: rest, s =>
      match checkAndDrain cfg symbol low high s with
      | (.error _, _) => s
      | (.ok (), s) => replayStart cfg symbol rest s

/-- The state a call's last operation began in.  A replayed candle is up to three drains, one
for each segment; every other call is one operation. -/
def Op.lastStart (cfg : Config) (s : PaperExchange) : Op → PaperExchange
  | .processReplayCandle ohlc =>
      match generateIntraCandlePath ohlc.openPrice ohlc.high ohlc.low ohlc.close with
      | .error _ => s
      | .ok path =>
          replayStart cfg ohlc.symbol (segments path)
            ((if cfg.replayClock then s.setReplayClock ohlc.bucketStart else s).cacheCandle
              { ohlc with isClosed := true })
  | _ => s

/-- A call after which memory and tables agree, and which changed neither if it raised. -/
structure Faithful (cfg : Config) (s : PaperExchange) (call : Call) : Prop where
  agreement : Agreement cfg (step cfg call s).books
  unchanged : ∀ raised,
    call.op.result cfg { s with now := call.now, dbOutcomes := call.dbOutcomes } = .error raised →
    (step cfg call s).activePositions = (call.op.lastStart cfg
        { s with now := call.now, dbOutcomes := call.dbOutcomes }).activePositions ∧
      (step cfg call s).db = (call.op.lastStart cfg
        { s with now := call.now, dbOutcomes := call.dbOutcomes }).db

/-- The entry `set_trading_stop` leaves in memory. -/
def restoppedEntry (s : PaperExchange) (symbol : String) (tpslMode : TpslMode)
    (slPrice tpPrice tpSize : Option ℚ) (slType : Option SlType) : ActivePosition :=
  { (s.activePositions symbol).getD {} with
    stops := ((s.activePositions symbol).getD {}).stops.overwrite tpslMode slPrice tpPrice tpSize
      slType }

/-- A stop whose write fails is the one that was there already. -/
def StopKept (s : PaperExchange) (call : Call) : Prop :=
  match call.op with
  | .setTradingStop symbol tpslMode slPrice tpPrice tpSize slType =>
      slType ≠ some .trail → call.dbOutcomes.head? = some .fails →
        s.activePositions symbol =
          some (restoppedEntry s symbol tpslMode slPrice tpPrice tpSize slType)
  | _ => True

/-! ## The stops of the rows -/

/-- The rows carry the stops of the entries in memory. -/
def StopRows (cfg : Config) (b : Books) : Prop :=
  ∀ row ∈ b.db.positions, ∀ stops position,
    b.activePositions row.symbol = some ⟨stops, some position⟩ →
      row.slPrice = stops.slPrice.map cfg.columns.price ∧
        row.tpPrice = stops.tpPrice.map cfg.columns.price

theorem StopRows.initial : StopRows cfg (PaperExchange.books {}) := by
  intro row member
  cases member

theorem Mirrored.agreement (mirrored : Mirrored cfg b) (stopRows : StopRows cfg b) :
    Agreement cfg b := by
  have held : ∀ row ∈ b.db.positions, ∃ stops position,
      b.activePositions row.symbol = some ⟨stops, some position⟩ ∧ Agrees cfg stops position row := by
    intro row member
    obtain ⟨position, isHeld, mirrors⟩ := mirrored.rows row member
    obtain ⟨stops, found⟩ := active_of_openPosition isHeld
    obtain ⟨slPrice, tpPrice⟩ := stopRows row member stops position found
    exact ⟨stops, position, found, mirrors.tradeId, mirrors.side, mirrors.remainingQty, slPrice,
      tpPrice⟩
  refine ⟨?_, fun row member _ => held row member⟩
  intro symbol stops position found
  obtain ⟨row, member, sameSymbol⟩ :=
    mirrored.listed symbol position (openPosition_of_active found)
  obtain ⟨position', _, mirrors⟩ := mirrored.rows row member
  obtain ⟨stops', position'', found', agrees⟩ := held row member
  rw [sameSymbol, found] at found'
  cases found'
  exact ⟨row, member, by simp [PaperPosition.at, mirrors.botId, sameSymbol], agrees⟩

/-- A write of stops that reaches the rows as well as memory. -/
theorem StopRows.restopped (stopRows : StopRows cfg b) (mirrored : Mirrored cfg b)
    (symbol : String) (stops : TradingStops) :
    StopRows cfg ((Entry.restopped symbol stops true).apply cfg b) := by
  intro row member stops' position found
  obtain ⟨old, oldMember, ⟨matched, rfl⟩ | ⟨unmatched, rfl⟩⟩ := mem_updateWhere.mp member
  · have sameSymbol : old.symbol = symbol := by
      have both : old.botId = cfg.botId ∧ old.symbol = symbol := by
        simpa [PaperPosition.at] using matched
      exact both.2
    have written : (⟨stops, ((b.activePositions symbol).getD {}).position⟩ : ActivePosition) =
        ⟨stops', some position⟩ := by
      simpa [Entry.apply, PaperPosition.restop, sameSymbol] using found
    obtain ⟨rfl, _⟩ := ActivePosition.mk.inj written
    exact ⟨rfl, rfl⟩
  · obtain ⟨_, _, mirrors⟩ := mirrored.rows row oldMember
    have differs : row.symbol ≠ symbol := by
      intro same
      simp [PaperPosition.at, mirrors.botId, same] at unmatched
    refine stopRows row oldMember stops' position ?_
    simpa [Entry.apply, Function.update_of_ne differs] using found

theorem StopRows.opened (stopRows : StopRows cfg b) (mirrored : Mirrored cfg b)
    {t : OrderTicket} (vacant : b.openPosition t.symbol = none) :
    StopRows cfg ((Entry.opened t).apply cfg b) := by
  intro row member stops position found
  rcases List.mem_append.mp member with old | new
  · obtain ⟨_, held, _⟩ := mirrored.rows row old
    have differs : row.symbol ≠ t.symbol := by
      intro same
      rw [same, vacant] at held
      cases held
    refine stopRows row old stops position ?_
    simpa [Entry.apply, Function.update_of_ne differs] using found
  · rw [List.mem_singleton] at new
    subst new
    have written : some ({ position := some (t.position b.db.nextTradeId) } : ActivePosition) =
        some ⟨stops, some position⟩ := by
      simpa [Entry.apply, PaperPosition.stored] using found
    cases written
    exact ⟨rfl, rfl⟩

section Legs

variable {leg : ExitLeg} {stops : TradingStops} {position : OpenPosition}

theorem StopRows.reduced (stopRows : StopRows cfg b)
    (found : b.activePositions leg.symbol = some ⟨stops, some position⟩) :
    StopRows cfg ((Entry.reduced leg).apply cfg b) := by
  rw [apply_reduced found]
  intro row member stops' position' found'
  have before : ∃ old ∈ b.db.positions, row.symbol = old.symbol ∧ row.slPrice = old.slPrice ∧
      row.tpPrice = old.tpPrice := by
    obtain ⟨old, oldMember, ⟨_, rfl⟩ | ⟨_, rfl⟩⟩ := mem_updateWhere.mp member
    · exact ⟨old, oldMember, rfl, rfl, rfl⟩
    · exact ⟨row, oldMember, rfl, rfl, rfl⟩
  obtain ⟨old, oldMember, sameSymbol, slPrice, tpPrice⟩ := before
  rw [slPrice, tpPrice]
  by_cases same : old.symbol = leg.symbol
  · have written : some (⟨{ stops with slType := .trail }, some (position.reduce leg)⟩ :
        ActivePosition) = some ⟨stops', some position'⟩ := by
      simpa [sameSymbol, same] using found'
    cases written
    exact stopRows old oldMember stops position (by rw [same, found])
  · refine stopRows old oldMember stops' position' ?_
    simpa [sameSymbol, Function.update_of_ne same] using found'

theorem StopRows.closed (stopRows : StopRows cfg b) (mirrored : Mirrored cfg b)
    (found : b.activePositions leg.symbol = some ⟨stops, some position⟩) :
    StopRows cfg ((Entry.closed leg).apply cfg b) := by
  rw [apply_closed found]
  intro row member stops' position' found'
  obtain ⟨oldMember, kept⟩ := List.mem_filter.mp member
  obtain ⟨_, _, mirrors⟩ := mirrored.rows row oldMember
  have differs : row.symbol ≠ leg.symbol := by
    intro same
    simp [PaperPosition.at, mirrors.botId, same] at kept
  refine stopRows row oldMember stops' position' ?_
  simpa [Function.update_of_ne differs] using found'

end Legs

/-- An entry that does not write stops to memory alone. -/
def Entry.Persisted : Entry → Prop
  | .restopped _ _ persisted => persisted = true
  | _ => True

theorem StopRows.apply (stopRows : StopRows cfg b) (mirrored : Mirrored cfg b) {e : Entry}
    (allowed : e.Allowed cfg b) (persisted : e.Persisted) : StopRows cfg (e.apply cfg b) := by
  cases e with
  | drawn => exact stopRows
  | restopped symbol stops written =>
      obtain rfl : written = true := persisted
      exact stopRows.restopped mirrored symbol stops
  | opened t => exact stopRows.opened mirrored allowed.2.1
  | reduced leg =>
      obtain ⟨_, stops, position, found, _⟩ := allowed
      exact stopRows.reduced found
  | closed leg =>
      obtain ⟨_, stops, position, found, _⟩ := allowed
      exact stopRows.closed mirrored found

/-! ## Calls that raise -/

/-- The books but for the id supply. -/
structure SameBooks (s s' : PaperExchange) : Prop where
  activePositions : s'.activePositions = s.activePositions
  db : s'.db = s.db

theorem transaction_error {α : Type} {body : Tx α} {s s' : PaperExchange} {raised : PaperError}
    (raises : transaction body s = (.error raised, s')) : SameBooks s s' := by
  unfold transaction at raises
  split at raises
  · obtain ⟨_, rfl⟩ := Prod.mk.inj raises
    exact ⟨rfl, rfl⟩
  · split at raises
    · obtain ⟨impossible, _⟩ := Prod.mk.inj raises
      cases impossible
    · obtain ⟨_, rfl⟩ := Prod.mk.inj raises
      exact ⟨rfl, rfl⟩

theorem persistOpen_error {t : OrderTicket} {s s' : PaperExchange} {raised : PaperError}
    (raises : persistOpen cfg t s = (.error raised, s')) : SameBooks s s' := by
  unfold persistOpen at raises
  split at raises
  · obtain ⟨_, rfl⟩ := Prod.mk.inj raises
    exact ⟨rfl, rfl⟩
  · split at raises
    · rename_i ran
      obtain ⟨_, rfl⟩ := Prod.mk.inj raises
      exact transaction_error ran
    · obtain ⟨impossible, _⟩ := Prod.mk.inj raises
      cases impossible

theorem persistClose_error {t : OrderTicket} {s s' : PaperExchange} {raised : PaperError}
    (raises : persistClose cfg t s = (.error raised, s')) : SameBooks s s' := by
  unfold persistClose at raises
  split at raises
  · obtain ⟨_, rfl⟩ := Prod.mk.inj raises
    exact ⟨rfl, rfl⟩
  · simp only at raises
    split at raises
    · rename_i ran
      obtain ⟨_, rfl⟩ := Prod.mk.inj raises
      exact transaction_error ran
    · obtain ⟨impossible, _⟩ := Prod.mk.inj raises
      cases impossible

/-- A refused market order has drawn an id at most. -/
theorem placeMarketOrder_error {symbol : String} {side : Side} {qty : ℚ} {reduceOnly : Bool}
    {s s' : PaperExchange} {raised : PaperError}
    (raises : placeMarketOrder cfg symbol side qty reduceOnly s = (.error raised, s')) :
    SameBooks s s' := by
  unfold placeMarketOrder at raises
  split at raises
  · obtain ⟨_, rfl⟩ := Prod.mk.inj raises
    exact ⟨rfl, rfl⟩
  · obtain ⟨_, rfl⟩ := Prod.mk.inj raises
    exact ⟨rfl, rfl⟩
  · simp only at raises
    split at raises
    · split at raises
      · rename_i ran
        obtain ⟨_, rfl⟩ := Prod.mk.inj raises
        exact ⟨(persistClose_error ran).activePositions, (persistClose_error ran).db⟩
      · obtain ⟨impossible, _⟩ := Prod.mk.inj raises
        cases impossible
    · split at raises
      · rename_i ran
        obtain ⟨_, rfl⟩ := Prod.mk.inj raises
        exact ⟨(persistOpen_error ran).activePositions, (persistOpen_error ran).db⟩
      · obtain ⟨impossible, _⟩ := Prod.mk.inj raises
        cases impossible

theorem checkAndDrain_error {symbol : String} {low high : ℚ} {s s' : PaperExchange}
    {raised : PaperError} (empty : s.pendingSlTpFills = [])
    (raises : checkAndDrain cfg symbol low high s = (.error raised, s')) : SameBooks s s' := by
  obtain ⟨_, outcome⟩ := checkAndDrain_outcome cfg symbol low high empty
  rw [raises] at outcome
  have kept : s'.books = s.books ∨ s'.books = Entry.drawn.apply cfg s.books := by
    simp only at outcome
    generalize s'.books = books at outcome
    generalize s'.dbOutcomes = outcomes at outcome
    cases outcome with
    | malformed => exact .inl rfl
    | failed => exact .inr rfl
  rcases kept with same | drawn
  · exact ⟨congrArg Books.activePositions same, congrArg Books.db same⟩
  · exact ⟨congrArg Books.activePositions drawn, congrArg Books.db drawn⟩

/-- Neither the clock nor the price caches are books. -/
theorem sameBooks_clock {s : PaperExchange} (at_ : ℕ) (candle : Candle) :
    SameBooks s ((if cfg.replayClock then s.setReplayClock at_ else s).cacheCandle candle) := by
  split <;> exact ⟨rfl, rfl⟩

/-! ## Every call -/

/-- The states between two calls of a run that kept its stops. -/
structure Agreeing (cfg : Config) (s : PaperExchange) : Prop where
  atRest : AtRest s
  mirrored : Mirrored cfg s.books
  stopRows : StopRows cfg s.books

theorem Agreeing.initial : Agreeing cfg {} := ⟨AtRest.initial, Mirrored.initial, StopRows.initial⟩

variable {s s' : PaperExchange}

theorem Agreeing.agreement (agreeing : Agreeing cfg s) : Agreement cfg s.books :=
  agreeing.mirrored.agreement agreeing.stopRows

theorem Agreeing.of_books (agreeing : Agreeing cfg s) (books : s'.books = s.books)
    (pending : s'.pendingSlTpFills = []) : Agreeing cfg s' := by
  obtain ⟨⟨consistent, _⟩, mirrored, stopRows⟩ := agreeing
  rw [← books] at consistent mirrored stopRows
  exact ⟨⟨consistent, pending⟩, mirrored, stopRows⟩

theorem Agreeing.of_entry (agreeing : Agreeing cfg s) {e : Entry} (allowed : e.Allowed cfg s.books)
    (persisted : e.Persisted) (books : s'.books = e.apply cfg s.books)
    (pending : s'.pendingSlTpFills = []) : Agreeing cfg s' := by
  obtain ⟨⟨consistent, _⟩, mirrored, stopRows⟩ := agreeing
  have consistent' := consistent.apply allowed
  have mirrored' := mirrored.apply consistent allowed
  have stopRows' := stopRows.apply mirrored allowed persisted
  rw [← books] at consistent' mirrored' stopRows'
  exact ⟨⟨consistent', pending⟩, mirrored', stopRows'⟩

theorem PendingSLTPFill.entry_persisted (fill : PendingSLTPFill) : (fill.entry cfg).Persisted := by
  unfold PendingSLTPFill.entry
  split <;> trivial

theorem Agreeing.checkAndDrain (agreeing : Agreeing cfg s) (symbol : String) (low high : ℚ) :
    Agreeing cfg (checkAndDrain cfg symbol low high s).2 := by
  have empty := agreeing.atRest.pending
  obtain ⟨frame, outcome⟩ := checkAndDrain_outcome cfg symbol low high empty
  have pending := frame.pending.trans empty
  generalize Paper.checkAndDrain cfg symbol low high s = ran at outcome pending
  generalize books : ran.2.books = after at outcome
  generalize ran.2.dbOutcomes = outcomes at outcome
  generalize ran.1 = result at outcome
  cases outcome with
  | untouched clear => exact agreeing.of_books books pending
  | malformed e found slClear tpInside mode unsized => exact agreeing.of_books books pending
  | failed e found crossed refused => exact agreeing.of_entry (e := .drawn) trivial trivial books pending
  | entered found crossed accepted =>
      have allowed := crossed.allowed cfg (b := s.books) found
        (Bool.and_eq_true _ _ ▸ accepted).1
      exact agreeing.of_entry allowed (PendingSLTPFill.entry_persisted _) books pending

/-- The segments of a replayed candle are drained one after the other, each all or nothing. -/
theorem Agreeing.replaySegments (symbol : String) (ranges : List (ℚ × ℚ)) :
    ∀ {s : PaperExchange}, Agreeing cfg s →
      Agreeing cfg (replaySegments cfg symbol ranges s).2 ∧
      ∀ raised s', replaySegments cfg symbol ranges s = (.error raised, s') →
        SameBooks (replayStart cfg symbol ranges s) s' := by
  induction ranges with
  | nil =>
      intro s agreeing
      refine ⟨agreeing, fun raised s' raises => ?_⟩
      obtain ⟨impossible, _⟩ := Prod.mk.inj raises
      cases impossible
  | cons range ranges ih =>
      obtain ⟨low, high⟩ := range
      intro s agreeing
      have drained := agreeing.checkAndDrain symbol low high
      unfold Paper.replaySegments replayStart
      cases ran : Paper.checkAndDrain cfg symbol low high s with
      | mk result after =>
          rw [ran] at drained
          cases result with
          | ok _ => exact ih drained
          | error e =>
              refine ⟨drained, fun raised s' raises => ?_⟩
              obtain ⟨_, rfl⟩ := Prod.mk.inj raises
              exact checkAndDrain_error agreeing.atRest.pending ran

theorem Agreeing.placeMarketOrder (agreeing : Agreeing cfg s) (symbol : String) (side : Side)
    (qty : ℚ) (reduceOnly : Bool) :
    Agreeing cfg (placeMarketOrder cfg symbol side qty reduceOnly s).2 := by
  obtain ⟨frame, books⟩ := placeMarketOrder_books cfg symbol side qty reduceOnly s
  have pending := frame.pending.trans agreeing.atRest.pending
  cases made : orderEntry cfg symbol side qty reduceOnly s with
  | none =>
      rw [made] at books
      exact agreeing.of_books books pending
  | some e =>
      rw [made] at books
      rcases orderEntry_cases made with rfl | ⟨t, rfl, _, _, _, allowed⟩ |
        ⟨leg, rfl, _, _, _, _, allowed⟩
      · exact agreeing.of_entry (e := .drawn) trivial trivial books pending
      · exact agreeing.of_entry allowed trivial books pending
      · exact agreeing.of_entry allowed trivial books pending

section Stops

variable {symbol : String} {tpslMode : TpslMode} {slPrice tpPrice tpSize : Option ℚ}
  {slType : Option SlType}

/-- A stop that was there already leaves memory as it was. -/
theorem update_restoppedEntry
    (kept : s.activePositions symbol =
      some (restoppedEntry s symbol tpslMode slPrice tpPrice tpSize slType)) :
    Function.update s.activePositions symbol
      (some (restoppedEntry s symbol tpslMode slPrice tpPrice tpSize slType)) =
        s.activePositions := by
  rw [← kept, Function.update_eq_self]

theorem Agreeing.setTradingStop (agreeing : Agreeing cfg s)
    (kept : slType ≠ some .trail → s.commits = false →
      s.activePositions symbol =
        some (restoppedEntry s symbol tpslMode slPrice tpPrice tpSize slType)) :
    Agreeing cfg (setTradingStop cfg symbol tpslMode slPrice tpPrice tpSize slType s).2 := by
  obtain ⟨frame, books⟩ :=
    setTradingStop_books cfg symbol tpslMode slPrice tpPrice tpSize slType s
  have pending := frame.pending.trans agreeing.atRest.pending
  by_cases isTrail : slType = some .trail
  · rw [stopEntry, if_pos isTrail] at books
    exact agreeing.of_books books pending
  · rw [stopEntry, if_neg isTrail] at books
    cases commits : s.commits with
    | true =>
        rw [commits] at books
        exact agreeing.of_entry (e := .restopped symbol _ true) trivial rfl books pending
    | false =>
        rw [commits] at books
        refine agreeing.of_books (books.trans ?_) pending
        have unchanged := update_restoppedEntry (kept isTrail commits)
        exact congrArg (fun active => { s.books with activePositions := active }) unchanged

/-- A stop is refused for its type or because its write failed. -/
theorem setTradingStop_error {raised : PaperError}
    (raises : setTradingStop cfg symbol tpslMode slPrice tpPrice tpSize slType s =
      (.error raised, s')) :
    (slType = some .trail ∧ s' = s) ∨
      (slType ≠ some .trail ∧ s.commits = false ∧ s'.db = s.db ∧
        s'.activePositions = Function.update s.activePositions symbol
          (some (restoppedEntry s symbol tpslMode slPrice tpPrice tpSize slType))) := by
  unfold Paper.setTradingStop at raises
  split at raises
  · rename_i isTrail
    exact .inl ⟨isTrail, (Prod.mk.inj raises).2.symm⟩
  · rename_i notTrail
    simp only at raises
    have same := transaction_error raises
    refine .inr ⟨notTrail, ?_, same.db, same.activePositions⟩
    generalize restopped : ({ s with activePositions := _ } : PaperExchange) = t at raises
    have spec : updatePaperPositionSlTp cfg.columns cfg.botId symbol slPrice tpPrice t.db =
        if true then .ok ((), t.db.afterRestop cfg symbol slPrice tpPrice)
        else .error .databaseError := rfl
    have ran := transaction_eq spec
    have commits : t.commits = s.commits := by subst restopped; rfl
    rw [raises, commits] at ran
    cases accepted : s.commits with
    | false => rfl
    | true => simp [accepted] at ran

end Stops

/-- The start of a call: the same books, its time and the outcomes of its transactions. -/
theorem Agreeing.start (agreeing : Agreeing cfg s) (now : ℕ) (dbOutcomes : List TxOutcome) :
    Agreeing cfg { s with now := now, dbOutcomes := dbOutcomes } :=
  agreeing.of_books rfl agreeing.atRest.pending

/-- A candle only enters the price caches before its crossing checks. -/
theorem Agreeing.cacheCandle (agreeing : Agreeing cfg s) (candle : Candle) :
    Agreeing cfg (s.cacheCandle candle) :=
  agreeing.of_books rfl agreeing.atRest.pending

theorem Agreeing.clock (agreeing : Agreeing cfg s) (at_ : ℕ) :
    Agreeing cfg (if cfg.replayClock then s.setReplayClock at_ else s) := by
  split
  · exact agreeing.of_books rfl agreeing.atRest.pending
  · exact agreeing

theorem stopKept_start {call : Call} {symbol : String} {tpslMode : TpslMode}
    {slPrice tpPrice tpSize : Option ℚ} {slType : Option SlType}
    (isStop : call.op = .setTradingStop symbol tpslMode slPrice tpPrice tpSize slType) :
    StopKept s call ↔
      (slType ≠ some .trail →
        ({ s with now := call.now, dbOutcomes := call.dbOutcomes } : PaperExchange).commits =
          false →
        s.activePositions symbol =
          some (restoppedEntry s symbol tpslMode slPrice tpPrice tpSize slType)) := by
  simp only [StopKept, isStop, PaperExchange.commits, bne_eq_false_iff_eq]

theorem Agreeing.step (agreeing : Agreeing cfg s) {call : Call} (kept : StopKept s call) :
    Agreeing cfg (step cfg call s) := by
  obtain ⟨op, now, dbOutcomes⟩ := call
  have started := agreeing.start now dbOutcomes
  cases op with
  | placeMarketOrder symbol side qty reduceOnly =>
      exact started.placeMarketOrder symbol side qty reduceOnly
  | setTradingStop symbol tpslMode slPrice tpPrice tpSize slType =>
      exact started.setTradingStop ((stopKept_start rfl).mp kept)
  | onCandle candle =>
      show Agreeing cfg (Paper.onCandle cfg candle _).2
      unfold Paper.onCandle
      split
      · exact (started.cacheCandle candle).checkAndDrain candle.symbol candle.low candle.high
      · exact started
  | processReplayCandle ohlc =>
      have cached := (started.clock ohlc.bucketStart).cacheCandle { ohlc with isClosed := true }
      show Agreeing cfg (Paper.processReplayCandle cfg ohlc _).2
      unfold Paper.processReplayCandle
      simp only
      split
      · exact cached
      · exact (Agreeing.replaySegments ohlc.symbol _ cached).1

/-- **What a call does when it raises.**  Memory and tables are those its last operation began
with. -/
theorem Agreeing.unchanged (agreeing : Agreeing cfg s) {call : Call} (kept : StopKept s call)
    {raised : PaperError}
    (raises : call.op.result cfg { s with now := call.now, dbOutcomes := call.dbOutcomes } =
      .error raised) :
    SameBooks (call.op.lastStart cfg { s with now := call.now, dbOutcomes := call.dbOutcomes })
      (Paper.step cfg call s) := by
  obtain ⟨op, now, dbOutcomes⟩ := call
  have started := agreeing.start now dbOutcomes
  cases op with
  | placeMarketOrder symbol side qty reduceOnly =>
      simp only [Op.result] at raises
      simp only [Op.lastStart, Paper.step, Op.apply]
      cases ran : Paper.placeMarketOrder cfg symbol side qty reduceOnly
          { s with now := now, dbOutcomes := dbOutcomes } with
      | mk result after =>
          rw [ran] at raises
          cases result with
          | ok _ => cases raises
          | error e => exact placeMarketOrder_error ran
  | setTradingStop symbol tpslMode slPrice tpPrice tpSize slType =>
      simp only [Op.result] at raises
      simp only [Op.lastStart, Paper.step, Op.apply]
      cases ran : Paper.setTradingStop cfg symbol tpslMode slPrice tpPrice tpSize slType
          { s with now := now, dbOutcomes := dbOutcomes } with
      | mk result after =>
          rw [ran] at raises
          simp only at raises
          subst raises
          rcases setTradingStop_error ran with ⟨_, rfl⟩ | ⟨notTrail, fails, db, active⟩
          · exact ⟨rfl, rfl⟩
          · have there := (stopKept_start rfl).mp kept notTrail fails
            exact ⟨active.trans (update_restoppedEntry there), db⟩
  | onCandle candle =>
      simp only [Op.result] at raises
      simp only [Op.lastStart, Paper.step, Op.apply]
      unfold Paper.onCandle at raises ⊢
      by_cases isClosed : candle.isClosed = true
      · rw [if_pos isClosed] at raises ⊢
        cases ran : Paper.checkAndDrain cfg candle.symbol candle.low candle.high
            (PaperExchange.cacheCandle { s with now := now, dbOutcomes := dbOutcomes } candle) with
        | mk result after =>
            rw [ran] at raises
            simp only at raises
            subst raises
            have same := checkAndDrain_error (started.cacheCandle candle).atRest.pending ran
            exact ⟨same.activePositions, same.db⟩
      · rw [if_neg isClosed] at raises
        cases raises
  | processReplayCandle ohlc =>
      have cached := (started.clock ohlc.bucketStart).cacheCandle { ohlc with isClosed := true }
      simp only [Op.result] at raises
      simp only [Op.lastStart, Paper.step, Op.apply]
      unfold Paper.processReplayCandle at raises ⊢
      simp only at raises ⊢
      cases drawn : generateIntraCandlePath ohlc.openPrice ohlc.high ohlc.low ohlc.close with
      | error e => exact sameBooks_clock ohlc.bucketStart { ohlc with isClosed := true }
      | ok path =>
          rw [drawn] at raises
          simp only at raises ⊢
          generalize PaperExchange.cacheCandle _ _ = t at raises cached ⊢
          cases ran : Paper.replaySegments cfg ohlc.symbol (segments path) t with
          | mk result after =>
              rw [ran] at raises
              simp only at raises
              subst raises
              exact (Agreeing.replaySegments ohlc.symbol _ cached).2 raised after ran

theorem Agreeing.faithful (agreeing : Agreeing cfg s) {call : Call} (kept : StopKept s call) :
    Faithful cfg s call where
  agreement := (agreeing.step kept).agreement
  unchanged := fun _ raises =>
    ⟨(agreeing.unchanged kept raises).activePositions, (agreeing.unchanged kept raises).db⟩

/-- A stop whose write fails shows in memory, and nowhere else. -/
theorem Faithful.stopKept {call : Call} (faithful : Faithful cfg s call) : StopKept s call := by
  obtain ⟨op, now, dbOutcomes⟩ := call
  cases op with
  | setTradingStop symbol tpslMode slPrice tpPrice tpSize slType =>
      refine (stopKept_start rfl).mpr fun notTrail fails => ?_
      have unchanged := faithful.unchanged
      simp only [Op.result, Op.lastStart, Paper.step, Op.apply] at unchanged
      generalize started : ({ s with now := now, dbOutcomes := dbOutcomes } : PaperExchange) = t
        at unchanged fails
      have active : t.activePositions = s.activePositions := by subst started; rfl
      have ran : Paper.setTradingStop cfg symbol tpslMode slPrice tpPrice tpSize slType t =
          (.error .databaseError,
            { t with
              activePositions := Function.update t.activePositions symbol
                (some (restoppedEntry t symbol tpslMode slPrice tpPrice tpSize slType))
              dbOutcomes := t.dbOutcomes.tail }) := by
        have supply : t.dbOutcomes.head? = some .fails := by
          simpa [PaperExchange.commits] using fails
        obtain ⟨rest, outcomes⟩ := List.head?_eq_some_iff.mp supply
        simp [Paper.setTradingStop, notTrail, transaction, outcomes, restoppedEntry]
      rw [ran] at unchanged
      have same := (unchanged .databaseError rfl).1
      rw [active] at same
      have here : Function.update s.activePositions symbol
          (some (restoppedEntry t symbol tpslMode slPrice tpPrice tpSize slType)) symbol =
          s.activePositions symbol := congrFun same symbol
      rw [Function.update_self] at here
      rw [← here]
      simp only [restoppedEntry, active]
  | placeMarketOrder => trivial
  | onCandle => trivial
  | processReplayCandle => trivial

/-! ## The main result -/

/-- **When memory and tables agree.**  After every call of a run the two agree, and a call that
raised changed neither, exactly when every stop whose write failed was the one that was there
already. -/
theorem run_faithful_iff (cfg : Config) (calls : List Call) :
    RunGuarded (Faithful cfg) (step cfg) {} calls ↔ RunGuarded StopKept (step cfg) {} calls := by
  constructor
  · exact RunGuarded.mono fun _ _ => Faithful.stopKept
  · intro kept
    exact runGuarded_of_invariant (Agreeing cfg)
      (fun _ _ agreeing stopKept => agreeing.step stopKept)
      (fun _ _ agreeing stopKept => agreeing.faithful stopKept) Agreeing.initial kept

/-- A long of 1 whose stop at 95 is written to memory while its row update fails. -/
def failedStop : List Call :=
  [{ op := .onCandle (btcCandle 100 101 99 100) },
   { op := .placeMarketOrder "BTCUSDT" .buy 1 false },
   { op := .setTradingStop "BTCUSDT" .Full (some 95) none none none, dbOutcomes := [.fails] }]

/-- The stop at 95 is in force in memory and unknown to the row. -/
theorem failedStop_disagrees :
    ¬ RunGuarded (Faithful plainConfig) (step plainConfig) {} failedStop := by
  rintro ⟨_, _, faithful, _⟩
  obtain ⟨row, member, _, agrees⟩ := faithful.agreement.listed "BTCUSDT"
    { slPrice := some 95 } ⟨1, .buy, 1, 100, 0, 0, false, 0⟩ (by decide +kernel)
  have unstopped : ∀ row ∈ (run (step plainConfig) {} failedStop).db.positions,
      row.slPrice = none := by decide +kernel
  have stored := agrees.slPrice
  rw [unstopped row member] at stored
  cases stored

end Scalper.Paper
