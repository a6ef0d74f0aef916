import Scalper.Execution.Ledger

/-!
# Attribution of the closed profit

`reconcile_close` writes for a trade the difference of two readings of the sub-account's
cumulative closed profit, taken around a sleep under a lock that all bots of the sub-account
share.  A sub-account is a counter that the exchange adds bookings to at any time, the lock, and
the closes under way; a run interleaves bookings with the steps of any number of closes.

The lock keeps the windows between two readings apart, so the sum of what is written is what was
booked inside a window.  That is the profit of the closed trades when every booking falls into
the window of its own trade (`run_attributed`).  The windows open after the closing fill was
delivered, and nothing makes the exchange wait for them: a fill booked before is missed, and a
booking of another trade meanwhile is taken for the own one.
-/

set_option autoImplicit false

namespace Scalper.Execution

open Scalper.Lib Scalper.Exchange

/-! ## A sub-account -/

/-- How far a `reconcile_close` has come: it waits for the lock, holds it, has read once, or has
read twice and released the lock. -/
inductive Reconciling where
  | waiting
  | locked
  | readOnce (beforeTotal : ℚ)
  | readTwice (beforeTotal afterTotal : ℚ)
  deriving DecidableEq, Repr

/-- What `update_trade_close` stores for two readings. -/
def writtenPnl (beforeTotal afterTotal : ℚ) : ℚ := numeric 4 (afterTotal - beforeTotal)

/-- A sub-account, and the closes that settle their profit on it. -/
structure SubAccount where
  /-- The exchange's cumulative closed profit. -/
  closedPnl : ℚ := 0
  /-- The trade whose close holds `closed_pnl_lock`. -/
  lock : Option ℕ := none
  closing : ℕ → Option Reconciling := fun _ => none
  /-- The `realized_pnl` values written, with their trades. -/
  realized : List (ℕ × ℚ) := []
  /-- The bookings the exchange has made, with the trades they are of. -/
  booked : List (ℕ × ℚ) := []

/-- A reading returns or raises; a transaction commits or not. -/
inductive PnlStep where
  | books (tradeId : ℕ) (amount : ℚ)
  | closes (tradeId : ℕ)
  | acquires (tradeId : ℕ)
  | readsBefore (tradeId : ℕ) (returns : Bool)
  | readsAfter (tradeId : ℕ) (returns : Bool)
  | commits (tradeId : ℕ) (committed : Bool)
  deriving DecidableEq, Repr

/-- The close flow runs once for a trade, so a trade that was written does not close again. -/
def pnlStep : PnlStep → SubAccount → SubAccount
  | .books tradeId amount, s =>
      { s with closedPnl := s.closedPnl + amount, booked := s.booked ++ [(tradeId, amount)] }
  | .closes tradeId, s =>
      if s.closing tradeId = none ∧ tradeId ∉ s.realized.map (·.1) then
        { s with closing := Function.update s.closing tradeId (some .waiting) }
      else s
  | .acquires tradeId, s =>
      if s.closing tradeId = some .waiting ∧ s.lock = none then
        { s with
          lock := some tradeId, closing := Function.update s.closing tradeId (some .locked) }
      else s
  | .readsBefore tradeId returns, s =>
      match s.closing tradeId with
      | some .locked =>
          if returns then
            { s with closing := Function.update s.closing tradeId (some (.readOnce s.closedPnl)) }
          else { s with lock := none, closing := Function.update s.closing tradeId none }
      | _ => s
  | .readsAfter tradeId returns, s =>
      match s.closing tradeId with
      | some (.readOnce beforeTotal) =>
          if returns then
            { s with
              lock := none
              closing := Function.update s.closing tradeId
                (some (.readTwice beforeTotal s.closedPnl)) }
          else { s with lock := none, closing := Function.update s.closing tradeId none }
      | _ => s
  | .commits tradeId committed, s =>
      match s.closing tradeId with
      | some (.readTwice beforeTotal afterTotal) =>
          { s with
            closing := Function.update s.closing tradeId none
            realized := s.realized ++
              if committed then [(tradeId, writtenPnl beforeTotal afterTotal)] else [] }
      | _ => s

/-- The profit booked for a trade. -/
def SubAccount.bookedFor (s : SubAccount) (tradeId : ℕ) : ℚ :=
  sumWhere (·.1 == tradeId) (·.2) s.booked

/-- What was written for the closed trades is what was booked for them: in total, and for each of
them. -/
structure Attributed (s : SubAccount) : Prop where
  total : (s.realized.map (·.2)).sum =
    sumWhere (fun booking => booking.1 ∈ s.realized.map (·.1)) (·.2) s.booked
  each : ∀ close ∈ s.realized, close.2 = s.bookedFor close.1

/-- Every booking falls between the readings of its own trade and fits the column, and no close
is given up after something was booked in its window. -/
def InOwnWindow (s : SubAccount) : PnlStep → Prop
  | .books tradeId amount =>
      (∃ beforeTotal, s.closing tradeId = some (.readOnce beforeTotal)) ∧ OnGrid 4 amount
  | .readsAfter tradeId false =>
      ∀ beforeTotal, s.closing tradeId = some (.readOnce beforeTotal) → s.closedPnl = beforeTotal
  | .commits tradeId false =>
      ∀ beforeTotal afterTotal,
        s.closing tradeId = some (.readTwice beforeTotal afterTotal) → afterTotal = beforeTotal
  | _ => True

/-! ## What the dispatcher writes -/

/-- The close flow writes the difference of its two readings for the trade it closes. -/
theorem process_writtenPnl {db : Db} (integrity : Integrity db) {botId : String}
    {delivery : Delivery} {tradeId : ℕ} {beforeTotal afterTotal : ℚ}
    (closes : closesTrade botId delivery db = some tradeId)
    (readBefore : delivery.reads.before = .ok beforeTotal)
    (readAfter : delivery.reads.after = .ok afterTotal) :
    ∃ trade ∈ (process botId delivery db).2.trades, trade.id = tradeId ∧
      trade.status = .closed ∧ trade.realizedPnl = some (writtenPnl beforeTotal afterTotal) := by
  obtain ⟨payload, db', returned, ofTrade⟩ := closesTrade_eq_some_iff.mp closes
  obtain ⟨-, recorded⟩ := process_ok_iff.mp returned
  rw [returned]
  cases recorded with
  | @closed orderId derived ps _ _ _ _ reduces emptied before after =>
      obtain rfl : ps.tradeId = tradeId := by
        simpa [reduces.derives, reduces.ofTrade] using ofTrade
      obtain rfl := Except.ok.inj (before.symm.trans readBefore)
      obtain rfl := Except.ok.inj (after.symm.trans readAfter)
      obtain ⟨trade, member, tracks⟩ := integrity.tracked _ _ reduces.held
      simp only [recordClose_trades]
      exact ⟨_, mem_updateWhere.mpr ⟨trade, member, .inl ⟨by simpa using tracks.id, rfl⟩⟩,
        tracks.id, rfl, rfl⟩

/-! ## The invariant -/

/-- The lock is held by the close between its readings, what was booked for a trade is what its
window has seen, and nothing was booked for a trade that has not opened its window. -/
structure Windows (s : SubAccount) : Prop where
  lockedHolds : ∀ tradeId, s.closing tradeId = some .locked → s.lock = some tradeId
  readHolds : ∀ tradeId beforeTotal, s.closing tradeId = some (.readOnce beforeTotal) →
    s.lock = some tradeId
  seen : ∀ tradeId beforeTotal, s.closing tradeId = some (.readOnce beforeTotal) →
    s.closedPnl = beforeTotal + s.bookedFor tradeId
  measured : ∀ tradeId beforeTotal afterTotal,
    s.closing tradeId = some (.readTwice beforeTotal afterTotal) →
      afterTotal - beforeTotal = s.bookedFor tradeId
  unopened : ∀ tradeId, tradeId ∉ s.realized.map (·.1) →
    (s.closing tradeId = none ∨ s.closing tradeId = some .waiting ∨
      s.closing tradeId = some .locked) → s.bookedFor tradeId = 0
  written : ∀ close ∈ s.realized, close.2 = s.bookedFor close.1
  ended : ∀ close ∈ s.realized, s.closing close.1 = none
  once : (s.realized.map (·.1)).Nodup
  grid : ∀ booking ∈ s.booked, OnGrid 4 booking.2

theorem Windows.initial : Windows {} := by
  constructor <;> simp [SubAccount.bookedFor, sumWhere]

section Steps

variable {s : SubAccount} {tradeId : ℕ}

theorem onGrid_sumWhere {p : ℕ × ℚ → Bool} {rows : List (ℕ × ℚ)}
    (grid : ∀ row ∈ rows, OnGrid 4 row.2) : OnGrid 4 (sumWhere p (·.2) rows) := by
  induction rows with
  | nil => exact onGrid_zero 4
  | cons row rows ih =>
      have rest := ih fun later member =>
        grid later (List.mem_cons_of_mem row member)
      cases matched : p row with
      | false => simpa [sumWhere, matched] using rest
      | true =>
          have first := grid row List.mem_cons_self
          simpa [sumWhere, matched] using first.add rest

theorem Windows.books (windows : Windows s) {amount beforeTotal : ℚ}
    (open_ : s.closing tradeId = some (.readOnce beforeTotal)) (fits : OnGrid 4 amount) :
    Windows (pnlStep (.books tradeId amount) s) := by
  have bookedFor : ∀ other, (pnlStep (.books tradeId amount) s).bookedFor other =
      s.bookedFor other + if tradeId = other then amount else 0 := by
    intro other
    simp only [SubAccount.bookedFor, pnlStep, sumWhere_append, beq_iff_eq]
  have others : ∀ other, other ≠ tradeId →
      (pnlStep (.books tradeId amount) s).bookedFor other = s.bookedFor other := by
    intro other different
    rw [bookedFor, if_neg (Ne.symm different), add_zero]
  constructor
  case lockedHolds =>
    exact windows.lockedHolds
  case readHolds =>
    exact windows.readHolds
  case seen =>
    intro other before found
    obtain rfl : other = tradeId := Option.some.inj
      ((windows.readHolds other before found).symm.trans (windows.readHolds tradeId _ open_))
    have seen := windows.seen other before found
    rw [bookedFor, if_pos rfl]
    simp only [pnlStep, seen]
    ring
  case measured =>
    intro other before after found
    have different : other ≠ tradeId := by
      rintro rfl
      cases open_.symm.trans found
    rw [others other different]
    exact windows.measured other before after found
  case unopened =>
    intro other unwritten state
    have different : other ≠ tradeId := by
      rintro rfl
      rcases state with state | state | state <;> cases open_.symm.trans state
    rw [others other different]
    exact windows.unopened other unwritten state
  case written =>
    intro close member
    have different : close.1 ≠ tradeId := by
      intro same
      have ended := windows.ended close member
      rw [same, open_] at ended
      cases ended
    rw [others close.1 different]
    exact windows.written close member
  case ended =>
    exact windows.ended
  case once =>
    exact windows.once
  case grid =>
    intro booking member
    rcases List.mem_append.mp member with listed | added
    · exact windows.grid booking listed
    · exact List.mem_singleton.mp added ▸ fits

/-- One close moves on: it keeps or passes the lock it may hold, and where it comes to agrees with
what was booked for its trade. -/
theorem Windows.move (windows : Windows s) {state : Option Reconciling} {lock : Option ℕ}
    (unwritten : tradeId ∉ s.realized.map (·.1))
    (passes : lock = s.lock ∨ s.lock = none ∨ s.lock = some tradeId)
    (holds : state = some .locked ∨ (∃ beforeTotal, state = some (.readOnce beforeTotal)) →
      lock = some tradeId)
    (seen : ∀ beforeTotal, state = some (.readOnce beforeTotal) →
      s.closedPnl = beforeTotal + s.bookedFor tradeId)
    (measured : ∀ beforeTotal afterTotal, state = some (.readTwice beforeTotal afterTotal) →
      afterTotal - beforeTotal = s.bookedFor tradeId)
    (unopened : state = none ∨ state = some .waiting ∨ state = some .locked →
      s.bookedFor tradeId = 0) :
    Windows { s with lock := lock, closing := Function.update s.closing tradeId state } := by
  have keeps : ∀ other, other ≠ tradeId → s.lock = some other → lock = some other := by
    intro other different held
    rcases passes with same | free | own
    · exact same.trans held
    · cases free.symm.trans held
    · exact absurd (Option.some.inj (held.symm.trans own)) different
  constructor
  case lockedHolds =>
    intro other found
    rcases update_eq_some_cases found with ⟨rfl, here⟩ | ⟨different, found⟩
    · exact holds (.inl here)
    · exact keeps other different (windows.lockedHolds other found)
  case readHolds =>
    intro other before found
    rcases update_eq_some_cases found with ⟨rfl, here⟩ | ⟨different, found⟩
    · exact holds (.inr ⟨before, here⟩)
    · exact keeps other different (windows.readHolds other before found)
  case seen =>
    intro other before found
    rcases update_eq_some_cases found with ⟨rfl, here⟩ | ⟨-, found⟩
    · exact seen before here
    · exact windows.seen other before found
  case measured =>
    intro other before after found
    rcases update_eq_some_cases found with ⟨rfl, here⟩ | ⟨-, found⟩
    · exact measured before after here
    · exact windows.measured other before after found
  case unopened =>
    intro other notWritten found
    by_cases same : other = tradeId
    · subst same
      exact unopened (by simpa using found)
    · exact windows.unopened other notWritten (by simpa [same] using found)
  case written =>
    exact windows.written
  case ended =>
    intro close member
    have different : close.1 ≠ tradeId := by
      rintro rfl
      exact unwritten (List.mem_map.mpr ⟨close, member, rfl⟩)
    simpa [different] using windows.ended close member
  case once =>
    exact windows.once
  case grid =>
    exact windows.grid

/-- A close under way is of a trade that was not written yet. -/
theorem Windows.unwritten (windows : Windows s) {state : Reconciling}
    (found : s.closing tradeId = some state) : tradeId ∉ s.realized.map (·.1) := by
  intro member
  obtain ⟨close, listed, rfl⟩ := List.mem_map.mp member
  cases (windows.ended close listed).symm.trans found

theorem Windows.closes (windows : Windows s) : Windows (pnlStep (.closes tradeId) s) := by
  simp only [pnlStep]
  split_ifs with fresh
  · exact windows.move fresh.2 (.inl rfl) (by simp) (by simp) (by simp)
      fun _ => windows.unopened tradeId fresh.2 (.inl fresh.1)
  · exact windows

theorem Windows.acquires (windows : Windows s) : Windows (pnlStep (.acquires tradeId) s) := by
  simp only [pnlStep]
  split_ifs with free
  · have unwritten := windows.unwritten free.1
    exact windows.move unwritten (.inr (.inl free.2)) (fun _ => rfl) (by simp) (by simp)
      fun _ => windows.unopened tradeId unwritten (.inr (.inl free.1))
  · exact windows

theorem Windows.readsBefore (windows : Windows s) (returns : Bool) :
    Windows (pnlStep (.readsBefore tradeId returns) s) := by
  simp only [pnlStep]
  split
  · rename_i found
    have unwritten := windows.unwritten found
    have nothing := windows.unopened tradeId unwritten (.inr (.inr found))
    have holder := windows.lockedHolds tradeId found
    split_ifs
    · refine windows.move unwritten (.inl rfl) (fun _ => holder) (fun before same => ?_) (by simp)
        (fun _ => nothing)
      cases same
      rw [nothing, add_zero]
    · exact windows.move unwritten (.inr (.inr holder)) (by simp) (by simp) (by simp)
        fun _ => nothing
  · exact windows

theorem Windows.readsAfter (windows : Windows s) {returns : Bool}
    (kept : InOwnWindow s (.readsAfter tradeId returns)) :
    Windows (pnlStep (.readsAfter tradeId returns) s) := by
  simp only [pnlStep]
  split
  · rename_i beforeTotal found
    have unwritten := windows.unwritten found
    have seen := windows.seen tradeId beforeTotal found
    have holder := windows.readHolds tradeId beforeTotal found
    cases returns with
    | true =>
        refine windows.move unwritten (.inr (.inr holder)) (by simp) (by simp)
          (fun before after same => ?_) (by simp)
        cases same
        rw [seen, add_sub_cancel_left]
    | false =>
        have still : s.closedPnl = beforeTotal := kept beforeTotal found
        refine windows.move unwritten (.inr (.inr holder)) (by simp) (by simp) (by simp)
          (fun _ => ?_)
        linarith
  · exact windows

/-- A measured profit is written for its trade. -/
theorem Windows.write (windows : Windows s) {beforeTotal afterTotal : ℚ}
    (found : s.closing tradeId = some (.readTwice beforeTotal afterTotal)) :
    Windows { s with
      closing := Function.update s.closing tradeId none
      realized := s.realized ++ [(tradeId, writtenPnl beforeTotal afterTotal)] } := by
  have unwritten := windows.unwritten found
  constructor
  case lockedHolds =>
    exact fun other there => windows.lockedHolds other (update_none_eq_some there).2
  case readHolds =>
    exact fun other before there =>
      windows.readHolds other before (update_none_eq_some there).2
  case seen =>
    exact fun other before there => windows.seen other before (update_none_eq_some there).2
  case measured =>
    exact fun other before after there =>
      windows.measured other before after (update_none_eq_some there).2
  case unopened =>
    intro other notWritten there
    simp only [List.map_append, List.map_cons, List.map_nil, List.mem_append,
      List.mem_singleton, not_or] at notWritten
    exact windows.unopened other notWritten.1 (by simpa [notWritten.2] using there)
  case written =>
    intro close member
    rcases List.mem_append.mp member with listed | added
    · exact windows.written close listed
    · have measured := windows.measured tradeId beforeTotal afterTotal found
      rw [List.mem_singleton.mp added, writtenPnl, measured]
      exact numeric_of_onGrid (onGrid_sumWhere windows.grid)
  case ended =>
    intro close member
    rcases List.mem_append.mp member with listed | added
    · by_cases same : close.1 = tradeId
      · simp [same]
      · simpa [same] using windows.ended close listed
    · simp [List.mem_singleton.mp added]
  case once =>
    rw [List.map_append, List.nodup_append]
    refine ⟨windows.once, List.nodup_singleton _, fun written member other there => ?_⟩
    rintro rfl
    have same : written = tradeId := List.mem_singleton.mp there
    exact unwritten (same ▸ member)
  case grid =>
    exact windows.grid

theorem Windows.commits (windows : Windows s) {committed : Bool}
    (kept : InOwnWindow s (.commits tradeId committed)) :
    Windows (pnlStep (.commits tradeId committed) s) := by
  simp only [pnlStep]
  split
  · rename_i beforeTotal afterTotal found
    have unwritten := windows.unwritten found
    have measured := windows.measured tradeId beforeTotal afterTotal found
    cases committed with
    | false =>
        have still : afterTotal = beforeTotal := kept beforeTotal afterTotal found
        simp only [Bool.false_eq_true, if_false, List.append_nil]
        refine windows.move unwritten (.inl rfl) (by simp) (by simp) (by simp) (fun _ => ?_)
        rw [← measured, still, sub_self]
    | true => exact windows.write found
  · exact windows

theorem Windows.step (windows : Windows s) (input : PnlStep) (kept : InOwnWindow s input) :
    Windows (pnlStep input s) := by
  cases input with
  | books tradeId amount =>
      obtain ⟨⟨beforeTotal, isOpen⟩, fits⟩ := kept
      exact windows.books isOpen fits
  | closes tradeId => exact windows.closes
  | acquires tradeId => exact windows.acquires
  | readsBefore tradeId returns => exact windows.readsBefore returns
  | readsAfter tradeId returns => exact windows.readsAfter kept
  | commits tradeId committed => exact windows.commits kept

/-! ## The sum -/

/-- The bookings of distinct trades, trade by trade. -/
theorem sum_bookedFor {trades : List ℕ} (distinct : trades.Nodup) (booked : List (ℕ × ℚ)) :
    (trades.map fun tradeId => sumWhere (·.1 == tradeId) (·.2) booked).sum =
      sumWhere (fun booking => booking.1 ∈ trades) (·.2) booked := by
  induction trades with
  | nil => simp [sumWhere]
  | cons tradeId trades ih =>
      obtain ⟨absent, rest⟩ := List.nodup_cons.mp distinct
      have split : (fun booking : ℕ × ℚ => decide (booking.1 ∈ tradeId :: trades)) =
          fun booking => booking.1 == tradeId || decide (booking.1 ∈ trades) := by
        funext booking
        by_cases same : booking.1 = tradeId <;> simp [same]
      rw [split, sumWhere_or booked, List.map_cons, List.sum_cons, ih rest]
      intro booking same
      simpa [beq_iff_eq.mp same] using absent

theorem Windows.attributed (windows : Windows s) : Attributed s := by
  have columns : s.realized.map (·.2) =
      (s.realized.map (·.1)).map fun tradeId => s.bookedFor tradeId := by
    rw [List.map_map]
    exact List.map_congr_left windows.written
  refine ⟨?_, windows.written⟩
  rw [columns]
  exact sum_bookedFor windows.once s.booked

end Steps

/-- **Closes attribute what is booked in their windows.**  In every run in which each booking
falls between the two readings of its own trade's close, fits the column, and is not lost with a
close that is given up, the profits written are those booked for the closed trades, in total and
one by one, however many bots share the sub-account. -/
theorem run_attributed (steps : List PnlStep) (windowed : RunGuarded InOwnWindow pnlStep {} steps) :
    Attributed (run pnlStep {} steps) :=
  (run_invariant Windows (fun _ input windows kept => windows.step input kept) .initial
    windowed).attributed

/-- Two closes that overlap but for their windows, each with its bookings inside. -/
def separateWindows : List PnlStep :=
  [.closes 1, .closes 2, .acquires 1, .acquires 2, .readsBefore 1 true, .books 1 30, .books 1 (-5),
   .readsAfter 1 true, .acquires 2, .readsBefore 2 true, .books 2 7, .readsAfter 2 true,
   .commits 2 true, .commits 1 true]

theorem separateWindows_attributed :
    (run pnlStep {} separateWindows).realized = [(2, 7), (1, 25)] ∧
      Attributed (run pnlStep {} separateWindows) := by
  refine ⟨by decide +kernel, run_attributed _ ⟨trivial, trivial, trivial, trivial, trivial, ?_, ?_,
    trivial, trivial, trivial, ?_, trivial, trivial, trivial, trivial⟩⟩
  · exact ⟨⟨0, by decide +kernel⟩, 300000, by norm_num⟩
  · exact ⟨⟨0, by decide +kernel⟩, -50000, by norm_num⟩
  · exact ⟨⟨25, by decide +kernel⟩, 70000, by norm_num⟩

/-- A partial take-profit and the closing fill are booked when they are made, and the close
starts when the fill is delivered. -/
def bookedWithTheFill : List PnlStep :=
  [.books 1 12, .books 1 30, .closes 1, .acquires 1, .readsBefore 1 true, .readsAfter 1 true,
   .commits 1 true]

/-- While a trade closes, an open trade of another bot takes a partial profit. -/
def foreignBooking : List PnlStep :=
  [.closes 1, .acquires 1, .readsBefore 1 true, .books 1 30, .books 2 7, .readsAfter 1 true,
   .commits 1 true]

/-- Nothing is written of what was booked before the window, and what another trade books
meanwhile is written for this one. -/
theorem attribution_fails :
    (run pnlStep {} bookedWithTheFill).realized = [(1, 0)] ∧
      (run pnlStep {} bookedWithTheFill).bookedFor 1 = 42 ∧
      (run pnlStep {} foreignBooking).realized = [(1, 37)] ∧
      (run pnlStep {} foreignBooking).bookedFor 1 = 30 ∧
      ¬ Attributed (run pnlStep {} bookedWithTheFill) ∧
      ¬ Attributed (run pnlStep {} foreignBooking) := by
  refine ⟨by decide +kernel, by decide +kernel, by decide +kernel, by decide +kernel,
    fun attributed => ?_, fun attributed => ?_⟩
  · exact absurd attributed.total (by decide +kernel)
  · exact absurd attributed.total (by decide +kernel)

end Scalper.Execution
