import Scalper.Exchange.BybitClient
import Scalper.Lib.Pages
import Mathlib.Algebra.BigOperators.Group.List.Basic

/-!
# Profits and fees read page by page

`get_closed_pnl_cumulative`, `get_closed_pnl_window` and `get_funding_fees_window` of
`packages/exchange/bybit_v5/adapter.py`: a listing of the exchange, newest first, with 200 rows a
page, of which at most ten pages are read.

The close of a trade takes the difference of two readings of the cumulative profit for the profit of
the trade.  The second reading has the new rows at its beginning; from the 2001st row on it has lost
as many at its end.  So the difference is what was closed in between, less what has fallen out of the
ten pages meanwhile (`closed_pnl_delta`).
-/

set_option autoImplicit false

namespace Scalper.Exchange.Bybit

open Scalper.Lib

/-- `_MAX_CLOSED_PNL_PAGES` and `_MAX_FUNDING_PAGES`. -/
def maxPages : ℕ := 10

/-- `limit`. -/
def pageLimit : ℕ := 200

/-- `result.get("nextPageCursor") or None`. -/
def nextPageCursor (result : Fields) : Option String :=
  match result.lookup "nextPageCursor" with
  | some (.string cursor) => if cursor = "" then none else some cursor
  | _ => none

section Rows

variable (repr : Json → String)

/-- `item[name]`. -/
def itemField (item : Json) (name : String) : Except Raised Json :=
  match item with
  | .object fields => required fields name
  | _ => .error .typeError

/-- A number that is read is taken for a finite one. -/
def finiteOf (number : DecimalValue) : Except Raised ℚ :=
  match number with
  | .finite number => .ok number.value
  | _ => .error .invalidOperation

/-- `Decimal(item["closedPnl"])`. -/
def closedPnlOf (item : Json) : Except Raised ℚ :=
  itemField item "closedPnl" >>= fun value =>
    match value with
    | .string text =>
        match parseDecimal text.toList with
        | some number => finiteOf number
        | none => .error .invalidOperation
    | .int value => .ok value
    | _ => .error .typeError

/-- `FundingFee`. -/
structure FundingFee where
  symbol : Json
  settledAt : ℤ
  funding : ℚ

/-- The fee of a row; the time is in milliseconds. -/
def fundingFeeOf (item : Json) : Except Raised FundingFee := do
  let symbol ← itemField item "symbol"
  let settledAt ← itemField item "transactionTime" >>= intOf
  let funding ← itemField item "funding" >>= decimalOf repr >>= finiteOf
  .ok ⟨symbol, settledAt, funding⟩

end Rows

/-- A page of a listing, from the result of its request. -/
def readPage {α : Type} (read : Json → Except Raised α) (result : Fields) :
    Except ClientError (Page String α) :=
  match iterate ((result.lookup "list").getD (.array [])) >>= fun items => items.mapM read with
  | .ok items => .ok ⟨items, nextPageCursor result⟩
  | .error error => .error (.raised error)

section Listings

variable {α : Type} (own : String) (ask : AdapterCall → Except ClientError Fields)

/-- A page of a listing: what the request that the limiter let through came to. -/
def fetchListing (read : Json → Except Raised α) (call : Option String → AdapterCall)
    (cursor : Option String) : Except ClientError (Page String α) :=
  ask (call cursor) >>= readPage read

/-- The rows of the first ten pages, of the own sub-account only. -/
def readListing (read : Json → Except Raised α) (call : Option String → AdapterCall)
    (subAccount : String) : Except ClientError (List α) :=
  if subAccount ≠ own then .error (.raised .valueError)
  else (collectPages (fetchListing ask read call) maxPages none).map Prod.fst

def getClosedPnlCumulative (subAccount : String) : Except ClientError ℚ :=
  (readListing own ask closedPnlOf (.getClosedPnl none) subAccount).map List.sum

/-- `get_closed_pnl_window`, from a time in milliseconds on. -/
def getClosedPnlWindow (subAccount : String) (sinceMs : ℤ) : Except ClientError ℚ :=
  (readListing own ask closedPnlOf (.getClosedPnl (some sinceMs)) subAccount).map List.sum

def getFundingFeesWindow (repr : Json → String) (subAccount : String) (sinceMs : ℤ) :
    Except ClientError (List FundingFee) :=
  readListing own ask (fundingFeeOf repr) (.getFundingFees sinceMs) subAccount

/-- The exchange lists rows, 200 a page. -/
def Lists (read : Json → Except Raised α) (call : Option String → AdapterCall)
    (rows : List α) : Prop :=
  Chained (fetchListing ask read call) pageLimit none rows

end Listings

section Readings

variable {α : Type} {own : String} {ask : AdapterCall → Except ClientError Fields}

theorem readListing_of_lists {read : Json → Except Raised α} {call : Option String → AdapterCall}
    {rows : List α} (lists : Lists ask read call rows) :
    readListing own ask read call own = .ok (rows.take (maxPages * pageLimit)) := by
  obtain ⟨capped, collected⟩ := collectPages_chained lists maxPages
  rw [readListing, if_neg (not_not.mpr rfl), collected]
  rfl

/-- What a listing that grows at its beginning loses at the end of its first rows. -/
theorem sum_take_append (first rest : List ℚ) (n : ℕ) :
    ((first ++ rest).take n).sum =
      (first.take n).sum + (rest.take n).sum - ((rest.take n).drop (n - first.length)).sum := by
  have split : (rest.take n).sum = (rest.take (n - first.length)).sum +
      ((rest.take n).drop (n - first.length)).sum := by
    rw [← List.sum_take_add_sum_drop (rest.take n) (n - first.length), List.take_take,
      Nat.min_eq_left (Nat.sub_le _ _)]
  rw [List.take_append, List.sum_append, split]
  ring

end Readings

/-- **What two readings of the cumulative profit differ by.**  Where the exchange lists `closed`, and
later `since` before it, the two readings differ by the sum of `since`, as far as the ten pages reach,
less the rows of `closed` that were within the pages before and are beyond them now: none as long as
there are no more than 2000 rows. -/
theorem closed_pnl_delta (own : String) {before after : AdapterCall → Except ClientError Fields}
    {closed since : List ℚ} (listed : Lists before closedPnlOf (.getClosedPnl none) closed)
    (grown : Lists after closedPnlOf (.getClosedPnl none) (since ++ closed)) :
    ∃ beforeTotal afterTotal, getClosedPnlCumulative own before own = .ok beforeTotal ∧
      getClosedPnlCumulative own after own = .ok afterTotal ∧
      afterTotal - beforeTotal =
        (since.take 2000).sum - ((closed.take 2000).drop (2000 - since.length)).sum ∧
      (since.length + closed.length ≤ 2000 → afterTotal - beforeTotal = since.sum) := by
  have counted : maxPages * pageLimit = 2000 := rfl
  have difference : ((since ++ closed).take 2000).sum - (closed.take 2000).sum =
      (since.take 2000).sum - ((closed.take 2000).drop (2000 - since.length)).sum := by
    rw [sum_take_append]
    ring
  refine ⟨(closed.take 2000).sum, ((since ++ closed).take 2000).sum, ?_, ?_, difference, ?_⟩
  · rw [getClosedPnlCumulative, readListing_of_lists listed, counted]
    rfl
  · rw [getClosedPnlCumulative, readListing_of_lists grown, counted]
    rfl
  · intro within
    have past : (closed.take 2000).drop (2000 - since.length) = [] := by
      rw [List.drop_eq_nil_iff, List.length_take]
      omega
    rw [difference, past, List.take_of_length_le (by omega), List.sum_nil, sub_zero]

/-- A listing of one page. -/
def onePage (profits : List ℤ) : AdapterCall → Except ClientError Fields
  | .getClosedPnl none none =>
      .ok [("list", .array (profits.map fun profit => .object [("closedPnl", .int profit)]))]
  | _ => .error .http

theorem onePage_lists : Lists (onePage [5]) closedPnlOf (.getClosedPnl none) [5] ∧
    Lists (onePage [-3, 5]) closedPnlOf (.getClosedPnl none) ([-3] ++ [5]) :=
  ⟨.last rfl (by decide), .last rfl (by decide)⟩

theorem loss_after_profit :
    ∃ beforeTotal afterTotal, getClosedPnlCumulative "main" (onePage [5]) "main" = .ok beforeTotal ∧
      getClosedPnlCumulative "main" (onePage [-3, 5]) "main" = .ok afterTotal ∧
      afterTotal - beforeTotal =
        (([-3] : List ℚ).take 2000).sum -
          ((([5] : List ℚ).take 2000).drop (2000 - ([-3] : List ℚ).length)).sum ∧
      (([-3] : List ℚ).length + ([5] : List ℚ).length ≤ 2000 →
        afterTotal - beforeTotal = ([-3] : List ℚ).sum) :=
  closed_pnl_delta "main" onePage_lists.1 onePage_lists.2

end Scalper.Exchange.Bybit
