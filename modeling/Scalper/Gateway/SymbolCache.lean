import Scalper.Admin.SymbolMap
import Scalper.Gateway.Webhook
import Scalper.Lib.ReadThrough

/-!
# When an edit of the symbol map is seen

`SymbolMapCache` of `services/signal_gateway/app/symbol_map.py` in front of the table that the admin
endpoints edit.  Look-ups run concurrently: a lock makes each reading and each writing of the cache
one step, and the query in between is outside of it, so that several requests may query one symbol
at once and store in any order.

An edit is seen by every request that looks the symbol up later than the time to live and the
longest query after it, and by nothing less for certain (`edit_visible_iff`).  A request that nobody
else interferes with is what the handler of the webhook does (`resolve_eq_run`).
-/

set_option autoImplicit false

namespace Scalper.Gateway

open Scalper.Lib Scalper.Admin

/-- `fetch_symbol_mapping`. -/
def fetchSymbolMapping (table : SymbolMap) (inputSymbol : String) : Option String :=
  (table inputSymbol).map SymbolMapRow.canonicalSymbol

/-- `SymbolMapCache.resolve` of any number of requests, over the tables there are in time. -/
def SymbolMapCache.step {ι : Type*} [DecidableEq ι] (settings : Settings) (tables : ℚ → SymbolMap) :
    TimedStep ι String → ReadThrough ι String (Option String) →
      ReadThrough ι String (Option String) :=
  ReadThrough.step settings.symbolTtl fun time => fetchSymbolMapping (tables time)

section Requests

variable {ι : Type*} [DecidableEq ι]

/-- The steps of one request that comes to its answer. -/
def resolving (i : ι) (symbol : String) (moment : Moment) (queried : ℚ) :
    List (TimedStep ι String) :=
  [⟨.looks i symbol, moment.resolveClock⟩, ⟨.queries i, queried⟩, ⟨.stores i, moment.fetchClock⟩]

/-- Where no other request comes between and the query does not raise, these are the steps of the
look-up that the handler makes. -/
theorem resolve_eq_run (settings : Settings) (moment : Moment) (fetches : moment.fetches = true)
    (symbol : String) (i : ι) (queried : ℚ) (s : ReadThrough ι String (Option String))
    (idle : s.request i = .idle) :
    let after := run (ReadThrough.step settings.symbolTtl fun _ => moment.symbolMap) s
      (resolving i symbol moment queried)
    after.cache = (resolve settings moment symbol s.cache).2 ∧
      ∃ answer, (resolve settings moment symbol s.cache).1 = some answer ∧
        after.request i = .answered symbol moment.resolveClock answer := by
  simp only [resolving, run_cons, run_nil, ReadThrough.step, ReadThrough.moves, idle,
    Function.update_self]
  cases found : s.cache symbol with
  | none => simp [lookUp, resolve, found, fetches]
  | some entry =>
      obtain ⟨canonical, recorded⟩ := entry
      by_cases fresh : moment.resolveClock - recorded < settings.symbolTtl
      · simp [lookUp, resolve, found, fresh]
      · simp [lookUp, resolve, found, fresh, fetches]

/-- A table in which symbols are mapped so. -/
def tableOf (mapped : String → Option String) : SymbolMap := fun symbol =>
  (mapped symbol).map fun canonical => ⟨symbol, canonical, .custom, none, 0, 0⟩

theorem fetchSymbolMapping_tableOf (mapped : String → Option String) :
    fetchSymbolMapping (tableOf mapped) = mapped := by
  funext symbol
  cases found : mapped symbol <;> simp [fetchSymbolMapping, tableOf, found]

/-- A history of tables, which have a given entry of a symbol from some time on. -/
theorem exists_tables {symbol : String} {entry : Option SymbolMapRow} {since : ℚ}
    {mapped : ℚ → String → Option String} (settles : ∀ time, since ≤ time →
      mapped time symbol = entry.map SymbolMapRow.canonicalSymbol) :
    ∃ tables : ℚ → SymbolMap, (∀ time, since ≤ time → tables time symbol = entry) ∧
      (fun time => fetchSymbolMapping (tables time)) = mapped := by
  refine ⟨fun time => if since ≤ time then Function.update (tableOf (mapped time)) symbol entry
    else tableOf (mapped time), fun time late => ?_, funext fun time => ?_⟩
  · simp [late]
  · by_cases late : since ≤ time
    · funext other
      simp only [if_pos late]
      by_cases same : other = symbol
      · subst same
        rw [fetchSymbolMapping, Function.update_self, settles time late]
      · rw [fetchSymbolMapping, Function.update_of_ne same]
        exact congrFun (fetchSymbolMapping_tableOf (mapped time)) other
    · simp only [if_neg late, fetchSymbolMapping_tableOf]

/-- From what time an edit is seen.  The table has had this entry of a symbol since some time, and a
store comes at most so long after its query; then every request that looks the symbol up at a time
is answered with the entry, however the requests interleave, exactly if the time to live and the
longest query have passed. -/
theorem edit_visible_iff (settings : Settings) (lives : 0 < settings.symbolTtl) (i : ι)
    (symbol : String) (entry : Option SymbolMapRow) {latency : ℚ} (takes : 0 ≤ latency)
    {since asked : ℚ} :
    (∀ (tables : ℚ → SymbolMap) (clock : ℚ) (steps : List (TimedStep ι String))
        (answer : Option String),
      (∀ time, since ≤ time → tables time symbol = entry) →
      RunGuarded (ReadThrough.Timely latency) (SymbolMapCache.step settings tables)
        (ReadThrough.empty clock) steps →
      (run (SymbolMapCache.step settings tables) (ReadThrough.empty clock) steps).request i =
        .answered symbol asked answer → answer = entry.map SymbolMapRow.canonicalSymbol) ↔
      since + settings.symbolTtl + latency ≤ asked := by
  constructor
  · intro seen
    by_contra tooEarly
    obtain ⟨old, differ⟩ := exists_ne (entry.map SymbolMapRow.canonicalSymbol)
    obtain ⟨mapped, clock, steps, answer, settles, timely, answered, stale⟩ :=
      ReadThrough.exists_run_stale lives i symbol differ takes (not_le.mp tooEarly)
    obtain ⟨tables, stays, rfl⟩ := exists_tables settles
    exact stale (seen tables clock steps answer stays timely answered)
  · intro late tables clock steps answer stays timely answered
    refine ReadThrough.run_settled lives timely (fun time after => ?_) late answered
    exact congrArg _ (stays time after)

/-- With the settings as they come and a query of at most a second, a minute and a second. -/
theorem edit_visible_minute :
    (∀ (tables : ℚ → SymbolMap) (clock : ℚ) (steps : List (TimedStep ℕ String))
        (answer : Option String),
      (∀ time, 0 ≤ time → tables time "BTCUSDT.P" = none) →
      RunGuarded (ReadThrough.Timely 1) (SymbolMapCache.step { hmacSecret := "" } tables)
        (ReadThrough.empty clock) steps →
      (run (SymbolMapCache.step { hmacSecret := "" } tables) (ReadThrough.empty clock) steps).request
          7 = .answered "BTCUSDT.P" 61 answer → answer = none) ↔
      (0 + 60 + 1 : ℚ) ≤ 61 :=
  edit_visible_iff { hmacSecret := "" } (by decide +kernel) 7 "BTCUSDT.P" none (by decide +kernel)

end Requests

end Scalper.Gateway
