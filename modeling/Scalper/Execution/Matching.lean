import Mathlib.Data.List.Sort
import Scalper.Execution.Db
import Scalper.Lib.Dict

/-!
# Matching rows with positions

Start-up reconciliation and the stop-loss watchdog both set the `position_state` rows of a bot
beside what its adapter reports, symbol by symbol.  The rows are read once for all bots
(`Db.selectPositionStatesForBots`); each side is then a dictionary by symbol, in which a symbol
reported twice keeps its last position.
-/

set_option autoImplicit false

namespace Scalper.Execution

open Scalper.Lib Scalper.Exchange

/-- What an adapter call or a statement can raise. -/
inductive CallError where
  | exchange (error : ExchangeError)
  | other
  deriving DecidableEq, Repr

/-- A row of `position_state` with its key. -/
abbrev KeyedRow := PositionKey × PositionStateRow

/-- The order of the primary key. -/
def PositionKey.le (key later : PositionKey) : Prop :=
  key.1 < later.1 ∨ (key.1 = later.1 ∧ key.2 ≤ later.2)

instance : DecidableRel PositionKey.le := fun _ _ => inferInstanceAs (Decidable (_ ∨ _))

/-- `select_position_states_for_bots`. -/
def Db.selectPositionStatesForBots (db : Db) (botIds : List String) : List KeyedRow :=
  ((db.positions.entries.map fun entry => (entry.1, entry.2)).filter fun row =>
    decide (row.1.1 ∈ botIds)).insertionSort fun row later => row.1.le later.1

/-- The rows of a bot by symbol. -/
def dbRows (rows : List KeyedRow) (botId : String) : List KeyedRow :=
  dictBy (·.1.2) (rows.filter fun row => decide (row.1.1 = botId))

/-- `{p.symbol: p for p in positions if p.size > 0}`. -/
def exPositions (positions : List Position) : List Position :=
  dictBy (·.symbol) (positions.filter fun position => decide (0 < position.size))

/-- The open position of a symbol as the dictionary holds it. -/
def openPosition (positions : List Position) (symbol : String) : Option Position :=
  (positions.filter fun position => decide (0 < position.size)).reverse.find? (·.symbol = symbol)

section Rows

variable {db : Db} {botIds : List String}

theorem mem_selectPositionStatesForBots {row : KeyedRow} :
    row ∈ db.selectPositionStatesForBots botIds ↔
      row.1.1 ∈ botIds ∧ db.positions.lookup row.1 = some row.2 := by
  obtain ⟨key, ps⟩ := row
  have listed : (key, ps) ∈ db.positions.entries.map (fun entry => (entry.1, entry.2)) ↔
      db.positions.lookup key = some ps := by
    rw [← Option.mem_def, AList.mem_lookup_iff, List.mem_map]
    constructor
    · rintro ⟨⟨key', ps'⟩, member, same⟩
      cases same
      exact member
    · exact fun member => ⟨⟨key, ps⟩, member, rfl⟩
  rw [Db.selectPositionStatesForBots, List.mem_insertionSort, List.mem_filter, listed,
    decide_eq_true_iff, and_comm]

theorem nodup_keys_selectPositionStatesForBots :
    ((db.selectPositionStatesForBots botIds).map (·.1)).Nodup := by
  have keys : ((db.positions.entries.map fun entry => (entry.1, entry.2)).map
      fun row : KeyedRow => row.1).Nodup := by
    rw [List.map_map]
    exact db.positions.nodupKeys
  exact ((List.perm_insertionSort _ _).map _).nodup_iff.mpr (keys.sublist (List.filter_sublist.map _))

/-- The rows of a bot are those the table has for it. -/
theorem mem_dbRows {botId : String} {row : KeyedRow} :
    row ∈ dbRows (db.selectPositionStatesForBots botIds) botId ↔
      row.1.1 = botId ∧ botId ∈ botIds ∧ db.positions.lookup row.1 = some row.2 := by
  have distinct : (((db.selectPositionStatesForBots botIds).filter fun row =>
      decide (row.1.1 = botId)).map fun row : KeyedRow => row.1.2).Nodup := by
    refine List.Nodup.map_on ?_
      ((nodup_keys_selectPositionStatesForBots.sublist (List.filter_sublist.map _)).of_map _)
    intro row member later memberLater sameSymbol
    obtain ⟨listed, ofBot⟩ := List.mem_filter.mp member
    obtain ⟨listedLater, ofBotLater⟩ := List.mem_filter.mp memberLater
    have sameKey : row.1 = later.1 :=
      Prod.ext ((of_decide_eq_true ofBot).trans (of_decide_eq_true ofBotLater).symm) sameSymbol
    exact List.inj_on_of_nodup_map nodup_keys_selectPositionStatesForBots listed listedLater sameKey
  rw [dbRows, mem_dictBy_of_nodup _ distinct, List.mem_filter, mem_selectPositionStatesForBots,
    decide_eq_true_iff]
  constructor
  · rintro ⟨⟨known, held⟩, rfl⟩
    exact ⟨rfl, known, held⟩
  · rintro ⟨rfl, known, held⟩
    exact ⟨⟨known, held⟩, rfl⟩

theorem nodup_symbols_dbRows (rows : List KeyedRow) (botId : String) :
    ((dbRows rows botId).map fun row => row.1.2).Nodup :=
  nodup_keys_dictBy _ _

/-- `db_rows.get(symbol)`. -/
theorem find?_dbRows {botId symbol : String} (known : botId ∈ botIds) :
    (dbRows (db.selectPositionStatesForBots botIds) botId).find? (·.1.2 = symbol) =
      (db.positions.lookup (botId, symbol)).map fun ps => ((botId, symbol), ps) := by
  refine Option.ext fun row => ?_
  rw [find?_key_eq_some_iff (nodup_symbols_dbRows _ _), mem_dbRows, Option.map_eq_some_iff]
  constructor
  · rintro ⟨⟨rfl, -, held⟩, rfl⟩
    exact ⟨row.2, held, rfl⟩
  · rintro ⟨ps, held, rfl⟩
    exact ⟨⟨rfl, known, held⟩, rfl⟩

end Rows

section Positions

variable (positions : List Position)

theorem nodup_symbols_exPositions : ((exPositions positions).map (·.symbol)).Nodup :=
  nodup_keys_dictBy _ _

theorem find?_exPositions (symbol : String) :
    (exPositions positions).find? (·.symbol = symbol) = openPosition positions symbol :=
  find?_dictBy _ _ _

theorem mem_exPositions {positions : List Position} {position : Position} :
    position ∈ exPositions positions ↔
      openPosition positions position.symbol = some position :=
  mem_dictBy_iff _

theorem openPosition_symbol {positions : List Position} {symbol : String} {position : Position}
    (held : openPosition positions symbol = some position) : position.symbol = symbol := by
  simpa using List.find?_some held

/-- An open position has a size and a side. -/
theorem openPosition_size_pos {positions : List Position} {symbol : String} {position : Position}
    (held : openPosition positions symbol = some position) : 0 < position.size := by
  have listed := List.mem_reverse.mp (List.mem_of_find?_eq_some held)
  exact of_decide_eq_true (List.mem_filter.mp listed).2

end Positions

end Scalper.Execution
