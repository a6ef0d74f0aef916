import Scalper.Lib.Decimal

/-!
# Domain types of the exchange layer

The values every adapter exchanges with the services above it, and the scales of the
columns they are stored in.  `Decimal` is the exact rational; where a value crosses into
the database it is rounded to the scale of its column (`Columns`).
-/

set_option autoImplicit false

namespace Scalper.Exchange

open Scalper.Lib

/-- `Side` of an order. -/
inductive Side where
  | buy
  | sell
  deriving DecidableEq, Repr

/-- `opposite_side`. -/
def Side.opposite : Side → Side
  | .buy => .sell
  | .sell => .buy

/-- The sign of a position's profit in a price move. -/
def Side.sign : Side → ℚ
  | .buy => 1
  | .sell => -1

/-- `TpslMode`: the whole position or a part. -/
inductive TpslMode where
  | Full
  | Partial
  deriving DecidableEq, Repr

/-- What a stop protects. -/
inductive SlType where
  | protective
  | be
  | trail
  deriving DecidableEq, Repr

/-- A single fill as an adapter emits it.  Exchange ids are opaque keys. -/
structure ExecutionEvent (Id : Type) where
  exchangeExecId : Id
  exchangeOrderId : Id
  symbol : String
  side : Side
  price : ℚ
  qty : ℚ
  fee : ℚ
  executedAt : ℕ
  deriving DecidableEq, Repr

/-- A position as `get_positions` reports it: the size is absolute, the direction is the side, and
a flat symbol has none. -/
structure Position where
  symbol : String
  side : Option Side
  size : ℚ
  slPrice : Option ℚ
  size_nonneg : 0 ≤ size
  side_isSome_iff : side.isSome ↔ 0 < size
  deriving DecidableEq

/-- A position update as an adapter emits it. -/
structure PositionEvent where
  symbol : String
  side : Option Side
  size : ℚ
  entryPrice : Option ℚ
  occurredAt : ℕ
  deriving DecidableEq, Repr

/-- A one-minute candle: the bus payload and the replay row carry the same fields. -/
structure Candle where
  symbol : String
  bucketStart : ℕ
  openPrice : ℚ
  high : ℚ
  low : ℚ
  close : ℚ
  volume : ℚ
  isClosed : Bool
  deriving DecidableEq, Repr

/-- What an adapter call can raise. -/
inductive ExchangeError where
  | rateLimit
  | auth
  | orderRejected (reason : String)
  | networkTimeout
  | unknownState (lastKnownAction : String)
  /-- `ExchangeError` itself: an unmapped `retCode` or status, or a body that cannot be read. -/
  | exchangeError (message : String)
  /-- An error of another class, such as one of `httpx` or a `KeyError`. -/
  | other (raised : String)
  deriving DecidableEq, Repr

/-- What the numeric columns do to a value written to them. -/
structure Columns where
  qty : ℚ → ℚ
  price : ℚ → ℚ
  fee : ℚ → ℚ
  money : ℚ → ℚ

/-- The schema's scales: `NUMERIC(30,12)` quantities and prices, `NUMERIC(20,8)` fees of
an execution, `NUMERIC(20,4)` money on a trade. -/
def Columns.postgres : Columns where
  qty := numeric 12
  price := numeric 12
  fee := numeric 8
  money := numeric 4

/-- The exact reading: columns keep every value. -/
def Columns.exact : Columns where
  qty := id
  price := id
  fee := id
  money := id

end Scalper.Exchange
