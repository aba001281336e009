/-
Orders and orderbooks as the execution side sees them (domain/orders.ts, domain/market.ts). Quantities and prices stay
texts until a function parses them.
-/
import SeeMirai.Shared.Decimal

namespace SeeMirai

inductive OrderSide where
  | buy
  | sell
deriving DecidableEq, Repr

inductive OrderType where
  | limit
  | market
deriving DecidableEq, Repr

inductive TimeInForce where
  | gtc
  | ioc
  | fok
  | postOnly
deriving DecidableEq, Repr

inductive OrderLifecycleStatus where
  | created
  | validated
  | riskApproved
  | riskRejected
  | submitted
  | accepted
  | partiallyFilled
  | filled
  | cancelRequested
  | canceled
  | rejected
  | expired
  | failed
  | manualReviewRequired
deriving DecidableEq, Repr

/-- a timestamp as `parseMarketEventTimestampNanos` (domain/market-event.ts) sees it: epoch nanoseconds, or the error
it is refused with -/
inductive MarketTimestamp where
  | nanos (n : Int)
  | refused (error : Thrown)
deriving DecidableEq, Repr

def readTimestampNanos : MarketTimestamp → Except Thrown Int
  | .nanos n => pure n
  | .refused error => throw error

/-- what a LIMIT order has beyond a MARKET order -/
inductive OrderTerms where
  | limit (requestedPrice : String) (postOnly : Bool) (timeInForce : Option TimeInForce)
  | market
deriving DecidableEq, Repr

def OrderTerms.orderType : OrderTerms → OrderType
  | limit _ _ _ => .limit
  | market => .market

def OrderTerms.requestedPrice : OrderTerms → Option String
  | limit price _ _ => some price
  | market => none

structure OrderIntent where
  exchangeId : String
  market : String
  strategyId : String
  side : OrderSide
  requestedQuantity : String
  requestedNotional : String
  idempotencyKey : String
  terms : OrderTerms
deriving DecidableEq, Repr

structure OrderSubmission where
  intent : OrderIntent
  submittedAt : MarketTimestamp
deriving DecidableEq, Repr

structure OrderbookLevel where
  price : String
  size : String
deriving DecidableEq, Repr

structure OrderbookEvent where
  exchangeId : String
  market : String
  asks : List OrderbookLevel
  bids : List OrderbookLevel
  receivedAt : MarketTimestamp
deriving DecidableEq, Repr

end SeeMirai
