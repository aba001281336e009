/-
What the live reconcile compares (domain/live-reconcile.ts): orders as the exchange reports them, orders as the local
store has them, balances of both, private WebSocket events, and the evidence that comes out. With them the identity of
an order (application/live-reconcile/identity.ts): two snapshots are one order by identifier, by uuid, or, where both
have neither, by their immutable terms.

Left out: the texts shown to the operator, the JSON traces, and the fields of a snapshot that no policy reads.
-/
import SeeMirai.Shared.StateMachines

namespace SeeMirai.Reconcile

/-! ## Snapshots -/

/-- a `Date` or a timestamp text: the instant it denotes, `none` where it is not a date, and its text -/
structure Timestamp where
  ms : Option Int
  text : String
deriving DecidableEq, Repr

/-- a JavaScript number, as far as it is read: whether it is positive, and how it prints -/
structure PrintedNumber where
  isPositive : Bool
  text : String
deriving DecidableEq, Repr

inductive SnapshotSource where
  | open
  | closed
  | lookup
  | ws
deriving DecidableEq, Repr

def SnapshotSource.text : SnapshotSource → String
  | .open => "open"
  | .closed => "closed"
  | .lookup => "lookup"
  | .ws => "ws"

structure ReconcileExchangeOrderSnapshot where
  exchangeOrderId : Option String
  identifier : Option String
  market : String
  side : OrderSide
  exchangeStatus : String
  requestedQuantity : String
  remainingQuantity : Option String
  requestedPrice : Option String
  source : SnapshotSource
  capturedAt : Timestamp
deriving DecidableEq, Repr

structure ReconcileLocalOrderSnapshot where
  orderId : String
  exchangeOrderId : Option String
  identifier : Option String
  market : String
  side : OrderSide
  status : OrderLifecycleStatus
  requestedQuantity : String
  remainingQuantity : String
  requestedPrice : Option String
  reservedFee : Option String
  remainingFee : Option String
  createdAt : Option Timestamp
deriving DecidableEq, Repr

structure BrokerBalance where
  currency : String
  available : String
  locked : String
  total : String
deriving DecidableEq, Repr

inductive ReconcileWebSocketEventType where
  | myOrder
  | myAsset
deriving DecidableEq, Repr

/-- a field of a WebSocket payload; a number is finite and given as it prints -/
inductive PayloadField where
  | text (s : String)
  | number (printed : String)
  | other
deriving DecidableEq, Repr

structure ReconcileWebSocketEvent where
  type : ReconcileWebSocketEventType
  occurredAt : Timestamp
  payload : List (String × PayloadField)
deriving DecidableEq, Repr

structure ReconcileDisconnectEvidence where
  disconnectedAt : Option Timestamp
  reconnectedAt : Option Timestamp
  gapDurationMs : Option PrintedNumber
  reconnectCount : Option PrintedNumber
deriving DecidableEq, Repr

structure ReconcileWebSocketContext where
  bootstrapCompleteAt : Option Timestamp
  events : List ReconcileWebSocketEvent
  disconnectEvidence : Option ReconcileDisconnectEvidence
deriving DecidableEq, Repr

structure ReconcileClosedOrderWindow where
  windowStart : Timestamp
  windowEnd : Timestamp
  windowExhausted : Bool
deriving DecidableEq, Repr

structure ReconcileEngineInput where
  exchangeOpenOrders : List ReconcileExchangeOrderSnapshot
  exchangeClosedOrders : List ReconcileExchangeOrderSnapshot
  orderLookups : List ReconcileExchangeOrderSnapshot
  websocketContext : ReconcileWebSocketContext
  localOpenOrders : List ReconcileLocalOrderSnapshot
  localBalances : Option (List BrokerBalance)
  exchangeBalances : Option (List BrokerBalance)
  closedOrderWindow : ReconcileClosedOrderWindow
  /-- already an ISO text, as `normalizeObservedAt` makes it -/
  observedAt : String
deriving DecidableEq, Repr

/-! ## Evidence -/

inductive ReconcileMismatchType where
  | untrackedExchangeOpenOrder
  | localOpenOrderMissingOnExchange
  | partialFillMismatch
  | cancelFailureRetryNeeded
  | exchangeCancelStateMismatch
  | orderStateAdvancementBlocked
  | orderIdentityConflict
  | balanceLockMismatch
  | balanceSnapshotUnavailable
  | closedOrderWindowExceeded
  | websocketGapManualReview
deriving DecidableEq, Repr

inductive ReconcileSeverity where
  | info
  | warn
  | error
  | critical
deriving DecidableEq, Repr

structure ReconcileMismatchEvidence where
  mismatchType : ReconcileMismatchType
  severity : ReconcileSeverity
  market : Option String
  orderIdentity : Option String
  currency : Option String
  evidenceFingerprint : String
  occurredAt : String
deriving DecidableEq, Repr

inductive ReconcileStateAdvancementType where
  | fillCandidate
  | partiallyFilledCandidate
  | cancelCandidate
deriving DecidableEq, Repr

structure ReconcileStateAdvancementCandidate where
  localOrderId : String
  exchangeOrderIdentity : String
  exchangeStatus : String
  currentLocalStatus : OrderLifecycleStatus
  targetLocalStatus : OrderLifecycleStatus
  advancementType : ReconcileStateAdvancementType
  reasonCode : String
deriving DecidableEq, Repr

inductive ReconcileBalanceStatus where
  | ok
  | lockMismatch
  | notAvailable
deriving DecidableEq, Repr

inductive ReconcileResult where
  | clean
  | mismatchDetected
deriving DecidableEq, Repr

structure ReconcileSummary where
  result : ReconcileResult
  mismatchCount : ℕ
  openOrderCountExchange : ℕ
  openOrderCountLocal : ℕ
  balanceStatus : ReconcileBalanceStatus
  untrackedExchangeOrders : ℕ
  missingLocalOrders : ℕ
  cancelFailures : ℕ
  windowExceededOrders : ℕ
deriving DecidableEq, Repr

structure ReconcileEngineOutput where
  summary : ReconcileSummary
  mismatches : List ReconcileMismatchEvidence
  stateAdvancements : List ReconcileStateAdvancementCandidate
  failClosed : Bool
  targetKillSwitchState : Option KillSwitchState
deriving DecidableEq, Repr

/-! ## Identity -/

inductive IdentityMatchType where
  | identifier
  | uuid
  | fingerprint
deriving DecidableEq, Repr

structure IdentityMatchSuccess where
  matchType : IdentityMatchType
  identity : String
deriving DecidableEq, Repr

/-- why two snapshots are not one order, with the exchange's text first -/
inductive IdentityMatchFailure where
  | identifierMismatchAfterUuidMatch (exchange loc : String)
  | identifierMismatch (exchange loc : String)
  | uuidMismatchAfterIdentifierMatch (exchange loc : String)
  | uuidMismatch (exchange loc : String)
  | identifierPresentOnlyOnOneSide
  | uuidPresentOnlyOnOneSide
  | immutableFingerprintMismatch (exchange loc : String)
  | fingerprintMismatch (exchange loc : String)
deriving DecidableEq, Repr

def IdentityMatchFailure.reason : IdentityMatchFailure → String
  | identifierMismatchAfterUuidMatch exchange loc => sides "identifier_mismatch_after_uuid_match" exchange loc
  | identifierMismatch exchange loc => sides "identifier_mismatch" exchange loc
  | uuidMismatchAfterIdentifierMatch exchange loc => sides "uuid_mismatch_after_identifier_match" exchange loc
  | uuidMismatch exchange loc => sides "uuid_mismatch" exchange loc
  | identifierPresentOnlyOnOneSide => "identifier_present_only_on_one_side"
  | uuidPresentOnlyOnOneSide => "uuid_present_only_on_one_side"
  | immutableFingerprintMismatch exchange loc => sides "immutable_fingerprint_mismatch" exchange loc
  | fingerprintMismatch exchange loc => sides "fingerprint_mismatch" exchange loc
where
  sides (kind exchange loc : String) : String := kind ++ ": exchange=\"" ++ exchange ++ "\" vs local=\"" ++ loc ++ "\""

/-- the failures that speak of one order seen twice with different terms -/
def isIdentityConflictReason : IdentityMatchFailure → Bool
  | .identifierMismatchAfterUuidMatch _ _ => true
  | .uuidMismatchAfterIdentifierMatch _ _ => true
  | .immutableFingerprintMismatch _ _ => true
  | _ => false

inductive IdentityMatchResult where
  | matched (success : IdentityMatchSuccess)
  | failed (failure : IdentityMatchFailure)
deriving DecidableEq, Repr

def sideText : OrderSide → String
  | .buy => "BUY"
  | .sell => "SELL"

section Host

variable [Host]

def normalizeFingerprintDecimal (value : String) : Except Thrown String := Host.toText <$> parseFinancialDecimal value

def buildOrderFingerprint (market : String) (side : OrderSide) (quantity : String) (price : Option String) :
    Except Thrown String := do
  let quantityText ← normalizeFingerprintDecimal quantity
  let priceText ← (price.map normalizeFingerprintDecimal).getD (pure "")
  pure ("|".intercalate [market, sideText side, quantityText, priceText])

/-- `none` where the immutable terms agree; a price that one side has not observed is no disagreement -/
def compareImmutableFingerprint (exchange : ReconcileExchangeOrderSnapshot) (loc : ReconcileLocalOrderSnapshot) :
    Except Thrown (Option IdentityMatchFailure) := do
  let exchangeFp ←
    buildOrderFingerprint exchange.market exchange.side exchange.requestedQuantity exchange.requestedPrice
  let localFp ← buildOrderFingerprint loc.market loc.side loc.requestedQuantity loc.requestedPrice
  if exchangeFp = localFp then pure none
  else if exchange.requestedPrice = none ∨ loc.requestedPrice = none then do
    let exchangeObservedFp ← buildOrderFingerprint exchange.market exchange.side exchange.requestedQuantity none
    let localObservedFp ← buildOrderFingerprint loc.market loc.side loc.requestedQuantity none
    pure (if exchangeObservedFp = localObservedFp then none else some (.immutableFingerprintMismatch exchangeFp localFp))
  else pure (some (.immutableFingerprintMismatch exchangeFp localFp))

def matchByFingerprint (exchange : ReconcileExchangeOrderSnapshot) (loc : ReconcileLocalOrderSnapshot) :
    Except Thrown IdentityMatchResult := do
  let exchangeFp ←
    buildOrderFingerprint exchange.market exchange.side exchange.requestedQuantity exchange.requestedPrice
  let localFp ← buildOrderFingerprint loc.market loc.side loc.requestedQuantity loc.requestedPrice
  pure (if exchangeFp = localFp then .matched ⟨.fingerprint, "fp:" ++ exchangeFp⟩
    else .failed (.fingerprintMismatch exchangeFp localFp))

/-- one order by its strong id, provided the immutable terms agree -/
def matchStrong (matchType : IdentityMatchType) (identity : String) (exchange : ReconcileExchangeOrderSnapshot)
    (loc : ReconcileLocalOrderSnapshot) : Except Thrown IdentityMatchResult := do
  let failure ← compareImmutableFingerprint exchange loc
  pure (match failure with
    | some failure => .failed failure
    | none => .matched ⟨matchType, identity⟩)

def matchOrderIdentity (exchange : ReconcileExchangeOrderSnapshot) (loc : ReconcileLocalOrderSnapshot) :
    Except Thrown IdentityMatchResult :=
  match exchange.identifier, loc.identifier with
  | some exchangeIdentifier, some localIdentifier =>
    if exchangeIdentifier ≠ localIdentifier then
      match exchange.exchangeOrderId, loc.exchangeOrderId with
      | some exchangeId, some localId =>
        pure (.failed (if exchangeId = localId then .identifierMismatchAfterUuidMatch exchangeIdentifier localIdentifier
          else .identifierMismatch exchangeIdentifier localIdentifier))
      | _, _ => pure (.failed (.identifierMismatch exchangeIdentifier localIdentifier))
    else
      match exchange.exchangeOrderId, loc.exchangeOrderId with
      | some exchangeId, some localId =>
        if exchangeId ≠ localId then pure (.failed (.uuidMismatchAfterIdentifierMatch exchangeId localId))
        else matchStrong .identifier ("id:" ++ exchangeIdentifier) exchange loc
      | _, _ => matchStrong .identifier ("id:" ++ exchangeIdentifier) exchange loc
  | exchangeIdentifier, localIdentifier =>
    match exchange.exchangeOrderId, loc.exchangeOrderId with
    | some exchangeId, some localId =>
      if exchangeId ≠ localId then pure (.failed (.uuidMismatch exchangeId localId))
      else matchStrong .uuid ("uuid:" ++ exchangeId) exchange loc
    | exchangeId, localId =>
      if exchangeIdentifier ≠ none ∨ localIdentifier ≠ none then pure (.failed .identifierPresentOnlyOnOneSide)
      else if exchangeId ≠ none ∨ localId ≠ none then pure (.failed .uuidPresentOnlyOnOneSide)
      else matchByFingerprint exchange loc

def describeExchangeOrderIdentity (order : ReconcileExchangeOrderSnapshot) : Except Thrown String :=
  match order.identifier, order.exchangeOrderId with
  | some identifier, _ => pure ("identifier:" ++ identifier)
  | none, some exchangeOrderId => pure ("uuid:" ++ exchangeOrderId)
  | none, none => do
    let fingerprint ← buildOrderFingerprint order.market order.side order.requestedQuantity order.requestedPrice
    pure ("fingerprint:" ++ fingerprint)

end Host

end SeeMirai.Reconcile
