/-
The reconcile engine (application/live-reconcile/engine.ts, balance-policy.ts): a pure function from the snapshots of
both sides to mismatch evidence, state advancement candidates and the fail-closed decision.

Snapshots are tried newest first; a snapshot whose capture time is not a date compares equal to every other, as the
comparator's `NaN` does. Amounts of expected locks are rationals, `none` for a non-finite decimal.

Results:
- `runReconcileEngine_decision`: the decision an engine run reports is the one its mismatches make.
-/
import SeeMirai.Reconcile.OrderPolicy
import SeeMirai.Lib.InsertionMap
import SeeMirai.Lib.StableSort

namespace SeeMirai.Reconcile

/-! ## Balances -/

structure BalanceCheckResult where
  mismatches : List ReconcileMismatchEvidence
  status : ReconcileBalanceStatus
deriving DecidableEq

def createBalanceLockMismatch (currency field observedAt : String) : ReconcileMismatchEvidence where
  mismatchType := .balanceLockMismatch
  severity := .error
  market := none
  orderIdentity := none
  currency := some currency
  evidenceFingerprint := ":".intercalate ["balance-lock", currency, field, observedAt]
  occurredAt := observedAt

def createBalanceSnapshotUnavailableMismatch (source observedAt : String) : ReconcileMismatchEvidence where
  mismatchType := .balanceSnapshotUnavailable
  severity := .error
  market := none
  orderIdentity := none
  currency := none
  evidenceFingerprint := ":".intercalate ["balance-snapshot-unavailable", source, observedAt]
  occurredAt := observedAt

/-- the last part of a market code -/
def extractCryptoCurrency (market : String) : String :=
  String.ofList ((market.toList.reverse.takeWhile (· ≠ '-')).reverse)

def indexByCurrency (balances : List BrokerBalance) : InsertionMap String BrokerBalance :=
  balances.foldl (fun index balance => index.set balance.currency balance) InsertionMap.empty

/-- the keys of two maps, each once, the first map's first -/
def unionKeys {α β : Type} (left : InsertionMap String α) (right : InsertionMap String β) : List String :=
  left.keys ++ right.keys.filter (· ∉ left.keys)

structure ExpectedLocked where
  lockedByCurrency : InsertionMap String (Option ℚ)
  priceMissingBuyOrders : List ReconcileLocalOrderSnapshot

def isUnlockedStatus (status : OrderLifecycleStatus) : Bool := status ∈ [.canceled, .rejected, .expired, .failed]

section Host

variable [Host]

/-- a text handed to a decimal.js operation: `none` where it denotes no finite number -/
def decimalOperand (s : String) : Except Thrown (Option ℚ) :=
  match Host.decimal s with
  | .invalid => throw (Thrown.decimalError s)
  | .nonFinite => pure none
  | .finite d => pure (some d.value)

/-- `parseFinancialDecimal` of the text of an amount -/
def parseAmount : Option ℚ → Except Thrown ℚ
  | none => throw Thrown.nonFiniteFinancialDecimal
  | some q => pure q

/-- `parseFinancialDecimal(left).eq(right)` on texts -/
def decimalTextsEqual (left right : String) : Except Thrown Bool := do
  let leftValue ← parseFinancialDecimal left
  let rightValue ← decimalOperand right
  pure (rightValue = some leftValue)

def getBuyOrderRemainingFee (order : ReconcileLocalOrderSnapshot) : Except Thrown String :=
  match order.remainingFee, order.reservedFee with
  | some remainingFee, _ => pure remainingFee
  | none, none => pure "0"
  | none, some reservedFee => do
    let untouched ← decimalTextsEqual order.remainingQuantity order.requestedQuantity
    pure (if untouched then reservedFee else "0")

/-- quantity times price plus the fee that is still reserved -/
def buyOrderLock (order : ReconcileLocalOrderSnapshot) (requestedPrice : String) : Except Thrown (Option ℚ) := do
  let remainingFee ← getBuyOrderRemainingFee order
  let quantity ← parseFinancialDecimal order.remainingQuantity
  let price ← decimalOperand requestedPrice
  let fee ← decimalOperand remainingFee
  pure (do
    let price ← price
    let fee ← fee
    pure (quantity * price + fee))

def addExpectedLock (locked : InsertionMap String (Option ℚ)) (currency : String) (amount : Option ℚ) :
    Except Thrown (InsertionMap String (Option ℚ)) := do
  let currentLocked ← parseAmount ((locked.get currency).getD (some 0))
  pure (locked.set currency (amount.map (currentLocked + ·)))

def expectOrderLock (expected : ExpectedLocked) (order : ReconcileLocalOrderSnapshot) : Except Thrown ExpectedLocked :=
  if isUnlockedStatus order.status then pure expected
  else
    match order.side, order.requestedPrice with
    | .buy, none =>
      pure
        { lockedByCurrency :=
            if (expected.lockedByCurrency.get "KRW").isSome then expected.lockedByCurrency
            else expected.lockedByCurrency.set "KRW" (some 0)
          priceMissingBuyOrders := expected.priceMissingBuyOrders ++ [order] }
    | .buy, some requestedPrice => do
      let orderedLocked ← buyOrderLock order requestedPrice
      let locked ← addExpectedLock expected.lockedByCurrency "KRW" orderedLocked
      pure { expected with lockedByCurrency := locked }
    | .sell, _ => do
      let currency := extractCryptoCurrency order.market
      let currentLocked ← parseAmount ((expected.lockedByCurrency.get currency).getD (some 0))
      let quantity ← decimalOperand order.remainingQuantity
      pure { expected with lockedByCurrency := expected.lockedByCurrency.set currency (quantity.map (currentLocked + ·)) }

def computeExpectedLocked (orders : List ReconcileLocalOrderSnapshot) : Except Thrown ExpectedLocked :=
  orders.foldlM expectOrderLock ⟨InsertionMap.empty, []⟩

def appendBalanceFieldMismatch (currency field localValue exchangeValue observedAt : String) :
    Except Thrown (List ReconcileMismatchEvidence) := do
  let equal ← decimalTextsEqual localValue exchangeValue
  pure (if equal then [] else [createBalanceLockMismatch currency field observedAt])

def balanceSnapshotMismatches (localByCurrency exchangeByCurrency : InsertionMap String BrokerBalance)
    (observedAt currency : String) : Except Thrown (List ReconcileMismatchEvidence) :=
  match localByCurrency.get currency, exchangeByCurrency.get currency with
  | none, some _ => pure [createBalanceLockMismatch currency "local_snapshot_missing" observedAt]
  | some _, none => pure [createBalanceLockMismatch currency "exchange_snapshot_missing" observedAt]
  | none, none => pure []
  | some loc, some exchange => do
    let available ← appendBalanceFieldMismatch currency "available" loc.available exchange.available observedAt
    let locked ← appendBalanceFieldMismatch currency "locked" loc.locked exchange.locked observedAt
    let total ← appendBalanceFieldMismatch currency "total" loc.total exchange.total observedAt
    pure (available ++ locked ++ total)

def expectedLockMismatches (lockedByCurrency : InsertionMap String (Option ℚ))
    (exchangeByCurrency : InsertionMap String BrokerBalance) (observedAt currency : String) :
    Except Thrown (List ReconcileMismatchEvidence) := do
  let expected ← parseAmount ((lockedByCurrency.get currency).getD (some 0))
  let exchangeLocked ← decimalOperand (((exchangeByCurrency.get currency).map BrokerBalance.locked).getD "0")
  pure (if exchangeLocked = some expected then [] else [createBalanceLockMismatch currency "expected_locked" observedAt])

def checkBalanceLock (localOpenOrders : List ReconcileLocalOrderSnapshot) (localBalances : Option (List BrokerBalance))
    (exchangeBalances : Option (List BrokerBalance)) (observedAt : String) : Except Thrown BalanceCheckResult :=
  let localRows := localBalances.getD []
  let exchangeRows := exchangeBalances.getD []
  let unavailable (source : String) : BalanceCheckResult :=
    ⟨[createBalanceSnapshotUnavailableMismatch source observedAt], .notAvailable⟩
  if localRows = [] ∧ exchangeRows = [] then pure (unavailable "BOTH")
  else if localRows = [] then pure (unavailable "LOCAL")
  else if exchangeRows = [] then pure (unavailable "EXCHANGE")
  else do
    let localByCurrency := indexByCurrency localRows
    let exchangeByCurrency := indexByCurrency exchangeRows
    let expectedLocked ← computeExpectedLocked localOpenOrders
    let snapshotMismatches ← (unionKeys localByCurrency exchangeByCurrency).mapM
      (balanceSnapshotMismatches localByCurrency exchangeByCurrency observedAt)
    let priceMissing := expectedLocked.priceMissingBuyOrders.map (fun order =>
      createBalanceLockMismatch "KRW" ("buy_price_missing:" ++ order.orderId) observedAt)
    let lockMismatches ← (unionKeys expectedLocked.lockedByCurrency exchangeByCurrency).mapM
      (expectedLockMismatches expectedLocked.lockedByCurrency exchangeByCurrency observedAt)
    let mismatches := snapshotMismatches.flatten ++ priceMissing ++ lockMismatches.flatten
    pure ⟨mismatches, if mismatches = [] then .ok else .lockMismatch⟩

/-! ## WebSocket snapshots -/

/-- the first of the named fields that holds a text or a finite number -/
def readStringField (payload : List (String × PayloadField)) (fieldNames : List String) : Option String :=
  fieldNames.findSome? (fun fieldName =>
    match payload.lookup fieldName with
    | some (.text s) => if s = "" then none else some s
    | some (.number printed) => some printed
    | _ => none)

def normalizeWebSocketOrderSide (side : Option String) : Option OrderSide :=
  match side.map Host.toUpperCase with
  | some "BUY" => some .buy
  | some "BID" => some .buy
  | some "SELL" => some .sell
  | some "ASK" => some .sell
  | _ => none

def remainingQuantityFields : List String :=
  ["remainingQuantity", "remaining_quantity", "remainingVolume", "remaining_volume", "rv"]

def isPositiveFinancialDecimalString (value : String) : Bool :=
  match Host.valueOf value with
  | some q => 0 < q
  | none => false

def normalizeWebSocketExchangeStatus (rawExchangeStatus remainingQuantity : Option String) : Option String :=
  if rawExchangeStatus ≠ some "trade" then rawExchangeStatus
  else if (remainingQuantity.map isPositiveFinancialDecimalString).getD false then some "wait"
  else some "done"

/-- remaining plus executed, where both are there and parse -/
def reconstructTradeOrderQuantity (payload : List (String × PayloadField)) : Option String := do
  let remaining ← readStringField payload remainingQuantityFields
  let executed ← readStringField payload
    ["executedQuantity", "executed_quantity", "executedVolume", "executed_volume", "ev"]
  let remainingValue ← Host.valueOf remaining
  let executedValue ← Host.valueOf executed
  pure (Host.toFixed (remainingValue + executedValue))

def readWebSocketRequestedQuantity (payload : List (String × PayloadField)) (rawExchangeStatus : Option String) :
    Option String :=
  match readStringField payload ["requestedQuantity", "requested_quantity", "orderQuantity", "order_quantity"] with
  | some normalizedQuantity => some normalizedQuantity
  | none =>
    if rawExchangeStatus = some "trade" ∧ readStringField payload ["type"] ≠ some "MY_ORDER" then
      reconstructTradeOrderQuantity payload
    else readStringField payload ["volume", "v"]

/-- the price of a trade event is a fill price, not the order's -/
def readWebSocketRequestedPrice (payload : List (String × PayloadField)) (rawExchangeStatus : Option String) :
    Option String :=
  match readStringField payload ["requestedPrice", "requested_price", "orderPrice", "order_price"] with
  | some normalizedOrderPrice => some normalizedOrderPrice
  | none => if rawExchangeStatus = some "trade" then none else readStringField payload ["price", "p"]

def toWebSocketOrderSnapshot (event : ReconcileWebSocketEvent) : Option ReconcileExchangeOrderSnapshot :=
  if event.type ≠ .myOrder then none
  else do
    let payload := event.payload
    let rawExchangeStatus := readStringField payload ["exchangeStatus", "exchange_status", "state", "s"]
    let remainingQuantity := readStringField payload remainingQuantityFields
    let market ← readStringField payload ["market", "code", "cd"]
    let side ← normalizeWebSocketOrderSide (readStringField payload ["side", "ask_bid", "ab"])
    let exchangeStatus ← normalizeWebSocketExchangeStatus rawExchangeStatus remainingQuantity
    let requestedQuantity ← readWebSocketRequestedQuantity payload rawExchangeStatus
    pure
      { exchangeOrderId := readStringField payload
          ["exchangeOrderId", "exchange_order_id", "orderId", "order_id", "uuid", "uid"]
        identifier := readStringField payload ["identifier"]
        market := market
        side := side
        exchangeStatus := exchangeStatus
        requestedQuantity := requestedQuantity
        remainingQuantity := remainingQuantity
        requestedPrice := readWebSocketRequestedPrice payload rawExchangeStatus
        source := .ws
        capturedAt := event.occurredAt }

omit [Host] in
/-- events without a REST baseline, or across a gap, prove no order -/
def canUseWebSocketOrderSnapshots (websocketContext : ReconcileWebSocketContext) : Bool :=
  websocketContext.bootstrapCompleteAt ≠ none ∧
    (websocketContext.disconnectEvidence.map hasWebSocketLivenessGapEvidence).getD false = false

def buildWebSocketOrderSnapshots (websocketContext : ReconcileWebSocketContext) : List ReconcileExchangeOrderSnapshot :=
  if canUseWebSocketOrderSnapshots websocketContext then websocketContext.events.filterMap toWebSocketOrderSnapshot
  else []

end Host

/-! ## Priority and summary -/

def getExchangeSnapshotSourceRank (order : ReconcileExchangeOrderSnapshot) : ℕ :=
  match order.source with
  | .lookup => 0
  | .closed => 1
  | .open => 2
  | .ws => 3

/-- newest first, then by source -/
def comparePriority (left right : ReconcileExchangeOrderSnapshot) : Ordering :=
  match left.capturedAt.ms, right.capturedAt.ms with
  | some leftMs, some rightMs =>
    if leftMs ≠ rightMs then compare rightMs leftMs
    else compare (getExchangeSnapshotSourceRank left) (getExchangeSnapshotSourceRank right)
  | _, _ => .eq

def prioritizeExchangeOrderSnapshots (exchangeOrders : List ReconcileExchangeOrderSnapshot) :
    List ReconcileExchangeOrderSnapshot :=
  stableSort comparePriority exchangeOrders

def isSummaryExchangeTerminalOrder (exchangeOrder : ReconcileExchangeOrderSnapshot) : Bool :=
  exchangeOrder.exchangeStatus = "done" ∨ exchangeOrder.exchangeStatus = "cancel"

def getSummaryExchangeOpenOrderIdentity (exchangeOrder : ReconcileExchangeOrderSnapshot) : Option String :=
  (strongIdentityKeys exchangeOrder.exchangeOrderId exchangeOrder.identifier).head?

def addSummaryExchangeIdentityWithLocalBridge (exchangeOrder : ReconcileExchangeOrderSnapshot)
    (localOpenOrders : List ReconcileLocalOrderSnapshot) (seen : List String) : List String :=
  seen ++ (getSummaryExchangeOpenOrderIdentity exchangeOrder).toList ++
    (localOpenOrders.filter (hasSharedStrongIdentity exchangeOrder)).flatMap getStrongLocalIdentityKeys

/-- one snapshot of `countSummaryExchangeOpenOrders`: the count and the strong ids seen so far -/
def countSummaryExchangeOrder (localOpenOrders : List ReconcileLocalOrderSnapshot) (acc : ℕ × List String)
    (exchangeOrder : ReconcileExchangeOrderSnapshot) : ℕ × List String :=
  let (count, seen) := acc
  if isSummaryExchangeTerminalOrder exchangeOrder then
    (count, addSummaryExchangeIdentityWithLocalBridge exchangeOrder localOpenOrders seen)
  else if isUntrackedExchangeOpenCandidate exchangeOrder = false then (count, seen)
  else
    match getSummaryExchangeOpenOrderIdentity exchangeOrder with
    | none => (count + 1, seen)
    | some strongIdentity =>
      if strongIdentity ∈ seen then (count, seen)
      else (count + 1, addSummaryExchangeIdentityWithLocalBridge exchangeOrder localOpenOrders seen)

def countSummaryExchangeOpenOrders (exchangeOrders : List ReconcileExchangeOrderSnapshot)
    (localOpenOrders : List ReconcileLocalOrderSnapshot) : ℕ :=
  (exchangeOrders.foldl (countSummaryExchangeOrder localOpenOrders) (0, [])).1

def countMismatches (mismatches : List ReconcileMismatchEvidence) (mismatchType : ReconcileMismatchType) : ℕ :=
  (mismatches.filter (fun mismatch => mismatch.mismatchType = mismatchType)).length

def buildSummary (mismatches : List ReconcileMismatchEvidence) (exchangeOpenOrderCount : ℕ)
    (localOpenOrders : List ReconcileLocalOrderSnapshot) (balanceStatus : ReconcileBalanceStatus) : ReconcileSummary where
  result := if mismatches = [] then .clean else .mismatchDetected
  mismatchCount := mismatches.length
  openOrderCountExchange := exchangeOpenOrderCount
  openOrderCountLocal := localOpenOrders.length
  balanceStatus := balanceStatus
  untrackedExchangeOrders := countMismatches mismatches .untrackedExchangeOpenOrder
  missingLocalOrders := countMismatches mismatches .localOpenOrderMissingOnExchange
  cancelFailures := countMismatches mismatches .cancelFailureRetryNeeded
  windowExceededOrders := countMismatches mismatches .closedOrderWindowExceeded

/-! ## Fail closed -/

def requiresManualReview : ReconcileMismatchType → Bool
  | .cancelFailureRetryNeeded => true
  | .exchangeCancelStateMismatch => true
  | .orderStateAdvancementBlocked => true
  | .orderIdentityConflict => true
  | .websocketGapManualReview => true
  | .balanceLockMismatch => true
  | .balanceSnapshotUnavailable => true
  | .closedOrderWindowExceeded => true
  | .untrackedExchangeOpenOrder => false
  | .localOpenOrderMissingOnExchange => false
  | .partialFillMismatch => false

/-- any mismatch blocks new orders, one that needs a person asks for a manual review -/
def determineFailClosed (mismatches : List ReconcileMismatchEvidence) : Option KillSwitchState :=
  if mismatches = [] then none
  else if mismatches.any (fun mismatch => requiresManualReview mismatch.mismatchType) then some .manualReviewRequired
  else some .newOrdersBlocked

variable [Host]

/-- the local orders that some exchange snapshot stands for -/
def exchangeVerifiedLocalOrderIds (orderResults : List OrderPairReconcileResult) : List String :=
  orderResults.filterMap (fun result => if result.identityMatch.isSome then result.localOrderId else none)

def runReconcileEngine (input : ReconcileEngineInput) : Except Thrown ReconcileEngineOutput := do
  let allExchangeOrders := prioritizeExchangeOrderSnapshots (input.exchangeOpenOrders ++ input.exchangeClosedOrders ++
    input.orderLookups ++ buildWebSocketOrderSnapshots input.websocketContext)
  let orderResults ← reconcileOrders allExchangeOrders input.localOpenOrders input.observedAt
  let windowMismatches := checkClosedOrderWindow input.localOpenOrders input.closedOrderWindow input.observedAt
    (exchangeVerifiedLocalOrderIds orderResults)
  let balanceResult ← checkBalanceLock input.localOpenOrders input.localBalances input.exchangeBalances input.observedAt
  let allMismatches := orderResults.flatMap OrderPairReconcileResult.mismatches ++ windowMismatches ++
    checkWebSocketGap input.websocketContext input.observedAt ++ balanceResult.mismatches
  pure
    { summary := buildSummary allMismatches (countSummaryExchangeOpenOrders allExchangeOrders input.localOpenOrders)
        input.localOpenOrders balanceResult.status
      mismatches := allMismatches
      stateAdvancements := orderResults.filterMap OrderPairReconcileResult.stateAdvancement
      failClosed := (determineFailClosed allMismatches).isSome
      targetKillSwitchState := determineFailClosed allMismatches }

theorem runReconcileEngine_decision {input : ReconcileEngineInput} {output : ReconcileEngineOutput}
    (h : runReconcileEngine input = .ok output) :
    output.targetKillSwitchState = determineFailClosed output.mismatches ∧
      output.failClosed = (determineFailClosed output.mismatches).isSome := by
  obtain ⟨orderResults, -, h⟩ := Fallible.bind_eq_ok.1 h
  obtain ⟨balanceResult, -, h⟩ := Fallible.bind_eq_ok.1 h
  obtain rfl := Fallible.pure_eq_ok.1 h
  exact ⟨rfl, rfl⟩

end SeeMirai.Reconcile
