/-
The paper broker (infrastructure/paper/paper-broker.ts): an in-memory exchange account. A submitted order is filled
against recorded orderbook snapshots, what it costs is booked on the balances, and what stays open is locked until the
order is canceled. `submitOrder` and `cancelOrder` have no await inside, so a call is one step.

A call that throws still leaves a state behind (a used order number, a snapshot that was pushed), so a call returns the
state and the outcome side by side. The clock's reading is an argument. The order number is unbounded, and a
fingerprint is kept as its fields rather than as their JSON text.

Results:
- `applyBalanceDelta_lockedOf` / `applyBalanceDelta_availableOf`: one booking moves one currency by its delta.
- `createBrokerOrderId_inj`: order numbers give distinct order ids.
-/
import SeeMirai.Paper.FillSimulator
import SeeMirai.Lib.InsertionMap

namespace SeeMirai.Paper

open Fallible

/-! ## Data -/

/-- the fill options a broker is built with: all but the submission time -/
structure PaperBrokerFillOptions where
  latencyMs : Option LatencyMs
  postOnlyTakerPolicy : Option PaperFillPostOnlyTakerPolicy
  defaultTimeInForce : Option TimeInForce
  takerFeeBps : Option String
deriving DecidableEq

def PaperBrokerFillOptions.simulatorOptions (options : PaperBrokerFillOptions) (submittedAt : Option MarketTimestamp) :
    PaperFillSimulatorOptions where
  submittedAt := submittedAt
  latencyMs := options.latencyMs
  postOnlyTakerPolicy := options.postOnlyTakerPolicy
  defaultTimeInForce := options.defaultTimeInForce
  takerFeeBps := options.takerFeeBps

structure PaperBrokerBalanceInput where
  currency : String
  available : String
  locked : Option String
  total : Option String
  updatedAt : Option MarketTimestamp
deriving DecidableEq

structure PaperBrokerOptions where
  exchangeId : String
  initialBalances : List PaperBrokerBalanceInput
  orderbookSnapshots : List OrderbookEvent
  fillOptions : PaperBrokerFillOptions
  brokerOrderIdPrefix : Option String
deriving DecidableEq

structure BrokerBalance where
  currency : String
  available : ℚ
  locked : ℚ
  total : ℚ
  updatedAt : MarketTimestamp
deriving DecidableEq

structure MarketCurrencies where
  quoteCurrency : String
  baseCurrency : String
deriving DecidableEq

structure PaperBrokerBalanceMutationSummary where
  baseCurrency : String
  quoteCurrency : String
  filledQuantity : ℚ
  openQuantity : ℚ
  canceledQuantity : ℚ
  quoteAvailableDelta : ℚ
  quoteLockedDelta : ℚ
  baseAvailableDelta : ℚ
  baseLockedDelta : ℚ
deriving DecidableEq

structure PaperBrokerCancelMutationSummary where
  baseCurrency : String
  quoteCurrency : String
  releasedCurrency : String
  releasedQuantity : ℚ
  canceledQuantity : ℚ
deriving DecidableEq

/-- `paper_balance_insufficient` -/
structure PaperBrokerBalanceRejectionSummary where
  currency : String
  requiredQuantity : ℚ
  availableQuantity : ℚ
  shortageQuantity : ℚ
  attemptedDelta : ℚ
deriving DecidableEq

/-- `paper_exchange_mismatch` -/
structure PaperBrokerExchangeRejectionSummary where
  brokerExchangeId : String
  intentExchangeId : String
deriving DecidableEq

/-- the evidence an order carries: what it was simulated as and booked as, or what it was rejected for -/
structure PaperBrokerOrderMetadata where
  submittedAt : MarketTimestamp
  paperFillSimulation : Option PaperFillSimulationResult
  balanceMutation : Option PaperBrokerBalanceMutationSummary
  balanceMutationApplied : Option Bool
  paperBalanceRejection : Option PaperBrokerBalanceRejectionSummary
  paperBrokerRejection : Option PaperBrokerExchangeRejectionSummary
  paperCancel : Option (MarketTimestamp × PaperBrokerCancelMutationSummary)
deriving DecidableEq

structure BrokerOrder where
  brokerOrderId : String
  idempotencyKey : String
  exchangeId : String
  market : String
  side : OrderSide
  orderType : OrderType
  status : OrderLifecycleStatus
  requestedQuantity : ℚ
  remainingQuantity : ℚ
  requestedPrice : Option String
  acceptedAt : Option MarketTimestamp
  updatedAt : MarketTimestamp
  metadata : PaperBrokerOrderMetadata
deriving DecidableEq

structure PaperBrokerOrderState where
  status : OrderLifecycleStatus
  remainingQuantity : ℚ
  balanceMutationApplied : Bool
  balanceRejection : Option PaperBrokerBalanceRejectionSummary
deriving DecidableEq

structure LimitFingerprint where
  requestedPrice : String
  postOnly : Bool
  timeInForce : TimeInForce
deriving DecidableEq

structure SubmissionFingerprint where
  exchangeId : String
  market : String
  strategyId : String
  side : OrderSide
  orderType : OrderType
  requestedQuantity : String
  requestedNotional : String
  idempotencyKey : String
  limit : Option LimitFingerprint
deriving DecidableEq

structure PaperBroker where
  exchangeId : String
  fillOptions : PaperBrokerFillOptions
  brokerOrderIdPrefix : String
  ordersById : InsertionMap String BrokerOrder
  orderIdsByIdempotencyKey : InsertionMap String String
  fingerprintsByIdempotencyKey : InsertionMap String SubmissionFingerprint
  balancesByCurrency : InsertionMap String BrokerBalance
  orderbooksByMarket : InsertionMap String (List OrderbookEvent)
  nextOrderSequence : ℕ

def paperBrokerIdempotencyConflictError (idempotencyKey : String) : Thrown :=
  ⟨"PaperBrokerIdempotencyConflictError",
    "Paper broker idempotency key was reused with a different order fingerprint: " ++ idempotencyKey⟩

def paperBrokerOrderNotFoundError (brokerOrderId : String) : Thrown :=
  ⟨"PaperBrokerOrderNotFoundError", "Paper broker order was not found: " ++ brokerOrderId⟩

/-! ## Orderbook window -/

def createOrderbookKey (exchangeId market : String) : String := exchangeId ++ ":" ++ market

/-- the time a snapshot is sorted by -/
def receivedAtValue (snapshot : OrderbookEvent) : Int :=
  match snapshot.receivedAt with
  | .nanos n => n
  | .refused _ => 0

/-- push, then sort by time of receipt; the times are read once there are two snapshots to compare, and a refused one
leaves the array pushed and unsorted -/
def recordOrderbookSnapshot (orderbooksByMarket : InsertionMap String (List OrderbookEvent)) (snapshot : OrderbookEvent) :
    InsertionMap String (List OrderbookEvent) × Except Thrown Unit :=
  let key := createOrderbookKey snapshot.exchangeId snapshot.market
  let snapshots := (orderbooksByMarket.get key).getD [] ++ [snapshot]
  if snapshots.length < 2 then (orderbooksByMarket.set key snapshots, pure ())
  else
    match snapshots.mapM (fun s => readTimestampNanos s.receivedAt) with
    | .error e => (orderbooksByMarket.set key snapshots, throw e)
    | .ok _ =>
      (orderbooksByMarket.set key (stableSort (fun l r => compare (receivedAtValue l) (receivedAtValue r)) snapshots),
        pure ())

/-- one snapshot after another, up to the first that throws -/
def recordOrderbookSnapshots (orderbooksByMarket : InsertionMap String (List OrderbookEvent)) :
    List OrderbookEvent → InsertionMap String (List OrderbookEvent) × Except Thrown Unit
  | [] => (orderbooksByMarket, pure ())
  | snapshot :: snapshots =>
    match recordOrderbookSnapshot orderbooksByMarket snapshot with
    | (recorded, .error e) => (recorded, throw e)
    | (recorded, .ok ()) => recordOrderbookSnapshots recorded snapshots

def replaceOrderbookSnapshots (snapshots : List OrderbookEvent) :
    InsertionMap String (List OrderbookEvent) × Except Thrown Unit :=
  recordOrderbookSnapshots InsertionMap.empty snapshots

def shouldWaitForPostSubmitSnapshot (options : PaperBrokerFillOptions) : Bool :=
  match options.latencyMs.getD (.finite 0) with
  | .finite ms => 0 < ms
  | .infinite => true
  | .notANumber => false

/-- the loop of `selectImmediateExecutionOrderbook`: the last snapshot up to the submission, the first one after it -/
def scanSnapshots (submittedAtNanos : Int) (latestPreSubmit earliestPostSubmit : Option OrderbookEvent) :
    List OrderbookEvent → Except Thrown (Option OrderbookEvent)
  | [] => pure (latestPreSubmit.or earliestPostSubmit)
  | orderbook :: orderbooks => do
    let receivedAtNanos ← readTimestampNanos orderbook.receivedAt
    if receivedAtNanos ≤ submittedAtNanos then
      scanSnapshots submittedAtNanos (some orderbook) earliestPostSubmit orderbooks
    else scanSnapshots submittedAtNanos latestPreSubmit (earliestPostSubmit.or (some orderbook)) orderbooks

def selectImmediateExecutionOrderbook (orderbooks : List OrderbookEvent) (submittedAt : MarketTimestamp) :
    Except Thrown (Option OrderbookEvent) := do
  let submittedAtNanos ← readTimestampNanos submittedAt
  scanSnapshots submittedAtNanos none none orderbooks

def PaperBroker.readOrderbooksForIntent (broker : PaperBroker) (intent : OrderIntent) : List OrderbookEvent :=
  (broker.orderbooksByMarket.get (createOrderbookKey intent.exchangeId intent.market)).getD []

def PaperBroker.createFillSimulationRequest (broker : PaperBroker) (submission : OrderSubmission) :
    Except Thrown (List OrderbookEvent × PaperFillSimulatorOptions) :=
  let orderbooks := broker.readOrderbooksForIntent submission.intent
  if shouldWaitForPostSubmitSnapshot broker.fillOptions then
    pure (orderbooks, broker.fillOptions.simulatorOptions (some submission.submittedAt))
  else do
    let immediateOrderbook ← selectImmediateExecutionOrderbook orderbooks submission.submittedAt
    pure (immediateOrderbook.toList, broker.fillOptions.simulatorOptions none)

/-! ## Order state -/

def isAcceptedBrokerStatus (status : OrderLifecycleStatus) : Bool := status ≠ .rejected ∧ status ≠ .failed

def isOpenBrokerOrder (order : BrokerOrder) : Bool := isOpenStatus order.status ∧ 0 < order.remainingQuantity

theorem isOpenBrokerOrder_iff {order : BrokerOrder} :
    isOpenBrokerOrder order = true ↔ isOpenStatus order.status = true ∧ 0 < order.remainingQuantity := by
  simp [isOpenBrokerOrder]

def createExchangeRejection (intent : OrderIntent) (brokerExchangeId : String) :
    Option PaperBrokerExchangeRejectionSummary :=
  if intent.exchangeId = brokerExchangeId then none else some ⟨brokerExchangeId, intent.exchangeId⟩

def createBrokerOrderFromSimulation (submission : OrderSubmission) (brokerOrderId : String)
    (simulation : PaperFillSimulationResult) (balanceMutation : PaperBrokerBalanceMutationSummary)
    (orderState : PaperBrokerOrderState) (updatedAt : MarketTimestamp) : BrokerOrder where
  brokerOrderId := brokerOrderId
  idempotencyKey := submission.intent.idempotencyKey
  exchangeId := submission.intent.exchangeId
  market := submission.intent.market
  side := submission.intent.side
  orderType := submission.intent.terms.orderType
  status := orderState.status
  requestedQuantity := simulation.requestedQuantity
  remainingQuantity := orderState.remainingQuantity
  requestedPrice := submission.intent.terms.requestedPrice
  acceptedAt := if isAcceptedBrokerStatus orderState.status then some updatedAt else none
  updatedAt := updatedAt
  metadata :=
    { submittedAt := submission.submittedAt
      paperFillSimulation := some simulation
      balanceMutation := some balanceMutation
      balanceMutationApplied := some orderState.balanceMutationApplied
      paperBalanceRejection := orderState.balanceRejection
      paperBrokerRejection := none
      paperCancel := none }

def createCanceledOrder (order : BrokerOrder) (cancelMutation : PaperBrokerCancelMutationSummary)
    (canceledAt : MarketTimestamp) : BrokerOrder :=
  { order with
    status := .canceled
    remainingQuantity := 0
    updatedAt := canceledAt
    metadata := { order.metadata with paperCancel := some (canceledAt, cancelMutation) } }

def createOrderStateFromSimulation (simulation : PaperFillSimulationResult)
    (rejection : Option PaperBrokerBalanceRejectionSummary) : PaperBrokerOrderState :=
  match rejection with
  | some rejection => ⟨.rejected, 0, false, some rejection⟩
  | none => ⟨simulation.orderStatus, simulation.openQuantity, true, none⟩

theorem scanSnapshots_mem {submittedAtNanos : Int} {orderbooks : List OrderbookEvent} {pre post : Option OrderbookEvent}
    {orderbook : OrderbookEvent} (h : scanSnapshots submittedAtNanos pre post orderbooks = .ok (some orderbook)) :
    pre = some orderbook ∨ post = some orderbook ∨ orderbook ∈ orderbooks := by
  induction orderbooks generalizing pre post with
  | nil =>
    rcases Option.or_eq_some_iff.1 (pure_eq_ok.1 h) with hpre | ⟨-, hpost⟩
    · exact Or.inl hpre
    · exact Or.inr (Or.inl hpost)
  | cons snapshot snapshots ih =>
    obtain ⟨nanos, -, h⟩ := bind_eq_ok.1 h
    split at h
    · rcases ih h with hpre | hpost | hmem
      · simp [Option.some.inj hpre]
      · exact Or.inr (Or.inl hpost)
      · simp [hmem]
    · rcases ih h with hpre | hpost | hmem
      · exact Or.inl hpre
      · rcases Option.or_eq_some_iff.1 hpost with hpost | ⟨-, hthis⟩
        · exact Or.inr (Or.inl hpost)
        · simp [Option.some.inj hthis]
      · simp [hmem]

/-- the snapshots a fill is simulated against are recorded ones, under the broker's own fill options -/
theorem createFillSimulationRequest_spec {broker : PaperBroker} {submission : OrderSubmission}
    {orderbooks : List OrderbookEvent} {options : PaperFillSimulatorOptions}
    (h : broker.createFillSimulationRequest submission = .ok (orderbooks, options)) :
    (∀ orderbook ∈ orderbooks, orderbook ∈ broker.readOrderbooksForIntent submission.intent) ∧
      options.takerFeeBps = broker.fillOptions.takerFeeBps := by
  unfold PaperBroker.createFillSimulationRequest at h
  simp only at h
  split at h
  · cases pure_eq_ok.1 h
    exact ⟨fun _ h => h, rfl⟩
  · obtain ⟨immediate, himmediate, h⟩ := bind_eq_ok.1 h
    obtain ⟨nanos, -, hscan⟩ := bind_eq_ok.1 himmediate
    cases pure_eq_ok.1 h
    refine ⟨fun orderbook hmem => ?_, rfl⟩
    have hsome : immediate = some orderbook := Option.mem_toList.1 hmem
    rcases scanSnapshots_mem (hsome ▸ hscan) with hpre | hpost | hmem
    · cases hpre
    · cases hpost
    · exact hmem

section Host

variable [Host]

/-! ## Currencies and fingerprints -/

def normalizeCurrency (currency : String) : String := Host.toUpperCase (trim currency)

/-- the market code is split at its first hyphen -/
def parseMarketCurrencies (market : String) : Except Thrown MarketCurrencies :=
  match market.toList.takeWhile (· ≠ '-'), market.toList.dropWhile (· ≠ '-') with
  | q :: quote, _ :: b :: base =>
    pure ⟨normalizeCurrency (String.ofList (q :: quote)), normalizeCurrency (String.ofList (b :: base))⟩
  | _, _ => throw ⟨"Error", "Paper broker requires market codes in QUOTE-BASE format: " ++ market⟩

def normalizeDecimalString (value : String) : Except Thrown String := Host.toFixed <$> parseFinancialDecimal value

def createLimitFingerprint : OrderTerms → Except Thrown (Option LimitFingerprint)
  | .market => pure none
  | .limit requestedPrice postOnly timeInForce => do
    let price ← normalizeDecimalString requestedPrice
    pure (some ⟨price, postOnly, timeInForce.getD .gtc⟩)

def createSubmissionFingerprint (intent : OrderIntent) : Except Thrown SubmissionFingerprint := do
  let requestedQuantity ← normalizeDecimalString intent.requestedQuantity
  let requestedNotional ← normalizeDecimalString intent.requestedNotional
  let limit ← createLimitFingerprint intent.terms
  pure
    { exchangeId := intent.exchangeId
      market := intent.market
      strategyId := intent.strategyId
      side := intent.side
      orderType := intent.terms.orderType
      requestedQuantity := requestedQuantity
      requestedNotional := requestedNotional
      idempotencyKey := intent.idempotencyKey
      limit := limit }

def createRejectedBrokerOrder (submission : OrderSubmission) (brokerOrderId : String)
    (rejection : PaperBrokerExchangeRejectionSummary) (updatedAt : MarketTimestamp) : Except Thrown BrokerOrder := do
  let requestedQuantity ← parseFinancialDecimal submission.intent.requestedQuantity
  pure
    { brokerOrderId := brokerOrderId
      idempotencyKey := submission.intent.idempotencyKey
      exchangeId := submission.intent.exchangeId
      market := submission.intent.market
      side := submission.intent.side
      orderType := submission.intent.terms.orderType
      status := .rejected
      requestedQuantity := requestedQuantity
      remainingQuantity := 0
      requestedPrice := submission.intent.terms.requestedPrice
      acceptedAt := none
      updatedAt := updatedAt
      metadata :=
        { submittedAt := submission.submittedAt
          paperFillSimulation := none
          balanceMutation := none
          balanceMutationApplied := none
          paperBalanceRejection := none
          paperBrokerRejection := some rejection
          paperCancel := none } }

/-! ## Balances -/

def normalizeInitialBalance (input : PaperBrokerBalanceInput) (fallbackUpdatedAt : MarketTimestamp) :
    Except Thrown BrokerBalance := do
  let available ← parseFinancialDecimal input.available
  let locked ← parseFinancialDecimal (input.locked.getD "0")
  let total ← (input.total.map parseFinancialDecimal).getD (pure (available + locked))
  pure ⟨normalizeCurrency input.currency, available, locked, total, input.updatedAt.getD fallbackUpdatedAt⟩

def createZeroBalance (currency : String) (updatedAt : MarketTimestamp) : BrokerBalance :=
  ⟨normalizeCurrency currency, 0, 0, 0, updatedAt⟩

def applyBalanceDelta (balances : InsertionMap String BrokerBalance) (currency : String)
    (availableDelta lockedDelta : ℚ) (updatedAt : MarketTimestamp) : InsertionMap String BrokerBalance :=
  let normalizedCurrency := normalizeCurrency currency
  if availableDelta = 0 ∧ lockedDelta = 0 then balances
  else
    let current := (balances.get normalizedCurrency).getD (createZeroBalance normalizedCurrency updatedAt)
    let available := current.available + availableDelta
    let locked := current.locked + lockedDelta
    balances.set normalizedCurrency
      { current with available := available, locked := locked, total := available + locked, updatedAt := updatedAt }

/-- `none` where the balance covers the delta -/
def validateAvailableBalance (balances : InsertionMap String BrokerBalance) (currency : String) (availableDelta : ℚ) :
    Option PaperBrokerBalanceRejectionSummary :=
  if ¬ availableDelta < 0 then none
  else
    let normalizedCurrency := normalizeCurrency currency
    let available := ((balances.get normalizedCurrency).map BrokerBalance.available).getD 0
    let required := |availableDelta|
    if required ≤ available then none
    else some ⟨normalizedCurrency, required, available, required - available, availableDelta⟩

/-- the quote side is checked first -/
def validateBalanceMutation (balances : InsertionMap String BrokerBalance) (mutation : PaperBrokerBalanceMutationSummary) :
    Option PaperBrokerBalanceRejectionSummary :=
  (validateAvailableBalance balances mutation.quoteCurrency mutation.quoteAvailableDelta).or
    (validateAvailableBalance balances mutation.baseCurrency mutation.baseAvailableDelta)

def applySubmissionBalanceMutation (balances : InsertionMap String BrokerBalance)
    (mutation : PaperBrokerBalanceMutationSummary) (updatedAt : MarketTimestamp) : InsertionMap String BrokerBalance :=
  let quoted := applyBalanceDelta balances mutation.quoteCurrency mutation.quoteAvailableDelta mutation.quoteLockedDelta
    updatedAt
  applyBalanceDelta quoted mutation.baseCurrency mutation.baseAvailableDelta mutation.baseLockedDelta updatedAt

def calculateOpenQuoteLock (intent : OrderIntent) (openQuantity : ℚ) : Except Thrown ℚ :=
  match intent.terms with
  | .market => pure 0
  | .limit requestedPrice _ _ =>
    if 0 < openQuantity then (openQuantity * ·) <$> parseFinancialDecimal requestedPrice else pure 0

def createSubmissionBalanceMutation (intent : OrderIntent) (simulation : PaperFillSimulationResult) :
    Except Thrown PaperBrokerBalanceMutationSummary := do
  let currencies ← parseMarketCurrencies intent.market
  let totalFillNotional := simulation.totalFillNotional.getD 0
  let totalFee := simulation.totalFee.getD 0
  let summary : PaperBrokerBalanceMutationSummary :=
    { baseCurrency := currencies.baseCurrency
      quoteCurrency := currencies.quoteCurrency
      filledQuantity := simulation.filledQuantity
      openQuantity := simulation.openQuantity
      canceledQuantity := simulation.canceledQuantity
      quoteAvailableDelta := 0
      quoteLockedDelta := 0
      baseAvailableDelta := 0
      baseLockedDelta := 0 }
  match intent.side with
  | .buy => do
    let openQuoteLock ← calculateOpenQuoteLock intent simulation.openQuantity
    pure
      { summary with
        quoteAvailableDelta := -(totalFillNotional + totalFee + openQuoteLock)
        quoteLockedDelta := openQuoteLock
        baseAvailableDelta := simulation.filledQuantity }
  | .sell =>
    pure
      { summary with
        quoteAvailableDelta := totalFillNotional - totalFee
        baseAvailableDelta := -(simulation.filledQuantity + simulation.openQuantity)
        baseLockedDelta := simulation.openQuantity }

/-- a canceled LIMIT order gives back what its remainder locked -/
def releaseOpenBalance (balances : InsertionMap String BrokerBalance) (order : BrokerOrder)
    (canceledAt : MarketTimestamp) :
    Except Thrown (InsertionMap String BrokerBalance × PaperBrokerCancelMutationSummary) := do
  let currencies ← parseMarketCurrencies order.market
  let canceledQuantity := order.remainingQuantity
  let released (currency : String) (quantity : ℚ) : PaperBrokerCancelMutationSummary :=
    ⟨currencies.baseCurrency, currencies.quoteCurrency, currency, quantity, canceledQuantity⟩
  match order.orderType, order.requestedPrice with
  | .limit, some requestedPrice =>
    if 0 < canceledQuantity then
      match order.side with
      | .buy => do
        let price ← parseFinancialDecimal requestedPrice
        let releasedQuote := canceledQuantity * price
        pure (applyBalanceDelta balances currencies.quoteCurrency releasedQuote (-releasedQuote) canceledAt,
          released currencies.quoteCurrency releasedQuote)
      | .sell =>
        pure (applyBalanceDelta balances currencies.baseCurrency canceledQuantity (-canceledQuantity) canceledAt,
          released currencies.baseCurrency canceledQuantity)
    else pure (balances, released "" 0)
  | _, _ => pure (balances, released "" 0)

/-! ## The broker -/

namespace PaperBroker

def createBrokerOrderId (broker : PaperBroker) : String :=
  broker.brokerOrderIdPrefix ++ "-" ++ toString broker.nextOrderSequence

/-- the constructor -/
def create (options : PaperBrokerOptions) (initializedAt : MarketTimestamp) : Except Thrown PaperBroker := do
  let balances ← options.initialBalances.foldlM (fun balances input => do
      let balance ← normalizeInitialBalance input initializedAt
      pure (balances.set (normalizeCurrency input.currency) balance)) InsertionMap.empty
  let (orderbooks, recorded) := recordOrderbookSnapshots InsertionMap.empty options.orderbookSnapshots
  recorded
  pure
    { exchangeId := options.exchangeId
      fillOptions := options.fillOptions
      brokerOrderIdPrefix := options.brokerOrderIdPrefix.getD "paper-order"
      ordersById := InsertionMap.empty
      orderIdsByIdempotencyKey := InsertionMap.empty
      fingerprintsByIdempotencyKey := InsertionMap.empty
      balancesByCurrency := balances
      orderbooksByMarket := orderbooks
      nextOrderSequence := 1 }

def readExistingOrder (broker : PaperBroker) (orderId : String) : Except Thrown BrokerOrder :=
  match broker.ordersById.get orderId with
  | some order => pure order
  | none => throw (paperBrokerOrderNotFoundError orderId)

/-- the order is stored and its idempotency key taken -/
def storeOrder (broker : PaperBroker) (order : BrokerOrder) (fingerprint : SubmissionFingerprint) : PaperBroker :=
  { broker with
    ordersById := broker.ordersById.set order.brokerOrderId order
    orderIdsByIdempotencyKey := broker.orderIdsByIdempotencyKey.set order.idempotencyKey order.brokerOrderId
    fingerprintsByIdempotencyKey := broker.fingerprintsByIdempotencyKey.set order.idempotencyKey fingerprint }

/-- what a submission under a new key comes to: the balances after it and the order -/
def fillOrder (broker : PaperBroker) (submission : OrderSubmission) (brokerOrderId : String)
    (updatedAt : MarketTimestamp) : Except Thrown (InsertionMap String BrokerBalance × BrokerOrder) :=
  match createExchangeRejection submission.intent broker.exchangeId with
  | some rejection => do
    let order ← createRejectedBrokerOrder submission brokerOrderId rejection updatedAt
    pure (broker.balancesByCurrency, order)
  | none => do
    let (orderbooks, options) ← broker.createFillSimulationRequest submission
    let simulation ← simulatePaperFill submission.intent orderbooks options
    let balanceMutation ← createSubmissionBalanceMutation submission.intent simulation
    let rejection := validateBalanceMutation broker.balancesByCurrency balanceMutation
    let orderState := createOrderStateFromSimulation simulation rejection
    -- a rejected order must not touch the balances
    let balances :=
      if rejection.isNone then applySubmissionBalanceMutation broker.balancesByCurrency balanceMutation updatedAt
      else broker.balancesByCurrency
    pure (balances,
      createBrokerOrderFromSimulation submission brokerOrderId simulation balanceMutation orderState updatedAt)

def submitOrder (broker : PaperBroker) (submission : OrderSubmission) (updatedAt : MarketTimestamp) :
    PaperBroker × Except Thrown BrokerOrder :=
  let idempotencyKey := submission.intent.idempotencyKey
  match createSubmissionFingerprint submission.intent with
  | .error e => (broker, throw e)
  | .ok fingerprint =>
    match broker.orderIdsByIdempotencyKey.get idempotencyKey with
    | some existingOrderId =>
      if broker.fingerprintsByIdempotencyKey.get idempotencyKey ≠ some fingerprint then
        (broker, throw (paperBrokerIdempotencyConflictError idempotencyKey))
      else (broker, broker.readExistingOrder existingOrderId)
    | none =>
      let brokerOrderId := broker.createBrokerOrderId
      let numbered := { broker with nextOrderSequence := broker.nextOrderSequence + 1 }
      match numbered.fillOrder submission brokerOrderId updatedAt with
      | .error e => (numbered, throw e)
      | .ok (balances, order) =>
        ({ numbered with balancesByCurrency := balances }.storeOrder order fingerprint, pure order)

def cancelOrder (broker : PaperBroker) (orderId : String) (canceledAt : MarketTimestamp) :
    PaperBroker × Except Thrown BrokerOrder :=
  match broker.ordersById.get orderId with
  | none => (broker, throw (paperBrokerOrderNotFoundError orderId))
  | some existingOrder =>
    if isOpenBrokerOrder existingOrder = false then (broker, pure existingOrder)
    else
      match releaseOpenBalance broker.balancesByCurrency existingOrder canceledAt with
      | .error e => (broker, throw e)
      | .ok (balances, cancelMutation) =>
        let canceledOrder := createCanceledOrder existingOrder cancelMutation canceledAt
        ({ broker with
            balancesByCurrency := balances
            ordersById := broker.ordersById.set canceledOrder.brokerOrderId canceledOrder }, pure canceledOrder)

def listOpenOrders (broker : PaperBroker) (market : Option String) : List BrokerOrder :=
  broker.ordersById.values.filter (fun order => (market.isNone ∨ some order.market = market) ∧ isOpenBrokerOrder order)

end PaperBroker

/-! ## Bookings -/

def availableOf (balances : InsertionMap String BrokerBalance) (c : String) : ℚ :=
  ((balances.get c).map BrokerBalance.available).getD 0

def lockedOf (balances : InsertionMap String BrokerBalance) (c : String) : ℚ :=
  ((balances.get c).map BrokerBalance.locked).getD 0

/-- every balance reports the sum of its parts as its total -/
def TotalsAdd (balances : InsertionMap String BrokerBalance) : Prop :=
  ∀ c balance, balances.get c = some balance → balance.total = balance.available + balance.locked

variable {balances : InsertionMap String BrokerBalance} {currency : String} {availableDelta lockedDelta : ℚ}
  {updatedAt : MarketTimestamp}

theorem applyBalanceDelta_availableOf (c : String) :
    availableOf (applyBalanceDelta balances currency availableDelta lockedDelta updatedAt) c
      = availableOf balances c + if normalizeCurrency currency = c then availableDelta else 0 := by
  unfold applyBalanceDelta
  simp only
  split_ifs with hzero hc hc
  · simp [hzero.1]
  · simp
  · subst hc
    cases hget : balances.get (normalizeCurrency currency) <;> simp [availableOf, hget, createZeroBalance]
  · simp [availableOf, InsertionMap.get_set_ne _ _ hc]

theorem applyBalanceDelta_lockedOf (c : String) :
    lockedOf (applyBalanceDelta balances currency availableDelta lockedDelta updatedAt) c
      = lockedOf balances c + if normalizeCurrency currency = c then lockedDelta else 0 := by
  unfold applyBalanceDelta
  simp only
  split_ifs with hzero hc hc
  · simp [hzero.2]
  · simp
  · subst hc
    cases hget : balances.get (normalizeCurrency currency) <;> simp [lockedOf, hget, createZeroBalance]
  · simp [lockedOf, InsertionMap.get_set_ne _ _ hc]

theorem TotalsAdd.applyBalanceDelta (h : TotalsAdd balances) :
    TotalsAdd (applyBalanceDelta balances currency availableDelta lockedDelta updatedAt) := by
  unfold Paper.applyBalanceDelta
  simp only
  split_ifs with hzero
  · exact h
  · intro c balance hget
    rw [InsertionMap.get_set] at hget
    split_ifs at hget with hc
    · rw [← Option.some.inj hget]
    · exact h c balance hget

/-- a zero booking is none -/
theorem applyBalanceDelta_zero : applyBalanceDelta balances currency 0 0 updatedAt = balances := by
  simp [applyBalanceDelta]

/-- a checked delta leaves the balance non-negative -/
theorem validateAvailableBalance_none (h : validateAvailableBalance balances currency availableDelta = none)
    (hb : 0 ≤ availableOf balances (normalizeCurrency currency)) :
    0 ≤ availableOf balances (normalizeCurrency currency) + availableDelta := by
  unfold validateAvailableBalance at h
  simp only [ite_not] at h
  split_ifs at h with hneg hcov
  · rw [abs_of_neg hneg] at hcov
    exact neg_le_iff_add_nonneg.1 hcov
  · linarith

/-! ## What a call can do -/

variable {broker : PaperBroker} {submission : OrderSubmission}

/-- what a new submission comes to: a rejected order and no booking, or the simulated order and its booking -/
inductive Filled (broker : PaperBroker) (submission : OrderSubmission) (brokerOrderId : String)
    (updatedAt : MarketTimestamp) : InsertionMap String BrokerBalance → BrokerOrder → Prop where
  | rejected (order : BrokerOrder) (hid : order.brokerOrderId = brokerOrderId)
      (hkey : order.idempotencyKey = submission.intent.idempotencyKey) (hstatus : order.status = .rejected)
      (hremaining : order.remainingQuantity = 0) :
      Filled broker submission brokerOrderId updatedAt broker.balancesByCurrency order
  | booked (orderbooks : List OrderbookEvent) (options : PaperFillSimulatorOptions)
      (simulation : PaperFillSimulationResult) (mutation : PaperBrokerBalanceMutationSummary)
      (hrequest : broker.createFillSimulationRequest submission = .ok (orderbooks, options))
      (hsimulation : simulatePaperFill submission.intent orderbooks options = .ok simulation)
      (hmutation : createSubmissionBalanceMutation submission.intent simulation = .ok mutation)
      (hcovered : validateBalanceMutation broker.balancesByCurrency mutation = none) :
      Filled broker submission brokerOrderId updatedAt
        (applySubmissionBalanceMutation broker.balancesByCurrency mutation updatedAt)
        (createBrokerOrderFromSimulation submission brokerOrderId simulation mutation
          ⟨simulation.orderStatus, simulation.openQuantity, true, none⟩ updatedAt)

theorem fillOrder_filled {brokerOrderId : String} {order : BrokerOrder}
    (h : broker.fillOrder submission brokerOrderId updatedAt = .ok (balances, order)) :
    Filled broker submission brokerOrderId updatedAt balances order := by
  unfold PaperBroker.fillOrder at h
  split at h
  · obtain ⟨rejected, hrejected, h⟩ := bind_eq_ok.1 h
    obtain ⟨quantity, -, hrejected⟩ := bind_eq_ok.1 hrejected
    cases pure_eq_ok.1 hrejected
    cases pure_eq_ok.1 h
    exact .rejected _ rfl rfl rfl rfl
  · obtain ⟨⟨orderbooks, options⟩, hrequest, h⟩ := bind_eq_ok.1 h
    obtain ⟨simulation, hsimulation, h⟩ := bind_eq_ok.1 h
    obtain ⟨mutation, hmutation, h⟩ := bind_eq_ok.1 h
    simp only at h
    cases hcovered : validateBalanceMutation broker.balancesByCurrency mutation with
    | some rejection =>
      simp only [hcovered] at h
      cases pure_eq_ok.1 h
      exact .rejected _ rfl rfl rfl rfl
    | none =>
      simp only [hcovered] at h
      cases pure_eq_ok.1 h
      exact .booked orderbooks options simulation mutation hrequest hsimulation hmutation hcovered

theorem Filled.brokerOrderId_eq {brokerOrderId : String} {order : BrokerOrder}
    (h : Filled broker submission brokerOrderId updatedAt balances order) : order.brokerOrderId = brokerOrderId := by
  cases h with
  | rejected _ hid => exact hid
  | booked => rfl

theorem Filled.idempotencyKey_eq {brokerOrderId : String} {order : BrokerOrder}
    (h : Filled broker submission brokerOrderId updatedAt balances order) :
    order.idempotencyKey = submission.intent.idempotencyKey := by
  cases h with
  | rejected _ _ hkey => exact hkey
  | booked => rfl

/-- nothing changes, an order number is used up and the call throws, or the order that `fillOrder` made is stored -/
theorem submitOrder_fills (broker : PaperBroker) (submission : OrderSubmission) (updatedAt : MarketTimestamp) :
    (broker.submitOrder submission updatedAt).1 = broker ∨
    ((∃ e, (broker.submitOrder submission updatedAt).2 = .error e) ∧
      (broker.submitOrder submission updatedAt).1
        = { broker with nextOrderSequence := broker.nextOrderSequence + 1 }) ∨
    ∃ fingerprint balances order, (broker.submitOrder submission updatedAt).2 = .ok order ∧
      createSubmissionFingerprint submission.intent = .ok fingerprint ∧
      broker.orderIdsByIdempotencyKey.get submission.intent.idempotencyKey = none ∧
      broker.fillOrder submission broker.createBrokerOrderId updatedAt = .ok (balances, order) ∧
      (broker.submitOrder submission updatedAt).1 = PaperBroker.storeOrder { broker with
        nextOrderSequence := broker.nextOrderSequence + 1, balancesByCurrency := balances } order fingerprint := by
  unfold PaperBroker.submitOrder
  simp only
  split
  · exact Or.inl rfl
  · rename_i fingerprint hfingerprint
    split
    · split_ifs
      · exact Or.inl rfl
      · exact Or.inl rfl
    · rename_i hnew
      split
      · rename_i e he
        exact Or.inr (Or.inl ⟨⟨e, rfl⟩, rfl⟩)
      · rename_i balances order hfilled
        -- the order number is not read while the order is filled
        have hfilled' : broker.fillOrder submission broker.createBrokerOrderId updatedAt = .ok (balances, order) := hfilled
        exact Or.inr (Or.inr ⟨fingerprint, balances, order, rfl, hfingerprint, hnew, hfilled', rfl⟩)

/-- **Inversion of `submitOrder`.** Nothing changes, an order number is used up and the call throws, or the order that
`fillOrder` made is booked and stored under a new number. -/
theorem submitOrder_cases (broker : PaperBroker) (submission : OrderSubmission) (updatedAt : MarketTimestamp) :
    (broker.submitOrder submission updatedAt).1 = broker ∨
    ((∃ e, (broker.submitOrder submission updatedAt).2 = .error e) ∧
      (broker.submitOrder submission updatedAt).1
        = { broker with nextOrderSequence := broker.nextOrderSequence + 1 }) ∨
    ∃ fingerprint balances order, (broker.submitOrder submission updatedAt).2 = .ok order ∧
      createSubmissionFingerprint submission.intent = .ok fingerprint ∧
      broker.orderIdsByIdempotencyKey.get submission.intent.idempotencyKey = none ∧
      Filled broker submission broker.createBrokerOrderId updatedAt balances order ∧
      (broker.submitOrder submission updatedAt).1 = PaperBroker.storeOrder { broker with
        nextOrderSequence := broker.nextOrderSequence + 1, balancesByCurrency := balances } order fingerprint := by
  rcases submitOrder_fills broker submission updatedAt with
    hsame | hthrown | ⟨fingerprint, balances, order, hok, hfingerprint, hnew, hfilled, hstored⟩
  · exact Or.inl hsame
  · exact Or.inr (Or.inl hthrown)
  · exact Or.inr (Or.inr ⟨fingerprint, balances, order, hok, hfingerprint, hnew, fillOrder_filled hfilled, hstored⟩)

/-- **Inversion of `cancelOrder`.** Nothing changes, or an open order is closed and its lock released. -/
theorem cancelOrder_cases (broker : PaperBroker) (orderId : String) (canceledAt : MarketTimestamp) :
    (broker.cancelOrder orderId canceledAt).1 = broker ∨
    ∃ order balances mutation, broker.ordersById.get orderId = some order ∧ isOpenBrokerOrder order = true ∧
      releaseOpenBalance broker.balancesByCurrency order canceledAt = .ok (balances, mutation) ∧
      (broker.cancelOrder orderId canceledAt).1 = { broker with
        balancesByCurrency := balances
        ordersById := broker.ordersById.set order.brokerOrderId (createCanceledOrder order mutation canceledAt) } := by
  unfold PaperBroker.cancelOrder
  split
  · exact Or.inl rfl
  · rename_i order hget
    split_ifs with hopen
    · exact Or.inl rfl
    · split
      · exact Or.inl rfl
      · rename_i balances mutation hrelease
        exact Or.inr ⟨order, balances, mutation, hget, by simpa using hopen, hrelease, rfl⟩

end Host

/-! ## Order ids -/

theorem createBrokerOrderId_inj {pre : String} {m n : ℕ} (h : pre ++ "-" ++ toString m = pre ++ "-" ++ toString n) :
    m = n :=
  Nat.repr_injective (String.append_right_inj _ |>.1 h)

end SeeMirai.Paper
