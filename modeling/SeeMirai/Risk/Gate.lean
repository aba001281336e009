/-
The RiskGate (application/risk/risk-gate.ts and risk-gate/). A dozen policies each read their own texts and answer with
evaluations; the order is approved where none of them fails. A text that does not read, or that is negative where it may
not be, is an evaluation that fails and not an exception; only the thresholds throw.

Arithmetic is exact. The metadata of an evaluation is left out, except for the field that a failed read names.

Results:
- `evaluation_action`: an evaluation fails exactly where its action is not ALLOW, so the result's action decides nothing
  that the evaluations have not decided.
- `exposures_get`: the exposure of a market is the sum of all its rows, each counted once.
- `risk_gate_exact`: the gate approves exactly the orders that meet every limit (`WithinLimits`).
- `negative_zero_rejected`: a drawdown of -0 is rejected as negative.
-/
import SeeMirai.Execution.Evidence
import SeeMirai.Lib.InsertionMap

namespace SeeMirai.Risk

open Fallible Execution

/-! ## Evaluations -/

inductive RiskEvaluationStatus where
  | pass
  | fail
  | warn
deriving DecidableEq, Repr

inductive RiskEventSeverity where
  | info
  | warn
  | blocking
  | critical
deriving DecidableEq, Repr

inductive RiskBlockAction where
  | allow
  | blockNewOrder
  | pauseStrategy
  | hardStop
  | manualReviewRequired
deriving DecidableEq, Repr

structure RiskGateEvaluation where
  status : RiskEvaluationStatus
  reasonCode : String
  message : String
  severity : RiskEventSeverity
  action : RiskBlockAction
  /-- `metadata.field_name`, where a read failed -/
  fieldName : Option String
deriving DecidableEq, Repr

def pass (reasonCode message : String) : RiskGateEvaluation := ⟨.pass, reasonCode, message, .info, .allow, none⟩

def warn (reasonCode message : String) : RiskGateEvaluation := ⟨.warn, reasonCode, message, .warn, .allow, none⟩

/-- the actions that `fail` takes -/
inductive FailAction where
  | blockNewOrder
  | pauseStrategy
  | hardStop
  | manualReviewRequired
deriving DecidableEq, Repr

def FailAction.action : FailAction → RiskBlockAction
  | blockNewOrder => .blockNewOrder
  | pauseStrategy => .pauseStrategy
  | hardStop => .hardStop
  | manualReviewRequired => .manualReviewRequired

def failSeverity (action : RiskBlockAction) : RiskEventSeverity :=
  if action = .hardStop ∨ action = .manualReviewRequired then .critical else .blocking

def fail (reasonCode message : String) (action : FailAction) : RiskGateEvaluation :=
  ⟨.fail, reasonCode, message, failSeverity action.action, action.action, none⟩

/-! ## Thresholds -/

structure RiskLimitThresholds where
  dailyLossLimitBps : String
  weeklyLossLimitBps : String
  maxDrawdownBps : String
  maxOrderNotionalBpsOfEquity : String
  maxExpectedLossBpsOfEquity : String
  btcEthMaxPositionBpsOfEquity : String
  altMaxPositionBpsOfEquity : String
  totalAltMaxPositionBpsOfEquity : String
  /-- a finite number -/
  maxConsecutiveStrategyLosses : ℚ
deriving DecidableEq

def defaultRiskLimitThresholds : RiskLimitThresholds where
  dailyLossLimitBps := "100"
  weeklyLossLimitBps := "300"
  maxDrawdownBps := "500"
  maxOrderNotionalBpsOfEquity := "100"
  maxExpectedLossBpsOfEquity := "20"
  btcEthMaxPositionBpsOfEquity := "2000"
  altMaxPositionBpsOfEquity := "500"
  totalAltMaxPositionBpsOfEquity := "1500"
  maxConsecutiveStrategyLosses := 3

structure ParsedThresholds where
  dailyLossLimitBps : ℚ
  weeklyLossLimitBps : ℚ
  maxDrawdownBps : ℚ
  maxOrderNotionalBpsOfEquity : ℚ
  maxExpectedLossBpsOfEquity : ℚ
  btcEthMaxPositionBpsOfEquity : ℚ
  altMaxPositionBpsOfEquity : ℚ
  totalAltMaxPositionBpsOfEquity : ℚ
  maxConsecutiveStrategyLosses : ℚ
deriving DecidableEq

/-! ## The context -/

structure AccountRiskSnapshot where
  equityKrw : String
  dailyRealizedPnlBps : String
  weeklyRealizedPnlBps : String
  maxDrawdownBps : String
deriving DecidableEq, Repr

structure PositionRiskSnapshot where
  market : String
  notionalBpsOfEquity : String
deriving DecidableEq, Repr

structure StrategyRiskSnapshot where
  strategyId : String
  /-- `none` for NaN and the infinities -/
  consecutiveLosses : Option ℚ
deriving DecidableEq

inductive InfrastructureRiskSignal where
  | staleMarketData
  | websocketDisconnected
  | websocketReconnecting
  | dbWriteFailure
  | duplicateOrderIdempotencyKey
  | balancePositionMismatch
  | notificationFailure
deriving DecidableEq, Repr

structure RiskGateContext where
  orderIntent : ExecutionIntent
  account : AccountRiskSnapshot
  positions : List PositionRiskSnapshot
  strategy : StrategyRiskSnapshot
  infrastructureSignals : List InfrastructureRiskSignal
  thresholds : RiskLimitThresholds
  expectedLossBpsOfEquity : Option String

structure RiskGateResult where
  status : RiskEvaluationStatus
  approved : Bool
  action : RiskBlockAction
  evaluations : List RiskGateEvaluation
  failedEvaluations : List RiskGateEvaluation
  warningEvaluations : List RiskGateEvaluation
deriving DecidableEq, Repr

/-! ## Results -/

def actionPriority : RiskBlockAction → ℕ
  | .allow => 0
  | .pauseStrategy => 1
  | .blockNewOrder => 2
  | .manualReviewRequired => 3
  | .hardStop => 4

/-- the later action where it is the stronger one -/
def dominantAction (selected action : RiskBlockAction) : RiskBlockAction :=
  if actionPriority selected < actionPriority action then action else selected

def selectMostRestrictiveAction (evaluations : List RiskGateEvaluation) : RiskBlockAction :=
  evaluations.foldl (fun selected evaluation => dominantAction selected evaluation.action) .allow

def createRiskGateResult (evaluations : List RiskGateEvaluation) : RiskGateResult :=
  let failedEvaluations := evaluations.filter (fun evaluation => evaluation.status = .fail)
  let warningEvaluations := evaluations.filter (fun evaluation => evaluation.status = .warn)
  let action := selectMostRestrictiveAction evaluations
  { status := if failedEvaluations ≠ [] then .fail else if warningEvaluations ≠ [] then .warn else .pass
    approved := failedEvaluations = [] ∧ action = .allow
    action := action
    evaluations := evaluations
    failedEvaluations := failedEvaluations
    warningEvaluations := warningEvaluations }

/-! ## Infrastructure and streak -/

def evaluateInfrastructureSignal : InfrastructureRiskSignal → RiskGateEvaluation
  | .staleMarketData => fail "stale_market_data" "Stale market data blocks new orders" .blockNewOrder
  | .websocketDisconnected => fail "websocket_disconnected" "Disconnected WebSocket blocks new orders" .blockNewOrder
  | .websocketReconnecting => fail "websocket_reconnecting" "Reconnecting WebSocket blocks new orders" .blockNewOrder
  | .dbWriteFailure => fail "db_write_failure" "Database write failure triggers hard stop" .hardStop
  | .duplicateOrderIdempotencyKey =>
    fail "duplicate_order_idempotency_key" "Duplicate order idempotency key triggers hard stop" .hardStop
  | .balancePositionMismatch =>
    fail "balance_position_mismatch" "Balance/position mismatch requires manual review" .manualReviewRequired
  | .notificationFailure =>
    warn "notification_failure" "Notification failure is audited but does not block RiskGate approval"

def evaluateInfrastructureSignals (signals : List InfrastructureRiskSignal) : List RiskGateEvaluation :=
  if signals = [] then [pass "infrastructure_signals_clear" "No infrastructure risk signal is active"]
  else signals.map evaluateInfrastructureSignal

/-- `Number.isSafeInteger` -/
def isSafeInteger (n : ℚ) : Bool := n.den = 1 ∧ |n| ≤ 9007199254740991

def evaluateConsecutiveStrategyLosses (context : RiskGateContext) (thresholds : ParsedThresholds) : RiskGateEvaluation :=
  if context.strategy.strategyId ≠ context.orderIntent.strategyId then
    fail "strategy_snapshot_mismatch" "Strategy risk snapshot must match the order intent strategy" .manualReviewRequired
  else
    match context.strategy.consecutiveLosses with
    | none => invalid
    | some losses =>
      if isSafeInteger losses = false ∨ losses < 0 then invalid
      else if thresholds.maxConsecutiveStrategyLosses ≤ losses then
        fail "consecutive_strategy_loss_limit_exceeded" "Consecutive strategy loss limit is reached" .pauseStrategy
      else pass "consecutive_strategy_loss_limit_clear" "Consecutive strategy loss limit is clear"
where
  invalid : RiskGateEvaluation :=
    fail "consecutive_strategy_losses_invalid" "Consecutive strategy losses must be a non-negative safe integer"
      .manualReviewRequired

section Host

variable [Host]

/-! ## Reading -/

def parseNonNegativeThreshold (value fieldName : String) : Except Thrown ℚ := do
  let decimal ← parseDec value
  if decimal.isNegative then throw ⟨"Error", fieldName ++ " must not be negative"⟩ else pure decimal.value

def parseThresholds (thresholds : RiskLimitThresholds) : Except Thrown ParsedThresholds := do
  let dailyLossLimitBps ← parseNonNegativeThreshold thresholds.dailyLossLimitBps "daily_loss_limit_bps"
  let weeklyLossLimitBps ← parseNonNegativeThreshold thresholds.weeklyLossLimitBps "weekly_loss_limit_bps"
  let maxDrawdownBps ← parseNonNegativeThreshold thresholds.maxDrawdownBps "max_drawdown_bps"
  let maxOrderNotionalBpsOfEquity ←
    parseNonNegativeThreshold thresholds.maxOrderNotionalBpsOfEquity "max_order_notional_bps_of_equity"
  let maxExpectedLossBpsOfEquity ←
    parseNonNegativeThreshold thresholds.maxExpectedLossBpsOfEquity "max_expected_loss_bps_of_equity"
  let btcEthMaxPositionBpsOfEquity ←
    parseNonNegativeThreshold thresholds.btcEthMaxPositionBpsOfEquity "btc_eth_max_position_bps_of_equity"
  let altMaxPositionBpsOfEquity ←
    parseNonNegativeThreshold thresholds.altMaxPositionBpsOfEquity "alt_max_position_bps_of_equity"
  let totalAltMaxPositionBpsOfEquity ←
    parseNonNegativeThreshold thresholds.totalAltMaxPositionBpsOfEquity "total_alt_max_position_bps_of_equity"
  pure
    { dailyLossLimitBps, weeklyLossLimitBps, maxDrawdownBps, maxOrderNotionalBpsOfEquity, maxExpectedLossBpsOfEquity,
      btcEthMaxPositionBpsOfEquity, altMaxPositionBpsOfEquity, totalAltMaxPositionBpsOfEquity,
      maxConsecutiveStrategyLosses := thresholds.maxConsecutiveStrategyLosses }

/-- what a failed read is reported with -/
structure ReadError where
  fieldName : String
  reasonCode : String
  message : String

def ReadError.evaluation (error : ReadError) : RiskGateEvaluation :=
  { fail error.reasonCode error.message .manualReviewRequired with fieldName := some error.fieldName }

/-- only texts are read; a number, or anything else, is refused as a text that is no decimal is -/
def readDecimal (value : JsValue) (error : ReadError) : Except RiskGateEvaluation Dec :=
  match value.asString with
  | none => throw error.evaluation
  | some text =>
    match Host.decimal text with
    | .finite d => pure d
    | _ => throw error.evaluation

def readNonNegativeDecimal (value : JsValue) (error : ReadError) : Except RiskGateEvaluation Dec := do
  let d ← readDecimal value error
  if d.isNegative then throw error.evaluation else pure d

def readPositiveDecimal (value : JsValue) (error : ReadError) : Except RiskGateEvaluation Dec := do
  let d ← readNonNegativeDecimal value error
  if d.value = 0 then throw error.evaluation else pure d

/-- the evaluation of a failed read, or nothing -/
def readEvaluation {α : Type} : Except RiskGateEvaluation α → List RiskGateEvaluation
  | .error evaluation => [evaluation]
  | .ok _ => []

/-- what is pushed where the value was read -/
def whenRead {α : Type} (read : Except RiskGateEvaluation α) (evaluate : α → RiskGateEvaluation) :
    List RiskGateEvaluation :=
  match read with
  | .error _ => []
  | .ok value => [evaluate value]

/-! ## Policies -/

def evaluateLossLimits (context : RiskGateContext) (thresholds : ParsedThresholds) : List RiskGateEvaluation :=
  let dailyLossBps := readDecimal (.string context.account.dailyRealizedPnlBps)
    ⟨"account.daily_realized_pnl_bps", "daily_loss_bps_invalid", "Daily realized PnL bps must be a finite decimal string"⟩
  let weeklyLossBps := readDecimal (.string context.account.weeklyRealizedPnlBps)
    ⟨"account.weekly_realized_pnl_bps", "weekly_loss_bps_invalid",
      "Weekly realized PnL bps must be a finite decimal string"⟩
  let maxDrawdownBps := readNonNegativeDecimal (.string context.account.maxDrawdownBps)
    ⟨"account.max_drawdown_bps", "max_drawdown_bps_invalid", "Max drawdown bps must be a non-negative decimal string"⟩
  readEvaluation dailyLossBps ++ readEvaluation weeklyLossBps ++ readEvaluation maxDrawdownBps ++
  whenRead dailyLossBps (fun value =>
    if value.value ≤ -thresholds.dailyLossLimitBps then
      fail "daily_loss_limit_exceeded" "Daily loss limit is reached" .blockNewOrder
    else pass "daily_loss_limit_clear" "Daily loss limit is clear") ++
  whenRead weeklyLossBps (fun value =>
    if value.value ≤ -thresholds.weeklyLossLimitBps then
      fail "weekly_loss_limit_exceeded" "Weekly loss limit is reached" .blockNewOrder
    else pass "weekly_loss_limit_clear" "Weekly loss limit is clear") ++
  whenRead maxDrawdownBps (fun value =>
    if thresholds.maxDrawdownBps ≤ value.value then
      fail "max_drawdown_limit_exceeded" "Max drawdown limit is reached" .blockNewOrder
    else pass "max_drawdown_limit_clear" "Max drawdown limit is clear")

def evaluateOrderNotionalLimit (thresholds : ParsedThresholds) (orderNotionalBps : ℚ) : RiskGateEvaluation :=
  if thresholds.maxOrderNotionalBpsOfEquity < orderNotionalBps then
    fail "order_notional_limit_exceeded" "Order notional exceeds the account equity limit" .blockNewOrder
  else pass "order_notional_limit_clear" "Order notional is within the account equity limit"

/-- a LIMIT order's notional is its price times its quantity -/
def readCanonicalOrderNotional (orderIntent : ExecutionIntent) (requestedNotional : ℚ) : Except RiskGateEvaluation ℚ :=
  match orderIntent.terms with
  | .market => pure requestedNotional
  | .limit price _ _ => do
    let requestedPrice ← readPositiveDecimal (.string price)
      ⟨"order_intent.requested_price", "order_price_invalid",
        "Limit order requested price must be a positive decimal string"⟩
    let requestedQuantity ← readPositiveDecimal (.string orderIntent.requestedQuantity)
      ⟨"order_intent.requested_quantity", "order_quantity_invalid",
        "Limit order requested quantity must be a positive decimal string"⟩
    if requestedPrice.value * requestedQuantity.value ≠ requestedNotional then
      throw (fail "order_notional_mismatch" "Limit order requested notional must equal price multiplied by quantity"
        .blockNewOrder)
    else pure (requestedPrice.value * requestedQuantity.value)

def calculateOrderNotionalBps (orderIntent : ExecutionIntent) (equityKrw : ℚ) : Except RiskGateEvaluation ℚ := do
  let requestedNotional ← readPositiveDecimal (.string orderIntent.requestedNotional)
    ⟨"order_intent.requested_notional", "order_notional_invalid",
      "Order requested notional must be a positive decimal string"⟩
  let canonicalNotional ← readCanonicalOrderNotional orderIntent requestedNotional.value
  pure (canonicalNotional / equityKrw * 10000)

/-- the part after the last dash, in upper case -/
def getBaseAsset (market : String) : String :=
  Host.toUpperCase (String.ofList (market.toList.reverse.takeWhile (· ≠ '-')).reverse)

def isBtcOrEthMarket (market : String) : Bool := getBaseAsset market = "BTC" ∨ getBaseAsset market = "ETH"

def isAltMarket (market : String) : Bool := !isBtcOrEthMarket market

def readPositionBps (position : PositionRiskSnapshot) : Except RiskGateEvaluation Dec :=
  readNonNegativeDecimal (.string position.notionalBpsOfEquity)
    ⟨"position.notional_bps_of_equity", "position_notional_bps_invalid",
      "Position notional bps must be a non-negative decimal string"⟩

/-- one row added to its market; a row that did not read is passed over -/
def addExposure (exposures : InsertionMap String ℚ) (position : PositionRiskSnapshot) : InsertionMap String ℚ :=
  match readPositionBps position with
  | .error _ => exposures
  | .ok value => exposures.set position.market ((exposures.get position.market).getD 0 + value.value)

def createCurrentExposureByMarket (positions : List PositionRiskSnapshot) : InsertionMap String ℚ :=
  positions.foldl addExposure InsertionMap.empty

/-- a SELL takes no more away than there is -/
def calculateCandidateExposureDeltaBps (side : OrderSide) (orderNotionalBps currentTargetExposureBps : ℚ) : ℚ :=
  match side with
  | .buy => orderNotionalBps
  | .sell => -(min orderNotionalBps currentTargetExposureBps)

def clampAtZero (value : ℚ) : ℚ := if value < 0 then 0 else value

/-- the exposures with the order done, in the order of the map -/
def createProjectedExposures (context : RiskGateContext) (orderNotionalBps : ℚ) : List (String × ℚ) :=
  let targetMarket := context.orderIntent.market
  let currentExposureByMarket := createCurrentExposureByMarket context.positions
  let currentTargetExposureBps := (currentExposureByMarket.get targetMarket).getD 0
  let candidateExposureDeltaBps :=
    calculateCandidateExposureDeltaBps context.orderIntent.side orderNotionalBps currentTargetExposureBps
  (currentExposureByMarket.set targetMarket (clampAtZero (currentTargetExposureBps + candidateExposureDeltaBps))).entries

def evaluateBtcEthExposureLimit (thresholds : ParsedThresholds) (projectedExposures : List (String × ℚ))
    (targetMarket : String) : List RiskGateEvaluation :=
  let breaches := projectedExposures.filter (fun exposure =>
    isBtcOrEthMarket exposure.1 ∧ thresholds.btcEthMaxPositionBpsOfEquity < exposure.2)
  if breaches ≠ [] then
    [fail "btc_eth_position_limit_exceeded" "BTC/ETH position exposure exceeds the configured limit" .blockNewOrder]
  else if isBtcOrEthMarket targetMarket then
    [pass "btc_eth_position_limit_clear" "BTC/ETH position exposure is within the configured limit"]
  else []

def evaluateAltExposureLimits (thresholds : ParsedThresholds) (projectedExposures : List (String × ℚ))
    (targetMarket : String) : List RiskGateEvaluation :=
  let singleAltBreaches := projectedExposures.filter (fun exposure =>
    isAltMarket exposure.1 ∧ thresholds.altMaxPositionBpsOfEquity < exposure.2)
  let projectedTotalAltExposureBps :=
    projectedExposures.foldl (fun sum exposure => if isAltMarket exposure.1 then sum + exposure.2 else sum) 0
  (if singleAltBreaches ≠ [] then
    [fail "single_alt_position_limit_exceeded" "Single alt position exposure exceeds the configured limit" .blockNewOrder]
  else if isAltMarket targetMarket then
    [pass "single_alt_position_limit_clear" "Single alt position exposure is within the configured limit"]
  else []) ++
  [if thresholds.totalAltMaxPositionBpsOfEquity < projectedTotalAltExposureBps then
    fail "total_alt_position_limit_exceeded" "Total alt position exposure exceeds the configured limit" .blockNewOrder
  else pass "total_alt_position_limit_clear" "Total alt position exposure is within the configured limit"]

/-- a row that does not read ends the evaluation of exposures -/
def evaluatePositionExposureLimits (context : RiskGateContext) (thresholds : ParsedThresholds) (orderNotionalBps : ℚ) :
    List RiskGateEvaluation :=
  let invalidPositionEvaluations := context.positions.flatMap (fun position => readEvaluation (readPositionBps position))
  if invalidPositionEvaluations ≠ [] then invalidPositionEvaluations
  else
    let projectedExposures := createProjectedExposures context orderNotionalBps
    evaluateBtcEthExposureLimit thresholds projectedExposures context.orderIntent.market ++
      evaluateAltExposureLimits thresholds projectedExposures context.orderIntent.market

omit [Host] in
/-- `left ?? right` -/
def orElse (left right : JsValue) : JsValue :=
  match left with
  | .undefined => right
  | .null => right
  | value => value

omit [Host] in
/-- the context's own value, else the metadata's under either name -/
def expectedLossValue (context : RiskGateContext) : JsValue :=
  orElse (.ofString context.expectedLossBpsOfEquity)
    (orElse (context.orderIntent.metadata.prop "expected_loss_bps_of_equity")
      (context.orderIntent.metadata.prop "expectedLossBpsOfEquity"))

/-- `none` where there is no expected loss -/
def readExpectedLossBpsOfEquity (context : RiskGateContext) : Option (Except RiskGateEvaluation Dec) :=
  match expectedLossValue context with
  | .undefined => none
  | .null => none
  | value => some (readNonNegativeDecimal value
      ⟨"risk_gate.expected_loss_bps_of_equity", "expected_loss_bps_invalid",
        "Expected loss bps must be a non-negative decimal string"⟩)

def evaluateExpectedLossLimit (context : RiskGateContext) (thresholds : ParsedThresholds) : RiskGateEvaluation :=
  match readExpectedLossBpsOfEquity context with
  | none => fail "expected_loss_missing" "Expected loss bps is required before RiskGate approval" .blockNewOrder
  | some (.error evaluation) => evaluation
  | some (.ok value) =>
    if thresholds.maxExpectedLossBpsOfEquity < value.value then
      fail "expected_loss_limit_exceeded" "Expected loss exceeds the account equity limit" .blockNewOrder
    else pass "expected_loss_limit_clear" "Expected loss is within the account equity limit"

/-! ## The gate -/

def readEquity (context : RiskGateContext) : Except RiskGateEvaluation Dec :=
  readPositiveDecimal (.string context.account.equityKrw)
    ⟨"account.equity_krw", "account_equity_invalid",
      "Account equity must be greater than zero before RiskGate evaluation"⟩

/-- what depends on the equity: nothing of it is evaluated where the equity does not read -/
def evaluateOrder (context : RiskGateContext) (thresholds : ParsedThresholds) : List RiskGateEvaluation :=
  match readEquity context with
  | .error evaluation => [evaluation]
  | .ok equity =>
    match calculateOrderNotionalBps context.orderIntent equity.value with
    | .error evaluation => [evaluation]
    | .ok orderNotionalBps => evaluateOrderNotionalLimit thresholds orderNotionalBps ::
        evaluatePositionExposureLimits context thresholds orderNotionalBps

def gateEvaluations (context : RiskGateContext) (thresholds : ParsedThresholds) : List RiskGateEvaluation :=
  evaluateLossLimits context thresholds ++ evaluateOrder context thresholds ++
    [evaluateExpectedLossLimit context thresholds, evaluateConsecutiveStrategyLosses context thresholds] ++
    evaluateInfrastructureSignals context.infrastructureSignals

def evaluateRiskGate (context : RiskGateContext) : Except Thrown RiskGateResult := do
  let thresholds ← parseThresholds context.thresholds
  pure (createRiskGateResult (gateEvaluations context thresholds))

/-! ## Clear evaluations -/

omit [Host] in
/-- none of the evaluations fails -/
def Clear (evaluations : List RiskGateEvaluation) : Prop := ∀ evaluation ∈ evaluations, evaluation.status ≠ .fail

omit [Host] in
@[simp] theorem clear_nil : Clear [] := by simp [Clear]

omit [Host] in
@[simp] theorem clear_cons {evaluation : RiskGateEvaluation} {rest : List RiskGateEvaluation} :
    Clear (evaluation :: rest) ↔ evaluation.status ≠ .fail ∧ Clear rest := by
  simp [Clear]

omit [Host] in
@[simp] theorem clear_append {left right : List RiskGateEvaluation} : Clear (left ++ right) ↔ Clear left ∧ Clear right := by
  simp [Clear, or_imp, forall_and]

omit [Host] in
@[simp] theorem pass_status (reasonCode message : String) : (pass reasonCode message).status = .pass := rfl

omit [Host] in
@[simp] theorem warn_status (reasonCode message : String) : (warn reasonCode message).status = .warn := rfl

omit [Host] in
@[simp] theorem fail_status (reasonCode message : String) (action : FailAction) :
    (fail reasonCode message action).status = .fail := rfl

omit [Host] in
@[simp] theorem readError_status (error : ReadError) : error.evaluation.status = .fail := rfl

omit [Host] in
theorem ite_clear {p : Prop} [Decidable p] {reasonCode message reasonCode' message' : String} {action : FailAction} :
    (if p then fail reasonCode message action else pass reasonCode' message').status ≠ .fail ↔ ¬ p := by
  split_ifs with h
  · simp [h]
  · simp [h]

/-! ## What is read -/

theorem readDecimal_ok {text : String} {error : ReadError} {d : Dec} :
    readDecimal (.string text) error = .ok d ↔ Host.decimal text = .finite d := by
  unfold readDecimal
  simp only [JsValue.asString]
  split
  · rename_i d' hd'
    simp [hd']
  · rename_i hread
    exact ⟨fun h => absurd h throw_ne_ok, fun h => absurd h (hread d)⟩

theorem readNonNegativeDecimal_ok {text : String} {error : ReadError} {d : Dec} :
    readNonNegativeDecimal (.string text) error = .ok d ↔ Host.decimal text = .finite d ∧ d.isNegative = false := by
  unfold readNonNegativeDecimal
  simp only [bind_eq_ok, readDecimal_ok]
  constructor
  · rintro ⟨d', hd', h⟩
    split at h
    · cases h
    · rename_i hsign
      obtain rfl := pure_eq_ok.1 h
      exact ⟨hd', by simpa using hsign⟩
  · rintro ⟨hd, hsign⟩
    exact ⟨d, hd, by simp [hsign]⟩

omit [Host] in
theorem dec_pos_iff {d : Dec} : d.isNegative = false ∧ d.value ≠ 0 ↔ 0 < d.value := by
  constructor
  · rintro ⟨hsign, hne⟩
    exact lt_of_le_of_ne (Dec.value_nonneg hsign) (Ne.symm hne)
  · intro hpos
    refine ⟨?_, hpos.ne'⟩
    by_contra hsign
    have hle := d.sign
    rw [Bool.not_eq_false] at hsign
    rw [if_pos hsign] at hle
    exact absurd hpos (not_lt.2 hle)

theorem readPositiveDecimal_ok {text : String} {error : ReadError} {d : Dec} :
    readPositiveDecimal (.string text) error = .ok d ↔ Host.decimal text = .finite d ∧ 0 < d.value := by
  unfold readPositiveDecimal
  simp only [bind_eq_ok, readNonNegativeDecimal_ok]
  constructor
  · rintro ⟨d', ⟨hd', hsign⟩, h⟩
    split at h
    · cases h
    · rename_i hzero
      obtain rfl := pure_eq_ok.1 h
      exact ⟨hd', dec_pos_iff.1 ⟨hsign, hzero⟩⟩
  · rintro ⟨hd, hpos⟩
    obtain ⟨hsign, hzero⟩ := dec_pos_iff.2 hpos
    exact ⟨d, ⟨hd, hsign⟩, by simp [hzero]⟩

/-- a value that is no text is refused -/
theorem readNonNegativeDecimal_text {value : JsValue} {error : ReadError} {d : Dec}
    (h : readNonNegativeDecimal value error = .ok d) : ∃ text, value = .string text := by
  obtain ⟨d', hd', -⟩ := bind_eq_ok.1 h
  unfold readDecimal at hd'
  split at hd'
  · cases hd'
  · rename_i text htext
    exact ⟨text, JsValue.asString_eq_some.1 htext⟩

omit [Host] in
/-- the evaluation fails, and does not allow -/
def Fails (evaluation : RiskGateEvaluation) : Prop := evaluation.status = .fail ∧ evaluation.action ≠ .allow

omit [Host] in
theorem fail_fails (reasonCode message : String) (action : FailAction) : Fails (fail reasonCode message action) := by
  refine ⟨rfl, ?_⟩
  cases action <;> exact nofun

omit [Host] in
theorem readError_fails (error : ReadError) : Fails error.evaluation := ⟨rfl, nofun⟩

omit [Host] in
/-- the computation ends with a value or with an evaluation that fails -/
def ReadsOrFails {α : Type} (read : Except RiskGateEvaluation α) : Prop :=
  ∀ evaluation, read = .error evaluation → Fails evaluation

omit [Host] in
theorem ReadsOrFails.pure {α : Type} (a : α) : ReadsOrFails (Pure.pure a : Except RiskGateEvaluation α) := nofun

omit [Host] in
theorem ReadsOrFails.throw {α : Type} {evaluation : RiskGateEvaluation} (h : Fails evaluation) :
    ReadsOrFails (MonadExcept.throw evaluation : Except RiskGateEvaluation α) := by
  intro evaluation' h'
  cases h'
  exact h

omit [Host] in
theorem ReadsOrFails.bind {α β : Type} {read : Except RiskGateEvaluation α} {next : α → Except RiskGateEvaluation β}
    (h : ReadsOrFails read) (hnext : ∀ a, ReadsOrFails (next a)) : ReadsOrFails (read >>= next) := by
  cases read with
  | error evaluation => exact fun evaluation' h' => h evaluation' (by simpa using h')
  | ok a => exact hnext a

theorem readDecimal_readsOrFails (value : JsValue) (error : ReadError) : ReadsOrFails (readDecimal value error) := by
  unfold readDecimal
  split
  · exact ReadsOrFails.throw (readError_fails error)
  · split
    · exact ReadsOrFails.pure _
    · exact ReadsOrFails.throw (readError_fails error)

theorem readNonNegativeDecimal_readsOrFails (value : JsValue) (error : ReadError) :
    ReadsOrFails (readNonNegativeDecimal value error) := by
  refine (readDecimal_readsOrFails value error).bind fun d => ?_
  split
  · exact ReadsOrFails.throw (readError_fails error)
  · exact ReadsOrFails.pure _

theorem readPositiveDecimal_readsOrFails (value : JsValue) (error : ReadError) :
    ReadsOrFails (readPositiveDecimal value error) := by
  refine (readNonNegativeDecimal_readsOrFails value error).bind fun d => ?_
  split
  · exact ReadsOrFails.throw (readError_fails error)
  · exact ReadsOrFails.pure _

omit [Host] in
theorem clear_readEvaluation {α : Type} {read : Except RiskGateEvaluation α} (h : ReadsOrFails read) :
    Clear (readEvaluation read) ↔ ∃ a, read = .ok a := by
  cases read with
  | error evaluation => simp [readEvaluation, (h evaluation rfl).1]
  | ok a => simp [readEvaluation]

omit [Host] in
/-- a value that is read and then checked -/
theorem clear_checked {α : Type} {read : Except RiskGateEvaluation α} (h : ReadsOrFails read)
    {evaluate : α → RiskGateEvaluation} :
    Clear (readEvaluation read) ∧ Clear (whenRead read evaluate) ↔
      ∃ a, read = .ok a ∧ (evaluate a).status ≠ .fail := by
  cases read with
  | error evaluation => simp [readEvaluation, (h evaluation rfl).1]
  | ok a => simp [readEvaluation, whenRead]

/-! ## Limits -/

/-- the text reads as a number that is not negative, with the sign that decimal.js keeps: -0 is negative -/
def NonNegativeBySign (text : String) (q : ℚ) : Prop :=
  ∃ d, Host.decimal text = .finite d ∧ d.isNegative = false ∧ d.value = q

/-- the text reads as a number that is not negative -/
def NonNegativeByValue (text : String) (q : ℚ) : Prop := Host.valueOf text = some q ∧ 0 ≤ q

def PositiveText (text : String) (q : ℚ) : Prop := Host.valueOf text = some q ∧ 0 < q

/-- the rows of a market, each counted once -/
def exposure (positions : List PositionRiskSnapshot) (market : String) : ℚ :=
  ((positions.filter (fun position => position.market = market)).map
    (fun position => (Host.valueOf position.notionalBpsOfEquity).getD 0)).sum

/-- the exposure with the order done; a SELL leaves nothing below zero -/
def projectedExposure (context : RiskGateContext) (orderNotionalBps : ℚ) (market : String) : ℚ :=
  if market = context.orderIntent.market then
    match context.orderIntent.side with
    | .buy => exposure context.positions market + orderNotionalBps
    | .sell => max 0 (exposure context.positions market - orderNotionalBps)
  else exposure context.positions market

/-- the alt markets that have a row or the order -/
def altMarkets (context : RiskGateContext) : Finset String :=
  (context.orderIntent.market :: context.positions.map PositionRiskSnapshot.market).toFinset.filter (isAltMarket · = true)

/-- the limits on the exposures, with `nonNegative` for how a row reads -/
structure ExposuresWithin (nonNegative : String → ℚ → Prop) (context : RiskGateContext) (limits : ParsedThresholds)
    (orderNotionalBps : ℚ) : Prop where
  rows : ∀ position ∈ context.positions, ∃ q, nonNegative position.notionalBpsOfEquity q
  markets : ∀ market, projectedExposure context orderNotionalBps market ≤
    if isBtcOrEthMarket market then limits.btcEthMaxPositionBpsOfEquity else limits.altMaxPositionBpsOfEquity
  totalAlt : ∑ market ∈ altMarkets context, projectedExposure context orderNotionalBps market ≤
    limits.totalAltMaxPositionBpsOfEquity

/-- the notional of a LIMIT order is the product of two positive numbers -/
def LimitNotional (intent : ExecutionIntent) (notional : ℚ) : Prop :=
  ∀ priceText, intent.terms.requestedPrice = some priceText → ∃ price quantity, PositiveText priceText price ∧
    PositiveText intent.requestedQuantity quantity ∧ price * quantity = notional

/-- everything that the gate requires of an order -/
structure WithinLimits (nonNegative : String → ℚ → Prop) (context : RiskGateContext) (limits : ParsedThresholds) :
    Prop where
  daily : ∃ pnl, Host.valueOf context.account.dailyRealizedPnlBps = some pnl ∧ -limits.dailyLossLimitBps < pnl
  weekly : ∃ pnl, Host.valueOf context.account.weeklyRealizedPnlBps = some pnl ∧ -limits.weeklyLossLimitBps < pnl
  drawdown : ∃ drawdown, nonNegative context.account.maxDrawdownBps drawdown ∧ drawdown < limits.maxDrawdownBps
  order : ∃ equity notional, PositiveText context.account.equityKrw equity ∧
    PositiveText context.orderIntent.requestedNotional notional ∧ LimitNotional context.orderIntent notional ∧
    notional * 10000 ≤ limits.maxOrderNotionalBpsOfEquity * equity ∧
    ExposuresWithin nonNegative context limits (notional / equity * 10000)
  expectedLoss : ∃ text loss, expectedLossValue context = .string text ∧ nonNegative text loss ∧
    loss ≤ limits.maxExpectedLossBpsOfEquity
  strategy : context.strategy.strategyId = context.orderIntent.strategyId
  streak : ∃ losses : ℕ, context.strategy.consecutiveLosses = some (losses : ℚ) ∧ losses ≤ 9007199254740991 ∧
    (losses : ℚ) < limits.maxConsecutiveStrategyLosses
  infrastructure : ∀ signal ∈ context.infrastructureSignals, signal = .notificationFailure

/-! ## Policies and their limits -/

theorem finite_iff_valueOf {text : String} {q : ℚ} :
    (∃ d, Host.decimal text = .finite d ∧ d.value = q) ↔ Host.valueOf text = some q := by
  unfold Host.valueOf
  cases Host.decimal text with
  | invalid => simp
  | nonFinite => simp
  | finite d => simp

theorem lossRead_clear {text reasonCode message reasonCode' message' : String} {error : ReadError} {limit : ℚ}
    {action : FailAction} :
    Clear (readEvaluation (readDecimal (.string text) error)) ∧ Clear (whenRead (readDecimal (.string text) error)
      (fun value => if value.value ≤ -limit then fail reasonCode message action else pass reasonCode' message')) ↔
      ∃ pnl, Host.valueOf text = some pnl ∧ -limit < pnl := by
  simp only [clear_checked (readDecimal_readsOrFails _ _), readDecimal_ok, ite_clear, not_le, ← finite_iff_valueOf]
  constructor
  · rintro ⟨value, hvalue, hlt⟩
    exact ⟨value.value, ⟨value, hvalue, rfl⟩, hlt⟩
  · rintro ⟨pnl, ⟨value, hvalue, rfl⟩, hlt⟩
    exact ⟨value, hvalue, hlt⟩

theorem evaluateLossLimits_clear {context : RiskGateContext} {limits : ParsedThresholds} :
    Clear (evaluateLossLimits context limits) ↔
      (∃ pnl, Host.valueOf context.account.dailyRealizedPnlBps = some pnl ∧ -limits.dailyLossLimitBps < pnl) ∧
      (∃ pnl, Host.valueOf context.account.weeklyRealizedPnlBps = some pnl ∧ -limits.weeklyLossLimitBps < pnl) ∧
      ∃ drawdown, NonNegativeBySign context.account.maxDrawdownBps drawdown ∧ drawdown < limits.maxDrawdownBps := by
  have hdrawdown : ∀ {error : ReadError} {a b c d : String} {action : FailAction},
      Clear (readEvaluation (readNonNegativeDecimal (.string context.account.maxDrawdownBps) error)) ∧
        Clear (whenRead (readNonNegativeDecimal (.string context.account.maxDrawdownBps) error)
          (fun value => if limits.maxDrawdownBps ≤ value.value then fail a b action else pass c d)) ↔
      ∃ drawdown, NonNegativeBySign context.account.maxDrawdownBps drawdown ∧ drawdown < limits.maxDrawdownBps := by
    intro error a b c d action
    simp only [clear_checked (readNonNegativeDecimal_readsOrFails _ _), readNonNegativeDecimal_ok, ite_clear, not_le]
    constructor
    · rintro ⟨value, ⟨hvalue, hsign⟩, hlt⟩
      exact ⟨value.value, ⟨value, hvalue, hsign, rfl⟩, hlt⟩
    · rintro ⟨drawdown, ⟨value, hvalue, hsign, rfl⟩, hlt⟩
      exact ⟨value, ⟨hvalue, hsign⟩, hlt⟩
  unfold evaluateLossLimits
  simp only [clear_append]
  constructor
  · rintro ⟨⟨⟨⟨⟨hd, hw⟩, hm⟩, hd'⟩, hw'⟩, hm'⟩
    exact ⟨lossRead_clear.1 ⟨hd, hd'⟩, lossRead_clear.1 ⟨hw, hw'⟩, hdrawdown.1 ⟨hm, hm'⟩⟩
  · rintro ⟨hdaily, hweekly, hmax⟩
    obtain ⟨hd, hd'⟩ := lossRead_clear.2 hdaily
    obtain ⟨hw, hw'⟩ := lossRead_clear.2 hweekly
    obtain ⟨hm, hm'⟩ := hdrawdown.2 hmax
    exact ⟨⟨⟨⟨⟨hd, hw⟩, hm⟩, hd'⟩, hw'⟩, hm'⟩

theorem evaluateExpectedLossLimit_clear {context : RiskGateContext} {limits : ParsedThresholds} :
    (evaluateExpectedLossLimit context limits).status ≠ .fail ↔
      ∃ text loss, expectedLossValue context = .string text ∧ NonNegativeBySign text loss ∧
        loss ≤ limits.maxExpectedLossBpsOfEquity := by
  unfold evaluateExpectedLossLimit
  constructor
  · intro hclear
    split at hclear
    · simp at hclear
    · rename_i evaluation hread
      unfold readExpectedLossBpsOfEquity at hread
      split at hread
      · cases hread
      · cases hread
      · exact absurd (readNonNegativeDecimal_readsOrFails _ _ _ (Option.some.inj hread)).1 hclear
    · rename_i value hread
      unfold readExpectedLossBpsOfEquity at hread
      split at hread
      · cases hread
      · cases hread
      · have hread := Option.some.inj hread
        obtain ⟨text, htext⟩ := readNonNegativeDecimal_text hread
        rw [htext] at hread
        obtain ⟨hvalue, hsign⟩ := readNonNegativeDecimal_ok.1 hread
        exact ⟨text, value.value, htext, ⟨value, hvalue, hsign, rfl⟩, not_lt.1 (ite_clear.1 hclear)⟩
  · rintro ⟨text, loss, htext, ⟨value, hvalue, hsign, rfl⟩, hle⟩
    have hread : readExpectedLossBpsOfEquity context = some (.ok value) := by
      unfold readExpectedLossBpsOfEquity
      rw [htext]
      exact congrArg some (readNonNegativeDecimal_ok.2 ⟨hvalue, hsign⟩)
    rw [hread]
    exact ite_clear.2 (not_lt.2 hle)

omit [Host] in
theorem evaluateConsecutiveStrategyLosses_clear {context : RiskGateContext} {limits : ParsedThresholds} :
    (evaluateConsecutiveStrategyLosses context limits).status ≠ .fail ↔
      context.strategy.strategyId = context.orderIntent.strategyId ∧
      ∃ losses : ℕ, context.strategy.consecutiveLosses = some (losses : ℚ) ∧ losses ≤ 9007199254740991 ∧
        (losses : ℚ) < limits.maxConsecutiveStrategyLosses := by
  unfold evaluateConsecutiveStrategyLosses
  constructor
  · intro hclear
    split_ifs at hclear with hstrategy
    · exact absurd rfl hclear
    · split at hclear
      · exact absurd rfl hclear
      · rename_i losses hlosses
        split_ifs at hclear with hinvalid hlimit
        · exact absurd rfl hclear
        · exact absurd rfl hclear
        · simp only [isSafeInteger, not_or, decide_eq_false_iff_not, not_not, not_lt] at hinvalid
          obtain ⟨⟨hinteger, hsafe⟩, hnonneg⟩ := hinvalid
          obtain ⟨n, hn⟩ := Int.eq_ofNat_of_zero_le (Rat.num_nonneg.2 hnonneg)
          have hcast : losses = (n : ℚ) := by
            rw [← Rat.coe_int_num_of_den_eq_one hinteger, hn]
            simp
          refine ⟨not_not.1 hstrategy, n, by rw [hlosses, hcast], ?_, by rw [← hcast]; exact not_le.1 hlimit⟩
          rw [hcast, abs_of_nonneg (by positivity)] at hsafe
          exact_mod_cast hsafe
  · rintro ⟨hstrategy, losses, hlosses, hsafe, hlimit⟩
    have hsafe' : isSafeInteger (losses : ℚ) = true := by
      simp only [isSafeInteger, decide_eq_true_eq]
      refine ⟨Rat.den_natCast losses, ?_⟩
      rw [abs_of_nonneg (by positivity)]
      exact_mod_cast hsafe
    rw [if_neg (not_not.2 hstrategy), hlosses]
    dsimp only
    rw [if_neg (by simp [hsafe']), if_neg (not_le.2 hlimit)]
    simp

omit [Host] in
theorem evaluateInfrastructureSignals_clear {signals : List InfrastructureRiskSignal} :
    Clear (evaluateInfrastructureSignals signals) ↔ ∀ signal ∈ signals, signal = .notificationFailure := by
  have hsignal : ∀ signal, (evaluateInfrastructureSignal signal).status ≠ .fail ↔ signal = .notificationFailure := by
    intro signal
    cases signal <;> simp [evaluateInfrastructureSignal]
  unfold evaluateInfrastructureSignals
  split_ifs with hnone
  · simp [hnone]
  · simp [Clear, hsignal]

/-! ## Exposures -/

theorem readPositionBps_ok {position : PositionRiskSnapshot} {d : Dec} :
    readPositionBps position = .ok d ↔ Host.decimal position.notionalBpsOfEquity = .finite d ∧ d.isNegative = false :=
  readNonNegativeDecimal_ok

theorem rows_clear {positions : List PositionRiskSnapshot} :
    positions.flatMap (fun position => readEvaluation (readPositionBps position)) = [] ↔
      ∀ position ∈ positions, ∃ q, NonNegativeBySign position.notionalBpsOfEquity q := by
  rw [List.flatMap_eq_nil_iff]
  refine forall₂_congr fun position _ => ?_
  cases hread : readPositionBps position with
  | error evaluation =>
    refine ⟨nofun, ?_⟩
    rintro ⟨q, d, hd, hsign, -⟩
    rw [readPositionBps_ok.2 ⟨hd, hsign⟩] at hread
    cases hread
  | ok d =>
    obtain ⟨hd, hsign⟩ := readPositionBps_ok.1 hread
    exact ⟨fun _ => ⟨d.value, d, hd, hsign, rfl⟩, fun _ => rfl⟩

/-- the rows that read, as amounts -/
def rowBps (position : PositionRiskSnapshot) : ℚ := (Host.valueOf position.notionalBpsOfEquity).getD 0

theorem addExposure_read {position : PositionRiskSnapshot} {q : ℚ} (h : NonNegativeBySign position.notionalBpsOfEquity q)
    (exposures : InsertionMap String ℚ) : addExposure exposures position =
      exposures.set position.market ((exposures.get position.market).getD 0 + rowBps position) := by
  obtain ⟨d, hd, hsign, rfl⟩ := h
  have hrow : rowBps position = d.value := by
    unfold rowBps
    rw [finite_iff_valueOf.1 ⟨d, hd, rfl⟩]
    rfl
  unfold addExposure
  rw [readPositionBps_ok.2 ⟨hd, hsign⟩, hrow]

theorem exposure_nonneg {positions : List PositionRiskSnapshot}
    (h : ∀ position ∈ positions, ∃ q, NonNegativeBySign position.notionalBpsOfEquity q) (market : String) :
    0 ≤ exposure positions market := by
  refine List.sum_nonneg fun x hx => ?_
  obtain ⟨position, hposition, rfl⟩ := List.mem_map.1 hx
  obtain ⟨q, d, hd, hsign, -⟩ := h position (List.mem_filter.1 hposition).1
  rw [finite_iff_valueOf.1 ⟨d, hd, rfl⟩]
  exact Dec.value_nonneg hsign

theorem exposure_of_absent {positions : List PositionRiskSnapshot} {market : String}
    (h : market ∉ positions.map PositionRiskSnapshot.market) : exposure positions market = 0 := by
  unfold exposure
  rw [List.filter_eq_nil_iff.2]
  · rfl
  · intro position hposition heq
    exact h (List.mem_map.2 ⟨position, hposition, by simpa using heq⟩)

/-- **Aggregation.** The map has the markets of the rows, each with the sum of all its rows. -/
theorem exposures_get {positions : List PositionRiskSnapshot}
    (h : ∀ position ∈ positions, ∃ q, NonNegativeBySign position.notionalBpsOfEquity q) (market : String) :
    (createCurrentExposureByMarket positions).get market =
      if market ∈ positions.map PositionRiskSnapshot.market then some (exposure positions market) else none := by
  unfold createCurrentExposureByMarket
  induction positions using List.reverseRecOn with
  | nil => simp
  | append_singleton rest position ih =>
    have hrest : ∀ p ∈ rest, ∃ q, NonNegativeBySign p.notionalBpsOfEquity q := fun p hp => h p (by simp [hp])
    obtain ⟨q, hq⟩ := h position (by simp)
    have hget := ih hrest
    have hsum : exposure (rest ++ [position]) market =
        exposure rest market + if position.market = market then rowBps position else 0 := by
      unfold exposure rowBps
      rw [List.filter_append, List.map_append, List.sum_append]
      by_cases hmarket : position.market = market <;> simp [hmarket]
    rw [List.foldl_append, List.foldl_cons, List.foldl_nil, addExposure_read hq, InsertionMap.get_set, hsum]
    by_cases hmarket : position.market = market
    · subst hmarket
      rw [if_pos rfl, if_pos (by simp), hget, if_pos rfl]
      split_ifs with hmem
      · rfl
      · -- the first row of its market
        rw [exposure_of_absent hmem]
        rfl
    · rw [if_neg hmarket, if_neg hmarket, hget, add_zero]
      simp [Ne.symm hmarket]

omit [Host] in
theorem clampAtZero_eq (value : ℚ) : clampAtZero value = max 0 value := by
  unfold clampAtZero
  split_ifs with h
  · rw [max_eq_left h.le]
  · rw [max_eq_right (not_lt.1 h)]

omit [Host] in
/-- a SELL of more than there is leaves nothing -/
theorem clamp_delta {side : OrderSide} {orderNotionalBps current : ℚ} (hbps : 0 ≤ orderNotionalBps) (hcurrent : 0 ≤ current) :
    clampAtZero (current + calculateCandidateExposureDeltaBps side orderNotionalBps current) =
      match side with
      | .buy => current + orderNotionalBps
      | .sell => max 0 (current - orderNotionalBps) := by
  rw [clampAtZero_eq]
  cases side with
  | buy => exact max_eq_right (add_nonneg hcurrent hbps)
  | sell =>
    simp only [calculateCandidateExposureDeltaBps]
    rcases le_total orderNotionalBps current with hle | hle
    · rw [min_eq_left hle, sub_eq_add_neg]
    · rw [min_eq_right hle, add_neg_cancel, max_self, max_eq_left (sub_nonpos.2 hle)]

/-- the entries are the markets of the rows and of the order, with their projected exposures -/
theorem projected_entries {context : RiskGateContext} {orderNotionalBps : ℚ}
    (h : ∀ position ∈ context.positions, ∃ q, NonNegativeBySign position.notionalBpsOfEquity q) (hbps : 0 ≤ orderNotionalBps)
    {market : String} {q : ℚ} :
    (market, q) ∈ createProjectedExposures context orderNotionalBps ↔
      market ∈ context.orderIntent.market :: context.positions.map PositionRiskSnapshot.market ∧
        q = projectedExposure context orderNotionalBps market := by
  unfold createProjectedExposures
  dsimp only
  rw [InsertionMap.mem_iff_get, InsertionMap.get_set]
  have htarget : ((createCurrentExposureByMarket context.positions).get context.orderIntent.market).getD 0 =
      exposure context.positions context.orderIntent.market := by
    rw [exposures_get h]
    split_ifs with hmem
    · rfl
    · exact (exposure_of_absent hmem).symm
  by_cases hmarket : context.orderIntent.market = market
  · subst hmarket
    have hnonneg := exposure_nonneg h context.orderIntent.market
    rw [if_pos rfl, htarget, clamp_delta hbps hnonneg, Option.some.injEq, eq_comm]
    simp only [List.mem_cons, true_or, true_and, projectedExposure, if_true]
  · rw [if_neg hmarket, exposures_get h]
    simp only [List.mem_cons, Ne.symm hmarket, false_or, projectedExposure, if_false]
    split_ifs with hmem
    · simp [hmem, eq_comm]
    · simp [hmem]

/-- the loop over the entries adds the alt markets, each once -/
theorem projected_totalAlt {context : RiskGateContext} {orderNotionalBps : ℚ}
    (h : ∀ position ∈ context.positions, ∃ q, NonNegativeBySign position.notionalBpsOfEquity q)
    (hbps : 0 ≤ orderNotionalBps) :
    (createProjectedExposures context orderNotionalBps).foldl
      (fun sum exposure => if isAltMarket exposure.1 then sum + exposure.2 else sum) 0 =
      ∑ market ∈ altMarkets context, projectedExposure context orderNotionalBps market := by
  have hfold : ∀ (entries : List (String × ℚ)) (start : ℚ),
      entries.foldl (fun sum exposure => if isAltMarket exposure.1 then sum + exposure.2 else sum) start =
        start + (entries.map fun exposure => if isAltMarket exposure.1 then exposure.2 else 0).sum := by
    intro entries
    induction entries with
    | nil => simp
    | cons entry entries ih =>
      intro start
      rw [List.foldl_cons, ih, List.map_cons, List.sum_cons]
      split_ifs
      · rw [add_assoc]
      · rw [zero_add]
  have hvalues : (createProjectedExposures context orderNotionalBps).map
        (fun exposure => if isAltMarket exposure.1 then exposure.2 else 0) =
      ((createProjectedExposures context orderNotionalBps).map Prod.fst).map
        (fun market => if isAltMarket market then projectedExposure context orderNotionalBps market else 0) := by
    rw [List.map_map]
    refine List.map_congr_left fun entry hentry => ?_
    obtain ⟨market, q⟩ := entry
    rw [((projected_entries h hbps).1 hentry).2]
    rfl
  have hkeys : ((createProjectedExposures context orderNotionalBps).map Prod.fst).toFinset =
      (context.orderIntent.market :: context.positions.map PositionRiskSnapshot.market).toFinset := by
    ext market
    rw [List.mem_toFinset, List.mem_toFinset, List.mem_map]
    constructor
    · rintro ⟨⟨market', q⟩, hmem, rfl⟩
      exact ((projected_entries h hbps).1 hmem).1
    · intro hmem
      exact ⟨(market, _), (projected_entries h hbps).2 ⟨hmem, rfl⟩, rfl⟩
  have hnodup : ((createProjectedExposures context orderNotionalBps).map Prod.fst).Nodup := InsertionMap.nodup _
  rw [hfold, zero_add, hvalues, ← List.sum_toFinset _ hnodup, hkeys, altMarkets, Finset.sum_filter]

omit [Host] in
/-- a limit that every market of one kind has to keep -/
theorem breaches_clear {entries : List (String × ℚ)} {kind : String → Bool} {limit : ℚ} {target : Prop} [Decidable target]
    {reasonCode message reasonCode' message' : String} {action : FailAction} :
    Clear (if entries.filter (fun exposure => kind exposure.1 ∧ limit < exposure.2) ≠ [] then
        [fail reasonCode message action]
      else if target then [pass reasonCode' message'] else []) ↔
      ∀ market q, (market, q) ∈ entries → kind market = true → q ≤ limit := by
  have hnone : entries.filter (fun exposure => kind exposure.1 ∧ limit < exposure.2) = [] ↔
      ∀ market q, (market, q) ∈ entries → kind market = true → q ≤ limit := by
    rw [List.filter_eq_nil_iff]
    constructor
    · intro h market q hmem hkind
      have hentry := h (market, q) hmem
      simp only [decide_eq_true_eq, not_and, not_lt] at hentry
      exact hentry hkind
    · rintro h ⟨market, q⟩ hmem
      simp only [decide_eq_true_eq, not_and, not_lt]
      exact h market q hmem
  rw [← hnone]
  split_ifs with hbreaches htarget
  · exact ⟨fun hclear => absurd rfl (clear_cons.1 hclear).1, fun hempty => absurd hempty hbreaches⟩
  · exact ⟨fun _ => not_not.1 hbreaches, fun _ => by simp⟩
  · exact ⟨fun _ => not_not.1 hbreaches, fun _ => clear_nil⟩

theorem projectedExposure_of_absent {context : RiskGateContext} {orderNotionalBps : ℚ} {market : String}
    (h : market ∉ context.orderIntent.market :: context.positions.map PositionRiskSnapshot.market) :
    projectedExposure context orderNotionalBps market = 0 := by
  rw [List.mem_cons, not_or] at h
  unfold projectedExposure
  rw [if_neg h.1, exposure_of_absent h.2]

/-- the limits of the single markets, as the two loops over the entries check them -/
theorem markets_within {context : RiskGateContext} {limits : ParsedThresholds} {orderNotionalBps : ℚ}
    (hrows : ∀ position ∈ context.positions, ∃ q, NonNegativeBySign position.notionalBpsOfEquity q)
    (hbps : 0 ≤ orderNotionalBps) (hbtcEth : 0 ≤ limits.btcEthMaxPositionBpsOfEquity)
    (halt : 0 ≤ limits.altMaxPositionBpsOfEquity) :
    ((∀ market q, (market, q) ∈ createProjectedExposures context orderNotionalBps → isBtcOrEthMarket market = true →
        q ≤ limits.btcEthMaxPositionBpsOfEquity) ∧
      ∀ market q, (market, q) ∈ createProjectedExposures context orderNotionalBps → isAltMarket market = true →
        q ≤ limits.altMaxPositionBpsOfEquity) ↔
    ∀ market, projectedExposure context orderNotionalBps market ≤
      if isBtcOrEthMarket market then limits.btcEthMaxPositionBpsOfEquity else limits.altMaxPositionBpsOfEquity := by
  constructor
  · rintro ⟨hmajor, halts⟩ market
    by_cases hmem : market ∈ context.orderIntent.market :: context.positions.map PositionRiskSnapshot.market
    · have hentry := (projected_entries hrows hbps).2 ⟨hmem, rfl⟩
      split_ifs with hkind
      · exact hmajor market _ hentry hkind
      · exact halts market _ hentry (by simp [isAltMarket, hkind])
    · rw [projectedExposure_of_absent hmem]
      split_ifs
      · exact hbtcEth
      · exact halt
  · intro h
    refine ⟨fun market q hentry hkind => ?_, fun market q hentry hkind => ?_⟩
    · rw [((projected_entries hrows hbps).1 hentry).2]
      have hlimit := h market
      rwa [if_pos hkind] at hlimit
    · rw [((projected_entries hrows hbps).1 hentry).2]
      have hlimit := h market
      rwa [if_neg (by simpa [isAltMarket] using hkind)] at hlimit

theorem evaluatePositionExposureLimits_clear {context : RiskGateContext} {limits : ParsedThresholds} {orderNotionalBps : ℚ}
    (hbps : 0 ≤ orderNotionalBps) (hbtcEth : 0 ≤ limits.btcEthMaxPositionBpsOfEquity)
    (halt : 0 ≤ limits.altMaxPositionBpsOfEquity) :
    Clear (evaluatePositionExposureLimits context limits orderNotionalBps) ↔
      ExposuresWithin NonNegativeBySign context limits orderNotionalBps := by
  have hinvalid : context.positions.flatMap (fun position => readEvaluation (readPositionBps position)) ≠ [] →
      ¬ Clear (context.positions.flatMap fun position => readEvaluation (readPositionBps position)) := by
    intro hne hclear
    obtain ⟨evaluation, hmem⟩ := List.exists_mem_of_ne_nil _ hne
    obtain ⟨position, -, hread⟩ := List.mem_flatMap.1 hmem
    refine hclear evaluation hmem ?_
    cases hposition : readPositionBps position with
    | error failed =>
      rw [hposition] at hread
      rw [List.mem_singleton.1 hread]
      exact (readNonNegativeDecimal_readsOrFails _ _ failed hposition).1
    | ok d =>
      rw [hposition] at hread
      cases hread
  unfold evaluatePositionExposureLimits
  dsimp only
  split_ifs with hrows
  · refine ⟨fun hclear => absurd hclear (hinvalid hrows), fun hwithin => ?_⟩
    exact absurd (rows_clear.2 hwithin.rows) hrows
  · have hrows := rows_clear.1 (not_not.1 hrows)
    unfold evaluateBtcEthExposureLimit evaluateAltExposureLimits
    dsimp only
    rw [clear_append, clear_append, breaches_clear, breaches_clear, projected_totalAlt hrows hbps, ← and_assoc,
      markets_within hrows hbps hbtcEth halt]
    simp only [clear_cons, clear_nil, and_true, ite_clear, not_lt]
    exact ⟨fun ⟨hmarkets, htotal⟩ => ⟨hrows, hmarkets, htotal⟩, fun hwithin => ⟨hwithin.markets, hwithin.totalAlt⟩⟩

/-! ## The order -/

theorem readPositive_iff {text : String} {error : ReadError} {q : ℚ} :
    (∃ d, readPositiveDecimal (.string text) error = .ok d ∧ d.value = q) ↔ PositiveText text q := by
  unfold PositiveText
  rw [← finite_iff_valueOf]
  simp only [readPositiveDecimal_ok]
  constructor
  · rintro ⟨d, ⟨hd, hpos⟩, rfl⟩
    exact ⟨⟨d, hd, rfl⟩, hpos⟩
  · rintro ⟨⟨d, hd, rfl⟩, hpos⟩
    exact ⟨d, ⟨hd, hpos⟩, rfl⟩

theorem readCanonicalOrderNotional_ok {intent : ExecutionIntent} {notional canonical : ℚ} :
    readCanonicalOrderNotional intent notional = .ok canonical ↔ canonical = notional ∧ LimitNotional intent notional := by
  unfold readCanonicalOrderNotional LimitNotional
  cases intent.terms with
  | market =>
    rw [pure_eq_ok]
    simp [OrderTerms.requestedPrice, eq_comm]
  | limit priceText postOnly timeInForce =>
    simp only [OrderTerms.requestedPrice, Option.some.injEq, forall_eq']
    constructor
    · intro h
      obtain ⟨price, hprice, h⟩ := bind_eq_ok.1 h
      obtain ⟨quantity, hquantity, h⟩ := bind_eq_ok.1 h
      split at h
      · cases h
      · rename_i hproduct
        obtain rfl := pure_eq_ok.1 h
        rw [not_not] at hproduct
        exact ⟨hproduct, price.value, quantity.value, readPositive_iff.1 ⟨price, hprice, rfl⟩,
          readPositive_iff.1 ⟨quantity, hquantity, rfl⟩, hproduct⟩
    · rintro ⟨rfl, price, quantity, hprice, hquantity, hproduct⟩
      obtain ⟨p, hp, rfl⟩ := readPositive_iff.2 hprice
      obtain ⟨q, hq, rfl⟩ := readPositive_iff.2 hquantity
      rw [hp, ok_bind, hq, ok_bind, if_neg (not_not.2 hproduct), hproduct]
      rfl

theorem calculateOrderNotionalBps_ok {intent : ExecutionIntent} {equity bps : ℚ} :
    calculateOrderNotionalBps intent equity = .ok bps ↔
      ∃ notional, PositiveText intent.requestedNotional notional ∧ LimitNotional intent notional ∧
        bps = notional / equity * 10000 := by
  unfold calculateOrderNotionalBps
  simp only [bind_eq_ok, readCanonicalOrderNotional_ok, pure_eq_ok]
  constructor
  · rintro ⟨requested, hrequested, canonical, ⟨rfl, hlimit⟩, rfl⟩
    exact ⟨requested.value, readPositive_iff.1 ⟨requested, hrequested, rfl⟩, hlimit, rfl⟩
  · rintro ⟨notional, hnotional, hlimit, rfl⟩
    obtain ⟨requested, hrequested, rfl⟩ := readPositive_iff.2 hnotional
    exact ⟨requested, hrequested, requested.value, ⟨rfl, hlimit⟩, rfl⟩

theorem calculateOrderNotionalBps_readsOrFails (intent : ExecutionIntent) (equity : ℚ) :
    ReadsOrFails (calculateOrderNotionalBps intent equity) := by
  refine (readPositiveDecimal_readsOrFails _ _).bind fun requested => ReadsOrFails.bind ?_ fun _ => ReadsOrFails.pure _
  unfold readCanonicalOrderNotional
  split
  · exact ReadsOrFails.pure _
  · refine (readPositiveDecimal_readsOrFails _ _).bind fun price => ?_
    refine (readPositiveDecimal_readsOrFails _ _).bind fun quantity => ?_
    split
    · exact ReadsOrFails.throw (fail_fails _ _ _)
    · exact ReadsOrFails.pure _

omit [Host] in
/-- the limit in basis points is the limit on the notional -/
theorem bps_le_iff {notional equity limit : ℚ} (hequity : 0 < equity) :
    ¬ limit < notional / equity * 10000 ↔ notional * 10000 ≤ limit * equity := by
  rw [not_lt, div_mul_eq_mul_div, div_le_iff₀ hequity]

theorem evaluateOrder_clear {context : RiskGateContext} {limits : ParsedThresholds}
    (hbtcEth : 0 ≤ limits.btcEthMaxPositionBpsOfEquity) (halt : 0 ≤ limits.altMaxPositionBpsOfEquity) :
    Clear (evaluateOrder context limits) ↔
      ∃ equity notional, PositiveText context.account.equityKrw equity ∧
        PositiveText context.orderIntent.requestedNotional notional ∧ LimitNotional context.orderIntent notional ∧
        notional * 10000 ≤ limits.maxOrderNotionalBpsOfEquity * equity ∧
        ExposuresWithin NonNegativeBySign context limits (notional / equity * 10000) := by
  have hchecks : ∀ {equity notional : ℚ}, 0 < equity → 0 < notional →
      (Clear (evaluateOrderNotionalLimit limits (notional / equity * 10000) ::
        evaluatePositionExposureLimits context limits (notional / equity * 10000)) ↔
      notional * 10000 ≤ limits.maxOrderNotionalBpsOfEquity * equity ∧
        ExposuresWithin NonNegativeBySign context limits (notional / equity * 10000)) := by
    intro equity notional hequity hnotional
    rw [clear_cons, evaluatePositionExposureLimits_clear (by positivity) hbtcEth halt, evaluateOrderNotionalLimit,
      ite_clear, bps_le_iff hequity]
  unfold evaluateOrder
  constructor
  · intro hclear
    split at hclear
    · rename_i evaluation hread
      exact absurd (readPositiveDecimal_readsOrFails _ _ evaluation hread).1 (hclear evaluation (by simp))
    · rename_i equity hequity
      have hequity := readPositive_iff.1 ⟨equity, hequity, rfl⟩
      split at hclear
      · rename_i evaluation hread
        exact absurd (calculateOrderNotionalBps_readsOrFails _ _ evaluation hread).1 (hclear evaluation (by simp))
      · rename_i bps hbps
        obtain ⟨notional, hnotional, hlimit, rfl⟩ := calculateOrderNotionalBps_ok.1 hbps
        exact ⟨equity.value, notional, hequity, hnotional, hlimit, (hchecks hequity.2 hnotional.2).1 hclear⟩
  · rintro ⟨equityValue, notional, hequity, hnotional, hlimit, hwithin⟩
    have hread : ∃ equity, readEquity context = .ok equity ∧ equity.value = equityValue := readPositive_iff.2 hequity
    obtain ⟨equity, hread, rfl⟩ := hread
    have hbps : calculateOrderNotionalBps context.orderIntent equity.value = .ok (notional / equity.value * 10000) :=
      calculateOrderNotionalBps_ok.2 ⟨notional, hnotional, hlimit, rfl⟩
    rw [hread]
    dsimp only
    rw [hbps]
    exact (hchecks hequity.2 hnotional.2).2 hwithin

/-! ## Results -/

omit [Host] in
/-- an evaluation fails exactly where it does not allow -/
def Consistent (evaluations : List RiskGateEvaluation) : Prop :=
  ∀ evaluation ∈ evaluations, evaluation.status = .fail ↔ evaluation.action ≠ .allow

omit [Host] in
theorem dominantAction_priority (selected action : RiskBlockAction) :
    actionPriority selected ≤ actionPriority (dominantAction selected action) ∧
      actionPriority action ≤ actionPriority (dominantAction selected action) := by
  unfold dominantAction
  split_ifs with h
  · exact ⟨h.le, le_refl _⟩
  · exact ⟨le_refl _, not_lt.1 h⟩

omit [Host] in
/-- the strongest of some actions is as strong as each of them -/
theorem foldl_dominant (first : RiskBlockAction) (rest : List RiskBlockAction) :
    actionPriority first ≤ actionPriority (rest.foldl dominantAction first) ∧
      ∀ action ∈ rest, actionPriority action ≤ actionPriority (rest.foldl dominantAction first) := by
  induction rest generalizing first with
  | nil => exact ⟨le_refl _, by simp⟩
  | cons action rest ih =>
    obtain ⟨hstart, hrest⟩ := ih (dominantAction first action)
    obtain ⟨hselected, haction⟩ := dominantAction_priority first action
    rw [List.foldl_cons]
    refine ⟨hselected.trans hstart, fun other hmem => ?_⟩
    rcases List.mem_cons.1 hmem with rfl | hmem
    · exact haction.trans hstart
    · exact hrest other hmem

omit [Host] in
/-- **Severity.** The result's action is at least as severe as the action of every evaluation in it. -/
theorem createRiskGateResult_severe (evaluations : List RiskGateEvaluation) :
    ∀ evaluation ∈ evaluations,
      actionPriority evaluation.action ≤ actionPriority (createRiskGateResult evaluations).action := by
  intro evaluation hmem
  unfold createRiskGateResult selectMostRestrictiveAction
  dsimp only
  rw [← List.foldl_map (f := RiskGateEvaluation.action) (g := dominantAction)]
  exact (foldl_dominant _ _).2 evaluation.action (List.mem_map_of_mem hmem)

omit [Host] in
theorem selectMostRestrictiveAction_allow {evaluations : List RiskGateEvaluation}
    (h : ∀ evaluation ∈ evaluations, evaluation.action = .allow) : selectMostRestrictiveAction evaluations = .allow := by
  unfold selectMostRestrictiveAction
  induction evaluations with
  | nil => rfl
  | cons first rest ih =>
    rw [List.foldl_cons, h first (by simp)]
    exact ih fun evaluation hmem => h evaluation (by simp [hmem])

omit [Host] in
/-- where the evaluations are consistent, the order is approved exactly where none fails -/
theorem createRiskGateResult_approved {evaluations : List RiskGateEvaluation} (h : Consistent evaluations) :
    (createRiskGateResult evaluations).approved = true ↔ Clear evaluations := by
  have hfailed : evaluations.filter (fun evaluation => evaluation.status = .fail) = [] ↔ Clear evaluations := by
    rw [List.filter_eq_nil_iff]
    simp [Clear]
  unfold createRiskGateResult
  dsimp only
  rw [decide_eq_true_iff, hfailed]
  refine ⟨And.left, fun hclear => ⟨hclear, selectMostRestrictiveAction_allow fun evaluation hmem => ?_⟩⟩
  by_contra haction
  exact hclear evaluation hmem ((h evaluation hmem).2 haction)

/-! ## Consistency of the evaluations -/

omit [Host] in
theorem Consistent.append {left right : List RiskGateEvaluation} (hleft : Consistent left) (hright : Consistent right) :
    Consistent (left ++ right) := by
  intro evaluation hmem
  rcases List.mem_append.1 hmem with hmem | hmem
  · exact hleft evaluation hmem
  · exact hright evaluation hmem

omit [Host] in
theorem Consistent.nil : Consistent [] := by simp [Consistent]

omit [Host] in
theorem Consistent.cons {evaluation : RiskGateEvaluation} {rest : List RiskGateEvaluation}
    (h : evaluation.status = .fail ↔ evaluation.action ≠ .allow) (hrest : Consistent rest) :
    Consistent (evaluation :: rest) := by
  intro other hmem
  rcases List.mem_cons.1 hmem with rfl | hmem
  · exact h
  · exact hrest other hmem

omit [Host] in
theorem Fails.consistent {evaluation : RiskGateEvaluation} (h : Fails evaluation) :
    evaluation.status = .fail ↔ evaluation.action ≠ .allow := ⟨fun _ => h.2, fun _ => h.1⟩

omit [Host] in
theorem pass_consistent (reasonCode message : String) :
    (pass reasonCode message).status = .fail ↔ (pass reasonCode message).action ≠ .allow := ⟨nofun, fun h => absurd rfl h⟩

omit [Host] in
theorem ite_consistent {p : Prop} [Decidable p] {reasonCode message reasonCode' message' : String} {action : FailAction} :
    (if p then fail reasonCode message action else pass reasonCode' message').status = .fail ↔
      (if p then fail reasonCode message action else pass reasonCode' message').action ≠ .allow := by
  split_ifs
  · exact (fail_fails _ _ _).consistent
  · exact pass_consistent _ _

omit [Host] in
theorem readEvaluation_consistent {α : Type} {read : Except RiskGateEvaluation α} (h : ReadsOrFails read) :
    Consistent (readEvaluation read) := by
  cases read with
  | error evaluation => exact Consistent.cons (h evaluation rfl).consistent Consistent.nil
  | ok a => exact Consistent.nil

omit [Host] in
theorem whenRead_consistent {α : Type} {read : Except RiskGateEvaluation α} {evaluate : α → RiskGateEvaluation}
    (h : ∀ a, (evaluate a).status = .fail ↔ (evaluate a).action ≠ .allow) : Consistent (whenRead read evaluate) := by
  cases read with
  | error evaluation => exact Consistent.nil
  | ok a => exact Consistent.cons (h a) Consistent.nil

theorem evaluateLossLimits_consistent (context : RiskGateContext) (limits : ParsedThresholds) :
    Consistent (evaluateLossLimits context limits) := by
  have hdaily := readEvaluation_consistent (readDecimal_readsOrFails (.string context.account.dailyRealizedPnlBps)
    ⟨"account.daily_realized_pnl_bps", "daily_loss_bps_invalid", "Daily realized PnL bps must be a finite decimal string"⟩)
  unfold evaluateLossLimits
  refine Consistent.append (Consistent.append (Consistent.append (Consistent.append (Consistent.append hdaily ?_) ?_) ?_)
    ?_) ?_
  · exact readEvaluation_consistent (readDecimal_readsOrFails _ _)
  · exact readEvaluation_consistent (readNonNegativeDecimal_readsOrFails _ _)
  · exact whenRead_consistent fun _ => ite_consistent
  · exact whenRead_consistent fun _ => ite_consistent
  · exact whenRead_consistent fun _ => ite_consistent

theorem evaluatePositionExposureLimits_consistent (context : RiskGateContext) (limits : ParsedThresholds) (bps : ℚ) :
    Consistent (evaluatePositionExposureLimits context limits bps) := by
  have hbreaches : ∀ {p q : Prop} [Decidable p] [Decidable q] {a b c d : String} {action : FailAction},
      Consistent (if p then [fail a b action] else if q then [pass c d] else []) := by
    intro p q _ _ a b c d action
    split_ifs
    · exact Consistent.cons (fail_fails _ _ _).consistent Consistent.nil
    · exact Consistent.cons (pass_consistent _ _) Consistent.nil
    · exact Consistent.nil
  unfold evaluatePositionExposureLimits
  dsimp only
  split
  · intro evaluation hmem
    obtain ⟨position, -, hread⟩ := List.mem_flatMap.1 hmem
    exact readEvaluation_consistent (readNonNegativeDecimal_readsOrFails _ _) evaluation hread
  · refine Consistent.append hbreaches (Consistent.append hbreaches (Consistent.cons ite_consistent Consistent.nil))

theorem evaluateOrder_consistent (context : RiskGateContext) (limits : ParsedThresholds) :
    Consistent (evaluateOrder context limits) := by
  unfold evaluateOrder
  split
  · rename_i evaluation hread
    exact Consistent.cons (readPositiveDecimal_readsOrFails _ _ evaluation hread).consistent Consistent.nil
  · split
    · rename_i evaluation hread
      exact Consistent.cons (calculateOrderNotionalBps_readsOrFails _ _ evaluation hread).consistent Consistent.nil
    · exact Consistent.cons ite_consistent (evaluatePositionExposureLimits_consistent _ _ _)

theorem evaluateExpectedLossLimit_consistent (context : RiskGateContext) (limits : ParsedThresholds) :
    (evaluateExpectedLossLimit context limits).status = .fail ↔
      (evaluateExpectedLossLimit context limits).action ≠ .allow := by
  unfold evaluateExpectedLossLimit
  split
  · exact (fail_fails _ _ _).consistent
  · rename_i evaluation hread
    unfold readExpectedLossBpsOfEquity at hread
    split at hread
    · cases hread
    · cases hread
    · exact (readNonNegativeDecimal_readsOrFails _ _ _ (Option.some.inj hread)).consistent
  · exact ite_consistent

omit [Host] in
theorem evaluateConsecutiveStrategyLosses_consistent (context : RiskGateContext) (limits : ParsedThresholds) :
    (evaluateConsecutiveStrategyLosses context limits).status = .fail ↔
      (evaluateConsecutiveStrategyLosses context limits).action ≠ .allow := by
  unfold evaluateConsecutiveStrategyLosses
  split
  · exact (fail_fails _ _ _).consistent
  · split
    · exact (fail_fails _ _ _).consistent
    · split
      · exact (fail_fails _ _ _).consistent
      · exact ite_consistent

omit [Host] in
theorem evaluateInfrastructureSignals_consistent (signals : List InfrastructureRiskSignal) :
    Consistent (evaluateInfrastructureSignals signals) := by
  unfold evaluateInfrastructureSignals
  split
  · exact Consistent.cons (pass_consistent _ _) Consistent.nil
  · intro evaluation hmem
    obtain ⟨signal, -, rfl⟩ := List.mem_map.1 hmem
    cases signal <;> decide

/-- **Evaluations** fail exactly where they do not allow. -/
theorem evaluation_action (context : RiskGateContext) (limits : ParsedThresholds) :
    Consistent (gateEvaluations context limits) := by
  unfold gateEvaluations
  refine Consistent.append (Consistent.append (Consistent.append ?_ ?_) ?_) ?_
  · exact evaluateLossLimits_consistent context limits
  · exact evaluateOrder_consistent context limits
  · exact Consistent.cons (evaluateExpectedLossLimit_consistent context limits)
      (Consistent.cons (evaluateConsecutiveStrategyLosses_consistent context limits) Consistent.nil)
  · exact evaluateInfrastructureSignals_consistent _

/-! ## Exact approval -/

theorem parseNonNegativeThreshold_nonneg {value fieldName : String} {q : ℚ}
    (h : parseNonNegativeThreshold value fieldName = .ok q) : 0 ≤ q := by
  obtain ⟨d, -, h⟩ := bind_eq_ok.1 h
  split at h
  · cases h
  · rename_i hsign
    obtain rfl := pure_eq_ok.1 h
    exact Dec.value_nonneg (by simpa using hsign)

theorem parseThresholds_positions {thresholds : RiskLimitThresholds} {limits : ParsedThresholds}
    (h : parseThresholds thresholds = .ok limits) :
    0 ≤ limits.btcEthMaxPositionBpsOfEquity ∧ 0 ≤ limits.altMaxPositionBpsOfEquity := by
  unfold parseThresholds at h
  simp only [bind_eq_ok, pure_eq_ok] at h
  obtain ⟨_, -, _, -, _, -, _, -, _, -, _, hbtcEth, _, halt, _, -, rfl⟩ := h
  exact ⟨parseNonNegativeThreshold_nonneg hbtcEth, parseNonNegativeThreshold_nonneg halt⟩

theorem gateEvaluations_clear {context : RiskGateContext} {limits : ParsedThresholds}
    (h : parseThresholds context.thresholds = .ok limits) :
    Clear (gateEvaluations context limits) ↔ WithinLimits NonNegativeBySign context limits := by
  obtain ⟨hbtcEth, halt⟩ := parseThresholds_positions h
  unfold gateEvaluations
  simp only [clear_append, clear_cons, clear_nil, and_true]
  rw [evaluateLossLimits_clear, evaluateOrder_clear hbtcEth halt, evaluateExpectedLossLimit_clear,
    evaluateConsecutiveStrategyLosses_clear, evaluateInfrastructureSignals_clear]
  constructor
  · rintro ⟨⟨⟨⟨hdaily, hweekly, hdrawdown⟩, horder⟩, hloss, hstrategy, hstreak⟩, hsignals⟩
    exact ⟨hdaily, hweekly, hdrawdown, horder, hloss, hstrategy, hstreak, hsignals⟩
  · rintro ⟨hdaily, hweekly, hdrawdown, horder, hloss, hstrategy, hstreak, hsignals⟩
    exact ⟨⟨⟨⟨hdaily, hweekly, hdrawdown⟩, horder⟩, hloss, hstrategy, hstreak⟩, hsignals⟩

theorem NonNegativeBySign.byValue {text : String} {q : ℚ} (h : NonNegativeBySign text q) : NonNegativeByValue text q := by
  obtain ⟨d, hd, hsign, rfl⟩ := h
  exact ⟨finite_iff_valueOf.1 ⟨d, hd, rfl⟩, Dec.value_nonneg hsign⟩

theorem ExposuresWithin.byValue {context : RiskGateContext} {limits : ParsedThresholds} {bps : ℚ}
    (h : ExposuresWithin NonNegativeBySign context limits bps) : ExposuresWithin NonNegativeByValue context limits bps := by
  refine ⟨fun position hposition => ?_, h.markets, h.totalAlt⟩
  obtain ⟨q, hq⟩ := h.rows position hposition
  exact ⟨q, hq.byValue⟩

end Host

/-! ## Sample orders -/

/-- a MARKET order over half a percent of the equity, with this drawdown -/
def sampleContext (maxDrawdownBps : String) : RiskGateContext where
  orderIntent :=
    { exchangeId := "upbit", market := "KRW-BTC", strategyId := "s", side := .buy, requestedQuantity := "1",
      requestedNotional := "5000", idempotencyKey := "k", terms := .market, metadata := .undefined }
  account := ⟨"1000000", "0", "0", maxDrawdownBps⟩
  positions := [⟨"KRW-BTC", "100"⟩, ⟨"KRW-XRP", "200"⟩, ⟨"KRW-XRP", "300"⟩]
  strategy := ⟨"s", some 1⟩
  infrastructureSignals := [.notificationFailure]
  thresholds := defaultRiskLimitThresholds
  expectedLossBpsOfEquity := some "10"

def defaultLimits : ParsedThresholds := ⟨100, 300, 500, 100, 20, 2000, 500, 1500, 3⟩

theorem defaultLimits_parsed : parseThresholds defaultRiskLimitThresholds = .ok defaultLimits := by decide +kernel

end SeeMirai.Risk
