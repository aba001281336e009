/-
The paper decision runner (application/paper-decision-runner/service.ts): for every input frame and every strategy it asks
for a decision, turns it into order intents, and takes each through the cost model, the RiskGate and the execution engine
to the paper broker. Every stage leaves a trace record; a stage that says no ends the intent.

Strategies, cost model and RiskGate are ports and answer by the number of records traced so far, which is another one at
each call, so that they may keep any state. The awaits are sequential, so the engine's in-flight guard never finds an
entry. A call that throws ends the run.

Of the metrics only the fill count is modelled, to compare it with what the ledger shows.

Results:
- `RunnerStep`: what a run can do in one step, whatever the ports answer.
- `evaluateOrderIntent_steps` / `evaluateStrategyFrame_steps` / `processFrame_steps`: each stage is such steps.
- `run_steps`: so is a completed run, from its first broker on.
-/
import SeeMirai.Execution.EvidenceFactory
import SeeMirai.Paper.PersistedOrders

namespace SeeMirai.Decision

open Fallible Execution
open Risk (RiskGateContext RiskGateResult RiskLimitThresholds defaultRiskLimitThresholds InfrastructureRiskSignal)
open Paper (PaperBroker BrokerOrder PaperFillSimulationReasonCode)

/-! ## Trace -/

inductive TraceStage where
  | frameReceived
  | strategyDecision
  | orderIntentConversion
  | costDecision
  | riskDecision
  | executionResult
deriving DecidableEq, Repr

/-- what the stages put into a record's metadata -/
structure TraceMetadata where
  market : Option String := none
  exchangeId : Option String := none
  sourceId : Option String := none
  orderIntentCount : Option ℕ := none
  intentDirections : Option (List OrderSide) := none
  promotedCount : Option ℕ := none
  rejectionCount : Option ℕ := none
  intentSide : Option OrderSide := none
  tradeAllowed : Option Bool := none
  costBps : Option JsValue := none
  marginBps : Option JsValue := none
  approved : Option Bool := none
  action : Option String := none
  failedReasonCodes : Option (List String) := none
  brokerOrderId : Option String := none
  brokerOrderStatus : Option OrderLifecycleStatus := none
  filledQuantity : Option ℚ := none
  slippageBps : Option Paper.Quotient := none

structure TraceRecord where
  frameId : String
  strategyId : Option String
  stage : TraceStage
  status : String
  reasonCode : Option String
  message : Option String
  observedAt : MarketTimestamp
  metadata : TraceMetadata

/-! ## Input -/

structure PaperDecisionPosition extends Risk.PositionRiskSnapshot where
  exchangeId : String
  strategyId : Option String
  metadata : JsValue

structure RiskThresholdSnapshot where
  thresholds : RiskLimitThresholds
  source : String

/-- the frame's own risk values; a frame without any has none of them -/
structure PaperDecisionRiskInput where
  equityKrw : Option String
  dailyRealizedPnlBps : Option String
  weeklyRealizedPnlBps : Option String
  maxDrawdownBps : Option String
  positions : List PaperDecisionPosition
  strategyId : Option String
  consecutiveLosses : Option (Option ℚ)
  infrastructureSignals : List InfrastructureRiskSignal
  thresholdSnapshot : Option RiskThresholdSnapshot
  expectedLossBpsOfEquity : Option String

structure PaperDecisionInputFrame where
  id : String
  observedAt : MarketTimestamp
  exchangeId : String
  market : String
  features : JsonRecord
  orderbook : Option OrderbookEvent
  costInput : JsonRecord
  risk : PaperDecisionRiskInput
  phase15ApprovedAltMarkets : List String
  metadata : JsValue

inductive StrategyDecision where
  | hold (reason : String)
  | block (reasonCode reason : String)
  | orderIntent (reason : String) (orderIntents : List ExecutionIntent) (metadata : JsValue)

structure CostModelInput where
  exchangeId : String
  market : String
  evaluatedAt : MarketTimestamp
  frameId : String
  strategyId : String
  expectedReturnBps : JsValue
  entryFeeBps : JsValue
  exitFeeBps : JsValue
  spreadCostBpsP75 : JsValue
  expectedSlippageBpsP95 : JsValue
  cancelRequotePenaltyBps : JsValue
  safetyBufferBps : JsValue
  safetyBufferMarketCategory : Option String

structure CostDecision where
  kind : String
  tradeAllowed : Bool
  reasonCode : String
  message : String
  snapshot : JsonRecord

structure Strategy where
  id : String
  evaluate : ℕ → PaperDecisionInputFrame → Except Thrown StrategyDecision

/-- the ports of a runner, the broker apart -/
structure PaperDecisionRunner where
  strategies : List Strategy
  evaluateCost : ℕ → CostModelInput → Except Thrown CostDecision
  evaluateRiskGate : ℕ → RiskGateContext → Except Thrown RiskGateResult
  now : ℕ → MarketTimestamp

/-- the state of a run; `submissions` is what the broker was called with and the broker at the call, kept to speak about
a run's steps -/
structure RunnerState where
  broker : PaperBroker
  trace : List TraceRecord
  filledBrokerOrderIds : List String
  paperFillCount : ℕ
  submissions : List (PaperBroker × OrderSubmission)

/-! ## Records -/

def createTraceMetadata (frame : PaperDecisionInputFrame) (metadata : TraceMetadata) : TraceMetadata :=
  { metadata with
    market := metadata.market.or (some frame.market)
    exchangeId := metadata.exchangeId.or (some frame.exchangeId)
    sourceId := (frame.metadata.prop "source_id").asString.or metadata.sourceId }

def createTrace (frame : PaperDecisionInputFrame) (stage : TraceStage) (status : String)
    (strategyId reasonCode message : Option String) (metadata : TraceMetadata) : TraceRecord where
  frameId := frame.id
  strategyId := strategyId
  stage := stage
  status := status
  reasonCode := reasonCode
  message := message
  observedAt := frame.observedAt
  metadata := createTraceMetadata frame metadata

def RunnerState.push (state : RunnerState) (record : TraceRecord) : RunnerState :=
  { state with trace := state.trace ++ [record] }

def frameReceivedRecord (frame : PaperDecisionInputFrame) : TraceRecord :=
  createTrace frame .frameReceived "received" none none none {}

def strategyDecisionRecord (frame : PaperDecisionInputFrame) (strategyId : String) : StrategyDecision → TraceRecord
  | .hold reason =>
    createTrace frame .strategyDecision "HOLD" (some strategyId) (some reason) (some reason) {}
  | .block reasonCode reason =>
    createTrace frame .strategyDecision "BLOCK" (some strategyId) (some reasonCode) (some reason) {}
  | .orderIntent reason orderIntents _ =>
    createTrace frame .strategyDecision "ORDER_INTENT" (some strategyId) (some reason) (some reason)
      { orderIntentCount := some orderIntents.length, intentDirections := some (orderIntents.map (·.side)) }

/-! ## Conversion (application/strategies/decision-to-intents.ts) -/

structure StrategyDecisionIntentRejection where
  index : ℕ
  reasonCode : String
  message : String
deriving DecidableEq

structure StrategyDecisionIntentConversion where
  status : String
  orderIntents : List ExecutionIntent
  reasonCode : String
  message : String
  rejections : List StrategyDecisionIntentRejection

/-- `Object.assign(target, source)` -/
def assign (target : JsonRecord) : JsValue → JsonRecord
  | .object properties => properties.foldr (fun property target => assocSet target property.1 property.2) target
  | _ => target

def withPromotionMetadata (intent : ExecutionIntent) (reason : String) (decisionMetadata metadata : JsValue) :
    ExecutionIntent :=
  let merged := assign (assign (assign [] intent.metadata) decisionMetadata) metadata
  { intent with
    metadata := .object (assign merged (.object
      [("strategy_decision_kind", .string "ORDER_INTENT"), ("strategy_decision_reason", .string reason)])) }

section Host

variable [Host]

/-- MARKET orders are not allowed here -/
def validateOrderIntent (index : ℕ) (intent : ExecutionIntent) : List StrategyDecisionIntentRejection :=
  (if (trim intent.idempotencyKey).length = 0 then
    [⟨index, "idempotency_key_missing", "idempotencyKey is required"⟩] else []) ++
  (if intent.terms.orderType = .market then
    [⟨index, "market_order_disabled", "Market order intents are disabled"⟩] else []) ++
  (if isPositiveDecimal intent.requestedQuantity = false then
    [⟨index, "requested_quantity_invalid", "requestedQuantity must be a positive decimal string"⟩] else []) ++
  (if isPositiveDecimal intent.requestedNotional = false then
    [⟨index, "requested_notional_invalid", "requestedNotional must be a positive decimal string"⟩] else []) ++
  (if intent.terms.requestedPrice.any (fun price => isPositiveDecimal price = false) then
    [⟨index, "requested_price_invalid", "LIMIT requestedPrice must be a positive decimal string"⟩] else [])

/-- one invalid intent rejects all of them -/
def convertStrategyDecisionToOrderIntents (reason : String) (orderIntents : List ExecutionIntent)
    (decisionMetadata metadata : JsValue) : StrategyDecisionIntentConversion :=
  match orderIntents.zipIdx.flatMap (fun entry => validateOrderIntent entry.2 entry.1) with
  | [] =>
    { status := "PROMOTED"
      orderIntents := orderIntents.map (fun intent => withPromotionMetadata intent reason decisionMetadata metadata)
      reasonCode := "order_intent_promoted"
      message := reason
      rejections := [] }
  | rejections =>
    { status := "REJECTED"
      orderIntents := []
      reasonCode := "order_intent_validation_failed"
      message := "Strategy order intents failed validation"
      rejections := rejections }

end Host

def conversionRecord (frame : PaperDecisionInputFrame) (strategyId : String)
    (conversion : StrategyDecisionIntentConversion) : TraceRecord :=
  let directions := conversion.orderIntents.map (·.side)
  createTrace frame .orderIntentConversion conversion.status (some strategyId) (some conversion.reasonCode)
    (some conversion.message)
    { promotedCount := some conversion.orderIntents.length
      rejectionCount := some conversion.rejections.length
      intentDirections := if directions = [] then none else some directions }

/-! ## Stages -/

def readStringFeature (frame : PaperDecisionInputFrame) (key : String) : Option String :=
  ((JsValue.object frame.features).prop key).asString

/-- the quantity of the position of exactly this exchange, market and strategy -/
def readExitPositionQuantity (frame : PaperDecisionInputFrame) (intent : ExecutionIntent) : Option String := do
  let position ← frame.risk.positions.find? (fun position =>
    position.exchangeId = frame.exchangeId ∧ position.exchangeId = intent.exchangeId ∧
      position.market = intent.market ∧ position.strategyId = some intent.strategyId)
  let read (key : String) : Option String := (position.metadata.prop key).asString
  (read "position_quantity").or <| (read "position_total_quantity").or <| (read "total_quantity").or <|
    (read "totalQuantity").or (read "quantity")

section Host

variable [Host]

def resolvePaperDecisionPositionEffect (requestedQuantity totalQuantity : String) : String :=
  match parseFinancialDecimal requestedQuantity, parseFinancialDecimal totalQuantity with
  | .ok requested, .ok total => if requested = total then "EXIT" else "REDUCE"
  | _, _ => "REDUCE"

/-- a SELL with a position of its own becomes an exit intent -/
def createPaperDecisionExecutionIntent (frame : PaperDecisionInputFrame) (intent : ExecutionIntent) : ExecutionIntent :=
  match intent.side, readExitPositionQuantity frame intent with
  | .sell, some totalQuantity =>
    { intent with
      metadata := .object (assign (assign [] intent.metadata) (.object
        [("position_effect", .string (resolvePaperDecisionPositionEffect intent.requestedQuantity totalQuantity)),
          ("exit_reason_code",
            .string ((readStringFeature frame "exit_reason_code").getD "paper_decision_runner_sell_exit")),
          ("exit_rule_id",
            .string ((readStringFeature frame "exit_rule_id").getD ("paper_decision_runner:" ++ intent.strategyId))),
          ("position_scope", .object [("market", .string intent.market), ("strategyId", .string intent.strategyId),
            ("totalQuantity", .string totalQuantity)])])) }
  | _, _ => intent

end Host

/-- the frame's own cost value, else the feature where that is a text -/
def readCostInput (frame : PaperDecisionInputFrame) (costInputKey featureKey : String) : JsValue :=
  let explicitValue := (JsValue.object frame.costInput).prop costInputKey
  if explicitValue.isUndefined = false then explicitValue else JsValue.ofString (readStringFeature frame featureKey)

def createPaperDecisionCostInput (frame : PaperDecisionInputFrame) (intent : ExecutionIntent) : CostModelInput :=
  let safetyBufferBps := readCostInput frame "safetyBufferBps" "safety_buffer_bps"
  { exchangeId := intent.exchangeId
    market := intent.market
    evaluatedAt := frame.observedAt
    frameId := frame.id
    strategyId := intent.strategyId
    expectedReturnBps := readCostInput frame "expectedReturnBps" "expected_return_bps"
    entryFeeBps := readCostInput frame "entryFeeBps" "entry_fee_bps"
    exitFeeBps := readCostInput frame "exitFeeBps" "exit_fee_bps"
    spreadCostBpsP75 := readCostInput frame "spreadCostBpsP75" "spread_cost_bps_p75"
    expectedSlippageBpsP95 := readCostInput frame "expectedSlippageBpsP95" "expected_slippage_bps_p95"
    cancelRequotePenaltyBps := readCostInput frame "cancelRequotePenaltyBps" "cancel_requote_penalty_bps"
    safetyBufferBps := safetyBufferBps
    safetyBufferMarketCategory :=
      if safetyBufferBps.isUndefined ∧ intent.market ∈ frame.phase15ApprovedAltMarkets then some "TOP_ALT" else none }

/-- `value ?? null` -/
def orNull (value : JsValue) : JsValue := if value.isUndefined then .null else value

def costRecord (frame : PaperDecisionInputFrame) (intent : ExecutionIntent) (costDecision : CostDecision) : TraceRecord :=
  createTrace frame .costDecision costDecision.kind (some intent.strategyId) (some costDecision.reasonCode)
    (some costDecision.message)
    { intentSide := some intent.side
      tradeAllowed := some costDecision.tradeAllowed
      costBps := some (orNull ((JsValue.object costDecision.snapshot).prop "cost_bps"))
      marginBps := some (orNull ((JsValue.object costDecision.snapshot).prop "margin_bps")) }

def defaultAccountEquityKrw : String := "1000000"

def defaultExpectedLossBpsOfEquity : String := "5"

def readThresholdSnapshot (frame : PaperDecisionInputFrame) : RiskThresholdSnapshot :=
  frame.risk.thresholdSnapshot.getD ⟨defaultRiskLimitThresholds, "paper_decision_runner.default"⟩

/-- the frame's values, with a fixture's defaults for the missing ones -/
def createPaperDecisionRiskGateContext (frame : PaperDecisionInputFrame) (intent : ExecutionIntent) :
    RiskGateContext where
  orderIntent := intent
  account :=
    { equityKrw := frame.risk.equityKrw.getD defaultAccountEquityKrw
      dailyRealizedPnlBps := frame.risk.dailyRealizedPnlBps.getD "0"
      weeklyRealizedPnlBps := frame.risk.weeklyRealizedPnlBps.getD "0"
      maxDrawdownBps := frame.risk.maxDrawdownBps.getD "0" }
  positions := frame.risk.positions.map (·.toPositionRiskSnapshot)
  strategy :=
    { strategyId := frame.risk.strategyId.getD intent.strategyId
      consecutiveLosses := frame.risk.consecutiveLosses.getD (some 0) }
  infrastructureSignals := frame.risk.infrastructureSignals
  thresholds := (readThresholdSnapshot frame).thresholds
  expectedLossBpsOfEquity := some (frame.risk.expectedLossBpsOfEquity.getD
    ((readStringFeature frame "expected_loss_bps_of_equity").getD defaultExpectedLossBpsOfEquity))

def riskRecord (frame : PaperDecisionInputFrame) (intent : ExecutionIntent) (result : RiskGateResult) : TraceRecord :=
  createTrace frame .riskDecision (riskStatusText result.status) (some intent.strategyId)
    (some (riskActionText result.action))
    (some (if result.approved then "RiskGate approved paper order intent" else "RiskGate rejected paper order intent"))
    { intentSide := some intent.side
      approved := some result.approved
      action := some (riskActionText result.action)
      failedReasonCodes := some (result.failedEvaluations.map (·.reasonCode)) }

/-! ## Submission -/

def RiskThresholdSnapshot.json (snapshot : RiskThresholdSnapshot) : JsValue :=
  .object [("thresholds", .object [
      ("dailyLossLimitBps", .string snapshot.thresholds.dailyLossLimitBps),
      ("weeklyLossLimitBps", .string snapshot.thresholds.weeklyLossLimitBps),
      ("maxDrawdownBps", .string snapshot.thresholds.maxDrawdownBps),
      ("maxOrderNotionalBpsOfEquity", .string snapshot.thresholds.maxOrderNotionalBpsOfEquity),
      ("maxExpectedLossBpsOfEquity", .string snapshot.thresholds.maxExpectedLossBpsOfEquity),
      ("btcEthMaxPositionBpsOfEquity", .string snapshot.thresholds.btcEthMaxPositionBpsOfEquity),
      ("altMaxPositionBpsOfEquity", .string snapshot.thresholds.altMaxPositionBpsOfEquity),
      ("totalAltMaxPositionBpsOfEquity", .string snapshot.thresholds.totalAltMaxPositionBpsOfEquity),
      ("maxConsecutiveStrategyLosses", .number snapshot.thresholds.maxConsecutiveStrategyLosses)]),
    ("source", .string snapshot.source)]

def isExitPositionEffect (positionEffect : Option String) : Bool :=
  positionEffect = some "REDUCE" ∨ positionEffect = some "EXIT"

section Host

variable [Host]

/-- `{ ...snapshot, source: "cost_model", order_intent }` -/
def createExecutionCostSnapshotEvidence (snapshot : JsonRecord) (intent : ExecutionIntent)
    (expectedLossBpsOfEquity : Option String) : JsValue :=
  .object (assocSet (assocSet snapshot "source" (.string "cost_model")) "order_intent"
    (.object (createOrderIntentEvidence intent expectedLossBpsOfEquity)))

/-- exit evidence for a SELL with exit metadata, entry evidence for everything else -/
def createPaperDecisionExecutionCostEvidence (intent : ExecutionIntent) (costDecision : CostDecision)
    (expectedLossBpsOfEquity : Option String) : JsValue :=
  let read (key : String) : Option String := ((JsValue.object costDecision.snapshot).prop key).asString
  if intent.side = .sell ∧ isExitPositionEffect (readOrderIntentPositionEffect intent) then
    .object [("source", .string "exit_cost_model"), ("exit_cost_allowed", .bool costDecision.tradeAllowed),
      ("exit_cost_reason_code", .string
        (if costDecision.reasonCode = "cost_margin_ok" then "exit_cost_margin_ok" else costDecision.reasonCode)),
      ("exit_cost_bps", .string (((read "cost_bps").or (read "exit_fee_bps")).getD "0")),
      ("exit_slippage_bps", .string ((read "expected_slippage_bps_p95").getD "0")),
      ("position_scope", .object [("market", .string intent.market), ("strategy_id", .string intent.strategyId),
        ("total_quantity", JsValue.ofString ((intent.metadata.prop "position_scope").prop "totalQuantity").asString)]),
      ("order_intent", .object (createOrderIntentEvidence intent expectedLossBpsOfEquity))]
  else createExecutionCostSnapshotEvidence costDecision.snapshot intent expectedLossBpsOfEquity

def createPaperDecisionSubmission (frame : PaperDecisionInputFrame) (intent : ExecutionIntent)
    (costDecision : CostDecision) (context : RiskGateContext) (result : RiskGateResult) : ExecutionSubmission where
  intent := intent
  costSnapshot := createPaperDecisionExecutionCostEvidence intent costDecision context.expectedLossBpsOfEquity
  riskApproval := createExecutionRiskApprovalEvidence result context (readThresholdSnapshot frame).json
  expectedLossBpsOfEquity := context.expectedLossBpsOfEquity
  submittedAt := frame.observedAt

/-! ## Execution -/

/-- what the broker reads of a submission -/
def brokerSubmission (submission : ExecutionSubmission) : OrderSubmission :=
  ⟨submission.intent.toOrderIntent, submission.submittedAt⟩

/-- `ExecutionEngine.submitOrder` with nothing in flight: a validation that refuses, or the broker's order -/
def submitToEngine (broker : PaperBroker) (submission : ExecutionSubmission) (now : MarketTimestamp) :
    Except Thrown (PaperBroker × (ExecutionRejection ⊕ BrokerOrder)) :=
  match validateExecutionSubmission submission defaultPaperExecutionSafetyConfig with
  | some rejection => pure (broker, .inl rejection)
  | none => do
    let order ← (broker.submitOrder (brokerSubmission submission) now).2
    pure ((broker.submitOrder (brokerSubmission submission) now).1, .inr order)

end Host

def rejectionReasonText : ExecutionRejectionReasonCode → String
  | .idempotencyKeyMissing => "idempotency_key_missing"
  | .idempotencyKeyCollision => "idempotency_key_collision"
  | .liveTradingDisabled => "live_trading_disabled"
  | .paperNoKeyRequired => "paper_no_key_required"
  | .marketOrderDisabled => "market_order_disabled"
  | .entryMarketOrderDisabled => "entry_market_order_disabled"
  | .orderAmountInvalid => "order_amount_invalid"
  | .costSnapshotMissing => "cost_snapshot_missing"
  | .costSnapshotNotAllowed => "cost_snapshot_not_allowed"
  | .costSnapshotMismatch => "cost_snapshot_mismatch"
  | .riskApprovalMissing => "risk_approval_missing"
  | .riskApprovalNotApproved => "risk_approval_not_approved"
  | .riskApprovalMismatch => "risk_approval_mismatch"
  | .exitCostEvidenceOnEntry => "exit_cost_evidence_on_entry"
  | .exitCostEvidenceInvalid => "exit_cost_evidence_invalid"
  | .exitPositionScopeMismatch => "exit_position_scope_mismatch"
  | .exitSellQuantityExceedsPosition => "exit_sell_quantity_exceeds_position"
  | .exitSellQuantityMismatchPosition => "exit_sell_quantity_mismatch_position"

def fillReasonText : PaperFillSimulationReasonCode → String
  | .limitCrossedFull => "limit_crossed_full"
  | .limitCrossedPartial => "limit_crossed_partial"
  | .limitNotCrossed => "limit_not_crossed"
  | .postOnlyWouldTakeRejected => "post_only_would_take_rejected"
  | .postOnlyWouldTakePending => "post_only_would_take_pending"
  | .iocFilledAndCanceled => "ioc_filled_and_canceled"
  | .iocUnfilledCanceled => "ioc_unfilled_canceled"
  | .fokNotFilled => "fok_not_filled"
  | .marketOrderSimulationDisabled => "market_order_simulation_disabled"
  | .latencySnapshotMissing => "latency_snapshot_missing"
  | .orderbookSnapshotMissing => "orderbook_snapshot_missing"
  | .orderbookIntentMismatch => "orderbook_intent_mismatch"

/-- the quantity that an order was simulated to fill, whatever became of the order -/
def simulatedQuantity (order : BrokerOrder) : ℚ :=
  (order.metadata.paperFillSimulation.map (·.filledQuantity)).getD 0

def engineRejectedRecord (frame : PaperDecisionInputFrame) (intent : ExecutionIntent) (rejection : ExecutionRejection) :
    TraceRecord :=
  createTrace frame .executionResult "REJECTED" (some intent.strategyId)
    (some (rejectionReasonText rejection.reasonCode)) (some rejection.message) {}

def executionRecord (frame : PaperDecisionInputFrame) (intent : ExecutionIntent) (order : BrokerOrder) : TraceRecord :=
  createTrace frame .executionResult "SUBMITTED" (some intent.strategyId)
    (order.metadata.paperFillSimulation.map fun simulation => fillReasonText simulation.reasonCode)
    (some "Paper broker returned an execution result")
    { brokerOrderId := some order.brokerOrderId
      brokerOrderStatus := some order.status
      intentSide := some intent.side
      filledQuantity := some (simulatedQuantity order)
      slippageBps := order.metadata.paperFillSimulation.bind (·.slippageBps) }

/-- the runner's own count leaves out rejected orders, and an order that is returned again -/
def countPaperFill (state : RunnerState) (order : BrokerOrder) : RunnerState :=
  if order.status ≠ .rejected ∧ order.brokerOrderId ∉ state.filledBrokerOrderIds ∧ 0 < simulatedQuantity order then
    { state with
      filledBrokerOrderIds := state.filledBrokerOrderIds ++ [order.brokerOrderId]
      paperFillCount := state.paperFillCount + 1 }
  else state

def recordExecutionResult (frame : PaperDecisionInputFrame) (intent : ExecutionIntent) (state : RunnerState) :
    ExecutionRejection ⊕ BrokerOrder → RunnerState
  | .inl rejection => state.push (engineRejectedRecord frame intent rejection)
  | .inr order => (countPaperFill state order).push (executionRecord frame intent order)

/-! ## The run -/

section Run

variable [Host]

/-- the broker after a submission, and the call noted where it was made -/
def RunnerState.submitted (state : RunnerState) (submission : ExecutionSubmission) (broker : PaperBroker) : RunnerState :=
  { state with
    broker := broker
    submissions :=
      if (validateExecutionSubmission submission defaultPaperExecutionSafetyConfig).isNone then
        state.submissions ++ [(state.broker, brokerSubmission submission)]
      else state.submissions }

def evaluateOrderIntent (runner : PaperDecisionRunner) (frame : PaperDecisionInputFrame) (state : RunnerState)
    (orderIntent : ExecutionIntent) : Except Thrown RunnerState := do
  let intent := createPaperDecisionExecutionIntent frame orderIntent
  let costDecision ← runner.evaluateCost state.trace.length (createPaperDecisionCostInput frame intent)
  let state := state.push (costRecord frame intent costDecision)
  if costDecision.tradeAllowed = false then pure state
  else
    let context := createPaperDecisionRiskGateContext frame intent
    let riskGateResult ← runner.evaluateRiskGate state.trace.length context
    let state := state.push (riskRecord frame intent riskGateResult)
    if riskGateResult.approved = false then pure state
    else
      let submission := createPaperDecisionSubmission frame intent costDecision context riskGateResult
      let (broker, result) ← submitToEngine state.broker submission (runner.now state.trace.length)
      pure (recordExecutionResult frame intent (state.submitted submission broker) result)

def runnerMetadata (frame : PaperDecisionInputFrame) : JsValue :=
  .object [("paper_decision_runner", .bool true), ("frame_id", .string frame.id)]

def evaluateStrategyFrame (runner : PaperDecisionRunner) (frame : PaperDecisionInputFrame) (state : RunnerState)
    (strategy : Strategy) : Except Thrown RunnerState := do
  let decision ← strategy.evaluate state.trace.length frame
  let state := state.push (strategyDecisionRecord frame strategy.id decision)
  match decision with
  | .hold _ => pure state
  | .block _ _ => pure state
  | .orderIntent reason orderIntents metadata =>
    let conversion := convertStrategyDecisionToOrderIntents reason orderIntents metadata (runnerMetadata frame)
    conversion.orderIntents.foldlM (evaluateOrderIntent runner frame)
      (state.push (conversionRecord frame strategy.id conversion))

/-- the frame's orderbook is recorded before its strategies are asked -/
def receiveOrderbook (state : RunnerState) : Option OrderbookEvent → Except Thrown RunnerState
  | none => pure state
  | some orderbook =>
    let (orderbooksByMarket, recorded) := Paper.recordOrderbookSnapshot state.broker.orderbooksByMarket orderbook
    (fun _ => { state with broker := { state.broker with orderbooksByMarket := orderbooksByMarket } }) <$> recorded

def processFrame (runner : PaperDecisionRunner) (state : RunnerState) (frame : PaperDecisionInputFrame) :
    Except Thrown RunnerState := do
  let state ← receiveOrderbook (state.push (frameReceivedRecord frame)) frame.orderbook
  runner.strategies.foldlM (evaluateStrategyFrame runner frame) state

def RunnerState.start (broker : PaperBroker) : RunnerState := ⟨broker, [], [], 0, []⟩

/-- the frames that the source yields, up to the frame limit; a completed run is its last state -/
def PaperDecisionRunner.run (runner : PaperDecisionRunner) (broker : PaperBroker)
    (frames : List PaperDecisionInputFrame) : Except Thrown RunnerState :=
  frames.foldlM (processFrame runner) (RunnerState.start broker)

/-! ## What a step can do -/

/-- one step: a frame comes in, its orderbook is recorded, a stage before the engine is traced, the engine refuses, or the
broker returns an order -/
inductive RunnerStep (state : RunnerState) : RunnerState → Prop where
  | frame (frame : PaperDecisionInputFrame) : RunnerStep state (state.push (frameReceivedRecord frame))
  | orderbook (orderbooksByMarket : InsertionMap String (List OrderbookEvent)) :
      RunnerStep state { state with broker := { state.broker with orderbooksByMarket := orderbooksByMarket } }
  | stage (record : TraceRecord) (hframe : record.stage ≠ .frameReceived) (hexecution : record.stage ≠ .executionResult)
      (hstrategy : record.strategyId.isSome) : RunnerStep state (state.push record)
  | refused (frame : PaperDecisionInputFrame) (intent : ExecutionIntent) (rejection : ExecutionRejection) :
      RunnerStep state (state.push (engineRejectedRecord frame intent rejection))
  | submitted (frame : PaperDecisionInputFrame) (intent : ExecutionIntent) (submission : OrderSubmission)
      (now : MarketTimestamp) (order : BrokerOrder) (hok : (state.broker.submitOrder submission now).2 = .ok order) :
      RunnerStep state ((countPaperFill { state with
        broker := (state.broker.submitOrder submission now).1
        submissions := state.submissions ++ [(state.broker, submission)] } order).push (executionRecord frame intent order))

/-- a sequence of steps -/
abbrev RunnerSteps : RunnerState → RunnerState → Prop := Relation.ReflTransGen RunnerStep

variable {runner : PaperDecisionRunner} {frame : PaperDecisionInputFrame} {state state' : RunnerState}

/-- the engine refuses and nothing moves, or the broker returns an order -/
theorem submitToEngine_cases {submission : ExecutionSubmission} {now : MarketTimestamp} {broker broker' : PaperBroker}
    {result : ExecutionRejection ⊕ BrokerOrder} (h : submitToEngine broker submission now = .ok (broker', result)) :
    (∃ rejection, validateExecutionSubmission submission defaultPaperExecutionSafetyConfig = some rejection ∧
      broker' = broker ∧ result = .inl rejection) ∨
    ∃ order, validateExecutionSubmission submission defaultPaperExecutionSafetyConfig = none ∧
      (broker.submitOrder (brokerSubmission submission) now).2 = .ok order ∧
      broker' = (broker.submitOrder (brokerSubmission submission) now).1 ∧ result = .inr order := by
  unfold submitToEngine at h
  split at h
  · rename_i rejection hrejection
    cases pure_eq_ok.1 h
    exact Or.inl ⟨rejection, hrejection, rfl, rfl⟩
  · rename_i hvalid
    obtain ⟨order, hok, h⟩ := bind_eq_ok.1 h
    cases pure_eq_ok.1 h
    exact Or.inr ⟨order, hvalid, hok, rfl, rfl⟩

theorem costRecord_step (state : RunnerState) (frame : PaperDecisionInputFrame) (intent : ExecutionIntent)
    (costDecision : CostDecision) : RunnerStep state (state.push (costRecord frame intent costDecision)) :=
  .stage _ nofun nofun rfl

theorem riskRecord_step (state : RunnerState) (frame : PaperDecisionInputFrame) (intent : ExecutionIntent)
    (result : RiskGateResult) : RunnerStep state (state.push (riskRecord frame intent result)) :=
  .stage _ nofun nofun rfl

theorem evaluateOrderIntent_steps {intent : ExecutionIntent}
    (h : evaluateOrderIntent runner frame state intent = .ok state') : RunnerSteps state state' := by
  obtain ⟨costDecision, -, h⟩ := bind_eq_ok.1 h
  have hcost := costRecord_step state frame (createPaperDecisionExecutionIntent frame intent) costDecision
  simp only at h
  split_ifs at h
  · obtain rfl := pure_eq_ok.1 h
    exact .single hcost
  · obtain ⟨result, -, h⟩ := bind_eq_ok.1 h
    have hrisk := riskRecord_step (state.push (costRecord frame (createPaperDecisionExecutionIntent frame intent)
      costDecision)) frame (createPaperDecisionExecutionIntent frame intent) result
    split_ifs at h
    · obtain rfl := pure_eq_ok.1 h
      exact .tail (.single hcost) hrisk
    · obtain ⟨⟨broker, outcome⟩, hsubmitted, h⟩ := bind_eq_ok.1 h
      obtain rfl := pure_eq_ok.1 h
      refine .tail (.tail (.single hcost) hrisk) ?_
      rcases submitToEngine_cases hsubmitted with ⟨rejection, hrejection, rfl, rfl⟩ | ⟨order, hvalid, hok, rfl, rfl⟩
      · have hsame : ∀ (s : RunnerState) submission, validateExecutionSubmission submission
            defaultPaperExecutionSafetyConfig = some rejection → s.submitted submission s.broker = s := by
          intro s submission hrefused
          simp [RunnerState.submitted, hrefused]
        rw [hsame _ _ hrejection]
        exact .refused frame _ rejection
      · simp only [RunnerState.submitted, hvalid, Option.isNone_none, if_true]
        exact .submitted frame _ _ _ order hok

theorem evaluateStrategyFrame_steps {strategy : Strategy}
    (h : evaluateStrategyFrame runner frame state strategy = .ok state') : RunnerSteps state state' := by
  obtain ⟨decision, -, h⟩ := bind_eq_ok.1 h
  have hdecision : RunnerStep state (state.push (strategyDecisionRecord frame strategy.id decision)) := by
    cases decision with
    | hold reason => exact .stage _ nofun nofun rfl
    | block reasonCode reason => exact .stage _ nofun nofun rfl
    | orderIntent reason orderIntents metadata => exact .stage _ nofun nofun rfl
  cases decision with
  | hold reason =>
    obtain rfl := pure_eq_ok.1 h
    exact .single hdecision
  | block reasonCode reason =>
    obtain rfl := pure_eq_ok.1 h
    exact .single hdecision
  | orderIntent reason orderIntents metadata =>
    refine foldlM_keeps (RunnerSteps state) (fun before intent after _ hstep hbefore => ?_) h ?_
    · exact hbefore.trans (evaluateOrderIntent_steps hstep)
    · exact .tail (.single hdecision) (.stage _ nofun nofun rfl)

theorem receiveOrderbook_steps {orderbook : Option OrderbookEvent} (h : receiveOrderbook state orderbook = .ok state') :
    RunnerSteps state state' := by
  cases orderbook with
  | none =>
    obtain rfl := pure_eq_ok.1 h
    exact .refl
  | some orderbook =>
    obtain ⟨_, -, rfl⟩ := map_eq_ok.1 h
    exact .single (.orderbook _)

theorem processFrame_steps (h : processFrame runner state frame = .ok state') : RunnerSteps state state' := by
  obtain ⟨received, hreceived, h⟩ := bind_eq_ok.1 h
  refine foldlM_keeps (RunnerSteps state) (fun before strategy after _ hstep hbefore => ?_) h ?_
  · exact hbefore.trans (evaluateStrategyFrame_steps hstep)
  · exact .head (.frame frame) (receiveOrderbook_steps hreceived)

/-- a completed run is a sequence of steps -/
theorem run_steps {broker : PaperBroker} {frames : List PaperDecisionInputFrame}
    (h : runner.run broker frames = .ok state) : RunnerSteps (RunnerState.start broker) state :=
  foldlM_keeps (RunnerSteps (RunnerState.start broker))
    (fun _ _ _ _ hstep hbefore => hbefore.trans (processFrame_steps hstep)) h .refl

end Run

end SeeMirai.Decision
