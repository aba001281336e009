/-
What the runner counts along a run (application/paper-decision-runner/service.ts): reasons by axis, cost decisions, risk
rejections, submitted orders, slippage and the fills its own PnL is made of. The counters sit beside the run: a metered
run is the run of `Decision.Runner` with an accumulator that reads what the stages return and decides nothing.

`filledBrokerOrderIds` and `paperFillCount` are kept in the run state. The reason maps are object literals. The order of
their entries, which `sortCounts` changes, is left out, and so is the fill rate, a rounded double.

Results:
- `meteredRun_run`: leaving out the accumulator gives the run.
- `MeteredStep`: what a metered run can do in one step.
- `meteredRun_steps`: a completed metered run is such steps.
-/
import SeeMirai.Decision.Submissions
import SeeMirai.Lib.ObjectCounts

namespace SeeMirai.Decision

open Fallible Execution
open Risk (RiskGateContext RiskGateResult)
open Paper (PaperBroker BrokerOrder)
open ObjectCounts (increment)

/-! ## Accumulator -/

/-- the prefixes of the blocking reasons -/
inductive ReasonAxis where
  | hold
  | discard
  | cost
  | risk
deriving DecidableEq, Repr

def ReasonAxis.text : ReasonAxis → String
  | .hold => "hold"
  | .discard => "discard"
  | .cost => "cost"
  | .risk => "risk"

/-- `hold:…`, `discard:…`, `cost:…` or `risk:…` -/
def reasonKey (axis : ReasonAxis) (reason : String) : String := axis.text ++ ":" ++ reason

structure PaperPnlFillInput where
  orderId : String
  market : String
  side : OrderSide
  filledQuantity : ℚ
  totalFillNotional : ℚ
  totalFee : ℚ
deriving DecidableEq

structure PaperDecisionMetricAccumulator where
  strategyEvaluationCount : ℕ
  orderCandidateCount : ℕ
  orderIntentCount : ℕ
  holdReasonCounts : ObjectCounts
  discardReasonCounts : ObjectCounts
  costRejectedCount : ℕ
  riskRejectedCount : ℕ
  paperOrderSubmittedCount : ℕ
  blockingReasonCounts : ObjectCounts
  costBpsValues : List ℚ
  requiredReturnBpsValues : List ℚ
  marginBpsValues : List ℚ
  costAllowedCount : ℕ
  costEvaluatedCount : ℕ
  slippageBpsValues : List ℚ
  submittedBrokerOrderIds : List String
  pnlFills : List PaperPnlFillInput
  pnlMarkPricesByMarket : InsertionMap String ℚ

def createMetricAccumulator : PaperDecisionMetricAccumulator where
  strategyEvaluationCount := 0
  orderCandidateCount := 0
  orderIntentCount := 0
  holdReasonCounts := InsertionMap.empty
  discardReasonCounts := InsertionMap.empty
  costRejectedCount := 0
  riskRejectedCount := 0
  paperOrderSubmittedCount := 0
  blockingReasonCounts := InsertionMap.empty
  costBpsValues := []
  requiredReturnBpsValues := []
  marginBpsValues := []
  costAllowedCount := 0
  costEvaluatedCount := 0
  slippageBpsValues := []
  submittedBrokerOrderIds := []
  pnlFills := []
  pnlMarkPricesByMarket := InsertionMap.empty

namespace PaperDecisionMetricAccumulator

/-- a reason in the explicit map of discards and among the blocking reasons -/
def discard (metrics : PaperDecisionMetricAccumulator) (reason : String) : PaperDecisionMetricAccumulator :=
  { metrics with
    discardReasonCounts := increment metrics.discardReasonCounts reason
    blockingReasonCounts := increment metrics.blockingReasonCounts (reasonKey .discard reason) }

def recordStrategyDecision (metrics : PaperDecisionMetricAccumulator) :
    StrategyDecision → PaperDecisionMetricAccumulator
  | .hold reason =>
    { metrics with
      strategyEvaluationCount := metrics.strategyEvaluationCount + 1
      holdReasonCounts := increment metrics.holdReasonCounts reason
      blockingReasonCounts := increment metrics.blockingReasonCounts (reasonKey .hold reason) }
  | .block reasonCode _ =>
    { metrics with strategyEvaluationCount := metrics.strategyEvaluationCount + 1 }.discard reasonCode
  | .orderIntent _ orderIntents _ =>
    { metrics with
      strategyEvaluationCount := metrics.strategyEvaluationCount + 1
      orderCandidateCount := metrics.orderCandidateCount + orderIntents.length }

def recordConversion (metrics : PaperDecisionMetricAccumulator) (conversion : StrategyDecisionIntentConversion) :
    PaperDecisionMetricAccumulator :=
  conversion.rejections.foldl (fun metrics rejection => metrics.discard rejection.reasonCode) metrics

def recordRiskDecision (metrics : PaperDecisionMetricAccumulator) (result : RiskGateResult) :
    PaperDecisionMetricAccumulator :=
  if result.approved then metrics
  else
    result.failedEvaluations.foldl
      (fun metrics evaluation =>
        { metrics with
          blockingReasonCounts := increment metrics.blockingReasonCounts (reasonKey .risk evaluation.reasonCode) })
      { metrics with riskRejectedCount := metrics.riskRejectedCount + 1 }

/-- an order that the broker returns again is no new submission -/
def recordSubmission (metrics : PaperDecisionMetricAccumulator) (order : BrokerOrder) :
    PaperDecisionMetricAccumulator :=
  if order.brokerOrderId ∈ metrics.submittedBrokerOrderIds then metrics
  else
    { metrics with
      submittedBrokerOrderIds := metrics.submittedBrokerOrderIds ++ [order.brokerOrderId]
      paperOrderSubmittedCount := metrics.paperOrderSubmittedCount + 1 }

end PaperDecisionMetricAccumulator

/-- the slippage as it is read back: a text that is no finite number is not read -/
def readSlippageBps (order : BrokerOrder) : Option ℚ :=
  match order.metadata.paperFillSimulation.bind (·.slippageBps) with
  | some (.finite value) => some value
  | _ => none

def pnlFill (order : BrokerOrder) (fill : Paper.PaperFill) : PaperPnlFillInput where
  orderId := order.brokerOrderId
  market := order.market
  side := order.side
  filledQuantity := fill.quantity
  totalFillNotional := fill.notional
  totalFee := fill.fee

/-- the fills of an order that is not rejected, those of a positive quantity -/
def appendPaperPnlFills (target : List PaperPnlFillInput) (order : BrokerOrder) : List PaperPnlFillInput :=
  if order.status = .rejected then target
  else
    let fills := (order.metadata.paperFillSimulation.map (·.fills)).getD []
    target ++ (fills.filter (0 < ·.quantity)).map (pnlFill order)

/-- an order that is counted as a fill now -/
def IsNewPaperFill (filledBrokerOrderIds : List String) (order : BrokerOrder) : Prop :=
  order.status ≠ .rejected ∧ order.brokerOrderId ∉ filledBrokerOrderIds ∧ 0 < simulatedQuantity order

instance (filledBrokerOrderIds : List String) (order : BrokerOrder) :
    Decidable (IsNewPaperFill filledBrokerOrderIds order) :=
  inferInstanceAs (Decidable (_ ∧ _ ∧ _))

namespace PaperDecisionMetricAccumulator

def recordFill (metrics : PaperDecisionMetricAccumulator) (filledBrokerOrderIds : List String) (order : BrokerOrder) :
    PaperDecisionMetricAccumulator :=
  if IsNewPaperFill filledBrokerOrderIds order then
    { metrics with
      slippageBpsValues := metrics.slippageBpsValues ++ (readSlippageBps order).toList
      pnlFills := appendPaperPnlFills metrics.pnlFills order }
  else metrics

def recordOrder (metrics : PaperDecisionMetricAccumulator) (filledBrokerOrderIds : List String) (order : BrokerOrder) :
    PaperDecisionMetricAccumulator :=
  let metrics := (metrics.recordSubmission order).recordFill filledBrokerOrderIds order
  if order.status = .rejected then metrics.discard "paper_broker_rejected" else metrics

def recordExecutionResult (metrics : PaperDecisionMetricAccumulator) (filledBrokerOrderIds : List String) :
    ExecutionRejection ⊕ BrokerOrder → PaperDecisionMetricAccumulator
  | .inl rejection => metrics.discard (rejectionReasonText rejection.reasonCode)
  | .inr order => metrics.recordOrder filledBrokerOrderIds order

end PaperDecisionMetricAccumulator

section Host

variable [Host]

/-- a text that reads as a finite decimal -/
def readDecimalValue (value : JsValue) : Option ℚ :=
  value.asString.bind fun text => (parseFinancialDecimal text).toOption

def PaperDecisionMetricAccumulator.recordCostDecision (metrics : PaperDecisionMetricAccumulator)
    (costDecision : CostDecision) : PaperDecisionMetricAccumulator :=
  let read (key : String) : List ℚ := (readDecimalValue ((JsValue.object costDecision.snapshot).prop key)).toList
  let metrics :=
    { metrics with
      costEvaluatedCount := metrics.costEvaluatedCount + 1
      costBpsValues := metrics.costBpsValues ++ read "cost_bps"
      requiredReturnBpsValues := metrics.requiredReturnBpsValues ++ read "required_return_bps"
      marginBpsValues := metrics.marginBpsValues ++ read "margin_bps" }
  if costDecision.tradeAllowed then { metrics with costAllowedCount := metrics.costAllowedCount + 1 }
  else
    { metrics with
      costRejectedCount := metrics.costRejectedCount + 1
      blockingReasonCounts := increment metrics.blockingReasonCounts (reasonKey .cost costDecision.reasonCode) }

/-- the greatest readable bid -/
def readBestBidPrice (orderbook : OrderbookEvent) : Option ℚ :=
  orderbook.bids.foldl (fun best level =>
    match (parseFinancialDecimal level.price).toOption with
    | none => best
    | some price => some (best.elim price fun best => if best < price then price else best)) none

def PaperDecisionMetricAccumulator.recordPnlMarkPrice (metrics : PaperDecisionMetricAccumulator)
    (orderbook : OrderbookEvent) : PaperDecisionMetricAccumulator :=
  match readBestBidPrice orderbook with
  | none => metrics
  | some price =>
    { metrics with pnlMarkPricesByMarket := metrics.pnlMarkPricesByMarket.set orderbook.market price }

end Host

/-! ## The metered run -/

/-- a run and what it has counted; `decisions` is what the strategies answered, kept to speak about a run's steps -/
structure Metered where
  run : RunnerState
  metrics : PaperDecisionMetricAccumulator
  decisions : List StrategyDecision

namespace Metered

def start (broker : PaperBroker) : Metered := ⟨RunnerState.start broker, createMetricAccumulator, []⟩

def push (state : Metered) (record : TraceRecord) : Metered := { state with run := state.run.push record }

def meter (state : Metered) (count : PaperDecisionMetricAccumulator → PaperDecisionMetricAccumulator) : Metered :=
  { state with metrics := count state.metrics }

section Host

variable [Host]

def evaluateOrderIntent (runner : PaperDecisionRunner) (frame : PaperDecisionInputFrame) (state : Metered)
    (orderIntent : ExecutionIntent) : Except Thrown Metered := do
  let state := state.meter fun metrics => { metrics with orderIntentCount := metrics.orderIntentCount + 1 }
  let intent := createPaperDecisionExecutionIntent frame orderIntent
  let costDecision ← runner.evaluateCost state.run.trace.length (createPaperDecisionCostInput frame intent)
  let state := (state.meter (·.recordCostDecision costDecision)).push (costRecord frame intent costDecision)
  if costDecision.tradeAllowed = false then pure state
  else
    let context := createPaperDecisionRiskGateContext frame intent
    let riskGateResult ← runner.evaluateRiskGate state.run.trace.length context
    let state := (state.meter (·.recordRiskDecision riskGateResult)).push (riskRecord frame intent riskGateResult)
    if riskGateResult.approved = false then pure state
    else
      let submission := createPaperDecisionSubmission frame intent costDecision context riskGateResult
      let (broker, result) ← submitToEngine state.run.broker submission (runner.now state.run.trace.length)
      let metrics := state.metrics.recordExecutionResult state.run.filledBrokerOrderIds result
      pure { state with
        run := recordExecutionResult frame intent (state.run.submitted submission broker) result
        metrics := metrics }

def evaluateStrategyFrame (runner : PaperDecisionRunner) (frame : PaperDecisionInputFrame) (state : Metered)
    (strategy : Strategy) : Except Thrown Metered := do
  let decision ← strategy.evaluate state.run.trace.length frame
  let state := { state.meter (·.recordStrategyDecision decision) with decisions := state.decisions ++ [decision] }
  let state := state.push (strategyDecisionRecord frame strategy.id decision)
  match decision with
  | .hold _ => pure state
  | .block _ _ => pure state
  | .orderIntent reason orderIntents metadata =>
    let conversion := convertStrategyDecisionToOrderIntents reason orderIntents metadata (runnerMetadata frame)
    conversion.orderIntents.foldlM (evaluateOrderIntent runner frame)
      ((state.meter (·.recordConversion conversion)).push (conversionRecord frame strategy.id conversion))

/-- the mark price is taken once the orderbook is recorded -/
def receiveOrderbook (state : Metered) (orderbook : Option OrderbookEvent) : Except Thrown Metered :=
  (fun run => { state with
    run := run
    metrics := orderbook.elim state.metrics state.metrics.recordPnlMarkPrice })
      <$> Decision.receiveOrderbook state.run orderbook

def processFrame (runner : PaperDecisionRunner) (state : Metered) (frame : PaperDecisionInputFrame) :
    Except Thrown Metered := do
  let state ← (state.push (frameReceivedRecord frame)).receiveOrderbook frame.orderbook
  runner.strategies.foldlM (evaluateStrategyFrame runner frame) state

end Host

end Metered

section Run

variable [Host]

def PaperDecisionRunner.meteredRun (runner : PaperDecisionRunner) (broker : PaperBroker)
    (frames : List PaperDecisionInputFrame) : Except Thrown Metered :=
  frames.foldlM (Metered.processFrame runner) (Metered.start broker)

variable {runner : PaperDecisionRunner} {frame : PaperDecisionInputFrame} {state state' : Metered}

/-! ## The accumulator decides nothing -/

theorem evaluateOrderIntent_run (state : Metered) (orderIntent : ExecutionIntent) :
    evaluateOrderIntent runner frame state.run orderIntent
      = Metered.run <$> Metered.evaluateOrderIntent runner frame state orderIntent := by
  unfold evaluateOrderIntent Metered.evaluateOrderIntent
  simp only [Metered.meter, Metered.push]
  cases runner.evaluateCost state.run.trace.length
      (createPaperDecisionCostInput frame (createPaperDecisionExecutionIntent frame orderIntent)) with
  | error e => rfl
  | ok costDecision =>
    simp only [ok_bind]
    split_ifs
    · rfl
    · cases runner.evaluateRiskGate _ _ with
      | error e => rfl
      | ok riskGateResult =>
        simp only [ok_bind]
        split_ifs
        · rfl
        · cases submitToEngine _ _ _ with
          | error e => rfl
          | ok result => rfl

theorem evaluateStrategyFrame_run (state : Metered) (strategy : Strategy) :
    evaluateStrategyFrame runner frame state.run strategy
      = Metered.run <$> Metered.evaluateStrategyFrame runner frame state strategy := by
  unfold evaluateStrategyFrame Metered.evaluateStrategyFrame
  simp only [Metered.meter, Metered.push]
  cases strategy.evaluate state.run.trace.length frame with
  | error e => rfl
  | ok decision =>
    simp only [ok_bind]
    cases decision with
    | hold reason => rfl
    | block reasonCode reason => rfl
    | orderIntent reason orderIntents metadata =>
      simp only
      exact foldlM_carry Metered.run evaluateOrderIntent_run ⟨_, _, _⟩

theorem receiveOrderbook_run (state : Metered) (orderbook : Option OrderbookEvent) :
    receiveOrderbook state.run orderbook = Metered.run <$> state.receiveOrderbook orderbook := by
  unfold Metered.receiveOrderbook
  cases receiveOrderbook state.run orderbook <;> rfl

theorem processFrame_run (state : Metered) (frame : PaperDecisionInputFrame) :
    processFrame runner state.run frame = Metered.run <$> Metered.processFrame runner state frame := by
  unfold processFrame Metered.processFrame
  have hreceive := receiveOrderbook_run (state.push (frameReceivedRecord frame)) frame.orderbook
  have hpush : (state.push (frameReceivedRecord frame)).run = state.run.push (frameReceivedRecord frame) := rfl
  rw [← hpush, hreceive]
  cases (state.push (frameReceivedRecord frame)).receiveOrderbook frame.orderbook with
  | error e => rfl
  | ok received => exact foldlM_carry Metered.run evaluateStrategyFrame_run received

/-- **The meter only reads.** Without its accumulator a metered run is the run. -/
theorem meteredRun_run (runner : PaperDecisionRunner) (broker : PaperBroker) (frames : List PaperDecisionInputFrame) :
    runner.run broker frames = Metered.run <$> runner.meteredRun broker frames :=
  foldlM_carry Metered.run processFrame_run (Metered.start broker)

/-! ## What a step can do -/

/-- one step: a frame comes in, its orderbook is recorded, a strategy answers, its intents are converted, an intent is
taken up, its cost or its risk is decided, the engine refuses it, or the broker returns an order for it -/
inductive MeteredStep (runner : PaperDecisionRunner) (frames : List PaperDecisionInputFrame) (state : Metered) :
    Metered → Prop where
  | frame (frame : PaperDecisionInputFrame) : MeteredStep runner frames state (state.push (frameReceivedRecord frame))
  | orderbook (frame : PaperDecisionInputFrame) (hframe : frame ∈ frames) (orderbook : OrderbookEvent)
      (horderbook : frame.orderbook = some orderbook) :
      MeteredStep runner frames state { state with
        run := { state.run with broker := { state.run.broker with
          orderbooksByMarket := (Paper.recordOrderbookSnapshot state.run.broker.orderbooksByMarket orderbook).1 } }
        metrics := state.metrics.recordPnlMarkPrice orderbook }
  | decision (frame : PaperDecisionInputFrame) (strategyId : String) (decision : StrategyDecision) :
      MeteredStep runner frames state ({ state.meter (·.recordStrategyDecision decision) with
        decisions := state.decisions ++ [decision] }.push (strategyDecisionRecord frame strategyId decision))
  | conversion (frame : PaperDecisionInputFrame) (strategyId reason : String) (orderIntents : List ExecutionIntent)
      (decisionMetadata metadata : JsValue) (conversion : StrategyDecisionIntentConversion)
      (hconversion : conversion = convertStrategyDecisionToOrderIntents reason orderIntents decisionMetadata metadata) :
      MeteredStep runner frames state
        ((state.meter (·.recordConversion conversion)).push (conversionRecord frame strategyId conversion))
  | intent : MeteredStep runner frames state
      (state.meter fun metrics => { metrics with orderIntentCount := metrics.orderIntentCount + 1 })
  | cost (frame : PaperDecisionInputFrame) (intent : ExecutionIntent) (costDecision : CostDecision) :
      MeteredStep runner frames state
        ((state.meter (·.recordCostDecision costDecision)).push (costRecord frame intent costDecision))
  | risk (frame : PaperDecisionInputFrame) (intent : ExecutionIntent) (result : RiskGateResult) (call : ℕ)
      (context : RiskGateContext) (hresult : runner.evaluateRiskGate call context = .ok result) :
      MeteredStep runner frames state
        ((state.meter (·.recordRiskDecision result)).push (riskRecord frame intent result))
  | refused (frame : PaperDecisionInputFrame) (intent : ExecutionIntent) (rejection : ExecutionRejection) :
      MeteredStep runner frames state ((state.meter (·.discard (rejectionReasonText rejection.reasonCode))).push
        (engineRejectedRecord frame intent rejection))
  | submitted (frame : PaperDecisionInputFrame) (intent : ExecutionIntent) (hvalid : ValidIntent intent)
      (submission : OrderSubmission) (hintent : submission.intent = intent.toOrderIntent) (now : MarketTimestamp)
      (order : BrokerOrder) (hok : (state.run.broker.submitOrder submission now).2 = .ok order) :
      MeteredStep runner frames state { state with
        run := (countPaperFill { state.run with
          broker := (state.run.broker.submitOrder submission now).1
          submissions := state.run.submissions ++ [(state.run.broker, submission)] } order).push
            (executionRecord frame intent order)
        metrics := state.metrics.recordOrder state.run.filledBrokerOrderIds order }

abbrev MeteredSteps (runner : PaperDecisionRunner) (frames : List PaperDecisionInputFrame) : Metered → Metered → Prop :=
  Relation.ReflTransGen (MeteredStep runner frames)

variable {frames : List PaperDecisionInputFrame}

theorem meterOrderIntent_steps {intent : ExecutionIntent} (hvalid : ValidIntent intent)
    (h : Metered.evaluateOrderIntent runner frame state intent = .ok state') :
    MeteredSteps runner frames state state' := by
  refine .head .intent ?_
  have hvalid := hvalid.executionIntent frame
  obtain ⟨costDecision, -, h⟩ := bind_eq_ok.1 h
  have hcost : ∀ state : Metered, MeteredStep runner frames state _ :=
    fun _ => .cost frame (createPaperDecisionExecutionIntent frame intent) costDecision
  simp only at h
  split_ifs at h
  · obtain rfl := pure_eq_ok.1 h
    exact .single (hcost _)
  · refine .head (hcost _) ?_
    obtain ⟨result, hresult, h⟩ := bind_eq_ok.1 h
    have hrisk : ∀ state : Metered, MeteredStep runner frames state _ :=
      fun _ => .risk frame (createPaperDecisionExecutionIntent frame intent) result _ _ hresult
    split_ifs at h
    · obtain rfl := pure_eq_ok.1 h
      exact .single (hrisk _)
    · refine .head (hrisk _) ?_
      obtain ⟨⟨broker, outcome⟩, hsubmitted, h⟩ := bind_eq_ok.1 h
      obtain rfl := pure_eq_ok.1 h
      refine .single ?_
      rcases submitToEngine_cases hsubmitted with ⟨rejection, hrejection, rfl, rfl⟩ | ⟨order, haccepted, hok, rfl, rfl⟩
      · have hsame : ∀ (s : RunnerState) submission, validateExecutionSubmission submission
            defaultPaperExecutionSafetyConfig = some rejection → s.submitted submission s.broker = s := by
          intro s submission hrefused
          simp [RunnerState.submitted, hrefused]
        rw [hsame _ _ hrejection]
        exact .refused frame _ rejection
      · simp only [RunnerState.submitted, haccepted, Option.isNone_none, if_true]
        exact .submitted frame _ hvalid _ rfl _ order hok

theorem meterStrategyFrame_steps {strategy : Strategy}
    (h : Metered.evaluateStrategyFrame runner frame state strategy = .ok state') :
    MeteredSteps runner frames state state' := by
  obtain ⟨decision, -, h⟩ := bind_eq_ok.1 h
  refine .head (.decision frame strategy.id decision) ?_
  cases decision with
  | hold reason =>
    obtain rfl := pure_eq_ok.1 h
    exact .refl
  | block reasonCode reason =>
    obtain rfl := pure_eq_ok.1 h
    exact .refl
  | orderIntent reason orderIntents metadata =>
    refine .head (.conversion frame strategy.id reason orderIntents metadata (runnerMetadata frame) _ rfl) ?_
    refine foldlM_keeps (MeteredSteps runner frames _) (fun before intent after hmem hstep hbefore => ?_) h .refl
    exact hbefore.trans (meterOrderIntent_steps (validIntent_of_promoted hmem) hstep)

theorem meterOrderbook_steps (hframe : frame ∈ frames) (h : state.receiveOrderbook frame.orderbook = .ok state') :
    MeteredSteps runner frames state state' := by
  obtain ⟨run, hrun, rfl⟩ := map_eq_ok.1 h
  cases horderbook : frame.orderbook with
  | none =>
    rw [horderbook] at hrun
    obtain rfl := pure_eq_ok.1 hrun
    exact .refl
  | some orderbook =>
    rw [horderbook] at hrun
    obtain ⟨_, -, rfl⟩ := map_eq_ok.1 hrun
    exact .single (.orderbook frame hframe orderbook horderbook)

theorem meterFrame_steps (hframe : frame ∈ frames) (h : Metered.processFrame runner state frame = .ok state') :
    MeteredSteps runner frames state state' := by
  obtain ⟨received, hreceived, h⟩ := bind_eq_ok.1 h
  refine foldlM_keeps (MeteredSteps runner frames state) (fun before strategy after _ hstep hbefore => ?_) h ?_
  · exact hbefore.trans (meterStrategyFrame_steps hstep)
  · exact .head (.frame frame) (meterOrderbook_steps hframe hreceived)

/-- a completed metered run is a sequence of steps -/
theorem meteredRun_steps {broker : PaperBroker} (h : runner.meteredRun broker frames = .ok state) :
    MeteredSteps runner frames (Metered.start broker) state :=
  foldlM_keeps (MeteredSteps runner frames (Metered.start broker))
    (fun _ _ _ hframe hstep hbefore => hbefore.trans (meterFrame_steps hframe hstep)) h .refl

end Run

end SeeMirai.Decision
