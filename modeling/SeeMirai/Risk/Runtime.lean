/-
The RiskGate runtime (application/risk/risk-gate-runtime.ts and risk-gate-runtime/): from a decision input to the plan
that the event store appends. The gate's result is amended three times (a candidate that differs from the one the gate
saw, a kill switch that blocks, an order state that does not admit the decision), each time by adding evaluations that
fail, and never in the other direction. Audit events and JSON payloads are left out.

Results:
- `appendFailClosedEvaluations_severe`: amending keeps the action as severe as every evaluation.
- `createKillSwitchTransition_stronger`: a kill switch transition of the plan is accepted and goes to a stronger state.
- `risk_runtime_fail_closed`: the plan approves exactly where its order transition is accepted with RISK_APPROVED, and
  then the gate approves, the candidate is the one it saw, and the kill switch does not block.
-/
import SeeMirai.Risk.Gate
import SeeMirai.Shared.StateMachines

namespace SeeMirai.Risk

open Fallible Execution

/-! ## Model -/

structure PendingPaperOrder where
  brokerOrderId : String
  idempotencyKey : String
  market : String
  status : OrderLifecycleStatus
deriving DecidableEq, Repr

structure RiskGateRuntimeDecisionInput where
  orderId : String
  orderStatus : OrderLifecycleStatus
  orderIntent : ExecutionIntent
  expectedLossBpsOfEquity : Option String
  currentKillSwitchState : KillSwitchState
  riskGateContext : RiskGateContext
  correlationId : String
  pendingPaperOrders : List PendingPaperOrder

inductive PersistedRiskEventSeverity where
  | info
  | warn
  | error
  | critical
deriving DecidableEq, Repr

structure RiskGateRiskEvent where
  riskType : String
  action : RiskBlockAction
  severity : PersistedRiskEventSeverity
  market : String
  strategyId : String
  orderId : String
  correlationId : String
deriving DecidableEq, Repr

structure RiskGateRuntimeDecisionPlan where
  riskGateResult : RiskGateResult
  orderStateTransition : StateTransitionDecision OrderLifecycleStatus
  killSwitchStateTransition : Option (StateTransitionDecision KillSwitchState)
  riskEvents : List RiskGateRiskEvent
  /-- the orders that a HARD_STOP plans to cancel -/
  hardStopActionPlan : Option (List PendingPaperOrder)
  /-- the strategy that is to be paused -/
  strategyPauseActionPlan : Option String
deriving DecidableEq, Repr

/-- the reason and the message are the caller's, accepted or not -/
def transitionOrderState (fromState toState : OrderLifecycleStatus) (reasonCode message : String) :
    StateTransitionDecision OrderLifecycleStatus :=
  ⟨canTransitionOrderState fromState toState, fromState, toState, reasonCode, message⟩

/-! ## The candidate -/

/-- both sides of one field that differs -/
def appendRuntimeOrderIntentMismatch (target : JsonRecord) (fieldName : String) (runtimeValue riskGateValue : Option String) :
    JsonRecord :=
  if runtimeValue = riskGateValue then target
  else target ++ [(fieldName ++ "_runtime", .ofString runtimeValue), (fieldName ++ "_risk_gate", .ofString riskGateValue)]

/-- the metadata's expected loss under either name, where it is a text -/
def readOrderIntentExpectedLoss (intent : ExecutionIntent) : Option String :=
  (orElse (intent.metadata.prop "expected_loss_bps_of_equity") (intent.metadata.prop "expectedLossBpsOfEquity")).asString

def readRiskGateExpectedLossBps (context : RiskGateContext) : Option String :=
  context.expectedLossBpsOfEquity.or (readOrderIntentExpectedLoss context.orderIntent)

def readRuntimeExpectedLossBps (input : RiskGateRuntimeDecisionInput) : Option String :=
  input.expectedLossBpsOfEquity.or (readOrderIntentExpectedLoss input.orderIntent)

section Host

variable [Host]

def appendRuntimeDecimalMismatch (target : JsonRecord) (fieldName : String) (runtimeValue riskGateValue : Option String) :
    JsonRecord :=
  appendRuntimeOrderIntentMismatch target fieldName (runtimeValue.map normalizeFinancialDecimalString)
    (riskGateValue.map normalizeFinancialDecimalString)

def candidateMismatches (input : RiskGateRuntimeDecisionInput) : JsonRecord :=
  let intent := input.riskGateContext.orderIntent
  let intentOrderId := readStringMetadata intent.metadata "order_id"
  let mismatches : JsonRecord :=
    if input.correlationId = input.orderIntent.idempotencyKey then []
    else [("correlation_id", .string input.correlationId),
      ("runtime_order_intent_idempotency_key", .string input.orderIntent.idempotencyKey)]
  let mismatches :=
    match intentOrderId with
    | none => mismatches
    | some orderId =>
      if orderId = input.orderId then mismatches
      else mismatches ++ [("order_id", .string input.orderId), ("order_intent_metadata_order_id", .string orderId)]
  let mismatches := appendRuntimeOrderIntentMismatch mismatches "order_intent_exchange_id" (some input.orderIntent.exchangeId)
    (some intent.exchangeId)
  let mismatches := appendRuntimeOrderIntentMismatch mismatches "order_intent_market" (some input.orderIntent.market)
    (some intent.market)
  let mismatches := appendRuntimeOrderIntentMismatch mismatches "order_intent_strategy_id" (some input.orderIntent.strategyId)
    (some intent.strategyId)
  let mismatches := appendRuntimeOrderIntentMismatch mismatches "order_intent_side" (some (sideText input.orderIntent.side))
    (some (sideText intent.side))
  let mismatches := appendRuntimeOrderIntentMismatch mismatches "order_intent_order_type"
    (some (orderTypeText input.orderIntent.terms.orderType)) (some (orderTypeText intent.terms.orderType))
  let mismatches := appendRuntimeDecimalMismatch mismatches "order_intent_requested_quantity"
    (some input.orderIntent.requestedQuantity) (some intent.requestedQuantity)
  let mismatches := appendRuntimeDecimalMismatch mismatches "order_intent_requested_notional"
    (some input.orderIntent.requestedNotional) (some intent.requestedNotional)
  let mismatches := appendRuntimeDecimalMismatch mismatches "order_intent_requested_price"
    input.orderIntent.terms.requestedPrice intent.terms.requestedPrice
  let mismatches := appendRuntimeOrderIntentMismatch mismatches "order_intent_idempotency_key"
    (some input.orderIntent.idempotencyKey) (some intent.idempotencyKey)
  appendRuntimeDecimalMismatch mismatches "order_intent_expected_loss_bps_of_equity" (readRuntimeExpectedLossBps input)
    (readRiskGateExpectedLossBps input.riskGateContext)

/-- `Object.keys(mismatches).length === 0` -/
def createRuntimeCandidateMismatchEvaluation (input : RiskGateRuntimeDecisionInput) : Option RiskGateEvaluation :=
  match candidateMismatches input with
  | [] => none
  | _ => some (fail "risk_gate_runtime_candidate_mismatch"
      "Runtime order candidate does not match the RiskGate order intent" .manualReviewRequired)

end Host

/-! ## The kill switch -/

def toCurrentKillSwitchRiskAction (state : KillSwitchState) (actionPlan : KillSwitchActionPlan) : FailAction :=
  if state = .hardStop then .hardStop
  else if state = .manualReviewRequired ∨ actionPlan.requiresManualReview then .manualReviewRequired
  else if state = .strategyPaused then .pauseStrategy
  else .blockNewOrder

def createCurrentKillSwitchBlockingEvaluation (input : RiskGateRuntimeDecisionInput) : Option RiskGateEvaluation :=
  let actionPlan := getKillSwitchActionPlan input.currentKillSwitchState
  if !actionPlan.newOrdersBlocked && !actionPlan.requiresManualReview then none
  else some (fail "current_kill_switch_blocks_new_order"
    ("Current kill switch state blocks new order approval: " ++ input.currentKillSwitchState.text)
    (toCurrentKillSwitchRiskAction input.currentKillSwitchState actionPlan))

def killSwitchStatePriority : KillSwitchState → ℕ
  | .normal => 0
  | .strategyPaused => 1
  | .newOrdersBlocked => 2
  | .manualReviewRequired => 3
  | .hardStop => 4

def killSwitchStateByAction : RiskBlockAction → KillSwitchState
  | .allow => .normal
  | .blockNewOrder => .newOrdersBlocked
  | .pauseStrategy => .normal
  | .hardStop => .hardStop
  | .manualReviewRequired => .manualReviewRequired

def selectTargetKillSwitchState (currentState : KillSwitchState) (action : RiskBlockAction) : KillSwitchState :=
  if killSwitchStatePriority currentState < killSwitchStatePriority (killSwitchStateByAction action) then
    killSwitchStateByAction action
  else currentState

/-- `risk_gate_` and the action in lower case -/
def killSwitchReasonCode : RiskBlockAction → String
  | .allow => "risk_gate_allow"
  | .blockNewOrder => "risk_gate_block_new_order"
  | .pauseStrategy => "risk_gate_pause_strategy"
  | .hardStop => "risk_gate_hard_stop"
  | .manualReviewRequired => "risk_gate_manual_review_required"

def createKillSwitchTransition (input : RiskGateRuntimeDecisionInput) (result : RiskGateResult) :
    Option (StateTransitionDecision KillSwitchState) :=
  let targetState := selectTargetKillSwitchState input.currentKillSwitchState result.action
  if targetState = input.currentKillSwitchState then none
  else some (transitionKillSwitchState input.currentKillSwitchState targetState (some (killSwitchReasonCode result.action))
    (some ("RiskGate action moves kill switch to " ++ targetState.text)))

/-! ## Failing closed -/

def selectDominantRiskAction (first : RiskBlockAction) (rest : List RiskBlockAction) : RiskBlockAction :=
  rest.foldl dominantAction first

def appendFailClosedEvaluations (result : RiskGateResult) (failClosedEvaluations : List RiskGateEvaluation) :
    RiskGateResult :=
  if failClosedEvaluations = [] then result
  else
    { result with
      status := .fail
      approved := false
      action := selectDominantRiskAction result.action (failClosedEvaluations.map RiskGateEvaluation.action)
      evaluations := result.evaluations ++ failClosedEvaluations
      failedEvaluations := result.failedEvaluations ++ failClosedEvaluations }

def createIllegalRiskGateOrderStateTransitionEvaluation : RiskGateEvaluation :=
  fail "risk_gate_illegal_order_state_transition"
    "RiskGate order state transition is not allowed by the order state machine" .manualReviewRequired

def createRiskOrderStateTransition (input : RiskGateRuntimeDecisionInput) (result : RiskGateResult) :
    StateTransitionDecision OrderLifecycleStatus :=
  if result.approved then
    transitionOrderState input.orderStatus .riskApproved "risk_gate_order_approved" "RiskGate approved order candidate"
  else
    transitionOrderState input.orderStatus .riskRejected "risk_gate_order_rejected" "RiskGate rejected order candidate"

def toPersistedRiskEventSeverity : RiskEventSeverity → PersistedRiskEventSeverity
  | .info => .info
  | .warn => .warn
  | .blocking => .error
  | .critical => .critical

def createRiskEvents (input : RiskGateRuntimeDecisionInput) (result : RiskGateResult) : List RiskGateRiskEvent :=
  (result.failedEvaluations ++ result.warningEvaluations).map (fun evaluation =>
    { riskType := evaluation.reasonCode
      action := evaluation.action
      severity := toPersistedRiskEventSeverity evaluation.severity
      market := input.riskGateContext.orderIntent.market
      strategyId := input.riskGateContext.orderIntent.strategyId
      orderId := input.orderId
      correlationId := input.correlationId })

def createHardStopRuntimeActionPlan (pendingPaperOrders : List PendingPaperOrder) : List PendingPaperOrder :=
  pendingPaperOrders.filter (fun order => order.status ∈ [.submitted, .accepted, .partiallyFilled])

def shouldCreateStrategyPauseActionPlan (result : RiskGateResult) : Bool :=
  result.failedEvaluations.any (fun evaluation => evaluation.action = .pauseStrategy)

/-- the plan of a result whose order transition is settled -/
def assemblePlan (input : RiskGateRuntimeDecisionInput) (riskGateResult : RiskGateResult)
    (orderStateTransition : StateTransitionDecision OrderLifecycleStatus) : RiskGateRuntimeDecisionPlan where
  riskGateResult := riskGateResult
  orderStateTransition := orderStateTransition
  killSwitchStateTransition := createKillSwitchTransition input riskGateResult
  riskEvents := createRiskEvents input riskGateResult
  hardStopActionPlan :=
    if riskGateResult.action = .hardStop then some (createHardStopRuntimeActionPlan input.pendingPaperOrders) else none
  strategyPauseActionPlan :=
    if shouldCreateStrategyPauseActionPlan riskGateResult then some input.riskGateContext.strategy.strategyId else none

/-! ## The plan -/

section Plan

variable [H : Host]

def applyRuntimeFailClosedEvaluations (input : RiskGateRuntimeDecisionInput) (result : RiskGateResult) : RiskGateResult :=
  appendFailClosedEvaluations result ((createRuntimeCandidateMismatchEvaluation input).toList ++
    (createCurrentKillSwitchBlockingEvaluation input).toList)

def createRiskGateRuntimeDecisionPlan (input : RiskGateRuntimeDecisionInput) :
    Except Thrown RiskGateRuntimeDecisionPlan := do
  let evaluated ← evaluateRiskGate input.riskGateContext
  let riskGateResult := applyRuntimeFailClosedEvaluations input evaluated
  let orderStateTransition := createRiskOrderStateTransition input riskGateResult
  if orderStateTransition.accepted then pure (assemblePlan input riskGateResult orderStateTransition)
  else
    -- a state that does not admit the decision is a risk of its own
    let riskGateResult :=
      appendFailClosedEvaluations riskGateResult [createIllegalRiskGateOrderStateTransitionEvaluation]
    pure (assemblePlan input riskGateResult (createRiskOrderStateTransition input riskGateResult))

/-! ## Agreement -/

/-- two texts of one amount: one decimal, or one text that is none -/
def SameAmount (a b : String) : Prop := Host.valueOf a = Host.valueOf b ∧ (Host.valueOf a = none → a = b)

/-- the runtime's candidate is the one that the gate saw -/
structure CandidateAgrees (input : RiskGateRuntimeDecisionInput) : Prop where
  correlationId : input.correlationId = input.orderIntent.idempotencyKey
  exchangeId : input.orderIntent.exchangeId = input.riskGateContext.orderIntent.exchangeId
  market : input.orderIntent.market = input.riskGateContext.orderIntent.market
  strategyId : input.orderIntent.strategyId = input.riskGateContext.orderIntent.strategyId
  side : input.orderIntent.side = input.riskGateContext.orderIntent.side
  orderType : input.orderIntent.terms.orderType = input.riskGateContext.orderIntent.terms.orderType
  idempotencyKey : input.orderIntent.idempotencyKey = input.riskGateContext.orderIntent.idempotencyKey
  quantity : SameAmount input.orderIntent.requestedQuantity input.riskGateContext.orderIntent.requestedQuantity
  notional : SameAmount input.orderIntent.requestedNotional input.riskGateContext.orderIntent.requestedNotional
  price : Option.Rel SameAmount input.orderIntent.terms.requestedPrice
    input.riskGateContext.orderIntent.terms.requestedPrice
  expectedLoss : Option.Rel SameAmount (readRuntimeExpectedLossBps input)
    (readRiskGateExpectedLossBps input.riskGateContext)

omit H in
theorem appendRuntimeOrderIntentMismatch_eq_nil {target : JsonRecord} {fieldName : String} {a b : Option String} :
    appendRuntimeOrderIntentMismatch target fieldName a b = [] ↔ target = [] ∧ a = b := by
  unfold appendRuntimeOrderIntentMismatch
  split_ifs with h
  · simp [h]
  · simp [h]

theorem sameAmount_of_normalize [H.Prints] {a b : String}
    (h : normalizeFinancialDecimalString a = normalizeFinancialDecimalString b) : SameAmount a b := by
  cases ha : Host.valueOf a with
  | some q =>
    have hb : Host.valueOf b = some q := by
      apply valueOf_of_normalize
      rw [← h, normalize_of_valueOf ha, Host.Prints.read_toFixed ha]
    exact ⟨ha.trans hb.symm, fun hnone => by rw [ha] at hnone; cases hnone⟩
  | none =>
    rw [normalize_of_valueOf_none ha] at h
    cases hb : Host.valueOf b with
    | some q =>
      -- a printed decimal is one
      rw [normalize_of_valueOf hb] at h
      rw [h, Host.Prints.read_toFixed hb] at ha
      cases ha
    | none =>
      rw [normalize_of_valueOf_none hb] at h
      exact ⟨ha.trans hb.symm, fun _ => h⟩

theorem sameAmounts_of_normalize [H.Prints] {a b : Option String}
    (h : a.map normalizeFinancialDecimalString = b.map normalizeFinancialDecimalString) : Option.Rel SameAmount a b := by
  cases a with
  | none =>
    cases b with
    | none => exact Option.Rel.none
    | some b => cases h
  | some a =>
    cases b with
    | none => cases h
    | some b => exact Option.Rel.some (sameAmount_of_normalize (Option.some.inj h))

/-- **The candidate** raises no evaluation only where it agrees with the one the gate saw. -/
theorem candidateAgrees_of_no_mismatch [H.Prints] {input : RiskGateRuntimeDecisionInput}
    (h : createRuntimeCandidateMismatchEvaluation input = none) : CandidateAgrees input := by
  have hnil : candidateMismatches input = [] := by
    unfold createRuntimeCandidateMismatchEvaluation at h
    split at h
    · rename_i hnil
      exact hnil
    · cases h
  unfold candidateMismatches appendRuntimeDecimalMismatch at hnil
  simp only [appendRuntimeOrderIntentMismatch_eq_nil, Option.some.injEq] at hnil
  obtain ⟨⟨⟨⟨⟨⟨⟨⟨⟨⟨hstart, hexchange⟩, hmarket⟩, hstrategy⟩, hside⟩, htype⟩, hquantity⟩, hnotional⟩, hprice⟩, hkey⟩, hloss⟩ := hnil
  have hcorrelation : input.correlationId = input.orderIntent.idempotencyKey := by
    by_contra hne
    rw [if_neg hne] at hstart
    split at hstart
    · cases hstart
    · split at hstart
      · cases hstart
      · simp at hstart
  exact
    { correlationId := hcorrelation
      exchangeId := hexchange
      market := hmarket
      strategyId := hstrategy
      side := sideText_inj hside
      orderType := orderTypeText_inj htype
      idempotencyKey := hkey
      quantity := sameAmount_of_normalize (by simpa using hquantity)
      notional := sameAmount_of_normalize (by simpa using hnotional)
      price := sameAmounts_of_normalize hprice
      expectedLoss := sameAmounts_of_normalize hloss }

/-! ## Amending the result -/

omit H in
theorem appendFailClosedEvaluations_approved {result : RiskGateResult} {evaluations : List RiskGateEvaluation} :
    (appendFailClosedEvaluations result evaluations).approved = true ↔ evaluations = [] ∧ result.approved = true := by
  unfold appendFailClosedEvaluations
  split_ifs with h
  · simp [h]
  · simp [h]

/-- the result's action is at least as severe as that of every evaluation in it -/
def Severe (result : RiskGateResult) : Prop :=
  ∀ evaluation ∈ result.evaluations, actionPriority evaluation.action ≤ actionPriority result.action

omit H in
/-- **Amending** keeps the action as severe as every evaluation, old and new. -/
theorem appendFailClosedEvaluations_severe {result : RiskGateResult} (h : Severe result)
    (evaluations : List RiskGateEvaluation) : Severe (appendFailClosedEvaluations result evaluations) := by
  unfold appendFailClosedEvaluations
  split_ifs with hnone
  · exact h
  · obtain ⟨hfirst, hrest⟩ := foldl_dominant result.action (evaluations.map RiskGateEvaluation.action)
    intro evaluation hmem
    rcases List.mem_append.1 hmem with hmem | hmem
    · exact (h evaluation hmem).trans hfirst
    · exact hrest evaluation.action (List.mem_map_of_mem hmem)

omit H in
/-- **Kill switch.** A transition of the plan is accepted and goes to a stronger state. -/
theorem createKillSwitchTransition_stronger {input : RiskGateRuntimeDecisionInput} {result : RiskGateResult}
    {transition : StateTransitionDecision KillSwitchState} (h : createKillSwitchTransition input result = some transition) :
    transition.accepted = true ∧ transition.fromState = input.currentKillSwitchState ∧
      killSwitchStatePriority transition.fromState < killSwitchStatePriority transition.toState := by
  have hlegal : ∀ (current : KillSwitchState) (action : RiskBlockAction),
      killSwitchStatePriority current < killSwitchStatePriority (killSwitchStateByAction action) →
      canTransitionKillSwitchState current (killSwitchStateByAction action) = true := by
    intro current action
    cases current <;> cases action <;> decide
  unfold createKillSwitchTransition selectTargetKillSwitchState at h
  dsimp only at h
  by_cases hstronger : killSwitchStatePriority input.currentKillSwitchState <
      killSwitchStatePriority (killSwitchStateByAction result.action)
  · rw [if_pos hstronger] at h
    split_ifs at h
    have h := (Option.some.inj h).symm
    unfold transitionKillSwitchState at h
    rw [if_pos (hlegal _ _ hstronger)] at h
    subst h
    exact ⟨rfl, rfl, hstronger⟩
  · rw [if_neg hstronger, if_pos rfl] at h
    cases h

/-- what an approved result of the runtime rests on -/
theorem applyRuntimeFailClosedEvaluations_approved [H.Prints] {input : RiskGateRuntimeDecisionInput} {result : RiskGateResult}
    (h : (applyRuntimeFailClosedEvaluations input result).approved = true) :
    result.approved = true ∧ CandidateAgrees input ∧
      (getKillSwitchActionPlan input.currentKillSwitchState).newOrdersBlocked = false := by
  obtain ⟨hnone, happroved⟩ := appendFailClosedEvaluations_approved.1 h
  obtain ⟨hcandidate, hswitch⟩ := List.append_eq_nil_iff.1 hnone
  refine ⟨happroved, candidateAgrees_of_no_mismatch (Option.toList_eq_nil_iff.1 hcandidate), ?_⟩
  have hswitch := Option.toList_eq_nil_iff.1 hswitch
  unfold createCurrentKillSwitchBlockingEvaluation at hswitch
  dsimp only at hswitch
  split_ifs at hswitch with hopen
  simp only [Bool.and_eq_true, Bool.not_eq_true'] at hopen
  exact hopen.1

/-- **RiskGate runtime.** The plan approves exactly where its order transition is accepted with RISK_APPROVED. Then the
gate approves the context, the candidate is the one that the gate saw, and the kill switch admits new orders. A kill
switch transition is accepted and goes to a stronger state, and no evaluation is more severe than the result. -/
theorem risk_runtime_fail_closed [H.Prints] (input : RiskGateRuntimeDecisionInput) (plan : RiskGateRuntimeDecisionPlan)
    (h : createRiskGateRuntimeDecisionPlan input = .ok plan) :
    (plan.riskGateResult.approved = true ↔
      plan.orderStateTransition.accepted = true ∧ plan.orderStateTransition.toState = .riskApproved) ∧
    (plan.riskGateResult.approved = true →
      (∃ result, evaluateRiskGate input.riskGateContext = .ok result ∧ result.approved = true) ∧ CandidateAgrees input ∧
        (getKillSwitchActionPlan input.currentKillSwitchState).newOrdersBlocked = false) ∧
    (∀ transition, plan.killSwitchStateTransition = some transition →
      transition.accepted = true ∧ transition.fromState = input.currentKillSwitchState ∧
        killSwitchStatePriority transition.fromState < killSwitchStatePriority transition.toState) ∧
    Severe plan.riskGateResult := by
  obtain ⟨evaluated, hevaluated, h⟩ := bind_eq_ok.1 h
  have hsevere : Severe evaluated := by
    obtain ⟨limits, -, hresult⟩ := bind_eq_ok.1 hevaluated
    obtain rfl := pure_eq_ok.1 hresult
    exact createRiskGateResult_severe _
  have hruntime := appendFailClosedEvaluations_severe hsevere ((createRuntimeCandidateMismatchEvaluation input).toList ++
    (createCurrentKillSwitchBlockingEvaluation input).toList)
  dsimp only at h
  split at h
  · rename_i haccepted
    obtain rfl := pure_eq_ok.1 h
    refine ⟨?_, ?_, fun transition => createKillSwitchTransition_stronger, hruntime⟩
    · unfold assemblePlan
      dsimp only
      cases happroved : (applyRuntimeFailClosedEvaluations input evaluated).approved with
      | true => exact ⟨fun _ => ⟨haccepted, by simp [createRiskOrderStateTransition, happroved, transitionOrderState]⟩,
          fun _ => rfl⟩
      | false =>
        refine ⟨nofun, fun ⟨_, hstate⟩ => ?_⟩
        simp [createRiskOrderStateTransition, happroved, transitionOrderState] at hstate
    · intro happroved
      obtain ⟨hgate, hagrees, hopen⟩ := applyRuntimeFailClosedEvaluations_approved happroved
      exact ⟨⟨evaluated, hevaluated, hgate⟩, hagrees, hopen⟩
  · -- the added evaluation has taken the approval away
    obtain rfl := pure_eq_ok.1 h
    have hrejected : (appendFailClosedEvaluations (applyRuntimeFailClosedEvaluations input evaluated)
        [createIllegalRiskGateOrderStateTransitionEvaluation]).approved = false := by
      rw [Bool.eq_false_iff]
      intro happroved
      cases (appendFailClosedEvaluations_approved.1 happroved).1
    refine ⟨?_, ?_, fun transition => createKillSwitchTransition_stronger, appendFailClosedEvaluations_severe hruntime _⟩
    · unfold assemblePlan
      dsimp only
      rw [hrejected]
      refine ⟨nofun, fun ⟨_, hstate⟩ => ?_⟩
      simp [createRiskOrderStateTransition, hrejected, transitionOrderState] at hstate
    · intro happroved
      exact absurd happroved (by simp [assemblePlan, hrejected])

end Plan

/-! ## A sample plan -/

/-- the sample order as the runtime has it, with its quantity spelled differently -/
def sampleInput (orderStatus : OrderLifecycleStatus) : RiskGateRuntimeDecisionInput where
  orderId := "1"
  orderStatus := orderStatus
  orderIntent := { (sampleContext "0").orderIntent with requestedQuantity := "01" }
  expectedLossBpsOfEquity := some "10"
  currentKillSwitchState := .strategyPaused
  riskGateContext := sampleContext "0"
  correlationId := "k"
  pendingPaperOrders := []

theorem sample_plan_approved :
    ∃ plan, createRiskGateRuntimeDecisionPlan (sampleInput .validated) = .ok plan ∧
      plan.riskGateResult.approved = true ∧ plan.orderStateTransition.toState = .riskApproved ∧
      CandidateAgrees (sampleInput .validated) := by
  obtain ⟨plan, hplan⟩ :=
    exists_ok (show (createRiskGateRuntimeDecisionPlan (sampleInput .validated)).toOption.isSome by decide +kernel)
  have happroved : (createRiskGateRuntimeDecisionPlan (sampleInput .validated)).toOption.map
      (fun plan => plan.riskGateResult.approved) = some true := by
    decide +kernel
  rw [hplan] at happroved
  have happroved := Option.some.inj happroved
  obtain ⟨hstate, hrests, -⟩ := risk_runtime_fail_closed (sampleInput .validated) plan hplan
  exact ⟨plan, hplan, happroved, (hstate.1 happroved).2, (hrests happroved).2.1⟩

end SeeMirai.Risk
