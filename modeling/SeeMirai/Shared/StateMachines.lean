/-
The two state machines of the domain (domain/state-machines.ts): orders and the kill switch. Transition tables are
closed; what is not listed is rejected. Each kill switch state has an action plan, which is what the runtime obeys.
The event that repeats a decision for the log (its kind, time and JSON metadata) is left out.
-/
import SeeMirai.Shared.Orders

namespace SeeMirai

inductive KillSwitchState where
  | normal
  | newOrdersBlocked
  | strategyPaused
  | hardStop
  | manualReviewRequired
deriving DecidableEq, Repr

def KillSwitchState.text : KillSwitchState → String
  | normal => "NORMAL"
  | newOrdersBlocked => "NEW_ORDERS_BLOCKED"
  | strategyPaused => "STRATEGY_PAUSED"
  | hardStop => "HARD_STOP"
  | manualReviewRequired => "MANUAL_REVIEW_REQUIRED"

structure KillSwitchActionPlan where
  newOrdersBlocked : Bool
  strategyEvaluationBlocked : Bool
  cancelPendingPaperOrders : Bool
  autoLiquidateOpenPositions : Bool
  requiresManualReview : Bool
deriving DecidableEq, Repr

def orderStateTransitions : OrderLifecycleStatus → List OrderLifecycleStatus
  | .created => [.validated, .rejected, .failed, .manualReviewRequired]
  | .validated => [.riskApproved, .riskRejected, .failed, .manualReviewRequired]
  | .riskApproved => [.submitted, .failed, .manualReviewRequired]
  | .riskRejected => [.manualReviewRequired]
  | .submitted => [.accepted, .rejected, .failed, .cancelRequested, .manualReviewRequired]
  | .accepted => [.partiallyFilled, .filled, .cancelRequested, .expired, .failed, .manualReviewRequired]
  | .partiallyFilled => [.filled, .cancelRequested, .canceled, .expired, .failed, .manualReviewRequired]
  | .filled => []
  | .cancelRequested => [.canceled, .failed, .manualReviewRequired]
  | .canceled => []
  | .rejected => []
  | .expired => []
  | .failed => []
  | .manualReviewRequired => []

def killSwitchStateTransitions : KillSwitchState → List KillSwitchState
  | .normal => [.newOrdersBlocked, .strategyPaused, .hardStop, .manualReviewRequired]
  | .newOrdersBlocked => [.normal, .strategyPaused, .hardStop, .manualReviewRequired]
  | .strategyPaused => [.normal, .newOrdersBlocked, .hardStop, .manualReviewRequired]
  | .hardStop => [.manualReviewRequired]
  | .manualReviewRequired => [.normal, .newOrdersBlocked, .strategyPaused, .hardStop]

/-- no state liquidates positions on its own -/
def getKillSwitchActionPlan : KillSwitchState → KillSwitchActionPlan
  | .normal => ⟨false, false, false, false, false⟩
  | .newOrdersBlocked => ⟨true, false, false, false, false⟩
  | .strategyPaused => ⟨false, true, false, false, false⟩
  | .hardStop => ⟨true, true, true, false, true⟩
  | .manualReviewRequired => ⟨true, true, false, false, true⟩

def canTransitionOrderState (fromState toState : OrderLifecycleStatus) : Bool := toState ∈ orderStateTransitions fromState

def canTransitionKillSwitchState (fromState toState : KillSwitchState) : Bool :=
  toState ∈ killSwitchStateTransitions fromState

structure StateTransitionDecision (σ : Type) where
  accepted : Bool
  fromState : σ
  toState : σ
  reasonCode : String
  message : String
deriving DecidableEq, Repr

/-- a caller's reason and message win over the defaults, accepted or not -/
def transitionKillSwitchState (fromState toState : KillSwitchState) (reasonCode message : Option String) :
    StateTransitionDecision KillSwitchState :=
  let arrow := fromState.text ++ " -> " ++ toState.text
  if canTransitionKillSwitchState fromState toState then
    { accepted := true
      fromState := fromState
      toState := toState
      reasonCode := reasonCode.getD "kill_switch_state_transition_accepted"
      message := message.getD ("Kill switch state transition accepted: " ++ arrow) }
  else
    { accepted := false
      fromState := fromState
      toState := toState
      reasonCode := reasonCode.getD "illegal_kill_switch_state_transition"
      message := message.getD ("Illegal kill switch state transition rejected: " ++ arrow) }

/-! ## Strength of an action plan -/

/-- every flag that `weaker` sets is set -/
def KillSwitchActionPlan.covers (plan weaker : KillSwitchActionPlan) : Bool :=
  (!weaker.newOrdersBlocked || plan.newOrdersBlocked) &&
  (!weaker.strategyEvaluationBlocked || plan.strategyEvaluationBlocked) &&
  (!weaker.cancelPendingPaperOrders || plan.cancelPendingPaperOrders) &&
  (!weaker.autoLiquidateOpenPositions || plan.autoLiquidateOpenPositions) &&
  (!weaker.requiresManualReview || plan.requiresManualReview)

end SeeMirai
