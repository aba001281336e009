/-
Kill switch control (application/risk/kill-switch-control.ts, infrastructure/db/kill-switch-control.ts): a request names
a target state and a reason code; the decision is made against the durable state and stored with its evidence in one
transaction. A known reason belongs to one target and is rejected with any other. Reasons of the live reconcile
(`live_reconcile_…`) never weaken the current plan, and promote a strategy pause instead of replacing it.

The transaction is one step here. The conflict branch of the optimistic update is kept, although a transaction that
nothing interrupts never takes it (`apply_state`). Row ids, alert dispatch and JSON payloads are left out.

Results:
- `apply_state`: the durable state after a request is the decision's target if it was accepted, else unchanged.
- `controlledState_manualReview`, `controlledState_block`: a live reconcile request that is not turned down for its
  reason leaves the kill switch closed at least as far as it asks.
- `controlledState_mismatch`: the reason of a plain mismatch, paired with a manual review, changes nothing.
-/
import SeeMirai.Shared.StateMachines

namespace SeeMirai.KillSwitch

/-! ## Model -/

inductive KillSwitchControlTargetState where
  | newOrdersBlocked
  | hardStop
  | manualReviewRequired
  | normal
deriving DecidableEq, Repr

def KillSwitchControlTargetState.state : KillSwitchControlTargetState → KillSwitchState
  | newOrdersBlocked => .newOrdersBlocked
  | hardStop => .hardStop
  | manualReviewRequired => .manualReviewRequired
  | normal => .normal

structure KillSwitchControlRequest where
  targetState : KillSwitchControlTargetState
  reasonCode : String
  correlationId : String
  actor : Option String
  message : Option String
  /-- the ISO text of the time the request is dated by -/
  occurredAt : String
deriving DecidableEq, Repr

structure KillSwitchControlResult where
  transition : StateTransitionDecision KillSwitchState
  actionPlan : KillSwitchActionPlan
  reasonMatchesTarget : Bool
  recommendedTargetState : Option KillSwitchControlTargetState
deriving DecidableEq, Repr

def killSwitchTargetStateByReasonCode : List (String × KillSwitchControlTargetState) :=
  [("audit_persistence_failure", .hardStop),
    ("db_write_failure", .hardStop),
    ("duplicate_order_idempotency_key", .hardStop),
    ("fill_order_accounting_mismatch", .hardStop),
    ("live_order_api_misuse_detected", .hardStop),
    ("order_idempotency_violation", .hardStop),
    ("risk_limit_calculation_unavailable", .hardStop),
    ("public_websocket_lag", .newOrdersBlocked),
    ("quote_freshness_insufficient", .newOrdersBlocked),
    ("stale_market_data", .newOrdersBlocked),
    ("transient_external_data_gap", .newOrdersBlocked),
    ("live_reconcile_mismatch", .newOrdersBlocked),
    ("abnormal_state_operator_review_required", .manualReviewRequired),
    ("live_reconcile_identity_conflict", .manualReviewRequired),
    ("notification_consecutive_failure", .manualReviewRequired),
    ("notification_failure_threshold_exceeded", .manualReviewRequired),
    ("report_generation_repeated_failure", .manualReviewRequired)]

/-- a reason of the live reconcile -/
def isLiveReconcileReason (reasonCode : String) : Bool := "live_reconcile_".toList.isPrefixOf reasonCode.toList

def resolveLiveReconcileEffectiveTargetState (currentState : KillSwitchState)
    (requestedTargetState : KillSwitchControlTargetState) (reasonCode : String) : Option KillSwitchControlTargetState :=
  if isLiveReconcileReason reasonCode ∧ currentState = .strategyPaused ∧ requestedTargetState = .newOrdersBlocked then
    some .manualReviewRequired
  else none

def isLiveReconcileDowngrade (currentState : KillSwitchState) (targetState : KillSwitchControlTargetState)
    (reasonCode : String) : Bool :=
  if isLiveReconcileReason reasonCode = false then false
  else
    let currentPlan := getKillSwitchActionPlan currentState
    let targetPlan := getKillSwitchActionPlan targetState.state
    (currentPlan.newOrdersBlocked && !targetPlan.newOrdersBlocked) ||
    (currentPlan.strategyEvaluationBlocked && !targetPlan.strategyEvaluationBlocked) ||
    (currentPlan.cancelPendingPaperOrders && !targetPlan.cancelPendingPaperOrders) ||
    (currentPlan.requiresManualReview && !targetPlan.requiresManualReview) ||
    (currentPlan.autoLiquidateOpenPositions && !targetPlan.autoLiquidateOpenPositions)

def createLiveReconcileDowngradeBlockedDecision (fromState : KillSwitchState)
    (toState : KillSwitchControlTargetState) : StateTransitionDecision KillSwitchState where
  accepted := false
  fromState := fromState
  toState := toState.state
  reasonCode := "live_reconcile_downgrade_blocked"
  message :=
    "Live reconcile cannot downgrade kill switch state: " ++ fromState.text ++ " -> " ++ toState.state.text

def createReasonTargetMismatchDecision (fromState : KillSwitchState) (toState : KillSwitchControlTargetState)
    (reasonCode : String) (recommendedTargetState : KillSwitchControlTargetState) :
    StateTransitionDecision KillSwitchState where
  accepted := false
  fromState := fromState
  toState := toState.state
  reasonCode := "kill_switch_reason_target_mismatch"
  message :=
    "Kill switch reason " ++ reasonCode ++ " maps to " ++ recommendedTargetState.state.text ++ ", not "
      ++ toState.state.text

/-- the decision on a canonical reason code -/
def canonicalControlDecision (currentState : KillSwitchState) (targetState : KillSwitchControlTargetState) (reasonCode : String)
    (message : Option String) : KillSwitchControlResult :=
  let recommendedTargetState := killSwitchTargetStateByReasonCode.lookup reasonCode
  let effectiveTargetState :=
    (resolveLiveReconcileEffectiveTargetState currentState targetState reasonCode).getD targetState
  let targetPromoted : Bool := effectiveTargetState ≠ targetState
  let reasonMatchesTarget : Bool :=
    recommendedTargetState = none ∨ recommendedTargetState = some targetState ∨ targetPromoted
  let stateMachineAllowsTransition := canTransitionKillSwitchState currentState effectiveTargetState.state
  let transition :=
    if isLiveReconcileDowngrade currentState effectiveTargetState reasonCode then
      createLiveReconcileDowngradeBlockedDecision currentState effectiveTargetState
    else if reasonMatchesTarget then
      transitionKillSwitchState currentState effectiveTargetState.state
        (if stateMachineAllowsTransition then some reasonCode else none)
        (if stateMachineAllowsTransition then
          some (message.getD ("HTTP control requested kill switch transition: " ++ currentState.text ++ " -> "
            ++ effectiveTargetState.state.text))
        else none)
    else
      createReasonTargetMismatchDecision currentState effectiveTargetState reasonCode
        (recommendedTargetState.getD targetState)
  { transition := transition
    actionPlan := getKillSwitchActionPlan (if transition.accepted then effectiveTargetState.state else currentState)
    reasonMatchesTarget := reasonMatchesTarget
    recommendedTargetState := recommendedTargetState }

/-- an update that found another state than the one the decision was made on -/
def createKillSwitchControlConflictResult (attemptedResult : KillSwitchControlResult)
    (observedState : Option KillSwitchState) : KillSwitchControlResult where
  transition :=
    { accepted := false
      fromState := attemptedResult.transition.fromState
      toState := attemptedResult.transition.toState
      reasonCode := "kill_switch_state_conflict"
      message :=
        match observedState with
        | none => "Kill switch state changed before control transition could be committed"
        | some observed =>
          "Kill switch state changed before control transition could be committed: observed " ++ observed.text }
  actionPlan := getKillSwitchActionPlan (observedState.getD attemptedResult.transition.fromState)
  reasonMatchesTarget := attemptedResult.reasonMatchesTarget
  recommendedTargetState := attemptedResult.recommendedTargetState

inductive RiskSeverity where
  | info
  | warn
  | error
  | critical
deriving DecidableEq, Repr

def toKillSwitchControlRiskAction (result : KillSwitchControlResult) : String :=
  if result.transition.accepted = false then "REJECT_KILL_SWITCH_TRANSITION"
  else
    match result.transition.toState with
    | .normal => "RESTORE_NORMAL"
    | .newOrdersBlocked => "BLOCK_NEW_ORDERS"
    | .hardStop => "HARD_STOP"
    | .manualReviewRequired => "MANUAL_REVIEW_REQUIRED"
    | .strategyPaused => "PAUSE_STRATEGY"

def toKillSwitchControlRiskSeverity (result : KillSwitchControlResult) : RiskSeverity :=
  if result.transition.accepted = false then .warn
  else if result.transition.toState = .hardStop ∨ result.transition.toState = .manualReviewRequired then .critical
  else if result.transition.toState = .normal then .info
  else .warn

structure KillSwitchRow where
  state : KillSwitchState
  reasonCode : String
  correlationId : String
deriving DecidableEq, Repr

structure KillSwitchAuditEvent where
  event : StateTransitionDecision KillSwitchState
  actor : String
  correlationId : String
deriving DecidableEq, Repr

structure KillSwitchRiskEvent where
  riskType : String
  severity : RiskSeverity
  action : String
  correlationId : String
deriving DecidableEq, Repr

/-- what the control transaction reads and writes: the global row, the evidence, and the cancel jobs by their key -/
structure KillSwitchDatabase where
  killSwitchState : Option KillSwitchRow
  auditEvents : List KillSwitchAuditEvent
  riskEvents : List KillSwitchRiskEvent
  hardStopCancelJobs : List String
deriving DecidableEq

def hardStopCancelJobKey (transition : StateTransitionDecision KillSwitchState) (occurredAt correlationId : String) :
    String :=
  ":".intercalate ["hard_stop_pending_paper_order_cancel", transition.fromState.text, transition.toState.text,
    occurredAt, correlationId]

theorem plain_of_all {s : String} (h : s.toList.all (fun c => c.isLower || c = '_') = true) :
    ∀ c ∈ s.toList, c.isLower ∨ c = '_' := by
  simpa using h

section Host

variable [Host]

def canonicalizeKillSwitchReasonCode (reasonCode : String) : String := Host.toLowerCase (trim reasonCode)

def createKillSwitchControlDecision (currentState : KillSwitchState) (request : KillSwitchControlRequest) :
    KillSwitchControlResult :=
  canonicalControlDecision currentState request.targetState (canonicalizeKillSwitchReasonCode request.reasonCode) request.message

/-- the row after an accepted transition, where the row still has the state the transition starts from -/
def updateKillSwitchState (row : KillSwitchRow) (result : KillSwitchControlResult) (correlationId : String) :
    Option KillSwitchRow :=
  if row.state = result.transition.fromState then
    some ⟨result.transition.toState, result.transition.reasonCode, correlationId⟩
  else none

/-- `applyPostgresKillSwitchControl`: one transaction -/
def applyPostgresKillSwitchControl (database : KillSwitchDatabase) (request : KillSwitchControlRequest) :
    KillSwitchDatabase × Except Thrown KillSwitchControlResult :=
  match database.killSwitchState with
  | none => (database, throw ⟨"Error", "global kill switch state row was not found"⟩)
  | some current =>
    let decision := createKillSwitchControlDecision current.state request
    let (row, result) :=
      if decision.transition.accepted then
        match updateKillSwitchState current decision request.correlationId with
        | some updated => (updated, decision)
        | none => (current, createKillSwitchControlConflictResult decision (some current.state))
      else (current, decision)
    let actor := request.actor.getD "http-control"
    let jobKey := hardStopCancelJobKey result.transition request.occurredAt request.correlationId
    let enqueues : Bool :=
      result.transition.accepted ∧ result.transition.toState = .hardStop ∧ result.actionPlan.cancelPendingPaperOrders
    ({ killSwitchState := some row
       auditEvents := database.auditEvents ++ [⟨result.transition, actor, request.correlationId⟩]
       riskEvents := database.riskEvents ++ [⟨result.transition.reasonCode, toKillSwitchControlRiskSeverity result,
         toKillSwitchControlRiskAction result, request.correlationId⟩]
       hardStopCancelJobs :=
         if enqueues ∧ jobKey ∉ database.hardStopCancelJobs then database.hardStopCancelJobs ++ [jobKey]
         else database.hardStopCancelJobs }, pure result)

/-! ## The durable state after a request -/

/-- what a request makes of the durable state, by its canonical reason -/
def controlledState (currentState : KillSwitchState) (targetState : KillSwitchControlTargetState) (reasonCode : String) :
    KillSwitchState :=
  let transition := (canonicalControlDecision currentState targetState reasonCode none).transition
  if transition.accepted then transition.toState else currentState

omit [Host] in
/-- whether a request is accepted, and where it leads, does not depend on its message -/
theorem decision_message (currentState : KillSwitchState) (targetState : KillSwitchControlTargetState)
    (reasonCode : String) (message : Option String) :
    (canonicalControlDecision currentState targetState reasonCode message).transition.accepted
        = (canonicalControlDecision currentState targetState reasonCode none).transition.accepted ∧
      (canonicalControlDecision currentState targetState reasonCode message).transition.toState
        = (canonicalControlDecision currentState targetState reasonCode none).transition.toState ∧
      (canonicalControlDecision currentState targetState reasonCode message).transition.fromState = currentState := by
  unfold canonicalControlDecision transitionKillSwitchState
  simp only
  split_ifs <;> exact ⟨rfl, rfl, rfl⟩

/-- **One transaction.** The row moves to the decision's target if the request is accepted and stays as it is otherwise;
the update never finds another state than the one that was read. -/
theorem apply_state {database : KillSwitchDatabase} {row : KillSwitchRow} (hrow : database.killSwitchState = some row)
    (request : KillSwitchControlRequest) :
    ((applyPostgresKillSwitchControl database request).1.killSwitchState.map KillSwitchRow.state)
      = some (controlledState row.state request.targetState (canonicalizeKillSwitchReasonCode request.reasonCode)) := by
  obtain ⟨haccepted, hto, hfrom⟩ := decision_message row.state request.targetState
    (canonicalizeKillSwitchReasonCode request.reasonCode) request.message
  unfold applyPostgresKillSwitchControl controlledState
  simp only [hrow, createKillSwitchControlDecision, updateKillSwitchState, hfrom, if_true, Option.map_some]
  rw [← haccepted, ← hto]
  split_ifs <;> rfl

/-- the constant that the update compares with is the state that was read -/
theorem apply_result {database : KillSwitchDatabase} {row : KillSwitchRow} (hrow : database.killSwitchState = some row)
    (request : KillSwitchControlRequest) :
    (applyPostgresKillSwitchControl database request).2 = .ok (createKillSwitchControlDecision row.state request) := by
  obtain ⟨-, -, hfrom⟩ := decision_message row.state request.targetState
    (canonicalizeKillSwitchReasonCode request.reasonCode) request.message
  unfold applyPostgresKillSwitchControl
  simp only [hrow, createKillSwitchControlDecision, updateKillSwitchState, hfrom, if_true]
  split_ifs <;> rfl

/-- a reason of lower-case letters and underscores is canonical -/
theorem canonicalize_plain {reasonCode : String} (h : ∀ c ∈ reasonCode.toList, c.isLower ∨ c = '_') :
    canonicalizeKillSwitchReasonCode reasonCode = reasonCode := by
  have hsolid : ∀ c ∈ reasonCode.toList, isWhiteSpace c = false := by
    intro c hc
    rcases h c hc with hlower | rfl
    · exact isWhiteSpace_of_isLower hlower
    · decide
  unfold canonicalizeKillSwitchReasonCode
  rw [trim_solid hsolid, Host.toLowerCase_plain reasonCode h]

end Host

/-! ## Live reconcile requests -/

section Live

variable {reasonCode : String}

/-- a manual review request with a reason that does not speak for another target closes at least that far -/
theorem controlledState_manualReview (hlive : isLiveReconcileReason reasonCode = true)
    (hreason : killSwitchTargetStateByReasonCode.lookup reasonCode = none ∨
      killSwitchTargetStateByReasonCode.lookup reasonCode = some .manualReviewRequired) (currentState : KillSwitchState) :
    (getKillSwitchActionPlan (controlledState currentState .manualReviewRequired reasonCode)).covers
      (getKillSwitchActionPlan .manualReviewRequired) = true := by
  rcases hreason with hreason | hreason <;>
  cases currentState <;>
  simp [controlledState, canonicalControlDecision, resolveLiveReconcileEffectiveTargetState, isLiveReconcileDowngrade,
    hlive, hreason, getKillSwitchActionPlan, KillSwitchControlTargetState.state, transitionKillSwitchState,
    canTransitionKillSwitchState, killSwitchStateTransitions, createLiveReconcileDowngradeBlockedDecision,
    KillSwitchActionPlan.covers]

/-- a request to block new orders for a plain mismatch closes at least that far -/
theorem controlledState_block (currentState : KillSwitchState) :
    (getKillSwitchActionPlan (controlledState currentState .newOrdersBlocked "live_reconcile_mismatch")).covers
      (getKillSwitchActionPlan .newOrdersBlocked) = true := by
  cases currentState <;> decide +kernel

/-- that reason speaks for blocking new orders, so a manual review in its name is turned down -/
theorem controlledState_mismatch (currentState : KillSwitchState) :
    controlledState currentState .manualReviewRequired "live_reconcile_mismatch" = currentState := by
  cases currentState <;> decide +kernel

end Live

end SeeMirai.KillSwitch
