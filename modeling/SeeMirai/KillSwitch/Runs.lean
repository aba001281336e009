/-
The kill switch over whole runs. Two writers share the global row: control requests (HTTP, Telegram, live reconcile;
infrastructure/db/kill-switch-control.ts) and the RiskGate event store (infrastructure/db/risk-gate-runtime-event-store.ts).
Each request is one transaction. The state that a transaction read may be stale by the time its update runs: for control
it is a parameter of the step, for the RiskGate store it is the state in the decision input. Orders change in between.

The writers differ in what a stale read costs. Control commits a conflict as evidence and leaves the row; the store
throws, which takes back everything the transaction wrote. They differ in a HARD_STOP too: control queues the cancel job,
the store records the plan as an audit event. Both tables of events are kept by writer.

Results:
- `commit_cases`: what a control transaction does with the row and its result, whatever state it read.
- `append_cases`: what a committed RiskGate transaction writes.
- `step_disciplined`: what any step keeps.
- `kill_switch_runs`: every step of every run keeps it.
-/
import SeeMirai.KillSwitch.Control
import SeeMirai.Risk.Runtime

namespace SeeMirai.KillSwitch

open Fallible Risk

/-! ## Model: the RiskGate event store -/

inductive RiskGateAuditKind where
  | orderStateTransition
  | rejection
  | killSwitchStateTransition
  | hardStopActionPlan
  | strategyPauseActionPlan
deriving DecidableEq, Repr

structure RiskGateAuditEvent where
  auditKind : RiskGateAuditKind
  severity : RiskSeverity
  reasonCode : String
  orderId : String
  strategyId : String
  correlationId : String
deriving DecidableEq, Repr

/-- a transition of either machine, of which the event repeats acceptance and reason -/
def createStateTransitionAuditEvent {σ : Type} (input : RiskGateRuntimeDecisionInput) (event : StateTransitionDecision σ)
    (auditKind : RiskGateAuditKind) : RiskGateAuditEvent where
  auditKind := auditKind
  severity := if event.accepted then .info else .warn
  reasonCode := event.reasonCode
  orderId := input.orderId
  strategyId := input.riskGateContext.orderIntent.strategyId
  correlationId := input.correlationId

def toAuditSeverity (action : RiskBlockAction) : RiskSeverity :=
  if action = .hardStop ∨ action = .manualReviewRequired then .critical else .warn

def createRiskRejectionAuditEvent (input : RiskGateRuntimeDecisionInput) (riskGateResult : RiskGateResult) :
    RiskGateAuditEvent where
  auditKind := .rejection
  severity := toAuditSeverity riskGateResult.action
  reasonCode := (riskGateResult.failedEvaluations.head?.map RiskGateEvaluation.reasonCode).getD "risk_gate_rejected"
  orderId := input.orderId
  strategyId := input.riskGateContext.orderIntent.strategyId
  correlationId := input.correlationId

def createHardStopActionPlanAuditEvent (input : RiskGateRuntimeDecisionInput) : RiskGateAuditEvent where
  auditKind := .hardStopActionPlan
  severity := .critical
  reasonCode := "hard_stop_action_plan_created"
  orderId := input.orderId
  strategyId := input.riskGateContext.orderIntent.strategyId
  correlationId := input.correlationId

def createStrategyPauseActionPlanAuditEvent (input : RiskGateRuntimeDecisionInput) : RiskGateAuditEvent where
  auditKind := .strategyPauseActionPlan
  severity := .warn
  reasonCode := "strategy_pause_action_plan_created"
  orderId := input.orderId
  strategyId := input.riskGateContext.strategy.strategyId
  correlationId := input.correlationId

def createRiskGateAuditEvents (input : RiskGateRuntimeDecisionInput) (plan : RiskGateRuntimeDecisionPlan) :
    List RiskGateAuditEvent :=
  [createStateTransitionAuditEvent input plan.orderStateTransition .orderStateTransition]
    ++ (if plan.riskGateResult.approved then [] else [createRiskRejectionAuditEvent input plan.riskGateResult])
    ++ plan.killSwitchStateTransition.toList.map
      (fun event => createStateTransitionAuditEvent input event .killSwitchStateTransition)
    ++ (if plan.hardStopActionPlan.isSome then [createHardStopActionPlanAuditEvent input] else [])
    ++ (if plan.strategyPauseActionPlan.isSome then [createStrategyPauseActionPlanAuditEvent input] else [])

/-- what the two writers share and what the event store adds to it -/
structure RuntimeDatabase where
  control : KillSwitchDatabase
  orders : String → Option OrderLifecycleStatus
  orderEvents : List (String × StateTransitionDecision OrderLifecycleStatus)
  riskEvents : List RiskGateRiskEvent
  auditEvents : List RiskGateAuditEvent

/-- an accepted order transition needs the order in the state it starts from -/
def updateOrderStatus (orders : String → Option OrderLifecycleStatus) (orderId : String)
    (transition : StateTransitionDecision OrderLifecycleStatus) :
    Except Thrown (String → Option OrderLifecycleStatus) :=
  if transition.accepted then
    if orders orderId = some transition.fromState then pure (Function.update orders orderId (some transition.toState))
    else throw ⟨"Error", "accepted order state transition target order not found or current status mismatch"⟩
  else pure orders

/-- the receipt is found by kind and reason -/
def findKillSwitchAuditReceipt (auditEvents : List RiskGateAuditEvent) (reasonCode : String) : Except Thrown Unit :=
  if auditEvents.any (fun event => event.auditKind = .killSwitchStateTransition && event.reasonCode = reasonCode) then pure ()
  else throw ⟨"Error", "kill switch state transition audit event is required"⟩

def updateKillSwitchSnapshot (row : Option KillSwitchRow) (transition : StateTransitionDecision KillSwitchState)
    (correlationId : String) (auditEvents : List RiskGateAuditEvent) : Except Thrown (Option KillSwitchRow) := do
  if transition.accepted then
    if row.map KillSwitchRow.state = some transition.fromState then
      findKillSwitchAuditReceipt auditEvents transition.reasonCode
      pure (some ⟨transition.toState, transition.reasonCode, correlationId⟩)
    else throw ⟨"Error", "accepted kill switch state transition current state mismatch"⟩
  else
    findKillSwitchAuditReceipt auditEvents transition.reasonCode
    pure row

/-- the row after a plan, which may have no transition -/
def killSwitchRowAfter (row : Option KillSwitchRow) (transition : Option (StateTransitionDecision KillSwitchState))
    (correlationId : String) (auditEvents : List RiskGateAuditEvent) : Except Thrown (Option KillSwitchRow) :=
  match transition with
  | none => pure row
  | some transition => updateKillSwitchSnapshot row transition correlationId auditEvents

/-- the writes of one transaction, none of which survive a throw -/
def appendRiskGateDecisionEvidence (database : RuntimeDatabase) (input : RiskGateRuntimeDecisionInput)
    (plan : RiskGateRuntimeDecisionPlan) : Except Thrown RuntimeDatabase := do
  let orders ← updateOrderStatus database.orders input.orderId plan.orderStateTransition
  let auditEvents := createRiskGateAuditEvents input plan
  let row ← killSwitchRowAfter database.control.killSwitchState plan.killSwitchStateTransition input.correlationId auditEvents
  pure
    { control := { database.control with killSwitchState := row }
      orders := orders
      orderEvents := database.orderEvents ++ [(input.orderId, plan.orderStateTransition)]
      riskEvents := database.riskEvents ++ plan.riskEvents
      auditEvents := database.auditEvents ++ auditEvents }

section Host

variable [Host]

def persistRiskGateRuntimeDecision (database : RuntimeDatabase) (input : RiskGateRuntimeDecisionInput) :
    Except Thrown (RiskGateRuntimeDecisionPlan × RuntimeDatabase) := do
  let plan ← createRiskGateRuntimeDecisionPlan input
  let committed ← appendRiskGateDecisionEvidence database input plan
  pure (plan, committed)

/-! ## Model: control with a stale read -/

/-- `applyPostgresKillSwitchControl` where the row was read as `seen` -/
def commitKillSwitchControl (database : KillSwitchDatabase) (seen : Option KillSwitchState)
    (request : KillSwitchControlRequest) : KillSwitchDatabase × Except Thrown KillSwitchControlResult :=
  match seen with
  | none => (database, throw ⟨"Error", "global kill switch state row was not found"⟩)
  | some current =>
    let decision := createKillSwitchControlDecision current request
    let (row, result) :=
      if decision.transition.accepted then
        match database.killSwitchState.bind (fun row => updateKillSwitchState row decision request.correlationId) with
        | some updated => (some updated, decision)
        | none =>
          (database.killSwitchState,
            createKillSwitchControlConflictResult decision (database.killSwitchState.map KillSwitchRow.state))
      else (database.killSwitchState, decision)
    let actor := request.actor.getD "http-control"
    let jobKey := hardStopCancelJobKey result.transition request.occurredAt request.correlationId
    let enqueues : Bool :=
      result.transition.accepted ∧ result.transition.toState = .hardStop ∧ result.actionPlan.cancelPendingPaperOrders
    ({ killSwitchState := row
       auditEvents := database.auditEvents ++ [⟨result.transition, actor, request.correlationId⟩]
       riskEvents := database.riskEvents ++ [⟨result.transition.reasonCode, toKillSwitchControlRiskSeverity result,
         toKillSwitchControlRiskAction result, request.correlationId⟩]
       hardStopCancelJobs :=
         if enqueues ∧ jobKey ∉ database.hardStopCancelJobs then database.hardStopCancelJobs ++ [jobKey]
         else database.hardStopCancelJobs }, pure result)

/-- a transaction that reads the row as it is -/
theorem apply_eq_commit (database : KillSwitchDatabase) (request : KillSwitchControlRequest) :
    applyPostgresKillSwitchControl database request
      = commitKillSwitchControl database (database.killSwitchState.map KillSwitchRow.state) request := by
  unfold applyPostgresKillSwitchControl commitKillSwitchControl
  cases database.killSwitchState with
  | none => rfl
  | some row =>
    dsimp only [Option.map_some, Option.bind_some]
    cases updateKillSwitchState row (createKillSwitchControlDecision row.state request) request.correlationId with
    | none => split <;> rfl
    | some updated => split <;> rfl

/-! ## The decision -/

omit [Host] in
@[simp] theorem transitionKillSwitchState_accepted (fromState toState : KillSwitchState) (reasonCode message : Option String) :
    (transitionKillSwitchState fromState toState reasonCode message).accepted
      = canTransitionKillSwitchState fromState toState := by
  unfold transitionKillSwitchState
  dsimp only
  split_ifs with h
  · exact h.symm
  · exact (Bool.eq_false_iff.2 h).symm

omit [Host] in
@[simp] theorem transitionKillSwitchState_toState (fromState toState : KillSwitchState) (reasonCode message : Option String) :
    (transitionKillSwitchState fromState toState reasonCode message).toState = toState := by
  unfold transitionKillSwitchState
  dsimp only
  split_ifs <;> rfl

/-- a live reconcile request to block new orders, which a paused strategy turns into a manual review -/
def Promotes (currentState : KillSwitchState) (targetState : KillSwitchControlTargetState) (reasonCode : String) : Prop :=
  isLiveReconcileReason reasonCode = true ∧ currentState = .strategyPaused ∧ targetState = .newOrdersBlocked

/-- the target after the promotion -/
def effectiveTarget (currentState : KillSwitchState) (targetState : KillSwitchControlTargetState) (reasonCode : String) :
    KillSwitchControlTargetState :=
  (resolveLiveReconcileEffectiveTargetState currentState targetState reasonCode).getD targetState

omit [Host] in
theorem effectiveTarget_of_not_promotes {currentState : KillSwitchState} {targetState : KillSwitchControlTargetState}
    {reasonCode : String} (h : ¬ Promotes currentState targetState reasonCode) :
    effectiveTarget currentState targetState reasonCode = targetState := by
  unfold Promotes at h
  unfold effectiveTarget resolveLiveReconcileEffectiveTargetState
  rw [if_neg h]
  rfl

omit [Host] in
theorem effectiveTarget_of_promotes {currentState : KillSwitchState} {targetState : KillSwitchControlTargetState}
    {reasonCode : String} (h : Promotes currentState targetState reasonCode) :
    effectiveTarget currentState targetState reasonCode = .manualReviewRequired := by
  unfold Promotes at h
  unfold effectiveTarget resolveLiveReconcileEffectiveTargetState
  rw [if_pos h]
  rfl

omit [Host] in
/-- **What acceptance rests on.** An accepted decision goes to the effective target along the table, is no downgrade by
the live reconcile, and its reason speaks for that target, unless the target was promoted. -/
theorem decision_accepted {currentState : KillSwitchState} {targetState : KillSwitchControlTargetState}
    {reasonCode : String} {message : Option String}
    (h : (canonicalControlDecision currentState targetState reasonCode message).transition.accepted = true) :
    (canonicalControlDecision currentState targetState reasonCode message).transition.toState
        = (effectiveTarget currentState targetState reasonCode).state ∧
      (canonicalControlDecision currentState targetState reasonCode message).actionPlan
        = getKillSwitchActionPlan (effectiveTarget currentState targetState reasonCode).state ∧
      canTransitionKillSwitchState currentState (effectiveTarget currentState targetState reasonCode).state = true ∧
      isLiveReconcileDowngrade currentState (effectiveTarget currentState targetState reasonCode) reasonCode = false ∧
      (killSwitchTargetStateByReasonCode.lookup reasonCode = none ∨
        killSwitchTargetStateByReasonCode.lookup reasonCode = some targetState ∨
        effectiveTarget currentState targetState reasonCode ≠ targetState) := by
  unfold canonicalControlDecision at h ⊢
  simp only [← effectiveTarget.eq_1] at h ⊢
  split at h
  · cases h
  · rename_i hdowngrade
    split at h
    · rename_i hreason
      rw [transitionKillSwitchState_accepted] at h
      rw [if_neg hdowngrade, if_pos hreason]
      refine ⟨transitionKillSwitchState_toState .., ?_, h, Bool.eq_false_iff.2 hdowngrade, by simpa using hreason⟩
      simp [h]
    · cases h

omit [Host] in
/-- a state that the live reconcile does not downgrade keeps every flag -/
theorem covers_of_not_downgrade {currentState : KillSwitchState} {targetState : KillSwitchControlTargetState}
    {reasonCode : String} (hlive : isLiveReconcileReason reasonCode = true)
    (h : isLiveReconcileDowngrade currentState targetState reasonCode = false) :
    (getKillSwitchActionPlan targetState.state).covers (getKillSwitchActionPlan currentState) = true := by
  unfold isLiveReconcileDowngrade at h
  rw [hlive, if_neg (by decide)] at h
  cases currentState <;> cases targetState <;> revert h <;> decide

/-! ## One control transaction -/

/-- **Control, whatever was read.** Either the decision is accepted and the row still has the state that was read, and
then it moves to the decision's target; or the result is a rejection and the row stays as it is. -/
theorem commit_cases (database : KillSwitchDatabase) (seen : KillSwitchState) (request : KillSwitchControlRequest) :
    ∃ result, (commitKillSwitchControl database (some seen) request).2 = .ok result ∧
      ((result = createKillSwitchControlDecision seen request ∧ result.transition.accepted = true ∧
          database.killSwitchState.map KillSwitchRow.state = some seen ∧
          (commitKillSwitchControl database (some seen) request).1.killSwitchState
            = some ⟨result.transition.toState, result.transition.reasonCode, request.correlationId⟩) ∨
        (result.transition.accepted = false ∧
          (commitKillSwitchControl database (some seen) request).1.killSwitchState = database.killSwitchState)) := by
  have hfrom : (createKillSwitchControlDecision seen request).transition.fromState = seen :=
    (decision_message seen request.targetState (canonicalizeKillSwitchReasonCode request.reasonCode) request.message).2.2
  unfold commitKillSwitchControl
  dsimp only
  cases haccepted : (createKillSwitchControlDecision seen request).transition.accepted with
  | false => exact ⟨_, rfl, Or.inr ⟨haccepted, rfl⟩⟩
  | true =>
    cases hupdate : database.killSwitchState.bind
        (fun row => updateKillSwitchState row (createKillSwitchControlDecision seen request) request.correlationId) with
    | none => exact ⟨_, rfl, Or.inr ⟨rfl, rfl⟩⟩
    | some updated =>
      obtain ⟨row, hrow, hupdate⟩ := Option.bind_eq_some_iff.1 hupdate
      unfold updateKillSwitchState at hupdate
      split_ifs at hupdate with hstate
      cases hupdate
      exact ⟨_, rfl, Or.inl ⟨rfl, haccepted, by rw [hrow, Option.map_some, hstate, hfrom], rfl⟩⟩

/-- every control transaction that gets to a result leaves one audit event and one risk event of it -/
theorem commit_evidence {database : KillSwitchDatabase} {seen : Option KillSwitchState} {request : KillSwitchControlRequest}
    {result : KillSwitchControlResult} (h : (commitKillSwitchControl database seen request).2 = .ok result) :
    (commitKillSwitchControl database seen request).1.auditEvents
        = database.auditEvents ++ [⟨result.transition, request.actor.getD "http-control", request.correlationId⟩] ∧
      (commitKillSwitchControl database seen request).1.riskEvents
        = database.riskEvents ++ [⟨result.transition.reasonCode, toKillSwitchControlRiskSeverity result,
            toKillSwitchControlRiskAction result, request.correlationId⟩] := by
  unfold commitKillSwitchControl at h ⊢
  cases seen with
  | none => cases h
  | some seen =>
    cases h
    exact ⟨rfl, rfl⟩

/-- the cancel job of an accepted entry into HARD_STOP is there once, and no other request queues one -/
theorem commit_jobs {database : KillSwitchDatabase} {seen : Option KillSwitchState} {request : KillSwitchControlRequest}
    {result : KillSwitchControlResult} (h : (commitKillSwitchControl database seen request).2 = .ok result) :
    (commitKillSwitchControl database seen request).1.hardStopCancelJobs
      = if (result.transition.accepted = true ∧ result.transition.toState = .hardStop) ∧
          hardStopCancelJobKey result.transition request.occurredAt request.correlationId ∉ database.hardStopCancelJobs then
          database.hardStopCancelJobs ++
            [hardStopCancelJobKey result.transition request.occurredAt request.correlationId]
        else database.hardStopCancelJobs := by
  cases seen with
  | none => cases h
  | some seen =>
    have hplan : result.transition.accepted = true → result.transition.toState = .hardStop →
        result.actionPlan.cancelPendingPaperOrders = true := by
      intro haccepted hstop
      obtain ⟨result', hresult, hcases⟩ := commit_cases database seen request
      rw [h] at hresult
      cases hresult
      rcases hcases with ⟨rfl, -, -, -⟩ | ⟨hrejected, -⟩
      · obtain ⟨hto, hactions, -⟩ := decision_accepted haccepted
        unfold createKillSwitchControlDecision at hstop ⊢
        rw [hactions, ← hto, hstop]
        rfl
      · rw [hrejected] at haccepted
        cases haccepted
    unfold commitKillSwitchControl at h ⊢
    cases h
    dsimp only
    refine if_congr ?_ rfl rfl
    simp only [decide_eq_true_eq]
    refine and_congr_left fun _ => ⟨fun henqueues => ⟨henqueues.1, henqueues.2.1⟩, fun henters => ?_⟩
    exact ⟨henters.1, henters.2, hplan henters.1 henters.2⟩

theorem commit_jobs_nodup {database : KillSwitchDatabase} (hjobs : database.hardStopCancelJobs.Nodup)
    (seen : Option KillSwitchState) (request : KillSwitchControlRequest) :
    (commitKillSwitchControl database seen request).1.hardStopCancelJobs.Nodup := by
  cases seen with
  | none => exact hjobs
  | some seen =>
    obtain ⟨result, hresult, -⟩ := commit_cases database seen request
    rw [commit_jobs hresult]
    split_ifs with hnew
    · refine List.nodup_append.2 ⟨hjobs, List.nodup_singleton _, fun key hkey last hlast hsame => ?_⟩
      rw [List.mem_singleton] at hlast
      subst hsame hlast
      exact hnew.2 hkey
    · exact hjobs

/-! ## One RiskGate transaction -/

theorem plan_assembled {input : RiskGateRuntimeDecisionInput} {plan : RiskGateRuntimeDecisionPlan}
    (h : createRiskGateRuntimeDecisionPlan input = .ok plan) :
    ∃ result transition, plan = assemblePlan input result transition := by
  obtain ⟨evaluated, -, h⟩ := bind_eq_ok.1 h
  dsimp only at h
  split at h
  · obtain rfl := pure_eq_ok.1 h
    exact ⟨_, _, rfl⟩
  · obtain rfl := pure_eq_ok.1 h
    exact ⟨_, _, rfl⟩

omit [Host] in
/-- a kill switch transition of a plan is one of the table, and a HARD_STOP comes with the gate's own action -/
theorem createKillSwitchTransition_legal {input : RiskGateRuntimeDecisionInput} {result : RiskGateResult}
    {transition : StateTransitionDecision KillSwitchState} (h : createKillSwitchTransition input result = some transition) :
    canTransitionKillSwitchState transition.fromState transition.toState = true ∧
      (transition.toState = .hardStop → result.action = .hardStop) := by
  obtain ⟨haccepted, hfrom, -⟩ := createKillSwitchTransition_stronger h
  unfold createKillSwitchTransition at h
  dsimp only at h
  split_ifs at h with hsame
  have h := (Option.some.inj h).symm
  have hto : transition.toState = selectTargetKillSwitchState input.currentKillSwitchState result.action := by
    rw [h, transitionKillSwitchState_toState]
  refine ⟨?_, fun hstop => ?_⟩
  · rw [h, transitionKillSwitchState_accepted] at haccepted
    rw [hfrom, hto]
    exact haccepted
  · rw [hto] at hstop
    unfold selectTargetKillSwitchState at hstop hsame
    split_ifs at hstop hsame with hstronger
    · revert hstop
      cases result.action <;> decide
    · exact absurd rfl hsame

omit [Host] in
theorem updateKillSwitchSnapshot_ok {row committed : Option KillSwitchRow}
    {transition : StateTransitionDecision KillSwitchState} {correlationId : String} {auditEvents : List RiskGateAuditEvent}
    (haccepted : transition.accepted = true)
    (h : updateKillSwitchSnapshot row transition correlationId auditEvents = .ok committed) :
    row.map KillSwitchRow.state = some transition.fromState ∧
      committed = some ⟨transition.toState, transition.reasonCode, correlationId⟩ := by
  unfold updateKillSwitchSnapshot at h
  rw [if_pos haccepted] at h
  split at h
  · rename_i hstate
    obtain ⟨-, -, h⟩ := bind_eq_ok.1 h
    exact ⟨hstate, (pure_eq_ok.1 h).symm⟩
  · cases h

/-- **A committed RiskGate transaction** appends all its events and queues no job. The row stays, or moves along the
plan's transition from the state that the plan was made on. -/
theorem append_cases {database committed : RuntimeDatabase} {input : RiskGateRuntimeDecisionInput}
    {plan : RiskGateRuntimeDecisionPlan} (h : persistRiskGateRuntimeDecision database input = .ok (plan, committed)) :
    createRiskGateRuntimeDecisionPlan input = .ok plan ∧
      (committed.orderEvents = database.orderEvents ++ [(input.orderId, plan.orderStateTransition)] ∧
        committed.riskEvents = database.riskEvents ++ plan.riskEvents ∧
        committed.auditEvents = database.auditEvents ++ createRiskGateAuditEvents input plan) ∧
      committed.control.hardStopCancelJobs = database.control.hardStopCancelJobs ∧
      ((plan.killSwitchStateTransition = none ∧ committed.control.killSwitchState = database.control.killSwitchState) ∨
        ∃ transition, plan.killSwitchStateTransition = some transition ∧
          database.control.killSwitchState.map KillSwitchRow.state = some transition.fromState ∧
          committed.control.killSwitchState
            = some ⟨transition.toState, transition.reasonCode, input.correlationId⟩) := by
  obtain ⟨plan', hplan, h⟩ := bind_eq_ok.1 h
  obtain ⟨committed', happend, h⟩ := bind_eq_ok.1 h
  cases pure_eq_ok.1 h
  refine ⟨hplan, ?_⟩
  obtain ⟨orders, -, happend⟩ := bind_eq_ok.1 happend
  obtain ⟨row, hrow, happend⟩ := bind_eq_ok.1 happend
  obtain rfl := pure_eq_ok.1 happend
  refine ⟨⟨rfl, rfl, rfl⟩, rfl, ?_⟩
  cases htransition : plan.killSwitchStateTransition with
  | none =>
    rw [htransition] at hrow
    exact Or.inl ⟨rfl, (pure_eq_ok.1 hrow).symm⟩
  | some transition =>
    rw [htransition] at hrow
    obtain ⟨result, orderTransition, rfl⟩ := plan_assembled hplan
    obtain ⟨haccepted, -, -⟩ := createKillSwitchTransition_stronger htransition
    obtain ⟨hstate, hmoved⟩ := updateKillSwitchSnapshot_ok haccepted hrow
    exact Or.inr ⟨transition, rfl, hstate, hmoved⟩

/-! ## Runs -/

/-- a request of either writer, or a change of an order by anybody -/
inductive RuntimeStep where
  | control (seen : Option KillSwitchState) (request : KillSwitchControlRequest)
  | riskGate (input : RiskGateRuntimeDecisionInput)
  | order (orderId : String) (status : Option OrderLifecycleStatus)

def applyStep (database : RuntimeDatabase) : RuntimeStep → RuntimeDatabase
  | .control seen request => { database with control := (commitKillSwitchControl database.control seen request).1 }
  | .riskGate input =>
    match persistRiskGateRuntimeDecision database input with
    | .ok (_, committed) => committed
    | .error _ => database
  | .order orderId status => { database with orders := Function.update database.orders orderId status }

def run (database : RuntimeDatabase) (steps : List RuntimeStep) : RuntimeDatabase := steps.foldl applyStep database

def RuntimeDatabase.killSwitch (database : RuntimeDatabase) : Option KillSwitchState :=
  database.control.killSwitchState.map KillSwitchRow.state

/-- what a control request with its stale read does to the database -/
structure ControlDisciplined (database : RuntimeDatabase) (seen : Option KillSwitchState)
    (request : KillSwitchControlRequest) : Prop where
  /-- a reason of the live reconcile turns no flag off -/
  liveReconcile : isLiveReconcileReason (canonicalizeKillSwitchReasonCode request.reasonCode) = true →
    ∀ fromState toState, database.killSwitch = some fromState →
      (applyStep database (.control seen request)).killSwitch = some toState →
      (getKillSwitchActionPlan toState).covers (getKillSwitchActionPlan fromState) = true
  /-- a known reason with another target changes nothing, or is promoted to a manual review -/
  mismatch : ∀ recommended,
    killSwitchTargetStateByReasonCode.lookup (canonicalizeKillSwitchReasonCode request.reasonCode) = some recommended →
    recommended ≠ request.targetState →
    (applyStep database (.control seen request)).control.killSwitchState = database.control.killSwitchState ∨
      ((∃ current, seen = some current ∧
          Promotes current request.targetState (canonicalizeKillSwitchReasonCode request.reasonCode)) ∧
        database.killSwitch = some .strategyPaused ∧
        (applyStep database (.control seen request)).killSwitch = some .manualReviewRequired)
  /-- a request that found no row changes nothing -/
  missing : seen = none → applyStep database (.control seen request) = database
  /-- any other gets to a result, which is kept as one audit and one risk event; a rejection or conflict keeps the row -/
  evidence : ∀ current, seen = some current →
    ∃ result, (commitKillSwitchControl database.control seen request).2 = .ok result ∧
      (applyStep database (.control seen request)).control.auditEvents
        = database.control.auditEvents
            ++ [⟨result.transition, request.actor.getD "http-control", request.correlationId⟩] ∧
      (applyStep database (.control seen request)).control.riskEvents
        = database.control.riskEvents ++ [⟨result.transition.reasonCode, toKillSwitchControlRiskSeverity result,
            toKillSwitchControlRiskAction result, request.correlationId⟩] ∧
      (result.transition.accepted = false →
        (applyStep database (.control seen request)).control.killSwitchState = database.control.killSwitchState ∧
        (applyStep database (.control seen request)).control.hardStopCancelJobs = database.control.hardStopCancelJobs) ∧
      -- the job of an accepted HARD_STOP is queued unless it is there, and is there once
      (result.transition.accepted = true → result.transition.toState = .hardStop →
        let key := hardStopCancelJobKey result.transition request.occurredAt request.correlationId
        (applyStep database (.control seen request)).control.hardStopCancelJobs
            = (if key ∈ database.control.hardStopCancelJobs then database.control.hardStopCancelJobs
              else database.control.hardStopCancelJobs ++ [key]) ∧
          (applyStep database (.control seen request)).control.hardStopCancelJobs.count key = 1)

/-- what a RiskGate decision does to the database -/
structure RiskGateDisciplined (database : RuntimeDatabase) (input : RiskGateRuntimeDecisionInput) : Prop where
  /-- a decision that is not committed leaves nothing behind -/
  rolledBack : ∀ thrown, persistRiskGateRuntimeDecision database input = .error thrown →
    applyStep database (.riskGate input) = database
  /-- a transition from another state than the durable one is not committed -/
  conflict : ∀ plan transition, createRiskGateRuntimeDecisionPlan input = .ok plan →
    plan.killSwitchStateTransition = some transition → database.killSwitch ≠ some transition.fromState →
    ∃ thrown, persistRiskGateRuntimeDecision database input = .error thrown
  /-- a committed one, which rejects the order or not, leaves all its events -/
  committed : ∀ plan database', persistRiskGateRuntimeDecision database input = .ok (plan, database') →
    applyStep database (.riskGate input) = database' ∧
      database'.orderEvents = database.orderEvents ++ [(input.orderId, plan.orderStateTransition)] ∧
      database'.riskEvents = database.riskEvents ++ plan.riskEvents ∧
      database'.auditEvents = database.auditEvents ++ createRiskGateAuditEvents input plan ∧
      (plan.killSwitchStateTransition = none → database'.control.killSwitchState = database.control.killSwitchState)
  /-- an entry into HARD_STOP is recorded with its action plan -/
  hardStop : ∀ plan database', persistRiskGateRuntimeDecision database input = .ok (plan, database') →
    database.killSwitch ≠ some .hardStop → database'.killSwitch = some .hardStop →
      plan.hardStopActionPlan.isSome = true ∧ createHardStopActionPlanAuditEvent input ∈ database'.auditEvents
  /-- the event store never queues a job -/
  jobs : (applyStep database (.riskGate input)).control.hardStopCancelJobs = database.control.hardStopCancelJobs

/-- what every step keeps -/
structure Disciplined (database : RuntimeDatabase) (step : RuntimeStep) : Prop where
  /-- the row is neither created nor deleted -/
  present : (applyStep database step).killSwitch.isSome = database.killSwitch.isSome
  /-- the state changes along the table -/
  legal : ∀ fromState toState, database.killSwitch = some fromState →
    (applyStep database step).killSwitch = some toState → fromState ≠ toState →
    canTransitionKillSwitchState fromState toState = true
  hardStop : database.killSwitch = some .hardStop →
    (applyStep database step).killSwitch = some .hardStop ∨
      (applyStep database step).killSwitch = some .manualReviewRequired
  control : ∀ seen request, step = .control seen request → ControlDisciplined database seen request
  riskGate : ∀ input, step = .riskGate input → RiskGateDisciplined database input
  order : ∀ orderId status, step = .order orderId status → (applyStep database step).control = database.control

theorem applyStep_committed {database committed : RuntimeDatabase} {input : RiskGateRuntimeDecisionInput}
    {plan : RiskGateRuntimeDecisionPlan} (h : persistRiskGateRuntimeDecision database input = .ok (plan, committed)) :
    applyStep database (.riskGate input) = committed := by
  simp only [applyStep, h]

theorem applyStep_thrown {database : RuntimeDatabase} {input : RiskGateRuntimeDecisionInput} {thrown : Thrown}
    (h : persistRiskGateRuntimeDecision database input = .error thrown) : applyStep database (.riskGate input) = database := by
  simp only [applyStep, h]

/-- a step moves the row as one of the two writers does, or leaves its state -/
theorem step_moves (database : RuntimeDatabase) (step : RuntimeStep) :
    (applyStep database step).killSwitch = database.killSwitch ∨
      ∃ fromState toState, database.killSwitch = some fromState ∧
        (applyStep database step).killSwitch = some toState ∧
        canTransitionKillSwitchState fromState toState = true := by
  cases step with
  | order orderId status => exact Or.inl rfl
  | control seen request =>
    cases seen with
    | none => exact Or.inl rfl
    | some seen =>
      obtain ⟨result, -, ⟨rfl, haccepted, hstate, hrow⟩ | ⟨-, hrow⟩⟩ := commit_cases database.control seen request
      · obtain ⟨hto, -, hlegal, -⟩ := decision_accepted haccepted
        refine Or.inr ⟨seen, _, hstate, congrArg (Option.map KillSwitchRow.state) hrow, ?_⟩
        rw [← hto] at hlegal
        exact hlegal
      · exact Or.inl (congrArg (Option.map KillSwitchRow.state) hrow)
  | riskGate input =>
    cases hpersist : persistRiskGateRuntimeDecision database input with
    | error thrown => exact Or.inl (by rw [applyStep_thrown hpersist])
    | ok committed =>
      obtain ⟨plan, committed⟩ := committed
      rw [applyStep_committed hpersist]
      obtain ⟨hplan, -, -, ⟨-, hrow⟩ | ⟨transition, htransition, hstate, hrow⟩⟩ := append_cases hpersist
      · exact Or.inl (congrArg (Option.map KillSwitchRow.state) hrow)
      · obtain ⟨result, orderTransition, rfl⟩ := plan_assembled hplan
        exact Or.inr ⟨_, _, hstate, congrArg (Option.map KillSwitchRow.state) hrow,
          (createKillSwitchTransition_legal htransition).1⟩

omit [Host] in
theorem covers_refl (plan : KillSwitchActionPlan) : plan.covers plan = true := by
  simp [KillSwitchActionPlan.covers]

theorem control_disciplined {database : RuntimeDatabase} (hjobs : database.control.hardStopCancelJobs.Nodup)
    (seen : Option KillSwitchState) (request : KillSwitchControlRequest) : ControlDisciplined database seen request := by
  cases seen with
  | none =>
    refine ⟨fun _ fromState toState hfrom hto => ?_, fun _ _ _ => Or.inl rfl, fun _ => rfl, nofun⟩
    have hsame := Option.some.inj (hfrom.symm.trans hto)
    rw [hsame]
    exact covers_refl _
  | some seen =>
    obtain ⟨result, hresult, hcases⟩ := commit_cases database.control seen request
    refine ⟨fun hlive fromState toState hfrom hto => ?_, fun recommended hknown hother => ?_, nofun, ?_⟩
    · rcases hcases with ⟨rfl, haccepted, hstate, hrow⟩ | ⟨-, hrow⟩
      · obtain ⟨htarget, -, -, hkeeps, -⟩ := decision_accepted haccepted
        have hfrom := Option.some.inj (hfrom.symm.trans hstate)
        have hto := Option.some.inj (hto.symm.trans (congrArg (Option.map KillSwitchRow.state) hrow))
        rw [hfrom, hto]
        unfold createKillSwitchControlDecision
        rw [htarget]
        exact covers_of_not_downgrade hlive hkeeps
      · have hsame := Option.some.inj (hfrom.symm.trans
          ((congrArg (Option.map KillSwitchRow.state) hrow).symm.trans hto))
        rw [hsame]
        exact covers_refl _
    · rcases hcases with ⟨rfl, haccepted, hstate, hrow⟩ | ⟨-, hrow⟩
      · obtain ⟨htarget, -, -, -, hreason⟩ := decision_accepted haccepted
        by_cases hpromotes :
            Promotes seen request.targetState (canonicalizeKillSwitchReasonCode request.reasonCode)
        · refine Or.inr ⟨⟨seen, rfl, hpromotes⟩, ?_, ?_⟩
          · rw [← hpromotes.2.1]
            exact hstate
          · rw [effectiveTarget_of_promotes hpromotes] at htarget
            refine (congrArg (Option.map KillSwitchRow.state) hrow).trans ?_
            exact congrArg some htarget
        · -- the reason speaks for another target
          rw [hknown, effectiveTarget_of_not_promotes hpromotes] at hreason
          rcases hreason with hreason | hreason | hreason
          · cases hreason
          · exact absurd (Option.some.inj hreason) hother
          · exact absurd rfl hreason
      · exact Or.inl hrow
    · intro current hcurrent
      cases hcurrent
      obtain ⟨haudit, hrisk⟩ := commit_evidence hresult
      have hqueue := commit_jobs hresult
      refine ⟨result, hresult, haudit, hrisk, fun hrejected => ⟨?_, ?_⟩, fun haccepted hstop => ?_⟩
      · rcases hcases with ⟨-, haccepted, -, -⟩ | ⟨-, hrow⟩
        · rw [hrejected] at haccepted
          cases haccepted
        · exact hrow
      · rw [hrejected, if_neg (by simp)] at hqueue
        exact hqueue
      · have hnodup := commit_jobs_nodup hjobs (some seen) request
        have hqueue : (applyStep database (.control (some seen) request)).control.hardStopCancelJobs
            = if hardStopCancelJobKey result.transition request.occurredAt request.correlationId
                ∈ database.control.hardStopCancelJobs then database.control.hardStopCancelJobs
              else database.control.hardStopCancelJobs
                ++ [hardStopCancelJobKey result.transition request.occurredAt request.correlationId] := by
          refine hqueue.trans ?_
          by_cases hthere : hardStopCancelJobKey result.transition request.occurredAt request.correlationId
              ∈ database.control.hardStopCancelJobs
          · rw [if_pos hthere, if_neg (fun hnew => hnew.2 hthere)]
          · rw [if_neg hthere, if_pos ⟨⟨haccepted, hstop⟩, hthere⟩]
        refine ⟨hqueue, List.count_eq_one_of_mem hnodup ?_⟩
        have hmem : hardStopCancelJobKey result.transition request.occurredAt request.correlationId
            ∈ (applyStep database (.control (some seen) request)).control.hardStopCancelJobs := by
          rw [hqueue]
          split_ifs with hthere
          · exact hthere
          · simp
        exact hmem

theorem riskGate_disciplined (database : RuntimeDatabase) (input : RiskGateRuntimeDecisionInput) :
    RiskGateDisciplined database input := by
  refine ⟨fun thrown => applyStep_thrown, fun plan transition hplan htransition hstale => ?_,
    fun plan database' hpersist => ?_, fun plan database' hpersist hbefore hafter => ?_, ?_⟩
  · cases hpersist : persistRiskGateRuntimeDecision database input with
    | error thrown => exact ⟨thrown, rfl⟩
    | ok committed =>
      obtain ⟨plan', committed⟩ := committed
      obtain ⟨hplan', -, -, hrow⟩ := append_cases hpersist
      rw [hplan] at hplan'
      cases hplan'
      rcases hrow with ⟨hnone, -⟩ | ⟨transition', htransition', hstate, -⟩
      · rw [htransition] at hnone
        cases hnone
      · rw [htransition] at htransition'
        cases htransition'
        exact absurd hstate hstale
  · obtain ⟨-, ⟨horder, hrisk, haudit⟩, -, hrow⟩ := append_cases hpersist
    refine ⟨applyStep_committed hpersist, horder, hrisk, haudit, fun hnone => ?_⟩
    rcases hrow with ⟨-, hrow⟩ | ⟨transition, htransition, -, -⟩
    · exact hrow
    · rw [hnone] at htransition
      cases htransition
  · obtain ⟨hplan, ⟨-, -, haudit⟩, -, ⟨-, hrow⟩ | ⟨transition, htransition, -, hrow⟩⟩ := append_cases hpersist
    · exact absurd ((congrArg (Option.map KillSwitchRow.state) hrow).symm.trans hafter) hbefore
    · obtain ⟨result, orderTransition, rfl⟩ := plan_assembled hplan
      have hstop : transition.toState = .hardStop :=
        Option.some.inj ((congrArg (Option.map KillSwitchRow.state) hrow).symm.trans hafter)
      have haction := (createKillSwitchTransition_legal htransition).2 hstop
      have hactions : (assemblePlan input result orderTransition).hardStopActionPlan.isSome = true := by
        unfold assemblePlan
        rw [if_pos haction]
        rfl
      refine ⟨hactions, ?_⟩
      rw [haudit]
      unfold createRiskGateAuditEvents
      rw [if_pos hactions]
      simp
  · cases hpersist : persistRiskGateRuntimeDecision database input with
    | error thrown => rw [applyStep_thrown hpersist]
    | ok committed =>
      obtain ⟨plan, committed⟩ := committed
      rw [applyStep_committed hpersist]
      exact (append_cases hpersist).2.2.1

/-- **One step**, of either writer, whatever state it was decided on. -/
theorem step_disciplined {database : RuntimeDatabase} (hjobs : database.control.hardStopCancelJobs.Nodup)
    (step : RuntimeStep) : Disciplined database step := by
  have hmoves := step_moves database step
  refine
    { present := ?_
      legal := fun fromState toState hfrom hto hchanged => ?_
      hardStop := fun hstop => ?_
      control := fun seen request _ => control_disciplined hjobs seen request
      riskGate := fun input _ => riskGate_disciplined database input
      order := ?_ }
  · rcases hmoves with hsame | ⟨fromState, toState, hfrom, hto, -⟩
    · rw [hsame]
    · rw [hfrom, hto]
      rfl
  · rcases hmoves with hsame | ⟨fromState', toState', hfrom', hto', hlegal⟩
    · exact absurd (Option.some.inj (hfrom.symm.trans (hsame.symm.trans hto))) hchanged
    · rw [Option.some.inj (hfrom.symm.trans hfrom'), Option.some.inj (hto.symm.trans hto')]
      exact hlegal
  · rcases hmoves with hsame | ⟨fromState, toState, hfrom, hto, hlegal⟩
    · exact Or.inl (hsame.trans hstop)
    · -- the table has one way out
      cases Option.some.inj (hstop.symm.trans hfrom)
      right
      rw [hto]
      revert hlegal
      cases toState <;> decide
  · rintro orderId status rfl
    rfl

theorem step_jobs_nodup {database : RuntimeDatabase} (hjobs : database.control.hardStopCancelJobs.Nodup)
    (step : RuntimeStep) : (applyStep database step).control.hardStopCancelJobs.Nodup := by
  cases step with
  | control seen request => exact commit_jobs_nodup hjobs seen request
  | riskGate input =>
    rw [(riskGate_disciplined database input).jobs]
    exact hjobs
  | order orderId status => exact hjobs

/-- the keys of the jobs table stay unique -/
theorem run_jobs_nodup {database : RuntimeDatabase} (hjobs : database.control.hardStopCancelJobs.Nodup)
    (steps : List RuntimeStep) : (run database steps).control.hardStopCancelJobs.Nodup := by
  induction steps generalizing database with
  | nil => exact hjobs
  | cons step steps ih => exact ih (step_jobs_nodup hjobs step)

/-- **Kill switch over whole runs.** In every run of both writers, with whatever state each of them read, every step is
disciplined: the state changes along the table, HARD_STOP is left for a manual review only, the live reconcile turns no
flag off, a known reason with another target changes nothing unless it is promoted, what is turned down leaves the row
(and its evidence, if it comes from control), and control queues the one job of a HARD_STOP. -/
theorem kill_switch_runs (database : RuntimeDatabase) (hjobs : database.control.hardStopCancelJobs.Nodup)
    (before : List RuntimeStep) (step : RuntimeStep) (after : List RuntimeStep) :
    Disciplined (run database before) step ∧
      run database (before ++ step :: after) = run (applyStep (run database before) step) after := by
  refine ⟨step_disciplined (run_jobs_nodup hjobs before) step, ?_⟩
  unfold run
  rw [List.foldl_append, List.foldl_cons]

end Host

/-! ## Sample runs -/

/-- one validated order and the row in the given state -/
def sampleDatabase (state : KillSwitchState) : RuntimeDatabase where
  control := ⟨some ⟨state, "initial_state", ""⟩, [], [], []⟩
  orders := fun orderId => if orderId = "1" then some .validated else none
  orderEvents := []
  riskEvents := []
  auditEvents := []

/-- a decision made in NORMAL on a failed database write -/
def hardStopInput : RiskGateRuntimeDecisionInput :=
  { sampleInput .validated with
    currentKillSwitchState := .normal
    riskGateContext := { sampleContext "0" with infrastructureSignals := [.dbWriteFailure] } }

def sampleRequest (targetState : KillSwitchControlTargetState) (reasonCode : String) : KillSwitchControlRequest where
  targetState := targetState
  reasonCode := reasonCode
  correlationId := "c"
  actor := none
  message := none
  occurredAt := "2026-01-01T00:00:00.000Z"

/-- a control request that still sees NORMAL after the RiskGate has stopped everything -/
theorem stale_control_disciplined :
    (run (sampleDatabase .normal) [.riskGate hardStopInput]).killSwitch = some .hardStop ∧
      Disciplined (run (sampleDatabase .normal) [.riskGate hardStopInput])
        (.control (some .normal) (sampleRequest .hardStop "db_write_failure")) := by
  refine ⟨by decide +kernel, ?_⟩
  exact (kill_switch_runs (sampleDatabase .normal) List.nodup_nil [.riskGate hardStopInput]
    (.control (some .normal) (sampleRequest .hardStop "db_write_failure")) []).1

/-- **Where the writers differ.** The RiskGate enters HARD_STOP without a job; its decision on a state that is gone leaves
no event at all; and a known reason of the live reconcile moves a paused strategy although it names another target. -/
theorem risk_gate_stops_without_job :
    ((run (sampleDatabase .normal) [.riskGate hardStopInput]).killSwitch = some .hardStop ∧
      (run (sampleDatabase .normal) [.riskGate hardStopInput]).control.hardStopCancelJobs = []) ∧
    ((run (sampleDatabase .newOrdersBlocked) [.riskGate hardStopInput]).killSwitch = some .newOrdersBlocked ∧
      (run (sampleDatabase .newOrdersBlocked) [.riskGate hardStopInput]).riskEvents = [] ∧
      (run (sampleDatabase .newOrdersBlocked) [.riskGate hardStopInput]).auditEvents = []) ∧
    (killSwitchTargetStateByReasonCode.lookup (canonicalizeKillSwitchReasonCode "live_reconcile_identity_conflict")
        = some .manualReviewRequired ∧
      (run (sampleDatabase .strategyPaused) [.control (some .strategyPaused)
        (sampleRequest .newOrdersBlocked "live_reconcile_identity_conflict")]).killSwitch = some .manualReviewRequired) := by
  decide +kernel

end SeeMirai.KillSwitch
