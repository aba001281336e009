/-
`LiveAutonomousEntryRuntime.submitEntryCandidate` (application/live-autonomous-entry-runtime/service.ts, domain/
live-autonomous.ts): preflight, cost model, RiskGate, budget reservation, ExecutionEngine. Every port may answer with any
value of its type or throw. A run keeps the events it recorded and the port calls it made, in order and with their
outcomes, also where it ends with a throw. Alerts go out after the event and cannot change what happens.

Cost input, risk snapshot and cost snapshot are handed on unread; their types are parameters. The texts of an alert, the
result's trace beyond its reason, and the encoding of the evidence that a submission carries are left out.

Results:
- `Legal.appendEvent`: recording an event keeps the events a path of the attempt state machine, or throws.
- `run_conclude`: every exit is an event, an alert and a result with the event's status.
- `submitReserved_cases`: what the engine's answer leads to.
- `entry_protocol`: one submission at most, after every approval; a release exactly after a rejection.
-/
import SeeMirai.Live.EntryPreflight
import SeeMirai.Lib.Effect
import SeeMirai.Lib.TextOrder
import SeeMirai.Risk.Gate

namespace SeeMirai.Live

open Risk

/-! ## Model: the attempt state machine -/

inductive LiveAutonomousOrderAttemptStatus where
  | candidateCreated
  | costApproved
  | riskApproved
  | reserved
  | submitted
  | rejected
  | blocked
  | reconcileRequired
  | manualReviewRequired
deriving DecidableEq, Repr

namespace LiveAutonomousOrderAttemptStatus

def text : LiveAutonomousOrderAttemptStatus → String
  | candidateCreated => "CANDIDATE_CREATED"
  | costApproved => "COST_APPROVED"
  | riskApproved => "RISK_APPROVED"
  | reserved => "RESERVED"
  | submitted => "SUBMITTED"
  | rejected => "REJECTED"
  | blocked => "BLOCKED"
  | reconcileRequired => "RECONCILE_REQUIRED"
  | manualReviewRequired => "MANUAL_REVIEW_REQUIRED"

def isTerminal : LiveAutonomousOrderAttemptStatus → Bool
  | submitted | rejected | blocked | reconcileRequired | manualReviewRequired => true
  | _ => false

def transitions : LiveAutonomousOrderAttemptStatus → List LiveAutonomousOrderAttemptStatus
  | candidateCreated => [costApproved, blocked, reconcileRequired, manualReviewRequired]
  | costApproved => [riskApproved, blocked, reconcileRequired, manualReviewRequired]
  | riskApproved => [reserved, blocked, reconcileRequired, manualReviewRequired]
  | reserved => [submitted, rejected, reconcileRequired, manualReviewRequired, blocked]
  | _ => []

end LiveAutonomousOrderAttemptStatus

/-- an attempt starts as a candidate -/
def canTransitionLiveAutonomousOrderAttempt (fromStatus : Option LiveAutonomousOrderAttemptStatus)
    (toStatus : LiveAutonomousOrderAttemptStatus) : Bool :=
  match fromStatus with
  | none => toStatus = .candidateCreated
  | some fromStatus => if fromStatus.isTerminal then false else toStatus ∈ fromStatus.transitions

structure LiveAutonomousOrderAttemptEvent where
  attemptId : String
  fromStatus : Option LiveAutonomousOrderAttemptStatus
  toStatus : LiveAutonomousOrderAttemptStatus
  reasonCode : String
  message : String
  action : String
  observedAt : String
  metadata : Option JsonRecord

def createLiveAutonomousOrderAttemptEvent (event : LiveAutonomousOrderAttemptEvent) :
    Except Thrown LiveAutonomousOrderAttemptEvent :=
  if canTransitionLiveAutonomousOrderAttempt event.fromStatus event.toStatus then pure event
  else throw ⟨"InvalidLiveAutonomousOrderAttemptTransitionError",
    "Invalid live autonomous order attempt transition: " ++
      (event.fromStatus.map LiveAutonomousOrderAttemptStatus.text).getD "START" ++ " -> " ++ event.toStatus.text⟩

/-! ## Model: identifiers -/

def isLowerHex (c : Char) : Bool := c.isDigit || ('a' ≤ c && c ≤ 'f')

def isIdentifierChar (c : Char) : Bool := c.isDigit || c.isLower || c = '-'

/-- 26 digits at the end -/
def hexTail (cs : List Char) : Bool := cs.length = 26 && cs.all isLowerHex

def collectIdentifierViolations (config : LiveAutonomousEntryRuntimeConfig) (suffix identifier : String) : List String :=
  let cs := identifier.toList
  (if config.identifierPrefix.toList.isPrefixOf cs then []
    else ["M22 identifier는 runtime identifier_prefix로 시작해야 합니다"])
  ++ (if hexTail suffix.toList then [] else ["M22 identifier suffix는 13 bytes lower hex여야 합니다"])
  ++ (if 26 < cs.length ∧ (cs.take (cs.length - 26)).all isIdentifierChar ∧ hexTail (cs.drop (cs.length - 26)) then []
    else ["M22 identifier는 lowercase prefix와 random hex suffix만 사용할 수 있습니다"])
  ++ (if (codeUnits identifier).length > config.identifierMaxLength ∨ (codeUnits identifier).length > 32 then
      ["M22 identifier는 32자 보수 한도와 runtime max length를 넘을 수 없습니다"]
    else [])

def validateLiveAutonomousIdentifier (config : LiveAutonomousEntryRuntimeConfig) (identifier : String) : List String :=
  let suffix :=
    if config.identifierPrefix.toList.isPrefixOf identifier.toList then
      String.ofList (identifier.toList.drop config.identifierPrefix.toList.length)
    else ""
  collectIdentifierViolations config suffix identifier

def unsafeIdentifier (violations : List String) : Thrown :=
  ⟨"UnsafeLiveAutonomousIdentifierError", "안전하지 않은 M22 autonomous identifier: " ++ ", ".intercalate violations⟩

/-- the identifier, where it keeps the policy -/
def checkedIdentifier (config : LiveAutonomousEntryRuntimeConfig) (identifier : String) : Except Thrown String :=
  match validateLiveAutonomousIdentifier config identifier with
  | [] => pure identifier
  | violations => throw (unsafeIdentifier violations)

def createLiveAutonomousIdentifier (config : LiveAutonomousEntryRuntimeConfig)
    (randomHex : ℕ → Except Thrown String) : Except Thrown String := do
  let suffix ← randomHex 13
  checkedIdentifier config (config.identifierPrefix ++ suffix)

/-! ## Model: the ports -/

structure CostModelInput (Cost : Type) where
  input : Cost
  exchangeId : String
  market : String
  evaluatedAt : String
  idempotencyKey : String
  strategyId : String

structure CostDecision (Snapshot : Type) where
  tradeAllowed : Bool
  reasonCode : String
  message : String
  snapshot : Snapshot

structure EntryRiskContext (Risk : Type) where
  orderIntent : EntryIntent
  risk : Risk
  observedAt : String
  expectedLossBpsOfEquity : JsValue

structure LiveAutonomousBudgetReservationRequest where
  attemptId : String
  idempotencyKey : String
  market : String
  strategyId : String
  requestedNotionalKrw : JsValue
  budgetSnapshot : LiveAutonomousBudgetSnapshot
  observedAt : String

structure LiveAutonomousBudgetReservation where
  reservationId : String
  attemptId : String
  idempotencyKey : String
  reservedNotionalKrw : String

inductive LiveAutonomousBudgetReservationResult where
  | reserved (reservation : LiveAutonomousBudgetReservation)
  | refused (reasonCode message : String) (metadata : Option JsonRecord)

/-- evidence with the order whose fingerprint it carries -/
structure Stamped (Body : Type) where
  body : Body
  orderIntent : EntryIntent
  expectedLossBpsOfEquity : JsValue

structure EntrySubmission (Snapshot : Type) where
  intent : EntryIntent
  costSnapshot : Stamped Snapshot
  riskApproval : Stamped RiskGateResult
  submittedAt : String
  expectedLossBpsOfEquity : JsValue

structure EngineRejection where
  reasonCode : String
  message : String
  metadata : Option JsonRecord

/-- the engine's answer; of the broker's order only its id is read -/
inductive EngineResult where
  | submitted (brokerOrderId : String)
  | duplicateSuppressed (brokerOrderId : String)
  | rejected (rejection : EngineRejection)

inductive LiveOpsAlertEventKind where
  | killSwitchStop
  | reconcileBlocked
  | manualReviewRequired
  | costBlocked
  | riskBlocked
  | orderSubmitted
deriving DecidableEq, Repr

structure EntryAlert where
  eventKind : LiveOpsAlertEventKind
  attemptStatus : LiveAutonomousOrderAttemptStatus
  reasonCode : String
deriving DecidableEq, Repr

structure LiveAutonomousEntryRuntimePorts (Cost Risk Snapshot : Type) where
  evaluateCost : CostModelInput Cost → Except Thrown (CostDecision Snapshot)
  evaluateRiskGate : EntryRiskContext Risk → Except Thrown RiskGateResult
  reserve : LiveAutonomousBudgetReservationRequest → Except Thrown LiveAutonomousBudgetReservationResult
  release : Option (LiveAutonomousBudgetReservation → String → Except Thrown Unit)
  submitOrder : EntrySubmission Snapshot → Except Thrown EngineResult
  liveOpsAlerts : Option (EntryAlert → Except Thrown Unit)
  randomHex : ℕ → Except Thrown String
  clock : String

/-- a call of a port with what came of it -/
inductive PortCall (Cost Risk Snapshot : Type) where
  | cost (input : CostModelInput Cost) (outcome : Except Thrown (CostDecision Snapshot))
  | risk (context : EntryRiskContext Risk) (outcome : Except Thrown RiskGateResult)
  | reserve (request : LiveAutonomousBudgetReservationRequest)
      (outcome : Except Thrown LiveAutonomousBudgetReservationResult)
  | submit (submission : EntrySubmission Snapshot) (outcome : Except Thrown EngineResult)
  | release (reservation : LiveAutonomousBudgetReservation) (reasonCode : String) (outcome : Except Thrown Unit)
  | alert (alert : EntryAlert) (outcome : Except Thrown Unit)

/-- what an attempt has done so far -/
structure AttemptLog (Cost Risk Snapshot : Type) where
  events : List LiveAutonomousOrderAttemptEvent
  currentStatus : Option LiveAutonomousOrderAttemptStatus
  calls : List (PortCall Cost Risk Snapshot)

abbrev Attempt (Cost Risk Snapshot : Type) := Effect (AttemptLog Cost Risk Snapshot) Thrown

structure LiveAutonomousEntryAttemptResult (Snapshot : Type) where
  attemptId : String
  status : LiveAutonomousOrderAttemptStatus
  message : String
  action : String
  violations : List String
  events : List LiveAutonomousOrderAttemptEvent
  /-- `trace.reason` -/
  reason : String
  intent : EntryIntent
  costDecision : Option (CostDecision Snapshot)
  riskGateResult : Option RiskGateResult
  budgetReservation : Option LiveAutonomousBudgetReservation
  submission : Option (EntrySubmission Snapshot)
  executionResult : Option EngineResult

/-! ## Model: the attempt -/

section Attempt

variable {Cost Risk Snapshot : Type}

def AttemptLog.empty : AttemptLog Cost Risk Snapshot := ⟨[], none, []⟩

/-- call a port: the call is made whatever comes of it -/
def callPort {α : Type} (call : Except Thrown α → PortCall Cost Risk Snapshot) (outcome : Except Thrown α) :
    Attempt Cost Risk Snapshot α := do
  Effect.update (fun log => { log with calls := log.calls ++ [call outcome] })
  Effect.ofExcept outcome

/-- the identity of an attempt -/
structure AttemptContext where
  attemptId : String
  observedAt : String
  intent : EntryIntent

def appendEvent (context : AttemptContext) (toStatus : LiveAutonomousOrderAttemptStatus)
    (reasonCode message action : String) (metadata : Option JsonRecord) : Attempt Cost Risk Snapshot Unit := do
  let log ← Effect.read
  let event ← Effect.ofExcept (createLiveAutonomousOrderAttemptEvent
    ⟨context.attemptId, log.currentStatus, toStatus, reasonCode, message, action, context.observedAt, metadata⟩)
  Effect.update (fun log => { log with events := log.events ++ [event], currentStatus := some toStatus })

/-- best effort: nothing where no dispatcher is configured, and a failure is swallowed -/
def dispatchEntryLiveOpsAlert (ports : LiveAutonomousEntryRuntimePorts Cost Risk Snapshot) (alert : EntryAlert) :
    Attempt Cost Risk Snapshot Unit :=
  match ports.liveOpsAlerts with
  | none => pure ()
  | some dispatch => tryCatch (callPort (.alert alert) (dispatch alert)) (fun _ => pure ())

/-- one exit of the attempt: the event, the alert and the fields of the result -/
structure Exit (Snapshot : Type) where
  status : LiveAutonomousOrderAttemptStatus
  reasonCode : String
  message : String
  action : String
  metadata : Option JsonRecord
  alert : EntryAlert
  violations : List String
  costDecision : Option (CostDecision Snapshot)
  riskGateResult : Option RiskGateResult
  budgetReservation : Option LiveAutonomousBudgetReservation
  submission : Option (EntrySubmission Snapshot)
  executionResult : Option EngineResult

/-- `createResult` with the events recorded so far -/
def createResult (context : AttemptContext) (exit : Exit Snapshot) (events : List LiveAutonomousOrderAttemptEvent) :
    LiveAutonomousEntryAttemptResult Snapshot where
  attemptId := context.attemptId
  status := exit.status
  message := exit.message
  action := exit.action
  violations := exit.violations
  events := events
  reason := exit.reasonCode
  intent := context.intent
  costDecision := exit.costDecision
  riskGateResult := exit.riskGateResult
  budgetReservation := exit.budgetReservation
  submission := exit.submission
  executionResult := exit.executionResult

/-- the three steps that every exit takes -/
def conclude (ports : LiveAutonomousEntryRuntimePorts Cost Risk Snapshot) (context : AttemptContext)
    (exit : Exit Snapshot) : Attempt Cost Risk Snapshot (LiveAutonomousEntryAttemptResult Snapshot) := do
  appendEvent context exit.status exit.reasonCode exit.message exit.action exit.metadata
  dispatchEntryLiveOpsAlert ports exit.alert
  let log ← Effect.read
  pure (createResult context exit log.events)

def ViolationStatus.attemptStatus : ViolationStatus → LiveAutonomousOrderAttemptStatus
  | blocked => .blocked
  | reconcileRequired => .reconcileRequired
  | manualReviewRequired => .manualReviewRequired

def costLikePreflightReasonCodes : List String :=
  ["limit_notional_mismatch", "order_notional_below_upbit_minimum", "max_order_budget_exceeded", "daily_budget_exceeded",
    "open_position_budget_exceeded", "price_deviation_exceeded"]

/-- a kill switch or a stale reconcile is told first -/
def selectPreflightAlertViolation (violation : RuntimeViolation) (violations : List RuntimeViolation) : RuntimeViolation :=
  ((violations.find? (fun violation => violation.reasonCode = "kill_switch_active")).or
    (violations.find? (fun violation => violation.reasonCode = "reconcile_stale"))).getD violation

def toRuntimeViolationAlertKind (violation : RuntimeViolation) : LiveOpsAlertEventKind :=
  if violation.reasonCode = "kill_switch_active" then .killSwitchStop
  else if violation.reasonCode = "reconcile_stale" then .reconcileBlocked
  else if violation.status = .manualReviewRequired then .manualReviewRequired
  else if violation.reasonCode ∈ costLikePreflightReasonCodes then .costBlocked
  else .riskBlocked

def preflightExit (violation : RuntimeViolation) (violations : List RuntimeViolation) : Exit Snapshot :=
  let told := selectPreflightAlertViolation violation violations
  { status := violation.status.attemptStatus
    reasonCode := violation.reasonCode
    message := violation.message
    action := violation.action
    metadata := violation.metadata
    alert := ⟨toRuntimeViolationAlertKind told, told.status.attemptStatus, told.reasonCode⟩
    violations := violations.map RuntimeViolation.message
    costDecision := none
    riskGateResult := none
    budgetReservation := none
    submission := none
    executionResult := none }

def costExit (costDecision : CostDecision Snapshot) : Exit Snapshot where
  status := .blocked
  reasonCode := costDecision.reasonCode
  message := "M22 자동매매 주문 후보가 비용 조건을 통과하지 못했습니다."
  action := "비용 입력과 기대 수익률을 확인한 뒤 새 후보를 생성합니다."
  metadata := some [("cost_reason_code", .string costDecision.reasonCode)]
  alert := ⟨.costBlocked, .blocked, costDecision.reasonCode⟩
  violations := [costDecision.message]
  costDecision := some costDecision
  riskGateResult := none
  budgetReservation := none
  submission := none
  executionResult := none

def riskStatusText : RiskEvaluationStatus → String
  | .pass => "PASS"
  | .fail => "FAIL"
  | .warn => "WARN"

def riskActionText : RiskBlockAction → String
  | .allow => "ALLOW"
  | .blockNewOrder => "BLOCK_NEW_ORDER"
  | .pauseStrategy => "PAUSE_STRATEGY"
  | .hardStop => "HARD_STOP"
  | .manualReviewRequired => "MANUAL_REVIEW_REQUIRED"

def riskExit (costDecision : CostDecision Snapshot) (riskGateResult : RiskGateResult) : Exit Snapshot where
  status := .blocked
  reasonCode := "risk_gate_blocked"
  message := "M22 자동매매 주문 후보가 RiskGate를 통과하지 못했습니다."
  action := "실패한 RiskGate 평가를 확인하고 자동 주문을 재시도하지 않습니다."
  metadata := some [("action", .string (riskActionText riskGateResult.action)), ("failed_reason_codes",
    .array (riskGateResult.failedEvaluations.map (fun evaluation => .string evaluation.reasonCode)))]
  alert := ⟨.riskBlocked, .blocked, "risk_gate_blocked"⟩
  violations := riskGateResult.failedEvaluations.map RiskGateEvaluation.message
  costDecision := some costDecision
  riskGateResult := some riskGateResult
  budgetReservation := none
  submission := none
  executionResult := none

def reservationUnavailableExit (costDecision : CostDecision Snapshot) (riskGateResult : RiskGateResult) (error : Thrown) :
    Exit Snapshot where
  status := .manualReviewRequired
  reasonCode := "budget_reservation_unavailable"
  message := "M22 자동매매 예산 선점 저장 결과를 확정할 수 없어 주문을 제출하지 않았습니다."
  action :=
    "broker side effect는 없으므로 durable reservation store 상태를 복구한 뒤 새 후보 또는 기존 attempt를 점검합니다."
  metadata := some [("error_message", .string error.message)]
  alert := ⟨.manualReviewRequired, .manualReviewRequired, "budget_reservation_unavailable"⟩
  violations := [error.message]
  costDecision := some costDecision
  riskGateResult := some riskGateResult
  budgetReservation := none
  submission := none
  executionResult := none

def reservationRefusedExit (costDecision : CostDecision Snapshot) (riskGateResult : RiskGateResult)
    (reasonCode message : String) (metadata : Option JsonRecord) : Exit Snapshot where
  status := .blocked
  reasonCode := reasonCode
  message := "M22 자동매매 예산 선점이 거부되어 주문을 제출하지 않았습니다."
  action := "최신 예산 사용량과 open position notional을 확인합니다."
  metadata := metadata
  alert := ⟨.costBlocked, .blocked, reasonCode⟩
  violations := [message]
  costDecision := some costDecision
  riskGateResult := some riskGateResult
  budgetReservation := none
  submission := none
  executionResult := none

/-- what an attempt has when the budget is reserved -/
structure Reserved (Snapshot : Type) where
  costDecision : CostDecision Snapshot
  riskGateResult : RiskGateResult
  reservation : LiveAutonomousBudgetReservation
  submission : EntrySubmission Snapshot

def releaseFailedExit (reserved : Reserved Snapshot) (executionResult : EngineResult) (rejection : EngineRejection)
    (releaseFailure : String) : Exit Snapshot where
  status := .manualReviewRequired
  reasonCode := "budget_reservation_release_failed"
  message := "ExecutionEngine은 broker 제출 전에 거부했지만 예산 선점 해제에 실패했습니다."
  action := "거래소 주문 reconcile이 아니라 durable reservation store의 해제되지 않은 reservation을 먼저 수동 해제합니다."
  metadata := some [("reservation_id", .string reserved.reservation.reservationId),
    ("execution_rejection_reason_code", .string rejection.reasonCode), ("error_message", .string releaseFailure)]
  alert := ⟨.manualReviewRequired, .manualReviewRequired, "budget_reservation_release_failed"⟩
  violations := [releaseFailure]
  costDecision := some reserved.costDecision
  riskGateResult := some reserved.riskGateResult
  budgetReservation := some reserved.reservation
  submission := some reserved.submission
  executionResult := some executionResult

def rejectedExit (reserved : Reserved Snapshot) (executionResult : EngineResult) (rejection : EngineRejection) :
    Exit Snapshot where
  status := .rejected
  reasonCode := rejection.reasonCode
  message := "ExecutionEngine이 broker 제출 전에 M22 자동매매 주문을 거부했습니다."
  action := "거부 사유를 확인하고 같은 identifier를 재사용하지 않습니다."
  metadata := rejection.metadata
  alert := ⟨.riskBlocked, .rejected, rejection.reasonCode⟩
  violations := [rejection.message]
  costDecision := some reserved.costDecision
  riskGateResult := some reserved.riskGateResult
  budgetReservation := some reserved.reservation
  submission := some reserved.submission
  executionResult := some executionResult

def submittedExit (reserved : Reserved Snapshot) (executionResult : EngineResult) (reasonCode executionStatus : String)
    (brokerOrderId : String) : Exit Snapshot where
  status := .submitted
  reasonCode := reasonCode
  message := "M22 자동매매 주문이 ExecutionEngine 경계를 통과했습니다."
  action := "체결, 부분 체결, 취소, reconcile 상태는 후속 exit/status runtime에서 추적합니다."
  metadata := some [("broker_order_id", .string brokerOrderId), ("execution_status", .string executionStatus)]
  alert := ⟨.orderSubmitted, .submitted, reasonCode⟩
  violations := []
  costDecision := some reserved.costDecision
  riskGateResult := some reserved.riskGateResult
  budgetReservation := some reserved.reservation
  submission := some reserved.submission
  executionResult := some executionResult

def uncertainExit (reserved : Reserved Snapshot) (error : Thrown) : Exit Snapshot where
  status := .manualReviewRequired
  reasonCode := "broker_submission_uncertain"
  message := "broker 제출 결과를 확정할 수 없어 M22 자동매매 주문을 수동 점검 상태로 남겼습니다."
  action := "예산 선점을 해제하지 말고 거래소 주문 상태와 reconcile 결과를 먼저 확인합니다."
  metadata := some [("error_message", .string error.message),
    ("reservation_id", .string reserved.reservation.reservationId)]
  alert := ⟨.manualReviewRequired, .manualReviewRequired, "broker_submission_uncertain"⟩
  violations := [error.message]
  costDecision := some reserved.costDecision
  riskGateResult := some reserved.riskGateResult
  budgetReservation := some reserved.reservation
  submission := some reserved.submission
  executionResult := none

/-- the message of a failed release; `none` where it went through or there is nothing to call -/
def releaseReservationAfterPreBrokerRejection (ports : LiveAutonomousEntryRuntimePorts Cost Risk Snapshot)
    (reservation : LiveAutonomousBudgetReservation) (reasonCode : String) :
    Attempt Cost Risk Snapshot (Option String) :=
  match ports.release with
  | none => pure none
  | some release => do
    match ← Effect.attempt (callPort (.release reservation reasonCode) (release reservation reasonCode)) with
    | .ok () => pure none
    | .error error => pure (some error.message)

/-- the body of the try block around the engine -/
def submitToEngine (ports : LiveAutonomousEntryRuntimePorts Cost Risk Snapshot) (context : AttemptContext)
    (reserved : Reserved Snapshot) : Attempt Cost Risk Snapshot (LiveAutonomousEntryAttemptResult Snapshot) := do
  let executionResult ← callPort (.submit reserved.submission) (ports.submitOrder reserved.submission)
  match executionResult with
  | .rejected rejection =>
    match ← releaseReservationAfterPreBrokerRejection ports reserved.reservation rejection.reasonCode with
    | some releaseFailure => conclude ports context (releaseFailedExit reserved executionResult rejection releaseFailure)
    | none => conclude ports context (rejectedExit reserved executionResult rejection)
  | .submitted brokerOrderId =>
    conclude ports context (submittedExit reserved executionResult "broker_submitted" "SUBMITTED" brokerOrderId)
  | .duplicateSuppressed brokerOrderId =>
    conclude ports context
      (submittedExit reserved executionResult "duplicate_suppressed" "DUPLICATE_SUPPRESSED" brokerOrderId)

/-- an error of the engine, or of anything after it, leaves the outcome open -/
def submitReserved (ports : LiveAutonomousEntryRuntimePorts Cost Risk Snapshot) (context : AttemptContext)
    (reserved : Reserved Snapshot) : Attempt Cost Risk Snapshot (LiveAutonomousEntryAttemptResult Snapshot) :=
  tryCatch (submitToEngine ports context reserved) (fun error => conclude ports context (uncertainExit reserved error))

def createCostInput (candidate : LiveAutonomousEntryCandidate Cost Risk) (context : AttemptContext) : CostModelInput Cost where
  input := candidate.costInput
  exchangeId := context.intent.exchangeId
  market := context.intent.market
  evaluatedAt := context.observedAt
  idempotencyKey := context.intent.idempotencyKey
  strategyId := context.intent.strategyId

def createRiskContext (candidate : LiveAutonomousEntryCandidate Cost Risk) (context : AttemptContext) :
    EntryRiskContext Risk where
  orderIntent := context.intent
  risk := candidate.risk
  observedAt := context.observedAt
  expectedLossBpsOfEquity := candidate.expectedLossBpsOfEquity

def createSubmission (context : AttemptContext) (costDecision : CostDecision Snapshot)
    (riskContext : EntryRiskContext Risk) (riskGateResult : RiskGateResult) : EntrySubmission Snapshot where
  intent := context.intent
  costSnapshot := ⟨costDecision.snapshot, context.intent, riskContext.expectedLossBpsOfEquity⟩
  riskApproval := ⟨riskGateResult, context.intent, riskContext.expectedLossBpsOfEquity⟩
  submittedAt := context.observedAt
  expectedLossBpsOfEquity := riskContext.expectedLossBpsOfEquity

def reservationRequest (request : LiveAutonomousEntryRuntimeRequest Cost Risk) (context : AttemptContext) :
    LiveAutonomousBudgetReservationRequest where
  attemptId := context.attemptId
  idempotencyKey := context.attemptId
  market := context.intent.market
  strategyId := context.intent.strategyId
  requestedNotionalKrw := context.intent.requestedNotional
  budgetSnapshot := request.budgetSnapshot
  observedAt := context.observedAt

/-- from two approvals to the end -/
def reserveAndSubmit (ports : LiveAutonomousEntryRuntimePorts Cost Risk Snapshot)
    (request : LiveAutonomousEntryRuntimeRequest Cost Risk) (context : AttemptContext) (costDecision : CostDecision Snapshot)
    (riskGateResult : RiskGateResult) : Attempt Cost Risk Snapshot (LiveAutonomousEntryAttemptResult Snapshot) := do
  let reservationOutcome ← Effect.attempt
    (callPort (.reserve (reservationRequest request context)) (ports.reserve (reservationRequest request context)))
  match reservationOutcome with
  | .error error => conclude ports context (reservationUnavailableExit costDecision riskGateResult error)
  | .ok (.refused reasonCode message metadata) =>
    conclude ports context (reservationRefusedExit costDecision riskGateResult reasonCode message metadata)
  | .ok (.reserved reservation) =>
    appendEvent context .reserved "budget_reserved" "M22 자동매매 예산이 durable reservation으로 선점됐습니다."
      "같은 identifier로 ExecutionEngine 제출을 진행합니다." (some [("reservation_id", .string reservation.reservationId)])
    submitReserved ports context ⟨costDecision, riskGateResult, reservation,
      createSubmission context costDecision (createRiskContext request.candidate context) riskGateResult⟩

/-- from a candidate without violations to the end -/
def evaluateAndSubmit (ports : LiveAutonomousEntryRuntimePorts Cost Risk Snapshot)
    (request : LiveAutonomousEntryRuntimeRequest Cost Risk) (context : AttemptContext) :
    Attempt Cost Risk Snapshot (LiveAutonomousEntryAttemptResult Snapshot) := do
  let costInput := createCostInput request.candidate context
  let costDecision ← callPort (.cost costInput) (ports.evaluateCost costInput)
  if costDecision.tradeAllowed then
    appendEvent context .costApproved "cost_approved" "M22 자동매매 주문 후보가 비용 조건을 통과했습니다."
      "RiskGate와 예산 선점을 계속 확인합니다." (some [("cost_reason_code", .string costDecision.reasonCode)])
    let riskContext := createRiskContext request.candidate context
    let riskGateResult ← callPort (.risk riskContext) (ports.evaluateRiskGate riskContext)
    if riskGateResult.approved then
      appendEvent context .riskApproved "risk_approved" "M22 자동매매 주문 후보가 RiskGate를 통과했습니다."
        "durable budget reservation을 만든 뒤 broker 제출 직전 검증을 계속합니다."
        (some [("risk_status", .string (riskStatusText riskGateResult.status)),
          ("risk_action", .string (riskActionText riskGateResult.action))])
      reserveAndSubmit ports request context costDecision riskGateResult
    else conclude ports context (riskExit costDecision riskGateResult)
  else conclude ports context (costExit costDecision)

def resolveEntryIdempotencyKey (ports : LiveAutonomousEntryRuntimePorts Cost Risk Snapshot)
    (request : LiveAutonomousEntryRuntimeRequest Cost Risk) : Except Thrown String :=
  match request.idempotencyKey with
  | none => createLiveAutonomousIdentifier request.config ports.randomHex
  | some idempotencyKey => checkedIdentifier request.config idempotencyKey

def attemptContext (ports : LiveAutonomousEntryRuntimePorts Cost Risk Snapshot)
    (request : LiveAutonomousEntryRuntimeRequest Cost Risk) (idempotencyKey : String) : AttemptContext where
  attemptId := idempotencyKey
  observedAt := request.observedAt.getD ports.clock
  intent := createEntryIntent request.candidate idempotencyKey

def submitEntryCandidate [Host] (ports : LiveAutonomousEntryRuntimePorts Cost Risk Snapshot)
    (request : LiveAutonomousEntryRuntimeRequest Cost Risk) :
    Attempt Cost Risk Snapshot (LiveAutonomousEntryAttemptResult Snapshot) := do
  let idempotencyKey ← Effect.ofExcept (resolveEntryIdempotencyKey ports request)
  let context := attemptContext ports request idempotencyKey
  appendEvent context .candidateCreated "candidate_created" "M22 자동매매 주문 후보가 생성됐습니다."
    "비용, 리스크, 예산, reconcile 상태를 순서대로 다시 확인합니다."
    (some [("market", .string request.candidate.market), ("strategy_id", .string request.candidate.strategyId)])
  match collectPreflightViolations request context.intent with
  | [] => evaluateAndSubmit ports request context
  | violation :: violations => conclude ports context (preflightExit violation (violation :: violations))

/-! ## Paths of the state machine -/

/-- the events lead from the start to the current status, each by a transition of the table -/
inductive LegalPath : List LiveAutonomousOrderAttemptEvent → Option LiveAutonomousOrderAttemptStatus → Prop where
  | start : LegalPath [] none
  | step {events : List LiveAutonomousOrderAttemptEvent} {current : Option LiveAutonomousOrderAttemptStatus}
      {event : LiveAutonomousOrderAttemptEvent} (path : LegalPath events current) (follows : event.fromStatus = current)
      (legal : canTransitionLiveAutonomousOrderAttempt current event.toStatus = true) :
      LegalPath (events ++ [event]) (some event.toStatus)

namespace AttemptLog

def record (log : AttemptLog Cost Risk Snapshot) (event : LiveAutonomousOrderAttemptEvent) : AttemptLog Cost Risk Snapshot :=
  { log with events := log.events ++ [event], currentStatus := some event.toStatus }

def called (log : AttemptLog Cost Risk Snapshot) (calls : List (PortCall Cost Risk Snapshot)) :
    AttemptLog Cost Risk Snapshot := { log with calls := log.calls ++ calls }

def Legal (log : AttemptLog Cost Risk Snapshot) : Prop := LegalPath log.events log.currentStatus

@[simp] theorem called_events (log : AttemptLog Cost Risk Snapshot) (calls : List (PortCall Cost Risk Snapshot)) :
    (log.called calls).events = log.events := rfl

@[simp] theorem called_currentStatus (log : AttemptLog Cost Risk Snapshot) (calls : List (PortCall Cost Risk Snapshot)) :
    (log.called calls).currentStatus = log.currentStatus := rfl

@[simp] theorem called_calls (log : AttemptLog Cost Risk Snapshot) (calls : List (PortCall Cost Risk Snapshot)) :
    (log.called calls).calls = log.calls ++ calls := rfl

@[simp] theorem record_events (log : AttemptLog Cost Risk Snapshot) (event : LiveAutonomousOrderAttemptEvent) :
    (log.record event).events = log.events ++ [event] := rfl

@[simp] theorem record_currentStatus (log : AttemptLog Cost Risk Snapshot) (event : LiveAutonomousOrderAttemptEvent) :
    (log.record event).currentStatus = some event.toStatus := rfl

@[simp] theorem record_calls (log : AttemptLog Cost Risk Snapshot) (event : LiveAutonomousOrderAttemptEvent) :
    (log.record event).calls = log.calls := rfl

theorem Legal.record {log : AttemptLog Cost Risk Snapshot} (h : log.Legal) {event : LiveAutonomousOrderAttemptEvent}
    (hfollows : event.fromStatus = log.currentStatus)
    (hlegal : canTransitionLiveAutonomousOrderAttempt log.currentStatus event.toStatus = true) :
    (log.record event).Legal := LegalPath.step h hfollows hlegal

end AttemptLog

/-! ## One step at a time -/

@[simp] theorem run_callPort {α : Type} (call : Except Thrown α → PortCall Cost Risk Snapshot) (outcome : Except Thrown α)
    (log : AttemptLog Cost Risk Snapshot) : (callPort call outcome).run log = (outcome, log.called [call outcome]) := rfl

/-- a transition of the table is recorded -/
theorem run_appendEvent {log : AttemptLog Cost Risk Snapshot} {toStatus : LiveAutonomousOrderAttemptStatus}
    (hlegal : canTransitionLiveAutonomousOrderAttempt log.currentStatus toStatus = true) (context : AttemptContext)
    (reasonCode message action : String) (metadata : Option JsonRecord) :
    ∃ event : LiveAutonomousOrderAttemptEvent, event.fromStatus = log.currentStatus ∧ event.toStatus = toStatus ∧
      (appendEvent context toStatus reasonCode message action metadata).run log = (.ok (), log.record event) := by
  refine ⟨⟨context.attemptId, log.currentStatus, toStatus, reasonCode, message, action, context.observedAt, metadata⟩, rfl,
    rfl, ?_⟩
  unfold appendEvent createLiveAutonomousOrderAttemptEvent
  simp only [Effect.run_bind, Effect.run_read, Effect.next_ok, hlegal, if_true]
  rfl

def PortCall.isAlert : PortCall Cost Risk Snapshot → Bool
  | .alert _ _ => true
  | _ => false

/-- an alert changes nothing but the list of calls -/
theorem run_dispatch (ports : LiveAutonomousEntryRuntimePorts Cost Risk Snapshot) (alert : EntryAlert)
    (log : AttemptLog Cost Risk Snapshot) :
    ∃ alerts, (∀ call ∈ alerts, call.isAlert = true) ∧
      (dispatchEntryLiveOpsAlert ports alert).run log = (.ok (), log.called alerts) := by
  unfold dispatchEntryLiveOpsAlert
  cases ports.liveOpsAlerts with
  | none => exact ⟨[], by simp, by simp [AttemptLog.called]⟩
  | some dispatch =>
    refine ⟨[.alert alert (dispatch alert)], by simp [PortCall.isAlert], ?_⟩
    rw [Effect.run_tryCatch, run_callPort]
    cases dispatch alert <;> rfl

/-- the attempt ends with this status: one event more, alerts at most, and a result that says so -/
def Ends (log : AttemptLog Cost Risk Snapshot) (status : LiveAutonomousOrderAttemptStatus)
    (ended : Except Thrown (LiveAutonomousEntryAttemptResult Snapshot) × AttemptLog Cost Risk Snapshot) : Prop :=
  ∃ result event alerts, ended = (.ok result, (log.record event).called alerts) ∧ result.status = status ∧
    result.events = log.events ++ [event] ∧ event.fromStatus = log.currentStatus ∧ event.toStatus = status ∧
    ∀ call ∈ alerts, call.isAlert = true

/-- **An exit.** -/
theorem run_conclude {log : AttemptLog Cost Risk Snapshot} {exit : Exit Snapshot}
    (hlegal : canTransitionLiveAutonomousOrderAttempt log.currentStatus exit.status = true)
    (ports : LiveAutonomousEntryRuntimePorts Cost Risk Snapshot) (context : AttemptContext) :
    Ends log exit.status ((conclude ports context exit).run log) := by
  obtain ⟨event, hfrom, hto, hevent⟩ := run_appendEvent hlegal context exit.reasonCode exit.message exit.action exit.metadata
  obtain ⟨alerts, halerts, halert⟩ := run_dispatch ports exit.alert (log.record event)
  refine ⟨createResult context exit (log.events ++ [event]), event, alerts, ?_, rfl, rfl, hfrom, hto, halerts⟩
  unfold conclude
  rw [Effect.run_bind, hevent, Effect.next_ok, Effect.run_bind, halert]
  rfl

/-- the calls that answer an engine which rejected: a release, where there is a port for it -/
def releaseCalls (ports : LiveAutonomousEntryRuntimePorts Cost Risk Snapshot) (reservation : LiveAutonomousBudgetReservation)
    (outcome : Except Thrown EngineResult) : List (PortCall Cost Risk Snapshot) :=
  match outcome, ports.release with
  | .ok (.rejected rejection), some release =>
    [.release reservation rejection.reasonCode (release reservation rejection.reasonCode)]
  | _, _ => []

/-- **The engine's answer.** Whatever it is, the attempt ends; only a rejection is followed by a release. -/
theorem submitReserved_ends {log : AttemptLog Cost Risk Snapshot} (hreserved : log.currentStatus = some .reserved)
    (ports : LiveAutonomousEntryRuntimePorts Cost Risk Snapshot) (context : AttemptContext) (reserved : Reserved Snapshot) :
    ∃ status, canTransitionLiveAutonomousOrderAttempt (some .reserved) status = true ∧
      Ends (log.called (.submit reserved.submission (ports.submitOrder reserved.submission)
          :: releaseCalls ports reserved.reservation (ports.submitOrder reserved.submission))) status
        ((submitReserved ports context reserved).run log) := by
  -- an exit inside the try block does not throw, so the handler is not reached
  have hconclude : ∀ (exit : Exit Snapshot) (calls : List (PortCall Cost Risk Snapshot)),
      canTransitionLiveAutonomousOrderAttempt (some .reserved) exit.status = true →
      Ends (log.called calls) exit.status (Effect.rescue
        (fun error => conclude ports context (uncertainExit reserved error)) ((conclude ports context exit).run (log.called calls))) := by
    intro exit calls hlegal
    have hcalled : canTransitionLiveAutonomousOrderAttempt (log.called calls).currentStatus exit.status = true := by
      rw [AttemptLog.called_currentStatus, hreserved]
      exact hlegal
    obtain ⟨result, event, alerts, hrun, hrest⟩ := run_conclude hcalled ports context
    exact ⟨result, event, alerts, by rw [hrun]; rfl, hrest⟩
  unfold submitReserved submitToEngine releaseCalls
  rw [Effect.run_tryCatch, Effect.run_bind, run_callPort]
  cases ports.submitOrder reserved.submission with
  | error error =>
    refine ⟨.manualReviewRequired, by decide, ?_⟩
    refine run_conclude ?_ ports context
    rw [AttemptLog.called_currentStatus, hreserved]
    rfl
  | ok executionResult =>
    cases executionResult with
    | submitted brokerOrderId => exact ⟨.submitted, by decide, hconclude (submittedExit ..) _ rfl⟩
    | duplicateSuppressed brokerOrderId => exact ⟨.submitted, by decide, hconclude (submittedExit ..) _ rfl⟩
    | rejected rejection =>
      unfold releaseReservationAfterPreBrokerRejection
      cases ports.release with
      | none => exact ⟨.rejected, by decide, hconclude (rejectedExit ..) _ rfl⟩
      | some release =>
        simp only [Effect.next_ok, Effect.run_bind, Effect.run_attempt, run_callPort]
        have hcalled : (log.called [.submit reserved.submission (.ok (.rejected rejection))]).called
            [.release reserved.reservation rejection.reasonCode (release reserved.reservation rejection.reasonCode)]
            = log.called [.submit reserved.submission (.ok (.rejected rejection)),
              .release reserved.reservation rejection.reasonCode (release reserved.reservation rejection.reasonCode)] := by
          simp [AttemptLog.called]
        rw [hcalled]
        cases release reserved.reservation rejection.reasonCode with
        | ok _ => exact ⟨.rejected, by decide, hconclude (rejectedExit ..) _ rfl⟩
        | error error => exact ⟨.manualReviewRequired, by decide, hconclude (releaseFailedExit ..) _ rfl⟩

/-! ## The protocol -/

def PortCall.isSubmit : PortCall Cost Risk Snapshot → Bool
  | .submit _ _ => true
  | _ => false

def PortCall.isRelease : PortCall Cost Risk Snapshot → Bool
  | .release _ _ _ => true
  | _ => false

/-- the calls made before the engine was called -/
def beforeSubmit (calls : List (PortCall Cost Risk Snapshot)) : List (PortCall Cost Risk Snapshot) :=
  calls.takeWhile (fun call => !call.isSubmit)

/-- the calls of an approved reservation -/
structure ApprovedCalls (calls : List (PortCall Cost Risk Snapshot)) : Prop where
  cost : ∃ input decision, PortCall.cost input (.ok decision) ∈ calls ∧ decision.tradeAllowed = true
  risk : ∃ context result, PortCall.risk context (.ok result) ∈ calls ∧ result.approved = true
  reserved : ∃ request reservation, PortCall.reserve request (.ok (.reserved reservation)) ∈ calls

section Protocol

variable [Host]

/-- what an attempt keeps, whether it returns or throws -/
structure EntryProtocol (ports : LiveAutonomousEntryRuntimePorts Cost Risk Snapshot)
    (request : LiveAutonomousEntryRuntimeRequest Cost Risk)
    (ended : Except Thrown (LiveAutonomousEntryAttemptResult Snapshot) × AttemptLog Cost Risk Snapshot) : Prop where
  /-- the events lead from the start to the current status -/
  path : ended.2.Legal
  /-- which is the one that is returned -/
  returned : ∀ result, ended.1 = .ok result →
    ended.2.currentStatus = some result.status ∧ result.events = ended.2.events
  submittedOnce : (ended.2.calls.filter PortCall.isSubmit).length ≤ 1
  /-- the engine is called after the reservation, without violations, with cost and risk approved -/
  approved : (∃ call ∈ ended.2.calls, call.isSubmit = true) →
    (∃ idempotencyKey, resolveEntryIdempotencyKey ports request = .ok idempotencyKey ∧
      collectPreflightViolations request (createEntryIntent request.candidate idempotencyKey) = []) ∧
    ApprovedCalls (beforeSubmit ended.2.calls)
  /-- the reservation is released exactly when the engine rejected -/
  released : (∃ call ∈ ended.2.calls, call.isRelease = true) ↔
    ports.release.isSome = true ∧ ∃ submission rejection, PortCall.submit submission (.ok (.rejected rejection)) ∈ ended.2.calls
  releasedOnce : (ended.2.calls.filter PortCall.isRelease).length ≤ 1
  releasedAfter : ∀ call ∈ beforeSubmit ended.2.calls, call.isRelease = false

/-- where neither engine nor release is called, the events are all there is to show -/
theorem EntryProtocol.of_unsubmitted {ports : LiveAutonomousEntryRuntimePorts Cost Risk Snapshot}
    {request : LiveAutonomousEntryRuntimeRequest Cost Risk}
    {ended : Except Thrown (LiveAutonomousEntryAttemptResult Snapshot) × AttemptLog Cost Risk Snapshot}
    (hpath : ended.2.Legal)
    (hreturned : ∀ result, ended.1 = .ok result →
      ended.2.currentStatus = some result.status ∧ result.events = ended.2.events)
    (hnone : ∀ call ∈ ended.2.calls, call.isSubmit = false ∧ call.isRelease = false) :
    EntryProtocol ports request ended := by
  have hsubmit : ended.2.calls.filter PortCall.isSubmit = [] :=
    List.filter_eq_nil_iff.2 fun call hcall => by simp [(hnone call hcall).1]
  have hrelease : ended.2.calls.filter PortCall.isRelease = [] :=
    List.filter_eq_nil_iff.2 fun call hcall => by simp [(hnone call hcall).2]
  refine ⟨hpath, hreturned, by simp [hsubmit], ?_, ⟨?_, ?_⟩, by simp [hrelease], ?_⟩
  · rintro ⟨call, hcall, hsubmits⟩
    rw [(hnone call hcall).1] at hsubmits
    cases hsubmits
  · rintro ⟨call, hcall, hreleases⟩
    rw [(hnone call hcall).2] at hreleases
    cases hreleases
  · rintro ⟨-, submission, rejection, hcall⟩
    exact absurd (hnone _ hcall).1 (by simp [PortCall.isSubmit])
  · intro call hcall
    exact (hnone call ((List.takeWhile_sublist _).subset hcall)).2

omit [Host] in
theorem Ends.path {log : AttemptLog Cost Risk Snapshot} {status : LiveAutonomousOrderAttemptStatus}
    {ended : Except Thrown (LiveAutonomousEntryAttemptResult Snapshot) × AttemptLog Cost Risk Snapshot}
    (h : Ends log status ended) (hlog : log.Legal)
    (hlegal : canTransitionLiveAutonomousOrderAttempt log.currentStatus status = true) :
    ended.2.Legal ∧ ∀ result, ended.1 = .ok result →
      ended.2.currentStatus = some result.status ∧ result.events = ended.2.events := by
  obtain ⟨result, event, alerts, rfl, hstatus, hevents, hfrom, hto, -⟩ := h
  refine ⟨hlog.record hfrom (by rw [hto]; exact hlegal), fun result' hresult => ?_⟩
  cases hresult
  exact ⟨by simp [hto, hstatus], hevents⟩

omit [Host] in
theorem Ends.calls {log : AttemptLog Cost Risk Snapshot} {status : LiveAutonomousOrderAttemptStatus}
    {ended : Except Thrown (LiveAutonomousEntryAttemptResult Snapshot) × AttemptLog Cost Risk Snapshot}
    (h : Ends log status ended) :
    ∃ alerts, ended.2.calls = log.calls ++ alerts ∧ ∀ call ∈ alerts, call.isAlert = true := by
  obtain ⟨result, event, alerts, rfl, -, -, -, -, halerts⟩ := h
  exact ⟨alerts, rfl, halerts⟩

omit [Host] in
theorem isAlert_neither {call : PortCall Cost Risk Snapshot} (h : call.isAlert = true) :
    call.isSubmit = false ∧ call.isRelease = false := by
  cases call <;> first | exact ⟨rfl, rfl⟩ | cases h

/-- the events of a log are a path, and neither the engine nor the release has been called -/
structure Quiet (log : AttemptLog Cost Risk Snapshot) : Prop where
  legal : log.Legal
  none : ∀ call ∈ log.calls, call.isSubmit = false ∧ call.isRelease = false

omit [Host] in
theorem Quiet.called {log : AttemptLog Cost Risk Snapshot} (h : Quiet log) {call : PortCall Cost Risk Snapshot}
    (hcall : call.isSubmit = false ∧ call.isRelease = false) : Quiet (log.called [call]) := by
  refine ⟨h.legal, fun other hother => ?_⟩
  rcases List.mem_append.1 hother with hother | hother
  · exact h.none other hother
  · rw [List.mem_singleton.1 hother]
    exact hcall

/-- an attempt that throws before the engine keeps what it has recorded -/
theorem EntryProtocol.of_thrown {ports : LiveAutonomousEntryRuntimePorts Cost Risk Snapshot}
    {request : LiveAutonomousEntryRuntimeRequest Cost Risk} {log : AttemptLog Cost Risk Snapshot} (hlog : Quiet log)
    (thrown : Thrown) : EntryProtocol ports request (.error thrown, log) := by
  refine EntryProtocol.of_unsubmitted hlog.legal (fun result hresult => ?_) hlog.none
  cases hresult

/-- an exit before the engine -/
theorem EntryProtocol.of_exit {ports : LiveAutonomousEntryRuntimePorts Cost Risk Snapshot}
    {request : LiveAutonomousEntryRuntimeRequest Cost Risk} {log : AttemptLog Cost Risk Snapshot} (hlog : Quiet log)
    {exit : Exit Snapshot} (hlegal : canTransitionLiveAutonomousOrderAttempt log.currentStatus exit.status = true)
    (context : AttemptContext) : EntryProtocol ports request ((conclude ports context exit).run log) := by
  have hends := run_conclude hlegal ports context
  obtain ⟨hpath, hreturned⟩ := hends.path hlog.legal hlegal
  obtain ⟨alerts, hcalls, halerts⟩ := hends.calls
  refine EntryProtocol.of_unsubmitted hpath hreturned fun call hcall => ?_
  rw [hcalls] at hcall
  rcases List.mem_append.1 hcall with hcall | hcall
  · exact hlog.none call hcall
  · exact isAlert_neither (halerts call hcall)

/-- a port call, after which the attempt goes on or throws -/
theorem EntryProtocol.of_call {α : Type} {ports : LiveAutonomousEntryRuntimePorts Cost Risk Snapshot}
    {request : LiveAutonomousEntryRuntimeRequest Cost Risk} {log : AttemptLog Cost Risk Snapshot}
    {call : Except Thrown α → PortCall Cost Risk Snapshot} {outcome : Except Thrown α}
    {f : α → Attempt Cost Risk Snapshot (LiveAutonomousEntryAttemptResult Snapshot)}
    (hlog : Quiet (log.called [call outcome]))
    (hnext : ∀ a, outcome = .ok a → EntryProtocol ports request ((f a).run (log.called [call outcome]))) :
    EntryProtocol ports request ((callPort call outcome >>= f).run log) := by
  rw [Effect.run_bind, run_callPort]
  cases houtcome : outcome with
  | error thrown =>
    rw [houtcome] at hlog
    rw [Effect.next_error]
    exact EntryProtocol.of_thrown hlog thrown
  | ok a =>
    rw [Effect.next_ok, ← houtcome]
    exact hnext a houtcome

/-- an event, after which the attempt goes on -/
theorem EntryProtocol.of_event {ports : LiveAutonomousEntryRuntimePorts Cost Risk Snapshot}
    {request : LiveAutonomousEntryRuntimeRequest Cost Risk} {log : AttemptLog Cost Risk Snapshot} {context : AttemptContext}
    {toStatus : LiveAutonomousOrderAttemptStatus} {reasonCode message action : String} {metadata : Option JsonRecord}
    {f : Unit → Attempt Cost Risk Snapshot (LiveAutonomousEntryAttemptResult Snapshot)} (hlog : Quiet log)
    (hlegal : canTransitionLiveAutonomousOrderAttempt log.currentStatus toStatus = true)
    (hnext : ∀ after, Quiet after → after.currentStatus = some toStatus → after.calls = log.calls →
      EntryProtocol ports request ((f ()).run after)) :
    EntryProtocol ports request ((appendEvent context toStatus reasonCode message action metadata >>= f).run log) := by
  obtain ⟨event, hfrom, hto, hevent⟩ := run_appendEvent hlegal context reasonCode message action metadata
  rw [Effect.run_bind, hevent, Effect.next_ok]
  refine hnext _ ⟨hlog.legal.record hfrom (by rw [hto]; exact hlegal), hlog.none⟩ ?_ rfl
  rw [AttemptLog.record_currentStatus, hto]

omit [Host] in
theorem releaseCalls_spec (ports : LiveAutonomousEntryRuntimePorts Cost Risk Snapshot)
    (reservation : LiveAutonomousBudgetReservation) (outcome : Except Thrown EngineResult) :
    (∀ call ∈ releaseCalls ports reservation outcome, call.isSubmit = false ∧ call.isRelease = true) ∧
      (releaseCalls ports reservation outcome).length ≤ 1 ∧
      (releaseCalls ports reservation outcome ≠ [] ↔
        ports.release.isSome = true ∧ ∃ rejection, outcome = .ok (.rejected rejection)) := by
  unfold releaseCalls
  split
  · rename_i rejection release hrelease
    exact ⟨by simp [PortCall.isSubmit, PortCall.isRelease], by simp, by simp [hrelease]⟩
  · rename_i hother
    refine ⟨by simp, by simp, ⟨fun h => absurd rfl h, ?_⟩⟩
    rintro ⟨hsome, rejection, rfl⟩
    obtain ⟨release, hrelease⟩ := Option.isSome_iff_exists.1 hsome
    exact absurd hrelease (hother rejection release rfl)

/-- an attempt that reaches the engine -/
theorem EntryProtocol.of_submitted {ports : LiveAutonomousEntryRuntimePorts Cost Risk Snapshot}
    {request : LiveAutonomousEntryRuntimeRequest Cost Risk} {log : AttemptLog Cost Risk Snapshot} (hlog : Quiet log)
    (hreserved : log.currentStatus = some .reserved) (happroved : ApprovedCalls log.calls)
    (hpreflight : ∃ idempotencyKey, resolveEntryIdempotencyKey ports request = .ok idempotencyKey ∧
      collectPreflightViolations request (createEntryIntent request.candidate idempotencyKey) = [])
    (context : AttemptContext) (reserved : Reserved Snapshot) :
    EntryProtocol ports request ((submitReserved ports context reserved).run log) := by
  obtain ⟨status, hlegal, hends⟩ := submitReserved_ends hreserved ports context reserved
  obtain ⟨hpath, hreturned⟩ := hends.path hlog.legal (by rw [AttemptLog.called_currentStatus, hreserved]; exact hlegal)
  have hnone := hlog.none
  obtain ⟨alerts, hcalls, halerts⟩ := hends.calls
  obtain ⟨hreleases, hlength, hreleased⟩ := releaseCalls_spec ports reserved.reservation
    (ports.submitOrder reserved.submission)
  generalize (submitReserved ports context reserved).run log = ended at hpath hreturned hcalls
  generalize releaseCalls ports reserved.reservation (ports.submitOrder reserved.submission) = releases at *
  generalize ports.submitOrder reserved.submission = outcome at *
  simp only [AttemptLog.called_calls, List.append_assoc, List.cons_append] at hcalls
  have hbefore : beforeSubmit ended.2.calls = log.calls := by
    unfold beforeSubmit
    rw [hcalls, List.takeWhile_append_of_pos (fun call hcall => by simp [(hnone call hcall).1])]
    simp [PortCall.isSubmit]
  have hmem : ∀ call, call ∈ ended.2.calls ↔
      call ∈ log.calls ∨ call = .submit reserved.submission outcome ∨ call ∈ releases ∨ call ∈ alerts := by
    intro call
    simp [hcalls]
  have hfilter : ∀ p : PortCall Cost Risk Snapshot → Bool, ended.2.calls.filter p
      = log.calls.filter p ++ ([PortCall.submit reserved.submission outcome].filter p ++ (releases.filter p ++ alerts.filter p)) := by
    intro p
    rw [hcalls, ← List.filter_append, ← List.filter_append, ← List.filter_append]
    rfl
  refine
    { path := hpath
      returned := hreturned
      submittedOnce := ?_
      approved := fun _ => ⟨hpreflight, by rw [hbefore]; exact happroved⟩
      released := ⟨?_, ?_⟩
      releasedOnce := ?_
      releasedAfter := by rw [hbefore]; exact fun call hcall => (hnone call hcall).2 }
  · have hearlier : log.calls.filter PortCall.isSubmit = [] :=
      List.filter_eq_nil_iff.2 fun call hcall => by simp [(hnone call hcall).1]
    have hlater : releases.filter PortCall.isSubmit = [] :=
      List.filter_eq_nil_iff.2 fun call hcall => by simp [(hreleases call hcall).1]
    have hlast : alerts.filter PortCall.isSubmit = [] :=
      List.filter_eq_nil_iff.2 fun call hcall => by simp [(isAlert_neither (halerts call hcall)).1]
    rw [hfilter, hearlier, hlater, hlast, List.nil_append, List.append_nil, List.append_nil]
    exact List.length_filter_le _ _
  · rintro ⟨call, hcall, hrelease⟩
    rcases (hmem call).1 hcall with hcall | rfl | hcall | hcall
    · rw [(hnone call hcall).2] at hrelease
      cases hrelease
    · cases hrelease
    · obtain ⟨hport, rejection, rfl⟩ := hreleased.1 (List.ne_nil_of_mem hcall)
      exact ⟨hport, reserved.submission, rejection, (hmem _).2 (Or.inr (Or.inl rfl))⟩
    · rw [(isAlert_neither (halerts call hcall)).2] at hrelease
      cases hrelease
  · rintro ⟨hport, submission, rejection, hcall⟩
    rcases (hmem _).1 hcall with hcall | hcall | hcall | hcall
    · exact absurd (hnone _ hcall).1 (by simp [PortCall.isSubmit])
    · cases hcall
      obtain ⟨release, hrelease⟩ := List.exists_mem_of_ne_nil _ (hreleased.2 ⟨hport, rejection, rfl⟩)
      exact ⟨release, (hmem _).2 (Or.inr (Or.inr (Or.inl hrelease))), (hreleases release hrelease).2⟩
    · exact absurd (hreleases _ hcall).1 (by simp [PortCall.isSubmit])
    · exact absurd (isAlert_neither (halerts _ hcall)).1 (by simp [PortCall.isSubmit])
  · have hearlier : log.calls.filter PortCall.isRelease = [] :=
      List.filter_eq_nil_iff.2 fun call hcall => by simp [(hnone call hcall).2]
    have hlast : alerts.filter PortCall.isRelease = [] :=
      List.filter_eq_nil_iff.2 fun call hcall => by simp [(isAlert_neither (halerts call hcall)).2]
    rw [hfilter, hearlier, hlast]
    simpa [PortCall.isRelease] using (List.length_filter_le PortCall.isRelease releases).trans hlength

/-- from two approvals on -/
theorem reserveAndSubmit_protocol {ports : LiveAutonomousEntryRuntimePorts Cost Risk Snapshot}
    {request : LiveAutonomousEntryRuntimeRequest Cost Risk} {log : AttemptLog Cost Risk Snapshot} (hlog : Quiet log)
    (happroved : log.currentStatus = some .riskApproved)
    (hcost : ∃ input decision, PortCall.cost input (.ok decision) ∈ log.calls ∧ decision.tradeAllowed = true)
    (hrisk : ∃ context result, PortCall.risk context (.ok result) ∈ log.calls ∧ result.approved = true)
    (hpreflight : ∃ idempotencyKey, resolveEntryIdempotencyKey ports request = .ok idempotencyKey ∧
      collectPreflightViolations request (createEntryIntent request.candidate idempotencyKey) = [])
    (context : AttemptContext) (costDecision : CostDecision Snapshot) (riskGateResult : RiskGateResult) :
    EntryProtocol ports request ((reserveAndSubmit ports request context costDecision riskGateResult).run log) := by
  unfold reserveAndSubmit
  rw [Effect.run_bind, Effect.run_attempt, run_callPort, Effect.next_ok]
  have hquiet : Quiet (log.called [.reserve (reservationRequest request context)
      (ports.reserve (reservationRequest request context))]) := hlog.called ⟨rfl, rfl⟩
  cases houtcome : ports.reserve (reservationRequest request context) with
  | error thrown =>
    rw [houtcome] at hquiet
    exact EntryProtocol.of_exit hquiet (by rw [AttemptLog.called_currentStatus, happroved]; rfl) context
  | ok outcome =>
    rw [houtcome] at hquiet
    cases outcome with
    | refused reasonCode message metadata =>
      exact EntryProtocol.of_exit hquiet (by rw [AttemptLog.called_currentStatus, happroved]; rfl) context
    | reserved reservation =>
      refine EntryProtocol.of_event hquiet (by rw [AttemptLog.called_currentStatus, happroved]; rfl)
        fun after hafter hreserved hcalls => ?_
      rw [AttemptLog.called_calls] at hcalls
      refine EntryProtocol.of_submitted hafter hreserved ⟨?_, ?_, ?_⟩ hpreflight context _
      · obtain ⟨input, decision, hmem, hallowed⟩ := hcost
        exact ⟨input, decision, by rw [hcalls]; exact List.mem_append_left _ hmem, hallowed⟩
      · obtain ⟨riskContext, result, hmem, hpassed⟩ := hrisk
        exact ⟨riskContext, result, by rw [hcalls]; exact List.mem_append_left _ hmem, hpassed⟩
      · exact ⟨_, reservation, by rw [hcalls]; exact List.mem_append_right _ (List.mem_singleton.2 rfl)⟩

/-- from a candidate without violations on -/
theorem evaluateAndSubmit_protocol {ports : LiveAutonomousEntryRuntimePorts Cost Risk Snapshot}
    {request : LiveAutonomousEntryRuntimeRequest Cost Risk} {log : AttemptLog Cost Risk Snapshot} (hlog : Quiet log)
    (hcreated : log.currentStatus = some .candidateCreated)
    (hpreflight : ∃ idempotencyKey, resolveEntryIdempotencyKey ports request = .ok idempotencyKey ∧
      collectPreflightViolations request (createEntryIntent request.candidate idempotencyKey) = [])
    (context : AttemptContext) :
    EntryProtocol ports request ((evaluateAndSubmit ports request context).run log) := by
  unfold evaluateAndSubmit
  refine EntryProtocol.of_call (hlog.called ⟨rfl, rfl⟩) fun costDecision hcost => ?_
  have hquiet : Quiet (log.called [.cost (createCostInput request.candidate context)
      (ports.evaluateCost (createCostInput request.candidate context))]) := hlog.called ⟨rfl, rfl⟩
  split
  · rename_i hallowed
    refine EntryProtocol.of_event hquiet (by rw [AttemptLog.called_currentStatus, hcreated]; rfl)
      fun afterCost hafterCost hcostApproved hcostCalls => ?_
    refine EntryProtocol.of_call (hafterCost.called ⟨rfl, rfl⟩) fun riskGateResult hrisk => ?_
    have hquietRisk : Quiet (afterCost.called [.risk (createRiskContext request.candidate context)
        (ports.evaluateRiskGate (createRiskContext request.candidate context))]) := hafterCost.called ⟨rfl, rfl⟩
    split
    · rename_i hpassed
      refine EntryProtocol.of_event hquietRisk (by rw [AttemptLog.called_currentStatus, hcostApproved]; rfl)
        fun afterRisk hafterRisk hriskApproved hriskCalls => ?_
      refine reserveAndSubmit_protocol hafterRisk hriskApproved
        ⟨createCostInput request.candidate context, costDecision, ?_, hallowed⟩
        ⟨createRiskContext request.candidate context, riskGateResult, ?_, hpassed⟩ hpreflight context costDecision
        riskGateResult
      · rw [hriskCalls, AttemptLog.called_calls, hcostCalls, AttemptLog.called_calls, hcost]
        exact List.mem_append_left _ (List.mem_append_right _ (List.mem_singleton.2 rfl))
      · rw [hriskCalls, AttemptLog.called_calls, hrisk]
        exact List.mem_append_right _ (List.mem_singleton.2 rfl)
    · exact EntryProtocol.of_exit hquietRisk (by rw [AttemptLog.called_currentStatus, hcostApproved]; rfl) context
  · exact EntryProtocol.of_exit hquiet (by rw [AttemptLog.called_currentStatus, hcreated]; rfl) context

/-- **Entry protocol.** For every request and every behaviour of the ports: the recorded events lead from the start to the
returned status; the engine is called once at most, after a successful reservation, without violations and with cost and
risk approved; the reservation is released exactly when the engine rejected. -/
theorem entry_protocol (ports : LiveAutonomousEntryRuntimePorts Cost Risk Snapshot)
    (request : LiveAutonomousEntryRuntimeRequest Cost Risk) :
    EntryProtocol ports request ((submitEntryCandidate ports request).run AttemptLog.empty) := by
  have hempty : Quiet (AttemptLog.empty : AttemptLog Cost Risk Snapshot) := ⟨LegalPath.start, by simp [AttemptLog.empty]⟩
  unfold submitEntryCandidate
  rw [Effect.run_bind, Effect.run_ofExcept]
  cases hkey : resolveEntryIdempotencyKey ports request with
  | error thrown =>
    rw [Effect.next_error]
    exact EntryProtocol.of_thrown hempty thrown
  | ok idempotencyKey =>
    rw [Effect.next_ok]
    refine EntryProtocol.of_event hempty rfl fun log hlog hcreated _ => ?_
    cases hviolations : collectPreflightViolations request (attemptContext ports request idempotencyKey).intent with
    | nil => exact evaluateAndSubmit_protocol hlog hcreated ⟨idempotencyKey, hkey, hviolations⟩ _
    | cons violation violations =>
      refine EntryProtocol.of_exit hlog ?_ _
      rw [hcreated]
      cases hstatus : violation.status <;> simp [preflightExit, hstatus, ViolationStatus.attemptStatus] <;> rfl

end Protocol

end Attempt

end SeeMirai.Live
