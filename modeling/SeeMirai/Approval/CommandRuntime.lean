/-
The approval command runtime (runtime/live-order-approval-runtime/service.ts): what `/approve` and `/reject` of an
operator make of a proposed live order. An approved proposal is rechecked, the recheck is put on record, its notional is
reserved in the daily budget, and only then the broker is asked; whatever becomes of that is recorded in turn.

Calls interleave at every await over one proposal store. A process may die under a call; a port may throw, and a write
of the store may happen and its answer get lost. Of the metadata of an evidence row only what says how the broker was
left is kept, of a broker's order only its id, and traces of results are left out.

- `handleCommand`: one command.
- `approvalEnvironment`: how commands begin and how their requests are served.
-/
import SeeMirai.Approval.ProposalStore
import SeeMirai.Lib.Async

namespace SeeMirai.Approval

open Async

/-! ## Model: requests -/

/-- what the broker is handed -/
structure LiveOrderSubmission where
  exchangeId : String
  market : String
  strategyId : String
  side : String
  requestedPrice : String
  requestedQuantity : String
  requestedNotional : String
  idempotencyKey : String
  proposalId : String
  proposalFingerprint : String
  decisionLedgerId : String
  riskDecisionId : String
  submittedAt : String
deriving DecidableEq

inductive ApprovalRequest where
  | findById (proposalId : String)
  | recordTransition (input : RecordTransitionInput)
  | appendEvidence (input : AppendEvidenceInput)
  | reserveDailyApprovalBudget (input : ReserveDailyBudgetInput)
  | appendEvent (evidence : LiveOrderApprovalEvidenceSnapshot)
  | getSubmissionRecheckSnapshot (proposal : ProposalRecord) (observedAt : String)
  | submitOrder (submission : LiveOrderSubmission)

/-- the broker answers with the id of its order -/
def ApprovalReply : ApprovalRequest → Type
  | .findById _ => Option ProposalRecord
  | .recordTransition _ => ProposalWriteResult
  | .appendEvidence _ => ProposalWriteResult
  | .reserveDailyApprovalBudget _ => BudgetReservationResult
  | .appendEvent _ => Unit
  | .getSubmissionRecheckSnapshot _ _ => SubmissionRecheckSnapshot
  | .submitOrder _ => String

abbrev Approving := Async ApprovalRequest ApprovalReply Thrown

def askPort (request : ApprovalRequest) : Approving (ApprovalReply request) := Async.call request

/-! ## Model: a command -/

inductive CommandName where
  | approve
  | reject
  | other
deriving DecidableEq, Repr

/-- `clockNow` is read where the command has no time -/
structure CommandInput where
  command : CommandName
  proposalArgument : Option String
  occurredAt : String
  clockNow : String

inductive CommandStatus where
  | runtimeDisabled
  | proposalNotFound
  | proposalNotApprovable
  | proposalExpired
  | proposalExpirationAuditFailed
  | rejectionRecorded
  | approvalRecordFailed
  | rejectionRecordFailed
  | rejectionAuditFailed
  | approvalSubmissionBlocked
  | approvalSubmissionFailed
  | approvalSubmitted
deriving DecidableEq, Repr

structure CommandResult where
  status : CommandStatus
  proposalId : String
  brokerSubmitted : Bool
  stateChanged : Bool
  reasonCode : String
  evidence : List LiveOrderApprovalEvidenceSnapshot
  brokerOrderId : Option String
deriving DecidableEq

/-- what all steps of a command read -/
structure Handling where
  config : LiveManualApprovalConfig
  occurredAt : String

/-- the metadata that says how the broker was left -/
structure EvidenceDetails where
  brokerOrderId : Option String
  violations : List SubmissionViolation
  brokerSubmissionUncertain : Bool

def noDetails : EvidenceDetails := ⟨none, [], false⟩

structure SubmissionFailure where
  reasonCode : String
  violations : List SubmissionViolation
  brokerSubmissionUncertain : Bool

/-- a failure whose only violation is its reason -/
def plainFailure (reasonCode : String) : SubmissionFailure := ⟨reasonCode, [.runtime reasonCode], false⟩

section Command

variable [Host] [DateText] [Digest]

def readStrategyId (proposal : ProposalRecord) : String :=
  match proposal.strategyId with
  | some strategyId => if trim strategyId = "" then "m21_manual_approval" else strategyId
  | none => "m21_manual_approval"

def ProposalRecord.fingerprint (proposal : ProposalRecord) : String :=
  ProposalStore.createLiveOrderProposalFingerprint proposal.contract

def createOrderSubmissionFromLiveOrderProposal (proposal : ProposalRecord) (submittedAt : String) :
    LiveOrderSubmission where
  exchangeId := proposal.contract.exchangeId
  market := proposal.contract.market
  strategyId := readStrategyId proposal
  side := proposal.contract.side
  requestedPrice := proposal.contract.requestedPrice
  requestedQuantity := proposal.contract.requestedVolume
  requestedNotional := proposal.contract.expectedNotionalKrw
  idempotencyKey := proposal.contract.idempotencyKey
  proposalId := proposal.proposalId
  proposalFingerprint := proposal.fingerprint
  decisionLedgerId := proposal.contract.decisionLedgerId
  riskDecisionId := proposal.contract.riskDecisionId
  submittedAt := submittedAt

def createEvidence (proposal : ProposalRecord) (evidenceKind : LiveOrderApprovalEvidenceKind)
    (proposalStatus : LiveOrderProposalStatus) (occurredAt reasonCode : String) (details : EvidenceDetails) :
    LiveOrderApprovalEvidenceSnapshot where
  evidenceKind := evidenceKind
  proposalId := proposal.proposalId
  proposalStatus := proposalStatus
  proposalFingerprint := proposal.fingerprint
  occurredAt := occurredAt
  reasonCode := reasonCode
  brokerOrderId := details.brokerOrderId
  violations := details.violations
  brokerSubmissionUncertain := details.brokerSubmissionUncertain

/-- an audit log that throws is noticed, and nothing more -/
def appendApprovalAuditSafely (evidence : LiveOrderApprovalEvidenceSnapshot) : Approving Bool :=
  tryCatch (do
    let _ : Unit ← askPort (.appendEvent evidence)
    return true) fun _ => return false

omit [Host] [DateText] [Digest] in
def writeTransition (input : RecordTransitionInput) : Approving ProposalWriteResult :=
  askPort (.recordTransition input)

/-- a transition that the state machine refuses is not tried -/
def recordStatusTransition (handling : Handling) (proposal : ProposalRecord) (toStatus : LiveOrderProposalStatus)
    (evidenceKind : LiveOrderApprovalEvidenceKind) (reasonCode : String) (details : EvidenceDetails) :
    Approving ProposalWriteResult :=
  if evaluateLiveOrderProposalTransition proposal.status toStatus = false then
    return .refused (.statusMismatch proposal.status)
  else
    writeTransition
      { proposalId := proposal.proposalId
        expectedStatus := proposal.status
        expectedFingerprint := proposal.fingerprint
        toStatus := toStatus
        evidence := createEvidence proposal evidenceKind toStatus handling.occurredAt reasonCode details }

def createWriteConflictResult (status : CommandStatus) (proposal : ProposalRecord) : CommandResult :=
  ⟨status, proposal.proposalId, false, false, "m21_proposal_write_conflict", [], none⟩

def notOpenResult (proposal : ProposalRecord) : CommandResult :=
  ⟨.proposalNotApprovable, proposal.proposalId, false, false, "m21_proposal_status_not_open", [], none⟩

def rejectProposal (handling : Handling) (proposal : ProposalRecord) : Approving CommandResult := do
  let recorded ← recordStatusTransition handling proposal .rejected .rejectionRecorded "m21_operator_rejected" noDetails
  match recorded with
  | .refused _ => return createWriteConflictResult .rejectionRecordFailed proposal
  | .recorded _ evidence => do
    let audited ← appendApprovalAuditSafely evidence
    if audited then
      return ⟨.rejectionRecorded, proposal.proposalId, false, true, "m21_operator_rejected", [evidence], none⟩
    else
      return ⟨.rejectionAuditFailed, proposal.proposalId, false, true, "m21_rejection_audit_append_failed", [evidence],
        none⟩

def expireProposal (handling : Handling) (proposal : ProposalRecord) : Approving CommandResult :=
  if proposal.status ≠ .proposed ∧ proposal.status ≠ .approved then return notOpenResult proposal
  else do
    let recorded ←
      recordStatusTransition handling proposal .expired .expirationRecorded "m21_proposal_expired" noDetails
    match recorded with
    | .refused _ => return createWriteConflictResult .approvalRecordFailed proposal
    | .recorded _ evidence => do
      let audited ← appendApprovalAuditSafely evidence
      if audited then
        return ⟨.proposalExpired, proposal.proposalId, false, true, "m21_proposal_expired", [evidence], none⟩
      else
        return ⟨.proposalExpirationAuditFailed, proposal.proposalId, false, true, "m21_expiration_audit_append_failed",
          [evidence], none⟩

def recordSubmissionFailure (handling : Handling) (proposal : ProposalRecord)
    (priorEvidence : List LiveOrderApprovalEvidenceSnapshot) (failure : SubmissionFailure) :
    Approving CommandResult := do
  let uncertain := failure.brokerSubmissionUncertain
  let recorded ← recordStatusTransition handling proposal .submissionFailed .submissionFailureRecorded
    failure.reasonCode ⟨none, failure.violations, uncertain⟩
  match recorded with
  | .refused _ =>
    return ⟨.approvalSubmissionFailed, proposal.proposalId, uncertain, true, "m21_submission_failure_evidence_failed",
      priorEvidence, none⟩
  | .recorded _ evidence => do
    let audited ← appendApprovalAuditSafely evidence
    -- an uncertain submission that is not audited is to be reconciled by hand: it does not hide behind its reason
    let reasonCode :=
      if audited = false ∧ uncertain then "m21_broker_submission_uncertain_audit_append_failed" else failure.reasonCode
    let status : CommandStatus := if uncertain then .approvalSubmissionFailed else .approvalSubmissionBlocked
    return ⟨status, proposal.proposalId, uncertain, true, reasonCode, priorEvidence ++ [evidence], none⟩

def recordBrokerSubmissionUncertainFailure (handling : Handling) (proposal : ProposalRecord)
    (priorEvidence : List LiveOrderApprovalEvidenceSnapshot) : Approving CommandResult :=
  tryCatch
    (recordSubmissionFailure handling proposal priorEvidence
      ⟨"m21_broker_submission_uncertain", [.runtime "m21_broker_submission_uncertain"], true⟩)
    fun _ => return ⟨.approvalSubmissionFailed, proposal.proposalId, true, true,
      "m21_broker_submission_uncertain_evidence_exception", priorEvidence, none⟩

/-- what a throw leaves of an answer -/
def answerOf {α : Type} (program : Approving α) : Approving (Option α) :=
  tryCatch (do
    let a ← program
    return some a) fun _ => return none

/-- the broker has answered with an order -/
def recordSubmitted (handling : Handling) (proposal : ProposalRecord)
    (priorEvidence : List LiveOrderApprovalEvidenceSnapshot) (brokerOrderId : String) : Approving CommandResult := do
  let submitted ← answerOf (recordStatusTransition handling proposal .submitted .brokerSubmissionRecorded
    "m21_broker_submission_recorded" ⟨some brokerOrderId, [], false⟩)
  match submitted with
  | none =>
    return ⟨.approvalSubmissionFailed, proposal.proposalId, true, true, "m21_broker_submission_evidence_exception",
      priorEvidence, some brokerOrderId⟩
  | some (.refused _) =>
    return ⟨.approvalSubmissionFailed, proposal.proposalId, true, true, "m21_broker_submission_evidence_failed",
      priorEvidence, some brokerOrderId⟩
  | some (.recorded _ evidence) => do
    let audited ← appendApprovalAuditSafely evidence
    if audited then
      return ⟨.approvalSubmitted, proposal.proposalId, true, true, "m21_broker_submission_recorded",
        priorEvidence ++ [evidence], some brokerOrderId⟩
    else
      return ⟨.approvalSubmissionFailed, proposal.proposalId, true, true, "m21_broker_submission_audit_append_failed",
        priorEvidence ++ [evidence], some brokerOrderId⟩

/-- the notional is reserved -/
def submitReserved (handling : Handling) (proposal : ProposalRecord)
    (priorEvidence : List LiveOrderApprovalEvidenceSnapshot) : Approving CommandResult := do
  let brokerOrder : Option String ← answerOf
    (askPort (.submitOrder (createOrderSubmissionFromLiveOrderProposal proposal handling.occurredAt)))
  match brokerOrder with
  | none => recordBrokerSubmissionUncertainFailure handling proposal priorEvidence
  | some brokerOrderId => recordSubmitted handling proposal priorEvidence brokerOrderId

def calculateLiveOrderApprovalSubmittedNotionalKrw (proposal : ProposalRecord) : Option ℚ :=
  (calculateSubmittedNotional proposal.contract.requestedPrice proposal.contract.requestedVolume).filter (0 < ·)

/-- the recheck is on record -/
def reserveAndSubmit (handling : Handling) (proposal : ProposalRecord)
    (priorEvidence : List LiveOrderApprovalEvidenceSnapshot) (recheck : SubmissionRecheckSnapshot) :
    Approving CommandResult :=
  match calculateLiveOrderApprovalSubmittedNotionalKrw proposal with
  | none => recordSubmissionFailure handling proposal priorEvidence (plainFailure "m21_order_notional_mismatch")
  | some submittedNotionalKrw => do
    let budgetReservation : Option BudgetReservationResult ← answerOf (askPort (.reserveDailyApprovalBudget
      { proposalId := proposal.proposalId
        expectedStatus := .approved
        expectedFingerprint := proposal.fingerprint
        reserveNotionalKrw := submittedNotionalKrw
        dailyApprovedNotionalUsedKrw := recheck.dailyApprovedNotionalUsedKrw
        dailyApprovedNotionalLimitKrw := handling.config.daily_approved_notional_limit_krw }))
    match budgetReservation with
    | none =>
      recordSubmissionFailure handling proposal priorEvidence
        (plainFailure "m21_daily_budget_reservation_unavailable")
    | some (.recorded _ _) => submitReserved handling proposal priorEvidence
    | some (.proposalAlreadyReserved _) =>
      return ⟨.approvalSubmissionBlocked, proposal.proposalId, false, false,
        "m21_proposal_submission_already_reserved", priorEvidence, none⟩
    | some (.dailyBudgetExceeded _ _) =>
      recordSubmissionFailure handling proposal priorEvidence
        ⟨"m21_daily_budget_reservation_failed", [.runtime "m21_daily_budget_exceeded"], false⟩
    | some (.refused _) =>
      recordSubmissionFailure handling proposal priorEvidence (plainFailure "m21_daily_budget_reservation_failed")

def createRecheckEvidence (handling : Handling) (proposal : ProposalRecord) : LiveOrderApprovalEvidenceSnapshot :=
  createEvidence proposal .submissionRecheckPassed .approved handling.occurredAt "m21_submission_recheck_passed"
    noDetails

/-- the recheck accepts the order -/
def recordRecheck (handling : Handling) (proposal : ProposalRecord)
    (priorEvidence : List LiveOrderApprovalEvidenceSnapshot) (recheck : SubmissionRecheckSnapshot) :
    Approving CommandResult := do
  let recheckEvidence := createRecheckEvidence handling proposal
  let recheckAppend : ProposalWriteResult ← askPort (.appendEvidence
    { proposalId := proposal.proposalId
      expectedStatus := .approved
      expectedFingerprint := proposal.fingerprint
      evidence := recheckEvidence })
  match recheckAppend with
  | .refused _ =>
    return ⟨.approvalSubmissionBlocked, proposal.proposalId, false, true, "m21_submission_recheck_evidence_failed",
      priorEvidence, none⟩
  | .recorded _ _ => do
    let audited ← appendApprovalAuditSafely recheckEvidence
    if audited then reserveAndSubmit handling proposal (priorEvidence ++ [recheckEvidence]) recheck
    else
      recordSubmissionFailure handling proposal (priorEvidence ++ [recheckEvidence])
        (plainFailure "m21_recheck_audit_append_failed")

/-- the answer of the recheck is judged; its amounts are not to be computed with where a proof only follows the calls -/
@[irreducible] def submitRechecked (handling : Handling) (proposal : ProposalRecord)
    (priorEvidence : List LiveOrderApprovalEvidenceSnapshot) (recheck : SubmissionRecheckSnapshot) :
    Approving CommandResult :=
  match evaluateLiveOrderApprovalSubmissionRecheck proposal.forRecheck handling.config recheck with
  | .refused violations =>
    recordSubmissionFailure handling proposal priorEvidence
      ⟨"m21_submission_recheck_failed", violations.map .recheck, false⟩
  | .accepted => recordRecheck handling proposal priorEvidence recheck

def submitApprovedProposal (handling : Handling) (proposal : ProposalRecord)
    (priorEvidence : List LiveOrderApprovalEvidenceSnapshot) : Approving CommandResult := do
  let recheck : Option SubmissionRecheckSnapshot ← answerOf
    (askPort (.getSubmissionRecheckSnapshot proposal handling.occurredAt))
  match recheck with
  | none =>
    recordSubmissionFailure handling proposal priorEvidence (plainFailure "m21_submission_recheck_unavailable")
  | some recheck => submitRechecked handling proposal priorEvidence recheck

def approveAndSubmitProposal (handling : Handling) (proposal : ProposalRecord) : Approving CommandResult := do
  let approval ← recordStatusTransition handling proposal .approved .approvalRecorded "m21_operator_approved" noDetails
  match approval with
  | .refused _ => return createWriteConflictResult .approvalRecordFailed proposal
  | .recorded approved evidence => do
    let audited ← appendApprovalAuditSafely evidence
    if audited then submitApprovedProposal handling approved [evidence]
    else
      recordSubmissionFailure handling approved [evidence] (plainFailure "m21_approval_audit_append_failed")

def resumeEvidence (handling : Handling) (approvedProposal : ProposalRecord) : LiveOrderApprovalEvidenceSnapshot :=
  createEvidence approvedProposal .approvalRecorded .approved handling.occurredAt "m21_approval_resume_audit_recorded"
    noDetails

/-- an approval that was recorded before, and perhaps a crash after it -/
def resumeApprovedProposal (handling : Handling) (approvedProposal : ProposalRecord) : Approving CommandResult := do
  let evidence := resumeEvidence handling approvedProposal
  let audited ← appendApprovalAuditSafely evidence
  if audited then submitApprovedProposal handling approvedProposal [evidence]
  else
    recordSubmissionFailure handling approvedProposal [evidence]
      (plainFailure "m21_approval_resume_audit_append_failed")

omit [Host] [Digest] in
/-- a time that cannot be read is before all others -/
def isProposalExpired (proposal : ProposalRecord) (observedAt : String) : Bool :=
  match proposal.contract.expiresAt.time with
  | none => true
  | some expires => (DateText.parse observedAt).any fun observed => expires.ms ≤ observed.ms

def handleProposal (handling : Handling) (command : CommandName) (proposal : ProposalRecord) :
    Approving CommandResult :=
  if isProposalExpired proposal handling.occurredAt then expireProposal handling proposal
  else if proposal.status = .approved ∧ command = .approve then resumeApprovedProposal handling proposal
  else if proposal.status ≠ .proposed then return notOpenResult proposal
  else
    match command with
    | .reject => rejectProposal handling proposal
    | .approve => approveAndSubmitProposal handling proposal
    | .other =>
      return ⟨.proposalNotApprovable, proposal.proposalId, false, false, "m21_unsupported_approval_command", [], none⟩

def handleCommand (config : LiveManualApprovalConfig) (input : CommandInput) : Approving CommandResult :=
  let proposalId := input.proposalArgument.getD "unknown-proposal"
  let occurredAt := if input.occurredAt = "" then input.clockNow else input.occurredAt
  if config.enabled = false then
    return ⟨.runtimeDisabled, proposalId, false, false, "m21_manual_approval_runtime_disabled", [], none⟩
  else do
    let found : Option ProposalRecord ← askPort (.findById proposalId)
    match found with
    | none => return ⟨.proposalNotFound, proposalId, false, false, "m21_proposal_not_found", [], none⟩
    | some proposal => handleProposal ⟨config, occurredAt⟩ input.command proposal

end Command

/-! ## Model: commands over one store -/

structure ApprovalShared where
  store : ProposalStore
  /-- the commands that have begun -/
  started : List ℕ
  /-- what the broker was asked for, and by which command -/
  submitted : List (ℕ × LiveOrderSubmission)
  /-- the amount used that day, as the last reservation was told -/
  lastUsed : ℚ

section Environment

variable [Host] [DateText] [Digest]

/-- a reservation that is recorded was told what is used -/
def ApprovalShared.reserving (shared : ApprovalShared) (input : ReserveDailyBudgetInput) : ApprovalShared :=
  match shared.store.reserveDailyApprovalBudget input with
  | (.recorded _ _, store) =>
    { shared with store := store, lastUsed := (parseGuardDecimal input.dailyApprovedNotionalUsedKrw).getD 0 }
  | (_, store) => { shared with store := store }

/-- how a request of command `i` is served; a write may happen without an answer -/
inductive ApprovalServes (i : ℕ) (shared : ApprovalShared) :
    (request : ApprovalRequest) → Except Thrown (ApprovalReply request) → ApprovalShared → Prop where
  | findById (proposalId : String) :
      ApprovalServes i shared (.findById proposalId) (.ok (shared.store.findById proposalId)) shared
  | recordTransition (input : RecordTransitionInput) (reply : Except Thrown ProposalWriteResult)
      (hreply : ∀ result, reply = .ok result → result = (shared.store.recordTransition input).1) :
      ApprovalServes i shared (.recordTransition input) reply
        { shared with store := (shared.store.recordTransition input).2 }
  | appendEvidence (input : AppendEvidenceInput) (reply : Except Thrown ProposalWriteResult)
      (hreply : ∀ result, reply = .ok result → result = (shared.store.appendEvidence input).1) :
      ApprovalServes i shared (.appendEvidence input) reply
        { shared with store := (shared.store.appendEvidence input).2 }
  | reserve (input : ReserveDailyBudgetInput) (reply : Except Thrown BudgetReservationResult)
      (hreply : ∀ result, reply = .ok result → result = (shared.store.reserveDailyApprovalBudget input).1) :
      ApprovalServes i shared (.reserveDailyApprovalBudget input) reply (shared.reserving input)
  | appendEvent (evidence : LiveOrderApprovalEvidenceSnapshot) (reply : Except Thrown Unit) :
      ApprovalServes i shared (.appendEvent evidence) reply shared
  | recheck (proposal : ProposalRecord) (observedAt : String) (reply : Except Thrown SubmissionRecheckSnapshot) :
      ApprovalServes i shared (.getSubmissionRecheckSnapshot proposal observedAt) reply shared
  | submitOrder (submission : LiveOrderSubmission) (reply : Except Thrown String) :
      ApprovalServes i shared (.submitOrder submission) reply
        { shared with submitted := (i, submission) :: shared.submitted }
  | throws (request : ApprovalRequest) (e : Thrown) (hrequest : ∀ submission, request ≠ .submitOrder submission) :
      ApprovalServes i shared request (.error e) shared

/-- commands of operators, each under a number of its own -/
def approvalEnvironment (config : LiveManualApprovalConfig) :
    Environment ℕ ApprovalShared ApprovalRequest ApprovalReply Thrown CommandResult where
  Starts i shared program shared' := i ∉ shared.started ∧ shared' = { shared with started := i :: shared.started } ∧
    ∃ input, program = handleCommand config input
  Serves := ApprovalServes
  Drifts _ _ := False

/-- a store before any command -/
def approvalStart (proposals : List ProposalRecord) :
    World ℕ ApprovalShared ApprovalRequest ApprovalReply Thrown CommandResult where
  shared := ⟨createProposalStore proposals, [], [], 0⟩
  running _ := none

end Environment

end SeeMirai.Approval
