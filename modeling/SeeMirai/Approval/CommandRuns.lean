/-
One approval command, whatever its ports reply: how far it has come, what it may ask for next, and what its result says
of the broker.

Results:
- `command_keeps`: a command asks the broker only after an accepted recheck, its record and a reservation, once.
-/
import SeeMirai.Approval.CommandRuntime

namespace SeeMirai.Approval

open Async

/-! ## What a command asks for -/

/-- how far a command has come -/
inductive CommandPlace where
  | begun
  | rechecked (proposal : ProposalRecord) (recheck : SubmissionRecheckSnapshot)
  | witnessed (proposal : ProposalRecord) (recheck : SubmissionRecheckSnapshot)
  | reserved (proposal : ProposalRecord) (recheck : SubmissionRecheckSnapshot)
  | submitted (proposal : ProposalRecord)

def CommandPlace.hasSubmitted : CommandPlace → Bool
  | submitted _ => true
  | _ => false

section Programs

variable [Host] [DateText] [Digest]

/-- the recheck accepts the order, as it stands in the proposal -/
def Accepts (config : LiveManualApprovalConfig) (proposal : ProposalRecord) (recheck : SubmissionRecheckSnapshot) :
    Prop :=
  evaluateLiveOrderApprovalSubmissionRecheck proposal.forRecheck config recheck = .accepted

def approvalMonitor (config : LiveManualApprovalConfig) :
    Monitor ApprovalRequest ApprovalReply Thrown CommandPlace where
  Allowed place
    | .recordTransition input =>
      evaluateLiveOrderProposalTransition input.expectedStatus input.toStatus = true ∧
        (input.toStatus = .submitted → ∃ proposal, place = .submitted proposal ∧ proposal.proposalId = input.proposalId)
    | .getSubmissionRecheckSnapshot _ _ => place = .begun
    | .appendEvidence input =>
      ∃ proposal recheck, place = .rechecked proposal recheck ∧ Accepts config proposal recheck ∧
        input.proposalId = proposal.proposalId ∧ input.expectedFingerprint = proposal.fingerprint ∧
        input.evidence.evidenceKind = .submissionRecheckPassed ∧
        input.evidence.proposalFingerprint = proposal.fingerprint
    | .reserveDailyApprovalBudget input =>
      ∃ proposal recheck, place = .witnessed proposal recheck ∧
        calculateLiveOrderApprovalSubmittedNotionalKrw proposal = some input.reserveNotionalKrw ∧
        input.proposalId = proposal.proposalId ∧ input.expectedStatus = .approved ∧
        input.expectedFingerprint = proposal.fingerprint ∧
        input.dailyApprovedNotionalUsedKrw = recheck.dailyApprovedNotionalUsedKrw ∧
        input.dailyApprovedNotionalLimitKrw = config.daily_approved_notional_limit_krw
    | .submitOrder submission =>
      ∃ proposal recheck submittedAt, place = .reserved proposal recheck ∧
        submission = createOrderSubmissionFromLiveOrderProposal proposal submittedAt
    | _ => True
  after place
    | .getSubmissionRecheckSnapshot proposal _, .ok recheck => .rechecked proposal recheck
    | .appendEvidence _, .ok (.recorded _ _) =>
      match place with
      | .rechecked proposal recheck => .witnessed proposal recheck
      | place => place
    | .reserveDailyApprovalBudget _, .ok (.recorded _ _) =>
      match place with
      | .witnessed proposal recheck => .reserved proposal recheck
      | place => place
    | .submitOrder _, _ =>
      match place with
      | .reserved proposal _ => .submitted proposal
      | place => place
    | _, _ => place

/-- a result says whether its command asked the broker; a command that throws did not -/
def Truthful (place : CommandPlace) : Except Thrown CommandResult → Prop
  | .ok result => result.brokerSubmitted = place.hasSubmitted
  | .error _ => place.hasSubmitted = false

variable {config : LiveManualApprovalConfig} {place : CommandPlace}

/-- a program that leaves its place as it is -/
def Stays {α : Type} (place : CommandPlace) (place' : CommandPlace) (_ : Except Thrown α) : Prop := place' = place

theorem audit_keeps (evidence : LiveOrderApprovalEvidenceSnapshot) :
    Keeps (approvalMonitor config) (fun place' end_ => place' = place ∧ ∃ audited, end_ = .ok audited) place
      (appendApprovalAuditSafely evidence) := by
  have happend : Keeps (approvalMonitor config) (Stays place) place (do
      let _ : Unit ← askPort (.appendEvent evidence)
      return true) :=
    keeps_call_bind trivial (fun _ => keeps_pure rfl) (fun _ => rfl)
  exact keeps_tryCatch happend (fun _ audited h => ⟨h, audited, rfl⟩) (fun _ _ h => keeps_pure ⟨h, false, rfl⟩)

/-- after an audit the place is the same -/
theorem audited_keeps {α : Type} {post : CommandPlace → Except Thrown α → Prop}
    (evidence : LiveOrderApprovalEvidenceSnapshot) {f : Bool → Approving α}
    (hf : ∀ audited, Keeps (approvalMonitor config) post place (f audited)) :
    Keeps (approvalMonitor config) post place (appendApprovalAuditSafely evidence >>= f) := by
  refine keeps_bind (audit_keeps evidence) (fun place' audited h => ?_) (fun _ _ h => ?_)
  · obtain ⟨rfl, -⟩ := h
    exact hf audited
  · obtain ⟨-, audited, haudited⟩ := h
    cases haudited

theorem transition_keeps (handling : Handling) (proposal : ProposalRecord) {toStatus : LiveOrderProposalStatus}
    (evidenceKind : LiveOrderApprovalEvidenceKind) (reasonCode : String) (details : EvidenceDetails)
    (h : toStatus = .submitted → place = .submitted proposal) :
    Keeps (approvalMonitor config) (Stays place) place
      (recordStatusTransition handling proposal toStatus evidenceKind reasonCode details) := by
  unfold recordStatusTransition
  by_cases hrefused : evaluateLiveOrderProposalTransition proposal.status toStatus = false
  · rw [if_pos hrefused]
    exact keeps_pure rfl
  · rw [if_neg hrefused]
    have hallowed : evaluateLiveOrderProposalTransition proposal.status toStatus = true := by simpa using hrefused
    exact keeps_call ⟨hallowed, fun hsubmitted => ⟨proposal, h hsubmitted, rfl⟩⟩ fun _ => rfl

theorem failure_keeps (handling : Handling) (proposal : ProposalRecord)
    (priorEvidence : List LiveOrderApprovalEvidenceSnapshot) (failure : SubmissionFailure)
    (h : failure.brokerSubmissionUncertain = place.hasSubmitted) :
    Keeps (approvalMonitor config) (fun place' end_ => place' = place ∧
        ∀ result, end_ = .ok result → result.brokerSubmitted = place.hasSubmitted) place
      (recordSubmissionFailure handling proposal priorEvidence failure) := by
  unfold recordSubmissionFailure
  refine keeps_bind (transition_keeps handling proposal _ _ _ fun h => nomatch h) (fun place' recorded hplace => ?_)
    (fun _ _ hplace => ⟨hplace, fun _ h => nomatch h⟩)
  obtain rfl := hplace
  cases recorded with
  | refused refusal =>
    refine keeps_pure ⟨rfl, fun result hresult => ?_⟩
    cases hresult
    exact h
  | recorded moved evidence =>
    refine audited_keeps evidence fun audited => keeps_pure ⟨rfl, fun result hresult => ?_⟩
    cases hresult
    exact h

/-- a submission that is given up before the broker was asked -/
theorem givenUp_keeps (handling : Handling) (proposal : ProposalRecord)
    (priorEvidence : List LiveOrderApprovalEvidenceSnapshot) {failure : SubmissionFailure}
    (huncertain : failure.brokerSubmissionUncertain = false) (h : place.hasSubmitted = false) :
    Keeps (approvalMonitor config) Truthful place
      (recordSubmissionFailure handling proposal priorEvidence failure) := by
  refine Keeps.mono (failure_keeps handling proposal priorEvidence failure (huncertain.trans h.symm)) ?_
  intro place' end_ hend
  obtain ⟨rfl, hresult⟩ := hend
  cases end_ with
  | ok result => exact hresult result rfl
  | error e => exact h

/-- what is known where an answer came, and where a throw was caught -/
def Answered {α : Type} (mid : CommandPlace → Except Thrown α → Prop) (place : CommandPlace) :
    Except Thrown (Option α) → Prop
  | .ok (some a) => mid place (.ok a)
  | .ok none => ∃ e, mid place (.error e)
  | .error _ => False

theorem answerOf_keeps {α : Type} {program : Approving α} {mid : CommandPlace → Except Thrown α → Prop}
    (h : Keeps (approvalMonitor config) mid place program) :
    Keeps (approvalMonitor config) (Answered mid) place (answerOf program) := by
  have hsome : Keeps (approvalMonitor config) (fun place' (end_ : Except Thrown (Option α)) => match end_ with
      | .ok (some a) => mid place' (.ok a)
      | .ok none => False
      | .error e => mid place' (.error e)) place (do
        let a ← program
        return some a) :=
    keeps_bind h (fun _ _ ha => keeps_pure ha) fun _ _ he => he
  refine keeps_tryCatch hsome (fun place' answer h => ?_) (fun place' e h => keeps_pure ⟨e, h⟩)
  cases answer with
  | none => exact h.elim
  | some a => exact h

/-- an answer or none, and what follows -/
theorem answered_keeps {α : Type} {program : Approving α} {mid : CommandPlace → Except Thrown α → Prop}
    {f : Option α → Approving CommandResult} (h : Keeps (approvalMonitor config) mid place program)
    (hsome : ∀ place' a, mid place' (.ok a) → Keeps (approvalMonitor config) Truthful place' (f (some a)))
    (hnone : ∀ place' e, mid place' (.error e) → Keeps (approvalMonitor config) Truthful place' (f none)) :
    Keeps (approvalMonitor config) Truthful place (answerOf program >>= f) := by
  refine keeps_bind (answerOf_keeps h) (fun place' answer hanswer => ?_) (fun _ _ hfalse => hfalse.elim)
  cases answer with
  | none =>
    obtain ⟨e, he⟩ := hanswer
    exact hnone place' e he
  | some a => exact hsome place' a hanswer

theorem recordSubmitted_keeps (handling : Handling) (proposal : ProposalRecord)
    (priorEvidence : List LiveOrderApprovalEvidenceSnapshot) (brokerOrderId : String) :
    Keeps (approvalMonitor config) Truthful (.submitted proposal)
      (recordSubmitted handling proposal priorEvidence brokerOrderId) := by
  refine answered_keeps (transition_keeps handling proposal .brokerSubmissionRecorded
    "m21_broker_submission_recorded" ⟨some brokerOrderId, [], false⟩ fun _ => rfl) (fun place' recorded hplace => ?_)
    (fun place' _ hplace => ?_)
  · obtain rfl : place' = .submitted proposal := hplace
    cases recorded with
    | refused refusal => exact keeps_pure rfl
    | recorded moved evidence =>
      refine audited_keeps evidence fun audited => ?_
      cases audited with
      | true => exact keeps_pure rfl
      | false => exact keeps_pure rfl
  · obtain rfl : place' = .submitted proposal := hplace
    exact keeps_pure rfl

/-- the broker may have the order: that is recorded, or could not be -/
theorem uncertain_keeps (handling : Handling) (proposal : ProposalRecord)
    (priorEvidence : List LiveOrderApprovalEvidenceSnapshot) :
    Keeps (approvalMonitor config) Truthful (.submitted proposal)
      (recordBrokerSubmissionUncertainFailure handling proposal priorEvidence) := by
  refine keeps_tryCatch (failure_keeps handling proposal priorEvidence
    ⟨"m21_broker_submission_uncertain", [.runtime "m21_broker_submission_uncertain"], true⟩ rfl)
    (fun place' result h => ?_) (fun place' e h => ?_)
  · obtain ⟨rfl, hresult⟩ := h
    exact hresult result rfl
  · obtain ⟨rfl, -⟩ := h
    exact keeps_pure rfl

theorem submitReserved_keeps (handling : Handling) (proposal : ProposalRecord)
    (priorEvidence : List LiveOrderApprovalEvidenceSnapshot) (recheck : SubmissionRecheckSnapshot) :
    Keeps (approvalMonitor config) Truthful (.reserved proposal recheck)
      (submitReserved handling proposal priorEvidence) := by
  have hask : Keeps (approvalMonitor config) (Stays (.submitted proposal)) (.reserved proposal recheck)
      (askPort (.submitOrder (createOrderSubmissionFromLiveOrderProposal proposal handling.occurredAt))) :=
    keeps_call ⟨proposal, recheck, handling.occurredAt, rfl, rfl⟩ fun _ => rfl
  refine answered_keeps hask (fun place' brokerOrderId hplace => ?_) (fun place' _ hplace => ?_)
  · obtain rfl : place' = .submitted proposal := hplace
    exact recordSubmitted_keeps handling proposal priorEvidence brokerOrderId
  · obtain rfl : place' = .submitted proposal := hplace
    exact uncertain_keeps handling proposal priorEvidence

/-- where a command stands once its reservation is answered -/
def AfterReserving (proposal : ProposalRecord) (recheck : SubmissionRecheckSnapshot) (place : CommandPlace) :
    Except Thrown BudgetReservationResult → Prop
  | .ok (.recorded _ _) => place = .reserved proposal recheck
  | _ => place = .witnessed proposal recheck

theorem reserveAndSubmit_keeps (handling : Handling) (proposal : ProposalRecord)
    (priorEvidence : List LiveOrderApprovalEvidenceSnapshot) (recheck : SubmissionRecheckSnapshot)
    (hconfig : handling.config = config) :
    Keeps (approvalMonitor config) Truthful (.witnessed proposal recheck)
      (reserveAndSubmit handling proposal priorEvidence recheck) := by
  unfold reserveAndSubmit
  cases hnotional : calculateLiveOrderApprovalSubmittedNotionalKrw proposal with
  | none => exact givenUp_keeps handling proposal priorEvidence rfl rfl
  | some notional =>
    have hask : Keeps (approvalMonitor config) (AfterReserving proposal recheck) (.witnessed proposal recheck)
        (askPort (.reserveDailyApprovalBudget
          { proposalId := proposal.proposalId
            expectedStatus := .approved
            expectedFingerprint := proposal.fingerprint
            reserveNotionalKrw := notional
            dailyApprovedNotionalUsedKrw := recheck.dailyApprovedNotionalUsedKrw
            dailyApprovedNotionalLimitKrw := handling.config.daily_approved_notional_limit_krw })) := by
      refine keeps_call ⟨proposal, recheck, rfl, hnotional, rfl, rfl, rfl, rfl, by rw [hconfig]⟩ fun reply => ?_
      rcases reply with e | (⟨moved, amount⟩ | amount | refusal | ⟨total, limit⟩) <;> rfl
    refine answered_keeps hask (fun place' reservation hplace => ?_) (fun place' _ hplace => ?_)
    · cases reservation with
      | recorded moved amount =>
        obtain rfl : place' = .reserved proposal recheck := hplace
        exact submitReserved_keeps handling proposal priorEvidence recheck
      | proposalAlreadyReserved amount =>
        obtain rfl : place' = .witnessed proposal recheck := hplace
        exact keeps_pure rfl
      | refused refusal =>
        obtain rfl : place' = .witnessed proposal recheck := hplace
        exact givenUp_keeps handling proposal priorEvidence rfl rfl
      | dailyBudgetExceeded total limit =>
        obtain rfl : place' = .witnessed proposal recheck := hplace
        exact givenUp_keeps handling proposal priorEvidence rfl rfl
    · obtain rfl : place' = .witnessed proposal recheck := hplace
      exact givenUp_keeps handling proposal priorEvidence rfl rfl

theorem recordRecheck_keeps (handling : Handling) (proposal : ProposalRecord)
    (priorEvidence : List LiveOrderApprovalEvidenceSnapshot) {recheck : SubmissionRecheckSnapshot}
    (hconfig : handling.config = config) (haccepts : Accepts config proposal recheck) :
    Keeps (approvalMonitor config) Truthful (.rechecked proposal recheck)
      (recordRecheck handling proposal priorEvidence recheck) := by
  refine keeps_call_bind ⟨proposal, recheck, rfl, haccepts, rfl, rfl, rfl, rfl⟩ (fun recorded => ?_) fun _ => rfl
  cases recorded with
  | refused refusal => exact keeps_pure rfl
  | recorded moved evidence =>
    refine audited_keeps _ fun audited => ?_
    cases audited with
    | true => exact reserveAndSubmit_keeps handling proposal _ recheck hconfig
    | false => exact givenUp_keeps handling proposal _ rfl rfl

/-- where a command stands once its recheck is answered -/
def AfterRecheck (proposal : ProposalRecord) (place : CommandPlace) : Except Thrown SubmissionRecheckSnapshot → Prop
  | .ok recheck => place = .rechecked proposal recheck
  | .error _ => place = .begun

theorem submitRechecked_keeps (handling : Handling) (proposal : ProposalRecord)
    (priorEvidence : List LiveOrderApprovalEvidenceSnapshot) (recheck : SubmissionRecheckSnapshot)
    (hconfig : handling.config = config) :
    Keeps (approvalMonitor config) Truthful (.rechecked proposal recheck)
      (submitRechecked handling proposal priorEvidence recheck) := by
  unfold submitRechecked
  cases hdecision : evaluateLiveOrderApprovalSubmissionRecheck proposal.forRecheck handling.config recheck with
  | refused violations => exact givenUp_keeps handling proposal priorEvidence rfl rfl
  | accepted => exact recordRecheck_keeps handling proposal priorEvidence hconfig (hconfig ▸ hdecision)

theorem submitApproved_keeps (handling : Handling) (proposal : ProposalRecord)
    (priorEvidence : List LiveOrderApprovalEvidenceSnapshot) (hconfig : handling.config = config) :
    Keeps (approvalMonitor config) Truthful .begun (submitApprovedProposal handling proposal priorEvidence) := by
  have hask : Keeps (approvalMonitor config) (AfterRecheck proposal) .begun
      (askPort (.getSubmissionRecheckSnapshot proposal handling.occurredAt)) := by
    refine keeps_call rfl fun reply => ?_
    cases reply with
    | ok recheck => rfl
    | error e => rfl
  refine answered_keeps hask (fun place' recheck hplace => ?_) (fun place' _ hplace => ?_)
  · obtain rfl : place' = .rechecked proposal recheck := hplace
    exact submitRechecked_keeps handling proposal priorEvidence recheck hconfig
  · obtain rfl : place' = .begun := hplace
    exact givenUp_keeps handling proposal priorEvidence rfl rfl

/-- a transition that submits nothing, and what follows from its answer -/
theorem moved_keeps (handling : Handling) (proposal : ProposalRecord) {toStatus : LiveOrderProposalStatus}
    (evidenceKind : LiveOrderApprovalEvidenceKind) (reasonCode : String) (hstatus : toStatus ≠ .submitted)
    {f : ProposalWriteResult → Approving CommandResult}
    (hf : ∀ recorded, Keeps (approvalMonitor config) Truthful .begun (f recorded)) :
    Keeps (approvalMonitor config) Truthful .begun
      (recordStatusTransition handling proposal toStatus evidenceKind reasonCode noDetails >>= f) := by
  refine keeps_bind (transition_keeps handling proposal evidenceKind reasonCode noDetails fun h => absurd h hstatus)
    (fun place' recorded hplace => ?_) (fun place' _ hplace => ?_)
  · obtain rfl := hplace
    exact hf recorded
  · obtain rfl := hplace
    rfl

theorem reject_keeps (handling : Handling) (proposal : ProposalRecord) :
    Keeps (approvalMonitor config) Truthful .begun (rejectProposal handling proposal) := by
  refine moved_keeps handling proposal _ _ (by decide) fun recorded => ?_
  cases recorded with
  | refused refusal => exact keeps_pure rfl
  | recorded moved evidence =>
    refine audited_keeps evidence fun audited => ?_
    cases audited with
    | true => exact keeps_pure rfl
    | false => exact keeps_pure rfl

theorem expire_keeps (handling : Handling) (proposal : ProposalRecord) :
    Keeps (approvalMonitor config) Truthful .begun (expireProposal handling proposal) := by
  unfold expireProposal
  by_cases hclosed : proposal.status ≠ .proposed ∧ proposal.status ≠ .approved
  · rw [if_pos hclosed]
    exact keeps_pure rfl
  · rw [if_neg hclosed]
    refine moved_keeps handling proposal _ _ (by decide) fun recorded => ?_
    cases recorded with
    | refused refusal => exact keeps_pure rfl
    | recorded moved evidence =>
      refine audited_keeps evidence fun audited => ?_
      cases audited with
      | true => exact keeps_pure rfl
      | false => exact keeps_pure rfl

theorem approve_keeps (handling : Handling) (proposal : ProposalRecord) (hconfig : handling.config = config) :
    Keeps (approvalMonitor config) Truthful .begun (approveAndSubmitProposal handling proposal) := by
  refine moved_keeps handling proposal _ _ (by decide) fun recorded => ?_
  cases recorded with
  | refused refusal => exact keeps_pure rfl
  | recorded approved evidence =>
    refine audited_keeps evidence fun audited => ?_
    cases audited with
    | true => exact submitApproved_keeps handling approved _ hconfig
    | false => exact givenUp_keeps handling approved _ rfl rfl

theorem resume_keeps (handling : Handling) (proposal : ProposalRecord) (hconfig : handling.config = config) :
    Keeps (approvalMonitor config) Truthful .begun (resumeApprovedProposal handling proposal) := by
  refine audited_keeps _ fun audited => ?_
  cases audited with
  | true => exact submitApproved_keeps handling proposal _ hconfig
  | false => exact givenUp_keeps handling proposal _ rfl rfl

theorem handleProposal_keeps (handling : Handling) (command : CommandName) (proposal : ProposalRecord)
    (hconfig : handling.config = config) :
    Keeps (approvalMonitor config) Truthful .begun (handleProposal handling command proposal) := by
  unfold handleProposal
  by_cases hexpired : isProposalExpired proposal handling.occurredAt = true
  · rw [if_pos hexpired]
    exact expire_keeps handling proposal
  rw [if_neg hexpired]
  by_cases hresume : proposal.status = .approved ∧ command = .approve
  · rw [if_pos hresume]
    exact resume_keeps handling proposal hconfig
  rw [if_neg hresume]
  by_cases hclosed : proposal.status ≠ .proposed
  · rw [if_pos hclosed]
    exact keeps_pure rfl
  rw [if_neg hclosed]
  cases command with
  | approve => exact approve_keeps handling proposal hconfig
  | reject => exact reject_keeps handling proposal
  | other => exact keeps_pure rfl

/-- **What a command asks for.** It asks the broker only after an accepted recheck, its record and a reservation, once,
and its result says so. -/
theorem command_keeps (config : LiveManualApprovalConfig) (input : CommandInput) :
    Keeps (approvalMonitor config) Truthful .begun (handleCommand config input) := by
  unfold handleCommand
  by_cases hdisabled : config.enabled = false
  · simp only [if_pos hdisabled]
    exact keeps_pure rfl
  simp only [if_neg hdisabled]
  refine keeps_call_bind trivial (fun found => ?_) fun _ => rfl
  cases found with
  | none => exact keeps_pure rfl
  | some proposal => exact handleProposal_keeps _ _ proposal rfl

end Programs

end SeeMirai.Approval
