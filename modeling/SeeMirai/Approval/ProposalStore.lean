/-
Proposals of live orders and the store that keeps them: the state machine of a proposal
(domain/live-order-approval/state-machine.ts), and the store with its compare-and-set writes and the reservations of the
daily approval budget (runtime/live-order-approval-runtime/memory-store.ts).

A stored proposal is a JSON value, so that cloning it changes nothing. Reserved amounts are kept as numbers: the source
prints them and reads them again. Their sums are rounded to the 20 digits of decimal.js. Of an evidence snapshot the
copies of the proposal's terms, the actor and metadata that nothing reads are left out.

Results:
- `ProposalStore.recordTransition_cases` / `appendEvidence_cases` / `reserve_cases`: what a write may do.
- `totalReserved_within`: what decimal.js finds within a limit is within it exactly, but for the roundings.
-/
import SeeMirai.Lib.Digest
import SeeMirai.Approval.Fingerprint
import SeeMirai.Approval.SubmissionRecheck
import SeeMirai.Lib.InsertionMap
import SeeMirai.Lib.RoundedSums

namespace SeeMirai.Approval

/-! ## Proposals -/

/-- a proposal with its status; `strategyId` is `metadata.strategy_id` where that is a text -/
structure ProposalRecord where
  contract : LiveOrderProposalContract
  status : LiveOrderProposalStatus
  strategyId : Option String

def ProposalRecord.proposalId (proposal : ProposalRecord) : String := proposal.contract.proposalId

/-- the part of a proposal that the recheck reads -/
def ProposalRecord.forRecheck (proposal : ProposalRecord) : LiveOrderProposal where
  status := proposal.status
  market := proposal.contract.market
  orderType := proposal.contract.orderType
  requestedPrice := proposal.contract.requestedPrice
  requestedVolume := proposal.contract.requestedVolume
  expectedNotionalKrw := proposal.contract.expectedNotionalKrw
  idempotencyKey := proposal.contract.idempotencyKey
  riskDecisionId := proposal.contract.riskDecisionId

def allowedLiveOrderProposalTransitions : LiveOrderProposalStatus → List LiveOrderProposalStatus
  | .proposed => [.approved, .rejected, .expired]
  | .approved => [.submitted, .expired, .submissionFailed]
  | .rejected => []
  | .expired => []
  | .submitted => []
  | .submissionFailed => []

/-- `accepted` of the decision -/
def evaluateLiveOrderProposalTransition (fromStatus toStatus : LiveOrderProposalStatus) : Bool :=
  if fromStatus = toStatus then false else toStatus ∈ allowedLiveOrderProposalTransitions fromStatus

/-- the approval was recorded at some time -/
def LiveOrderProposalStatus.pastApproval : LiveOrderProposalStatus → Bool
  | .proposed => false
  | .rejected => false
  | _ => true

/-- an approval is never taken back -/
theorem pastApproval_kept {fromStatus toStatus : LiveOrderProposalStatus}
    (h : evaluateLiveOrderProposalTransition fromStatus toStatus = true) (hpast : fromStatus.pastApproval = true) :
    toStatus.pastApproval = true := by
  revert h hpast
  cases fromStatus <;> cases toStatus <;> decide

/-! ## Evidence -/

inductive LiveOrderApprovalEvidenceKind where
  | proposalCreated
  | approvalRecorded
  | rejectionRecorded
  | expirationRecorded
  | submissionRecheckPassed
  | brokerSubmissionRecorded
  | submissionFailureRecorded
deriving DecidableEq, Repr

/-- why a submission was given up: what the recheck reports, or a code of the runtime -/
inductive SubmissionViolation where
  | recheck (violation : SubmissionRecheckViolation)
  | runtime (code : String)
deriving DecidableEq, Repr

structure LiveOrderApprovalEvidenceSnapshot where
  evidenceKind : LiveOrderApprovalEvidenceKind
  proposalId : String
  proposalStatus : LiveOrderProposalStatus
  proposalFingerprint : String
  occurredAt : String
  reasonCode : String
  brokerOrderId : Option String
  violations : List SubmissionViolation
  /-- `broker_submission_state: "uncertain"` -/
  brokerSubmissionUncertain : Bool
deriving DecidableEq, Repr

/-! ## The store -/

structure ProposalStore where
  proposals : InsertionMap String ProposalRecord
  evidence : InsertionMap String (List LiveOrderApprovalEvidenceSnapshot)
  dailyBudgetReservations : InsertionMap String ℚ

/-- `createInMemoryLiveOrderApprovalProposalStore` -/
def createProposalStore (proposals : List ProposalRecord) : ProposalStore where
  proposals := proposals.foldl (fun map proposal => map.set proposal.proposalId proposal) InsertionMap.empty
  evidence := proposals.foldl (fun map proposal => map.set proposal.proposalId []) InsertionMap.empty
  dailyBudgetReservations := InsertionMap.empty

/-- why a write is refused -/
inductive ProposalRefusal where
  | notFound
  | statusMismatch (currentStatus : LiveOrderProposalStatus)
  | fingerprintMismatch (currentFingerprint : String)
deriving DecidableEq

inductive ProposalWriteResult where
  | recorded (proposal : ProposalRecord) (evidence : LiveOrderApprovalEvidenceSnapshot)
  | refused (refusal : ProposalRefusal)

inductive BudgetReservationResult where
  | recorded (proposal : ProposalRecord) (reservedNotionalKrw : ℚ)
  | proposalAlreadyReserved (reservedNotionalKrw : ℚ)
  | refused (refusal : ProposalRefusal)
  /-- the total is `none` where it is `NaN` -/
  | dailyBudgetExceeded (reservedNotionalKrw : Option ℚ) (dailyApprovedNotionalLimitKrw : String)

structure RecordTransitionInput where
  proposalId : String
  expectedStatus : LiveOrderProposalStatus
  expectedFingerprint : String
  toStatus : LiveOrderProposalStatus
  evidence : LiveOrderApprovalEvidenceSnapshot

structure AppendEvidenceInput where
  proposalId : String
  expectedStatus : LiveOrderProposalStatus
  expectedFingerprint : String
  evidence : LiveOrderApprovalEvidenceSnapshot

structure ReserveDailyBudgetInput where
  proposalId : String
  expectedStatus : LiveOrderProposalStatus
  expectedFingerprint : String
  reserveNotionalKrw : ℚ
  dailyApprovedNotionalUsedKrw : String
  dailyApprovedNotionalLimitKrw : String

/-- each sum is rounded -/
def sumReservations (reservations : InsertionMap String ℚ) : ℚ := roundedSum 20 0 reservations.values

theorem assocSet_of_get_none {α : Type} {entries : List (String × α)} {k : String} {v : α}
    (h : assocGet entries k = none) : assocSet entries k v = entries ++ [(k, v)] := by
  induction entries with
  | nil => rfl
  | cons e es ih =>
    rw [assocGet] at h
    split_ifs at h with hk
    rw [assocSet, if_neg hk, ih h]
    rfl

/-- a new entry comes last -/
theorem values_set_of_get_none {α : Type} {map : InsertionMap String α} {k : String} {v : α} (h : map.get k = none) :
    (map.set k v).values = map.values ++ [v] := by
  unfold InsertionMap.values
  rw [show (map.set k v).entries = map.entries ++ [(k, v)] from assocSet_of_get_none h, List.map_append]
  rfl

theorem keys_set_of_get_none {α : Type} {map : InsertionMap String α} {k : String} {v : α} (h : map.get k = none) :
    (map.set k v).keys = map.keys ++ [k] := by
  unfold InsertionMap.keys
  rw [show (map.set k v).entries = map.entries ++ [(k, v)] from assocSet_of_get_none h, List.map_append]
  rfl

namespace ProposalStore

def findById (store : ProposalStore) (proposalId : String) : Option ProposalRecord := store.proposals.get proposalId

def evidenceOf (store : ProposalStore) (proposalId : String) : List LiveOrderApprovalEvidenceSnapshot :=
  (store.evidence.get proposalId).getD []

/-- the row of evidence is added to its proposal's -/
def withEvidence (store : ProposalStore) (proposalId : String) (row : LiveOrderApprovalEvidenceSnapshot) :
    ProposalStore :=
  { store with evidence := store.evidence.set proposalId (store.evidenceOf proposalId ++ [row]) }

section Writes

variable [Host] [DateText] [Digest]

def createLiveOrderProposalFingerprint (proposal : LiveOrderProposalContract) : String :=
  Digest.sha256 (fingerprintText proposal)

/-- the comparisons that every write begins with -/
def expect (store : ProposalStore) (proposalId : String) (expectedStatus : LiveOrderProposalStatus)
    (expectedFingerprint : String) : Except ProposalRefusal ProposalRecord :=
  match store.findById proposalId with
  | none => .error .notFound
  | some proposal =>
    if proposal.status ≠ expectedStatus then .error (.statusMismatch proposal.status)
    else if createLiveOrderProposalFingerprint proposal.contract ≠ expectedFingerprint then
      .error (.fingerprintMismatch (createLiveOrderProposalFingerprint proposal.contract))
    else .ok proposal

def recordTransition (store : ProposalStore) (input : RecordTransitionInput) : ProposalWriteResult × ProposalStore :=
  match store.expect input.proposalId input.expectedStatus input.expectedFingerprint with
  | .error refusal => (.refused refusal, store)
  | .ok proposal =>
    let updated := { proposal with status := input.toStatus }
    let moved := { store with proposals := store.proposals.set input.proposalId updated }
    (.recorded updated input.evidence, moved.withEvidence input.proposalId input.evidence)

def appendEvidence (store : ProposalStore) (input : AppendEvidenceInput) : ProposalWriteResult × ProposalStore :=
  match store.expect input.proposalId input.expectedStatus input.expectedFingerprint with
  | .error refusal => (.refused refusal, store)
  | .ok proposal => (.recorded proposal input.evidence, store.withEvidence input.proposalId input.evidence)

/-- what is used and reserved with the new amount, where all of it can be read -/
def nextReserved (store : ProposalStore) (input : ReserveDailyBudgetInput) : Option ℚ :=
  (parseGuardDecimal input.dailyApprovedNotionalUsedKrw).map fun used =>
    decimalRound (decimalRound (used + sumReservations store.dailyBudgetReservations) + input.reserveNotionalKrw)

def reserveDailyApprovalBudget (store : ProposalStore) (input : ReserveDailyBudgetInput) :
    BudgetReservationResult × ProposalStore :=
  match store.expect input.proposalId input.expectedStatus input.expectedFingerprint with
  | .error refusal => (.refused refusal, store)
  | .ok proposal =>
    match store.dailyBudgetReservations.get input.proposalId with
    | some alreadyReserved => (.proposalAlreadyReserved alreadyReserved, store)
    | none =>
      let next := store.nextReserved input
      let fits := next.any fun total =>
        (parseGuardDecimal input.dailyApprovedNotionalLimitKrw).any fun limit => total ≤ limit
      if input.reserveNotionalKrw ≤ 0 ∨ fits = false then
        (.dailyBudgetExceeded next input.dailyApprovedNotionalLimitKrw, store)
      else
        (.recorded proposal input.reserveNotionalKrw,
          { store with
            dailyBudgetReservations := store.dailyBudgetReservations.set input.proposalId input.reserveNotionalKrw })

/-! ## What a write may do -/

variable {store : ProposalStore}

theorem expect_ok {proposalId : String} {expectedStatus : LiveOrderProposalStatus} {expectedFingerprint : String}
    {proposal : ProposalRecord} (h : store.expect proposalId expectedStatus expectedFingerprint = .ok proposal) :
    store.findById proposalId = some proposal ∧ proposal.status = expectedStatus ∧
      createLiveOrderProposalFingerprint proposal.contract = expectedFingerprint := by
  unfold expect at h
  cases hfound : store.findById proposalId with
  | none =>
    rw [hfound] at h
    cases h
  | some found =>
    rw [hfound] at h
    simp only [ne_eq] at h
    split_ifs at h with hstatus hfingerprint
    cases h
    exact ⟨rfl, hstatus, hfingerprint⟩

/-- a transition is refused, or it moves the proposal that was expected -/
theorem recordTransition_cases (store : ProposalStore) (input : RecordTransitionInput) :
    ((store.recordTransition input).2 = store ∧ ∃ refusal, (store.recordTransition input).1 = .refused refusal) ∨
      ∃ proposal, store.findById input.proposalId = some proposal ∧ proposal.status = input.expectedStatus ∧
        createLiveOrderProposalFingerprint proposal.contract = input.expectedFingerprint ∧
        (store.recordTransition input).1 = .recorded { proposal with status := input.toStatus } input.evidence ∧
        (store.recordTransition input).2.proposals =
          store.proposals.set input.proposalId { proposal with status := input.toStatus } ∧
        (store.recordTransition input).2.evidence = (store.withEvidence input.proposalId input.evidence).evidence ∧
        (store.recordTransition input).2.dailyBudgetReservations = store.dailyBudgetReservations := by
  unfold recordTransition
  cases hexpected : store.expect input.proposalId input.expectedStatus input.expectedFingerprint with
  | error refusal => exact Or.inl ⟨rfl, refusal, rfl⟩
  | ok proposal =>
    obtain ⟨hfound, hstatus, hfingerprint⟩ := expect_ok hexpected
    exact Or.inr ⟨proposal, hfound, hstatus, hfingerprint, rfl, rfl, rfl, rfl⟩

theorem appendEvidence_cases (store : ProposalStore) (input : AppendEvidenceInput) :
    ((store.appendEvidence input).2 = store ∧ ∃ refusal, (store.appendEvidence input).1 = .refused refusal) ∨
      ∃ proposal, store.findById input.proposalId = some proposal ∧ proposal.status = input.expectedStatus ∧
        createLiveOrderProposalFingerprint proposal.contract = input.expectedFingerprint ∧
        (store.appendEvidence input).1 = .recorded proposal input.evidence ∧
        (store.appendEvidence input).2 = store.withEvidence input.proposalId input.evidence := by
  unfold appendEvidence
  cases hexpected : store.expect input.proposalId input.expectedStatus input.expectedFingerprint with
  | error refusal => exact Or.inl ⟨rfl, refusal, rfl⟩
  | ok proposal =>
    obtain ⟨hfound, hstatus, hfingerprint⟩ := expect_ok hexpected
    exact Or.inr ⟨proposal, hfound, hstatus, hfingerprint, rfl, rfl⟩

/-- a reservation is refused, or it is the first of its proposal and fits the budget -/
theorem reserve_cases (store : ProposalStore) (input : ReserveDailyBudgetInput) :
    ((store.reserveDailyApprovalBudget input).2 = store ∧
        ∀ proposal amount, (store.reserveDailyApprovalBudget input).1 ≠ .recorded proposal amount) ∨
      ∃ proposal used limit, store.findById input.proposalId = some proposal ∧
        proposal.status = input.expectedStatus ∧
        createLiveOrderProposalFingerprint proposal.contract = input.expectedFingerprint ∧
        store.dailyBudgetReservations.get input.proposalId = none ∧ 0 < input.reserveNotionalKrw ∧
        parseGuardDecimal input.dailyApprovedNotionalUsedKrw = some used ∧
        parseGuardDecimal input.dailyApprovedNotionalLimitKrw = some limit ∧
        decimalRound (decimalRound (used + sumReservations store.dailyBudgetReservations) + input.reserveNotionalKrw)
          ≤ limit ∧
        store.reserveDailyApprovalBudget input = (.recorded proposal input.reserveNotionalKrw,
          { store with dailyBudgetReservations :=
              store.dailyBudgetReservations.set input.proposalId input.reserveNotionalKrw }) := by
  unfold reserveDailyApprovalBudget
  cases hexpected : store.expect input.proposalId input.expectedStatus input.expectedFingerprint with
  | error refusal => exact Or.inl ⟨rfl, fun _ _ h => nomatch h⟩
  | ok proposal =>
    obtain ⟨hfound, hstatus, hfingerprint⟩ := expect_ok hexpected
    cases hreserved : store.dailyBudgetReservations.get input.proposalId with
    | some amount => exact Or.inl ⟨rfl, fun _ _ h => nomatch h⟩
    | none =>
      simp only
      split_ifs with hexceeds
      · exact Or.inl ⟨rfl, fun _ _ h => nomatch h⟩
      · rw [not_or, not_le, Bool.not_eq_false] at hexceeds
        obtain ⟨hpositive, hfits⟩ := hexceeds
        obtain ⟨total, htotal, hfits⟩ := (Option.any_eq_true _ _).1 hfits
        obtain ⟨limit, hlimit, hfits⟩ := (Option.any_eq_true _ _).1 hfits
        obtain ⟨used, hused, rfl⟩ := Option.map_eq_some_iff.1 htotal
        exact Or.inr ⟨proposal, used, limit, hfound, hstatus, hfingerprint, trivial, hpositive, hused, hlimit,
          of_decide_eq_true hfits, rfl⟩

end Writes

end ProposalStore

/-! ## The budget -/

/-- what is reserved, exactly -/
def totalReserved (reservations : InsertionMap String ℚ) : ℚ := reservations.values.sum

/-- the part of an amount that is left after a number of roundings, at least -/
def leftAfter (roundings : ℕ) : ℚ := (1 - halfUnit 20) ^ roundings

theorem leftAfter_pos (roundings : ℕ) : 0 < leftAfter roundings := by
  unfold leftAfter
  exact pow_pos (by linarith [halfUnit_lt_one (show 0 < 20 by norm_num)]) _

theorem leftAfter_succ (roundings : ℕ) : leftAfter (roundings + 1) = leftAfter roundings * (1 - halfUnit 20) :=
  pow_succ _ _

theorem leftAfter_le_one (roundings : ℕ) : leftAfter roundings ≤ 1 := by
  unfold leftAfter
  refine pow_le_one₀ (by linarith [halfUnit_lt_one (show 0 < 20 by norm_num)]) ?_
  have hunit : 0 ≤ halfUnit 20 := by unfold halfUnit; positivity
  linarith

/-- **Budget.** A sum that decimal.js finds within a limit is within it exactly, but for the roundings. -/
theorem totalReserved_within {reservations : InsertionMap String ℚ} {proposalId : String} {used amount limit : ℚ}
    (hreserved : ∀ value ∈ reservations.values, 0 < value) (hnew : reservations.get proposalId = none)
    (hused : 0 ≤ used) (hamount : 0 < amount)
    (h : decimalRound (decimalRound (used + sumReservations reservations) + amount) ≤ limit) :
    (used + totalReserved (reservations.set proposalId amount)) * leftAfter (reservations.values.length + 2) ≤
      limit := by
  have hnonneg : ∀ value ∈ reservations.values, 0 ≤ value := fun value hvalue => (hreserved value hvalue).le
  have hsum : totalReserved reservations * leftAfter reservations.values.length ≤ sumReservations reservations := by
    have hle := le_roundedSum (show 0 < 20 by norm_num) le_rfl hnonneg
    rwa [zero_add] at hle
  have hsumPos : 0 ≤ sumReservations reservations := roundedSum_nonneg (by norm_num) hnonneg
  have hexact : 0 ≤ totalReserved reservations := List.sum_nonneg hnonneg
  have hfactor : (0 : ℚ) ≤ 1 - halfUnit 20 := by linarith [halfUnit_lt_one (show 0 < 20 by norm_num)]
  have hone : (1 : ℚ) - halfUnit 20 ≤ 1 := by
    have hunit : 0 ≤ halfUnit 20 := by unfold halfUnit; positivity
    linarith
  have hleft := leftAfter_le_one reservations.values.length
  have hnext : totalReserved (reservations.set proposalId amount) = totalReserved reservations + amount := by
    unfold totalReserved
    rw [values_set_of_get_none hnew, List.sum_append, List.sum_singleton]
  have hinner := le_roundSignificant 20 (add_nonneg hused hsumPos)
  have hrounded : 0 ≤ decimalRound (used + sumReservations reservations) :=
    decimalRound_nonneg (add_nonneg hused hsumPos)
  have houter := le_roundSignificant 20 (add_nonneg hrounded hamount.le)
  rw [hnext, leftAfter_succ, leftAfter_succ]
  have hpos := (leftAfter_pos reservations.values.length).le
  calc (used + (totalReserved reservations + amount))
        * (leftAfter reservations.values.length * (1 - halfUnit 20) * (1 - halfUnit 20))
      = ((used * leftAfter reservations.values.length
            + totalReserved reservations * leftAfter reservations.values.length) * (1 - halfUnit 20)
            + amount * (leftAfter reservations.values.length * (1 - halfUnit 20)))
          * (1 - halfUnit 20) := by ring
    _ ≤ ((used + sumReservations reservations) * (1 - halfUnit 20) + amount) * (1 - halfUnit 20) := by
        refine mul_le_mul_of_nonneg_right
          (add_le_add (mul_le_mul_of_nonneg_right (add_le_add ?_ hsum) hfactor) ?_) hfactor
        · exact mul_le_of_le_one_right hused hleft
        · exact mul_le_of_le_one_right hamount.le (mul_le_one₀ hleft hfactor hone)
    _ ≤ (decimalRound (used + sumReservations reservations) + amount) * (1 - halfUnit 20) :=
        mul_le_mul_of_nonneg_right (add_le_add hinner le_rfl) hfactor
    _ ≤ decimalRound (decimalRound (used + sumReservations reservations) + amount) := houter
    _ ≤ limit := h

end SeeMirai.Approval
