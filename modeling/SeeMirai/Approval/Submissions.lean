/-
Approval commands in every interleaving. Only the reservation of a proposal makes one command the submitter: whoever is
told that it recorded the reservation asks the broker, once, and nobody else does.

Results:
- `approvals_safe`: each proposal is submitted once at most, after its approval, an accepted recheck on record and its
  reservation, and the reservations keep the daily limit.
- `approvals_truthful`: what is rejected or still proposed was not submitted, what became submitted was, and a command
  says `brokerSubmitted` exactly where it asked the broker.
-/
import SeeMirai.Approval.CommandRuns

namespace SeeMirai.Approval

open Async

section Safety

variable [Host] [DateText] [Digest]

/-! ## What backs a submission -/

/-- the recheck accepts the proposal, is on record for it, and the stored proposal has the same fingerprint -/
structure Backed (config : LiveManualApprovalConfig) (shared : ApprovalShared) (proposal : ProposalRecord)
    (recheck : SubmissionRecheckSnapshot) : Prop where
  accepts : Accepts config proposal recheck
  stored : ∃ stored, shared.store.findById proposal.proposalId = some stored ∧
    stored.fingerprint = proposal.fingerprint
  witnessed : ∃ row ∈ shared.store.evidenceOf proposal.proposalId, row.evidenceKind = .submissionRecheckPassed ∧
    row.proposalFingerprint = proposal.fingerprint

/-- and its notional is reserved -/
structure Reserved (config : LiveManualApprovalConfig) (shared : ApprovalShared) (proposal : ProposalRecord)
    (recheck : SubmissionRecheckSnapshot) : Prop extends Backed config shared proposal recheck where
  reserved : ∃ amount, shared.store.dailyBudgetReservations.get proposal.proposalId = some amount ∧
    calculateLiveOrderApprovalSubmittedNotionalKrw proposal = some amount

/-- a submission is that of a proposal with all this -/
def Justified (config : LiveManualApprovalConfig) (shared : ApprovalShared) (submission : LiveOrderSubmission) : Prop :=
  ∃ proposal recheck submittedAt, submission = createOrderSubmissionFromLiveOrderProposal proposal submittedAt ∧
    Reserved config shared proposal recheck

/-- what the place of a command rests on -/
def Grounded (config : LiveManualApprovalConfig) (shared : ApprovalShared) : CommandPlace → Prop
  | .witnessed proposal recheck => Backed config shared proposal recheck
  | .reserved proposal recheck => Reserved config shared proposal recheck
  | .submitted proposal => ∃ e ∈ shared.submitted, e.2.proposalId = proposal.proposalId
  | _ => True

/-- what one request may do to all of it -/
structure Grows (shared shared' : ApprovalShared) : Prop where
  stored : ∀ id proposal, shared.store.findById id = some proposal → ∃ proposal',
    shared'.store.findById id = some proposal' ∧ proposal'.contract = proposal.contract
  evidence : ∀ id, ∀ row ∈ shared.store.evidenceOf id, row ∈ shared'.store.evidenceOf id
  reserved : ∀ id amount, shared.store.dailyBudgetReservations.get id = some amount →
    shared'.store.dailyBudgetReservations.get id = some amount
  submitted : ∀ e ∈ shared.submitted, e ∈ shared'.submitted

variable {config : LiveManualApprovalConfig} {start : ProposalStore} {shared shared' : ApprovalShared}

omit [Host] [DateText] [Digest] in
theorem Grows.refl (shared : ApprovalShared) : Grows shared shared :=
  ⟨fun _ proposal h => ⟨proposal, h, rfl⟩, fun _ _ h => h, fun _ _ h => h, fun _ h => h⟩

theorem Backed.grows {proposal : ProposalRecord} {recheck : SubmissionRecheckSnapshot}
    (h : Backed config shared proposal recheck) (hgrows : Grows shared shared') :
    Backed config shared' proposal recheck := by
  obtain ⟨stored, hstored, hfingerprint⟩ := h.stored
  obtain ⟨stored', hstored', hcontract⟩ := hgrows.stored _ stored hstored
  obtain ⟨row, hrow, hkind⟩ := h.witnessed
  refine ⟨h.accepts, ⟨stored', hstored', ?_⟩, row, hgrows.evidence _ row hrow, hkind⟩
  rw [← hfingerprint]
  unfold ProposalRecord.fingerprint
  rw [hcontract]

theorem Reserved.grows {proposal : ProposalRecord} {recheck : SubmissionRecheckSnapshot}
    (h : Reserved config shared proposal recheck) (hgrows : Grows shared shared') :
    Reserved config shared' proposal recheck := by
  obtain ⟨amount, hamount, hnotional⟩ := h.reserved
  exact ⟨h.toBacked.grows hgrows, amount, hgrows.reserved _ _ hamount, hnotional⟩

theorem Grounded.grows {place : CommandPlace} (h : Grounded config shared place) (hgrows : Grows shared shared') :
    Grounded config shared' place := by
  cases place with
  | witnessed proposal recheck => exact Backed.grows h hgrows
  | reserved proposal recheck => exact Reserved.grows h hgrows
  | submitted proposal =>
    obtain ⟨e, he, hid⟩ := h
    exact ⟨e, hgrows.submitted e he, hid⟩
  | begun => trivial
  | rechecked proposal recheck => trivial

theorem Justified.grows {submission : LiveOrderSubmission} (h : Justified config shared submission)
    (hgrows : Grows shared shared') : Justified config shared' submission := by
  obtain ⟨proposal, recheck, submittedAt, heq, hreserved⟩ := h
  exact ⟨proposal, recheck, submittedAt, heq, hreserved.grows hgrows⟩

omit [DateText] [Digest] in
/-- an accepted recheck read what was used that day -/
theorem Accepts.used {proposal : ProposalRecord} {recheck : SubmissionRecheckSnapshot}
    (h : Accepts config proposal recheck) :
    ∃ used, parseGuardDecimal recheck.dailyApprovedNotionalUsedKrw = some used ∧ 0 ≤ used := by
  have hnone := evaluate_accepted.1 h
  unfold recheckViolations at hnone
  simp only [List.append_eq_nil_iff, report_eq_nil] at hnone
  have hused := hnone.1.1.1.1.1.1.1.2
  obtain ⟨used, hread, hnonneg⟩ := (Option.any_eq_true _ _).1 hused
  exact ⟨used, hread, of_decide_eq_true hnonneg⟩

/-! ## What the store keeps -/

/-- statuses, reservations and what was submitted agree -/
structure StoreSound (config : LiveManualApprovalConfig) (start : ProposalStore) (shared : ApprovalShared) : Prop where
  /-- a reserved proposal was approved -/
  past : ∀ id amount, shared.store.dailyBudgetReservations.get id = some amount →
    ∃ proposal, shared.store.findById id = some proposal ∧ proposal.status.pastApproval = true
  /-- what became SUBMITTED was submitted -/
  answered : ∀ id proposal, shared.store.findById id = some proposal → proposal.status = .submitted →
    (∃ e ∈ shared.submitted, e.2.proposalId = id) ∨
      ∃ before, start.findById id = some before ∧ before.status = .submitted
  positive : ∀ value ∈ shared.store.dailyBudgetReservations.values, 0 < value
  budget : shared.store.dailyBudgetReservations.values ≠ [] → ∃ limit,
    parseGuardDecimal config.daily_approved_notional_limit_krw = some limit ∧ 0 ≤ shared.lastUsed ∧
      (shared.lastUsed + totalReserved shared.store.dailyBudgetReservations) *
        leftAfter (shared.store.dailyBudgetReservations.values.length + 1) ≤ limit

omit [DateText] [Digest] in
/-- the same statuses and reservations -/
theorem StoreSound.same (h : StoreSound config start shared)
    (hproposals : shared'.store.proposals = shared.store.proposals)
    (hreservations : shared'.store.dailyBudgetReservations = shared.store.dailyBudgetReservations)
    (hused : shared'.lastUsed = shared.lastUsed) (hsubmitted : ∀ e ∈ shared.submitted, e ∈ shared'.submitted) :
    StoreSound config start shared' := by
  have hfind : shared'.store.findById = shared.store.findById := by
    unfold ProposalStore.findById
    rw [hproposals]
  refine ⟨?_, ?_, ?_, ?_⟩
  · rw [hreservations, hfind]
    exact h.past
  · rw [hfind]
    intro id proposal hfound hstatus
    rcases h.answered id proposal hfound hstatus with ⟨e, he, hid⟩ | hbefore
    · exact Or.inl ⟨e, hsubmitted e he, hid⟩
    · exact Or.inr hbefore
  · rw [hreservations]
    exact h.positive
  · rw [hreservations, hused]
    exact h.budget

omit [Host] [DateText] [Digest] in
/-- a row of evidence more -/
theorem mem_evidenceOf_withEvidence {store : ProposalStore} {proposalId id : String}
    {row added : LiveOrderApprovalEvidenceSnapshot} (h : row ∈ store.evidenceOf id) :
    row ∈ (store.withEvidence proposalId added).evidenceOf id := by
  unfold ProposalStore.withEvidence ProposalStore.evidenceOf
  rw [InsertionMap.get_set]
  split_ifs with hid
  · subst hid
    exact List.mem_append_left _ h
  · exact h

theorem transition_grows (shared : ApprovalShared) (input : RecordTransitionInput) :
    Grows shared { shared with store := (shared.store.recordTransition input).2 } := by
  rcases ProposalStore.recordTransition_cases shared.store input with
    ⟨hsame, -⟩ | ⟨proposal, hfound, -, -, -, hproposals, hevidence, hreservations⟩
  · rw [hsame]
    exact Grows.refl shared
  · refine ⟨fun id other hother => ?_, fun id row hrow => ?_, fun id amount hamount => ?_, fun e he => he⟩
    · unfold ProposalStore.findById at hother hfound ⊢
      rw [hproposals, InsertionMap.get_set]
      split_ifs with hid
      · subst hid
        rw [hfound] at hother
        exact ⟨_, rfl, by rw [← Option.some.inj hother]⟩
      · exact ⟨other, hother, rfl⟩
    · unfold ProposalStore.evidenceOf at hrow ⊢
      rw [hevidence]
      exact mem_evidenceOf_withEvidence hrow
    · rw [hreservations]
      exact hamount

theorem append_grows (shared : ApprovalShared) (input : AppendEvidenceInput) :
    Grows shared { shared with store := (shared.store.appendEvidence input).2 } := by
  rcases ProposalStore.appendEvidence_cases shared.store input with
    ⟨hsame, -⟩ | ⟨proposal, hfound, -, -, -, hstore⟩
  · rw [hsame]
    exact Grows.refl shared
  · rw [hstore]
    exact ⟨fun id other hother => ⟨other, hother, rfl⟩, fun id row hrow => mem_evidenceOf_withEvidence hrow,
      fun _ _ h => h, fun _ h => h⟩

theorem transition_sound (h : StoreSound config start shared) {place : CommandPlace}
    (hgrounded : Grounded config shared place) {input : RecordTransitionInput}
    (hallowed : (approvalMonitor config).Allowed place (.recordTransition input)) :
    StoreSound config start { shared with store := (shared.store.recordTransition input).2 } := by
  obtain ⟨hlegal, hsubmits⟩ := hallowed
  rcases ProposalStore.recordTransition_cases shared.store input with
    ⟨hsame, -⟩ | ⟨proposal, hfound, hstatus, -, -, hproposals, -, hreservations⟩
  · rw [hsame]
    exact h
  · have hfind : ∀ id, (shared.store.recordTransition input).2.findById id =
        if input.proposalId = id then some { proposal with status := input.toStatus }
        else shared.store.findById id := by
      intro id
      unfold ProposalStore.findById
      rw [hproposals, InsertionMap.get_set]
    refine ⟨fun id amount hamount => ?_, fun id other hother hsubmitted => ?_, ?_, ?_⟩
    · rw [hreservations] at hamount
      obtain ⟨before, hbefore, hpast⟩ := h.past id amount hamount
      simp only [hfind]
      split_ifs with hid
      · subst hid
        rw [hfound] at hbefore
        obtain rfl := Option.some.inj hbefore
        exact ⟨_, rfl, pastApproval_kept hlegal (hstatus ▸ hpast)⟩
      · exact ⟨before, hbefore, hpast⟩
    · simp only [hfind] at hother
      split_ifs at hother with hid
      · subst hid
        obtain rfl := Option.some.inj hother
        obtain ⟨submitted, hplace, hsame⟩ := hsubmits hsubmitted
        rw [hplace] at hgrounded
        obtain ⟨e, he, heq⟩ := hgrounded
        exact Or.inl ⟨e, he, heq.trans hsame⟩
      · exact h.answered id other hother hsubmitted
    · rw [hreservations]
      exact h.positive
    · rw [hreservations]
      exact h.budget

theorem append_sound (h : StoreSound config start shared) (input : AppendEvidenceInput) :
    StoreSound config start { shared with store := (shared.store.appendEvidence input).2 } := by
  rcases ProposalStore.appendEvidence_cases shared.store input with
    ⟨hsame, -⟩ | ⟨proposal, -, -, -, -, hstore⟩
  · rw [hsame]
    exact h
  · rw [hstore]
    exact h.same rfl rfl rfl fun _ he => he

/-- a reservation that is recorded, or nothing -/
theorem reserving_cases (shared : ApprovalShared) (input : ReserveDailyBudgetInput) :
    (shared.reserving input = shared ∧
        ∀ proposal amount, (shared.store.reserveDailyApprovalBudget input).1 ≠ .recorded proposal amount) ∨
      ∃ proposal used limit, shared.store.findById input.proposalId = some proposal ∧
        proposal.status = input.expectedStatus ∧ proposal.fingerprint = input.expectedFingerprint ∧
        shared.store.dailyBudgetReservations.get input.proposalId = none ∧ 0 < input.reserveNotionalKrw ∧
        parseGuardDecimal input.dailyApprovedNotionalUsedKrw = some used ∧
        parseGuardDecimal input.dailyApprovedNotionalLimitKrw = some limit ∧
        decimalRound (decimalRound (used + sumReservations shared.store.dailyBudgetReservations) +
          input.reserveNotionalKrw) ≤ limit ∧
        shared.reserving input = { shared with
          store := { shared.store with
            dailyBudgetReservations :=
              shared.store.dailyBudgetReservations.set input.proposalId input.reserveNotionalKrw }
          lastUsed := used } := by
  rcases ProposalStore.reserve_cases shared.store input with
    ⟨hsame, hnot⟩ | ⟨proposal, used, limit, hfound, hstatus, hfingerprint, hnew, hpositive, hused, hlimit, hfits, hdone⟩
  · refine Or.inl ⟨?_, hnot⟩
    unfold ApprovalShared.reserving
    cases hdone : shared.store.reserveDailyApprovalBudget input with
    | mk result store =>
      rw [hdone] at hsame hnot
      obtain rfl : store = shared.store := hsame
      cases result with
      | recorded proposal amount => exact absurd rfl (hnot proposal amount)
      | proposalAlreadyReserved amount => rfl
      | refused refusal => rfl
      | dailyBudgetExceeded total limit => rfl
  · refine Or.inr ⟨proposal, used, limit, hfound, hstatus, hfingerprint, hnew, hpositive, hused, hlimit, hfits, ?_⟩
    unfold ApprovalShared.reserving
    rw [hdone, hused]
    rfl

theorem reserving_grows (shared : ApprovalShared) (input : ReserveDailyBudgetInput) :
    Grows shared (shared.reserving input) := by
  rcases reserving_cases shared input with
    ⟨hsame, -⟩ | ⟨proposal, used, limit, -, -, -, hnew, -, -, -, -, hnext⟩
  · rw [hsame]
    exact Grows.refl shared
  · rw [hnext]
    refine ⟨fun _ proposal h => ⟨proposal, h, rfl⟩, fun _ _ h => h, fun id amount hamount => ?_, fun _ h => h⟩
    have hne : input.proposalId ≠ id := fun heq => by
      rw [← heq, hnew] at hamount
      cases hamount
    exact (InsertionMap.get_set_ne _ _ hne).trans hamount

theorem reserving_sound (h : StoreSound config start shared) {place : CommandPlace}
    (hgrounded : Grounded config shared place) {input : ReserveDailyBudgetInput}
    (hallowed : (approvalMonitor config).Allowed place (.reserveDailyApprovalBudget input)) :
    StoreSound config start (shared.reserving input) := by
  obtain ⟨asked, recheck, rfl, -, -, hexpected, -, htold, hconfig⟩ := hallowed
  obtain ⟨told, htoldRead, hnonneg⟩ := (show Backed config shared asked recheck from hgrounded).accepts.used
  rcases reserving_cases shared input with
    ⟨hsame, -⟩ | ⟨proposal, used, limit, hfound, hstatus, -, hnew, hpositive, hused, hlimit, hfits, hnext⟩
  · rw [hsame]
    exact h
  · rw [htold, htoldRead] at hused
    obtain rfl := Option.some.inj hused
    rw [hconfig] at hlimit
    have hvalues := values_set_of_get_none (v := input.reserveNotionalKrw) hnew
    rw [hnext]
    refine ⟨fun id amount hamount => ?_, h.answered, fun value hvalue => ?_, fun _ => ⟨limit, hlimit, hnonneg, ?_⟩⟩
    · change (shared.store.dailyBudgetReservations.set _ _).get id = _ at hamount
      rw [InsertionMap.get_set] at hamount
      split_ifs at hamount with hid
      · subst hid
        exact ⟨proposal, hfound, by rw [hstatus, hexpected]; rfl⟩
      · exact h.past id amount hamount
    · change value ∈ (shared.store.dailyBudgetReservations.set _ _).values at hvalue
      rw [hvalues] at hvalue
      rcases List.mem_append.1 hvalue with hvalue | hvalue
      · exact h.positive value hvalue
      · rw [List.mem_singleton.1 hvalue]
        exact hpositive
    · change (told + totalReserved (shared.store.dailyBudgetReservations.set _ _)) *
        leftAfter ((shared.store.dailyBudgetReservations.set _ _).values.length + 1) ≤ limit
      rw [hvalues, List.length_append]
      exact totalReserved_within h.positive hnew hnonneg hpositive hfits

/-! ## All commands together -/

/-- the commands, the store and the broker in step -/
structure ApprovalInv (config : LiveManualApprovalConfig) (start : ProposalStore) (shared : ApprovalShared)
    (places : ℕ → Option CommandPlace) : Prop where
  known : ∀ i place, places i = some place → i ∈ shared.started
  senders : ∀ e ∈ shared.submitted, e.1 ∈ shared.started
  grounded : ∀ i place, places i = some place → Grounded config shared place
  single : ∀ i j proposal recheck proposal' recheck', places i = some (.reserved proposal recheck) →
    places j = some (.reserved proposal' recheck') → proposal.proposalId = proposal'.proposalId → i = j
  unused : ∀ i proposal recheck, places i = some (.reserved proposal recheck) →
    ∀ e ∈ shared.submitted, e.2.proposalId ≠ proposal.proposalId
  own : ∀ i place, places i = some place → (place.hasSubmitted = true ↔ ∃ e ∈ shared.submitted, e.1 = i)
  once : (shared.submitted.map fun e => e.2.proposalId).Nodup
  justified : ∀ e ∈ shared.submitted, Justified config shared e.2
  store : StoreSound config start shared

variable {places : ℕ → Option CommandPlace}

omit [Host] [DateText] [Digest] in
/-- the place of one command after another's move -/
theorem update_cases {i j : ℕ} {place place' : CommandPlace}
    (h : Function.update places i (some place') j = some place) :
    (j = i ∧ place = place') ∨ (j ≠ i ∧ places j = some place) := by
  by_cases hj : j = i
  · subst hj
    rw [Function.update_self] at h
    exact Or.inl ⟨rfl, (Option.some.inj h).symm⟩
  · rw [Function.update_of_ne hj] at h
    exact Or.inr ⟨hj, h⟩

/-- one command moves on without asking the broker -/
theorem ApprovalInv.advance (h : ApprovalInv config start shared places) {i : ℕ} {place place' : CommandPlace}
    (hplace : places i = some place) (hgrows : Grows shared shared') (hstarted : shared'.started = shared.started)
    (hsubmitted : shared'.submitted = shared.submitted) (hstore : StoreSound config start shared')
    (hgrounded : Grounded config shared' place') (hflag : place'.hasSubmitted = place.hasSubmitted)
    (hfresh : ∀ proposal recheck, place' = .reserved proposal recheck → place = .reserved proposal recheck ∨
      shared.store.dailyBudgetReservations.get proposal.proposalId = none) :
    ApprovalInv config start shared' (Function.update places i (some place')) := by
  -- a reservation that is new has no other holder
  have hheld : ∀ j proposal recheck, places j = some (.reserved proposal recheck) →
      shared.store.dailyBudgetReservations.get proposal.proposalId ≠ none := by
    intro j proposal recheck hj hnone
    obtain ⟨amount, hamount, -⟩ := (show Reserved config shared proposal recheck from h.grounded j _ hj).reserved
    rw [hnone] at hamount
    cases hamount
  have hspent : ∀ proposalId, shared.store.dailyBudgetReservations.get proposalId = none →
      ∀ e ∈ shared.submitted, e.2.proposalId ≠ proposalId := by
    intro proposalId hnone e he hid
    obtain ⟨proposal, recheck, submittedAt, heq, hreserved⟩ := h.justified e he
    obtain ⟨amount, hamount, -⟩ := hreserved.reserved
    have hsame : proposal.proposalId = proposalId := by rw [← hid, heq]; rfl
    rw [hsame, hnone] at hamount
    cases hamount
  refine ⟨?_, ?_, ?_, ?_, ?_, ?_, ?_, ?_, hstore⟩
  · intro j other hj
    rw [hstarted]
    rcases update_cases hj with ⟨rfl, -⟩ | ⟨-, hj⟩
    · exact h.known j _ hplace
    · exact h.known j _ hj
  · rw [hsubmitted, hstarted]
    exact h.senders
  · intro j other hj
    rcases update_cases hj with ⟨-, rfl⟩ | ⟨-, hj⟩
    · exact hgrounded
    · exact (h.grounded j other hj).grows hgrows
  · intro j k proposal recheck proposal' recheck' hj hk hid
    rcases update_cases hj with ⟨rfl, hplace'⟩ | ⟨-, hother⟩
    · rcases update_cases hk with ⟨rfl, -⟩ | ⟨-, hother⟩
      · rfl
      rcases hfresh proposal recheck hplace'.symm with hold | hnone
      · exact h.single j k _ _ _ _ (hplace.trans (congrArg some hold)) hother hid
      · exact absurd (hid ▸ hnone) (hheld k _ _ hother)
    · rcases update_cases hk with ⟨rfl, hplace'⟩ | ⟨-, hk⟩
      · rcases hfresh proposal' recheck' hplace'.symm with hold | hnone
        · exact h.single j k _ _ _ _ hother (hplace.trans (congrArg some hold)) hid
        · exact absurd (hid ▸ hnone) (hheld j _ _ hother)
      · exact h.single j k _ _ _ _ hother hk hid
  · intro j proposal recheck hj
    rw [hsubmitted]
    rcases update_cases hj with ⟨rfl, hplace'⟩ | ⟨-, hj⟩
    · rcases hfresh proposal recheck hplace'.symm with hold | hnone
      · exact h.unused j proposal recheck (hplace.trans (congrArg some hold))
      · exact hspent _ hnone
    · exact h.unused j proposal recheck hj
  · intro j other hj
    rw [hsubmitted]
    rcases update_cases hj with ⟨rfl, rfl⟩ | ⟨-, hj⟩
    · rw [hflag]
      exact h.own j place hplace
    · exact h.own j other hj
  · rw [hsubmitted]
    exact h.once
  · rw [hsubmitted]
    intro e he
    exact (h.justified e he).grows hgrows

/-- the holder of a reservation asks the broker -/
theorem ApprovalInv.submit (h : ApprovalInv config start shared places) {i : ℕ} {proposal : ProposalRecord}
    {recheck : SubmissionRecheckSnapshot} {submittedAt : String}
    (hplace : places i = some (.reserved proposal recheck)) :
    ApprovalInv config start
      { shared with
        submitted := (i, createOrderSubmissionFromLiveOrderProposal proposal submittedAt) :: shared.submitted }
      (Function.update places i (some (.submitted proposal))) := by
  have hgrows : Grows shared { shared with
      submitted := (i, createOrderSubmissionFromLiveOrderProposal proposal submittedAt) :: shared.submitted } :=
    ⟨fun _ p h => ⟨p, h, rfl⟩, fun _ _ h => h, fun _ _ h => h, fun _ he => List.mem_cons_of_mem _ he⟩
  have hreserved : Reserved config shared proposal recheck := h.grounded i _ hplace
  refine ⟨?_, ?_, ?_, ?_, ?_, ?_, ?_, ?_, h.store.same rfl rfl rfl hgrows.submitted⟩
  · intro j other hj
    rcases update_cases hj with ⟨rfl, -⟩ | ⟨-, hj⟩
    · exact h.known j _ hplace
    · exact h.known j _ hj
  · intro e he
    rcases List.mem_cons.1 he with rfl | he
    · exact h.known i _ hplace
    · exact h.senders e he
  · intro j other hj
    rcases update_cases hj with ⟨-, rfl⟩ | ⟨-, hj⟩
    · exact ⟨_, List.mem_cons_self, rfl⟩
    · exact (h.grounded j other hj).grows hgrows
  · intro j k p r p' r' hj hk hid
    rcases update_cases hj with ⟨-, hne⟩ | ⟨-, hj⟩
    · cases hne
    rcases update_cases hk with ⟨-, hne⟩ | ⟨-, hk⟩
    · cases hne
    exact h.single j k _ _ _ _ hj hk hid
  · intro j p r hj e he
    rcases update_cases hj with ⟨-, hne⟩ | ⟨hji, hj⟩
    · cases hne
    rcases List.mem_cons.1 he with rfl | he
    · exact fun hid => hji (h.single j i _ _ _ _ hj hplace hid.symm)
    · exact h.unused j p r hj e he
  · intro j other hj
    rcases update_cases hj with ⟨rfl, rfl⟩ | ⟨hji, hj⟩
    · exact iff_of_true rfl ⟨_, List.mem_cons_self, rfl⟩
    · rw [h.own j other hj]
      constructor
      · intro hown
        obtain ⟨e, he, heq⟩ := hown
        exact ⟨e, List.mem_cons_of_mem _ he, heq⟩
      · intro hown
        obtain ⟨e, he, heq⟩ := hown
        rcases List.mem_cons.1 he with rfl | he
        · exact absurd heq.symm hji
        · exact ⟨e, he, heq⟩
  · rw [List.map_cons, List.nodup_cons]
    refine ⟨fun hmem => ?_, h.once⟩
    obtain ⟨e, he, hid⟩ := List.mem_map.1 hmem
    exact h.unused i proposal recheck hplace e he hid
  · intro e he
    rcases List.mem_cons.1 he with rfl | he
    · exact ⟨proposal, recheck, submittedAt, rfl, hreserved.grows hgrows⟩
    · exact (h.justified e he).grows hgrows

/-- a request is served -/
theorem ApprovalInv.serve (h : ApprovalInv config start shared places) {i : ℕ} {place : CommandPlace}
    {request : ApprovalRequest} {reply : Except Thrown (ApprovalReply request)} (hplace : places i = some place)
    (hallowed : (approvalMonitor config).Allowed place request)
    (hserves : ApprovalServes i shared request reply shared') :
    ApprovalInv config start shared'
      (Function.update places i (some ((approvalMonitor config).after place request reply))) := by
  have hgrounded := h.grounded i place hplace
  cases hserves with
  | findById proposalId =>
    exact h.advance hplace (Grows.refl shared) rfl rfl h.store hgrounded rfl fun _ _ heq => Or.inl heq
  | recordTransition input reply hreply =>
    have hafter : (approvalMonitor config).after place (.recordTransition input) reply = place := by
      cases reply <;> rfl
    rw [hafter]
    have hgrows := transition_grows shared input
    exact h.advance hplace hgrows rfl rfl (transition_sound h.store hgrounded hallowed) (hgrounded.grows hgrows) rfl
      fun _ _ heq => Or.inl heq
  | appendEvidence input reply hreply =>
    obtain ⟨proposal, recheck, rfl, haccepts, hid, hfingerprint, hkind, hprint⟩ := hallowed
    have hgrows := append_grows shared input
    have hsound := append_sound h.store input
    rcases reply with e | result
    · exact h.advance hplace hgrows rfl rfl hsound trivial rfl fun _ _ heq => by cases heq
    rcases result with ⟨moved, evidence⟩ | refusal
    · rcases ProposalStore.appendEvidence_cases shared.store input with
        ⟨-, refusal, hrefused⟩ | ⟨stored, hfound, -, hstored, -, hstore⟩
      · rw [hrefused] at hreply
        cases hreply _ rfl
      · refine h.advance hplace hgrows rfl rfl hsound ?_ rfl fun _ _ heq => by cases heq
        refine ⟨haccepts, ⟨stored, ?_, hstored.trans hfingerprint⟩, input.evidence, ?_, hkind, hprint⟩
        · rw [hstore, ← hid]
          exact hfound
        · rw [hstore, ← hid]
          unfold ProposalStore.withEvidence ProposalStore.evidenceOf
          rw [InsertionMap.get_set_self]
          exact List.mem_append_right _ (List.mem_singleton_self _)
    · exact h.advance hplace hgrows rfl rfl hsound trivial rfl fun _ _ heq => by cases heq
  | reserve input reply hreply =>
    have hsound := reserving_sound h.store hgrounded hallowed
    have hgrows := reserving_grows shared input
    have hstarted : (shared.reserving input).started = shared.started := by
      rcases reserving_cases shared input with ⟨hsame, -⟩ | ⟨_, _, _, -, -, -, -, -, -, -, -, hnext⟩
      · rw [hsame]
      · rw [hnext]
    have hsubmitted : (shared.reserving input).submitted = shared.submitted := by
      rcases reserving_cases shared input with ⟨hsame, -⟩ | ⟨_, _, _, -, -, -, -, -, -, -, -, hnext⟩
      · rw [hsame]
      · rw [hnext]
    obtain ⟨proposal, recheck, rfl, hnotional, hid, -, -, -, -⟩ := hallowed
    have hbacked := (show Backed config shared proposal recheck from hgrounded).grows hgrows
    rcases reply with e | result
    · exact h.advance hplace hgrows hstarted hsubmitted hsound hbacked rfl fun _ _ heq => by cases heq
    cases result with
    | recorded moved amount =>
      rcases reserving_cases shared input with
        ⟨-, hnot⟩ | ⟨stored, used, limit, -, -, -, hnew, -, -, -, -, hnext⟩
      · exact absurd (hreply _ rfl).symm (hnot moved amount)
      · refine h.advance hplace hgrows hstarted hsubmitted hsound ⟨hbacked, input.reserveNotionalKrw, ?_, hnotional⟩ rfl
          fun p r heq => ?_
        · rw [hnext, ← hid]
          exact InsertionMap.get_set_self _ _ _
        · cases heq
          exact Or.inr (hid ▸ hnew)
    | proposalAlreadyReserved amount =>
      exact h.advance hplace hgrows hstarted hsubmitted hsound hbacked rfl fun _ _ heq => by cases heq
    | refused refusal =>
      exact h.advance hplace hgrows hstarted hsubmitted hsound hbacked rfl fun _ _ heq => by cases heq
    | dailyBudgetExceeded total limit =>
      exact h.advance hplace hgrows hstarted hsubmitted hsound hbacked rfl fun _ _ heq => by cases heq
  | appendEvent evidence reply =>
    have hafter : (approvalMonitor config).after place (.appendEvent evidence) reply = place := by
      cases reply <;> rfl
    rw [hafter]
    exact h.advance hplace (Grows.refl shared) rfl rfl h.store hgrounded rfl fun _ _ heq => Or.inl heq
  | recheck proposal observedAt reply =>
    obtain rfl : place = .begun := hallowed
    cases reply with
    | ok recheck =>
      exact h.advance hplace (Grows.refl shared) rfl rfl h.store trivial rfl fun _ _ heq => by cases heq
    | error e => exact h.advance hplace (Grows.refl shared) rfl rfl h.store trivial rfl fun _ _ heq => by cases heq
  | submitOrder submission reply =>
    obtain ⟨proposal, recheck, submittedAt, rfl, rfl⟩ := hallowed
    exact h.submit hplace
  | throws request e hrequest =>
    have hafter : (approvalMonitor config).after place request (.error e) = place := by
      cases request with
      | submitOrder submission => exact absurd rfl (hrequest submission)
      | _ => rfl
    rw [hafter]
    exact h.advance hplace (Grows.refl shared) rfl rfl h.store hgrounded rfl fun _ _ heq => Or.inl heq

/-- a command that begins -/
theorem ApprovalInv.begin (h : ApprovalInv config start shared places) {i : ℕ} (hnew : i ∉ shared.started) :
    ApprovalInv config start { shared with started := i :: shared.started }
      (Function.update places i (some .begun)) := by
  have hgrows : Grows shared { shared with started := i :: shared.started } :=
    ⟨fun _ p h => ⟨p, h, rfl⟩, fun _ _ h => h, fun _ _ h => h, fun _ h => h⟩
  refine ⟨?_, ?_, ?_, ?_, ?_, ?_, h.once, fun e he => (h.justified e he).grows hgrows,
    h.store.same rfl rfl rfl fun _ he => he⟩
  · intro j other hj
    rcases update_cases hj with ⟨rfl, -⟩ | ⟨-, hj⟩
    · exact List.mem_cons_self
    · exact List.mem_cons_of_mem _ (h.known j other hj)
  · intro e he
    exact List.mem_cons_of_mem _ (h.senders e he)
  · intro j other hj
    rcases update_cases hj with ⟨-, rfl⟩ | ⟨-, hj⟩
    · trivial
    · exact (h.grounded j other hj).grows hgrows
  · intro j k p r p' r' hj hk hid
    rcases update_cases hj with ⟨-, hne⟩ | ⟨-, hj⟩
    · cases hne
    rcases update_cases hk with ⟨-, hne⟩ | ⟨-, hk⟩
    · cases hne
    exact h.single j k _ _ _ _ hj hk hid
  · intro j p r hj
    rcases update_cases hj with ⟨-, hne⟩ | ⟨-, hj⟩
    · cases hne
    exact h.unused j p r hj
  · intro j other hj
    rcases update_cases hj with ⟨rfl, rfl⟩ | ⟨-, hj⟩
    · refine iff_of_false (by simp [CommandPlace.hasSubmitted]) fun hown => ?_
      obtain ⟨e, he, heq⟩ := hown
      exact hnew (heq ▸ h.senders e he)
    · exact h.own j other hj

/-- a command that ends, or dies -/
theorem ApprovalInv.stop (h : ApprovalInv config start shared places) (i : ℕ) :
    ApprovalInv config start shared (Function.update places i none) := by
  have hkept : ∀ j place, Function.update places i none j = some place → places j = some place := by
    intro j place hj
    by_cases heq : j = i
    · subst heq
      rw [Function.update_self] at hj
      cases hj
    · rwa [Function.update_of_ne heq] at hj
  exact ⟨fun j place hj => h.known j place (hkept j place hj), h.senders,
    fun j place hj => h.grounded j place (hkept j place hj),
    fun j k _ _ _ _ hj hk => h.single j k _ _ _ _ (hkept j _ hj) (hkept k _ hk),
    fun j p r hj => h.unused j p r (hkept j _ hj), fun j place hj => h.own j place (hkept j place hj), h.once,
    h.justified, h.store⟩

theorem approvalInvariant (config : LiveManualApprovalConfig) (start : ProposalStore) :
    Invariant (approvalEnvironment config) (fun _ => approvalMonitor config) (fun _ => Truthful)
      (ApprovalInv config start) where
  start shared places i program shared' hinv _ hstarts := by
    obtain ⟨hnew, rfl, input, rfl⟩ := hstarts
    exact ⟨.begun, command_keeps config input, hinv.begin hnew⟩
  serve shared places i place request reply shared' hinv hplace hallowed hserves :=
    hinv.serve hplace hallowed hserves
  stop shared places i hinv := hinv.stop i
  drift shared places shared' _ hdrifts := hdrifts.elim

theorem approvalInv_start (config : LiveManualApprovalConfig) (proposals : List ProposalRecord) :
    ApprovalInv config (createProposalStore proposals) (approvalStart proposals).shared fun _ => none := by
  refine ⟨fun _ _ h => (by cases h), fun _ h => (by cases h), fun _ _ h => (by cases h),
    fun _ _ _ _ _ _ h => (by cases h),
    fun _ _ _ h => (by cases h), fun _ _ h => (by cases h), List.nodup_nil, fun _ h => (by cases h), ?_⟩
  refine ⟨fun id amount h => (by cases h), fun id proposal h hstatus => Or.inr ⟨proposal, h, hstatus⟩, ?_, ?_⟩
  · intro value hvalue
    cases hvalue
  · intro hnonempty
    exact absurd rfl hnonempty

/-- in every world some invariant places go with the commands under way -/
theorem approvals_inStep {config : LiveManualApprovalConfig} {proposals : List ProposalRecord}
    {w : World ℕ ApprovalShared ApprovalRequest ApprovalReply Thrown CommandResult}
    (hrun : Reaches (approvalEnvironment config) (approvalStart proposals) w) :
    InStep (fun _ => approvalMonitor config) (fun _ => Truthful)
      (ApprovalInv config (createProposalStore proposals)) w :=
  reaches_inStep (approvalInvariant config _) ⟨fun _ => none, approvalInv_start config proposals, fun _ => trivial⟩ hrun

/-! ## The results -/

/-- the notionals reserved for what was submitted -/
def submittedNotional (shared : ApprovalShared) : ℚ :=
  (shared.submitted.map fun e => (shared.store.dailyBudgetReservations.get e.2.proposalId).getD 0).sum

/-- what holds of all submissions at any time -/
structure ApprovalSafe (config : LiveManualApprovalConfig) (shared : ApprovalShared) : Prop where
  /-- no proposal is submitted twice -/
  once : (shared.submitted.map fun e => e.2.proposalId).Nodup
  /-- each submission is that of a proposal that was approved -/
  approved : ∀ e ∈ shared.submitted, ∃ proposal, shared.store.findById e.2.proposalId = some proposal ∧
    proposal.status.pastApproval = true
  /-- whose recheck was accepted and put on record, and whose notional is reserved -/
  justified : ∀ e ∈ shared.submitted, Justified config shared e.2
  /-- all of them, with what was used as the last reservation was told, are within the limit, but for roundings -/
  budget : shared.submitted ≠ [] → ∃ limit, parseGuardDecimal config.daily_approved_notional_limit_krw = some limit ∧
    (shared.lastUsed + submittedNotional shared) *
      leftAfter (shared.store.dailyBudgetReservations.values.length + 1) ≤ limit

omit [Host] [DateText] [Digest] in
/-- what is reserved under distinct keys is part of all that is reserved -/
theorem sum_get_le {reservations : InsertionMap String ℚ} (hpositive : ∀ value ∈ reservations.values, 0 < value)
    {keys : List String} (hkeys : keys.Nodup) (hreserved : ∀ key ∈ keys, ∃ amount, reservations.get key = some amount) :
    (keys.map fun key => (reservations.get key).getD 0).sum ≤ totalReserved reservations := by
  have hsubset : (keys.map fun key => (key, (reservations.get key).getD 0)) ⊆ reservations.entries := by
    intro entry hentry
    obtain ⟨key, hkey, rfl⟩ := List.mem_map.1 hentry
    obtain ⟨amount, hamount⟩ := hreserved key hkey
    rw [hamount]
    exact (InsertionMap.mem_iff_get _).2 hamount
  have hnodup : (keys.map fun key => (key, (reservations.get key).getD 0)).Nodup :=
    hkeys.map fun a b h => congrArg Prod.fst h
  obtain ⟨part, hperm, hpart⟩ := List.subperm_of_subset hnodup hsubset
  have hsum : (keys.map fun key => (reservations.get key).getD 0).sum = (part.map Prod.snd).sum := by
    rw [(hperm.map Prod.snd).sum_eq, List.map_map]
    rfl
  rw [hsum]
  refine (hpart.map Prod.snd).sum_le_sum fun value hvalue => ?_
  exact (hpositive value hvalue).le

/-- **Approvals.** However commands interleave: each proposal is submitted once at most, after its approval, an accepted
recheck on record and the reservation of its notional, and what is submitted stays within the daily limit. -/
theorem approvals_safe {config : LiveManualApprovalConfig} {proposals : List ProposalRecord}
    {w : World ℕ ApprovalShared ApprovalRequest ApprovalReply Thrown CommandResult}
    (hrun : Reaches (approvalEnvironment config) (approvalStart proposals) w) : ApprovalSafe config w.shared := by
  obtain ⟨places, h, -⟩ := approvals_inStep hrun
  have hreserved : ∀ e ∈ w.shared.submitted, ∃ amount,
      w.shared.store.dailyBudgetReservations.get e.2.proposalId = some amount := by
    intro e he
    obtain ⟨proposal, recheck, submittedAt, heq, hreserved⟩ := h.justified e he
    obtain ⟨amount, hamount, -⟩ := hreserved.reserved
    exact ⟨amount, by rw [heq]; exact hamount⟩
  refine ⟨h.once, fun e he => ?_, h.justified, fun hsome => ?_⟩
  · obtain ⟨amount, hamount⟩ := hreserved e he
    exact h.store.past _ amount hamount
  · have hvalues : w.shared.store.dailyBudgetReservations.values ≠ [] := by
      obtain ⟨e, he⟩ := List.exists_mem_of_ne_nil _ hsome
      obtain ⟨amount, hamount⟩ := hreserved e he
      exact List.ne_nil_of_mem (List.mem_map_of_mem ((InsertionMap.mem_iff_get _).2 hamount))
    obtain ⟨limit, hlimit, hused, hwithin⟩ := h.store.budget hvalues
    have hpart : submittedNotional w.shared ≤ totalReserved w.shared.store.dailyBudgetReservations := by
      have hsum := sum_get_le h.store.positive h.once fun key hkey => by
        obtain ⟨e, he, rfl⟩ := List.mem_map.1 hkey
        exact hreserved e he
      rw [List.map_map] at hsum
      exact hsum
    exact ⟨limit, hlimit, le_trans (mul_le_mul_of_nonneg_right (by linarith) (leftAfter_pos _).le) hwithin⟩

/-- what statuses and results say of the broker -/
structure ApprovalTruthful (start : ProposalStore) (w : World ℕ ApprovalShared ApprovalRequest ApprovalReply Thrown
    CommandResult) : Prop where
  /-- a proposal that is still proposed, or rejected, was not submitted -/
  closed : ∀ id proposal, w.shared.store.findById id = some proposal → proposal.status.pastApproval = false →
    ∀ e ∈ w.shared.submitted, e.2.proposalId ≠ id
  /-- a proposal that became SUBMITTED was submitted -/
  submitted : ∀ id proposal, w.shared.store.findById id = some proposal → proposal.status = .submitted →
    (∃ e ∈ w.shared.submitted, e.2.proposalId = id) ∨ ∃ before, start.findById id = some before ∧
      before.status = .submitted
  /-- a command that returned says whether it asked the broker -/
  returned : ∀ i result, w.running i = some (.returned result) →
    (result.brokerSubmitted = true ↔ ∃ e ∈ w.shared.submitted, e.1 = i)
  /-- a command that threw did not -/
  threw : ∀ i e, w.running i = some (.threw e) → ∀ sent ∈ w.shared.submitted, sent.1 ≠ i

/-- **Truth.** However commands interleave: no proposal that is proposed or rejected was handed to the broker, every one
that became SUBMITTED was, and each command says `brokerSubmitted` exactly where it asked the broker itself. -/
theorem approvals_truthful {config : LiveManualApprovalConfig} {proposals : List ProposalRecord}
    {w : World ℕ ApprovalShared ApprovalRequest ApprovalReply Thrown CommandResult}
    (hrun : Reaches (approvalEnvironment config) (approvalStart proposals) w) :
    ApprovalTruthful (createProposalStore proposals) w := by
  obtain ⟨places, h, hplaces⟩ := (approvals_inStep hrun).places
  refine ⟨fun id proposal hfound hstatus e he hid => ?_, h.store.answered, fun i result hreturned => ?_,
    fun i thrown hthrew sent hsent hown => ?_⟩
  · obtain ⟨asked, recheck, submittedAt, heq, hreserved⟩ := h.justified e he
    obtain ⟨amount, hamount, -⟩ := hreserved.reserved
    obtain ⟨stored, hstored, hpast⟩ := h.store.past _ amount hamount
    have hsame : asked.proposalId = id := by rw [← hid, heq]; rfl
    rw [hsame, hfound] at hstored
    obtain rfl := Option.some.inj hstored
    rw [hstatus] at hpast
    cases hpast
  · obtain ⟨place, hplace, hkeeps⟩ := hplaces i _ hreturned
    have htruthful : result.brokerSubmitted = place.hasSubmitted := hkeeps
    rw [htruthful]
    exact h.own i place hplace
  · obtain ⟨place, hplace, hkeeps⟩ := hplaces i _ hthrew
    have hquiet : place.hasSubmitted = false := hkeeps
    have hasked := (h.own i place hplace).2 ⟨sent, hsent, hown⟩
    rw [hquiet] at hasked
    cases hasked

end Safety

section Resumed

variable [Host] [DateText] [Digest]

/-! ## An approval that is submitted -/

theorem expect_self {store : ProposalStore} {proposal : ProposalRecord}
    (h : store.findById proposal.proposalId = some proposal) :
    store.expect proposal.proposalId proposal.status proposal.fingerprint = .ok proposal := by
  unfold ProposalStore.expect
  rw [h]
  simp [ProposalRecord.fingerprint]

theorem appendEvidence_found {store : ProposalStore} {proposal : ProposalRecord}
    (h : store.findById proposal.proposalId = some proposal) (evidence : LiveOrderApprovalEvidenceSnapshot) :
    store.appendEvidence ⟨proposal.proposalId, proposal.status, proposal.fingerprint, evidence⟩ =
      (.recorded proposal evidence, store.withEvidence proposal.proposalId evidence) := by
  unfold ProposalStore.appendEvidence
  rw [expect_self h]

/-- nothing is reserved yet, and the amount fits -/
theorem reserve_found {store : ProposalStore} {proposal : ProposalRecord} {amount : ℚ} {usedText limitText : String}
    (h : store.findById proposal.proposalId = some proposal)
    (hnew : store.dailyBudgetReservations = InsertionMap.empty) (hpositive : 0 < amount) {used limit : ℚ}
    (hused : parseGuardDecimal usedText = some used) (hlimit : parseGuardDecimal limitText = some limit)
    (hfits : decimalRound (decimalRound used + amount) ≤ limit) :
    (store.reserveDailyApprovalBudget
      ⟨proposal.proposalId, proposal.status, proposal.fingerprint, amount, usedText, limitText⟩).1 =
        .recorded proposal amount := by
  have hsum : sumReservations store.dailyBudgetReservations = 0 := by
    rw [hnew]
    rfl
  have hempty : store.dailyBudgetReservations.get proposal.proposalId = none := by
    rw [hnew]
    rfl
  have hnext : store.nextReserved ⟨proposal.proposalId, proposal.status, proposal.fingerprint, amount, usedText,
      limitText⟩ = some (decimalRound (decimalRound used + amount)) := by
    unfold ProposalStore.nextReserved
    dsimp only
    rw [hused, hsum, Option.map_some, add_zero]
  unfold ProposalStore.reserveDailyApprovalBudget
  rw [expect_self h, hempty, hnext]
  simp only [hlimit, Option.any_some]
  rw [if_neg]
  rw [not_or, not_le]
  exact ⟨hpositive, by simpa using hfits⟩

theorem resume_asks (handling : Handling) (proposal : ProposalRecord) (recheck : SubmissionRecheckSnapshot) :
    ∃ evidence audited, resumeApprovedProposal handling proposal =
      .awaiting (.appendEvent evidence) audited ∧ ∃ rechecked, audited (.ok ()) =
        .awaiting (.getSubmissionRecheckSnapshot proposal handling.occurredAt) rechecked ∧
          ∃ prior, rechecked (.ok recheck) = submitRechecked handling proposal prior recheck :=
  ⟨_, _, rfl, _, rfl, _, rfl⟩

theorem recheck_asks {handling : Handling} {proposal : ProposalRecord} {recheck : SubmissionRecheckSnapshot}
    (haccepts : Accepts handling.config proposal recheck)
    (prior : List LiveOrderApprovalEvidenceSnapshot) :
    ∃ appended, submitRechecked handling proposal prior recheck = .awaiting (.appendEvidence
        ⟨proposal.proposalId, .approved, proposal.fingerprint, createRecheckEvidence handling proposal⟩) appended ∧
      ∃ evidence audited, appended (.ok (.recorded proposal (createRecheckEvidence handling proposal))) =
          .awaiting (.appendEvent evidence) audited ∧
        ∃ prior', audited (.ok ()) = reserveAndSubmit handling proposal prior' recheck := by
  have haccepted : evaluateLiveOrderApprovalSubmissionRecheck proposal.forRecheck handling.config recheck = .accepted :=
    haccepts
  rw [submitRechecked, haccepted]
  exact ⟨_, rfl, _, _, rfl, _, rfl⟩

theorem reserve_asks (handling : Handling) {proposal : ProposalRecord} (recheck : SubmissionRecheckSnapshot)
    {notional : ℚ} (hnotional : calculateLiveOrderApprovalSubmittedNotionalKrw proposal = some notional)
    (prior : List LiveOrderApprovalEvidenceSnapshot) :
    ∃ reserved, reserveAndSubmit handling proposal prior recheck = .awaiting (.reserveDailyApprovalBudget
        ⟨proposal.proposalId, .approved, proposal.fingerprint, notional, recheck.dailyApprovedNotionalUsedKrw,
          handling.config.daily_approved_notional_limit_krw⟩) reserved ∧
      ∃ answered, reserved (.ok (.recorded proposal notional)) =
        .awaiting (.submitOrder (createOrderSubmissionFromLiveOrderProposal proposal handling.occurredAt)) answered :=
          by
  rw [reserveAndSubmit, hnotional]
  exact ⟨_, rfl, _, rfl⟩

theorem find_asks {config : LiveManualApprovalConfig} (henabled : config.enabled = true) (proposal : ProposalRecord)
    (command : CommandName) {occurredAt : String} (hoccurred : occurredAt ≠ "") (clockNow : String) :
    ∃ found, handleCommand config ⟨command, some proposal.proposalId, occurredAt, clockNow⟩ =
        .awaiting (.findById proposal.proposalId) found ∧
      found (.ok (some proposal)) = handleProposal ⟨config, occurredAt⟩ command proposal := by
  unfold handleCommand
  dsimp only
  rw [if_neg (by rw [henabled]; decide), if_neg hoccurred]
  exact ⟨_, rfl, rfl⟩

/-- **Resuming.** A proposal that is approved, fresh, accepted by the recheck and within the budget can be submitted. -/
theorem resume_submits {config : LiveManualApprovalConfig} {proposal : ProposalRecord}
    {recheck : SubmissionRecheckSnapshot} (clockNow : String) {occurredAt : String} {notional : ℚ}
      (henabled : config.enabled = true)
    (hoccurred : occurredAt ≠ "") (happroved : proposal.status = .approved)
    (hfresh : isProposalExpired proposal occurredAt = false) (haccepts : Accepts config proposal recheck)
    (hnotional : calculateLiveOrderApprovalSubmittedNotionalKrw proposal = some notional) (hpositive : 0 < notional)
    {used limit : ℚ} (hused : parseGuardDecimal recheck.dailyApprovedNotionalUsedKrw = some used)
    (hlimit : parseGuardDecimal config.daily_approved_notional_limit_krw = some limit)
    (hfits : decimalRound (decimalRound used + notional) ≤ limit) :
    ∃ w, Reaches (approvalEnvironment config) (approvalStart [proposal]) w ∧ w.shared.submitted ≠ [] := by
  have hfound : (createProposalStore [proposal]).findById proposal.proposalId = some proposal :=
    InsertionMap.get_set_self _ _ _
  have hbegin : handleProposal ⟨config, occurredAt⟩ .approve proposal =
      resumeApprovedProposal ⟨config, occurredAt⟩ proposal := by
    rw [handleProposal, if_neg (by rw [hfresh]; exact Bool.false_ne_true), if_pos ⟨happroved, rfl⟩]
  obtain ⟨found, hcommand, hanswered⟩ :=
    find_asks henabled proposal .approve hoccurred clockNow
  obtain ⟨evidence, audited, hresume, rechecked, haudited, prior, hrechecked⟩ :=
    resume_asks ⟨config, occurredAt⟩ proposal recheck
  obtain ⟨appended, hasks, evidence', audited', happended, prior', haudited'⟩ :=
    @recheck_asks _ _ _ ⟨config, occurredAt⟩ _ _ haccepts prior
  obtain ⟨reserved, hreserves, answered, hreserved⟩ :=
    reserve_asks ⟨config, occurredAt⟩ recheck hnotional prior'
  have hstarted : Reaches (approvalEnvironment config) (approvalStart [proposal]) _ :=
    .step .refl (.start 0 (handleCommand config ⟨.approve, some proposal.proposalId, occurredAt, clockNow⟩) _ rfl
      ⟨List.not_mem_nil, rfl, _, rfl⟩)
  obtain ⟨w₁, hrun₁, hrunning₁, hshared₁⟩ := hstarted.next
    ((Function.update_self _ _ _).trans (congrArg some hcommand)) (.ok (some proposal))
    (hanswered.trans (hbegin.trans hresume))
    (by
      have hserved : ApprovalServes 0 ⟨createProposalStore [proposal], [0], [], 0⟩ (.findById proposal.proposalId)
          (.ok ((createProposalStore [proposal]).findById proposal.proposalId)) _ := .findById proposal.proposalId
      rwa [hfound] at hserved)
  obtain ⟨w₂, hrun₂, hrunning₂, hshared₂⟩ := hrun₁.next hrunning₁ _ haudited (.appendEvent _ _)
  obtain ⟨w₃, hrun₃, hrunning₃, hshared₃⟩ := hrun₂.next hrunning₂ _ (hrechecked.trans hasks) (.recheck _ _ _)
  have hshared : w₃.shared = ⟨createProposalStore [proposal], [0], [], 0⟩ :=
    (hshared₃.trans hshared₂).trans hshared₁
  have happend := appendEvidence_found hfound (createRecheckEvidence ⟨config, occurredAt⟩ proposal)
  rw [happroved] at happend
  obtain ⟨w₄, hrun₄, hrunning₄, hshared₄⟩ := hrun₃.next hrunning₃ _ happended
    (.appendEvidence _ _ (by
      intro result h
      rw [hshared, happend]
      exact (Except.ok.inj h).symm))
  obtain ⟨w₅, hrun₅, hrunning₅, hshared₅⟩ :=
    hrun₄.next hrunning₄ _ (haudited'.trans hreserves) (.appendEvent _ _)
  have hstore : w₅.shared.store = (createProposalStore [proposal]).withEvidence proposal.proposalId
      (createRecheckEvidence ⟨config, occurredAt⟩ proposal) := by
    rw [hshared₅, hshared₄, hshared]
    dsimp only
    rw [happend]
  have hreserve : (w₅.shared.store.reserveDailyApprovalBudget ⟨proposal.proposalId, .approved,
      proposal.fingerprint, notional, recheck.dailyApprovedNotionalUsedKrw,
      config.daily_approved_notional_limit_krw⟩).1 = .recorded proposal notional := by
    rw [hstore, ← happroved]
    exact reserve_found hfound rfl hpositive hused hlimit hfits
  obtain ⟨w₆, hrun₆, hrunning₆, hshared₆⟩ := hrun₅.next hrunning₅ _ hreserved
    (.reserve _ _ (by
      intro result h
      exact (Except.ok.inj h).symm.trans hreserve.symm))
  obtain ⟨w₇, hrun₇, -, hshared₇⟩ := hrun₆.next hrunning₆ (.ok "order-001") rfl (.submitOrder _ _)
  refine ⟨w₇, hrun₇, ?_⟩
  rw [hshared₇]
  exact List.cons_ne_nil _ _

end Resumed

/-! ## One approval -/

section OneApproval

/-- a digest that keeps the text -/
@[reducible] def plainDigest : Digest := ⟨id⟩

attribute [local instance] plainHost plainDigest

def approvedProposal : ProposalRecord where
  contract := { pricedProposal "10000" (.text "1970-01-01T00:00:01.000Z") (costs [] List.nodup_nil) with
    requestedVolume := "1" }
  status := .approved
  strategyId := none

def enabledConfig : LiveManualApprovalConfig := { defaultLiveManualApprovalConfig with enabled := true }

def approvedRecheck : SubmissionRecheckSnapshot := ⟨true, "risk-001", true, true, "0", "10000"⟩

theorem approved_submits : ∃ w, Reaches (approvalEnvironment enabledConfig) (approvalStart [approvedProposal]) w ∧
    w.shared.submitted ≠ [] := by
  have haccepts : Accepts enabledConfig approvedProposal approvedRecheck := by unfold Accepts; decide +kernel
  have hnotional : calculateLiveOrderApprovalSubmittedNotionalKrw approvedProposal = some 10000 := by decide +kernel
  have hfresh : isProposalExpired approvedProposal "1970-01-01T00:00:00.000Z" = false := by decide +kernel
  have hused : parseGuardDecimal approvedRecheck.dailyApprovedNotionalUsedKrw = some 0 := by decide +kernel
  have hlimit : parseGuardDecimal enabledConfig.daily_approved_notional_limit_krw = some 30000 := by decide +kernel
  exact resume_submits "" rfl (by decide) rfl hfresh haccepts hnotional (by norm_num) hused hlimit
    (by decide +kernel)

theorem approvals_safe_resumed : ∃ w : World ℕ ApprovalShared ApprovalRequest ApprovalReply Thrown CommandResult,
    w.shared.submitted ≠ [] ∧ ApprovalSafe enabledConfig w.shared := by
  obtain ⟨w, hrun, hsubmitted⟩ := approved_submits
  exact ⟨w, hsubmitted, approvals_safe hrun⟩

theorem approvals_truthful_resumed : ∃ w : World ℕ ApprovalShared ApprovalRequest ApprovalReply Thrown CommandResult,
    w.shared.submitted ≠ [] ∧ ApprovalTruthful (createProposalStore [approvedProposal]) w := by
  obtain ⟨w, hrun, hsubmitted⟩ := approved_submits
  exact ⟨w, hsubmitted, approvals_truthful hrun⟩

end OneApproval

end SeeMirai.Approval
