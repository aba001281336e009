/-
The evidence that execution producers attach to a submission
(application/execution/execution-engine/evidence-factory.ts): a RiskGate result with the fingerprint of the order it was
evaluated for, and the costs of an exit with the position they were estimated for. The threshold snapshot is handed on
as it is.

Results:
- `riskApproval_valid_iff`: the validator takes an approval for its own order exactly where the result allows the order
  and the expected loss is a decimal.
- `approved_result`: a result that the RiskGate approves allows the order, and its expected loss is a decimal.
-/
import SeeMirai.Execution.Validation
import SeeMirai.Risk.Gate

namespace SeeMirai.Execution

open Risk

/-! ## Model -/

def riskStatusText : RiskEvaluationStatus → String
  | .pass => "PASS"
  | .fail => "FAIL"
  | .warn => "WARN"

def riskActionText : RiskBlockAction → String
  | .allow => "ALLOW"
  | .blockNewOrder => "BLOCK_NEW_ORDER"
  | .pauseStrategy => "PAUSE_STRATEGY"
  | .hardStop => "HARD_STOP"
  | .manualReviewRequired => "MANUAL_REVIEW_REQUIRED"

/-- the context's own value wins over the legacy metadata -/
def readRiskGateExpectedLossBps (context : RiskGateContext) : Option String :=
  context.expectedLossBpsOfEquity.or (readOrderIntentExpectedLossBps context.orderIntent)

/-- the position that exit costs were estimated for -/
structure ExitCostPositionScope where
  market : String
  strategyId : String
  totalQuantity : String
deriving DecidableEq, Repr

def ExitCostPositionScope.json (scope : ExitCostPositionScope) : JsValue :=
  .object [("market", .string scope.market), ("strategy_id", .string scope.strategyId),
    ("total_quantity", .string scope.totalQuantity)]

section Host

variable [Host]

def createExecutionRiskApprovalEvidence (result : RiskGateResult) (context : RiskGateContext)
    (thresholdSnapshot : JsValue) : JsValue :=
  let reasonCodes (evaluations : List RiskGateEvaluation) : JsValue :=
    .array (evaluations.map fun evaluation => .string evaluation.reasonCode)
  .object [("source", .string "risk_gate"), ("approved", .bool result.approved),
    ("status", .string (riskStatusText result.status)), ("action", .string (riskActionText result.action)),
    ("order_intent", .object (createOrderIntentEvidence context.orderIntent (readRiskGateExpectedLossBps context))),
    ("threshold_snapshot", thresholdSnapshot),
    ("failed_evaluation_reason_codes", reasonCodes result.failedEvaluations),
    ("warning_evaluation_reason_codes", reasonCodes result.warningEvaluations)]

def createExecutionExitCostEvidence (intent : ExecutionIntent) (positionScope : ExitCostPositionScope)
    (exitCostBps exitSlippageBps : String) (expectedLossBpsOfEquity : Option String) : JsValue :=
  .object [("source", .string "exit_cost_model"), ("exit_cost_allowed", .bool true),
    ("exit_cost_reason_code", .string "exit_cost_margin_ok"), ("exit_cost_bps", .string exitCostBps),
    ("exit_slippage_bps", .string exitSlippageBps), ("position_scope", positionScope.json),
    ("order_intent", .object (createOrderIntentEvidence intent expectedLossBpsOfEquity))]

end Host

/-! ## An approval and its own order -/

/-- a result that lets an order through -/
structure Allows (result : RiskGateResult) : Prop where
  approved : result.approved = true
  action : result.action = .allow
  status : result.status = .pass ∨ result.status = .warn
  failed : result.failedEvaluations = []

theorem riskActionText_allow {action : RiskBlockAction} : riskActionText action = "ALLOW" ↔ action = .allow := by
  cases action <;> simp [riskActionText]

theorem approvalCapable_iff {status : RiskEvaluationStatus} :
    isApprovalCapableRiskStatus (.string (riskStatusText status)) = true ↔ status = .pass ∨ status = .warn := by
  cases status <;> simp [isApprovalCapableRiskStatus, riskStatusText, JsValue.asString]

theorem hasProblemFieldList_map {evaluations : List RiskGateEvaluation} :
    hasProblemFieldList (.array (evaluations.map fun evaluation => .string evaluation.reasonCode)) = false
      ↔ evaluations = [] := by
  cases evaluations <;> simp [hasProblemFieldList]

section Host

variable [H : Host]

/-- an expected loss that is there and is a decimal -/
def IsDecimal (loss : Option String) : Prop := ∃ text q, loss = some text ∧ Host.valueOf text = some q

/-- what the validator reads in an approval -/
structure ReadsApproval (result : RiskGateResult) (context : RiskGateContext) (approval : JsValue) : Prop where
  record : approval.isNonEmptyRecord = true
  source : approval.prop "source" = .string "risk_gate"
  approved : approval.prop "approved" = .bool result.approved
  status : approval.prop "status" = .string (riskStatusText result.status)
  action : approval.prop "action" = .string (riskActionText result.action)
  orderIntent : approval.prop "order_intent" = fingerprint context.orderIntent (readRiskGateExpectedLossBps context)
  failed : approval.prop "failed_evaluation_reason_codes"
    = .array (result.failedEvaluations.map fun evaluation => .string evaluation.reasonCode)

theorem riskApproval_reads (result : RiskGateResult) (context : RiskGateContext) (thresholdSnapshot : JsValue) :
    ReadsApproval result context (createExecutionRiskApprovalEvidence result context thresholdSnapshot) := by
  constructor <;> rfl

theorem fingerprint_isNonEmptyRecord (intent : ExecutionIntent) (loss : Option String) :
    (fingerprint intent loss).isNonEmptyRecord = true := rfl

/-- a fingerprint agrees with itself where its expected loss is a decimal -/
theorem fingerprint_agrees [H.Prints] {intent : ExecutionIntent} {loss : Option String} :
    Agrees (fingerprint intent loss) (fingerprint intent loss) ↔ IsDecimal loss := by
  have hreads := (fingerprint_reads intent loss).expectedLoss
  constructor
  · intro h
    obtain ⟨text, htext, -⟩ := h.expectedLoss
    rw [hreads] at htext
    obtain ⟨s, q, hs, hq, -⟩ := expectedLoss_of_recorded htext
    exact ⟨s, q, hs, hq⟩
  · rintro ⟨text, q, rfl, hq⟩
    have hread : readNormalizedFinancialDecimalString
        ((fingerprint intent (some text)).prop "expected_loss_bps_of_equity").asString = some (Host.toFixed q) := by
      rw [hreads, Option.map_some, normalize_of_valueOf hq]
      exact readNormalized_eq_some.2 ⟨_, q, rfl, Host.Prints.read_toFixed hq, rfl⟩
    exact ⟨fun _ _ => rfl, rfl, fun _ _ => rfl, _, hread, hread⟩

/-- **An approval and its own order.** The validator takes an approval of the submitted order and expected loss exactly
where the result allows the order and the expected loss is a decimal. -/
theorem riskApproval_valid_iff [H.Prints] {submission : ExecutionSubmission} {result : RiskGateResult}
    {context : RiskGateContext} {thresholdSnapshot : JsValue}
    (happroval : submission.riskApproval = createExecutionRiskApprovalEvidence result context thresholdSnapshot)
    (hintent : context.orderIntent = submission.intent)
    (hloss : readRiskGateExpectedLossBps context = readSubmissionExpectedLossBps submission) :
    validateRiskApproval submission = none ↔ Allows result ∧ IsDecimal (readSubmissionExpectedLossBps submission) := by
  have hreads := riskApproval_reads result context thresholdSnapshot
  rw [← happroval] at hreads
  have hcompare : compareSubmissionOrderIntent submission (submission.riskApproval.prop "order_intent") = []
      ↔ IsDecimal (readSubmissionExpectedLossBps submission) := by
    rw [hreads.orderIntent, hintent, hloss]
    exact compareOrderIntentEvidence_eq_nil.trans fingerprint_agrees
  have hdenied : ((submission.riskApproval.prop "source").asString ≠ some "risk_gate" ∨
      (submission.riskApproval.prop "approved").asBoolean ≠ some true ∨
      (submission.riskApproval.prop "action").asString ≠ some "ALLOW" ∨
      isApprovalCapableRiskStatus (submission.riskApproval.prop "status") = false ∨
      hasProblemFieldList (submission.riskApproval.prop "failed_evaluation_reason_codes") = true) ↔ ¬ Allows result := by
    rw [hreads.source, hreads.approved, hreads.action, hreads.status, hreads.failed, ← Bool.not_eq_true,
      approvalCapable_iff, ← Bool.not_eq_false, hasProblemFieldList_map]
    simp only [JsValue.asString, JsValue.asBoolean, Option.some.injEq, ne_eq, not_true_eq_false, false_or,
      riskActionText_allow]
    constructor
    · rintro (h | h | h | h) hallows
      · exact h hallows.approved
      · exact h hallows.action
      · exact h hallows.status
      · exact h hallows.failed
    · intro h
      by_contra hnone
      refine h ⟨?_, ?_, ?_, ?_⟩ <;> by_contra hfield
      · exact hnone (Or.inl hfield)
      · exact hnone (Or.inr (Or.inl hfield))
      · exact hnone (Or.inr (Or.inr (Or.inl hfield)))
      · exact hnone (Or.inr (Or.inr (Or.inr hfield)))
  unfold validateRiskApproval
  dsimp only
  rw [if_neg (by simp [hreads.record])]
  by_cases hallows : Allows result
  · rw [if_neg (mt hdenied.1 (not_not.2 hallows)), if_neg (by simp [hreads.orderIntent, fingerprint_isNonEmptyRecord])]
    cases hmismatches : compareSubmissionOrderIntent submission (submission.riskApproval.prop "order_intent") with
    | nil => simp [hallows, hcompare.1 hmismatches]
    | cons mismatch mismatches =>
      have hnot : ¬ IsDecimal (readSubmissionExpectedLossBps submission) := fun h => by
        rw [hcompare.2 h] at hmismatches
        cases hmismatches
      simp [hnot]
  · rw [if_pos (hdenied.2 hallows)]
    simp [hallows]

/-! ## Approvals of the RiskGate -/

omit H in
/-- an approved result fails nowhere and blocks nothing -/
theorem createRiskGateResult_allows {evaluations : List RiskGateEvaluation}
    (h : (createRiskGateResult evaluations).approved = true) : Allows (createRiskGateResult evaluations) := by
  obtain ⟨hfailed, haction⟩ := of_decide_eq_true h
  refine ⟨h, haction, ?_, hfailed⟩
  unfold createRiskGateResult
  dsimp only
  rw [if_neg (not_not.2 hfailed)]
  split_ifs
  · exact Or.inr rfl
  · exact Or.inl rfl

omit H in
/-- the gate and the evidence read the same expected loss -/
theorem readRiskGateExpectedLossBps_of_value {context : RiskGateContext} {text : String}
    (h : expectedLossValue context = .string text) : readRiskGateExpectedLossBps context = some text := by
  unfold expectedLossValue at h
  unfold readRiskGateExpectedLossBps readOrderIntentExpectedLossBps readStringMetadata
  cases hown : context.expectedLossBpsOfEquity with
  | some own =>
    rw [hown] at h
    cases h
    rfl
  | none =>
    rw [hown] at h
    change orElse (context.orderIntent.metadata.prop "expected_loss_bps_of_equity")
      (context.orderIntent.metadata.prop "expectedLossBpsOfEquity") = .string text at h
    cases hsnake : context.orderIntent.metadata.prop "expected_loss_bps_of_equity" with
    | undefined =>
      rw [hsnake] at h
      change context.orderIntent.metadata.prop "expectedLossBpsOfEquity" = _ at h
      rw [h]
      rfl
    | null =>
      rw [hsnake] at h
      change context.orderIntent.metadata.prop "expectedLossBpsOfEquity" = _ at h
      rw [h]
      rfl
    | string s =>
      rw [hsnake] at h
      cases h
      rfl
    | bool b => rw [hsnake] at h; cases h
    | number n => rw [hsnake] at h; cases h
    | array items => rw [hsnake] at h; cases h
    | object properties => rw [hsnake] at h; cases h

/-- **What the RiskGate approves.** An approved result allows the order, and the expected loss it was evaluated with is
a decimal. -/
theorem approved_result {context : RiskGateContext} {result : RiskGateResult} (hgate : evaluateRiskGate context = .ok result)
    (happroved : result.approved = true) : Allows result ∧ IsDecimal (readRiskGateExpectedLossBps context) := by
  obtain ⟨limits, hlimits, hresult⟩ := Fallible.bind_eq_ok.1 hgate
  obtain rfl := Fallible.pure_eq_ok.1 hresult
  have hclear := (createRiskGateResult_approved (evaluation_action context limits)).1 happroved
  obtain ⟨text, loss, htext, ⟨d, hd, -, rfl⟩, -⟩ := ((gateEvaluations_clear hlimits).1 hclear).expectedLoss
  refine ⟨createRiskGateResult_allows happroved, text, d.value, readRiskGateExpectedLossBps_of_value htext, ?_⟩
  exact finite_iff_valueOf.1 ⟨d, hd, rfl⟩

end Host

end SeeMirai.Execution
