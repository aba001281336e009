/-
What the runner submits and what the execution engine accepts (application/paper-decision-runner/service.ts,
application/execution/execution-engine/validation.ts). For an intent that was promoted, that the cost model allows and
that the RiskGate approves, the runner attaches evidence of its own making; only two things are left for the validator to
refuse: exit metadata on a BUY, and a SELL without a position.

A SELL is meant to be sold from a position of the frame: the first one of its exchange, market and strategy. Where that
one carries no quantity the runner leaves the intent as it is, so that the validator refuses it. It does so only where the
strategy did not attach exit metadata itself: that metadata is then taken for the runner's.

Results:
- `buy_accepted`: a BUY without exit metadata is accepted.
- `sell_accepted_iff`: when a SELL is accepted.
- `submissions_agree_iff`: so the position of the frame decides exactly where the frame has one that carries a quantity
  and that decides alike, or the strategy's own metadata says the same.
- `sell_without_position`: a SELL that is accepted although its frame has no position.
-/
import SeeMirai.Decision.CostModel
import SeeMirai.Exit.Submission

namespace SeeMirai.Decision

open Execution
open Risk (RiskGateContext RiskGateResult evaluateRiskGate)
open Exit (isNonNegativeDecimal_iff ne_empty_of_valueOf validateExitPositionScope_open collectInvalidExitCostFields_eq_nil)

/-! ## What is submitted -/

section Host

variable [Host]

/-- the cost decision on an intent of a frame -/
def costDecisionOf (frame : PaperDecisionInputFrame) (intent : ExecutionIntent) : CostDecision :=
  evaluateCost (createPaperDecisionCostInput frame (createPaperDecisionExecutionIntent frame intent))

def riskContextOf (frame : PaperDecisionInputFrame) (intent : ExecutionIntent) : RiskGateContext :=
  createPaperDecisionRiskGateContext frame (createPaperDecisionExecutionIntent frame intent)

/-- what the runner submits for an intent -/
def submissionOf (frame : PaperDecisionInputFrame) (intent : ExecutionIntent) (result : RiskGateResult) :
    ExecutionSubmission :=
  createPaperDecisionSubmission frame (createPaperDecisionExecutionIntent frame intent) (costDecisionOf frame intent)
    (riskContextOf frame intent) result

/-- an intent that the runner submits: promoted, allowed by the cost model and approved by the RiskGate -/
structure Submitted (frame : PaperDecisionInputFrame) (intent : ExecutionIntent) (result : RiskGateResult) : Prop where
  promoted : ∃ reason orderIntents decisionMetadata,
    intent ∈ (convertStrategyDecisionToOrderIntents reason orderIntents decisionMetadata (runnerMetadata frame)).orderIntents
  allowed : (costDecisionOf frame intent).tradeAllowed = true
  evaluated : evaluateRiskGate (riskContextOf frame intent) = .ok result
  approved : result.approved = true

def Accepts (submission : ExecutionSubmission) : Prop :=
  validateExecutionSubmission submission defaultPaperExecutionSafetyConfig = none

/-- exit metadata of any kind -/
def CarriesExitMetadata (intent : ExecutionIntent) : Prop :=
  isExitIntent intent = true ∨ ∃ key ∈ exitMetadataKeys, (readStringMetadata intent.metadata key).isSome

/-- the quantity that a position's metadata carries -/
def positionMetadataQuantity (position : PaperDecisionPosition) : Option String :=
  let read (key : String) : Option String := (position.metadata.prop key).asString
  (read "position_quantity").or <| (read "position_total_quantity").or <| (read "total_quantity").or <|
    (read "totalQuantity").or (read "quantity")

/-- a text that denotes a positive quantity, not below the requested one -/
def Covers (intent : ExecutionIntent) (text : String) : Prop :=
  ∃ total requested, Host.valueOf text = some total ∧ 0 < total ∧
    Host.valueOf intent.requestedQuantity = some requested ∧ requested ≤ total

/-- the frame has a position of the intent's exchange, market and strategy that covers it -/
def HoldsPosition (frame : PaperDecisionInputFrame) (intent : ExecutionIntent) : Prop :=
  ∃ position ∈ frame.risk.positions, position.exchangeId = intent.exchangeId ∧ position.market = intent.market ∧
    position.strategyId = some intent.strategyId ∧
    ∃ text, positionMetadataQuantity position = some text ∧ Covers intent text

/-- the first position of the frame's exchange and the intent's exchange, market and strategy -/
def firstPosition (frame : PaperDecisionInputFrame) (intent : ExecutionIntent) : Option PaperDecisionPosition :=
  frame.risk.positions.find? (fun position =>
    position.exchangeId = frame.exchangeId ∧ position.exchangeId = intent.exchangeId ∧
      position.market = intent.market ∧ position.strategyId = some intent.strategyId)

/-- the quantity of the position scope that an intent's own metadata names -/
def scopeQuantity (intent : ExecutionIntent) : Option String :=
  ((intent.metadata.prop "position_scope").prop "totalQuantity").asString

/-- exit metadata that passes for the runner's: effect, reason, rule, and a scope that covers the intent -/
structure ClaimsExit (intent : ExecutionIntent) : Prop where
  effect : isExitIntent intent = true
  reason : (readStringMetadata intent.metadata "exit_reason_code").isSome
  rule : (readStringMetadata intent.metadata "exit_rule_id").isSome
  scope : ∃ text, scopeQuantity intent = some text ∧ Covers intent text ∧
    (readOrderIntentPositionEffect intent = some "EXIT" → Host.valueOf text = Host.valueOf intent.requestedQuantity)

/-! ## What promotion and the runner leave as it is -/

variable {frame : PaperDecisionInputFrame} {intent : ExecutionIntent} {result : RiskGateResult}

/-- what a promoted intent is known to have -/
structure ValidIntent (intent : ExecutionIntent) : Prop where
  key : (trim intent.idempotencyKey).length ≠ 0
  limit : ∃ price, intent.terms.requestedPrice = some price ∧ isPositiveDecimal price = true
  quantity : isPositiveDecimal intent.requestedQuantity = true
  notional : isPositiveDecimal intent.requestedNotional = true

theorem validIntent_of_no_rejection {index : ℕ} (h : validateOrderIntent index intent = []) : ValidIntent intent := by
  unfold validateOrderIntent at h
  simp only [List.append_eq_nil_iff, ite_eq_right_iff, List.cons_ne_nil, imp_false] at h
  obtain ⟨⟨⟨⟨hkey, hmarket⟩, hquantity⟩, hnotional⟩, hprice⟩ := h
  refine ⟨hkey, ?_, by simpa using hquantity, by simpa using hnotional⟩
  cases hterms : intent.terms with
  | market => exact absurd (by rw [hterms]; rfl) hmarket
  | limit price postOnly timeInForce =>
    refine ⟨price, rfl, ?_⟩
    simpa [hterms, OrderTerms.requestedPrice] using hprice

theorem validIntent_of_promoted {reason : String} {orderIntents : List ExecutionIntent} {decisionMetadata metadata : JsValue}
    (h : intent ∈ (convertStrategyDecisionToOrderIntents reason orderIntents decisionMetadata metadata).orderIntents) :
    ValidIntent intent := by
  unfold convertStrategyDecisionToOrderIntents at h
  split at h
  · rename_i hnone
    obtain ⟨original, horiginal, rfl⟩ := List.mem_map.1 h
    obtain ⟨index, hindex⟩ := List.getElem?_of_mem horiginal
    have hvalid := validIntent_of_no_rejection
      (List.flatMap_eq_nil_iff.1 hnone _ (List.mk_mem_zipIdx_iff_getElem?.2 hindex))
    exact ⟨hvalid.key, hvalid.limit, hvalid.quantity, hvalid.notional⟩
  · cases h

/-- only the metadata of an intent is changed -/
theorem executionIntent_eq (frame : PaperDecisionInputFrame) (intent : ExecutionIntent) :
    ∃ metadata, createPaperDecisionExecutionIntent frame intent = { intent with metadata := metadata } := by
  unfold createPaperDecisionExecutionIntent
  split
  · exact ⟨_, rfl⟩
  · exact ⟨intent.metadata, rfl⟩

theorem ValidIntent.executionIntent (h : ValidIntent intent) (frame : PaperDecisionInputFrame) :
    ValidIntent (createPaperDecisionExecutionIntent frame intent) := by
  obtain ⟨metadata, hintent⟩ := executionIntent_eq frame intent
  rw [hintent]
  exact ⟨h.key, h.limit, h.quantity, h.notional⟩

theorem covers_executionIntent (frame : PaperDecisionInputFrame) {text : String} :
    Covers (createPaperDecisionExecutionIntent frame intent) text ↔ Covers intent text := by
  obtain ⟨metadata, hintent⟩ := executionIntent_eq frame intent
  rw [hintent]
  exact Iff.rfl

/-- a BUY is submitted as it is -/
theorem executionIntent_buy (hside : intent.side = .buy) : createPaperDecisionExecutionIntent frame intent = intent := by
  unfold createPaperDecisionExecutionIntent
  split
  · rename_i hsell _
    rw [hside] at hsell
    cases hsell
  · rfl

theorem executionIntent_plain (hnone : readExitPositionQuantity frame intent = none) :
    createPaperDecisionExecutionIntent frame intent = intent := by
  unfold createPaperDecisionExecutionIntent
  split
  · rename_i hsome
    rw [hnone] at hsome
    cases hsome
  · rfl

omit [Host] in
theorem readExitPositionQuantity_eq (frame : PaperDecisionInputFrame) (intent : ExecutionIntent) :
    readExitPositionQuantity frame intent = (firstPosition frame intent).bind positionMetadataQuantity := rfl

omit [Host] in
/-- an assigned property is read where the source has it, else in the target -/
theorem prop_assign (target properties : JsonRecord) (key : String) :
    (JsValue.object (assign target (.object properties))).prop key
      = ((assocGet properties key).or (assocGet target key)).getD .undefined := by
  have hget : ∀ properties : JsonRecord, assocGet (assign target (.object properties)) key
      = (assocGet properties key).or (assocGet target key) := by
    intro properties
    induction properties with
    | nil => rfl
    | cons property properties ih =>
      have hstep : assign target (.object (property :: properties))
          = assocSet (assign target (.object properties)) property.1 property.2 := rfl
      rw [hstep, assocGet_assocSet, ih, assocGet]
      split_ifs
      · rfl
      · rfl
  show (assocGet _ key).getD JsValue.undefined = _
  rw [hget]

/-- what the runner writes into the metadata of a SELL that has a position -/
structure RunnerExit (intent : ExecutionIntent) (requestedQuantity text : String) : Prop where
  effect : readOrderIntentPositionEffect intent = some (resolvePaperDecisionPositionEffect requestedQuantity text)
  reason : (readStringMetadata intent.metadata "exit_reason_code").isSome
  rule : (readStringMetadata intent.metadata "exit_rule_id").isSome
  scope : scopeQuantity intent = some text

theorem executionIntent_exit (hside : intent.side = .sell) {text : String}
    (hsome : readExitPositionQuantity frame intent = some text) :
    RunnerExit (createPaperDecisionExecutionIntent frame intent) intent.requestedQuantity text := by
  unfold createPaperDecisionExecutionIntent
  rw [hside, hsome]
  constructor
  · simp [readOrderIntentPositionEffect, readStringMetadata, prop_assign, assocGet, JsValue.asString]
  · simp [readStringMetadata, prop_assign, assocGet, JsValue.asString]
  · simp [readStringMetadata, prop_assign, assocGet, JsValue.asString]
  · rw [scopeQuantity, prop_assign]
    simp [assocGet, JsValue.prop, JsValue.asString]

theorem resolvePositionEffect_isExit (requestedQuantity text : String) :
    resolvePaperDecisionPositionEffect requestedQuantity text = "REDUCE" ∨
      (resolvePaperDecisionPositionEffect requestedQuantity text = "EXIT" ∧
        Host.valueOf text = Host.valueOf requestedQuantity) := by
  unfold resolvePaperDecisionPositionEffect
  split
  · rename_i requested total hrequested htotal
    split_ifs with heq
    · refine Or.inr ⟨rfl, ?_⟩
      rw [parseFinancialDecimal_eq_ok.1 hrequested, parseFinancialDecimal_eq_ok.1 htotal, heq]
    · exact Or.inl rfl
  · exact Or.inl rfl

/-- with a position of its own a SELL claims its exit exactly where that position covers it -/
theorem claimsExit_of_position (hside : intent.side = .sell) {text : String}
    (hsome : readExitPositionQuantity frame intent = some text) :
    ClaimsExit (createPaperDecisionExecutionIntent frame intent) ↔ Covers intent text := by
  have hexit := executionIntent_exit hside hsome
  have hrequested : (createPaperDecisionExecutionIntent frame intent).requestedQuantity = intent.requestedQuantity := by
    obtain ⟨metadata, hintent⟩ := executionIntent_eq frame intent
    rw [hintent]
  constructor
  · intro h
    obtain ⟨other, hother, hcovers, -⟩ := h.scope
    obtain rfl := Option.some.inj (hexit.scope.symm.trans hother)
    exact (covers_executionIntent frame).1 hcovers
  · intro hcovers
    refine ⟨?_, hexit.reason, hexit.rule, text, hexit.scope, (covers_executionIntent frame).2 hcovers, fun heffect => ?_⟩
    · unfold isExitIntent
      rw [hexit.effect]
      rcases resolvePositionEffect_isExit intent.requestedQuantity text with heq | ⟨heq, -⟩ <;> simp [heq]
    · rw [hexit.effect] at heffect
      rw [hrequested]
      rcases resolvePositionEffect_isExit intent.requestedQuantity text with heq | ⟨-, hsame⟩
      · simp [heq] at heffect
      · exact hsame

/-! ## What is left to refuse -/

theorem accepts_iff {submission : ExecutionSubmission} (hvalid : ValidIntent submission.intent)
    (hrisk : validateRiskApproval submission = none) :
    Accepts submission ↔ validateCostSnapshot submission = none ∧ validateExitCostEvidence submission = none ∧
      validateExitSellPositionScope submission = none := by
  obtain ⟨price, hprice, hpositive⟩ := hvalid.limit
  have hamounts := validateOrderAmounts_limit hprice hvalid.quantity hvalid.notional hpositive
  have hmarket : validateMarketOrderSafety submission.intent defaultPaperExecutionSafetyConfig = none := by
    unfold validateMarketOrderSafety
    split
    · rfl
    · rename_i hterms
      rw [hterms] at hprice
      cases hprice
  unfold Accepts validateExecutionSubmission
  rw [if_neg hvalid.key, if_neg (by decide), if_neg (by decide), hmarket, hamounts, hrisk]
  simp

end Host

section Evidence

variable [H : Host] [H.Prints] [H.Decimals] [H.PrintsUnsigned] {frame : PaperDecisionInputFrame} {intent : ExecutionIntent}
  {result : RiskGateResult}

/-- the entry evidence of an allowed candidate -/
theorem validateCostSnapshot_buy {input : CostModelInput}
    {submission : ExecutionSubmission} (hallowed : (evaluateCost input).tradeAllowed = true)
    (hexchange : input.exchangeId = submission.intent.exchangeId) (hmarket : input.market = submission.intent.market)
    (hside : submission.intent.side = .buy)
    (hsnapshot : submission.costSnapshot = createExecutionCostSnapshotEvidence (evaluateCost input).snapshot submission.intent
      (readSubmissionExpectedLossBps submission)) (hloss : IsDecimal (readSubmissionExpectedLossBps submission)) :
    validateCostSnapshot submission = none := by
  obtain ⟨-, hreads⟩ := evaluateCost_allowed hallowed
  have hprop : ∀ key, submission.costSnapshot.prop key = if "order_intent" = key then
      fingerprint submission.intent (readSubmissionExpectedLossBps submission)
      else if "source" = key then .string "cost_model"
      else (assocGet (evaluateCost input).snapshot key).getD .undefined := by
    intro key
    rw [hsnapshot]
    simp only [createExecutionCostSnapshotEvidence, JsValue.prop, assocGet_assocSet]
    split_ifs <;> rfl
  have hrecord : submission.costSnapshot.isNonEmptyRecord = true := by
    rw [hsnapshot]
    refine JsValue.isNonEmptyRecord_iff.2 ⟨_, rfl, fun hnil => ?_⟩
    have hget := congrArg (fun properties => assocGet properties "order_intent") hnil
    simp [assocGet_assocSet, assocGet] at hget
  have hcompare : compareSubmissionOrderIntent submission (submission.costSnapshot.prop "order_intent") = [] := by
    rw [hprop]
    exact compareOrderIntentEvidence_eq_nil.2 (fingerprint_agrees.2 hloss)
  unfold validateCostSnapshot validateEntryCostSnapshot
  dsimp only
  rw [if_neg (by simp [hrecord]), if_neg (by simp [hprop, JsValue.asString]), if_neg (by simp [hside]), if_neg, if_neg,
    hcompare]
  · simp [hprop, hreads.exchangeId, hreads.market, hexchange, hmarket, appendStringMismatch, appendMismatch, JsValue.asString]
  · simp [hprop, fingerprint_isNonEmptyRecord]
  · simp [hprop, hreads.tradeAllowed, hreads.reasonCode, hreads.missingFields, hreads.invalidFields, JsValue.asString,
      JsValue.asBoolean, hasProblemFieldList]

/-- exit evidence of an allowed candidate, as the validator reads it -/
structure ReadsExitEvidence (intent : ExecutionIntent) (loss : Option String) (snapshot : JsValue) : Prop where
  record : snapshot.isNonEmptyRecord = true
  source : snapshot.prop "source" = .string "exit_cost_model"
  allowed : snapshot.prop "exit_cost_allowed" = .bool true
  reason : snapshot.prop "exit_cost_reason_code" = .string "exit_cost_margin_ok"
  costs : collectInvalidExitCostFields snapshot = []
  scopeRecord : (snapshot.prop "position_scope").isNonEmptyRecord = true
  scopeMarket : (snapshot.prop "position_scope").prop "market" = .string intent.market
  scopeStrategy : (snapshot.prop "position_scope").prop "strategy_id" = .string intent.strategyId
  scopeTotal : (snapshot.prop "position_scope").prop "total_quantity" = JsValue.ofString (scopeQuantity intent)
  orderIntent : snapshot.prop "order_intent" = fingerprint intent loss

omit [H.Prints] in
theorem exitEvidence_reads [H.RejectsEmpty] {input : CostModelInput} (hallowed : (evaluateCost input).tradeAllowed = true)
    (hside : intent.side = .sell) (hexit : isExitIntent intent = true) (loss : Option String) :
    ReadsExitEvidence intent loss (createPaperDecisionExecutionCostEvidence intent (evaluateCost input) loss) := by
  obtain ⟨hreason, hreads⟩ := evaluateCost_allowed hallowed
  obtain ⟨cost, costValue, hcost, hcostValue, hcostSign⟩ := hreads.costBps
  obtain ⟨slippage, slippageValue, hslippage, hslippageValue, hslippageSign⟩ := hreads.slippageBps
  have heffect : isExitPositionEffect (readOrderIntentPositionEffect intent) = true := by
    simpa [isExitPositionEffect, isExitIntent] using hexit
  unfold createPaperDecisionExecutionCostEvidence
  dsimp only
  rw [if_pos ⟨hside, heffect⟩]
  constructor
  case costs =>
    refine collectInvalidExitCostFields_eq_nil.2 ⟨?_, ?_⟩
    · have htext : isNonNegativeDecimal (.string cost) = true := isNonNegativeDecimal_iff.2 ⟨costValue, hcostValue, hcostSign⟩
      simpa [JsValue.prop, assocGet, hcost, JsValue.asString] using htext
    · have htext : isNonNegativeDecimal (.string slippage) = true :=
        isNonNegativeDecimal_iff.2 ⟨slippageValue, hslippageValue, hslippageSign⟩
      simpa [JsValue.prop, assocGet, hslippage, JsValue.asString] using htext
  case reason => simp [JsValue.prop, assocGet, hreason]
  case allowed => simp [JsValue.prop, assocGet, hallowed]
  all_goals rfl

/-- a quantity text that is a positive decimal -/
def IsOpen (text : String) : Prop := ∃ total, Host.valueOf text = some total ∧ 0 < total

omit [H.Decimals] [H.PrintsUnsigned] in
theorem validateCostSnapshot_exit [H.RejectsEmpty] {submission : ExecutionSubmission}
    (hreads : ReadsExitEvidence submission.intent (readSubmissionExpectedLossBps submission) submission.costSnapshot)
    (hside : submission.intent.side = .sell) (hexit : isExitIntent submission.intent = true)
    (hloss : IsDecimal (readSubmissionExpectedLossBps submission)) :
    validateCostSnapshot submission = none ↔
      (readStringMetadata submission.intent.metadata "exit_reason_code").isSome ∧
      (readStringMetadata submission.intent.metadata "exit_rule_id").isSome ∧
      ∃ text, scopeQuantity submission.intent = some text ∧ IsOpen text := by
  have hprinted : validateExitCostOrderIntent submission (submission.costSnapshot.prop "order_intent") = none := by
    have hcompare : compareSubmissionOrderIntent submission (submission.costSnapshot.prop "order_intent") = [] := by
      rw [hreads.orderIntent]
      exact compareOrderIntentEvidence_eq_nil.2 (fingerprint_agrees.2 hloss)
    unfold validateExitCostOrderIntent
    rw [if_neg (by rw [hreads.orderIntent]; simp [fingerprint, JsValue.isUndefined]),
      if_neg (by simp [hreads.orderIntent, fingerprint_isNonEmptyRecord]), hcompare]
  have hscope : validateExitPositionScope submission.intent (submission.costSnapshot.prop "position_scope") = none ↔
      ∃ text, scopeQuantity submission.intent = some text ∧ IsOpen text := by
    constructor
    · intro h
      obtain ⟨-, -, -, text, total, htext, htotal⟩ := validateExitPositionScope_eq_none h
      have hquantity : scopeQuantity submission.intent = some text := by
        rw [hreads.scopeTotal] at htext
        cases hscope : scopeQuantity submission.intent with
        | none => simp [hscope, JsValue.ofString] at htext
        | some other =>
          rw [hscope] at htext
          exact congrArg some (JsValue.string.inj htext)
      refine ⟨text, hquantity, total, htotal, ?_⟩
      unfold validateExitPositionScope at h
      rw [htext] at h
      simp only [JsValue.asString, Option.getD_some, parseFinancialDecimal_eq_ok.2 htotal] at h
      split_ifs at h with _ _ hpos
      · exact absurd h reject_ne_none
      · exact absurd h reject_ne_none
      · exact hpos
      · exact absurd h reject_ne_none
    · rintro ⟨text, htext, total, htotal, hpos⟩
      refine validateExitPositionScope_open hreads.scopeRecord hreads.scopeMarket hreads.scopeStrategy ?_ htotal hpos
      rw [hreads.scopeTotal, htext]
      rfl
  unfold validateCostSnapshot validateExitCostSnapshot
  dsimp only
  rw [if_neg (by simp [hreads.record]), if_pos (by simp [hreads.source, JsValue.asString]), if_neg (by simp [hexit]),
    if_neg (by simp [hside])]
  cases hreason : readStringMetadata submission.intent.metadata "exit_reason_code" with
  | none => simp
  | some reason =>
    cases hrule : readStringMetadata submission.intent.metadata "exit_rule_id" with
    | none => simp
    | some rule =>
      rw [if_neg (by simp), if_neg (by simp [hreads.allowed, hreads.reason, hreads.costs, JsValue.asBoolean, JsValue.asString]),
        hprinted, Option.or_none, hscope]
      simp

omit [H.Prints] [H.Decimals] [H.PrintsUnsigned] in
/-- the quantities of a SELL with exit evidence -/
theorem validateExitSellPositionScope_exit {submission : ExecutionSubmission} {loss : Option String}
    (hreads : ReadsExitEvidence submission.intent loss submission.costSnapshot) (hside : submission.intent.side = .sell)
    {text : String} (htext : scopeQuantity submission.intent = some text) {total requested : ℚ}
    (htotal : Host.valueOf text = some total) (hrequested : Host.valueOf submission.intent.requestedQuantity = some requested) :
    validateExitSellPositionScope submission = none ↔ requested ≤ total ∧
      (readOrderIntentPositionEffect submission.intent = some "EXIT" → total = requested) := by
  unfold validateExitSellPositionScope
  dsimp only
  rw [if_neg (by simp [hside]), hreads.scopeRecord, hreads.scopeTotal, htext]
  simp only [JsValue.ofString, JsValue.asString, parseFinancialDecimal_eq_ok.2 htotal,
    parseFinancialDecimal_eq_ok.2 hrequested]
  by_cases hexceeds : total < requested
  · rw [if_pos hexceeds]
    simp [not_le.2 hexceeds]
  · rw [if_neg hexceeds]
    by_cases hpartial : readOrderIntentPositionEffect submission.intent = some "EXIT" ∧ requested ≠ total
    · rw [if_pos hpartial]
      simp only [reject_ne_none, false_iff, not_and]
      intro _ hfull
      exact hpartial.2 (hfull hpartial.1).symm
    · rw [if_neg hpartial]
      simp only [true_iff]
      exact ⟨not_lt.1 hexceeds, fun heffect => not_not.1 fun hne => hpartial ⟨heffect, Ne.symm hne⟩⟩

/-! ## What is accepted -/

omit [H.Prints] [H.Decimals] [H.PrintsUnsigned] in
theorem Submitted.valid (h : Submitted frame intent result) : ValidIntent intent := by
  obtain ⟨reason, orderIntents, decisionMetadata, hmem⟩ := h.promoted
  exact validIntent_of_promoted hmem

omit [H.Prints] [H.Decimals] [H.PrintsUnsigned] in
theorem submission_loss (frame : PaperDecisionInputFrame) (intent : ExecutionIntent) (result : RiskGateResult) :
    readSubmissionExpectedLossBps (submissionOf frame intent result) = (riskContextOf frame intent).expectedLossBpsOfEquity ∧
      readRiskGateExpectedLossBps (riskContextOf frame intent) = (riskContextOf frame intent).expectedLossBpsOfEquity :=
  ⟨rfl, rfl⟩

omit [H.Prints] [H.Decimals] [H.PrintsUnsigned] in
theorem Submitted.loss (h : Submitted frame intent result) :
    IsDecimal (readSubmissionExpectedLossBps (submissionOf frame intent result)) := by
  have hdecimal := (approved_result h.evaluated h.approved).2
  rwa [(submission_loss frame intent result).2, ← (submission_loss frame intent result).1] at hdecimal

omit [H.Decimals] [H.PrintsUnsigned] in
theorem Submitted.accepts_iff (h : Submitted frame intent result) :
    Accepts (submissionOf frame intent result) ↔ validateCostSnapshot (submissionOf frame intent result) = none ∧
      validateExitCostEvidence (submissionOf frame intent result) = none ∧
      validateExitSellPositionScope (submissionOf frame intent result) = none := by
  refine Decision.accepts_iff (h.valid.executionIntent frame) ?_
  exact (riskApproval_valid_iff rfl rfl rfl).2 ⟨(approved_result h.evaluated h.approved).1, h.loss⟩

/-- a BUY without exit metadata is accepted -/
theorem buy_accepted (h : Submitted frame intent result) (hside : intent.side = .buy) (hplain : ¬ CarriesExitMetadata intent) :
    Accepts (submissionOf frame intent result) := by
  have hintent : (submissionOf frame intent result).intent = intent := executionIntent_buy hside
  have hexit : isExitIntent intent = false := Bool.eq_false_iff.2 fun hexit => hplain (Or.inl hexit)
  have hfound : exitMetadataKeys.filter (fun key => (readStringMetadata intent.metadata key).isSome) = [] := by
    rw [List.filter_eq_nil_iff]
    exact fun key hkey hsome => hplain (Or.inr ⟨key, hkey, hsome⟩)
  rw [h.accepts_iff]
  refine ⟨?_, ?_, ?_⟩
  · refine validateCostSnapshot_buy h.allowed ?_ ?_ (by rw [hintent, hside]) ?_ h.loss
    · rfl
    · rfl
    · show createPaperDecisionExecutionCostEvidence _ _ _ = _
      unfold createPaperDecisionExecutionCostEvidence
      dsimp only
      rw [if_neg]
      · rfl
      · rintro ⟨hsell, -⟩
        rw [executionIntent_buy hside, hside] at hsell
        cases hsell
  · unfold validateExitCostEvidence
    dsimp only
    rw [hintent, if_neg (by simp [hexit]), if_neg (by simp [hexit, hfound])]
  · unfold validateExitSellPositionScope
    dsimp only
    rw [hintent, if_pos (by simp [hside])]

/-- a SELL is accepted exactly where the exit metadata it is submitted with claims its exit -/
theorem sell_accepted_iff [H.RejectsEmpty] (h : Submitted frame intent result) (hside : intent.side = .sell) :
    Accepts (submissionOf frame intent result) ↔ ClaimsExit (createPaperDecisionExecutionIntent frame intent) := by
  have hsell : (submissionOf frame intent result).intent.side = .sell := by
    obtain ⟨metadata, hintent⟩ := executionIntent_eq frame intent
    show (createPaperDecisionExecutionIntent frame intent).side = .sell
    rw [hintent, hside]
  have hvalid := h.valid.executionIntent frame
  obtain ⟨requested, hrequested, -⟩ := isPositiveDecimal_iff.1 hvalid.quantity
  rw [h.accepts_iff]
  by_cases hexit : isExitIntent (createPaperDecisionExecutionIntent frame intent) = true
  · have hreads : ReadsExitEvidence (submissionOf frame intent result).intent
        (readSubmissionExpectedLossBps (submissionOf frame intent result)) (submissionOf frame intent result).costSnapshot :=
      exitEvidence_reads h.allowed hsell hexit _
    have hevidence : validateExitCostEvidence (submissionOf frame intent result) = none := by
      unfold validateExitCostEvidence
      dsimp only
      rw [if_neg (by simp [hsell]), if_neg]
      rintro ⟨hentry, -⟩
      exact absurd hexit (by simp [show isExitIntent (createPaperDecisionExecutionIntent frame intent) = false from hentry])
    rw [validateCostSnapshot_exit hreads hsell hexit h.loss]
    constructor
    · rintro ⟨⟨hreason, hrule, text, htext, total, htotal, hpos⟩, -, hquantities⟩
      obtain ⟨hle, hfull⟩ := (validateExitSellPositionScope_exit hreads hsell htext htotal hrequested).1 hquantities
      refine ⟨hexit, hreason, hrule, text, htext, ⟨total, requested, htotal, hpos, hrequested, hle⟩, fun heffect => ?_⟩
      rw [htotal, hrequested, hfull heffect]
    · intro hclaims
      obtain ⟨text, htext, ⟨total, other, htotal, hpos, hother, hle⟩, hfull⟩ := hclaims.scope
      obtain rfl := Option.some.inj (hrequested.symm.trans hother)
      refine ⟨⟨hclaims.reason, hclaims.rule, text, htext, total, htotal, hpos⟩, hevidence, ?_⟩
      refine (validateExitSellPositionScope_exit hreads hsell htext htotal hrequested).2 ⟨hle, fun heffect => ?_⟩
      have hsame := hfull heffect
      rw [htotal, hrequested] at hsame
      exact Option.some.inj hsame
  · constructor
    · rintro ⟨hcost, -⟩
      -- without an exit effect the evidence is entry evidence, which no SELL is accepted with
      obtain ⟨hsource, -⟩ := validateCostSnapshot_sell hcost hsell
      have hentry : (submissionOf frame intent result).costSnapshot.prop "source" = .string "cost_model" := by
        show (createPaperDecisionExecutionCostEvidence _ _ _).prop "source" = _
        unfold createPaperDecisionExecutionCostEvidence
        dsimp only
        rw [if_neg]
        · simp [createExecutionCostSnapshotEvidence, JsValue.prop, assocGet_assocSet]
        · rintro ⟨-, heffect⟩
          exact hexit (by simpa [isExitPositionEffect, isExitIntent] using heffect)
      rw [hentry] at hsource
      simp at hsource
    · intro hclaims
      exact absurd hclaims.effect hexit

/-! ## Where the frame's position decides -/

/-- the condition: the quantity that the first position carries covers the SELL where any position does; and where it
carries none, the strategy's own exit metadata claims the exit exactly where a position covers the SELL -/
structure FrameDecides (frame : PaperDecisionInputFrame) (intent : ExecutionIntent) : Prop where
  carried : ∀ text, (firstPosition frame intent).bind positionMetadataQuantity = some text → HoldsPosition frame intent →
    Covers intent text
  notCarried : (firstPosition frame intent).bind positionMetadataQuantity = none →
    (ClaimsExit intent ↔ HoldsPosition frame intent)

omit [H.Prints] [H.Decimals] [H.PrintsUnsigned] in
/-- the first position is a position -/
theorem holdsPosition_of_first {text : String} (hsome : (firstPosition frame intent).bind positionMetadataQuantity = some text)
    (hcovers : Covers intent text) : HoldsPosition frame intent := by
  obtain ⟨position, hposition, htext⟩ := Option.bind_eq_some_iff.1 hsome
  have hmem := List.mem_of_find?_eq_some hposition
  have hmatch := List.find?_some hposition
  simp only [decide_eq_true_eq] at hmatch
  exact ⟨position, hmem, hmatch.2.1, hmatch.2.2.1, hmatch.2.2.2, text, htext, hcovers⟩

/-- **Runner and validator.** For every frame and every intent of it that was promoted, allowed and approved: a BUY without
exit metadata is accepted; and a SELL is accepted exactly where the frame has a position that covers it, if and only if the
frame decides. -/
theorem submissions_agree_iff [H.RejectsEmpty] (h : Submitted frame intent result) :
    (intent.side = .buy → ¬ CarriesExitMetadata intent → Accepts (submissionOf frame intent result)) ∧
    (intent.side = .sell →
      ((Accepts (submissionOf frame intent result) ↔ HoldsPosition frame intent) ↔ FrameDecides frame intent)) := by
  refine ⟨buy_accepted h, fun hside => ?_⟩
  rw [sell_accepted_iff h hside]
  cases hquantity : readExitPositionQuantity frame intent with
  | some text =>
    rw [claimsExit_of_position hside hquantity]
    rw [readExitPositionQuantity_eq] at hquantity
    constructor
    · intro hiff
      refine ⟨fun other hother hholds => ?_, fun hnone => ?_⟩
      · obtain rfl := Option.some.inj (hquantity.symm.trans hother)
        exact hiff.2 hholds
      · rw [hquantity] at hnone
        cases hnone
    · intro hdecides
      exact ⟨holdsPosition_of_first hquantity, hdecides.carried text hquantity⟩
  | none =>
    rw [executionIntent_plain hquantity]
    rw [readExitPositionQuantity_eq] at hquantity
    constructor
    · intro hiff
      refine ⟨fun other hother => ?_, fun _ => hiff⟩
      rw [hquantity] at hother
      cases hother
    · intro hdecides
      exact hdecides.notCarried hquantity

end Evidence

/-! ## A SELL with and without a position -/

namespace SellSample

def position : PaperDecisionPosition where
  market := "KRW-BTC"
  notionalBpsOfEquity := "2"
  exchangeId := "upbit_krw_spot"
  strategyId := some "s1"
  metadata := .object [("quantity", .string "2")]

def frame (positions : List PaperDecisionPosition) : PaperDecisionInputFrame where
  id := "f1"
  observedAt := .nanos 1
  exchangeId := "upbit_krw_spot"
  market := "KRW-BTC"
  features := []
  orderbook := none
  costInput := [("expectedReturnBps", .string "100"), ("entryFeeBps", .string "5"), ("exitFeeBps", .string "5"),
    ("spreadCostBpsP75", .string "2"), ("expectedSlippageBpsP95", .string "3"), ("cancelRequotePenaltyBps", .string "0")]
  risk := ⟨none, none, none, none, positions, none, none, [], none, none⟩
  phase15ApprovedAltMarkets := []
  metadata := .undefined

/-- a strategy's SELL of one, with metadata of its own -/
def sell (metadata : JsValue) : ExecutionIntent where
  exchangeId := "upbit_krw_spot"
  market := "KRW-BTC"
  strategyId := "s1"
  side := .sell
  requestedQuantity := "1"
  requestedNotional := "100"
  idempotencyKey := "k1"
  terms := .limit "100" false none
  metadata := metadata

/-- the exit metadata that the runner would have written, written by the strategy -/
def ownExit : JsValue :=
  .object [("position_effect", .string "REDUCE"), ("exit_reason_code", .string "take_profit"),
    ("exit_rule_id", .string "rule-1"), ("position_scope", .object [("totalQuantity", .string "5")])]

/-- the SELL as it is promoted -/
def promoted (positions : List PaperDecisionPosition) (metadata : JsValue) : ExecutionIntent :=
  withPromotionMetadata (sell metadata) "sell" .undefined (runnerMetadata (frame positions))

/-- whether it is promoted and allowed -/
def passes [Host] (positions : List PaperDecisionPosition) (metadata : JsValue) : Bool :=
  (validateOrderIntent 0 (sell metadata)).isEmpty ∧
    (costDecisionOf (frame positions) (promoted positions metadata)).tradeAllowed

/-- whether it is approved, and then accepted -/
def outcome [Host] (positions : List PaperDecisionPosition) (metadata : JsValue) : Option (Bool × Bool) :=
  (evaluateRiskGate (riskContextOf (frame positions) (promoted positions metadata))).toOption.map fun result =>
    (result.approved, (validateExecutionSubmission
      (submissionOf (frame positions) (promoted positions metadata) result) defaultPaperExecutionSafetyConfig).isNone)

theorem submitted [Host] {positions : List PaperDecisionPosition} {metadata : JsValue} {result : RiskGateResult}
    (hpasses : passes positions metadata = true)
    (hgate : evaluateRiskGate (riskContextOf (frame positions) (promoted positions metadata)) = .ok result)
    (happroved : result.approved = true) : Submitted (frame positions) (promoted positions metadata) result := by
  simp only [passes, decide_eq_true_eq, List.isEmpty_iff] at hpasses
  refine ⟨⟨"sell", [sell metadata], .undefined, ?_⟩, hpasses.2, hgate, happroved⟩
  simp [convertStrategyDecisionToOrderIntents, hpasses.1, promoted]

end SellSample

section Sample

local instance sellHost : Host := decimalHost

local instance sellHost_prints : Host.Prints sellHost := decimalHost_prints

local instance sellHost_decimals : Host.Decimals sellHost := decimalHost_decimals

local instance sellHost_printsUnsigned : Host.PrintsUnsigned sellHost := decimalHost_printsUnsigned

local instance sellHost_rejectsEmpty : Host.RejectsEmpty sellHost := decimalHost_rejectsEmpty

open SellSample in
/-- a SELL of one from a position of two is accepted -/
theorem sell_from_position : ∃ result, Submitted (frame [position]) (promoted [position] .undefined) result ∧
    Accepts (submissionOf (frame [position]) (promoted [position] .undefined) result) := by
  have hoption : (evaluateRiskGate (riskContextOf (frame [position]) (promoted [position] .undefined))).toOption.map
      (·.approved) = some true := by decide +kernel
  obtain ⟨result, hresult, happroved⟩ := Option.map_eq_some_iff.1 hoption
  have h := submitted (by decide +kernel) (Fallible.ok_of_toOption hresult) happroved
  have hcovers : Covers (promoted [position] .undefined) "2" := ⟨2, 1, by decide +kernel, by norm_num, by decide +kernel,
    by norm_num⟩
  have hcarried : (firstPosition (frame [position]) (promoted [position] .undefined)).bind positionMetadataQuantity
      = some "2" := by decide +kernel
  have hdecides : FrameDecides (frame [position]) (promoted [position] .undefined) := by
    refine ⟨fun text htext _ => ?_, fun hnone => ?_⟩
    · obtain rfl := Option.some.inj (hcarried.symm.trans htext)
      exact hcovers
    · rw [hcarried] at hnone
      cases hnone
  exact ⟨result, h, (((submissions_agree_iff h).2 rfl).2 hdecides).2 (holdsPosition_of_first hcarried hcovers)⟩

end Sample

open SellSample in
/-- a SELL is accepted although its frame has no position at all: its strategy attached the exit metadata -/
theorem sell_without_position : ∃ result, Submitted (frame []) (promoted [] ownExit) result ∧
    Accepts (submissionOf (frame []) (promoted [] ownExit) result) ∧ ¬ HoldsPosition (frame []) (promoted [] ownExit) := by
  have hoption : outcome [] ownExit = some (true, true) := by decide +kernel
  obtain ⟨result, hresult, hpair⟩ := Option.map_eq_some_iff.1 hoption
  obtain ⟨happroved, hnone⟩ := Prod.mk.inj hpair
  refine ⟨result, submitted (by decide +kernel) (Fallible.ok_of_toOption hresult) happroved,
    Option.isNone_iff_eq_none.1 hnone, ?_⟩
  rintro ⟨position, hposition, -⟩
  cases hposition

end SeeMirai.Decision
