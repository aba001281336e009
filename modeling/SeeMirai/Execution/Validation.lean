/-
`validateExecutionSubmission` (application/execution/execution-engine/validation.ts): the pure checks between an approved
candidate and the broker. Cost snapshot and risk approval are untyped JSON; a check that does not find what it needs
either refuses or, in `validateExitSellPositionScope`, lets the submission pass because an earlier check has to have
refused it. `none` is a valid submission.

Results:
- `accepted_sell_within_position`: an accepted SELL carries exit cost evidence for its own market and strategy and sells
  no more than the position it names, all of it when the effect is EXIT.
- `approval_not_transferable`: two accepted submissions with the same risk approval are the same order.
-/
import SeeMirai.Execution.Evidence

namespace SeeMirai.Execution

/-! ## Model -/

structure ExecutionSafetyConfig where
  liveTradingEnabled : Bool
  marketOrderEnabled : Bool
  entryMarketOrderEnabled : Bool
  paperNoKey : Bool
deriving DecidableEq, Repr

def defaultPaperExecutionSafetyConfig : ExecutionSafetyConfig where
  liveTradingEnabled := false
  marketOrderEnabled := false
  entryMarketOrderEnabled := false
  paperNoKey := true

inductive ExecutionRejectionReasonCode where
  | idempotencyKeyMissing
  | idempotencyKeyCollision
  | liveTradingDisabled
  | paperNoKeyRequired
  | marketOrderDisabled
  | entryMarketOrderDisabled
  | orderAmountInvalid
  | costSnapshotMissing
  | costSnapshotNotAllowed
  | costSnapshotMismatch
  | riskApprovalMissing
  | riskApprovalNotApproved
  | riskApprovalMismatch
  | exitCostEvidenceOnEntry
  | exitCostEvidenceInvalid
  | exitPositionScopeMismatch
  | exitSellQuantityExceedsPosition
  | exitSellQuantityMismatchPosition
deriving DecidableEq, Repr

structure ExecutionRejection where
  reasonCode : ExecutionRejectionReasonCode
  message : String
  metadata : Option JsonRecord

def reject (reasonCode : ExecutionRejectionReasonCode) (message : String) (metadata : Option JsonRecord) :
    Option ExecutionRejection := some ⟨reasonCode, message, metadata⟩

@[simp] theorem reject_ne_none {reasonCode : ExecutionRejectionReasonCode} {message : String}
    {metadata : Option JsonRecord} : reject reasonCode message metadata ≠ none := Option.some_ne_none _

def isApprovalCapableRiskStatus (value : JsValue) : Bool :=
  value.asString = some "PASS" ∨ value.asString = some "WARN"

/-- anything but an empty list or nothing at all -/
def hasProblemFieldList : JsValue → Bool
  | .undefined => false
  | .array [] => false
  | _ => true

def isNonEmptyString (value : JsValue) : Bool :=
  match value with
  | .string s => s.length ≠ 0
  | _ => false

def validateMarketOrderSafety (intent : ExecutionIntent) (safetyConfig : ExecutionSafetyConfig) :
    Option ExecutionRejection :=
  match intent.terms with
  | .limit _ _ _ => none
  | .market =>
    if safetyConfig.marketOrderEnabled = false then
      reject .marketOrderDisabled "Market order execution is disabled in the paper profile"
        (some [("order_type", .string "MARKET")])
    else if isEntryMarketOrderIntent intent ∧ safetyConfig.entryMarketOrderEnabled = false then
      reject .entryMarketOrderDisabled "Entry market order execution is disabled by the MVP execution boundary"
        (some [("order_type", .string "MARKET"), ("position_effect", .ofString (readOrderIntentPositionEffect intent))])
    else none

/-- exit metadata that an entry must not carry -/
def exitMetadataKeys : List String :=
  ["position_effect", "exit_reason_code", "exit_rule_id", "exit_cost_bps", "exit_slippage_bps"]

def isExitIntent (intent : ExecutionIntent) : Bool :=
  readOrderIntentPositionEffect intent = some "REDUCE" ∨ readOrderIntentPositionEffect intent = some "EXIT"

def validateExitCostEvidence (submission : ExecutionSubmission) : Option ExecutionRejection :=
  let intent := submission.intent
  let found := exitMetadataKeys.filter (fun key => (readStringMetadata intent.metadata key).isSome)
  if isExitIntent intent ∧ intent.side ≠ .sell then
    reject .exitCostEvidenceOnEntry "Entry order intent must not carry REDUCE or EXIT position effect"
      (some [("side", .string (sideText intent.side)),
        ("position_effect", .ofString (readOrderIntentPositionEffect intent))])
  else if isExitIntent intent = false ∧ found ≠ [] then
    reject .exitCostEvidenceOnEntry "Entry order intent must not carry exit-related metadata or cost evidence"
      (some [("found_exit_metadata", .array (found.map .string))])
  else none

section Validate

variable [Host]

/-- `parseFinancialDecimal(value).greaterThan(0)`, and the text is a decimal at all -/
def isPositiveDecimal (value : String) : Bool :=
  match parseFinancialDecimal value with
  | .ok q => 0 < q
  | .error _ => false

def appendInvalidPositiveDecimalField (target : List String) (fieldName value : String) : List String :=
  if isPositiveDecimal value then target else target ++ [fieldName]

def validateOrderAmounts (intent : ExecutionIntent) : Option ExecutionRejection :=
  let target := appendInvalidPositiveDecimalField [] "requested_quantity" intent.requestedQuantity
  let target := appendInvalidPositiveDecimalField target "requested_notional" intent.requestedNotional
  let invalidFields :=
    match intent.terms.requestedPrice with
    | some requestedPrice => appendInvalidPositiveDecimalField target "requested_price" requestedPrice
    | none => target
  if invalidFields = [] then none
  else
    reject .orderAmountInvalid "Execution order amount fields must be positive decimal strings"
      (some [("invalid_fields", .array (invalidFields.map .string))])

/-- a text of a decimal without a minus sign -/
def isNonNegativeDecimal (value : JsValue) : Bool :=
  match value with
  | .string s =>
    match parseDec s with
    | .ok d => s.length ≠ 0 ∧ d.isNegative = false
    | .error _ => false
  | _ => false

def appendInvalidNonNegativeDecimalField (target : List String) (fieldName : String) (value : JsValue) : List String :=
  if isNonNegativeDecimal value then target else target ++ [fieldName]

def collectInvalidExitCostFields (snapshot : JsValue) : List String :=
  let target := appendInvalidNonNegativeDecimalField [] "exit_cost_bps" (snapshot.prop "exit_cost_bps")
  appendInvalidNonNegativeDecimalField target "exit_slippage_bps" (snapshot.prop "exit_slippage_bps")

/-- `compareCostSnapshotOrderIntent` and `compareRiskApprovalOrderIntent` -/
def compareSubmissionOrderIntent (submission : ExecutionSubmission) (orderIntent : JsValue) : JsonRecord :=
  compareOrderIntentEvidence orderIntent
    (.object (createOrderIntentEvidence submission.intent (readSubmissionExpectedLossBps submission)))

/-- the stored fingerprint of exit evidence is optional -/
def validateExitCostOrderIntent (submission : ExecutionSubmission) (exitCostOrderIntent : JsValue) :
    Option ExecutionRejection :=
  if exitCostOrderIntent.isUndefined then none
  else if exitCostOrderIntent.isNonEmptyRecord = false then
    reject .costSnapshotMismatch "Exit cost evidence order intent fingerprint must be an object" none
  else
    match compareSubmissionOrderIntent submission exitCostOrderIntent with
    | [] => none
    | mismatches =>
      reject .costSnapshotMismatch "Exit cost evidence does not match the execution order intent"
        (some [("mismatches", .object mismatches)])

/-- the position the exit evidence was made for is the intent's and is open -/
def validateExitPositionScope (intent : ExecutionIntent) (scope : JsValue) : Option ExecutionRejection :=
  if scope.isNonEmptyRecord = false then
    reject .exitCostEvidenceInvalid "Exit cost evidence requires position scope" none
  else if (scope.prop "market").asString ≠ some intent.market ∨
      (scope.prop "strategy_id").asString ≠ some intent.strategyId ∨
      isNonEmptyString (scope.prop "total_quantity") = false then
    reject .exitPositionScopeMismatch "Exit cost evidence position scope does not match the execution order intent"
      (some [("scope_market", scope.prop "market"), ("scope_strategy_id", scope.prop "strategy_id"),
        ("scope_total_quantity", scope.prop "total_quantity"), ("intent_market", .string intent.market),
        ("intent_strategy_id", .string intent.strategyId)])
  else
    match parseFinancialDecimal ((scope.prop "total_quantity").asString.getD "") with
    | .ok totalQuantity =>
      if 0 < totalQuantity then none
      else
        reject .exitPositionScopeMismatch "Exit cost evidence requires a positive open position quantity"
          (some [("scope_total_quantity", scope.prop "total_quantity")])
    | .error _ =>
      reject .exitPositionScopeMismatch "Exit cost evidence position quantity must be a decimal string"
        (some [("scope_total_quantity", scope.prop "total_quantity")])

/-- a cost snapshot from the exit cost model -/
def validateExitCostSnapshot (submission : ExecutionSubmission) : Option ExecutionRejection :=
  let intent := submission.intent
  let snapshot := submission.costSnapshot
  let exitReasonCode := readStringMetadata intent.metadata "exit_reason_code"
  let exitRuleId := readStringMetadata intent.metadata "exit_rule_id"
  let invalidExitCostFields := collectInvalidExitCostFields snapshot
  if isExitIntent intent = false then
    reject .exitCostEvidenceOnEntry "Exit cost evidence must not be used for entry order intent"
      (some [("source", snapshot.prop "source"),
        ("position_effect", .ofString (readOrderIntentPositionEffect intent))])
  else if intent.side ≠ .sell then
    reject .exitCostEvidenceOnEntry "Exit cost evidence must be attached only to SELL exit order intent"
      (some [("source", snapshot.prop "source"), ("side", .string (sideText intent.side)),
        ("position_effect", .ofString (readOrderIntentPositionEffect intent))])
  else if exitReasonCode.isNone ∨ exitRuleId.isNone then
    reject .exitCostEvidenceInvalid "Exit cost evidence requires exit reason and rule metadata"
      (some [("missing_exit_reason_code", .bool exitReasonCode.isNone), ("missing_exit_rule_id", .bool exitRuleId.isNone)])
  else if (snapshot.prop "exit_cost_allowed").asBoolean ≠ some true ∨
      (snapshot.prop "exit_cost_reason_code").asString ≠ some "exit_cost_margin_ok" ∨ invalidExitCostFields ≠ [] then
    let invalidFields : JsonRecord :=
      if invalidExitCostFields = [] then [] else [("invalid_fields", .array (invalidExitCostFields.map .string))]
    reject .exitCostEvidenceInvalid "Exit cost evidence must have allowed flag with valid cost fields"
      (some ([("exit_cost_allowed", snapshot.prop "exit_cost_allowed"),
        ("exit_cost_reason_code", snapshot.prop "exit_cost_reason_code")] ++ invalidFields))
  else
    (validateExitPositionScope intent (snapshot.prop "position_scope")).or
      (validateExitCostOrderIntent submission (snapshot.prop "order_intent"))

/-- a cost snapshot from the entry cost model; a SELL never gets here with one -/
def validateEntryCostSnapshot (submission : ExecutionSubmission) : Option ExecutionRejection :=
  let intent := submission.intent
  let snapshot := submission.costSnapshot
  if intent.side = .sell then
    reject .exitCostEvidenceInvalid "SELL order intent requires exit_cost_model evidence instead of entry cost snapshot"
      (some [("source", snapshot.prop "source"), ("side", .string (sideText intent.side)),
        ("position_effect", .ofString (readOrderIntentPositionEffect intent))])
  else if (snapshot.prop "source").asString ≠ some "cost_model" ∨
      (snapshot.prop "trade_allowed").asBoolean ≠ some true ∨
      (snapshot.prop "reason_code").asString ≠ some "cost_margin_ok" ∨
      hasProblemFieldList (snapshot.prop "missing_fields") ∨ hasProblemFieldList (snapshot.prop "invalid_fields") then
    reject .costSnapshotNotAllowed "Cost snapshot must allow the trade with an OK margin reason"
      (some [("source", snapshot.prop "source"), ("trade_allowed", snapshot.prop "trade_allowed"),
        ("reason_code", snapshot.prop "reason_code"), ("missing_fields", snapshot.prop "missing_fields"),
        ("invalid_fields", snapshot.prop "invalid_fields")])
  else if (snapshot.prop "order_intent").isNonEmptyRecord = false then
    reject .costSnapshotMismatch "Cost snapshot requires order intent fingerprint" none
  else
    let target := appendStringMismatch [] "cost_snapshot_exchange_id" (snapshot.prop "exchange_id") (some intent.exchangeId)
    let target := appendStringMismatch target "cost_snapshot_market" (snapshot.prop "market") (some intent.market)
    match target ++ compareSubmissionOrderIntent submission (snapshot.prop "order_intent") with
    | [] => none
    | mismatches =>
      reject .costSnapshotMismatch "Cost snapshot does not match the execution order intent"
        (some [("mismatches", .object mismatches)])

def validateCostSnapshot (submission : ExecutionSubmission) : Option ExecutionRejection :=
  if submission.costSnapshot.isNonEmptyRecord = false then
    reject .costSnapshotMissing "Execution submission requires a cost snapshot" none
  else if (submission.costSnapshot.prop "source").asString = some "exit_cost_model" then
    validateExitCostSnapshot submission
  else validateEntryCostSnapshot submission

/-- what a quantity that is no decimal leads to: the check passes -/
def validateExitSellPositionScope (submission : ExecutionSubmission) : Option ExecutionRejection :=
  let intent := submission.intent
  let positionScope := submission.costSnapshot.prop "position_scope"
  if intent.side ≠ .sell then none
  else
    match positionScope.isNonEmptyRecord, (positionScope.prop "total_quantity").asString with
    | true, some totalQuantity =>
      match parseFinancialDecimal intent.requestedQuantity, parseFinancialDecimal totalQuantity with
      | .ok requestedQty, .ok openQty =>
        if openQty < requestedQty then
          reject .exitSellQuantityExceedsPosition
            "SELL order quantity exceeds open position — submit blocked before broker"
            (some [("requested_quantity", .string intent.requestedQuantity),
              ("open_position_quantity", .string totalQuantity)])
        else if readOrderIntentPositionEffect intent = some "EXIT" ∧ requestedQty ≠ openQty then
          reject .exitSellQuantityMismatchPosition
            "EXIT order quantity must match the full open position before broker submission"
            (some [("requested_quantity", .string intent.requestedQuantity),
              ("open_position_quantity", .string totalQuantity),
              ("position_effect", .ofString (readOrderIntentPositionEffect intent))])
        else none
      | _, _ => none
    | _, _ => none

def validateRiskApproval (submission : ExecutionSubmission) : Option ExecutionRejection :=
  let riskApproval := submission.riskApproval
  if riskApproval.isNonEmptyRecord = false then
    reject .riskApprovalMissing "Execution submission requires RiskGate approval evidence" none
  else if (riskApproval.prop "source").asString ≠ some "risk_gate" ∨
      (riskApproval.prop "approved").asBoolean ≠ some true ∨ (riskApproval.prop "action").asString ≠ some "ALLOW" ∨
      isApprovalCapableRiskStatus (riskApproval.prop "status") = false ∨
      hasProblemFieldList (riskApproval.prop "failed_evaluation_reason_codes") then
    reject .riskApprovalNotApproved "RiskGate evidence must be an approval-capable ALLOW result"
      (some [("source", riskApproval.prop "source"), ("approved", riskApproval.prop "approved"),
        ("action", riskApproval.prop "action"), ("status", riskApproval.prop "status"),
        ("failed_evaluation_reason_codes", riskApproval.prop "failed_evaluation_reason_codes")])
  else if (riskApproval.prop "order_intent").isNonEmptyRecord = false then
    reject .riskApprovalMissing "RiskGate evidence requires order intent fingerprint" none
  else
    match compareSubmissionOrderIntent submission (riskApproval.prop "order_intent") with
    | [] => none
    | mismatches =>
      reject .riskApprovalMismatch "RiskGate evidence does not match the execution order intent"
        (some [("mismatches", .object mismatches)])

def validateExecutionSubmission (submission : ExecutionSubmission) (safetyConfig : ExecutionSafetyConfig) :
    Option ExecutionRejection :=
  if (trim submission.intent.idempotencyKey).length = 0 then
    reject .idempotencyKeyMissing "Execution submission requires a non-empty idempotency key" none
  else if safetyConfig.liveTradingEnabled then
    reject .liveTradingDisabled "Live trading is disabled for the MVP execution boundary" none
  else if safetyConfig.paperNoKey = false then
    reject .paperNoKeyRequired "Paper execution must be able to run without API keys" none
  else
    (validateMarketOrderSafety submission.intent safetyConfig).or <|
    (validateOrderAmounts submission.intent).or <|
    (validateCostSnapshot submission).or <|
    (validateExitCostEvidence submission).or <|
    (validateExitSellPositionScope submission).or <|
    validateRiskApproval submission

/-! ## What acceptance says -/

/-- an accepted submission passed every check -/
structure Accepted (submission : ExecutionSubmission) : Prop where
  amounts : validateOrderAmounts submission.intent = none
  costSnapshot : validateCostSnapshot submission = none
  positionScope : validateExitSellPositionScope submission = none
  riskApproval : validateRiskApproval submission = none

theorem accepted_of_valid {submission : ExecutionSubmission} {safetyConfig : ExecutionSafetyConfig}
    (h : validateExecutionSubmission submission safetyConfig = none) : Accepted submission := by
  unfold validateExecutionSubmission at h
  split_ifs at h with hkey hlive hpaper
  · exact absurd h reject_ne_none
  · exact absurd h reject_ne_none
  · exact absurd h reject_ne_none
  · simp only [Option.or_eq_none_iff] at h
    obtain ⟨-, hamounts, hcost, -, hscope, hrisk⟩ := h
    exact ⟨hamounts, hcost, hscope, hrisk⟩

theorem isPositiveDecimal_iff {value : String} :
    isPositiveDecimal value = true ↔ ∃ q, Host.valueOf value = some q ∧ 0 < q := by
  unfold isPositiveDecimal
  cases h : parseFinancialDecimal value with
  | ok q => simp [parseFinancialDecimal_eq_ok.1 h]
  | error e =>
    have hnone : ∀ q, Host.valueOf value ≠ some q := fun q hq => by
      rw [parseFinancialDecimal_eq_ok.2 hq] at h
      cases h
    simp [hnone]

theorem appendInvalidPositiveDecimalField_eq_nil {target : List String} {fieldName value : String} :
    appendInvalidPositiveDecimalField target fieldName value = [] ↔ target = [] ∧ isPositiveDecimal value = true := by
  unfold appendInvalidPositiveDecimalField
  split_ifs with h <;> simp [h]

/-- the amounts of an accepted submission are positive decimals -/
theorem validateOrderAmounts_eq_none {intent : ExecutionIntent} (h : validateOrderAmounts intent = none) :
    isPositiveDecimal intent.requestedQuantity = true ∧ isPositiveDecimal intent.requestedNotional = true ∧
      ∀ price, intent.terms.requestedPrice = some price → isPositiveDecimal price = true := by
  unfold validateOrderAmounts at h
  cases hprice : intent.terms.requestedPrice with
  | none =>
    simp only [hprice] at h
    split_ifs at h with hinvalid
    · simp only [appendInvalidPositiveDecimalField_eq_nil, true_and] at hinvalid
      exact ⟨hinvalid.1, hinvalid.2, by simp⟩
    · exact absurd h reject_ne_none
  | some price =>
    simp only [hprice] at h
    split_ifs at h with hinvalid
    · simp only [appendInvalidPositiveDecimalField_eq_nil, true_and] at hinvalid
      exact ⟨hinvalid.1.1, hinvalid.1.2, by simpa using hinvalid.2⟩
    · exact absurd h reject_ne_none

theorem validateOrderAmounts_limit {intent : ExecutionIntent} {price : String}
    (hprice : intent.terms.requestedPrice = some price) (hquantity : isPositiveDecimal intent.requestedQuantity = true)
    (hnotional : isPositiveDecimal intent.requestedNotional = true) (hpositive : isPositiveDecimal price = true) :
    validateOrderAmounts intent = none := by
  unfold validateOrderAmounts
  simp only [hprice]
  rw [if_pos]
  simp only [appendInvalidPositiveDecimalField_eq_nil]
  exact ⟨⟨⟨trivial, hquantity⟩, hnotional⟩, hpositive⟩

theorem Accepted.readable {submission : ExecutionSubmission} (h : Accepted submission) :
    Readable submission.intent := by
  have hvalue : ∀ {value}, isPositiveDecimal value = true → ∃ q, Host.valueOf value = some q := fun hpos =>
    let ⟨q, hq, _⟩ := isPositiveDecimal_iff.1 hpos
    ⟨q, hq⟩
  obtain ⟨hquantity, hnotional, hprice⟩ := validateOrderAmounts_eq_none h.amounts
  exact ⟨hvalue hquantity, hvalue hnotional, fun price hp => hvalue (hprice price hp)⟩

/-! ## A SELL stays within its position -/

/-- the position scope of accepted exit evidence: its own market and strategy, and an open quantity -/
theorem validateExitPositionScope_eq_none {intent : ExecutionIntent} {scope : JsValue}
    (h : validateExitPositionScope intent scope = none) :
    scope.isNonEmptyRecord = true ∧ scope.prop "market" = .string intent.market ∧
      scope.prop "strategy_id" = .string intent.strategyId ∧
      ∃ totalQuantity openQty, scope.prop "total_quantity" = .string totalQuantity ∧
        Host.valueOf totalQuantity = some openQty := by
  unfold validateExitPositionScope at h
  split_ifs at h with hrecord hscope
  · exact absurd h reject_ne_none
  · exact absurd h reject_ne_none
  · simp only [not_or, not_not, Bool.not_eq_false] at hscope
    obtain ⟨hmarket, hstrategy, htext⟩ := hscope
    have htotal : ∃ text, scope.prop "total_quantity" = .string text := by
      cases hprop : scope.prop "total_quantity" <;> simp [isNonEmptyString, hprop] at htext ⊢
    obtain ⟨totalQuantity, htotal⟩ := htotal
    simp only [htotal, JsValue.asString, Option.getD_some] at h
    refine ⟨by simpa using hrecord, JsValue.asString_eq_some.1 hmarket, JsValue.asString_eq_some.1 hstrategy, ?_⟩
    cases hparse : parseFinancialDecimal totalQuantity with
    | ok openQty => exact ⟨totalQuantity, openQty, htotal, parseFinancialDecimal_eq_ok.1 hparse⟩
    | error e =>
      simp only [hparse] at h
      exact absurd h reject_ne_none

/-- an accepted SELL has exit evidence with a valid position scope -/
theorem validateCostSnapshot_sell {submission : ExecutionSubmission} (h : validateCostSnapshot submission = none)
    (hside : submission.intent.side = .sell) :
    submission.costSnapshot.prop "source" = .string "exit_cost_model" ∧
      validateExitPositionScope submission.intent (submission.costSnapshot.prop "position_scope") = none := by
  unfold validateCostSnapshot at h
  split_ifs at h with hrecord hsource
  · exact absurd h reject_ne_none
  · refine ⟨JsValue.asString_eq_some.1 hsource, ?_⟩
    unfold validateExitCostSnapshot at h
    simp only at h
    split_ifs at h
    · exact absurd h reject_ne_none
    · exact absurd h reject_ne_none
    · exact absurd h reject_ne_none
    · exact absurd h reject_ne_none
    · exact absurd h reject_ne_none
    · exact (Option.or_eq_none_iff.1 h).1
  · unfold validateEntryCostSnapshot at h
    simp only [hside, if_true] at h
    exact absurd h reject_ne_none

/-- **No oversell.** An accepted SELL carries exit cost evidence for its own market and strategy, sells a positive
quantity and no more than the position the evidence names, and with position effect EXIT exactly that position. -/
theorem accepted_sell_within_position {submission : ExecutionSubmission} {safetyConfig : ExecutionSafetyConfig}
    (h : validateExecutionSubmission submission safetyConfig = none) (hside : submission.intent.side = .sell) :
    submission.costSnapshot.prop "source" = .string "exit_cost_model" ∧
      (submission.costSnapshot.prop "position_scope").prop "market" = .string submission.intent.market ∧
      (submission.costSnapshot.prop "position_scope").prop "strategy_id" = .string submission.intent.strategyId ∧
      ∃ totalQuantity requestedQty openQty,
        (submission.costSnapshot.prop "position_scope").prop "total_quantity" = .string totalQuantity ∧
        Host.valueOf submission.intent.requestedQuantity = some requestedQty ∧
        Host.valueOf totalQuantity = some openQty ∧ 0 < requestedQty ∧ requestedQty ≤ openQty ∧
        (readOrderIntentPositionEffect submission.intent = some "EXIT" → requestedQty = openQty) := by
  have haccepted := accepted_of_valid h
  obtain ⟨hsource, hscope⟩ := validateCostSnapshot_sell haccepted.costSnapshot hside
  obtain ⟨hrecord, hmarket, hstrategy, totalQuantity, openQty, htotal, hopen⟩ := validateExitPositionScope_eq_none hscope
  obtain ⟨hquantity, -, -⟩ := validateOrderAmounts_eq_none haccepted.amounts
  obtain ⟨requestedQty, hrequested, hpos⟩ := isPositiveDecimal_iff.1 hquantity
  refine ⟨hsource, hmarket, hstrategy, totalQuantity, requestedQty, openQty, htotal, hrequested, hopen, hpos, ?_⟩
  -- both quantities are decimals, so the last check compares them
  have hcheck := haccepted.positionScope
  unfold validateExitSellPositionScope at hcheck
  simp only [hside, ne_eq, not_true_eq_false, if_false, hrecord, htotal, JsValue.asString,
    parseFinancialDecimal_eq_ok.2 hrequested, parseFinancialDecimal_eq_ok.2 hopen] at hcheck
  split_ifs at hcheck with hexceeds hexit
  · exact absurd hcheck reject_ne_none
  · exact absurd hcheck reject_ne_none
  · exact ⟨not_lt.1 hexceeds, fun heffect => not_not.1 fun hne => hexit ⟨heffect, hne⟩⟩

/-- the approval an accepted submission carries agrees with its fingerprint -/
theorem Accepted.agrees {submission : ExecutionSubmission} (h : Accepted submission) :
    Agrees (submission.riskApproval.prop "order_intent")
      (fingerprint submission.intent (readSubmissionExpectedLossBps submission)) := by
  have hrisk := h.riskApproval
  unfold validateRiskApproval at hrisk
  simp only at hrisk
  split_ifs at hrisk
  · exact absurd hrisk reject_ne_none
  · exact absurd hrisk reject_ne_none
  · exact absurd hrisk reject_ne_none
  · split at hrisk
    · rename_i hnil
      exact compareOrderIntentEvidence_eq_nil.1 hnil
    · exact absurd hrisk reject_ne_none

end Validate

/-- a LIMIT SELL of a whole position of two, its quantity spelled in two ways -/
def exitSell (quantity : String) : ExecutionSubmission where
  intent :=
    { exchangeId := "upbit"
      market := "KRW-BTC"
      strategyId := "trend"
      side := .sell
      requestedQuantity := quantity
      requestedNotional := "20"
      idempotencyKey := "exit-1"
      terms := .limit "10" false none
      metadata := .object [("position_effect", .string "EXIT"), ("exit_reason_code", .string "stop_loss"),
        ("exit_rule_id", .string "rule-1")] }
  costSnapshot := .object [("source", .string "exit_cost_model"), ("exit_cost_allowed", .bool true),
    ("exit_cost_reason_code", .string "exit_cost_margin_ok"), ("exit_cost_bps", .string "5"),
    ("exit_slippage_bps", .string "3"),
    ("position_scope", .object [("market", .string "KRW-BTC"), ("strategy_id", .string "trend"),
      ("total_quantity", .string "2")])]
  riskApproval := .object [("source", .string "risk_gate"), ("approved", .bool true), ("action", .string "ALLOW"),
    ("status", .string "PASS"),
    ("order_intent", .object [("exchange_id", .string "upbit"), ("market", .string "KRW-BTC"),
      ("strategy_id", .string "trend"), ("side", .string "SELL"), ("order_type", .string "LIMIT"),
      ("requested_quantity", .string "2"), ("requested_notional", .string "20"), ("idempotency_key", .string "exit-1"),
      ("position_effect", .string "EXIT"), ("requested_price", .string "10"), ("post_only", .bool false),
      ("time_in_force", .string "GTC"), ("expected_loss_bps_of_equity", .string "1")])]
  expectedLossBpsOfEquity := some "01"
  submittedAt := .nanos 0

theorem exitSell_accepted {quantity : String}
    (h : (validateExecutionSubmission (exitSell quantity) defaultPaperExecutionSafetyConfig).isNone = true) :
    validateExecutionSubmission (exitSell quantity) defaultPaperExecutionSafetyConfig = none :=
  Option.isNone_iff_eq_none.1 h

/-- selling the whole position of two passes -/
theorem exitSell_within_position :
    ∃ requestedQty openQty : ℚ, Host.valueOf "02" = some requestedQty ∧ Host.valueOf "2" = some openQty ∧
      requestedQty = openQty := by
  have haccepted : validateExecutionSubmission (exitSell "02") defaultPaperExecutionSafetyConfig = none :=
    exitSell_accepted (by decide +kernel)
  obtain ⟨-, -, -, totalQuantity, requestedQty, openQty, htotal, hrequested, hopen, -, -, hexit⟩ :=
    accepted_sell_within_position haccepted rfl
  obtain rfl : "2" = totalQuantity := JsValue.string.inj htotal
  exact ⟨requestedQty, openQty, hrequested, hopen, hexit (by decide +kernel)⟩

/-! ## An approval is for one order -/

section Prints

variable [H : Host] [H.Prints]

/-- **Evidence is not transferable.** Two accepted submissions that carry the same risk approval are the same order, up to
the spelling of decimals and of defaults. -/
theorem approval_not_transferable {a b : ExecutionSubmission} {configA configB : ExecutionSafetyConfig}
    (ha : validateExecutionSubmission a configA = none) (hb : validateExecutionSubmission b configB = none)
    (hsame : a.riskApproval = b.riskApproval) :
    SameOrder a.intent b.intent (readSubmissionExpectedLossBps a) (readSubmissionExpectedLossBps b) := by
  have hA := accepted_of_valid ha
  have hB := accepted_of_valid hb
  have hagree := hA.agrees
  rw [hsame] at hagree
  exact sameOrder_of_agrees hA.readable hB.readable hagree hB.agrees

end Prints

/-- one approval, two spellings of the quantity: the same order -/
theorem exitSell_same_order :
    SameOrder (exitSell "2").intent (exitSell "02").intent (some "01") (some "01") :=
  approval_not_transferable (exitSell_accepted (by decide +kernel)) (exitSell_accepted (by decide +kernel)) rfl

end SeeMirai.Execution
