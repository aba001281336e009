/-
The evidence for an alt market of phase 1.5 (domain/phase-1-5.ts). An evaluation of a candidate looks at seven conditions
and notes each of them once; what cannot be read fails. The snapshot it makes is an APPROVE exactly when nothing failed.

The actual and threshold values that a condition carries for its reader are left out: no decision is taken from them.

Results:
- `evaluatePhase15AltEligibility_complete`: an evaluation notes the seven conditions once each.
- `evaluatePhase15AltEligibility_action`: it approves exactly when none failed.
-/
import SeeMirai.Shared.Decimal
import SeeMirai.Lib.JsValue

namespace SeeMirai.Universe

/-! ## Evidence -/

inductive Phase15AltApprovalAction where
  | approve
  | reject
  | revoke
  | expire
deriving DecidableEq, Repr

inductive ConditionKey where
  | listingAge
  | marketWarning
  | marketCaution
  | thirtyDayAverageTradeValue
  | sevenDaySpreadP95
  | expectedSlippage
  | depth
deriving DecidableEq, Repr

/-- a JavaScript number -/
inductive JsNumber where
  | finite (value : ℚ)
  | infinite (negative : Bool)
  | notANumber
deriving DecidableEq

structure Phase15AltEligibilityThresholds where
  minListingAgeDays : JsNumber
  minThirtyDayAverageTradeValueKrw : String
  maxSevenDaySpreadP95Bps : String
  maxExpectedSlippageBps : String
  minDepthKrw : String
deriving DecidableEq

structure Phase15AltApprovalEvidenceCondition where
  key : ConditionKey
  passed : Bool
  reasonCode : String
deriving DecidableEq

structure Phase15AltApprovalEvidenceSnapshot where
  exchangeId : String
  market : String
  action : Phase15AltApprovalAction
  observedAt : TimestampInput
  thresholds : Phase15AltEligibilityThresholds
  conditions : List Phase15AltApprovalEvidenceCondition
  approvedBy : Option String
  evidenceId : Option String
  source : Option String
  metadata : Option JsonRecord

/-- the conditions that an approval needs -/
def requiredPhase15ApprovalConditionKeys : List ConditionKey :=
  [.listingAge, .marketWarning, .marketCaution, .thirtyDayAverageTradeValue, .sevenDaySpreadP95, .expectedSlippage,
    .depth]

theorem mem_required (key : ConditionKey) : key ∈ requiredPhase15ApprovalConditionKeys := by cases key <;> decide

/-! ## Evaluation -/

/-- a text, or a decimal.js number, `none` where it is not finite -/
inductive FinancialDecimalInput where
  | text (value : String)
  | number (value : Option Dec)

structure MarketStatus where
  exchangeId : String
  market : String
  tradable : Bool
  warning : Bool
  caution : Bool
  reasonCodes : List String
deriving DecidableEq

structure Phase15AltEligibilityInput where
  exchangeId : String
  market : String
  observedAt : TimestampInput
  thresholds : Phase15AltEligibilityThresholds
  listingAgeDays : Option JsNumber
  marketStatus : Option MarketStatus
  thirtyDayAverageTradeValueKrw : Option FinancialDecimalInput
  sevenDaySpreadP95Bps : Option FinancialDecimalInput
  expectedSlippageBps : Option FinancialDecimalInput
  depthKrw : Option FinancialDecimalInput
  approvedBy : Option String
  evidenceId : Option String
  source : Option String
  metadata : Option JsonRecord

structure Phase15AltEligibilityDecision where
  eligible : Bool
  reasonCode : String
  evidence : Phase15AltApprovalEvidenceSnapshot
  failedConditions : List Phase15AltApprovalEvidenceCondition

/-- `value >= bound` for a finite value -/
def JsNumber.atMost (bound : JsNumber) (value : ℚ) : Bool :=
  match bound with
  | .finite b => b ≤ value
  | .infinite negative => negative
  | .notANumber => false

def evaluateListingAge (input : Phase15AltEligibilityInput) : Phase15AltApprovalEvidenceCondition :=
  match input.listingAgeDays with
  | some (.finite days) =>
    if days < 0 then ⟨.listingAge, false, "phase_1_5_listing_age_invalid"⟩
    else
      let passed := input.thresholds.minListingAgeDays.atMost days
      ⟨.listingAge, passed, if passed then "phase_1_5_listing_age_sufficient" else "phase_1_5_listing_age_too_young"⟩
  | _ => ⟨.listingAge, false, "phase_1_5_listing_age_invalid"⟩

/-- the reason why a status says nothing about the candidate -/
def evaluateMarketStatusIdentity (input : Phase15AltEligibilityInput) : Option String :=
  match input.marketStatus with
  | none => some "phase_1_5_market_status_missing"
  | some status =>
    if status.exchangeId ≠ input.exchangeId ∨ status.market ≠ input.market then
      some "phase_1_5_market_status_mismatch"
    else none

def withoutUniverseMembershipReasonCodes (reasonCodes : List String) : List String :=
  reasonCodes.filter fun reasonCode => ¬ reasonCode.startsWith "market_not_in_mvp_universe:"

/-- a warning or a caution of the market; a market that is not tradable for another reason than its phase fails too -/
def evaluateMarketFlag (key : ConditionKey) (flag : MarketStatus → Bool) (present absent : String)
    (input : Phase15AltEligibilityInput) : Phase15AltApprovalEvidenceCondition :=
  match evaluateMarketStatusIdentity input, input.marketStatus with
  | some problem, _ => ⟨key, false, problem⟩
  | none, none => ⟨key, true, absent⟩
  | none, some status =>
    if flag status then ⟨key, false, present⟩
    else if status.tradable = false ∧ withoutUniverseMembershipReasonCodes status.reasonCodes ≠ [] then
      ⟨key, false, "phase_1_5_market_not_tradable"⟩
    else ⟨key, true, absent⟩

def evaluateMarketWarning : Phase15AltEligibilityInput → Phase15AltApprovalEvidenceCondition :=
  evaluateMarketFlag .marketWarning MarketStatus.warning "phase_1_5_market_warning_present"
    "phase_1_5_market_warning_absent"

def evaluateMarketCaution : Phase15AltEligibilityInput → Phase15AltApprovalEvidenceCondition :=
  evaluateMarketFlag .marketCaution MarketStatus.caution "phase_1_5_market_caution_present"
    "phase_1_5_market_caution_absent"

section Evaluation

variable [Host]

/-- a minus sign is refused, on a zero too -/
def parseNonNegativeDecimal (input : FinancialDecimalInput) : Option ℚ :=
  let value : Option Dec :=
    match input with
    | .text s => (parseDec s).toOption
    | .number value => value
  value.bind fun d => if d.isNegative then none else some d.value

/-- the reason codes of a condition on a decimal -/
structure DecimalConditionCodes where
  missing : String
  invalid : String
  pass : String
  fail : String

def evaluateDecimalCondition (key : ConditionKey) (actualValue : Option FinancialDecimalInput) (thresholdValue : String)
    (codes : DecimalConditionCodes) (predicate : ℚ → ℚ → Bool) : Phase15AltApprovalEvidenceCondition :=
  match actualValue with
  | none => ⟨key, false, codes.missing⟩
  | some actualValue =>
    match parseNonNegativeDecimal actualValue, parseNonNegativeDecimal (.text thresholdValue) with
    | some actual, some threshold =>
      let passed := predicate actual threshold
      ⟨key, passed, if passed then codes.pass else codes.fail⟩
    | _, _ => ⟨key, false, codes.invalid⟩

def evaluateMinimumDecimalCondition (key : ConditionKey) (actualValue : Option FinancialDecimalInput)
    (thresholdValue : String) (codes : DecimalConditionCodes) : Phase15AltApprovalEvidenceCondition :=
  evaluateDecimalCondition key actualValue thresholdValue codes fun actual threshold => threshold ≤ actual

def evaluateMaximumDecimalCondition (key : ConditionKey) (actualValue : Option FinancialDecimalInput)
    (thresholdValue : String) (codes : DecimalConditionCodes) : Phase15AltApprovalEvidenceCondition :=
  evaluateDecimalCondition key actualValue thresholdValue codes fun actual threshold => actual ≤ threshold

/-- the seven conditions of a candidate, in the order they are noted -/
def evaluateConditions (input : Phase15AltEligibilityInput) : List Phase15AltApprovalEvidenceCondition :=
  [evaluateListingAge input, evaluateMarketWarning input, evaluateMarketCaution input,
    evaluateMinimumDecimalCondition .thirtyDayAverageTradeValue input.thirtyDayAverageTradeValueKrw
      input.thresholds.minThirtyDayAverageTradeValueKrw
      ⟨"phase_1_5_30d_trade_value_missing", "phase_1_5_30d_trade_value_invalid",
        "phase_1_5_30d_trade_value_sufficient", "phase_1_5_30d_trade_value_insufficient"⟩,
    evaluateMaximumDecimalCondition .sevenDaySpreadP95 input.sevenDaySpreadP95Bps
      input.thresholds.maxSevenDaySpreadP95Bps
      ⟨"phase_1_5_spread_p95_missing", "phase_1_5_spread_p95_invalid", "phase_1_5_spread_p95_within_limit",
        "phase_1_5_spread_p95_too_wide"⟩,
    evaluateMaximumDecimalCondition .expectedSlippage input.expectedSlippageBps input.thresholds.maxExpectedSlippageBps
      ⟨"phase_1_5_expected_slippage_missing", "phase_1_5_expected_slippage_invalid",
        "phase_1_5_expected_slippage_within_limit", "phase_1_5_expected_slippage_too_high"⟩,
    evaluateMinimumDecimalCondition .depth input.depthKrw input.thresholds.minDepthKrw
      ⟨"phase_1_5_depth_missing", "phase_1_5_depth_invalid", "phase_1_5_depth_sufficient",
        "phase_1_5_depth_insufficient"⟩]

def evaluatePhase15AltEligibility (input : Phase15AltEligibilityInput) : Phase15AltEligibilityDecision :=
  let conditions := evaluateConditions input
  let failedConditions := conditions.filter fun condition => ¬ condition.passed
  let eligible : Bool := failedConditions = []
  { eligible := eligible
    reasonCode := if eligible then "phase_1_5_alt_eligible" else "phase_1_5_alt_ineligible"
    evidence :=
      { exchangeId := input.exchangeId
        market := input.market
        action := if eligible then .approve else .reject
        observedAt := input.observedAt
        thresholds := input.thresholds
        conditions := conditions
        approvedBy := input.approvedBy
        evidenceId := input.evidenceId
        source := input.source
        metadata := input.metadata }
    failedConditions := failedConditions }

/-! ## What an evaluation notes -/

omit [Host] in
@[simp] theorem evaluateListingAge_key (input : Phase15AltEligibilityInput) :
    (evaluateListingAge input).key = .listingAge := by
  unfold evaluateListingAge
  split
  · split_ifs
    · rfl
    · rfl
  · rfl

omit [Host] in
@[simp] theorem evaluateMarketFlag_key (key : ConditionKey) (flag : MarketStatus → Bool) (present absent : String)
    (input : Phase15AltEligibilityInput) : (evaluateMarketFlag key flag present absent input).key = key := by
  unfold evaluateMarketFlag
  split
  · rfl
  · rfl
  · split_ifs
    · rfl
    · rfl
    · rfl

@[simp] theorem evaluateDecimalCondition_key (key : ConditionKey) (actualValue : Option FinancialDecimalInput)
    (thresholdValue : String) (codes : DecimalConditionCodes) (predicate : ℚ → ℚ → Bool) :
    (evaluateDecimalCondition key actualValue thresholdValue codes predicate).key = key := by
  unfold evaluateDecimalCondition
  split
  · rfl
  · split
    · rfl
    · rfl

/-- **Completeness.** Every required condition is noted, and none twice. -/
theorem evaluatePhase15AltEligibility_complete (input : Phase15AltEligibilityInput) :
    (evaluatePhase15AltEligibility input).evidence.conditions.map Phase15AltApprovalEvidenceCondition.key =
      requiredPhase15ApprovalConditionKeys := by
  simp [evaluatePhase15AltEligibility, evaluateConditions, evaluateMarketWarning, evaluateMarketCaution,
    evaluateMinimumDecimalCondition, evaluateMaximumDecimalCondition, requiredPhase15ApprovalConditionKeys]

/-- a candidate is approved exactly when no condition failed -/
theorem evaluatePhase15AltEligibility_action (input : Phase15AltEligibilityInput) :
    (evaluatePhase15AltEligibility input).evidence.action = .approve ↔
      ∀ condition ∈ (evaluatePhase15AltEligibility input).evidence.conditions, condition.passed = true := by
  simp only [evaluatePhase15AltEligibility, ite_eq_left_iff, decide_eq_true_eq]
  rw [List.filter_eq_nil_iff]
  simp

end Evaluation

end SeeMirai.Universe
