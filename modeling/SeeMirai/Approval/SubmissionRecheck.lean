/-
The recheck of an approved live order right before it is handed to the broker
(runtime/live-order-approval-runtime/guard.ts), under a configuration that
runtime/live-manual-approval-config/schema.ts accepts.

Amounts are read from texts; what cannot be read is `NaN` in the source and `none` here. The product, the daily total
and the deviation are rounded to the 20 digits of decimal.js.

Results:
- `evaluate_accepted_iff`: what an accepted order has passed.
- `recheck_bounds_iff`: an accepted order is within its bounds, in exact arithmetic, except where both signs are
  negative or where rounding hides a difference.
- `signs_need_wide_limit`: negative signs pass only under a deviation limit of nearly 10000 bps.
-/
import SeeMirai.Lib.DecimalHost
import SeeMirai.Lib.TextOrder

namespace SeeMirai.Approval

/-! ## Model: configuration -/

def liveArmedManualApprovalMode : String := "LIVE_ARMED_MANUAL_APPROVAL"

/-- the configuration as it is written; a missing field has its default -/
structure ConfigInput where
  mode : Option String
  enabled : Option Bool
  allowed_markets : Option (List String)
  max_order_krw : Option String
  daily_approved_notional_limit_krw : Option String
  proposal_ttl_seconds : Option ℚ
  max_price_deviation_bps : Option String
  require_reconcile_freshness : Option Bool
  require_m20_inbound_enabled : Option Bool
deriving DecidableEq

structure LiveManualApprovalConfig where
  mode : String
  enabled : Bool
  allowed_markets : List String
  max_order_krw : String
  daily_approved_notional_limit_krw : String
  proposal_ttl_seconds : ℚ
  max_price_deviation_bps : String
  require_reconcile_freshness : Bool
  require_m20_inbound_enabled : Bool
deriving DecidableEq

/-- `message` is absent where zod has its own text -/
structure ConfigIssue where
  path : String
  index : Option ℕ
  message : Option String
deriving DecidableEq

/-- `0` or digits without a leading zero -/
def isWhole : List Char → Bool
  | [] => false
  | c :: cs => if c = '0' then cs.isEmpty else c.isDigit && cs.all Char.isDigit

/-- `^(?:0|[1-9]\d*)(?:\.\d+)?$` -/
def isNonNegativeDecimal (value : String) : Bool :=
  isWhole (value.toList.takeWhile Char.isDigit) &&
    match value.toList.dropWhile Char.isDigit with
    | [] => true
    | c :: places => c = '.' && !places.isEmpty && places.all Char.isDigit

/-- `^KRW-[A-Z0-9]+$` -/
def isMarketCode (value : String) : Bool :=
  match value.toList with
  | 'K' :: 'R' :: 'W' :: '-' :: code => !code.isEmpty && code.all fun c => c.isUpper || c.isDigit
  | _ => false

def defaultLiveManualApprovalConfig : LiveManualApprovalConfig where
  mode := liveArmedManualApprovalMode
  enabled := false
  allowed_markets := ["KRW-BTC", "KRW-ETH", "KRW-ETC"]
  max_order_krw := "10000"
  daily_approved_notional_limit_krw := "30000"
  proposal_ttl_seconds := 300
  max_price_deviation_bps := "30"
  require_reconcile_freshness := true
  require_m20_inbound_enabled := true

def ConfigInput.withDefaults (input : ConfigInput) : LiveManualApprovalConfig :=
  let default := defaultLiveManualApprovalConfig
  { mode := input.mode.getD default.mode
    enabled := input.enabled.getD default.enabled
    allowed_markets := input.allowed_markets.getD default.allowed_markets
    max_order_krw := input.max_order_krw.getD default.max_order_krw
    daily_approved_notional_limit_krw :=
      input.daily_approved_notional_limit_krw.getD default.daily_approved_notional_limit_krw
    proposal_ttl_seconds := input.proposal_ttl_seconds.getD default.proposal_ttl_seconds
    max_price_deviation_bps := input.max_price_deviation_bps.getD default.max_price_deviation_bps
    require_reconcile_freshness := input.require_reconcile_freshness.getD default.require_reconcile_freshness
    require_m20_inbound_enabled := input.require_m20_inbound_enabled.getD default.require_m20_inbound_enabled }

section Model

variable [Host]

/-- a text that cannot be read as a finite number is `NaN` -/
def parseGuardDecimal (value : String) : Option ℚ := Host.valueOf value

omit [Host] in
def nonNegativeDecimalIssues (path value : String) : List ConfigIssue :=
  if isNonNegativeDecimal value then [] else [⟨path, none, some "must be a non-negative decimal string"⟩]

def positiveDecimalIssues (path value : String) : List ConfigIssue :=
  nonNegativeDecimalIssues path value ++
    if (parseGuardDecimal value).any (0 < ·) then [] else [⟨path, none, some "must be greater than 0"⟩]

omit [Host] in
def marketIssues (markets : List String) : List ConfigIssue :=
  (if markets.isEmpty then [⟨"allowed_markets", none, none⟩] else []) ++
    (markets.zipIdx.filter fun market => !isMarketCode market.1).map fun market =>
      ⟨"allowed_markets", some market.2, some "KRW market code is required"⟩

omit [Host] in
def literalIssues (config : LiveManualApprovalConfig) : List ConfigIssue :=
  (if config.mode = liveArmedManualApprovalMode then [] else [⟨"mode", none, none⟩]) ++
    (if config.require_reconcile_freshness then [] else [⟨"require_reconcile_freshness", none, none⟩]) ++
    if config.require_m20_inbound_enabled then [] else [⟨"require_m20_inbound_enabled", none, none⟩]

def valueIssues (config : LiveManualApprovalConfig) : List ConfigIssue :=
  marketIssues config.allowed_markets ++
    positiveDecimalIssues "max_order_krw" config.max_order_krw ++
    positiveDecimalIssues "daily_approved_notional_limit_krw" config.daily_approved_notional_limit_krw ++
    (if config.proposal_ttl_seconds.den = 1 ∧ 0 < config.proposal_ttl_seconds then []
      else [⟨"proposal_ttl_seconds", none, none⟩]) ++
    nonNegativeDecimalIssues "max_price_deviation_bps" config.max_price_deviation_bps

omit [Host] in
def validateUniqueMarkets (markets : List String) : List ConfigIssue :=
  if markets.Nodup then [] else [⟨"allowed_markets", none, some "allowed_markets must not contain duplicates"⟩]

/-- a comparison with `NaN` reports nothing -/
def validateOrderBudget (maxOrderKrw dailyApprovedNotionalLimitKrw : String) : List ConfigIssue :=
  let maxOrder := parseGuardDecimal maxOrderKrw
  let dailyLimit := parseGuardDecimal dailyApprovedNotionalLimitKrw
  (if maxOrder.any (· < 5000) then [⟨"max_order_krw", none, some "max_order_krw must be at least 5000"⟩] else []) ++
    if dailyLimit.any fun daily => maxOrder.any (daily < ·) then
      [⟨"daily_approved_notional_limit_krw", none,
        some "daily_approved_notional_limit_krw must be greater than or equal to max_order_krw"⟩]
    else []

/-- a wrong literal ends the parse before the refinements -/
def refinementIssues (config : LiveManualApprovalConfig) : List ConfigIssue :=
  if literalIssues config = [] then
    validateUniqueMarkets config.allowed_markets ++
      validateOrderBudget config.max_order_krw config.daily_approved_notional_limit_krw
  else []

def liveManualApprovalConfigSchema (input : ConfigInput) : Except (List ConfigIssue) LiveManualApprovalConfig :=
  let config := input.withDefaults
  let issues := literalIssues config ++ valueIssues config ++ refinementIssues config
  if issues = [] then .ok config else .error issues

end Model

/-! ## Model: recheck -/

inductive LiveOrderProposalStatus where
  | proposed
  | approved
  | rejected
  | expired
  | submitted
  | submissionFailed
deriving DecidableEq, Repr

/-- the part of a proposal that the recheck reads -/
structure LiveOrderProposal where
  status : LiveOrderProposalStatus
  market : String
  orderType : String
  requestedPrice : String
  requestedVolume : String
  expectedNotionalKrw : String
  idempotencyKey : String
  riskDecisionId : String
deriving DecidableEq, Repr

structure SubmissionRecheckSnapshot where
  riskApproved : Bool
  riskDecisionId : String
  killSwitchAllowsNewOrders : Bool
  reconcileFresh : Bool
  dailyApprovedNotionalUsedKrw : String
  referencePrice : String
deriving DecidableEq, Repr

inductive SubmissionRecheckViolation where
  | m21_runtime_disabled
  | m21_proposal_not_approved
  | m21_market_not_allowed
  | m21_order_type_not_supported
  | m21_order_notional_mismatch
  | m21_order_notional_exceeds_limit
  | m21_order_notional_below_minimum
  | m21_daily_budget_usage_invalid
  | m21_daily_budget_exceeded
  | m21_risk_not_approved
  | m21_risk_decision_mismatch
  | m21_kill_switch_blocks_new_orders
  | m21_reconcile_not_fresh
  | m21_invalid_idempotency_key
  | m21_price_reference_invalid
  | m21_price_deviation_exceeded
deriving DecidableEq, Repr

inductive SubmissionRecheckDecision where
  | accepted
  | refused (violations : List SubmissionRecheckViolation)
deriving DecidableEq, Repr

def upbitIdentifierMaxLength : ℕ := 32

def upbitKrwMinimumOrderNotional : ℚ := 5000

/-- each operation is rounded -/
def priceDeviationBps (requested reference : ℚ) : ℚ :=
  decimalRound (decimalRound (|decimalRound (requested - reference)| / reference) * 10000)

/-- a violation is reported when its test fails -/
def report (violation : SubmissionRecheckViolation) (passed : Bool) : List SubmissionRecheckViolation :=
  if passed then [] else [violation]

section Model

variable [Host]

def calculatePriceDeviationBps (requestedPrice referencePrice : String) : Option ℚ :=
  (parseGuardDecimal requestedPrice).bind fun requested =>
    (parseGuardDecimal referencePrice).bind fun reference =>
      if reference ≤ 0 then none else some (priceDeviationBps requested reference)

def calculateSubmittedNotional (requestedPrice requestedVolume : String) : Option ℚ :=
  (parseGuardDecimal requestedPrice).bind fun price =>
    (parseGuardDecimal requestedVolume).map fun volume => decimalRound (price * volume)

def recheckViolations (proposal : LiveOrderProposal) (config : LiveManualApprovalConfig)
    (snapshot : SubmissionRecheckSnapshot) : List SubmissionRecheckViolation :=
  let expectedNotional := parseGuardDecimal proposal.expectedNotionalKrw
  let submittedNotional := calculateSubmittedNotional proposal.requestedPrice proposal.requestedVolume
  let maxOrder := parseGuardDecimal config.max_order_krw
  let dailyUsed := parseGuardDecimal snapshot.dailyApprovedNotionalUsedKrw
  let dailyLimit := parseGuardDecimal config.daily_approved_notional_limit_krw
  report .m21_runtime_disabled config.enabled ++
    report .m21_proposal_not_approved (proposal.status = .approved) ++
    report .m21_market_not_allowed (config.allowed_markets.contains proposal.market) ++
    report .m21_order_type_not_supported (proposal.orderType = "LIMIT") ++
    report .m21_order_notional_mismatch
      (expectedNotional.any fun expected => submittedNotional.any fun submitted => 0 < submitted ∧
        submitted = expected) ++
    report .m21_order_notional_exceeds_limit
      (expectedNotional.any fun expected => submittedNotional.any fun submitted => maxOrder.any fun max =>
        expected ≤ max ∧ submitted ≤ max) ++
    report .m21_order_notional_below_minimum
      (!submittedNotional.any fun submitted => 0 < submitted ∧ submitted < upbitKrwMinimumOrderNotional) ++
    report .m21_daily_budget_usage_invalid (dailyUsed.any (0 ≤ ·)) ++
    report .m21_daily_budget_exceeded
      (dailyUsed.any fun used => dailyLimit.any fun limit => submittedNotional.any fun submitted =>
        decimalRound (used + submitted) ≤ limit) ++
    report .m21_risk_not_approved snapshot.riskApproved ++
    report .m21_risk_decision_mismatch (snapshot.riskDecisionId = proposal.riskDecisionId) ++
    report .m21_kill_switch_blocks_new_orders snapshot.killSwitchAllowsNewOrders ++
    report .m21_reconcile_not_fresh snapshot.reconcileFresh ++
    report .m21_invalid_idempotency_key
      (1 ≤ (codeUnits proposal.idempotencyKey).length ∧
        (codeUnits proposal.idempotencyKey).length ≤ upbitIdentifierMaxLength) ++
    match calculatePriceDeviationBps proposal.requestedPrice snapshot.referencePrice with
    | none => [.m21_price_reference_invalid]
    | some deviation =>
      -- a limit that is `NaN` is not exceeded
      report .m21_price_deviation_exceeded
        (!(parseGuardDecimal config.max_price_deviation_bps).any fun limit => limit < deviation)

def evaluateLiveOrderApprovalSubmissionRecheck (proposal : LiveOrderProposal) (config : LiveManualApprovalConfig)
    (snapshot : SubmissionRecheckSnapshot) : SubmissionRecheckDecision :=
  let violations := recheckViolations proposal config snapshot
  if violations.length = 0 then .accepted else .refused violations

end Model

/-! ## What an accepted configuration promises -/

/-- plain notation is a number -/
class ReadsPlain (H : Host) : Prop where
  read : ∀ {value : String}, isNonNegativeDecimal value = true → ∃ q, Host.valueOf value = some q

/-- the amounts of a recheck -/
structure Amounts where
  price : ℚ
  volume : ℚ
  expected : ℚ
  maxOrder : ℚ
  used : ℚ
  dailyLimit : ℚ
  reference : ℚ
  maxDeviation : ℚ
deriving DecidableEq, Repr

/-- what is not an amount -/
structure Allowed (proposal : LiveOrderProposal) (config : LiveManualApprovalConfig)
    (snapshot : SubmissionRecheckSnapshot) : Prop where
  enabled : config.enabled = true
  approved : proposal.status = .approved
  market : proposal.market ∈ config.allowed_markets
  limitOrder : proposal.orderType = "LIMIT"
  risk : snapshot.riskApproved = true
  riskDecision : snapshot.riskDecisionId = proposal.riskDecisionId
  killSwitch : snapshot.killSwitchAllowsNewOrders = true
  reconciled : snapshot.reconcileFresh = true
  identifier : 1 ≤ (codeUnits proposal.idempotencyKey).length ∧ (codeUnits proposal.idempotencyKey).length ≤ 32

/-- the tests on amounts, on rounded numbers as they are made -/
structure Amounts.Pass (a : Amounts) : Prop where
  product : decimalRound (a.price * a.volume) = a.expected
  minimum : 5000 ≤ a.expected
  order : a.expected ≤ a.maxOrder
  used : 0 ≤ a.used
  daily : decimalRound (a.used + a.expected) ≤ a.dailyLimit
  reference : 0 < a.reference
  deviation : priceDeviationBps a.price a.reference ≤ a.maxDeviation

/-- the bounds of an order, in exact arithmetic -/
structure Amounts.Bounded (a : Amounts) : Prop where
  price : 0 < a.price
  volume : 0 < a.volume
  product : a.price * a.volume = a.expected
  minimum : 5000 ≤ a.price * a.volume
  order : a.price * a.volume ≤ a.maxOrder
  used : 0 ≤ a.used
  daily : a.used + a.price * a.volume ≤ a.dailyLimit
  reference : 0 < a.reference
  deviation : |a.price - a.reference| * 10000 ≤ a.maxDeviation * a.reference

/-- where the tests let more pass than the bounds do -/
inductive Amounts.Slips (a : Amounts) : Prop where
  /-- two negative factors have a positive product -/
  | signs (price : a.price < 0) (volume : a.volume < 0)
  /-- the product has more than 20 digits -/
  | product (rounded : decimalRound (a.price * a.volume) ≠ a.price * a.volume)
  /-- rounding takes the daily total down to its limit -/
  | daily (exceeded : a.dailyLimit < a.used + a.expected)
  /-- rounding takes the deviation down to its limit -/
  | deviation (exceeded : a.maxDeviation * a.reference < |a.price - a.reference| * 10000)

/-- tests without a slip are the bounds -/
theorem Amounts.Pass.bounded_iff {a : Amounts} (h : a.Pass) : a.Bounded ↔ ¬ a.Slips := by
  constructor
  · intro hbounded hslips
    cases hslips with
    | signs hprice _ => exact absurd hbounded.price (not_lt.2 hprice.le)
    | product hrounded => exact hrounded (h.product.trans hbounded.product.symm)
    | daily hexceeded =>
      rw [← hbounded.product] at hexceeded
      exact absurd hbounded.daily (not_le.2 hexceeded)
    | deviation hexceeded => exact absurd hbounded.deviation (not_le.2 hexceeded)
  · intro hslips
    have hproduct : a.price * a.volume = a.expected := by
      by_contra hne
      refine hslips (.product fun hexact => hne ?_)
      rw [← h.product, hexact]
    have hpositive : 0 < a.price * a.volume := by
      have := h.minimum
      linarith
    have hsigns : 0 < a.price ∧ 0 < a.volume := by
      rcases pos_and_pos_or_neg_and_neg_of_mul_pos hpositive with hboth | ⟨hprice, hvolume⟩
      · exact hboth
      · exact absurd (.signs hprice hvolume) hslips
    refine ⟨hsigns.1, hsigns.2, hproduct, hproduct ▸ h.minimum, hproduct ▸ h.order, h.used, ?_, h.reference, ?_⟩
    · by_contra hexceeded
      rw [hproduct] at hexceeded
      exact hslips (.daily (not_le.1 hexceeded))
    · by_contra hexceeded
      exact hslips (.deviation (not_le.1 hexceeded))

section Recheck

variable [H : Host]

def readAmounts (proposal : LiveOrderProposal) (config : LiveManualApprovalConfig)
    (snapshot : SubmissionRecheckSnapshot) :
    Option Amounts := do
  let price ← parseGuardDecimal proposal.requestedPrice
  let volume ← parseGuardDecimal proposal.requestedVolume
  let expected ← parseGuardDecimal proposal.expectedNotionalKrw
  let maxOrder ← parseGuardDecimal config.max_order_krw
  let used ← parseGuardDecimal snapshot.dailyApprovedNotionalUsedKrw
  let dailyLimit ← parseGuardDecimal config.daily_approved_notional_limit_krw
  let reference ← parseGuardDecimal snapshot.referencePrice
  let maxDeviation ← parseGuardDecimal config.max_price_deviation_bps
  pure ⟨price, volume, expected, maxOrder, used, dailyLimit, reference, maxDeviation⟩

omit [Host] in
@[simp] theorem report_eq_nil {violation : SubmissionRecheckViolation} {passed : Bool} :
    report violation passed = [] ↔ passed = true := by
  unfold report
  split_ifs with h
  · simp [h]
  · simp [h]

/-- the limit of the deviation is a number in an accepted configuration -/
theorem maxDeviation_read [ReadsPlain H] {input : ConfigInput} {config : LiveManualApprovalConfig}
    (h : liveManualApprovalConfigSchema input = .ok config) :
    ∃ q, parseGuardDecimal config.max_price_deviation_bps = some q := by
  unfold liveManualApprovalConfigSchema at h
  dsimp only at h
  split_ifs at h with hissues
  obtain rfl := Except.ok.inj h
  have hvalues : valueIssues input.withDefaults = [] :=
    (List.append_eq_nil_iff.1 (List.append_eq_nil_iff.1 hissues).1).2
  have hplain := (List.append_eq_nil_iff.1 hvalues).2
  refine ReadsPlain.read ?_
  unfold nonNegativeDecimalIssues at hplain
  split_ifs at hplain with hshape
  exact hshape

theorem evaluate_accepted {proposal : LiveOrderProposal} {config : LiveManualApprovalConfig}
    {snapshot : SubmissionRecheckSnapshot} :
    evaluateLiveOrderApprovalSubmissionRecheck proposal config snapshot = .accepted ↔
      recheckViolations proposal config snapshot = [] := by
  unfold evaluateLiveOrderApprovalSubmissionRecheck
  dsimp only
  split_ifs with hnone
  · exact iff_of_true rfl (List.length_eq_zero_iff.1 hnone)
  · exact iff_of_false (fun h => nomatch h) fun h => hnone (List.length_eq_zero_iff.2 h)

/-- **Spec.** What an accepted order has passed. -/
theorem evaluate_accepted_iff {proposal : LiveOrderProposal} {config : LiveManualApprovalConfig}
    {snapshot : SubmissionRecheckSnapshot} {maxDeviation : ℚ}
    (hlimit : parseGuardDecimal config.max_price_deviation_bps = some maxDeviation) :
    evaluateLiveOrderApprovalSubmissionRecheck proposal config snapshot = .accepted ↔
      Allowed proposal config snapshot ∧ ∃ a, readAmounts proposal config snapshot = some a ∧ a.Pass := by
  rw [evaluate_accepted]
  unfold recheckViolations readAmounts calculateSubmittedNotional calculatePriceDeviationBps
  rw [hlimit]
  -- an amount that cannot be read fails a test on one side and the reading on the other
  rcases parseGuardDecimal proposal.requestedPrice with _ | price
  · simp
  rcases parseGuardDecimal proposal.requestedVolume with _ | volume
  · simp
  rcases parseGuardDecimal proposal.expectedNotionalKrw with _ | expected
  · simp
  rcases parseGuardDecimal config.max_order_krw with _ | maxOrder
  · simp
  rcases parseGuardDecimal snapshot.dailyApprovedNotionalUsedKrw with _ | used
  · simp
  rcases parseGuardDecimal config.daily_approved_notional_limit_krw with _ | dailyLimit
  · simp
  rcases parseGuardDecimal snapshot.referencePrice with _ | reference
  · simp
  simp only [List.append_eq_nil_iff, report_eq_nil, Option.any_some, Option.bind_some,
    Option.map_some, decide_eq_true_eq]
  constructor
  · intro hpassed
    obtain ⟨⟨⟨⟨⟨⟨⟨⟨⟨⟨⟨⟨⟨⟨henabled, hstatus⟩, hmarket⟩, horderType⟩, hsame⟩, horder⟩, hminimum⟩, hused⟩, hdaily⟩, hrisk⟩,
      hriskDecision⟩, hkill⟩, hfresh⟩, hidentifier⟩, hdeviation⟩ := hpassed
    have hreference : 0 < reference := by
      by_contra hneg
      rw [if_pos (not_lt.1 hneg)] at hdeviation
      exact absurd hdeviation (List.cons_ne_nil _ _)
    rw [if_neg (not_le.2 hreference)] at hdeviation
    have hwithin : priceDeviationBps price reference ≤ maxDeviation := by simpa using hdeviation
    refine ⟨⟨henabled, hstatus, by simpa using hmarket, horderType, hrisk, hriskDecision, hkill, hfresh, hidentifier⟩,
      _, rfl, ⟨hsame.2, ?_, horder.1, hused, ?_, hreference, hwithin⟩⟩
    · rw [← hsame.2]
      simpa [upbitKrwMinimumOrderNotional, hsame.1] using hminimum
    · rw [← hsame.2]
      exact hdaily
  · intro hspec
    obtain ⟨hallowed, a, ha, hpass⟩ := hspec
    obtain rfl := Option.some.inj ha
    have hexpected : 0 < expected := lt_of_lt_of_le (by norm_num) hpass.minimum
    refine ⟨⟨⟨⟨⟨⟨⟨⟨⟨⟨⟨⟨⟨⟨hallowed.enabled, hallowed.approved⟩, by simpa using hallowed.market⟩, hallowed.limitOrder⟩,
      ?_⟩, ?_⟩,
      ?_⟩, hpass.used⟩, ?_⟩, hallowed.risk⟩, hallowed.riskDecision⟩, hallowed.killSwitch⟩, hallowed.reconciled⟩,
      hallowed.identifier⟩, ?_⟩
    · rw [hpass.product]
      exact ⟨hexpected, rfl⟩
    · rw [hpass.product]
      exact ⟨hpass.order, hpass.order⟩
    · rw [hpass.product]
      simpa [upbitKrwMinimumOrderNotional, hexpected] using hpass.minimum
    · rw [hpass.product]
      exact hpass.daily
    · rw [if_neg (not_le.2 hpass.reference)]
      simpa using hpass.deviation

/-- an accepted order is within its bounds -/
def WithinBounds (proposal : LiveOrderProposal) (config : LiveManualApprovalConfig)
    (snapshot : SubmissionRecheckSnapshot) : Prop :=
  evaluateLiveOrderApprovalSubmissionRecheck proposal config snapshot = .accepted →
    Allowed proposal config snapshot ∧ ∃ a, readAmounts proposal config snapshot = some a ∧ a.Bounded

/-- no amounts that pass the tests slip through them -/
def NoSlip (proposal : LiveOrderProposal) (config : LiveManualApprovalConfig) (snapshot : SubmissionRecheckSnapshot) :
    Prop :=
  ∀ a, Allowed proposal config snapshot → readAmounts proposal config snapshot = some a → a.Pass → ¬ a.Slips

/-- **Recheck.** An accepted order is within its bounds exactly where nothing slips through the tests. -/
theorem recheck_bounds_iff [ReadsPlain H] {input : ConfigInput} {config : LiveManualApprovalConfig}
    (h : liveManualApprovalConfigSchema input = .ok config) (proposal : LiveOrderProposal)
    (snapshot : SubmissionRecheckSnapshot) :
    WithinBounds proposal config snapshot ↔ NoSlip proposal config snapshot := by
  obtain ⟨maxDeviation, hlimit⟩ := maxDeviation_read h
  constructor
  · intro hwithin a hallowed hread hpass
    obtain ⟨-, a', hread', hbounded⟩ := hwithin ((evaluate_accepted_iff hlimit).2 ⟨hallowed, a, hread, hpass⟩)
    obtain rfl := Option.some.inj (hread.symm.trans hread')
    exact hpass.bounded_iff.1 hbounded
  · intro hslip haccepted
    obtain ⟨hallowed, a, hread, hpass⟩ := (evaluate_accepted_iff hlimit).1 haccepted
    exact ⟨hallowed, a, hread, hpass.bounded_iff.2 (hslip a hallowed hread hpass)⟩

omit H in
/-- rounding takes away less than one part in a million -/
theorem decimalRound_near (x : ℚ) : |x| * (999999 / 1000000) ≤ |decimalRound x| := by
  have herror := roundSignificant_error 20 x
  have hunit : halfUnit 20 ≤ 1 / 1000000 := by
    unfold halfUnit
    norm_num
  have hlost : halfUnit 20 * |x| ≤ 1 / 1000000 * |x| := mul_le_mul_of_nonneg_right hunit (abs_nonneg x)
  have htriangle := abs_sub_abs_le_abs_sub x (decimalRound x)
  rw [abs_sub_comm] at htriangle
  unfold decimalRound at htriangle ⊢
  linarith

omit H in
/-- **Signs.** Negative signs pass only under a deviation limit of nearly 10000 bps. -/
theorem signs_need_wide_limit {a : Amounts} (h : a.Pass) (hprice : a.price < 0) : 9999 < a.maxDeviation := by
  have hreference := h.reference
  refine lt_of_lt_of_le ?_ h.deviation
  have hdistance : a.reference ≤ |a.price - a.reference| := by
    rw [abs_of_neg (by linarith)]
    linarith
  have hratio : 999999 / 1000000 ≤ |decimalRound (a.price - a.reference)| / a.reference := by
    rw [le_div_iff₀ hreference]
    have := decimalRound_near (a.price - a.reference)
    linarith
  have hrounded := decimalRound_near (|decimalRound (a.price - a.reference)| / a.reference)
  have hscaled := decimalRound_near (decimalRound (|decimalRound (a.price - a.reference)| / a.reference) * 10000)
  have hratioPos : 0 ≤ |decimalRound (a.price - a.reference)| / a.reference := by positivity
  have hroundedPos := decimalRound_nonneg hratioPos
  have hscaledPos := decimalRound_nonneg (mul_nonneg hroundedPos (by norm_num : (0 : ℚ) ≤ 10000))
  rw [abs_of_nonneg hratioPos, abs_of_nonneg hroundedPos] at hrounded
  rw [abs_of_nonneg (mul_nonneg hroundedPos (by norm_num)), abs_of_nonneg hscaledPos] at hscaled
  unfold priceDeviationBps
  linarith

end Recheck

/-! ## Runs -/

section Decimal

attribute [local instance] decimalHost

theorem isWhole_digits {cs : List Char} (h : isWhole cs = true) : cs ≠ [] ∧ ∀ c ∈ cs, c.isDigit := by
  cases cs with
  | nil => cases h
  | cons c cs =>
    refine ⟨List.cons_ne_nil _ _, ?_⟩
    simp only [isWhole] at h
    split_ifs at h with hzero
    · rw [List.isEmpty_iff] at h
      subst hzero h
      simp
    · rw [Bool.and_eq_true, List.all_eq_true] at h
      intro d hd
      rcases List.mem_cons.1 hd with rfl | hd
      · exact h.1
      · exact h.2 d hd

theorem readUnsigned_plain {value : String} (h : isNonNegativeDecimal value = true) :
    ∃ q, readUnsigned value.toList = some q := by
  unfold isNonNegativeDecimal at h
  rw [Bool.and_eq_true] at h
  obtain ⟨hne, hdigits⟩ := isWhole_digits h.1
  have hwhole := readDigits_ofDigitChars hdigits hne
  have hrest := h.2
  unfold readUnsigned
  cases hdrop : value.toList.dropWhile Char.isDigit with
  | nil =>
    have hall : value.toList = value.toList.takeWhile Char.isDigit := by
      have hsplit := List.takeWhile_append_dropWhile (p := Char.isDigit) (l := value.toList)
      rwa [hdrop, List.append_nil, eq_comm] at hsplit
    rw [← hall] at hwhole
    exact ⟨_, by rw [hwhole]; rfl⟩
  | cons c places =>
    rw [hdrop] at hrest
    simp only [Bool.and_eq_true, decide_eq_true_eq, Bool.not_eq_true', List.isEmpty_eq_false_iff,
      List.all_eq_true] at hrest
    obtain ⟨⟨rfl, hplaces⟩, hall⟩ := hrest
    simp only [hwhole, readDigits_ofDigitChars hall hplaces, Option.bind_some, Option.map_some]
    exact ⟨_, rfl⟩

instance decimalHost_readsPlain : ReadsPlain decimalHost where
  read {value} h := by
    obtain ⟨q, hq⟩ := readUnsigned_plain h
    obtain ⟨d, hd, -, -⟩ := readSigned_some false hq
    have hplain : readDecimal value = readSigned false value.toList := by
      unfold readDecimal
      split
      · rename_i cs hminus
        rw [isNonNegativeDecimal, hminus] at h
        simp [isWhole] at h
      · rfl
    refine ⟨d.value, ?_⟩
    change (match readDecimal value with | .finite d => some d.value | _ => none) = some d.value
    rw [hplain, hd]

/-- a proposal of 10000 KRW at the reference price -/
def fairProposal : LiveOrderProposal :=
  ⟨.approved, "KRW-BTC", "LIMIT", "1000", "10", "10000", "order-1", "risk-1"⟩

/-- price and volume are negative, and so is the distance a wide limit lets pass -/
def mirroredProposal : LiveOrderProposal :=
  ⟨.approved, "KRW-BTC", "LIMIT", "-1", "-5000", "5000", "order-1", "risk-1"⟩

def clearSnapshot (referencePrice : String) : SubmissionRecheckSnapshot :=
    ⟨true, "risk-1", true, true, "0", referencePrice⟩

def enabledInput (maxDeviation : String) : ConfigInput :=
  ⟨none, some true, none, none, none, none, some maxDeviation, none, none⟩

/-- a fair order is accepted within its bounds -/
theorem fair_within_bounds :
    liveManualApprovalConfigSchema (enabledInput "30") = .ok (enabledInput "30").withDefaults ∧
      evaluateLiveOrderApprovalSubmissionRecheck fairProposal (enabledInput "30").withDefaults (clearSnapshot "1001") =
        .accepted ∧
      WithinBounds fairProposal (enabledInput "30").withDefaults (clearSnapshot "1001") := by
  have hschema : liveManualApprovalConfigSchema (enabledInput "30") = .ok (enabledInput "30").withDefaults := by
    decide +kernel
  refine ⟨hschema, by decide +kernel, (recheck_bounds_iff hschema _ _).2 fun a _ hread _ hslips => ?_⟩
  have hamounts : readAmounts fairProposal (enabledInput "30").withDefaults (clearSnapshot "1001") =
      some ⟨1000, 10, 10000, 10000, 0, 30000, 1001, 30⟩ := by decide +kernel
  obtain rfl := Option.some.inj (hread.symm.trans hamounts)
  cases hslips with
  | signs hprice _ => norm_num at hprice
  | product hrounded => exact hrounded (by decide +kernel)
  | daily hexceeded => norm_num at hexceeded
  | deviation hexceeded => norm_num at hexceeded

/-- the mirrored order is accepted at a negative price -/
theorem mirrored_order_accepted :
    liveManualApprovalConfigSchema (enabledInput "20000") = .ok (enabledInput "20000").withDefaults ∧
      ¬ WithinBounds mirroredProposal (enabledInput "20000").withDefaults (clearSnapshot "1") := by
  refine ⟨by decide +kernel, fun hwithin => ?_⟩
  have haccepted : evaluateLiveOrderApprovalSubmissionRecheck mirroredProposal (enabledInput "20000").withDefaults
      (clearSnapshot "1") = .accepted := by decide +kernel
  obtain ⟨-, a, hread, hbounded⟩ := hwithin haccepted
  have hprice : (readAmounts mirroredProposal (enabledInput "20000").withDefaults (clearSnapshot "1")).map (·.price) =
      some (-1) := by decide +kernel
  rw [hread] at hprice
  have hnegative : a.price = -1 := Option.some.inj hprice
  have := hbounded.price
  linarith

end Decimal

end SeeMirai.Approval
