/-
The request of a live autonomous entry and its preflight checks (application/live-autonomous-entry-runtime/service.ts,
types.ts). The checks collect every violation; a candidate goes on to cost, risk and reservation only where there is
none. Amounts arrive as untyped values: what is no text, no decimal, not finite or of the wrong sign is a violation.
Arithmetic is that of decimal.js at its default precision, 20 significant digits, half up. Its exponent range is not
modelled.

Results:
- `preflight_fields`: where there is no violation, every amount is a finite decimal that is not negative.
- `preflight_budget`: where there is no violation, the budget, the losses and the price keep their limits.
-/
import SeeMirai.Shared.Decimal
import SeeMirai.Lib.JsValue
import SeeMirai.Lib.JsArithmetic

namespace SeeMirai.Live

/-! ## Model: the request -/

inductive LiveAutonomousEntryRequestedOrderType where
  | limit
  | market
  | price
  | best
deriving DecidableEq, Repr

def LiveAutonomousEntryRequestedOrderType.text : LiveAutonomousEntryRequestedOrderType → String
  | limit => "LIMIT"
  | market => "MARKET"
  | price => "PRICE"
  | best => "BEST"

structure LiveAutonomousEntryRuntimeConfig where
  enabled : Bool
  allowedMarkets : List String
  maxOrderKrw : JsValue
  dailyAutonomousNotionalLimitKrw : JsValue
  maxOpenPositionNotionalKrw : JsValue
  maxDailyLossKrw : JsValue
  maxWeeklyLossKrw : JsValue
  maxPriceDeviationBps : JsValue
  identifierPrefix : String
  identifierMaxLength : ℕ

structure LiveAutonomousBudgetSnapshot where
  maxOrderKrw : JsValue
  dailyAutonomousNotionalLimitKrw : JsValue
  dailyAutonomousNotionalUsedKrw : JsValue
  openPositionNotionalKrw : JsValue
  maxOpenPositionNotionalKrw : JsValue

structure LiveAutonomousEntryLossSnapshot where
  dailyRealizedLossKrw : JsValue
  weeklyRealizedLossKrw : JsValue

/-- the candidate; the inputs of the cost model and the risk snapshot are handed on as they are -/
structure LiveAutonomousEntryCandidate (Cost Risk : Type) where
  exchangeId : String
  market : String
  strategyId : String
  requestedQuantity : JsValue
  requestedNotional : JsValue
  requestedPrice : JsValue
  referencePrice : JsValue
  reason : String
  expectedLossBpsOfEquity : JsValue
  costInput : Cost
  risk : Risk
  orderType : Option LiveAutonomousEntryRequestedOrderType
  postOnly : Option Bool
  metadata : JsonRecord

structure LiveAutonomousEntryRuntimeRequest (Cost Risk : Type) where
  config : LiveAutonomousEntryRuntimeConfig
  candidate : LiveAutonomousEntryCandidate Cost Risk
  budgetSnapshot : LiveAutonomousBudgetSnapshot
  lossSnapshot : LiveAutonomousEntryLossSnapshot
  killSwitchActive : Bool
  reconcileFresh : Bool
  idempotencyKey : Option String
  observedAt : Option String

/-- a BUY LIMIT POST_ONLY order, whatever the candidate asked for -/
structure EntryIntent where
  exchangeId : String
  market : String
  strategyId : String
  requestedQuantity : JsValue
  requestedNotional : JsValue
  requestedPrice : JsValue
  idempotencyKey : String
  reason : String
  metadata : JsonRecord

def createEntryIntent {Cost Risk : Type} (candidate : LiveAutonomousEntryCandidate Cost Risk) (idempotencyKey : String) :
    EntryIntent where
  exchangeId := candidate.exchangeId
  market := candidate.market
  strategyId := candidate.strategyId
  requestedQuantity := candidate.requestedQuantity
  requestedNotional := candidate.requestedNotional
  requestedPrice := candidate.requestedPrice
  idempotencyKey := idempotencyKey
  reason := candidate.reason
  metadata := [("source", .string "live_autonomous_entry_runtime"), ("reference_price", candidate.referencePrice),
    ("requested_order_type", .string (candidate.orderType.getD .limit).text)] ++ candidate.metadata

/-! ## Model: violations -/

inductive ViolationStatus where
  | blocked
  | reconcileRequired
  | manualReviewRequired
deriving DecidableEq, Repr

structure RuntimeViolation where
  status : ViolationStatus
  reasonCode : String
  message : String
  action : String
  metadata : Option JsonRecord

def blocked (reasonCode message : String) (metadata : Option JsonRecord) : RuntimeViolation where
  status := .blocked
  reasonCode := reasonCode
  message := message
  action := "설정, 후보, 예산, readiness evidence를 확인한 뒤 새 후보를 생성합니다."
  metadata := metadata

/-- `typeof` -/
def typeText : JsValue → String
  | .undefined => "undefined"
  | .null => "object"
  | .bool _ => "boolean"
  | .number _ => "number"
  | .string _ => "string"
  | .array _ => "object"
  | .object _ => "object"

/-- one check of a list: a violation where the condition holds -/
def violationIf (condition : Prop) [Decidable condition] (violation : RuntimeViolation) : List RuntimeViolation :=
  if condition then [violation] else []

theorem violationIf_eq_nil {condition : Prop} [Decidable condition] {violation : RuntimeViolation} :
    violationIf condition violation = [] ↔ ¬ condition := by
  unfold violationIf
  split_ifs with h <;> simp [h]

/-- the violations of the amounts that could not be read -/
def unread : List (Except RuntimeViolation ℚ) → List RuntimeViolation
  | [] => []
  | .error violation :: rest => violation :: unread rest
  | .ok _ :: rest => unread rest

/-- the amounts, where all of them could be read -/
def readAll : List (Except RuntimeViolation ℚ) → Option (List ℚ)
  | [] => some []
  | .error _ :: _ => none
  | .ok amount :: rest => (readAll rest).map (amount :: ·)

def upbitKrwMinimumOrderNotional : ℚ := 5000

section Host

variable [Host]

/-- `parseFinancialDecimal` of an untyped value -/
def parseFinancialValue (input : JsValue) : Except Thrown Dec :=
  match input with
  | .string s => parseDec s
  | value => throw ⟨"InvalidFinancialDecimalInputError",
      "Financial decimal input must be a string or Decimal, received " ++ typeText value⟩

def parsePositiveDecimal (value : JsValue) (fieldName : String) : Except RuntimeViolation ℚ :=
  match parseFinancialValue value with
  | .ok decimal =>
    if 0 < decimal.value then pure decimal.value
    else throw (blocked "decimal_not_positive" "M22 자동매매 숫자 입력은 0보다 커야 합니다." (some [("field_name", .string fieldName)]))
  | .error _ =>
    throw (blocked "decimal_invalid" "M22 자동매매 숫자 입력을 해석할 수 없습니다." (some [("field_name", .string fieldName)]))

def parseNonNegativeDecimal (value : JsValue) (fieldName : String) : Except RuntimeViolation ℚ :=
  match parseFinancialValue value with
  | .ok decimal =>
    if decimal.isNegative then
      throw (blocked "decimal_negative" "M22 자동매매 숫자 입력은 음수일 수 없습니다." (some [("field_name", .string fieldName)]))
    else pure decimal.value
  | .error _ =>
    throw (blocked "decimal_invalid" "M22 자동매매 숫자 입력을 해석할 수 없습니다." (some [("field_name", .string fieldName)]))

/-! ## Model: the checks -/

variable {Cost Risk : Type}

/-- the comparisons, once every amount has been read -/
def budgetViolations (requestedNotional requestedQuantity requestedPrice dailyUsed maxOrder snapshotMaxOrder dailyLimit
    snapshotDailyLimit maxOpenPosition snapshotMaxOpenPosition currentOpenPosition : ℚ) : List RuntimeViolation :=
  let actualLimitNotional := decimalRound (requestedQuantity * requestedPrice)
  let effectiveMaxOrder := min maxOrder snapshotMaxOrder
  let effectiveDailyLimit := min dailyLimit snapshotDailyLimit
  let effectiveMaxOpenPosition := min maxOpenPosition snapshotMaxOpenPosition
  violationIf (actualLimitNotional ≠ requestedNotional)
      (blocked "limit_notional_mismatch" "M22 자동매매 지정가 주문 금액이 수량×가격과 일치하지 않습니다."
        (some [("requested_notional", .string (Host.toText requestedNotional)),
          ("actual_limit_notional", .string (Host.toText actualLimitNotional))]))
    ++ violationIf (actualLimitNotional < upbitKrwMinimumOrderNotional)
      (blocked "order_notional_below_upbit_minimum" "M22 자동매매 주문 금액은 5000 KRW 이상이어야 합니다." none)
    ++ violationIf (effectiveMaxOrder < actualLimitNotional)
      (blocked "max_order_budget_exceeded" "M22 자동매매 단일 주문 예산을 초과해 후보를 제출하지 않습니다." none)
    ++ violationIf (effectiveDailyLimit < decimalRound (dailyUsed + actualLimitNotional))
      (blocked "daily_budget_exceeded" "M22 자동매매 일일 예산을 초과해 후보를 제출하지 않습니다." none)
    ++ violationIf (effectiveMaxOpenPosition < decimalRound (currentOpenPosition + actualLimitNotional))
      (blocked "open_position_budget_exceeded" "M22 자동매매 open position 예산을 초과해 후보를 제출하지 않습니다." none)

/-- the amounts of the order and the budget, in the order in which they are read -/
def budgetAmounts (request : LiveAutonomousEntryRuntimeRequest Cost Risk) (intent : EntryIntent) :
    List (Except RuntimeViolation ℚ) :=
  [parsePositiveDecimal intent.requestedNotional "requested_notional",
    parsePositiveDecimal intent.requestedQuantity "requested_quantity",
    parsePositiveDecimal intent.requestedPrice "requested_price",
    parseNonNegativeDecimal request.budgetSnapshot.dailyAutonomousNotionalUsedKrw "daily_autonomous_notional_used_krw",
    parsePositiveDecimal request.config.maxOrderKrw "max_order_krw",
    parsePositiveDecimal request.budgetSnapshot.maxOrderKrw "budget_snapshot_max_order_krw",
    parsePositiveDecimal request.config.dailyAutonomousNotionalLimitKrw "daily_autonomous_notional_limit_krw",
    parsePositiveDecimal request.budgetSnapshot.dailyAutonomousNotionalLimitKrw
      "budget_snapshot_daily_autonomous_notional_limit_krw",
    parsePositiveDecimal request.config.maxOpenPositionNotionalKrw "max_open_position_notional_krw",
    parsePositiveDecimal request.budgetSnapshot.maxOpenPositionNotionalKrw "budget_snapshot_max_open_position_notional_krw",
    parseNonNegativeDecimal request.budgetSnapshot.openPositionNotionalKrw "budget_snapshot_open_position_notional_krw"]

def appendAmountAndBudgetViolations (request : LiveAutonomousEntryRuntimeRequest Cost Risk) (intent : EntryIntent) :
    List RuntimeViolation :=
  unread (budgetAmounts request intent) ++
    match readAll (budgetAmounts request intent) with
    | some [requestedNotional, requestedQuantity, requestedPrice, dailyUsed, maxOrder, snapshotMaxOrder, dailyLimit,
        snapshotDailyLimit, maxOpenPosition, snapshotMaxOpenPosition, currentOpenPosition] =>
      budgetViolations requestedNotional requestedQuantity requestedPrice dailyUsed maxOrder snapshotMaxOrder dailyLimit
        snapshotDailyLimit maxOpenPosition snapshotMaxOpenPosition currentOpenPosition
    | _ => []

def lossAmounts (request : LiveAutonomousEntryRuntimeRequest Cost Risk) : List (Except RuntimeViolation ℚ) :=
  [parseNonNegativeDecimal request.lossSnapshot.dailyRealizedLossKrw "daily_realized_loss_krw",
    parseNonNegativeDecimal request.lossSnapshot.weeklyRealizedLossKrw "weekly_realized_loss_krw",
    parsePositiveDecimal request.config.maxDailyLossKrw "max_daily_loss_krw",
    parsePositiveDecimal request.config.maxWeeklyLossKrw "max_weekly_loss_krw"]

def lossViolations (dailyLoss weeklyLoss maxDailyLoss maxWeeklyLoss : ℚ) : List RuntimeViolation :=
  violationIf (maxDailyLoss < dailyLoss)
      (blocked "daily_loss_limit_exceeded" "M22 자동매매 일일 손실 한도를 초과해 후보를 제출하지 않습니다."
        (some [("daily_realized_loss_krw", .string (Host.toText dailyLoss)),
          ("max_daily_loss_krw", .string (Host.toText maxDailyLoss))]))
    ++ violationIf (maxWeeklyLoss < weeklyLoss)
      (blocked "weekly_loss_limit_exceeded" "M22 자동매매 주간 손실 한도를 초과해 후보를 제출하지 않습니다."
        (some [("weekly_realized_loss_krw", .string (Host.toText weeklyLoss)),
          ("max_weekly_loss_krw", .string (Host.toText maxWeeklyLoss))]))

def appendLossLimitViolations (request : LiveAutonomousEntryRuntimeRequest Cost Risk) : List RuntimeViolation :=
  unread (lossAmounts request) ++
    match readAll (lossAmounts request) with
    | some [dailyLoss, weeklyLoss, maxDailyLoss, maxWeeklyLoss] =>
      lossViolations dailyLoss weeklyLoss maxDailyLoss maxWeeklyLoss
    | _ => []

def priceAmounts (request : LiveAutonomousEntryRuntimeRequest Cost Risk) : List (Except RuntimeViolation ℚ) :=
  [parsePositiveDecimal request.candidate.requestedPrice "requested_price",
    parsePositiveDecimal request.candidate.referencePrice "reference_price",
    parseNonNegativeDecimal request.config.maxPriceDeviationBps "max_price_deviation_bps"]

/-- each operation is rounded on its own -/
def deviationBps (requestedPrice referencePrice : ℚ) : ℚ :=
  decimalRound (decimalRound (|decimalRound (requestedPrice - referencePrice)| / referencePrice) * 10000)

def priceViolations (maxPriceDeviationBps : JsValue) (requestedPrice referencePrice maxDeviationBps : ℚ) :
    List RuntimeViolation :=
  if ¬ 0 < referencePrice then [blocked "reference_price_invalid" "M22 자동매매 기준 가격은 0보다 커야 합니다." none]
  else
    violationIf (maxDeviationBps < deviationBps requestedPrice referencePrice)
      (blocked "price_deviation_exceeded" "M22 자동매매 가격 이탈 한도를 초과해 후보를 제출하지 않습니다."
        (some [("deviation_bps", .string (Host.toText (deviationBps requestedPrice referencePrice))),
          ("max_price_deviation_bps", maxPriceDeviationBps)]))

def appendPriceDeviationViolations (request : LiveAutonomousEntryRuntimeRequest Cost Risk) : List RuntimeViolation :=
  unread (priceAmounts request) ++
    match readAll (priceAmounts request) with
    | some [requestedPrice, referencePrice, maxDeviationBps] =>
      priceViolations request.config.maxPriceDeviationBps requestedPrice referencePrice maxDeviationBps
    | _ => []

/-- the checks of the configuration and of the state of the runtime -/
def statusViolations (request : LiveAutonomousEntryRuntimeRequest Cost Risk) : List RuntimeViolation :=
  let candidate := request.candidate
  let requestedOrderType := candidate.orderType.getD .limit
  let postOnly := candidate.postOnly.getD true
  violationIf (request.config.enabled = false)
      (blocked "live_autonomous_disabled" "M22 자동매매 설정이 비활성이라 주문 후보를 제출하지 않습니다." none)
    ++ violationIf (candidate.market ∉ request.config.allowedMarkets)
      (blocked "market_not_allowed" "M22 자동매매 허용 market이 아니라 주문 후보를 제출하지 않습니다."
        (some [("market", .string candidate.market)]))
    ++ violationIf (request.killSwitchActive = true)
      (blocked "kill_switch_active" "kill switch가 활성화되어 M22 자동매매 주문 후보를 제출하지 않습니다." none)
    ++ violationIf (request.reconcileFresh = false)
      { status := .reconcileRequired
        reasonCode := "reconcile_stale"
        message := "최신 reconcile 상태가 없어 M22 자동매매 주문 후보를 제출하지 않습니다."
        action := "거래소 open order와 local 상태를 reconcile 한 뒤 새 후보를 평가합니다."
        metadata := none }
    ++ violationIf (requestedOrderType ≠ .limit ∨ postOnly = false)
      (blocked "limit_post_only_required" "M22 자동매매는 LIMIT + post_only 주문만 제출할 수 있습니다."
        (some [("requested_order_type", .string requestedOrderType.text), ("post_only", .bool postOnly)]))

def collectPreflightViolations (request : LiveAutonomousEntryRuntimeRequest Cost Risk) (intent : EntryIntent) :
    List RuntimeViolation :=
  statusViolations request ++ appendAmountAndBudgetViolations request intent ++ appendLossLimitViolations request
    ++ appendPriceDeviationViolations request

/-! ## Reading an amount -/

/-- the text of a finite decimal that is not negative -/
def Reads (value : JsValue) (amount : ℚ) : Prop :=
  ∃ text decimal, value = .string text ∧ Host.decimal text = .finite decimal ∧ decimal.isNegative = false ∧
    decimal.value = amount

theorem parseFinancialValue_ok {value : JsValue} {decimal : Dec} :
    parseFinancialValue value = .ok decimal ↔ ∃ text, value = .string text ∧ Host.decimal text = .finite decimal := by
  unfold parseFinancialValue
  cases value with
  | string text =>
    unfold parseDec
    cases hdecimal : Host.decimal text <;>
      simp [hdecimal, throw, throwThe, MonadExceptOf.throw, pure, Except.pure]
  | _ => simp [throw, throwThe, MonadExceptOf.throw]

theorem Reads.nonneg {value : JsValue} {amount : ℚ} (h : Reads value amount) : 0 ≤ amount := by
  obtain ⟨text, decimal, -, -, hsign, rfl⟩ := h
  exact Dec.value_nonneg hsign

theorem Reads.unique {value : JsValue} {amount amount' : ℚ} (h : Reads value amount) (h' : Reads value amount') :
    amount = amount' := by
  obtain ⟨text, decimal, rfl, hdecimal, -, rfl⟩ := h
  obtain ⟨text', decimal', hvalue, hdecimal', -, rfl⟩ := h'
  cases hvalue
  rw [hdecimal] at hdecimal'
  cases hdecimal'
  rfl

theorem parseNonNegativeDecimal_ok {value : JsValue} {fieldName : String} {amount : ℚ} :
    parseNonNegativeDecimal value fieldName = .ok amount ↔ Reads value amount := by
  unfold parseNonNegativeDecimal Reads
  cases hparse : parseFinancialValue value with
  | error thrown =>
    refine ⟨nofun, fun ⟨text, decimal, hvalue, hdecimal, _⟩ => ?_⟩
    rw [parseFinancialValue_ok.2 ⟨text, hvalue, hdecimal⟩] at hparse
    cases hparse
  | ok decimal =>
    obtain ⟨text, rfl, hdecimal⟩ := parseFinancialValue_ok.1 hparse
    cases hsign : decimal.isNegative with
    | true =>
      refine ⟨fun h => by simp [hsign, throw, throwThe, MonadExceptOf.throw] at h,
        fun ⟨text', decimal', hvalue, hdecimal', hsign', _⟩ => ?_⟩
      cases hvalue
      rw [hdecimal] at hdecimal'
      cases hdecimal'
      rw [hsign] at hsign'
      cases hsign'
    | false =>
      simp only [hsign, Bool.false_eq_true, if_false]
      refine ⟨fun h => ⟨text, decimal, rfl, hdecimal, hsign, Except.ok.inj h⟩,
        fun ⟨text', decimal', hvalue, hdecimal', _, hamount⟩ => ?_⟩
      cases hvalue
      rw [hdecimal] at hdecimal'
      cases hdecimal'
      rw [hamount]
      rfl

theorem parsePositiveDecimal_ok {value : JsValue} {fieldName : String} {amount : ℚ} :
    parsePositiveDecimal value fieldName = .ok amount ↔ Reads value amount ∧ 0 < amount := by
  unfold parsePositiveDecimal Reads
  cases hparse : parseFinancialValue value with
  | error thrown =>
    refine ⟨nofun, fun ⟨⟨text, decimal, hvalue, hdecimal, _⟩, _⟩ => ?_⟩
    rw [parseFinancialValue_ok.2 ⟨text, hvalue, hdecimal⟩] at hparse
    cases hparse
  | ok decimal =>
    obtain ⟨text, rfl, hdecimal⟩ := parseFinancialValue_ok.1 hparse
    refine ⟨fun h => ?_, fun ⟨⟨text', decimal', hvalue, hdecimal', _, hamount⟩, hpos⟩ => ?_⟩
    · dsimp only at h
      split_ifs at h with hpos
      · obtain rfl := Except.ok.inj h
        have hsign : decimal.isNegative = false := by
          by_contra hnegative
          have hvalue := decimal.sign
          rw [if_pos (by simpa using hnegative)] at hvalue
          exact absurd hpos (not_lt.2 hvalue)
        exact ⟨⟨text, decimal, rfl, hdecimal, hsign, rfl⟩, hpos⟩
    · cases hvalue
      rw [hdecimal] at hdecimal'
      cases hdecimal'
      subst hamount
      simp only [if_pos hpos]
      rfl

omit [Host] in
/-- where nothing is unread, all amounts are there -/
theorem readAll_of_unread {readings : List (Except RuntimeViolation ℚ)} (h : unread readings = []) :
    ∃ amounts, readAll readings = some amounts ∧ readings = amounts.map Except.ok := by
  induction readings with
  | nil => exact ⟨[], rfl, rfl⟩
  | cons reading rest ih =>
    cases reading with
    | error violation => cases h
    | ok amount =>
      obtain ⟨amounts, hall, hrest⟩ := ih h
      exact ⟨amount :: amounts, by rw [readAll, hall]; rfl, by rw [hrest]; rfl⟩

/-! ## Passing the checks -/

/-- every amount that the preflight reads -/
structure EntryAmounts where
  requestedNotional : ℚ
  requestedQuantity : ℚ
  requestedPrice : ℚ
  referencePrice : ℚ
  dailyUsed : ℚ
  openPosition : ℚ
  maxOrder : ℚ
  snapshotMaxOrder : ℚ
  dailyLimit : ℚ
  snapshotDailyLimit : ℚ
  maxOpenPosition : ℚ
  snapshotMaxOpenPosition : ℚ
  dailyLoss : ℚ
  weeklyLoss : ℚ
  maxDailyLoss : ℚ
  maxWeeklyLoss : ℚ
  maxDeviationBps : ℚ

/-- the values of the request that are amounts -/
def amountFields (request : LiveAutonomousEntryRuntimeRequest Cost Risk) : List JsValue :=
  [request.candidate.requestedNotional, request.candidate.requestedQuantity, request.candidate.requestedPrice,
    request.candidate.referencePrice, request.budgetSnapshot.dailyAutonomousNotionalUsedKrw,
    request.budgetSnapshot.openPositionNotionalKrw, request.config.maxOrderKrw, request.budgetSnapshot.maxOrderKrw,
    request.config.dailyAutonomousNotionalLimitKrw, request.budgetSnapshot.dailyAutonomousNotionalLimitKrw,
    request.config.maxOpenPositionNotionalKrw, request.budgetSnapshot.maxOpenPositionNotionalKrw,
    request.lossSnapshot.dailyRealizedLossKrw, request.lossSnapshot.weeklyRealizedLossKrw, request.config.maxDailyLossKrw,
    request.config.maxWeeklyLossKrw, request.config.maxPriceDeviationBps]

/-- the amounts in the order of `amountFields` -/
def EntryAmounts.toList (amounts : EntryAmounts) : List ℚ :=
  [amounts.requestedNotional, amounts.requestedQuantity, amounts.requestedPrice, amounts.referencePrice, amounts.dailyUsed,
    amounts.openPosition, amounts.maxOrder, amounts.snapshotMaxOrder, amounts.dailyLimit, amounts.snapshotDailyLimit,
    amounts.maxOpenPosition, amounts.snapshotMaxOpenPosition, amounts.dailyLoss, amounts.weeklyLoss, amounts.maxDailyLoss,
    amounts.maxWeeklyLoss, amounts.maxDeviationBps]

/-- the limits as the code computes them -/
structure Passes (amounts : EntryAmounts) : Prop where
  reference : 0 < amounts.referencePrice
  notional : decimalRound (amounts.requestedQuantity * amounts.requestedPrice) = amounts.requestedNotional
  minimum : upbitKrwMinimumOrderNotional ≤ amounts.requestedNotional
  order : amounts.requestedNotional ≤ min amounts.maxOrder amounts.snapshotMaxOrder
  daily : decimalRound (amounts.dailyUsed + amounts.requestedNotional)
    ≤ min amounts.dailyLimit amounts.snapshotDailyLimit
  openPosition : decimalRound (amounts.openPosition + amounts.requestedNotional)
    ≤ min amounts.maxOpenPosition amounts.snapshotMaxOpenPosition
  dailyLoss : amounts.dailyLoss ≤ amounts.maxDailyLoss
  weeklyLoss : amounts.weeklyLoss ≤ amounts.maxWeeklyLoss
  price : deviationBps amounts.requestedPrice amounts.referencePrice ≤ amounts.maxDeviationBps

omit [Host] in
theorem cons_eq_map_ok {reading : Except RuntimeViolation ℚ} {rest : List (Except RuntimeViolation ℚ)} {amounts : List ℚ} :
    reading :: rest = amounts.map Except.ok ↔
      ∃ amount others, amounts = amount :: others ∧ reading = .ok amount ∧ rest = others.map Except.ok := by
  cases amounts with
  | nil => simp
  | cons amount others => simp

omit [Host] in
theorem nil_eq_map_ok {amounts : List ℚ} : ([] : List (Except RuntimeViolation ℚ)) = amounts.map Except.ok ↔ amounts = [] := by
  cases amounts <;> simp

/-- **Preflight.** A candidate without violations has amounts that can be read, and they keep the limits. -/
theorem preflight_passes {request : LiveAutonomousEntryRuntimeRequest Cost Risk} {idempotencyKey : String}
    (h : collectPreflightViolations request (createEntryIntent request.candidate idempotencyKey) = []) :
    ∃ amounts : EntryAmounts, List.Forall₂ Reads (amountFields request) amounts.toList ∧ Passes amounts := by
  unfold collectPreflightViolations at h
  obtain ⟨⟨⟨-, hbudget⟩, hloss⟩, hprice⟩ : ((_ ∧ _) ∧ _) ∧ _ := by simpa only [List.append_eq_nil_iff] using h
  obtain ⟨hbudgetRead, hbudget⟩ := List.append_eq_nil_iff.1 hbudget
  obtain ⟨hlossRead, hloss⟩ := List.append_eq_nil_iff.1 hloss
  obtain ⟨hpriceRead, hprice⟩ := List.append_eq_nil_iff.1 hprice
  obtain ⟨budgets, hbudgetAll, hbudgets⟩ := readAll_of_unread hbudgetRead
  obtain ⟨losses, hlossAll, hlosses⟩ := readAll_of_unread hlossRead
  obtain ⟨prices, hpriceAll, hprices⟩ := readAll_of_unread hpriceRead
  unfold budgetAmounts createEntryIntent at hbudgets
  unfold lossAmounts at hlosses
  unfold priceAmounts at hprices
  simp only [cons_eq_map_ok, nil_eq_map_ok, parsePositiveDecimal_ok, parseNonNegativeDecimal_ok] at hbudgets hlosses hprices
  obtain ⟨notional, _, rfl, ⟨hnotional, -⟩, quantity, _, rfl, ⟨hquantity, -⟩, price, _, rfl, ⟨hrequested, -⟩, used, _, rfl,
    hused, maxOrder, _, rfl, ⟨hmaxOrder, -⟩, snapshotMaxOrder, _, rfl, ⟨hsnapshotMaxOrder, -⟩, dailyLimit, _, rfl,
    ⟨hdailyLimit, -⟩, snapshotDailyLimit, _, rfl, ⟨hsnapshotDailyLimit, -⟩, maxOpen, _, rfl, ⟨hmaxOpen, -⟩, snapshotMaxOpen,
    _, rfl, ⟨hsnapshotMaxOpen, -⟩, position, _, rfl, hposition, rfl⟩ := hbudgets
  obtain ⟨dailyLoss, _, rfl, hdailyLoss, weeklyLoss, _, rfl, hweeklyLoss, maxDailyLoss, _, rfl, ⟨hmaxDailyLoss, -⟩,
    maxWeeklyLoss, _, rfl, ⟨hmaxWeeklyLoss, -⟩, rfl⟩ := hlosses
  obtain ⟨price', _, rfl, ⟨hprice', -⟩, reference, _, rfl, ⟨hreference, hreferencePos⟩, maxDeviation, _, rfl, hmaxDeviation,
    rfl⟩ := hprices
  rw [hbudgetAll] at hbudget
  rw [hlossAll] at hloss
  rw [hpriceAll] at hprice
  -- the requested price is read twice
  obtain rfl : price' = price := hprice'.unique hrequested
  simp only [budgetViolations, List.append_eq_nil_iff, violationIf_eq_nil, not_lt, not_not] at hbudget
  simp only [lossViolations, List.append_eq_nil_iff, violationIf_eq_nil, not_lt] at hloss
  simp only [priceViolations, hreferencePos, not_true, if_false, violationIf_eq_nil, not_lt] at hprice
  obtain ⟨⟨⟨⟨hequal, hminimum⟩, horder⟩, hdaily⟩, hopen⟩ := hbudget
  rw [hequal] at hminimum horder hdaily hopen
  refine ⟨⟨notional, quantity, price', reference, used, position, maxOrder, snapshotMaxOrder, dailyLimit, snapshotDailyLimit,
    maxOpen, snapshotMaxOpen, dailyLoss, weeklyLoss, maxDailyLoss, maxWeeklyLoss, maxDeviation⟩, ?_,
    ⟨hreferencePos, hequal, hminimum, horder, hdaily, hopen, hloss.1, hloss.2, hprice⟩⟩
  unfold amountFields EntryAmounts.toList
  simp only [List.forall₂_cons, List.forall₂_nil_left_iff]
  exact ⟨hnotional, hquantity, hrequested, hreference, hused, hposition, hmaxOrder, hsnapshotMaxOrder, hdailyLimit,
    hsnapshotDailyLimit, hmaxOpen, hsnapshotMaxOpen, hdailyLoss, hweeklyLoss, hmaxDailyLoss, hmaxWeeklyLoss, hmaxDeviation, trivial⟩

/-- the amounts of a request that could be read are not negative -/
theorem amounts_nonneg {fields : List JsValue} {amounts : List ℚ} (h : List.Forall₂ Reads fields amounts) :
    ∀ amount ∈ amounts, 0 ≤ amount := by
  induction h with
  | nil => simp
  | cons hread _ ih =>
    intro amount hmem
    rcases List.mem_cons.1 hmem with rfl | hmem
    · exact hread.nonneg
    · exact ih amount hmem

/-- every field was read -/
theorem field_read {fields : List JsValue} {amounts : List ℚ} (h : List.Forall₂ Reads fields amounts) :
    ∀ field ∈ fields, ∃ amount, Reads field amount := by
  induction h with
  | nil => simp
  | cons hread _ ih =>
    intro field hmem
    rcases List.mem_cons.1 hmem with rfl | hmem
    · exact ⟨_, hread⟩
    · exact ih field hmem

end Host

/-! ## The limits in exact arithmetic -/

/-- the limits in exact arithmetic, each operation up to a relative error; with error 0, the limits themselves -/
structure WithinBudget (error : ℚ) (amounts : EntryAmounts) : Prop where
  notional : |amounts.requestedNotional - amounts.requestedQuantity * amounts.requestedPrice|
    ≤ error * (amounts.requestedQuantity * amounts.requestedPrice)
  minimum : 5000 ≤ amounts.requestedNotional
  order : amounts.requestedNotional ≤ min amounts.maxOrder amounts.snapshotMaxOrder
  daily : (amounts.dailyUsed + amounts.requestedNotional) * (1 - error)
    ≤ min amounts.dailyLimit amounts.snapshotDailyLimit
  openPosition : (amounts.openPosition + amounts.requestedNotional) * (1 - error)
    ≤ min amounts.maxOpenPosition amounts.snapshotMaxOpenPosition
  dailyLoss : amounts.dailyLoss ≤ amounts.maxDailyLoss
  weeklyLoss : amounts.weeklyLoss ≤ amounts.maxWeeklyLoss
  price : |amounts.requestedPrice - amounts.referencePrice| * 10000 * (1 - error) ^ 3
    ≤ amounts.maxDeviationBps * amounts.referencePrice

/-- no operation needs more than the 20 digits -/
structure FitsPrecision (amounts : EntryAmounts) : Prop where
  notional : Short 20 (amounts.requestedQuantity * amounts.requestedPrice)
  daily : Short 20 (amounts.dailyUsed + amounts.requestedNotional)
  openPosition : Short 20 (amounts.openPosition + amounts.requestedNotional)
  difference : Short 20 (amounts.requestedPrice - amounts.referencePrice)
  quotient : Short 20 (|amounts.requestedPrice - amounts.referencePrice| / amounts.referencePrice)

theorem halfUnit_twenty : halfUnit 20 = 5 / 10 ^ 20 := by
  unfold halfUnit
  norm_num

/-- three roundings in a row -/
theorem deviation_bound {price reference bound : ℚ} (hreference : 0 < reference)
    (h : deviationBps price reference ≤ bound) :
    |price - reference| * 10000 * (1 - halfUnit 20) ^ 3 ≤ bound * reference := by
  have herror : 0 ≤ 1 - halfUnit 20 := by rw [halfUnit_twenty]; norm_num
  have hdifference : |price - reference| * (1 - halfUnit 20) ≤ |decimalRound (price - reference)| := by
    have hclose := roundSignificant_error 20 (price - reference)
    rw [abs_sub_comm] at hclose
    have htriangle := abs_sub_abs_le_abs_sub (price - reference) (decimalRound (price - reference))
    unfold decimalRound at htriangle ⊢
    linarith
  have hquotient : |decimalRound (price - reference)| / reference * (1 - halfUnit 20)
      ≤ decimalRound (|decimalRound (price - reference)| / reference) :=
    le_of_roundSignificant_le (by positivity) le_rfl
  have hscaled : decimalRound (|decimalRound (price - reference)| / reference) * 10000 * (1 - halfUnit 20) ≤ bound :=
    le_of_roundSignificant_le (mul_nonneg (le_trans (by positivity) hquotient) (by norm_num)) h
  calc |price - reference| * 10000 * (1 - halfUnit 20) ^ 3
      = |price - reference| * (1 - halfUnit 20) / reference * (1 - halfUnit 20) * 10000 * (1 - halfUnit 20)
          * reference := by
        field_simp
    _ ≤ |decimalRound (price - reference)| / reference * (1 - halfUnit 20) * 10000 * (1 - halfUnit 20) * reference := by
        gcongr
    _ ≤ decimalRound (|decimalRound (price - reference)| / reference) * 10000 * (1 - halfUnit 20) * reference := by
        gcongr
    _ ≤ bound * reference := by gcongr

/-- **The limits up to rounding.** -/
theorem Passes.withinBudget {amounts : EntryAmounts} (h : Passes amounts) (hnonneg : ∀ amount ∈ amounts.toList, 0 ≤ amount) :
    WithinBudget (halfUnit 20) amounts := by
  have hproduct : 0 ≤ amounts.requestedQuantity * amounts.requestedPrice :=
    mul_nonneg (hnonneg _ (by simp [EntryAmounts.toList])) (hnonneg _ (by simp [EntryAmounts.toList]))
  have hnotional : 0 ≤ amounts.requestedNotional := hnonneg _ (by simp [EntryAmounts.toList])
  have hused : 0 ≤ amounts.dailyUsed := hnonneg _ (by simp [EntryAmounts.toList])
  have hopen : 0 ≤ amounts.openPosition := hnonneg _ (by simp [EntryAmounts.toList])
  refine ⟨?_, h.minimum, h.order, le_of_roundSignificant_le (add_nonneg hused hnotional) h.daily,
    le_of_roundSignificant_le (add_nonneg hopen hnotional) h.openPosition, h.dailyLoss, h.weeklyLoss,
    deviation_bound h.reference h.price⟩
  have herror := roundSignificant_error 20 (amounts.requestedQuantity * amounts.requestedPrice)
  rw [abs_of_nonneg hproduct] at herror
  rw [← h.notional]
  exact herror

/-- **The limits themselves**, where every operation fits the precision. -/
theorem Passes.exact {amounts : EntryAmounts} (h : Passes amounts) (hfits : FitsPrecision amounts) :
    WithinBudget 0 amounts := by
  obtain ⟨hreference, hnotional, hminimum, horder, hdaily, hopen, hdailyLoss, hweeklyLoss, hprice⟩ := h
  unfold decimalRound at hnotional hdaily hopen
  rw [roundSignificant_short hfits.notional] at hnotional
  rw [roundSignificant_short hfits.daily] at hdaily
  rw [roundSignificant_short hfits.openPosition] at hopen
  refine ⟨by rw [hnotional]; simp, hminimum, horder, by simpa using hdaily, by simpa using hopen, hdailyLoss, hweeklyLoss, ?_⟩
  have hscaled : Short 20 (|amounts.requestedPrice - amounts.referencePrice| / amounts.referencePrice * 10000) := by
    have h := hfits.quotient.shift 4
    norm_num at h ⊢
    exact h
  unfold deviationBps decimalRound at hprice
  rw [roundSignificant_short hfits.difference, roundSignificant_short hfits.quotient, roundSignificant_short hscaled,
    div_mul_eq_mul_div, div_le_iff₀ hreference] at hprice
  simpa using hprice

end SeeMirai.Live
