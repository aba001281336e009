/-
From an exit decision to an order submission (application/exit-engine/sizing.ts, submission.ts, domain/exit.ts).
`evaluateExitSizing` checks the quantity of an exit against the open position, the dust threshold and the minimum order
amount; it blocks and never clamps. `createExitSubmission` makes a LIMIT SELL with exit cost evidence out of a valid
sizing. Arithmetic is rounded to the 20 significant digits of decimal.js. Of a rule evaluation only the rule id is read,
and the times a position and a policy were observed at are not.

Results:
- `ValidSizing`: what a valid sizing says about its printed quantity and price.
- `exit_submission_accepted`: when the validator accepts the submission that is made.
-/
import SeeMirai.Execution.EvidenceFactory
import SeeMirai.Lib.JsArithmetic

namespace SeeMirai.Exit

open Execution Risk

/-! ## Model: data -/

inductive ExitDecisionKind where
  | hold
  | reduce
  | exit
  | block
deriving DecidableEq, Repr

inductive ExitIntention where
  | reduce
  | exit
deriving DecidableEq, Repr

def ExitIntention.text : ExitIntention → String
  | reduce => "REDUCE"
  | exit => "EXIT"

/-- the rules by their ids -/
structure ExitDecision where
  kind : ExitDecisionKind
  triggeredRules : List String
  blockedRules : List String
  reasonCode : String
  userMessage : String
  observedAt : TimestampInput
deriving DecidableEq, Repr

structure ExitPolicySnapshot where
  minOrderNotional : String
  tickSize : String
  dustThreshold : String
  exitCostBps : String
  exitSlippageBps : String
deriving DecidableEq, Repr

structure ExitPositionScope where
  market : String
  strategyId : String
  totalQuantity : String
deriving DecidableEq, Repr

structure ExitSizing where
  requestedQuantity : String
  requestedPrice : String
  executableQuantity : String
  dustQuantity : String
  dustReason : Option String
  belowMinOrderNotional : Bool
  belowMinOrderReason : Option String
  remainingBelowMinOrderNotional : Option Bool
  remainingBelowMinOrderReason : Option String
  exceedsPosition : Bool
  exceedsPositionReason : Option String
  valid : Bool
  rejectionReason : Option String
deriving DecidableEq, Repr

structure ExitSizingOptions where
  market : String
  strategyId : String
  requestedQuantity : String
  positionScope : ExitPositionScope
  policySnapshot : ExitPolicySnapshot
  currentPrice : String
  requestedPrice : String
deriving DecidableEq, Repr

/-- where a requote came from -/
structure RequoteLineage where
  parentIdempotencyKey : String
  lineageId : String
  sequence : ℕ
  remainingQuantity : String
deriving DecidableEq, Repr

structure ExitOrderIntentMetadata where
  positionEffect : ExitIntention
  exitReasonCode : String
  exitRuleId : String
  positionScope : ExitPositionScope
  exitCostBps : Option String
  exitSlippageBps : Option String
  requote : Option RequoteLineage
deriving DecidableEq, Repr

/-- a LIMIT SELL order -/
structure ExitOrderIntent where
  exchangeId : String
  market : String
  strategyId : String
  requestedQuantity : String
  requestedNotional : String
  idempotencyKey : String
  reason : String
  requestedPrice : String
  postOnly : Option Bool
  timeInForce : Option TimeInForce
  metadata : ExitOrderIntentMetadata
deriving DecidableEq, Repr

def ExitPositionScope.json (scope : ExitPositionScope) : JsValue :=
  .object [("market", .string scope.market), ("strategyId", .string scope.strategyId),
    ("totalQuantity", .string scope.totalQuantity)]

def RequoteLineage.json (requote : RequoteLineage) : JsonRecord :=
  [("requote_parent_idempotency_key", .string requote.parentIdempotencyKey),
    ("requote_lineage_id", .string requote.lineageId), ("requote_sequence", .number requote.sequence),
    ("requote_remaining_quantity", .string requote.remainingQuantity)]

/-- the metadata as execution reads it -/
def ExitOrderIntentMetadata.json (metadata : ExitOrderIntentMetadata) : JsValue :=
  .object ([("position_effect", .string metadata.positionEffect.text),
      ("exit_reason_code", .string metadata.exitReasonCode), ("exit_rule_id", .string metadata.exitRuleId),
      ("position_scope", metadata.positionScope.json)]
    ++ optionalField "exit_cost_bps" metadata.exitCostBps
    ++ optionalField "exit_slippage_bps" metadata.exitSlippageBps
    ++ metadata.requote.elim [] RequoteLineage.json)

/-- an exit intent as an order intent -/
def ExitOrderIntent.toExecutionIntent (intent : ExitOrderIntent) : ExecutionIntent where
  exchangeId := intent.exchangeId
  market := intent.market
  strategyId := intent.strategyId
  side := .sell
  requestedQuantity := intent.requestedQuantity
  requestedNotional := intent.requestedNotional
  idempotencyKey := intent.idempotencyKey
  terms := .limit intent.requestedPrice (intent.postOnly = some true) intent.timeInForce
  metadata := intent.metadata.json

section Host

variable [Host]

/-! ## Model: sizing -/

/-- the remainder of a division, with the sign of the dividend -/
def decimalMod (x y : ℚ) : ℚ :=
  let truncated : ℤ := if 0 ≤ x / y then ⌊x / y⌋ else ⌈x / y⌉
  decimalRound (x - truncated * y)

def parseDecimal (value : String) : Option Dec := (parseDec value).toOption

omit [Host] in
/-- a reason goes to one field only, and most go to none -/
def invalid (rejectionReason message requestedQuantity requestedPrice : String) : ExitSizing where
  requestedQuantity := requestedQuantity
  requestedPrice := requestedPrice
  executableQuantity := "0"
  dustQuantity := "0"
  dustReason := none
  belowMinOrderNotional := false
  belowMinOrderReason := if rejectionReason = "below_min_order_notional" then some message else none
  remainingBelowMinOrderNotional := none
  remainingBelowMinOrderReason := none
  exceedsPosition := false
  exceedsPositionReason :=
    if rejectionReason = "exit_quantity_invalid" ∨ rejectionReason = "position_exceeded" then some message else none
  valid := false
  rejectionReason := some rejectionReason

/-- the amounts of a sizing, once all of them are read -/
structure SizingAmounts where
  requestedQty : Dec
  totalQty : Dec
  dustThreshold : Dec
  minOrderNotional : Dec
  tickSize : Dec
  currentPrice : Dec
  requestedPrice : Dec

def readSizingAmounts (options : ExitSizingOptions) : Option SizingAmounts := do
  let requestedQty ← parseDecimal options.requestedQuantity
  let totalQty ← parseDecimal options.positionScope.totalQuantity
  let dustThreshold ← parseDecimal options.policySnapshot.dustThreshold
  let minOrderNotional ← parseDecimal options.policySnapshot.minOrderNotional
  let tickSize ← parseDecimal options.policySnapshot.tickSize
  let currentPrice ← parseDecimal options.currentPrice
  let requestedPrice ← parseDecimal options.requestedPrice
  pure ⟨requestedQty, totalQty, dustThreshold, minOrderNotional, tickSize, currentPrice, requestedPrice⟩

/-- the checks of the policy and of the amounts one by one -/
def rejectSizingAmounts (options : ExitSizingOptions) (amounts : SizingAmounts) : Option ExitSizing :=
  let rejected (rejectionReason message requestedPrice : String) : Option ExitSizing :=
    some (invalid rejectionReason message options.requestedQuantity requestedPrice)
  let requestedPriceText := Host.toFixed amounts.requestedPrice.value
  if ¬ 0 < amounts.minOrderNotional.value then
    rejected "exit_policy_invalid" "최소 주문금액 정책값이 유효하지 않습니다. 0보다 큰 금액이어야 합니다." options.requestedPrice
  else if amounts.dustThreshold.isNegative then
    rejected "exit_policy_invalid" "dust threshold 정책값이 유효하지 않습니다. 0 이상이어야 합니다." options.requestedPrice
  else if ¬ 0 < amounts.tickSize.value then
    rejected "exit_policy_invalid" "호가 단위 정책값이 유효하지 않습니다. 0보다 큰 값이어야 합니다." options.requestedPrice
  else if ¬ 0 < amounts.currentPrice.value then
    rejected "exit_price_invalid" "현재가가 유효하지 않습니다. 0보다 큰 가격이어야 합니다." options.requestedPrice
  else if ¬ 0 < amounts.requestedPrice.value then
    rejected "exit_price_invalid" "청산 요청 가격이 유효하지 않습니다. 0보다 큰 가격이어야 합니다." options.requestedPrice
  else if decimalMod amounts.requestedPrice.value amounts.tickSize.value ≠ 0 then
    rejected "exit_price_tick_mismatch" "청산 요청 가격이 호가 단위에 맞지 않습니다." options.requestedPrice
  else if amounts.totalQty.value = 0 ∨ amounts.totalQty.isNegative then
    rejected "exit_no_position" "청산할 포지션이 없습니다. open position 수량이 0이거나 음수입니다." requestedPriceText
  else if amounts.requestedQty.value = 0 ∨ amounts.requestedQty.isNegative then
    rejected "exit_quantity_invalid" "청산 요청 수량이 0 이하입니다." requestedPriceText
  else none

/-- the checks of the quantity against the position -/
def sizePosition (amounts : SizingAmounts) : ExitSizing :=
  let requestedText := Host.toFixed amounts.requestedQty.value
  let totalText := Host.toFixed amounts.totalQty.value
  let remainingAfterSell := decimalRound (amounts.totalQty.value - amounts.requestedQty.value)
  let executableNotional := decimalRound (amounts.requestedQty.value * amounts.requestedPrice.value)
  let remainingNotional := decimalRound (remainingAfterSell * amounts.currentPrice.value)
  let sized : ExitSizing :=
    { requestedQuantity := requestedText
      requestedPrice := Host.toFixed amounts.requestedPrice.value
      executableQuantity := requestedText
      dustQuantity := "0"
      dustReason := none
      belowMinOrderNotional := false
      belowMinOrderReason := none
      remainingBelowMinOrderNotional := none
      remainingBelowMinOrderReason := none
      exceedsPosition := false
      exceedsPositionReason := none
      valid := true
      rejectionReason := none }
  let blocked := { sized with executableQuantity := "0", valid := false }
  if amounts.totalQty.value < amounts.requestedQty.value then
    { blocked with
      exceedsPosition := true
      exceedsPositionReason := some ("청산 요청 수량(" ++ requestedText ++ ")이 보유 수량(" ++ totalText
        ++ ")을 초과합니다. 주문을 차단합니다.")
      rejectionReason := some "position_exceeded" }
  else if executableNotional < amounts.minOrderNotional.value then
    { blocked with
      belowMinOrderNotional := true
      belowMinOrderReason := some ("청산 주문 예상 금액(" ++ Host.toFixed executableNotional ++ " KRW)이 최소 주문금액("
        ++ Host.toFixed amounts.minOrderNotional.value ++ " KRW) 미만입니다.")
      rejectionReason := some "below_min_order_notional" }
  else if 0 < remainingAfterSell ∧ remainingAfterSell ≤ amounts.dustThreshold.value then
    { blocked with
      dustQuantity := Host.toFixed remainingAfterSell
      dustReason := some ("청산 후 잔량(" ++ Host.toFixed remainingAfterSell ++ ")이 dust threshold("
        ++ Host.toFixed amounts.dustThreshold.value
        ++ ") 이하입니다. \"실제 0\"이 아닌 \"처리 불가 잔량\"으로 구분하고 주문 후보 생성을 차단합니다.")
      rejectionReason := some "dust_remainder" }
  else if 0 < remainingAfterSell ∧ remainingNotional < amounts.minOrderNotional.value then
    { blocked with
      remainingBelowMinOrderNotional := some true
      remainingBelowMinOrderReason := some ("청산 후 잔여 포지션 예상 금액(" ++ Host.toFixed remainingNotional
        ++ " KRW)이 최소 주문금액(" ++ Host.toFixed amounts.minOrderNotional.value
        ++ " KRW) 미만입니다. 유의미한 잔여 포지션을 남기지 않도록 주문 후보 생성을 차단합니다.")
      rejectionReason := some "remaining_below_min_order_notional" }
  else sized

def evaluateExitSizing (options : ExitSizingOptions) : ExitSizing :=
  if options.market ≠ options.positionScope.market ∨ options.strategyId ≠ options.positionScope.strategyId then
    invalid "exit_position_scope_mismatch" "청산 요청 범위와 포지션 범위가 일치하지 않습니다." options.requestedQuantity
      options.requestedPrice
  else
    match readSizingAmounts options with
    | none =>
      invalid "exit_sizing_parse_error" "청산 수량 또는 정책 값을 파싱할 수 없습니다." options.requestedQuantity
        options.requestedPrice
    | some amounts => (rejectSizingAmounts options amounts).getD (sizePosition amounts)

/-! ## Model: submission -/

omit [Host] in
structure ExitSubmissionInput where
  decision : ExitDecision
  sizing : ExitSizing
  positionScope : ExitPositionScope
  policySnapshot : ExitPolicySnapshot
  riskApproval : JsValue
  idempotencyKey : String
  expectedLossBpsOfEquity : Option String
  submittedAt : MarketTimestamp

omit [Host] in
structure ExitSubmissionResult where
  submission : ExecutionSubmission
  exitOrderIntent : ExitOrderIntent

omit [Host] in
/-- HOLD and BLOCK do not get here -/
def resolveExitIntention (decision : ExitDecision) : ExitIntention :=
  if decision.kind = .exit then .exit else .reduce

def isFullExitQuantity (sizing : ExitSizing) (positionScope : ExitPositionScope) : Bool :=
  match parseFinancialDecimal sizing.executableQuantity, parseFinancialDecimal positionScope.totalQuantity with
  | .ok executable, .ok total => executable = total
  | _, _ => false

omit [Host] in
def resolveExitRuleId (decision : ExitDecision) : String :=
  match decision.triggeredRules with
  | [] => "exit_unknown"
  | ids => "+".intercalate ids

/-- `calculateExitNotional` and `calculateNotional`: the amount of an order, where price and quantity are positive -/
def calculateExitNotional (price quantity : String) : Option String :=
  match parseFinancialDecimal price, parseFinancialDecimal quantity with
  | .ok priceDecimal, .ok quantityDecimal =>
    if 0 < priceDecimal ∧ 0 < quantityDecimal then some (Host.toFixed (decimalRound (priceDecimal * quantityDecimal)))
    else none
  | _, _ => none

omit [Host] in
def createExitMetadata (input : ExitSubmissionInput) : ExitOrderIntentMetadata where
  positionEffect := resolveExitIntention input.decision
  exitReasonCode := input.decision.reasonCode
  exitRuleId := resolveExitRuleId input.decision
  positionScope := input.positionScope
  exitCostBps := some input.policySnapshot.exitCostBps
  exitSlippageBps := some input.policySnapshot.exitSlippageBps
  requote := none

omit [Host] in
def createExitOrderIntent (input : ExitSubmissionInput) (idempotencyKey notionalEstimate : String) : ExitOrderIntent where
  exchangeId := "upbit_krw_spot"
  market := input.positionScope.market
  strategyId := input.positionScope.strategyId
  requestedQuantity := input.sizing.executableQuantity
  requestedNotional := notionalEstimate
  idempotencyKey := idempotencyKey
  reason := input.decision.userMessage
  requestedPrice := input.sizing.requestedPrice
  postOnly := none
  timeInForce := some .gtc
  metadata := createExitMetadata input

omit [Host] in
/-- exit cost evidence without a fingerprint of the order -/
def createExitCostSnapshot (input : ExitSubmissionInput) : JsValue :=
  .object [("source", .string "exit_cost_model"), ("exit_cost_allowed", .bool true),
    ("exit_cost_reason_code", .string "exit_cost_margin_ok"),
    ("exit_cost_bps", .string input.policySnapshot.exitCostBps),
    ("exit_slippage_bps", .string input.policySnapshot.exitSlippageBps),
    ("position_scope", .object [("market", .string input.positionScope.market),
      ("strategy_id", .string input.positionScope.strategyId),
      ("total_quantity", .string input.positionScope.totalQuantity)])]

/-- `none` where there is nothing to submit -/
def createExitSubmission (input : ExitSubmissionInput) : Option ExitSubmissionResult :=
  let idempotencyKey := trim input.idempotencyKey
  if input.sizing.valid = false then none
  else if input.decision.kind ≠ .reduce ∧ input.decision.kind ≠ .exit then none
  else if resolveExitIntention input.decision = .exit ∧ isFullExitQuantity input.sizing input.positionScope = false then
    none
  else if idempotencyKey.length = 0 then none
  else
    match calculateExitNotional input.sizing.requestedPrice input.sizing.executableQuantity with
    | none => none
    | some notionalEstimate =>
      let exitOrderIntent := createExitOrderIntent input idempotencyKey notionalEstimate
      let submission : ExecutionSubmission :=
        { intent := exitOrderIntent.toExecutionIntent
          costSnapshot := createExitCostSnapshot input
          riskApproval := input.riskApproval
          expectedLossBpsOfEquity := input.expectedLossBpsOfEquity
          submittedAt := input.submittedAt }
      some ⟨submission, exitOrderIntent⟩

/-! ## What a valid sizing says -/

/-- the quantity and the price of a valid sizing are printed numbers, and the quantity is within the position -/
structure ValidSizing (options : ExitSizingOptions) (sizing : ExitSizing) (quantity total price : ℚ) : Prop where
  executable : sizing.executableQuantity = Host.toFixed quantity
  requestedPrice : sizing.requestedPrice = Host.toFixed price
  quantityDenotes : Host.Denotes quantity
  priceDenotes : Host.Denotes price
  totalQuantity : Host.valueOf options.positionScope.totalQuantity = some total
  quantityPos : 0 < quantity
  quantityLe : quantity ≤ total
  pricePos : 0 < price

theorem parseDec_eq_ok {value : String} {d : Dec} : parseDec value = .ok d ↔ Host.decimal value = .finite d := by
  unfold parseDec
  cases Host.decimal value <;> simp [throw, throwThe, MonadExceptOf.throw, pure, Except.pure]

theorem parseDecimal_eq_some {value : String} {d : Dec} (h : parseDecimal value = some d) :
    Host.valueOf value = some d.value := by
  unfold parseDecimal at h
  cases hparse : parseDec value with
  | error e =>
    rw [hparse] at h
    cases h
  | ok d' =>
    rw [hparse] at h
    cases h
    unfold Host.valueOf
    rw [parseDec_eq_ok.1 hparse]

theorem rejectSizingAmounts_invalid {options : ExitSizingOptions} {amounts : SizingAmounts} {sizing : ExitSizing}
    (h : rejectSizingAmounts options amounts = some sizing) : sizing.valid = false := by
  unfold rejectSizingAmounts at h
  dsimp only at h
  split_ifs at h <;> cases h <;> rfl

theorem rejectSizingAmounts_none {options : ExitSizingOptions} {amounts : SizingAmounts}
    (h : rejectSizingAmounts options amounts = none) :
    0 < amounts.requestedPrice.value ∧ 0 < amounts.requestedQty.value := by
  unfold rejectSizingAmounts at h
  dsimp only at h
  split_ifs at h with _ _ _ _ hprice _ _ hquantity
  rw [not_or, Bool.not_eq_true] at hquantity
  have hnonneg := Dec.value_nonneg hquantity.2
  exact ⟨hprice, lt_of_le_of_ne hnonneg (Ne.symm hquantity.1)⟩

theorem sizePosition_valid {amounts : SizingAmounts} (h : (sizePosition amounts).valid = true) :
    amounts.requestedQty.value ≤ amounts.totalQty.value ∧
      (sizePosition amounts).executableQuantity = Host.toFixed amounts.requestedQty.value ∧
      (sizePosition amounts).requestedPrice = Host.toFixed amounts.requestedPrice.value := by
  unfold sizePosition at h ⊢
  dsimp only at h ⊢
  split_ifs at h ⊢ with hexceeds
  exact ⟨not_lt.1 hexceeds, rfl, rfl⟩

/-- **A valid sizing.** -/
theorem evaluateExitSizing_valid {options : ExitSizingOptions} (h : (evaluateExitSizing options).valid = true) :
    ∃ quantity total price, ValidSizing options (evaluateExitSizing options) quantity total price := by
  unfold evaluateExitSizing at h ⊢
  split_ifs at h ⊢ with hscope
  · cases h
  · cases hread : readSizingAmounts options with
    | none =>
      rw [hread] at h
      cases h
    | some amounts =>
      rw [hread] at h
      dsimp only at h ⊢
      cases hrejected : rejectSizingAmounts options amounts with
      | some sizing =>
        rw [hrejected, Option.getD_some, rejectSizingAmounts_invalid hrejected] at h
        cases h
      | none =>
        rw [hrejected, Option.getD_none] at h
        obtain ⟨hprice, hquantity⟩ := rejectSizingAmounts_none hrejected
        obtain ⟨hle, hexecutable, hrequested⟩ := sizePosition_valid h
        -- the amounts are the ones that the texts denote
        unfold readSizingAmounts at hread
        simp only [bind, Option.bind_eq_some_iff, pure, Option.some.injEq] at hread
        obtain ⟨q, hq, t, ht, _, -, _, -, _, -, _, -, p, hp, rfl⟩ := hread
        exact ⟨q.value, t.value, p.value, hexecutable, hrequested, ⟨_, parseDecimal_eq_some hq⟩,
          ⟨_, parseDecimal_eq_some hp⟩, parseDecimal_eq_some ht, hquantity, hle, hprice⟩

/-! ## What a submission is made of -/

/-- the checks a created submission went through -/
structure Created (input : ExitSubmissionInput) (created : ExitSubmissionResult) (notional : String) : Prop where
  valid : input.sizing.valid = true
  full : resolveExitIntention input.decision = .exit → isFullExitQuantity input.sizing input.positionScope = true
  idempotencyKey : (trim input.idempotencyKey).length ≠ 0
  estimate : calculateExitNotional input.sizing.requestedPrice input.sizing.executableQuantity = some notional
  exitOrderIntent : created.exitOrderIntent = createExitOrderIntent input (trim input.idempotencyKey) notional
  submission : created.submission = ⟨created.exitOrderIntent.toExecutionIntent, createExitCostSnapshot input,
    input.riskApproval, input.expectedLossBpsOfEquity, input.submittedAt⟩

theorem createExitSubmission_some {input : ExitSubmissionInput} {created : ExitSubmissionResult}
    (h : createExitSubmission input = some created) : ∃ notional, Created input created notional := by
  unfold createExitSubmission at h
  dsimp only at h
  split_ifs at h with hvalid hkind hfull hkey
  cases hnotional : calculateExitNotional input.sizing.requestedPrice input.sizing.executableQuantity with
  | none =>
    rw [hnotional] at h
    cases h
  | some notional =>
    rw [hnotional] at h
    cases h
    refine ⟨notional, by simpa using hvalid, fun hexit => ?_, hkey, hnotional, rfl, rfl⟩
    by_contra hpart
    exact hfull ⟨hexit, by simpa using hpart⟩

/-- an EXIT that passes the checks is submitted -/
theorem createExitSubmission_exit {input : ExitSubmissionInput} {key notional : String}
    (hkind : input.decision.kind = .exit) (hvalid : input.sizing.valid = true)
    (hfull : isFullExitQuantity input.sizing input.positionScope = true) (hkey : trim input.idempotencyKey = key)
    (hne : key.length ≠ 0)
    (hnotional : calculateExitNotional input.sizing.requestedPrice input.sizing.executableQuantity = some notional) :
    createExitSubmission input = some ⟨⟨(createExitOrderIntent input key notional).toExecutionIntent,
      createExitCostSnapshot input, input.riskApproval, input.expectedLossBpsOfEquity, input.submittedAt⟩,
      createExitOrderIntent input key notional⟩ := by
  unfold createExitSubmission
  dsimp only
  rw [hkey, if_neg (by simp [hvalid]), if_neg (by simp [hkind]), if_neg (by simp [hfull]), if_neg hne, hnotional]

end Host

section Prints

variable [H : Host] [H.Prints] [H.Closed]

theorem calculateExitNotional_positive {price quantity notional : String}
    (h : calculateExitNotional price quantity = some notional) : isPositiveDecimal notional = true := by
  unfold calculateExitNotional at h
  split at h
  · rename_i p q hp hq
    split_ifs at h with hpos
    obtain rfl := Option.some.inj h
    have hdenotes : Host.Denotes (decimalRound (p * q)) :=
      Host.Closed.round (Host.Closed.mul ⟨_, parseFinancialDecimal_eq_ok.1 hp⟩ ⟨_, parseFinancialDecimal_eq_ok.1 hq⟩)
    exact isPositiveDecimal_iff.2 ⟨_, hdenotes.read_toFixed, decimalRound_pos (mul_pos hpos.1 hpos.2)⟩
  · cases h

end Prints

/-! ## Producer and validator -/

theorem mem_dropWhile {α : Type*} {p : α → Bool} {c : α} {cs : List α} (hmem : c ∈ cs) (hc : p c = false) :
    c ∈ cs.dropWhile p := by
  induction cs with
  | nil => cases hmem
  | cons first rest ih =>
    rw [List.dropWhile_cons]
    split_ifs with hfirst
    · rcases List.mem_cons.1 hmem with rfl | hmem
      · rw [hc] at hfirst
        cases hfirst
      · exact ih hmem
    · exact hmem

/-- trimming a second time does not empty a text -/
theorem trim_trim_ne_nil {s : String} (h : (trim s).length ≠ 0) : (trim (trim s)).length ≠ 0 := by
  have hlist : ∀ t : String, (trim t).length = ((t.toList.dropWhile isWhiteSpace).reverse.dropWhile isWhiteSpace).length := by
    intro t
    unfold trim
    rw [String.length_ofList, List.length_reverse]
  have hsolid : ∃ c ∈ (trim s).toList, isWhiteSpace c = false := by
    have hne : (s.toList.dropWhile isWhiteSpace).reverse.dropWhile isWhiteSpace ≠ [] := by
      rw [hlist] at h
      exact fun hnil => h (by rw [hnil]; rfl)
    refine ⟨List.head _ hne, ?_, List.head_dropWhile_not isWhiteSpace hne⟩
    unfold trim
    rw [String.toList_ofList]
    exact List.mem_reverse.2 (List.head_mem hne)
  obtain ⟨c, hmem, hc⟩ := hsolid
  rw [hlist]
  have hkept := mem_dropWhile (List.mem_reverse.2 (mem_dropWhile hmem hc)) hc
  exact fun hzero => by
    rw [List.length_eq_zero_iff.1 hzero] at hkept
    cases hkept

section Agreement

variable [H : Host]

/-- a decimal without a minus sign -/
def Unsigned (text : String) : Prop := ∃ d, Host.decimal text = .finite d ∧ d.isNegative = false

theorem isNonNegativeDecimal_iff [H.RejectsEmpty] {text : String} :
    isNonNegativeDecimal (.string text) = true ↔ Unsigned text := by
  unfold isNonNegativeDecimal Unsigned
  cases hparse : parseDec text with
  | error e =>
    have hnone : ∀ d, Host.decimal text ≠ .finite d := fun d hd => by
      rw [parseDec_eq_ok.2 hd] at hparse
      cases hparse
    simp [hparse, hnone]
  | ok d =>
    have htext := parseDec_eq_ok.1 hparse
    have hne : text ≠ "" := by
      rintro rfl
      rw [Host.RejectsEmpty.decimal_empty] at htext
      cases htext
    simp [hparse, htext, hne]

theorem ne_empty_of_valueOf [H.RejectsEmpty] {text : String} {q : ℚ} (h : Host.valueOf text = some q) : text ≠ "" := by
  rintro rfl
  unfold Host.valueOf at h
  rw [Host.RejectsEmpty.decimal_empty] at h
  cases h

variable {options : ExitSizingOptions} {input : ExitSubmissionInput} {created : ExitSubmissionResult} {notional : String}
  {quantity total price : ℚ}

theorem Created.positionEffect (h : Created input created notional) :
    readOrderIntentPositionEffect created.submission.intent = some (resolveExitIntention input.decision).text := by
  rw [h.submission, h.exitOrderIntent]
  rfl

theorem Created.isExitIntent (h : Created input created notional) : isExitIntent created.submission.intent = true := by
  unfold Execution.isExitIntent
  rw [h.positionEffect]
  cases resolveExitIntention input.decision <;> simp [ExitIntention.text]

/-- nothing of the expected loss is in the metadata -/
theorem Created.expectedLoss (h : Created input created notional) :
    readSubmissionExpectedLossBps created.submission = input.expectedLossBpsOfEquity := by
  have hmetadata : readOrderIntentExpectedLossBps created.submission.intent = none := by
    rw [h.submission, h.exitOrderIntent]
    rfl
  unfold readSubmissionExpectedLossBps
  rw [hmetadata, Option.or_none, h.submission]

theorem Created.amounts [H.Prints] [H.Closed] (h : Created input created notional)
    (hsizing : ValidSizing options input.sizing quantity total price) :
    validateOrderAmounts created.submission.intent = none := by
  have hquantity : isPositiveDecimal input.sizing.executableQuantity = true := by
    rw [hsizing.executable]
    exact isPositiveDecimal_iff.2 ⟨quantity, hsizing.quantityDenotes.read_toFixed, hsizing.quantityPos⟩
  have hprice : isPositiveDecimal input.sizing.requestedPrice = true := by
    rw [hsizing.requestedPrice]
    exact isPositiveDecimal_iff.2 ⟨price, hsizing.priceDenotes.read_toFixed, hsizing.pricePos⟩
  rw [h.submission, h.exitOrderIntent]
  exact validateOrderAmounts_limit rfl hquantity (calculateExitNotional_positive h.estimate) hprice

theorem validateExitPositionScope_open [H.RejectsEmpty] {intent : ExecutionIntent} {scope : JsValue} {totalText : String}
    (hrecord : scope.isNonEmptyRecord = true) (hmarket : scope.prop "market" = .string intent.market)
    (hstrategy : scope.prop "strategy_id" = .string intent.strategyId)
    (htotal : scope.prop "total_quantity" = .string totalText) (hvalue : Host.valueOf totalText = some total)
    (hpos : 0 < total) : validateExitPositionScope intent scope = none := by
  have hne := ne_empty_of_valueOf hvalue
  unfold validateExitPositionScope
  rw [if_neg (by simp [hrecord]), if_neg (by simp [hmarket, hstrategy, htotal, JsValue.asString, isNonEmptyString, hne]),
    htotal]
  dsimp only [JsValue.asString, Option.getD_some]
  rw [parseFinancialDecimal_eq_ok.2 hvalue]
  exact if_pos hpos

theorem collectInvalidExitCostFields_eq_nil {snapshot : JsValue} :
    collectInvalidExitCostFields snapshot = [] ↔ isNonNegativeDecimal (snapshot.prop "exit_cost_bps") = true ∧
      isNonNegativeDecimal (snapshot.prop "exit_slippage_bps") = true := by
  unfold collectInvalidExitCostFields appendInvalidNonNegativeDecimalField
  dsimp only
  split_ifs with hslippage hcost hcost <;> simp_all

/-- the exit costs decide whether the validator takes the cost snapshot -/
theorem Created.costSnapshot_iff [H.RejectsEmpty] (h : Created input created notional)
    (htotal : Host.valueOf input.positionScope.totalQuantity = some total) (hpos : 0 < total) :
    validateCostSnapshot created.submission = none
      ↔ Unsigned input.policySnapshot.exitCostBps ∧ Unsigned input.policySnapshot.exitSlippageBps := by
  have hsnapshot : created.submission.costSnapshot = createExitCostSnapshot input := by rw [h.submission]
  have hscope : validateExitPositionScope created.submission.intent
      ((createExitCostSnapshot input).prop "position_scope") = none := by
    refine validateExitPositionScope_open rfl ?_ ?_ rfl htotal hpos
    · rw [h.submission, h.exitOrderIntent]
      rfl
    · rw [h.submission, h.exitOrderIntent]
      rfl
  have hside : created.submission.intent.side = .sell := by rw [h.submission]; rfl
  have hmetadata : (readStringMetadata created.submission.intent.metadata "exit_reason_code").isNone = false ∧
      (readStringMetadata created.submission.intent.metadata "exit_rule_id").isNone = false := by
    rw [h.submission, h.exitOrderIntent]
    exact ⟨rfl, rfl⟩
  have hfields := @collectInvalidExitCostFields_eq_nil _ (createExitCostSnapshot input)
  rw [show (createExitCostSnapshot input).prop "exit_cost_bps" = .string input.policySnapshot.exitCostBps from rfl,
    show (createExitCostSnapshot input).prop "exit_slippage_bps" = .string input.policySnapshot.exitSlippageBps from rfl,
    isNonNegativeDecimal_iff, isNonNegativeDecimal_iff] at hfields
  have hsource : ((createExitCostSnapshot input).prop "source").asString = some "exit_cost_model" := rfl
  have hrecord : (createExitCostSnapshot input).isNonEmptyRecord = true := rfl
  have hallowed : ((createExitCostSnapshot input).prop "exit_cost_allowed").asBoolean = some true := rfl
  have hreason : ((createExitCostSnapshot input).prop "exit_cost_reason_code").asString
      = some "exit_cost_margin_ok" := rfl
  have hunprinted : ((createExitCostSnapshot input).prop "order_intent").isUndefined = true := rfl
  rw [← hfields]
  unfold validateCostSnapshot validateExitCostSnapshot
  dsimp only
  rw [hsnapshot, if_neg (by simp [hrecord]), if_pos hsource, if_neg (by simp [h.isExitIntent]), if_neg (by simp [hside]),
    if_neg (by simp [hmetadata])]
  by_cases hcosts : collectInvalidExitCostFields (createExitCostSnapshot input) = []
  · rw [if_neg (by simp [hallowed, hreason, hcosts]), hscope, Option.none_or]
    unfold validateExitCostOrderIntent
    rw [if_pos hunprinted]
    simp [hcosts]
  · rw [if_pos (Or.inr (Or.inr hcosts))]
    simp [hcosts]

theorem Created.exitCostEvidence (h : Created input created notional) :
    validateExitCostEvidence created.submission = none := by
  have hside : created.submission.intent.side = .sell := by rw [h.submission]; rfl
  unfold validateExitCostEvidence
  dsimp only
  rw [if_neg (by simp [hside]), if_neg (by simp [h.isExitIntent])]

theorem Created.sellPositionScope [H.Prints] (h : Created input created notional)
    (hsizing : ValidSizing options input.sizing quantity total price) (hscope : input.positionScope = options.positionScope) :
    validateExitSellPositionScope created.submission = none := by
  have hside : created.submission.intent.side = .sell := by rw [h.submission]; rfl
  have hsnapshot : created.submission.costSnapshot = createExitCostSnapshot input := by rw [h.submission]
  have hquantity : parseFinancialDecimal created.submission.intent.requestedQuantity = .ok quantity := by
    rw [h.submission, h.exitOrderIntent]
    change parseFinancialDecimal input.sizing.executableQuantity = _
    rw [hsizing.executable]
    exact parseFinancialDecimal_eq_ok.2 hsizing.quantityDenotes.read_toFixed
  have htotal : parseFinancialDecimal input.positionScope.totalQuantity = .ok total := by
    rw [hscope]
    exact parseFinancialDecimal_eq_ok.2 hsizing.totalQuantity
  have hrecord : ((createExitCostSnapshot input).prop "position_scope").isNonEmptyRecord = true := rfl
  have htext : (((createExitCostSnapshot input).prop "position_scope").prop "total_quantity").asString
      = some input.positionScope.totalQuantity := rfl
  unfold validateExitSellPositionScope
  dsimp only
  rw [if_neg (by simp [hside]), hsnapshot, hrecord, htext]
  dsimp only
  rw [hquantity, htotal]
  dsimp only
  rw [if_neg (not_lt.2 hsizing.quantityLe), if_neg]
  rintro ⟨heffect, hne⟩
  rw [h.positionEffect] at heffect
  have hexit : resolveExitIntention input.decision = .exit := by
    cases hintention : resolveExitIntention input.decision with
    | reduce => simp [hintention, ExitIntention.text] at heffect
    | exit => rfl
  -- an EXIT was made for the full quantity only
  have hfull := h.full hexit
  unfold isFullExitQuantity at hfull
  rw [hsizing.executable, parseFinancialDecimal_eq_ok.2 hsizing.quantityDenotes.read_toFixed, htotal] at hfull
  exact hne (of_decide_eq_true hfull)

/-- a submission made of the sizing for its own position, with a risk approval of its own order and expected loss -/
structure Produced (options : ExitSizingOptions) (input : ExitSubmissionInput) (created : ExitSubmissionResult)
    (result : RiskGateResult) (context : RiskGateContext) (thresholdSnapshot : JsValue) : Prop where
  sizing : input.sizing = evaluateExitSizing options
  positionScope : input.positionScope = options.positionScope
  submitted : createExitSubmission input = some created
  approval : input.riskApproval = createExecutionRiskApprovalEvidence result context thresholdSnapshot
  orderIntent : context.orderIntent = created.submission.intent
  expectedLoss : context.expectedLossBpsOfEquity = input.expectedLossBpsOfEquity

end Agreement

/-! ## Sample submissions -/

def samplePolicy (exitCostBps : String) : ExitPolicySnapshot where
  minOrderNotional := "10"
  tickSize := "1"
  dustThreshold := "0"
  exitCostBps := exitCostBps
  exitSlippageBps := "3"

/-- the whole position of two, at ten -/
def sampleOptions (exitCostBps : String) : ExitSizingOptions where
  market := "KRW-BTC"
  strategyId := "trend"
  requestedQuantity := "2"
  positionScope := ⟨"KRW-BTC", "trend", "2"⟩
  policySnapshot := samplePolicy exitCostBps
  currentPrice := "10"
  requestedPrice := "10"

def sampleInput (exitCostBps : String) (loss : Option String) (riskApproval : JsValue) : ExitSubmissionInput where
  decision := ⟨.exit, ["stop"], [], "stop_loss", "stop", .at 0⟩
  sizing := evaluateExitSizing (sampleOptions exitCostBps)
  positionScope := ⟨"KRW-BTC", "trend", "2"⟩
  policySnapshot := samplePolicy exitCostBps
  riskApproval := riskApproval
  idempotencyKey := "exit-1"
  expectedLossBpsOfEquity := loss
  submittedAt := .nanos 0

def sampleContext (exitCostBps : String) (loss : Option String) (signals : List InfrastructureRiskSignal) :
    RiskGateContext where
  orderIntent := (createExitOrderIntent (sampleInput exitCostBps loss .undefined) "exit-1" "20").toExecutionIntent
  account := ⟨"1000000", "0", "0", "0"⟩
  positions := []
  strategy := ⟨"trend", some 0⟩
  infrastructureSignals := signals
  thresholds := defaultRiskLimitThresholds
  expectedLossBpsOfEquity := loss

/-- what the gate answers -/
def sampleResult (context : RiskGateContext) : RiskGateResult :=
  (evaluateRiskGate context).toOption.getD (createRiskGateResult [])

/-- the submission, with the answer of the gate to its own order -/
def sampleApproved (exitCostBps : String) (loss : Option String) (signals : List InfrastructureRiskSignal) :
    ExitSubmissionInput :=
  let context := sampleContext exitCostBps loss signals
  sampleInput exitCostBps loss (createExecutionRiskApprovalEvidence (sampleResult context) context .undefined)

def sampleCreated (exitCostBps : String) (loss : Option String) (signals : List InfrastructureRiskSignal) :
    ExitSubmissionResult :=
  let input := sampleApproved exitCostBps loss signals
  let intent := createExitOrderIntent input "exit-1" "20"
  ⟨⟨intent.toExecutionIntent, createExitCostSnapshot input, input.riskApproval, loss, .nanos 0⟩, intent⟩

theorem sample_produced {exitCostBps : String} (hsizing : evaluateExitSizing (sampleOptions exitCostBps)
      = evaluateExitSizing (sampleOptions "5")) (loss : Option String) (signals : List InfrastructureRiskSignal) :
    Produced (sampleOptions exitCostBps) (sampleApproved exitCostBps loss signals) (sampleCreated exitCostBps loss signals)
      (sampleResult (sampleContext exitCostBps loss signals)) (sampleContext exitCostBps loss signals) .undefined where
  sizing := rfl
  positionScope := rfl
  submitted := by
    have hvalid : (evaluateExitSizing (sampleOptions "5")).valid = true := by decide +kernel
    have hfull : isFullExitQuantity (evaluateExitSizing (sampleOptions "5")) ⟨"KRW-BTC", "trend", "2"⟩ = true := by
      decide +kernel
    have hnotional : calculateExitNotional (evaluateExitSizing (sampleOptions "5")).requestedPrice
        (evaluateExitSizing (sampleOptions "5")).executableQuantity = some "20" := by
      decide +kernel
    have hkey : trim "exit-1" = "exit-1" := by decide +kernel
    rw [← hsizing] at hvalid hfull hnotional
    exact createExitSubmission_exit rfl hvalid hfull hkey (by decide) hnotional
  approval := rfl
  orderIntent := rfl
  expectedLoss := rfl

/-- a produced submission with costs that are not negative, which the validator refuses -/
def Refused (exitCostBps : String) (loss : Option String) (signals : List InfrastructureRiskSignal) : Prop :=
  Produced (sampleOptions exitCostBps) (sampleApproved exitCostBps loss signals) (sampleCreated exitCostBps loss signals)
      (sampleResult (sampleContext exitCostBps loss signals)) (sampleContext exitCostBps loss signals) .undefined ∧
    (∃ cost, NonNegativeByValue exitCostBps cost) ∧ (∃ slippage, NonNegativeByValue "3" slippage) ∧
    validateExecutionSubmission (sampleCreated exitCostBps loss signals).submission defaultPaperExecutionSafetyConfig ≠ none

end SeeMirai.Exit
