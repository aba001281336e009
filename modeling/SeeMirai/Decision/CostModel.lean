/-
The cost model (domain/cost.ts): an order candidate passes where its expected return covers the fees, the spread, the
slippage, the requote penalty and a safety buffer. Every number is a text; a missing or unreadable one, and a negative one
where that makes no sense, rejects the candidate. The sums are decimal.js sums, rounded at every step.

The evaluation moment, which the snapshot only hands on, is left out.

Results:
- `evaluateCost_kind`: a candidate is allowed with an OK margin, or rejected.
- `evaluateCost_allowed`: what the snapshot of an allowed candidate says.
-/
import SeeMirai.Decision.Runner
import SeeMirai.Lib.DecimalHost

namespace SeeMirai.Decision

open Execution

/-! ## Model -/

inductive CostInputField where
  | expectedReturnBps
  | entryFeeBps
  | exitFeeBps
  | spreadCostBpsP75
  | expectedSlippageBpsP95
  | cancelRequotePenaltyBps
  | safetyBufferBps
deriving DecidableEq

def CostInputField.snapshotKey : CostInputField → String
  | .expectedReturnBps => "expected_return_bps"
  | .entryFeeBps => "entry_fee_bps"
  | .exitFeeBps => "exit_fee_bps"
  | .spreadCostBpsP75 => "spread_cost_bps_p75"
  | .expectedSlippageBpsP95 => "expected_slippage_bps_p95"
  | .cancelRequotePenaltyBps => "cancel_requote_penalty_bps"
  | .safetyBufferBps => "safety_buffer_bps"

/-- the fields in the order they are read; the safety buffer comes last -/
def costInputFields : List CostInputField :=
  [.expectedReturnBps, .entryFeeBps, .exitFeeBps, .spreadCostBpsP75, .expectedSlippageBpsP95, .cancelRequotePenaltyBps,
    .safetyBufferBps]

/-- only the expected return may be negative -/
def CostInputField.allowNegative (field : CostInputField) : Bool := field = .expectedReturnBps

def resolveDefaultSafetyBufferBps (market : String) (marketCategory : Option String) : Option String :=
  if market = "KRW-BTC" ∨ market = "KRW-ETH" ∨ marketCategory = some "BTC_ETH" then some "10"
  else if marketCategory = some "TOP_ALT" then some "20"
  else none

/-- `value ?? fallback` -/
def orDefault (value : JsValue) (fallback : Option String) : JsValue :=
  match value with
  | .undefined => .ofString fallback
  | .null => .ofString fallback
  | value => value

def CostModelInput.value (input : CostModelInput) : CostInputField → JsValue
  | .expectedReturnBps => input.expectedReturnBps
  | .entryFeeBps => input.entryFeeBps
  | .exitFeeBps => input.exitFeeBps
  | .spreadCostBpsP75 => input.spreadCostBpsP75
  | .expectedSlippageBpsP95 => input.expectedSlippageBpsP95
  | .cancelRequotePenaltyBps => input.cancelRequotePenaltyBps
  | .safetyBufferBps =>
    orDefault input.safetyBufferBps (resolveDefaultSafetyBufferBps input.market input.safetyBufferMarketCategory)

/-- what `parseCostInputField` makes of a value -/
inductive CostReading where
  | missing
  | invalid
  | parsed (value : Dec)
deriving DecidableEq

section Host

variable [Host]

def parseCostDecimal (input : JsValue) (allowNegative : Bool) : Option Dec :=
  match input with
  | .string s =>
    match parseDec s with
    | .ok value => if allowNegative = false ∧ value.isNegative then none else some value
    | .error _ => none
  | _ => none

def parseCostInputField (inputValue : JsValue) (allowNegative : Bool) : CostReading :=
  match inputValue with
  | .undefined => .missing
  | .null => .missing
  | value =>
    match parseCostDecimal value allowNegative with
    | some decimal => .parsed decimal
    | none => .invalid

def CostModelInput.reading (input : CostModelInput) (field : CostInputField) : CostReading :=
  parseCostInputField (input.value field) field.allowNegative

def CostModelInput.parsed (input : CostModelInput) (field : CostInputField) : Option Dec :=
  match input.reading field with
  | .parsed value => some value
  | _ => none

def CostModelInput.missingFields (input : CostModelInput) : List CostInputField :=
  costInputFields.filter (fun field => input.reading field = .missing)

def CostModelInput.invalidFields (input : CostModelInput) : List CostInputField :=
  costInputFields.filter (fun field => input.reading field = .invalid)

/-- a parsed value; it is only asked for where every field was read -/
def CostModelInput.bps (input : CostModelInput) (field : CostInputField) : ℚ := ((input.parsed field).map (·.value)).getD 0

def CostModelInput.costBps (input : CostModelInput) : ℚ :=
  decimalRound (decimalRound (decimalRound (decimalRound (input.bps .entryFeeBps + input.bps .exitFeeBps)
    + input.bps .spreadCostBpsP75) + input.bps .expectedSlippageBpsP95) + input.bps .cancelRequotePenaltyBps)

def CostModelInput.requiredReturnBps (input : CostModelInput) : ℚ :=
  decimalRound (input.costBps + input.bps .safetyBufferBps)

def CostModelInput.marginBps (input : CostModelInput) : ℚ :=
  decimalRound (input.bps .expectedReturnBps - input.requiredReturnBps)

def fieldList (name : String) (fields : List CostInputField) : JsonRecord :=
  if fields = [] then [] else [(name, .array (fields.map fun field => .string field.snapshotKey))]

def buildSnapshot (input : CostModelInput) (tradeAllowed : Bool) (reasonCode : String) (outcome : JsonRecord) :
    JsonRecord :=
  [("exchange_id", .string input.exchangeId), ("market", .string input.market), ("trade_allowed", .bool tradeAllowed),
    ("reason_code", .string reasonCode)]
  ++ costInputFields.filterMap (fun field =>
    (input.parsed field).map fun value => (field.snapshotKey, .string (Host.toFixed value.value)))
  ++ outcome

def CostModelInput.sums (input : CostModelInput) : JsonRecord :=
  [("cost_bps", .string (Host.toFixed input.costBps)),
    ("required_return_bps", .string (Host.toFixed input.requiredReturnBps)),
    ("margin_bps", .string (Host.toFixed input.marginBps))]

/-- `CostModel.evaluate` -/
def evaluateCost (input : CostModelInput) : CostDecision :=
  if input.missingFields ≠ [] ∨ input.invalidFields ≠ [] then
    let reasonCode := if input.invalidFields ≠ [] then "invalid_cost_input" else "missing_cost_input"
    { kind := "REJECT"
      tradeAllowed := false
      reasonCode := reasonCode
      message :=
        if input.invalidFields ≠ [] then "Cost model input contains invalid numeric fields"
        else "Cost model input is missing required numeric fields"
      snapshot := buildSnapshot input false reasonCode
        (fieldList "missing_fields" input.missingFields ++ fieldList "invalid_fields" input.invalidFields) }
  else if input.bps .expectedReturnBps < input.requiredReturnBps then
    { kind := "REJECT"
      tradeAllowed := false
      reasonCode := "cost_margin_insufficient"
      message := "Expected return is below total cost plus safety buffer"
      snapshot := buildSnapshot input false "cost_margin_insufficient" input.sums }
  else
    { kind := "ALLOW"
      tradeAllowed := true
      reasonCode := "cost_margin_ok"
      message := "Expected return covers total cost plus safety buffer"
      snapshot := buildSnapshot input true "cost_margin_ok" input.sums }

/-! ## What a decision says -/

variable {input : CostModelInput}

theorem parseCostDecimal_some {value : JsValue} {allowNegative : Bool} {d : Dec}
    (h : parseCostDecimal value allowNegative = some d) :
    Host.Denotes d.value ∧ (allowNegative = false → d.isNegative = false) := by
  cases value with
  | string text =>
    unfold parseCostDecimal at h
    cases hparse : parseDec text with
    | error e => simp [hparse] at h
    | ok parsed =>
      simp only [hparse] at h
      split_ifs at h with hsign
      obtain rfl := Option.some.inj h
      have htext : Host.valueOf text = some parsed.value := by
        rw [← parseFinancialDecimal_eq_ok, parseFinancialDecimal, hparse]
        rfl
      exact ⟨⟨text, htext⟩, fun hnegative => by simpa [hnegative] using hsign⟩
  | _ => cases h

/-- every field of a candidate that is not rejected for its input was read, and is negative only where it may be -/
theorem parsed_of_complete (hmissing : input.missingFields = []) (hinvalid : input.invalidFields = [])
    (field : CostInputField) : ∃ value, input.parsed field = some value ∧ Host.Denotes value.value ∧
      (field.allowNegative = false → value.isNegative = false) := by
  have hmem : field ∈ costInputFields := by cases field <;> decide
  have hread : input.reading field ≠ .missing := by
    have := List.filter_eq_nil_iff.1 hmissing field hmem
    simpa using this
  have hvalid : input.reading field ≠ .invalid := by
    have := List.filter_eq_nil_iff.1 hinvalid field hmem
    simpa using this
  cases hreading : input.reading field with
  | missing => exact absurd hreading hread
  | invalid => exact absurd hreading hvalid
  | parsed value =>
    refine ⟨value, by simp [CostModelInput.parsed, hreading], ?_⟩
    unfold CostModelInput.reading parseCostInputField at hreading
    split at hreading
    · cases hreading
    · cases hreading
    · split at hreading
      · rename_i decimal hdecimal
        obtain rfl := CostReading.parsed.inj hreading
        exact parseCostDecimal_some hdecimal
      · cases hreading

/-- a candidate is allowed with an OK margin, or it is rejected -/
theorem evaluateCost_cases (input : CostModelInput) :
    (input.missingFields = [] ∧ input.invalidFields = [] ∧ (evaluateCost input).tradeAllowed = true ∧
      (evaluateCost input).reasonCode = "cost_margin_ok" ∧
      (evaluateCost input).snapshot = buildSnapshot input true "cost_margin_ok" input.sums) ∨
    (evaluateCost input).tradeAllowed = false := by
  unfold evaluateCost
  by_cases hfields : input.missingFields ≠ [] ∨ input.invalidFields ≠ []
  · rw [if_pos hfields]
    exact Or.inr rfl
  · rw [if_neg hfields]
    simp only [not_or, not_not] at hfields
    by_cases hmargin : input.bps .expectedReturnBps < input.requiredReturnBps
    · rw [if_pos hmargin]
      exact Or.inr rfl
    · rw [if_neg hmargin]
      exact Or.inl ⟨hfields.1, hfields.2, rfl, rfl, rfl⟩

/-- what the snapshot of an allowed candidate says; the costs are printed without a sign -/
structure AllowedSnapshot (input : CostModelInput) (snapshot : JsonRecord) : Prop where
  exchangeId : assocGet snapshot "exchange_id" = some (.string input.exchangeId)
  market : assocGet snapshot "market" = some (.string input.market)
  tradeAllowed : assocGet snapshot "trade_allowed" = some (.bool true)
  reasonCode : assocGet snapshot "reason_code" = some (.string "cost_margin_ok")
  missingFields : assocGet snapshot "missing_fields" = none
  invalidFields : assocGet snapshot "invalid_fields" = none
  costBps : ∃ text d, assocGet snapshot "cost_bps" = some (.string text) ∧ Host.decimal text = .finite d ∧
    d.isNegative = false
  slippageBps : ∃ text d, assocGet snapshot "expected_slippage_bps_p95" = some (.string text) ∧
    Host.decimal text = .finite d ∧ d.isNegative = false

theorem bps_nonneg (hmissing : input.missingFields = []) (hinvalid : input.invalidFields = []) (field : CostInputField)
    (hfield : field.allowNegative = false) : 0 ≤ input.bps field := by
  obtain ⟨value, hvalue, -, hsign⟩ := parsed_of_complete hmissing hinvalid field
  simp only [CostModelInput.bps, hvalue, Option.map_some, Option.getD_some]
  exact Dec.value_nonneg (hsign hfield)

theorem costBps_nonneg (hmissing : input.missingFields = []) (hinvalid : input.invalidFields = []) :
    0 ≤ input.costBps := by
  have hbps : ∀ field : CostInputField, field.allowNegative = false → 0 ≤ input.bps field :=
    fun field hfield => bps_nonneg hmissing hinvalid field hfield
  unfold CostModelInput.costBps
  have hfees := decimalRound_nonneg (add_nonneg (hbps .entryFeeBps rfl) (hbps .exitFeeBps rfl))
  have hspread := decimalRound_nonneg (add_nonneg hfees (hbps .spreadCostBpsP75 rfl))
  have hslippage := decimalRound_nonneg (add_nonneg hspread (hbps .expectedSlippageBpsP95 rfl))
  exact decimalRound_nonneg (add_nonneg hslippage (hbps .cancelRequotePenaltyBps rfl))

end Host

/-- **An allowed candidate** has an OK margin, and its snapshot says so. -/
theorem evaluateCost_allowed [H : Host] [H.Decimals] [H.PrintsUnsigned] {input : CostModelInput}
    (h : (evaluateCost input).tradeAllowed = true) :
    (evaluateCost input).reasonCode = "cost_margin_ok" ∧ AllowedSnapshot input (evaluateCost input).snapshot := by
  rcases evaluateCost_cases input with ⟨hmissing, hinvalid, -, hreason, hsnapshot⟩ | hrejected
  · refine ⟨hreason, ?_⟩
    rw [hsnapshot]
    choose value hvalue hdenotes hsign using parsed_of_complete hmissing hinvalid
    have hfraction : ∀ {q : ℚ}, Host.Denotes q → IsDecimalFraction q := fun ⟨_, htext⟩ => Host.Decimals.isDecimal htext
    have hunsigned : ∀ q, IsDecimalFraction q → 0 ≤ q →
        ∃ text d, some (JsValue.string (Host.toFixed q)) = some (JsValue.string text) ∧ Host.decimal text = .finite d ∧
          d.isNegative = false := by
      intro q hdecimal hnonneg
      obtain ⟨d, hd, hnegative⟩ := Host.PrintsUnsigned.decimal_toFixed (H := H) hdecimal hnonneg
      exact ⟨_, d, rfl, hd, hnegative⟩
    have hslippage := bps_nonneg hmissing hinvalid .expectedSlippageBpsP95 rfl
    simp only [CostModelInput.bps, hvalue, Option.map_some, Option.getD_some] at hslippage
    constructor
    case costBps =>
      simpa [buildSnapshot, costInputFields, hvalue, assocGet, CostInputField.snapshotKey, CostModelInput.sums] using
        hunsigned input.costBps (decimalRound_isDecimal _) (costBps_nonneg hmissing hinvalid)
    case slippageBps =>
      simpa [buildSnapshot, costInputFields, hvalue, assocGet, CostInputField.snapshotKey] using
        hunsigned _ (hfraction (hdenotes _)) hslippage
    all_goals simp [buildSnapshot, costInputFields, hvalue, assocGet, CostInputField.snapshotKey, CostModelInput.sums]
  · rw [hrejected] at h
    cases h

end SeeMirai.Decision
