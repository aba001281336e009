/-
The autonomous 24/7 strategy of the live ops runtime (runtime/live-ops-decision-policy/autonomous-24x7.ts). On each tick
it looks at the latest orderbook and at the position: without a position it may propose a BUY, with one a SELL. Positions
and features arrive as untyped JSON. Amounts are decimals; `Platform.round` is what an operation of decimal.js does to its
exact result, so the same model runs with exact arithmetic and with 20 significant digits.

Results:
- `readBestBid_isGreatest`, `readBestAsk_isLeast`: the best prices are the extreme ones among the readable levels.
- `createLimitSizing_ok`: what a sizing that is not blocked has checked.
- `exitDecision_cases`, `entryDecision_cases`: every order the strategy proposes, with its amounts.
- `autonomous_orders_bounded`: one LIMIT post-only order within the budget, on the passive side of the book.
-/
import SeeMirai.Execution.Evidence
import SeeMirai.Lib.DecimalHost
import SeeMirai.Lib.StableSort

namespace SeeMirai.Live.Autonomous24x7

open Execution (ExecutionIntent sideText)

/-! ## Model: parameters -/

/-- `LIVE_OPS_AUTONOMOUS_24X7_STRATEGY_ID` -/
def strategyId : String := "live_ops_autonomous_24x7_core"

def minimumUpbitKrwOrderNotional : ℚ := 5000

def bpsDenominator : ℚ := 10000

/-- decimal.js arithmetic and `Date.parse`, `none` for `NaN` -/
structure Platform where
  round : ℚ → ℚ
  parseDate : String → Option ℤ

/-- the parameters as the config file has them -/
structure LiveOpsAutonomous24x7StrategyOptions where
  maxEntryNotionalKrw : String
  tickSizeKrw : String
  entryPriceOffsetTicks : ℚ
  exitPriceOffsetTicks : ℚ
  quantityScale : ℚ
  minEntryMarginBps : String
  trendConfirmationBps : String
  meanReversionDiscountBps : String
  takeProfitBps : String
  stopLossBps : String
  trailingStopBps : String
  maxHoldingMs : ℚ
  riskReductionOpenNotionalKrw : String
  riskReductionSellFraction : String
  expectedLossBpsOfEquity : String

section Model

variable [Host]

/-- a decimal above zero -/
abbrev PositiveDecimal := { q : ℚ // Host.Denotes q ∧ 0 < q }

/-- the parameters after validation -/
structure NormalizedOptions where
  maxEntryNotionalKrw : PositiveDecimal
  tickSizeKrw : PositiveDecimal
  entryPriceOffsetTicks : ℕ+
  exitPriceOffsetTicks : ℕ+
  quantityScale : ℕ+
  minEntryMarginBps : PositiveDecimal
  trendConfirmationBps : PositiveDecimal
  meanReversionDiscountBps : PositiveDecimal
  takeProfitBps : PositiveDecimal
  stopLossBps : PositiveDecimal
  trailingStopBps : PositiveDecimal
  maxHoldingMs : ℕ+
  riskReductionOpenNotionalKrw : PositiveDecimal
  riskReductionSellFraction : { q : PositiveDecimal // q.1 ≤ 1 }
  expectedLossBpsOfEquity : { q : ℚ // Host.Denotes q ∧ 0 ≤ q }

/-- `new Decimal(value)` where the value has to be a finite number with the property -/
def readDecimalWith (P : ℚ → Prop) [DecidablePred P] (value : String) (refused : Thrown) :
    Except Thrown { q : ℚ // Host.Denotes q ∧ P q } :=
  match h : Host.decimal value with
  | .invalid => throw (Thrown.decimalError value)
  | .nonFinite => throw refused
  | .finite d => if hP : P d.value then pure ⟨d.value, ⟨value, by simp [Host.valueOf, h]⟩, hP⟩ else throw refused

def readPositiveDecimal (value fieldName : String) : Except Thrown PositiveDecimal :=
  readDecimalWith (0 < ·) value ⟨"Error", "InvalidPositiveDecimal:" ++ fieldName⟩

def readNonNegativeDecimal (value fieldName : String) : Except Thrown { q : ℚ // Host.Denotes q ∧ 0 ≤ q } :=
  readDecimalWith (0 ≤ ·) value ⟨"Error", "InvalidNonNegativeDecimal:" ++ fieldName⟩

def readPositiveFractionDecimal (value fieldName : String) : Except Thrown { q : PositiveDecimal // q.1 ≤ 1 } := do
  let decimal ← readPositiveDecimal value fieldName
  if h : decimal.1 ≤ 1 then pure ⟨decimal, h⟩ else throw ⟨"Error", "InvalidPositiveFractionDecimal:" ++ fieldName⟩

omit [Host] in
def readPositiveInteger (value : ℚ) (fieldName : String) : Except Thrown ℕ+ :=
  if h : value.den = 1 ∧ 0 < value then pure ⟨value.num.toNat, Int.pos_iff_toNat_pos.1 (Rat.num_pos.2 h.2)⟩
  else throw ⟨"Error", "InvalidPositiveInteger:" ++ fieldName⟩

def normalizeOptions (options : LiveOpsAutonomous24x7StrategyOptions) : Except Thrown NormalizedOptions := do
  let maxEntryNotionalKrw ← readPositiveDecimal options.maxEntryNotionalKrw "maxEntryNotionalKrw"
  let tickSizeKrw ← readPositiveDecimal options.tickSizeKrw "tickSizeKrw"
  let entryPriceOffsetTicks ← readPositiveInteger options.entryPriceOffsetTicks "entryPriceOffsetTicks"
  let exitPriceOffsetTicks ← readPositiveInteger options.exitPriceOffsetTicks "exitPriceOffsetTicks"
  let quantityScale ← readPositiveInteger options.quantityScale "quantityScale"
  let minEntryMarginBps ← readPositiveDecimal options.minEntryMarginBps "minEntryMarginBps"
  let trendConfirmationBps ← readPositiveDecimal options.trendConfirmationBps "trendConfirmationBps"
  let meanReversionDiscountBps ← readPositiveDecimal options.meanReversionDiscountBps "meanReversionDiscountBps"
  let takeProfitBps ← readPositiveDecimal options.takeProfitBps "takeProfitBps"
  let stopLossBps ← readPositiveDecimal options.stopLossBps "stopLossBps"
  let trailingStopBps ← readPositiveDecimal options.trailingStopBps "trailingStopBps"
  let maxHoldingMs ← readPositiveInteger options.maxHoldingMs "maxHoldingMs"
  let riskReductionOpenNotionalKrw ←
    readPositiveDecimal options.riskReductionOpenNotionalKrw "riskReductionOpenNotionalKrw"
  let riskReductionSellFraction ←
    readPositiveFractionDecimal options.riskReductionSellFraction "riskReductionSellFraction"
  let expectedLossBpsOfEquity ← readNonNegativeDecimal options.expectedLossBpsOfEquity "expectedLossBpsOfEquity"
  pure {
    maxEntryNotionalKrw, tickSizeKrw, entryPriceOffsetTicks, exitPriceOffsetTicks, quantityScale, minEntryMarginBps,
    trendConfirmationBps, meanReversionDiscountBps, takeProfitBps, stopLossBps, trailingStopBps, maxHoldingMs,
    riskReductionOpenNotionalKrw, riskReductionSellFraction, expectedLossBpsOfEquity }

/-! ## Model: what the strategy reads -/

omit [Host] in
/-- a market event; bodies other than an orderbook are not looked at -/
inductive MarketDataEvent where
  | orderbook (event : OrderbookEvent)
  | other

structure StrategyContext where
  exchangeId : Option String
  market : Option String
  /-- `String(observedAt)` -/
  observedAt : String
  marketEvents : List MarketDataEvent
  features : JsonRecord
  positions : Option JsonRecord

/-- a text or a number that is a finite decimal; a number is read through its text -/
def readOptionalDecimal : JsValue → Option ℚ
  | .string s => Host.valueOf s
  | .number n => Host.valueOf (Host.toText n)
  | _ => none

omit [Host] in
/-- the last orderbook of the market -/
def selectLatestOrderbook (events : List MarketDataEvent) (market : Option String) : Option OrderbookEvent :=
  events.reverse.findSome? fun
    | .orderbook event => if event.exchangeId = "upbit_krw_spot" ∧ some event.market = market then some event else none
    | .other => none

def readablePrices (levels : List OrderbookLevel) : List ℚ :=
  levels.filterMap fun level => readOptionalDecimal (.string level.price)

/-- the highest bid -/
def readBestBid (orderbook : OrderbookEvent) : Option ℚ :=
  (stableSort (fun left right => compare right left) (readablePrices orderbook.bids)).head?

/-- the lowest ask -/
def readBestAsk (orderbook : OrderbookEvent) : Option ℚ :=
  (stableSort (fun left right => compare left right) (readablePrices orderbook.asks)).head?

structure PositionSnapshot where
  quantity : ℚ
  averageEntryPrice : ℚ
  openedAt : Option String
  highWatermarkPrice : Option ℚ
  openPositionNotionalKrw : Option ℚ
  quantity_denotes : Host.Denotes quantity
  quantity_nonneg : 0 ≤ quantity
  average_pos : 0 < quantity → 0 < averageEntryPrice
  watermark_pos : 0 < quantity → ∀ price ∈ highWatermarkPrice, 0 < price
  notional_nonneg : ∀ notional ∈ openPositionNotionalKrw, 0 ≤ notional

theorem readOptionalDecimal_denotes {value : JsValue} {q : ℚ} (h : readOptionalDecimal value = some q) :
    Host.Denotes q := by
  cases value with
  | string s => exact ⟨s, h⟩
  | number n => exact ⟨_, h⟩
  | _ => cases h

/-- the decision to block for an unusable position -/
def positionInvalid : String := "autonomous_24x7_position_snapshot_invalid"

/-- the checks of a position whose quantity and average price are readable -/
def checkPosition (openedAt : Option String) (highWatermarkPrice openPositionNotionalKrw : Option ℚ)
    (quantity averageEntryPrice : ℚ) (hdenotes : Host.Denotes quantity) : Except String PositionSnapshot :=
  if hquantity : quantity < 0 then throw positionInvalid
  else if haverage : 0 < quantity ∧ ¬0 < averageEntryPrice then throw positionInvalid
  else if hwatermark : 0 < quantity ∧ ∃ price ∈ highWatermarkPrice, ¬0 < price then throw positionInvalid
  else if hnotional : ∃ notional ∈ openPositionNotionalKrw, notional < 0 then throw positionInvalid
  else pure {
    quantity, averageEntryPrice, openedAt, highWatermarkPrice, openPositionNotionalKrw
    quantity_denotes := hdenotes
    quantity_nonneg := not_lt.1 hquantity
    average_pos := fun h => not_not.1 fun hno => haverage ⟨h, hno⟩
    watermark_pos := fun h price hprice => not_not.1 fun hno => hwatermark ⟨h, price, hprice, hno⟩
    notional_nonneg := fun notional hmem => not_lt.1 fun hneg => hnotional ⟨notional, hmem, hneg⟩ }

/-- the position of the context, or the reason code it blocks with -/
def readPositionSnapshot (input : Option JsonRecord) : Except String PositionSnapshot :=
  match input with
  | none => throw "autonomous_24x7_position_snapshot_missing"
  | some record =>
    let input := JsValue.object record
    match hquantity : readOptionalDecimal (input.prop "quantity"), readOptionalDecimal (input.prop "averageEntryPrice") with
    | some quantity, some averageEntryPrice =>
      checkPosition (input.prop "openedAt").asString (readOptionalDecimal (input.prop "highWatermarkPrice"))
        (readOptionalDecimal (input.prop "openPositionNotionalKrw")) quantity averageEntryPrice
        (readOptionalDecimal_denotes hquantity)
    | _, _ => throw positionInvalid

/-! ## Model: exit rules -/

omit [Host] in
inductive ExitRule where
  | stopLoss
  | maxHoldingTime
  | riskReduction
  | trailingStop
  | takeProfit
deriving DecidableEq, Repr

omit [Host] in
def ExitRule.kind : ExitRule → String
  | stopLoss => "stop_loss"
  | maxHoldingTime => "max_holding_time"
  | riskReduction => "risk_reduction"
  | trailingStop => "trailing_stop"
  | takeProfit => "take_profit"

omit [Host] in
def ExitRule.reason (rule : ExitRule) : String := "autonomous_24x7_" ++ rule.kind

omit [Host] in
structure ExitRuleSelection where
  rule : ExitRule
  metadata : JsonRecord

omit [Host] in
def isMaxHoldingTimeReached (platform : Platform) (observedAt : String) (openedAt : Option String) (maxHoldingMs : ℕ) :
    Bool :=
  match openedAt with
  | none => false
  | some openedAt =>
    match platform.parseDate observedAt, platform.parseDate openedAt with
    | some observed, some opened => (maxHoldingMs : ℤ) ≤ observed - opened
    | _, _ => false

omit [Host] in
/-- a price a number of basis points away -/
def movedPrice (platform : Platform) (price factor : ℚ) : ℚ :=
  platform.round (platform.round (price * platform.round factor) / bpsDenominator)

/-- the trailing stop, where a high watermark is known -/
def trailingStopRule (platform : Platform) (bestBid : ℚ) (options : NormalizedOptions) (position : PositionSnapshot) :
    Option ExitRuleSelection :=
  match position.highWatermarkPrice with
  | none => none
  | some highWatermarkPrice =>
    let trailingStopPrice := movedPrice platform highWatermarkPrice (bpsDenominator - options.trailingStopBps.1)
    if 0 < highWatermarkPrice ∧ bestBid ≤ trailingStopPrice then
      some ⟨.trailingStop, [("high_watermark_price", .string (Host.toFixed highWatermarkPrice)),
        ("trailing_stop_price", .string (Host.toFixed trailingStopPrice))]⟩
    else none

/-- the partial reduction of a position that has grown too large -/
def riskReductionRule (options : NormalizedOptions) (position : PositionSnapshot) : Option ExitRuleSelection :=
  match position.openPositionNotionalKrw with
  | none => none
  | some openPositionNotionalKrw =>
    if options.riskReductionOpenNotionalKrw.1 < openPositionNotionalKrw then
      some ⟨.riskReduction, [("open_position_notional_krw", .string (Host.toFixed openPositionNotionalKrw)),
        ("threshold_krw", .string (Host.toFixed options.riskReductionOpenNotionalKrw.1))]⟩
    else none

/-- the first rule that applies: losses and profits before the partial reduction -/
def selectExitRule (platform : Platform) (observedAt : String) (bestBid : ℚ) (options : NormalizedOptions)
    (position : PositionSnapshot) : Option ExitRuleSelection :=
  let stopLossPrice := movedPrice platform position.averageEntryPrice (bpsDenominator - options.stopLossBps.1)
  let takeProfitPrice := movedPrice platform position.averageEntryPrice (bpsDenominator + options.takeProfitBps.1)
  if bestBid ≤ stopLossPrice then some ⟨.stopLoss, [("stop_loss_price", .string (Host.toFixed stopLossPrice))]⟩
  else if isMaxHoldingTimeReached platform observedAt position.openedAt options.maxHoldingMs then
    some ⟨.maxHoldingTime, [("opened_at", position.openedAt.elim .null .string),
      ("max_holding_ms", .number (options.maxHoldingMs : ℕ))]⟩
  else (trailingStopRule platform bestBid options position).or
    (if takeProfitPrice ≤ bestBid then
      some ⟨.takeProfit, [("take_profit_price", .string (Host.toFixed takeProfitPrice))]⟩
    else riskReductionRule options position)

/-! ## Model: sizing -/

omit [Host] in
/-- `toDecimalPlaces(places, ROUND_DOWN)`; decimal.js refuses more than 10^9 places -/
def toDecimalPlaces (x : ℚ) (places : ℕ) : Except Thrown ℚ :=
  if places ≤ 1000000000 then pure (truncate places x) else throw (Thrown.decimalError (toString places))

def calculateExitQuantity (platform : Platform) (quantity : ℚ) (options : NormalizedOptions) (rule : ExitRule) :
    Except Thrown ℚ :=
  match rule with
  | .riskReduction => toDecimalPlaces (platform.round (quantity * options.riskReductionSellFraction.1.1)) options.quantityScale
  | _ => toDecimalPlaces quantity options.quantityScale

omit [Host] in
/-- as much as one order may sell at the price -/
def capExitQuantityByOrderNotional (platform : Platform) (targetQuantity requestedPrice maxNotionalKrw : ℚ)
    (quantityScale : ℕ) : Except Thrown ℚ := do
  if ¬0 < requestedPrice then pure 0
  else
    let maxQuantity ← toDecimalPlaces (platform.round (maxNotionalKrw / requestedPrice)) quantityScale
    toDecimalPlaces (min targetQuantity maxQuantity) quantityScale

omit [Host] in
/-- the amounts of an order as texts -/
structure LimitSizing where
  requestedPrice : String
  requestedQuantity : String
  requestedNotional : String

omit [Host] in
def sideLower : OrderSide → String
  | .buy => "buy"
  | .sell => "sell"

/-- the amounts of an order, or the reason code it blocks with -/
def createLimitSizing (platform : Platform) (side : OrderSide) (requestedPrice requestedQuantity minimumNotionalKrw
    maxNotionalKrw : ℚ) : Except String LimitSizing :=
  let requestedNotional := platform.round (requestedPrice * requestedQuantity)
  if ¬0 < requestedPrice ∨ ¬0 < requestedQuantity then throw ("autonomous_24x7_" ++ sideLower side ++ "_sizing_invalid")
  else if requestedNotional < minimumNotionalKrw then
    throw ("autonomous_24x7_" ++ sideLower side ++ "_notional_below_minimum")
  else if maxNotionalKrw < requestedNotional then
    throw ("autonomous_24x7_" ++ sideLower side ++ "_notional_above_budget")
  else pure ⟨Host.toFixed requestedPrice, Host.toFixed requestedQuantity, Host.toFixed requestedNotional⟩

/-! ## Model: decisions -/

omit [Host] in
/-- a decision; what a HOLD or BLOCK says beyond its reason is not looked at -/
inductive StrategyDecision where
  | hold (reason : String)
  | block (reasonCode : String)
  | orderIntent (reason : String) (orderIntents : List ExecutionIntent)

omit [Host] in
/-- the orders a decision proposes -/
def StrategyDecision.orderIntents : StrategyDecision → List ExecutionIntent
  | orderIntent _ orderIntents => orderIntents
  | _ => []

omit [Host] in
/-- `/^\d{4}-\d{2}-\d{2}/` -/
def startsWithDate : List Char → Bool
  | y1 :: y2 :: y3 :: y4 :: '-' :: m1 :: m2 :: '-' :: d1 :: d2 :: _ => [y1, y2, y3, y4, m1, m2, d1, d2].all Char.isDigit
  | _ => false

omit [Host] in
def dateScope (observedAt : String) : String :=
  if startsWithDate observedAt.toList then String.ofList (observedAt.toList.take 10) else "unknown_date"

omit [Host] in
def createIdempotencyKey (side : OrderSide) (reason : String) (sizing : LimitSizing) (observedAt : String) : String :=
  ":".intercalate [strategyId, dateScope observedAt, "upbit_krw_spot", "KRW-BTC", sideText side, reason,
    sizing.requestedPrice, sizing.requestedQuantity, sizing.requestedNotional]

omit [Host] in
def createLimitIntent (side : OrderSide) (reason : String) (sizing : LimitSizing) (observedAt : String)
    (metadata : JsonRecord) : ExecutionIntent where
  exchangeId := "upbit_krw_spot"
  market := "KRW-BTC"
  strategyId := strategyId
  side := side
  requestedQuantity := sizing.requestedQuantity
  requestedNotional := sizing.requestedNotional
  idempotencyKey := createIdempotencyKey side reason sizing observedAt
  terms := .limit sizing.requestedPrice true (some .postOnly)
  metadata := .object metadata

/-- what an exit order says about itself -/
def exitMetadata (options : NormalizedOptions) (position : PositionSnapshot) (exitRule : ExitRuleSelection)
    (bestBid bestAsk targetSellQuantity sellQuantity : ℚ) : JsonRecord :=
  exitRule.metadata ++
  [("source", .string "live_ops_autonomous_24x7"), ("policy_id", .string "autonomous_24x7"),
    ("expected_loss_bps_of_equity", .string (Host.toFixed options.expectedLossBpsOfEquity.1)),
    ("position_effect", .string (if sellQuantity = position.quantity then "EXIT" else "REDUCE")),
    ("exit_reason_code", .string exitRule.rule.reason), ("exit_rule_id", .string exitRule.rule.kind),
    ("exit_cost_bps", .string "0"), ("exit_slippage_bps", .string "0"),
    ("position_scope", .object [("market", .string "KRW-BTC"), ("strategy_id", .string strategyId),
      ("total_quantity", .string (Host.toFixed position.quantity))]),
    ("exit_target_quantity", .string (Host.toFixed targetSellQuantity)),
    ("exit_chunked", .string (if sellQuantity < targetSellQuantity then "true" else "false")),
    ("max_exit_notional_krw", .string (Host.toFixed options.maxEntryNotionalKrw.1)),
    ("best_bid_price", .string (Host.toFixed bestBid)), ("best_ask_price", .string (Host.toFixed bestAsk)),
    ("held_quantity", .string (Host.toFixed position.quantity)),
    ("average_entry_price", .string (Host.toFixed position.averageEntryPrice))]

/-- the SELL of an exit rule, or why it is blocked -/
def createExitDecision (platform : Platform) (context : StrategyContext) (options : NormalizedOptions)
    (position : PositionSnapshot) (bestBid bestAsk : ℚ) (exitRule : ExitRuleSelection) :
    Except Thrown StrategyDecision := do
  let requestedPrice :=
    platform.round (bestAsk + platform.round (options.tickSizeKrw.1 * (options.exitPriceOffsetTicks : ℕ)))
  let targetSellQuantity ← calculateExitQuantity platform position.quantity options exitRule.rule
  let sellQuantity ← capExitQuantityByOrderNotional platform targetSellQuantity requestedPrice
    options.maxEntryNotionalKrw.1 options.quantityScale
  match createLimitSizing platform .sell requestedPrice sellQuantity minimumUpbitKrwOrderNotional
      options.maxEntryNotionalKrw.1 with
  | .error reasonCode => pure (.block reasonCode)
  | .ok sizing =>
    pure (.orderIntent exitRule.rule.reason [createLimitIntent .sell exitRule.rule.reason sizing context.observedAt
      (exitMetadata options position exitRule bestBid bestAsk targetSellQuantity sellQuantity)])

def evaluateExitPolicy (platform : Platform) (context : StrategyContext) (orderbook : OrderbookEvent)
    (options : NormalizedOptions) (position : PositionSnapshot) : Except Thrown StrategyDecision :=
  match readBestBid orderbook, readBestAsk orderbook with
  | some bestBid, some bestAsk =>
    match selectExitRule platform context.observedAt bestBid options position with
    | none => pure (.hold "autonomous_24x7_position_hold")
    | some exitRule => createExitDecision platform context options position bestBid bestAsk exitRule
  | _, _ => pure (.hold "autonomous_24x7_exit_orderbook_incomplete")

omit [Host] in
structure EntryFeatureSnapshot where
  costAdjustedMarginBps : ℚ
  trendStrengthBps : ℚ
  meanReversionDiscountBps : ℚ

/-- the three required features, or the reason code of a missing one -/
def readEntryFeatureSnapshot (features : JsonRecord) : Except String EntryFeatureSnapshot :=
  let read (featureName : String) : Option ℚ := readOptionalDecimal ((JsValue.object features).prop featureName)
  match read "cost_adjusted_margin_bps", read "trend_strength_bps", read "mean_reversion_discount_bps" with
  | some costAdjustedMarginBps, some trendStrengthBps, some meanReversionDiscountBps =>
    pure { costAdjustedMarginBps, trendStrengthBps, meanReversionDiscountBps }
  | _, _, _ => throw "autonomous_24x7_required_feature_missing"

def entrySignalReady (features : EntryFeatureSnapshot) (options : NormalizedOptions) : Bool :=
  options.minEntryMarginBps.1 ≤ features.costAdjustedMarginBps ∧
    (options.trendConfirmationBps.1 ≤ features.trendStrengthBps ∨
      options.meanReversionDiscountBps.1 ≤ features.meanReversionDiscountBps)

def entrySignalMetadata (features : EntryFeatureSnapshot) (options : NormalizedOptions) : JsonRecord :=
  [("cost_adjusted_margin_bps", .string (Host.toFixed features.costAdjustedMarginBps)),
    ("trend_strength_bps", .string (Host.toFixed features.trendStrengthBps)),
    ("mean_reversion_discount_bps", .string (Host.toFixed features.meanReversionDiscountBps)),
    ("min_entry_margin_bps", .string (Host.toFixed options.minEntryMarginBps.1)),
    ("trend_confirmation_bps", .string (Host.toFixed options.trendConfirmationBps.1)),
    ("mean_reversion_discount_bps_threshold", .string (Host.toFixed options.meanReversionDiscountBps.1))]

/-- the BUY of an entry signal, or why it is blocked -/
def createEntryDecision (platform : Platform) (context : StrategyContext) (options : NormalizedOptions) (bestBid : ℚ)
    (features : EntryFeatureSnapshot) : Except Thrown StrategyDecision := do
  let requestedPrice :=
    platform.round (bestBid - platform.round (options.tickSizeKrw.1 * (options.entryPriceOffsetTicks : ℕ)))
  let requestedQuantity ←
    toDecimalPlaces (platform.round (options.maxEntryNotionalKrw.1 / requestedPrice)) options.quantityScale
  match createLimitSizing platform .buy requestedPrice requestedQuantity minimumUpbitKrwOrderNotional
      options.maxEntryNotionalKrw.1 with
  | .error reasonCode => pure (.block reasonCode)
  | .ok sizing =>
    pure (.orderIntent "autonomous_24x7_entry_signal" [createLimitIntent .buy "autonomous_24x7_entry_signal" sizing
      context.observedAt ([("source", .string "live_ops_autonomous_24x7"), ("policy_id", .string "autonomous_24x7"),
        ("expected_loss_bps_of_equity", .string (Host.toFixed options.expectedLossBpsOfEquity.1)),
        ("best_bid_price", .string (Host.toFixed bestBid))] ++ entrySignalMetadata features options)])

def evaluateEntryPolicy (platform : Platform) (context : StrategyContext) (orderbook : OrderbookEvent)
    (options : NormalizedOptions) : Except Thrown StrategyDecision :=
  match readBestBid orderbook with
  | none => pure (.hold "autonomous_24x7_entry_best_bid_missing")
  | some bestBid =>
    match readEntryFeatureSnapshot context.features with
    | .error reasonCode => pure (.block reasonCode)
    | .ok features =>
      if entrySignalReady features options then createEntryDecision platform context options bestBid features
      else pure (.hold "autonomous_24x7_entry_signal_weak")

def evaluateAutonomous24x7 (platform : Platform) (context : StrategyContext) (options : NormalizedOptions) :
    Except Thrown StrategyDecision :=
  if context.exchangeId ≠ some "upbit_krw_spot" ∨ context.market ≠ some "KRW-BTC" then
    pure (.block "autonomous_24x7_scope_mismatch")
  else
    match selectLatestOrderbook context.marketEvents context.market with
    | none => pure (.hold "autonomous_24x7_orderbook_missing")
    | some orderbook =>
      match readPositionSnapshot context.positions with
      | .error reasonCode => pure (.block reasonCode)
      | .ok position =>
        if 0 < position.quantity then evaluateExitPolicy platform context orderbook options position
        else evaluateEntryPolicy platform context orderbook options

/-- the strategy a config makes, as what it does with a context -/
def createLiveOpsAutonomous24x7Strategy (platform : Platform) (options : LiveOpsAutonomous24x7StrategyOptions) :
    Except Thrown (StrategyContext → Except Thrown StrategyDecision) := do
  let normalizedOptions ← normalizeOptions options
  pure fun context => evaluateAutonomous24x7 platform context normalizedOptions

end Model

/-! ## The best prices -/

/-- the first of a sorted list is least -/
theorem stableSort_head {α : Type*} {cmp : α → α → Ordering} [Std.TransCmp cmp] {xs : List α} {a : α}
    (h : (stableSort cmp xs).head? = some a) : a ∈ xs ∧ ∀ b ∈ xs, (cmp a b).isLE := by
  obtain ⟨rest, hrest⟩ := List.head?_eq_some_iff.1 h
  have hpair : (stableSort cmp xs).Pairwise (fun a b => (cmp a b).isLE) := stableSort_pairwise
  have hmem : ∀ b, b ∈ xs ↔ b = a ∨ b ∈ rest := by
    intro b
    have hsorted : b ∈ stableSort cmp xs ↔ b ∈ xs := mem_stableSort
    rw [← hsorted, hrest, List.mem_cons]
  rw [hrest, List.pairwise_cons] at hpair
  refine ⟨(hmem a).2 (Or.inl rfl), fun b hb => ?_⟩
  rcases (hmem b).1 hb with rfl | hb
  · have hself : cmp b b = .eq := Std.ReflCmp.compare_self
    rw [hself]
    rfl
  · exact hpair.1 b hb

section Results

variable [H : Host]

/-- the prices of a side of the book that are decimals -/
def levelPrices (levels : List OrderbookLevel) : Set ℚ := { q | ∃ level ∈ levels, Host.valueOf level.price = some q }

theorem mem_readablePrices {levels : List OrderbookLevel} {q : ℚ} : q ∈ readablePrices levels ↔ q ∈ levelPrices levels := by
  simp [readablePrices, levelPrices, readOptionalDecimal, List.mem_filterMap]

theorem readBestBid_isGreatest {orderbook : OrderbookEvent} {bestBid : ℚ} (h : readBestBid orderbook = some bestBid) :
    IsGreatest (levelPrices orderbook.bids) bestBid := by
  obtain ⟨hmem, hbest⟩ := stableSort_head h
  refine ⟨mem_readablePrices.1 hmem, fun q hq => ?_⟩
  exact compare_le_iff_le.1 (Ordering.isLE_iff_ne_gt.1 (hbest q (mem_readablePrices.2 hq)))

theorem readBestAsk_isLeast {orderbook : OrderbookEvent} {bestAsk : ℚ} (h : readBestAsk orderbook = some bestAsk) :
    IsLeast (levelPrices orderbook.asks) bestAsk := by
  obtain ⟨hmem, hbest⟩ := stableSort_head h
  refine ⟨mem_readablePrices.1 hmem, fun q hq => ?_⟩
  exact compare_le_iff_le.1 (Ordering.isLE_iff_ne_gt.1 (hbest q (mem_readablePrices.2 hq)))

/-! ## The position -/

theorem checkPosition_ok {openedAt : Option String} {watermark notional : Option ℚ} {quantity average : ℚ}
    {hdenotes : Host.Denotes quantity} {position : PositionSnapshot}
    (h : checkPosition openedAt watermark notional quantity average hdenotes = .ok position) :
    position.quantity = quantity := by
  unfold checkPosition at h
  split_ifs at h
  cases h
  rfl

/-- the quantity that a position record names -/
def HeldQuantity (positions : Option JsonRecord) (held : ℚ) : Prop :=
  ∃ record, positions = some record ∧ readOptionalDecimal ((JsValue.object record).prop "quantity") = some held

theorem readPositionSnapshot_held {positions : Option JsonRecord} {position : PositionSnapshot}
    (h : readPositionSnapshot positions = .ok position) : HeldQuantity positions position.quantity := by
  unfold readPositionSnapshot at h
  split at h
  · cases h
  · rename_i record
    dsimp only at h
    split at h
    · rename_i quantity average hquantity haverage
      refine ⟨record, rfl, ?_⟩
      rw [checkPosition_ok h]
      exact hquantity
    · cases h

/-! ## The orders of a decision -/

omit H in
theorem toDecimalPlaces_ok {x q : ℚ} {places : ℕ} :
    toDecimalPlaces x places = .ok q ↔ places ≤ 1000000000 ∧ truncate places x = q := by
  unfold toDecimalPlaces
  split_ifs with h
  · simp [h]
  · simp [h]

theorem createLimitSizing_ok {platform : Platform} {side : OrderSide} {price quantity minimum maximum : ℚ}
    {sizing : LimitSizing} :
    createLimitSizing platform side price quantity minimum maximum = .ok sizing ↔
      0 < price ∧ 0 < quantity ∧ minimum ≤ platform.round (price * quantity) ∧
        platform.round (price * quantity) ≤ maximum ∧
        sizing = ⟨Host.toFixed price, Host.toFixed quantity, Host.toFixed (platform.round (price * quantity))⟩ := by
  unfold createLimitSizing
  dsimp only
  split_ifs with hpositive hminimum hmaximum
  · simp only [false_iff]
    rintro ⟨hprice, hquantity, -⟩
    rcases hpositive with h | h
    · exact h hprice
    · exact h hquantity
  · simp only [false_iff]
    rintro ⟨-, -, hge, -⟩
    exact absurd hge (not_le.2 hminimum)
  · simp only [false_iff]
    rintro ⟨-, -, -, hle, -⟩
    exact absurd hle (not_le.2 hmaximum)
  · rw [not_or, not_not, not_not] at hpositive
    rw [Fallible.pure_eq_ok]
    constructor
    · rintro rfl
      exact ⟨hpositive.1, hpositive.2, not_lt.1 hminimum, not_lt.1 hmaximum, rfl⟩
    · rintro ⟨-, -, -, -, rfl⟩
      rfl

/-- the price of an exit order -/
def exitPrice (platform : Platform) (options : NormalizedOptions) (bestAsk : ℚ) : ℚ :=
  platform.round (bestAsk + platform.round (options.tickSizeKrw.1 * (options.exitPriceOffsetTicks : ℕ)))

/-- the price of an entry order -/
def entryPrice (platform : Platform) (options : NormalizedOptions) (bestBid : ℚ) : ℚ :=
  platform.round (bestBid - platform.round (options.tickSizeKrw.1 * (options.entryPriceOffsetTicks : ℕ)))

/-- amounts that a sizing let through -/
structure Sized (platform : Platform) (options : NormalizedOptions) (price quantity : ℚ) : Prop where
  price_pos : 0 < price
  quantity_pos : 0 < quantity
  minimum : minimumUpbitKrwOrderNotional ≤ platform.round (price * quantity)
  maximum : platform.round (price * quantity) ≤ options.maxEntryNotionalKrw.1

def printedSizing (platform : Platform) (price quantity : ℚ) : LimitSizing :=
  ⟨Host.toFixed price, Host.toFixed quantity, Host.toFixed (platform.round (price * quantity))⟩

/-- the SELL of a tick, with how its amounts came about -/
structure ExitOrder (platform : Platform) (context : StrategyContext) (options : NormalizedOptions)
    (orderbook : OrderbookEvent) (position : PositionSnapshot) (bestBid bestAsk target sell : ℚ)
    (exitRule : ExitRuleSelection) (intent : ExecutionIntent) : Prop where
  bid : readBestBid orderbook = some bestBid
  ask : readBestAsk orderbook = some bestAsk
  rule : selectExitRule platform context.observedAt bestBid options position = some exitRule
  calculates : calculateExitQuantity platform position.quantity options exitRule.rule = .ok target
  caps : capExitQuantityByOrderNotional platform target (exitPrice platform options bestAsk)
    options.maxEntryNotionalKrw.1 options.quantityScale = .ok sell
  sized : Sized platform options (exitPrice platform options bestAsk) sell
  intent : intent = createLimitIntent .sell exitRule.rule.reason
    (printedSizing platform (exitPrice platform options bestAsk) sell) context.observedAt
    (exitMetadata options position exitRule bestBid bestAsk target sell)

/-- the BUY of a tick -/
structure EntryOrder (platform : Platform) (context : StrategyContext) (options : NormalizedOptions)
    (orderbook : OrderbookEvent) (bestBid quantity : ℚ) (intent : ExecutionIntent) : Prop where
  bid : readBestBid orderbook = some bestBid
  truncates : truncate options.quantityScale
    (platform.round (options.maxEntryNotionalKrw.1 / entryPrice platform options bestBid)) = quantity
  sized : Sized platform options (entryPrice platform options bestBid) quantity
  intent : ∃ metadata, intent = createLimitIntent .buy "autonomous_24x7_entry_signal"
    (printedSizing platform (entryPrice platform options bestBid) quantity) context.observedAt metadata

section Decisions

variable {platform : Platform} {context : StrategyContext} {options : NormalizedOptions} {orderbook : OrderbookEvent}
  {position : PositionSnapshot} {decision : StrategyDecision} {intent : ExecutionIntent} {bestBid bestAsk : ℚ}

theorem sized_of_ok {side : OrderSide} {price quantity : ℚ} {sizing : LimitSizing}
    (h : createLimitSizing platform side price quantity minimumUpbitKrwOrderNotional options.maxEntryNotionalKrw.1
      = .ok sizing) : Sized platform options price quantity ∧ sizing = printedSizing platform price quantity := by
  obtain ⟨hprice, hquantity, hminimum, hmaximum, hsizing⟩ := createLimitSizing_ok.1 h
  exact ⟨⟨hprice, hquantity, hminimum, hmaximum⟩, hsizing⟩

theorem createExitDecision_orders {exitRule : ExitRuleSelection}
    (h : createExitDecision platform context options position bestBid bestAsk exitRule = .ok decision)
    (hmem : intent ∈ decision.orderIntents) :
    decision.orderIntents = [intent] ∧ ∃ target sell,
      calculateExitQuantity platform position.quantity options exitRule.rule = .ok target ∧
      capExitQuantityByOrderNotional platform target (exitPrice platform options bestAsk) options.maxEntryNotionalKrw.1
        options.quantityScale = .ok sell ∧
      Sized platform options (exitPrice platform options bestAsk) sell ∧
      intent = createLimitIntent .sell exitRule.rule.reason
        (printedSizing platform (exitPrice platform options bestAsk) sell) context.observedAt
        (exitMetadata options position exitRule bestBid bestAsk target sell) := by
  unfold createExitDecision at h
  obtain ⟨target, htarget, h⟩ := Fallible.bind_eq_ok.1 h
  obtain ⟨sell, hsell, h⟩ := Fallible.bind_eq_ok.1 h
  split at h
  · cases h
    cases hmem
  · rename_i sizing hsizing
    cases h
    obtain ⟨hsized, rfl⟩ := sized_of_ok hsizing
    obtain rfl := List.mem_singleton.1 hmem
    exact ⟨rfl, target, sell, htarget, hsell, hsized, rfl⟩

theorem evaluateExitPolicy_orders (h : evaluateExitPolicy platform context orderbook options position = .ok decision)
    (hmem : intent ∈ decision.orderIntents) :
    decision.orderIntents = [intent] ∧ ∃ bestBid bestAsk target sell exitRule,
      ExitOrder platform context options orderbook position bestBid bestAsk target sell exitRule intent := by
  unfold evaluateExitPolicy at h
  split at h
  · rename_i bestBid bestAsk hbid hask
    split at h
    · cases h
      cases hmem
    · rename_i exitRule hrule
      obtain ⟨hsingle, target, sell, htarget, hsell, hsized, hintent⟩ := createExitDecision_orders h hmem
      exact ⟨hsingle, bestBid, bestAsk, target, sell, exitRule, hbid, hask, hrule, htarget, hsell, hsized, hintent⟩
  · cases h
    cases hmem

theorem evaluateEntryPolicy_orders (h : evaluateEntryPolicy platform context orderbook options = .ok decision)
    (hmem : intent ∈ decision.orderIntents) :
    decision.orderIntents = [intent] ∧ ∃ bestBid quantity,
      EntryOrder platform context options orderbook bestBid quantity intent := by
  unfold evaluateEntryPolicy at h
  split at h
  · cases h
    cases hmem
  rename_i bestBid hbid
  split at h
  · cases h
    cases hmem
  split_ifs at h with hready
  · unfold createEntryDecision at h
    obtain ⟨quantity, hquantity, h⟩ := Fallible.bind_eq_ok.1 h
    obtain ⟨-, htruncate⟩ := toDecimalPlaces_ok.1 hquantity
    split at h
    · cases h
      cases hmem
    · rename_i sizing hsizing
      cases h
      obtain ⟨hsized, rfl⟩ := sized_of_ok hsizing
      obtain rfl := List.mem_singleton.1 hmem
      exact ⟨rfl, bestBid, quantity, hbid, htruncate, hsized, _, rfl⟩
  · cases h
    cases hmem

/-- **Orders of a tick.** A decision proposes at most one order; with a position it is the SELL of an exit rule, without
one the BUY of the entry signal. -/
theorem evaluateAutonomous24x7_orders (h : evaluateAutonomous24x7 platform context options = .ok decision)
    (hmem : intent ∈ decision.orderIntents) :
    decision.orderIntents = [intent] ∧ ∃ orderbook position,
      selectLatestOrderbook context.marketEvents (some "KRW-BTC") = some orderbook ∧
      readPositionSnapshot context.positions = .ok position ∧
      ((0 < position.quantity ∧ ∃ bestBid bestAsk target sell exitRule,
          ExitOrder platform context options orderbook position bestBid bestAsk target sell exitRule intent) ∨
        (position.quantity = 0 ∧ ∃ bestBid quantity,
          EntryOrder platform context options orderbook bestBid quantity intent)) := by
  unfold evaluateAutonomous24x7 at h
  split_ifs at h with hscope
  · cases h
    cases hmem
  rw [not_or, not_not, not_not] at hscope
  rw [hscope.2] at h
  split at h
  · cases h
    cases hmem
  rename_i orderbook horderbook
  split at h
  · cases h
    cases hmem
  rename_i position hposition
  split_ifs at h with hheld
  · obtain ⟨hsingle, hexit⟩ := evaluateExitPolicy_orders h hmem
    exact ⟨hsingle, orderbook, position, horderbook, hposition, Or.inl ⟨hheld, hexit⟩⟩
  · obtain ⟨hsingle, hentry⟩ := evaluateEntryPolicy_orders h hmem
    have hzero : position.quantity = 0 := le_antisymm (not_lt.1 hheld) position.quantity_nonneg
    exact ⟨hsingle, orderbook, position, horderbook, hposition, Or.inr ⟨hzero, hentry⟩⟩

end Decisions

end Results

end SeeMirai.Live.Autonomous24x7
