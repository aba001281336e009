/-
What the orders of the autonomous 24/7 strategy keep, with exact arithmetic, and that the live execution adapter does not
object to its SELLs. The strategy prints its amounts and the guard reads them back, so the host has to read what it prints.

Results:
- `ExitOrder.amounts`: price, target and quantity of a SELL, as numbers.
- `exitOrder_passes_guard`: a SELL passes `collectExitOrderIntentViolations` where the latest position of the strategy is
  the position it saw.
- `autonomous_orders_bounded`: at most one order, LIMIT and post-only, within the budget and on the passive side.
-/
import SeeMirai.Live.Autonomous24x7
import SeeMirai.Live.ExitGuard

namespace SeeMirai.Live.Autonomous24x7

open Execution (ExecutionIntent)

/-- operations that do not round -/
def exactly (parseDate : String → Option ℤ) : Platform := ⟨id, parseDate⟩

section Exact

variable [H : Host] {platform : Platform} {parseDate : String → Option ℤ} {context : StrategyContext}
  {options : NormalizedOptions} {orderbook : OrderbookEvent} {position : PositionSnapshot}
  {bestBid bestAsk target sell : ℚ} {exitRule : ExitRuleSelection} {intent : ExecutionIntent}

/-! ## Options -/

theorem readDecimalWith_ok {P : ℚ → Prop} [DecidablePred P] {value : String} {refused : Thrown}
    {q : { q : ℚ // Host.Denotes q ∧ P q }} (h : readDecimalWith P value refused = .ok q) :
    Host.valueOf value = some q.1 := by
  unfold readDecimalWith at h
  split at h
  · cases h
  · cases h
  · rename_i d hd
    split_ifs at h with hP
    cases h
    simp [Host.valueOf, hd]

theorem normalizeOptions_max {raw : LiveOpsAutonomous24x7StrategyOptions} (h : normalizeOptions raw = .ok options) :
    Host.valueOf raw.maxEntryNotionalKrw = some options.maxEntryNotionalKrw.1 := by
  unfold normalizeOptions at h
  obtain ⟨maxEntryNotionalKrw, hmax, h⟩ := Fallible.bind_eq_ok.1 h
  have hkept : options.maxEntryNotionalKrw = maxEntryNotionalKrw := by
    simp only [Fallible.bind_eq_ok, Fallible.pure_eq_ok] at h
    obtain ⟨_, -, _, -, _, -, _, -, _, -, _, -, _, -, _, -, _, -, _, -, _, -, _, -, _, -, _, -, h⟩ := h
    rw [← h]
  rw [hkept]
  exact readDecimalWith_ok hmax

/-! ## Amounts -/

theorem exitTarget_within
    (hscale : calculateExitQuantity (exactly parseDate) position.quantity options exitRule.rule = .ok target) :
    0 ≤ target ∧ target ≤ position.quantity := by
  have hheld := position.quantity_nonneg
  have hfraction := options.riskReductionSellFraction.1.2.2
  unfold calculateExitQuantity at hscale
  split at hscale
  · obtain ⟨-, rfl⟩ := toDecimalPlaces_ok.1 hscale
    have hpart : 0 ≤ position.quantity * options.riskReductionSellFraction.1.1 := mul_nonneg hheld hfraction.le
    refine ⟨truncate_nonneg hpart, (truncate_le hpart).trans ?_⟩
    exact mul_le_of_le_one_right hheld options.riskReductionSellFraction.2
  · obtain ⟨-, rfl⟩ := toDecimalPlaces_ok.1 hscale
    exact ⟨truncate_nonneg hheld, truncate_le hheld⟩

omit H in
theorem capExitQuantity_le {price maximum q : ℚ} {scale : ℕ} (hround : ∀ x, 0 ≤ x → 0 ≤ platform.round x)
    (hprice : 0 < price) (htarget : 0 ≤ target) (hmaximum : 0 ≤ maximum)
    (h : capExitQuantityByOrderNotional platform target price maximum scale = .ok q) :
    q ≤ target ∧ OnGrid scale q := by
  unfold capExitQuantityByOrderNotional at h
  rw [if_neg (not_not.2 hprice)] at h
  obtain ⟨cap, hcap, h⟩ := Fallible.bind_eq_ok.1 h
  obtain ⟨-, rfl⟩ := toDecimalPlaces_ok.1 hcap
  obtain ⟨-, rfl⟩ := toDecimalPlaces_ok.1 h
  have hmin : 0 ≤ min target (truncate scale (platform.round (maximum / price))) :=
    le_min htarget (truncate_nonneg (hround _ (div_nonneg hmaximum hprice.le)))
  exact ⟨(truncate_le hmin).trans (min_le_left _ _), onGrid_truncate _ _⟩

/-! ## Metadata -/

/-- the properties an exit rule may bring along -/
def exitRuleKeys : List String :=
  ["stop_loss_price", "opened_at", "max_holding_ms", "high_watermark_price", "trailing_stop_price", "take_profit_price",
    "open_position_notional_krw", "threshold_krw"]

theorem trailingStopRule_keys (h : trailingStopRule platform bestBid options position = some exitRule) :
    ∀ key ∈ exitRule.metadata.map Prod.fst, key ∈ exitRuleKeys := by
  unfold trailingStopRule at h
  split at h
  · cases h
  · dsimp only at h
    split_ifs at h
    cases h
    simp [exitRuleKeys]

theorem riskReductionRule_keys (h : riskReductionRule options position = some exitRule) :
    ∀ key ∈ exitRule.metadata.map Prod.fst, key ∈ exitRuleKeys := by
  unfold riskReductionRule at h
  split at h
  · cases h
  · split_ifs at h
    cases h
    simp [exitRuleKeys]

theorem selectExitRule_keys {observedAt : String}
    (h : selectExitRule platform observedAt bestBid options position = some exitRule) :
    ∀ key ∈ exitRule.metadata.map Prod.fst, key ∈ exitRuleKeys := by
  unfold selectExitRule at h
  dsimp only at h
  split_ifs at h with hstop hholding
  · cases h
    simp [exitRuleKeys]
  · cases h
    simp [exitRuleKeys]
  · rcases Option.or_eq_some_iff.1 h with htrailing | ⟨-, hprofit⟩
    · exact trailingStopRule_keys htrailing
    · cases hprofit
      simp [exitRuleKeys]
  · rcases Option.or_eq_some_iff.1 h with htrailing | ⟨-, hreduction⟩
    · exact trailingStopRule_keys htrailing
    · exact riskReductionRule_keys hreduction

/-- the properties of the rule do not hide those of the order -/
theorem exitMetadata_prop {key : String} (hkeys : ∀ key ∈ exitRule.metadata.map Prod.fst, key ∈ exitRuleKeys)
    (hkey : key ∉ exitRuleKeys) :
    (JsValue.object (exitMetadata options position exitRule bestBid bestAsk target sell)).prop key
      = (JsValue.object (exitMetadata options position ⟨exitRule.rule, []⟩ bestBid bestAsk target sell)).prop key := by
  have hnone : assocGet exitRule.metadata key = none := assocGet_eq_none.2 fun hmem => hkey (hkeys key hmem)
  simp only [JsValue.prop, exitMetadata, assocGet_append, hnone, Option.none_or, List.nil_append]

/-! ## The guard -/

/-- the config as it is loaded: one market -/
structure LoadedUniverse (config : LiveOpsUniverse) : Prop where
  markets : config.markets = ["KRW-BTC"]
  default : config.default_market = "KRW-BTC"

/-- the first position of the strategy in its market -/
def isStrategyPosition (position : ExitPositionSnapshot) : Bool :=
  position.exchangeId = some "upbit_krw_spot" ∧ position.market = "KRW-BTC" ∧ position.strategyId = some strategyId

/-- the risk input is about the strategy, and its latest position has the quantity -/
structure LatestPosition [H.NonFinites] (risk : ExitRiskInput) (held : ℚ) : Prop where
  strategy : risk.strategyId = strategyId
  quantity : readPositionRiskSnapshotQuantity (risk.positions.find? isStrategyPosition) = some (.finite held)

theorem trim_toFixed [H.Decimals] {q : ℚ} (hq : IsDecimalFraction q) : trim (Host.toFixed q) = Host.toFixed q :=
  trim_solid fun c hc => isWhiteSpace_of_isPlainChar (Host.Decimals.toFixed_plain hq c hc)

theorem isDecimal_of_denotes [H.Decimals] {q : ℚ} (h : Host.Denotes q) : IsDecimalFraction q := by
  obtain ⟨s, hs⟩ := h
  exact Host.Decimals.isDecimal hs

section Guard

variable [H.Decimals]

/-- the SELL of a rule, as the guard sees it -/
def exitIntent (platform : Platform) (options : NormalizedOptions) (position : PositionSnapshot)
    (exitRule : ExitRuleSelection) (observedAt : String) (bestBid bestAsk target sell : ℚ) : ExecutionIntent :=
  createLimitIntent .sell exitRule.rule.reason (printedSizing platform (exitPrice platform options bestAsk) sell) observedAt
    (exitMetadata options position exitRule bestBid bestAsk target sell)

variable {observedAt : String}

omit [H.Decimals] in
theorem exitIntent_positionEffect (hkeys : ∀ key ∈ exitRule.metadata.map Prod.fst, key ∈ exitRuleKeys) :
    readPositionEffect (exitIntent platform options position exitRule observedAt bestBid bestAsk target sell)
      = some (if sell = position.quantity then "EXIT" else "REDUCE") := by
  unfold readPositionEffect readStringMetadata exitIntent createLimitIntent
  rw [exitMetadata_prop hkeys (by decide)]
  split_ifs with heq
  · simp [exitMetadata, JsValue.prop, assocGet, JsValue.asString, heq]
  · simp [exitMetadata, JsValue.prop, assocGet, JsValue.asString, heq]

omit [H.Decimals] in
theorem exitIntent_scope (hkeys : ∀ key ∈ exitRule.metadata.map Prod.fst, key ∈ exitRuleKeys) :
    readExitPositionScope (exitIntent platform options position exitRule observedAt bestBid bestAsk target sell)
      = some ⟨"KRW-BTC", strategyId, Host.toFixed position.quantity⟩ := by
  unfold readExitPositionScope exitIntent createLimitIntent
  rw [exitMetadata_prop hkeys (by decide)]
  simp [exitMetadata, JsValue.prop, assocGet, JsValue.asString, JsValue.isNonEmptyRecord]

theorem exitIntent_expectedLoss (hkeys : ∀ key ∈ exitRule.metadata.map Prod.fst, key ∈ exitRuleKeys) :
    readExpectedLossBps (exitIntent platform options position exitRule observedAt bestBid bestAsk target sell) ≠ none := by
  have hdecimal := isDecimal_of_denotes options.expectedLossBpsOfEquity.2.1
  have hnonempty : Host.toFixed options.expectedLossBpsOfEquity.1 ≠ "" := Host.Decimals.toFixed_nonempty hdecimal
  unfold readExpectedLossBps exitIntent createLimitIntent
  rw [exitMetadata_prop hkeys (by decide), exitMetadata_prop hkeys (by decide)]
  simp [exitMetadata, JsValue.prop, assocGet, JsValue.asString, nullish, trim_toFixed hdecimal, hnonempty]

theorem exitIntent_shape {config : LiveOpsUniverse} {risk : ExitRiskInput} (hconfig : LoadedUniverse config)
    (hstrategy : risk.strategyId = strategyId) (hkeys : ∀ key ∈ exitRule.metadata.map Prod.fst, key ∈ exitRuleKeys) :
    ExitShape config risk
      (exitIntent platform options position exitRule observedAt bestBid bestAsk target sell) where
  exchange := rfl
  listed := by
    rw [hconfig.markets]
    exact List.mem_singleton.2 rfl
  default := hconfig.default.symm
  side := rfl
  limit := ⟨_, rfl⟩
  strategy := hstrategy
  expectedLoss := exitIntent_expectedLoss hkeys
  effect := by
    rw [exitIntent_positionEffect hkeys]
    split_ifs
    · exact Or.inr rfl
    · exact Or.inl rfl
  reason := by
    unfold readStringMetadata exitIntent createLimitIntent
    rw [exitMetadata_prop hkeys (by decide)]
    cases hrule : exitRule.rule <;>
      simp [exitMetadata, JsValue.prop, assocGet, JsValue.asString, ExitRule.reason, ExitRule.kind]
  rule := by
    unfold readStringMetadata exitIntent createLimitIntent
    rw [exitMetadata_prop hkeys (by decide)]
    cases hrule : exitRule.rule <;> simp [exitMetadata, JsValue.prop, assocGet, JsValue.asString, ExitRule.kind]

/-- **The adapter agrees.** A SELL of at most the position, EXIT exactly where it is all of it, has no objection to fear
from a guard that sees the same position. -/
theorem exitIntent_passes_guard [H.NonFinites] {config : LiveOpsUniverse} {risk : ExitRiskInput}
    (hconfig : LoadedUniverse config) (hlatest : LatestPosition risk position.quantity)
    (hkeys : ∀ key ∈ exitRule.metadata.map Prod.fst, key ∈ exitRuleKeys) (hdecimal : IsDecimalFraction sell)
    (hheld : 0 < position.quantity) (hle : sell ≤ position.quantity) :
    collectExitOrderIntentViolations config risk
      (exitIntent platform options position exitRule observedAt bestBid bestAsk target sell) = [] := by
  have hrequested := rawDecimal_finite (Host.Decimals.read_toFixed hdecimal)
  have hscope := rawDecimal_finite (Host.Decimals.read_toFixed (isDecimal_of_denotes position.quantity_denotes))
  have hwithin : RawDecimal.gt (.finite sell) (.finite position.quantity) = false := by
    rw [Bool.eq_false_iff, ne_eq, RawDecimal.gt_finite]
    exact not_lt.2 hle
  have hexit : readPositionEffect
      (exitIntent platform options position exitRule observedAt bestBid bestAsk target sell) = some "EXIT" →
      RawDecimal.eq (.finite sell) (.finite position.quantity) := by
    rw [exitIntent_positionEffect hkeys, RawDecimal.eq_finite]
    split_ifs with heq
    · exact fun _ => heq
    · simp
  refine exitGuard_passes_iff.2 ⟨exitIntent_shape hconfig hlatest.strategy hkeys, _, exitIntent_scope hkeys, ?_, ?_⟩
  · exact ⟨_, _, rfl, rfl, hrequested, hscope, RawDecimal.gt_finite.2 hheld, hwithin, hexit⟩
  · exact ⟨_, _, _, hlatest.quantity, hrequested, hscope, RawDecimal.gt_finite.2 hheld, RawDecimal.eq_finite.2 rfl,
      hwithin, hexit⟩

/-! ## Bounds -/

/-- the best price of a side of the book of the strategy's market -/
def BestBid (context : StrategyContext) (bid : ℚ) : Prop :=
  ∃ orderbook, selectLatestOrderbook context.marketEvents (some "KRW-BTC") = some orderbook ∧
    IsGreatest (levelPrices orderbook.bids) bid

def BestAsk (context : StrategyContext) (ask : ℚ) : Prop :=
  ∃ orderbook, selectLatestOrderbook context.marketEvents (some "KRW-BTC") = some orderbook ∧
    IsLeast (levelPrices orderbook.asks) ask

/-- a LIMIT post-only order, and what its texts say -/
structure Amounts (intent : ExecutionIntent) (price quantity notional : ℚ) : Prop where
  limit : ∃ text, intent.terms = .limit text true (some .postOnly) ∧ Host.valueOf text = some price
  quantity : Host.valueOf intent.requestedQuantity = some quantity
  notional : Host.valueOf intent.requestedNotional = some notional

/-- a BUY below the best bid, without a position -/
structure BuyBelowBid (context : StrategyContext) (intent : ExecutionIntent) (price held : ℚ) : Prop where
  side : intent.side = .buy
  unheld : held = 0
  below : ∃ bid, BestBid context bid ∧ price < bid

/-- a SELL above the best ask of at most the position, EXIT exactly where it is all of it -/
structure SellAboveAsk (context : StrategyContext) (intent : ExecutionIntent) (price quantity held : ℚ) : Prop where
  side : intent.side = .sell
  above : ∃ ask, BestAsk context ask ∧ ask < price
  within : 0 < quantity ∧ quantity ≤ held
  effect : readPositionEffect intent = some (if quantity = held then "EXIT" else "REDUCE")

omit [H.Decimals] in
theorem decimal_offset [H.Decimals] (tick : PositiveDecimal) (ticks : ℕ+) : IsDecimalFraction (tick.1 * (ticks : ℕ)) ∧
    0 < tick.1 * (ticks : ℕ) := by
  have hticks : (0 : ℚ) < (ticks : ℕ) := by exact_mod_cast ticks.pos
  exact ⟨(isDecimal_of_denotes tick.2.1).mul (IsDecimalFraction.natCast _), mul_pos tick.2.2 hticks⟩

theorem levelPrices_isDecimal {levels : List OrderbookLevel} {q : ℚ} (h : q ∈ levelPrices levels) : IsDecimalFraction q := by
  obtain ⟨level, -, hlevel⟩ := h
  exact Host.Decimals.isDecimal hlevel

/-- the printed amounts of an order are read back -/
theorem printed_amounts {side : OrderSide} {reason : String} {price quantity : ℚ} {metadata : JsonRecord}
    (hprice : IsDecimalFraction price) (hquantity : IsDecimalFraction quantity) :
    Amounts (createLimitIntent side reason (printedSizing (exactly parseDate) price quantity) observedAt metadata) price
      quantity (price * quantity) where
  limit := ⟨_, rfl, Host.Decimals.read_toFixed hprice⟩
  quantity := Host.Decimals.read_toFixed hquantity
  notional := Host.Decimals.read_toFixed (hprice.mul hquantity)

theorem EntryOrder.bounded {quantity : ℚ}
    (h : EntryOrder (exactly parseDate) context options orderbook bestBid quantity intent)
    (hbook : selectLatestOrderbook context.marketEvents (some "KRW-BTC") = some orderbook) :
    ∃ price, Amounts intent price quantity (price * quantity) ∧ Sized (exactly parseDate) options price quantity ∧
      BuyBelowBid context intent price 0 := by
  have hbest := readBestBid_isGreatest h.bid
  obtain ⟨hoffset, hpos⟩ := decimal_offset options.tickSizeKrw options.entryPriceOffsetTicks
  obtain ⟨metadata, hintent⟩ := h.intent
  have hprice : IsDecimalFraction (entryPrice (exactly parseDate) options bestBid) :=
    (levelPrices_isDecimal hbest.1).sub hoffset
  refine ⟨entryPrice (exactly parseDate) options bestBid, ?_, h.sized, ?_, rfl, bestBid, ⟨orderbook, hbook, hbest⟩, ?_⟩
  · rw [hintent]
    exact printed_amounts hprice (h.truncates ▸ IsDecimalFraction.truncate _ _)
  · rw [hintent]
    rfl
  · change bestBid - options.tickSizeKrw.1 * (options.entryPriceOffsetTicks : ℕ) < bestBid
    linarith

theorem ExitOrder.bounded
    (h : ExitOrder (exactly parseDate) context options orderbook position bestBid bestAsk target sell exitRule intent)
    (hbook : selectLatestOrderbook context.marketEvents (some "KRW-BTC") = some orderbook) :
    ∃ price, Amounts intent price sell (price * sell) ∧ Sized (exactly parseDate) options price sell ∧
      IsDecimalFraction sell ∧ SellAboveAsk context intent price sell position.quantity := by
  have hbest := readBestAsk_isLeast h.ask
  obtain ⟨hoffset, hpos⟩ := decimal_offset options.tickSizeKrw options.exitPriceOffsetTicks
  have hprice : IsDecimalFraction (exitPrice (exactly parseDate) options bestAsk) :=
    (levelPrices_isDecimal hbest.1).add hoffset
  obtain ⟨htarget, hheld⟩ := exitTarget_within h.calculates
  obtain ⟨hle, hgrid⟩ := capExitQuantity_le (fun _ hx => hx) h.sized.price_pos htarget options.maxEntryNotionalKrw.2.2.le
    h.caps
  have hsell : IsDecimalFraction sell := ⟨_, hgrid⟩
  have hkeys := selectExitRule_keys h.rule
  refine ⟨exitPrice (exactly parseDate) options bestAsk, ?_, h.sized, hsell, ?_, ⟨bestAsk, ⟨orderbook, hbook, hbest⟩, ?_⟩,
    ⟨h.sized.quantity_pos, hle.trans hheld⟩, ?_⟩
  · rw [h.intent]
    exact printed_amounts hprice hsell
  · rw [h.intent]
    rfl
  · change bestAsk < bestAsk + options.tickSizeKrw.1 * (options.exitPriceOffsetTicks : ℕ)
    linarith
  · rw [h.intent]
    exact exitIntent_positionEffect hkeys

/-- **Bounded and submittable.** A decision proposes at most one order. It is LIMIT and post-only, its notional is price
times quantity and between the exchange minimum and the budget; without a position it is a BUY below the best bid, with
one a SELL above the best ask of at most the position, and the live adapter does not object to the SELL while its latest
position of the strategy is the one the strategy saw. -/
theorem autonomous_orders_bounded [H.NonFinites] {raw : LiveOpsAutonomous24x7StrategyOptions}
    {strategy : StrategyContext → Except Thrown StrategyDecision}
    (hstrategy : createLiveOpsAutonomous24x7Strategy (exactly parseDate) raw = .ok strategy) {decision : StrategyDecision}
    (hdecision : strategy context = .ok decision) :
    decision.orderIntents.length ≤ 1 ∧ ∀ intent ∈ decision.orderIntents, ∃ maximum price quantity held,
      Host.valueOf raw.maxEntryNotionalKrw = some maximum ∧ HeldQuantity context.positions held ∧
      Amounts intent price quantity (price * quantity) ∧
      minimumUpbitKrwOrderNotional ≤ price * quantity ∧ price * quantity ≤ maximum ∧
      (BuyBelowBid context intent price held ∨ SellAboveAsk context intent price quantity held ∧
        ∀ config risk, LoadedUniverse config → LatestPosition risk held →
          collectExitOrderIntentViolations config risk intent = []) := by
  obtain ⟨options, hoptions, hrun⟩ := Fallible.bind_eq_ok.1 hstrategy
  rw [Fallible.pure_eq_ok] at hrun
  subst hrun
  have hmax := normalizeOptions_max hoptions
  constructor
  · rcases hintents : decision.orderIntents with _ | ⟨intent, rest⟩
    · simp
    · obtain ⟨hsingle, -⟩ := evaluateAutonomous24x7_orders hdecision (hintents ▸ List.mem_cons_self)
      rw [← hintents, hsingle]
      simp
  intro intent hmem
  obtain ⟨-, orderbook, position, hbook, hposition, horder⟩ := evaluateAutonomous24x7_orders hdecision hmem
  have hheld := readPositionSnapshot_held hposition
  rcases horder with ⟨hpos, bestBid, bestAsk, target, sell, exitRule, hexit⟩ | ⟨hzero, bestBid, quantity, hentry⟩
  · obtain ⟨price, hamounts, hsized, hdecimal, hsell⟩ := hexit.bounded hbook
    refine ⟨_, price, sell, _, hmax, hheld, hamounts, hsized.minimum, hsized.maximum, Or.inr ⟨hsell, ?_⟩⟩
    intro config risk hconfig hlatest
    rw [hexit.intent]
    exact exitIntent_passes_guard hconfig hlatest (selectExitRule_keys hexit.rule) hdecimal hpos hsell.within.2
  · obtain ⟨price, hamounts, hsized, hbuy⟩ := hentry.bounded hbook
    refine ⟨_, price, quantity, _, hmax, hheld, hamounts, hsized.minimum, hsized.maximum, Or.inl ?_⟩
    rw [hzero]
    exact hbuy

end Guard

end Exact

/-! ## A tick -/

section Sample

local instance sampleHost : Host := decimalHost

local instance sampleHost_decimals : Host.Decimals sampleHost := decimalHost_decimals

local instance sampleNonFinites : Host.NonFinites sampleHost := ⟨fun _ => none⟩

def sampleOptions (maxEntryNotionalKrw tickSizeKrw : String) : LiveOpsAutonomous24x7StrategyOptions where
  maxEntryNotionalKrw := maxEntryNotionalKrw
  tickSizeKrw := tickSizeKrw
  entryPriceOffsetTicks := 1
  exitPriceOffsetTicks := 1
  quantityScale := 8
  minEntryMarginBps := "10"
  trendConfirmationBps := "10"
  meanReversionDiscountBps := "10"
  takeProfitBps := "100"
  stopLossBps := "100"
  trailingStopBps := "100"
  maxHoldingMs := 86400000
  riskReductionOpenNotionalKrw := "20000"
  riskReductionSellFraction := "0.5"
  expectedLossBpsOfEquity := "5"

/-- a tick with one level on each side of the book -/
def sampleContext (bid ask quantity averageEntryPrice : String) : StrategyContext where
  exchangeId := some "upbit_krw_spot"
  market := some "KRW-BTC"
  observedAt := "2026-05-19T10:00:00.000Z"
  marketEvents := [.orderbook ⟨"upbit_krw_spot", "KRW-BTC", [⟨ask, "1"⟩], [⟨bid, "1"⟩], .nanos 0⟩]
  features := []
  positions := some [("quantity", .string quantity), ("averageEntryPrice", .string averageEntryPrice)]

/-- a position above the budget after a fall: the first chunk is sold -/
theorem autonomous_orders_bounded_chunk : ∃ strategy decision,
    createLiveOpsAutonomous24x7Strategy (exactly fun _ => none) (sampleOptions "10000" "1000") = .ok strategy ∧
    strategy (sampleContext "99000000" "99001000" "0.00012" "101000000") = .ok decision ∧
    decision.orderIntents.length = 1 ∧ ∀ intent ∈ decision.orderIntents, ∃ maximum price quantity held,
      Host.valueOf "10000" = some maximum ∧
      HeldQuantity (sampleContext "99000000" "99001000" "0.00012" "101000000").positions held ∧
      Amounts intent price quantity (price * quantity) ∧
      minimumUpbitKrwOrderNotional ≤ price * quantity ∧ price * quantity ≤ maximum ∧
      (BuyBelowBid (sampleContext "99000000" "99001000" "0.00012" "101000000") intent price held ∨
        SellAboveAsk (sampleContext "99000000" "99001000" "0.00012" "101000000") intent price quantity held ∧
        ∀ config risk, LoadedUniverse config → LatestPosition risk held →
          collectExitOrderIntentViolations config risk intent = []) := by
  have hrun : ((createLiveOpsAutonomous24x7Strategy (exactly fun _ => none) (sampleOptions "10000" "1000") >>=
      fun strategy => strategy (sampleContext "99000000" "99001000" "0.00012" "101000000")).toOption.map
        fun decision => decision.orderIntents.length) = some 1 := by
    decide +kernel
  obtain ⟨decision, hdecision⟩ := Fallible.exists_ok (Option.isSome_of_mem (Option.mem_map.1 hrun).choose_spec.1)
  have hlength : decision.orderIntents.length = 1 := by
    rw [hdecision] at hrun
    exact Option.some.inj hrun
  obtain ⟨strategy, hstrategy, hdecision⟩ := Fallible.bind_eq_ok.1 hdecision
  exact ⟨strategy, decision, hstrategy, hdecision, hlength, (autonomous_orders_bounded hstrategy hdecision).2⟩

end Sample

end SeeMirai.Live.Autonomous24x7
