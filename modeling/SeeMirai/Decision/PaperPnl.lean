/-
The profit of a paper run (application/paper-pnl-summary/calculator.ts, application/paper-decision-runner/service.ts).
The runner keeps the fills of the orders that the broker returned and walks over them once more at the end: cash, fees,
quantities and cost by market. A sale of more than was bought has no cost; the profit fields are then withheld and cash
and fees are summed without them.

Amounts that one stage prints and another reads again are kept as numbers.

Results:
- `createPnlSummary_cash`: with or without the profit fields, cash and fees are what the fills say.
-/
import SeeMirai.Decision.Metrics
import SeeMirai.Lib.Grouping

namespace SeeMirai.Decision

open Fallible Execution
open Paper (PaperBroker BrokerOrder)

/-! ## The calculator -/

structure PaperPnlSummary where
  startingCashKrw : ℚ
  endingCashKrw : ℚ
  positionMarketValueKrw : Option ℚ
  realizedPnlKrw : Option ℚ
  unrealizedPnlKrw : Option ℚ
  totalPnlKrw : Option ℚ
  totalReturnBps : Option ℚ
  totalFeesKrw : ℚ
  submittedOrderCount : ℕ
  filledOrderCount : ℕ
deriving DecidableEq

structure MutablePositionLedger where
  quantity : ℚ
  costBasisKrw : ℚ

/-- what the calculator carries from fill to fill -/
structure PaperPnlLedger where
  cashKrw : ℚ
  realizedPnlKrw : ℚ
  totalFeesKrw : ℚ
  filledOrderIds : List String
  positions : InsertionMap String MutablePositionLedger

def paperPnlSummaryInvariantError (message : String) : Thrown := ⟨"PaperPnlSummaryInvariantError", message⟩

/-- an amount that was printed and is read again -/
def readNonNegative (value : ℚ) (fieldName : String) : Except Thrown ℚ :=
  if value < 0 then throw (paperPnlSummaryInvariantError (fieldName ++ " must be non-negative")) else pure value

def getOrCreatePosition (positions : InsertionMap String MutablePositionLedger) (market : String) :
    MutablePositionLedger :=
  (positions.get market).getD ⟨0, 0⟩

/-- one fill: a BUY adds its cost to the position, a SELL takes its share of the cost out -/
def PaperPnlLedger.book (ledger : PaperPnlLedger) (fill : PaperPnlFillInput) : Except Thrown PaperPnlLedger := do
  let filledQuantity ← readNonNegative fill.filledQuantity "filledQuantity"
  let totalFillNotional ← readNonNegative fill.totalFillNotional "totalFillNotional"
  let totalFee ← readNonNegative fill.totalFee "totalFee"
  if filledQuantity = 0 then pure ledger
  else
    let ledger :=
      { ledger with
        filledOrderIds := Grouping.collect ledger.filledOrderIds fill.orderId
        totalFeesKrw := ledger.totalFeesKrw + totalFee }
    let position := getOrCreatePosition ledger.positions fill.market
    match fill.side with
    | .buy =>
      let fillCostKrw := totalFillNotional + totalFee
      pure { ledger with
        cashKrw := ledger.cashKrw - fillCostKrw
        positions := ledger.positions.set fill.market
          ⟨position.quantity + filledQuantity, position.costBasisKrw + fillCostKrw⟩ }
    | .sell =>
      if position.quantity < filledQuantity then
        throw (paperPnlSummaryInvariantError ("SELL fill exceeds open position for " ++ fill.market))
      else
        let averageCostKrw := if position.quantity = 0 then 0 else position.costBasisKrw / position.quantity
        let realizedCostBasisKrw := averageCostKrw * filledQuantity
        let sellProceedsAfterFeeKrw := totalFillNotional - totalFee
        let quantity := position.quantity - filledQuantity
        pure { ledger with
          realizedPnlKrw := ledger.realizedPnlKrw + (sellProceedsAfterFeeKrw - realizedCostBasisKrw)
          cashKrw := ledger.cashKrw + sellProceedsAfterFeeKrw
          positions := ledger.positions.set fill.market
            ⟨quantity, if quantity = 0 then 0 else position.costBasisKrw - realizedCostBasisKrw⟩ }

/-- one position at its mark price; an open position without one withholds both sums -/
def markPosition (markPriceByMarket : InsertionMap String ℚ) (sums : Option (ℚ × ℚ))
    (entry : String × MutablePositionLedger) : Option (ℚ × ℚ) :=
  if entry.2.quantity = 0 then sums
  else
    match sums, markPriceByMarket.get entry.1 with
    | some (positionMarketValueKrw, unrealizedPnlKrw), some markPrice =>
      let marketValueKrw := entry.2.quantity * markPrice
      some (positionMarketValueKrw + marketValueKrw, unrealizedPnlKrw + (marketValueKrw - entry.2.costBasisKrw))
    | _, _ => none

/-- market value and unrealized profit -/
def calculateMarkToMarket (positions : InsertionMap String MutablePositionLedger)
    (markPrices : InsertionMap String ℚ) : Except Thrown (Option (ℚ × ℚ)) := do
  let markPriceByMarket ← markPrices.entries.foldlM (fun prices markPrice => do
    let price ← readNonNegative markPrice.2 "priceKrw"
    pure (prices.set markPrice.1 price)) (InsertionMap.empty : InsertionMap String ℚ)
  pure (positions.entries.foldl (markPosition markPriceByMarket) (some (0, 0)))

section Host

variable [Host]

/-- a text whose sign bit is clear -/
def parseNonNegativeDecimal (value fieldName : String) : Except Thrown ℚ := do
  let decimal ← parseDec value
  if decimal.isNegative then throw (paperPnlSummaryInvariantError (fieldName ++ " must be non-negative"))
  else pure decimal.value

def createPaperPnlSummary (pnlStartingCashKrw : String) (submittedOrderCount : ℕ) (fills : List PaperPnlFillInput)
    (markPrices : InsertionMap String ℚ) : Except Thrown PaperPnlSummary := do
  let startingCashKrw ← parseNonNegativeDecimal pnlStartingCashKrw "startingCashKrw"
  let ledger ← fills.foldlM PaperPnlLedger.book ⟨startingCashKrw, 0, 0, [], InsertionMap.empty⟩
  let markToMarket ← calculateMarkToMarket ledger.positions markPrices
  let totalPnlKrw := markToMarket.map fun sums => ledger.realizedPnlKrw + sums.2
  pure
    { startingCashKrw := startingCashKrw
      endingCashKrw := ledger.cashKrw
      positionMarketValueKrw := markToMarket.map (·.1)
      realizedPnlKrw := some ledger.realizedPnlKrw
      unrealizedPnlKrw := markToMarket.map (·.2)
      totalPnlKrw := totalPnlKrw
      totalReturnBps := if startingCashKrw = 0 then none else totalPnlKrw.map (· / startingCashKrw * 10000)
      totalFeesKrw := ledger.totalFeesKrw
      submittedOrderCount := submittedOrderCount
      filledOrderCount := ledger.filledOrderIds.length }

/-! ## The runner's summary -/

/-- what a fill moves in cash -/
def PaperPnlFillInput.cash (fill : PaperPnlFillInput) : ℚ :=
  match fill.side with
  | .buy => -(fill.totalFillNotional + fill.totalFee)
  | .sell => fill.totalFillNotional - fill.totalFee

def calculateCashAfterPnlFills (startingCashKrw : String) (fills : List PaperPnlFillInput) : Except Thrown ℚ :=
  (fun cash => fills.foldl (fun cash fill => cash + fill.cash) cash) <$> parseFinancialDecimal startingCashKrw

def sumPnlFillFees (fills : List PaperPnlFillInput) : ℚ := fills.foldl (fun sum fill => sum + fill.totalFee) 0

def createUnavailablePaperPnlSummary (pnlStartingCashKrw : String) (endingCashKrw totalFeesKrw : ℚ)
    (submittedOrderCount filledOrderCount : ℕ) : Except Thrown PaperPnlSummary := do
  let startingCashKrw ← parseNonNegativeDecimal pnlStartingCashKrw "startingCashKrw"
  let totalFeesKrw ← readNonNegative totalFeesKrw "totalFeesKrw"
  pure ⟨startingCashKrw, endingCashKrw, none, none, none, none, none, totalFeesKrw, submittedOrderCount,
    filledOrderCount⟩

/-- an invariant that the fills break withholds the profit fields; any other error ends the run -/
def createPnlSummary (metrics : PaperDecisionMetricAccumulator) (pnlStartingCashKrw : String) :
    Except Thrown PaperPnlSummary :=
  match createPaperPnlSummary pnlStartingCashKrw metrics.paperOrderSubmittedCount metrics.pnlFills
      metrics.pnlMarkPricesByMarket with
  | .ok summary => pure summary
  | .error error =>
    if error.name ≠ "PaperPnlSummaryInvariantError" then throw error
    else do
      let endingCashKrw ← calculateCashAfterPnlFills pnlStartingCashKrw metrics.pnlFills
      createUnavailablePaperPnlSummary pnlStartingCashKrw endingCashKrw (sumPnlFillFees metrics.pnlFills)
        metrics.paperOrderSubmittedCount (Grouping.firstSeen (metrics.pnlFills.map (·.orderId))).length

structure PaperDecisionCostSummary where
  evaluatedCount : ℕ
  allowedCount : ℕ
  rejectedCount : ℕ
  averageCostBps : Option ℚ
  averageRequiredReturnBps : Option ℚ
  averageMarginBps : Option ℚ

structure PaperDecisionSlippageSummary where
  observedFillCount : ℕ
  averageSlippageBps : Option ℚ
  minSlippageBps : Option ℚ
  maxSlippageBps : Option ℚ

structure PaperDecisionMetricSummary where
  strategyEvaluationCount : ℕ
  orderCandidateCount : ℕ
  orderIntentCount : ℕ
  holdReasonCounts : ObjectCounts
  discardReasonCounts : ObjectCounts
  costRejectedCount : ℕ
  riskRejectedCount : ℕ
  paperOrderSubmittedCount : ℕ
  paperFillCount : ℕ
  costSummary : PaperDecisionCostSummary
  slippageSummary : PaperDecisionSlippageSummary
  pnlSummary : PaperPnlSummary
  blockingReasonCounts : ObjectCounts
  liveOrderApiCalls : ℕ

def average (values : List ℚ) : Option ℚ := if values = [] then none else some (values.sum / values.length)

def createCostSummary (metrics : PaperDecisionMetricAccumulator) : PaperDecisionCostSummary where
  evaluatedCount := metrics.costEvaluatedCount
  allowedCount := metrics.costAllowedCount
  rejectedCount := metrics.costRejectedCount
  averageCostBps := average metrics.costBpsValues
  averageRequiredReturnBps := average metrics.requiredReturnBpsValues
  averageMarginBps := average metrics.marginBpsValues

def createSlippageSummary (values : List ℚ) : PaperDecisionSlippageSummary where
  observedFillCount := values.length
  averageSlippageBps := average values
  minSlippageBps := values.min?
  maxSlippageBps := values.max?

def finalizeMetrics (state : Metered) (pnlStartingCashKrw : String) : Except Thrown PaperDecisionMetricSummary := do
  let pnlSummary ← createPnlSummary state.metrics pnlStartingCashKrw
  pure
    { strategyEvaluationCount := state.metrics.strategyEvaluationCount
      orderCandidateCount := state.metrics.orderCandidateCount
      orderIntentCount := state.metrics.orderIntentCount
      holdReasonCounts := state.metrics.holdReasonCounts
      discardReasonCounts := state.metrics.discardReasonCounts
      costRejectedCount := state.metrics.costRejectedCount
      riskRejectedCount := state.metrics.riskRejectedCount
      paperOrderSubmittedCount := state.metrics.paperOrderSubmittedCount
      paperFillCount := state.run.paperFillCount
      costSummary := createCostSummary state.metrics
      slippageSummary := createSlippageSummary state.metrics.slippageBpsValues
      pnlSummary := pnlSummary
      blockingReasonCounts := state.metrics.blockingReasonCounts
      liveOrderApiCalls := 0 }

def defaultPnlStartingCashKrw : String := "1000000"

/-- a completed run: the last state and the summary made of it -/
def PaperDecisionRunner.completedRun (runner : PaperDecisionRunner) (broker : PaperBroker)
    (frames : List PaperDecisionInputFrame) (pnlStartingCashKrw : Option String) :
    Except Thrown (Metered × PaperDecisionMetricSummary) := do
  let state ← runner.meteredRun broker frames
  let summary ← finalizeMetrics state (pnlStartingCashKrw.getD defaultPnlStartingCashKrw)
  pure (state, summary)

/-! ## Cash and fees -/

omit [Host] in
theorem readNonNegative_eq_ok {value read : ℚ} {fieldName : String} (h : readNonNegative value fieldName = .ok read) :
    read = value := by
  unfold readNonNegative at h
  split_ifs at h
  exact (pure_eq_ok.1 h).symm

theorem parseNonNegativeDecimal_eq_ok {value fieldName : String} {read : ℚ}
    (h : parseNonNegativeDecimal value fieldName = .ok read) : parseFinancialDecimal value = .ok read := by
  obtain ⟨decimal, hdecimal, h⟩ := bind_eq_ok.1 h
  split_ifs at h
  rw [parseFinancialDecimal, hdecimal, ← pure_eq_ok.1 h]
  rfl

omit [Host] in
/-- one fill moves its cash and adds its fee -/
theorem book_cash {ledger ledger' : PaperPnlLedger} {fill : PaperPnlFillInput} (h : ledger.book fill = .ok ledger')
    (hpositive : 0 < fill.filledQuantity) :
    ledger'.cashKrw = ledger.cashKrw + fill.cash ∧ ledger'.totalFeesKrw = ledger.totalFeesKrw + fill.totalFee := by
  obtain ⟨quantity, hquantity, h⟩ := bind_eq_ok.1 h
  obtain ⟨notional, hnotional, h⟩ := bind_eq_ok.1 h
  obtain ⟨fee, hfee, h⟩ := bind_eq_ok.1 h
  rw [readNonNegative_eq_ok hquantity, readNonNegative_eq_ok hnotional, readNonNegative_eq_ok hfee,
    if_neg hpositive.ne'] at h
  unfold PaperPnlFillInput.cash
  cases hside : fill.side with
  | buy =>
    simp only [hside] at h
    obtain rfl := pure_eq_ok.1 h
    exact ⟨sub_eq_add_neg _ _, rfl⟩
  | sell =>
    simp only [hside] at h
    split at h
    · exact absurd h throw_ne_ok
    · obtain rfl := pure_eq_ok.1 h
      exact ⟨rfl, rfl⟩

omit [Host] in
theorem books_cash {fills : List PaperPnlFillInput} {ledger ledger' : PaperPnlLedger}
    (h : fills.foldlM PaperPnlLedger.book ledger = .ok ledger') (hpositive : ∀ fill ∈ fills, 0 < fill.filledQuantity) :
    ledger'.cashKrw = ledger.cashKrw + (fills.map (·.cash)).sum ∧
      ledger'.totalFeesKrw = ledger.totalFeesKrw + (fills.map (·.totalFee)).sum := by
  induction fills generalizing ledger with
  | nil =>
    obtain rfl := pure_eq_ok.1 h
    simp
  | cons fill fills ih =>
    obtain ⟨next, hnext, h⟩ := bind_eq_ok.1 h
    obtain ⟨hcash, hfee⟩ := book_cash hnext (hpositive fill (by simp))
    obtain ⟨hcashes, hfees⟩ := ih h (fun other hother => hpositive other (by simp [hother]))
    rw [hcashes, hcash, hfees, hfee]
    constructor
    · simp [add_assoc]
    · simp [add_assoc]

omit [Host] in
theorem foldl_add_eq {α : Type} (amount : α → ℚ) (items : List α) (start : ℚ) :
    items.foldl (fun sum item => sum + amount item) start = start + (items.map amount).sum := by
  induction items generalizing start with
  | nil => simp
  | cons item items ih =>
    rw [List.foldl_cons, ih]
    simp [add_assoc]

/-- **Cash and fees.** With or without the profit fields, the ending cash is the starting cash and what the fills moved,
and the fees are those of the fills. -/
theorem createPnlSummary_cash {metrics : PaperDecisionMetricAccumulator} {pnlStartingCashKrw : String}
    {summary : PaperPnlSummary} (h : createPnlSummary metrics pnlStartingCashKrw = .ok summary)
    (hpositive : ∀ fill ∈ metrics.pnlFills, 0 < fill.filledQuantity) :
    summary.endingCashKrw - summary.startingCashKrw = (metrics.pnlFills.map (·.cash)).sum ∧
      summary.totalFeesKrw = (metrics.pnlFills.map (·.totalFee)).sum := by
  unfold createPnlSummary at h
  split at h
  · rename_i calculated hcalculated
    obtain rfl := pure_eq_ok.1 h
    obtain ⟨starting, -, hcalculated⟩ := bind_eq_ok.1 hcalculated
    obtain ⟨ledger, hledger, hcalculated⟩ := bind_eq_ok.1 hcalculated
    obtain ⟨marked, -, hcalculated⟩ := bind_eq_ok.1 hcalculated
    obtain rfl := pure_eq_ok.1 hcalculated
    obtain ⟨hcash, hfee⟩ := books_cash hledger hpositive
    exact ⟨by rw [hcash]; ring, by rw [hfee]; ring⟩
  · split at h
    · exact absurd h throw_ne_ok
    · obtain ⟨ending, hending, h⟩ := bind_eq_ok.1 h
      obtain ⟨starting, hstarting, h⟩ := bind_eq_ok.1 h
      obtain ⟨fees, hfees, h⟩ := bind_eq_ok.1 h
      obtain rfl := pure_eq_ok.1 h
      rw [calculateCashAfterPnlFills, parseNonNegativeDecimal_eq_ok hstarting] at hending
      obtain rfl := pure_eq_ok.1 hending
      simp only
      rw [readNonNegative_eq_ok hfees, sumPnlFillFees, foldl_add_eq, foldl_add_eq]
      exact ⟨by ring, zero_add _⟩

end Host

end SeeMirai.Decision
