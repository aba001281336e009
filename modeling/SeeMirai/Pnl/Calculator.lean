/-
`calculatePnLAccounting` (application/pnl-accounting/calculator.ts): the whole calculation, from the requested scopes to
the output record. It is split where the source's own section comments split it:

- `applyTargetScopeFilter`: keep the facts of the requested scopes;
- `replay`: snapshot selection, reconcile and position seeds, fill replay (sections 1 to 5 of the source);
- `assemble`: cash, mark to market, equity, costs, scopes and status (sections 6 to 11).

The source collects missing reasons in one mutable array; here the array is threaded through in the same order. Amounts
the source prints with `toFixed()` and reads back are kept as the rationals they denote.
-/
import SeeMirai.Pnl.Ledger
import SeeMirai.Pnl.Snapshots

namespace SeeMirai.Pnl

open Fallible

/-! ## Output -/

inductive PnLSource where
  | fills
  | positions
  | pnlSnapshots
  | liveReconcilePositionSnapshots
  | unavailable
deriving DecidableEq, Repr

structure PnLAccountingScope where
  strategyId : String
  market : Option String
  /-- milliseconds of the ISO timestamp -/
  capturedAt : Int
  source : PnLSource
  status : PnLAccountingStatus
deriving DecidableEq, Repr

structure PnLPositionDetail where
  strategyId : String
  market : String
  quantity : ℚ
  averageEntryPrice : Option ℚ
  marketValueKrw : Option ℚ
  unrealizedPnlKrw : Option ℚ
  exposureBps : Option ℚ
deriving DecidableEq

structure PnLFeeTotal where
  currency : String
  amount : ℚ
deriving DecidableEq

structure PnLExecutionQualityMetric where
  value : Option ℚ
  available : Bool
  sampleCount : ℕ
  source : String
deriving DecidableEq

structure PnLAccountingOutput where
  scopes : List PnLAccountingScope
  status : PnLAccountingStatus
  realizedPnlKrw : Option ℚ
  unrealizedPnlKrw : Option ℚ
  totalPnlKrw : Option ℚ
  cashKrw : Option ℚ
  positionMarketValueKrw : Option ℚ
  equityKrw : Option ℚ
  positions : List PnLPositionDetail
  feeTotals : List PnLFeeTotal
  spreadCost : PnLExecutionQualityMetric
  slippage : PnLExecutionQualityMetric
  cancelRequote : PnLExecutionQualityMetric
  missingReasons : List PnLMissingReason
  trace : PnLTrace
deriving DecidableEq

/-! ## Requested scopes -/

def matchesScopedFact (targets : List TargetScope) (strategyId market : String) : Bool :=
  targets.any (fun t => t.market.isNone ∧ t.strategyId = strategyId) ||
    targets.any (fun t => t.market.isSome ∧ scopeKey t.strategyId t.market = scopeKey strategyId (some market))

/-- a market target does not take in the strategy's aggregate snapshot -/
def matchesSnapshot (targets : List TargetScope) (strategyId : String) (market : Option String) : Bool :=
  targets.any (fun t => t.market.isNone ∧ t.strategyId = strategyId) ||
    (market.isSome &&
      targets.any (fun t => t.market.isSome ∧ scopeKey t.strategyId t.market = scopeKey strategyId market))

def resolveTargetMarkPriceMarkets (targets : List TargetScope) (fills : List PnLFillFact)
    (positions : List PnLPositionFact) (reconcileFacts : List PnLReconcileFact) : List String :=
  targets.filterMap (·.market) ++ fills.map (·.market) ++ positions.map (·.market) ++ reconcileFacts.map (·.market)

/-- the scopes a caller asked for; an empty list asks for everything -/
def PnLAccountingInput.targets (input : PnLAccountingInput) : List TargetScope := input.targetScopes.getD []

def applyTargetScopeFilter (input : PnLAccountingInput) : PnLAccountingInput :=
  if input.targets = [] then input
  else
    let matchesFact := matchesScopedFact input.targets
    let fills := input.fills.filter (fun f => matchesFact f.strategyId f.market)
    let positions := input.positions.filter (fun p => matchesFact p.strategyId p.market)
    let reconcileFacts := input.reconcileFacts.filter (fun r => matchesFact r.strategyId r.market)
    { input with
      fills := fills
      positions := positions
      markPrices := input.markPrices.filter
        (fun mp => mp.market ∈ resolveTargetMarkPriceMarkets input.targets fills positions reconcileFacts)
      costQuality := input.costQuality.filter (fun c => matchesFact c.strategyId c.market)
      pnlSnapshots := input.pnlSnapshots.filter (fun s => matchesSnapshot input.targets s.strategyId s.market)
      reconcileFacts := reconcileFacts }

/-! ## Seeds and replay -/

def isFillCovered (fills : List PnLFillFact) (strategyId market : String) : Bool :=
  fills.any (fun f => f.key = scopeKey strategyId (some market))

def isPositionCovered (positions : List PnLPositionFact) (strategyId market : String) : Bool :=
  positions.any (fun p => p.key = scopeKey strategyId (some market))

structure Collected where
  missingReasons : List PnLMissingReason
  blockedFillReplayScopes : List String
  reconciledPositions : List PnLPositionFact
  hasUnknownReconcilePosition : Bool
  fallbackPositions : List PnLPositionFact
  openingSeedPositions : List PnLPositionFact
  positionRealizedGapScopes : List String
deriving DecidableEq, Repr

def Collected.addReason (acc : Collected) (reason : PnLMissingReason) : Collected :=
  { acc with missingReasons := acc.missingReasons ++ [reason] }

def Collected.block (acc : Collected) (key : String) : Collected :=
  { acc with blockedFillReplayScopes := acc.blockedFillReplayScopes ++ [key] }

def Collected.addGap (acc : Collected) (key : String) : Collected :=
  { acc with positionRealizedGapScopes := acc.positionRealizedGapScopes ++ [key] }

def Collected.unknownReconcile (acc : Collected) : Collected := { acc with hasUnknownReconcilePosition := true }

/-- an open position without an average entry price -/
def Collected.noteUnpriced (acc : Collected) (position : PnLPositionFact) (quantity : ℚ) : Collected :=
  if 0 < quantity ∧ position.averageEntryPrice = none then
    acc.addReason ⟨"평균단가 근거 없음", "AVERAGE_ENTRY_MISSING", position.key, "positions"⟩
  else acc

def Collected.openWith (acc : Collected) (position : PnLPositionFact) : Collected :=
  { acc with openingSeedPositions := acc.openingSeedPositions ++ [position] }

/-- a position dated after the first uncovered SELL: its scope is not replayed -/
def Collected.blockLate (acc : Collected) (position : PnLPositionFact) : Collected :=
  ((acc.block position.key).addGap position.key).addReason
    ⟨"체결 전 opening position 근거 없음", "FILL_OPENING_POSITION_SOURCE_MISSING", position.key, "positions"⟩

/-- a position without fills carries a realised PnL that no fee evidence adjusts -/
def Collected.noteUnadjusted (acc : Collected) (position : PnLPositionFact) : Collected :=
  (acc.addGap position.key).addReason
    ⟨"positions 실현손익은 수수료 반영 근거 없음", "POSITION_REALIZED_PNL_UNADJUSTED", position.key, "positions"⟩

/-- what an uncovered position leaves in the collection -/
def Collected.notePosition (acc : Collected) (position : PnLPositionFact) (hasFill : Bool) (requiredAt : Option Int)
    (late : Bool) (quantity : ℚ) : Collected :=
  let acc := acc.noteUnpriced position quantity
  let acc := if hasFill = false ∨ requiredAt ≠ none then acc.openWith position else acc
  let acc := if requiredAt ≠ none ∧ late then acc.blockLate position else acc
  let acc := if hasFill = false ∧ position.key ∉ acc.positionRealizedGapScopes then acc.noteUnadjusted position else acc
  { acc with fallbackPositions := acc.fallbackPositions ++ [position] }

/-- the position a RECOVERABLE reconcile fact is promoted to -/
def toPositionLike (reconcile : PnLReconcileFact) : PnLPositionFact :=
  { strategyId := reconcile.strategyId
    market := reconcile.market
    quantity := reconcile.quantity.getD "0"
    averageEntryPrice := reconcile.averageEntryPrice
    realizedPnl := "0"
    unrealizedPnl := none
    updatedAt := reconcile.reconciledAt
    source := "live_reconcile_position_snapshots:" ++ reconcile.averageEntrySource.getD "reconciled" }

section Calculate

variable [Host]

/-- the time of the first SELL the fills alone cannot cover, in execution order -/
def firstUnderflow (quantity : ℚ) : List PnLFillFact → Except Thrown (Option Int)
  | [] => pure none
  | fill :: rest => do
    let fillQuantity ← parseNonNegativeDecimal fill.quantity
    if fillQuantity = 0 then firstUnderflow quantity rest
    else
      match fill.side with
      | .buy => firstUnderflow (quantity + fillQuantity) rest
      | .sell =>
        if quantity < fillQuantity then some <$> toTime fill.filledAt
        else firstUnderflow (quantity - fillQuantity) rest

def findOpeningPositionSeedRequiredAt (fills : List PnLFillFact) (strategyId market : String) :
    Except Thrown (Option Int) := do
  let sorted ← sortFillsByExecutionTime (fills.filter (fun f => f.strategyId = strategyId ∧ f.market = market))
  firstUnderflow 0 sorted

/-- a seed source dated after the underflow is no opening lot; without an underflow its time is not read -/
def laterThan (requiredAt : Option Int) (time : TimestampInput) : Except Thrown Bool :=
  match requiredAt with
  | none => pure false
  | some required => do
    let t ← toTime time
    pure (decide (required < t))

def collectReconcile (input : PnLAccountingInput) (snapshots : List PnLSnapshotFact) (acc : Collected)
    (reconcile : PnLReconcileFact) : Except Thrown Collected :=
  if isSnapshotCovered snapshots reconcile.strategyId reconcile.market then pure acc
  else
    let hasFill := isFillCovered input.fills reconcile.strategyId reconcile.market
    if reconcile.recoveryStatus ≠ "RECOVERABLE" then
      if hasFill then pure acc
      else
        let reason : PnLMissingReason :=
          if reconcile.recoveryStatus = "MANUAL_REVIEW_REQUIRED" then
            ⟨"수동 검토 필요", "MANUAL_REVIEW_REQUIRED", reconcile.key, "live_reconcile_position_snapshots"⟩
          else ⟨"복구 가능 상태만 사용 가능", "RECOVERABLE_ONLY", reconcile.key, "live_reconcile_position_snapshots"⟩
        pure (acc.addReason reason).unknownReconcile
    else do
      let requiredAt ← findOpeningPositionSeedRequiredAt input.fills reconcile.strategyId reconcile.market
      if hasFill ∧ requiredAt = none then pure acc
      else if isPositionCovered input.positions reconcile.strategyId reconcile.market then pure acc
      else do
        let late ← laterThan requiredAt reconcile.reconciledAt
        if late then
          pure ((acc.block reconcile.key).addReason ⟨"체결 전 opening position 근거 없음",
            "FILL_OPENING_POSITION_SOURCE_MISSING", reconcile.key,
            "live_reconcile_position_snapshots"⟩).unknownReconcile
        else if reconcile.averageEntryPrice = none then
          pure (acc.addReason ⟨"평균단가 근거 없음", "AVERAGE_ENTRY_MISSING", reconcile.key,
            reconcile.averageEntrySource.getD "live_reconcile_position_snapshots"⟩).unknownReconcile
        else
          let acc := if reconcile.quantity = none then
              (acc.addReason ⟨"보유 수량 근거 없음", "POSITION_QUANTITY_MISSING", reconcile.key,
                "live_reconcile_position_snapshots"⟩).unknownReconcile
            else acc
          pure { acc with reconciledPositions := acc.reconciledPositions ++ [toPositionLike reconcile] }

def collectPosition (input : PnLAccountingInput) (snapshots : List PnLSnapshotFact) (acc : Collected)
    (position : PnLPositionFact) : Except Thrown Collected :=
  if isSnapshotCovered snapshots position.strategyId position.market then pure acc
  else do
    let hasFill := isFillCovered input.fills position.strategyId position.market
    let requiredAt ← findOpeningPositionSeedRequiredAt input.fills position.strategyId position.market
    let late ← laterThan requiredAt position.updatedAt
    let quantity ← parseNonNegativeDecimal position.quantity
    pure (acc.notePosition position hasFill requiredAt late quantity)

/-- what the first five sections leave behind -/
structure Replay where
  selection : SnapshotSelection
  totals : SnapshotTotals
  collected : Collected
  ledgerFills : List PnLFillFact
  opening : Ledger
  ledger : Ledger

/-- the fills no selected snapshot covers and no late seed blocks -/
def replayableFills (input : PnLAccountingInput) (snapshots : List PnLSnapshotFact) (blocked : List String) :
    List PnLFillFact :=
  input.fills.filter (fun f => isSnapshotCovered snapshots f.strategyId f.market = false ∧ f.key ∉ blocked)

def initialCollected (selection : SnapshotSelection) : Collected :=
  ⟨selection.missingReasons ++ extractSnapshotPayloadMissingReasons selection.snapshots, [], [], false, [], [], []⟩

def replay (input : PnLAccountingInput) : Except Thrown Replay := do
  let selection ← selectEffectiveSnapshots input.pnlSnapshots
  let totals ← summarizeSnapshots selection.snapshots
  let reconciled ← input.reconcileFacts.foldlM (collectReconcile input selection.snapshots) (initialCollected selection)
  let collected ← input.positions.foldlM (collectPosition input selection.snapshots) reconciled
  let ledgerFills ← sortFillsByExecutionTime
    (replayableFills input selection.snapshots collected.blockedFillReplayScopes)
  let opening ← openingLedger collected.reconciledPositions collected.openingSeedPositions
  let ledger ← applyFillsToLedger opening ledgerFills
  pure ⟨selection, totals, collected, ledgerFills, opening, ledger⟩

/-! ## Mark to market -/

def observedTimeOrUnknown (markPrice : PnLMarkPriceFact) : Except Thrown (Option Int) :=
  match markPrice.observedAt with
  | none => pure none
  | some observedAt => some <$> toTime observedAt

/-- the text holds `pattern` as a contiguous part -/
def includesText (pattern text : List Char) : Bool := text.tails.any (pattern.isPrefixOf ·)

def markPriceSourceRank (source : String) : ℕ :=
  let normalized := (Host.toLowerCase source).toList
  if includesText "bid".toList normalized then 2 else if includesText "last".toList normalized then 1 else 0

def createMarkPriceTieBreakKey (markPrice : PnLMarkPriceFact) : String :=
  JsonText.stringify [some markPrice.market, some markPrice.priceKrw, some markPrice.source]

/-- latest observation first, an unobserved price last; then the source's rank; then the tie-break key -/
def compareMarkPriceCandidate (left right : PnLMarkPriceFact) : Except Thrown Ordering := do
  let leftTime ← observedTimeOrUnknown left
  let rightTime ← observedTimeOrUnknown right
  pure ((compare leftTime rightTime).then
    ((compare (markPriceSourceRank left.source) (markPriceSourceRank right.source)).then
      (Host.localeCompare (createMarkPriceTieBreakKey left) (createMarkPriceTieBreakKey right))))

def recordMarkPrice (latestByMarket : InsertionMap String PnLMarkPriceFact) (markPrice : PnLMarkPriceFact) :
    Except Thrown (InsertionMap String PnLMarkPriceFact) :=
  keepLatest compareMarkPriceCandidate latestByMarket markPrice.market markPrice

/-- the parsed price of the kept observation of each market -/
abbrev MarkPrices := List (String × ℚ)

def buildMarkPriceMap (markPrices : List PnLMarkPriceFact) : Except Thrown MarkPrices := do
  let latestByMarket ← markPrices.foldlM recordMarkPrice InsertionMap.empty
  latestByMarket.entries.mapM (fun e => do
    let price ← parseNonNegativeDecimal e.2.priceKrw
    pure (e.1, price))

/-- the price of a market is decided by the observations of that market -/
theorem buildMarkPriceMap_get {marks : List PnLMarkPriceFact} {markPriceMap : MarkPrices}
    (h : buildMarkPriceMap marks = .ok markPriceMap) (market : String) :
    ∃ kept, pickPass compareMarkPriceCandidate none (marks.filter (·.market = market)) = .ok kept ∧
      assocGet markPriceMap market = kept.map (fun mp => (parseNonNegativeDecimal mp.priceKrw).toOption.getD 0) := by
  obtain ⟨latest, hlatest, hparse⟩ := bind_eq_ok.1 h
  refine ⟨latest.get market, (keepLatest_keeps _ PnLMarkPriceFact.market).pass_get hlatest market, ?_⟩
  obtain ⟨hmap, hok⟩ := mapM_eq_map ("", 0) hparse
  rw [hmap, InsertionMap.get, ← assocGet_map]
  congr 1
  refine List.map_congr_left fun e he => ?_
  obtain ⟨price, hprice, hpair⟩ := bind_eq_ok.1 (hok e he)
  simp [hprice, Except.toOption]

end Calculate

def displayMarket (market : String) : String := if market = "__aggregate__" then "" else market

def PositionLedger.markPrice (markPriceMap : MarkPrices) (pos : PositionLedger) : Option ℚ :=
  assocGet markPriceMap (displayMarket pos.market)

/-- the sum, unless one part is unknown -/
def sumKnown : List (Option ℚ) → Option ℚ
  | [] => some 0
  | part :: parts =>
    match part, sumKnown parts with
    | some x, some rest => some (x + rest)
    | _, _ => none

/-- the ledger's open positions, in insertion order -/
def Ledger.openEntries (ledger : Ledger) : List (String × PositionLedger) :=
  ledger.positions.entries.filter (fun e => e.2.quantity ≠ 0)

def computeLedgerMarketValueForExposure (ledger : Ledger) (markPriceMap : MarkPrices) : Option ℚ :=
  sumKnown (ledger.openEntries.map (fun e => (e.2.markPrice markPriceMap).map (e.2.quantity * ·)))

def exposureEquity (totalMarketValue cashKrw snapshotEquityKrw : Option ℚ) (hasTargetScopeFilter : Bool) : Option ℚ :=
  match totalMarketValue, snapshotEquityKrw, cashKrw with
  | none, _, _ => none
  | some _, some _, none => none
  | some value, some equity, some _ => some (equity + value)
  | some value, none, some cash => if hasTargetScopeFilter then none else some (cash + value)
  | some _, none, none => none

def positionDetail (markPriceMap : MarkPrices) (exposureEquityKrw : Option ℚ) (pos : PositionLedger) :
    PnLPositionDetail :=
  let averageEntryPrice := if 0 < pos.quantity ∧ 0 < pos.costBasisKrw then some (pos.costBasisKrw / pos.quantity)
    else pos.initialAverageEntryPrice
  let marketValueKrw := (pos.markPrice markPriceMap).map (pos.quantity * ·)
  let unrealizedPnlKrw :=
    match pos.markPrice markPriceMap, averageEntryPrice with
    | some markPrice, some average =>
      if 0 < pos.costBasisKrw then some (pos.quantity * markPrice - pos.costBasisKrw)
      else some (pos.quantity * markPrice - pos.quantity * average)
    | _, _ => pos.fallbackUnrealizedPnlKrw
  { strategyId := pos.strategyId
    market := displayMarket pos.market
    quantity := pos.quantity
    averageEntryPrice := averageEntryPrice
    marketValueKrw := marketValueKrw
    unrealizedPnlKrw := unrealizedPnlKrw
    exposureBps :=
      match marketValueKrw, exposureEquityKrw with
      | some value, some equity => if 0 < equity then some (value / equity * 10000) else none
      | _, _ => none }

/-- one detail per open ledger entry, under the entry's key -/
def calculatePositionDetails (ledger : Ledger) (markPriceMap : MarkPrices) (cashKrw snapshotEquityKrw : Option ℚ)
    (hasTargetScopeFilter : Bool) : List (String × PnLPositionDetail) :=
  let equity := exposureEquity (computeLedgerMarketValueForExposure ledger markPriceMap) cashKrw snapshotEquityKrw
    hasTargetScopeFilter
  ledger.openEntries.map (fun e => (e.1, positionDetail markPriceMap equity e.2))

def markPriceReasons (ledger : Ledger) (markPriceMap : MarkPrices) : List PnLMissingReason :=
  (ledger.openEntries.filter (fun e => (e.2.markPrice markPriceMap).isNone)).map (fun e =>
    ⟨"평가가 없음", "NO_MARK_PRICE",
      if e.2.market = "__aggregate__" then scopeKey e.2.strategyId none else e.1, "mark_prices"⟩)

def sumDecimalParts (parts : List (Bool × Option ℚ)) : Option ℚ :=
  let activeParts := parts.filter (·.1)
  if activeParts = [] then none else sumKnown (activeParts.map (·.2))

/-! ## Costs -/

def addMissingReasonOnce (missingReasons : List PnLMissingReason) (reason : PnLMissingReason) : List PnLMissingReason :=
  if missingReasons.any (fun r => r.reasonCode = reason.reasonCode ∧ r.scope = reason.scope ∧ r.source = reason.source)
  then missingReasons else missingReasons ++ [reason]

theorem addMissingReasonOnce_ne_nil (reasons : List PnLMissingReason) (reason : PnLMissingReason) :
    addMissingReasonOnce reasons reason ≠ [] := by
  unfold addMissingReasonOnce
  split_ifs with hany
  · rintro rfl
    simp at hany
  · simp

inductive QualityField where
  | spreadCostBps
  | slippageBps
  | cancelRequotePenaltyBps
deriving DecidableEq, Repr

def PnLCostQualityFact.field (fact : PnLCostQualityFact) : QualityField → Option String
  | .spreadCostBps => fact.spreadCostBps
  | .slippageBps => fact.slippageBps
  | .cancelRequotePenaltyBps => fact.cancelRequotePenaltyBps

/-- the observed value: present and not the empty text -/
def PnLCostQualityFact.observed (fact : PnLCostQualityFact) (field : QualityField) : Option String :=
  (fact.field field).filter (· ≠ "")

def hasCostQualityMetric (facts : List PnLCostQualityFact) (strategyId market : String) (field : QualityField) : Bool :=
  facts.any (fun fact => fact.strategyId = strategyId ∧ fact.market = market ∧ (fact.observed field).isSome)

def qualityReason (field : QualityField) (scope : String) : PnLMissingReason :=
  match field with
  | .spreadCostBps => ⟨"스프레드 비용 근거 없음", "SPREAD_COST_SOURCE_MISSING", scope, "cost_quality_facts"⟩
  | .slippageBps => ⟨"슬리피지 근거 없음", "SLIPPAGE_SOURCE_MISSING", scope, "cost_quality_facts"⟩
  | .cancelRequotePenaltyBps =>
    ⟨"취소/재호가 비용 근거 없음", "CANCEL_REQUOTE_SOURCE_MISSING", scope, "cost_quality_facts"⟩

def appendCostQualityMissingReasons (missingReasons : List PnLMissingReason) (requiredScopes : List (String × String))
    (facts : List PnLCostQualityFact) : List PnLMissingReason :=
  requiredScopes.foldl (fun reasons scope =>
    [QualityField.spreadCostBps, .slippageBps, .cancelRequotePenaltyBps].foldl (fun reasons field =>
      if hasCostQualityMetric facts scope.1 scope.2 field then reasons
      else addMissingReasonOnce reasons (qualityReason field (scopeKey scope.1 (some scope.2)))) reasons)
    missingReasons

section Calculate

variable [Host]

def addFee (feesByCurrency : InsertionMap String ℚ) (fill : PnLFillFact) : Except Thrown (InsertionMap String ℚ) := do
  let fee ← parseNonNegativeDecimal fill.fee
  pure (feesByCurrency.set fill.feeCurrency ((feesByCurrency.get fill.feeCurrency).getD 0 + fee))

def aggregateFeesByCurrency (fills : List PnLFillFact) : Except Thrown (InsertionMap String ℚ) :=
  fills.foldlM addFee InsertionMap.empty

def buildFeeTotals (feesByCurrency : InsertionMap String ℚ) : List PnLFeeTotal :=
  (stableSort (fun a b : String × ℚ => Host.localeCompare a.1 b.1) feesByCurrency.entries).map
    (fun e => ⟨e.1, e.2⟩)

def appendNonKrwFee (missingReasons : List PnLMissingReason) (fill : PnLFillFact) :
    Except Thrown (List PnLMissingReason) :=
  if fill.feeCurrency = "KRW" then pure missingReasons
  else do
    let fee ← parseNonNegativeDecimal fill.fee
    if fee = 0 then pure missingReasons
    else pure (addMissingReasonOnce missingReasons
      ⟨"비-KRW 수수료 KRW 환산 근거 없음", "NON_KRW_FEE_CONVERSION_MISSING", fill.key, "fills"⟩)

def appendNonKrwFeeMissingReasons (missingReasons : List PnLMissingReason) (fills : List PnLFillFact) :
    Except Thrown (List PnLMissingReason) :=
  fills.foldlM appendNonKrwFee missingReasons

def aggregateQualityMetric (facts : List PnLCostQualityFact) (field : QualityField) :
    Except Thrown PnLExecutionQualityMetric := do
  let values ← (facts.filterMap (·.observed field)).mapM parseFinancialDecimal
  if values = [] then pure ⟨none, false, 0, "unavailable"⟩
  else pure ⟨some (values.sum / values.length), true, values.length, "cost_quality_facts"⟩

/-- scope key to the strategy and market that need cost evidence; a later fact under the same key takes it over -/
abbrev Requirements := InsertionMap String (String × String)

def requireFill (requirements : Requirements) (fill : PnLFillFact) : Except Thrown Requirements := do
  let quantity ← parseNonNegativeDecimal fill.quantity
  if 0 < quantity then pure (requirements.set fill.key (fill.strategyId, fill.market)) else pure requirements

def requirePosition (requirements : Requirements) (position : PnLPositionFact) : Except Thrown Requirements := do
  let quantity ← parseNonNegativeDecimal position.quantity
  if 0 < quantity then pure (requirements.set position.key (position.strategyId, position.market))
  else pure requirements

def resolveCostQualityScopeRequirements (fills : List PnLFillFact)
    (fallbackPositions reconciledPositions : List PnLPositionFact) : Except Thrown (List (String × String)) := do
  let fromFills ← fills.foldlM requireFill InsertionMap.empty
  let requirements ← (fallbackPositions ++ reconciledPositions).foldlM requirePosition fromFills
  pure (stableSort (fun l r : String × String =>
    Host.localeCompare (scopeKey l.1 (some l.2)) (scopeKey r.1 (some r.2))) requirements.values)

end Calculate

/-! ## Scopes and status -/

def shouldIncludeOutputScope (targets : List TargetScope) (strategyId : String) (market : Option String) : Bool :=
  targets = [] || targets.any (fun t => t.strategyId = strategyId ∧ (t.market = none ∨ t.market = market))

def findOpenPositionsForScope (ledger : Ledger) (strategyId : String) (market : Option String) : List PositionLedger :=
  ledger.positions.values.filter (fun p =>
    p.strategyId = strategyId ∧ (market = none ∨ some p.market = market) ∧ 0 < p.quantity)

def hasMarkPriceFor (markPrices : List PnLMarkPriceFact) (market : String) : Bool :=
  markPrices.any (fun mp => mp.market = market)

/-- the aggregate scope of every strategy that filled, then the filled markets -/
def resolveFillScopes (fills : List PnLFillFact) : InsertionMap String (String × Option String) :=
  fills.foldl (fun scopes f => scopes.set f.key (f.strategyId, some f.market))
    (fills.foldl (fun scopes f => scopes.set (scopeKey f.strategyId none) (f.strategyId, none)) InsertionMap.empty)

structure ScopeAcc where
  scopes : List PnLAccountingScope
  seenScopes : List String

def ScopeAcc.add (acc : ScopeAcc) (key : String) (scope : PnLAccountingScope) : ScopeAcc :=
  ⟨acc.scopes ++ [scope], acc.seenScopes ++ [key]⟩

def addSnapshotScope (input : PnLAccountingInput) (acc : ScopeAcc) (s : PnLSnapshotFact) : Except Thrown ScopeAcc :=
  let key := scopeKey s.strategyId s.market
  if shouldIncludeOutputScope input.targets s.strategyId s.market = false ∨ key ∈ acc.seenScopes then pure acc
  else do
    let capturedAt ← toTime s.capturedAt
    pure (acc.add key ⟨s.strategyId, s.market, capturedAt, .pnlSnapshots, resolveSnapshotStatus s⟩)

/-- a reconcile fact that needs review claims its scope before any source that could calculate it -/
def addReviewScope (input : PnLAccountingInput) (snapshots : List PnLSnapshotFact) (fills : List PnLFillFact)
    (acc : ScopeAcc) (r : PnLReconcileFact) : Except Thrown ScopeAcc :=
  if shouldIncludeOutputScope input.targets r.strategyId (some r.market) = false ∨ r.key ∈ acc.seenScopes ∨
      isSnapshotCovered snapshots r.strategyId r.market ∨ isFillCovered fills r.strategyId r.market ∨
      r.recoveryStatus = "RECOVERABLE" then pure acc
  else do
    let capturedAt ← toTime r.reconciledAt
    pure (acc.add r.key
      ⟨r.strategyId, some r.market, capturedAt, .liveReconcilePositionSnapshots, .manualReviewRequired⟩)

def resolveFillScopeCapturedAt (fills : List PnLFillFact) (strategyId : String) (market : Option String)
    (fallbackCapturedAt : Int) : Except Thrown Int := do
  let sourceTimes ← (fills.filter (fun f => f.strategyId = strategyId ∧ (market = none ∨ some f.market = market))).mapM
    (fun f => toTime f.filledAt)
  pure (sourceTimes.max?.getD fallbackCapturedAt)

def addFillScope (input : PnLAccountingInput) (fills : List PnLFillFact) (ledger : Ledger) (capturedAt : Int)
    (acc : ScopeAcc) (entry : String × String × Option String) : Except Thrown ScopeAcc :=
  let (key, strategyId, market) := entry
  if shouldIncludeOutputScope input.targets strategyId market = false ∨ key ∈ acc.seenScopes then pure acc
  else do
    let openPositions := findOpenPositionsForScope ledger strategyId market
    let hasMarkPrice := openPositions.all (fun p => hasMarkPriceFor input.markPrices p.market)
    let scopeCapturedAt ← resolveFillScopeCapturedAt fills strategyId market capturedAt
    pure (acc.add key ⟨strategyId, market, scopeCapturedAt, .fills,
      if openPositions ≠ [] ∧ hasMarkPrice = false then .partialResult else .calculated⟩)

section Calculate

variable [Host]

def hasOpenQuantity : Option String → Except Thrown Bool
  | none => pure false
  | some quantity => do
    let q ← parseNonNegativeDecimal quantity
    pure (decide (0 < q))

def addRecoverableScope (input : PnLAccountingInput) (snapshots : List PnLSnapshotFact) (acc : ScopeAcc)
    (r : PnLReconcileFact) : Except Thrown ScopeAcc :=
  if shouldIncludeOutputScope input.targets r.strategyId (some r.market) = false ∨ r.key ∈ acc.seenScopes ∨
      isSnapshotCovered snapshots r.strategyId r.market ∨ r.recoveryStatus ≠ "RECOVERABLE" ∨
      isPositionCovered input.positions r.strategyId r.market then pure acc
  else do
    let hasOpenReconcileQuantity ← hasOpenQuantity r.quantity
    let status : PnLAccountingStatus :=
      if r.averageEntryPrice = none then .manualReviewRequired
      else if r.quantity = none ∨ (hasOpenReconcileQuantity ∧ hasMarkPriceFor input.markPrices r.market = false) then
        .partialResult
      else .calculated
    let capturedAt ← toTime r.reconciledAt
    pure (acc.add r.key ⟨r.strategyId, some r.market, capturedAt, .liveReconcilePositionSnapshots, status⟩)

def addPositionScope (input : PnLAccountingInput) (snapshots : List PnLSnapshotFact) (acc : ScopeAcc)
    (p : PnLPositionFact) : Except Thrown ScopeAcc :=
  if shouldIncludeOutputScope input.targets p.strategyId (some p.market) = false ∨ p.key ∈ acc.seenScopes ∨
      isSnapshotCovered snapshots p.strategyId p.market then pure acc
  else do
    let quantity ← parseNonNegativeDecimal p.quantity
    let status : PnLAccountingStatus :=
      if ¬ 0 < quantity ∨ (p.averageEntryPrice ≠ none ∧ hasMarkPriceFor input.markPrices p.market) then .calculated
      else .partialResult
    let capturedAt ← toTime p.updatedAt
    pure (acc.add p.key ⟨p.strategyId, some p.market, capturedAt, .positions, status⟩)

def buildScopes (input : PnLAccountingInput) (snapshots : List PnLSnapshotFact) (fills : List PnLFillFact)
    (ledger : Ledger) (capturedAt : Int) : Except Thrown (List PnLAccountingScope) := do
  let acc ← snapshots.foldlM (addSnapshotScope input) ⟨[], []⟩
  let acc ← input.reconcileFacts.foldlM (addReviewScope input snapshots fills) acc
  let acc ← (resolveFillScopes fills).entries.foldlM (addFillScope input fills ledger capturedAt) acc
  let acc ← input.reconcileFacts.foldlM (addRecoverableScope input snapshots) acc
  let acc ← input.positions.foldlM (addPositionScope input snapshots) acc
  pure (if acc.scopes = [] then [⟨"global", none, capturedAt, .unavailable, .unavailable⟩] else acc.scopes)

end Calculate

def determineStatus (scopes : List PnLAccountingScope) (missingReasons : List PnLMissingReason)
    (input : PnLAccountingInput) : PnLAccountingStatus :=
  if scopes = [] then .unavailable
  else if scopes.any (·.status = .manualReviewRequired) then .manualReviewRequired
  else if scopes.any (·.status = .unavailable) ∧ missingReasons ≠ [] then .unavailable
  else if scopes.any (·.status = .partialResult) then .partialResult
  else if missingReasons ≠ [] then .partialResult
  else if scopes.all (·.status = .calculated) then .calculated
  else if input.fills ≠ [] ∨ input.positions ≠ [] ∨ input.pnlSnapshots ≠ [] ∨ input.reconcileFacts ≠ [] then
    .partialResult
  else .unavailable

/-- every source timestamp, in the order the source reads them -/
def sourceTimestamps (input : PnLAccountingInput) : List TimestampInput :=
  input.fills.map (·.filledAt) ++ input.positions.map (·.updatedAt) ++
    (input.markPrices.filterMap (·.observedAt)).filter (·.truthy) ++ input.pnlSnapshots.map (·.capturedAt) ++
    (input.cash.map (·.observedAt)).toList.filter (·.truthy) ++ input.reconcileFacts.map (·.reconciledAt)

def findLastSourceTimestamp (input : PnLAccountingInput) : Except Thrown (Option Int) := do
  let timestamps ← (sourceTimestamps input).mapM toTime
  pure timestamps.max?

def resolveCalculationCapturedAt (input : PnLAccountingInput) : Except Thrown Int :=
  match input.capturedAt.or (input.trace.bind (·.lastSourceTimestamp)) with
  | some timestamp => toTime timestamp
  | none => do
    let last ← findLastSourceTimestamp input
    pure (last.getD 0)

def buildTrace (input : PnLAccountingInput) (snapshotFacts : List PnLSnapshotFact) : Except Thrown PnLTrace := do
  let given := input.trace.getD ⟨none, none, none, none⟩
  let tables := (if input.fills = [] then [] else ["fills"]) ++
    (if snapshotFacts = [] then [] else ["pnl_snapshots"]) ++
    (if input.positions = [] then [] else ["positions"]) ++
    (if input.reconcileFacts = [] then [] else ["live_reconcile_position_snapshots"])
  let last ← findLastSourceTimestamp input
  pure { given with
    sourceTables := if tables = [] then given.sourceTables else some tables
    lastSourceTimestamp := (last.map TimestampInput.at).or given.lastSourceTimestamp }

def resolveTargetScopeReasonScope (targets : List TargetScope) : String :=
  match targets with
  | [target] => scopeKey target.strategyId target.market
  | _ => "global"

/-! ## The calculation -/

/-- the amounts of sections 6 to 8, with the missing reasons they add -/
structure Valuation where
  cashKrw : Option ℚ
  details : List (String × PnLPositionDetail)
  positionMarketValueKrw : Option ℚ
  realizedPnlKrw : Option ℚ
  unrealizedPnlKrw : Option ℚ
  totalPnlKrw : Option ℚ
  equityKrw : Option ℚ
  missingReasons : List PnLMissingReason

def noCashSource : PnLMissingReason := ⟨"현금 정보 없음", "NO_CASH_SOURCE", "global", "cash"⟩

/-- sections 7 and 8: amounts from the ledger, the marks and the cash -/
def valuate (input : PnLAccountingInput) (r : Replay) (cashKrw : Option ℚ) (markPriceMap : MarkPrices) : Valuation :=
  let hasTargetScopeFilter := decide (input.targets ≠ [])
  let snapshotFacts := r.selection.snapshots
  let reasons := r.collected.missingReasons ++
    (if cashKrw = none ∧ r.totals.equityKrw = none then [noCashSource] else [])
  let details := calculatePositionDetails r.ledger markPriceMap cashKrw r.totals.equityKrw hasTargetScopeFilter
  let reasons := reasons ++ markPriceReasons r.ledger markPriceMap
  let hasUnquantifiedReconcile := r.collected.hasUnknownReconcilePosition
  let hasLedgerPositionDetails := decide (details ≠ [])
  let positionMarketValueKrw :=
    if hasUnquantifiedReconcile then none
    else if snapshotFacts ≠ [] ∧ hasLedgerPositionDetails = false then none
    else sumKnown (details.map (·.2.marketValueKrw))
  let ledgerUnrealizedPnlKrw :=
    if hasUnquantifiedReconcile then none else sumKnown (details.map (·.2.unrealizedPnlKrw))
  let hasReconcileQuantityEvidence := decide (r.collected.reconciledPositions ≠ []) && !hasUnquantifiedReconcile
  let hasLedgerTradingData :=
    decide (r.ledgerFills ≠ []) || decide (r.collected.fallbackPositions ≠ []) || hasReconcileQuantityEvidence
  let hasSnapshots := decide (snapshotFacts ≠ [])
  let realizedPnlKrw :=
    if hasUnquantifiedReconcile ∨ r.collected.positionRealizedGapScopes ≠ [] then none
    else sumDecimalParts
      [(hasSnapshots, r.totals.realizedPnlKrw), (hasLedgerTradingData, some r.ledger.realizedPnlKrw)]
  let unrealizedPnlKrw :=
    if hasUnquantifiedReconcile then none
    else sumDecimalParts
      [(hasSnapshots, r.totals.unrealizedPnlKrw), (hasLedgerTradingData, ledgerUnrealizedPnlKrw)]
  let hasMixedSourceCashGap := decide (r.totals.equityKrw ≠ none) && decide (cashKrw = none) &&
    decide (positionMarketValueKrw ≠ none) && hasLedgerPositionDetails
  let reasons := if hasMixedSourceCashGap then addMissingReasonOnce reasons noCashSource else reasons
  let hasScopedCashAllocationGap := hasTargetScopeFilter && decide (r.totals.equityKrw = none) &&
    decide (cashKrw ≠ none) && decide (positionMarketValueKrw ≠ none)
  let reasons := if hasScopedCashAllocationGap then addMissingReasonOnce reasons
      ⟨"scope별 현금 배분 근거 없음", "SCOPED_CASH_SOURCE_MISSING", resolveTargetScopeReasonScope input.targets, "cash"⟩
    else reasons
  let equityKrw :=
    if hasMixedSourceCashGap || hasScopedCashAllocationGap then none
    else
      match r.totals.equityKrw, positionMarketValueKrw, cashKrw with
      | some equity, none, _ => if hasLedgerPositionDetails || hasUnquantifiedReconcile then none else some equity
      | some equity, some value, _ => some (equity + value)
      | none, some value, some cash => some (cash + value)
      | none, _, _ => none
  -- with no trading data at all the amounts stay unknown: zero and unknown are told apart
  let hasTradingData := decide (r.ledgerFills ≠ []) || decide (r.collected.fallbackPositions ≠ []) || hasSnapshots ||
    hasReconcileQuantityEvidence
  let totalPnlKrw :=
    match realizedPnlKrw, unrealizedPnlKrw with
    | some realized, some unrealized => some (realized + unrealized)
    | _, _ => none
  { cashKrw := cashKrw
    details := details
    positionMarketValueKrw := positionMarketValueKrw
    realizedPnlKrw := if hasTradingData then realizedPnlKrw else none
    unrealizedPnlKrw := if hasTradingData then unrealizedPnlKrw else none
    totalPnlKrw := if hasTradingData then totalPnlKrw else none
    equityKrw := equityKrw
    missingReasons := reasons }

theorem valuate_details (input : PnLAccountingInput) (r : Replay) (cashKrw : Option ℚ) (marks : MarkPrices) :
    (valuate input r cashKrw marks).details
      = calculatePositionDetails r.ledger marks cashKrw r.totals.equityKrw (decide (input.targets ≠ [])) := rfl

/-- an unknown reconcile position and a position without its own realised evidence both suppress the realised PnL -/
theorem valuate_realized_some {input : PnLAccountingInput} {r : Replay} {cashKrw : Option ℚ} {marks : MarkPrices}
    {x : ℚ} (h : (valuate input r cashKrw marks).realizedPnlKrw = some x) :
    r.collected.hasUnknownReconcilePosition = false ∧ r.collected.positionRealizedGapScopes = [] := by
  by_contra hc
  have hgap : r.collected.hasUnknownReconcilePosition ∨ r.collected.positionRealizedGapScopes ≠ [] := by
    rw [not_and_or] at hc
    exact hc.imp (by simp) id
  have hnone : (valuate input r cashKrw marks).realizedPnlKrw = none := by
    unfold valuate
    simp only [if_pos hgap, ite_self]
  rw [hnone] at h
  cases h

section Calculate

variable [Host]

def cashTotal : Option PnLCashFact → Except Thrown (Option ℚ)
  | none => pure none
  | some cash => some <$> parseFinancialDecimal cash.totalKrw

/-- the output record -/
def report (input : PnLAccountingInput) (v : Valuation) (fees : InsertionMap String ℚ)
    (reasons : List PnLMissingReason) (spreadCost slippage cancelRequote : PnLExecutionQualityMetric)
    (scopes : List PnLAccountingScope) (trace : PnLTrace) : PnLAccountingOutput where
  scopes := scopes
  status := determineStatus scopes reasons input
  realizedPnlKrw := v.realizedPnlKrw
  unrealizedPnlKrw := v.unrealizedPnlKrw
  totalPnlKrw := v.totalPnlKrw
  cashKrw := v.cashKrw
  positionMarketValueKrw := v.positionMarketValueKrw
  equityKrw := v.equityKrw
  positions := v.details.map (·.2)
  feeTotals := buildFeeTotals fees
  spreadCost := spreadCost
  slippage := slippage
  cancelRequote := cancelRequote
  missingReasons := reasons
  trace := trace

/-- sections 6 to 11, with the ledger keys of the position details beside the output -/
def assemble (input : PnLAccountingInput) (r : Replay) : Except Thrown (Valuation × PnLAccountingOutput) := do
  let cashKrw ← cashTotal input.cash
  let markPriceMap ← buildMarkPriceMap input.markPrices
  let v := valuate input r cashKrw markPriceMap
  let fees ← aggregateFeesByCurrency input.fills
  let reasons ← appendNonKrwFeeMissingReasons v.missingReasons input.fills
  let spreadCost ← aggregateQualityMetric input.costQuality .spreadCostBps
  let slippage ← aggregateQualityMetric input.costQuality .slippageBps
  let cancelRequote ← aggregateQualityMetric input.costQuality .cancelRequotePenaltyBps
  let requirements ← resolveCostQualityScopeRequirements input.fills r.collected.fallbackPositions
    r.collected.reconciledPositions
  let reasons := appendCostQualityMissingReasons reasons requirements input.costQuality
  let capturedAt ← resolveCalculationCapturedAt input
  let scopes ← buildScopes input r.selection.snapshots r.ledgerFills r.ledger capturedAt
  let trace ← buildTrace input r.selection.snapshots
  pure (v, report input v fees reasons spreadCost slippage cancelRequote scopes trace)

/-- the calculation on the facts of the requested scopes, with its intermediate results -/
def calculate (input : PnLAccountingInput) : Except Thrown (Replay × Valuation × PnLAccountingOutput) := do
  let r ← replay input
  let (v, out) ← assemble input r
  pure (r, v, out)

def calculatePnLAccounting (input : PnLAccountingInput) : Except Thrown PnLAccountingOutput :=
  (·.2.2) <$> calculate (applyTargetScopeFilter input)

end Calculate

end SeeMirai.Pnl
