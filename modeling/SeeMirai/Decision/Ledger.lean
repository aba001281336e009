/-
The decision ledger (application/decision-ledger/frame-builder.ts): the trace of a run is grouped by frame and by
strategy, each group becomes a ledger frame with a category of its own, and each of its records an evidence item.
`FRAME_RECEIVED` is copied into every group of its frame, and a frame whose strategies all held gets one more frame,
without evidence, for the cash summary.

The metadata of a record is the one the runner writes. The digest of a fingerprint and the reading of the clock are
parameters; the moments are kept as the trace has them.

Results:
- `groups_perm`: the evidence of all groups together is the trace, its `FRAME_RECEIVED` records apart.
- `category_executed_iff`: a group is EXECUTED exactly where one of its records counts as a fill.
- `ledger_placed`: every other record is one evidence item, in the frame of its own frame id and strategy id.
- `ledger_executed_iff`: a frame is EXECUTED where a record of it counts as a fill.
-/
import SeeMirai.Decision.Runner
import SeeMirai.Lib.Grouping
import SeeMirai.Lib.StableSort

namespace SeeMirai.Decision

open Grouping Execution

/-! ## Categories (application/decision-ledger/category.ts) -/

inductive DecisionFrameCategory where
  | buy
  | sell
  | hold
  | cashHold
  | discard
  | costRejected
  | riskRejected
  | executionRejected
  | executed
deriving DecidableEq, Repr

inductive SummaryStatus where
  | recorded
  | partialEvidence
  | unavailable
  | explanationFailed
deriving DecidableEq, Repr

/-- the evidence kinds that a trace record can have -/
inductive EvidenceKind where
  | strategyDecision
  | orderIntent
  | discardReason
  | costBreakdown
  | riskDecision
  | executionResult
deriving DecidableEq, Repr

def sideCategory : OrderSide → DecisionFrameCategory
  | .buy => .buy
  | .sell => .sell

/-! ## Reading a record -/

def TraceRecord.isCostRejected (record : TraceRecord) : Bool :=
  record.metadata.tradeAllowed = some false ∨ record.status = "REJECT" ∨ record.status = "REJECTED"

def TraceRecord.isRiskRejected (record : TraceRecord) : Bool :=
  record.metadata.approved = some false ∨ record.status = "FAIL" ∨ record.status = "REJECTED"

def TraceRecord.isExecutionRejected (record : TraceRecord) : Bool :=
  record.status = "REJECTED" ∨ record.metadata.brokerOrderStatus = some .rejected

/-- a decimal text that `Number` reads as a positive finite double: it is not rounded to zero, nor to infinity -/
def isPositiveQuantity (quantity : Option ℚ) : Bool :=
  quantity.any fun q => (1 : ℚ) / 2 ^ 1075 < q ∧ q < 2 ^ 1024 - 2 ^ 970

/-- a record that `computeGroupMetric` counts as a fill -/
def TraceRecord.isPaperFill (record : TraceRecord) : Bool :=
  record.stage = .executionResult ∧ (record.status = "SUBMITTED" ∨ record.status = "FILLED") ∧
    isPositiveQuantity record.metadata.filledQuantity

def resolveTraceIntentSide (record : TraceRecord) : DecisionFrameCategory :=
  (record.metadata.intentSide.map sideCategory).getD .hold

def resolveConversionDirection (record : TraceRecord) : DecisionFrameCategory :=
  ((record.metadata.intentDirections.bind List.head?).map sideCategory).getD .hold

/-! ## Group metrics -/

structure PerFrameMetric where
  costRejectedCount : ℕ
  riskRejectedCount : ℕ
  executionRejectedCount : ℕ
  paperOrderSubmittedCount : ℕ
  paperFillCount : ℕ
deriving DecidableEq

def countRecord (metric : PerFrameMetric) (record : TraceRecord) : PerFrameMetric :=
  match record.stage with
  | .costDecision =>
    if record.isCostRejected then { metric with costRejectedCount := metric.costRejectedCount + 1 } else metric
  | .riskDecision =>
    if record.isRiskRejected then { metric with riskRejectedCount := metric.riskRejectedCount + 1 } else metric
  | .executionResult =>
    let metric :=
      if record.isExecutionRejected then { metric with executionRejectedCount := metric.executionRejectedCount + 1 }
      else metric
    if record.status = "SUBMITTED" ∨ record.status = "FILLED" then
      let metric := { metric with paperOrderSubmittedCount := metric.paperOrderSubmittedCount + 1 }
      -- the status of the broker order is not asked here
      if isPositiveQuantity record.metadata.filledQuantity then
        { metric with paperFillCount := metric.paperFillCount + 1 }
      else metric
    else metric
  | _ => metric

def computeGroupMetric (trace : List TraceRecord) : PerFrameMetric := trace.foldl countRecord ⟨0, 0, 0, 0, 0⟩

abbrev ReasonCounts := InsertionMap String ℕ

def incrementReason (target : ReasonCounts) (reasonCode : String) : ReasonCounts :=
  target.set reasonCode ((target.get reasonCode).getD 0 + 1)

structure GroupReasonCounts where
  reasonCounts : ReasonCounts
  holdReasonCounts : ReasonCounts
  discardReasonCounts : ReasonCounts

def GroupReasonCounts.reason (counts : GroupReasonCounts) (reason : String) : GroupReasonCounts :=
  { counts with reasonCounts := incrementReason counts.reasonCounts reason }

def GroupReasonCounts.hold (counts : GroupReasonCounts) (reason : String) : GroupReasonCounts :=
  { counts.reason reason with holdReasonCounts := incrementReason counts.holdReasonCounts reason }

def GroupReasonCounts.discard (counts : GroupReasonCounts) (reason : String) : GroupReasonCounts :=
  { counts.reason reason with discardReasonCounts := incrementReason counts.discardReasonCounts reason }

def countReasons (counts : GroupReasonCounts) (record : TraceRecord) : GroupReasonCounts :=
  match record.stage with
  | .strategyDecision =>
    if record.status = "HOLD" then counts.hold (record.reasonCode.getD "unknown_hold")
    else if record.status = "BLOCK" then counts.discard (record.reasonCode.getD "strategy_blocked")
    else counts
  | .orderIntentConversion =>
    if record.status = "REJECTED" ∨ record.status = "DISCARDED" then
      counts.discard (record.reasonCode.getD "order_intent_discarded")
    else counts
  | .costDecision => if record.isCostRejected then counts.reason (record.reasonCode.getD "cost_rejected") else counts
  | .riskDecision =>
    if record.isRiskRejected then
      match record.metadata.failedReasonCodes.getD [] with
      | [] => counts.reason (record.reasonCode.getD "risk_rejected")
      | failedReasons => failedReasons.foldl GroupReasonCounts.reason counts
    else counts
  | .executionResult =>
    if record.isExecutionRejected then counts.discard (record.reasonCode.getD "execution_rejected") else counts
  | .frameReceived => counts

def computeGroupReasonCounts (trace : List TraceRecord) : GroupReasonCounts :=
  trace.foldl countReasons ⟨InsertionMap.empty, InsertionMap.empty, InsertionMap.empty⟩

/-! ## Category -/

/-- the first that applies of: a fill, a refusal by the engine or the broker, one by the RiskGate, one for the costs, a
discard, a hold, the direction of the last strategy decision; every frame is RECORDED -/
def resolveFrameCategory (strategyId : Option String) (trace : List TraceRecord) (metric : PerFrameMetric)
    (counts : GroupReasonCounts) : DecisionFrameCategory × SummaryStatus :=
  if 0 < metric.paperFillCount then (.executed, .recorded)
  else if 0 < metric.executionRejectedCount then (.executionRejected, .recorded)
  else if 0 < metric.riskRejectedCount then (.riskRejected, .recorded)
  else if 0 < metric.costRejectedCount then (.costRejected, .recorded)
  else if counts.discardReasonCounts.keys ≠ [] then (.discard, .recorded)
  else if counts.holdReasonCounts.keys ≠ [] then
    if strategyId.isNone ∧ trace.all (fun record => record.stage ≠ .strategyDecision ∨ record.status = "HOLD") then
      (.cashHold, .recorded)
    else (.hold, .recorded)
  else
    match (trace.filter (fun record => record.stage = .strategyDecision)).getLast? with
    | some lastDecision =>
      if lastDecision.status = "BUY" then (.buy, .recorded)
      else if lastDecision.status = "SELL" then (.sell, .recorded)
      else if lastDecision.status = "ORDER_INTENT" then (resolveConversionDirection lastDecision, .recorded)
      else (.cashHold, .recorded)
    | none => (.cashHold, .recorded)

/-! ## Evidence -/

def mapTraceStageToEvidenceKind (record : TraceRecord) : Option EvidenceKind :=
  match record.stage with
  | .strategyDecision => some .strategyDecision
  | .orderIntentConversion =>
    if record.status = "REJECTED" ∨ record.status = "DISCARDED" then some .discardReason else some .orderIntent
  | .costDecision => some .costBreakdown
  | .riskDecision => some .riskDecision
  | .executionResult => some .executionResult
  | .frameReceived => none

def mapTraceStatusToCategory (record : TraceRecord) : DecisionFrameCategory :=
  match record.stage with
  | .strategyDecision =>
    if record.status = "BUY" then .buy
    else if record.status = "SELL" then .sell
    else if record.status = "HOLD" then .hold
    else if record.status = "ORDER_INTENT" then resolveConversionDirection record
    else .discard
  | .orderIntentConversion =>
    if record.status = "REJECTED" ∨ record.status = "DISCARDED" then .discard else resolveConversionDirection record
  | .costDecision => if record.isCostRejected then .costRejected else resolveTraceIntentSide record
  | .riskDecision => if record.isRiskRejected then .riskRejected else resolveTraceIntentSide record
  | .executionResult =>
    if record.isExecutionRejected then .executionRejected
    else if record.status = "FILLED" ∨ isPositiveQuantity record.metadata.filledQuantity then .executed
    else resolveTraceIntentSide record
  | .frameReceived => .hold

def toDefaultEvidenceMessage : EvidenceKind → String
  | .strategyDecision => "전략 판단이 생성되었습니다."
  | .orderIntent => "주문 후보가 생성되었습니다."
  | .discardReason => "주문 후보가 폐기되었습니다."
  | .costBreakdown => "비용 평가가 완료되었습니다."
  | .riskDecision => "리스크 평가가 완료되었습니다."
  | .executionResult => "실행 결과가 기록되었습니다."

def stageText : TraceStage → String
  | .frameReceived => "FRAME_RECEIVED"
  | .strategyDecision => "STRATEGY_DECISION"
  | .orderIntentConversion => "ORDER_INTENT_CONVERSION"
  | .costDecision => "COST_DECISION"
  | .riskDecision => "RISK_DECISION"
  | .executionResult => "EXECUTION_RESULT"

def resolveStableEvidenceMetadataPart (record : TraceRecord) : String :=
  match record.metadata.brokerOrderId with
  | some brokerOrderId => if 0 < (trim brokerOrderId).length then brokerOrderId else directionsPart
  | none => directionsPart
where
  directionsPart : String :=
    match record.metadata.intentDirections.getD [] with
    | [] => "no-stable-metadata"
    | directions => ",".intercalate (directions.map sideText)

structure BuildEvidenceOptions where
  frameDedupeKey : String
  sourceFrameId : String
  stageOccurrenceIndex : ℕ

structure DecisionEvidenceItem where
  evidenceKind : EvidenceKind
  category : DecisionFrameCategory
  reasonCode : Option String
  userMessage : String
  occurredAt : MarketTimestamp
  source : String
  sourceId : String
  payload : TraceStage × String × String × TraceMetadata
  evidenceFingerprint : String
  stageOccurrenceIndex : ℕ
  dedupeKeyPrefix : String

/-- `sha256` is the digest as hexadecimal text -/
def buildEvidenceItem (sha256 : String → String) (record : TraceRecord) (options : BuildEvidenceOptions) :
    Option DecisionEvidenceItem :=
  (mapTraceStageToEvidenceKind record).map fun evidenceKind =>
    let fingerprintSeed := options.frameDedupeKey ++ ":evidence:" ++ record.strategyId.getD "no-strategy" ++ ":"
      ++ stageText record.stage ++ ":" ++ record.frameId ++ ":" ++ record.reasonCode.getD "no-reason" ++ ":"
      ++ resolveStableEvidenceMetadataPart record ++ ":" ++ toString options.stageOccurrenceIndex
    { evidenceKind := evidenceKind
      category := mapTraceStatusToCategory record
      reasonCode := record.reasonCode
      userMessage := record.message.getD (toDefaultEvidenceMessage evidenceKind)
      occurredAt := record.observedAt
      source := record.strategyId.getD "paper-decision-runner"
      sourceId := record.strategyId.getD record.frameId
      payload := (record.stage, record.status, record.frameId, record.metadata)
      evidenceFingerprint := "fp-" ++ sha256 fingerprintSeed
      stageOccurrenceIndex := options.stageOccurrenceIndex
      dedupeKeyPrefix := options.frameDedupeKey }

/-! ## Groups -/

structure TraceFlowGroup where
  frameId : String
  strategyId : Option String
  trace : List TraceRecord
  evidenceTrace : Option (List TraceRecord)

def collectStrategyIds (trace : List TraceRecord) : List String := firstSeen (trace.filterMap (·.strategyId))

def TraceRecord.isTradeStage (record : TraceRecord) : Bool :=
  record.stage = .orderIntentConversion ∨ record.stage = .costDecision ∨ record.stage = .riskDecision ∨
    record.stage = .executionResult

/-- every strategy of the frame held, and nothing else happened -/
def shouldCreateCashHoldAggregate (frameTrace : List TraceRecord) (strategyIds : List String) : Bool :=
  let strategyDecisionRecords := frameTrace.filter (fun record => record.stage = .strategyDecision)
  strategyIds ≠ [] ∧ strategyDecisionRecords ≠ [] ∧
    strategyIds.all (fun strategyId => strategyDecisionRecords.any (fun record =>
      record.strategyId = some strategyId ∧ record.status = "HOLD")) ∧
    strategyDecisionRecords.all (fun record => record.status = "HOLD") ∧
    frameTrace.all (fun record => record.isTradeStage = false)

def createCashHoldAggregateTrace (frameTrace : List TraceRecord) : List TraceRecord :=
  frameTrace.filter (fun record =>
    record.stage = .frameReceived ∨ (record.stage = .strategyDecision ∧ record.status = "HOLD"))

/-- a record without strategy that is no `FRAME_RECEIVED` belongs to the frame's only strategy, else to none -/
def TraceRecord.isAmbiguous (record : TraceRecord) : Bool := record.strategyId.isNone ∧ record.stage ≠ .frameReceived

def TraceRecord.isContext (record : TraceRecord) : Bool := record.strategyId.isNone ∧ record.stage = .frameReceived

def strategyFlow (frameTrace : List TraceRecord) (includeAmbiguousInStrategy : Bool) (strategyId : String) :
    List TraceRecord :=
  frameTrace.filter (fun record => record.strategyId = some strategyId ∨
    (record.strategyId = none ∧ (record.stage = .frameReceived ∨ includeAmbiguousInStrategy)))

def groupSingleFrameTrace (frameId : String) (frameTrace : List TraceRecord) : List TraceFlowGroup :=
  let strategyIds := collectStrategyIds frameTrace
  if strategyIds = [] then [⟨frameId, none, frameTrace, none⟩]
  else
    let includeAmbiguousInStrategy : Bool := strategyIds.length = 1
    let ambiguousRecords := frameTrace.filter TraceRecord.isAmbiguous
    strategyIds.map (fun strategyId =>
        ⟨frameId, some strategyId, strategyFlow frameTrace includeAmbiguousInStrategy strategyId, none⟩) ++
      (if includeAmbiguousInStrategy = false ∧ ambiguousRecords ≠ [] then
        [⟨frameId, none, frameTrace.filter TraceRecord.isContext ++ ambiguousRecords, none⟩] else []) ++
      (if shouldCreateCashHoldAggregate frameTrace strategyIds then
        [⟨frameId, none, createCashHoldAggregateTrace frameTrace, some []⟩] else [])

def groupTraceByFrameAndStrategy (trace : List TraceRecord) : List TraceFlowGroup :=
  (groupBy (·.frameId) trace).entries.flatMap fun entry => groupSingleFrameTrace entry.1 entry.2

/-! ## Frames -/

def resolveMarket (trace : List TraceRecord) : Option String := trace.findSome? (·.metadata.market)

def resolveCorrelationId (trace : List TraceRecord) : Option String :=
  trace.findSome? fun record => if record.stage = .executionResult then record.metadata.brokerOrderId else none

/-- the side of the latest record that has one; the runner writes no position effect -/
def resolveGroupIntentSide (trace : List TraceRecord) : Option OrderSide :=
  trace.reverse.findSome? fun record =>
    record.metadata.intentSide.or (record.metadata.intentDirections.bind List.head?)

def buildFrameDedupeKey (dedupeKeyPrefix sourceFrameId : String) (strategyId : Option String) : String :=
  dedupeKeyPrefix ++ ":frame:" ++ sourceFrameId ++ ":strategy:" ++ strategyId.getD "no-strategy"

def DECISION_LEDGER_VERSION : String := "m18.decision_ledger.v1"

structure LedgerFrameTrace where
  framesProcessed : ℕ
  totalTraceRecords : ℕ
  frameTraceRecords : ℕ
  sourceRunId : String
  flowGrain : String
  resolvedMarket : Option String
  resolvedStrategyId : Option String
  resolvedCorrelationId : Option String
  intentSide : Option OrderSide
  sourceRunUnavailableReason : Option String
  correlationUnavailableReason : Option String
deriving DecidableEq

structure DecisionLedgerFrame where
  ledgerVersion : String
  sourceRunId : String
  sourceFrameId : String
  exchange : String
  market : Option String
  strategyId : Option String
  category : DecisionFrameCategory
  summaryStatus : SummaryStatus
  observedAt : MarketTimestamp
  decisionAt : MarketTimestamp
  reasonCounts : List (String × ℕ)
  dedupeKey : String
  correlationId : Option String
  trace : LedgerFrameTrace
deriving DecidableEq

structure LedgerEntry where
  frame : DecisionLedgerFrame
  evidenceItems : List DecisionEvidenceItem

/-- what `buildDecisionLedgerFromRunnerResult` is called with, the trace apart, and what it takes from its host -/
structure LedgerOptions where
  framesProcessed : ℕ
  sourceRunId : String
  exchange : String
  dedupeKeyPrefix : Option String
  decisionAt : MarketTimestamp
  sha256 : String → String

/-- a record's index is the number of records of its stage before it -/
def buildEvidenceItems (options : LedgerOptions) (frame : DecisionLedgerFrame) (seen : List TraceRecord) :
    List TraceRecord → List DecisionEvidenceItem
  | [] => []
  | record :: records =>
    let item := buildEvidenceItem options.sha256 record
      ⟨frame.dedupeKey, frame.sourceFrameId, (seen.filter (fun earlier => earlier.stage = record.stage)).length⟩
    item.toList ++ buildEvidenceItems options frame (seen ++ [record]) records

section Host

variable [Host]

def sortRecord (counts : ReasonCounts) : List (String × ℕ) :=
  stableSort (fun left right => Host.localeCompare left.1 right.1) counts.entries

def buildFrame (options : LedgerOptions) (totalTraceRecords : ℕ) (group : TraceFlowGroup) : DecisionLedgerFrame :=
  let counts := computeGroupReasonCounts group.trace
  let category := resolveFrameCategory group.strategyId group.trace (computeGroupMetric group.trace) counts
  let market := resolveMarket group.trace
  let correlationId := resolveCorrelationId group.trace
  let dedupeKeyPrefix := options.dedupeKeyPrefix.getD (options.exchange ++ ":" ++ options.sourceRunId)
  { ledgerVersion := DECISION_LEDGER_VERSION
    sourceRunId := options.sourceRunId
    sourceFrameId := group.frameId
    exchange := options.exchange
    market := market
    strategyId := group.strategyId
    category := category.1
    summaryStatus := category.2
    observedAt := (group.trace.head?.map (·.observedAt)).getD options.decisionAt
    decisionAt := options.decisionAt
    reasonCounts := sortRecord counts.reasonCounts
    dedupeKey := buildFrameDedupeKey dedupeKeyPrefix group.frameId group.strategyId
    correlationId := correlationId
    trace :=
      { framesProcessed := options.framesProcessed
        totalTraceRecords := totalTraceRecords
        frameTraceRecords := group.trace.length
        sourceRunId := options.sourceRunId
        flowGrain := "sourceFrameId+strategyId"
        resolvedMarket := market
        resolvedStrategyId := group.strategyId
        resolvedCorrelationId := correlationId
        intentSide := resolveGroupIntentSide group.trace
        sourceRunUnavailableReason :=
          if correlationId.isNone then some "runner 실행 단위 식별자가 제공되지 않았습니다." else none
        correlationUnavailableReason :=
          if correlationId.isNone then some "주문 후보 0건 또는 correlation id 미생성" else none } }

def buildEntry (options : LedgerOptions) (totalTraceRecords : ℕ) (group : TraceFlowGroup) : LedgerEntry :=
  let frame := buildFrame options totalTraceRecords group
  ⟨frame, buildEvidenceItems options frame [] (group.evidenceTrace.getD group.trace)⟩

def buildDecisionLedgerFromRunnerResult (options : LedgerOptions) (trace : List TraceRecord) : List LedgerEntry :=
  (groupTraceByFrameAndStrategy trace).map (buildEntry options trace.length)

end Host

/-! ## Fills and the category -/

theorem countRecord_paperFill (metric : PerFrameMetric) (record : TraceRecord) :
    (countRecord metric record).paperFillCount = metric.paperFillCount + if record.isPaperFill then 1 else 0 := by
  unfold countRecord TraceRecord.isPaperFill
  cases hstage : record.stage with
  | executionResult =>
    simp only
    by_cases hstatus : record.status = "SUBMITTED" ∨ record.status = "FILLED"
    · cases hquantity : isPositiveQuantity record.metadata.filledQuantity with
      | true => split_ifs <;> simp_all
      | false => split_ifs <;> simp_all
    · split_ifs <;> simp_all
  | costDecision => split_ifs <;> simp_all
  | riskDecision => split_ifs <;> simp_all
  | frameReceived => simp
  | strategyDecision => simp
  | orderIntentConversion => simp

theorem computeGroupMetric_paperFill (trace : List TraceRecord) :
    (computeGroupMetric trace).paperFillCount = trace.countP TraceRecord.isPaperFill := by
  unfold computeGroupMetric
  induction trace using List.reverseRecOn with
  | nil => rfl
  | append_singleton trace record ih =>
    rw [List.foldl_append, List.foldl_cons, List.foldl_nil, countRecord_paperFill, ih, List.countP_append]
    simp [List.countP_cons]

theorem sideCategory_ne_executed (side : OrderSide) : sideCategory side ≠ .executed := by
  cases side <;> simp [sideCategory]

theorem resolveConversionDirection_ne_executed (record : TraceRecord) : resolveConversionDirection record ≠ .executed := by
  unfold resolveConversionDirection
  cases record.metadata.intentDirections.bind List.head? with
  | none => simp
  | some side => exact sideCategory_ne_executed side

/-- a group is EXECUTED exactly where one of its records counts as a fill -/
theorem category_executed_iff {strategyId : Option String} {trace : List TraceRecord} {counts : GroupReasonCounts} :
    (resolveFrameCategory strategyId trace (computeGroupMetric trace) counts).1 = .executed
      ↔ ∃ record ∈ trace, record.isPaperFill = true := by
  have hfill : 0 < (computeGroupMetric trace).paperFillCount ↔ ∃ record ∈ trace, record.isPaperFill = true := by
    rw [computeGroupMetric_paperFill, List.countP_pos_iff]
  rw [← hfill]
  constructor
  · intro h
    by_contra hnone
    unfold resolveFrameCategory at h
    rw [if_neg hnone] at h
    split_ifs at h
    split at h
    · split_ifs at h
      exact resolveConversionDirection_ne_executed _ h
    · cases h
  · intro h
    unfold resolveFrameCategory
    rw [if_pos h]

/-! ## Groups of an attributed trace -/

/-- every record but `FRAME_RECEIVED` says which strategy it is of -/
def Attributed (trace : List TraceRecord) : Prop :=
  ∀ record ∈ trace, record.strategyId = none ↔ record.stage = .frameReceived

/-- the records that evidence is made of -/
def TraceRecord.isEvidence (record : TraceRecord) : Bool := record.stage ≠ .frameReceived

def TraceFlowGroup.evidence (group : TraceFlowGroup) : List TraceRecord := group.evidenceTrace.getD group.trace

variable {trace frameTrace : List TraceRecord} {record : TraceRecord} {group : TraceFlowGroup}

theorem Attributed.filter (h : Attributed trace) (p : TraceRecord → Bool) : Attributed (trace.filter p) :=
  fun record hrecord => h record (List.mem_of_mem_filter hrecord)

theorem Attributed.some (h : Attributed trace) (hmem : record ∈ trace) (hevidence : record.isEvidence = true) :
    ∃ strategyId, record.strategyId = Option.some strategyId := by
  cases hstrategy : record.strategyId with
  | some strategyId => exact ⟨strategyId, rfl⟩
  | none =>
    have hstage := (h record hmem).1 hstrategy
    simp [TraceRecord.isEvidence, hstage] at hevidence

theorem Attributed.no_ambiguous (h : Attributed trace) : trace.filter TraceRecord.isAmbiguous = [] := by
  rw [List.filter_eq_nil_iff]
  intro record hrecord
  have hiff := h record hrecord
  simp only [TraceRecord.isAmbiguous, Option.isNone_iff_eq_none, decide_eq_true_eq, not_and, not_not]
  exact hiff.1

/-- what a group of a frame can be: the whole frame, where no strategy was asked; the records of one strategy; or the
cash aggregate -/
inductive FlowShape (frameId : String) (frameTrace : List TraceRecord) : TraceFlowGroup → Prop where
  | whole (hnone : collectStrategyIds frameTrace = []) : FlowShape frameId frameTrace ⟨frameId, none, frameTrace, none⟩
  | strategy (strategyId : String) (includeAmbiguous : Bool) (hmem : strategyId ∈ collectStrategyIds frameTrace) :
      FlowShape frameId frameTrace
        ⟨frameId, some strategyId, strategyFlow frameTrace includeAmbiguous strategyId, none⟩
  | cash (hheld : shouldCreateCashHoldAggregate frameTrace (collectStrategyIds frameTrace) = true) :
      FlowShape frameId frameTrace ⟨frameId, none, createCashHoldAggregateTrace frameTrace, some []⟩

theorem flowShape_of_mem (h : Attributed frameTrace) {frameId : String}
    (hmem : group ∈ groupSingleFrameTrace frameId frameTrace) : FlowShape frameId frameTrace group := by
  unfold groupSingleFrameTrace at hmem
  simp only [h.no_ambiguous, ne_eq, not_true_eq_false, and_false, if_false, List.append_nil] at hmem
  split_ifs at hmem with hnone hheld
  · obtain rfl := List.mem_singleton.1 hmem
    exact .whole hnone
  · rw [List.mem_append, List.mem_map, List.mem_singleton] at hmem
    rcases hmem with ⟨strategyId, hstrategy, rfl⟩ | rfl
    · exact .strategy strategyId _ hstrategy
    · exact .cash hheld
  · rw [List.append_nil, List.mem_map] at hmem
    obtain ⟨strategyId, hstrategy, rfl⟩ := hmem
    exact .strategy strategyId _ hstrategy

theorem mem_collectStrategyIds {strategyId : String} :
    strategyId ∈ collectStrategyIds trace ↔ ∃ record ∈ trace, record.strategyId = some strategyId := by
  unfold collectStrategyIds
  rw [mem_firstSeen, List.mem_filterMap]

/-- the evidence of a strategy's group is the strategy's records -/
theorem strategyFlow_evidence (h : Attributed frameTrace) (includeAmbiguous : Bool) (strategyId : String) :
    (strategyFlow frameTrace includeAmbiguous strategyId).filter TraceRecord.isEvidence
      = (frameTrace.filter TraceRecord.isEvidence).filter (fun record => record.strategyId = some strategyId) := by
  unfold strategyFlow
  rw [List.filter_filter, List.filter_filter]
  refine List.filter_congr fun record hrecord => ?_
  have hiff := h record hrecord
  cases hstrategy : record.strategyId with
  | none => simp [TraceRecord.isEvidence, hiff.1 hstrategy]
  | some other => simp [Bool.and_comm]

/-- the groups of a frame together are its evidence -/
theorem groupSingleFrameTrace_perm (h : Attributed frameTrace) (frameId : String) :
    ((groupSingleFrameTrace frameId frameTrace).flatMap
      (fun group => group.evidence.filter TraceRecord.isEvidence)).Perm (frameTrace.filter TraceRecord.isEvidence) := by
  unfold groupSingleFrameTrace
  simp only [h.no_ambiguous]
  by_cases hnone : collectStrategyIds frameTrace = []
  · simp [hnone, TraceFlowGroup.evidence]
  · have hkeys : ((collectStrategyIds frameTrace).map Option.some).Nodup :=
      (firstSeen_nodup _).map (Option.some_injective _)
    have hcovered : ∀ record ∈ frameTrace.filter TraceRecord.isEvidence,
        record.strategyId ∈ (collectStrategyIds frameTrace).map Option.some := by
      intro record hrecord
      obtain ⟨hmem, hevidence⟩ := List.mem_filter.1 hrecord
      obtain ⟨strategyId, hstrategy⟩ := h.some hmem hevidence
      exact List.mem_map.2 ⟨strategyId, mem_collectStrategyIds.2 ⟨record, hmem, hstrategy⟩, hstrategy.symm⟩
    have hparts := filter_groups_perm hkeys hcovered
    rw [List.flatMap_map] at hparts
    have hcash : ∀ (c : Bool), ((if c = true then
        [(⟨frameId, none, createCashHoldAggregateTrace frameTrace, some []⟩ : TraceFlowGroup)] else []).flatMap
          (fun group => group.evidence.filter TraceRecord.isEvidence)) = [] := by
      intro c
      cases c <;> simp [TraceFlowGroup.evidence]
    rw [if_neg hnone]
    simp only [List.flatMap_append, hcash, ne_eq, not_true_eq_false, and_false, if_false, List.append_nil,
      List.flatMap_map]
    refine List.Perm.trans (List.Perm.of_eq ?_) hparts
    exact List.flatMap_congr fun strategyId _ => strategyFlow_evidence h _ strategyId

/-- the evidence of all groups is the trace, its `FRAME_RECEIVED` records apart -/
theorem groups_perm (h : Attributed trace) : ((groupTraceByFrameAndStrategy trace).flatMap
    (fun group => group.evidence.filter TraceRecord.isEvidence)).Perm (trace.filter TraceRecord.isEvidence) := by
  have hframes := (groupBy_perm (·.frameId) trace).filter TraceRecord.isEvidence
  refine List.Perm.trans ?_ hframes
  unfold groupTraceByFrameAndStrategy
  rw [List.flatMap_assoc, List.filter_flatMap]
  refine List.Perm.flatMap_left _ fun entry hentry => ?_
  rw [(groupBy_entries hentry).1]
  exact groupSingleFrameTrace_perm (h.filter _) entry.1

/-! ## What a group is about -/

theorem isEvidence_of_isPaperFill (h : record.isPaperFill = true) : record.isEvidence = true := by
  simp only [TraceRecord.isPaperFill, decide_eq_true_eq] at h
  simp [TraceRecord.isEvidence, h.1]

theorem FlowShape.frameId_eq {frameId : String} (h : FlowShape frameId frameTrace group) : group.frameId = frameId := by
  cases h <;> rfl

/-- in a frame without strategies no record is evidence -/
theorem Attributed.no_evidence (h : Attributed frameTrace) (hnone : collectStrategyIds frameTrace = [])
    (hmem : record ∈ frameTrace) : record.isEvidence = false := by
  by_contra hevidence
  rw [Bool.not_eq_false] at hevidence
  obtain ⟨strategyId, hstrategy⟩ := h.some hmem hevidence
  have hcollected : strategyId ∈ collectStrategyIds frameTrace := mem_collectStrategyIds.2 ⟨record, hmem, hstrategy⟩
  rw [hnone] at hcollected
  cases hcollected

theorem mem_strategyFlow (h : Attributed frameTrace) {includeAmbiguous : Bool} {strategyId : String}
    (hevidence : record.isEvidence = true) : record ∈ strategyFlow frameTrace includeAmbiguous strategyId
      ↔ record ∈ frameTrace ∧ record.strategyId = some strategyId := by
  have hflow : record ∈ (strategyFlow frameTrace includeAmbiguous strategyId).filter TraceRecord.isEvidence
      ↔ record ∈ strategyFlow frameTrace includeAmbiguous strategyId := by simp [List.mem_filter, hevidence]
  rw [← hflow, strategyFlow_evidence h]
  simp [List.mem_filter, hevidence]

/-- evidence is of the frame and the strategy of its group -/
theorem FlowShape.owns (h : Attributed frameTrace) {frameId : String} (hshape : FlowShape frameId frameTrace group)
    (hmem : record ∈ group.evidence) (hevidence : record.isEvidence = true) :
    record ∈ frameTrace ∧ record.strategyId = group.strategyId := by
  cases hshape with
  | whole hnone =>
    have hnot := h.no_evidence hnone hmem
    rw [hevidence] at hnot
    cases hnot
  | strategy strategyId includeAmbiguous hstrategy => exact (mem_strategyFlow h hevidence).1 hmem
  | cash hheld => cases hmem

/-- what counts as a fill in a group is what does in the trace, of its frame and its strategy -/
theorem FlowShape.fills (h : Attributed frameTrace) {frameId : String} (hshape : FlowShape frameId frameTrace group) :
    (∃ record ∈ group.trace, record.isPaperFill = true)
      ↔ ∃ record ∈ frameTrace, record.strategyId = group.strategyId ∧ record.isPaperFill = true := by
  have hunattributed : ¬ ∃ record ∈ frameTrace, record.strategyId = none ∧ record.isPaperFill = true := by
    rintro ⟨record, hmem, hnone, hfill⟩
    obtain ⟨strategyId, hstrategy⟩ := h.some hmem (isEvidence_of_isPaperFill hfill)
    rw [hnone] at hstrategy
    cases hstrategy
  cases hshape with
  | whole hnone =>
    refine iff_of_false ?_ hunattributed
    rintro ⟨record, hmem, hfill⟩
    have hnot := h.no_evidence hnone hmem
    rw [isEvidence_of_isPaperFill hfill] at hnot
    cases hnot
  | strategy strategyId includeAmbiguous hstrategy =>
    constructor
    · rintro ⟨record, hmem, hfill⟩
      obtain ⟨hframe, hof⟩ := (mem_strategyFlow h (isEvidence_of_isPaperFill hfill)).1 hmem
      exact ⟨record, hframe, hof, hfill⟩
    · rintro ⟨record, hframe, hof, hfill⟩
      exact ⟨record, (mem_strategyFlow h (isEvidence_of_isPaperFill hfill)).2 ⟨hframe, hof⟩, hfill⟩
  | cash hheld =>
    refine iff_of_false ?_ hunattributed
    rintro ⟨record, hmem, hfill⟩
    have hstage := (List.mem_filter.1 hmem).2
    simp only [TraceRecord.isPaperFill, decide_eq_true_eq] at hfill
    simp [hfill.1] at hstage

theorem flowShape_of_group (h : Attributed trace) (hmem : group ∈ groupTraceByFrameAndStrategy trace) :
    ∃ frameId, FlowShape frameId (trace.filter (fun record => record.frameId = frameId)) group := by
  obtain ⟨entry, hentry, hgroup⟩ := List.mem_flatMap.1 hmem
  rw [(groupBy_entries hentry).1] at hgroup
  exact ⟨entry.1, flowShape_of_mem (h.filter _) hgroup⟩

/-- a frame and a strategy have one group -/
theorem groups_nodup (h : Attributed trace) :
    ((groupTraceByFrameAndStrategy trace).map (fun group => (group.frameId, group.strategyId))).Nodup := by
  have hframe : ∀ (frameId : String) frameTrace, ∀ group ∈ groupSingleFrameTrace frameId frameTrace,
      group.frameId = frameId := by
    intro frameId frameTrace group hgroup
    unfold groupSingleFrameTrace at hgroup
    simp only at hgroup
    split_ifs at hgroup <;> simp only [List.mem_append, List.mem_map, List.mem_singleton, List.append_nil] at hgroup <;> grind
  unfold groupTraceByFrameAndStrategy
  rw [List.map_flatMap, List.nodup_flatMap]
  constructor
  · intro entry hentry
    have hattributed : Attributed entry.2 := (groupBy_entries hentry).1 ▸ h.filter _
    unfold groupSingleFrameTrace
    simp only [hattributed.no_ambiguous, ne_eq, not_true_eq_false, and_false, if_false, List.append_nil]
    have hstrategies : ((collectStrategyIds entry.2).map
        (fun strategyId => (entry.1, (some strategyId : Option String)))).Nodup :=
      (firstSeen_nodup _).map fun a b hab => Option.some.inj (Prod.mk.inj hab).2
    split_ifs
    · exact List.nodup_singleton _
    · rw [List.map_append, List.map_map, List.nodup_append]
      refine ⟨hstrategies, List.nodup_singleton _, ?_⟩
      intro a ha b hb
      obtain ⟨strategyId, -, rfl⟩ := List.mem_map.1 ha
      obtain rfl := List.mem_singleton.1 hb
      simp
    · rw [List.append_nil, List.map_map]
      exact hstrategies
  · refine (List.pairwise_map.1 (groupBy (·.frameId) trace).nodup).imp fun {a b} hne => ?_
    intro key ha hb
    obtain ⟨left, hleft, rfl⟩ := List.mem_map.1 ha
    obtain ⟨right, hright, heq⟩ := List.mem_map.1 hb
    have hsame := (Prod.mk.inj heq).1
    rw [hframe _ _ _ hleft, hframe _ _ _ hright] at hsame
    exact hne hsame.symm

/-! ## The ledger of an attributed trace -/

theorem buildEvidenceItem_isSome (sha256 : String → String) (record : TraceRecord) (options : BuildEvidenceOptions) :
    (buildEvidenceItem sha256 record options).isSome = record.isEvidence := by
  unfold buildEvidenceItem mapTraceStageToEvidenceKind TraceRecord.isEvidence
  cases record.stage with
  | orderIntentConversion => split_ifs <;> rfl
  | _ => rfl

/-- an item of a record, with some index -/
def IsItemOf (sha256 : String → String) (frame : DecisionLedgerFrame) (record : TraceRecord) (item : DecisionEvidenceItem) :
    Prop :=
  ∃ index, buildEvidenceItem sha256 record ⟨frame.dedupeKey, frame.sourceFrameId, index⟩ = some item

/-- the items are those of the evidence records, one each and in order -/
theorem buildEvidenceItems_placed (options : LedgerOptions) (frame : DecisionLedgerFrame) (seen records : List TraceRecord) :
    ∃ placed : List (TraceRecord × DecisionEvidenceItem),
      placed.map Prod.fst = records.filter TraceRecord.isEvidence ∧
      placed.map Prod.snd = buildEvidenceItems options frame seen records ∧
      ∀ p ∈ placed, IsItemOf options.sha256 frame p.1 p.2 := by
  induction records generalizing seen with
  | nil => exact ⟨[], rfl, rfl, by simp⟩
  | cons record records ih =>
    obtain ⟨placed, hrecords, hitems, hplaced⟩ := ih (seen ++ [record])
    have hsome := buildEvidenceItem_isSome options.sha256 record
      ⟨frame.dedupeKey, frame.sourceFrameId, (seen.filter (fun earlier => earlier.stage = record.stage)).length⟩
    rw [buildEvidenceItems]
    cases hitem : buildEvidenceItem options.sha256 record
      ⟨frame.dedupeKey, frame.sourceFrameId, (seen.filter (fun earlier => earlier.stage = record.stage)).length⟩ with
    | none =>
      rw [hitem, Option.isSome_none] at hsome
      exact ⟨placed, by simpa [← hsome] using hrecords, by simpa using hitems, hplaced⟩
    | some item =>
      rw [hitem, Option.isSome_some] at hsome
      refine ⟨(record, item) :: placed, by simp [← hsome, hrecords], by simp [hitems], fun p hp => ?_⟩
      rcases List.mem_cons.1 hp with rfl | hp
      · exact ⟨_, hitem⟩
      · exact hplaced p hp

/-- where a trace's records are placed: each with the frame and the item it became -/
structure Placed [Host] (options : LedgerOptions) (trace : List TraceRecord)
    (placed : List (TraceRecord × DecisionLedgerFrame × DecisionEvidenceItem)) : Prop where
  /-- every record but the received frames is there, as often as in the trace -/
  records : (placed.map (·.1)).Perm (trace.filter TraceRecord.isEvidence)
  /-- and every item of the ledger, in order -/
  items : placed.map (·.2) = (buildDecisionLedgerFromRunnerResult options trace).flatMap
    (fun entry => entry.evidenceItems.map (fun item => (entry.frame, item)))
  item : ∀ p ∈ placed, IsItemOf options.sha256 p.2.1 p.1 p.2.2
  frameId : ∀ p ∈ placed, p.2.1.sourceFrameId = p.1.frameId
  strategyId : ∀ p ∈ placed, p.2.1.strategyId = p.1.strategyId

theorem ledger_placed [Host] (h : Attributed trace) (options : LedgerOptions) : ∃ placed, Placed options trace placed := by
  choose items hrecords hitems hitem using
    fun group => buildEvidenceItems_placed options (buildFrame options trace.length group) [] group.evidence
  refine ⟨(groupTraceByFrameAndStrategy trace).flatMap (fun group =>
    (items group).map (fun p => (p.1, buildFrame options trace.length group, p.2))), ?_⟩
  have howner : ∀ p ∈ (groupTraceByFrameAndStrategy trace).flatMap (fun group =>
      (items group).map (fun p => (p.1, buildFrame options trace.length group, p.2))),
      ∃ group ∈ groupTraceByFrameAndStrategy trace, p.2.1 = buildFrame options trace.length group ∧
        (p.1, p.2.2) ∈ items group := by
    intro p hp
    obtain ⟨group, hgroup, hp⟩ := List.mem_flatMap.1 hp
    obtain ⟨q, hq, rfl⟩ := List.mem_map.1 hp
    exact ⟨group, hgroup, rfl, hq⟩
  have hsource : ∀ group ∈ groupTraceByFrameAndStrategy trace, ∀ p ∈ items group,
      p.1.frameId = group.frameId ∧ p.1.strategyId = group.strategyId := by
    intro group hgroup p hp
    obtain ⟨frameId, hshape⟩ := flowShape_of_group h hgroup
    have hmem : p.1 ∈ group.evidence.filter TraceRecord.isEvidence := hrecords group ▸ List.mem_map_of_mem hp
    obtain ⟨hevidence, hof⟩ := List.mem_filter.1 hmem
    obtain ⟨hframe, hstrategy⟩ := hshape.owns (h.filter _) hevidence hof
    have hid : p.1.frameId = frameId := by simpa using (List.mem_filter.1 hframe).2
    exact ⟨hid.trans hshape.frameId_eq.symm, hstrategy⟩
  refine ⟨?_, ?_, fun p hp => ?_, fun p hp => ?_, fun p hp => ?_⟩
  · rw [List.map_flatMap]
    simp only [List.map_map, Function.comp_def, hrecords]
    exact groups_perm h
  · rw [List.map_flatMap, buildDecisionLedgerFromRunnerResult, List.flatMap_map]
    refine List.flatMap_congr fun group _ => ?_
    have hgroup := hitems group
    unfold TraceFlowGroup.evidence at hgroup
    simp only [List.map_map, Function.comp_def, buildEntry, ← hgroup]
  · obtain ⟨group, -, hframe, hp⟩ := howner p hp
    rw [hframe]
    exact hitem group _ hp
  · obtain ⟨group, hgroup, hframe, hp⟩ := howner p hp
    rw [hframe]
    exact (hsource group hgroup _ hp).1.symm
  · obtain ⟨group, hgroup, hframe, hp⟩ := howner p hp
    rw [hframe]
    exact (hsource group hgroup _ hp).2.symm

/-- a frame and a strategy have one ledger frame -/
theorem ledger_frames_nodup [Host] (h : Attributed trace) (options : LedgerOptions) :
    ((buildDecisionLedgerFromRunnerResult options trace).map
      (fun entry => (entry.frame.sourceFrameId, entry.frame.strategyId))).Nodup := by
  rw [buildDecisionLedgerFromRunnerResult, List.map_map]
  exact groups_nodup h

/-- a ledger frame is EXECUTED where a record of its frame and its strategy counts as a fill -/
theorem ledger_executed_iff [Host] (h : Attributed trace) (options : LedgerOptions) {entry : LedgerEntry}
    (hentry : entry ∈ buildDecisionLedgerFromRunnerResult options trace) :
    entry.frame.category = .executed ↔ ∃ record ∈ trace, record.frameId = entry.frame.sourceFrameId ∧
      record.strategyId = entry.frame.strategyId ∧ record.isPaperFill = true := by
  obtain ⟨group, hgroup, rfl⟩ := List.mem_map.1 hentry
  obtain ⟨frameId, hshape⟩ := flowShape_of_group h hgroup
  have hfills := hshape.fills (h.filter _)
  show (resolveFrameCategory group.strategyId group.trace (computeGroupMetric group.trace)
    (computeGroupReasonCounts group.trace)).1 = .executed ↔ ∃ record ∈ trace, record.frameId = group.frameId ∧
      record.strategyId = group.strategyId ∧ record.isPaperFill = true
  rw [category_executed_iff, hfills, hshape.frameId_eq]
  constructor
  · rintro ⟨record, hmem, hstrategy, hfill⟩
    obtain ⟨hmem, hid⟩ := List.mem_filter.1 hmem
    exact ⟨record, hmem, by simpa using hid, hstrategy, hfill⟩
  · rintro ⟨record, hmem, hid, hstrategy, hfill⟩
    exact ⟨record, List.mem_filter.2 ⟨hmem, by simpa using hid⟩, hstrategy, hfill⟩

end SeeMirai.Decision
