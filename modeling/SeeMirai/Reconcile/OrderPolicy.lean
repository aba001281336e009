/-
Order comparison of the live reconcile (application/live-reconcile/mismatch-policy.ts): every live exchange snapshot is
matched to a local order or reported, then every local order that is left is looked for among all snapshots; after that
the closed order window and the WebSocket gaps are checked.

A JavaScript `Set` of keys is a list here, read by membership only. The set of matched snapshots holds object
identities; it is a list of positions in the prioritised snapshots.

- `reconcileOrders`, `checkClosedOrderWindow`, `checkWebSocketGap`: the policies as the source has them.
-/
import SeeMirai.Reconcile.Snapshots

namespace SeeMirai.Reconcile

/-! ## Evidence texts -/

def normalizeEvidenceTimestamp (timestamp : Timestamp) : String := (timestamp.ms.map toISOString).getD timestamp.text

def isOpenExchangeStatus (exchangeStatus : String) : Bool := exchangeStatus = "wait" ∨ exchangeStatus = "watch"

def isUntrackedExchangeOpenCandidate (exchangeOrder : ReconcileExchangeOrderSnapshot) : Bool :=
  exchangeOrder.source ≠ .closed ∧ isOpenExchangeStatus exchangeOrder.exchangeStatus

def isFingerprintOnlyExchangeOrder (exchangeOrder : ReconcileExchangeOrderSnapshot) : Bool :=
  exchangeOrder.exchangeOrderId = none ∧ exchangeOrder.identifier = none

def buildUntrackedExchangeEvidenceFingerprint (exchangeOrder : ReconcileExchangeOrderSnapshot)
    (identity observedAt : String) (exchangeOrderIndex : ℕ) : String :=
  if isFingerprintOnlyExchangeOrder exchangeOrder = false then "untracked:" ++ identity ++ ":" ++ observedAt
  else
    ":".intercalate ["untracked", identity, exchangeOrder.source.text,
      normalizeEvidenceTimestamp exchangeOrder.capturedAt, "row:" ++ toString exchangeOrderIndex, observedAt]

def buildIdentityConflictEvidenceFingerprint (exchangeOrder : ReconcileExchangeOrderSnapshot)
    (localOrder : ReconcileLocalOrderSnapshot) (exchangeIdentity : String) (identity : IdentityMatchFailure)
    (observedAt : String) : String :=
  ":".intercalate ["identity-conflict", exchangeIdentity,
    "exchange-uuid:" ++ exchangeOrder.exchangeOrderId.getD "none", "local-uuid:" ++ localOrder.exchangeOrderId.getD "none",
    "reason:" ++ identity.reason, "local:" ++ localOrder.orderId, observedAt]

def orderStatusText : OrderLifecycleStatus → String
  | .created => "CREATED"
  | .validated => "VALIDATED"
  | .riskApproved => "RISK_APPROVED"
  | .riskRejected => "RISK_REJECTED"
  | .submitted => "SUBMITTED"
  | .accepted => "ACCEPTED"
  | .partiallyFilled => "PARTIALLY_FILLED"
  | .filled => "FILLED"
  | .cancelRequested => "CANCEL_REQUESTED"
  | .canceled => "CANCELED"
  | .rejected => "REJECTED"
  | .expired => "EXPIRED"
  | .failed => "FAILED"
  | .manualReviewRequired => "MANUAL_REVIEW_REQUIRED"

/-! ## Mismatches -/

/-- an order mismatch; the members of the family differ in type, severity, identity and fingerprint -/
def orderMismatch (mismatchType : ReconcileMismatchType) (severity : ReconcileSeverity) (market identity : String)
    (evidenceFingerprint observedAt : String) : ReconcileMismatchEvidence where
  mismatchType := mismatchType
  severity := severity
  market := some market
  orderIdentity := some identity
  currency := none
  evidenceFingerprint := evidenceFingerprint
  occurredAt := observedAt

def createMissingLocalOrderMismatch (localOrder : ReconcileLocalOrderSnapshot) (observedAt : String) :
    ReconcileMismatchEvidence :=
  orderMismatch .localOpenOrderMissingOnExchange .error localOrder.market ("local:" ++ localOrder.orderId)
    ("missing-local:" ++ localOrder.orderId ++ ":" ++ observedAt) observedAt

def createCancelFailureMismatch (exchangeOrder : ReconcileExchangeOrderSnapshot) (identity : IdentityMatchSuccess)
    (observedAt : String) : ReconcileMismatchEvidence :=
  orderMismatch .cancelFailureRetryNeeded .error exchangeOrder.market identity.identity
    ("cancel-failure:" ++ identity.identity ++ ":" ++ observedAt) observedAt

def createExchangeCancelStateMismatch (exchangeOrder : ReconcileExchangeOrderSnapshot)
    (localOrder : ReconcileLocalOrderSnapshot) (identity : IdentityMatchSuccess) (observedAt : String) :
    ReconcileMismatchEvidence :=
  orderMismatch .exchangeCancelStateMismatch .error exchangeOrder.market identity.identity
    ("exchange-cancel-state:" ++ identity.identity ++ ":" ++ orderStatusText localOrder.status ++ ":" ++ observedAt)
    observedAt

def createPartialFillMismatch (exchangeOrder : ReconcileExchangeOrderSnapshot) (identity : IdentityMatchSuccess)
    (observedAt : String) : ReconcileMismatchEvidence :=
  orderMismatch .partialFillMismatch .warn exchangeOrder.market identity.identity
    ("partial-fill-mismatch:" ++ identity.identity ++ ":" ++ observedAt) observedAt

def createOrderStateAdvancementBlockedMismatch (exchangeOrder : ReconcileExchangeOrderSnapshot)
    (localOrder : ReconcileLocalOrderSnapshot) (identity : IdentityMatchSuccess)
    (targetLocalStatus : OrderLifecycleStatus) (observedAt reasonCode : String) : ReconcileMismatchEvidence :=
  orderMismatch .orderStateAdvancementBlocked .error exchangeOrder.market identity.identity
    (":".intercalate ["state-advancement-blocked", identity.identity, orderStatusText localOrder.status,
      orderStatusText targetLocalStatus, reasonCode, observedAt]) observedAt

structure OrderPairReconcileResult where
  localOrderId : Option String
  exchangeSource : Option SnapshotSource
  identityMatch : Option IdentityMatchSuccess
  mismatches : List ReconcileMismatchEvidence
  stateAdvancement : Option ReconcileStateAdvancementCandidate
deriving DecidableEq, Repr

/-! ## Identity keys -/

def strongIdentityKeys (exchangeOrderId identifier : Option String) : List String :=
  (exchangeOrderId.map ("uuid:" ++ ·)).toList ++ (identifier.map ("identifier:" ++ ·)).toList

def getStrongExchangeIdentityKeys (exchangeOrder : ReconcileExchangeOrderSnapshot) : List String :=
  strongIdentityKeys exchangeOrder.exchangeOrderId exchangeOrder.identifier

def getStrongLocalIdentityKeys (localOrder : ReconcileLocalOrderSnapshot) : List String :=
  strongIdentityKeys localOrder.exchangeOrderId localOrder.identifier

def hasMatchedExchangeIdentity (exchangeOrder : ReconcileExchangeOrderSnapshot) (keys : List String) : Bool :=
  (getStrongExchangeIdentityKeys exchangeOrder).any (· ∈ keys)

def hasSharedStrongIdentity (exchangeOrder : ReconcileExchangeOrderSnapshot) (localOrder : ReconcileLocalOrderSnapshot) :
    Bool :=
  (exchangeOrder.exchangeOrderId ≠ none ∧ exchangeOrder.exchangeOrderId = localOrder.exchangeOrderId) ∨
    (exchangeOrder.identifier ≠ none ∧ exchangeOrder.identifier = localOrder.identifier)

/-- `addExchangeIdentityKeysWithLocalBridge` -/
def addExchangeIdentityKeysWithLocalBridge (exchangeOrder : ReconcileExchangeOrderSnapshot)
    (localOpenOrders : List ReconcileLocalOrderSnapshot) (keys : List String) : List String :=
  keys ++ getStrongExchangeIdentityKeys exchangeOrder ++
    (localOpenOrders.filter (hasSharedStrongIdentity exchangeOrder)).flatMap getStrongLocalIdentityKeys

def addMatchedIdentityKeys (exchangeOrder : ReconcileExchangeOrderSnapshot) (localOrder : ReconcileLocalOrderSnapshot)
    (keys : List String) : List String :=
  keys ++ getStrongExchangeIdentityKeys exchangeOrder ++ getStrongLocalIdentityKeys localOrder

/-! ## Searching -/

def IdentityMatchResult.success? : IdentityMatchResult → Option IdentityMatchSuccess
  | matched success => some success
  | failed _ => none

def IdentityMatchResult.conflict? : IdentityMatchResult → Option IdentityMatchFailure
  | matched _ => none
  | failed failure => if isIdentityConflictReason failure then some failure else none

/-- the first candidate that is not skipped and for which the test answers; the tests before it are run -/
def findFirst {α β : Type} (skip : α → Bool) (test : α → Except Thrown (Option β)) :
    List α → Except Thrown (Option (α × β))
  | [] => pure none
  | candidate :: candidates =>
    if skip candidate then findFirst skip test candidates
    else do
      let answer ← test candidate
      match answer with
      | some found => pure (some (candidate, found))
      | none => findFirst skip test candidates

section Host

variable [Host]

def findMatchingLocalOrder (exchangeOrder : ReconcileExchangeOrderSnapshot)
    (localOrders : List ReconcileLocalOrderSnapshot) (matchedLocalIds : List String) :
    Except Thrown (Option (ReconcileLocalOrderSnapshot × IdentityMatchSuccess)) :=
  findFirst (fun localOrder => localOrder.orderId ∈ matchedLocalIds)
    (fun localOrder => IdentityMatchResult.success? <$> matchOrderIdentity exchangeOrder localOrder) localOrders

def findIdentityConflictLocalOrder (exchangeOrder : ReconcileExchangeOrderSnapshot)
    (localOrders : List ReconcileLocalOrderSnapshot) (matchedLocalIds : List String) :
    Except Thrown (Option (ReconcileLocalOrderSnapshot × IdentityMatchFailure)) :=
  findFirst (fun localOrder => localOrder.orderId ∈ matchedLocalIds)
    (fun localOrder => IdentityMatchResult.conflict? <$> matchOrderIdentity exchangeOrder localOrder) localOrders

/-- among all local orders, matched ones included -/
def findIdentityConflictAnyLocalOrder (exchangeOrder : ReconcileExchangeOrderSnapshot)
    (localOrders : List ReconcileLocalOrderSnapshot) :
    Except Thrown (Option (ReconcileLocalOrderSnapshot × IdentityMatchFailure)) :=
  findFirst (fun _ => false)
    (fun localOrder => IdentityMatchResult.conflict? <$> matchOrderIdentity exchangeOrder localOrder) localOrders

def findMatchingExchangeOrder (localOrder : ReconcileLocalOrderSnapshot)
    (exchangeOrders : List (ReconcileExchangeOrderSnapshot × ℕ)) (matchedExchangeOrders : List ℕ) :
    Except Thrown (Option ((ReconcileExchangeOrderSnapshot × ℕ) × IdentityMatchSuccess)) :=
  findFirst (fun exchangeOrder => exchangeOrder.2 ∈ matchedExchangeOrders)
    (fun exchangeOrder => IdentityMatchResult.success? <$> matchOrderIdentity exchangeOrder.1 localOrder) exchangeOrders

def findIdentityConflictExchangeOrder (localOrder : ReconcileLocalOrderSnapshot)
    (exchangeOrders : List (ReconcileExchangeOrderSnapshot × ℕ)) (matchedExchangeOrders : List ℕ) :
    Except Thrown (Option ((ReconcileExchangeOrderSnapshot × ℕ) × IdentityMatchFailure)) :=
  findFirst (fun exchangeOrder => exchangeOrder.2 ∈ matchedExchangeOrders)
    (fun exchangeOrder => IdentityMatchResult.conflict? <$> matchOrderIdentity exchangeOrder.1 localOrder) exchangeOrders

/-! ## Pairs -/

def createUntrackedExchangeOrderMismatch (exchangeOrder : ReconcileExchangeOrderSnapshot) (observedAt : String)
    (exchangeOrderIndex : ℕ) : Except Thrown ReconcileMismatchEvidence := do
  let identity ← describeExchangeOrderIdentity exchangeOrder
  pure (orderMismatch .untrackedExchangeOpenOrder .warn exchangeOrder.market identity
    (buildUntrackedExchangeEvidenceFingerprint exchangeOrder identity observedAt exchangeOrderIndex) observedAt)

def createIdentityConflictResult (exchangeOrder : ReconcileExchangeOrderSnapshot)
    (localOrder : ReconcileLocalOrderSnapshot) (identity : IdentityMatchFailure) (observedAt : String) :
    Except Thrown OrderPairReconcileResult := do
  let exchangeIdentity ← describeExchangeOrderIdentity exchangeOrder
  pure
    { localOrderId := some localOrder.orderId
      exchangeSource := some exchangeOrder.source
      identityMatch := none
      mismatches := [orderMismatch .orderIdentityConflict .error exchangeOrder.market
        (exchangeIdentity ++ "|local:" ++ localOrder.orderId)
        (buildIdentityConflictEvidenceFingerprint exchangeOrder localOrder exchangeIdentity identity observedAt) observedAt]
      stateAdvancement := none }

/-- texts that do not parse are compared as they are -/
def compareRemainingQuantity (exchangeRemaining localRemaining : String) : Bool :=
  match Host.valueOf exchangeRemaining, Host.valueOf localRemaining with
  | some exchangeValue, some localValue => exchangeValue = localValue
  | _, _ => exchangeRemaining = localRemaining

def stateAdvancement (exchangeOrder : ReconcileExchangeOrderSnapshot) (localOrder : ReconcileLocalOrderSnapshot)
    (identity : IdentityMatchSuccess) (targetLocalStatus : OrderLifecycleStatus)
    (advancementType : ReconcileStateAdvancementType) (reasonCode : String) : ReconcileStateAdvancementCandidate where
  localOrderId := localOrder.orderId
  exchangeOrderIdentity := identity.identity
  exchangeStatus := exchangeOrder.exchangeStatus
  currentLocalStatus := localOrder.status
  targetLocalStatus := targetLocalStatus
  advancementType := advancementType
  reasonCode := reasonCode

/-- an open order whose remainder shrank; the inner `none` ends the search -/
def openRemainingCandidate (exchangeOrder : ReconcileExchangeOrderSnapshot) (localOrder : ReconcileLocalOrderSnapshot)
    (identity : IdentityMatchSuccess) : Except Thrown (Option (Option ReconcileStateAdvancementCandidate)) :=
  match exchangeOrder.remainingQuantity with
  | some remainingQuantity =>
    if isOpenExchangeStatus exchangeOrder.exchangeStatus then do
      let exchangeRemaining ← parseFinancialDecimal remainingQuantity
      let localRemaining ← parseFinancialDecimal localOrder.remainingQuantity
      pure (if 0 < exchangeRemaining ∧ exchangeRemaining < localRemaining then
        some (if localOrder.status = .partiallyFilled then none
          else some (stateAdvancement exchangeOrder localOrder identity .partiallyFilled .partiallyFilledCandidate
            "exchange_open_remaining_reduced"))
        else none)
    else pure none
  | none => pure none

def hasRemaining (exchangeOrder : ReconcileExchangeOrderSnapshot) : Except Thrown Bool :=
  match exchangeOrder.remainingQuantity with
  | none => pure false
  | some remainingQuantity => (fun remaining => Decidable.decide (0 < remaining)) <$> parseFinancialDecimal remainingQuantity

def createStateAdvancementCandidate (exchangeOrder : ReconcileExchangeOrderSnapshot)
    (localOrder : ReconcileLocalOrderSnapshot) (identity : IdentityMatchSuccess) :
    Except Thrown (Option ReconcileStateAdvancementCandidate) := do
  let openCandidate ← openRemainingCandidate exchangeOrder localOrder identity
  match openCandidate with
  | some candidate => pure candidate
  | none =>
    if exchangeOrder.exchangeStatus = "done" then
      if localOrder.status = .filled then pure none
      else do
        let remains ← hasRemaining exchangeOrder
        pure (if remains then
          if localOrder.status = .partiallyFilled then none
          else some (stateAdvancement exchangeOrder localOrder identity .partiallyFilled .partiallyFilledCandidate
            "exchange_done_with_remaining")
        else some (stateAdvancement exchangeOrder localOrder identity .filled .fillCandidate "exchange_done_fully_filled"))
    else if exchangeOrder.exchangeStatus = "cancel" ∧ localOrder.status = .cancelRequested then
      pure (some (stateAdvancement exchangeOrder localOrder identity .canceled .cancelCandidate "exchange_cancel_confirmed"))
    else pure none

/-- what the status and the remainder of a matched pair disagree about -/
def pairMismatches (exchangeOrder : ReconcileExchangeOrderSnapshot) (localOrder : ReconcileLocalOrderSnapshot)
    (identity : IdentityMatchSuccess) (observedAt : String) : List ReconcileMismatchEvidence :=
  (if localOrder.status = .cancelRequested ∧ isOpenExchangeStatus exchangeOrder.exchangeStatus then
      [createCancelFailureMismatch exchangeOrder identity observedAt] else []) ++
  (if exchangeOrder.exchangeStatus = "cancel" ∧ localOrder.status ≠ .cancelRequested ∧ localOrder.status ≠ .canceled then
      [createExchangeCancelStateMismatch exchangeOrder localOrder identity observedAt] else []) ++
  (match exchangeOrder.remainingQuantity with
    | some remainingQuantity =>
      if compareRemainingQuantity remainingQuantity localOrder.remainingQuantity then []
      else [createPartialFillMismatch exchangeOrder identity observedAt]
    | none => [])

/-- a candidate that a fingerprint alone supports, or that the state machine forbids, becomes a mismatch -/
def evaluateMatchedPair (exchangeOrder : ReconcileExchangeOrderSnapshot) (localOrder : ReconcileLocalOrderSnapshot)
    (identity : IdentityMatchSuccess) (observedAt : String) : Except Thrown OrderPairReconcileResult := do
  let mismatches := pairMismatches exchangeOrder localOrder identity observedAt
  let candidate ← createStateAdvancementCandidate exchangeOrder localOrder identity
  let result (mismatches : List ReconcileMismatchEvidence) (advancement : Option ReconcileStateAdvancementCandidate) :
      OrderPairReconcileResult :=
    ⟨some localOrder.orderId, some exchangeOrder.source, some identity, mismatches, advancement⟩
  let blocked (candidate : ReconcileStateAdvancementCandidate) (reasonCode : String) : OrderPairReconcileResult :=
    result (mismatches ++ [createOrderStateAdvancementBlockedMismatch exchangeOrder localOrder identity
      candidate.targetLocalStatus observedAt reasonCode]) none
  pure (match candidate with
    | none => result mismatches none
    | some candidate =>
      if identity.matchType = .fingerprint then blocked candidate "fingerprint_only_identity"
      else if canTransitionOrderState localOrder.status candidate.targetLocalStatus = false then
        blocked candidate "state_machine_transition_not_allowed"
      else result mismatches (some candidate))

/-! ## The two loops -/

structure ReconcileLoop where
  results : List OrderPairReconcileResult
  matchedLocalIds : List String
  matchedExchangeOrders : List ℕ
  matchedExchangeIdentityKeys : List String
  strongerExchangeIdentityKeys : List String
deriving DecidableEq

/-- a pair is taken: both sides are marked and the result is reported -/
def ReconcileLoop.pair (loop : ReconcileLoop) (exchangeOrder : ReconcileExchangeOrderSnapshot) (index : ℕ)
    (localOrder : ReconcileLocalOrderSnapshot) (result : OrderPairReconcileResult) : ReconcileLoop :=
  { loop with
    results := loop.results ++ [result]
    matchedLocalIds := loop.matchedLocalIds ++ [localOrder.orderId]
    matchedExchangeOrders := loop.matchedExchangeOrders ++ [index]
    matchedExchangeIdentityKeys := addMatchedIdentityKeys exchangeOrder localOrder loop.matchedExchangeIdentityKeys }

/-- one exchange snapshot: a live one is matched, found in conflict, dropped as a repeat, or reported as untracked -/
def reconcileExchangeOrder (localOpenOrders : List ReconcileLocalOrderSnapshot) (observedAt : String)
    (loop : ReconcileLoop) (entry : ReconcileExchangeOrderSnapshot × ℕ) : Except Thrown ReconcileLoop :=
  let exchangeOrder := entry.1
  let index := entry.2
  if isUntrackedExchangeOpenCandidate exchangeOrder = false then
    pure { loop with
      strongerExchangeIdentityKeys :=
        addExchangeIdentityKeysWithLocalBridge exchangeOrder localOpenOrders loop.strongerExchangeIdentityKeys }
  else if hasMatchedExchangeIdentity exchangeOrder loop.matchedExchangeIdentityKeys ∨
      hasMatchedExchangeIdentity exchangeOrder loop.strongerExchangeIdentityKeys then do
    let conflict ← findIdentityConflictAnyLocalOrder exchangeOrder localOpenOrders
    match conflict with
    | some (localOrder, identity) => do
      let result ← createIdentityConflictResult exchangeOrder localOrder identity observedAt
      pure (loop.pair exchangeOrder index localOrder result)
    | none => pure { loop with matchedExchangeOrders := loop.matchedExchangeOrders ++ [index] }
  else do
    let found ← findMatchingLocalOrder exchangeOrder localOpenOrders loop.matchedLocalIds
    match found with
    | some (localOrder, identity) => do
      let result ← evaluateMatchedPair exchangeOrder localOrder identity observedAt
      pure (loop.pair exchangeOrder index localOrder result)
    | none => do
      let conflict ← findIdentityConflictLocalOrder exchangeOrder localOpenOrders loop.matchedLocalIds
      match conflict with
      | some (localOrder, identity) => do
        let result ← createIdentityConflictResult exchangeOrder localOrder identity observedAt
        pure (loop.pair exchangeOrder index localOrder result)
      | none => do
        let mismatch ← createUntrackedExchangeOrderMismatch exchangeOrder observedAt index
        pure { loop with results := loop.results ++ [⟨none, none, none, [mismatch], none⟩] }

/-- one local order that no live snapshot was matched to -/
def reconcileLocalOrder (exchangeOrders : List (ReconcileExchangeOrderSnapshot × ℕ)) (observedAt : String)
    (loop : ReconcileLoop) (localOrder : ReconcileLocalOrderSnapshot) : Except Thrown ReconcileLoop :=
  if localOrder.orderId ∈ loop.matchedLocalIds then pure loop
  else do
    let found ← findMatchingExchangeOrder localOrder exchangeOrders loop.matchedExchangeOrders
    match found with
    | some ((exchangeOrder, index), identity) => do
      let result ← evaluateMatchedPair exchangeOrder localOrder identity observedAt
      pure (loop.pair exchangeOrder index localOrder result)
    | none => do
      let conflict ← findIdentityConflictExchangeOrder localOrder exchangeOrders loop.matchedExchangeOrders
      match conflict with
      | some ((exchangeOrder, index), identity) => do
        let result ← createIdentityConflictResult exchangeOrder localOrder identity observedAt
        pure (loop.pair exchangeOrder index localOrder result)
      | none =>
        pure { loop with
          results := loop.results ++
            [⟨some localOrder.orderId, none, none, [createMissingLocalOrderMismatch localOrder observedAt], none⟩] }

def reconcileOrders (exchangeOrders : List ReconcileExchangeOrderSnapshot)
    (localOpenOrders : List ReconcileLocalOrderSnapshot) (observedAt : String) :
    Except Thrown (List OrderPairReconcileResult) := do
  let entries := exchangeOrders.zipIdx
  let exchangeLoop ← entries.foldlM (reconcileExchangeOrder localOpenOrders observedAt) ⟨[], [], [], [], []⟩
  let localLoop ← localOpenOrders.foldlM (reconcileLocalOrder entries observedAt) exchangeLoop
  pure localLoop.results

end Host

/-! ## Window and gaps -/

def createClosedOrderWindowExhaustedMismatch (closedOrderWindow : ReconcileClosedOrderWindow) (observedAt : String) :
    ReconcileMismatchEvidence where
  mismatchType := .closedOrderWindowExceeded
  severity := .error
  market := none
  orderIdentity := none
  currency := none
  evidenceFingerprint := ":".intercalate ["closed-window-exhausted", closedOrderWindow.windowStart.text,
    closedOrderWindow.windowEnd.text, observedAt]
  occurredAt := observedAt

/-- created before the window starts; an unreadable date is not before anything -/
def isBeforeWindow (closedOrderWindow : ReconcileClosedOrderWindow) (createdAt : Timestamp) : Bool :=
  match createdAt.ms, closedOrderWindow.windowStart.ms with
  | some created, some start => created < start
  | _, _ => false

def checkClosedOrderWindow (localOpenOrders : List ReconcileLocalOrderSnapshot)
    (closedOrderWindow : ReconcileClosedOrderWindow) (observedAt : String) (verifiedLocalOrderIds : List String) :
    List ReconcileMismatchEvidence :=
  (if closedOrderWindow.windowExhausted then [createClosedOrderWindowExhaustedMismatch closedOrderWindow observedAt]
    else []) ++
  (localOpenOrders.filter (fun localOrder => localOrder.orderId ∉ verifiedLocalOrderIds ∧
      (localOrder.createdAt.map (isBeforeWindow closedOrderWindow)).getD false)).map (fun localOrder =>
    orderMismatch .closedOrderWindowExceeded .warn localOrder.market ("local:" ++ localOrder.orderId)
      ("closed-window-exceeded:" ++ localOrder.orderId ++ ":" ++ observedAt) observedAt)

def isPositiveNumber (number : Option PrintedNumber) : Bool := (number.map PrintedNumber.isPositive).getD false

def hasWebSocketLivenessGapEvidence (evidence : ReconcileDisconnectEvidence) : Bool :=
  evidence.disconnectedAt ≠ none ∨ evidence.reconnectedAt ≠ none ∨ isPositiveNumber evidence.gapDurationMs ∨
    isPositiveNumber evidence.reconnectCount

def getWebSocketGapEvidenceAnchor (evidence : ReconcileDisconnectEvidence) (observedAt : String) : String :=
  match evidence.disconnectedAt.or evidence.reconnectedAt with
  | some timestampAnchor => normalizeEvidenceTimestamp timestampAnchor
  | none => ((evidence.gapDurationMs.or evidence.reconnectCount).map PrintedNumber.text).getD observedAt

def webSocketGapMismatch (evidenceFingerprint observedAt : String) : ReconcileMismatchEvidence where
  mismatchType := .websocketGapManualReview
  severity := .error
  market := none
  orderIdentity := none
  currency := none
  evidenceFingerprint := evidenceFingerprint
  occurredAt := observedAt

def checkWebSocketGap (websocketContext : ReconcileWebSocketContext) (observedAt : String) :
    List ReconcileMismatchEvidence :=
  (if websocketContext.bootstrapCompleteAt = none ∧ websocketContext.events ≠ [] then
      [webSocketGapMismatch ("ws-bootstrap-missing:" ++ observedAt) observedAt] else []) ++
  (match websocketContext.disconnectEvidence with
    | some evidence =>
      if hasWebSocketLivenessGapEvidence evidence then
        [webSocketGapMismatch ("ws-disconnect:" ++ getWebSocketGapEvidenceAnchor evidence observedAt ++ ":" ++ observedAt)
          observedAt]
      else []
    | none => [])

end SeeMirai.Reconcile
