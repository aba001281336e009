/-
What the durable store asks of a paper execution (infrastructure/db/execution-persistence): that the broker's order is
the submitted one, that its fill evidence adds up under its status, how it got from risk approval to that status, and
the fill rows it is booked with. All of it is pure; the repository writes around it are left out.

The metadata of a broker order is typed here, so the run-time checks of its JSON shape always pass. A fill's liquidity,
which is always TAKER, and the metadata of a transition event are left out.

Results:
- `assertFillEvidenceMatchesBrokerStatus_ok`: evidence that agrees with the order is accepted.
- `assertBrokerOrderMatchesSubmission_ok`: an order with the submission's identity and amounts is accepted.
- `createPaperExecutionStateTransitionEvents_legal`: from a persistable status the events are a chain of legal
  transitions from RISK_APPROVED to it.
-/
import SeeMirai.Paper.Broker
import SeeMirai.Risk.Runtime
import SeeMirai.Reconcile.OrderPolicy
import SeeMirai.Lib.SignificantDigits

namespace SeeMirai.Paper

open Fallible

/-! ## Data -/

/-- one execution to persist: what was submitted and what the broker made of it -/
structure PersistPaperExecutionInput where
  submission : OrderSubmission
  brokerOrder : BrokerOrder
deriving DecidableEq

structure EffectiveSimulationQuantities where
  requestedQuantity : ℚ
  filledQuantity : ℚ
  openQuantity : ℚ
  canceledQuantity : ℚ
deriving DecidableEq

structure OrderStateTransitionEvent where
  fromState : OrderLifecycleStatus
  toState : OrderLifecycleStatus
  reasonCode : String
  message : String
  occurredAt : MarketTimestamp
deriving DecidableEq

structure FillRowInput where
  orderId : String
  exchange : String
  market : String
  side : OrderSide
  price : ℚ
  quantity : ℚ
  fee : ℚ
  feeCurrency : String
  filledAt : MarketTimestamp
deriving DecidableEq

def persistenceError (message : String) : Thrown := ⟨"Error", message⟩

def throwIf (condition : Prop) [Decidable condition] (message : String) : Except Thrown Unit :=
  if condition then throw (persistenceError message) else pure ()

theorem throwIf_not {condition : Prop} [Decidable condition] (h : ¬ condition) (message : String) :
    throwIf condition message = .ok () := by
  unfold throwIf
  rw [if_neg h]
  rfl

/-! ## Evidence -/

def readPaperFillSimulation (order : BrokerOrder) : Option PaperFillSimulationResult := order.metadata.paperFillSimulation

/-- the quantity a cancel resolved -/
def readPaperCancelEvidence (order : BrokerOrder) : Option ℚ :=
  order.metadata.paperCancel.map (fun cancel => cancel.2.canceledQuantity)

/-- rounded to a number of decimal places, half away from zero -/
def decimalAtScale (scale : ℕ) (value : ℚ) : ℚ := roundHalfUp (value * 10 ^ scale) / 10 ^ scale

def addMismatchIf (mismatches : List String) (field : String) (mismatch : Bool) : List String :=
  if mismatch then mismatches ++ [field] else mismatches

/-- a cancel's evidence settles the open quantity of the simulation it came after -/
def createEffectiveSimulationQuantities (input : PersistPaperExecutionInput) (simulation : PaperFillSimulationResult) :
    Except Thrown EffectiveSimulationQuantities :=
  let quantities : EffectiveSimulationQuantities :=
    ⟨simulation.requestedQuantity, simulation.filledQuantity, simulation.openQuantity, simulation.canceledQuantity⟩
  match readPaperCancelEvidence input.brokerOrder with
  | none => pure quantities
  | some cancelCanceledQuantity =>
    if input.brokerOrder.status ≠ .canceled then pure quantities
    else do
      throwIf (cancelCanceledQuantity ≠ simulation.openQuantity)
        "paper cancel quantity does not match open simulation quantity"
      pure
        { quantities with
          openQuantity := 0
          canceledQuantity := simulation.canceledQuantity + cancelCanceledQuantity }

/-- the quantities a status admits; a status that is not named admits any -/
def assertStateSpecificQuantityInvariants (input : PersistPaperExecutionInput)
    (quantities : EffectiveSimulationQuantities) : Except Thrown Unit :=
  let remainingQuantity := input.brokerOrder.remainingQuantity
  let { requestedQuantity, filledQuantity, openQuantity, canceledQuantity } := quantities
  match input.brokerOrder.status with
  | .filled => do
    throwIf (filledQuantity ≠ requestedQuantity ∨ openQuantity ≠ 0 ∨ canceledQuantity ≠ 0)
      "filled paper execution quantity breakdown is inconsistent"
    throwIf (remainingQuantity ≠ 0) "filled paper execution must not have remaining quantity"
  | .partiallyFilled =>
    throwIf (¬ 0 < filledQuantity ∨ ¬ 0 < openQuantity ∨ ¬ openQuantity < requestedQuantity ∨ canceledQuantity ≠ 0)
      "partially filled paper execution requires positive open quantity below requested quantity"
  | .canceled => do
    throwIf (remainingQuantity ≠ 0 ∨ openQuantity ≠ 0) "canceled paper execution must not have remaining quantity"
    throwIf (¬ 0 < canceledQuantity ∨ ¬ filledQuantity < requestedQuantity)
      "canceled paper execution requires positive canceled quantity below requested quantity"
  | .accepted =>
    throwIf (filledQuantity ≠ 0 ∨ canceledQuantity ≠ 0 ∨ openQuantity ≠ requestedQuantity)
      "accepted paper execution must keep the full requested quantity open"
  | _ => pure ()

/-- a cancel and a rejection for want of balance are the two ways to leave the simulated status -/
def assertSimulationStatusCompatible (input : PersistPaperExecutionInput) (simulation : PaperFillSimulationResult) :
    Except Thrown Unit :=
  let order := input.brokerOrder
  throwIf
    (simulation.orderStatus ≠ order.status ∧
      ¬ (order.status = .canceled ∧ (readPaperCancelEvidence order).isSome) ∧
      ¬ (order.status = .rejected ∧ order.metadata.paperBalanceRejection.isSome))
    "paper simulation order status does not match broker order status"

def assertSimulationQuantityMatchesBrokerOrder (input : PersistPaperExecutionInput)
    (simulation : PaperFillSimulationResult) : Except Thrown Unit := do
  let quantities ← createEffectiveSimulationQuantities input simulation
  throwIf (quantities.filledQuantity + quantities.openQuantity + quantities.canceledQuantity
      ≠ quantities.requestedQuantity)
    "paper simulation quantities do not add up to requested quantity"
  if input.brokerOrder.status = .rejected then pure ()
  else do
    throwIf (decimalAtScale 18 input.brokerOrder.requestedQuantity ≠ decimalAtScale 18 simulation.requestedQuantity)
      "paper simulation requested quantity does not match broker order requested quantity"
    throwIf (input.brokerOrder.remainingQuantity ≠ quantities.openQuantity)
      "paper simulation open quantity does not match broker order remaining quantity"
    assertStateSpecificQuantityInvariants input quantities

def assertFillEvidenceMatchesBrokerStatus (input : PersistPaperExecutionInput) : Except Thrown Unit := do
  let simulation := readPaperFillSimulation input.brokerOrder
  throwIf
    ((input.brokerOrder.status = .filled ∨ input.brokerOrder.status = .partiallyFilled) ∧
      ¬ ∃ evidence ∈ simulation, evidence.fills ≠ [] ∧ 0 < evidence.filledQuantity)
    "filled paper execution requires fill evidence"
  match simulation with
  | none => pure ()
  | some simulation => do
    assertSimulationStatusCompatible input simulation
    assertSimulationQuantityMatchesBrokerOrder input simulation
    throwIf ((simulation.fills.map PaperFill.quantity).sum ≠ simulation.filledQuantity)
      "paper fill evidence quantity does not match simulation filled quantity"
    throwIf (0 < simulation.filledQuantity ∧ simulation.fills = [])
      "positive paper fill quantity requires at least one fill row"

/-! ## State transitions -/

def hasPaperFills (input : PersistPaperExecutionInput) : Bool :=
  ((readPaperFillSimulation input.brokerOrder).map PaperFillSimulationResult.fills).getD [] ≠ []

def createPaperExecutionTargetStatuses (input : PersistPaperExecutionInput) : Except Thrown (List OrderLifecycleStatus) :=
  match input.brokerOrder.status with
  | .submitted => pure [.submitted]
  | .accepted => pure [.submitted, .accepted]
  | .partiallyFilled => pure [.submitted, .accepted, .partiallyFilled]
  | .filled => pure [.submitted, .accepted, .filled]
  | .canceled =>
    if hasPaperFills input then pure [.submitted, .accepted, .partiallyFilled, .cancelRequested, .canceled]
    else pure [.submitted, .accepted, .cancelRequested, .canceled]
  | .rejected => pure [.submitted, .rejected]
  | .expired => pure [.submitted, .accepted, .expired]
  | .failed => pure [.submitted, .failed]
  | .manualReviewRequired => pure [.submitted, .manualReviewRequired]
  | status =>
    throw (persistenceError ("paper execution final status is not persistable from RISK_APPROVED: "
      ++ Reconcile.orderStatusText status))

def selectTransitionTimestamp (toState : OrderLifecycleStatus) (input : PersistPaperExecutionInput) : MarketTimestamp :=
  match toState with
  | .submitted => input.submission.submittedAt
  | .accepted => input.brokerOrder.acceptedAt.getD input.brokerOrder.updatedAt
  | _ => input.brokerOrder.updatedAt

def createPaperExecutionReasonCode (fromState toState : OrderLifecycleStatus) : String :=
  "paper_execution_" ++ (Reconcile.orderStatusText fromState).toLower ++ "_to_"
    ++ (Reconcile.orderStatusText toState).toLower

/-- the loop over the target statuses, each taken from the one before it -/
def createTransitionEvents (input : PersistPaperExecutionInput) (fromState : OrderLifecycleStatus) :
    List OrderLifecycleStatus → Except Thrown (List OrderStateTransitionEvent)
  | [] => pure []
  | toState :: targetStatuses => do
    let arrow := Reconcile.orderStatusText fromState ++ " -> " ++ Reconcile.orderStatusText toState
    let decision := Risk.transitionOrderState fromState toState (createPaperExecutionReasonCode fromState toState)
      ("Paper execution state transition: " ++ arrow)
    throwIf (decision.accepted = false) ("paper execution produced illegal order transition: " ++ arrow)
    let events ← createTransitionEvents input toState targetStatuses
    pure (⟨decision.fromState, decision.toState, decision.reasonCode, decision.message,
      selectTransitionTimestamp toState input⟩ :: events)

def createPaperExecutionStateTransitionEvents (input : PersistPaperExecutionInput) :
    Except Thrown (List OrderStateTransitionEvent) := do
  let targetStatuses ← createPaperExecutionTargetStatuses input
  createTransitionEvents input .riskApproved targetStatuses

/-- each event starts where the one before it ended, and is a transition of the order state machine -/
def LegalChain (start : OrderLifecycleStatus) : List OrderStateTransitionEvent → OrderLifecycleStatus → Prop
  | [], final => start = final
  | event :: events, final =>
    event.fromState = start ∧ canTransitionOrderState start event.toState = true ∧ LegalChain event.toState events final

/-! ## Fill rows -/

/-- a balance rejection keeps its simulated fills out of the books -/
def shouldPersistFillRows (brokerStatus : OrderLifecycleStatus) (simulation : PaperFillSimulationResult) : Bool :=
  brokerStatus = .filled ∨ brokerStatus = .partiallyFilled ∨ brokerStatus = .canceled ∧ 0 < simulation.filledQuantity

section Host

variable [Host]

def decimalStringEquals (left right : String) : Except Thrown Bool := do
  let leftValue ← parseFinancialDecimal left
  let rightValue ← parseFinancialDecimal right
  pure (leftValue = rightValue)

/-- only a LIMIT order has a price to compare -/
def requestedPriceMismatch (input : PersistPaperExecutionInput) : Except Thrown Bool :=
  match input.submission.intent.terms with
  | .market => pure false
  | .limit requestedPrice _ _ =>
    match input.brokerOrder.requestedPrice with
    | none => pure true
    | some brokerPrice => not <$> decimalStringEquals brokerPrice requestedPrice

def assertBrokerOrderMatchesSubmission (input : PersistPaperExecutionInput) : Except Thrown Unit := do
  let intent := input.submission.intent
  let order := input.brokerOrder
  let mismatches := addMismatchIf [] "idempotency_key" (order.idempotencyKey ≠ intent.idempotencyKey)
  let mismatches := addMismatchIf mismatches "exchange" (order.exchangeId ≠ intent.exchangeId)
  let mismatches := addMismatchIf mismatches "market" (order.market ≠ intent.market)
  let mismatches := addMismatchIf mismatches "side" (order.side ≠ intent.side)
  let mismatches := addMismatchIf mismatches "order_type" (order.orderType ≠ intent.terms.orderType)
  let requestedQuantity ← parseFinancialDecimal intent.requestedQuantity
  let mismatches := addMismatchIf mismatches "requested_quantity" (order.requestedQuantity ≠ requestedQuantity)
  let priceMismatch ← requestedPriceMismatch input
  let mismatches := addMismatchIf mismatches "requested_price" priceMismatch
  throwIf (mismatches ≠ []) ("broker order does not match execution submission: " ++ ", ".intercalate mismatches)

/-- `parseMarketQuoteCurrency`: the market code is split at its first hyphen -/
def parseMarketQuoteCurrency (market : String) : Except Thrown String :=
  match market.toList.takeWhile (· ≠ '-'), market.toList.dropWhile (· ≠ '-') with
  | q :: quote, _ :: _ :: _ => pure (normalizeCurrency (String.ofList (q :: quote)))
  | _, _ =>
    throw (persistenceError ("execution persistence requires market codes in QUOTE-BASE format: " ++ market))

/-- the rows of one order; nothing of the submission is read -/
def createFillRows (orderId : String) (order : BrokerOrder) : Except Thrown (List FillRowInput) :=
  match readPaperFillSimulation order with
  | none => pure []
  | some simulation =>
    if simulation.fills = [] then pure []
    else if shouldPersistFillRows order.status simulation = false then pure []
    else do
      let quoteCurrency ← parseMarketQuoteCurrency order.market
      pure (simulation.fills.map (fun fill =>
        { orderId := orderId
          exchange := order.exchangeId
          market := order.market
          side := order.side
          price := fill.price
          quantity := fill.quantity
          fee := fill.fee
          feeCurrency := quoteCurrency
          filledAt := simulation.orderbookReceivedAt.getD order.updatedAt }))

def toFillRowInputs (orderId : String) (input : PersistPaperExecutionInput) : Except Thrown (List FillRowInput) :=
  createFillRows orderId input.brokerOrder

end Host

/-! ## Transitions -/

/-- a chain of legal steps is turned into events that say so -/
theorem createTransitionEvents_legal (input : PersistPaperExecutionInput) {start : OrderLifecycleStatus}
    {targetStatuses : List OrderLifecycleStatus}
    (h : List.IsChain (fun a b => canTransitionOrderState a b = true) (start :: targetStatuses)) :
    ∃ events, createTransitionEvents input start targetStatuses = .ok events ∧
      LegalChain start events ((start :: targetStatuses).getLast (by simp)) := by
  induction targetStatuses generalizing start with
  | nil => exact ⟨[], rfl, rfl⟩
  | cons toState targetStatuses ih =>
    obtain ⟨hstep, hrest⟩ := List.isChain_cons_cons.1 h
    obtain ⟨events, hevents, hlegal⟩ := ih hrest
    unfold createTransitionEvents
    simp only
    rw [throwIf_not (by simp [Risk.transitionOrderState, hstep]), ok_bind, hevents, ok_bind]
    refine ⟨_, rfl, ?_⟩
    rw [List.getLast_cons (by simp)]
    exact ⟨rfl, hstep, hlegal⟩

/-- every status but CREATED, VALIDATED, RISK_APPROVED, RISK_REJECTED and CANCEL_REQUESTED -/
def isPersistableStatus (status : OrderLifecycleStatus) : Bool :=
  status ∉ [.created, .validated, .riskApproved, .riskRejected, .cancelRequested]

/-- **Legal transitions.** From a persistable status the events are a chain of legal transitions from RISK_APPROVED. -/
theorem createPaperExecutionStateTransitionEvents_legal (input : PersistPaperExecutionInput)
    (h : isPersistableStatus input.brokerOrder.status = true) :
    ∃ events, createPaperExecutionStateTransitionEvents input = .ok events ∧
      LegalChain .riskApproved events input.brokerOrder.status := by
  have htargets : ∃ targetStatuses, createPaperExecutionTargetStatuses input = .ok targetStatuses ∧
      List.IsChain (fun a b => canTransitionOrderState a b = true) (.riskApproved :: targetStatuses) ∧
      (OrderLifecycleStatus.riskApproved :: targetStatuses).getLast (by simp) = input.brokerOrder.status := by
    unfold createPaperExecutionTargetStatuses
    cases hstatus : input.brokerOrder.status <;> simp only [hstatus] at h ⊢
    case canceled =>
      split
      · exact ⟨_, rfl, by decide, rfl⟩
      · exact ⟨_, rfl, by decide, rfl⟩
    all_goals first
      | exact ⟨_, rfl, by decide, rfl⟩
      | cases h
  obtain ⟨targetStatuses, hok, hchain, hlast⟩ := htargets
  unfold createPaperExecutionStateTransitionEvents
  rw [hok, ok_bind, ← hlast]
  exact createTransitionEvents_legal input hchain

/-! ## Evidence that is accepted -/

/-- the quantities that a status admits -/
def StatusAdmits (status : OrderLifecycleStatus) (quantities : EffectiveSimulationQuantities) : Prop :=
  match status with
  | .filled =>
    quantities.filledQuantity = quantities.requestedQuantity ∧ quantities.openQuantity = 0 ∧
      quantities.canceledQuantity = 0
  | .partiallyFilled =>
    0 < quantities.filledQuantity ∧ 0 < quantities.openQuantity ∧
      quantities.openQuantity < quantities.requestedQuantity ∧ quantities.canceledQuantity = 0
  | .canceled =>
    quantities.openQuantity = 0 ∧ 0 < quantities.canceledQuantity ∧
      quantities.filledQuantity < quantities.requestedQuantity
  | .accepted =>
    quantities.filledQuantity = 0 ∧ quantities.canceledQuantity = 0 ∧
      quantities.openQuantity = quantities.requestedQuantity
  | _ => True

/-- what the checks on a simulated order come to -/
structure EvidenceAgrees (input : PersistPaperExecutionInput) (simulation : PaperFillSimulationResult)
    (quantities : EffectiveSimulationQuantities) : Prop where
  simulated : readPaperFillSimulation input.brokerOrder = some simulation
  compatible : simulation.orderStatus = input.brokerOrder.status ∨
    (input.brokerOrder.status = .canceled ∧ (readPaperCancelEvidence input.brokerOrder).isSome = true) ∨
    (input.brokerOrder.status = .rejected ∧ input.brokerOrder.metadata.paperBalanceRejection.isSome = true)
  effective : createEffectiveSimulationQuantities input simulation = .ok quantities
  sum : quantities.filledQuantity + quantities.openQuantity + quantities.canceledQuantity = quantities.requestedQuantity
  settled : input.brokerOrder.status ≠ .rejected →
    input.brokerOrder.requestedQuantity = simulation.requestedQuantity ∧
      input.brokerOrder.remainingQuantity = quantities.openQuantity ∧ StatusAdmits input.brokerOrder.status quantities
  fills : (simulation.fills.map PaperFill.quantity).sum = simulation.filledQuantity
  filled : input.brokerOrder.status = .filled ∨ input.brokerOrder.status = .partiallyFilled → 0 < simulation.filledQuantity

theorem assertStateSpecificQuantityInvariants_ok {input : PersistPaperExecutionInput}
    {quantities : EffectiveSimulationQuantities} (hopen : input.brokerOrder.remainingQuantity = quantities.openQuantity)
    (h : StatusAdmits input.brokerOrder.status quantities) :
    assertStateSpecificQuantityInvariants input quantities = .ok () := by
  unfold assertStateSpecificQuantityInvariants
  cases hstatus : input.brokerOrder.status <;> rw [hstatus] at h
  case filled =>
    obtain ⟨hfilled, hzero, hcanceled⟩ := h
    simp only
    rw [throwIf_not (by simp [hfilled, hzero, hcanceled]), ok_bind]
    exact throwIf_not (by simp [hopen, hzero]) _
  case partiallyFilled =>
    obtain ⟨hfilled, hpositive, hbelow, hcanceled⟩ := h
    exact throwIf_not (by simp [hfilled, hpositive, hbelow, hcanceled]) _
  case canceled =>
    obtain ⟨hzero, hcanceled, hfilled⟩ := h
    simp only
    rw [throwIf_not (by simp [hopen, hzero]), ok_bind]
    exact throwIf_not (by simp [hcanceled, hfilled]) _
  case accepted =>
    obtain ⟨hfilled, hcanceled, hwhole⟩ := h
    exact throwIf_not (by simp [hfilled, hcanceled, hwhole]) _
  all_goals rfl

theorem assertSimulationQuantityMatchesBrokerOrder_ok {input : PersistPaperExecutionInput}
    {simulation : PaperFillSimulationResult} {quantities : EffectiveSimulationQuantities}
    (h : EvidenceAgrees input simulation quantities) :
    assertSimulationQuantityMatchesBrokerOrder input simulation = .ok () := by
  unfold assertSimulationQuantityMatchesBrokerOrder
  rw [h.effective, ok_bind, throwIf_not (not_not.2 h.sum), ok_bind]
  split
  · rfl
  · rename_i hstatus
    obtain ⟨hrequested, hopen, hadmits⟩ := h.settled hstatus
    rw [throwIf_not (not_not.2 (by rw [hrequested])), ok_bind, throwIf_not (not_not.2 hopen), ok_bind]
    exact assertStateSpecificQuantityInvariants_ok hopen hadmits

theorem assertFillEvidenceMatchesBrokerStatus_ok {input : PersistPaperExecutionInput}
    {simulation : PaperFillSimulationResult} {quantities : EffectiveSimulationQuantities}
    (h : EvidenceAgrees input simulation quantities) : assertFillEvidenceMatchesBrokerStatus input = .ok () := by
  have hnonempty : 0 < simulation.filledQuantity → simulation.fills ≠ [] := by
    intro hfilled hempty
    rw [← h.fills, hempty] at hfilled
    exact lt_irrefl _ hfilled
  have hstatus : ¬ ((input.brokerOrder.status = .filled ∨ input.brokerOrder.status = .partiallyFilled) ∧
      ¬ ∃ evidence ∈ readPaperFillSimulation input.brokerOrder, evidence.fills ≠ [] ∧ 0 < evidence.filledQuantity) := by
    intro ⟨hstatus, hnone⟩
    have hfilled := h.filled hstatus
    exact hnone ⟨simulation, h.simulated, hnonempty hfilled, hfilled⟩
  have hcompatible : assertSimulationStatusCompatible input simulation = .ok () :=
    throwIf_not (fun hnot => h.compatible.elim hnot.1 (Or.rec hnot.2.1 hnot.2.2)) _
  unfold assertFillEvidenceMatchesBrokerStatus
  simp only
  rw [throwIf_not hstatus, ok_bind, h.simulated]
  simp only
  rw [hcompatible, ok_bind, assertSimulationQuantityMatchesBrokerOrder_ok h, ok_bind, throwIf_not (not_not.2 h.fills),
    ok_bind]
  exact throwIf_not (fun hnot => hnonempty hnot.1 hnot.2) _

/-- a rejected order without a simulation has nothing to check -/
theorem assertFillEvidenceMatchesBrokerStatus_refused {input : PersistPaperExecutionInput}
    (hstatus : input.brokerOrder.status = .rejected) (hnone : readPaperFillSimulation input.brokerOrder = none) :
    assertFillEvidenceMatchesBrokerStatus input = .ok () := by
  unfold assertFillEvidenceMatchesBrokerStatus
  simp only
  rw [throwIf_not (by simp [hstatus]), ok_bind, hnone]
  rfl

/-! ## Identity -/

section Host

variable [Host]

/-- an order with the submission's identity and amounts -/
structure SameOrder (submission : OrderSubmission) (order : BrokerOrder) : Prop where
  idempotencyKey : order.idempotencyKey = submission.intent.idempotencyKey
  exchangeId : order.exchangeId = submission.intent.exchangeId
  market : order.market = submission.intent.market
  side : order.side = submission.intent.side
  orderType : order.orderType = submission.intent.terms.orderType
  quantity : Host.valueOf submission.intent.requestedQuantity = some order.requestedQuantity
  price : ∀ requestedPrice, submission.intent.terms.requestedPrice = some requestedPrice →
    ∃ brokerPrice p, order.requestedPrice = some brokerPrice ∧ Host.valueOf brokerPrice = some p ∧
      Host.valueOf requestedPrice = some p

variable {submission : OrderSubmission} {order : BrokerOrder}

theorem SameOrder.requestedPrice_match (h : SameOrder submission order) :
    requestedPriceMismatch ⟨submission, order⟩ = .ok false := by
  unfold requestedPriceMismatch
  cases hterms : submission.intent.terms with
  | market => rfl
  | limit requestedPrice postOnly timeInForce =>
    obtain ⟨brokerPrice, p, hbroker, hbrokerValue, hvalue⟩ := h.price requestedPrice (by rw [hterms]; rfl)
    simp only [hbroker, decimalStringEquals, parseFinancialDecimal_eq_ok.2 hbrokerValue,
      parseFinancialDecimal_eq_ok.2 hvalue, ok_bind]
    simp [Functor.map, Except.map, pure, Except.pure]

theorem assertBrokerOrderMatchesSubmission_ok (h : SameOrder submission order) :
    assertBrokerOrderMatchesSubmission ⟨submission, order⟩ = .ok () := by
  unfold assertBrokerOrderMatchesSubmission
  simp only [h.idempotencyKey, h.exchangeId, h.market, h.side, h.orderType, h.requestedPrice_match,
    parseFinancialDecimal_eq_ok.2 h.quantity, ok_bind]
  exact throwIf_not (by simp [addMismatchIf]) _

end Host

end SeeMirai.Paper
