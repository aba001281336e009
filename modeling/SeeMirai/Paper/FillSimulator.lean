/-
`simulatePaperFill` (application/execution/paper-fill-simulator.ts): what an order takes from an orderbook snapshot at
once, and what is left of it. A pure function of the intent, the snapshots and the fill options.

The printed decimals of the source are kept as the rationals they denote. The JSON metadata of a result is left out:
nothing reads it.

Results:
- `fillLoop_splits`: the depth walk splits what is asked for into a filled and a remaining part, neither negative.
- `simulatePaperFill_outcome`: a result splits the requested quantity into filled, open and canceled, all non-negative;
  only an open order status leaves something open, and only a LIMIT order has one.
-/
import SeeMirai.Shared.Orders
import SeeMirai.Lib.StableSort

namespace SeeMirai.Paper

open Fallible

/-! ## Model -/

inductive PaperFillPostOnlyTakerPolicy where
  | reject
  | pending
deriving DecidableEq, Repr

inductive PaperFillSimulationStatus where
  | filled
  | partiallyFilled
  | unfilled
  | postOnlyRejected
  | postOnlyPending
  | iocCanceled
  | fokCanceled
  | rejected
deriving DecidableEq, Repr

inductive PaperFillSimulationReasonCode where
  | limitCrossedFull
  | limitCrossedPartial
  | limitNotCrossed
  | postOnlyWouldTakeRejected
  | postOnlyWouldTakePending
  | iocFilledAndCanceled
  | iocUnfilledCanceled
  | fokNotFilled
  | marketOrderSimulationDisabled
  | latencySnapshotMissing
  | orderbookSnapshotMissing
  | orderbookIntentMismatch
deriving DecidableEq, Repr

/-- a number of milliseconds: a JavaScript number; minus infinity acts as any negative number -/
inductive LatencyMs where
  | finite (ms : ℚ)
  | infinite
  | notANumber
deriving DecidableEq

structure PaperFillSimulatorOptions where
  submittedAt : Option MarketTimestamp
  latencyMs : Option LatencyMs
  postOnlyTakerPolicy : Option PaperFillPostOnlyTakerPolicy
  defaultTimeInForce : Option TimeInForce
  takerFeeBps : Option String
deriving DecidableEq

structure PaperFill where
  price : ℚ
  quantity : ℚ
  notional : ℚ
  fee : ℚ
deriving DecidableEq

/-- the quotient of two decimals; a zero divisor prints as `Infinity` or `NaN` -/
inductive Quotient where
  | finite (value : ℚ)
  | nonFinite
deriving DecidableEq

structure ExecutableDepthResult where
  fills : List PaperFill
  filledQuantity : ℚ
  totalFillNotional : ℚ
  totalFee : ℚ
  averageFillPrice : Option ℚ
  slippageBps : Option Quotient
deriving DecidableEq

structure PaperFillSimulationResult where
  status : PaperFillSimulationStatus
  orderStatus : OrderLifecycleStatus
  reasonCode : PaperFillSimulationReasonCode
  requestedQuantity : ℚ
  filledQuantity : ℚ
  openQuantity : ℚ
  canceledQuantity : ℚ
  averageFillPrice : Option ℚ
  totalFillNotional : Option ℚ
  totalFee : Option ℚ
  slippageBps : Option Quotient
  fills : List PaperFill
  orderbookReceivedAt : Option MarketTimestamp
deriving DecidableEq

/-- nothing filled: a closed order cancels all of its quantity, an open one keeps it open -/
def createNoFillResult (status : PaperFillSimulationStatus) (orderStatus : OrderLifecycleStatus)
    (reasonCode : PaperFillSimulationReasonCode) (requestedQuantity : ℚ) : PaperFillSimulationResult :=
  let closesOrder : Bool := orderStatus = .canceled ∨ orderStatus = .rejected
  { status := status
    orderStatus := orderStatus
    reasonCode := reasonCode
    requestedQuantity := requestedQuantity
    filledQuantity := 0
    openQuantity := if closesOrder then 0 else requestedQuantity
    canceledQuantity := if closesOrder then requestedQuantity else 0
    averageFillPrice := none
    totalFillNotional := none
    totalFee := none
    slippageBps := none
    fills := []
    orderbookReceivedAt := none }

def createFillResult (status : PaperFillSimulationStatus) (orderStatus : OrderLifecycleStatus)
    (reasonCode : PaperFillSimulationReasonCode) (requestedQuantity : ℚ) (depth : ExecutableDepthResult)
    (openQuantity canceledQuantity : ℚ) (orderbookReceivedAt : MarketTimestamp) : PaperFillSimulationResult where
  status := status
  orderStatus := orderStatus
  reasonCode := reasonCode
  requestedQuantity := requestedQuantity
  filledQuantity := depth.filledQuantity
  openQuantity := openQuantity
  canceledQuantity := canceledQuantity
  averageFillPrice := depth.averageFillPrice
  totalFillNotional := some depth.totalFillNotional
  totalFee := some depth.totalFee
  slippageBps := depth.slippageBps
  fills := depth.fills
  orderbookReceivedAt := some orderbookReceivedAt

def latencyMsToNanos : LatencyMs → Except Thrown Int
  | .finite ms => pure ⌊max ms 0 * 1000000⌋
  | .infinite => throw ⟨"Error", "Invalid latencyMs: Infinity"⟩
  | .notANumber => throw ⟨"Error", "Invalid latencyMs: NaN"⟩

/-- the first snapshot received at or after a time; the times before it are read on the way -/
def findReceivedFrom (time : Int) : List OrderbookEvent → Except Thrown (Option OrderbookEvent)
  | [] => pure none
  | snapshot :: snapshots => do
    let receivedAt ← readTimestampNanos snapshot.receivedAt
    if time ≤ receivedAt then pure (some snapshot) else findReceivedFrom time snapshots

def selectExecutionOrderbook (snapshots : List OrderbookEvent) (options : PaperFillSimulatorOptions) :
    Except Thrown (Option OrderbookEvent) :=
  if snapshots = [] then pure none
  else
    match options.submittedAt with
    | none => pure snapshots.head?
    | some submittedAt => do
      let latencyNanos ← latencyMsToNanos (options.latencyMs.getD (.finite 0))
      let submitted ← readTimestampNanos submittedAt
      findReceivedFrom (submitted + latencyNanos) snapshots

def calculateSignedSlippageBps (side : OrderSide) (requestedPrice averageFillPrice : ℚ) : Quotient :=
  let priceDiff :=
    match side with
    | .buy => averageFillPrice - requestedPrice
    | .sell => requestedPrice - averageFillPrice
  if requestedPrice = 0 then .nonFinite else .finite (priceDiff / requestedPrice * 10000)

/-- a level price the limit admits -/
def withinLimit (side : OrderSide) (limitPrice levelPrice : ℚ) : Bool :=
  match side with
  | .buy => levelPrice ≤ limitPrice
  | .sell => limitPrice ≤ levelPrice

/-- the accumulators of the depth walk -/
structure DepthWalk where
  remainingQuantity : ℚ
  filledQuantity : ℚ
  totalFillNotional : ℚ
  totalFee : ℚ
  fills : List PaperFill

def DepthWalk.take (walk : DepthWalk) (levelPrice size takerFeeBps : ℚ) : DepthWalk :=
  let fillQuantity := min walk.remainingQuantity size
  let notional := fillQuantity * levelPrice
  let fee := notional * takerFeeBps / 10000
  { remainingQuantity := walk.remainingQuantity - fillQuantity
    filledQuantity := walk.filledQuantity + fillQuantity
    totalFillNotional := walk.totalFillNotional + notional
    totalFee := walk.totalFee + fee
    fills := walk.fills ++ [⟨levelPrice, fillQuantity, notional, fee⟩] }

section Simulate

variable [Host]

/-- the value a price is sorted by -/
def priceValue (level : OrderbookLevel) : ℚ := (Host.valueOf level.price).getD 0

/-- `sortAsks` and `sortBids`: best price first -/
def bestFirst (side : OrderSide) (left right : OrderbookLevel) : Ordering :=
  match side with
  | .buy => compare (priceValue left) (priceValue right)
  | .sell => compare (priceValue right) (priceValue left)

/-- prices are parsed once there are two levels to compare -/
def sortLevels (side : OrderSide) (levels : List OrderbookLevel) : Except Thrown (List OrderbookLevel) := do
  if 2 ≤ levels.length then
    let _ ← levels.mapM (fun level => parseFinancialDecimal level.price)
  pure (stableSort (bestFirst side) levels)

/-- the side of the book an order takes from, best price first -/
def opposingLevels (side : OrderSide) (orderbook : OrderbookEvent) : Except Thrown (List OrderbookLevel) :=
  match side with
  | .buy => sortLevels .buy orderbook.asks
  | .sell => sortLevels .sell orderbook.bids

def isLimitOrderImmediatelyExecutable (side : OrderSide) (requestedPrice : String) (orderbook : OrderbookEvent) :
    Except Thrown Bool := do
  let limitPrice ← parseFinancialDecimal requestedPrice
  let levels ← opposingLevels side orderbook
  match levels with
  | [] => pure false
  | best :: _ => do
    let bestPrice ← parseFinancialDecimal best.price
    pure (withinLimit side limitPrice bestPrice)

def fillLoop (side : OrderSide) (limitPrice takerFeeBps : ℚ) (walk : DepthWalk) :
    List OrderbookLevel → Except Thrown DepthWalk
  | [] => pure walk
  | level :: levels => do
    let levelPrice ← parseFinancialDecimal level.price
    if withinLimit side limitPrice levelPrice = false ∨ walk.remainingQuantity ≤ 0 then pure walk
    else do
      let size ← parseFinancialDecimal level.size
      fillLoop side limitPrice takerFeeBps (walk.take levelPrice size takerFeeBps) levels

def calculateExecutableDepth (intent : OrderIntent) (requestedPrice : String) (orderbook : OrderbookEvent)
    (options : PaperFillSimulatorOptions) : Except Thrown ExecutableDepthResult := do
  let limitPrice ← parseFinancialDecimal requestedPrice
  let levels ← opposingLevels intent.side orderbook
  let takerFeeBps ← parseFinancialDecimal (options.takerFeeBps.getD "0")
  let requestedQuantity ← parseFinancialDecimal intent.requestedQuantity
  let walk ← fillLoop intent.side limitPrice takerFeeBps ⟨requestedQuantity, 0, 0, 0, []⟩ levels
  let averageFillPrice := if 0 < walk.filledQuantity then some (walk.totalFillNotional / walk.filledQuantity) else none
  pure
    { fills := walk.fills
      filledQuantity := walk.filledQuantity
      totalFillNotional := walk.totalFillNotional
      totalFee := walk.totalFee
      averageFillPrice := averageFillPrice
      slippageBps := averageFillPrice.map (calculateSignedSlippageBps intent.side limitPrice) }

def simulatePostOnlyTakerRisk (options : PaperFillSimulatorOptions) (requestedQuantity : ℚ) :
    PaperFillSimulationResult :=
  match options.postOnlyTakerPolicy.getD .reject with
  | .pending => createNoFillResult .postOnlyPending .accepted .postOnlyWouldTakePending requestedQuantity
  | .reject => createNoFillResult .postOnlyRejected .rejected .postOnlyWouldTakeRejected requestedQuantity

/-- what becomes of the quantity that the depth leaves, by time in force -/
def classifyDepth (timeInForce : TimeInForce) (requestedQuantity : ℚ) (depth : ExecutableDepthResult)
    (receivedAt : MarketTimestamp) : PaperFillSimulationResult :=
  let openQuantity := requestedQuantity - depth.filledQuantity
  if timeInForce = .fok ∧ openQuantity ≠ 0 then
    createNoFillResult .fokCanceled .canceled .fokNotFilled requestedQuantity
  else if timeInForce = .ioc ∧ openQuantity ≠ 0 then
    if 0 < depth.filledQuantity then
      createFillResult .iocCanceled .canceled .iocFilledAndCanceled requestedQuantity depth 0 openQuantity receivedAt
    else createNoFillResult .iocCanceled .canceled .iocUnfilledCanceled requestedQuantity
  else if ¬ 0 < depth.filledQuantity then
    createNoFillResult .unfilled .accepted .limitNotCrossed requestedQuantity
  else if openQuantity = 0 then
    createFillResult .filled .filled .limitCrossedFull requestedQuantity depth 0 0 receivedAt
  else
    createFillResult .partiallyFilled .partiallyFilled .limitCrossedPartial requestedQuantity depth openQuantity 0
      receivedAt

/-- a LIMIT order against a snapshot of its own market that is not empty -/
def simulateAgainst (intent : OrderIntent) (requestedPrice : String) (postOnly : Bool)
    (timeInForce : Option TimeInForce) (orderbook : OrderbookEvent) (options : PaperFillSimulatorOptions)
    (requestedQuantity : ℚ) : Except Thrown PaperFillSimulationResult := do
  let timeInForce := (timeInForce.or options.defaultTimeInForce).getD .gtc
  let _ ← parseFinancialDecimal requestedPrice
  let wouldTakeLiquidity ← isLimitOrderImmediatelyExecutable intent.side requestedPrice orderbook
  if (postOnly ∨ timeInForce = .postOnly) ∧ wouldTakeLiquidity then
    pure (simulatePostOnlyTakerRisk options requestedQuantity)
  else do
    let depth ← calculateExecutableDepth intent requestedPrice orderbook options
    pure (classifyDepth timeInForce requestedQuantity depth orderbook.receivedAt)

def simulatePaperFill (intent : OrderIntent) (orderbooks : List OrderbookEvent) (options : PaperFillSimulatorOptions) :
    Except Thrown PaperFillSimulationResult := do
  let requestedQuantity ← parseFinancialDecimal intent.requestedQuantity
  let orderbook ← selectExecutionOrderbook orderbooks options
  match intent.terms with
  | .market => pure (createNoFillResult .rejected .rejected .marketOrderSimulationDisabled requestedQuantity)
  | .limit requestedPrice postOnly timeInForce =>
    match orderbook with
    | none => pure (createNoFillResult .unfilled .accepted .latencySnapshotMissing requestedQuantity)
    | some orderbook =>
      if orderbook.exchangeId ≠ intent.exchangeId ∨ orderbook.market ≠ intent.market then
        pure (createNoFillResult .rejected .rejected .orderbookIntentMismatch requestedQuantity)
      else if orderbook.asks = [] ∧ orderbook.bids = [] then
        pure (createNoFillResult .unfilled .accepted .orderbookSnapshotMissing requestedQuantity)
      else simulateAgainst intent requestedPrice postOnly timeInForce orderbook options requestedQuantity

end Simulate

/-! ## The depth walk -/

/-- filled and remaining make up what was asked for, and neither is negative -/
structure DepthWalk.Splits (requested : ℚ) (walk : DepthWalk) : Prop where
  remaining : 0 ≤ walk.remainingQuantity
  filled : 0 ≤ walk.filledQuantity
  sum : walk.filledQuantity + walk.remainingQuantity = requested

theorem DepthWalk.Splits.take {requested : ℚ} {walk : DepthWalk} (h : walk.Splits requested) {size : ℚ} (hs : 0 ≤ size)
    (levelPrice takerFeeBps : ℚ) : (walk.take levelPrice size takerFeeBps).Splits requested where
  remaining := sub_nonneg.2 (min_le_left _ _)
  filled := add_nonneg h.filled (le_min h.remaining hs)
  sum := by
    have := h.sum
    simp only [DepthWalk.take]
    linarith

/-- the fee does not exceed the proceeds -/
theorem DepthWalk.take_fee_le {requested : ℚ} {walk : DepthWalk} (h : walk.Splits requested)
    (hfee : walk.totalFee ≤ walk.totalFillNotional) {levelPrice size takerFeeBps : ℚ} (hs : 0 ≤ size)
    (hp : 0 ≤ levelPrice) (hbps : takerFeeBps ≤ 10000) :
    (walk.take levelPrice size takerFeeBps).totalFee ≤ (walk.take levelPrice size takerFeeBps).totalFillNotional := by
  have hnotional : 0 ≤ min walk.remainingQuantity size * levelPrice := mul_nonneg (le_min h.remaining hs) hp
  have hone : min walk.remainingQuantity size * levelPrice * takerFeeBps / 10000
      ≤ min walk.remainingQuantity size * levelPrice := by
    rw [div_le_iff₀ (by norm_num)]
    exact mul_le_mul_of_nonneg_left hbps hnotional
  exact add_le_add hfee hone

section Facts

variable [Host]

/-- no level offers a negative size -/
def SizesNonneg (levels : List OrderbookLevel) : Prop := ∀ level ∈ levels, ∀ q, Host.valueOf level.size = some q → 0 ≤ q

def OrderbookEvent.SizesNonneg (orderbook : OrderbookEvent) : Prop :=
  Paper.SizesNonneg orderbook.asks ∧ Paper.SizesNonneg orderbook.bids

theorem fillLoop_splits {side : OrderSide} {limitPrice takerFeeBps requested : ℚ} {levels : List OrderbookLevel}
    (hs : SizesNonneg levels) {walk walk' : DepthWalk} (h : fillLoop side limitPrice takerFeeBps walk levels = .ok walk')
    (hw : walk.Splits requested) : walk'.Splits requested := by
  induction levels generalizing walk with
  | nil =>
    obtain rfl : walk = walk' := pure_eq_ok.1 h
    exact hw
  | cons level levels ih =>
    obtain ⟨levelPrice, -, h⟩ := bind_eq_ok.1 h
    split at h
    · obtain rfl : walk = walk' := pure_eq_ok.1 h
      exact hw
    · obtain ⟨size, hsize, h⟩ := bind_eq_ok.1 h
      have hnn := hs level (by simp) size (parseFinancialDecimal_eq_ok.1 hsize)
      exact ih (fun l hl => hs l (by simp [hl])) h (hw.take hnn levelPrice takerFeeBps)

/-- a sale within a positive limit pays no more fee than it brings in -/
theorem fillLoop_sell_fee {limitPrice takerFeeBps requested : ℚ} (hl : 0 ≤ limitPrice) (hbps : takerFeeBps ≤ 10000)
    {levels : List OrderbookLevel} (hs : SizesNonneg levels) {walk walk' : DepthWalk}
    (h : fillLoop .sell limitPrice takerFeeBps walk levels = .ok walk') (hw : walk.Splits requested)
    (hfee : walk.totalFee ≤ walk.totalFillNotional) : walk'.totalFee ≤ walk'.totalFillNotional := by
  induction levels generalizing walk with
  | nil =>
    obtain rfl : walk = walk' := pure_eq_ok.1 h
    exact hfee
  | cons level levels ih =>
    obtain ⟨levelPrice, -, h⟩ := bind_eq_ok.1 h
    split at h
    · obtain rfl : walk = walk' := pure_eq_ok.1 h
      exact hfee
    · rename_i hgo
      rw [not_or, Bool.not_eq_false] at hgo
      obtain ⟨size, hsize, h⟩ := bind_eq_ok.1 h
      have hnn := hs level (by simp) size (parseFinancialDecimal_eq_ok.1 hsize)
      have hprice : limitPrice ≤ levelPrice := by simpa [withinLimit] using hgo.1
      exact ih (fun l hl => hs l (by simp [hl])) h (hw.take hnn levelPrice takerFeeBps)
        (DepthWalk.take_fee_le hw hfee hnn (hl.trans hprice) hbps)

theorem mem_sortLevels {side : OrderSide} {levels sorted : List OrderbookLevel} (h : sortLevels side levels = .ok sorted)
    {level : OrderbookLevel} : level ∈ sorted ↔ level ∈ levels := by
  have hsorted : sorted = stableSort (bestFirst side) levels := by
    unfold sortLevels at h
    split at h
    · obtain ⟨_, -, h⟩ := bind_eq_ok.1 h
      exact (pure_eq_ok.1 h).symm
    · exact (pure_eq_ok.1 h).symm
  rw [hsorted, mem_stableSort]

theorem opposingLevels_sizes {side : OrderSide} {orderbook : OrderbookEvent} (hs : OrderbookEvent.SizesNonneg orderbook)
    {levels : List OrderbookLevel} (h : opposingLevels side orderbook = .ok levels) : SizesNonneg levels := by
  intro level hl
  cases side with
  | buy => exact hs.1 level ((mem_sortLevels h).1 hl)
  | sell => exact hs.2 level ((mem_sortLevels h).1 hl)

end Facts

/-! ## Outcomes -/

/-- the order statuses under which a broker order can be open -/
def isOpenStatus (status : OrderLifecycleStatus) : Bool :=
  status = .submitted ∨ status = .accepted ∨ status = .partiallyFilled

/-- what a simulation result says about the requested quantity -/
structure Outcome (intent : OrderIntent) (requested : ℚ) (result : PaperFillSimulationResult) : Prop where
  sum : result.filledQuantity + result.openQuantity + result.canceledQuantity = requested
  filled : 0 ≤ result.filledQuantity
  unfilled : 0 ≤ result.openQuantity
  stays : result.openQuantity ≠ 0 → isOpenStatus result.orderStatus = true ∧ intent.terms.orderType = .limit
  refused : result.orderStatus = .rejected → result.filledQuantity = 0 ∧ result.openQuantity = 0 ∧
    result.totalFillNotional = none ∧ result.totalFee = none

theorem noFill_outcome {intent : OrderIntent} {requested : ℚ} (hq : 0 ≤ requested) {status : PaperFillSimulationStatus}
    {orderStatus : OrderLifecycleStatus} {reasonCode : PaperFillSimulationReasonCode}
    (hstatus : orderStatus = .canceled ∨ orderStatus = .rejected ∨
      orderStatus = .accepted ∧ intent.terms.orderType = .limit) :
    Outcome intent requested (createNoFillResult status orderStatus reasonCode requested) := by
  rcases hstatus with rfl | rfl | ⟨rfl, hlimit⟩
  · constructor <;> simp [createNoFillResult]
  · constructor <;> simp [createNoFillResult]
  · constructor <;> simp [createNoFillResult, isOpenStatus, hq, hlimit]

theorem classifyDepth_outcome {intent : OrderIntent} (hlimit : intent.terms.orderType = .limit) {requested : ℚ}
    (hq : 0 ≤ requested) {depth : ExecutableDepthResult} (hfilled : 0 ≤ depth.filledQuantity)
    (hle : depth.filledQuantity ≤ requested) (timeInForce : TimeInForce) (receivedAt : MarketTimestamp) :
    Outcome intent requested (classifyDepth timeInForce requested depth receivedAt) := by
  unfold classifyDepth
  simp only
  split_ifs with hfok hioc hsome hnone hfull
  · exact noFill_outcome hq (Or.inl rfl)
  · constructor <;> simp [createFillResult, hfilled]
  · exact noFill_outcome hq (Or.inl rfl)
  · constructor <;> simp_all [createFillResult]
    linarith
  · constructor <;> simp_all [createFillResult, isOpenStatus]
  · exact noFill_outcome hq (Or.inr (Or.inr ⟨rfl, hlimit⟩))

theorem findReceivedFrom_mem {time : Int} {snapshots : List OrderbookEvent} {orderbook : OrderbookEvent}
    (h : findReceivedFrom time snapshots = .ok (some orderbook)) : orderbook ∈ snapshots := by
  induction snapshots with
  | nil => cases pure_eq_ok.1 h
  | cons snapshot snapshots ih =>
    obtain ⟨receivedAt, -, h⟩ := bind_eq_ok.1 h
    split at h
    · cases pure_eq_ok.1 h
      simp
    · exact List.mem_cons_of_mem _ (ih h)

theorem selectExecutionOrderbook_mem {options : PaperFillSimulatorOptions} {snapshots : List OrderbookEvent} {orderbook : OrderbookEvent}
    (h : selectExecutionOrderbook snapshots options = .ok (some orderbook)) : orderbook ∈ snapshots := by
  unfold selectExecutionOrderbook at h
  split at h
  · cases pure_eq_ok.1 h
  · split at h
    · exact List.mem_of_head? (pure_eq_ok.1 h)
    · obtain ⟨latency, -, h⟩ := bind_eq_ok.1 h
      obtain ⟨submitted, -, h⟩ := bind_eq_ok.1 h
      exact findReceivedFrom_mem h

section Outcomes

variable [Host] {intent : OrderIntent} {options : PaperFillSimulatorOptions}

theorem calculateExecutableDepth_splits {requestedPrice : String} {orderbook : OrderbookEvent}
    (hs : OrderbookEvent.SizesNonneg orderbook) {requested : ℚ} (hreq : Host.valueOf intent.requestedQuantity = some requested)
    (hq : 0 ≤ requested) {depth : ExecutableDepthResult}
    (h : calculateExecutableDepth intent requestedPrice orderbook options = .ok depth) :
    0 ≤ depth.filledQuantity ∧ depth.filledQuantity ≤ requested := by
  obtain ⟨limitPrice, -, h⟩ := bind_eq_ok.1 h
  obtain ⟨levels, hlevels, h⟩ := bind_eq_ok.1 h
  obtain ⟨takerFeeBps, -, h⟩ := bind_eq_ok.1 h
  obtain ⟨quantity, hquantity, h⟩ := bind_eq_ok.1 h
  obtain ⟨walk, hwalk, h⟩ := bind_eq_ok.1 h
  have heq : requested = quantity := Option.some.inj (hreq.symm.trans (parseFinancialDecimal_eq_ok.1 hquantity))
  have hsplits := fillLoop_splits (opposingLevels_sizes hs hlevels) hwalk ⟨heq ▸ hq, le_refl 0, zero_add _⟩
  obtain rfl := pure_eq_ok.1 h
  have := hsplits.sum
  have := hsplits.remaining
  exact ⟨hsplits.filled, by simp only; linarith⟩

theorem calculateExecutableDepth_sell_fee {requestedPrice : String} {orderbook : OrderbookEvent}
    (hs : OrderbookEvent.SizesNonneg orderbook) (hside : intent.side = .sell)
    (hq : ∀ q, Host.valueOf intent.requestedQuantity = some q → 0 ≤ q)
    (hp : ∀ p, Host.valueOf requestedPrice = some p → 0 ≤ p)
    (hbps : ∀ b, Host.valueOf (options.takerFeeBps.getD "0") = some b → b ≤ 10000) {depth : ExecutableDepthResult}
    (h : calculateExecutableDepth intent requestedPrice orderbook options = .ok depth) :
    depth.totalFee ≤ depth.totalFillNotional := by
  obtain ⟨limitPrice, hlimit, h⟩ := bind_eq_ok.1 h
  obtain ⟨levels, hlevels, h⟩ := bind_eq_ok.1 h
  obtain ⟨takerFeeBps, hfee, h⟩ := bind_eq_ok.1 h
  obtain ⟨quantity, hquantity, h⟩ := bind_eq_ok.1 h
  obtain ⟨walk, hwalk, h⟩ := bind_eq_ok.1 h
  rw [parseFinancialDecimal_eq_ok] at hlimit hfee hquantity
  rw [hside] at hwalk
  obtain rfl := pure_eq_ok.1 h
  exact fillLoop_sell_fee (hp _ hlimit) (hbps _ hfee) (opposingLevels_sizes hs hlevels) hwalk
    ⟨hq _ hquantity, le_refl 0, zero_add _⟩ (le_refl 0)

/-- the shapes a simulation can end in: nothing filled, or the depth of a LIMIT order's own snapshot classified -/
inductive Simulated (intent : OrderIntent) (orderbooks : List OrderbookEvent) (options : PaperFillSimulatorOptions)
    (requested : ℚ) : PaperFillSimulationResult → Prop where
  | noFill (status : PaperFillSimulationStatus) (orderStatus : OrderLifecycleStatus)
      (reasonCode : PaperFillSimulationReasonCode)
      (hstatus : orderStatus = .rejected ∨ orderStatus = .accepted ∧ intent.terms.orderType = .limit) :
      Simulated intent orderbooks options requested (createNoFillResult status orderStatus reasonCode requested)
  | depth (price : String) (postOnly : Bool) (given : Option TimeInForce) (timeInForce : TimeInForce)
      (orderbook : OrderbookEvent) (depth : ExecutableDepthResult) (hterms : intent.terms = .limit price postOnly given)
      (hmem : orderbook ∈ orderbooks) (hdepth : calculateExecutableDepth intent price orderbook options = .ok depth) :
      Simulated intent orderbooks options requested (classifyDepth timeInForce requested depth orderbook.receivedAt)

theorem simulatePaperFill_simulated {orderbooks : List OrderbookEvent} {result : PaperFillSimulationResult}
    (h : simulatePaperFill intent orderbooks options = .ok result) :
    ∃ requested, Host.valueOf intent.requestedQuantity = some requested ∧
      Simulated intent orderbooks options requested result := by
  obtain ⟨requested, hreq, h⟩ := bind_eq_ok.1 h
  obtain ⟨selected, hsel, h⟩ := bind_eq_ok.1 h
  refine ⟨requested, parseFinancialDecimal_eq_ok.1 hreq, ?_⟩
  cases hterms : intent.terms with
  | market =>
    simp only [hterms] at h
    rw [← pure_eq_ok.1 h]
    exact .noFill _ _ _ (Or.inl rfl)
  | limit price postOnly given =>
    have hlimit : intent.terms.orderType = .limit := by rw [hterms]; rfl
    simp only [hterms] at h
    cases selected with
    | none =>
      rw [← pure_eq_ok.1 h]
      exact .noFill _ _ _ (Or.inr ⟨rfl, hlimit⟩)
    | some orderbook =>
      simp only at h
      split at h
      · rw [← pure_eq_ok.1 h]
        exact .noFill _ _ _ (Or.inl rfl)
      · split at h
        · rw [← pure_eq_ok.1 h]
          exact .noFill _ _ _ (Or.inr ⟨rfl, hlimit⟩)
        · unfold simulateAgainst at h
          obtain ⟨_, -, h⟩ := bind_eq_ok.1 h
          obtain ⟨taker, -, h⟩ := bind_eq_ok.1 h
          split at h
          · rw [← pure_eq_ok.1 h]
            unfold simulatePostOnlyTakerRisk
            split
            · exact .noFill _ _ _ (Or.inr ⟨rfl, hlimit⟩)
            · exact .noFill _ _ _ (Or.inl rfl)
          · obtain ⟨depth, hdepth, h⟩ := bind_eq_ok.1 h
            rw [← pure_eq_ok.1 h]
            exact .depth price postOnly given _ orderbook depth hterms (selectExecutionOrderbook_mem hsel) hdepth

/-- **Outcomes.** The requested quantity is split into filled, open and canceled parts, none negative; what stays open
stays on a LIMIT order with an open status; a rejected order fills nothing. -/
theorem simulatePaperFill_outcome {orderbooks : List OrderbookEvent}
    (hs : ∀ orderbook ∈ orderbooks, OrderbookEvent.SizesNonneg orderbook)
    (hq : ∀ q, Host.valueOf intent.requestedQuantity = some q → 0 ≤ q) {result : PaperFillSimulationResult}
    (h : simulatePaperFill intent orderbooks options = .ok result) :
    ∃ requested, Host.valueOf intent.requestedQuantity = some requested ∧ Outcome intent requested result := by
  obtain ⟨requested, hreq, hsim⟩ := simulatePaperFill_simulated h
  refine ⟨requested, hreq, ?_⟩
  cases hsim with
  | noFill status orderStatus reasonCode hstatus => exact noFill_outcome (hq _ hreq) (Or.inr hstatus)
  | depth price postOnly given timeInForce orderbook depth hterms hmem hdepth =>
    obtain ⟨hfilled, hle⟩ := calculateExecutableDepth_splits (hs orderbook hmem) hreq (hq _ hreq) hdepth
    exact classifyDepth_outcome (by rw [hterms]; rfl) (hq _ hreq) hfilled hle _ _

/-- a simulated sale never costs money -/
theorem simulatePaperFill_sell_fee {orderbooks : List OrderbookEvent}
    (hs : ∀ orderbook ∈ orderbooks, OrderbookEvent.SizesNonneg orderbook) (hside : intent.side = .sell)
    (hq : ∀ q, Host.valueOf intent.requestedQuantity = some q → 0 ≤ q)
    (hp : ∀ price p, intent.terms.requestedPrice = some price → Host.valueOf price = some p → 0 ≤ p)
    (hbps : ∀ b, Host.valueOf (options.takerFeeBps.getD "0") = some b → b ≤ 10000)
    {result : PaperFillSimulationResult} (h : simulatePaperFill intent orderbooks options = .ok result) :
    result.totalFee.getD 0 ≤ result.totalFillNotional.getD 0 := by
  obtain ⟨requested, hreq, hsim⟩ := simulatePaperFill_simulated h
  cases hsim with
  | noFill => exact le_refl 0
  | depth price postOnly given timeInForce orderbook depth hterms hmem hdepth =>
    have hfee := calculateExecutableDepth_sell_fee (hs orderbook hmem) hside hq
      (fun p hpv => hp price p (by rw [hterms]; rfl) hpv) hbps hdepth
    unfold classifyDepth
    simp only
    split_ifs
    all_goals first
      | exact hfee
      | exact le_refl 0

end Outcomes

end SeeMirai.Paper
