/-
Can the durable store take what the paper broker returns? The broker, the fill simulator and the validator of the
execution persistence each encode the life of an order on their own: a partial fill that is canceled later, what an IOC
order leaves, a fill that the balance rejects, a post-only order that waits. `FillShape` says what a simulation can end
in, with its fills adding up; `Made` what an order in the broker's memory can be; and every such order is accepted.

What the fill rows move is compared with what the balances did move, in every currency: available and locked together,
since a lock is no exchange.

Results:
- `simulatePaperFill_shape`: what a simulation can end in; no assumption on the orderbooks is needed.
- `Made.evidence` / `Made.transitions` / `Made.rows`: an order that the broker made is accepted by the store.
- `Recorded.step` / `Ledger.step`: every stored order was made so, and the balances moved by their fill rows.
- `paper_results_persistable`: whatever the run, results can be persisted, and the rows are what was exchanged.
-/
import SeeMirai.Paper.ExecutionPersistence
import SeeMirai.Paper.FingerprintSoundness
import SeeMirai.Paper.Idempotency

namespace SeeMirai.Paper

open Fallible

/-! ## Fills that add up -/

/-- the accumulators are the sums over the fills; where something is filled, it is no more than was asked for -/
structure DepthWalk.Accounts (requested : ℚ) (walk : DepthWalk) : Prop where
  sum : walk.filledQuantity + walk.remainingQuantity = requested
  bounded : 0 < walk.filledQuantity → 0 ≤ walk.remainingQuantity
  quantity : (walk.fills.map PaperFill.quantity).sum = walk.filledQuantity
  notional : (walk.fills.map (fun fill => fill.price * fill.quantity)).sum = walk.totalFillNotional
  fee : (walk.fills.map PaperFill.fee).sum = walk.totalFee

theorem DepthWalk.Accounts.take {requested : ℚ} {walk : DepthWalk} (h : walk.Accounts requested)
    (levelPrice size takerFeeBps : ℚ) : (walk.take levelPrice size takerFeeBps).Accounts requested where
  sum := by
    have := h.sum
    simp only [DepthWalk.take]
    linarith
  bounded _ := sub_nonneg.2 (min_le_left _ _)
  quantity := by simp [DepthWalk.take, h.quantity]
  notional := by simp [DepthWalk.take, h.notional, mul_comm]
  fee := by simp [DepthWalk.take, h.fee]

structure ExecutableDepthResult.Accounts (requested : ℚ) (depth : ExecutableDepthResult) : Prop where
  bounded : 0 < depth.filledQuantity → depth.filledQuantity ≤ requested
  quantity : (depth.fills.map PaperFill.quantity).sum = depth.filledQuantity
  notional : (depth.fills.map (fun fill => fill.price * fill.quantity)).sum = depth.totalFillNotional
  fee : (depth.fills.map PaperFill.fee).sum = depth.totalFee

/-- what becomes of the quantity that was not filled, by order status -/
def RestSettled (requested filled openQuantity canceledQuantity : ℚ) (orderStatus : OrderLifecycleStatus) : Prop :=
  match orderStatus with
  | .filled => filled = requested ∧ openQuantity = 0 ∧ canceledQuantity = 0
  | .partiallyFilled => filled < requested ∧ openQuantity = requested - filled ∧ canceledQuantity = 0
  | .canceled => filled < requested ∧ openQuantity = 0 ∧ canceledQuantity = requested - filled
  | _ => False

/-- what a simulation can end in: nothing filled, or a depth that filled something -/
inductive FillShape (requested : ℚ) : PaperFillSimulationResult → Prop where
  | noFill (status : PaperFillSimulationStatus) (orderStatus : OrderLifecycleStatus)
      (reasonCode : PaperFillSimulationReasonCode)
      (hstatus : orderStatus = .rejected ∨ orderStatus = .accepted ∨ orderStatus = .canceled) :
      FillShape requested (createNoFillResult status orderStatus reasonCode requested)
  | fill (status : PaperFillSimulationStatus) (orderStatus : OrderLifecycleStatus)
      (reasonCode : PaperFillSimulationReasonCode) (depth : ExecutableDepthResult) (openQuantity canceledQuantity : ℚ)
      (receivedAt : MarketTimestamp) (hdepth : depth.Accounts requested) (hfilled : 0 < depth.filledQuantity)
      (hrest : RestSettled requested depth.filledQuantity openQuantity canceledQuantity orderStatus) :
      FillShape requested
        (createFillResult status orderStatus reasonCode requested depth openQuantity canceledQuantity receivedAt)

theorem classifyDepth_shape {requested : ℚ} {depth : ExecutableDepthResult} (h : depth.Accounts requested)
    (timeInForce : TimeInForce) (receivedAt : MarketTimestamp) :
    FillShape requested (classifyDepth timeInForce requested depth receivedAt) := by
  have hlt : requested - depth.filledQuantity ≠ 0 → 0 < depth.filledQuantity → depth.filledQuantity < requested :=
    fun hne hfilled => lt_of_le_of_ne (h.bounded hfilled) (fun heq => hne (sub_eq_zero.2 heq.symm))
  unfold classifyDepth
  simp only
  split_ifs with hfok hioc hsome hnone hfull
  · exact .noFill _ _ _ (Or.inr (Or.inr rfl))
  · exact .fill _ _ _ depth _ _ receivedAt h hsome ⟨hlt hioc.2 hsome, rfl, rfl⟩
  · exact .noFill _ _ _ (Or.inr (Or.inr rfl))
  · exact .fill _ _ _ depth _ _ receivedAt h hnone ⟨(sub_eq_zero.1 hfull).symm, rfl, rfl⟩
  · exact .fill _ _ _ depth _ _ receivedAt h hnone ⟨hlt hfull hnone, rfl, rfl⟩
  · exact .noFill _ _ _ (Or.inr (Or.inl rfl))

/-- what a simulation filled is what its fills add up to -/
theorem FillShape.sums {requested : ℚ} {simulation : PaperFillSimulationResult} (h : FillShape requested simulation) :
    (simulation.fills.map PaperFill.quantity).sum = simulation.filledQuantity ∧
      (simulation.fills.map (fun fill => fill.price * fill.quantity)).sum = simulation.totalFillNotional.getD 0 ∧
      (simulation.fills.map PaperFill.fee).sum = simulation.totalFee.getD 0 := by
  cases h with
  | noFill => exact ⟨rfl, rfl, rfl⟩
  | fill _ _ _ depth _ _ _ hdepth => exact ⟨hdepth.quantity, hdepth.notional, hdepth.fee⟩

theorem FillShape.requested_eq {requested : ℚ} {simulation : PaperFillSimulationResult}
    (h : FillShape requested simulation) : simulation.requestedQuantity = requested := by
  cases h with
  | noFill => rfl
  | fill => rfl

/-- the breakdown that a simulation reports of itself -/
def PaperFillSimulationResult.quantities (simulation : PaperFillSimulationResult) : EffectiveSimulationQuantities :=
  ⟨simulation.requestedQuantity, simulation.filledQuantity, simulation.openQuantity, simulation.canceledQuantity⟩

theorem FillShape.sum {requested : ℚ} {simulation : PaperFillSimulationResult} (h : FillShape requested simulation) :
    simulation.filledQuantity + simulation.openQuantity + simulation.canceledQuantity = simulation.requestedQuantity := by
  cases h with
  | noFill status orderStatus reasonCode hstatus =>
    rcases hstatus with rfl | rfl | rfl
    all_goals simp [createNoFillResult]
  | fill status orderStatus reasonCode depth openQuantity canceledQuantity receivedAt hdepth hfilled hrest =>
    simp only [createFillResult]
    cases orderStatus <;> first
      | exact hrest.elim
      | (obtain ⟨hpart, hopen, hcanceled⟩ := hrest; linarith)

/-- a simulated status admits its own quantities -/
theorem FillShape.admits {requested : ℚ} {simulation : PaperFillSimulationResult} (h : FillShape requested simulation)
    (hpositive : 0 < requested) : StatusAdmits simulation.orderStatus simulation.quantities := by
  cases h with
  | noFill status orderStatus reasonCode hstatus =>
    rcases hstatus with rfl | rfl | rfl
    · trivial
    · exact ⟨rfl, by simp [PaperFillSimulationResult.quantities, createNoFillResult],
        by simp [PaperFillSimulationResult.quantities, createNoFillResult]⟩
    · refine ⟨by simp [PaperFillSimulationResult.quantities, createNoFillResult], ?_, hpositive⟩
      simpa [PaperFillSimulationResult.quantities, createNoFillResult] using hpositive
  | fill status orderStatus reasonCode depth openQuantity canceledQuantity receivedAt hdepth hfilled hrest =>
    cases orderStatus with
    | filled => exact hrest
    | partiallyFilled =>
      obtain ⟨hlt, hopen, hcanceled⟩ := hrest
      refine ⟨hfilled, ?_, ?_, hcanceled⟩
      · simp only [PaperFillSimulationResult.quantities, createFillResult, hopen]
        linarith
      · simp only [PaperFillSimulationResult.quantities, createFillResult, hopen]
        linarith
    | canceled =>
      obtain ⟨hlt, hopen, hcanceled⟩ := hrest
      refine ⟨hopen, ?_, hlt⟩
      simp only [PaperFillSimulationResult.quantities, createFillResult, hcanceled]
      linarith
    | _ => exact hrest.elim

/-- the fills of a simulation that filled nothing are none -/
theorem FillShape.filled {requested : ℚ} {simulation : PaperFillSimulationResult} (h : FillShape requested simulation) :
    (simulation.fills = [] ∧ simulation.filledQuantity = 0 ∧
      (simulation.orderStatus = .rejected ∨ simulation.orderStatus = .accepted ∨ simulation.orderStatus = .canceled)) ∨
    (0 < simulation.filledQuantity ∧ (simulation.orderStatus = .filled ∨ simulation.orderStatus = .partiallyFilled ∨
      simulation.orderStatus = .canceled)) := by
  cases h with
  | noFill status orderStatus reasonCode hstatus => exact Or.inl ⟨rfl, rfl, hstatus⟩
  | fill status orderStatus reasonCode depth openQuantity canceledQuantity receivedAt hdepth hfilled hrest =>
    refine Or.inr ⟨hfilled, ?_⟩
    cases orderStatus <;> first
      | exact hrest.elim
      | simp [createFillResult]

section Simulation

variable [Host]

theorem fillLoop_accounts {side : OrderSide} {limitPrice takerFeeBps requested : ℚ} {levels : List OrderbookLevel}
    {walk walk' : DepthWalk} (h : fillLoop side limitPrice takerFeeBps walk levels = .ok walk')
    (hw : walk.Accounts requested) : walk'.Accounts requested := by
  induction levels generalizing walk with
  | nil =>
    obtain rfl : walk = walk' := pure_eq_ok.1 h
    exact hw
  | cons level levels ih =>
    obtain ⟨levelPrice, -, h⟩ := bind_eq_ok.1 h
    split at h
    · obtain rfl : walk = walk' := pure_eq_ok.1 h
      exact hw
    · obtain ⟨size, -, h⟩ := bind_eq_ok.1 h
      exact ih h (hw.take levelPrice size takerFeeBps)

theorem calculateExecutableDepth_accounts {intent : OrderIntent} {requestedPrice : String} {orderbook : OrderbookEvent}
    {options : PaperFillSimulatorOptions} {requested : ℚ} (hreq : Host.valueOf intent.requestedQuantity = some requested)
    {depth : ExecutableDepthResult} (h : calculateExecutableDepth intent requestedPrice orderbook options = .ok depth) :
    depth.Accounts requested := by
  obtain ⟨limitPrice, -, h⟩ := bind_eq_ok.1 h
  obtain ⟨levels, -, h⟩ := bind_eq_ok.1 h
  obtain ⟨takerFeeBps, -, h⟩ := bind_eq_ok.1 h
  obtain ⟨quantity, hquantity, h⟩ := bind_eq_ok.1 h
  have hsame : quantity = requested := Option.some.inj ((parseFinancialDecimal_eq_ok.1 hquantity).symm.trans hreq)
  rw [hsame] at h
  obtain ⟨walk, hwalk, h⟩ := bind_eq_ok.1 h
  have hstart : (⟨requested, 0, 0, 0, []⟩ : DepthWalk).Accounts requested :=
    ⟨zero_add _, fun h => absurd h (lt_irrefl 0), rfl, rfl, rfl⟩
  have haccounts := fillLoop_accounts hwalk hstart
  obtain rfl := pure_eq_ok.1 h
  refine ⟨fun hfilled => ?_, haccounts.quantity, haccounts.notional, haccounts.fee⟩
  have hremaining := haccounts.bounded hfilled
  have hsum := haccounts.sum
  simp only
  linarith

theorem simulatePaperFill_shape {intent : OrderIntent} {orderbooks : List OrderbookEvent}
    {options : PaperFillSimulatorOptions} {simulation : PaperFillSimulationResult}
    (h : simulatePaperFill intent orderbooks options = .ok simulation) :
    ∃ requested, Host.valueOf intent.requestedQuantity = some requested ∧ FillShape requested simulation := by
  obtain ⟨requested, hreq, hsimulated⟩ := simulatePaperFill_simulated h
  refine ⟨requested, hreq, ?_⟩
  cases hsimulated with
  | noFill status orderStatus reasonCode hstatus =>
    refine .noFill status orderStatus reasonCode ?_
    rcases hstatus with hrejected | ⟨haccepted, -⟩
    · exact Or.inl hrejected
    · exact Or.inr (Or.inl haccepted)
  | depth price postOnly given timeInForce orderbook depth hterms hmem hdepth =>
    exact classifyDepth_shape (calculateExecutableDepth_accounts hreq hdepth) timeInForce orderbook.receivedAt

/-! ## Orders the broker makes -/

/-- an order as a submission's simulation makes it, booked or rejected for want of balance -/
structure FromSimulation (submission : OrderSubmission) (rejection : Option PaperBrokerBalanceRejectionSummary)
    (simulation : PaperFillSimulationResult) (order : BrokerOrder) : Prop where
  made : ∃ brokerOrderId mutation updatedAt, order = createBrokerOrderFromSimulation submission brokerOrderId simulation
    mutation (createOrderStateFromSimulation simulation rejection) updatedAt
  shape : ∃ requested, Host.valueOf submission.intent.requestedQuantity = some requested ∧ FillShape requested simulation
  market : ∃ currencies, parseMarketCurrencies submission.intent.market = .ok currencies
  price : ∀ price, submission.intent.terms.requestedPrice = some price → ∃ p, Host.valueOf price = some p

/-- what the broker's memory can hold for a submission -/
inductive Made (submission : OrderSubmission) : BrokerOrder → Prop where
  | refused (order : BrokerOrder) (hsame : SameOrder submission order) (hstatus : order.status = .rejected)
      (hnone : order.metadata.paperFillSimulation = none) : Made submission order
  | simulated (rejection : Option PaperBrokerBalanceRejectionSummary) (simulation : PaperFillSimulationResult)
      (order : BrokerOrder) (h : FromSimulation submission rejection simulation order) : Made submission order
  | canceled (simulation : PaperFillSimulationResult) (order : BrokerOrder)
      (h : FromSimulation submission none simulation order) (hopen : isOpenBrokerOrder order = true)
      (mutation : PaperBrokerCancelMutationSummary) (hmutation : mutation.canceledQuantity = order.remainingQuantity)
      (canceledAt : MarketTimestamp) : Made submission (createCanceledOrder order mutation canceledAt)

variable {submission : OrderSubmission} {order : BrokerOrder} {simulation : PaperFillSimulationResult}
  {rejection : Option PaperBrokerBalanceRejectionSummary}

theorem FromSimulation.sameOrder (h : FromSimulation submission rejection simulation order) :
    SameOrder submission order := by
  obtain ⟨brokerOrderId, mutation, updatedAt, rfl⟩ := h.made
  obtain ⟨requested, hrequested, hshape⟩ := h.shape
  refine ⟨rfl, rfl, rfl, rfl, rfl, hrequested.trans (congrArg some hshape.requested_eq.symm), fun price hprice => ?_⟩
  obtain ⟨p, hp⟩ := h.price price hprice
  exact ⟨price, p, hprice, hp, hp⟩

theorem Made.sameOrder (h : Made submission order) : SameOrder submission order := by
  cases h with
  | refused _ hsame => exact hsame
  | simulated rejection simulation _ h => exact h.sameOrder
  | canceled simulation original h =>
    have hsame := h.sameOrder
    exact ⟨hsame.idempotencyKey, hsame.exchangeId, hsame.market, hsame.side, hsame.orderType, hsame.quantity, hsame.price⟩

/-! ## The store's checks -/

/-- what an order was simulated as, while it was not canceled -/
theorem FromSimulation.agrees (h : FromSimulation submission rejection simulation order)
    (hpositive : 0 < order.requestedQuantity) : EvidenceAgrees ⟨submission, order⟩ simulation simulation.quantities := by
  obtain ⟨brokerOrderId, mutation, updatedAt, rfl⟩ := h.made
  obtain ⟨requested, -, hshape⟩ := h.shape
  have hadmits := hshape.admits (hshape.requested_eq ▸ hpositive)
  refine ⟨rfl, ?_, rfl, hshape.sum, ?_, hshape.sums.1, ?_⟩
  · cases rejection with
    | none => exact Or.inl rfl
    | some rejection => exact Or.inr (Or.inr ⟨rfl, rfl⟩)
  · intro hstatus
    cases rejection with
    | none => exact ⟨rfl, rfl, hadmits⟩
    | some rejection => exact absurd rfl hstatus
  · intro hstatus
    cases rejection with
    | none =>
      have hstatus : simulation.orderStatus = .filled ∨ simulation.orderStatus = .partiallyFilled := hstatus
      rcases hshape.filled with ⟨-, -, hnone⟩ | ⟨hfilled, -⟩
      · rcases hstatus with hstatus | hstatus
        all_goals simp [hstatus] at hnone
      · exact hfilled
    | some rejection =>
      rcases hstatus with hstatus | hstatus
      all_goals cases hstatus

/-- an order is open in the two statuses a simulation can leave it open in -/
theorem FromSimulation.open_status (h : FromSimulation submission none simulation order)
    (hopen : isOpenBrokerOrder order = true) : 0 < simulation.openQuantity ∧ order.remainingQuantity = simulation.openQuantity ∧
      ((simulation.orderStatus = .accepted ∧ simulation.fills = []) ∨
        simulation.orderStatus = .partiallyFilled ∧ 0 < simulation.filledQuantity) := by
  obtain ⟨brokerOrderId, mutation, updatedAt, rfl⟩ := h.made
  obtain ⟨requested, -, hshape⟩ := h.shape
  obtain ⟨hstatus, hremaining⟩ := isOpenBrokerOrder_iff.1 hopen
  have hstatus : isOpenStatus simulation.orderStatus = true := hstatus
  refine ⟨hremaining, rfl, ?_⟩
  rcases hshape.filled with ⟨hfills, -, hnone⟩ | ⟨hfilled, hsome⟩
  · rcases hnone with hnone | hnone | hnone
    · simp [hnone, isOpenStatus] at hstatus
    · exact Or.inl ⟨hnone, hfills⟩
    · simp [hnone, isOpenStatus] at hstatus
  · rcases hsome with hsome | hsome | hsome
    · simp [hsome, isOpenStatus] at hstatus
    · exact Or.inr ⟨hsome, hfilled⟩
    · simp [hsome, isOpenStatus] at hstatus

/-- what a canceled order was simulated as, its open quantity canceled -/
theorem FromSimulation.canceled_agrees (h : FromSimulation submission none simulation order)
    (hopen : isOpenBrokerOrder order = true) (hpositive : 0 < order.requestedQuantity)
    {mutation : PaperBrokerCancelMutationSummary} (hmutation : mutation.canceledQuantity = order.remainingQuantity)
    (canceledAt : MarketTimestamp) :
    EvidenceAgrees ⟨submission, createCanceledOrder order mutation canceledAt⟩ simulation
      ⟨simulation.requestedQuantity, simulation.filledQuantity, 0,
        simulation.canceledQuantity + simulation.openQuantity⟩ := by
  obtain ⟨hpositiveOpen, hremaining, hstatuses⟩ := h.open_status hopen
  obtain ⟨brokerOrderId, submitted, updatedAt, rfl⟩ := h.made
  obtain ⟨requested, -, hshape⟩ := h.shape
  have hadmits := hshape.admits (hshape.requested_eq ▸ hpositive)
  have hsum := hshape.sum
  -- an open order has nothing canceled yet
  have hzero : simulation.canceledQuantity = 0 := by
    rcases hstatuses with ⟨hstatus, -⟩ | ⟨hstatus, -⟩ <;> rw [hstatus] at hadmits
    · exact hadmits.2.1
    · exact hadmits.2.2.2
  refine ⟨rfl, Or.inr (Or.inl ⟨rfl, rfl⟩), ?_, by simp only; linarith, fun _ => ⟨rfl, rfl, rfl, ?_, ?_⟩, hshape.sums.1, ?_⟩
  · simp [createEffectiveSimulationQuantities, readPaperCancelEvidence, createCanceledOrder, hmutation,
      createBrokerOrderFromSimulation, createOrderStateFromSimulation, throwIf, pure, Except.pure, bind, Except.bind]
  · simp only [hzero, zero_add]
    exact hpositiveOpen
  · simp only
    linarith
  · intro hstatus
    rcases hstatus with hstatus | hstatus
    all_goals cases hstatus

theorem Made.evidence (h : Made submission order) (hpositive : 0 < order.requestedQuantity) :
    assertFillEvidenceMatchesBrokerStatus ⟨submission, order⟩ = .ok () := by
  cases h with
  | refused _ _ hstatus hnone => exact assertFillEvidenceMatchesBrokerStatus_refused hstatus hnone
  | simulated rejection simulation _ h => exact assertFillEvidenceMatchesBrokerStatus_ok (h.agrees hpositive)
  | canceled simulation original h hopen mutation hmutation canceledAt =>
    exact assertFillEvidenceMatchesBrokerStatus_ok (h.canceled_agrees hopen hpositive hmutation canceledAt)

/-- the statuses a broker order can have -/
theorem Made.persistable_status (h : Made submission order) : isPersistableStatus order.status = true := by
  cases h with
  | refused _ _ hstatus => rw [hstatus]; rfl
  | canceled => rfl
  | simulated rejection simulation _ h =>
    obtain ⟨brokerOrderId, mutation, updatedAt, rfl⟩ := h.made
    obtain ⟨requested, -, hshape⟩ := h.shape
    cases rejection with
    | some rejection => rfl
    | none =>
      show isPersistableStatus simulation.orderStatus = true
      rcases hshape.filled with ⟨-, -, hstatus | hstatus | hstatus⟩ | ⟨-, hstatus | hstatus | hstatus⟩
      all_goals rw [hstatus]; rfl

/-! ## What fill rows move -/

/-- what a fill row moves in a currency: its quantity in the base, its price and fee in the quote currency -/
def FillRowInput.exchanged (c : String) (row : FillRowInput) : ℚ :=
  let base := if balanceKey row.market MarketCurrencies.baseCurrency = some c then row.quantity else 0
  let quote := if balanceKey row.market MarketCurrencies.quoteCurrency = some c then row.price * row.quantity else 0
  let fee := if balanceKey row.market MarketCurrencies.quoteCurrency = some c then row.fee else 0
  match row.side with
  | .buy => base - quote - fee
  | .sell => quote - base - fee

def rowsExchanged (c : String) (rows : List FillRowInput) : ℚ := (rows.map (FillRowInput.exchanged c)).sum

/-- what the fill rows of an order move -/
def BrokerOrder.exchanged (c : String) (order : BrokerOrder) : ℚ :=
  rowsExchanged c ((createFillRows order.brokerOrderId order).toOption.getD [])

/-- available and locked together: a lock is no exchange -/
def totalOf (balances : InsertionMap String BrokerBalance) (c : String) : ℚ := availableOf balances c + lockedOf balances c

/-- what filling a quantity for an amount and a fee moves -/
def fillExchanged (c : String) (currencies : MarketCurrencies) (side : OrderSide) (quantity notional fee : ℚ) : ℚ :=
  let base := if normalizeCurrency currencies.baseCurrency = c then quantity else 0
  let quote := if normalizeCurrency currencies.quoteCurrency = c then notional else 0
  let fee := if normalizeCurrency currencies.quoteCurrency = c then fee else 0
  match side with
  | .buy => base - quote - fee
  | .sell => quote - base - fee

theorem fillExchanged_zero (c : String) (currencies : MarketCurrencies) (side : OrderSide) :
    fillExchanged c currencies side 0 0 0 = 0 := by
  cases side <;> simp [fillExchanged]

theorem fillExchanged_add (c : String) (currencies : MarketCurrencies) (side : OrderSide)
    (quantity quantity' notional notional' fee fee' : ℚ) :
    fillExchanged c currencies side (quantity + quantity') (notional + notional') (fee + fee')
      = fillExchanged c currencies side quantity notional fee + fillExchanged c currencies side quantity' notional' fee' := by
  unfold fillExchanged
  cases side <;> simp only <;> split_ifs <;> ring

theorem FillRowInput.exchanged_eq {row : FillRowInput} {currencies : MarketCurrencies}
    (h : parseMarketCurrencies row.market = .ok currencies) (c : String) :
    row.exchanged c = fillExchanged c currencies row.side row.quantity (row.price * row.quantity) row.fee := by
  simp [FillRowInput.exchanged, fillExchanged, balanceKey, h, Except.toOption]

/-- rows of one market and side move what their sums move -/
theorem rowsExchanged_eq {market : String} {currencies : MarketCurrencies}
    (h : parseMarketCurrencies market = .ok currencies) (side : OrderSide) (c : String) {rows : List FillRowInput}
    (hrows : ∀ row ∈ rows, row.market = market ∧ row.side = side) :
    rowsExchanged c rows = fillExchanged c currencies side (rows.map FillRowInput.quantity).sum
      (rows.map (fun row => row.price * row.quantity)).sum (rows.map FillRowInput.fee).sum := by
  unfold rowsExchanged
  induction rows with
  | nil => exact (fillExchanged_zero c currencies side).symm
  | cons row rows ih =>
    obtain ⟨hmarket, hside⟩ := hrows row (by simp)
    rw [List.map_cons, List.sum_cons, ih (fun r hr => hrows r (by simp [hr])),
      FillRowInput.exchanged_eq (hmarket ▸ h), hside, ← fillExchanged_add]
    simp

theorem parseMarketQuoteCurrency_ok {market : String} {currencies : MarketCurrencies}
    (h : parseMarketCurrencies market = .ok currencies) : parseMarketQuoteCurrency market = .ok currencies.quoteCurrency := by
  unfold parseMarketCurrencies at h
  unfold parseMarketQuoteCurrency
  generalize market.toList.takeWhile (· ≠ '-') = front at h ⊢
  generalize market.toList.dropWhile (· ≠ '-') = rest at h ⊢
  rcases front with _ | ⟨q, quote⟩
  · exact absurd h throw_ne_ok
  · rcases rest with _ | ⟨hyphen, _ | ⟨b, base⟩⟩
    · exact absurd h throw_ne_ok
    · exact absurd h throw_ne_ok
    · obtain rfl := pure_eq_ok.1 h
      rfl

/-! ## Bookings -/

theorem applyBalanceDelta_totalOf {balances : InsertionMap String BrokerBalance} {currency : String}
    {availableDelta lockedDelta : ℚ} {updatedAt : MarketTimestamp} (c : String) :
    totalOf (applyBalanceDelta balances currency availableDelta lockedDelta updatedAt) c
      = totalOf balances c + if normalizeCurrency currency = c then availableDelta + lockedDelta else 0 := by
  unfold totalOf
  rw [applyBalanceDelta_availableOf, applyBalanceDelta_lockedOf]
  split_ifs <;> ring

/-- a booking moves what was filled, for what it cost -/
theorem applySubmissionBalanceMutation_totalOf {intent : OrderIntent} {mutation : PaperBrokerBalanceMutationSummary}
    (h : createSubmissionBalanceMutation intent simulation = .ok mutation) {currencies : MarketCurrencies}
    (hcurrencies : parseMarketCurrencies intent.market = .ok currencies) (balances : InsertionMap String BrokerBalance)
    (updatedAt : MarketTimestamp) (c : String) :
    totalOf (applySubmissionBalanceMutation balances mutation updatedAt) c
      = totalOf balances c + fillExchanged c currencies intent.side simulation.filledQuantity
          (simulation.totalFillNotional.getD 0) (simulation.totalFee.getD 0) := by
  obtain ⟨currencies', hcurrencies', hquote, hbase, hdeltas⟩ := createSubmissionBalanceMutation_spec h
  obtain rfl : currencies = currencies' := Except.ok.inj (hcurrencies.symm.trans hcurrencies')
  rw [applySubmissionBalanceMutation, applyBalanceDelta_totalOf, applyBalanceDelta_totalOf, hquote, hbase]
  rcases hdeltas with ⟨hside, lock, -, hqa, hql, hba, hbl⟩ | ⟨hside, hqa, hql, hba, hbl⟩
  · rw [hside, hqa, hql, hba, hbl]
    simp only [fillExchanged]
    split_ifs <;> ring
  · rw [hside, hqa, hql, hba, hbl]
    simp only [fillExchanged]
    split_ifs <;> ring

/-- a release moves nothing between currencies, and cancels what is open -/
theorem releaseOpenBalance_spec {balances released : InsertionMap String BrokerBalance} {canceledAt : MarketTimestamp}
    {mutation : PaperBrokerCancelMutationSummary}
    (h : releaseOpenBalance balances order canceledAt = .ok (released, mutation)) :
    mutation.canceledQuantity = order.remainingQuantity ∧ ∀ c, totalOf released c = totalOf balances c := by
  obtain ⟨currencies, -, h⟩ := bind_eq_ok.1 h
  simp only at h
  split at h
  · split_ifs at h
    · split at h
      · obtain ⟨price, -, h⟩ := bind_eq_ok.1 h
        cases pure_eq_ok.1 h
        exact ⟨rfl, fun c => by rw [applyBalanceDelta_totalOf, add_neg_cancel, ite_self, add_zero]⟩
      · cases pure_eq_ok.1 h
        exact ⟨rfl, fun c => by rw [applyBalanceDelta_totalOf, add_neg_cancel, ite_self, add_zero]⟩
    · cases pure_eq_ok.1 h
      exact ⟨rfl, fun _ => rfl⟩
  · cases pure_eq_ok.1 h
    exact ⟨rfl, fun _ => rfl⟩

/-! ## The rows of an order -/

/-- where the simulation is what happened, the rows are its fills -/
theorem createFillRows_simulated {requested : ℚ} (hsimulation : readPaperFillSimulation order = some simulation)
    (hshape : FillShape requested simulation) {currencies : MarketCurrencies}
    (hcurrencies : parseMarketCurrencies order.market = .ok currencies)
    (hpersist : simulation.fills = [] ∨ shouldPersistFillRows order.status simulation = true) (orderId : String) :
    ∃ rows, createFillRows orderId order = .ok rows ∧ ∀ c, rowsExchanged c rows = fillExchanged c currencies order.side
      simulation.filledQuantity (simulation.totalFillNotional.getD 0) (simulation.totalFee.getD 0) := by
  obtain ⟨hquantity, hnotional, hfee⟩ := hshape.sums
  rw [← hquantity, ← hnotional, ← hfee]
  unfold createFillRows
  simp only [hsimulation]
  split_ifs with hempty hnot
  · exact ⟨[], rfl, fun c => by rw [hempty]; exact (fillExchanged_zero c currencies order.side).symm⟩
  · rcases hpersist with hpersist | hpersist
    · exact absurd hpersist hempty
    · rw [hpersist] at hnot
      cases hnot
  · rw [parseMarketQuoteCurrency_ok hcurrencies]
    refine ⟨_, rfl, fun c => ?_⟩
    rw [rowsExchanged_eq hcurrencies order.side c (by simp)]
    simp [List.map_map, Function.comp_def]

/-- a rejected order has no rows -/
theorem createFillRows_rejected (hstatus : order.status = .rejected) (orderId : String) :
    createFillRows orderId order = .ok [] := by
  unfold createFillRows
  split
  · rfl
  · rw [hstatus]
    split_ifs
    · rfl
    · rfl
    · rename_i hpersist
      exact absurd rfl hpersist

theorem exchanged_rejected (hstatus : order.status = .rejected) (c : String) : order.exchanged c = 0 := by
  simp [BrokerOrder.exchanged, createFillRows_rejected hstatus, Except.toOption, rowsExchanged]

/-- the rows of a booked order are its fills, also once it is canceled -/
theorem FromSimulation.rows (h : FromSimulation submission none simulation order) (current : BrokerOrder)
    (hmarket : current.market = order.market) (hside : current.side = order.side)
    (hmetadata : readPaperFillSimulation current = some simulation)
    (hstatus : current.status = order.status ∨ current.status = .canceled) {currencies : MarketCurrencies}
    (hcurrencies : parseMarketCurrencies submission.intent.market = .ok currencies) (orderId : String) :
    ∃ rows, createFillRows orderId current = .ok rows ∧ ∀ c, rowsExchanged c rows = fillExchanged c currencies
      submission.intent.side simulation.filledQuantity (simulation.totalFillNotional.getD 0)
      (simulation.totalFee.getD 0) := by
  have hsame := h.sameOrder
  obtain ⟨requested, -, hshape⟩ := h.shape
  obtain ⟨brokerOrderId, mutation, updatedAt, rfl⟩ := h.made
  rw [← hsame.side, ← hside]
  refine createFillRows_simulated hmetadata hshape (by rw [hmarket]; exact hcurrencies) ?_ orderId
  have hstatus : current.status = simulation.orderStatus ∨ current.status = .canceled := hstatus
  rcases hshape.filled with ⟨hempty, -⟩ | ⟨hfilled, hsimulated⟩
  · exact Or.inl hempty
  · refine Or.inr ?_
    rcases hstatus with hstatus | hstatus
    · rcases hsimulated with hsimulated | hsimulated | hsimulated
      all_goals simp [shouldPersistFillRows, hstatus, hsimulated, hfilled]
    · simp [shouldPersistFillRows, hstatus, hfilled]

theorem FromSimulation.booked_rows (h : FromSimulation submission none simulation order) {currencies : MarketCurrencies}
    (hcurrencies : parseMarketCurrencies submission.intent.market = .ok currencies) (orderId : String) :
    ∃ rows, createFillRows orderId order = .ok rows ∧ ∀ c, rowsExchanged c rows = fillExchanged c currencies
      submission.intent.side simulation.filledQuantity (simulation.totalFillNotional.getD 0)
      (simulation.totalFee.getD 0) :=
  h.rows order rfl rfl (by obtain ⟨_, _, _, rfl⟩ := h.made; rfl) (Or.inl rfl) hcurrencies orderId

theorem FromSimulation.canceled_rows (h : FromSimulation submission none simulation order)
    (mutation : PaperBrokerCancelMutationSummary) (canceledAt : MarketTimestamp) {currencies : MarketCurrencies}
    (hcurrencies : parseMarketCurrencies submission.intent.market = .ok currencies) (orderId : String) :
    ∃ rows, createFillRows orderId (createCanceledOrder order mutation canceledAt) = .ok rows ∧
      ∀ c, rowsExchanged c rows = fillExchanged c currencies submission.intent.side simulation.filledQuantity
        (simulation.totalFillNotional.getD 0) (simulation.totalFee.getD 0) :=
  h.rows (createCanceledOrder order mutation canceledAt) rfl rfl (by obtain ⟨_, _, _, rfl⟩ := h.made; rfl) (Or.inr rfl)
    hcurrencies orderId

/-- rows under any order id move what the order's own rows move -/
theorem exchanged_eq {c : String} {moved : String → ℚ}
    (h : ∀ orderId, ∃ rows, createFillRows orderId order = .ok rows ∧ ∀ c, rowsExchanged c rows = moved c) :
    order.exchanged c = moved c := by
  obtain ⟨rows, hrows, hmoved⟩ := h order.brokerOrderId
  simp only [BrokerOrder.exchanged, hrows, Except.toOption, Option.getD_some]
  exact hmoved c

/-- an order that the broker made has rows, and none where it was rejected -/
theorem Made.rows (h : Made submission order) (orderId : String) :
    ∃ rows, createFillRows orderId order = .ok rows ∧ (order.status = .rejected → rows = []) ∧
      ∀ c, rowsExchanged c rows = order.exchanged c := by
  by_cases hstatus : order.status = .rejected
  · exact ⟨[], createFillRows_rejected hstatus orderId, fun _ => rfl, fun c => (exchanged_rejected hstatus c).symm⟩
  · cases h with
    | refused _ _ hrejected => exact absurd hrejected hstatus
    | simulated rejection simulation _ h =>
      cases rejection with
      | some rejection =>
        obtain ⟨_, _, _, rfl⟩ := h.made
        exact absurd rfl hstatus
      | none =>
        obtain ⟨currencies, hcurrencies⟩ := h.market
        obtain ⟨rows, hrows, hmoved⟩ := h.booked_rows hcurrencies orderId
        refine ⟨rows, hrows, fun hrejected => absurd hrejected hstatus, fun c => ?_⟩
        rw [hmoved c, exchanged_eq (h.booked_rows hcurrencies)]
    | canceled simulation original h hopen mutation hmutation canceledAt =>
      obtain ⟨currencies, hcurrencies⟩ := h.market
      obtain ⟨rows, hrows, hmoved⟩ := h.canceled_rows mutation canceledAt hcurrencies orderId
      refine ⟨rows, hrows, fun hrejected => absurd hrejected hstatus, fun c => ?_⟩
      rw [hmoved c, exchanged_eq (h.canceled_rows mutation canceledAt hcurrencies)]

/-- a cancel keeps what an order's rows move -/
theorem FromSimulation.canceled_exchanged (h : FromSimulation submission none simulation order)
    (mutation : PaperBrokerCancelMutationSummary) (canceledAt : MarketTimestamp) (c : String) :
    (createCanceledOrder order mutation canceledAt).exchanged c = order.exchanged c := by
  obtain ⟨currencies, hcurrencies⟩ := h.market
  rw [exchanged_eq (h.canceled_rows mutation canceledAt hcurrencies), exchanged_eq (h.booked_rows hcurrencies)]

/-- an open order was simulated, booked and not canceled yet -/
theorem Made.of_open (h : Made submission order) (hopen : isOpenBrokerOrder order = true) :
    ∃ simulation, FromSimulation submission none simulation order := by
  cases h with
  | refused _ _ hstatus =>
    rw [isOpenBrokerOrder_iff, hstatus] at hopen
    exact absurd hopen.1 (by simp [isOpenStatus])
  | canceled _ original _ _ mutation _ canceledAt =>
    rw [createCanceledOrder_closed] at hopen
    cases hopen
  | simulated rejection simulation _ h =>
    cases rejection with
    | none => exact ⟨simulation, h⟩
    | some rejection =>
      obtain ⟨_, _, _, rfl⟩ := h.made
      exact absurd (isOpenBrokerOrder_iff.1 hopen).1
        (by simp [createBrokerOrderFromSimulation, createOrderStateFromSimulation, isOpenStatus])

/-! ## What a call makes -/

variable {broker : PaperBroker} {brokerOrderId : String} {updatedAt : MarketTimestamp}
  {balances : InsertionMap String BrokerBalance}

/-- a new order is one the store accepts, and its booking moves what its rows move -/
theorem fillOrder_made {fingerprint : SubmissionFingerprint}
    (hfingerprint : createSubmissionFingerprint submission.intent = .ok fingerprint)
    (h : broker.fillOrder submission brokerOrderId updatedAt = .ok (balances, order)) :
    Made submission order ∧ ∀ c, totalOf balances c = totalOf broker.balancesByCurrency c + order.exchanged c := by
  have hprice : ∀ price, submission.intent.terms.requestedPrice = some price → ∃ p, Host.valueOf price = some p :=
    fun price hprice => createSubmissionFingerprint_price hfingerprint hprice
  unfold PaperBroker.fillOrder at h
  split at h
  · obtain ⟨rejected, hrejected, h⟩ := bind_eq_ok.1 h
    obtain ⟨quantity, hquantity, hrejected⟩ := bind_eq_ok.1 hrejected
    cases pure_eq_ok.1 hrejected
    cases pure_eq_ok.1 h
    refine ⟨.refused _ ⟨rfl, rfl, rfl, rfl, rfl, parseFinancialDecimal_eq_ok.1 hquantity, fun price hterms => ?_⟩ rfl rfl,
      fun c => ?_⟩
    · obtain ⟨p, hp⟩ := hprice price hterms
      exact ⟨price, p, hterms, hp, hp⟩
    · rw [exchanged_rejected rfl, add_zero]
  · obtain ⟨⟨orderbooks, options⟩, -, h⟩ := bind_eq_ok.1 h
    obtain ⟨simulation, hsimulation, h⟩ := bind_eq_ok.1 h
    obtain ⟨mutation, hmutation, h⟩ := bind_eq_ok.1 h
    obtain ⟨currencies, hcurrencies, -⟩ := createSubmissionBalanceMutation_spec hmutation
    have hfrom : ∀ rejection, FromSimulation submission rejection simulation (createBrokerOrderFromSimulation submission
        brokerOrderId simulation mutation (createOrderStateFromSimulation simulation rejection) updatedAt) :=
      fun rejection => ⟨⟨brokerOrderId, mutation, updatedAt, rfl⟩, simulatePaperFill_shape hsimulation,
        ⟨currencies, hcurrencies⟩, hprice⟩
    cases pure_eq_ok.1 h
    refine ⟨.simulated _ simulation _ (hfrom _), fun c => ?_⟩
    cases validateBalanceMutation broker.balancesByCurrency mutation with
    | some rejection => rw [exchanged_rejected rfl, add_zero]; rfl
    | none =>
      rw [exchanged_eq ((hfrom none).booked_rows hcurrencies)]
      exact applySubmissionBalanceMutation_totalOf hmutation hcurrencies _ updatedAt c

/-! ## The books of a run -/

/-- every stored order was made from a submission with the fingerprint its key is bound to, and the balances moved by
the fill rows of the stored orders -/
structure Recorded (initialTotal : String → ℚ) (broker : PaperBroker) : Prop where
  made : ∀ id order, broker.ordersById.get id = some order → ∃ submission fingerprint, Made submission order ∧
    createSubmissionFingerprint submission.intent = .ok fingerprint ∧
    broker.fingerprintsByIdempotencyKey.get order.idempotencyKey = some fingerprint
  totals : ∀ c, totalOf broker.balancesByCurrency c = initialTotal c + broker.ordersById.total (BrokerOrder.exchanged c)

variable {initialTotal : String → ℚ}

theorem Recorded.submitOrder (h : Recorded initialTotal broker) (hindexed : Indexed broker) (submission : OrderSubmission)
    (now : MarketTimestamp) : Recorded initialTotal (broker.submitOrder submission now).1 := by
  rcases submitOrder_fills broker submission now with
    hsame | ⟨-, hthrown⟩ | ⟨fingerprint, balances, order, -, hfingerprint, hnew, hfilled, hstored⟩
  · rw [hsame]
    exact h
  · rw [hthrown]
    exact ⟨h.made, h.totals⟩
  · obtain ⟨hmade, hmoved⟩ := fillOrder_made hfingerprint hfilled
    have hid := (fillOrder_filled hfilled).brokerOrderId_eq
    have hkey := (fillOrder_filled hfilled).idempotencyKey_eq
    rw [hstored]
    refine ⟨fun id existing hget => ?_, fun c => ?_⟩
    · rcases InsertionMap.set_cases hget with ⟨rfl, rfl⟩ | hold
      · exact ⟨submission, fingerprint, hmade, hfingerprint, by simp [PaperBroker.storeOrder]⟩
      · obtain ⟨earlier, earlierFingerprint, hearlier, hown, hbound⟩ := h.made id existing hold
        -- an order of an earlier call has another key
        have hne : order.idempotencyKey ≠ existing.idempotencyKey := by
          intro hsame
          rw [← hkey, hsame, (hindexed.key id existing hold).2] at hnew
          cases hnew
        exact ⟨earlier, earlierFingerprint, hearlier, hown, (InsertionMap.get_set_ne _ _ hne).trans hbound⟩
    · have hfresh : broker.ordersById.get order.brokerOrderId = none := by rw [hid]; exact hindexed.fresh
      simp only [PaperBroker.storeOrder]
      rw [hmoved c, h.totals c, InsertionMap.total_set, hfresh]
      simp only [Option.map_none, Option.getD_none]
      ring

theorem Recorded.cancelOrder (h : Recorded initialTotal broker) (hindexed : Indexed broker) (orderId : String)
    (now : MarketTimestamp) : Recorded initialTotal (broker.cancelOrder orderId now).1 := by
  rcases cancelOrder_cases broker orderId now with hsame | ⟨order, balances, mutation, hget, hopen, hrelease, hcanceled⟩
  · rw [hsame]
    exact h
  · obtain ⟨hmutation, hmoved⟩ := releaseOpenBalance_spec hrelease
    obtain ⟨submission, fingerprint, hmade, hfingerprint, hbound⟩ := h.made orderId order hget
    obtain ⟨simulation, hfrom⟩ := hmade.of_open hopen
    rw [hcanceled]
    refine ⟨fun id existing hexisting => ?_, fun c => ?_⟩
    · rcases InsertionMap.set_cases hexisting with ⟨rfl, rfl⟩ | hold
      · exact ⟨submission, fingerprint, .canceled simulation order hfrom hopen mutation hmutation now, hfingerprint, hbound⟩
      · exact h.made id existing hold
    · simp only
      rw [hmoved c, h.totals c, InsertionMap.total_set, (hindexed.key orderId order hget).1, hget,
        hfrom.canceled_exchanged mutation now c]
      simp

theorem Recorded.step (h : Recorded initialTotal broker) (hindexed : Indexed broker) (call : PaperBrokerCall) :
    Recorded initialTotal (broker.step call) := by
  cases call with
  | submitOrder submission now => exact h.submitOrder hindexed submission now
  | cancelOrder orderId now => exact h.cancelOrder hindexed orderId now
  | recordOrderbookSnapshot snapshot => exact ⟨h.made, h.totals⟩
  | replaceOrderbookSnapshots snapshots => exact ⟨h.made, h.totals⟩

theorem Recorded.run (h : Recorded initialTotal broker) (hindexed : Indexed broker) (calls : List PaperBrokerCall) :
    Recorded initialTotal (broker.run calls) := by
  induction calls generalizing broker with
  | nil => exact h
  | cons call calls ih => exact ih (h.step hindexed call) (hindexed.step call)

/-- a stored order stays stored, and its rows go on moving the same -/
theorem Recorded.step_exchanged (h : Recorded initialTotal broker) (hindexed : Indexed broker) (call : PaperBrokerCall)
    {id : String} (hget : broker.ordersById.get id = some order) :
    ∃ later, (broker.step call).ordersById.get id = some later ∧ ∀ c, later.exchanged c = order.exchanged c := by
  cases call with
  | submitOrder submission now =>
    rcases submitOrder_fills broker submission now with
      hstep | ⟨-, hstep⟩ | ⟨fingerprint, balances, added, -, -, -, hfilled, hstep⟩
    · exact ⟨order, by simp only [PaperBroker.step, hstep]; exact hget, fun _ => rfl⟩
    · exact ⟨order, by simp only [PaperBroker.step, hstep]; exact hget, fun _ => rfl⟩
    · refine ⟨order, ?_, fun _ => rfl⟩
      have hne : added.brokerOrderId ≠ id := by
        intro hid
        rw [(fillOrder_filled hfilled).brokerOrderId_eq] at hid
        rw [← hid, hindexed.fresh] at hget
        cases hget
      simp only [PaperBroker.step, hstep, PaperBroker.storeOrder]
      exact (InsertionMap.get_set_ne _ _ hne).trans hget
  | cancelOrder orderId now =>
    rcases cancelOrder_cases broker orderId now with hstep | ⟨canceled, balances, mutation, hcanceled, hopen, -, hstep⟩
    · exact ⟨order, by simp only [PaperBroker.step, hstep]; exact hget, fun _ => rfl⟩
    · simp only [PaperBroker.step, hstep, (hindexed.key orderId canceled hcanceled).1]
      by_cases hid : orderId = id
      · subst hid
        cases hget.symm.trans hcanceled
        obtain ⟨submission, fingerprint, hmade, -⟩ := h.made orderId order hget
        obtain ⟨simulation, hfrom⟩ := hmade.of_open hopen
        exact ⟨_, InsertionMap.get_set_self .., hfrom.canceled_exchanged mutation now⟩
      · exact ⟨order, (InsertionMap.get_set_ne _ _ hid).trans hget, fun _ => rfl⟩
  | recordOrderbookSnapshot snapshot => exact ⟨order, hget, fun _ => rfl⟩
  | replaceOrderbookSnapshots snapshots => exact ⟨order, hget, fun _ => rfl⟩

theorem Recorded.run_exchanged (h : Recorded initialTotal broker) (hindexed : Indexed broker)
    (calls : List PaperBrokerCall) {id : String} (hget : broker.ordersById.get id = some order) :
    ∃ later, (broker.run calls).ordersById.get id = some later ∧ ∀ c, later.exchanged c = order.exchanged c := by
  induction calls generalizing broker order with
  | nil => exact ⟨order, hget, fun _ => rfl⟩
  | cons call calls ih =>
    obtain ⟨next, hnext, hsame⟩ := h.step_exchanged hindexed call hget
    obtain ⟨later, hlater, hlast⟩ := ih (h.step hindexed call) (hindexed.step call) hnext
    exact ⟨later, hlater, fun c => (hlast c).trans (hsame c)⟩

/-- the order a submission returns is the one it leaves stored -/
theorem submitOrder_stored (h : Indexed broker) {now : MarketTimestamp}
    (hok : (broker.submitOrder submission now).2 = .ok order) :
    (broker.submitOrder submission now).1.ordersById.get order.brokerOrderId = some order := by
  unfold PaperBroker.submitOrder at hok ⊢
  cases hfingerprint : createSubmissionFingerprint submission.intent with
  | error e =>
    simp only [hfingerprint] at hok
    cases hok
  | ok fingerprint =>
    simp only [hfingerprint] at hok ⊢
    cases hindex : broker.orderIdsByIdempotencyKey.get submission.intent.idempotencyKey with
    | some existingOrderId =>
      simp only [hindex, ite_not] at hok ⊢
      split_ifs at hok ⊢
      obtain ⟨existing, hexisting, -⟩ := h.order _ _ hindex
      simp only [PaperBroker.readExistingOrder, hexisting] at hok
      obtain rfl := pure_eq_ok.1 hok
      rw [(h.key _ _ hexisting).1]
      exact hexisting
    | none =>
      simp only [hindex] at hok ⊢
      split at hok
      · cases hok
      · obtain rfl := pure_eq_ok.1 hok
        simp [PaperBroker.storeOrder]

theorem create_recorded {options : PaperBrokerOptions} {initializedAt : MarketTimestamp} {initial : PaperBroker}
    (h : PaperBroker.create options initializedAt = .ok initial) :
    Recorded (totalOf initial.balancesByCurrency) initial := by
  obtain ⟨balances, -, h⟩ := bind_eq_ok.1 h
  obtain ⟨_, -, h⟩ := bind_eq_ok.1 h
  obtain rfl := pure_eq_ok.1 h
  exact ⟨fun _ _ hget => (by cases hget), fun c => by simp⟩

end Simulation

/-! ## Results -/

section Results

variable [H : Host] [H.Prints] {submission : OrderSubmission} {order : BrokerOrder} {broker : PaperBroker}

/-- the store accepts an order under a submission, and its rows move what the order says -/
structure Persistable (submission : OrderSubmission) (order : BrokerOrder) : Prop where
  identity : assertBrokerOrderMatchesSubmission ⟨submission, order⟩ = .ok ()
  evidence : assertFillEvidenceMatchesBrokerStatus ⟨submission, order⟩ = .ok ()
  transitions : ∃ events, createPaperExecutionStateTransitionEvents ⟨submission, order⟩ = .ok events ∧
    LegalChain .riskApproved events order.status
  rows : ∀ orderId, ∃ rows, toFillRowInputs orderId ⟨submission, order⟩ = .ok rows ∧
    (order.status = .rejected → rows = []) ∧ ∀ c, rowsExchanged c rows = order.exchanged c

omit [H.Prints] in
theorem SameTerms.orderType {own again : OrderTerms} (h : SameTerms own again) : own.orderType = again.orderType := by
  cases h with
  | market => rfl
  | limit => rfl

omit [H.Prints] in
/-- prices that are parsed alike -/
theorem SameTerms.price {own again : OrderTerms} (h : SameTerms own again) {price : String}
    (hprice : again.requestedPrice = some price) {p : ℚ} (hvalue : Host.valueOf price = some p) :
    ∃ ownPrice, own.requestedPrice = some ownPrice ∧ Host.valueOf ownPrice = some p := by
  cases h with
  | market => cases hprice
  | limit postOnly heq htif =>
    cases hprice
    exact ⟨_, rfl, parseFinancialDecimal_eq_ok.1 (heq.trans (parseFinancialDecimal_eq_ok.2 hvalue))⟩

/-- an order made from one spelling of a submission matches every other -/
theorem SameOrder.of_fingerprint {own again : OrderSubmission} (h : SameOrder own order)
    {fingerprint : SubmissionFingerprint} (hown : createSubmissionFingerprint own.intent = .ok fingerprint)
    (hagain : createSubmissionFingerprint again.intent = .ok fingerprint)
    (hkey : own.intent.idempotencyKey = again.intent.idempotencyKey) : SameOrder again order := by
  have hsame := sameExecution_of_submissionFingerprint hown hagain
  refine ⟨h.idempotencyKey.trans hkey, h.exchangeId.trans hsame.exchangeId, h.market.trans hsame.market,
    h.side.trans hsame.side, ?_, ?_, fun price hprice => ?_⟩
  · rw [h.orderType]
    exact hsame.terms.orderType
  · rw [← parseFinancialDecimal_eq_ok, ← hsame.quantity, parseFinancialDecimal_eq_ok]
    exact h.quantity
  · obtain ⟨p, hp⟩ := createSubmissionFingerprint_price hagain hprice
    obtain ⟨ownPrice, hownPrice, hownValue⟩ := hsame.terms.price hprice hp
    obtain ⟨brokerPrice, q, hbroker, hbrokerValue, hq⟩ := h.price ownPrice hownPrice
    rw [hownValue] at hq
    exact ⟨brokerPrice, p, hbroker, hbrokerValue.trans hq.symm, hp⟩

variable {initialTotal : String → ℚ}

/-- a stored order is the order of every submission with the fingerprint of its key -/
theorem Recorded.sameOrder (h : Recorded initialTotal broker) {id : String}
    (hget : broker.ordersById.get id = some order) (hkey : order.idempotencyKey = submission.intent.idempotencyKey)
    {fingerprint : SubmissionFingerprint} (hfingerprint : createSubmissionFingerprint submission.intent = .ok fingerprint)
    (hbound : broker.fingerprintsByIdempotencyKey.get submission.intent.idempotencyKey = some fingerprint) :
    SameOrder submission order := by
  obtain ⟨own, ownFingerprint, hmade, hown, hownBound⟩ := h.made id order hget
  rw [hkey, hbound] at hownBound
  obtain rfl := Option.some.inj hownBound
  have hownKey : own.intent.idempotencyKey = submission.intent.idempotencyKey :=
    hmade.sameOrder.idempotencyKey.symm.trans hkey
  exact hmade.sameOrder.of_fingerprint hown hfingerprint hownKey

/-- a stored order can be persisted under every submission with the fingerprint of its key -/
theorem Recorded.persistable (h : Recorded initialTotal broker) {id : String}
    (hget : broker.ordersById.get id = some order) (hkey : order.idempotencyKey = submission.intent.idempotencyKey)
    {fingerprint : SubmissionFingerprint} (hfingerprint : createSubmissionFingerprint submission.intent = .ok fingerprint)
    (hbound : broker.fingerprintsByIdempotencyKey.get submission.intent.idempotencyKey = some fingerprint)
    (hpositive : ∀ q, Host.valueOf submission.intent.requestedQuantity = some q → 0 < q) :
    Persistable submission order := by
  have hsame := h.sameOrder hget hkey hfingerprint hbound
  obtain ⟨own, -, hmade, -, -⟩ := h.made id order hget
  exact ⟨assertBrokerOrderMatchesSubmission_ok hsame, hmade.evidence (hpositive _ hsame.quantity),
    createPaperExecutionStateTransitionEvents_legal _ hmade.persistable_status, hmade.rows⟩

/-- the order that a submission returns is its order, also where it was stored before -/
theorem Recorded.returned_sameOrder (h : Recorded initialTotal broker) (hindexed : Indexed broker)
    {now : MarketTimestamp} (hok : (broker.submitOrder submission now).2 = .ok order) : SameOrder submission order := by
  have hstored := submitOrder_stored hindexed hok
  obtain ⟨hindex, fingerprint, hfingerprint, hbound⟩ := submitOrder_binds hindexed hok
  have hkey : order.idempotencyKey = submission.intent.idempotencyKey := by
    obtain ⟨stored, hget, hstoredKey⟩ := (hindexed.submitOrder submission now).order _ _ hindex
    rw [hstored] at hget
    rw [Option.some.inj hget]
    exact hstoredKey
  exact (h.submitOrder hindexed submission now).sameOrder hstored hkey hfingerprint hbound

/-- **What the broker returns can be persisted.** Whatever ran before: an order that `submitOrder` returns for a positive
quantity passes the store's checks under that submission, its transition events are a legal chain from RISK_APPROVED to
its status, and its fill rows move in every currency what the booking moved; so does every later cancel of it, which
moves nothing itself. Altogether the balances moved by the fill rows of the stored orders. -/
theorem paper_results_persistable {options : PaperBrokerOptions} {initializedAt : MarketTimestamp} {initial : PaperBroker}
    (hcreate : PaperBroker.create options initializedAt = .ok initial) (calls : List PaperBrokerCall) :
    (∀ submission now order, (∀ q, Host.valueOf submission.intent.requestedQuantity = some q → 0 < q) →
      ((initial.run calls).submitOrder submission now).2 = .ok order →
      let submitted := ((initial.run calls).submitOrder submission now).1
      Persistable submission order ∧
      ((initial.run calls).orderIdsByIdempotencyKey.get submission.intent.idempotencyKey = none →
        ∀ c, totalOf submitted.balancesByCurrency c
          = totalOf (initial.run calls).balancesByCurrency c + order.exchanged c) ∧
      ∀ later now' canceled, ((submitted.run later).cancelOrder order.brokerOrderId now').2 = .ok canceled →
        Persistable submission canceled ∧ (∀ c, canceled.exchanged c = order.exchanged c) ∧
        ∀ c, totalOf ((submitted.run later).cancelOrder order.brokerOrderId now').1.balancesByCurrency c
          = totalOf (submitted.run later).balancesByCurrency c) ∧
    ∀ c, totalOf (initial.run calls).balancesByCurrency c
      = totalOf initial.balancesByCurrency c + (initial.run calls).ordersById.total (BrokerOrder.exchanged c) := by
  have hindexed := (create_indexed hcreate).run calls
  have hrecorded := (create_recorded hcreate).run (create_indexed hcreate) calls
  refine ⟨?_, hrecorded.totals⟩
  intro submission now order hpositive hok submitted
  have hsubmittedIndexed : Indexed submitted := hindexed.submitOrder submission now
  have hsubmittedRecorded : Recorded _ submitted := hrecorded.submitOrder hindexed submission now
  have hstored : submitted.ordersById.get order.brokerOrderId = some order := submitOrder_stored hindexed hok
  obtain ⟨hindex, fingerprint, hfingerprint, hbound⟩ := submitOrder_binds hindexed hok
  have hkey : order.idempotencyKey = submission.intent.idempotencyKey := by
    obtain ⟨stored, hget, hstoredKey⟩ := hsubmittedIndexed.order _ _ hindex
    rw [hstored] at hget
    rw [Option.some.inj hget]
    exact hstoredKey
  refine ⟨hsubmittedRecorded.persistable hstored hkey hfingerprint hbound hpositive, fun hnew c => ?_, ?_⟩
  · rcases submitOrder_fills (initial.run calls) submission now with
      hsame | ⟨⟨e, he⟩, -⟩ | ⟨own, balances, added, hadded, hown, -, hfilled, hstep⟩
    · have hunbound : submitted.orderIdsByIdempotencyKey.get submission.intent.idempotencyKey = none := by
        rw [show submitted = initial.run calls from hsame]
        exact hnew
      rw [show submitted.orderIdsByIdempotencyKey.get submission.intent.idempotencyKey = _ from hindex] at hunbound
      cases hunbound
    · rw [hok] at he
      cases he
    · obtain rfl : order = added := Except.ok.inj (hok.symm.trans hadded)
      rw [show submitted = _ from hstep]
      exact (fillOrder_made hown hfilled).2 c
  · intro later now' canceled hcanceled
    have hlaterIndexed := hsubmittedIndexed.run later
    have hlaterRecorded := hsubmittedRecorded.run hsubmittedIndexed later
    obtain ⟨current, hcurrent, hmoved⟩ := hsubmittedRecorded.run_exchanged hsubmittedIndexed later hstored
    obtain ⟨canceled', hok', -, hleft⟩ := hlaterIndexed.cancelOrder_ok hcurrent now'
    obtain rfl : canceled = canceled' := Except.ok.inj (hcanceled.symm.trans hok')
    obtain ⟨last, hlast, hcancelMoved⟩ := hlaterRecorded.step_exchanged hlaterIndexed (.cancelOrder order.brokerOrderId now')
      hcurrent
    obtain rfl : canceled = last := Option.some.inj (hleft.symm.trans hlast)
    -- the cancel keeps the key and its fingerprint
    have hextends := (run_extends hsubmittedIndexed later).trans (cancelOrder_extends hlaterIndexed order.brokerOrderId now')
    have hboundLater := (hextends.key _ _ hindex).2.trans hbound
    obtain ⟨kept, hkept, hkeptKey, -⟩ := hextends.order _ _ hstored
    obtain rfl : canceled = kept := Option.some.inj (hleft.symm.trans hkept)
    refine ⟨(hlaterRecorded.cancelOrder hlaterIndexed order.brokerOrderId now').persistable hleft (hkeptKey.trans hkey)
      hfingerprint hboundLater hpositive, fun c => (hcancelMoved c).trans (hmoved c), fun c => ?_⟩
    rcases cancelOrder_cases (submitted.run later) order.brokerOrderId now' with
      hsame | ⟨_, balances, mutation, -, -, hrelease, hstep⟩
    · rw [hsame]
    · rw [hstep]
      exact (releaseOpenBalance_spec hrelease).2 c

end Results

/-- one of three is bought at 100 for a fee of 1, the rest is canceled -/
theorem partial_fill_persistable :
    ∃ broker, PaperBroker.create Example.options (.nanos 0) = .ok broker ∧
      ∃ order, (broker.submitOrder (Example.submission "k1" "3") (.nanos 1)).2 = .ok order ∧
        Persistable (Example.submission "k1" "3") order ∧ order.status = .partiallyFilled ∧
        order.exchanged "KRW" = -101 ∧ order.exchanged "BTC" = 1 ∧
        ∃ canceled, ((broker.submitOrder (Example.submission "k1" "3") (.nanos 1)).1.cancelOrder order.brokerOrderId
            (.nanos 2)).2 = .ok canceled ∧
          Persistable (Example.submission "k1" "3") canceled ∧ canceled.status = .canceled := by
  obtain ⟨broker, hbroker⟩ := exists_ok (x := PaperBroker.create Example.options (.nanos 0)) (by decide +kernel)
  have hrun : (PaperBroker.create Example.options (.nanos 0)).toOption.bind (fun broker =>
      (broker.submitOrder (Example.submission "k1" "3") (.nanos 1)).2.toOption.bind (fun order =>
        ((broker.submitOrder (Example.submission "k1" "3") (.nanos 1)).1.cancelOrder order.brokerOrderId
          (.nanos 2)).2.toOption.map (fun canceled =>
            (order.status, order.exchanged "KRW", order.exchanged "BTC", canceled.status))))
      = some (.partiallyFilled, -101, 1, .canceled) := by decide +kernel
  rw [hbroker] at hrun
  cases hok : (broker.submitOrder (Example.submission "k1" "3") (.nanos 1)).2 with
  | error e => simp [Except.toOption, hok] at hrun
  | ok order =>
    simp only [Except.toOption, Option.bind_some, hok] at hrun
    cases hcancel : ((broker.submitOrder (Example.submission "k1" "3") (.nanos 1)).1.cancelOrder order.brokerOrderId
        (.nanos 2)).2 with
    | error e => simp [hcancel] at hrun
    | ok canceled =>
      simp only [hcancel, Option.map_some, Option.some.injEq, Prod.mk.injEq] at hrun
      obtain ⟨hstatus, hkrw, hbtc, hcanceled⟩ := hrun
      obtain ⟨hpersistable, -, hlater⟩ := (paper_results_persistable hbroker []).1 (Example.submission "k1" "3") (.nanos 1)
        order (Example.submission_positive "k1" (by decide +kernel)).quantity hok
      exact ⟨broker, hbroker, order, hok, hpersistable, hstatus, hkrw, hbtc, canceled, hcancel,
        (hlater [] (.nanos 2) canceled hcancel).1, hcanceled⟩

end SeeMirai.Paper
