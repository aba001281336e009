/-
Does the runner's profit agree with the broker it ran on? The runner rebuilds a ledger from the metadata of the orders
that the broker returned, with filters of its own for rejected orders and for orders that are returned again; the broker
moves balances and locks. Along a run the two are coupled: what the recorded fills moved is what the balances did, in
every currency, and every stored order that filled something has its fills recorded exactly once.

The runner skips fills of a quantity that is not positive, the broker books them: an orderbook level of a negative size
makes such a fill. A balance that was given with a total of its own reports another one once it is moved.

Results:
- `simulatePaperFill_booked`: the fills of a simulation against sizes that are not negative.
- `Coupled.step`: every step keeps ledger and broker coupled.
- `pnl_agrees_with_broker`: where sizes are not negative and totals add up, cash, quantities and fees agree.
- `negative_level_splits_ledger`: a level of a negative size.
-/
import SeeMirai.Decision.PaperPnl
import SeeMirai.Decision.LedgerRuns

namespace SeeMirai.Decision

open Fallible Execution Paper

/-! ## Fills as they are booked -/

/-- no negative quantity, its notional, and no fee for nothing -/
structure Booked (fill : PaperFill) : Prop where
  quantity : 0 ≤ fill.quantity
  notional : fill.notional = fill.price * fill.quantity
  fee : fill.quantity = 0 → fill.fee = 0

section Host

variable [Host]

theorem fillLoop_booked {side : OrderSide} {limitPrice takerFeeBps : ℚ} {levels : List OrderbookLevel}
    (hs : SizesNonneg levels) {walk walk' : DepthWalk}
    (h : fillLoop side limitPrice takerFeeBps walk levels = .ok walk') (hw : ∀ fill ∈ walk.fills, Booked fill) :
    ∀ fill ∈ walk'.fills, Booked fill := by
  induction levels generalizing walk with
  | nil =>
    obtain rfl : walk = walk' := pure_eq_ok.1 h
    exact hw
  | cons level levels ih =>
    obtain ⟨levelPrice, -, h⟩ := bind_eq_ok.1 h
    split at h
    · obtain rfl : walk = walk' := pure_eq_ok.1 h
      exact hw
    · rename_i hgo
      obtain ⟨size, hsize, h⟩ := bind_eq_ok.1 h
      have hremaining : 0 < walk.remainingQuantity := not_le.1 fun hle => hgo (Or.inr hle)
      have hnonneg := hs level (by simp) size (parseFinancialDecimal_eq_ok.1 hsize)
      refine ih (fun l hl => hs l (by simp [hl])) h fun fill hfill => ?_
      simp only [DepthWalk.take, List.mem_append, List.mem_singleton] at hfill
      rcases hfill with hfill | rfl
      · exact hw fill hfill
      · refine ⟨le_min hremaining.le hnonneg, mul_comm _ _, fun hzero => ?_⟩
        simp only at hzero
        simp [hzero]

/-- the fills of a simulation are booked as they should be where no level offers a negative size -/
theorem simulatePaperFill_booked {intent : OrderIntent} {orderbooks : List OrderbookEvent}
    {options : PaperFillSimulatorOptions} {simulation : PaperFillSimulationResult}
    (hs : ∀ orderbook ∈ orderbooks, OrderbookEvent.SizesNonneg orderbook)
    (h : simulatePaperFill intent orderbooks options = .ok simulation) : ∀ fill ∈ simulation.fills, Booked fill := by
  obtain ⟨requested, -, hsimulated⟩ := simulatePaperFill_simulated h
  cases hsimulated with
  | noFill => nofun
  | depth price postOnly given timeInForce orderbook depth hterms hmem hdepth =>
    have hdepths : ∀ fill ∈ depth.fills, Booked fill := by
      obtain ⟨limitPrice, -, hdepth⟩ := bind_eq_ok.1 hdepth
      obtain ⟨levels, hlevels, hdepth⟩ := bind_eq_ok.1 hdepth
      obtain ⟨takerFeeBps, -, hdepth⟩ := bind_eq_ok.1 hdepth
      obtain ⟨quantity, -, hdepth⟩ := bind_eq_ok.1 hdepth
      obtain ⟨walk, hwalk, hdepth⟩ := bind_eq_ok.1 hdepth
      obtain rfl := pure_eq_ok.1 hdepth
      exact fillLoop_booked (opposingLevels_sizes (hs orderbook hmem) hlevels) hwalk nofun
    intro fill hfill
    unfold classifyDepth at hfill
    simp only at hfill
    split_ifs at hfill <;> first
      | exact hdepths fill hfill
      | cases hfill

/-! ## What fills move -/

/-- what a recorded fill moves in a currency -/
def PaperPnlFillInput.exchanged (c : String) (fill : PaperPnlFillInput) : ℚ :=
  let base := if balanceKey fill.market MarketCurrencies.baseCurrency = some c then fill.filledQuantity else 0
  let quote := if balanceKey fill.market MarketCurrencies.quoteCurrency = some c then fill.totalFillNotional else 0
  let fee := if balanceKey fill.market MarketCurrencies.quoteCurrency = some c then fill.totalFee else 0
  match fill.side with
  | .buy => base - quote - fee
  | .sell => quote - base - fee

theorem pnlFill_exchanged {order : BrokerOrder} {currencies : MarketCurrencies}
    (h : parseMarketCurrencies order.market = .ok currencies) (c : String) (fill : PaperFill) :
    (pnlFill order fill).exchanged c = fillExchanged c currencies order.side fill.quantity fill.notional fill.fee := by
  cases hside : order.side with
  | buy => simp [PaperPnlFillInput.exchanged, pnlFill, fillExchanged, balanceKey, h, hside, Except.toOption]
  | sell => simp [PaperPnlFillInput.exchanged, pnlFill, fillExchanged, balanceKey, h, hside, Except.toOption]

/-- the fills that are kept move what all of them move, for the same fees -/
theorem kept_fills_exchanged {order : BrokerOrder} {currencies : MarketCurrencies}
    (h : parseMarketCurrencies order.market = .ok currencies) {fills : List PaperFill}
    (hbooked : ∀ fill ∈ fills, Booked fill) :
    (∀ c, (((fills.filter (0 < ·.quantity)).map (pnlFill order)).map (·.exchanged c)).sum
      = fillExchanged c currencies order.side (fills.map PaperFill.quantity).sum
          (fills.map (fun fill => fill.price * fill.quantity)).sum (fills.map PaperFill.fee).sum) ∧
    (((fills.filter (0 < ·.quantity)).map (pnlFill order)).map (·.totalFee)).sum = (fills.map PaperFill.fee).sum := by
  induction fills with
  | nil => exact ⟨fun c => (fillExchanged_zero c currencies order.side).symm, rfl⟩
  | cons fill fills ih =>
    obtain ⟨hmoved, hfees⟩ := ih fun other hother => hbooked other (by simp [hother])
    obtain ⟨hquantity, hnotional, hfee⟩ := hbooked fill (by simp)
    by_cases hpositive : 0 < fill.quantity
    · constructor
      · intro c
        rw [List.filter_cons_of_pos (by simpa using hpositive), List.map_cons, List.map_cons, List.sum_cons, hmoved,
          pnlFill_exchanged h, ← fillExchanged_add, hnotional]
        simp
      · rw [List.filter_cons_of_pos (by simpa using hpositive), List.map_cons, List.map_cons, List.sum_cons, hfees]
        simp [pnlFill]
    · -- a fill that is skipped moves nothing
      have hzero : fill.quantity = 0 := le_antisymm (not_lt.1 hpositive) hquantity
      have hfeeZero := hfee hzero
      constructor
      · intro c
        rw [List.filter_cons_of_neg (by simpa using hpositive), hmoved]
        simp [hzero, hfeeZero]
      · rw [List.filter_cons_of_neg (by simpa using hpositive), hfees]
        simp [hfeeZero]

/-- the fee that the broker took for an order -/
def chargedFee (order : BrokerOrder) : ℚ :=
  if order.status = .rejected then 0 else (order.metadata.paperFillSimulation.bind (·.totalFee)).getD 0

/-- the fills that are recorded of an order the first time it is returned -/
def newFills (order : BrokerOrder) : List PaperPnlFillInput :=
  if order.status ≠ .rejected ∧ 0 < simulatedQuantity order then appendPaperPnlFills [] order else []

omit [Host] in
theorem recordOrder_pnlFills (metrics : PaperDecisionMetricAccumulator) (filledBrokerOrderIds : List String)
    (order : BrokerOrder) : (metrics.recordOrder filledBrokerOrderIds order).pnlFills
      = metrics.pnlFills ++ if order.brokerOrderId ∈ filledBrokerOrderIds then [] else newFills order := by
  have hsubmission : (metrics.recordSubmission order).pnlFills = metrics.pnlFills := by
    unfold PaperDecisionMetricAccumulator.recordSubmission
    split_ifs <;> rfl
  have hfill : ((metrics.recordSubmission order).recordFill filledBrokerOrderIds order).pnlFills
      = metrics.pnlFills ++ if order.brokerOrderId ∈ filledBrokerOrderIds then [] else newFills order := by
    unfold PaperDecisionMetricAccumulator.recordFill newFills
    by_cases hnew : IsNewPaperFill filledBrokerOrderIds order
    · obtain ⟨hstatus, hid, hquantity⟩ := hnew
      rw [if_pos ⟨hstatus, hid, hquantity⟩, if_neg hid, if_pos ⟨hstatus, hquantity⟩]
      simp [appendPaperPnlFills, hstatus, hsubmission]
    · rw [if_neg hnew, hsubmission]
      split_ifs with hid hcounted
      · simp
      · exact absurd ⟨hcounted.1, hid, hcounted.2⟩ hnew
      · simp
  rw [← hfill]
  unfold PaperDecisionMetricAccumulator.recordOrder
  split_ifs <;> rfl

/-- a new order moves the balances by the fills that are recorded of it, and is charged their fees -/
theorem newFills_moved {broker : PaperBroker} {submission : OrderSubmission} {brokerOrderId : String}
    {updatedAt : MarketTimestamp} {balances : InsertionMap String BrokerBalance} {order : BrokerOrder}
    (hbooks : BooksNonneg broker) (h : Filled broker submission brokerOrderId updatedAt balances order) :
    (∀ c, totalOf balances c = totalOf broker.balancesByCurrency c + ((newFills order).map (·.exchanged c)).sum) ∧
      ((newFills order).map (·.totalFee)).sum = chargedFee order ∧
      ∀ fill ∈ newFills order, 0 < fill.filledQuantity ∧ fill.market = submission.intent.market := by
  cases h with
  | rejected order _ _ hstatus =>
    have hnone : newFills order = [] := if_neg fun hcounted => hcounted.1 hstatus
    rw [hnone, chargedFee, if_pos hstatus]
    exact ⟨fun c => (add_zero _).symm, rfl, nofun⟩
  | booked orderbooks options simulation mutation hrequest hsimulation hmutation =>
    obtain ⟨requested, -, hshape⟩ := simulatePaperFill_shape hsimulation
    obtain ⟨currencies, hcurrencies, -⟩ := createSubmissionBalanceMutation_spec hmutation
    obtain ⟨hquantity, hnotional, hfee⟩ := hshape.sums
    have hbooked := simulatePaperFill_booked (hbooks.request hrequest) hsimulation
    have htotal := applySubmissionBalanceMutation_totalOf hmutation hcurrencies broker.balancesByCurrency updatedAt
    generalize horder : createBrokerOrderFromSimulation submission brokerOrderId simulation mutation
      ⟨simulation.orderStatus, simulation.openQuantity, true, none⟩ updatedAt = order
    have hstatus : order.status = simulation.orderStatus := by rw [← horder]; rfl
    have hsimulated : simulatedQuantity order = simulation.filledQuantity := by rw [← horder]; rfl
    have hcharged : order.status ≠ .rejected → chargedFee order = simulation.totalFee.getD 0 := by
      intro hne
      rw [chargedFee, if_neg hne, ← horder]
      rfl
    rcases hshape.filled with ⟨hempty, hzero, -⟩ | ⟨hpositive, hfilled⟩
    · have hnone : newFills order = [] := if_neg fun hcounted => by
        rw [hsimulated, hzero] at hcounted
        exact lt_irrefl 0 hcounted.2
      simp only [hempty, List.map_nil, List.sum_nil] at hnotional hfee
      refine ⟨fun c => ?_, ?_, by rw [hnone]; nofun⟩
      · rw [htotal c, hnone, hzero, ← hnotional, ← hfee, fillExchanged_zero]
        rfl
      · rw [hnone]
        by_cases hrejected : order.status = .rejected
        · rw [chargedFee, if_pos hrejected]
          rfl
        · rw [hcharged hrejected, ← hfee]
          rfl
    · have hne : order.status ≠ .rejected := by
        rw [hstatus]
        rcases hfilled with hfilled | hfilled | hfilled <;> simp [hfilled]
      have hkept : newFills order = (simulation.fills.filter (0 < ·.quantity)).map (pnlFill order) := by
        have hcounted : order.status ≠ .rejected ∧ 0 < simulatedQuantity order := ⟨hne, hsimulated ▸ hpositive⟩
        rw [newFills, if_pos hcounted, appendPaperPnlFills, if_neg hne, ← horder]
        rfl
      have hmarket : parseMarketCurrencies order.market = .ok currencies := by rw [← horder]; exact hcurrencies
      have hside : order.side = submission.intent.side := by rw [← horder]; rfl
      obtain ⟨hmoved, hfees⟩ := kept_fills_exchanged hmarket hbooked
      refine ⟨fun c => ?_, ?_, fun fill hfill => ?_⟩
      · rw [htotal c, hkept, hmoved c, hquantity, hnotional, hfee, hside]
      · rw [hkept, hfees, hcharged hne, hfee]
      · rw [hkept] at hfill
        obtain ⟨original, horiginal, rfl⟩ := List.mem_map.1 hfill
        refine ⟨by simpa [pnlFill] using (List.mem_filter.1 horiginal).2, ?_⟩
        rw [pnlFill, ← horder]
        rfl

/-! ## The coupling -/

variable {initial : PaperBroker} {runner : PaperDecisionRunner} {frames : List PaperDecisionInputFrame}
  {state state' : Metered}

/-- the runner's ledger and the broker say the same: the stored orders that filled something are the counted ones, and
what the recorded fills moved and cost is what the broker moved and charged -/
structure Coupled (initial : PaperBroker) (state : Metered) : Prop where
  indexed : Indexed state.run.broker
  books : BooksNonneg state.run.broker
  totalsAdd : TotalsAdd state.run.broker.balancesByCurrency
  stored : ∀ id ∈ state.run.filledBrokerOrderIds, (state.run.broker.ordersById.get id).isSome
  counted : ∀ id order, state.run.broker.ordersById.get id = some order → order.status ≠ .rejected →
    0 < simulatedQuantity order → id ∈ state.run.filledBrokerOrderIds
  exchanged : ∀ c, totalOf state.run.broker.balancesByCurrency c
    = totalOf initial.balancesByCurrency c + (state.metrics.pnlFills.map (·.exchanged c)).sum
  fees : state.run.broker.ordersById.total chargedFee
    = initial.ordersById.total chargedFee + (state.metrics.pnlFills.map (·.totalFee)).sum
  fills : ∀ fill ∈ state.metrics.pnlFills, 0 < fill.filledQuantity ∧
    ∃ call ∈ state.run.submissions, call.2.intent.market = fill.market

/-- nothing that is coupled changes but the snapshots -/
theorem Coupled.of_same (h : Coupled initial state) (hbooks : BooksNonneg state'.run.broker)
    (hbroker : { state'.run.broker with orderbooksByMarket := state.run.broker.orderbooksByMarket } = state.run.broker)
    (hfilled : state'.run.filledBrokerOrderIds = state.run.filledBrokerOrderIds)
    (hfills : state'.metrics.pnlFills = state.metrics.pnlFills)
    (hsubmissions : ∀ call ∈ state.run.submissions, call ∈ state'.run.submissions) : Coupled initial state' := by
  have hindexed : Indexed { state'.run.broker with orderbooksByMarket := state.run.broker.orderbooksByMarket } :=
    hbroker ▸ h.indexed
  have horders : state'.run.broker.ordersById = state.run.broker.ordersById := by rw [← hbroker]
  have hbalances : state'.run.broker.balancesByCurrency = state.run.broker.balancesByCurrency := by rw [← hbroker]
  refine ⟨⟨hindexed.order, hindexed.key, hindexed.number, hindexed.readable⟩, hbooks, ?_, ?_, ?_, ?_, ?_, ?_⟩
  · rw [hbalances]
    exact h.totalsAdd
  · rw [horders, hfilled]
    exact h.stored
  · rw [horders, hfilled]
    exact h.counted
  · rw [hbalances, hfills]
    exact h.exchanged
  · rw [horders, hfills]
    exact h.fees
  · rw [hfills]
    intro fill hfill
    obtain ⟨hpositive, call, hcall, hmarket⟩ := h.fills fill hfill
    exact ⟨hpositive, call, hsubmissions call hcall, hmarket⟩

omit [Host] in
theorem countPaperFill_filled (run : RunnerState) (order : BrokerOrder) :
    (countPaperFill run order).filledBrokerOrderIds
      = if IsNewPaperFill run.filledBrokerOrderIds order then run.filledBrokerOrderIds ++ [order.brokerOrderId]
        else run.filledBrokerOrderIds := by
  by_cases hnew : IsNewPaperFill run.filledBrokerOrderIds order
  · rw [if_pos hnew]
    exact congrArg RunnerState.filledBrokerOrderIds (if_pos hnew)
  · rw [if_neg hnew]
    exact congrArg RunnerState.filledBrokerOrderIds (if_neg hnew)

/-- what a returned order makes of the state -/
def withOrder (state : Metered) (broker : PaperBroker) (call : PaperBroker × OrderSubmission) (order : BrokerOrder)
    (record : TraceRecord) : Metered :=
  { state with
    run := (countPaperFill { state.run with
      broker := broker
      submissions := state.run.submissions ++ [call] } order).push record
    metrics := state.metrics.recordOrder state.run.filledBrokerOrderIds order }

/-- an order that was stored before is counted already -/
theorem Coupled.returned (h : Coupled initial state) (call : PaperBroker × OrderSubmission) (record : TraceRecord)
    {order : BrokerOrder} (hstored : state.run.broker.ordersById.get order.brokerOrderId = some order) :
    Coupled initial (withOrder state state.run.broker call order record) := by
  have hcounted := h.counted order.brokerOrderId order hstored
  refine h.of_same ?_ ?_ ?_ ?_ ?_
  · simpa [withOrder, RunnerState.push] using h.books
  · simp [withOrder, RunnerState.push]
  · simp only [withOrder, RunnerState.push, countPaperFill_filled]
    rw [if_neg fun hnew => hnew.2.1 (hcounted hnew.1 hnew.2.2)]
  · simp only [withOrder, recordOrder_pnlFills]
    split_ifs with hid
    · simp
    · rw [newFills, if_neg fun hnew => hid (hcounted hnew.1 hnew.2)]
      simp
  · intro earlier hearlier
    simp [withOrder, RunnerState.push, hearlier]

omit [Host] in
/-- the broker once a new order is booked and stored -/
def bookedBroker (broker : PaperBroker) (balances : InsertionMap String BrokerBalance) (order : BrokerOrder)
    (fingerprint : SubmissionFingerprint) : PaperBroker :=
  PaperBroker.storeOrder { broker with
    nextOrderSequence := broker.nextOrderSequence + 1, balancesByCurrency := balances } order fingerprint

/-- a new order is not counted yet; it moves the balances by the fills that are recorded of it -/
theorem Coupled.added (h : Coupled initial state) {submission : OrderSubmission} (record : TraceRecord)
    {now : MarketTimestamp} {order : BrokerOrder} {fingerprint : SubmissionFingerprint}
    {balances : InsertionMap String BrokerBalance}
    (hfilled : Filled state.run.broker submission state.run.broker.createBrokerOrderId now balances order)
    (hindexed : Indexed (bookedBroker state.run.broker balances order fingerprint)) :
    Coupled initial (withOrder state (bookedBroker state.run.broker balances order fingerprint)
      (state.run.broker, submission) order record) := by
  have hid := hfilled.brokerOrderId_eq
  have hfresh : state.run.broker.ordersById.get order.brokerOrderId = none := by
    rw [hid]
    exact h.indexed.fresh
  have huncounted : order.brokerOrderId ∉ state.run.filledBrokerOrderIds := by
    intro hmem
    have hsome := h.stored _ hmem
    rw [hfresh] at hsome
    cases hsome
  obtain ⟨hmoved, hfees, hfills⟩ := newFills_moved h.books hfilled
  have hpnl : ∀ broker, (withOrder state broker (state.run.broker, submission) order record).metrics.pnlFills
      = state.metrics.pnlFills ++ newFills order := by
    intro broker
    simp only [withOrder, recordOrder_pnlFills, if_neg huncounted]
  refine ⟨?_, ?_, ?_, ?_, ?_, ?_, ?_, ?_⟩
  · simpa [withOrder, RunnerState.push] using hindexed
  · simpa [withOrder, RunnerState.push, bookedBroker, PaperBroker.storeOrder, BooksNonneg] using h.books
  · simpa [withOrder, RunnerState.push, bookedBroker, PaperBroker.storeOrder] using hfilled.totals h.totalsAdd
  · intro id hmem
    simp only [withOrder, RunnerState.push, countPaperFill_filled, countPaperFill_broker,
      bookedBroker, PaperBroker.storeOrder] at hmem ⊢
    rw [InsertionMap.get_set]
    split_ifs with hsame
    · rfl
    · refine h.stored id ?_
      split_ifs at hmem
      · rcases List.mem_append.1 hmem with hmem | hmem
        · exact hmem
        · exact absurd (List.mem_singleton.1 hmem).symm hsame
      · exact hmem
  · intro id existing hget hstatus hquantity
    simp only [withOrder, RunnerState.push, countPaperFill_filled, countPaperFill_broker,
      bookedBroker, PaperBroker.storeOrder] at hget ⊢
    rcases InsertionMap.set_cases hget with ⟨rfl, rfl⟩ | hold
    · rw [if_pos ⟨hstatus, huncounted, hquantity⟩]
      simp
    · have hmem := h.counted id existing hold hstatus hquantity
      split_ifs
      · exact List.mem_append_left _ hmem
      · exact hmem
  · intro c
    rw [hpnl, List.map_append, List.sum_append, ← add_assoc, ← h.exchanged c]
    simpa [withOrder, RunnerState.push, bookedBroker, PaperBroker.storeOrder] using hmoved c
  · rw [hpnl, List.map_append, List.sum_append, ← add_assoc, ← h.fees, hfees]
    simp only [withOrder, RunnerState.push, countPaperFill_broker, bookedBroker, PaperBroker.storeOrder]
    rw [InsertionMap.total_set, hfresh]
    simp
  · intro fill hfill
    rw [hpnl] at hfill
    rcases List.mem_append.1 hfill with hfill | hfill
    · obtain ⟨hpositive, call, hcall, hmarket⟩ := h.fills fill hfill
      exact ⟨hpositive, call, by simp [withOrder, RunnerState.push, hcall], hmarket⟩
    · obtain ⟨hpositive, hmarket⟩ := hfills fill hfill
      exact ⟨hpositive, (state.run.broker, submission), by simp [withOrder, RunnerState.push], hmarket.symm⟩

/-- a submission keeps the coupling -/
theorem Coupled.submitted (h : Coupled initial state) (record : TraceRecord) (submission : OrderSubmission)
    (now : MarketTimestamp) {order : BrokerOrder} (hok : (state.run.broker.submitOrder submission now).2 = .ok order) :
    Coupled initial (withOrder state (state.run.broker.submitOrder submission now).1
      (state.run.broker, submission) order record) := by
  have hindexed := h.indexed.submitOrder submission now
  rcases submitOrder_cases state.run.broker submission now with
    hsame | ⟨⟨e, he⟩, -⟩ | ⟨fingerprint, balances, added, hadded, -, -, hfilled, hstep⟩
  · have hstored := submitOrder_stored h.indexed hok
    rw [hsame] at hstored ⊢
    exact h.returned _ record hstored
  · rw [hok] at he
    cases he
  · obtain rfl : order = added := Except.ok.inj (hok.symm.trans hadded)
    rw [hstep] at hindexed ⊢
    exact h.added record hfilled hindexed

omit [Host] in
theorem recordStrategyDecision_pnlFills (metrics : PaperDecisionMetricAccumulator) (decision : StrategyDecision) :
    (metrics.recordStrategyDecision decision).pnlFills = metrics.pnlFills := by
  cases decision <;> rfl

omit [Host] in
/-- a loop keeps what its iterations keep -/
theorem foldl_keeps {α β γ : Type} (kept : β → γ) {body : β → α → β} (h : ∀ b a, kept (body b a) = kept b)
    (items : List α) (start : β) : kept (items.foldl body start) = kept start := by
  induction items generalizing start with
  | nil => rfl
  | cons item items ih => exact (ih (body start item)).trans (h start item)

omit [Host] in
theorem recordConversion_pnlFills (metrics : PaperDecisionMetricAccumulator)
    (conversion : StrategyDecisionIntentConversion) :
    (metrics.recordConversion conversion).pnlFills = metrics.pnlFills := by
  unfold PaperDecisionMetricAccumulator.recordConversion
  apply foldl_keeps PaperDecisionMetricAccumulator.pnlFills
  intro _ _
  rfl

theorem recordCostDecision_pnlFills (metrics : PaperDecisionMetricAccumulator) (costDecision : CostDecision) :
    (metrics.recordCostDecision costDecision).pnlFills = metrics.pnlFills := by
  unfold PaperDecisionMetricAccumulator.recordCostDecision
  simp only
  split_ifs <;> rfl

omit [Host] in
theorem recordRiskDecision_pnlFills (metrics : PaperDecisionMetricAccumulator) (result : Risk.RiskGateResult) :
    (metrics.recordRiskDecision result).pnlFills = metrics.pnlFills := by
  unfold PaperDecisionMetricAccumulator.recordRiskDecision
  split_ifs
  · rfl
  · refine Eq.trans ?_ (rfl : { metrics with riskRejectedCount := metrics.riskRejectedCount + 1 }.pnlFills = _)
    apply foldl_keeps PaperDecisionMetricAccumulator.pnlFills
    intro _ _
    rfl

theorem recordPnlMarkPrice_pnlFills (metrics : PaperDecisionMetricAccumulator) (orderbook : OrderbookEvent) :
    (metrics.recordPnlMarkPrice orderbook).pnlFills = metrics.pnlFills := by
  unfold PaperDecisionMetricAccumulator.recordPnlMarkPrice
  split <;> rfl

/-- **One step keeps ledger and broker coupled.** -/
theorem Coupled.step (h : Coupled initial state) (hstep : MeteredStep runner frames state state')
    (hframes : ∀ frame ∈ frames, ∀ orderbook, frame.orderbook = some orderbook →
      OrderbookEvent.SizesNonneg orderbook) : Coupled initial state' := by
  cases hstep with
  | frame frame => exact h.of_same h.books rfl rfl rfl (fun _ hcall => hcall)
  | orderbook frame hframe orderbook horderbook =>
    refine h.of_same ?_ rfl rfl (recordPnlMarkPrice_pnlFills _ orderbook) (fun _ hcall => hcall)
    exact recordOrderbookSnapshot_forall (hframes frame hframe orderbook horderbook) h.books
  | decision frame strategyId decision =>
    exact h.of_same h.books rfl rfl (recordStrategyDecision_pnlFills _ decision) (fun _ hcall => hcall)
  | conversion frame strategyId reason orderIntents decisionMetadata metadata conversion =>
    exact h.of_same h.books rfl rfl (recordConversion_pnlFills _ conversion) (fun _ hcall => hcall)
  | intent => exact h.of_same h.books rfl rfl rfl (fun _ hcall => hcall)
  | cost frame intent costDecision =>
    exact h.of_same h.books rfl rfl (recordCostDecision_pnlFills _ costDecision) (fun _ hcall => hcall)
  | risk frame intent result =>
    exact h.of_same h.books rfl rfl (recordRiskDecision_pnlFills _ result) (fun _ hcall => hcall)
  | refused frame intent rejection => exact h.of_same h.books rfl rfl rfl (fun _ hcall => hcall)
  | submitted frame intent hvalid submission hintent now order hok =>
    exact h.submitted (executionRecord frame intent order) submission now hok

theorem coupled_of_steps (h : Coupled initial state) (hsteps : MeteredSteps runner frames state state')
    (hframes : ∀ frame ∈ frames, ∀ orderbook, frame.orderbook = some orderbook →
      OrderbookEvent.SizesNonneg orderbook) : Coupled initial state' := by
  induction hsteps with
  | refl => exact h
  | tail _ hstep ih => exact ih.step hstep hframes

/-! ## Agreement -/

/-- the total that a balance reports -/
def reportedTotal (balances : InsertionMap String BrokerBalance) (c : String) : ℚ :=
  ((balances.get c).map (·.total)).getD 0

omit [Host] in
theorem reportedTotal_eq {balances : InsertionMap String BrokerBalance} (h : TotalsAdd balances) (c : String) :
    reportedTotal balances c = totalOf balances c := by
  unfold reportedTotal totalOf availableOf lockedOf
  cases hget : balances.get c with
  | none => simp
  | some balance => simp [h c balance hget]

/-- what a recorded fill does to the quantity held -/
def PaperPnlFillInput.quantityChange (fill : PaperPnlFillInput) : ℚ :=
  match fill.side with
  | .buy => fill.filledQuantity
  | .sell => -fill.filledQuantity

/-- the net quantity of a market's recorded fills -/
def netQuantity (market : String) (fills : List PaperPnlFillInput) : ℚ :=
  ((fills.filter (fun fill => fill.market = market)).map (·.quantityChange)).sum

/-- a run as the runner expects it. No orderbook offers a negative size and every balance starts with the total of its
parts; the markets it submits to are KRW markets, none of them of KRW itself, and no two of them of one currency -/
structure PlainRun (initial : PaperBroker) (frames : List PaperDecisionInputFrame) (state : Metered) : Prop where
  recordedSizes : BooksNonneg initial
  frameSizes : ∀ frame ∈ frames, ∀ orderbook, frame.orderbook = some orderbook → OrderbookEvent.SizesNonneg orderbook
  totals : TotalsAdd initial.balancesByCurrency
  quote : ∀ call ∈ state.run.submissions, balanceKey call.2.intent.market MarketCurrencies.quoteCurrency = some "KRW"
  base : ∀ call ∈ state.run.submissions, balanceKey call.2.intent.market MarketCurrencies.baseCurrency ≠ some "KRW"
  distinct : ∀ call ∈ state.run.submissions, ∀ other ∈ state.run.submissions,
    balanceKey call.2.intent.market MarketCurrencies.baseCurrency
      = balanceKey other.2.intent.market MarketCurrencies.baseCurrency → call.2.intent.market = other.2.intent.market

/-- the summary and the recorded fills agree with what the broker moved and charged -/
structure LedgerAgrees (initial : PaperBroker) (state : Metered) (summary : PaperDecisionMetricSummary) : Prop where
  cash : summary.pnlSummary.endingCashKrw - summary.pnlSummary.startingCashKrw
    = reportedTotal state.run.broker.balancesByCurrency "KRW" - reportedTotal initial.balancesByCurrency "KRW"
  quantity : ∀ call ∈ state.run.submissions, ∀ base,
    balanceKey call.2.intent.market MarketCurrencies.baseCurrency = some base →
      netQuantity call.2.intent.market state.metrics.pnlFills
        = reportedTotal state.run.broker.balancesByCurrency base - reportedTotal initial.balancesByCurrency base
  fees : summary.pnlSummary.totalFeesKrw = state.run.broker.ordersById.total chargedFee

/-- in KRW a fill of a KRW market moves its cash -/
theorem exchanged_krw {fill : PaperPnlFillInput}
    (hquote : balanceKey fill.market MarketCurrencies.quoteCurrency = some "KRW")
    (hbase : balanceKey fill.market MarketCurrencies.baseCurrency ≠ some "KRW") : fill.exchanged "KRW" = fill.cash := by
  unfold PaperPnlFillInput.exchanged PaperPnlFillInput.cash
  cases fill.side with
  | buy =>
    simp only [hquote, hbase, if_true, if_false]
    ring
  | sell =>
    simp only [hquote, hbase, if_true, if_false]
    ring

/-- in the base currency of a market its own fills move their quantity, all others nothing -/
theorem exchanged_base {market base : String} (hmarket : balanceKey market MarketCurrencies.baseCurrency = some base)
    {fills : List PaperPnlFillInput}
    (hquote : ∀ fill ∈ fills, balanceKey fill.market MarketCurrencies.quoteCurrency ≠ some base)
    (hdistinct : ∀ fill ∈ fills,
      balanceKey fill.market MarketCurrencies.baseCurrency = some base → fill.market = market) :
    (fills.map (·.exchanged base)).sum = netQuantity market fills := by
  induction fills with
  | nil => rfl
  | cons fill fills ih =>
    have htail := ih (fun other hother => hquote other (by simp [hother]))
      (fun other hother => hdistinct other (by simp [hother]))
    have hfill := hquote fill (by simp)
    rw [List.map_cons, List.sum_cons, htail]
    unfold netQuantity
    by_cases hsame : fill.market = market
    · have hbase : balanceKey fill.market MarketCurrencies.baseCurrency = some base := hsame ▸ hmarket
      rw [List.filter_cons_of_pos (by simpa using hsame), List.map_cons, List.sum_cons]
      congr 1
      unfold PaperPnlFillInput.exchanged PaperPnlFillInput.quantityChange
      cases fill.side with
      | buy => simp [hfill, hbase]
      | sell => simp [hfill, hbase]
    · have hbase : balanceKey fill.market MarketCurrencies.baseCurrency ≠ some base :=
        fun heq => hsame (hdistinct fill (by simp) heq)
      rw [List.filter_cons_of_neg (by simpa using hsame)]
      unfold PaperPnlFillInput.exchanged
      cases fill.side with
      | buy => simp [hfill, hbase]
      | sell => simp [hfill, hbase]

/-- nobody submitted to the broker -/
theorem ordersById_empty {options : PaperBrokerOptions} {initializedAt : MarketTimestamp} {created : PaperBroker}
    (hcreate : PaperBroker.create options initializedAt = .ok created) {calls : List PaperBrokerCall}
    (hcalls : ∀ call ∈ calls, ∀ submission now, call ≠ .submitOrder submission now) :
    (created.run calls).ordersById = InsertionMap.empty := by
  have hstart : created.ordersById = InsertionMap.empty := by
    obtain ⟨balances, -, h⟩ := bind_eq_ok.1 hcreate
    obtain ⟨_, -, h⟩ := bind_eq_ok.1 h
    obtain rfl := pure_eq_ok.1 h
    rfl
  clear hcreate
  induction calls generalizing created with
  | nil => exact hstart
  | cons call calls ih =>
    refine ih (fun later hlater => hcalls later (by simp [hlater])) ?_
    cases call with
    | submitOrder submission now => exact absurd rfl (hcalls _ (by simp) submission now)
    | cancelOrder orderId now => simp [PaperBroker.step, PaperBroker.cancelOrder, hstart]
    | recordOrderbookSnapshot snapshot => exact hstart
    | replaceOrderbookSnapshots snapshots => exact hstart

/-- **The profit agrees with the broker.** For a completed run on a broker that nobody else submitted to: where the run
is plain, the cash of the summary moved as the broker's KRW balance did, the recorded fills of each market add up to
what its base balance moved, and the fees are what the broker charged; also where orders are rejected or returned again
and where the profit fields are withheld. -/
theorem pnl_agrees_with_broker {options : PaperBrokerOptions} {initializedAt : MarketTimestamp} {created : PaperBroker}
    (hcreate : PaperBroker.create options initializedAt = .ok created) {calls : List PaperBrokerCall}
    (hcalls : ∀ call ∈ calls, ∀ submission now, call ≠ .submitOrder submission now)
    {pnlStartingCashKrw : Option String} {summary : PaperDecisionMetricSummary}
    (hrun : runner.completedRun (created.run calls) frames pnlStartingCashKrw = .ok (state, summary))
    (hplain : PlainRun (created.run calls) frames state) : LedgerAgrees (created.run calls) state summary := by
  obtain ⟨last, hlast, hrun⟩ := bind_eq_ok.1 hrun
  obtain ⟨finalized, hfinalized, hrun⟩ := bind_eq_ok.1 hrun
  obtain ⟨rfl, rfl⟩ := Prod.mk.inj (pure_eq_ok.1 hrun)
  obtain ⟨pnlSummary, hpnl, hfinalized⟩ := bind_eq_ok.1 hfinalized
  obtain rfl := pure_eq_ok.1 hfinalized
  have hempty := ordersById_empty hcreate hcalls
  have hstart : Coupled (created.run calls) (Metered.start (created.run calls)) := by
    refine ⟨(create_indexed hcreate).run calls, hplain.recordedSizes, hplain.totals, nofun, ?_, fun c => ?_, ?_, nofun⟩
    · intro id order hget
      rw [show (Metered.start (created.run calls)).run.broker.ordersById = InsertionMap.empty from hempty] at hget
      cases hget
    · simp [Metered.start, RunnerState.start, createMetricAccumulator]
    · simp [Metered.start, RunnerState.start, createMetricAccumulator]
  have hcoupled := coupled_of_steps hstart (meteredRun_steps hlast) hplain.frameSizes
  obtain ⟨hcash, hfees⟩ := createPnlSummary_cash hpnl fun fill hfill => (hcoupled.fills fill hfill).1
  have hquote : ∀ fill ∈ last.metrics.pnlFills, balanceKey fill.market MarketCurrencies.quoteCurrency = some "KRW" := by
    intro fill hfill
    obtain ⟨-, call, hcall, hmarket⟩ := hcoupled.fills fill hfill
    exact hmarket ▸ hplain.quote call hcall
  refine ⟨?_, fun call hcall base hbase => ?_, ?_⟩
  · have hmoved : last.metrics.pnlFills.map (·.exchanged "KRW") = last.metrics.pnlFills.map (·.cash) := by
      refine List.map_congr_left fun fill hfill => exchanged_krw (hquote fill hfill) ?_
      obtain ⟨-, call, hcall, hmarket⟩ := hcoupled.fills fill hfill
      exact hmarket ▸ hplain.base call hcall
    simp only
    rw [reportedTotal_eq hcoupled.totalsAdd, reportedTotal_eq hplain.totals, hcoupled.exchanged, hmoved, hcash]
    ring
  · have hmoved := exchanged_base hbase
      (fun fill hfill hkrw => hplain.base call hcall (by rw [hbase, ← hkrw, hquote fill hfill]))
      (fun fill hfill hsame => by
        obtain ⟨-, other, hother, hmarket⟩ := hcoupled.fills fill hfill
        rw [← hmarket] at hsame ⊢
        exact hplain.distinct other hother call hcall (hsame.trans hbase.symm))
    rw [reportedTotal_eq hcoupled.totalsAdd, reportedTotal_eq hplain.totals, hcoupled.exchanged, hmoved]
    ring
  · simp only
    rw [hfees, hcoupled.fees, hempty]
    simp

end Host

/-! ## A buy with and without a level of a negative size -/

namespace Sample

/-- 2 offered at 100, before them -1 -/
def negativeAsk : OrderbookEvent := { ask with asks := [⟨"100", "-1"⟩, ⟨"100", "2"⟩] }

def negativeFrame : PaperDecisionInputFrame := { frame with orderbook := some negativeAsk }

/-- a run of the buyer on a new broker with 1000 KRW, and what it started from -/
def completed (frame : PaperDecisionInputFrame) : Option (PaperBroker × Metered × PaperDecisionMetricSummary) :=
  (PaperBroker.create (broker "1000") (.nanos 0)).toOption.bind fun broker =>
    (buyer.completedRun broker [frame] (some "1000")).toOption.map fun run => (broker, run)

/-- the markets submitted to, the fees, the cash of the summary and the broker's KRW before and after -/
def books (run : PaperBroker × Metered × PaperDecisionMetricSummary) : List String × ℚ × ℚ × ℚ × ℚ :=
  (run.2.1.run.submissions.map (·.2.intent.market), run.2.2.pnlSummary.totalFeesKrw,
    run.2.2.pnlSummary.endingCashKrw - run.2.2.pnlSummary.startingCashKrw, reportedTotal run.1.balancesByCurrency "KRW",
    reportedTotal run.2.1.run.broker.balancesByCurrency "KRW")

/-- one submission, on a KRW market -/
theorem one_market {state : Metered} (h : state.run.submissions.map (·.2.intent.market) = ["KRW-BTC"])
    {call : PaperBroker × OrderSubmission} (hcall : call ∈ state.run.submissions) :
    call.2.intent.market = "KRW-BTC" := by
  have hmem := List.mem_map_of_mem (f := fun call : PaperBroker × OrderSubmission => call.2.intent.market) hcall
  rw [h] at hmem
  exact List.mem_singleton.1 hmem

end Sample

/-- 1 is bought at 100, and the runner and the broker agree that it cost 100 -/
theorem pnl_agrees_of_buyer :
    ∃ broker state summary, PaperBroker.create (Sample.broker "1000") (.nanos 0) = .ok broker ∧
      Sample.buyer.completedRun (broker.run []) [Sample.frame] (some "1000") = .ok (state, summary) ∧
      LedgerAgrees (broker.run []) state summary := by
  have hrun : (Sample.completed Sample.frame).map Sample.books = some (["KRW-BTC"], 0, -100, 1000, 900) := by
    decide +kernel
  have hinitial : (PaperBroker.create (Sample.broker "1000") (.nanos 0)).toOption.map (fun broker =>
      (broker.orderbooksByMarket.entries, broker.balancesByCurrency.entries))
        = some ([], [("KRW", ⟨"KRW", 1000, 0, 1000, .nanos 0⟩)]) := by
    decide +kernel
  obtain ⟨⟨broker, state, summary⟩, hcompleted, hbooks⟩ := Option.map_eq_some_iff.1 hrun
  obtain ⟨created, hcreated, hcompleted⟩ := Option.bind_eq_some_iff.1 hcompleted
  obtain ⟨run, hcompletedRun, hpair⟩ := Option.map_eq_some_iff.1 hcompleted
  obtain ⟨rfl, rfl⟩ := Prod.mk.inj hpair
  rw [hcreated, Option.map_some, Option.some.injEq, Prod.mk.injEq] at hinitial
  obtain ⟨hsnapshots, hbalances⟩ := hinitial
  have hmarkets := (Prod.mk.inj hbooks).1
  refine ⟨created, state, summary, ok_of_toOption hcreated, ok_of_toOption hcompletedRun,
    pnl_agrees_with_broker (ok_of_toOption hcreated) (fun _ hcall => absurd hcall List.not_mem_nil)
      (ok_of_toOption hcompletedRun) ?_⟩
  refine ⟨fun key snapshots hget => ?_, ?_, fun c balance hget => ?_, fun call hcall => ?_, fun call hcall => ?_, ?_⟩
  · have hmem := created.orderbooksByMarket.mem_iff_get.2 hget
    rw [hsnapshots] at hmem
    cases hmem
  · intro frame hframe orderbook horderbook
    obtain rfl := List.mem_singleton.1 hframe
    obtain rfl := Option.some.inj horderbook
    refine ⟨fun level hlevel q hq => ?_, nofun⟩
    obtain rfl := List.mem_singleton.1 hlevel
    obtain rfl : 1 = q := Option.some.inj ((by decide +kernel : Host.valueOf "1" = some 1).symm.trans hq)
    exact zero_le_one
  · have hmem := created.balancesByCurrency.mem_iff_get.2 hget
    rw [hbalances, List.mem_singleton, Prod.mk.injEq] at hmem
    rw [hmem.2]
    exact (add_zero _).symm
  · rw [Sample.one_market hmarkets hcall]
    decide +kernel
  · rw [Sample.one_market hmarkets hcall]
    decide +kernel
  · intro call hcall other hother _
    rw [Sample.one_market hmarkets hcall, Sample.one_market hmarkets hother]

/-- a level of a negative size: the runner records 2 bought for 200, the broker books 1 for 100 -/
theorem negative_level_splits_ledger :
    ∃ broker state summary, PaperBroker.create (Sample.broker "1000") (.nanos 0) = .ok broker ∧
      Sample.buyer.completedRun broker [Sample.negativeFrame] (some "1000") = .ok (state, summary) ∧
      (∀ call ∈ state.run.submissions, call.2.intent.market = "KRW-BTC") ∧
      ¬ LedgerAgrees broker state summary := by
  have hrun : (Sample.completed Sample.negativeFrame).map Sample.books = some (["KRW-BTC"], 0, -200, 1000, 900) := by
    decide +kernel
  obtain ⟨⟨broker, state, summary⟩, hcompleted, hbooks⟩ := Option.map_eq_some_iff.1 hrun
  obtain ⟨created, hcreated, hcompleted⟩ := Option.bind_eq_some_iff.1 hcompleted
  obtain ⟨run, hcompletedRun, hpair⟩ := Option.map_eq_some_iff.1 hcompleted
  obtain ⟨rfl, rfl⟩ := Prod.mk.inj hpair
  simp only [Sample.books, Prod.mk.injEq] at hbooks
  obtain ⟨hmarkets, -, hcash, hbefore, hafter⟩ := hbooks
  refine ⟨created, state, summary, ok_of_toOption hcreated, ok_of_toOption hcompletedRun,
    fun call hcall => Sample.one_market hmarkets hcall, fun hagrees => ?_⟩
  have hsame := hagrees.cash
  rw [hcash, hbefore, hafter] at hsame
  norm_num at hsame

end SeeMirai.Decision
