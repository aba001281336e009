/-
The other half of the calibration cross-checks: every order that a run counts as filled has a slippage that is read
back, and was counted as submitted before. The slippage is relative to the order's limit price, and is a number because
the price of a promoted intent is positive; an order that the broker had before the run has a price of the same value.

Results:
- `priced_run`: an order in the broker's memory carries a slippage wherever its price is not zero.
- `Observed.step`: fills, their slippage and the submitted orders go together.
- `cross_checks_iff`: a run's metrics pass exactly where no strategy holds or blocks for a reason of an inherited name.
- `inherited_reason_fails`: a strategy that holds for `toString`.
-/
import SeeMirai.Decision.CalibrationChecks

namespace SeeMirai.Decision

open Fallible Execution Paper
open ObjectCounts (inheritedKeys)

/-! ## Slippage -/

section Host

variable [Host]

/-- an order that filled something at a limit price other than zero has a slippage to read -/
def SlippageRead (order : BrokerOrder) : Prop :=
  order.status ≠ .rejected → 0 < simulatedQuantity order → ∀ price p, order.requestedPrice = some price →
    Host.valueOf price = some p → p ≠ 0 → (readSlippageBps order).isSome

theorem simulatePaperFill_slippage {intent : OrderIntent} {orderbooks : List OrderbookEvent}
    {options : PaperFillSimulatorOptions} {simulation : PaperFillSimulationResult}
    (h : simulatePaperFill intent orderbooks options = .ok simulation) (hfilled : 0 < simulation.filledQuantity)
    {price : String} (hprice : intent.terms.requestedPrice = some price) {p : ℚ} (hvalue : Host.valueOf price = some p)
    (hp : p ≠ 0) : ∃ value, simulation.slippageBps = some (.finite value) := by
  obtain ⟨requested, -, hsimulated⟩ := simulatePaperFill_simulated h
  cases hsimulated with
  | noFill => exact absurd hfilled (lt_irrefl 0)
  | depth own postOnly given timeInForce orderbook depth hterms hmem hdepth =>
    obtain rfl : own = price := by
      rw [hterms] at hprice
      exact Option.some.inj hprice
    have hdepths : 0 < depth.filledQuantity → ∃ value, depth.slippageBps = some (.finite value) := by
      intro hpositive
      obtain ⟨limitPrice, hlimit, hdepth⟩ := bind_eq_ok.1 hdepth
      obtain ⟨levels, -, hdepth⟩ := bind_eq_ok.1 hdepth
      obtain ⟨takerFeeBps, -, hdepth⟩ := bind_eq_ok.1 hdepth
      obtain ⟨quantity, -, hdepth⟩ := bind_eq_ok.1 hdepth
      obtain ⟨walk, -, hdepth⟩ := bind_eq_ok.1 hdepth
      obtain rfl := pure_eq_ok.1 hdepth
      obtain rfl : limitPrice = p := Option.some.inj ((parseFinancialDecimal_eq_ok.1 hlimit).symm.trans hvalue)
      simp only at hpositive ⊢
      rw [if_pos hpositive]
      exact ⟨_, congrArg some (if_neg hp)⟩
    unfold classifyDepth at hfilled ⊢
    simp only at hfilled ⊢
    split_ifs at hfilled ⊢ <;> first
      | exact hdepths hfilled
      | exact absurd hfilled (lt_irrefl 0)

def Priced (broker : PaperBroker) : Prop := ∀ id order, broker.ordersById.get id = some order → SlippageRead order

variable {broker : PaperBroker}

theorem Priced.submitOrder (h : Priced broker) (submission : OrderSubmission) (now : MarketTimestamp) :
    Priced (broker.submitOrder submission now).1 := by
  rcases submitOrder_cases broker submission now with
    hsame | ⟨-, hthrown⟩ | ⟨fingerprint, balances, added, -, -, -, hfilled, hstored⟩
  · rw [hsame]
    exact h
  · rw [hthrown]
    exact h
  · rw [hstored]
    intro id order hget
    rcases InsertionMap.set_cases hget with ⟨-, rfl⟩ | hold
    · cases hfilled with
      | rejected _ _ _ hstatus => exact fun hne => absurd hstatus hne
      | booked orderbooks options simulation mutation hrequest hsimulation =>
        intro _ hpositive price p hprice hvalue hp
        obtain ⟨value, hslippage⟩ := simulatePaperFill_slippage hsimulation hpositive hprice hvalue hp
        have hread : readSlippageBps (createBrokerOrderFromSimulation submission broker.createBrokerOrderId simulation
            mutation ⟨simulation.orderStatus, simulation.openQuantity, true, none⟩ now) = some value := by
          unfold readSlippageBps
          simp only [createBrokerOrderFromSimulation, Option.bind_some, hslippage]
        rw [hread]
        rfl
    · exact h id order hold

/-- a cancel leaves the price and the simulation of an order as they are -/
theorem Priced.cancelOrder (h : Priced broker) (orderId : String) (now : MarketTimestamp) :
    Priced (broker.cancelOrder orderId now).1 := by
  rcases cancelOrder_cases broker orderId now with hsame | ⟨canceled, balances, mutation, hget, hopen, -, hstep⟩
  · rw [hsame]
    exact h
  · rw [hstep]
    intro id order horder
    rcases InsertionMap.set_cases horder with ⟨-, rfl⟩ | hold
    · intro _ hpositive price p hprice hvalue hp
      refine h orderId canceled hget ?_ hpositive price p hprice hvalue hp
      intro hrejected
      rw [isOpenBrokerOrder_iff, hrejected] at hopen
      exact absurd hopen.1 (by decide)
    · exact h id order hold

theorem priced_run {options : PaperBrokerOptions} {initializedAt : MarketTimestamp} {created : PaperBroker}
    (hcreate : PaperBroker.create options initializedAt = .ok created) (calls : List PaperBrokerCall) :
    Priced (created.run calls) := by
  have hstart : Priced created := by
    obtain ⟨balances, -, h⟩ := bind_eq_ok.1 hcreate
    obtain ⟨_, -, h⟩ := bind_eq_ok.1 h
    obtain rfl := pure_eq_ok.1 h
    intro id order hget
    cases hget
  clear hcreate
  induction calls generalizing created with
  | nil => exact hstart
  | cons call calls ih =>
    refine ih ?_
    cases call with
    | submitOrder submission now => exact hstart.submitOrder submission now
    | cancelOrder orderId now => exact hstart.cancelOrder orderId now
    | recordOrderbookSnapshot snapshot => exact hstart
    | replaceOrderbookSnapshots snapshots => exact hstart

/-! ## Orders, fills and slippage -/

/-- what the metrics say of orders and slippage -/
def orderMetrics (metrics : PaperDecisionMetricAccumulator) : List ℚ × List String × ℕ :=
  (metrics.slippageBpsValues, metrics.submittedBrokerOrderIds, metrics.paperOrderSubmittedCount)

/-- every counted fill has its slippage and is a submitted order, each counted once -/
structure Observed (initialTotal : String → ℚ) (state : Metered) : Prop where
  indexed : Indexed state.run.broker
  recorded : Paper.Recorded initialTotal state.run.broker
  priced : Priced state.run.broker
  slippage : state.metrics.slippageBpsValues.length = state.run.paperFillCount
  fills : state.run.filledBrokerOrderIds.length = state.run.paperFillCount
  nodup : state.run.filledBrokerOrderIds.Nodup
  submitted : state.metrics.submittedBrokerOrderIds.length = state.metrics.paperOrderSubmittedCount
  subset : ∀ id ∈ state.run.filledBrokerOrderIds, id ∈ state.metrics.submittedBrokerOrderIds

variable {initialTotal : String → ℚ} {state state' : Metered}

theorem Observed.of_same (h : Observed initialTotal state)
    (hbroker : { state'.run.broker with orderbooksByMarket := state.run.broker.orderbooksByMarket } = state.run.broker)
    (hfilled : state'.run.filledBrokerOrderIds = state.run.filledBrokerOrderIds)
    (hcount : state'.run.paperFillCount = state.run.paperFillCount)
    (hmetrics : orderMetrics state'.metrics = orderMetrics state.metrics) : Observed initialTotal state' := by
  obtain ⟨hslippage, hsubmitted⟩ := Prod.mk.inj hmetrics
  obtain ⟨hids, hnumber⟩ := Prod.mk.inj hsubmitted
  have hindexed : Indexed { state'.run.broker with orderbooksByMarket := state.run.broker.orderbooksByMarket } :=
    hbroker ▸ h.indexed
  have hrecorded : Paper.Recorded initialTotal
      { state'.run.broker with orderbooksByMarket := state.run.broker.orderbooksByMarket } := hbroker ▸ h.recorded
  have hpriced : Priced { state'.run.broker with orderbooksByMarket := state.run.broker.orderbooksByMarket } :=
    hbroker ▸ h.priced
  refine ⟨⟨hindexed.order, hindexed.key, hindexed.number, hindexed.readable⟩, ⟨hrecorded.made, hrecorded.totals⟩,
    hpriced, ?_, ?_, ?_, ?_, ?_⟩
  · rw [hslippage, hcount]
    exact h.slippage
  · rw [hfilled, hcount]
    exact h.fills
  · rw [hfilled]
    exact h.nodup
  · rw [hids, hnumber]
    exact h.submitted
  · rw [hfilled, hids]
    exact h.subset

omit [Host] in
theorem recordOrder_orderMetrics (metrics : PaperDecisionMetricAccumulator) (filledBrokerOrderIds : List String)
    (order : BrokerOrder) : orderMetrics (metrics.recordOrder filledBrokerOrderIds order)
      = (metrics.slippageBpsValues
          ++ if IsNewPaperFill filledBrokerOrderIds order then (readSlippageBps order).toList else [],
        Grouping.collect metrics.submittedBrokerOrderIds order.brokerOrderId,
        metrics.paperOrderSubmittedCount + if order.brokerOrderId ∈ metrics.submittedBrokerOrderIds then 0 else 1) := by
  have hdiscard : orderMetrics (metrics.recordOrder filledBrokerOrderIds order)
      = orderMetrics ((metrics.recordSubmission order).recordFill filledBrokerOrderIds order) := by
    unfold PaperDecisionMetricAccumulator.recordOrder
    simp only
    split_ifs <;> rfl
  rw [hdiscard]
  unfold PaperDecisionMetricAccumulator.recordFill PaperDecisionMetricAccumulator.recordSubmission Grouping.collect
  split_ifs <;> simp [orderMetrics]

omit [Host] in
theorem countPaperFill_count (run : RunnerState) (order : BrokerOrder) :
    (countPaperFill run order).paperFillCount
      = run.paperFillCount + if IsNewPaperFill run.filledBrokerOrderIds order then 1 else 0 := by
  by_cases hnew : IsNewPaperFill run.filledBrokerOrderIds order
  · rw [if_pos hnew]
    exact congrArg RunnerState.paperFillCount (if_pos hnew)
  · rw [if_neg hnew]
    exact congrArg RunnerState.paperFillCount (if_neg hnew)

/-- a returned order keeps fills and slippage together -/
theorem Observed.withOrder (h : Observed initialTotal state) {later : PaperBroker} (hindexed : Indexed later)
    (hrecorded : Paper.Recorded initialTotal later) (hpriced : Priced later) (call : PaperBroker × OrderSubmission)
    {order : BrokerOrder} (record : TraceRecord)
    (hslippage : order.status ≠ .rejected → 0 < simulatedQuantity order → (readSlippageBps order).isSome) :
    Observed initialTotal (withOrder state later call order record) := by
  obtain ⟨hvalues, hsubmitted⟩ := Prod.mk.inj
    (recordOrder_orderMetrics state.metrics state.run.filledBrokerOrderIds order)
  obtain ⟨hids, hnumber⟩ := Prod.mk.inj hsubmitted
  have hmem : order.brokerOrderId ∈ Grouping.collect state.metrics.submittedBrokerOrderIds order.brokerOrderId := by
    unfold Grouping.collect
    split_ifs with hold
    · exact hold
    · simp
  have hkept : ∀ id ∈ state.metrics.submittedBrokerOrderIds,
      id ∈ Grouping.collect state.metrics.submittedBrokerOrderIds order.brokerOrderId := by
    intro id hid
    unfold Grouping.collect
    split_ifs
    · exact hid
    · exact List.mem_append_left _ hid
  refine ⟨?_, ?_, ?_, ?_, ?_, ?_, ?_, ?_⟩
  · simpa [Decision.withOrder, RunnerState.push] using hindexed
  · simpa [Decision.withOrder, RunnerState.push] using hrecorded
  · simpa [Decision.withOrder, RunnerState.push] using hpriced
  · show (state.metrics.recordOrder _ order).slippageBpsValues.length = (countPaperFill _ order).paperFillCount
    rw [hvalues, countPaperFill_count, List.length_append, h.slippage]
    split_ifs with hnew
    · obtain ⟨value, hvalue⟩ := Option.isSome_iff_exists.1 (hslippage hnew.1 hnew.2.2)
      rw [hvalue]
      rfl
    · rfl
  · show (countPaperFill _ order).filledBrokerOrderIds.length = (countPaperFill _ order).paperFillCount
    rw [countPaperFill_filled, countPaperFill_count]
    split_ifs
    · rw [List.length_append, h.fills]
      rfl
    · exact h.fills
  · show (countPaperFill _ order).filledBrokerOrderIds.Nodup
    rw [countPaperFill_filled]
    split_ifs with hnew
    · exact List.nodup_append.2 ⟨h.nodup, List.nodup_singleton _, fun a ha b hb heq =>
        hnew.2.1 (List.mem_singleton.1 hb ▸ heq ▸ ha)⟩
    · exact h.nodup
  · show (state.metrics.recordOrder _ order).submittedBrokerOrderIds.length
      = (state.metrics.recordOrder _ order).paperOrderSubmittedCount
    rw [hids, hnumber, ← h.submitted]
    unfold Grouping.collect
    split_ifs
    · rfl
    · simp
  · intro id hid
    show id ∈ (state.metrics.recordOrder _ order).submittedBrokerOrderIds
    rw [hids]
    have hid : id ∈ (countPaperFill { state.run with
        broker := later
        submissions := state.run.submissions ++ [call] } order).filledBrokerOrderIds := hid
    rw [countPaperFill_filled] at hid
    split_ifs at hid
    · rcases List.mem_append.1 hid with hid | hid
      · exact hkept id (h.subset id hid)
      · rw [List.mem_singleton.1 hid]
        exact hmem
    · exact hkept id (h.subset id hid)

omit [Host] in
theorem recordStrategyDecision_orderMetrics (metrics : PaperDecisionMetricAccumulator) (decision : StrategyDecision) :
    orderMetrics (metrics.recordStrategyDecision decision) = orderMetrics metrics := by
  cases decision <;> rfl

omit [Host] in
theorem recordConversion_orderMetrics (metrics : PaperDecisionMetricAccumulator)
    (conversion : StrategyDecisionIntentConversion) :
    orderMetrics (metrics.recordConversion conversion) = orderMetrics metrics := by
  unfold PaperDecisionMetricAccumulator.recordConversion
  apply foldl_keeps orderMetrics
  intro _ _
  rfl

theorem recordCostDecision_orderMetrics (metrics : PaperDecisionMetricAccumulator) (costDecision : CostDecision) :
    orderMetrics (metrics.recordCostDecision costDecision) = orderMetrics metrics := by
  unfold PaperDecisionMetricAccumulator.recordCostDecision
  simp only
  split_ifs <;> rfl

omit [Host] in
theorem recordRiskDecision_orderMetrics (metrics : PaperDecisionMetricAccumulator) (result : Risk.RiskGateResult) :
    orderMetrics (metrics.recordRiskDecision result) = orderMetrics metrics := by
  unfold PaperDecisionMetricAccumulator.recordRiskDecision
  split_ifs
  · rfl
  · refine Eq.trans ?_
      (rfl : orderMetrics { metrics with riskRejectedCount := metrics.riskRejectedCount + 1 } = orderMetrics metrics)
    apply foldl_keeps orderMetrics
    intro _ _
    rfl

theorem recordPnlMarkPrice_orderMetrics (metrics : PaperDecisionMetricAccumulator) (orderbook : OrderbookEvent) :
    orderMetrics (metrics.recordPnlMarkPrice orderbook) = orderMetrics metrics := by
  unfold PaperDecisionMetricAccumulator.recordPnlMarkPrice
  split <;> rfl

end Host

section Runs

variable [H : Host] [H.Prints] {initialTotal : String → ℚ} {runner : PaperDecisionRunner}
  {frames : List PaperDecisionInputFrame} {state state' : Metered}

/-- **One step keeps fills, slippage and submissions together.** -/
theorem Observed.step (h : Observed initialTotal state) (hstep : MeteredStep runner frames state state') :
    Observed initialTotal state' := by
  cases hstep with
  | frame frame => exact h.of_same rfl rfl rfl rfl
  | orderbook frame hframe orderbook => exact h.of_same rfl rfl rfl (recordPnlMarkPrice_orderMetrics _ orderbook)
  | decision frame strategyId decision =>
    exact h.of_same rfl rfl rfl (recordStrategyDecision_orderMetrics _ decision)
  | conversion frame strategyId reason orderIntents decisionMetadata metadata conversion =>
    exact h.of_same rfl rfl rfl (recordConversion_orderMetrics _ conversion)
  | intent => exact h.of_same rfl rfl rfl rfl
  | cost frame intent costDecision => exact h.of_same rfl rfl rfl (recordCostDecision_orderMetrics _ costDecision)
  | risk frame intent result => exact h.of_same rfl rfl rfl (recordRiskDecision_orderMetrics _ result)
  | refused frame intent rejection => exact h.of_same rfl rfl rfl rfl
  | submitted frame intent hvalid submission hintent now order hok =>
    have hpriced := h.priced.submitOrder submission now
    refine h.withOrder (h.indexed.submitOrder submission now) (h.recorded.submitOrder h.indexed submission now) hpriced
      (state.run.broker, submission) (executionRecord frame intent order) fun hstatus hpositive => ?_
    -- the stored order has a price of the promoted intent's value
    obtain ⟨price, hprice, hpositivePrice⟩ := hvalid.limit
    have hsame := h.recorded.returned_sameOrder h.indexed hok
    obtain ⟨brokerPrice, p, hbroker, hvalue, hown⟩ := hsame.price price (by rw [hintent]; exact hprice)
    refine hpriced _ order (submitOrder_stored h.indexed hok) hstatus hpositive brokerPrice p hbroker hvalue ?_
    obtain ⟨q, hq, hqpositive⟩ := isPositiveDecimal_iff.1 hpositivePrice
    rw [hown] at hq
    exact (Option.some.inj hq).symm ▸ hqpositive.ne'

theorem observed_of_steps (h : Observed initialTotal state) (hsteps : MeteredSteps runner frames state state') :
    Observed initialTotal state' := by
  induction hsteps with
  | refl => exact h
  | tail _ hstep ih => exact ih.step hstep

/-! ## The cross-checks -/

omit [H.Prints] in
/-- a rejected result of the RiskGate has a failed evaluation -/
theorem rejected_has_failed {context : Risk.RiskGateContext} {result : Risk.RiskGateResult}
    (h : Risk.evaluateRiskGate context = .ok result) (hrejected : result.approved = false) :
    result.failedEvaluations ≠ [] := by
  obtain ⟨limits, -, hresult⟩ := bind_eq_ok.1 h
  obtain rfl := pure_eq_ok.1 hresult
  intro hnone
  have hclear : Risk.Clear (Risk.gateEvaluations context limits) := by
    intro evaluation hmem hfail
    have hin : evaluation ∈ (Risk.createRiskGateResult (Risk.gateEvaluations context limits)).failedEvaluations :=
      List.mem_filter.2 ⟨hmem, by simpa using hfail⟩
    rw [hnone] at hin
    cases hin
  rw [(Risk.createRiskGateResult_approved (Risk.evaluation_action context limits)).2 hclear] at hrejected
  cases hrejected

/-- **A run's metrics pass the cross-checks.** For a completed run with the RiskGate of the application on a broker with
any history: all the relations hold exactly where no strategy held or blocked for a reason under whose name an object
literal inherits something. -/
theorem cross_checks_iff {options : PaperBrokerOptions} {initializedAt : MarketTimestamp} {created : PaperBroker}
    (hcreate : PaperBroker.create options initializedAt = .ok created) (calls : List PaperBrokerCall)
    (hrisk : runner.evaluateRiskGate = fun _ context => Risk.evaluateRiskGate context)
    {pnlStartingCashKrw : Option String} {summary : PaperDecisionMetricSummary}
    (hrun : runner.completedRun (created.run calls) frames pnlStartingCashKrw = .ok (state, summary)) :
    CrossChecks summary ↔
      ∀ decision ∈ state.decisions, ∀ note, decision.note = some note → note.2 ∉ inheritedKeys := by
  obtain ⟨last, hlast, hrun⟩ := bind_eq_ok.1 hrun
  obtain ⟨finalized, hfinalized, hrun⟩ := bind_eq_ok.1 hrun
  obtain ⟨rfl, rfl⟩ := Prod.mk.inj (pure_eq_ok.1 hrun)
  obtain ⟨pnlSummary, -, hfinalized⟩ := bind_eq_ok.1 hfinalized
  obtain rfl := pure_eq_ok.1 hfinalized
  have hsteps := meteredRun_steps hlast
  have hindexed := create_indexed hcreate
  have hobserved : Observed (totalOf created.balancesByCurrency) last :=
    observed_of_steps ⟨hindexed.run calls, (create_recorded hcreate).run hindexed calls, priced_run hcreate calls, rfl,
      rfl, List.nodup_nil, rfl, fun _ hid => absurd hid List.not_mem_nil⟩ hsteps
  have hfailed : ∀ call context result, runner.evaluateRiskGate call context = .ok result →
      result.approved = false → result.failedEvaluations ≠ [] := by
    intro call context result hresult
    rw [hrisk] at hresult
    exact rejected_has_failed hresult
  have hstart : Noted (Metered.start (created.run calls)) [] :=
    ⟨rfl, rfl, rfl, rfl, rfl, Nat.le_refl _, fun _ hnote => absurd hnote List.not_mem_nil, nofun⟩
  obtain ⟨notes, hnoted⟩ := noted_of_steps hstart hfailed hsteps
  constructor
  · intro hchecks decision hdecision note hnote
    have hmem := hnoted.decided decision hdecision note hnote
    obtain ⟨axis, reason⟩ := note
    have hhold := hchecks.hold
    have hdiscard := hchecks.discard
    simp only at hhold hdiscard
    rw [hnoted.hold, hnoted.blocking] at hhold
    rw [hnoted.discard, hnoted.blocking] at hdiscard
    cases decision with
    | hold own =>
      cases hnote
      exact explicitMap_iff.1 hhold _ hmem rfl
    | block own text =>
      cases hnote
      exact explicitMap_iff.1 hdiscard _ hmem rfl
    | orderIntent => cases hnote
  · intro hordinary
    have hnotes : ∀ axis, axis = .hold ∨ axis = .discard → ∀ note ∈ notes, note.1 = axis → note.2 ∉ inheritedKeys := by
      rintro axis haxis note hnote rfl hinherited
      obtain ⟨decision, hdecision, heq⟩ := hnoted.answers note hnote haxis hinherited
      exact hordinary decision hdecision note heq hinherited
    refine ⟨hnoted.costDecisions, rfl, ?_, ?_, hobserved.slippage, ?_, ?_, ?_⟩
    · simp only
      rw [hnoted.blocking, sumReasonCounts_notes, hnoted.costRejected]
    · simp only
      rw [hnoted.blocking, sumReasonCounts_notes]
      exact hnoted.riskRejected
    · simp only
      rw [← hobserved.fills, ← hobserved.submitted]
      exact (hobserved.nodup.subperm hobserved.subset).length_le
    · simp only
      rw [hnoted.hold, hnoted.blocking]
      exact explicitMap_iff.2 (hnotes .hold (Or.inl rfl))
    · simp only
      rw [hnoted.discard, hnoted.blocking]
      exact explicitMap_iff.2 (hnotes .discard (Or.inr rfl))

end Runs

/-! ## A hold for an inherited name -/

namespace Sample

/-- a strategy that holds, with the cost model and the RiskGate of the application -/
def holder (reason : String) : PaperDecisionRunner where
  strategies := [⟨"s1", fun _ _ => pure (.hold reason)⟩]
  evaluateCost _ input := pure (evaluateCost input)
  evaluateRiskGate _ context := Risk.evaluateRiskGate context
  now _ := .nanos 2

/-- the notes of a run of the holder, and whether its map of holds passes -/
def held (reason : String) : Option (List (Option (ReasonAxis × String)) × List String) :=
  (PaperBroker.create (broker "1000") (.nanos 0)).toOption.bind fun broker =>
    ((holder reason).completedRun (broker.run []) [frame] none).toOption.map fun run =>
      (run.1.decisions.map (·.note),
        validateExplicitReasonMap run.2.holdReasonCounts run.2.blockingReasonCounts .hold)

end Sample

/-- a hold for a wide spread passes -/
theorem cross_checks_of_holder :
    ∃ broker state summary, PaperBroker.create (Sample.broker "1000") (.nanos 0) = .ok broker ∧
      (Sample.holder "spread_too_wide").completedRun (broker.run []) [Sample.frame] none = .ok (state, summary) ∧
      CrossChecks summary := by
  have hrun : Sample.held "spread_too_wide" = some ([some (.hold, "spread_too_wide")], []) := by decide +kernel
  obtain ⟨created, hcreated, hrun⟩ := Option.bind_eq_some_iff.1 hrun
  obtain ⟨⟨state, summary⟩, hcompleted, hrun⟩ := Option.map_eq_some_iff.1 hrun
  obtain ⟨hnotes, -⟩ := Prod.mk.inj hrun
  refine ⟨created, state, summary, ok_of_toOption hcreated, ok_of_toOption hcompleted,
    (cross_checks_iff (ok_of_toOption hcreated) [] rfl (ok_of_toOption hcompleted)).2
      fun decision hdecision note hnote => ?_⟩
  have hmem : decision.note ∈ state.decisions.map (·.note) := List.mem_map_of_mem hdecision
  rw [hnotes, List.mem_singleton, hnote] at hmem
  rw [Option.some.inj hmem]
  decide

/-- a hold for `toString` is counted among the blocking reasons and not in its own map -/
theorem inherited_reason_fails :
    ∃ broker state summary, PaperBroker.create (Sample.broker "1000") (.nanos 0) = .ok broker ∧
      (Sample.holder "toString").completedRun broker [Sample.frame] none = .ok (state, summary) ∧
      ¬ CrossChecks summary := by
  have hrun : Sample.held "toString" = some ([some (.hold, "toString")], ["toString"]) := by decide +kernel
  obtain ⟨created, hcreated, hrun⟩ := Option.bind_eq_some_iff.1 hrun
  obtain ⟨⟨state, summary⟩, hcompleted, hrun⟩ := Option.map_eq_some_iff.1 hrun
  obtain ⟨-, hfailed⟩ := Prod.mk.inj hrun
  refine ⟨created, state, summary, ok_of_toOption hcreated, ok_of_toOption hcompleted, fun hchecks => ?_⟩
  rw [hchecks.hold] at hfailed
  cases hfailed

end SeeMirai.Decision
