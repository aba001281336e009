/-
Is the decision ledger true to the run it was made from? Every record of a run but the received frames becomes one
evidence item, whatever the run. The category is another matter: the ledger counts a fill wherever a submitted record
carries a positive filled quantity, and a broker order that was rejected for want of balance still carries the quantity it
was simulated to fill. The runner's own count leaves such orders out; the ledger shows their frame as EXECUTED.

`FillsCovered` says of one submission and the broker it meets that the order it comes back with will not be such a one:
what the simulation fills, the balances cover. Where every submission of a run keeps it, the ledger is truthful.

Results:
- `attributed_of_steps` / `recorded_of_steps`: what every record of a run says of its strategy and of its order.
- `ledger_truthful`: a run's ledger is lossless, and where its submissions are covered it shows as EXECUTED what was.
- `rejected_order_shown_executed`: an order rejected for want of balance.
-/
import SeeMirai.Decision.Ledger

namespace SeeMirai.Decision

open Fallible Execution Paper

/-! ## Fills -/

/-- a quantity that the ledger's reading as a double keeps positive and finite -/
def InDoubleRange (q : ℚ) : Prop := (1 : ℚ) / 2 ^ 1075 < q ∧ q < 2 ^ 1024 - 2 ^ 970

/-- an order whose simulated fill, if there is any, is a fill -/
def FillIsReal (order : BrokerOrder) : Prop :=
  0 < simulatedQuantity order → order.status ≠ .rejected ∧ InDoubleRange (simulatedQuantity order)

theorem isPositiveQuantity_iff {q : ℚ} : isPositiveQuantity (some q) = true ↔ InDoubleRange q := by
  simp [isPositiveQuantity, InDoubleRange]

theorem InDoubleRange.pos {q : ℚ} (h : InDoubleRange q) : 0 < q := lt_trans (by positivity) h.1

@[simp] theorem countPaperFill_trace (state : RunnerState) (order : BrokerOrder) :
    (countPaperFill state order).trace = state.trace := by
  unfold countPaperFill
  split_ifs <;> rfl

@[simp] theorem countPaperFill_broker (state : RunnerState) (order : BrokerOrder) :
    (countPaperFill state order).broker = state.broker := by
  unfold countPaperFill
  split_ifs <;> rfl

@[simp] theorem countPaperFill_submissions (state : RunnerState) (order : BrokerOrder) :
    (countPaperFill state order).submissions = state.submissions := by
  unfold countPaperFill
  split_ifs <;> rfl

/-- what an execution record says: the engine refused, or an order of the broker with its status and its simulated fill -/
inductive ExecutionSays (broker : PaperBroker) (record : TraceRecord) : Prop where
  | refused (hstatus : record.status = "REJECTED") (hid : record.metadata.brokerOrderId = none)
  | ordered (order : BrokerOrder) (hstatus : record.status = "SUBMITTED")
      (hid : record.metadata.brokerOrderId = some order.brokerOrderId)
      (hquantity : record.metadata.filledQuantity = some (simulatedQuantity order))
      (hstored : broker.ordersById.get order.brokerOrderId = some order) (hreal : FillIsReal order)

/-- orders that stay stored keep what the records say -/
theorem ExecutionSays.mono {broker later : PaperBroker} {record : TraceRecord} (h : ExecutionSays broker record)
    (hkept : ∀ id order, broker.ordersById.get id = some order → later.ordersById.get id = some order) :
    ExecutionSays later record := by
  cases h with
  | refused hstatus hid => exact .refused hstatus hid
  | ordered order hstatus hid hquantity hstored hreal =>
    exact .ordered order hstatus hid hquantity (hkept _ _ hstored) hreal

section Runs

variable [Host]

/-! ## What is covered -/

/-- the order a submission comes back with is not rejected while it carries a simulated fill: an order that its key is
bound to is none, and for a new order the balances cover what the simulation fills -/
structure FillsCovered (broker : PaperBroker) (submission : OrderSubmission) : Prop where
  bound : ∀ id order, broker.orderIdsByIdempotencyKey.get submission.intent.idempotencyKey = some id →
    broker.ordersById.get id = some order → FillIsReal order
  fresh : broker.orderIdsByIdempotencyKey.get submission.intent.idempotencyKey = none →
    ∀ orderbooks options simulation mutation, broker.createFillSimulationRequest submission = .ok (orderbooks, options) →
      simulatePaperFill submission.intent orderbooks options = .ok simulation →
      createSubmissionBalanceMutation submission.intent simulation = .ok mutation → 0 < simulation.filledQuantity →
        validateBalanceMutation broker.balancesByCurrency mutation = none ∧ InDoubleRange simulation.filledQuantity

/-- what `fillOrder` makes of a covered submission -/
theorem FillsCovered.fillOrder {broker : PaperBroker} {submission : OrderSubmission} (h : FillsCovered broker submission)
    (hnew : broker.orderIdsByIdempotencyKey.get submission.intent.idempotencyKey = none) {brokerOrderId : String}
    {updatedAt : MarketTimestamp} {balances : InsertionMap String BrokerBalance} {order : BrokerOrder}
    (hfill : broker.fillOrder submission brokerOrderId updatedAt = .ok (balances, order)) : FillIsReal order := by
  unfold PaperBroker.fillOrder at hfill
  split at hfill
  · obtain ⟨rejected, hrejected, hfill⟩ := bind_eq_ok.1 hfill
    obtain ⟨quantity, -, hrejected⟩ := bind_eq_ok.1 hrejected
    cases pure_eq_ok.1 hrejected
    cases pure_eq_ok.1 hfill
    exact fun hpos => absurd hpos (lt_irrefl 0)
  · obtain ⟨⟨orderbooks, options⟩, hrequest, hfill⟩ := bind_eq_ok.1 hfill
    obtain ⟨simulation, hsimulation, hfill⟩ := bind_eq_ok.1 hfill
    obtain ⟨mutation, hmutation, hfill⟩ := bind_eq_ok.1 hfill
    cases pure_eq_ok.1 hfill
    intro hpos
    have hpos : 0 < simulation.filledQuantity := hpos
    obtain ⟨hcovered, hrange⟩ := h.fresh hnew orderbooks options simulation mutation hrequest hsimulation hmutation hpos
    refine ⟨?_, hrange⟩
    rw [hcovered]
    -- an order that filled something is not rejected by the simulation
    obtain ⟨requested, -, hshape⟩ := simulatePaperFill_shape hsimulation
    show simulation.orderStatus ≠ .rejected
    rcases hshape.filled with ⟨-, hzero, -⟩ | ⟨-, hstatus | hstatus | hstatus⟩
    · exact absurd hzero hpos.ne'
    all_goals simp [hstatus]

/-- the order that a covered submission comes back with -/
theorem FillsCovered.submitOrder {broker : PaperBroker} {submission : OrderSubmission} (h : FillsCovered broker submission)
    (hindexed : Indexed broker) {now : MarketTimestamp} {order : BrokerOrder}
    (hok : (broker.submitOrder submission now).2 = .ok order) : FillIsReal order := by
  have hstored := submitOrder_stored hindexed hok
  obtain ⟨hbound, -⟩ := submitOrder_binds hindexed hok
  rcases submitOrder_fills broker submission now with
    hsame | ⟨⟨e, he⟩, -⟩ | ⟨fingerprint, balances, added, hadded, -, hnew, hfill, -⟩
  · rw [hsame] at hstored hbound
    exact h.bound _ order hbound hstored
  · rw [hok] at he
    cases he
  · obtain rfl : order = added := Except.ok.inj (hok.symm.trans hadded)
    exact h.fillOrder hnew hfill

/-! ## What a run keeps -/

variable {state state' : RunnerState}

/-- a step adds at most one record, and says which -/
theorem RunnerStep.trace (h : RunnerStep state state') : state'.trace = state.trace ∨
    ∃ record, state'.trace = state.trace ++ [record] ∧ (record.strategyId = none ↔ record.stage = .frameReceived) := by
  cases h with
  | frame frame => exact Or.inr ⟨frameReceivedRecord frame, rfl, by simp [frameReceivedRecord, createTrace]⟩
  | orderbook => exact Or.inl rfl
  | stage record hframe hexecution hstrategy =>
    obtain ⟨strategyId, hstrategy⟩ := Option.isSome_iff_exists.1 hstrategy
    exact Or.inr ⟨record, rfl, by simp [hstrategy, hframe]⟩
  | refused frame intent rejection =>
    exact Or.inr ⟨engineRejectedRecord frame intent rejection, rfl, by simp [engineRejectedRecord, createTrace]⟩
  | submitted frame intent submission now order hok =>
    exact Or.inr ⟨executionRecord frame intent order, by simp [RunnerState.push],
      by simp [executionRecord, createTrace]⟩

/-- a run's trace says of every record but `FRAME_RECEIVED` which strategy it is of -/
theorem attributed_of_steps (h : RunnerSteps state state') (hstart : Attributed state.trace) : Attributed state'.trace := by
  induction h with
  | refl => exact hstart
  | tail _ hstep ih =>
    rcases hstep.trace with hsame | ⟨record, hadded, hrecord⟩
    · rw [hsame]
      exact ih
    · rw [hadded]
      intro other hother
      rw [List.mem_append, List.mem_singleton] at hother
      rcases hother with hother | rfl
      · exact ih other hother
      · exact hrecord

/-- the invariant of a run whose submissions are covered -/
structure Recorded (state : RunnerState) : Prop where
  indexed : Indexed state.broker
  execution : ∀ record ∈ state.trace, record.stage = .executionResult → ExecutionSays state.broker record

/-- a submission changes no stored order -/
theorem submitOrder_keeps {broker : PaperBroker} (hindexed : Indexed broker) (submission : OrderSubmission)
    (now : MarketTimestamp) {id : String} {order : BrokerOrder} (hget : broker.ordersById.get id = some order) :
    (broker.submitOrder submission now).1.ordersById.get id = some order := by
  rcases submitOrder_cases broker submission now with
    hsame | ⟨-, hthrown⟩ | ⟨fingerprint, balances, added, -, -, -, hfilled, hstored⟩
  · rw [hsame]
    exact hget
  · rw [hthrown]
    exact hget
  · have hne : added.brokerOrderId ≠ id := by
      intro hid
      rw [hfilled.brokerOrderId_eq] at hid
      rw [← hid, hindexed.fresh] at hget
      cases hget
    rw [hstored]
    exact (InsertionMap.get_set_ne _ _ hne).trans hget

/-- a record of another stage says nothing of execution -/
theorem Recorded.push (h : Recorded state) {record : TraceRecord} (hstage : record.stage ≠ .executionResult) :
    Recorded (state.push record) where
  indexed := h.indexed
  execution other hother hexecution := by
    simp only [RunnerState.push, List.mem_append, List.mem_singleton] at hother
    rcases hother with hother | rfl
    · exact h.execution other hother hexecution
    · exact absurd hexecution hstage

theorem Recorded.step (h : Recorded state) (hstep : RunnerStep state state')
    (hcovered : ∀ call ∈ state'.submissions, FillsCovered call.1 call.2) : Recorded state' := by
  cases hstep with
  | frame frame => exact h.push nofun
  | orderbook orderbooksByMarket =>
    refine ⟨⟨h.indexed.order, h.indexed.key, h.indexed.number, h.indexed.readable⟩, fun record hrecord hexecution => ?_⟩
    exact (h.execution record hrecord hexecution).mono fun _ _ hget => hget
  | stage record hframe hexecution hstrategy => exact h.push hexecution
  | refused frame intent rejection =>
    refine ⟨h.indexed, fun record hrecord hexecution => ?_⟩
    simp only [RunnerState.push, List.mem_append, List.mem_singleton] at hrecord
    rcases hrecord with hrecord | rfl
    · exact h.execution record hrecord hexecution
    · exact .refused rfl rfl
  | submitted frame intent submission now order hok =>
    have hcall := hcovered (state.broker, submission) (by simp [RunnerState.push])
    have hbroker : Indexed (state.broker.submitOrder submission now).1 := h.indexed.submitOrder submission now
    refine ⟨by simpa [RunnerState.push] using hbroker, fun record hrecord hexecution => ?_⟩
    simp only [RunnerState.push, countPaperFill_trace, List.mem_append, List.mem_singleton] at hrecord
    simp only [RunnerState.push, countPaperFill_broker]
    rcases hrecord with hrecord | rfl
    · exact (h.execution record hrecord hexecution).mono fun _ _ hget => submitOrder_keeps h.indexed submission now hget
    · exact .ordered order rfl rfl rfl (submitOrder_stored h.indexed hok) (hcall.submitOrder h.indexed hok)

/-- submissions are only added -/
theorem RunnerStep.submissions (h : RunnerStep state state') : ∀ call ∈ state.submissions, call ∈ state'.submissions := by
  intro call hcall
  cases h with
  | frame => exact hcall
  | orderbook => exact hcall
  | stage => exact hcall
  | refused => exact hcall
  | submitted => simp [RunnerState.push, hcall]

theorem recorded_of_steps (h : RunnerSteps state state') (hstart : Recorded state)
    (hcovered : ∀ call ∈ state'.submissions, FillsCovered call.1 call.2) : Recorded state' := by
  induction h with
  | refl => exact hstart
  | tail _ hstep ih => exact (ih fun call hcall => hcovered call (hstep.submissions call hcall)).step hstep hcovered

/-! ## What the ledger shows -/

/-- the order of an execution record: not rejected by the broker, and something of it filled -/
def IsExecuted (broker : PaperBroker) (record : TraceRecord) : Prop :=
  ∃ id order, record.metadata.brokerOrderId = some id ∧ broker.ordersById.get id = some order ∧
    order.status ≠ .rejected ∧ 0 < simulatedQuantity order

/-- in a run whose submissions are covered, the ledger counts as a fill what is one -/
theorem Recorded.isPaperFill_iff (h : Recorded state) {record : TraceRecord} (hmem : record ∈ state.trace) :
    record.isPaperFill = true ↔ record.stage = .executionResult ∧ IsExecuted state.broker record := by
  by_cases hstage : record.stage = .executionResult
  · have hsays := h.execution record hmem hstage
    simp only [TraceRecord.isPaperFill, hstage, true_and, decide_eq_true_eq]
    cases hsays with
    | refused hstatus hid => simp [hstatus, IsExecuted, hid]
    | ordered order hstatus hid hquantity hstored hreal =>
      simp only [hstatus, true_or, true_and, hquantity, isPositiveQuantity_iff]
      constructor
      · intro hrange
        exact ⟨order.brokerOrderId, order, hid, hstored, (hreal hrange.pos).1, hrange.pos⟩
      · rintro ⟨id, other, hother, hget, -, hpos⟩
        obtain rfl := Option.some.inj (hid.symm.trans hother)
        obtain rfl := Option.some.inj (hstored.symm.trans hget)
        exact (hreal hpos).2
  · simp [TraceRecord.isPaperFill, hstage]

/-- **The decision ledger of a run.** Whatever the broker did before and whatever the ports answer: every record of a
completed run but its received frames becomes exactly one evidence item, in the one ledger frame of its frame id and its
strategy id. Where every submission of the run was covered, a frame is EXECUTED exactly where an execution result of it
belongs to an order that was not rejected and that filled something. -/
theorem ledger_truthful {runner : PaperDecisionRunner} {options : PaperBrokerOptions} {initializedAt : MarketTimestamp}
    {initial : PaperBroker} (hcreate : PaperBroker.create options initializedAt = .ok initial)
    (calls : List PaperBrokerCall) {frames : List PaperDecisionInputFrame}
    (hrun : runner.run (initial.run calls) frames = .ok state) (ledger : LedgerOptions) :
    (∃ placed, Placed ledger state.trace placed) ∧
    ((buildDecisionLedgerFromRunnerResult ledger state.trace).map
      (fun entry => (entry.frame.sourceFrameId, entry.frame.strategyId))).Nodup ∧
    ((∀ call ∈ state.submissions, FillsCovered call.1 call.2) →
      ∀ entry ∈ buildDecisionLedgerFromRunnerResult ledger state.trace, entry.frame.category = .executed ↔
        ∃ record ∈ state.trace, record.stage = .executionResult ∧ record.frameId = entry.frame.sourceFrameId ∧
          record.strategyId = entry.frame.strategyId ∧ IsExecuted state.broker record) := by
  have hsteps := run_steps hrun
  have hattributed : Attributed state.trace := attributed_of_steps hsteps (fun _ hrecord => by cases hrecord)
  refine ⟨ledger_placed hattributed ledger, ledger_frames_nodup hattributed ledger, fun hcovered entry hentry => ?_⟩
  have hstart : Recorded (RunnerState.start (initial.run calls)) :=
    ⟨(create_indexed hcreate).run calls, fun _ hrecord => by cases hrecord⟩
  have hrecorded := recorded_of_steps hsteps hstart hcovered
  rw [ledger_executed_iff hattributed ledger hentry]
  constructor
  · rintro ⟨record, hmem, hid, hstrategy, hfill⟩
    obtain ⟨hstage, hexecuted⟩ := (hrecorded.isPaperFill_iff hmem).1 hfill
    exact ⟨record, hmem, hstage, hid, hstrategy, hexecuted⟩
  · rintro ⟨record, hmem, hstage, hid, hstrategy, hexecuted⟩
    exact ⟨record, hmem, hid, hstrategy, (hrecorded.isPaperFill_iff hmem).2 ⟨hstage, hexecuted⟩⟩

end Runs

/-! ## A buy with and without money -/

namespace Sample

def ask : OrderbookEvent where
  exchangeId := "upbit_krw_spot"
  market := "KRW-BTC"
  asks := [⟨"100", "1"⟩]
  bids := []
  receivedAt := .nanos 0

def broker (available : String) : PaperBrokerOptions where
  exchangeId := "upbit_krw_spot"
  initialBalances := [⟨"KRW", available, none, none, none⟩]
  orderbookSnapshots := []
  fillOptions := ⟨none, none, none, none⟩
  brokerOrderIdPrefix := none

def frame : PaperDecisionInputFrame where
  id := "f1"
  observedAt := .nanos 1
  exchangeId := "upbit_krw_spot"
  market := "KRW-BTC"
  features := []
  orderbook := some ask
  costInput := []
  risk := ⟨none, none, none, none, [], none, none, [], none, none⟩
  phase15ApprovedAltMarkets := []
  metadata := .undefined

def buy : ExecutionIntent where
  exchangeId := "upbit_krw_spot"
  market := "KRW-BTC"
  strategyId := "s1"
  side := .buy
  requestedQuantity := "1"
  requestedNotional := "100"
  idempotencyKey := "k1"
  terms := .limit "100" false none
  metadata := .undefined

def costMarginOk : CostDecision where
  kind := "ALLOW"
  tradeAllowed := true
  reasonCode := "cost_margin_ok"
  message := "ok"
  snapshot := [("exchange_id", .string "upbit_krw_spot"), ("market", .string "KRW-BTC"), ("trade_allowed", .bool true),
    ("reason_code", .string "cost_margin_ok")]

/-- one strategy that buys 1 at 100, with the RiskGate of the application -/
def buyer : PaperDecisionRunner where
  strategies := [⟨"s1", fun _ _ => pure (.orderIntent "buy" [buy] .undefined)⟩]
  evaluateCost _ _ := pure costMarginOk
  evaluateRiskGate _ context := Risk.evaluateRiskGate context
  now _ := .nanos 2

def ledger : LedgerOptions := ⟨1, "run", "UPBIT", none, .nanos 3, id⟩

/-- what a run of the buyer comes to: its own fill count, the orders, and the frames of the ledger -/
def outcome (available : String) : Option (ℕ × List OrderLifecycleStatus × List DecisionFrameCategory) :=
  (PaperBroker.create (broker available) (.nanos 0)).toOption.bind fun broker =>
    (buyer.run broker [frame]).toOption.map fun state =>
      (state.paperFillCount, state.broker.ordersById.values.map (·.status),
        (buildDecisionLedgerFromRunnerResult ledger state.trace).map (·.frame.category))

/-- of a submission: whether its key is new, whether the balances cover what is filled, and what is filled -/
def callOutcome (call : PaperBroker × OrderSubmission) : Bool × Option (Bool × ℚ) :=
  ((call.1.orderIdsByIdempotencyKey.get call.2.intent.idempotencyKey).isNone, Except.toOption do
    let (orderbooks, options) ← call.1.createFillSimulationRequest call.2
    let simulation ← simulatePaperFill call.2.intent orderbooks options
    let mutation ← createSubmissionBalanceMutation call.2.intent simulation
    return ((validateBalanceMutation call.1.balancesByCurrency mutation).isNone, simulation.filledQuantity))

/-- the submissions of a run of the buyer -/
def submitted (available : String) : Option (List (Bool × Option (Bool × ℚ))) :=
  (PaperBroker.create (broker available) (.nanos 0)).toOption.bind fun broker =>
    (buyer.run broker [frame]).toOption.map fun state => state.submissions.map callOutcome

/-- with money the submission is covered -/
theorem covered : submitted "1000" = some [(true, some (true, 1))] := by decide +kernel

end Sample

/-- with money the frame is EXECUTED because its order was -/
theorem ledger_truthful_of_buyer :
    ∃ broker state, PaperBroker.create (Sample.broker "1000") (.nanos 0) = .ok broker ∧
      Sample.buyer.run (broker.run []) [Sample.frame] = .ok state ∧
      ∀ entry ∈ buildDecisionLedgerFromRunnerResult Sample.ledger state.trace, entry.frame.category = .executed ↔
        ∃ record ∈ state.trace, record.stage = .executionResult ∧ record.frameId = entry.frame.sourceFrameId ∧
          record.strategyId = entry.frame.strategyId ∧ IsExecuted state.broker record := by
  obtain ⟨broker, hbroker, hrun⟩ := Option.bind_eq_some_iff.1 Sample.covered
  obtain ⟨state, hstate, hcovered⟩ := Option.map_eq_some_iff.1 hrun
  refine ⟨broker, state, ok_of_toOption hbroker, ok_of_toOption hstate, ?_⟩
  refine (ledger_truthful (ok_of_toOption hbroker) [] (ok_of_toOption hstate) Sample.ledger).2.2 fun call hcall => ?_
  have hmem : Sample.callOutcome call ∈ state.submissions.map Sample.callOutcome := List.mem_map_of_mem hcall
  rw [hcovered, List.mem_singleton, Sample.callOutcome, Prod.mk.injEq, Option.isNone_iff_eq_none] at hmem
  obtain ⟨hnew, hfilled⟩ := hmem
  refine ⟨fun id order hbound _ => ?_, fun _ orderbooks options simulation mutation hrequest hsimulation hmutation _ => ?_⟩
  · rw [hnew] at hbound
    cases hbound
  · simp only [hrequest, hsimulation, hmutation, ok_bind] at hfilled
    obtain ⟨hvalid, hone⟩ := Prod.mk.inj (Option.some.inj hfilled)
    rw [hone]
    exact ⟨Option.isNone_iff_eq_none.1 hvalid, by unfold InDoubleRange; decide +kernel⟩

/-- without money the order is rejected and the runner counts no fill, but the frame is EXECUTED -/
theorem rejected_order_shown_executed :
    ∃ broker state, PaperBroker.create (Sample.broker "0") (.nanos 0) = .ok broker ∧
      Sample.buyer.run broker [Sample.frame] = .ok state ∧ state.paperFillCount = 0 ∧
      (∀ record ∈ state.trace, ¬ IsExecuted state.broker record) ∧
      ∃ entry ∈ buildDecisionLedgerFromRunnerResult Sample.ledger state.trace, entry.frame.category = .executed := by
  have hrun : Sample.outcome "0" = some (0, [.rejected], [.executed]) := by decide +kernel
  obtain ⟨broker, hbroker, hrun⟩ := Option.bind_eq_some_iff.1 hrun
  obtain ⟨state, hstate, hrun⟩ := Option.map_eq_some_iff.1 hrun
  simp only [Prod.mk.injEq] at hrun
  obtain ⟨hcount, hstatuses, hcategories⟩ := hrun
  refine ⟨broker, state, ok_of_toOption hbroker, ok_of_toOption hstate, hcount, ?_, ?_⟩
  · rintro record - ⟨id, order, -, hget, hstatus, -⟩
    have hmem : order.status ∈ state.broker.ordersById.values.map (·.status) :=
      List.mem_map_of_mem (List.mem_map_of_mem (state.broker.ordersById.mem_iff_get.2 hget))
    rw [hstatuses, List.mem_singleton] at hmem
    exact hstatus hmem
  · have hmem : DecisionFrameCategory.executed
        ∈ (buildDecisionLedgerFromRunnerResult Sample.ledger state.trace).map (·.frame.category) := by
      rw [hcategories]
      exact List.mem_singleton_self _
    obtain ⟨entry, hentry, hcategory⟩ := List.mem_map.1 hmem
    exact ⟨entry, hentry, hcategory⟩

end SeeMirai.Decision
