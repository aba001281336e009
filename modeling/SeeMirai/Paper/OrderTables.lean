/-
The order tables and the two transactions that write them: a paper execution is booked as an order with its way from
RISK_APPROVED, its fills and its position (infrastructure/db/execution-persistence), and a state transition is appended
to an order's log, with the snapshot moved along where the transition was accepted (infrastructure/db/order-events).

Each transaction is atomic and the transactions of all callers come in any order, with any ids for new rows; any
statement may fail. NUMERIC columns keep their scale; row ids of events and fills, times of orders and the JSON columns
are left out, and of `paper_orders` only the key is kept.
-/
import SeeMirai.Paper.ExecutionPersistence
import SeeMirai.Execution.Positions
import SeeMirai.Lib.Transaction
import SeeMirai.Lib.Table

namespace SeeMirai.Paper

open Fallible Transaction

/-! ## Tables -/

structure ExecutionOrderRowInput where
  exchange : String
  market : String
  strategyId : String
  side : OrderSide
  orderType : OrderType
  status : OrderLifecycleStatus
  idempotencyKey : String
  requestedPrice : Option ℚ
  requestedQuantity : ℚ
  requestedNotional : ℚ
deriving DecidableEq

structure OrderRow extends ExecutionOrderRowInput where
  id : String
deriving DecidableEq

structure OrderEventRow where
  orderId : String
  fromStatus : OrderLifecycleStatus
  toStatus : OrderLifecycleStatus
  accepted : Bool
  reasonCode : String
  message : String
  occurredAt : MarketTimestamp
deriving DecidableEq

/-- the rows of events in the order of their commits -/
structure OrderTables where
  orders : List OrderRow
  paperOrders : List String
  orderEvents : List OrderEventRow
  fills : List FillRowInput
  positions : Execution.Positions

def emptyTables : OrderTables := ⟨[], [], [], [], InsertionMap.empty⟩

def constraintViolation (relation : String) : Thrown :=
  ⟨"DatabaseError", "new row for relation \"" ++ relation ++ "\" violates a constraint"⟩

abbrev StoreProgram := Transaction.Program OrderTables Thrown

/-! ## Statements -/

/-- the scales of the NUMERIC columns -/
def ExecutionOrderRowInput.atColumnScales (row : ExecutionOrderRowInput) : ExecutionOrderRowInput :=
  { row with
    requestedPrice := row.requestedPrice.map (decimalAtScale 18)
    requestedQuantity := decimalAtScale 18 row.requestedQuantity
    requestedNotional := decimalAtScale 8 row.requestedNotional }

/-- `INSERT INTO orders … ON CONFLICT (idempotency_key) DO NOTHING RETURNING *`, under the id the table gives -/
def insertOrder (id : String) (input : ExecutionOrderRowInput) : StoreProgram (Option OrderRow) :=
  statement fun tables =>
    let row := input.atColumnScales
    if Execution.namesMarket row.market = false ∨ (∃ price ∈ row.requestedPrice, price ≤ 0) ∨
        row.requestedQuantity ≤ 0 ∨ row.requestedNotional ≤ 0 then
      .error (constraintViolation "orders")
    else if tables.orders.any (·.idempotencyKey = row.idempotencyKey) then .ok (none, tables)
    else if tables.orders.any (·.id = id) then .error (constraintViolation "orders")
    else .ok (some ⟨row, id⟩, { tables with orders := tables.orders ++ [⟨row, id⟩] })

def selectOrder (picked : OrderRow → Bool) : StoreProgram OrderRow :=
  statement fun tables =>
    match tables.orders.find? picked with
    | some row => .ok (row, tables)
    | none => .error ⟨"NoResultError", "no result"⟩

def insertPaperOrder (orderId : String) : StoreProgram Unit :=
  statement fun tables =>
    if orderId ∈ tables.paperOrders ∨
      tables.orders.all (·.id ≠ orderId) then .error (constraintViolation "paper_orders")
    else .ok ((), { tables with paperOrders := tables.paperOrders ++ [orderId] })

def insertOrderEvent (row : OrderEventRow) : StoreProgram OrderEventRow :=
  statement fun tables =>
    if tables.orders.all (·.id ≠ row.orderId) then .error (constraintViolation "order_events")
    else .ok (row, { tables with orderEvents := tables.orderEvents ++ [row] })

def standsAt (orderId : String) (status : OrderLifecycleStatus) (row : OrderRow) : Bool :=
  row.id = orderId ∧ row.status = status

def OrderRow.moved (status : OrderLifecycleStatus) (row : OrderRow) : OrderRow := { row with status := status }

/-- `UPDATE orders SET status … WHERE id AND status = from RETURNING id` -/
def advanceOrder (orderId : String) (fromState toState : OrderLifecycleStatus) : StoreProgram (List OrderRow) :=
  statement fun tables =>
    .ok (Table.returning (standsAt orderId fromState) (OrderRow.moved toState) tables.orders,
      { tables with orders := Table.updateWhere (standsAt orderId fromState) (OrderRow.moved toState) tables.orders })

def FillRowInput.atColumnScales (row : FillRowInput) : FillRowInput :=
  { row with
    price := decimalAtScale 18 row.price
    quantity := decimalAtScale 18 row.quantity
    fee := decimalAtScale 18 row.fee }

def insertFills (input : List FillRowInput) : StoreProgram (List FillRowInput) :=
  statement fun tables =>
    let rows := input.map FillRowInput.atColumnScales
    if ∃ row ∈ rows, tables.orders.all (·.id ≠ row.orderId) ∨ Execution.namesMarket row.market = false ∨ row.price ≤ 0 ∨
        row.quantity ≤ 0 ∨ row.fee < 0 then
      .error (constraintViolation "fills")
    else .ok (rows, { tables with fills := tables.fills ++ rows })

/-! ## Transactions -/

section Host

variable [Host]

def readOptionalDecimal : Option String → Except Thrown (Option ℚ)
  | none => pure none
  | some text => some <$> parseFinancialDecimal text

def toExecutionOrderRowInput (input : PersistPaperExecutionInput) : Except Thrown ExecutionOrderRowInput := do
  let intent := input.submission.intent
  let requestedPrice ← readOptionalDecimal intent.terms.requestedPrice
  let requestedQuantity ← parseFinancialDecimal intent.requestedQuantity
  let requestedNotional ← parseFinancialDecimal intent.requestedNotional
  pure { exchange := intent.exchangeId
         market := intent.market
         strategyId := intent.strategyId
         side := intent.side
         orderType := intent.terms.orderType
         status := .riskApproved
         idempotencyKey := intent.idempotencyKey
         requestedPrice := requestedPrice
         requestedQuantity := requestedQuantity
         requestedNotional := requestedNotional }

/-- a retry under the same key has to be of the same order, at the scales of the columns -/
def assertExistingOrderMatchesInput (existingOrder : OrderRow) (input : PersistPaperExecutionInput) :
    Except Thrown Unit := do
  let expectedOrder ← toExecutionOrderRowInput input
  let mismatches := addMismatchIf [] "exchange" (existingOrder.exchange ≠ expectedOrder.exchange)
  let mismatches := addMismatchIf mismatches "market" (existingOrder.market ≠ expectedOrder.market)
  let mismatches := addMismatchIf mismatches "strategy_id" (existingOrder.strategyId ≠ expectedOrder.strategyId)
  let mismatches := addMismatchIf mismatches "side" (existingOrder.side ≠ expectedOrder.side)
  let mismatches := addMismatchIf mismatches "order_type" (existingOrder.orderType ≠ expectedOrder.orderType)
  let mismatches := addMismatchIf mismatches "requested_price"
    (existingOrder.requestedPrice.map (decimalAtScale 18) ≠ expectedOrder.requestedPrice.map (decimalAtScale 18))
  let mismatches := addMismatchIf mismatches "requested_quantity"
    (decimalAtScale 18 existingOrder.requestedQuantity ≠ decimalAtScale 18 expectedOrder.requestedQuantity)
  let mismatches := addMismatchIf mismatches "requested_notional"
    (decimalAtScale 8 existingOrder.requestedNotional ≠ decimalAtScale 8 expectedOrder.requestedNotional)
  throwIf (mismatches ≠ []) ("paper execution idempotency key conflict: " ++ ", ".intercalate mismatches)

def paperEventRow (orderId : String) (event : OrderStateTransitionEvent) : OrderEventRow :=
  ⟨orderId, event.fromState, event.toState, true, event.reasonCode, event.message, event.occurredAt⟩

/-- the loop over the events of an execution -/
def appendPaperExecutionStateEvents (orderId : String) : List OrderStateTransitionEvent →
    StoreProgram (List OrderEventRow)
  | [] => pure []
  | event :: events => do
    let row ← insertOrderEvent (paperEventRow orderId event)
    let updated ← advanceOrder orderId event.fromState event.toState
    if updated = [] then
      throw (persistenceError "paper execution order transition target order not found or current status mismatch")
    let rows ← appendPaperExecutionStateEvents orderId events
    pure (row :: rows)

/-- nothing is sent for an execution without fill rows -/
def insertPaperExecutionFills (orderId : String) (input : PersistPaperExecutionInput) :
    StoreProgram (List FillRowInput) := do
  let rows ← Effect.ofExcept (toFillRowInputs orderId input)
  if rows = [] then pure [] else insertFills rows

def MarketTimestamp.toInput : MarketTimestamp → TimestampInput
  | .nanos n => .at (n / 1000000)
  | .refused _ => .invalid

/-- a fill as the position statement reads it -/
def toFillRecord (row : FillRowInput) : Execution.FillRecord where
  side := match row.side with
    | .buy => .buy
    | .sell => .sell
  price := Host.toFixed row.price
  quantity := Host.toFixed row.quantity
  filledAt := MarketTimestamp.toInput row.filledAt

def OrderRow.scope (order : OrderRow) : Execution.ExecutionOrderRecord :=
    ⟨order.exchange, order.market, order.strategyId⟩

def applyFill (order : OrderRow) (positions : Execution.Positions) (fill : FillRowInput) :
    Except Thrown Execution.Positions :=
  Prod.snd <$> Execution.applyPositionFill order.scope (none, positions) (toFillRecord fill)

def upsertPositionFromFills (order : OrderRow) : List FillRowInput → StoreProgram Unit
  | [] => pure ()
  | fill :: fills => do
    statement fun tables => do
      let positions ← applyFill order tables.positions fill
      pure ((), { tables with positions := positions })
    upsertPositionFromFills order fills

structure PersistPaperExecutionResult where
  created : Bool
  order : OrderRow
  fills : List FillRowInput
  orderEvents : List OrderEventRow

/-- the order is there already: a retry of the same order is answered with it -/
def returnExistingOrder (input : PersistPaperExecutionInput) : StoreProgram PersistPaperExecutionResult := do
  let existingOrder ← selectOrder (·.idempotencyKey = input.submission.intent.idempotencyKey)
  Effect.ofExcept (assertExistingOrderMatchesInput existingOrder input)
  pure ⟨false, existingOrder, [], []⟩

/-- what a new order is booked with -/
def bookInsertedOrder (input : PersistPaperExecutionInput) (insertedOrder : OrderRow) :
    StoreProgram PersistPaperExecutionResult := do
  insertPaperOrder insertedOrder.id
  let events ← Effect.ofExcept (createPaperExecutionStateTransitionEvents input)
  let orderEvents ← appendPaperExecutionStateEvents insertedOrder.id events
  let order ← selectOrder (·.id = insertedOrder.id)
  let fills ← insertPaperExecutionFills insertedOrder.id input
  upsertPositionFromFills order fills
  pure ⟨true, order, fills, orderEvents⟩

def persistPaperExecutionInTransaction (id : String) (input : PersistPaperExecutionInput) :
    StoreProgram PersistPaperExecutionResult := do
  Effect.ofExcept (assertBrokerOrderMatchesSubmission input)
  Effect.ofExcept (assertFillEvidenceMatchesBrokerStatus input)
  let row ← Effect.ofExcept (toExecutionOrderRowInput input)
  let insertedOrder ← insertOrder id row
  match insertedOrder with
  | none => returnExistingOrder input
  | some insertedOrder => bookInsertedOrder input insertedOrder

end Host

def toOrderEventRow (orderId : String) (event : StateTransitionDecision OrderLifecycleStatus)
    (occurredAt : MarketTimestamp) : OrderEventRow :=
  ⟨orderId, event.fromState, event.toState, event.accepted, event.reasonCode, event.message, occurredAt⟩

def appendOrderStateTransitionEvent (orderId : String) (event : StateTransitionDecision OrderLifecycleStatus)
    (occurredAt : MarketTimestamp) : StoreProgram OrderEventRow := do
  let orderEvent ← insertOrderEvent (toOrderEventRow orderId event occurredAt)
  if event.accepted then
    let updated ← advanceOrder orderId event.fromState event.toState
    if updated = [] then
      throw (persistenceError "accepted order state transition target order not found or current status mismatch")
  pure orderEvent

/-! ## Runs -/

/-- one transaction of some caller; a candidate is what `transitionOrderState` makes of a transition -/
inductive StoreCall where
  | persistPaperExecution (id : String) (input : PersistPaperExecutionInput)
  | appendOrderStateTransitionEvent (orderId : String) (fromState toState : OrderLifecycleStatus)
      (reasonCode message : String) (occurredAt : MarketTimestamp)

/-- the tables, and the executions that created an order, in the order of their commits -/
structure StoreWorld where
  tables : OrderTables
  created : List (String × PersistPaperExecutionInput)

def initialStoreWorld : StoreWorld := ⟨emptyTables, []⟩

section Step

variable [Host]

/-- an execution that created its order is noted -/
def StoreWorld.committed (w : StoreWorld) (input : PersistPaperExecutionInput) :
    Except Thrown PersistPaperExecutionResult × OrderTables → StoreWorld
  | (.ok result, tables) =>
    ⟨tables, if result.created then w.created ++ [(result.order.id, input)] else w.created⟩
  | (.error _, tables) => { w with tables := tables }

def StoreWorld.step (w : StoreWorld) : StoreCall × List (Option Thrown) → StoreWorld
  | (.persistPaperExecution id input, faults) =>
    w.committed input (transact (persistPaperExecutionInTransaction id input) faults w.tables)
  | (.appendOrderStateTransitionEvent orderId fromState toState reasonCode message occurredAt, faults) =>
    { w with tables := (transact (appendOrderStateTransitionEvent orderId
        (Risk.transitionOrderState fromState toState reasonCode message) occurredAt) faults w.tables).2 }

def runStore (calls : List (StoreCall × List (Option Thrown))) : StoreWorld :=
  calls.foldl StoreWorld.step initialStoreWorld

end Step

end SeeMirai.Paper
