/-
`submitOrder` of the live broker (infrastructure/upbit/live-broker/service.ts), run by several callers at once against
an exchange that refuses an identifier it has seen and that may act without its response arriving.

A refused identifier is looked up, and the order found is returned only when it is the order of the submission.

Results:
- `submitOrder_keeps`: a call asks to create at most once and looks up only after a refusal for the identifier.
- `submitOrder_retry_safe`: in every interleaving no identifier has two orders, and what a call returns is the order of
  its submission.
-/
import SeeMirai.Lib.Async
import SeeMirai.Lib.TextOrder
import SeeMirai.Upbit.PrivateOrders

namespace SeeMirai.Upbit

open Async

section Broker

variable [Host]

/-! ## Model: requests -/

def UPBIT_PRIVATE_ORDER_IDENTIFIER_MAX_LENGTH : ℕ := 32

structure UpbitPrivateCreateLimitOrderInput where
  market : String
  side : UpbitPrivateOrderSide
  volume : String
  price : String
  identifier : String
  timeInForce : Option UpbitPrivateTimeInForce
deriving DecidableEq, Repr

inductive ClientRequest where
  | createLimitOrder (input : UpbitPrivateCreateLimitOrderInput)
  | getOrder (identifier : String)

abbrev ClientReply (_ : ClientRequest) : Type := UpbitPrivateOrderSummaryPayload

abbrev ClientProgram (α : Type) : Type := Async ClientRequest ClientReply UpbitPrivateError α

/-! ## Model: the input -/

omit [Host] in
def toPrivateOrderSide : OrderSide → UpbitPrivateOrderSide
  | .buy => .bid
  | .sell => .ask

omit [Host] in
def toPrivateTimeInForce (timeInForce : Option TimeInForce) (postOnly : Bool) : Option UpbitPrivateTimeInForce :=
  if postOnly ∨ timeInForce = some .postOnly then some .postOnly
  else if timeInForce = some .ioc then some .ioc
  else if timeInForce = some .fok then some .fok
  else none

/-- `parseFinancialDecimal(value).greaterThan(0)` -/
def validatePositiveDecimalString (value label : String) : List String :=
  match Host.valueOf value with
  | some q => if 0 < q then [] else [label ++ "은 0보다 큰 decimal 문자열이어야 합니다"]
  | none => [label ++ "은 0보다 큰 decimal 문자열이어야 합니다"]

/-- what is wrong with a price; only limit orders have one -/
def priceViolations : OrderTerms → List String
  | .limit requestedPrice _ _ =>
    if trim requestedPrice = "" then ["Upbit live broker LIMIT 주문에는 requestedPrice가 필요합니다"]
    else validatePositiveDecimalString requestedPrice "Upbit live broker LIMIT 주문 가격"
  | .market => []

omit [Host] in
/-- post-only contradicts an immediate order -/
def postOnlyViolations : OrderTerms → List String
  | .limit _ postOnly timeInForce =>
    if postOnly ∧ (timeInForce = some .ioc ∨ timeInForce = some .fok) then
      ["Upbit live broker postOnly 주문은 IOC/FOK timeInForce와 함께 사용할 수 없습니다"]
    else []
  | .market => []

omit [Host] in
def identifierViolations (idempotencyKey : String) : List String :=
  if trim idempotencyKey = "" then ["Upbit live broker identifier는 비어 있을 수 없습니다"]
  else if UPBIT_PRIVATE_ORDER_IDENTIFIER_MAX_LENGTH < (codeUnits idempotencyKey).length then
    ["Upbit live broker identifier는 32자 이하여야 합니다"]
  else []

def submissionViolations (intent : OrderIntent) (expectedExchangeId : String) : List String :=
  (if intent.exchangeId ≠ expectedExchangeId then
    ["Upbit live broker 주문 exchangeId가 broker exchangeId와 일치해야 합니다"] else []) ++
  (if intent.terms.orderType ≠ .limit then ["Upbit live broker는 LIMIT 주문만 제출할 수 있습니다"] else []) ++
  identifierViolations intent.idempotencyKey ++
  priceViolations intent.terms ++
  postOnlyViolations intent.terms ++
  if trim intent.requestedQuantity = "" then ["Upbit live broker 주문 수량이 필요합니다"]
  else validatePositiveDecimalString intent.requestedQuantity "Upbit live broker 주문 수량"

def toCreateLimitOrderInput (submission : OrderSubmission) (expectedExchangeId : String) :
    Except UpbitPrivateError UpbitPrivateCreateLimitOrderInput :=
  let intent := submission.intent
  if submissionViolations intent expectedExchangeId ≠ [] then
    .error (.unsafeRequest (submissionViolations intent expectedExchangeId))
  else
    .ok
      { market := intent.market
        side := toPrivateOrderSide intent.side
        volume := intent.requestedQuantity
        price := intent.terms.requestedPrice.getD ""
        identifier := intent.idempotencyKey
        timeInForce := match intent.terms with
          | .limit _ postOnly timeInForce => toPrivateTimeInForce timeInForce postOnly
          | .market => none }

/-! ## Model: the recovered order -/

omit [Host] in
def isDuplicateIdentifierError : UpbitPrivateError → Bool
  | .restClient _ _ (some name) => name ∈ ["duplicate_identifier", "identifier_already_used", "used_identifier"]
  | _ => false

/-- texts that do not parse are not the same -/
def areSameDecimalStrings (left right : String) : Bool :=
  match Host.valueOf left, Host.valueOf right with
  | some a, some b => a = b
  | _, _ => false

omit [Host] in
def toExpectedOrderTimeInForce : OrderTerms → Option TimeInForce
  | .limit _ postOnly timeInForce =>
    if postOnly ∨ timeInForce = some .postOnly then some .postOnly
    else if timeInForce = some .ioc ∨ timeInForce = some .fok then timeInForce
    else none
  | .market => none

/-- what differs between the order found and the submission -/
def recoveredOrderViolations (order : BrokerOrder) (intent : OrderIntent) (expectedIdentifier : String) : List String :=
  (if intent.terms.orderType ≠ .limit ∨ order.orderType ≠ .limit then
    ["Upbit live broker duplicate identifier 조회 결과는 LIMIT 주문이어야 합니다"] else []) ++
  (if order.exchangeId ≠ intent.exchangeId then
    ["Upbit live broker duplicate identifier 조회 결과의 exchangeId가 현재 주문과 일치해야 합니다"] else []) ++
  (if order.market ≠ intent.market then
    ["Upbit live broker duplicate identifier 조회 결과의 market이 현재 주문과 일치해야 합니다"] else []) ++
  (if order.side ≠ intent.side then
    ["Upbit live broker duplicate identifier 조회 결과의 주문 방향이 현재 주문과 일치해야 합니다"] else []) ++
  (if order.idempotencyKey ≠ expectedIdentifier then
    ["Upbit live broker duplicate identifier 조회 결과의 identifier가 현재 주문과 일치해야 합니다"] else []) ++
  (if !areSameDecimalStrings order.requestedQuantity intent.requestedQuantity then
    ["Upbit live broker duplicate identifier 조회 결과의 수량이 현재 주문과 일치해야 합니다"] else []) ++
  (match intent.terms, order.requestedPrice with
    | .limit requestedPrice _ _, some price =>
      if !areSameDecimalStrings price requestedPrice then
        ["Upbit live broker duplicate identifier 조회 결과의 가격이 현재 주문과 일치해야 합니다"] else []
    | _, _ => ["Upbit live broker duplicate identifier 조회 결과의 가격이 현재 주문과 일치해야 합니다"]) ++
  if order.metadata.upbitTimeInForce ≠ toExpectedOrderTimeInForce intent.terms then
    ["Upbit live broker duplicate identifier 조회 결과의 실행 조건이 현재 주문과 일치해야 합니다"] else []

def assertRecoveredOrderMatchesSubmission (order : BrokerOrder) (submission : OrderSubmission)
    (expectedIdentifier : String) : Except UpbitPrivateError Unit :=
  if recoveredOrderViolations order submission.intent expectedIdentifier ≠ [] then
    .error (.unsafeRequest (recoveredOrderViolations order submission.intent expectedIdentifier))
  else .ok ()

/-! ## Model: submitOrder -/

omit [Host] in
def withSubmitMetadata (order : BrokerOrder) (intentIdempotencyKey : String) (recovery : Option String) : BrokerOrder :=
  { order with metadata := { order.metadata with
      upbitLiveBrokerOperation := some "submitOrder"
      upbitLiveBrokerIntentIdempotencyKey := some intentIdempotencyKey
      upbitLiveBrokerIdentifierSource := some "intent"
      upbitLiveBrokerRecovery := recovery } }

/-- the order under an identifier that was refused -/
def recoverOrder (options : MapUpbitPrivatePayloadOptions) (submission : OrderSubmission) (identifier : String) :
    ClientProgram BrokerOrder := do
  let payload : UpbitPrivateOrderSummaryPayload ← call (.getOrder identifier)
  let recoveredOrder ← settle (toBrokerOrderFromLookup payload options)
  settle (assertRecoveredOrderMatchesSubmission recoveredOrder submission identifier)
  return withSubmitMetadata recoveredOrder submission.intent.idempotencyKey (some "duplicate_identifier_lookup")

/-- only the request is tried; after a refusal for the identifier the order it recovers is what is returned -/
def createOrRecover (options : MapUpbitPrivatePayloadOptions) (submission : OrderSubmission)
    (input : UpbitPrivateCreateLimitOrderInput) : ClientProgram (UpbitPrivateOrderSummaryPayload ⊕ BrokerOrder) :=
  tryCatch
    (do
      let payload : UpbitPrivateOrderSummaryPayload ← call (.createLimitOrder input)
      return .inl payload)
    fun error =>
      if isDuplicateIdentifierError error then do
        let order ← recoverOrder options submission input.identifier
        return .inr order
      else throw error

def submitOrder (options : MapUpbitPrivatePayloadOptions)
    (submission : OrderSubmission) : ClientProgram BrokerOrder := do
  let input ← settle (toCreateLimitOrderInput submission options.exchangeId)
  let created ← createOrRecover options submission input
  match created with
  | .inr order => return order
  | .inl payload => do
    let brokerOrder ← settle (toBrokerOrderFromCommand payload options)
    return withSubmitMetadata brokerOrder submission.intent.idempotencyKey none

/-! ## The exchange -/

/-- an order as the exchange has it; how much of it is filled does not matter here -/
structure ExchangeOrder where
  identifier : String
  market : String
  side : UpbitPrivateOrderSide
  volume : ℚ
  price : ℚ
  timeInForce : Option UpbitPrivateTimeInForce
deriving DecidableEq

/-- a payload about this order, however its numbers are written and whatever became of it -/
structure Describes (payload : UpbitPrivateOrderSummaryPayload) (order : ExchangeOrder) : Prop where
  identifier : payload.identifier = some order.identifier
  market : payload.market = order.market
  side : payload.side = order.side
  ordType : payload.ordType = .limit
  volume : ∃ text, payload.volume = .given text ∧ text.value = order.volume
  price : ∃ text, payload.price = .given text ∧ text.value = order.price
  timeInForce : payload.timeInForce = order.timeInForce

/-- the order a create request is for -/
structure Asks (input : UpbitPrivateCreateLimitOrderInput) (order : ExchangeOrder) : Prop where
  identifier : order.identifier = input.identifier
  market : order.market = input.market
  side : order.side = input.side
  volume : Host.valueOf input.volume = some order.volume
  price : Host.valueOf input.price = some order.price
  timeInForce : order.timeInForce = input.timeInForce

/-- the orders placed so far, and how often each call has asked to create one; `none` before a call begins -/
structure Exchange (ι : Type) where
  orders : List ExchangeOrder
  creates : ι → Option ℕ

section Calls

variable {ι : Type} [DecidableEq ι]

omit [Host] in
def Exchange.asked (x : Exchange ι) (i : ι) : Exchange ι :=
  { x with creates := Function.update x.creates i ((x.creates i).map (· + 1)) }

omit [Host] in
def Exchange.placed (x : Exchange ι) (order : ExchangeOrder) : Exchange ι := { x with orders := x.orders ++ [order] }

omit [Host] in
/-- the exchange has not seen the identifier -/
def Exchange.Fresh (x : Exchange ι) (identifier : String) : Prop := ∀ o ∈ x.orders, o.identifier ≠ identifier

/-- an order is placed only under a fresh identifier, and its response may be lost; any request may be refused or lost;
an identifier is answered with its order -/
inductive Serves (i : ι) (x : Exchange ι) :
    (request : ClientRequest) → Except UpbitPrivateError (ClientReply request) → Exchange ι → Prop where
  | placed {input : UpbitPrivateCreateLimitOrderInput} {order : ExchangeOrder}
      {payload : UpbitPrivateOrderSummaryPayload} (hfresh : x.Fresh input.identifier) (hasks : Asks input order)
      (hdescribes : Describes payload order) :
      Serves i x (.createLimitOrder input) (.ok payload) ((x.asked i).placed order)
  | lost {input : UpbitPrivateCreateLimitOrderInput} {order : ExchangeOrder} {e : UpbitPrivateError}
      (hfresh : x.Fresh input.identifier) (hasks : Asks input order) (he : isDuplicateIdentifierError e = false) :
      Serves i x (.createLimitOrder input) (.error e) ((x.asked i).placed order)
  | refused {input : UpbitPrivateCreateLimitOrderInput} {e : UpbitPrivateError} :
      Serves i x (.createLimitOrder input) (.error e) (x.asked i)
  | found {identifier : String} {order : ExchangeOrder} {payload : UpbitPrivateOrderSummaryPayload}
      (hmem : order ∈ x.orders) (hidentifier : order.identifier = identifier) (hdescribes : Describes payload order) :
      Serves i x (.getOrder identifier) (.ok payload) x
  | notFound {identifier : String} {e : UpbitPrivateError} : Serves i x (.getOrder identifier) (.error e) x

/-- calls of `submitOrder`, each once; meanwhile others place orders under identifiers of theirs -/
def exchangeEnvironment (options : MapUpbitPrivatePayloadOptions) (submissions : ι → OrderSubmission) :
    Environment ι (Exchange ι) ClientRequest ClientReply UpbitPrivateError BrokerOrder where
  Starts i x program x' := x.creates i = none ∧ program = submitOrder options (submissions i) ∧
    x' = { x with creates := Function.update x.creates i (some 0) }
  Serves := Serves
  Drifts x x' := ∃ order, x.Fresh order.identifier ∧ x' = x.placed order

/-! ## The order of a submission -/

/-- the exchange's order is the one the intent is for -/
structure IsOrderOf (intent : OrderIntent) (order : ExchangeOrder) : Prop where
  identifier : order.identifier = intent.idempotencyKey
  market : order.market = intent.market
  side : order.side = toPrivateOrderSide intent.side
  volume : Host.valueOf intent.requestedQuantity = some order.volume
  price : ∃ price, intent.terms.requestedPrice = some price ∧ Host.valueOf price = some order.price
  timeInForce : order.timeInForce.map toDomainTimeInForce = toExpectedOrderTimeInForce intent.terms

/-- a broker order says of quantity, price and the rest what the intent says -/
structure MatchesIntent (order : BrokerOrder) (intent : OrderIntent) : Prop where
  identifier : order.idempotencyKey = intent.idempotencyKey
  orderType : order.orderType = .limit
  market : order.market = intent.market
  side : order.side = intent.side
  quantity : ∃ q, Host.valueOf intent.requestedQuantity = some q ∧ Host.valueOf order.requestedQuantity = some q
  price : ∃ price text q, intent.terms.requestedPrice = some price ∧ order.requestedPrice = some text ∧
    Host.valueOf price = some q ∧ Host.valueOf text = some q
  timeInForce : order.metadata.upbitTimeInForce = toExpectedOrderTimeInForce intent.terms

omit [Host] [DecidableEq ι] in
theorem toDomainOrderSide_private (side : OrderSide) : toDomainOrderSide (toPrivateOrderSide side) = side := by
  cases side <;> rfl

omit [Host] [DecidableEq ι] in
theorem toPrivateOrderSide_domain (side : UpbitPrivateOrderSide) : toPrivateOrderSide
    (toDomainOrderSide side) = side := by
  cases side <;> rfl

/-! ## What is mapped, and what is compared -/

omit [Host] in
theorem toDomain_private_timeInForce (timeInForce : Option TimeInForce) (postOnly : Bool) (price : String) :
    (toPrivateTimeInForce timeInForce postOnly).map toDomainTimeInForce =
      toExpectedOrderTimeInForce (.limit price postOnly timeInForce) := by
  cases postOnly with
  | true => simp [toPrivateTimeInForce, toExpectedOrderTimeInForce, toDomainTimeInForce]
  | false =>
    cases timeInForce with
    | none => rfl
    | some timeInForce => cases timeInForce <;> rfl

/-- the broker order made of a payload about an order -/
structure IsMapped (brokerOrder : BrokerOrder) (order : ExchangeOrder) : Prop where
  identifier : brokerOrder.idempotencyKey = order.identifier
  orderType : brokerOrder.orderType = .limit
  market : brokerOrder.market = order.market
  side : brokerOrder.side = toDomainOrderSide order.side
  quantity : Host.valueOf brokerOrder.requestedQuantity = some order.volume
  price : ∃ text, brokerOrder.requestedPrice = some text ∧ Host.valueOf text = some order.price
  timeInForce : brokerOrder.metadata.upbitTimeInForce = order.timeInForce.map toDomainTimeInForce

theorem Describes.isMapped [Host.Prints ‹Host›] {payload : UpbitPrivateOrderSummaryPayload} {order : ExchangeOrder}
    (h : Describes payload order) {options : MapUpbitPrivatePayloadOptions} {source : String}
      {brokerOrder : BrokerOrder}
    (hmapped : toBrokerOrderFromPrivateOrder payload options source = .ok brokerOrder) :
    IsMapped brokerOrder order := by
  obtain ⟨volume, hvolume, hvolumeValue⟩ := h.volume
  obtain ⟨price, hprice, hpriceValue⟩ := h.price
  unfold toBrokerOrderFromPrivateOrder toDomainOrderMapping requestedQuantityText at hmapped
  simp only [h.ordType, hvolume, hprice, normalizeDecimalString, Except.map] at hmapped
  cases hmapped
  exact
    { identifier := by rw [h.identifier, Option.getD_some]
      orderType := rfl
      market := h.market
      side := congrArg toDomainOrderSide h.side
      quantity := by rw [← hvolumeValue]; exact Host.Prints.read_toFixed volume.reads
      price := ⟨_, rfl, by rw [← hpriceValue]; exact Host.Prints.read_toFixed price.reads⟩
      timeInForce := congrArg (Option.map toDomainTimeInForce) h.timeInForce }

/-- an input that is let through says what the intent says -/
theorem Asks.isOrderOf {submission : OrderSubmission} {exchangeId : String} {input : UpbitPrivateCreateLimitOrderInput}
    (hinput : toCreateLimitOrderInput submission exchangeId = .ok input) {order : ExchangeOrder}
      (h : Asks input order) :
    IsOrderOf submission.intent order := by
  unfold toCreateLimitOrderInput at hinput
  simp only at hinput
  split_ifs at hinput with hviolations
  rw [not_not] at hviolations
  obtain ⟨hidentifier, hmarket, hside, hvolume, hprice, htif⟩ := h
  cases hinput
  cases hterms : submission.intent.terms with
  | market =>
    rw [submissionViolations, hterms] at hviolations
    simp [OrderTerms.orderType] at hviolations
  | limit price postOnly timeInForce =>
    simp only [hterms, OrderTerms.requestedPrice, Option.getD_some] at hprice htif
    refine ⟨hidentifier, hmarket, hside, hvolume, ⟨price, by rw [hterms]; rfl, hprice⟩, ?_⟩
    rw [htif, hterms, toDomain_private_timeInForce timeInForce postOnly price]

omit [DecidableEq ι] in
theorem areSameDecimalStrings_iff {left right : String} {a : ℚ} (h : Host.valueOf left = some a) :
    areSameDecimalStrings left right = true ↔ Host.valueOf right = some a := by
  unfold areSameDecimalStrings
  rw [h]
  cases hright : Host.valueOf right with
  | none => simp
  | some b => simp [eq_comm]

/-- an order that was found and does not differ from the submission is the submission's -/
theorem IsMapped.isOrderOf {brokerOrder : BrokerOrder} {order : ExchangeOrder} (h : IsMapped brokerOrder order)
    {intent : OrderIntent} (hsame : recoveredOrderViolations brokerOrder intent intent.idempotencyKey = []) :
    IsOrderOf intent order := by
  obtain ⟨text, htext, hprice⟩ := h.price
  unfold recoveredOrderViolations at hsame
  simp only [List.append_eq_nil_iff] at hsame
  obtain ⟨⟨⟨⟨⟨⟨⟨htype, -⟩, hmarket⟩, hside⟩, hidentifier⟩, hquantity⟩, hpriceSame⟩, htif⟩ := hsame
  have hkept : ∀ {p : Prop} [Decidable p] {message : String}, (if p then [message] else []) = [] → ¬ p := by
    intro p _ message hnil hp
    rw [if_pos hp] at hnil
    cases hnil
  have hmarket' := not_not.1 (hkept hmarket)
  have hside' := not_not.1 (hkept hside)
  have hidentifier' := not_not.1 (hkept hidentifier)
  have hquantity' := hkept hquantity
  have htif' := not_not.1 (hkept htif)
  rw [Bool.not_eq_true', Bool.not_eq_false, areSameDecimalStrings_iff h.quantity] at hquantity'
  refine ⟨?_, ?_, ?_, hquantity', ?_, ?_⟩
  · rw [← h.identifier, hidentifier']
  · rw [← h.market, hmarket']
  · rw [← hside', h.side, toPrivateOrderSide_domain]
  · cases hterms : intent.terms with
    | market => exact absurd (Or.inl (by rw [hterms]; decide)) (hkept htype)
    | limit price postOnly timeInForce =>
      simp only [hterms, htext] at hpriceSame
      have hpriceSame' := hkept hpriceSame
      rw [Bool.not_eq_true', Bool.not_eq_false, areSameDecimalStrings_iff hprice] at hpriceSame'
      exact ⟨price, rfl, hpriceSame'⟩
  · rw [← h.timeInForce, htif']

/-- what is made of the submission's order matches the submission -/
theorem IsMapped.matches {brokerOrder : BrokerOrder} {order : ExchangeOrder} (h : IsMapped brokerOrder order)
    {intent : OrderIntent} (horder : IsOrderOf intent order) (recovery : Option String) :
    MatchesIntent (withSubmitMetadata brokerOrder intent.idempotencyKey recovery) intent := by
  obtain ⟨price, hterms, hprice⟩ := horder.price
  obtain ⟨text, htext, htextValue⟩ := h.price
  exact
    { identifier := h.identifier.trans horder.identifier
      orderType := h.orderType
      market := h.market.trans horder.market
      side := by
        show brokerOrder.side = intent.side
        rw [h.side, horder.side, toDomainOrderSide_private]
      quantity := ⟨order.volume, horder.volume, h.quantity⟩
      price := ⟨price, text, order.price, hterms, htext, hprice, htextValue⟩
      timeInForce := h.timeInForce.trans horder.timeInForce }

/-! ## One call -/

/-- how far a call has come -/
inductive Place where
  | asking
  | created (payload : UpbitPrivateOrderSummaryPayload)
  | refused
  | found (payload : UpbitPrivateOrderSummaryPayload)
  | ended

/-- one create request, and after a refusal for the identifier one lookup -/
def submitMonitor (options : MapUpbitPrivatePayloadOptions) (submission : OrderSubmission) :
    Monitor ClientRequest ClientReply UpbitPrivateError Place where
  Allowed
    | .asking, .createLimitOrder input => toCreateLimitOrderInput submission options.exchangeId = .ok input
    | .refused, .getOrder identifier => identifier = submission.intent.idempotencyKey
    | _, _ => False
  after
    | _, .createLimitOrder _, .ok payload => .created payload
    | _, .createLimitOrder _, .error e => if isDuplicateIdentifierError e then .refused else .ended
    | _, .getOrder _, .ok payload => .found payload
    | _, .getOrder _, .error _ => .ended

/-- what a call that returns has returned -/
def Returned (options : MapUpbitPrivatePayloadOptions) (submission : OrderSubmission) (place : Place)
    (order : BrokerOrder) : Prop :=
  (∃ payload brokerOrder, place = .created payload ∧ toBrokerOrderFromCommand payload options = .ok brokerOrder ∧
    order = withSubmitMetadata brokerOrder submission.intent.idempotencyKey none) ∨
  ∃ payload brokerOrder, place = .found payload ∧ toBrokerOrderFromLookup payload options = .ok brokerOrder ∧
    recoveredOrderViolations brokerOrder submission.intent submission.intent.idempotencyKey = [] ∧
    order = withSubmitMetadata brokerOrder submission.intent.idempotencyKey (some "duplicate_identifier_lookup")

def submitPost (options : MapUpbitPrivatePayloadOptions) (submission : OrderSubmission) (place : Place)
    (end_ : Except UpbitPrivateError BrokerOrder) : Prop :=
  ∀ order, end_ = .ok order → Returned options submission place order

variable {options : MapUpbitPrivatePayloadOptions} {submission : OrderSubmission}

omit [DecidableEq ι] in
theorem submitPost_error (place : Place) (e : UpbitPrivateError) :
    submitPost options submission place (.error e) := fun _ h => nomatch h

omit [DecidableEq ι] in
theorem input_identifier {exchangeId : String} {input : UpbitPrivateCreateLimitOrderInput}
    (h : toCreateLimitOrderInput submission exchangeId = .ok input) :
    input.identifier = submission.intent.idempotencyKey := by
  unfold toCreateLimitOrderInput at h
  simp only at h
  split_ifs at h
  cases h
  rfl

omit [DecidableEq ι] in
theorem recoverOrder_keeps : Keeps (submitMonitor options submission) (submitPost options submission) .refused
    (recoverOrder options submission submission.intent.idempotencyKey) := by
  refine keeps_call_bind rfl (fun payload => ?_) fun e => submitPost_error _ e
  refine keeps_settle_bind (fun recoveredOrder hmapped => ?_) fun e _ => submitPost_error _ e
  refine keeps_settle_bind (fun _ hasserted => ?_) fun e _ => submitPost_error _ e
  refine keeps_pure fun order horder => ?_
  cases horder
  unfold assertRecoveredOrderMatchesSubmission at hasserted
  split_ifs at hasserted with hsame
  exact Or.inr ⟨payload, recoveredOrder, rfl, hmapped, not_not.1 hsame, rfl⟩

/-- what a call has in hand when its request is over: a payload, or the order it recovered -/
def RequestPost (options : MapUpbitPrivatePayloadOptions) (submission : OrderSubmission) (place : Place)
    (end_ : Except UpbitPrivateError (UpbitPrivateOrderSummaryPayload ⊕ BrokerOrder)) : Prop :=
  (∀ payload, end_ = .ok (.inl payload) → place = .created payload) ∧
    ∀ order, end_ = .ok (.inr order) → Returned options submission place order

/-- what the request alone ends with -/
def CreatePost (place : Place)
    (end_ : Except UpbitPrivateError (UpbitPrivateOrderSummaryPayload ⊕ BrokerOrder)) : Prop :=
  (∀ created, end_ = .ok created → ∃ payload, created = .inl payload ∧ place = .created payload) ∧
    ∀ e, end_ = .error e → isDuplicateIdentifierError e = true → place = .refused

omit [DecidableEq ι] in
theorem createOrRecover_keeps {input : UpbitPrivateCreateLimitOrderInput}
    (hinput : toCreateLimitOrderInput submission options.exchangeId = .ok input) :
    Keeps (submitMonitor options submission) (RequestPost options submission) .asking
      (createOrRecover options submission input) := by
  have herror : ∀ place e, RequestPost options submission place (.error e) :=
    fun place e => ⟨fun _ h => (nomatch h), fun _ h => (nomatch h)⟩
  refine keeps_tryCatch (?_ : Keeps _ CreatePost _ _) ?_ ?_
  · refine keeps_call_bind hinput (fun payload => keeps_pure ?_) fun e => ?_
    · refine ⟨fun created hcreated => ?_, fun e he => (nomatch he)⟩
      cases hcreated
      exact ⟨payload, rfl, rfl⟩
    · refine ⟨fun created hcreated => (nomatch hcreated), fun e' he hduplicate => ?_⟩
      cases he
      exact if_pos hduplicate
  · rintro place created ⟨hcreated, -⟩
    obtain ⟨payload, rfl, rfl⟩ := hcreated created rfl
    refine ⟨fun payload' h => ?_, fun order h => (nomatch h)⟩
    cases h
    rfl
  · rintro place e ⟨-, hduplicate⟩
    by_cases he : isDuplicateIdentifierError e = true
    · rw [if_pos he, hduplicate e rfl he, input_identifier hinput]
      refine keeps_bind recoverOrder_keeps (fun place' order hreturned => keeps_pure ?_) fun place' e' _ => herror _ e'
      refine ⟨fun payload h => (nomatch h), fun order' h => ?_⟩
      cases h
      exact hreturned order rfl
    · rw [if_neg he]
      exact keeps_throw (herror _ e)

omit [DecidableEq ι] in
/-- a call asks to create at most once, and what it returns is made of the payload it was given -/
theorem submitOrder_keeps : Keeps (submitMonitor options submission) (submitPost options submission) .asking
    (submitOrder options submission) := by
  refine keeps_settle_bind (fun input hinput => ?_) fun e _ => submitPost_error _ e
  refine keeps_bind (createOrRecover_keeps hinput) (fun place created hpost => ?_) fun place e _ => submitPost_error _ e
  cases created with
  | inl payload =>
    refine keeps_settle_bind (fun brokerOrder hmapped => keeps_pure fun order horder => ?_) fun e _ =>
      submitPost_error _ e
    cases horder
    exact Or.inl ⟨payload, brokerOrder, hpost.1 payload rfl, hmapped, rfl⟩
  | inr order =>
    refine keeps_pure fun order' horder => ?_
    cases horder
    exact hpost.2 order rfl

/-! ## All calls -/

variable {submissions : ι → OrderSubmission} {x x' : Exchange ι} {i : ι}

/-- what the exchange has for a call at its place -/
def AtPlace (submissions : ι → OrderSubmission) (x : Exchange ι) (i : ι) : Place → Prop
  | .asking => x.creates i = some 0
  | .created payload =>
    x.creates i = some 1 ∧ ∃ o ∈ x.orders, Describes payload o ∧ IsOrderOf (submissions i).intent o
  | .refused => x.creates i = some 1
  | .found payload => x.creates i = some 1 ∧ ∃ o ∈ x.orders, Describes payload o
  | .ended => x.creates i = some 1

structure ExchangeInv (submissions : ι → OrderSubmission) (x : Exchange ι) (places : ι → Option Place) : Prop where
  unique : (x.orders.map ExchangeOrder.identifier).Nodup
  once : ∀ i n, x.creates i = some n → n ≤ 1
  places : ∀ i place, places i = some place → AtPlace submissions x i place

omit [DecidableEq ι] in
/-- orders only join, and a call's place depends on its own requests -/
theorem AtPlace.mono {place : Place} (h : AtPlace submissions x i place) (hcreates : x'.creates i = x.creates i)
    (horders : ∀ o ∈ x.orders, o ∈ x'.orders) : AtPlace submissions x' i place := by
  cases place with
  | asking => exact hcreates.trans h
  | created payload =>
    obtain ⟨hcount, o, ho, hdescribes, horder⟩ := h
    exact ⟨hcreates.trans hcount, o, horders o ho, hdescribes, horder⟩
  | refused => exact hcreates.trans h
  | found payload =>
    obtain ⟨hcount, o, ho, hdescribes⟩ := h
    exact ⟨hcreates.trans hcount, o, horders o ho, hdescribes⟩
  | ended => exact hcreates.trans h

omit [Host] [DecidableEq ι] in
theorem Exchange.placed_unique {order : ExchangeOrder} (h : (x.orders.map ExchangeOrder.identifier).Nodup)
    (hfresh : x.Fresh order.identifier) : ((x.placed order).orders.map ExchangeOrder.identifier).Nodup := by
  rw [Exchange.placed, List.map_append, List.map_singleton, List.nodup_append]
  refine ⟨h, List.nodup_singleton _, ?_⟩
  intro identifier hidentifier other hother
  obtain ⟨o, ho, rfl⟩ := List.mem_map.1 hidentifier
  rw [List.mem_singleton.1 hother]
  exact hfresh o ho

omit [Host] in
theorem Exchange.asked_self (h : x.creates i = some 0) : (x.asked i).creates i = some 1 := by
  show Function.update x.creates i ((x.creates i).map (· + 1)) i = some 1
  rw [Function.update_self, h]
  rfl

/-- a step of call `i` keeps the invariant when it leaves the other calls and the orders there, and `i` at its place -/
theorem ExchangeInv.moved {places : ι → Option Place} (h : ExchangeInv submissions x places) {place : Place}
    (hunique : (x'.orders.map ExchangeOrder.identifier).Nodup) (horders : ∀ o ∈ x.orders, o ∈ x'.orders)
    (hothers : ∀ j, j ≠ i → x'.creates j = x.creates j) (honce : ∀ n, x'.creates i = some n → n ≤ 1)
    (hplace : AtPlace submissions x' i place) :
    ExchangeInv submissions x' (Function.update places i (some place)) where
  unique := hunique
  once j n hn := by
    by_cases hj : j = i
    · exact honce n (hj ▸ hn)
    · exact h.once j n (hothers j hj ▸ hn)
  places j other hother := by
    by_cases hj : j = i
    · subst hj
      rw [Function.update_self] at hother
      cases hother
      exact hplace
    · rw [Function.update_of_ne hj] at hother
      exact (h.places j other hother).mono (hothers j hj) horders

omit [Host] in
theorem Exchange.asked_others (x : Exchange ι) (i : ι) : ∀ j, j ≠ i → (x.asked i).creates j = x.creates j :=
  fun _ hj => Function.update_of_ne hj _ _

theorem exchange_invariant (options : MapUpbitPrivatePayloadOptions) (submissions : ι → OrderSubmission) :
    Async.Invariant (exchangeEnvironment options submissions) (fun i => submitMonitor options (submissions i))
      (fun i => submitPost options (submissions i)) (ExchangeInv submissions) where
  start x places i program x' hinv hidle hstarts := by
    obtain ⟨-, rfl, rfl⟩ := hstarts
    refine ⟨.asking, submitOrder_keeps, hinv.moved hinv.unique (fun o ho => ho) ?_ ?_ ?_⟩
    · exact fun j hj => Function.update_of_ne hj _ _
    · intro n hn
      change Function.update x.creates i (some 0) i = some n at hn
      rw [Function.update_self] at hn
      cases hn
      exact Nat.zero_le 1
    · exact Function.update_self i (some 0) x.creates
  serve x places i place request reply x' hinv hplace hallowed hserves := by
    have hat := hinv.places i place hplace
    have hone : ∀ {y : Exchange ι}, y.creates i = some 1 → ∀ n, y.creates i = some n → n ≤ 1 := by
      intro y hy n hn
      rw [hy] at hn
      cases hn
      exact le_rfl
    cases hserves with
    | @placed input order payload hfresh hasks hdescribes =>
      cases place with
      | asking =>
        have hcount := Exchange.asked_self hat
        refine hinv.moved (Exchange.placed_unique hinv.unique (hasks.identifier ▸ hfresh)) ?_
          (Exchange.asked_others x i) (hone hcount) ?_
        · exact fun o ho => List.mem_append_left _ ho
        · exact ⟨hcount, order, List.mem_append_right _ (List.mem_singleton_self order), hdescribes,
            hasks.isOrderOf hallowed⟩
      | _ => exact hallowed.elim
    | @lost input order e hfresh hasks he =>
      cases place with
      | asking =>
        have hcount := Exchange.asked_self hat
        refine hinv.moved (Exchange.placed_unique hinv.unique (hasks.identifier ▸ hfresh)) ?_
          (Exchange.asked_others x i) (hone hcount) ?_
        · exact fun o ho => List.mem_append_left _ ho
        · show AtPlace submissions _ i (if isDuplicateIdentifierError e then .refused else .ended)
          rw [if_neg (by rw [he]; exact Bool.false_ne_true)]
          exact hcount
      | _ => exact hallowed.elim
    | @refused input e =>
      cases place with
      | asking =>
        have hcount := Exchange.asked_self hat
        refine hinv.moved hinv.unique (fun o ho => ho) (Exchange.asked_others x i) (hone hcount) ?_
        show AtPlace submissions _ i (if isDuplicateIdentifierError e then .refused else .ended)
        split_ifs
        · exact hcount
        · exact hcount
      | _ => exact hallowed.elim
    | @found identifier order payload hmem hidentifier hdescribes =>
      cases place with
      | refused =>
        exact hinv.moved hinv.unique (fun o ho => ho) (fun _ _ => rfl) (hone hat) ⟨hat, order, hmem, hdescribes⟩
      | _ => exact hallowed.elim
    | @notFound identifier e =>
      cases place with
      | refused => exact hinv.moved hinv.unique (fun o ho => ho) (fun _ _ => rfl) (hone hat) hat
      | _ => exact hallowed.elim
  stop x places i hinv := by
    refine ⟨hinv.unique, hinv.once, fun j place hplace => ?_⟩
    by_cases hj : j = i
    · rw [hj, Function.update_self] at hplace
      cases hplace
    · rw [Function.update_of_ne hj] at hplace
      exact hinv.places j place hplace
  drift x places x' hinv hdrifts := by
    obtain ⟨order, hfresh, rfl⟩ := hdrifts
    refine ⟨Exchange.placed_unique hinv.unique hfresh, hinv.once, fun j place hplace => ?_⟩
    exact (hinv.places j place hplace).mono rfl fun o ho => List.mem_append_left _ ho

/-- no call under way, and no identifier used twice -/
def initialExchange (orders : List ExchangeOrder) :
    World ι (Exchange ι) ClientRequest ClientReply UpbitPrivateError BrokerOrder :=
  ⟨⟨orders, fun _ => none⟩, fun _ => none⟩

/-- **Retries are safe.** In every interleaving of calls, with any responses lost, no identifier has two orders and each
call has asked to create at most once. What a call has returned says what its submission says, and the exchange has that
order under its identifier: where it has another one there, the call has not returned. -/
theorem submitOrder_retry_safe [Host.Prints ‹Host›] (options : MapUpbitPrivatePayloadOptions)
    (submissions : ι → OrderSubmission) (orders : List ExchangeOrder)
    (hunique : (orders.map ExchangeOrder.identifier).Nodup)
    {w : World ι (Exchange ι) ClientRequest ClientReply UpbitPrivateError BrokerOrder}
    (hrun : Reaches (exchangeEnvironment options submissions) (initialExchange orders) w) :
    (w.shared.orders.map ExchangeOrder.identifier).Nodup ∧ (∀ i n, w.shared.creates i = some n → n ≤ 1) ∧
    ∀ i order, w.running i = some (.returned order) →
      MatchesIntent order (submissions i).intent ∧
      (∃ o ∈ w.shared.orders, IsOrderOf (submissions i).intent o) ∧
      ∀ o ∈ w.shared.orders, o.identifier = (submissions i).intent.idempotencyKey →
        IsOrderOf (submissions i).intent o := by
  have hstart : InStep (fun i => submitMonitor options (submissions i)) (fun i => submitPost options (submissions i))
      (ExchangeInv submissions) (initialExchange (ι := ι) orders) := by
    refine ⟨fun _ => none, ⟨hunique, fun i n hn => (nomatch hn), fun i place hplace => (nomatch hplace)⟩, fun i => ?_⟩
    exact trivial
  obtain ⟨places, hinv, hplaces⟩ := (reaches_inStep (exchange_invariant options submissions) hstart hrun).places
  refine ⟨hinv.unique, hinv.once, fun i order hreturned => ?_⟩
  obtain ⟨place, hplace, hkeeps⟩ := hplaces i _ hreturned
  have hat := hinv.places i place hplace
  -- the order the call was told of is its own, and so is what was made of it
  obtain ⟨o, ho, horder, hmatches⟩ : ∃ o ∈ w.shared.orders, IsOrderOf (submissions i).intent o ∧
      MatchesIntent order (submissions i).intent := by
    rcases hkeeps order rfl with ⟨payload, brokerOrder, rfl, hmapped, rfl⟩ |
      ⟨payload, brokerOrder, rfl, hmapped, hsame, rfl⟩
    · obtain ⟨-, o, ho, hdescribes, horder⟩ := hat
      exact ⟨o, ho, horder, (hdescribes.isMapped hmapped).matches horder _⟩
    · obtain ⟨-, o, ho, hdescribes⟩ := hat
      have horder := (hdescribes.isMapped hmapped).isOrderOf hsame
      exact ⟨o, ho, horder, (hdescribes.isMapped hmapped).matches horder _⟩
  refine ⟨hmatches, ⟨o, ho, horder⟩, fun o' ho' hidentifier => ?_⟩
  have heq : o' = o := List.inj_on_of_nodup_map hinv.unique ho' ho (hidentifier.trans horder.identifier.symm)
  exact heq ▸ horder

end Calls

end Broker

/-! ## A retry -/

section Retry

def retriedSubmission : OrderSubmission where
  intent :=
    { exchangeId := "upbit", market := "KRW-BTC", strategyId := "s", side := .buy, requestedQuantity := "1",
      requestedNotional := "1", idempotencyKey := "k1", terms := .limit "1" false none }
  submittedAt := .nanos 0

def retriedInput : UpbitPrivateCreateLimitOrderInput := ⟨"KRW-BTC", .bid, "1", "1", "k1", none⟩

def retriedOrder : ExchangeOrder := ⟨"k1", "KRW-BTC", .bid, 1, 1, none⟩

def oneUnit : NumericText := ⟨"1", 1, Host.Prints.one⟩

def retriedPayload : UpbitPrivateOrderSummaryPayload where
  market := "KRW-BTC"
  uuid := "u1"
  side := .bid
  ordType := .limit
  price := .given oneUnit
  state := .done
  createdAt := "2026-06-02T09:00:00+09:00"
  volume := .given oneUnit
  remainingVolume := .null
  executedVolume := oneUnit
  executedFunds := none
  reservedFee := oneUnit
  remainingFee := oneUnit
  paidFee := oneUnit
  locked := oneUnit
  timeInForce := none
  smpType := none
  preventedVolume := none
  preventedLocked := none
  identifier := some "k1"
  tradesCount := some 1

def upbitOptions : MapUpbitPrivatePayloadOptions := ⟨"upbit", "2026-06-02T00:00:00.000Z"⟩

def networkError : UpbitPrivateError := .restClient "NETWORK" none none

def usedIdentifier : UpbitPrivateError := .restClient "BAD_REQUEST" (some 400) (some "used_identifier")

theorem retried_program : ∃ resume, submitOrder upbitOptions retriedSubmission =
      .awaiting (.createLimitOrder retriedInput) resume ∧ resume (.error networkError) = .threw networkError ∧
    ∃ resume', resume (.error usedIdentifier) = .awaiting (.getOrder "k1") resume' ∧
      ∃ order, resume' (.ok retriedPayload) = .returned order := by
  have hinput : toCreateLimitOrderInput retriedSubmission upbitOptions.exchangeId = .ok retriedInput := by
    decide +kernel
  obtain ⟨mapped, hmapped⟩ : ∃ mapped, toBrokerOrderFromLookup retriedPayload upbitOptions = .ok mapped := ⟨_, rfl⟩
  have hsame : assertRecoveredOrderMatchesSubmission mapped retriedSubmission "k1" = .ok () := by
    cases hmapped
    decide +kernel
  refine ⟨_, by rw [submitOrder, hinput]; rfl, rfl, _, rfl, ?_⟩
  refine ⟨withSubmitMetadata mapped "k1" (some "duplicate_identifier_lookup"), ?_⟩
  simp only [settle, hmapped, andThen, retriedInput, bind_def, pure_def, hsame]
  rfl

/-- the response to the first call is lost, and the second call finds the order -/
theorem retry_recovers : ∃ (w : World ℕ (Exchange ℕ) ClientRequest ClientReply UpbitPrivateError BrokerOrder)
    (order : BrokerOrder),
    Reaches (exchangeEnvironment upbitOptions fun _ => retriedSubmission) (initialExchange []) w ∧
    w.shared.orders = [retriedOrder] ∧ w.running 0 = some (.threw networkError) ∧
    w.running 1 = some (.returned order) := by
  obtain ⟨resume, hprogram, hlost, resume', hrefused, order, hreturned⟩ := retried_program
  have hasks : Asks retriedInput retriedOrder :=
    ⟨rfl, rfl, rfl, by decide +kernel, by decide +kernel, rfl⟩
  have hdescribes : Describes retriedPayload retriedOrder :=
    ⟨rfl, rfl, rfl, rfl, ⟨oneUnit, rfl, rfl⟩, ⟨oneUnit, rfl, rfl⟩, rfl⟩
  have hfresh : Exchange.Fresh (ι := ℕ) ⟨[], Function.update (fun _ => none) 0 (some 0)⟩ retriedInput.identifier :=
    fun o ho => (nomatch ho)
  have hbegin : Reaches (exchangeEnvironment upbitOptions fun _ => retriedSubmission) (initialExchange [])
      (initialExchange (ι := ℕ) []) := .refl
  have hfirst := Reaches.step hbegin (Step.start 0 _ _ rfl ⟨rfl, hprogram.symm, rfl⟩)
  have hsecond := hfirst.serve (i := 0) rfl (.error networkError)
    (Serves.lost hfresh hasks rfl)
  have hthird := Reaches.step hsecond (Step.start 1 _ _ rfl ⟨rfl, hprogram.symm, rfl⟩)
  have hfourth := hthird.serve (i := 1) rfl (.error usedIdentifier) Serves.refused
  rw [hrefused] at hfourth
  have hfifth := hfourth.serve (i := 1) rfl (.ok retriedPayload)
    (Serves.found (List.mem_singleton_self retriedOrder) rfl hdescribes)
  refine ⟨_, order, hfifth, rfl, ?_, ?_⟩
  · rw [← hlost]
    rfl
  · rw [hreturned]
    rfl

/-- what the second call returned is the one order, on the terms of the submission -/
theorem retry_returns_the_order :
    ∃ (w : World ℕ (Exchange ℕ) ClientRequest ClientReply UpbitPrivateError BrokerOrder) (order : BrokerOrder),
      w.shared.orders = [retriedOrder] ∧ w.running 1 = some (.returned order) ∧
        MatchesIntent order retriedSubmission.intent := by
  obtain ⟨w, order, hrun, horders, -, hreturned⟩ := retry_recovers
  have hsafe := submitOrder_retry_safe upbitOptions (fun _ => retriedSubmission) [] List.nodup_nil hrun
  exact ⟨w, order, horders, hreturned, (hsafe.2.2 1 order hreturned).1⟩

end Retry

end SeeMirai.Upbit
