/-
Orders as Upbit's private endpoints answer them, and the broker orders they become
(infrastructure/upbit/private-mappers/mapper.ts). The payloads are those its schemas let through, so every number in
them is a text that reads as one.

Results:
- `toBrokerOrder_ok_iff`: an order is mapped exactly when the broker contract can express its kind.
- `toBrokerOrder_id`: a mapped order has the exchange's id.
-/
import SeeMirai.Shared.Orders

namespace SeeMirai.Upbit

variable [Host]

/-! ## Model: payloads -/

/-- a numeric string of the schemas -/
structure NumericText where
  text : String
  value : ℚ
  reads : Host.valueOf text = some value

/-- a field that is missing, `null` or there -/
inductive Nullish (α : Type) where
  | missing
  | null
  | given (value : α)

inductive UpbitPrivateOrderSide where
  | ask
  | bid
deriving DecidableEq, Repr

inductive UpbitPrivateOrderType where
  | limit
  | price
  | market
  | best
deriving DecidableEq, Repr

inductive UpbitPrivateOrderState where
  | wait
  | watch
  | done
  | cancel
deriving DecidableEq, Repr

inductive UpbitPrivateTimeInForce where
  | fok
  | ioc
  | postOnly
deriving DecidableEq, Repr

structure UpbitPrivateOrderSummaryPayload where
  market : String
  uuid : String
  side : UpbitPrivateOrderSide
  ordType : UpbitPrivateOrderType
  price : Nullish NumericText
  state : UpbitPrivateOrderState
  createdAt : String
  volume : Nullish NumericText
  remainingVolume : Nullish NumericText
  executedVolume : NumericText
  executedFunds : Option NumericText
  reservedFee : NumericText
  remainingFee : NumericText
  paidFee : NumericText
  locked : NumericText
  timeInForce : Option UpbitPrivateTimeInForce
  smpType : Option String
  preventedVolume : Option NumericText
  preventedLocked : Option NumericText
  identifier : Option String
  tradesCount : Option ℕ

/-! ## Model: broker orders -/

inductive UpbitPrivateError where
  | payloadMapping (schema userMessage : String) (issuePaths : List String)
  | unsafeRequest (violations : List String)
  | restClient (kind : String) (httpStatus : Option ℕ) (upbitErrorName : Option String)
deriving DecidableEq, Repr

/-- what the mapper keeps of a payload, without the raw payload and the trades of a lookup, and what the broker adds -/
structure OrderMetadata where
  source : String
  upbitUuid : String
  upbitIdentifier : Option String
  upbitSide : UpbitPrivateOrderSide
  upbitOrderType : UpbitPrivateOrderType
  upbitState : UpbitPrivateOrderState
  upbitTimeInForce : Option TimeInForce
  upbitSmpType : Option String
  executedVolume : String
  reservedFee : String
  remainingFee : String
  paidFee : String
  locked : String
  preventedVolume : Option String
  preventedLocked : Option String
  executedFunds : Option String
  tradesCount : Option ℕ
  upbitLiveBrokerOperation : Option String
  upbitLiveBrokerIntentIdempotencyKey : Option String
  upbitLiveBrokerIdentifierSource : Option String
  upbitLiveBrokerRecovery : Option String
deriving DecidableEq, Repr

structure BrokerOrder where
  brokerOrderId : String
  idempotencyKey : String
  exchangeId : String
  market : String
  side : OrderSide
  orderType : OrderType
  status : OrderLifecycleStatus
  requestedQuantity : String
  remainingQuantity : String
  requestedPrice : Option String
  acceptedAt : String
  updatedAt : String
  metadata : OrderMetadata
deriving DecidableEq, Repr

structure MapUpbitPrivatePayloadOptions where
  exchangeId : String
  capturedAt : String

structure DomainOrderMapping where
  orderType : OrderType
  requestedQuantity : String
  requestedPrice : Option String

/-! ## Model: the mapper -/

def normalizeDecimalString (value : NumericText) : String := Host.toFixed value.value

def toDomainOrderSide : UpbitPrivateOrderSide → OrderSide
  | .bid => .buy
  | .ask => .sell

def toDomainTimeInForce : UpbitPrivateTimeInForce → TimeInForce
  | .postOnly => .postOnly
  | .ioc => .ioc
  | .fok => .fok

/-- `remaining_volume ?? "0"` -/
def remainingValue (order : UpbitPrivateOrderSummaryPayload) : ℚ :=
  match order.remainingVolume with
  | .given remaining => remaining.value
  | _ => 0

def createUnsupportedOrderLookupMappingError (userMessage : String) (issuePaths : List String) : UpbitPrivateError :=
  .payloadMapping "ORDER_LOOKUP" userMessage issuePaths

/-- `order.volume ?? executed + remaining` -/
def requestedQuantityText (order : UpbitPrivateOrderSummaryPayload) : String :=
  match order.volume with
  | .given volume => normalizeDecimalString volume
  | _ => Host.toFixed (order.executedVolume.value + remainingValue order)

def toDomainOrderMapping (order : UpbitPrivateOrderSummaryPayload) : Except UpbitPrivateError DomainOrderMapping :=
  match order.ordType with
  | .best =>
    .error (createUnsupportedOrderLookupMappingError
      "Upbit 최유리 주문은 현재 broker order contract로 안전하게 표현할 수 없어 수동 확인이 필요합니다." ["ord_type"])
  | .price =>
    .error (createUnsupportedOrderLookupMappingError
      "Upbit 시장가 매수 주문금액은 broker order의 요청 수량으로 안전하게 표현할 수 없어 수동 확인이 필요합니다." ["ord_type", "price"])
  | .market =>
    match order.volume with
    | .null =>
      .error (createUnsupportedOrderLookupMappingError
        "Upbit 시장가 매도 주문의 원 요청 수량이 없어 broker order contract로 안전하게 표현할 수 없습니다." ["volume"])
    | _ => .ok ⟨.market, requestedQuantityText order, none⟩
  | .limit =>
    match order.price with
    | .given price => .ok ⟨.limit, requestedQuantityText order, some (normalizeDecimalString price)⟩
    | _ =>
      .error (createUnsupportedOrderLookupMappingError
        "Upbit 지정가 주문 조회 응답에 요청 가격이 없어 broker order contract로 안전하게 표현할 수 없습니다." ["price"])

def toDomainOrderStatus (order : UpbitPrivateOrderSummaryPayload) : OrderLifecycleStatus :=
  if order.state = .done then .filled
  else if order.state = .cancel then .canceled
  else if 0 < order.executedVolume.value then .partiallyFilled
  else .accepted

def toOrderMetadata (order : UpbitPrivateOrderSummaryPayload) (source : String) : OrderMetadata where
  source := source
  upbitUuid := order.uuid
  upbitIdentifier := order.identifier
  upbitSide := order.side
  upbitOrderType := order.ordType
  upbitState := order.state
  upbitTimeInForce := order.timeInForce.map toDomainTimeInForce
  upbitSmpType := order.smpType
  executedVolume := normalizeDecimalString order.executedVolume
  reservedFee := normalizeDecimalString order.reservedFee
  remainingFee := normalizeDecimalString order.remainingFee
  paidFee := normalizeDecimalString order.paidFee
  locked := normalizeDecimalString order.locked
  preventedVolume := order.preventedVolume.map normalizeDecimalString
  preventedLocked := order.preventedLocked.map normalizeDecimalString
  executedFunds := order.executedFunds.map normalizeDecimalString
  tradesCount := order.tradesCount
  upbitLiveBrokerOperation := none
  upbitLiveBrokerIntentIdempotencyKey := none
  upbitLiveBrokerIdentifierSource := none
  upbitLiveBrokerRecovery := none

def toBrokerOrderFromPrivateOrder (order : UpbitPrivateOrderSummaryPayload) (options : MapUpbitPrivatePayloadOptions)
    (source : String) : Except UpbitPrivateError BrokerOrder :=
  (toDomainOrderMapping order).map fun domainOrder =>
    { brokerOrderId := order.uuid
      idempotencyKey := order.identifier.getD order.uuid
      exchangeId := options.exchangeId
      market := order.market
      side := toDomainOrderSide order.side
      orderType := domainOrder.orderType
      status := toDomainOrderStatus order
      requestedQuantity := domainOrder.requestedQuantity
      remainingQuantity := Host.toFixed (remainingValue order)
      requestedPrice := domainOrder.requestedPrice
      acceptedAt := order.createdAt
      updatedAt := options.capturedAt
      metadata := toOrderMetadata order source }

def toBrokerOrderFromLookup (order : UpbitPrivateOrderSummaryPayload) (options : MapUpbitPrivatePayloadOptions) :
    Except UpbitPrivateError BrokerOrder :=
  toBrokerOrderFromPrivateOrder order options "upbit_private_order_lookup"

def toBrokerOrderFromCommand (order : UpbitPrivateOrderSummaryPayload) (options : MapUpbitPrivatePayloadOptions) :
    Except UpbitPrivateError BrokerOrder :=
  toBrokerOrderFromPrivateOrder order options "upbit_private_order_command"

def toBrokerOrdersFromOpenOrders (orders : List UpbitPrivateOrderSummaryPayload)
    (options : MapUpbitPrivatePayloadOptions) : Except UpbitPrivateError (List BrokerOrder) :=
  orders.mapM fun order => toBrokerOrderFromPrivateOrder order options "upbit_private_open_order"

/-! ## What is mapped -/

/-- what a broker order can express: limit orders with a price, market orders whose volume is not `null` -/
def Expressible (order : UpbitPrivateOrderSummaryPayload) : Prop :=
  match order.ordType with
  | .limit => ∃ price, order.price = .given price
  | .market => order.volume ≠ .null
  | .price => False
  | .best => False

theorem toDomainOrderMapping_ok_iff (order : UpbitPrivateOrderSummaryPayload) :
    (∃ domainOrder, toDomainOrderMapping order = .ok domainOrder) ↔ Expressible order := by
  unfold toDomainOrderMapping Expressible
  cases order.ordType with
  | limit =>
    cases hprice : order.price with
    | missing => simp
    | null => simp
    | given price => simp
  | market =>
    cases hvolume : order.volume with
    | missing => simp
    | null => simp
    | given volume => simp
  | price => simp
  | best => simp

theorem toBrokerOrder_ok_iff (order : UpbitPrivateOrderSummaryPayload) (options : MapUpbitPrivatePayloadOptions)
    (source : String) :
    (∃ brokerOrder, toBrokerOrderFromPrivateOrder order options source = .ok brokerOrder) ↔ Expressible order := by
  rw [← toDomainOrderMapping_ok_iff, toBrokerOrderFromPrivateOrder]
  cases toDomainOrderMapping order with
  | error e => simp [Except.map]
  | ok domainOrder => simp [Except.map]

theorem toBrokerOrder_id {order : UpbitPrivateOrderSummaryPayload} {options : MapUpbitPrivatePayloadOptions}
    {source : String} {brokerOrder : BrokerOrder}
    (h : toBrokerOrderFromPrivateOrder order options source = .ok brokerOrder) :
    brokerOrder.brokerOrderId = order.uuid := by
  unfold toBrokerOrderFromPrivateOrder at h
  cases hmapping : toDomainOrderMapping order with
  | error e =>
    rw [hmapping] at h
    cases h
  | ok domainOrder =>
    rw [hmapping] at h
    cases h
    rfl

end SeeMirai.Upbit
