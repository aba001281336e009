/-
How market data is stored (infrastructure/db/market-data.ts and the event store of runtime/market-data-runtime.ts). A trade
is inserted unless its key is taken. An orderbook writes its metric row for the second and its snapshot row for the five
seconds its exchange timestamp lies in, over whatever is there.

So trades do not depend on the order of delivery, and bucket rows do: a row holds the data of the orderbook that was
delivered last, which need not be the latest one of its bucket. `EndsWithLatest` says of a sequence of deliveries that it
makes no difference.

Numeric columns are kept as the rationals they denote, and connection status events, which go to other tables, are left
out. A price or size that is no finite decimal is refused.

Results:
- `run_trades` / `run_metrics` / `run_snapshots`: each table as the log of its own writes.
- `storage_converges_iff`: the tables are as the exchange's order would leave them exactly where every bucket's last
  accepted delivery gives the row of its latest orderbook.
- `late_orderbook_overwrites`: an older orderbook of a second that is delivered late.
-/
import SeeMirai.Shared.Orders
import SeeMirai.Lib.Fallible
import SeeMirai.Lib.JsValue
import SeeMirai.Lib.SignificantDigits
import SeeMirai.Lib.WriteLog

namespace SeeMirai.Market

open Fallible WriteLog

/-! ## Events -/

/-- a timestamp by its instant, in nanoseconds -/
inductive EventTime where
  | nanos (n : ℤ)
  | invalid
deriving DecidableEq, Repr

inductive TradeEventSide where
  | bid
  | ask
  | unknown
deriving DecidableEq, Repr

structure TradeEvent where
  exchangeId : String
  market : String
  tradeId : String
  price : String
  quantity : String
  side : TradeEventSide
  exchangeTimestamp : EventTime
  receivedAt : EventTime
  raw : Option JsonRecord

structure OrderbookUpdate where
  exchangeId : String
  market : String
  asks : List OrderbookLevel
  bids : List OrderbookLevel
  exchangeTimestamp : EventTime
  receivedAt : EventTime
  raw : Option JsonRecord

inductive MarketDataRuntimeEvent where
  | trade (event : TradeEvent)
  | orderbook (event : OrderbookUpdate)

structure OrderbookMetricInputOptions where
  bucketAt : Option EventTime
  websocketLagMs : Option ℤ
  reconnectCount : Option ℤ
deriving DecidableEq

/-- an event as it is handed to the store, with the options of that call -/
structure Delivery where
  event : MarketDataRuntimeEvent
  metric : OrderbookMetricInputOptions
  capturedAt : Option EventTime

/-! ## Rows -/

inductive TradeRowSide where
  | buy
  | sell
  | unknown
deriving DecidableEq, Repr

/-- exchange, market, trade id and the exchange timestamp in microseconds -/
abbrev TradeKey := String × String × String × ℤ

/-- exchange, market and the bucket's time in microseconds -/
abbrev BucketKey := String × String × ℤ

structure TradeRow where
  side : TradeRowSide
  price : ℚ
  volume : ℚ
  receivedAt : ℤ
  rawPayload : JsonRecord

structure OrderbookMetricRow where
  bestBidPrice : ℚ
  bestAskPrice : ℚ
  spreadBps : ℚ
  bidDepth1 : ℚ
  askDepth1 : ℚ
  bidDepth5 : ℚ
  askDepth5 : ℚ
  bidDepth15 : ℚ
  askDepth15 : ℚ
  imbalance5 : ℚ
  imbalance15 : ℚ
  websocketLagMs : ℤ
  reconnectCount : ℤ
deriving DecidableEq

structure OrderbookSnapshotRow where
  bids : List OrderbookLevel
  asks : List OrderbookLevel
  rawPayload : JsonRecord

structure MarketDataStore where
  trades : InsertionMap TradeKey TradeRow
  metrics : InsertionMap BucketKey OrderbookMetricRow
  snapshots : InsertionMap BucketKey OrderbookSnapshotRow

def MarketDataStore.empty : MarketDataStore := ⟨InsertionMap.empty, InsertionMap.empty, InsertionMap.empty⟩

/-! ## Times -/

def orderbookMetricBucketMs : ℤ := 1000

def orderbookSnapshotCadenceMs : ℤ := 5000

def timestampToMilliseconds : EventTime → Except Thrown ℤ
  | .nanos n => pure (n / 1000000)
  | .invalid => throw ⟨"Error", "Invalid timestamp"⟩

/-- what a `timestamptz` column stores: microseconds, rounded -/
def toStoredTime : EventTime → Except Thrown ℤ
  | .nanos n => pure ((n + 500) / 1000)
  | .invalid => throw ⟨"DatabaseError", "invalid input syntax for type timestamp with time zone"⟩

/-- the start of the bucket, in milliseconds -/
def floorTimestamp (timestamp : EventTime) (bucketMs : ℤ) : Except Thrown ℤ := do
  let milliseconds ← timestampToMilliseconds timestamp
  return milliseconds / bucketMs * bucketMs

/-- the time a row is stored under: the given one, or the bucket of the event -/
def bucketTime (given : Option EventTime) (timestamp : EventTime) (bucketMs : ℤ) : Except Thrown ℤ :=
  match given with
  | some time => toStoredTime time
  | none => do
    let bucket ← floorTimestamp timestamp bucketMs
    return bucket * 1000

/-! ## Writes -/

def checkViolated : Thrown := ⟨"DatabaseError", "new row violates check constraint"⟩

/-- `btrim(market) <> ''` -/
def namesMarket (market : String) : Bool := market.toList.any (· ≠ ' ')

def toTradeRowSide : TradeEventSide → TradeRowSide
  | .bid => .buy
  | .ask => .sell
  | .unknown => .unknown

def calculateWebSocketLagMs (event : OrderbookUpdate) : Except Thrown ℤ := do
  let received ← timestampToMilliseconds event.receivedAt
  let sent ← timestampToMilliseconds event.exchangeTimestamp
  if received - sent < 0 then throw ⟨"Error", "orderbook receivedAt is earlier than exchangeTimestamp"⟩
  return received - sent

/-- `toFixed(places)` -/
def toPlaces (places : ℕ) (x : ℚ) : ℚ := roundHalfUp (x * 10 ^ places) / 10 ^ places

def calculateSpreadBps (bid ask : ℚ) : Except Thrown ℚ :=
  let mid := (bid + ask) / 2
  if mid ≤ 0 ∨ ask < bid then throw ⟨"Error", "orderbook best ask must be greater than or equal to best bid"⟩
  else pure (toPlaces 6 ((ask - bid) / mid * 10000))

def calculateImbalance (bid ask : ℚ) : ℚ :=
  if bid + ask = 0 then 0 else toPlaces 8 ((bid - ask) / (bid + ask))

/-- the checks of the `orderbook_metrics` table; the two counters are 32-bit columns -/
def OrderbookMetricRow.admitted (row : OrderbookMetricRow) (market : String) : Bool :=
  namesMarket market ∧ 0 < row.bestBidPrice ∧ 0 < row.bestAskPrice ∧ row.bestBidPrice ≤ row.bestAskPrice ∧
    0 ≤ row.spreadBps ∧ 0 ≤ row.bidDepth1 ∧ 0 ≤ row.askDepth1 ∧ 0 ≤ row.bidDepth5 ∧ 0 ≤ row.askDepth5 ∧
    0 ≤ row.bidDepth15 ∧ 0 ≤ row.askDepth15 ∧ 0 ≤ row.websocketLagMs ∧ row.websocketLagMs ≤ 2147483647 ∧
    0 ≤ row.reconnectCount ∧ row.reconnectCount ≤ 2147483647

section Writes

variable [Host]

/-- the row that `insertTrade` writes, and the key that decides a conflict -/
def toTradeWrite (event : TradeEvent) : Except Thrown (TradeKey × TradeRow) := do
  let price ← parseFinancialDecimal event.price
  let volume ← parseFinancialDecimal event.quantity
  let exchangeTimestamp ← toStoredTime event.exchangeTimestamp
  let receivedAt ← toStoredTime event.receivedAt
  if namesMarket event.market ∧ 0 < price ∧ 0 < volume then
    pure ((event.exchangeId, event.market, event.tradeId, exchangeTimestamp),
      ⟨toTradeRowSide event.side, price, volume, receivedAt, event.raw.getD []⟩)
  else throw checkViolated

def sumDepth (levels : List OrderbookLevel) (count : ℕ) : Except Thrown ℚ := do
  let sizes ← (levels.take count).mapM fun level => parseFinancialDecimal level.size
  return sizes.sum

/-- the best bid and ask of a book that has both -/
def bestPrices (event : OrderbookUpdate) : Except Thrown (ℚ × ℚ) :=
  match event.bids, event.asks with
  | bid :: _, ask :: _ => do
    let bestBidPrice ← parseFinancialDecimal bid.price
    let bestAskPrice ← parseFinancialDecimal ask.price
    return (bestBidPrice, bestAskPrice)
  | _, _ => throw ⟨"Error", "orderbook event requires at least one bid and ask level"⟩

def toOrderbookMetricWrite (event : OrderbookUpdate) (options : OrderbookMetricInputOptions) :
    Except Thrown (BucketKey × OrderbookMetricRow) := do
  let (bestBidPrice, bestAskPrice) ← bestPrices event
  let bidDepth1 ← sumDepth event.bids 1
  let askDepth1 ← sumDepth event.asks 1
  let bidDepth5 ← sumDepth event.bids 5
  let askDepth5 ← sumDepth event.asks 5
  let bidDepth15 ← sumDepth event.bids 15
  let askDepth15 ← sumDepth event.asks 15
  let bucketAt ← bucketTime options.bucketAt event.exchangeTimestamp orderbookMetricBucketMs
  let spreadBps ← calculateSpreadBps bestBidPrice bestAskPrice
  let websocketLagMs ← options.websocketLagMs.elim (calculateWebSocketLagMs event) pure
  let row : OrderbookMetricRow :=
    { bestBidPrice, bestAskPrice, spreadBps, bidDepth1, askDepth1, bidDepth5, askDepth5, bidDepth15, askDepth15
      imbalance5 := calculateImbalance bidDepth5 askDepth5
      imbalance15 := calculateImbalance bidDepth15 askDepth15
      websocketLagMs
      reconnectCount := options.reconnectCount.getD 0 }
  if row.admitted event.market then pure ((event.exchangeId, event.market, bucketAt), row) else throw checkViolated

def toOrderbookSnapshotWrite (event : OrderbookUpdate) (capturedAt : Option EventTime) :
    Except Thrown (BucketKey × OrderbookSnapshotRow) := do
  if event.bids = [] ∨ event.asks = [] then
    throw ⟨"Error", "orderbook event requires at least one bid and ask level"⟩
  let capturedAt ← bucketTime capturedAt event.exchangeTimestamp orderbookSnapshotCadenceMs
  if namesMarket event.market then
    pure ((event.exchangeId, event.market, capturedAt), ⟨event.bids, event.asks, event.raw.getD []⟩)
  else throw checkViolated

/-- what an event writes into each table -/
def Delivery.tradeWrite (delivery : Delivery) : Option (TradeKey × TradeRow) :=
  match delivery.event with
  | .trade event => (toTradeWrite event).toOption
  | .orderbook _ => none

def Delivery.metricWrite (delivery : Delivery) : Option (BucketKey × OrderbookMetricRow) :=
  match delivery.event with
  | .trade _ => none
  | .orderbook event => (toOrderbookMetricWrite event delivery.metric).toOption

/-- the snapshot is written after the metric row -/
def Delivery.snapshotWrite (delivery : Delivery) : Option (BucketKey × OrderbookSnapshotRow) :=
  match delivery.event with
  | .trade _ => none
  | .orderbook event =>
    delivery.metricWrite.bind fun _ => (toOrderbookSnapshotWrite event delivery.capturedAt).toOption

/-! ## The store -/

/-- `insertTrade`: after a conflict the row is looked up by its time in milliseconds, and not found where the stored
time is finer than that -/
def insertTrade (store : MarketDataStore) (event : TradeEvent) : MarketDataStore × Except Thrown Bool :=
  match toTradeWrite event with
  | .error thrown => (store, .error thrown)
  | .ok (key, row) =>
    if (store.trades.get key).isNone then ({ store with trades := store.trades.set key row }, .ok true)
    else
      let found := timestampToMilliseconds event.exchangeTimestamp >>= fun ms =>
        pure (store.trades.get (key.1, key.2.1, key.2.2.1, ms * 1000)).isSome
      (store, found >>= fun found =>
        if found then pure false else throw ⟨"Error", "trade insert conflicted but existing row was not found"⟩)

def upsertOrderbookMetric (store : MarketDataStore) (event : OrderbookUpdate) (options : OrderbookMetricInputOptions) :
    Except Thrown MarketDataStore := do
  let (key, row) ← toOrderbookMetricWrite event options
  return { store with metrics := store.metrics.set key row }

def upsertOrderbookSnapshot (store : MarketDataStore) (event : OrderbookUpdate) (capturedAt : Option EventTime) :
    Except Thrown MarketDataStore := do
  let (key, row) ← toOrderbookSnapshotWrite event capturedAt
  return { store with snapshots := store.snapshots.set key row }

/-- the store after a call, also after one that throws -/
def persistMarketDataRuntimeEvent (store : MarketDataStore) (delivery : Delivery) :
    MarketDataStore × Except Thrown Unit :=
  match delivery.event with
  | .trade event =>
    let (store, result) := insertTrade store event
    (store, result.map fun _ => ())
  | .orderbook event =>
    match upsertOrderbookMetric store event delivery.metric with
    | .error thrown => (store, .error thrown)
    | .ok store =>
      match upsertOrderbookSnapshot store event delivery.capturedAt with
      | .error thrown => (store, .error thrown)
      | .ok store => (store, .ok ())

/-- the store after a sequence of deliveries -/
def persistAll (store : MarketDataStore) (deliveries : List Delivery) : MarketDataStore :=
  deliveries.foldl (fun store delivery => (persistMarketDataRuntimeEvent store delivery).1) store

/-! ## Each table by itself -/

theorem persist_trades (store : MarketDataStore) (delivery : Delivery) :
    (persistMarketDataRuntimeEvent store delivery).1.trades = insertNew Delivery.tradeWrite store.trades delivery := by
  unfold persistMarketDataRuntimeEvent insertNew Delivery.tradeWrite
  cases delivery.event with
  | trade event =>
    simp only [insertTrade]
    cases toTradeWrite event with
    | error thrown => rfl
    | ok entry =>
      simp only [Except.toOption]
      cases htaken : store.trades.get entry.1 with
      | none => simp
      | some row => simp
  | orderbook event =>
    simp only [upsertOrderbookMetric, upsertOrderbookSnapshot]
    cases toOrderbookMetricWrite event delivery.metric with
    | error thrown => rfl
    | ok entry =>
      simp only [ok_bind]
      cases toOrderbookSnapshotWrite event delivery.capturedAt with
      | error thrown => rfl
      | ok entry' => rfl

theorem persist_metrics (store : MarketDataStore) (delivery : Delivery) :
    (persistMarketDataRuntimeEvent store delivery).1.metrics = upsert Delivery.metricWrite store.metrics delivery := by
  unfold persistMarketDataRuntimeEvent upsert Delivery.metricWrite
  cases delivery.event with
  | trade event =>
    simp only [insertTrade]
    cases toTradeWrite event with
    | error thrown => rfl
    | ok entry =>
      simp only
      split_ifs
      · rfl
      · rfl
  | orderbook event =>
    simp only [upsertOrderbookMetric, upsertOrderbookSnapshot]
    cases toOrderbookMetricWrite event delivery.metric with
    | error thrown => rfl
    | ok entry =>
      simp only [ok_bind]
      cases toOrderbookSnapshotWrite event delivery.capturedAt with
      | error thrown => rfl
      | ok entry' => rfl

theorem persist_snapshots (store : MarketDataStore) (delivery : Delivery) :
    (persistMarketDataRuntimeEvent store delivery).1.snapshots =
      upsert Delivery.snapshotWrite store.snapshots delivery := by
  unfold persistMarketDataRuntimeEvent upsert Delivery.snapshotWrite Delivery.metricWrite
  cases delivery.event with
  | trade event =>
    simp only [insertTrade]
    cases toTradeWrite event with
    | error thrown => rfl
    | ok entry =>
      simp only
      split_ifs
      · rfl
      · rfl
  | orderbook event =>
    simp only [upsertOrderbookMetric, upsertOrderbookSnapshot]
    cases toOrderbookMetricWrite event delivery.metric with
    | error thrown => rfl
    | ok entry =>
      simp only [ok_bind, Except.toOption, Option.bind_some]
      cases toOrderbookSnapshotWrite event delivery.capturedAt with
      | error thrown => rfl
      | ok entry' => rfl

theorem run_trades (deliveries : List Delivery) (store : MarketDataStore) :
    (persistAll store deliveries).trades = deliveries.foldl (insertNew Delivery.tradeWrite) store.trades := by
  induction deliveries generalizing store with
  | nil => rfl
  | cons delivery deliveries ih =>
    rw [List.foldl_cons, ← persist_trades]
    exact ih _

theorem run_metrics (deliveries : List Delivery) (store : MarketDataStore) :
    (persistAll store deliveries).metrics = deliveries.foldl (upsert Delivery.metricWrite) store.metrics := by
  induction deliveries generalizing store with
  | nil => rfl
  | cons delivery deliveries ih =>
    rw [List.foldl_cons, ← persist_metrics]
    exact ih _

theorem run_snapshots (deliveries : List Delivery) (store : MarketDataStore) :
    (persistAll store deliveries).snapshots = deliveries.foldl (upsert Delivery.snapshotWrite) store.snapshots := by
  induction deliveries generalizing store with
  | nil => rfl
  | cons delivery deliveries ih =>
    rw [List.foldl_cons, ← persist_snapshots]
    exact ih _

/-! ## Convergence -/

omit [Host] in
/-- the bucket of an orderbook, where its timestamp can be read -/
def bucketOf (bucketMs : ℤ) (event : OrderbookUpdate) : Option BucketKey :=
  (floorTimestamp event.exchangeTimestamp bucketMs).toOption.map fun bucket =>
    (event.exchangeId, event.market, bucket * 1000)

/-- a delivery of the orderbook with the latest exchange timestamp of a bucket -/
structure IsLatestIn (bucketMs : ℤ) (deliveries : List Delivery) (key : BucketKey) (delivery : Delivery) : Prop where
  mem : delivery ∈ deliveries
  latest : ∃ event n, delivery.event = .orderbook event ∧ bucketOf bucketMs event = some key ∧
    event.exchangeTimestamp = .nanos n ∧ ∀ other ∈ deliveries, ∀ otherEvent m, other.event = .orderbook otherEvent →
      bucketOf bucketMs otherEvent = some key → otherEvent.exchangeTimestamp = .nanos m → m ≤ n

/-- what storage that does not depend on the order of delivery leaves: each trade once and no other, and in the row of
each bucket that an orderbook was delivered for the data of its latest one -/
structure Converged (deliveries : List Delivery) (store : MarketDataStore) : Prop where
  tradesOnce : ∀ delivery ∈ deliveries, ∀ key row, delivery.tradeWrite = some (key, row) → store.trades.keys.count key = 1
  tradesOnly : ∀ key ∈ store.trades.keys, ∃ delivery ∈ deliveries, ∃ row, delivery.tradeWrite = some (key, row)
  metrics : ∀ delivery ∈ deliveries, ∀ event key, delivery.event = .orderbook event →
    bucketOf orderbookMetricBucketMs event = some key → ∃ latest row,
      IsLatestIn orderbookMetricBucketMs deliveries key latest ∧ latest.metricWrite = some (key, row) ∧
        store.metrics.get key = some row
  snapshots : ∀ delivery ∈ deliveries, ∀ event key, delivery.event = .orderbook event →
    bucketOf orderbookSnapshotCadenceMs event = some key → ∃ latest row,
      IsLatestIn orderbookSnapshotCadenceMs deliveries key latest ∧ latest.snapshotWrite = some (key, row) ∧
        store.snapshots.get key = some row

/-- the last accepted delivery of each bucket gives the row of the bucket's latest orderbook -/
structure EndsWithLatest (deliveries : List Delivery) : Prop where
  metrics : ∀ delivery ∈ deliveries, ∀ event key, delivery.event = .orderbook event →
    bucketOf orderbookMetricBucketMs event = some key → ∃ last latest row,
      IsLastWrite Delivery.metricWrite deliveries key last row ∧
        IsLatestIn orderbookMetricBucketMs deliveries key latest ∧ latest.metricWrite = some (key, row)
  snapshots : ∀ delivery ∈ deliveries, ∀ event key, delivery.event = .orderbook event →
    bucketOf orderbookSnapshotCadenceMs event = some key → ∃ last latest row,
      IsLastWrite Delivery.snapshotWrite deliveries key last row ∧
        IsLatestIn orderbookSnapshotCadenceMs deliveries key latest ∧ latest.snapshotWrite = some (key, row)

/-- the trades table has the delivered trades, each once -/
theorem trades_once (deliveries : List Delivery) (key : TradeKey) :
    key ∈ (persistAll .empty deliveries).trades.keys ↔
      ∃ delivery ∈ deliveries, ∃ row, delivery.tradeWrite = some (key, row) := by
  rw [← mem_foldl_insertNew, run_trades, InsertionMap.keys, InsertionMap.get, ← not_iff_not, ← assocGet_eq_none]
  simp [MarketDataStore.empty]

/-- **Storage and the order of delivery.** After every sequence of deliveries, with redeliveries and in any order: the
trades table has each delivered trade exactly once, and every bucket's rows hold the data of its latest orderbook exactly
where the last accepted delivery of the bucket gives that data. -/
theorem storage_converges_iff (deliveries : List Delivery) :
    Converged deliveries (persistAll .empty deliveries) ↔ EndsWithLatest deliveries := by
  have hmetrics : ∀ key row, (persistAll .empty deliveries).metrics.get key = some row ↔
      ∃ last, IsLastWrite Delivery.metricWrite deliveries key last row := by
    intro key row
    rw [run_metrics]
    exact foldl_upsert_get _ _ _ _
  have hsnapshots : ∀ key row, (persistAll .empty deliveries).snapshots.get key = some row ↔
      ∃ last, IsLastWrite Delivery.snapshotWrite deliveries key last row := by
    intro key row
    rw [run_snapshots]
    exact foldl_upsert_get _ _ _ _
  constructor
  · intro h
    constructor
    · intro delivery hmem event key hevent hbucket
      obtain ⟨latest, row, hlatest, hwrite, hget⟩ := h.metrics delivery hmem event key hevent hbucket
      obtain ⟨last, hlast⟩ := (hmetrics key row).1 hget
      exact ⟨last, latest, row, hlast, hlatest, hwrite⟩
    · intro delivery hmem event key hevent hbucket
      obtain ⟨latest, row, hlatest, hwrite, hget⟩ := h.snapshots delivery hmem event key hevent hbucket
      obtain ⟨last, hlast⟩ := (hsnapshots key row).1 hget
      exact ⟨last, latest, row, hlast, hlatest, hwrite⟩
  · intro h
    constructor
    · intro delivery hmem key row hwrite
      exact List.count_eq_one_of_mem (persistAll .empty deliveries).trades.nodup
        ((trades_once deliveries key).2 ⟨delivery, hmem, row, hwrite⟩)
    · exact fun key hmem => (trades_once deliveries key).1 hmem
    · intro delivery hmem event key hevent hbucket
      obtain ⟨last, latest, row, hlast, hlatest, hwrite⟩ := h.metrics delivery hmem event key hevent hbucket
      exact ⟨latest, row, hlatest, hwrite, (hmetrics key row).2 ⟨last, hlast⟩⟩
    · intro delivery hmem event key hevent hbucket
      obtain ⟨last, latest, row, hlast, hlatest, hwrite⟩ := h.snapshots delivery hmem event key hevent hbucket
      exact ⟨latest, row, hlatest, hwrite, (hsnapshots key row).2 ⟨last, hlast⟩⟩

end Writes

/-! ## A late orderbook -/

namespace LateSample

/-- a book of 100 and an ask, at a millisecond of the first second -/
def book (ask : String) (ms : ℤ) : OrderbookUpdate where
  exchangeId := "upbit_krw_spot"
  market := "KRW-BTC"
  asks := [⟨ask, "1"⟩]
  bids := [⟨"100", "1"⟩]
  exchangeTimestamp := .nanos (ms * 1000000)
  receivedAt := .nanos (900 * 1000000)
  raw := none

def deliver (ask : String) (ms : ℤ) : Delivery := ⟨.orderbook (book ask ms), ⟨none, none, none⟩, none⟩

def key : BucketKey := ("upbit_krw_spot", "KRW-BTC", 0)

/-- the ask that the metric row of the first second ends with -/
def storedAsk (deliveries : List Delivery) : Option ℚ :=
  ((persistAll .empty deliveries).metrics.get key).map OrderbookMetricRow.bestAskPrice

end LateSample

open LateSample in
/-- the older of two orderbooks of a second is delivered last, and the second's row ends with it -/
theorem late_orderbook_overwrites :
    storedAsk [deliver "101" 200, deliver "102" 700] = some 102 ∧
      storedAsk [deliver "102" 700, deliver "101" 200] = some 101 ∧
      ¬ Converged [deliver "102" 700, deliver "101" 200] (persistAll .empty [deliver "102" 700, deliver "101" 200]) := by
  refine ⟨by decide +kernel, by decide +kernel, fun h => ?_⟩
  obtain ⟨latest, row, hlatest, hwrite, hget⟩ := h.metrics (deliver "102" 700) (by simp) (book "102" 700) key rfl
    (by decide +kernel)
  have hask : row.bestAskPrice = 101 := by
    have hstored : storedAsk [deliver "102" 700, deliver "101" 200] = some 101 := by decide +kernel
    rw [storedAsk, hget] at hstored
    exact Option.some.inj hstored
  obtain ⟨event, n, hevent, -, htime, hgreatest⟩ := hlatest.latest
  have hnewer := hgreatest (deliver "102" 700) (by simp) (book "102" 700) (700 * 1000000) rfl (by decide +kernel) rfl
  rcases List.mem_cons.1 hlatest.mem with rfl | hmem
  · have hnew : (deliver "102" 700).metricWrite.map (fun write => write.2.bestAskPrice) = some 102 := by decide +kernel
    rw [hwrite, Option.map_some, Option.some.injEq, hask] at hnew
    norm_num at hnew
  · rw [List.mem_singleton.1 hmem] at hevent
    cases hevent
    cases htime
    norm_num at hnewer

end SeeMirai.Market
