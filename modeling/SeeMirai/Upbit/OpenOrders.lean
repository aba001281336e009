/-
`listOpenOrders` of the live broker (infrastructure/upbit/live-broker/service.ts): open orders are read page by page,
the oldest first, until a page is short.

Between two requests orders may close and others may open, so that those behind move to the front.

Results:
- `returns_ids`: what is returned are the pages as they stood when they were read.
- `listsEachOnce_iff`: each order that stays open is returned once exactly when the pages end, the orders on them can be
  expressed and none that stays open is moved over the end of a page.
-/
import SeeMirai.Lib.Pagination
import SeeMirai.Upbit.PrivateOrders

namespace SeeMirai.Upbit

open Fallible

section Broker

variable [Host]

/-! ## Model -/

def UPBIT_OPEN_ORDERS_PAGE_LIMIT : ℕ := 100

structure UpbitPrivateListOpenOrdersInput where
  market : Option String
  page : ℕ
  limit : ℕ
  orderBy : String
deriving DecidableEq, Repr

/-- what the broker is built with; each page is asked for once, so the client gives one reply for each request -/
structure OpenOrdersBroker where
  listOpenOrders : UpbitPrivateListOpenOrdersInput → Except UpbitPrivateError (List UpbitPrivateOrderSummaryPayload)
  exchangeId : String
  /-- the clock when the reply to a page is mapped -/
  clock : ℕ → String

omit [Host] in
def withOrderMetadata (order : BrokerOrder) (operation : String) : BrokerOrder :=
  { order with metadata := { order.metadata with upbitLiveBrokerOperation := some operation } }

namespace OpenOrdersBroker

/-- one turn of the loop -/
def readPage (broker : OpenOrdersBroker) (market : Option String) (page : ℕ) :
    Except UpbitPrivateError (List BrokerOrder) := do
  let payload ← broker.listOpenOrders ⟨market, page, UPBIT_OPEN_ORDERS_PAGE_LIMIT, "asc"⟩
  let pageOrders ← toBrokerOrdersFromOpenOrders payload ⟨broker.exchangeId, broker.clock page⟩
  pure (pageOrders.map fun order => withOrderMetadata order "listOpenOrders")

/-- the loop from a page on; `none` when the fuel runs out before it ends -/
def listFrom (broker : OpenOrdersBroker) (market : Option String) (page : ℕ) (orders : List BrokerOrder) :
    ℕ → Option (Except UpbitPrivateError (List BrokerOrder))
  | 0 => none
  | fuel + 1 =>
    match broker.readPage market page with
    | .error e => some (.error e)
    | .ok pageOrders =>
      if pageOrders.length < UPBIT_OPEN_ORDERS_PAGE_LIMIT then some (.ok (orders ++ pageOrders))
      else broker.listFrom market (page + 1) (orders ++ pageOrders) fuel

/-- the call ends with a result -/
def Ends (broker : OpenOrdersBroker) (market : Option String)
    (result : Except UpbitPrivateError (List BrokerOrder)) : Prop :=
  ∃ fuel, broker.listFrom market 1 [] fuel = some result

end OpenOrdersBroker

/-! ## The exchange -/

def uuids (rows : List UpbitPrivateOrderSummaryPayload) : List String := rows.map fun row => row.uuid

/-- the open orders, the oldest first, at each request: a request is answered with its page of them -/
structure Answers (broker : OpenOrdersBroker) (market : Option String)
    (rows : ℕ → List UpbitPrivateOrderSummaryPayload) : Prop where
  reply : ∀ k, broker.listOpenOrders ⟨market, k + 1, UPBIT_OPEN_ORDERS_PAGE_LIMIT, "asc"⟩ =
    .ok (pageAt UPBIT_OPEN_ORDERS_PAGE_LIMIT (rows k) k)
  nodup : ∀ k, (uuids (rows k)).Nodup
  evolves : ∀ k, Evolves (uuids (rows k)) (uuids (rows (k + 1)))

/-- the orders on a page of the open orders can be expressed -/
def PageExpressible (rows : ℕ → List UpbitPrivateOrderSummaryPayload) (k : ℕ) : Prop :=
  ∀ row ∈ pageAt UPBIT_OPEN_ORDERS_PAGE_LIMIT (rows k) k, Expressible row

section Listing

variable {broker : OpenOrdersBroker} {market : Option String} {rows : ℕ → List UpbitPrivateOrderSummaryPayload}

theorem uuids_pageAt (limit : ℕ) (xs : List UpbitPrivateOrderSummaryPayload) (k : ℕ) :
    uuids (pageAt limit xs k) = pageAt limit (uuids xs) k := by
  rw [uuids, uuids, pageAt, pageAt, List.map_take, List.map_drop]

theorem mapped_uuids {payload : List UpbitPrivateOrderSummaryPayload} {options : MapUpbitPrivatePayloadOptions}
    {orders : List BrokerOrder} (h : toBrokerOrdersFromOpenOrders payload options = .ok orders) :
    orders.map BrokerOrder.brokerOrderId = uuids payload := by
  have hall := mapM_ok_iff.1 h
  clear h
  induction hall with
  | nil => rfl
  | cons hrow _ ih => rw [List.map_cons, ih, toBrokerOrder_id hrow, uuids, uuids, List.map_cons]

theorem readPage_ok (h : Answers broker market rows) {k : ℕ} {orders : List BrokerOrder}
    (hpage : broker.readPage market (k + 1) = .ok orders) : PageExpressible rows k ∧
      orders.map BrokerOrder.brokerOrderId = pageAt UPBIT_OPEN_ORDERS_PAGE_LIMIT (uuids (rows k)) k := by
  unfold OpenOrdersBroker.readPage at hpage
  rw [h.reply, ok_bind] at hpage
  obtain ⟨mapped, hmapped, horders⟩ := bind_eq_ok.1 hpage
  cases horders
  constructor
  · intro row hrow
    obtain ⟨i, hi, rfl⟩ := List.getElem_of_mem hrow
    have hall := mapM_ok_iff.1 hmapped
    have hlength := hall.length_eq
    have hi' : i < mapped.length := hlength ▸ hi
    exact (toBrokerOrder_ok_iff _ _ _).1 ⟨mapped[i], hall.get hi hi'⟩
  · rw [← uuids_pageAt, ← mapped_uuids hmapped, List.map_map]
    rfl

theorem readPage_expressible (h : Answers broker market rows) {k : ℕ} (hpage : PageExpressible rows k) :
    ∃ orders, broker.readPage market (k + 1) = .ok orders := by
  obtain ⟨mapped, hmapped⟩ : ∃ mapped, toBrokerOrdersFromOpenOrders (pageAt UPBIT_OPEN_ORDERS_PAGE_LIMIT (rows k) k)
      ⟨broker.exchangeId, broker.clock (k + 1)⟩ = .ok mapped :=
    mapM_total fun row hrow => (toBrokerOrder_ok_iff _ _ _).2 (hpage row hrow)
  refine ⟨mapped.map fun order => withOrderMetadata order "listOpenOrders", ?_⟩
  unfold OpenOrdersBroker.readPage
  rw [h.reply, ok_bind, hmapped, ok_bind]
  rfl

/-- the pages before `k` are in `orders`, as they stood -/
def ReadUpTo (rows : ℕ → List UpbitPrivateOrderSummaryPayload) (k : ℕ) (orders : List BrokerOrder) : Prop :=
  orders.map BrokerOrder.brokerOrderId = pagesRead UPBIT_OPEN_ORDERS_PAGE_LIMIT (fun k => uuids (rows k)) k

theorem ReadUpTo.next (h : Answers broker market rows) {k : ℕ} {orders pageOrders : List BrokerOrder}
    (hread : ReadUpTo rows k orders) (hpage : broker.readPage market (k + 1) = .ok pageOrders) :
    ReadUpTo rows (k + 1) (orders ++ pageOrders) := by
  unfold ReadUpTo at hread ⊢
  rw [List.map_append, hread, (readPage_ok h hpage).2, pagesRead_succ]

theorem page_short_iff (h : Answers broker market rows) {k : ℕ} {pageOrders : List BrokerOrder}
    (hpage : broker.readPage market (k + 1) = .ok pageOrders) :
    pageOrders.length < UPBIT_OPEN_ORDERS_PAGE_LIMIT ↔
      (uuids (rows k)).length < (k + 1) * UPBIT_OPEN_ORDERS_PAGE_LIMIT := by
  rw [← pageAt_short_iff (by decide : 0 < UPBIT_OPEN_ORDERS_PAGE_LIMIT), ← (readPage_ok h hpage).2, List.length_map]

/-- a call that returns has read the pages up to the first short one -/
theorem listFrom_ok (h : Answers broker market rows) {fuel k : ℕ} {orders result : List BrokerOrder}
    (hread : ReadUpTo rows k orders) (hlist : broker.listFrom market (k + 1) orders fuel = some (.ok result)) :
    ∃ m, k ≤ m ∧ (uuids (rows m)).length < (m + 1) * UPBIT_OPEN_ORDERS_PAGE_LIMIT ∧
      (∀ j, k ≤ j → j < m → (j + 1) * UPBIT_OPEN_ORDERS_PAGE_LIMIT ≤ (uuids (rows j)).length) ∧
      (∀ j, k ≤ j → j ≤ m → PageExpressible rows j) ∧ ReadUpTo rows (m + 1) result := by
  induction fuel generalizing k orders with
  | zero => cases hlist
  | succ fuel ih =>
    rw [OpenOrdersBroker.listFrom] at hlist
    cases hpage : broker.readPage market (k + 1) with
    | error e =>
      rw [hpage] at hlist
      cases hlist
    | ok pageOrders =>
      simp only [hpage] at hlist
      have hexpressible := (readPage_ok h hpage).1
      have hnext := hread.next h hpage
      by_cases hshort : pageOrders.length < UPBIT_OPEN_ORDERS_PAGE_LIMIT
      · rw [if_pos hshort] at hlist
        cases hlist
        refine ⟨k, le_rfl, (page_short_iff h hpage).1 hshort, fun j hkj hjk => by omega, fun j hkj hjk => ?_, hnext⟩
        rwa [le_antisymm hjk hkj]
      · rw [if_neg hshort] at hlist
        have hfull := not_lt.1 fun hlt => hshort ((page_short_iff h hpage).2 hlt)
        obtain ⟨m, hkm, hend, hpages, hall, hresult⟩ := ih hnext hlist
        refine ⟨m, by omega, hend, fun j hkj hjm => ?_, fun j hkj hjm => ?_, hresult⟩
        · rcases Nat.eq_or_lt_of_le hkj with rfl | hlt
          · exact hfull
          · exact hpages j hlt hjm
        · rcases Nat.eq_or_lt_of_le hkj with rfl | hlt
          · exact hexpressible
          · exact hall j hlt hjm

/-- where the pages end the call ends, and it returns when the orders on them can be expressed -/
theorem listFrom_ends (h : Answers broker market rows) {m : ℕ}
    (hend : EndsAt UPBIT_OPEN_ORDERS_PAGE_LIMIT (fun k => uuids (rows k)) m) {d k : ℕ} (hk : k + d = m)
    (orders : List BrokerOrder) : ∃ result, broker.listFrom market (k + 1) orders (d + 1) = some result ∧
      ((∀ j, k ≤ j → j ≤ m → PageExpressible rows j) → ∃ listed, result = .ok listed) := by
  induction d generalizing k orders with
  | zero =>
    obtain rfl : k = m := hk
    rw [OpenOrdersBroker.listFrom]
    cases hpage : broker.readPage market (k + 1) with
    | error e =>
      refine ⟨.error e, rfl, fun hall => ?_⟩
      obtain ⟨pageOrders, hok⟩ := readPage_expressible h (hall k le_rfl le_rfl)
      rw [hpage] at hok
      cases hok
    | ok pageOrders =>
      simp only
      rw [if_pos ((page_short_iff h hpage).2 hend.short)]
      exact ⟨_, rfl, fun _ => ⟨_, rfl⟩⟩
  | succ d ih =>
    rw [OpenOrdersBroker.listFrom]
    cases hpage : broker.readPage market (k + 1) with
    | error e =>
      refine ⟨.error e, rfl, fun hall => ?_⟩
      obtain ⟨pageOrders, hok⟩ := readPage_expressible h (hall k le_rfl (by omega))
      rw [hpage] at hok
      cases hok
    | ok pageOrders =>
      simp only
      rw [if_neg fun hshort => absurd ((page_short_iff h hpage).1 hshort) (not_lt.2 (hend.full k (by omega)))]
      obtain ⟨result, hresult, hall⟩ := ih (by omega : k + 1 + d = m) (orders ++ pageOrders)
      exact ⟨result, hresult, fun hpages => hall fun j hkj hjm => hpages j (by omega) hjm⟩

/-! ## Each order once -/

/-- the call returns, and each order that is open at every request is in its result once -/
def ListsEachOnce (broker : OpenOrdersBroker) (market : Option String)
    (rows : ℕ → List UpbitPrivateOrderSummaryPayload) : Prop :=
  ∃ m orders, EndsAt UPBIT_OPEN_ORDERS_PAGE_LIMIT (fun k => uuids (rows k)) m ∧ broker.Ends market (.ok orders) ∧
    ∀ uuid, (∀ k ≤ m, uuid ∈ uuids (rows k)) → (orders.map BrokerOrder.brokerOrderId).count uuid = 1

/-- the pages end, the orders on them can be expressed, and no order that stays open is moved over the end of a page -/
def ReadsAll (rows : ℕ → List UpbitPrivateOrderSummaryPayload) : Prop :=
  ∃ m, EndsAt UPBIT_OPEN_ORDERS_PAGE_LIMIT (fun k => uuids (rows k)) m ∧ (∀ k ≤ m, PageExpressible rows k) ∧
    ∀ uuid, (∀ k ≤ m, uuid ∈ uuids (rows k)) →
      ∀ k < m, ¬ Crosses UPBIT_OPEN_ORDERS_PAGE_LIMIT (fun k => uuids (rows k)) uuid k

theorem Answers.stays (h : Answers broker market rows) {m : ℕ} {uuid : String}
    (hopen : ∀ k ≤ m, uuid ∈ uuids (rows k)) : Stays (fun k => uuids (rows k)) m uuid where
  nodup k _ := h.nodup k
  evolves k _ := h.evolves k
  mem := hopen

/-- what is returned are the pages as they stood when they were read -/
theorem returns_ids (h : Answers broker market rows) {orders : List BrokerOrder}
    (hreturns : broker.Ends market (.ok orders)) :
    ∃ m, EndsAt UPBIT_OPEN_ORDERS_PAGE_LIMIT (fun k => uuids (rows k)) m ∧ (∀ k ≤ m, PageExpressible rows k) ∧
      orders.map BrokerOrder.brokerOrderId =
        pagesRead UPBIT_OPEN_ORDERS_PAGE_LIMIT (fun k => uuids (rows k)) (m + 1) := by
  obtain ⟨fuel, hfuel⟩ := hreturns
  obtain ⟨m, -, hshort, hfull, hpages, hread⟩ := listFrom_ok h (show ReadUpTo rows 0 [] from rfl) hfuel
  exact ⟨m, ⟨hshort, fun k hk => hfull k (Nat.zero_le k) hk⟩, fun k hk => hpages k (Nat.zero_le k) hk, hread⟩

/-- no order that stays open is returned twice -/
theorem returns_at_most_once (h : Answers broker market rows) {orders : List BrokerOrder}
    (hreturns : broker.Ends market (.ok orders)) {uuid : String} (hopen : ∀ k, uuid ∈ uuids (rows k)) :
    (orders.map BrokerOrder.brokerOrderId).count uuid ≤ 1 := by
  obtain ⟨m, hend, -, hids⟩ := returns_ids h hreturns
  rw [hids]
  exact count_pagesRead_le_one (h.stays fun k _ => hopen k) hend

theorem listsEachOnce_iff (h : Answers broker market rows) : ListsEachOnce broker market rows ↔ ReadsAll rows := by
  constructor
  · rintro ⟨m, orders, hend, hreturns, honce⟩
    obtain ⟨n, hend', hpages, hids⟩ := returns_ids h hreturns
    obtain rfl : m = n := hend.unique hend'
    refine ⟨m, hend, hpages, fun uuid hopen => ?_⟩
    have hcount := honce uuid hopen
    rw [hids] at hcount
    exact (count_pagesRead_iff (h.stays hopen) hend).1 hcount
  · rintro ⟨m, hend, hpages, hcross⟩
    obtain ⟨result, hresult, hok⟩ := listFrom_ends h hend (Nat.zero_add m) []
    obtain ⟨orders, rfl⟩ := hok fun j _ hj => hpages j hj
    have hreturns : broker.Ends market (.ok orders) := ⟨m + 1, hresult⟩
    obtain ⟨n, hend', -, hids⟩ := returns_ids h hreturns
    obtain rfl : m = n := hend.unique hend'
    refine ⟨m, orders, hend, hreturns, fun uuid hopen => ?_⟩
    rw [hids]
    exact (count_pagesRead_iff (h.stays hopen) hend).2 (hcross uuid hopen)

/-- of orders that do not change, all are read when all can be expressed -/
theorem readsAll_unchanged (opened : List UpbitPrivateOrderSummaryPayload) :
    ReadsAll (fun _ => opened) ↔ ∀ row ∈ opened, Expressible row := by
  have hlimit : 0 < UPBIT_OPEN_ORDERS_PAGE_LIMIT := by decide
  constructor
  · rintro ⟨m, hend, hpages, -⟩ row hrow
    have hlength : (m + 1) * UPBIT_OPEN_ORDERS_PAGE_LIMIT ≥ opened.length := by
      have hshort := hend.short
      rw [uuids, List.length_map] at hshort
      exact hshort.le
    have hmem : row ∈ pagesRead UPBIT_OPEN_ORDERS_PAGE_LIMIT (fun _ => opened) (m + 1) := by
      rw [pagesRead_const, List.take_of_length_le hlength]
      exact hrow
    obtain ⟨k, hk, hpage⟩ := List.mem_flatMap.1 hmem
    exact hpages k (Nat.lt_succ_iff.1 (List.mem_range.1 hk)) row hpage
  · intro hall
    refine ⟨_, endsAt_unchanged hlimit (uuids opened), fun k _ row hrow => ?_, fun uuid _ k _ hcross => ?_⟩
    · exact hall row (List.drop_subset _ _ (List.take_subset _ _ hrow))
    · exact absurd hcross.1 (not_le.2 hcross.2)

/-- **Open orders.** Each order that stays open is returned once exactly when the pages end, the orders on them can be
expressed and none that stays open is moved over the end of a page. Of orders that do not change, the call ends, and
returns each once exactly when all can be expressed. -/
theorem open_orders_listed_iff (broker : OpenOrdersBroker) (market : Option String)
    (rows : ℕ → List UpbitPrivateOrderSummaryPayload) (h : Answers broker market rows) :
    (ListsEachOnce broker market rows ↔ ReadsAll rows) ∧
    ((∀ k, rows k = rows 0) → (∃ result, broker.Ends market result) ∧
      (ListsEachOnce broker market rows ↔ ∀ row ∈ rows 0, Expressible row)) := by
  refine ⟨listsEachOnce_iff h, fun hsame => ?_⟩
  have hrows : rows = fun _ => rows 0 := funext hsame
  constructor
  · have hend := endsAt_unchanged (by decide : 0 < UPBIT_OPEN_ORDERS_PAGE_LIMIT) (uuids (rows 0))
    have hend' : EndsAt UPBIT_OPEN_ORDERS_PAGE_LIMIT (fun k => uuids (rows k))
        ((uuids (rows 0)).length / UPBIT_OPEN_ORDERS_PAGE_LIMIT) := by
      rw [hrows]
      exact hend
    obtain ⟨result, hresult, -⟩ := listFrom_ends h hend' (Nat.zero_add _) []
    exact ⟨result, _, hresult⟩
  · rw [listsEachOnce_iff h, ← readsAll_unchanged, ← hrows]

end Listing

end Broker

/-! ## An order that is hidden -/

def oneText : NumericText := ⟨"1", 1, Host.Prints.one⟩

/-- the limit order `n` -/
def sampleOrder (n : ℕ) : UpbitPrivateOrderSummaryPayload where
  market := "KRW-BTC"
  uuid := Nat.repr n
  side := .bid
  ordType := .limit
  price := .given oneText
  state := .wait
  createdAt := "2026-06-02T09:00:00+09:00"
  volume := .given oneText
  remainingVolume := .given oneText
  executedVolume := oneText
  executedFunds := none
  reservedFee := oneText
  remainingFee := oneText
  paidFee := oneText
  locked := oneText
  timeInForce := none
  smpType := none
  preventedVolume := none
  preventedLocked := none
  identifier := none
  tradesCount := none

/-- a client that answers with the pages of `rows` -/
def pagingBroker (rows : ℕ → List UpbitPrivateOrderSummaryPayload) : OpenOrdersBroker where
  listOpenOrders input := .ok (pageAt input.limit (rows (input.page - 1)) (input.page - 1))
  exchangeId := "upbit"
  clock _ := "2026-06-02T00:00:00.000Z"

theorem sample_nodup (ns : List ℕ) (h : ns.Nodup) : (uuids (ns.map sampleOrder)).Nodup := by
  rw [uuids, List.map_map]
  exact h.map fun m n heq => Nat.repr_injective heq

theorem sample_expressible (ns : List ℕ) : ∀ row ∈ ns.map sampleOrder, Expressible row := by
  intro row hrow
  obtain ⟨n, -, rfl⟩ := List.mem_map.1 hrow
  exact ⟨oneText, rfl⟩

/-- three open orders that do not change are listed once each -/
theorem three_open_orders_listed :
    ListsEachOnce (pagingBroker fun _ => [0, 1, 2].map sampleOrder) none (fun _ => [0, 1, 2].map sampleOrder) :=
  ((open_orders_listed_iff _ none _
    ⟨fun _ => rfl, fun _ => sample_nodup _ (by decide), fun _ => Evolves.refl _⟩).2 fun _ => rfl).2.2
      (sample_expressible _)

/-- 101 orders; the first closes once the first page has been read -/
def closingRows : ℕ → List UpbitPrivateOrderSummaryPayload
  | 0 => (List.range 101).map sampleOrder
  | _ + 1 => (List.range' 1 100).map sampleOrder

theorem closingRows_answers : Answers (pagingBroker closingRows) none closingRows where
  reply _ := rfl
  nodup k := by
    cases k with
    | zero => exact sample_nodup _ List.nodup_range
    | succ k => exact sample_nodup _ (List.nodup_range' 1)
  evolves k := by
    cases k with
    | zero =>
      refine ⟨uuids ((List.range' 1 100).map sampleOrder), [], ?_, by simp, by simp [closingRows]⟩
      rw [uuids, uuids, closingRows, List.range_eq_range']
      exact ((List.sublist_cons_self 0 (List.range' 1 100)).map sampleOrder).map _
    | succ k => exact Evolves.refl _

theorem closingRows_mem (k : ℕ) : Nat.repr 100 ∈ uuids (closingRows k) := by
  rw [uuids, List.mem_map]
  refine ⟨sampleOrder 100, ?_, rfl⟩
  cases k with
  | zero => exact List.mem_map_of_mem (List.mem_range.2 (by decide))
  | succ k => exact List.mem_map_of_mem (List.mem_range'_1.2 (by decide))

theorem closingRows_endsAt : EndsAt UPBIT_OPEN_ORDERS_PAGE_LIMIT (fun k => uuids (closingRows k)) 1 where
  short := by simp [uuids, closingRows, UPBIT_OPEN_ORDERS_PAGE_LIMIT]
  full k hk := by
    obtain rfl : k = 0 := by omega
    simp [uuids, closingRows, UPBIT_OPEN_ORDERS_PAGE_LIMIT]

/-- an order closes on the first page, and one that stays open all along is missing -/
theorem closing_order_hides_another : ¬ ∀ (rows : ℕ → List UpbitPrivateOrderSummaryPayload) (orders : List BrokerOrder),
    Answers (pagingBroker rows) none rows → (pagingBroker rows).Ends none (.ok orders) →
    ∀ uuid, (∀ k, uuid ∈ uuids (rows k)) → (orders.map BrokerOrder.brokerOrderId).count uuid = 1 := by
  intro hall
  have hanswers := closingRows_answers
  have hpages : ∀ k, PageExpressible closingRows k := by
    intro k row hrow
    have hmem : row ∈ closingRows k := List.drop_subset _ _ (List.take_subset _ _ hrow)
    cases k with
    | zero => exact sample_expressible _ row hmem
    | succ k => exact sample_expressible _ row hmem
  obtain ⟨result, hresult, hok⟩ := listFrom_ends hanswers closingRows_endsAt (Nat.zero_add 1) []
  obtain ⟨orders, rfl⟩ := hok fun j _ _ => hpages j
  have hreturns : (pagingBroker closingRows).Ends none (.ok orders) := ⟨_, hresult⟩
  have hcount := hall closingRows orders hanswers hreturns (Nat.repr 100) closingRows_mem
  obtain ⟨m, hend, -, hids⟩ := returns_ids hanswers hreturns
  obtain rfl : m = 1 := hend.unique closingRows_endsAt
  rw [hids] at hcount
  have hkept := (count_pagesRead_iff (hanswers.stays fun k _ => closingRows_mem k) hend).1 hcount 0 Nat.zero_lt_one
  exact hkept ⟨by decide +kernel, by decide +kernel⟩

end SeeMirai.Upbit
