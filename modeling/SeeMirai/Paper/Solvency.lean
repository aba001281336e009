/-
Whole runs of the paper broker: what the locked amounts consist of, and that no balance goes negative.

A run is any sequence of `submitOrder`, `cancelOrder`, `recordOrderbookSnapshot` and `replaceOrderbookSnapshots` calls
on a broker that the constructor built; a call that throws is a step like any other. Locks are taken by one function
(the balance delta of a fill outcome) and released by another (the cancel), from different fields of the stored order.
`Sound` is the invariant that ties the two: each currency's locked amount is the initial one plus what the open orders
account for. `Solvent` needs it, since a release must not take more than was locked.

Results:
- `Filled.locks`: booking an order locks exactly what the stored order accounts for.
- `releaseOpenBalance_locks`: a cancel releases exactly what the stored order accounts for.
- `locked_is_open_orders`: in every reachable state, locked is initial locked plus the open orders' remainders.
- `always_solvent`: in every reachable state no amount is negative and totals add up; a rejected or throwing submission
  changes no balance and no existing order.
-/
import SeeMirai.Paper.Broker

namespace SeeMirai.Paper

open Fallible

section Host

variable [Host]

/-! ## Runs -/

inductive PaperBrokerCall where
  | submitOrder (submission : OrderSubmission) (now : MarketTimestamp)
  | cancelOrder (orderId : String) (now : MarketTimestamp)
  | recordOrderbookSnapshot (snapshot : OrderbookEvent)
  | replaceOrderbookSnapshots (snapshots : List OrderbookEvent)

/-- the state a call leaves behind, whether it returns or throws -/
def PaperBroker.step (broker : PaperBroker) : PaperBrokerCall → PaperBroker
  | .submitOrder submission now => (broker.submitOrder submission now).1
  | .cancelOrder orderId now => (broker.cancelOrder orderId now).1
  | .recordOrderbookSnapshot snapshot =>
    { broker with orderbooksByMarket := (Paper.recordOrderbookSnapshot broker.orderbooksByMarket snapshot).1 }
  | .replaceOrderbookSnapshots snapshots =>
    { broker with orderbooksByMarket := (Paper.replaceOrderbookSnapshots snapshots).1 }

def PaperBroker.run (broker : PaperBroker) (calls : List PaperBrokerCall) : PaperBroker := calls.foldl PaperBroker.step broker

/-- a positive quantity and, for a LIMIT order, a positive price -/
structure PositiveIntent (intent : OrderIntent) : Prop where
  quantity : ∀ q, Host.valueOf intent.requestedQuantity = some q → 0 < q
  price : ∀ price p, intent.terms.requestedPrice = some price → Host.valueOf price = some p → 0 < p

/-- positive intents, snapshots without negative sizes -/
def PaperBrokerCall.Admitted : PaperBrokerCall → Prop
  | .submitOrder submission _ => PositiveIntent submission.intent
  | .cancelOrder _ _ => True
  | .recordOrderbookSnapshot snapshot => OrderbookEvent.SizesNonneg snapshot
  | .replaceOrderbookSnapshots snapshots => ∀ snapshot ∈ snapshots, OrderbookEvent.SizesNonneg snapshot

/-- a fee between nothing and all of the notional -/
def FeeInRange (options : PaperBrokerFillOptions) : Prop :=
  ∀ bps, Host.valueOf (options.takerFeeBps.getD "0") = some bps → 0 ≤ bps ∧ bps ≤ 10000

/-- the options a broker may be built with: no currency twice, no negative level, a fee in range -/
structure PaperBrokerOptions.Admitted (options : PaperBrokerOptions) : Prop where
  currencies : (options.initialBalances.map (fun input => normalizeCurrency input.currency)).Nodup
  sizes : ∀ snapshot ∈ options.orderbookSnapshots, OrderbookEvent.SizesNonneg snapshot
  fee : FeeInRange options.fillOptions

/-- the locked amount the constructor is given for a currency -/
def PaperBrokerOptions.initialLocked (options : PaperBrokerOptions) (c : String) : ℚ :=
  ((options.initialBalances.find? (fun input => normalizeCurrency input.currency = c)).bind
    (fun input => Host.valueOf (input.locked.getD "0"))).getD 0

/-- non-negative amounts, and no total of their own -/
structure PaperBrokerBalanceInput.Nonneg (input : PaperBrokerBalanceInput) : Prop where
  available : ∀ q, Host.valueOf input.available = some q → 0 ≤ q
  locked : ∀ q, Host.valueOf (input.locked.getD "0") = some q → 0 ≤ q
  total : input.total = none

/-! ## What open orders lock -/

/-- the balance a market's quote or base currency is kept under -/
def balanceKey (market : String) (side : MarketCurrencies → String) : Option String :=
  (parseMarketCurrencies market).toOption.map (fun currencies => normalizeCurrency (side currencies))

def quotedIn (c : String) (order : BrokerOrder) : Bool := balanceKey order.market MarketCurrencies.quoteCurrency = some c

def basedIn (c : String) (order : BrokerOrder) : Bool := balanceKey order.market MarketCurrencies.baseCurrency = some c

def BrokerOrder.price (order : BrokerOrder) : ℚ := (order.requestedPrice.bind Host.valueOf).getD 0

/-- remaining quantity times price, over the open BUY orders quoted in a currency -/
def PaperBroker.openBuyLock (broker : PaperBroker) (c : String) : ℚ :=
  (((broker.listOpenOrders none).filter (fun order => order.side = .buy ∧ quotedIn c order)).map
    (fun order => order.remainingQuantity * order.price)).sum

/-- remaining quantity, over the open SELL orders whose base is a currency -/
def PaperBroker.openSellLock (broker : PaperBroker) (c : String) : ℚ :=
  (((broker.listOpenOrders none).filter (fun order => order.side = .sell ∧ basedIn c order)).map
    BrokerOrder.remainingQuantity).sum

/-- what one order accounts for in the locked amount of a currency -/
def lockShare (c : String) (order : BrokerOrder) : ℚ :=
  if isOpenBrokerOrder order then
    match order.side with
    | .buy => if quotedIn c order then order.remainingQuantity * order.price else 0
    | .sell => if basedIn c order then order.remainingQuantity else 0
  else 0

theorem lockShare_closed {c : String} {order : BrokerOrder} (h : isOpenBrokerOrder order = false) :
    lockShare c order = 0 := by
  simp [lockShare, h]

/-- the two sums over open orders, as one sum over all orders -/
theorem openLocks_eq_total (broker : PaperBroker) (c : String) :
    broker.openBuyLock c + broker.openSellLock c = broker.ordersById.total (lockShare c) := by
  unfold PaperBroker.openBuyLock PaperBroker.openSellLock PaperBroker.listOpenOrders InsertionMap.values
    InsertionMap.total
  induction broker.ordersById.entries with
  | nil => simp
  | cons entry entries ih =>
    obtain ⟨id, order⟩ := entry
    rw [List.map_cons, List.map_cons, List.sum_cons, ← ih]
    cases hopen : isOpenBrokerOrder order with
    | false => simp [hopen, lockShare]
    | true =>
      cases hside : order.side with
      | buy =>
        cases hq : quotedIn c order with
        | false => simp [hopen, hside, hq, lockShare]
        | true =>
          simp [hopen, hside, hq, lockShare]
          ring
      | sell =>
        cases hb : basedIn c order with
        | false => simp [hopen, hside, hb, lockShare]
        | true =>
          simp [hopen, hside, hb, lockShare]
          ring

/-! ## Bookings against orders -/

/-- what the cancel of an open order relies on: a LIMIT order with a readable, positive price and a market that splits -/
structure Releasable (order : BrokerOrder) : Prop where
  limit : order.orderType = .limit
  price : ∃ price p, order.requestedPrice = some price ∧ Host.valueOf price = some p ∧ 0 < p
  market : ∃ currencies, parseMarketCurrencies order.market = .ok currencies

theorem quotedIn_iff {c : String} {order : BrokerOrder} {currencies : MarketCurrencies}
    (h : parseMarketCurrencies order.market = .ok currencies) :
    quotedIn c order = true ↔ normalizeCurrency currencies.quoteCurrency = c := by
  simp [quotedIn, balanceKey, h, Except.toOption]

theorem basedIn_iff {c : String} {order : BrokerOrder} {currencies : MarketCurrencies}
    (h : parseMarketCurrencies order.market = .ok currencies) :
    basedIn c order = true ↔ normalizeCurrency currencies.baseCurrency = c := by
  simp [basedIn, balanceKey, h, Except.toOption]

theorem price_eq {order : BrokerOrder} {price : String} {p : ℚ} (h : order.requestedPrice = some price)
    (hp : Host.valueOf price = some p) : order.price = p := by
  simp [BrokerOrder.price, h, hp]

/-- an open order locks a non-negative amount -/
theorem lockShare_nonneg {order : BrokerOrder} (h : isOpenBrokerOrder order = true → Releasable order) (c : String) :
    0 ≤ lockShare c order := by
  cases hopen : isOpenBrokerOrder order with
  | false => rw [lockShare_closed hopen]
  | true =>
    have hremaining := (isOpenBrokerOrder_iff.1 hopen).2
    obtain ⟨price, p, hprice, hvalue, hpos⟩ := (h hopen).price
    cases hside : order.side with
    | buy =>
      simp only [lockShare, hopen, hside, price_eq hprice hvalue, if_true]
      split_ifs
      · exact (mul_pos hremaining hpos).le
      · exact le_refl 0
    | sell =>
      simp only [lockShare, hopen, hside, if_true]
      split_ifs
      · exact hremaining.le
      · exact le_refl 0

/-- the deltas of a simulated order -/
theorem createSubmissionBalanceMutation_spec {intent : OrderIntent} {simulation : PaperFillSimulationResult}
    {mutation : PaperBrokerBalanceMutationSummary} (h : createSubmissionBalanceMutation intent simulation = .ok mutation) :
    ∃ currencies, parseMarketCurrencies intent.market = .ok currencies ∧
      mutation.quoteCurrency = currencies.quoteCurrency ∧ mutation.baseCurrency = currencies.baseCurrency ∧
      ((intent.side = .buy ∧ ∃ lock, calculateOpenQuoteLock intent simulation.openQuantity = .ok lock ∧
          mutation.quoteAvailableDelta = -(simulation.totalFillNotional.getD 0 + simulation.totalFee.getD 0 + lock) ∧
          mutation.quoteLockedDelta = lock ∧ mutation.baseAvailableDelta = simulation.filledQuantity ∧
          mutation.baseLockedDelta = 0) ∨
        (intent.side = .sell ∧
          mutation.quoteAvailableDelta = simulation.totalFillNotional.getD 0 - simulation.totalFee.getD 0 ∧
          mutation.quoteLockedDelta = 0 ∧
          mutation.baseAvailableDelta = -(simulation.filledQuantity + simulation.openQuantity) ∧
          mutation.baseLockedDelta = simulation.openQuantity)) := by
  obtain ⟨currencies, hcurrencies, h⟩ := bind_eq_ok.1 h
  refine ⟨currencies, hcurrencies, ?_⟩
  cases hside : intent.side with
  | buy =>
    simp only [hside] at h
    obtain ⟨lock, hlock, h⟩ := bind_eq_ok.1 h
    obtain rfl := pure_eq_ok.1 h
    exact ⟨rfl, rfl, Or.inl ⟨rfl, lock, hlock, rfl, rfl, rfl, rfl⟩⟩
  | sell =>
    simp only [hside] at h
    obtain rfl := pure_eq_ok.1 h
    exact ⟨rfl, rfl, Or.inr ⟨rfl, rfl, rfl, rfl, rfl⟩⟩

theorem calculateOpenQuoteLock_spec {intent : OrderIntent} {openQuantity lock : ℚ}
    (h : calculateOpenQuoteLock intent openQuantity = .ok lock) :
    (¬ 0 < openQuantity → lock = 0) ∧
      ∀ price p, 0 < openQuantity → intent.terms.requestedPrice = some price → Host.valueOf price = some p →
        lock = openQuantity * p := by
  unfold calculateOpenQuoteLock at h
  cases hterms : intent.terms with
  | market =>
    simp only [hterms, pure_eq_ok] at h
    exact ⟨fun _ => h.symm, fun price p _ hprice => by cases hprice⟩
  | limit requestedPrice postOnly timeInForce =>
    simp only [hterms] at h
    split_ifs at h with hpos
    · obtain ⟨q, hq, hlock⟩ := map_eq_ok.1 h
      refine ⟨fun hneg => absurd hpos hneg, fun price p _ hprice hvalue => ?_⟩
      cases hprice
      rw [← hlock, Option.some.inj ((parseFinancialDecimal_eq_ok.1 hq).symm.trans hvalue)]
    · refine ⟨fun _ => (pure_eq_ok.1 h).symm, fun _ _ hpos' => absurd hpos' hpos⟩

variable {broker : PaperBroker} {submission : OrderSubmission} {brokerOrderId : String} {updatedAt : MarketTimestamp}
  {balances : InsertionMap String BrokerBalance} {order : BrokerOrder}

/-- the recorded snapshots that an intent is filled against offer no negative size -/
def BooksNonneg (broker : PaperBroker) : Prop :=
  ∀ key snapshots, broker.orderbooksByMarket.get key = some snapshots →
    ∀ snapshot ∈ snapshots, OrderbookEvent.SizesNonneg snapshot

theorem BooksNonneg.request (h : BooksNonneg broker) {orderbooks : List OrderbookEvent}
    {options : PaperFillSimulatorOptions}
    (hrequest : broker.createFillSimulationRequest submission = .ok (orderbooks, options)) :
    ∀ orderbook ∈ orderbooks, OrderbookEvent.SizesNonneg orderbook := by
  intro orderbook hmem
  have hread := (createFillSimulationRequest_spec hrequest).1 orderbook hmem
  unfold PaperBroker.readOrderbooksForIntent at hread
  cases hget : broker.orderbooksByMarket.get (createOrderbookKey submission.intent.exchangeId submission.intent.market) with
  | none => simp [hget] at hread
  | some snapshots =>
    rw [hget] at hread
    exact h _ _ hget orderbook hread

/-- a readable fingerprint means a readable price -/
theorem createSubmissionFingerprint_price {intent : OrderIntent} {fingerprint : SubmissionFingerprint}
    (h : createSubmissionFingerprint intent = .ok fingerprint) {price : String}
    (hprice : intent.terms.requestedPrice = some price) : ∃ p, Host.valueOf price = some p := by
  obtain ⟨_, -, h⟩ := bind_eq_ok.1 h
  obtain ⟨_, -, h⟩ := bind_eq_ok.1 h
  obtain ⟨_, hlimit, -⟩ := bind_eq_ok.1 h
  cases hterms : intent.terms with
  | market => rw [hterms] at hprice; cases hprice
  | limit requestedPrice postOnly timeInForce =>
    rw [hterms] at hprice hlimit
    cases hprice
    obtain ⟨_, hnormal, -⟩ := bind_eq_ok.1 hlimit
    obtain ⟨p, hp, -⟩ := map_eq_ok.1 hnormal
    exact ⟨p, parseFinancialDecimal_eq_ok.1 hp⟩

/-- an order that `fillOrder` leaves open can be released -/
theorem Filled.releasable (hbooks : BooksNonneg broker) (hintent : PositiveIntent submission.intent)
    {fingerprint : SubmissionFingerprint} (hfingerprint : createSubmissionFingerprint submission.intent = .ok fingerprint)
    (h : Filled broker submission brokerOrderId updatedAt balances order) (hopen : isOpenBrokerOrder order = true) :
    Releasable order := by
  cases h with
  | rejected _ _ _ hstatus _ =>
    have := (isOpenBrokerOrder_iff.1 hopen).1
    rw [hstatus] at this
    cases this
  | booked orderbooks options simulation mutation hrequest hsimulation hmutation hcovered =>
    obtain ⟨requested, hreq, hout⟩ := simulatePaperFill_outcome (hbooks.request hrequest)
      (fun q hq => (hintent.quantity q hq).le) hsimulation
    have hremaining : 0 < simulation.openQuantity := (isOpenBrokerOrder_iff.1 hopen).2
    obtain ⟨currencies, hcurrencies, -⟩ := createSubmissionBalanceMutation_spec hmutation
    have hlimit : submission.intent.terms.orderType = .limit := (hout.stays hremaining.ne').2
    refine ⟨hlimit, ?_, currencies, hcurrencies⟩
    cases hterms : submission.intent.terms with
    | market => rw [hterms] at hlimit; cases hlimit
    | limit price postOnly timeInForce =>
      have hprice : submission.intent.terms.requestedPrice = some price := by rw [hterms]; rfl
      obtain ⟨p, hp⟩ := createSubmissionFingerprint_price hfingerprint hprice
      exact ⟨price, p, hprice, hp, hintent.price price p hprice hp⟩

/-- **Booking an order locks what the order accounts for.** -/
theorem Filled.locks (hbooks : BooksNonneg broker) (hintent : PositiveIntent submission.intent)
    {fingerprint : SubmissionFingerprint} (hfingerprint : createSubmissionFingerprint submission.intent = .ok fingerprint)
    (h : Filled broker submission brokerOrderId updatedAt balances order) (c : String) :
    lockedOf balances c = lockedOf broker.balancesByCurrency c + lockShare c order := by
  have hreleasable := h.releasable hbooks hintent hfingerprint
  cases h with
  | rejected _ _ _ hstatus hremaining =>
    rw [lockShare_closed (by simp [isOpenBrokerOrder, hremaining]), add_zero]
  | booked orderbooks options simulation mutation hrequest hsimulation hmutation hcovered =>
    obtain ⟨requested, hreq, hout⟩ := simulatePaperFill_outcome (hbooks.request hrequest)
      (fun q hq => (hintent.quantity q hq).le) hsimulation
    obtain ⟨currencies, hcurrencies, hquote, hbase, hdeltas⟩ := createSubmissionBalanceMutation_spec hmutation
    set order := createBrokerOrderFromSimulation submission brokerOrderId simulation mutation
      ⟨simulation.orderStatus, simulation.openQuantity, true, none⟩ updatedAt with horder
    have hmarket : parseMarketCurrencies order.market = .ok currencies := hcurrencies
    -- an open quantity and an open order are the same thing
    have hopen : isOpenBrokerOrder order = true ↔ 0 < simulation.openQuantity := by
      rw [isOpenBrokerOrder_iff]
      exact ⟨fun h => h.2, fun hpos => ⟨(hout.stays hpos.ne').1, hpos⟩⟩
    rw [applySubmissionBalanceMutation, applyBalanceDelta_lockedOf, applyBalanceDelta_lockedOf, hquote, hbase]
    rcases hdeltas with ⟨hside, lock, hlock, -, hql, -, hbl⟩ | ⟨hside, -, hql, -, hbl⟩
    · rw [hql, hbl, ite_self, add_zero]
      have hbuy : order.side = .buy := hside
      obtain ⟨hzero, hpositive⟩ := calculateOpenQuoteLock_spec hlock
      by_cases hpos : 0 < simulation.openQuantity
      · obtain ⟨price, p, hprice, hvalue, -⟩ := (hreleasable (hopen.2 hpos)).price
        have hlockShare : lockShare c order = if normalizeCurrency currencies.quoteCurrency = c then lock else 0 := by
          simp only [lockShare, hopen.2 hpos, hbuy, if_true, quotedIn_iff hmarket, price_eq hprice hvalue]
          rw [hpositive price p hpos hprice hvalue]
          rfl
        rw [hlockShare]
      · rw [hzero hpos, ite_self, lockShare_closed (by rw [← Bool.not_eq_true, hopen]; exact hpos)]
    · rw [hql, hbl, ite_self, add_zero]
      have hsell : order.side = .sell := hside
      by_cases hpos : 0 < simulation.openQuantity
      · have hlockShare : lockShare c order
            = if normalizeCurrency currencies.baseCurrency = c then simulation.openQuantity else 0 := by
          simp only [lockShare, hopen.2 hpos, hsell, if_true, basedIn_iff hmarket]
          rfl
        rw [hlockShare]
      · have hnone : simulation.openQuantity = 0 := le_antisymm (not_lt.1 hpos) hout.unfilled
        rw [hnone, ite_self, lockShare_closed (by rw [← Bool.not_eq_true, hopen]; exact hpos)]

/-- **A cancel releases what the order accounts for.** The available amounts gain it. -/
theorem releaseOpenBalance_locks (horder : Releasable order) (hopen : isOpenBrokerOrder order = true)
    {canceledAt : MarketTimestamp} {released : InsertionMap String BrokerBalance}
    {mutation : PaperBrokerCancelMutationSummary}
    (h : releaseOpenBalance balances order canceledAt = .ok (released, mutation)) (c : String) :
    lockedOf released c = lockedOf balances c - lockShare c order ∧
      availableOf released c = availableOf balances c + lockShare c order := by
  have hremaining := (isOpenBrokerOrder_iff.1 hopen).2
  obtain ⟨price, p, hprice, hvalue, -⟩ := horder.price
  obtain ⟨currencies, hcurrencies, h⟩ := bind_eq_ok.1 h
  simp only [horder.limit, hprice, hremaining, if_true] at h
  cases hside : order.side with
  | buy =>
    simp only [hside] at h
    obtain ⟨q, hq, h⟩ := bind_eq_ok.1 h
    obtain rfl : p = q := Option.some.inj (hvalue.symm.trans (parseFinancialDecimal_eq_ok.1 hq))
    cases pure_eq_ok.1 h
    have hlockShare : lockShare c order
        = if normalizeCurrency currencies.quoteCurrency = c then order.remainingQuantity * p else 0 := by
      simp only [lockShare, hopen, hside, if_true, quotedIn_iff hcurrencies, price_eq hprice hvalue]
    rw [applyBalanceDelta_lockedOf, applyBalanceDelta_availableOf, hlockShare]
    split_ifs <;> simp [sub_eq_add_neg]
  | sell =>
    simp only [hside] at h
    cases pure_eq_ok.1 h
    have hlockShare : lockShare c order
        = if normalizeCurrency currencies.baseCurrency = c then order.remainingQuantity else 0 := by
      simp only [lockShare, hopen, hside, if_true, basedIn_iff hcurrencies]
    rw [applyBalanceDelta_lockedOf, applyBalanceDelta_availableOf, hlockShare]
    split_ifs <;> simp [sub_eq_add_neg]

theorem releaseOpenBalance_totals (htotals : TotalsAdd balances) {canceledAt : MarketTimestamp}
    {released : InsertionMap String BrokerBalance} {mutation : PaperBrokerCancelMutationSummary}
    (h : releaseOpenBalance balances order canceledAt = .ok (released, mutation)) : TotalsAdd released := by
  obtain ⟨currencies, -, h⟩ := bind_eq_ok.1 h
  simp only at h
  split at h
  · split_ifs at h
    · split at h
      · obtain ⟨q, -, h⟩ := bind_eq_ok.1 h
        cases pure_eq_ok.1 h
        exact htotals.applyBalanceDelta
      · cases pure_eq_ok.1 h
        exact htotals.applyBalanceDelta
    · cases pure_eq_ok.1 h
      exact htotals
  · cases pure_eq_ok.1 h
    exact htotals

/-- **Booking an order overdraws nothing.** On a BUY the quote debit is covered and the base is credited; on a SELL the
base debit is covered, and the fee does not eat more than the proceeds. -/
theorem Filled.available (hbooks : BooksNonneg broker) (hfee : FeeInRange broker.fillOptions)
    (hintent : PositiveIntent submission.intent) (hb : ∀ c, 0 ≤ availableOf broker.balancesByCurrency c)
    (h : Filled broker submission brokerOrderId updatedAt balances order) (c : String) : 0 ≤ availableOf balances c := by
  cases h with
  | rejected => exact hb c
  | booked orderbooks options simulation mutation hrequest hsimulation hmutation hcovered =>
    have hsizes := hbooks.request hrequest
    have hquantity : ∀ q, Host.valueOf submission.intent.requestedQuantity = some q → 0 ≤ q :=
      fun q hq => (hintent.quantity q hq).le
    obtain ⟨requested, hreq, hout⟩ := simulatePaperFill_outcome hsizes hquantity hsimulation
    obtain ⟨currencies, -, hquote, hbase, hdeltas⟩ := createSubmissionBalanceMutation_spec hmutation
    obtain ⟨hquoteCovered, hbaseCovered⟩ := Option.or_eq_none_iff.1 hcovered
    have hquoteLeft := validateAvailableBalance_none hquoteCovered (hb _)
    have hbaseLeft := validateAvailableBalance_none hbaseCovered (hb _)
    rw [applySubmissionBalanceMutation, applyBalanceDelta_availableOf, applyBalanceDelta_availableOf]
    have hc := hb c
    rcases hdeltas with ⟨hside, lock, -, -, -, hba, -⟩ | ⟨hside, hqa, -, -, -⟩
    · have hcredit : 0 ≤ mutation.baseAvailableDelta := hba ▸ hout.filled
      split_ifs with hq hbc hbc
      · rw [← hq]; linarith
      · rw [← hq]; linarith
      · linarith
      · linarith
    · have hcredit : 0 ≤ mutation.quoteAvailableDelta := by
        rw [hqa, sub_nonneg]
        refine simulatePaperFill_sell_fee hsizes hside hquantity
          (fun price p hprice hp => (hintent.price price p hprice hp).le) (fun bps hbps => ?_) hsimulation
        rw [(createFillSimulationRequest_spec hrequest).2] at hbps
        exact (hfee bps hbps).2
      split_ifs with hq hbc hbc
      · rw [← hbc]; linarith
      · linarith
      · rw [← hbc]; linarith
      · linarith

theorem Filled.totals (htotals : TotalsAdd broker.balancesByCurrency)
    (h : Filled broker submission brokerOrderId updatedAt balances order) : TotalsAdd balances := by
  cases h with
  | rejected => exact htotals
  | booked => exact htotals.applyBalanceDelta.applyBalanceDelta

/-- a rejected order books nothing, also where the simulation is what rejects it -/
theorem Filled.rejected_balances (hbooks : BooksNonneg broker) (hintent : PositiveIntent submission.intent)
    (h : Filled broker submission brokerOrderId updatedAt balances order) (hrejected : order.status = .rejected) :
    balances = broker.balancesByCurrency := by
  cases h with
  | rejected => rfl
  | booked orderbooks options simulation mutation hrequest hsimulation hmutation hcovered =>
    obtain ⟨requested, hreq, hout⟩ := simulatePaperFill_outcome (hbooks.request hrequest)
      (fun q hq => (hintent.quantity q hq).le) hsimulation
    obtain ⟨hfilled, hunfilled, hnotional, hfee⟩ := hout.refused hrejected
    obtain ⟨currencies, -, -, -, hdeltas⟩ := createSubmissionBalanceMutation_spec hmutation
    have hzero : mutation.quoteAvailableDelta = 0 ∧ mutation.quoteLockedDelta = 0 ∧ mutation.baseAvailableDelta = 0 ∧
        mutation.baseLockedDelta = 0 := by
      rcases hdeltas with ⟨-, lock, hlock, hqa, hql, hba, hbl⟩ | ⟨-, hqa, hql, hba, hbl⟩
      · have hlockZero := (calculateOpenQuoteLock_spec hlock).1 (by rw [hunfilled]; exact lt_irrefl 0)
        rw [hqa, hql, hba, hbl, hlockZero, hfilled, hnotional, hfee]
        simp
      · rw [hqa, hql, hba, hbl, hfilled, hunfilled, hnotional, hfee]
        simp
    rw [applySubmissionBalanceMutation, hzero.1, hzero.2.1, hzero.2.2.1, hzero.2.2.2]
    simp only [applyBalanceDelta_zero]

/-! ## Invariants -/

/-- the lock invariant: stored orders sit under their own, already used ids, open ones can be released, and what is
locked beyond the initial amount is what the orders account for -/
structure Sound (initialLocked : String → ℚ) (broker : PaperBroker) : Prop where
  ids : ∀ id order, broker.ordersById.get id = some order → order.brokerOrderId = id ∧
    ∃ k < broker.nextOrderSequence, id = broker.brokerOrderIdPrefix ++ "-" ++ toString k
  releasable : ∀ id order, broker.ordersById.get id = some order → isOpenBrokerOrder order = true → Releasable order
  books : BooksNonneg broker
  locked : ∀ c, lockedOf broker.balancesByCurrency c = initialLocked c + broker.ordersById.total (lockShare c)

structure Solvent (broker : PaperBroker) : Prop where
  available : ∀ c, 0 ≤ availableOf broker.balancesByCurrency c
  totals : TotalsAdd broker.balancesByCurrency

variable {initialLocked : String → ℚ}

/-- the next order id is not in use -/
theorem Sound.fresh (h : Sound initialLocked broker) : broker.ordersById.get broker.createBrokerOrderId = none := by
  cases hget : broker.ordersById.get broker.createBrokerOrderId with
  | none => rfl
  | some order =>
    obtain ⟨-, k, hk, hid⟩ := h.ids _ order hget
    exact absurd (createBrokerOrderId_inj hid) hk.ne'

theorem Sound.submitOrder (h : Sound initialLocked broker) (hintent : PositiveIntent submission.intent)
    (updatedAt : MarketTimestamp) : Sound initialLocked (broker.submitOrder submission updatedAt).1 := by
  rcases submitOrder_cases broker submission updatedAt with
    hsame | ⟨-, hthrown⟩ | ⟨fingerprint, balances, order, -, hfingerprint, -, hfilled, hstored⟩
  · rw [hsame]
    exact h
  · rw [hthrown]
    refine { h with ids := fun id order hget => ?_ }
    obtain ⟨hid, k, hk, hname⟩ := h.ids id order hget
    exact ⟨hid, k, Nat.lt_succ_of_lt hk, hname⟩
  · rw [hstored]
    have hid := hfilled.brokerOrderId_eq
    refine ⟨fun id stored hget => ?_, fun id stored hget hopen => ?_, h.books, fun c => ?_⟩
    · simp only [PaperBroker.storeOrder, InsertionMap.get_set] at hget
      split_ifs at hget with hkey
      · cases hget
        exact ⟨hkey, broker.nextOrderSequence, Nat.lt_succ_self _, hkey.symm.trans hid⟩
      · obtain ⟨hid', k, hk, hname⟩ := h.ids id stored hget
        exact ⟨hid', k, Nat.lt_succ_of_lt hk, hname⟩
    · simp only [PaperBroker.storeOrder, InsertionMap.get_set] at hget
      split_ifs at hget with hkey
      · cases hget
        exact hfilled.releasable h.books hintent hfingerprint hopen
      · exact h.releasable id stored hget hopen
    · have hfresh : broker.ordersById.get order.brokerOrderId = none := by rw [hid]; exact h.fresh
      simp only [PaperBroker.storeOrder]
      rw [hfilled.locks h.books hintent hfingerprint c, h.locked c, InsertionMap.total_set, hfresh]
      simp only [Option.map_none, Option.getD_none]
      ring

theorem Sound.cancelOrder (h : Sound initialLocked broker) (orderId : String) (canceledAt : MarketTimestamp) :
    Sound initialLocked (broker.cancelOrder orderId canceledAt).1 := by
  rcases cancelOrder_cases broker orderId canceledAt with
    hsame | ⟨order, balances, mutation, hget, hopen, hrelease, hcanceled⟩
  · rw [hsame]
    exact h
  · rw [hcanceled]
    have hkey := (h.ids orderId order hget).1
    have hclosed : isOpenBrokerOrder (createCanceledOrder order mutation canceledAt) = false := by
      simp [isOpenBrokerOrder, createCanceledOrder]
    refine ⟨fun id stored hstored => ?_, fun id stored hstored hopen' => ?_, h.books, fun c => ?_⟩
    · simp only [InsertionMap.get_set] at hstored
      split_ifs at hstored with hid
      · cases hstored
        refine ⟨hid, ?_⟩
        rw [← hid, hkey]
        exact (h.ids orderId order hget).2
      · exact h.ids id stored hstored
    · simp only [InsertionMap.get_set] at hstored
      split_ifs at hstored with hid
      · cases hstored
        rw [hclosed] at hopen'
        cases hopen'
      · exact h.releasable id stored hstored hopen'
    · simp only
      rw [(releaseOpenBalance_locks (h.releasable orderId order hget hopen) hopen hrelease c).1, h.locked c,
        InsertionMap.total_set, hkey, hget, lockShare_closed hclosed]
      simp only [Option.map_some, Option.getD_some]
      ring

/-- what is locked is never negative -/
theorem Sound.locked_nonneg (h : Sound initialLocked broker) (hinitial : ∀ c, 0 ≤ initialLocked c) (c : String) :
    0 ≤ lockedOf broker.balancesByCurrency c := by
  rw [h.locked c]
  refine add_nonneg (hinitial c) (List.sum_nonneg fun share hshare => ?_)
  obtain ⟨⟨id, order⟩, hmem, rfl⟩ := List.mem_map.1 hshare
  exact lockShare_nonneg (h.releasable id order (broker.ordersById.mem_iff_get.1 hmem)) c

/-- a submission that throws or is rejected touches no balance and no existing order -/
theorem Sound.rejected_frame (h : Sound initialLocked broker) (hintent : PositiveIntent submission.intent)
    {now : MarketTimestamp}
    (hrejected : (∃ e, (broker.submitOrder submission now).2 = .error e) ∨
      ∃ order, (broker.submitOrder submission now).2 = .ok order ∧ order.status = .rejected) :
    (broker.submitOrder submission now).1.balancesByCurrency = broker.balancesByCurrency ∧
      ∀ id order, broker.ordersById.get id = some order →
        (broker.submitOrder submission now).1.ordersById.get id = some order := by
  rcases submitOrder_cases broker submission now with
    hsame | ⟨-, hthrown⟩ | ⟨fingerprint, balances, order, hok, -, -, hfilled, hstored⟩
  · rw [hsame]
    exact ⟨rfl, fun _ _ hget => hget⟩
  · rw [hthrown]
    exact ⟨rfl, fun _ _ hget => hget⟩
  · have hstatus : order.status = .rejected := by
      rcases hrejected with ⟨e, he⟩ | ⟨order', hok', hstatus⟩
      · rw [hok] at he
        cases he
      · rw [hok] at hok'
        cases hok'
        exact hstatus
    rw [hstored]
    refine ⟨hfilled.rejected_balances h.books hintent hstatus, fun id existing hget => ?_⟩
    have hne : order.brokerOrderId ≠ id := by
      rintro rfl
      rw [hfilled.brokerOrderId_eq, h.fresh] at hget
      cases hget
    exact (InsertionMap.get_set_ne _ _ hne).trans hget

omit [Host] in
/-- recording keeps what holds of all recorded snapshots -/
theorem recordOrderbookSnapshot_forall {P : OrderbookEvent → Prop}
    {orderbooks : InsertionMap String (List OrderbookEvent)} {snapshot : OrderbookEvent} (hsnapshot : P snapshot)
    (h : ∀ key snapshots, orderbooks.get key = some snapshots → ∀ s ∈ snapshots, P s) :
    ∀ key snapshots, (recordOrderbookSnapshot orderbooks snapshot).1.get key = some snapshots → ∀ s ∈ snapshots, P s := by
  have hpushed : ∀ s ∈ (orderbooks.get (createOrderbookKey snapshot.exchangeId snapshot.market)).getD [] ++ [snapshot],
      P s := by
    intro s hs
    rw [List.mem_append, List.mem_singleton] at hs
    rcases hs with hs | rfl
    · cases hget : orderbooks.get (createOrderbookKey snapshot.exchangeId snapshot.market) with
      | none => simp [hget] at hs
      | some snapshots =>
        rw [hget] at hs
        exact h _ _ hget s hs
    · exact hsnapshot
  intro key snapshots hget
  unfold recordOrderbookSnapshot at hget
  simp only at hget
  split_ifs at hget
  · rw [InsertionMap.get_set] at hget
    split_ifs at hget
    · cases hget
      exact hpushed
    · exact h key snapshots hget
  · split at hget
    · rw [InsertionMap.get_set] at hget
      split_ifs at hget
      · cases hget
        exact hpushed
      · exact h key snapshots hget
    · rw [InsertionMap.get_set] at hget
      split_ifs at hget
      · cases hget
        exact fun s hs => hpushed s (mem_stableSort.1 hs)
      · exact h key snapshots hget

omit [Host] in
theorem recordOrderbookSnapshots_forall {P : OrderbookEvent → Prop} {snapshots : List OrderbookEvent}
    (hsnapshots : ∀ snapshot ∈ snapshots, P snapshot) {orderbooks : InsertionMap String (List OrderbookEvent)}
    (h : ∀ key recorded, orderbooks.get key = some recorded → ∀ s ∈ recorded, P s) :
    ∀ key recorded, (recordOrderbookSnapshots orderbooks snapshots).1.get key = some recorded → ∀ s ∈ recorded, P s := by
  induction snapshots generalizing orderbooks with
  | nil => exact h
  | cons snapshot snapshots ih =>
    have hone := recordOrderbookSnapshot_forall (hsnapshots snapshot (by simp)) h
    unfold recordOrderbookSnapshots
    split
    · rename_i recorded e heq
      rw [heq] at hone
      exact hone
    · rename_i recorded heq
      rw [heq] at hone
      exact ih (fun s hs => hsnapshots s (by simp [hs])) hone

theorem Sound.step (h : Sound initialLocked broker) {call : PaperBrokerCall} (hcall : call.Admitted) :
    Sound initialLocked (broker.step call) := by
  cases call with
  | submitOrder submission now => exact h.submitOrder hcall now
  | cancelOrder orderId now => exact h.cancelOrder orderId now
  | recordOrderbookSnapshot snapshot => exact { h with books := recordOrderbookSnapshot_forall hcall h.books }
  | replaceOrderbookSnapshots snapshots =>
    exact { h with books := recordOrderbookSnapshots_forall hcall (fun _ _ hget => by cases hget) }

/-- the configuration never changes -/
theorem step_fillOptions (broker : PaperBroker) (call : PaperBrokerCall) :
    (broker.step call).fillOptions = broker.fillOptions := by
  cases call with
  | submitOrder submission now =>
    simp only [PaperBroker.step]
    rcases submitOrder_cases broker submission now with h | ⟨-, h⟩ | ⟨_, _, _, -, -, -, -, h⟩
    all_goals rw [h]
    rfl
  | cancelOrder orderId now =>
    simp only [PaperBroker.step]
    rcases cancelOrder_cases broker orderId now with h | ⟨_, _, _, -, -, -, h⟩
    all_goals rw [h]
  | recordOrderbookSnapshot snapshot => rfl
  | replaceOrderbookSnapshots snapshots => rfl

theorem Solvent.step (h : Solvent broker) (hsound : Sound initialLocked broker) (hfee : FeeInRange broker.fillOptions)
    {call : PaperBrokerCall} (hcall : call.Admitted) : Solvent (broker.step call) := by
  cases call with
  | submitOrder submission now =>
    simp only [PaperBroker.step]
    rcases submitOrder_cases broker submission now with
      hsame | ⟨-, hthrown⟩ | ⟨fingerprint, balances, order, -, -, -, hfilled, hstored⟩
    · rw [hsame]
      exact h
    · rw [hthrown]
      exact ⟨h.available, h.totals⟩
    · rw [hstored]
      exact ⟨hfilled.available hsound.books hfee hcall h.available, hfilled.totals h.totals⟩
  | cancelOrder orderId now =>
    simp only [PaperBroker.step]
    rcases cancelOrder_cases broker orderId now with
      hsame | ⟨order, balances, mutation, hget, hopen, hrelease, hcanceled⟩
    · rw [hsame]
      exact h
    · rw [hcanceled]
      have hreleasable := hsound.releasable orderId order hget hopen
      refine ⟨fun c => ?_, releaseOpenBalance_totals h.totals hrelease⟩
      simp only
      rw [(releaseOpenBalance_locks hreleasable hopen hrelease c).2]
      exact add_nonneg (h.available c) (lockShare_nonneg (fun _ => hreleasable) c)
  | recordOrderbookSnapshot snapshot => exact ⟨h.available, h.totals⟩
  | replaceOrderbookSnapshots snapshots => exact ⟨h.available, h.totals⟩

/-! ## The constructor -/

variable {options : PaperBrokerOptions} {initializedAt : MarketTimestamp} {initial : PaperBroker}

theorem normalizeInitialBalance_spec {input : PaperBrokerBalanceInput} {balance : BrokerBalance}
    (h : normalizeInitialBalance input initializedAt = .ok balance) :
    Host.valueOf input.available = some balance.available ∧ Host.valueOf (input.locked.getD "0") = some balance.locked ∧
      (input.total = none → balance.total = balance.available + balance.locked) := by
  obtain ⟨available, havailable, h⟩ := bind_eq_ok.1 h
  obtain ⟨locked, hlocked, h⟩ := bind_eq_ok.1 h
  obtain ⟨total, htotal, h⟩ := bind_eq_ok.1 h
  obtain rfl := pure_eq_ok.1 h
  rw [parseFinancialDecimal_eq_ok] at havailable hlocked
  refine ⟨havailable, hlocked, fun hnone => ?_⟩
  rw [hnone] at htotal
  exact (pure_eq_ok.1 htotal).symm

/-- every balance comes from an input of its currency, and every input's currency has one -/
theorem create_balances (h : PaperBroker.create options initializedAt = .ok initial) (c : String) :
    (initial.balancesByCurrency.get c = none ∧
      ∀ input ∈ options.initialBalances, normalizeCurrency input.currency ≠ c) ∨
    ∃ input ∈ options.initialBalances, normalizeCurrency input.currency = c ∧
      ∃ balance, normalizeInitialBalance input initializedAt = .ok balance ∧
        initial.balancesByCurrency.get c = some balance := by
  obtain ⟨balances, hbalances, h⟩ := bind_eq_ok.1 h
  obtain ⟨_, -, h⟩ := bind_eq_ok.1 h
  obtain rfl := pure_eq_ok.1 h
  refine foldlM_history (fun visited balances =>
    (balances.get c = none ∧ ∀ input ∈ visited, normalizeCurrency input.currency ≠ c) ∨
    ∃ input ∈ visited, normalizeCurrency input.currency = c ∧
      ∃ balance, normalizeInitialBalance input initializedAt = .ok balance ∧ balances.get c = some balance)
    (Or.inl ⟨rfl, by simp⟩) ?_ hbalances
  intro visited input before after hbefore hstep
  obtain ⟨balance, hbalance, hset⟩ := bind_eq_ok.1 hstep
  obtain rfl := pure_eq_ok.1 hset
  by_cases hc : normalizeCurrency input.currency = c
  · exact Or.inr ⟨input, by simp, hc, balance, hbalance, by rw [hc, InsertionMap.get_set_self]⟩
  · rw [InsertionMap.get_set_ne _ _ hc]
    rcases hbefore with ⟨hnone, hvisited⟩ | ⟨earlier, hmem, hcurrency, hfound⟩
    · refine Or.inl ⟨hnone, fun other hother => ?_⟩
      rw [List.mem_append, List.mem_singleton] at hother
      rcases hother with hother | rfl
      · exact hvisited other hother
      · exact hc
    · exact Or.inr ⟨earlier, by simp [hmem], hcurrency, hfound⟩

omit [Host] in
/-- with distinct keys the first match is the only one -/
theorem find?_eq_of_nodup {α κ : Type*} [DecidableEq κ] {key : α → κ} {xs : List α} (hn : (xs.map key).Nodup) {x : α}
    (hx : x ∈ xs) {k : κ} (hk : key x = k) : xs.find? (fun y => key y = k) = some x := by
  induction xs with
  | nil => cases hx
  | cons y ys ih =>
    rw [List.map_cons, List.nodup_cons] at hn
    rcases List.mem_cons.1 hx with rfl | hmem
    · simp [hk]
    · have hne : key y ≠ k := fun hy => hn.1 (List.mem_map.2 ⟨x, hmem, hk.trans hy.symm⟩)
      rw [List.find?_cons_of_neg (by simpa using hne)]
      exact ih hn.2 hmem

theorem create_locked (hoptions : options.Admitted) (h : PaperBroker.create options initializedAt = .ok initial)
    (c : String) : lockedOf initial.balancesByCurrency c = options.initialLocked c := by
  unfold lockedOf PaperBrokerOptions.initialLocked
  rcases create_balances h c with ⟨hnone, hall⟩ | ⟨input, hmem, hcurrency, balance, hbalance, hget⟩
  · rw [hnone, List.find?_eq_none.2 (by simpa using hall)]
    rfl
  · rw [hget, find?_eq_of_nodup hoptions.currencies hmem hcurrency]
    simp [(normalizeInitialBalance_spec hbalance).2.1]

theorem create_sound (hoptions : options.Admitted) (h : PaperBroker.create options initializedAt = .ok initial) :
    Sound options.initialLocked initial := by
  have hlocked := create_locked hoptions h
  obtain ⟨balances, -, h⟩ := bind_eq_ok.1 h
  obtain ⟨_, -, h⟩ := bind_eq_ok.1 h
  obtain rfl := pure_eq_ok.1 h
  refine ⟨fun _ _ hget => (by cases hget), fun _ _ hget => (by cases hget), ?_, fun c => ?_⟩
  · exact recordOrderbookSnapshots_forall hoptions.sizes (fun _ _ hget => by cases hget)
  · rw [hlocked c]
    simp

theorem create_solvent (hinputs : ∀ input ∈ options.initialBalances, input.Nonneg)
    (h : PaperBroker.create options initializedAt = .ok initial) : Solvent initial := by
  refine ⟨fun c => ?_, fun c balance hget => ?_⟩
  · unfold availableOf
    rcases create_balances h c with ⟨hnone, -⟩ | ⟨input, hmem, -, balance, hbalance, hget⟩
    · simp [hnone]
    · rw [hget]
      exact (hinputs input hmem).available _ (normalizeInitialBalance_spec hbalance).1
  · rcases create_balances h c with ⟨hnone, -⟩ | ⟨input, hmem, -, balance', hbalance, hget'⟩
    · rw [hnone] at hget
      cases hget
    · cases hget.symm.trans hget'
      exact (normalizeInitialBalance_spec hbalance).2.2 (hinputs input hmem).total

theorem initialLocked_nonneg (hinputs : ∀ input ∈ options.initialBalances, input.Nonneg) (c : String) :
    0 ≤ options.initialLocked c := by
  unfold PaperBrokerOptions.initialLocked
  cases hfind : options.initialBalances.find? (fun input => normalizeCurrency input.currency = c) with
  | none => simp
  | some input =>
    simp only [Option.bind_some]
    cases hvalue : Host.valueOf (input.locked.getD "0") with
    | none => simp
    | some q => exact (hinputs input (List.mem_of_find?_eq_some hfind)).locked q hvalue

theorem create_fillOptions (h : PaperBroker.create options initializedAt = .ok initial) :
    initial.fillOptions = options.fillOptions := by
  obtain ⟨balances, -, h⟩ := bind_eq_ok.1 h
  obtain ⟨_, -, h⟩ := bind_eq_ok.1 h
  obtain rfl := pure_eq_ok.1 h
  rfl

/-! ## Every reachable state -/

variable {calls : List PaperBrokerCall}

theorem Sound.run (h : Sound initialLocked initial) (hcalls : ∀ call ∈ calls, call.Admitted) :
    Sound initialLocked (initial.run calls) := by
  induction calls generalizing initial with
  | nil => exact h
  | cons call calls ih => exact ih (h.step (hcalls call (by simp))) (fun later hlater => hcalls later (by simp [hlater]))

theorem Solvent.run (h : Solvent initial) (hsound : Sound initialLocked initial) (hfee : FeeInRange initial.fillOptions)
    (hcalls : ∀ call ∈ calls, call.Admitted) : Solvent (initial.run calls) := by
  induction calls generalizing initial with
  | nil => exact h
  | cons call calls ih =>
    have hcall := hcalls call (by simp)
    exact ih (h.step hsound hfee hcall) (hsound.step hcall) (by rw [step_fillOptions]; exact hfee)
      (fun later hlater => hcalls later (by simp [hlater]))

/-- **The lock invariant.** Whatever the run, a currency's locked amount is the initial one plus what the open BUY orders
quoted in it and the open SELL orders based in it still hold. -/
theorem locked_is_open_orders (hoptions : options.Admitted)
    (hcreate : PaperBroker.create options initializedAt = .ok initial) (hcalls : ∀ call ∈ calls, call.Admitted)
    (c : String) :
    lockedOf (initial.run calls).balancesByCurrency c
      = options.initialLocked c + (initial.run calls).openBuyLock c + (initial.run calls).openSellLock c := by
  have hsound := (create_sound hoptions hcreate).run hcalls
  rw [hsound.locked c, add_assoc, openLocks_eq_total]

/-- **Solvency.** Whatever the run, no amount is negative and totals add up; and a submission that throws or comes back
rejected leaves every balance and every existing order as it was. -/
theorem always_solvent (hoptions : options.Admitted) (hinputs : ∀ input ∈ options.initialBalances, input.Nonneg)
    (hcreate : PaperBroker.create options initializedAt = .ok initial) (hcalls : ∀ call ∈ calls, call.Admitted) :
    (∀ c balance, (initial.run calls).balancesByCurrency.get c = some balance →
      0 ≤ balance.available ∧ 0 ≤ balance.locked ∧ balance.total = balance.available + balance.locked) ∧
    ∀ submission now, PositiveIntent submission.intent →
      ((∃ e, ((initial.run calls).submitOrder submission now).2 = .error e) ∨
        ∃ order, ((initial.run calls).submitOrder submission now).2 = .ok order ∧ order.status = .rejected) →
      ((initial.run calls).submitOrder submission now).1.balancesByCurrency = (initial.run calls).balancesByCurrency ∧
      ∀ id order, (initial.run calls).ordersById.get id = some order →
        ((initial.run calls).submitOrder submission now).1.ordersById.get id = some order := by
  have hfee : FeeInRange initial.fillOptions := create_fillOptions hcreate ▸ hoptions.fee
  have hsound := (create_sound hoptions hcreate).run hcalls
  have hsolvent := (create_solvent hinputs hcreate).run (create_sound hoptions hcreate) hfee hcalls
  refine ⟨fun c balance hget => ?_, fun submission now hintent hrejected => ?_⟩
  · have havailable := hsolvent.available c
    have hlocked := hsound.locked_nonneg (initialLocked_nonneg hinputs) c
    simp only [availableOf, lockedOf, hget, Option.map_some, Option.getD_some] at havailable hlocked
    exact ⟨havailable, hlocked, hsolvent.totals c balance hget⟩
  · exact hsound.rejected_frame hintent hrejected

end Host

/-! ## A run -/

namespace Example

def ask : OrderbookEvent where
  exchangeId := "upbit_krw_spot"
  market := "KRW-BTC"
  asks := [⟨"100", "1"⟩]
  bids := []
  receivedAt := .nanos 0

def options : PaperBrokerOptions where
  exchangeId := "upbit_krw_spot"
  initialBalances := [⟨" krw", "1000", some "5", none, none⟩]
  orderbookSnapshots := [ask]
  fillOptions := ⟨none, none, none, some "100"⟩
  brokerOrderIdPrefix := none

/-- buys 3 at 100 where 1 is offered -/
def submission (idempotencyKey requestedQuantity : String) : OrderSubmission where
  intent :=
    { exchangeId := "upbit_krw_spot"
      market := "KRW-BTC"
      strategyId := "s"
      side := .buy
      requestedQuantity := requestedQuantity
      requestedNotional := "300"
      idempotencyKey := idempotencyKey
      terms := .limit "100" false none }
  submittedAt := .nanos 1

def calls : List PaperBrokerCall :=
  [.submitOrder (submission "k1" "3") (.nanos 1), .submitOrder (submission "k2" "50") (.nanos 2)]

theorem ask_sizes : OrderbookEvent.SizesNonneg ask := by
  refine ⟨fun level hlevel => ?_, fun level hlevel => by cases hlevel⟩
  obtain rfl := List.mem_singleton.1 hlevel
  exact (by decide +kernel : ∀ q ∈ Host.valueOf "1", 0 ≤ q)

theorem options_admitted : options.Admitted where
  currencies := by decide +kernel
  sizes snapshot hsnapshot := by
    obtain rfl := List.mem_singleton.1 hsnapshot
    exact ask_sizes
  fee := (by decide +kernel : ∀ q ∈ Host.valueOf "100", 0 ≤ q ∧ q ≤ 10000)

theorem submission_positive (idempotencyKey : String) {requestedQuantity : String}
    (h : ∀ q ∈ Host.valueOf requestedQuantity, 0 < q) : PositiveIntent (submission idempotencyKey requestedQuantity).intent where
  quantity := h
  price price p hprice := by
    cases hprice
    exact (by decide +kernel : ∀ q ∈ Host.valueOf "100", 0 < q) p

theorem calls_admitted : ∀ call ∈ calls, call.Admitted := by
  intro call hcall
  simp only [calls, List.mem_cons, List.not_mem_nil, or_false] at hcall
  rcases hcall with rfl | rfl
  · exact submission_positive "k1" (by decide +kernel)
  · exact submission_positive "k2" (by decide +kernel)

theorem balances_nonneg : ∀ input ∈ options.initialBalances, input.Nonneg := by
  intro input hinput
  obtain rfl := List.mem_singleton.1 hinput
  exact ⟨(by decide +kernel : ∀ q ∈ Host.valueOf "1000", 0 ≤ q), (by decide +kernel : ∀ q ∈ Host.valueOf "5", 0 ≤ q), rfl⟩

end Example

/-- 1 of 3 is filled: the 5 that were locked, and 2 at 100 -/
theorem locked_after_partial_fill :
    ∃ broker, PaperBroker.create Example.options (.nanos 0) = .ok broker ∧
      lockedOf (broker.run Example.calls).balancesByCurrency "KRW"
        = Example.options.initialLocked "KRW" + (broker.run Example.calls).openBuyLock "KRW"
          + (broker.run Example.calls).openSellLock "KRW" ∧
      lockedOf (broker.run Example.calls).balancesByCurrency "KRW" = 205 := by
  have hrun : ((PaperBroker.create Example.options (.nanos 0)).toOption.map
      (fun broker => lockedOf (broker.run Example.calls).balancesByCurrency "KRW")) = some 205 := by decide +kernel
  obtain ⟨broker, hbroker⟩ := exists_ok (x := PaperBroker.create Example.options (.nanos 0)) (by decide +kernel)
  refine ⟨broker, hbroker, locked_is_open_orders Example.options_admitted hbroker Example.calls_admitted "KRW", ?_⟩
  rw [hbroker] at hrun
  exact Option.some.inj hrun

/-- an order for more than the balance covers is rejected, and nothing moves -/
theorem overdraft_is_rejected :
    ∃ broker, PaperBroker.create Example.options (.nanos 0) = .ok broker ∧
      (∀ c balance, (broker.run Example.calls).balancesByCurrency.get c = some balance →
        0 ≤ balance.available ∧ 0 ≤ balance.locked ∧ balance.total = balance.available + balance.locked) ∧
      ((broker.run Example.calls).submitOrder (Example.submission "k3" "50") (.nanos 3)).1.balancesByCurrency
        = (broker.run Example.calls).balancesByCurrency := by
  have hrun : ((PaperBroker.create Example.options (.nanos 0)).toOption.bind (fun broker =>
      ((broker.run Example.calls).submitOrder (Example.submission "k3" "50") (.nanos 3)).2.toOption.map
        BrokerOrder.status)) = some .rejected := by decide +kernel
  obtain ⟨broker, hbroker⟩ := exists_ok (x := PaperBroker.create Example.options (.nanos 0)) (by decide +kernel)
  have hsolvent := always_solvent Example.options_admitted Example.balances_nonneg hbroker Example.calls_admitted
  refine ⟨broker, hbroker, hsolvent.1,
    (hsolvent.2 (Example.submission "k3" "50") (.nanos 3) (Example.submission_positive "k3" (by decide +kernel)) ?_).1⟩
  rw [hbroker] at hrun
  cases hsubmit : ((broker.run Example.calls).submitOrder (Example.submission "k3" "50") (.nanos 3)).2 with
  | error e => exact Or.inl ⟨e, rfl⟩
  | ok order =>
    simp only [Except.toOption, Option.bind_some, hsubmit, Option.map_some, Option.some.injEq] at hrun
    exact Or.inr ⟨order, rfl, hrun⟩

end SeeMirai.Paper
