/-
What a clean balance check says (application/live-reconcile/balance-policy.ts): both snapshots are there and agree, and
the orders explain what the exchange has locked.

The check leaves out the orders it takes for closed. Its list of closed statuses is shorter than that of the transition
table: FILLED and MANUAL_REVIEW_REQUIRED are missing.

Results:
- `computeExpectedLocked_reads`: what the fold over the orders has stored under each currency.
- `checkBalanceLock_ok_iff`: the check says OK exactly where the snapshots match and the orders it counts explain the locks.
- `balance_lock_exact_iff`: where this is what the orders without a final status explain.
-/
import SeeMirai.Reconcile.TradeEvents

namespace SeeMirai.Reconcile

open Fallible

/-! ## What a clean check says -/

/-- a status that no transition leaves -/
def isFinalStatus (status : OrderLifecycleStatus) : Bool := (orderStateTransitions status).isEmpty

/-- the currency in which an order on a KRW market locks its amount -/
def LocksIn (order : ReconcileLocalOrderSnapshot) (currency : String) : Prop :=
  (order.side = .buy ∧ currency = "KRW") ∨ (order.side = .sell ∧ order.market = "KRW-" ++ currency)

instance (order : ReconcileLocalOrderSnapshot) (currency : String) : Decidable (LocksIn order currency) :=
  inferInstanceAs (Decidable (_ ∨ _))

/-- `KRW-` and a base currency without a dash -/
def OnKrwMarket (order : ReconcileLocalOrderSnapshot) : Prop :=
  ∃ base, order.market = "KRW-" ++ base ∧ '-' ∉ base.toList

section Spec

variable [Host]

/-- a BUY locks its remaining amount and fee, a SELL its remaining quantity; a BUY without a price locks nothing that is
known -/
def orderLock (order : ReconcileLocalOrderSnapshot) : Option ℚ :=
  match order.side, order.requestedPrice with
  | .buy, none => none
  | .buy, some requestedPrice => do
    let remainingFee ← (getBuyOrderRemainingFee order).toOption
    let quantity ← Host.valueOf order.remainingQuantity
    let price ← Host.valueOf requestedPrice
    let fee ← Host.valueOf remainingFee
    some (quantity * price + fee)
  | .sell, _ => Host.valueOf order.remainingQuantity

/-- what the orders lock in a currency, of those that count as open -/
def lockedSum (isOpen : OrderLifecycleStatus → Bool) (orders : List ReconcileLocalOrderSnapshot)
    (currency : String) : ℚ :=
  ((orders.filter fun order => isOpen order.status ∧ LocksIn order currency).map fun order =>
    (orderLock order).getD 0).sum

/-- a currency without a row has nothing locked -/
def exchangeLocked (exchangeRows : List BrokerBalance) (currency : String) : Option ℚ :=
  match exchangeRows.find? (·.currency = currency) with
  | none => some 0
  | some balance => Host.valueOf balance.locked

/-- the open orders explain the locks: each BUY has a price, each amount is a number, and each currency's lock is their
sum -/
structure Explained (isOpen : OrderLifecycleStatus → Bool) (orders : List ReconcileLocalOrderSnapshot)
    (exchangeRows : List BrokerBalance) : Prop where
  priced : ∀ order ∈ orders, isOpen order.status = true → order.side = .buy → order.requestedPrice ≠ none
  readable : ∀ order ∈ orders, isOpen order.status = true → orderLock order ≠ none
  locked : ∀ currency, exchangeLocked exchangeRows currency = some (lockedSum isOpen orders currency)

/-- two texts of one number -/
def SameAmount (left right : String) : Prop := ∃ q, Host.valueOf left = some q ∧ Host.valueOf right = some q

/-- both snapshots have rows, cover the same currencies, and agree in each -/
structure SnapshotsMatch (localRows exchangeRows : List BrokerBalance) : Prop where
  localRows_nonempty : localRows ≠ []
  exchangeRows_nonempty : exchangeRows ≠ []
  covered : ∀ currency, (∃ balance ∈ localRows, balance.currency = currency) ↔
    ∃ balance ∈ exchangeRows, balance.currency = currency
  available : ∀ loc ∈ localRows, ∀ exchange ∈ exchangeRows, loc.currency = exchange.currency →
    SameAmount loc.available exchange.available
  locked : ∀ loc ∈ localRows, ∀ exchange ∈ exchangeRows, loc.currency = exchange.currency →
    SameAmount loc.locked exchange.locked
  total : ∀ loc ∈ localRows, ∀ exchange ∈ exchangeRows, loc.currency = exchange.currency →
    SameAmount loc.total exchange.total

/-! ## One order -/

theorem decimalOperand_eq_some {s : String} {q : ℚ} : decimalOperand s = .ok (some q) ↔ Host.valueOf s = some q := by
  unfold decimalOperand Host.valueOf
  cases Host.decimal s with
  | invalid => exact iff_of_false (fun h => nomatch h) (fun h => nomatch h)
  | nonFinite => exact iff_of_false (fun h => nomatch h) (fun h => nomatch h)
  | finite d => simp [pure, Except.pure]

theorem decimalTextsEqual_true {left right : String} : decimalTextsEqual left right = .ok true ↔
    SameAmount left right := by
  unfold decimalTextsEqual
  constructor
  · intro h
    obtain ⟨a, ha, h⟩ := bind_eq_ok.1 h
    obtain ⟨b, hb, h⟩ := bind_eq_ok.1 h
    have hsame : b = some a := by simpa using pure_eq_ok.1 h
    subst hsame
    exact ⟨a, parseFinancialDecimal_eq_ok.1 ha, decimalOperand_eq_some.1 hb⟩
  · intro h
    obtain ⟨q, hleft, hright⟩ := h
    rw [parseFinancialDecimal_eq_ok.2 hleft, ok_bind, decimalOperand_eq_some.2 hright, ok_bind]
    simp [pure, Except.pure]

/-- the amount that the fold adds for a BUY -/
theorem buyOrderLock_eq_some {order : ReconcileLocalOrderSnapshot} (hside : order.side = .buy) {price : String}
    (hprice : order.requestedPrice = some price) {amount : ℚ} :
    buyOrderLock order price = .ok (some amount) ↔ orderLock order = some amount := by
  unfold buyOrderLock orderLock
  rw [hside, hprice]
  dsimp only
  cases getBuyOrderRemainingFee order with
  | error e => exact iff_of_false (fun h => nomatch h) (fun h => nomatch h)
  | ok fee =>
    rw [ok_bind]
    constructor
    · intro h
      obtain ⟨quantity, hquantity, h⟩ := bind_eq_ok.1 h
      obtain ⟨price', hprice', h⟩ := bind_eq_ok.1 h
      obtain ⟨fee', hfee', h⟩ := bind_eq_ok.1 h
      have hamount := pure_eq_ok.1 h
      obtain ⟨p, hp, hrest⟩ := Option.bind_eq_some_iff.1 hamount
      obtain ⟨f, hf, hlast⟩ := Option.bind_eq_some_iff.1 hrest
      rw [hp] at hprice'
      rw [hf] at hfee'
      simp [Except.toOption, parseFinancialDecimal_eq_ok.1 hquantity, decimalOperand_eq_some.1 hprice',
        decimalOperand_eq_some.1 hfee', Option.some.inj hlast]
    · intro h
      simp only [Except.toOption, Option.bind_eq_bind, Option.bind_some, Option.bind_eq_some_iff,
        Option.some.injEq] at h
      obtain ⟨quantity, hquantity, p, hp, f, hf, rfl⟩ := h
      rw [parseFinancialDecimal_eq_ok.2 hquantity, ok_bind, decimalOperand_eq_some.2 hp, ok_bind,
        decimalOperand_eq_some.2 hf, ok_bind]
      rfl

/-! ## The fold over the orders -/

omit [Host] in
/-- the currency under which the fold stores an order -/
def lockCurrency (order : ReconcileLocalOrderSnapshot) : String :=
  match order.side with
  | .buy => "KRW"
  | .sell => extractCryptoCurrency order.market

omit [Host] in
theorem locksIn_iff {order : ReconcileLocalOrderSnapshot} (h : OnKrwMarket order) {currency : String} :
    LocksIn order currency ↔ lockCurrency order = currency := by
  obtain ⟨base, hmarket, hbase⟩ := h
  unfold LocksIn lockCurrency
  cases hside : order.side with
  | buy => simp [eq_comm]
  | sell =>
    have hextract : extractCryptoCurrency ("KRW-" ++ base) = base := by
      have hlist : ("KRW-" ++ base).toList.reverse = base.toList.reverse ++ ('-' :: ['W', 'R', 'K']) := by
        rw [String.toList_append, List.reverse_append]
        rfl
      have htake : (base.toList.reverse ++ ('-' :: ['W', 'R', 'K'])).takeWhile (· ≠ '-') = base.toList.reverse := by
        rw [List.takeWhile_append_of_pos fun c hc => ?_]
        · simp
        · simp only [ne_eq, decide_eq_true_eq]
          rintro rfl
          exact hbase (List.mem_reverse.1 hc)
      unfold extractCryptoCurrency
      rw [hlist, htake, List.reverse_reverse, String.ofList_toList]
    simp only [reduceCtorEq, false_and, true_and, false_or, hmarket, hextract]
    constructor
    · intro h
      have hlist := congrArg String.toList h
      simp only [String.toList_append] at hlist
      exact String.toList_inj.1 (List.append_cancel_left hlist)
    · rintro rfl
      rfl

omit [Host] in
def isCounted (status : OrderLifecycleStatus) : Bool := !isUnlockedStatus status

omit [Host] in
/-- a BUY that the check counts and that has no price -/
def isPriceMissing (order : ReconcileLocalOrderSnapshot) : Bool :=
  isCounted order.status && order.side = .buy && order.requestedPrice = none

/-- what the fold has added up in a currency -/
def storedSum (visited : List ReconcileLocalOrderSnapshot) (currency : String) : ℚ :=
  ((visited.filter fun order => isCounted order.status ∧ lockCurrency order = currency).map fun order =>
    (orderLock order).getD 0).sum

/-- what the fold has stored under a currency: nothing before an order locks in it, and else the sum, or an amount that
is no number -/
inductive Stored (visited : List ReconcileLocalOrderSnapshot) (currency : String) : Option (Option ℚ) → Prop where
  | absent (h : ∀ order ∈ visited, isCounted order.status = true → lockCurrency order ≠ currency) :
      Stored visited currency none
  | unreadable : Stored visited currency (some none)
  | amount (h : ∀ order ∈ visited, isCounted order.status = true → lockCurrency order = currency →
        isPriceMissing order = false → orderLock order ≠ none) :
      Stored visited currency (some (some (storedSum visited currency)))

/-- after some orders -/
structure LocksRead (visited : List ReconcileLocalOrderSnapshot) (expected : ExpectedLocked) : Prop where
  missing : expected.priceMissingBuyOrders = visited.filter isPriceMissing
  stored : ∀ currency, Stored visited currency (expected.lockedByCurrency.get currency)

theorem storedSum_snoc (visited : List ReconcileLocalOrderSnapshot) (order : ReconcileLocalOrderSnapshot)
    (currency : String) : storedSum (visited ++ [order]) currency = storedSum visited currency +
      if isCounted order.status ∧ lockCurrency order = currency then (orderLock order).getD 0 else 0 := by
  unfold storedSum
  rw [List.filter_append, List.map_append, List.sum_append]
  split_ifs with h
  · simp [h]
  · have hnone : ([order].filter fun order => decide (isCounted order.status ∧ lockCurrency order = currency)) = [] :=
    by
      rw [List.filter_singleton]
      simp only [h, decide_false]
      rfl
    rw [hnone]
    simp

theorem storedSum_eq_zero {visited : List ReconcileLocalOrderSnapshot} {currency : String}
    (h : ∀ order ∈ visited, isCounted order.status = true → lockCurrency order ≠ currency) :
    storedSum visited currency = 0 := by
  have hnone : (visited.filter fun order => decide (isCounted order.status ∧ lockCurrency order = currency)) = [] := by
    refine List.filter_eq_nil_iff.2 fun order horder => ?_
    simpa using h order horder
  rw [storedSum, hnone]
  rfl

variable {visited : List ReconcileLocalOrderSnapshot} {order : ReconcileLocalOrderSnapshot} {currency : String}

/-- the amount the next order of the currency is added to -/
theorem Stored.current {value : Option (Option ℚ)} (h : Stored visited currency value) {current : ℚ}
    (hcurrent : parseAmount (value.getD (some 0)) = .ok current) : current = storedSum visited currency ∧
      ∀ order ∈ visited, isCounted order.status = true → lockCurrency order = currency →
        isPriceMissing order = false → orderLock order ≠ none := by
  cases h with
  | absent habsent =>
    have hzero : current = 0 := (pure_eq_ok.1 hcurrent).symm
    exact ⟨hzero.trans (storedSum_eq_zero habsent).symm, fun order horder hcounted hsame =>
      absurd hsame (habsent order horder hcounted)⟩
  | unreadable => cases hcurrent
  | amount hread => exact ⟨(pure_eq_ok.1 hcurrent).symm, hread⟩

/-- an order of another currency, or one that is not counted -/
theorem Stored.skip {value : Option (Option ℚ)} (h : Stored visited currency value)
    (hskip : ¬ (isCounted order.status = true ∧ lockCurrency order = currency)) :
    Stored (visited ++ [order]) currency value := by
  cases h with
  | absent habsent =>
    refine .absent fun other hother hcounted hsame => ?_
    rcases List.mem_append.1 hother with hin | hin
    · exact habsent other hin hcounted hsame
    · rw [List.mem_singleton.1 hin] at hcounted hsame
      exact hskip ⟨hcounted, hsame⟩
  | unreadable => exact .unreadable
  | amount hread =>
    have hsum := storedSum_snoc visited order currency
    rw [if_neg hskip, add_zero] at hsum
    rw [← hsum]
    refine .amount fun other hother hcounted hsame => ?_
    rcases List.mem_append.1 hother with hin | hin
    · exact hread other hin hcounted hsame
    · rw [List.mem_singleton.1 hin] at hcounted hsame
      exact absurd ⟨hcounted, hsame⟩ hskip

/-- an order of the currency adds its amount -/
theorem Stored.add {value : Option (Option ℚ)} (h : Stored visited currency value)
    (hcounted : isCounted order.status = true) (hsame : lockCurrency order = currency) {current : ℚ}
    (hcurrent : parseAmount (value.getD (some 0)) = .ok current) {amount : Option ℚ}
    (hamount : ∀ q, amount = some q → orderLock order = some q) :
    Stored (visited ++ [order]) currency (some (amount.map (current + ·))) := by
  obtain ⟨rfl, hread⟩ := h.current hcurrent
  cases amount with
  | none => exact .unreadable
  | some q =>
    have hlock := hamount q rfl
    have hsum := storedSum_snoc visited order currency
    rw [if_pos ⟨hcounted, hsame⟩, hlock, Option.getD_some] at hsum
    rw [Option.map_some, ← hsum]
    refine .amount fun other hother hcounted' hsame' hpriced => ?_
    rcases List.mem_append.1 hother with hin | hin
    · exact hread other hin hcounted' hsame' hpriced
    · rw [List.mem_singleton.1 hin, hlock]
      simp

/-- a BUY without a price adds nothing, but its currency is there from now on -/
theorem Stored.missing {value : Option (Option ℚ)} (h : Stored visited currency value)
    (hmissing : isPriceMissing order = true) (hlock : orderLock order = none) :
    Stored (visited ++ [order]) currency (if value.isSome then value else some (some 0)) := by
  have hsum : storedSum (visited ++ [order]) currency = storedSum visited currency := by
    rw [storedSum_snoc, hlock]
    simp
  have hrest : (∀ other ∈ visited, isCounted other.status = true → lockCurrency other = currency →
      isPriceMissing other = false → orderLock other ≠ none) →
      Stored (visited ++ [order]) currency (some (some (storedSum visited currency))) := by
    intro hread
    rw [← hsum]
    refine .amount fun other hother hcounted hsame hpriced => ?_
    rcases List.mem_append.1 hother with hin | hin
    · exact hread other hin hcounted hsame hpriced
    · rw [List.mem_singleton.1 hin, hmissing] at hpriced
      cases hpriced
  cases h with
  | absent habsent =>
    have hzero := hrest fun other hother hcounted hsame => absurd hsame (habsent other hother hcounted)
    rw [storedSum_eq_zero habsent] at hzero
    exact hzero
  | unreadable => exact .unreadable
  | amount hread => exact hrest hread

/-- an amount under one currency leaves the others -/
theorem LocksRead.set {expected : ExpectedLocked} (h : LocksRead visited expected) {value : Option ℚ}
    (hstored : Stored (visited ++ [order]) (lockCurrency order) (some value))
    {missing : List ReconcileLocalOrderSnapshot} (hmissing : missing = (visited ++ [order]).filter isPriceMissing) :
    LocksRead (visited ++ [order]) ⟨expected.lockedByCurrency.set (lockCurrency order) value, missing⟩ := by
  refine ⟨hmissing, fun currency => ?_⟩
  rw [InsertionMap.get_set]
  split_ifs with hsame
  · subst hsame
    exact hstored
  · exact (h.stored currency).skip fun hin => hsame hin.2

/-- **One order.** -/
theorem expectOrderLock_reads {expected expected' : ExpectedLocked} (h : LocksRead visited expected)
    (hstep : expectOrderLock expected order = .ok expected') : LocksRead (visited ++ [order]) expected' := by
  unfold expectOrderLock at hstep
  by_cases hunlocked : isUnlockedStatus order.status = true
  · rw [if_pos hunlocked] at hstep
    obtain rfl := pure_eq_ok.1 hstep
    refine ⟨?_, fun currency => (h.stored currency).skip fun hin => ?_⟩
    · rw [h.missing, List.filter_append]
      simp [isPriceMissing, isCounted, hunlocked]
    · simp [isCounted, hunlocked] at hin
  · rw [if_neg hunlocked] at hstep
    have hcounted : isCounted order.status = true := by simpa [isCounted] using hunlocked
    cases hside : order.side with
    | buy =>
      have hcurrency : lockCurrency order = "KRW" := by rw [lockCurrency, hside]
      cases hprice : order.requestedPrice with
      | none =>
        rw [hside, hprice] at hstep
        obtain rfl := pure_eq_ok.1 hstep
        have hmissing : isPriceMissing order = true := by simp [isPriceMissing, hcounted, hside, hprice]
        have hlock : orderLock order = none := by rw [orderLock, hside, hprice]
        refine ⟨?_, fun currency => ?_⟩
        · rw [h.missing, List.filter_append]
          simp [hmissing]
        · by_cases hsame : currency = "KRW"
          · subst hsame
            have hstored := (h.stored "KRW").missing hmissing hlock
            dsimp only
            split_ifs at hstored ⊢ with hthere
            · exact hstored
            · rw [InsertionMap.get_set_self]
              exact hstored
          · have hskip : Stored (visited ++ [order]) currency (expected.lockedByCurrency.get currency) :=
              (h.stored currency).skip fun hin => hsame (hin.2.symm.trans hcurrency)
            dsimp only
            split_ifs
            · exact hskip
            · rw [InsertionMap.get_set_ne _ _ (Ne.symm hsame)]
              exact hskip
      | some price =>
        rw [hside, hprice] at hstep
        obtain ⟨amount, hamount, hstep⟩ := bind_eq_ok.1 hstep
        obtain ⟨locked, hlocked, hstep⟩ := bind_eq_ok.1 hstep
        obtain ⟨current, hcurrent, hlocked⟩ := bind_eq_ok.1 hlocked
        obtain rfl := pure_eq_ok.1 hstep
        obtain rfl := pure_eq_ok.1 hlocked
        rw [← hcurrency]
        refine h.set ((h.stored (lockCurrency order)).add hcounted rfl (hcurrency ▸ hcurrent) fun q hq => ?_) ?_
        · exact (buyOrderLock_eq_some hside hprice).1 (hq ▸ hamount)
        · rw [h.missing, List.filter_append]
          simp [isPriceMissing, hprice]
    | sell =>
      have hcurrency : lockCurrency order = extractCryptoCurrency order.market := by rw [lockCurrency, hside]
      rw [hside] at hstep
      dsimp only at hstep
      obtain ⟨current, hcurrent, hstep⟩ := bind_eq_ok.1 hstep
      obtain ⟨quantity, hquantity, hstep⟩ := bind_eq_ok.1 hstep
      obtain rfl := pure_eq_ok.1 hstep
      rw [← hcurrency]
      refine h.set ((h.stored (lockCurrency order)).add hcounted rfl (hcurrency ▸ hcurrent) fun q hq => ?_) ?_
      · rw [orderLock, hside]
        exact decimalOperand_eq_some.1 (hq ▸ hquantity)
      · rw [h.missing, List.filter_append]
        simp [isPriceMissing, hside]

/-- **All orders.** -/
theorem computeExpectedLocked_reads {orders : List ReconcileLocalOrderSnapshot} {expected : ExpectedLocked}
    (h : computeExpectedLocked orders = .ok expected) : LocksRead orders expected := by
  refine foldlM_history LocksRead ⟨rfl, fun currency => ?_⟩ (fun visited order before after hbefore hstep => ?_) h
  · exact .absent fun _ hin => absurd hin List.not_mem_nil
  · exact expectOrderLock_reads hbefore hstep

/-- the fold returns where every counted order that has to has a readable amount -/
theorem computeExpectedLocked_finite {orders : List ReconcileLocalOrderSnapshot}
    (h : ∀ order ∈ orders, isCounted order.status = true → orderLock order ≠ none) :
    ∃ expected, computeExpectedLocked orders = .ok expected ∧ FiniteLocks expected := by
  refine foldlM_total_keeps FiniteLocks (fun order horder expected hfinite => ?_) fun currency => by simp
  unfold expectOrderLock
  by_cases hunlocked : isUnlockedStatus order.status = true
  · rw [if_pos hunlocked]
    exact ⟨expected, rfl, hfinite⟩
  · rw [if_neg hunlocked]
    obtain ⟨amount, hamount⟩ := Option.ne_none_iff_exists'.1 (h order horder (by simpa [isCounted] using hunlocked))
    cases hside : order.side with
    | buy =>
      cases hprice : order.requestedPrice with
      | none =>
        rw [orderLock, hside, hprice] at hamount
        cases hamount
      | some price =>
        obtain ⟨current, hcurrent⟩ := hfinite.amount "KRW"
        dsimp only
        rw [(buyOrderLock_eq_some hside hprice).2 hamount, ok_bind, addExpectedLock, hcurrent]
        exact ⟨_, rfl, hfinite.set "KRW" (current + amount) _⟩
    | sell =>
      obtain ⟨current, hcurrent⟩ := hfinite.amount (extractCryptoCurrency order.market)
      rw [orderLock, hside] at hamount
      dsimp only
      rw [hcurrent, ok_bind, decimalOperand_eq_some.2 hamount, ok_bind]
      exact ⟨_, rfl, hfinite.set _ (current + amount) _⟩

/-! ## The comparison -/

omit [Host] in
theorem mapM_nothing {α β ε : Type} {xs : List α} {f : α → Except ε (List β)} :
    (∃ ys, xs.mapM f = .ok ys ∧ ys.flatten = []) ↔ ∀ x ∈ xs, f x = .ok [] := by
  induction xs with
  | nil => exact iff_of_true ⟨[], rfl, rfl⟩ fun _ h => absurd h List.not_mem_nil
  | cons x xs ih =>
    rw [List.forall_mem_cons, ← ih]
    constructor
    · intro h
      obtain ⟨ys, hys, hflatten⟩ := h
      rw [List.mapM_cons] at hys
      obtain ⟨y, hy, hys⟩ := bind_eq_ok.1 hys
      obtain ⟨rest, hrest, hys⟩ := bind_eq_ok.1 hys
      obtain rfl := pure_eq_ok.1 hys
      rw [List.flatten_cons, List.append_eq_nil_iff] at hflatten
      exact ⟨hflatten.1 ▸ hy, rest, hrest, hflatten.2⟩
    · intro h
      obtain ⟨hy, rest, hrest, hflatten⟩ := h
      refine ⟨[] :: rest, ?_, by simpa using hflatten⟩
      rw [List.mapM_cons, hy, ok_bind, hrest, ok_bind]
      rfl

omit [Host] in
/-- the index of rows with unique currencies -/
theorem indexByCurrency_get {rows : List BrokerBalance} (h : (rows.map BrokerBalance.currency).Nodup)
    (currency : String) :
    (indexByCurrency rows).get currency = rows.find? (·.currency = currency) := by
  unfold indexByCurrency
  induction rows using List.reverseRecOn with
  | nil => rfl
  | append_singleton rows row ih =>
    rw [List.map_append, List.nodup_append] at h
    rw [List.foldl_append, List.foldl_cons, List.foldl_nil, InsertionMap.get_set, ih h.1, List.find?_append]
    split_ifs with hsame
    · have hnone : rows.find? (fun balance => balance.currency = currency) = none := by
        refine List.find?_eq_none.2 fun balance hbalance => ?_
        simp only [decide_eq_true_eq]
        intro heq
        exact h.2.2 balance.currency (List.mem_map_of_mem hbalance) row.currency (by simp) (heq.trans hsame.symm)
      rw [hnone]
      simp [hsame]
    · simp [hsame]

theorem appendBalanceFieldMismatch_nothing {currency field localValue exchangeValue observedAt : String} :
    appendBalanceFieldMismatch currency field localValue exchangeValue observedAt = .ok [] ↔
      SameAmount localValue exchangeValue := by
  rw [← decimalTextsEqual_true]
  unfold appendBalanceFieldMismatch
  cases decimalTextsEqual localValue exchangeValue with
  | error e => exact iff_of_false (fun h => nomatch h) (fun h => nomatch h)
  | ok equal =>
    rw [ok_bind]
    cases equal with
    | true => exact iff_of_true rfl rfl
    | false => exact iff_of_false (fun h => absurd (pure_eq_ok.1 h) (by simp)) (fun h => nomatch h)

/-- nothing to report of a currency: no row on either side, or two rows that agree -/
theorem balanceSnapshotMismatches_nothing {localByCurrency exchangeByCurrency : InsertionMap String BrokerBalance}
    {observedAt currency : String} :
    balanceSnapshotMismatches localByCurrency exchangeByCurrency observedAt currency = .ok [] ↔
      (localByCurrency.get currency = none ∧ exchangeByCurrency.get currency = none) ∨
        ∃ loc exchange, localByCurrency.get currency = some loc ∧ exchangeByCurrency.get currency = some exchange ∧
          SameAmount loc.available exchange.available ∧ SameAmount loc.locked exchange.locked ∧
          SameAmount loc.total exchange.total := by
  unfold balanceSnapshotMismatches
  cases hloc : localByCurrency.get currency with
  | none =>
    cases hexchange : exchangeByCurrency.get currency with
    | none => exact iff_of_true rfl (Or.inl ⟨rfl, rfl⟩)
    | some exchange =>
      refine iff_of_false (fun h => absurd (pure_eq_ok.1 h) (List.cons_ne_nil _ _)) ?_
      simp
  | some loc =>
    cases hexchange : exchangeByCurrency.get currency with
    | none =>
      refine iff_of_false (fun h => absurd (pure_eq_ok.1 h) (List.cons_ne_nil _ _)) ?_
      simp
    | some exchange =>
      simp only [reduceCtorEq, false_and, false_or, Option.some.injEq, exists_eq_left', exists_and_left]
      constructor
      · intro h
        obtain ⟨available, havailable, h⟩ := bind_eq_ok.1 h
        obtain ⟨locked, hlocked, h⟩ := bind_eq_ok.1 h
        obtain ⟨total, htotal, h⟩ := bind_eq_ok.1 h
        have hnothing := pure_eq_ok.1 h
        rw [List.append_eq_nil_iff, List.append_eq_nil_iff] at hnothing
        obtain ⟨⟨rfl, rfl⟩, rfl⟩ := hnothing
        exact ⟨appendBalanceFieldMismatch_nothing.1 havailable, appendBalanceFieldMismatch_nothing.1 hlocked,
          appendBalanceFieldMismatch_nothing.1 htotal⟩
      · intro h
        rw [appendBalanceFieldMismatch_nothing.2 h.1, ok_bind, appendBalanceFieldMismatch_nothing.2 h.2.1, ok_bind,
          appendBalanceFieldMismatch_nothing.2 h.2.2]
        rfl

omit [Host] in
theorem find_currency {rows : List BrokerBalance} (h : (rows.map BrokerBalance.currency).Nodup) {currency : String}
    {balance : BrokerBalance} :
    rows.find? (·.currency = currency) = some balance ↔ balance ∈ rows ∧ balance.currency = currency := by
  constructor
  · intro hfind
    exact ⟨List.mem_of_find?_eq_some hfind, by simpa using List.find?_some hfind⟩
  · intro hin
    cases hfind : rows.find? (·.currency = currency) with
    | none => simpa [hin.2] using List.find?_eq_none.1 hfind balance hin.1
    | some other =>
      have hother : other.currency = currency := by simpa using List.find?_some hfind
      exact congrArg some (List.inj_on_of_nodup_map h (List.mem_of_find?_eq_some hfind) hin.1 (hother.trans hin.2.symm))

omit [Host] in
theorem find_currency_none {rows : List BrokerBalance} {currency : String} :
    rows.find? (·.currency = currency) = none ↔ ¬ ∃ balance ∈ rows, balance.currency = currency := by
  rw [List.find?_eq_none]
  simp

omit [Host] in
/-- a property that holds of unknown keys holds of all keys when it holds of the known ones -/
theorem forall_unionKeys {α β : Type} {left : InsertionMap String α} {right : InsertionMap String β} {P : String → Prop}
    (hout : ∀ currency, left.get currency = none → right.get currency = none → P currency) :
    (∀ currency ∈ unionKeys left right, P currency) ↔ ∀ currency, P currency := by
  refine ⟨fun h currency => ?_, fun h currency _ => h currency⟩
  by_cases hin : currency ∈ unionKeys left right
  · exact h currency hin
  · unfold unionKeys at hin
    simp only [List.mem_append, List.mem_filter, decide_eq_true_eq, not_or, not_and, not_not] at hin
    refine hout currency (assocGet_eq_none.2 hin.1) (assocGet_eq_none.2 fun hright => hin.1 (hin.2 hright))

/-- the snapshots match where no currency has anything to report -/
theorem snapshotsMatch_iff {localRows exchangeRows : List BrokerBalance}
    (hlocal : (localRows.map BrokerBalance.currency).Nodup)
    (hexchange : (exchangeRows.map BrokerBalance.currency).Nodup) (observedAt : String) :
    SnapshotsMatch localRows exchangeRows ↔ localRows ≠ [] ∧ exchangeRows ≠ [] ∧ ∀ currency,
      balanceSnapshotMismatches (indexByCurrency localRows) (indexByCurrency exchangeRows) observedAt currency =
        .ok [] := by
  simp only [balanceSnapshotMismatches_nothing, indexByCurrency_get hlocal, indexByCurrency_get hexchange,
    find_currency hlocal,
    find_currency hexchange, find_currency_none]
  constructor
  · intro h
    refine ⟨h.localRows_nonempty, h.exchangeRows_nonempty, fun currency => ?_⟩
    by_cases hthere : ∃ balance ∈ localRows, balance.currency = currency
    · obtain ⟨exchange, hin, hsame⟩ := (h.covered currency).1 hthere
      obtain ⟨loc, hloc, hcurrency⟩ := hthere
      have heq : loc.currency = exchange.currency := hcurrency.trans hsame.symm
      exact Or.inr ⟨loc, exchange, ⟨hloc, hcurrency⟩, ⟨hin, hsame⟩, h.available loc hloc exchange hin heq,
        h.locked loc hloc exchange hin heq, h.total loc hloc exchange hin heq⟩
    · exact Or.inl ⟨hthere, fun hin => hthere ((h.covered currency).2 hin)⟩
  · intro h
    obtain ⟨hlocalRows, hexchangeRows, hall⟩ := h
    have hpair : ∀ loc ∈ localRows, ∀ exchange ∈ exchangeRows, loc.currency = exchange.currency →
        SameAmount loc.available exchange.available ∧ SameAmount loc.locked exchange.locked ∧
          SameAmount loc.total exchange.total := by
      intro loc hloc exchange hin heq
      rcases hall loc.currency with hnone | ⟨loc', exchange', hloc', hexchange', hsame⟩
      · exact absurd ⟨loc, hloc, rfl⟩ hnone.1
      · obtain rfl := List.inj_on_of_nodup_map hlocal hloc'.1 hloc hloc'.2
        obtain rfl := List.inj_on_of_nodup_map hexchange hexchange'.1 hin (hexchange'.2.trans heq)
        exact hsame
    refine ⟨hlocalRows, hexchangeRows, fun currency => ?_,
      fun loc hloc exchange hin heq => (hpair loc hloc exchange hin heq).1,
      fun loc hloc exchange hin heq => (hpair loc hloc exchange hin heq).2.1,
      fun loc hloc exchange hin heq => (hpair loc hloc exchange hin heq).2.2⟩
    rcases hall currency with hnone | ⟨loc, exchange, hloc, hin, -⟩
    · exact iff_of_false hnone.1 hnone.2
    · exact iff_of_true ⟨loc, hloc⟩ ⟨exchange, hin⟩

theorem exchangeLocked_iff {exchangeRows : List BrokerBalance} (h : (exchangeRows.map BrokerBalance.currency).Nodup)
    {currency : String} {q : ℚ} :
    decimalOperand ((((indexByCurrency exchangeRows).get currency).map BrokerBalance.locked).getD "0") = .ok (some q) ↔
      exchangeLocked exchangeRows currency = some q := by
  rw [decimalOperand_eq_some, indexByCurrency_get h]
  unfold exchangeLocked
  cases exchangeRows.find? (·.currency = currency) with
  | none =>
    obtain ⟨d, hd, -, hzero⟩ := Host.decimal_zero
    simp [Host.valueOf, hd, hzero]
  | some balance => rfl

theorem expectedLockMismatches_nothing {locked : InsertionMap String (Option ℚ)} {exchangeRows : List BrokerBalance}
    (h : (exchangeRows.map BrokerBalance.currency).Nodup) {observedAt currency : String} :
    expectedLockMismatches locked (indexByCurrency exchangeRows) observedAt currency = .ok [] ↔
      ∃ q, parseAmount ((locked.get currency).getD (some 0)) = .ok q ∧
        exchangeLocked exchangeRows currency = some q := by
  unfold expectedLockMismatches
  constructor
  · intro hnothing
    obtain ⟨q, hq, hnothing⟩ := bind_eq_ok.1 hnothing
    obtain ⟨operand, hoperand, hnothing⟩ := bind_eq_ok.1 hnothing
    have hempty := pure_eq_ok.1 hnothing
    split_ifs at hempty with heq
    subst heq
    exact ⟨q, hq, (exchangeLocked_iff h).1 hoperand⟩
  · intro hsame
    obtain ⟨q, hq, hexchange⟩ := hsame
    rw [hq, ok_bind, (exchangeLocked_iff h).2 hexchange, ok_bind]
    simp [pure, Except.pure]

omit visited order currency in
theorem lockedSum_eq_storedSum {orders : List ReconcileLocalOrderSnapshot} (h : ∀ order ∈ orders, OnKrwMarket order)
    (currency : String) : lockedSum isCounted orders currency = storedSum orders currency := by
  unfold lockedSum storedSum
  congr 2
  refine List.filter_congr fun order horder => ?_
  exact decide_eq_decide.2 (and_congr_right fun _ => locksIn_iff (h order horder))

omit visited order currency in
/-- the orders explain the locks where the fold returns and no currency has anything to report -/
theorem explained_iff {orders : List ReconcileLocalOrderSnapshot} {exchangeRows : List BrokerBalance}
    (hrows : (exchangeRows.map BrokerBalance.currency).Nodup) (hmarkets : ∀ order ∈ orders, OnKrwMarket order)
    (observedAt : String) :
    Explained isCounted orders exchangeRows ↔ ∃ expected, computeExpectedLocked orders = .ok expected ∧
      expected.priceMissingBuyOrders = [] ∧
      ∀ currency, expectedLockMismatches expected.lockedByCurrency
        (indexByCurrency exchangeRows) observedAt currency = .ok [] := by
  simp only [expectedLockMismatches_nothing hrows]
  constructor
  · intro h
    obtain ⟨expected, hexpected, hfinite⟩ := computeExpectedLocked_finite h.readable
    have hreads := computeExpectedLocked_reads hexpected
    refine ⟨expected, hexpected, ?_, fun currency => ?_⟩
    · rw [hreads.missing, List.filter_eq_nil_iff]
      intro order horder hmissing
      simp only [isPriceMissing, Bool.and_eq_true, decide_eq_true_eq] at hmissing
      exact h.priced order horder hmissing.1.1 hmissing.1.2 hmissing.2
    · obtain ⟨q, hq⟩ := hfinite.amount currency
      refine ⟨q, hq, ?_⟩
      rw [h.locked, lockedSum_eq_storedSum hmarkets, ((hreads.stored currency).current hq).1]
  · intro h
    obtain ⟨expected, hexpected, hmissing, hlocks⟩ := h
    have hreads := computeExpectedLocked_reads hexpected
    rw [hreads.missing, List.filter_eq_nil_iff] at hmissing
    refine ⟨fun order horder hcounted hside hprice => ?_, fun order horder hcounted => ?_, fun currency => ?_⟩
    · exact hmissing order horder (by simp [isPriceMissing, hcounted, hside, hprice])
    · obtain ⟨q, hq, -⟩ := hlocks (lockCurrency order)
      refine ((hreads.stored _).current hq).2 order horder hcounted rfl ?_
      simpa using hmissing order horder
    · obtain ⟨q, hq, hexchange⟩ := hlocks currency
      rw [hexchange, lockedSum_eq_storedSum hmarkets, ((hreads.stored currency).current hq).1]

omit visited order currency in
/-- **Check.** It says OK exactly where the snapshots match and the orders that it counts explain the locks. -/
theorem checkBalanceLock_ok_iff {orders : List ReconcileLocalOrderSnapshot}
    {localBalances exchangeBalances : Option (List BrokerBalance)}
    (hlocal : ((localBalances.getD []).map BrokerBalance.currency).Nodup)
    (hexchange : ((exchangeBalances.getD []).map BrokerBalance.currency).Nodup)
    (hmarkets : ∀ order ∈ orders, OnKrwMarket order) (observedAt : String) :
    (∃ result, checkBalanceLock orders localBalances exchangeBalances observedAt = .ok result ∧ result.status = .ok) ↔
      SnapshotsMatch (localBalances.getD []) (exchangeBalances.getD []) ∧
        Explained isCounted orders (exchangeBalances.getD []) := by
  rw [snapshotsMatch_iff hlocal hexchange observedAt, explained_iff hexchange hmarkets observedAt]
  unfold checkBalanceLock
  dsimp only
  by_cases hlocalRows : localBalances.getD [] = []
  · refine iff_of_false (fun h => ?_) fun h => h.1.1 hlocalRows
    obtain ⟨result, hresult, hstatus⟩ := h
    rw [hlocalRows] at hresult
    by_cases hexchangeRows : exchangeBalances.getD [] = []
    · rw [if_pos ⟨rfl, hexchangeRows⟩] at hresult
      rw [← pure_eq_ok.1 hresult] at hstatus
      cases hstatus
    · rw [if_neg fun hboth => hexchangeRows hboth.2, if_pos rfl] at hresult
      rw [← pure_eq_ok.1 hresult] at hstatus
      cases hstatus
  · rw [if_neg fun hboth => hlocalRows hboth.1, if_neg hlocalRows]
    by_cases hexchangeRows : exchangeBalances.getD [] = []
    · refine iff_of_false (fun h => ?_) fun h => h.1.2.1 hexchangeRows
      obtain ⟨result, hresult, hstatus⟩ := h
      rw [if_pos hexchangeRows] at hresult
      rw [← pure_eq_ok.1 hresult] at hstatus
      cases hstatus
    · rw [if_neg hexchangeRows]
      have hsnapshots : (∀ currency ∈ unionKeys (indexByCurrency (localBalances.getD []))
          (indexByCurrency (exchangeBalances.getD [])),
            balanceSnapshotMismatches (indexByCurrency (localBalances.getD []))
            (indexByCurrency (exchangeBalances.getD [])) observedAt currency = .ok []) ↔
          ∀ currency, balanceSnapshotMismatches (indexByCurrency (localBalances.getD []))
            (indexByCurrency (exchangeBalances.getD [])) observedAt currency = .ok [] :=
        forall_unionKeys fun currency hl hr => balanceSnapshotMismatches_nothing.2 (Or.inl ⟨hl, hr⟩)
      have hlocks : ∀ expected : ExpectedLocked, (∀ currency ∈ unionKeys expected.lockedByCurrency
          (indexByCurrency (exchangeBalances.getD [])), expectedLockMismatches expected.lockedByCurrency
            (indexByCurrency (exchangeBalances.getD [])) observedAt currency = .ok []) ↔
          ∀ currency, expectedLockMismatches expected.lockedByCurrency (indexByCurrency (exchangeBalances.getD []))
            observedAt currency = .ok [] := by
        refine fun expected => forall_unionKeys fun currency hl hr => ?_
        rw [indexByCurrency_get hexchange] at hr
        refine (expectedLockMismatches_nothing hexchange).2 ⟨0, by rw [hl]; rfl, ?_⟩
        rw [exchangeLocked, hr]
      constructor
      · intro h
        obtain ⟨result, hresult, hstatus⟩ := h
        obtain ⟨expected, hexpected, hresult⟩ := bind_eq_ok.1 hresult
        obtain ⟨snapshots, hsnapshotsRun, hresult⟩ := bind_eq_ok.1 hresult
        obtain ⟨locks, hlocksRun, hresult⟩ := bind_eq_ok.1 hresult
        obtain rfl := pure_eq_ok.1 hresult
        have hnothing : snapshots.flatten ++ expected.priceMissingBuyOrders.map (fun order =>
            createBalanceLockMismatch "KRW" ("buy_price_missing:" ++ order.orderId) observedAt) ++ locks.flatten =
              [] := by
          by_contra hsome
          rw [if_neg hsome] at hstatus
          cases hstatus
        rw [List.append_eq_nil_iff, List.append_eq_nil_iff, List.map_eq_nil_iff] at hnothing
        exact ⟨⟨hlocalRows, hexchangeRows, hsnapshots.1 (mapM_nothing.1 ⟨snapshots, hsnapshotsRun, hnothing.1.1⟩)⟩,
          expected, hexpected, hnothing.1.2, (hlocks expected).1 (mapM_nothing.1 ⟨locks, hlocksRun, hnothing.2⟩)⟩
      · intro h
        obtain ⟨⟨-, -, hsnapshotsAll⟩, expected, hexpected, hmissing, hlocksAll⟩ := h
        obtain ⟨snapshots, hsnapshotsRun, hsnapshotsNil⟩ := mapM_nothing.2 (hsnapshots.2 hsnapshotsAll)
        obtain ⟨locks, hlocksRun, hlocksNil⟩ := mapM_nothing.2 ((hlocks expected).2 hlocksAll)
        rw [hexpected, ok_bind, hsnapshotsRun, ok_bind, hlocksRun, ok_bind]
        exact ⟨_, rfl, by simp [hsnapshotsNil, hmissing, hlocksNil]⟩

/-! ## Final orders -/

omit [Host] in
def isOpenStatus (status : OrderLifecycleStatus) : Bool := !isFinalStatus status

omit [Host] in
/-- the final statuses that the check counts as open -/
def isOverlooked (status : OrderLifecycleStatus) : Bool := status = .filled || status = .manualReviewRequired

omit [Host] in
theorem isCounted_iff (status : OrderLifecycleStatus) :
    isCounted status = true ↔ isOpenStatus status = true ∨ isOverlooked status = true := by
  cases status <;> decide

omit [Host] in
theorem not_both (status : OrderLifecycleStatus) : ¬ (isOpenStatus status = true ∧ isOverlooked status = true) := by
  cases status <;> decide

omit visited order currency in
theorem lockedSum_split (orders : List ReconcileLocalOrderSnapshot) (currency : String) :
    lockedSum isCounted orders currency =
      lockedSum isOpenStatus orders currency + lockedSum isOverlooked orders currency := by
  unfold lockedSum
  induction orders with
  | nil => simp
  | cons order orders ih =>
    simp only [List.filter_cons, decide_eq_true_eq]
    have hcounted := isCounted_iff order.status
    have hboth := not_both order.status
    by_cases hin : LocksIn order currency
    · by_cases hopen : isOpenStatus order.status = true
      · have hoverlooked : ¬ isOverlooked order.status = true := fun h => hboth ⟨hopen, h⟩
        rw [if_pos ⟨hcounted.2 (Or.inl hopen), hin⟩, if_pos ⟨hopen, hin⟩, if_neg fun h => hoverlooked h.1,
          List.map_cons,
          List.sum_cons, List.map_cons, List.sum_cons, ih, add_assoc]
      · by_cases hoverlooked : isOverlooked order.status = true
        · rw [if_pos ⟨hcounted.2 (Or.inr hoverlooked), hin⟩, if_neg fun h => hopen h.1, if_pos ⟨hoverlooked, hin⟩,
            List.map_cons, List.sum_cons, List.map_cons, List.sum_cons, ih]
          ring
        · rw [if_neg fun h => (hcounted.1 h.1).elim hopen hoverlooked, if_neg fun h => hopen h.1,
            if_neg fun h => hoverlooked h.1, ih]
    · rw [if_neg fun h => hin h.2, if_neg fun h => hin h.2, if_neg fun h => hin h.2, ih]

/-- the overlooked orders lock nothing: each BUY has a price, and their amounts are numbers that cancel out -/
structure Harmless (orders : List ReconcileLocalOrderSnapshot) : Prop where
  priced : ∀ order ∈ orders, isOverlooked order.status = true → order.side = .buy → order.requestedPrice ≠ none
  readable : ∀ order ∈ orders, isOverlooked order.status = true → orderLock order ≠ none
  nothing : ∀ currency, lockedSum isOverlooked orders currency = 0

omit visited order currency in
theorem Harmless.explained_iff {orders : List ReconcileLocalOrderSnapshot} (h : Harmless orders)
    (exchangeRows : List BrokerBalance) :
    Explained isCounted orders exchangeRows ↔ Explained isOpenStatus orders exchangeRows := by
  have hsum : ∀ currency, lockedSum isCounted orders currency = lockedSum isOpenStatus orders currency :=
    fun currency => by
    rw [lockedSum_split, h.nothing, add_zero]
  constructor
  · intro hcounted
    refine ⟨fun order horder hopen => hcounted.priced order horder ((isCounted_iff _).2 (Or.inl hopen)),
      fun order horder hopen => hcounted.readable order horder ((isCounted_iff _).2 (Or.inl hopen)), fun currency => ?_⟩
    rw [hcounted.locked, hsum]
  · intro hopen
    refine ⟨fun order horder hcounted => ?_, fun order horder hcounted => ?_, fun currency => ?_⟩
    · exact ((isCounted_iff _).1 hcounted).elim (hopen.priced order horder) (h.priced order horder)
    · exact ((isCounted_iff _).1 hcounted).elim (hopen.readable order horder) (h.readable order horder)
    · rw [hopen.locked, hsum]

omit visited order currency in
/-- locks that are explained with and without the overlooked orders are not touched by them -/
theorem Harmless.of_explained {orders : List ReconcileLocalOrderSnapshot} {exchangeRows : List BrokerBalance}
    (hcounted : Explained isCounted orders exchangeRows) (hopen : Explained isOpenStatus orders exchangeRows) :
    Harmless orders := by
  refine ⟨fun order horder hoverlooked => hcounted.priced order horder ((isCounted_iff _).2 (Or.inr hoverlooked)),
    fun order horder hoverlooked => hcounted.readable order horder ((isCounted_iff _).2 (Or.inr hoverlooked)),
    fun currency => ?_⟩
  have hsame := Option.some.inj ((hcounted.locked currency).symm.trans (hopen.locked currency))
  rw [lockedSum_split] at hsame
  linarith

/-- the check says OK exactly where the snapshots match and the orders without a final status explain the locks -/
def BalanceLockExact (orders : List ReconcileLocalOrderSnapshot)
    (localBalances exchangeBalances : Option (List BrokerBalance))
    (observedAt : String) : Prop :=
  (∃ result, checkBalanceLock orders localBalances exchangeBalances observedAt = .ok result ∧ result.status = .ok) ↔
    SnapshotsMatch (localBalances.getD []) (exchangeBalances.getD []) ∧
      Explained isOpenStatus orders (exchangeBalances.getD [])

end Spec

section Plain

attribute [local instance] plainHost

def buyOrder (status : OrderLifecycleStatus) (requestedPrice : Option String) : ReconcileLocalOrderSnapshot :=
  ⟨"o", none, none, "KRW-BTC", .buy, status, "2", "2", requestedPrice, none, none, none⟩

theorem buyOrder_onKrwMarket (status : OrderLifecycleStatus) (requestedPrice : Option String) :
    ∀ order ∈ [buyOrder status requestedPrice], OnKrwMarket order := by
  intro order horder
  rw [List.mem_singleton] at horder
  subst horder
  exact ⟨"BTC", rfl, by decide⟩

end Plain

end SeeMirai.Reconcile
