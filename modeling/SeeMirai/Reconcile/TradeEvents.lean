/-
Trade events of the private WebSocket. A trade event carries no order state; it is read as an open order while its
remaining quantity is positive and as a done one otherwise, also where the remaining quantity is missing or unreadable.

Results:
- `trade_events_sound`: where every WebSocket snapshot that a local order is compared with reads, and every trade event
  carries a remaining quantity that is not negative, the engine returns, and a trade event fills an order only with a
  remaining quantity of zero.
- `missing_remaining_fills`: a trade event without a remaining quantity fills an order, and one with an unreadable
  quantity ends the engine.
-/
import SeeMirai.Reconcile.LoopRun

namespace SeeMirai.Reconcile

open Fallible

section Host

variable [Host]

/-! ## Readable data -/

/-- the text denotes a finite decimal -/
def Reads (s : String) : Prop := ∃ q, Host.valueOf s = some q

theorem Reads.parse {s : String} (h : Reads s) : ∃ q, parseFinancialDecimal s = .ok q := by
  obtain ⟨q, hq⟩ := h
  exact ⟨q, parseFinancialDecimal_eq_ok.2 hq⟩

theorem Reads.operand {s : String} (h : Reads s) : ∃ q, decimalOperand s = .ok (some q) := by
  obtain ⟨q, hq⟩ := h
  unfold Host.valueOf at hq
  unfold decimalOperand
  cases hdecimal : Host.decimal s with
  | invalid => simp [hdecimal] at hq
  | nonFinite => simp [hdecimal] at hq
  | finite d => exact ⟨d.value, rfl⟩

/-- the amounts of a snapshot read -/
structure SnapshotReads (e : ReconcileExchangeOrderSnapshot) : Prop where
  quantity : Reads e.requestedQuantity
  price : ∀ price, e.requestedPrice = some price → Reads price
  remaining : ∀ remaining, e.remainingQuantity = some remaining → Reads remaining

structure LocalReads (loc : ReconcileLocalOrderSnapshot) : Prop where
  quantity : Reads loc.requestedQuantity
  remaining : Reads loc.remainingQuantity
  price : ∀ price, loc.requestedPrice = some price → Reads price
  reservedFee : ∀ fee, loc.reservedFee = some fee → Reads fee
  remainingFee : ∀ fee, loc.remainingFee = some fee → Reads fee

structure BalanceReads (balance : BrokerBalance) : Prop where
  available : Reads balance.available
  locked : Reads balance.locked
  total : Reads balance.total

/-- the snapshot is compared by its terms: it has no id, or shares one with a local order -/
def Compared (localOpenOrders : List ReconcileLocalOrderSnapshot) (e : ReconcileExchangeOrderSnapshot) : Prop :=
  Idless e ∨ ∃ loc ∈ localOpenOrders, Shares e loc

/-! ## Comparing -/

theorem buildOrderFingerprint_total (market : String) (side : OrderSide) {quantity : String} {price : Option String}
    (hquantity : Reads quantity) (hprice : ∀ p, price = some p → Reads p) :
    ∃ fingerprint, buildOrderFingerprint market side quantity price = .ok fingerprint := by
  obtain ⟨q, hq⟩ := hquantity.parse
  unfold buildOrderFingerprint normalizeFingerprintDecimal
  rw [hq]
  cases price with
  | none => exact ⟨_, rfl⟩
  | some p =>
    obtain ⟨r, hr⟩ := (hprice p rfl).parse
    simp only [Option.map_some, Option.getD_some, hr]
    exact ⟨_, rfl⟩

theorem compareImmutableFingerprint_total {e : ReconcileExchangeOrderSnapshot} {loc : ReconcileLocalOrderSnapshot}
    (he : SnapshotReads e) (hloc : LocalReads loc) : ∃ failure, compareImmutableFingerprint e loc = .ok failure := by
  obtain ⟨exchangeFp, hexchange⟩ := buildOrderFingerprint_total e.market e.side he.quantity he.price
  obtain ⟨localFp, hlocal⟩ := buildOrderFingerprint_total loc.market loc.side hloc.quantity hloc.price
  have hunpriced : ∀ p, (none : Option String) = some p → Reads p := by simp
  obtain ⟨exchangeObserved, hexchangeObserved⟩ := buildOrderFingerprint_total e.market e.side he.quantity hunpriced
  obtain ⟨localObserved, hlocalObserved⟩ := buildOrderFingerprint_total loc.market loc.side hloc.quantity hunpriced
  unfold compareImmutableFingerprint
  rw [hexchange, ok_bind, hlocal, ok_bind]
  split_ifs
  · exact ⟨_, rfl⟩
  · rw [hexchangeObserved, ok_bind, hlocalObserved, ok_bind]
    exact ⟨_, rfl⟩
  · exact ⟨_, rfl⟩

theorem matchStrong_total (matchType : IdentityMatchType) (identity : String) {e : ReconcileExchangeOrderSnapshot}
    {loc : ReconcileLocalOrderSnapshot} (he : SnapshotReads e) (hloc : LocalReads loc) :
    ∃ result, matchStrong matchType identity e loc = .ok result := by
  obtain ⟨failure, hfailure⟩ := compareImmutableFingerprint_total he hloc
  unfold matchStrong
  rw [hfailure]
  exact ⟨_, rfl⟩

theorem matchByFingerprint_total {e : ReconcileExchangeOrderSnapshot} {loc : ReconcileLocalOrderSnapshot}
    (he : SnapshotReads e) (hloc : LocalReads loc) : ∃ result, matchByFingerprint e loc = .ok result := by
  obtain ⟨exchangeFp, hexchange⟩ := buildOrderFingerprint_total e.market e.side he.quantity he.price
  obtain ⟨localFp, hlocal⟩ := buildOrderFingerprint_total loc.market loc.side hloc.quantity hloc.price
  unfold matchByFingerprint
  rw [hexchange, ok_bind, hlocal, ok_bind]
  exact ⟨_, rfl⟩

/-- a comparison reads the terms of the two sides only where they share an id or have none -/
theorem matchOrderIdentity_total {e : ReconcileExchangeOrderSnapshot} {loc : ReconcileLocalOrderSnapshot}
    (he : Shares e loc ∨ Idless e → SnapshotReads e) (hloc : LocalReads loc) :
    ∃ result, matchOrderIdentity e loc = .ok result := by
  rw [shares_iff_ids] at he
  unfold matchOrderIdentity
  split
  · rename_i exchangeId localId hexchangeId hlocalId
    split_ifs with hid
    · split
      · exact ⟨_, rfl⟩
      · exact ⟨_, rfl⟩
    · have hreads : SnapshotReads e := he (Or.inl (Or.inr ⟨by simp [hexchangeId], by
        rw [hexchangeId, hlocalId, not_not.1 hid]⟩))
      split
      · split_ifs
        · exact ⟨_, rfl⟩
        · exact matchStrong_total _ _ hreads hloc
      · exact matchStrong_total _ _ hreads hloc
  · split
    · rename_i exchangeUuid localUuid hexchangeUuid hlocalUuid
      split_ifs with huuid
      · exact ⟨_, rfl⟩
      · exact matchStrong_total _ _ (he (Or.inl (Or.inl ⟨by simp [hexchangeUuid], by
          rw [hexchangeUuid, hlocalUuid, not_not.1 huuid]⟩))) hloc
    · split_ifs with hid huuid
      · exact ⟨_, rfl⟩
      · exact ⟨_, rfl⟩
      · simp only [not_or, not_not] at hid huuid
        exact matchByFingerprint_total (he (Or.inr ⟨huuid.1, hid.1⟩)) hloc

theorem describeExchangeOrderIdentity_total {e : ReconcileExchangeOrderSnapshot} (he : Idless e → SnapshotReads e) :
    ∃ identity, describeExchangeOrderIdentity e = .ok identity := by
  unfold describeExchangeOrderIdentity
  split
  · exact ⟨_, rfl⟩
  · exact ⟨_, rfl⟩
  · rename_i hid huuid
    have hreads := he ⟨huuid, hid⟩
    obtain ⟨fingerprint, hfingerprint⟩ := buildOrderFingerprint_total e.market e.side hreads.quantity hreads.price
    rw [hfingerprint, ok_bind]
    exact ⟨_, rfl⟩

theorem hasRemaining_total {e : ReconcileExchangeOrderSnapshot} (he : SnapshotReads e) :
    ∃ remains, hasRemaining e = .ok remains := by
  unfold hasRemaining
  cases hremaining : e.remainingQuantity with
  | none => exact ⟨_, rfl⟩
  | some remaining =>
    obtain ⟨q, hq⟩ := (he.remaining remaining hremaining).parse
    simp only [hq]
    exact ⟨_, rfl⟩

theorem openRemainingCandidate_total {e : ReconcileExchangeOrderSnapshot} {loc : ReconcileLocalOrderSnapshot}
    (he : SnapshotReads e) (hloc : LocalReads loc) (identity : IdentityMatchSuccess) :
    ∃ candidate, openRemainingCandidate e loc identity = .ok candidate := by
  unfold openRemainingCandidate
  cases hremaining : e.remainingQuantity with
  | none => exact ⟨_, rfl⟩
  | some remaining =>
    obtain ⟨q, hq⟩ := (he.remaining remaining hremaining).parse
    obtain ⟨r, hr⟩ := hloc.remaining.parse
    dsimp only
    split
    · rw [hq, ok_bind, hr, ok_bind]
      exact ⟨_, rfl⟩
    · exact ⟨_, rfl⟩

theorem evaluateMatchedPair_total {e : ReconcileExchangeOrderSnapshot} {loc : ReconcileLocalOrderSnapshot}
    (he : SnapshotReads e) (hloc : LocalReads loc) (identity : IdentityMatchSuccess) (observedAt : String) :
    ∃ result, evaluateMatchedPair e loc identity observedAt = .ok result := by
  suffices hcandidate : ∃ candidate, createStateAdvancementCandidate e loc identity = .ok candidate by
    obtain ⟨candidate, hcandidate⟩ := hcandidate
    unfold evaluateMatchedPair
    rw [hcandidate, ok_bind]
    exact ⟨_, rfl⟩
  obtain ⟨openCandidate, hopen⟩ := openRemainingCandidate_total he hloc identity
  obtain ⟨remains, hremains⟩ := hasRemaining_total he
  unfold createStateAdvancementCandidate
  rw [hopen, ok_bind]
  cases openCandidate with
  | some candidate => exact ⟨_, rfl⟩
  | none =>
    dsimp only
    split
    · split
      · exact ⟨_, rfl⟩
      · rw [hremains, ok_bind]
        exact ⟨_, rfl⟩
    · split
      · exact ⟨_, rfl⟩
      · exact ⟨_, rfl⟩

theorem createIdentityConflictResult_total {e : ReconcileExchangeOrderSnapshot} (he : Idless e → SnapshotReads e)
    (loc : ReconcileLocalOrderSnapshot) (failure : IdentityMatchFailure) (observedAt : String) :
    ∃ result, createIdentityConflictResult e loc failure observedAt = .ok result := by
  obtain ⟨identity, hidentity⟩ := describeExchangeOrderIdentity_total he
  unfold createIdentityConflictResult
  rw [hidentity, ok_bind]
  exact ⟨_, rfl⟩

omit [Host] in
theorem findFirst_total {α β : Type} {skip : α → Bool} {test : α → Except Thrown (Option β)} {xs : List α}
    (h : ∀ x ∈ xs, ∃ answer, test x = .ok answer) : ∃ found, findFirst skip test xs = .ok found := by
  induction xs with
  | nil => exact ⟨none, rfl⟩
  | cons x xs ih =>
    obtain ⟨found, hfound⟩ := ih fun y hy => h y (by simp [hy])
    rw [findFirst]
    split_ifs
    · exact ⟨found, hfound⟩
    · obtain ⟨answer, hanswer⟩ := h x (by simp)
      rw [hanswer, ok_bind]
      cases answer with
      | some answer => exact ⟨_, rfl⟩
      | none => exact ⟨found, hfound⟩

/-! ## The loops return -/

variable {localOpenOrders : List ReconcileLocalOrderSnapshot} {observedAt : String}

/-- a match is between sides whose terms were read -/
theorem Matches.reads {e : ReconcileExchangeOrderSnapshot} {loc : ReconcileLocalOrderSnapshot} (hmatch : Matches e loc)
    (hloc : loc ∈ localOpenOrders) (he : Compared localOpenOrders e → SnapshotReads e) : SnapshotReads e := by
  rcases hmatch.cases with hstrong | ⟨hidless, -⟩
  · exact he (Or.inr ⟨loc, hloc, hstrong.shares.1⟩)
  · exact he (Or.inl hidless)

theorem match_total {e : ReconcileExchangeOrderSnapshot} (he : Compared localOpenOrders e → SnapshotReads e)
    (hlocals : ∀ loc ∈ localOpenOrders, LocalReads loc) {loc : ReconcileLocalOrderSnapshot} (hloc : loc ∈ localOpenOrders) :
    ∃ result, matchOrderIdentity e loc = .ok result := by
  refine matchOrderIdentity_total (fun hwhy => he ?_) (hlocals loc hloc)
  rcases hwhy with hshares | hidless
  · exact Or.inr ⟨loc, hloc, hshares⟩
  · exact Or.inl hidless

theorem reconcileExchangeOrder_total (hlocals : ∀ loc ∈ localOpenOrders, LocalReads loc)
    {entry : ReconcileExchangeOrderSnapshot × ℕ} (he : Compared localOpenOrders entry.1 → SnapshotReads entry.1)
    (loop : ReconcileLoop) : ∃ loop', reconcileExchangeOrder localOpenOrders observedAt loop entry = .ok loop' := by
  have hidless : Idless entry.1 → SnapshotReads entry.1 := fun hidless => he (Or.inl hidless)
  have hconflicts : ∀ skip, ∃ found, findFirst skip (fun loc => IdentityMatchResult.conflict? <$>
      matchOrderIdentity entry.1 loc) localOpenOrders = .ok found := by
    intro skip
    refine findFirst_total fun loc hloc => ?_
    obtain ⟨result, hresult⟩ := match_total he hlocals hloc
    exact ⟨_, map_eq_ok.2 ⟨result, hresult, rfl⟩⟩
  unfold reconcileExchangeOrder
  dsimp only
  split
  · exact ⟨_, rfl⟩
  · split
    · obtain ⟨found, hfound⟩ := hconflicts fun _ => false
      rw [findIdentityConflictAnyLocalOrder, hfound, ok_bind]
      cases found with
      | none => exact ⟨_, rfl⟩
      | some found =>
        obtain ⟨loc, failure⟩ := found
        obtain ⟨result, hresult⟩ := createIdentityConflictResult_total hidless loc failure observedAt
        dsimp only
        rw [hresult, ok_bind]
        exact ⟨_, rfl⟩
    · obtain ⟨found, hfound⟩ : ∃ found, findMatchingLocalOrder entry.1 localOpenOrders loop.matchedLocalIds = .ok found := by
        refine findFirst_total fun loc hloc => ?_
        obtain ⟨result, hresult⟩ := match_total he hlocals hloc
        exact ⟨_, map_eq_ok.2 ⟨result, hresult, rfl⟩⟩
      rw [hfound, ok_bind]
      cases found with
      | some found =>
        obtain ⟨loc, success⟩ := found
        obtain ⟨before, after, hsplit, -, htest, -⟩ := findFirst_some hfound
        have hloc : loc ∈ localOpenOrders := mem_of_split hsplit
        have hreads := Matches.reads ⟨success, success_eq_some.1 htest⟩ hloc he
        obtain ⟨result, hresult⟩ := evaluateMatchedPair_total hreads (hlocals loc hloc) success observedAt
        dsimp only
        rw [hresult, ok_bind]
        exact ⟨_, rfl⟩
      | none =>
        obtain ⟨found, hfound⟩ := hconflicts fun loc => loc.orderId ∈ loop.matchedLocalIds
        dsimp only
        rw [findIdentityConflictLocalOrder, hfound, ok_bind]
        cases found with
        | some found =>
          obtain ⟨loc, failure⟩ := found
          obtain ⟨result, hresult⟩ := createIdentityConflictResult_total hidless loc failure observedAt
          dsimp only
          rw [hresult, ok_bind]
          exact ⟨_, rfl⟩
        | none =>
          obtain ⟨identity, hidentity⟩ := describeExchangeOrderIdentity_total hidless
          dsimp only
          rw [createUntrackedExchangeOrderMismatch, hidentity]
          exact ⟨_, rfl⟩

theorem reconcileLocalOrder_total {entries : List (ReconcileExchangeOrderSnapshot × ℕ)}
    (hentries : ∀ entry ∈ entries, Compared localOpenOrders entry.1 → SnapshotReads entry.1)
    {loc : ReconcileLocalOrderSnapshot} (hloc : loc ∈ localOpenOrders)
    (hlocals : ∀ loc ∈ localOpenOrders, LocalReads loc) (loop : ReconcileLoop) :
    ∃ loop', reconcileLocalOrder entries observedAt loop loc = .ok loop' := by
  unfold reconcileLocalOrder
  split
  · exact ⟨_, rfl⟩
  · obtain ⟨found, hfound⟩ : ∃ found, findMatchingExchangeOrder loc entries loop.matchedExchangeOrders = .ok found := by
      refine findFirst_total fun entry hentry => ?_
      obtain ⟨result, hresult⟩ := match_total (hentries entry hentry) hlocals hloc
      exact ⟨_, map_eq_ok.2 ⟨result, hresult, rfl⟩⟩
    rw [hfound, ok_bind]
    cases found with
    | some found =>
      obtain ⟨entry, success⟩ := found
      obtain ⟨before, after, hsplit, -, htest, -⟩ := findFirst_some hfound
      have hreads := Matches.reads ⟨success, success_eq_some.1 htest⟩ hloc (hentries entry (mem_of_split hsplit))
      obtain ⟨result, hresult⟩ := evaluateMatchedPair_total hreads (hlocals loc hloc) success observedAt
      dsimp only
      rw [hresult, ok_bind]
      exact ⟨_, rfl⟩
    | none =>
      obtain ⟨found, hfound⟩ :
          ∃ found, findIdentityConflictExchangeOrder loc entries loop.matchedExchangeOrders = .ok found := by
        refine findFirst_total fun entry hentry => ?_
        obtain ⟨result, hresult⟩ := match_total (hentries entry hentry) hlocals hloc
        exact ⟨_, map_eq_ok.2 ⟨result, hresult, rfl⟩⟩
      dsimp only
      rw [hfound, ok_bind]
      cases found with
      | some found =>
        obtain ⟨entry, failure⟩ := found
        obtain ⟨before, after, hsplit, -⟩ := findFirst_some hfound
        obtain ⟨result, hresult⟩ := createIdentityConflictResult_total
          (fun hidless => hentries entry (mem_of_split hsplit) (Or.inl hidless)) loc failure observedAt
        dsimp only
        rw [hresult, ok_bind]
        exact ⟨_, rfl⟩
      | none => exact ⟨_, rfl⟩

/-- **The order loops return** where everything that is compared reads. -/
theorem reconcileOrders_total {exchangeOrders : List ReconcileExchangeOrderSnapshot}
    (hexchange : ∀ e ∈ exchangeOrders, Compared localOpenOrders e → SnapshotReads e)
    (hlocals : ∀ loc ∈ localOpenOrders, LocalReads loc) :
    ∃ results, reconcileOrders exchangeOrders localOpenOrders observedAt = .ok results := by
  have hentries : ∀ entry ∈ exchangeOrders.zipIdx, Compared localOpenOrders entry.1 → SnapshotReads entry.1 := by
    intro entry hentry
    exact hexchange entry.1 (List.fst_mem_of_mem_zipIdx hentry)
  obtain ⟨exchangeLoop, hexchangeLoop⟩ := foldlM_total (f := reconcileExchangeOrder localOpenOrders observedAt)
    (fun entry hentry loop => reconcileExchangeOrder_total hlocals (hentries entry hentry) loop) ⟨[], [], [], [], []⟩
  obtain ⟨localLoop, hlocalLoop⟩ := foldlM_total (f := reconcileLocalOrder exchangeOrders.zipIdx observedAt)
    (fun loc hloc loop => reconcileLocalOrder_total hentries hloc hlocals loop) exchangeLoop
  unfold reconcileOrders
  dsimp only
  rw [hexchangeLoop, ok_bind, hlocalLoop, ok_bind]
  exact ⟨_, rfl⟩

/-! ## The balance check returns -/

theorem decimalTextsEqual_total {left right : String} (hleft : Reads left) (hright : Reads right) :
    ∃ equal, decimalTextsEqual left right = .ok equal := by
  obtain ⟨a, ha⟩ := hleft.parse
  obtain ⟨b, hb⟩ := hright.operand
  unfold decimalTextsEqual
  rw [ha, ok_bind, hb, ok_bind]
  exact ⟨_, rfl⟩

theorem zero_reads : Reads "0" := by
  obtain ⟨d, hd, -, -⟩ := Host.decimal_zero
  exact ⟨d.value, by simp [Host.valueOf, hd]⟩

theorem getBuyOrderRemainingFee_total {loc : ReconcileLocalOrderSnapshot} (h : LocalReads loc) :
    ∃ fee, getBuyOrderRemainingFee loc = .ok fee ∧ Reads fee := by
  unfold getBuyOrderRemainingFee
  split
  · rename_i fee hfee
    exact ⟨_, rfl, h.remainingFee _ hfee⟩
  · exact ⟨_, rfl, zero_reads⟩
  · rename_i fee _ hfee
    obtain ⟨equal, hequal⟩ := decimalTextsEqual_total h.remaining h.quantity
    rw [hequal, ok_bind]
    refine ⟨_, rfl, ?_⟩
    split_ifs
    · exact h.reservedFee _ hfee
    · exact zero_reads

theorem buyOrderLock_total {loc : ReconcileLocalOrderSnapshot} (h : LocalReads loc) {price : String}
    (hprice : loc.requestedPrice = some price) : ∃ amount, buyOrderLock loc price = .ok (some amount) := by
  obtain ⟨fee, hfee, hreads⟩ := getBuyOrderRemainingFee_total h
  obtain ⟨q, hq⟩ := h.remaining.parse
  obtain ⟨p, hp⟩ := (h.price price hprice).operand
  obtain ⟨f, hf⟩ := hreads.operand
  unfold buyOrderLock
  rw [hfee, ok_bind, hq, ok_bind, hp, ok_bind, hf, ok_bind]
  exact ⟨_, rfl⟩

/-- every expected lock is a finite amount -/
def FiniteLocks (expected : ExpectedLocked) : Prop := ∀ currency, expected.lockedByCurrency.get currency ≠ some none

omit [Host] in
theorem FiniteLocks.amount {expected : ExpectedLocked} (h : FiniteLocks expected) (currency : String) :
    ∃ q, parseAmount ((expected.lockedByCurrency.get currency).getD (some 0)) = .ok q := by
  cases hget : expected.lockedByCurrency.get currency with
  | none => exact ⟨0, rfl⟩
  | some amount =>
    cases amount with
    | none => exact absurd hget (h currency)
    | some q => exact ⟨q, rfl⟩

omit [Host] in
theorem FiniteLocks.set {expected : ExpectedLocked} (h : FiniteLocks expected) (currency : String) (q : ℚ)
    (orders : List ReconcileLocalOrderSnapshot) :
    FiniteLocks ⟨expected.lockedByCurrency.set currency (some q), orders⟩ := by
  intro other
  rw [InsertionMap.get_set]
  split_ifs
  · simp
  · exact h other

theorem expectOrderLock_total {loc : ReconcileLocalOrderSnapshot} (hloc : LocalReads loc) {expected : ExpectedLocked}
    (h : FiniteLocks expected) : ∃ expected', expectOrderLock expected loc = .ok expected' ∧ FiniteLocks expected' := by
  unfold expectOrderLock
  split
  · exact ⟨expected, rfl, h⟩
  · split
    · refine ⟨_, rfl, ?_⟩
      split_ifs
      · exact h
      · exact h.set "KRW" 0 _
    · rename_i price _ hprice
      obtain ⟨amount, hamount⟩ := buyOrderLock_total hloc hprice
      obtain ⟨current, hcurrent⟩ := h.amount "KRW"
      rw [hamount, ok_bind, addExpectedLock, hcurrent]
      exact ⟨_, rfl, h.set "KRW" (current + amount) _⟩
    · obtain ⟨current, hcurrent⟩ := h.amount (extractCryptoCurrency loc.market)
      obtain ⟨quantity, hquantity⟩ := hloc.remaining.operand
      dsimp only
      rw [hcurrent, ok_bind, hquantity, ok_bind]
      exact ⟨_, rfl, h.set _ (current + quantity) _⟩

theorem computeExpectedLocked_total (hlocals : ∀ loc ∈ localOpenOrders, LocalReads loc) :
    ∃ expected, computeExpectedLocked localOpenOrders = .ok expected ∧ FiniteLocks expected := by
  refine foldlM_total_keeps FiniteLocks (fun loc hloc expected h => expectOrderLock_total (hlocals loc hloc) h) ?_
  intro currency
  simp

theorem appendBalanceFieldMismatch_total (currency field observedAt : String) {localValue exchangeValue : String}
    (hlocal : Reads localValue) (hexchange : Reads exchangeValue) :
    ∃ mismatches, appendBalanceFieldMismatch currency field localValue exchangeValue observedAt = .ok mismatches := by
  obtain ⟨equal, hequal⟩ := decimalTextsEqual_total hlocal hexchange
  unfold appendBalanceFieldMismatch
  rw [hequal, ok_bind]
  exact ⟨_, rfl⟩

theorem indexByCurrency_reads {balances : List BrokerBalance} (h : ∀ balance ∈ balances, BalanceReads balance)
    {currency : String} {balance : BrokerBalance} (hget : (indexByCurrency balances).get currency = some balance) :
    BalanceReads balance := by
  suffices hall : ∀ index : InsertionMap String BrokerBalance,
      (∀ currency balance, index.get currency = some balance → BalanceReads balance) →
      ∀ currency balance, (balances.foldl (fun index balance => index.set balance.currency balance) index).get currency =
        some balance → BalanceReads balance from
    hall InsertionMap.empty (by simp) currency balance hget
  clear hget
  induction balances with
  | nil => exact fun index hindex => hindex
  | cons row rows ih =>
    intro index hindex
    refine ih (fun balance hbalance => h balance (by simp [hbalance])) _ ?_
    intro currency balance hget
    rw [InsertionMap.get_set] at hget
    split_ifs at hget
    · exact Option.some.inj hget ▸ h row (by simp)
    · exact hindex currency balance hget

theorem balanceSnapshotMismatches_total {localRows exchangeRows : List BrokerBalance}
    (hlocal : ∀ balance ∈ localRows, BalanceReads balance) (hexchange : ∀ balance ∈ exchangeRows, BalanceReads balance)
    (observedAt currency : String) :
    ∃ mismatches, balanceSnapshotMismatches (indexByCurrency localRows) (indexByCurrency exchangeRows) observedAt currency =
      .ok mismatches := by
  unfold balanceSnapshotMismatches
  split
  · exact ⟨_, rfl⟩
  · exact ⟨_, rfl⟩
  · exact ⟨_, rfl⟩
  · rename_i loc exchange hloc hex
    have hlocReads := indexByCurrency_reads hlocal hloc
    have hexReads := indexByCurrency_reads hexchange hex
    obtain ⟨available, havailable⟩ :=
      appendBalanceFieldMismatch_total currency "available" observedAt hlocReads.available hexReads.available
    obtain ⟨locked, hlocked⟩ :=
      appendBalanceFieldMismatch_total currency "locked" observedAt hlocReads.locked hexReads.locked
    obtain ⟨total, htotal⟩ := appendBalanceFieldMismatch_total currency "total" observedAt hlocReads.total hexReads.total
    rw [havailable, ok_bind, hlocked, ok_bind, htotal, ok_bind]
    exact ⟨_, rfl⟩

theorem expectedLockMismatches_total {expected : ExpectedLocked} (h : FiniteLocks expected)
    {exchangeRows : List BrokerBalance} (hexchange : ∀ balance ∈ exchangeRows, BalanceReads balance)
    (observedAt currency : String) :
    ∃ mismatches, expectedLockMismatches expected.lockedByCurrency (indexByCurrency exchangeRows) observedAt currency =
      .ok mismatches := by
  obtain ⟨amount, hamount⟩ := h.amount currency
  have hlocked : Reads ((((indexByCurrency exchangeRows).get currency).map BrokerBalance.locked).getD "0") := by
    cases hget : (indexByCurrency exchangeRows).get currency with
    | none => exact zero_reads
    | some balance => exact (indexByCurrency_reads hexchange hget).locked
  obtain ⟨locked, hlocked⟩ := hlocked.operand
  unfold expectedLockMismatches
  rw [hamount, ok_bind, hlocked, ok_bind]
  exact ⟨_, rfl⟩

/-- **The balance check returns** where the rows and the local orders read. -/
theorem checkBalanceLock_total (hlocals : ∀ loc ∈ localOpenOrders, LocalReads loc)
    {localBalances exchangeBalances : Option (List BrokerBalance)}
    (hlocal : ∀ balance ∈ localBalances.getD [], BalanceReads balance)
    (hexchange : ∀ balance ∈ exchangeBalances.getD [], BalanceReads balance) :
    ∃ result, checkBalanceLock localOpenOrders localBalances exchangeBalances observedAt = .ok result := by
  obtain ⟨expected, hexpected, hfinite⟩ := computeExpectedLocked_total hlocals
  have hsnapshots : ∀ currency ∈ unionKeys (indexByCurrency (localBalances.getD []))
      (indexByCurrency (exchangeBalances.getD [])), _ :=
    fun currency _ => balanceSnapshotMismatches_total hlocal hexchange observedAt currency
  have hlocks : ∀ currency ∈ unionKeys expected.lockedByCurrency (indexByCurrency (exchangeBalances.getD [])), _ :=
    fun currency _ => expectedLockMismatches_total hfinite hexchange observedAt currency
  obtain ⟨snapshots, hsnapshots⟩ := mapM_total hsnapshots
  obtain ⟨locks, hlocks⟩ := mapM_total hlocks
  unfold checkBalanceLock
  dsimp only
  split
  · exact ⟨_, rfl⟩
  · split
    · exact ⟨_, rfl⟩
    · split
      · exact ⟨_, rfl⟩
      · rw [hexpected, ok_bind, hsnapshots, ok_bind, hlocks, ok_bind]
        exact ⟨_, rfl⟩

/-! ## Trade events -/

/-- the state that the event carries, before it is rewritten -/
def rawExchangeStatus (event : ReconcileWebSocketEvent) : Option String :=
  readStringField event.payload ["exchangeStatus", "exchange_status", "state", "s"]

/-- the snapshot is made from a trade event of the input -/
def FromTrade (input : ReconcileEngineInput) (e : ReconcileExchangeOrderSnapshot) : Prop :=
  ∃ event ∈ input.websocketContext.events, rawExchangeStatus event = some "trade" ∧
    canUseWebSocketOrderSnapshots input.websocketContext = true ∧ toWebSocketOrderSnapshot event = some e

/-- a remaining quantity that is there, reads, and is not negative -/
def RemainingObserved (e : ReconcileExchangeOrderSnapshot) : Prop :=
  ∃ remaining q, e.remainingQuantity = some remaining ∧ Host.valueOf remaining = some q ∧ 0 ≤ q

/-- the state of a trade event is decided by its remaining quantity alone -/
theorem FromTrade.status {input : ReconcileEngineInput} {e : ReconcileExchangeOrderSnapshot} (h : FromTrade input e) :
    e.exchangeStatus =
      if (e.remainingQuantity.map isPositiveFinancialDecimalString).getD false then "wait" else "done" := by
  obtain ⟨event, -, hraw, -, hsnapshot⟩ := h
  unfold rawExchangeStatus at hraw
  unfold toWebSocketOrderSnapshot at hsnapshot
  split_ifs at hsnapshot
  dsimp only at hsnapshot
  rw [hraw] at hsnapshot
  simp only [Option.bind_eq_bind, Option.bind_eq_some_iff] at hsnapshot
  obtain ⟨market, -, side, -, exchangeStatus, hstatus, requestedQuantity, -, hsnapshot⟩ := hsnapshot
  cases hsnapshot
  unfold normalizeWebSocketExchangeStatus at hstatus
  rw [if_neg (by simp)] at hstatus
  split_ifs at hstatus with hpositive
  · cases hstatus
    rw [if_pos hpositive]
  · cases hstatus
    rw [if_neg hpositive]

theorem FromTrade.done_of_not_observed {input : ReconcileEngineInput} {e : ReconcileExchangeOrderSnapshot}
    (h : FromTrade input e) (hremaining : ¬ RemainingObserved e) : e.exchangeStatus = "done" := by
  rw [h.status, if_neg]
  intro hpositive
  refine hremaining ?_
  cases hr : e.remainingQuantity with
  | none => simp [hr] at hpositive
  | some remaining =>
    simp only [hr, Option.map_some, Option.getD_some, isPositiveFinancialDecimalString] at hpositive
    split at hpositive
    · rename_i q hq
      exact ⟨remaining, q, hr, hq, le_of_lt (of_decide_eq_true hpositive)⟩
    · cases hpositive

/-- an advancement to FILLED rests on a remaining quantity that is not positive, or on none -/
theorem fills_without_remaining {e : ReconcileExchangeOrderSnapshot} {loc : ReconcileLocalOrderSnapshot}
    {identity : IdentityMatchSuccess} {advancement : ReconcileStateAdvancementCandidate}
    (h : createStateAdvancementCandidate e loc identity = .ok (some advancement))
    (hfilled : advancement.targetLocalStatus = .filled) : hasRemaining e = .ok false := by
  obtain ⟨openCandidate, hopen, h⟩ := bind_eq_ok.1 h
  cases openCandidate with
  | some candidate =>
    obtain rfl := pure_eq_ok.1 h
    unfold openRemainingCandidate at hopen
    split at hopen
    · split at hopen
      · obtain ⟨exchangeRemaining, -, hopen⟩ := bind_eq_ok.1 hopen
        obtain ⟨localRemaining, -, hopen⟩ := bind_eq_ok.1 hopen
        have hopen := pure_eq_ok.1 hopen
        split_ifs at hopen
        · cases hopen
        · cases hopen
          cases hfilled
      · cases pure_eq_ok.1 hopen
    · cases pure_eq_ok.1 hopen
  | none =>
    dsimp only at h
    split at h
    · split at h
      · cases pure_eq_ok.1 h
      · obtain ⟨remains, hremains, h⟩ := bind_eq_ok.1 h
        have h := pure_eq_ok.1 h
        cases remains with
        | true =>
          simp only [if_true] at h
          split_ifs at h
          cases h
          cases hfilled
        | false => exact hremains
    · split at h
      · cases pure_eq_ok.1 h
        cases hfilled
      · cases pure_eq_ok.1 h

theorem hasRemaining_false {e : ReconcileExchangeOrderSnapshot} (h : hasRemaining e = .ok false)
    (hobserved : RemainingObserved e) : ∃ remaining, e.remainingQuantity = some remaining ∧ Host.valueOf remaining = some 0 := by
  obtain ⟨remaining, q, hremaining, hq, hnonneg⟩ := hobserved
  refine ⟨remaining, hremaining, ?_⟩
  simp only [hasRemaining, hremaining] at h
  obtain ⟨r, hr, hzero⟩ := map_eq_ok.1 h
  rw [parseFinancialDecimal_eq_ok, hq] at hr
  cases hr
  have hle : ¬ 0 < q := of_decide_eq_false hzero
  rw [hq, le_antisymm (not_lt.1 hle) hnonneg]

/-- a trade event that carries no remaining quantity, or a negative one, fills an order that it matches by id -/
theorem unobserved_fills {input : ReconcileEngineInput} {e : ReconcileExchangeOrderSnapshot} (htrade : FromTrade input e)
    (hreads : SnapshotReads e) (hremaining : ¬ RemainingObserved e) {loc : ReconcileLocalOrderSnapshot}
    (hmatch : StronglyMatches e loc) (hopen : canTransitionOrderState loc.status .filled = true) :
    ∃ advancement, Advances e loc advancement ∧ advancement.targetLocalStatus = .filled := by
  obtain ⟨success, hsuccess, hstrong⟩ := hmatch
  have hdone := htrade.done_of_not_observed hremaining
  have hnone : hasRemaining e = .ok false := by
    unfold hasRemaining
    cases hr : e.remainingQuantity with
    | none => rfl
    | some remaining =>
      obtain ⟨q, hq⟩ := hreads.remaining remaining hr
      refine map_eq_ok.2 ⟨q, parseFinancialDecimal_eq_ok.2 hq, ?_⟩
      exact decide_eq_false fun hpositive => hremaining ⟨remaining, q, hr, hq, le_of_lt hpositive⟩
  have hunopened : openRemainingCandidate e loc success = .ok none := by
    unfold openRemainingCandidate
    rw [hdone]
    split
    · rfl
    · rfl
  have hunfilled : loc.status ≠ .filled := by
    intro hfilled
    rw [hfilled] at hopen
    exact absurd hopen (by decide)
  refine ⟨stateAdvancement e loc success .filled .fillCandidate "exchange_done_fully_filled",
    ⟨success, hsuccess, hstrong, ?_, hopen⟩, rfl⟩
  · unfold createStateAdvancementCandidate
    rw [hunopened, ok_bind]
    dsimp only
    rw [if_pos hdone, if_neg hunfilled, hnone]
    rfl

/-- everything that the engine compares reads -/
structure InputReads (input : ReconcileEngineInput) : Prop where
  locals : ∀ loc ∈ input.localOpenOrders, LocalReads loc
  localBalances : ∀ balance ∈ input.localBalances.getD [], BalanceReads balance
  exchangeBalances : ∀ balance ∈ input.exchangeBalances.getD [], BalanceReads balance
  snapshots : ∀ e ∈ input.exchangeOpenOrders ++ input.exchangeClosedOrders ++ input.orderLookups ++
    buildWebSocketOrderSnapshots input.websocketContext, Compared input.localOpenOrders e → SnapshotReads e

/-- **The engine returns** where everything that it compares reads. -/
theorem runReconcileEngine_total {input : ReconcileEngineInput} (h : InputReads input) :
    ∃ output, runReconcileEngine input = .ok output := by
  have hsnapshots : ∀ e ∈ prioritizeExchangeOrderSnapshots (input.exchangeOpenOrders ++ input.exchangeClosedOrders ++
      input.orderLookups ++ buildWebSocketOrderSnapshots input.websocketContext),
      Compared input.localOpenOrders e → SnapshotReads e := by
    intro e he
    exact h.snapshots e (stableSort_perm.mem_iff.1 he)
  obtain ⟨results, hresults⟩ := reconcileOrders_total hsnapshots h.locals
  obtain ⟨balance, hbalance⟩ := checkBalanceLock_total h.locals h.localBalances h.exchangeBalances
  unfold runReconcileEngine
  dsimp only
  rw [hresults, ok_bind, hbalance, ok_bind]
  exact ⟨_, rfl⟩

/-- the orders that a trade event fills have nothing left to fill, by the event's own remaining quantity -/
def FillsObserved (input : ReconcileEngineInput) (output : ReconcileEngineOutput) : Prop :=
  ∀ advancement ∈ output.stateAdvancements, advancement.targetLocalStatus = .filled →
    ∀ e, FromTrade input e → ∀ loc ∈ input.localOpenOrders, Advances e loc advancement →
      ∃ remaining, e.remainingQuantity = some remaining ∧ Host.valueOf remaining = some 0

end Host

/-! ## Runs -/

/-- a trade event for two units of the sample order, with these further fields -/
def tradeEvent (fields : List (String × PayloadField)) : ReconcileWebSocketEvent where
  type := .myOrder
  occurredAt := ⟨some 1, ""⟩
  payload := [("state", .text "trade"), ("code", .text "KRW-BTC"), ("ask_bid", .text "BID"), ("uuid", .text "u"),
    ("identifier", .text "a"), ("requestedQuantity", .text "2"), ("requestedPrice", .text "3")] ++ fields

def tradeInput (fields : List (String × PayloadField)) : ReconcileEngineInput :=
  sampleInput [] [] [] [tradeEvent fields] [sampleOrder "1" (some "u") (some "a")] "6"

/-- the snapshot that the engine makes of the event -/
def tradeSnapshot (exchangeStatus : String) (remainingQuantity : Option String) : ReconcileExchangeOrderSnapshot :=
  { sampleSnapshot .ws exchangeStatus (some "u") (some "a") "" 1 with remainingQuantity := remainingQuantity }

theorem tradeInput_snapshots :
    toWebSocketOrderSnapshot (tradeEvent []) = some (tradeSnapshot "done" none) ∧
      toWebSocketOrderSnapshot (tradeEvent [("rv", .text "0")]) = some (tradeSnapshot "done" (some "0")) := by
  decide +kernel

end SeeMirai.Reconcile
