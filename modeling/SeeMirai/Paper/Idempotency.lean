/-
Idempotency of the paper broker over whole runs.

Three maps have to agree for a resubmission to find its order: the key index, the fingerprints and the orders
themselves; a cancel rewrites one of them only. `Indexed` says that they do, and `Extends` says what a later state keeps
of an earlier one. Both hold of any run, also with calls that throw and with intents the other results do not admit.

Results:
- `Indexed.step` / `Indexed.run`: keys, fingerprints and stored orders stay in agreement.
- `step_extends` / `run_extends`: a key keeps its order and its fingerprint, a closed order is never written again.
- `broker_idempotent`: one order a key for the rest of the run; resubmissions and repeated cancels change nothing.
-/
import SeeMirai.Paper.Solvency

namespace SeeMirai.Paper

open Fallible

/-! ## Later states -/

/-- what a later state keeps: a key keeps its order and fingerprint, a closed order stays as it is -/
structure Extends (broker later : PaperBroker) : Prop where
  key : ∀ key id, broker.orderIdsByIdempotencyKey.get key = some id →
    later.orderIdsByIdempotencyKey.get key = some id ∧
      later.fingerprintsByIdempotencyKey.get key = broker.fingerprintsByIdempotencyKey.get key
  order : ∀ id order, broker.ordersById.get id = some order →
    ∃ order', later.ordersById.get id = some order' ∧ order'.idempotencyKey = order.idempotencyKey ∧
      (isOpenBrokerOrder order = false → order' = order)

theorem Extends.refl (broker : PaperBroker) : Extends broker broker :=
  ⟨fun _ _ h => ⟨h, rfl⟩, fun _ order h => ⟨order, h, rfl, fun _ => rfl⟩⟩

theorem Extends.trans {a b c : PaperBroker} (hab : Extends a b) (hbc : Extends b c) : Extends a c where
  key key id h := by
    obtain ⟨hb, hfb⟩ := hab.key key id h
    obtain ⟨hc, hfc⟩ := hbc.key key id hb
    exact ⟨hc, hfc.trans hfb⟩
  order id order h := by
    obtain ⟨orderB, hb, hkb, hclosedB⟩ := hab.order id order h
    obtain ⟨orderC, hc, hkc, hclosedC⟩ := hbc.order id orderB hb
    refine ⟨orderC, hc, hkc.trans hkb, fun hclosed => ?_⟩
    obtain rfl := hclosedB hclosed
    exact hclosedC hclosed

theorem createCanceledOrder_closed (order : BrokerOrder) (updatedAt : MarketTimestamp)
    (mutation : PaperBrokerCancelMutationSummary) :
    isOpenBrokerOrder (createCanceledOrder order mutation updatedAt) = false := by
  simp [isOpenBrokerOrder, createCanceledOrder]

section Host

variable [Host]

/-! ## The key index -/

/-- an order whose lock can be read back: its market splits, its price is a decimal -/
structure Readable (order : BrokerOrder) : Prop where
  market : ∃ currencies, parseMarketCurrencies order.market = .ok currencies
  price : ∀ price, order.requestedPrice = some price → ∃ p, Host.valueOf price = some p

/-- the key index, the fingerprints and the stored orders agree -/
structure Indexed (broker : PaperBroker) : Prop where
  order : ∀ key id, broker.orderIdsByIdempotencyKey.get key = some id →
    ∃ order, broker.ordersById.get id = some order ∧ order.idempotencyKey = key
  key : ∀ id order, broker.ordersById.get id = some order →
    order.brokerOrderId = id ∧ broker.orderIdsByIdempotencyKey.get order.idempotencyKey = some id
  number : ∀ id order, broker.ordersById.get id = some order →
    ∃ k < broker.nextOrderSequence, id = broker.brokerOrderIdPrefix ++ "-" ++ toString k
  readable : ∀ id order, broker.ordersById.get id = some order → isOpenBrokerOrder order = true → Readable order

variable {broker : PaperBroker} {submission : OrderSubmission} {brokerOrderId : String} {updatedAt : MarketTimestamp}
  {balances : InsertionMap String BrokerBalance} {order : BrokerOrder}

theorem Indexed.fresh (h : Indexed broker) : broker.ordersById.get broker.createBrokerOrderId = none := by
  cases hget : broker.ordersById.get broker.createBrokerOrderId with
  | none => rfl
  | some order =>
    obtain ⟨k, hk, hid⟩ := h.number _ order hget
    exact absurd (createBrokerOrderId_inj hid) hk.ne'

/-! ## Submissions -/

/-- an order left open was booked, so its market split and its price was read -/
theorem Filled.readable {fingerprint : SubmissionFingerprint}
    (hfingerprint : createSubmissionFingerprint submission.intent = .ok fingerprint)
    (h : Filled broker submission brokerOrderId updatedAt balances order) (hopen : isOpenBrokerOrder order = true) :
    Readable order := by
  cases h with
  | rejected _ _ _ hstatus _ =>
    have hopen := (isOpenBrokerOrder_iff.1 hopen).1
    rw [hstatus] at hopen
    cases hopen
  | booked orderbooks options simulation mutation hrequest hsimulation hmutation hcovered =>
    obtain ⟨currencies, hcurrencies, -⟩ := createSubmissionBalanceMutation_spec hmutation
    exact ⟨⟨currencies, hcurrencies⟩, fun price hprice => createSubmissionFingerprint_price hfingerprint hprice⟩

theorem Indexed.submitOrder (h : Indexed broker) (submission : OrderSubmission) (now : MarketTimestamp) :
    Indexed (broker.submitOrder submission now).1 := by
  rcases submitOrder_cases broker submission now with
    hsame | ⟨-, hthrown⟩ | ⟨fingerprint, balances, order, -, hfingerprint, hnew, hfilled, hstored⟩
  · rw [hsame]
    exact h
  · rw [hthrown]
    refine ⟨h.order, h.key, fun id order hget => ?_, h.readable⟩
    obtain ⟨k, hk, hid⟩ := h.number id order hget
    exact ⟨k, Nat.lt_succ_of_lt hk, hid⟩
  · have hid := hfilled.brokerOrderId_eq
    have hkey := hfilled.idempotencyKey_eq
    have hfresh : broker.ordersById.get order.brokerOrderId = none := by rw [hid]; exact h.fresh
    rw [hstored]
    -- a stored order is the new one, or an earlier one under another id
    refine ⟨fun key id hget => ?_, fun id existing hget => ?_, fun id existing hget => ?_, fun id existing hget hopen => ?_⟩
    · simp only [PaperBroker.storeOrder, InsertionMap.get_set] at hget ⊢
      split_ifs at hget with hsame
      · exact ⟨order, by rw [if_pos (Option.some.inj hget)], hsame⟩
      · obtain ⟨existing, hexisting, hexistingKey⟩ := h.order key id hget
        have hne : order.brokerOrderId ≠ id := by
          rintro rfl
          rw [hfresh] at hexisting
          cases hexisting
        exact ⟨existing, by rw [if_neg hne]; exact hexisting, hexistingKey⟩
    · rcases InsertionMap.set_cases hget with ⟨rfl, rfl⟩ | hold
      · exact ⟨rfl, by simp [PaperBroker.storeOrder]⟩
      · obtain ⟨hexistingId, hindex⟩ := h.key id existing hold
        have hne : order.idempotencyKey ≠ existing.idempotencyKey := by
          intro hsame
          rw [← hkey, hsame, hindex] at hnew
          cases hnew
        exact ⟨hexistingId, by simp only [PaperBroker.storeOrder, InsertionMap.get_set_ne _ _ hne]; exact hindex⟩
    · rcases InsertionMap.set_cases hget with ⟨rfl, rfl⟩ | hold
      · exact ⟨broker.nextOrderSequence, Nat.lt_succ_self _, hid⟩
      · obtain ⟨k, hk, hnumber⟩ := h.number id existing hold
        exact ⟨k, Nat.lt_succ_of_lt hk, hnumber⟩
    · rcases InsertionMap.set_cases hget with ⟨rfl, rfl⟩ | hold
      · exact hfilled.readable hfingerprint hopen
      · exact h.readable id existing hold hopen

theorem submitOrder_extends (h : Indexed broker) (submission : OrderSubmission) (now : MarketTimestamp) :
    Extends broker (broker.submitOrder submission now).1 := by
  rcases submitOrder_cases broker submission now with
    hsame | ⟨-, hthrown⟩ | ⟨fingerprint, balances, order, -, -, hnew, hfilled, hstored⟩
  · rw [hsame]
    exact Extends.refl broker
  · rw [hthrown]
    exact ⟨fun _ _ h => ⟨h, rfl⟩, fun _ order h => ⟨order, h, rfl, fun _ => rfl⟩⟩
  · rw [hstored]
    refine ⟨fun key id hget => ?_, fun id existing hget => ?_⟩
    · have hne : order.idempotencyKey ≠ key := by
        rintro rfl
        rw [hfilled.idempotencyKey_eq, hnew] at hget
        cases hget
      exact ⟨(InsertionMap.get_set_ne _ _ hne).trans hget, InsertionMap.get_set_ne _ _ hne⟩
    · have hne : order.brokerOrderId ≠ id := by
        rintro rfl
        rw [hfilled.brokerOrderId_eq, h.fresh] at hget
        cases hget
      exact ⟨existing, (InsertionMap.get_set_ne _ _ hne).trans hget, rfl, fun _ => rfl⟩

/-! ## Cancels -/

theorem Indexed.cancelOrder (h : Indexed broker) (orderId : String) (now : MarketTimestamp) :
    Indexed (broker.cancelOrder orderId now).1 := by
  rcases cancelOrder_cases broker orderId now with hsame | ⟨order, balances, mutation, hget, -, -, hcanceled⟩
  · rw [hsame]
    exact h
  · obtain ⟨hid, hindex⟩ := h.key orderId order hget
    rw [hcanceled, hid]
    -- the canceled order keeps the id and the key of the order it replaces
    refine ⟨fun key id hkey => ?_, fun id existing hexisting => ?_, fun id existing hexisting => ?_,
      fun id existing hexisting hopen => ?_⟩
    · obtain ⟨existing, hexisting, hexistingKey⟩ := h.order key id hkey
      by_cases hsame : orderId = id
      · subst hsame
        cases hget.symm.trans hexisting
        exact ⟨_, InsertionMap.get_set .. |>.trans (if_pos rfl), hexistingKey⟩
      · exact ⟨existing, (InsertionMap.get_set_ne _ _ hsame).trans hexisting, hexistingKey⟩
    · rcases InsertionMap.set_cases hexisting with ⟨rfl, rfl⟩ | hold
      · exact ⟨hid, hindex⟩
      · exact h.key id existing hold
    · rcases InsertionMap.set_cases hexisting with ⟨rfl, -⟩ | hold
      · exact h.number id order hget
      · exact h.number id existing hold
    · rcases InsertionMap.set_cases hexisting with ⟨-, rfl⟩ | hold
      · rw [createCanceledOrder_closed] at hopen
        cases hopen
      · exact h.readable id existing hold hopen

theorem cancelOrder_extends (h : Indexed broker) (orderId : String) (now : MarketTimestamp) :
    Extends broker (broker.cancelOrder orderId now).1 := by
  rcases cancelOrder_cases broker orderId now with hsame | ⟨order, balances, mutation, hget, hopen, -, hcanceled⟩
  · rw [hsame]
    exact Extends.refl broker
  · rw [hcanceled, (h.key orderId order hget).1]
    refine ⟨fun _ _ hkey => ⟨hkey, rfl⟩, fun id existing hexisting => ?_⟩
    by_cases hsame : orderId = id
    · subst hsame
      cases hget.symm.trans hexisting
      refine ⟨_, InsertionMap.get_set .. |>.trans (if_pos rfl), rfl, fun hclosed => ?_⟩
      rw [hopen] at hclosed
      cases hclosed
    · exact ⟨existing, (InsertionMap.get_set_ne _ _ hsame).trans hexisting, rfl, fun _ => rfl⟩

/-- a readable order can be released -/
theorem Readable.releaseOpenBalance (h : Readable order) (now : MarketTimestamp) :
    ∃ released, Paper.releaseOpenBalance balances order now = .ok released := by
  obtain ⟨currencies, hcurrencies⟩ := h.market
  unfold Paper.releaseOpenBalance
  rw [hcurrencies]
  simp only [ok_bind]
  split
  · rename_i requestedPrice _ hprice
    obtain ⟨p, hp⟩ := h.price requestedPrice hprice
    split_ifs
    · cases order.side with
      | buy => exact ⟨_, by simp only [parseFinancialDecimal_eq_ok.2 hp, ok_bind]; rfl⟩
      | sell => exact ⟨_, rfl⟩
    · exact ⟨_, rfl⟩
  · exact ⟨_, rfl⟩

/-- the cancel of a stored order returns the order it leaves stored, closed -/
theorem Indexed.cancelOrder_ok (h : Indexed broker) {orderId : String}
    (hget : broker.ordersById.get orderId = some order) (now : MarketTimestamp) :
    ∃ canceled, (broker.cancelOrder orderId now).2 = .ok canceled ∧ isOpenBrokerOrder canceled = false ∧
      (broker.cancelOrder orderId now).1.ordersById.get orderId = some canceled := by
  unfold PaperBroker.cancelOrder
  rw [hget]
  simp only
  split_ifs with hclosed
  · exact ⟨order, rfl, hclosed, hget⟩
  · obtain ⟨⟨balances, mutation⟩, hreleased⟩ :
        ∃ released, releaseOpenBalance broker.balancesByCurrency order now = .ok released :=
      (h.readable orderId order hget (by simpa using hclosed)).releaseOpenBalance now
    rw [hreleased]
    refine ⟨_, rfl, createCanceledOrder_closed order now mutation, ?_⟩
    have hid : (createCanceledOrder order mutation now).brokerOrderId = orderId := (h.key orderId order hget).1
    simp only [hid]
    exact InsertionMap.get_set .. |>.trans (if_pos rfl)

/-- a closed order is returned as it is -/
theorem cancelOrder_closed {orderId : String} (hget : broker.ordersById.get orderId = some order)
    (hclosed : isOpenBrokerOrder order = false) (now : MarketTimestamp) :
    broker.cancelOrder orderId now = (broker, .ok order) := by
  unfold PaperBroker.cancelOrder
  rw [hget]
  exact if_pos hclosed

/-! ## Resubmissions -/

/-- the key a stored order takes is bound to it, under the fingerprint it was submitted with -/
theorem submitOrder_binds (h : Indexed broker) {now : MarketTimestamp}
    (hok : (broker.submitOrder submission now).2 = .ok order) :
    (broker.submitOrder submission now).1.orderIdsByIdempotencyKey.get submission.intent.idempotencyKey
        = some order.brokerOrderId ∧
      ∃ fingerprint, createSubmissionFingerprint submission.intent = .ok fingerprint ∧
        (broker.submitOrder submission now).1.fingerprintsByIdempotencyKey.get submission.intent.idempotencyKey
          = some fingerprint := by
  unfold PaperBroker.submitOrder at hok ⊢
  cases hfingerprint : createSubmissionFingerprint submission.intent with
  | error e =>
    simp only [hfingerprint] at hok
    cases hok
  | ok fingerprint =>
    simp only [hfingerprint] at hok ⊢
    cases hindex : broker.orderIdsByIdempotencyKey.get submission.intent.idempotencyKey with
    | some existingOrderId =>
      simp only [hindex, ite_not] at hok ⊢
      split_ifs at hok ⊢ with hsame
      obtain ⟨existing, hexisting, -⟩ := h.order _ _ hindex
      simp only [PaperBroker.readExistingOrder, hexisting] at hok
      obtain rfl := pure_eq_ok.1 hok
      exact ⟨by rw [hindex, (h.key _ _ hexisting).1], fingerprint, rfl, hsame⟩
    | none =>
      simp only [hindex] at hok ⊢
      split at hok
      · cases hok
      · rename_i balances filled hfilled
        obtain rfl := pure_eq_ok.1 hok
        have hkey := (fillOrder_filled hfilled).idempotencyKey_eq
        simp only [PaperBroker.storeOrder, hkey, InsertionMap.get_set, if_true]
        exact ⟨trivial, fingerprint, rfl, rfl⟩

/-- under a bound key an equal fingerprint returns the order, any other outcome throws; the state is the same -/
theorem submitOrder_bound (h : Indexed broker) {id : String} {fingerprint : SubmissionFingerprint}
    (hindex : broker.orderIdsByIdempotencyKey.get submission.intent.idempotencyKey = some id)
    (hbound : broker.fingerprintsByIdempotencyKey.get submission.intent.idempotencyKey = some fingerprint)
    (now : MarketTimestamp) :
    (createSubmissionFingerprint submission.intent = .ok fingerprint →
      ∃ order, broker.ordersById.get id = some order ∧ broker.submitOrder submission now = (broker, .ok order)) ∧
    (createSubmissionFingerprint submission.intent ≠ .ok fingerprint →
      ∃ e, broker.submitOrder submission now = (broker, .error e)) := by
  unfold PaperBroker.submitOrder
  cases hfingerprint : createSubmissionFingerprint submission.intent with
  | error e =>
    refine ⟨fun hsame => ?_, fun _ => ⟨e, rfl⟩⟩
    cases hsame
  | ok own =>
    simp only [hindex, hbound, ite_not]
    refine ⟨fun hsame => ?_, fun hdiffers => ?_⟩
    · obtain ⟨order, hget, -⟩ := h.order _ _ hindex
      cases hsame
      refine ⟨order, hget, ?_⟩
      rw [if_pos rfl, PaperBroker.readExistingOrder, hget]
      rfl
    · rw [if_neg (fun hsame => hdiffers (by rw [Option.some.inj hsame]))]
      exact ⟨_, rfl⟩

/-! ## Runs -/

theorem Indexed.step (h : Indexed broker) (call : PaperBrokerCall) : Indexed (broker.step call) := by
  cases call with
  | submitOrder submission now => exact h.submitOrder submission now
  | cancelOrder orderId now => exact h.cancelOrder orderId now
  | recordOrderbookSnapshot snapshot => exact ⟨h.order, h.key, h.number, h.readable⟩
  | replaceOrderbookSnapshots snapshots => exact ⟨h.order, h.key, h.number, h.readable⟩

theorem step_extends (h : Indexed broker) (call : PaperBrokerCall) : Extends broker (broker.step call) := by
  cases call with
  | submitOrder submission now => exact submitOrder_extends h submission now
  | cancelOrder orderId now => exact cancelOrder_extends h orderId now
  | recordOrderbookSnapshot snapshot => exact ⟨(Extends.refl broker).key, (Extends.refl broker).order⟩
  | replaceOrderbookSnapshots snapshots => exact ⟨(Extends.refl broker).key, (Extends.refl broker).order⟩

theorem Indexed.run (h : Indexed broker) (calls : List PaperBrokerCall) : Indexed (broker.run calls) := by
  induction calls generalizing broker with
  | nil => exact h
  | cons call calls ih => exact ih (h.step call)

theorem run_extends (h : Indexed broker) (calls : List PaperBrokerCall) : Extends broker (broker.run calls) := by
  induction calls generalizing broker with
  | nil => exact Extends.refl broker
  | cons call calls ih => exact (step_extends h call).trans (ih (h.step call))

variable {options : PaperBrokerOptions} {initializedAt : MarketTimestamp} {initial : PaperBroker}

theorem create_indexed (h : PaperBroker.create options initializedAt = .ok initial) : Indexed initial := by
  obtain ⟨balances, -, h⟩ := bind_eq_ok.1 h
  obtain ⟨_, -, h⟩ := bind_eq_ok.1 h
  obtain rfl := pure_eq_ok.1 h
  exact ⟨fun _ _ h => (by cases h), fun _ _ h => (by cases h), fun _ _ h => (by cases h), fun _ _ h => (by cases h)⟩

/-- **Idempotency.** Whatever ran before and whatever runs in between: a key names one order for the rest of the run; a
resubmission with an equal fingerprint returns that order and changes nothing, one with another fingerprint throws and
changes nothing; and a second cancel, or one of an order that is no longer open, returns the order and changes
nothing. -/
theorem broker_idempotent (hcreate : PaperBroker.create options initializedAt = .ok initial)
    (calls : List PaperBrokerCall) :
    (∀ id order, (initial.run calls).ordersById.get id = some order → ∀ later id' order',
      ((initial.run calls).run later).ordersById.get id' = some order' →
      order'.idempotencyKey = order.idempotencyKey → id' = id) ∧
    (∀ submission now order, ((initial.run calls).submitOrder submission now).2 = .ok order → ∀ later again now',
      again.intent.idempotencyKey = submission.intent.idempotencyKey →
      let broker := ((initial.run calls).submitOrder submission now).1.run later
      (createSubmissionFingerprint again.intent = createSubmissionFingerprint submission.intent →
        ∃ stored, broker.ordersById.get order.brokerOrderId = some stored ∧
          broker.submitOrder again now' = (broker, .ok stored)) ∧
      (createSubmissionFingerprint again.intent ≠ createSubmissionFingerprint submission.intent →
        ∃ e, broker.submitOrder again now' = (broker, .error e))) ∧
    (∀ id order now, (initial.run calls).ordersById.get id = some order →
      ∃ canceled, ((initial.run calls).cancelOrder id now).2 = .ok canceled ∧ ∀ later now',
        let broker := ((initial.run calls).cancelOrder id now).1.run later
        broker.cancelOrder id now' = (broker, .ok canceled)) ∧
    ∀ id order now, (initial.run calls).ordersById.get id = some order → isOpenStatus order.status = false →
      (initial.run calls).cancelOrder id now = (initial.run calls, .ok order) := by
  have hindexed := (create_indexed hcreate).run calls
  refine ⟨?_, ?_, ?_, ?_⟩
  · intro id order hget later id' order' hget' hkey
    have hlater := hindexed.run later
    have hbound := ((run_extends hindexed later).key _ _ (hindexed.key id order hget).2).1
    have hbound' := (hlater.key id' order' hget').2
    rw [hkey, hbound] at hbound'
    exact (Option.some.inj hbound').symm
  · intro submission now order hok later again now' hkey broker
    have hsubmitted := hindexed.submitOrder submission now
    obtain ⟨hindex, fingerprint, hfingerprint, hbound⟩ := submitOrder_binds hindexed hok
    obtain ⟨hindex', hbound'⟩ := (run_extends hsubmitted later).key _ _ hindex
    rw [← hkey] at hindex' hbound'
    rw [hfingerprint]
    exact submitOrder_bound (hsubmitted.run later) hindex' (by rw [hbound', hkey, hbound]) now'
  · intro id order now hget
    obtain ⟨canceled, hok, hclosed, hstored⟩ := hindexed.cancelOrder_ok hget now
    refine ⟨canceled, hok, fun later now' => ?_⟩
    obtain ⟨kept, hkept, -, hsame⟩ := (run_extends (hindexed.cancelOrder id now) later).order id canceled hstored
    obtain rfl := hsame hclosed
    exact cancelOrder_closed hkept hclosed now'
  · intro id order now hget hterminal
    exact cancelOrder_closed hget (by simp [isOpenBrokerOrder, hterminal]) now

end Host

/-- an order is filled in part, canceled, and submitted again under other spellings of its numbers -/
theorem resubmission_after_cancel :
    ∃ broker, PaperBroker.create Example.options (.nanos 0) = .ok broker ∧
      ∃ order, (broker.submitOrder (Example.submission "k1" "3") (.nanos 1)).2 = .ok order ∧
      let later := (broker.submitOrder (Example.submission "k1" "3") (.nanos 1)).1.run
        [.cancelOrder order.brokerOrderId (.nanos 2)]
      ∃ stored, later.submitOrder (Example.submission "k1" "03") (.nanos 3) = (later, .ok stored) ∧
        stored.status = .canceled := by
  obtain ⟨broker, hbroker⟩ := exists_ok (x := PaperBroker.create Example.options (.nanos 0)) (by decide +kernel)
  have hrun : (PaperBroker.create Example.options (.nanos 0)).toOption.bind (fun broker =>
      (broker.submitOrder (Example.submission "k1" "3") (.nanos 1)).2.toOption.bind (fun order =>
        (((broker.submitOrder (Example.submission "k1" "3") (.nanos 1)).1.run
          [.cancelOrder order.brokerOrderId (.nanos 2)]).ordersById.get order.brokerOrderId).map BrokerOrder.status))
      = some .canceled := by decide +kernel
  rw [hbroker] at hrun
  cases hok : (broker.submitOrder (Example.submission "k1" "3") (.nanos 1)).2 with
  | error e => simp [Except.toOption, hok] at hrun
  | ok order =>
    simp only [Except.toOption, Option.bind_some, hok] at hrun
    obtain ⟨stored, hstored, hagain⟩ := ((broker_idempotent hbroker []).2.1 (Example.submission "k1" "3") (.nanos 1)
      order hok [.cancelOrder order.brokerOrderId (.nanos 2)] (Example.submission "k1" "03") (.nanos 3) rfl).1
      (by decide +kernel)
    refine ⟨broker, hbroker, order, hok, stored, hagain, ?_⟩
    simp only [PaperBroker.run, List.foldl_nil] at hstored hrun
    rw [hstored] at hrun
    exact Option.some.inj hrun

end SeeMirai.Paper
