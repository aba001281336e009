/-
Lease safety over every interleaving of dispatches of one fingerprint. A dispatch sends only under a lease that it
obtained (`dispatch_keeps`); a lease that has not expired is the one its store shows; a served call keeps both in step
(`serve_inv`).

`recordSent` clears the lease it finds. A provider that outlives its lease therefore clears the lease of the dispatch
that took over. `Timely` leaves that step out.

Results:
- `lease_ownership`: leases are safe in every timely run.
- `slow_send_clears`: and not in every run.
-/
import SeeMirai.Alerts.Leases

namespace SeeMirai.Alerts

open Async Postgres

/-! ## What a dispatch asks for -/

/-- where a dispatch is: the last time it read, and the lease it holds -/
structure LeasePlace where
  time : Option ℤ
  reservedUntil : Option ℤ

section Programs

variable {kind : CooldownStoreKind} {fingerprint : String} {severity : AlertSeverity}

/-- what the dispatches of one fingerprint ask of the store that its severity selects -/
def leaseMonitor (kind : CooldownStoreKind) (fingerprint : String) (severity : AlertSeverity) :
    Monitor AlertRequest AlertReply AlertError LeasePlace where
  Allowed place
    | .reserveDelivery store input => store = kind ∧ input.fingerprint = fingerprint ∧
        input.cooldownMs = getDefaultAlertCooldownMs input.severity ∧ input.severity = severity ∧
        place.time = some input.occurredAt ∧ place.reservedUntil = none
    | .releaseDeliveryReservation store input => store = kind ∧ input.fingerprint = fingerprint ∧
        place.reservedUntil = some input.reservedUntil
    | .recordSent store input => store = kind ∧ input.fingerprint = fingerprint ∧
        place.time = some input.occurredAt ∧ place.reservedUntil.isSome
    | .recordSkipped store input => store = kind ∧ input.fingerprint = fingerprint
    | .sendAlert _ => place.reservedUntil.isSome
    | _ => True
  after place
    | .clock, .ok time => { place with time := some time }
    | .reserveDelivery _ input, .ok result =>
      { place with
        reservedUntil :=
          if AlertCooldownReservationResult.reserved result then some input.reserveUntil else place.reservedUntil }
    | .releaseDeliveryReservation _ _, _ => { place with reservedUntil := none }
    | .recordSent _ _, _ => { place with reservedUntil := none }
    | _, _ => place

variable [Host] {request : AlertDispatchRequest} {options : AlertDispatchOptions} {place : LeasePlace}

/-- a reservation that was given is the lease of the dispatch -/
def Reserved (fingerprint : String) (place : LeasePlace) : Except AlertError ReservationContext → Prop
  | .ok context => place.time = some context.reservationAt ∧ context.recordInput.fingerprint = fingerprint ∧
      place.reservedUntil = if context.reservation.reserved then some context.reserveUntil else none
  | .error _ => True

theorem reserve_keeps (hseverity : request.severity = severity) (hfree : place.reservedUntil = none) :
    Keeps (leaseMonitor kind fingerprint severity) (Reserved fingerprint) place
      (reserveAlertDeliveryForDispatch options request fingerprint kind) := by
  refine keeps_call_bind trivial (fun time => ?_) (fun _ => trivial)
  refine keeps_settle_bind (fun reserveUntil _ => ?_) (fun _ _ => trivial)
  refine keeps_call_bind ⟨rfl, rfl, rfl, hseverity, rfl, hfree⟩ (fun result => ?_) (fun _ => trivial)
  refine keeps_pure ⟨rfl, rfl, ?_⟩
  simp only [leaseMonitor, hfree]

def Anywhere {α : Type} (_ : LeasePlace) (_ : Except AlertError α) : Prop := True

omit [Host] in
theorem audit_keeps (time : ℤ) (level reasonCode : String) :
    Keeps (leaseMonitor kind fingerprint severity) Anywhere place
      (appendAlertAudit options request fingerprint time level reasonCode) := by
  rw [appendAlertAudit]
  cases options.hasAuditLog with
  | true => exact keeps_call trivial fun _ => trivial
  | false => exact keeps_pure trivial

omit [Host] in
theorem skip_keeps (context : ReservationContext) (hfingerprint : context.recordInput.fingerprint = fingerprint) :
    Keeps (leaseMonitor kind fingerprint severity) Anywhere place
      (skipAlert options request fingerprint kind context) := by
  refine keeps_call_bind ⟨rfl, hfingerprint⟩ (fun _ => ?_) (fun _ => trivial)
  refine keeps_bind (audit_keeps _ _ _) (fun _ _ _ => ?_) (fun _ _ _ => trivial)
  exact keeps_call_bind trivial (fun _ => keeps_pure trivial) (fun _ => trivial)

theorem recordDelivered_keeps (notification : NotificationResult) (time : ℤ)
    (evaluation : NotificationFailureEvaluation) (htime : place.time = some time)
    (hlease : place.reservedUntil.isSome) :
    Keeps (leaseMonitor kind fingerprint severity) Anywhere place
      (recordDelivered options request fingerprint kind notification time evaluation) := by
  refine keeps_call_bind ⟨rfl, rfl, htime, hlease⟩ (fun _ => ?_) (fun _ => trivial)
  exact keeps_bind (audit_keeps _ _ _) (fun _ _ _ => keeps_pure trivial) (fun _ _ _ => trivial)

omit [Host] in
theorem enqueue_keeps (plan : NotificationRetryJobPlan) :
    Keeps (leaseMonitor kind fingerprint severity) Anywhere place (enqueueNotificationRetryJobSafely plan) := by
  have henqueue : Keeps (leaseMonitor kind fingerprint severity) Anywhere place (do
      let receipt : NotificationRetryJobEnqueueReceipt ← await (.enqueueNotificationRetryJob plan)
      return (.ok receipt : Except String NotificationRetryJobEnqueueReceipt)) :=
    keeps_call_bind trivial (fun _ => keeps_pure trivial) (fun _ => trivial)
  exact keeps_tryCatch henqueue (fun _ _ _ => trivial) (fun _ _ _ => keeps_pure trivial)

omit [Host] in
theorem planRetry_keeps (occurredAt : AlertTimestamp) :
    Keeps (leaseMonitor kind fingerprint severity) Anywhere place (planRetry request fingerprint occurredAt) := by
  rw [planRetry]
  split
  · exact keeps_settle trivial
  · exact keeps_pure trivial

omit [Host] in
theorem enqueueRetry_keeps (plan : Option NotificationRetryJobPlan) :
    Keeps (leaseMonitor kind fingerprint severity) Anywhere place (enqueueRetry options plan) := by
  rw [enqueueRetry]
  split
  · exact keeps_bind (enqueue_keeps _) (fun _ _ _ => keeps_pure trivial) (fun _ _ _ => trivial)
  · exact keeps_pure trivial

theorem releaseFailed_keeps (occurredAt : AlertTimestamp) (reserveUntil : ℤ) (notification : NotificationResult)
    (time : ℤ) (evaluation : NotificationFailureEvaluation) (hlease : place.reservedUntil = some reserveUntil) :
    Keeps (leaseMonitor kind fingerprint severity) Anywhere place
      (releaseFailed options request fingerprint kind occurredAt reserveUntil notification time evaluation) := by
  refine keeps_call_bind ⟨rfl, rfl, hlease⟩ (fun _ => ?_) (fun _ => trivial)
  refine keeps_bind (planRetry_keeps _) (fun _ plan _ => ?_) (fun _ _ _ => trivial)
  refine keeps_bind (enqueueRetry_keeps plan) (fun _ _ _ => ?_) (fun _ _ _ => trivial)
  exact keeps_bind (audit_keeps _ _ _) (fun _ _ _ => keeps_pure trivial) (fun _ _ _ => trivial)

omit [Host] in
/-- a send moves no lease, whether the provider answers or throws -/
theorem send_keeps (notification : AlertNotification) (hlease : place.reservedUntil.isSome) :
    Keeps (leaseMonitor kind fingerprint severity) (fun place' _ => place' = place) place
      (sendAlertSafely notification) := by
  have hcall : Keeps (leaseMonitor kind fingerprint severity) (fun place' _ => place' = place) place
      (await (.sendAlert notification)) := keeps_call hlease fun _ => rfl
  exact keeps_tryCatch hcall (fun _ _ h => h) (fun _ _ h => keeps_pure h)

theorem deliver_keeps (context : ReservationContext) (hlease : place.reservedUntil = some context.reserveUntil) :
    Keeps (leaseMonitor kind fingerprint severity) Anywhere place
      (deliverAlert options request fingerprint kind context) := by
  refine keeps_bind (send_keeps _ (by simp [hlease])) (fun place' notification hplace => ?_) (fun _ _ _ => trivial)
  subst hplace
  refine keeps_call_bind trivial (fun time => ?_) (fun _ => trivial)
  refine keeps_call_bind trivial (fun failureState => ?_) (fun _ => trivial)
  simp only
  split
  · exact recordDelivered_keeps notification time _ rfl (by simp [leaseMonitor, hlease])
  · exact releaseFailed_keeps _ _ notification time _ hlease

/-- **What a dispatch asks for.** It dates its calls by the last time it read, sends only under a lease that it obtained
and has not given back, and gives back that lease and no other. -/
theorem dispatch_keeps {alert : AlertDispatchRequest}
    (hfingerprint : createAlertFingerprint request = createAlertFingerprint alert) :
    Keeps (leaseMonitor (selectCooldownStore alert.severity) (createAlertFingerprint alert) alert.severity) Anywhere
      ⟨none, none⟩ (dispatchAlertWithCooldown options request) := by
  have hseverity := severity_of_fingerprint hfingerprint
  rw [dispatchAlertWithCooldown]
  simp only [hfingerprint, hseverity]
  generalize createAlertFingerprint alert = fingerprint
  generalize selectCooldownStore alert.severity = kind
  refine keeps_bind (reserve_keeps hseverity rfl) (fun place first hfirst => ?_) (fun _ _ _ => trivial)
  have hagain : Keeps (leaseMonitor kind fingerprint alert.severity) (Reserved fingerprint) place
      (reserveAgain options request fingerprint kind first) := by
    rw [reserveAgain]
    split
    · rename_i hrefused
      exact reserve_keeps hseverity (by rw [hfirst.2.2, hrefused.1]; rfl)
    · exact keeps_pure hfirst
  refine keeps_bind hagain (fun place context hreserved => ?_) (fun _ _ _ => trivial)
  have hlease := hreserved.2.2
  cases hgiven : context.reservation.reserved with
  | true => exact deliver_keeps context (by rw [hlease, hgiven]; rfl)
  | false => exact skip_keeps context hreserved.2.1

end Programs

/-! ## What every served call keeps -/

section Invariant

variable {ι : Type} [DecidableEq ι] [Host] {alert : AlertDispatchRequest}

/-- the last send that the store of the alert shows -/
def standingSend (alert : AlertDispatchRequest) (shared : LeaseShared ι) : Option ℤ :=
  lastSentAt (shared.stores.states (selectCooldownStore alert.severity)) (createAlertFingerprint alert)

/-- the books, the store and the dispatches in step: whoever holds an unexpired lease has the one that stands -/
structure LeaseInv (alert : AlertDispatchRequest) (shared : LeaseShared ι) (places : ι → Option LeasePlace) : Prop where
  times : ∀ i place, places i = some place → ∀ time, place.time = some time → time ≤ shared.now
  held : ∀ i place, places i = some place → ∀ u, place.reservedUntil = some u →
    shared.lease i = some u ∧ (shared.now < u → standingLease alert shared = some u ∧ shared.owner = some i)
  sends : ∀ time ∈ shared.recorded, ∃ sent, standingSend alert shared = some sent ∧ time ≤ sent
  sentBefore : selectCooldownStore alert.severity = .memory → ∀ sent, standingSend alert shared = some sent →
    sent ≤ shared.now

abbrev alertMonitor (alert : AlertDispatchRequest) : Monitor AlertRequest AlertReply AlertError LeasePlace :=
  leaseMonitor (selectCooldownStore alert.severity) (createAlertFingerprint alert) alert.severity

/-- moving one place: the others stay in step -/
theorem LeaseInv.move {shared shared' : LeaseShared ι} {places : ι → Option LeasePlace}
    (h : LeaseInv alert shared places) {i : ι} {place : LeasePlace} (hnow : shared'.now = shared.now)
    (htimes : ∀ time, place.time = some time → time ≤ shared.now)
    (hheld : ∀ u, place.reservedUntil = some u → shared'.lease i = some u ∧
      (shared.now < u → standingLease alert shared' = some u ∧ shared'.owner = some i))
    (hothers : ∀ j, j ≠ i → shared'.lease j = shared.lease j ∧ ∀ u, shared.now < u →
      standingLease alert shared = some u → shared.owner = some j →
      standingLease alert shared' = some u ∧ shared'.owner = some j)
    (hsends : ∀ time ∈ shared'.recorded, ∃ sent, standingSend alert shared' = some sent ∧ time ≤ sent)
    (hbefore : selectCooldownStore alert.severity = .memory → ∀ sent, standingSend alert shared' = some sent →
      sent ≤ shared.now) : LeaseInv alert shared' (Function.update places i (some place)) where
  times := by
    intro j place' hj time htime
    rw [hnow]
    by_cases hji : j = i
    · subst hji
      rw [Function.update_self] at hj
      exact htimes time (Option.some.inj hj ▸ htime)
    · rw [Function.update_of_ne hji] at hj
      exact h.times j place' hj time htime
  held := by
    intro j place' hj u hu
    rw [hnow]
    by_cases hji : j = i
    · subst hji
      rw [Function.update_self] at hj
      exact hheld u (Option.some.inj hj ▸ hu)
    · rw [Function.update_of_ne hji] at hj
      obtain ⟨hlease, hstands⟩ := h.held j place' hj u hu
      obtain ⟨hsame, hkept⟩ := hothers j hji
      refine ⟨hsame.trans hlease, fun hlt => ?_⟩
      obtain ⟨hstanding, howner⟩ := hstands hlt
      exact hkept u hlt hstanding howner
  sends := hsends
  sentBefore := by
    rw [hnow]
    exact hbefore

omit [Host] in
theorem after_stores (shared : LeaseShared ι) (i : ι) (kind : CooldownStoreKind) (call : CooldownCall) :
    (shared.after i kind call).stores = (shared.stores.perform kind call).2 := by
  unfold LeaseShared.after LeaseShared.booked
  split <;> rfl

omit [Host] in
theorem after_now (shared : LeaseShared ι) (i : ι) (kind : CooldownStoreKind) (call : CooldownCall) :
    (shared.after i kind call).now = shared.now := by
  unfold LeaseShared.after LeaseShared.booked
  split <;> rfl

omit [Host] in
/-- the leases of the others stay in the books -/
theorem after_lease_of_ne (shared : LeaseShared ι) {i j : ι} (kind : CooldownStoreKind) (call : CooldownCall)
    (hne : j ≠ i) : (shared.after i kind call).lease j = shared.lease j := by
  unfold LeaseShared.after LeaseShared.booked
  split
  · exact Function.update_of_ne hne _ _
  · exact Function.update_of_ne hne _ _
  · exact Function.update_of_ne hne _ _
  · rfl

/-- what a call about the alert does to its lease and its last send -/
theorem standing_after (shared : LeaseShared ι) (i : ι) (call : CooldownCall)
    (hfingerprint : call.fingerprint = createAlertFingerprint alert) (hdefault : call.UsesDefault) :
    CellChange (decide (selectCooldownStore alert.severity = .memory)) (standingLease alert shared)
      (standingSend alert shared) call (shared.stores.perform (selectCooldownStore alert.severity) call).1
      (standingLease alert (shared.after i (selectCooldownStore alert.severity) call))
      (standingSend alert (shared.after i (selectCooldownStore alert.severity) call)) := by
  have h := stores_change shared.stores (selectCooldownStore alert.severity) call hdefault
  rw [hfingerprint] at h
  simpa only [standingLease, standingSend, after_stores] using h

omit [Host] in
/-- only a granted reservation changes hands -/
theorem after_owner {shared : LeaseShared ι} {i : ι} {kind : CooldownStoreKind} {call : CooldownCall}
    (hrefused : ∀ input state, call = .reserve input →
      (shared.stores.perform kind call).1 ≠ .ok (.reservation ⟨true, state⟩)) :
    (shared.after i kind call).owner = shared.owner := by
  unfold LeaseShared.after LeaseShared.booked
  split
  · rename_i hgiven
    exact absurd hgiven (hrefused _ _ rfl)
  · rfl
  · rfl
  · rfl

omit [Host] in
/-- only a recorded send adds to the record -/
theorem after_recorded {shared : LeaseShared ι} {i : ι} {kind : CooldownStoreKind} {call : CooldownCall}
    {time : ℤ} (hmem : time ∈ (shared.after i kind call).recorded) :
    time ∈ shared.recorded ∨
      ∃ input answer, call = .sent input ∧ (shared.stores.perform kind call).1 = .ok answer ∧
        time = input.occurredAt := by
  revert hmem
  unfold LeaseShared.after LeaseShared.booked
  split
  · exact Or.inl
  · exact Or.inl
  · rename_i input answer hanswer
    intro hmem
    rcases List.mem_cons.1 hmem with rfl | hmem
    · exact Or.inr ⟨input, answer, rfl, hanswer, rfl⟩
    · exact Or.inl hmem
  · exact Or.inl

omit [Host] in
theorem after_granted {shared : LeaseShared ι} {i : ι} {kind : CooldownStoreKind}
    {input : AlertCooldownReservationInput} {state : AlertCooldownState}
    (hgranted : (shared.stores.perform kind (.reserve input)).1 = .ok (.reservation ⟨true, state⟩)) :
    (shared.after i kind (.reserve input)).lease i = some input.reserveUntil ∧
      (shared.after i kind (.reserve input)).owner = some i := by
  rw [LeaseShared.after, hgranted]
  exact ⟨Function.update_self _ _ _, rfl⟩

/-- a reservation: refused, it changes nothing; given, no unexpired lease stood in its way -/
theorem LeaseInv.reserve {shared : LeaseShared ι} {places : ι → Option LeasePlace} (h : LeaseInv alert shared places)
    {i : ι} {place place' : LeasePlace} {input : AlertCooldownReservationInput} (hplace : places i = some place)
    (hfingerprint : input.fingerprint = createAlertFingerprint alert)
    (hdefault : input.cooldownMs = getDefaultAlertCooldownMs input.severity)
    (htime : place.time = some input.occurredAt) (htime' : place'.time = place.time)
    (hlease' : ∀ u, place'.reservedUntil = some u → u = input.reserveUntil ∧ ∃ state,
      (shared.stores.perform (selectCooldownStore alert.severity) (.reserve input)).1 =
        .ok (.reservation ⟨true, state⟩)) :
    LeaseInv alert (shared.after i (selectCooldownStore alert.severity) (.reserve input))
      (Function.update places i (some place')) := by
  have hread : input.occurredAt ≤ shared.now := h.times i place hplace _ htime
  have htimes : ∀ time, place'.time = some time → time ≤ shared.now := fun time hpast =>
    h.times i place hplace time (htime' ▸ hpast)
  have hrecorded : ∀ time ∈ (shared.after i (selectCooldownStore alert.severity) (.reserve input)).recorded,
      time ∈ shared.recorded := by
    intro time hmem
    rcases after_recorded hmem with hmem | ⟨_, _, hcall, -⟩
    · exact hmem
    · cases hcall
  have hchange := standing_after shared i (.reserve input) hfingerprint hdefault
  rcases hchange.reserve_cases with ⟨hrefused, hlease, hsent⟩ | ⟨⟨state, hgranted⟩, hlease, hsent, -, hfree⟩
  · refine h.move (after_now _ _ _ _) htimes (fun u hu => ?_) (fun j hne => ⟨after_lease_of_ne _ _ _ hne, ?_⟩) ?_ ?_
    · obtain ⟨-, state, hgranted⟩ := hlease' u hu
      exact absurd hgranted (hrefused state)
    · intro u _ hstanding howner
      exact ⟨hlease.trans hstanding, (after_owner fun _ state _ => hrefused state).trans howner⟩
    · rw [hsent]
      exact fun time hmem => h.sends time (hrecorded time hmem)
    · rw [hsent]
      exact h.sentBefore
  · refine h.move (after_now _ _ _ _) htimes (fun u hu => ?_) (fun j hne => ⟨after_lease_of_ne _ _ _ hne, ?_⟩) ?_ ?_
    · obtain ⟨rfl, -⟩ := hlease' u hu
      obtain ⟨hbooked, howner⟩ := after_granted (i := i) hgranted
      exact ⟨hbooked, fun _ => ⟨hlease, howner⟩⟩
    · intro u hunexpired hstanding _
      exact absurd (hfree u hstanding) (by omega)
    · rw [hsent]
      exact fun time hmem => h.sends time (hrecorded time hmem)
    · rw [hsent]
      exact h.sentBefore

/-- a release takes the lease of its caller, or none -/
theorem LeaseInv.release {shared : LeaseShared ι} {places : ι → Option LeasePlace} (h : LeaseInv alert shared places)
    {i : ι} {place : LeasePlace} {input : AlertCooldownReleaseInput} (hplace : places i = some place)
    (hfingerprint : input.fingerprint = createAlertFingerprint alert)
    (hown : place.reservedUntil = some input.reservedUntil) :
    LeaseInv alert (shared.after i (selectCooldownStore alert.severity) (.release input))
      (Function.update places i (some { place with reservedUntil := none })) := by
  have howner : (shared.after i (selectCooldownStore alert.severity) (.release input)).owner = shared.owner :=
    after_owner fun _ _ hcall => by cases hcall
  obtain ⟨hsent, hlease⟩ := (standing_after shared i (.release input) hfingerprint trivial).release_cases
  refine h.move (after_now _ _ _ _) (h.times i place hplace) (fun u hu => by cases hu) (fun j hne => ?_) ?_ ?_
  · refine ⟨after_lease_of_ne _ _ _ hne, fun u hunexpired hstanding hj => ⟨?_, howner.trans hj⟩⟩
    rcases hlease with hlease | ⟨hstood, -⟩
    · exact hlease.trans hstanding
    · obtain rfl : u = input.reservedUntil := Option.some.inj (hstanding.symm.trans hstood)
      have hi := ((h.held i place hplace _ hown).2 hunexpired).2
      exact absurd (Option.some.inj (hj.symm.trans hi)) hne
  · rw [hsent]
    intro time hmem
    rcases after_recorded hmem with hmem | ⟨_, _, hcall, -⟩
    · exact h.sends time hmem
    · cases hcall
  · rw [hsent]
    exact h.sentBefore

/-- a recorded send in time: the lease it clears is its own, or has expired -/
theorem LeaseInv.sent {shared : LeaseShared ι} {places : ι → Option LeasePlace} (h : LeaseInv alert shared places)
    {i : ι} {place : LeasePlace} {input : AlertCooldownRecordInput} (hplace : places i = some place)
    (hfingerprint : input.fingerprint = createAlertFingerprint alert)
    (htime : place.time = some input.occurredAt)
    (hturn : selectCooldownStore alert.severity = .memory → input.occurredAt = shared.now)
    (htimely : ∀ u, standingLease alert shared = some u → shared.now < u → shared.owner = some i) :
    LeaseInv alert (shared.after i (selectCooldownStore alert.severity) (.sent input))
      (Function.update places i (some { place with reservedUntil := none })) := by
  have hread : input.occurredAt ≤ shared.now := h.times i place hplace _ htime
  have howner : (shared.after i (selectCooldownStore alert.severity) (.sent input)).owner = shared.owner :=
    after_owner fun _ _ hcall => by cases hcall
  have hothers : ∀ j, j ≠ i → ∀ u, shared.now < u → standingLease alert shared = some u →
      ¬ shared.owner = some j := fun j hne u hunexpired hstanding hj =>
    hne (Option.some.inj (hj.symm.trans (htimely u hstanding hunexpired)))
  refine h.move (after_now _ _ _ _) (h.times i place hplace) (fun u hu => by cases hu) (fun j hne =>
    ⟨after_lease_of_ne _ _ _ hne, fun u hunexpired hstanding hj =>
      absurd hj (hothers j hne u hunexpired hstanding)⟩) ?_ ?_
  · intro time hmem
    rcases (standing_after shared i (.sent input) hfingerprint trivial).sent_cases with
      ⟨hfailed, -, hsent⟩ | ⟨_, sent, -, -, hsent, hlatest, hkept, hmemory⟩
    · rcases after_recorded hmem with hmem | ⟨_, answer, -, hanswer, -⟩
      · rw [hsent]
        exact h.sends time hmem
      · exact absurd hanswer (hfailed answer)
    · refine ⟨sent, hsent, ?_⟩
      rcases after_recorded hmem with hmem | ⟨_, _, hcall, -, rfl⟩
      · obtain ⟨before, hbefore, hle⟩ := h.sends time hmem
        by_cases hstore : selectCooldownStore alert.severity = .memory
        · calc time ≤ before := hle
            _ ≤ shared.now := h.sentBefore hstore before hbefore
            _ = input.occurredAt := (hturn hstore).symm
            _ ≤ sent := hlatest
        · exact hle.trans (hkept (decide_eq_false hstore) before hbefore)
      · cases hcall
        exact hlatest
  · intro hstore sent' hsent'
    rcases (standing_after shared i (.sent input) hfingerprint trivial).sent_cases with
      ⟨-, -, hsent⟩ | ⟨_, sent, -, -, hsent, -, -, hmemory⟩
    · exact h.sentBefore hstore sent' (hsent ▸ hsent')
    · obtain rfl : sent = sent' := Option.some.inj (hsent.symm.trans hsent')
      rw [hmemory (decide_eq_true hstore)]
      exact hread

/-- a recorded skip leaves leases and sends alone -/
theorem LeaseInv.skipped {shared : LeaseShared ι} {places : ι → Option LeasePlace} (h : LeaseInv alert shared places)
    {i : ι} {place : LeasePlace} {input : AlertCooldownRecordInput} (hplace : places i = some place)
    (hfingerprint : input.fingerprint = createAlertFingerprint alert) :
    LeaseInv alert (shared.after i (selectCooldownStore alert.severity) (.skipped input))
      (Function.update places i (some place)) := by
  have howner : (shared.after i (selectCooldownStore alert.severity) (.skipped input)).owner = shared.owner :=
    after_owner fun _ _ hcall => by cases hcall
  obtain ⟨hlease, hsent⟩ := (standing_after shared i (.skipped input) hfingerprint trivial).skipped_cases
  refine h.move (after_now _ _ _ _) (h.times i place hplace) (fun u hu => ?_) (fun j hne =>
    ⟨after_lease_of_ne _ _ _ hne, fun u _ hstanding hj => ⟨hlease.trans hstanding, howner.trans hj⟩⟩) ?_ ?_
  · obtain ⟨hbooked, hstands⟩ := h.held i place hplace u hu
    refine ⟨hbooked, fun hunexpired => ?_⟩
    obtain ⟨hstanding, hi⟩ := hstands hunexpired
    exact ⟨hlease.trans hstanding, howner.trans hi⟩
  · rw [hsent]
    intro time hmem
    rcases after_recorded hmem with hmem | ⟨_, _, hcall, -⟩
    · exact h.sends time hmem
    · cases hcall
  · rw [hsent]
    exact h.sentBefore

omit [Host] in
/-- a reservation that the reply gives was given by the store -/
theorem PassesOn.granted {kind : CooldownStoreKind} {input : AlertCooldownReservationInput}
    {answer : Except StoreError CooldownAnswer} {result : AlertCooldownReservationResult}
    (h : PassesOn (.reserveDelivery kind input) answer result) (hreserved : result.reserved = true) :
    ∃ state, answer = .ok (.reservation ⟨true, state⟩) := by
  rcases answer with error | ⟨given⟩ | state
  · exact h.elim
  · rcases h with rfl | ⟨hrefused, -⟩
    · exact ⟨result.state, by rw [← hreserved]⟩
    · exact absurd (hreserved.symm.trans hrefused) (by decide)
  · exact h.elim

/-- nothing was asked of the stores: a dispatch may read the clock, or lose its lease -/
theorem LeaseInv.stay {shared : LeaseShared ι} {places : ι → Option LeasePlace} (h : LeaseInv alert shared places)
    {i : ι} {place : LeasePlace} (htimes : ∀ time, place.time = some time → time ≤ shared.now)
    (hheld : ∀ u, place.reservedUntil = some u → ∃ before, places i = some before ∧ before.reservedUntil = some u) :
    LeaseInv alert shared (Function.update places i (some place)) := by
  refine h.move rfl htimes (fun u hu => ?_) (fun j _ => ⟨rfl, fun u _ hstanding hj => ⟨hstanding, hj⟩⟩) h.sends
    h.sentBefore
  obtain ⟨before, hbefore, hlease⟩ := hheld u hu
  exact h.held i before hbefore u hlease

/-- a call that threw: a dispatch whose release or record failed holds its lease no more -/
theorem LeaseInv.thrown {shared : LeaseShared ι} {places : ι → Option LeasePlace} (h : LeaseInv alert shared places)
    {i : ι} {place : LeasePlace} (hplace : places i = some place) (request : AlertRequest) (error : AlertError) :
    LeaseInv alert shared
      (Function.update places i (some ((alertMonitor alert).after place request (.error error)))) := by
  have hsame : LeaseInv alert shared (Function.update places i (some place)) :=
    h.stay (h.times i place hplace) fun u hu => ⟨place, hplace, hu⟩
  have hdropped : LeaseInv alert shared (Function.update places i (some { place with reservedUntil := none })) :=
    h.stay (h.times i place hplace) fun u hu => by cases hu
  cases request with
  | releaseDeliveryReservation _ _ => exact hdropped
  | recordSent _ _ => exact hdropped
  | _ => exact hsame

/-- a store call that ran, whether its answer arrives or is lost -/
theorem LeaseInv.performed {shared : LeaseShared ι} {places : ι → Option LeasePlace} (h : LeaseInv alert shared places)
    {i : ι} {place : LeasePlace} (hplace : places i = some place) {request : AlertRequest} {kind : CooldownStoreKind}
    {call : CooldownCall} (hallowed : (alertMonitor alert).Allowed place request)
    (hcall : request.storeCall = some (kind, call)) (htimely : Timely i shared request)
    (hturn : kind = .memory → ∀ time, request.readAt = some time → time = shared.now)
    {reply : Except AlertError (AlertReply request)}
    (hreply : ∀ value, reply = .ok value → PassesOn request (shared.stores.perform kind call).1 value) :
    LeaseInv alert (shared.after i kind call)
      (Function.update places i (some ((alertMonitor alert).after place request reply))) := by
  cases request with
  | reserveDelivery store input =>
    cases hcall
    obtain ⟨rfl, hfingerprint, hdefault, -, htime, hfree⟩ := hallowed
    refine h.reserve hplace hfingerprint hdefault htime ?_ (fun u hu => ?_)
    · cases reply <;> rfl
    · cases reply with
      | error error => exact absurd (hfree.symm.trans hu) (by simp)
      | ok result =>
        have hpassed := hreply result rfl
        simp only [leaseMonitor] at hu
        split at hu
        · rename_i hreserved
          refine ⟨(Option.some.inj hu).symm, ?_⟩
          exact hpassed.granted hreserved
        · exact absurd (hfree.symm.trans hu) (by simp)
  | releaseDeliveryReservation store input =>
    cases hcall
    obtain ⟨rfl, hfingerprint, hown⟩ := hallowed
    exact h.release hplace hfingerprint hown
  | recordSent store input =>
    cases hcall
    obtain ⟨rfl, hfingerprint, htime, -⟩ := hallowed
    refine h.sent hplace hfingerprint htime (fun hstore => hturn hstore _ rfl) (fun u hstanding hunexpired => ?_)
    refine htimely _ input rfl u ?_ hunexpired
    rw [hfingerprint]
    exact hstanding
  | recordSkipped store input =>
    cases hcall
    obtain ⟨rfl, hfingerprint⟩ := hallowed
    exact h.skipped hplace hfingerprint
  | _ => cases hcall

/-- what every served request keeps -/
theorem serve_inv {shared shared' : LeaseShared ι} {places : ι → Option LeasePlace} (h : LeaseInv alert shared places)
    {i : ι} {place : LeasePlace} (hplace : places i = some place) {request : AlertRequest}
    (hallowed : (alertMonitor alert).Allowed place request) {reply : Except AlertError (AlertReply request)}
    (hserves : Serves i shared request reply shared') (htimely : Timely i shared request) :
    LeaseInv alert shared' (Function.update places i (some ((alertMonitor alert).after place request reply))) := by
  cases hserves with
  | clock =>
    refine h.stay (fun time htime => ?_) (fun u hu => ⟨place, hplace, hu⟩)
    exact le_of_eq (Option.some.inj htime).symm
  | throws _ error => exact h.thrown hplace request error
  | other _ reply hclock hother =>
    have hsame : LeaseInv alert shared (Function.update places i (some place)) :=
      h.stay (h.times i place hplace) fun u hu => ⟨place, hplace, hu⟩
    cases request with
    | clock => exact absurd rfl hclock
    | reserveDelivery _ _ => cases hother
    | releaseDeliveryReservation _ _ => cases hother
    | recordSent _ _ => cases hother
    | recordSkipped _ _ => cases hother
    | _ => exact hsame
  | store _ kind call reply hcall hturn hreply =>
    refine h.performed hplace hallowed hcall htimely hturn fun value hvalue => ?_
    exact Except.ok.inj hvalue ▸ hreply
  | lost _ kind call error hcall hturn =>
    exact h.performed hplace hallowed hcall htimely hturn fun value hvalue => by cases hvalue

theorem lease_invariant : Invariant (leaseEnvironment (ι := ι) alert Timely) (fun _ => alertMonitor alert)
    (fun _ => Anywhere) (LeaseInv alert) where
  start := by
    rintro shared places i program _ h - ⟨rfl, options, request, hfingerprint, rfl⟩
    exact ⟨⟨none, none⟩, dispatch_keeps hfingerprint, h.stay (fun _ htime => by cases htime) fun _ hu => by cases hu⟩
  serve shared places i place request reply shared' h hplace hallowed hserves :=
    serve_inv h hplace hallowed hserves.1 hserves.2
  stop shared places i h := by
    have hother : ∀ j place, Function.update places i none j = some place → places j = some place := by
      intro j place hj
      by_cases hji : j = i
      · subst hji
        simp at hj
      · rwa [Function.update_of_ne hji] at hj
    exact ⟨fun j place hj => h.times j place (hother j place hj), fun j place hj => h.held j place (hother j place hj),
      h.sends, h.sentBefore⟩
  drift := by
    rintro shared places _ h ⟨now, hle, rfl⟩
    refine ⟨fun i place hi time htime => (h.times i place hi time htime).trans hle, fun i place hi u hu => ?_, h.sends,
      fun hstore sent hsent => (h.sentBefore hstore sent hsent).trans hle⟩
    obtain ⟨hbooked, hstands⟩ := h.held i place hi u hu
    exact ⟨hbooked, fun hunexpired => hstands (hle.trans_lt hunexpired)⟩

omit [DecidableEq ι] in
theorem initial_inStep : InStep (fun _ : ι => alertMonitor alert) (fun _ => Anywhere) (LeaseInv alert)
    (initialLeaseWorld : LeaseWorld ι) := by
  refine ⟨fun _ => none, ⟨?_, ?_, ?_, ?_⟩, fun _ => trivial⟩
  · intro i place h
    cases h
  · intro i place h
    cases h
  · intro time h
    cases h
  · intro hstore sent hsent
    simp [standingSend, initialLeaseWorld, hstore, Stores.states, lastSentAt] at hsent

/-- a lease that a call takes away is the lease of its caller -/
theorem LeaseInv.own_clears {shared : LeaseShared ι} {places : ι → Option LeasePlace} (h : LeaseInv alert shared places)
    {i : ι} {place : LeasePlace} (hplace : places i = some place) {request : AlertRequest}
    (hallowed : (alertMonitor alert).Allowed place request) {kind : CooldownStoreKind} {call : CooldownCall}
    (hcall : request.storeCall = some (kind, call)) (htimely : Timely i shared request) {u : ℤ}
    (hstanding : standingLease alert shared = some u) (hunexpired : shared.now < u)
    (hcleared : standingLease alert (shared.after i kind call) ≠ some u) : shared.owner = some i := by
  cases request with
  | reserveDelivery store input =>
    cases hcall
    obtain ⟨rfl, hfingerprint, hdefault, -, htime, -⟩ := hallowed
    have hread : input.occurredAt ≤ shared.now := h.times i place hplace _ htime
    rcases (standing_after shared i (.reserve input) hfingerprint hdefault).reserve_cases with
      ⟨-, hlease, -⟩ | ⟨-, -, -, -, hfree⟩
    · exact absurd (hlease.trans hstanding) hcleared
    · exact absurd (hfree u hstanding) (by omega)
  | releaseDeliveryReservation store input =>
    cases hcall
    obtain ⟨rfl, hfingerprint, hown⟩ := hallowed
    rcases (standing_after shared i (.release input) hfingerprint trivial).release_cases.2 with hlease | ⟨hstood, -⟩
    · exact absurd (hlease.trans hstanding) hcleared
    · obtain rfl : u = input.reservedUntil := Option.some.inj (hstanding.symm.trans hstood)
      exact ((h.held i place hplace _ hown).2 hunexpired).2
  | recordSent store input =>
    cases hcall
    obtain ⟨rfl, hfingerprint, -⟩ := hallowed
    refine htimely _ input rfl u ?_ hunexpired
    rw [hfingerprint]
    exact hstanding
  | recordSkipped store input =>
    cases hcall
    obtain ⟨rfl, hfingerprint⟩ := hallowed
    have hlease := (standing_after shared i (.skipped input) hfingerprint trivial).skipped_cases.1
    exact absurd (hlease.trans hstanding) hcleared
  | _ => cases hcall

/-- a reservation that is given comes a cooldown after every recorded send -/
theorem LeaseInv.cooled_down {shared shared' : LeaseShared ι} {places : ι → Option LeasePlace}
    (h : LeaseInv alert shared places) {i : ι} {place : LeasePlace} {kind : CooldownStoreKind}
    {input : AlertCooldownReservationInput} {reply : AlertCooldownReservationResult}
    (hallowed : (alertMonitor alert).Allowed place (.reserveDelivery kind input))
    (hserves : Serves i shared (.reserveDelivery kind input) (.ok reply) shared') (hreserved : reply.reserved = true) :
    ∀ sent ∈ shared.recorded, sent + getDefaultAlertCooldownMs alert.severity ≤ input.occurredAt := by
  obtain ⟨rfl, hfingerprint, hdefault, hseverity, -, -⟩ := hallowed
  cases hserves with
  | other _ _ _ hother => cases hother
  | store _ _ call _ hcall _ hreply =>
    cases hcall
    obtain ⟨state, hgranted⟩ := hreply.granted hreserved
    rcases (standing_after shared i (.reserve input) hfingerprint hdefault).reserve_cases with
      ⟨hrefused, -, -⟩ | ⟨-, -, -, hcooled, -⟩
    · exact absurd hgranted (hrefused state)
    · intro sent hmem
      obtain ⟨last, hlast, hle⟩ := h.sends sent hmem
      have hcooldown := hcooled last hlast
      rw [hdefault, hseverity] at hcooldown
      omega

/-- **Lease ownership.** In every run in which no send is recorded over an unexpired lease of another dispatch, whoever
is inside the provider send has reserved the delivery, at most one of them holds an unexpired lease, a lease that has
not expired is cleared by its owner only, and a reservation is given a cooldown after every recorded send at the
earliest. -/
theorem lease_ownership {w : LeaseWorld ι} (hrun : Reaches (leaseEnvironment alert Timely) initialLeaseWorld w) :
    LeaseSafe alert Timely w := by
  obtain ⟨places, h, hat⟩ := (reaches_inStep lease_invariant initial_inStep hrun).places
  have hholds : ∀ i notification resume, w.running i = some (.awaiting (.sendAlert notification) resume) →
      ∃ u, w.shared.lease i = some u ∧
        (w.shared.now < u → standingLease alert w.shared = some u ∧ w.shared.owner = some i) := by
    intro i notification resume hrunning
    obtain ⟨place, hplace, hallowed, -⟩ := hat i _ hrunning
    obtain ⟨u, hu⟩ := Option.isSome_iff_exists.1 hallowed
    exact ⟨u, h.held i place hplace u hu⟩
  refine ⟨fun i notification resume hrunning => ?_, ?_, ?_, ?_⟩
  · obtain ⟨u, hu, -⟩ := hholds i notification resume hrunning
    exact ⟨u, hu⟩
  · intro i j notification notification' resume resume' u v hi hj hu hv hlt hlt'
    obtain ⟨u', hu', howns⟩ := hholds i notification resume hi
    obtain ⟨v', hv', howns'⟩ := hholds j notification' resume' hj
    obtain rfl : u = u' := Option.some.inj (hu.symm.trans hu')
    obtain rfl : v = v' := Option.some.inj (hv.symm.trans hv')
    exact Option.some.inj ((howns hlt).2.symm.trans (howns' hlt').2)
  · rintro i request resume reply shared' hrunning ⟨hserves, htimely⟩ u hstanding hunexpired hcleared
    obtain ⟨place, hplace, hallowed, -⟩ := hat i _ hrunning
    cases hserves with
    | clock => exact absurd hstanding hcleared
    | throws => exact absurd hstanding hcleared
    | other => exact absurd hstanding hcleared
    | store _ _ _ _ hcall _ _ => exact h.own_clears hplace hallowed hcall htimely hstanding hunexpired hcleared
    | lost _ _ _ _ hcall _ => exact h.own_clears hplace hallowed hcall htimely hstanding hunexpired hcleared
  · rintro i kind input resume reply shared' hrunning ⟨hserves, -⟩ hreserved
    obtain ⟨place, -, hallowed, -⟩ := hat i _ hrunning
    exact h.cooled_down hallowed hserves hreserved

end Invariant

/-! ## A provider that outlives its lease -/

section SlowProvider

variable {ι : Type} [DecidableEq ι] [Host] {alert : AlertDispatchRequest}

/-- the reservation a dispatch asks for at `now` -/
def reservationAt (request : AlertDispatchRequest) (now reserveUntil : ℤ) : AlertCooldownReservationInput :=
  { toCooldownRecordInput request (createAlertFingerprint request) now with
    cooldownMs := getDefaultAlertCooldownMs request.severity, reserveUntil := reserveUntil }

theorem dispatch_reserves (options : AlertDispatchOptions) (request : AlertDispatchRequest) {now reserveUntil : ℤ}
    (huntil : addMs now (options.deliveryReservationMs.getD defaultAlertDeliveryReservationMs) = .ok reserveUntil) :
    ∃ ask, dispatchAlertWithCooldown options request = .awaiting .clock ask ∧
      ∃ resume, ask (.ok now) = .awaiting (.reserveDelivery (selectCooldownStore request.severity)
          (reservationAt request now reserveUntil)) resume ∧
        ∀ state, resume (.ok ⟨true, state⟩) = deliverAlert options request (createAlertFingerprint request)
          (selectCooldownStore request.severity) ⟨now, reserveUntil,
            toCooldownRecordInput request (createAlertFingerprint request) now, ⟨true, state⟩⟩ := by
  refine ⟨_, rfl, ?_⟩
  simp only [settle, andThen, huntil]
  exact ⟨_, rfl, fun _ => rfl⟩

/-- a delivered send is recorded once clock and failure state have answered -/
theorem deliver_records (options : AlertDispatchOptions) (request : AlertDispatchRequest) (fingerprint : String)
    (store : CooldownStoreKind) (context : ReservationContext) (now : ℤ) :
    ∃ notification sent, deliverAlert options request fingerprint store context =
        .awaiting (.sendAlert notification) sent ∧
      ∃ read, sent (.ok ⟨true, none, none⟩) = .awaiting .clock read ∧
        ∃ failures, read (.ok now) = .awaiting .failureState failures ∧
          ∃ resume, failures (.ok none) =
            .awaiting (.recordSent store (toCooldownRecordInput request fingerprint now)) resume :=
  ⟨_, _, rfl, _, rfl, _, rfl, _, rfl⟩

omit [DecidableEq ι] in
/-- before the first send, the store in memory gives a reservation wherever the lease has expired -/
theorem memory_grants {shared : LeaseShared ι} (hstore : selectCooldownStore alert.severity = .memory)
    (hsent : standingSend alert shared = none) {now : ℤ} (hlease : ∀ u, standingLease alert shared = some u → u ≤ now)
    (reserveUntil : ℤ) :
    ∃ state, (shared.stores.perform (selectCooldownStore alert.severity)
      (.reserve (reservationAt alert now reserveUntil))).1 = .ok (.reservation ⟨true, state⟩) := by
  rw [standingSend, hstore] at hsent
  simp only [standingLease, hstore] at hlease
  have hfree : (shared.stores.memory (createAlertFingerprint alert)).filter
      (fun state => isDeliveryBlocked state alert.severity now) = none := by
    rw [Option.filter_eq_none_iff]
    intro state hstate hblocked
    have hstateSent : state.lastSentAt = none := by simpa [Stores.states, lastSentAt, hstate] using hsent
    rcases isDeliveryBlocked_iff.1 hblocked with ⟨sent, h, -⟩ | ⟨u, h, hlt⟩
    · rw [hstateSent] at h
      cases h
    · have hle := hlease u (by simp [Stores.states, leaseOf, hstate, h])
      omega
  simp only [hstore, Stores.perform, Memory.perform, Memory.reserveDelivery, reservationAt, toCooldownRecordInput,
    hfree]
  exact ⟨_, rfl⟩

/-- the lease that such a reservation leaves behind -/
theorem standing_of_grant (shared : LeaseShared ι) (i : ι) {now reserveUntil : ℤ} {state : AlertCooldownState}
    (hgranted : (shared.stores.perform (selectCooldownStore alert.severity)
      (.reserve (reservationAt alert now reserveUntil))).1 = .ok (.reservation ⟨true, state⟩)) :
    standingLease alert (shared.after i (selectCooldownStore alert.severity)
        (.reserve (reservationAt alert now reserveUntil))) = some reserveUntil ∧
      standingSend alert (shared.after i (selectCooldownStore alert.severity)
        (.reserve (reservationAt alert now reserveUntil))) = standingSend alert shared := by
  have hfingerprint : (CooldownCall.reserve (reservationAt alert now reserveUntil)).fingerprint =
      createAlertFingerprint alert := by simp only [CooldownCall.fingerprint, reservationAt, toCooldownRecordInput]
  have hdefault : (CooldownCall.reserve (reservationAt alert now reserveUntil)).UsesDefault := by
    simp only [CooldownCall.UsesDefault, reservationAt, toCooldownRecordInput]
  rcases (standing_after shared i _ hfingerprint hdefault).reserve_cases with
    ⟨hrefused, -, -⟩ | ⟨-, hlease, hsent, -, -⟩
  · exact absurd hgranted (hrefused state)
  · exact ⟨hlease, hsent⟩

section Run

variable {Permits : ι → LeaseShared ι → AlertRequest → Prop}
  (hpermits : ∀ i shared request, (∀ kind input, request ≠ .recordSent kind input) → Permits i shared request)

include hpermits

/-- a dispatch that finds no send and no lease in its way gets to send, under a lease of its own -/
theorem reaches_delivering {w : LeaseWorld ι} (hrun : Reaches (leaseEnvironment alert Permits) initialLeaseWorld w)
    (i : ι) (hidle : w.running i = none) (options : AlertDispatchOptions) {reserveUntil : ℤ}
    (huntil : addMs w.shared.now (options.deliveryReservationMs.getD defaultAlertDeliveryReservationMs) =
      .ok reserveUntil)
    (hstore : selectCooldownStore alert.severity = .memory) (hsent : standingSend alert w.shared = none)
    (hlease : ∀ u, standingLease alert w.shared = some u → u ≤ w.shared.now) :
    ∃ shared context, Reaches (leaseEnvironment alert Permits) initialLeaseWorld
        { shared := shared
          running := Function.update w.running i (some (deliverAlert options alert (createAlertFingerprint alert)
            (selectCooldownStore alert.severity) context)) } ∧
      shared.now = w.shared.now ∧ shared.owner = some i ∧ standingLease alert shared = some reserveUntil ∧
      standingSend alert shared = none := by
  obtain ⟨ask, hask, resume, hresume, hdelivers⟩ := dispatch_reserves options alert huntil
  obtain ⟨state, hgranted⟩ := memory_grants hstore hsent hlease reserveUntil
  have hstarted : Reaches (leaseEnvironment alert Permits) initialLeaseWorld
      { w with running := Function.update w.running i (some (.awaiting .clock ask)) } :=
    .step hrun (.start i _ _ hidle ⟨rfl, options, alert, rfl, hask.symm⟩)
  have hread := hstarted.serve (Function.update_self _ _ _) (.ok w.shared.now)
    ⟨.clock, hpermits _ _ _ fun _ _ h => by cases h⟩
  rw [Function.update_idem, hresume] at hread
  have hreserved := hread.serve (Function.update_self _ _ _) (.ok ⟨true, state⟩)
    ⟨.store _ _ _ _ rfl (fun _ _ htime => (Option.some.inj htime).symm) (by rw [hgranted]; exact Or.inl rfl),
      hpermits _ _ _ fun _ _ h => by cases h⟩
  rw [Function.update_idem, hdelivers] at hreserved
  obtain ⟨hlease', hsent'⟩ := standing_of_grant w.shared i hgranted
  exact ⟨_, _, hreserved, after_now _ _ _ _, (after_granted hgranted).2, hlease', hsent'.trans hsent⟩

/-- a provider answers in its own time; the send is about to be recorded -/
theorem reaches_recording {w : LeaseWorld ι} (hrun : Reaches (leaseEnvironment alert Permits) initialLeaseWorld w)
    {i : ι} {options : AlertDispatchOptions} {context : ReservationContext}
    (hrunning : w.running i = some (deliverAlert options alert (createAlertFingerprint alert)
      (selectCooldownStore alert.severity) context)) :
    ∃ resume, Reaches (leaseEnvironment alert Permits) initialLeaseWorld
      { w with running := Function.update w.running i (some (.awaiting (.recordSent (selectCooldownStore alert.severity)
          (toCooldownRecordInput alert (createAlertFingerprint alert) w.shared.now)) resume)) } := by
  obtain ⟨notification, sent, hsend, read, hread, failures, hfailures, resume, hrecords⟩ :=
    deliver_records options alert (createAlertFingerprint alert) (selectCooldownStore alert.severity) context
      w.shared.now
  rw [hsend] at hrunning
  have hsent := hrun.serve hrunning (.ok ⟨true, none, none⟩)
    ⟨.other _ _ (fun h => by cases h) rfl, hpermits _ _ _ fun _ _ h => by cases h⟩
  rw [hread] at hsent
  have hclock := hsent.serve (Function.update_self _ _ _) (.ok w.shared.now)
    ⟨.clock, hpermits _ _ _ fun _ _ h => by cases h⟩
  rw [Function.update_idem, hfailures] at hclock
  have hstate := hclock.serve (Function.update_self _ _ _) (.ok none)
    ⟨.other _ _ (fun h => by cases h) rfl, hpermits _ _ _ fun _ _ h => by cases h⟩
  rw [Function.update_idem, hrecords] at hstate
  exact ⟨resume, hstate⟩

end Run

def slowAlert : AlertDispatchRequest where
  environment := "live"
  runMode := "LIVE"
  severity := .p2
  alertType := "order"
  market := none
  strategyId := none
  reasonCode := "order_stuck"
  dedupeKey := none
  title := "Order stuck"
  body := "An order has been open for an hour."
  occurredAt := none
  correlationId := none
  metadata := none

/-- one dispatch is about to record its send, and the lease of another one, taken a minute later, has not expired -/
theorem overtaken (Permits : Bool → LeaseShared Bool → AlertRequest → Prop)
    (hpermits : ∀ i shared request, (∀ kind input, request ≠ .recordSent kind input) → Permits i shared request) :
    ∃ (w : LeaseWorld Bool) (resume : _), Reaches (leaseEnvironment slowAlert Permits) initialLeaseWorld w ∧
      w.running false = some (.awaiting (.recordSent (selectCooldownStore slowAlert.severity)
        (toCooldownRecordInput slowAlert (createAlertFingerprint slowAlert) w.shared.now)) resume) ∧
      standingLease slowAlert w.shared = some 120000 ∧ w.shared.now = 60000 ∧ w.shared.owner = some true := by
  have hstore : selectCooldownStore slowAlert.severity = .memory := rfl
  obtain ⟨first, context, hfirst, hnow, -, hlease, hsent⟩ := reaches_delivering hpermits .refl false rfl
    ⟨false, false, none⟩ (show addMs 0 60000 = .ok 60000 from rfl) hstore rfl (fun u hu => by cases hu)
  have hlater := Reaches.step hfirst (.drift { first with now := 60000 } ⟨60000, by rw [hnow]; decide, rfl⟩)
  obtain ⟨second, context', hsecond, hnow', howner, hlease', -⟩ := reaches_delivering hpermits hlater true rfl
    ⟨false, false, none⟩ (show addMs 60000 60000 = .ok 120000 from rfl) hstore hsent
    (fun u hu => (Option.some.inj (hu.symm.trans hlease)).le)
  obtain ⟨resume, hrecording⟩ := reaches_recording hpermits hsecond (i := false) rfl
  refine ⟨⟨second, Function.update _ false _⟩, resume, hrecording, ?_, hlease', hnow', howner⟩
  simp only [Function.update_self]

/-- `recordSent` answers and clears whatever lease it finds -/
theorem recordSent_clears (alert : AlertDispatchRequest) (shared : LeaseShared ι) (i : ι) (now : ℤ)
    (hstore : selectCooldownStore alert.severity = .memory) :
    (∃ state, (shared.stores.perform (selectCooldownStore alert.severity)
      (.sent (toCooldownRecordInput alert (createAlertFingerprint alert) now))).1 = .ok (.state state)) ∧
      standingLease alert (shared.after i (selectCooldownStore alert.severity)
        (.sent (toCooldownRecordInput alert (createAlertFingerprint alert) now))) = none := by
  rw [standingLease, after_stores, hstore]
  refine ⟨⟨_, rfl⟩, ?_⟩
  simp [Stores.states, Stores.perform, Memory.perform, Memory.recordSent, leaseOf, toCooldownRecordInput,
    toCooldownState]

end SlowProvider

/-- two dispatches under way: the lease of the second one stands -/
theorem overtaken_safe : ∃ w : LeaseWorld Bool, standingLease slowAlert w.shared = some 120000 ∧
    LeaseSafe slowAlert Timely w := by
  obtain ⟨w, -, hrun, -, hstanding, -, -⟩ := overtaken Timely fun i shared request hother kind input hrequest =>
    absurd hrequest (hother kind input)
  exact ⟨w, hstanding, lease_ownership hrun⟩

/-- **A slow send clears a lease.** Where a send may be recorded at any time, the lease of another dispatch is cleared
before it expires. -/
theorem slow_send_clears : ¬ ∀ w : LeaseWorld Bool,
    Reaches (leaseEnvironment slowAlert fun _ _ _ => True) initialLeaseWorld w →
      LeaseSafe slowAlert (fun _ _ _ => True) w := by
  intro hall
  obtain ⟨w, resume, hrun, hrunning, hstanding, hnow, howner⟩ :=
    overtaken (fun _ _ _ => True) fun _ _ _ _ => trivial
  obtain ⟨⟨state, hanswer⟩, hcleared⟩ := recordSent_clears slowAlert w.shared false w.shared.now rfl
  have hserves : Serves false w.shared (.recordSent (selectCooldownStore slowAlert.severity)
      (toCooldownRecordInput slowAlert (createAlertFingerprint slowAlert) w.shared.now)) (.ok state) _ :=
    .store _ _ _ _ rfl (fun _ _ htime => (Option.some.inj htime).symm) (by rw [hanswer]; exact rfl)
  have hself := (hall w hrun).ownClears false _ resume _ _ hrunning ⟨hserves, trivial⟩ 120000 hstanding
    (by rw [hnow]; decide) (by rw [hcleared]; simp)
  rw [howner] at hself
  exact absurd hself (by decide)

end SeeMirai.Alerts
