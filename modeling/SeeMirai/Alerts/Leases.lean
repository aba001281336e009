/-
Delivery leases: any number of dispatches of alerts with one fingerprint, interleaved at every await. Each reserves the
delivery of the alert in the cooldown store, for as long as its options say, and sends while it holds that lease; a
provider may take longer than the lease lasts. A store call may fail before or after it has run.

The store in memory runs in the turn of its caller, so a call that is dated by the clock runs at that time; a statement
of the database may run later. Both show, for the fingerprint, a lease and the last send (`leaseOf`, `sentOf`).

A lease is cleared by `releaseDeliveryReservation`, which compares it first, and by `recordSent`, which does not.

- `leaseEnvironment`: how the calls of the dispatches are served.
- `LeaseSafe`: what is promised of leases and sends.
- `stores_change`: what a call does to the lease and the last send of its fingerprint, in either store.
-/
import SeeMirai.Alerts.Dispatch
import SeeMirai.Alerts.StoreAgreement

namespace SeeMirai.Alerts

open Async Postgres

/-! ## Model: the stores of all dispatches -/

structure Stores where
  memory : Memory.States
  durable : AlertCooldowns

def Stores.perform (stores : Stores) : CooldownStoreKind → CooldownCall → Except StoreError CooldownAnswer × Stores
  | .memory, call =>
    (.ok (Memory.perform stores.memory call).1, { stores with memory := (Memory.perform stores.memory call).2 })
  | .durable, call =>
    ((Postgres.perform stores.durable call).1, { stores with durable := (Postgres.perform stores.durable call).2 })

def Stores.states (stores : Stores) : CooldownStoreKind → Memory.States
  | .memory => stores.memory
  | .durable => view stores.durable

def leaseOf (states : Memory.States) (fingerprint : String) : Option ℤ :=
  (states fingerprint).bind AlertCooldownState.deliveryReservedUntil

/-- the store call a request makes -/
def AlertRequest.storeCall : AlertRequest → Option (CooldownStoreKind × CooldownCall)
  | reserveDelivery kind input => some (kind, .reserve input)
  | releaseDeliveryReservation kind input => some (kind, .release input)
  | recordSent kind input => some (kind, .sent input)
  | recordSkipped kind input => some (kind, .skipped input)
  | _ => none

/-- a reply that passes on what the store answered; a refused reservation may show a later state -/
def PassesOn : (request : AlertRequest) → Except StoreError CooldownAnswer → AlertReply request → Prop
  | .reserveDelivery _ _, .ok (.reservation result), reply =>
    reply = result ∨ (AlertCooldownReservationResult.reserved reply = false ∧ result.reserved = false)
  | .releaseDeliveryReservation _ _, .ok (.state _), _ => True
  | .recordSent _ _, .ok (.state state), reply => reply = state
  | .recordSkipped _ _, .ok (.state state), reply => reply = state
  | _, _, _ => False

/-! ## Model: runs -/

section Runs

variable {ι : Type} [DecidableEq ι]

structure LeaseShared (ι : Type) where
  now : ℤ
  stores : Stores
  /-- the end of the lease that a dispatch last obtained, until it has given it back -/
  lease : ι → Option ℤ
  /-- the dispatch that obtained the last reservation -/
  owner : Option ι
  /-- the times of the sends recorded -/
  recorded : List ℤ

/-- the books after the answer of a store call -/
def LeaseShared.booked (shared : LeaseShared ι) (i : ι) :
    CooldownCall → Except StoreError CooldownAnswer → LeaseShared ι
  | .reserve input, .ok (.reservation ⟨true, _⟩) =>
    { shared with lease := Function.update shared.lease i (some input.reserveUntil), owner := some i }
  | .release _, .ok _ => { shared with lease := Function.update shared.lease i none }
  | .sent input, .ok _ =>
    { shared with lease := Function.update shared.lease i none, recorded := input.occurredAt :: shared.recorded }
  | _, _ => shared

/-- stores and books after a store call that ran -/
def LeaseShared.after (shared : LeaseShared ι) (i : ι) (kind : CooldownStoreKind) (call : CooldownCall) :
    LeaseShared ι :=
  { shared with stores := (shared.stores.perform kind call).2 }.booked i call (shared.stores.perform kind call).1

/-- the time a request carries that its caller has just read -/
def AlertRequest.readAt : AlertRequest → Option ℤ
  | reserveDelivery _ input => some input.occurredAt
  | releaseDeliveryReservation _ input => some input.occurredAt
  | recordSent _ input => some input.occurredAt
  | _ => none

/-- how a request is served -/
inductive Serves (i : ι) (shared : LeaseShared ι) :
    (request : AlertRequest) → Except AlertError (AlertReply request) → LeaseShared ι → Prop where
  | clock : Serves i shared .clock (.ok shared.now) shared
  | throws (request : AlertRequest) (error : AlertError) : Serves i shared request (.error error) shared
  | other (request : AlertRequest) (reply : AlertReply request) (hclock : request ≠ .clock)
      (hother : request.storeCall = none) : Serves i shared request (.ok reply) shared
  | store (request : AlertRequest) (kind : CooldownStoreKind) (call : CooldownCall) (reply : AlertReply request)
      (hcall : request.storeCall = some (kind, call))
      (hturn : kind = .memory → ∀ time, request.readAt = some time → time = shared.now)
      (hreply : PassesOn request (shared.stores.perform kind call).1 reply) :
      Serves i shared request (.ok reply) (shared.after i kind call)
  /-- the call ran, and its answer is lost -/
  | lost (request : AlertRequest) (kind : CooldownStoreKind) (call : CooldownCall) (error : AlertError)
      (hcall : request.storeCall = some (kind, call))
      (hturn : kind = .memory → ∀ time, request.readAt = some time → time = shared.now) :
      Serves i shared request (.error error) (shared.after i kind call)

/-- no send is recorded while an unexpired lease of another dispatch stands -/
def Timely (i : ι) (shared : LeaseShared ι) (request : AlertRequest) : Prop :=
  ∀ kind input, request = .recordSent kind input → ∀ reservedUntil,
    leaseOf (shared.stores.states kind) input.fingerprint = some reservedUntil → shared.now < reservedUntil →
      shared.owner = some i

variable [Host]

/-- dispatches of alerts with the fingerprint of `alert`; time passes by itself -/
def leaseEnvironment (alert : AlertDispatchRequest) (Permits : ι → LeaseShared ι → AlertRequest → Prop) :
    Environment ι (LeaseShared ι) AlertRequest AlertReply AlertError AlertDispatchResult where
  Starts _ shared program shared' := shared' = shared ∧ ∃ options request,
    createAlertFingerprint request = createAlertFingerprint alert ∧ program = dispatchAlertWithCooldown options request
  Serves i shared request reply shared' := Serves i shared request reply shared' ∧ Permits i shared request
  Drifts shared shared' := ∃ now, shared.now ≤ now ∧ shared' = { shared with now := now }

abbrev LeaseWorld (ι : Type) := World ι (LeaseShared ι) AlertRequest AlertReply AlertError AlertDispatchResult

/-- empty stores and nothing under way -/
def initialLeaseWorld : LeaseWorld ι where
  shared := ⟨0, ⟨fun _ => none, fun _ => none⟩, fun _ => none, none, []⟩
  running _ := none

/-- the lease that stands in the store of the alert -/
def standingLease (alert : AlertDispatchRequest) (shared : LeaseShared ι) : Option ℤ :=
  leaseOf (shared.stores.states (selectCooldownStore alert.severity)) (createAlertFingerprint alert)

/-- what is promised of a world and of the next call in it -/
structure LeaseSafe (alert : AlertDispatchRequest) (Permits : ι → LeaseShared ι → AlertRequest → Prop)
    (w : LeaseWorld ι) : Prop where
  /-- who is inside the provider send has obtained a lease -/
  senderHolds : ∀ i notification resume, w.running i = some (.awaiting (.sendAlert notification) resume) →
    ∃ reservedUntil, w.shared.lease i = some reservedUntil
  oneSender : ∀ i j notification notification' resume resume' u v,
    w.running i = some (.awaiting (.sendAlert notification) resume) →
    w.running j = some (.awaiting (.sendAlert notification') resume') →
    w.shared.lease i = some u → w.shared.lease j = some v → w.shared.now < u → w.shared.now < v → i = j
  ownClears : ∀ i request resume reply shared', w.running i = some (.awaiting request resume) →
    (leaseEnvironment alert Permits).Serves i w.shared request reply shared' →
    ∀ u, standingLease alert w.shared = some u → w.shared.now < u → standingLease alert shared' ≠ some u →
      w.shared.owner = some i
  cooledDown : ∀ i kind input resume reply shared',
    w.running i = some (.awaiting (.reserveDelivery kind input) resume) →
    (leaseEnvironment alert Permits).Serves i w.shared (.reserveDelivery kind input) (.ok reply) shared' →
    AlertCooldownReservationResult.reserved reply = true →
    ∀ sent ∈ w.shared.recorded, sent + getDefaultAlertCooldownMs alert.severity ≤ input.occurredAt

end Runs

/-! ## What the stores do to a lease -/

theorem states_perform (stores : Stores) (kind : CooldownStoreKind) (call : CooldownCall) :
    (stores.perform kind call).2.states kind = match kind with
      | .memory => (Memory.perform stores.memory call).2
      | .durable => view (Postgres.perform stores.durable call).2 := by
  cases kind <;> rfl

/-- the fingerprint a call is about -/
def CooldownCall.fingerprint : CooldownCall → String
  | reserve input => input.fingerprint
  | release input => input.fingerprint
  | sent input => input.fingerprint
  | skipped input => input.fingerprint

/-- what a call does to the lease and the last send of its fingerprint, and when -/
inductive CellChange (memory : Bool) (lease sent : Option ℤ) : CooldownCall → Except StoreError CooldownAnswer →
    Option ℤ → Option ℤ → Prop where
  | same {call : CooldownCall} {answer : Except StoreError CooldownAnswer}
      (hgrant : ∀ state, answer ≠ .ok (.reservation ⟨true, state⟩))
      (hsent : ∀ input a, call = .sent input → answer ≠ .ok a) :
      CellChange memory lease sent call answer lease sent
  | reserved {input : AlertCooldownReservationInput} {state : AlertCooldownState}
      (hcooled : ∀ time, sent = some time → time + input.cooldownMs ≤ input.occurredAt)
      (hfree : ∀ reservedUntil, lease = some reservedUntil → reservedUntil ≤ input.occurredAt) :
      CellChange memory lease sent (.reserve input) (.ok (.reservation ⟨true, state⟩)) (some input.reserveUntil) sent
  | released {input : AlertCooldownReleaseInput} {state : AlertCooldownState}
      (hown : lease = some input.reservedUntil) :
      CellChange memory lease sent (.release input) (.ok (.state state)) none sent
  | recorded {input : AlertCooldownRecordInput} {state : AlertCooldownState} {time : ℤ}
      (hlatest : input.occurredAt ≤ time)
      (hkept : memory = false → ∀ before, sent = some before → before ≤ time)
      (hmemory : memory = true → time = input.occurredAt) :
      CellChange memory lease sent (.sent input) (.ok (.state state)) none (some time)

/-- a reservation whose cooldown is its severity's, as every dispatch makes it -/
def CooldownCall.UsesDefault : CooldownCall → Prop
  | reserve input => input.cooldownMs = getDefaultAlertCooldownMs input.severity
  | _ => True

theorem memory_change (states : Memory.States) (call : CooldownCall) (hdefault : call.UsesDefault) :
    CellChange true (leaseOf states call.fingerprint) (lastSentAt states call.fingerprint) call
      (.ok (Memory.perform states call).1) (leaseOf (Memory.perform states call).2 call.fingerprint)
      (lastSentAt (Memory.perform states call).2 call.fingerprint) := by
  cases call with
  | reserve input =>
    simp only [CooldownCall.fingerprint, Memory.perform, Memory.reserveDelivery]
    cases hblocked : (states input.fingerprint).filter
        (fun state => isDeliveryBlocked state input.severity input.occurredAt) with
    | some blocked => exact .same (fun _ h => by simp at h) (fun _ _ h => by cases h)
    | none =>
      have hfree : ∀ state, states input.fingerprint = some state →
          ¬ isDeliveryBlocked state input.severity input.occurredAt = true := by
        intro state hstate hblocks
        rw [hstate, Option.filter_some, if_pos hblocks] at hblocked
        cases hblocked
      have hlease : leaseOf (Function.update states input.fingerprint (some (toCooldownState
          input.toAlertCooldownRecordInput ((states input.fingerprint).bind AlertCooldownState.lastSentAt)
          ((states input.fingerprint).bind AlertCooldownState.lastSkippedAt) (some input.reserveUntil))))
          input.fingerprint = some input.reserveUntil := by simp [leaseOf, toCooldownState]
      have hsent : lastSentAt (Function.update states input.fingerprint (some (toCooldownState
          input.toAlertCooldownRecordInput ((states input.fingerprint).bind AlertCooldownState.lastSentAt)
          ((states input.fingerprint).bind AlertCooldownState.lastSkippedAt) (some input.reserveUntil))))
          input.fingerprint = lastSentAt states input.fingerprint := by simp [lastSentAt, toCooldownState]
      simp only
      rw [hlease, hsent]
      refine .reserved (fun time htime => ?_) (fun reservedUntil hreserved => ?_)
      · obtain ⟨state, hstate, hstateSent⟩ := Option.bind_eq_some_iff.1 htime
        have hnot := mt (fun h => isDeliveryBlocked_iff.2 (Or.inl ⟨time, hstateSent, h⟩)) (hfree state hstate)
        have huses : input.cooldownMs = getDefaultAlertCooldownMs input.severity := hdefault
        omega
      · obtain ⟨state, hstate, hstateLease⟩ := Option.bind_eq_some_iff.1 hreserved
        have hnot := mt (fun h => isDeliveryBlocked_iff.2 (Or.inr ⟨reservedUntil, hstateLease, h⟩)) (hfree state hstate)
        omega
  | release input =>
    simp only [CooldownCall.fingerprint, Memory.perform, Memory.releaseDeliveryReservation]
    cases hstate : states input.fingerprint with
    | none => exact .same (fun _ h => by simp at h) (fun _ _ h => by cases h)
    | some previous =>
      by_cases hown : previous.deliveryReservedUntil = some input.reservedUntil
      · simp only [hown, ne_eq, not_true_eq_false, if_false]
        have hlease : leaseOf states input.fingerprint = some input.reservedUntil := by simp [leaseOf, hstate, hown]
        have hsent : lastSentAt states input.fingerprint = previous.lastSentAt := by simp [lastSentAt, hstate]
        simp only [leaseOf, lastSentAt, Function.update_self, Option.bind_some, toCooldownState]
        exact hsent ▸ .released hlease
      · simp only [hown, ne_eq, not_false_eq_true, if_true]
        exact .same (fun _ h => by simp at h) (fun _ _ h => by cases h)
  | sent input =>
    simp only [CooldownCall.fingerprint, Memory.perform, Memory.recordSent, leaseOf, lastSentAt, Function.update_self,
      Option.bind_some, toCooldownState]
    exact .recorded (le_refl _) (fun h => by cases h) (fun _ => rfl)
  | skipped input =>
    simp only [CooldownCall.fingerprint, Memory.perform, Memory.recordSkipped, leaseOf, lastSentAt,
      Function.update_self, Option.bind_some, toCooldownState]
    exact .same (fun _ h => by simp at h) (fun _ _ h => by cases h)

/-- what an upsert leaves behind: an error and the old table, the row it wrote, or a condition that failed -/
theorem insertOnConflict_cases (table : AlertCooldowns) (excluded : AlertCooldownRow)
    (condition : AlertCooldownRow → Bool) (merge : AlertCooldownRow → AlertCooldownRow)
    (hkey : ∀ existing, (merge existing).fingerprint = excluded.fingerprint) :
    (∃ error, insertOnConflict table excluded condition merge = (.error error, table)) ∨
      (insertOnConflict table excluded condition merge =
          (.ok (some (landed (table excluded.fingerprint) excluded merge)),
            Function.update table excluded.fingerprint (some (landed (table excluded.fingerprint) excluded merge))) ∧
        ∀ existing, table excluded.fingerprint = some existing → condition existing = true) ∨
      insertOnConflict table excluded condition merge = (.ok none, table) := by
  have hwrite : ∀ row : AlertCooldownRow, row.fingerprint = excluded.fingerprint →
      write table row = (.error .checkViolation, table) ∨
        write table row = (.ok (some row), Function.update table excluded.fingerprint (some row)) := by
    intro row hrow
    rw [write]
    split
    · rw [hrow]
      exact Or.inr rfl
    · exact Or.inl rfl
  rw [insertOnConflict]
  split
  · exact Or.inl ⟨_, rfl⟩
  cases hrow : table excluded.fingerprint with
  | none =>
    rcases hwrite excluded rfl with h | h
    · exact Or.inl ⟨_, h⟩
    · exact Or.inr (Or.inl ⟨h, fun _ h => by cases h⟩)
  | some existing =>
    simp only
    split
    · rename_i hcondition
      rcases hwrite (merge existing) (hkey existing) with h | h
      · exact Or.inl ⟨_, h⟩
      · refine Or.inr (Or.inl ⟨h, fun row h => ?_⟩)
        exact Option.some.inj h ▸ hcondition
    · exact Or.inr (Or.inr rfl)

theorem lastSentAt_view (table : AlertCooldowns) (fingerprint : String) :
    lastSentAt (view table) fingerprint = (table fingerprint).bind AlertCooldownRow.lastSentAt := by
  rw [lastSentAt, view]
  cases table fingerprint <;> rfl

theorem leaseOf_view (table : AlertCooldowns) (fingerprint : String) :
    leaseOf (view table) fingerprint = (table fingerprint).bind AlertCooldownRow.deliveryReservedUntil := by
  rw [leaseOf, view]
  cases table fingerprint <;> rfl

theorem reserve_cases (table : AlertCooldowns) (input : AlertCooldownReservationInput) :
    (∃ error, reserveAlertDelivery table input = (.error error, table)) ∨
      (∃ existing, reserveAlertDelivery table input = (.ok ⟨false, existing⟩, table)) ∨
      (reserveAlertDelivery table input = (.ok ⟨true, toAlertCooldownState (leasedRow table input)⟩,
          Function.update table input.fingerprint (some (leasedRow table input))) ∧
        ∀ existing, table input.fingerprint = some existing → isReservable input existing = true) := by
  rw [reserveAlertDelivery,
    show toAlertCooldownRowInput input.toAlertCooldownRecordInput _ = reservedRow input from rfl]
  rcases insertOnConflict_cases table (reservedRow input) (isReservable input) (reserveMerge (reservedRow input))
    (fun _ => rfl) with ⟨error, h⟩ | ⟨h, hcondition⟩ | h
  · rw [h]
    exact Or.inl ⟨error, rfl⟩
  · rw [h]
    exact Or.inr (Or.inr ⟨rfl, hcondition⟩)
  · rw [h]
    simp only
    cases table input.fingerprint with
    | none => exact Or.inl ⟨_, rfl⟩
    | some existing => exact Or.inr (Or.inl ⟨_, rfl⟩)

theorem release_cases (table : AlertCooldowns) (input : AlertCooldownReleaseInput) :
    (∃ error, releaseAlertDeliveryReservation table input = (.error error, table)) ∨
      (∃ state, releaseAlertDeliveryReservation table input = (.ok state, table)) ∨
      ∃ existing, table input.fingerprint = some existing ∧
        existing.deliveryReservedUntil = some input.reservedUntil ∧
        releaseAlertDeliveryReservation table input = (.ok (toAlertCooldownState (releasedRow input existing)),
          Function.update table input.fingerprint (some (releasedRow input existing))) := by
  rw [releaseAlertDeliveryReservation]
  cases hrow : table input.fingerprint with
  | none => exact Or.inr (Or.inl ⟨_, rfl⟩)
  | some existing =>
    simp only
    split
    · rename_i hown
      rw [show releaseSet (toAlertCooldownRowInput _ _) existing = releasedRow input existing from rfl]
      cases hchecks : (releasedRow input existing).checks with
      | true =>
        rw [write_of_checks hchecks]
        exact Or.inr (Or.inr ⟨existing, rfl, hown, rfl⟩)
      | false =>
        rw [write, if_neg (by simp [hchecks])]
        exact Or.inl ⟨_, rfl⟩
    · exact Or.inr (Or.inl ⟨_, rfl⟩)

theorem sent_cases (table : AlertCooldowns) (input : AlertCooldownRecordInput) :
    (∃ error, Postgres.recordSent table input = (.error error, table)) ∨
      ∃ row, row = landed (table input.fingerprint) (sentRow input) (upsertMerge (sentRow input)) ∧
        Postgres.recordSent table input =
          (.ok (toAlertCooldownState row), Function.update table input.fingerprint (some row)) := by
  rw [Postgres.recordSent, upsertAlertCooldown, show toAlertCooldownRowInput input _ = sentRow input from rfl]
  rcases insertOnConflict_cases table (sentRow input) (fun _ => true) (upsertMerge (sentRow input))
    (fun _ => rfl) with ⟨error, h⟩ | ⟨h, -⟩ | h
  · rw [h]
    exact Or.inl ⟨error, rfl⟩
  · rw [h]
    exact Or.inr ⟨_, rfl, rfl⟩
  · rw [h]
    exact Or.inl ⟨_, rfl⟩

theorem skipped_cases (table : AlertCooldowns) (input : AlertCooldownRecordInput) :
    (∃ error, recordAlertCooldownSkipped table input = (.error error, table)) ∨
      ∃ row, row = landed (table input.fingerprint) (skippedRow input) (skipMerge (skippedRow input)) ∧
        recordAlertCooldownSkipped table input =
          (.ok (toAlertCooldownState row), Function.update table input.fingerprint (some row)) := by
  rw [recordAlertCooldownSkipped, show toAlertCooldownRowInput input _ = skippedRow input from rfl]
  rcases insertOnConflict_cases table (skippedRow input) (fun _ => true) (skipMerge (skippedRow input))
    (fun _ => rfl) with ⟨error, h⟩ | ⟨h, -⟩ | h
  · rw [h]
    exact Or.inl ⟨error, rfl⟩
  · rw [h]
    exact Or.inr ⟨_, rfl, rfl⟩
  · rw [h]
    exact Or.inl ⟨_, rfl⟩

theorem postgres_change (table : AlertCooldowns) (call : CooldownCall) :
    CellChange false (leaseOf (view table) call.fingerprint) (lastSentAt (view table) call.fingerprint) call
      (Postgres.perform table call).1 (leaseOf (view (Postgres.perform table call).2) call.fingerprint)
      (lastSentAt (view (Postgres.perform table call).2) call.fingerprint) := by
  simp only [leaseOf_view, lastSentAt_view]
  cases call with
  | reserve input =>
    simp only [CooldownCall.fingerprint, Postgres.perform]
    rcases reserve_cases table input with ⟨error, h⟩ | ⟨existing, h⟩ | ⟨h, hcondition⟩
    · rw [h]
      exact .same (fun _ h => by cases h) (fun _ _ h => by cases h)
    · rw [h]
      exact .same (fun _ h => by simp [Except.map] at h) (fun _ _ h => by cases h)
    · have hlease : (leasedRow table input).deliveryReservedUntil = some input.reserveUntil := by
        rw [leasedRow]
        cases table input.fingerprint <;> rfl
      have hsent : (leasedRow table input).lastSentAt = (table input.fingerprint).bind AlertCooldownRow.lastSentAt := by
        rw [leasedRow]
        cases table input.fingerprint <;> rfl
      rw [h]
      simp only [Function.update_self, Option.bind_some, hlease, hsent]
      refine .reserved (fun time htime => ?_) (fun reservedUntil hreserved => ?_)
      · obtain ⟨existing, hrow, hexisting⟩ := Option.bind_eq_some_iff.1 htime
        have hnot := (isReservable_iff.1 (hcondition existing hrow)).1 time hexisting
        omega
      · obtain ⟨existing, hrow, hexisting⟩ := Option.bind_eq_some_iff.1 hreserved
        have hnot := (isReservable_iff.1 (hcondition existing hrow)).2 reservedUntil hexisting
        omega
  | release input =>
    simp only [CooldownCall.fingerprint, Postgres.perform]
    rcases release_cases table input with ⟨error, h⟩ | ⟨state, h⟩ | ⟨existing, hrow, hown, h⟩
    · rw [h]
      exact .same (fun _ h => by cases h) (fun _ _ h => by cases h)
    · rw [h]
      exact .same (fun _ h => by simp [Except.map] at h) (fun _ _ h => by cases h)
    · rw [h, hrow]
      simp only [Function.update_self, Option.bind_some, hown]
      exact .released rfl
  | sent input =>
    simp only [CooldownCall.fingerprint, Postgres.perform]
    rcases sent_cases table input with ⟨error, h⟩ | ⟨row, hrow, h⟩
    · rw [h]
      exact .same (fun _ h => by cases h) (fun _ _ _ h => by cases h)
    · have hlease : row.deliveryReservedUntil = none := by
        rw [hrow]
        cases table input.fingerprint <;> rfl
      have hsent : row.lastSentAt = some (max (((table input.fingerprint).bind AlertCooldownRow.lastSentAt).getD
          input.occurredAt) input.occurredAt) := by
        rw [hrow]
        cases table input.fingerprint with
        | none => simp [landed, sentRow, toAlertCooldownRowInput]
        | some existing => simp [landed, sentRow, toAlertCooldownRowInput, upsertMerge, greatest_coalesce]
      rw [h]
      simp only [Function.update_self, Option.bind_some, hlease, hsent]
      refine .recorded (le_max_right _ _) (fun _ before hbefore => ?_) (fun h => by cases h)
      rw [hbefore]
      exact le_max_left _ _
  | skipped input =>
    simp only [CooldownCall.fingerprint, Postgres.perform]
    rcases skipped_cases table input with ⟨error, h⟩ | ⟨row, hrow, h⟩
    · rw [h]
      exact .same (fun _ h => by cases h) (fun _ _ h => by cases h)
    · have hlease : row.deliveryReservedUntil =
          (table input.fingerprint).bind AlertCooldownRow.deliveryReservedUntil := by
        rw [hrow]
        cases table input.fingerprint <;> rfl
      have hsent : row.lastSentAt = (table input.fingerprint).bind AlertCooldownRow.lastSentAt := by
        rw [hrow]
        cases table input.fingerprint <;> rfl
      rw [h]
      simp only [Function.update_self, Option.bind_some, hlease, hsent]
      exact .same (fun _ h => by simp [Except.map] at h) (fun _ _ h => by cases h)

theorem stores_change (stores : Stores) (kind : CooldownStoreKind) (call : CooldownCall) (hdefault : call.UsesDefault) :
    CellChange (decide (kind = .memory)) (leaseOf (stores.states kind) call.fingerprint)
      (lastSentAt (stores.states kind) call.fingerprint) call (stores.perform kind call).1
      (leaseOf ((stores.perform kind call).2.states kind) call.fingerprint)
      (lastSentAt ((stores.perform kind call).2.states kind) call.fingerprint) := by
  cases kind with
  | memory => exact memory_change stores.memory call hdefault
  | durable => exact postgres_change stores.durable call

theorem CellChange.reserve_cases {memory : Bool} {lease sent lease' sent' : Option ℤ}
    {input : AlertCooldownReservationInput} {answer : Except StoreError CooldownAnswer}
    (h : CellChange memory lease sent (.reserve input) answer lease' sent') :
    ((∀ state, answer ≠ .ok (.reservation ⟨true, state⟩)) ∧ lease' = lease ∧ sent' = sent) ∨
      ((∃ state, answer = .ok (.reservation ⟨true, state⟩)) ∧ lease' = some input.reserveUntil ∧ sent' = sent ∧
        (∀ time, sent = some time → time + input.cooldownMs ≤ input.occurredAt) ∧
        ∀ reservedUntil, lease = some reservedUntil → reservedUntil ≤ input.occurredAt) := by
  cases h with
  | same hgrant _ => exact Or.inl ⟨hgrant, rfl, rfl⟩
  | reserved hcooled hfree => exact Or.inr ⟨⟨_, rfl⟩, rfl, rfl, hcooled, hfree⟩

theorem CellChange.release_cases {memory : Bool} {lease sent lease' sent' : Option ℤ}
    {input : AlertCooldownReleaseInput} {answer : Except StoreError CooldownAnswer}
    (h : CellChange memory lease sent (.release input) answer lease' sent') :
    sent' = sent ∧ (lease' = lease ∨ (lease = some input.reservedUntil ∧ lease' = none)) := by
  cases h with
  | same _ _ => exact ⟨rfl, Or.inl rfl⟩
  | released hown => exact ⟨rfl, Or.inr ⟨hown, rfl⟩⟩

theorem CellChange.sent_cases {memory : Bool} {lease sent lease' sent' : Option ℤ} {input : AlertCooldownRecordInput}
    {answer : Except StoreError CooldownAnswer} (h : CellChange memory lease sent (.sent input) answer lease' sent') :
    ((∀ a, answer ≠ .ok a) ∧ lease' = lease ∧ sent' = sent) ∨
      ∃ state time, answer = .ok (.state state) ∧ lease' = none ∧ sent' = some time ∧ input.occurredAt ≤ time ∧
        (memory = false → ∀ before, sent = some before → before ≤ time) ∧
        (memory = true → time = input.occurredAt) := by
  cases h with
  | same _ hsent => exact Or.inl ⟨fun a => hsent input a rfl, rfl, rfl⟩
  | recorded hlatest hkept hmemory => exact Or.inr ⟨_, _, rfl, rfl, rfl, hlatest, hkept, hmemory⟩

theorem CellChange.skipped_cases {memory : Bool} {lease sent lease' sent' : Option ℤ}
    {input : AlertCooldownRecordInput} {answer : Except StoreError CooldownAnswer}
    (h : CellChange memory lease sent (.skipped input) answer lease' sent') :
    lease' = lease ∧ sent' = sent := by
  cases h
  exact ⟨rfl, rfl⟩

end SeeMirai.Alerts
