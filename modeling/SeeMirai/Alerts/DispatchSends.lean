/-
What a dispatch does with its send. It calls the provider at most once, and what it returns follows from the provider's
answer: the notification is that answer, and the failure state is moved by it; a skip calls no provider and keeps the
failure state it read. Whatever the other ports reply.

- `dispatch_sends`: the send of a dispatch and its result.
- `sends_retry`: the same for a retry job.
-/
import SeeMirai.Alerts.Dispatch

namespace SeeMirai.Alerts

open Async

/-- what a dispatch has learnt: what its send came to, and the failure state it read last -/
structure SendPlace where
  sent : Option NotificationResult
  failureState : Option (Option NotificationFailureState)

/-- what `sendAlertSafely` makes of a provider that throws -/
def providerException : NotificationResult := ⟨false, none, some "notification_provider_exception"⟩

/-- one send at most; all else is free -/
def sendMonitor : Monitor AlertRequest AlertReply AlertError SendPlace where
  Allowed place
    | .sendAlert _ => place.sent = none
    | _ => True
  after place
    | .sendAlert _, .ok notification => { place with sent := some notification }
    | .sendAlert _, .error _ => { place with sent := some providerException }
    | .failureState, .ok state => { place with failureState := some state }
    | _, _ => place

/-- what a result says of the send and of the failure state that was read -/
def Reports (place : SendPlace) : Except AlertError AlertDispatchResult → Prop
  | .ok result => ∃ state, place.failureState = some state ∧
      match place.sent with
      | some notification => result.cooldownHit = false ∧ result.notification = notification ∧
          ∃ time, result.failureEvaluation = evaluateNotificationFailure state notification time
      | none => result.cooldownHit = true ∧ result.notification.delivered = false ∧
          result.failureEvaluation = preserveNotificationFailureState state
  | .error _ => True

section Programs

variable {request : AlertDispatchRequest} {options : AlertDispatchOptions} {fingerprint : String}
  {store : CooldownStoreKind} {place : SendPlace}

/-- the place is left as it was -/
def Unmoved {α : Type} (place place' : SendPlace) (_ : Except AlertError α) : Prop := place' = place

theorem audit_unmoved (time : ℤ) (level reasonCode : String) :
    Keeps sendMonitor (Unmoved place) place (appendAlertAudit options request fingerprint time level reasonCode) := by
  rw [appendAlertAudit]
  cases options.hasAuditLog with
  | true => exact keeps_call trivial fun _ => rfl
  | false => exact keeps_pure rfl

theorem enqueue_unmoved (plan : NotificationRetryJobPlan) :
    Keeps sendMonitor (Unmoved place) place (enqueueNotificationRetryJobSafely plan) := by
  have henqueue : Keeps sendMonitor (Unmoved place) place (do
      let receipt : NotificationRetryJobEnqueueReceipt ← await (.enqueueNotificationRetryJob plan)
      return (.ok receipt : Except String NotificationRetryJobEnqueueReceipt)) :=
    keeps_call_bind trivial (fun _ => keeps_pure rfl) (fun _ => rfl)
  exact keeps_tryCatch henqueue (fun _ _ h => h) (fun _ _ h => keeps_pure h)

theorem planRetry_unmoved (occurredAt : AlertTimestamp) :
    Keeps sendMonitor (Unmoved place) place (planRetry request fingerprint occurredAt) := by
  rw [planRetry]
  split
  · exact keeps_settle rfl
  · exact keeps_pure rfl

theorem enqueueRetry_unmoved (plan : Option NotificationRetryJobPlan) :
    Keeps sendMonitor (Unmoved place) place (enqueueRetry options plan) := by
  rw [enqueueRetry]
  split
  · refine keeps_bind (enqueue_unmoved _) (fun _ _ h => ?_) (fun _ _ h => h)
    exact keeps_pure h
  · exact keeps_pure rfl

variable [Host]

theorem reserve_unmoved : Keeps sendMonitor (Unmoved place) place
    (reserveAlertDeliveryForDispatch options request fingerprint store) := by
  refine keeps_call_bind trivial (fun _ => ?_) (fun _ => rfl)
  refine keeps_settle_bind (fun _ _ => ?_) (fun _ _ => rfl)
  exact keeps_call_bind trivial (fun _ => keeps_pure rfl) (fun _ => rfl)

omit [Host] in
theorem skip_reports (context : ReservationContext) (hunsent : place.sent = none) :
    Keeps sendMonitor Reports place (skipAlert options request fingerprint store context) := by
  refine keeps_call_bind trivial (fun _ => ?_) (fun _ => trivial)
  refine keeps_bind (audit_unmoved _ _ _) (fun place' _ h => ?_) (fun _ _ _ => trivial)
  obtain rfl : place' = place := h
  refine keeps_call_bind trivial (fun state => keeps_pure ⟨state, rfl, ?_⟩) (fun _ => trivial)
  have hsent : (sendMonitor.after place' .failureState (.ok state)).sent = none := hunsent
  rw [hsent]
  exact ⟨rfl, rfl, rfl⟩

theorem recordDelivered_reports (notification : NotificationResult) (time : ℤ)
    (state : Option NotificationFailureState) (hsent : place.sent = some notification)
    (hstate : place.failureState = some state) :
    Keeps sendMonitor Reports place (recordDelivered options request fingerprint store notification time
      (evaluateNotificationFailure state notification time)) := by
  refine keeps_call_bind trivial (fun _ => ?_) (fun _ => trivial)
  refine keeps_bind (audit_unmoved _ _ _) (fun place' _ h => keeps_pure ?_) (fun _ _ _ => trivial)
  obtain rfl : place' = place := h
  refine ⟨state, hstate, ?_⟩
  rw [hsent]
  exact ⟨rfl, rfl, time, rfl⟩

theorem releaseFailed_reports (occurredAt : AlertTimestamp) (reserveUntil : ℤ) (notification : NotificationResult)
    (time : ℤ) (state : Option NotificationFailureState) (hsent : place.sent = some notification)
    (hstate : place.failureState = some state) :
    Keeps sendMonitor Reports place (releaseFailed options request fingerprint store occurredAt reserveUntil
      notification time (evaluateNotificationFailure state notification time)) := by
  refine keeps_call_bind trivial (fun _ => ?_) (fun _ => trivial)
  refine keeps_bind (planRetry_unmoved _) (fun place₁ plan h₁ => ?_) (fun _ _ _ => trivial)
  obtain rfl : place₁ = place := h₁
  refine keeps_bind (enqueueRetry_unmoved plan) (fun place₂ _ h₂ => ?_) (fun _ _ _ => trivial)
  obtain rfl : place₂ = place₁ := h₂
  refine keeps_bind (audit_unmoved _ _ _) (fun place₃ _ h₃ => keeps_pure ?_) (fun _ _ _ => trivial)
  obtain rfl : place₃ = place₂ := h₃
  refine ⟨state, hstate, ?_⟩
  rw [hsent]
  exact ⟨rfl, rfl, time, rfl⟩

omit [Host] in
/-- the send: what it returns is what it came to -/
theorem send_sent (notification : AlertNotification) (hunsent : place.sent = none) :
    Keeps sendMonitor (fun place' end_ => match end_ with
      | .ok result => place'.sent = some result
      | .error _ => True) place (sendAlertSafely notification) := by
  have hcall : Keeps sendMonitor (fun place' end_ => match end_ with
      | .ok result => place'.sent = some result
      | .error _ => place'.sent = some providerException) place (await (.sendAlert notification)) :=
    keeps_call hunsent fun reply => by cases reply <;> rfl
  exact keeps_tryCatch hcall (fun _ _ h => h) (fun _ _ h => keeps_pure h)

theorem deliver_reports (context : ReservationContext) (hunsent : place.sent = none) :
    Keeps sendMonitor Reports place (deliverAlert options request fingerprint store context) := by
  refine keeps_bind (send_sent _ hunsent) (fun place' notification hsent => ?_) (fun _ _ _ => trivial)
  refine keeps_call_bind trivial (fun time => ?_) (fun _ => trivial)
  refine keeps_call_bind trivial (fun state => ?_) (fun _ => trivial)
  simp only
  split
  · exact recordDelivered_reports notification time state hsent rfl
  · exact releaseFailed_reports _ _ notification time state hsent rfl

/-- **The send of a dispatch.** It is one at most, and the result tells what it came to. -/
theorem dispatch_sends (hunsent : place.sent = none) :
    Keeps sendMonitor Reports place (dispatchAlertWithCooldown options request) := by
  rw [dispatchAlertWithCooldown]
  refine keeps_bind reserve_unmoved (fun place₁ first h₁ => ?_) (fun _ _ _ => trivial)
  obtain rfl : place₁ = place := h₁
  have hagain : Keeps sendMonitor (Unmoved place₁) place₁ (reserveAgain options request (createAlertFingerprint request)
      (selectCooldownStore request.severity) first) := by
    rw [reserveAgain]
    split
    · exact reserve_unmoved
    · exact keeps_pure rfl
  refine keeps_bind hagain (fun place₂ context h₂ => ?_) (fun _ _ _ => trivial)
  obtain rfl : place₂ = place₁ := h₂
  cases context.reservation.reserved with
  | true => exact deliver_reports context hunsent
  | false => exact skip_reports context hunsent

/-- a retry job was delivered exactly when its send was -/
def ReportsRetry (place : SendPlace) : Except AlertError NotificationRetryDispatchResult → Prop
  | .ok result => result.status = .delivered ↔ ∃ notification, place.sent = some notification ∧
      notification.delivered = true
  | .error _ => True

theorem sends_retry (payloadJson : JsonRecord) (hunsent : place.sent = none) :
    Keeps sendMonitor ReportsRetry place (dispatchNotificationRetryJob options payloadJson) := by
  refine keeps_settle_bind (fun request _ => ?_) (fun _ _ => trivial)
  refine keeps_bind (dispatch_sends hunsent) (fun place' result hreports => keeps_pure ?_) (fun _ _ _ => trivial)
  obtain ⟨state, -, hmatch⟩ := hreports
  cases hsent : place'.sent with
  | some notification =>
    rw [hsent] at hmatch
    obtain ⟨hhit, rfl, -⟩ := hmatch
    simp only [ReportsRetry, toRetryDispatchResult, hhit, hsent]
    by_cases hdelivered : result.notification.delivered = true <;> simp [hdelivered]
  | none =>
    rw [hsent] at hmatch
    obtain ⟨hhit, hdelivered, -⟩ := hmatch
    simp only [ReportsRetry, toRetryDispatchResult, hhit, hsent, hdelivered]
    by_cases hcooling : result.notification.skippedReason = some SkippedReason.alertCooldownActive.code <;>
      simp [hcooling]

end Programs

end SeeMirai.Alerts
