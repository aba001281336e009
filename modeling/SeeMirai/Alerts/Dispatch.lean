/-
Alert dispatch (application/alerts/index.ts): an alert is sent unless its fingerprint is cooling down or another
dispatch has reserved its delivery. A dispatch reserves, sends, and then records the send or releases its reservation;
what the provider answers moves the count of consecutive failures. It awaits its ports one after another, and any of
them may throw.

The program is asynchronous (`Async`): it awaits a clock, the cooldown store its severity selects, the notifier, the
audit log, the queue for retries, and the failure state of its options object, which it reads after the send. Points in
time are milliseconds. The details of audit events are left out, and a retry plan keeps the request in place of its
JSON payload.

- `dispatchAlertWithCooldown`: the dispatch.
- `evaluateNotificationFailure`: the failure state after a provider's answer.
- `createAlertDispatchRequestFromNotificationRetryPayload`: a request read back from a retry job.
- `severity_of_fingerprint`: alerts of one fingerprint have one severity.
-/
import SeeMirai.Alerts.Cooldown
import SeeMirai.Lib.Async
import SeeMirai.Lib.JsHost

namespace SeeMirai.Alerts

/-! ## Model: requests and results -/

/-- a `Date`, which may be invalid, or the text of one -/
inductive AlertTimestamp where
  | date (ms : Option ℤ)
  | text (text : String)
deriving DecidableEq, Repr

structure AlertDispatchRequest where
  environment : String
  runMode : String
  severity : AlertSeverity
  alertType : String
  market : Option String
  strategyId : Option String
  reasonCode : String
  dedupeKey : Option String
  title : String
  body : String
  occurredAt : Option AlertTimestamp
  correlationId : Option String
  metadata : Option JsonRecord

structure AlertNotification where
  severity : AlertSeverity
  title : String
  body : String
  fingerprint : String
  occurredAt : AlertTimestamp
  metadata : Option JsonRecord

structure NotificationResult where
  delivered : Bool
  providerMessageId : Option String
  skippedReason : Option String
deriving DecidableEq, Repr

structure NotificationFailureState where
  consecutiveFailures : ℕ
  firstFailureAt : Option ℤ
  lastFailureAt : Option ℤ
deriving DecidableEq, Repr

structure NotificationFailureEvaluation where
  state : NotificationFailureState
  manualReviewReasonCode : Option String
deriving DecidableEq, Repr

structure NotificationRetryJobPlan where
  fingerprint : String
  /-- the ISO text that makes the idempotency key, with job type and fingerprint -/
  occurredAt : String
  request : AlertDispatchRequest
  runAfter : AlertTimestamp
  maxAttempts : ℤ

def notificationRetryJobType : String := "notification_retry"

def NotificationRetryJobPlan.idempotencyKey (plan : NotificationRetryJobPlan) : String :=
  ":".intercalate [notificationRetryJobType, plan.fingerprint, plan.occurredAt]

structure NotificationRetryJobEnqueueReceipt where
  idempotencyKey : String
  created : Bool
  jobId : Option String
deriving DecidableEq, Repr

structure AlertAuditEvent where
  fingerprint : String
  occurredAt : ℤ
  severity : String
  reasonCode : String
  correlationId : Option String
  strategyId : Option String
deriving DecidableEq, Repr

structure AlertDispatchResult where
  fingerprint : String
  cooldownHit : Bool
  notification : NotificationResult
  retryJobPlan : Option NotificationRetryJobPlan
  retryJobEnqueueReceipt : Option NotificationRetryJobEnqueueReceipt
  retryJobEnqueueFailure : Option String
  failureEvaluation : NotificationFailureEvaluation

inductive AlertError where
  /-- thrown by a port -/
  | port (message : String)
  /-- `RangeError` of an invalid date -/
  | invalidTime
  /-- `NotificationRetryPayloadError` -/
  | payload (message : String)
  /-- an error that a runtime throws itself -/
  | runtime (message : String)
deriving DecidableEq, Repr

def AlertError.message : AlertError → String
  | port message => message
  | invalidTime => "Invalid time value"
  | payload message => message
  | runtime message => message

/-- what a dispatch is configured with; the failure state is read through a request -/
structure AlertDispatchOptions where
  hasRetryJobQueue : Bool
  hasAuditLog : Bool
  deliveryReservationMs : Option ℤ

inductive CooldownStoreKind where
  | durable
  | memory
deriving DecidableEq, Repr

inductive AlertRequest where
  | clock
  | failureState
  | reserveDelivery (store : CooldownStoreKind) (input : AlertCooldownReservationInput)
  | releaseDeliveryReservation (store : CooldownStoreKind) (input : AlertCooldownReleaseInput)
  | recordSent (store : CooldownStoreKind) (input : AlertCooldownRecordInput)
  | recordSkipped (store : CooldownStoreKind) (input : AlertCooldownRecordInput)
  | sendAlert (notification : AlertNotification)
  | appendEvent (event : AlertAuditEvent)
  | enqueueNotificationRetryJob (plan : NotificationRetryJobPlan)

def AlertReply : AlertRequest → Type
  | .clock => ℤ
  | .failureState => Option NotificationFailureState
  | .reserveDelivery _ _ => AlertCooldownReservationResult
  | .releaseDeliveryReservation _ _ => AlertCooldownState
  | .recordSent _ _ => AlertCooldownState
  | .recordSkipped _ _ => AlertCooldownState
  | .sendAlert _ => NotificationResult
  | .appendEvent _ => Unit
  | .enqueueNotificationRetryJob _ => NotificationRetryJobEnqueueReceipt

abbrev AlertProgram := Async AlertRequest AlertReply AlertError

def await (request : AlertRequest) : AlertProgram (AlertReply request) := Async.call request

/-! ## Model: the parts of a dispatch -/

section Fingerprint

variable [Host]

def isFingerprintCharacter (c : Char) : Bool := c.isLower || c.isDigit || c = '_' || c = ':' || c = '-'

/-- `replaceAll(/[^a-z0-9_:-]+/gu, "_")`: a run of other characters is one underscore -/
def underscoreRuns : Bool → List Char → List Char
  | _, [] => []
  | inRun, c :: cs =>
    if isFingerprintCharacter c then c :: underscoreRuns false cs
    else if inRun then underscoreRuns true cs
    else '_' :: underscoreRuns true cs

def escapeColon (c : Char) : List Char := if c = ':' then ['%', '3', 'a'] else [c]

def normalizeFingerprintPart (value : String) : String :=
  String.ofList ((underscoreRuns false (Host.toLowerCase (trim value)).toList).flatMap escapeColon)

def AlertSeverity.text : AlertSeverity → String
  | p0 => "P0"
  | p1 => "P1"
  | p2 => "P2"
  | p3 => "P3"

def fingerprintParts (request : AlertDispatchRequest) : List String :=
  ["alert", normalizeFingerprintPart request.environment, normalizeFingerprintPart request.runMode,
    request.severity.text, normalizeFingerprintPart request.alertType,
    normalizeFingerprintPart (request.market.getD "global"),
    normalizeFingerprintPart (request.strategyId.getD "global"), normalizeFingerprintPart request.reasonCode] ++
    request.dedupeKey.toList.map normalizeFingerprintPart

def createAlertFingerprint (request : AlertDispatchRequest) : String := ":".intercalate (fingerprintParts request)

end Fingerprint

def usesDurableCooldown (severity : AlertSeverity) : Bool := severity = .p0 || severity = .p1

def selectCooldownStore (severity : AlertSeverity) : CooldownStoreKind :=
  if usesDurableCooldown severity then .durable else .memory

def defaultAlertDeliveryReservationMs : ℤ := 60000

/-- the range of a `Date` -/
def isTimeValue (ms : ℤ) : Bool := -8640000000000000 ≤ ms ∧ ms ≤ 8640000000000000

/-- `new Date(ms).toISOString()`, of which only the time is kept -/
def addMs (value ms : ℤ) : Except AlertError ℤ :=
  if isTimeValue (value + ms) then .ok (value + ms) else .error .invalidTime

def toIsoTimestamp : AlertTimestamp → Except AlertError String
  | .date (some ms) => .ok (toISOString ms)
  | .date none => .error .invalidTime
  | .text text => .ok text

def toCooldownRecordInput [Host] (request : AlertDispatchRequest) (fingerprint : String) (occurredAt : ℤ) :
    AlertCooldownRecordInput where
  fingerprint := fingerprint
  severity := request.severity
  alertType := normalizeFingerprintPart request.alertType
  market := request.market.map normalizeFingerprintPart
  strategyId := request.strategyId.map normalizeFingerprintPart
  reasonCode := normalizeFingerprintPart request.reasonCode
  occurredAt := occurredAt
  payloadJson := some [("title", .string request.title),
    ("correlation_id", (request.correlationId.map JsValue.string).getD .null),
    ("dedupe_key", (request.dedupeKey.map JsValue.string).getD .null),
    ("metadata", .object (request.metadata.getD []))]

def createNotificationRetryJobPlan (request : AlertDispatchRequest) (fingerprint : String)
    (occurredAt : AlertTimestamp) : Except AlertError NotificationRetryJobPlan :=
  (toIsoTimestamp occurredAt).map fun text => ⟨fingerprint, text, request, occurredAt, 3⟩

def noFailures : NotificationFailureState := ⟨0, none, none⟩

def evaluateNotificationFailure (currentState : Option NotificationFailureState) (result : NotificationResult)
    (occurredAt : ℤ) : NotificationFailureEvaluation :=
  if result.delivered then ⟨noFailures, none⟩
  else
    let previous := currentState.getD noFailures
    let firstFailureAt := previous.firstFailureAt.getD occurredAt
    let state : NotificationFailureState := ⟨previous.consecutiveFailures + 1, some firstFailureAt, some occurredAt⟩
    if 3 ≤ state.consecutiveFailures then ⟨state, some "notification_consecutive_failure"⟩
    else if 10 * 60000 ≤ occurredAt - firstFailureAt then ⟨state, some "notification_failure_threshold_exceeded"⟩
    else ⟨state, none⟩

def preserveNotificationFailureState (currentState : Option NotificationFailureState) : NotificationFailureEvaluation :=
  ⟨currentState.getD noFailures, none⟩

/-! ## Model: the dispatch -/

open Async

section Dispatch

variable [Host]

structure ReservationContext where
  reservationAt : ℤ
  reserveUntil : ℤ
  recordInput : AlertCooldownRecordInput
  reservation : AlertCooldownReservationResult

def reserveAlertDeliveryForDispatch (options : AlertDispatchOptions) (request : AlertDispatchRequest)
    (fingerprint : String) (store : CooldownStoreKind) : AlertProgram ReservationContext := do
  let reservationAt : ℤ ← await .clock
  let reserveUntil ← settle (addMs reservationAt
    (options.deliveryReservationMs.getD defaultAlertDeliveryReservationMs))
  let recordInput := toCooldownRecordInput request fingerprint reservationAt
  let reservation : AlertCooldownReservationResult ← await (.reserveDelivery store
    { recordInput with cooldownMs := getDefaultAlertCooldownMs request.severity, reserveUntil := reserveUntil })
  return ⟨reservationAt, reserveUntil, recordInput, reservation⟩

/-- why a reservation was not given, if the state it was refused on says so -/
def ReservationContext.blocked (context : ReservationContext) (severity : AlertSeverity) : Option (SkippedReason × ℤ) :=
  describeBlockedDelivery context.reservation.state severity context.reservationAt

def appendAlertAudit (options : AlertDispatchOptions) (request : AlertDispatchRequest) (fingerprint : String)
    (occurredAt : ℤ) (severity reasonCode : String) : AlertProgram Unit :=
  if options.hasAuditLog then
    await (.appendEvent ⟨fingerprint, occurredAt, severity, reasonCode, request.correlationId, request.strategyId⟩)
  else return ()

/-- a notifier that throws has delivered nothing -/
def sendAlertSafely (notification : AlertNotification) : AlertProgram NotificationResult :=
  tryCatch (await (.sendAlert notification)) fun _ => return ⟨false, none, some "notification_provider_exception"⟩

def enqueueNotificationRetryJobSafely (plan : NotificationRetryJobPlan) :
    AlertProgram (Except String NotificationRetryJobEnqueueReceipt) :=
  tryCatch (do
    let receipt : NotificationRetryJobEnqueueReceipt ← await (.enqueueNotificationRetryJob plan)
    return .ok receipt) fun error => return .error error.message

/-- the skip: no provider call, only its records -/
def skipAlert (options : AlertDispatchOptions) (request : AlertDispatchRequest) (fingerprint : String)
    (store : CooldownStoreKind) (context : ReservationContext) : AlertProgram AlertDispatchResult := do
  let blockedDelivery := context.blocked request.severity
  let skippedReason := (blockedDelivery.map fun blocked => blocked.1.code).getD "alert_reservation_race"
  let _ ← await (.recordSkipped store context.recordInput)
  appendAlertAudit options request fingerprint context.reservationAt "INFO" "alert_delivery_skipped"
  let failureState : Option NotificationFailureState ← await .failureState
  return { fingerprint := fingerprint, cooldownHit := true, notification := ⟨false, none, some skippedReason⟩,
           retryJobPlan := none, retryJobEnqueueReceipt := none, retryJobEnqueueFailure := none,
           failureEvaluation := preserveNotificationFailureState failureState }

/-- after a delivered send -/
def recordDelivered (options : AlertDispatchOptions) (request : AlertDispatchRequest) (fingerprint : String)
    (store : CooldownStoreKind) (notification : NotificationResult) (deliveryCompletedAt : ℤ)
    (failureEvaluation : NotificationFailureEvaluation) : AlertProgram AlertDispatchResult := do
  let _ ← await (.recordSent store (toCooldownRecordInput request fingerprint deliveryCompletedAt))
  appendAlertAudit options request fingerprint deliveryCompletedAt "INFO" "notification_delivered"
  return { fingerprint := fingerprint, cooldownHit := false, notification := notification, retryJobPlan := none,
           retryJobEnqueueReceipt := none, retryJobEnqueueFailure := none, failureEvaluation := failureEvaluation }

/-- P0 and P1 failures are retried -/
def planRetry (request : AlertDispatchRequest) (fingerprint : String) (occurredAt : AlertTimestamp) :
    AlertProgram (Option NotificationRetryJobPlan) :=
  if usesDurableCooldown request.severity then
    settle ((createNotificationRetryJobPlan request fingerprint occurredAt).map some)
  else return none

def enqueueRetry (options : AlertDispatchOptions) (plan : Option NotificationRetryJobPlan) :
    AlertProgram (Option (Except String NotificationRetryJobEnqueueReceipt)) :=
  match plan.filter fun _ => options.hasRetryJobQueue with
  | some plan => do
    let result ← enqueueNotificationRetryJobSafely plan
    return some result
  | none => return none

/-- after a send that was not delivered -/
def releaseFailed (options : AlertDispatchOptions) (request : AlertDispatchRequest) (fingerprint : String)
    (store : CooldownStoreKind) (alertOccurredAt : AlertTimestamp) (reserveUntil : ℤ)
    (notification : NotificationResult) (deliveryCompletedAt : ℤ) (failureEvaluation : NotificationFailureEvaluation) :
    AlertProgram AlertDispatchResult := do
  let _ ← await (.releaseDeliveryReservation store
    { toCooldownRecordInput request fingerprint deliveryCompletedAt with reservedUntil := reserveUntil })
  let retryJobPlan ← planRetry request fingerprint alertOccurredAt
  let enqueued ← enqueueRetry options retryJobPlan
  appendAlertAudit options request fingerprint deliveryCompletedAt "ERROR" "notification_failure"
  return { fingerprint := fingerprint, cooldownHit := false, notification := notification, retryJobPlan := retryJobPlan,
           retryJobEnqueueReceipt := enqueued.bind Except.toOption
           retryJobEnqueueFailure := enqueued.bind fun result => match result with
             | .ok _ => none
             | .error message => some message
           failureEvaluation := failureEvaluation }

/-- the send under a reservation, and what follows from it -/
def deliverAlert (options : AlertDispatchOptions) (request : AlertDispatchRequest) (fingerprint : String)
    (store : CooldownStoreKind) (context : ReservationContext) : AlertProgram AlertDispatchResult := do
  let alertOccurredAt := request.occurredAt.getD (.date (some context.reservationAt))
  let notification ← sendAlertSafely
    ⟨request.severity, request.title, request.body, fingerprint, alertOccurredAt, request.metadata⟩
  let deliveryCompletedAt : ℤ ← await .clock
  let failureState : Option NotificationFailureState ← await .failureState
  let failureEvaluation := evaluateNotificationFailure failureState notification deliveryCompletedAt
  if notification.delivered then
    recordDelivered options request fingerprint store notification deliveryCompletedAt failureEvaluation
  else
    releaseFailed options request fingerprint store alertOccurredAt context.reserveUntil notification
      deliveryCompletedAt failureEvaluation

/-- refused on a state that no longer blocks, the lease was given up meanwhile, and one more try is due -/
def reserveAgain (options : AlertDispatchOptions) (request : AlertDispatchRequest) (fingerprint : String)
    (store : CooldownStoreKind) (first : ReservationContext) : AlertProgram ReservationContext :=
  if first.reservation.reserved = false ∧ first.blocked request.severity = none then
    reserveAlertDeliveryForDispatch options request fingerprint store
  else return first

def dispatchAlertWithCooldown (options : AlertDispatchOptions) (request : AlertDispatchRequest) :
    AlertProgram AlertDispatchResult := do
  let fingerprint := createAlertFingerprint request
  let store := selectCooldownStore request.severity
  let first ← reserveAlertDeliveryForDispatch options request fingerprint store
  let context ← reserveAgain options request fingerprint store first
  if context.reservation.reserved then deliverAlert options request fingerprint store context
  else skipAlert options request fingerprint store context

end Dispatch

/-! ## Model: retry payloads -/

def readRequiredStringField (record : JsonRecord) (key : String) : Except AlertError String :=
  match (JsValue.object record).prop key with
  | .string value =>
    if (trim value).length = 0 then
      .error (.payload s!"notification retry payload field {key} must be a non-empty string")
    else .ok value
  | _ => .error (.payload s!"notification retry payload field {key} must be a non-empty string")

def readOptionalStringField (record : JsonRecord) (key : String) : Except AlertError (Option String) :=
  match (JsValue.object record).prop key with
  | .null => .ok none
  | .undefined => .ok none
  | .string value =>
    if (trim value).length = 0 then
      .error (.payload s!"notification retry payload field {key} must be a non-empty string when present")
    else .ok (some value)
  | _ => .error (.payload s!"notification retry payload field {key} must be a non-empty string when present")

def readOptionalJsonRecordField (record : JsonRecord) (key : String) : Except AlertError (Option JsonRecord) :=
  match (JsValue.object record).prop key with
  | .null => .ok none
  | .undefined => .ok none
  | .object value => .ok (some value)
  | _ => .error (.payload s!"notification retry payload field {key} must be an object when present")

def readNotificationRetrySeverity (record : JsonRecord) (key : String) : Except AlertError AlertSeverity := do
  let value ← readRequiredStringField record key
  match value with
  | "P0" => pure .p0
  | "P1" => pure .p1
  | "P2" => pure .p2
  | "P3" => pure .p3
  | _ => throw (.payload s!"notification retry payload field {key} must be a known severity")

def createAlertDispatchRequestFromNotificationRetryPayload (payloadJson : JsonRecord) :
    Except AlertError AlertDispatchRequest := do
  let severity ← readNotificationRetrySeverity payloadJson "severity"
  if usesDurableCooldown severity = false then
    throw (.payload "notification retry payload severity must be P0 or P1")
  let correlationId ← readOptionalStringField payloadJson "correlation_id"
  let dedupeKey ← readOptionalStringField payloadJson "dedupe_key"
  let market ← readOptionalStringField payloadJson "market"
  let strategyId ← readOptionalStringField payloadJson "strategy_id"
  return {
    environment := ← readRequiredStringField payloadJson "environment"
    runMode := ← readRequiredStringField payloadJson "run_mode"
    severity := severity
    alertType := ← readRequiredStringField payloadJson "alert_type"
    market := market
    strategyId := strategyId
    reasonCode := ← readRequiredStringField payloadJson "reason_code"
    dedupeKey := dedupeKey
    title := ← readRequiredStringField payloadJson "title"
    body := ← readRequiredStringField payloadJson "body"
    occurredAt := some (.text (← readRequiredStringField payloadJson "occurred_at"))
    correlationId := correlationId
    metadata := some ((← readOptionalJsonRecordField payloadJson "metadata").getD []) }

inductive NotificationRetryDispatchStatus where
  | delivered
  | cooldownSkipped
  | failed
deriving DecidableEq, Repr

structure NotificationRetryDispatchResult where
  status : NotificationRetryDispatchStatus
  alertDispatch : AlertDispatchResult
  errorMessage : Option String

/-- what a dispatch result means for its retry job -/
def toRetryDispatchResult (result : AlertDispatchResult) : NotificationRetryDispatchResult :=
  if result.notification.delivered then ⟨.delivered, result, none⟩
  else if result.cooldownHit then
    if result.notification.skippedReason = some SkippedReason.alertCooldownActive.code then
      ⟨.cooldownSkipped, result, none⟩
    else
      ⟨.failed, result, some
        ("notification retry deferred: " ++ result.notification.skippedReason.getD "alert_delivery_not_sent")⟩
  else
    ⟨.failed, result, some
      ("notification retry failed: " ++ result.notification.skippedReason.getD "notification_retry_provider_failure")⟩

def dispatchNotificationRetryJob [Host] (options : AlertDispatchOptions) (payloadJson : JsonRecord) :
    AlertProgram NotificationRetryDispatchResult := do
  let request ← settle (createAlertDispatchRequestFromNotificationRetryPayload payloadJson)
  let result ← dispatchAlertWithCooldown options request
  return toRetryDispatchResult result

/-! ## Fingerprints -/

section Fingerprint

variable [Host]

theorem colon_not_mem_normalize (value : String) : ':' ∉ (normalizeFingerprintPart value).toList := by
  rw [normalizeFingerprintPart, String.toList_ofList, List.mem_flatMap]
  intro h
  obtain ⟨c, -, hmem⟩ := h
  rw [escapeColon] at hmem
  split at hmem
  · simp at hmem
  · rename_i hc
    exact hc (List.mem_singleton.1 hmem).symm

theorem colon_not_mem_parts (request : AlertDispatchRequest) :
    ∀ part ∈ (fingerprintParts request).map String.toList, ':' ∉ part := by
  intro part hpart
  obtain ⟨text, htext, rfl⟩ := List.mem_map.1 hpart
  have hseverity : ':' ∉ request.severity.text.toList := by cases request.severity <;> decide
  simp only [fingerprintParts, List.cons_append, List.nil_append, List.mem_cons, List.mem_map] at htext
  rcases htext with rfl | rfl | rfl | rfl | rfl | rfl | rfl | rfl | ⟨key, -, rfl⟩
  · decide
  · exact colon_not_mem_normalize _
  · exact colon_not_mem_normalize _
  · exact hseverity
  · exact colon_not_mem_normalize _
  · exact colon_not_mem_normalize _
  · exact colon_not_mem_normalize _
  · exact colon_not_mem_normalize _
  · exact colon_not_mem_normalize _

/-- a fingerprint is taken apart at its colons -/
theorem splitOn_fingerprint (request : AlertDispatchRequest) :
    (createAlertFingerprint request).toList.splitOn ':' = (fingerprintParts request).map String.toList := by
  rw [createAlertFingerprint, String.toList_intercalate]
  exact List.splitOn_intercalate ':' (colon_not_mem_parts request) (by simp [fingerprintParts])

/-- alerts of one fingerprint have one severity, hence one cooldown and one store -/
theorem severity_of_fingerprint {a b : AlertDispatchRequest} (h : createAlertFingerprint a = createAlertFingerprint b) :
    a.severity = b.severity := by
  have hparts : (fingerprintParts a).map String.toList = (fingerprintParts b).map String.toList := by
    rw [← splitOn_fingerprint, ← splitOn_fingerprint, h]
  have htext : a.severity.text.toList = b.severity.text.toList := by
    simp only [fingerprintParts, List.cons_append, List.map_cons, List.cons.injEq] at hparts
    exact hparts.2.2.2.1
  revert htext
  cases a.severity <;> cases b.severity <;> first | exact fun _ => rfl | (intro h; revert h; decide)

end Fingerprint

end SeeMirai.Alerts
