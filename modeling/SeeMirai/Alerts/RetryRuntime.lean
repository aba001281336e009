/-
The notification retry runtime (runtime/notification-retry-runtime/service.ts). A run claims one due retry job after the
other, dispatches its alert, and completes the job or fails it. A tracker around the notifier notes a send that was
reported delivered: whatever throws after it, the job is to be completed and not retried.

Workers run over one job queue, each under its own id and one run at a time, interleaved at every await with each other
and with everybody else who uses the queue. Any port may throw, and a statement may run and lose its answer. An invalid
date that reaches the database is a refused statement. The metadata of audit events is left out.

- `runDueNotificationRetryJobs`: a run.
- `retryEnvironment`: how its requests are served.
- `RetrySafe`: what is promised of deliveries and jobs.
-/
import SeeMirai.Alerts.DispatchSends
import SeeMirai.Jobs.QueueRuns

namespace SeeMirai.Alerts

open Async Jobs

/-! ## Model: requests -/

structure AuditEventReceipt where
  auditEventId : String
  appendedAt : String
deriving DecidableEq, Repr

structure NotificationRetryAuditEvent (ι : Type) where
  job : JobRecord ι ℤ
  finalJob : JobRecord ι ℤ
  workerId : String
  occurredAt : Option ℤ
  severity : String
  reasonCode : String
  correlationId : Option String

/-- what a run awaits; `none` is an invalid date -/
inductive RetryRequest (ι : Type) where
  | alert (request : AlertRequest)
  | clock
  | claimDueNotificationRetryJobs (workerId : String) (limit : ℤ) (now : Option ℤ)
  | completeNotificationRetryJob (jobId : ι) (workerId : String) (completedAt : Option ℤ)
  | failNotificationRetryJob (jobId : ι) (workerId : String) (errorMessage : String) (failedAt retryAfter : Option ℤ)
  | appendEvent (event : NotificationRetryAuditEvent ι)

def RetryReply {ι : Type} : RetryRequest ι → Type
  | .alert request => AlertReply request
  | .clock => Option ℤ
  | .claimDueNotificationRetryJobs _ _ _ => List (JobRecord ι ℤ)
  | .completeNotificationRetryJob _ _ _ => JobRecord ι ℤ
  | .failNotificationRetryJob _ _ _ _ _ => JobRecord ι ℤ
  | .appendEvent _ => AuditEventReceipt

abbrev RetryProgram (ι : Type) := Async (RetryRequest ι) RetryReply AlertError

/-! ## Model: a run -/

inductive NotificationRetryRuntimeJobStatus where
  | delivered
  | cooldownSkipped
  | retryScheduled
  | manualReviewRequired
  | invalidPayload
deriving DecidableEq, Repr

structure ClaimedNotificationRetryJobRunResult (ι : Type) where
  job : JobRecord ι ℤ
  status : NotificationRetryRuntimeJobStatus
  finalJob : JobRecord ι ℤ
  auditEventReceipts : List AuditEventReceipt
  errorMessage : Option String

structure RunDueNotificationRetryJobsOptions where
  limit : Option ℤ
  now : Option ℤ

def notificationRetryFailureDelayMs : ℤ := 60000

section Run

variable {ι : Type}

def askPort (request : RetryRequest ι) : RetryProgram ι (RetryReply request) := Async.call request

/-- the later of the two; an invalid time never counts -/
def clampToLowerBound (current lowerBound : Option ℤ) : Option ℤ :=
  match lowerBound, current with
  | none, current => current
  | some lowerBound, some current => if lowerBound ≤ current then some current else some lowerBound
  | some lowerBound, none => some lowerBound

def resolveWorkerTimestamp (lowerBound : Option ℤ) : RetryProgram ι (Option ℤ) := do
  let current : Option ℤ ← askPort .clock
  return clampToLowerBound current lowerBound

def readCorrelationId (job : JobRecord ι ℤ) : Option String :=
  match (JsValue.object job.payloadJson).prop "correlation_id" with
  | .string value => if 0 < value.length then some value else none
  | _ => none

/-- an audit log that throws is no reason to deliver again -/
def appendNotificationRetryAuditSafely (job finalJob : JobRecord ι ℤ) (workerId : String) (occurredAt : Option ℤ)
    (severity reasonCode : String) : RetryProgram ι (List AuditEventReceipt) :=
  tryCatch (do
    let receipt : AuditEventReceipt ← askPort
      (.appendEvent ⟨job, finalJob, workerId, occurredAt, severity, reasonCode, readCorrelationId job⟩)
    return [receipt]) fun _ => return []

structure ClaimedRun (ι : Type) where
  job : JobRecord ι ℤ
  workerId : String
  claimNow : Option ℤ

def ClaimedRun.lowerBound (input : ClaimedRun ι) : Option ℤ := input.job.lockedAt.or input.claimNow

def completeNotificationRetryJobAfterPostDeliveryFailure (input : ClaimedRun ι) (occurredAt : Option ℤ)
    (errorMessage : String) : RetryProgram ι (ClaimedNotificationRetryJobRunResult ι) := do
  let finalJob : JobRecord ι ℤ ← askPort (.completeNotificationRetryJob input.job.id input.workerId occurredAt)
  let receipts ← appendNotificationRetryAuditSafely input.job finalJob input.workerId occurredAt "ERROR"
    "notification_retry_delivered_after_dispatch_error"
  return ⟨input.job, .delivered, finalJob, receipts, some errorMessage⟩

def failNotificationRetryJobWithEvidence (input : ClaimedRun ι) (occurredAt : Option ℤ) (errorMessage : String)
    (invalidPayload : Bool) : RetryProgram ι (ClaimedNotificationRetryJobRunResult ι) := do
  let finalJob : JobRecord ι ℤ ← askPort (.failNotificationRetryJob input.job.id input.workerId errorMessage occurredAt
    (occurredAt.map (· + notificationRetryFailureDelayMs)))
  let manualReviewRequired : Bool := finalJob.status = .failed
  let receipts ← appendNotificationRetryAuditSafely input.job finalJob input.workerId occurredAt
    (if manualReviewRequired then "CRITICAL" else "ERROR")
    (if manualReviewRequired then "notification_retry_manual_review_required" else "notification_retry_failed")
  let status : NotificationRetryRuntimeJobStatus :=
    if invalidPayload then .invalidPayload
    else if manualReviewRequired then .manualReviewRequired
    else .retryScheduled
  return ⟨input.job, status, finalJob, receipts, some errorMessage⟩

/-- sent, or skipped because a send cools down: the job is done -/
def completeDispatched (input : ClaimedRun ι) (dispatchResult : NotificationRetryDispatchResult)
    (occurredAt : Option ℤ) : RetryProgram ι (ClaimedNotificationRetryJobRunResult ι) := do
  let finalJob : JobRecord ι ℤ ← askPort (.completeNotificationRetryJob input.job.id input.workerId occurredAt)
  let receipts ← appendNotificationRetryAuditSafely input.job finalJob input.workerId occurredAt "INFO"
    (if dispatchResult.status = .delivered then "notification_retry_delivered"
      else "notification_retry_cooldown_skipped")
  let status : NotificationRetryRuntimeJobStatus :=
    if dispatchResult.status = .delivered then .delivered else .cooldownSkipped
  return ⟨input.job, status, finalJob, receipts, none⟩

/-- after a dispatch that returned -/
def settleDispatched (input : ClaimedRun ι) (dispatchResult : NotificationRetryDispatchResult) :
    RetryProgram ι (ClaimedNotificationRetryJobRunResult ι) := do
  let occurredAt ← resolveWorkerTimestamp input.lowerBound
  if dispatchResult.status = .delivered ∨ dispatchResult.status = .cooldownSkipped then
    completeDispatched input dispatchResult occurredAt
  else
    failNotificationRetryJobWithEvidence input occurredAt
      (dispatchResult.errorMessage.getD "notification retry failed") false

/-- `error instanceof NotificationRetryPayloadError` -/
def AlertError.isPayload : AlertError → Bool
  | payload _ => true
  | _ => false

/-- after a throw, of the dispatch or of what follows it -/
def settleThrown (input : ClaimedRun ι) (delivered : Option NotificationResult) (error : AlertError) :
    RetryProgram ι (ClaimedNotificationRetryJobRunResult ι) := do
  let occurredAt ← resolveWorkerTimestamp input.lowerBound
  match delivered with
  | some _ =>
    completeNotificationRetryJobAfterPostDeliveryFailure input occurredAt
      ("notification retry post-delivery step failed: " ++ error.message)
  | none =>
    failNotificationRetryJobWithEvidence input occurredAt ("notification retry worker failed: " ++ error.message)
      error.isPayload

/-- `NotificationRetryDeliveryTracker`: a send that was reported delivered -/
def noticeDelivered : (request : RetryRequest ι) → Except AlertError (RetryReply request) → Option NotificationResult
  | .alert (.sendAlert _), .ok result => if NotificationResult.delivered result then some result else none
  | _, _ => none

/-- what `runDueNotificationRetryJobs` hands to the dispatch -/
def retryDispatchOptions : AlertDispatchOptions := ⟨false, true, none⟩

def trackedDispatch [Host] (input : ClaimedRun ι) :
    RetryProgram ι (Except AlertError NotificationRetryDispatchResult × Option NotificationResult) :=
  watch noticeDelivered none
    (embed RetryRequest.alert (fun _ => id) (dispatchNotificationRetryJob retryDispatchOptions input.job.payloadJson))

def runClaimedNotificationRetryJob [Host] (input : ClaimedRun ι) :
    RetryProgram ι (ClaimedNotificationRetryJobRunResult ι) := do
  let dispatched ← trackedDispatch input
  tryCatch (do
    let dispatchResult ← settle dispatched.1
    settleDispatched input dispatchResult) fun error => settleThrown input dispatched.2 error

/-- the loop of a run, with the claims it may still make -/
def runDue [Host] (workerId : String) (now : Option ℤ) :
    ℕ → List (ClaimedNotificationRetryJobRunResult ι) → RetryProgram ι (List (ClaimedNotificationRetryJobRunResult ι))
  | 0, results => return results
  | claims + 1, results => do
    let jobs : List (JobRecord ι ℤ) ← askPort (.claimDueNotificationRetryJobs workerId 1 now)
    match jobs with
    | [] => return results
    | job :: _ => do
      let result ← runClaimedNotificationRetryJob ⟨job, workerId, now⟩
      runDue workerId now claims (results ++ [result])

def runDueNotificationRetryJobs [Host] (workerId : String) (options : RunDueNotificationRetryJobsOptions) :
    RetryProgram ι (List (ClaimedNotificationRetryJobRunResult ι)) :=
  let limit := options.limit.getD 1
  -- `!Number.isSafeInteger(limit) || limit < 1`
  if limit < 1 ∨ 9007199254740991 < limit then
    throw (.runtime "notification retry job run limit must be a positive safe integer")
  else runDue workerId options.now limit.toNat []

end Run

/-! ## Model: workers over one queue -/

section Workers

variable {ι : Type}

/-- the attempt a worker is at, since its last claim -/
structure RetryAttempt (ι : Type) where
  job : ι
  /-- the provider reported the send delivered -/
  delivered : Bool
  /-- the job was asked to be completed or failed -/
  tried : Bool
  /-- and that was answered -/
  closed : Bool
  /-- the last request was for the time or the completion, and it threw -/
  blocked : Bool

/-- the next request of an attempt -/
def RetryAttempt.after (attempt : RetryAttempt ι) :
    (request : RetryRequest ι) → Except AlertError (RetryReply request) → RetryAttempt ι
  | .alert (.sendAlert _), .ok result =>
    { attempt with delivered := attempt.delivered || NotificationResult.delivered result, blocked := false }
  | .alert .clock, .error _ => { attempt with blocked := true }
  | .clock, .error _ => { attempt with blocked := true }
  | .completeNotificationRetryJob _ _ _, .ok _ => { attempt with tried := true, closed := true, blocked := false }
  | .completeNotificationRetryJob _ _ _, .error _ => { attempt with tried := true, blocked := true }
  | .failNotificationRetryJob _ _ _ _ _, .ok _ => { attempt with tried := true, closed := true, blocked := false }
  | .failNotificationRetryJob _ _ _ _ _, .error _ => { attempt with tried := true, blocked := false }
  | _, _ => { attempt with blocked := false }

/-- a claim begins the next attempt -/
def attemptAfter (attempt : Option (RetryAttempt ι)) :
    (request : RetryRequest ι) → Except AlertError (RetryReply request) → Option (RetryAttempt ι)
  | .claimDueNotificationRetryJobs _ _ _, .ok jobs =>
    (List.head? (α := JobRecord ι ℤ) jobs).map fun job => ⟨job.id, false, false, false, false⟩
  | .claimDueNotificationRetryJobs _ _ _, .error _ => none
  | request, reply => attempt.map fun attempt => attempt.after request reply

structure RetryShared (ι : Type) where
  queue : Queue ι ℤ
  attempt : String → Option (RetryAttempt ι)
  /-- the jobs whose sends were reported delivered, one entry a send -/
  deliveries : List ι

/-- the job of a send that is reported delivered -/
def deliveredJob (attempt : Option (RetryAttempt ι)) :
    (request : RetryRequest ι) → Except AlertError (RetryReply request) → List ι
  | .alert (.sendAlert _), .ok result =>
    if NotificationResult.delivered result then attempt.toList.map RetryAttempt.job else []
  | _, _ => []

def RetryShared.noted (shared : RetryShared ι) (worker : String) (request : RetryRequest ι)
    (reply : Except AlertError (RetryReply request)) : RetryShared ι :=
  { shared with
    attempt := Function.update shared.attempt worker (attemptAfter (shared.attempt worker) request reply)
    deliveries := deliveredJob (shared.attempt worker) request reply ++ shared.deliveries }

variable [DecidableEq ι]

def RetryRequest.asksQueue : RetryRequest ι → Bool
  | claimDueNotificationRetryJobs _ _ _ => true
  | completeNotificationRetryJob _ _ _ => true
  | failNotificationRetryJob _ _ _ _ _ => true
  | _ => false

/-- what the runtime sees of a statement that hands jobs out -/
def ClaimConveys : Except JobError (Answer ι ℤ) → Except AlertError (List (JobRecord ι ℤ)) → Prop
  | .ok (.claimed _ jobs), .ok reply => reply = jobs
  | .error _, .error _ => True
  | _, _ => False

/-- what the runtime sees of a statement that takes a job back -/
def ReleaseConveys : Except JobError (Answer ι ℤ) → Except AlertError (JobRecord ι ℤ) → Prop
  | .ok (.released _ job), .ok reply => reply = job
  | .error _, .error _ => True
  | _, _ => False

/-- how a request is served, and what becomes of the queue -/
inductive QueueServes (queue : Queue ι ℤ) :
    (request : RetryRequest ι) → Except AlertError (RetryReply request) → Queue ι ℤ → Prop where
  | claim (env : Jobs.Environment ι ℤ) (workerId : String) (limit : ℤ) (now : Option ℤ)
      (reply : Except AlertError (List (JobRecord ι ℤ)))
      (hreply : ClaimConveys
        (step env queue (.claimPending ⟨workerId, some notificationRetryJobType, some limit, now⟩)).1 reply) :
      QueueServes queue (.claimDueNotificationRetryJobs workerId limit now) reply
        (step env queue (.claimPending ⟨workerId, some notificationRetryJobType, some limit, now⟩)).2
  | complete (env : Jobs.Environment ι ℤ) (jobId : ι) (workerId : String) (completedAt : ℤ)
      (reply : Except AlertError (JobRecord ι ℤ))
      (hreply : ReleaseConveys (step env queue (.complete ⟨jobId, workerId, some completedAt⟩)).1 reply) :
      QueueServes queue (.completeNotificationRetryJob jobId workerId (some completedAt)) reply
        (step env queue (.complete ⟨jobId, workerId, some completedAt⟩)).2
  | fail (env : Jobs.Environment ι ℤ) (jobId : ι) (workerId errorMessage : String) (failedAt retryAfter : ℤ)
      (reply : Except AlertError (JobRecord ι ℤ))
      (hreply : ReleaseConveys
        (step env queue (.fail ⟨jobId, workerId, errorMessage, some failedAt, some retryAfter⟩)).1 reply) :
      QueueServes queue (.failNotificationRetryJob jobId workerId errorMessage (some failedAt) (some retryAfter)) reply
        (step env queue (.fail ⟨jobId, workerId, errorMessage, some failedAt, some retryAfter⟩)).2
  | throws (request : RetryRequest ι) (error : AlertError) : QueueServes queue request (.error error) queue
  | other (request : RetryRequest ι) (reply : RetryReply request) (hother : request.asksQueue = false) :
      QueueServes queue request (.ok reply) queue

/-- calls of everybody else: nobody gives a job back under the id of a worker -/
def Foreign (workers : Set String) : Call ι ℤ → Prop
  | .complete options => options.workerId ∉ workers
  | .fail options => options.workerId ∉ workers
  | _ => True

def retryEnvironment [Host] (workers : Set String) :
    Async.Environment String (RetryShared ι) (RetryRequest ι) RetryReply AlertError
      (List (ClaimedNotificationRetryJobRunResult ι)) where
  Starts worker shared program shared' := worker ∈ workers ∧
    shared' = { shared with attempt := Function.update shared.attempt worker none } ∧
    ∃ options, program = runDueNotificationRetryJobs worker options
  Serves worker shared request reply shared' := ∃ queue', QueueServes shared.queue request reply queue' ∧
    shared' = { shared with queue := queue' }.noted worker request reply
  Drifts shared shared' := ∃ env call, Enabled shared.queue call ∧ Foreign workers call ∧
    shared' = { shared with queue := (step env shared.queue call).2 }

abbrev RetryWorld (ι : Type) := World String (RetryShared ι) (RetryRequest ι) RetryReply AlertError
  (List (ClaimedNotificationRetryJobRunResult ι))

def initialRetryWorld : RetryWorld ι where
  shared := ⟨emptyQueue, fun _ => none, []⟩
  running _ := none

def HasStatus (queue : Queue ι ℤ) (job : ι) (status : JobStatus) : Prop :=
  ∃ row ∈ queue.rows, row.id = job ∧ row.status = status

/-- the attempt of a worker was delivered, and its job is not completed -/
def LeftOpen (shared : RetryShared ι) (worker : String) (attempt : RetryAttempt ι) : Prop :=
  shared.attempt worker = some attempt ∧ attempt.delivered = true ∧ ¬ HasStatus shared.queue attempt.job .completed

/-- what is promised of a world; `Excused` attempts may be left open by a run that throws -/
structure RetrySafe (Excused : RetryAttempt ι → Prop) (w : RetryWorld ι) : Prop where
  deliveredOnce : w.shared.deliveries.Nodup
  /-- a job that was reported delivered is never pending or failed -/
  deliveredStays : ∀ job ∈ w.shared.deliveries, ∀ row ∈ w.shared.queue.rows, row.id = job →
    row.status = .completed ∨ row.status = .running
  failsUndelivered : ∀ worker jobId workerId errorMessage failedAt retryAfter resume,
    w.running worker =
      some (.awaiting (.failNotificationRetryJob jobId workerId errorMessage failedAt retryAfter) resume) →
    ∃ attempt, w.shared.attempt worker = some attempt ∧ attempt.job = jobId ∧ attempt.delivered = false
  /-- the next claim, and the end of a run, find the last delivery completed -/
  closedBeforeClaim : ∀ worker workerId limit now resume,
    w.running worker = some (.awaiting (.claimDueNotificationRetryJobs workerId limit now) resume) →
    ∀ attempt, ¬ LeftOpen w.shared worker attempt
  closedAtEnd : ∀ worker results, w.running worker = some (.returned results) →
    ∀ attempt, ¬ LeftOpen w.shared worker attempt
  closedAtThrow : ∀ worker error, w.running worker = some (.threw error) →
    ∀ attempt, LeftOpen w.shared worker attempt → Excused attempt

end Workers

end SeeMirai.Alerts
