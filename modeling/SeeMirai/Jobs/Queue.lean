/-
The job queue (infrastructure/db/jobs.ts over migrations/000004_jobs.sql). Workers share one table. Every call is one
SQL statement that the database runs whole, but for the enqueue, which inserts and, if the key was taken, looks the row
up in a second statement. A claim skips rows that other transactions have locked and hands out the rows it takes; a
worker gives a job back by completing or failing it.

What the callers do not decide is the `Environment` of a statement: the uuid, the two clocks, the rows a locking scan
meets, and whether the answer arrives. A statement may be refused (an outage, a value the database cannot read, a
violated constraint), and its answer may be lost after it ran: the caller sees a throw then, while the table has
changed. A transaction that is rolled back is a refused statement whose rows others skipped meanwhile.
-/
import SeeMirai.Lib.JsValue
import SeeMirai.Lib.Table

namespace SeeMirai.Jobs

open Table

/-! ## Model: the table -/

inductive JobStatus where
  | pending
  | running
  | completed
  | failed
  | canceled
deriving DecidableEq, Repr

/-- a row of `jobs`; `ι` the row ids, `τ` the points in time -/
structure JobRecord (ι τ : Type) where
  id : ι
  jobType : String
  idempotencyKey : String
  payloadJson : JsonRecord
  status : JobStatus
  runAfter : τ
  lockedAt : Option τ
  lockedBy : Option String
  attemptCount : ℤ
  maxAttempts : ℤ
  lastError : Option String
  createdAt : τ
  updatedAt : τ

/-- `integer` -/
def isInteger (n : ℤ) : Bool := -2147483648 ≤ n ∧ n ≤ 2147483647

/-- the row checks of the table and the range of its two counters -/
def JobRecord.checks {ι τ : Type} (job : JobRecord ι τ) : Bool :=
  0 ≤ job.attemptCount ∧ 0 < job.maxAttempts ∧ job.attemptCount ≤ job.maxAttempts ∧
    isInteger job.attemptCount ∧ isInteger job.maxAttempts

structure EnqueueJobInput (τ : Type) where
  jobType : String
  idempotencyKey : String
  payloadJson : Option JsonRecord
  runAfter : Option τ
  maxAttempts : Option ℤ

structure ClaimPendingJobsOptions (τ : Type) where
  workerId : String
  jobType : Option String
  limit : Option ℤ
  now : Option τ

structure ClaimJobByIdempotencyKeyOptions (τ : Type) where
  workerId : String
  idempotencyKey : String
  jobType : Option String
  now : Option τ
  ignoreRunAfter : Option Bool

structure CompleteJobOptions (ι τ : Type) where
  jobId : ι
  workerId : String
  completedAt : Option τ

structure FailJobOptions (ι τ : Type) where
  jobId : ι
  workerId : String
  errorMessage : String
  failedAt : Option τ
  retryAfter : Option τ

structure RequeueFailedJobByIdempotencyKeyOptions (τ : Type) where
  idempotencyKey : String
  jobType : Option String
  runAfter : Option τ
  maxAttempts : Option ℤ
  requeuedAt : Option τ

inductive JobError where
  | claimLimit
  | conflictWithoutRow
  | lockNotFound
  | lockNotFoundForFailure
  /-- the database or the connection to it -/
  | database
deriving DecidableEq, Repr

/-- the text of an error the queue throws itself -/
def JobError.message : JobError → Option String
  | claimLimit => some "job claim limit must be a positive safe integer"
  | conflictWithoutRow => some "job insert conflicted but existing row was not found"
  | lockNotFound => some "running job lock was not found for the worker"
  | lockNotFoundForFailure => some "running job lock was not found for failure handling"
  | database => none

/-- what becomes of a statement and its answer -/
inductive Delivery where
  | answered
  | refused
  | lost
deriving DecidableEq, Repr

structure Environment (ι τ : Type) where
  /-- `gen_random_uuid()` -/
  uuid : ι
  /-- `now()` of the database -/
  databaseTime : τ
  /-- `new Date()` of the caller -/
  callerTime : τ
  /-- the rows that a locking scan meets unlocked, in the order it meets them -/
  scan : List ι
  delivery : Delivery

variable {ι τ : Type} [DecidableEq ι] [LinearOrder τ]

/-! ## Model: the statements -/

/-- `toInsertableJob`, completed with the defaults of the columns -/
def toInsertableJob (env : Environment ι τ) (input : EnqueueJobInput τ) : JobRecord ι τ where
  id := env.uuid
  jobType := input.jobType
  idempotencyKey := input.idempotencyKey
  payloadJson := input.payloadJson.getD []
  status := .pending
  runAfter := input.runAfter.getD env.databaseTime
  lockedAt := none
  lockedBy := none
  attemptCount := 0
  maxAttempts := input.maxAttempts.getD 3
  lastError := none
  createdAt := env.databaseTime
  updatedAt := env.databaseTime

/-- the INSERT of `enqueueJob`: the row, or nothing where the key is taken -/
def insertJob (env : Environment ι τ) (rows : List (JobRecord ι τ)) (input : EnqueueJobInput τ) :
    Except JobError (Option (JobRecord ι τ)) × List (JobRecord ι τ) :=
  let values := toInsertableJob env input
  if values.checks = false then (.error .database, rows)
  else if rows.any (fun job => decide (job.idempotencyKey = values.idempotencyKey)) then (.ok none, rows)
  -- the primary key is no conflict target: a uuid that is taken fails the statement
  else if rows.any (fun job => decide (job.id = values.id)) then (.error .database, rows)
  else (.ok (some values), rows ++ [values])

def findJobByIdempotencyKey (rows : List (JobRecord ι τ)) (idempotencyKey : String) : Option (JobRecord ι τ) :=
  rows.find? fun job => decide (job.idempotencyKey = idempotencyKey)

/-- the SELECT of `enqueueJob`, after an insert that met the key -/
def selectExisting (rows : List (JobRecord ι τ)) (idempotencyKey : String) : Except JobError (JobRecord ι τ) :=
  match findJobByIdempotencyKey rows idempotencyKey with
  | some job => .ok job
  | none => .error .conflictWithoutRow

/-- an UPDATE … RETURNING under the row checks -/
def update (rows : List (JobRecord ι τ)) (picked : JobRecord ι τ → Bool) (change : JobRecord ι τ → JobRecord ι τ) :
    Except JobError (List (JobRecord ι τ)) × List (JobRecord ι τ) :=
  match updateChecked JobRecord.checks picked change rows with
  | some (returned, after) => (.ok returned, after)
  | none => (.error .database, rows)

def hasJobType (jobType : Option String) (job : JobRecord ι τ) : Bool := jobType.all fun t => decide (job.jobType = t)

/-- `ORDER BY run_after ASC, created_at ASC` -/
def claimedBefore (a b : JobRecord ι τ) : Prop :=
  a.runAfter < b.runAfter ∨ (a.runAfter = b.runAfter ∧ a.createdAt ≤ b.createdAt)

instance : DecidableRel (claimedBefore (ι := ι) (τ := τ)) := fun _ _ => inferInstanceAs (Decidable (_ ∨ _))

/-- the rows a locking scan finds under a condition -/
def lockable (env : Environment ι τ) (rows : List (JobRecord ι τ)) (condition : JobRecord ι τ → Bool) :
    List (JobRecord ι τ) :=
  (env.scan.dedup.filterMap fun id => rows.find? fun job => decide (job.id = id)).filter condition

/-- SET of both claims -/
def claimed (workerId : String) (now : τ) (job : JobRecord ι τ) : JobRecord ι τ :=
  { job with
    status := .running
    lockedAt := some now
    lockedBy := some workerId
    attemptCount := job.attemptCount + 1
    updatedAt := now }

def isClaimablePending (options : ClaimPendingJobsOptions τ) (now : τ) (job : JobRecord ι τ) : Bool :=
  job.status = .pending ∧ hasJobType options.jobType job ∧ job.runAfter ≤ now ∧ job.attemptCount < job.maxAttempts

def claimPendingJobs (env : Environment ι τ) (rows : List (JobRecord ι τ)) (options : ClaimPendingJobsOptions τ) :
    Except JobError (List (JobRecord ι τ)) × List (JobRecord ι τ) :=
  let limit := options.limit.getD 1
  -- `!Number.isSafeInteger(limit) || limit < 1`
  if limit < 1 ∨ 9007199254740991 < limit then (.error .claimLimit, rows)
  else
    let now := options.now.getD env.callerTime
    let found := (lockable env rows (isClaimablePending options now)).insertionSort claimedBefore
    let claimable := (found.take limit.toNat).map JobRecord.id
    update rows (fun job => decide (job.id ∈ claimable)) (claimed options.workerId now)

def isClaimableByKey (options : ClaimJobByIdempotencyKeyOptions τ) (now : τ) (job : JobRecord ι τ) : Bool :=
  job.status = .pending ∧ job.idempotencyKey = options.idempotencyKey ∧ hasJobType options.jobType job ∧
    (options.ignoreRunAfter = some true ∨ job.runAfter ≤ now) ∧ job.attemptCount < job.maxAttempts

def claimJobByIdempotencyKey (env : Environment ι τ) (rows : List (JobRecord ι τ))
    (options : ClaimJobByIdempotencyKeyOptions τ) : Except JobError (List (JobRecord ι τ)) × List (JobRecord ι τ) :=
  let now := options.now.getD env.callerTime
  let claimable := ((lockable env rows (isClaimableByKey options now)).take 1).map JobRecord.id
  update rows (fun job => decide (job.id ∈ claimable)) (claimed options.workerId now)

/-- the guard of `completeJob` and `failJob`: the worker's own running job -/
def isLockedBy (jobId : ι) (workerId : String) (job : JobRecord ι τ) : Bool :=
  job.id = jobId ∧ job.status = .running ∧ job.lockedBy = some workerId ∧ job.lockedAt.isSome

/-- the first row returned; none is an error of the queue's own -/
def takeFirst (error : JobError) :
    Except JobError (List (JobRecord ι τ)) × List (JobRecord ι τ) →
      Except JobError (JobRecord ι τ) × List (JobRecord ι τ)
  | (.ok (job :: _), rows) => (.ok job, rows)
  | (.ok [], rows) => (.error error, rows)
  | (.error e, rows) => (.error e, rows)

def completed (completedAt : τ) (job : JobRecord ι τ) : JobRecord ι τ :=
  { job with status := .completed, lockedAt := none, lockedBy := none, updatedAt := completedAt }

def completeJob (env : Environment ι τ) (rows : List (JobRecord ι τ)) (options : CompleteJobOptions ι τ) :
    Except JobError (JobRecord ι τ) × List (JobRecord ι τ) :=
  takeFirst .lockNotFound
    (update rows (isLockedBy options.jobId options.workerId) (completed (options.completedAt.getD env.callerTime)))

def failed (options : FailJobOptions ι τ) (failedAt : τ) (job : JobRecord ι τ) : JobRecord ι τ :=
  { job with
    status := if job.attemptCount < job.maxAttempts then .pending else .failed
    runAfter := options.retryAfter.getD failedAt
    lockedAt := none
    lockedBy := none
    lastError := some options.errorMessage
    updatedAt := failedAt }

def failJob (env : Environment ι τ) (rows : List (JobRecord ι τ)) (options : FailJobOptions ι τ) :
    Except JobError (JobRecord ι τ) × List (JobRecord ι τ) :=
  takeFirst .lockNotFoundForFailure
    (update rows (isLockedBy options.jobId options.workerId) (failed options (options.failedAt.getD env.callerTime)))

def isRequeueable (options : RequeueFailedJobByIdempotencyKeyOptions τ) (job : JobRecord ι τ) : Bool :=
  job.idempotencyKey = options.idempotencyKey ∧ job.status = .failed ∧ hasJobType options.jobType job

def requeued (options : RequeueFailedJobByIdempotencyKeyOptions τ) (requeuedAt : τ) (job : JobRecord ι τ) :
    JobRecord ι τ :=
  { job with
    status := .pending
    runAfter := options.runAfter.getD requeuedAt
    lockedAt := none
    lockedBy := none
    attemptCount := 0
    maxAttempts := options.maxAttempts.getD job.maxAttempts
    lastError := none
    updatedAt := requeuedAt }

def requeueFailedJobByIdempotencyKey (env : Environment ι τ) (rows : List (JobRecord ι τ))
    (options : RequeueFailedJobByIdempotencyKeyOptions τ) :
    Except JobError (List (JobRecord ι τ)) × List (JobRecord ι τ) :=
  update rows (isRequeueable options) (requeued options (options.requeuedAt.getD env.callerTime))

end SeeMirai.Jobs
