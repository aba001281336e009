/-
Deliveries of retry jobs, over every interleaving of retry workers. A worker sends at most once in an attempt; once the
send was reported delivered it asks for nothing but the completion of the job (`run_keeps`). A job whose send was
reported delivered is completed, or it runs in the hands of a worker that will not fail it (`RetryInv`).

The completion itself may fail, and so may the clock that dates it: then the run throws and the job stays as it is,
running, which nobody claims again.

Results:
- `retry_safe`: at most one delivery for each job, no failure after it, a completion unless clock or completion threw.
- `delivery_left_open`: a clock that throws after the delivery leaves the job running.
-/
import SeeMirai.Alerts.RetryRuntime

namespace SeeMirai.Alerts

open Async Jobs

/-! ## What a run asks for -/

section Programs

variable {ι : Type} {worker : String}

/-- what a worker may ask for at an attempt -/
def retryMonitor (worker : String) : Monitor (RetryRequest ι) RetryReply AlertError (Option (RetryAttempt ι)) where
  Allowed attempt
    | .claimDueNotificationRetryJobs workerId limit _ => workerId = worker ∧ limit = 1 ∧
        ∀ a, attempt = some a → a.closed = true
    | .completeNotificationRetryJob jobId workerId _ => workerId = worker ∧
        ∃ a, attempt = some a ∧ a.job = jobId ∧ a.closed = false
    | .failNotificationRetryJob jobId workerId _ _ _ => workerId = worker ∧
        ∃ a, attempt = some a ∧ a.job = jobId ∧ a.closed = false ∧ a.delivered = false
    | .alert (.sendAlert _) => ∃ a, attempt = some a ∧ a.delivered = false ∧ a.tried = false ∧ a.closed = false
    | _ => True
  after := attemptAfter

/-- the attempt at a job is under way -/
def Open (job : ι) (delivered : Bool) (attempt : Option (RetryAttempt ι)) : Prop :=
  ∃ a, attempt = some a ∧ a.job = job ∧ a.delivered = delivered ∧ a.closed = false

/-- the job was given back -/
def Closed (attempt : Option (RetryAttempt ι)) : Prop := ∀ a, attempt = some a → a.closed = true

/-- an attempt that ends: closed, or open with a throw; a delivered one by a throw of clock or completion -/
def Ends {α : Type} (job : ι) (delivered : Bool) (attempt : Option (RetryAttempt ι)) : Except AlertError α → Prop
  | .ok _ => Closed attempt
  | .error _ => ∃ a, attempt = some a ∧ a.job = job ∧ a.delivered = delivered ∧ a.closed = false ∧
      (delivered = true → a.blocked = true)

variable {job : ι} {delivered : Bool} {attempt : Option (RetryAttempt ι)}

theorem timestamp_keeps (lowerBound : Option ℤ) (h : Open job delivered attempt) :
    Keeps (retryMonitor worker) (fun attempt' end_ => match end_ with
      | .ok _ => Open job delivered attempt'
      | .error _ => Ends (α := Unit) job delivered attempt' (.error .invalidTime))
      attempt (resolveWorkerTimestamp lowerBound) := by
  obtain ⟨a, rfl, hjob, hdelivered, hclosed⟩ := h
  refine keeps_call_bind trivial (fun _ => keeps_pure ?_) (fun _ => ?_)
  · exact ⟨_, rfl, hjob, hdelivered, hclosed⟩
  · exact ⟨_, rfl, hjob, hdelivered, hclosed, fun _ => rfl⟩

theorem auditSafely_keeps (row finalJob : JobRecord ι ℤ) (workerId : String) (occurredAt : Option ℤ)
    (severity reasonCode : String) (h : Closed attempt) :
    Keeps (retryMonitor worker) (fun attempt' end_ => Closed attempt' ∧ ∃ receipts, end_ = .ok receipts) attempt
      (appendNotificationRetryAuditSafely row finalJob workerId occurredAt severity reasonCode) := by
  have hafter : ∀ event reply, Closed ((retryMonitor worker).after attempt (.appendEvent event) reply) := by
    intro event reply a ha
    cases attempt with
    | none => cases reply <;> cases ha
    | some b =>
      have hb := h b rfl
      cases reply <;> (cases ha; exact hb)
  have happend : Keeps (retryMonitor worker) (fun attempt' _ => Closed attempt') attempt (do
      let receipt : AuditEventReceipt ← askPort
        (.appendEvent ⟨row, finalJob, workerId, occurredAt, severity, reasonCode, readCorrelationId row⟩)
      return [receipt]) :=
    keeps_call_bind trivial (fun _ => keeps_pure (hafter _ _)) (fun _ => hafter _ _)
  exact keeps_tryCatch happend (fun _ receipts h => ⟨h, receipts, rfl⟩) (fun _ _ h => keeps_pure ⟨h, [], rfl⟩)

/-- a job is completed in its own attempt, and the audit that follows changes nothing -/
theorem complete_keeps {α : Type} (workerId : String) (completedAt : Option ℤ)
    (f : JobRecord ι ℤ → RetryProgram ι α) (hworker : workerId = worker) (h : Open job delivered attempt)
    (hf : ∀ finalJob attempt', Closed attempt' →
      Keeps (retryMonitor worker) (Ends job delivered) attempt' (f finalJob)) :
    Keeps (retryMonitor worker) (Ends job delivered) attempt (do
      let finalJob : JobRecord ι ℤ ← askPort (.completeNotificationRetryJob job workerId completedAt)
      f finalJob) := by
  obtain ⟨a, rfl, hjob, hdelivered, hclosed⟩ := h
  refine keeps_call_bind ⟨hworker, a, rfl, hjob, hclosed⟩ (fun finalJob => hf finalJob _ ?_) (fun _ => ?_)
  · rintro _ ⟨⟩
    rfl
  · exact ⟨_, rfl, hjob, hdelivered, hclosed, fun _ => rfl⟩

theorem fail_keeps {α : Type} (workerId errorMessage : String) (failedAt retryAfter : Option ℤ)
    (f : JobRecord ι ℤ → RetryProgram ι α) (hworker : workerId = worker) (h : Open job false attempt)
    (hf : ∀ finalJob attempt', Closed attempt' → Keeps (retryMonitor worker) (Ends job false) attempt' (f finalJob)) :
    Keeps (retryMonitor worker) (Ends job false) attempt (do
      let finalJob : JobRecord ι ℤ ← askPort
        (.failNotificationRetryJob job workerId errorMessage failedAt retryAfter)
      f finalJob) := by
  obtain ⟨a, rfl, hjob, hdelivered, hclosed⟩ := h
  refine keeps_call_bind ⟨hworker, a, rfl, hjob, hclosed, hdelivered⟩ (fun finalJob => hf finalJob _ ?_) (fun _ => ?_)
  · rintro _ ⟨⟩
    rfl
  · exact ⟨_, rfl, hjob, hdelivered, hclosed, fun h => by cases h⟩

/-- what follows a statement that gave the job back: an audit, and the result -/
theorem audited_keeps {α : Type} (row finalJob : JobRecord ι ℤ) (workerId : String) (occurredAt : Option ℤ)
    (severity reasonCode : String) (f : List AuditEventReceipt → α) (h : Closed attempt) :
    Keeps (retryMonitor worker) (Ends job delivered) attempt (do
      let receipts ← appendNotificationRetryAuditSafely row finalJob workerId occurredAt severity reasonCode
      return f receipts) := by
  refine keeps_bind (auditSafely_keeps row finalJob workerId occurredAt severity reasonCode h)
    (fun _ receipts hclosed => keeps_pure hclosed.1) (fun _ e herror => ?_)
  obtain ⟨-, receipts, hreceipts⟩ := herror
  cases hreceipts

variable (input : ClaimedRun ι)

theorem settleDispatched_keeps (hworker : input.workerId = worker) (result : NotificationRetryDispatchResult)
    (h : Open input.job.id delivered attempt) (hstatus : result.status = .delivered ↔ delivered = true) :
    Keeps (retryMonitor worker) (Ends input.job.id delivered) attempt (settleDispatched input result) := by
  refine keeps_bind (timestamp_keeps input.lowerBound h) (fun attempt' occurredAt hopen => ?_)
    (fun _ _ herror => herror)
  split
  · exact complete_keeps _ _ _ hworker hopen fun _ _ hclosed => audited_keeps _ _ _ _ _ _ _ hclosed
  · rename_i hneither
    have hundelivered : delivered = false := by
      cases delivered with
      | true => exact absurd (Or.inl (hstatus.2 rfl)) hneither
      | false => rfl
    subst hundelivered
    exact fail_keeps _ _ _ _ _ hworker hopen fun _ _ hclosed => audited_keeps _ _ _ _ _ _ _ hclosed

theorem settleThrown_keeps (hworker : input.workerId = worker) (seen : Option NotificationResult) (error : AlertError)
    (h : Open input.job.id seen.isSome attempt) :
    Keeps (retryMonitor worker) (Ends input.job.id seen.isSome) attempt (settleThrown input seen error) := by
  refine keeps_bind (timestamp_keeps input.lowerBound h) (fun attempt' occurredAt hopen => ?_)
    (fun _ _ herror => herror)
  cases seen with
  | some result => exact complete_keeps _ _ _ hworker hopen fun _ _ hclosed => audited_keeps _ _ _ _ _ _ _ hclosed
  | none => exact fail_keeps _ _ _ _ _ hworker hopen fun _ _ hclosed => audited_keeps _ _ _ _ _ _ _ hclosed

/-- the part of a dispatch in the monitor of its worker -/
def dispatchMonitor (worker : String) : Monitor AlertRequest AlertReply AlertError (Option (RetryAttempt ι)) where
  Allowed attempt request := (retryMonitor worker).Allowed attempt (.alert request)
  after attempt request reply := attemptAfter attempt (.alert request) reply

/-- the same among the requests of the worker -/
def embeddedMonitor (worker : String) : Monitor (RetryRequest ι) RetryReply AlertError (Option (RetryAttempt ι)) where
  Allowed attempt
    | .alert request => (retryMonitor worker).Allowed attempt (.alert request)
    | _ => False
  after := attemptAfter

/-- an untried attempt in step with what its dispatch has sent -/
def InStepWith (job : ι) (place : SendPlace) (attempt : Option (RetryAttempt ι)) : Prop :=
  ∃ a, attempt = some a ∧ a.job = job ∧ a.tried = false ∧ a.closed = false ∧
    (a.delivered = true ↔ ∃ notification, place.sent = some notification ∧ notification.delivered = true)

theorem InStepWith.after {place : SendPlace} {request : AlertRequest} {reply : Except AlertError (AlertReply request)}
    (h : InStepWith job place attempt) (hallowed : sendMonitor.Allowed place request) :
    InStepWith job (sendMonitor.after place request reply) (attemptAfter attempt (.alert request) reply) := by
  obtain ⟨a, rfl, hjob, htried, hclosed, hdelivered⟩ := h
  cases request with
  | sendAlert notification =>
    have hunsent : place.sent = none := hallowed
    have hnot : a.delivered = false := by
      by_contra hd
      obtain ⟨_, hsent, -⟩ := hdelivered.1 (by simpa using hd)
      rw [hunsent] at hsent
      cases hsent
    cases reply with
    | ok result =>
      refine ⟨_, rfl, hjob, htried, hclosed, ?_⟩
      simp only [RetryAttempt.after, hnot, Bool.false_or]
      exact ⟨fun h => ⟨result, rfl, h⟩, fun ⟨_, hsent, h⟩ => Option.some.inj hsent ▸ h⟩
    | error _ =>
      refine ⟨_, rfl, hjob, htried, hclosed, ?_⟩
      simp [RetryAttempt.after, sendMonitor, hnot, providerException]
  | clock => cases reply <;> exact ⟨_, rfl, hjob, htried, hclosed, hdelivered⟩
  | failureState => cases reply <;> exact ⟨_, rfl, hjob, htried, hclosed, hdelivered⟩
  | _ => exact ⟨_, rfl, hjob, htried, hclosed, hdelivered⟩

/-- what the tracker has seen is what the attempt has come to -/
def Tracked (attempt : Option (RetryAttempt ι)) (seen : Option NotificationResult) : Prop :=
  ∀ a, attempt = some a → a.delivered = seen.isSome

theorem Tracked.after {seen : Option NotificationResult} {request : RetryRequest ι}
    {reply : Except AlertError (RetryReply request)} (h : Tracked attempt seen)
    (hallowed : (embeddedMonitor worker).Allowed attempt request) :
    Tracked (attemptAfter attempt request reply) ((noticeDelivered request reply).or seen) := by
  intro b hb
  cases request with
  | alert request =>
    obtain ⟨a, ha, rfl⟩ := Option.map_eq_some_iff.1 (show attempt.map _ = some b from hb)
    have hseen := h a ha
    cases request with
    | sendAlert notification =>
      cases reply with
      | ok result =>
        simp only [RetryAttempt.after, noticeDelivered, hseen]
        cases NotificationResult.delivered result <;> cases seen <;> rfl
      | error _ => exact hseen
    | clock => cases reply <;> exact hseen
    | _ => exact hseen
  | _ => exact hallowed.elim

variable [Host]

/-- the dispatch of an attempt: what the tracker has seen is what the attempt has come to -/
theorem trackedDispatch_keeps (h : Open input.job.id false attempt)
    (huntried : ∀ a, attempt = some a → a.tried = false) :
    Keeps (retryMonitor worker) (fun attempt' end_ => ∃ dispatched, end_ = .ok dispatched ∧
      Open input.job.id dispatched.2.isSome attempt' ∧
      ∀ result, dispatched.1 = .ok result → (result.status = .delivered ↔ dispatched.2.isSome = true))
      attempt (trackedDispatch input) := by
  obtain ⟨a, rfl, hjob, hdelivered, hclosed⟩ := h
  have hstart : InStepWith input.job.id ⟨none, none⟩ (some a) :=
    ⟨a, rfl, hjob, huntried a rfl, hclosed, by simp [hdelivered]⟩
  have hdispatch : Keeps (dispatchMonitor worker)
      (fun attempt' end_ => ∃ place, InStepWith input.job.id place attempt' ∧ ReportsRetry place end_) (some a)
      (dispatchNotificationRetryJob retryDispatchOptions input.job.payloadJson) :=
    Keeps.simulate (InStepWith input.job.id)
      (fun place attempt' request hrelated hallowed => by
        cases request with
        | sendAlert notification =>
          obtain ⟨b, rfl, -, htried, hbclosed, hsent⟩ := hrelated
          refine ⟨b, rfl, ?_, htried, hbclosed⟩
          by_contra hd
          obtain ⟨_, hplace, -⟩ := hsent.1 (by simpa using hd)
          rw [show place.sent = none from hallowed] at hplace
          cases hplace
        | _ => trivial)
      (fun _ _ _ _ hrelated hallowed => hrelated.after hallowed)
      (fun place _ _ hrelated hreports => ⟨place, hrelated, hreports⟩) hstart
      (sends_retry input.job.payloadJson rfl)
  have hembedded : Keeps (embeddedMonitor worker) _ (some a) (embed RetryRequest.alert (fun _ => id)
      (dispatchNotificationRetryJob retryDispatchOptions input.job.payloadJson)) :=
    keeps_embed RetryRequest.alert (fun _ => id) (fun _ _ hallowed => hallowed)
      (fun _ _ reply _ => by cases reply <;> rfl) hdispatch
  have hwatched : Keeps (embeddedMonitor worker) (fun attempt' end_ => ∃ dispatched, end_ = .ok dispatched ∧
      Open input.job.id dispatched.2.isSome attempt' ∧
      ∀ result, dispatched.1 = .ok result → (result.status = .delivered ↔ dispatched.2.isSome = true))
      (some a) (trackedDispatch input) := by
    refine keeps_watch Tracked (fun _ _ _ _ hseen hallowed => hseen.after hallowed) ?_ ?_ hembedded
    · rintro attempt' seen end_ hseen ⟨place, ⟨b, rfl, hb, htried, hbclosed, hsent⟩, hreports⟩
      refine ⟨_, rfl, ⟨b, rfl, hb, hseen b rfl, hbclosed⟩, ?_⟩
      rintro result rfl
      rw [← hseen b rfl, hsent]
      exact hreports
    · rintro _ ⟨⟩
      exact hdelivered
  refine Keeps.simulate Eq (fun attempt' _ request heq hallowed => ?_) (fun _ _ _ _ heq _ => heq ▸ rfl)
    (fun _ _ _ heq hend => heq ▸ hend) rfl hwatched
  subst heq
  cases request with
  | alert request => exact hallowed
  | _ => exact hallowed.elim

/-- one job from its claim on -/
theorem runClaimed_keeps (hworker : input.workerId = worker) (h : Open input.job.id false attempt)
    (huntried : ∀ a, attempt = some a → a.tried = false) :
    Keeps (retryMonitor worker) (fun attempt' end_ => ∃ delivered, Ends input.job.id delivered attempt' end_) attempt
      (runClaimedNotificationRetryJob input) := by
  refine keeps_bind (trackedDispatch_keeps input h huntried) (fun attempt₁ dispatched hdispatched => ?_)
    (fun _ _ herror => ?_)
  · obtain ⟨_, ⟨⟩, hopen, hstatus⟩ := hdispatched
    have hsettled : Keeps (retryMonitor worker) (fun attempt' end_ => match end_ with
        | .ok _ => Closed attempt'
        | .error _ => Open input.job.id dispatched.2.isSome attempt') attempt₁ (do
        let dispatchResult ← settle dispatched.1
        settleDispatched input dispatchResult) := by
      refine keeps_settle_bind (fun result hresult => ?_) (fun _ _ => hopen)
      refine Keeps.mono (settleDispatched_keeps input hworker result hopen (hstatus result hresult)) ?_
      rintro attempt' (error | result) hend
      · obtain ⟨b, rfl, hjob, hdelivered, hclosed, -⟩ := hend
        exact ⟨b, rfl, hjob, hdelivered, hclosed⟩
      · exact hend
    refine keeps_tryCatch hsettled (fun _ _ hclosed => ⟨false, hclosed⟩) (fun attempt₂ error hopen₂ => ?_)
    exact Keeps.mono (settleThrown_keeps input hworker dispatched.2 error hopen₂) fun _ _ hend => ⟨_, hend⟩
  · obtain ⟨_, hdispatched, -⟩ := herror
    cases hdispatched

/-- the end of a run: a job that was delivered is given back, or its completion or the clock threw -/
def RunEnds {α : Type} (attempt : Option (RetryAttempt ι)) : Except AlertError α → Prop
  | .ok _ => Closed attempt
  | .error _ => ∀ a, attempt = some a → a.delivered = true → a.closed = true ∨ a.blocked = true

theorem runDue_keeps (workerId : String) (now : Option ℤ) (hworker : workerId = worker) (claims : ℕ)
    (results : List (ClaimedNotificationRetryJobRunResult ι)) (h : Closed attempt) :
    Keeps (retryMonitor worker) RunEnds attempt (runDue workerId now claims results) := by
  induction claims generalizing attempt results with
  | zero => exact keeps_pure h
  | succ claims ih =>
    refine keeps_call_bind ⟨hworker, rfl, h⟩ (fun jobs => ?_) (fun error a ha => by cases ha)
    cases jobs with
    | nil => exact keeps_pure fun a ha => by cases ha
    | cons row rest =>
      have hopen : Open row.id false (some (⟨row.id, false, false, false, false⟩ : RetryAttempt ι)) :=
        ⟨_, rfl, rfl, rfl, rfl⟩
      refine keeps_bind (runClaimed_keeps ⟨row, workerId, now⟩ hworker hopen fun a ha => by cases ha; rfl)
        (fun attempt' result hend => ?_) (fun attempt' error hend => ?_)
      · obtain ⟨delivered, hclosed⟩ := hend
        exact ih (results ++ [result]) hclosed
      · obtain ⟨delivered, b, rfl, -, hdelivered, -, hblocked⟩ := hend
        rintro _ ⟨⟩ hb
        exact Or.inr (hblocked (hdelivered.symm.trans hb))

/-- **What a run asks for.** In each attempt: one send at most, and after a send that was reported delivered nothing but
the completion of the job. -/
theorem run_keeps (options : RunDueNotificationRetryJobsOptions) :
    Keeps (retryMonitor worker) RunEnds none (runDueNotificationRetryJobs worker options : RetryProgram ι _) := by
  simp only [runDueNotificationRetryJobs]
  split
  · exact keeps_throw fun a ha => by cases ha
  · exact runDue_keeps worker options.now rfl _ [] fun a ha => by cases ha

end Programs

/-! ## What every served request keeps -/

section Invariant

variable {ι : Type} [DecidableEq ι] {workers : Set String}

/-- what a statement leaves of the rows that matter here; `released` is the job it may take, and from whom -/
structure Moves (queue queue' : Queue ι ℤ) (released : Option (String × ι)) : Prop where
  safe : Safe queue'.rows queue'.events
  running : ∀ row ∈ queue.rows, row.status = .running → ∀ worker, row.lockedBy = some worker →
    released ≠ some (worker, row.id) → row ∈ queue'.rows
  completed : ∀ row ∈ queue.rows, row.status = .completed → row ∈ queue'.rows

theorem step_moves {queue : Queue ι ℤ} (h : Safe queue.rows queue.events) (env : Jobs.Environment ι ℤ)
    (call : Call ι ℤ) : Moves queue (step env queue call).2 call.releases where
  safe := step_safe h env call
  running _ hrow hrunning _ hby hreleased := step_running h env hrow hrunning hby hreleased
  completed _ hrow hcompleted := step_completed h env call hrow hcompleted

theorem Moves.refl {queue : Queue ι ℤ} (h : Safe queue.rows queue.events) : Moves queue queue none :=
  ⟨h, fun _ hrow _ _ _ _ => hrow, fun _ hrow _ => hrow⟩

theorem Moves.hasCompleted {queue queue' : Queue ι ℤ} {released : Option (String × ι)}
    (h : Moves queue queue' released) {job : ι} (hjob : HasStatus queue job .completed) :
    HasStatus queue' job .completed := by
  obtain ⟨row, hrow, hid, hcompleted⟩ := hjob
  exact ⟨row, h.completed row hrow hcompleted, hid, hcompleted⟩

/-- the queue, the deliveries and the attempts of the workers in step -/
structure RetryInv (workers : Set String) (shared : RetryShared ι)
    (places : String → Option (Option (RetryAttempt ι))) : Prop where
  table : Safe shared.queue.rows shared.queue.events
  known : ∀ worker place, places worker = some place → worker ∈ workers ∧ shared.attempt worker = place
  once : shared.deliveries.Nodup
  /-- a delivered job is completed, or held by a worker that will not fail it -/
  delivered : ∀ job ∈ shared.deliveries, ∃ row ∈ shared.queue.rows, row.id = job ∧ (row.status = .completed ∨
    (row.status = .running ∧ ∃ worker ∈ workers, row.lockedBy = some worker ∧
      ∀ a, places worker = some (some a) → a.job = job → a.delivered = true))
  held : ∀ worker a, places worker = some (some a) → a.delivered = false → a.tried = false →
    a.job ∉ shared.deliveries ∧
      ∃ row ∈ shared.queue.rows, row.id = a.job ∧ row.status = .running ∧ row.lockedBy = some worker
  own : ∀ worker a, places worker = some (some a) → a.delivered = true →
    a.job ∈ shared.deliveries ∧ (a.closed = true → HasStatus shared.queue a.job .completed)

/-- one worker moves on, and a statement may have run under its name -/
theorem RetryInv.advance {shared : RetryShared ι} {places : String → Option (Option (RetryAttempt ι))}
    (h : RetryInv workers shared places) {worker : String} {place place' : Option (RetryAttempt ι)}
    (hplace : places worker = some place) {queue' : Queue ι ℤ} {released : Option (String × ι)}
    (hmoves : Moves shared.queue queue' released) (hname : ∀ other job, released = some (other, job) → other = worker)
    (hreleased : ∀ job ∈ shared.deliveries, released = some (worker, job) → ∀ row ∈ shared.queue.rows, row.id = job →
      row ∈ queue'.rows ∨ HasStatus queue' job .completed)
    (hstays : ∀ job ∈ shared.deliveries, (∀ a, place = some a → a.job = job → a.delivered = true) →
      ∀ a, place' = some a → a.job = job → a.delivered = true)
    (hheld : ∀ a, place' = some a → a.delivered = false → a.tried = false → a.job ∉ shared.deliveries ∧
      ∃ row ∈ queue'.rows, row.id = a.job ∧ row.status = .running ∧ row.lockedBy = some worker)
    (hown : ∀ a, place' = some a → a.delivered = true →
      a.job ∈ shared.deliveries ∧ (a.closed = true → HasStatus queue' a.job .completed)) :
    RetryInv workers
      { shared with queue := queue', attempt := Function.update shared.attempt worker place' }
      (Function.update places worker (some place')) where
  table := hmoves.safe
  known := by
    intro other place'' hother
    by_cases heq : other = worker
    · subst heq
      rw [Function.update_self] at hother
      exact ⟨(h.known other place hplace).1, (Function.update_self _ _ _).trans (Option.some.inj hother)⟩
    · rw [Function.update_of_ne heq] at hother
      obtain ⟨hmem, hattempt⟩ := h.known other place'' hother
      exact ⟨hmem, (Function.update_of_ne heq _ _).trans hattempt⟩
  once := h.once
  delivered := by
    intro job hjob
    obtain ⟨row, hrow, hid, hcompleted | ⟨hrunning, other, hother, hby, hwill⟩⟩ := h.delivered job hjob
    · exact ⟨row, hmoves.completed row hrow hcompleted, hid, Or.inl hcompleted⟩
    have hkept : row ∈ queue'.rows ∨ HasStatus queue' job .completed := by
      by_cases hreleases : released = some (other, row.id)
      · obtain rfl := hname other row.id hreleases
        rw [hid] at hreleases
        exact hreleased job hjob hreleases row hrow hid
      · exact Or.inl (hmoves.running row hrow hrunning other hby hreleases)
    rcases hkept with hkept | ⟨row', hrow', hid', hcompleted⟩
    · refine ⟨row, hkept, hid, Or.inr ⟨hrunning, other, hother, hby, fun a ha hjoba => ?_⟩⟩
      by_cases heq : other = worker
      · subst heq
        rw [Function.update_self] at ha
        refine hstays job hjob (fun b hb => hwill b (hb ▸ hplace)) a (Option.some.inj ha) hjoba
      · rw [Function.update_of_ne heq] at ha
        exact hwill a ha hjoba
    · exact ⟨row', hrow', hid', Or.inl hcompleted⟩
  held := by
    intro other a ha hundelivered huntried
    by_cases heq : other = worker
    · subst heq
      rw [Function.update_self] at ha
      exact hheld a (Option.some.inj ha) hundelivered huntried
    · rw [Function.update_of_ne heq] at ha
      obtain ⟨hnot, row, hrow, hid, hrunning, hby⟩ := h.held other a ha hundelivered huntried
      refine ⟨hnot, row, hmoves.running row hrow hrunning other hby fun hreleases => ?_, hid, hrunning, hby⟩
      exact heq (hname other row.id hreleases)
  own := by
    intro other a ha hdelivered
    by_cases heq : other = worker
    · subst heq
      rw [Function.update_self] at ha
      exact hown a (Option.some.inj ha) hdelivered
    · rw [Function.update_of_ne heq] at ha
      obtain ⟨hmem, hclosed⟩ := h.own other a ha hdelivered
      exact ⟨hmem, fun hc => hmoves.hasCompleted (hclosed hc)⟩

/-- the row of a delivered job, whichever row has its id -/
theorem RetryInv.row_of_delivered {shared : RetryShared ι} {places : String → Option (Option (RetryAttempt ι))}
    (h : RetryInv workers shared places) {job : ι} (hjob : job ∈ shared.deliveries) {row : JobRecord ι ℤ}
    (hrow : row ∈ shared.queue.rows) (hid : row.id = job) : row.status = .completed ∨ (row.status = .running ∧
      ∃ worker ∈ workers, row.lockedBy = some worker ∧
        ∀ a, places worker = some (some a) → a.job = job → a.delivered = true) := by
  obtain ⟨row', hrow', hid', hstatus⟩ := h.delivered job hjob
  obtain rfl : row' = row := Table.eq_of_key_eq h.table.ids hrow' hrow (hid'.trans hid.symm)
  exact hstatus

/-- nothing was asked of the queue and nothing delivered: the attempt is the same, up to its marks -/
theorem RetryInv.same {shared : RetryShared ι} {places : String → Option (Option (RetryAttempt ι))}
    (h : RetryInv workers shared places) {worker : String} {place place' : Option (RetryAttempt ι)}
    (hplace : places worker = some place)
    (hsame : ∀ a', place' = some a' → ∃ a, place = some a ∧ a'.job = a.job ∧ a'.delivered = a.delivered ∧
      a'.closed = a.closed ∧ (a'.tried = false → a.tried = false)) :
    RetryInv workers { shared with attempt := Function.update shared.attempt worker place' }
      (Function.update places worker (some place')) := by
  refine h.advance hplace (Moves.refl h.table) (fun _ _ hnone => by cases hnone) (fun _ _ hnone => by cases hnone)
    (fun job _ hwill a' ha' hjob => ?_) (fun a' ha' hundelivered huntried => ?_) (fun a' ha' hdelivered => ?_)
  · obtain ⟨a, ha, hjob', hdelivered, -, -⟩ := hsame a' ha'
    rw [hdelivered]
    exact hwill a ha (hjob' ▸ hjob)
  · obtain ⟨a, rfl, hjob, hdelivered, -, htried⟩ := hsame a' ha'
    rw [hjob]
    exact h.held worker a hplace (hdelivered ▸ hundelivered) (htried huntried)
  · obtain ⟨a, rfl, hjob, hdelivered', hclosed, -⟩ := hsame a' ha'
    rw [hjob, hclosed]
    exact h.own worker a hplace (hdelivered' ▸ hdelivered)

/-- the send of an untried attempt is reported delivered -/
theorem RetryInv.send {shared : RetryShared ι} {places : String → Option (Option (RetryAttempt ι))}
    (h : RetryInv workers shared places) {worker : String} {a : RetryAttempt ι} (a' : RetryAttempt ι)
    (hplace : places worker = some (some a)) (hundelivered : a.delivered = false) (huntried : a.tried = false)
    (hopen : a.closed = false) (hjob : a'.job = a.job) (hdelivered : a'.delivered = true)
    (hclosed : a'.closed = a.closed) :
    RetryInv workers
      { shared with
        attempt := Function.update shared.attempt worker (some a')
        deliveries := a.job :: shared.deliveries }
      (Function.update places worker (some (some a'))) := by
  obtain ⟨hnot, row, hrow, hid, hrunning, hby⟩ := h.held worker a hplace hundelivered huntried
  have hworker := (h.known worker (some a) hplace).1
  refine ⟨h.table, fun other place hother => ?_, List.nodup_cons.2 ⟨hnot, h.once⟩, fun job hmem => ?_,
    fun other b hb hbdelivered hbtried => ?_, fun other b hb hbdelivered => ?_⟩
  · by_cases heq : other = worker
    · subst heq
      rw [Function.update_self] at hother
      exact ⟨hworker, (Function.update_self _ _ _).trans (Option.some.inj hother)⟩
    · rw [Function.update_of_ne heq] at hother
      obtain ⟨hknown, hattempt⟩ := h.known other place hother
      exact ⟨hknown, (Function.update_of_ne heq _ _).trans hattempt⟩
  · rcases List.mem_cons.1 hmem with rfl | hmem
    · -- the job just delivered is in the hands of its worker
      refine ⟨row, hrow, hid, Or.inr ⟨hrunning, worker, hworker, hby, fun b hb _ => ?_⟩⟩
      rw [Function.update_self] at hb
      rw [← Option.some.inj (Option.some.inj hb)]
      exact hdelivered
    · obtain ⟨row', hrow', hid', hcompleted | ⟨hrunning', other, hother, hby', hwill⟩⟩ := h.delivered job hmem
      · exact ⟨row', hrow', hid', Or.inl hcompleted⟩
      refine ⟨row', hrow', hid', Or.inr ⟨hrunning', other, hother, hby', fun b hb hbjob => ?_⟩⟩
      by_cases heq : other = worker
      · subst heq
        rw [Function.update_self] at hb
        rw [← Option.some.inj (Option.some.inj hb)]
        exact hdelivered
      · rw [Function.update_of_ne heq] at hb
        exact hwill b hb hbjob
  · by_cases heq : other = worker
    · subst heq
      rw [Function.update_self] at hb
      rw [← Option.some.inj (Option.some.inj hb), hdelivered] at hbdelivered
      cases hbdelivered
    · rw [Function.update_of_ne heq] at hb
      obtain ⟨hnot', row', hrow', hid', hrunning', hby'⟩ := h.held other b hb hbdelivered hbtried
      refine ⟨fun hmem => ?_, row', hrow', hid', hrunning', hby'⟩
      rcases List.mem_cons.1 hmem with hsame | hmem
      · -- one row cannot be in two hands
        have hrows : row' = row := Table.eq_of_key_eq h.table.ids hrow' hrow (hid'.trans (hsame.trans hid.symm))
        exact heq (Option.some.inj (hby'.symm.trans (hrows ▸ hby)))
      · exact hnot' hmem
  · by_cases heq : other = worker
    · subst heq
      rw [Function.update_self] at hb
      obtain rfl := Option.some.inj (Option.some.inj hb)
      refine ⟨by rw [hjob]; exact List.mem_cons_self, fun hbclosed => ?_⟩
      rw [hclosed, hopen] at hbclosed
      cases hbclosed
    · rw [Function.update_of_ne heq] at hb
      obtain ⟨hmem, hdone⟩ := h.own other b hb hbdelivered
      exact ⟨List.mem_cons_of_mem _ hmem, hdone⟩

/-- a statement handed a job out, or its answer did not arrive -/
theorem RetryInv.claim {shared : RetryShared ι} {places : String → Option (Option (RetryAttempt ι))}
    (h : RetryInv workers shared places) {worker : String} {place : Option (RetryAttempt ι)}
    (hplace : places worker = some place) (env : Jobs.Environment ι ℤ) (options : ClaimPendingJobsOptions ℤ)
    (hworker : options.workerId = worker) {reply : Except AlertError (List (JobRecord ι ℤ))}
    (hreply : ClaimConveys (step env shared.queue (.claimPending options)).1 reply) {limit : ℤ} {now : Option ℤ} :
    RetryInv workers
      { shared with
        queue := (step env shared.queue (.claimPending options)).2
        attempt := Function.update shared.attempt worker
          (attemptAfter place (.claimDueNotificationRetryJobs worker limit now) reply) }
      (Function.update places worker
        (some (attemptAfter place (.claimDueNotificationRetryJobs worker limit now) reply))) := by
  have hfresh : ∀ a, attemptAfter place (.claimDueNotificationRetryJobs worker limit now) reply = some a →
      a.delivered = false ∧ a.job ∉ shared.deliveries ∧
        ∃ row ∈ (step env shared.queue (.claimPending options)).2.rows, row.id = a.job ∧ row.status = .running ∧
          row.lockedBy = some worker := by
    intro a ha
    cases reply with
    | error _ => cases ha
    | ok jobs =>
      obtain ⟨job, hhead, rfl⟩ := Option.map_eq_some_iff.1 (show (List.head? jobs).map _ = some a from ha)
      cases hanswer : (step env shared.queue (.claimPending options)).1 with
      | error _ => rw [hanswer] at hreply; exact hreply.elim
      | ok answer =>
        rw [hanswer] at hreply
        cases answer with
        | claimed workerId granted =>
          obtain rfl : jobs = granted := hreply
          obtain ⟨hmem, hrunning, hby, old, hold, hid, hpending⟩ :=
            step_claim_answer h.table hanswer (List.mem_of_head? hhead)
          refine ⟨rfl, fun hdelivered => ?_, job, hmem, rfl, hrunning, hworker ▸ hby⟩
          rcases h.row_of_delivered hdelivered hold hid with hstatus | ⟨hstatus, -⟩ <;>
            · rw [hpending] at hstatus
              cases hstatus
        | _ => exact hreply.elim
  refine h.advance hplace (step_moves h.table env (.claimPending options)) (fun _ _ hnone => by cases hnone)
    (fun _ _ hnone => by cases hnone) (fun job hjob _ a ha hajob => ?_) (fun a ha _ _ => ?_) (fun a ha hdelivered => ?_)
  · exact absurd (hajob ▸ hjob) (hfresh a ha).2.1
  · exact (hfresh a ha).2
  · rw [(hfresh a ha).1] at hdelivered
    cases hdelivered

/-- the worker gave its job back, or tried to -/
theorem RetryInv.release {shared : RetryShared ι} {places : String → Option (Option (RetryAttempt ι))}
    (h : RetryInv workers shared places) {worker : String} {a a' : RetryAttempt ι}
    (hplace : places worker = some (some a)) (env : Jobs.Environment ι ℤ) (call : Call ι ℤ)
    (hcall : call.releases = some (worker, a.job)) (hjob : a'.job = a.job) (hdelivered : a'.delivered = a.delivered)
    (htried : a'.tried = true)
    (hreleased : a.job ∈ shared.deliveries → ∀ row ∈ shared.queue.rows, row.id = a.job →
      row ∈ (step env shared.queue call).2.rows ∨ HasStatus (step env shared.queue call).2 a.job .completed)
    (hclosed : a.delivered = true → a'.closed = true → HasStatus (step env shared.queue call).2 a.job .completed) :
    RetryInv workers
      { shared with
        queue := (step env shared.queue call).2
        attempt := Function.update shared.attempt worker (some a') }
      (Function.update places worker (some (some a'))) := by
  have hmoves := step_moves h.table env call
  rw [hcall] at hmoves
  refine h.advance hplace hmoves (fun other job heq => ?_) (fun job hmem heq row hrow hid => ?_)
    (fun job _ hwill b hb hbjob => ?_) (fun b hb _ huntried => ?_) (fun b hb hbdelivered => ?_)
  · exact (Prod.mk.inj (Option.some.inj heq)).1.symm
  · obtain rfl : a.job = job := (Prod.mk.inj (Option.some.inj heq)).2
    exact hreleased hmem row hrow hid
  · rw [← Option.some.inj hb] at hbjob ⊢
    rw [hdelivered]
    exact hwill a rfl (hjob.symm.trans hbjob)
  · rw [← Option.some.inj hb, htried] at huntried
    cases huntried
  · rw [← Option.some.inj hb] at hbdelivered ⊢
    rw [hdelivered] at hbdelivered
    rw [hjob]
    exact ⟨(h.own worker a hplace hbdelivered).1, hclosed hbdelivered⟩

/-- the books after a request that delivered nothing -/
theorem RetryInv.noted {shared : RetryShared ι} {places' : String → Option (Option (RetryAttempt ι))} {worker : String}
    {place : Option (RetryAttempt ι)} {queue' : Queue ι ℤ} (hknown : shared.attempt worker = place)
    {request : RetryRequest ι} {reply : Except AlertError (RetryReply request)}
    (hnone : deliveredJob place request reply = [])
    (h : RetryInv workers
      { shared with
        queue := queue'
        attempt := Function.update shared.attempt worker (attemptAfter place request reply) } places') :
    RetryInv workers ({ shared with queue := queue' }.noted worker request reply) places' := by
  subst hknown
  rw [RetryShared.noted, hnone]
  exact h

omit [DecidableEq ι] in
/-- a throw delivers nothing and gives nothing back -/
theorem attemptAfter_error {place : Option (RetryAttempt ι)} {request : RetryRequest ι} {error : AlertError} :
    ∀ a', attemptAfter place request (.error error) = some a' → ∃ a, place = some a ∧ a'.job = a.job ∧
      a'.delivered = a.delivered ∧ a'.closed = a.closed ∧ (a'.tried = false → a.tried = false) := by
  intro a' ha'
  cases request with
  | claimDueNotificationRetryJobs _ _ _ => cases ha'
  | completeNotificationRetryJob _ _ _ =>
    obtain ⟨a, rfl, rfl⟩ := Option.map_eq_some_iff.1 (show place.map _ = some a' from ha')
    exact ⟨a, rfl, rfl, rfl, rfl, fun h => by cases h⟩
  | failNotificationRetryJob _ _ _ _ _ =>
    obtain ⟨a, rfl, rfl⟩ := Option.map_eq_some_iff.1 (show place.map _ = some a' from ha')
    exact ⟨a, rfl, rfl, rfl, rfl, fun h => by cases h⟩
  | clock =>
    obtain ⟨a, rfl, rfl⟩ := Option.map_eq_some_iff.1 (show place.map _ = some a' from ha')
    exact ⟨a, rfl, rfl, rfl, rfl, id⟩
  | appendEvent _ =>
    obtain ⟨a, rfl, rfl⟩ := Option.map_eq_some_iff.1 (show place.map _ = some a' from ha')
    exact ⟨a, rfl, rfl, rfl, rfl, id⟩
  | alert request =>
    obtain ⟨a, rfl, rfl⟩ := Option.map_eq_some_iff.1 (show place.map _ = some a' from ha')
    refine ⟨a, rfl, ?_⟩
    cases request <;> exact ⟨rfl, rfl, rfl, id⟩

omit [DecidableEq ι] in
theorem deliveredJob_error {place : Option (RetryAttempt ι)} {request : RetryRequest ι} {error : AlertError} :
    deliveredJob place request (.error error) = [] := by
  cases request with
  | alert request => cases request <;> rfl
  | _ => rfl

/-- an answer that the queue has no part in: a send may be reported delivered -/
theorem RetryInv.answered {shared : RetryShared ι} {places : String → Option (Option (RetryAttempt ι))}
    (h : RetryInv workers shared places) {worker : String} {place : Option (RetryAttempt ι)}
    (hplace : places worker = some place) {request : RetryRequest ι}
    (hallowed : (retryMonitor worker).Allowed place request) {reply : RetryReply request}
    (hother : request.asksQueue = false) :
    RetryInv workers (shared.noted worker request (.ok reply))
      (Function.update places worker (some (attemptAfter place request (.ok reply)))) := by
  have hknown := (h.known worker place hplace).2
  have hquiet : (∀ notification, request ≠ .alert (.sendAlert notification)) →
      RetryInv workers (shared.noted worker request (.ok reply))
        (Function.update places worker (some (attemptAfter place request (.ok reply)))) := by
    intro hnot
    refine .noted hknown ?_ (h.same hplace fun a' ha' => ?_)
    · cases request with
      | alert request =>
        cases request with
        | sendAlert notification => exact absurd rfl (hnot notification)
        | _ => rfl
      | _ => rfl
    · cases request with
      | claimDueNotificationRetryJobs _ _ _ => cases hother
      | completeNotificationRetryJob _ _ _ => cases hother
      | failNotificationRetryJob _ _ _ _ _ => cases hother
      | alert request =>
        obtain ⟨a, rfl, rfl⟩ := Option.map_eq_some_iff.1 (show place.map _ = some a' from ha')
        refine ⟨a, rfl, ?_⟩
        cases request with
        | sendAlert notification => exact absurd rfl (hnot notification)
        | _ => exact ⟨rfl, rfl, rfl, id⟩
      | _ =>
        obtain ⟨a, rfl, rfl⟩ := Option.map_eq_some_iff.1 (show place.map _ = some a' from ha')
        exact ⟨a, rfl, rfl, rfl, rfl, id⟩
  cases request with
  | alert request =>
    cases request with
    | sendAlert notification =>
      obtain ⟨a, rfl, hundelivered, huntried, hopen⟩ := hallowed
      cases hdelivered : NotificationResult.delivered reply with
      | true =>
        have hjob : deliveredJob (some a) (.alert (.sendAlert notification)) (.ok reply) = [a.job] := if_pos hdelivered
        rw [RetryShared.noted, hknown, hjob]
        refine h.send (a.after (.alert (.sendAlert notification)) (.ok reply)) hplace hundelivered huntried hopen rfl ?_
          rfl
        rw [RetryAttempt.after, hdelivered]
        exact Bool.or_true _
      | false =>
        refine .noted hknown (if_neg (by rw [hdelivered]; decide)) (h.same hplace fun a' ha' => ?_)
        obtain rfl := Option.some.inj ha'
        refine ⟨a, rfl, rfl, ?_, rfl, id⟩
        change (a.delivered || NotificationResult.delivered reply) = a.delivered
        rw [hdelivered, Bool.or_false]
    | _ => exact hquiet fun _ heq => by cases heq
  | _ => exact hquiet fun _ heq => by cases heq

/-- **What every served request keeps.** -/
theorem serve_retryInv {shared : RetryShared ι} {places : String → Option (Option (RetryAttempt ι))}
    (h : RetryInv workers shared places) {worker : String} {place : Option (RetryAttempt ι)}
    (hplace : places worker = some place) {request : RetryRequest ι}
    (hallowed : (retryMonitor worker).Allowed place request) {reply : Except AlertError (RetryReply request)}
    {queue' : Queue ι ℤ} (hserves : QueueServes shared.queue request reply queue') :
    RetryInv workers ({ shared with queue := queue' }.noted worker request reply)
      (Function.update places worker (some (attemptAfter place request reply))) := by
  have hknown := (h.known worker place hplace).2
  cases hserves with
  | claim env workerId limit now reply hreply =>
    obtain ⟨rfl, -, -⟩ := hallowed
    exact .noted hknown rfl (h.claim hplace env _ rfl hreply)
  | complete env jobId workerId completedAt reply hreply =>
    obtain ⟨rfl, a, rfl, rfl, hopen⟩ := hallowed
    have hanswer : ∀ finalJob, reply = .ok finalJob →
        HasStatus (step env shared.queue (.complete ⟨a.job, workerId, some completedAt⟩)).2 a.job .completed := by
      rintro finalJob rfl
      cases hresult : (step env shared.queue (.complete ⟨a.job, workerId, some completedAt⟩)).1 with
      | error _ => rw [hresult] at hreply; exact hreply.elim
      | ok answer => exact step_complete_answer hresult
    refine .noted hknown rfl (h.release hplace env _ rfl ?_ ?_ ?_ (fun _ row hrow hid => ?_) (fun _ hclosed => ?_))
    · cases reply <;> rfl
    · cases reply <;> rfl
    · cases reply <;> rfl
    · rcases step_complete env shared.queue ⟨a.job, workerId, some completedAt⟩ hrow with hstays | hcompleted
      · exact Or.inl hstays
      · obtain ⟨row', hrow', hid', hc⟩ := hcompleted
        exact Or.inr ⟨row', hrow', hid'.trans hid, hc⟩
    · cases reply with
      | ok finalJob => exact hanswer finalJob rfl
      | error _ => exact absurd (hopen.symm.trans hclosed) (by decide)
  | fail env jobId workerId errorMessage failedAt retryAfter reply hreply =>
    obtain ⟨rfl, a, rfl, rfl, hopen, hundelivered⟩ := hallowed
    refine .noted hknown rfl
      (h.release hplace env _ rfl ?_ ?_ ?_ (fun hmem row hrow hid => Or.inl ?_) (fun hdelivered _ => ?_))
    · cases reply <;> rfl
    · cases reply <;> rfl
    · cases reply <;> rfl
    · -- a job that was delivered meanwhile is in other hands, or completed
      rcases h.row_of_delivered hmem hrow hid with hcompleted | ⟨hrunning, other, -, hby, hwill⟩
      · exact step_completed h.table env _ hrow hcompleted
      · refine step_running h.table env hrow hrunning hby fun hreleases => ?_
        obtain rfl : workerId = other := (Prod.mk.inj (Option.some.inj hreleases)).1
        have hdelivered := hwill a hplace rfl
        rw [hundelivered] at hdelivered
        cases hdelivered
    · rw [hundelivered] at hdelivered
      cases hdelivered
  | throws request error => exact .noted hknown deliveredJob_error (h.same hplace attemptAfter_error)
  | other request reply hother => exact h.answered hplace hallowed hother

/-- a call of somebody else: no worker loses its job -/
theorem RetryInv.foreign {shared : RetryShared ι} {places : String → Option (Option (RetryAttempt ι))}
    (h : RetryInv workers shared places) (env : Jobs.Environment ι ℤ) {call : Call ι ℤ}
    (hforeign : Foreign workers call) :
    RetryInv workers { shared with queue := (step env shared.queue call).2 } places := by
  have hreleases : ∀ worker ∈ workers, ∀ job, call.releases ≠ some (worker, job) := by
    intro worker hworker job hreleases
    cases call with
    | complete options =>
      obtain ⟨rfl, -⟩ := Prod.mk.inj (Option.some.inj hreleases)
      exact hforeign hworker
    | fail options =>
      obtain ⟨rfl, -⟩ := Prod.mk.inj (Option.some.inj hreleases)
      exact hforeign hworker
    | _ => cases hreleases
  have hmoves := step_moves h.table env call
  refine ⟨hmoves.safe, h.known, h.once, fun job hjob => ?_, fun worker a ha hundelivered huntried => ?_,
    fun worker a ha hdelivered => ?_⟩
  · obtain ⟨row, hrow, hid, hcompleted | ⟨hrunning, worker, hworker, hby, hwill⟩⟩ := h.delivered job hjob
    · exact ⟨row, hmoves.completed row hrow hcompleted, hid, Or.inl hcompleted⟩
    · exact ⟨row, hmoves.running row hrow hrunning worker hby (hreleases worker hworker row.id), hid,
        Or.inr ⟨hrunning, worker, hworker, hby, hwill⟩⟩
  · obtain ⟨hnot, row, hrow, hid, hrunning, hby⟩ := h.held worker a ha hundelivered huntried
    have hworker := (h.known worker (some a) ha).1
    exact ⟨hnot, row, hmoves.running row hrow hrunning worker hby (hreleases worker hworker row.id), hid, hrunning, hby⟩
  · obtain ⟨hmem, hclosed⟩ := h.own worker a ha hdelivered
    exact ⟨hmem, fun hc => hmoves.hasCompleted (hclosed hc)⟩

theorem RetryInv.start {shared : RetryShared ι} {places : String → Option (Option (RetryAttempt ι))}
    (h : RetryInv workers shared places) {worker : String} (hworker : worker ∈ workers) (hidle : places worker = none) :
    RetryInv workers { shared with attempt := Function.update shared.attempt worker none }
      (Function.update places worker (some none)) := by
  have hother : ∀ other a, Function.update places worker (some none) other = some (some a) →
      places other = some (some a) := by
    intro other a ha
    by_cases heq : other = worker
    · subst heq
      rw [Function.update_self] at ha
      cases ha
    · rwa [Function.update_of_ne heq] at ha
  refine ⟨h.table, fun other place hplace => ?_, h.once, fun job hjob => ?_,
    fun other a ha => h.held other a (hother other a ha), fun other a ha => h.own other a (hother other a ha)⟩
  · by_cases heq : other = worker
    · subst heq
      rw [Function.update_self] at hplace
      exact ⟨hworker, (Function.update_self _ _ _).trans (Option.some.inj hplace)⟩
    · rw [Function.update_of_ne heq] at hplace
      obtain ⟨hmem, hattempt⟩ := h.known other place hplace
      exact ⟨hmem, (Function.update_of_ne heq _ _).trans hattempt⟩
  · obtain ⟨row, hrow, hid, hcompleted | ⟨hrunning, other, hmem, hby, hwill⟩⟩ := h.delivered job hjob
    · exact ⟨row, hrow, hid, Or.inl hcompleted⟩
    · exact ⟨row, hrow, hid, Or.inr ⟨hrunning, other, hmem, hby, fun a ha => hwill a (hother other a ha)⟩⟩

theorem RetryInv.stop {shared : RetryShared ι} {places : String → Option (Option (RetryAttempt ι))}
    (h : RetryInv workers shared places) (worker : String) :
    RetryInv workers shared (Function.update places worker none) := by
  have hother : ∀ other place, Function.update places worker none other = some place → places other = some place := by
    intro other place hplace
    by_cases heq : other = worker
    · subst heq
      rw [Function.update_self] at hplace
      cases hplace
    · rwa [Function.update_of_ne heq] at hplace
  refine ⟨h.table, fun other place hplace => h.known other place (hother other place hplace), h.once,
    fun job hjob => ?_, fun other a ha => h.held other a (hother other _ ha),
    fun other a ha => h.own other a (hother other _ ha)⟩
  obtain ⟨row, hrow, hid, hcompleted | ⟨hrunning, other, hmem, hby, hwill⟩⟩ := h.delivered job hjob
  · exact ⟨row, hrow, hid, Or.inl hcompleted⟩
  · exact ⟨row, hrow, hid, Or.inr ⟨hrunning, other, hmem, hby, fun a ha => hwill a (hother other _ ha)⟩⟩

variable [Host]

theorem retry_invariant : Async.Invariant (retryEnvironment (ι := ι) workers) retryMonitor (fun _ => RunEnds)
    (RetryInv workers) where
  start := by
    rintro shared places worker program _ h hidle ⟨hworker, rfl, options, rfl⟩
    exact ⟨none, run_keeps options, h.start hworker hidle⟩
  serve := by
    rintro shared places worker place request reply _ h hplace hallowed ⟨queue', hserves, rfl⟩
    exact serve_retryInv h hplace hallowed hserves
  stop := fun _ _ worker h => h.stop worker
  drift := by
    rintro shared places _ h ⟨env, call, -, hforeign, rfl⟩
    exact h.foreign env hforeign

omit [Host] in
theorem initialRetry_inStep : InStep (retryMonitor (ι := ι)) (fun _ => RunEnds) (RetryInv workers)
    (initialRetryWorld : RetryWorld ι) := by
  refine ⟨fun _ => none, ⟨emptyQueue_safe, ?_, List.nodup_nil, ?_, ?_, ?_⟩, fun _ => trivial⟩
  · intro worker place h
    cases h
  · intro job h
    cases h
  · intro worker a h
    cases h
  · intro worker a h
    cases h

/-- **Delivered at most once.** Over every interleaving of retry workers: the provider reports at most one send of a job
delivered; from then on the job is never pending or failed; no attempt that was delivered asks for a failure; and it
ends with the job completed, unless the run throws because the clock or the completion threw. -/
theorem retry_safe {w : RetryWorld ι} (hrun : Async.Reaches (retryEnvironment workers) initialRetryWorld w) :
    RetrySafe (fun attempt => attempt.blocked = true) w := by
  obtain ⟨places, h, hat⟩ := (reaches_inStep retry_invariant initialRetry_inStep hrun).places
  have hopen : ∀ worker place, places worker = some place → Closed place → ∀ a, ¬ LeftOpen w.shared worker a := by
    rintro worker place hplace hclosed a ⟨hattempt, hdelivered, hnot⟩
    obtain rfl : place = some a := (h.known worker place hplace).2.symm.trans hattempt
    exact hnot ((h.own worker a hplace hdelivered).2 (hclosed a rfl))
  refine ⟨h.once, ?_, ?_, ?_, ?_, ?_⟩
  · intro job hjob row hrow hid
    rcases h.row_of_delivered hjob hrow hid with hcompleted | ⟨hrunning, -⟩
    · exact Or.inl hcompleted
    · exact Or.inr hrunning
  · intro worker jobId workerId errorMessage failedAt retryAfter resume hrunning
    obtain ⟨place, hplace, ⟨-, a, rfl, hjob, -, hundelivered⟩, -⟩ := hat worker _ hrunning
    exact ⟨a, (h.known worker _ hplace).2, hjob, hundelivered⟩
  · intro worker workerId limit now resume hrunning
    obtain ⟨place, hplace, ⟨-, -, hclosed⟩, -⟩ := hat worker _ hrunning
    exact hopen worker place hplace hclosed
  · intro worker results hrunning
    obtain ⟨place, hplace, hclosed⟩ := hat worker _ hrunning
    exact hopen worker place hplace hclosed
  · rintro worker error hrunning a ⟨hattempt, hdelivered, hnot⟩
    obtain ⟨place, hplace, hends⟩ := hat worker _ hrunning
    obtain rfl : place = some a := (h.known worker place hplace).2.symm.trans hattempt
    rcases hends a rfl hdelivered with hclosed | hblocked
    · exact absurd ((h.own worker a hplace hdelivered).2 hclosed) hnot
    · exact hblocked

end Invariant

/-! ## A clock that throws after the delivery -/

section LostClock

def retryPayload : JsonRecord :=
  [("environment", .string "paper"), ("run_mode", .string "PAPER"), ("severity", .string "P1"),
    ("alert_type", .string "order"), ("reason_code", .string "order_stuck"), ("title", .string "Order stuck"),
    ("body", .string "An order has been open for an hour."), ("occurred_at", .string "2026-01-01T00:00:00.000Z")]

def retryStatements : Jobs.Environment ℕ ℤ := ⟨7, 0, 0, [7], .answered⟩

def retryRow : JobRecord ℕ ℤ :=
  toInsertableJob retryStatements ⟨notificationRetryJobType, "notification_retry:1", some retryPayload, none, none⟩

def enqueuedQueue : Queue ℕ ℤ := ⟨[retryRow], [], []⟩

variable [Host] {ι : Type}

/-- a run goes on with the jobs of its first claim -/
def afterFirstClaim (workerId : String) : List (JobRecord ι ℤ) →
    RetryProgram ι (List (ClaimedNotificationRetryJobRunResult ι))
  | [] => pure []
  | job :: _ => do
    let result ← runClaimedNotificationRetryJob ⟨job, workerId, none⟩
    runDue workerId none 0 ([] ++ [result])

/-- a run that sends and then loses the clock -/
theorem run_loses_clock (row : JobRecord ι ℤ) (request : AlertDispatchRequest)
    (hpayload : createAlertDispatchRequestFromNotificationRetryPayload row.payloadJson = .ok request)
    (state : AlertCooldownState) (error : AlertError) :
    ∃ claim, runDueNotificationRetryJobs "w" ⟨none, none⟩ =
        .awaiting (.claimDueNotificationRetryJobs "w" 1 none) claim ∧
      ∃ read, claim (.ok [row]) = .awaiting (.alert .clock) read ∧
        ∃ store input reserve, read (.ok (0 : ℤ)) = .awaiting (.alert (.reserveDelivery store input)) reserve ∧
          ∃ notification send, reserve (.ok (⟨true, state⟩ : AlertCooldownReservationResult)) =
              .awaiting (.alert (.sendAlert notification)) send ∧
            ∃ read', send (.ok (⟨true, none, none⟩ : NotificationResult)) = .awaiting (.alert .clock) read' ∧
              ∃ read'', read' (.error error) = .awaiting .clock read'' ∧ read'' (.error error) = .threw error := by
  have htracked : trackedDispatch ⟨row, "w", none⟩ = watch noticeDelivered none
      (embed RetryRequest.alert (fun _ => id) (do
        let result ← dispatchAlertWithCooldown retryDispatchOptions request
        return toRetryDispatchResult result)) := by
    rw [trackedDispatch, dispatchNotificationRetryJob, hpayload]
    rfl
  refine ⟨fun reply => andThen (afterFirstClaim "w") (settle reply), ?_, ?_⟩
  · have hclaim : runDue "w" none 1 [] = (askPort (.claimDueNotificationRetryJobs "w" 1 none) >>= afterFirstClaim "w" :
        RetryProgram ι (List (ClaimedNotificationRetryJobRunResult ι))) := by
      rw [runDue]
      congr 1
    exact hclaim
  simp only [settle, andThen, afterFirstClaim, runClaimedNotificationRetryJob, htracked]
  refine ⟨_, rfl, _, _, _, rfl, ?_⟩
  exact ⟨_, _, rfl, _, rfl, _, rfl, rfl⟩

/-- one more request of a worker -/
theorem reaches_next [DecidableEq ι] {w : RetryWorld ι} {workers : Set String}
    (hrun : Async.Reaches (retryEnvironment workers) initialRetryWorld w) {worker : String} {request : RetryRequest ι}
    {resume : Except AlertError (RetryReply request) → RetryProgram ι (List (ClaimedNotificationRetryJobRunResult ι))}
    (hrunning : w.running worker = some (.awaiting request resume)) {reply : Except AlertError (RetryReply request)}
    {program : RetryProgram ι (List (ClaimedNotificationRetryJobRunResult ι))} (hresume : resume reply = program)
    {queue' : Queue ι ℤ} (hserves : QueueServes w.shared.queue request reply queue') :
    ∃ w' : RetryWorld ι, Async.Reaches (retryEnvironment workers) initialRetryWorld w' ∧
      w'.running worker = some program ∧
      w'.shared = { w.shared with queue := queue' }.noted worker request reply :=
  ⟨_, hrun.serve hrunning reply ⟨queue', hserves, rfl⟩, by rw [hresume]; exact Function.update_self _ _ _, rfl⟩

/-- the clock throws after the delivery, and again in the handler -/
theorem left_open_reached : ∃ w : RetryWorld ℕ, Async.Reaches (retryEnvironment {"w"}) initialRetryWorld w ∧
    w.shared.deliveries = [7] ∧ ∃ error a, w.running "w" = some (.threw error) ∧ LeftOpen w.shared "w" a := by
  obtain ⟨request, hpayload⟩ : ∃ request,
      createAlertDispatchRequestFromNotificationRetryPayload (claimed "w" 0 retryRow).payloadJson = .ok request :=
    ⟨_, rfl⟩
  have state : AlertCooldownState := toCooldownState ⟨"", .p1, "", none, none, "", 0, none⟩ none none none
  obtain ⟨claim, hclaiming, read, hclaim, store, input, reserve, hread, notification, send, hreserve, read', hsend,
    read'', hread', hread''⟩ := run_loses_clock (claimed "w" 0 retryRow) request hpayload state (.port "clock")
  have hqueued : Async.Reaches (retryEnvironment {"w"}) (initialRetryWorld : RetryWorld ℕ)
      ⟨⟨enqueuedQueue, fun _ => none, []⟩, fun _ => none⟩ :=
    .step .refl (.drift _ ⟨retryStatements, .enqueue ⟨"notification_retry", "notification_retry:1",
      some retryPayload, none, none⟩, trivial, trivial, rfl⟩)
  have hstarted := Async.Reaches.step hqueued (.start "w" _ _ rfl ⟨rfl, rfl, ⟨none, none⟩, hclaiming.symm⟩)
  obtain ⟨w₁, hrun₁, hrunning₁, hshared₁⟩ := reaches_next hstarted (Function.update_self _ _ _) hclaim
    (.claim retryStatements "w" 1 none _ rfl)
  obtain ⟨w₂, hrun₂, hrunning₂, hshared₂⟩ := reaches_next hrun₁ hrunning₁ hread (.other _ _ rfl)
  obtain ⟨w₃, hrun₃, hrunning₃, hshared₃⟩ := reaches_next hrun₂ hrunning₂ hreserve (.other _ _ rfl)
  obtain ⟨w₄, hrun₄, hrunning₄, hshared₄⟩ := reaches_next hrun₃ hrunning₃ hsend (.other _ _ rfl)
  obtain ⟨w₅, hrun₅, hrunning₅, hshared₅⟩ := reaches_next hrun₄ hrunning₄ hread' (.throws _ _)
  obtain ⟨w₆, hrun₆, hrunning₆, hshared₆⟩ := reaches_next hrun₅ hrunning₅ hread'' (.throws _ _)
  have hshared : w₆.shared = ⟨⟨[claimed "w" 0 retryRow], [], [.granted "w" [7]]⟩,
      Function.update (fun _ => none) "w" (some ⟨7, true, false, false, true⟩), [7]⟩ := by
    rw [hshared₆, hshared₅, hshared₄, hshared₃, hshared₂, hshared₁]
    simp [RetryShared.noted, attemptAfter, RetryAttempt.after, deliveredJob]
    exact ⟨rfl, rfl, rfl⟩
  refine ⟨w₆, hrun₆, by rw [hshared], _, ⟨7, true, false, false, true⟩, hrunning₆, ?_⟩
  rw [hshared]
  refine ⟨by simp only [Function.update_self], rfl, ?_⟩
  rintro ⟨row, hrow, -, hcompleted⟩
  rw [List.mem_singleton.1 hrow] at hcompleted
  cases hcompleted

end LostClock

theorem delivered_safe : ∃ w : RetryWorld ℕ, w.shared.deliveries = [7] ∧
    RetrySafe (fun attempt => attempt.blocked = true) w := by
  obtain ⟨w, hrun, hdeliveries, -⟩ := left_open_reached
  exact ⟨w, hdeliveries, retry_safe hrun⟩

/-- **A delivery may be left open.** A clock that throws after the delivery leaves the job running: not every failure
after a delivered send ends in the completion of the job. -/
theorem delivery_left_open : ¬ ∀ w : RetryWorld ℕ, Async.Reaches (retryEnvironment {"w"}) initialRetryWorld w →
    RetrySafe (fun _ => False) w := by
  intro hall
  obtain ⟨w, hrun, -, error, a, hthrew, hopen⟩ := left_open_reached
  exact (hall w hrun).closedAtThrow "w" error hthrew a hopen

end SeeMirai.Alerts
