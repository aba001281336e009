/-
The job queue over whole runs: the calls of any number of workers, statement by statement, in any order. Who holds a job
is read off the history: a claim hands its jobs to the worker named in it, and they stay with that worker until a
statement completes or fails them under its name. A worker is its id, as the table knows no other.

Results:
- `perform_change`: all that a statement can do to the table.
- `change_safe`: what every change keeps of the table and of the claims handed out.
- `lookup_finds`: an enqueue that met its key finds the row.
- `job_queue_safe`: every reachable queue is safe, whatever the interleaving.
-/
import SeeMirai.Jobs.Queue

namespace SeeMirai.Jobs

open Table

variable {ι τ : Type} [DecidableEq ι]

/-! ## Model: runs -/

inductive Call (ι τ : Type) where
  | enqueue (input : EnqueueJobInput τ)
  /-- the second statement of an enqueue that met its key -/
  | lookup (idempotencyKey : String)
  | claimPending (options : ClaimPendingJobsOptions τ)
  | claimByKey (options : ClaimJobByIdempotencyKeyOptions τ)
  | complete (options : CompleteJobOptions ι τ)
  | fail (options : FailJobOptions ι τ)
  | requeue (options : RequeueFailedJobByIdempotencyKeyOptions τ)

inductive Answer (ι τ : Type) where
  | enqueued (job : JobRecord ι τ) (created : Bool)
  /-- the key was taken: the enqueue goes on with its lookup -/
  | conflicted (idempotencyKey : String)
  | claimed (workerId : String) (jobs : List (JobRecord ι τ))
  | released (workerId : String) (job : JobRecord ι τ)
  | requeued (job : Option (JobRecord ι τ))

inductive Event (ι : Type) where
  | granted (workerId : String) (jobs : List ι)
  | released (workerId : String) (job : ι)
deriving DecidableEq, Repr

structure Queue (ι τ : Type) where
  rows : List (JobRecord ι τ)
  /-- enqueues between their two statements -/
  lookups : List String
  /-- what the database has granted and taken back -/
  events : List (Event ι)

def emptyQueue : Queue ι τ := ⟨[], [], []⟩

section Runs

variable [LinearOrder τ]

/-- a call's statement, as the database runs it -/
def perform (env : Environment ι τ) (rows : List (JobRecord ι τ)) :
    Call ι τ → Except JobError (Answer ι τ) × List (JobRecord ι τ)
  | .enqueue input =>
    let (result, after) := insertJob env rows input
    (result.map fun inserted => match inserted with
      | some job => .enqueued job true
      | none => .conflicted input.idempotencyKey, after)
  | .lookup key => ((selectExisting rows key).map (.enqueued · false), rows)
  | .claimPending options =>
    let (result, after) := claimPendingJobs env rows options
    (result.map (.claimed options.workerId), after)
  | .claimByKey options =>
    let (result, after) := claimJobByIdempotencyKey env rows options
    (result.map (.claimed options.workerId), after)
  | .complete options =>
    let (result, after) := completeJob env rows options
    (result.map (.released options.workerId), after)
  | .fail options =>
    let (result, after) := failJob env rows options
    (result.map (.released options.workerId), after)
  | .requeue options =>
    let (result, after) := requeueFailedJobByIdempotencyKey env rows options
    (result.map fun jobs => .requeued jobs.head?, after)

def Answer.events : Answer ι τ → List (Event ι)
  | claimed workerId jobs => [.granted workerId (jobs.map JobRecord.id)]
  | released workerId job => [.released workerId job.id]
  | enqueued _ _ => []
  | conflicted _ => []
  | requeued _ => []

/-- an enqueue under way that the answer reaches -/
def Answer.lookups : Answer ι τ → List String
  | conflicted key => [key]
  | _ => []

def eventsOf : Except JobError (Answer ι τ) → List (Event ι)
  | .ok answer => answer.events
  | .error _ => []

def lookupsOf : Except JobError (Answer ι τ) → List String
  | .ok answer => answer.lookups
  | .error _ => []

/-- what the caller sees of a statement -/
def Delivery.outcome {α : Type} : Delivery → Except JobError α → Except JobError α
  | answered, result => result
  -- thrown before any statement is sent
  | _, .error .claimLimit => .error .claimLimit
  | _, _ => .error .database

/-- one statement: what the caller sees, and the queue afterwards -/
def step (env : Environment ι τ) (queue : Queue ι τ) (call : Call ι τ) : Except JobError (Answer ι τ) × Queue ι τ :=
  let (result, after) := perform env queue.rows call
  let outcome := env.delivery.outcome result
  match env.delivery with
  | .refused => (outcome, queue)
  | _ => (outcome,
      { rows := after
        lookups := queue.lookups ++ lookupsOf outcome
        events := queue.events ++ eventsOf result })

/-- a lookup is only made by an enqueue that met its key -/
def Enabled (queue : Queue ι τ) : Call ι τ → Prop
  | .lookup key => key ∈ queue.lookups
  | _ => True

/-- the queues that some interleaving of calls leads to from another queue -/
inductive Reaches : Queue ι τ → Queue ι τ → Prop where
  | refl (queue : Queue ι τ) : Reaches queue queue
  | step {queue middle : Queue ι τ} (env : Environment ι τ) (call : Call ι τ) (before : Reaches queue middle)
      (enabled : Enabled middle call) : Reaches queue (step env middle call).2

def Reachable (queue : Queue ι τ) : Prop := Reaches emptyQueue queue

end Runs

/-- the claims held after an event, each job with its worker -/
def Event.apply (held : List (ι × String)) : Event ι → List (ι × String)
  | granted workerId jobs => held ++ jobs.map (·, workerId)
  | released workerId job => held.erase (job, workerId)

/-- the claims handed out and not given back -/
def holdings (events : List (Event ι)) : List (ι × String) := events.foldl Event.apply []

def Holds (queue : Queue ι τ) (workerId : String) (job : ι) : Prop := (job, workerId) ∈ holdings queue.events

/-! ## What a statement can do -/

/-- a row in its place: locked exactly while it runs, its counters within the checks -/
structure RowSafe (job : JobRecord ι τ) : Prop where
  lockedBy : job.status = .running ↔ job.lockedBy.isSome
  lockedAt : job.status = .running ↔ job.lockedAt.isSome
  checks : job.checks = true

omit [DecidableEq ι] in
theorem RowSafe.unlocked {job : JobRecord ι τ} (h : RowSafe job) (hs : job.status ≠ .running) :
    job.lockedBy = none := by
  have hnone := mt h.lockedBy.2 hs
  simpa using hnone

omit [DecidableEq ι] in
/-- a row that passes the checks and is in no hands -/
theorem rowSafe_of_unlocked {job : JobRecord ι τ} (hs : job.status ≠ .running) (hby : job.lockedBy = none)
    (hat : job.lockedAt = none) (hchecks : job.checks = true) : RowSafe job :=
  ⟨by simp [hs, hby], by simp [hs, hat], hchecks⟩

/-- all that a statement can do to the table, and what it grants or takes back -/
inductive Change (rows : List (JobRecord ι τ)) : List (JobRecord ι τ) → List (Event ι) → Prop where
  | same : Change rows rows []
  | inserted (job : JobRecord ι τ) (hkey : ∀ row ∈ rows, row.idempotencyKey ≠ job.idempotencyKey)
      (hid : ∀ row ∈ rows, row.id ≠ job.id) (hsafe : RowSafe job) (hpending : job.status = .pending) :
      Change rows (rows ++ [job]) []
  | granted (picked : JobRecord ι τ → Bool) (workerId : String) (now : τ)
      (hpicked : ∀ row ∈ rows, picked row = true → row.status = .pending)
      (hchecks : ∀ row ∈ returning picked (claimed workerId now) rows, row.checks = true) :
      Change rows (updateWhere picked (claimed workerId now) rows)
        [.granted workerId ((returning picked (claimed workerId now) rows).map JobRecord.id)]
  | released (job : ι) (workerId : String) (change : JobRecord ι τ → JobRecord ι τ)
      (hid : ∀ row, (change row).id = row.id)
      (hkey : ∀ row, (change row).idempotencyKey = row.idempotencyKey) (hstatus : ∀ row, (change row).status ≠ .running)
      (hby : ∀ row, (change row).lockedBy = none) (hat : ∀ row, (change row).lockedAt = none)
      (hchecks : ∀ row ∈ returning (isLockedBy job workerId) change rows, row.checks = true)
      (hheld : ∃ row ∈ rows, isLockedBy job workerId row = true) :
      Change rows (updateWhere (isLockedBy job workerId) change rows) [.released workerId job]
  | requeued (options : RequeueFailedJobByIdempotencyKeyOptions τ) (requeuedAt : τ)
      (hchecks : ∀ row ∈ returning (isRequeueable options) (requeued options requeuedAt) rows, row.checks = true) :
      Change rows (updateWhere (isRequeueable options) (requeued options requeuedAt) rows) []

omit [DecidableEq ι] in
theorem update_cases (rows : List (JobRecord ι τ)) (picked : JobRecord ι τ → Bool)
    (change : JobRecord ι τ → JobRecord ι τ) :
    update rows picked change = (.error .database, rows) ∨
      (update rows picked change = (.ok (returning picked change rows), updateWhere picked change rows) ∧
        ∀ row ∈ returning picked change rows, row.checks = true) := by
  rw [update]
  cases h : updateChecked JobRecord.checks picked change rows with
  | none => exact Or.inl rfl
  | some result =>
    obtain ⟨returned, after⟩ := result
    obtain ⟨hchecks, rfl, rfl⟩ := updateChecked_eq_some.1 h
    exact Or.inr ⟨rfl, hchecks⟩

theorem mem_lockable {env : Environment ι τ} {rows : List (JobRecord ι τ)} {condition : JobRecord ι τ → Bool}
    {job : JobRecord ι τ} (h : job ∈ lockable env rows condition) : job ∈ rows ∧ condition job = true := by
  rw [lockable, List.mem_filter, List.mem_filterMap] at h
  obtain ⟨⟨id, -, hfind⟩, hcondition⟩ := h
  exact ⟨List.mem_of_find?_eq_some hfind, hcondition⟩

/-- the rows that a claim takes by their ids meet its condition -/
theorem picked_of_ids {rows found : List (JobRecord ι τ)} (hids : (rows.map JobRecord.id).Nodup)
    {good : JobRecord ι τ → Prop} (hfound : ∀ job ∈ found, job ∈ rows ∧ good job)
    {row : JobRecord ι τ} (hrow : row ∈ rows)
    (hpicked : decide (row.id ∈ found.map JobRecord.id) = true) : good row := by
  obtain ⟨job, hjob, hid⟩ := List.mem_map.1 (of_decide_eq_true hpicked)
  obtain ⟨hmem, hgood⟩ := hfound job hjob
  have heq : job = row := eq_of_key_eq hids hmem hrow hid
  exact heq ▸ hgood

theorem claim_change {rows found : List (JobRecord ι τ)} (hids : (rows.map JobRecord.id).Nodup)
    (hfound : ∀ job ∈ found, job ∈ rows ∧ job.status = .pending) (workerId : String) (now : τ) :
    let run := update rows (fun job => decide (job.id ∈ found.map JobRecord.id)) (claimed workerId now)
    Change rows run.2 (eventsOf (run.1.map (Answer.claimed workerId))) := by
  intro run
  rcases update_cases rows (fun job => decide (job.id ∈ found.map JobRecord.id)) (claimed workerId now) with
    hrefused | ⟨hrun, hchecks⟩
  · simp only [run, hrefused]
    exact .same
  · simp only [run, hrun]
    exact .granted _ workerId now (fun row hrow hpicked => picked_of_ids hids hfound hrow hpicked) hchecks

/-- both ways to give a job back: the worker's own running job leaves its hands, or nothing changes -/
theorem release_change {rows : List (JobRecord ι τ)} (job : ι) (workerId : String) (error : JobError)
    {change : JobRecord ι τ → JobRecord ι τ} (hid : ∀ row, (change row).id = row.id)
    (hkey : ∀ row, (change row).idempotencyKey = row.idempotencyKey) (hstatus : ∀ row, (change row).status ≠ .running)
    (hby : ∀ row, (change row).lockedBy = none) (hat : ∀ row, (change row).lockedAt = none) :
    let run := takeFirst error (update rows (isLockedBy job workerId) change)
    Change rows run.2 (eventsOf (run.1.map (Answer.released workerId))) := by
  intro run
  rcases update_cases rows (isLockedBy job workerId) change with hrefused | ⟨hrun, hchecks⟩
  · simp only [run, hrefused]
    exact .same
  · simp only [run, hrun]
    cases hreturned : returning (isLockedBy job workerId) change rows with
    | nil =>
      -- no row was the worker's: the table is the old one
      rw [updateWhere_of_none (returning_eq_nil.1 hreturned)]
      exact .same
    | cons first rest =>
      obtain ⟨old, hold, hlocked, hfirst⟩ := mem_returning.1 (hreturned ▸ List.mem_cons_self : first ∈ returning _ _ _)
      have hjob : first.id = job := by
        have hlocked' := hlocked
        simp only [isLockedBy, decide_eq_true_eq] at hlocked'
        rw [← hfirst, hid, hlocked'.1]
      have hevents : eventsOf (Except.map (Answer.released workerId) (takeFirst error
          (.ok (first :: rest), updateWhere (isLockedBy job workerId) change rows)).1) =
          [.released workerId job] := by
        rw [← hjob]; rfl
      rw [hevents]
      exact .released job workerId change hid hkey hstatus hby hat hchecks ⟨old, hold, hlocked⟩

/-! ## What every statement keeps -/

/-- the invariant: unique rows in their places, and exactly the locked ones are held, each once -/
structure Safe (rows : List (JobRecord ι τ)) (events : List (Event ι)) : Prop where
  keys : (rows.map JobRecord.idempotencyKey).Nodup
  ids : (rows.map JobRecord.id).Nodup
  row : ∀ job ∈ rows, RowSafe job
  held : ∀ job workerId, (job, workerId) ∈ holdings events ↔ ∃ row ∈ rows, row.id = job ∧ row.lockedBy = some workerId
  once : ((holdings events).map Prod.fst).Nodup

theorem holdings_append (events : List (Event ι)) (event : Event ι) :
    holdings (events ++ [event]) = event.apply (holdings events) := by
  rw [holdings, List.foldl_append]
  rfl

omit [DecidableEq ι] in
theorem nodup_map_append {κ : Type} {rows : List (JobRecord ι τ)} {key : JobRecord ι τ → κ} (h : (rows.map key).Nodup)
    {job : JobRecord ι τ} (hnew : ∀ row ∈ rows, key row ≠ key job) : ((rows ++ [job]).map key).Nodup := by
  rw [List.map_append, List.nodup_append]
  refine ⟨h, List.nodup_singleton _, fun a ha b hb => ?_⟩
  obtain ⟨row, hrow, rfl⟩ := List.mem_map.1 ha
  rw [List.map_singleton, List.mem_singleton] at hb
  exact hb ▸ hnew row hrow

theorem isLockedBy_iff {job : ι} {workerId : String} {row : JobRecord ι τ} (hsafe : RowSafe row) :
    isLockedBy job workerId row = true ↔ row.id = job ∧ row.lockedBy = some workerId := by
  simp only [isLockedBy, decide_eq_true_eq]
  constructor
  · exact fun h => ⟨h.1, h.2.2.1⟩
  · intro h
    have hrunning : row.status = .running := hsafe.lockedBy.2 (by simp [h.2])
    exact ⟨h.1, hrunning, h.2, hsafe.lockedAt.1 hrunning⟩

theorem inserted_safe {rows : List (JobRecord ι τ)} {events : List (Event ι)} (h : Safe rows events)
    {job : JobRecord ι τ} (hkey : ∀ row ∈ rows, row.idempotencyKey ≠ job.idempotencyKey)
    (hid : ∀ row ∈ rows, row.id ≠ job.id)
    (hsafe : RowSafe job) (hpending : job.status = .pending) : Safe (rows ++ [job]) events where
  keys := nodup_map_append h.keys hkey
  ids := nodup_map_append h.ids hid
  row := by
    intro row hrow
    rcases List.mem_append.1 hrow with hrow | hrow
    · exact h.row row hrow
    · rw [List.mem_singleton.1 hrow]
      exact hsafe
  held := by
    intro id workerId
    rw [h.held]
    constructor
    · rintro ⟨row, hrow, hrest⟩
      exact ⟨row, List.mem_append_left _ hrow, hrest⟩
    · rintro ⟨row, hrow, hid', hby⟩
      rcases List.mem_append.1 hrow with hrow | hrow
      · exact ⟨row, hrow, hid', hby⟩
      · -- the new row is in no hands
        rw [List.mem_singleton.1 hrow, hsafe.unlocked (by simp [hpending])] at hby
        cases hby
  once := h.once

theorem granted_safe {rows : List (JobRecord ι τ)} {events : List (Event ι)} (h : Safe rows events)
    {picked : JobRecord ι τ → Bool} {workerId : String} {now : τ}
    (hpicked : ∀ row ∈ rows, picked row = true → row.status = .pending)
    (hchecks : ∀ row ∈ returning picked (claimed workerId now) rows, row.checks = true) :
    Safe (updateWhere picked (claimed workerId now) rows)
      (events ++ [.granted workerId ((returning picked (claimed workerId now) rows).map JobRecord.id)]) := by
  have hjobs : (returning picked (claimed workerId now) rows).map JobRecord.id =
      (rows.filter picked).map JobRecord.id := map_returning fun _ => rfl
  have hfree : ∀ row ∈ rows, picked row = true → row.lockedBy = none := fun row hrow hp =>
    (h.row row hrow).unlocked (by simp [hpicked row hrow hp])
  constructor
  · have hkeys : (updateWhere picked (claimed workerId now) rows).map JobRecord.idempotencyKey =
        rows.map JobRecord.idempotencyKey := map_updateWhere fun _ => rfl
    exact hkeys ▸ h.keys
  · have hids : (updateWhere picked (claimed workerId now) rows).map JobRecord.id = rows.map JobRecord.id :=
      map_updateWhere fun _ => rfl
    exact hids ▸ h.ids
  · exact forall_updateWhere h.row fun row hrow hp =>
      ⟨by simp [claimed], by simp [claimed], hchecks _ (mem_returning.2 ⟨row, hrow, hp, rfl⟩)⟩
  · intro job worker
    rw [holdings_append, hjobs]
    simp only [Event.apply, List.mem_append, List.mem_map, List.mem_filter, Prod.mk.injEq, h.held]
    constructor
    · rintro (⟨row, hrow, hid, hby⟩ | ⟨id, ⟨old, ⟨hold, hp⟩, rfl⟩, rfl, rfl⟩)
      · -- a held row runs, so the claim passes it by
        have hp : picked row = false := by
          by_contra hp
          rw [hfree row hrow (by simpa using hp)] at hby
          cases hby
        exact ⟨row, mem_updateWhere_of_not_picked hrow hp, hid, hby⟩
      · exact ⟨_, mem_updateWhere.2 (Or.inl ⟨old, hold, hp, rfl⟩), rfl, rfl⟩
    · rintro ⟨row, hrow, hid, hby⟩
      rcases mem_updateWhere.1 hrow with ⟨old, hold, hp, rfl⟩ | ⟨hrow, -⟩
      · exact Or.inr ⟨old.id, ⟨old, ⟨hold, hp⟩, rfl⟩, hid, Option.some.inj hby⟩
      · exact Or.inl ⟨row, hrow, hid, hby⟩
  · rw [holdings_append, hjobs, Event.apply, List.map_append, List.map_map]
    have hfst : (Prod.fst ∘ fun id : ι => (id, workerId)) = id := rfl
    rw [hfst, List.map_id, List.nodup_append]
    refine ⟨h.once, h.ids.sublist ((List.filter_sublist).map _), fun id hheld id' hjob heq => ?_⟩
    obtain ⟨⟨id'', worker⟩, hpair, rfl⟩ := List.mem_map.1 hheld
    obtain ⟨row, hrow, hid, hby⟩ := (h.held _ _).1 hpair
    obtain ⟨old, hold, rfl⟩ := List.mem_map.1 hjob
    obtain ⟨hold, hp⟩ := List.mem_filter.1 hold
    have hsame : row = old := eq_of_key_eq h.ids hrow hold (hid.trans heq)
    rw [hsame, hfree old hold hp] at hby
    cases hby

theorem released_safe {rows : List (JobRecord ι τ)} {events : List (Event ι)} (h : Safe rows events) {job : ι}
    {workerId : String} {change : JobRecord ι τ → JobRecord ι τ} (hid : ∀ row, (change row).id = row.id)
    (hkey : ∀ row, (change row).idempotencyKey = row.idempotencyKey) (hstatus : ∀ row, (change row).status ≠ .running)
    (hby : ∀ row, (change row).lockedBy = none) (hat : ∀ row, (change row).lockedAt = none)
    (hchecks : ∀ row ∈ returning (isLockedBy job workerId) change rows, row.checks = true) :
    Safe (updateWhere (isLockedBy job workerId) change rows) (events ++ [.released workerId job]) := by
  have hnodup : (holdings events).Nodup := h.once.of_map _
  constructor
  · rw [map_updateWhere hkey]
    exact h.keys
  · rw [map_updateWhere hid]
    exact h.ids
  · exact forall_updateWhere h.row fun row hrow hp =>
      rowSafe_of_unlocked (hstatus row) (hby row) (hat row) (hchecks _ (mem_returning.2 ⟨row, hrow, hp, rfl⟩))
  · intro id worker
    rw [holdings_append, Event.apply, hnodup.mem_erase_iff, h.held]
    constructor
    · rintro ⟨hne, row, hrow, hid', hby'⟩
      refine ⟨row, mem_updateWhere_of_not_picked hrow ?_, hid', hby'⟩
      -- were it the row given back, its job and worker would be the pair taken off
      by_contra hp
      obtain ⟨hjob, hworker⟩ := (isLockedBy_iff (h.row row hrow)).1 (by simpa using hp)
      exact hne (by rw [← hid', hjob, Option.some.inj (hby'.symm.trans hworker)])
    · rintro ⟨row, hrow, hid', hby'⟩
      rcases mem_updateWhere.1 hrow with ⟨old, -, -, rfl⟩ | ⟨hold, hp⟩
      · rw [hby] at hby'
        cases hby'
      · refine ⟨fun heq => ?_, row, hold, hid', hby'⟩
        obtain ⟨rfl, rfl⟩ := Prod.mk.inj heq
        rw [(isLockedBy_iff (h.row row hold)).2 ⟨hid', hby'⟩] at hp
        cases hp
  · rw [holdings_append]
    exact h.once.sublist ((List.erase_sublist).map _)

theorem requeued_safe {rows : List (JobRecord ι τ)} {events : List (Event ι)} (h : Safe rows events)
    {options : RequeueFailedJobByIdempotencyKeyOptions τ} {requeuedAt : τ}
    (hchecks : ∀ row ∈ returning (isRequeueable options) (requeued options requeuedAt) rows, row.checks = true) :
    Safe (updateWhere (isRequeueable options) (requeued options requeuedAt) rows) events where
  keys := by
    have hkeys : (updateWhere (isRequeueable options) (requeued options requeuedAt) rows).map JobRecord.idempotencyKey =
        rows.map JobRecord.idempotencyKey := map_updateWhere fun _ => rfl
    exact hkeys ▸ h.keys
  ids := by
    have hids : (updateWhere (isRequeueable options) (requeued options requeuedAt) rows).map JobRecord.id =
        rows.map JobRecord.id := map_updateWhere fun _ => rfl
    exact hids ▸ h.ids
  row := forall_updateWhere h.row fun row hrow hp =>
    rowSafe_of_unlocked (by simp [requeued]) rfl rfl (hchecks _ (mem_returning.2 ⟨row, hrow, hp, rfl⟩))
  held := by
    intro id worker
    rw [h.held]
    constructor
    · rintro ⟨row, hrow, hid, hby⟩
      refine ⟨row, mem_updateWhere_of_not_picked hrow ?_, hid, hby⟩
      have hrunning : row.status = .running := (h.row row hrow).lockedBy.2 (by simp [hby])
      simp [isRequeueable, hrunning]
    · rintro ⟨row, hrow, hid, hby⟩
      rcases mem_updateWhere.1 hrow with ⟨old, -, -, rfl⟩ | ⟨hrow, -⟩
      · cases hby
      · exact ⟨row, hrow, hid, hby⟩
  once := h.once

theorem change_safe {rows after : List (JobRecord ι τ)} {events new : List (Event ι)} (h : Safe rows events)
    (hchange : Change rows after new) : Safe after (events ++ new) := by
  cases hchange with
  | same => simpa using h
  | inserted job hkey hid hsafe hpending => simpa using inserted_safe h hkey hid hsafe hpending
  | granted picked workerId now hpicked hchecks => exact granted_safe h hpicked hchecks
  | released job workerId change hid hkey hstatus hby hat hchecks hheld =>
    exact released_safe h hid hkey hstatus hby hat hchecks
  | requeued options requeuedAt hchecks => simpa using requeued_safe h hchecks

/-- no statement takes a completed row -/
theorem change_completed {rows after : List (JobRecord ι τ)} {new : List (Event ι)} (hchange : Change rows after new)
    {job : JobRecord ι τ} (hjob : job ∈ rows) (hcompleted : job.status = .completed) : job ∈ after := by
  cases hchange with
  | same => exact hjob
  | inserted added _ _ _ _ => exact List.mem_append_left _ hjob
  | granted picked _ _ hpicked _ =>
    refine mem_updateWhere_of_not_picked hjob ?_
    by_contra hp
    have hpending := hpicked job hjob (by simpa using hp)
    rw [hcompleted] at hpending
    cases hpending
  | released => exact mem_updateWhere_of_not_picked hjob (by simp [isLockedBy, hcompleted])
  | requeued => exact mem_updateWhere_of_not_picked hjob (by simp [isRequeueable, hcompleted])

/-- no statement gives up a key -/
theorem change_keys {rows after : List (JobRecord ι τ)} {new : List (Event ι)} (hchange : Change rows after new)
    {key : String} (h : key ∈ rows.map JobRecord.idempotencyKey) : key ∈ after.map JobRecord.idempotencyKey := by
  cases hchange with
  | same => exact h
  | inserted job =>
    rw [List.map_append]
    exact List.mem_append_left _ h
  | granted picked workerId now =>
    have hkeys : (updateWhere picked (claimed workerId now) rows).map JobRecord.idempotencyKey =
        rows.map JobRecord.idempotencyKey := map_updateWhere fun _ => rfl
    exact hkeys ▸ h
  | released job workerId change hid hkey =>
    rw [map_updateWhere hkey]
    exact h
  | requeued options requeuedAt =>
    have hkeys : (updateWhere (isRequeueable options) (requeued options requeuedAt) rows).map JobRecord.idempotencyKey =
        rows.map JobRecord.idempotencyKey := map_updateWhere fun _ => rfl
    exact hkeys ▸ h

/-! ## Runs -/

variable [LinearOrder τ]

/-- **What a statement can do.** Every call leaves the table alone, adds a row under a new key, hands out waiting rows,
takes a running row back from the worker that holds it, or lets a failed one wait again. -/
theorem perform_change (env : Environment ι τ) (rows : List (JobRecord ι τ)) (hids : (rows.map JobRecord.id).Nodup)
    (call : Call ι τ) : Change rows (perform env rows call).2 (eventsOf (perform env rows call).1) := by
  cases call with
  | enqueue input =>
    simp only [perform, insertJob]
    split
    · exact .same
    rename_i hchecks
    split
    · exact .same
    rename_i hkey
    split
    · exact .same
    rename_i hid
    refine .inserted (toInsertableJob env input) (fun row hrow heq => hkey ?_) (fun row hrow heq => hid ?_) ?_ rfl
    · exact List.any_eq_true.2 ⟨row, hrow, decide_eq_true heq⟩
    · exact List.any_eq_true.2 ⟨row, hrow, decide_eq_true heq⟩
    · exact rowSafe_of_unlocked (by simp [toInsertableJob]) rfl rfl (by simpa using hchecks)
  | lookup key =>
    simp only [perform, selectExisting]
    split <;> exact .same
  | claimPending options =>
    simp only [perform, claimPendingJobs]
    split
    · exact .same
    refine claim_change hids (fun job hjob => ?_) _ _
    have hlockable := mem_lockable ((List.mem_insertionSort _).1 (List.mem_of_mem_take hjob))
    refine ⟨hlockable.1, ?_⟩
    have hcondition := hlockable.2
    simp only [isClaimablePending, decide_eq_true_eq] at hcondition
    exact hcondition.1
  | claimByKey options =>
    simp only [perform, claimJobByIdempotencyKey]
    refine claim_change hids (fun job hjob => ?_) _ _
    have hlockable := mem_lockable (List.mem_of_mem_take hjob)
    refine ⟨hlockable.1, ?_⟩
    have hcondition := hlockable.2
    simp only [isClaimableByKey, decide_eq_true_eq] at hcondition
    exact hcondition.1
  | complete options =>
    exact release_change options.jobId options.workerId _ (fun _ => rfl) (fun _ => rfl) (fun _ => by simp [completed])
      (fun _ => rfl) (fun _ => rfl)
  | fail options =>
    refine release_change options.jobId options.workerId _ (fun _ => rfl) (fun _ => rfl) (fun row => ?_) (fun _ => rfl)
      (fun _ => rfl)
    simp only [failed]
    split <;> decide
  | requeue options =>
    simp only [perform, requeueFailedJobByIdempotencyKey]
    rcases update_cases rows (isRequeueable options) (requeued options (options.requeuedAt.getD env.callerTime)) with
      hrefused | ⟨hrun, hchecks⟩
    · simp only [hrefused]
      exact .same
    · simp only [hrun]
      exact .requeued options _ hchecks

/-- a step is a change of the table with its events, or nothing at all -/
theorem step_cases (env : Environment ι τ) (queue : Queue ι τ) (call : Call ι τ) :
    (step env queue call).2 = queue ∨
      ((step env queue call).2.rows = (perform env queue.rows call).2 ∧
        (step env queue call).2.events = queue.events ++ eventsOf (perform env queue.rows call).1) := by
  rw [step]
  cases env.delivery with
  | refused => exact Or.inl rfl
  | answered => exact Or.inr ⟨rfl, rfl⟩
  | lost => exact Or.inr ⟨rfl, rfl⟩

theorem step_safe {queue : Queue ι τ} (h : Safe queue.rows queue.events) (env : Environment ι τ) (call : Call ι τ) :
    Safe (step env queue call).2.rows (step env queue call).2.events := by
  rcases step_cases env queue call with hsame | ⟨hrows, hevents⟩
  · rw [hsame]
    exact h
  · rw [hrows, hevents]
    exact change_safe h (perform_change env queue.rows h.ids call)

theorem reaches_safe {queue later : Queue ι τ} (h : Safe queue.rows queue.events) (hrun : Reaches queue later) :
    Safe later.rows later.events := by
  induction hrun with
  | refl => exact h
  | step env call _ _ ih => exact step_safe ih env call

omit [LinearOrder τ] in
theorem emptyQueue_safe : Safe (emptyQueue : Queue ι τ).rows (emptyQueue : Queue ι τ).events := by
  refine ⟨List.nodup_nil, List.nodup_nil, ?_, ?_, List.nodup_nil⟩
  · intro job hjob
    cases hjob
  · intro job workerId
    simp [emptyQueue, holdings]

theorem reachable_safe {queue : Queue ι τ} (h : Reachable queue) : Safe queue.rows queue.events :=
  reaches_safe emptyQueue_safe h

theorem reaches_completed {queue later : Queue ι τ} (h : Safe queue.rows queue.events) (hrun : Reaches queue later)
    {job : JobRecord ι τ} (hjob : job ∈ queue.rows) (hcompleted : job.status = .completed) : job ∈ later.rows := by
  induction hrun with
  | refl => exact hjob
  | @step middle env call before _ ih =>
    have hmiddle := reaches_safe h before
    rcases step_cases env middle call with hsame | ⟨hrows, -⟩
    · rw [hsame]
      exact ih
    · rw [hrows]
      exact change_completed (perform_change env middle.rows hmiddle.ids call) ih hcompleted

/-! ## What becomes of a running row -/

/-- the worker and the job of a call that gives a job back -/
def Call.releases : Call ι τ → Option (String × ι)
  | complete options => some (options.workerId, options.jobId)
  | fail options => some (options.workerId, options.jobId)
  | _ => none

omit [LinearOrder τ] in
theorem takeFirst_id {rows : List (JobRecord ι τ)} {job : ι} {workerId : String} {error : JobError}
    (change : JobRecord ι τ → JobRecord ι τ) (hid : ∀ row, (change row).id = row.id) {released : JobRecord ι τ}
    (h : (takeFirst error (update rows (isLockedBy job workerId) change)).1 = .ok released) :
    released.id = job ∧ released ∈ (takeFirst error (update rows (isLockedBy job workerId) change)).2 ∧
      ∃ old, released = change old := by
  rcases update_cases rows (isLockedBy job workerId) change with hrefused | ⟨hrun, -⟩
  · rw [hrefused] at h
    cases h
  · rw [hrun] at h ⊢
    cases hreturned : returning (isLockedBy job workerId) change rows with
    | nil =>
      rw [hreturned] at h
      cases h
    | cons first rest =>
      rw [hreturned] at h
      obtain rfl : first = released := Except.ok.inj h
      obtain ⟨old, hold, hlocked, rfl⟩ := mem_returning.1 (hreturned ▸ List.mem_cons_self : first ∈ returning _ _ _)
      have hjob : old.id = job := by
        simp only [isLockedBy, decide_eq_true_eq] at hlocked
        exact hlocked.1
      exact ⟨(hid old).trans hjob, mem_updateWhere.2 (Or.inl ⟨old, hold, hlocked, rfl⟩), old, rfl⟩

omit [LinearOrder τ] in
/-- a completion that returns has completed its job -/
theorem completeJob_returns {env : Environment ι τ} {rows : List (JobRecord ι τ)} {options : CompleteJobOptions ι τ}
    {released : JobRecord ι τ} (h : (completeJob env rows options).1 = .ok released) :
    released.id = options.jobId ∧ released ∈ (completeJob env rows options).2 ∧ released.status = .completed := by
  rw [completeJob] at h ⊢
  obtain ⟨hid, hmem, old, rfl⟩ := takeFirst_id (completed _) (fun _ => rfl) h
  exact ⟨hid, hmem, rfl⟩

omit [LinearOrder τ] in
theorem failJob_returns {env : Environment ι τ} {rows : List (JobRecord ι τ)} {options : FailJobOptions ι τ}
    {released : JobRecord ι τ} (h : (failJob env rows options).1 = .ok released) : released.id = options.jobId := by
  rw [failJob] at h
  exact (takeFirst_id (failed options _) (fun _ => rfl) h).1

/-- only the call that gives a job back takes it from its worker -/
theorem releases_of_event {env : Environment ι τ} {rows : List (JobRecord ι τ)} {call : Call ι τ} {workerId : String}
    {job : ι} (h : .released workerId job ∈ eventsOf (perform env rows call).1) :
    call.releases = some (workerId, job) := by
  have hrelease : ∀ (jobId : ι) (worker : String) (result : Except JobError (JobRecord ι τ)),
      (∀ released, result = .ok released → released.id = jobId) →
      .released workerId job ∈ eventsOf (result.map (Answer.released worker)) → (worker, jobId) = (workerId, job) := by
    intro jobId worker result hid hmem
    cases result with
    | error _ => cases hmem
    | ok released =>
      obtain ⟨rfl, rfl⟩ := Event.released.inj (List.mem_singleton.1 hmem)
      rw [hid released rfl]
  cases call with
  | complete options =>
    exact congrArg some (hrelease options.jobId options.workerId (completeJob env rows options).1
      (fun _ hreleased => (completeJob_returns hreleased).1) h)
  | fail options =>
    exact congrArg some (hrelease options.jobId options.workerId (failJob env rows options).1
      (fun _ hreleased => failJob_returns hreleased) h)
  | enqueue input =>
    simp only [perform, insertJob] at h
    split_ifs at h <;> simp [eventsOf, Except.map, Answer.events] at h
  | lookup key =>
    cases hselect : selectExisting rows key <;> simp [perform, hselect, eventsOf, Except.map, Answer.events] at h
  | claimPending options =>
    cases hresult : (claimPendingJobs env rows options).1 <;>
      simp [perform, hresult, eventsOf, Except.map, Answer.events] at h
  | claimByKey options =>
    cases hresult : (claimJobByIdempotencyKey env rows options).1 <;>
      simp [perform, hresult, eventsOf, Except.map, Answer.events] at h
  | requeue options =>
    cases hresult : (requeueFailedJobByIdempotencyKey env rows options).1 <;>
      simp [perform, hresult, eventsOf, Except.map, Answer.events] at h

omit [LinearOrder τ] in
/-- a running row stays as it is until it is taken from its worker -/
theorem change_running {rows after : List (JobRecord ι τ)} {new : List (Event ι)} (hchange : Change rows after new)
    {row : JobRecord ι τ} (hrow : row ∈ rows) (hrunning : row.status = .running) {workerId : String}
    (hby : row.lockedBy = some workerId) (hkept : .released workerId row.id ∉ new) : row ∈ after := by
  cases hchange with
  | same => exact hrow
  | inserted added _ _ _ _ => exact List.mem_append_left _ hrow
  | granted picked _ _ hpicked _ =>
    refine mem_updateWhere_of_not_picked hrow ?_
    by_contra hp
    have hpending := hpicked row hrow (by simpa using hp)
    rw [hrunning] at hpending
    cases hpending
  | released job worker _ _ _ _ _ _ _ _ =>
    refine mem_updateWhere_of_not_picked hrow ?_
    by_contra hp
    have hlocked : isLockedBy job worker row = true := by simpa using hp
    simp only [isLockedBy, decide_eq_true_eq] at hlocked
    refine hkept (List.mem_singleton.2 ?_)
    rw [hlocked.1, Option.some.inj (hby.symm.trans hlocked.2.2.1)]
  | requeued => exact mem_updateWhere_of_not_picked hrow (by simp [isRequeueable, hrunning])

theorem step_running {queue : Queue ι τ} (h : Safe queue.rows queue.events) (env : Environment ι τ) {call : Call ι τ}
    {row : JobRecord ι τ} (hrow : row ∈ queue.rows) (hrunning : row.status = .running) {workerId : String}
    (hby : row.lockedBy = some workerId) (hcall : call.releases ≠ some (workerId, row.id)) :
    row ∈ (step env queue call).2.rows := by
  rcases step_cases env queue call with hsame | ⟨hrows, -⟩
  · rw [hsame]
    exact hrow
  · rw [hrows]
    exact change_running (perform_change env queue.rows h.ids call) hrow hrunning hby
      (mt releases_of_event hcall)

theorem step_completed {queue : Queue ι τ} (h : Safe queue.rows queue.events) (env : Environment ι τ) (call : Call ι τ)
    {row : JobRecord ι τ} (hrow : row ∈ queue.rows) (hcompleted : row.status = .completed) :
    row ∈ (step env queue call).2.rows := by
  rcases step_cases env queue call with hsame | ⟨hrows, -⟩
  · rw [hsame]
    exact hrow
  · rw [hrows]
    exact change_completed (perform_change env queue.rows h.ids call) hrow hcompleted

/-- under a completion a row stays as it is, or is completed -/
theorem step_complete (env : Environment ι τ) (queue : Queue ι τ) (options : CompleteJobOptions ι τ)
    {row : JobRecord ι τ} (hrow : row ∈ queue.rows) :
    row ∈ (step env queue (.complete options)).2.rows ∨
      ∃ row' ∈ (step env queue (.complete options)).2.rows, row'.id = row.id ∧ row'.status = .completed := by
  rcases step_cases env queue (.complete options) with hsame | ⟨hrows, -⟩
  · rw [hsame]
    exact Or.inl hrow
  · rw [hrows]
    simp only [perform, completeJob]
    have hafter : ∀ rows : Except JobError (List (JobRecord ι τ)) × List (JobRecord ι τ),
        (takeFirst .lockNotFound rows).2 = rows.2 := by
      rintro ⟨_ | _ | ⟨_, _⟩, _⟩ <;> rfl
    rw [hafter]
    rcases update_cases queue.rows (isLockedBy options.jobId options.workerId)
      (completed (options.completedAt.getD env.callerTime)) with hrefused | ⟨hrun, -⟩
    · rw [hrefused]
      exact Or.inl hrow
    · rw [hrun]
      by_cases hpicked : isLockedBy options.jobId options.workerId row = true
      · exact Or.inr ⟨_, mem_updateWhere.2 (Or.inl ⟨row, hrow, hpicked, rfl⟩), rfl, rfl⟩
      · exact Or.inl (mem_updateWhere_of_not_picked hrow (by simpa using hpicked))

/-- an answer that arrives is the statement's own -/
theorem perform_of_answer {env : Environment ι τ} {queue : Queue ι τ} {call : Call ι τ} {answer : Answer ι τ}
    (h : (step env queue call).1 = .ok answer) :
    (perform env queue.rows call).1 = .ok answer ∧ (step env queue call).2.rows = (perform env queue.rows call).2 := by
  rw [step] at h ⊢
  cases hdelivery : env.delivery with
  | answered =>
    simp only [hdelivery, Delivery.outcome] at h
    exact ⟨h, rfl⟩
  | refused =>
    simp only [hdelivery] at h
    cases hresult : (perform env queue.rows call).1 with
    | ok _ => simp [hresult, Delivery.outcome] at h
    | error e => cases e <;> simp [hresult, Delivery.outcome] at h
  | lost =>
    simp only [hdelivery] at h
    cases hresult : (perform env queue.rows call).1 with
    | ok _ => simp [hresult, Delivery.outcome] at h
    | error e => cases e <;> simp [hresult, Delivery.outcome] at h

theorem step_complete_answer {env : Environment ι τ} {queue : Queue ι τ} {options : CompleteJobOptions ι τ}
    {answer : Answer ι τ} (h : (step env queue (.complete options)).1 = .ok answer) :
    ∃ row ∈ (step env queue (.complete options)).2.rows, row.id = options.jobId ∧ row.status = .completed := by
  obtain ⟨hperform, hrows⟩ := perform_of_answer h
  rw [hrows]
  simp only [perform] at hperform ⊢
  cases hresult : (completeJob env queue.rows options).1 with
  | error e =>
    rw [hresult] at hperform
    cases hperform
  | ok released =>
    obtain ⟨hid, hmem, hcompleted⟩ := completeJob_returns hresult
    exact ⟨released, hmem, hid, hcompleted⟩

/-- a job that a claim hands out was pending, and runs in the hands of the claimant -/
theorem step_claim_answer {env : Environment ι τ} {queue : Queue ι τ} (h : Safe queue.rows queue.events)
    {options : ClaimPendingJobsOptions τ} {workerId : String} {jobs : List (JobRecord ι τ)}
    (hanswer : (step env queue (.claimPending options)).1 = .ok (.claimed workerId jobs)) {job : JobRecord ι τ}
    (hjob : job ∈ jobs) :
    job ∈ (step env queue (.claimPending options)).2.rows ∧ job.status = .running ∧
      job.lockedBy = some options.workerId ∧ ∃ old ∈ queue.rows, old.id = job.id ∧ old.status = .pending := by
  obtain ⟨hperform, hrows⟩ := perform_of_answer hanswer
  rw [hrows]
  simp only [perform, claimPendingJobs] at hperform ⊢
  split_ifs at hperform ⊢
  · cases hperform
  revert hperform
  rcases update_cases queue.rows (fun job => decide (job.id ∈ ((((lockable env queue.rows
      (isClaimablePending options (options.now.getD env.callerTime))).insertionSort claimedBefore).take
      (options.limit.getD 1).toNat).map JobRecord.id)))
      (claimed options.workerId (options.now.getD env.callerTime)) with hrefused | ⟨hrun, -⟩
  · rw [hrefused]
    intro hperform
    cases hperform
  · rw [hrun]
    intro hperform
    obtain ⟨-, rfl⟩ := Answer.claimed.inj (Except.ok.inj hperform)
    obtain ⟨old, hold, hpicked, rfl⟩ := mem_returning.1 hjob
    refine ⟨mem_updateWhere.2 (Or.inl ⟨old, hold, hpicked, rfl⟩), rfl, rfl, old, hold, rfl, ?_⟩
    have hpending : ∀ row ∈ ((lockable env queue.rows (isClaimablePending options
        (options.now.getD env.callerTime))).insertionSort claimedBefore).take (options.limit.getD 1).toNat,
        row ∈ queue.rows ∧ row.status = .pending := by
      intro row hrow
      have hlockable := mem_lockable ((List.mem_insertionSort _).1 (List.mem_of_mem_take hrow))
      refine ⟨hlockable.1, ?_⟩
      have hcondition := hlockable.2
      simp only [isClaimablePending, decide_eq_true_eq] at hcondition
      exact hcondition.1
    exact picked_of_ids h.ids hpending hold hpicked

/-- the keys that enqueues under way met -/
def LookupsMet (queue : Queue ι τ) : Prop := ∀ key ∈ queue.lookups, key ∈ queue.rows.map JobRecord.idempotencyKey

omit [DecidableEq ι] [LinearOrder τ] in
/-- only an answer that arrives sends an enqueue on -/
theorem lookupsOf_outcome {delivery : Delivery} {result : Except JobError (Answer ι τ)} {key : String}
    (h : key ∈ lookupsOf (delivery.outcome result)) : key ∈ lookupsOf result := by
  cases result with
  | error e => cases delivery <;> cases e <;> exact h
  | ok answer =>
    cases delivery with
    | answered => exact h
    | refused => cases h
    | lost => cases h

omit [DecidableEq ι] [LinearOrder τ] in
theorem lookupsOf_map {α : Type} {answer : α → Answer ι τ} (h : ∀ a, (answer a).lookups = [])
    (result : Except JobError α) : lookupsOf (result.map answer) = [] := by
  cases result with
  | ok a => exact h a
  | error _ => rfl

/-- an insert that goes on to the lookup met its key -/
theorem lookupsOf_perform (env : Environment ι τ) (rows : List (JobRecord ι τ)) (call : Call ι τ) {key : String}
    (h : key ∈ lookupsOf (perform env rows call).1) : key ∈ rows.map JobRecord.idempotencyKey := by
  cases call with
  | enqueue input =>
    revert h
    simp only [perform, insertJob]
    split
    · exact fun h => by cases h
    split
    · rename_i hkey
      intro h
      have hinput : key = input.idempotencyKey := by simpa [lookupsOf, Except.map, Answer.lookups] using h
      obtain ⟨row, hrow, heq⟩ := List.any_eq_true.1 hkey
      exact hinput ▸ List.mem_map.2 ⟨row, hrow, of_decide_eq_true heq⟩
    split <;> exact fun h => by cases h
  | lookup key =>
    rw [perform, lookupsOf_map fun _ => rfl] at h
    cases h
  | claimPending options =>
    rw [perform, lookupsOf_map fun _ => rfl] at h
    cases h
  | claimByKey options =>
    rw [perform, lookupsOf_map fun _ => rfl] at h
    cases h
  | complete options =>
    rw [perform, lookupsOf_map fun _ => rfl] at h
    cases h
  | fail options =>
    rw [perform, lookupsOf_map fun _ => rfl] at h
    cases h
  | requeue options =>
    rw [perform, lookupsOf_map fun _ => rfl] at h
    cases h

theorem reaches_lookupsMet {queue later : Queue ι τ} (h : Safe queue.rows queue.events) (hmet : LookupsMet queue)
    (hrun : Reaches queue later) : LookupsMet later := by
  induction hrun with
  | refl => exact hmet
  | @step middle env call before _ ih =>
    have hids := (reaches_safe h before).ids
    intro key hkey
    have hkept : ∀ key ∈ middle.rows.map JobRecord.idempotencyKey,
        key ∈ (perform env middle.rows call).2.map JobRecord.idempotencyKey := fun key hold =>
      change_keys (perform_change env middle.rows hids call) hold
    rw [step] at hkey ⊢
    cases hdelivery : env.delivery with
    | refused =>
      simp only [hdelivery] at hkey ⊢
      exact ih key hkey
    | answered =>
      simp only [hdelivery, List.mem_append] at hkey ⊢
      rcases hkey with hold | hnew
      · exact hkept key (ih key hold)
      · exact hkept key (lookupsOf_perform env middle.rows call (lookupsOf_outcome hnew))
    | lost =>
      simp only [hdelivery, List.mem_append] at hkey ⊢
      rcases hkey with hold | hnew
      · exact hkept key (ih key hold)
      · exact hkept key (lookupsOf_perform env middle.rows call (lookupsOf_outcome hnew))

/-- an enqueue that met its key finds the row: its second throw never happens -/
theorem lookup_finds {queue : Queue ι τ} (h : Reachable queue) {key : String} (henabled : Enabled queue (.lookup key)) :
    ∃ job ∈ queue.rows, selectExisting queue.rows key = .ok job := by
  have hmet : LookupsMet queue := reaches_lookupsMet emptyQueue_safe (fun _ hkey => by cases hkey) h
  obtain ⟨row, hrow, hkey⟩ := List.mem_map.1 (hmet key henabled)
  rw [selectExisting, findJobByIdempotencyKey]
  cases hfind : queue.rows.find? fun job => decide (job.idempotencyKey = key) with
  | none =>
    have hnot := List.find?_eq_none.1 hfind row hrow
    simp [hkey] at hnot
  | some job => exact ⟨job, List.mem_of_find?_eq_some hfind, rfl⟩

/-- a call that throws and leaves the queue as it was -/
def Rejected (queue : Queue ι τ) (call : Call ι τ) : Prop :=
  ∀ env : Environment ι τ, (∃ error, (step env queue call).1 = .error error) ∧ (step env queue call).2 = queue

omit [LinearOrder τ] in
theorem release_rejected {queue : Queue ι τ} (h : Safe queue.rows queue.events) {workerId : String} {job : ι}
    (hheld : ¬ Holds queue workerId job) (error : JobError) (change : JobRecord ι τ → JobRecord ι τ) :
    takeFirst error (update queue.rows (isLockedBy job workerId) change) = (.error error, queue.rows) := by
  have hnone : ∀ row ∈ queue.rows, isLockedBy job workerId row = false := by
    intro row hrow
    by_contra hp
    obtain ⟨hid, hby⟩ := (isLockedBy_iff (h.row row hrow)).1 (by simpa using hp)
    exact hheld ((h.held job workerId).2 ⟨row, hrow, hid, hby⟩)
  have hreturned : returning (isLockedBy job workerId) change queue.rows = [] := returning_eq_nil.2 hnone
  have hupdate : update queue.rows (isLockedBy job workerId) change = (.ok [], queue.rows) := by
    rw [update, updateChecked, hreturned, updateWhere_of_none hnone]
    rfl
  rw [hupdate]
  rfl

theorem rejected_of_error {queue : Queue ι τ} {call : Call ι τ} {error : JobError}
    (h : ∀ env, perform env queue.rows call = (.error error, queue.rows)) : Rejected queue call := by
  intro env
  rw [step, h env]
  cases env.delivery with
  | refused => exact ⟨by cases error <;> exact ⟨_, rfl⟩, rfl⟩
  | answered => exact ⟨⟨error, rfl⟩, by simp [Delivery.outcome, lookupsOf, eventsOf]⟩
  | lost => exact ⟨by cases error <;> exact ⟨_, rfl⟩, by cases error <;> simp [Delivery.outcome, lookupsOf, eventsOf]⟩

/-- what is promised of a queue at any point of a run -/
structure QueueSafe (queue : Queue ι τ) : Prop where
  oneRowPerKey : (queue.rows.map JobRecord.idempotencyKey).Nodup
  runningIffLocked : ∀ job ∈ queue.rows, job.status = .running ↔ (job.lockedBy.isSome ∧ job.lockedAt.isSome)
  lockedTogether : ∀ job ∈ queue.rows, job.lockedBy.isSome = job.lockedAt.isSome
  attempts : ∀ job ∈ queue.rows, job.attemptCount ≤ job.maxAttempts
  completedStays : ∀ job ∈ queue.rows, job.status = .completed → ∀ later, Reaches queue later →
    job ∈ later.rows ∧ ∀ other ∈ later.rows, other.id = job.id → other = job
  /-- the holder of a job is the worker its row names, and the job was handed out to it once -/
  heldIffLocked : ∀ job workerId, Holds queue workerId job ↔
    ∃ row ∈ queue.rows, row.id = job ∧ row.status = .running ∧ row.lockedBy = some workerId
  heldOnce : ((holdings queue.events).map Prod.fst).Nodup
  oneHolder : ∀ job workerId workerId', Holds queue workerId job → Holds queue workerId' job → workerId = workerId'
  completeRejected : ∀ options : CompleteJobOptions ι τ, ¬ Holds queue options.workerId options.jobId →
    Rejected queue (.complete options)
  failRejected : ∀ options : FailJobOptions ι τ, ¬ Holds queue options.workerId options.jobId →
    Rejected queue (.fail options)

/-- **The job queue is safe.** Whatever calls any number of workers make, in whatever order their statements run and
whichever answers are lost: one row per key, locked exactly while it runs, within its attempts, completed for good; one
holder per job; and giving back a job that one does not hold throws and changes nothing. -/
theorem job_queue_safe {queue : Queue ι τ} (hreachable : Reachable queue) : QueueSafe queue := by
  have h := reachable_safe hreachable
  have hlocks : ∀ job ∈ queue.rows, job.lockedBy.isSome = job.lockedAt.isSome := by
    intro job hjob
    have hboth : job.lockedBy.isSome ↔ job.lockedAt.isSome :=
      (h.row job hjob).lockedBy.symm.trans (h.row job hjob).lockedAt
    exact Bool.eq_iff_iff.2 hboth
  refine ⟨h.keys, ?_, hlocks, ?_, ?_, ?_, h.once, ?_, ?_, ?_⟩
  · intro job hjob
    rw [(h.row job hjob).lockedBy, hlocks job hjob]
    exact (and_self_iff).symm
  · intro job hjob
    have hchecks := (h.row job hjob).checks
    simp only [JobRecord.checks, decide_eq_true_eq] at hchecks
    exact hchecks.2.2.1
  · intro job hjob hcompleted later hrun
    have hlater := reaches_safe h hrun
    have hstays := reaches_completed h hrun hjob hcompleted
    exact ⟨hstays, fun other hother hid => eq_of_key_eq hlater.ids hother hstays hid⟩
  · intro job workerId
    rw [Holds, h.held]
    constructor
    · rintro ⟨row, hrow, hid, hby⟩
      exact ⟨row, hrow, hid, (h.row row hrow).lockedBy.2 (by simp [hby]), hby⟩
    · rintro ⟨row, hrow, hid, -, hby⟩
      exact ⟨row, hrow, hid, hby⟩
  · intro job workerId workerId' hheld hheld'
    -- the claims handed out name each job once
    exact (Prod.mk.inj (eq_of_key_eq h.once hheld hheld' rfl)).2
  · exact fun options hheld => rejected_of_error fun env => by
      simp only [perform, completeJob, release_rejected h hheld]
      rfl
  · exact fun options hheld => rejected_of_error fun env => by
      simp only [perform, failJob, release_rejected h hheld]
      rfl

/-! A job that was enqueued and claimed. -/

def sampleEnvironment : Environment ℕ ℤ where
  uuid := 7
  databaseTime := 100
  callerTime := 100
  scan := [7]
  delivery := .answered

def sampleInput : EnqueueJobInput ℤ := ⟨"notification_retry", "retry:1", none, none, none⟩

def sampleQueue : Queue ℕ ℤ :=
  (step sampleEnvironment (step sampleEnvironment emptyQueue (.enqueue sampleInput)).2
    (.claimPending ⟨"worker-a", none, none, none⟩)).2

theorem sampleQueue_reachable : Reachable sampleQueue :=
  .step sampleEnvironment _ (.step sampleEnvironment _ (.refl _) trivial) trivial

theorem sampleQueue_safe : Holds sampleQueue "worker-a" 7 ∧ QueueSafe sampleQueue :=
  ⟨by unfold Holds; decide, job_queue_safe sampleQueue_reachable⟩

end SeeMirai.Jobs
