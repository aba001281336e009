/-
The failure state under its lock (application/alerts/index.ts). Dispatches that share the owner of a failure state queue
for it: each runs its dispatch between entering and leaving, and then stores the failure state that came out, in the
owner and in its own options object. A dispatch that throws stores nothing.

Calls under one owner are interleaved at every await; the ports reply whatever they like. A promise that has settled is
noticed at any later time. Options objects are names, of which only the failure state is kept.

Results:
- `dispatch_tracks`: what a call asks for, and when.
- `failure_state_lock`: the sections run one at a time and in the order of the calls, a call that has ended blocks
  nobody, the entry goes with the newest call, and the count is that of the failures since the last success, in every
  run in which no dispatch throws once its provider has answered.
- `failure_uncounted`: a store that throws after a failed send, which nothing counts.
-/
import SeeMirai.Alerts.DispatchSends
import SeeMirai.Lib.PromiseChain

namespace SeeMirai.Alerts

open Async

/-! ## Model -/

section Model

variable {κ : Type}

inductive TrackedRequest (κ : Type) where
  /-- until the promise found in the lock has settled -/
  | enter
  /-- the owner's failure state into the options of the call -/
  | share (alertDispatch : κ)
  | port (alertDispatch : κ) (request : AlertRequest)
  | store (alertDispatch : κ) (state : NotificationFailureState)
  /-- the end of the section, whether it resolved or not -/
  | leave (resolved : Bool)

def TrackedReply : TrackedRequest κ → Type
  | .enter => Unit
  | .share _ => Unit
  | .port _ request => AlertReply request
  | .store _ _ => Unit
  | .leave _ => Unit

abbrev TrackedProgram (κ : Type) := Async (TrackedRequest κ) TrackedReply AlertError

def askTracked (request : TrackedRequest κ) : TrackedProgram κ (TrackedReply request) := Async.call request

/-- the end of a task, thrown or not -/
def attemptTask {α : Type} (task : TrackedProgram κ α) : TrackedProgram κ (Except AlertError α) :=
  tryCatch (task >>= fun a => pure (.ok a)) fun error => pure (.error error)

def runWithFailureStateLock {α : Type} (task : TrackedProgram κ α) : TrackedProgram κ α := do
  let _ : Unit ← askTracked .enter
  let result ← attemptTask task
  let _ : Unit ← askTracked (.leave result.isOk)
  settle result

variable [DecidableEq κ] [Host]

/-- the task under the lock -/
def trackedTask (failureStateOwner alertDispatch : κ) (options : AlertDispatchOptions)
    (request : AlertDispatchRequest) :
    TrackedProgram κ AlertDispatchResult := do
  if failureStateOwner ≠ alertDispatch then
    let _ : Unit ← askTracked (.share alertDispatch)
  let result ← embed (.port alertDispatch) (fun _ reply => reply) (dispatchAlertWithCooldown options request)
  let _ : Unit ← askTracked (.store alertDispatch result.failureEvaluation.state)
  return result

def dispatchAlertWithFailureStateTracking (failureStateOwner alertDispatch : κ) (options : AlertDispatchOptions)
    (request : AlertDispatchRequest) : TrackedProgram κ AlertDispatchResult :=
  runWithFailureStateLock (trackedTask failureStateOwner alertDispatch options request)

structure TrackedShared (κ : Type) where
  failureState : κ → Option NotificationFailureState
  /-- what `alertDispatchFailureStateLocks` holds for the owner, and the promises around it -/
  lock : PromiseChain
  /-- what the provider came to, for each call that it answered -/
  answers : List (ℕ × NotificationResult)

/-- the failure state of an options object is written -/
def TrackedShared.put (shared : TrackedShared κ) (options : κ) (state : Option NotificationFailureState) :
    TrackedShared κ :=
  { shared with failureState := Function.update shared.failureState options state }

def AlertRequest.isSend : AlertRequest → Bool
  | .sendAlert _ => true
  | _ => false

/-- how a request of call `i` is served -/
inductive TrackedServes (failureStateOwner : κ) (i : ℕ) (shared : TrackedShared κ) :
    (request : TrackedRequest κ) → Except AlertError (TrackedReply request) → TrackedShared κ → Prop where
  | enter (hready : shared.lock.Ready i) :
      TrackedServes failureStateOwner i shared .enter (.ok ()) { shared with lock := shared.lock.enter i }
  | share (alertDispatch : κ) : TrackedServes failureStateOwner i shared (.share alertDispatch) (.ok ())
      (shared.put alertDispatch (shared.failureState failureStateOwner))
  | failureState (alertDispatch : κ) : TrackedServes failureStateOwner i shared (.port alertDispatch .failureState)
      (.ok (shared.failureState alertDispatch)) shared
  | send (alertDispatch : κ) (notification : AlertNotification) (reply : Except AlertError NotificationResult) :
      TrackedServes failureStateOwner i shared (.port alertDispatch (.sendAlert notification)) reply
        { shared with answers := shared.answers ++ [(i, reply.toOption.getD providerException)] }
  | port (alertDispatch : κ) (request : AlertRequest) (reply : Except AlertError (AlertReply request))
      (hread : request ≠ .failureState) (hsend : request.isSend = false) :
      TrackedServes failureStateOwner i shared (.port alertDispatch request) reply shared
  | store (alertDispatch : κ) (state : NotificationFailureState) :
      TrackedServes failureStateOwner i shared (.store alertDispatch state) (.ok ())
        ((shared.put failureStateOwner (some state)).put alertDispatch (some state))
  | leave (resolved : Bool) : TrackedServes failureStateOwner i shared (.leave resolved) (.ok ())
      { shared with lock := shared.lock.leave i }

/-- a call whose provider has answered resolves -/
def ResolvesAfterSend (i : ℕ) (shared : TrackedShared κ) (request : TrackedRequest κ) : Prop :=
  request = .leave false → ∀ a ∈ shared.answers, a.1 ≠ i

/-- calls are numbered as they are made; `Permits` restricts how they leave -/
def trackingEnvironment (failureStateOwner : κ) (Permits : ℕ → TrackedShared κ → TrackedRequest κ → Prop) :
    Environment ℕ (TrackedShared κ) (TrackedRequest κ) TrackedReply AlertError AlertDispatchResult where
  Starts i shared program shared' := i = shared.lock.previous.length ∧
    shared' = { shared with lock := shared.lock.request } ∧ ∃ alertDispatch options request,
      program = dispatchAlertWithFailureStateTracking failureStateOwner alertDispatch options request
  Serves i shared request reply shared' := TrackedServes failureStateOwner i shared request reply shared' ∧
    (∀ resolved, request = .leave resolved → Permits i shared request)
  Drifts shared shared' := ∃ i, shared.lock.Ready i ∧ i ∈ shared.lock.released ∧
    shared' = { shared with lock := shared.lock.settle i }

abbrev TrackedWorld (κ : Type) :=
  World ℕ (TrackedShared κ) (TrackedRequest κ) TrackedReply AlertError AlertDispatchResult

/-- no calls yet, whatever the options objects hold -/
def initialTrackedWorld (failureState : κ → Option NotificationFailureState) : TrackedWorld κ where
  shared := ⟨failureState, .empty, []⟩
  running _ := none

def failureCount (state : Option NotificationFailureState) : ℕ := (state.getD noFailures).consecutiveFailures

/-- the failures since the last success, and those counted before where there is none -/
def failuresSince (counted : ℕ) (answers : List NotificationResult) : ℕ :=
  answers.foldl (fun count answer => if answer.delivered then 0 else count + 1) counted

end Model

theorem failuresSince_snoc (counted : ℕ) (answers : List NotificationResult) (answer : NotificationResult) :
    failuresSince counted (answers ++ [answer])
      = if answer.delivered then 0 else failuresSince counted answers + 1 := by
  simp [failuresSince]

/-- from a count of zero, it is the length of the run of failures at the end -/
theorem failuresSince_zero (answers : List NotificationResult) :
    failuresSince 0 answers = (answers.reverse.takeWhile (!·.delivered)).length := by
  induction answers using List.reverseRecOn with
  | nil => rfl
  | append_singleton answers answer ih =>
    rw [failuresSince_snoc, ih, List.reverse_append, List.reverse_singleton, List.singleton_append, List.takeWhile_cons]
    cases answer.delivered <;> simp

theorem evaluated_count (state : Option NotificationFailureState) (answer : NotificationResult) (time : ℤ) :
    failureCount (some (evaluateNotificationFailure state answer time).state)
      = if answer.delivered then 0 else failureCount state + 1 := by
  unfold evaluateNotificationFailure failureCount
  cases answer.delivered with
  | true => rfl
  | false =>
    simp only [Bool.false_eq_true, if_false]
    split_ifs <;> rfl

/-! ## What a call asks for -/

section Programs

variable {κ : Type}

inductive Stage where
  | waiting
  | entered
  | dispatching
  | stored
  | left
deriving DecidableEq

/-- where a call is: its options object, the stage it has reached, and what its dispatch has learnt -/
structure TrackedPlace (κ : Type) where
  alertDispatch : κ
  stage : Stage
  send : SendPlace

def Stage.inSection : Stage → Bool
  | .waiting => false
  | .left => false
  | _ => true

/-- the state that a dispatch hands over, from what it has learnt -/
def HandsOver (send : SendPlace) (state : NotificationFailureState) : Prop :=
  ∃ read, send.failureState = some read ∧
    (send.sent = none → failureCount (some state) = failureCount read) ∧
    ∀ answer, send.sent = some answer →
      failureCount (some state) = if answer.delivered then 0 else failureCount read + 1

variable [DecidableEq κ]

def trackedMonitor (failureStateOwner : κ) : Monitor (TrackedRequest κ) TrackedReply AlertError (TrackedPlace κ) where
  Allowed place
    | .enter => place.stage = .waiting
    | .share alertDispatch => place.stage = .entered ∧ alertDispatch = place.alertDispatch
    | .port alertDispatch request => place.stage = .dispatching ∧ alertDispatch = place.alertDispatch ∧
        sendMonitor.Allowed place.send request
    | .store alertDispatch state => place.stage = .dispatching ∧ alertDispatch = place.alertDispatch ∧
        HandsOver place.send state
    | .leave resolved => place.stage.inSection = true ∧ (resolved = true → place.stage = .stored)
  after place
    | .enter, .ok _ =>
      { place with stage := if failureStateOwner = place.alertDispatch then .dispatching else .entered }
    | .enter, .error _ => { place with stage := .left }
    | .share _, .ok _ => { place with stage := .dispatching }
    | .share _, .error _ => place
    | .port _ request, reply => { place with send := sendMonitor.after place.send request reply }
    | .store _ _, .ok _ => { place with stage := .stored }
    | .store _ _, .error _ => place
    | .leave _, _ => { place with stage := .left }

/-- the dispatch of a call, as its own monitor sees it -/
def dispatchingMonitor (alertDispatch : κ) : Monitor AlertRequest AlertReply AlertError (TrackedPlace κ) where
  Allowed place request :=
    place.stage = .dispatching ∧ alertDispatch = place.alertDispatch ∧ sendMonitor.Allowed place.send request
  after place request reply := { place with send := sendMonitor.after place.send request reply }

/-- a task ends in its section; if it resolves, its failure state is stored -/
def TaskEnds {α : Type} (place : TrackedPlace κ) : Except AlertError α → Prop
  | .ok _ => place.stage = .stored
  | .error _ => place.stage.inSection = true

variable [Host] {failureStateOwner : κ} {place : TrackedPlace κ} {options : AlertDispatchOptions}
  {request : AlertDispatchRequest}

omit [Host] in
theorem HandsOver.of_reports {send : SendPlace} {result : AlertDispatchResult} (h : Reports send (.ok result)) :
    HandsOver send result.failureEvaluation.state := by
  obtain ⟨read, hread, hresult⟩ := h
  refine ⟨read, hread, fun hsent => ?_, fun answer hsent => ?_⟩
  · rw [hsent] at hresult
    obtain ⟨-, -, hevaluation⟩ := hresult
    rw [hevaluation]
    rfl
  · rw [hsent] at hresult
    obtain ⟨-, -, time, hevaluation⟩ := hresult
    rw [hevaluation]
    exact evaluated_count read answer time

/-- the dispatch inside the section: it stays there, and ends with a report of what it has learnt -/
theorem dispatch_inside (hstage : place.stage = .dispatching) (hunsent : place.send.sent = none) :
    Keeps (trackedMonitor failureStateOwner) (fun place' end_ => place'.stage = .dispatching ∧
        place'.alertDispatch = place.alertDispatch ∧ Reports place'.send end_) place
      (embed (.port place.alertDispatch) (fun _ reply => reply) (dispatchAlertWithCooldown options request)) := by
  have hsends : Keeps sendMonitor Reports place.send (dispatchAlertWithCooldown options request) :=
    dispatch_sends hunsent
  have hinside : Keeps (dispatchingMonitor place.alertDispatch) (fun place' end_ => place'.stage = .dispatching ∧
      place'.alertDispatch = place.alertDispatch ∧ Reports place'.send end_) place
      (dispatchAlertWithCooldown options request) := by
    refine hsends.simulate (fun send place' => place'.stage = .dispatching ∧
      place'.alertDispatch = place.alertDispatch ∧ place'.send = send) ?_ ?_ ?_ ⟨hstage, rfl, rfl⟩
    · rintro send place' asked ⟨hat, hobject, rfl⟩ hallowed
      exact ⟨hat, hobject.symm, hallowed⟩
    · rintro send place' asked reply ⟨hat, hobject, rfl⟩ -
      exact ⟨hat, hobject, rfl⟩
    · rintro send place' end_ ⟨hat, hobject, rfl⟩ hreports
      exact ⟨hat, hobject, hreports⟩
  refine keeps_embed _ _ (fun place' asked hallowed => hallowed) (fun place' asked reply _ => ?_) hinside
  cases reply <;> rfl

omit [Host] in
theorem stores_result (result : AlertDispatchResult) (hstage : place.stage = .dispatching)
    (hreports : Reports place.send (.ok result)) :
    Keeps (trackedMonitor failureStateOwner) TaskEnds place (do
      let _ : Unit ← askTracked (.store place.alertDispatch result.failureEvaluation.state)
      return result) := by
  refine keeps_call_bind ⟨hstage, rfl, .of_reports hreports⟩ (fun _ => keeps_pure rfl) fun _ => ?_
  change place.stage.inSection = true
  rw [hstage]
  rfl

theorem dispatch_stores (hstage : place.stage = .dispatching) (hunsent : place.send.sent = none) :
    Keeps (trackedMonitor failureStateOwner) TaskEnds place (do
      let result ← embed (.port place.alertDispatch) (fun _ reply => reply) (dispatchAlertWithCooldown options request)
      let _ : Unit ← askTracked (.store place.alertDispatch result.failureEvaluation.state)
      return result) := by
  refine keeps_bind (dispatch_inside hstage hunsent) (fun place' result h => ?_) (fun place' error h => ?_)
  · obtain ⟨hat, hobject, hreports⟩ := h
    rw [← hobject]
    exact stores_result result hat hreports
  · rw [TaskEnds, h.1]
    rfl

theorem task_ends (hstage : place.stage = if failureStateOwner = place.alertDispatch then .dispatching else .entered)
    (hunsent : place.send.sent = none) :
    Keeps (trackedMonitor failureStateOwner) TaskEnds place
      (trackedTask failureStateOwner place.alertDispatch options request) := by
  unfold trackedTask
  split_ifs with hother
  · rw [if_neg hother] at hstage
    refine keeps_call_bind ⟨hstage, rfl⟩ (fun _ => ?_) fun _ => ?_
    · exact @dispatch_stores κ _ _ failureStateOwner { place with stage := .dispatching } options request rfl hunsent
    · change place.stage.inSection = true
      rw [hstage]
      rfl
  · rw [if_pos (not_not.1 hother)] at hstage
    exact dispatch_stores hstage hunsent

/-- a call has left when it ends -/
def HasLeft {α : Type} (place : TrackedPlace κ) (_ : Except AlertError α) : Prop := place.stage = .left

/-- **What a call asks for.** It enters, uses its ports and writes failure states inside its section only, stores what
its dispatch has learnt, and leaves, whether it resolves or throws. -/
theorem dispatch_tracks (hstage : place.stage = .waiting) (hunsent : place.send.sent = none) :
    Keeps (trackedMonitor failureStateOwner) HasLeft place
      (dispatchAlertWithFailureStateTracking failureStateOwner place.alertDispatch options request) := by
  refine keeps_call_bind hstage (fun _ => ?_) fun _ => rfl
  have htask : Keeps (trackedMonitor failureStateOwner) TaskEnds
      { place with stage := if failureStateOwner = place.alertDispatch then .dispatching else .entered }
      (trackedTask failureStateOwner place.alertDispatch options request) := task_ends rfl hunsent
  have hattempt : Keeps (trackedMonitor failureStateOwner)
      (fun place' end_ => ∃ result, end_ = .ok result ∧ TaskEnds place' result)
      { place with stage := if failureStateOwner = place.alertDispatch then .dispatching else .entered }
      (attemptTask (trackedTask failureStateOwner place.alertDispatch options request)) := by
    have hended : Keeps (trackedMonitor failureStateOwner) (fun place' end_ => (∃ result, end_ = .ok (.ok result) ∧
        TaskEnds place' (.ok result : Except AlertError AlertDispatchResult)) ∨
        ∃ error, end_ = .error error ∧ TaskEnds place' (.error error : Except AlertError AlertDispatchResult))
        { place with stage := if failureStateOwner = place.alertDispatch then .dispatching else .entered }
        (trackedTask failureStateOwner place.alertDispatch options request >>=
          fun result => (pure (.ok result) : TrackedProgram κ (Except AlertError AlertDispatchResult))) :=
      keeps_bind htask (fun _ result h => keeps_pure (Or.inl ⟨result, rfl, h⟩)) fun _ error h => Or.inr ⟨error, rfl, h⟩
    refine keeps_tryCatch hended ?_ ?_
    · rintro place' result (⟨_, heq, h⟩ | ⟨_, heq, -⟩)
      · cases heq
        exact ⟨_, rfl, h⟩
      · cases heq
    · rintro place' error (⟨_, heq, -⟩ | ⟨_, heq, h⟩)
      · cases heq
      · cases heq
        exact keeps_pure ⟨_, rfl, h⟩
  refine keeps_bind hattempt (fun place' result h => ?_) (fun place' error h => ?_)
  · obtain ⟨result', heq, hends⟩ := h
    cases heq
    refine keeps_call_bind ?_ (fun _ => keeps_settle rfl) fun _ => rfl
    cases result with
    | ok result =>
      have hstored : place'.stage = .stored := hends
      exact ⟨by rw [hstored]; rfl, fun _ => hstored⟩
    | error error => exact ⟨hends, fun h => by cases h⟩
  · obtain ⟨_, heq, -⟩ := h
    cases heq

end Programs

/-! ## The invariant -/

section Invariant

variable {κ : Type} {failureStateOwner : κ} {counted : ℕ} {Resolving : Prop} {shared shared' : TrackedShared κ}
  {places : ℕ → Option (TrackedPlace κ)} {place : TrackedPlace κ} {i j : ℕ}

/-- the owner's count is that of these answers -/
def Counts (failureStateOwner : κ) (counted : ℕ) (shared : TrackedShared κ) (answers : List (ℕ × NotificationResult)) :
    Prop :=
  failureCount (shared.failureState failureStateOwner) = failuresSince counted (answers.map Prod.snd)

/-- what holds of a call at its place; the counts hold as long as calls resolve after their send -/
structure Placed (failureStateOwner : κ) (counted : ℕ) (Resolving : Prop) (shared : TrackedShared κ) (i : ℕ)
    (place : TrackedPlace κ) : Prop where
  known : i < shared.lock.previous.length
  waiting : place.stage = .waiting → i ∉ shared.lock.entered
  inside : place.stage.inSection = true → shared.lock.Inside i
  gone : place.stage = .left → i ∈ shared.lock.released
  fresh : place.stage = .waiting ∨ place.stage = .entered → place.send = ⟨none, none⟩
  unsent : place.send.sent = none → ∀ a ∈ shared.answers, a.1 ≠ i
  shares : place.stage = .dispatching → shared.failureState place.alertDispatch = shared.failureState failureStateOwner
  read : place.stage = .dispatching → ∀ state, place.send.failureState = some state →
    state = shared.failureState failureStateOwner
  answered : place.stage = .dispatching → ∀ answer, place.send.sent = some answer →
    ∃ earlier, shared.answers = earlier ++ [(i, answer)] ∧ (Resolving → Counts failureStateOwner counted shared earlier)
  unanswered : Resolving → place.stage = .entered ∨ place.stage = .dispatching → place.send.sent = none →
    Counts failureStateOwner counted shared shared.answers
  stored : Resolving → place.stage = .stored → Counts failureStateOwner counted shared shared.answers

structure TrackedInv (failureStateOwner : κ) (counted : ℕ) (Resolving : Prop) (shared : TrackedShared κ)
    (places : ℕ → Option (TrackedPlace κ)) : Prop where
  serial : shared.lock.Serial
  placed : ∀ i place, places i = some place → Placed failureStateOwner counted Resolving shared i place
  entered : ∀ a ∈ shared.answers, a.1 ∈ shared.lock.entered
  ordered : (shared.answers.map Prod.fst).Pairwise (· < ·)
  quiet : Resolving → shared.lock.Quiet → Counts failureStateOwner counted shared shared.answers

/-- a step of the lock alone that nobody enters or leaves by -/
theorem Placed.frame (h : Placed failureStateOwner counted Resolving shared i place) {lock : PromiseChain}
    (hprevious : shared.lock.previous.length ≤ lock.previous.length) (hentered : lock.entered = shared.lock.entered)
    (hreleased : lock.released = shared.lock.released) :
    Placed failureStateOwner counted Resolving { shared with lock := lock } i place where
  known := lt_of_lt_of_le h.known hprevious
  waiting hstage := by
    rw [hentered]
    exact h.waiting hstage
  inside hstage := by
    unfold PromiseChain.Inside
    rw [hentered, hreleased]
    exact h.inside hstage
  gone hstage := by
    rw [hreleased]
    exact h.gone hstage
  fresh := h.fresh
  unsent := h.unsent
  shares := h.shares
  read := h.read
  answered := h.answered
  unanswered := h.unanswered
  stored := h.stored

/-- outside its section a call is not concerned by what the one inside does -/
theorem Placed.outside (h : Placed failureStateOwner counted Resolving shared i place)
    (hout : place.stage.inSection = false) (hprevious : shared'.lock.previous = shared.lock.previous)
    (hentered : i ∉ shared.lock.entered → i ∉ shared'.lock.entered)
    (hreleased : i ∈ shared.lock.released → i ∈ shared'.lock.released)
    (hanswers : ∀ a ∈ shared'.answers, a.1 = i → a ∈ shared.answers) :
    Placed failureStateOwner counted Resolving shared' i place where
  known := by
    rw [hprevious]
    exact h.known
  waiting hstage := hentered (h.waiting hstage)
  inside hstage := by rw [hout] at hstage; cases hstage
  gone hstage := hreleased (h.gone hstage)
  fresh := h.fresh
  unsent hsent a ha heq := h.unsent hsent a (hanswers a ha heq) heq
  shares hstage := by rw [hstage] at hout; cases hout
  read hstage := by rw [hstage] at hout; cases hout
  answered hstage := by rw [hstage] at hout; cases hout
  unanswered _ hstage := by
    rcases hstage with hstage | hstage
    · rw [hstage] at hout; cases hout
    · rw [hstage] at hout; cases hout
  stored _ hstage := by rw [hstage] at hout; cases hout

theorem TrackedInv.others (h : TrackedInv failureStateOwner counted Resolving shared places)
    (hinside : shared.lock.Inside i) {place : TrackedPlace κ} (hplace : places j = some place) (hne : j ≠ i) :
    place.stage.inSection = false := by
  by_contra hin
  rw [Bool.not_eq_false] at hin
  exact hne (h.serial.alone ((h.placed j place hplace).inside hin) hinside)

/-- the last that entered is the one inside -/
theorem TrackedInv.last (h : TrackedInv failureStateOwner counted Resolving shared places)
    (hinside : shared.lock.Inside i) (hj : j ∈ shared.lock.entered) : j ≤ i := by
  have hlt := h.serial.mem_entered.1 hj
  by_contra hgt
  exact hinside.2 (h.serial.left i (by omega))

/-- a step inside the section of one call: the others are outside of theirs -/
theorem TrackedInv.update (h : TrackedInv failureStateOwner counted Resolving shared places)
    (hinside : shared.lock.Inside i) (hlock : shared'.lock = shared.lock)
    (hanswers : ∀ a ∈ shared'.answers, a.1 ≠ i → a ∈ shared.answers)
    (hplaced : Placed failureStateOwner counted Resolving shared' i place)
    (hentered : ∀ a ∈ shared'.answers, a.1 ∈ shared'.lock.entered)
    (hordered : (shared'.answers.map Prod.fst).Pairwise (· < ·)) :
    TrackedInv failureStateOwner counted Resolving shared' (Function.update places i (some place)) where
  serial := hlock ▸ h.serial
  placed j place' hplace := by
    by_cases hj : j = i
    · subst hj
      rw [Function.update_self] at hplace
      cases hplace
      exact hplaced
    · rw [Function.update_of_ne hj] at hplace
      refine (h.placed j place' hplace).outside (h.others hinside hplace hj) (by rw [hlock])
        (fun hout => by rwa [hlock]) (fun hleft => by rwa [hlock]) fun a ha heq => hanswers a ha ?_
      rw [heq]
      exact hj
  entered := hentered
  ordered := hordered
  quiet _ hquiet := absurd (hlock ▸ hinside) (hquiet i)

/-! ### Steps -/

theorem TrackedInv.enters (h : TrackedInv failureStateOwner counted Resolving shared places) [DecidableEq κ]
    (hplace : places i = some place) (hstage : place.stage = .waiting) (hready : shared.lock.Ready i) :
    TrackedInv failureStateOwner counted Resolving { shared with lock := shared.lock.enter i }
      (Function.update places i (some ((trackedMonitor failureStateOwner).after place .enter (.ok ())))) := by
  have hat := h.placed i place hplace
  have hnew := hat.waiting hstage
  have hfresh := hat.fresh (Or.inl hstage)
  have hnext := h.serial.enters_next hnew hready
  have hquiet : shared.lock.Quiet := fun j hj =>
    hj.2 (h.serial.ready_left hready j (hnext ▸ h.serial.mem_entered.1 hj.1))
  have hinside : (shared.lock.enter i).Inside i :=
    ⟨List.mem_append_right _ (List.mem_singleton_self i), fun hleft => hnew (h.serial.released i hleft)⟩
  refine ⟨h.serial.enter hnew hready, fun j place' hplace' => ?_, fun a ha => List.mem_append_left _ (h.entered a ha),
    h.ordered, fun _ hquiet' => absurd hinside (hquiet' i)⟩
  by_cases hj : j = i
  · subst hj
    rw [Function.update_self] at hplace'
    cases hplace'
    have hnotWaiting : ((trackedMonitor failureStateOwner).after place .enter (.ok ())).stage = .dispatching ∨
        ((trackedMonitor failureStateOwner).after place .enter (.ok ())).stage = .entered := by
      simp only [trackedMonitor]
      split_ifs
      · exact Or.inl rfl
      · exact Or.inr rfl
    refine ⟨hat.known, fun hw => ?_, fun _ => hinside, fun hl => ?_, fun _ => hfresh, hat.unsent, fun hd => ?_,
      fun _ state hstate => ?_, fun _ answer hanswer => ?_, fun hr _ _ => h.quiet hr hquiet,
        fun hr _ => h.quiet hr hquiet⟩
    · rcases hnotWaiting with heq | heq
      · rw [heq] at hw; cases hw
      · rw [heq] at hw; cases hw
    · rcases hnotWaiting with heq | heq
      · rw [heq] at hl; cases hl
      · rw [heq] at hl; cases hl
    · simp only [trackedMonitor] at hd ⊢
      split_ifs at hd with hown
      rw [hown]
    · have : place.send.failureState = some state := hstate
      rw [hfresh] at this
      cases this
    · have : place.send.sent = some answer := hanswer
      rw [hfresh] at this
      cases this
  · rw [Function.update_of_ne hj] at hplace'
    have hout : place'.stage.inSection = false := by
      by_contra hin
      rw [Bool.not_eq_false] at hin
      exact hquiet j ((h.placed j place' hplace').inside hin)
    refine (h.placed j place' hplace').outside hout rfl (fun hnot hmem => ?_) id fun a ha _ => ha
    rcases List.mem_append.1 hmem with hold | hself
    · exact hnot hold
    · exact hj (List.mem_singleton.1 hself)

theorem TrackedInv.shares (h : TrackedInv failureStateOwner counted Resolving shared places) [DecidableEq κ]
    (hplace : places i = some place) (hstage : place.stage = .entered) :
    TrackedInv failureStateOwner counted Resolving
      (shared.put place.alertDispatch (shared.failureState failureStateOwner))
      (Function.update places i (some { place with stage := .dispatching })) := by
  have hat := h.placed i place hplace
  have hinside := hat.inside (by rw [hstage]; rfl)
  have hfresh := hat.fresh (Or.inr hstage)
  have howner : (shared.put place.alertDispatch (shared.failureState failureStateOwner)).failureState failureStateOwner
      = shared.failureState failureStateOwner := by
    simp only [TrackedShared.put, Function.update_apply]
    split_ifs <;> rfl
  refine h.update hinside rfl (fun a ha _ => ha) ⟨hat.known, fun hw => (by cases hw), fun _ => hinside,
    fun hl => (by cases hl), fun _ => hfresh, hat.unsent, fun _ => ?_, fun _ state hstate => ?_,
      fun _ answer hanswer => ?_,
    fun hr _ hsent => ?_, fun _ hs => (by cases hs)⟩ h.entered h.ordered
  · rw [howner]
    exact Function.update_self _ _ _
  · have : place.send.failureState = some state := hstate
    rw [hfresh] at this
    cases this
  · have : place.send.sent = some answer := hanswer
    rw [hfresh] at this
    cases this
  · unfold Counts
    rw [howner]
    exact hat.unanswered hr (Or.inl hstage) hsent

theorem TrackedInv.reads (h : TrackedInv failureStateOwner counted Resolving shared places)
    (hplace : places i = some place) (hstage : place.stage = .dispatching) :
    TrackedInv failureStateOwner counted Resolving shared (Function.update places i (some { place with
      send := { place.send with failureState := some (shared.failureState place.alertDispatch) } })) := by
  have hat := h.placed i place hplace
  have hinside := hat.inside (by rw [hstage]; rfl)
  refine h.update hinside rfl (fun a ha _ => ha)
    ⟨hat.known, hat.waiting, hat.inside, hat.gone, fun hout => ?_, hat.unsent,
    hat.shares, fun _ state hstate => ?_, hat.answered, hat.unanswered, hat.stored⟩ h.entered h.ordered
  · rcases hout with hout | hout
    · have : place.stage = .waiting := hout
      rw [hstage] at this
      cases this
    · have : place.stage = .entered := hout
      rw [hstage] at this
      cases this
  · cases hstate
    exact hat.shares hstage

theorem TrackedInv.sends (h : TrackedInv failureStateOwner counted Resolving shared places)
    (hplace : places i = some place) (hstage : place.stage = .dispatching) (hunsent : place.send.sent = none)
    (answer : NotificationResult) :
    TrackedInv failureStateOwner counted Resolving { shared with answers := shared.answers ++ [(i, answer)] }
      (Function.update places i (some { place with send := { place.send with sent := some answer } })) := by
  have hat := h.placed i place hplace
  have hinside := hat.inside (by rw [hstage]; rfl)
  refine h.update hinside rfl (fun a ha hne => ?_) ⟨hat.known, hat.waiting, hat.inside, hat.gone, fun hout => ?_,
    fun hsent => (by cases hsent), hat.shares, hat.read, fun _ answer' hanswer => ?_, fun _ _ hsent => (by cases hsent),
    fun _ hs => ?_⟩ (fun a ha => ?_) ?_
  · rcases List.mem_append.1 ha with ha | ha
    · exact ha
    · rw [List.mem_singleton.1 ha] at hne
      exact absurd rfl hne
  · rcases hout with hout | hout
    · have : place.stage = .waiting := hout
      rw [hstage] at this
      cases this
    · have : place.stage = .entered := hout
      rw [hstage] at this
      cases this
  · cases hanswer
    exact ⟨shared.answers, rfl, fun hr => hat.unanswered hr (Or.inr hstage) hunsent⟩
  · have : place.stage = .stored := hs
    rw [hstage] at this
    cases this
  · rcases List.mem_append.1 ha with ha | ha
    · exact h.entered a ha
    · rw [List.mem_singleton.1 ha]
      exact hinside.1
  · rw [List.map_append, List.pairwise_append]
    refine ⟨h.ordered, List.pairwise_singleton _ _, fun k hk k' hk' => ?_⟩
    obtain ⟨a, ha, rfl⟩ := List.mem_map.1 hk
    rw [List.mem_singleton.1 hk']
    exact lt_of_le_of_ne (h.last hinside (h.entered a ha)) (hat.unsent hunsent a ha)

theorem TrackedInv.stores (h : TrackedInv failureStateOwner counted Resolving shared places) [DecidableEq κ]
    (hplace : places i = some place) (hstage : place.stage = .dispatching) {state : NotificationFailureState}
    (hstate : HandsOver place.send state) :
    TrackedInv failureStateOwner counted Resolving
      ((shared.put failureStateOwner (some state)).put place.alertDispatch (some state))
      (Function.update places i (some { place with stage := .stored })) := by
  have hat := h.placed i place hplace
  have hinside := hat.inside (by rw [hstage]; rfl)
  have howner : ((shared.put failureStateOwner (some state)).put place.alertDispatch (some state)).failureState
      failureStateOwner = some state := by
    simp [TrackedShared.put, Function.update_apply]
  refine h.update hinside rfl (fun a ha _ => ha) ⟨hat.known, fun hw => (by cases hw), fun _ => hinside,
    fun hl => (by cases hl), fun hout => (by rcases hout with hout | hout <;> cases hout), hat.unsent,
      fun hd => (by cases hd),
    fun hd => (by cases hd), fun hd => (by cases hd), fun _ hout => (by rcases hout with hout | hout <;> cases hout),
    fun hr _ => ?_⟩ h.entered h.ordered
  obtain ⟨read, hread, hkept, hmoved⟩ := hstate
  have hcurrent := hat.read hstage read hread
  unfold Counts
  rw [howner]
  cases hsent : place.send.sent with
  | none =>
    rw [hkept hsent, hcurrent]
    exact hat.unanswered hr (Or.inr hstage) hsent
  | some answer =>
    obtain ⟨earlier, hanswers, hcounts⟩ := hat.answered hstage answer hsent
    have hcount := hcounts hr
    unfold Counts at hcount
    change _ = failuresSince counted (shared.answers.map Prod.snd)
    rw [hmoved answer hsent, hcurrent, hcount, hanswers, List.map_append, List.map_singleton, failuresSince_snoc]

theorem TrackedInv.leaves (h : TrackedInv failureStateOwner counted Resolving shared places)
    (hplace : places i = some place) (hin : place.stage.inSection = true) {resolved : Bool}
    (hstored : resolved = true → place.stage = .stored)
    (hresolves : Resolving → resolved = false → ∀ a ∈ shared.answers, a.1 ≠ i) :
    TrackedInv failureStateOwner counted Resolving { shared with lock := shared.lock.leave i }
      (Function.update places i (some { place with stage := .left })) := by
  have hat := h.placed i place hplace
  have hinside := hat.inside hin
  refine ⟨h.serial.leave hinside, fun j place' hplace' => ?_, h.entered, h.ordered, fun hr _ => ?_⟩
  · by_cases hj : j = i
    · subst hj
      rw [Function.update_self] at hplace'
      cases hplace'
      exact ⟨hat.known, fun hw => (by cases hw), fun hs => (by cases hs), fun _ => Finset.mem_insert_self _ _,
        fun hout => (by rcases hout with hout | hout <;> cases hout), hat.unsent, fun hd => (by cases hd),
        fun hd => (by cases hd), fun hd => (by cases hd),
          fun _ hout => (by rcases hout with hout | hout <;> cases hout),
        fun _ hs => (by cases hs)⟩
    · rw [Function.update_of_ne hj] at hplace'
      exact (h.placed j place' hplace').outside (h.others hinside hplace' hj) rfl id
        (fun hleft => Finset.mem_insert_of_mem hleft) fun a ha _ => ha
  · have hunsent : ∀ answer, place.stage = .dispatching → place.send.sent = some answer → False := by
      intro answer hstage hsent
      obtain ⟨earlier, hanswers, -⟩ := hat.answered hstage answer hsent
      cases resolved with
      | true =>
        have := hstored rfl
        rw [hstage] at this
        cases this
      | false =>
        exact hresolves hr rfl (i, answer)
          (by rw [hanswers]; exact List.mem_append_right _ (List.mem_singleton_self _)) rfl
    cases hstage : place.stage with
    | waiting => rw [hstage] at hin; cases hin
    | left => rw [hstage] at hin; cases hin
    | stored => exact hat.stored hr hstage
    | entered =>
      have hfresh := hat.fresh (Or.inr hstage)
      exact hat.unanswered hr (Or.inl hstage) (by rw [hfresh])
    | dispatching =>
      refine hat.unanswered hr (Or.inr hstage) ?_
      cases hsent : place.send.sent with
      | none => rfl
      | some answer => exact (hunsent answer hstage hsent).elim

end Invariant

/-! ## Runs -/

section Runs

variable {κ : Type} [DecidableEq κ] [Host] {failureStateOwner : κ}
  {Permits : ℕ → TrackedShared κ → TrackedRequest κ → Prop} {counted : ℕ}

/-- nothing but resolving is permitted once a call's provider has answered -/
def PermitsResolving (Permits : ℕ → TrackedShared κ → TrackedRequest κ → Prop) : Prop :=
  ∀ i shared request, Permits i shared request → ResolvesAfterSend i shared request

omit [DecidableEq κ] [Host] in
theorem TrackedInv.starts {shared : TrackedShared κ} {places : ℕ → Option (TrackedPlace κ)} {Resolving : Prop}
    (h : TrackedInv failureStateOwner counted Resolving shared places) (alertDispatch : κ) :
    TrackedInv failureStateOwner counted Resolving { shared with lock := shared.lock.request }
      (Function.update places shared.lock.previous.length (some ⟨alertDispatch, .waiting, ⟨none, none⟩⟩)) := by
  have hlength : shared.lock.request.previous.length = shared.lock.previous.length + 1 := by simp [PromiseChain.request]
  have hnew : shared.lock.previous.length ∉ shared.lock.entered := by
    rw [h.serial.mem_entered]
    have := h.serial.count
    omega
  refine ⟨h.serial.request, fun j place hplace => ?_, h.entered, h.ordered, h.quiet⟩
  by_cases hj : j = shared.lock.previous.length
  · subst hj
    rw [Function.update_self] at hplace
    cases hplace
    refine ⟨by rw [hlength]; omega, fun _ => hnew, fun hs => (by cases hs), fun hl => (by cases hl), fun _ => rfl,
      fun _ a ha heq => hnew (heq ▸ h.entered a ha), fun hd => (by cases hd), fun hd => (by cases hd),
      fun hd => (by cases hd), fun _ hout => (by rcases hout with hout | hout <;> cases hout),
        fun _ hs => (by cases hs)⟩
  · rw [Function.update_of_ne hj] at hplace
    exact (h.placed j place hplace).frame (by rw [hlength]; omega) rfl rfl

theorem tracked_invariant : Invariant (trackingEnvironment failureStateOwner Permits)
    (fun _ => trackedMonitor failureStateOwner) (fun _ => HasLeft)
    (TrackedInv failureStateOwner counted (PermitsResolving Permits)) where
  start shared places i program shared' h _ hstarts := by
    obtain ⟨rfl, rfl, alertDispatch, options, request, rfl⟩ := hstarts
    have htracks : Keeps (trackedMonitor failureStateOwner) HasLeft ⟨alertDispatch, .waiting, ⟨none, none⟩⟩
        (dispatchAlertWithFailureStateTracking failureStateOwner alertDispatch options request) :=
      dispatch_tracks rfl rfl
    exact ⟨_, htracks, h.starts alertDispatch⟩
  serve shared places i place request reply shared' h hplace hallowed hserves := by
    obtain ⟨hserves, hpermits⟩ := hserves
    cases hserves with
    | enter hready => exact h.enters hplace hallowed hready
    | share alertDispatch =>
      obtain ⟨hstage, rfl⟩ := hallowed
      exact h.shares hplace hstage
    | failureState alertDispatch =>
      obtain ⟨hstage, rfl, -⟩ := hallowed
      exact h.reads hplace hstage
    | send alertDispatch notification reply =>
      obtain ⟨hstage, rfl, hunsent⟩ := hallowed
      have hsends := h.sends hplace hstage hunsent (reply.toOption.getD providerException)
      cases reply with
      | ok answer => exact hsends
      | error error => exact hsends
    | port alertDispatch request reply hread hsend =>
      have hkept : sendMonitor.after place.send request reply = place.send := by
        cases request with
        | failureState => exact absurd rfl hread
        | sendAlert notification => cases hsend
        | _ => rfl
      have hsame : (trackedMonitor failureStateOwner).after place (.port alertDispatch request) reply = place := by
        change { place with send := sendMonitor.after place.send request reply } = place
        rw [hkept]
      rw [hsame, ← hplace, Function.update_eq_self]
      exact h
    | store alertDispatch state =>
      obtain ⟨hstage, rfl, hstate⟩ := hallowed
      exact h.stores hplace hstage hstate
    | leave resolved =>
      refine h.leaves hplace hallowed.1 hallowed.2 fun hresolving hthrown => ?_
      exact hresolving i shared _ (hpermits resolved rfl) (by rw [hthrown])
  stop shared places i h := by
    refine ⟨h.serial, fun j place hplace => ?_, h.entered, h.ordered, h.quiet⟩
    by_cases hj : j = i
    · subst hj
      rw [Function.update_self] at hplace
      cases hplace
    · rw [Function.update_of_ne hj] at hplace
      exact h.placed j place hplace
  drift shared places shared' h hdrifts := by
    obtain ⟨i, hready, hreleased, rfl⟩ := hdrifts
    exact ⟨h.serial.settle hready hreleased, fun j place hplace => (h.placed j place hplace).frame le_rfl rfl rfl,
      h.entered, h.ordered, h.quiet⟩

omit [Host] in
theorem initial_tracked (failureState : κ → Option NotificationFailureState) :
    InStep (fun _ => trackedMonitor failureStateOwner) (fun _ => HasLeft)
      (TrackedInv failureStateOwner (failureCount (failureState failureStateOwner)) (PermitsResolving Permits))
      (initialTrackedWorld failureState) := by
  refine ⟨fun _ => none, ⟨PromiseChain.serial_empty, fun i place hplace => (by cases hplace), fun a ha => (by cases ha),
    List.Pairwise.nil, fun _ _ => rfl⟩, fun _ => trivial⟩

/-- what is promised of a world of calls under one owner -/
structure FailureStateTracked (failureStateOwner : κ) (counted : ℕ)
    (Permits : ℕ → TrackedShared κ → TrackedRequest κ → Prop) (w : TrackedWorld κ) : Prop where
  /-- sections are entered in the order of the calls -/
  order : w.shared.lock.entered = List.range w.shared.lock.entered.length
  oneAtATime : ∀ i j, w.shared.lock.Inside i → w.shared.lock.Inside j → i = j
  /-- whatever a call awaits but its turn, it awaits in its section -/
  sections : ∀ i request resume, w.running i = some (.awaiting request resume) → request ≠ .enter →
    w.shared.lock.Inside i
  ended : ∀ i end_, w.running i = some (settle end_) → i ∈ w.shared.lock.released
  /-- calls that have left block nobody -/
  unblocked : ∀ i program, w.running i = some program → i ∉ w.shared.lock.entered →
    (∀ j < i, j ∈ w.shared.lock.released) →
    ∃ w', Reaches (trackingEnvironment failureStateOwner Permits) w w' ∧ i ∈ w'.shared.lock.entered
  /-- the entry is removed by the newest call -/
  entry : ∀ w', Async.Step (trackingEnvironment failureStateOwner Permits) w w' → w.shared.lock.entry ≠ none →
    w'.shared.lock.entry = none → ∃ i, i + 1 = w.shared.lock.previous.length ∧ w.shared.lock.Inside i ∧
      w'.shared.lock = w.shared.lock.leave i
  /-- the provider answers in the order of the calls, each at most once -/
  answers : (w.shared.answers.map Prod.fst).Pairwise (· < ·)
  count : PermitsResolving Permits → w.shared.lock.Quiet →
    failureCount (w.shared.failureState failureStateOwner) = failuresSince counted (w.shared.answers.map Prod.snd)

/-- promises settle by themselves -/
theorem reaches_settled {w : TrackedWorld κ} {lock : PromiseChain} (h : w.shared.lock.Settles lock) :
    Reaches (trackingEnvironment failureStateOwner Permits) w { w with shared := { w.shared with lock := lock } } := by
  induction h with
  | refl => exact .refl
  | step _ i hready hreleased ih => exact .step ih (.drift _ ⟨i, hready, hreleased, rfl⟩)

section Reached

variable {w w' : TrackedWorld κ} {places : ℕ → Option (TrackedPlace κ)}
  (h : TrackedInv failureStateOwner counted (PermitsResolving Permits) w.shared places)
  (hat : ∀ i program, w.running i = some program →
    ∃ place, places i = some place ∧ Keeps (trackedMonitor failureStateOwner) HasLeft place program)

include h hat

theorem lock_step (hstep : Async.Step (trackingEnvironment failureStateOwner Permits) w w') :
    w'.shared.lock = w.shared.lock ∨ PromiseChain.Step w.shared.lock w'.shared.lock := by
  cases hstep with
  | start i program shared _ hstarts =>
    obtain ⟨-, rfl, -⟩ := hstarts
    exact Or.inr .request
  | stop i => exact Or.inl rfl
  | drift shared hdrifts =>
    obtain ⟨i, hready, hreleased, rfl⟩ := hdrifts
    exact Or.inr (.settle i hready hreleased)
  | serve i request resume reply shared hrunning hserves =>
    obtain ⟨place, hplace, hallowed, -⟩ := hat i _ hrunning
    have hplaced := h.placed i place hplace
    obtain ⟨hserves, -⟩ := hserves
    cases hserves with
    | enter hready => exact Or.inr (.enter i (hplaced.waiting hallowed) hready)
    | leave resolved => exact Or.inr (.leave i (hplaced.inside hallowed.1))
    | share => exact Or.inl rfl
    | failureState => exact Or.inl rfl
    | send => exact Or.inl rfl
    | port => exact Or.inl rfl
    | store => exact Or.inl rfl

omit [Host] in
/-- a call that has not entered waits for its turn -/
theorem awaits_turn {i : ℕ} {program : TrackedProgram κ AlertDispatchResult} (hrunning : w.running i = some program)
    (hnew : i ∉ w.shared.lock.entered) : ∃ resume, program = .awaiting .enter resume := by
  obtain ⟨place, hplace, hkeeps⟩ := hat i program hrunning
  have hplaced := h.placed i place hplace
  have hstage : place.stage = .waiting := by
    cases hstage : place.stage with
    | waiting => rfl
    | left => exact absurd (h.serial.released i (hplaced.gone hstage)) hnew
    | entered => exact absurd (hplaced.inside (by rw [hstage]; rfl)).1 hnew
    | dispatching => exact absurd (hplaced.inside (by rw [hstage]; rfl)).1 hnew
    | stored => exact absurd (hplaced.inside (by rw [hstage]; rfl)).1 hnew
  have hnotLeft : place.stage ≠ .left := by rw [hstage]; simp
  cases program with
  | returned result => exact absurd hkeeps hnotLeft
  | threw error => exact absurd hkeeps hnotLeft
  | awaiting request resume =>
    obtain ⟨hallowed, -⟩ := hkeeps
    cases request with
    | enter => exact ⟨resume, rfl⟩
    | share => exact absurd hallowed.1 (by rw [hstage]; decide)
    | port => exact absurd hallowed.1 (by rw [hstage]; decide)
    | store => exact absurd hallowed.1 (by rw [hstage]; decide)
    | leave => exact absurd hallowed.1 (by rw [hstage]; decide)

omit [Host] in
theorem sections_inside {i : ℕ} {request : TrackedRequest κ}
    {resume : Except AlertError (TrackedReply request) → TrackedProgram κ AlertDispatchResult}
    (hrunning : w.running i = some (.awaiting request resume)) (hturn : request ≠ .enter) : w.shared.lock.Inside i := by
  obtain ⟨place, hplace, hallowed, -⟩ := hat i _ hrunning
  refine (h.placed i place hplace).inside ?_
  cases request with
  | enter => exact absurd rfl hturn
  | share => rw [hallowed.1]; rfl
  | port => rw [hallowed.1]; rfl
  | store => rw [hallowed.1]; rfl
  | leave => exact hallowed.1

end Reached

/-- **The failure state under its lock.** In every run of calls that share an owner, sections run one at a time and in
the order of the calls, a call that has ended has left and blocks nobody, and the entry is removed by the newest call.
Where no dispatch throws once its provider has answered, the owner's count is, whenever nobody is inside, the number of
failures since the last success. -/
theorem failure_state_lock {failureState : κ → Option NotificationFailureState} {w : TrackedWorld κ}
    (hrun : Reaches (trackingEnvironment failureStateOwner Permits) (initialTrackedWorld failureState) w) :
    FailureStateTracked failureStateOwner (failureCount (failureState failureStateOwner)) Permits w := by
  obtain ⟨places, h, hat⟩ := (reaches_inStep tracked_invariant (initial_tracked failureState) hrun).places
  refine ⟨h.serial.order, fun i j => h.serial.alone, fun i request resume => sections_inside h hat, ?_, ?_, ?_,
    h.ordered,
    h.quiet⟩
  · intro i end_ hrunning
    obtain ⟨place, hplace, hkeeps⟩ := hat i _ hrunning
    refine (h.placed i place hplace).gone ?_
    cases end_ with
    | ok result => exact hkeeps
    | error error => exact hkeeps
  · intro i program hrunning hnew hleft
    obtain ⟨resume, rfl⟩ := awaits_turn h hat hrunning hnew
    obtain ⟨place, hplace, -⟩ := hat i _ hrunning
    obtain ⟨lock, hsettles, hready⟩ := h.serial.settles (h.placed i place hplace).known hleft
    refine ⟨_, (reaches_settled hsettles).serve hrunning (.ok ()) ⟨.enter hready, fun resolved heq => (by cases heq)⟩,
      List.mem_append_right _ (List.mem_singleton_self i)⟩
  · intro w' hstep hsome hnone
    rcases lock_step h hat hstep with heq | hlock
    · rw [heq] at hnone
      exact absurd hnone hsome
    · obtain ⟨i, hnewest, hinside, hleave, -⟩ := h.serial.entry_removed hlock hsome hnone
      exact ⟨i, hnewest, hinside, hleave⟩

end Runs

/-! ## A failure that is not counted -/

section Failing

variable [Host]

def unsentAlert : AlertDispatchRequest where
  environment := "live"
  runMode := "LIVE"
  severity := .p2
  alertType := "order"
  market := none
  strategyId := none
  reasonCode := "order_stuck"
  dedupeKey := none
  title := "Order stuck"
  body := "An order has been open for an hour."
  occurredAt := none
  correlationId := none
  metadata := none

/-- the requests of a call whose send is not delivered -/
theorem unsent_requests : ∃ enter, dispatchAlertWithFailureStateTracking () () ⟨false, false, none⟩ unsentAlert =
      .awaiting .enter enter ∧
    ∃ clock, enter (.ok ()) = .awaiting (.port () .clock) clock ∧
    ∃ input reserve, clock (.ok (0 : ℤ)) = .awaiting (.port () (.reserveDelivery .memory input)) reserve ∧
    ∀ state, ∃ notification send, reserve (.ok ⟨true, state⟩) =
        .awaiting (.port () (.sendAlert notification)) send ∧
      ∃ completed, send (.ok ⟨false, none, none⟩) = .awaiting (.port () .clock) completed ∧
      ∃ read, completed (.ok (0 : ℤ)) = .awaiting (.port () .failureState) read ∧
      ∃ input' release, read (.ok none) = .awaiting (.port () (.releaseDeliveryReservation .memory input')) release ∧
        (∀ error, ∃ leave, release (.error error) = .awaiting (.leave false) leave) ∧
        ∀ released, ∃ store, release (.ok released) = .awaiting (.store () ⟨1, some 0, some 0⟩) store ∧
          ∃ leave, store (.ok ()) = .awaiting (.leave true) leave := by
  refine ⟨_, rfl, _, rfl, _, _, rfl, fun state => ⟨_, _, rfl, _, rfl, _, rfl, _, _, rfl, fun error => ⟨_, rfl⟩,
    fun released => ⟨_, rfl, _, rfl⟩⟩⟩

def reservedState : AlertCooldownState :=
  toCooldownState (toCooldownRecordInput unsentAlert (createAlertFingerprint unsentAlert) 0) none none (some 60000)

/-- one call, which has just learnt that its send failed and is about to give its reservation back -/
def unsentShared : TrackedShared Unit := ⟨fun _ => none, PromiseChain.empty.request.enter 0, [(0, ⟨false, none, none⟩)]⟩

theorem unsent_reached (Permits : ℕ → TrackedShared Unit → TrackedRequest Unit → Prop) :
    ∃ input' release running, Reaches (trackingEnvironment () Permits) (initialTrackedWorld fun _ => none)
        ⟨unsentShared, running⟩ ∧
      running 0 = some (.awaiting (.port () (.releaseDeliveryReservation .memory input')) release) ∧
      (∀ error, ∃ leave, release (.error error) = .awaiting (.leave false) leave) ∧
      ∀ released, ∃ store, release (.ok released) = .awaiting (.store () ⟨1, some 0, some 0⟩) store ∧
        ∃ leave, store (.ok ()) = .awaiting (.leave true) leave := by
  obtain ⟨enter, henter, clock, hclock, input, reserve, hreserve, hrest⟩ := unsent_requests
  obtain ⟨notification, send, hsend, completed, hcompleted, read, hread, input', release, hrelease, hthrows,
    hreturns⟩ :=
    hrest reservedState
  refine ⟨input', release, _, ?_, Function.update_self 0 _ fun _ => none, hthrows, hreturns⟩
  have hstarted : Reaches (trackingEnvironment () Permits) (initialTrackedWorld fun _ => none)
      ⟨⟨fun _ => none, PromiseChain.empty.request, []⟩, Function.update _ 0 (some (.awaiting .enter enter))⟩ :=
    .step .refl (.start 0 _ _ rfl ⟨rfl, rfl, (), ⟨false, false, none⟩, unsentAlert, henter.symm⟩)
  have hready : PromiseChain.empty.request.Ready 0 := ⟨none, rfl, fun q hq => by cases hq⟩
  have hentered := hstarted.serve (Function.update_self _ _ _) (.ok ()) ⟨.enter hready, fun _ heq => by cases heq⟩
  rw [hclock, Function.update_idem] at hentered
  have hread₁ := hentered.serve (Function.update_self _ _ _) (.ok (0 : ℤ))
    ⟨.port () .clock _ (by simp) rfl, fun _ heq => by cases heq⟩
  rw [hreserve, Function.update_idem] at hread₁
  have hreserved := hread₁.serve (Function.update_self _ _ _) (.ok ⟨true, reservedState⟩)
    ⟨.port () _ _ (by simp) rfl, fun _ heq => by cases heq⟩
  rw [hsend, Function.update_idem] at hreserved
  have hsent := hreserved.serve (Function.update_self _ _ _) (.ok ⟨false, none, none⟩)
    ⟨.send () notification _, fun _ heq => by cases heq⟩
  rw [hcompleted, Function.update_idem] at hsent
  have hread₂ := hsent.serve (Function.update_self _ _ _) (.ok (0 : ℤ))
    ⟨.port () .clock _ (by simp) rfl, fun _ heq => by cases heq⟩
  rw [hread, Function.update_idem] at hread₂
  have hstate := hread₂.serve (Function.update_self _ _ _) (.ok none) ⟨.failureState (), fun _ heq => by cases heq⟩
  rw [hrelease, Function.update_idem] at hstate
  exact hstate

end Failing

/-- the release answers: the failure is counted -/
theorem unsent_counted : ∃ w : TrackedWorld Unit, w.shared.lock.Quiet ∧ w.shared.answers = [(0, ⟨false, none, none⟩)] ∧
    FailureStateTracked () 0 ResolvesAfterSend w := by
  obtain ⟨input', release, running, hreached, hrunning, -, hreturns⟩ := unsent_reached ResolvesAfterSend
  obtain ⟨store, hstore, leave, hleave⟩ := hreturns reservedState
  have hserves : (trackingEnvironment () ResolvesAfterSend).Serves 0 unsentShared
      (.port () (.releaseDeliveryReservation .memory input')) (.ok reservedState) unsentShared :=
    ⟨.port () _ _ (by simp) rfl, fun _ heq => by cases heq⟩
  have hreleased := hreached.serve hrunning _ hserves
  rw [hstore] at hreleased
  have hstored := hreleased.serve (Function.update_self _ _ _) (.ok ()) ⟨.store () _, fun _ heq => by cases heq⟩
  rw [hleave, Function.update_idem] at hstored
  have hleft := hstored.serve (Function.update_self _ _ _) (.ok ()) ⟨.leave true, fun _ _ hthrown => by cases hthrown⟩
  refine ⟨_, ?_, rfl, failure_state_lock hleft⟩
  intro i hinside
  obtain rfl : i = 0 := List.mem_singleton.1 hinside.1
  exact hinside.2 (Finset.mem_insert_self _ _)

/-- **A failure is lost.** The provider does not deliver, the release of the reservation throws, and the call leaves
without having counted the failure. -/
theorem failure_uncounted : ¬ ∀ w : TrackedWorld Unit,
    Reaches (trackingEnvironment () fun _ _ _ => True) (initialTrackedWorld fun _ => none) w → w.shared.lock.Quiet →
      failureCount (w.shared.failureState ()) = failuresSince 0 (w.shared.answers.map Prod.snd) := by
  intro hall
  obtain ⟨input', release, running, hreached, hrunning, hthrows, -⟩ := unsent_reached fun _ _ _ => True
  obtain ⟨leave, hleave⟩ := hthrows .invalidTime
  have hserves : (trackingEnvironment () fun _ _ _ => True).Serves 0 unsentShared
      (.port () (.releaseDeliveryReservation .memory input')) (.error .invalidTime) unsentShared :=
    ⟨.port () _ _ (by simp) rfl, fun _ heq => by cases heq⟩
  have hthrown := hreached.serve hrunning _ hserves
  rw [hleave] at hthrown
  have hleft := hthrown.serve (Function.update_self _ _ _) (.ok ()) ⟨.leave false, fun _ _ => trivial⟩
  have huncounted : failureCount (unsentShared.failureState ()) ≠ failuresSince 0
    (unsentShared.answers.map Prod.snd) := by
    decide
  refine absurd (hall _ hleft ?_) huncounted
  intro i hinside
  obtain rfl : i = 0 := List.mem_singleton.1 hinside.1
  exact hinside.2 (Finset.mem_insert_self _ _)

end SeeMirai.Alerts
