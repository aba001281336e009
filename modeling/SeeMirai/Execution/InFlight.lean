/-
The in-flight guard of `ExecutionEngine.submitOrder` (application/execution/execution-engine/service.ts). A call runs
without interruption up to its await, so the check of the map, the call of the broker and the entry in the map are one
step; the await suspends it until the broker's promise settles, and the finally block runs in the step that resumes it.
`step` takes these steps in any order: calls, settlements of the broker's promises and resumptions interleave freely.

A broker that throws at once instead of returning a promise is a call that is settled from the start.

Results:
- `Guarded.step` / `Guarded.run`: every outstanding broker call has its entry, every entry has the call that will remove
  it, and a duplicate waits for a broker call with its own fingerprint.
- `in_flight_guard`: at most one outstanding broker call for a key, a suppressed duplicate gets the order of its own
  fingerprint, a colliding call does not reach the broker, and cleaning up removes a call's own entry only.
-/
import SeeMirai.Execution.Validation

namespace SeeMirai.Execution

variable {Order : Type}

/-! ## Model -/

/-- the state of a promise that the broker returned -/
inductive Settlement (Order : Type) where
  | pending
  | resolved (order : Order)
  | rejected
deriving DecidableEq

structure BrokerCall (Order : Type) where
  submission : ExecutionSubmission
  settlement : Settlement Order

/-- an entry of the guard; the promise is the position of its broker call -/
structure InFlightExecutionSubmission where
  fingerprint : JsonRecord
  brokerSubmission : ℕ

/-- a call suspended in an await: the owner of a broker call, or a duplicate that shares its promise -/
inductive Suspended where
  | owner (submission : ExecutionSubmission) (brokerSubmission : ℕ)
  | duplicate (submission : ExecutionSubmission) (brokerSubmission : ℕ)

/-- what a call came to; `thrown` is a rejected promise -/
inductive ExecutionSubmitOrderResult (Order : Type) where
  | submitted (submission : ExecutionSubmission) (brokerOrder : Order)
  | duplicateSuppressed (submission : ExecutionSubmission) (brokerOrder : Order)
  | rejected (submission : ExecutionSubmission) (rejection : ExecutionRejection)
  | thrown (submission : ExecutionSubmission)

structure ExecutionEngine (Order : Type) where
  inFlightByIdempotencyKey : InsertionMap String InFlightExecutionSubmission
  brokerCalls : List (BrokerCall Order)
  suspended : List Suspended
  results : List (ExecutionSubmitOrderResult Order)

inductive EngineEvent (Order : Type) where
  /-- a call comes in; the flag says whether the broker throws at once -/
  | submitOrder (submission : ExecutionSubmission) (brokerThrows : Bool)
  /-- a broker promise settles, with an order or with an error -/
  | settle (brokerCall : ℕ) (order : Option Order)
  /-- a suspended call goes on -/
  | resume (call : ℕ)

namespace ExecutionEngine

def empty : ExecutionEngine Order := ⟨InsertionMap.empty, [], [], []⟩

def finish (engine : ExecutionEngine Order) (result : ExecutionSubmitOrderResult Order) : ExecutionEngine Order :=
  { engine with results := engine.results ++ [result] }

/-- `this.broker.submitOrder(submission)` -/
def callBroker (engine : ExecutionEngine Order) (submission : ExecutionSubmission) (settlement : Settlement Order) :
    ExecutionEngine Order :=
  { engine with brokerCalls := engine.brokerCalls ++ [⟨submission, settlement⟩] }

def settle (engine : ExecutionEngine Order) (brokerCall : ℕ) (order : Option Order) : ExecutionEngine Order :=
  match engine.brokerCalls[brokerCall]? with
  | some ⟨submission, .pending⟩ =>
    { engine with
      brokerCalls := engine.brokerCalls.set brokerCall ⟨submission, order.elim .rejected .resolved⟩ }
  | _ => engine

/-- the finally block of an owner -/
def cleanUp (engine : ExecutionEngine Order) (submission : ExecutionSubmission) : ExecutionEngine Order :=
  { engine with
    inFlightByIdempotencyKey := engine.inFlightByIdempotencyKey.delete submission.intent.idempotencyKey }

/-- what the awaited promise has come to -/
def settlementOf (engine : ExecutionEngine Order) (brokerSubmission : ℕ) : Settlement Order :=
  (engine.brokerCalls[brokerSubmission]?).elim .pending BrokerCall.settlement

def resume (engine : ExecutionEngine Order) (call : ℕ) : ExecutionEngine Order :=
  let left := { engine with suspended := engine.suspended.eraseIdx call }
  match engine.suspended[call]? with
  | some (.owner submission brokerSubmission) =>
    match engine.settlementOf brokerSubmission with
    | .pending => engine
    | .resolved order => (left.cleanUp submission).finish (.submitted submission order)
    | .rejected => (left.cleanUp submission).finish (.thrown submission)
  | some (.duplicate submission brokerSubmission) =>
    match engine.settlementOf brokerSubmission with
    | .pending => engine
    | .resolved order => left.finish (.duplicateSuppressed submission order)
    | .rejected => left.finish (.thrown submission)
  | none => engine

end ExecutionEngine

/-! ## Broker calls -/

/-- broker calls stay where they are, and a settled one stays as it is -/
def KeepsCalls (engine later : ExecutionEngine Order) : Prop :=
  ∀ (brokerSubmission : ℕ) call, engine.brokerCalls[brokerSubmission]? = some call →
    ∃ call', later.brokerCalls[brokerSubmission]? = some call' ∧ call'.submission = call.submission ∧
      (call.settlement ≠ .pending → call' = call)

theorem keepsCalls_of_eq {engine later : ExecutionEngine Order} (h : later.brokerCalls = engine.brokerCalls) :
    KeepsCalls engine later := fun p call hcall => ⟨call, by rw [h, hcall], rfl, fun _ => rfl⟩

theorem callBroker_cases {engine : ExecutionEngine Order} {submission : ExecutionSubmission}
    {settlement : Settlement Order} {p : ℕ} {call : BrokerCall Order}
    (h : (engine.callBroker submission settlement).brokerCalls[p]? = some call) :
    engine.brokerCalls[p]? = some call ∨ p = engine.brokerCalls.length ∧ call = ⟨submission, settlement⟩ := by
  simp only [ExecutionEngine.callBroker, List.getElem?_append] at h
  split_ifs at h with hlt
  · exact Or.inl h
  · rw [List.getElem?_singleton] at h
    split_ifs at h with hzero
    exact Or.inr ⟨by omega, (Option.some.inj h).symm⟩

theorem keepsCalls_callBroker (engine : ExecutionEngine Order) (submission : ExecutionSubmission)
    (settlement : Settlement Order) : KeepsCalls engine (engine.callBroker submission settlement) := by
  intro p call hcall
  refine ⟨call, ?_, rfl, fun _ => rfl⟩
  simp only [ExecutionEngine.callBroker]
  rw [List.getElem?_append_left (List.getElem?_eq_some_iff.1 hcall).1, hcall]

/-- one of the suspended calls, and the others -/
theorem suspended_split {engine : ExecutionEngine Order} {call : ℕ} {frame : Suspended}
    (h : engine.suspended[call]? = some frame) :
    ∃ before after, engine.suspended = before ++ frame :: after ∧ engine.suspended.eraseIdx call = before ++ after := by
  obtain ⟨hlt, hframe⟩ := List.getElem?_eq_some_iff.1 h
  refine ⟨engine.suspended.take call, engine.suspended.drop (call + 1), ?_, List.eraseIdx_eq_take_drop_succ _ _⟩
  rw [← hframe, List.cons_getElem_drop_succ, List.take_append_drop]

theorem settlementOf_resolved {engine : ExecutionEngine Order} {p : ℕ} {order : Order}
    (h : engine.settlementOf p = .resolved order) :
    ∃ call, engine.brokerCalls[p]? = some call ∧ call.settlement = .resolved order := by
  unfold ExecutionEngine.settlementOf at h
  cases hcall : engine.brokerCalls[p]? with
  | none => simp [hcall] at h
  | some call => exact ⟨call, rfl, by simpa [hcall] using h⟩

section Engine

variable [Host]

/-- the fingerprint a call is compared by -/
def currentFingerprint (submission : ExecutionSubmission) : JsonRecord :=
  createOrderIntentEvidence submission.intent (readSubmissionExpectedLossBps submission)

def idempotencyKeyCollision (submission : ExecutionSubmission) (mismatches : JsonRecord) : ExecutionRejection where
  reasonCode := .idempotencyKeyCollision
  message := "In-flight idempotency key was reused for a different order fingerprint"
  metadata := some [("idempotency_key", .string submission.intent.idempotencyKey), ("mismatches", .object mismatches)]

namespace ExecutionEngine

def submitOrder (safetyConfig : ExecutionSafetyConfig) (engine : ExecutionEngine Order)
    (submission : ExecutionSubmission) (brokerThrows : Bool) : ExecutionEngine Order :=
  match validateExecutionSubmission submission safetyConfig with
  | some rejection => engine.finish (.rejected submission rejection)
  | none =>
    match engine.inFlightByIdempotencyKey.get submission.intent.idempotencyKey with
    | some existing =>
      match compareOrderIntentEvidence (.object existing.fingerprint) (.object (currentFingerprint submission)) with
      | [] => { engine with suspended := engine.suspended ++ [.duplicate submission existing.brokerSubmission] }
      | mismatch :: mismatches =>
        engine.finish (.rejected submission (idempotencyKeyCollision submission (mismatch :: mismatches)))
    | none =>
      if brokerThrows then (engine.callBroker submission .rejected).finish (.thrown submission)
      else
        { engine.callBroker submission .pending with
          inFlightByIdempotencyKey := engine.inFlightByIdempotencyKey.set submission.intent.idempotencyKey
            ⟨currentFingerprint submission, engine.brokerCalls.length⟩
          suspended := engine.suspended ++ [.owner submission engine.brokerCalls.length] }

def step (safetyConfig : ExecutionSafetyConfig) (engine : ExecutionEngine Order) :
    EngineEvent Order → ExecutionEngine Order
  | .submitOrder submission brokerThrows => engine.submitOrder safetyConfig submission brokerThrows
  | .settle brokerCall order => engine.settle brokerCall order
  | .resume call => engine.resume call

def run (safetyConfig : ExecutionSafetyConfig) (events : List (EngineEvent Order)) : ExecutionEngine Order :=
  events.foldl (step safetyConfig) empty

end ExecutionEngine

/-! ## What holds between steps -/

/-- a submission that passed the checks, whatever the configuration -/
def Checked (submission : ExecutionSubmission) : Prop :=
  ∃ safetyConfig, validateExecutionSubmission submission safetyConfig = none

/-- a broker call with the fingerprint of a submission -/
def CallOf (engine : ExecutionEngine Order) (brokerSubmission : ℕ) (submission : ExecutionSubmission)
    (call : BrokerCall Order) : Prop :=
  engine.brokerCalls[brokerSubmission]? = some call ∧
    currentFingerprint call.submission = currentFingerprint submission

structure Guarded (engine : ExecutionEngine Order) : Prop where
  /-- an entry belongs to a call that will remove it -/
  entry : ∀ key entry, engine.inFlightByIdempotencyKey.get key = some entry →
    ∃ submission, .owner submission entry.brokerSubmission ∈ engine.suspended ∧
      submission.intent.idempotencyKey = key ∧ entry.fingerprint = currentFingerprint submission ∧ Checked submission
  /-- a call that waits for its own broker call has its entry -/
  owner : ∀ submission brokerSubmission, .owner submission brokerSubmission ∈ engine.suspended →
    engine.inFlightByIdempotencyKey.get submission.intent.idempotencyKey
        = some ⟨currentFingerprint submission, brokerSubmission⟩ ∧
      ∃ call, engine.brokerCalls[brokerSubmission]? = some call ∧ call.submission = submission
  /-- no two suspended calls own broker calls under one key -/
  distinct : engine.suspended.Pairwise fun a b => ∀ sa pa sb pb, a = .owner sa pa → b = .owner sb pb →
    sa.intent.idempotencyKey ≠ sb.intent.idempotencyKey
  /-- an outstanding broker call has a call that waits for it -/
  pending : ∀ brokerSubmission call, engine.brokerCalls[brokerSubmission]? = some call → call.settlement = .pending →
    .owner call.submission brokerSubmission ∈ engine.suspended
  duplicate : ∀ submission brokerSubmission, .duplicate submission brokerSubmission ∈ engine.suspended →
    ∃ call, CallOf engine brokerSubmission submission call
  results : ∀ submission order, .duplicateSuppressed submission order ∈ engine.results →
    ∃ brokerSubmission call, CallOf engine brokerSubmission submission call ∧ call.settlement = .resolved order

theorem Guarded.empty : Guarded (ExecutionEngine.empty : ExecutionEngine Order) := by
  constructor <;> simp [ExecutionEngine.empty]

/-! ## One step -/

theorem CallOf.later {engine later : ExecutionEngine Order} (hkeeps : KeepsCalls engine later) {p : ℕ}
    {submission : ExecutionSubmission} {call : BrokerCall Order} (h : CallOf engine p submission call) :
    ∃ call', CallOf later p submission call' ∧ (call.settlement ≠ .pending → call' = call) := by
  obtain ⟨call', hcall', hsub, hsettled⟩ := hkeeps p call h.1
  exact ⟨call', ⟨hcall', by rw [hsub]; exact h.2⟩, hsettled⟩

/-- a suppressed duplicate keeps its broker call -/
theorem Guarded.results_later {engine later : ExecutionEngine Order} (h : Guarded engine)
    (hkeeps : KeepsCalls engine later) {submission : ExecutionSubmission} {order : Order}
    (hmem : .duplicateSuppressed submission order ∈ engine.results) :
    ∃ p call, CallOf later p submission call ∧ call.settlement = .resolved order := by
  obtain ⟨p, call, hcall, hresolved⟩ := h.results submission order hmem
  obtain ⟨call', hcall', hsettled⟩ := hcall.later hkeeps
  exact ⟨p, call', hcall', by rw [hsettled (by simp [hresolved]), hresolved]⟩

/-- a result is recorded; a suppressed duplicate has to come with its broker call -/
theorem Guarded.finish {engine : ExecutionEngine Order} (h : Guarded engine) {result : ExecutionSubmitOrderResult Order}
    (hresult : ∀ submission order, result = .duplicateSuppressed submission order →
      ∃ p call, CallOf engine p submission call ∧ call.settlement = .resolved order) :
    Guarded (engine.finish result) where
  entry := h.entry
  owner := h.owner
  distinct := h.distinct
  pending := h.pending
  duplicate := h.duplicate
  results submission order hmem := by
    rcases List.mem_append.1 hmem with hold | hnew
    · exact h.results submission order hold
    · exact hresult submission order (List.mem_singleton.1 hnew).symm

/-- a broker call that is settled from the start leaves nobody waiting -/
theorem Guarded.callBroker {engine : ExecutionEngine Order} (h : Guarded engine) (submission : ExecutionSubmission)
    {settlement : Settlement Order} (hsettled : settlement ≠ .pending) :
    Guarded (engine.callBroker submission settlement) := by
  have hkeeps := keepsCalls_callBroker engine submission settlement
  refine ⟨h.entry, ?_, h.distinct, ?_, ?_, fun s order hmem => h.results_later hkeeps hmem⟩
  · intro s p hmem
    obtain ⟨hentry, call, hcall, hsub⟩ := h.owner s p hmem
    obtain ⟨call', hcall', hsub', -⟩ := hkeeps p call hcall
    exact ⟨hentry, call', hcall', hsub'.trans hsub⟩
  · intro p call hcall hpending
    rcases callBroker_cases hcall with hold | ⟨-, rfl⟩
    · exact h.pending p call hold hpending
    · exact absurd hpending hsettled
  · intro s p hmem
    obtain ⟨call, hcall⟩ := h.duplicate s p hmem
    obtain ⟨call', hcall', -⟩ := hcall.later hkeeps
    exact ⟨call', hcall'⟩

/-- a call starts to wait for a broker call with its own fingerprint -/
theorem Guarded.share {engine : ExecutionEngine Order} (h : Guarded engine) {submission : ExecutionSubmission} {p : ℕ}
    (hcall : ∃ call, CallOf engine p submission call) :
    Guarded { engine with suspended := engine.suspended ++ [.duplicate submission p] } where
  entry key entry hentry := by
    obtain ⟨s, hmem, hrest⟩ := h.entry key entry hentry
    exact ⟨s, List.mem_append_left _ hmem, hrest⟩
  owner s q hmem := by
    rcases List.mem_append.1 hmem with hold | hnew
    · exact h.owner s q hold
    · simp at hnew
  distinct := by
    rw [List.pairwise_append]
    refine ⟨h.distinct, List.pairwise_singleton _ _, ?_⟩
    rintro a - b hb sa pa sb pb - rfl
    simp at hb
  pending q call hq hpending := List.mem_append_left _ (h.pending q call hq hpending)
  duplicate s q hmem := by
    rcases List.mem_append.1 hmem with hold | hnew
    · exact h.duplicate s q hold
    · simp only [List.mem_singleton, Suspended.duplicate.injEq] at hnew
      obtain ⟨rfl, rfl⟩ := hnew
      exact hcall
  results := h.results

/-- a key that nobody holds is taken by a new broker call -/
theorem Guarded.enter {engine : ExecutionEngine Order} (h : Guarded engine) {submission : ExecutionSubmission}
    (hchecked : Checked submission)
    (hfree : engine.inFlightByIdempotencyKey.get submission.intent.idempotencyKey = none) :
    Guarded
      { engine.callBroker submission .pending with
        inFlightByIdempotencyKey := engine.inFlightByIdempotencyKey.set submission.intent.idempotencyKey
          ⟨currentFingerprint submission, engine.brokerCalls.length⟩
        suspended := engine.suspended ++ [.owner submission engine.brokerCalls.length] } := by
  have hkeeps := keepsCalls_callBroker engine submission .pending
  -- an owner holds its key, so no suspended owner has this one
  have hother : ∀ s q, .owner s q ∈ engine.suspended → s.intent.idempotencyKey ≠ submission.intent.idempotencyKey := by
    intro s q hmem hkey
    have hentry := (h.owner s q hmem).1
    rw [hkey, hfree] at hentry
    cases hentry
  refine ⟨?_, ?_, ?_, ?_, ?_, fun s order hmem => h.results_later hkeeps hmem⟩
  · intro key entry hentry
    rcases InsertionMap.set_cases hentry with ⟨rfl, rfl⟩ | hold
    · exact ⟨submission, by simp, rfl, rfl, hchecked⟩
    · obtain ⟨s, hmem, hrest⟩ := h.entry key entry hold
      exact ⟨s, List.mem_append_left _ hmem, hrest⟩
  · intro s q hmem
    rcases List.mem_append.1 hmem with hold | hnew
    · obtain ⟨hentry, call, hcall, hsub⟩ := h.owner s q hold
      obtain ⟨call', hcall', hsub', -⟩ := hkeeps q call hcall
      exact ⟨by rw [InsertionMap.get_set_ne _ _ (hother s q hold).symm, hentry], call', hcall', hsub'.trans hsub⟩
    · simp only [List.mem_singleton, Suspended.owner.injEq] at hnew
      obtain ⟨rfl, rfl⟩ := hnew
      exact ⟨InsertionMap.get_set_self _ _ _, ⟨s, .pending⟩, by simp [ExecutionEngine.callBroker], rfl⟩
  · rw [List.pairwise_append]
    refine ⟨h.distinct, List.pairwise_singleton _ _, ?_⟩
    rintro a ha b hb sa pa sb pb rfl rfl
    simp only [List.mem_singleton, Suspended.owner.injEq] at hb
    rw [hb.1]
    exact hother sa pa ha
  · intro q call hcall hpending
    rcases callBroker_cases hcall with hold | ⟨rfl, rfl⟩
    · exact List.mem_append_left _ (h.pending q call hold hpending)
    · simp
  · intro s q hmem
    rcases List.mem_append.1 hmem with hold | hnew
    · obtain ⟨call, hcall⟩ := h.duplicate s q hold
      obtain ⟨call', hcall', -⟩ := hcall.later hkeeps
      exact ⟨call', hcall'⟩
    · simp at hnew

theorem Guarded.settle {engine : ExecutionEngine Order} (h : Guarded engine) (p : ℕ) (order : Option Order) :
    Guarded (engine.settle p order) := by
  unfold ExecutionEngine.settle
  split
  · rename_i submission hp
    obtain ⟨hlt, -⟩ := List.getElem?_eq_some_iff.1 hp
    -- the broker call at p settles, every other one stays
    have hget : ∀ q : ℕ, (engine.brokerCalls.set p ⟨submission, order.elim .rejected .resolved⟩)[q]?
        = if p = q then some ⟨submission, order.elim .rejected .resolved⟩ else engine.brokerCalls[q]? := by
      intro q
      by_cases hpq : p = q
      · subst hpq
        rw [if_pos rfl, List.getElem?_set_self hlt]
      · rw [if_neg hpq, List.getElem?_set_ne hpq]
    have hkeeps : KeepsCalls engine
        { engine with brokerCalls := engine.brokerCalls.set p ⟨submission, order.elim .rejected .resolved⟩ } := by
      intro q call hcall
      by_cases hpq : p = q
      · subst hpq
        obtain rfl : ⟨submission, .pending⟩ = call := Option.some.inj (hp.symm.trans hcall)
        exact ⟨⟨submission, order.elim .rejected .resolved⟩, by rw [hget, if_pos rfl], rfl, fun hne => absurd rfl hne⟩
      · exact ⟨call, by rw [hget, if_neg hpq, hcall], rfl, fun _ => rfl⟩
    refine ⟨h.entry, ?_, h.distinct, ?_, ?_, fun s o hmem => h.results_later hkeeps hmem⟩
    · intro s q hmem
      obtain ⟨hentry, call, hcall, hsub⟩ := h.owner s q hmem
      obtain ⟨call', hcall', hsub', -⟩ := hkeeps q call hcall
      exact ⟨hentry, call', hcall', hsub'.trans hsub⟩
    · intro q call hcall hpending
      rw [hget] at hcall
      split_ifs at hcall with hpq
      · obtain rfl := Option.some.inj hcall
        cases order <;> simp at hpending
      · exact h.pending q call hcall hpending
    · intro s q hmem
      obtain ⟨call, hcall⟩ := h.duplicate s q hmem
      obtain ⟨call', hcall', -⟩ := hcall.later hkeeps
      exact ⟨call', hcall'⟩
  · exact h

/-- a duplicate goes on -/
theorem Guarded.leave {engine : ExecutionEngine Order} (h : Guarded engine) {before after : List Suspended}
    {submission : ExecutionSubmission} {p : ℕ}
    (hsplit : engine.suspended = before ++ .duplicate submission p :: after) :
    Guarded { engine with suspended := before ++ after } := by
  have hleft : (before ++ after).Sublist engine.suspended :=
    hsplit ▸ List.Sublist.append_left (List.sublist_cons_self _ _) _
  have howner : ∀ s q, .owner s q ∈ engine.suspended → .owner s q ∈ before ++ after := by
    intro s q howner
    rw [hsplit] at howner
    simpa using howner
  refine ⟨?_, fun s q hs => h.owner s q (hleft.subset hs), h.distinct.sublist hleft, ?_,
    fun s q hs => h.duplicate s q (hleft.subset hs), h.results⟩
  · intro key entry hentry
    obtain ⟨s, hs, hrest⟩ := h.entry key entry hentry
    exact ⟨s, howner _ _ hs, hrest⟩
  · intro q call hcall hpending
    exact howner _ _ (h.pending q call hcall hpending)

/-- an owner whose broker call has settled goes on and removes its entry -/
theorem Guarded.cleanUp {engine : ExecutionEngine Order} (h : Guarded engine) {before after : List Suspended}
    {submission : ExecutionSubmission} {p : ℕ}
    (hsplit : engine.suspended = before ++ .owner submission p :: after)
    (hsettled : engine.settlementOf p ≠ .pending) :
    Guarded ({ engine with suspended := before ++ after }.cleanUp submission) := by
  have hleft : (before ++ after).Sublist engine.suspended :=
    hsplit ▸ List.Sublist.append_left (List.sublist_cons_self _ _) _
  -- the other owners hold other keys
  have hother : ∀ s q, .owner s q ∈ before ++ after → submission.intent.idempotencyKey ≠ s.intent.idempotencyKey := by
    intro s q hs
    have hdistinct := h.distinct
    rw [hsplit, List.pairwise_append, List.pairwise_cons] at hdistinct
    rcases List.mem_append.1 hs with hbefore | hafter
    · exact (hdistinct.2.2 _ hbefore _ List.mem_cons_self s q submission p rfl rfl).symm
    · exact hdistinct.2.1.1 _ hafter submission p s q rfl rfl
  have hkept : ∀ s q, .owner s q ∈ engine.suspended → s.intent.idempotencyKey ≠ submission.intent.idempotencyKey ∨
      q ≠ p → .owner s q ∈ before ++ after := by
    intro s q hs hne
    rw [hsplit] at hs
    simp only [List.mem_append, List.mem_cons, Suspended.owner.injEq] at hs ⊢
    rcases hs with hbefore | ⟨rfl, rfl⟩ | hafter
    · exact Or.inl hbefore
    · rcases hne with hne | hne <;> exact absurd rfl hne
    · exact Or.inr hafter
  refine ⟨?_, ?_, h.distinct.sublist hleft, ?_, fun s q hs => h.duplicate s q (hleft.subset hs), h.results⟩
  · intro key entry hentry
    simp only [ExecutionEngine.cleanUp, InsertionMap.get_delete] at hentry
    split_ifs at hentry with hkey
    obtain ⟨s, hs, hskey, hrest⟩ := h.entry key entry hentry
    exact ⟨s, hkept _ _ hs (Or.inl (by rw [hskey]; exact Ne.symm hkey)), hskey, hrest⟩
  · intro s q hs
    obtain ⟨hentry, hcall⟩ := h.owner s q (hleft.subset hs)
    refine ⟨?_, hcall⟩
    simp only [ExecutionEngine.cleanUp, InsertionMap.get_delete]
    rw [if_neg (hother s q hs), hentry]
  · intro q call hcall hpending
    have hcall : engine.brokerCalls[q]? = some call := hcall
    refine hkept _ _ (h.pending q call hcall hpending) (Or.inr ?_)
    rintro rfl
    exact hsettled (by rw [ExecutionEngine.settlementOf, hcall]; exact hpending)

theorem Guarded.resume {engine : ExecutionEngine Order} (h : Guarded engine) (call : ℕ) :
    Guarded (engine.resume call) := by
  unfold ExecutionEngine.resume
  split
  · rename_i submission p hframe
    obtain ⟨before, after, hsplit, hleft⟩ := suspended_split hframe
    rw [hleft]
    split
    · exact h
    · rename_i order horder
      exact (h.cleanUp hsplit (by simp [horder])).finish (by simp)
    · rename_i hrejected
      exact (h.cleanUp hsplit (by simp [hrejected])).finish (by simp)
  · rename_i submission p hframe
    obtain ⟨before, after, hsplit, hleft⟩ := suspended_split hframe
    rw [hleft]
    split
    · exact h
    · rename_i order horder
      refine (h.leave hsplit).finish ?_
      rintro s o ⟨rfl, rfl⟩
      -- the promise it shared is that of a broker call with its fingerprint
      obtain ⟨brokerCall, hcall⟩ := h.duplicate submission p (by simp [hsplit])
      obtain ⟨brokerCall', hcall', hresolved⟩ := settlementOf_resolved horder
      obtain rfl : brokerCall = brokerCall' := Option.some.inj (hcall.1.symm.trans hcall')
      exact ⟨p, brokerCall, hcall, hresolved⟩
    · exact (h.leave hsplit).finish (by simp)
  · exact h

theorem Checked.readable {submission : ExecutionSubmission} (h : Checked submission) : Readable submission.intent := by
  obtain ⟨safetyConfig, hvalid⟩ := h
  exact (accepted_of_valid hvalid).readable

/-- an outstanding broker call has its entry -/
theorem Guarded.outstanding {engine : ExecutionEngine Order} (h : Guarded engine) {p : ℕ} {call : BrokerCall Order}
    (hcall : engine.brokerCalls[p]? = some call) (hpending : call.settlement = .pending) :
    engine.inFlightByIdempotencyKey.get call.submission.intent.idempotencyKey
      = some ⟨currentFingerprint call.submission, p⟩ :=
  (h.owner call.submission p (h.pending p call hcall hpending)).1

/-- the finally block removes the entry of its own call and leaves every other one -/
theorem Guarded.cleanUp_own {engine : ExecutionEngine Order} (h : Guarded engine) {call : ℕ}
    {submission : ExecutionSubmission} {p : ℕ} (hframe : engine.suspended[call]? = some (.owner submission p))
    (hsettled : engine.settlementOf p ≠ .pending) :
    engine.inFlightByIdempotencyKey.get submission.intent.idempotencyKey = some ⟨currentFingerprint submission, p⟩ ∧
      ∀ key, (engine.resume call).inFlightByIdempotencyKey.get key
        = if submission.intent.idempotencyKey = key then none else engine.inFlightByIdempotencyKey.get key := by
  refine ⟨(h.owner submission p (List.mem_of_getElem? hframe)).1, fun key => ?_⟩
  unfold ExecutionEngine.resume
  simp only [hframe]
  split
  · rename_i hpending
    exact absurd hpending hsettled
  · exact InsertionMap.get_delete _ _ _
  · exact InsertionMap.get_delete _ _ _

end Engine

/-! ## Every run -/

section Prints

variable [H : Host] [H.Prints]

/-- no mismatch with the fingerprint of a checked submission means the same fingerprint -/
theorem currentFingerprint_eq {a b : ExecutionSubmission} (ha : Checked a) (hb : Checked b)
    (h : compareOrderIntentEvidence (.object (currentFingerprint a)) (.object (currentFingerprint b)) = []) :
    currentFingerprint a = currentFingerprint b :=
  createOrderIntentEvidence_eq_of_agrees ha.readable hb.readable (compareOrderIntentEvidence_eq_nil.1 h)

theorem Guarded.submitOrder {engine : ExecutionEngine Order} (h : Guarded engine) (safetyConfig : ExecutionSafetyConfig)
    (submission : ExecutionSubmission) (brokerThrows : Bool) :
    Guarded (engine.submitOrder safetyConfig submission brokerThrows) := by
  unfold ExecutionEngine.submitOrder
  split
  · exact h.finish (by simp)
  · rename_i hvalid
    have hchecked : Checked submission := ⟨safetyConfig, hvalid⟩
    split
    · rename_i existing hentry
      split
      · rename_i hsame
        refine h.share ?_
        obtain ⟨s, hmem, -, hprint, hs⟩ := h.entry _ _ hentry
        obtain ⟨-, call, hcall, rfl⟩ := h.owner s existing.brokerSubmission hmem
        rw [hprint] at hsame
        exact ⟨call, hcall, currentFingerprint_eq hs hchecked hsame⟩
      · exact h.finish (by simp)
    · rename_i hfree
      split_ifs
      · exact (h.callBroker submission (by simp)).finish (by simp)
      · exact h.enter hchecked hfree

theorem Guarded.step {engine : ExecutionEngine Order} (h : Guarded engine) (safetyConfig : ExecutionSafetyConfig)
    (event : EngineEvent Order) : Guarded (engine.step safetyConfig event) := by
  cases event with
  | submitOrder submission brokerThrows => exact h.submitOrder safetyConfig submission brokerThrows
  | settle brokerCall order => exact h.settle brokerCall order
  | resume call => exact h.resume call

theorem Guarded.run (safetyConfig : ExecutionSafetyConfig) (events : List (EngineEvent Order)) :
    Guarded (ExecutionEngine.run safetyConfig events) := by
  unfold ExecutionEngine.run
  induction events using List.reverseRecOn with
  | nil => exact Guarded.empty
  | append_singleton events event ih =>
    rw [List.foldl_append]
    exact ih.step safetyConfig event

/-- a call under a key held with another fingerprint ends at once, and the broker is not called -/
theorem Guarded.collision {engine : ExecutionEngine Order} (h : Guarded engine) (safetyConfig : ExecutionSafetyConfig)
    {submission : ExecutionSubmission} {entry : InFlightExecutionSubmission} (brokerThrows : Bool)
    (hentry : engine.inFlightByIdempotencyKey.get submission.intent.idempotencyKey = some entry)
    (hdiffers : entry.fingerprint ≠ currentFingerprint submission) :
    ∃ rejection, engine.submitOrder safetyConfig submission brokerThrows
      = engine.finish (.rejected submission rejection) := by
  unfold ExecutionEngine.submitOrder
  split
  · rename_i rejection _
    exact ⟨rejection, rfl⟩
  · rename_i hvalid
    simp only [hentry]
    split
    · rename_i hsame
      obtain ⟨s, -, -, hprint, hs⟩ := h.entry _ _ hentry
      rw [hprint] at hsame hdiffers
      exact absurd (currentFingerprint_eq hs ⟨safetyConfig, hvalid⟩ hsame) hdiffers
    · exact ⟨_, rfl⟩

/-- **In-flight guard.** However calls, settlements and resumptions interleave: an outstanding broker call has its entry
and there is at most one for a key; a suppressed duplicate gets the order of a broker call with its own fingerprint; a
call under a key that is in flight with another fingerprint ends without reaching the broker; and a call that cleans up
removes its own entry and no other. -/
theorem in_flight_guard (safetyConfig : ExecutionSafetyConfig) (events : List (EngineEvent Order)) :
    let engine := ExecutionEngine.run safetyConfig events
    (∀ (p : ℕ) call, engine.brokerCalls[p]? = some call → call.settlement = .pending →
      engine.inFlightByIdempotencyKey.get call.submission.intent.idempotencyKey
          = some ⟨currentFingerprint call.submission, p⟩ ∧
        ∀ (q : ℕ) other, engine.brokerCalls[q]? = some other → other.settlement = .pending →
          other.submission.intent.idempotencyKey = call.submission.intent.idempotencyKey → q = p) ∧
    (∀ submission order, .duplicateSuppressed submission order ∈ engine.results →
      ∃ (p : ℕ) (call : BrokerCall Order), engine.brokerCalls[p]? = some call ∧ call.settlement = .resolved order ∧
        currentFingerprint call.submission = currentFingerprint submission) ∧
    (∀ submission entry brokerThrows,
      engine.inFlightByIdempotencyKey.get submission.intent.idempotencyKey = some entry →
        entry.fingerprint ≠ currentFingerprint submission →
        ∃ rejection, engine.step safetyConfig (.submitOrder submission brokerThrows)
          = engine.finish (.rejected submission rejection)) ∧
    (∀ (frame : ℕ) submission p, engine.suspended[frame]? = some (.owner submission p) →
      engine.settlementOf p ≠ .pending →
        engine.inFlightByIdempotencyKey.get submission.intent.idempotencyKey
            = some ⟨currentFingerprint submission, p⟩ ∧
          ∀ key, (engine.step safetyConfig (.resume frame)).inFlightByIdempotencyKey.get key
            = if submission.intent.idempotencyKey = key then none
              else engine.inFlightByIdempotencyKey.get key) := by
  intro engine
  have h : Guarded engine := Guarded.run safetyConfig events
  clear_value engine
  simp only [ExecutionEngine.step]
  refine ⟨fun p call hcall hpending => ⟨h.outstanding hcall hpending, ?_⟩, ?_, ?_, ?_⟩
  · intro q other hother hpending' hkey
    have hentry := h.outstanding hother hpending'
    rw [hkey, h.outstanding hcall hpending, Option.some.injEq, InFlightExecutionSubmission.mk.injEq] at hentry
    exact hentry.2.symm
  · intro submission order hmem
    obtain ⟨p, call, ⟨hcall, hprint⟩, hresolved⟩ := h.results submission order hmem
    exact ⟨p, call, hcall, hresolved, hprint⟩
  · intro submission entry brokerThrows hentry hdiffers
    exact h.collision safetyConfig brokerThrows hentry hdiffers
  · intro frame submission p hframe hsettled
    exact h.cleanUp_own hframe hsettled

end Prints

/-- the same SELL comes in twice while the broker is still at work; the second call gets the first one's order -/
def resubmittedSell : List (EngineEvent String) :=
  [.submitOrder (exitSell "2") false, .submitOrder (exitSell "02") false, .settle 0 (some "order-1"), .resume 1]

theorem resubmittedSell_results :
    (ExecutionEngine.run defaultPaperExecutionSafetyConfig resubmittedSell).results
      = [.duplicateSuppressed (exitSell "02") "order-1"] := by
  rfl

theorem resubmittedSell_shares_order :
    ∃ (p : ℕ) (call : BrokerCall String),
      (ExecutionEngine.run defaultPaperExecutionSafetyConfig resubmittedSell).brokerCalls[p]? = some call ∧
        call.settlement = .resolved "order-1" ∧
        currentFingerprint call.submission = currentFingerprint (exitSell "02") :=
  (in_flight_guard defaultPaperExecutionSafetyConfig resubmittedSell).2.1 (exitSell "02") "order-1"
    (by rw [resubmittedSell_results]; exact List.mem_singleton_self _)

end SeeMirai.Execution
