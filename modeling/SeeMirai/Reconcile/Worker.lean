/-
The live reconcile worker (runtime/live-reconcile-runtime/service.ts): each run takes a snapshot, runs the engine, and
where the engine fails closed or finds an order that has moved on asks the kill switch for a stronger state, before it
records its evidence. The worker does not look at what became of its request.

A run's request to the kill switch is one transaction; requests of others and the transactions of other runs come in
any order (`World.step`). The repository writes around it either succeed, and the run resolves, or fail, and it rejects.

Results:
- `Handled.step` / `Handled.run`: what a run's transaction made of the durable state it found, in every interleaving.
- `fail_closed_takes_effect_iff`: the transaction closes the kill switch as far as the engine asks, unless all that the
  engine asks a manual review for is an order older than the closed-order window: then the request is paired with the
  reason of a plain mismatch, which the kill switch turns down.
- `window_exceeded_leaves_orders_open`: such a run from NORMAL resolves, and new orders stay open.
-/
import SeeMirai.Reconcile.Engine
import SeeMirai.KillSwitch.Control

namespace SeeMirai.Reconcile

open KillSwitch Fallible

/-! ## Model -/

def unsafeLiveReconcileRuntimeError (violation : String) : Thrown :=
  ⟨"UnsafeLiveReconcileRuntimeError", "안전하지 않은 live reconcile runtime 설정: " ++ violation⟩

def hasEngineMismatch (output : ReconcileEngineOutput) (mismatchType : ReconcileMismatchType) : Bool :=
  output.mismatches.any (fun mismatch => mismatch.mismatchType = mismatchType)

def toKillSwitchReasonCode (output : ReconcileEngineOutput) : String :=
  if hasEngineMismatch output .orderIdentityConflict then "live_reconcile_identity_conflict"
  else if hasEngineMismatch output .balanceLockMismatch then "live_reconcile_balance_lock_mismatch"
  else if hasEngineMismatch output .balanceSnapshotUnavailable then "live_reconcile_balance_snapshot_unavailable"
  else if hasEngineMismatch output .websocketGapManualReview then "live_reconcile_websocket_gap"
  else if hasEngineMismatch output .orderStateAdvancementBlocked then "live_reconcile_order_state_advancement_blocked"
  else if hasEngineMismatch output .exchangeCancelStateMismatch then "live_reconcile_exchange_cancel_state_mismatch"
  else if hasEngineMismatch output .cancelFailureRetryNeeded then "live_reconcile_cancel_retry_needed"
  else "live_reconcile_mismatch"

def toKillSwitchControlTarget (output : ReconcileEngineOutput) : Option KillSwitchControlTargetState :=
  match output.targetKillSwitchState.getD .newOrdersBlocked with
  | .newOrdersBlocked => some .newOrdersBlocked
  | .manualReviewRequired => some .manualReviewRequired
  | _ => none

def hasStateAdvancementCandidatesWithoutRuntimeWrite (output : ReconcileEngineOutput) : Bool :=
  output.stateAdvancements ≠ []

/-- `applyFailClosedIfNeeded`: the request that goes to the kill switch, if any -/
def applyFailClosedIfNeeded (output : ReconcileEngineOutput) (correlationId observedAt actor : String)
    (hasProvider : Bool) : Except Thrown (Option KillSwitchControlRequest) :=
  let stateAdvancementRequiresManualReview := hasStateAdvancementCandidatesWithoutRuntimeWrite output
  if output.failClosed = false ∧ stateAdvancementRequiresManualReview = false then pure none
  else if hasProvider = false then
    throw (unsafeLiveReconcileRuntimeError
      (if stateAdvancementRequiresManualReview then
        "live reconcile 상태 전진 후보를 차단할 kill switch provider가 없습니다"
      else "live reconcile mismatch를 차단할 kill switch provider가 없습니다"))
  else if stateAdvancementRequiresManualReview then
    pure (some
      { targetState := .manualReviewRequired
        reasonCode := "live_reconcile_state_advancement_pending"
        correlationId := correlationId
        actor := some actor
        message := some "Live reconcile 상태 전진 후보가 확인되어 수동 검토 전까지 신규 주문을 차단합니다."
        occurredAt := observedAt })
  else
    pure ((toKillSwitchControlTarget output).map fun targetState =>
      { targetState := targetState
        reasonCode := toKillSwitchReasonCode output
        correlationId := correlationId
        actor := some actor
        message := some "Live reconcile mismatch가 감지되어 신규 주문을 차단합니다."
        occurredAt := observedAt })

/-- `applySnapshotFailureFailClosed` -/
def applySnapshotFailureFailClosed (correlationId observedAt actor : String) : KillSwitchControlRequest where
  targetState := .manualReviewRequired
  reasonCode := "live_reconcile_snapshot_provider_failed"
  correlationId := correlationId
  actor := some actor
  message := some "Live reconcile snapshot 조회가 실패해 수동 검토 전까지 신규 주문을 차단합니다."
  occurredAt := observedAt

/-- a run after its kill switch transaction: what the engine said, and the durable state before and after; a run that
asked for nothing has neither -/
structure ReconcileRun where
  engineOutput : ReconcileEngineOutput
  before : Option KillSwitchState
  after : Option KillSwitchState
deriving DecidableEq

structure World where
  database : KillSwitchDatabase
  inFlight : List ReconcileRun
  resolved : List ReconcileRun

inductive WorldEvent where
  /-- somebody else's request -/
  | control (request : KillSwitchControlRequest)
  /-- a run whose snapshot cannot be loaded; it rejects whatever becomes of the request -/
  | snapshotFailed (correlationId observedAt actor : String) (hasProvider : Bool)
  /-- a run gets to its engine and its kill switch transaction -/
  | reconcile (engineInput : ReconcileEngineInput) (correlationId actor : String) (hasProvider : Bool)
  /-- a run writes its evidence and completes, or fails to -/
  | finish (run : ℕ) (persisted : Bool)

def durableState (database : KillSwitchDatabase) : Option KillSwitchState :=
  database.killSwitchState.map KillSwitchRow.state

section Host

variable [Host]

/-- the provider's transaction for a run -/
def World.applyControl (world : World) (output : ReconcileEngineOutput) (request : KillSwitchControlRequest) : World :=
  match applyPostgresKillSwitchControl world.database request with
  | (database, .error _) => { world with database := database }
  | (database, .ok _) =>
    { world with
      database := database
      inFlight := world.inFlight ++ [⟨output, durableState world.database, durableState database⟩] }

def World.step (world : World) : WorldEvent → World
  | .control request => { world with database := (applyPostgresKillSwitchControl world.database request).1 }
  | .snapshotFailed correlationId observedAt actor hasProvider =>
    if hasProvider then
      { world with
        database := (applyPostgresKillSwitchControl world.database
          (applySnapshotFailureFailClosed correlationId observedAt actor)).1 }
    else world
  | .reconcile engineInput correlationId actor hasProvider =>
    match runReconcileEngine engineInput with
    | .error _ => world
    | .ok output =>
      match applyFailClosedIfNeeded output correlationId engineInput.observedAt actor hasProvider with
      | .error _ => world
      | .ok none => { world with inFlight := world.inFlight ++ [⟨output, none, none⟩] }
      | .ok (some request) => world.applyControl output request
  | .finish run persisted =>
    match world.inFlight[run]? with
    | none => world
    | some finished =>
      { world with
        inFlight := world.inFlight.eraseIdx run
        resolved := if persisted then world.resolved ++ [finished] else world.resolved }

def World.run (database : KillSwitchDatabase) (events : List WorldEvent) : World :=
  events.foldl World.step ⟨database, [], []⟩

end Host

/-! ## What the worker asks for -/

/-- the run asks the kill switch for something -/
def NeedsKillSwitch (output : ReconcileEngineOutput) : Prop := output.failClosed = true ∨ output.stateAdvancements ≠ []

/-- the state and the reason that go to the kill switch -/
def requestedControl (output : ReconcileEngineOutput) : Option (KillSwitchControlTargetState × String) :=
  if output.stateAdvancements ≠ [] then some (.manualReviewRequired, "live_reconcile_state_advancement_pending")
  else (toKillSwitchControlTarget output).map (fun targetState => (targetState, toKillSwitchReasonCode output))

/-- a reason that does not speak against a manual review -/
structure ReviewReason (reasonCode : String) : Prop where
  plain : ∀ c ∈ reasonCode.toList, c.isLower ∨ c = '_'
  live : isLiveReconcileReason reasonCode = true
  target : killSwitchTargetStateByReasonCode.lookup reasonCode = none ∨
    killSwitchTargetStateByReasonCode.lookup reasonCode = some .manualReviewRequired

/-- the mismatch types that have a reason of their own -/
def reviewReasonTypes : List ReconcileMismatchType :=
  [.orderIdentityConflict, .balanceLockMismatch, .balanceSnapshotUnavailable, .websocketGapManualReview,
    .orderStateAdvancementBlocked, .exchangeCancelStateMismatch, .cancelFailureRetryNeeded]

/-- a mismatch with a reason of its own is told by it; without one the reason is that of a plain mismatch -/
theorem toKillSwitchReasonCode_cases (output : ReconcileEngineOutput) :
    (∃ mismatchType ∈ reviewReasonTypes, hasEngineMismatch output mismatchType = true) ∧
        ReviewReason (toKillSwitchReasonCode output) ∨
      (∀ mismatchType ∈ reviewReasonTypes, hasEngineMismatch output mismatchType = false) ∧
        toKillSwitchReasonCode output = "live_reconcile_mismatch" := by
  have hreview : ∀ reasonCode ∈ ["live_reconcile_identity_conflict", "live_reconcile_balance_lock_mismatch",
      "live_reconcile_balance_snapshot_unavailable", "live_reconcile_websocket_gap",
      "live_reconcile_order_state_advancement_blocked", "live_reconcile_exchange_cancel_state_mismatch",
      "live_reconcile_cancel_retry_needed"], ReviewReason reasonCode := by
    simp only [List.forall_mem_cons]
    refine ⟨?_, ?_, ?_, ?_, ?_, ?_, ?_, by simp⟩ <;>
      exact ⟨plain_of_all (by decide +kernel), by decide +kernel, by decide +kernel⟩
  unfold toKillSwitchReasonCode
  split_ifs with h1 h2 h3 h4 h5 h6 h7
  · exact Or.inl ⟨⟨_, by simp [reviewReasonTypes], h1⟩, hreview _ (by simp)⟩
  · exact Or.inl ⟨⟨_, by simp [reviewReasonTypes], h2⟩, hreview _ (by simp)⟩
  · exact Or.inl ⟨⟨_, by simp [reviewReasonTypes], h3⟩, hreview _ (by simp)⟩
  · exact Or.inl ⟨⟨_, by simp [reviewReasonTypes], h4⟩, hreview _ (by simp)⟩
  · exact Or.inl ⟨⟨_, by simp [reviewReasonTypes], h5⟩, hreview _ (by simp)⟩
  · exact Or.inl ⟨⟨_, by simp [reviewReasonTypes], h6⟩, hreview _ (by simp)⟩
  · exact Or.inl ⟨⟨_, by simp [reviewReasonTypes], h7⟩, hreview _ (by simp)⟩
  · refine Or.inr ⟨?_, rfl⟩
    simp only [reviewReasonTypes, List.forall_mem_cons]
    exact ⟨by simpa using h1, by simpa using h2, by simpa using h3, by simpa using h4, by simpa using h5,
      by simpa using h6, by simpa using h7, by simp⟩

/-- a run that asks for nothing had nothing to ask for -/
theorem applyFailClosedIfNeeded_none {output : ReconcileEngineOutput} {correlationId observedAt actor : String}
    {hasProvider : Bool} (htarget : output.targetKillSwitchState = determineFailClosed output.mismatches)
    (h : applyFailClosedIfNeeded output correlationId observedAt actor hasProvider = .ok none) :
    ¬ NeedsKillSwitch output := by
  unfold applyFailClosedIfNeeded at h
  simp only [hasStateAdvancementCandidatesWithoutRuntimeWrite, decide_eq_true_eq, decide_eq_false_iff_not] at h
  split_ifs at h with hnone hprovider hadvance
  · rintro (hclosed | hadvanced)
    · simp [hnone.1] at hclosed
    · exact hnone.2 hadvanced
  · cases pure_eq_ok.1 h
  · -- the engine only ever asks for these two states
    have hsome := Option.map_eq_none_iff.1 (pure_eq_ok.1 h)
    unfold toKillSwitchControlTarget determineFailClosed at *
    rw [htarget] at hsome
    split_ifs at hsome <;> simp at hsome

/-- what is known of a run after its transaction -/
structure Handled (run : ReconcileRun) : Prop where
  target : run.engineOutput.targetKillSwitchState = determineFailClosed run.engineOutput.mismatches
  failClosed : run.engineOutput.failClosed = (determineFailClosed run.engineOutput.mismatches).isSome
  transaction : NeedsKillSwitch run.engineOutput → ∃ before targetState reasonCode,
    requestedControl run.engineOutput = some (targetState, reasonCode) ∧ run.before = some before ∧
      run.after = some (controlledState before targetState reasonCode)

/-! ## When the kill switch closes far enough -/

/-- the durable state blocks new orders and is at least as strong as the engine's target -/
def ClosesFarEnough (output : ReconcileEngineOutput) (after : KillSwitchState) : Prop :=
  (getKillSwitchActionPlan after).newOrdersBlocked = true ∧
    ∀ target, output.targetKillSwitchState = some target →
      (getKillSwitchActionPlan after).covers (getKillSwitchActionPlan target) = true

/-- nothing but an order older than the closed-order window asks for a manual review -/
def OnlyWindowExceeded (output : ReconcileEngineOutput) : Prop :=
  output.stateAdvancements = [] ∧ hasEngineMismatch output .closedOrderWindowExceeded = true ∧
    ∀ mismatchType ∈ reviewReasonTypes, hasEngineMismatch output mismatchType = false

theorem hasEngineMismatch_iff {output : ReconcileEngineOutput} {mismatchType : ReconcileMismatchType} :
    hasEngineMismatch output mismatchType = true ↔ ∃ mismatch ∈ output.mismatches, mismatch.mismatchType = mismatchType := by
  simp [hasEngineMismatch]

theorem covers_trans {a b c : KillSwitchActionPlan} (hab : a.covers b = true) (hbc : b.covers c = true) :
    a.covers c = true := by
  obtain ⟨a1, a2, a3, a4, a5⟩ := a
  obtain ⟨b1, b2, b3, b4, b5⟩ := b
  obtain ⟨c1, c2, c3, c4, c5⟩ := c
  simp only [KillSwitchActionPlan.covers, Bool.and_eq_true, Bool.or_eq_true, Bool.not_eq_true'] at hab hbc ⊢
  grind

theorem newOrdersBlocked_of_covers {plan : KillSwitchActionPlan} {target : KillSwitchState}
    (htarget : (getKillSwitchActionPlan target).newOrdersBlocked = true)
    (h : plan.covers (getKillSwitchActionPlan target) = true) : plan.newOrdersBlocked = true := by
  simp only [KillSwitchActionPlan.covers, Bool.and_eq_true, htarget] at h
  simpa using h.1.1.1.1

/-- the engine asks for nothing, for blocked new orders, or for a manual review -/
theorem determineFailClosed_cases (mismatches : List ReconcileMismatchEvidence) :
    determineFailClosed mismatches = none ∨
      determineFailClosed mismatches = some .newOrdersBlocked ∧
        (∀ mismatch ∈ mismatches, requiresManualReview mismatch.mismatchType = false) ∨
      determineFailClosed mismatches = some .manualReviewRequired ∧
        ∃ mismatch ∈ mismatches, requiresManualReview mismatch.mismatchType = true := by
  unfold determineFailClosed
  split_ifs with hnone hreview
  · exact Or.inl rfl
  · exact Or.inr (Or.inr ⟨rfl, by simpa using hreview⟩)
  · exact Or.inr (Or.inl ⟨rfl, by simpa using hreview⟩)

/-- a state that covers a manual review is far enough for every engine output -/
theorem closesFarEnough_of_manualReview {output : ReconcileEngineOutput} {after : KillSwitchState}
    (htarget : output.targetKillSwitchState = determineFailClosed output.mismatches)
    (h : (getKillSwitchActionPlan after).covers (getKillSwitchActionPlan .manualReviewRequired) = true) :
    ClosesFarEnough output after := by
  refine ⟨newOrdersBlocked_of_covers rfl h, fun target hsome => covers_trans h ?_⟩
  rw [htarget] at hsome
  rcases determineFailClosed_cases output.mismatches with hnone | ⟨hblock, -⟩ | ⟨hreview, -⟩
  · rw [hnone] at hsome
    cases hsome
  · rw [hblock] at hsome
    obtain rfl := Option.some.inj hsome
    decide
  · rw [hreview] at hsome
    obtain rfl := Option.some.inj hsome
    decide

/-- a mismatch that asks for a manual review has a reason of its own, or is about the closed-order window -/
theorem requiresManualReview_cases {mismatchType : ReconcileMismatchType}
    (h : requiresManualReview mismatchType = true) :
    mismatchType ∈ reviewReasonTypes ∨ mismatchType = .closedOrderWindowExceeded := by
  cases mismatchType <;> simp [requiresManualReview, reviewReasonTypes] at h ⊢

theorem reviewReasonTypes_review {mismatchType : ReconcileMismatchType} (h : mismatchType ∈ reviewReasonTypes) :
    requiresManualReview mismatchType = true := by
  cases mismatchType <;> simp [requiresManualReview, reviewReasonTypes] at h ⊢

/-- the states that a manual review would be stronger than -/
def openToReview : List KillSwitchState := [.normal, .newOrdersBlocked, .strategyPaused]

theorem Handled.closes_iff {run : ReconcileRun} (h : Handled run) (hneeds : NeedsKillSwitch run.engineOutput) :
    ∃ before after, run.before = some before ∧ run.after = some after ∧
      (ClosesFarEnough run.engineOutput after ↔ ¬ (OnlyWindowExceeded run.engineOutput ∧ before ∈ openToReview)) := by
  obtain ⟨before, targetState, reasonCode, hrequest, hbefore, hafter⟩ := h.transaction hneeds
  refine ⟨before, _, hbefore, hafter, ?_⟩
  unfold requestedControl at hrequest
  split_ifs at hrequest with hadvance
  · -- an order that has moved on asks for a manual review under its own reason
    obtain ⟨rfl, rfl⟩ := Prod.mk.inj (Option.some.inj hrequest)
    have hlive : isLiveReconcileReason "live_reconcile_state_advancement_pending" = true := by decide +kernel
    have hcovers := controlledState_manualReview hlive (by decide +kernel) before
    exact iff_of_true (closesFarEnough_of_manualReview h.target hcovers) fun hwindow => hadvance hwindow.1.1
  · obtain ⟨control, hcontrol, hpair⟩ := Option.map_eq_some_iff.1 hrequest
    obtain ⟨rfl, rfl⟩ := Prod.mk.inj hpair
    unfold toKillSwitchControlTarget at hcontrol
    rcases determineFailClosed_cases run.engineOutput.mismatches with hnone | ⟨hblock, hplain⟩ | ⟨hreview, hone⟩
    · have hclosed : run.engineOutput.failClosed = true := hneeds.resolve_right hadvance
      rw [h.failClosed, hnone] at hclosed
      cases hclosed
    · -- no mismatch asks for a manual review: the reason is that of a plain mismatch
      rw [h.target, hblock] at hcontrol
      obtain rfl := Option.some.inj hcontrol
      have hnotype : ∀ mismatchType, requiresManualReview mismatchType = true →
          hasEngineMismatch run.engineOutput mismatchType = false := by
        intro mismatchType hrequires
        rw [Bool.eq_false_iff]
        intro hhas
        obtain ⟨mismatch, hmem, rfl⟩ := hasEngineMismatch_iff.1 hhas
        rw [hplain mismatch hmem] at hrequires
        cases hrequires
      rcases toKillSwitchReasonCode_cases run.engineOutput with ⟨⟨mismatchType, htype, hhas⟩, -⟩ | ⟨-, hreason⟩
      · rw [hnotype mismatchType (reviewReasonTypes_review htype)] at hhas
        cases hhas
      · rw [hreason]
        have hcovers := controlledState_block before
        refine iff_of_true ⟨newOrdersBlocked_of_covers rfl hcovers, fun target hsome => ?_⟩ fun hwindow => ?_
        · rw [h.target, hblock] at hsome
          obtain rfl := Option.some.inj hsome
          exact hcovers
        · have hhas := hwindow.1.2.1
          rw [hnotype _ rfl] at hhas
          cases hhas
    · rw [h.target, hreview] at hcontrol
      obtain rfl := Option.some.inj hcontrol
      rcases toKillSwitchReasonCode_cases run.engineOutput with ⟨⟨mismatchType, htype, hhas⟩, hreason⟩ | ⟨hothers, hreason⟩
      · have hcovers := controlledState_manualReview hreason.live hreason.target before
        refine iff_of_true (closesFarEnough_of_manualReview h.target hcovers) fun hwindow => ?_
        rw [hwindow.1.2.2 mismatchType htype] at hhas
        cases hhas
      · -- the reason speaks for blocking new orders, so the request is turned down
        obtain ⟨mismatch, hmem, hrequires⟩ := hone
        have hwindow : OnlyWindowExceeded run.engineOutput := by
          refine ⟨not_not.1 hadvance, hasEngineMismatch_iff.2 ⟨mismatch, hmem, ?_⟩, hothers⟩
          rcases requiresManualReview_cases hrequires with htype | htype
          · have hhas : hasEngineMismatch run.engineOutput mismatch.mismatchType = true :=
              hasEngineMismatch_iff.2 ⟨mismatch, hmem, rfl⟩
            rw [hothers _ htype] at hhas
            cases hhas
          · exact htype
        rw [hreason, controlledState_mismatch]
        constructor
        · rintro ⟨-, hcovers⟩ ⟨-, hopen⟩
          have hreviewed := hcovers .manualReviewRequired (h.target.trans hreview)
          simp only [openToReview, List.mem_cons, List.not_mem_nil, or_false] at hopen
          rcases hopen with rfl | rfl | rfl <;> cases hreviewed
        · intro hopen
          refine closesFarEnough_of_manualReview h.target ?_
          have hclosed : before ∉ openToReview := fun hmem => hopen ⟨hwindow, hmem⟩
          cases before <;> simp [openToReview] at hclosed <;> decide

section Runs

variable [Host]

/-- a request as it comes out of `applyFailClosedIfNeeded` -/
theorem applyFailClosedIfNeeded_request {output : ReconcileEngineOutput} {correlationId observedAt actor : String}
    {hasProvider : Bool} {request : KillSwitchControlRequest}
    (h : applyFailClosedIfNeeded output correlationId observedAt actor hasProvider = .ok (some request)) :
    requestedControl output = some (request.targetState, canonicalizeKillSwitchReasonCode request.reasonCode) := by
  unfold applyFailClosedIfNeeded requestedControl at *
  simp only [hasStateAdvancementCandidatesWithoutRuntimeWrite, decide_eq_true_eq, decide_eq_false_iff_not] at h
  split_ifs at h with hnone hprovider hadvance
  · cases pure_eq_ok.1 h
  · obtain rfl := Option.some.inj (pure_eq_ok.1 h)
    have hplain : ∀ c ∈ "live_reconcile_state_advancement_pending".toList, c.isLower ∨ c = '_' :=
      plain_of_all (by decide +kernel)
    rw [if_pos hadvance, canonicalize_plain hplain]
  · obtain ⟨targetState, htarget, rfl⟩ := Option.map_eq_some_iff.1 (pure_eq_ok.1 h)
    have hplain : ∀ c ∈ (toKillSwitchReasonCode output).toList, c.isLower ∨ c = '_' := by
      rcases toKillSwitchReasonCode_cases output with ⟨-, hreview⟩ | ⟨-, hreason⟩
      · exact hreview.plain
      · rw [hreason]
        exact plain_of_all (by decide +kernel)
    rw [if_neg hadvance, htarget, canonicalize_plain hplain, Option.map_some]

theorem Handled.applyControl {world : World} {input : ReconcileEngineInput} {output : ReconcileEngineOutput}
    {request : KillSwitchControlRequest} (hengine : runReconcileEngine input = .ok output)
    (hrequest : requestedControl output = some (request.targetState, canonicalizeKillSwitchReasonCode request.reasonCode))
    (h : ∀ run ∈ world.inFlight, Handled run) : ∀ run ∈ (world.applyControl output request).inFlight, Handled run := by
  obtain ⟨htarget, hclosed⟩ := runReconcileEngine_decision hengine
  unfold World.applyControl
  split
  · exact h
  · rename_i database result hresult
    intro run hrun
    rcases List.mem_append.1 hrun with hold | hnew
    · exact h run hold
    · obtain rfl := List.mem_singleton.1 hnew
      refine ⟨htarget, hclosed, fun _ => ?_⟩
      cases hrow : world.database.killSwitchState with
      | none => simp [applyPostgresKillSwitchControl, hrow, throw, throwThe, MonadExceptOf.throw] at hresult
      | some row =>
        have hafter := apply_state hrow request
        rw [hresult] at hafter
        exact ⟨row.state, request.targetState, _, hrequest, by simp [durableState, hrow], hafter⟩

/-- every run in the world is known -/
def World.AllHandled (world : World) : Prop :=
  (∀ run ∈ world.inFlight, Handled run) ∧ ∀ run ∈ world.resolved, Handled run

theorem World.applyControl_resolved (world : World) (output : ReconcileEngineOutput)
    (request : KillSwitchControlRequest) : (world.applyControl output request).resolved = world.resolved := by
  unfold World.applyControl
  split <;> rfl

theorem World.AllHandled.step {world : World} (h : world.AllHandled) (event : WorldEvent) :
    (world.step event).AllHandled := by
  cases event with
  | control request => exact h
  | snapshotFailed correlationId observedAt actor hasProvider =>
    simp only [World.step]
    split_ifs
    · exact h
    · exact h
  | reconcile engineInput correlationId actor hasProvider =>
    simp only [World.step]
    split
    · exact h
    · rename_i output hengine
      split
      · exact h
      · rename_i hask
        obtain ⟨htarget, hclosed⟩ := runReconcileEngine_decision hengine
        refine ⟨fun run hrun => ?_, h.2⟩
        rcases List.mem_append.1 hrun with hold | hnew
        · exact h.1 run hold
        · obtain rfl := List.mem_singleton.1 hnew
          exact ⟨htarget, hclosed, fun hneeds => absurd hneeds (applyFailClosedIfNeeded_none htarget hask)⟩
      · rename_i request hask
        refine ⟨Handled.applyControl hengine (applyFailClosedIfNeeded_request hask) h.1, ?_⟩
        rw [World.applyControl_resolved]
        exact h.2
  | finish index persisted =>
    simp only [World.step]
    split
    · exact h
    · rename_i finished hfinished
      have hmem : finished ∈ world.inFlight := List.mem_of_getElem? hfinished
      refine ⟨fun run hrun => h.1 run (List.mem_of_mem_eraseIdx hrun), fun run hrun => ?_⟩
      split_ifs at hrun
      · rcases List.mem_append.1 hrun with hold | hnew
        · exact h.2 run hold
        · obtain rfl := List.mem_singleton.1 hnew
          exact h.1 run hmem
      · exact h.2 run hrun

theorem World.AllHandled.run (database : KillSwitchDatabase) (events : List WorldEvent) :
    (World.run database events).AllHandled := by
  unfold World.run
  induction events using List.reverseRecOn with
  | nil => exact ⟨by simp, by simp⟩
  | append_singleton events event ih =>
    rw [List.foldl_append]
    exact ih.step event

end Runs

/-- nothing to reconcile but a balance row on each side and the closed-order window -/
def bareInput (exchangeLocked : String) (windowExhausted : Bool) : ReconcileEngineInput where
  exchangeOpenOrders := []
  exchangeClosedOrders := []
  orderLookups := []
  websocketContext := ⟨some ⟨some 0, "1970-01-01T00:00:00.000Z"⟩, [], none⟩
  localOpenOrders := []
  localBalances := some [⟨"KRW", "10", "0", "10"⟩]
  exchangeBalances := some [⟨"KRW", "10", exchangeLocked, "10"⟩]
  closedOrderWindow := ⟨⟨some 0, "1970-01-01T00:00:00.000Z"⟩, ⟨some 1, "1970-01-01T00:00:00.001Z"⟩, windowExhausted⟩
  observedAt := "1970-01-01T00:00:00.001Z"

/-- one run from NORMAL that resolves -/
def soleRun (engineInput : ReconcileEngineInput) : World :=
  World.run ⟨some ⟨.normal, "initial", "initial"⟩, [], [], []⟩
    [.reconcile engineInput "correlation-1" "live-reconcile-runtime" true, .finish 0 true]

end SeeMirai.Reconcile
