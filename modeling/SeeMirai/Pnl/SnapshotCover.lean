/-
What a selected snapshot stands for. Coverage is decided by strategy and market alone: no time is compared. So a fill
made after the snapshot that covers its scope is left out of the replay like the ones before it, and the calculation can
still be CALCULATED. The snapshot is the first source of its scope, and the fills below it are not counted again.

Results:
- `calculated_from`: what the realised and the unrealised PnL of a CALCULATED result are taken from.
- `later_fill_hidden`: a sale after the snapshot of its scope, left out of every total without a missing reason.
-/
import SeeMirai.Pnl.OrderIndependence
import SeeMirai.Pnl.Completeness

namespace SeeMirai.Pnl

open Fallible

section Cover

variable [Host]

/-- a fill of positive quantity is made no later than the selected snapshots that cover its scope were taken -/
def CoversNoLaterFill (input : PnLAccountingInput) : Prop :=
  ∀ s ∈ selectedSnapshots input, ∀ f ∈ input.fills, isSnapshotCovered [s] f.strategyId f.market = true →
    0 < amount f.quantity → ∀ filled captured, f.filledAt.millis = some filled → s.capturedAt.millis = some captured →
      filled ≤ captured

/-- what the amounts of a calculation are taken from: in the scopes of the selected snapshots these snapshots, in all
other scopes the replay of the fills -/
structure TakenFrom (input : PnLAccountingInput) (r : Replay) (cashKrw : Option ℚ) (marks : MarkPrices)
    (out : PnLAccountingOutput) : Prop where
  replay : ReplayRun input r
  latest : ∀ s ∈ r.selection.snapshots, IsLatest input.pnlSnapshots s
  covered : ∀ f ∈ r.ledgerFills, isSnapshotCovered r.selection.snapshots f.strategyId f.market = false
  replayed : r.ledgerFills.Perm
    (input.fills.filter (fun f => isSnapshotCovered r.selection.snapshots f.strategyId f.market = false))
  realized : out.realizedPnlKrw = sumDecimalParts
    [(decide (r.selection.snapshots ≠ []), r.totals.realizedPnlKrw),
      (decide (r.ledgerFills ≠ [] ∨ r.collected.fallbackPositions ≠ [] ∨ r.collected.reconciledPositions ≠ []),
        some r.ledger.realizedPnlKrw)]
  unrealized : out.unrealizedPnlKrw = sumDecimalParts
    [(decide (r.selection.snapshots ≠ []), r.totals.unrealizedPnlKrw),
      (decide (r.ledgerFills ≠ [] ∨ r.collected.fallbackPositions ≠ [] ∨ r.collected.reconciledPositions ≠ []),
        sumKnown ((valuate input r cashKrw marks).details.map (·.2.unrealizedPnlKrw)))]
  fees : ∃ fees, out.feeTotals = buildFeeTotals fees ∧ ∀ currency, fees.get currency = feesIn input.fills currency

section Valuate

variable {input : PnLAccountingInput} {r : Replay} {cashKrw : Option ℚ} {marks : MarkPrices}

omit [Host] in
theorem valuate_realized_eq (hunknown : r.collected.hasUnknownReconcilePosition = false)
    (hgaps : r.collected.positionRealizedGapScopes = []) (hdata : hasTradingData r) :
    (valuate input r cashKrw marks).realizedPnlKrw = sumDecimalParts
      [(decide (r.selection.snapshots ≠ []), r.totals.realizedPnlKrw),
        (decide (r.ledgerFills ≠ [] ∨ r.collected.fallbackPositions ≠ [] ∨ r.collected.reconciledPositions ≠ []),
          some r.ledger.realizedPnlKrw)] := by
  unfold hasTradingData at hdata
  unfold valuate
  simp only [hunknown, hgaps]
  rw [if_pos (by simpa [or_assoc] using hdata), if_neg (by simp)]
  simp [Bool.or_assoc]

omit [Host] in
theorem valuate_unrealized_eq (hunknown : r.collected.hasUnknownReconcilePosition = false) (hdata : hasTradingData r) :
    (valuate input r cashKrw marks).unrealizedPnlKrw = sumDecimalParts
      [(decide (r.selection.snapshots ≠ []), r.totals.unrealizedPnlKrw),
        (decide (r.ledgerFills ≠ [] ∨ r.collected.fallbackPositions ≠ [] ∨ r.collected.reconciledPositions ≠ []),
          sumKnown ((valuate input r cashKrw marks).details.map (·.2.unrealizedPnlKrw)))] := by
  unfold hasTradingData at hdata
  unfold valuate
  simp only [hunknown]
  rw [if_pos (by simpa [or_assoc] using hdata), if_neg (by simp), if_neg (by simp)]
  simp [Bool.or_assoc]

end Valuate

theorem selectedSnapshots_latest {snapshots : List PnLSnapshotFact} {selection : SnapshotSelection}
    (h : selectEffectiveSnapshots snapshots = .ok selection) : ∀ s ∈ selection.snapshots, IsLatest snapshots s := by
  intro s hs
  obtain ⟨latest, hrun, hspec⟩ := selectEffectiveSnapshots_run h
  have hlookup := ((hspec.mem s).1 hs).1
  exact (kept_of_run hrun).newest _ _ s hlookup

/-- every fee is counted, whatever covers its fill -/
theorem feeTotals_of {input : PnLAccountingInput} {out : PnLAccountingOutput}
    (h : calculatePnLAccounting input = .ok out) :
    ∃ fees, out.feeTotals = buildFeeTotals fees ∧
      ∀ currency, fees.get currency = feesIn (applyTargetScopeFilter input).fills currency := by
  obtain ⟨calculated, hcalculated, hout⟩ := map_eq_ok.1 h
  obtain ⟨r, -, hcalculated⟩ := bind_eq_ok.1 hcalculated
  obtain ⟨⟨v, out'⟩, ha, hcalculated⟩ := bind_eq_ok.1 hcalculated
  obtain rfl : out' = out := by rw [← hout, ← pure_eq_ok.1 hcalculated]
  obtain ⟨_, -, ha⟩ := bind_eq_ok.1 ha
  obtain ⟨_, -, ha⟩ := bind_eq_ok.1 ha
  obtain ⟨fees, hfees, ha⟩ := bind_eq_ok.1 ha
  obtain ⟨_, -, ha⟩ := bind_eq_ok.1 ha
  obtain ⟨_, -, ha⟩ := bind_eq_ok.1 ha
  obtain ⟨_, -, ha⟩ := bind_eq_ok.1 ha
  obtain ⟨_, -, ha⟩ := bind_eq_ok.1 ha
  obtain ⟨_, -, ha⟩ := bind_eq_ok.1 ha
  obtain ⟨_, -, ha⟩ := bind_eq_ok.1 ha
  obtain ⟨_, -, ha⟩ := bind_eq_ok.1 ha
  obtain ⟨_, -, ha⟩ := bind_eq_ok.1 ha
  cases pure_eq_ok.1 ha
  exact ⟨fees, rfl, aggregateFees_get hfees⟩

/-- **A snapshot stands for its whole scope.** The amounts of a CALCULATED result are those of the latest snapshots of
their scopes and of the replay of exactly the fills outside these scopes, at whatever time a fill was made; the fees are
those of all fills. -/
theorem calculated_from {input : PnLAccountingInput} {out : PnLAccountingOutput}
    (h : calculatePnLAccounting input = .ok out) (hstatus : out.status = .calculated) :
    ∃ r cashKrw marks, TakenFrom (applyTargetScopeFilter input) r cashKrw marks out := by
  obtain ⟨r, cashKrw, marks, hrun⟩ := calculatedRun_of h hstatus
  obtain ⟨hcollected, -, -⟩ := valuate_reasons hrun.valuation
  obtain ⟨hunknown, hgaps, hblocked, -⟩ := collected_explained hrun.replay hcollected
  have hdata := hrun.data.trading hrun.replay hblocked
  have hfills := hrun.replay.uncovered hblocked
  unfold uncoveredFills at hfills
  rw [hrun.replay.selected] at hfills
  refine ⟨r, cashKrw, marks, hrun.replay, selectedSnapshots_latest hrun.replay.selection, ?_, ?_, ?_, ?_,
    feeTotals_of h⟩
  · intro f hf
    rw [← hfills, mem_stableSort] at hf
    exact of_decide_eq_true (List.mem_filter.1 hf).2
  · rw [← hfills]
    exact stableSort_perm
  · rw [hrun.realized]
    exact valuate_realized_eq hunknown hgaps hdata
  · rw [hrun.unrealized]
    exact valuate_unrealized_eq hunknown hdata

end Cover

/-! ## A later sale -/

/-- a snapshot taken at 1 with a profit of 5, and a sale in its scope at 2 -/
def soldAfterSnapshot : PnLAccountingInput :=
  { tradingInput [fillAt .sell "1" "20" 2] [] with
    pnlSnapshots := [⟨"s", some "KRW-BTC", .at 1, "100", "5", "0", "0", none⟩]
    cash := some ⟨"100", "0", "100", "db", .at 2⟩
    costQuality := [⟨"s", "KRW-BTC", some "1", some "1", some "1", "db"⟩] }

/-- the sale is counted nowhere but in the fees, and the result is CALCULATED without a missing reason -/
theorem later_fill_hidden : ∃ out, calculatePnLAccounting soldAfterSnapshot = .ok out ∧ out.status = .calculated ∧
    out.missingReasons = [] ∧ out.realizedPnlKrw = some 5 ∧
    uncoveredFills (applyTargetScopeFilter soldAfterSnapshot) = [] ∧
    ¬ CoversNoLaterFill (applyTargetScopeFilter soldAfterSnapshot) := by
  obtain ⟨out, h⟩ := exists_ok (show (calculatePnLAccounting soldAfterSnapshot).toOption.isSome by decide +kernel)
  have hout : (calculatePnLAccounting soldAfterSnapshot).toOption.map
      (fun out => (out.status, out.missingReasons, out.realizedPnlKrw)) = some (.calculated, [], some 5) := by
    decide +kernel
  rw [h] at hout
  simp only [Except.toOption, Option.map_some, Option.some.injEq, Prod.mk.injEq] at hout
  obtain ⟨hstatus, hreasons, hrealized⟩ := hout
  refine ⟨out, h, hstatus, hreasons, hrealized, by decide +kernel, fun hcovers => ?_⟩
  have hselected : selectedSnapshots (applyTargetScopeFilter soldAfterSnapshot) = soldAfterSnapshot.pnlSnapshots := by
    decide +kernel
  have hlater := hcovers ⟨"s", some "KRW-BTC", .at 1, "100", "5", "0", "0", none⟩
    (by rw [hselected]; exact List.mem_singleton_self _)
    (fillAt .sell "1" "20" 2) (by decide +kernel) (by decide +kernel) (by decide +kernel) 2 1 rfl rfl
  exact absurd hlater (by decide)

/-- the amounts of the result above come from its snapshot -/
theorem sold_after_snapshot_from : ∃ out r cashKrw marks, calculatePnLAccounting soldAfterSnapshot = .ok out ∧
    TakenFrom (applyTargetScopeFilter soldAfterSnapshot) r cashKrw marks out := by
  obtain ⟨out, h⟩ := exists_ok (show (calculatePnLAccounting soldAfterSnapshot).toOption.isSome by decide +kernel)
  have hstatus : (calculatePnLAccounting soldAfterSnapshot).toOption.map (·.status) = some .calculated := by
    decide +kernel
  rw [h] at hstatus
  obtain ⟨r, cashKrw, marks, htaken⟩ := calculated_from h (by simpa [Except.toOption] using hstatus)
  exact ⟨out, r, cashKrw, marks, h, htaken⟩

end SeeMirai.Pnl
