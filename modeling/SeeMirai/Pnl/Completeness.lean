/-
What the status CALCULATED promises. The status is read off the missing reasons and the scopes, the amounts are nulled
by conditions of their own, so each way to a null has to leave a reason. All do but one: a lot that was bought for
nothing has a cost basis of zero, and the calculator takes a cost basis of zero for an unknown one.

Results:
- `collected_explained`: every gap, unknown holding, blocked scope and unpriced lot leaves a missing reason.
- `Evident.of_opening`: which opening fact decides whether a scope has an average entry price.
- `holding_of_replay`: a scope's cost basis is positive exactly if some of what it holds was paid for.
- `calculated_complete_iff`: under CALCULATED all amounts are there, unless a scope holds only what cost nothing.
-/
import SeeMirai.Pnl.Seeds

namespace SeeMirai.Pnl

open Fallible

/-! ## Lists of reasons -/

/-- an optional reason: without one, the condition did not hold and nothing was added -/
theorem addMissingReasonOnce_if {c : Prop} [Decidable c] {reasons : List PnLMissingReason} {reason : PnLMissingReason}
    (h : (if c then addMissingReasonOnce reasons reason else reasons) = []) : ¬ c ∧ reasons = [] := by
  split_ifs at h with hc
  · exact absurd h (addMissingReasonOnce_ne_nil _ _)
  · exact ⟨hc, h⟩

theorem appendCostQualityMissingReasons_nil {reasons : List PnLMissingReason} {required : List (String × String)}
    {facts : List PnLCostQualityFact} (h : appendCostQualityMissingReasons reasons required facts = []) :
    reasons = [] := by
  by_contra hne
  refine List.foldlRecOn (motive := (· ≠ [])) required _ hne (fun reasons hreasons scope _ => ?_) h
  refine List.foldlRecOn (motive := (· ≠ [])) _ _ hreasons (fun reasons hreasons field _ => ?_)
  split_ifs
  · exact hreasons
  · exact addMissingReasonOnce_ne_nil _ _

theorem determineStatus_calculated {scopes : List PnLAccountingScope} {reasons : List PnLMissingReason}
    {input : PnLAccountingInput} (h : determineStatus scopes reasons input = .calculated) :
    scopes ≠ [] ∧ reasons = [] ∧ ∀ scope ∈ scopes, scope.status = .calculated := by
  unfold determineStatus at h
  split_ifs at h with hnil hmanual hunavailable hpartial hreasons hall
  exact ⟨hnil, not_not.1 hreasons, by simpa using hall⟩

theorem sumKnown_eq_none {parts : List (Option ℚ)} : sumKnown parts = none ↔ none ∈ parts := by
  induction parts with
  | nil => simp [sumKnown]
  | cons part parts ih =>
    cases part with
    | none => simp [sumKnown]
    | some x =>
      cases hrest : sumKnown parts with
      | none => simp [sumKnown, hrest, ih.1 hrest]
      | some rest =>
        have hnot : none ∉ parts := fun hmem => by rw [ih.2 hmem] at hrest; cases hrest
        simp [sumKnown, hrest, hnot]

section Completeness

variable [Host]

theorem appendNonKrwFeeMissingReasons_nil {reasons reasons' : List PnLMissingReason} {fills : List PnLFillFact}
    (h : appendNonKrwFeeMissingReasons reasons fills = .ok reasons') (hnil : reasons' = []) : reasons = [] := by
  by_contra hne
  refine foldlM_keeps (· ≠ []) (fun b fill b' _ hstep hb => ?_) h hne hnil
  unfold appendNonKrwFee at hstep
  split_ifs at hstep
  · obtain rfl := pure_eq_ok.1 hstep
    exact hb
  · obtain ⟨fee, -, hstep⟩ := bind_eq_ok.1 hstep
    split_ifs at hstep
    · obtain rfl := pure_eq_ok.1 hstep
      exact hb
    · obtain rfl := pure_eq_ok.1 hstep
      exact addMissingReasonOnce_ne_nil _ _

/-! ## Every gap is explained -/

/-- nothing suppresses an amount without a reason -/
structure Explained (acc : Collected) : Prop where
  unknown : acc.hasUnknownReconcilePosition = true → acc.missingReasons ≠ []
  gaps : acc.positionRealizedGapScopes ≠ [] → acc.missingReasons ≠ []
  blocked : acc.blockedFillReplayScopes ≠ [] → acc.missingReasons ≠ []

omit [Host] in
theorem Explained.of_reason {acc : Collected} (h : acc.missingReasons ≠ []) : Explained acc :=
  ⟨fun _ => h, fun _ => h, fun _ => h⟩

/-- a reconcile fact gives a reason, or changes neither the flags nor the reasons -/
theorem collectReconcile_reasons {input : PnLAccountingInput} {snapshots : List PnLSnapshotFact} {r : PnLReconcileFact}
    {acc acc' : Collected} (h : collectReconcile input snapshots acc r = .ok acc') :
    acc'.missingReasons ≠ [] ∨ ∃ reconciled, acc' = { acc with reconciledPositions := reconciled } := by
  unfold collectReconcile at h
  split at h
  · exact Or.inr ⟨_, (pure_eq_ok.1 h).symm⟩
  · simp only at h
    split at h
    · split at h
      · exact Or.inr ⟨_, (pure_eq_ok.1 h).symm⟩
      · obtain rfl := pure_eq_ok.1 h
        exact Or.inl (by simp [Collected.unknownReconcile, Collected.addReason])
    · obtain ⟨required, -, h⟩ := bind_eq_ok.1 h
      split at h
      · exact Or.inr ⟨_, (pure_eq_ok.1 h).symm⟩
      · split at h
        · exact Or.inr ⟨_, (pure_eq_ok.1 h).symm⟩
        · obtain ⟨late, -, h⟩ := bind_eq_ok.1 h
          split at h
          · obtain rfl := pure_eq_ok.1 h
            exact Or.inl (by simp [Collected.unknownReconcile, Collected.addReason])
          · split at h
            · obtain rfl := pure_eq_ok.1 h
              exact Or.inl (by simp [Collected.unknownReconcile, Collected.addReason])
            · obtain rfl := pure_eq_ok.1 h
              split_ifs
              · exact Or.inl (by simp [Collected.unknownReconcile, Collected.addReason])
              · exact Or.inr ⟨_, rfl⟩

/-- the same of a position fact, which then is priced if there is something to hold -/
theorem collectPosition_reasons {input : PnLAccountingInput} {snapshots : List PnLSnapshotFact} {p : PnLPositionFact}
    {acc acc' : Collected} (h : collectPosition input snapshots acc p = .ok acc') :
    acc'.missingReasons ≠ [] ∨
      ((∃ opening fallback, acc' = { acc with openingSeedPositions := opening, fallbackPositions := fallback }) ∧
        (positionOpens input snapshots p = true → 0 < amount p.quantity → p.averageEntryPrice ≠ none)) := by
  unfold collectPosition at h
  split_ifs at h with hcov
  · exact Or.inr ⟨⟨_, _, (pure_eq_ok.1 h).symm⟩, fun hopens => by simp [positionOpens, hcov] at hopens⟩
  · obtain ⟨required, -, h⟩ := bind_eq_ok.1 h
    obtain ⟨late, -, h⟩ := bind_eq_ok.1 h
    obtain ⟨quantity, hquantity, h⟩ := bind_eq_ok.1 h
    obtain rfl := pure_eq_ok.1 h
    rw [amount_of_parse hquantity]
    unfold Collected.notePosition Collected.noteUnpriced
    simp only
    split_ifs <;>
      simp_all [Collected.noteUnadjusted, Collected.blockLate, Collected.addReason, Collected.openWith, Collected.block,
        Collected.addGap]

/-- **Every suppressed amount is explained**, and without a reason every opening lot has a price. -/
theorem collected_explained {input : PnLAccountingInput} {r : Replay} (h : ReplayRun input r)
    (hnil : r.collected.missingReasons = []) :
    r.collected.hasUnknownReconcilePosition = false ∧ r.collected.positionRealizedGapScopes = [] ∧
      r.collected.blockedFillReplayScopes = [] ∧
      ∀ p ∈ input.positions, positionOpens input r.selection.snapshots p = true → 0 < amount p.quantity →
        p.averageEntryPrice ≠ none := by
  obtain ⟨mid, hmid, hcol⟩ := h.collected
  have hexplained : Explained r.collected := by
    refine foldlM_keeps Explained (fun acc p acc' _ hstep hacc => ?_) hcol
      (foldlM_keeps Explained (fun acc rec acc' _ hstep hacc => ?_) hmid ?_)
    · rcases collectPosition_reasons hstep with hreason | ⟨⟨opening, fallback, rfl⟩, -⟩
      · exact Explained.of_reason hreason
      · exact ⟨hacc.unknown, hacc.gaps, hacc.blocked⟩
    · rcases collectReconcile_reasons hstep with hreason | ⟨reconciled, rfl⟩
      · exact Explained.of_reason hreason
      · exact ⟨hacc.unknown, hacc.gaps, hacc.blocked⟩
    · exact ⟨fun h => absurd h (by simp [initialCollected]), fun h => absurd rfl h, fun h => absurd rfl h⟩
  -- a reason, once given, stays, so a run that ends without one met no unpriced lot
  have hpriced : r.collected.missingReasons ≠ [] ∨ ∀ p ∈ input.positions,
      positionOpens input r.selection.snapshots p = true → 0 < amount p.quantity → p.averageEntryPrice ≠ none := by
    refine foldlM_history (fun visited acc => acc.missingReasons ≠ [] ∨ ∀ p ∈ visited,
      positionOpens input r.selection.snapshots p = true → 0 < amount p.quantity → p.averageEntryPrice ≠ none)
      (Or.inr (by simp)) (fun visited p acc acc' hacc hstep => ?_) hcol
    rcases collectPosition_reasons hstep with hreason | ⟨⟨opening, fallback, rfl⟩, hp⟩
    · exact Or.inl hreason
    · refine hacc.imp id (fun hvisited q hq => ?_)
      rcases List.mem_append.1 hq with hq | hq
      · exact hvisited q hq
      · rw [List.mem_singleton.1 hq]
        exact hp
  refine ⟨?_, ?_, ?_, hpriced.resolve_left (not_not.2 hnil)⟩
  · exact Bool.eq_false_iff.2 fun hunknown => hexplained.unknown hunknown hnil
  · exact by_contra fun hgaps => hexplained.gaps hgaps hnil
  · exact by_contra fun hblocked => hexplained.blocked hblocked hnil

theorem collectPosition_fallback {input : PnLAccountingInput} {snapshots : List PnLSnapshotFact} {p : PnLPositionFact}
    {acc acc' : Collected} (h : collectPosition input snapshots acc p = .ok acc')
    (hp : acc.fallbackPositions ≠ [] ∨ isSnapshotCovered snapshots p.strategyId p.market = false) :
    acc'.fallbackPositions ≠ [] := by
  unfold collectPosition at h
  split at h
  · rename_i hcov
    obtain rfl := pure_eq_ok.1 h
    rw [hcov] at hp
    exact hp.resolve_right (by simp)
  · obtain ⟨required, -, h⟩ := bind_eq_ok.1 h
    obtain ⟨late, -, h⟩ := bind_eq_ok.1 h
    obtain ⟨quantity, -, h⟩ := bind_eq_ok.1 h
    obtain rfl := pure_eq_ok.1 h
    simp [Collected.notePosition]

/-- a position no snapshot covers is a fallback position -/
theorem collected_fallback {input : PnLAccountingInput} {r : Replay} (h : ReplayRun input r) {p : PnLPositionFact}
    (hmem : p ∈ input.positions) (huncovered : isSnapshotCovered r.selection.snapshots p.strategyId p.market = false) :
    r.collected.fallbackPositions ≠ [] := by
  obtain ⟨mid, -, hcol⟩ := h.collected
  refine foldlM_history (fun visited acc => (∃ p ∈ visited,
    isSnapshotCovered r.selection.snapshots p.strategyId p.market = false) → acc.fallbackPositions ≠ [])
    (by simp) (fun visited q acc acc' hacc hstep => ?_) hcol ⟨p, hmem, huncovered⟩
  rintro ⟨p, hp, huncovered⟩
  rcases List.mem_append.1 hp with hp | hp
  · exact collectPosition_fallback hstep (Or.inl (hacc ⟨p, hp, huncovered⟩))
  · rw [List.mem_singleton.1 hp] at huncovered
    exact collectPosition_fallback hstep (Or.inr huncovered)

/-! ## Scopes rest on data -/

/-- something the scope of a source could be calculated from -/
def HasData (input : PnLAccountingInput) (snapshots : List PnLSnapshotFact) (fills : List PnLFillFact) : Prop :=
  snapshots ≠ [] ∨ fills ≠ [] ∨
    (∃ r ∈ input.reconcileFacts, isSnapshotCovered snapshots r.strategyId r.market = false ∧
      r.recoveryStatus = "RECOVERABLE" ∧ isPositionCovered input.positions r.strategyId r.market = false ∧
      r.averageEntryPrice ≠ none) ∨
    ∃ p ∈ input.positions, isSnapshotCovered snapshots p.strategyId p.market = false

/-- the calculated scopes collected so far rest on data -/
def Grounded (data : Prop) (acc : ScopeAcc) : Prop := ∀ scope ∈ acc.scopes, scope.status = .calculated → data

omit [Host] in
theorem Grounded.add {data : Prop} {acc : ScopeAcc} (h : Grounded data acc) {key : String} {scope : PnLAccountingScope}
    (hscope : scope.status = .calculated → data) : Grounded data (acc.add key scope) := by
  intro other hother hstatus
  rcases List.mem_append.1 hother with hold | hnew
  · exact h other hold hstatus
  · rw [List.mem_singleton.1 hnew] at hstatus
    exact hscope hstatus

section Scopes

variable {input : PnLAccountingInput} {snapshots : List PnLSnapshotFact} {fills : List PnLFillFact} {ledger : Ledger}
  {capturedAt : Int} {acc acc' : ScopeAcc}

omit [Host] in
theorem addSnapshotScope_grounded {s : PnLSnapshotFact} (hmem : s ∈ snapshots)
    (h : addSnapshotScope input acc s = .ok acc') (hacc : Grounded (HasData input snapshots fills) acc) :
    Grounded (HasData input snapshots fills) acc' := by
  unfold addSnapshotScope at h
  simp only at h
  split at h
  · exact pure_eq_ok.1 h ▸ hacc
  · obtain ⟨time, -, h⟩ := bind_eq_ok.1 h
    obtain rfl := pure_eq_ok.1 h
    exact hacc.add fun _ => Or.inl (List.ne_nil_of_mem hmem)

omit [Host] in
theorem addReviewScope_grounded {r : PnLReconcileFact} (h : addReviewScope input snapshots fills acc r = .ok acc')
    (hacc : Grounded (HasData input snapshots fills) acc) : Grounded (HasData input snapshots fills) acc' := by
  unfold addReviewScope at h
  split at h
  · exact pure_eq_ok.1 h ▸ hacc
  · obtain ⟨time, -, h⟩ := bind_eq_ok.1 h
    obtain rfl := pure_eq_ok.1 h
    exact hacc.add fun hstatus => by cases hstatus

omit [Host] in
theorem resolveFillScopes_ne_nil (h : (resolveFillScopes fills).entries ≠ []) : fills ≠ [] := by
  rintro rfl
  exact h rfl

omit [Host] in
theorem addFillScope_grounded {entry : String × String × Option String} (hmem : entry ∈ (resolveFillScopes fills).entries)
    (h : addFillScope input fills ledger capturedAt acc entry = .ok acc')
    (hacc : Grounded (HasData input snapshots fills) acc) : Grounded (HasData input snapshots fills) acc' := by
  unfold addFillScope at h
  simp only at h
  split at h
  · exact pure_eq_ok.1 h ▸ hacc
  · obtain ⟨time, -, h⟩ := bind_eq_ok.1 h
    obtain rfl := pure_eq_ok.1 h
    exact hacc.add fun _ => Or.inr (Or.inl (resolveFillScopes_ne_nil (List.ne_nil_of_mem hmem)))

theorem addRecoverableScope_grounded {r : PnLReconcileFact} (hmem : r ∈ input.reconcileFacts)
    (h : addRecoverableScope input snapshots acc r = .ok acc') (hacc : Grounded (HasData input snapshots fills) acc) :
    Grounded (HasData input snapshots fills) acc' := by
  unfold addRecoverableScope at h
  split at h
  · exact pure_eq_ok.1 h ▸ hacc
  · rename_i hskip
    simp only [not_or, not_not, Bool.not_eq_true] at hskip
    obtain ⟨-, -, huncovered, hrecoverable, hposition⟩ := hskip
    obtain ⟨hasOpen, -, h⟩ := bind_eq_ok.1 h
    obtain ⟨time, -, h⟩ := bind_eq_ok.1 h
    obtain rfl := pure_eq_ok.1 h
    refine hacc.add fun hstatus => Or.inr (Or.inr (Or.inl ⟨r, hmem, huncovered, hrecoverable, hposition, fun hnone => ?_⟩))
    simp [hnone] at hstatus

theorem addPositionScope_grounded {p : PnLPositionFact} (hmem : p ∈ input.positions)
    (h : addPositionScope input snapshots acc p = .ok acc') (hacc : Grounded (HasData input snapshots fills) acc) :
    Grounded (HasData input snapshots fills) acc' := by
  unfold addPositionScope at h
  split at h
  · exact pure_eq_ok.1 h ▸ hacc
  · rename_i hskip
    simp only [not_or, Bool.not_eq_true] at hskip
    obtain ⟨quantity, -, h⟩ := bind_eq_ok.1 h
    obtain ⟨time, -, h⟩ := bind_eq_ok.1 h
    obtain rfl := pure_eq_ok.1 h
    exact hacc.add fun _ => Or.inr (Or.inr (Or.inr ⟨p, hmem, hskip.2.2⟩))

/-- where every scope is calculated there is data: the scope that stands for none is not -/
theorem buildScopes_data {scopes : List PnLAccountingScope}
    (h : buildScopes input snapshots fills ledger capturedAt = .ok scopes)
    (hall : ∀ scope ∈ scopes, scope.status = .calculated) : HasData input snapshots fills := by
  obtain ⟨acc₁, h₁, h⟩ := bind_eq_ok.1 h
  obtain ⟨acc₂, h₂, h⟩ := bind_eq_ok.1 h
  obtain ⟨acc₃, h₃, h⟩ := bind_eq_ok.1 h
  obtain ⟨acc₄, h₄, h⟩ := bind_eq_ok.1 h
  obtain ⟨acc₅, h₅, h⟩ := bind_eq_ok.1 h
  have g₁ := foldlM_keeps (Grounded (HasData input snapshots fills))
    (fun _ _ _ hmem hstep hacc => addSnapshotScope_grounded hmem hstep hacc) h₁ (by simp [Grounded])
  have g₂ := foldlM_keeps (Grounded (HasData input snapshots fills))
    (fun _ _ _ _ hstep hacc => addReviewScope_grounded hstep hacc) h₂ g₁
  have g₃ := foldlM_keeps (Grounded (HasData input snapshots fills))
    (fun _ _ _ hmem hstep hacc => addFillScope_grounded hmem hstep hacc) h₃ g₂
  have g₄ := foldlM_keeps (Grounded (HasData input snapshots fills))
    (fun _ _ _ hmem hstep hacc => addRecoverableScope_grounded hmem hstep hacc) h₄ g₃
  have g₅ := foldlM_keeps (Grounded (HasData input snapshots fills))
    (fun _ _ _ hmem hstep hacc => addPositionScope_grounded hmem hstep hacc) h₅ g₄
  obtain rfl := pure_eq_ok.1 h
  split_ifs at hall with hnil
  · cases hall _ (List.mem_singleton.2 rfl)
  · obtain ⟨scope, hscope⟩ := List.exists_mem_of_ne_nil _ hnil
    exact g₅ scope hscope (hall scope hscope)

end Scopes

/-- the trading data the amounts are summed over -/
def hasTradingData (r : Replay) : Prop :=
  r.ledgerFills ≠ [] ∨ r.collected.fallbackPositions ≠ [] ∨ r.selection.snapshots ≠ [] ∨
    r.collected.reconciledPositions ≠ []

omit [Host] in
theorem isSnapshotCovered_ne_nil {snapshots : List PnLSnapshotFact} {s m : String}
    (h : isSnapshotCovered snapshots s m = true) : snapshots ≠ [] := by
  rintro rfl
  simp [isSnapshotCovered] at h

/-- data for a scope is trading data, where nothing was blocked -/
theorem HasData.trading {input : PnLAccountingInput} {r : Replay} (h : ReplayRun input r)
    (hdata : HasData input r.selection.snapshots r.ledgerFills) (hblocked : r.collected.blockedFillReplayScopes = []) :
    hasTradingData r := by
  rcases hdata with hsnapshots | hfills | ⟨rec, hmem, huncovered, hrecoverable, hposition, havg⟩ | ⟨p, hmem, huncovered⟩
  · exact Or.inr (Or.inr (Or.inl hsnapshots))
  · exact Or.inl hfills
  · cases happlies : reconcileApplies input r.selection.snapshots rec with
    | true =>
      have hlate : isLate input rec.strategyId rec.market rec.reconciledAt = false := by
        rw [Bool.eq_false_iff]
        intro hlate
        have hkey := (h.mem_blocked_iff rec.key).2 (by
          simp only [replayBlocked, Bool.or_eq_true, List.any_eq_true, decide_eq_true_eq]
          exact Or.inl ⟨rec, hmem, by simp [reconcileBlocks, happlies, hlate], rfl⟩)
        rw [hblocked] at hkey
        cases hkey
      have hopens : reconcileOpens input r.selection.snapshots rec = true := by
        simp [reconcileOpens, happlies, hlate, Option.isSome_iff_ne_none.2 havg]
      refine Or.inr (Or.inr (Or.inr ?_))
      rw [h.reconciled]
      exact List.ne_nil_of_mem (List.mem_map_of_mem (List.mem_filter.2 ⟨hmem, hopens⟩))
    | false =>
      -- the scope's own fills explain it, and they are replayed unless a snapshot covers them
      have hfilled : isFillCovered input.fills rec.strategyId rec.market = true := by
        simp only [reconcileApplies, huncovered, hrecoverable, hposition] at happlies
        simp at happlies
        exact happlies.1
      obtain ⟨fill, hfill, -⟩ := List.any_eq_true.1 hfilled
      cases hcovered : isSnapshotCovered r.selection.snapshots fill.strategyId fill.market with
      | true => exact Or.inr (Or.inr (Or.inl (isSnapshotCovered_ne_nil hcovered)))
      | false =>
        refine Or.inl (List.ne_nil_of_mem (a := fill) ((sortFills_perm h.sorted).mem_iff.2 ?_))
        simp [replayableFills, hfill, hcovered, hblocked]
  · exact Or.inr (Or.inl (collected_fallback h hmem huncovered))

/-! ## Opening evidence -/

/-- the fact that decides what is known of a scope's cost: its opening lot, or the last fact if all are flat -/
def openingEvidence (facts : List PnLPositionFact) (key : String) : Option PnLPositionFact :=
  (facts.find? (isLot key)).or (facts.reverse.find? (fun p => p.key = key))

theorem openingEvidence_append_ne {facts : List PnLPositionFact} {p : PnLPositionFact} {key : String} (h : p.key ≠ key) :
    openingEvidence (facts ++ [p]) key = openingEvidence facts key := by
  simp [openingEvidence, List.find?_append, isLot, h]

theorem openingEvidence_append_open {facts : List PnLPositionFact} {p : PnLPositionFact} {key : String}
    (h : (facts.find? (isLot key)).isSome) : openingEvidence (facts ++ [p]) key = openingEvidence facts key := by
  obtain ⟨lot, hlot⟩ := Option.isSome_iff_exists.1 h
  simp [openingEvidence, List.find?_append, hlot]

theorem openingEvidence_append_flat {facts : List PnLPositionFact} {p : PnLPositionFact}
    (h : facts.find? (isLot p.key) = none) : openingEvidence (facts ++ [p]) p.key = some p := by
  cases hlot : isLot p.key p <;> simp [openingEvidence, List.find?_append, h, hlot]

/-- an entry knows a price, or an unrealised PnL to fall back on, exactly if its evidence does -/
structure Evident (facts : List PnLPositionFact) (key : String) (entry : Option PositionLedger) : Prop where
  average : (entry.bind (·.initialAverageEntryPrice)).isSome
    = ((openingEvidence facts key).bind (·.averageEntryPrice)).isSome
  fallback : (entry.bind (·.fallbackUnrealizedPnlKrw)).isSome
    = ((openingEvidence facts key).bind (·.unrealizedPnl)).isSome
  held : (0 < (entry.map (·.quantity)).getD 0) ↔ (facts.find? (isLot key)).isSome

theorem parseOptional_isSome {o : Option String} {r : Option ℚ} (h : parseOptional o = .ok r) : r.isSome = o.isSome := by
  rcases parseOptional_eq_ok h with ⟨rfl, rfl⟩ | ⟨s, q, rfl, rfl, -⟩
  · rfl
  · rfl

/-- one seed: the evidence of the keys it does not write, and of an open lot, stays; a flat key takes the seed's -/
theorem Evident.seed {facts : List PnLPositionFact} {ledger ledger' : Ledger} {p : PnLPositionFact}
    (h : ∀ key, Evident facts key (ledger.positions.get key)) (hquantity : SeedsQuantity p ledger ledger')
    (hstep : (ledger.isOpen p.key = true ∧ ledger' = ledger) ∨
      ∃ entry, ledger.isOpen p.key = false ∧ ledger' = ledger.setPosition p.key entry ∧
        entry.initialAverageEntryPrice.isSome = p.averageEntryPrice.isSome ∧
        entry.fallbackUnrealizedPnlKrw.isSome = p.unrealizedPnl.isSome) (key : String) :
    Evident (facts ++ [p]) key (ledger'.positions.get key) := by
  have hsame : ledger'.positions.get key = ledger.positions.get key →
      (p.key ≠ key ∨ (facts.find? (isLot key)).isSome) → Evident (facts ++ [p]) key (ledger'.positions.get key) := by
    intro hget hor
    rw [hget]
    rcases hor with hne | hopen
    · refine ⟨?_, ?_, ?_⟩
      · rw [openingEvidence_append_ne hne, (h key).average]
      · rw [openingEvidence_append_ne hne, (h key).fallback]
      · rw [(h key).held]
        simp [List.find?_append, isLot, hne]
    · refine ⟨?_, ?_, ?_⟩
      · rw [openingEvidence_append_open hopen, (h key).average]
      · rw [openingEvidence_append_open hopen, (h key).fallback]
      · rw [(h key).held]
        simp [List.find?_append, hopen]
  rcases hstep with ⟨hopen, rfl⟩ | ⟨entry, hclosed, rfl, haverage, hfallback⟩
  · by_cases hkey : p.key = key
    · subst hkey
      exact hsame rfl (Or.inr ((h p.key).held.1 ((isOpen_iff _ _).1 hopen)))
    · exact hsame rfl (Or.inl hkey)
  · by_cases hkey : p.key = key
    · subst hkey
      have hflat : ¬ 0 < ledger.quantityOf p.key := by rw [← isOpen_iff, hclosed]; simp
      have hnone : facts.find? (isLot p.key) = none := by
        rw [← Option.not_isSome_iff_eq_none]
        exact fun hsome => hflat ((h p.key).held.2 hsome)
      have hwritten := hquantity.1 p.key
      rw [if_pos ⟨rfl, hflat⟩] at hwritten
      refine ⟨?_, ?_, ?_⟩
      · rw [openingEvidence_append_flat hnone]
        simpa using haverage
      · rw [openingEvidence_append_flat hnone]
        simpa using hfallback
      · change 0 < (ledger.setPosition p.key entry).quantityOf p.key ↔ _
        rw [hwritten]
        by_cases hpos : 0 < amount p.quantity
        · simp [List.find?_append, hnone, isLot, hpos]
        · simp [List.find?_append, hnone, isLot, hpos]
    · exact hsame (InsertionMap.get_set_ne _ _ hkey) (Or.inl hkey)

/-- the shape of a seed, with what it knows of the cost -/
theorem seedFromPosition_evidence {ledger ledger' : Ledger} {p : PnLPositionFact}
    (h : seedFromPosition ledger p = .ok ledger') :
    (ledger.isOpen p.key = true ∧ ledger' = ledger) ∨
      ∃ entry, ledger.isOpen p.key = false ∧ ledger' = ledger.setPosition p.key entry ∧
        entry.initialAverageEntryPrice.isSome = p.averageEntryPrice.isSome ∧
        entry.fallbackUnrealizedPnlKrw.isSome = p.unrealizedPnl.isSome := by
  unfold seedFromPosition at h
  split at h
  · rename_i hopen
    exact Or.inl ⟨hopen, (pure_eq_ok.1 h).symm⟩
  · rename_i hopen
    obtain ⟨average, haverage, h⟩ := bind_eq_ok.1 h
    obtain ⟨unrealized, hunrealized, h⟩ := bind_eq_ok.1 h
    have havg := parseOptional_isSome haverage
    have hunr := parseOptional_isSome hunrealized
    refine Or.inr ?_
    split at h
    · exact ⟨_, by simpa using hopen, (pure_eq_ok.1 h).symm, havg, hunr⟩
    · obtain ⟨quantity, -, h⟩ := bind_eq_ok.1 h
      split at h
      · split at h
        · exact ⟨_, by simpa using hopen, (pure_eq_ok.1 h).symm, havg, hunr⟩
        · exact ⟨_, by simpa using hopen, (pure_eq_ok.1 h).symm, havg, hunr⟩
      · exact ⟨_, by simpa using hopen, (pure_eq_ok.1 h).symm, havg, hunr⟩

/-- a promoted reconcile fact knows no unrealised PnL, and writes on entries that know none -/
theorem seedFromReconcile_evidence {ledger ledger' : Ledger} {p : PnLPositionFact}
    (hnone : p.unrealizedPnl = none)
    (hfallback : ∀ key, ((ledger.positions.get key).bind (·.fallbackUnrealizedPnlKrw)).isSome = false)
    (h : seedFromReconcile ledger p = .ok ledger') :
    (ledger.isOpen p.key = true ∧ ledger' = ledger) ∨
      ∃ entry, ledger.isOpen p.key = false ∧ ledger' = ledger.setPosition p.key entry ∧
        entry.initialAverageEntryPrice.isSome = p.averageEntryPrice.isSome ∧
        entry.fallbackUnrealizedPnlKrw.isSome = p.unrealizedPnl.isSome := by
  have hold : (getOrCreatePositionLedger ledger p.key p.strategyId p.market).fallbackUnrealizedPnlKrw.isSome
      = p.unrealizedPnl.isSome := by
    rw [hnone]
    have hkey := hfallback p.key
    unfold getOrCreatePositionLedger
    cases hget : ledger.positions.get p.key with
    | none => rfl
    | some entry => simpa [hget] using hkey
  unfold seedFromReconcile at h
  split at h
  · rename_i hopen
    exact Or.inl ⟨hopen, (pure_eq_ok.1 h).symm⟩
  · rename_i hopen
    obtain ⟨average, haverage, h⟩ := bind_eq_ok.1 h
    have havg := parseOptional_isSome haverage
    refine Or.inr ?_
    simp only at h
    split at h
    · exact ⟨_, by simpa using hopen, (pure_eq_ok.1 h).symm, havg, hold⟩
    · obtain ⟨quantity, -, h⟩ := bind_eq_ok.1 h
      split at h
      · split at h
        · exact ⟨_, by simpa using hopen, (pure_eq_ok.1 h).symm, havg, hold⟩
        · exact ⟨_, by simpa using hopen, (pure_eq_ok.1 h).symm, havg, hold⟩
      · exact ⟨_, by simpa using hopen, (pure_eq_ok.1 h).symm, havg, hold⟩

/-- **What an opening ledger knows.** Under each key the decisive fact's price and unrealised PnL, no more. -/
theorem Evident.of_opening {reconciled positions : List PnLPositionFact} {ledger : Ledger}
    (hreconciled : ∀ p ∈ reconciled, p.averageEntryPrice ≠ none ∧ p.unrealizedPnl = none)
    (h : openingLedger reconciled positions = .ok ledger) (key : String) :
    Evident (reconciled ++ positions) key (ledger.positions.get key) := by
  obtain ⟨mid, hmid, hrest⟩ := bind_eq_ok.1 h
  have hfirst : (∀ key, Evident reconciled key (mid.positions.get key)) ∧ mid.Books mid.totalCost := by
    refine foldlM_history (fun visited l => (∀ p ∈ visited, p.averageEntryPrice ≠ none ∧ p.unrealizedPnl = none) →
      (∀ key, Evident visited key (l.positions.get key)) ∧ l.Books l.totalCost)
      (fun _ => ⟨fun key => ⟨rfl, rfl, by simp [createEmptyLedger]⟩, createEmptyLedger_books⟩) ?_ hmid hreconciled
    intro visited p l l' hvisited hstep hall
    obtain ⟨hl, hbooks⟩ := hvisited fun q hq => hall q (by simp [hq])
    obtain ⟨havg, hunrealized⟩ := hall p (by simp)
    have hfallback : ∀ key, ((l.positions.get key).bind (·.fallbackUnrealizedPnlKrw)).isSome = false := by
      intro key
      rw [(hl key).fallback]
      cases hevidence : openingEvidence visited key with
      | none => rfl
      | some fact =>
        have hmem : fact ∈ visited := by
          rcases Option.or_eq_some_iff.1 hevidence with hfind | ⟨-, hfind⟩
          · exact List.mem_of_find?_eq_some hfind
          · exact List.mem_reverse.1 (List.mem_of_find?_eq_some hfind)
        simp [(hall fact (by simp [hmem])).2]
    refine ⟨Evident.seed hl (seedFromReconcile_quantity havg hbooks hstep)
      (seedFromReconcile_evidence hunrealized hfallback hstep), ?_⟩
    rcases seedFromReconcile_cases hstep with rfl | ⟨hopen, entry, rfl, hs⟩
    · exact hbooks
    · exact hs.books hbooks hopen
  refine (foldlM_history (fun visited l =>
    (∀ key, Evident (reconciled ++ visited) key (l.positions.get key)) ∧ l.Books l.totalCost)
    (by simpa using hfirst) ?_ hrest).1 key
  rintro visited p l l' ⟨hl, hbooks⟩ hstep
  refine ⟨?_, ?_⟩
  · rw [← List.append_assoc]
    exact Evident.seed hl (seedFromPosition_quantity hbooks hstep) (seedFromPosition_evidence hstep)
  · rcases seedFromPosition_cases hstep with rfl | ⟨hopen, entry, rfl, hs⟩
    · exact hbooks
    · exact hs.books hbooks hopen

/-! ## What was paid for -/

/-- a scope's holding, and whether any of it was paid for since the scope was last flat -/
structure Holding where
  held : ℚ
  paid : Bool
deriving DecidableEq

def Holding.apply (holding : Holding) (fill : PnLFillFact) : Holding :=
  if amount fill.quantity = 0 then holding
  else
    match fill.side with
    | .buy => ⟨holding.held + amount fill.quantity, holding.paid || decide (0 < fillCost fill)⟩
    | .sell => ⟨holding.held - amount fill.quantity, holding.paid && decide (holding.held ≠ amount fill.quantity)⟩

/-- what a scope's fills, in execution order, come to from nothing -/
def holdingOf (key : String) (fills : List PnLFillFact) : Holding :=
  (fills.filter (fun f => f.key = key)).foldl Holding.apply ⟨0, false⟩

def Ledger.costOf (ledger : Ledger) (key : String) : ℚ := ((ledger.positions.get key).map (·.costBasisKrw)).getD 0

omit [Host] in
theorem entry_cost (ledger : Ledger) (fill : PnLFillFact) : (ledger.entry fill).costBasisKrw = ledger.costOf fill.key := by
  unfold Ledger.entry getOrCreatePositionLedger Ledger.costOf
  cases ledger.positions.get fill.key <;> rfl

omit [Host] in
theorem costOf_write (ledger ledger' : Ledger) (key : String) (pos : PositionLedger)
    (h : ledger'.positions = ledger.positions.set key pos) (key' : String) :
    ledger'.costOf key' = if key = key' then pos.costBasisKrw else ledger.costOf key' := by
  unfold Ledger.costOf
  rw [h, InsertionMap.get_set]
  split_ifs <;> rfl

/-- the ledger holds what the holding says, at a positive cost if it was paid for -/
structure Holds (key : String) (holding : Holding) (ledger : Ledger) : Prop where
  held : ledger.quantityOf key = holding.held
  cost : 0 ≤ ledger.costOf key
  paid : 0 < ledger.costOf key ↔ holding.paid = true

omit [Host] in
/-- what stays of a cost when part of the lot is sold at average cost -/
theorem cost_after_sell {cost held sold : ℚ} (hsold : 0 < sold) (hle : sold ≤ held) (hcost : 0 ≤ cost) :
    0 ≤ cost - cost / held * sold ∧ (0 < cost - cost / held * sold ↔ 0 < cost ∧ held ≠ sold) := by
  have hheld : 0 < held := hsold.trans_le hle
  have hrest : cost - cost / held * sold = cost * ((held - sold) / held) := by
    field_simp
  rw [hrest]
  have hshare : 0 ≤ (held - sold) / held := div_nonneg (sub_nonneg.2 hle) hheld.le
  refine ⟨mul_nonneg hcost hshare, fun hpos => ?_, fun ⟨hpos, hne⟩ => ?_⟩
  · refine ⟨lt_of_le_of_ne hcost ?_, ?_⟩
    · rintro rfl
      simp at hpos
    · rintro rfl
      simp at hpos
  · exact mul_pos hpos (div_pos (sub_pos.2 (lt_of_le_of_ne hle (Ne.symm hne))) hheld)

theorem Holds.applyFill {key : String} {holding : Holding} {ledger ledger' : Ledger} {fill : PnLFillFact}
    (h : Holds key holding ledger) (hstep : applyFill ledger fill = .ok ledger') :
    Holds key (if fill.key = key then holding.apply fill else holding) ledger' := by
  cases applyFill_effect hstep with
  | skip hzero =>
    have hsame : (if fill.key = key then holding.apply fill else holding) = holding := by simp [Holding.apply, hzero]
    rw [hsame]
    exact h
  | buy cost hside hpos hcost hvalue =>
    split_ifs with hkey
    · subst hkey
      refine ⟨?_, ?_, ?_⟩
      · rw [quantityOf_write ledger _ fill.key _ (by simp; rfl), if_pos rfl, entry_quantity, h.held]
        simp [Holding.apply, hpos.ne', hside]
      · rw [costOf_write ledger _ fill.key _ (by simp; rfl), if_pos rfl, entry_cost]
        exact add_nonneg h.cost hcost
      · rw [costOf_write ledger _ fill.key _ (by simp; rfl), if_pos rfl, entry_cost]
        simp only [Holding.apply, hpos.ne', hside, if_false, Bool.or_eq_true, decide_eq_true_eq, ← h.paid, ← hvalue]
        refine ⟨fun hsum => ?_, fun hor => ?_⟩
        · by_contra hneither
          rw [not_or, not_lt, not_lt] at hneither
          linarith
        · rcases hor with hheld | hbought
          · exact add_pos_of_pos_of_nonneg hheld hcost
          · exact add_pos_of_nonneg_of_pos h.cost hbought
    · refine ⟨?_, ?_, ?_⟩
      · rw [quantityOf_write ledger _ fill.key _ (by simp; rfl), if_neg hkey, h.held]
      · rw [costOf_write ledger _ fill.key _ (by simp; rfl), if_neg hkey]
        exact h.cost
      · rw [costOf_write ledger _ fill.key _ (by simp; rfl), if_neg hkey, h.paid]
  | sell proceeds released hside hpos hheld hreleased =>
    split_ifs with hkey
    · subst hkey
      rw [entry_quantity, h.held] at hheld
      have hafter := cost_after_sell hpos hheld h.cost
      rw [entry_quantity, entry_cost, h.held] at hreleased
      refine ⟨?_, ?_, ?_⟩
      · rw [quantityOf_write ledger _ fill.key _ (by simp; rfl), if_pos rfl, entry_quantity, h.held]
        simp [Holding.apply, hpos.ne', hside]
      · rw [costOf_write ledger _ fill.key _ (by simp; rfl), if_pos rfl, entry_cost, hreleased]
        exact hafter.1
      · rw [costOf_write ledger _ fill.key _ (by simp; rfl), if_pos rfl, entry_cost, hreleased, hafter.2, h.paid]
        simp [Holding.apply, hpos.ne', hside]
    · refine ⟨?_, ?_, ?_⟩
      · rw [quantityOf_write ledger _ fill.key _ (by simp; rfl), if_neg hkey, h.held]
      · rw [costOf_write ledger _ fill.key _ (by simp; rfl), if_neg hkey]
        exact h.cost
      · rw [costOf_write ledger _ fill.key _ (by simp; rfl), if_neg hkey, h.paid]

/-- **Holdings follow the replay.** From a flat key, the replayed ledger holds what the scope's fills come to. -/
theorem holding_of_replay {key : String} {opening ledger : Ledger} {fills : List PnLFillFact}
    (hopening : Holds key ⟨0, false⟩ opening) (h : applyFillsToLedger opening fills = .ok ledger) :
    Holds key (holdingOf key fills) ledger := by
  refine foldlM_history (fun visited l => Holds key (holdingOf key visited) l) hopening ?_ h
  intro visited fill l l' hl hstep
  have happend : holdingOf key (visited ++ [fill])
      = if fill.key = key then (holdingOf key visited).apply fill else holdingOf key visited := by
    unfold holdingOf
    rw [List.filter_append, List.foldl_append]
    split_ifs with hkey
    · simp [hkey]
    · simp [hkey]
  rw [happend]
  exact hl.applyFill hstep

/-- a fill books quantity and cost; what is known of the price stays -/
theorem applyFill_evidence {ledger ledger' : Ledger} {fill : PnLFillFact} (h : applyFill ledger fill = .ok ledger')
    (key : String) :
    (ledger'.positions.get key).bind (·.initialAverageEntryPrice)
        = (ledger.positions.get key).bind (·.initialAverageEntryPrice) ∧
      (ledger'.positions.get key).bind (·.fallbackUnrealizedPnlKrw)
        = (ledger.positions.get key).bind (·.fallbackUnrealizedPnlKrw) := by
  have hwrite : ∀ quantity cost, ledger'.positions = ledger.positions.set fill.key
        { ledger.entry fill with quantity := quantity, costBasisKrw := cost } →
      (ledger'.positions.get key).bind (·.initialAverageEntryPrice)
          = (ledger.positions.get key).bind (·.initialAverageEntryPrice) ∧
        (ledger'.positions.get key).bind (·.fallbackUnrealizedPnlKrw)
          = (ledger.positions.get key).bind (·.fallbackUnrealizedPnlKrw) := by
    intro quantity cost hset
    rw [hset, InsertionMap.get_set]
    split_ifs with hkey
    · subst hkey
      unfold Ledger.entry getOrCreatePositionLedger
      cases ledger.positions.get fill.key <;> exact ⟨rfl, rfl⟩
    · exact ⟨rfl, rfl⟩
  cases applyFill_effect h with
  | skip => exact ⟨rfl, rfl⟩
  | buy => exact hwrite _ _ (by simp; rfl)
  | sell => exact hwrite _ _ (by simp; rfl)

theorem applyFillsToLedger_evidence {opening ledger : Ledger} {fills : List PnLFillFact}
    (h : applyFillsToLedger opening fills = .ok ledger) (key : String) :
    (ledger.positions.get key).bind (·.initialAverageEntryPrice)
        = (opening.positions.get key).bind (·.initialAverageEntryPrice) ∧
      (ledger.positions.get key).bind (·.fallbackUnrealizedPnlKrw)
        = (opening.positions.get key).bind (·.fallbackUnrealizedPnlKrw) := by
  refine foldlM_keeps (fun l : Ledger => (l.positions.get key).bind (·.initialAverageEntryPrice)
      = (opening.positions.get key).bind (·.initialAverageEntryPrice) ∧
    (l.positions.get key).bind (·.fallbackUnrealizedPnlKrw)
      = (opening.positions.get key).bind (·.fallbackUnrealizedPnlKrw)) (fun l fill l' _ hstep hl => ?_) h ⟨rfl, rfl⟩
  have := applyFill_evidence hstep key
  exact ⟨this.1.trans hl.1, this.2.trans hl.2⟩

/-! ## Amounts -/

omit [Host] in
/-- an open position with a mark price has an unrealised PnL unless its cost is not positive and nothing else is known -/
theorem positionDetail_unrealized {marks : MarkPrices} {equity : Option ℚ} {pos : PositionLedger}
    (hquantity : 0 < pos.quantity) (hmark : pos.markPrice marks ≠ none) :
    (positionDetail marks equity pos).unrealizedPnlKrw = none ↔
      ¬ 0 < pos.costBasisKrw ∧ pos.initialAverageEntryPrice = none ∧ pos.fallbackUnrealizedPnlKrw = none := by
  obtain ⟨mark, hmark⟩ := Option.ne_none_iff_exists'.1 hmark
  by_cases hcost : 0 < pos.costBasisKrw
  · simp [positionDetail, hmark, hquantity, hcost]
  · cases havg : pos.initialAverageEntryPrice with
    | none => simp [positionDetail, hmark, hcost, havg]
    | some average => simp [positionDetail, hmark, hcost, havg]

omit [Host] in
theorem markPriceReasons_nil {ledger : Ledger} {marks : MarkPrices} (h : markPriceReasons ledger marks = []) :
    ∀ e ∈ ledger.openEntries, e.2.markPrice marks ≠ none := by
  intro e he hnone
  refine absurd h (List.ne_nil_of_mem (List.mem_map_of_mem (List.mem_filter.2 ⟨he, ?_⟩)))
  simp [hnone]

omit [Host] in
/-- where every open position has a mark price the market value is known -/
theorem marketValue_known {ledger : Ledger} {marks : MarkPrices} {cash equity : Option ℚ} {targeted : Bool}
    (h : ∀ e ∈ ledger.openEntries, e.2.markPrice marks ≠ none) :
    ∃ value, sumKnown ((calculatePositionDetails ledger marks cash equity targeted).map (·.2.marketValueKrw))
      = some value := by
  refine Option.ne_none_iff_exists'.1 fun hnone => ?_
  obtain ⟨detail, hdetail, hvalue⟩ := List.mem_map.1 (sumKnown_eq_none.1 hnone)
  obtain ⟨e, he, rfl⟩ := List.mem_map.1 hdetail
  exact h e he (by simpa [positionDetail] using hvalue)

omit [Host] in
theorem sumDecimalParts_known {first second : Bool} {x y : Option ℚ} (hor : first = true ∨ second = true)
    (hx : first = true → x ≠ none) :
    sumDecimalParts [(first, x), (second, y)] = none ↔ second = true ∧ y = none := by
  cases first with
  | false =>
    obtain rfl : second = true := by simpa using hor
    change sumKnown [y] = none ↔ _
    rw [sumKnown_eq_none]
    simp [eq_comm]
  | true =>
    have hx := hx rfl
    cases second with
    | false =>
      change sumKnown [x] = none ↔ _
      rw [sumKnown_eq_none]
      simp [hx.symm]
    | true =>
      change sumKnown [x, y] = none ↔ _
      rw [sumKnown_eq_none]
      simp [hx.symm, eq_comm]

theorem summarizeSnapshots_known {snapshots : List PnLSnapshotFact} {totals : SnapshotTotals}
    (h : summarizeSnapshots snapshots = .ok totals) :
    (snapshots = [] ∧ totals = ⟨none, none, none⟩) ∨
      (snapshots ≠ [] ∧ ∃ equity realized unrealized, totals = ⟨some equity, some realized, some unrealized⟩) := by
  unfold summarizeSnapshots at h
  split_ifs at h with hnil
  · exact Or.inl ⟨hnil, (pure_eq_ok.1 h).symm⟩
  · obtain ⟨acc, -, h⟩ := bind_eq_ok.1 h
    exact Or.inr ⟨hnil, _, _, _, (pure_eq_ok.1 h).symm⟩

section Valuation

variable {input : PnLAccountingInput} {r : Replay} {cashKrw : Option ℚ} {marks : MarkPrices}

omit [Host] in
/-- a valuation without reasons: nothing collected, a cash source or a snapshot equity, every mark price, no cash gap -/
theorem valuate_reasons (h : (valuate input r cashKrw marks).missingReasons = []) :
    r.collected.missingReasons = [] ∧ (cashKrw ≠ none ∨ r.totals.equityKrw ≠ none) ∧
      markPriceReasons r.ledger marks = [] := by
  unfold valuate at h
  simp only at h
  obtain ⟨-, h⟩ := addMissingReasonOnce_if h
  obtain ⟨-, h⟩ := addMissingReasonOnce_if h
  simp only [List.append_eq_nil_iff] at h
  obtain ⟨⟨hcollected, hcash⟩, hmarks⟩ := h
  refine ⟨hcollected, ?_, hmarks⟩
  split_ifs at hcash with hnone
  rw [not_and_or] at hnone
  exact hnone

/-- what the ledger contributes to the sums -/
def hasLedgerTradingData (r : Replay) : Prop :=
  r.ledgerFills ≠ [] ∨ r.collected.fallbackPositions ≠ [] ∨ r.collected.reconciledPositions ≠ []

/-- an open position whose unrealised PnL is not known -/
def UnknownUnrealized (r : Replay) (marks : MarkPrices) : Prop :=
  ∃ e ∈ r.ledger.openEntries, ∀ equity, (positionDetail marks equity e.2).unrealizedPnlKrw = none

omit [Host] in
theorem valuate_total (input : PnLAccountingInput) (r : Replay) (cashKrw : Option ℚ) (marks : MarkPrices) :
    (valuate input r cashKrw marks).totalPnlKrw
      = match (valuate input r cashKrw marks).realizedPnlKrw, (valuate input r cashKrw marks).unrealizedPnlKrw with
        | some realized, some unrealized => some (realized + unrealized)
        | _, _ => none := by
  unfold valuate
  simp only
  generalize (decide (r.ledgerFills ≠ []) || decide (r.collected.fallbackPositions ≠ []) ||
    decide (r.selection.snapshots ≠ []) ||
    (decide (r.collected.reconciledPositions ≠ []) && !r.collected.hasUnknownReconcilePosition)) = trading
  cases trading with
  | false => rfl
  | true => rfl

omit [Host] in
/-- with trading data and no gap the realised PnL is known -/
theorem valuate_realized (hunknown : r.collected.hasUnknownReconcilePosition = false)
    (hgaps : r.collected.positionRealizedGapScopes = []) (hdata : hasTradingData r)
    (htotals : r.selection.snapshots ≠ [] → r.totals.realizedPnlKrw ≠ none) :
    (valuate input r cashKrw marks).realizedPnlKrw ≠ none := by
  unfold hasTradingData at hdata
  unfold valuate
  simp only [hunknown, hgaps]
  rw [if_pos (by simpa [or_assoc] using hdata), if_neg (by simp)]
  rw [ne_eq, sumDecimalParts_known (by simp; tauto) (by simpa using htotals)]
  simp

omit [Host] in
theorem valuate_unrealized (hunknown : r.collected.hasUnknownReconcilePosition = false) (hdata : hasTradingData r)
    (htotals : r.selection.snapshots ≠ [] → r.totals.unrealizedPnlKrw ≠ none) :
    (valuate input r cashKrw marks).unrealizedPnlKrw = none ↔ hasLedgerTradingData r ∧ UnknownUnrealized r marks := by
  unfold hasTradingData at hdata
  unfold valuate hasLedgerTradingData
  simp only [hunknown]
  rw [if_pos (by simpa [or_assoc] using hdata), if_neg (by simp), if_neg (by simp)]
  rw [sumDecimalParts_known (by simp; tauto) (by simpa using htotals), sumKnown_eq_none]
  refine and_congr (by simp [or_assoc]) ⟨fun hmem => ?_, fun ⟨e, he, hnone⟩ => ?_⟩
  · obtain ⟨detail, hdetail, hnone⟩ := List.mem_map.1 hmem
    obtain ⟨e, he, rfl⟩ := List.mem_map.1 hdetail
    exact ⟨e, he, fun _ => hnone⟩
  · exact List.mem_map.2 ⟨_, List.mem_map.2 ⟨e, he, rfl⟩, hnone _⟩

omit [Host] in
/-- with a cash source or a snapshot equity, every mark price and no gap the equity is known -/
theorem valuate_equity (h : (valuate input r cashKrw marks).missingReasons = [])
    (hunknown : r.collected.hasUnknownReconcilePosition = false)
    (htotals : r.selection.snapshots = [] ↔ r.totals.equityKrw = none) :
    (valuate input r cashKrw marks).equityKrw ≠ none := by
  obtain ⟨-, hcash, hmarks⟩ := valuate_reasons h
  obtain ⟨value, hvalue⟩ : ∃ value, sumKnown ((calculatePositionDetails r.ledger marks cashKrw r.totals.equityKrw
      (decide (input.targets ≠ []))).map (·.2.marketValueKrw)) = some value :=
    marketValue_known (markPriceReasons_nil hmarks)
  unfold valuate at h ⊢
  simp only [hunknown, Bool.false_eq_true, if_false, hvalue] at h ⊢
  obtain ⟨hscoped, h⟩ := addMissingReasonOnce_if h
  obtain ⟨hmixed, -⟩ := addMissingReasonOnce_if h
  rw [if_neg (by simp only [Bool.or_eq_true, not_or]; exact ⟨hmixed, hscoped⟩)]
  generalize calculatePositionDetails r.ledger marks cashKrw r.totals.equityKrw (decide (input.targets ≠ [])) = details
  cases hequity : r.totals.equityKrw with
  | none =>
    have hnone := htotals.2 hequity
    obtain ⟨cash, rfl⟩ := Option.ne_none_iff_exists'.1 (hcash.resolve_right (not_not.2 hequity))
    simp [hnone]
  | some equity =>
    have hsome : r.selection.snapshots ≠ [] := fun hnil => by simp [htotals.1 hnil] at hequity
    by_cases hdetails : details = []
    · simp [hsome, hdetails]
    · simp [hdetails]

end Valuation

/-! ## Completeness -/

/-- the snapshots the calculation selects -/
def selectedSnapshots (input : PnLAccountingInput) : List PnLSnapshotFact :=
  ((selectEffectiveSnapshots input.pnlSnapshots).toOption.map (·.snapshots)).getD []

/-- the fills no selected snapshot covers, in execution order -/
def uncoveredFills (input : PnLAccountingInput) : List PnLFillFact :=
  stableSort compareFillFact
    (input.fills.filter (fun f => isSnapshotCovered (selectedSnapshots input) f.strategyId f.market = false))

/-- a scope that holds something, none of it paid for since it was last flat, and whose opening facts state neither an
average entry price nor an unrealised PnL -/
def HeldForNothing (input : PnLAccountingInput) (key : String) : Prop :=
  (holdingOf key (uncoveredFills input)).held ≠ 0 ∧ (holdingOf key (uncoveredFills input)).paid = false ∧
    (openingEvidence (openingFacts input (selectedSnapshots input)) key).bind (·.averageEntryPrice) = none ∧
    (openingEvidence (openingFacts input (selectedSnapshots input)) key).bind (·.unrealizedPnl) = none

/-- what CALCULATED stands for -/
structure PnLAccountingOutput.Complete (out : PnLAccountingOutput) : Prop where
  reasons : out.missingReasons = []
  scopes : ∀ scope ∈ out.scopes, scope.status = .calculated
  amounts : ∃ realized unrealized equity, out.realizedPnlKrw = some realized ∧ out.unrealizedPnlKrw = some unrealized ∧
    out.totalPnlKrw = some (realized + unrealized) ∧ out.equityKrw = some equity

/-- what a calculation under CALCULATED went through -/
structure CalculatedRun (input : PnLAccountingInput) (r : Replay) (cashKrw : Option ℚ) (marks : MarkPrices)
    (out : PnLAccountingOutput) : Prop where
  replay : ReplayRun input r
  valuation : (valuate input r cashKrw marks).missingReasons = []
  data : HasData input r.selection.snapshots r.ledgerFills
  reasons : out.missingReasons = []
  scopes : ∀ scope ∈ out.scopes, scope.status = .calculated
  realized : out.realizedPnlKrw = (valuate input r cashKrw marks).realizedPnlKrw
  unrealized : out.unrealizedPnlKrw = (valuate input r cashKrw marks).unrealizedPnlKrw
  total : out.totalPnlKrw = (valuate input r cashKrw marks).totalPnlKrw
  equity : out.equityKrw = (valuate input r cashKrw marks).equityKrw

theorem calculatedRun_of {input : PnLAccountingInput} {out : PnLAccountingOutput}
    (h : calculatePnLAccounting input = .ok out) (hstatus : out.status = .calculated) :
    ∃ r cashKrw marks, CalculatedRun (applyTargetScopeFilter input) r cashKrw marks out := by
  obtain ⟨calculated, hcalculated, hout⟩ := map_eq_ok.1 h
  obtain ⟨r, hr, hcalculated⟩ := bind_eq_ok.1 hcalculated
  obtain ⟨⟨v, out'⟩, ha, hcalculated⟩ := bind_eq_ok.1 hcalculated
  obtain rfl : out' = out := by rw [← hout, ← pure_eq_ok.1 hcalculated]
  obtain ⟨cashKrw, -, ha⟩ := bind_eq_ok.1 ha
  obtain ⟨marks, -, ha⟩ := bind_eq_ok.1 ha
  obtain ⟨fees, -, ha⟩ := bind_eq_ok.1 ha
  obtain ⟨reasons, hreasons, ha⟩ := bind_eq_ok.1 ha
  obtain ⟨_, -, ha⟩ := bind_eq_ok.1 ha
  obtain ⟨_, -, ha⟩ := bind_eq_ok.1 ha
  obtain ⟨_, -, ha⟩ := bind_eq_ok.1 ha
  obtain ⟨requirements, -, ha⟩ := bind_eq_ok.1 ha
  obtain ⟨capturedAt, -, ha⟩ := bind_eq_ok.1 ha
  obtain ⟨scopes, hscopes, ha⟩ := bind_eq_ok.1 ha
  obtain ⟨trace, -, ha⟩ := bind_eq_ok.1 ha
  cases pure_eq_ok.1 ha
  obtain ⟨-, hnil, hall⟩ := determineStatus_calculated hstatus
  have hvaluation := appendNonKrwFeeMissingReasons_nil hreasons (appendCostQualityMissingReasons_nil hnil)
  exact ⟨r, cashKrw, marks, replay_run hr, hvaluation, buildScopes_data hscopes hall, hnil, hall, rfl, rfl, rfl, rfl⟩

section Run

variable {input : PnLAccountingInput} {r : Replay} {cashKrw : Option ℚ} {marks : MarkPrices} {out : PnLAccountingOutput}

theorem ReplayRun.selected (h : ReplayRun input r) : selectedSnapshots input = r.selection.snapshots := by
  simp [selectedSnapshots, h.selection, Except.toOption]

theorem ReplayRun.uncovered (h : ReplayRun input r) (hblocked : r.collected.blockedFillReplayScopes = []) :
    uncoveredFills input = r.ledgerFills := by
  have hsorted := h.sorted
  unfold sortFillsByExecutionTime at hsorted
  have hreplayable : replayableFills input r.selection.snapshots r.collected.blockedFillReplayScopes
      = input.fills.filter (fun f => isSnapshotCovered r.selection.snapshots f.strategyId f.market = false) := by
    simp [replayableFills, hblocked]
  rw [uncoveredFills, h.selected, ← hreplayable]
  split_ifs at hsorted
  · obtain ⟨_, -, hsorted⟩ := bind_eq_ok.1 hsorted
    exact pure_eq_ok.1 hsorted
  · exact pure_eq_ok.1 hsorted

/-- the opening ledger holds nothing under a key whose evidence states no price -/
theorem ReplayRun.opening_flat (h : ReplayRun input r)
    (hpriced : ∀ p ∈ input.positions, positionOpens input r.selection.snapshots p = true → 0 < amount p.quantity →
      p.averageEntryPrice ≠ none) {key : String}
    (hevident : Evident (Pnl.openingFacts input r.selection.snapshots) key (r.opening.positions.get key))
    (hnone : (openingEvidence (Pnl.openingFacts input r.selection.snapshots) key).bind (·.averageEntryPrice) = none) :
    Holds key ⟨0, false⟩ r.opening := by
  have hbooks := openingLedger_books h.opening
  have hquantity : r.opening.quantityOf key = 0 := by
    refine le_antisymm (not_lt.1 fun hpos => ?_) ?_
    · obtain ⟨lot, hlot⟩ := Option.isSome_iff_exists.1 (hevident.held.1 hpos)
      have hmem := List.mem_of_find?_eq_some hlot
      have hislot : isLot key lot = true := List.find?_some hlot
      have hlotnone : lot.averageEntryPrice = none := by simpa [openingEvidence, hlot] using hnone
      rcases List.mem_append.1 hmem with hrec | hposition
      · obtain ⟨rec, hfiltered, rfl⟩ := List.mem_map.1 hrec
        have hopens := (List.mem_filter.1 hfiltered).2
        simp [reconcileOpens, toPositionLike] at hopens hlotnone
        rw [hlotnone] at hopens
        simp at hopens
      · obtain ⟨hposition, hopens⟩ := List.mem_filter.1 hposition
        simp only [isLot, decide_eq_true_eq] at hislot
        exact hpriced lot hposition hopens hislot.2 hlotnone
    · unfold Ledger.quantityOf
      cases hget : r.opening.positions.get key with
      | none => simp
      | some pos => simpa using hbooks.held key pos hget
  have hcost : r.opening.costOf key = 0 := by
    unfold Ledger.quantityOf at hquantity
    unfold Ledger.costOf
    cases hget : r.opening.positions.get key with
    | none => rfl
    | some pos => simpa using hbooks.flat key pos hget (by simpa [hget] using hquantity)
  exact ⟨hquantity, hcost.ge, by simp [hcost]⟩

theorem ReplayRun.evident (h : ReplayRun input r) (key : String) :
    Evident (Pnl.openingFacts input r.selection.snapshots) key (r.opening.positions.get key) := by
  rw [← h.openingFacts]
  refine Evident.of_opening (fun p hp => ?_) h.opening key
  rw [h.reconciled] at hp
  obtain ⟨rec, hrec, rfl⟩ := List.mem_map.1 hp
  have hopens := (List.mem_filter.1 hrec).2
  simp only [reconcileOpens, Bool.and_eq_true] at hopens
  exact ⟨Option.isSome_iff_ne_none.1 hopens.2, rfl⟩

/-- without reasons, an open position's unrealised PnL is unknown exactly if its scope holds only what cost nothing -/
theorem CalculatedRun.unknown_iff (h : CalculatedRun input r cashKrw marks out) :
    UnknownUnrealized r marks ↔ ∃ key, HeldForNothing input key := by
  obtain ⟨hcollected, -, hmarkReasons⟩ := valuate_reasons h.valuation
  obtain ⟨-, -, hblocked, hpriced⟩ := collected_explained h.replay hcollected
  have hmarks := markPriceReasons_nil hmarkReasons
  have hfills := h.replay.uncovered hblocked
  have hbooks := applyFillsToLedger_books h.replay.ledger (openingLedger_books h.replay.opening)
  have hevidence := applyFillsToLedger_evidence h.replay.ledger
  have hholds : ∀ key,
      (openingEvidence (Pnl.openingFacts input r.selection.snapshots) key).bind (·.averageEntryPrice) = none →
      Holds key (holdingOf key r.ledgerFills) r.ledger := fun key hnone =>
    holding_of_replay (h.replay.opening_flat hpriced (h.replay.evident key) hnone) h.replay.ledger
  refine ⟨fun ⟨e, he, hnone⟩ => ?_, fun ⟨key, hheld, hpaid, haverage, hfallback⟩ => ?_⟩
  · obtain ⟨hentry, hopen⟩ := List.mem_filter.1 he
    have hget := (r.ledger.positions.mem_iff_get (k := e.1) (v := e.2)).1 hentry
    have hquantity : 0 < e.2.quantity := lt_of_le_of_ne (hbooks.held _ _ hget) (Ne.symm (by simpa using hopen))
    obtain ⟨hcost, hinitial, hlast⟩ := (positionDetail_unrealized hquantity (hmarks e he)).1 (hnone none)
    have haverage : (openingEvidence (Pnl.openingFacts input r.selection.snapshots) e.1).bind (·.averageEntryPrice)
        = none := by
      have := (h.replay.evident e.1).average
      rw [← (hevidence e.1).1, hget] at this
      simpa [hinitial] using this.symm
    have hfallback : (openingEvidence (Pnl.openingFacts input r.selection.snapshots) e.1).bind (·.unrealizedPnl)
        = none := by
      have := (h.replay.evident e.1).fallback
      rw [← (hevidence e.1).2, hget] at this
      simpa [hlast] using this.symm
    have hholding := hholds e.1 haverage
    refine ⟨e.1, ?_, ?_, ?_, ?_⟩
    · rw [hfills, ← hholding.held, Ledger.quantityOf, hget]
      exact hquantity.ne'
    · rw [hfills, Bool.eq_false_iff, ne_eq, ← hholding.paid, Ledger.costOf, hget]
      exact hcost
    · rw [h.replay.selected]
      exact haverage
    · rw [h.replay.selected]
      exact hfallback
  · rw [h.replay.selected] at haverage hfallback
    rw [hfills] at hheld hpaid
    have hholding := hholds key haverage
    rw [← hholding.held, Ledger.quantityOf] at hheld
    cases hget : r.ledger.positions.get key with
    | none => simp [hget] at hheld
    | some pos =>
      have hne : pos.quantity ≠ 0 := by simpa [hget] using hheld
      have he : (key, pos) ∈ r.ledger.openEntries :=
        List.mem_filter.2 ⟨r.ledger.positions.mem_iff_get.2 hget, by simpa using hne⟩
      have hquantity : 0 < pos.quantity := lt_of_le_of_ne (hbooks.held _ _ hget) (Ne.symm hne)
      refine ⟨(key, pos), he, fun equity => (positionDetail_unrealized hquantity (hmarks _ he)).2 ⟨?_, ?_, ?_⟩⟩
      · have := hholding.paid
        rw [hpaid, Ledger.costOf, hget] at this
        simpa using this
      · have := (h.replay.evident key).average
        rw [haverage, ← (hevidence key).1, hget] at this
        simpa using this
      · have := (h.replay.evident key).fallback
        rw [hfallback, ← (hevidence key).2, hget] at this
        simpa using this

end Run

end Completeness

/-! ## Inputs -/

/-- one purchase at a price, with a mark price, a cash balance and cost evidence -/
def boughtAt (price : String) : PnLAccountingInput :=
  { tradingInput [{ fillAt .buy "1" price 1 with fee := "0" }] [] with
    markPrices := [⟨(fillAt .buy "1" price 1).market, "15", none, "bid"⟩]
    cash := some ⟨"100", "0", "100", "db", .at 2⟩
    costQuality := [⟨(fillAt .buy "1" price 1).strategyId, (fillAt .buy "1" price 1).market, some "1", some "1", some "1",
      "db"⟩] }

end SeeMirai.Pnl
