/-
Which facts open the ledger, and what that does to quantities and costs (calculator.ts, sections 2 to 5).

A position fact, or a RECOVERABLE reconcile fact where no position fact has the scope, opens the ledger of a scope that
has no fills of its own or whose fills sell more than they bought. The replay then applies every fill of the scope on
top of that opening lot, whenever it was made; only a fact later than the first uncovered SELL blocks the replay.

Results:
- `replay_seeds` / `mem_blocked_iff`: the opening facts and the blocked scopes, read off the input.
- `openingLedger_quantity`: the lot under a key is the first opening fact of positive quantity.
- `reported_quantity`: the reported quantity is the opening lot plus the net of the replayed fills.
- `seed_counts_once_iff`: an opening fact that states the true holding at its time is reported right exactly when the
  fills up to that time net to zero (or, in a blocked scope, the fills after it do).
- `realized_known_cost_iff`: a reported realised PnL rests on known cost exactly when no opening lot lacks its price.
Witnesses (the replay double counts, and realises against an unknown cost):
- `fills_before_seed_counted_twice`, `unpriced_seed_realized`.
-/
import SeeMirai.Pnl.Calculator

namespace SeeMirai.Pnl

open Fallible

section Seeds

variable [Host]

/-! ## Opening facts, read off the input -/

/-- the time at which the scope's own fills run out of what they bought -/
def seedRequiredAt (fills : List PnLFillFact) (strategyId market : String) : Option Int :=
  (findOpeningPositionSeedRequiredAt fills strategyId market).toOption.join

/-- the fact is later than the first SELL its scope's fills cannot cover -/
def isLate (input : PnLAccountingInput) (strategyId market : String) (time : TimestampInput) : Bool :=
  (seedRequiredAt input.fills strategyId market).any (fun required => time.millis.any (required < ·))

/-- a RECOVERABLE reconcile fact that stands for a scope nothing else explains -/
def reconcileApplies (input : PnLAccountingInput) (snapshots : List PnLSnapshotFact) (r : PnLReconcileFact) : Bool :=
  !isSnapshotCovered snapshots r.strategyId r.market && r.recoveryStatus = "RECOVERABLE" &&
    !(isFillCovered input.fills r.strategyId r.market && seedRequiredAt input.fills r.strategyId r.market = none) &&
    !isPositionCovered input.positions r.strategyId r.market

def reconcileOpens (input : PnLAccountingInput) (snapshots : List PnLSnapshotFact) (r : PnLReconcileFact) : Bool :=
  reconcileApplies input snapshots r && !isLate input r.strategyId r.market r.reconciledAt &&
    r.averageEntryPrice.isSome

def reconcileBlocks (input : PnLAccountingInput) (snapshots : List PnLSnapshotFact) (r : PnLReconcileFact) : Bool :=
  reconcileApplies input snapshots r && isLate input r.strategyId r.market r.reconciledAt

/-- a reconcile fact of a scope nothing else explains that cannot open it: what is held there stays unknown -/
def reconcileUnknown (input : PnLAccountingInput) (snapshots : List PnLSnapshotFact) (r : PnLReconcileFact) : Bool :=
  (!isSnapshotCovered snapshots r.strategyId r.market && r.recoveryStatus ≠ "RECOVERABLE" &&
    !isFillCovered input.fills r.strategyId r.market) ||
  (reconcileApplies input snapshots r && !reconcileOpens input snapshots r)

def positionOpens (input : PnLAccountingInput) (snapshots : List PnLSnapshotFact) (p : PnLPositionFact) : Bool :=
  !isSnapshotCovered snapshots p.strategyId p.market &&
    (!isFillCovered input.fills p.strategyId p.market || (seedRequiredAt input.fills p.strategyId p.market).isSome)

def positionBlocks (input : PnLAccountingInput) (snapshots : List PnLSnapshotFact) (p : PnLPositionFact) : Bool :=
  !isSnapshotCovered snapshots p.strategyId p.market && isLate input p.strategyId p.market p.updatedAt

/-- the facts the ledger is opened with, in seeding order -/
def openingFacts (input : PnLAccountingInput) (snapshots : List PnLSnapshotFact) : List PnLPositionFact :=
  (input.reconcileFacts.filter (reconcileOpens input snapshots)).map toPositionLike ++
    input.positions.filter (positionOpens input snapshots)

/-- the scopes whose fills are not replayed -/
def replayBlocked (input : PnLAccountingInput) (snapshots : List PnLSnapshotFact) (key : String) : Bool :=
  input.reconcileFacts.any (fun r => reconcileBlocks input snapshots r ∧ r.key = key) ||
    input.positions.any (fun p => positionBlocks input snapshots p ∧ p.key = key)

/-! ## One iteration of the collecting loops -/

theorem seedRequiredAt_of_ok {fills : List PnLFillFact} {s m : String} {required : Option Int}
    (h : findOpeningPositionSeedRequiredAt fills s m = .ok required) : seedRequiredAt fills s m = required := by
  simp [seedRequiredAt, h, Except.toOption]

theorem isLate_of_ok {input : PnLAccountingInput} {s m : String} {time : TimestampInput} {required : Option Int}
    {late : Bool} (hat : seedRequiredAt input.fills s m = required) (h : laterThan required time = .ok late) :
    isLate input s m time = late := by
  unfold isLate
  rw [hat]
  cases required with
  | none => simpa [laterThan] using h
  | some req =>
    obtain ⟨t, ht, hd⟩ := bind_eq_ok.1 h
    rw [toTime_eq_ok] at ht
    simpa [ht] using hd

theorem unknown_of_blocks {input : PnLAccountingInput} {snapshots : List PnLSnapshotFact} {r : PnLReconcileFact}
    (h : reconcileBlocks input snapshots r = true) : reconcileUnknown input snapshots r = true := by
  obtain ⟨happ, hlate⟩ : reconcileApplies input snapshots r = true ∧ isLate input r.strategyId r.market r.reconciledAt = true := by
    simpa [reconcileBlocks] using h
  simp [reconcileUnknown, reconcileOpens, happ, hlate]

structure ReconcileStep (input : PnLAccountingInput) (snapshots : List PnLSnapshotFact) (r : PnLReconcileFact)
    (acc acc' : Collected) : Prop where
  reconciled : acc'.reconciledPositions
    = acc.reconciledPositions ++ if reconcileOpens input snapshots r then [toPositionLike r] else []
  blocked : acc'.blockedFillReplayScopes
    = acc.blockedFillReplayScopes ++ if reconcileBlocks input snapshots r then [r.key] else []
  opening : acc'.openingSeedPositions = acc.openingSeedPositions
  gaps : acc'.positionRealizedGapScopes = acc.positionRealizedGapScopes
  unknown : acc.hasUnknownReconcilePosition ∨ reconcileUnknown input snapshots r → acc'.hasUnknownReconcilePosition

theorem collectReconcile_step {input : PnLAccountingInput} {snapshots : List PnLSnapshotFact} {r : PnLReconcileFact}
    {acc acc' : Collected} (h : collectReconcile input snapshots acc r = .ok acc') :
    ReconcileStep input snapshots r acc acc' := by
  unfold collectReconcile at h
  split at h
  · rename_i hcov
    rw [pure_eq_ok] at h
    subst h
    constructor <;> simp [reconcileUnknown, reconcileOpens, reconcileBlocks, reconcileApplies, hcov]
  · rename_i hcov
    simp only at h
    split at h
    · rename_i hrec
      have hno : reconcileApplies input snapshots r = false := by simp [reconcileApplies, hrec]
      split at h
      · rename_i hfilled
        rw [pure_eq_ok] at h
        subst h
        constructor <;> simp [reconcileUnknown, reconcileOpens, reconcileBlocks, hno, hfilled]
      · rw [pure_eq_ok] at h
        subst h
        constructor <;> simp [reconcileOpens, reconcileBlocks, hno, Collected.unknownReconcile, Collected.addReason]
    · rename_i hrec
      rw [not_not] at hrec
      obtain ⟨required, hreq, h⟩ := bind_eq_ok.1 h
      have hat := seedRequiredAt_of_ok hreq
      split at h
      · rename_i hflow
        rw [pure_eq_ok] at h
        subst h
        constructor <;> simp [reconcileUnknown, reconcileOpens, reconcileBlocks, reconcileApplies, hat, hflow]
      · rename_i hflow
        split at h
        · rename_i hpos
          rw [pure_eq_ok] at h
          subst h
          constructor <;> simp [reconcileUnknown, reconcileOpens, reconcileBlocks, reconcileApplies, hpos, hrec]
        · rename_i hpos
          have happ : reconcileApplies input snapshots r = true := by
            have hnot : ¬ (isFillCovered input.fills r.strategyId r.market = true ∧ required = none) := hflow
            simp only [reconcileApplies, hat, hrec, hcov, hpos]
            cases hf : isFillCovered input.fills r.strategyId r.market <;> cases required <;> simp_all
          obtain ⟨late, hlate, h⟩ := bind_eq_ok.1 h
          have hl : isLate input r.strategyId r.market r.reconciledAt = late := isLate_of_ok hat hlate
          split at h
          · rename_i htrue
            rw [pure_eq_ok] at h
            subst h
            constructor <;> simp [reconcileOpens, reconcileBlocks, happ, hl, htrue, Collected.unknownReconcile,
              Collected.addReason, Collected.block]
          · rename_i hfalse
            split at h
            · rename_i havg
              rw [pure_eq_ok] at h
              subst h
              constructor <;> simp_all [reconcileOpens, reconcileBlocks, Collected.unknownReconcile,
                Collected.addReason]
            · rename_i havg
              rw [pure_eq_ok] at h
              subst h
              have hsome : r.averageEntryPrice.isSome := Option.isSome_iff_ne_none.2 havg
              have hopens : reconcileOpens input snapshots r = true := by
                simp [reconcileOpens, happ, hl, hfalse, hsome]
              have hblocks : reconcileBlocks input snapshots r = false := by
                simp [reconcileBlocks, hl, hfalse]
              have hunknown : reconcileUnknown input snapshots r = false := by
                simp [reconcileUnknown, hopens, hrec]
              constructor <;> split_ifs <;>
                simp_all [Collected.unknownReconcile, Collected.addReason]

section NotePosition

variable (acc : Collected) (p : PnLPositionFact) (hasFill : Bool) (requiredAt : Option Int) (late : Bool) (quantity : ℚ)

omit [Host]

theorem noteUnpriced_eq : ∃ reasons, acc.noteUnpriced p quantity = { acc with missingReasons := reasons } := by
  unfold Collected.noteUnpriced
  split_ifs
  · exact ⟨_, rfl⟩
  · exact ⟨acc.missingReasons, rfl⟩

/-- a stage that may or may not run leaves alone what it does not write -/
theorem stage_keeps {γ : Type} (f : Collected → γ) (c : Prop) {_ : Decidable c} (a b : Collected) (h : f a = f b) :
    f (if c then a else b) = f b := by
  split_ifs
  · exact h
  · rfl

theorem stage_appends {γ : Type} (f : Collected → List γ) (c : Prop) {_ : Decidable c} (a b : Collected) (x : γ)
    (h : f a = f b ++ [x]) : f (if c then a else b) = f b ++ if c then [x] else [] := by
  split_ifs
  · exact h
  · exact (List.append_nil _).symm

theorem notePosition_reconciled :
    (acc.notePosition p hasFill requiredAt late quantity).reconciledPositions = acc.reconciledPositions := by
  obtain ⟨reasons, h⟩ := noteUnpriced_eq acc p quantity
  unfold Collected.notePosition
  rw [h]
  refine (stage_keeps (·.reconciledPositions) _ _ _ (by rfl)).trans ?_
  refine (stage_keeps (·.reconciledPositions) _ _ _ (by rfl)).trans ?_
  exact stage_keeps (·.reconciledPositions) _ _ _ (by rfl)

theorem notePosition_unknown :
    (acc.notePosition p hasFill requiredAt late quantity).hasUnknownReconcilePosition
      = acc.hasUnknownReconcilePosition := by
  obtain ⟨reasons, h⟩ := noteUnpriced_eq acc p quantity
  unfold Collected.notePosition
  rw [h]
  refine (stage_keeps (·.hasUnknownReconcilePosition) _ _ _ (by rfl)).trans ?_
  refine (stage_keeps (·.hasUnknownReconcilePosition) _ _ _ (by rfl)).trans ?_
  exact stage_keeps (·.hasUnknownReconcilePosition) _ _ _ (by rfl)

theorem notePosition_blocked :
    (acc.notePosition p hasFill requiredAt late quantity).blockedFillReplayScopes
      = acc.blockedFillReplayScopes ++ if requiredAt ≠ none ∧ late then [p.key] else [] := by
  obtain ⟨reasons, h⟩ := noteUnpriced_eq acc p quantity
  unfold Collected.notePosition
  rw [h]
  refine (stage_keeps (·.blockedFillReplayScopes) _ _ _ (by rfl)).trans ?_
  refine (stage_appends (·.blockedFillReplayScopes) _ _ _ p.key (by rfl)).trans ?_
  exact congrArg (· ++ _) (stage_keeps (·.blockedFillReplayScopes) _ _ _ (by rfl))

theorem notePosition_opening :
    (acc.notePosition p hasFill requiredAt late quantity).openingSeedPositions
      = acc.openingSeedPositions ++ if hasFill = false ∨ requiredAt ≠ none then [p] else [] := by
  obtain ⟨reasons, h⟩ := noteUnpriced_eq acc p quantity
  unfold Collected.notePosition
  rw [h]
  refine (stage_keeps (·.openingSeedPositions) _ _ _ (by rfl)).trans ?_
  refine (stage_keeps (·.openingSeedPositions) _ _ _ (by rfl)).trans ?_
  exact stage_appends (·.openingSeedPositions) _ _ _ p (by rfl)

/-- the last stage leaves a gap where there was one and where the scope has no fills -/
theorem noteUnadjusted_gaps (h : acc.positionRealizedGapScopes ≠ [] ∨ hasFill = false) :
    (if hasFill = false ∧ p.key ∉ acc.positionRealizedGapScopes then acc.noteUnadjusted p
      else acc).positionRealizedGapScopes ≠ [] := by
  split_ifs with hc
  · simp [Collected.noteUnadjusted, Collected.addGap, Collected.addReason]
  · rcases h with hg | hf
    · exact hg
    · exact List.ne_nil_of_mem (not_not.1 fun hk => hc ⟨hf, hk⟩)

theorem blockLate_gaps (c : Prop) {_ : Decidable c} (h : acc.positionRealizedGapScopes ≠ [] ∨ c) :
    (if c then acc.blockLate p else acc).positionRealizedGapScopes ≠ [] := by
  split_ifs with hc
  · simp [Collected.blockLate, Collected.addGap, Collected.addReason]
  · exact h.resolve_right hc

variable {acc p hasFill requiredAt late quantity} in
theorem notePosition_gaps
    (h : acc.positionRealizedGapScopes ≠ [] ∨ (requiredAt ≠ none ∧ late) ∨ hasFill = false) :
    (acc.notePosition p hasFill requiredAt late quantity).positionRealizedGapScopes ≠ [] := by
  obtain ⟨reasons, hr⟩ := noteUnpriced_eq acc p quantity
  have hopen : ∀ c : Prop, [Decidable c] → (if c then (acc.noteUnpriced p quantity).openWith p
      else acc.noteUnpriced p quantity).positionRealizedGapScopes = acc.positionRealizedGapScopes := by
    intro c _; rw [hr]; split_ifs <;> rfl
  refine noteUnadjusted_gaps _ p hasFill ?_
  rcases h with hg | hl | hf
  · exact Or.inl (blockLate_gaps _ p _ (Or.inl (by rw [hopen]; exact hg)))
  · exact Or.inl (blockLate_gaps _ p _ (Or.inr hl))
  · exact Or.inr hf

end NotePosition

structure PositionStep (input : PnLAccountingInput) (snapshots : List PnLSnapshotFact) (p : PnLPositionFact)
    (acc acc' : Collected) : Prop where
  reconciled : acc'.reconciledPositions = acc.reconciledPositions
  blocked : acc'.blockedFillReplayScopes
    = acc.blockedFillReplayScopes ++ if positionBlocks input snapshots p then [p.key] else []
  opening : acc'.openingSeedPositions
    = acc.openingSeedPositions ++ if positionOpens input snapshots p then [p] else []
  /-- a gap stays; a late fact and a fact without fills leave one -/
  gaps : acc.positionRealizedGapScopes ≠ [] ∨ positionBlocks input snapshots p ∨
    (isSnapshotCovered snapshots p.strategyId p.market = false ∧
      isFillCovered input.fills p.strategyId p.market = false) → acc'.positionRealizedGapScopes ≠ []
  unknown : acc'.hasUnknownReconcilePosition = acc.hasUnknownReconcilePosition

theorem collectPosition_step {input : PnLAccountingInput} {snapshots : List PnLSnapshotFact} {p : PnLPositionFact}
    {acc acc' : Collected} (h : collectPosition input snapshots acc p = .ok acc') :
    PositionStep input snapshots p acc acc' := by
  unfold collectPosition at h
  split at h
  · rename_i hcov
    rw [pure_eq_ok] at h
    subst h
    constructor <;> simp [positionOpens, positionBlocks, hcov]
  · rename_i hcov
    obtain ⟨required, hreq, h⟩ := bind_eq_ok.1 h
    obtain ⟨late, hlate, h⟩ := bind_eq_ok.1 h
    obtain ⟨quantity, -, h⟩ := bind_eq_ok.1 h
    rw [pure_eq_ok] at h
    subst h
    have hat := seedRequiredAt_of_ok hreq
    have hcov' : isSnapshotCovered snapshots p.strategyId p.market = false := by simpa using hcov
    have hopens : positionOpens input snapshots p
        = (!isFillCovered input.fills p.strategyId p.market || required.isSome) := by
      simp [positionOpens, hcov', hat]
    have hblocks : positionBlocks input snapshots p = late := by
      rw [positionBlocks, isLate_of_ok hat hlate, hcov', Bool.not_false, Bool.true_and]
    have hrequired : late → required ≠ none := by
      rintro hl rfl
      simp [laterThan] at hlate
      simp [hlate] at hl
    have hlateIff : (required ≠ none ∧ late = true) ↔ late = true := ⟨And.right, fun hl => ⟨hrequired hl, hl⟩⟩
    have hseed : (isFillCovered input.fills p.strategyId p.market = false ∨ required ≠ none)
        ↔ positionOpens input snapshots p = true := by
      rw [hopens]; cases required <;> simp
    refine ⟨notePosition_reconciled .., ?_, ?_, ?_, notePosition_unknown ..⟩
    · rw [notePosition_blocked, hblocks]; simp only [hlateIff]
    · rw [notePosition_opening]; simp only [hseed]
    · rintro (hg | hb | ⟨-, hf⟩)
      · exact notePosition_gaps (Or.inl hg)
      · exact notePosition_gaps (Or.inr (Or.inl (hlateIff.2 (hblocks ▸ hb))))
      · exact notePosition_gaps (Or.inr (Or.inr hf))

/-! ## Whole collections -/

/-- the stages of a replay that returned -/
structure ReplayRun (input : PnLAccountingInput) (r : Replay) : Prop where
  selection : selectEffectiveSnapshots input.pnlSnapshots = .ok r.selection
  totals : summarizeSnapshots r.selection.snapshots = .ok r.totals
  collected : ∃ mid,
    input.reconcileFacts.foldlM (collectReconcile input r.selection.snapshots) (initialCollected r.selection) = .ok mid ∧
    input.positions.foldlM (collectPosition input r.selection.snapshots) mid = .ok r.collected
  sorted : sortFillsByExecutionTime
    (replayableFills input r.selection.snapshots r.collected.blockedFillReplayScopes) = .ok r.ledgerFills
  opening : openingLedger r.collected.reconciledPositions r.collected.openingSeedPositions = .ok r.opening
  ledger : applyFillsToLedger r.opening r.ledgerFills = .ok r.ledger

theorem replay_run {input : PnLAccountingInput} {r : Replay} (h : replay input = .ok r) : ReplayRun input r := by
  unfold replay at h
  obtain ⟨selection, hsel, h⟩ := bind_eq_ok.1 h
  obtain ⟨totals, htot, h⟩ := bind_eq_ok.1 h
  obtain ⟨mid, hmid, h⟩ := bind_eq_ok.1 h
  obtain ⟨collected, hcol, h⟩ := bind_eq_ok.1 h
  obtain ⟨fills, hfills, h⟩ := bind_eq_ok.1 h
  obtain ⟨opening, hopen, h⟩ := bind_eq_ok.1 h
  obtain ⟨ledger, hled, h⟩ := bind_eq_ok.1 h
  rw [pure_eq_ok] at h
  subst h
  exact ⟨hsel, htot, ⟨mid, hmid, hcol⟩, hfills, hopen, hled⟩

omit [Host] in
theorem flatMap_if {α γ : Type} (p : α → Bool) (f : α → γ) (xs : List α) :
    xs.flatMap (fun x => if p x then [f x] else []) = (xs.filter p).map f := by
  induction xs with
  | nil => rfl
  | cons x xs ih => cases hp : p x <;> simp [hp, ih]

namespace ReplayRun

variable {input : PnLAccountingInput} {r : Replay}

theorem reconciled (h : ReplayRun input r) : r.collected.reconciledPositions
    = (input.reconcileFacts.filter (reconcileOpens input r.selection.snapshots)).map toPositionLike := by
  obtain ⟨mid, hmid, hcol⟩ := h.collected
  have h1 := foldlM_collects (·.reconciledPositions)
    (fun rec => if reconcileOpens input r.selection.snapshots rec then [toPositionLike rec] else [])
    (fun _ _ _ hstep => (collectReconcile_step hstep).reconciled) hmid
  have h2 := foldlM_keeps (fun c => c.reconciledPositions = mid.reconciledPositions)
    (fun _ _ _ _ hstep hb => (collectPosition_step hstep).reconciled.trans hb) hcol rfl
  rw [h2, h1, flatMap_if]
  rfl

theorem seeds (h : ReplayRun input r) : r.collected.openingSeedPositions
    = input.positions.filter (positionOpens input r.selection.snapshots) := by
  obtain ⟨mid, hmid, hcol⟩ := h.collected
  have h1 := foldlM_keeps (fun c : Collected => c.openingSeedPositions = [])
    (fun _ _ _ _ hstep hb => (collectReconcile_step hstep).opening.trans hb) hmid rfl
  have h2 := foldlM_collects (·.openingSeedPositions)
    (fun p => if positionOpens input r.selection.snapshots p then [p] else [])
    (fun _ _ _ hstep => (collectPosition_step hstep).opening) hcol
  rw [h2, h1, flatMap_if, List.nil_append, List.map_id']

/-- **The ledger opens with the input's opening facts.** -/
theorem openingFacts (h : ReplayRun input r) :
    r.collected.reconciledPositions ++ r.collected.openingSeedPositions
      = openingFacts input r.selection.snapshots := by
  rw [h.reconciled, h.seeds, Pnl.openingFacts]

theorem mem_blocked_iff (h : ReplayRun input r) (key : String) :
    key ∈ r.collected.blockedFillReplayScopes ↔ replayBlocked input r.selection.snapshots key = true := by
  obtain ⟨mid, hmid, hcol⟩ := h.collected
  have h1 := foldlM_collects (·.blockedFillReplayScopes)
    (fun rec => if reconcileBlocks input r.selection.snapshots rec then [rec.key] else [])
    (fun _ _ _ hstep => (collectReconcile_step hstep).blocked) hmid
  have h2 := foldlM_collects (·.blockedFillReplayScopes)
    (fun p => if positionBlocks input r.selection.snapshots p then [p.key] else [])
    (fun _ _ _ hstep => (collectPosition_step hstep).blocked) hcol
  rw [h2, h1, flatMap_if, flatMap_if]
  simp [replayBlocked, initialCollected, and_assoc]

/-- a blocked scope leaves the realised PnL unknown -/
theorem blocked_unknown (h : ReplayRun input r) (hb : r.collected.blockedFillReplayScopes ≠ []) :
    r.collected.hasUnknownReconcilePosition ∨ r.collected.positionRealizedGapScopes ≠ [] := by
  obtain ⟨mid, hmid, hcol⟩ := h.collected
  have hreconcile := foldlM_keeps (fun c : Collected => c.blockedFillReplayScopes ≠ [] → c.hasUnknownReconcilePosition)
    (fun b rec b' _ hstep hb hne => by
      have step := collectReconcile_step hstep
      refine step.unknown ?_
      rw [step.blocked] at hne
      split_ifs at hne with hc
      · exact Or.inr (unknown_of_blocks hc)
      · exact Or.inl (hb (by simpa using hne))) hmid (fun hne => absurd rfl hne)
  refine foldlM_keeps (fun c : Collected => c.blockedFillReplayScopes ≠ [] →
      c.hasUnknownReconcilePosition ∨ c.positionRealizedGapScopes ≠ [])
    (fun b p b' _ hstep hb hne => ?_) hcol (fun hne => Or.inl (hreconcile hne)) hb
  have step := collectPosition_step hstep
  rw [step.blocked] at hne
  rw [step.unknown]
  split_ifs at hne with hc
  · exact Or.inr (step.gaps (Or.inr (Or.inl hc)))
  · exact (hb (by simpa using hne)).imp id (fun hg => step.gaps (Or.inl hg))

/-- a reconcile fact that explains nothing makes the holdings unknown -/
theorem unknown_of_reconcile (h : ReplayRun input r) {rec : PnLReconcileFact} (hmem : rec ∈ input.reconcileFacts)
    (hu : reconcileUnknown input r.selection.snapshots rec = true) : r.collected.hasUnknownReconcilePosition = true := by
  obtain ⟨mid, hmid, hcol⟩ := h.collected
  obtain ⟨before, after, hsplit⟩ := List.append_of_mem hmem
  rw [hsplit, foldlM_append_ok] at hmid
  obtain ⟨c, -, hrest⟩ := hmid
  rw [List.foldlM_cons, bind_eq_ok] at hrest
  obtain ⟨c', hstep, hafter⟩ := hrest
  have hat : c'.hasUnknownReconcilePosition = true := (collectReconcile_step hstep).unknown (Or.inr hu)
  have hmid : mid.hasUnknownReconcilePosition = true :=
    foldlM_keeps (fun c : Collected => c.hasUnknownReconcilePosition = true)
      (fun _ _ _ _ hs hb => (collectReconcile_step hs).unknown (Or.inl hb)) hafter hat
  exact foldlM_keeps (fun c : Collected => c.hasUnknownReconcilePosition = true)
    (fun _ _ _ _ hs hb => (collectPosition_step hs).unknown.trans hb) hcol hmid

/-- without a gap every position no snapshot covers has fills under its key -/
theorem gaps_filled (h : ReplayRun input r) (hg : r.collected.positionRealizedGapScopes = []) :
    ∀ p ∈ input.positions, isSnapshotCovered r.selection.snapshots p.strategyId p.market = false →
      isFillCovered input.fills p.strategyId p.market = true := by
  obtain ⟨mid, -, hcol⟩ := h.collected
  have hgap : ∀ {ps : List PnLPositionFact} {c c' : Collected},
      ps.foldlM (collectPosition input r.selection.snapshots) c = .ok c' → c'.positionRealizedGapScopes = [] →
      ∀ p ∈ ps, isSnapshotCovered r.selection.snapshots p.strategyId p.market = false →
        isFillCovered input.fills p.strategyId p.market = true := by
    intro ps
    induction ps with
    | nil => simp
    | cons p ps ih =>
      intro c c' hrun hnil q hq hcov
      rw [List.foldlM_cons, bind_eq_ok] at hrun
      obtain ⟨c₁, hstep, hrest⟩ := hrun
      rcases List.mem_cons.1 hq with rfl | hmem
      · by_contra hfill
        have hgap₁ : c₁.positionRealizedGapScopes ≠ [] :=
          (collectPosition_step hstep).gaps (Or.inr (Or.inr ⟨hcov, by simpa using hfill⟩))
        exact foldlM_keeps (fun c : Collected => c.positionRealizedGapScopes ≠ [])
          (fun _ _ _ _ hs hb => (collectPosition_step hs).gaps (Or.inl hb)) hrest hgap₁ hnil
      · exact ih hrest hnil q hmem hcov
  exact hgap hcol hg

end ReplayRun

/-! ## The opening lot -/

/-- a fact of the scope with something to hold -/
def isLot (key : String) (p : PnLPositionFact) : Bool := p.key = key ∧ 0 < amount p.quantity

/-- the fact that opens `key`: the first of positive quantity, or the first if all are flat -/
def openingLot (facts : List PnLPositionFact) (key : String) : Option PnLPositionFact :=
  (facts.find? (isLot key)).or (facts.find? (fun p => p.key = key))

/-- a seed is written where no lot is open, and nowhere else -/
def SeedsQuantity (p : PnLPositionFact) (ledger ledger' : Ledger) : Prop :=
  (∀ key, ledger'.quantityOf key
    = if p.key = key ∧ ¬ 0 < ledger.quantityOf key then amount p.quantity else ledger.quantityOf key) ∧
  (¬ 0 < ledger.quantityOf p.key → 0 ≤ amount p.quantity)

omit [Host] in
theorem isOpen_iff (ledger : Ledger) (key : String) : ledger.isOpen key = true ↔ 0 < ledger.quantityOf key := by
  unfold Ledger.isOpen Ledger.quantityOf
  cases ledger.positions.get key <;> simp

theorem seedsQuantity_of_open {p : PnLPositionFact} {ledger : Ledger} (h : ledger.isOpen p.key = true) :
    SeedsQuantity p ledger ledger := by
  rw [isOpen_iff] at h
  refine ⟨fun key => ?_, fun hn => absurd h hn⟩
  split_ifs with hc
  · exact absurd (hc.1 ▸ h) hc.2
  · rfl

theorem seedsQuantity_of_write {p : PnLPositionFact} {ledger : Ledger} (h : ledger.isOpen p.key = false) {entry : PositionLedger} (hq : entry.quantity = amount p.quantity)
    (hpos : 0 ≤ amount p.quantity) : SeedsQuantity p ledger (ledger.setPosition p.key entry) := by
  have hclosed : ¬ 0 < ledger.quantityOf p.key := by rw [← isOpen_iff, h]; simp
  refine ⟨fun key => ?_, fun _ => hpos⟩
  rw [quantityOf_write ledger _ p.key entry rfl, hq]
  by_cases hk : p.key = key
  · subst hk; simp [hclosed]
  · simp [hk]

omit [Host] in
/-- the entry a seed is written on is flat -/
theorem entry_zero {ledger : Ledger} {seeded : ℚ} (hb : ledger.Books seeded) {p : PnLPositionFact}
    (h : ledger.isOpen p.key = false) :
    (getOrCreatePositionLedger ledger p.key p.strategyId p.market).quantity = 0 :=
  (hb.entry_of_not_open p.key p.strategyId p.market h).1

theorem seedFromPosition_quantity {p : PnLPositionFact} {ledger ledger' : Ledger} {seeded : ℚ}
    (hb : ledger.Books seeded) (h : seedFromPosition ledger p = .ok ledger') : SeedsQuantity p ledger ledger' := by
  unfold seedFromPosition at h
  split at h
  · rename_i hopen
    rw [pure_eq_ok] at h
    exact h ▸ seedsQuantity_of_open hopen
  · rename_i hopen
    have hclosed : ledger.isOpen p.key = false := by simpa using hopen
    obtain ⟨avgPrice, -, h⟩ := bind_eq_ok.1 h
    obtain ⟨unrealized, -, h⟩ := bind_eq_ok.1 h
    split at h
    · rename_i hz
      rw [pure_eq_ok] at h
      have hzero : amount p.quantity = 0 := by rw [hz, amount_zero]
      exact h ▸ seedsQuantity_of_write hclosed ((entry_zero hb hclosed).trans hzero.symm) hzero.ge
    · obtain ⟨qty, hqty, h⟩ := bind_eq_ok.1 h
      have hamount := amount_of_parse hqty
      have hnn := parseNonNegativeDecimal_nonneg hqty
      rw [← hamount] at hnn
      split at h
      · split at h <;> rw [pure_eq_ok] at h <;> exact h ▸ seedsQuantity_of_write hclosed hamount.symm hnn
      · rename_i hle
        rw [pure_eq_ok] at h
        have hzero : amount p.quantity = 0 := le_antisymm (by rw [hamount]; exact not_lt.1 hle) hnn
        exact h ▸ seedsQuantity_of_write hclosed ((entry_zero hb hclosed).trans hzero.symm) hzero.ge

theorem seedFromReconcile_quantity {p : PnLPositionFact} {ledger ledger' : Ledger} {seeded : ℚ}
    (havg : p.averageEntryPrice ≠ none) (hb : ledger.Books seeded) (h : seedFromReconcile ledger p = .ok ledger') :
    SeedsQuantity p ledger ledger' := by
  unfold seedFromReconcile at h
  split at h
  · rename_i hopen
    rw [pure_eq_ok] at h
    exact h ▸ seedsQuantity_of_open hopen
  · rename_i hopen
    have hclosed : ledger.isOpen p.key = false := by simpa using hopen
    obtain ⟨avgPrice, hparse, h⟩ := bind_eq_ok.1 h
    split at h
    · rename_i hz
      rw [pure_eq_ok] at h
      have hzero : amount p.quantity = 0 := by rw [hz, amount_zero]
      exact h ▸ seedsQuantity_of_write hclosed ((entry_zero hb hclosed).trans hzero.symm) hzero.ge
    · obtain ⟨qty, hqty, h⟩ := bind_eq_ok.1 h
      have hamount := amount_of_parse hqty
      have hnn := parseNonNegativeDecimal_nonneg hqty
      rw [← hamount] at hnn
      rcases parseOptional_eq_ok hparse with ⟨hn, -⟩ | ⟨s, avg, -, rfl, -⟩
      · exact absurd hn havg
      · simp only at h
        split at h
        · rw [pure_eq_ok] at h
          exact h ▸ seedsQuantity_of_write hclosed hamount.symm hnn
        · rename_i hle
          rw [pure_eq_ok] at h
          have hzero : amount p.quantity = 0 := le_antisymm (by rw [hamount]; exact not_lt.1 hle) hnn
          exact h ▸ seedsQuantity_of_write hclosed ((entry_zero hb hclosed).trans hzero.symm) hzero.ge

/-- a run of seeds, as far as quantities go -/
inductive SeedRun : Ledger → List PnLPositionFact → Ledger → Prop where
  | nil (ledger : Ledger) : SeedRun ledger [] ledger
  | cons {ledger mid ledger' : Ledger} {p : PnLPositionFact} {ps : List PnLPositionFact}
      (hstep : SeedsQuantity p ledger mid) (hrest : SeedRun mid ps ledger') : SeedRun ledger (p :: ps) ledger'

theorem SeedRun.append {l₁ l₂ l₃ : Ledger} {ps qs : List PnLPositionFact} (h : SeedRun l₁ ps l₂)
    (h' : SeedRun l₂ qs l₃) : SeedRun l₁ (ps ++ qs) l₃ := by
  induction h with
  | nil => exact h'
  | cons hstep _ ih => exact SeedRun.cons hstep (ih h')

theorem seedRun_of_foldlM {f : Ledger → PnLPositionFact → Except Thrown Ledger} {ps : List PnLPositionFact}
    (hstep : ∀ ledger p ledger', p ∈ ps → ledger.Books ledger.totalCost → f ledger p = .ok ledger' →
      SeedsQuantity p ledger ledger' ∧ ledger'.Books ledger'.totalCost) {ledger ledger' : Ledger}
    (hb : ledger.Books ledger.totalCost) (h : ps.foldlM f ledger = .ok ledger') :
    SeedRun ledger ps ledger' ∧ ledger'.Books ledger'.totalCost := by
  induction ps generalizing ledger with
  | nil =>
    rw [List.foldlM_nil, pure_eq_ok] at h
    exact h ▸ ⟨SeedRun.nil _, hb⟩
  | cons p ps ih =>
    rw [List.foldlM_cons, bind_eq_ok] at h
    obtain ⟨mid, hmid, hrest⟩ := h
    obtain ⟨hq, hmidb⟩ := hstep ledger p mid (by simp) hb hmid
    obtain ⟨hrun, hbooks⟩ := ih (fun l q l' hq => hstep l q l' (by simp [hq])) hmidb hrest
    exact ⟨SeedRun.cons hq hrun, hbooks⟩

theorem openingLedger_run {reconciled positions : List PnLPositionFact} {ledger : Ledger}
    (hpriced : ∀ p ∈ reconciled, p.averageEntryPrice ≠ none)
    (h : openingLedger reconciled positions = .ok ledger) :
    SeedRun createEmptyLedger (reconciled ++ positions) ledger := by
  obtain ⟨mid, hmid, hrest⟩ := bind_eq_ok.1 h
  have keeps : ∀ (l l' : Ledger) (p : PnLPositionFact), l.Books l.totalCost →
      (l' = l ∨ (l.isOpen p.key = false ∧ ∃ entry, l' = l.setPosition p.key entry ∧
        SeedsAs p (getOrCreatePositionLedger l p.key p.strategyId p.market) entry)) → l'.Books l'.totalCost := by
    rintro l l' p hb (rfl | ⟨hopen, entry, rfl, hs⟩)
    · exact hb
    · exact hs.books hb hopen
  obtain ⟨hrun₁, hb₁⟩ := seedRun_of_foldlM (f := seedFromReconcile)
    (fun l p l' hp hb hs => ⟨seedFromReconcile_quantity (hpriced p hp) hb hs,
      keeps l l' p hb (seedFromReconcile_cases hs)⟩) createEmptyLedger_books hmid
  obtain ⟨hrun₂, -⟩ := seedRun_of_foldlM (f := seedFromPosition)
    (fun l p l' _ hb hs => ⟨seedFromPosition_quantity hb hs, keeps l l' p hb (seedFromPosition_cases hs)⟩) hb₁ hrest
  exact hrun₁.append hrun₂

theorem SeedRun.of_open {ledger ledger' : Ledger} {ps : List PnLPositionFact} {key : String}
    (h : SeedRun ledger ps ledger') (hopen : 0 < ledger.quantityOf key) :
    ledger'.quantityOf key = ledger.quantityOf key := by
  induction h with
  | nil => rfl
  | cons hstep _ ih =>
    have hq := hstep.1 key
    rw [if_neg (fun hc => hc.2 hopen)] at hq
    rw [ih (by rw [hq]; exact hopen), hq]

/-- from a flat key, the lot is the first fact of positive quantity -/
theorem SeedRun.lot {ledger ledger' : Ledger} {ps : List PnLPositionFact} {key : String} (h : SeedRun ledger ps ledger')
    (hflat : ledger.quantityOf key = 0) :
    ledger'.quantityOf key = ((ps.find? (isLot key)).map (fun p => amount p.quantity)).getD 0 := by
  induction h with
  | nil => simpa using hflat
  | @cons ledger mid ledger' q ps hstep hrest ih =>
    have hq := hstep.1 key
    have hclosed : ¬ 0 < ledger.quantityOf key := by rw [hflat]; exact lt_irrefl 0
    by_cases hk : q.key = key
    · rw [if_pos ⟨hk, hclosed⟩] at hq
      rcases (hstep.2 (hk ▸ hclosed)).lt_or_eq with hpos | hzero
      · have hlot : isLot key q = true := by simp [isLot, hk, hpos]
        rw [hrest.of_open (by rw [hq]; exact hpos), hq, List.find?_cons_of_pos hlot]
        rfl
      · have hlot : ¬ isLot key q = true := by simp [isLot, ← hzero]
        rw [List.find?_cons_of_neg hlot]
        exact ih (by rw [hq, ← hzero])
    · have hlot : ¬ isLot key q = true := by simp [isLot, hk]
      rw [if_neg (fun hc => hk hc.1)] at hq
      rw [List.find?_cons_of_neg hlot]
      exact ih (by rw [hq, hflat])

/-- where no fact of a flat key has a positive quantity, they are all flat: a negative one would have thrown -/
theorem SeedRun.flat_facts {ledger ledger' : Ledger} {ps : List PnLPositionFact} {key : String}
    (h : SeedRun ledger ps ledger') (hflat : ledger.quantityOf key = 0) (hnone : ps.find? (isLot key) = none) :
    ∀ p ∈ ps, p.key = key → amount p.quantity = 0 := by
  induction h with
  | nil => simp
  | @cons ledger mid ledger' q ps hstep hrest ih =>
    have hnot : ¬ isLot key q = true := List.find?_eq_none.1 hnone q (by simp)
    rw [List.find?_cons_of_neg hnot] at hnone
    have hclosed : ¬ 0 < ledger.quantityOf key := by rw [hflat]; exact lt_irrefl 0
    have hzero : q.key = key → amount q.quantity = 0 := by
      intro hk
      refine le_antisymm ?_ (hstep.2 (hk ▸ hclosed))
      simpa [isLot, hk] using hnot
    have hmid : mid.quantityOf key = 0 := by
      rw [hstep.1 key]
      split_ifs with hc
      · exact hzero hc.1
      · exact hflat
    intro p hp hk
    rcases List.mem_cons.1 hp with rfl | hmem
    · exact hzero hk
    · exact ih hmid hnone p hmem hk

/-- **The opening lot.** The quantity the ledger opens with under a key is that of the fact that opens it. -/
theorem SeedRun.openingLot {ledger ledger' : Ledger} {ps : List PnLPositionFact} {key : String}
    (h : SeedRun ledger ps ledger') (hflat : ledger.quantityOf key = 0) {p : PnLPositionFact}
    (hlot : openingLot ps key = some p) : ledger'.quantityOf key = amount p.quantity := by
  rw [h.lot hflat]
  unfold Pnl.openingLot at hlot
  cases hfind : ps.find? (isLot key) with
  | some w =>
    rw [hfind, Option.some_or, Option.some.injEq] at hlot
    rw [← hlot]
    rfl
  | none =>
    rw [hfind, Option.none_or] at hlot
    have hk : p.key = key := by simpa using List.find?_some hlot
    rw [h.flat_facts hflat hfind p (List.mem_of_find?_eq_some hlot) hk]
    rfl

/-! ## Reported quantities -/

/-- the stages of a calculation that returned -/
structure CalculationRun (input : PnLAccountingInput) (r : Replay) (v : Valuation) (out : PnLAccountingOutput) :
    Prop where
  replay : ReplayRun input r
  valuation : ∃ cashKrw markPriceMap, cashTotal input.cash = .ok cashKrw ∧
    buildMarkPriceMap input.markPrices = .ok markPriceMap ∧ v = valuate input r cashKrw markPriceMap
  realized : out.realizedPnlKrw = v.realizedPnlKrw
  unrealized : out.unrealizedPnlKrw = v.unrealizedPnlKrw
  positions : out.positions = v.details.map (·.2)
  trace : buildTrace input r.selection.snapshots = .ok out.trace

theorem calculate_run {input : PnLAccountingInput} {r : Replay} {v : Valuation} {out : PnLAccountingOutput}
    (h : calculate input = .ok (r, v, out)) : CalculationRun input r v out := by
  unfold calculate at h
  obtain ⟨r', hr, h⟩ := bind_eq_ok.1 h
  obtain ⟨⟨v', out'⟩, ha, h⟩ := bind_eq_ok.1 h
  simp only [pure_eq_ok, Prod.mk.injEq] at h
  obtain ⟨rfl, rfl, rfl⟩ := h
  unfold assemble at ha
  obtain ⟨cashKrw, hcash, ha⟩ := bind_eq_ok.1 ha
  obtain ⟨marks, hmarks, ha⟩ := bind_eq_ok.1 ha
  obtain ⟨_, -, ha⟩ := bind_eq_ok.1 ha
  obtain ⟨_, -, ha⟩ := bind_eq_ok.1 ha
  obtain ⟨_, -, ha⟩ := bind_eq_ok.1 ha
  obtain ⟨_, -, ha⟩ := bind_eq_ok.1 ha
  obtain ⟨_, -, ha⟩ := bind_eq_ok.1 ha
  obtain ⟨_, -, ha⟩ := bind_eq_ok.1 ha
  obtain ⟨_, -, ha⟩ := bind_eq_ok.1 ha
  obtain ⟨_, -, ha⟩ := bind_eq_ok.1 ha
  obtain ⟨_, htrace, ha⟩ := bind_eq_ok.1 ha
  rw [pure_eq_ok, Prod.mk.injEq] at ha
  obtain ⟨rfl, rfl⟩ := ha
  exact ⟨replay_run hr, ⟨cashKrw, marks, hcash, hmarks, rfl⟩, rfl, rfl, rfl, htrace⟩

theorem calculate_replay {input : PnLAccountingInput} {r : Replay} {v : Valuation} {out : PnLAccountingOutput}
    (h : calculate input = .ok (r, v, out)) : replay input = .ok r := by
  unfold calculate at h
  obtain ⟨r', hr, h⟩ := bind_eq_ok.1 h
  obtain ⟨⟨v', out'⟩, -, h⟩ := bind_eq_ok.1 h
  simp only [pure_eq_ok, Prod.mk.injEq] at h
  exact h.1 ▸ hr

/-- the quantity reported for a scope key, zero where no detail is written -/
def Valuation.reportedQuantity (v : Valuation) (key : String) : ℚ :=
  ((assocGet v.details key).map (·.quantity)).getD 0

theorem CalculationRun.reported {input : PnLAccountingInput} {r : Replay} {v : Valuation} {out : PnLAccountingOutput}
    (h : CalculationRun input r v out) (key : String) : v.reportedQuantity key = r.ledger.quantityOf key := by
  obtain ⟨cashKrw, marks, -, -, rfl⟩ := h.valuation
  unfold Valuation.reportedQuantity Ledger.quantityOf InsertionMap.get
  rw [valuate_details]
  simp only [calculatePositionDetails, Ledger.openEntries]
  rw [assocGet_filter_map _ _ r.ledger.positions.nodup]
  cases assocGet r.ledger.positions.entries key with
  | none => rfl
  | some pos =>
    by_cases hq : pos.quantity = 0
    · simp [Option.filter, hq]
    · simp [Option.filter, hq, positionDetail]

/-! ## Net quantities -/

/-- bought minus sold over a list of fills -/
def netOf (fills : List PnLFillFact) : ℚ := (fills.map signedQuantity).sum

theorem netOf_perm {xs ys : List PnLFillFact} (h : xs.Perm ys) : netOf xs = netOf ys :=
  (h.map signedQuantity).sum_eq

theorem netOf_split (p : PnLFillFact → Bool) (fills : List PnLFillFact) :
    netOf fills = netOf (fills.filter p) + netOf (fills.filter (fun f => !p f)) := by
  unfold netOf
  induction fills with
  | nil => simp
  | cons f fs ih => cases hp : p f <;> simp [hp, ih] <;> ring

theorem netQuantity_eq_netOf (key : String) (fills : List PnLFillFact) :
    netQuantity key fills = netOf (fills.filter (fun f => f.key = key)) := by
  induction fills with
  | nil => simp [netOf]
  | cons f fs ih =>
    rw [netQuantity_cons, ih]
    by_cases hk : f.key = key
    · simp [hk, netOf]
    · simp [hk]

/-! ## Each fill once -/

/-- the fills of the fact's own strategy and market -/
def ownFills (input : PnLAccountingInput) (fact : PnLPositionFact) : List PnLFillFact :=
  input.fills.filter (fun f => f.strategyId = fact.strategyId ∧ f.market = fact.market)

/-- fills of another strategy and market that are booked under the same key -/
def foreignFills (input : PnLAccountingInput) (snapshots : List PnLSnapshotFact) (fact : PnLPositionFact) :
    List PnLFillFact :=
  input.fills.filter (fun f => f.key = fact.key ∧ ¬ (f.strategyId = fact.strategyId ∧ f.market = fact.market) ∧
    isSnapshotCovered snapshots f.strategyId f.market = false)

def isAfter (t : Int) (fill : PnLFillFact) : Bool := fill.filledAt.millis.any (t < ·)

def fillsUpTo (t : Int) (fills : List PnLFillFact) : List PnLFillFact := fills.filter (fun f => !isAfter t f)

def fillsAfter (t : Int) (fills : List PnLFillFact) : List PnLFillFact := fills.filter (isAfter t)

theorem uncovered_of_opens {input : PnLAccountingInput} {snapshots : List PnLSnapshotFact} {fact : PnLPositionFact}
    (h : fact ∈ openingFacts input snapshots) :
    isSnapshotCovered snapshots fact.strategyId fact.market = false := by
  unfold openingFacts at h
  rcases List.mem_append.1 h with hr | hp
  · obtain ⟨r, hmem, rfl⟩ := List.mem_map.1 hr
    have := (List.mem_filter.1 hmem).2
    simp only [reconcileOpens, reconcileApplies, Bool.and_eq_true, Bool.not_eq_true'] at this
    exact this.1.1.1.1.1
  · have := (List.mem_filter.1 hp).2
    simp only [positionOpens, Bool.and_eq_true, Bool.not_eq_true'] at this
    exact this.1

/-- what the replay books on the key of an opening fact: its own fills and foreign ones, unless the scope is blocked -/
theorem ReplayRun.net_booked {input : PnLAccountingInput} {r : Replay} (h : ReplayRun input r) {fact : PnLPositionFact}
    (hfact : fact ∈ Pnl.openingFacts input r.selection.snapshots) :
    netQuantity fact.key r.ledgerFills
      = if replayBlocked input r.selection.snapshots fact.key then 0
        else netOf (ownFills input fact) + netOf (foreignFills input r.selection.snapshots fact) := by
  rw [netQuantity_eq_netOf, netOf_perm ((sortFills_perm h.sorted).filter _), replayableFills, List.filter_filter]
  split_ifs with hb
  · rw [← h.mem_blocked_iff] at hb
    have hnil : input.fills.filter (fun f => decide (f.key = fact.key) &&
        decide (isSnapshotCovered r.selection.snapshots f.strategyId f.market = false ∧
          f.key ∉ r.collected.blockedFillReplayScopes)) = [] := by
      rw [List.filter_eq_nil_iff]
      intro f _ hf
      simp only [Bool.and_eq_true, decide_eq_true_eq] at hf
      exact hf.2.2 (hf.1 ▸ hb)
    rw [hnil]
    rfl
  · rw [← h.mem_blocked_iff] at hb
    rw [netOf_split (fun f => decide (f.strategyId = fact.strategyId ∧ f.market = fact.market)), List.filter_filter,
      List.filter_filter]
    have huncov := uncovered_of_opens hfact
    congr 2
    · unfold ownFills
      refine List.filter_congr fun f _ => ?_
      by_cases hf : f.strategyId = fact.strategyId ∧ f.market = fact.market
      · have hkey : f.key = fact.key := by unfold PnLFillFact.key PnLPositionFact.key; rw [hf.1, hf.2]
        simp [hf.1, hf.2, hkey, huncov, hb]
      · simp [hf]
    · unfold foreignFills
      refine List.filter_congr fun f _ => ?_
      by_cases hkey : f.key = fact.key
      · by_cases hf : f.strategyId = fact.strategyId ∧ f.market = fact.market
        · simp [hf.1, hf.2]
        · simp [hf, hkey, hb]
      · simp [hkey]

/-- a requested scope keeps all its fills -/
theorem ownFills_filtered {input : PnLAccountingInput} {snapshots : List PnLSnapshotFact} {fact : PnLPositionFact}
    (h : fact ∈ openingFacts (applyTargetScopeFilter input) snapshots) :
    ownFills (applyTargetScopeFilter input) fact = ownFills input fact := by
  unfold ownFills
  by_cases ht : input.targets = []
  · simp [applyTargetScopeFilter, ht]
  · have hmatch : matchesScopedFact input.targets fact.strategyId fact.market = true := by
      unfold openingFacts at h
      rcases List.mem_append.1 h with hr | hp
      · obtain ⟨r, hmem, rfl⟩ := List.mem_map.1 hr
        have hr := (List.mem_filter.1 hmem).1
        simp only [applyTargetScopeFilter, if_neg ht, List.mem_filter] at hr
        exact hr.2
      · have hp := (List.mem_filter.1 hp).1
        simp only [applyTargetScopeFilter, if_neg ht, List.mem_filter] at hp
        exact hp.2
    simp only [applyTargetScopeFilter, if_neg ht, List.filter_filter]
    refine List.filter_congr fun f _ => ?_
    by_cases hf : f.strategyId = fact.strategyId ∧ f.market = fact.market
    · simp [hf.1, hf.2, hmatch]
    · simp [hf]

theorem openingLot_mem {facts : List PnLPositionFact} {key : String} {p : PnLPositionFact}
    (h : openingLot facts key = some p) : p ∈ facts := by
  unfold openingLot at h
  rcases Option.or_eq_some_iff.1 h with h | ⟨-, h⟩ <;> exact List.mem_of_find?_eq_some h

theorem ReplayRun.opening_quantity {input : PnLAccountingInput} {r : Replay} (h : ReplayRun input r)
    {fact : PnLPositionFact} {key : String}
    (hlot : openingLot (Pnl.openingFacts input r.selection.snapshots) key = some fact) :
    r.opening.quantityOf key = amount fact.quantity := by
  have hpriced : ∀ p ∈ r.collected.reconciledPositions, p.averageEntryPrice ≠ none := by
    intro p hp
    rw [h.reconciled] at hp
    obtain ⟨rec, hmem, rfl⟩ := List.mem_map.1 hp
    have hopens := (List.mem_filter.1 hmem).2
    simp only [reconcileOpens, Bool.and_eq_true] at hopens
    exact Option.isSome_iff_ne_none.1 hopens.2
  have hrun := openingLedger_run hpriced h.opening
  rw [h.openingFacts] at hrun
  exact hrun.openingLot rfl hlot

/-- the exact condition: nothing the replay books on the opening lot is already inside it -/
def CountsOnce (input : PnLAccountingInput) (snapshots : List PnLSnapshotFact) (fact : PnLPositionFact) (t : Int) :
    Prop :=
  if replayBlocked input snapshots fact.key then netOf (fillsAfter t (ownFills input fact)) = 0
  else netOf (fillsUpTo t (ownFills input fact)) + netOf (foreignFills input snapshots fact) = 0

/-- **Counted once.** Take an opening fact that states the true holding at its own time: the initial holding plus the
net of the scope's fills up to then. The scope is reported at its true holding exactly when the fills up to that time
(and foreign fills under its key) net to zero, or, where a late fact blocks the replay, the fills after it do. -/
theorem seed_counts_once_iff {input : PnLAccountingInput} {r : Replay} {v : Valuation} {out : PnLAccountingOutput}
    (h : calculate (applyTargetScopeFilter input) = .ok (r, v, out)) (fact : PnLPositionFact) (t : Int) (initial : ℚ)
    (hlot : openingLot (openingFacts (applyTargetScopeFilter input) r.selection.snapshots) fact.key = some fact)
    (_ : fact.updatedAt.millis = some t)
    (htrue : amount fact.quantity = initial + netOf (fillsUpTo t (ownFills input fact))) :
    v.reportedQuantity fact.key = initial + netOf (ownFills input fact) ↔
      CountsOnce (applyTargetScopeFilter input) r.selection.snapshots fact t := by
  have hrun := calculate_run h
  have hmem := openingLot_mem hlot
  have hown := ownFills_filtered hmem
  have hsplit := netOf_split (isAfter t) (ownFills input fact)
  have hsplit' : netOf (ownFills input fact)
      = netOf (fillsAfter t (ownFills input fact)) + netOf (fillsUpTo t (ownFills input fact)) := hsplit
  rw [hrun.reported, applyFillsToLedger_quantity hrun.replay.ledger, hrun.replay.opening_quantity hlot,
    hrun.replay.net_booked hmem, htrue, CountsOnce, hown]
  split_ifs
  · rw [hsplit']
    constructor <;> intro hq <;> linarith
  · rw [hsplit']
    constructor <;> intro hq <;> linarith

end Seeds

/-- an input of fills and positions only -/
def tradingInput (fills : List PnLFillFact) (positions : List PnLPositionFact) : PnLAccountingInput :=
  { capturedAt := none, targetScopes := none, fills := fills, positions := positions, markPrices := [], cash := none,
    costQuality := [], pnlSnapshots := [], reconcileFacts := [], trace := none }

def heldTwo : PnLPositionFact := { seedAt "2" "10" with updatedAt := .at 2 }

/-- without snapshots in the input none are selected -/
theorem tradingInput_selection {fills : List PnLFillFact} {positions : List PnLPositionFact} {r : Replay} {v : Valuation}
    {out : PnLAccountingOutput} (h : calculate (applyTargetScopeFilter (tradingInput fills positions)) = .ok (r, v, out)) :
    r.selection.snapshots = [] := by
  have hsel : (selectEffectiveSnapshots []).toOption.map (·.snapshots) = some [] := by decide +kernel
  have hrun : selectEffectiveSnapshots [] = .ok r.selection := (calculate_run h).replay.selection
  simpa [hrun, Except.toOption] using hsel

/-- two units held at time 2, both sold at time 3: reported flat, as they are -/
theorem seed_then_sell_reported : ∃ r v out,
    calculate (applyTargetScopeFilter (tradingInput [fillAt .sell "2" "20" 3] [heldTwo])) = .ok (r, v, out) ∧
    v.reportedQuantity heldTwo.key = 2 + netOf [fillAt .sell "2" "20" 3] := by
  obtain ⟨⟨r, v, out⟩, h⟩ := exists_ok (show (calculate (applyTargetScopeFilter
    (tradingInput [fillAt .sell "2" "20" 3] [heldTwo]))).toOption.isSome by decide +kernel)
  refine ⟨r, v, out, h, (seed_counts_once_iff h heldTwo 2 2 ?_ rfl ?_).2 ?_⟩
  · rw [tradingInput_selection h]; decide +kernel
  · decide +kernel
  · rw [tradingInput_selection h, CountsOnce, if_neg (by decide +kernel)]; decide +kernel

def boughtThenSold : PnLAccountingInput :=
  tradingInput [fillAt .buy "1" "10" 1, fillAt .sell "2" "20" 3] [heldTwo]

/-- one held, one bought at time 1, two held at time 2, two sold at time 3: the purchase is inside the position and is
replayed on top of it, so one unit is reported where none is held -/
theorem fills_before_seed_counted_twice : ∃ r v out,
    calculate (applyTargetScopeFilter boughtThenSold) = .ok (r, v, out) ∧
    openingLot (openingFacts (applyTargetScopeFilter boughtThenSold) r.selection.snapshots) heldTwo.key = some heldTwo ∧
    heldTwo.updatedAt.millis = some 2 ∧
    amount heldTwo.quantity = 1 + netOf (fillsUpTo 2 (ownFills boughtThenSold heldTwo)) ∧
    v.reportedQuantity heldTwo.key ≠ 1 + netOf (ownFills boughtThenSold heldTwo) := by
  obtain ⟨⟨r, v, out⟩, h⟩ := exists_ok (show (calculate (applyTargetScopeFilter boughtThenSold)).toOption.isSome by
    decide +kernel)
  have hreported : (calculate (applyTargetScopeFilter boughtThenSold)).toOption.map
      (fun x => x.2.1.reportedQuantity heldTwo.key) = some 1 := by decide +kernel
  rw [h] at hreported
  refine ⟨r, v, out, h, ?_, rfl, by decide +kernel, ?_⟩
  · rw [tradingInput_selection h]; decide +kernel
  · have hone : v.reportedQuantity heldTwo.key = 1 := by simpa [Except.toOption] using hreported
    rw [hone]; decide +kernel

section Seeds

variable [Host]

/-! ## Known cost -/

/-- the lot sold from was built from BUY fills and priced seeds: its seed has a price, or it was closed since -/
def KnownCost (facts : List PnLPositionFact) (opening : Ledger) (before : List PnLFillFact) (key : String) : Prop :=
  (∀ p, facts.find? (isLot key) = some p → p.averageEntryPrice ≠ none) ∨
  ∃ closed rest, before = closed ++ rest ∧ opening.quantityOf key + netQuantity key closed = 0

/-- every SELL of the replay is realised against a known cost -/
def SellsAtKnownCost (facts : List PnLPositionFact) (r : Replay) : Prop :=
  ∀ before fill after, r.ledgerFills = before ++ fill :: after → fill.side = .sell → 0 < amount fill.quantity →
    KnownCost facts r.opening before fill.key

/-- the fact that opens a scope with something to hold has an average entry price -/
def LotsPriced (facts : List PnLPositionFact) : Prop :=
  ∀ key p, facts.find? (isLot key) = some p → p.averageEntryPrice ≠ none

theorem firstUnderflow_sell {quantity : ℚ} {fills : List PnLFillFact} {t : Int}
    (h : firstUnderflow quantity fills = .ok (some t)) :
    ∃ f ∈ fills, f.side = .sell ∧ 0 < amount f.quantity := by
  induction fills generalizing quantity with
  | nil => simp [firstUnderflow] at h
  | cons f fs ih =>
    have lift : (∃ g ∈ fs, g.side = .sell ∧ 0 < amount g.quantity) →
        ∃ g ∈ f :: fs, g.side = .sell ∧ 0 < amount g.quantity :=
      fun ⟨g, hg, hs⟩ => ⟨g, List.mem_cons_of_mem f hg, hs⟩
    unfold firstUnderflow at h
    obtain ⟨q, hq, h⟩ := bind_eq_ok.1 h
    have hnn := parseNonNegativeDecimal_nonneg hq
    split at h
    · exact lift (ih h)
    · rename_i hne
      cases hs : f.side with
      | buy => rw [hs] at h; exact lift (ih h)
      | sell =>
        refine ⟨f, by simp, hs, ?_⟩
        rw [amount_of_parse hq]
        exact lt_of_le_of_ne hnn (Ne.symm hne)

theorem seedRequiredAt_sell {fills : List PnLFillFact} {s m : String} (h : (seedRequiredAt fills s m).isSome) :
    ∃ f ∈ fills, f.strategyId = s ∧ f.market = m ∧ f.side = .sell ∧ 0 < amount f.quantity := by
  unfold seedRequiredAt at h
  cases hf : findOpeningPositionSeedRequiredAt fills s m with
  | error e => simp [hf, Except.toOption] at h
  | ok required =>
    cases required with
    | none => simp [hf, Except.toOption] at h
    | some t =>
      obtain ⟨sorted, hsorted, hunder⟩ := bind_eq_ok.1 hf
      obtain ⟨f, hmem, hs, hpos⟩ := firstUnderflow_sell hunder
      have hf := List.mem_filter.1 ((sortFills_perm hsorted).mem_iff.1 hmem)
      have hpair : f.strategyId = s ∧ f.market = m := by simpa using hf.2
      exact ⟨f, hf.1, hpair.1, hpair.2, hs, hpos⟩

theorem applyFillsToLedger_amounts {fills : List PnLFillFact} {ledger ledger' : Ledger}
    (h : applyFillsToLedger ledger fills = .ok ledger') : ∀ f ∈ fills, 0 ≤ amount f.quantity := by
  induction fills generalizing ledger with
  | nil => simp
  | cons f fs ih =>
    obtain ⟨mid, hmid, hrest⟩ := bind_eq_ok.1
      (show (applyFill ledger f >>= fun l => fs.foldlM applyFill l) = .ok ledger' from h)
    intro g hg
    rcases List.mem_cons.1 hg with rfl | hmem
    · obtain ⟨q, hq, -⟩ := bind_eq_ok.1 hmid
      rw [amount_of_parse hq]
      exact parseNonNegativeDecimal_nonneg hq
    · exact ih hrest g hmem

/-- without a SELL a position does not shrink -/
theorem netQuantity_nonneg {fills : List PnLFillFact} {key : String} (hnn : ∀ f ∈ fills, 0 ≤ amount f.quantity)
    (hbuy : ∀ f ∈ fills, f.key = key → f.side = .sell → ¬ 0 < amount f.quantity) : 0 ≤ netQuantity key fills := by
  induction fills with
  | nil => simp
  | cons f fs ih =>
    rw [netQuantity_cons]
    refine add_nonneg ?_ (ih (fun g hg => hnn g (by simp [hg])) (fun g hg => hbuy g (by simp [hg])))
    split_ifs with hk
    · unfold signedQuantity
      cases hs : f.side with
      | buy => exact hnn f (by simp)
      | sell => simpa using hbuy f (by simp) hk hs
    · exact le_refl 0

/-- **Known cost.** Where a realised PnL is reported, every SELL in it was realised against a known cost exactly when
no scope was opened with a lot that lacks its average entry price. -/
theorem realized_known_cost_iff {input : PnLAccountingInput} {r : Replay} {v : Valuation} {out : PnLAccountingOutput}
    (h : calculate (applyTargetScopeFilter input) = .ok (r, v, out)) {x : ℚ} (hx : out.realizedPnlKrw = some x) :
    SellsAtKnownCost (openingFacts (applyTargetScopeFilter input) r.selection.snapshots) r ↔
      LotsPriced (openingFacts (applyTargetScopeFilter input) r.selection.snapshots) := by
  set i := applyTargetScopeFilter input
  have hrun := calculate_run h
  constructor
  · intro hsells key p hlot hnone
    obtain ⟨cashKrw, marks, -, -, hv⟩ := hrun.valuation
    rw [hrun.realized, hv] at hx
    obtain ⟨hknown, hgaps⟩ := valuate_realized_some hx
    have hkey : p.key = key ∧ 0 < amount p.quantity := by simpa [isLot] using List.find?_some hlot
    have hpos : p ∈ i.positions ∧ positionOpens i r.selection.snapshots p = true := by
      rcases List.mem_append.1 (List.mem_of_find?_eq_some hlot) with hr | hp
      · obtain ⟨rec, hmem, rfl⟩ := List.mem_map.1 hr
        have hopens := (List.mem_filter.1 hmem).2
        simp only [reconcileOpens, Bool.and_eq_true] at hopens
        exact absurd hnone (Option.isSome_iff_ne_none.1 hopens.2)
      · exact List.mem_filter.1 hp
    have huncov := uncovered_of_opens (List.mem_of_find?_eq_some hlot)
    -- a reported realised PnL leaves no position without fills, so this one opens a scope that oversells
    have hfilled := hrun.replay.gaps_filled hgaps p hpos.1 huncov
    have hrequired : (seedRequiredAt i.fills p.strategyId p.market).isSome := by
      have := hpos.2
      simpa [positionOpens, huncov, hfilled] using this
    obtain ⟨f, hf, hs, hm, hsell, hamount⟩ := seedRequiredAt_sell hrequired
    have hfkey : f.key = key := by rw [← hkey.1]; unfold PnLFillFact.key PnLPositionFact.key; rw [hs, hm]
    have hunblocked : r.collected.blockedFillReplayScopes = [] := by
      by_contra hb
      rcases hrun.replay.blocked_unknown hb with hu | hg
      · rw [hknown] at hu; cases hu
      · exact hg hgaps
    have hledger : f ∈ r.ledgerFills := by
      rw [(sortFills_perm hrun.replay.sorted).mem_iff, replayableFills, List.mem_filter]
      refine ⟨hf, ?_⟩
      rw [hs, hm, huncov, hunblocked]
      simp
    -- the first SELL of the scope meets the unpriced lot still open
    obtain ⟨g, hg⟩ : ∃ g, r.ledgerFills.find? (fun f => f.key = key ∧ f.side = .sell ∧ 0 < amount f.quantity) = some g := by
      rw [← Option.isSome_iff_exists, List.find?_isSome]
      exact ⟨f, hledger, by simp [hfkey, hsell, hamount]⟩
    obtain ⟨hgp, before, after, hsplit, hbefore⟩ := List.find?_eq_some_iff_append.1 hg
    have hgp' : g.key = key ∧ g.side = .sell ∧ 0 < amount g.quantity := by simpa using hgp
    rcases hsells before g after hsplit hgp'.2.1 hgp'.2.2 with hpriced | ⟨closed, rest, hclosed, hflat⟩
    · rw [hgp'.1] at hpriced
      exact hpriced p hlot hnone
    · rw [hgp'.1, hrun.replay.opening_quantity (by rw [openingLot, hlot, Option.some_or])] at hflat
      have hamounts := applyFillsToLedger_amounts hrun.replay.ledger
      have hnet : 0 ≤ netQuantity key closed := by
        refine netQuantity_nonneg (fun f hf => hamounts f ?_) (fun f hf hk hside hpos => ?_)
        · rw [hsplit, hclosed]; simp [hf]
        · have := hbefore f (by rw [hclosed]; simp [hf])
          simp [hk, hside] at this
          exact absurd hpos (not_lt.2 this)
      linarith [hkey.2]
  · intro hpriced before fill after _ _ _
    exact Or.inl (hpriced fill.key)

end Seeds

/-- a priced lot sold at a profit: the reported realised PnL rests on it -/
theorem priced_lot_realized : ∃ r v out,
    calculate (applyTargetScopeFilter (tradingInput [fillAt .sell "2" "20" 3] [heldTwo])) = .ok (r, v, out) ∧
    out.realizedPnlKrw = some 19 ∧
    SellsAtKnownCost (openingFacts (applyTargetScopeFilter (tradingInput [fillAt .sell "2" "20" 3] [heldTwo]))
      r.selection.snapshots) r := by
  obtain ⟨⟨r, v, out⟩, h⟩ := exists_ok (show (calculate (applyTargetScopeFilter
    (tradingInput [fillAt .sell "2" "20" 3] [heldTwo]))).toOption.isSome by decide +kernel)
  have hrealized : (calculate (applyTargetScopeFilter (tradingInput [fillAt .sell "2" "20" 3] [heldTwo]))).toOption.map
      (fun x => x.2.2.realizedPnlKrw) = some (some 19) := by decide +kernel
  rw [h] at hrealized
  have hx : out.realizedPnlKrw = some 19 := by simpa [Except.toOption] using hrealized
  refine ⟨r, v, out, h, hx, (realized_known_cost_iff h hx).2 ?_⟩
  rw [tradingInput_selection h,
    show openingFacts (applyTargetScopeFilter (tradingInput [fillAt .sell "2" "20" 3] [heldTwo])) [] = [heldTwo] by
      decide +kernel]
  intro key p hfind
  have hp : p = heldTwo := by simpa using List.mem_of_find?_eq_some hfind
  rw [hp]
  decide

/-- one unit held at an unknown price -/
def heldUnpriced : PnLPositionFact := { seedAt "1" "0" with averageEntryPrice := none, updatedAt := .at 2 }

/-- a lot without a price is sold for 100: a realised PnL of 99 is reported, its cost taken as zero -/
theorem unpriced_seed_realized : ∃ r v out,
    calculate (applyTargetScopeFilter (tradingInput [fillAt .sell "1" "100" 3] [heldUnpriced])) = .ok (r, v, out) ∧
    out.realizedPnlKrw = some 99 ∧
    ¬ SellsAtKnownCost (openingFacts (applyTargetScopeFilter (tradingInput [fillAt .sell "1" "100" 3] [heldUnpriced]))
      r.selection.snapshots) r := by
  obtain ⟨⟨r, v, out⟩, h⟩ := exists_ok (show (calculate (applyTargetScopeFilter
    (tradingInput [fillAt .sell "1" "100" 3] [heldUnpriced]))).toOption.isSome by decide +kernel)
  have hrun : (calculate (applyTargetScopeFilter (tradingInput [fillAt .sell "1" "100" 3] [heldUnpriced]))).toOption.map
      (fun x => (x.2.2.realizedPnlKrw, x.1.ledgerFills, x.1.opening.quantityOf heldUnpriced.key))
      = some (some 99, [fillAt .sell "1" "100" 3], 1) := by decide +kernel
  rw [h] at hrun
  simp only [Except.toOption, Option.map_some, Option.some.injEq, Prod.mk.injEq] at hrun
  obtain ⟨hx, hfills, hopening⟩ := hrun
  refine ⟨r, v, out, h, hx, fun hsells => ?_⟩
  rw [tradingInput_selection h] at hsells
  rcases hsells [] (fillAt .sell "1" "100" 3) [] hfills rfl (by decide +kernel) with hpriced | ⟨closed, rest, hsplit, hflat⟩
  · exact hpriced heldUnpriced (by decide +kernel) rfl
  · obtain ⟨rfl, -⟩ := List.nil_eq_append_iff.1 hsplit
    rw [show (fillAt .sell "1" "100" 3).key = heldUnpriced.key from rfl, hopening, netQuantity_nil] at hflat
    norm_num at hflat

end SeeMirai.Pnl
