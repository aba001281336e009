/-
Single-source counting (calculator.ts, sections 1 to 7). A scope is counted by the selected snapshots or by the fill
ledger, never by both, and what a selected snapshot covers has no influence on the totals.

Coverage is decided on scope keys. Two strategy and market pairs with one key (`scopeKey_collision`) are one scope to
the calculator, so the law needs the keys of an input's facts to tell its pairs apart (`KeysApart`).

Results:
- `isSnapshotCovered_iff`: where keys tell pairs apart, covered means that a selected snapshot stands for the scope.
- `counted_once`: no scope is counted twice and no fill or position is dropped.
- `replay_congr`: the replay reads the uncovered facts only.
- `single_source_counting`: the three laws together.
Witness (keys that do not tell pairs apart):
- `covered_fill_changes_total`: a fill covered by the aggregate snapshot of strategy `a::b` changes the totals of a
  position of strategy `a`.
-/
import SeeMirai.Pnl.Seeds

namespace SeeMirai.Pnl

open Fallible

/-! ## Scopes and keys -/

/-- the strategy and market pairs of an input's facts -/
def scopesOf (input : PnLAccountingInput) : List (String × String) :=
  input.fills.map (fun f => (f.strategyId, f.market)) ++ input.positions.map (fun p => (p.strategyId, p.market)) ++
    input.reconcileFacts.map (fun r => (r.strategyId, r.market))

/-- a selected snapshot stands for the scope: the strategy's aggregate, or the market's own -/
def SnapshotOwns (snapshots : List PnLSnapshotFact) (strategyId market : String) : Prop :=
  ∃ s ∈ snapshots, s.strategyId = strategyId ∧ (s.market = none ∨ s.market = some market)

/-- the keys of the facts and of the selected snapshots tell their pairs apart, and no market bears the name the
calculator prints as the empty one -/
structure KeysApart (input : PnLAccountingInput) (snapshots : List PnLSnapshotFact) : Prop where
  facts : ∀ x ∈ scopesOf input, ∀ y ∈ scopesOf input, scopeKey x.1 (some x.2) = scopeKey y.1 (some y.2) → x = y
  selected : ∀ s ∈ snapshots, ∀ m, s.market = some m → ∀ x ∈ scopesOf input,
    scopeKey s.strategyId (some m) = scopeKey x.1 (some x.2) → (s.strategyId, m) = x
  named : ∀ x ∈ scopesOf input, x.2 ≠ "__aggregate__"

section Scopes

variable {input : PnLAccountingInput} {snapshots : List PnLSnapshotFact}

theorem fill_scope {f : PnLFillFact} (h : f ∈ input.fills) : (f.strategyId, f.market) ∈ scopesOf input := by
  simp only [scopesOf, List.mem_append, List.mem_map]
  exact Or.inl (Or.inl ⟨f, h, rfl⟩)

theorem position_scope {p : PnLPositionFact} (h : p ∈ input.positions) : (p.strategyId, p.market) ∈ scopesOf input := by
  simp only [scopesOf, List.mem_append, List.mem_map]
  exact Or.inl (Or.inr ⟨p, h, rfl⟩)

theorem reconcile_scope {r : PnLReconcileFact} (h : r ∈ input.reconcileFacts) :
    (r.strategyId, r.market) ∈ scopesOf input := by
  simp only [scopesOf, List.mem_append, List.mem_map]
  exact Or.inr ⟨r, h, rfl⟩

theorem isSnapshotCovered_iff (hk : KeysApart input snapshots) {x : String × String} (hx : x ∈ scopesOf input) :
    isSnapshotCovered snapshots x.1 x.2 = true ↔ SnapshotOwns snapshots x.1 x.2 := by
  unfold isSnapshotCovered SnapshotOwns
  rw [Bool.or_eq_true, List.any_eq_true, List.any_eq_true]
  constructor
  · rintro (⟨s, hs, hc⟩ | ⟨s, hs, hc⟩)
    · have hc' : s.market = none ∧ s.strategyId = x.1 := by simpa [Option.isNone_iff_eq_none] using hc
      exact ⟨s, hs, hc'.2, Or.inl hc'.1⟩
    · obtain ⟨hm, hkey⟩ : s.market.isSome ∧ scopeKey s.strategyId s.market = scopeKey x.1 (some x.2) := by
        simpa using hc
      obtain ⟨m, hsm⟩ := Option.isSome_iff_exists.1 hm
      rw [hsm] at hkey
      have hpair := hk.selected s hs m hsm x hx hkey
      exact ⟨s, hs, congrArg Prod.fst hpair, Or.inr (by rw [hsm, ← hpair])⟩
  · rintro ⟨s, hs, hst, hm | hm⟩
    · exact Or.inl ⟨s, hs, by simp [hm, hst]⟩
    · exact Or.inr ⟨s, hs, by simp [hm, hst]⟩

theorem uncovered_of_not_owned (hk : KeysApart input snapshots) {s m : String} (hx : (s, m) ∈ scopesOf input)
    (hown : ¬ SnapshotOwns snapshots s m) : isSnapshotCovered snapshots s m = false := by
  rw [← Bool.not_eq_true]
  exact fun hc => hown ((isSnapshotCovered_iff hk hx).1 hc)

/-- where keys tell pairs apart, a fill under a fact's key is a fill of the fact's own scope -/
theorem fill_of_covered (hk : KeysApart input snapshots) {s m : String} (hx : (s, m) ∈ scopesOf input) (h : isFillCovered input.fills s m = true) :
    ∃ f ∈ input.fills, f.strategyId = s ∧ f.market = m := by
  obtain ⟨f, hf, hkey⟩ := List.any_eq_true.1 h
  have hpair := hk.facts _ (fill_scope hf) _ hx (of_decide_eq_true hkey)
  exact ⟨f, hf, congrArg Prod.fst hpair, congrArg Prod.snd hpair⟩

theorem position_of_covered (hk : KeysApart input snapshots) {s m : String} (hx : (s, m) ∈ scopesOf input)
    (h : isPositionCovered input.positions s m = true) : ∃ p ∈ input.positions, p.strategyId = s ∧ p.market = m := by
  obtain ⟨p, hp, hkey⟩ := List.any_eq_true.1 h
  have hpair := hk.facts _ (position_scope hp) _ hx (of_decide_eq_true hkey)
  exact ⟨p, hp, congrArg Prod.fst hpair, congrArg Prod.snd hpair⟩

end Scopes

/-! ## Each scope once -/

section Counting

variable [Host]

/-- the ledger counts a scope: it replays a fill of it or opens with a fact of it -/
def LedgerCounts (input : PnLAccountingInput) (r : Replay) (strategyId market : String) : Prop :=
  (∃ f ∈ r.ledgerFills, f.strategyId = strategyId ∧ f.market = market) ∨
  ∃ p ∈ openingFacts input r.selection.snapshots, p.strategyId = strategyId ∧ p.market = market

theorem ReplayRun.mem_ledgerFills {input : PnLAccountingInput} {r : Replay} (h : ReplayRun input r) {f : PnLFillFact} :
    f ∈ r.ledgerFills ↔ f ∈ input.fills ∧ isSnapshotCovered r.selection.snapshots f.strategyId f.market = false ∧
      replayBlocked input r.selection.snapshots f.key = false := by
  rw [(sortFills_perm h.sorted).mem_iff, replayableFills, List.mem_filter, decide_eq_true_eq, h.mem_blocked_iff,
    Bool.not_eq_true]

theorem openingFacts_scope {input : PnLAccountingInput} {snapshots : List PnLSnapshotFact} {p : PnLPositionFact}
    (h : p ∈ openingFacts input snapshots) : (p.strategyId, p.market) ∈ scopesOf input := by
  rcases List.mem_append.1 h with hr | hp
  · obtain ⟨rec, hmem, rfl⟩ := List.mem_map.1 hr
    exact reconcile_scope (List.mem_filter.1 hmem).1
  · exact position_scope (List.mem_filter.1 hp).1

section Counted

variable {input : PnLAccountingInput} {r : Replay}

theorem ReplayRun.fill_counted (h : ReplayRun input r) (hk : KeysApart input r.selection.snapshots) {f : PnLFillFact}
    (hf : f ∈ input.fills) (hc : isSnapshotCovered r.selection.snapshots f.strategyId f.market = false) :
    LedgerCounts input r f.strategyId f.market ∨ r.collected.hasUnknownReconcilePosition = true := by
  cases hb : replayBlocked input r.selection.snapshots f.key with
  | false => exact Or.inl (Or.inl ⟨f, h.mem_ledgerFills.2 ⟨hf, hc, hb⟩, rfl, rfl⟩)
  | true =>
    -- a late reconcile fact leaves the holdings unknown; a late position opens the scope it blocks
    rw [replayBlocked, Bool.or_eq_true, List.any_eq_true, List.any_eq_true] at hb
    rcases hb with ⟨rec, hmem, hrec⟩ | ⟨p, hp, hpos⟩
    · exact Or.inr (h.unknown_of_reconcile hmem (unknown_of_blocks (of_decide_eq_true hrec).1))
    · obtain ⟨hblocks, hkey⟩ := of_decide_eq_true hpos
      have hpair := hk.facts _ (position_scope hp) _ (fill_scope hf) hkey
      have hopens : positionOpens input r.selection.snapshots p = true := by
        simp only [positionBlocks, isLate, Bool.and_eq_true] at hblocks
        have hrequired := Option.isSome_of_any hblocks.2
        simp [positionOpens, hrequired, hblocks.1]
      exact Or.inl (Or.inr ⟨p, List.mem_append_right _ (List.mem_filter.2 ⟨hp, hopens⟩),
        congrArg Prod.fst hpair, congrArg Prod.snd hpair⟩)

theorem ReplayRun.position_counted (h : ReplayRun input r) (hk : KeysApart input r.selection.snapshots)
    {p : PnLPositionFact} (hp : p ∈ input.positions)
    (hc : isSnapshotCovered r.selection.snapshots p.strategyId p.market = false) :
    LedgerCounts input r p.strategyId p.market ∨ r.collected.hasUnknownReconcilePosition = true := by
  cases hopens : positionOpens input r.selection.snapshots p with
  | true => exact Or.inl (Or.inr ⟨p, List.mem_append_right _ (List.mem_filter.2 ⟨hp, hopens⟩), rfl, rfl⟩)
  | false =>
    -- a position that does not open its scope leaves it to the scope's fills
    have hcov : isFillCovered input.fills p.strategyId p.market = true := by
      by_contra hf
      simp [positionOpens, hc, hf] at hopens
    obtain ⟨f, hf, hs, hm⟩ := fill_of_covered hk (position_scope hp) hcov
    have := h.fill_counted hk hf (by rw [hs, hm]; exact hc)
    rwa [hs, hm] at this

theorem ReplayRun.reconcile_counted (h : ReplayRun input r) (hk : KeysApart input r.selection.snapshots)
    {rec : PnLReconcileFact} (hrec : rec ∈ input.reconcileFacts)
    (hc : isSnapshotCovered r.selection.snapshots rec.strategyId rec.market = false) :
    LedgerCounts input r rec.strategyId rec.market ∨ r.collected.hasUnknownReconcilePosition = true := by
  cases hu : reconcileUnknown input r.selection.snapshots rec with
  | true => exact Or.inr (h.unknown_of_reconcile hrec hu)
  | false =>
    cases hopens : reconcileOpens input r.selection.snapshots rec with
    | true =>
      exact Or.inl (Or.inr ⟨toPositionLike rec,
        List.mem_append_left _ (List.mem_map.2 ⟨rec, List.mem_filter.2 ⟨hrec, hopens⟩, rfl⟩), rfl, rfl⟩)
    | false =>
      -- neither unknown nor opening: fills or a position explain the scope
      have hother : isFillCovered input.fills rec.strategyId rec.market = true ∨
          isPositionCovered input.positions rec.strategyId rec.market = true := by
        by_contra hno
        rw [not_or, Bool.not_eq_true, Bool.not_eq_true] at hno
        by_cases hstatus : rec.recoveryStatus = "RECOVERABLE"
        · simp [reconcileUnknown, reconcileApplies, hopens, hc, hno, hstatus] at hu
        · simp [reconcileUnknown, hc, hno, hstatus] at hu
      rcases hother with hfill | hpos
      · obtain ⟨f, hf, hs, hm⟩ := fill_of_covered hk (reconcile_scope hrec) hfill
        have := h.fill_counted hk hf (by rw [hs, hm]; exact hc)
        rwa [hs, hm] at this
      · obtain ⟨p, hp, hs, hm⟩ := position_of_covered hk (reconcile_scope hrec) hpos
        have := h.position_counted hk hp (by rw [hs, hm]; exact hc)
        rwa [hs, hm] at this

/-- **Counted once.** The scope of a fact is counted by the selected snapshots or by the ledger and never by both; where
neither counts it, what is held there is unknown. -/
theorem ReplayRun.counted_once (h : ReplayRun input r) (hk : KeysApart input r.selection.snapshots)
    {x : String × String} (hx : x ∈ scopesOf input) :
    ¬ (SnapshotOwns r.selection.snapshots x.1 x.2 ∧ LedgerCounts input r x.1 x.2) ∧
    (SnapshotOwns r.selection.snapshots x.1 x.2 ∨ LedgerCounts input r x.1 x.2 ∨
      r.collected.hasUnknownReconcilePosition = true) := by
  constructor
  · rintro ⟨hown, hcounts⟩
    have hcov := (isSnapshotCovered_iff hk hx).2 hown
    rcases hcounts with ⟨f, hf, hs, hm⟩ | ⟨p, hp, hs, hm⟩
    · have huncov := (h.mem_ledgerFills.1 hf).2.1
      rw [hs, hm, hcov] at huncov
      cases huncov
    · have huncov := uncovered_of_opens hp
      rw [hs, hm, hcov] at huncov
      cases huncov
  · by_cases hown : SnapshotOwns r.selection.snapshots x.1 x.2
    · exact Or.inl hown
    · have huncov := uncovered_of_not_owned hk hx hown
      simp only [scopesOf, List.mem_append, List.mem_map] at hx
      rcases hx with (⟨f, hf, rfl⟩ | ⟨p, hp, rfl⟩) | ⟨rec, hrec, rfl⟩
      · exact Or.inr (h.fill_counted hk hf huncov)
      · exact Or.inr (h.position_counted hk hp huncov)
      · exact Or.inr (h.reconcile_counted hk hrec huncov)

end Counted

end Counting

/-! ## Covered facts have no influence -/

/-- two inputs with the same snapshots whose facts differ in covered ones only -/
structure SameUncovered (snapshots : List PnLSnapshotFact) (input input' : PnLAccountingInput) : Prop where
  fills : input.fills.filter (fun f => !isSnapshotCovered snapshots f.strategyId f.market)
    = input'.fills.filter (fun f => !isSnapshotCovered snapshots f.strategyId f.market)
  positions : input.positions.filter (fun p => !isSnapshotCovered snapshots p.strategyId p.market)
    = input'.positions.filter (fun p => !isSnapshotCovered snapshots p.strategyId p.market)
  reconcileFacts : input.reconcileFacts.filter (fun r => !isSnapshotCovered snapshots r.strategyId r.market)
    = input'.reconcileFacts.filter (fun r => !isSnapshotCovered snapshots r.strategyId r.market)

theorem SameUncovered.symm {snapshots : List PnLSnapshotFact} {input input' : PnLAccountingInput}
    (h : SameUncovered snapshots input input') : SameUncovered snapshots input' input :=
  ⟨h.fills.symm, h.positions.symm, h.reconcileFacts.symm⟩

section Agree

variable {snapshots : List PnLSnapshotFact} {input input' : PnLAccountingInput}

theorem SameUncovered.mem_fills (h : SameUncovered snapshots input input') {f : PnLFillFact} (hf : f ∈ input.fills)
    (hc : isSnapshotCovered snapshots f.strategyId f.market = false) : f ∈ input'.fills := by
  have hmem : f ∈ input.fills.filter (fun f => !isSnapshotCovered snapshots f.strategyId f.market) :=
    List.mem_filter.2 ⟨hf, by simp [hc]⟩
  rw [h.fills] at hmem
  exact (List.mem_filter.1 hmem).1

theorem SameUncovered.mem_positions (h : SameUncovered snapshots input input') {p : PnLPositionFact}
    (hp : p ∈ input.positions) (hc : isSnapshotCovered snapshots p.strategyId p.market = false) :
    p ∈ input'.positions := by
  have hmem : p ∈ input.positions.filter (fun p => !isSnapshotCovered snapshots p.strategyId p.market) :=
    List.mem_filter.2 ⟨hp, by simp [hc]⟩
  rw [h.positions] at hmem
  exact (List.mem_filter.1 hmem).1

/-- the fills of an uncovered scope are the same -/
theorem SameUncovered.own (h : SameUncovered snapshots input input') {s m : String}
    (hc : isSnapshotCovered snapshots s m = false) :
    input.fills.filter (fun f => f.strategyId = s ∧ f.market = m)
      = input'.fills.filter (fun f => f.strategyId = s ∧ f.market = m) := by
  have hown : ∀ fills : List PnLFillFact, fills.filter (fun f => f.strategyId = s ∧ f.market = m)
      = (fills.filter (fun f => !isSnapshotCovered snapshots f.strategyId f.market)).filter
          (fun f => f.strategyId = s ∧ f.market = m) := by
    intro fills
    rw [List.filter_filter]
    refine List.filter_congr fun f _ => ?_
    by_cases hf : f.strategyId = s ∧ f.market = m
    · simp [hf.1, hf.2, hc]
    · simp [hf]
  rw [hown, h.fills, ← hown]

theorem SameUncovered.fillCovered_of (h : SameUncovered snapshots input input') (hk : KeysApart input snapshots)
    {s m : String} (hx : (s, m) ∈ scopesOf input) (hc : isSnapshotCovered snapshots s m = false)
    (hf : isFillCovered input.fills s m = true) : isFillCovered input'.fills s m = true := by
  obtain ⟨f, hmem, rfl, rfl⟩ := fill_of_covered hk hx hf
  exact List.any_eq_true.2 ⟨f, h.mem_fills hmem hc, decide_eq_true rfl⟩

theorem SameUncovered.positionCovered_of (h : SameUncovered snapshots input input') (hk : KeysApart input snapshots)
    {s m : String} (hx : (s, m) ∈ scopesOf input) (hc : isSnapshotCovered snapshots s m = false)
    (hp : isPositionCovered input.positions s m = true) : isPositionCovered input'.positions s m = true := by
  obtain ⟨p, hmem, rfl, rfl⟩ := position_of_covered hk hx hp
  exact List.any_eq_true.2 ⟨p, h.mem_positions hmem hc, decide_eq_true rfl⟩

theorem SameUncovered.fillCovered (h : SameUncovered snapshots input input') (hk : KeysApart input snapshots)
    (hk' : KeysApart input' snapshots) {s m : String} (hx : (s, m) ∈ scopesOf input) (hx' : (s, m) ∈ scopesOf input')
    (hc : isSnapshotCovered snapshots s m = false) : isFillCovered input.fills s m = isFillCovered input'.fills s m :=
  Bool.eq_iff_iff.2 ⟨h.fillCovered_of hk hx hc, h.symm.fillCovered_of hk' hx' hc⟩

theorem SameUncovered.positionCovered (h : SameUncovered snapshots input input') (hk : KeysApart input snapshots)
    (hk' : KeysApart input' snapshots) {s m : String} (hx : (s, m) ∈ scopesOf input) (hx' : (s, m) ∈ scopesOf input')
    (hc : isSnapshotCovered snapshots s m = false) :
    isPositionCovered input.positions s m = isPositionCovered input'.positions s m :=
  Bool.eq_iff_iff.2 ⟨h.positionCovered_of hk hx hc, h.symm.positionCovered_of hk' hx' hc⟩

variable [Host]

theorem SameUncovered.requiredAt (h : SameUncovered snapshots input input') {s m : String}
    (hc : isSnapshotCovered snapshots s m = false) :
    findOpeningPositionSeedRequiredAt input.fills s m = findOpeningPositionSeedRequiredAt input'.fills s m := by
  unfold findOpeningPositionSeedRequiredAt
  rw [h.own hc]

theorem reconcile_loop_congr (h : SameUncovered snapshots input input') (hk : KeysApart input snapshots)
    (hk' : KeysApart input' snapshots) (acc : Collected) :
    input.reconcileFacts.foldlM (collectReconcile input snapshots) acc
      = input'.reconcileFacts.foldlM (collectReconcile input' snapshots) acc := by
  have hskip : ∀ i : PnLAccountingInput, ∀ acc r, (!isSnapshotCovered snapshots r.strategyId r.market) = false →
      collectReconcile i snapshots acc r = pure acc := by
    intro i acc r hr
    rw [collectReconcile, if_pos (by simpa using hr)]
  rw [foldlM_filter _ (hskip input), foldlM_filter _ (hskip input'), ← h.reconcileFacts]
  refine foldlM_congr (fun r hr acc => ?_) acc
  have hmem := List.mem_filter.1 hr
  have hmem' := List.mem_filter.1 (h.reconcileFacts ▸ hr)
  have hc : isSnapshotCovered snapshots r.strategyId r.market = false := by simpa using hmem.2
  unfold collectReconcile
  rw [h.fillCovered hk hk' (reconcile_scope hmem.1) (reconcile_scope hmem'.1) hc,
    h.positionCovered hk hk' (reconcile_scope hmem.1) (reconcile_scope hmem'.1) hc, h.requiredAt hc]

theorem position_loop_congr (h : SameUncovered snapshots input input') (hk : KeysApart input snapshots)
    (hk' : KeysApart input' snapshots) (acc : Collected) :
    input.positions.foldlM (collectPosition input snapshots) acc
      = input'.positions.foldlM (collectPosition input' snapshots) acc := by
  have hskip : ∀ i : PnLAccountingInput, ∀ acc p, (!isSnapshotCovered snapshots p.strategyId p.market) = false →
      collectPosition i snapshots acc p = pure acc := by
    intro i acc p hp
    rw [collectPosition, if_pos (by simpa using hp)]
  rw [foldlM_filter _ (hskip input), foldlM_filter _ (hskip input'), ← h.positions]
  refine foldlM_congr (fun p hp acc => ?_) acc
  have hmem := List.mem_filter.1 hp
  have hmem' := List.mem_filter.1 (h.positions ▸ hp)
  have hc : isSnapshotCovered snapshots p.strategyId p.market = false := by simpa using hmem.2
  unfold collectPosition
  rw [h.fillCovered hk hk' (position_scope hmem.1) (position_scope hmem'.1) hc, h.requiredAt hc]

omit [Host] in
theorem replayableFills_congr (h : SameUncovered snapshots input input') (blocked : List String) :
    replayableFills input snapshots blocked = replayableFills input' snapshots blocked := by
  have hsplit : ∀ fills : List PnLFillFact,
      fills.filter (fun f => isSnapshotCovered snapshots f.strategyId f.market = false ∧ f.key ∉ blocked)
        = (fills.filter (fun f => !isSnapshotCovered snapshots f.strategyId f.market)).filter
            (fun f => f.key ∉ blocked) := by
    intro fills
    rw [List.filter_filter]
    refine List.filter_congr fun f _ => ?_
    cases isSnapshotCovered snapshots f.strategyId f.market <;> simp
  rw [replayableFills, replayableFills, hsplit, hsplit, h.fills]

/-- **The replay reads the uncovered facts only.** -/
theorem replay_congr {selection : SnapshotSelection} (hsel : selectEffectiveSnapshots input.pnlSnapshots = .ok selection)
    (hsel' : selectEffectiveSnapshots input'.pnlSnapshots = .ok selection)
    (h : SameUncovered selection.snapshots input input') (hk : KeysApart input selection.snapshots)
    (hk' : KeysApart input' selection.snapshots) : replay input = replay input' := by
  unfold replay
  simp only [hsel, hsel', ok_bind, reconcile_loop_congr h hk hk', position_loop_congr h hk hk',
    replayableFills_congr h]

end Agree

/-! ## Marks -/

section Marks

variable {input input' : PnLAccountingInput} {snapshots : List PnLSnapshotFact}

/-- the market of a fact no selected snapshot covers -/
def UncoveredMarket (input : PnLAccountingInput) (snapshots : List PnLSnapshotFact) (market : String) : Prop :=
  ∃ s, (s, market) ∈ scopesOf input ∧ isSnapshotCovered snapshots s market = false

theorem SameUncovered.scope (h : SameUncovered snapshots input input') {s m : String} (hx : (s, m) ∈ scopesOf input)
    (hc : isSnapshotCovered snapshots s m = false) : (s, m) ∈ scopesOf input' := by
  simp only [scopesOf, List.mem_append, List.mem_map, Prod.mk.injEq] at hx
  rcases hx with (⟨f, hf, rfl, rfl⟩ | ⟨p, hp, rfl, rfl⟩) | ⟨rec, hrec, rfl, rfl⟩
  · exact fill_scope (h.mem_fills hf hc)
  · exact position_scope (h.mem_positions hp hc)
  · have hmem : rec ∈ input.reconcileFacts.filter (fun r => !isSnapshotCovered snapshots r.strategyId r.market) :=
      List.mem_filter.2 ⟨hrec, by simp [hc]⟩
    rw [h.reconcileFacts] at hmem
    exact reconcile_scope (List.mem_filter.1 hmem).1

/-- every entry stands for a market with the property -/
def Ledger.MarketsIn (P : String → Prop) (ledger : Ledger) : Prop :=
  ∀ k pos, ledger.positions.get k = some pos → P pos.market

theorem Ledger.MarketsIn.entry {P : String → Prop} {ledger : Ledger} (h : ledger.MarketsIn P) (key strategyId : String)
    {market : String} (hm : P market) : P (getOrCreatePositionLedger ledger key strategyId market).market := by
  unfold getOrCreatePositionLedger
  cases hg : ledger.positions.get key with
  | none => exact hm
  | some pos => exact h key pos hg

theorem Ledger.MarketsIn.write {P : String → Prop} {ledger ledger' : Ledger} (h : ledger.MarketsIn P) (key : String)
    {pos : PositionLedger} (hp : ledger'.positions = ledger.positions.set key pos) (hm : P pos.market) :
    ledger'.MarketsIn P := by
  intro k pos' hget
  rw [hp, InsertionMap.get_set] at hget
  split_ifs at hget with hk
  · cases hget
    exact hm
  · exact h k pos' hget

variable [Host]

/-- the ledger holds markets of uncovered facts only -/
theorem ReplayRun.markets {r : Replay} (h : ReplayRun input r) :
    r.ledger.MarketsIn (UncoveredMarket input r.selection.snapshots) := by
  have hopening : r.opening.MarketsIn (UncoveredMarket input r.selection.snapshots) := by
    refine openingLedger_keeps (Ledger.MarketsIn _) (fun k pos hget => by simp [createEmptyLedger] at hget) ?_ h.opening
    intro ledger pos entry hmem hl _ hs
    rw [h.openingFacts] at hmem
    refine hl.write pos.key rfl ?_
    rw [hs.1]
    exact hl.entry pos.key pos.strategyId ⟨pos.strategyId, openingFacts_scope hmem, uncovered_of_opens hmem⟩
  refine foldlM_keeps (Ledger.MarketsIn _) (fun b fill b' hmem hstep hb => ?_) h.ledger hopening
  obtain ⟨hf, hc, -⟩ := h.mem_ledgerFills.1 hmem
  have hentry := hb.entry fill.key fill.strategyId ⟨fill.strategyId, fill_scope hf, hc⟩
  cases applyFill_effect hstep with
  | skip => exact hb
  | buy =>
    refine hb.write fill.key (by simp; rfl) ?_
    exact hentry
  | sell =>
    refine hb.write fill.key (by simp; rfl) ?_
    exact hentry

end Marks

/-! ## The totals -/

/-- with a holding unknown neither total is reported -/
theorem valuate_unknown {input : PnLAccountingInput} {r : Replay} {cashKrw : Option ℚ} {marks : MarkPrices}
    (h : r.collected.hasUnknownReconcilePosition = true) :
    (valuate input r cashKrw marks).realizedPnlKrw = none ∧ (valuate input r cashKrw marks).unrealizedPnlKrw = none := by
  unfold valuate
  simp [h]

/-- the unrealised PnL reads the marks of the open ledger entries only -/
theorem valuate_unrealized_congr (input input' : PnLAccountingInput) (r : Replay) (cashKrw cashKrw' : Option ℚ)
    {marks marks' : MarkPrices} (h : ∀ e ∈ r.ledger.openEntries, e.2.markPrice marks = e.2.markPrice marks') :
    (valuate input r cashKrw marks).unrealizedPnlKrw = (valuate input' r cashKrw' marks').unrealizedPnlKrw := by
  have hparts : ∀ equity equity' : Option ℚ,
      r.ledger.openEntries.map (fun e => (positionDetail marks equity e.2).unrealizedPnlKrw)
        = r.ledger.openEntries.map (fun e => (positionDetail marks' equity' e.2).unrealizedPnlKrw) := by
    intro equity equity'
    refine List.map_congr_left fun e he => ?_
    simp only [positionDetail, h e he]
  unfold valuate calculatePositionDetails
  simp only [List.map_map, Function.comp_def]
  rw [hparts]

/-- two inputs that differ in facts covered by the snapshots only -/
structure CoveredEdit (snapshots : List PnLSnapshotFact) (input input' : PnLAccountingInput) : Prop
    extends SameUncovered snapshots input input' where
  rest : input' = { input with
    fills := input'.fills
    positions := input'.positions
    reconcileFacts := input'.reconcileFacts }

section Edit

variable {snapshots : List PnLSnapshotFact} {input input' : PnLAccountingInput}

theorem CoveredEdit.targets (h : CoveredEdit snapshots input input') : input'.targets = input.targets := by
  rw [h.rest]; rfl

theorem CoveredEdit.pnlSnapshots (h : CoveredEdit snapshots input input') :
    (applyTargetScopeFilter input').pnlSnapshots = (applyTargetScopeFilter input).pnlSnapshots := by
  have hs : input'.pnlSnapshots = input.pnlSnapshots := by rw [h.rest]
  unfold applyTargetScopeFilter
  rw [h.targets]
  split_ifs
  · exact hs
  · simp only [hs]

theorem filter_comm_congr {α : Type} {p : α → Bool} {xs ys : List α} (h : xs.filter p = ys.filter p) (q : α → Bool) :
    (xs.filter q).filter p = (ys.filter q).filter p := by
  rw [List.filter_comm, h, List.filter_comm]

/-- the requested scopes are cut out of both inputs alike -/
theorem CoveredEdit.filtered (h : CoveredEdit snapshots input input') :
    SameUncovered snapshots (applyTargetScopeFilter input) (applyTargetScopeFilter input') := by
  unfold applyTargetScopeFilter
  rw [h.targets]
  split_ifs
  · exact h.toSameUncovered
  · refine ⟨?_, ?_, ?_⟩
    · exact filter_comm_congr h.fills _
    · exact filter_comm_congr h.positions _
    · exact filter_comm_congr h.reconcileFacts _

/-- the marks of a requested fact's market are all kept -/
theorem marks_kept {market : String} (hm : ∃ s, (s, market) ∈ scopesOf (applyTargetScopeFilter input)) :
    (applyTargetScopeFilter input).markPrices.filter (·.market = market)
      = input.markPrices.filter (·.market = market) := by
  unfold applyTargetScopeFilter at hm ⊢
  split_ifs at hm ⊢ with ht
  · rfl
  · simp only [List.filter_filter]
    refine List.filter_congr fun mp _ => ?_
    by_cases hmp : mp.market = market
    · have hmem : market ∈ resolveTargetMarkPriceMarkets input.targets
          (input.fills.filter (fun f => matchesScopedFact input.targets f.strategyId f.market))
          (input.positions.filter (fun p => matchesScopedFact input.targets p.strategyId p.market))
          (input.reconcileFacts.filter (fun r => matchesScopedFact input.targets r.strategyId r.market)) := by
        obtain ⟨s, hs⟩ := hm
        simp only [scopesOf, List.mem_append, List.mem_map, Prod.mk.injEq] at hs
        simp only [resolveTargetMarkPriceMarkets, List.mem_append, List.mem_map]
        rcases hs with (⟨f, hf, -, rfl⟩ | ⟨p, hp, -, rfl⟩) | ⟨rec, hrec, -, rfl⟩
        · exact Or.inl (Or.inl (Or.inr ⟨f, hf, rfl⟩))
        · exact Or.inl (Or.inr ⟨p, hp, rfl⟩)
        · exact Or.inr ⟨rec, hrec, rfl⟩
      simp [hmp, hmem]
    · simp [hmp]

variable [Host]

/-- an uncovered market has one price in both inputs -/
theorem CoveredEdit.mark (h : CoveredEdit snapshots input input') {market : String}
    (hm : UncoveredMarket (applyTargetScopeFilter input) snapshots market) {marks marks' : MarkPrices}
    (hmarks : buildMarkPriceMap (applyTargetScopeFilter input).markPrices = .ok marks)
    (hmarks' : buildMarkPriceMap (applyTargetScopeFilter input').markPrices = .ok marks') :
    assocGet marks market = assocGet marks' market := by
  obtain ⟨s, hs, hc⟩ := hm
  have hsame : input'.markPrices = input.markPrices := by rw [h.rest]
  obtain ⟨kept, hkept, hget⟩ := buildMarkPriceMap_get hmarks market
  obtain ⟨kept', hkept', hget'⟩ := buildMarkPriceMap_get hmarks' market
  rw [marks_kept ⟨s, hs⟩] at hkept
  rw [marks_kept ⟨s, h.filtered.scope hs hc⟩, hsame, hkept] at hkept'
  cases hkept'
  rw [hget, hget']

/-- **Single-source counting.** Where the keys of the requested facts tell their pairs apart: the scope of every fact is
counted by the selected snapshots or by the ledger, never by both, or no total is reported; each strategy contributes
one layer of snapshots; and an edit of covered facts changes neither total. -/
theorem single_source_counting {r : Replay} {v : Valuation} {out : PnLAccountingOutput}
    (h : calculate (applyTargetScopeFilter input) = .ok (r, v, out))
    (hk : KeysApart (applyTargetScopeFilter input) r.selection.snapshots) :
    (∀ x ∈ scopesOf (applyTargetScopeFilter input),
      ¬ (SnapshotOwns r.selection.snapshots x.1 x.2 ∧ LedgerCounts (applyTargetScopeFilter input) r x.1 x.2) ∧
      (SnapshotOwns r.selection.snapshots x.1 x.2 ∨ LedgerCounts (applyTargetScopeFilter input) r x.1 x.2 ∨
        (out.realizedPnlKrw = none ∧ out.unrealizedPnlKrw = none))) ∧
    (∀ st, OneLayer (applyTargetScopeFilter input).pnlSnapshots r.selection.snapshots st) ∧
    (∀ edited out', CoveredEdit r.selection.snapshots input edited →
      KeysApart (applyTargetScopeFilter edited) r.selection.snapshots →
      calculatePnLAccounting edited = .ok out' →
      out'.realizedPnlKrw = out.realizedPnlKrw ∧ out'.unrealizedPnlKrw = out.unrealizedPnlKrw) := by
  have hrun := calculate_run h
  obtain ⟨cashKrw, marks, -, hmarks, hv⟩ := hrun.valuation
  refine ⟨fun x hx => ?_, selectEffectiveSnapshots_layer hrun.replay.selection, ?_⟩
  · refine (hrun.replay.counted_once hk hx).imp id (Or.imp id (Or.imp id fun hu => ?_))
    rw [hrun.realized, hrun.unrealized, hv]
    exact valuate_unknown hu
  · intro edited out' hedit hk' hcalc
    obtain ⟨⟨r', v', out''⟩, h', rfl⟩ := map_eq_ok.1 hcalc
    have hrun' := calculate_run h'
    obtain ⟨cashKrw', marks', -, hmarks', hv'⟩ := hrun'.valuation
    have hreplay : replay (applyTargetScopeFilter edited) = .ok r := by
      rw [← replay_congr hrun.replay.selection (by rw [hedit.pnlSnapshots]; exact hrun.replay.selection) hedit.filtered hk hk']
      exact calculate_replay h
    have hr : r' = r := Except.ok.inj ((calculate_replay h').symm.trans hreplay)
    subst hr
    have hmark : ∀ e ∈ r'.ledger.openEntries, e.2.markPrice marks' = e.2.markPrice marks := by
      intro e he
      have hmarket := hrun.replay.markets e.1 e.2 (r'.ledger.positions.mem_iff_get.1 (List.mem_filter.1 he).1)
      have hnamed : e.2.market ≠ "__aggregate__" := by
        obtain ⟨s, hs, -⟩ := hmarket
        exact hk.named _ hs
      unfold PositionLedger.markPrice displayMarket
      rw [if_neg hnamed]
      exact (hedit.mark hmarket hmarks hmarks').symm
    rw [hrun.realized, hrun.unrealized, hrun'.realized, hrun'.unrealized, hv, hv']
    exact ⟨rfl, valuate_unrealized_congr _ _ _ _ _ hmark⟩

end Edit

/-- an aggregate snapshot with nothing in it -/
def flatAggregate (strategyId : String) : PnLSnapshotFact :=
  { strategyId := strategyId, market := none, capturedAt := .at 5, equity := "0", realizedPnl := "0",
    unrealizedPnl := "0", drawdownBps := "0", payloadJson := none }

def boughtIn (strategyId market : String) : PnLFillFact :=
  { fillAt .buy "1" "10" 1 with strategyId := strategyId, market := market }

/-- an aggregate snapshot, one position, a mark of its market, and fills -/
def coveredInput (aggregate strategyId market : String) (fills : List PnLFillFact) : PnLAccountingInput :=
  { tradingInput fills [{ seedAt "1" "10" with strategyId := strategyId, market := market }] with
    markPrices := [⟨market, "15", none, "last"⟩]
    pnlSnapshots := [flatAggregate aggregate] }

/-- the aggregate is the only snapshot, so it is the one selected -/
theorem coveredInput_selection {aggregate strategyId market : String} {fills : List PnLFillFact} {r : Replay}
    {v : Valuation} {out : PnLAccountingOutput}
    (h : calculate (applyTargetScopeFilter (coveredInput aggregate strategyId market fills)) = .ok (r, v, out))
    (hsel : (selectEffectiveSnapshots [flatAggregate aggregate]).toOption.map (·.snapshots)
      = some [flatAggregate aggregate]) : r.selection.snapshots = [flatAggregate aggregate] := by
  have hrun : selectEffectiveSnapshots [flatAggregate aggregate] = .ok r.selection := (calculate_run h).replay.selection
  simpa [hrun, Except.toOption] using hsel

/-- the fill of strategy `s` is covered by its aggregate: without it the totals of the position of `t` are the same -/
theorem covered_fill_no_influence : ∃ r v out out',
    calculate (applyTargetScopeFilter (coveredInput "s" "t" "m" [boughtIn "s" "m"])) = .ok (r, v, out) ∧
    calculatePnLAccounting (coveredInput "s" "t" "m" []) = .ok out' ∧
    out'.realizedPnlKrw = out.realizedPnlKrw ∧ out'.unrealizedPnlKrw = out.unrealizedPnlKrw := by
  obtain ⟨⟨r, v, out⟩, h⟩ := exists_ok (show (calculate (applyTargetScopeFilter
    (coveredInput "s" "t" "m" [boughtIn "s" "m"]))).toOption.isSome by decide +kernel)
  obtain ⟨out', h'⟩ := exists_ok (show (calculatePnLAccounting (coveredInput "s" "t" "m" [])).toOption.isSome by
    decide +kernel)
  have hsel := coveredInput_selection h (by decide +kernel)
  have hkeys : ∀ fills ∈ [[boughtIn "s" "m"], []],
      KeysApart (applyTargetScopeFilter (coveredInput "s" "t" "m" fills)) [flatAggregate "s"] := by
    intro fills hf
    refine ⟨?_, ?_, ?_⟩
    · revert fills; decide +kernel
    · intro a ha m hm
      rw [List.mem_singleton.1 ha] at hm
      cases hm
    · revert fills; decide +kernel
  refine ⟨r, v, out, out', h, h', (single_source_counting h ?_).2.2 _ _ ?_ ?_ h'⟩
  · rw [hsel]; exact hkeys _ (by simp)
  · rw [hsel]; exact ⟨⟨by decide +kernel, by decide +kernel, by decide +kernel⟩, rfl⟩
  · rw [hsel]; exact hkeys _ (by simp)

/-- strategy `a::b` has an aggregate snapshot and buys in market `c`; strategy `a` holds market `b::c`. The fill is
covered, and it changes both totals: under the common key it stands in the way of the position. -/
theorem covered_fill_changes_total : ∃ r v out out',
    calculate (applyTargetScopeFilter (coveredInput "a::b" "a" "b::c" [])) = .ok (r, v, out) ∧
    CoveredEdit r.selection.snapshots (coveredInput "a::b" "a" "b::c" [])
      (coveredInput "a::b" "a" "b::c" [boughtIn "a::b" "c"]) ∧
    calculatePnLAccounting (coveredInput "a::b" "a" "b::c" [boughtIn "a::b" "c"]) = .ok out' ∧
    out'.realizedPnlKrw ≠ out.realizedPnlKrw ∧ out'.unrealizedPnlKrw ≠ out.unrealizedPnlKrw := by
  obtain ⟨⟨r, v, out⟩, h⟩ := exists_ok (show (calculate (applyTargetScopeFilter
    (coveredInput "a::b" "a" "b::c" []))).toOption.isSome by decide +kernel)
  obtain ⟨out', h'⟩ := exists_ok (show (calculatePnLAccounting
    (coveredInput "a::b" "a" "b::c" [boughtIn "a::b" "c"])).toOption.isSome by decide +kernel)
  have hsel := coveredInput_selection h (by decide +kernel)
  have hbefore : (calculate (applyTargetScopeFilter (coveredInput "a::b" "a" "b::c" []))).toOption.map
      (fun x => (x.2.2.realizedPnlKrw, x.2.2.unrealizedPnlKrw)) = some (none, some 5) := by decide +kernel
  have hafter : (calculatePnLAccounting (coveredInput "a::b" "a" "b::c" [boughtIn "a::b" "c"])).toOption.map
      (fun x => (x.realizedPnlKrw, x.unrealizedPnlKrw)) = some (some 0, some 0) := by decide +kernel
  rw [h] at hbefore
  rw [h'] at hafter
  simp only [Except.toOption, Option.map_some, Option.some.injEq, Prod.mk.injEq] at hbefore hafter
  refine ⟨r, v, out, out', h, ?_, h', ?_, ?_⟩
  · rw [hsel]; exact ⟨⟨by decide +kernel, by decide +kernel, by decide +kernel⟩, rfl⟩
  · rw [hbefore.1, hafter.1]; simp
  · rw [hbefore.2, hafter.2]; decide

end SeeMirai.Pnl
