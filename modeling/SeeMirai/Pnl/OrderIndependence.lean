/-
Order independence of `calculatePnLAccounting`: the facts arrive as arrays, and what is reported should not depend on
the order of their elements.

Fills are sorted by a key that holds every field but the time, marks and snapshots are selected by a tie-break key. Two
things are left to the order: a tie between snapshots that differ in their payload only (`TieSettled`), and which of two
strategy and market pairs with one scope key needs cost evidence (the last fill wins). Where neither occurs
(`OrderSettled`) the reported figures are the same for every order.

Results:
- `sortFills_of_perm`: sorting forgets the order of the fills.
- `replay_perm`: the replay of reordered facts, equal up to the texts of missing reasons.
- `calculation_order_independent`: the reported figures of reordered facts.
Witness (a tie left to the order):
- `tied_snapshots_change_status`.
-/
import SeeMirai.Pnl.SnapshotOrder
import SeeMirai.Pnl.Seeds

namespace SeeMirai.Pnl

open Fallible

/-- the same facts, with fills, snapshots, marks and cost facts in another order -/
structure Reordered (input input' : PnLAccountingInput) : Prop where
  fills : input.fills.Perm input'.fills
  snapshots : input.pnlSnapshots.Perm input'.pnlSnapshots
  marks : input.markPrices.Perm input'.markPrices
  costs : input.costQuality.Perm input'.costQuality
  rest : input' = { input with
    fills := input'.fills
    pnlSnapshots := input'.pnlSnapshots
    markPrices := input'.markPrices
    costQuality := input'.costQuality }

/-- no two strategy and market pairs trade under one key -/
def OnePairPerKey [Host] (fills : List PnLFillFact) : Prop :=
  ∀ f ∈ fills, ∀ g ∈ fills, 0 < amount f.quantity → 0 < amount g.quantity → f.key = g.key →
    f.strategyId = g.strategyId ∧ f.market = g.market

/-- nothing is left to the order: no tie between snapshots, and one pair under each key of the fills -/
structure OrderSettled [Host] (input : PnLAccountingInput) : Prop where
  ties : input.pnlSnapshots.Pairwise (TieSettled input.pnlSnapshots)
  keys : OnePairPerKey input.fills

/-! ## Sorting fills -/

section Fills

variable {fills fills' : List PnLFillFact}

def FillsDated (fills : List PnLFillFact) : Prop := ∀ f ∈ fills, f.filledAt.millis.isSome

theorem FillsDated.perm (hp : fills.Perm fills') (h : FillsDated fills) : FillsDated fills' :=
  fun f hf => h f (hp.mem_iff.2 hf)

theorem millis_inj {t t' : TimestampInput} (ht : t.millis.isSome) (h : t.millis = t'.millis) : t = t' := by
  cases t <;> cases t' <;> simp_all [TimestampInput.millis]

theorem isFillCovered_of_perm (hp : fills.Perm fills') : isFillCovered fills = isFillCovered fills' := by
  funext s m
  exact hp.any_eq

variable [Host]

theorem compareFillFact_trans [Host.Lawful ‹Host›] : Std.TransCmp compareFillFact :=
  transCmp_then (transCmp_on (inferInstanceAs (Std.TransCmp (compare : Option Int → Option Int → Ordering))) _)
    (transCmp_then (transCmp_on (inferInstanceAs (Std.TransCmp (compare : ℕ → ℕ → Ordering))) _)
      (transCmp_on Host.Lawful.trans _))

/-- the sort key of a fill holds all of it -/
theorem compareFillFact_eq [Host.Lawful ‹Host›] {f g : PnLFillFact} (hf : f.filledAt.millis.isSome)
    (h : compareFillFact f g = .eq) : f = g := by
  have heqCmp : Std.LawfulEqCmp (Host.localeCompare) := Host.Lawful.eq
  obtain ⟨htime, h⟩ := Ordering.then_eq_eq.1 h
  obtain ⟨hside, hkey⟩ := Ordering.then_eq_eq.1 h
  have htime' : f.filledAt = g.filledAt := millis_inj hf (Std.LawfulEqCmp.eq_of_compare htime)
  have hside' : f.side = g.side := by
    have : sideSortRank f.side = sideSortRank g.side := Std.LawfulEqCmp.eq_of_compare hside
    cases hs : f.side <;> cases hs' : g.side <;> simp_all [sideSortRank]
  have hfields := JsonText.stringify_injective (Std.LawfulEqCmp.eq_of_compare hkey)
  simp only [List.cons.injEq, Option.some.injEq, and_true] at hfields
  obtain ⟨hs, hm, ho, hp, hq, hfee, hcur, hliq⟩ := hfields
  have hliq' : f.liquidity = g.liquidity := by
    cases hl : f.liquidity <;> cases hl' : g.liquidity <;> simp_all [Liquidity.text]
  cases f
  cases g
  simp_all

theorem sortFills_ok (hd : FillsDated fills) :
    sortFillsByExecutionTime fills = .ok (stableSort compareFillFact fills) := by
  obtain ⟨times, htimes⟩ := mapM_total (fun f hf => (Option.isSome_iff_exists.1 (hd f hf)).imp
    fun t ht => toTime_eq_ok.2 ht)
  unfold sortFillsByExecutionTime
  split
  · simp only [htimes, ok_bind]
    rfl
  · rfl

/-- **Sorting forgets the order of the fills.** -/
theorem sortFills_of_perm [Host.Lawful ‹Host›] (hp : fills.Perm fills') (hd : FillsDated fills) :
    sortFillsByExecutionTime fills = sortFillsByExecutionTime fills' := by
  have htrans := compareFillFact_trans
  rw [sortFills_ok hd, sortFills_ok (hd.perm hp),
    stableSort_eq_of_perm hp fun f hf g _ heq => compareFillFact_eq (hd f hf) heq]

theorem findOpening_of_perm [Host.Lawful ‹Host›] (hp : fills.Perm fills') (hd : FillsDated fills) (s m : String) :
    findOpeningPositionSeedRequiredAt fills s m = findOpeningPositionSeedRequiredAt fills' s m := by
  unfold findOpeningPositionSeedRequiredAt
  rw [sortFills_of_perm (hp.filter _) fun f hf => hd f (List.mem_filter.1 hf).1]

end Fills

/-! ## Missing reasons are carried along -/

/-- the collection with reasons noted before it -/
def Collected.reasoned (acc : Collected) (reasons : List PnLMissingReason) : Collected :=
  { acc with missingReasons := reasons ++ acc.missingReasons }

section Reasoned

variable (acc : Collected) (reasons : List PnLMissingReason)

@[simp] theorem addReason_reasoned (reason : PnLMissingReason) :
    (acc.reasoned reasons).addReason reason = (acc.addReason reason).reasoned reasons := by
  simp [Collected.reasoned, Collected.addReason]

@[simp] theorem block_reasoned (key : String) :
    (acc.reasoned reasons).block key = (acc.block key).reasoned reasons := rfl

@[simp] theorem addGap_reasoned (key : String) :
    (acc.reasoned reasons).addGap key = (acc.addGap key).reasoned reasons := rfl

@[simp] theorem unknownReconcile_reasoned :
    (acc.reasoned reasons).unknownReconcile = acc.unknownReconcile.reasoned reasons := rfl

@[simp] theorem openWith_reasoned (position : PnLPositionFact) :
    (acc.reasoned reasons).openWith position = (acc.openWith position).reasoned reasons := rfl

@[simp] theorem noteUnpriced_reasoned (position : PnLPositionFact) (quantity : ℚ) :
    (acc.reasoned reasons).noteUnpriced position quantity = (acc.noteUnpriced position quantity).reasoned reasons := by
  unfold Collected.noteUnpriced
  split_ifs
  · exact addReason_reasoned ..
  · rfl

theorem ite_reasoned (c : Prop) [Decidable c] (a b : Collected) :
    (if c then a.reasoned reasons else b.reasoned reasons) = (if c then a else b).reasoned reasons := by
  split_ifs <;> rfl

@[simp] theorem gaps_reasoned : (acc.reasoned reasons).positionRealizedGapScopes = acc.positionRealizedGapScopes := rfl

theorem notePosition_reasoned (position : PnLPositionFact) (hasFill : Bool) (requiredAt : Option Int) (late : Bool)
    (quantity : ℚ) : (acc.reasoned reasons).notePosition position hasFill requiredAt late quantity
      = (acc.notePosition position hasFill requiredAt late quantity).reasoned reasons := by
  unfold Collected.notePosition
  simp only [noteUnpriced_reasoned, openWith_reasoned, ite_reasoned, Collected.blockLate, block_reasoned,
    addGap_reasoned, addReason_reasoned, gaps_reasoned, Collected.noteUnadjusted]
  rfl

variable {acc reasons} [Host]

theorem collectPosition_reasoned (input : PnLAccountingInput) (snapshots : List PnLSnapshotFact)
    (position : PnLPositionFact) : collectPosition input snapshots (acc.reasoned reasons) position
      = (·.reasoned reasons) <$> collectPosition input snapshots acc position := by
  unfold collectPosition
  split
  · rfl
  · simp only [map_bind, map_pure, notePosition_reasoned]

theorem collectReconcile_reasoned (input : PnLAccountingInput) (snapshots : List PnLSnapshotFact)
    (reconcile : PnLReconcileFact) : collectReconcile input snapshots (acc.reasoned reasons) reconcile
      = (·.reasoned reasons) <$> collectReconcile input snapshots acc reconcile := by
  unfold collectReconcile
  split
  · rfl
  · simp only
    split
    · split
      · rfl
      · simp only [map_pure, addReason_reasoned, unknownReconcile_reasoned]
    · simp only [map_bind]
      congr 1
      funext requiredAt
      split
      · rfl
      · split
        · rfl
        · simp only [map_bind]
          congr 1
          funext late
          split
          · simp only [map_pure, block_reasoned, addReason_reasoned, unknownReconcile_reasoned]
          · split
            · simp only [map_pure, addReason_reasoned, unknownReconcile_reasoned]
            · simp only [map_pure, addReason_reasoned, unknownReconcile_reasoned, ite_reasoned]
              rfl

theorem reconcile_loop_reasoned (input : PnLAccountingInput) (snapshots : List PnLSnapshotFact)
    (facts : List PnLReconcileFact) : facts.foldlM (collectReconcile input snapshots) (acc.reasoned reasons)
      = (·.reasoned reasons) <$> facts.foldlM (collectReconcile input snapshots) acc :=
  foldlM_carry (fun c => c.reasoned reasons) (fun _ x => collectReconcile_reasoned input snapshots x) acc

theorem position_loop_reasoned (input : PnLAccountingInput) (snapshots : List PnLSnapshotFact)
    (facts : List PnLPositionFact) : facts.foldlM (collectPosition input snapshots) (acc.reasoned reasons)
      = (·.reasoned reasons) <$> facts.foldlM (collectPosition input snapshots) acc :=
  foldlM_carry (fun c => c.reasoned reasons) (fun _ x => collectPosition_reasoned input snapshots x) acc

end Reasoned

/-! ## The replay -/

def noneCollected : Collected := ⟨[], [], [], false, [], [], []⟩

/-- the reasons the selected snapshots bring along -/
def selectionReasons (selection : SnapshotSelection) : List PnLMissingReason :=
  selection.missingReasons ++ extractSnapshotPayloadMissingReasons selection.snapshots

theorem initialCollected_eq (selection : SnapshotSelection) :
    initialCollected selection = noneCollected.reasoned (selectionReasons selection) := by
  simp [initialCollected, noneCollected, Collected.reasoned, selectionReasons]

section Views

variable [Host] {xs ys : List PnLSnapshotFact}

theorem views_forall₂ (h : xs.map PnLSnapshotFact.view = ys.map PnLSnapshotFact.view) :
    List.Forall₂ (fun s s' => s.view = s'.view) xs ys := by
  have heq : List.Forall₂ Eq (xs.map PnLSnapshotFact.view) (ys.map PnLSnapshotFact.view) := by
    rw [h]
    exact List.forall₂_refl _
  rwa [List.forall₂_map_left_iff, List.forall₂_map_right_iff] at heq

theorem isSnapshotCovered_of_views (h : xs.map PnLSnapshotFact.view = ys.map PnLSnapshotFact.view) :
    isSnapshotCovered xs = isSnapshotCovered ys := by
  funext s m
  have hany : ∀ zs : List PnLSnapshotFact, isSnapshotCovered zs s m
      = ((zs.map PnLSnapshotFact.view).any (fun v => v.scope.2.isNone ∧ v.scope.1 = s) ||
        (zs.map PnLSnapshotFact.view).any
          (fun v => v.scope.2.isSome ∧ scopeKey v.scope.1 v.scope.2 = scopeKey s (some m))) := by
    intro zs
    simp only [List.any_map]
    rfl
  rw [hany, hany, h]

theorem reasons_of_views (h : xs.map PnLSnapshotFact.view = ys.map PnLSnapshotFact.view) :
    extractSnapshotPayloadMissingReasons xs = [] ↔ extractSnapshotPayloadMissingReasons ys = [] := by
  have hall : ∀ zs : List PnLSnapshotFact, extractSnapshotPayloadMissingReasons zs = []
      ↔ ∀ v ∈ zs.map PnLSnapshotFact.view, v.explained = true := by
    intro zs
    simp [extractSnapshotPayloadMissingReasons, PnLSnapshotFact.view]
  rw [hall, hall, h]

theorem summarizeSnapshots_of_views (h : xs.map PnLSnapshotFact.view = ys.map PnLSnapshotFact.view) :
    Follows Eq (summarizeSnapshots xs) (summarizeSnapshots ys) := by
  have hnil : xs = [] ↔ ys = [] := by rw [← List.map_eq_nil_iff, h, List.map_eq_nil_iff]
  unfold summarizeSnapshots
  by_cases hx : xs = []
  · rw [if_pos hx, if_pos (hnil.1 hx)]
    exact Follows.refl _
  · rw [if_neg hx, if_neg (mt hnil.2 hx)]
    refine Follows.bind (R := Eq) (Follows.foldlM (views_forall₂ h) ?_ rfl) fun a b hab => Follows.pure (by rw [hab])
    rintro acc _ s s' hview rfl totals htotals
    have hvalues : Host.valueOf s.equity = Host.valueOf s'.equity ∧ Host.valueOf s.realizedPnl = Host.valueOf s'.realizedPnl ∧
        Host.valueOf s.unrealizedPnl = Host.valueOf s'.unrealizedPnl :=
      ⟨congrArg SnapshotView.equity hview, congrArg SnapshotView.realizedPnl hview,
        congrArg SnapshotView.unrealizedPnl hview⟩
    refine ⟨totals, ?_, rfl⟩
    unfold addSnapshot at htotals ⊢
    simp only [bind_eq_ok, parseFinancialDecimal_eq_ok] at htotals ⊢
    rwa [← hvalues.1, ← hvalues.2.1, ← hvalues.2.2]

end Views

/-- two collections that differ in the reasons noted before them only -/
def SameCollected (c c' : Collected) : Prop :=
  ∃ base reasons reasons', c = Collected.reasoned base reasons ∧ c' = base.reasoned reasons' ∧
    (reasons = [] ↔ reasons' = [])

/-- two replays that report the same -/
structure SameReplay [Host] (r r' : Replay) : Prop where
  views : r.selection.snapshots.map PnLSnapshotFact.view = r'.selection.snapshots.map PnLSnapshotFact.view
  totals : r.totals = r'.totals
  collected : SameCollected r.collected r'.collected
  ledgerFills : r.ledgerFills = r'.ledgerFills
  ledger : r.ledger = r'.ledger

section Replay

variable {input input' : PnLAccountingInput}

theorem Reordered.positions (h : Reordered input input') : input'.positions = input.positions := by rw [h.rest]

theorem Reordered.reconcileFacts (h : Reordered input input') : input'.reconcileFacts = input.reconcileFacts := by
  rw [h.rest]

variable [Host]

/-- both collecting loops do the same to reordered facts -/
theorem Reordered.collect_eq [Host.Lawful ‹Host›] (h : Reordered input input') (hd : FillsDated input.fills)
    {snapshots snapshots' : List PnLSnapshotFact} (hcov : isSnapshotCovered snapshots = isSnapshotCovered snapshots') :
    collectReconcile input snapshots = collectReconcile input' snapshots' ∧
      collectPosition input snapshots = collectPosition input' snapshots' := by
  have hfill := isFillCovered_of_perm h.fills
  have hreq : findOpeningPositionSeedRequiredAt input.fills = findOpeningPositionSeedRequiredAt input'.fills :=
    funext fun s => funext fun m => findOpening_of_perm h.fills hd s m
  constructor
  · funext acc r
    simp only [collectReconcile, hcov, hfill, hreq, h.positions]
  · funext acc p
    simp only [collectPosition, hcov, hfill, hreq]

/-- **The replay of reordered facts.** -/
theorem replay_perm [Host.Lawful ‹Host›] (h : Reordered input input') (hd : FillsDated input.fills)
    (hs : Dated input.pnlSnapshots) (hset : OrderSettled input) {r : Replay} (hr : replay input = .ok r) :
    ∃ r', replay input' = .ok r' ∧ SameReplay r r' := by
  have hrun := replay_run hr
  obtain ⟨selection', hsel', hviews, hreasons⟩ := selection_perm h.snapshots hs hset.ties hrun.selection
  have hcov := isSnapshotCovered_of_views hviews
  obtain ⟨totals', htot', rfl⟩ := summarizeSnapshots_of_views hviews _ hrun.totals
  obtain ⟨hrec, hpos⟩ := h.collect_eq hd hcov
  obtain ⟨mid, hmid, hcol⟩ := hrun.collected
  -- the loops run on the collection without the reasons, which are put on again afterwards
  rw [initialCollected_eq, reconcile_loop_reasoned] at hmid
  obtain ⟨base, hbase, rfl⟩ := map_eq_ok.1 hmid
  rw [position_loop_reasoned] at hcol
  obtain ⟨final, hfinal, hcollected⟩ := map_eq_ok.1 hcol
  have hmid' : input'.reconcileFacts.foldlM (collectReconcile input' selection'.snapshots) (initialCollected selection')
      = .ok (base.reasoned (selectionReasons selection')) := by
    rw [initialCollected_eq, reconcile_loop_reasoned, ← hrec, h.reconcileFacts, hbase]
    rfl
  have hcol' : input'.positions.foldlM (collectPosition input' selection'.snapshots)
      (base.reasoned (selectionReasons selection')) = .ok (final.reasoned (selectionReasons selection')) := by
    rw [position_loop_reasoned, ← hpos, h.positions, hfinal]
    rfl
  have hblocked : r.collected.blockedFillReplayScopes = final.blockedFillReplayScopes := by rw [← hcollected]; rfl
  have hsorted : sortFillsByExecutionTime (replayableFills input' selection'.snapshots final.blockedFillReplayScopes)
      = .ok r.ledgerFills := by
    rw [← hrun.sorted, hblocked]
    unfold replayableFills
    rw [← hcov]
    exact (sortFills_of_perm (h.fills.filter _) fun f hf => hd f (List.mem_filter.1 hf).1).symm
  have hopening : openingLedger final.reconciledPositions final.openingSeedPositions = .ok r.opening := by
    rw [← hrun.opening, ← hcollected]
    rfl
  refine ⟨⟨selection', r.totals, final.reasoned (selectionReasons selection'), r.ledgerFills, r.opening, r.ledger⟩, ?_,
    hviews, rfl, ⟨final, _, _, hcollected.symm, rfl, ?_⟩, rfl, rfl⟩
  · unfold replay
    simp only [hsel', htot', hmid', hcol', ok_bind]
    exact bind_eq_ok.2 ⟨_, hsorted, bind_eq_ok.2 ⟨_, hopening, bind_eq_ok.2 ⟨_, hrun.ledger, rfl⟩⟩⟩
  · unfold selectionReasons
    rw [List.append_eq_nil_iff, List.append_eq_nil_iff, hreasons, reasons_of_views hviews]

end Replay

/-! ## Valuation -/

theorem noted_eq_nil {c : Prop} [Decidable c] {reasons : List PnLMissingReason} {reason : PnLMissingReason} :
    (if c then addMissingReasonOnce reasons reason else reasons) = [] ↔ reasons = [] ∧ ¬ c := by
  split_ifs with h
  · simp [h, addMissingReasonOnce_ne_nil]
  · simp [h]

/-- two valuations that report the same -/
structure SameFigures (v v' : Valuation) : Prop where
  figures : v' = { v with missingReasons := v'.missingReasons }
  reasons : v.missingReasons = [] ↔ v'.missingReasons = []

section Marks

variable {marks marks' : MarkPrices} (hm : ∀ market, assocGet marks market = assocGet marks' market)

include hm

theorem markPrice_congr : PositionLedger.markPrice marks' = PositionLedger.markPrice marks :=
  funext fun pos => (hm (displayMarket pos.market)).symm

/-- the details read the marks through their answers only -/
theorem calculatePositionDetails_congr (ledger : Ledger) :
    calculatePositionDetails ledger marks' = calculatePositionDetails ledger marks := by
  unfold calculatePositionDetails computeLedgerMarketValueForExposure positionDetail
  simp only [markPrice_congr hm]

theorem markPriceReasons_congr (ledger : Ledger) : markPriceReasons ledger marks' = markPriceReasons ledger marks := by
  unfold markPriceReasons
  simp only [markPrice_congr hm]

end Marks

theorem SameReplay.valuate [Host] {r r' : Replay} (h : SameReplay r r') {input input' : PnLAccountingInput}
    (ht : input'.targets = input.targets) (cashKrw : Option ℚ) {marks marks' : MarkPrices}
    (hm : ∀ market, assocGet marks market = assocGet marks' market) :
    SameFigures (valuate input r cashKrw marks) (valuate input' r' cashKrw marks') := by
  have hdetails := calculatePositionDetails_congr hm r.ledger
  have hreasons := markPriceReasons_congr hm r.ledger
  have hnil : (r'.selection.snapshots = []) = (r.selection.snapshots = []) := by
    rw [← List.map_eq_nil_iff (f := PnLSnapshotFact.view), ← h.views, List.map_eq_nil_iff]
  obtain ⟨base, reasons, reasons', hc, hc', hiff⟩ := h.collected
  constructor
  · unfold Pnl.valuate
    simp only [← h.totals, ← h.ledger, ← h.ledgerFills, hc, hc', Collected.reasoned, ht, hdetails, ne_eq, hnil]
  · unfold Pnl.valuate
    simp only [← h.totals, ← h.ledger, hc, hc', Collected.reasoned, ht, hdetails, hreasons, ne_eq, hnil, noted_eq_nil,
      List.append_eq_nil_iff, hiff]

/-! ## Marks -/

section MarkOrder

/-- the time of an observation; an unobserved price has none -/
def PnLMarkPriceFact.time (mp : PnLMarkPriceFact) : Option Int := mp.observedAt.bind (·.millis)

/-- the observation time, if there is one, is valid -/
def PnLMarkPriceFact.Timed (mp : PnLMarkPriceFact) : Prop := ∀ t, mp.observedAt = some t → t.millis.isSome

theorem observedTimeOrUnknown_ok {mp : PnLMarkPriceFact} (h : mp.Timed) : observedTimeOrUnknown mp = .ok mp.time := by
  unfold observedTimeOrUnknown PnLMarkPriceFact.time
  cases ho : mp.observedAt with
  | none => rfl
  | some t =>
    obtain ⟨ms, hms⟩ := Option.isSome_iff_exists.1 (h t ho)
    simp only [Option.bind_some, hms]
    exact map_eq_ok.2 ⟨ms, toTime_eq_ok.2 hms, rfl⟩

theorem timed_of_observed {mp : PnLMarkPriceFact} {t : Option Int} (h : observedTimeOrUnknown mp = .ok t) : mp.Timed := by
  intro o ho
  unfold observedTimeOrUnknown at h
  rw [ho] at h
  obtain ⟨ms, hms, -⟩ := map_eq_ok.1 h
  exact Option.isSome_iff_exists.2 ⟨ms, toTime_eq_ok.1 hms⟩

variable [Host]

/-- the comparison without its errors -/
def markOrder (left right : PnLMarkPriceFact) : Ordering :=
  (compare left.time right.time).then
    ((compare (markPriceSourceRank left.source) (markPriceSourceRank right.source)).then
      (Host.localeCompare (createMarkPriceTieBreakKey left) (createMarkPriceTieBreakKey right)))

theorem markOrder_trans [Host.Lawful ‹Host›] : Std.TransCmp markOrder :=
  transCmp_then (transCmp_on (inferInstanceAs (Std.TransCmp (compare : Option Int → Option Int → Ordering))) _)
    (transCmp_then (transCmp_on (inferInstanceAs (Std.TransCmp (compare : ℕ → ℕ → Ordering))) _)
      (transCmp_on Host.Lawful.trans _))

theorem compareMarkPriceCandidate_order {l r : PnLMarkPriceFact} (hl : l.Timed) (hr : r.Timed) :
    compareMarkPriceCandidate l r = .ok (markOrder l r) := by
  unfold compareMarkPriceCandidate
  rw [observedTimeOrUnknown_ok hl, observedTimeOrUnknown_ok hr]
  rfl

theorem timed_of_compared {l r : PnLMarkPriceFact} {o : Ordering} (h : compareMarkPriceCandidate l r = .ok o) :
    l.Timed ∧ r.Timed := by
  obtain ⟨tl, hl, h⟩ := bind_eq_ok.1 h
  obtain ⟨tr, hr, -⟩ := bind_eq_ok.1 h
  exact ⟨timed_of_observed hl, timed_of_observed hr⟩

/-- the tie-break key holds the price -/
theorem price_of_markOrder_eq [Host.Lawful ‹Host›] {l r : PnLMarkPriceFact} (h : markOrder l r = .eq) :
    l.priceKrw = r.priceKrw := by
  have heqCmp : Std.LawfulEqCmp (Host.localeCompare) := Host.Lawful.eq
  have hkey := (Ordering.then_eq_eq.1 (Ordering.then_eq_eq.1 h).2).2
  have hfields := JsonText.stringify_injective (Std.LawfulEqCmp.eq_of_compare hkey)
  simp only [List.cons.injEq, Option.some.injEq, and_true] at hfields
  exact hfields.2.1

/-- the marks of one market keep one price in every order -/
theorem markPass_perm [Host.Lawful ‹Host›] {xs ys : List PnLMarkPriceFact} (hp : xs.Perm ys)
    {kept : Option PnLMarkPriceFact} (h : pickPass compareMarkPriceCandidate none xs = .ok kept) :
    ∃ kept', pickPass compareMarkPriceCandidate none ys = .ok kept' ∧ kept'.map (·.priceKrw) = kept.map (·.priceKrw) := by
  have htrans := markOrder_trans
  by_cases hlen : 2 ≤ xs.length
  · -- with two marks or more every one was compared, so every observation time is valid
    have htimed : ∀ x ∈ xs, x.Timed := by
      intro x hx
      obtain ⟨y, o, hxy | hyx⟩ := pickPass_compared h hlen x hx
      · exact (timed_of_compared hxy).1
      · exact (timed_of_compared hyx).2
    obtain ⟨kept₁, kept', h₁, h', hrel⟩ := pickPass_perm markOrder hp
      fun x hx y hy => compareMarkPriceCandidate_order (htimed x hx) (htimed y hy)
    have hkept : kept₁ = kept := Except.ok.inj (h₁.symm.trans h)
    subst hkept
    refine ⟨kept', h', ?_⟩
    cases hrel with
    | none => rfl
    | some heq => simp [price_of_markOrder_eq heq]
  · have hsame : xs = ys := by
      rcases xs with _ | ⟨x, _ | ⟨y, zs⟩⟩
      · exact (List.nil_perm.1 hp).symm
      · exact List.singleton_perm.1 hp
      · simp at hlen
    exact ⟨kept, hsame ▸ h, rfl⟩

/-- **The price of a market does not depend on the order of the marks.** -/
theorem buildMarkPriceMap_perm [Host.Lawful ‹Host›] {marks marks' : List PnLMarkPriceFact} (hp : marks.Perm marks')
    {prices : MarkPrices} (h : buildMarkPriceMap marks = .ok prices) :
    ∃ prices', buildMarkPriceMap marks' = .ok prices' ∧ ∀ market, assocGet prices market = assocGet prices' market := by
  have hkeeps := keepLatest_keeps compareMarkPriceCandidate PnLMarkPriceFact.market
  obtain ⟨latest, hlatest, hparse⟩ := bind_eq_ok.1 h
  have hpass := fun market => markPass_perm (hp.filter _) (hkeeps.pass_get hlatest market)
  obtain ⟨latest', hlatest'⟩ := hkeeps.pass_ok (m := InsertionMap.empty) fun k =>
    (hpass k).imp fun kept' hk => hk.1
  have hprice : ∀ market, (latest'.get market).map (·.priceKrw) = (latest.get market).map (·.priceKrw) := by
    intro market
    obtain ⟨kept', hkept', heq⟩ := hpass market
    rw [← heq, Except.ok.inj ((hkeeps.pass_get hlatest' market).symm.trans hkept')]
  -- every kept mark has a price that was parsed under its market in the first order
  have hparsed : ∀ e ∈ latest'.entries, ∃ p, (do
      let price ← parseNonNegativeDecimal e.2.priceKrw
      pure (e.1, price) : Except Thrown (String × ℚ)) = .ok p := by
    intro e he
    have hget := hprice e.1
    rw [latest'.mem_iff_get.1 he] at hget
    obtain ⟨mp, hmp, hsame⟩ : ∃ mp, latest.get e.1 = some mp ∧ mp.priceKrw = e.2.priceKrw :=
      Option.map_eq_some_iff.1 hget.symm
    obtain ⟨price, hpr, -⟩ := bind_eq_ok.1 ((mapM_eq_map ("", 0) hparse).2 (e.1, mp) (latest.mem_iff_get.2 hmp))
    exact ⟨(e.1, price), bind_eq_ok.2 ⟨price, by rw [← hsame]; exact hpr, rfl⟩⟩
  obtain ⟨prices', hparse'⟩ := mapM_total hparsed
  have h' : buildMarkPriceMap marks' = .ok prices' := bind_eq_ok.2 ⟨latest', hlatest', hparse'⟩
  refine ⟨prices', h', fun market => ?_⟩
  obtain ⟨kept, hkept, hget⟩ := buildMarkPriceMap_get h market
  obtain ⟨kept', hkept', hget'⟩ := buildMarkPriceMap_get h' market
  obtain ⟨kept₁, hkept₁, heq⟩ := markPass_perm (hp.filter _) hkept
  have hsame : kept' = kept₁ := Except.ok.inj (hkept'.symm.trans hkept₁)
  have hcomp : ∀ o : Option PnLMarkPriceFact, o.map (fun mp => (parseNonNegativeDecimal mp.priceKrw).toOption.getD 0)
      = (o.map (·.priceKrw)).map (fun price => (parseNonNegativeDecimal price).toOption.getD 0) := by
    intro o
    cases o <;> rfl
  rw [hget, hget', hcomp, hcomp, hsame, heq]

end MarkOrder

/-! ## Fees and costs -/

section Costs

variable [Host] {fills fills' : List PnLFillFact}

/-- the fees of one currency, `none` where nothing was charged in it -/
def feesIn (fills : List PnLFillFact) (currency : String) : Option ℚ :=
  if fills.filter (·.feeCurrency = currency) = [] then none
  else some ((fills.filter (·.feeCurrency = currency)).map (fun f => amount f.fee)).sum

theorem feesIn_perm (hp : fills.Perm fills') (currency : String) : feesIn fills currency = feesIn fills' currency := by
  have hf := hp.filter (fun f : PnLFillFact => f.feeCurrency = currency)
  have hnil : (fills.filter (·.feeCurrency = currency) = []) = (fills'.filter (·.feeCurrency = currency) = []) := by
    rw [← List.length_eq_zero_iff, ← List.length_eq_zero_iff, hf.length_eq]
  unfold feesIn
  simp only [hnil, (hf.map (fun f => amount f.fee)).sum_eq]

theorem feesIn_snoc (fills : List PnLFillFact) (f : PnLFillFact) (currency : String) :
    feesIn (fills ++ [f]) currency
      = if f.feeCurrency = currency then some ((feesIn fills currency).getD 0 + amount f.fee)
        else feesIn fills currency := by
  unfold feesIn
  by_cases hc : f.feeCurrency = currency
  · by_cases hnil : fills.filter (·.feeCurrency = currency) = []
    · simp [List.filter_append, hc, hnil]
    · simp [List.filter_append, hc, hnil]
  · simp [List.filter_append, hc]

theorem aggregateFees_get {fees : InsertionMap String ℚ} (h : aggregateFeesByCurrency fills = .ok fees)
    (currency : String) : fees.get currency = feesIn fills currency := by
  refine foldlM_history (fun visited (m : InsertionMap String ℚ) => ∀ c, m.get c = feesIn visited c) ?_ ?_ h currency
  · intro c
    simp [feesIn]
  · intro visited f m m' hm hstep c
    obtain ⟨fee, hfee, hset⟩ := bind_eq_ok.1 hstep
    rw [pure_eq_ok] at hset
    rw [← hset, InsertionMap.get_set, feesIn_snoc, amount_of_parse hfee, ← hm c]
    by_cases hc : f.feeCurrency = c
    · rw [if_pos hc, if_pos hc, hc]
    · rw [if_neg hc, if_neg hc]

theorem fees_parse {fees : InsertionMap String ℚ} (h : aggregateFeesByCurrency fills = .ok fees) :
    ∀ f ∈ fills, ∃ fee, parseNonNegativeDecimal f.fee = .ok fee := by
  intro f hf
  obtain ⟨c, c', hstep⟩ := foldlM_visits h hf
  obtain ⟨fee, hfee, -⟩ := bind_eq_ok.1 hstep
  exact ⟨fee, hfee⟩

theorem buildFeeTotals_congr [Host.Lawful ‹Host›] {fees fees' : InsertionMap String ℚ}
    (h : ∀ c, fees.get c = fees'.get c) : buildFeeTotals fees = buildFeeTotals fees' := by
  have heqCmp : Std.LawfulEqCmp (Host.localeCompare) := Host.Lawful.eq
  have htrans : Std.TransCmp (fun a b : String × ℚ => Host.localeCompare a.1 b.1) := transCmp_on Host.Lawful.trans _
  unfold buildFeeTotals
  rw [stableSort_eq_of_perm (InsertionMap.perm_of_get_eq h)]
  rintro ⟨a, x⟩ ha ⟨b, y⟩ hb heq
  have hab : a = b := Std.LawfulEqCmp.eq_of_compare heq
  subst hab
  rw [fees.mem_iff_get] at ha hb
  rw [Option.some.inj (ha.symm.trans hb)]

theorem fees_perm [Host.Lawful ‹Host›] (hp : fills.Perm fills') {fees : InsertionMap String ℚ}
    (h : aggregateFeesByCurrency fills = .ok fees) :
    ∃ fees', aggregateFeesByCurrency fills' = .ok fees' ∧ buildFeeTotals fees = buildFeeTotals fees' := by
  have hparse := fees_parse h
  obtain ⟨fees', h'⟩ : ∃ fees', aggregateFeesByCurrency fills' = .ok fees' := by
    refine foldlM_total (fun f hf b => ?_) InsertionMap.empty
    obtain ⟨fee, hfee⟩ := hparse f (hp.mem_iff.2 hf)
    exact ⟨_, bind_eq_ok.2 ⟨fee, hfee, rfl⟩⟩
  refine ⟨fees', h', buildFeeTotals_congr fun c => ?_⟩
  rw [aggregateFees_get h, aggregateFees_get h', feesIn_perm hp]

/-- a fee in another currency that no rate converts -/
def Unconverted (f : PnLFillFact) : Prop := f.feeCurrency ≠ "KRW" ∧ amount f.fee ≠ 0

theorem appendNonKrwFee_nil {reasons reasons' : List PnLMissingReason}
    (h : appendNonKrwFeeMissingReasons reasons fills = .ok reasons') :
    reasons' = [] ↔ reasons = [] ∧ ∀ f ∈ fills, ¬ Unconverted f := by
  refine foldlM_history (fun visited (rs : List PnLMissingReason) =>
    rs = [] ↔ reasons = [] ∧ ∀ f ∈ visited, ¬ Unconverted f) (by simp) ?_ h
  intro visited f rs rs' hrs hstep
  have hsplit : (∀ g ∈ visited ++ [f], ¬ Unconverted g) ↔ (∀ g ∈ visited, ¬ Unconverted g) ∧ ¬ Unconverted f := by
    simp [or_imp, forall_and]
  rw [hsplit, ← and_assoc, ← hrs]
  unfold appendNonKrwFee at hstep
  split at hstep
  · rename_i hkrw
    rw [pure_eq_ok] at hstep
    simp [hstep, Unconverted, hkrw]
  · rename_i hkrw
    obtain ⟨fee, hfee, hstep⟩ := bind_eq_ok.1 hstep
    have hamount := amount_of_parse hfee
    split at hstep
    · rename_i hzero
      rw [pure_eq_ok] at hstep
      simp [hstep, Unconverted, hamount, hzero]
    · rename_i hzero
      rw [pure_eq_ok] at hstep
      simp [← hstep, Unconverted, hkrw, hamount, hzero, addMissingReasonOnce_ne_nil]

theorem nonKrw_perm (hp : fills.Perm fills') {reasons reasons' result : List PnLMissingReason}
    (hiff : reasons = [] ↔ reasons' = []) (hparse : ∀ f ∈ fills, ∃ fee, parseNonNegativeDecimal f.fee = .ok fee)
    (h : appendNonKrwFeeMissingReasons reasons fills = .ok result) :
    ∃ result', appendNonKrwFeeMissingReasons reasons' fills' = .ok result' ∧ (result = [] ↔ result' = []) := by
  obtain ⟨result', h'⟩ : ∃ result', appendNonKrwFeeMissingReasons reasons' fills' = .ok result' := by
    refine foldlM_total (fun f hf rs => ?_) reasons'
    obtain ⟨fee, hfee⟩ := hparse f (hp.mem_iff.2 hf)
    unfold appendNonKrwFee
    simp only [hfee, ok_bind]
    split_ifs
    · exact ⟨_, rfl⟩
    · exact ⟨_, rfl⟩
    · exact ⟨_, rfl⟩
  refine ⟨result', h', ?_⟩
  rw [appendNonKrwFee_nil h, appendNonKrwFee_nil h', hiff]
  simp only [hp.mem_iff]

theorem qualityMetric_perm {facts facts' : List PnLCostQualityFact} (hp : facts.Perm facts') {field : QualityField}
    {metric : PnLExecutionQualityMetric} (h : aggregateQualityMetric facts field = .ok metric) :
    ∃ metric', aggregateQualityMetric facts' field = .ok metric' := by
  obtain ⟨values, hvalues, -⟩ := bind_eq_ok.1 h
  obtain ⟨values', hvalues', -⟩ := mapM_perm (hp.filterMap _) hvalues
  unfold aggregateQualityMetric
  simp only [hvalues', ok_bind]
  split_ifs
  · exact ⟨_, rfl⟩
  · exact ⟨_, rfl⟩

/-- a scope needs cost evidence when it traded; with one pair per key it is the pair of any of its fills -/
theorem requireFills_get {requirements : Requirements} (hkeys : OnePairPerKey fills)
    (h : fills.foldlM requireFill InsertionMap.empty = .ok requirements) (key : String) (pair : String × String) :
    requirements.get key = some pair ↔
      ∃ f ∈ fills, 0 < amount f.quantity ∧ f.key = key ∧ (f.strategyId, f.market) = pair := by
  have hrun := foldlM_history (fun visited (m : Requirements) => (∀ f ∈ visited, f ∈ fills) →
      ∀ key pair, m.get key = some pair ↔
        ∃ f ∈ visited, 0 < amount f.quantity ∧ f.key = key ∧ (f.strategyId, f.market) = pair)
    (by simp) (fun visited f m m' hm hstep hsub key pair => ?_) h
  · exact hrun (fun _ hf => hf) key pair
  · have hm := hm fun g hg => hsub g (by simp [hg])
    obtain ⟨quantity, hq, hset⟩ := bind_eq_ok.1 hstep
    have hamount := amount_of_parse hq
    split at hset
    · rename_i hpos
      rw [pure_eq_ok] at hset
      rw [← hset, InsertionMap.get_set]
      by_cases hk : f.key = key
      · rw [if_pos hk, Option.some.injEq]
        constructor
        · exact fun hpair => ⟨f, by simp, hamount ▸ hpos, hk, hpair⟩
        · rintro ⟨g, hg, hgpos, hgk, rfl⟩
          have hsame := hkeys f (hsub f (by simp)) g (hsub g hg) (hamount ▸ hpos) hgpos (hk.trans hgk.symm)
          rw [hsame.1, hsame.2]
      · rw [if_neg hk, hm]
        refine exists_congr fun g => and_congr_left fun hg => ?_
        rw [List.mem_append, List.mem_singleton]
        refine ⟨Or.inl, ?_⟩
        rintro (hv | rfl)
        · exact hv
        · exact absurd hg.2.1 hk
    · rename_i hzero
      rw [pure_eq_ok] at hset
      rw [← hset, hm]
      refine exists_congr fun g => and_congr_left fun hg => ?_
      rw [List.mem_append, List.mem_singleton]
      refine ⟨Or.inl, ?_⟩
      rintro (hv | rfl)
      · exact hv
      · exact absurd (hamount ▸ hg.1) hzero

theorem requireFills_perm (hp : fills.Perm fills') (hkeys : OnePairPerKey fills) :
    Follows (fun m m' : Requirements => ∀ key, m.get key = m'.get key) (fills.foldlM requireFill InsertionMap.empty)
      (fills'.foldlM requireFill InsertionMap.empty) := by
  intro m h
  have htotal : ∀ f ∈ fills', ∀ b, ∃ b', requireFill b f = .ok b' := by
    intro f hf b
    obtain ⟨c, c', hstep⟩ := foldlM_visits h (hp.mem_iff.2 hf)
    obtain ⟨quantity, hq, -⟩ := bind_eq_ok.1 hstep
    unfold requireFill
    simp only [hq, ok_bind]
    split_ifs
    · exact ⟨_, rfl⟩
    · exact ⟨_, rfl⟩
  obtain ⟨m', h'⟩ := foldlM_total htotal InsertionMap.empty
  refine ⟨m', h', fun key => Option.ext fun pair => ?_⟩
  rw [requireFills_get hkeys h,
    requireFills_get (fun f hf g hg => hkeys f (hp.mem_iff.2 hf) g (hp.mem_iff.2 hg)) h']
  simp only [hp.mem_iff]

theorem requirements_perm (hp : fills.Perm fills') (hkeys : OnePairPerKey fills)
    (fallback reconciled : List PnLPositionFact) :
    Follows (fun scopes scopes' => ∀ x, x ∈ scopes ↔ x ∈ scopes')
      (resolveCostQualityScopeRequirements fills fallback reconciled)
      (resolveCostQualityScopeRequirements fills' fallback reconciled) := by
  refine (requireFills_perm hp hkeys).bind fun m m' hm => ?_
  refine Follows.bind (R := fun m m' : Requirements => ∀ key, m.get key = m'.get key)
    (Follows.foldlM (T := Eq) (List.forall₂_refl _) ?_ hm) fun m m' hm => Follows.pure fun x => ?_
  · rintro c d position _ rfl hcd
    refine Follows.bind (Follows.refl _) ?_
    rintro quantity _ rfl
    split
    · refine Follows.pure fun key => ?_
      rw [InsertionMap.get_set, InsertionMap.get_set, hcd key]
    · exact Follows.pure hcd
  · simp only [mem_stableSort, InsertionMap.values, List.mem_map, (InsertionMap.perm_of_get_eq hm).mem_iff]

omit [Host] in
theorem appendCostQuality_nil {reasons : List PnLMissingReason} {scopes : List (String × String)}
    {facts : List PnLCostQualityFact} : appendCostQualityMissingReasons reasons scopes facts = [] ↔
      reasons = [] ∧ ∀ scope ∈ scopes, ∀ field, hasCostQualityMetric facts scope.1 scope.2 field = true := by
  have hfield : ∀ (rs : List PnLMissingReason) (c : Prop) [Decidable c] (r : PnLMissingReason),
      (if c then rs else addMissingReasonOnce rs r) = [] ↔ rs = [] ∧ c := by
    intro rs c _ r
    split_ifs with hc
    · simp [hc]
    · simp [hc, addMissingReasonOnce_ne_nil]
  have hall : ∀ p : QualityField → Prop, (∀ field, p field) ↔ p .spreadCostBps ∧ p .slippageBps ∧ p .cancelRequotePenaltyBps :=
    fun p => ⟨fun h => ⟨h _, h _, h _⟩, fun ⟨h₁, h₂, h₃⟩ field => by cases field <;> assumption⟩
  unfold appendCostQualityMissingReasons
  induction scopes generalizing reasons with
  | nil => simp
  | cons scope scopes ih =>
    rw [List.foldl_cons]
    refine ih.trans ?_
    rw [List.forall_mem_cons, ← and_assoc]
    refine and_congr_left fun _ => ?_
    simp only [List.foldl_cons, List.foldl_nil, hfield, hall, and_assoc]

omit [Host] in
theorem hasCostQualityMetric_perm {facts facts' : List PnLCostQualityFact} (hp : facts.Perm facts') :
    hasCostQualityMetric facts = hasCostQualityMetric facts' := by
  funext s m field
  exact hp.any_eq

end Costs

/-! ## Times and scopes -/

section Scopes

variable {input input' : PnLAccountingInput}

theorem Reordered.timestamps (h : Reordered input input') :
    (sourceTimestamps input).Perm (sourceTimestamps input') := by
  have hcash : input'.cash = input.cash := by rw [h.rest]
  unfold sourceTimestamps
  rw [h.positions, h.reconcileFacts, hcash]
  have hmarks := (h.marks.filterMap (·.observedAt)).filter (·.truthy)
  exact (((((h.fills.map _).append_right _).append hmarks).append (h.snapshots.map _)).append_right _).append_right _

theorem max?_perm {xs ys : List Int} (hp : xs.Perm ys) : xs.max? = ys.max? := by
  refine Option.ext fun a => ?_
  rw [List.max?_eq_some_iff, List.max?_eq_some_iff]
  simp only [hp.mem_iff]

theorem Reordered.lastTimestamp (h : Reordered input input') :
    Follows Eq (findLastSourceTimestamp input) (findLastSourceTimestamp input') := by
  intro last hlast
  obtain ⟨times, htimes, hmax⟩ := bind_eq_ok.1 hlast
  obtain ⟨times', htimes', hperm⟩ := mapM_perm h.timestamps htimes
  rw [pure_eq_ok] at hmax
  exact ⟨last, bind_eq_ok.2 ⟨times', htimes', by rw [← max?_perm hperm, hmax]; rfl⟩, rfl⟩

theorem Reordered.capturedAt (h : Reordered input input') :
    Follows Eq (resolveCalculationCapturedAt input) (resolveCalculationCapturedAt input') := by
  have hgiven : input'.capturedAt = input.capturedAt ∧ input'.trace = input.trace := by
    constructor <;> rw [h.rest]
  unfold resolveCalculationCapturedAt
  rw [hgiven.1, hgiven.2]
  cases input.capturedAt.or (input.trace.bind (·.lastSourceTimestamp)) with
  | some t => exact Follows.refl _
  | none =>
    refine h.lastTimestamp.bind ?_
    rintro last _ rfl
    exact Follows.refl _

theorem Reordered.targets (h : Reordered input input') : input'.targets = input.targets := by rw [h.rest]; rfl

theorem Reordered.markFor (h : Reordered input input') :
    hasMarkPriceFor input'.markPrices = hasMarkPriceFor input.markPrices := by
  funext market
  exact h.marks.symm.any_eq

theorem Reordered.buildTrace (h : Reordered input input') (snapshots snapshots' : List PnLSnapshotFact)
    {trace : PnLTrace} (ht : buildTrace input snapshots = .ok trace) :
    ∃ trace', Pnl.buildTrace input' snapshots' = .ok trace' := by
  obtain ⟨last, hlast, -⟩ := bind_eq_ok.1 ht
  obtain ⟨last', hlast', -⟩ := h.lastTimestamp last hlast
  exact ⟨_, bind_eq_ok.2 ⟨last', hlast', rfl⟩⟩

variable [Host]

/-- the scopes of reordered facts, from snapshots with the same views -/
theorem Reordered.buildScopes (h : Reordered input input') {snapshots snapshots' : List PnLSnapshotFact}
    (hviews : snapshots.map PnLSnapshotFact.view = snapshots'.map PnLSnapshotFact.view) (fills : List PnLFillFact)
    (ledger : Ledger) (capturedAt : Int) :
    Follows Eq (buildScopes input snapshots fills ledger capturedAt)
      (Pnl.buildScopes input' snapshots' fills ledger capturedAt) := by
  have hcov := isSnapshotCovered_of_views hviews
  have hreview : addReviewScope input' snapshots' fills = addReviewScope input snapshots fills := by
    funext acc r
    simp only [addReviewScope, h.targets, hcov]
  have hfill : addFillScope input' fills ledger capturedAt = addFillScope input fills ledger capturedAt := by
    funext acc e
    simp only [addFillScope, h.targets, h.markFor]
  have hrecoverable : addRecoverableScope input' snapshots' = addRecoverableScope input snapshots := by
    funext acc r
    simp only [addRecoverableScope, h.targets, h.markFor, h.positions, hcov]
  have hposition : addPositionScope input' snapshots' = addPositionScope input snapshots := by
    funext acc p
    simp only [addPositionScope, h.targets, h.markFor, hcov]
  unfold Pnl.buildScopes
  rw [hreview, hfill, hrecoverable, hposition, h.reconcileFacts, h.positions]
  refine Follows.bind (R := Eq) (Follows.foldlM (views_forall₂ hviews) ?_ rfl) ?_
  · rintro acc _ s s' hview rfl acc' hacc
    have hscope : s'.scope = s.scope := (congrArg SnapshotView.scope hview).symm
    have hstrategy : s'.strategyId = s.strategyId := congrArg Prod.fst hscope
    have hmarket : s'.market = s.market := congrArg Prod.snd hscope
    have htime : s'.capturedAt.millis = s.capturedAt.millis := (congrArg SnapshotView.time hview).symm
    have hstatus : resolveSnapshotStatus s' = resolveSnapshotStatus s := (congrArg SnapshotView.status hview).symm
    refine ⟨acc', ?_, rfl⟩
    unfold addSnapshotScope at hacc ⊢
    simp only [h.targets, hstrategy, hmarket, hstatus] at hacc ⊢
    split at hacc
    · rename_i hskip
      rw [if_pos hskip]
      exact hacc
    · rename_i hskip
      rw [if_neg hskip]
      obtain ⟨t, ht, hadd⟩ := bind_eq_ok.1 hacc
      exact bind_eq_ok.2 ⟨t, by rw [toTime_eq_ok] at ht ⊢; rw [htime, ht], hadd⟩
  · rintro acc _ rfl
    exact Follows.refl _

end Scopes

/-! ## The reported figures -/

/-- what the order of the facts must not change -/
structure ReportedFigures where
  realizedPnlKrw : Option ℚ
  unrealizedPnlKrw : Option ℚ
  totalPnlKrw : Option ℚ
  equityKrw : Option ℚ
  feeTotals : List PnLFeeTotal
  status : PnLAccountingStatus
  positions : Multiset PnLPositionDetail
deriving DecidableEq

def PnLAccountingOutput.reported (out : PnLAccountingOutput) : ReportedFigures :=
  ⟨out.realizedPnlKrw, out.unrealizedPnlKrw, out.totalPnlKrw, out.equityKrw, out.feeTotals, out.status, out.positions⟩

theorem determineStatus_congr {input input' : PnLAccountingInput} (h : Reordered input input')
    (scopes : List PnLAccountingScope) {reasons reasons' : List PnLMissingReason} (hr : reasons = [] ↔ reasons' = []) :
    determineStatus scopes reasons input = determineStatus scopes reasons' input' := by
  have hf : input'.fills = [] ↔ input.fills = [] := by
    rw [← List.length_eq_zero_iff, ← List.length_eq_zero_iff, h.fills.length_eq]
  have hs : input'.pnlSnapshots = [] ↔ input.pnlSnapshots = [] := by
    rw [← List.length_eq_zero_iff, ← List.length_eq_zero_iff, h.snapshots.length_eq]
  unfold determineStatus
  simp only [ne_eq, hr, hf, hs, h.positions, h.reconcileFacts]

section Calculation

variable [Host] [Host.Lawful ‹Host›] {input input' : PnLAccountingInput}

theorem assemble_perm (h : Reordered input input') (hkeys : OnePairPerKey input.fills) {r r' : Replay}
    (hr : SameReplay r r') {v : Valuation} {out : PnLAccountingOutput} (ha : assemble input r = .ok (v, out)) :
    ∃ v' out', assemble input' r' = .ok (v', out') ∧ out'.reported = out.reported := by
  have hcash' : input'.cash = input.cash := by rw [h.rest]
  obtain ⟨base, reasons₀, reasons₀', hc, hc', -⟩ := hr.collected
  unfold assemble at ha
  obtain ⟨cashKrw, hcash, ha⟩ := bind_eq_ok.1 ha
  obtain ⟨marks, hmarks, ha⟩ := bind_eq_ok.1 ha
  obtain ⟨marks', hmarks', hlookup⟩ := buildMarkPriceMap_perm h.marks hmarks
  have hv := hr.valuate h.targets cashKrw hlookup
  obtain ⟨fees, hfees, ha⟩ := bind_eq_ok.1 ha
  obtain ⟨fees', hfees', htotals⟩ := fees_perm h.fills hfees
  obtain ⟨reasons, hreasons, ha⟩ := bind_eq_ok.1 ha
  obtain ⟨reasons', hreasons', hriff⟩ := nonKrw_perm h.fills hv.reasons (fees_parse hfees) hreasons
  obtain ⟨spread, hspread, ha⟩ := bind_eq_ok.1 ha
  obtain ⟨spread', hspread'⟩ := qualityMetric_perm h.costs hspread
  obtain ⟨slippage, hslippage, ha⟩ := bind_eq_ok.1 ha
  obtain ⟨slippage', hslippage'⟩ := qualityMetric_perm h.costs hslippage
  obtain ⟨cancel, hcancel, ha⟩ := bind_eq_ok.1 ha
  obtain ⟨cancel', hcancel'⟩ := qualityMetric_perm h.costs hcancel
  obtain ⟨required, hrequired, ha⟩ := bind_eq_ok.1 ha
  obtain ⟨required', hrequired', hsame⟩ := requirements_perm h.fills hkeys _ _ _ hrequired
  obtain ⟨capturedAt, hcaptured, ha⟩ := bind_eq_ok.1 ha
  obtain ⟨_, hcaptured', rfl⟩ := h.capturedAt _ hcaptured
  obtain ⟨scopes, hscopes, ha⟩ := bind_eq_ok.1 ha
  obtain ⟨_, hscopes', rfl⟩ := h.buildScopes hr.views _ _ _ _ hscopes
  obtain ⟨trace, htrace, ha⟩ := bind_eq_ok.1 ha
  obtain ⟨trace', htrace'⟩ := h.buildTrace _ r'.selection.snapshots htrace
  rw [pure_eq_ok, Prod.mk.injEq] at ha
  obtain ⟨rfl, rfl⟩ := ha
  have hrequired'' : resolveCostQualityScopeRequirements input'.fills r'.collected.fallbackPositions
      r'.collected.reconciledPositions = .ok required' := by
    rw [hc'] ; rw [hc] at hrequired'; exact hrequired'
  refine ⟨valuate input' r' cashKrw marks', report input' (valuate input' r' cashKrw marks') fees'
    (appendCostQualityMissingReasons reasons' required' input'.costQuality) spread' slippage' cancel' scopes trace', ?_, ?_⟩
  · unfold assemble
    rw [hcash', ← hr.ledgerFills, ← hr.ledger]
    simp only [hcash, hmarks', hfees', hreasons', hspread', hslippage', hcancel', hrequired'', hcaptured', hscopes',
      htrace', ok_bind]
    rfl
  · have hfinal : appendCostQualityMissingReasons reasons required input.costQuality = [] ↔
        appendCostQualityMissingReasons reasons' required' input'.costQuality = [] := by
      rw [appendCostQuality_nil, appendCostQuality_nil, hriff, hasCostQualityMetric_perm h.costs]
      simp only [hsame]
    simp only [PnLAccountingOutput.reported, report, htotals, determineStatus_congr h scopes hfinal]
    rw [hv.figures]

omit [Host.Lawful ‹Host›] in
/-- in a calculation that returned every source timestamp was valid -/
theorem stamped_of_calculate {r : Replay} {v : Valuation} {out : PnLAccountingOutput}
    (h : calculate input = .ok (r, v, out)) : FillsDated input.fills ∧ Dated input.pnlSnapshots := by
  obtain ⟨last, hlast, -⟩ := bind_eq_ok.1 (calculate_run h).trace
  obtain ⟨times, htimes, -⟩ := bind_eq_ok.1 hlast
  have hvalid : ∀ t ∈ sourceTimestamps input, t.millis.isSome := by
    intro t ht
    exact Option.isSome_iff_exists.2 ⟨_, toTime_eq_ok.1 ((mapM_eq_map 0 htimes).2 t ht)⟩
  have hmem : ∀ t, t ∈ input.fills.map (·.filledAt) ∨ t ∈ input.pnlSnapshots.map (·.capturedAt) → t.millis.isSome := by
    intro t ht
    refine hvalid t ?_
    simp only [sourceTimestamps, List.mem_append]
    rcases ht with hf | hs
    · exact Or.inl (Or.inl (Or.inl (Or.inl (Or.inl hf))))
    · exact Or.inl (Or.inl (Or.inr hs))
  exact ⟨fun f hf => hmem _ (Or.inl (List.mem_map_of_mem hf)), fun s hs => hmem _ (Or.inr (List.mem_map_of_mem hs))⟩

theorem calculate_perm (h : Reordered input input') (hset : OrderSettled input) :
    Follows (fun x x' => x'.2.2.reported = x.2.2.reported) (calculate input) (calculate input') := by
  rintro ⟨r, v, out⟩ hcalc
  obtain ⟨hfills, hsnapshots⟩ := stamped_of_calculate hcalc
  obtain ⟨_, hreplay, hrest⟩ := bind_eq_ok.1 hcalc
  obtain ⟨⟨_, _⟩, hassemble, hpure⟩ := bind_eq_ok.1 hrest
  simp only [pure_eq_ok, Prod.mk.injEq] at hpure
  obtain ⟨rfl, rfl, rfl⟩ := hpure
  obtain ⟨r', hreplay', hsame⟩ := replay_perm h hfills hsnapshots hset hreplay
  obtain ⟨v', out', hassemble', hreported⟩ := assemble_perm h hset.keys hsame hassemble
  exact ⟨(r', v', out'), bind_eq_ok.2 ⟨r', hreplay', bind_eq_ok.2 ⟨(v', out'), hassemble', rfl⟩⟩, hreported⟩

end Calculation

section Calculation

variable {input input' : PnLAccountingInput}

theorem Reordered.symm (h : Reordered input input') : Reordered input' input where
  fills := h.fills.symm
  snapshots := h.snapshots.symm
  marks := h.marks.symm
  costs := h.costs.symm
  rest := by rw [h.rest]

/-- the requested scopes are cut out of both inputs alike -/
theorem Reordered.filtered (h : Reordered input input') :
    Reordered (applyTargetScopeFilter input) (applyTargetScopeFilter input') := by
  have hmarkets : ∀ market : String,
      market ∈ resolveTargetMarkPriceMarkets input.targets
        (input'.fills.filter (fun f => matchesScopedFact input.targets f.strategyId f.market))
        (input.positions.filter (fun p => matchesScopedFact input.targets p.strategyId p.market))
        (input.reconcileFacts.filter (fun r => matchesScopedFact input.targets r.strategyId r.market)) ↔
      market ∈ resolveTargetMarkPriceMarkets input.targets
        (input.fills.filter (fun f => matchesScopedFact input.targets f.strategyId f.market))
        (input.positions.filter (fun p => matchesScopedFact input.targets p.strategyId p.market))
        (input.reconcileFacts.filter (fun r => matchesScopedFact input.targets r.strategyId r.market)) := by
    intro market
    simp only [resolveTargetMarkPriceMarkets, List.mem_append, List.mem_map, (h.fills.filter _).mem_iff]
  unfold applyTargetScopeFilter
  rw [h.targets, h.positions, h.reconcileFacts]
  split_ifs with ht
  · exact h
  · refine ⟨h.fills.filter _, h.snapshots.filter _, ?_, h.costs.filter _, ?_⟩
    · simp only [hmarkets]
      exact h.marks.filter _
    · rw [h.rest]

variable [Host]

theorem OrderSettled.perm (h : Reordered input input') (hset : OrderSettled input) : OrderSettled input' := by
  have hnewest : ∀ s, Newest input'.pnlSnapshots s ↔ Newest input.pnlSnapshots s := by
    intro s
    simp only [Newest, h.snapshots.mem_iff]
  have hties : TieSettled input'.pnlSnapshots = TieSettled input.pnlSnapshots := by
    funext s s'
    simp only [TieSettled, hnewest]
  constructor
  · rw [hties]
    exact (h.snapshots.pairwise_iff TieSettled.symm).1 hset.ties
  · exact fun f hf g hg => hset.keys f (h.fills.mem_iff.2 hf) g (h.fills.mem_iff.2 hg)

/-- **Order independence.** Where nothing is left to the order, every permutation of fills, snapshots, marks and cost
facts reports the same figures, or throws as well. -/
theorem calculation_order_independent [Host.Lawful ‹Host›] (h : Reordered input input')
    (hset : OrderSettled (applyTargetScopeFilter input)) :
    (calculatePnLAccounting input').toOption.map (·.reported) = (calculatePnLAccounting input).toOption.map (·.reported) := by
  have hforth := calculate_perm h.filtered hset
  have hback := calculate_perm h.filtered.symm (hset.perm h.filtered)
  unfold calculatePnLAccounting
  cases hc : calculate (applyTargetScopeFilter input) with
  | ok x =>
    obtain ⟨x', hc', heq⟩ := hforth x hc
    rw [hc']
    simp only [Functor.map, Except.map, Except.toOption, Option.map_some, heq]
  | error e =>
    cases hc' : calculate (applyTargetScopeFilter input') with
    | error e' => rfl
    | ok x' =>
      obtain ⟨x, hx, -⟩ := hback x' hc'
      rw [hc] at hx
      cases hx

end Calculation

/-- a purchase and a sale at one time, in the given order -/
def tradedAtOnce (fills : List PnLFillFact) : PnLAccountingInput := tradingInput fills []

/-- a purchase and a sale at the same time report the same in either order -/
theorem tradedAtOnce_order :
    (calculatePnLAccounting (tradedAtOnce [fillAt .sell "1" "20" 1, fillAt .buy "1" "10" 1])).toOption.map (·.reported)
      = (calculatePnLAccounting (tradedAtOnce [fillAt .buy "1" "10" 1, fillAt .sell "1" "20" 1])).toOption.map
        (·.reported) := by
  refine calculation_order_independent ⟨?_, List.Perm.refl _, List.Perm.refl _, List.Perm.refl _, rfl⟩ ⟨?_, ?_⟩
  · exact List.Perm.swap _ _ _
  · exact List.Pairwise.nil
  · unfold OnePairPerKey; decide +kernel

/-- an aggregate snapshot, with a status in its payload or without a payload -/
def tiedSnapshot (status : Option String) : PnLSnapshotFact :=
  { strategyId := "s", market := none, capturedAt := .at 5, equity := "0", realizedPnl := "0", unrealizedPnl := "0",
    drawdownBps := "0", payloadJson := status.map (fun text => ⟨.text text, none⟩) }

def tiedInput (snapshots : List PnLSnapshotFact) : PnLAccountingInput :=
  { tradingInput [] [] with pnlSnapshots := snapshots }

/-- two snapshots of one scope, one time and one set of amounts, one of which asks for manual review: whether the
calculation asks for it too depends on which comes first -/
theorem tied_snapshots_change_status :
    Reordered (tiedInput [tiedSnapshot none, tiedSnapshot (some "MANUAL_REVIEW_REQUIRED")])
      (tiedInput [tiedSnapshot (some "MANUAL_REVIEW_REQUIRED"), tiedSnapshot none]) ∧
    (calculatePnLAccounting (tiedInput [tiedSnapshot none, tiedSnapshot (some "MANUAL_REVIEW_REQUIRED")])).toOption.map
      (·.status) = some .calculated ∧
    (calculatePnLAccounting (tiedInput [tiedSnapshot (some "MANUAL_REVIEW_REQUIRED"), tiedSnapshot none])).toOption.map
      (·.status) = some .manualReviewRequired := by
  refine ⟨⟨List.Perm.refl _, List.Perm.swap _ _ _, List.Perm.refl _, List.Perm.refl _, rfl⟩, ?_, ?_⟩
  · decide +kernel
  · decide +kernel

end SeeMirai.Pnl
