/-
Which PnL snapshots count (calculator.ts, selectEffectiveSnapshots; source-priority.ts, createSnapshotCoverage).

Per strategy and market the latest snapshot is kept. Of the kept ones a strategy contributes either its aggregate
snapshot (market `null`) alone, or only those market snapshots that are newer than the aggregate. The selected
snapshots cover scopes: an aggregate covers every market of its strategy.

Results:
- `selectEffectiveSnapshots_layer`: for each strategy the selection is one of the two layers, with at most one snapshot
  per market and each the latest of its scope.
-/
import SeeMirai.Pnl.Facts
import SeeMirai.Lib.LatestWins

namespace SeeMirai.Pnl

open Fallible

/-! ## Coverage -/

/-- an aggregate snapshot of the strategy, or a snapshot whose key is the scope's key -/
def isSnapshotCovered (snapshots : List PnLSnapshotFact) (strategyId market : String) : Bool :=
  snapshots.any (fun s => s.market.isNone ∧ s.strategyId = strategyId) ||
    snapshots.any (fun s => s.market.isSome ∧ scopeKey s.strategyId s.market = scopeKey strategyId (some market))

/-! ## Payloads -/

def isSnapshotPayloadMissingReason : PayloadReason → Option PnLMissingReason
  | .object (.text message) (.text reasonCode) (.text scope) (.text source) =>
    some ⟨message, reasonCode, scope, source⟩
  | _ => none

def snapshotPayloadReasons (snapshot : PnLSnapshotFact) : List PnLMissingReason :=
  match snapshot.payloadJson.bind (·.missingReasons) with
  | none => []
  | some raw => raw.filterMap isSnapshotPayloadMissingReason

def extractSnapshotPayloadMissingReasons (snapshots : List PnLSnapshotFact) : List PnLMissingReason :=
  snapshots.flatMap snapshotPayloadReasons

def resolveSnapshotStatus (snapshot : PnLSnapshotFact) : PnLAccountingStatus :=
  match snapshot.payloadJson.map (·.status) with
  | some (PayloadValue.text "PARTIAL") => .partialResult
  | some (PayloadValue.text "UNAVAILABLE") => .unavailable
  | some (PayloadValue.text "MANUAL_REVIEW_REQUIRED") => .manualReviewRequired
  | _ => .calculated

/-! ## Selection -/

section Selection

variable [Host]

def createSnapshotTieBreakKey (snapshot : PnLSnapshotFact) : Except Thrown String := do
  let time ← toTime snapshot.capturedAt
  let equity ← parseFinancialDecimal snapshot.equity
  let realizedPnl ← parseFinancialDecimal snapshot.realizedPnl
  let unrealizedPnl ← parseFinancialDecimal snapshot.unrealizedPnl
  let drawdownBps ← parseFinancialDecimal snapshot.drawdownBps
  pure (JsonText.stringify [some snapshot.strategyId, snapshot.market, some (Int.repr time),
    some (Host.toFixed equity), some (Host.toFixed realizedPnl), some (Host.toFixed unrealizedPnl),
    some (Host.toFixed drawdownBps)])

def compareSnapshotCandidate (left right : PnLSnapshotFact) : Except Thrown Ordering := do
  let leftTime ← toTime left.capturedAt
  let rightTime ← toTime right.capturedAt
  if leftTime ≠ rightTime then pure (compare leftTime rightTime)
  else do
    let leftKey ← createSnapshotTieBreakKey left
    let rightKey ← createSnapshotTieBreakKey right
    pure (Host.localeCompare leftKey rightKey)

def compareSnapshotScope (left right : PnLSnapshotFact) : Ordering :=
  (Host.localeCompare left.strategyId right.strategyId).then
    (Host.localeCompare (left.market.getD "") (right.market.getD ""))

/-- strategy to market (`none` for the aggregate) to the latest snapshot seen -/
abbrev LatestByStrategy := InsertionMap String (InsertionMap (Option String) PnLSnapshotFact)

def recordSnapshot (latestByStrategy : LatestByStrategy) (snapshot : PnLSnapshotFact) :
    Except Thrown LatestByStrategy := do
  let latestByMarket := (latestByStrategy.get snapshot.strategyId).getD InsertionMap.empty
  let latestByMarket ← keepLatest compareSnapshotCandidate latestByMarket snapshot.market snapshot
  pure (latestByStrategy.set snapshot.strategyId latestByMarket)

end Selection

/-- group the kept snapshots by strategy, in order of first appearance -/
def groupByStrategy (snapshots : List PnLSnapshotFact) : InsertionMap String (List PnLSnapshotFact) :=
  snapshots.foldl (fun byStrategy s => byStrategy.set s.strategyId ((byStrategy.get s.strategyId).getD [] ++ [s]))
    InsertionMap.empty

/-- the layer one strategy contributes -/
def selectLayer (strategySnapshots : List PnLSnapshotFact) :
    Except Thrown (List PnLSnapshotFact × List PnLMissingReason) :=
  let markets := strategySnapshots.filter (·.market.isSome)
  match strategySnapshots.find? (·.market.isNone) with
  | none => pure (markets, [])
  | some aggregate =>
    if markets = [] then pure ([aggregate], [])
    else do
      let aggregateTime ← toTime aggregate.capturedAt
      let marketTimes ← markets.mapM (fun s => toTime s.capturedAt)
      let latestMarketTime := (marketTimes.max?).getD aggregateTime
      if latestMarketTime ≤ aggregateTime then pure ([aggregate], [])
      else
        pure (markets.filter (fun s => s.capturedAt.millis.any (aggregateTime < ·)),
          [⟨"최신 market snapshot coverage가 일부만 확인됨", "SNAPSHOT_COVERAGE_PARTIAL",
            scopeKey aggregate.strategyId none, "pnl_snapshots"⟩])

structure SnapshotSelection where
  snapshots : List PnLSnapshotFact
  missingReasons : List PnLMissingReason
deriving DecidableEq, Repr

def excludeMarketSnapshotsCoveredByAggregate (snapshots : List PnLSnapshotFact) :
    Except Thrown SnapshotSelection := do
  let layers ← (groupByStrategy snapshots).values.mapM selectLayer
  pure ⟨layers.flatMap (·.1), layers.flatMap (·.2)⟩

section Selection

variable [Host]

def selectEffectiveSnapshots (snapshots : List PnLSnapshotFact) : Except Thrown SnapshotSelection := do
  let latestByStrategy ← snapshots.foldlM recordSnapshot InsertionMap.empty
  let selected ← excludeMarketSnapshotsCoveredByAggregate (latestByStrategy.values.flatMap (·.values))
  pure { selected with snapshots := stableSort compareSnapshotScope selected.snapshots }

structure SnapshotTotals where
  equityKrw : Option ℚ
  realizedPnlKrw : Option ℚ
  unrealizedPnlKrw : Option ℚ
deriving DecidableEq

def addSnapshot (acc : ℚ × ℚ × ℚ) (snapshot : PnLSnapshotFact) : Except Thrown (ℚ × ℚ × ℚ) := do
  let equity ← parseFinancialDecimal snapshot.equity
  let realizedPnl ← parseFinancialDecimal snapshot.realizedPnl
  let unrealizedPnl ← parseFinancialDecimal snapshot.unrealizedPnl
  pure (acc.1 + equity, acc.2.1 + realizedPnl, acc.2.2 + unrealizedPnl)

def summarizeSnapshots (snapshots : List PnLSnapshotFact) : Except Thrown SnapshotTotals :=
  if snapshots = [] then pure ⟨none, none, none⟩
  else do
    let acc ← snapshots.foldlM addSnapshot (0, 0, 0)
    pure ⟨some acc.1, some acc.2.1, some acc.2.2⟩

end Selection

/-! ## The kept snapshots -/

/-- no later than: whatever time the first has, the second has one at least as late -/
def NoLater (s s' : PnLSnapshotFact) : Prop :=
  ∀ t, s.capturedAt.millis = some t → ∃ t', s'.capturedAt.millis = some t' ∧ t ≤ t'

theorem NoLater.refl (s : PnLSnapshotFact) : NoLater s s := fun t h => ⟨t, h, le_refl t⟩

theorem NoLater.trans {a b c : PnLSnapshotFact} (hab : NoLater a b) (hbc : NoLater b c) : NoLater a c := by
  intro t ht
  obtain ⟨t', ht', hle⟩ := hab t ht
  obtain ⟨t'', ht'', hle'⟩ := hbc t' ht'
  exact ⟨t'', ht'', hle.trans hle'⟩

/-- a snapshot of the list that no other of its strategy and market is later than -/
def IsLatest (snapshots : List PnLSnapshotFact) (s : PnLSnapshotFact) : Prop :=
  s ∈ snapshots ∧ ∀ s' ∈ snapshots, s'.strategyId = s.strategyId → s'.market = s.market → NoLater s' s

def LatestByStrategy.lookup (latest : LatestByStrategy) (strategyId : String) (market : Option String) :
    Option PnLSnapshotFact :=
  (latest.get strategyId).bind (·.get market)

section Kept

variable [Host]

theorem compareSnapshotCandidate_times {l r : PnLSnapshotFact} {o : Ordering}
    (h : compareSnapshotCandidate l r = .ok o) :
    ∃ tl tr, l.capturedAt.millis = some tl ∧ r.capturedAt.millis = some tr ∧
      (o = .gt → tr ≤ tl) ∧ (o ≠ .gt → tl ≤ tr) := by
  unfold compareSnapshotCandidate at h
  obtain ⟨tl, htl, h⟩ := bind_eq_ok.1 h
  obtain ⟨tr, htr, h⟩ := bind_eq_ok.1 h
  rw [toTime_eq_ok] at htl htr
  refine ⟨tl, tr, htl, htr, ?_⟩
  split at h
  · rw [pure_eq_ok] at h
    subst h
    exact ⟨fun hgt => (compare_gt_iff_gt.1 hgt).le, fun hne => compare_le_iff_le.1 hne⟩
  · rename_i heq
    have heq' : tl = tr := not_not.1 heq
    exact ⟨fun _ => heq'.ge, fun _ => heq'.le⟩

theorem recordSnapshot_lookup {latest latest' : LatestByStrategy} {s : PnLSnapshotFact}
    (h : recordSnapshot latest s = .ok latest') :
    ∃ w, pick compareSnapshotCandidate (latest.lookup s.strategyId s.market) s = .ok w ∧
      ∀ st mk, latest'.lookup st mk
        = if s.strategyId = st ∧ s.market = mk then some w else latest.lookup st mk := by
  obtain ⟨byMarket, hkeep, h⟩ := bind_eq_ok.1 h
  rw [pure_eq_ok] at h
  subst h
  obtain ⟨w, hw, hget⟩ := keepLatest_get hkeep
  have hold : ∀ mk, ((latest.get s.strategyId).getD InsertionMap.empty).get mk = latest.lookup s.strategyId mk := by
    intro mk
    unfold LatestByStrategy.lookup
    cases latest.get s.strategyId <;> rfl
  refine ⟨w, by rw [← hold]; exact hw, fun st mk => ?_⟩
  unfold LatestByStrategy.lookup
  rw [InsertionMap.get_set]
  by_cases hst : s.strategyId = st
  · rw [if_pos hst, Option.bind_some, hget, hold, hst]
    simp [LatestByStrategy.lookup]
  · simp [hst]

/-- what the pass over the snapshots keeps: under each scope the latest of that scope -/
structure Kept (snapshots : List PnLSnapshotFact) (latest : LatestByStrategy) : Prop where
  scope : ∀ st mk s, latest.lookup st mk = some s → s.strategyId = st ∧ s.market = mk
  newest : ∀ st mk s, latest.lookup st mk = some s → IsLatest snapshots s
  covers : ∀ s ∈ snapshots, (latest.lookup s.strategyId s.market).isSome

theorem kept_of_run {snapshots : List PnLSnapshotFact} {latest : LatestByStrategy}
    (h : snapshots.foldlM recordSnapshot InsertionMap.empty = .ok latest) : Kept snapshots latest := by
  refine foldlM_history Kept ⟨?_, ?_, by simp⟩ ?_ h
  · intro st mk s hs; simp [LatestByStrategy.lookup] at hs
  · intro st mk s hs; simp [LatestByStrategy.lookup] at hs
  · intro visited x c c' hk hstep
    obtain ⟨w, hw, hlook⟩ := recordSnapshot_lookup hstep
    have hscope : w.strategyId = x.strategyId ∧ w.market = x.market := by
      rcases pick_mem hw with rfl | hold
      · exact ⟨rfl, rfl⟩
      · exact hk.scope _ _ w hold
    have hle := pick_le NoLater NoLater.refl
      (fun a b hgt => by
        obtain ⟨tl, tr, hl, hr, hle, -⟩ := compareSnapshotCandidate_times hgt
        exact fun t ht => ⟨tl, hl, by rw [hr] at ht; cases ht; exact hle rfl⟩)
      (fun a b o ho hne => by
        obtain ⟨tl, tr, hl, hr, -, hle⟩ := compareSnapshotCandidate_times ho
        exact fun t ht => ⟨tr, hr, by rw [hl] at ht; cases ht; exact hle hne⟩) hw
    constructor
    · intro st mk s hs
      rw [hlook] at hs
      split_ifs at hs with hc
      · cases hs
        exact ⟨hscope.1.trans hc.1, hscope.2.trans hc.2⟩
      · exact hk.scope st mk s hs
    · intro st mk s hs
      rw [hlook] at hs
      split_ifs at hs with hc
      · cases hs
        refine ⟨?_, fun s' hs' hst hmk => ?_⟩
        · rcases pick_mem hw with rfl | hold
          · simp
          · exact List.mem_append_left _ (hk.newest _ _ w hold).1
        · rcases List.mem_append.1 hs' with hv | hx
          · have hsame := hk.covers s' hv
            rw [hst, hmk, hscope.1, hscope.2] at hsame
            obtain ⟨e, he⟩ := Option.isSome_iff_exists.1 hsame
            have hesc := hk.scope _ _ e he
            have hs'e : NoLater s' e := (hk.newest _ _ e he).2 s' hv
              (by rw [hst, hscope.1, hesc.1]) (by rw [hmk, hscope.2, hesc.2])
            exact hs'e.trans (hle.2 e he)
          · rw [List.mem_singleton.1 hx]
            exact hle.1
      · obtain ⟨hmem, hmax⟩ := hk.newest st mk s hs
        refine ⟨List.mem_append_left _ hmem, fun s' hs' hst hmk => ?_⟩
        rcases List.mem_append.1 hs' with hv | hx
        · exact hmax s' hv hst hmk
        · -- the new snapshot is of another scope, or this lookup would have been rewritten
          rw [List.mem_singleton.1 hx] at hst hmk
          have hsc := hk.scope st mk s hs
          exact absurd ⟨hst.trans hsc.1, hmk.trans hsc.2⟩ hc
    · intro s hs
      rw [hlook]
      split_ifs with hc
      · rfl
      · rcases List.mem_append.1 hs with hv | hx
        · exact hk.covers s hv
        · rw [List.mem_singleton.1 hx] at hc
          exact absurd ⟨rfl, rfl⟩ hc

end Kept

/-! ## Grouping -/

def LatestByStrategy.kept (latest : LatestByStrategy) : List PnLSnapshotFact := latest.values.flatMap (·.values)

def PnLSnapshotFact.scope (s : PnLSnapshotFact) : String × Option String := (s.strategyId, s.market)

/-- the keys under which a snapshot is kept are its own -/
def ScopedBy (latest : LatestByStrategy) : Prop :=
  ∀ st mk s, latest.lookup st mk = some s → s.strategyId = st ∧ s.market = mk

theorem mem_kept {latest : LatestByStrategy} (h : ScopedBy latest) {s : PnLSnapshotFact} :
    s ∈ latest.kept ↔ latest.lookup s.strategyId s.market = some s := by
  have hiff : s ∈ latest.kept ↔ ∃ st mk, latest.lookup st mk = some s := by
    unfold LatestByStrategy.kept InsertionMap.values LatestByStrategy.lookup
    simp only [List.mem_flatMap, List.mem_map, Prod.exists, exists_eq_right, Option.bind_eq_some_iff]
    constructor
    · rintro ⟨byMarket, ⟨st, hst⟩, mk, hmk⟩
      exact ⟨st, mk, byMarket, latest.mem_iff_get.1 hst, byMarket.mem_iff_get.1 hmk⟩
    · rintro ⟨st, mk, byMarket, hst, hmk⟩
      exact ⟨byMarket, ⟨st, latest.mem_iff_get.2 hst⟩, mk, byMarket.mem_iff_get.2 hmk⟩
  rw [hiff]
  constructor
  · rintro ⟨st, mk, hl⟩
    obtain ⟨rfl, rfl⟩ := h st mk s hl
    exact hl
  · exact fun hl => ⟨_, _, hl⟩

theorem kept_scopes_nodup {latest : LatestByStrategy} (h : ScopedBy latest) :
    (latest.kept.map PnLSnapshotFact.scope).Nodup := by
  have hlook : ∀ e ∈ latest.entries, ∀ p ∈ e.2.entries, p.2.scope = (e.1, p.1) := by
    rintro ⟨st, byMarket⟩ he ⟨mk, s⟩ hp
    have hl : latest.lookup st mk = some s := by
      unfold LatestByStrategy.lookup
      rw [latest.mem_iff_get.1 he, Option.bind_some, byMarket.mem_iff_get.1 hp]
    obtain ⟨hst, hmk⟩ := h st mk s hl
    simp [PnLSnapshotFact.scope, hst, hmk]
  have hmap : latest.kept.map PnLSnapshotFact.scope
      = latest.entries.flatMap (fun e => e.2.keys.map (fun mk => (e.1, mk))) := by
    unfold LatestByStrategy.kept InsertionMap.values
    rw [List.map_flatMap, List.flatMap_map]
    refine List.flatMap_congr fun e he => ?_
    unfold InsertionMap.keys
    rw [List.map_map, List.map_map]
    exact List.map_congr_left fun p hp => hlook e he p hp
  rw [hmap, List.nodup_flatMap]
  refine ⟨fun e _ => e.2.nodup.map (fun a b hab => (Prod.mk.inj hab).2), ?_⟩
  have hkeys : latest.entries.Pairwise (fun a b => a.1 ≠ b.1) := List.pairwise_map.1 latest.nodup
  refine hkeys.imp fun hne => ?_
  simp only [Function.onFun, List.disjoint_left, List.mem_map]
  rintro x ⟨a, -, rfl⟩ ⟨b, -, hb⟩
  exact hne (Prod.mk.inj hb).1.symm

theorem groupByStrategy_get (snapshots : List PnLSnapshotFact) (st : String) :
    (groupByStrategy snapshots).get st = if snapshots.filter (·.strategyId = st) = [] then none
      else some (snapshots.filter (·.strategyId = st)) := by
  induction snapshots using List.reverseRecOn with
  | nil => rfl
  | append_singleton xs x ih =>
    have hstep : groupByStrategy (xs ++ [x]) = (groupByStrategy xs).set x.strategyId
        (((groupByStrategy xs).get x.strategyId).getD [] ++ [x]) := by
      simp [groupByStrategy, List.foldl_append]
    rw [hstep, InsertionMap.get_set, List.filter_append]
    by_cases hst : x.strategyId = st
    · subst hst
      rw [if_pos rfl, ih]
      split_ifs <;> simp_all
    · simp [hst, ih]

/-! ## The selected layer -/

theorem max_getD_le_iff (times : List Int) (a : Int) : (times.max?).getD a ≤ a ↔ ∀ t ∈ times, t ≤ a := by
  cases hmax : times.max? with
  | none => simp [List.max?_eq_none_iff.1 hmax]
  | some m => exact List.max?_le_iff hmax

theorem mem_markets {group : List PnLSnapshotFact} {m : PnLSnapshotFact} :
    m ∈ group.filter (·.market.isSome) ↔ m ∈ group ∧ m.market ≠ none := by
  rw [List.mem_filter, Option.isSome_iff_ne_none]

/-- against an aggregate of a known time, being no later is a comparison of times -/
theorem noLater_iff {m a : PnLSnapshotFact} {t ta : Int} (hm : m.capturedAt.millis = some t)
    (ha : a.capturedAt.millis = some ta) : NoLater m a ↔ t ≤ ta := by
  constructor
  · intro h
    obtain ⟨t', ht', hle⟩ := h t hm
    rw [ha] at ht'
    cases ht'
    exact hle
  · intro hle t' ht'
    rw [hm] at ht'
    cases ht'
    exact ⟨ta, ha, hle⟩

/-- the three layers a strategy can contribute -/
inductive Layer (group : List PnLSnapshotFact) : List PnLSnapshotFact × List PnLMissingReason → Prop where
  | markets (hno : ∀ a ∈ group, a.market ≠ none) : Layer group (group.filter (·.market.isSome), [])
  | aggregate (a : PnLSnapshotFact) (ha : a ∈ group) (hm : a.market = none)
      (hnewest : ∀ m ∈ group, m.market ≠ none → NoLater m a) : Layer group ([a], [])
  | newer (a : PnLSnapshotFact) (ta : Int) (reason : PnLMissingReason) (ha : a ∈ group) (hm : a.market = none)
      (hta : a.capturedAt.millis = some ta) (hvalid : ∀ m ∈ group, m.market ≠ none → ∃ t, m.capturedAt.millis = some t)
      (hnewer : ∃ m ∈ group, m.market ≠ none ∧ ¬ NoLater m a) :
      Layer group
        ((group.filter (·.market.isSome)).filter (fun s => s.capturedAt.millis.any (ta < ·)), [reason])

theorem selectLayer_layer {group : List PnLSnapshotFact} {layer : List PnLSnapshotFact × List PnLMissingReason}
    (h : selectLayer group = .ok layer) : Layer group layer := by
  unfold selectLayer at h
  simp only at h
  split at h
  · rename_i hnone
    rw [pure_eq_ok] at h
    subst h
    refine Layer.markets fun a ha => ?_
    simpa [Option.isNone_iff_eq_none] using List.find?_eq_none.1 hnone a ha
  · rename_i a hfind
    have ha : a ∈ group := List.mem_of_find?_eq_some hfind
    have hm : a.market = none := by simpa [Option.isNone_iff_eq_none] using List.find?_some hfind
    split at h
    · rename_i hnil
      rw [pure_eq_ok] at h
      subst h
      refine Layer.aggregate a ha hm fun m hmem hne => ?_
      have := mem_markets.2 ⟨hmem, hne⟩
      rw [hnil] at this
      cases this
    · obtain ⟨ta, hta, h⟩ := bind_eq_ok.1 h
      obtain ⟨times, htimes, h⟩ := bind_eq_ok.1 h
      rw [toTime_eq_ok] at hta
      obtain ⟨heq, hvalid⟩ := mapM_eq_map 0 htimes
      have htime : ∀ m ∈ group, m.market ≠ none → ∃ t, m.capturedAt.millis = some t ∧ t ∈ times := by
        intro m hmem hne
        have hmarket := mem_markets.2 ⟨hmem, hne⟩
        exact ⟨_, toTime_eq_ok.1 (hvalid m hmarket), by rw [heq]; exact List.mem_map_of_mem hmarket⟩
      split at h
      · rename_i hle
        rw [pure_eq_ok] at h
        subst h
        refine Layer.aggregate a ha hm fun m hmem hne => ?_
        obtain ⟨t, ht, hin⟩ := htime m hmem hne
        exact (noLater_iff ht hta).2 ((max_getD_le_iff times ta).1 hle t hin)
      · rename_i hnot
        rw [pure_eq_ok] at h
        subst h
        refine Layer.newer a ta _ ha hm hta (fun m hmem hne => (htime m hmem hne).imp fun _ => And.left) ?_
        rw [max_getD_le_iff] at hnot
        simp only [not_forall] at hnot
        obtain ⟨t, ht, hlt⟩ := hnot
        rw [heq] at ht
        obtain ⟨m, hmarket, rfl⟩ := List.mem_map.1 ht
        obtain ⟨hmem, hne⟩ := mem_markets.1 hmarket
        exact ⟨m, hmem, hne, fun hc => hlt ((noLater_iff (toTime_eq_ok.1 (hvalid m hmarket)) hta).1 hc)⟩

/-- what one strategy's kept snapshots contribute, element by element -/
structure LayerSpec (group : List PnLSnapshotFact) (layer : List PnLSnapshotFact × List PnLMissingReason) : Prop where
  sublist : layer.1.Sublist group
  aggregate : ∀ s ∈ group, s.market = none → (s ∈ layer.1 ↔ ∀ m ∈ group, m.market ≠ none → NoLater m s)
  market : ∀ s ∈ group, s.market ≠ none → (s ∈ layer.1 ↔ ∀ a ∈ group, a.market = none → ¬ NoLater s a)
  reasons : layer.2 = [] ↔ ∀ a ∈ group, a.market = none → ∀ m ∈ group, m.market ≠ none → NoLater m a

theorem Layer.spec {group : List PnLSnapshotFact} {layer : List PnLSnapshotFact × List PnLMissingReason}
    (hone : ∀ a ∈ group, ∀ b ∈ group, a.market = none → b.market = none → a = b) (h : Layer group layer) :
    LayerSpec group layer := by
  cases h with
  | markets hno =>
    refine ⟨List.filter_sublist, fun s hs hm => absurd hm (hno s hs), fun s hs hm => ?_, ?_⟩
    · rw [mem_markets]
      exact ⟨fun _ a ha hma => absurd hma (hno a ha), fun _ => ⟨hs, hm⟩⟩
    · simp only [true_iff]
      exact fun a ha hma => absurd hma (hno a ha)
  | aggregate a ha hm hnewest =>
    refine ⟨List.singleton_sublist.2 ha, fun s hs hs0 => ?_, fun s hs hne => ?_, ?_⟩
    · rw [hone s hs a ha hs0 hm, List.mem_singleton]
      exact ⟨fun _ => hnewest, fun _ => rfl⟩
    · rw [List.mem_singleton]
      constructor
      · rintro rfl
        exact absurd hm hne
      · exact fun hnew => absurd (hnewest s hs hne) (hnew a ha hm)
    · simp only [true_iff]
      intro b hb hb0
      rw [hone b hb a ha hb0 hm]
      exact hnewest
  | newer a ta reason ha hm hta hvalid hnewer =>
    obtain ⟨m, hmem, hne, hlate⟩ := hnewer
    refine ⟨List.filter_sublist.trans List.filter_sublist, fun s hs hs0 => ?_, fun s hs hs1 => ?_, ?_⟩
    · rw [hone s hs a ha hs0 hm, List.mem_filter, mem_markets]
      exact ⟨fun hc => absurd hm hc.1.2, fun hc => absurd (hc m hmem hne) hlate⟩
    · obtain ⟨t, ht⟩ := hvalid s hs hs1
      rw [List.mem_filter, mem_markets, ht]
      simp only [Option.any_some, decide_eq_true_eq]
      constructor
      · intro hlt b hb hb0
        rw [hone b hb a ha hb0 hm, noLater_iff ht hta]
        exact not_le.2 hlt.2
      · intro hnew
        have := hnew a ha hm
        rw [noLater_iff ht hta] at this
        exact ⟨⟨hs, hs1⟩, not_le.1 this⟩
    · simp only [List.cons_ne_nil, false_iff]
      exact fun hc => hlate (hc a ha hm m hmem hne)

/-! ## The selection -/

/-- an aggregate stands unless a market of its strategy is later; a market stands unless an aggregate is no earlier -/
def Stands (latest : LatestByStrategy) (s : PnLSnapshotFact) : Prop :=
  (s.market = none → ∀ mk m, mk ≠ none → latest.lookup s.strategyId mk = some m → NoLater m s) ∧
  (s.market ≠ none → ∀ a, latest.lookup s.strategyId none = some a → ¬ NoLater s a)

structure SelectionSpec (latest : LatestByStrategy) (selection : SnapshotSelection) : Prop where
  nodup : (selection.snapshots.map PnLSnapshotFact.scope).Nodup
  mem : ∀ s, s ∈ selection.snapshots ↔ latest.lookup s.strategyId s.market = some s ∧ Stands latest s
  reasons : selection.missingReasons = [] ↔ ∀ st a, latest.lookup st none = some a →
    ∀ mk m, mk ≠ none → latest.lookup st mk = some m → NoLater m a

theorem mem_group {latest : LatestByStrategy} (h : ScopedBy latest) {st : String} {s : PnLSnapshotFact} :
    s ∈ latest.kept.filter (·.strategyId = st) ↔ latest.lookup st s.market = some s ∧ s.strategyId = st := by
  rw [List.mem_filter, mem_kept h, decide_eq_true_eq]
  constructor
  · rintro ⟨hl, rfl⟩
    exact ⟨hl, rfl⟩
  · rintro ⟨hl, rfl⟩
    exact ⟨hl, rfl⟩

theorem group_one_aggregate {latest : LatestByStrategy} (h : ScopedBy latest) (st : String) :
    ∀ a ∈ latest.kept.filter (·.strategyId = st), ∀ b ∈ latest.kept.filter (·.strategyId = st),
      a.market = none → b.market = none → a = b := by
  intro a ha b hb ha0 hb0
  rw [mem_group h] at ha hb
  rw [ha0] at ha
  rw [hb0, ha.1] at hb
  exact Option.some.inj hb.1

theorem groupByStrategy_entries (snapshots : List PnLSnapshotFact) : ∀ e ∈ (groupByStrategy snapshots).entries,
    e.2 = snapshots.filter (·.strategyId = e.1) ∧ e.2 ≠ [] := by
  rintro ⟨st, group⟩ he
  have hget := (groupByStrategy snapshots).mem_iff_get.1 he
  rw [groupByStrategy_get] at hget
  split_ifs at hget with hnil
  simp only [Option.some.injEq] at hget
  exact ⟨hget.symm, hget ▸ hnil⟩

theorem excludeMarketSnapshots_spec {latest : LatestByStrategy} (h : ScopedBy latest) {selection : SnapshotSelection}
    (hsel : excludeMarketSnapshotsCoveredByAggregate latest.kept = .ok selection) : SelectionSpec latest selection := by
  obtain ⟨layers, hlayers, hsel⟩ := bind_eq_ok.1 hsel
  rw [pure_eq_ok] at hsel
  subst hsel
  obtain ⟨heq, hok⟩ := mapM_eq_map ([], []) hlayers
  let layer := fun st => (selectLayer (latest.kept.filter (·.strategyId = st))).toOption.getD ([], [])
  have hgroups := groupByStrategy_entries latest.kept
  have hspec : ∀ e ∈ (groupByStrategy latest.kept).entries,
      LayerSpec (latest.kept.filter (·.strategyId = e.1)) (layer e.1) := by
    intro e he
    have hval := hok e.2 (List.mem_map_of_mem he)
    rw [(hgroups e he).1] at hval
    exact (selectLayer_layer hval).spec (group_one_aggregate h e.1)
  have hflat : ∀ {γ : Type} (f : List PnLSnapshotFact × List PnLMissingReason → List γ), layers.flatMap f
      = (groupByStrategy latest.kept).entries.flatMap (fun e => f (layer e.1)) := by
    intro γ f
    rw [heq, InsertionMap.values, List.flatMap_map, List.flatMap_map]
    exact List.flatMap_congr fun e he => by rw [(hgroups e he).1]
  have hentry : ∀ s, latest.lookup s.strategyId s.market = some s →
      ∃ e ∈ (groupByStrategy latest.kept).entries, e.1 = s.strategyId := by
    intro s hs
    refine ⟨(s.strategyId, latest.kept.filter (·.strategyId = s.strategyId)), ?_, rfl⟩
    rw [InsertionMap.mem_iff_get, groupByStrategy_get, if_neg]
    exact List.ne_nil_of_mem ((mem_group h).2 ⟨hs, rfl⟩)
  have hstrategy : ∀ e ∈ (groupByStrategy latest.kept).entries, ∀ s ∈ (layer e.1).1,
      s.strategyId = e.1 ∧ latest.lookup s.strategyId s.market = some s := by
    intro e he s hs
    have hmem := (mem_group h).1 ((hspec e he).sublist.subset hs)
    exact ⟨hmem.2, by rw [hmem.2]; exact hmem.1⟩
  -- within a strategy, standing is being in its layer
  have hstands : ∀ e ∈ (groupByStrategy latest.kept).entries, ∀ s, s.strategyId = e.1 →
      latest.lookup s.strategyId s.market = some s → (s ∈ (layer e.1).1 ↔ Stands latest s) := by
    intro e he s hst hl
    have hs : s ∈ latest.kept.filter (·.strategyId = e.1) := (mem_group h).2 ⟨hst ▸ hl, hst⟩
    by_cases hm : s.market = none
    · rw [(hspec e he).aggregate s hs hm]
      refine ⟨fun hall => ⟨fun _ mk m hmk hlook => ?_, fun hc => absurd hm hc⟩, fun hst' m hmem hne => ?_⟩
      · have hsc := h _ _ m hlook
        exact hall m ((mem_group h).2 ⟨by rw [hsc.2, ← hst]; exact hlook, hsc.1.trans hst⟩) (hsc.2 ▸ hmk)
      · rw [mem_group h] at hmem
        exact hst'.1 hm m.market m hne (by rw [hst]; exact hmem.1)
    · rw [(hspec e he).market s hs hm]
      refine ⟨fun hall => ⟨fun hc => absurd hc hm, fun _ a hlook => ?_⟩, fun hst' a hmem ha0 => ?_⟩
      · have hsc := h _ _ a hlook
        exact hall a ((mem_group h).2 ⟨by rw [hsc.2, ← hst]; exact hlook, hsc.1.trans hst⟩) hsc.2
      · rw [mem_group h, ha0] at hmem
        exact hst'.2 hm a (by rw [hst]; exact hmem.1)
  refine ⟨?_, fun s => ?_, ?_⟩
  · rw [hflat, List.map_flatMap, List.nodup_flatMap]
    have hkeys : (groupByStrategy latest.kept).entries.Pairwise (fun a b => a.1 ≠ b.1) :=
      List.pairwise_map.1 (groupByStrategy latest.kept).nodup
    refine ⟨fun e he => ?_, hkeys.imp_of_mem fun {a b} ha hb hne => ?_⟩
    · exact (kept_scopes_nodup h).sublist (((hspec e he).sublist.trans List.filter_sublist).map _)
    · simp only [Function.onFun, List.disjoint_left, List.mem_map]
      rintro x ⟨s, hs, rfl⟩ ⟨s', hs', hscope⟩
      have h1 := (hstrategy a ha s hs).1
      have h2 := (hstrategy b hb s' hs').1
      exact hne (h1.symm.trans ((Prod.mk.inj hscope).1.symm.trans h2))
  · rw [hflat, List.mem_flatMap]
    constructor
    · rintro ⟨e, he, hs⟩
      obtain ⟨hst, hl⟩ := hstrategy e he s hs
      exact ⟨hl, (hstands e he s hst hl).1 hs⟩
    · rintro ⟨hl, hst⟩
      obtain ⟨e, he, hes⟩ := hentry s hl
      exact ⟨e, he, (hstands e he s hes.symm hl).2 hst⟩
  · rw [show (SnapshotSelection.mk (layers.flatMap (·.1)) (layers.flatMap (·.2))).missingReasons
      = layers.flatMap (·.2) from rfl, hflat (·.2), List.flatMap_eq_nil_iff]
    constructor
    · intro hall st a hla mk m hmk hlm
      have hsa := h _ _ a hla
      have hsm := h _ _ m hlm
      obtain ⟨e, he, hes⟩ := hentry a (by rw [hsa.1, hsa.2]; exact hla)
      have hrule := (hspec e he).reasons.1 (hall e he)
      have hest : e.1 = st := hes.trans hsa.1
      exact hrule a ((mem_group h).2 ⟨by rw [hest, hsa.2]; exact hla, hes.symm⟩) hsa.2 m
        ((mem_group h).2 ⟨by rw [hest, hsm.2]; exact hlm, hsm.1.trans hest.symm⟩) (hsm.2 ▸ hmk)
    · intro hall e he
      refine (hspec e he).reasons.2 fun a ha ha0 m hm hm1 => ?_
      rw [mem_group h] at ha hm
      rw [ha0] at ha
      exact hall e.1 a ha.1 m.market m hm1 hm.1

section Effective

variable [Host]

theorem selectEffectiveSnapshots_run {snapshots : List PnLSnapshotFact} {selection : SnapshotSelection}
    (h : selectEffectiveSnapshots snapshots = .ok selection) :
    ∃ latest, snapshots.foldlM recordSnapshot InsertionMap.empty = .ok latest ∧ SelectionSpec latest selection := by
  obtain ⟨latest, hrun, h⟩ := bind_eq_ok.1 h
  obtain ⟨selected, hsel, h⟩ := bind_eq_ok.1 h
  rw [pure_eq_ok] at h
  subst h
  have hspec := excludeMarketSnapshots_spec (kept_of_run hrun).scope hsel
  refine ⟨latest, hrun, ?_, fun s => ?_, hspec.reasons⟩
  · exact (List.Perm.nodup_iff (stableSort_perm.map _)).2 hspec.nodup
  · rw [mem_stableSort]
    exact hspec.mem s

/-- what is selected for a strategy: its aggregate snapshot alone, or market snapshots only, at most one per market,
each the latest of its market, and each newer than every aggregate snapshot of the strategy -/
def OneLayer (snapshots selected : List PnLSnapshotFact) (st : String) : Prop :=
  (∃ a, selected.filter (·.strategyId = st) = [a] ∧ a.market = none ∧ IsLatest snapshots a) ∨
  (((selected.filter (·.strategyId = st)).map (·.market)).Nodup ∧
    ∀ s ∈ selected, s.strategyId = st → s.market ≠ none ∧ IsLatest snapshots s ∧
      ∀ a ∈ snapshots, a.strategyId = st → a.market = none → ¬ NoLater s a)

/-- **One layer per strategy.** -/
theorem selectEffectiveSnapshots_layer {snapshots : List PnLSnapshotFact} {selection : SnapshotSelection}
    (h : selectEffectiveSnapshots snapshots = .ok selection) (st : String) :
    OneLayer snapshots selection.snapshots st := by
  obtain ⟨latest, hrun, hspec⟩ := selectEffectiveSnapshots_run h
  have hkept := kept_of_run hrun
  have hnodup : ((selection.snapshots.filter (·.strategyId = st)).map PnLSnapshotFact.scope).Nodup :=
    hspec.nodup.sublist (List.filter_sublist.map _)
  by_cases hagg : ∃ a ∈ selection.snapshots, a.strategyId = st ∧ a.market = none
  · obtain ⟨a, ha, hst, hm⟩ := hagg
    obtain ⟨hla, hstands⟩ := (hspec.mem a).1 ha
    refine Or.inl ⟨a, ?_, hm, hkept.newest _ _ a hla⟩
    -- any other snapshot of the strategy is a market that the standing aggregate rules out
    have honly : ∀ s ∈ selection.snapshots.filter (·.strategyId = st), s = a := by
      intro s hs
      obtain ⟨hsel, hs'⟩ := List.mem_filter.1 hs
      have hst' : s.strategyId = st := by simpa using hs'
      obtain ⟨hls, hstands'⟩ := (hspec.mem s).1 hsel
      by_cases hm' : s.market = none
      · rw [hst', hm'] at hls
        rw [hst, hm] at hla
        exact Option.some.inj (hls.symm.trans hla)
      · have hlater := hstands.1 hm s.market s hm' (by rw [hst, ← hst']; exact hls)
        exact absurd hlater (hstands'.2 hm' a (by rw [hst', ← hst, ← hm]; exact hla))
    have hone : selection.snapshots.filter (·.strategyId = st) ≠ [] :=
      List.ne_nil_of_mem (List.mem_filter.2 ⟨ha, by simp [hst]⟩)
    have hlen : (selection.snapshots.filter (·.strategyId = st)).Nodup := hnodup.of_map _
    rcases hl : selection.snapshots.filter (·.strategyId = st) with _ | ⟨x, _ | ⟨y, ys⟩⟩
    · exact absurd hl hone
    · rw [hl, honly x (by rw [hl]; simp)]
    · rw [hl, List.nodup_cons] at hlen
      have hxy : x = y := (honly x (by rw [hl]; simp)).trans (honly y (by rw [hl]; simp)).symm
      exact absurd (hxy ▸ by simp) hlen.1
  · refine Or.inr ⟨?_, fun s hs hst => ?_⟩
    · refine List.Nodup.of_map (fun mk => (st, mk)) ?_
      rw [List.map_map]
      refine (List.map_congr_left fun s hs => ?_) ▸ hnodup
      have hst : s.strategyId = st := by simpa using (List.mem_filter.1 hs).2
      simp [PnLSnapshotFact.scope, hst]
    · obtain ⟨hl, hstands⟩ := (hspec.mem s).1 hs
      have hm : s.market ≠ none := fun hc => hagg ⟨s, hs, hst, hc⟩
      refine ⟨hm, hkept.newest _ _ s hl, fun a ha hast ham hle => ?_⟩
      obtain ⟨w, hw⟩ := Option.isSome_iff_exists.1 (hkept.covers a ha)
      have hsc := hkept.scope _ _ w hw
      have haw := (hkept.newest _ _ w hw).2 a ha hsc.1.symm hsc.2.symm
      exact hstands.2 hm w (by rw [hst, ← hast, ← ham]; exact hw) (hle.trans haw)

end Effective

end SeeMirai.Pnl
