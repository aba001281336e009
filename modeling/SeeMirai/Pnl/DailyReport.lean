/-
The profit the daily report shows (application/daily-report/aggregator.ts), beside the one PnL accounting calculates.
Both keep the latest snapshot of each strategy and market by the same comparison. Where a strategy has an aggregate
snapshot and market snapshots, the report sums the aggregate whatever the times; the calculator takes the newer market
snapshots once one of them is newer than the aggregate.

The report reads the same rows as the calculator and not their payload. Only the part of `aggregateDailyReport` that
sums profits is modelled; a printed sum is kept as the rational it denotes.

Results:
- `selectLatest_pass`: the two passes keep the same snapshots.
- `mem_pnlSnapshotsForAggregation`: what the report sums, element by element.
- `reported_as_selected`: for each strategy the two selections agree exactly when no market snapshot of it is newer than
  its aggregate snapshots, and where all agree both report the same totals for a day covered by snapshots.
- `newer_market_reported_stale`: one newer market snapshot, and the two totals differ.
-/
import SeeMirai.Pnl.Coverage
import SeeMirai.Pnl.SnapshotOrder

namespace SeeMirai.Pnl.DailyReport

open Fallible

/-! ## Facts and metrics -/

structure DailyReportPositionFact where
  strategyId : String
  market : String
  realizedPnl : String
  unrealizedPnl : String
deriving DecidableEq

/-- a snapshot, or the current position of a scope without one -/
inductive PnlFact where
  | snapshot (s : PnLSnapshotFact)
  | position (p : DailyReportPositionFact)
deriving DecidableEq

namespace PnlFact

def strategyId : PnlFact → String
  | snapshot s => s.strategyId
  | position p => p.strategyId

def market : PnlFact → Option String
  | snapshot s => s.market
  | position p => some p.market

def realizedPnl : PnlFact → String
  | snapshot s => s.realizedPnl
  | position p => p.realizedPnl

def unrealizedPnl : PnlFact → String
  | snapshot s => s.unrealizedPnl
  | position p => p.unrealizedPnl

end PnlFact

structure DailyReportSourceData where
  positions : List DailyReportPositionFact
  pnlSnapshots : List PnLSnapshotFact

/-- a metric in KRW -/
structure DailyReportDecimalMetric where
  value : Option ℚ
  available : Bool
  sampleCount : ℕ
  source : String
deriving DecidableEq

structure DailyReportAggregate where
  realizedPnl : DailyReportDecimalMetric
  estimatedPnl : DailyReportDecimalMetric
  latestPnlSnapshotAt : Option Int
deriving DecidableEq

/-! ## Model -/

def timestampError : Thrown := ⟨"Error", "daily report timestamp input must be valid"⟩

def toTime (t : TimestampInput) : Except Thrown Int :=
  match t.millis with
  | some ms => pure ms
  | none => throw timestampError

/-- `null` first, then the markets' names -/
def compareOptionalMarket [Host] (left right : Option String) : Ordering :=
  match left, right with
  | none, none => .eq
  | none, some _ => .lt
  | some _, none => .gt
  | some l, some r => if l = r then .eq else Host.localeCompare l r

section Model

variable [Host]

def createPnlSnapshotTieBreakKey (snapshot : PnLSnapshotFact) : Except Thrown String := do
  let time ← toTime snapshot.capturedAt
  let equity ← parseFinancialDecimal snapshot.equity
  let realizedPnl ← parseFinancialDecimal snapshot.realizedPnl
  let unrealizedPnl ← parseFinancialDecimal snapshot.unrealizedPnl
  let drawdownBps ← parseFinancialDecimal snapshot.drawdownBps
  pure (JsonText.stringify [some snapshot.strategyId, snapshot.market, some (Int.repr time),
    some (Host.toFixed equity), some (Host.toFixed realizedPnl), some (Host.toFixed unrealizedPnl),
    some (Host.toFixed drawdownBps)])

def comparePnlSnapshotCandidate (left right : PnLSnapshotFact) : Except Thrown Ordering := do
  let leftTime ← toTime left.capturedAt
  let rightTime ← toTime right.capturedAt
  if leftTime ≠ rightTime then pure (compare leftTime rightTime)
  else do
    let leftKey ← createPnlSnapshotTieBreakKey left
    let rightKey ← createPnlSnapshotTieBreakKey right
    pure (Host.localeCompare leftKey rightKey)

def compareSnapshotScope (left right : PnLSnapshotFact) : Ordering :=
  (Host.localeCompare left.strategyId right.strategyId).then (compareOptionalMarket left.market right.market)

def comparePnlFactScope (left right : PnlFact) : Ordering :=
  (Host.localeCompare left.strategyId right.strategyId).then (compareOptionalMarket left.market right.market)

def recordLatest (latestByScope : LatestByStrategy) (snapshot : PnLSnapshotFact) : Except Thrown LatestByStrategy := do
  let latestByMarket := (latestByScope.get snapshot.strategyId).getD InsertionMap.empty
  let latestByMarket ← keepLatest comparePnlSnapshotCandidate latestByMarket snapshot.market snapshot
  pure (latestByScope.set snapshot.strategyId latestByMarket)

def selectLatestPnlSnapshots (snapshots : List PnLSnapshotFact) : Except Thrown (List PnLSnapshotFact) := do
  let latestByScope ← snapshots.foldlM recordLatest InsertionMap.empty
  pure (stableSort compareSnapshotScope (latestByScope.values.flatMap (·.values)))

end Model

/-- a strategy's aggregate snapshot stands for all its markets -/
def excludeMarketSnapshotsCoveredByAggregate (snapshots : List PnLSnapshotFact) : List PnLSnapshotFact :=
  let strategiesWithAggregateSnapshot := (snapshots.filter (·.market.isNone)).map (·.strategyId)
  snapshots.filter (fun s => s.market.isNone || decide (s.strategyId ∉ strategiesWithAggregateSnapshot))

def coversPosition (snapshots : List PnLSnapshotFact) (position : DailyReportPositionFact) : Bool :=
  snapshots.any (fun s => s.strategyId = position.strategyId ∧ (s.market = none ∨ s.market = some position.market))

structure PnlSource where
  facts : List PnlFact
  realizedSource : String
  estimatedSource : String

section Model

variable [Host]

def createPnlSource (snapshots : List PnLSnapshotFact) (positions : List DailyReportPositionFact) : PnlSource :=
  let fallbackPositions := positions.filter (fun p => !coversPosition snapshots p)
  let facts := stableSort comparePnlFactScope (snapshots.map .snapshot ++ fallbackPositions.map .position)
  if snapshots ≠ [] ∧ fallbackPositions ≠ [] then
    ⟨facts, "pnl_snapshots+positions", "pnl_snapshots.unrealized_pnl+positions.unrealized_pnl"⟩
  else if snapshots ≠ [] then ⟨facts, "pnl_snapshots", "pnl_snapshots.unrealized_pnl"⟩
  else ⟨facts, "positions", "positions.unrealized_pnl"⟩

def addText (sum : ℚ) (value : String) : Except Thrown ℚ := (sum + ·) <$> parseFinancialDecimal value

def sumDecimalStrings (values : List String) : Except Thrown ℚ := values.foldlM addText 0

def createPnlMetric (values : List String) (source : String) : Except Thrown DailyReportDecimalMetric :=
  if values = [] then pure ⟨none, false, 0, "unavailable"⟩
  else do
    let value ← sumDecimalStrings values
    pure ⟨some value, true, values.length, source⟩

def latestTimestamp (values : List TimestampInput) : Except Thrown (Option Int) := do
  let times ← values.mapM toTime
  pure times.max?

/-- the snapshots the report sums -/
def pnlSnapshotsForAggregation (snapshots : List PnLSnapshotFact) : Except Thrown (List PnLSnapshotFact) :=
  excludeMarketSnapshotsCoveredByAggregate <$> selectLatestPnlSnapshots snapshots

def aggregateDailyReport (sourceData : DailyReportSourceData) : Except Thrown DailyReportAggregate := do
  let snapshots ← pnlSnapshotsForAggregation sourceData.pnlSnapshots
  let pnlSource := createPnlSource snapshots sourceData.positions
  let realizedPnl ← createPnlMetric (pnlSource.facts.map (·.realizedPnl)) pnlSource.realizedSource
  let estimatedPnl ← createPnlMetric (pnlSource.facts.map (·.unrealizedPnl)) pnlSource.estimatedSource
  let latestPnlSnapshotAt ← latestTimestamp (snapshots.map (·.capturedAt))
  pure ⟨realizedPnl, estimatedPnl, latestPnlSnapshotAt⟩

end Model

/-! ## One pass in both modules -/

section Passes

variable [Host]

omit [Host] in
theorem toTime_follows (t : TimestampInput) : Follows Eq (toTime t) (Pnl.toTime t) := by
  intro time h
  unfold toTime at h
  split at h
  · rename_i ms hms
    rw [pure_eq_ok] at h
    exact ⟨time, Pnl.toTime_eq_ok.2 (h ▸ hms), rfl⟩
  · simp at h

theorem createPnlSnapshotTieBreakKey_follows (s : PnLSnapshotFact) :
    Follows Eq (createPnlSnapshotTieBreakKey s) (createSnapshotTieBreakKey s) := by
  apply (toTime_follows s.capturedAt).bind
  intro time time' htime
  subst htime
  exact Follows.refl _

/-- where the report's comparison answers, the calculator's gives the same answer -/
theorem comparePnlSnapshotCandidate_follows (left right : PnLSnapshotFact) :
    Follows Eq (comparePnlSnapshotCandidate left right) (compareSnapshotCandidate left right) := by
  apply (toTime_follows left.capturedAt).bind
  intro leftTime _ hleft
  subst hleft
  apply (toTime_follows right.capturedAt).bind
  intro rightTime _ hright
  subst hright
  split
  · exact Follows.refl _
  · apply (createPnlSnapshotTieBreakKey_follows left).bind
    intro leftKey _ hleft
    subst hleft
    apply (createPnlSnapshotTieBreakKey_follows right).bind
    intro rightKey _ hright
    subst hright
    exact Follows.refl _

theorem recordLatest_follows (latest : LatestByStrategy) (s : PnLSnapshotFact) :
    Follows Eq (recordLatest latest s) (recordSnapshot latest s) := by
  unfold recordLatest recordSnapshot
  refine Follows.bind (R := Eq) ?_ ?_
  · unfold keepLatest
    cases ((latest.get s.strategyId).getD InsertionMap.empty).get s.market with
    | none => exact Follows.refl _
    | some kept =>
      apply (comparePnlSnapshotCandidate_follows s kept).bind
      intro order _ horder
      subst horder
      exact Follows.refl _
  · intro byMarket _ hbyMarket
    subst hbyMarket
    exact Follows.refl _

/-- **One pass.** What the report keeps is what the calculator keeps. -/
theorem selectLatest_pass {snapshots : List PnLSnapshotFact} {latest : LatestByStrategy}
    (h : snapshots.foldlM recordLatest InsertionMap.empty = .ok latest) :
    snapshots.foldlM recordSnapshot InsertionMap.empty = .ok latest := by
  have hsame : List.Forall₂ Eq snapshots snapshots := List.forall₂_same.2 fun _ _ => rfl
  have hfollows := Follows.foldlM (R := Eq) hsame (f := recordLatest) (g := recordSnapshot) (by
    intro latest _ s _ hs hlatest
    subst hs
    subst hlatest
    exact recordLatest_follows latest s) (rfl : (InsertionMap.empty : LatestByStrategy) = InsertionMap.empty)
  obtain ⟨latest', hrun, heq⟩ := hfollows latest h
  rw [heq]
  exact hrun

/-- what the report sums: the kept aggregate of a strategy, or the kept markets of a strategy without one -/
theorem mem_pnlSnapshotsForAggregation {snapshots reported : List PnLSnapshotFact}
    (h : pnlSnapshotsForAggregation snapshots = .ok reported) :
    ∃ latest, snapshots.foldlM recordSnapshot InsertionMap.empty = .ok latest ∧
      (reported.map PnLSnapshotFact.scope).Nodup ∧
      ∀ s, s ∈ reported ↔ latest.lookup s.strategyId s.market = some s ∧
        (s.market = none ∨ latest.lookup s.strategyId none = none) := by
  obtain ⟨kept, hkept, rfl⟩ := map_eq_ok.1 h
  obtain ⟨latest, hpass, hkept⟩ := bind_eq_ok.1 hkept
  rw [pure_eq_ok] at hkept
  subst hkept
  have hrun := selectLatest_pass hpass
  have hscoped := (kept_of_run hrun).scope
  have hmem : ∀ s, s ∈ stableSort compareSnapshotScope latest.kept
      ↔ latest.lookup s.strategyId s.market = some s := by
    intro s
    rw [mem_stableSort, mem_kept hscoped]
  refine ⟨latest, hrun, ?_, ?_⟩
  · have hperm : (stableSort compareSnapshotScope latest.kept).Perm latest.kept := stableSort_perm
    have hnodup := (hperm.map PnLSnapshotFact.scope).nodup_iff.2 (kept_scopes_nodup hscoped)
    exact hnodup.sublist (List.filter_sublist.map _)
  · intro s
    unfold excludeMarketSnapshotsCoveredByAggregate
    rw [List.mem_filter]
    change s ∈ stableSort compareSnapshotScope latest.kept ∧ _ ↔ _
    rw [hmem, Bool.or_eq_true, decide_eq_true_eq, Option.isNone_iff_eq_none]
    refine and_congr_right fun _ => or_congr_right ?_
    constructor
    · intro hno
      cases hagg : latest.lookup s.strategyId none with
      | none => rfl
      | some a =>
        obtain ⟨hst, hmk⟩ := hscoped _ _ a hagg
        refine absurd (List.mem_map.2 ⟨a, List.mem_filter.2 ⟨(hmem a).2 ?_, ?_⟩, hst⟩) hno
        · rw [hst, hmk]
          exact hagg
        · rw [hmk]
          rfl
    · intro hnone hmem'
      obtain ⟨a, ha, hst⟩ := List.mem_map.1 hmem'
      obtain ⟨hkept, hmk⟩ := List.mem_filter.1 ha
      have hlook := (hmem a).1 hkept
      rw [Option.isNone_iff_eq_none.1 hmk, hst, hnone] at hlook
      cases hlook

end Passes

/-! ## Where the selections agree -/

/-- no market snapshot of the strategy is newer than every aggregate snapshot of it -/
def NoNewerMarket (snapshots : List PnLSnapshotFact) (strategyId : String) : Prop :=
  ∀ m ∈ snapshots, m.strategyId = strategyId → m.market ≠ none →
    (∃ a ∈ snapshots, a.strategyId = strategyId ∧ a.market = none) →
    ∃ a ∈ snapshots, a.strategyId = strategyId ∧ a.market = none ∧ NoLater m a

/-- in terms of what is kept: the kept aggregate is no earlier than the kept markets -/
theorem noNewerMarket_kept {snapshots : List PnLSnapshotFact} {latest : LatestByStrategy} (hk : Kept snapshots latest)
    {strategyId : String} {a : PnLSnapshotFact} (ha : latest.lookup strategyId none = some a) :
    NoNewerMarket snapshots strategyId ↔
      ∀ mk m, mk ≠ none → latest.lookup strategyId mk = some m → NoLater m a := by
  obtain ⟨hst, hmk⟩ := hk.scope _ _ a ha
  obtain ⟨hmem, hnewest⟩ := hk.newest _ _ a ha
  constructor
  · intro h mk m hne hm
    obtain ⟨hmst, hmmk⟩ := hk.scope _ _ m hm
    have hmarket : m.market ≠ none := by rw [hmmk]; exact hne
    obtain ⟨a', ha', hst', hmk', hle⟩ := h m (hk.newest _ _ m hm).1 hmst hmarket ⟨a, hmem, hst, hmk⟩
    exact hle.trans (hnewest a' ha' (hst'.trans hst.symm) (hmk'.trans hmk.symm))
  · intro h m hm hmst hne _
    obtain ⟨w, hw⟩ := Option.isSome_iff_exists.1 (hk.covers m hm)
    obtain ⟨hwst, hwmk⟩ := hk.scope _ _ w hw
    have hmw : NoLater m w := (hk.newest _ _ w hw).2 m hm hwst.symm hwmk.symm
    rw [hmst] at hw
    exact ⟨a, hmem, hst, hmk, hmw.trans (h m.market w hne hw)⟩

/-- the two selections have the same snapshots of a strategy exactly when none of its markets is newer -/
theorem selections_agree_iff [Host] {snapshots reported : List PnLSnapshotFact} {selection : SnapshotSelection}
    (hreported : pnlSnapshotsForAggregation snapshots = .ok reported)
    (hselection : selectEffectiveSnapshots snapshots = .ok selection) (strategyId : String) :
    (∀ s, s.strategyId = strategyId → (s ∈ reported ↔ s ∈ selection.snapshots)) ↔
      NoNewerMarket snapshots strategyId := by
  obtain ⟨latest, hrun, -, hmem⟩ := mem_pnlSnapshotsForAggregation hreported
  obtain ⟨latest', hrun', hspec⟩ := selectEffectiveSnapshots_run hselection
  have hlatest : latest' = latest := Except.ok.inj (hrun'.symm.trans hrun)
  subst hlatest
  have hk := kept_of_run hrun
  cases hagg : latest'.lookup strategyId none with
  | none =>
    -- without an aggregate both take every kept market
    refine iff_of_true ?_ ?_
    · intro s hst
      rw [hmem, hspec.mem]
      refine and_congr_right fun hs => iff_of_true (Or.inr (by rw [hst]; exact hagg)) ?_
      refine ⟨?_, ?_⟩
      · intro hnone
        rw [hst, hnone, hagg] at hs
        cases hs
      · intro _ a ha
        rw [hst, hagg] at ha
        cases ha
    · intro m _ _ _ hexists
      obtain ⟨a, ha, hst, hmk⟩ := hexists
      have hcovered := hk.covers a ha
      rw [hst, hmk, hagg] at hcovered
      cases hcovered
  | some a =>
    rw [noNewerMarket_kept hk hagg]
    obtain ⟨hst, hmk⟩ := hk.scope _ _ a hagg
    have hlook : latest'.lookup a.strategyId a.market = some a := by rw [hst, hmk]; exact hagg
    constructor
    · intro hsame mk m hne hm
      have hstands := ((hspec.mem a).1 ((hsame a hst).1 ((hmem a).2 ⟨hlook, Or.inl hmk⟩))).2
      exact hstands.1 hmk mk m hne (by rw [hst]; exact hm)
    · intro hle s hs
      rw [hmem, hspec.mem]
      refine and_congr_right fun hkept => ?_
      rw [hs] at hkept
      constructor
      · intro hor
        rcases hor with hnone | hnone
        · refine ⟨?_, fun hc => absurd hnone hc⟩
          intro _ mk m hne hm
          rw [hnone, hagg] at hkept
          rw [hs] at hm
          exact Option.some.inj hkept ▸ hle mk m hne hm
        · rw [hs, hagg] at hnone
          cases hnone
      · intro hstands
        by_cases hnone : s.market = none
        · exact Or.inl hnone
        · exact absurd (hle s.market s hnone hkept) (hstands.2 hnone a (by rw [hs]; exact hagg))

/-! ## Totals -/

section Totals

variable [Host]

/-- a sum over nothing is not reported -/
def reportedSum (values : List String) : Option ℚ := if values = [] then none else some (values.map amount).sum

theorem reportedSum_perm {values values' : List String} (h : values.Perm values') :
    reportedSum values = reportedSum values' := by
  have hnil : values = [] ↔ values' = [] :=
    ⟨fun hv => List.Perm.nil_eq (hv ▸ h) |>.symm, fun hv => List.Perm.nil_eq (hv ▸ h.symm) |>.symm⟩
  unfold reportedSum
  rw [(h.map amount).sum_eq]
  exact if_congr hnil rfl rfl

theorem amount_of_decimal {s : String} {q : ℚ} (h : parseFinancialDecimal s = .ok q) : amount s = q := by
  rw [amount, parseFinancialDecimal_eq_ok.1 h]
  rfl

theorem addText_foldlM {values : List String} {start total : ℚ} (h : values.foldlM addText start = .ok total) :
    total = start + (values.map amount).sum := by
  induction values generalizing start with
  | nil =>
    have heq : start = total := by simpa using h
    simp [heq]
  | cons value values ih =>
    rw [List.foldlM_cons] at h
    obtain ⟨mid, hmid, hrest⟩ := bind_eq_ok.1 h
    obtain ⟨q, hq, hsum⟩ := map_eq_ok.1 hmid
    rw [ih hrest, ← hsum, List.map_cons, List.sum_cons, amount_of_decimal hq]
    ring

theorem createPnlMetric_value {values : List String} {source : String} {metric : DailyReportDecimalMetric}
    (h : createPnlMetric values source = .ok metric) : metric.value = reportedSum values := by
  unfold createPnlMetric at h
  unfold reportedSum
  split at h
  · rename_i hnil
    rw [pure_eq_ok] at h
    rw [← h, if_pos hnil]
  · rename_i hne
    obtain ⟨total, htotal, h⟩ := bind_eq_ok.1 h
    rw [pure_eq_ok] at h
    rw [← h, if_neg hne, addText_foldlM htotal, zero_add]

theorem addSnapshot_foldlM {snapshots : List PnLSnapshotFact} {start acc : ℚ × ℚ × ℚ}
    (h : snapshots.foldlM addSnapshot start = .ok acc) :
    acc.2.1 = start.2.1 + (snapshots.map fun s => amount s.realizedPnl).sum ∧
      acc.2.2 = start.2.2 + (snapshots.map fun s => amount s.unrealizedPnl).sum := by
  induction snapshots generalizing start with
  | nil =>
    have heq : start = acc := by simpa using h
    simp [heq]
  | cons s snapshots ih =>
    rw [List.foldlM_cons] at h
    obtain ⟨mid, hmid, hrest⟩ := bind_eq_ok.1 h
    obtain ⟨equity, -, hmid⟩ := bind_eq_ok.1 hmid
    obtain ⟨realized, hrealized, hmid⟩ := bind_eq_ok.1 hmid
    obtain ⟨unrealized, hunrealized, hmid⟩ := bind_eq_ok.1 hmid
    rw [pure_eq_ok] at hmid
    obtain ⟨hr, hu⟩ := ih hrest
    rw [hr, hu, ← hmid, List.map_cons, List.map_cons, List.sum_cons, List.sum_cons, amount_of_decimal hrealized,
      amount_of_decimal hunrealized]
    refine ⟨?_, ?_⟩
    · ring
    · ring

theorem summarizeSnapshots_sums {snapshots : List PnLSnapshotFact} {totals : SnapshotTotals}
    (h : summarizeSnapshots snapshots = .ok totals) :
    totals.realizedPnlKrw = reportedSum (snapshots.map (·.realizedPnl)) ∧
      totals.unrealizedPnlKrw = reportedSum (snapshots.map (·.unrealizedPnl)) := by
  unfold summarizeSnapshots at h
  unfold reportedSum
  split at h
  · rename_i hnil
    rw [pure_eq_ok] at h
    rw [← h, hnil]
    exact ⟨rfl, rfl⟩
  · rename_i hne
    obtain ⟨acc, hacc, h⟩ := bind_eq_ok.1 h
    rw [pure_eq_ok] at h
    obtain ⟨hr, hu⟩ := addSnapshot_foldlM hacc
    simp only [List.map_eq_nil_iff, if_neg hne, List.map_map]
    rw [← h, hr, hu]
    simp only [zero_add]
    exact ⟨rfl, rfl⟩

/-- a day whose positions are all covered sums the snapshots -/
theorem aggregateDailyReport_covered {sourceData : DailyReportSourceData} {report : DailyReportAggregate}
    {reported : List PnLSnapshotFact} (hreported : pnlSnapshotsForAggregation sourceData.pnlSnapshots = .ok reported)
    (hcovered : ∀ p ∈ sourceData.positions, SnapshotOwns reported p.strategyId p.market)
    (h : aggregateDailyReport sourceData = .ok report) :
    report.realizedPnl.value = reportedSum (reported.map (·.realizedPnl)) ∧
      report.estimatedPnl.value = reportedSum (reported.map (·.unrealizedPnl)) := by
  unfold aggregateDailyReport at h
  rw [hreported, ok_bind] at h
  obtain ⟨realized, hrealized, h⟩ := bind_eq_ok.1 h
  obtain ⟨estimated, hestimated, h⟩ := bind_eq_ok.1 h
  obtain ⟨latest, -, h⟩ := bind_eq_ok.1 h
  rw [pure_eq_ok] at h
  subst h
  have hfallback : sourceData.positions.filter (fun p => !coversPosition reported p) = [] := by
    refine List.filter_eq_nil_iff.2 fun p hp => ?_
    obtain ⟨s, hs, hst, hmk⟩ := hcovered p hp
    simp only [coversPosition, Bool.not_eq_true', Bool.not_eq_false, List.any_eq_true, decide_eq_true_eq]
    exact ⟨s, hs, hst, hmk⟩
  have hfacts : ((createPnlSource reported sourceData.positions).facts).Perm (reported.map .snapshot) := by
    have hsorted : (createPnlSource reported sourceData.positions).facts
        = stableSort comparePnlFactScope (reported.map .snapshot) := by
      unfold createPnlSource
      simp only [hfallback, List.map_nil, List.append_nil]
      split_ifs
      · rfl
      · rfl
      · rfl
    rw [hsorted]
    exact stableSort_perm
  refine ⟨?_, ?_⟩
  · rw [createPnlMetric_value hrealized, reportedSum_perm (hfacts.map PnlFact.realizedPnl), List.map_map]
    rfl
  · rw [createPnlMetric_value hestimated, reportedSum_perm (hfacts.map PnlFact.unrealizedPnl), List.map_map]
    rfl

omit [Host] in
theorem isSnapshotCovered_of_owns {snapshots : List PnLSnapshotFact} {strategyId market : String}
    (h : SnapshotOwns snapshots strategyId market) : isSnapshotCovered snapshots strategyId market = true := by
  obtain ⟨s, hs, hst, hmk⟩ := h
  simp only [isSnapshotCovered, Bool.or_eq_true, List.any_eq_true, decide_eq_true_eq, Option.isNone_iff_eq_none]
  rcases hmk with hnone | hsome
  · exact Or.inl ⟨s, hs, hnone, hst⟩
  · refine Or.inr ⟨s, hs, by rw [hsome]; rfl, ?_⟩
    rw [hst, hsome]

/-- where every scope is covered nothing is collected and nothing is replayed -/
theorem replay_covered {input : PnLAccountingInput} {r : Replay} (h : ReplayRun input r)
    (hcovered : ∀ x ∈ scopesOf input, SnapshotOwns r.selection.snapshots x.1 x.2) :
    r.collected = initialCollected r.selection ∧ r.ledgerFills = [] ∧ r.ledger = createEmptyLedger := by
  obtain ⟨mid, hmid, hcollected⟩ := h.collected
  have hreconcile : mid = initialCollected r.selection := by
    refine foldlM_keeps (fun acc => acc = initialCollected r.selection) ?_ hmid rfl
    intro acc fact acc' hmem hstep hacc
    rw [collectReconcile, if_pos (isSnapshotCovered_of_owns (hcovered _ (reconcile_scope hmem))), pure_eq_ok] at hstep
    exact hstep ▸ hacc
  have hpositions : r.collected = mid := by
    refine foldlM_keeps (fun acc => acc = mid) ?_ hcollected rfl
    intro acc fact acc' hmem hstep hacc
    rw [collectPosition, if_pos (isSnapshotCovered_of_owns (hcovered _ (position_scope hmem))), pure_eq_ok] at hstep
    exact hstep ▸ hacc
  have hcol : r.collected = initialCollected r.selection := hpositions.trans hreconcile
  have hfills : r.ledgerFills = [] := by
    refine List.eq_nil_iff_forall_not_mem.2 fun f hf => ?_
    obtain ⟨hmem, huncovered, -⟩ := h.mem_ledgerFills.1 hf
    rw [isSnapshotCovered_of_owns (hcovered _ (fill_scope hmem))] at huncovered
    cases huncovered
  refine ⟨hcol, hfills, ?_⟩
  have hopening := h.opening
  have hledger := h.ledger
  rw [hcol] at hopening
  have hempty : r.opening = createEmptyLedger := (pure_eq_ok.1 hopening).symm
  rw [hfills, hempty] at hledger
  exact (pure_eq_ok.1 hledger).symm

/-- the totals of a calculation whose scopes are all covered are those of the selected snapshots -/
theorem calculation_covered {input : PnLAccountingInput} {r : Replay} {v : Valuation} {out : PnLAccountingOutput}
    (h : calculate input = .ok (r, v, out))
    (hcovered : ∀ x ∈ scopesOf input, SnapshotOwns r.selection.snapshots x.1 x.2) :
    out.realizedPnlKrw = reportedSum (r.selection.snapshots.map (·.realizedPnl)) ∧
      out.unrealizedPnlKrw = reportedSum (r.selection.snapshots.map (·.unrealizedPnl)) := by
  have hrun := calculate_run h
  obtain ⟨cashKrw, marks, -, -, hv⟩ := hrun.valuation
  obtain ⟨hcollected, hfills, hledger⟩ := replay_covered hrun.replay hcovered
  obtain ⟨hrealized, hunrealized⟩ := summarizeSnapshots_sums hrun.replay.totals
  have hdetails : ∀ cash equity filtered, calculatePositionDetails r.ledger marks cash equity filtered = [] := by
    intro cash equity filtered
    rw [hledger]
    rfl
  rw [hrun.realized, hrun.unrealized, hv, ← hrealized, ← hunrealized]
  unfold valuate
  simp only [hdetails, hcollected, hfills, initialCollected]
  by_cases hnil : r.selection.snapshots = []
  · simp [hnil, hrealized, hunrealized, reportedSum]
  · simp [hnil, sumDecimalParts, sumKnown, hrealized, hunrealized, reportedSum]

/-- **Where the daily report and the calculator agree.** For each strategy the snapshots the report sums are the ones
the calculator selects exactly when no market snapshot of the strategy is newer than all its aggregate snapshots; and
where this holds of every strategy, both report the same realised and unrealised totals whenever every scope of their
facts is covered by a snapshot. -/
theorem reported_as_selected {snapshots reported : List PnLSnapshotFact} {selection : SnapshotSelection}
    (hreported : pnlSnapshotsForAggregation snapshots = .ok reported)
    (hselection : selectEffectiveSnapshots snapshots = .ok selection) :
    (∀ strategyId, (∀ s, s.strategyId = strategyId → (s ∈ reported ↔ s ∈ selection.snapshots)) ↔
      NoNewerMarket snapshots strategyId) ∧
    ((∀ strategyId, NoNewerMarket snapshots strategyId) →
      reported.Perm selection.snapshots ∧
      ∀ positions report input out, input.pnlSnapshots = snapshots → input.targets = [] →
        (∀ x ∈ scopesOf input, SnapshotOwns selection.snapshots x.1 x.2) →
        (∀ p ∈ positions, SnapshotOwns selection.snapshots p.strategyId p.market) →
        aggregateDailyReport ⟨positions, snapshots⟩ = .ok report → calculatePnLAccounting input = .ok out →
        report.realizedPnl.value = out.realizedPnlKrw ∧ report.estimatedPnl.value = out.unrealizedPnlKrw) := by
  refine ⟨selections_agree_iff hreported hselection, fun hnewer => ?_⟩
  obtain ⟨latest, -, hnodup, -⟩ := mem_pnlSnapshotsForAggregation hreported
  obtain ⟨_, -, hspec⟩ := selectEffectiveSnapshots_run hselection
  have hmem : ∀ s, s ∈ reported ↔ s ∈ selection.snapshots := fun s =>
    (selections_agree_iff hreported hselection s.strategyId).2 (hnewer s.strategyId) s rfl
  have hperm : reported.Perm selection.snapshots :=
    (List.perm_ext_iff_of_nodup (hnodup.of_map _) (hspec.nodup.of_map _)).2 hmem
  refine ⟨hperm, ?_⟩
  intro positions report input out hsnapshots htargets hscopes hpositions hreport hcalculation
  subst hsnapshots
  obtain ⟨⟨r, v, out'⟩, hrun, rfl⟩ := map_eq_ok.1 hcalculation
  rw [applyTargetScopeFilter, if_pos htargets] at hrun
  have hsame : r.selection = selection :=
    Except.ok.inj ((calculate_run hrun).replay.selection.symm.trans hselection)
  have hcovered : ∀ p ∈ positions, SnapshotOwns reported p.strategyId p.market := by
    intro p hp
    obtain ⟨s, hs, hscope⟩ := hpositions p hp
    exact ⟨s, (hmem s).2 hs, hscope⟩
  obtain ⟨hreal, hunreal⟩ := aggregateDailyReport_covered hreported hcovered hreport
  obtain ⟨hcalc, huncalc⟩ := calculation_covered hrun (by rw [hsame]; exact hscopes)
  rw [hsame] at hcalc huncalc
  rw [hreal, hunreal, hcalc, huncalc]
  exact ⟨reportedSum_perm (hperm.map _), reportedSum_perm (hperm.map _)⟩

end Totals

def snapshotAt (market : Option String) (ms : Int) (realizedPnl : String) : PnLSnapshotFact :=
  { strategyId := "trend_following", market := market, capturedAt := .at ms, equity := "1000",
    realizedPnl := realizedPnl, unrealizedPnl := "6", drawdownBps := "1", payloadJson := none }

def snapshotDay (snapshots : List PnLSnapshotFact) : PnLAccountingInput :=
  { capturedAt := some (.at 100), targetScopes := none, fills := [], positions := [], markPrices := [], cash := none,
    costQuality := [], pnlSnapshots := snapshots, reconcileFacts := [], trace := none }

def coveredDay : List PnLSnapshotFact := [snapshotAt none 40 "100", snapshotAt (some "KRW-BTC") 30 "60"]

def newerMarketDay : List PnLSnapshotFact := [snapshotAt none 30 "100", snapshotAt (some "KRW-BTC") 40 "60"]

/-- the aggregate snapshot is the newer one: both report its profit -/
theorem reported_as_selected_newer_aggregate : ∃ report out, aggregateDailyReport ⟨[], coveredDay⟩ = .ok report ∧
    calculatePnLAccounting (snapshotDay coveredDay) = .ok out ∧ report.realizedPnl.value = out.realizedPnlKrw := by
  obtain ⟨reported, hreported⟩ := exists_ok (show (pnlSnapshotsForAggregation coveredDay).toOption.isSome by
    decide +kernel)
  obtain ⟨selection, hselection⟩ := exists_ok (show (selectEffectiveSnapshots coveredDay).toOption.isSome by
    decide +kernel)
  obtain ⟨report, hreport⟩ := exists_ok (show (aggregateDailyReport ⟨[], coveredDay⟩).toOption.isSome by
    decide +kernel)
  obtain ⟨out, hout⟩ := exists_ok (show (calculatePnLAccounting (snapshotDay coveredDay)).toOption.isSome by
    decide +kernel)
  have hnewer : ∀ strategyId, NoNewerMarket coveredDay strategyId := by
    intro strategyId m hm _ hne hexists
    obtain ⟨a, ha, hst, hmk⟩ := hexists
    refine ⟨a, ha, hst, hmk, ?_⟩
    simp only [coveredDay, List.mem_cons, List.not_mem_nil, or_false] at hm ha
    rcases hm with rfl | rfl
    · exact absurd rfl hne
    · rcases ha with rfl | rfl
      · exact (noLater_iff rfl rfl).2 (by decide)
      · cases hmk
  have hagree := (reported_as_selected hreported hselection).2 hnewer
  exact ⟨report, out, hreport, hout, (hagree.2 [] report (snapshotDay coveredDay) out rfl rfl
    (by simp [scopesOf, snapshotDay]) (by simp) hreport hout).1⟩

/-- one market snapshot newer than the aggregate: the report keeps summing the aggregate, the calculator does not -/
theorem newer_market_reported_stale : ¬ ∀ snapshots reported selection,
    pnlSnapshotsForAggregation snapshots = .ok reported → selectEffectiveSnapshots snapshots = .ok selection →
      ∀ s, s ∈ reported ↔ s ∈ selection.snapshots := by
  intro hall
  obtain ⟨reported, hreported⟩ := exists_ok (show (pnlSnapshotsForAggregation newerMarketDay).toOption.isSome by
    decide +kernel)
  obtain ⟨selection, hselection⟩ := exists_ok (show (selectEffectiveSnapshots newerMarketDay).toOption.isSome by
    decide +kernel)
  have hsummed : (pnlSnapshotsForAggregation newerMarketDay).toOption = some [snapshotAt none 30 "100"] := by
    decide +kernel
  have hselected : (selectEffectiveSnapshots newerMarketDay).toOption.map (·.snapshots)
      = some [snapshotAt (some "KRW-BTC") 40 "60"] := by decide +kernel
  rw [hreported] at hsummed
  rw [hselection] at hselected
  have hsummed' : reported = [snapshotAt none 30 "100"] := Option.some.inj hsummed
  have hselected' : selection.snapshots = [snapshotAt (some "KRW-BTC") 40 "60"] := Option.some.inj hselected
  have hsame := hall newerMarketDay reported selection hreported hselection (snapshotAt none 30 "100")
  rw [hsummed', hselected'] at hsame
  exact absurd (hsame.1 (by simp)) (by decide)

end SeeMirai.Pnl.DailyReport
