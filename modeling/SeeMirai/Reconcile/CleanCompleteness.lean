/-
What a clean reconcile says about the live orders of the exchange. A snapshot is dropped as a repeat when one of its ids
is accounted for, be it the uuid or the identifier, so two orders that share an identifier can pass for one.

Results:
- `clean_complete_iff`: a clean result is complete (every live snapshot that no terminal snapshot of its uuid supersedes
  has its own local order) exactly when the snapshots are `Distinguishable` by their ids.
- `two_orders_pass_for_one`: two live orders with one identifier and two uuids are reported clean against one local order.
-/
import SeeMirai.Reconcile.Advancement

namespace SeeMirai.Reconcile

open Fallible

/-! ## Standing snapshots -/

def SameUuid (a b : ReconcileExchangeOrderSnapshot) : Prop :=
  a.exchangeOrderId ≠ none ∧ a.exchangeOrderId = b.exchangeOrderId

def SameIdentifier (a b : ReconcileExchangeOrderSnapshot) : Prop := a.identifier ≠ none ∧ a.identifier = b.identifier

/-- both uuids are known, and they differ -/
def DifferentUuids (a b : ReconcileExchangeOrderSnapshot) : Prop :=
  a.exchangeOrderId ≠ none ∧ b.exchangeOrderId ≠ none ∧ a.exchangeOrderId ≠ b.exchangeOrderId

/-- the live snapshot at a position that no terminal snapshot of its uuid ahead of it supersedes -/
structure StandingAt (exchangeOrders : List ReconcileExchangeOrderSnapshot) (i : ℕ)
    (e : ReconcileExchangeOrderSnapshot) : Prop where
  here : exchangeOrders[i]? = some e
  live : Live e
  current : ∀ j y, j < i → exchangeOrders[j]? = some y → Terminal y → ¬ SameUuid y e

theorem SameUuid.symm {a b : ReconcileExchangeOrderSnapshot} (h : SameUuid a b) : SameUuid b a :=
  ⟨h.2 ▸ h.1, h.2.symm⟩

theorem SameUuid.trans {a b c : ReconcileExchangeOrderSnapshot} (h : SameUuid a b) (h' : SameUuid b c) : SameUuid a c :=
  ⟨h.1, h.2.trans h'.2⟩

/-- an earlier live snapshot of the uuid stands as well -/
theorem StandingAt.earlier {exchangeOrders : List ReconcileExchangeOrderSnapshot} {i j : ℕ}
    {e y : ReconcileExchangeOrderSnapshot} (h : StandingAt exchangeOrders i e) (hlt : j < i)
    (hy : exchangeOrders[j]? = some y) (hlive : Live y) (hsame : SameUuid y e) : StandingAt exchangeOrders j y := by
  refine ⟨hy, hlive, ?_⟩
  intro k z hk hz hterminal hz'
  exact h.current k z (hk.trans hlt) hz hterminal (hz'.trans hsame)

/-! ## Positions of a run -/

theorem zipIdx_split {α : Type} {xs : List α} {i : ℕ} {e : α} (h : xs[i]? = some e) :
    xs.zipIdx = xs.zipIdx.take i ++ (e, i) :: xs.zipIdx.drop (i + 1) := by
  obtain ⟨hi, he⟩ := List.getElem?_eq_some_iff.1 h
  have hlength : i < xs.zipIdx.length := by simpa using hi
  conv_lhs => rw [← List.take_append_drop i xs.zipIdx]
  rw [List.drop_eq_getElem_cons hlength]
  simp [he]

theorem mem_take_zipIdx {α : Type} {xs : List α} {i : ℕ} {entry : α × ℕ} :
    entry ∈ xs.zipIdx.take i ↔ xs[entry.2]? = some entry.1 ∧ entry.2 < i := by
  rw [List.mem_iff_getElem?]
  constructor
  · rintro ⟨k, hk⟩
    rw [List.getElem?_take] at hk
    split_ifs at hk with hlt
    rw [List.getElem?_zipIdx] at hk
    obtain ⟨e, he, rfl⟩ := Option.map_eq_some_iff.1 hk
    simpa using ⟨he, hlt⟩
  · rintro ⟨hentry, hlt⟩
    refine ⟨entry.2, ?_⟩
    rw [List.getElem?_take, if_pos hlt, List.getElem?_zipIdx, hentry]
    simp

section Host

variable [Host] {localOpenOrders : List ReconcileLocalOrderSnapshot} {observedAt : String}

/-- no result holds a mismatch -/
def ReconcileLoop.Clean (loop : ReconcileLoop) : Prop := ∀ result ∈ loop.results, result.mismatches = []

omit [Host] in
theorem ReconcileLoop.Clean.of_grows {loop loop' : ReconcileLoop} (h : loop'.Clean) (hgrows : loop.Grows loop') :
    loop.Clean :=
  fun result hresult => h result (hgrows.results.subset hresult)

/-- the outcomes of a live snapshot when nothing is reported -/
inductive QuietStep (localOpenOrders : List ReconcileLocalOrderSnapshot) (loop : ReconcileLoop)
    (e : ReconcileExchangeOrderSnapshot) (loop' : ReconcileLoop) : Prop where
  | dropped (hseen : loop.Seen e) (hno : ∀ loc ∈ localOpenOrders, NoConflict e loc)
  | paired (hnew : ¬ loop.Seen e) (loc : ReconcileLocalOrderSnapshot) (hloc : loc ∈ localOpenOrders)
      (hmatch : Matches e loc) (hunmatched : loc.orderId ∉ loop.matchedLocalIds)
      (hmatched : loc.orderId ∈ loop'.matchedLocalIds)

theorem createIdentityConflictResult_mismatches {exchange : ReconcileExchangeOrderSnapshot}
    {loc : ReconcileLocalOrderSnapshot} {failure : IdentityMatchFailure} {result : OrderPairReconcileResult}
    (h : createIdentityConflictResult exchange loc failure observedAt = .ok result) : result.mismatches ≠ [] := by
  obtain ⟨identity, -, h⟩ := bind_eq_ok.1 h
  obtain rfl := pure_eq_ok.1 h
  exact List.cons_ne_nil _ _

theorem ExchangeStep.quiet {entry : ReconcileExchangeOrderSnapshot × ℕ} {loop loop' : ReconcileLoop}
    (h : ExchangeStep localOpenOrders observedAt loop entry loop') (hlive : Live entry.1) (hclean : loop'.Clean) :
    QuietStep localOpenOrders loop entry.1 loop' := by
  cases h with
  | closing hnot => exact absurd hlive hnot
  | repeated _ hseen hno => exact .dropped hseen hno
  | untracked _ _ mismatch =>
    exact absurd (hclean ⟨none, none, none, [mismatch], none⟩ (by simp)) (List.cons_ne_nil _ _)
  | repeatedConflict _ _ loc failure result _ _ hresult =>
    exact absurd (hclean result (by simp [ReconcileLoop.pair])) (createIdentityConflictResult_mismatches hresult)
  | conflict _ _ loc failure result _ _ _ _ hresult =>
    exact absurd (hclean result (by simp [ReconcileLoop.pair])) (createIdentityConflictResult_mismatches hresult)
  | matched _ hnew loc success _ _ _ hsplit hunmatched hmatch =>
    exact .paired hnew loc (mem_of_split hsplit) ⟨success, hmatch⟩ hunmatched (by simp [ReconcileLoop.pair])

/-- the iteration of one position of a clean run -/
theorem quietAt {exchangeOrders : List ReconcileExchangeOrderSnapshot} {loop : ReconcileLoop}
    (hrun : exchangeOrders.zipIdx.foldlM (reconcileExchangeOrder localOpenOrders observedAt) emptyLoop = .ok loop)
    (hclean : loop.Clean) {i : ℕ} {e : ReconcileExchangeOrderSnapshot} (hi : exchangeOrders[i]? = some e)
    (hlive : Live e) :
    ∃ c c', (exchangeOrders.zipIdx.take i).foldlM (reconcileExchangeOrder localOpenOrders observedAt) emptyLoop = .ok c ∧
      (exchangeOrders.zipIdx.take (i + 1)).foldlM (reconcileExchangeOrder localOpenOrders observedAt) emptyLoop =
        .ok c' ∧ QuietStep localOpenOrders c e c' := by
  have hsplit := zipIdx_split hi
  rw [hsplit] at hrun
  obtain ⟨c, c', hbefore, hstep, hafter⟩ := foldlM_at hrun
  have hquiet := (exchangeStep hstep).quiet hlive (hclean.of_grows (exchangeRun_grows hafter))
  refine ⟨c, c', hbefore, ?_, hquiet⟩
  have htake : exchangeOrders.zipIdx.take (i + 1) = exchangeOrders.zipIdx.take i ++ [(e, i)] := by
    rw [List.take_add_one, List.getElem?_zipIdx, hi]
    simp
  rw [htake, List.foldlM_append, hbefore, ok_bind, List.foldlM_cons, hstep]
  rfl

/-! ## Completeness -/

/-- **Complete.** Every standing snapshot has a local order of its own: one that it matches, or that another standing
snapshot of its uuid matches. Snapshots of two uuids never have the same one, nor do two snapshots without any id; and no
two standing snapshots carry one identifier with two uuids. -/
def Complete (localOpenOrders : List ReconcileLocalOrderSnapshot) (exchangeOrders : List ReconcileExchangeOrderSnapshot) :
    Prop :=
  (∃ own : ℕ → ReconcileLocalOrderSnapshot,
    (∀ i e, StandingAt exchangeOrders i e → own i ∈ localOpenOrders ∧
      ∃ j y, StandingAt exchangeOrders j y ∧ (j = i ∨ SameUuid y e) ∧ Matches y (own i)) ∧
    ∀ i e j y, StandingAt exchangeOrders i e → StandingAt exchangeOrders j y → i ≠ j →
      (DifferentUuids e y ∨ (Idless e ∧ Idless y)) → own i ≠ own j) ∧
  ∀ i e j y, StandingAt exchangeOrders i e → StandingAt exchangeOrders j y → SameIdentifier e y → ¬ DifferentUuids e y

/-- the ids tell the orders apart: no two standing snapshots carry one identifier with two uuids, and a standing snapshot
that an earlier one could hide without being known as the same order, by the identifier alone or by being neither live
nor terminal, is of an order that some local order carries an id of -/
structure Distinguishable (localOpenOrders : List ReconcileLocalOrderSnapshot)
    (exchangeOrders : List ReconcileExchangeOrderSnapshot) : Prop where
  identifiers : ∀ i e j y, StandingAt exchangeOrders i e → StandingAt exchangeOrders j y → SameIdentifier e y →
    ¬ DifferentUuids e y
  hidden : ∀ i e j y, StandingAt exchangeOrders i e → j < i → exchangeOrders[j]? = some y → SameOrder y e →
    ¬ (SameUuid y e ∧ (Live y ∨ Terminal y)) →
    ∃ k z, StandingAt exchangeOrders k z ∧ (k = i ∨ SameUuid z e) ∧ ∃ loc ∈ localOpenOrders, Shares z loc

/-- a strong match carries no two different ids of a kind -/
theorem StronglyMatches.agree {exchange : ReconcileExchangeOrderSnapshot} {loc : ReconcileLocalOrderSnapshot}
    (h : StronglyMatches exchange loc) :
    (exchange.exchangeOrderId = none ∨ loc.exchangeOrderId = none ∨ exchange.exchangeOrderId = loc.exchangeOrderId) ∧
      (exchange.identifier = none ∨ loc.identifier = none ∨ exchange.identifier = loc.identifier) := by
  obtain ⟨success, hmatch, hstrong⟩ := h
  unfold matchOrderIdentity at hmatch
  split at hmatch
  · rename_i exchangeId localId hexchangeId hlocalId
    split_ifs at hmatch with hid
    · split at hmatch
      · cases pure_eq_ok.1 hmatch
      · cases pure_eq_ok.1 hmatch
    · have hids : exchange.identifier = loc.identifier := by rw [hexchangeId, hlocalId, not_not.1 hid]
      split at hmatch
      · rename_i exchangeUuid localUuid hexchangeUuid hlocalUuid
        split_ifs at hmatch with huuid
        · cases pure_eq_ok.1 hmatch
        · exact ⟨Or.inr (Or.inr (by rw [hexchangeUuid, hlocalUuid, not_not.1 huuid])), Or.inr (Or.inr hids)⟩
      · rename_i hone
        refine ⟨?_, Or.inr (Or.inr hids)⟩
        cases hexchangeUuid : exchange.exchangeOrderId with
        | none => exact Or.inl rfl
        | some exchangeUuid =>
          cases hlocalUuid : loc.exchangeOrderId with
          | none => exact Or.inr (Or.inl rfl)
          | some localUuid => exact absurd hlocalUuid (hone exchangeUuid localUuid hexchangeUuid)
  · rename_i hone
    have hids : exchange.identifier = none ∨ loc.identifier = none ∨ exchange.identifier = loc.identifier := by
      cases hexchangeId : exchange.identifier with
      | none => exact Or.inl rfl
      | some exchangeId =>
        cases hlocalId : loc.identifier with
        | none => exact Or.inr (Or.inl rfl)
        | some localId => exact absurd hlocalId (hone exchangeId localId hexchangeId)
    refine ⟨?_, hids⟩
    split at hmatch
    · rename_i exchangeUuid localUuid hexchangeUuid hlocalUuid
      split_ifs at hmatch with huuid
      · cases pure_eq_ok.1 hmatch
      · exact Or.inr (Or.inr (by rw [hexchangeUuid, hlocalUuid, not_not.1 huuid]))
    · rename_i hone'
      cases hexchangeUuid : exchange.exchangeOrderId with
      | none => exact Or.inl rfl
      | some exchangeUuid =>
        cases hlocalUuid : loc.exchangeOrderId with
        | none => exact Or.inr (Or.inl rfl)
        | some localUuid => exact absurd hlocalUuid (hone' exchangeUuid localUuid hexchangeUuid)

/-- a local order matched by snapshots of two uuids ties them by the identifier -/
theorem sameIdentifier_of_matches {a b : ReconcileExchangeOrderSnapshot} {loc : ReconcileLocalOrderSnapshot}
    (ha : Matches a loc) (hb : Matches b loc) (hdifferent : DifferentUuids a b) : SameIdentifier a b := by
  have strong : ∀ {e : ReconcileExchangeOrderSnapshot}, Matches e loc → e.exchangeOrderId ≠ none → StronglyMatches e loc := by
    intro e hmatch huuid
    rcases hmatch.cases with hstrong | ⟨hidless, -⟩
    · exact hstrong
    · exact absurd hidless.1 huuid
  have hastrong := strong ha hdifferent.1
  have hbstrong := strong hb hdifferent.2.1
  have hnone : loc.exchangeOrderId = none := by
    by_contra hsome
    have hauuid := (hastrong.agree.1.resolve_left hdifferent.1).resolve_left hsome
    have hbuuid := (hbstrong.agree.1.resolve_left hdifferent.2.1).resolve_left hsome
    exact hdifferent.2.2 (hauuid.trans hbuuid.symm)
  have identified : ∀ {e : ReconcileExchangeOrderSnapshot}, StronglyMatches e loc → e.exchangeOrderId ≠ none →
      e.identifier ≠ none ∧ e.identifier = loc.identifier := by
    intro e hmatch huuid
    rcases shares_iff_ids.1 hmatch.shares.1 with ⟨-, hsame⟩ | hid
    · exact absurd (hsame.trans hnone) huuid
    · exact hid
  obtain ⟨haid, haloc⟩ := identified hastrong hdifferent.1
  obtain ⟨-, hbloc⟩ := identified hbstrong hdifferent.2.1
  exact ⟨haid, haloc.trans hbloc.symm⟩

section Run

variable {exchangeOrders : List ReconcileExchangeOrderSnapshot} {loop : ReconcileLoop}
  (hrun : exchangeOrders.zipIdx.foldlM (reconcileExchangeOrder localOpenOrders observedAt) emptyLoop = .ok loop)
  (hclean : loop.Clean)

/-- the iteration at a position has taken the local order -/
def PairedAt (localOpenOrders : List ReconcileLocalOrderSnapshot) (observedAt : String)
    (exchangeOrders : List ReconcileExchangeOrderSnapshot) (i : ℕ) (loc : ReconcileLocalOrderSnapshot) : Prop :=
  ∃ c c', (exchangeOrders.zipIdx.take i).foldlM (reconcileExchangeOrder localOpenOrders observedAt) emptyLoop = .ok c ∧
    (exchangeOrders.zipIdx.take (i + 1)).foldlM (reconcileExchangeOrder localOpenOrders observedAt) emptyLoop = .ok c' ∧
    loc.orderId ∉ c.matchedLocalIds ∧ loc.orderId ∈ c'.matchedLocalIds

/-- no local order is taken twice -/
theorem PairedAt.not_later {i j : ℕ} {loc : ReconcileLocalOrderSnapshot} (hlt : i < j)
    (hi : PairedAt localOpenOrders observedAt exchangeOrders i loc) :
    ¬ PairedAt localOpenOrders observedAt exchangeOrders j loc := by
  rintro ⟨c, -, hc, -, hunmatched, -⟩
  obtain ⟨-, c', -, hc', -, hmatched⟩ := hi
  have hsplit : exchangeOrders.zipIdx.take j =
      exchangeOrders.zipIdx.take (i + 1) ++ (exchangeOrders.zipIdx.take j).drop (i + 1) := by
    conv_lhs => rw [← List.take_append_drop (i + 1) (exchangeOrders.zipIdx.take j)]
    rw [List.take_take, min_eq_left (by omega : i + 1 ≤ j)]
  rw [hsplit] at hc
  obtain ⟨m, hm, hrest⟩ := foldlM_append_ok.1 hc
  rw [hc', Except.ok.injEq] at hm
  subst hm
  exact hunmatched ((exchangeRun_grows hrest).localIds hmatched)

include hrun hclean in
/-- in a clean run a live snapshot that shares an id with a local order matches one -/
theorem matches_of_shares {i : ℕ} {e : ReconcileExchangeOrderSnapshot} (hi : exchangeOrders[i]? = some e) (hlive : Live e)
    {loc : ReconcileLocalOrderSnapshot} (hloc : loc ∈ localOpenOrders) (hshares : Shares e loc) :
    ∃ own ∈ localOpenOrders, Matches e own := by
  obtain ⟨c, c', -, -, hquiet⟩ := quietAt hrun hclean hi hlive
  cases hquiet with
  | dropped hseen hno =>
    obtain ⟨success, hmatch, -⟩ := hshares.matches_of_noConflict (hno loc hloc)
    exact ⟨loc, hloc, success, hmatch⟩
  | paired hnew own hown hmatch => exact ⟨own, hown, hmatch⟩

/-- what makes a standing snapshot a repeat is an earlier snapshot of one of its ids -/
theorem standing_tracked (h : Distinguishable localOpenOrders exchangeOrders) {i : ℕ} {e : ReconcileExchangeOrderSnapshot}
    (hstanding : StandingAt exchangeOrders i e) {c : ReconcileLoop}
    (hc : (exchangeOrders.zipIdx.take i).foldlM (reconcileExchangeOrder localOpenOrders observedAt) emptyLoop = .ok c)
    (hseen : c.Seen e) :
    ∃ k z, StandingAt exchangeOrders k z ∧ (k = i ∨ SameUuid z e) ∧ ∃ loc ∈ localOpenOrders, Shares z loc := by
  obtain ⟨key, hkey, hmatched | hstronger⟩ := hseen
  · obtain ⟨y, hy, hlive, loc, hloc, hshares, -, hyKey | hlocKey⟩ := (exchangeRun hc).matchedKeys key hmatched
    · obtain ⟨hyAt, hlt⟩ := mem_take_zipIdx.1 hy
      by_cases hsame : SameUuid y.1 e
      · exact ⟨y.2, y.1, hstanding.earlier hlt hyAt hlive hsame, Or.inr hsame, loc, hloc, hshares⟩
      · exact h.hidden i e y.2 y.1 hstanding hlt hyAt ⟨key, hyKey, hkey⟩ fun hknown => hsame hknown.1
    · exact ⟨i, e, hstanding, Or.inl rfl, loc, hloc, shares_iff_key.2 ⟨key, hkey, hlocKey⟩⟩
  · obtain ⟨y, hy, hclosing, hbridged⟩ := ((exchangeRun hc).stronger key).1 hstronger
    obtain ⟨hyAt, hlt⟩ := mem_take_zipIdx.1 hy
    rcases mem_bridgedKeys.1 hbridged with hyKey | ⟨loc, hloc, -, hlocKey⟩
    · refine h.hidden i e y.2 y.1 hstanding hlt hyAt ⟨key, hyKey, hkey⟩ ?_
      rintro ⟨hsame, hlive | hterminal⟩
      · exact hclosing hlive
      · exact hstanding.current y.2 y.1 hlt hyAt hterminal hsame
    · exact ⟨i, e, hstanding, Or.inl rfl, loc, hloc, shares_iff_key.2 ⟨key, hkey, hlocKey⟩⟩

include hrun hclean in
/-- a standing snapshot has a local order, and one without ids has taken its own -/
theorem standing_own (h : Distinguishable localOpenOrders exchangeOrders) {i : ℕ} {e : ReconcileExchangeOrderSnapshot}
    (hstanding : StandingAt exchangeOrders i e) :
    ∃ own ∈ localOpenOrders,
      (∃ j y, StandingAt exchangeOrders j y ∧ (j = i ∨ SameUuid y e) ∧ Matches y own) ∧
      (Idless e → PairedAt localOpenOrders observedAt exchangeOrders i own) := by
  obtain ⟨c, c', hc, hc', hquiet⟩ := quietAt hrun hclean hstanding.here hstanding.live
  cases hquiet with
  | paired hnew own hown hmatch hunmatched hmatched =>
    exact ⟨own, hown, ⟨i, e, hstanding, Or.inl rfl, hmatch⟩, fun _ => ⟨c, c', hc, hc', hunmatched, hmatched⟩⟩
  | dropped hseen hno =>
    obtain ⟨k, z, hz, hsame, loc, hloc, hshares⟩ := standing_tracked h hstanding hc hseen
    obtain ⟨own, hown, hmatch⟩ := matches_of_shares hrun hclean hz.here hz.live hloc hshares
    refine ⟨own, hown, ⟨k, z, hz, hsame, hmatch⟩, fun hidless => ?_⟩
    -- without ids nothing is a repeat
    obtain ⟨key, hkey, -⟩ := hseen
    rw [keys_eq_nil_iff.2 hidless] at hkey
    cases hkey

include hrun hclean in
/-- snapshots that only their order's own uuid ties to a local order keep two uuids apart -/
theorem complete_of_distinguishable (h : Distinguishable localOpenOrders exchangeOrders) :
    Complete localOpenOrders exchangeOrders := by
  have hown : ∀ i, ∃ own : ReconcileLocalOrderSnapshot, ∀ e, StandingAt exchangeOrders i e → own ∈ localOpenOrders ∧
      (∃ j y, StandingAt exchangeOrders j y ∧ (j = i ∨ SameUuid y e) ∧ Matches y own) ∧
      (Idless e → PairedAt localOpenOrders observedAt exchangeOrders i own) := by
    intro i
    by_cases hstanding : ∃ e, StandingAt exchangeOrders i e
    · obtain ⟨e, he⟩ := hstanding
      obtain ⟨own, hmem, hrest⟩ := standing_own hrun hclean h he
      refine ⟨own, fun e' he' => ?_⟩
      obtain rfl : e = e' := Option.some.inj (he.here.symm.trans he'.here)
      exact ⟨hmem, hrest⟩
    · exact ⟨sampleOrder "" none none, fun e he => absurd ⟨e, he⟩ hstanding⟩
  choose own hown using hown
  refine ⟨⟨own, fun i e he => ⟨(hown i e he).1, (hown i e he).2.1⟩, ?_⟩, h.identifiers⟩
  intro i e j y he hy hne hdistinct heq
  obtain ⟨-, ⟨i', e', he', hsameE, hmatchE⟩, hpairE⟩ := hown i e he
  obtain ⟨-, ⟨j', y', hy', hsameY, hmatchY⟩, hpairY⟩ := hown j y hy
  rcases hdistinct with hdifferent | ⟨hidlessE, hidlessY⟩
  · -- the two uuids would meet in one local order by the identifier
    have huuidE : e'.exchangeOrderId = e.exchangeOrderId := by
      rcases hsameE with rfl | hsame
      · rw [Option.some.inj (he'.here.symm.trans he.here)]
      · exact hsame.2
    have huuidY : y'.exchangeOrderId = y.exchangeOrderId := by
      rcases hsameY with rfl | hsame
      · rw [Option.some.inj (hy'.here.symm.trans hy.here)]
      · exact hsame.2
    have hdifferent' : DifferentUuids e' y' := by
      rw [DifferentUuids, huuidE, huuidY]
      exact hdifferent
    rw [← heq] at hmatchY
    exact h.identifiers i' e' j' y' he' hy' (sameIdentifier_of_matches hmatchE hmatchY hdifferent') hdifferent'
  · have hi := hpairE hidlessE
    have hj := hpairY hidlessY
    rw [← heq] at hj
    rcases Nat.lt_or_gt_of_ne hne with hlt | hlt
    · exact hi.not_later hlt hj
    · exact hj.not_later hlt hi

/-- a complete assignment shows every hidden order to be a local one -/
theorem distinguishable_of_complete (h : Complete localOpenOrders exchangeOrders) :
    Distinguishable localOpenOrders exchangeOrders := by
  obtain ⟨⟨own, hown, -⟩, hidentifiers⟩ := h
  refine ⟨hidentifiers, ?_⟩
  intro i e j y he hlt hy hsame _
  obtain ⟨hmem, k, z, hz, hzSame, hmatch⟩ := hown i e he
  refine ⟨k, z, hz, hzSame, own i, hmem, ?_⟩
  rcases hmatch.cases with hstrong | ⟨hidless, -⟩
  · exact hstrong.shares.1
  · -- the snapshot has an id, and so has one of the same uuid
    exfalso
    rcases hzSame with rfl | hzUuid
    · obtain rfl : z = e := Option.some.inj (hz.here.symm.trans he.here)
      obtain ⟨key, -, hkey⟩ := hsame
      rw [keys_eq_nil_iff.2 hidless] at hkey
      cases hkey
    · exact hzUuid.1 hidless.1

end Run

/-- **Clean and complete.** A clean result is complete exactly when the ids tell the live orders apart. -/
theorem clean_complete_iff {input : ReconcileEngineInput} {output : ReconcileEngineOutput}
    (h : runReconcileEngine input = .ok output) (hclean : output.summary.result = .clean) :
    Complete input.localOpenOrders (allExchangeOrders input) ↔
      Distinguishable input.localOpenOrders (allExchangeOrders input) := by
  obtain ⟨orderResults, hresults, h⟩ := bind_eq_ok.1 h
  obtain ⟨balanceResult, -, h⟩ := bind_eq_ok.1 h
  obtain rfl := pure_eq_ok.1 h
  obtain ⟨exchangeLoop, hexchange, hresults⟩ := bind_eq_ok.1 hresults
  obtain ⟨localLoop, hlocal, hresults⟩ := bind_eq_ok.1 hresults
  obtain rfl := pure_eq_ok.1 hresults
  have hnone : localLoop.Clean := by
    intro result hresult
    simp only [buildSummary] at hclean
    split_ifs at hclean with hnil
    simp only [List.append_eq_nil_iff, List.flatMap_eq_nil_iff] at hnil
    exact hnil.1.1.1 result hresult
  have hcleanLoop : exchangeLoop.Clean := hnone.of_grows (localRun_grows hlocal)
  exact ⟨distinguishable_of_complete, complete_of_distinguishable hexchange hcleanLoop⟩

end Host

/-! ## Runs -/

/-- one open order, known on both sides -/
def trackedInput : ReconcileEngineInput :=
  sampleInput [sampleSnapshot .open "wait" (some "u") (some "a") "2" 1] [] [] []
    [sampleOrder "1" (some "u") (some "a")] "6"

theorem tracked_complete :
    ∃ output, runReconcileEngine trackedInput = .ok output ∧ output.summary.result = .clean ∧
      Complete trackedInput.localOpenOrders (allExchangeOrders trackedInput) := by
  obtain ⟨output, houtput⟩ := exists_ok (show (runReconcileEngine trackedInput).toOption.isSome by decide +kernel)
  have hclean : (runReconcileEngine trackedInput).toOption.map (fun output => output.summary.result) = some .clean := by
    decide +kernel
  have horders : allExchangeOrders trackedInput = [sampleSnapshot .open "wait" (some "u") (some "a") "2" 1] := by
    decide +kernel
  rw [houtput] at hclean
  have hclean : output.summary.result = .clean := by simpa [Except.toOption] using hclean
  refine ⟨output, houtput, hclean, (clean_complete_iff houtput hclean).2 ?_⟩
  rw [horders]
  refine ⟨?_, ?_⟩
  · -- one snapshot has one uuid
    intro i e j y he hy _ hdifferent
    have hsame : e = y := by
      have hei := he.here
      have hyj := hy.here
      rw [List.getElem?_singleton] at hei hyj
      split_ifs at hei hyj
      exact (Option.some.inj hei).symm.trans (Option.some.inj hyj)
    exact hdifferent.2.2 (by rw [hsame])
  · intro i e j y he hlt hy
    have hei := he.here
    rw [List.getElem?_singleton] at hei
    split_ifs at hei with hi
    omega

/-- two open orders that share an identifier, and one local order that has only the identifier -/
def twoOrdersInput : ReconcileEngineInput :=
  sampleInput [sampleSnapshot .open "wait" (some "u") (some "a") "2" 2, sampleSnapshot .open "wait" (some "v") (some "a") "2" 1]
    [] [] [] [sampleOrder "1" none (some "a")] "6"

/-- **Two orders pass for one.** The second open order is dropped as a repeat of the first one's identifier, and the
result is clean. -/
theorem two_orders_pass_for_one :
    ∃ output, runReconcileEngine twoOrdersInput = .ok output ∧ output.summary.result = .clean ∧
      ¬ Complete twoOrdersInput.localOpenOrders (allExchangeOrders twoOrdersInput) := by
  obtain ⟨output, houtput⟩ := exists_ok (show (runReconcileEngine twoOrdersInput).toOption.isSome by decide +kernel)
  have hclean : (runReconcileEngine twoOrdersInput).toOption.map (fun output => output.summary.result) = some .clean := by
    decide +kernel
  have horders : allExchangeOrders twoOrdersInput = [sampleSnapshot .open "wait" (some "u") (some "a") "2" 2,
      sampleSnapshot .open "wait" (some "v") (some "a") "2" 1] := by
    decide +kernel
  rw [houtput] at hclean
  refine ⟨output, houtput, by simpa [Except.toOption] using hclean, ?_⟩
  rw [horders]
  rintro ⟨-, hidentifiers⟩
  refine hidentifiers 0 _ 1 _ ⟨rfl, by decide, by simp⟩ ⟨rfl, by decide, ?_⟩ ⟨by decide, rfl⟩ ⟨by decide, by decide, by decide⟩
  intro j y hj hy hterminal
  obtain rfl : j = 0 := by omega
  obtain rfl := Option.some.inj hy
  exact absurd hterminal (by unfold Terminal; decide)

end SeeMirai.Reconcile
