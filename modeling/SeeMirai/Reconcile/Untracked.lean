/-
How many untracked orders a reconcile reports. The first loop records the ids of closing snapshots and of snapshots it
pairs with a local order, but not those of a snapshot it reports as untracked, so a second snapshot of that order is
reported again.

Results:
- `untracked_count`: where every live snapshot that no local order shares an id with is either the newest of an untracked
  order or is accounted for by an earlier one (`Accounted`), the number of reports is the number of untracked live orders;
  where one is neither, the number of reports is larger.
- `seen_twice_reported_twice`: an order that the open list and a lookup both show is reported twice.
-/
import SeeMirai.Reconcile.CleanCompleteness

namespace SeeMirai.Reconcile

open Fallible

/-! ## Orders of the exchange -/

/-- the snapshots at two positions share a uuid or an identifier -/
def Linked (exchangeOrders : List ReconcileExchangeOrderSnapshot) (i j : ℕ) : Prop :=
  ∃ a b, exchangeOrders[i]? = some a ∧ exchangeOrders[j]? = some b ∧ SameOrder a b

/-- the snapshots at two positions are of one order, by a chain of shared ids -/
def OneOrder (exchangeOrders : List ReconcileExchangeOrderSnapshot) : ℕ → ℕ → Prop :=
  Relation.ReflTransGen (Linked exchangeOrders)

/-- some snapshot of the order at the position shares an id with a local order -/
def TrackedAt (localOpenOrders : List ReconcileLocalOrderSnapshot) (exchangeOrders : List ReconcileExchangeOrderSnapshot)
    (i : ℕ) : Prop :=
  ∃ j e, OneOrder exchangeOrders i j ∧ exchangeOrders[j]? = some e ∧ ∃ loc ∈ localOpenOrders, Shares e loc

/-- the newest snapshot of its order -/
def NewestAt (exchangeOrders : List ReconcileExchangeOrderSnapshot) (i : ℕ) : Prop :=
  ∀ j, OneOrder exchangeOrders i j → i ≤ j

/-- an untracked live order, named by the position of its newest snapshot -/
structure UntrackedOrderAt (localOpenOrders : List ReconcileLocalOrderSnapshot)
    (exchangeOrders : List ReconcileExchangeOrderSnapshot) (i : ℕ) : Prop where
  newest : NewestAt exchangeOrders i
  untracked : ¬ TrackedAt localOpenOrders exchangeOrders i
  live : ∃ e, exchangeOrders[i]? = some e ∧ Live e ∧ ¬ Idless e

/-- a snapshot with ids that no local order has -/
def Stray (localOpenOrders : List ReconcileLocalOrderSnapshot) (e : ReconcileExchangeOrderSnapshot) : Prop :=
  ¬ Idless e ∧ ∀ loc ∈ localOpenOrders, ¬ Shares e loc

theorem shares_tracked {localOpenOrders : List ReconcileLocalOrderSnapshot}
    {exchangeOrders : List ReconcileExchangeOrderSnapshot} {i : ℕ} {e : ReconcileExchangeOrderSnapshot}
    (hi : exchangeOrders[i]? = some e) {loc : ReconcileLocalOrderSnapshot} (hloc : loc ∈ localOpenOrders)
    (hshares : Shares e loc) : TrackedAt localOpenOrders exchangeOrders i :=
  ⟨i, e, Relation.ReflTransGen.refl, hi, loc, hloc, hshares⟩

theorem NewestAt.not_linked {exchangeOrders : List ReconcileExchangeOrderSnapshot} {i j : ℕ}
    {e y : ReconcileExchangeOrderSnapshot} (h : NewestAt exchangeOrders i) (hi : exchangeOrders[i]? = some e)
    (hj : exchangeOrders[j]? = some y) (hlt : j < i) : ¬ SameOrder y e := by
  intro hsame
  have hle := h j (Relation.ReflTransGen.single ⟨e, y, hi, hj, hsame.symm⟩)
  omega

/-! ## Snapshots without ids -/

section Host

variable [Host]

/-- the terms of a snapshot without ids, as far as they read -/
def termsOf (e : ReconcileExchangeOrderSnapshot) : Option String :=
  (buildOrderFingerprint e.market e.side e.requestedQuantity e.requestedPrice).toOption

def localTermsOf (loc : ReconcileLocalOrderSnapshot) : Option String :=
  (buildOrderFingerprint loc.market loc.side loc.requestedQuantity loc.requestedPrice).toOption

instance (e : ReconcileExchangeOrderSnapshot) : Decidable (Idless e) :=
  inferInstanceAs (Decidable (_ ∧ _))

instance (loc : ReconcileLocalOrderSnapshot) : Decidable (IdlessLocal loc) :=
  inferInstanceAs (Decidable (_ ∧ _))

/-- the terms of the live snapshots without ids -/
def idlessTerms (exchangeOrders : List ReconcileExchangeOrderSnapshot) : Multiset (Option String) :=
  ↑((exchangeOrders.filter (fun e => Live e ∧ Idless e)).map termsOf)

/-- the terms of the local orders without ids that are not matched yet -/
def idlessLocalTerms (localOpenOrders : List ReconcileLocalOrderSnapshot) (matchedLocalIds : List String) :
    Multiset (Option String) :=
  ↑((localOpenOrders.filter (fun loc => IdlessLocal loc ∧ loc.orderId ∉ matchedLocalIds)).map localTermsOf)

open Classical in
/-- **The number of untracked live orders.** Snapshots that share a uuid or identifier are one order, an order is live
when its newest snapshot is, and it is untracked when no local order shares an id with any of its snapshots. A live
snapshot without ids is an order of its own; such snapshots and local orders without ids cancel out by their terms. -/
noncomputable def untrackedOrderCount (localOpenOrders : List ReconcileLocalOrderSnapshot)
    (exchangeOrders : List ReconcileExchangeOrderSnapshot) : ℕ :=
  ((Finset.range exchangeOrders.length).filter (UntrackedOrderAt localOpenOrders exchangeOrders)).card +
    (idlessTerms exchangeOrders - idlessLocalTerms localOpenOrders []).card

/-! ## Counting reports -/

/-- the untracked reports so far -/
def ReconcileLoop.untrackedReports (loop : ReconcileLoop) : ℕ :=
  countMismatches (loop.results.flatMap OrderPairReconcileResult.mismatches) .untrackedExchangeOpenOrder

omit [Host] in
theorem countMismatches_append (a b : List ReconcileMismatchEvidence) (mismatchType : ReconcileMismatchType) :
    countMismatches (a ++ b) mismatchType = countMismatches a mismatchType + countMismatches b mismatchType := by
  simp [countMismatches]

omit [Host] in
theorem countMismatches_eq_zero {mismatches : List ReconcileMismatchEvidence} {mismatchType : ReconcileMismatchType}
    (h : ∀ mismatch ∈ mismatches, mismatch.mismatchType ≠ mismatchType) : countMismatches mismatches mismatchType = 0 := by
  simpa [countMismatches, List.filter_eq_nil_iff] using h

omit [Host] in
theorem untrackedReports_report (loop : ReconcileLoop) (result : OrderPairReconcileResult) :
    ReconcileLoop.untrackedReports { loop with results := loop.results ++ [result] } =
      loop.untrackedReports + countMismatches result.mismatches .untrackedExchangeOpenOrder := by
  simp [ReconcileLoop.untrackedReports, countMismatches_append]

omit [Host] in
theorem untrackedReports_pair (loop : ReconcileLoop) (exchange : ReconcileExchangeOrderSnapshot) (index : ℕ)
    (loc : ReconcileLocalOrderSnapshot) (result : OrderPairReconcileResult) :
    (loop.pair exchange index loc result).untrackedReports =
      loop.untrackedReports + countMismatches result.mismatches .untrackedExchangeOpenOrder := by
  simp [ReconcileLoop.untrackedReports, ReconcileLoop.pair, countMismatches_append]

variable {localOpenOrders : List ReconcileLocalOrderSnapshot} {observedAt : String}

theorem pairMismatches_types {exchange : ReconcileExchangeOrderSnapshot} {loc : ReconcileLocalOrderSnapshot}
    {identity : IdentityMatchSuccess} :
    ∀ mismatch ∈ pairMismatches exchange loc identity observedAt,
      mismatch.mismatchType ≠ .untrackedExchangeOpenOrder := by
  intro mismatch hmismatch
  simp only [pairMismatches, List.mem_append] at hmismatch
  rcases hmismatch with (hcancel | hstate) | hfill
  · split_ifs at hcancel
    · rw [List.mem_singleton.1 hcancel]
      exact ReconcileMismatchType.noConfusion
    · cases hcancel
  · split_ifs at hstate
    · rw [List.mem_singleton.1 hstate]
      exact ReconcileMismatchType.noConfusion
    · cases hstate
  · split at hfill
    · split_ifs at hfill
      · cases hfill
      · rw [List.mem_singleton.1 hfill]
        exact ReconcileMismatchType.noConfusion
    · cases hfill

/-- a matched pair is no untracked order -/
theorem evaluateMatchedPair_untracked {exchange : ReconcileExchangeOrderSnapshot} {loc : ReconcileLocalOrderSnapshot}
    {identity : IdentityMatchSuccess} {result : OrderPairReconcileResult}
    (h : evaluateMatchedPair exchange loc identity observedAt = .ok result) :
    countMismatches result.mismatches .untrackedExchangeOpenOrder = 0 := by
  obtain ⟨candidate, -, h⟩ := bind_eq_ok.1 h
  obtain rfl := pure_eq_ok.1 h
  have hblocked : ∀ (candidate : ReconcileStateAdvancementCandidate) (reasonCode : String),
      countMismatches (pairMismatches exchange loc identity observedAt ++
        [createOrderStateAdvancementBlockedMismatch exchange loc identity candidate.targetLocalStatus observedAt reasonCode])
        .untrackedExchangeOpenOrder = 0 := by
    intro candidate reasonCode
    rw [countMismatches_append, countMismatches_eq_zero pairMismatches_types]
    rfl
  cases candidate with
  | none => exact countMismatches_eq_zero pairMismatches_types
  | some candidate =>
    dsimp only
    split_ifs
    · exact hblocked candidate _
    · exact hblocked candidate _
    · exact countMismatches_eq_zero pairMismatches_types

theorem createIdentityConflictResult_untracked {exchange : ReconcileExchangeOrderSnapshot}
    {loc : ReconcileLocalOrderSnapshot} {failure : IdentityMatchFailure} {result : OrderPairReconcileResult}
    (h : createIdentityConflictResult exchange loc failure observedAt = .ok result) :
    countMismatches result.mismatches .untrackedExchangeOpenOrder = 0 := by
  obtain ⟨identity, -, h⟩ := bind_eq_ok.1 h
  obtain rfl := pure_eq_ok.1 h
  rfl

theorem LocalStep.untrackedReports {exchangeOrders : List (ReconcileExchangeOrderSnapshot × ℕ)}
    {loc : ReconcileLocalOrderSnapshot} {loop loop' : ReconcileLoop}
    (h : LocalStep observedAt loop exchangeOrders loc loop') : loop'.untrackedReports = loop.untrackedReports := by
  cases h with
  | known => rfl
  | missing => exact untrackedReports_report _ _
  | matched _ _ _ _ _ _ _ _ _ _ hresult =>
    rw [untrackedReports_pair, evaluateMatchedPair_untracked hresult]
    rfl
  | conflict _ _ _ _ _ _ hresult =>
    rw [untrackedReports_pair, createIdentityConflictResult_untracked hresult]
    rfl

/-- the iteration reported an untracked order -/
inductive Reports (localOpenOrders : List ReconcileLocalOrderSnapshot) (loop : ReconcileLoop)
    (e : ReconcileExchangeOrderSnapshot) : Prop where
  | intro (hlive : Live e) (hnew : ¬ loop.Seen e)
      (hnone : ∀ other ∈ localOpenOrders, other.orderId ∉ loop.matchedLocalIds → NoMatch e other ∧ NoConflict e other)
      (hterms : Idless e → termsOf e ≠ none)

theorem createUntrackedExchangeOrderMismatch_terms {e : ReconcileExchangeOrderSnapshot} {index : ℕ}
    {mismatch : ReconcileMismatchEvidence} (h : createUntrackedExchangeOrderMismatch e observedAt index = .ok mismatch)
    (hidless : Idless e) : termsOf e ≠ none := by
  obtain ⟨identity, hidentity, -⟩ := bind_eq_ok.1 h
  unfold describeExchangeOrderIdentity at hidentity
  rw [hidless.1, hidless.2] at hidentity
  obtain ⟨fingerprint, hfingerprint, -⟩ := bind_eq_ok.1 hidentity
  simp [termsOf, hfingerprint, Except.toOption]

theorem ExchangeStep.untrackedReports {entry : ReconcileExchangeOrderSnapshot × ℕ} {loop loop' : ReconcileLoop}
    (h : ExchangeStep localOpenOrders observedAt loop entry loop') :
    (loop'.untrackedReports = loop.untrackedReports + 1 ∧ Reports localOpenOrders loop entry.1 ∧
        loop'.matchedLocalIds = loop.matchedLocalIds) ∨
      loop'.untrackedReports = loop.untrackedReports := by
  cases h with
  | closing => exact Or.inr rfl
  | repeated => exact Or.inr rfl
  | untracked hlive hnew mismatch hnone hmismatch =>
    refine Or.inl ⟨?_, ⟨hlive, hnew, hnone, createUntrackedExchangeOrderMismatch_terms hmismatch⟩, rfl⟩
    obtain ⟨identity, -, hmismatch⟩ := bind_eq_ok.1 hmismatch
    obtain rfl := pure_eq_ok.1 hmismatch
    exact untrackedReports_report _ _
  | matched _ _ _ _ _ _ _ _ _ _ _ hresult =>
    right
    rw [untrackedReports_pair, evaluateMatchedPair_untracked hresult]
    rfl
  | conflict _ _ _ _ _ _ _ _ _ hresult =>
    right
    rw [untrackedReports_pair, createIdentityConflictResult_untracked hresult]
    rfl
  | repeatedConflict _ _ _ _ _ _ _ hresult =>
    right
    rw [untrackedReports_pair, createIdentityConflictResult_untracked hresult]
    rfl

/-- a live snapshot that is no repeat and that no local order matches or contradicts is reported -/
theorem ExchangeStep.reported {entry : ReconcileExchangeOrderSnapshot × ℕ} {loop loop' : ReconcileLoop}
    (h : ExchangeStep localOpenOrders observedAt loop entry loop') (hlive : Live entry.1) (hnew : ¬ loop.Seen entry.1)
    (hstray : Stray localOpenOrders entry.1) : loop'.untrackedReports = loop.untrackedReports + 1 := by
  cases h with
  | closing hnot => exact absurd hlive hnot
  | repeated _ hseen => exact absurd hseen hnew
  | repeatedConflict _ hseen => exact absurd hseen hnew
  | conflict _ _ loc _ _ hloc _ hconflict => exact absurd hconflict.shares (hstray.2 loc hloc)
  | matched _ _ loc success _ _ _ hsplit _ hmatch =>
    rcases Matches.cases ⟨success, hmatch⟩ with hstrong | ⟨hidless, -⟩
    · exact absurd hstrong.shares.1 (hstray.2 loc (mem_of_split hsplit))
    · exact absurd hidless hstray.1
  | untracked _ _ mismatch _ hmismatch =>
    obtain ⟨identity, -, hmismatch⟩ := bind_eq_ok.1 hmismatch
    obtain rfl := pure_eq_ok.1 hmismatch
    exact untrackedReports_report _ _

/-- the ids of every matched local order are recorded -/
def LocalsRecorded (localOpenOrders : List ReconcileLocalOrderSnapshot) (loop : ReconcileLoop) : Prop :=
  ∀ loc ∈ localOpenOrders, loc.orderId ∈ loop.matchedLocalIds →
    ∀ key ∈ getStrongLocalIdentityKeys loc, key ∈ loop.matchedExchangeIdentityKeys

omit [Host] in
theorem LocalsRecorded.pair (hunique : (localOpenOrders.map ReconcileLocalOrderSnapshot.orderId).Nodup)
    {loop : ReconcileLoop} (h : LocalsRecorded localOpenOrders loop) {exchange : ReconcileExchangeOrderSnapshot}
    {index : ℕ} {loc : ReconcileLocalOrderSnapshot} (hloc : loc ∈ localOpenOrders) (result : OrderPairReconcileResult) :
    LocalsRecorded localOpenOrders (loop.pair exchange index loc result) := by
  intro other hother hmatched key hkey
  rw [ReconcileLoop.mem_pair_keys]
  rcases List.mem_append.1 hmatched with hold | hnew
  · exact Or.inl (h other hother hold key hkey)
  · obtain rfl := List.inj_on_of_nodup_map hunique hother hloc (List.mem_singleton.1 hnew)
    exact Or.inr (Or.inr hkey)

theorem LocalsRecorded.step (hunique : (localOpenOrders.map ReconcileLocalOrderSnapshot.orderId).Nodup)
    {loop loop' : ReconcileLoop} (h : LocalsRecorded localOpenOrders loop) {entry : ReconcileExchangeOrderSnapshot × ℕ}
    (hstep : ExchangeStep localOpenOrders observedAt loop entry loop') : LocalsRecorded localOpenOrders loop' := by
  cases hstep with
  | closing => exact h
  | repeated => exact h
  | untracked => exact h
  | repeatedConflict _ _ loc _ result hloc => exact h.pair hunique hloc result
  | conflict _ _ loc _ result hloc => exact h.pair hunique hloc result
  | matched _ _ loc _ result _ _ hsplit => exact h.pair hunique (mem_of_split hsplit) result

/-- what is reported shares no id with a local order -/
theorem Reports.not_shares {loop : ReconcileLoop} {e : ReconcileExchangeOrderSnapshot}
    (h : Reports localOpenOrders loop e) (hrecorded : LocalsRecorded localOpenOrders loop) :
    ∀ loc ∈ localOpenOrders, ¬ Shares e loc := by
  intro loc hloc hshares
  obtain ⟨-, hnew, hnone, -⟩ := h
  by_cases hmatched : loc.orderId ∈ loop.matchedLocalIds
  · obtain ⟨key, hkey, hlocKey⟩ := shares_iff_key.1 hshares
    exact hnew ⟨key, hkey, Or.inl (hrecorded loc hloc hmatched key hlocKey)⟩
  · obtain ⟨hnomatch, hnoconflict⟩ := hnone loc hloc hmatched
    obtain ⟨success, hmatch, -⟩ := hshares.matches_of_noConflict hnoconflict
    exact hnomatch.not_matches ⟨success, hmatch⟩

/-! ## The first loop as a sequence of states -/

/-- the states of the first loop, with what they have recorded -/
structure ExchangeStates (localOpenOrders : List ReconcileLocalOrderSnapshot) (observedAt : String)
    (exchangeOrders : List ReconcileExchangeOrderSnapshot) (state : ℕ → ReconcileLoop) : Prop where
  start : state 0 = emptyLoop
  step : ∀ i e, exchangeOrders[i]? = some e → ExchangeStep localOpenOrders observedAt (state i) (e, i) (state (i + 1))
  run : ∀ i, ExchangeRun localOpenOrders (exchangeOrders.zipIdx.take i) (state i)
  recorded : ∀ i, LocalsRecorded localOpenOrders (state i)

theorem exchangeStates (hunique : (localOpenOrders.map ReconcileLocalOrderSnapshot.orderId).Nodup)
    {exchangeOrders : List ReconcileExchangeOrderSnapshot} {loop : ReconcileLoop}
    (h : exchangeOrders.zipIdx.foldlM (reconcileExchangeOrder localOpenOrders observedAt) emptyLoop = .ok loop) :
    ∃ state, ExchangeStates localOpenOrders observedAt exchangeOrders state ∧ state exchangeOrders.length = loop := by
  obtain ⟨state, hstart, hlast, hinitial, hstep⟩ := foldlM_states h
  refine ⟨state, ⟨hstart, ?_, fun i => exchangeRun (hinitial i), ?_⟩, by simpa using hlast⟩
  · intro i e hi
    exact exchangeStep (hstep i (e, i) (by rw [List.getElem?_zipIdx, hi]; simp))
  · intro i
    refine foldlM_keeps (LocalsRecorded localOpenOrders) (fun _ _ _ _ hs hrecorded => ?_) (hinitial i) ?_
    · exact hrecorded.step hunique (exchangeStep hs)
    · simp [LocalsRecorded, emptyLoop]

section States

variable {exchangeOrders : List ReconcileExchangeOrderSnapshot} {state : ℕ → ReconcileLoop}
  (h : ExchangeStates localOpenOrders observedAt exchangeOrders state)

/-- the snapshot at the position is reported as untracked -/
def ReportedAt (state : ℕ → ReconcileLoop) (i : ℕ) : Prop :=
  (state (i + 1)).untrackedReports = (state i).untrackedReports + 1

include h

theorem ExchangeStates.reports {i : ℕ} {e : ReconcileExchangeOrderSnapshot} (hi : exchangeOrders[i]? = some e)
    (hreported : ReportedAt state i) :
    Reports localOpenOrders (state i) e ∧ (state (i + 1)).matchedLocalIds = (state i).matchedLocalIds := by
  rcases (h.step i e hi).untrackedReports with ⟨-, hreports, hids⟩ | hsame
  · exact ⟨hreports, hids⟩
  · unfold ReportedAt at hreported
    omega

open Classical in
/-- the reports of the first positions -/
theorem ExchangeStates.count {n : ℕ} (hn : n ≤ exchangeOrders.length) :
    (state n).untrackedReports = ((Finset.range n).filter (ReportedAt state)).card := by
  induction n with
  | zero =>
    rw [h.start]
    rfl
  | succ n ih =>
    have hat : exchangeOrders[n]? = some exchangeOrders[n] := List.getElem?_eq_getElem (by omega)
    rw [Finset.range_add_one, Finset.filter_insert]
    by_cases hreported : ReportedAt state n
    · rw [if_pos hreported, Finset.card_insert_of_notMem (by simp), ← ih (by omega)]
      exact hreported
    · rw [if_neg hreported, ← ih (by omega)]
      rcases (h.step n _ hat).untrackedReports with ⟨hplus, -⟩ | hsame
      · exact absurd hplus hreported
      · exact hsame

/-- an id that makes a stray snapshot a repeat is carried by an earlier snapshot that closes, or is live and tracked -/
theorem ExchangeStates.seen_stray {i : ℕ} {e : ReconcileExchangeOrderSnapshot} (hstray : Stray localOpenOrders e)
    (hseen : (state i).Seen e) :
    ∃ j y, j < i ∧ exchangeOrders[j]? = some y ∧ SameOrder y e ∧ (¬ Live y ∨ ∃ loc ∈ localOpenOrders, Shares y loc) := by
  obtain ⟨key, hkey, hmatched | hstronger⟩ := hseen
  · obtain ⟨y, hy, -, loc, hloc, hshares, -, hyKey | hlocKey⟩ := (h.run i).matchedKeys key hmatched
    · obtain ⟨hyAt, hlt⟩ := mem_take_zipIdx.1 hy
      exact ⟨y.2, y.1, hlt, hyAt, ⟨key, hyKey, hkey⟩, Or.inr ⟨loc, hloc, hshares⟩⟩
    · exact absurd (shares_iff_key.2 ⟨key, hkey, hlocKey⟩) (hstray.2 loc hloc)
  · obtain ⟨y, hy, hclosing, hbridged⟩ := ((h.run i).stronger key).1 hstronger
    obtain ⟨hyAt, hlt⟩ := mem_take_zipIdx.1 hy
    rcases mem_bridgedKeys.1 hbridged with hyKey | ⟨loc, hloc, -, hlocKey⟩
    · exact ⟨y.2, y.1, hlt, hyAt, ⟨key, hyKey, hkey⟩, Or.inl hclosing⟩
    · exact absurd (shares_iff_key.2 ⟨key, hkey, hlocKey⟩) (hstray.2 loc hloc)

/-- a live stray snapshot that nothing earlier accounts for is reported -/
theorem ExchangeStates.reported_stray {i : ℕ} {e : ReconcileExchangeOrderSnapshot} (hi : exchangeOrders[i]? = some e)
    (hlive : Live e) (hstray : Stray localOpenOrders e)
    (hnone : ∀ j y, j < i → exchangeOrders[j]? = some y → SameOrder y e →
      Live y ∧ ∀ loc ∈ localOpenOrders, ¬ Shares y loc) : ReportedAt state i := by
  refine (h.step i e hi).reported hlive (fun hseen => ?_) hstray
  obtain ⟨j, y, hlt, hy, hsame, hclosing | ⟨loc, hloc, hshares⟩⟩ := h.seen_stray hstray hseen
  · exact hclosing (hnone j y hlt hy hsame).1
  · exact (hnone j y hlt hy hsame).2 loc hloc hshares

/-- every untracked live order is reported at its newest snapshot -/
theorem ExchangeStates.reported_untracked {i : ℕ} (horder : UntrackedOrderAt localOpenOrders exchangeOrders i) :
    ReportedAt state i := by
  obtain ⟨e, hi, hlive, hids⟩ := horder.live
  have hstray : Stray localOpenOrders e :=
    ⟨hids, fun loc hloc hshares => horder.untracked (shares_tracked hi hloc hshares)⟩
  refine h.reported_stray hi hlive hstray fun j y hlt hy hsame => ?_
  exact absurd hsame (horder.newest.not_linked hi hy hlt)

theorem ExchangeStates.grows {i j : ℕ} (hle : i ≤ j) (hj : j ≤ exchangeOrders.length) : (state i).Grows (state j) := by
  induction j, hle using Nat.le_induction with
  | base => exact ReconcileLoop.Grows.refl _
  | succ j hle ih =>
    have hat : exchangeOrders[j]? = some exchangeOrders[j] := List.getElem?_eq_getElem (by omega)
    exact (ih (by omega)).trans (h.step j _ hat).grows

end States

/-! ## Accounted snapshots -/

/-- the live snapshot leaves its ids behind: it contradicts a local order, or it shares an id with one and no earlier
snapshot accounts for an id of it -/
def RecordsAt (localOpenOrders : List ReconcileLocalOrderSnapshot) (exchangeOrders : List ReconcileExchangeOrderSnapshot)
    (j : ℕ) (y : ReconcileExchangeOrderSnapshot) : Prop :=
  Live y ∧ ((∃ loc ∈ localOpenOrders, Conflicts y loc) ∨ ((∃ loc ∈ localOpenOrders, Shares y loc) ∧
    ∀ k z, k < j → exchangeOrders[k]? = some z → (¬ Live z ∨ ∃ loc ∈ localOpenOrders, Shares z loc) →
      ∀ key ∈ getStrongExchangeIdentityKeys y, key ∉ bridgedKeys localOpenOrders z))

/-- every live stray snapshot is the newest of an untracked order, or an earlier snapshot of one of its ids closes or
leaves its ids behind -/
def Accounted (localOpenOrders : List ReconcileLocalOrderSnapshot)
    (exchangeOrders : List ReconcileExchangeOrderSnapshot) : Prop :=
  ∀ i e, exchangeOrders[i]? = some e → Live e → Stray localOpenOrders e →
    UntrackedOrderAt localOpenOrders exchangeOrders i ∨
      ∃ j y, j < i ∧ exchangeOrders[j]? = some y ∧ SameOrder y e ∧
        (¬ Live y ∨ RecordsAt localOpenOrders exchangeOrders j y)

/-- some live stray snapshot is neither, whatever the earlier live snapshots of tracked orders do -/
def Unaccounted (localOpenOrders : List ReconcileLocalOrderSnapshot)
    (exchangeOrders : List ReconcileExchangeOrderSnapshot) : Prop :=
  ∃ i e, exchangeOrders[i]? = some e ∧ Live e ∧ Stray localOpenOrders e ∧
    ¬ UntrackedOrderAt localOpenOrders exchangeOrders i ∧
    ∀ j y, j < i → exchangeOrders[j]? = some y → SameOrder y e → Live y ∧ ∀ loc ∈ localOpenOrders, ¬ Shares y loc

section Count

variable {exchangeOrders : List ReconcileExchangeOrderSnapshot} {state : ℕ → ReconcileLoop}
  (h : ExchangeStates localOpenOrders observedAt exchangeOrders state)

include h

theorem ExchangeStates.not_seen_fresh {j : ℕ} {y : ReconcileExchangeOrderSnapshot}
    (hfresh : ∀ k z, k < j → exchangeOrders[k]? = some z → (¬ Live z ∨ ∃ loc ∈ localOpenOrders, Shares z loc) →
      ∀ key ∈ getStrongExchangeIdentityKeys y, key ∉ bridgedKeys localOpenOrders z) : ¬ (state j).Seen y := by
  rintro ⟨key, hkey, hmatched | hstronger⟩
  · obtain ⟨z, hz, -, loc, hloc, hshares, -, hkeys⟩ := (h.run j).matchedKeys key hmatched
    obtain ⟨hzAt, hlt⟩ := mem_take_zipIdx.1 hz
    refine hfresh z.2 z.1 hlt hzAt (Or.inr ⟨loc, hloc, hshares⟩) key hkey (mem_bridgedKeys.2 ?_)
    rcases hkeys with hzKey | hlocKey
    · exact Or.inl hzKey
    · exact Or.inr ⟨loc, hloc, hshares, hlocKey⟩
  · obtain ⟨z, hz, hclosing, hbridged⟩ := ((h.run j).stronger key).1 hstronger
    obtain ⟨hzAt, hlt⟩ := mem_take_zipIdx.1 hz
    exact hfresh z.2 z.1 hlt hzAt (Or.inl hclosing) key hkey hbridged

theorem ExchangeStates.records {j : ℕ} {y : ReconcileExchangeOrderSnapshot} (hj : exchangeOrders[j]? = some y)
    (hrecords : RecordsAt localOpenOrders exchangeOrders j y) :
    ∀ key ∈ getStrongExchangeIdentityKeys y, key ∈ (state (j + 1)).matchedExchangeIdentityKeys := by
  intro key hkey
  obtain ⟨hlive, hwhy⟩ := hrecords
  have hshares : ∃ loc ∈ localOpenOrders, Shares y loc := by
    rcases hwhy with ⟨loc, hloc, hconflict⟩ | ⟨hshares, -⟩
    · exact ⟨loc, hloc, hconflict.shares⟩
    · exact hshares
  have hpair : ∀ (loc : ReconcileLocalOrderSnapshot) (result : OrderPairReconcileResult),
      state (j + 1) = (state j).pair y j loc result → key ∈ (state (j + 1)).matchedExchangeIdentityKeys := by
    intro loc result hstate
    rw [hstate]
    exact ReconcileLoop.mem_pair_keys.2 (Or.inr (Or.inl hkey))
  have hstep := h.step j y hj
  generalize state (j + 1) = next at hstep hpair
  cases hstep with
  | closing hnot => exact absurd hlive hnot
  | repeated _ hseen hno =>
    rcases hwhy with ⟨loc, hloc, hconflict⟩ | ⟨-, hfresh⟩
    · exact absurd hconflict (hno loc hloc).not_conflicts
    · exact absurd hseen (h.not_seen_fresh hfresh)
  | untracked _ hnew _ hnone hmismatch =>
    obtain ⟨loc, hloc, hshares⟩ := hshares
    have hreported : Reports localOpenOrders (state j) y :=
      ⟨hlive, hnew, hnone, createUntrackedExchangeOrderMismatch_terms hmismatch⟩
    exact absurd hshares (hreported.not_shares (h.recorded j) loc hloc)
  | repeatedConflict _ _ loc _ result => exact hpair loc result rfl
  | conflict _ _ loc _ result => exact hpair loc result rfl
  | matched _ _ loc _ result => exact hpair loc result rfl

/-- where every stray snapshot is accounted for, what is reported is the newest snapshot of an untracked order -/
theorem ExchangeStates.untracked_of_reported (haccounted : Accounted localOpenOrders exchangeOrders) {i : ℕ}
    {e : ReconcileExchangeOrderSnapshot} (hi : exchangeOrders[i]? = some e) (hids : ¬ Idless e)
    (hreported : ReportedAt state i) : UntrackedOrderAt localOpenOrders exchangeOrders i := by
  obtain ⟨hreports, -⟩ := h.reports hi hreported
  have hstray : Stray localOpenOrders e := ⟨hids, hreports.not_shares (h.recorded i)⟩
  obtain ⟨hlive, hnew, -, -⟩ := hreports
  rcases haccounted i e hi hlive hstray with horder | ⟨j, y, hlt, hy, ⟨key, hyKey, hkey⟩, hclosing | hrecords⟩
  · exact horder
  · have hstronger : key ∈ (state i).strongerExchangeIdentityKeys :=
      ((h.run i).stronger key).2 ⟨(y, j), mem_take_zipIdx.2 ⟨hy, hlt⟩, hclosing, mem_bridgedKeys.2 (Or.inl hyKey)⟩
    exact absurd ⟨key, hkey, Or.inr hstronger⟩ hnew
  · have hlength : i < exchangeOrders.length := (List.getElem?_eq_some_iff.1 hi).1
    have hmatched := (h.grows (Nat.succ_le_of_lt hlt) hlength.le).matchedKeys (h.records hy hrecords key hyKey)
    exact absurd ⟨key, hkey, Or.inl hmatched⟩ hnew

end Count

/-! ## Reports of snapshots without ids -/

omit [Host] in
theorem sub_cons_mem {α : Type} [DecidableEq α] {a : α} {s t : Multiset α} (h : a ∈ t - s) :
    (a ::ₘ s) - t = s - t ∧ t - (a ::ₘ s) = (t - s).erase a := by
  have hcount : s.count a < t.count a := by
    have hpos := Multiset.count_pos.2 h
    rw [Multiset.count_sub] at hpos
    omega
  constructor
  · ext b
    rw [Multiset.count_sub, Multiset.count_sub, Multiset.count_cons]
    split_ifs with hb
    · subst hb
      omega
    · rfl
  · ext b
    rw [Multiset.count_sub, Multiset.count_cons]
    by_cases hb : b = a
    · subst hb
      rw [Multiset.count_erase_self, Multiset.count_sub]
      simp only [if_true]
      omega
    · rw [Multiset.count_erase_of_ne hb, Multiset.count_sub, if_neg hb, Nat.add_zero]

omit [Host] in
theorem sub_cons_not_mem {α : Type} [DecidableEq α] {a : α} {s t : Multiset α} (h : a ∉ t - s) :
    (a ::ₘ s) - t = a ::ₘ (s - t) ∧ t - (a ::ₘ s) = t - s := by
  have hcount : t.count a ≤ s.count a := by
    have hzero := Multiset.count_eq_zero.2 h
    rw [Multiset.count_sub] at hzero
    omega
  constructor
  · ext b
    rw [Multiset.count_sub, Multiset.count_cons, Multiset.count_cons, Multiset.count_sub]
    split_ifs with hb
    · subst hb
      omega
    · rfl
  · ext b
    rw [Multiset.count_sub, Multiset.count_sub, Multiset.count_cons]
    split_ifs with hb
    · subst hb
      omega
    · rfl

/-- two sides without ids match exactly by equal terms -/
theorem idless_terms {e : ReconcileExchangeOrderSnapshot} {loc : ReconcileLocalOrderSnapshot} (he : Idless e)
    (hloc : IdlessLocal loc) {result : IdentityMatchResult} (h : matchOrderIdentity e loc = .ok result) :
    (∃ success, result = .matched success) ↔ termsOf e = localTermsOf loc := by
  rcases matchOrderIdentity_cases h with ⟨hshares, -⟩ | ⟨-, -, hprint⟩ | ⟨-, hnot, -⟩
  · exact absurd hshares (he.not_shares loc)
  · obtain ⟨exchangeFp, hexchange, hprint⟩ := bind_eq_ok.1 hprint
    obtain ⟨localFp, hlocal, hprint⟩ := bind_eq_ok.1 hprint
    obtain rfl := pure_eq_ok.1 hprint
    simp only [termsOf, localTermsOf, hexchange, hlocal, Except.toOption, Option.some.injEq]
    split_ifs with hsame
    · simp [hsame]
    · simp [hsame]
  · exact absurd ⟨he, hloc⟩ hnot

omit [Host] in
/-- taking a local order that has ids leaves the others alone -/
theorem idless_filter_pair (hunique : (localOpenOrders.map ReconcileLocalOrderSnapshot.orderId).Nodup)
    {loc : ReconcileLocalOrderSnapshot} (hloc : loc ∈ localOpenOrders) (hids : ¬ IdlessLocal loc) (matched : List String) :
    localOpenOrders.filter (fun other => IdlessLocal other ∧ other.orderId ∉ matched ++ [loc.orderId]) =
      localOpenOrders.filter (fun other => IdlessLocal other ∧ other.orderId ∉ matched) := by
  refine List.filter_congr fun other hother => ?_
  rw [decide_eq_decide]
  refine and_congr_right fun hidless => ?_
  rw [List.mem_append, List.mem_singleton, not_or, and_iff_left_iff_imp]
  rintro - hsame
  exact hids (List.inj_on_of_nodup_map hunique hother hloc hsame ▸ hidless)

theorem idlessLocalTerms_pair_ids (hunique : (localOpenOrders.map ReconcileLocalOrderSnapshot.orderId).Nodup)
    {loc : ReconcileLocalOrderSnapshot} (hloc : loc ∈ localOpenOrders) (hids : ¬ IdlessLocal loc) (matched : List String) :
    idlessLocalTerms localOpenOrders (matched ++ [loc.orderId]) = idlessLocalTerms localOpenOrders matched := by
  rw [idlessLocalTerms, idlessLocalTerms, idless_filter_pair hunique hloc hids]

/-- taking a local order without ids takes its terms -/
theorem idlessLocalTerms_pair (hunique : (localOpenOrders.map ReconcileLocalOrderSnapshot.orderId).Nodup)
    {loc : ReconcileLocalOrderSnapshot} (hloc : loc ∈ localOpenOrders) (hidless : IdlessLocal loc) {matched : List String}
    (hunmatched : loc.orderId ∉ matched) :
    idlessLocalTerms localOpenOrders (matched ++ [loc.orderId]) =
      (idlessLocalTerms localOpenOrders matched).erase (localTermsOf loc) := by
  have hnodup : localOpenOrders.Nodup := List.Nodup.of_map _ hunique
  have hmem : loc ∈ localOpenOrders.filter (fun other => IdlessLocal other ∧ other.orderId ∉ matched) := by
    simp [hloc, hidless, hunmatched]
  have hfilter : localOpenOrders.filter (fun other => IdlessLocal other ∧ other.orderId ∉ matched ++ [loc.orderId]) =
      (localOpenOrders.filter (fun other => IdlessLocal other ∧ other.orderId ∉ matched)).erase loc := by
    rw [(hnodup.filter _).erase_eq_filter, List.filter_filter]
    refine List.filter_congr fun other hother => ?_
    have hsame : other.orderId = loc.orderId ↔ other = loc :=
      ⟨List.inj_on_of_nodup_map hunique hother hloc, fun h => by rw [h]⟩
    simp only [List.mem_append, List.mem_singleton, not_or, hsame, Bool.decide_and, decide_not]
    grind
  rw [idlessLocalTerms, idlessLocalTerms, hfilter]
  exact Multiset.map_erase_of_mem localTermsOf _ (Multiset.mem_coe.2 hmem)

/-- an iteration over a live snapshot without ids reports it, or takes a local order of its terms -/
theorem ExchangeStep.idless {entry : ReconcileExchangeOrderSnapshot × ℕ} {loop loop' : ReconcileLoop}
    (h : ExchangeStep localOpenOrders observedAt loop entry loop')
    (hunique : (localOpenOrders.map ReconcileLocalOrderSnapshot.orderId).Nodup) (hlive : Live entry.1)
    (hidless : Idless entry.1) :
    (loop'.untrackedReports = loop.untrackedReports + 1 ∧ loop'.matchedLocalIds = loop.matchedLocalIds ∧
        termsOf entry.1 ∉ idlessLocalTerms localOpenOrders loop.matchedLocalIds) ∨
      (loop'.untrackedReports = loop.untrackedReports ∧
        termsOf entry.1 ∈ idlessLocalTerms localOpenOrders loop.matchedLocalIds ∧
        idlessLocalTerms localOpenOrders loop'.matchedLocalIds =
          (idlessLocalTerms localOpenOrders loop.matchedLocalIds).erase (termsOf entry.1)) := by
  have hnotSeen : ¬ loop.Seen entry.1 := by
    rintro ⟨key, hkey, -⟩
    rw [keys_eq_nil_iff.2 hidless] at hkey
    cases hkey
  cases h with
  | closing hnot => exact absurd hlive hnot
  | repeated _ hseen => exact absurd hseen hnotSeen
  | repeatedConflict _ hseen => exact absurd hseen hnotSeen
  | conflict _ _ loc _ _ _ _ hconflict => exact absurd hconflict.shares (hidless.not_shares loc)
  | untracked _ _ mismatch hnone hmismatch =>
    refine Or.inl ⟨?_, rfl, ?_⟩
    · obtain ⟨identity, -, hmismatch⟩ := bind_eq_ok.1 hmismatch
      obtain rfl := pure_eq_ok.1 hmismatch
      exact untrackedReports_report _ _
    · -- a local order of these terms would have been a match
      intro hmem
      obtain ⟨loc, hloc, hterms⟩ := List.mem_map.1 (Multiset.mem_coe.1 hmem)
      simp only [List.mem_filter, decide_eq_true_eq] at hloc
      obtain ⟨failure, hfailed⟩ := (hnone loc hloc.1 hloc.2.2).1
      obtain ⟨success, hmatched⟩ := (idless_terms hidless hloc.2.1 hfailed).2 hterms.symm
      cases hmatched
  | matched _ _ loc success result _ _ hsplit hunmatched hmatch _ hresult =>
    have hloc : loc ∈ localOpenOrders := mem_of_split hsplit
    have hidlessLocal : IdlessLocal loc := by
      rcases Matches.cases ⟨success, hmatch⟩ with hstrong | ⟨-, hidlessLocal⟩
      · exact absurd hstrong.shares.1 (hidless.not_shares loc)
      · exact hidlessLocal
    have hterms : termsOf entry.1 = localTermsOf loc := (idless_terms hidless hidlessLocal hmatch).1 ⟨success, rfl⟩
    refine Or.inr ⟨?_, ?_, ?_⟩
    · rw [untrackedReports_pair, evaluateMatchedPair_untracked hresult]
      rfl
    · rw [hterms]
      exact Multiset.mem_coe.2 (List.mem_map_of_mem (by simp [hloc, hidlessLocal, hunmatched]))
    · rw [hterms]
      exact idlessLocalTerms_pair hunique hloc hidlessLocal hunmatched

/-- an iteration over any other snapshot takes no local order without ids -/
theorem ExchangeStep.with_ids {entry : ReconcileExchangeOrderSnapshot × ℕ} {loop loop' : ReconcileLoop}
    (h : ExchangeStep localOpenOrders observedAt loop entry loop')
    (hunique : (localOpenOrders.map ReconcileLocalOrderSnapshot.orderId).Nodup)
    (hother : ¬ (Live entry.1 ∧ Idless entry.1)) :
    idlessLocalTerms localOpenOrders loop'.matchedLocalIds = idlessLocalTerms localOpenOrders loop.matchedLocalIds := by
  have hpair : ∀ {loc : ReconcileLocalOrderSnapshot}, loc ∈ localOpenOrders → Shares entry.1 loc →
      idlessLocalTerms localOpenOrders (loop.matchedLocalIds ++ [loc.orderId]) =
        idlessLocalTerms localOpenOrders loop.matchedLocalIds :=
    fun hloc hshares => idlessLocalTerms_pair_ids hunique hloc (fun hidless => hidless.not_shares entry.1 hshares) _
  cases h with
  | closing => rfl
  | repeated => rfl
  | untracked => rfl
  | repeatedConflict _ _ loc _ _ hloc hconflict => exact hpair hloc hconflict.shares
  | conflict _ _ loc _ _ hloc _ hconflict => exact hpair hloc hconflict.shares
  | matched hlive _ loc success _ _ _ hsplit _ hmatch =>
    rcases Matches.cases ⟨success, hmatch⟩ with hstrong | ⟨hidless, -⟩
    · exact hpair (mem_of_split hsplit) hstrong.shares.1
    · exact absurd ⟨hlive, hidless⟩ hother

section Total

variable {exchangeOrders : List ReconcileExchangeOrderSnapshot} {state : ℕ → ReconcileLoop}

def IdlessAt (exchangeOrders : List ReconcileExchangeOrderSnapshot) (i : ℕ) : Prop :=
  ∃ e, exchangeOrders[i]? = some e ∧ Idless e

theorem idlessTerms_succ {n : ℕ} {e : ReconcileExchangeOrderSnapshot} (hn : exchangeOrders[n]? = some e) :
    idlessTerms (exchangeOrders.take (n + 1)) =
      if Live e ∧ Idless e then termsOf e ::ₘ idlessTerms (exchangeOrders.take n)
      else idlessTerms (exchangeOrders.take n) := by
  rw [idlessTerms, idlessTerms, List.take_add_one, hn, Option.toList_some, List.filter_append, List.map_append]
  split_ifs with hcounts
  · rw [List.filter_singleton, decide_eq_true hcounts, cond_true, List.map_singleton, ← Multiset.coe_add, add_comm]
    rfl
  · rw [List.filter_singleton, decide_eq_false hcounts, cond_false, List.map_nil, List.append_nil]

open Classical in
/-- **Snapshots without ids** are reported as often as local orders of their terms are lacking. -/
theorem ExchangeStates.idless_count (h : ExchangeStates localOpenOrders observedAt exchangeOrders state)
    (hunique : (localOpenOrders.map ReconcileLocalOrderSnapshot.orderId).Nodup) {n : ℕ} (hn : n ≤ exchangeOrders.length) :
    idlessLocalTerms localOpenOrders (state n).matchedLocalIds =
        idlessLocalTerms localOpenOrders [] - idlessTerms (exchangeOrders.take n) ∧
      ((Finset.range n).filter (fun i => ReportedAt state i ∧ IdlessAt exchangeOrders i)).card =
        (idlessTerms (exchangeOrders.take n) - idlessLocalTerms localOpenOrders []).card := by
  induction n with
  | zero =>
    rw [h.start]
    simp [emptyLoop, idlessTerms]
  | succ n ih =>
    obtain ⟨hleft, hcount⟩ := ih (by omega)
    have hat : exchangeOrders[n]? = some exchangeOrders[n] := List.getElem?_eq_getElem (by omega)
    have hstep := h.step n _ hat
    have hidlessAt : IdlessAt exchangeOrders n ↔ Idless exchangeOrders[n] := by
      constructor
      · rintro ⟨e, he, hidless⟩
        exact Option.some.inj (hat.symm.trans he) ▸ hidless
      · intro hidless
        exact ⟨_, hat, hidless⟩
    rw [idlessTerms_succ hat, Finset.range_add_one, Finset.filter_insert]
    by_cases hcounts : Live exchangeOrders[n] ∧ Idless exchangeOrders[n]
    · rw [if_pos hcounts]
      rcases hstep.idless hunique hcounts.1 hcounts.2 with ⟨hplus, hids, hnot⟩ | ⟨hsame, hmem, herase⟩
      · -- reported
        rw [hleft] at hnot
        obtain ⟨hsub, hrest⟩ := sub_cons_not_mem hnot
        refine ⟨by rw [hids, hleft, hrest], ?_⟩
        rw [if_pos ⟨hplus, hidlessAt.2 hcounts.2⟩, Finset.card_insert_of_notMem (by simp), hcount, hsub, Multiset.card_cons]
      · -- matched to a local order of its terms
        rw [hleft] at hmem
        obtain ⟨hsub, hrest⟩ := sub_cons_mem hmem
        refine ⟨by rw [herase, hleft, hrest], ?_⟩
        rw [if_neg, hcount, hsub]
        rintro ⟨hplus, -⟩
        unfold ReportedAt at hplus
        omega
    · rw [if_neg hcounts]
      refine ⟨by rw [hstep.with_ids hunique hcounts, hleft], ?_⟩
      rw [if_neg, hcount]
      rintro ⟨hreported, hidless⟩
      obtain ⟨⟨hlive, -, -, -⟩, -⟩ := h.reports hat hreported
      exact hcounts ⟨hlive, hidlessAt.1 hidless⟩

open Classical in
/-- the reports of the whole list: those of snapshots with ids, and those of snapshots without -/
theorem ExchangeStates.total (h : ExchangeStates localOpenOrders observedAt exchangeOrders state)
    (hunique : (localOpenOrders.map ReconcileLocalOrderSnapshot.orderId).Nodup) :
    (state exchangeOrders.length).untrackedReports =
      ((Finset.range exchangeOrders.length).filter (fun i => ReportedAt state i ∧ ¬ IdlessAt exchangeOrders i)).card +
        (idlessTerms exchangeOrders - idlessLocalTerms localOpenOrders []).card := by
  have hidless := (h.idless_count hunique (le_refl exchangeOrders.length)).2
  rw [List.take_length] at hidless
  have hsplit := Finset.card_filter_add_card_filter_not
    (s := (Finset.range exchangeOrders.length).filter (ReportedAt state)) (IdlessAt exchangeOrders)
  rw [Finset.filter_filter, Finset.filter_filter] at hsplit
  rw [h.count le_rfl, ← hsplit, ← hidless]
  omega

open Classical in
/-- every untracked order is reported, and the number of reports exceeds the number of orders by the other reports -/
theorem ExchangeStates.reports_le (h : ExchangeStates localOpenOrders observedAt exchangeOrders state) :
    (Finset.range exchangeOrders.length).filter (UntrackedOrderAt localOpenOrders exchangeOrders) ⊆
      (Finset.range exchangeOrders.length).filter (fun i => ReportedAt state i ∧ ¬ IdlessAt exchangeOrders i) := by
  intro i hi
  rw [Finset.mem_filter] at hi ⊢
  refine ⟨hi.1, h.reported_untracked hi.2, ?_⟩
  rintro ⟨e, he, hidless⟩
  obtain ⟨e', he', -, hids⟩ := hi.2.live
  exact hids (Option.some.inj (he.symm.trans he') ▸ hidless)

theorem ExchangeStates.count_eq (h : ExchangeStates localOpenOrders observedAt exchangeOrders state)
    (hunique : (localOpenOrders.map ReconcileLocalOrderSnapshot.orderId).Nodup)
    (haccounted : Accounted localOpenOrders exchangeOrders) :
    (state exchangeOrders.length).untrackedReports = untrackedOrderCount localOpenOrders exchangeOrders := by
  classical
  rw [h.total hunique, untrackedOrderCount]
  refine congrArg (· + _) (congrArg Finset.card (Finset.Subset.antisymm ?_ h.reports_le))
  intro i hi
  rw [Finset.mem_filter, Finset.mem_range] at hi
  have hat : exchangeOrders[i]? = some exchangeOrders[i] := List.getElem?_eq_getElem hi.1
  rw [Finset.mem_filter, Finset.mem_range]
  exact ⟨hi.1, h.untracked_of_reported haccounted hat (fun hidless => hi.2.2 ⟨_, hat, hidless⟩) hi.2.1⟩

theorem ExchangeStates.count_lt (h : ExchangeStates localOpenOrders observedAt exchangeOrders state)
    (hunique : (localOpenOrders.map ReconcileLocalOrderSnapshot.orderId).Nodup)
    (hunaccounted : Unaccounted localOpenOrders exchangeOrders) :
    untrackedOrderCount localOpenOrders exchangeOrders < (state exchangeOrders.length).untrackedReports := by
  classical
  obtain ⟨i, e, hi, hlive, hstray, hno, hnone⟩ := hunaccounted
  rw [h.total hunique, untrackedOrderCount]
  refine Nat.add_lt_add_right (Finset.card_lt_card (Finset.ssubset_iff_of_subset h.reports_le |>.2 ⟨i, ?_, ?_⟩)) _
  · rw [Finset.mem_filter, Finset.mem_range]
    refine ⟨(List.getElem?_eq_some_iff.1 hi).1, h.reported_stray hi hlive hstray hnone, ?_⟩
    rintro ⟨e', he', hidless⟩
    exact hstray.1 (Option.some.inj (he'.symm.trans hi) ▸ hidless)
  · simp [hno]

end Total

/-! ## The engine -/

theorem appendBalanceFieldMismatch_types {currency field localValue exchangeValue : String}
    {mismatches : List ReconcileMismatchEvidence}
    (h : appendBalanceFieldMismatch currency field localValue exchangeValue observedAt = .ok mismatches) :
    ∀ mismatch ∈ mismatches, mismatch.mismatchType ≠ .untrackedExchangeOpenOrder := by
  obtain ⟨equal, -, h⟩ := bind_eq_ok.1 h
  obtain rfl := pure_eq_ok.1 h
  intro mismatch hmismatch
  split_ifs at hmismatch
  · cases hmismatch
  · rw [List.mem_singleton.1 hmismatch]
    exact ReconcileMismatchType.noConfusion

theorem balanceSnapshotMismatches_types {localByCurrency exchangeByCurrency : InsertionMap String BrokerBalance}
    {currency : String} {mismatches : List ReconcileMismatchEvidence}
    (h : balanceSnapshotMismatches localByCurrency exchangeByCurrency observedAt currency = .ok mismatches) :
    ∀ mismatch ∈ mismatches, mismatch.mismatchType ≠ .untrackedExchangeOpenOrder := by
  unfold balanceSnapshotMismatches at h
  intro mismatch hmismatch
  split at h
  · obtain rfl := pure_eq_ok.1 h
    rw [List.mem_singleton.1 hmismatch]
    exact ReconcileMismatchType.noConfusion
  · obtain rfl := pure_eq_ok.1 h
    rw [List.mem_singleton.1 hmismatch]
    exact ReconcileMismatchType.noConfusion
  · obtain rfl := pure_eq_ok.1 h
    cases hmismatch
  · obtain ⟨available, havailable, h⟩ := bind_eq_ok.1 h
    obtain ⟨locked, hlocked, h⟩ := bind_eq_ok.1 h
    obtain ⟨total, htotal, h⟩ := bind_eq_ok.1 h
    obtain rfl := pure_eq_ok.1 h
    rcases List.mem_append.1 hmismatch with hmismatch | hmismatch
    · rcases List.mem_append.1 hmismatch with hmismatch | hmismatch
      · exact appendBalanceFieldMismatch_types havailable mismatch hmismatch
      · exact appendBalanceFieldMismatch_types hlocked mismatch hmismatch
    · exact appendBalanceFieldMismatch_types htotal mismatch hmismatch

theorem expectedLockMismatches_types {lockedByCurrency : InsertionMap String (Option ℚ)}
    {exchangeByCurrency : InsertionMap String BrokerBalance} {currency : String}
    {mismatches : List ReconcileMismatchEvidence}
    (h : expectedLockMismatches lockedByCurrency exchangeByCurrency observedAt currency = .ok mismatches) :
    ∀ mismatch ∈ mismatches, mismatch.mismatchType ≠ .untrackedExchangeOpenOrder := by
  obtain ⟨expected, -, h⟩ := bind_eq_ok.1 h
  obtain ⟨exchangeLocked, -, h⟩ := bind_eq_ok.1 h
  obtain rfl := pure_eq_ok.1 h
  intro mismatch hmismatch
  split_ifs at hmismatch
  · cases hmismatch
  · rw [List.mem_singleton.1 hmismatch]
    exact ReconcileMismatchType.noConfusion

omit [Host] in
/-- a checking loop whose items report no untracked order -/
theorem flatten_types {keys : List String} {f : String → Except Thrown (List ReconcileMismatchEvidence)}
    {mismatches : List (List ReconcileMismatchEvidence)} (h : keys.mapM f = .ok mismatches)
    (htypes : ∀ key items, f key = .ok items →
      ∀ mismatch ∈ items, mismatch.mismatchType ≠ .untrackedExchangeOpenOrder) :
    ∀ mismatch ∈ mismatches.flatten, mismatch.mismatchType ≠ .untrackedExchangeOpenOrder := by
  intro mismatch hmismatch
  obtain ⟨items, hitems, hmem⟩ := List.mem_flatten.1 hmismatch
  obtain ⟨hmap, hok⟩ := mapM_eq_map [] h
  rw [hmap] at hitems
  obtain ⟨key, hkey, rfl⟩ := List.mem_map.1 hitems
  exact htypes key _ (hok key hkey) mismatch hmem

/-- no balance check reports an untracked order -/
theorem checkBalanceLock_untracked {localBalances exchangeBalances : Option (List BrokerBalance)}
    {result : BalanceCheckResult}
    (h : checkBalanceLock localOpenOrders localBalances exchangeBalances observedAt = .ok result) :
    countMismatches result.mismatches .untrackedExchangeOpenOrder = 0 := by
  refine countMismatches_eq_zero ?_
  unfold checkBalanceLock at h
  dsimp only at h
  intro mismatch hmismatch
  have hunavailable : ∀ source, mismatch ∈ [createBalanceSnapshotUnavailableMismatch source observedAt] →
      mismatch.mismatchType ≠ .untrackedExchangeOpenOrder := by
    intro source hmem
    rw [List.mem_singleton.1 hmem]
    exact ReconcileMismatchType.noConfusion
  split at h
  · obtain rfl := pure_eq_ok.1 h
    exact hunavailable _ hmismatch
  · split at h
    · obtain rfl := pure_eq_ok.1 h
      exact hunavailable _ hmismatch
    · split at h
      · obtain rfl := pure_eq_ok.1 h
        exact hunavailable _ hmismatch
      · obtain ⟨expectedLocked, -, h⟩ := bind_eq_ok.1 h
        obtain ⟨snapshotMismatches, hsnapshots, h⟩ := bind_eq_ok.1 h
        obtain ⟨lockMismatches, hlocks, h⟩ := bind_eq_ok.1 h
        obtain rfl := pure_eq_ok.1 h
        rcases List.mem_append.1 hmismatch with hmismatch | hmismatch
        · rcases List.mem_append.1 hmismatch with hmismatch | hmismatch
          · exact flatten_types hsnapshots (fun _ _ hitems => balanceSnapshotMismatches_types hitems) mismatch hmismatch
          · obtain ⟨order, -, rfl⟩ := List.mem_map.1 hmismatch
            exact ReconcileMismatchType.noConfusion
        · exact flatten_types hlocks (fun _ _ hitems => expectedLockMismatches_types hitems) mismatch hmismatch

omit [Host] in
theorem checkClosedOrderWindow_untracked (window : ReconcileClosedOrderWindow) (verified : List String) :
    countMismatches (checkClosedOrderWindow localOpenOrders window observedAt verified) .untrackedExchangeOpenOrder = 0 := by
  refine countMismatches_eq_zero fun mismatch hmismatch => ?_
  rcases List.mem_append.1 hmismatch with hmismatch | hmismatch
  · split_ifs at hmismatch
    · rw [List.mem_singleton.1 hmismatch]
      exact ReconcileMismatchType.noConfusion
    · cases hmismatch
  · obtain ⟨order, -, rfl⟩ := List.mem_map.1 hmismatch
    exact ReconcileMismatchType.noConfusion

omit [Host] in
theorem checkWebSocketGap_untracked (context : ReconcileWebSocketContext) :
    countMismatches (checkWebSocketGap context observedAt) .untrackedExchangeOpenOrder = 0 := by
  refine countMismatches_eq_zero fun mismatch hmismatch => ?_
  rcases List.mem_append.1 hmismatch with hmismatch | hmismatch
  · split_ifs at hmismatch
    · rw [List.mem_singleton.1 hmismatch]
      exact ReconcileMismatchType.noConfusion
    · cases hmismatch
  · split at hmismatch
    · split_ifs at hmismatch
      · rw [List.mem_singleton.1 hmismatch]
        exact ReconcileMismatchType.noConfusion
      · cases hmismatch
    · cases hmismatch

/-- the untracked reports of an engine run are those of its first loop -/
theorem runReconcileEngine_untracked {input : ReconcileEngineInput} {output : ReconcileEngineOutput}
    (h : runReconcileEngine input = .ok output)
    (hunique : (input.localOpenOrders.map ReconcileLocalOrderSnapshot.orderId).Nodup) :
    ∃ state, ExchangeStates input.localOpenOrders input.observedAt (allExchangeOrders input) state ∧
      countMismatches output.mismatches .untrackedExchangeOpenOrder =
        (state (allExchangeOrders input).length).untrackedReports ∧
      output.summary.untrackedExchangeOrders = (state (allExchangeOrders input).length).untrackedReports := by
  obtain ⟨orderResults, hresults, h⟩ := bind_eq_ok.1 h
  obtain ⟨balanceResult, hbalance, h⟩ := bind_eq_ok.1 h
  obtain rfl := pure_eq_ok.1 h
  obtain ⟨exchangeLoop, hexchange, hresults⟩ := bind_eq_ok.1 hresults
  obtain ⟨localLoop, hlocal, hresults⟩ := bind_eq_ok.1 hresults
  obtain rfl := pure_eq_ok.1 hresults
  obtain ⟨state, hstates, hlast⟩ := exchangeStates hunique hexchange
  have hlast : state (allExchangeOrders input).length = exchangeLoop := hlast
  have hloop : localLoop.untrackedReports = exchangeLoop.untrackedReports :=
    foldlM_keeps (fun loop => loop.untrackedReports = exchangeLoop.untrackedReports)
      (fun _ _ _ _ hstep hsame => (localStep hstep).untrackedReports.trans hsame) hlocal rfl
  have hcount : countMismatches (localLoop.results.flatMap OrderPairReconcileResult.mismatches ++
      checkClosedOrderWindow input.localOpenOrders input.closedOrderWindow input.observedAt
        (exchangeVerifiedLocalOrderIds localLoop.results) ++
      checkWebSocketGap input.websocketContext input.observedAt ++ balanceResult.mismatches)
      .untrackedExchangeOpenOrder = (state (allExchangeOrders input).length).untrackedReports := by
    rw [countMismatches_append, countMismatches_append, countMismatches_append, checkClosedOrderWindow_untracked,
      checkWebSocketGap_untracked, checkBalanceLock_untracked hbalance, hlast, ← hloop]
    rfl
  exact ⟨state, hstates, hcount, hcount⟩

/-- **Untracked orders are reported once** where every live snapshot that no local order has an id of is the newest of an
untracked order or accounted for by an earlier one; where one is neither, there are more reports than orders. -/
theorem untracked_count {input : ReconcileEngineInput} {output : ReconcileEngineOutput}
    (h : runReconcileEngine input = .ok output)
    (hunique : (input.localOpenOrders.map ReconcileLocalOrderSnapshot.orderId).Nodup) :
    (Accounted input.localOpenOrders (allExchangeOrders input) →
      countMismatches output.mismatches .untrackedExchangeOpenOrder =
          untrackedOrderCount input.localOpenOrders (allExchangeOrders input) ∧
        output.summary.untrackedExchangeOrders =
          untrackedOrderCount input.localOpenOrders (allExchangeOrders input)) ∧
      (Unaccounted input.localOpenOrders (allExchangeOrders input) →
        untrackedOrderCount input.localOpenOrders (allExchangeOrders input) < output.summary.untrackedExchangeOrders) := by
  obtain ⟨state, hstates, hmismatches, hsummary⟩ := runReconcileEngine_untracked h hunique
  refine ⟨fun haccounted => ?_, fun hunaccounted => ?_⟩
  · rw [hmismatches, hsummary, hstates.count_eq hunique haccounted]
    exact ⟨rfl, rfl⟩
  · rw [hsummary]
    exact hstates.count_lt hunique hunaccounted

end Host

/-! ## Runs -/

/-- one open order that the local store does not know -/
def strayInput : ReconcileEngineInput :=
  sampleInput [sampleSnapshot .open "wait" (some "u") (some "a") "2" 1] [] [] [] [] "0"

theorem stray_reported_once :
    ∃ output, runReconcileEngine strayInput = .ok output ∧
      output.summary.untrackedExchangeOrders =
        untrackedOrderCount strayInput.localOpenOrders (allExchangeOrders strayInput) := by
  obtain ⟨output, houtput⟩ := exists_ok (show (runReconcileEngine strayInput).toOption.isSome by decide +kernel)
  have horders : allExchangeOrders strayInput = [sampleSnapshot .open "wait" (some "u") (some "a") "2" 1] := by
    decide +kernel
  refine ⟨output, houtput, ((untracked_count houtput (by decide)).1 ?_).2⟩
  rw [horders]
  intro i e hi hlive hstray
  rw [List.getElem?_singleton] at hi
  split_ifs at hi with hzero
  subst hzero
  refine Or.inl ⟨fun j _ => Nat.zero_le j, ?_, e, by rw [← hi]; rfl, hlive, hstray.1⟩
  rintro ⟨j, y, -, -, loc, hloc, -⟩
  cases hloc

/-- the same order once more, by a lookup -/
def seenTwiceInput : ReconcileEngineInput :=
  sampleInput [sampleSnapshot .open "wait" (some "u") (some "a") "2" 2] []
    [sampleSnapshot .lookup "wait" (some "u") (some "a") "2" 1] [] [] "0"

/-- **Seen twice, reported twice.** Nothing is recorded for an untracked order, so its second snapshot is reported as
another one. -/
theorem seen_twice_reported_twice :
    ∃ output, runReconcileEngine seenTwiceInput = .ok output ∧
      output.summary.untrackedExchangeOrders ≠
        untrackedOrderCount seenTwiceInput.localOpenOrders (allExchangeOrders seenTwiceInput) := by
  obtain ⟨output, houtput⟩ := exists_ok (show (runReconcileEngine seenTwiceInput).toOption.isSome by decide +kernel)
  have horders : allExchangeOrders seenTwiceInput = [sampleSnapshot .open "wait" (some "u") (some "a") "2" 2,
      sampleSnapshot .lookup "wait" (some "u") (some "a") "2" 1] := by
    decide +kernel
  obtain ⟨state, hstates, -, hsummary⟩ := runReconcileEngine_untracked houtput (by decide)
  refine ⟨output, houtput, ?_⟩
  rw [hsummary]
  refine (hstates.count_lt (by decide) ?_).ne'
  rw [horders]
  refine ⟨1, _, rfl, by decide, ⟨by decide, by simp [seenTwiceInput, sampleInput]⟩, ?_, ?_⟩
  · -- the open row is ahead of it and carries the same ids
    intro horder
    exact horder.newest.not_linked (e := sampleSnapshot .lookup "wait" (some "u") (some "a") "2" 1) (j := 0) rfl rfl
      (by decide) (by decide)
  · intro j y hj hy _
    obtain rfl : j = 0 := by omega
    obtain rfl := Option.some.inj hy
    exact ⟨by decide, by simp [seenTwiceInput, sampleInput]⟩

end SeeMirai.Reconcile
