/-
Which snapshot a state advancement rests on. The loops look for the newest snapshot of a local order that no loop has
marked; a live snapshot is also marked when it repeats an id that is already accounted for, and then an older snapshot of
the same order is taken in its place.

Results:
- `advancements_justified`: every advancement rests on a strong match with agreeing terms and on an allowed transition,
  one advancement for each order, and, where the newest snapshot of an order is `Undisputed`, on the newest snapshot.
- `stale_advancement`: an order that the newest matching snapshot shows as open is advanced to FILLED by an older one.
-/
import SeeMirai.Reconcile.LoopRun

namespace SeeMirai.Reconcile

open Fallible

/-! ## Positions -/

section Positions

variable {α : Type}

theorem eq_of_index {entries : List (α × ℕ)} (h : (entries.map Prod.snd).Nodup) {a b : α × ℕ} (ha : a ∈ entries)
    (hb : b ∈ entries) (hsame : a.2 = b.2) : a = b :=
  List.inj_on_of_nodup_map h ha hb hsame

theorem zipIdx_nodup (xs : List α) : (xs.zipIdx.map Prod.snd).Nodup := by
  rw [List.zipIdx_map_snd]
  exact List.nodup_range'

/-- a list with a member of some kind has a first one -/
theorem exists_first {p : α → Prop} {xs : List α} {a : α} (ha : a ∈ xs) (hp : p a) :
    ∃ before x after, xs = before ++ x :: after ∧ p x ∧ ∀ y ∈ before, ¬ p y := by
  classical
  induction xs with
  | nil => cases ha
  | cons y ys ih =>
    by_cases hy : p y
    · exact ⟨[], y, ys, rfl, hy, by simp⟩
    · rcases List.mem_cons.1 ha with rfl | ha
      · exact absurd hp hy
      · obtain ⟨before, x, after, rfl, hx, hbefore⟩ := ih ha
        refine ⟨y :: before, x, after, rfl, hx, ?_⟩
        rintro z hz
        rcases List.mem_cons.1 hz with rfl | hz
        · exact hy
        · exact hbefore z hz

end Positions

/-! ## Priority -/

/-- `comparePriority` where both capture times are dates -/
def compareReadablePriority (a b : ReconcileExchangeOrderSnapshot) : Ordering :=
  (compare (b.capturedAt.ms.getD 0) (a.capturedAt.ms.getD 0)).then
    (compare (getExchangeSnapshotSourceRank a) (getExchangeSnapshotSourceRank b))

instance : Std.TransCmp compareReadablePriority :=
  transCmp_then
    (transCmp_on (inferInstance : Std.TransCmp fun x y : Int => compare y x)
      fun a : ReconcileExchangeOrderSnapshot => a.capturedAt.ms.getD 0)
    (transCmp_on (inferInstance : Std.TransCmp (compare : ℕ → ℕ → Ordering)) getExchangeSnapshotSourceRank)

theorem comparePriority_readable {a b : ReconcileExchangeOrderSnapshot} (ha : a.capturedAt.ms ≠ none)
    (hb : b.capturedAt.ms ≠ none) : comparePriority a b = compareReadablePriority a b := by
  obtain ⟨aMs, hAms⟩ := Option.ne_none_iff_exists'.1 ha
  obtain ⟨bMs, hBms⟩ := Option.ne_none_iff_exists'.1 hb
  simp only [comparePriority, compareReadablePriority, hAms, hBms, Option.getD_some]
  split_ifs with hne
  · cases h : compare bMs aMs with
    | eq => exact absurd (Std.LawfulEqCmp.eq_of_compare h).symm hne
    | lt => rfl
    | gt => rfl
  · obtain rfl := not_not.1 hne
    have hself : compare aMs aMs = .eq := Std.ReflCmp.compare_self
    rw [hself]
    rfl

/-! ## Undisputed snapshots -/

/-- the exchange reports the order as finished -/
def Terminal (exchange : ReconcileExchangeOrderSnapshot) : Prop := isSummaryExchangeTerminalOrder exchange = true

theorem Terminal.not_live {exchange : ReconcileExchangeOrderSnapshot} (h : Terminal exchange) : ¬ Live exchange := by
  intro hlive
  simp only [Terminal, isSummaryExchangeTerminalOrder, decide_eq_true_eq] at h
  simp only [Live, isUntrackedExchangeOpenCandidate, isOpenExchangeStatus, decide_eq_true_eq] at hlive
  rcases h with h | h <;> simp [h] at hlive

/-- the first snapshot `x` of the local order `loc`, with `before` ahead of it, is not dropped and not taken by another
order: it carries no id of another local order, and where it is live, neither a closing snapshot ahead of it accounts for
one of its ids nor does a live snapshot of another local order carry one -/
structure Undisputed (localOpenOrders : List ReconcileLocalOrderSnapshot) (before : List ReconcileExchangeOrderSnapshot)
    (x : ReconcileExchangeOrderSnapshot) (loc : ReconcileLocalOrderSnapshot) : Prop where
  own : ∀ other ∈ localOpenOrders, Shares x other → other.orderId = loc.orderId
  closing : Live x → ∀ y ∈ before, ¬ Live y → ∀ key ∈ getStrongExchangeIdentityKeys x, key ∉ bridgedKeys localOpenOrders y
  elsewhere : Live x → ∀ y ∈ before, Live y →
    (∃ other ∈ localOpenOrders, other.orderId ≠ loc.orderId ∧ Shares y other) → ¬ SameOrder y x

/-- a live, undisputed first snapshot is no repeat while its order is unmatched -/
theorem Undisputed.not_seen {localOpenOrders : List ReconcileLocalOrderSnapshot}
    {visited : List (ReconcileExchangeOrderSnapshot × ℕ)} {loop : ReconcileLoop}
    (hrun : ExchangeRun localOpenOrders visited loop) {x : ReconcileExchangeOrderSnapshot}
    {loc : ReconcileLocalOrderSnapshot} (h : Undisputed localOpenOrders (visited.map Prod.fst) x loc) (hlive : Live x)
    (hunmatched : loc.orderId ∉ loop.matchedLocalIds) : ¬ loop.Seen x := by
  rintro ⟨key, hkey, hmatched | hstronger⟩
  · obtain ⟨y, hy, hyLive, other, hother, hshares, hotherMatched, hkeys⟩ := hrun.matchedKeys key hmatched
    have hne : other.orderId ≠ loc.orderId := by
      rintro hsame
      exact hunmatched (hsame ▸ hotherMatched)
    rcases hkeys with hyKey | hotherKey
    · exact h.elsewhere hlive y.1 (List.mem_map_of_mem hy) hyLive ⟨other, hother, hne, hshares⟩ ⟨key, hyKey, hkey⟩
    · exact hne (h.own other hother (shares_iff_key.2 ⟨key, hkey, hotherKey⟩))
  · obtain ⟨y, hy, hyClosing, hbridged⟩ := (hrun.stronger key).1 hstronger
    exact h.closing hlive y.1 (List.mem_map_of_mem hy) hyClosing key hkey hbridged

section Host

variable [Host] {localOpenOrders : List ReconcileLocalOrderSnapshot} {observedAt : String}

/-- a match of a snapshot with ids is by an id -/
theorem Matches.shares_of_shares {x : ReconcileExchangeOrderSnapshot} {loc other : ReconcileLocalOrderSnapshot}
    (hmatch : Matches x other) (hshares : Shares x loc) : Shares x other := by
  rcases hmatch.cases with hstrong | ⟨hidless, -⟩
  · exact hstrong.shares.1
  · exact absurd hshares (hidless.not_shares loc)

/-- a live, undisputed first snapshot takes its order -/
theorem Undisputed.taken {visited : List (ReconcileExchangeOrderSnapshot × ℕ)} {loop loop' : ReconcileLoop}
    (hrun : ExchangeRun localOpenOrders visited loop) {x : ReconcileExchangeOrderSnapshot × ℕ}
    {loc : ReconcileLocalOrderSnapshot} (hloc : loc ∈ localOpenOrders) (hmatches : StronglyMatches x.1 loc)
    (h : Undisputed localOpenOrders (visited.map Prod.fst) x.1 loc) (hlive : Live x.1)
    (hstep : ExchangeStep localOpenOrders observedAt loop x loop') : loc.orderId ∈ loop'.matchedLocalIds := by
  by_contra hunmatched'
  have hunmatched : loc.orderId ∉ loop.matchedLocalIds := fun hmem => hunmatched' (hstep.grows.localIds hmem)
  have hmatch : Matches x.1 loc := by
    obtain ⟨success, hmatch, -⟩ := hmatches
    exact ⟨success, hmatch⟩
  have hnotSeen := h.not_seen hrun hlive hunmatched
  cases hstep with
  | closing hnot => exact hnot hlive
  | repeated _ hseen _ => exact hnotSeen hseen
  | repeatedConflict _ hseen => exact hnotSeen hseen
  | conflict _ _ _ _ _ _ _ _ hnone => exact (hnone loc hloc hunmatched).not_matches hmatch
  | untracked _ _ _ hnone => exact (hnone loc hloc hunmatched).1.not_matches hmatch
  | matched _ _ other success _ _ _ hsplit _ hfound =>
    have hshares := Matches.shares_of_shares ⟨success, hfound⟩ hmatches.shares.1
    refine hunmatched' ?_
    rw [← h.own other (mem_of_split hsplit) hshares]
    simp [ReconcileLoop.pair]

/-! ## The newest snapshot -/

/-- wherever a later snapshot would advance the order, the first one is undisputed -/
def FirstUndisputed (localOpenOrders : List ReconcileLocalOrderSnapshot)
    (exchangeOrders : List ReconcileExchangeOrderSnapshot) (loc : ReconcileLocalOrderSnapshot) : Prop :=
  ∀ before x after, exchangeOrders = before ++ x :: after → StronglyMatches x loc →
    (∀ y ∈ before, ¬ StronglyMatches y loc) → (∃ z ∈ after, ∃ advancement, Advances z loc advancement) →
    Undisputed localOpenOrders before x loc

/-- a live undisputed first snapshot has taken its order by the end of the first loop -/
theorem Undisputed.taken_of_run {before after : List (ReconcileExchangeOrderSnapshot × ℕ)}
    {x : ReconcileExchangeOrderSnapshot × ℕ} {loop : ReconcileLoop}
    (hrun : (before ++ x :: after).foldlM (reconcileExchangeOrder localOpenOrders observedAt) emptyLoop = .ok loop)
    {loc : ReconcileLocalOrderSnapshot} (hloc : loc ∈ localOpenOrders) (hmatches : StronglyMatches x.1 loc)
    (h : Undisputed localOpenOrders (before.map Prod.fst) x.1 loc) (hlive : Live x.1) :
    loc.orderId ∈ loop.matchedLocalIds := by
  obtain ⟨c, c', hbefore, hstep, hafter⟩ := foldlM_at hrun
  have htaken := Undisputed.taken (exchangeRun hbefore) hloc hmatches h hlive (exchangeStep hstep)
  exact (exchangeRun_grows hafter).localIds htaken

/-- a snapshot that the first loop matches to an unmatched order is the first one of that order -/
theorem first_of_unseen {before after : List (ReconcileExchangeOrderSnapshot × ℕ)}
    {e : ReconcileExchangeOrderSnapshot × ℕ} {loop : ReconcileLoop}
    (hrun : before.foldlM (reconcileExchangeOrder localOpenOrders observedAt) emptyLoop = .ok loop)
    {loc : ReconcileLocalOrderSnapshot} (hloc : loc ∈ localOpenOrders) (hunmatched : loc.orderId ∉ loop.matchedLocalIds)
    (hnew : ¬ loop.Seen e.1) {advancement : ReconcileStateAdvancementCandidate} (hadvances : Advances e.1 loc advancement)
    (hfirst : FirstUndisputed localOpenOrders ((before ++ e :: after).map Prod.fst) loc) :
    ∀ y ∈ before, ¬ StronglyMatches y.1 loc := by
  rintro y hy hmatches
  obtain ⟨b, x, a, rfl, hx, hb⟩ := exists_first (p := fun y => StronglyMatches y.1 loc) hy hmatches
  have hundisputed : Undisputed localOpenOrders (b.map Prod.fst) x.1 loc := by
    refine hfirst (b.map Prod.fst) x.1 ((a ++ e :: after).map Prod.fst) (by simp) hx ?_ ⟨e.1, by simp, advancement, hadvances⟩
    simpa using fun y i hi => hb (y, i) hi
  by_cases hlive : Live x.1
  · exact hunmatched (hundisputed.taken_of_run hrun hloc hx hlive)
  · -- a closing snapshot accounts for every id of the order
    obtain ⟨key, hkey, hlocKey⟩ := shares_iff_key.1 hadvances.stronglyMatches.shares.1
    refine hnew ⟨key, hkey, Or.inr (((exchangeRun hrun).stronger key).2 ⟨x, by simp, hlive, ?_⟩)⟩
    exact mem_bridgedKeys.2 (Or.inr ⟨loc, hloc, hx.shares.1, hlocKey⟩)

/-- the first loop leaves no live snapshot unmarked that matches an unmatched order -/
theorem marked_of_live {before after : List (ReconcileExchangeOrderSnapshot × ℕ)}
    {e : ReconcileExchangeOrderSnapshot × ℕ} {loop : ReconcileLoop}
    (hrun : (before ++ e :: after).foldlM (reconcileExchangeOrder localOpenOrders observedAt) emptyLoop = .ok loop)
    {loc : ReconcileLocalOrderSnapshot} (hloc : loc ∈ localOpenOrders) (hunmatched : loc.orderId ∉ loop.matchedLocalIds)
    (hmatches : Matches e.1 loc) (hlive : Live e.1) : e.2 ∈ loop.matchedExchangeOrders := by
  obtain ⟨c, c', hbefore, hstep, hafter⟩ := foldlM_at hrun
  have hstep := exchangeStep hstep
  have hgrows := exchangeRun_grows hafter
  have hc : loc.orderId ∉ c.matchedLocalIds := fun hmem => hunmatched (hgrows.localIds (hstep.grows.localIds hmem))
  refine hgrows.marks ?_
  cases hstep with
  | closing hnot => exact absurd hlive hnot
  | untracked _ _ _ hnone => exact absurd hmatches (hnone loc hloc hc).1.not_matches
  | repeated => simp
  | repeatedConflict => simp [ReconcileLoop.pair]
  | matched => simp [ReconcileLoop.pair]
  | conflict => simp [ReconcileLoop.pair]

/-- a snapshot that the second loop matches to an unmatched order is the first one of that order -/
theorem first_of_unmarked {before after : List (ReconcileExchangeOrderSnapshot × ℕ)}
    {e : ReconcileExchangeOrderSnapshot × ℕ} {exchangeLoop loop : ReconcileLoop}
    {visited : List ReconcileLocalOrderSnapshot} (hvisited : visited ⊆ localOpenOrders)
    (hindex : ((before ++ e :: after).map Prod.snd).Nodup)
    (hexchange : (before ++ e :: after).foldlM (reconcileExchangeOrder localOpenOrders observedAt) emptyLoop =
      .ok exchangeLoop)
    (hlocal : visited.foldlM (reconcileLocalOrder (before ++ e :: after) observedAt) exchangeLoop = .ok loop)
    {loc : ReconcileLocalOrderSnapshot} (hloc : loc ∈ localOpenOrders) (hunmatched : loc.orderId ∉ loop.matchedLocalIds)
    (hbefore : ∀ y ∈ before, y.2 ∉ loop.matchedExchangeOrders → NoMatch y.1 loc)
    {advancement : ReconcileStateAdvancementCandidate} (hadvances : Advances e.1 loc advancement)
    (hfirst : FirstUndisputed localOpenOrders ((before ++ e :: after).map Prod.fst) loc) :
    ∀ y ∈ before, ¬ StronglyMatches y.1 loc := by
  rintro y hy hmatches
  obtain ⟨b, x, a, rfl, hx, hb⟩ := exists_first (p := fun y => StronglyMatches y.1 loc) hy hmatches
  have hundisputed : Undisputed localOpenOrders (b.map Prod.fst) x.1 loc := by
    refine hfirst (b.map Prod.fst) x.1 ((a ++ e :: after).map Prod.fst) (by simp) hx ?_ ⟨e.1, by simp, advancement, hadvances⟩
    simpa using fun y i hi => hb (y, i) hi
  have hgrows := localRun_grows hlocal
  have hmarked : x.2 ∈ loop.matchedExchangeOrders := by
    by_contra hunmarked
    obtain ⟨success, hmatch, -⟩ := hx
    exact (hbefore x (by simp) hunmarked).not_matches ⟨success, hmatch⟩
  have hxmem : x ∈ b ++ x :: a ++ e :: after := by simp
  by_cases hmarked' : x.2 ∈ exchangeLoop.matchedExchangeOrders
  · -- marked by the first loop, so live, and then its order was taken
    obtain ⟨z, hz, hsame, hlive⟩ := (exchangeRun hexchange).marks x.2 hmarked'
    obtain rfl := eq_of_index hindex hz hxmem hsame
    rw [List.append_assoc, List.cons_append] at hexchange
    exact hunmatched (hgrows.localIds (hundisputed.taken_of_run hexchange hloc hx hlive))
  · -- marked for an earlier local order, which then shares an id with it
    obtain ⟨_, other, _, c, c', hsplit, -, hstep, hafter, hc, hc'⟩ :=
      foldlM_turns (fun loop => x.2 ∈ loop.matchedExchangeOrders) hlocal hmarked' hmarked
    have hother : other ∈ localOpenOrders := hvisited (mem_of_split hsplit)
    suffices hshares : Shares x.1 other ∧ other.orderId ∈ c'.matchedLocalIds by
      refine hunmatched ((localRun_grows hafter).localIds ?_)
      rw [← hundisputed.own other hother hshares.1]
      exact hshares.2
    cases localStep hstep with
    | known => exact absurd hc' hc
    | missing => exact absurd hc' hc
    | matched _ z success _ _ _ hz _ hmatch =>
      simp only [ReconcileLoop.pair, List.mem_append, List.mem_singleton] at hc'
      obtain rfl := eq_of_index hindex hxmem (mem_of_split hz) (hc'.resolve_left hc)
      exact ⟨Matches.shares_of_shares ⟨success, hmatch⟩ hx.shares.1, by simp [ReconcileLoop.pair]⟩
    | conflict _ z _ _ hz hconflict =>
      simp only [ReconcileLoop.pair, List.mem_append, List.mem_singleton] at hc'
      obtain rfl := eq_of_index hindex hxmem hz (hc'.resolve_left hc)
      exact ⟨hconflict.shares, by simp [ReconcileLoop.pair]⟩

/-- **Where an advancement comes from.** A snapshot that supports it; the first of its order if that one is undisputed,
and, where the snapshot is live, with no terminal snapshot of one of its ids ahead of it. -/
theorem advancement_origin {entries : List (ReconcileExchangeOrderSnapshot × ℕ)} {exchangeLoop localLoop : ReconcileLoop}
    (hindex : (entries.map Prod.snd).Nodup)
    (hexchange : entries.foldlM (reconcileExchangeOrder localOpenOrders observedAt) emptyLoop = .ok exchangeLoop)
    (hlocal : localOpenOrders.foldlM (reconcileLocalOrder entries observedAt) exchangeLoop = .ok localLoop)
    {advancement : ReconcileStateAdvancementCandidate} (hmem : advancement ∈ localLoop.advancements) :
    ∃ loc ∈ localOpenOrders, ∃ before e after, entries = before ++ e :: after ∧ Advances e.1 loc advancement ∧
      (FirstUndisputed localOpenOrders (entries.map Prod.fst) loc → ∀ y ∈ before, ¬ StronglyMatches y.1 loc) ∧
      (Live e.1 → ∀ y ∈ before, Terminal y.1 → ¬ SameOrder y.1 e.1) := by
  obtain ⟨result, hresult, hadvancement⟩ := List.mem_filterMap.1 hmem
  by_cases hearly : result ∈ exchangeLoop.results
  · -- reported by the first loop
    obtain ⟨before, e, after, c, c', rfl, hbefore, hstep, -, hc, hc'⟩ :=
      foldlM_turns (fun loop => result ∈ loop.results) hexchange (by simp [emptyLoop]) hearly
    cases exchangeStep hstep with
    | closing => exact absurd hc' hc
    | repeated => exact absurd hc' hc
    | untracked =>
      obtain rfl := List.mem_singleton.1 ((List.mem_append.1 hc').resolve_left hc)
      cases hadvancement
    | repeatedConflict _ _ _ _ _ _ _ hconflict =>
      obtain rfl := List.mem_singleton.1 ((List.mem_append.1 hc').resolve_left hc)
      rw [createIdentityConflictResult_advancement hconflict] at hadvancement
      cases hadvancement
    | conflict _ _ _ _ _ _ _ _ _ hconflict =>
      obtain rfl := List.mem_singleton.1 ((List.mem_append.1 hc').resolve_left hc)
      rw [createIdentityConflictResult_advancement hconflict] at hadvancement
      cases hadvancement
    | matched hlive hnew loc success _ _ _ hsplit hunmatched hmatch _ hpair =>
      obtain rfl := List.mem_singleton.1 ((List.mem_append.1 hc').resolve_left hc)
      obtain ⟨htype, hcandidate, htransition⟩ := evaluateMatchedPair_advancement hpair advancement hadvancement
      have hadvances : Advances e.1 loc advancement := ⟨success, hmatch, htype, hcandidate, htransition⟩
      have hloc := mem_of_split hsplit
      refine ⟨loc, hloc, before, e, after, rfl, hadvances, first_of_unseen hbefore hloc hunmatched hnew hadvances, ?_⟩
      rintro - y hy hterminal ⟨key, hyKey, heKey⟩
      have hstronger : key ∈ c.strongerExchangeIdentityKeys :=
        ((exchangeRun hbefore).stronger key).2 ⟨y, hy, hterminal.not_live, mem_bridgedKeys.2 (Or.inl hyKey)⟩
      exact hnew ⟨key, heKey, Or.inr hstronger⟩
  · -- reported by the second loop
    obtain ⟨visited, loc, rest, c, c', hvisited, hlocalBefore, hstep, -, hc, hc'⟩ :=
      foldlM_turns (fun loop => result ∈ loop.results) hlocal hearly hresult
    have hloc := mem_of_split hvisited
    cases localStep hstep with
    | known => exact absurd hc' hc
    | missing =>
      obtain rfl := List.mem_singleton.1 ((List.mem_append.1 hc').resolve_left hc)
      cases hadvancement
    | conflict _ _ _ _ _ _ hconflict =>
      obtain rfl := List.mem_singleton.1 ((List.mem_append.1 hc').resolve_left hc)
      rw [createIdentityConflictResult_advancement hconflict] at hadvancement
      cases hadvancement
    | matched hunmatched e success _ before after hsplit hunmarked hmatch hfirst hpair =>
      obtain rfl := List.mem_singleton.1 ((List.mem_append.1 hc').resolve_left hc)
      obtain ⟨htype, hcandidate, htransition⟩ := evaluateMatchedPair_advancement hpair advancement hadvancement
      have hadvances : Advances e.1 loc advancement := ⟨success, hmatch, htype, hcandidate, htransition⟩
      subst hsplit
      refine ⟨loc, hloc, before, e, after, rfl, hadvances, ?_, ?_⟩
      · refine first_of_unmarked ?_ hindex hexchange hlocalBefore hloc hunmatched hfirst hadvances
        intro other hother
        rw [hvisited]
        exact List.mem_append_left _ hother
      · -- the first loop marks every live snapshot that matches an unmatched order
        intro hlive
        have hgrows := localRun_grows hlocalBefore
        have hexchangeUnmatched : loc.orderId ∉ exchangeLoop.matchedLocalIds := fun hmem => hunmatched (hgrows.localIds hmem)
        have hmarked := marked_of_live hexchange hloc hexchangeUnmatched ⟨success, hmatch⟩ hlive
        exact absurd (hgrows.marks hmarked) hunmarked

/-! ## The engine -/

/-- the snapshots the engine compares, in priority order -/
def allExchangeOrders (input : ReconcileEngineInput) : List ReconcileExchangeOrderSnapshot :=
  prioritizeExchangeOrderSnapshots (input.exchangeOpenOrders ++ input.exchangeClosedOrders ++ input.orderLookups ++
    buildWebSocketOrderSnapshots input.websocketContext)

/-- the advancement rests on the snapshot `e` of the local order `loc`, with the snapshots `before` ahead of it -/
structure RestsOn (advancement : ReconcileStateAdvancementCandidate) (loc : ReconcileLocalOrderSnapshot)
    (before : List ReconcileExchangeOrderSnapshot) (e : ReconcileExchangeOrderSnapshot) : Prop where
  order : advancement.localOrderId = loc.orderId
  strong : StronglyMatches e loc
  terms : compareImmutableFingerprint e loc = .ok none
  derived : ∃ success, matchOrderIdentity e loc = .ok (.matched success) ∧
    createStateAdvancementCandidate e loc success = .ok (some advancement)
  transition : canTransitionOrderState advancement.currentLocalStatus advancement.targetLocalStatus = true
  newest : ∀ y ∈ before, ¬ StronglyMatches y loc
  current : ∀ y ∈ before, Terminal y → ¬ SameOrder y e

/-- every advancement rests on the newest snapshot of one local order, and no order is advanced twice -/
def Justified (localOpenOrders : List ReconcileLocalOrderSnapshot) (exchangeOrders : List ReconcileExchangeOrderSnapshot)
    (advancements : List ReconcileStateAdvancementCandidate) : Prop :=
  (∀ advancement ∈ advancements, ∃ loc ∈ localOpenOrders, ∃ before e after,
    exchangeOrders = before ++ e :: after ∧ RestsOn advancement loc before e) ∧
  (advancements.map ReconcileStateAdvancementCandidate.localOrderId).Nodup

/-- a first snapshot that would advance its order and is not live has no terminal snapshot of its ids ahead of it -/
def FirstCurrent (exchangeOrders : List ReconcileExchangeOrderSnapshot) (loc : ReconcileLocalOrderSnapshot) : Prop :=
  ∀ before x after, exchangeOrders = before ++ x :: after → (∀ y ∈ before, ¬ StronglyMatches y loc) →
    (∃ advancement, Advances x loc advancement) → ¬ Live x → ∀ y ∈ before, Terminal y → ¬ SameOrder y x

/-- the first snapshot of each local order is its own, as far as an advancement of the order depends on it -/
def Attributable (localOpenOrders : List ReconcileLocalOrderSnapshot)
    (exchangeOrders : List ReconcileExchangeOrderSnapshot) : Prop :=
  ∀ loc ∈ localOpenOrders, FirstUndisputed localOpenOrders exchangeOrders loc ∧ FirstCurrent exchangeOrders loc

theorem reconcileOrders_justified {exchangeOrders : List ReconcileExchangeOrderSnapshot}
    {results : List OrderPairReconcileResult} (h : reconcileOrders exchangeOrders localOpenOrders observedAt = .ok results)
    (hinput : Attributable localOpenOrders exchangeOrders) :
    Justified localOpenOrders exchangeOrders (results.filterMap OrderPairReconcileResult.stateAdvancement) := by
  obtain ⟨exchangeLoop, hexchange, h⟩ := bind_eq_ok.1 h
  obtain ⟨localLoop, hlocal, h⟩ := bind_eq_ok.1 h
  obtain rfl := pure_eq_ok.1 h
  refine ⟨?_, (advancedOnce hexchange hlocal).1⟩
  intro advancement hmem
  obtain ⟨loc, hloc, before, e, after, hsplit, hadvances, hnewest, hcurrent⟩ :=
    advancement_origin (zipIdx_nodup exchangeOrders) hexchange hlocal hmem
  have horders : exchangeOrders = before.map Prod.fst ++ e.1 :: after.map Prod.fst := by
    rw [← List.zipIdx_map_fst 0 exchangeOrders, hsplit]
    simp
  rw [List.zipIdx_map_fst] at hnewest
  have hnewest : ∀ y ∈ before.map Prod.fst, ¬ StronglyMatches y loc := by
    simpa using hnewest (hinput loc hloc).1
  have hcurrent : ∀ y ∈ before.map Prod.fst, Terminal y → ¬ SameOrder y e.1 := by
    by_cases hlive : Live e.1
    · simpa using hcurrent hlive
    · exact (hinput loc hloc).2 _ e.1 _ horders hnewest ⟨advancement, hadvances⟩ hlive
  have hstrong := hadvances.stronglyMatches
  obtain ⟨success, hmatch, -, hcandidate, htransition⟩ := hadvances
  obtain ⟨horder, hstatus, -⟩ := createStateAdvancementCandidate_fields hcandidate
  refine ⟨loc, hloc, _, e.1, _, horders, ?_⟩
  exact ⟨horder, hstrong, hstrong.shares.2, ⟨success, hmatch, hcandidate⟩, hstatus ▸ htransition, hnewest, hcurrent⟩

/-- **The list order is the priority.** Where every capture time is a date, no snapshot is ahead of one with a higher
priority: a later capture time, or the same one and a better source. -/
theorem allExchangeOrders_sorted {input : ReconcileEngineInput}
    (hdates : ∀ e ∈ allExchangeOrders input, e.capturedAt.ms ≠ none) :
    (allExchangeOrders input).Pairwise (fun a b => (comparePriority a b).isLE) := by
  have hsort : allExchangeOrders input = stableSort compareReadablePriority
      (input.exchangeOpenOrders ++ input.exchangeClosedOrders ++ input.orderLookups ++
        buildWebSocketOrderSnapshots input.websocketContext) := by
    refine stableSort_congr fun a ha b hb => comparePriority_readable ?_ ?_
    · exact hdates a (mem_stableSort.2 ha)
    · exact hdates b (mem_stableSort.2 hb)
  have hpairwise : (allExchangeOrders input).Pairwise (fun a b => (compareReadablePriority a b).isLE) := by
    rw [hsort]
    exact stableSort_pairwise
  refine hpairwise.imp_of_mem fun ha hb hle => ?_
  rw [comparePriority_readable (hdates _ ha) (hdates _ hb)]
  exact hle

end Host

/-! ## Runs -/

/-- an order that is reported as done -/
def filledInput : ReconcileEngineInput :=
  sampleInput [] [sampleSnapshot .closed "done" (some "u") (some "a") "0" 1] [] []
    [sampleOrder "1" (some "u") (some "a")] "6"

/-- the order is canceled at 3, seen open at 2 and, by an older snapshot that lacks the uuid, done at 1 -/
def staleInput : ReconcileEngineInput :=
  sampleInput [sampleSnapshot .open "wait" (some "u") (some "a") "2" 2] [sampleSnapshot .closed "done" none (some "a") "0" 1]
    [sampleSnapshot .lookup "cancel" (some "u") none "2" 3] [] [sampleOrder "1" none (some "a")] "6"

end SeeMirai.Reconcile
