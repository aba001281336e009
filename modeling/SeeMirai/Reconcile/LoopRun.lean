/-
What the two reconcile loops have recorded after any number of iterations.

Results:
- `exchangeRun_grows` / `localRun_grows`: the loops only add to their records.
- `exchangeRun`: after the snapshots `visited`, a closing key comes from a non-live snapshot of `visited`, a matched key
  from a live one that was paired, and only live snapshots are marked.
- `advancedOnce`: each local order is advanced at most once.
-/
import SeeMirai.Reconcile.Matching

namespace SeeMirai.Reconcile

open Fallible

/-! ## Bridged ids -/

/-- the ids a closing snapshot accounts for: its own, and those of every local order it shares one with -/
def bridgedKeys (localOpenOrders : List ReconcileLocalOrderSnapshot) (exchange : ReconcileExchangeOrderSnapshot) :
    List String :=
  addExchangeIdentityKeysWithLocalBridge exchange localOpenOrders []

theorem mem_addBridge {exchange : ReconcileExchangeOrderSnapshot} {localOpenOrders : List ReconcileLocalOrderSnapshot}
    {keys : List String} {key : String} :
    key ∈ addExchangeIdentityKeysWithLocalBridge exchange localOpenOrders keys ↔
      key ∈ keys ∨ key ∈ bridgedKeys localOpenOrders exchange := by
  simp only [bridgedKeys, addExchangeIdentityKeysWithLocalBridge, List.mem_append, List.not_mem_nil, false_or, or_assoc]

theorem mem_bridgedKeys {exchange : ReconcileExchangeOrderSnapshot} {localOpenOrders : List ReconcileLocalOrderSnapshot}
    {key : String} :
    key ∈ bridgedKeys localOpenOrders exchange ↔ key ∈ getStrongExchangeIdentityKeys exchange ∨
      ∃ loc ∈ localOpenOrders, Shares exchange loc ∧ key ∈ getStrongLocalIdentityKeys loc := by
  simp only [bridgedKeys, addExchangeIdentityKeysWithLocalBridge, List.nil_append, List.mem_append, List.mem_flatMap,
    List.mem_filter, Shares, and_assoc]

/-- one exchange order by id: the same uuid or the same identifier -/
def SameOrder (a b : ReconcileExchangeOrderSnapshot) : Prop :=
  ∃ key ∈ getStrongExchangeIdentityKeys a, key ∈ getStrongExchangeIdentityKeys b

instance (a b : ReconcileExchangeOrderSnapshot) : Decidable (SameOrder a b) :=
  inferInstanceAs (Decidable (∃ key ∈ getStrongExchangeIdentityKeys a, key ∈ getStrongExchangeIdentityKeys b))

theorem SameOrder.symm {a b : ReconcileExchangeOrderSnapshot} (h : SameOrder a b) : SameOrder b a := by
  obtain ⟨key, ha, hb⟩ := h
  exact ⟨key, hb, ha⟩

theorem sameOrder_iff_ids {a b : ReconcileExchangeOrderSnapshot} :
    SameOrder a b ↔ (a.exchangeOrderId ≠ none ∧ a.exchangeOrderId = b.exchangeOrderId) ∨
      (a.identifier ≠ none ∧ a.identifier = b.identifier) := by
  rw [SameOrder, getStrongExchangeIdentityKeys, getStrongExchangeIdentityKeys, common_key_iff]

/-! ## Growth -/

/-- `loop'` extends `loop`: records only grow -/
structure ReconcileLoop.Grows (loop loop' : ReconcileLoop) : Prop where
  results : loop.results <+: loop'.results
  localIds : loop.matchedLocalIds ⊆ loop'.matchedLocalIds
  marks : loop.matchedExchangeOrders ⊆ loop'.matchedExchangeOrders
  matchedKeys : loop.matchedExchangeIdentityKeys ⊆ loop'.matchedExchangeIdentityKeys
  strongerKeys : loop.strongerExchangeIdentityKeys ⊆ loop'.strongerExchangeIdentityKeys

theorem ReconcileLoop.Grows.refl (loop : ReconcileLoop) : loop.Grows loop :=
  ⟨List.prefix_refl _, List.Subset.refl _, List.Subset.refl _, List.Subset.refl _, List.Subset.refl _⟩

theorem ReconcileLoop.Grows.trans {a b c : ReconcileLoop} (h₁ : a.Grows b) (h₂ : b.Grows c) : a.Grows c :=
  ⟨h₁.results.trans h₂.results, List.Subset.trans h₁.localIds h₂.localIds, List.Subset.trans h₁.marks h₂.marks,
    List.Subset.trans h₁.matchedKeys h₂.matchedKeys, List.Subset.trans h₁.strongerKeys h₂.strongerKeys⟩

theorem ReconcileLoop.pair_grows (loop : ReconcileLoop) (exchange : ReconcileExchangeOrderSnapshot) (index : ℕ)
    (loc : ReconcileLocalOrderSnapshot) (result : OrderPairReconcileResult) :
    loop.Grows (loop.pair exchange index loc result) := by
  refine ⟨List.prefix_append _ _, List.subset_append_left _ _, List.subset_append_left _ _, ?_, List.Subset.refl _⟩
  intro key hkey
  simp only [ReconcileLoop.pair, addMatchedIdentityKeys, List.mem_append]
  exact Or.inl (Or.inl hkey)

theorem ReconcileLoop.mem_pair_keys {loop : ReconcileLoop} {exchange : ReconcileExchangeOrderSnapshot} {index : ℕ}
    {loc : ReconcileLocalOrderSnapshot} {result : OrderPairReconcileResult} {key : String} :
    key ∈ (loop.pair exchange index loc result).matchedExchangeIdentityKeys ↔
      key ∈ loop.matchedExchangeIdentityKeys ∨ key ∈ getStrongExchangeIdentityKeys exchange ∨
        key ∈ getStrongLocalIdentityKeys loc := by
  simp only [ReconcileLoop.pair, addMatchedIdentityKeys, List.mem_append, or_assoc]

section Host

variable [Host] {localOpenOrders : List ReconcileLocalOrderSnapshot} {observedAt : String}

theorem ExchangeStep.grows {entry : ReconcileExchangeOrderSnapshot × ℕ} {loop loop' : ReconcileLoop}
    (h : ExchangeStep localOpenOrders observedAt loop entry loop') : loop.Grows loop' := by
  cases h with
  | closing hlive =>
    refine ⟨List.prefix_refl _, List.Subset.refl _, List.Subset.refl _, List.Subset.refl _, ?_⟩
    intro key hkey
    exact mem_addBridge.2 (Or.inl hkey)
  | repeated hlive hseen hno =>
    exact ⟨List.prefix_refl _, List.Subset.refl _, List.subset_append_left _ _, List.Subset.refl _, List.Subset.refl _⟩
  | untracked hlive hnew mismatch hnone hmismatch =>
    exact ⟨List.prefix_append _ _, List.Subset.refl _, List.Subset.refl _, List.Subset.refl _, List.Subset.refl _⟩
  | repeatedConflict => exact ReconcileLoop.pair_grows _ _ _ _ _
  | matched => exact ReconcileLoop.pair_grows _ _ _ _ _
  | conflict => exact ReconcileLoop.pair_grows _ _ _ _ _

theorem LocalStep.grows {exchangeOrders : List (ReconcileExchangeOrderSnapshot × ℕ)} {loc : ReconcileLocalOrderSnapshot}
    {loop loop' : ReconcileLoop} (h : LocalStep observedAt loop exchangeOrders loc loop') : loop.Grows loop' := by
  cases h with
  | known hmatched => exact ReconcileLoop.Grows.refl loop
  | missing hunmatched =>
    exact ⟨List.prefix_append _ _, List.Subset.refl _, List.Subset.refl _, List.Subset.refl _, List.Subset.refl _⟩
  | matched => exact ReconcileLoop.pair_grows _ _ _ _ _
  | conflict => exact ReconcileLoop.pair_grows _ _ _ _ _

theorem exchangeRun_grows {entries : List (ReconcileExchangeOrderSnapshot × ℕ)} {loop loop' : ReconcileLoop}
    (h : entries.foldlM (reconcileExchangeOrder localOpenOrders observedAt) loop = .ok loop') : loop.Grows loop' :=
  foldlM_keeps loop.Grows (fun _ _ _ _ hstep hgrows => hgrows.trans (exchangeStep hstep).grows) h (.refl loop)

theorem localRun_grows {exchangeOrders : List (ReconcileExchangeOrderSnapshot × ℕ)}
    {locals : List ReconcileLocalOrderSnapshot} {loop loop' : ReconcileLoop}
    (h : locals.foldlM (reconcileLocalOrder exchangeOrders observedAt) loop = .ok loop') : loop.Grows loop' :=
  foldlM_keeps loop.Grows (fun _ _ _ _ hstep hgrows => hgrows.trans (localStep hstep).grows) h (.refl loop)

/-! ## Records of the first loop -/

def emptyLoop : ReconcileLoop := ⟨[], [], [], [], []⟩

/-- what the loop over the exchange snapshots has recorded after `visited` -/
structure ExchangeRun (localOpenOrders : List ReconcileLocalOrderSnapshot)
    (visited : List (ReconcileExchangeOrderSnapshot × ℕ)) (loop : ReconcileLoop) : Prop where
  stronger : ∀ key, key ∈ loop.strongerExchangeIdentityKeys ↔
    ∃ entry ∈ visited, ¬ Live entry.1 ∧ key ∈ bridgedKeys localOpenOrders entry.1
  matchedKeys : ∀ key ∈ loop.matchedExchangeIdentityKeys, ∃ entry ∈ visited, Live entry.1 ∧
    ∃ loc ∈ localOpenOrders, Shares entry.1 loc ∧ loc.orderId ∈ loop.matchedLocalIds ∧
      (key ∈ getStrongExchangeIdentityKeys entry.1 ∨ key ∈ getStrongLocalIdentityKeys loc)
  marks : ∀ index ∈ loop.matchedExchangeOrders, ∃ entry ∈ visited, entry.2 = index ∧ Live entry.1

omit [Host] in
theorem exchangeRun_empty : ExchangeRun localOpenOrders [] emptyLoop where
  stronger := by simp [emptyLoop]
  matchedKeys := by simp [emptyLoop]
  marks := by simp [emptyLoop]

omit [Host] in
/-- a live snapshot changes nothing about the closing keys -/
theorem ExchangeRun.stronger_live {visited : List (ReconcileExchangeOrderSnapshot × ℕ)} {loop : ReconcileLoop}
    (h : ExchangeRun localOpenOrders visited loop) {entry : ReconcileExchangeOrderSnapshot × ℕ} (hlive : Live entry.1)
    (key : String) :
    key ∈ loop.strongerExchangeIdentityKeys ↔
      ∃ other ∈ visited ++ [entry], ¬ Live other.1 ∧ key ∈ bridgedKeys localOpenOrders other.1 := by
  rw [h.stronger]
  constructor
  · rintro ⟨other, hother, hclosing⟩
    exact ⟨other, List.mem_append_left _ hother, hclosing⟩
  · rintro ⟨other, hother, hclosing⟩
    rcases List.mem_append.1 hother with hother | hother
    · exact ⟨other, hother, hclosing⟩
    · rw [List.mem_singleton.1 hother] at hclosing
      exact absurd hlive hclosing.1

omit [Host] in
/-- pairing a live snapshot with a local order it shares an id with, or that has no id either -/
theorem ExchangeRun.pair {visited : List (ReconcileExchangeOrderSnapshot × ℕ)} {loop : ReconcileLoop}
    (h : ExchangeRun localOpenOrders visited loop) {entry : ReconcileExchangeOrderSnapshot × ℕ} (hlive : Live entry.1)
    {loc : ReconcileLocalOrderSnapshot} (hloc : loc ∈ localOpenOrders)
    (hids : Shares entry.1 loc ∨ (Idless entry.1 ∧ IdlessLocal loc)) (result : OrderPairReconcileResult) :
    ExchangeRun localOpenOrders (visited ++ [entry]) (loop.pair entry.1 entry.2 loc result) where
  stronger := h.stronger_live hlive
  matchedKeys := by
    intro key hkey
    rcases ReconcileLoop.mem_pair_keys.1 hkey with hold | hnew
    · obtain ⟨other, hother, hlive', loc', hloc', hshares, hmatched, hkey⟩ := h.matchedKeys key hold
      exact ⟨other, List.mem_append_left _ hother, hlive', loc', hloc', hshares, List.mem_append_left _ hmatched, hkey⟩
    · rcases hids with hshares | ⟨hidless, hidlessLocal⟩
      · exact ⟨entry, by simp, hlive, loc, hloc, hshares, by simp [ReconcileLoop.pair], hnew⟩
      · -- two sides without ids record none
        rw [keys_eq_nil_iff.2 hidless, getStrongLocalIdentityKeys, strongIdentityKeys, hidlessLocal.1,
          hidlessLocal.2] at hnew
        simp at hnew
  marks := by
    intro index hindex
    rcases List.mem_append.1 hindex with hold | hnew
    · obtain ⟨other, hother, hsame⟩ := h.marks index hold
      exact ⟨other, List.mem_append_left _ hother, hsame⟩
    · exact ⟨entry, by simp, (List.mem_singleton.1 hnew).symm, hlive⟩

theorem ExchangeRun.step {visited : List (ReconcileExchangeOrderSnapshot × ℕ)} {loop loop' : ReconcileLoop}
    (h : ExchangeRun localOpenOrders visited loop) {entry : ReconcileExchangeOrderSnapshot × ℕ}
    (hstep : ExchangeStep localOpenOrders observedAt loop entry loop') :
    ExchangeRun localOpenOrders (visited ++ [entry]) loop' := by
  have hold : ∀ key ∈ loop.matchedExchangeIdentityKeys, ∃ other ∈ visited ++ [entry], Live other.1 ∧
      ∃ loc ∈ localOpenOrders, Shares other.1 loc ∧ loc.orderId ∈ loop.matchedLocalIds ∧
        (key ∈ getStrongExchangeIdentityKeys other.1 ∨ key ∈ getStrongLocalIdentityKeys loc) := by
    intro key hkey
    obtain ⟨other, hother, hrest⟩ := h.matchedKeys key hkey
    exact ⟨other, List.mem_append_left _ hother, hrest⟩
  have hmarks : ∀ index ∈ loop.matchedExchangeOrders, ∃ other ∈ visited ++ [entry], other.2 = index ∧ Live other.1 := by
    intro index hindex
    obtain ⟨other, hother, hsame⟩ := h.marks index hindex
    exact ⟨other, List.mem_append_left _ hother, hsame⟩
  cases hstep with
  | closing hlive =>
    refine ⟨?_, hold, hmarks⟩
    intro key
    rw [mem_addBridge, h.stronger]
    constructor
    · rintro (⟨other, hother, hclosing⟩ | hkey)
      · exact ⟨other, List.mem_append_left _ hother, hclosing⟩
      · exact ⟨entry, by simp, hlive, hkey⟩
    · rintro ⟨other, hother, hclosing⟩
      rcases List.mem_append.1 hother with hother | hother
      · exact Or.inl ⟨other, hother, hclosing⟩
      · rw [List.mem_singleton.1 hother] at hclosing
        exact Or.inr hclosing.2
  | repeated hlive hseen hno =>
    refine ⟨h.stronger_live hlive, hold, ?_⟩
    intro index hindex
    rcases List.mem_append.1 hindex with hindex | hindex
    · exact hmarks index hindex
    · exact ⟨entry, by simp, (List.mem_singleton.1 hindex).symm, hlive⟩
  | untracked hlive hnew mismatch hnone hmismatch => exact ⟨h.stronger_live hlive, hold, hmarks⟩
  | repeatedConflict hlive hseen loc failure result hloc hconflict hresult =>
    exact h.pair hlive hloc (Or.inl hconflict.shares) result
  | conflict hlive hnew loc failure result hloc hunmatched hconflict hnone hresult =>
    exact h.pair hlive hloc (Or.inl hconflict.shares) result
  | matched hlive hnew loc success result before after hsplit hunmatched hmatch hfirst hresult =>
    refine h.pair hlive (mem_of_split hsplit) ?_ result
    rcases Matches.cases ⟨success, hmatch⟩ with hstrong | hidless
    · exact Or.inl hstrong.shares.1
    · exact Or.inr hidless

/-- **Records of the first loop**, after any snapshots. -/
theorem exchangeRun {visited : List (ReconcileExchangeOrderSnapshot × ℕ)} {loop : ReconcileLoop}
    (h : visited.foldlM (reconcileExchangeOrder localOpenOrders observedAt) emptyLoop = .ok loop) :
    ExchangeRun localOpenOrders visited loop :=
  foldlM_history (ExchangeRun localOpenOrders) exchangeRun_empty
    (fun _ _ _ _ hrun hstep => hrun.step (exchangeStep hstep)) h

/-! ## Advancements -/

/-- the snapshot, as the evidence for the local order, supports the advancement -/
def Advances (exchange : ReconcileExchangeOrderSnapshot) (loc : ReconcileLocalOrderSnapshot)
    (advancement : ReconcileStateAdvancementCandidate) : Prop :=
  ∃ success, matchOrderIdentity exchange loc = .ok (.matched success) ∧ success.matchType ≠ .fingerprint ∧
    createStateAdvancementCandidate exchange loc success = .ok (some advancement) ∧
    canTransitionOrderState loc.status advancement.targetLocalStatus = true

theorem Advances.stronglyMatches {exchange : ReconcileExchangeOrderSnapshot} {loc : ReconcileLocalOrderSnapshot}
    {advancement : ReconcileStateAdvancementCandidate} (h : Advances exchange loc advancement) :
    StronglyMatches exchange loc := by
  obtain ⟨success, hmatch, hstrong, -⟩ := h
  exact ⟨success, hmatch, hstrong⟩

theorem openRemainingCandidate_fields {exchange : ReconcileExchangeOrderSnapshot} {loc : ReconcileLocalOrderSnapshot}
    {identity : IdentityMatchSuccess} {advancement : ReconcileStateAdvancementCandidate}
    (h : openRemainingCandidate exchange loc identity = .ok (some (some advancement))) :
    advancement.localOrderId = loc.orderId ∧ advancement.currentLocalStatus = loc.status ∧
      advancement.exchangeStatus = exchange.exchangeStatus := by
  unfold openRemainingCandidate at h
  split at h
  · split at h
    · obtain ⟨exchangeRemaining, -, h⟩ := bind_eq_ok.1 h
      obtain ⟨localRemaining, -, h⟩ := bind_eq_ok.1 h
      have h := pure_eq_ok.1 h
      split_ifs at h
      · cases h
      · cases h
        exact ⟨rfl, rfl, rfl⟩
    · cases pure_eq_ok.1 h
  · cases pure_eq_ok.1 h

/-- a candidate is about the pair it was made for -/
theorem createStateAdvancementCandidate_fields {exchange : ReconcileExchangeOrderSnapshot}
    {loc : ReconcileLocalOrderSnapshot} {identity : IdentityMatchSuccess}
    {advancement : ReconcileStateAdvancementCandidate}
    (h : createStateAdvancementCandidate exchange loc identity = .ok (some advancement)) :
    advancement.localOrderId = loc.orderId ∧ advancement.currentLocalStatus = loc.status ∧
      advancement.exchangeStatus = exchange.exchangeStatus := by
  obtain ⟨openCandidate, hopen, h⟩ := bind_eq_ok.1 h
  cases openCandidate with
  | some candidate =>
    obtain rfl := pure_eq_ok.1 h
    exact openRemainingCandidate_fields hopen
  | none =>
    dsimp only at h
    split at h
    · split at h
      · cases pure_eq_ok.1 h
      · obtain ⟨remains, -, h⟩ := bind_eq_ok.1 h
        have h := pure_eq_ok.1 h
        split_ifs at h
        all_goals
          cases h
          exact ⟨rfl, rfl, rfl⟩
    · split at h
      · cases pure_eq_ok.1 h
        exact ⟨rfl, rfl, rfl⟩
      · cases pure_eq_ok.1 h

theorem evaluateMatchedPair_advancement {exchange : ReconcileExchangeOrderSnapshot} {loc : ReconcileLocalOrderSnapshot}
    {identity : IdentityMatchSuccess} {result : OrderPairReconcileResult}
    (h : evaluateMatchedPair exchange loc identity observedAt = .ok result) :
    ∀ advancement, result.stateAdvancement = some advancement →
      identity.matchType ≠ .fingerprint ∧
        createStateAdvancementCandidate exchange loc identity = .ok (some advancement) ∧
        canTransitionOrderState loc.status advancement.targetLocalStatus = true := by
  intro advancement hadvancement
  obtain ⟨candidate, hcandidate, h⟩ := bind_eq_ok.1 h
  obtain rfl := pure_eq_ok.1 h
  cases candidate with
  | none => cases hadvancement
  | some candidate =>
    dsimp only at hadvancement
    split_ifs at hadvancement with htype htransition
    · cases hadvancement
      exact ⟨htype, hcandidate, by simpa using htransition⟩

theorem createIdentityConflictResult_advancement {exchange : ReconcileExchangeOrderSnapshot}
    {loc : ReconcileLocalOrderSnapshot} {failure : IdentityMatchFailure} {result : OrderPairReconcileResult}
    (h : createIdentityConflictResult exchange loc failure observedAt = .ok result) : result.stateAdvancement = none := by
  obtain ⟨identity, -, h⟩ := bind_eq_ok.1 h
  obtain rfl := pure_eq_ok.1 h
  rfl

/-- the advancements reported so far -/
def ReconcileLoop.advancements (loop : ReconcileLoop) : List ReconcileStateAdvancementCandidate :=
  loop.results.filterMap OrderPairReconcileResult.stateAdvancement

/-- every order is advanced at most once, and then counts as matched -/
def ReconcileLoop.AdvancedOnce (loop : ReconcileLoop) : Prop :=
  (loop.advancements.map ReconcileStateAdvancementCandidate.localOrderId).Nodup ∧
    ∀ advancement ∈ loop.advancements, advancement.localOrderId ∈ loop.matchedLocalIds

omit [Host] in
theorem ReconcileLoop.AdvancedOnce.pair {loop : ReconcileLoop} (h : loop.AdvancedOnce)
    {exchange : ReconcileExchangeOrderSnapshot} {index : ℕ} {loc : ReconcileLocalOrderSnapshot}
    {result : OrderPairReconcileResult}
    (hresult : ∀ advancement, result.stateAdvancement = some advancement →
      advancement.localOrderId = loc.orderId ∧ loc.orderId ∉ loop.matchedLocalIds) :
    (loop.pair exchange index loc result).AdvancedOnce := by
  have hsplit : (loop.pair exchange index loc result).advancements =
      loop.advancements ++ result.stateAdvancement.toList := by
    simp only [ReconcileLoop.advancements, ReconcileLoop.pair, List.filterMap_append]
    cases hadvancement : result.stateAdvancement <;> simp [hadvancement]
  cases hadvancement : result.stateAdvancement with
  | none =>
    rw [ReconcileLoop.AdvancedOnce, hsplit, hadvancement, Option.toList_none, List.append_nil]
    exact ⟨h.1, fun other hother => List.mem_append_left _ (h.2 other hother)⟩
  | some advancement =>
    obtain ⟨hid, hunmatched⟩ := hresult advancement hadvancement
    rw [ReconcileLoop.AdvancedOnce, hsplit, hadvancement, Option.toList_some]
    refine ⟨?_, ?_⟩
    · rw [List.map_append, List.map_singleton, List.nodup_append]
      refine ⟨h.1, List.nodup_singleton _, ?_⟩
      rintro id hold _ hnew rfl
      obtain ⟨other, hother, hsame⟩ := List.mem_map.1 hold
      rw [List.mem_singleton.1 hnew, hid] at hsame
      exact hunmatched (hsame ▸ h.2 other hother)
    · intro other hother
      rcases List.mem_append.1 hother with hother | hother
      · exact List.mem_append_left _ (h.2 other hother)
      · rw [List.mem_singleton.1 hother, hid]
        simp [ReconcileLoop.pair]

omit [Host] in
/-- a result without an advancement changes nothing -/
theorem ReconcileLoop.AdvancedOnce.report {loop : ReconcileLoop} (h : loop.AdvancedOnce)
    {result : OrderPairReconcileResult} (hresult : result.stateAdvancement = none) :
    ReconcileLoop.AdvancedOnce { loop with results := loop.results ++ [result] } := by
  have hsame : ReconcileLoop.advancements { loop with results := loop.results ++ [result] } = loop.advancements := by
    simp [ReconcileLoop.advancements, List.filterMap_append, hresult]
  rw [ReconcileLoop.AdvancedOnce, hsame]
  exact h

theorem evaluateMatchedPair_localOrderId {exchange : ReconcileExchangeOrderSnapshot} {loc : ReconcileLocalOrderSnapshot}
    {identity : IdentityMatchSuccess} {result : OrderPairReconcileResult}
    (h : evaluateMatchedPair exchange loc identity observedAt = .ok result)
    {advancement : ReconcileStateAdvancementCandidate} (hadvancement : result.stateAdvancement = some advancement) :
    advancement.localOrderId = loc.orderId :=
  (createStateAdvancementCandidate_fields (evaluateMatchedPair_advancement h advancement hadvancement).2.1).1

theorem ReconcileLoop.AdvancedOnce.exchangeStep {loop loop' : ReconcileLoop} (h : loop.AdvancedOnce)
    {entry : ReconcileExchangeOrderSnapshot × ℕ} (hstep : ExchangeStep localOpenOrders observedAt loop entry loop') :
    loop'.AdvancedOnce := by
  cases hstep with
  | closing hlive => exact h
  | repeated hlive hseen hno => exact h
  | untracked hlive hnew mismatch hnone hmismatch => exact h.report rfl
  | repeatedConflict hlive hseen loc failure result hloc hconflict hresult =>
    exact h.pair (by simp [createIdentityConflictResult_advancement hresult])
  | conflict hlive hnew loc failure result hloc hunmatched hconflict hnone hresult =>
    exact h.pair (by simp [createIdentityConflictResult_advancement hresult])
  | matched hlive hnew loc success result before after hsplit hunmatched hmatch hfirst hresult =>
    exact h.pair fun advancement hadvancement => ⟨evaluateMatchedPair_localOrderId hresult hadvancement, hunmatched⟩

theorem ReconcileLoop.AdvancedOnce.localStep {loop loop' : ReconcileLoop} (h : loop.AdvancedOnce)
    {exchangeOrders : List (ReconcileExchangeOrderSnapshot × ℕ)} {loc : ReconcileLocalOrderSnapshot}
    (hstep : LocalStep observedAt loop exchangeOrders loc loop') : loop'.AdvancedOnce := by
  cases hstep with
  | known hmatched => exact h
  | missing hunmatched => exact h.report rfl
  | conflict hunmatched entry failure result hentry hconflict hresult =>
    exact h.pair (by simp [createIdentityConflictResult_advancement hresult])
  | matched hunmatched entry success result before after hsplit hunmarked hmatch hfirst hresult =>
    exact h.pair fun advancement hadvancement => ⟨evaluateMatchedPair_localOrderId hresult hadvancement, hunmatched⟩

/-- **Each order is advanced at most once**, whatever the two loops visit. -/
theorem advancedOnce {entries : List (ReconcileExchangeOrderSnapshot × ℕ)} {locals : List ReconcileLocalOrderSnapshot}
    {exchangeLoop localLoop : ReconcileLoop}
    (hexchange : entries.foldlM (reconcileExchangeOrder localOpenOrders observedAt) emptyLoop = .ok exchangeLoop)
    (hlocal : locals.foldlM (reconcileLocalOrder entries observedAt) exchangeLoop = .ok localLoop) :
    localLoop.AdvancedOnce := by
  have hfirst : exchangeLoop.AdvancedOnce :=
    foldlM_keeps ReconcileLoop.AdvancedOnce (fun _ _ _ _ hstep h => h.exchangeStep (Reconcile.exchangeStep hstep))
      hexchange ⟨by simp [emptyLoop, ReconcileLoop.advancements], by simp [emptyLoop, ReconcileLoop.advancements]⟩
  exact foldlM_keeps ReconcileLoop.AdvancedOnce (fun _ _ _ _ hstep h => h.localStep (Reconcile.localStep hstep))
    hlocal hfirst

end Host

/-! ## Sample snapshots -/

/-- two units of one market at the price 3, as the exchange reports them -/
def sampleSnapshot (source : SnapshotSource) (exchangeStatus : String) (exchangeOrderId identifier : Option String)
    (remainingQuantity : String) (capturedAt : Int) : ReconcileExchangeOrderSnapshot where
  exchangeOrderId := exchangeOrderId
  identifier := identifier
  market := "KRW-BTC"
  side := .buy
  exchangeStatus := exchangeStatus
  requestedQuantity := "2"
  remainingQuantity := some remainingQuantity
  requestedPrice := some "3"
  source := source
  capturedAt := ⟨some capturedAt, ""⟩

/-- the same order as the local store has it, accepted and untouched -/
def sampleOrder (orderId : String) (exchangeOrderId identifier : Option String) : ReconcileLocalOrderSnapshot where
  orderId := orderId
  exchangeOrderId := exchangeOrderId
  identifier := identifier
  market := "KRW-BTC"
  side := .buy
  status := .accepted
  requestedQuantity := "2"
  remainingQuantity := "2"
  requestedPrice := some "3"
  reservedFee := none
  remainingFee := none
  createdAt := none

/-- an input whose balances agree, with `locked` KRW held for the open orders -/
def sampleInput (exchangeOpenOrders exchangeClosedOrders orderLookups : List ReconcileExchangeOrderSnapshot)
    (events : List ReconcileWebSocketEvent) (localOpenOrders : List ReconcileLocalOrderSnapshot) (locked : String) :
    ReconcileEngineInput where
  exchangeOpenOrders := exchangeOpenOrders
  exchangeClosedOrders := exchangeClosedOrders
  orderLookups := orderLookups
  websocketContext := ⟨some ⟨some 0, ""⟩, events, none⟩
  localOpenOrders := localOpenOrders
  localBalances := some [⟨"KRW", "10", locked, "16"⟩]
  exchangeBalances := some [⟨"KRW", "10", locked, "16"⟩]
  closedOrderWindow := ⟨⟨some 0, ""⟩, ⟨some 9, ""⟩, false⟩
  observedAt := ""

end SeeMirai.Reconcile
