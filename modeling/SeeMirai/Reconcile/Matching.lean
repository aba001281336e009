/-
What one iteration of each reconcile loop can do, and what a match of identities means. The proofs about the engine
below go through these and never unfold the loops again.

Results:
- `findFirst_some` / `findFirst_none`: a search answers with the first candidate that passes.
- `Shares`: a snapshot and a local order carry the same uuid or the same identifier.
- `matchOrderIdentity_cases`: two sides that share an id match by it or conflict, two sides without any id match by their
  terms, every other pair is refused. `StronglyMatches.shares`, `Matches.cases`, `Conflicts.shares`, `Shares.answer`: the
  same read from the answer.
- `exchangeStep` / `localStep`: the outcomes of one iteration over the exchange snapshots, and of one over the local
  orders.
-/
import SeeMirai.Reconcile.Engine

namespace SeeMirai.Reconcile

open Fallible

/-! ## Searching -/

section Search

variable {α β : Type} {skip : α → Bool} {test : α → Except Thrown (Option β)}

theorem findFirst_some {xs : List α} {a : α} {b : β} (h : findFirst skip test xs = .ok (some (a, b))) :
    ∃ before after, xs = before ++ a :: after ∧ skip a = false ∧ test a = .ok (some b) ∧
      ∀ x ∈ before, skip x = false → test x = .ok none := by
  induction xs with
  | nil => cases pure_eq_ok.1 h
  | cons x xs ih =>
    rw [findFirst] at h
    split_ifs at h with hskip
    · obtain ⟨before, after, rfl, ha, hb, hbefore⟩ := ih h
      refine ⟨x :: before, after, rfl, ha, hb, ?_⟩
      rintro y hy hyskip
      rcases List.mem_cons.1 hy with rfl | hy
      · rw [hskip] at hyskip
        cases hyskip
      · exact hbefore y hy hyskip
    · obtain ⟨answer, hanswer, h⟩ := bind_eq_ok.1 h
      cases answer with
      | some found =>
        obtain ⟨rfl, rfl⟩ := Prod.mk.inj (Option.some.inj (pure_eq_ok.1 h))
        exact ⟨[], xs, rfl, by simpa using hskip, hanswer, by simp⟩
      | none =>
        obtain ⟨before, after, rfl, ha, hb, hbefore⟩ := ih h
        refine ⟨x :: before, after, rfl, ha, hb, ?_⟩
        rintro y hy hyskip
        rcases List.mem_cons.1 hy with rfl | hy
        · exact hanswer
        · exact hbefore y hy hyskip

theorem findFirst_none {xs : List α} (h : findFirst skip test xs = .ok none) :
    ∀ x ∈ xs, skip x = false → test x = .ok none := by
  induction xs with
  | nil => simp
  | cons x xs ih =>
    rw [findFirst] at h
    split_ifs at h with hskip
    · rintro y hy hyskip
      rcases List.mem_cons.1 hy with rfl | hy
      · rw [hskip] at hyskip
        cases hyskip
      · exact ih h y hy hyskip
    · obtain ⟨answer, hanswer, h⟩ := bind_eq_ok.1 h
      cases answer with
      | some found => cases pure_eq_ok.1 h
      | none =>
        rintro y hy hyskip
        rcases List.mem_cons.1 hy with rfl | hy
        · exact hanswer
        · exact ih h y hy hyskip

theorem mem_of_split {α : Type} {xs before after : List α} {a : α} (h : xs = before ++ a :: after) : a ∈ xs := by
  simp [h]

end Search

/-! ## Shared identities -/

/-- an exchange snapshot that counts as live: open, by its state and its source -/
def Live (exchange : ReconcileExchangeOrderSnapshot) : Prop := isUntrackedExchangeOpenCandidate exchange = true

instance (exchange : ReconcileExchangeOrderSnapshot) : Decidable (Live exchange) :=
  inferInstanceAs (Decidable (_ = true))

/-- the same uuid or the same identifier -/
def Shares (exchange : ReconcileExchangeOrderSnapshot) (loc : ReconcileLocalOrderSnapshot) : Prop :=
  hasSharedStrongIdentity exchange loc = true

instance (exchange : ReconcileExchangeOrderSnapshot) (loc : ReconcileLocalOrderSnapshot) : Decidable (Shares exchange loc) :=
  inferInstanceAs (Decidable (_ = true))

theorem mem_strongIdentityKeys {exchangeOrderId identifier : Option String} {key : String} :
    key ∈ strongIdentityKeys exchangeOrderId identifier ↔
      (∃ uuid, exchangeOrderId = some uuid ∧ "uuid:" ++ uuid = key) ∨
        ∃ id, identifier = some id ∧ "identifier:" ++ id = key := by
  simp [strongIdentityKeys]

/-- a uuid key is no identifier key -/
theorem uuidKey_ne_identifierKey (uuid id : String) : "uuid:" ++ uuid ≠ "identifier:" ++ id := by
  intro h
  have hlist := congrArg String.toList h
  simp at hlist

theorem uuidKey_inj {a b : String} (h : "uuid:" ++ a = "uuid:" ++ b) : a = b := by
  have hlist := congrArg String.toList h
  exact String.toList_inj.1 (by simpa using hlist)

theorem identifierKey_inj {a b : String} (h : "identifier:" ++ a = "identifier:" ++ b) : a = b := by
  have hlist := congrArg String.toList h
  exact String.toList_inj.1 (by simpa using hlist)

/-- a common key of two pairs of ids is a common uuid or a common identifier -/
theorem common_key_iff {uuidA idA uuidB idB : Option String} :
    (∃ key ∈ strongIdentityKeys uuidA idA, key ∈ strongIdentityKeys uuidB idB) ↔
      (uuidA ≠ none ∧ uuidA = uuidB) ∨ (idA ≠ none ∧ idA = idB) := by
  constructor
  · rintro ⟨key, hA, hB⟩
    rcases mem_strongIdentityKeys.1 hA with ⟨a, rfl, hkey⟩ | ⟨a, rfl, hkey⟩
    · rcases mem_strongIdentityKeys.1 hB with ⟨b, rfl, hkey'⟩ | ⟨b, rfl, hkey'⟩
      · exact Or.inl ⟨by simp, by rw [uuidKey_inj (hkey.trans hkey'.symm)]⟩
      · exact absurd (hkey.trans hkey'.symm) (uuidKey_ne_identifierKey a b)
    · rcases mem_strongIdentityKeys.1 hB with ⟨b, rfl, hkey'⟩ | ⟨b, rfl, hkey'⟩
      · exact absurd (hkey'.trans hkey.symm) (uuidKey_ne_identifierKey b a)
      · exact Or.inr ⟨by simp, by rw [identifierKey_inj (hkey.trans hkey'.symm)]⟩
  · rintro (⟨hsome, rfl⟩ | ⟨hsome, rfl⟩)
    · obtain ⟨uuid, rfl⟩ := Option.ne_none_iff_exists'.1 hsome
      exact ⟨"uuid:" ++ uuid, mem_strongIdentityKeys.2 (Or.inl ⟨uuid, rfl, rfl⟩),
        mem_strongIdentityKeys.2 (Or.inl ⟨uuid, rfl, rfl⟩)⟩
    · obtain ⟨id, rfl⟩ := Option.ne_none_iff_exists'.1 hsome
      exact ⟨"identifier:" ++ id, mem_strongIdentityKeys.2 (Or.inr ⟨id, rfl, rfl⟩),
        mem_strongIdentityKeys.2 (Or.inr ⟨id, rfl, rfl⟩)⟩

theorem shares_iff_ids {exchange : ReconcileExchangeOrderSnapshot} {loc : ReconcileLocalOrderSnapshot} :
    Shares exchange loc ↔
      (exchange.exchangeOrderId ≠ none ∧ exchange.exchangeOrderId = loc.exchangeOrderId) ∨
        (exchange.identifier ≠ none ∧ exchange.identifier = loc.identifier) := by
  simp [Shares, hasSharedStrongIdentity]

theorem shares_iff_key {exchange : ReconcileExchangeOrderSnapshot} {loc : ReconcileLocalOrderSnapshot} :
    Shares exchange loc ↔ ∃ key ∈ getStrongExchangeIdentityKeys exchange, key ∈ getStrongLocalIdentityKeys loc := by
  rw [shares_iff_ids, getStrongExchangeIdentityKeys, getStrongLocalIdentityKeys, common_key_iff]

/-- no uuid and no identifier -/
def Idless (exchange : ReconcileExchangeOrderSnapshot) : Prop :=
  exchange.exchangeOrderId = none ∧ exchange.identifier = none

def IdlessLocal (loc : ReconcileLocalOrderSnapshot) : Prop := loc.exchangeOrderId = none ∧ loc.identifier = none

theorem keys_eq_nil_iff {exchange : ReconcileExchangeOrderSnapshot} :
    getStrongExchangeIdentityKeys exchange = [] ↔ Idless exchange := by
  unfold getStrongExchangeIdentityKeys strongIdentityKeys Idless
  cases exchange.exchangeOrderId <;> cases exchange.identifier <;> simp

theorem Idless.not_shares {exchange : ReconcileExchangeOrderSnapshot} (h : Idless exchange)
    (loc : ReconcileLocalOrderSnapshot) : ¬ Shares exchange loc := by
  rw [shares_iff_ids, h.1, h.2]
  simp

theorem IdlessLocal.not_shares {loc : ReconcileLocalOrderSnapshot} (h : IdlessLocal loc)
    (exchange : ReconcileExchangeOrderSnapshot) : ¬ Shares exchange loc := by
  rw [shares_iff_ids, h.1, h.2]
  rintro (⟨hsome, hnone⟩ | ⟨hsome, hnone⟩) <;> exact hsome hnone

/-! ## Recorded ids -/

/-- an id of the snapshot was recorded before -/
def ReconcileLoop.Seen (loop : ReconcileLoop) (exchange : ReconcileExchangeOrderSnapshot) : Prop :=
  ∃ key ∈ getStrongExchangeIdentityKeys exchange,
    key ∈ loop.matchedExchangeIdentityKeys ∨ key ∈ loop.strongerExchangeIdentityKeys

theorem seen_iff {loop : ReconcileLoop} {exchange : ReconcileExchangeOrderSnapshot} :
    (hasMatchedExchangeIdentity exchange loop.matchedExchangeIdentityKeys = true ∨
      hasMatchedExchangeIdentity exchange loop.strongerExchangeIdentityKeys = true) ↔ loop.Seen exchange := by
  simp only [hasMatchedExchangeIdentity, List.any_eq_true, decide_eq_true_eq, ReconcileLoop.Seen]
  constructor
  · rintro (⟨key, hkey, hmem⟩ | ⟨key, hkey, hmem⟩)
    · exact ⟨key, hkey, Or.inl hmem⟩
    · exact ⟨key, hkey, Or.inr hmem⟩
  · rintro ⟨key, hkey, hmem | hmem⟩
    · exact Or.inl ⟨key, hkey, hmem⟩
    · exact Or.inr ⟨key, hkey, hmem⟩

section Identity

variable [Host]

/-- one order by the identity rules -/
def Matches (exchange : ReconcileExchangeOrderSnapshot) (loc : ReconcileLocalOrderSnapshot) : Prop :=
  ∃ success, matchOrderIdentity exchange loc = .ok (.matched success)

/-- one order by uuid or identifier -/
def StronglyMatches (exchange : ReconcileExchangeOrderSnapshot) (loc : ReconcileLocalOrderSnapshot) : Prop :=
  ∃ success, matchOrderIdentity exchange loc = .ok (.matched success) ∧ success.matchType ≠ .fingerprint

/-- one id, but different terms -/
def Conflicts (exchange : ReconcileExchangeOrderSnapshot) (loc : ReconcileLocalOrderSnapshot) : Prop :=
  ∃ failure, matchOrderIdentity exchange loc = .ok (.failed failure) ∧ isIdentityConflictReason failure = true

/-- what came of comparing two sides that share an id: a match by that id, or a conflict -/
inductive SharedAnswer (exchange : ReconcileExchangeOrderSnapshot) (loc : ReconcileLocalOrderSnapshot) :
    IdentityMatchResult → Prop where
  | matched (success : IdentityMatchSuccess) (strong : success.matchType ≠ .fingerprint)
      (terms : compareImmutableFingerprint exchange loc = .ok none) : SharedAnswer exchange loc (.matched success)
  | conflict (failure : IdentityMatchFailure) (reason : isIdentityConflictReason failure = true) :
      SharedAnswer exchange loc (.failed failure)

theorem matchStrong_answer {matchType : IdentityMatchType} {identity : String}
    {exchange : ReconcileExchangeOrderSnapshot} {loc : ReconcileLocalOrderSnapshot} {result : IdentityMatchResult}
    (htype : matchType ≠ .fingerprint) (h : matchStrong matchType identity exchange loc = .ok result) :
    SharedAnswer exchange loc result := by
  obtain ⟨failure, hcompare, hresult⟩ := bind_eq_ok.1 h
  obtain rfl := pure_eq_ok.1 hresult
  cases failure with
  | none => exact .matched _ htype hcompare
  | some failure =>
    refine .conflict failure ?_
    -- the comparison only ever fails for the immutable terms
    unfold compareImmutableFingerprint at hcompare
    obtain ⟨exchangeFp, -, hcompare⟩ := bind_eq_ok.1 hcompare
    obtain ⟨localFp, -, hcompare⟩ := bind_eq_ok.1 hcompare
    split_ifs at hcompare with hsame hprice
    · cases pure_eq_ok.1 hcompare
    · obtain ⟨exchangeObservedFp, -, hcompare⟩ := bind_eq_ok.1 hcompare
      obtain ⟨localObservedFp, -, hcompare⟩ := bind_eq_ok.1 hcompare
      have hfailure := pure_eq_ok.1 hcompare
      split_ifs at hfailure
      rw [← Option.some.inj hfailure]
      rfl
    · rw [← Option.some.inj (pure_eq_ok.1 hcompare)]
      rfl

/-- **What a comparison says.** Two sides that share an id match by it or conflict; two sides without any id match by
their terms or not at all; every other pair is refused without a conflict. -/
theorem matchOrderIdentity_cases {exchange : ReconcileExchangeOrderSnapshot} {loc : ReconcileLocalOrderSnapshot}
    {result : IdentityMatchResult} (h : matchOrderIdentity exchange loc = .ok result) :
    (Shares exchange loc ∧ SharedAnswer exchange loc result) ∨
      (Idless exchange ∧ IdlessLocal loc ∧ matchByFingerprint exchange loc = .ok result) ∨
      (¬ Shares exchange loc ∧ ¬ (Idless exchange ∧ IdlessLocal loc) ∧
        ∃ failure, result = .failed failure ∧ isIdentityConflictReason failure = false) := by
  rw [shares_iff_ids]
  unfold matchOrderIdentity at h
  split at h
  · -- both sides carry an identifier
    rename_i exchangeId localId hexchangeId hlocalId
    rw [hexchangeId, hlocalId]
    split_ifs at h with hid
    · split at h
      · rename_i exchangeUuid localUuid hexchangeUuid hlocalUuid
        rw [hexchangeUuid, hlocalUuid]
        obtain rfl := pure_eq_ok.1 h
        split_ifs with huuid
        · exact Or.inl ⟨Or.inl ⟨by simp, by rw [huuid]⟩, .conflict _ rfl⟩
        · refine Or.inr (Or.inr ⟨?_, ?_, _, rfl, rfl⟩)
          · simp [hid, huuid]
          · simp [Idless, hexchangeId]
      · rename_i hone
        obtain rfl := pure_eq_ok.1 h
        refine Or.inr (Or.inr ⟨?_, ?_, _, rfl, rfl⟩)
        · rintro (⟨hsome, hsame⟩ | ⟨-, hsame⟩)
          · obtain ⟨uuid, huuid⟩ := Option.ne_none_iff_exists'.1 hsome
            exact hone uuid uuid huuid (hsame ▸ huuid)
          · exact hid (Option.some.inj hsame)
        · simp [Idless, hexchangeId]
    · have hshared : (some exchangeId ≠ none ∧ some exchangeId = some localId) := ⟨by simp, by rw [not_not.1 hid]⟩
      split at h
      · split_ifs at h with huuid
        · obtain rfl := pure_eq_ok.1 h
          exact Or.inl ⟨Or.inr hshared, .conflict _ rfl⟩
        · exact Or.inl ⟨Or.inr hshared, matchStrong_answer (by decide) h⟩
      · exact Or.inl ⟨Or.inr hshared, matchStrong_answer (by decide) h⟩
  · rename_i hone
    -- an identifier is missing, so only the uuid can be shared
    have hnoid : ¬ (exchange.identifier ≠ none ∧ exchange.identifier = loc.identifier) := by
      rintro ⟨hsome, hsame⟩
      obtain ⟨id, hid⟩ := Option.ne_none_iff_exists'.1 hsome
      exact hone id id hid (hsame ▸ hid)
    split at h
    · rename_i exchangeUuid localUuid hexchangeUuid hlocalUuid
      rw [hexchangeUuid, hlocalUuid]
      split_ifs at h with huuid
      · obtain rfl := pure_eq_ok.1 h
        refine Or.inr (Or.inr ⟨?_, ?_, _, rfl, rfl⟩)
        · rintro (⟨-, hsame⟩ | hid)
          · exact huuid (Option.some.inj hsame)
          · exact hnoid hid
        · simp [Idless, hexchangeUuid]
      · exact Or.inl ⟨Or.inl ⟨by simp, by rw [not_not.1 huuid]⟩, matchStrong_answer (by decide) h⟩
    · rename_i hone'
      have hnoshare : ¬ ((exchange.exchangeOrderId ≠ none ∧ exchange.exchangeOrderId = loc.exchangeOrderId) ∨
          (exchange.identifier ≠ none ∧ exchange.identifier = loc.identifier)) := by
        rintro (⟨hsome, hsame⟩ | hid)
        · obtain ⟨uuid, huuid⟩ := Option.ne_none_iff_exists'.1 hsome
          exact hone' uuid uuid huuid (hsame ▸ huuid)
        · exact hnoid hid
      split_ifs at h with hid huuid
      · obtain rfl := pure_eq_ok.1 h
        refine Or.inr (Or.inr ⟨hnoshare, ?_, _, rfl, rfl⟩)
        rintro ⟨hexchange, hlocal⟩
        exact hid.elim (· hexchange.2) (· hlocal.2)
      · obtain rfl := pure_eq_ok.1 h
        refine Or.inr (Or.inr ⟨hnoshare, ?_, _, rfl, rfl⟩)
        rintro ⟨hexchange, hlocal⟩
        exact huuid.elim (· hexchange.1) (· hlocal.1)
      · simp only [not_or, not_not] at hid huuid
        exact Or.inr (Or.inl ⟨⟨huuid.1, hid.1⟩, ⟨huuid.2, hid.2⟩, h⟩)

theorem matchByFingerprint_answer {exchange : ReconcileExchangeOrderSnapshot} {loc : ReconcileLocalOrderSnapshot}
    {result : IdentityMatchResult} (h : matchByFingerprint exchange loc = .ok result) :
    (∃ success, result = .matched success ∧ success.matchType = .fingerprint) ∨
      ∃ failure, result = .failed failure ∧ isIdentityConflictReason failure = false := by
  obtain ⟨exchangeFp, -, h⟩ := bind_eq_ok.1 h
  obtain ⟨localFp, -, h⟩ := bind_eq_ok.1 h
  obtain rfl := pure_eq_ok.1 h
  split_ifs
  · exact Or.inl ⟨_, rfl, rfl⟩
  · exact Or.inr ⟨_, rfl, rfl⟩

theorem StronglyMatches.shares {exchange : ReconcileExchangeOrderSnapshot} {loc : ReconcileLocalOrderSnapshot}
    (h : StronglyMatches exchange loc) :
    Shares exchange loc ∧ compareImmutableFingerprint exchange loc = .ok none := by
  obtain ⟨success, hmatch, hstrong⟩ := h
  rcases matchOrderIdentity_cases hmatch with ⟨hshares, hanswer⟩ | ⟨-, -, hprint⟩ | ⟨-, -, failure, hfailed, -⟩
  · cases hanswer with
    | matched success strong terms => exact ⟨hshares, terms⟩
  · rcases matchByFingerprint_answer hprint with ⟨success', hsame, htype⟩ | ⟨failure, hfailed, -⟩
    · cases hsame
      exact absurd htype hstrong
    · cases hfailed
  · cases hfailed

/-- a match is by a shared id, or by the terms of two sides that have none -/
theorem Matches.cases {exchange : ReconcileExchangeOrderSnapshot} {loc : ReconcileLocalOrderSnapshot}
    (h : Matches exchange loc) : StronglyMatches exchange loc ∨ (Idless exchange ∧ IdlessLocal loc) := by
  obtain ⟨success, hmatch⟩ := h
  rcases matchOrderIdentity_cases hmatch with ⟨-, hanswer⟩ | ⟨hexchange, hlocal, -⟩ | ⟨-, -, failure, hfailed, -⟩
  · cases hanswer with
    | matched success strong terms => exact Or.inl ⟨success, hmatch, strong⟩
  · exact Or.inr ⟨hexchange, hlocal⟩
  · cases hfailed

theorem Conflicts.shares {exchange : ReconcileExchangeOrderSnapshot} {loc : ReconcileLocalOrderSnapshot}
    (h : Conflicts exchange loc) : Shares exchange loc := by
  obtain ⟨failure, hmatch, hreason⟩ := h
  rcases matchOrderIdentity_cases hmatch with ⟨hshares, -⟩ | ⟨-, -, hprint⟩ | ⟨-, -, failure', hfailed, hno⟩
  · exact hshares
  · rcases matchByFingerprint_answer hprint with ⟨success, hsame, -⟩ | ⟨failure', hfailed, hno⟩
    · cases hsame
    · cases hfailed
      rw [hno] at hreason
      cases hreason
  · cases hfailed
    rw [hno] at hreason
    cases hreason

/-- sides that share an id and could be compared match by it or conflict -/
theorem Shares.answer {exchange : ReconcileExchangeOrderSnapshot} {loc : ReconcileLocalOrderSnapshot}
    (h : Shares exchange loc) {result : IdentityMatchResult} (hmatch : matchOrderIdentity exchange loc = .ok result) :
    StronglyMatches exchange loc ∨ Conflicts exchange loc := by
  rcases matchOrderIdentity_cases hmatch with ⟨-, hanswer⟩ | ⟨hexchange, -, -⟩ | ⟨hno, -, -⟩
  · cases hanswer with
    | matched success strong terms => exact Or.inl ⟨success, hmatch, strong⟩
    | conflict failure reason => exact Or.inr ⟨failure, hmatch, reason⟩
  · exact absurd h (hexchange.not_shares loc)
  · exact absurd h hno

theorem success_eq_some {exchange : ReconcileExchangeOrderSnapshot} {loc : ReconcileLocalOrderSnapshot}
    {success : IdentityMatchSuccess} :
    IdentityMatchResult.success? <$> matchOrderIdentity exchange loc = .ok (some success) ↔
      matchOrderIdentity exchange loc = .ok (.matched success) := by
  rw [map_eq_ok]
  constructor
  · rintro ⟨result, hresult, hsuccess⟩
    cases result with
    | matched success' => rw [hresult, Option.some.inj hsuccess]
    | failed failure => cases hsuccess
  · intro h
    exact ⟨_, h, rfl⟩

theorem conflict_eq_some {exchange : ReconcileExchangeOrderSnapshot} {loc : ReconcileLocalOrderSnapshot}
    {failure : IdentityMatchFailure} :
    IdentityMatchResult.conflict? <$> matchOrderIdentity exchange loc = .ok (some failure) ↔
      matchOrderIdentity exchange loc = .ok (.failed failure) ∧ isIdentityConflictReason failure = true := by
  rw [map_eq_ok]
  constructor
  · rintro ⟨result, hresult, hconflict⟩
    cases result with
    | matched success => cases hconflict
    | failed failure' =>
      simp only [IdentityMatchResult.conflict?] at hconflict
      split_ifs at hconflict with hreason
      obtain rfl := Option.some.inj hconflict
      exact ⟨hresult, hreason⟩
  · rintro ⟨h, hreason⟩
    exact ⟨_, h, by simp [IdentityMatchResult.conflict?, hreason]⟩

/-- compared, and no match -/
def NoMatch (exchange : ReconcileExchangeOrderSnapshot) (loc : ReconcileLocalOrderSnapshot) : Prop :=
  ∃ failure, matchOrderIdentity exchange loc = .ok (.failed failure)

/-- compared, and no conflict -/
def NoConflict (exchange : ReconcileExchangeOrderSnapshot) (loc : ReconcileLocalOrderSnapshot) : Prop :=
  ∃ result, matchOrderIdentity exchange loc = .ok result ∧ result.conflict? = none

theorem success_eq_none {exchange : ReconcileExchangeOrderSnapshot} {loc : ReconcileLocalOrderSnapshot} :
    IdentityMatchResult.success? <$> matchOrderIdentity exchange loc = .ok none ↔ NoMatch exchange loc := by
  rw [map_eq_ok]
  constructor
  · rintro ⟨result, hresult, hnone⟩
    cases result with
    | matched success => cases hnone
    | failed failure => exact ⟨failure, hresult⟩
  · rintro ⟨failure, h⟩
    exact ⟨_, h, rfl⟩

theorem NoMatch.not_matches {exchange : ReconcileExchangeOrderSnapshot} {loc : ReconcileLocalOrderSnapshot}
    (h : NoMatch exchange loc) : ¬ Matches exchange loc := by
  obtain ⟨failure, hfailed⟩ := h
  rintro ⟨success, hmatch⟩
  rw [hfailed] at hmatch
  cases hmatch

theorem NoConflict.not_conflicts {exchange : ReconcileExchangeOrderSnapshot} {loc : ReconcileLocalOrderSnapshot}
    (h : NoConflict exchange loc) : ¬ Conflicts exchange loc := by
  obtain ⟨result, hresult, hnone⟩ := h
  rintro ⟨failure, hfailed, hreason⟩
  rw [hresult, Except.ok.injEq] at hfailed
  subst hfailed
  simp [IdentityMatchResult.conflict?, hreason] at hnone

/-- a shared id that is no conflict is a match -/
theorem Shares.matches_of_noConflict {exchange : ReconcileExchangeOrderSnapshot} {loc : ReconcileLocalOrderSnapshot}
    (h : Shares exchange loc) (hno : NoConflict exchange loc) : StronglyMatches exchange loc := by
  obtain ⟨result, hresult, hnone⟩ := hno
  rcases h.answer hresult with hmatch | hconflict
  · exact hmatch
  · exact absurd hconflict (NoConflict.not_conflicts ⟨result, hresult, hnone⟩)

/-! ## One iteration -/

variable (localOpenOrders : List ReconcileLocalOrderSnapshot) (observedAt : String) (loop : ReconcileLoop)

/-- the outcomes of one exchange snapshot -/
inductive ExchangeStep (entry : ReconcileExchangeOrderSnapshot × ℕ) : ReconcileLoop → Prop where
  | closing (hlive : ¬ Live entry.1) :
      ExchangeStep entry
        { loop with
          strongerExchangeIdentityKeys :=
            addExchangeIdentityKeysWithLocalBridge entry.1 localOpenOrders loop.strongerExchangeIdentityKeys }
  | repeated (hlive : Live entry.1) (hseen : loop.Seen entry.1)
      (hno : ∀ loc ∈ localOpenOrders, NoConflict entry.1 loc) :
      ExchangeStep entry { loop with matchedExchangeOrders := loop.matchedExchangeOrders ++ [entry.2] }
  | repeatedConflict (hlive : Live entry.1) (hseen : loop.Seen entry.1) (loc : ReconcileLocalOrderSnapshot)
      (failure : IdentityMatchFailure) (result : OrderPairReconcileResult) (hloc : loc ∈ localOpenOrders)
      (hconflict : Conflicts entry.1 loc)
      (hresult : createIdentityConflictResult entry.1 loc failure observedAt = .ok result) :
      ExchangeStep entry (loop.pair entry.1 entry.2 loc result)
  | matched (hlive : Live entry.1) (hnew : ¬ loop.Seen entry.1) (loc : ReconcileLocalOrderSnapshot)
      (success : IdentityMatchSuccess) (result : OrderPairReconcileResult) (before after : List ReconcileLocalOrderSnapshot)
      (hsplit : localOpenOrders = before ++ loc :: after) (hunmatched : loc.orderId ∉ loop.matchedLocalIds)
      (hmatch : matchOrderIdentity entry.1 loc = .ok (.matched success))
      (hfirst : ∀ other ∈ before, other.orderId ∉ loop.matchedLocalIds → NoMatch entry.1 other)
      (hresult : evaluateMatchedPair entry.1 loc success observedAt = .ok result) :
      ExchangeStep entry (loop.pair entry.1 entry.2 loc result)
  | conflict (hlive : Live entry.1) (hnew : ¬ loop.Seen entry.1) (loc : ReconcileLocalOrderSnapshot)
      (failure : IdentityMatchFailure) (result : OrderPairReconcileResult) (hloc : loc ∈ localOpenOrders)
      (hunmatched : loc.orderId ∉ loop.matchedLocalIds) (hconflict : Conflicts entry.1 loc)
      (hnone : ∀ other ∈ localOpenOrders, other.orderId ∉ loop.matchedLocalIds → NoMatch entry.1 other)
      (hresult : createIdentityConflictResult entry.1 loc failure observedAt = .ok result) :
      ExchangeStep entry (loop.pair entry.1 entry.2 loc result)
  | untracked (hlive : Live entry.1) (hnew : ¬ loop.Seen entry.1) (mismatch : ReconcileMismatchEvidence)
      (hnone : ∀ other ∈ localOpenOrders, other.orderId ∉ loop.matchedLocalIds →
        NoMatch entry.1 other ∧ NoConflict entry.1 other)
      (hmismatch : createUntrackedExchangeOrderMismatch entry.1 observedAt entry.2 = .ok mismatch) :
      ExchangeStep entry { loop with results := loop.results ++ [⟨none, none, none, [mismatch], none⟩] }

/-- the outcomes of one local order -/
inductive LocalStep (exchangeOrders : List (ReconcileExchangeOrderSnapshot × ℕ)) (loc : ReconcileLocalOrderSnapshot) :
    ReconcileLoop → Prop where
  | known (hmatched : loc.orderId ∈ loop.matchedLocalIds) : LocalStep exchangeOrders loc loop
  | matched (hunmatched : loc.orderId ∉ loop.matchedLocalIds) (entry : ReconcileExchangeOrderSnapshot × ℕ)
      (success : IdentityMatchSuccess) (result : OrderPairReconcileResult)
      (before after : List (ReconcileExchangeOrderSnapshot × ℕ)) (hsplit : exchangeOrders = before ++ entry :: after)
      (hunmarked : entry.2 ∉ loop.matchedExchangeOrders)
      (hmatch : matchOrderIdentity entry.1 loc = .ok (.matched success))
      (hfirst : ∀ other ∈ before, other.2 ∉ loop.matchedExchangeOrders → NoMatch other.1 loc)
      (hresult : evaluateMatchedPair entry.1 loc success observedAt = .ok result) :
      LocalStep exchangeOrders loc (loop.pair entry.1 entry.2 loc result)
  | conflict (hunmatched : loc.orderId ∉ loop.matchedLocalIds) (entry : ReconcileExchangeOrderSnapshot × ℕ)
      (failure : IdentityMatchFailure) (result : OrderPairReconcileResult) (hentry : entry ∈ exchangeOrders)
      (hconflict : Conflicts entry.1 loc)
      (hresult : createIdentityConflictResult entry.1 loc failure observedAt = .ok result) :
      LocalStep exchangeOrders loc (loop.pair entry.1 entry.2 loc result)
  | missing (hunmatched : loc.orderId ∉ loop.matchedLocalIds) :
      LocalStep exchangeOrders loc
        { loop with
          results := loop.results ++
            [⟨some loc.orderId, none, none, [createMissingLocalOrderMismatch loc observedAt], none⟩] }

variable {localOpenOrders observedAt loop}

theorem exchangeStep {entry : ReconcileExchangeOrderSnapshot × ℕ} {loop' : ReconcileLoop}
    (h : reconcileExchangeOrder localOpenOrders observedAt loop entry = .ok loop') :
    ExchangeStep localOpenOrders observedAt loop entry loop' := by
  unfold reconcileExchangeOrder at h
  dsimp only at h
  split at h
  · rename_i hlive
    obtain rfl := pure_eq_ok.1 h
    exact .closing (by simp [Live, hlive])
  · rename_i hlive
    have hlive : Live entry.1 := by simpa [Live] using hlive
    split at h
    · rename_i hseen
      have hseen : loop.Seen entry.1 := seen_iff.1 hseen
      obtain ⟨conflict, hconflict, h⟩ := bind_eq_ok.1 h
      cases conflict with
      | some found =>
        obtain ⟨loc, failure⟩ := found
        obtain ⟨result, hresult, h⟩ := bind_eq_ok.1 h
        obtain rfl := pure_eq_ok.1 h
        obtain ⟨before, after, hsplit, -, htest, -⟩ := findFirst_some hconflict
        exact .repeatedConflict hlive hseen loc failure result (mem_of_split hsplit) ⟨failure, conflict_eq_some.1 htest⟩
          hresult
      | none =>
        obtain rfl := pure_eq_ok.1 h
        refine .repeated hlive hseen fun loc hloc => ?_
        obtain ⟨result, hresult, hnone⟩ := map_eq_ok.1 (findFirst_none hconflict loc hloc rfl)
        exact ⟨result, hresult, hnone⟩
    · rename_i hnew
      have hnew : ¬ loop.Seen entry.1 := fun hseen => hnew (seen_iff.2 hseen)
      obtain ⟨found, hfound, h⟩ := bind_eq_ok.1 h
      cases found with
      | some found =>
        obtain ⟨loc, success⟩ := found
        obtain ⟨result, hresult, h⟩ := bind_eq_ok.1 h
        obtain rfl := pure_eq_ok.1 h
        obtain ⟨before, after, hsplit, hskip, htest, hbefore⟩ := findFirst_some hfound
        refine .matched hlive hnew loc success result before after hsplit (by simpa using hskip) (success_eq_some.1 htest)
          (fun other hother hunmatched => success_eq_none.1 (hbefore other hother (by simpa using hunmatched))) hresult
      | none =>
        have hnomatch : ∀ other ∈ localOpenOrders, other.orderId ∉ loop.matchedLocalIds → NoMatch entry.1 other :=
          fun other hother hunmatched => success_eq_none.1 (findFirst_none hfound other hother (by simpa using hunmatched))
        obtain ⟨conflict, hconflict, h⟩ := bind_eq_ok.1 h
        cases conflict with
        | some found =>
          obtain ⟨loc, failure⟩ := found
          obtain ⟨result, hresult, h⟩ := bind_eq_ok.1 h
          obtain rfl := pure_eq_ok.1 h
          obtain ⟨before, after, hsplit, hskip, htest, -⟩ := findFirst_some hconflict
          exact .conflict hlive hnew loc failure result (mem_of_split hsplit) (by simpa using hskip)
            ⟨failure, conflict_eq_some.1 htest⟩ hnomatch hresult
        | none =>
          obtain ⟨mismatch, hmismatch, h⟩ := bind_eq_ok.1 h
          obtain rfl := pure_eq_ok.1 h
          refine .untracked hlive hnew mismatch (fun other hother hunmatched => ⟨hnomatch other hother hunmatched, ?_⟩)
            hmismatch
          obtain ⟨result, hresult, hnone⟩ := map_eq_ok.1 (findFirst_none hconflict other hother (by simpa using hunmatched))
          exact ⟨result, hresult, hnone⟩

theorem localStep {exchangeOrders : List (ReconcileExchangeOrderSnapshot × ℕ)} {loc : ReconcileLocalOrderSnapshot}
    {loop' : ReconcileLoop} (h : reconcileLocalOrder exchangeOrders observedAt loop loc = .ok loop') :
    LocalStep observedAt loop exchangeOrders loc loop' := by
  unfold reconcileLocalOrder at h
  split at h
  · rename_i hmatched
    obtain rfl := pure_eq_ok.1 h
    exact .known hmatched
  · rename_i hunmatched
    obtain ⟨found, hfound, h⟩ := bind_eq_ok.1 h
    cases found with
    | some found =>
      obtain ⟨entry, success⟩ := found
      obtain ⟨result, hresult, h⟩ := bind_eq_ok.1 h
      obtain rfl := pure_eq_ok.1 h
      obtain ⟨before, after, hsplit, hskip, htest, hbefore⟩ := findFirst_some hfound
      exact .matched hunmatched entry success result before after hsplit (by simpa using hskip) (success_eq_some.1 htest)
        (fun other hother hunmarked => success_eq_none.1 (hbefore other hother (by simpa using hunmarked))) hresult
    | none =>
      obtain ⟨conflict, hconflict, h⟩ := bind_eq_ok.1 h
      cases conflict with
      | some found =>
        obtain ⟨entry, failure⟩ := found
        obtain ⟨result, hresult, h⟩ := bind_eq_ok.1 h
        obtain rfl := pure_eq_ok.1 h
        obtain ⟨before, after, hsplit, -, htest, -⟩ := findFirst_some hconflict
        exact .conflict hunmatched entry failure result (mem_of_split hsplit) ⟨failure, conflict_eq_some.1 htest⟩ hresult
      | none =>
        obtain rfl := pure_eq_ok.1 h
        exact .missing hunmatched

end Identity

end SeeMirai.Reconcile
