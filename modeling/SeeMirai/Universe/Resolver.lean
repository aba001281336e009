/-
The universe gate (runtime/universe.ts). A market outside phase 1 is let in by a manual approval of the configuration, if
evidence that was observed within the approval's window supports it: nothing blocks, and the latest matching evidence
approves with all seven conditions.

Two readings of that sentence come apart from the code. The conditions of an evidence are looked up through a map, so a
failed condition that is listed before a passed one of the same key goes unseen. And of several latest evidences of the
same millisecond the first in the list is taken, so that the list's order decides where they differ. `Unambiguous` rules
both out, and with it the gate is fail-closed and independent of the order; without it, it is not.

Results:
- `hasBlocking_iff` / `findApproval_latest`: what the two searches through the evidence find.
- `resolve_approved` / `resolve_congr`: the resolution as a function of what becomes of each approval.
- `failClosed_iff`: the gate is fail-closed exactly where the evidence is unambiguous.
- `hidden_failure_opens_market` / `order_decides_market`: the two ways in which it is not.
- `evaluated_not_hidden`: evidence made by the eligibility evaluator hides no failed condition.
-/
import SeeMirai.Universe.Eligibility
import SeeMirai.Lib.Fallible
import SeeMirai.Lib.Grouping
import SeeMirai.Lib.StableSort

namespace SeeMirai.Universe

open Fallible

/-! ## Configuration -/

structure Phase15ManualAltApproval where
  market : String
  approvedAt : TimestampInput
  evidenceId : Option String
  expiresAt : Option TimestampInput
deriving DecidableEq

/-- `config.universe`; its schema admits one manual approval for a market, with dates that can be read -/
structure UniverseConfig where
  phase1 : List String
  phase15Enabled : Bool
  manualApprovals : List Phase15ManualAltApproval
  oneForMarket : (manualApprovals.map Phase15ManualAltApproval.market).Nodup
  datesValid : ∀ approval ∈ manualApprovals, approval.approvedAt.millis.isSome ∧
    ∀ expiresAt, approval.expiresAt = some expiresAt → expiresAt.millis.isSome

structure RuntimeUniverseResolution where
  allowedMarkets : List String
  phase1Markets : List String
  phase15ApprovedAltMarkets : List String
  phase15ExpiredAltMarkets : List String
  phase15PendingAltMarkets : List String
  phase15BlockedAltMarkets : List String
  phase15MissingEvidenceAltMarkets : List String
  phase15Enabled : Bool
  evidence : List Phase15AltApprovalEvidenceSnapshot

/-! ## Resolution -/

abbrev Snapshot := Phase15AltApprovalEvidenceSnapshot

/-- the message ends with the input's text -/
def toTimestampMs (input : TimestampInput) : Except Thrown ℤ :=
  match input.millis with
  | some ms => pure ms
  | none => throw ⟨"Error", "Invalid runtime universe timestamp"⟩

def matchesExchange (exchangeId : Option String) (evidence : Snapshot) : Bool :=
  exchangeId = none ∨ exchangeId = some evidence.exchangeId

def matchesManualApprovalEvidence (manualApprovalEvidenceId : Option String) (evidence : Snapshot) : Bool :=
  manualApprovalEvidenceId = none ∨ evidence.evidenceId = manualApprovalEvidenceId

def isBlockingEvidenceAction (action : Phase15AltApprovalAction) : Bool :=
  action = .reject ∨ action = .revoke ∨ action = .expire

/-- the last condition of a key: what a map built from the list holds -/
def conditionByKey (conditions : List Phase15AltApprovalEvidenceCondition) (key : ConditionKey) :
    Option Phase15AltApprovalEvidenceCondition :=
  conditions.reverse.find? fun condition => condition.key = key

def isApprovingEvidence (evidence : Snapshot) : Bool :=
  evidence.action = .approve ∧ requiredPhase15ApprovalConditionKeys.all fun key =>
    (conditionByKey evidence.conditions key).map Phase15AltApprovalEvidenceCondition.passed = some true

def inWindow (approvedAtMs observedAtMs evidenceObservedAtMs : ℤ) : Bool :=
  approvedAtMs ≤ evidenceObservedAtMs ∧ evidenceObservedAtMs ≤ observedAtMs

/-- times are read up to the first evidence that blocks -/
def hasBlockingEvidenceAfterApproval (market : String) (approvedAtMs observedAtMs : ℤ) (exchangeId : Option String) :
    List Snapshot → Except Thrown Bool
  | [] => pure false
  | snapshot :: rest =>
    if snapshot.market ≠ market ∨ matchesExchange exchangeId snapshot = false ∨
        isBlockingEvidenceAction snapshot.action = false then
      hasBlockingEvidenceAfterApproval market approvedAtMs observedAtMs exchangeId rest
    else do
      let evidenceObservedAtMs ← toTimestampMs snapshot.observedAt
      if inWindow approvedAtMs observedAtMs evidenceObservedAtMs then pure true
      else hasBlockingEvidenceAfterApproval market approvedAtMs observedAtMs exchangeId rest

/-- the evidence of a market that an approval can rest on -/
def isMatching (market : String) (manualApprovalEvidenceId exchangeId : Option String) (snapshot : Snapshot) : Bool :=
  snapshot.market = market ∧ matchesExchange exchangeId snapshot ∧
    matchesManualApprovalEvidence manualApprovalEvidenceId snapshot

/-- the latest matching evidence of the window; of several at one time the first in the list -/
def findApprovalEvidenceAfterApproval (market : String) (manualApprovalEvidenceId : Option String)
    (approvedAtMs observedAtMs : ℤ) (evidence : List Snapshot) (exchangeId : Option String) :
    Except Thrown (Option Snapshot) := do
  let timed ← (evidence.filter (isMatching market manualApprovalEvidenceId exchangeId)).mapM fun snapshot => do
    let evidenceObservedAtMs ← toTimestampMs snapshot.observedAt
    return (snapshot, evidenceObservedAtMs)
  let inside := timed.filter fun entry => inWindow approvedAtMs observedAtMs entry.2
  return ((stableSort (fun left right => compare right.2 left.2) inside).head?).map Prod.fst

/-- what becomes of a manual approval -/
inductive ApprovalOutcome where
  | pending
  | expired
  | blocked
  | missingEvidence
  | approved
deriving DecidableEq, Repr

def isExpiredAt (observedAtMs : ℤ) : Option TimestampInput → Except Thrown Bool
  | none => pure false
  | some expiresAt => do
    let expiresAtMs ← toTimestampMs expiresAt
    return expiresAtMs ≤ observedAtMs

/-- one turn of the loop over the manual approvals -/
def resolveApproval (observedAtMs : ℤ) (evidence : List Snapshot) (exchangeId : Option String)
    (approval : Phase15ManualAltApproval) : Except Thrown ApprovalOutcome := do
  let approvedAtMs ← toTimestampMs approval.approvedAt
  let isExpired ← isExpiredAt observedAtMs approval.expiresAt
  if observedAtMs < approvedAtMs then return .pending
  if isExpired then return .expired
  let blocking ← hasBlockingEvidenceAfterApproval approval.market approvedAtMs observedAtMs exchangeId evidence
  if blocking then return .blocked
  let approvalEvidence ← findApprovalEvidenceAfterApproval approval.market approval.evidenceId approvedAtMs observedAtMs
    evidence exchangeId
  match approvalEvidence with
  | none => return .missingEvidence
  | some approvalEvidence => return if isApprovingEvidence approvalEvidence then .approved else .missingEvidence

/-- the markets that have been put on the lists -/
structure UniverseLists where
  approved : List String
  expired : List String
  pending : List String
  blocked : List String
  missingEvidence : List String
deriving DecidableEq

def UniverseLists.push (lists : UniverseLists) (market : String) : ApprovalOutcome → UniverseLists
  | .pending => { lists with pending := lists.pending ++ [market] }
  | .expired => { lists with expired := lists.expired ++ [market] }
  | .blocked => { lists with blocked := lists.blocked ++ [market] }
  | .missingEvidence => { lists with missingEvidence := lists.missingEvidence ++ [market] }
  | .approved => { lists with approved := Grouping.collect lists.approved market }

/-- the loop over the manual approvals, skipped while phase 1.5 is disabled -/
def resolveApprovals (config : UniverseConfig) (observedAtMs : ℤ) (evidence : List Snapshot)
    (exchangeId : Option String) : Except Thrown UniverseLists :=
  if config.phase15Enabled then
    config.manualApprovals.foldlM (fun lists approval => do
      let outcome ← resolveApproval observedAtMs evidence exchangeId approval
      return lists.push approval.market outcome) ⟨[], [], [], [], []⟩
  else pure ⟨[], [], [], [], []⟩

def resolveRuntimeUniverse (config : UniverseConfig) (observedAt : TimestampInput) (evidence : List Snapshot)
    (exchangeId : Option String) : Except Thrown RuntimeUniverseResolution := do
  let observedAtMs ← toTimestampMs observedAt
  let lists ← resolveApprovals config observedAtMs evidence exchangeId
  return {
    allowedMarkets := Grouping.firstSeen (config.phase1 ++ lists.approved)
    phase1Markets := config.phase1
    phase15ApprovedAltMarkets := lists.approved
    phase15ExpiredAltMarkets := lists.expired
    phase15PendingAltMarkets := lists.pending
    phase15BlockedAltMarkets := lists.blocked
    phase15MissingEvidenceAltMarkets := lists.missingEvidence
    phase15Enabled := config.phase15Enabled
    evidence := evidence }

/-! ## Searches through the evidence -/

/-- times of an evidence list that can be read -/
def Readable (evidence : List Snapshot) : Prop := ∀ snapshot ∈ evidence, snapshot.observedAt.millis.isSome

/-- a time within an approval's window -/
def ObservedIn (approvedAtMs observedAtMs : ℤ) (time : TimestampInput) : Prop :=
  ∃ ms, time.millis = some ms ∧ approvedAtMs ≤ ms ∧ ms ≤ observedAtMs

/-- evidence of the market and exchange, within the window, that closes the approval -/
structure Blocks (market : String) (exchangeId : Option String) (approvedAtMs observedAtMs : ℤ) (snapshot : Snapshot) :
    Prop where
  market : snapshot.market = market
  exchange : matchesExchange exchangeId snapshot = true
  action : isBlockingEvidenceAction snapshot.action = true
  observed : ObservedIn approvedAtMs observedAtMs snapshot.observedAt

theorem toTimestampMs_eq_ok {input : TimestampInput} {ms : ℤ} : toTimestampMs input = .ok ms ↔ input.millis = some ms := by
  unfold toTimestampMs
  cases input.millis <;> simp

theorem toTimestampMs_total {input : TimestampInput} (h : input.millis.isSome) : ∃ ms, toTimestampMs input = .ok ms := by
  obtain ⟨ms, hms⟩ := Option.isSome_iff_exists.1 h
  exact ⟨ms, toTimestampMs_eq_ok.2 hms⟩

theorem Readable.perm {evidence evidence' : List Snapshot} (h : Readable evidence) (hp : evidence.Perm evidence') :
    Readable evidence' := fun snapshot hmem => h snapshot (hp.mem_iff.2 hmem)

section Searches

variable {market : String} {exchangeId : Option String} {approvedAtMs observedAtMs : ℤ} {evidence : List Snapshot}

theorem hasBlocking_total (market : String) (exchangeId : Option String) (approvedAtMs observedAtMs : ℤ)
    (h : Readable evidence) :
    ∃ blocking, hasBlockingEvidenceAfterApproval market approvedAtMs observedAtMs exchangeId evidence = .ok blocking := by
  induction evidence with
  | nil => exact ⟨false, rfl⟩
  | cons snapshot rest ih =>
    obtain ⟨blocking, hrest⟩ := ih fun s hs => h s (by simp [hs])
    obtain ⟨ms, hms⟩ := toTimestampMs_total (h snapshot (by simp))
    unfold hasBlockingEvidenceAfterApproval
    rw [hms, ok_bind]
    split_ifs
    · exact ⟨blocking, hrest⟩
    · exact ⟨true, rfl⟩
    · exact ⟨blocking, hrest⟩

theorem hasBlocking_iff {blocking : Bool}
    (h : hasBlockingEvidenceAfterApproval market approvedAtMs observedAtMs exchangeId evidence = .ok blocking) :
    blocking = true ↔ ∃ snapshot ∈ evidence, Blocks market exchangeId approvedAtMs observedAtMs snapshot := by
  induction evidence with
  | nil =>
    obtain rfl := pure_eq_ok.1 h
    simp
  | cons snapshot rest ih =>
    unfold hasBlockingEvidenceAfterApproval at h
    split at h
    · rename_i hother
      rw [ih h]
      constructor
      · rintro ⟨s, hs, hblocks⟩
        exact ⟨s, by simp [hs], hblocks⟩
      · rintro ⟨s, hs, hblocks⟩
        rcases List.mem_cons.1 hs with rfl | hs
        · rcases hother with hother | hother | hother
          · exact absurd hblocks.market hother
          · rw [hblocks.exchange] at hother
            cases hother
          · rw [hblocks.action] at hother
            cases hother
        · exact ⟨s, hs, hblocks⟩
    · rename_i hown
      obtain ⟨ms, hms, h⟩ := bind_eq_ok.1 h
      rw [toTimestampMs_eq_ok] at hms
      simp only [not_or, not_not, Bool.not_eq_false] at hown
      split at h
      · rename_i hinside
        obtain rfl := pure_eq_ok.1 h
        have hwindow : approvedAtMs ≤ ms ∧ ms ≤ observedAtMs := by simpa [inWindow] using hinside
        exact ⟨fun _ => ⟨snapshot, by simp, hown.1, hown.2.1, hown.2.2, ms, hms, hwindow⟩, fun _ => rfl⟩
      · rename_i houtside
        rw [ih h]
        constructor
        · rintro ⟨s, hs, hblocks⟩
          exact ⟨s, by simp [hs], hblocks⟩
        · rintro ⟨s, hs, hblocks⟩
          rcases List.mem_cons.1 hs with rfl | hs
          · obtain ⟨ms', hms', hwindow⟩ := hblocks.observed
            obtain rfl := Option.some.inj (hms.symm.trans hms')
            exact absurd (by simpa [inWindow] using hwindow) houtside
          · exact ⟨s, hs, hblocks⟩

/-- the first entry of a sort by falling time has the latest time -/
theorem stableSort_head_latest {entries : List (Snapshot × ℤ)} {first entry : Snapshot × ℤ}
    (h : (stableSort (fun left right => compare right.2 left.2) entries).head? = some first) (hmem : entry ∈ entries) :
    entry.2 ≤ first.2 := by
  have htrans : Std.TransCmp (fun left right : Snapshot × ℤ => compare right.2 left.2) :=
    @transCmp_on _ _ (fun left right : ℤ => compare right left) Std.TransCmp.opposite Prod.snd
  have hpairwise := @stableSort_pairwise _ (fun left right : Snapshot × ℤ => compare right.2 left.2) entries _
  have hsorted := (@mem_stableSort _ (fun left right : Snapshot × ℤ => compare right.2 left.2) _ _).2 hmem
  obtain ⟨rest, hrest⟩ := List.head?_eq_some_iff.1 h
  rw [hrest] at hpairwise hsorted
  rcases List.mem_cons.1 hsorted with rfl | hlater
  · exact le_rfl
  · have hle := List.rel_of_pairwise_cons hpairwise hlater
    exact not_lt.1 fun hlt => Ordering.isLE_iff_ne_gt.1 hle (compare_gt_iff_gt.2 hlt)

/-- an entry that none exceeds stays first -/
theorem stableSort_head_greatest {first : Snapshot × ℤ} {rest : List (Snapshot × ℤ)} (h : ∀ entry ∈ rest, entry.2 ≤ first.2) :
    (stableSort (fun left right => compare right.2 left.2) (first :: rest)).head? = some first := by
  unfold stableSort
  rw [List.insertionSort_cons]
  cases hsorted : rest.insertionSort (fun left right : Snapshot × ℤ => (compare right.2 left.2).isLE) with
  | nil => rfl
  | cons second others =>
    have hmem : second ∈ rest := by
      rw [← List.mem_insertionSort (fun left right : Snapshot × ℤ => (compare right.2 left.2).isLE), hsorted]
      simp
    have hle : (compare second.2 first.2).isLE = true :=
      Ordering.isLE_iff_ne_gt.2 fun hgt => not_lt.2 (h second hmem) (compare_gt_iff_gt.1 hgt)
    rw [List.orderedInsert_cons, if_pos hle]
    rfl

/-- the latest evidence that an approval can rest on -/
structure IsLatest (market : String) (evidenceId exchangeId : Option String) (approvedAtMs observedAtMs : ℤ)
    (evidence : List Snapshot) (snapshot : Snapshot) : Prop where
  mem : snapshot ∈ evidence
  matching : isMatching market evidenceId exchangeId snapshot = true
  observed : ObservedIn approvedAtMs observedAtMs snapshot.observedAt
  greatest : ∀ other ∈ evidence, isMatching market evidenceId exchangeId other = true →
    ObservedIn approvedAtMs observedAtMs other.observedAt → ∀ ms ms', snapshot.observedAt.millis = some ms →
      other.observedAt.millis = some ms' → ms' ≤ ms

theorem IsLatest.perm {evidenceId : Option String} {evidence' : List Snapshot} {snapshot : Snapshot}
    (h : IsLatest market evidenceId exchangeId approvedAtMs observedAtMs evidence snapshot)
    (hp : evidence.Perm evidence') :
    IsLatest market evidenceId exchangeId approvedAtMs observedAtMs evidence' snapshot :=
  ⟨hp.mem_iff.1 h.mem, h.matching, h.observed, fun other hmem => h.greatest other (hp.mem_iff.2 hmem)⟩

/-- a snapshot with its time -/
def readTime (snapshot : Snapshot) : Except Thrown (Snapshot × ℤ) := do
  let evidenceObservedAtMs ← toTimestampMs snapshot.observedAt
  return (snapshot, evidenceObservedAtMs)

theorem mem_timed {snapshots : List Snapshot} {timed : List (Snapshot × ℤ)} (h : snapshots.mapM readTime = .ok timed)
    {entry : Snapshot × ℤ} : entry ∈ timed ↔ entry.1 ∈ snapshots ∧ entry.1.observedAt.millis = some entry.2 := by
  have hall := mapM_ok_iff.1 h
  clear h
  induction hall with
  | nil => simp
  | @cons snapshot timedEntry _ _ hread _ ih =>
    obtain ⟨ms, hms, hread⟩ := bind_eq_ok.1 hread
    obtain rfl := pure_eq_ok.1 hread
    rw [toTimestampMs_eq_ok] at hms
    rw [List.mem_cons, List.mem_cons]
    constructor
    · rintro (rfl | hin)
      · exact ⟨Or.inl rfl, hms⟩
      · exact ⟨Or.inr (ih.1 hin).1, (ih.1 hin).2⟩
    · rintro ⟨hsnapshot | hin, htime⟩
      · refine Or.inl (Prod.ext hsnapshot ?_)
        rw [hsnapshot, hms] at htime
        exact (Option.some.inj htime).symm
      · exact Or.inr (ih.2 ⟨hin, htime⟩)

/-- the evidence that a search finds, before the latest is taken -/
theorem findApproval_inversion {evidenceId : Option String} {found : Option Snapshot}
    (h : findApprovalEvidenceAfterApproval market evidenceId approvedAtMs observedAtMs evidence exchangeId = .ok found) :
    ∃ inside : List (Snapshot × ℤ),
      found = ((stableSort (fun left right => compare right.2 left.2) inside).head?).map Prod.fst ∧
      ∀ entry, entry ∈ inside ↔ entry.1 ∈ evidence ∧ isMatching market evidenceId exchangeId entry.1 = true ∧
        entry.1.observedAt.millis = some entry.2 ∧ approvedAtMs ≤ entry.2 ∧ entry.2 ≤ observedAtMs := by
  obtain ⟨timed, htimed, h⟩ := bind_eq_ok.1 h
  obtain rfl := pure_eq_ok.1 h
  refine ⟨_, rfl, fun entry => ?_⟩
  rw [List.mem_filter, mem_timed htimed, List.mem_filter]
  simp only [inWindow, decide_eq_true_eq]
  tauto

theorem findApproval_total (market : String) (evidenceId exchangeId : Option String) (approvedAtMs observedAtMs : ℤ)
    (h : Readable evidence) :
    ∃ found, findApprovalEvidenceAfterApproval market evidenceId approvedAtMs observedAtMs evidence exchangeId = .ok found := by
  obtain ⟨timed, htimed⟩ : ∃ timed, (evidence.filter (isMatching market evidenceId exchangeId)).mapM readTime =
      .ok timed := by
    refine mapM_total fun snapshot hmem => ?_
    obtain ⟨ms, hms⟩ := toTimestampMs_total (h snapshot (List.mem_filter.1 hmem).1)
    exact ⟨(snapshot, ms), by rw [readTime, hms, ok_bind]; rfl⟩
  change ∃ found, ((evidence.filter (isMatching market evidenceId exchangeId)).mapM readTime >>= _) = .ok found
  rw [htimed, ok_bind]
  exact ⟨_, rfl⟩

/-- a latest evidence is found where the list begins with it -/
theorem findApproval_head {evidenceId : Option String} {snapshot : Snapshot} {rest : List Snapshot}
    (hreadable : Readable (snapshot :: rest))
    (h : IsLatest market evidenceId exchangeId approvedAtMs observedAtMs (snapshot :: rest) snapshot) :
    findApprovalEvidenceAfterApproval market evidenceId approvedAtMs observedAtMs (snapshot :: rest) exchangeId =
      .ok (some snapshot) := by
  obtain ⟨ms, hms, hwindow⟩ := h.observed
  obtain ⟨timed, htimed⟩ : ∃ timed, (rest.filter (isMatching market evidenceId exchangeId)).mapM readTime = .ok timed := by
    refine mapM_total fun other hmem => ?_
    obtain ⟨time, htime⟩ := toTimestampMs_total (hreadable other (by simp [(List.mem_filter.1 hmem).1]))
    exact ⟨(other, time), by rw [readTime, htime, ok_bind]; rfl⟩
  have hread : readTime snapshot = .ok (snapshot, ms) := by
    rw [readTime, toTimestampMs_eq_ok.2 hms, ok_bind]
    rfl
  have hinside : inWindow approvedAtMs observedAtMs ms = true := by simpa [inWindow] using hwindow
  change (((snapshot :: rest).filter (isMatching market evidenceId exchangeId)).mapM readTime >>= _) = _
  rw [List.filter_cons_of_pos h.matching, List.mapM_cons, hread, ok_bind, htimed, ok_bind, pure_bind]
  rw [pure_eq_ok, List.filter_cons_of_pos (by exact hinside), stableSort_head_greatest]
  · rfl
  · intro entry hentry
    obtain ⟨hin, hentryWindow⟩ := List.mem_filter.1 hentry
    obtain ⟨hmem, htime⟩ := (mem_timed htimed).1 hin
    obtain ⟨hmem, hmatching⟩ := List.mem_filter.1 hmem
    have hbounds : approvedAtMs ≤ entry.2 ∧ entry.2 ≤ observedAtMs := by simpa [inWindow] using hentryWindow
    exact h.greatest entry.1 (by simp [hmem]) hmatching ⟨entry.2, htime, hbounds⟩ ms entry.2 hms htime

/-- the search finds a latest matching evidence of the window where there is one -/
theorem findApproval_latest {evidenceId : Option String} {found : Option Snapshot}
    (h : findApprovalEvidenceAfterApproval market evidenceId approvedAtMs observedAtMs evidence exchangeId = .ok found) :
    (∀ snapshot, found = some snapshot →
      IsLatest market evidenceId exchangeId approvedAtMs observedAtMs evidence snapshot) ∧
    (found = none → ∀ snapshot, ¬ IsLatest market evidenceId exchangeId approvedAtMs observedAtMs evidence snapshot) := by
  obtain ⟨inside, rfl, hinside⟩ := findApproval_inversion h
  constructor
  · intro snapshot hfound
    obtain ⟨entry, hhead, rfl⟩ := Option.map_eq_some_iff.1 hfound
    have hentry : entry ∈ inside := (mem_stableSort).1 (List.mem_of_head? hhead)
    obtain ⟨hmem, hmatching, htime, hwindow⟩ := (hinside entry).1 hentry
    refine ⟨hmem, hmatching, ⟨entry.2, htime, hwindow⟩, fun other hother hmatches hobserved ms ms' hms hms' => ?_⟩
    obtain ⟨time, hothertime, hotherwindow⟩ := hobserved
    obtain rfl := Option.some.inj (hothertime.symm.trans hms')
    obtain rfl := Option.some.inj (htime.symm.trans hms)
    have hin : (other, time) ∈ inside := (hinside _).2 ⟨hother, hmatches, hothertime, hotherwindow⟩
    exact stableSort_head_latest hhead hin
  · intro hnone snapshot hlatest
    obtain ⟨ms, hms, hwindow⟩ := hlatest.observed
    have hin : (snapshot, ms) ∈ inside := (hinside _).2 ⟨hlatest.mem, hlatest.matching, hms, hwindow⟩
    rw [Option.map_eq_none_iff, List.head?_eq_none_iff] at hnone
    have hsorted := (@mem_stableSort _ (fun left right : Snapshot × ℤ => compare right.2 left.2) _ _).2 hin
    rw [hnone] at hsorted
    cases hsorted

end Searches

/-! ## Approvals -/

section Approvals

variable {observedAtMs : ℤ} {evidence : List Snapshot} {exchangeId : Option String}
  {approval : Phase15ManualAltApproval}

/-- begun and not expired -/
def IsOpen (approval : Phase15ManualAltApproval) (approvedAtMs observedAtMs : ℤ) : Prop :=
  approval.approvedAt.millis = some approvedAtMs ∧ approvedAtMs ≤ observedAtMs ∧
    ∀ expiresAt, approval.expiresAt = some expiresAt → ∃ ms, expiresAt.millis = some ms ∧ observedAtMs < ms

theorem isExpiredAt_false {expires : Option TimestampInput} : isExpiredAt observedAtMs expires = .ok false ↔
    ∀ expiresAt, expires = some expiresAt → ∃ ms, expiresAt.millis = some ms ∧ observedAtMs < ms := by
  cases expires with
  | none => simp [isExpiredAt]
  | some expiresAt =>
    rw [isExpiredAt, bind_eq_ok]
    simp only [toTimestampMs_eq_ok, pure_eq_ok, decide_eq_false_iff_not, not_le, Option.some.injEq]
    exact ⟨fun h other hother => hother ▸ h, fun h => h expiresAt rfl⟩

/-- the latest evidence an approval can rest on -/
abbrev IsLatestFor (approval : Phase15ManualAltApproval) (exchangeId : Option String) (approvedAtMs observedAtMs : ℤ)
    (evidence : List Snapshot) (snapshot : Snapshot) : Prop :=
  IsLatest approval.market approval.evidenceId exchangeId approvedAtMs observedAtMs evidence snapshot

/-- nothing in the window closes the approval -/
def IsUnblocked (approval : Phase15ManualAltApproval) (exchangeId : Option String) (approvedAtMs observedAtMs : ℤ)
    (evidence : List Snapshot) : Prop :=
  ∀ snapshot ∈ evidence, ¬ Blocks approval.market exchangeId approvedAtMs observedAtMs snapshot

theorem isUnblocked_iff {approvedAtMs : ℤ} {blocking : Bool}
    (h : hasBlockingEvidenceAfterApproval approval.market approvedAtMs observedAtMs exchangeId evidence = .ok blocking) :
    blocking = false ↔ IsUnblocked approval exchangeId approvedAtMs observedAtMs evidence := by
  have hiff := hasBlocking_iff h
  rw [← Bool.not_eq_true, hiff]
  exact ⟨fun hnone snapshot hmem hblocks => hnone ⟨snapshot, hmem, hblocks⟩,
    fun hnone ⟨snapshot, hmem, hblocks⟩ => hnone snapshot hmem hblocks⟩

/-- the evidence that an open and unblocked approval is decided by -/
theorem resolveApproval_open {approvedAtMs : ℤ} (hopen : IsOpen approval approvedAtMs observedAtMs)
    (hblocking : hasBlockingEvidenceAfterApproval approval.market approvedAtMs observedAtMs exchangeId evidence = .ok false)
    {found : Option Snapshot}
    (hfound : findApprovalEvidenceAfterApproval approval.market approval.evidenceId approvedAtMs observedAtMs evidence
      exchangeId = .ok found) :
    resolveApproval observedAtMs evidence exchangeId approval =
      .ok (if found.map isApprovingEvidence = some true then .approved else .missingEvidence) := by
  obtain ⟨happroved, hbegun, hexpires⟩ := hopen
  unfold resolveApproval
  rw [toTimestampMs_eq_ok.2 happroved, ok_bind]
  rw [isExpiredAt_false.2 hexpires, ok_bind, if_neg (not_lt.2 hbegun), hblocking, hfound]
  cases found with
  | none => rfl
  | some snapshot => cases happroving : isApprovingEvidence snapshot <;> simp [happroving]

/-- an approval that passes is open, unblocked and supported -/
theorem resolveApproval_approved (h : resolveApproval observedAtMs evidence exchangeId approval = .ok .approved) :
    ∃ approvedAtMs snapshot, IsOpen approval approvedAtMs observedAtMs ∧
      IsUnblocked approval exchangeId approvedAtMs observedAtMs evidence ∧
      findApprovalEvidenceAfterApproval approval.market approval.evidenceId approvedAtMs observedAtMs evidence
        exchangeId = .ok (some snapshot) ∧ isApprovingEvidence snapshot = true := by
  obtain ⟨approvedAtMs, happroved, h⟩ := bind_eq_ok.1 h
  obtain ⟨isExpired, hexpired, h⟩ := bind_eq_ok.1 h
  split at h
  · cases pure_eq_ok.1 h
  rename_i hbegun
  split at h
  · cases pure_eq_ok.1 h
  rename_i hnotExpired
  obtain ⟨blocking, hblocking, h⟩ := bind_eq_ok.1 h
  split at h
  · cases pure_eq_ok.1 h
  rename_i hunblocked
  obtain ⟨found, hfound, h⟩ := bind_eq_ok.1 h
  cases found with
  | none => cases pure_eq_ok.1 h
  | some snapshot =>
    have happroving : isApprovingEvidence snapshot = true := by
      by_contra hnot
      rw [Bool.not_eq_true] at hnot
      simp only [hnot] at h
      cases pure_eq_ok.1 h
    refine ⟨approvedAtMs, snapshot, ⟨toTimestampMs_eq_ok.1 happroved, not_lt.1 hbegun, isExpiredAt_false.1 ?_⟩,
      (isUnblocked_iff hblocking).1 (by simpa using hunblocked), hfound, happroving⟩
    rw [hexpired, Bool.eq_false_iff.2 hnotExpired]

/-- an approval is decided where the times it looks at can be read -/
theorem resolveApproval_total (observedAtMs : ℤ) (exchangeId : Option String)
    (hdate : approval.approvedAt.millis.isSome)
    (hexpiry : ∀ expiresAt, approval.expiresAt = some expiresAt → expiresAt.millis.isSome)
    (hreadable : Readable evidence) :
    ∃ outcome, resolveApproval observedAtMs evidence exchangeId approval = .ok outcome := by
  obtain ⟨approvedAtMs, happroved⟩ := toTimestampMs_total hdate
  obtain ⟨isExpired, hexpired⟩ : ∃ isExpired, isExpiredAt observedAtMs approval.expiresAt = .ok isExpired := by
    cases hgiven : approval.expiresAt with
    | none => exact ⟨false, rfl⟩
    | some expiresAt =>
      obtain ⟨ms, hms⟩ := toTimestampMs_total (hexpiry expiresAt hgiven)
      exact ⟨ms ≤ observedAtMs, by rw [isExpiredAt, hms, ok_bind]; rfl⟩
  obtain ⟨blocking, hblocking⟩ := hasBlocking_total approval.market exchangeId approvedAtMs observedAtMs hreadable
  obtain ⟨found, hfound⟩ := findApproval_total approval.market approval.evidenceId exchangeId approvedAtMs
    observedAtMs hreadable
  unfold resolveApproval
  rw [happroved, ok_bind, hexpired, ok_bind, hblocking, hfound]
  simp only [ok_bind]
  split_ifs
  · exact ⟨_, rfl⟩
  · exact ⟨_, rfl⟩
  · exact ⟨_, rfl⟩
  · cases found with
    | none => exact ⟨_, rfl⟩
    | some snapshot => exact ⟨_, rfl⟩

end Approvals

/-! ## The resolution -/

section Resolution

variable {config : UniverseConfig} {observedAt : TimestampInput} {observedAtMs : ℤ} {evidence evidence' : List Snapshot}
  {exchangeId : Option String} {resolution resolution' : RuntimeUniverseResolution}

/-- two resolutions put the same markets on the same lists -/
structure SameMarkets (resolution resolution' : RuntimeUniverseResolution) : Prop where
  allowed : resolution.allowedMarkets = resolution'.allowedMarkets
  phase1 : resolution.phase1Markets = resolution'.phase1Markets
  approved : resolution.phase15ApprovedAltMarkets = resolution'.phase15ApprovedAltMarkets
  expired : resolution.phase15ExpiredAltMarkets = resolution'.phase15ExpiredAltMarkets
  pending : resolution.phase15PendingAltMarkets = resolution'.phase15PendingAltMarkets
  blocked : resolution.phase15BlockedAltMarkets = resolution'.phase15BlockedAltMarkets
  missingEvidence : resolution.phase15MissingEvidenceAltMarkets = resolution'.phase15MissingEvidenceAltMarkets
  enabled : resolution.phase15Enabled = resolution'.phase15Enabled

/-- an approval is approved at a time -/
def Approved (evidence : List Snapshot) (exchangeId : Option String) (observedAtMs : ℤ)
    (approval : Phase15ManualAltApproval) : Prop :=
  resolveApproval observedAtMs evidence exchangeId approval = .ok .approved

theorem UniverseLists.mem_push_approved {lists : UniverseLists} {market market' : String} {outcome : ApprovalOutcome} :
    market' ∈ (lists.push market outcome).approved ↔
      market' ∈ lists.approved ∨ outcome = .approved ∧ market' = market := by
  cases outcome <;> simp [UniverseLists.push, Grouping.collect]
  split_ifs with hmem
  · constructor
    · exact Or.inl
    · rintro (h | rfl)
      · exact h
      · exact hmem
  · simp

/-- the alt markets that are approved, by what becomes of the approvals -/
theorem resolve_approved (h : resolveRuntimeUniverse config observedAt evidence exchangeId = .ok resolution)
    (htime : observedAt.millis = some observedAtMs) (market : String) :
    market ∈ resolution.phase15ApprovedAltMarkets ↔
      config.phase15Enabled = true ∧ ∃ approval ∈ config.manualApprovals, approval.market = market ∧
        Approved evidence exchangeId observedAtMs approval := by
  obtain ⟨ms, hms, h⟩ := bind_eq_ok.1 h
  obtain rfl := Option.some.inj (htime.symm.trans (toTimestampMs_eq_ok.1 hms))
  obtain ⟨lists, hlists, h⟩ := bind_eq_ok.1 h
  obtain rfl := pure_eq_ok.1 h
  unfold resolveApprovals at hlists
  split at hlists
  · rename_i henabled
    have happroved := foldlM_history (fun visited (lists : UniverseLists) => market ∈ lists.approved ↔
      ∃ approval ∈ visited, approval.market = market ∧ Approved evidence exchangeId observedAtMs approval) (by simp)
      (fun visited approval lists lists' hvisited hstep => by
        obtain ⟨outcome, houtcome, hstep⟩ := bind_eq_ok.1 hstep
        obtain rfl := pure_eq_ok.1 hstep
        rw [UniverseLists.mem_push_approved, hvisited]
        constructor
        · rintro (⟨other, hmem, hother⟩ | ⟨rfl, rfl⟩)
          · exact ⟨other, by simp [hmem], hother⟩
          · exact ⟨approval, by simp, rfl, houtcome⟩
        · rintro ⟨other, hmem, hmarket, hother⟩
          rcases List.mem_append.1 hmem with hmem | hlast
          · exact Or.inl ⟨other, hmem, hmarket, hother⟩
          · obtain rfl := List.mem_singleton.1 hlast
            exact Or.inr ⟨Except.ok.inj (houtcome.symm.trans hother), hmarket.symm⟩) hlists
    rw [happroved, henabled]
    simp
  · rename_i hdisabled
    obtain rfl := pure_eq_ok.1 hlists
    simp [hdisabled]

/-- phase 1 and the approved alt markets are let in -/
theorem resolve_allowed (h : resolveRuntimeUniverse config observedAt evidence exchangeId = .ok resolution)
    (market : String) :
    market ∈ resolution.allowedMarkets ↔ market ∈ config.phase1 ∨ market ∈ resolution.phase15ApprovedAltMarkets := by
  obtain ⟨ms, -, h⟩ := bind_eq_ok.1 h
  obtain ⟨lists, -, h⟩ := bind_eq_ok.1 h
  obtain rfl := pure_eq_ok.1 h
  rw [Grouping.mem_firstSeen, List.mem_append]

theorem resolve_total (config : UniverseConfig) (exchangeId : Option String)
    (htime : observedAt.millis = some observedAtMs) (hreadable : Readable evidence) :
    ∃ resolution, resolveRuntimeUniverse config observedAt evidence exchangeId = .ok resolution := by
  obtain ⟨lists, hlists⟩ : ∃ lists, resolveApprovals config observedAtMs evidence exchangeId = .ok lists := by
    unfold resolveApprovals
    split_ifs
    · refine foldlM_total (fun approval happroval lists => ?_) _
      obtain ⟨hdate, hexpiry⟩ := config.datesValid approval happroval
      obtain ⟨outcome, houtcome⟩ := resolveApproval_total observedAtMs exchangeId
        hdate hexpiry hreadable
      exact ⟨_, by rw [houtcome, ok_bind]; rfl⟩
    · exact ⟨_, rfl⟩
  unfold resolveRuntimeUniverse
  rw [toTimestampMs_eq_ok.2 htime, ok_bind, hlists, ok_bind]
  exact ⟨_, rfl⟩

/-- the evidence matters through what becomes of the approvals -/
theorem resolve_congr (h : resolveRuntimeUniverse config observedAt evidence exchangeId = .ok resolution)
    (h' : resolveRuntimeUniverse config observedAt evidence' exchangeId = .ok resolution')
    (hsame : ∀ ms, observedAt.millis = some ms → config.phase15Enabled = true → ∀ approval ∈ config.manualApprovals,
      resolveApproval ms evidence exchangeId approval = resolveApproval ms evidence' exchangeId approval) :
    SameMarkets resolution resolution' := by
  obtain ⟨ms, hms, h⟩ := bind_eq_ok.1 h
  obtain ⟨lists, hlists, h⟩ := bind_eq_ok.1 h
  obtain rfl := pure_eq_ok.1 h
  obtain ⟨ms', hms', h'⟩ := bind_eq_ok.1 h'
  obtain rfl := Except.ok.inj (hms.symm.trans hms')
  obtain ⟨lists', hlists', h'⟩ := bind_eq_ok.1 h'
  obtain rfl := pure_eq_ok.1 h'
  have heq : lists = lists' := by
    unfold resolveApprovals at hlists hlists'
    split at hlists
    · rename_i henabled
      rw [if_pos henabled] at hlists'
      rw [foldlM_congr fun approval hmem lists => by
        rw [hsame ms (toTimestampMs_eq_ok.1 hms) henabled approval hmem], hlists'] at hlists
      exact (Except.ok.inj hlists).symm
    · rename_i hdisabled
      rw [if_neg hdisabled] at hlists'
      exact (pure_eq_ok.1 hlists).symm.trans (pure_eq_ok.1 hlists')
  subst heq
  exact ⟨rfl, rfl, rfl, rfl, rfl, rfl, rfl, rfl⟩

/-! ## Fail-closed -/

/-- an approval of a market that the evidence supports: every latest evidence approves it with all conditions, and none
of its conditions failed -/
structure Supported (approval : Phase15ManualAltApproval) (exchangeId : Option String) (observedAtMs : ℤ)
    (evidence : List Snapshot) (approvedAtMs : ℤ) : Prop where
  isOpen : IsOpen approval approvedAtMs observedAtMs
  unblocked : IsUnblocked approval exchangeId approvedAtMs observedAtMs evidence
  exists_latest : ∃ snapshot, IsLatestFor approval exchangeId approvedAtMs observedAtMs evidence snapshot
  approves : ∀ snapshot, IsLatestFor approval exchangeId approvedAtMs observedAtMs evidence snapshot →
    snapshot.action = .approve ∧
    (∀ key ∈ requiredPhase15ApprovalConditionKeys, ∃ condition ∈ snapshot.conditions, condition.key = key) ∧
    ∀ condition ∈ snapshot.conditions, condition.passed = true

/-- evidence that closes every open approval of a market -/
def ClosesMarket (config : UniverseConfig) (exchangeId : Option String) (observedAtMs : ℤ) (market : String)
    (snapshot : Snapshot) : Prop :=
  ∀ approval ∈ config.manualApprovals, approval.market = market → ∀ approvedAtMs,
    IsOpen approval approvedAtMs observedAtMs → Blocks market exchangeId approvedAtMs observedAtMs snapshot

/-- what a fail-closed gate promises for a configuration, an evidence list and a time -/
structure FailClosed (config : UniverseConfig) (observedAt : TimestampInput) (observedAtMs : ℤ) (evidence : List Snapshot)
    (exchangeId : Option String) : Prop where
  supported : ∀ resolution, resolveRuntimeUniverse config observedAt evidence exchangeId = .ok resolution →
    ∀ market ∈ resolution.allowedMarkets, market ∉ config.phase1 → config.phase15Enabled = true ∧
      ∃ approval ∈ config.manualApprovals, approval.market = market ∧
        ∃ approvedAtMs, Supported approval exchangeId observedAtMs evidence approvedAtMs
  closes : ∀ before after blocking, evidence = before ++ after → ∀ market ∉ config.phase1,
    ClosesMarket config exchangeId observedAtMs market blocking → ∀ resolution,
      resolveRuntimeUniverse config observedAt (before ++ blocking :: after) exchangeId = .ok resolution →
        market ∉ resolution.allowedMarkets
  order : ∀ permuted, evidence.Perm permuted → ∀ resolution resolution',
    resolveRuntimeUniverse config observedAt evidence exchangeId = .ok resolution →
      resolveRuntimeUniverse config observedAt permuted exchangeId = .ok resolution' → SameMarkets resolution resolution'

/-- the latest evidence of an open and unblocked approval speaks with one voice, and outside phase 1 it hides no failed
condition behind a passed one of the same key -/
def Unambiguous (config : UniverseConfig) (observedAtMs : ℤ) (evidence : List Snapshot) (exchangeId : Option String) :
    Prop :=
  config.phase15Enabled = true → ∀ approval ∈ config.manualApprovals, ∀ approvedAtMs,
    IsOpen approval approvedAtMs observedAtMs →
    IsUnblocked approval exchangeId approvedAtMs observedAtMs evidence →
    (∀ snapshot other, IsLatestFor approval exchangeId approvedAtMs observedAtMs evidence snapshot →
      IsLatestFor approval exchangeId approvedAtMs observedAtMs evidence other →
        isApprovingEvidence snapshot = isApprovingEvidence other) ∧
    (approval.market ∉ config.phase1 →
      ∀ snapshot, IsLatestFor approval exchangeId approvedAtMs observedAtMs evidence snapshot →
        isApprovingEvidence snapshot = true → ∀ condition ∈ snapshot.conditions, condition.passed = true)

theorem isApprovingEvidence_conditions {snapshot : Snapshot} (h : isApprovingEvidence snapshot = true) :
    snapshot.action = .approve ∧
      ∀ key ∈ requiredPhase15ApprovalConditionKeys, ∃ condition ∈ snapshot.conditions, condition.key = key := by
  simp only [isApprovingEvidence, decide_eq_true_eq, List.all_eq_true, Option.map_eq_some_iff] at h
  refine ⟨h.1, fun key hkey => ?_⟩
  obtain ⟨condition, hfound, -⟩ := h.2 key hkey
  have hmem := List.mem_of_find?_eq_some hfound
  have hkeyed := List.find?_some hfound
  exact ⟨condition, by simpa using hmem, by simpa using hkeyed⟩

/-- an approval's own blocking evidence keeps its market out -/
theorem closes_market {market : String} (hphase1 : market ∉ config.phase1) {blocking : Snapshot}
    (hmem : blocking ∈ evidence) (hcloses : ClosesMarket config exchangeId observedAtMs market blocking)
    (htime : observedAt.millis = some observedAtMs)
    (h : resolveRuntimeUniverse config observedAt evidence exchangeId = .ok resolution) :
    market ∉ resolution.allowedMarkets := by
  intro hallowed
  rcases (resolve_allowed h market).1 hallowed with hphase | happroved
  · exact hphase1 hphase
  · obtain ⟨-, approval, happroval, hmarket, happroved⟩ := (resolve_approved h htime market).1 happroved
    obtain ⟨approvedAtMs, -, hopen, hunblocked, -⟩ := resolveApproval_approved happroved
    exact hunblocked blocking hmem (hmarket ▸ hcloses approval happroval hmarket approvedAtMs hopen)

/-- unambiguous evidence decides an approval alike in every order -/
theorem Unambiguous.resolveApproval_perm (h : Unambiguous config observedAtMs evidence exchangeId)
    (henabled : config.phase15Enabled = true) (hreadable : Readable evidence) (hp : evidence.Perm evidence')
    {approval : Phase15ManualAltApproval} (happroval : approval ∈ config.manualApprovals) :
    resolveApproval observedAtMs evidence exchangeId approval =
      resolveApproval observedAtMs evidence' exchangeId approval := by
  have hblocking : ∀ approvedAtMs,
      hasBlockingEvidenceAfterApproval approval.market approvedAtMs observedAtMs exchangeId evidence =
        hasBlockingEvidenceAfterApproval approval.market approvedAtMs observedAtMs exchangeId evidence' := by
    intro approvedAtMs
    obtain ⟨blocking, hb⟩ := hasBlocking_total approval.market exchangeId approvedAtMs observedAtMs hreadable
    obtain ⟨blocking', hb'⟩ := hasBlocking_total approval.market exchangeId approvedAtMs observedAtMs (hreadable.perm hp)
    rw [hb, hb']
    refine congrArg Except.ok (Bool.eq_iff_iff.2 ?_)
    rw [hasBlocking_iff hb, hasBlocking_iff hb']
    exact exists_congr fun snapshot => and_congr_left fun _ => hp.mem_iff
  by_cases hopen : ∃ approvedAtMs, IsOpen approval approvedAtMs observedAtMs ∧
      hasBlockingEvidenceAfterApproval approval.market approvedAtMs observedAtMs exchangeId evidence = .ok false
  · obtain ⟨approvedAtMs, hopen, hfalse⟩ := hopen
    obtain ⟨found, hfound⟩ := findApproval_total approval.market approval.evidenceId exchangeId approvedAtMs
      observedAtMs hreadable
    obtain ⟨found', hfound'⟩ := findApproval_total approval.market approval.evidenceId exchangeId approvedAtMs
      observedAtMs (hreadable.perm hp)
    have hunblocked := (isUnblocked_iff hfalse).1 rfl
    obtain ⟨hagree, -⟩ := h henabled approval happroval approvedAtMs hopen hunblocked
    obtain ⟨hlatest, hnone⟩ := findApproval_latest hfound
    obtain ⟨hlatest', hnone'⟩ := findApproval_latest hfound'
    have hverdict : found.map isApprovingEvidence = found'.map isApprovingEvidence := by
      cases found with
      | none =>
        cases found' with
        | none => rfl
        | some other => exact absurd ((hlatest' other rfl).perm hp.symm) (hnone rfl other)
      | some snapshot =>
        cases found' with
        | none => exact absurd ((hlatest snapshot rfl).perm hp) (hnone' rfl snapshot)
        | some other =>
          exact congrArg some (hagree snapshot other (hlatest snapshot rfl) ((hlatest' other rfl).perm hp.symm))
    rw [resolveApproval_open hopen hfalse hfound, resolveApproval_open hopen (hblocking approvedAtMs ▸ hfalse) hfound',
      hverdict]
  · -- the evidence's own verdict is not reached
    unfold resolveApproval
    cases happroved : toTimestampMs approval.approvedAt with
    | error thrown => rfl
    | ok approvedAtMs =>
      cases hexpired : isExpiredAt observedAtMs approval.expiresAt with
      | error thrown => rfl
      | ok isExpired =>
        simp only [ok_bind]
        split_ifs with hpending hexpiredNow
        · rfl
        · rfl
        · have hnot : ¬ hasBlockingEvidenceAfterApproval approval.market approvedAtMs observedAtMs exchangeId evidence =
              .ok false := by
            rw [Bool.not_eq_true] at hexpiredNow
            subst hexpiredNow
            exact fun hfalse => hopen ⟨approvedAtMs,
              ⟨toTimestampMs_eq_ok.1 happroved, not_lt.1 hpending, isExpiredAt_false.1 hexpired⟩, hfalse⟩
          rw [← hblocking approvedAtMs]
          cases hb : hasBlockingEvidenceAfterApproval approval.market approvedAtMs observedAtMs exchangeId evidence with
          | error thrown => rfl
          | ok blocking =>
            cases blocking with
            | true => rfl
            | false => exact absurd hb hnot

/-- a latest evidence that the list begins with decides its approval -/
theorem resolveApproval_head {snapshot : Snapshot} {rest : List Snapshot} (hreadable : Readable (snapshot :: rest))
    {approval : Phase15ManualAltApproval} {approvedAtMs : ℤ} (hopen : IsOpen approval approvedAtMs observedAtMs)
    (hunblocked : IsUnblocked approval exchangeId approvedAtMs observedAtMs (snapshot :: rest))
    (hlatest : IsLatestFor approval exchangeId approvedAtMs observedAtMs (snapshot :: rest) snapshot) :
    resolveApproval observedAtMs (snapshot :: rest) exchangeId approval =
      .ok (if isApprovingEvidence snapshot = true then .approved else .missingEvidence) := by
  obtain ⟨blocking, hblocking⟩ := hasBlocking_total approval.market exchangeId approvedAtMs observedAtMs hreadable
  obtain rfl := (isUnblocked_iff hblocking).2 hunblocked
  rw [resolveApproval_open hopen hblocking (findApproval_head hreadable hlatest)]
  simp

theorem IsUnblocked.perm {approval : Phase15ManualAltApproval} {approvedAtMs : ℤ}
    (h : IsUnblocked approval exchangeId approvedAtMs observedAtMs evidence) (hp : evidence.Perm evidence') :
    IsUnblocked approval exchangeId approvedAtMs observedAtMs evidence' :=
  fun snapshot hmem => h snapshot (hp.mem_iff.2 hmem)

/-- an approval's market is on the list of approved ones exactly where it passes: no other approval is for it -/
theorem approved_of_own (h : resolveRuntimeUniverse config observedAt evidence exchangeId = .ok resolution)
    (htime : observedAt.millis = some observedAtMs) (henabled : config.phase15Enabled = true)
    {approval : Phase15ManualAltApproval} (happroval : approval ∈ config.manualApprovals) :
    approval.market ∈ resolution.phase15ApprovedAltMarkets ↔ Approved evidence exchangeId observedAtMs approval := by
  rw [resolve_approved h htime]
  constructor
  · rintro ⟨-, other, hother, hmarket, happroved⟩
    have hsame : other = approval := List.inj_on_of_nodup_map config.oneForMarket hother happroval hmarket
    exact hsame ▸ happroved
  · exact fun happroved => ⟨henabled, approval, happroval, rfl, happroved⟩

/-- where the order does not matter, latest evidences of one time agree -/
theorem agree_of_order (hreadable : Readable evidence) (htime : observedAt.millis = some observedAtMs)
    (horder : ∀ permuted, evidence.Perm permuted → ∀ resolution resolution',
      resolveRuntimeUniverse config observedAt evidence exchangeId = .ok resolution →
        resolveRuntimeUniverse config observedAt permuted exchangeId = .ok resolution' →
          SameMarkets resolution resolution')
    (henabled : config.phase15Enabled = true) {approval : Phase15ManualAltApproval}
    (happroval : approval ∈ config.manualApprovals) {approvedAtMs : ℤ} (hopen : IsOpen approval approvedAtMs observedAtMs)
    (hunblocked : IsUnblocked approval exchangeId approvedAtMs observedAtMs evidence) {snapshot : Snapshot}
    (hlatest : IsLatestFor approval exchangeId approvedAtMs observedAtMs evidence snapshot) :
    ∀ resolution, resolveRuntimeUniverse config observedAt evidence exchangeId = .ok resolution →
      (approval.market ∈ resolution.phase15ApprovedAltMarkets ↔ isApprovingEvidence snapshot = true) := by
  intro resolution hresolution
  obtain ⟨before, after, rfl⟩ := List.append_of_mem hlatest.mem
  have hp : (before ++ snapshot :: after).Perm (snapshot :: (before ++ after)) := List.perm_middle
  obtain ⟨resolution', hresolution'⟩ := resolve_total config exchangeId htime
    (hreadable.perm hp)
  have hdecided := resolveApproval_head (hreadable.perm hp) hopen (hunblocked.perm hp) (hlatest.perm hp)
  rw [(horder _ hp resolution resolution' hresolution hresolution').approved,
    approved_of_own hresolution' htime henabled happroval, Approved, hdecided]
  cases isApprovingEvidence snapshot <;> simp

/-- **The universe gate.** For every configuration, every evidence list with readable times and every time: a market
outside phase 1 is let in only by an open approval that nothing blocks and whose latest evidence approves with all seven
conditions and none failed, blocking evidence within every window of a market always keeps it out, and the order of the
list does not matter, exactly where the latest evidence of each open and unblocked approval is unambiguous. -/
theorem failClosed_iff (config : UniverseConfig) {observedAt : TimestampInput} {observedAtMs : ℤ}
    (htime : observedAt.millis = some observedAtMs) {evidence : List Snapshot} (hreadable : Readable evidence)
    (exchangeId : Option String) :
    FailClosed config observedAt observedAtMs evidence exchangeId ↔
      Unambiguous config observedAtMs evidence exchangeId := by
  obtain ⟨resolution, hresolution⟩ := resolve_total config exchangeId htime hreadable
  constructor
  · intro hclosed henabled approval happroval approvedAtMs hopen hunblocked
    have hdecides : ∀ snapshot, IsLatestFor approval exchangeId approvedAtMs observedAtMs evidence snapshot →
        (approval.market ∈ resolution.phase15ApprovedAltMarkets ↔ isApprovingEvidence snapshot = true) :=
      fun snapshot hlatest => agree_of_order hreadable htime hclosed.order henabled happroval hopen hunblocked hlatest
        resolution hresolution
    refine ⟨fun snapshot other hsnapshot hother => ?_, fun hphase1 snapshot hlatest happroving => ?_⟩
    · rw [Bool.eq_iff_iff, ← hdecides snapshot hsnapshot, ← hdecides other hother]
    · have hallowed := (resolve_allowed hresolution _).2 (Or.inr ((hdecides snapshot hlatest).2 happroving))
      obtain ⟨-, other, hother, hmarket, approvedAtMs', hsupported⟩ :=
        hclosed.supported resolution hresolution approval.market hallowed hphase1
      obtain rfl := List.inj_on_of_nodup_map config.oneForMarket hother happroval hmarket
      obtain rfl := Option.some.inj (hopen.1.symm.trans hsupported.isOpen.1)
      exact (hsupported.approves snapshot hlatest).2.2
  · intro hunambiguous
    refine ⟨?_, ?_, ?_⟩
    · intro resolution' hresolution' market hallowed hphase1
      have hlisted := ((resolve_allowed hresolution' market).1 hallowed).resolve_left hphase1
      obtain ⟨henabled, approval, happroval, rfl, happroved⟩ := (resolve_approved hresolution' htime market).1 hlisted
      obtain ⟨approvedAtMs, snapshot, hopen, hunblocked, hfound, happroving⟩ := resolveApproval_approved happroved
      have hlatest := (findApproval_latest hfound).1 snapshot rfl
      obtain ⟨hagree, hhidden⟩ := hunambiguous henabled approval happroval approvedAtMs hopen hunblocked
      refine ⟨henabled, approval, happroval, rfl, approvedAtMs, hopen, hunblocked, ⟨snapshot, hlatest⟩,
        fun other hother => ?_⟩
      have hother_approving : isApprovingEvidence other = true := (hagree other snapshot hother hlatest).trans happroving
      obtain ⟨haction, hkeys⟩ := isApprovingEvidence_conditions hother_approving
      exact ⟨haction, hkeys, hhidden hphase1 other hother hother_approving⟩
    · intro before after blocking _ market hphase1 hcloses resolution' hresolution'
      exact closes_market hphase1 (by simp) hcloses htime hresolution'
    · intro permuted hp resolution' resolution'' hresolution' hresolution''
      refine resolve_congr hresolution' hresolution'' fun ms hms henabled approval happroval => ?_
      obtain rfl := Option.some.inj (htime.symm.trans hms)
      exact hunambiguous.resolveApproval_perm henabled hreadable hp happroval

/-- evidence of the eligibility evaluator hides no failed condition -/
theorem evaluated_not_hidden [Host] (input : Phase15AltEligibilityInput)
    (h : isApprovingEvidence (evaluatePhase15AltEligibility input).evidence = true) :
    ∀ condition ∈ (evaluatePhase15AltEligibility input).evidence.conditions, condition.passed = true :=
  (evaluatePhase15AltEligibility_action input).1 (isApprovingEvidence_conditions h).1

end Resolution

/-! ## Two ways in -/

namespace UniverseSample

def approval : Phase15ManualAltApproval := ⟨"KRW-XRP", .at 10, some "e1", some (.at 100)⟩

def config : UniverseConfig where
  phase1 := ["KRW-BTC", "KRW-ETH"]
  phase15Enabled := true
  manualApprovals := [approval]
  oneForMarket := by decide
  datesValid := by decide

def thresholds : Phase15AltEligibilityThresholds := ⟨.finite 90, "10000000000", "15", "20", "100000000"⟩

/-- the seven conditions, the listing age failed or passed -/
def conditions (listed : Bool) : List Phase15AltApprovalEvidenceCondition :=
  ⟨.listingAge, listed, "listing_age"⟩ :: requiredPhase15ApprovalConditionKeys.tail.map (⟨·, true, "passed"⟩)

def approve (conditions : List Phase15AltApprovalEvidenceCondition) : Snapshot where
  exchangeId := "upbit_krw_spot"
  market := "KRW-XRP"
  action := .approve
  observedAt := .at 20
  thresholds := thresholds
  conditions := conditions
  approvedBy := some "operator"
  evidenceId := some "e1"
  source := none
  metadata := none

/-- the listing age failed, and then passed -/
def hiddenFailure : Snapshot := approve (⟨.listingAge, false, "too_young"⟩ :: conditions true)

/-- the alt markets that are let in -/
def approved (evidence : List Snapshot) : Option (List String) :=
  (resolveRuntimeUniverse config (.at 50) evidence (some "upbit_krw_spot")).toOption.map
    RuntimeUniverseResolution.phase15ApprovedAltMarkets

theorem isOpen : IsOpen approval 10 50 := by
  refine ⟨rfl, by decide, fun expiresAt hexpires => ?_⟩
  obtain rfl : TimestampInput.at 100 = expiresAt := Option.some.inj hexpires
  exact ⟨100, rfl, by decide⟩

/-- a lone approving evidence is the latest one -/
theorem isLatest (conditions : List Phase15AltApprovalEvidenceCondition) :
    IsLatestFor approval (some "upbit_krw_spot") 10 50 [approve conditions] (approve conditions) := by
  refine ⟨by simp, rfl, ⟨20, rfl, by decide, by decide⟩, fun other hother _ _ ms ms' hms hms' => ?_⟩
  obtain rfl := List.mem_singleton.1 hother
  exact (Option.some.inj (hms'.symm.trans hms)).le

end UniverseSample

open UniverseSample in
/-- a failed condition before a passed one of the same key lets the market in -/
theorem hidden_failure_opens_market :
    ∃ resolution, resolveRuntimeUniverse config (.at 50) [hiddenFailure] (some "upbit_krw_spot") = .ok resolution ∧
      "KRW-XRP" ∈ resolution.allowedMarkets ∧ "KRW-XRP" ∉ config.phase1 ∧
      (∀ approval ∈ config.manualApprovals, approval = UniverseSample.approval) ∧
      IsLatestFor approval (some "upbit_krw_spot") 10 50 [hiddenFailure] hiddenFailure ∧
      ∃ condition ∈ hiddenFailure.conditions, condition.passed = false := by
  have happroved : approved [hiddenFailure] = some ["KRW-XRP"] := by decide +kernel
  obtain ⟨resolution, hresolution, hmarkets⟩ := Option.map_eq_some_iff.1 happroved
  refine ⟨resolution, ok_of_toOption hresolution, ?_, by decide, fun approval hmem => List.mem_singleton.1 hmem,
    isLatest _, _, List.mem_cons_self, rfl⟩
  rw [resolve_allowed (ok_of_toOption hresolution), hmarkets]
  simp

open UniverseSample in
/-- of two approvals in one millisecond, the one listed first decides -/
theorem order_decides_market :
    approved [approve (conditions true), approve (conditions false)] = some ["KRW-XRP"] ∧
      approved [approve (conditions false), approve (conditions true)] = some [] := by
  constructor <;> decide +kernel

open UniverseSample in
/-- with the seven conditions passed, and each listed once, the gate is fail-closed -/
theorem failClosed_of_evidence :
    FailClosed config (.at 50) 50 [approve (conditions true)] (some "upbit_krw_spot") := by
  have hreadable : Readable [approve (conditions true)] := by
    intro snapshot hmem
    obtain rfl := List.mem_singleton.1 hmem
    rfl
  refine (@failClosed_iff config (.at 50) 50 rfl _ hreadable _).2 ?_
  intro _ approval _ approvedAtMs _ _
  refine ⟨fun snapshot other hsnapshot hother => ?_, fun _ snapshot hsnapshot _ condition hcondition => ?_⟩
  · rw [List.mem_singleton.1 hsnapshot.mem, List.mem_singleton.1 hother.mem]
  · rw [List.mem_singleton.1 hsnapshot.mem] at hcondition
    revert condition
    decide

end SeeMirai.Universe
