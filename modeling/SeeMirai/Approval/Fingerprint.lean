/-
The fingerprint of a live order proposal (domain/live-order-approval/fingerprint.ts): which changes of a proposal an
approval that was given earlier notices.

The evidence is written as JSON with sorted keys and hashed; the model stops at the text that is hashed. Decimals are
normalised, and so is the expiry; one that cannot be read stays as it is. A sorted object is made by assigning its
members to a new one, so that `__proto__`, which `JSON.parse` does make a member, sets the prototype and is left out.

Results:
- `toStableJsonValue_eq_iff`: two values have one stable form exactly when they are the same up to the order of members
  and to members named `__proto__`.
- `fingerprint_exact_iff`: where the fingerprint tells two proposals apart exactly when they differ.
-/
import SeeMirai.Lib.JsonValue
import SeeMirai.Lib.IsoTimestamp
import SeeMirai.Lib.StableSort
import SeeMirai.Shared.Decimal

namespace SeeMirai.Approval

open JsonValue

/-! ## Model: the proposal -/

/-- a record of plain JSON values -/
structure PlainRecord where
  members : List (String × JsonValue)
  plain : (JsonValue.object members).Plain

/-- a `Date`, which may be invalid, or a text -/
inductive ExpiryInput where
  | date (time : Option TimeValue)
  | text (s : String)
deriving DecidableEq

structure LiveOrderApprovalBudgetSnapshot where
  configuredMaxOrderKrw : String
  dailyApprovedNotionalLimitKrw : String
  dailyApprovedNotionalUsedKrw : String
deriving DecidableEq

structure LiveOrderProposalContract where
  proposalId : String
  exchangeId : String
  market : String
  side : String
  orderType : String
  requestedPrice : String
  requestedVolume : String
  expectedNotionalKrw : String
  idempotencyKey : String
  decisionLedgerId : String
  riskDecisionId : String
  costSnapshot : PlainRecord
  budget : LiveOrderApprovalBudgetSnapshot
  expiresAt : ExpiryInput

/-! ## Model: the stable form -/

section Model

variable [Host]

def compareKeys (left right : String × JsonValue) : Ordering := Host.localeCompare left.1 right.1

mutual

/-- the entries are sorted by key and assigned to a new object -/
def toStableJsonValue : JsonValue → JsonValue
  | .array items => .array (toStableItems items)
  | .object members => .object (assignAll (stableSort compareKeys (toStableMembers members)))
  | .null => .null
  | .bool b => .bool b
  | .number n => .number n
  | .string s => .string s

def toStableItems : List JsonValue → List JsonValue
  | [] => []
  | v :: vs => toStableJsonValue v :: toStableItems vs

def toStableMembers : List (String × JsonValue) → List (String × JsonValue)
  | [] => []
  | (key, v) :: ms => (key, toStableJsonValue v) :: toStableMembers ms

end

def stableStringify (input : JsonValue) : String := stringify (toStableJsonValue input)

/-! ## Model: the evidence -/

structure LiveOrderProposalFingerprintEvidence where
  proposal_id : String
  exchange_id : String
  market : String
  side : String
  order_type : String
  requested_price : String
  requested_volume : String
  expected_notional_krw : String
  configured_max_order_krw : String
  daily_approved_notional_limit_krw : String
  daily_approved_notional_used_krw : String
  decision_ledger_id : String
  risk_decision_id : String
  idempotency_key : String
  expires_at : String
  cost_snapshot : JsonValue

omit [Host] in
def LiveOrderProposalFingerprintEvidence.members (evidence : LiveOrderProposalFingerprintEvidence) :
    List (String × JsonValue) :=
  [("proposal_id", .string evidence.proposal_id), ("exchange_id", .string evidence.exchange_id),
    ("market", .string evidence.market), ("side", .string evidence.side), ("order_type", .string evidence.order_type),
    ("requested_price", .string evidence.requested_price), ("requested_volume", .string evidence.requested_volume),
    ("expected_notional_krw", .string evidence.expected_notional_krw),
    ("configured_max_order_krw", .string evidence.configured_max_order_krw),
    ("daily_approved_notional_limit_krw", .string evidence.daily_approved_notional_limit_krw),
    ("daily_approved_notional_used_krw", .string evidence.daily_approved_notional_used_krw),
    ("decision_ledger_id", .string evidence.decision_ledger_id),
      ("risk_decision_id", .string evidence.risk_decision_id),
    ("idempotency_key", .string evidence.idempotency_key), ("expires_at", .string evidence.expires_at),
    ("cost_snapshot", evidence.cost_snapshot)]

/-- a text that is no finite decimal stays as it is -/
def normalizeFinancialDecimalString (value : String) : String :=
  match parseFinancialDecimal value with
  | .ok q => Host.toFixed q
  | .error _ => value

variable [DateText]

omit [Host] in
def ExpiryInput.time : ExpiryInput → Option TimeValue
  | date time => time
  | text s => DateText.parse s

omit [Host] [DateText] in
/-- `String(timestamp)` where there is no time -/
def ExpiryInput.raw : ExpiryInput → String
  | date _ => "Invalid Date"
  | text s => s

omit [Host] in
def toTimestampString (timestamp : ExpiryInput) : String :=
  match timestamp.time with
  | some time => toISOString time.ms
  | none => timestamp.raw

def createLiveOrderProposalFingerprintEvidence (proposal : LiveOrderProposalContract) :
    LiveOrderProposalFingerprintEvidence where
  proposal_id := proposal.proposalId
  exchange_id := proposal.exchangeId
  market := proposal.market
  side := proposal.side
  order_type := proposal.orderType
  requested_price := normalizeFinancialDecimalString proposal.requestedPrice
  requested_volume := normalizeFinancialDecimalString proposal.requestedVolume
  expected_notional_krw := normalizeFinancialDecimalString proposal.expectedNotionalKrw
  configured_max_order_krw := normalizeFinancialDecimalString proposal.budget.configuredMaxOrderKrw
  daily_approved_notional_limit_krw := normalizeFinancialDecimalString proposal.budget.dailyApprovedNotionalLimitKrw
  daily_approved_notional_used_krw := normalizeFinancialDecimalString proposal.budget.dailyApprovedNotionalUsedKrw
  decision_ledger_id := proposal.decisionLedgerId
  risk_decision_id := proposal.riskDecisionId
  idempotency_key := proposal.idempotencyKey
  expires_at := toTimestampString proposal.expiresAt
  cost_snapshot := toStableJsonValue (.object proposal.costSnapshot.members)

/-- the text that `createLiveOrderProposalFingerprint` hashes -/
def fingerprintText (proposal : LiveOrderProposalContract) : String :=
  stableStringify (.object (createLiveOrderProposalFingerprintEvidence proposal).members)

end Model

/-! ## Members that are lost -/

mutual

/-- `v` without members named `__proto__`, at any depth -/
def ordinary : JsonValue → JsonValue
  | .array items => .array (ordinaryItems items)
  | .object members => .object (ordinaryMembers members)
  | .null => .null
  | .bool b => .bool b
  | .number n => .number n
  | .string s => .string s

def ordinaryItems : List JsonValue → List JsonValue
  | [] => []
  | v :: vs => ordinary v :: ordinaryItems vs

def ordinaryMembers : List (String × JsonValue) → List (String × JsonValue)
  | [] => []
  | (key, v) :: ms => if key ≠ protoKey then (key, ordinary v) :: ordinaryMembers ms else ordinaryMembers ms

end

theorem ordinaryItems_eq (vs : List JsonValue) : ordinaryItems vs = vs.map ordinary := by
  induction vs with
  | nil => rfl
  | cons v vs ih => rw [ordinaryItems, ih, List.map_cons]

theorem ordinaryMembers_eq (ms : List (String × JsonValue)) :
    ordinaryMembers ms = (ms.filter fun m => m.1 ≠ protoKey).map (Prod.map id ordinary) := by
  induction ms with
  | nil => rfl
  | cons m ms ih =>
    obtain ⟨key, v⟩ := m
    by_cases hkey : key = protoKey
    · rw [ordinaryMembers, if_neg (not_not.2 hkey), List.filter_cons_of_neg (by simpa using hkey), ih]
    · rw [ordinaryMembers, if_pos hkey, List.filter_cons_of_pos (by simpa using hkey), ih]
      rfl

theorem plain_ordinary {v : JsonValue} (h : v.Plain) : (ordinary v).Plain := by
  induction h with
  | null => exact .null
  | bool b => exact .bool b
  | number hn => exact .number hn
  | string s => exact .string s
  | array plain ih =>
    rw [ordinary, ordinaryItems_eq]
    exact .array (List.forall_mem_map.2 ih)
  | @object ms keys plain ih =>
    rw [ordinary, ordinaryMembers_eq]
    refine .object ?_ (List.forall_mem_map.2 fun m hm => ih m (List.mem_of_mem_filter hm))
    rw [List.map_map]
    exact keys.sublist (List.filter_sublist.map Prod.fst)

/-! ## The stable form -/

section Stable

variable [H : Host]

theorem toStableItems_eq (vs : List JsonValue) : toStableItems vs = vs.map toStableJsonValue := by
  induction vs with
  | nil => rfl
  | cons v vs ih => rw [toStableItems, ih, List.map_cons]

theorem toStableMembers_eq (ms : List (String × JsonValue)) :
    toStableMembers ms = ms.map (Prod.map id toStableJsonValue) := by
  induction ms with
  | nil => rfl
  | cons m ms ih =>
    rw [toStableMembers, ih]
    rfl

omit H in
theorem keys_map (f : JsonValue → JsonValue) (ms : List (String × JsonValue)) :
    (ms.map (Prod.map id f)).map Prod.fst = ms.map Prod.fst := by
  rw [List.map_map]
  rfl

omit H in
theorem filter_keys_map (f : JsonValue → JsonValue) (ms : List (String × JsonValue)) :
    (ms.map (Prod.map id f)).filter (fun m => m.1 ≠ protoKey) =
      (ms.filter fun m => m.1 ≠ protoKey).map (Prod.map id f) := by
  rw [List.filter_map]
  rfl

/-- the stable form keeps everything but the order of members and the members that are lost -/
theorem same_toStableJsonValue {v : JsonValue} (h : v.Plain) :
    SameUpToKeyOrder (ordinary v) (toStableJsonValue v) := by
  induction h with
  | null => exact .refl _
  | bool b => exact .refl _
  | number hn => exact .refl _
  | string s => exact .refl _
  | array plain ih =>
    rw [ordinary, ordinaryItems_eq, toStableJsonValue, toStableItems_eq]
    exact .items ih
  | @object ms keys plain ih =>
    rw [ordinary, ordinaryMembers_eq, toStableJsonValue, toStableMembers_eq]
    have hsorted : (stableSort compareKeys (ms.map (Prod.map id toStableJsonValue))).Perm
        (ms.map (Prod.map id toStableJsonValue)) := stableSort_perm
    have hkeys : ((stableSort compareKeys (ms.map (Prod.map id toStableJsonValue))).map Prod.fst).Nodup := by
      refine (hsorted.map Prod.fst).nodup_iff.2 ?_
      rwa [keys_map]
    have hmade := (assignAll_perm hkeys).trans (hsorted.filter _)
    rw [filter_keys_map] at hmade
    exact (SameUpToKeyOrder.members fun m hm => ih m (List.mem_of_mem_filter hm)).trans (.reorder hmade.symm)

variable [H.Lawful]

instance compareKeys_trans : Std.TransCmp compareKeys := transCmp_on Host.Lawful.trans Prod.fst

omit H [H.Lawful] in
theorem eq_of_key {ms : List (String × JsonValue)} (hkeys : (ms.map Prod.fst).Nodup) {m n : String × JsonValue}
    (hm : m ∈ ms) (hn : n ∈ ms) (h : m.1 = n.1) : m = n :=
  List.inj_on_of_nodup_map hkeys hm hn h

theorem stable_members_perm {ms ns : List (String × JsonValue)} (hkeys : (ms.map Prod.fst).Nodup) (h : ms.Perm ns) :
    stableSort compareKeys ms = stableSort compareKeys ns := by
  have heqCmp : Std.LawfulEqCmp (Host.localeCompare) := Host.Lawful.eq
  refine stableSort_eq_of_perm h fun m hm n hn heq => ?_
  exact eq_of_key hkeys hm hn (Std.LawfulEqCmp.eq_of_compare heq)

/-- the stable form forgets the order of members -/
theorem toStableJsonValue_congr {v w : JsonValue} (h : SameUpToKeyOrder v w) (hv : v.Plain) :
    toStableJsonValue v = toStableJsonValue w := by
  induction h with
  | refl v => rfl
  | trans huv _ ih ih' => exact (ih hv).trans (ih' (huv.plain hv))
  | @reorder ms ns hp =>
    cases hv with
    | object keys _ =>
      have hsorted := stable_members_perm (by rwa [keys_map]) (hp.map (Prod.map id toStableJsonValue))
      rw [toStableJsonValue, toStableJsonValue, toStableMembers_eq, toStableMembers_eq, hsorted]
  | item before after _ ih =>
    cases hv with
    | array items =>
      have hitem := ih (items _ (List.mem_append_right _ List.mem_cons_self))
      simp only [toStableJsonValue, toStableItems_eq, List.map_append, List.map_cons, hitem]
  | member before after key _ ih =>
    cases hv with
    | object _ values =>
      have hmember := ih (values _ (List.mem_append_right _ List.mem_cons_self))
      simp only [toStableJsonValue, toStableMembers_eq, List.map_append, List.map_cons, Prod.map_apply, hmember]

omit H [H.Lawful] in
/-- what is not assigned may as well be left out before -/
theorem assignAll_filter (ms : List (String × JsonValue)) :
    assignAll (ms.filter fun m => m.1 ≠ protoKey) = assignAll ms := by
  have hfrom : ∀ made : List (String × JsonValue),
      (ms.filter fun m => m.1 ≠ protoKey).foldl (fun made m => assign made m.1 m.2) made
        = ms.foldl (fun made m => assign made m.1 m.2) made := by
    induction ms with
    | nil => exact fun made => rfl
    | cons m ms ih =>
      intro made
      by_cases hkey : m.1 = protoKey
      · rw [List.filter_cons_of_neg (by simpa using hkey), List.foldl_cons, ih, assign, if_pos hkey]
      · rw [List.filter_cons_of_pos (by simpa using hkey), List.foldl_cons, List.foldl_cons, ih]
  exact hfrom []

theorem stableSort_members_filter {ms : List (String × JsonValue)} (hkeys : (ms.map Prod.fst).Nodup)
    (p : String × JsonValue → Bool) :
    stableSort compareKeys (ms.filter p) = (stableSort compareKeys ms).filter p := by
  have heqCmp : Std.LawfulEqCmp (Host.localeCompare) := Host.Lawful.eq
  refine List.Perm.eq_of_pairwise ?_ stableSort_pairwise (stableSort_pairwise.filter p)
    (stableSort_perm.trans (stableSort_perm.symm.filter p))
  intro m n hm hn hmn hnm
  have hm' : m ∈ ms := List.mem_of_mem_filter (mem_stableSort.1 hm)
  have hn' : n ∈ ms := mem_stableSort.1 (List.mem_of_mem_filter hn)
  have heq : compareKeys m n = .eq := Std.OrientedCmp.isLE_antisymm hmn hnm
  exact eq_of_key hkeys hm' hn' (Std.LawfulEqCmp.eq_of_compare heq)

/-- the lost members leave no trace -/
theorem toStableJsonValue_ordinary {v : JsonValue} (h : v.Plain) :
    toStableJsonValue (ordinary v) = toStableJsonValue v := by
  induction h with
  | null => rfl
  | bool b => rfl
  | number hn => rfl
  | string s => rfl
  | array plain ih =>
    rw [ordinary, ordinaryItems_eq, toStableJsonValue, toStableJsonValue, toStableItems_eq, toStableItems_eq,
      List.map_map]
    exact congrArg JsonValue.array (List.map_congr_left ih)
  | @object ms keys plain ih =>
    have hmembers : ((ms.filter fun m => m.1 ≠ protoKey).map (Prod.map id ordinary)).map (Prod.map id toStableJsonValue)
        = (ms.map (Prod.map id toStableJsonValue)).filter fun m => m.1 ≠ protoKey := by
      rw [filter_keys_map, List.map_map]
      refine List.map_congr_left fun m hm => Prod.ext rfl ?_
      exact ih m (List.mem_of_mem_filter hm)
    rw [ordinary, ordinaryMembers_eq, toStableJsonValue, toStableJsonValue, toStableMembers_eq, toStableMembers_eq,
      hmembers, stableSort_members_filter (by rwa [keys_map]), assignAll_filter]

/-- **The stable form** of two values is one exactly when they differ in the order of members and in members named
`__proto__` only. -/
theorem toStableJsonValue_eq_iff {v w : JsonValue} (hv : v.Plain) (hw : w.Plain) :
    toStableJsonValue v = toStableJsonValue w ↔ SameUpToKeyOrder (ordinary v) (ordinary w) := by
  constructor
  · intro h
    have hright := (same_toStableJsonValue hw).symm
    rw [← h] at hright
    exact (same_toStableJsonValue hv).trans hright
  · intro h
    rw [← toStableJsonValue_ordinary hv, toStableJsonValue_congr h (plain_ordinary hv), toStableJsonValue_ordinary hw]

omit [H.Lawful] in
theorem plain_toStableJsonValue {v : JsonValue} (h : v.Plain) : (toStableJsonValue v).Plain :=
  (same_toStableJsonValue h).plain (plain_ordinary h)

omit H [H.Lawful] in
theorem ordinary_ordinary {v : JsonValue} (h : v.Plain) : ordinary (ordinary v) = ordinary v := by
  induction h with
  | null => rfl
  | bool b => rfl
  | number hn => rfl
  | string s => rfl
  | array plain ih =>
    rw [ordinary, ordinaryItems_eq, ordinary, ordinaryItems_eq, List.map_map]
    exact congrArg JsonValue.array (List.map_congr_left ih)
  | @object ms keys plain ih =>
    rw [ordinary, ordinaryMembers_eq, ordinary, ordinaryMembers_eq, filter_keys_map, List.filter_filter, List.map_map]
    refine congrArg JsonValue.object ?_
    simp only [Bool.and_self]
    exact List.map_congr_left fun m hm => Prod.ext rfl (ih m (List.mem_of_mem_filter hm))

/-- making two values stable first changes nothing -/
theorem same_ordinary_toStable_iff {v w : JsonValue} (hv : v.Plain) (hw : w.Plain) :
    SameUpToKeyOrder (ordinary (toStableJsonValue v)) (ordinary (toStableJsonValue w)) ↔
      SameUpToKeyOrder (ordinary v) (ordinary w) := by
  have honce : ∀ {u : JsonValue}, u.Plain → SameUpToKeyOrder (ordinary u) (ordinary (toStableJsonValue u)) := by
    intro u hu
    have hstable := toStableJsonValue_congr (same_toStableJsonValue hu) (plain_ordinary hu)
    have hsame := (toStableJsonValue_eq_iff (plain_ordinary hu) (plain_toStableJsonValue hu)).1 hstable
    rwa [ordinary_ordinary hu] at hsame
  constructor
  · exact fun h => ((honce hv).trans h).trans (honce hw).symm
  · exact fun h => ((honce hv).symm.trans h).trans (honce hw)

end Stable

/-! ## The evidence -/

section Evidence

variable [H : Host] [DateText]

/-- equal as values, or as texts where neither is a decimal -/
def SameDecimal (s t : String) : Prop :=
  match Host.valueOf s, Host.valueOf t with
  | some x, some y => x = y
  | none, none => s = t
  | _, _ => False

omit H in
/-- the same millisecond, or the same text where neither is a time -/
def SameInstant (a b : ExpiryInput) : Prop :=
  match a.time, b.time with
  | some t, some u => t.ms = u.ms
  | none, none => a.raw = b.raw
  | _, _ => False

/-- all fields but the cost snapshot agree -/
structure SameOrder (a b : LiveOrderProposalContract) : Prop where
  proposalId : a.proposalId = b.proposalId
  exchangeId : a.exchangeId = b.exchangeId
  market : a.market = b.market
  side : a.side = b.side
  orderType : a.orderType = b.orderType
  requestedPrice : SameDecimal a.requestedPrice b.requestedPrice
  requestedVolume : SameDecimal a.requestedVolume b.requestedVolume
  expectedNotionalKrw : SameDecimal a.expectedNotionalKrw b.expectedNotionalKrw
  configuredMaxOrderKrw : SameDecimal a.budget.configuredMaxOrderKrw b.budget.configuredMaxOrderKrw
  dailyApprovedNotionalLimitKrw :
    SameDecimal a.budget.dailyApprovedNotionalLimitKrw b.budget.dailyApprovedNotionalLimitKrw
  dailyApprovedNotionalUsedKrw :
    SameDecimal a.budget.dailyApprovedNotionalUsedKrw b.budget.dailyApprovedNotionalUsedKrw
  decisionLedgerId : a.decisionLedgerId = b.decisionLedgerId
  riskDecisionId : a.riskDecisionId = b.riskDecisionId
  idempotencyKey : a.idempotencyKey = b.idempotencyKey
  expiresAt : SameInstant a.expiresAt b.expiresAt

omit [DateText] in
theorem SameDecimal.of_value {s t : String} {x : ℚ} (hs : Host.valueOf s = some x) (ht : Host.valueOf t = some x) :
    SameDecimal s t := by
  simp only [SameDecimal, hs, ht]

omit [DateText] in
theorem SameDecimal.refl (s : String) : SameDecimal s s := by
  unfold SameDecimal
  cases Host.valueOf s <;> rfl

omit H in
theorem SameInstant.of_time {a b : ExpiryInput} {t : TimeValue} (ha : a.time = some t) (hb : b.time = some t) :
    SameInstant a b := by
  simp only [SameInstant, ha, hb]

omit [DateText] in
theorem normalize_eq_iff [H.Prints] {s t : String} :
    normalizeFinancialDecimalString s = normalizeFinancialDecimalString t ↔ SameDecimal s t := by
  have hsome : ∀ {u : String} {x : ℚ}, Host.valueOf u = some x → normalizeFinancialDecimalString u = Host.toFixed x :=
    by
    intro u x hu
    rw [normalizeFinancialDecimalString, parseFinancialDecimal_eq_ok.2 hu]
  have hnone : ∀ {u : String}, Host.valueOf u = none → normalizeFinancialDecimalString u = u := by
    intro u hu
    unfold normalizeFinancialDecimalString
    split
    · rename_i q hq
      rw [parseFinancialDecimal_eq_ok, hu] at hq
      cases hq
    · rfl
  have hmixed : ∀ {u v : String} {x : ℚ}, Host.valueOf u = some x → Host.valueOf v = none → Host.toFixed x ≠ v := by
    rintro u v x hu hv rfl
    rw [Host.Prints.read_toFixed hu] at hv
    cases hv
  unfold SameDecimal
  cases hs : Host.valueOf s with
  | none =>
    rw [hnone hs]
    cases ht : Host.valueOf t with
    | none => rw [hnone ht]
    | some y =>
      rw [hsome ht]
      exact iff_of_false (fun h => hmixed ht hs h.symm) id
  | some x =>
    rw [hsome hs]
    cases ht : Host.valueOf t with
    | none =>
      rw [hnone ht]
      exact iff_of_false (hmixed hs ht) id
    | some y =>
      rw [hsome ht]
      exact ⟨fun h => Host.toFixed_inj hs ht h, fun h => congrArg Host.toFixed h⟩

omit H in
theorem toTimestampString_eq_iff {a b : ExpiryInput} :
    toTimestampString a = toTimestampString b ↔ SameInstant a b := by
  have hmixed : ∀ {t : TimeValue} {e : ExpiryInput}, e.time = none → toISOString t.ms ≠ e.raw := by
    intro t e he h
    cases e with
    | date time =>
      obtain ⟨s, hs⟩ := toISOString_zulu t.ms
      have hlast := congrArg (fun s : String => s.toList.getLast?) (hs.symm.trans h)
      simp [ExpiryInput.raw] at hlast
    | text s =>
      have hread := DateText.parse_toISOString t
      rw [h] at hread
      exact absurd (hread.symm.trans he) (by simp)
  unfold toTimestampString SameInstant
  cases ha : a.time with
  | none =>
    cases hb : b.time with
    | none => rfl
    | some u => exact iff_of_false (fun h => hmixed ha h.symm) id
  | some t =>
    cases hb : b.time with
    | none => exact iff_of_false (hmixed hb) id
    | some u => exact ⟨fun h => toISOString_injective h, fun h => congrArg toISOString h⟩

omit H [DateText] in
theorem evidence_keys (evidence : LiveOrderProposalFingerprintEvidence) :
    (evidence.members.map Prod.fst).Nodup := by
  simp [LiveOrderProposalFingerprintEvidence.members]

omit H [DateText] in
theorem plain_evidence {evidence : LiveOrderProposalFingerprintEvidence} (h : evidence.cost_snapshot.Plain) :
    (JsonValue.object evidence.members).Plain := by
  refine .object (evidence_keys evidence) fun m hm => ?_
  simp only [LiveOrderProposalFingerprintEvidence.members, List.mem_cons, List.not_mem_nil, or_false] at hm
  rcases hm with rfl | rfl | rfl | rfl | rfl | rfl | rfl | rfl | rfl | rfl | rfl | rfl | rfl | rfl | rfl | rfl <;>
    first | exact .string _ | exact h

omit H [DateText] in
theorem ordinary_evidence (evidence : LiveOrderProposalFingerprintEvidence) :
    ordinary (.object evidence.members) =
      .object { evidence with cost_snapshot := ordinary evidence.cost_snapshot }.members := by
  simp [ordinary, ordinaryMembers, LiveOrderProposalFingerprintEvidence.members, protoKey]

omit H [DateText] in
/-- two records of evidence that are the same up to the order of members agree field by field -/
theorem evidence_inv {e f : LiveOrderProposalFingerprintEvidence}
    (h : SameUpToKeyOrder (.object e.members) (.object f.members)) :
    { e with cost_snapshot := f.cost_snapshot } = f ∧ SameUpToKeyOrder e.cost_snapshot f.cost_snapshot := by
  obtain ⟨ns, hns, hmembers⟩ := h.object_inv
  cases hns
  have hfield : ∀ (i : ℕ) {key v w}, e.members[i]? = some (key, v) → f.members[i]? = some (key, w) →
      SameUpToKeyOrder v w := by
    intro i key v w hv hw
    obtain ⟨v', hv', hsame⟩ := hmembers key v (List.mem_of_getElem? hv)
    cases eq_of_key (evidence_keys f) hv' (List.mem_of_getElem? hw) rfl
    exact hsame
  have htext : ∀ (i : ℕ) {key s t}, e.members[i]? = some (key, .string s) → f.members[i]? = some (key, .string t) →
      s = t := by
    intro i key s t hs ht
    cases (hfield i hs ht).string_inv
    rfl
  refine ⟨?_, hfield 15 rfl rfl⟩
  cases e
  cases f
  simp only [LiveOrderProposalFingerprintEvidence.mk.injEq, and_true]
  exact ⟨htext 0 rfl rfl, htext 1 rfl rfl, htext 2 rfl rfl, htext 3 rfl rfl, htext 4 rfl rfl, htext 5 rfl rfl,
    htext 6 rfl rfl, htext 7 rfl rfl, htext 8 rfl rfl, htext 9 rfl rfl, htext 10 rfl rfl, htext 11 rfl rfl,
    htext 12 rfl rfl, htext 13 rfl rfl, htext 14 rfl rfl⟩

variable [H.Lawful] [H.Prints]

/-- what the fingerprint text tells apart -/
theorem fingerprintText_eq_iff (a b : LiveOrderProposalContract) :
    fingerprintText a = fingerprintText b ↔ SameOrder a b ∧
      SameUpToKeyOrder (ordinary (.object a.costSnapshot.members)) (ordinary (.object b.costSnapshot.members)) := by
  have hplain : ∀ p : LiveOrderProposalContract,
      (JsonValue.object (createLiveOrderProposalFingerprintEvidence p).members).Plain :=
    fun p => plain_evidence (plain_toStableJsonValue p.costSnapshot.plain)
  constructor
  · intro h
    have hstable := stringify_injective (plain_toStableJsonValue (hplain a)) (plain_toStableJsonValue (hplain b)) h
    have hsame := (toStableJsonValue_eq_iff (hplain a) (hplain b)).1 hstable
    rw [ordinary_evidence, ordinary_evidence] at hsame
    obtain ⟨hfields, hcost⟩ := evidence_inv hsame
    simp only [createLiveOrderProposalFingerprintEvidence, LiveOrderProposalFingerprintEvidence.mk.injEq] at hfields
    obtain ⟨hid, hexchange, hmarket, hside, htype, hprice, hvolume, hnotional, hmax, hlimit, hused, hledger, hrisk,
      hkey,
      hexpires, -⟩ := hfields
    exact ⟨⟨hid, hexchange, hmarket, hside, htype, normalize_eq_iff.1 hprice, normalize_eq_iff.1 hvolume,
      normalize_eq_iff.1 hnotional, normalize_eq_iff.1 hmax, normalize_eq_iff.1 hlimit, normalize_eq_iff.1 hused,
        hledger,
      hrisk, hkey, toTimestampString_eq_iff.1 hexpires⟩,
      (same_ordinary_toStable_iff a.costSnapshot.plain b.costSnapshot.plain).1 hcost⟩
  · rintro ⟨horder, hcost⟩
    have hstable := (toStableJsonValue_eq_iff a.costSnapshot.plain b.costSnapshot.plain).2 hcost
    have hevidence : createLiveOrderProposalFingerprintEvidence a = createLiveOrderProposalFingerprintEvidence b := by
      simp only [createLiveOrderProposalFingerprintEvidence, LiveOrderProposalFingerprintEvidence.mk.injEq]
      exact ⟨horder.proposalId, horder.exchangeId, horder.market, horder.side, horder.orderType,
        normalize_eq_iff.2 horder.requestedPrice, normalize_eq_iff.2 horder.requestedVolume,
        normalize_eq_iff.2 horder.expectedNotionalKrw, normalize_eq_iff.2 horder.configuredMaxOrderKrw,
        normalize_eq_iff.2 horder.dailyApprovedNotionalLimitKrw, normalize_eq_iff.2 horder.dailyApprovedNotionalUsedKrw,
        horder.decisionLedgerId, horder.riskDecisionId, horder.idempotencyKey,
          toTimestampString_eq_iff.2 horder.expiresAt,
        hstable⟩
    rw [fingerprintText, hevidence, fingerprintText]

/-- the cost snapshots agree up to the order of members -/
def SameCost (a b : LiveOrderProposalContract) : Prop :=
  SameUpToKeyOrder (.object a.costSnapshot.members) (.object b.costSnapshot.members)

/-- the cost snapshots differ, and only in members named `__proto__` -/
def DifferInPrototypeOnly (a b : LiveOrderProposalContract) : Prop :=
  ¬ SameCost a b ∧
    SameUpToKeyOrder (ordinary (.object a.costSnapshot.members)) (ordinary (.object b.costSnapshot.members))

/-- **Fingerprints and proposals.** Two proposals have one fingerprint text exactly when their fields agree as values
and their cost snapshots agree up to the order of members, unless they differ in members named `__proto__` only. -/
theorem fingerprint_exact_iff (a b : LiveOrderProposalContract) :
    (fingerprintText a = fingerprintText b ↔ SameOrder a b ∧ SameCost a b) ↔
      ¬ (SameOrder a b ∧ DifferInPrototypeOnly a b) := by
  have hlost : SameCost a b → SameUpToKeyOrder (ordinary (.object a.costSnapshot.members))
      (ordinary (.object b.costSnapshot.members)) := fun h =>
    (toStableJsonValue_eq_iff a.costSnapshot.plain b.costSnapshot.plain).1
      (toStableJsonValue_congr h a.costSnapshot.plain)
  rw [fingerprintText_eq_iff]
  constructor
  · rintro h ⟨horder, hcost, hordinary⟩
    exact hcost (h.1 ⟨horder, hordinary⟩).2
  · intro h
    constructor
    · rintro ⟨horder, hordinary⟩
      refine ⟨horder, ?_⟩
      by_contra hcost
      exact h ⟨horder, hcost, hordinary⟩
    · exact fun hsame => ⟨hsame.1, hlost hsame.2⟩

end Evidence

/-! ## Two proposals -/

instance decimalHost_lawful : Host.Lawful decimalHost where
  trans := inferInstanceAs (Std.TransCmp (compare : String → String → Ordering))
  eq := inferInstanceAs (Std.LawfulEqCmp (compare : String → String → Ordering))
  toFixed_inj := fun hs ht h => @Host.toFixed_inj decimalHost _ _ _ _ _ hs ht h

def pricedProposal (requestedPrice : String) (expiresAt : ExpiryInput) (costSnapshot : PlainRecord) :
    LiveOrderProposalContract where
  proposalId := "proposal-001"
  exchangeId := "upbit_krw_spot"
  market := "KRW-BTC"
  side := "BUY"
  orderType := "LIMIT"
  requestedPrice := requestedPrice
  requestedVolume := "0.1"
  expectedNotionalKrw := "10000"
  idempotencyKey := "key-001"
  decisionLedgerId := "ledger-001"
  riskDecisionId := "risk-001"
  costSnapshot := costSnapshot
  budget := ⟨"10000", "30000", "0"⟩
  expiresAt := expiresAt

/-- the members of a record of texts -/
def textMembers (members : List (String × String)) : List (String × JsonValue) := members.map (Prod.map id .string)

theorem plain_textMembers {members : List (String × String)} (h : (members.map Prod.fst).Nodup) :
    (JsonValue.object (textMembers members)).Plain := by
  refine .object ?_ (List.forall_mem_map.2 fun m _ => .string m.2)
  rw [textMembers, List.map_map]
  exact h

def costs (members : List (String × String)) (h : (members.map Prod.fst).Nodup) : PlainRecord :=
  ⟨textMembers members, plain_textMembers h⟩

/-- a price and an expiry in two spellings, costs in two orders -/
theorem respelled_proposal_fingerprint :
    @fingerprintText decimalHost isoDates (pricedProposal "100000.0" (.text "2026-06-10T00:05:00.000Z")
        (costs [("b", "2"), ("a", "1")] (by decide))) =
      @fingerprintText decimalHost isoDates (pricedProposal "100000" (.date (readISOString "2026-06-10T00:05:00.000Z"))
        (costs [("a", "1"), ("b", "2")] (by decide))) := by
  have hcost : SameCost (pricedProposal "100000.0" (.text "2026-06-10T00:05:00.000Z")
      (costs [("b", "2"), ("a", "1")] (by decide))) (pricedProposal "100000"
      (.date (readISOString "2026-06-10T00:05:00.000Z")) (costs [("a", "1"), ("b", "2")] (by decide))) :=
    .reorder (.swap _ _ _)
  have horder : @SameOrder decimalHost isoDates (pricedProposal "100000.0" (.text "2026-06-10T00:05:00.000Z")
      (costs [("b", "2"), ("a", "1")] (by decide))) (pricedProposal "100000"
      (.date (readISOString "2026-06-10T00:05:00.000Z")) (costs [("a", "1"), ("b", "2")] (by decide))) := by
    have hsame : ∀ s, @SameDecimal decimalHost s s := @SameDecimal.refl decimalHost
    refine @SameOrder.mk decimalHost isoDates _ _ rfl rfl rfl rfl rfl ?_ (hsame _) (hsame _) (hsame _) (hsame _)
      (hsame _) rfl rfl rfl ?_
    · exact @SameDecimal.of_value decimalHost _ _ 100000 (by decide +kernel) (by decide +kernel)
    · exact SameInstant.of_time (t := ⟨1781049900000, by decide, by decide⟩) (by decide +kernel) (by decide +kernel)
  exact ((@fingerprint_exact_iff decimalHost isoDates _ _ _ _).2 fun h => h.2.1 hcost).2 ⟨horder, hcost⟩

/-- **A member that is lost.** Costs that `JSON.parse` read with a member `__proto__` have the fingerprint of the costs
without it. -/
theorem prototype_member_unnoticed :
    ¬ (@fingerprintText decimalHost isoDates (pricedProposal "100000" (.text "2026-06-10T00:05:00.000Z")
          (costs [("fee_bps", "5")] (by decide))) =
        @fingerprintText decimalHost isoDates (pricedProposal "100000" (.text "2026-06-10T00:05:00.000Z")
          (costs [("fee_bps", "5"), ("__proto__", "EXEMPT")] (by decide))) ↔
      @SameOrder decimalHost isoDates (pricedProposal "100000" (.text "2026-06-10T00:05:00.000Z")
          (costs [("fee_bps", "5")] (by decide))) (pricedProposal "100000" (.text "2026-06-10T00:05:00.000Z")
          (costs [("fee_bps", "5"), ("__proto__", "EXEMPT")] (by decide))) ∧
        SameCost (pricedProposal "100000" (.text "2026-06-10T00:05:00.000Z") (costs [("fee_bps", "5")] (by decide)))
          (pricedProposal "100000" (.text "2026-06-10T00:05:00.000Z")
            (costs [("fee_bps", "5"), ("__proto__", "EXEMPT")] (by decide)))) := by
  intro h
  have hstable : ∀ p : PlainRecord, @toStableJsonValue decimalHost (.object p.members) =
      @toStableJsonValue decimalHost (.object (costs [("fee_bps", "5")] (by decide)).members) →
      @fingerprintText decimalHost isoDates (pricedProposal "100000" (.text "2026-06-10T00:05:00.000Z")
          (costs [("fee_bps", "5")] (by decide))) =
        @fingerprintText decimalHost isoDates (pricedProposal "100000" (.text "2026-06-10T00:05:00.000Z") p) := by
    intro p hp
    simp only [fingerprintText, createLiveOrderProposalFingerprintEvidence, pricedProposal, hp]
  obtain ⟨-, hcost⟩ := h.1 (hstable _ rfl)
  obtain ⟨ns, hns, hmembers⟩ := hcost.symm.object_inv
  cases hns
  obtain ⟨v, hv, -⟩ := hmembers "__proto__" (.string "EXEMPT") (by simp [pricedProposal, costs, textMembers])
  simp [pricedProposal, costs, textMembers] at hv

end SeeMirai.Approval
