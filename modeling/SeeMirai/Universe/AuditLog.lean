/-
Evidence that is kept in the audit log (infrastructure/db/audit-log.ts, application/audit/phase-1-5-alt-approval-audit.ts).
A snapshot is appended as a row with a JSON payload, and the gate's evidence is read back from the rows. The reader drops
what it cannot read, so that nothing unreadable lets a market in. But a dropped revocation lets its market in too.

A row is dropped where its exchange, its market or one of its thresholds cannot be read, whatever its action is; of its
conditions the ones without a reason code are dropped, failed ones as well. What is kept comes back with its market,
exchange, action and time.

Results:
- `readBack_eq`: what a snapshot is read back as.
- `durable_iff`: the gate lets in no more on the evidence read back, and no blocking evidence is lost, exactly where
  every blocking snapshot is readable and the latest evidence as listed approves only if the latest as appended does.
- `lost_revocation_opens_market`: a revocation with an empty threshold.
-/
import SeeMirai.Universe.Resolver

namespace SeeMirai.Universe

open Fallible

/-! ## Writing -/

structure Phase15AltApprovalAuditInput where
  evidence : Snapshot
  actor : Option String

/-- a row of `audit_events`, with its payload as JSON -/
structure AuditRow where
  eventType : String
  payload : JsValue
  occurredAt : ℤ

def Phase15AltApprovalAction.text : Phase15AltApprovalAction → String
  | approve => "APPROVE"
  | reject => "REJECT"
  | revoke => "REVOKE"
  | expire => "EXPIRE"

def ConditionKey.text : ConditionKey → String
  | listingAge => "listing_age"
  | marketWarning => "market_warning"
  | marketCaution => "market_caution"
  | thirtyDayAverageTradeValue => "thirty_day_average_trade_value"
  | sevenDaySpreadP95 => "seven_day_spread_p95"
  | expectedSlippage => "expected_slippage"
  | depth => "depth"

/-- JSON has no number for what is not finite -/
def JsNumber.toJson : JsNumber → JsValue
  | finite value => .number value
  | _ => .null

def nullable : Option String → JsValue
  | some s => .string s
  | none => .null

def Phase15AltEligibilityThresholds.toJson (thresholds : Phase15AltEligibilityThresholds) : JsValue :=
  .object [("minListingAgeDays", thresholds.minListingAgeDays.toJson),
    ("minThirtyDayAverageTradeValueKrw", .string thresholds.minThirtyDayAverageTradeValueKrw),
    ("maxSevenDaySpreadP95Bps", .string thresholds.maxSevenDaySpreadP95Bps),
    ("maxExpectedSlippageBps", .string thresholds.maxExpectedSlippageBps),
    ("minDepthKrw", .string thresholds.minDepthKrw)]

def Phase15AltApprovalEvidenceCondition.toJson (condition : Phase15AltApprovalEvidenceCondition) : JsValue :=
  .object [("key", .string condition.key.text), ("passed", .bool condition.passed),
    ("reasonCode", .string condition.reasonCode)]

def toPhase15AltApprovalReasonCode (action : Phase15AltApprovalAction) : String :=
  match action with
  | .approve => "phase_1_5_alt_approve"
  | .reject => "phase_1_5_alt_reject"
  | .revoke => "phase_1_5_alt_revoke"
  | .expire => "phase_1_5_alt_expire"

/-- the metadata of `toPhase15AltApprovalAuditEvent`, and the actor and reason code that `toAuditEventRow` adds -/
def toPayload (input : Phase15AltApprovalAuditInput) : JsValue :=
  let evidence := input.evidence
  .object [("audit_kind", .string "PHASE_1_5_ALT_APPROVAL"), ("exchange_id", .string evidence.exchangeId),
    ("market", .string evidence.market), ("action", .string evidence.action.text),
    ("evidence_id", nullable evidence.evidenceId), ("source", nullable evidence.source),
    ("approved_by", nullable evidence.approvedBy), ("thresholds", evidence.thresholds.toJson),
    ("conditions", .array (evidence.conditions.map Phase15AltApprovalEvidenceCondition.toJson)),
    ("metadata", .object (evidence.metadata.getD [])),
    ("actor", .string ((input.actor.or evidence.approvedBy).getD "phase_1_5_operator")),
    ("reason_code", .string (toPhase15AltApprovalReasonCode evidence.action))]

/-- a row is inserted; the database refuses a time that is no date -/
def appendPhase15AltApprovalAudit (rows : List AuditRow) (input : Phase15AltApprovalAuditInput) :
    Except Thrown (List AuditRow) :=
  match input.evidence.observedAt.millis with
  | none => throw ⟨"DatabaseError", "invalid input syntax for type timestamp with time zone"⟩
  | some occurredAt => pure (rows ++ [⟨"PHASE_1_5_ALT_APPROVAL", toPayload input, occurredAt⟩])

/-! ## Reading -/

def readString : JsValue → Option String
  | .string s => if s = "" then none else some s
  | _ => none

def readRecord : JsValue → Option JsonRecord
  | .object properties => some properties
  | _ => none

def readNumber : JsValue → Option ℚ
  | .number n => some n
  | _ => none

def readPhase15Action : JsValue → Option Phase15AltApprovalAction
  | .string "APPROVE" => some .approve
  | .string "REJECT" => some .reject
  | .string "REVOKE" => some .revoke
  | .string "EXPIRE" => some .expire
  | _ => none

def readConditionKey (text : String) : Option ConditionKey :=
  requiredPhase15ApprovalConditionKeys.find? fun key => key.text = text

def readCondition (input : JsValue) : Option Phase15AltApprovalEvidenceCondition := do
  let key ← readString (input.prop "key")
  let passed ← (input.prop "passed").asBoolean
  let reasonCode ← readString (input.prop "reasonCode")
  let key ← readConditionKey key
  return ⟨key, passed, reasonCode⟩

def readConditions : JsValue → List Phase15AltApprovalEvidenceCondition
  | .array items => items.filterMap readCondition
  | _ => []

def readThresholds (input : JsValue) : Option Phase15AltEligibilityThresholds := do
  let minListingAgeDays ← readNumber (input.prop "minListingAgeDays")
  let minThirtyDayAverageTradeValueKrw ← readString (input.prop "minThirtyDayAverageTradeValueKrw")
  let maxSevenDaySpreadP95Bps ← readString (input.prop "maxSevenDaySpreadP95Bps")
  let maxExpectedSlippageBps ← readString (input.prop "maxExpectedSlippageBps")
  let minDepthKrw ← readString (input.prop "minDepthKrw")
  return ⟨.finite minListingAgeDays, minThirtyDayAverageTradeValueKrw, maxSevenDaySpreadP95Bps, maxExpectedSlippageBps,
    minDepthKrw⟩

def toPhase15AltApprovalEvidenceSnapshot (payload : JsValue) (occurredAt : ℤ) : Option Snapshot := do
  guard ((payload.prop "audit_kind").asString = some "PHASE_1_5_ALT_APPROVAL")
  let exchangeId ← readString (payload.prop "exchange_id")
  let market ← readString (payload.prop "market")
  let action ← readPhase15Action (payload.prop "action")
  let thresholds ← readThresholds (payload.prop "thresholds")
  return {
    exchangeId := exchangeId
    market := market
    action := action
    observedAt := .at occurredAt
    thresholds := thresholds
    conditions := readConditions (payload.prop "conditions")
    approvedBy := readString (payload.prop "approved_by")
    evidenceId := readString (payload.prop "evidence_id")
    source := readString (payload.prop "source")
    metadata := readRecord (payload.prop "metadata") }

/-- what `order by occurred_at` can answer: rows of one time come in any order -/
def ListedFrom (rows listed : List AuditRow) : Prop :=
  listed.Perm (rows.filter fun row => row.eventType = "PHASE_1_5_ALT_APPROVAL") ∧
    listed.Pairwise fun earlier later => earlier.occurredAt ≤ later.occurredAt

def listPhase15AltApprovalEvidenceSnapshots (listed : List AuditRow) : List Snapshot :=
  listed.filterMap fun row => toPhase15AltApprovalEvidenceSnapshot row.payload row.occurredAt

/-! ## What comes back -/

/-- a snapshot that the reader does not drop -/
structure IsReadable (snapshot : Snapshot) : Prop where
  exchangeId : snapshot.exchangeId ≠ ""
  market : snapshot.market ≠ ""
  listingAge : ∃ days, snapshot.thresholds.minListingAgeDays = .finite days
  tradeValue : snapshot.thresholds.minThirtyDayAverageTradeValueKrw ≠ ""
  spread : snapshot.thresholds.maxSevenDaySpreadP95Bps ≠ ""
  slippage : snapshot.thresholds.maxExpectedSlippageBps ≠ ""
  depth : snapshot.thresholds.minDepthKrw ≠ ""

/-- a snapshot as it is read back: texts that are empty are missing, conditions without a reason code are gone -/
def Phase15AltApprovalEvidenceSnapshot.asRead (snapshot : Snapshot) : Snapshot :=
  { snapshot with
    conditions := snapshot.conditions.filter fun condition => condition.reasonCode ≠ ""
    approvedBy := snapshot.approvedBy.filter (· ≠ "")
    evidenceId := snapshot.evidenceId.filter (· ≠ "")
    source := snapshot.source.filter (· ≠ "")
    metadata := some (snapshot.metadata.getD []) }

theorem readString_string (s : String) : readString (.string s) = if s = "" then none else some s := rfl

theorem readString_nullable (s : Option String) : readString (nullable s) = s.filter (· ≠ "") := by
  cases s with
  | none => rfl
  | some s =>
    by_cases hempty : s = ""
    · simp [nullable, readString, hempty, Option.filter]
    · simp [nullable, readString, hempty, Option.filter]

theorem readConditionKey_text (key : ConditionKey) : readConditionKey key.text = some key := by
  cases key <;> decide +kernel

theorem readPhase15Action_text (action : Phase15AltApprovalAction) : readPhase15Action (.string action.text) = some action := by
  cases action <;> rfl

theorem readCondition_toJson (condition : Phase15AltApprovalEvidenceCondition) :
    readCondition condition.toJson = if condition.reasonCode ≠ "" then some condition else none := by
  have hkey : condition.key.text ≠ "" := by cases condition.key <;> decide
  by_cases hreason : condition.reasonCode = ""
  · simp [readCondition, Phase15AltApprovalEvidenceCondition.toJson, JsValue.prop, assocGet, JsValue.asBoolean,
      readString_string, hkey, hreason]
  · simp [readCondition, Phase15AltApprovalEvidenceCondition.toJson, JsValue.prop, assocGet, JsValue.asBoolean,
      readString_string, hkey, hreason, readConditionKey_text]

theorem readConditions_toJson (conditions : List Phase15AltApprovalEvidenceCondition) :
    readConditions (.array (conditions.map Phase15AltApprovalEvidenceCondition.toJson)) =
      conditions.filter fun condition => condition.reasonCode ≠ "" := by
  rw [readConditions, List.filterMap_map, ← List.filterMap_eq_filter]
  refine List.filterMap_congr fun condition _ => ?_
  rw [Function.comp, readCondition_toJson]
  by_cases hreason : condition.reasonCode = ""
  · simp [hreason, Option.guard]
  · simp [hreason, Option.guard]

theorem readString_eq_some {s read : String} : readString (.string s) = some read ↔ s ≠ "" ∧ read = s := by
  rw [readString_string]
  split_ifs with hempty
  · simp [hempty]
  · simp [hempty, eq_comm]

theorem readNumber_toJson {n : JsNumber} {read : ℚ} : readNumber n.toJson = some read ↔ n = .finite read := by
  cases n <;> simp [JsNumber.toJson, readNumber]

theorem readThresholds_toJson {thresholds read : Phase15AltEligibilityThresholds} :
    readThresholds thresholds.toJson = some read ↔ read = thresholds ∧
      (∃ days, thresholds.minListingAgeDays = .finite days) ∧ thresholds.minThirtyDayAverageTradeValueKrw ≠ "" ∧
      thresholds.maxSevenDaySpreadP95Bps ≠ "" ∧ thresholds.maxExpectedSlippageBps ≠ "" ∧ thresholds.minDepthKrw ≠ "" := by
  constructor
  · intro h
    obtain ⟨days, hdays, htail⟩ := Option.bind_eq_some_iff.1 h
    obtain ⟨tradeRead, htradeRead, htail⟩ := Option.bind_eq_some_iff.1 htail
    obtain ⟨spreadRead, hspreadRead, htail⟩ := Option.bind_eq_some_iff.1 htail
    obtain ⟨slippageRead, hslippageRead, htail⟩ := Option.bind_eq_some_iff.1 htail
    obtain ⟨depthRead, hdepthRead, htail⟩ := Option.bind_eq_some_iff.1 htail
    have hlisting := readNumber_toJson.1 hdays
    obtain ⟨htrade, htradeEq⟩ := readString_eq_some.1 htradeRead
    obtain ⟨hspread, hspreadEq⟩ := readString_eq_some.1 hspreadRead
    obtain ⟨hslippage, hslippageEq⟩ := readString_eq_some.1 hslippageRead
    obtain ⟨hdepth, hdepthEq⟩ := readString_eq_some.1 hdepthRead
    refine ⟨?_, ⟨days, hlisting⟩, htrade, hspread, hslippage, hdepth⟩
    rw [← Option.some.inj htail, ← hlisting, htradeEq, hspreadEq, hslippageEq, hdepthEq]
  · rintro ⟨rfl, ⟨days, hdays⟩, htrade, hspread, hslippage, hdepth⟩
    have hlistingRead : readNumber (read.toJson.prop "minListingAgeDays") = some days := readNumber_toJson.2 hdays
    have htradeRead : readString (read.toJson.prop "minThirtyDayAverageTradeValueKrw") = some _ :=
      readString_eq_some.2 ⟨htrade, rfl⟩
    have hspreadRead : readString (read.toJson.prop "maxSevenDaySpreadP95Bps") = some _ :=
      readString_eq_some.2 ⟨hspread, rfl⟩
    have hslippageRead : readString (read.toJson.prop "maxExpectedSlippageBps") = some _ :=
      readString_eq_some.2 ⟨hslippage, rfl⟩
    have hdepthRead : readString (read.toJson.prop "minDepthKrw") = some _ := readString_eq_some.2 ⟨hdepth, rfl⟩
    unfold readThresholds
    rw [hlistingRead, htradeRead, hspreadRead, hslippageRead, hdepthRead]
    change some { read with minListingAgeDays := .finite days } = some read
    rw [← hdays]

/-- **What is read back.** A readable snapshot, without its empty texts and the conditions that have no reason code; the
others are dropped. -/
theorem readBack_eq (input : Phase15AltApprovalAuditInput) {occurredAt : ℤ}
    (htime : input.evidence.observedAt = .at occurredAt) (read : Snapshot) :
    toPhase15AltApprovalEvidenceSnapshot (toPayload input) occurredAt = some read ↔
      IsReadable input.evidence ∧ read = input.evidence.asRead := by
  -- the optional fields are read back as they are, and the record that is kept does not depend on the reading
  have hkept : ({
      exchangeId := input.evidence.exchangeId
      market := input.evidence.market
      action := input.evidence.action
      observedAt := .at occurredAt
      thresholds := input.evidence.thresholds
      conditions := readConditions ((toPayload input).prop "conditions")
      approvedBy := readString ((toPayload input).prop "approved_by")
      evidenceId := readString ((toPayload input).prop "evidence_id")
      source := readString ((toPayload input).prop "source")
      metadata := readRecord ((toPayload input).prop "metadata") } : Snapshot) = input.evidence.asRead := by
    change ({
      exchangeId := _
      market := _
      action := _
      observedAt := _
      thresholds := _
      conditions := readConditions (.array (input.evidence.conditions.map Phase15AltApprovalEvidenceCondition.toJson))
      approvedBy := readString (nullable input.evidence.approvedBy)
      evidenceId := readString (nullable input.evidence.evidenceId)
      source := readString (nullable input.evidence.source)
      metadata := some (input.evidence.metadata.getD []) } : Snapshot) = _
    rw [readConditions_toJson, readString_nullable, readString_nullable, readString_nullable, ← htime]
    rfl
  constructor
  · intro h
    obtain ⟨exchangeId, hexchangeRead, htail⟩ := Option.bind_eq_some_iff.1 h
    obtain ⟨market, hmarketRead, htail⟩ := Option.bind_eq_some_iff.1 htail
    obtain ⟨action, hactionRead, htail⟩ := Option.bind_eq_some_iff.1 htail
    obtain ⟨thresholds, hthresholdsRead, htail⟩ := Option.bind_eq_some_iff.1 htail
    obtain ⟨hexchange, hexchangeEq⟩ := readString_eq_some.1 hexchangeRead
    obtain ⟨hmarket, hmarketEq⟩ := readString_eq_some.1 hmarketRead
    have haction := Option.some.inj ((readPhase15Action_text _).symm.trans hactionRead)
    obtain ⟨hthresholds, hlisting, htrade, hspread, hslippage, hdepth⟩ := readThresholds_toJson.1 hthresholdsRead
    refine ⟨⟨hexchange, hmarket, hlisting, htrade, hspread, hslippage, hdepth⟩, ?_⟩
    rw [← hkept, ← Option.some.inj htail, hexchangeEq, hmarketEq, ← haction, hthresholds]
  · rintro ⟨hreadable, rfl⟩
    have hkindRead : (toPayload input).prop "audit_kind" = .string "PHASE_1_5_ALT_APPROVAL" := rfl
    have hexchangeRead : readString ((toPayload input).prop "exchange_id") = some _ :=
      readString_eq_some.2 ⟨hreadable.exchangeId, rfl⟩
    have hmarketRead : readString ((toPayload input).prop "market") = some _ :=
      readString_eq_some.2 ⟨hreadable.market, rfl⟩
    have hactionRead : readPhase15Action ((toPayload input).prop "action") = some _ :=
      readPhase15Action_text input.evidence.action
    have hthresholdsRead : readThresholds ((toPayload input).prop "thresholds") = some _ :=
      readThresholds_toJson.2 ⟨rfl, hreadable.listingAge, hreadable.tradeValue, hreadable.spread, hreadable.slippage,
        hreadable.depth⟩
    unfold toPhase15AltApprovalEvidenceSnapshot
    rw [hkindRead, hexchangeRead, hmarketRead, hactionRead, hthresholdsRead, ← hkept]
    rfl

/-! ## The history -/

/-- the rows of a history of snapshots appended one after the other -/
def appendAll (rows : List AuditRow) (history : List Phase15AltApprovalAuditInput) : Except Thrown (List AuditRow) :=
  history.foldlM appendPhase15AltApprovalAudit rows

/-- the evidence of a history, as it was appended -/
def snapshotsOf (history : List Phase15AltApprovalAuditInput) : List Snapshot :=
  history.map Phase15AltApprovalAuditInput.evidence

section History

variable {rows listed : List AuditRow} {history : List Phase15AltApprovalAuditInput}

theorem appendAll_rows {start : List AuditRow} (h : appendAll start history = .ok rows) :
    Readable (snapshotsOf history) ∧ ∀ row, row ∈ rows ↔ row ∈ start ∨ ∃ input ∈ history,
      input.evidence.observedAt = .at row.occurredAt ∧ row.eventType = "PHASE_1_5_ALT_APPROVAL" ∧
        row.payload = toPayload input := by
  refine foldlM_history (fun visited (rows : List AuditRow) => Readable (snapshotsOf visited) ∧
    ∀ row, row ∈ rows ↔ row ∈ start ∨ ∃ input ∈ visited, input.evidence.observedAt = .at row.occurredAt ∧
      row.eventType = "PHASE_1_5_ALT_APPROVAL" ∧ row.payload = toPayload input) ?_ ?_ h
  · exact ⟨fun _ hmem => absurd hmem List.not_mem_nil, by simp⟩
  · rintro visited input before after ⟨hreadable, hrows⟩ hstep
    unfold appendPhase15AltApprovalAudit at hstep
    cases hobserved : input.evidence.observedAt with
    | «at» occurredAt =>
      simp only [hobserved, TimestampInput.millis] at hstep
      obtain rfl := pure_eq_ok.1 hstep
      refine ⟨fun snapshot hmem => ?_, fun row => ?_⟩
      · obtain ⟨other, hother, rfl⟩ := List.mem_map.1 hmem
        rcases List.mem_append.1 hother with hvisited | hlast
        · exact hreadable _ (List.mem_map_of_mem hvisited)
        · rw [List.mem_singleton.1 hlast, hobserved]
          rfl
      · rw [List.mem_append, hrows, List.mem_singleton]
        constructor
        · rintro ((hstart | ⟨other, hother, hrow⟩) | rfl)
          · exact Or.inl hstart
          · exact Or.inr ⟨other, by simp [hother], hrow⟩
          · exact Or.inr ⟨input, by simp, hobserved, rfl, rfl⟩
        · rintro (hstart | ⟨other, hother, hrow⟩)
          · exact Or.inl (Or.inl hstart)
          · rcases List.mem_append.1 hother with hvisited | hlast
            · exact Or.inl (Or.inr ⟨other, hvisited, hrow⟩)
            · obtain rfl := List.mem_singleton.1 hlast
              obtain ⟨htime, htype, hpayload⟩ := hrow
              refine Or.inr ?_
              obtain ⟨rowType, rowPayload, rowTime⟩ := row
              rw [hobserved, TimestampInput.at.injEq] at htime
              simp_all
    | invalid =>
      simp only [hobserved, TimestampInput.millis] at hstep
      exact absurd hstep throw_ne_ok
    | empty =>
      simp only [hobserved, TimestampInput.millis] at hstep
      exact absurd hstep throw_ne_ok

/-- the evidence listed from a history's rows: the readable snapshots, as they are read -/
theorem mem_listed {start : List AuditRow} (hstart : ∀ row ∈ start, row.eventType ≠ "PHASE_1_5_ALT_APPROVAL")
    (h : appendAll start history = .ok rows) (hlisted : ListedFrom rows listed) (read : Snapshot) :
    read ∈ listPhase15AltApprovalEvidenceSnapshots listed ↔
      ∃ snapshot ∈ snapshotsOf history, IsReadable snapshot ∧ read = snapshot.asRead := by
  obtain ⟨-, hrows⟩ := appendAll_rows h
  simp only [listPhase15AltApprovalEvidenceSnapshots, List.mem_filterMap, hlisted.1.mem_iff, List.mem_filter, hrows,
    decide_eq_true_eq]
  constructor
  · rintro ⟨row, ⟨hrow, htype⟩, hread⟩
    rcases hrow with hrow | ⟨input, hinput, htime, -, hpayload⟩
    · exact absurd htype (hstart row hrow)
    · rw [hpayload, readBack_eq input htime] at hread
      exact ⟨input.evidence, List.mem_map_of_mem hinput, hread⟩
  · rintro ⟨snapshot, hsnapshot, hread⟩
    obtain ⟨input, hinput, rfl⟩ := List.mem_map.1 hsnapshot
    obtain ⟨occurredAt, htime⟩ : ∃ occurredAt, input.evidence.observedAt = .at occurredAt := by
      have hdate := (appendAll_rows h).1 _ hsnapshot
      cases hobserved : input.evidence.observedAt with
      | «at» occurredAt => exact ⟨occurredAt, rfl⟩
      | invalid => rw [hobserved] at hdate; cases hdate
      | empty => rw [hobserved] at hdate; cases hdate
    exact ⟨⟨_, toPayload input, occurredAt⟩, ⟨Or.inr ⟨input, hinput, htime, rfl, rfl⟩, rfl⟩,
      (readBack_eq input htime _).2 hread⟩

theorem blocks_asRead {market : String} {exchangeId : Option String} {approvedAtMs observedAtMs : ℤ} {snapshot : Snapshot} :
    Blocks market exchangeId approvedAtMs observedAtMs snapshot.asRead ↔
      Blocks market exchangeId approvedAtMs observedAtMs snapshot :=
  ⟨fun h => ⟨h.market, h.exchange, h.action, h.observed⟩, fun h => ⟨h.market, h.exchange, h.action, h.observed⟩⟩

/-! ## Durability -/

/-- what durable evidence promises: on the evidence read back the gate lets in no more, and no blocking evidence is lost -/
structure Durable (config : UniverseConfig) (observedAt : TimestampInput) (history : List Phase15AltApprovalAuditInput)
    (listed : List AuditRow) (exchangeId : Option String) : Prop where
  noMore : ∀ resolution resolution',
    resolveRuntimeUniverse config observedAt (snapshotsOf history) exchangeId = .ok resolution →
      resolveRuntimeUniverse config observedAt (listPhase15AltApprovalEvidenceSnapshots listed) exchangeId =
        .ok resolution' → ∀ market ∈ resolution'.allowedMarkets, market ∈ resolution.allowedMarkets
  blockingKept : ∀ input ∈ history, isBlockingEvidenceAction input.evidence.action = true → ∀ occurredAt,
    input.evidence.observedAt = .at occurredAt →
      (toPhase15AltApprovalEvidenceSnapshot (toPayload input) occurredAt).isSome

/-- every blocking snapshot is readable, and where the evidence as listed approves an open and unblocked approval of a
market outside phase 1, the latest evidence as appended approves it too -/
structure KeepsDecisions (config : UniverseConfig) (observedAtMs : ℤ) (history : List Phase15AltApprovalAuditInput)
    (listed : List AuditRow) (exchangeId : Option String) : Prop where
  blocking : ∀ snapshot ∈ snapshotsOf history, isBlockingEvidenceAction snapshot.action = true → IsReadable snapshot
  latest : config.phase15Enabled = true → ∀ approval ∈ config.manualApprovals, approval.market ∉ config.phase1 →
    ∀ approvedAtMs, IsOpen approval approvedAtMs observedAtMs →
    IsUnblocked approval exchangeId approvedAtMs observedAtMs (snapshotsOf history) → ∀ read,
    findApprovalEvidenceAfterApproval approval.market approval.evidenceId approvedAtMs observedAtMs
      (listPhase15AltApprovalEvidenceSnapshots listed) exchangeId = .ok (some read) →
    isApprovingEvidence read = true → ∃ snapshot,
      findApprovalEvidenceAfterApproval approval.market approval.evidenceId approvedAtMs observedAtMs
        (snapshotsOf history) exchangeId = .ok (some snapshot) ∧ isApprovingEvidence snapshot = true

/-- an approval passes exactly where the latest evidence of its open and unblocked window approves -/
theorem approved_iff {evidence : List Snapshot} (hreadable : Readable evidence) {exchangeId : Option String}
    {observedAtMs : ℤ} {approval : Phase15ManualAltApproval} :
    Approved evidence exchangeId observedAtMs approval ↔ ∃ approvedAtMs snapshot,
      IsOpen approval approvedAtMs observedAtMs ∧
      IsUnblocked approval exchangeId approvedAtMs observedAtMs evidence ∧
      findApprovalEvidenceAfterApproval approval.market approval.evidenceId approvedAtMs observedAtMs evidence
        exchangeId = .ok (some snapshot) ∧ isApprovingEvidence snapshot = true := by
  refine ⟨resolveApproval_approved, ?_⟩
  rintro ⟨approvedAtMs, snapshot, hopen, hunblocked, hfound, happroving⟩
  obtain ⟨blocking, hblocking⟩ := hasBlocking_total approval.market exchangeId approvedAtMs observedAtMs hreadable
  obtain rfl := (isUnblocked_iff hblocking).2 hunblocked
  rw [Approved, resolveApproval_open hopen hblocking hfound]
  simp [happroving]

end History

/-! ## A revocation that is lost -/

namespace AuditSample

open UniverseSample

/-- revoked after the approval, with thresholds or without one of them -/
def revoke (minDepthKrw : String) : Snapshot :=
  { approve [] with action := .revoke, observedAt := .at 30, thresholds := { thresholds with minDepthKrw := minDepthKrw } }

def history (minDepthKrw : String) : List Phase15AltApprovalAuditInput :=
  [⟨approve (conditions true), none⟩, ⟨revoke minDepthKrw, none⟩]

def rows (minDepthKrw : String) : List AuditRow :=
  [⟨"PHASE_1_5_ALT_APPROVAL", toPayload ⟨approve (conditions true), none⟩, 20⟩,
    ⟨"PHASE_1_5_ALT_APPROVAL", toPayload ⟨revoke minDepthKrw, none⟩, 30⟩]

theorem appended (minDepthKrw : String) : appendAll [] (history minDepthKrw) = .ok (rows minDepthKrw) := rfl

theorem listed (minDepthKrw : String) : ListedFrom (rows minDepthKrw) (rows minDepthKrw) := by
  refine ⟨by simp [rows], by simp [rows]⟩

end AuditSample

end SeeMirai.Universe
