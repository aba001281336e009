/-
The keys of the decision ledger. A frame is stored under `UPBIT:<source run>:frame:<frame id>:strategy:<strategy id>`, and
a second frame with the same key is taken for a retry of the first: the insert does nothing and the caller gets the stored
row (infrastructure/db/decision-ledger/repository.ts). The source run is the caller's id, or, without one, a short hash of
the frame ids that were processed (application/paper-decision-runner/service.ts).

The ids are free texts and the hash has 32 bits, so two different flows can have one key. `Confused` says exactly when: the
runs have the same text, by their hash or because one names itself like the other's hash, a strategy is called
`no-strategy`, or an id carries the separator where the other has its own.

Results:
- `run_frameIds`: the hash of a completed run is the hash of the frames it processed.
- `key_eq_iff`: two flows have one key exactly where they are confused.
- `ledger_flows_separate_iff`: an append log keeps different flows apart exactly where none of them are confused.
- `colliding_runs_merge`: two runs of two frames each whose first frames are merged.
-/
import SeeMirai.Decision.LedgerRuns
import SeeMirai.Lib.TextKeys

namespace SeeMirai.Decision

open Fallible Grouping TextKeys Paper Execution

/-! ## The source run -/

/-- the UTF-16 code units of a text, as `charCodeAt` reads them -/
def codeUnits (text : String) : List ℕ :=
  text.toList.flatMap fun c =>
    if c.toNat < 0x10000 then [c.toNat]
    else [0xD800 + (c.toNat - 0x10000) / 0x400, 0xDC00 + (c.toNat - 0x10000) % 0x400]

def stableHash (input : String) : String := String.ofList (printedHash (codeUnits input))

/-- what is hashed: the distinct frame ids, joined -/
def frameIdSeed (frameIds : List String) : String :=
  if frameIds.length = 0 then "empty" else "|".intercalate frameIds

def resolveLedgerSourceRunId (sourceId : Option String) (trace : List TraceRecord) : String :=
  match sourceId.map trim with
  | some explicitSourceId => if 0 < explicitSourceId.length then explicitSourceId else generated
  | none => generated
where
  generated : String := "paper-runner:" ++ stableHash (frameIdSeed (firstSeen (trace.map (·.frameId))))

/-- what a run is the run of: the caller's trimmed id, or the frame ids in the order they were processed -/
inductive SourceRun where
  | explicit (sourceId : String)
  | replayed (frameIds : List String)
deriving DecidableEq

def sourceRun (sourceId : Option String) (frameIds : List String) : SourceRun :=
  match sourceId.map trim with
  | some explicitSourceId => if 0 < explicitSourceId.length then .explicit explicitSourceId else .replayed frameIds
  | none => .replayed frameIds

def SourceRun.text : SourceRun → String
  | .explicit sourceId => sourceId
  | .replayed frameIds => "paper-runner:" ++ stableHash (frameIdSeed (firstSeen frameIds))

/-! ## Flows -/

/-- what a ledger frame is the frame of -/
structure LedgerFlow where
  source : SourceRun
  frameId : String
  strategyId : Option String
deriving DecidableEq

def LedgerFlow.strategyText (flow : LedgerFlow) : String := flow.strategyId.getD "no-strategy"

def LedgerFlow.dedupeKey (flow : LedgerFlow) : String :=
  buildFrameDedupeKey ("UPBIT:" ++ flow.source.text) flow.frameId flow.strategyId

section Runs

variable [Host]

/-- a completed run with the id its caller gave, the clock and the digest -/
structure PaperRun where
  runner : PaperDecisionRunner
  broker : PaperBroker
  frames : List PaperDecisionInputFrame
  state : RunnerState
  completed : runner.run broker frames = .ok state
  sourceId : Option String
  decisionAt : MarketTimestamp
  sha256 : String → String

def PaperRun.ledgerOptions (run : PaperRun) : LedgerOptions where
  framesProcessed := run.frames.length
  sourceRunId := resolveLedgerSourceRunId run.sourceId run.state.trace
  exchange := "UPBIT"
  dedupeKeyPrefix := none
  decisionAt := run.decisionAt
  sha256 := run.sha256

def PaperRun.ledger (run : PaperRun) : List LedgerEntry :=
  buildDecisionLedgerFromRunnerResult run.ledgerOptions run.state.trace

def PaperRun.source (run : PaperRun) : SourceRun := sourceRun run.sourceId (run.frames.map (·.id))

/-- one append of a run: a frame of its ledger -/
structure LedgerAppend where
  run : PaperRun
  entry : LedgerEntry
  built : entry ∈ run.ledger

def LedgerAppend.flow (append : LedgerAppend) : LedgerFlow :=
  ⟨append.run.source, append.entry.frame.sourceFrameId, append.entry.frame.strategyId⟩

/-! ## The store -/

/-- the rows by their `dedupe_key`, each with the append that wrote it -/
abbrev LedgerTable := InsertionMap String LedgerAppend

structure AppendDecisionLedgerFrameResult where
  inserted : Bool
  record : LedgerAppend

/-- `ON CONFLICT (dedupe_key) DO NOTHING`, and the stored row where there is one -/
def appendFrameWithExecutor (table : LedgerTable) (append : LedgerAppend) :
    LedgerTable × AppendDecisionLedgerFrameResult :=
  match table.get append.entry.frame.dedupeKey with
  | none => (table.set append.entry.frame.dedupeKey append, ⟨true, append⟩)
  | some existing => (table, ⟨false, existing⟩)

/-- the table after a log of appends, of any runs and in any order -/
def appendAll (appends : List LedgerAppend) : LedgerTable :=
  appends.foldl (fun table append => (appendFrameWithExecutor table append).1) InsertionMap.empty

/-- a row is one of the appends, stored under its own key -/
theorem appendAll_get {appends : List LedgerAppend} {key : String} {row : LedgerAppend}
    (h : (appendAll appends).get key = some row) : row ∈ appends ∧ row.entry.frame.dedupeKey = key := by
  induction appends using List.reverseRecOn with
  | nil => simp [appendAll] at h
  | append_singleton appends append ih =>
    simp only [appendAll, List.foldl_append, List.foldl_cons, List.foldl_nil, appendFrameWithExecutor] at h
    split at h
    · rw [InsertionMap.get_set] at h
      split_ifs at h with hkey
      · obtain rfl := Option.some.inj h
        exact ⟨by simp, hkey⟩
      · obtain ⟨hmem, hrow⟩ := ih h
        exact ⟨by simp [hmem], hrow⟩
    · obtain ⟨hmem, hrow⟩ := ih h
      exact ⟨by simp [hmem], hrow⟩

/-! ## The frame ids of a run -/

/-- the later trace is the earlier one and records of one frame -/
def AddsOf (frameId : String) (before after : List TraceRecord) : Prop :=
  ∃ records, after = before ++ records ∧ ∀ record ∈ records, record.frameId = frameId

omit [Host] in
theorem AddsOf.refl (frameId : String) (trace : List TraceRecord) : AddsOf frameId trace trace := ⟨[], by simp, by simp⟩

omit [Host] in
theorem AddsOf.snoc {frameId : String} {before after : List TraceRecord} (h : AddsOf frameId before after)
    (record : TraceRecord) (hrecord : record.frameId = frameId) : AddsOf frameId before (after ++ [record]) := by
  obtain ⟨records, rfl, hrecords⟩ := h
  refine ⟨records ++ [record], by simp, fun other hother => ?_⟩
  rcases List.mem_append.1 hother with hother | hother
  · exact hrecords other hother
  · rw [List.mem_singleton.1 hother, hrecord]

omit [Host] in
theorem AddsOf.trans {frameId : String} {first second third : List TraceRecord} (h : AddsOf frameId first second)
    (h' : AddsOf frameId second third) : AddsOf frameId first third := by
  obtain ⟨records, rfl, hrecords⟩ := h
  obtain ⟨more, rfl, hmore⟩ := h'
  refine ⟨records ++ more, by simp, fun other hother => ?_⟩
  rcases List.mem_append.1 hother with hother | hother
  · exact hrecords other hother
  · exact hmore other hother

variable {runner : PaperDecisionRunner} {frame : PaperDecisionInputFrame} {state state' : RunnerState}

theorem evaluateOrderIntent_adds {intent : ExecutionIntent}
    (h : evaluateOrderIntent runner frame state intent = .ok state') : AddsOf frame.id state.trace state'.trace := by
  obtain ⟨costDecision, -, h⟩ := bind_eq_ok.1 h
  simp only at h
  have hcost := (AddsOf.refl frame.id state.trace).snoc
    (costRecord frame (createPaperDecisionExecutionIntent frame intent) costDecision) rfl
  split_ifs at h
  · obtain rfl := pure_eq_ok.1 h
    exact hcost
  · obtain ⟨result, -, h⟩ := bind_eq_ok.1 h
    have hrisk := hcost.snoc (riskRecord frame (createPaperDecisionExecutionIntent frame intent) result) rfl
    split_ifs at h
    · obtain rfl := pure_eq_ok.1 h
      exact hrisk
    · obtain ⟨⟨broker, outcome⟩, -, h⟩ := bind_eq_ok.1 h
      obtain rfl := pure_eq_ok.1 h
      cases outcome with
      | inl rejection => exact hrisk.snoc (engineRejectedRecord frame _ rejection) rfl
      | inr order =>
        simp only [recordExecutionResult, RunnerState.push, countPaperFill_trace]
        exact hrisk.snoc (executionRecord frame _ order) rfl

theorem evaluateStrategyFrame_adds {strategy : Strategy}
    (h : evaluateStrategyFrame runner frame state strategy = .ok state') : AddsOf frame.id state.trace state'.trace := by
  obtain ⟨decision, -, h⟩ := bind_eq_ok.1 h
  have hdecision := (AddsOf.refl frame.id state.trace).snoc (strategyDecisionRecord frame strategy.id decision)
    (by cases decision <;> rfl)
  cases decision with
  | hold reason =>
    obtain rfl := pure_eq_ok.1 h
    exact hdecision
  | block reasonCode reason =>
    obtain rfl := pure_eq_ok.1 h
    exact hdecision
  | orderIntent reason orderIntents metadata =>
    refine foldlM_keeps (fun after : RunnerState => AddsOf frame.id state.trace after.trace)
      (fun before intent after _ hstep hbefore => ?_) h ?_
    · exact hbefore.trans (evaluateOrderIntent_adds hstep)
    · exact hdecision.snoc _ rfl

/-- a frame adds its `FRAME_RECEIVED` record, and then records of its own id -/
theorem processFrame_adds (h : processFrame runner state frame = .ok state') :
    AddsOf frame.id (state.trace ++ [frameReceivedRecord frame]) state'.trace := by
  obtain ⟨received, hreceived, h⟩ := bind_eq_ok.1 h
  refine foldlM_keeps (fun after : RunnerState => AddsOf frame.id (state.trace ++ [frameReceivedRecord frame]) after.trace)
    (fun before strategy after _ hstep hbefore => ?_) h ?_
  · exact hbefore.trans (evaluateStrategyFrame_adds hstep)
  · have htrace : received.trace = state.trace ++ [frameReceivedRecord frame] := by
      cases hbook : frame.orderbook with
      | none =>
        rw [hbook] at hreceived
        obtain rfl := pure_eq_ok.1 hreceived
        rfl
      | some orderbook =>
        rw [hbook] at hreceived
        obtain ⟨_, -, rfl⟩ := map_eq_ok.1 hreceived
        rfl
    rw [htrace]
    exact AddsOf.refl _ _

/-- the frame ids of a run's trace are the ids of the frames it processed -/
theorem run_frameIds {broker : PaperBroker} {frames : List PaperDecisionInputFrame}
    (h : runner.run broker frames = .ok state) :
    firstSeen (state.trace.map (·.frameId)) = firstSeen (frames.map (·.id)) := by
  refine foldlM_history (fun visited (state : RunnerState) =>
    firstSeen (state.trace.map (·.frameId)) = firstSeen (visited.map (·.id))) rfl (fun visited frame c c' ih hstep => ?_) h
  obtain ⟨records, htrace, hrecords⟩ := processFrame_adds hstep
  have hknown : ∀ id ∈ records.map (·.frameId), id ∈ (c.trace ++ [frameReceivedRecord frame]).map (·.frameId) := by
    intro id hid
    obtain ⟨record, hrecord, rfl⟩ := List.mem_map.1 hid
    rw [hrecords record hrecord]
    simp [frameReceivedRecord, createTrace]
  have hsnoc : (c.trace ++ [frameReceivedRecord frame]).map (·.frameId) = c.trace.map (·.frameId) ++ [frame.id] := by
    simp [frameReceivedRecord, createTrace]
  rw [htrace, List.map_append, firstSeen_append_of_mem hknown, hsnoc, firstSeen_snoc, ih, List.map_append,
    List.map_singleton, firstSeen_snoc]

theorem sourceRunId_eq (run : PaperRun) :
    resolveLedgerSourceRunId run.sourceId run.state.trace = run.source.text := by
  have hgenerated : resolveLedgerSourceRunId.generated run.state.trace
      = (SourceRun.replayed (run.frames.map (·.id))).text := by
    rw [resolveLedgerSourceRunId.generated, run_frameIds run.completed, SourceRun.text]
  unfold resolveLedgerSourceRunId PaperRun.source sourceRun
  cases run.sourceId.map trim with
  | none => exact hgenerated
  | some explicitSourceId =>
    simp only
    split_ifs with hempty
    · rfl
    · exact hgenerated

/-- the key of an append is the key of its flow -/
theorem append_dedupeKey (append : LedgerAppend) : append.entry.frame.dedupeKey = append.flow.dedupeKey := by
  obtain ⟨group, -, hentry⟩ := List.mem_map.1 append.built
  have hkey : append.entry.frame.dedupeKey = buildFrameDedupeKey
      ("UPBIT:" ++ resolveLedgerSourceRunId append.run.sourceId append.run.state.trace)
      append.entry.frame.sourceFrameId append.entry.frame.strategyId := by
    rw [← hentry]
    rfl
  rw [hkey, sourceRunId_eq]
  rfl

end Runs

/-! ## When two flows have one key -/

/-- the number that a seed is hashed to, before it is wrapped -/
def seedValue (frameIds : List String) : ℤ := polynomial (codeUnits (frameIdSeed (firstSeen frameIds)))

/-- two source runs with one text -/
def SourceRun.SameText : SourceRun → SourceRun → Prop
  | .explicit sourceId, .explicit sourceId' => sourceId = sourceId'
  | .explicit sourceId, .replayed frameIds => sourceId = (SourceRun.replayed frameIds).text
  | .replayed frameIds, .explicit sourceId => sourceId = (SourceRun.replayed frameIds).text
  | .replayed frameIds, .replayed frameIds' =>
    seedValue frameIds ≡ seedValue frameIds' [ZMOD 2 ^ 32] ∨ seedValue frameIds ≡ -seedValue frameIds' [ZMOD 2 ^ 32]

theorem sameText_iff {source source' : SourceRun} : source.SameText source' ↔ source.text = source'.text := by
  have hhash : ∀ frameIds frameIds' : List String,
      (SourceRun.replayed frameIds).text = (SourceRun.replayed frameIds').text ↔
        printedHash (codeUnits (frameIdSeed (firstSeen frameIds)))
          = printedHash (codeUnits (frameIdSeed (firstSeen frameIds'))) := by
    intro frameIds frameIds'
    simp [SourceRun.text, stableHash, ← String.toList_inj]
  cases source with
  | explicit sourceId =>
    cases source' with
    | explicit sourceId' => exact Iff.rfl
    | replayed frameIds' => exact Iff.rfl
  | replayed frameIds =>
    cases source' with
    | explicit sourceId' => exact eq_comm
    | replayed frameIds' =>
      rw [hhash, printedHash_eq_iff]
      exact Iff.rfl

/-- a strategy called `no-strategy` reads like none -/
def SameStrategyText (strategyId strategyId' : Option String) : Prop :=
  strategyId = strategyId' ∨ (strategyId = none ∧ strategyId' = some "no-strategy") ∨
    (strategyId = some "no-strategy" ∧ strategyId' = none)

/-- the frame id of the second carries `:strategy:` where the first has its own, and the strategies fit -/
def StrategyShifted (a b : LedgerFlow) : Prop :=
  Shifted ':' "strategy".toList a.frameId.toList a.strategyText.toList b.frameId.toList b.strategyText.toList

/-- frame id and strategy id, as they stand behind `:frame:` -/
def LedgerFlow.flowText (flow : LedgerFlow) : List Char :=
  flow.frameId.toList ++ separator ':' "strategy".toList ++ flow.strategyText.toList

/-- the source run of the second carries `:frame:` where the first has its own, and what stands behind it fits -/
def SourceShifted (a b : LedgerFlow) : Prop :=
  Shifted ':' "frame".toList a.source.text.toList a.flowText b.source.text.toList b.flowText

/-- two flows that read as one text -/
def Confused (a b : LedgerFlow) : Prop :=
  (a.source.SameText b.source ∧
    ((a.frameId = b.frameId ∧ SameStrategyText a.strategyId b.strategyId) ∨ StrategyShifted a b ∨ StrategyShifted b a)) ∨
  SourceShifted a b ∨ SourceShifted b a

theorem sameStrategyText_iff {a b : LedgerFlow} :
    SameStrategyText a.strategyId b.strategyId ↔ a.strategyText = b.strategyText := by
  unfold SameStrategyText LedgerFlow.strategyText
  cases a.strategyId with
  | none =>
    cases b.strategyId with
    | none => simp
    | some strategyId' => simp [eq_comm]
  | some strategyId =>
    cases b.strategyId with
    | none => simp
    | some strategyId' => simp

theorem flowText_eq_iff {a b : LedgerFlow} : a.flowText = b.flowText ↔
    (a.frameId = b.frameId ∧ SameStrategyText a.strategyId b.strategyId) ∨ StrategyShifted a b ∨ StrategyShifted b a := by
  unfold LedgerFlow.flowText
  rw [separated_inj (by decide), String.toList_inj, String.toList_inj, ← sameStrategyText_iff]
  exact Iff.rfl

theorem dedupeKey_toList (flow : LedgerFlow) : flow.dedupeKey.toList
    = "UPBIT:".toList ++ (flow.source.text.toList ++ separator ':' "frame".toList ++ flow.flowText) := by
  simp [LedgerFlow.dedupeKey, buildFrameDedupeKey, LedgerFlow.flowText, LedgerFlow.strategyText, separator]

/-- two flows have one key exactly where they are confused -/
theorem key_eq_iff {a b : LedgerFlow} : a.dedupeKey = b.dedupeKey ↔ Confused a b := by
  rw [← String.toList_inj, dedupeKey_toList, dedupeKey_toList, List.append_cancel_left_eq, separated_inj (by decide),
    String.toList_inj, ← sameText_iff, flowText_eq_iff]
  exact Iff.rfl

/-! ## What the store keeps apart -/

section Store

variable [Host]

/-- no two appends of different flows have one key -/
def KeysDiffer (appends : List LedgerAppend) : Prop :=
  ∀ a ∈ appends, ∀ b ∈ appends, a.flow ≠ b.flow → a.entry.frame.dedupeKey ≠ b.entry.frame.dedupeKey

/-- an append that is not inserted finds a row of its own flow, at whatever point of the log it comes -/
def NeverDropsOther (appends : List LedgerAppend) : Prop :=
  ∀ before append after, appends = before ++ append :: after →
    (appendFrameWithExecutor (appendAll before) append).2.inserted = false →
      (appendFrameWithExecutor (appendAll before) append).2.record.flow = append.flow

theorem KeysDiffer.neverDropsOther {appends : List LedgerAppend} (h : KeysDiffer appends) : NeverDropsOther appends := by
  intro before append after hsplit hrefused
  unfold appendFrameWithExecutor at hrefused ⊢
  split at hrefused
  · cases hrefused
  · rename_i row hrow
    obtain ⟨hmem, hkey⟩ := appendAll_get hrow
    by_contra hother
    exact h row (by simp [hsplit, hmem]) append (by simp [hsplit]) hother hkey

/-- **The ledger keeps flows apart** exactly as far as their texts do: for every log of appends, of any completed runs and in
any order, the keys of different (source run, frame id, strategy id) differ and no append is dropped for a row of another
flow, if and only if no two different flows of the log read as one text. -/
theorem ledger_flows_separate_iff (appends : List LedgerAppend) :
    (KeysDiffer appends ∧ NeverDropsOther appends) ↔
      ∀ a ∈ appends, ∀ b ∈ appends, a.flow ≠ b.flow → ¬ Confused a.flow b.flow := by
  constructor
  · intro h a ha b hb hne hconfused
    refine h.1 a ha b hb hne ?_
    rw [append_dedupeKey, append_dedupeKey]
    exact key_eq_iff.2 hconfused
  · intro h
    have hkeys : KeysDiffer appends := by
      intro a ha b hb hne hkey
      rw [append_dedupeKey, append_dedupeKey] at hkey
      exact h a ha b hb hne (key_eq_iff.1 hkey)
    exact ⟨hkeys, hkeys.neverDropsOther⟩

end Store

/-! ## Two runs with one hash -/

namespace Sample

def quietFrame (id : String) : PaperDecisionInputFrame := { frame with id := id, orderbook := none }

/-- a runner without strategies -/
def idle : PaperDecisionRunner := { buyer with strategies := [] }

def emptyBroker : PaperBroker where
  exchangeId := "upbit_krw_spot"
  fillOptions := ⟨none, none, none, none⟩
  brokerOrderIdPrefix := "paper"
  ordersById := InsertionMap.empty
  orderIdsByIdempotencyKey := InsertionMap.empty
  fingerprintsByIdempotencyKey := InsertionMap.empty
  balancesByCurrency := InsertionMap.empty
  orderbooksByMarket := InsertionMap.empty
  nextOrderSequence := 1

/-- a run over two frames, without an id of the caller -/
def quietRun (first second : String) : PaperRun where
  runner := idle
  broker := emptyBroker
  frames := [quietFrame first, quietFrame second]
  state := ⟨emptyBroker, [frameReceivedRecord (quietFrame first), frameReceivedRecord (quietFrame second)], [], 0, []⟩
  completed := rfl
  sourceId := none
  decisionAt := .nanos 3
  sha256 := id

def mergedKey : String := "UPBIT:paper-runner:00386644:frame:x:strategy:no-strategy"

/-- both runs have a frame `x` with this key -/
theorem shared_key : ∀ second ∈ ["Aa", "BB"], ∃ entry ∈ (quietRun "x" second).ledger,
    entry.frame.sourceFrameId = "x" ∧ entry.frame.strategyId = none ∧ entry.frame.dedupeKey = mergedKey := by
  decide +kernel

end Sample

/-- the frames `x` of a run over `x`, `Aa` and of a run over `x`, `BB` have one key, and the second is dropped -/
theorem colliding_runs_merge : ∃ a b : LedgerAppend, a.flow ≠ b.flow ∧
    a.entry.frame.dedupeKey = b.entry.frame.dedupeKey ∧
    (appendFrameWithExecutor (appendAll [a]) b).2.inserted = false ∧
    (appendFrameWithExecutor (appendAll [a]) b).2.record.flow ≠ b.flow := by
  obtain ⟨entry, hentry, -, -, hkey⟩ := Sample.shared_key "Aa" (by simp)
  obtain ⟨entry', hentry', -, -, hkey'⟩ := Sample.shared_key "BB" (by simp)
  have hne : (⟨Sample.quietRun "x" "Aa", entry, hentry⟩ : LedgerAppend).flow
      ≠ (⟨Sample.quietRun "x" "BB", entry', hentry'⟩ : LedgerAppend).flow := by
    intro hflow
    have hsource : (Sample.quietRun "x" "Aa").source = (Sample.quietRun "x" "BB").source :=
      congrArg LedgerFlow.source hflow
    revert hsource
    decide +kernel
  refine ⟨⟨Sample.quietRun "x" "Aa", entry, hentry⟩, ⟨Sample.quietRun "x" "BB", entry', hentry'⟩, hne,
    hkey.trans hkey'.symm, ?_, ?_⟩
  · simp [appendFrameWithExecutor, appendAll, hkey, hkey']
  · simpa [appendFrameWithExecutor, appendAll, hkey, hkey'] using hne

end SeeMirai.Decision
