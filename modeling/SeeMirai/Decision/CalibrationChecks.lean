/-
The calibration validator cross-checks a run's metrics (application/calibration/validator.ts): cost decisions add up,
the rejections are those of the reason maps, every counted fill has its slippage, no more orders are filled than
submitted, and the maps of holds and discards are their entries among the blocking reasons. Do the metrics of a runner
always pass?

A run notes reasons one after another; every count of a reason is a count of notes, and the maps are tallies of them.
The maps are object literals, so that a reason like `toString` is no number in its own map while `hold:toString` is one
among the blocking reasons.

Results:
- `Noted.step`: every step notes its reasons, and only a strategy's answer can carry an inherited name.
- `explicitMap_iff`: an explicit map is its entries among the blocking reasons where no noted name is inherited.
-/
import SeeMirai.Decision.PnlRuns

namespace SeeMirai.Decision

open Fallible Execution Paper
open ObjectCounts (tally tally_get tally_get_inherited tally_get_of_not_mem tally_append sumWhere sumWhere_tally
  inheritedKeys increment)

/-! ## The validator -/

/-- `key.startsWith(text)` -/
def startsWith (key text : String) : Bool := text.toList.isPrefixOf key.toList

/-- `key.slice(text.length)` -/
def sliceAfter (key text : String) : String := String.ofList (key.toList.drop text.toList.length)

/-- `hold:` and the other prefixes -/
def ReasonAxis.label (axis : ReasonAxis) : String := axis.text ++ ":"

def sumReasonCounts (counts : ObjectCounts) (axis : ReasonAxis) : ℕ := sumWhere (startsWith · axis.label) counts

/-- `counts[key] ?? 0`: a count, or what an object literal inherits under the key -/
inductive ReadCount where
  | own (value : CountValue)
  | inherited
deriving DecidableEq

def readCount (counts : List (String × CountValue)) (key : String) : ReadCount :=
  match assocGet counts key with
  | some value => .own value
  | none => if key ∈ inheritedKeys then .inherited else .own (.number 0)

/-- the blocking reasons of one axis, without its prefix -/
def blockingByReason (blocking : ObjectCounts) (axis : ReasonAxis) : List (String × CountValue) :=
  (blocking.entries.filter (startsWith ·.1 axis.label)).map fun entry => (sliceAfter entry.1 axis.label, entry.2)

/-- the reasons whose counts differ -/
def validateExplicitReasonMap (explicitCounts blocking : ObjectCounts) (axis : ReasonAxis) : List String :=
  (Grouping.firstSeen (explicitCounts.keys ++ (blockingByReason blocking axis).map (·.1))).filter fun key =>
    readCount explicitCounts.entries key ≠ readCount (blockingByReason blocking axis) key

def isSafeCount (count : ℕ) : Bool := count ≤ 9007199254740991

/-- the field paths of the cross-checks that fail; the comparison of the fill rate is left out -/
def crossCheckFailures (metrics : PaperDecisionMetricSummary) : List String :=
  let failure (holds : Bool) (counts : List ℕ) (path : String) : List String :=
    if counts.all isSafeCount ∧ holds = false then [path] else []
  failure (metrics.paperFillCount ≤ metrics.paperOrderSubmittedCount)
    [metrics.paperFillCount, metrics.paperOrderSubmittedCount] "paperFillCount" ++
  failure (metrics.costSummary.allowedCount + metrics.costSummary.rejectedCount = metrics.costSummary.evaluatedCount)
    [metrics.costSummary.evaluatedCount, metrics.costSummary.allowedCount, metrics.costSummary.rejectedCount]
    "costSummary" ++
  failure (sumReasonCounts metrics.blockingReasonCounts .cost = metrics.costRejectedCount) [metrics.costRejectedCount]
    "costRejectedCount" ++
  failure (metrics.riskRejectedCount ≤ sumReasonCounts metrics.blockingReasonCounts .risk) [metrics.riskRejectedCount]
    "riskRejectedCount" ++
  failure (metrics.costSummary.rejectedCount = metrics.costRejectedCount)
    [metrics.costSummary.rejectedCount, metrics.costRejectedCount] "costSummary.rejectedCount" ++
  failure (metrics.slippageSummary.observedFillCount = metrics.paperFillCount)
    [metrics.slippageSummary.observedFillCount, metrics.paperFillCount] "slippageSummary.observedFillCount" ++
  (validateExplicitReasonMap metrics.holdReasonCounts metrics.blockingReasonCounts .hold).map
    ("holdReasonCounts." ++ ·) ++
  (validateExplicitReasonMap metrics.discardReasonCounts metrics.blockingReasonCounts .discard).map
    ("discardReasonCounts." ++ ·)

/-- the relations that the cross-checks ask for, of counts of any size -/
structure CrossChecks (metrics : PaperDecisionMetricSummary) : Prop where
  costDecisions :
    metrics.costSummary.allowedCount + metrics.costSummary.rejectedCount = metrics.costSummary.evaluatedCount
  costRejected : metrics.costSummary.rejectedCount = metrics.costRejectedCount
  costReasons : sumReasonCounts metrics.blockingReasonCounts .cost = metrics.costRejectedCount
  riskReasons : metrics.riskRejectedCount ≤ sumReasonCounts metrics.blockingReasonCounts .risk
  slippage : metrics.slippageSummary.observedFillCount = metrics.paperFillCount
  fills : metrics.paperFillCount ≤ metrics.paperOrderSubmittedCount
  hold : validateExplicitReasonMap metrics.holdReasonCounts metrics.blockingReasonCounts .hold = []
  discard : validateExplicitReasonMap metrics.discardReasonCounts metrics.blockingReasonCounts .discard = []

theorem CrossChecks.no_failures {metrics : PaperDecisionMetricSummary} (h : CrossChecks metrics) :
    crossCheckFailures metrics = [] := by
  have hcost := h.costDecisions
  rw [h.costRejected] at hcost
  unfold crossCheckFailures
  simp [hcost, h.costRejected, h.costReasons, h.riskReasons, h.slippage, h.fills, h.hold, h.discard]

/-! ## Keys of the blocking reasons -/

theorem startsWith_iff {key text : String} : startsWith key text = true ↔ ∃ rest, key = text ++ rest := by
  unfold startsWith
  rw [List.isPrefixOf_iff_prefix]
  constructor
  · rintro ⟨rest, hrest⟩
    exact ⟨String.ofList rest, String.toList_inj.1 (by simp [hrest])⟩
  · rintro ⟨rest, rfl⟩
    exact ⟨rest.toList, by simp⟩

theorem sliceAfter_append (text rest : String) : sliceAfter (text ++ rest) text = rest := by
  apply String.toList_inj.1
  simp [sliceAfter]

theorem reasonKey_label (axis : ReasonAxis) (reason : String) : reasonKey axis reason = axis.label ++ reason := rfl

/-- a key carries the prefix of its own axis and of no other -/
theorem startsWith_reasonKey (axis other : ReasonAxis) (reason : String) :
    startsWith (reasonKey axis reason) other.label = decide (axis = other) := by
  unfold startsWith
  cases axis <;> cases other <;> simp [reasonKey, ReasonAxis.label, ReasonAxis.text, List.isPrefixOf]

theorem reasonKey_injective : Function.Injective fun note : ReasonAxis × String => reasonKey note.1 note.2 := by
  rintro ⟨axis, reason⟩ ⟨axis', reason'⟩ heq
  have hprefix := startsWith_reasonKey axis' axis reason'
  simp only at heq
  rw [← heq, startsWith_reasonKey] at hprefix
  have haxis : axis' = axis := by simpa using hprefix.symm
  subst haxis
  have hreason : reason = reason' := by
    have hslice := congrArg (sliceAfter · axis'.label) heq
    simpa only [reasonKey_label, sliceAfter_append] using hslice
  rw [hreason]

/-- an object inherits nothing with a colon in its name -/
theorem reasonKey_ordinary (axis : ReasonAxis) (reason : String) : reasonKey axis reason ∉ inheritedKeys := by
  intro hmem
  have hcolon : ':' ∈ (reasonKey axis reason).toList := by simp [reasonKey]
  have hnone : ∀ key ∈ inheritedKeys, ':' ∉ key.toList := by decide +kernel
  exact hnone _ hmem hcolon

/-- the count of a reason on one axis is the count of its key -/
theorem blockingByReason_get (blocking : ObjectCounts) (axis : ReasonAxis) (reason : String) :
    assocGet (blockingByReason blocking axis) reason = blocking.get (reasonKey axis reason) := by
  unfold blockingByReason InsertionMap.get
  generalize hchosen : (fun entry : String × CountValue => startsWith entry.1 axis.label) = chosen
  induction blocking.entries with
  | nil => rfl
  | cons entry entries ih =>
    have hentry : chosen entry = startsWith entry.1 axis.label := by rw [← hchosen]
    by_cases hprefix : startsWith entry.1 axis.label = true
    · obtain ⟨rest, hrest⟩ := startsWith_iff.1 hprefix
      rw [List.filter_cons_of_pos (hentry.trans hprefix), List.map_cons, assocGet, assocGet, ih, hrest,
        sliceAfter_append]
      by_cases hsame : rest = reason
      · rw [if_pos hsame, if_pos (by rw [hsame]; rfl)]
      · rw [if_neg hsame, if_neg]
        intro heq
        have hslice := congrArg (sliceAfter · axis.label) heq
        simp only [reasonKey_label, sliceAfter_append] at hslice
        exact hsame hslice
    · rw [List.filter_cons_of_neg (hentry ▸ hprefix), ih, assocGet, if_neg]
      intro heq
      exact hprefix (startsWith_iff.2 ⟨reason, heq⟩)

/-! ## Notes -/

/-- the noted reasons of one axis -/
def reasonsOf (axis : ReasonAxis) (notes : List (ReasonAxis × String)) : List String :=
  (notes.filter (·.1 = axis)).map (·.2)

def noteKeys (notes : List (ReasonAxis × String)) : List String := notes.map fun note => reasonKey note.1 note.2

theorem noteKeys_ordinary (notes : List (ReasonAxis × String)) : ∀ key ∈ noteKeys notes, key ∉ inheritedKeys := by
  intro key hkey
  obtain ⟨note, -, rfl⟩ := List.mem_map.1 hkey
  exact reasonKey_ordinary note.1 note.2

theorem noteKeys_count (notes : List (ReasonAxis × String)) (axis : ReasonAxis) (reason : String) :
    (noteKeys notes).count (reasonKey axis reason) = notes.count (axis, reason) :=
  List.count_map_of_injective notes _ reasonKey_injective (axis, reason)

theorem reasonsOf_count (notes : List (ReasonAxis × String)) (axis : ReasonAxis) (reason : String) :
    (reasonsOf axis notes).count reason = notes.count (axis, reason) := by
  unfold reasonsOf
  induction notes with
  | nil => rfl
  | cons note notes ih =>
    obtain ⟨own, text⟩ := note
    by_cases hown : own = axis
    · subst hown
      rw [List.filter_cons_of_pos (by simp), List.map_cons, List.count_cons, ih, List.count_cons]
      simp
    · rw [List.filter_cons_of_neg (by simpa using hown), ih, List.count_cons]
      simp [hown]

theorem mem_reasonsOf {notes : List (ReasonAxis × String)} {axis : ReasonAxis} {reason : String} :
    reason ∈ reasonsOf axis notes ↔ (axis, reason) ∈ notes := by
  simp [reasonsOf]

/-- the blocking reasons of an axis add up to its notes -/
theorem sumReasonCounts_notes (notes : List (ReasonAxis × String)) (axis : ReasonAxis) :
    sumReasonCounts (tally (noteKeys notes)) axis = notes.countP (·.1 = axis) := by
  rw [sumReasonCounts, sumWhere_tally _ (noteKeys_ordinary notes), noteKeys, List.countP_map]
  refine List.countP_congr fun note _ => ?_
  simp [startsWith_reasonKey]

/-- an explicit map is its entries among the blocking reasons exactly where none of its reasons is inherited -/
theorem explicitMap_iff {notes : List (ReasonAxis × String)} {axis : ReasonAxis} :
    validateExplicitReasonMap (tally (reasonsOf axis notes)) (tally (noteKeys notes)) axis = [] ↔
      ∀ note ∈ notes, note.1 = axis → note.2 ∉ inheritedKeys := by
  have hblocking : ∀ reason, assocGet (blockingByReason (tally (noteKeys notes)) axis) reason
      = if notes.count (axis, reason) = 0 then none else some (.number (notes.count (axis, reason))) := by
    intro reason
    rw [blockingByReason_get, tally_get (reasonKey_ordinary axis reason), noteKeys_count]
  unfold validateExplicitReasonMap
  rw [List.filter_eq_nil_iff]
  constructor
  · intro hequal note hnote haxis hinherited
    obtain ⟨own, reason⟩ := note
    obtain rfl : own = axis := haxis
    have hcount : notes.count (own, reason) ≠ 0 := (List.count_pos_iff.2 hnote).ne'
    have hget := hblocking reason
    rw [if_neg hcount] at hget
    have hkey : reason ∈ (blockingByReason (tally (noteKeys notes)) own).map (·.1) := by
      by_contra hnone
      rw [assocGet_eq_none.2 hnone] at hget
      cases hget
    have hread := hequal reason (Grouping.mem_firstSeen.2 (List.mem_append_right _ hkey))
    have hown := tally_get_inherited hinherited (reasonsOf own notes)
    unfold InsertionMap.get at hown
    simp only [ne_eq, decide_not, Bool.not_eq_true', decide_eq_false_iff_not, not_not] at hread
    unfold readCount at hread
    rw [hget] at hread
    split at hread
    · rename_i value hvalue
      exact hown _ (hvalue.trans (congrArg some (ReadCount.own.inj hread)))
    · rw [if_pos hinherited] at hread
      cases hread
  · intro hordinary reason _
    have hsame : assocGet (tally (reasonsOf axis notes)).entries reason
        = assocGet (blockingByReason (tally (noteKeys notes)) axis) reason := by
      rw [hblocking]
      by_cases hinherited : reason ∈ inheritedKeys
      · have hnone : (axis, reason) ∉ notes := fun hnote => hordinary _ hnote rfl hinherited
        rw [if_pos (List.count_eq_zero_of_not_mem hnone)]
        exact tally_get_of_not_mem fun hmem => hnone (mem_reasonsOf.1 hmem)
      · rw [← reasonsOf_count]
        exact tally_get hinherited _
    simp [readCount, hsame]

/-! ## What a run notes -/

/-- the note that a strategy's answer makes -/
def StrategyDecision.note : StrategyDecision → Option (ReasonAxis × String)
  | .hold reason => some (.hold, reason)
  | .block reasonCode _ => some (.discard, reasonCode)
  | .orderIntent _ _ _ => none

/-- the reason maps are tallies of the notes, the rejections are counted by them, and what the runner itself notes as a
discard has an ordinary name -/
structure Noted (state : Metered) (notes : List (ReasonAxis × String)) : Prop where
  hold : state.metrics.holdReasonCounts = tally (reasonsOf .hold notes)
  discard : state.metrics.discardReasonCounts = tally (reasonsOf .discard notes)
  blocking : state.metrics.blockingReasonCounts = tally (noteKeys notes)
  costDecisions : state.metrics.costAllowedCount + state.metrics.costRejectedCount = state.metrics.costEvaluatedCount
  costRejected : state.metrics.costRejectedCount = notes.countP (·.1 = .cost)
  riskRejected : state.metrics.riskRejectedCount ≤ notes.countP (·.1 = .risk)
  answers : ∀ note ∈ notes, (note.1 = .hold ∨ note.1 = .discard) → note.2 ∈ inheritedKeys →
    ∃ decision ∈ state.decisions, decision.note = some note
  decided : ∀ decision ∈ state.decisions, ∀ note, decision.note = some note → note ∈ notes

variable {state state' : Metered} {notes : List (ReasonAxis × String)}

/-- metrics that note some reasons more -/
structure Adds (metrics metrics' : PaperDecisionMetricAccumulator) (added : List (ReasonAxis × String)) : Prop where
  hold : metrics'.holdReasonCounts = (reasonsOf .hold added).foldl increment metrics.holdReasonCounts
  discard : metrics'.discardReasonCounts = (reasonsOf .discard added).foldl increment metrics.discardReasonCounts
  blocking : metrics'.blockingReasonCounts = (noteKeys added).foldl increment metrics.blockingReasonCounts
  costDecisions : metrics.costAllowedCount + metrics.costRejectedCount = metrics.costEvaluatedCount →
    metrics'.costAllowedCount + metrics'.costRejectedCount = metrics'.costEvaluatedCount
  costRejected : metrics'.costRejectedCount = metrics.costRejectedCount + added.countP (·.1 = .cost)
  riskRejected : metrics'.riskRejectedCount ≤ metrics.riskRejectedCount + added.countP (·.1 = .risk)

/-- notes are appended; those that could be inherited names come from a strategy's answer -/
theorem Noted.adds (h : Noted state notes) {added : List (ReasonAxis × String)}
    (hadds : Adds state.metrics state'.metrics added) {decisions : List StrategyDecision}
    (hdecisions : state'.decisions = state.decisions ++ decisions)
    (hanswers : ∀ note ∈ added, (note.1 = .hold ∨ note.1 = .discard) → note.2 ∈ inheritedKeys →
      ∃ decision ∈ decisions, decision.note = some note)
    (hdecided : ∀ decision ∈ decisions, ∀ note, decision.note = some note → note ∈ added) :
    Noted state' (notes ++ added) := by
  refine ⟨?_, ?_, ?_, hadds.costDecisions h.costDecisions, ?_, ?_, ?_, ?_⟩
  · rw [hadds.hold, h.hold, ← tally_append]
    simp [reasonsOf]
  · rw [hadds.discard, h.discard, ← tally_append]
    simp [reasonsOf]
  · rw [hadds.blocking, h.blocking, ← tally_append]
    simp [noteKeys]
  · rw [hadds.costRejected, h.costRejected, List.countP_append]
  · rw [List.countP_append]
    exact hadds.riskRejected.trans (Nat.add_le_add_right h.riskRejected _)
  · intro note hnote haxis hinherited
    rw [hdecisions]
    rcases List.mem_append.1 hnote with hold | hnew
    · obtain ⟨decision, hdecision, heq⟩ := h.answers note hold haxis hinherited
      exact ⟨decision, List.mem_append_left _ hdecision, heq⟩
    · obtain ⟨decision, hdecision, heq⟩ := hanswers note hnew haxis hinherited
      exact ⟨decision, List.mem_append_right _ hdecision, heq⟩
  · intro decision hdecision note heq
    rw [hdecisions] at hdecision
    rcases List.mem_append.1 hdecision with hold | hnew
    · exact List.mem_append_left _ (h.decided decision hold note heq)
    · exact List.mem_append_right _ (hdecided decision hnew note heq)

theorem Adds.refl (metrics : PaperDecisionMetricAccumulator) : Adds metrics metrics [] :=
  ⟨rfl, rfl, rfl, id, rfl, Nat.le_refl _⟩

theorem Adds.trans {first second third : PaperDecisionMetricAccumulator} {added more : List (ReasonAxis × String)}
    (h : Adds first second added) (h' : Adds second third more) : Adds first third (added ++ more) := by
  refine ⟨?_, ?_, ?_, fun hcost => h'.costDecisions (h.costDecisions hcost), ?_, ?_⟩
  · rw [h'.hold, h.hold, ← List.foldl_append]
    simp [reasonsOf]
  · rw [h'.discard, h.discard, ← List.foldl_append]
    simp [reasonsOf]
  · rw [h'.blocking, h.blocking, ← List.foldl_append]
    simp [noteKeys]
  · rw [h'.costRejected, h.costRejected, List.countP_append, Nat.add_assoc]
  · rw [List.countP_append, ← Nat.add_assoc]
    exact h'.riskRejected.trans (Nat.add_le_add_right h.riskRejected _)

theorem discard_adds (metrics : PaperDecisionMetricAccumulator) (reason : String) :
    Adds metrics (metrics.discard reason) [(.discard, reason)] :=
  ⟨rfl, rfl, rfl, id, rfl, Nat.le_refl _⟩

theorem recordStrategyDecision_adds (metrics : PaperDecisionMetricAccumulator) (decision : StrategyDecision) :
    Adds metrics (metrics.recordStrategyDecision decision) decision.note.toList := by
  cases decision with
  | hold reason => exact ⟨rfl, rfl, rfl, id, rfl, Nat.le_refl _⟩
  | block reasonCode reason => exact ⟨rfl, rfl, rfl, id, rfl, Nat.le_refl _⟩
  | orderIntent reason orderIntents metadata => exact ⟨rfl, rfl, rfl, id, rfl, Nat.le_refl _⟩

theorem recordConversion_adds (metrics : PaperDecisionMetricAccumulator)
    (conversion : StrategyDecisionIntentConversion) :
    Adds metrics (metrics.recordConversion conversion)
      (conversion.rejections.map fun rejection => (.discard, rejection.reasonCode)) := by
  unfold PaperDecisionMetricAccumulator.recordConversion
  induction conversion.rejections generalizing metrics with
  | nil => exact .refl metrics
  | cons rejection rejections ih => exact (discard_adds metrics rejection.reasonCode).trans (ih _)

/-- a rejection with a failed evaluation is noted at least once -/
theorem recordRiskDecision_adds (metrics : PaperDecisionMetricAccumulator) {result : Risk.RiskGateResult}
    (hfailed : result.approved = false → result.failedEvaluations ≠ []) :
    ∃ added : List (ReasonAxis × String), Adds metrics (metrics.recordRiskDecision result) added ∧
      ∀ note ∈ added, note.1 = .risk := by
  unfold PaperDecisionMetricAccumulator.recordRiskDecision
  cases happroved : result.approved with
  | true => exact ⟨[], .refl metrics, nofun⟩
  | false =>
    let noted (evaluations : List Risk.RiskGateEvaluation) : List (ReasonAxis × String) :=
      evaluations.map fun evaluation => (.risk, evaluation.reasonCode)
    have hloop : ∀ (evaluations : List Risk.RiskGateEvaluation) (start : PaperDecisionMetricAccumulator),
        Adds start (evaluations.foldl
          (fun metrics evaluation => { metrics with
            blockingReasonCounts := increment metrics.blockingReasonCounts (reasonKey .risk evaluation.reasonCode) })
          start) (noted evaluations) := by
      intro evaluations
      induction evaluations with
      | nil => exact fun start => .refl start
      | cons evaluation evaluations ih =>
        intro start
        have hone : Adds start { start with
            blockingReasonCounts := increment start.blockingReasonCounts (reasonKey .risk evaluation.reasonCode) }
            [(.risk, evaluation.reasonCode)] :=
          ⟨rfl, rfl, rfl, id, rfl, Nat.le_succ _⟩
        exact hone.trans (ih _)
    have hadds := hloop result.failedEvaluations { metrics with riskRejectedCount := metrics.riskRejectedCount + 1 }
    have hcount : (noted result.failedEvaluations).countP (·.1 = .risk) = result.failedEvaluations.length := by
      rw [List.countP_eq_length.2 (by simp [noted]), List.length_map]
    have hpositive := List.length_pos_iff.2 (hfailed happroved)
    refine ⟨noted result.failedEvaluations, ⟨hadds.hold, hadds.discard, hadds.blocking, hadds.costDecisions,
      hadds.costRejected, ?_⟩, by simp [noted]⟩
    -- the one rejection is among its evaluations
    have hrejected : ∀ start : PaperDecisionMetricAccumulator, (result.failedEvaluations.foldl
        (fun metrics evaluation => { metrics with
          blockingReasonCounts := increment metrics.blockingReasonCounts (reasonKey .risk evaluation.reasonCode) })
        start).riskRejectedCount = start.riskRejectedCount := by
      intro start
      apply foldl_keeps PaperDecisionMetricAccumulator.riskRejectedCount
      intro _ _
      rfl
    rw [hcount]
    simp only [Bool.false_eq_true, if_false]
    rw [hrejected]
    exact Nat.add_le_add_left hpositive metrics.riskRejectedCount

theorem recordOrder_adds (metrics : PaperDecisionMetricAccumulator) (filledBrokerOrderIds : List String)
    (order : BrokerOrder) : Adds metrics (metrics.recordOrder filledBrokerOrderIds order)
      (if order.status = .rejected then [(.discard, "paper_broker_rejected")] else []) := by
  have hsubmission : Adds metrics (metrics.recordSubmission order) [] := by
    unfold PaperDecisionMetricAccumulator.recordSubmission
    split_ifs
    · exact .refl metrics
    · exact ⟨rfl, rfl, rfl, id, rfl, Nat.le_refl _⟩
  have hfill : Adds (metrics.recordSubmission order)
      ((metrics.recordSubmission order).recordFill filledBrokerOrderIds order) [] := by
    unfold PaperDecisionMetricAccumulator.recordFill
    split_ifs
    · exact ⟨rfl, rfl, rfl, id, rfl, Nat.le_refl _⟩
    · exact .refl _
  unfold PaperDecisionMetricAccumulator.recordOrder
  simp only
  split_ifs
  · exact (hsubmission.trans hfill).trans (discard_adds _ _)
  · exact hsubmission.trans hfill

section Host

variable [Host]

theorem recordCostDecision_adds (metrics : PaperDecisionMetricAccumulator) (costDecision : CostDecision) :
    Adds metrics (metrics.recordCostDecision costDecision)
      (if costDecision.tradeAllowed then [] else [(.cost, costDecision.reasonCode)]) := by
  unfold PaperDecisionMetricAccumulator.recordCostDecision
  simp only
  split_ifs
  · refine ⟨rfl, rfl, rfl, fun hcost => ?_, rfl, Nat.le_refl _⟩
    simp only
    omega
  · refine ⟨rfl, rfl, rfl, fun hcost => ?_, rfl, Nat.le_refl _⟩
    simp only
    omega

/-- the conversion discards for reasons of its own -/
theorem conversion_ordinary {reason : String} {orderIntents : List ExecutionIntent}
    {decisionMetadata metadata : JsValue} {rejection : StrategyDecisionIntentRejection}
    (h : rejection ∈ (convertStrategyDecisionToOrderIntents reason orderIntents decisionMetadata metadata).rejections) :
    rejection.reasonCode ∉ inheritedKeys := by
  unfold convertStrategyDecisionToOrderIntents at h
  split at h
  · cases h
  · obtain ⟨entry, -, hentry⟩ := List.mem_flatMap.1 h
    unfold validateOrderIntent at hentry
    simp only [List.mem_append] at hentry
    rcases hentry with (((hentry | hentry) | hentry) | hentry) | hentry
    all_goals
      split_ifs at hentry
      · obtain rfl := List.mem_singleton.1 hentry
        dsimp only
        decide
      · cases hentry

/-- **One step notes its reasons.** Only a strategy's answer can carry an inherited name. -/
theorem Noted.step {runner : PaperDecisionRunner} {frames : List PaperDecisionInputFrame} (h : Noted state notes)
    (hrisk : ∀ call context result, runner.evaluateRiskGate call context = .ok result → result.approved = false →
      result.failedEvaluations ≠ []) (hstep : MeteredStep runner frames state state') :
    ∃ added, Noted state' (notes ++ added) := by
  cases hstep with
  | frame frame => exact ⟨[], h.adds (.refl _) (List.append_nil _).symm nofun nofun⟩
  | orderbook frame hframe orderbook =>
    refine ⟨[], h.adds ?_ (List.append_nil _).symm nofun nofun⟩
    simp only [PaperDecisionMetricAccumulator.recordPnlMarkPrice]
    split
    · exact .refl _
    · exact ⟨rfl, rfl, rfl, id, rfl, Nat.le_refl _⟩
  | decision frame strategyId decision =>
    refine ⟨decision.note.toList, h.adds (recordStrategyDecision_adds _ decision) rfl (fun note hnote _ _ => ?_)
      (fun other hother note hnote => ?_)⟩
    · exact ⟨decision, List.mem_singleton_self _, Option.mem_toList.1 hnote⟩
    · obtain rfl := List.mem_singleton.1 hother
      exact Option.mem_toList.2 hnote
  | conversion frame strategyId reason orderIntents decisionMetadata metadata conversion hconversion =>
    refine ⟨_, h.adds (recordConversion_adds _ conversion) (List.append_nil _).symm
      (fun note hnote _ hinherited => ?_) nofun⟩
    obtain ⟨rejection, hrejection, rfl⟩ := List.mem_map.1 hnote
    rw [hconversion] at hrejection
    exact absurd hinherited (conversion_ordinary hrejection)
  | intent => exact ⟨[], h.adds ⟨rfl, rfl, rfl, id, rfl, Nat.le_refl _⟩ (List.append_nil _).symm nofun nofun⟩
  | cost frame intent costDecision =>
    refine ⟨_, h.adds (recordCostDecision_adds _ costDecision) (List.append_nil _).symm
      (fun note hnote haxis _ => ?_) nofun⟩
    split_ifs at hnote
    · cases hnote
    · obtain rfl := List.mem_singleton.1 hnote
      simp at haxis
  | risk frame intent result call context hresult =>
    obtain ⟨added, hadds, hall⟩ := recordRiskDecision_adds state.metrics (hrisk call context result hresult)
    refine ⟨added, h.adds hadds (List.append_nil _).symm (fun note hnote haxis _ => ?_) nofun⟩
    rw [hall note hnote] at haxis
    simp at haxis
  | refused frame intent rejection =>
    refine ⟨_, h.adds (discard_adds _ _) (List.append_nil _).symm (fun note hnote _ hinherited => ?_) nofun⟩
    obtain rfl := List.mem_singleton.1 hnote
    refine absurd hinherited ?_
    cases rejection.reasonCode <;> decide
  | submitted frame intent hvalid submission hintent now order =>
    refine ⟨_, h.adds (recordOrder_adds _ _ order) (List.append_nil _).symm (fun note hnote _ hinherited => ?_) nofun⟩
    split_ifs at hnote
    · obtain rfl := List.mem_singleton.1 hnote
      exact absurd hinherited (by decide)
    · cases hnote

theorem noted_of_steps {runner : PaperDecisionRunner} {frames : List PaperDecisionInputFrame} (h : Noted state notes)
    (hrisk : ∀ call context result, runner.evaluateRiskGate call context = .ok result → result.approved = false →
      result.failedEvaluations ≠ []) (hsteps : MeteredSteps runner frames state state') :
    ∃ all, Noted state' all := by
  induction hsteps with
  | refl => exact ⟨notes, h⟩
  | tail _ hstep ih =>
    obtain ⟨all, hall⟩ := ih
    obtain ⟨added, hnext⟩ := hall.step hrisk hstep
    exact ⟨all ++ added, hnext⟩

end Host

end SeeMirai.Decision
