/-
The identifier under which the live execution adapter submits an exit (runtime/live-ops-live-execution/service.ts,
`normalizeLiveOpsExitRuntimeIntent`). It is a hash of the decision key of the strategy, and the key consists of date,
side, reason, price and amounts. For a BUY the time of the tick is hashed in too, for a SELL it is not, so two chunks of
one exit that look alike get one identifier. The hash is a parameter.

Results:
- `createIdempotencyKey_inj`: two decision keys are equal exactly when date, reason and printed amounts are.
- `exit_attempts_distinct_iff`: when the SELLs of two ticks get different identifiers.
- `equal_chunks_one_attempt`: a position sold in equal chunks, of which the second repeats the identifier of the first.
-/
import SeeMirai.Live.ChunkedExit
import SeeMirai.Live.EntryRuntime

namespace SeeMirai.Live.Autonomous24x7

open Execution (ExecutionIntent sideText)

/-! ## Model -/

/-- what the adapter reads of its input to make an identifier -/
structure LiveOpsAttemptInput where
  idempotencyKey : Option String
  observedAt : String

/-- `/^ops-[a-f0-9]{26}$/` -/
def isLiveOpsAttemptId (value : String) : Bool :=
  match value.toList with
  | 'o' :: 'p' :: 's' :: '-' :: tail => hexTail tail
  | _ => false

def readEntryRuntimeAttemptScope (input : LiveOpsAttemptInput) (intent : ExecutionIntent) : Option String :=
  if input.idempotencyKey ≠ none then none
  else if intent.side ≠ .buy then none
  else if intent.strategyId ≠ strategyId then none
  else some input.observedAt

def createLiveOpsAttemptHashSource (input : LiveOpsAttemptInput) (intent : ExecutionIntent) (candidate : String) : String :=
  let source := if trim candidate ≠ "" then candidate else "missing-live-ops-decision-key"
  match readEntryRuntimeAttemptScope input intent with
  | none => source
  | some runtimeScope => source ++ ":runtime_attempt:" ++ runtimeScope

/-- `hexPrefix` is the first 26 digits of the hash -/
def createStableLiveOpsAttemptId (hexPrefix : String → String) (input : LiveOpsAttemptInput) (intent : ExecutionIntent) :
    String :=
  let candidate := input.idempotencyKey.getD intent.idempotencyKey
  if isLiveOpsAttemptId candidate then candidate
  else "ops-" ++ hexPrefix (createLiveOpsAttemptHashSource input intent candidate)

/-- the decision key that an intent carries in its metadata, or its own -/
def readOriginalDecisionIdempotencyKey (intent : ExecutionIntent) : String :=
  (readStringMetadata intent.metadata "decision_idempotency_key").getD intent.idempotencyKey

/-- the properties of a record, none for anything else -/
def properties : JsValue → JsonRecord
  | .object properties => properties
  | _ => []

/-- the intent that is submitted -/
def normalizeLiveOpsExitRuntimeIntent (hexPrefix : String → String) (input : LiveOpsAttemptInput)
    (intent : ExecutionIntent) : ExecutionIntent :=
  { intent with
    idempotencyKey := createStableLiveOpsAttemptId hexPrefix input intent
    metadata := .object (assocSet (assocSet (properties intent.metadata) "decision_idempotency_key"
      (.string (readOriginalDecisionIdempotencyKey intent))) "runtime_idempotency_source"
      (.string "live_ops_live_execution_exit")) }

/-! ## Decision keys -/

/-- the parts of a decision key -/
def keyParts (side : OrderSide) (reason : String) (sizing : LimitSizing) (observedAt : String) : List String :=
  [strategyId, dateScope observedAt, "upbit_krw_spot", "KRW-BTC", sideText side, reason, sizing.requestedPrice,
    sizing.requestedQuantity, sizing.requestedNotional]

/-- a text without a colon -/
def ColonFree (s : String) : Prop := ':' ∉ s.toList

theorem startsWithDate_colonFree {cs : List Char} (h : startsWithDate cs = true) : ':' ∉ cs.take 10 := by
  have hdigit : (':' : Char).isDigit = false := rfl
  unfold startsWithDate at h
  split at h
  · simp only [List.all_cons, List.all_nil, Bool.and_true, Bool.and_eq_true] at h
    simp only [List.take_succ_cons, List.take_zero, List.mem_cons, List.not_mem_nil, or_false, not_or]
    refine ⟨?_, ?_, ?_, ?_, by decide, ?_, ?_, by decide, ?_, ?_⟩
    all_goals
      rintro rfl
      simp [hdigit] at h
  · cases h

theorem dateScope_colonFree (observedAt : String) : ColonFree (dateScope observedAt) := by
  unfold dateScope ColonFree
  split_ifs with h
  · rw [String.toList_ofList]
    exact startsWithDate_colonFree h
  · decide

theorem ExitRule.reason_colonFree (rule : ExitRule) : ColonFree rule.reason := by
  unfold ColonFree
  cases rule <;> decide

theorem ExitRule.reason_injective {a b : ExitRule} (h : a.reason = b.reason) : a = b := by
  revert h
  cases a <;> cases b <;> decide

section Keys

variable [H : Host] [H.Decimals]

theorem toFixed_colonFree {q : ℚ} (h : IsDecimalFraction q) : ColonFree (Host.toFixed q) := by
  intro hmem
  exact absurd (Host.Decimals.toFixed_plain h _ hmem) (by decide)

/-- a sizing whose texts are printed decimals -/
structure PrintedDecimals (sizing : LimitSizing) : Prop where
  price : ColonFree sizing.requestedPrice
  quantity : ColonFree sizing.requestedQuantity
  notional : ColonFree sizing.requestedNotional

omit H [H.Decimals] in
theorem splitOn_key {side : OrderSide} {rule : ExitRule} {sizing : LimitSizing} {observedAt : String}
    (h : PrintedDecimals sizing) :
    (createIdempotencyKey side rule.reason sizing observedAt).toList.splitOn ':'
      = (keyParts side rule.reason sizing observedAt).map String.toList := by
  have hfree : ∀ part ∈ (keyParts side rule.reason sizing observedAt).map String.toList, ':' ∉ part := by
    simp only [keyParts, List.map_cons, List.map_nil, List.forall_mem_cons, List.not_mem_nil, false_implies,
      implies_true, and_true]
    refine ⟨by decide, dateScope_colonFree _, by decide, by decide, ?_, rule.reason_colonFree, h.price, h.quantity,
      h.notional⟩
    cases side <;> decide
  change (":".intercalate (keyParts side rule.reason sizing observedAt)).toList.splitOn ':' = _
  rw [String.toList_intercalate]
  exact List.splitOn_intercalate ':' hfree (by simp [keyParts])

omit H [H.Decimals] in
/-- **Decision keys.** Two SELL keys are equal exactly when date, rule and printed amounts are. -/
theorem createIdempotencyKey_inj {rule rule' : ExitRule} {sizing sizing' : LimitSizing} {observedAt observedAt' : String}
    (h : PrintedDecimals sizing) (h' : PrintedDecimals sizing') :
    createIdempotencyKey .sell rule.reason sizing observedAt = createIdempotencyKey .sell rule'.reason sizing' observedAt'
      ↔ dateScope observedAt = dateScope observedAt' ∧ rule = rule' ∧ sizing = sizing' := by
  constructor
  · intro hkey
    have hparts : (keyParts .sell rule.reason sizing observedAt).map String.toList
        = (keyParts .sell rule'.reason sizing' observedAt').map String.toList := by
      rw [← splitOn_key h, ← splitOn_key h', hkey]
    simp only [keyParts, List.map_cons, List.map_nil, List.cons.injEq, String.toList_inj, and_true, true_and] at hparts
    obtain ⟨hdate, hreason, hprice, hquantity, hnotional⟩ := hparts
    refine ⟨hdate, ExitRule.reason_injective hreason, ?_⟩
    cases sizing
    cases sizing'
    simp only at hprice hquantity hnotional
    rw [hprice, hquantity, hnotional]
  · rintro ⟨hdate, rfl, rfl⟩
    unfold createIdempotencyKey
    rw [hdate]

/-! ## Attempts -/

variable {hexPrefix : String → String} {parseDate : String → Option ℤ} {options : NormalizedOptions}

omit H [H.Decimals] in
theorem trim_ne_empty {s : String} {c : Char} {cs : List Char} (hs : s.toList = c :: cs) (hc : isWhiteSpace c = false) :
    trim s ≠ "" := by
  intro hempty
  have hlist := congrArg String.toList hempty
  rw [trim, String.toList_ofList, hs, List.dropWhile_cons, hc] at hlist
  have hall := List.dropWhile_eq_nil_iff.1 (List.reverse_eq_nil_iff.1 hlist)
  have hspace := hall c (by simp)
  rw [hc] at hspace
  cases hspace

omit H [H.Decimals] in
/-- a SELL without an explicit key is submitted under the hash of its decision key alone -/
theorem attemptId_of_sell {intent : ExecutionIntent} {runtimeObservedAt : String} {cs : List Char}
    (hside : intent.side = .sell) (hkey : intent.idempotencyKey.toList = 'l' :: cs) :
    createStableLiveOpsAttemptId hexPrefix ⟨none, runtimeObservedAt⟩ intent = "ops-" ++ hexPrefix intent.idempotencyKey := by
  have hid : isLiveOpsAttemptId intent.idempotencyKey = false := by
    unfold isLiveOpsAttemptId
    rw [hkey]
    rfl
  have hscope : readEntryRuntimeAttemptScope ⟨none, runtimeObservedAt⟩ intent = none := by
    unfold readEntryRuntimeAttemptScope
    rw [if_neg (by simp), if_pos (by simp [hside])]
  have hsource : createLiveOpsAttemptHashSource ⟨none, runtimeObservedAt⟩ intent intent.idempotencyKey
      = intent.idempotencyKey := by
    unfold createLiveOpsAttemptHashSource
    rw [if_pos (trim_ne_empty hkey (by decide)), hscope]
  unfold createStableLiveOpsAttemptId
  simp only [Option.getD_none, hid, Bool.false_eq_true, if_false, hsource]

omit H [H.Decimals] in
theorem createIdempotencyKey_head (side : OrderSide) (reason : String) (sizing : LimitSizing) (observedAt : String) :
    ∃ cs, (createIdempotencyKey side reason sizing observedAt).toList = 'l' :: cs := by
  unfold createIdempotencyKey
  rw [String.toList_intercalate, List.map_cons, List.map_cons, List.intercalate_cons_cons]
  exact ⟨_, rfl⟩

/-- what a rule wants to sell of a position -/
def exitTarget (platform : Platform) (options : NormalizedOptions) (rule : ExitRule) (held : ℚ) : ℚ :=
  truncate options.quantityScale
    (if rule = .riskReduction then platform.round (held * options.riskReductionSellFraction.1.1) else held)

omit [H.Decimals] in
theorem calculateExitQuantity_ok {platform : Platform} {rule : ExitRule} {held target : ℚ} :
    calculateExitQuantity platform held options rule = .ok target →
      (options.quantityScale : ℕ) ≤ maxPlaces ∧ target = exitTarget platform options rule held := by
  intro h
  unfold calculateExitQuantity at h
  split at h
  · obtain ⟨hscale, rfl⟩ := toDecimalPlaces_ok.1 h
    exact ⟨hscale, rfl⟩
  · rename_i hrule
    obtain ⟨hscale, rfl⟩ := toDecimalPlaces_ok.1 h
    exact ⟨hscale, by rw [exitTarget, if_neg hrule]⟩

/-- what a tick at which an exit order is made looks like -/
structure ExitInputs (platform : Platform) (options : NormalizedOptions) (context : StrategyContext)
    (bestAsk held : ℚ) (rule : ExitRule) : Prop where
  reads : ∃ orderbook position bestBid exitRule,
    selectLatestOrderbook context.marketEvents (some "KRW-BTC") = some orderbook ∧
    readPositionSnapshot context.positions = .ok position ∧ position.quantity = held ∧
    readBestBid orderbook = some bestBid ∧ readBestAsk orderbook = some bestAsk ∧
    selectExitRule platform context.observedAt bestBid options position = some exitRule ∧ exitRule.rule = rule

/-- the tick proposes the SELL -/
structure ProposesSell (platform : Platform) (options : NormalizedOptions) (context : StrategyContext)
    (intent : ExecutionIntent) : Prop where
  proposes : ∃ decision, evaluateAutonomous24x7 platform context options = .ok decision ∧ intent ∈ decision.orderIntents
  side : intent.side = .sell

omit [H.Decimals] in
/-- the quantity of a SELL: the target, or the chunk where this is less -/
theorem ProposesSell.intent_eq {context : StrategyContext} {bestAsk held : ℚ} {rule : ExitRule} {intent : ExecutionIntent}
    (h : ProposesSell (decimalJs parseDate) options context intent)
    (hinputs : ExitInputs (decimalJs parseDate) options context bestAsk held rule) :
    ∃ metadata, intent = createLimitIntent .sell rule.reason
      (printedSizing (decimalJs parseDate) (exitPrice (decimalJs parseDate) options bestAsk)
        (min (exitTarget (decimalJs parseDate) options rule held) (exitChunk (decimalJs parseDate) options bestAsk)))
      context.observedAt metadata := by
  obtain ⟨decision, hdecision, hmem⟩ := h.proposes
  obtain ⟨orderbook, position, bestBid, exitRule, hbook, hposition, hheld, hbid, hask, hrule, hkind⟩ := hinputs.reads
  obtain ⟨-, orderbook', position', hbook', hposition', horder⟩ := evaluateAutonomous24x7_orders hdecision hmem
  obtain rfl := Option.some.inj (hbook.symm.trans hbook')
  obtain rfl := Except.ok.inj (hposition.symm.trans hposition')
  rcases horder with ⟨-, bestBid', bestAsk', target, sell, exitRule', hexit⟩ | ⟨-, _, _, hentry⟩
  · obtain rfl := Option.some.inj (hbid.symm.trans hexit.bid)
    obtain rfl := Option.some.inj (hask.symm.trans hexit.ask)
    obtain rfl := Option.some.inj (hrule.symm.trans hexit.rule)
    obtain ⟨hscale, htarget⟩ := calculateExitQuantity_ok hexit.calculates
    have hsell : sell = min target (exitChunk (decimalJs parseDate) options bestAsk) := by
      have hcaps := hexit.caps
      unfold capExitQuantityByOrderNotional at hcaps
      rw [if_neg (not_not.2 hexit.sized.price_pos)] at hcaps
      obtain ⟨cap, hcap, hcaps⟩ := Fallible.bind_eq_ok.1 hcaps
      obtain ⟨-, rfl⟩ := toDecimalPlaces_ok.1 hcap
      obtain ⟨-, rfl⟩ := toDecimalPlaces_ok.1 hcaps
      have hgrid : OnGrid options.quantityScale target := htarget ▸ onGrid_truncate _ _
      exact (hgrid.min exitChunk_onGrid).truncate_eq
    rw [hsell, htarget, hheld, hkind] at hexit
    exact ⟨_, hexit.intent.trans (by rw [hkind])⟩
  · obtain ⟨metadata, hintent⟩ := hentry.intent
    have hside := h.side
    rw [hintent] at hside
    cases hside

theorem printedDecimals (price quantity : ℚ) (hprice : IsDecimalFraction price) (hquantity : IsDecimalFraction quantity) :
    PrintedDecimals (printedSizing (decimalJs parseDate) price quantity) :=
  ⟨toFixed_colonFree hprice, toFixed_colonFree hquantity, toFixed_colonFree (decimalRound_isDecimal _)⟩

theorem printedSizing_inj {price price' quantity quantity' : ℚ} (hprice : IsDecimalFraction price) (hprice' : IsDecimalFraction price')
    (hquantity : IsDecimalFraction quantity) (hquantity' : IsDecimalFraction quantity') :
    printedSizing (decimalJs parseDate) price quantity = printedSizing (decimalJs parseDate) price' quantity'
      ↔ price = price' ∧ quantity = quantity' := by
  constructor
  · intro h
    exact ⟨Host.toFixed_injective hprice hprice' (congrArg LimitSizing.requestedPrice h),
      Host.toFixed_injective hquantity hquantity' (congrArg LimitSizing.requestedQuantity h)⟩
  · rintro ⟨rfl, rfl⟩
    rfl

omit H [H.Decimals] in
/-- two amounts are cut to the same one where they are equal or both reach the cap -/
theorem min_eq_min_iff {a b c : ℚ} : min a c = min b c ↔ a = b ∨ c ≤ a ∧ c ≤ b := by
  constructor
  · intro h
    rcases le_total c a with ha | ha
    · rw [min_eq_right ha] at h
      exact Or.inr ⟨ha, h ▸ min_le_left _ _⟩
    · rw [min_eq_left ha] at h
      rcases le_total c b with hb | hb
      · rw [min_eq_right hb] at h
        exact Or.inr ⟨h.ge, hb⟩
      · rw [min_eq_left hb] at h
        exact Or.inl h
  · rintro (rfl | ⟨ha, hb⟩)
    · rfl
    · rw [min_eq_right ha, min_eq_right hb]

/-- **Identifiers of exits.** Where the hash does not collide, the SELLs of two ticks get different identifiers exactly
when they are of different dates, rules or exit prices, or when the targets differ and one of them is below the chunk. -/
theorem exit_attempts_distinct_iff {context context' : StrategyContext} {bestAsk bestAsk' held held' : ℚ}
    {rule rule' : ExitRule} {intent intent' : ExecutionIntent} {runtimeObservedAt runtimeObservedAt' : String}
    (h : ProposesSell (decimalJs parseDate) options context intent)
    (h' : ProposesSell (decimalJs parseDate) options context' intent')
    (hinputs : ExitInputs (decimalJs parseDate) options context bestAsk held rule)
    (hinputs' : ExitInputs (decimalJs parseDate) options context' bestAsk' held' rule')
    (hhash : hexPrefix intent.idempotencyKey = hexPrefix intent'.idempotencyKey →
      intent.idempotencyKey = intent'.idempotencyKey) :
    (normalizeLiveOpsExitRuntimeIntent hexPrefix ⟨none, runtimeObservedAt⟩ intent).idempotencyKey
        ≠ (normalizeLiveOpsExitRuntimeIntent hexPrefix ⟨none, runtimeObservedAt'⟩ intent').idempotencyKey ↔
      dateScope context.observedAt ≠ dateScope context'.observedAt ∨ rule ≠ rule' ∨
        exitPrice (decimalJs parseDate) options bestAsk ≠ exitPrice (decimalJs parseDate) options bestAsk' ∨
        exitTarget (decimalJs parseDate) options rule held ≠ exitTarget (decimalJs parseDate) options rule' held' ∧
          (exitTarget (decimalJs parseDate) options rule held < exitChunk (decimalJs parseDate) options bestAsk ∨
            exitTarget (decimalJs parseDate) options rule' held' < exitChunk (decimalJs parseDate) options bestAsk) := by
  obtain ⟨metadata, hintent⟩ := h.intent_eq hinputs
  obtain ⟨metadata', hintent'⟩ := h'.intent_eq hinputs'
  have hprice : ∀ ask, IsDecimalFraction (exitPrice (decimalJs parseDate) options ask) := fun _ => decimalRound_isDecimal _
  have hquantity : ∀ rule held ask, IsDecimalFraction (min (exitTarget (decimalJs parseDate) options rule held)
      (exitChunk (decimalJs parseDate) options ask)) :=
    fun _ _ _ => ⟨_, (onGrid_truncate _ _).min exitChunk_onGrid⟩
  have hkeys : intent.idempotencyKey = intent'.idempotencyKey ↔
      dateScope context.observedAt = dateScope context'.observedAt ∧ rule = rule' ∧
        exitPrice (decimalJs parseDate) options bestAsk = exitPrice (decimalJs parseDate) options bestAsk' ∧
        min (exitTarget (decimalJs parseDate) options rule held) (exitChunk (decimalJs parseDate) options bestAsk)
          = min (exitTarget (decimalJs parseDate) options rule' held')
            (exitChunk (decimalJs parseDate) options bestAsk') := by
    rw [hintent, hintent']
    exact (createIdempotencyKey_inj (printedDecimals _ _ (hprice _) (hquantity _ _ _))
      (printedDecimals _ _ (hprice _) (hquantity _ _ _))).trans
      (and_congr_right fun _ => and_congr_right fun _ =>
        printedSizing_inj (hprice _) (hprice _) (hquantity _ _ _) (hquantity _ _ _))
  have hids : (normalizeLiveOpsExitRuntimeIntent hexPrefix ⟨none, runtimeObservedAt⟩ intent).idempotencyKey
      = (normalizeLiveOpsExitRuntimeIntent hexPrefix ⟨none, runtimeObservedAt'⟩ intent').idempotencyKey ↔
      intent.idempotencyKey = intent'.idempotencyKey := by
    have hid : (normalizeLiveOpsExitRuntimeIntent hexPrefix ⟨none, runtimeObservedAt⟩ intent).idempotencyKey
        = "ops-" ++ hexPrefix intent.idempotencyKey := by
      have hhead : ∃ cs, intent.idempotencyKey.toList = 'l' :: cs := by
        rw [hintent]
        exact createIdempotencyKey_head _ _ _ _
      obtain ⟨cs, hcs⟩ := hhead
      exact attemptId_of_sell h.side hcs
    have hid' : (normalizeLiveOpsExitRuntimeIntent hexPrefix ⟨none, runtimeObservedAt'⟩ intent').idempotencyKey
        = "ops-" ++ hexPrefix intent'.idempotencyKey := by
      have hhead : ∃ cs, intent'.idempotencyKey.toList = 'l' :: cs := by
        rw [hintent']
        exact createIdempotencyKey_head _ _ _ _
      obtain ⟨cs, hcs⟩ := hhead
      exact attemptId_of_sell h'.side hcs
    rw [hid, hid', String.append_right_inj]
    exact ⟨hhash, congrArg hexPrefix⟩
  rw [ne_eq, hids, hkeys]
  constructor
  · intro hne
    by_contra hno
    simp only [not_or, not_not, ne_eq, not_and, not_lt] at hno
    obtain ⟨hdate, hrule, hsame, htargets⟩ := hno
    have hchunk : exitChunk (decimalJs parseDate) options bestAsk = exitChunk (decimalJs parseDate) options bestAsk' := by
      unfold exitChunk
      rw [hsame]
    refine hne ⟨hdate, hrule, hsame, ?_⟩
    rw [← hchunk, min_eq_min_iff]
    exact or_iff_not_imp_left.2 fun htarget => htargets htarget
  · rintro hdiffer ⟨hdate, hrule, hsame, hmin⟩
    have hchunk : exitChunk (decimalJs parseDate) options bestAsk = exitChunk (decimalJs parseDate) options bestAsk' := by
      unfold exitChunk
      rw [hsame]
    rw [← hchunk, min_eq_min_iff] at hmin
    rcases hdiffer with hne | hne | hne | ⟨hne, hbelow⟩
    · exact hne hdate
    · exact hne hrule
    · exact hne hsame
    · rcases hmin with heq | ⟨hle, hle'⟩
      · exact hne heq
      · rcases hbelow with hlt | hlt
        · exact absurd hlt (not_lt.2 hle)
        · exact absurd hlt (not_lt.2 hle')

end Keys

/-! ## Equal chunks -/

section Sample

local instance attemptHost : Host := chunkHost

local instance attemptHost_decimals : Host.Decimals chunkHost := decimalHost_decimals

/-- the SELL keys of a tick -/
def sellKeys (context : StrategyContext) : Option (List (String × OrderSide)) :=
  (evaluateAutonomous24x7 (decimalJs fun _ => none) context chunkOptions).toOption.map fun decision =>
    decision.orderIntents.map fun intent => (intent.idempotencyKey, intent.side)

theorem proposesSell_of_key {context : StrategyContext} {key : String} (h : sellKeys context = some [(key, .sell)]) :
    ∃ intent, ProposesSell (decimalJs fun _ => none) chunkOptions context intent ∧ intent.idempotencyKey = key := by
  unfold sellKeys at h
  cases hdecision : evaluateAutonomous24x7 (decimalJs fun _ => none) context chunkOptions with
  | error error =>
    rw [hdecision] at h
    cases h
  | ok decision =>
    rw [hdecision] at h
    have hkeys : decision.orderIntents.map (fun intent => (intent.idempotencyKey, intent.side)) = [(key, .sell)] :=
      Option.some.inj h
    obtain ⟨intent, hintents, hintent⟩ := List.map_eq_singleton_iff.1 hkeys
    obtain ⟨hkey, hside⟩ := Prod.mk.inj hintent
    exact ⟨intent, ⟨⟨decision, hdecision, hintents ▸ List.mem_singleton.2 rfl⟩, hside⟩, hkey⟩

/-- six units, two sold, four left, two sold again under the same identifier -/
theorem equal_chunks_one_attempt : ∃ (options : NormalizedOptions) (first second : StrategyContext) (held : ℚ)
    (chunk next : ExecutionIntent),
    normalizeOptions (sampleOptions "8000" "1000") = .ok options ∧
    ProposesSell (decimalJs fun _ => none) options first chunk ∧
    ProposesSell (decimalJs fun _ => none) options second next ∧
    HeldQuantity first.positions held ∧
    HeldQuantity second.positions
      (held - sold (evaluateAutonomous24x7 (decimalJs fun _ => none) first options)) ∧
    held - sold (evaluateAutonomous24x7 (decimalJs fun _ => none) first options) ≠ held ∧
    ∀ hexPrefix runtimeObservedAt,
      (normalizeLiveOpsExitRuntimeIntent hexPrefix ⟨none, runtimeObservedAt⟩ chunk).idempotencyKey
        = (normalizeLiveOpsExitRuntimeIntent hexPrefix ⟨none, runtimeObservedAt⟩ next).idempotencyKey := by
  have hfirst : sellKeys (sampleContext "2000" "3000" "6" "100000") = some [("live_ops_autonomous_24x7_core:2026-05-19:" ++
      "upbit_krw_spot:KRW-BTC:SELL:autonomous_24x7_stop_loss:4000:2:8000", .sell)] := by
    decide +kernel
  have hsecond : sellKeys (sampleContext "2000" "3000" "4" "100000") = some [("live_ops_autonomous_24x7_core:2026-05-19:" ++
      "upbit_krw_spot:KRW-BTC:SELL:autonomous_24x7_stop_loss:4000:2:8000", .sell)] := by
    decide +kernel
  have hsold : (6 : ℚ) - sold (evaluateAutonomous24x7 (decimalJs fun _ => none)
      (sampleContext "2000" "3000" "6" "100000") chunkOptions) = 4 := by
    decide +kernel
  obtain ⟨chunk, hchunk, hkey⟩ := proposesSell_of_key hfirst
  obtain ⟨next, hnext, hkey'⟩ := proposesSell_of_key hsecond
  refine ⟨chunkOptions, _, _, 6, chunk, next, normalizeOptions_chunk, hchunk, hnext, ⟨_, rfl, by decide +kernel⟩, ?_, ?_, ?_⟩
  · rw [hsold]
    exact ⟨_, rfl, by decide +kernel⟩
  · rw [hsold]
    norm_num
  · intro hexPrefix runtimeObservedAt
    have hid : createStableLiveOpsAttemptId hexPrefix ⟨none, runtimeObservedAt⟩ chunk = "ops-" ++ hexPrefix _ :=
      attemptId_of_sell hchunk.side (by rw [hkey]; rfl)
    have hid' : createStableLiveOpsAttemptId hexPrefix ⟨none, runtimeObservedAt⟩ next = "ops-" ++ hexPrefix _ :=
      attemptId_of_sell hnext.side (by rw [hkey']; rfl)
    exact hid.trans ((congrArg _ (congrArg hexPrefix (hkey.trans hkey'.symm))).trans hid'.symm)

/-- the book moves between the chunks, and the second one has an identifier of its own -/
theorem exit_attempts_distinct_moved : ∃ chunk next,
    ProposesSell (decimalJs fun _ => none) chunkOptions (sampleContext "2000" "3000" "4" "100000") chunk ∧
    ProposesSell (decimalJs fun _ => none) chunkOptions (sampleContext "2000" "4000" "2" "100000") next ∧
    (normalizeLiveOpsExitRuntimeIntent id ⟨none, ""⟩ chunk).idempotencyKey
      ≠ (normalizeLiveOpsExitRuntimeIntent id ⟨none, ""⟩ next).idempotencyKey := by
  have hfirst : sellKeys (sampleContext "2000" "3000" "4" "100000") = some [("live_ops_autonomous_24x7_core:2026-05-19:" ++
      "upbit_krw_spot:KRW-BTC:SELL:autonomous_24x7_stop_loss:4000:2:8000", .sell)] := by
    decide +kernel
  have hsecond : sellKeys (sampleContext "2000" "4000" "2" "100000") = some [("live_ops_autonomous_24x7_core:2026-05-19:" ++
      "upbit_krw_spot:KRW-BTC:SELL:autonomous_24x7_stop_loss:5000:1.6:8000", .sell)] := by
    decide +kernel
  have hsummary : tickSummary chunkBook (sampleContext "2000" "3000" "4" "100000") = some (4, .stopLoss) := by
    decide +kernel
  have hsummary' : tickSummary ⟨"upbit_krw_spot", "KRW-BTC", [⟨"4000", "1"⟩], [⟨"2000", "1"⟩], .nanos 0⟩
      (sampleContext "2000" "4000" "2" "100000") = some (2, .stopLoss) := by
    decide +kernel
  obtain ⟨chunk, hchunk, -⟩ := proposesSell_of_key hfirst
  obtain ⟨next, hnext, -⟩ := proposesSell_of_key hsecond
  obtain ⟨position, bestBid, exitRule, hreads, hquantity, hbid, hrule, hkind⟩ := tickSummary_reads hsummary
  obtain ⟨position', bestBid', exitRule', hreads', hquantity', hbid', hrule', hkind'⟩ := tickSummary_reads hsummary'
  have hinputs : ExitInputs (decimalJs fun _ => none) chunkOptions (sampleContext "2000" "3000" "4" "100000") 3000 4
      .stopLoss :=
    ⟨_, position, bestBid, exitRule, rfl, hreads, hquantity, hbid, by decide +kernel, hrule, hkind⟩
  have hinputs' : ExitInputs (decimalJs fun _ => none) chunkOptions (sampleContext "2000" "4000" "2" "100000") 4000 2
      .stopLoss :=
    ⟨_, position', bestBid', exitRule', rfl, hreads', hquantity', hbid', by decide +kernel, hrule', hkind'⟩
  refine ⟨chunk, next, hchunk, hnext, ?_⟩
  rw [exit_attempts_distinct_iff hchunk hnext hinputs hinputs' id]
  exact Or.inr (Or.inr (Or.inl (by decide +kernel)))

end Sample

end SeeMirai.Live.Autonomous24x7
