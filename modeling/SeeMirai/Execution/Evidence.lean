/-
The order fingerprint that cost and risk evidence carry (application/execution/execution-engine/evidence-fingerprint.ts).
`createOrderIntentEvidence` makes the fingerprint of an intent, `compareOrderIntentEvidence` lists the fields in which a
stored fingerprint differs from the runtime one. A stored fingerprint is untyped JSON: any field may be missing, of
another type, or spelled differently.

Results:
- `compareOrderIntentEvidence_eq_nil`: no mismatch exactly when the thirteen fields agree after normalisation.
- `SameOrder`: two intents with their expected losses are the same order as far as execution can tell.
- `sameOrder_of_agrees`: two runtime fingerprints that agree with one stored fingerprint are of the same order.
- `createOrderIntentEvidence_eq_of_agrees`: a fingerprint that agrees with a fingerprint is that fingerprint.
-/
import SeeMirai.Shared.Orders
import SeeMirai.Lib.JsValue

namespace SeeMirai.Execution

/-! ## Model -/

def sideText : OrderSide → String
  | .buy => "BUY"
  | .sell => "SELL"

def orderTypeText : OrderType → String
  | .limit => "LIMIT"
  | .market => "MARKET"

def timeInForceText : TimeInForce → String
  | .gtc => "GTC"
  | .ioc => "IOC"
  | .fok => "FOK"
  | .postOnly => "POST_ONLY"

theorem sideText_inj {a b : OrderSide} (h : sideText a = sideText b) : a = b := by
  cases a <;> cases b <;> first | rfl | (simp [sideText] at h)

theorem orderTypeText_inj {a b : OrderType} (h : orderTypeText a = orderTypeText b) : a = b := by
  cases a <;> cases b <;> first | rfl | (simp [orderTypeText] at h)

theorem timeInForceText_inj {a b : TimeInForce} (h : timeInForceText a = timeInForceText b) : a = b := by
  cases a <;> cases b <;> first | rfl | (simp [timeInForceText] at h)

/-- `postOnly` of a LIMIT order -/
def postOnlyOf : OrderTerms → Option Bool
  | .limit _ postOnly _ => some postOnly
  | .market => none

/-- the time in force of a LIMIT order, GTC where it is missing -/
def timeInForceOf : OrderTerms → Option TimeInForce
  | .limit _ _ timeInForce => some (timeInForce.getD .gtc)
  | .market => none

/-- an order intent with the untyped metadata that execution reads -/
structure ExecutionIntent extends OrderIntent where
  metadata : JsValue

structure ExecutionSubmission where
  intent : ExecutionIntent
  costSnapshot : JsValue
  riskApproval : JsValue
  expectedLossBpsOfEquity : Option String
  submittedAt : MarketTimestamp

def readStringMetadata (metadata : JsValue) (key : String) : Option String := (metadata.prop key).asString

def readOrderIntentPositionEffect (intent : ExecutionIntent) : Option String :=
  (readStringMetadata intent.metadata "position_effect").or (readStringMetadata intent.metadata "positionEffect")

def readOrderIntentExpectedLossBps (intent : ExecutionIntent) : Option String :=
  (readStringMetadata intent.metadata "expected_loss_bps_of_equity").or
    (readStringMetadata intent.metadata "expectedLossBpsOfEquity")

/-- the top-level value wins over the legacy metadata -/
def readSubmissionExpectedLossBps (submission : ExecutionSubmission) : Option String :=
  submission.expectedLossBpsOfEquity.or (readOrderIntentExpectedLossBps submission.intent)

/-- anything but REDUCE and EXIT counts as an entry -/
def isEntryMarketOrderIntent (intent : ExecutionIntent) : Bool :=
  readOrderIntentPositionEffect intent ≠ some "REDUCE" ∧ readOrderIntentPositionEffect intent ≠ some "EXIT"

/-- both sides of one field that differs -/
def appendMismatch (target : JsonRecord) (fieldName : String) (same : Bool) (evidence runtime : JsValue) : JsonRecord :=
  if same then target else target ++ [(fieldName ++ "_evidence", evidence), (fieldName ++ "_runtime", runtime)]

def appendStringMismatch (target : JsonRecord) (fieldName : String) (evidenceValue : JsValue)
    (runtimeValue : Option String) : JsonRecord :=
  appendMismatch target fieldName (evidenceValue.asString = runtimeValue) (.ofString evidenceValue.asString)
    (.ofString runtimeValue)

def appendBooleanMismatch (target : JsonRecord) (fieldName : String) (evidenceValue : JsValue)
    (runtimeValue : Option Bool) : JsonRecord :=
  appendMismatch target fieldName (evidenceValue.asBoolean = runtimeValue) (.ofBoolean evidenceValue.asBoolean)
    (.ofBoolean runtimeValue)

theorem appendMismatch_eq_nil {target : JsonRecord} {fieldName : String} {same : Bool} {evidence runtime : JsValue} :
    appendMismatch target fieldName same evidence runtime = [] ↔ target = [] ∧ same = true := by
  unfold appendMismatch
  split_ifs with hsame
  · simp [hsame]
  · simp [hsame]

theorem required_agree {a b : Option String} : (a.isSome ∧ b.isSome ∧ a = b) ↔ ∃ text, a = some text ∧ b = some text := by
  cases a <;> cases b <;> simp [eq_comm]

section Evidence

variable [Host]

/-- a text that is no decimal stays as it is -/
def normalizeFinancialDecimalString (value : String) : String :=
  match parseFinancialDecimal value with
  | .ok q => Host.toFixed q
  | .error _ => value

def readNormalizedFinancialDecimalString (value : Option String) : Option String :=
  match value with
  | none => none
  | some value =>
    match parseFinancialDecimal value with
    | .ok q => some (Host.toFixed q)
    | .error _ => none

def appendDecimalMismatch (target : JsonRecord) (fieldName : String) (evidenceValue : JsValue)
    (runtimeValue : Option String) : JsonRecord :=
  let normalizedEvidenceValue := evidenceValue.asString.map normalizeFinancialDecimalString
  let normalizedRuntimeValue := runtimeValue.map normalizeFinancialDecimalString
  appendMismatch target fieldName (normalizedEvidenceValue = normalizedRuntimeValue) (.ofString normalizedEvidenceValue)
    (.ofString normalizedRuntimeValue)

/-- a value missing on either side is a mismatch too, recorded as null -/
def appendRequiredDecimalMismatch (target : JsonRecord) (fieldName : String) (evidenceValue : JsValue)
    (runtimeValue : Option String) : JsonRecord :=
  let normalizedEvidenceValue := readNormalizedFinancialDecimalString evidenceValue.asString
  let normalizedRuntimeValue := readNormalizedFinancialDecimalString runtimeValue
  let orNull (value : Option String) : JsValue := value.elim .null .string
  appendMismatch target fieldName
    (normalizedEvidenceValue.isSome ∧ normalizedRuntimeValue.isSome ∧ normalizedEvidenceValue = normalizedRuntimeValue)
    (orNull normalizedEvidenceValue) (orNull normalizedRuntimeValue)

/-- a property that is there only where its value is known -/
def optionalField (fieldName : String) (value : Option String) : JsonRecord :=
  match value with
  | some value => [(fieldName, .string value)]
  | none => []

/-- the LIMIT options; a missing time in force is GTC -/
def limitEvidence : OrderTerms → JsonRecord
  | .limit requestedPrice postOnly timeInForce =>
    [("requested_price", .string (normalizeFinancialDecimalString requestedPrice)), ("post_only", .bool postOnly),
      ("time_in_force", .string (timeInForceText (timeInForce.getD .gtc)))]
  | .market => []

/-- the fingerprint of an intent -/
def createOrderIntentEvidence (intent : ExecutionIntent) (expectedLossBpsOfEquity : Option String) : JsonRecord :=
  [("exchange_id", .string intent.exchangeId), ("market", .string intent.market),
    ("strategy_id", .string intent.strategyId), ("side", .string (sideText intent.side)),
    ("order_type", .string (orderTypeText intent.terms.orderType)),
    ("requested_quantity", .string (normalizeFinancialDecimalString intent.requestedQuantity)),
    ("requested_notional", .string (normalizeFinancialDecimalString intent.requestedNotional)),
    ("idempotency_key", .string intent.idempotencyKey)]
  ++ optionalField "position_effect" (readOrderIntentPositionEffect intent)
  ++ limitEvidence intent.terms
  ++ optionalField "expected_loss_bps_of_equity" (expectedLossBpsOfEquity.map normalizeFinancialDecimalString)

/-- what a stored fingerprint and the runtime one differ in; empty where they agree -/
def compareOrderIntentEvidence (evidence runtime : JsValue) : JsonRecord :=
  let string (target : JsonRecord) (field : String) : JsonRecord :=
    appendStringMismatch target field (evidence.prop field) (runtime.prop field).asString
  let boolean (target : JsonRecord) (field : String) : JsonRecord :=
    appendBooleanMismatch target field (evidence.prop field) (runtime.prop field).asBoolean
  let decimal (target : JsonRecord) (field : String) : JsonRecord :=
    appendDecimalMismatch target field (evidence.prop field) (runtime.prop field).asString
  let requiredDecimal (target : JsonRecord) (field : String) : JsonRecord :=
    appendRequiredDecimalMismatch target field (evidence.prop field) (runtime.prop field).asString
  let target := string [] "exchange_id"
  let target := string target "market"
  let target := string target "strategy_id"
  let target := string target "side"
  let target := string target "order_type"
  let target := string target "idempotency_key"
  let target := string target "position_effect"
  let target := boolean target "post_only"
  let target := string target "time_in_force"
  let target := decimal target "requested_quantity"
  let target := decimal target "requested_notional"
  let target := decimal target "requested_price"
  requiredDecimal target "expected_loss_bps_of_equity"

/-! ## No mismatch -/

def stringFields : List String :=
  ["exchange_id", "market", "strategy_id", "side", "order_type", "idempotency_key", "position_effect", "time_in_force"]

def decimalFields : List String := ["requested_quantity", "requested_notional", "requested_price"]

/-- the fields of two fingerprints agree after normalisation; the expected loss has to be there -/
structure Agrees (evidence runtime : JsValue) : Prop where
  string : ∀ field ∈ stringFields, (evidence.prop field).asString = (runtime.prop field).asString
  postOnly : (evidence.prop "post_only").asBoolean = (runtime.prop "post_only").asBoolean
  decimal : ∀ field ∈ decimalFields,
    (evidence.prop field).asString.map normalizeFinancialDecimalString
      = (runtime.prop field).asString.map normalizeFinancialDecimalString
  expectedLoss : ∃ text,
    readNormalizedFinancialDecimalString (evidence.prop "expected_loss_bps_of_equity").asString = some text ∧
      readNormalizedFinancialDecimalString (runtime.prop "expected_loss_bps_of_equity").asString = some text

theorem compareOrderIntentEvidence_eq_nil {evidence runtime : JsValue} :
    compareOrderIntentEvidence evidence runtime = [] ↔ Agrees evidence runtime := by
  unfold compareOrderIntentEvidence
  simp only [appendStringMismatch, appendBooleanMismatch, appendDecimalMismatch, appendRequiredDecimalMismatch,
    appendMismatch_eq_nil, true_and, decide_eq_true_eq, required_agree]
  constructor
  · rintro ⟨⟨⟨⟨⟨⟨⟨⟨⟨⟨⟨⟨hexchange, hmarket⟩, hstrategy⟩, hside⟩, htype⟩, hkey⟩, heffect⟩, hpost⟩, htif⟩, hquantity⟩,
      hnotional⟩, hprice⟩, hloss⟩
    refine ⟨?_, hpost, ?_, hloss⟩
    · simp only [stringFields, List.mem_cons, List.not_mem_nil, or_false]
      rintro field (rfl | rfl | rfl | rfl | rfl | rfl | rfl | rfl) <;> assumption
    · simp only [decimalFields, List.mem_cons, List.not_mem_nil, or_false]
      rintro field (rfl | rfl | rfl) <;> assumption
  · rintro ⟨hstring, hpost, hdecimal, hloss⟩
    simp only [stringFields, List.forall_mem_cons] at hstring
    simp only [decimalFields, List.forall_mem_cons] at hdecimal
    obtain ⟨hexchange, hmarket, hstrategy, hside, htype, hkey, heffect, htif, -⟩ := hstring
    obtain ⟨hquantity, hnotional, hprice, -⟩ := hdecimal
    exact ⟨⟨⟨⟨⟨⟨⟨⟨⟨⟨⟨⟨hexchange, hmarket⟩, hstrategy⟩, hside⟩, htype⟩, hkey⟩, heffect⟩, hpost⟩, htif⟩, hquantity⟩,
      hnotional⟩, hprice⟩, hloss⟩

/-! ## Reading a fingerprint back -/

/-- the fingerprint as the comparison sees it -/
def fingerprint (intent : ExecutionIntent) (loss : Option String) : JsValue :=
  .object (createOrderIntentEvidence intent loss)

/-- what the comparison reads in the fingerprint of an intent -/
structure Reads (intent : ExecutionIntent) (loss : Option String) (runtime : JsValue) : Prop where
  exchangeId : (runtime.prop "exchange_id").asString = some intent.exchangeId
  market : (runtime.prop "market").asString = some intent.market
  strategyId : (runtime.prop "strategy_id").asString = some intent.strategyId
  side : (runtime.prop "side").asString = some (sideText intent.side)
  orderType : (runtime.prop "order_type").asString = some (orderTypeText intent.terms.orderType)
  idempotencyKey : (runtime.prop "idempotency_key").asString = some intent.idempotencyKey
  positionEffect : (runtime.prop "position_effect").asString = readOrderIntentPositionEffect intent
  postOnly : (runtime.prop "post_only").asBoolean = postOnlyOf intent.terms
  timeInForce : (runtime.prop "time_in_force").asString = (timeInForceOf intent.terms).map timeInForceText
  quantity : (runtime.prop "requested_quantity").asString
    = some (normalizeFinancialDecimalString intent.requestedQuantity)
  notional : (runtime.prop "requested_notional").asString
    = some (normalizeFinancialDecimalString intent.requestedNotional)
  price : (runtime.prop "requested_price").asString = intent.terms.requestedPrice.map normalizeFinancialDecimalString
  expectedLoss : (runtime.prop "expected_loss_bps_of_equity").asString = loss.map normalizeFinancialDecimalString

theorem fingerprint_reads (intent : ExecutionIntent) (loss : Option String) :
    Reads intent loss (fingerprint intent loss) := by
  have hprop : ∀ field, (fingerprint intent loss).prop field = (assocGet (createOrderIntentEvidence intent loss) field).getD
      JsValue.undefined := fun _ => rfl
  constructor <;> rw [hprop] <;> simp only [createOrderIntentEvidence, assocGet_append]
  all_goals
    cases readOrderIntentPositionEffect intent <;> cases intent.terms <;> cases loss <;>
      simp [assocGet, optionalField, limitEvidence, JsValue.asString, JsValue.asBoolean, postOnlyOf,
        timeInForceOf, OrderTerms.requestedPrice]

/-! ## Same order -/

/-- two texts of one decimal -/
def SameDecimal (a b : String) : Prop := ∃ q, Host.valueOf a = some q ∧ Host.valueOf b = some q

/-- the amounts of an intent are decimals -/
structure Readable (intent : ExecutionIntent) : Prop where
  quantity : ∃ q, Host.valueOf intent.requestedQuantity = some q
  notional : ∃ q, Host.valueOf intent.requestedNotional = some q
  price : ∀ price, intent.terms.requestedPrice = some price → ∃ q, Host.valueOf price = some q

/-- one order as far as execution can tell: only the spelling of decimals and of defaults may differ -/
structure SameOrder (a b : ExecutionIntent) (lossA lossB : Option String) : Prop where
  exchangeId : a.exchangeId = b.exchangeId
  market : a.market = b.market
  strategyId : a.strategyId = b.strategyId
  side : a.side = b.side
  orderType : a.terms.orderType = b.terms.orderType
  idempotencyKey : a.idempotencyKey = b.idempotencyKey
  positionEffect : readOrderIntentPositionEffect a = readOrderIntentPositionEffect b
  postOnly : postOnlyOf a.terms = postOnlyOf b.terms
  timeInForce : timeInForceOf a.terms = timeInForceOf b.terms
  quantity : SameDecimal a.requestedQuantity b.requestedQuantity
  notional : SameDecimal a.requestedNotional b.requestedNotional
  price : Option.Rel SameDecimal a.terms.requestedPrice b.terms.requestedPrice
  expectedLoss : ∃ textA textB, lossA = some textA ∧ lossB = some textB ∧ SameDecimal textA textB

theorem normalize_of_valueOf {s : String} {q : ℚ} (h : Host.valueOf s = some q) :
    normalizeFinancialDecimalString s = Host.toFixed q := by
  simp [normalizeFinancialDecimalString, parseFinancialDecimal_eq_ok.2 h]

/-- a text that is no decimal is its own normal form -/
theorem normalize_of_valueOf_none {s : String} (h : Host.valueOf s = none) : normalizeFinancialDecimalString s = s := by
  unfold normalizeFinancialDecimalString
  split
  · rename_i q hq
    rw [parseFinancialDecimal_eq_ok.1 hq] at h
    cases h
  · rfl

theorem readNormalized_eq_some {value : Option String} {text : String} :
    readNormalizedFinancialDecimalString value = some text ↔
      ∃ s q, value = some s ∧ Host.valueOf s = some q ∧ Host.toFixed q = text := by
  cases value with
  | none => simp [readNormalizedFinancialDecimalString]
  | some s =>
    cases hs : parseFinancialDecimal s with
    | ok q =>
      have hq := parseFinancialDecimal_eq_ok.1 hs
      simp [readNormalizedFinancialDecimalString, hs, hq]
    | error e =>
      have hnone : ∀ q, Host.valueOf s ≠ some q := fun q hq => by
        rw [parseFinancialDecimal_eq_ok.2 hq] at hs
        cases hs
      simp [readNormalizedFinancialDecimalString, hs, hnone]

theorem SameDecimal.normalize_eq {a b : String} (h : SameDecimal a b) :
    normalizeFinancialDecimalString a = normalizeFinancialDecimalString b := by
  obtain ⟨q, ha, hb⟩ := h
  rw [normalize_of_valueOf ha, normalize_of_valueOf hb]

theorem SameOrder.limitEvidence_eq {a b : ExecutionIntent} {lossA lossB : Option String}
    (h : SameOrder a b lossA lossB) : limitEvidence a.terms = limitEvidence b.terms := by
  have hpost := h.postOnly
  have htif := h.timeInForce
  have hprice := h.price
  cases ha : a.terms with
  | market =>
    cases hb : b.terms with
    | market => rfl
    | limit priceB postB tifB => simp [postOnlyOf, ha, hb] at hpost
  | limit priceA postA tifA =>
    cases hb : b.terms with
    | market => simp [postOnlyOf, ha, hb] at hpost
    | limit priceB postB tifB =>
      simp only [ha, hb, postOnlyOf, timeInForceOf, OrderTerms.requestedPrice, Option.some.injEq] at hpost htif hprice
      cases hprice with
      | some hprice => simp only [limitEvidence, hpost, htif, hprice.normalize_eq]

theorem SameOrder.createOrderIntentEvidence_eq {a b : ExecutionIntent} {lossA lossB : Option String}
    (h : SameOrder a b lossA lossB) : createOrderIntentEvidence a lossA = createOrderIntentEvidence b lossB := by
  obtain ⟨textA, textB, hA, hB, hloss⟩ := h.expectedLoss
  unfold createOrderIntentEvidence
  rw [h.limitEvidence_eq, h.exchangeId, h.market, h.strategyId, h.side, h.orderType, h.idempotencyKey, h.positionEffect,
    h.quantity.normalize_eq, h.notional.normalize_eq, hA, hB, Option.map_some, Option.map_some, hloss.normalize_eq]

end Evidence

section Prints

variable [H : Host] [H.Prints]

theorem sameDecimal_of_normalize {a b : String} (ha : ∃ q, Host.valueOf a = some q)
    (hb : ∃ q, Host.valueOf b = some q)
    (h : normalizeFinancialDecimalString (normalizeFinancialDecimalString a)
      = normalizeFinancialDecimalString (normalizeFinancialDecimalString b)) : SameDecimal a b := by
  obtain ⟨qa, ha⟩ := ha
  obtain ⟨qb, hb⟩ := hb
  -- printing a second time changes nothing
  rw [normalize_of_valueOf ha, normalize_of_valueOf hb, normalize_of_valueOf (Host.Prints.read_toFixed ha),
    normalize_of_valueOf (Host.Prints.read_toFixed hb)] at h
  exact ⟨qa, ha, Host.toFixed_inj ha hb h ▸ hb⟩

theorem valueOf_of_normalize {s : String} {q : ℚ} (h : Host.valueOf (normalizeFinancialDecimalString s) = some q) :
    Host.valueOf s = some q := by
  cases hs : Host.valueOf s with
  | some q' => rwa [normalize_of_valueOf hs, Host.Prints.read_toFixed hs] at h
  | none =>
    rw [normalize_of_valueOf_none hs, hs] at h
    cases h

/-- a recorded loss was a decimal when it was recorded -/
theorem expectedLoss_of_recorded {loss : Option String} {text : String}
    (h : readNormalizedFinancialDecimalString (loss.map normalizeFinancialDecimalString) = some text) :
    ∃ s q, loss = some s ∧ Host.valueOf s = some q ∧ Host.toFixed q = text := by
  obtain ⟨t, q, ht, hq, htext⟩ := readNormalized_eq_some.1 h
  obtain ⟨s, rfl, rfl⟩ := Option.map_eq_some_iff.1 ht
  exact ⟨s, q, rfl, valueOf_of_normalize hq, htext⟩

/-- **One stored fingerprint, one order.** Two intents whose fingerprints agree with the same stored one are the same
order. -/
theorem sameOrder_of_agrees {evidence : JsValue} {a b : ExecutionIntent} {lossA lossB : Option String}
    (hreadA : Readable a) (hreadB : Readable b) (ha : Agrees evidence (fingerprint a lossA))
    (hb : Agrees evidence (fingerprint b lossB)) : SameOrder a b lossA lossB := by
  have fa := fingerprint_reads a lossA
  have fb := fingerprint_reads b lossB
  have hstring : ∀ field ∈ stringFields,
      ((fingerprint a lossA).prop field).asString = ((fingerprint b lossB).prop field).asString :=
    fun field hfield => (ha.string field hfield).symm.trans (hb.string field hfield)
  have hdecimal : ∀ field ∈ decimalFields,
      ((fingerprint a lossA).prop field).asString.map normalizeFinancialDecimalString
        = ((fingerprint b lossB).prop field).asString.map normalizeFinancialDecimalString :=
    fun field hfield => (ha.decimal field hfield).symm.trans (hb.decimal field hfield)
  simp only [stringFields, List.forall_mem_cons, fa.exchangeId, fb.exchangeId, fa.market, fb.market, fa.strategyId,
    fb.strategyId, fa.side, fb.side, fa.orderType, fb.orderType, fa.idempotencyKey, fb.idempotencyKey,
    fa.positionEffect, fb.positionEffect, fa.timeInForce, fb.timeInForce, Option.some.injEq] at hstring
  simp only [decimalFields, List.forall_mem_cons, fa.quantity, fb.quantity, fa.notional, fb.notional, fa.price, fb.price,
    Option.map_some, Option.some.injEq, Option.map_map] at hdecimal
  obtain ⟨hexchange, hmarket, hstrategy, hside, htype, hkey, heffect, htif, -⟩ := hstring
  obtain ⟨hquantity, hnotional, hprice, -⟩ := hdecimal
  obtain ⟨text, htext, hlossA⟩ := ha.expectedLoss
  obtain ⟨text', htext', hlossB⟩ := hb.expectedLoss
  obtain rfl : text = text' := Option.some.inj (htext.symm.trans htext')
  rw [fa.expectedLoss] at hlossA
  rw [fb.expectedLoss] at hlossB
  obtain ⟨la, qa, hla, hqa, hta⟩ := expectedLoss_of_recorded hlossA
  obtain ⟨lb, qb, hlb, hqb, htb⟩ := expectedLoss_of_recorded hlossB
  exact
    { exchangeId := hexchange
      market := hmarket
      strategyId := hstrategy
      side := sideText_inj hside
      orderType := orderTypeText_inj htype
      idempotencyKey := hkey
      positionEffect := heffect
      postOnly := by
        have hpost := ha.postOnly.symm.trans hb.postOnly
        rwa [fa.postOnly, fb.postOnly] at hpost
      timeInForce := Option.map_injective (fun _ _ => timeInForceText_inj) htif
      quantity := sameDecimal_of_normalize hreadA.quantity hreadB.quantity hquantity
      notional := sameDecimal_of_normalize hreadA.notional hreadB.notional hnotional
      price := by
        cases hpa : a.terms.requestedPrice with
        | none =>
          cases hpb : b.terms.requestedPrice with
          | none => exact Option.Rel.none
          | some pb => simp [hpa, hpb] at hprice
        | some pa =>
          cases hpb : b.terms.requestedPrice with
          | none => simp [hpa, hpb] at hprice
          | some pb =>
            simp only [hpa, hpb, Option.map_some, Option.some.injEq] at hprice
            exact Option.Rel.some (sameDecimal_of_normalize (hreadA.price pa hpa) (hreadB.price pb hpb) hprice)
      expectedLoss := ⟨la, lb, hla, hlb, qa, hqa, Host.toFixed_inj hqa hqb (hta.trans htb.symm) ▸ hqb⟩ }

/-- a fingerprint that agrees with a fingerprint is that fingerprint -/
theorem createOrderIntentEvidence_eq_of_agrees {a b : ExecutionIntent} {lossA lossB : Option String}
    (hreadA : Readable a) (hreadB : Readable b) (h : Agrees (fingerprint a lossA) (fingerprint b lossB)) :
    createOrderIntentEvidence a lossA = createOrderIntentEvidence b lossB := by
  obtain ⟨text, htext, -⟩ := h.expectedLoss
  have hself : Agrees (fingerprint a lossA) (fingerprint a lossA) :=
    ⟨fun _ _ => rfl, rfl, fun _ _ => rfl, text, htext, htext⟩
  exact (sameOrder_of_agrees hreadA hreadB hself h).createOrderIntentEvidence_eq

end Prints

end SeeMirai.Execution
