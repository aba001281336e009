/-
Is a suppressed duplicate really one? Two intents with equal fingerprints, `createSubmissionFingerprint` of the paper
broker or `createOrderIntentEvidence` of the execution engine, ought to be filled alike on the same orderbooks. Both
fingerprints spell a missing time in force as GTC, while `simulatePaperFill` takes it from the broker's configuration
(`defaultTimeInForce`). They agree exactly when that configuration says GTC too, or cannot be simulated with at all.

Results:
- `SameExecution`: what the simulator reads of an intent; `sameExecution_of_fingerprint`: either fingerprint fixes it.
- `simulatePaperFill_congr`: intents that are executed alike under the effective time in force are filled alike.
- `fingerprint_sound_iff`: the configurations under which equal fingerprints mean equal fills.
- `ioc_default_splits_duplicates`: with IOC as the default, an intent without a time in force is canceled where its
  GTC duplicate stays open.
-/
import SeeMirai.Paper.Broker
import SeeMirai.Execution.Evidence

namespace SeeMirai.Paper

open Fallible Execution

/-! ## What the simulator reads -/

/-- what the caller of the simulator is interested in -/
structure FillOutcome where
  status : PaperFillSimulationStatus
  orderStatus : OrderLifecycleStatus
  filledQuantity : ℚ
  openQuantity : ℚ
  canceledQuantity : ℚ
  fills : List PaperFill
deriving DecidableEq

def fillOutcome (result : PaperFillSimulationResult) : FillOutcome where
  status := result.status
  orderStatus := result.orderStatus
  filledQuantity := result.filledQuantity
  openQuantity := result.openQuantity
  canceledQuantity := result.canceledQuantity
  fills := result.fills

/-- the snapshot times can be compared with the submission time -/
def Selectable (options : PaperFillSimulatorOptions) : Prop :=
  ∀ submittedAt, options.submittedAt = some submittedAt →
    (∃ nanos, latencyMsToNanos (options.latencyMs.getD (.finite 0)) = .ok nanos) ∧
      ∃ nanos, readTimestampNanos submittedAt = .ok nanos

/-- a BUY of one at a price of one -/
def buyOne (timeInForce : Option TimeInForce) : ExecutionIntent where
  exchangeId := "upbit"
  market := "KRW-BTC"
  strategyId := "trend"
  side := .buy
  requestedQuantity := "1"
  requestedNotional := "1"
  idempotencyKey := "buy-1"
  terms := .limit "1" false timeInForce
  metadata := .undefined

def bookOf (asks bids : List OrderbookLevel) (receivedAt : MarketTimestamp) : OrderbookEvent where
  exchangeId := "upbit"
  market := "KRW-BTC"
  asks := asks
  bids := bids
  receivedAt := receivedAt

/-- a snapshot that comes late enough is selected -/
theorem exists_selected {options : PaperFillSimulatorOptions} (h : Selectable options) (asks bids : List OrderbookLevel) :
    ∃ receivedAt, selectExecutionOrderbook [bookOf asks bids receivedAt] options
      = .ok (some (bookOf asks bids receivedAt)) := by
  unfold selectExecutionOrderbook
  cases hsubmitted : options.submittedAt with
  | none => exact ⟨.nanos 0, rfl⟩
  | some submittedAt =>
    obtain ⟨⟨latency, hlatency⟩, submitted, hread⟩ := h submittedAt hsubmitted
    refine ⟨.nanos (submitted + latency), ?_⟩
    have hbook : readTimestampNanos (bookOf asks bids (.nanos (submitted + latency))).receivedAt
        = .ok (submitted + latency) := rfl
    simp only [List.cons_ne_nil, if_false, hlatency, hread, ok_bind, findReceivedFrom, hbook, le_refl, if_true]
    rfl

/-- a time in force that a missing one stands for, and that is no post-only one unless it was written out -/
theorem postOnly_iff {options : PaperFillSimulatorOptions} (hdefault : options.defaultTimeInForce ≠ some .postOnly)
    {tifA tifB : Option TimeInForce} (htif : tifA.getD .gtc = tifB.getD .gtc) :
    (tifA.or options.defaultTimeInForce).getD .gtc = .postOnly ↔
      (tifB.or options.defaultTimeInForce).getD .gtc = .postOnly := by
  have hnone : options.defaultTimeInForce.getD .gtc ≠ .postOnly := by
    cases hd : options.defaultTimeInForce with
    | none => simp
    | some d => simpa [hd] using hdefault
  cases tifA <;> cases tifB
  · rfl
  · simp only [Option.getD_none, Option.getD_some] at htif
    simp [← htif, hnone]
  · simp only [Option.getD_none, Option.getD_some] at htif
    simp [htif, hnone]
  · simp only [Option.getD_some] at htif
    simp [htif]

theorem selectExecutionOrderbook_unselectable {options : PaperFillSimulatorOptions} (h : ¬ Selectable options)
    {orderbooks : List OrderbookEvent} {orderbook : OrderbookEvent} :
    selectExecutionOrderbook orderbooks options ≠ .ok (some orderbook) := by
  intro hselect
  refine h fun submittedAt hsubmitted => ?_
  unfold selectExecutionOrderbook at hselect
  split_ifs at hselect with hempty
  · simp at hselect
  · simp only [hsubmitted] at hselect
    obtain ⟨latencyNanos, hlatency, hselect⟩ := bind_eq_ok.1 hselect
    obtain ⟨submitted, hread, -⟩ := bind_eq_ok.1 hselect
    exact ⟨⟨latencyNanos, hlatency⟩, submitted, hread⟩

section Soundness

variable [Host]

/-- the fee is a decimal -/
def FeeReadable (options : PaperFillSimulatorOptions) : Prop :=
  ∃ fee, parseFinancialDecimal (options.takerFeeBps.getD "0") = .ok fee

/-- terms that the simulator treats alike, as far as the configuration does not come in -/
inductive SameTerms : OrderTerms → OrderTerms → Prop where
  | market : SameTerms .market .market
  | limit {priceA priceB : String} (postOnly : Bool) {tifA tifB : Option TimeInForce}
      (price : parseFinancialDecimal priceA = parseFinancialDecimal priceB) (tif : tifA.getD .gtc = tifB.getD .gtc) :
      SameTerms (.limit priceA postOnly tifA) (.limit priceB postOnly tifB)

/-- one order in two spellings, a missing time in force being GTC -/
structure SameExecution (a b : OrderIntent) : Prop where
  exchangeId : a.exchangeId = b.exchangeId
  market : a.market = b.market
  side : a.side = b.side
  quantity : parseFinancialDecimal a.requestedQuantity = parseFinancialDecimal b.requestedQuantity
  terms : SameTerms a.terms b.terms

/-- either fingerprint of two intents is the same -/
def SameFingerprint (a b : ExecutionIntent) : Prop :=
  (∃ fingerprint, createSubmissionFingerprint a.toOrderIntent = .ok fingerprint ∧
      createSubmissionFingerprint b.toOrderIntent = .ok fingerprint) ∨
    ∃ lossA lossB, createOrderIntentEvidence a lossA = createOrderIntentEvidence b lossB

/-- equal fingerprints mean equal fills under this configuration, whatever the intents and the orderbooks -/
def FingerprintSound (options : PaperFillSimulatorOptions) : Prop :=
  ∀ (a b : ExecutionIntent) (orderbooks : List OrderbookEvent), SameFingerprint a b →
    fillOutcome <$> simulatePaperFill a.toOrderIntent orderbooks options
      = fillOutcome <$> simulatePaperFill b.toOrderIntent orderbooks options

/-! ## Intents that are executed alike -/

theorem isLimitOrderImmediatelyExecutable_congr {priceA priceB : String}
    (h : parseFinancialDecimal priceA = parseFinancialDecimal priceB) (side : OrderSide) (orderbook : OrderbookEvent) :
    isLimitOrderImmediatelyExecutable side priceA orderbook = isLimitOrderImmediatelyExecutable side priceB orderbook := by
  unfold isLimitOrderImmediatelyExecutable
  rw [h]

theorem calculateExecutableDepth_congr {a b : OrderIntent} (h : SameExecution a b) {priceA priceB : String}
    (hprice : parseFinancialDecimal priceA = parseFinancialDecimal priceB) (orderbook : OrderbookEvent)
    (options : PaperFillSimulatorOptions) :
    calculateExecutableDepth a priceA orderbook options = calculateExecutableDepth b priceB orderbook options := by
  unfold calculateExecutableDepth
  rw [hprice, h.side, h.quantity]

/-- the same effective time in force -/
theorem simulateAgainst_congr {a b : OrderIntent} (h : SameExecution a b) {priceA priceB : String} (postOnly : Bool)
    {tifA tifB : Option TimeInForce} (hprice : parseFinancialDecimal priceA = parseFinancialDecimal priceB)
    (orderbook : OrderbookEvent) (options : PaperFillSimulatorOptions) (quantity : ℚ)
    (htif : (tifA.or options.defaultTimeInForce).getD .gtc = (tifB.or options.defaultTimeInForce).getD .gtc) :
    simulateAgainst a priceA postOnly tifA orderbook options quantity
      = simulateAgainst b priceB postOnly tifB orderbook options quantity := by
  unfold simulateAgainst
  rw [htif, hprice, h.side, isLimitOrderImmediatelyExecutable_congr hprice,
    calculateExecutableDepth_congr h hprice orderbook options]

/-- a fee that is no decimal: the depth is never classified -/
theorem calculateExecutableDepth_throws {options : PaperFillSimulatorOptions} (hfee : ¬ FeeReadable options)
    (intent : OrderIntent) (price : String) (orderbook : OrderbookEvent) :
    ∃ e, calculateExecutableDepth intent price orderbook options = .error e := by
  cases hdepth : calculateExecutableDepth intent price orderbook options with
  | error e => exact ⟨e, rfl⟩
  | ok depth =>
    unfold calculateExecutableDepth at hdepth
    obtain ⟨limitPrice, -, hdepth⟩ := bind_eq_ok.1 hdepth
    obtain ⟨levels, -, hdepth⟩ := bind_eq_ok.1 hdepth
    obtain ⟨fee, hread, -⟩ := bind_eq_ok.1 hdepth
    exact absurd ⟨fee, hread⟩ hfee

theorem simulateAgainst_unreadable_fee {a b : OrderIntent} (h : SameExecution a b) {priceA priceB : String}
    (postOnly : Bool) {tifA tifB : Option TimeInForce}
    (hprice : parseFinancialDecimal priceA = parseFinancialDecimal priceB) (htif : tifA.getD .gtc = tifB.getD .gtc)
    (orderbook : OrderbookEvent) {options : PaperFillSimulatorOptions} (quantity : ℚ) (hfee : ¬ FeeReadable options)
    (hdefault : options.defaultTimeInForce ≠ some .postOnly) :
    simulateAgainst a priceA postOnly tifA orderbook options quantity
      = simulateAgainst b priceB postOnly tifB orderbook options quantity := by
  obtain ⟨e, he⟩ := calculateExecutableDepth_throws hfee b priceB orderbook
  unfold simulateAgainst
  simp only [hprice, h.side, isLimitOrderImmediatelyExecutable_congr hprice,
    calculateExecutableDepth_congr h hprice orderbook options, he, postOnly_iff hdefault htif]
  rfl

/-- intents that are executed alike are filled alike once they are on the snapshot that is selected -/
theorem simulatePaperFill_congr {a b : OrderIntent} (h : SameExecution a b) {orderbooks : List OrderbookEvent}
    {options : PaperFillSimulatorOptions}
    (hagainst : ∀ (priceA priceB : String) (postOnly : Bool) (tifA tifB : Option TimeInForce)
      (orderbook : OrderbookEvent) (quantity : ℚ), parseFinancialDecimal priceA = parseFinancialDecimal priceB →
        tifA.getD .gtc = tifB.getD .gtc → selectExecutionOrderbook orderbooks options = .ok (some orderbook) →
        simulateAgainst a priceA postOnly tifA orderbook options quantity
          = simulateAgainst b priceB postOnly tifB orderbook options quantity) :
    simulatePaperFill a orderbooks options = simulatePaperFill b orderbooks options := by
  unfold simulatePaperFill
  rw [h.quantity]
  cases parseFinancialDecimal b.requestedQuantity with
  | error e => rw [error_bind, error_bind]
  | ok quantity =>
    cases hselect : selectExecutionOrderbook orderbooks options with
    | error e => rw [ok_bind, ok_bind, error_bind, error_bind]
    | ok orderbook =>
      simp only [ok_bind]
      have hterms := h.terms
      generalize a.terms = termsA, b.terms = termsB at hterms
      cases hterms with
      | market => rfl
      | limit postOnly hprice htif =>
        cases orderbook with
        | none => rfl
        | some orderbook =>
          simp only [h.exchangeId, h.market, hagainst _ _ postOnly _ _ orderbook quantity hprice htif hselect]

/-- the time in force that is not written out is GTC on both sides -/
theorem simulatePaperFill_of_gtc_default {a b : OrderIntent} (h : SameExecution a b) (orderbooks : List OrderbookEvent)
    {options : PaperFillSimulatorOptions} (hdefault : options.defaultTimeInForce.getD .gtc = .gtc) :
    simulatePaperFill a orderbooks options = simulatePaperFill b orderbooks options := by
  refine simulatePaperFill_congr h fun priceA priceB postOnly tifA tifB orderbook quantity hprice htif _ =>
    simulateAgainst_congr h postOnly hprice orderbook options quantity ?_
  have heffective : ∀ tif : Option TimeInForce, (tif.or options.defaultTimeInForce).getD .gtc = tif.getD .gtc := by
    intro tif
    cases tif with
    | none => exact hdefault
    | some t => rfl
  rw [heffective, heffective, htif]

/-- a GTC order never ends as a post-only one -/
theorem simulateAgainst_gtc_status {options : PaperFillSimulatorOptions} {receivedAt : MarketTimestamp}
    {result : PaperFillSimulationResult}
    (h : simulateAgainst (buyOne (some .gtc)).toOrderIntent "1" false (some .gtc) (bookOf [⟨"1", "1"⟩] [] receivedAt)
      options 1 = .ok result) :
    result.status ≠ .postOnlyPending ∧ result.status ≠ .postOnlyRejected := by
  unfold simulateAgainst at h
  obtain ⟨price, -, h⟩ := bind_eq_ok.1 h
  obtain ⟨wouldTake, -, h⟩ := bind_eq_ok.1 h
  simp only [Option.some_or, Option.getD_some, reduceCtorEq, or_self, false_and, if_false, Bool.false_eq_true] at h
  obtain ⟨depth, -, h⟩ := bind_eq_ok.1 h
  obtain rfl := pure_eq_ok.1 h
  unfold classifyDepth
  simp only [reduceCtorEq, false_and, if_false]
  split_ifs <;> simp [createNoFillResult, createFillResult]

theorem buyOne_sameFingerprint : SameFingerprint (buyOne none) (buyOne (some .gtc)) := Or.inr ⟨none, none, rfl⟩

theorem parse_eq_of_valueOf {a b : String} {q : ℚ} (ha : Host.valueOf a = some q) (hb : Host.valueOf b = some q) :
    parseFinancialDecimal a = parseFinancialDecimal b := by
  rw [parseFinancialDecimal_eq_ok.2 ha, parseFinancialDecimal_eq_ok.2 hb]

end Soundness

/-! ## Fingerprints fix what the simulator reads -/

section Prints

variable [H : Host] [H.Prints]

/-- two texts that are printed alike denote the same decimal -/
theorem parse_eq_of_normalizeDecimalString {a b text : String} (ha : normalizeDecimalString a = .ok text)
    (hb : normalizeDecimalString b = .ok text) : parseFinancialDecimal a = parseFinancialDecimal b := by
  obtain ⟨qa, hqa, hta⟩ := map_eq_ok.1 ha
  obtain ⟨qb, hqb, htb⟩ := map_eq_ok.1 hb
  have hva := parseFinancialDecimal_eq_ok.1 hqa
  have hvb := parseFinancialDecimal_eq_ok.1 hqb
  rw [hqa, hqb, Host.toFixed_inj hva hvb (hta.trans htb.symm)]

/-- the same with texts that are no decimals left as they are -/
theorem parse_eq_of_normalizeFinancialDecimalString {a b : String}
    (h : normalizeFinancialDecimalString a = normalizeFinancialDecimalString b) :
    parseFinancialDecimal a = parseFinancialDecimal b := by
  -- a printed decimal is a decimal, so a text that is none is not the print of one
  have hvalue : Host.valueOf a = Host.valueOf b := by
    have hto : ∀ {x y : String} {q : ℚ}, normalizeFinancialDecimalString x = normalizeFinancialDecimalString y →
        Host.valueOf x = some q → Host.valueOf y = some q := by
      intro x y q hxy hx
      refine valueOf_of_normalize ?_
      rw [← hxy, normalize_of_valueOf hx, Host.Prints.read_toFixed hx]
    cases ha : Host.valueOf a with
    | some q => rw [hto h ha]
    | none =>
      cases hb : Host.valueOf b with
      | none => rfl
      | some q => rw [hto h.symm hb] at ha; cases ha
  cases ha : Host.valueOf a with
  | some q => exact parse_eq_of_valueOf ha (hvalue ▸ ha)
  | none =>
    rw [normalize_of_valueOf_none ha, normalize_of_valueOf_none (hvalue ▸ ha)] at h
    rw [h]

theorem sameTerms_of_limitFingerprint {a b : OrderTerms} {limit : Option LimitFingerprint}
    (ha : createLimitFingerprint a = .ok limit) (hb : createLimitFingerprint b = .ok limit) : SameTerms a b := by
  cases a with
  | market =>
    cases b with
    | market => exact .market
    | limit priceB postB tifB =>
      obtain ⟨textB, -, hlimitB⟩ := bind_eq_ok.1 hb
      obtain rfl := pure_eq_ok.1 hlimitB
      cases pure_eq_ok.1 ha
  | limit priceA postA tifA =>
    obtain ⟨textA, htextA, hlimitA⟩ := bind_eq_ok.1 ha
    obtain rfl := pure_eq_ok.1 hlimitA
    cases b with
    | market => cases pure_eq_ok.1 hb
    | limit priceB postB tifB =>
      obtain ⟨textB, htextB, hlimitB⟩ := bind_eq_ok.1 hb
      have hsame := pure_eq_ok.1 hlimitB
      simp only [Option.some.injEq, LimitFingerprint.mk.injEq] at hsame
      obtain ⟨rfl, rfl, htif⟩ := hsame
      exact .limit postB (parse_eq_of_normalizeDecimalString htextA htextB) htif.symm

theorem sameExecution_of_submissionFingerprint {a b : OrderIntent} {fingerprint : SubmissionFingerprint}
    (ha : createSubmissionFingerprint a = .ok fingerprint) (hb : createSubmissionFingerprint b = .ok fingerprint) :
    SameExecution a b := by
  unfold createSubmissionFingerprint at ha hb
  obtain ⟨quantityA, hquantityA, ha⟩ := bind_eq_ok.1 ha
  obtain ⟨notionalA, -, ha⟩ := bind_eq_ok.1 ha
  obtain ⟨limitA, hlimitA, ha⟩ := bind_eq_ok.1 ha
  obtain rfl := pure_eq_ok.1 ha
  obtain ⟨quantityB, hquantityB, hb⟩ := bind_eq_ok.1 hb
  obtain ⟨notionalB, -, hb⟩ := bind_eq_ok.1 hb
  obtain ⟨limitB, hlimitB, hb⟩ := bind_eq_ok.1 hb
  have hsame := pure_eq_ok.1 hb
  simp only [SubmissionFingerprint.mk.injEq] at hsame
  obtain ⟨hexchange, hmarket, -, hside, -, rfl, -, -, rfl⟩ := hsame
  exact ⟨hexchange.symm, hmarket.symm, hside.symm, parse_eq_of_normalizeDecimalString hquantityA hquantityB,
    sameTerms_of_limitFingerprint hlimitA hlimitB⟩

theorem sameExecution_of_evidence {a b : ExecutionIntent} {lossA lossB : Option String}
    (h : createOrderIntentEvidence a lossA = createOrderIntentEvidence b lossB) :
    SameExecution a.toOrderIntent b.toOrderIntent := by
  have fa := fingerprint_reads a lossA
  have fb := fingerprint_reads b lossB
  have hsame : fingerprint a lossA = fingerprint b lossB := by rw [fingerprint, h, fingerprint]
  rw [hsame] at fa
  have hterms : SameTerms a.terms b.terms := by
    have hpost := fa.postOnly.symm.trans fb.postOnly
    have htif := fa.timeInForce.symm.trans fb.timeInForce
    have hprice := fa.price.symm.trans fb.price
    cases hta : a.terms with
    | market =>
      cases htb : b.terms with
      | market => exact .market
      | limit priceB postB tifB => simp [hta, htb, postOnlyOf] at hpost
    | limit priceA postA tifA =>
      cases htb : b.terms with
      | market => simp [hta, htb, postOnlyOf] at hpost
      | limit priceB postB tifB =>
        simp only [hta, htb, postOnlyOf, timeInForceOf, OrderTerms.requestedPrice, Option.map_some,
          Option.some.injEq] at hpost htif hprice
        obtain rfl := hpost
        exact .limit postA (parse_eq_of_normalizeFinancialDecimalString hprice) (timeInForceText_inj htif)
  exact
    { exchangeId := Option.some.inj (fa.exchangeId.symm.trans fb.exchangeId)
      market := Option.some.inj (fa.market.symm.trans fb.market)
      side := sideText_inj (Option.some.inj (fa.side.symm.trans fb.side))
      quantity := parse_eq_of_normalizeFinancialDecimalString (Option.some.inj (fa.quantity.symm.trans fb.quantity))
      terms := hterms }

theorem sameExecution_of_fingerprint {a b : ExecutionIntent} (h : SameFingerprint a b) :
    SameExecution a.toOrderIntent b.toOrderIntent := by
  rcases h with ⟨fingerprint, ha, hb⟩ | ⟨lossA, lossB, hevidence⟩
  · exact sameExecution_of_submissionFingerprint ha hb
  · exact sameExecution_of_evidence hevidence

/-! ## Configurations that fill duplicates differently -/

theorem parse_one : parseFinancialDecimal "1" = .ok 1 := parseFinancialDecimal_eq_ok.2 Host.Prints.one

/-- the simulation of `buyOne` on the selected snapshot -/
theorem simulatePaperFill_buyOne {options : PaperFillSimulatorOptions} {asks bids : List OrderbookLevel}
    {receivedAt : MarketTimestamp} (timeInForce : Option TimeInForce) (hbook : asks ≠ [] ∨ bids ≠ [])
    (hselect : selectExecutionOrderbook [bookOf asks bids receivedAt] options = .ok (some (bookOf asks bids receivedAt))) :
    simulatePaperFill (buyOne timeInForce).toOrderIntent [bookOf asks bids receivedAt] options
      = simulateAgainst (buyOne timeInForce).toOrderIntent "1" false timeInForce (bookOf asks bids receivedAt) options
          1 := by
  have hnonempty : ¬ (asks = [] ∧ bids = []) := by
    rintro ⟨ha, hb⟩
    rcases hbook with h | h <;> contradiction
  unfold simulatePaperFill
  simp only [buyOne, parse_one, hselect, ok_bind]
  simp [bookOf, hnonempty]

/-- nothing to take: an IOC or FOK order is canceled, a GTC order stays open -/
theorem simulateAgainst_uncrossed {options : PaperFillSimulatorOptions} (hfee : FeeReadable options)
    (receivedAt : MarketTimestamp) (timeInForce : Option TimeInForce) :
    simulateAgainst (buyOne timeInForce).toOrderIntent "1" false timeInForce (bookOf [] [⟨"1", "1"⟩] receivedAt) options 1
      = .ok (classifyDepth ((timeInForce.or options.defaultTimeInForce).getD .gtc) 1 ⟨[], 0, 0, 0, none, none⟩
          receivedAt) := by
  obtain ⟨fee, hfee⟩ := hfee
  unfold simulateAgainst isLimitOrderImmediatelyExecutable calculateExecutableDepth
  simp [parse_one, hfee, bookOf, buyOne, opposingLevels, sortLevels, stableSort, fillLoop]

/-- there is something to take: a post-only order is held back -/
theorem simulateAgainst_postOnly {options : PaperFillSimulatorOptions} (receivedAt : MarketTimestamp)
    {timeInForce : Option TimeInForce} (htif : (timeInForce.or options.defaultTimeInForce).getD .gtc = .postOnly) :
    simulateAgainst (buyOne timeInForce).toOrderIntent "1" false timeInForce (bookOf [⟨"1", "1"⟩] [] receivedAt) options 1
      = .ok (simulatePostOnlyTakerRisk options 1) := by
  unfold simulateAgainst isLimitOrderImmediatelyExecutable
  simp [parse_one, htif, bookOf, buyOne, opposingLevels, sortLevels, stableSort, withinLimit]

/-- **When equal fingerprints mean equal fills.** Exactly when the configured default time in force is GTC or absent, or
the configuration refuses every snapshot: its times cannot be compared, or the fee is no decimal and the default is not
POST_ONLY. -/
theorem fingerprint_sound_iff (options : PaperFillSimulatorOptions) :
    FingerprintSound options ↔
      options.defaultTimeInForce.getD .gtc = .gtc ∨ ¬ Selectable options ∨
        (¬ FeeReadable options ∧ options.defaultTimeInForce ≠ some .postOnly) := by
  constructor
  · intro hsound
    by_contra hneither
    simp only [not_or, not_and_or, not_not] at hneither
    obtain ⟨hdefault, hselectable, hfee⟩ := hneither
    obtain ⟨d, hd⟩ : ∃ d, options.defaultTimeInForce = some d := by
      cases hd : options.defaultTimeInForce with
      | none => simp [hd] at hdefault
      | some d => exact ⟨d, rfl⟩
    have hdgtc : d ≠ .gtc := by simpa [hd] using hdefault
    by_cases hpost : d = .postOnly
    · -- a snapshot that the order crosses
      subst hpost
      obtain ⟨receivedAt, hselect⟩ := exists_selected hselectable [⟨"1", "1"⟩] []
      have hfill := hsound _ _ [bookOf [⟨"1", "1"⟩] [] receivedAt] buyOne_sameFingerprint
      rw [simulatePaperFill_buyOne none (by simp) hselect, simulatePaperFill_buyOne (some .gtc) (by simp) hselect,
        simulateAgainst_postOnly receivedAt (by simp [hd])] at hfill
      obtain ⟨result, hresult, houtcome⟩ := map_eq_ok.1 hfill.symm
      have hstatus := simulateAgainst_gtc_status hresult
      have hsame : result.status = (simulatePostOnlyTakerRisk options 1).status :=
        congrArg FillOutcome.status houtcome
      unfold simulatePostOnlyTakerRisk at hsame
      split at hsame
      · exact hstatus.1 hsame
      · exact hstatus.2 hsame
    · -- a snapshot that the order does not cross
      have hfee : FeeReadable options := by
        rcases hfee with hfee | hfee
        · exact hfee
        · rw [hd] at hfee
          exact absurd (Option.some.inj hfee) hpost
      obtain ⟨receivedAt, hselect⟩ := exists_selected hselectable [] [⟨"1", "1"⟩]
      have hfill := hsound _ _ [bookOf [] [⟨"1", "1"⟩] receivedAt] buyOne_sameFingerprint
      rw [simulatePaperFill_buyOne none (by simp) hselect, simulatePaperFill_buyOne (some .gtc) (by simp) hselect,
        simulateAgainst_uncrossed hfee, simulateAgainst_uncrossed hfee, hd] at hfill
      have hstatus := congrArg (fun r => r.map FillOutcome.status) hfill
      cases d <;> simp [Functor.map, Except.map, fillOutcome, classifyDepth, createNoFillResult] at hstatus hdgtc hpost
  · rintro (hdefault | hunselectable | ⟨hfee, hpost⟩) a b orderbooks hsame
    · rw [simulatePaperFill_of_gtc_default (sameExecution_of_fingerprint hsame) orderbooks hdefault]
    · rw [simulatePaperFill_congr (sameExecution_of_fingerprint hsame) (fun _ _ _ _ _ _ _ _ _ hselect =>
        absurd hselect (selectExecutionOrderbook_unselectable hunselectable))]
    · have hexecution := sameExecution_of_fingerprint hsame
      rw [simulatePaperFill_congr hexecution (fun _ _ postOnly _ _ orderbook quantity hprice htif _ =>
        simulateAgainst_unreadable_fee hexecution postOnly hprice htif orderbook quantity hfee hpost)]

end Prints

/-- fill options with nothing set but the default time in force -/
def defaultOnly (timeInForce : TimeInForce) : PaperFillSimulatorOptions where
  submittedAt := none
  latencyMs := none
  postOnlyTakerPolicy := none
  defaultTimeInForce := some timeInForce
  takerFeeBps := none

theorem gtc_default_sound : FingerprintSound (defaultOnly .gtc) := (fingerprint_sound_iff (defaultOnly .gtc)).2 (Or.inl rfl)

/-- with IOC as the default, an intent that leaves the time in force out and one that says GTC have equal fingerprints;
on a book that neither crosses the first is canceled and the second stays open -/
theorem ioc_default_splits_duplicates :
    createSubmissionFingerprint (buyOne none).toOrderIntent
        = createSubmissionFingerprint (buyOne (some .gtc)).toOrderIntent ∧
      createOrderIntentEvidence (buyOne none) none = createOrderIntentEvidence (buyOne (some .gtc)) none ∧
      PaperFillSimulationResult.status <$>
          simulatePaperFill (buyOne none).toOrderIntent [bookOf [] [⟨"1", "1"⟩] (.nanos 0)] (defaultOnly .ioc)
        = .ok .iocCanceled ∧
      PaperFillSimulationResult.status <$>
          simulatePaperFill (buyOne (some .gtc)).toOrderIntent [bookOf [] [⟨"1", "1"⟩] (.nanos 0)] (defaultOnly .ioc)
        = .ok .unfilled ∧
      ¬ FingerprintSound (defaultOnly .ioc) := by
  have hnone : PaperFillSimulationResult.status <$>
      simulatePaperFill (buyOne none).toOrderIntent [bookOf [] [⟨"1", "1"⟩] (.nanos 0)] (defaultOnly .ioc)
        = .ok .iocCanceled := by decide +kernel
  have hgtc : PaperFillSimulationResult.status <$>
      simulatePaperFill (buyOne (some .gtc)).toOrderIntent [bookOf [] [⟨"1", "1"⟩] (.nanos 0)] (defaultOnly .ioc)
        = .ok .unfilled := by decide +kernel
  refine ⟨rfl, rfl, hnone, hgtc, fun hsound => ?_⟩
  have hfill := hsound _ _ [bookOf [] [⟨"1", "1"⟩] (.nanos 0)] buyOne_sameFingerprint
  have hstatus := congrArg (FillOutcome.status <$> ·) hfill
  have hcomp : FillOutcome.status ∘ fillOutcome = PaperFillSimulationResult.status := rfl
  rw [← comp_map, ← comp_map, hcomp, hnone, hgtc] at hstatus
  cases hstatus

end SeeMirai.Paper
