/-
The summary of paper fills (application/paper-pnl-summary/calculator.ts) beside the fill ledger of PnL accounting. Both
keep an average-cost position for each market; the summary is given the notional of a fill, the ledger its price.

Amounts come as texts. A text with a minus sign is refused, zero or not.

Results:
- `SummaryBooks`: cash and cost bases make up starting cash and realised PnL; a flat position has no cost.
- `createPaperPnlSummary_conserves`: what every summary says of cash, cost bases, market value and PnL.
- `bookFill_twin`, `bookFills_twin`: on the same fills the two ledgers throw together or stay together.
- `summary_agrees`: the summary conserves value, and agrees with the ledger on unsigned amounts.
-/
import SeeMirai.Decision.PaperPnl
import SeeMirai.Pnl.OpeningCheck

namespace SeeMirai.PaperPnl

open Fallible
open Decision (PaperPnlLedger PaperPnlSummary MutablePositionLedger markPosition)
open Pnl (PnLFillFact Ledger applyFill applyFillsToLedger createEmptyLedger scopeKey amount)

/-! ## Model -/

structure PaperPnlFillInput where
  orderId : String
  market : String
  side : OrderSide
  filledQuantity : String
  totalFillNotional : String
  totalFee : Option String
deriving DecidableEq, Repr

structure PaperPnlMarkPriceInput where
  market : String
  priceKrw : String
deriving DecidableEq, Repr

structure PaperPnlSummaryInput where
  startingCashKrw : String
  fills : List PaperPnlFillInput
  markPrices : Option (List PaperPnlMarkPriceInput)
  submittedOrderCount : Option ℕ
deriving DecidableEq, Repr

section Model

variable [Host]

/-- the amounts of a fill, in the order they are read -/
def PaperPnlFillInput.read (fill : PaperPnlFillInput) : Except Thrown Decision.PaperPnlFillInput := do
  let filledQuantity ← Decision.parseNonNegativeDecimal fill.filledQuantity "filledQuantity"
  let totalFillNotional ← Decision.parseNonNegativeDecimal fill.totalFillNotional "totalFillNotional"
  let totalFee ← Decision.parseNonNegativeDecimal (fill.totalFee.getD "0") "totalFee"
  pure ⟨fill.orderId, fill.market, fill.side, filledQuantity, totalFillNotional, totalFee⟩

/-- one turn of the loop over the fills -/
def bookFill (ledger : PaperPnlLedger) (fill : PaperPnlFillInput) : Except Thrown PaperPnlLedger := do
  let amounts ← fill.read
  ledger.book amounts

/-- cash and positions after all fills -/
def bookFills (input : PaperPnlSummaryInput) : Except Thrown (ℚ × PaperPnlLedger) := do
  let startingCashKrw ← Decision.parseNonNegativeDecimal input.startingCashKrw "startingCashKrw"
  let ledger ← input.fills.foldlM bookFill ⟨startingCashKrw, 0, 0, [], InsertionMap.empty⟩
  pure (startingCashKrw, ledger)

/-- the last price of a market counts -/
def readMarkPrices (markPrices : List PaperPnlMarkPriceInput) : Except Thrown (InsertionMap String ℚ) :=
  markPrices.foldlM (fun prices markPrice => do
    let price ← Decision.parseNonNegativeDecimal markPrice.priceKrw "priceKrw"
    pure (prices.set markPrice.market price)) InsertionMap.empty

omit [Host] in
def calculateMarkToMarket (positions : InsertionMap String MutablePositionLedger)
    (markPriceByMarket : InsertionMap String ℚ) : Option (ℚ × ℚ) :=
  positions.entries.foldl (markPosition markPriceByMarket) (some (0, 0))

def createPaperPnlSummary (input : PaperPnlSummaryInput) : Except Thrown PaperPnlSummary := do
  let (startingCashKrw, ledger) ← bookFills input
  let markPriceByMarket ← readMarkPrices (input.markPrices.getD [])
  let markToMarket := calculateMarkToMarket ledger.positions markPriceByMarket
  let totalPnlKrw := markToMarket.map fun sums => ledger.realizedPnlKrw + sums.2
  let filledOrderCount := ledger.filledOrderIds.length
  pure
    { startingCashKrw := startingCashKrw
      endingCashKrw := ledger.cashKrw
      positionMarketValueKrw := markToMarket.map (·.1)
      realizedPnlKrw := some ledger.realizedPnlKrw
      unrealizedPnlKrw := markToMarket.map (·.2)
      totalPnlKrw := totalPnlKrw
      totalReturnBps := if startingCashKrw = 0 then none else totalPnlKrw.map (· / startingCashKrw * 10000)
      totalFeesKrw := ledger.totalFeesKrw
      submittedOrderCount := input.submittedOrderCount.getD filledOrderCount
      filledOrderCount := filledOrderCount }

end Model

/-! ## The books of a summary -/

def totalCost (positions : InsertionMap String MutablePositionLedger) : ℚ := positions.total (·.costBasisKrw)

/-- the position of a market, flat where there is none -/
def positionOf (ledger : PaperPnlLedger) (market : String) : MutablePositionLedger :=
  Decision.getOrCreatePosition ledger.positions market

/-- cash and cost bases make up starting cash and realised PnL; a flat position has no cost -/
structure SummaryBooks (startingCashKrw : ℚ) (ledger : PaperPnlLedger) : Prop where
  conserve : ledger.cashKrw + totalCost ledger.positions = startingCashKrw + ledger.realizedPnlKrw
  held : ∀ market position, ledger.positions.get market = some position → 0 ≤ position.quantity
  flat : ∀ market position, ledger.positions.get market = some position → position.quantity = 0 →
    position.costBasisKrw = 0

theorem SummaryBooks.quantity_nonneg {startingCashKrw : ℚ} {ledger : PaperPnlLedger}
    (h : SummaryBooks startingCashKrw ledger)
    (market : String) : 0 ≤ (positionOf ledger market).quantity := by
  unfold positionOf Decision.getOrCreatePosition
  cases hget : ledger.positions.get market with
  | none => exact le_rfl
  | some position => exact h.held market position hget

theorem totalCost_set (positions : InsertionMap String MutablePositionLedger) (market : String)
    (position : MutablePositionLedger) :
    totalCost (positions.set market position) =
      totalCost positions - (Decision.getOrCreatePosition positions market).costBasisKrw + position.costBasisKrw := by
  unfold totalCost Decision.getOrCreatePosition
  rw [InsertionMap.total_set]
  cases positions.get market <;> simp

/-- writing one position and moving cash and realised PnL keeps the books when the position balances -/
theorem SummaryBooks.write {startingCashKrw : ℚ} {ledger ledger' : PaperPnlLedger}
    (h : SummaryBooks startingCashKrw ledger)
    {market : String} {position : MutablePositionLedger}
    (hpositions : ledger'.positions = ledger.positions.set market position)
    (hbalance : ledger'.cashKrw - ledger.cashKrw + (position.costBasisKrw - (positionOf ledger market).costBasisKrw) =
      ledger'.realizedPnlKrw - ledger.realizedPnlKrw)
    (hheld : 0 ≤ position.quantity) (hflat : position.quantity = 0 → position.costBasisKrw = 0) :
    SummaryBooks startingCashKrw ledger' := by
  refine ⟨?_, fun market' position' hget => ?_, fun market' position' hget => ?_⟩
  · have hconserve := h.conserve
    unfold positionOf at hbalance
    rw [hpositions, totalCost_set]
    linarith
  · rw [hpositions, InsertionMap.get_set] at hget
    split_ifs at hget with hsame
    · cases hget
      exact hheld
    · exact h.held market' position' hget
  · rw [hpositions, InsertionMap.get_set] at hget
    split_ifs at hget with hsame
    · cases hget
      exact hflat
    · exact h.flat market' position' hget

/-- a fill that is booked keeps the books -/
theorem SummaryBooks.book {startingCashKrw : ℚ} {ledger ledger' : PaperPnlLedger}
    (h : SummaryBooks startingCashKrw ledger)
    {fill : Decision.PaperPnlFillInput} (hbook : ledger.book fill = .ok ledger') :
      SummaryBooks startingCashKrw ledger' := by
  have hread : ∀ {value : ℚ} {field : String} {read : ℚ}, Decision.readNonNegative value field = .ok read →
      read = value ∧ 0 ≤ value := by
    intro value field read hr
    unfold Decision.readNonNegative at hr
    split_ifs at hr with hneg
    exact ⟨(pure_eq_ok.1 hr).symm, not_lt.1 hneg⟩
  unfold PaperPnlLedger.book at hbook
  obtain ⟨quantity, hquantity, hbook⟩ := bind_eq_ok.1 hbook
  obtain ⟨notional, -, hbook⟩ := bind_eq_ok.1 hbook
  obtain ⟨fee, -, hbook⟩ := bind_eq_ok.1 hbook
  obtain ⟨rfl, hnonneg⟩ := hread hquantity
  split_ifs at hbook with hzero
  · obtain rfl := pure_eq_ok.1 hbook
    exact h
  · have hpos : 0 < fill.filledQuantity := lt_of_le_of_ne hnonneg (Ne.symm hzero)
    have hbefore : 0 ≤ (Decision.getOrCreatePosition ledger.positions fill.market).quantity :=
      h.quantity_nonneg fill.market
    cases hside : fill.side with
    | buy =>
      rw [hside] at hbook
      obtain rfl := pure_eq_ok.1 hbook
      refine h.write rfl ?_ ?_ ?_
      · simp only [positionOf]
        ring
      · exact add_nonneg hbefore hpos.le
      · intro hflat
        dsimp only at hflat
        linarith
    | sell =>
      rw [hside] at hbook
      dsimp only at hbook
      have hcovered : fill.filledQuantity ≤ (Decision.getOrCreatePosition ledger.positions fill.market).quantity := by
        by_contra hshort
        rw [if_pos (not_le.1 hshort)] at hbook
        cases hbook
      rw [if_neg (not_lt.2 hcovered), if_neg (hpos.trans_le hcovered).ne'] at hbook
      obtain rfl := pure_eq_ok.1 hbook
      refine h.write rfl ?_ (sub_nonneg.2 hcovered) fun hflat => if_pos hflat
      simp only [positionOf]
      split_ifs with hclosed
      · -- the whole position is sold: its whole cost goes
        rw [sub_eq_zero.1 hclosed, div_mul_cancel₀ _ hzero]
        ring
      · ring

/-! ## Mark to market -/

/-- the sums of the marked positions differ by the cost of the positions that were marked -/
theorem markPositions_sums {markPrices : InsertionMap String ℚ} {entries : List (String × MutablePositionLedger)}
    (hflat : ∀ entry ∈ entries, entry.2.quantity = 0 → entry.2.costBasisKrw = 0)
    (hmarked : ∀ entry ∈ entries, entry.2.quantity ≠ 0 → (markPrices.get entry.1).isSome) (value unrealized : ℚ) :
    ∃ value' unrealized', entries.foldl (markPosition markPrices) (some (value, unrealized)) =
      some (value', unrealized') ∧
      value' - unrealized' = value - unrealized + (entries.map fun entry => entry.2.costBasisKrw).sum := by
  induction entries generalizing value unrealized with
  | nil => exact ⟨value, unrealized, rfl, by simp⟩
  | cons entry entries ih =>
    have hrest := ih (fun e he => hflat e (List.mem_cons_of_mem _ he)) fun e he => hmarked e (List.mem_cons_of_mem _ he)
    rw [List.foldl_cons, List.map_cons, List.sum_cons]
    by_cases hzero : entry.2.quantity = 0
    · obtain ⟨value', unrealized', hfold, hsum⟩ := hrest value unrealized
      have hstep : markPosition markPrices (some (value, unrealized)) entry = some (value, unrealized) := by
        unfold markPosition
        rw [if_pos hzero]
      refine ⟨value', unrealized', by rw [hstep, hfold], ?_⟩
      rw [hsum, hflat entry List.mem_cons_self hzero, zero_add]
    · obtain ⟨price, hprice⟩ := Option.isSome_iff_exists.1 (hmarked entry List.mem_cons_self hzero)
      obtain ⟨value', unrealized', hfold, hsum⟩ := hrest (value + entry.2.quantity * price)
        (unrealized + (entry.2.quantity * price - entry.2.costBasisKrw))
      have hstep : markPosition markPrices (some (value, unrealized)) entry =
          some (value + entry.2.quantity * price, unrealized + (entry.2.quantity * price - entry.2.costBasisKrw)) := by
        unfold markPosition
        rw [if_neg hzero, hprice]
      refine ⟨value', unrealized', by rw [hstep, hfold], ?_⟩
      rw [hsum]
      ring

/-! ## Conservation -/

section Summary

variable [Host]

theorem parseNonNegativeDecimal_cases {value field : String} {q : ℚ}
    (h : Decision.parseNonNegativeDecimal value field = .ok q) : Host.valueOf value = some q ∧ 0 ≤ q := by
  unfold Decision.parseNonNegativeDecimal at h
  obtain ⟨d, hd, h⟩ := bind_eq_ok.1 h
  split_ifs at h with hsign
  obtain rfl := pure_eq_ok.1 h
  refine ⟨?_, d.value_nonneg (by simpa using hsign)⟩
  rw [← parseFinancialDecimal_eq_ok, parseFinancialDecimal, hd]
  rfl

theorem bookFills_books {input : PaperPnlSummaryInput} {startingCashKrw : ℚ} {ledger : PaperPnlLedger}
    (h : bookFills input = .ok (startingCashKrw, ledger)) : SummaryBooks startingCashKrw ledger := by
  unfold bookFills at h
  obtain ⟨cash, -, h⟩ := bind_eq_ok.1 h
  obtain ⟨final, hfold, h⟩ := bind_eq_ok.1 h
  cases pure_eq_ok.1 h
  have hstart : SummaryBooks startingCashKrw ⟨startingCashKrw, 0, 0, [], InsertionMap.empty⟩ := by
    refine ⟨?_, fun market position hget => ?_, fun market position hget => ?_⟩
    · simp [totalCost]
    · simp at hget
    · simp at hget
  refine foldlM_keeps (SummaryBooks startingCashKrw) (fun before fill after _ hfill hbooks => ?_) hfold hstart
  obtain ⟨amounts, -, hbook⟩ := bind_eq_ok.1 hfill
  exact hbooks.book hbook

theorem readMarkPrices_isSome {markPrices : List PaperPnlMarkPriceInput} {prices : InsertionMap String ℚ}
    (h : readMarkPrices markPrices = .ok prices) : ∀ mark ∈ markPrices, (prices.get mark.market).isSome := by
  refine foldlM_history (fun visited prices => ∀ mark ∈ visited, (prices.get mark.market).isSome)
    (fun _ h => absurd h List.not_mem_nil) (fun visited mark before after hbefore hstep => ?_) h
  obtain ⟨price, -, hset⟩ := bind_eq_ok.1 hstep
  obtain rfl := pure_eq_ok.1 hset
  intro mark' hmark'
  rw [InsertionMap.get_set]
  split_ifs with hsame
  · rfl
  · rcases List.mem_append.1 hmark' with hin | hlast
    · exact hbefore mark' hin
    · rw [List.mem_singleton] at hlast
      exact absurd (hlast ▸ rfl) hsame

omit [Host] in
/-- the cost bases of the open positions -/
def openCost (ledger : PaperPnlLedger) : ℚ :=
  ((ledger.positions.entries.filter fun entry => entry.2.quantity ≠ 0).map fun entry => entry.2.costBasisKrw).sum

omit [Host] in
theorem SummaryBooks.openCost_eq {startingCashKrw : ℚ} {ledger : PaperPnlLedger}
    (h : SummaryBooks startingCashKrw ledger) :
    openCost ledger = totalCost ledger.positions := by
  have hflat : ∀ entry ∈ ledger.positions.entries, entry.2.quantity = 0 → entry.2.costBasisKrw = 0 :=
    fun entry hentry =>
    h.flat entry.1 entry.2 ((InsertionMap.mem_iff_get _).1 hentry)
  unfold openCost totalCost InsertionMap.total
  generalize ledger.positions.entries = entries at hflat
  induction entries with
  | nil => rfl
  | cons entry entries ih =>
    have hrest := ih fun e he => hflat e (List.mem_cons_of_mem _ he)
    rw [List.filter_cons, List.map_cons, List.sum_cons, ← hrest]
    split_ifs with hopen
    · rw [List.map_cons, List.sum_cons]
    · dsimp only
      rw [hflat entry List.mem_cons_self (by simpa using hopen), zero_add]

/-- what a summary conserves -/
structure Conserves (input : PaperPnlSummaryInput) (summary : PaperPnlSummary) (ledger : PaperPnlLedger) : Prop where
  booked : bookFills input = .ok (summary.startingCashKrw, ledger)
  realized : ∃ realized, summary.realizedPnlKrw = some realized ∧
    summary.endingCashKrw + openCost ledger = summary.startingCashKrw + realized
  /-- every open market has a mark price -/
  marked : (∀ market position, ledger.positions.get market = some position → position.quantity ≠ 0 →
      ∃ mark ∈ input.markPrices.getD [], mark.market = market) →
    ∃ realized unrealized total value, summary.realizedPnlKrw = some realized ∧
      summary.unrealizedPnlKrw = some unrealized ∧ summary.totalPnlKrw = some total ∧
      summary.positionMarketValueKrw = some value ∧ total = realized + unrealized ∧
      summary.endingCashKrw + value = summary.startingCashKrw + total

/-- **Conservation.** -/
theorem createPaperPnlSummary_conserves {input : PaperPnlSummaryInput} {summary : PaperPnlSummary}
    (h : createPaperPnlSummary input = .ok summary) : ∃ ledger, Conserves input summary ledger := by
  unfold createPaperPnlSummary at h
  obtain ⟨⟨startingCashKrw, ledger⟩, hbooked, h⟩ := bind_eq_ok.1 h
  obtain ⟨prices, hprices, h⟩ := bind_eq_ok.1 h
  obtain rfl := pure_eq_ok.1 h
  have hbooks := bookFills_books hbooked
  refine ⟨ledger, hbooked, ⟨_, rfl, ?_⟩, fun hmarked => ?_⟩
  · rw [hbooks.openCost_eq]
    exact hbooks.conserve
  · obtain ⟨value, unrealized, hfold, hsum⟩ := markPositions_sums
      (fun entry hentry => hbooks.flat entry.1 entry.2 ((InsertionMap.mem_iff_get _).1 hentry))
      (fun entry hentry hopen => by
        obtain ⟨mark, hmark, hmarket⟩ := hmarked entry.1 entry.2 ((InsertionMap.mem_iff_get _).1 hentry) hopen
        rw [← hmarket]
        exact readMarkPrices_isSome hprices mark hmark) 0 0
    have hmarks : calculateMarkToMarket ledger.positions prices = some (value, unrealized) := hfold
    refine ⟨ledger.realizedPnlKrw, unrealized, ledger.realizedPnlKrw + unrealized, value, rfl, ?_, ?_, ?_, rfl, ?_⟩
    · rw [hmarks]
      rfl
    · rw [hmarks]
      rfl
    · rw [hmarks]
      rfl
    · have hconserve := hbooks.conserve
      unfold totalCost InsertionMap.total at hconserve
      dsimp only
      linarith

/-! ## The two ledgers -/

omit [Host] in
def sideOf : Pnl.Side → OrderSide
  | .buy => .buy
  | .sell => .sell

/-- the same fill for the summary and for the ledger: of one strategy, with its fee in KRW, the notional its price times
its quantity -/
structure Twin (strategyId : String) (fill : PaperPnlFillInput) (fact : PnLFillFact) : Prop where
  strategy : fact.strategyId = strategyId
  orderId : fact.orderId = fill.orderId
  market : fact.market = fill.market
  side : sideOf fact.side = fill.side
  quantity : fact.quantity = fill.filledQuantity
  fee : fact.fee = fill.totalFee.getD "0"
  feeCurrency : fact.feeCurrency = "KRW"
  notional : ∃ quantity price notional, Host.valueOf fact.quantity = some quantity ∧
    Host.valueOf fact.price = some price ∧
    Host.valueOf fill.totalFillNotional = some notional ∧ notional = price * quantity

/-- a decimal without a minus sign -/
def Unsigned (text : String) : Prop := ∃ d : Dec, Host.decimal text = .finite d ∧ d.isNegative = false

omit [Host] in
/-- what the ledger holds of a market -/
def ledgerPosition (ledger : Ledger) (strategyId market : String) : ℚ × ℚ :=
  let position := Pnl.getOrCreatePositionLedger ledger (scopeKey strategyId (some market)) strategyId market
  (position.quantity, position.costBasisKrw)

omit [Host] in
/-- the same realised PnL, and the same quantity and cost basis for each market -/
structure LedgersAgree (strategyId : String) (paper : PaperPnlLedger) (ledger : Ledger) : Prop where
  realized : paper.realizedPnlKrw = ledger.realizedPnlKrw
  position : ∀ market, ledgerPosition ledger strategyId market =
    ((positionOf paper market).quantity, (positionOf paper market).costBasisKrw)

omit [Host] in
theorem scopeKey_market_inj {strategyId a b : String} :
    scopeKey strategyId (some a) = scopeKey strategyId (some b) ↔ a = b := by
  constructor
  · intro h
    have hlist := congrArg String.toList h
    simp only [scopeKey, String.toList_append] at hlist
    exact String.toList_inj.1 (List.append_cancel_left hlist)
  · rintro rfl
    rfl

omit [Host] in
/-- writing the same amounts on both sides keeps them together -/
theorem LedgersAgree.write {strategyId : String} {paper paper' : PaperPnlLedger} {ledger ledger' : Ledger}
    (h : LedgersAgree strategyId paper ledger) {market : String} {mine : MutablePositionLedger}
      {theirs : Pnl.PositionLedger}
    (hmine : paper'.positions = paper.positions.set market mine)
    (htheirs : ledger'.positions = ledger.positions.set (scopeKey strategyId (some market)) theirs)
    (hquantity : theirs.quantity = mine.quantity) (hcost : theirs.costBasisKrw = mine.costBasisKrw)
    (hrealized : paper'.realizedPnlKrw = ledger'.realizedPnlKrw) : LedgersAgree strategyId paper' ledger' := by
  refine ⟨hrealized, fun market' => ?_⟩
  have hbefore := h.position market'
  unfold ledgerPosition Pnl.getOrCreatePositionLedger positionOf Decision.getOrCreatePosition at hbefore ⊢
  rw [hmine, htheirs, InsertionMap.get_set, InsertionMap.get_set]
  simp only [scopeKey_market_inj]
  split_ifs with hsame
  · simp [hquantity, hcost]
  · exact hbefore

theorem unsigned_parse {text : String} (h : Unsigned text) {q : ℚ} (hq : Host.valueOf text = some q) (field : String) :
    Pnl.parseNonNegativeDecimal text = .ok q ∧ Decision.parseNonNegativeDecimal text field = .ok q ∧ 0 ≤ q := by
  obtain ⟨d, hd, hsign⟩ := h
  have hparse : parseDec text = .ok d := by
    unfold parseDec
    rw [hd]
    rfl
  have hvalue : d.value = q := by
    rw [Host.valueOf, hd] at hq
    exact Option.some.inj hq
  refine ⟨?_, ?_, hvalue ▸ d.value_nonneg hsign⟩
  · rw [Pnl.parseNonNegativeDecimal, hparse, ok_bind, if_neg (by simp [hsign]), hvalue]
    rfl
  · rw [Decision.parseNonNegativeDecimal, hparse, ok_bind, if_neg (by simp [hsign]), hvalue]
    rfl

/-- the two readings of an amount throw together or give the same -/
theorem parse_together (text field : String) :
    (∃ q, Pnl.parseNonNegativeDecimal text = .ok q ∧ Decision.parseNonNegativeDecimal text field = .ok q ∧ 0 ≤ q ∧
        Host.valueOf text = some q) ∨
      (∃ e, Pnl.parseNonNegativeDecimal text = .error e) ∧
        ∃ e, Decision.parseNonNegativeDecimal text field = .error e := by
  unfold Pnl.parseNonNegativeDecimal Decision.parseNonNegativeDecimal
  cases hparse : parseDec text with
  | error e => exact Or.inr ⟨⟨e, rfl⟩, e, rfl⟩
  | ok d =>
    rw [ok_bind, ok_bind]
    cases hsign : d.isNegative with
    | true => exact Or.inr ⟨⟨_, rfl⟩, _, rfl⟩
    | false =>
      refine Or.inl ⟨d.value, rfl, rfl, d.value_nonneg hsign, ?_⟩
      rw [← parseFinancialDecimal_eq_ok, parseFinancialDecimal, hparse]
      rfl

omit [Host] in
theorem readNonNegative_ok {value : ℚ} (h : 0 ≤ value)
    (field : String) : Decision.readNonNegative value field = .ok value := by
  rw [Decision.readNonNegative, if_neg (not_lt.2 h)]
  rfl

omit [Host] in
/-- counting an order moves no amounts -/
theorem LedgersAgree.count {strategyId : String} {paper : PaperPnlLedger} {ledger : Ledger}
    (h : LedgersAgree strategyId paper ledger) (orderId : String) :
    LedgersAgree strategyId paper (ledger.countOrder orderId) := by
  refine ⟨?_, fun market => ?_⟩
  · rw [h.realized, Pnl.countOrder_realized]
  · have hposition := h.position market
    unfold ledgerPosition Pnl.getOrCreatePositionLedger at hposition ⊢
    rw [Pnl.countOrder_positions]
    exact hposition

/-- both ledgers throw, or both return and agree -/
def Together (strategyId : String) (mine : Except Thrown PaperPnlLedger) (theirs : Except Thrown Ledger) : Prop :=
  (∃ paper ledger, mine = .ok paper ∧ theirs = .ok ledger ∧ LedgersAgree strategyId paper ledger) ∨
    (∃ e, mine = .error e) ∧ ∃ e, theirs = .error e

/-- **One fill.** -/
theorem bookFill_twin {strategyId : String} {paper : PaperPnlLedger} {ledger : Ledger} {fill : PaperPnlFillInput}
    {fact : PnLFillFact} (htwin : Twin strategyId fill fact) (hprice : Unsigned fact.price)
    (hnotional : Unsigned fill.totalFillNotional) (h : LedgersAgree strategyId paper ledger) :
    Together strategyId (bookFill paper fill) (applyFill ledger fact) := by
  obtain ⟨quantity, price, notional, hquantityValue, hpriceValue, hnotionalValue, hproduct⟩ := htwin.notional
  obtain ⟨hpriceRead, -, -⟩ := unsigned_parse hprice hpriceValue ""
  obtain ⟨-, hnotionalRead, hnotionalSign⟩ := unsigned_parse hnotional hnotionalValue "totalFillNotional"
  have hkey : fact.key = scopeKey strategyId (some fill.market) := by
    rw [PnLFillFact.key, htwin.strategy, htwin.market]
  unfold bookFill PaperPnlFillInput.read applyFill
  rw [hpriceRead, hnotionalRead, ← htwin.fee, ← htwin.quantity]
  rcases parse_together fact.quantity "filledQuantity" with
    ⟨read, htheirs, hmine, hsign, hvalue⟩ | ⟨⟨e, htheirs⟩, e', hmine⟩
  · obtain rfl : read = quantity := Option.some.inj (hvalue.symm.trans hquantityValue)
    rw [htheirs, hmine, ok_bind, ok_bind, ok_bind, ok_bind]
    rcases parse_together fact.fee "totalFee" with
      ⟨fee, htheirsFee, hmineFee, hfeeSign, -⟩ | ⟨⟨e, htheirsFee⟩, e', hmineFee⟩
    · rw [htheirsFee, hmineFee]
      simp only [ok_bind, pure_bind, PaperPnlLedger.book, readNonNegative_ok hsign, readNonNegative_ok hnotionalSign,
        readNonNegative_ok hfeeSign, hkey, htwin.strategy, htwin.orderId, htwin.market, htwin.feeCurrency, if_true]
      have hcount := h.count fill.orderId
      have hposition := hcount.position fill.market
      unfold positionOf at hposition
      obtain ⟨hquantity, hcost⟩ := Prod.mk.inj hposition
      by_cases hzero : read = 0
      · rw [if_pos hzero, if_pos hzero]
        exact Or.inl ⟨paper, ledger, rfl, rfl, h⟩
      · rw [if_neg hzero, if_neg hzero, ← htwin.side]
        cases hside : fact.side with
        | buy =>
          refine Or.inl ⟨_, _, rfl, rfl, hcount.write rfl rfl ?_ ?_ hcount.realized⟩
          · exact congrArg (· + read) hquantity
          · dsimp only
            rw [hcost, hproduct, mul_comm price]
        | sell =>
          dsimp only [sideOf]
          rw [hquantity, hcost]
          by_cases hshort : (Decision.getOrCreatePosition paper.positions fill.market).quantity < read
          · rw [if_pos hshort, if_pos hshort]
            exact Or.inr ⟨⟨_, rfl⟩, _, rfl⟩
          · rw [if_neg hshort, if_neg hshort]
            refine Or.inl ⟨_, _, rfl, rfl, hcount.write rfl rfl rfl rfl ?_⟩
            have hrealized : paper.realizedPnlKrw = (ledger.countOrder fill.orderId).realizedPnlKrw := hcount.realized
            dsimp only
            rw [hrealized, hproduct]
            ring
    · rw [htheirsFee, hmineFee]
      exact Or.inr ⟨⟨e', rfl⟩, e, rfl⟩
  · rw [htheirs, hmine]
    exact Or.inr ⟨⟨e', rfl⟩, e, rfl⟩

/-- the same fills on both sides, with no minus sign before a price or a notional -/
structure Comparable (strategyId : String) (input : PaperPnlSummaryInput) (facts : List PnLFillFact) : Prop where
  twins : List.Forall₂ (Twin strategyId) input.fills facts
  prices : ∀ fact ∈ facts, Unsigned fact.price
  notionals : ∀ fill ∈ input.fills, Unsigned fill.totalFillNotional

/-- **All fills.** -/
theorem bookFills_twin {strategyId : String} {fills : List PaperPnlFillInput} {facts : List PnLFillFact}
    (htwins : List.Forall₂ (Twin strategyId) fills facts) (hprices : ∀ fact ∈ facts, Unsigned fact.price)
    (hnotionals : ∀ fill ∈ fills, Unsigned fill.totalFillNotional) {paper : PaperPnlLedger} {ledger : Ledger}
    (h : LedgersAgree strategyId paper ledger) :
    Together strategyId (fills.foldlM bookFill paper) (applyFillsToLedger ledger facts) := by
  unfold applyFillsToLedger
  induction htwins generalizing paper ledger with
  | nil => exact Or.inl ⟨paper, ledger, rfl, rfl, h⟩
  | cons htwin _ ih =>
    rw [List.foldlM_cons, List.foldlM_cons]
    rcases bookFill_twin htwin (hprices _ List.mem_cons_self) (hnotionals _ List.mem_cons_self) h with
      ⟨paper', ledger', hmine, htheirs, hagree⟩ | ⟨⟨e, hmine⟩, e', htheirs⟩
    · rw [hmine, htheirs, ok_bind, ok_bind]
      exact ih (fun fact hfact => hprices fact (List.mem_cons_of_mem _ hfact))
        (fun fill hfill => hnotionals fill (List.mem_cons_of_mem _ hfill)) hagree
    · rw [hmine, htheirs]
      exact Or.inr ⟨⟨e, rfl⟩, e', rfl⟩

/-- the amounts beside the fills are read when they are unsigned -/
theorem unsigned_read {text : String} (h : Unsigned text) (field : String) :
    ∃ q, Decision.parseNonNegativeDecimal text field = .ok q := by
  obtain ⟨d, hd, hsign⟩ := h
  refine ⟨d.value, ?_⟩
  rw [Decision.parseNonNegativeDecimal, parseDec, hd]
  simp [hsign]

theorem readMarkPrices_total {markPrices : List PaperPnlMarkPriceInput}
    (h : ∀ mark ∈ markPrices, Unsigned mark.priceKrw) :
    ∃ prices, readMarkPrices markPrices = .ok prices := by
  refine foldlM_total (fun mark hmark prices => ?_) _
  obtain ⟨q, hq⟩ := unsigned_read (h mark hmark) "priceKrw"
  exact ⟨prices.set mark.market q, by rw [hq]; rfl⟩

/-- what the summary and the ledger have in common after the same fills -/
structure SameResult (strategyId : String) (input : PaperPnlSummaryInput) (summary : PaperPnlSummary)
    (ledger : Ledger) :
    Prop where
  realized : summary.realizedPnlKrw = some ledger.realizedPnlKrw
  positions : ∃ books, bookFills input = .ok (summary.startingCashKrw, books) ∧ ∀ market,
    ledgerPosition ledger strategyId market =
      ((positionOf books market).quantity, (positionOf books market).costBasisKrw)

theorem createPaperPnlSummary_twin {strategyId : String} {input : PaperPnlSummaryInput} {facts : List PnLFillFact}
    (h : Comparable strategyId input facts) (hcash : Unsigned input.startingCashKrw)
    (hmarks : ∀ mark ∈ input.markPrices.getD [], Unsigned mark.priceKrw) :
    (∃ summary ledger, createPaperPnlSummary input = .ok summary ∧
        applyFillsToLedger createEmptyLedger facts = .ok ledger ∧ SameResult strategyId input summary ledger) ∨
      (∃ e, createPaperPnlSummary input = .error e) ∧ ∃ e, applyFillsToLedger createEmptyLedger facts = .error e := by
  obtain ⟨cash, hcashRead⟩ := unsigned_read hcash "startingCashKrw"
  obtain ⟨prices, hprices⟩ := readMarkPrices_total hmarks
  have hstart : LedgersAgree strategyId ⟨cash, 0, 0, [], InsertionMap.empty⟩ createEmptyLedger := by
    refine ⟨rfl, fun market => ?_⟩
    simp [ledgerPosition, positionOf, Pnl.getOrCreatePositionLedger, Decision.getOrCreatePosition, createEmptyLedger]
  rcases bookFills_twin h.twins h.prices h.notionals hstart with
    ⟨books, ledger, hmine, htheirs, hagree⟩ | ⟨⟨e, hmine⟩, e', htheirs⟩
  · left
    have hbooked : bookFills input = .ok (cash, books) := by
      rw [bookFills, hcashRead, ok_bind, hmine]
      rfl
    rw [createPaperPnlSummary, hbooked, ok_bind]
    dsimp only
    rw [hprices, ok_bind]
    exact ⟨_, ledger, rfl, htheirs, congrArg some hagree.realized, books, hbooked, hagree.position⟩
  · right
    refine ⟨⟨e, ?_⟩, e', htheirs⟩
    rw [createPaperPnlSummary, bookFills, hcashRead, ok_bind, hmine]
    rfl

/-- the summary throws exactly when the ledger throws on the same sequence, and else both have the same result -/
def AgreesWithLedger (strategyId : String) (input : PaperPnlSummaryInput) (facts : List PnLFillFact) : Prop :=
  ((∃ e, createPaperPnlSummary input = .error e) ↔ ∃ e, applyFillsToLedger createEmptyLedger facts = .error e) ∧
    ∀ summary ledger, createPaperPnlSummary input = .ok summary →
      applyFillsToLedger createEmptyLedger facts = .ok ledger → SameResult strategyId input summary ledger

/-- **Conservation and agreement.** Every summary conserves value; it agrees with the ledger where prices, notionals,
starting cash and mark prices have no minus sign. -/
theorem summary_agrees (input : PaperPnlSummaryInput) :
    (∀ summary, createPaperPnlSummary input = .ok summary → ∃ ledger, Conserves input summary ledger) ∧
      ∀ strategyId facts, Comparable strategyId input facts → Unsigned input.startingCashKrw →
        (∀ mark ∈ input.markPrices.getD [], Unsigned mark.priceKrw) → AgreesWithLedger strategyId input facts := by
  refine ⟨fun summary h => createPaperPnlSummary_conserves h, fun strategyId facts h hcash hmarks => ?_⟩
  unfold AgreesWithLedger
  rcases createPaperPnlSummary_twin h hcash hmarks with
    ⟨summary, ledger, hmine, htheirs, hsame⟩ | ⟨⟨e, hmine⟩, e', htheirs⟩
  · rw [hmine, htheirs]
    refine ⟨⟨fun herror => ?_, fun herror => ?_⟩, fun summary' ledger' hsummary hledger => ?_⟩
    · obtain ⟨e, he⟩ := herror
      cases he
    · obtain ⟨e, he⟩ := herror
      cases he
    · cases hsummary
      cases hledger
      exact hsame
  · rw [hmine, htheirs]
    refine ⟨⟨fun _ => ⟨e', rfl⟩, fun _ => ⟨e, rfl⟩⟩, fun summary' ledger' hsummary => ?_⟩
    cases hsummary

end Summary

section Plain

attribute [local instance] plainHost

/-- two bought at 10 and one sold at 15, with a fee of 1 each, marked at 20 -/
def tradedSummary : PaperPnlSummaryInput :=
  ⟨"100", [⟨"o", "KRW-BTC", .buy, "2", "20", some "1"⟩, ⟨"o", "KRW-BTC", .sell, "1", "15", some "1"⟩],
    some [⟨"KRW-BTC", "20"⟩], none⟩

theorem traded_summary_agrees :
    createPaperPnlSummary tradedSummary = .ok
        { startingCashKrw := 100, endingCashKrw := 93, positionMarketValueKrw := some 20,
          realizedPnlKrw := some (7 / 2),
          unrealizedPnlKrw := some (19 / 2), totalPnlKrw := some 13, totalReturnBps := some 1300, totalFeesKrw := 2,
          submittedOrderCount := 1, filledOrderCount := 1 } ∧
      AgreesWithLedger "s" tradedSummary [Pnl.fillAt .buy "2" "10" 1, Pnl.fillAt .sell "1" "15" 2] := by
  refine ⟨by decide +kernel, (summary_agrees tradedSummary).2 "s" _ ⟨?_, ?_, ?_⟩ ?_ ?_⟩
  · refine .cons ?_ (.cons ?_ .nil)
    · exact ⟨rfl, rfl, rfl, rfl, rfl, rfl, rfl, 2, 10, 20, by decide +kernel, by decide +kernel, by decide +kernel,
        by norm_num⟩
    · exact ⟨rfl, rfl, rfl, rfl, rfl, rfl, rfl, 1, 15, 15, by decide +kernel, by decide +kernel, by decide +kernel,
        by norm_num⟩
  · intro fact hfact
    simp only [List.mem_cons, List.not_mem_nil, or_false] at hfact
    rcases hfact with rfl | rfl
    · exact ⟨⟨false, 10, by decide⟩, by decide +kernel, rfl⟩
    · exact ⟨⟨false, 15, by decide⟩, by decide +kernel, rfl⟩
  · intro fill hfill
    simp only [tradedSummary, List.mem_cons, List.not_mem_nil, or_false] at hfill
    rcases hfill with rfl | rfl
    · exact ⟨⟨false, 20, by decide⟩, by decide +kernel, rfl⟩
    · exact ⟨⟨false, 15, by decide⟩, by decide +kernel, rfl⟩
  · exact ⟨⟨false, 100, by decide⟩, by decide +kernel, rfl⟩
  · intro mark hmark
    simp only [tradedSummary, Option.getD_some, List.mem_singleton] at hmark
    obtain rfl := hmark
    exact ⟨⟨false, 20, by decide⟩, by decide +kernel, rfl⟩

/-- nothing traded at a price of minus one: only the ledger reads the price -/
theorem signed_price_disagrees :
    List.Forall₂ (Twin "s") [⟨"o", "KRW-BTC", .buy, "0", "0", some "1"⟩] [Pnl.fillAt .buy "0" "-1" 1] ∧
      ¬ AgreesWithLedger "s" ⟨"0", [⟨"o", "KRW-BTC", .buy, "0", "0", some "1"⟩], none, none⟩
        [Pnl.fillAt .buy "0" "-1" 1] := by
  refine ⟨.cons ⟨rfl, rfl, rfl, rfl, rfl, rfl, rfl, 0, -1, 0, by decide +kernel, by decide +kernel, by decide +kernel,
    by norm_num⟩ .nil, fun h => ?_⟩
  have hledger : applyFillsToLedger createEmptyLedger [Pnl.fillAt .buy "0" "-1" 1] =
      .error (Pnl.invariantError "value must be non-negative") := by decide +kernel
  obtain ⟨e, he⟩ := h.1.2 ⟨_, hledger⟩
  have hsummary : (createPaperPnlSummary
    ⟨"0", [⟨"o", "KRW-BTC", .buy, "0", "0", some "1"⟩], none, none⟩).toOption.isSome :=
    by decide +kernel
  rw [he] at hsummary
  cases hsummary

end Plain

end SeeMirai.PaperPnl
