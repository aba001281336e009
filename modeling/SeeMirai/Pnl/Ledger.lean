/-
The fill ledger of PnL accounting (application/pnl-accounting/calculator.ts): opening seeds, then a replay of fills at
average cost. The ledger is mutable in the source; here every operation returns the next ledger, and a throw ends the
run.

Fills are replayed in execution order: `sortFillsByExecutionTime` orders by time, then BUY before SELL, then by a
JSON tie-break key. The comparator reads timestamps, so sorting two or more fills throws on an invalid one.

Results:
- `applyFill_cases`: everything one fill can do to a ledger.
- `Ledger.Books`: the books of a ledger relative to the cost it was seeded with. Cash plus cost bases equals realised
  PnL plus seeded cost; quantities are non-negative; a flat position carries no cost.
- `applyFillsToLedger_books`: every replay keeps the books.
- `applyFillsToLedger_quantity`: a position's quantity is its seed plus what was bought minus what was sold.
- `ledger_conservation`: the four facts together, for every list of seeds and fills.
- `negative_seed_cost`: a cost basis is only as non-negative as the seeds' average entry prices are; a seed priced
  below zero is admitted and carries a negative cost.
-/
import SeeMirai.Pnl.Facts

namespace SeeMirai.Pnl

open Fallible

/-! ## Model -/

structure PositionLedger where
  quantity : ℚ
  costBasisKrw : ℚ
  market : String
  strategyId : String
  initialAverageEntryPrice : Option ℚ
  fallbackUnrealizedPnlKrw : Option ℚ
deriving DecidableEq

structure Ledger where
  cashKrw : ℚ
  realizedPnlKrw : ℚ
  /-- scope key to position -/
  positions : InsertionMap String PositionLedger
  filledOrderIds : List String
  filledCount : ℕ
deriving DecidableEq

def createEmptyLedger : Ledger := ⟨0, 0, InsertionMap.empty, [], 0⟩

/-- the stored entry, or the flat one that is created under the caller's names -/
def getOrCreatePositionLedger (ledger : Ledger) (key strategyId market : String) : PositionLedger :=
  (ledger.positions.get key).getD ⟨0, 0, market, strategyId, none, none⟩

def Ledger.setPosition (ledger : Ledger) (key : String) (pos : PositionLedger) : Ledger :=
  { ledger with positions := ledger.positions.set key pos }

@[simp] theorem setPosition_cash (ledger : Ledger) (key : String) (pos : PositionLedger) :
    (ledger.setPosition key pos).cashKrw = ledger.cashKrw := rfl

@[simp] theorem setPosition_realized (ledger : Ledger) (key : String) (pos : PositionLedger) :
    (ledger.setPosition key pos).realizedPnlKrw = ledger.realizedPnlKrw := rfl

@[simp] theorem setPosition_positions (ledger : Ledger) (key : String) (pos : PositionLedger) :
    (ledger.setPosition key pos).positions = ledger.positions.set key pos := rfl

/-- the quantity held under a key, zero where there is no entry -/
def Ledger.quantityOf (ledger : Ledger) (key : String) : ℚ := ((ledger.positions.get key).map (·.quantity)).getD 0

def Ledger.totalCost (ledger : Ledger) : ℚ := ledger.positions.total (·.costBasisKrw)

/-- a lot is already open under the key -/
def Ledger.isOpen (ledger : Ledger) (key : String) : Bool := (ledger.positions.get key).any (0 < ·.quantity)

def Ledger.countOrder (ledger : Ledger) (orderId : String) : Ledger :=
  if orderId ∈ ledger.filledOrderIds then ledger
  else { ledger with filledOrderIds := ledger.filledOrderIds ++ [orderId], filledCount := ledger.filledCount + 1 }

@[simp] theorem countOrder_positions (ledger : Ledger) (orderId : String) :
    (ledger.countOrder orderId).positions = ledger.positions := by
  unfold Ledger.countOrder; split <;> rfl

@[simp] theorem countOrder_cash (ledger : Ledger) (orderId : String) :
    (ledger.countOrder orderId).cashKrw = ledger.cashKrw := by
  unfold Ledger.countOrder; split <;> rfl

@[simp] theorem countOrder_realized (ledger : Ledger) (orderId : String) :
    (ledger.countOrder orderId).realizedPnlKrw = ledger.realizedPnlKrw := by
  unfold Ledger.countOrder; split <;> rfl

/-- the entry a fill is booked on -/
def Ledger.entry (ledger : Ledger) (fill : PnLFillFact) : PositionLedger :=
  getOrCreatePositionLedger ledger fill.key fill.strategyId fill.market

/-! ## The books -/

/-- the books of a ledger that was seeded with `seeded` of cost -/
structure Ledger.Books (seeded : ℚ) (ledger : Ledger) : Prop where
  conserve : ledger.cashKrw + ledger.totalCost = ledger.realizedPnlKrw + seeded
  held : ∀ k pos, ledger.positions.get k = some pos → 0 ≤ pos.quantity
  flat : ∀ k pos, ledger.positions.get k = some pos → pos.quantity = 0 → pos.costBasisKrw = 0

theorem Ledger.Books.entry_quantity {seeded : ℚ} {ledger : Ledger} (h : ledger.Books seeded)
    (key strategyId market : String) : 0 ≤ (getOrCreatePositionLedger ledger key strategyId market).quantity := by
  unfold getOrCreatePositionLedger
  cases hg : ledger.positions.get key with
  | none => simp
  | some pos => simpa using h.held key pos hg

theorem Ledger.Books.entry_flat {seeded : ℚ} {ledger : Ledger} (h : ledger.Books seeded)
    (key strategyId market : String)
    (hq : (getOrCreatePositionLedger ledger key strategyId market).quantity = 0) :
    (getOrCreatePositionLedger ledger key strategyId market).costBasisKrw = 0 := by
  unfold getOrCreatePositionLedger at hq ⊢
  cases hg : ledger.positions.get key with
  | none => simp
  | some pos => rw [hg] at hq; simpa using h.flat key pos hg (by simpa using hq)

theorem Ledger.Books.entry_of_not_open {seeded : ℚ} {ledger : Ledger} (h : ledger.Books seeded)
    (key strategyId market : String) (hopen : ledger.isOpen key = false) :
    (getOrCreatePositionLedger ledger key strategyId market).quantity = 0 ∧
      (getOrCreatePositionLedger ledger key strategyId market).costBasisKrw = 0 := by
  have hq : (getOrCreatePositionLedger ledger key strategyId market).quantity = 0 := by
    refine le_antisymm ?_ (h.entry_quantity key strategyId market)
    unfold Ledger.isOpen at hopen
    unfold getOrCreatePositionLedger
    cases hg : ledger.positions.get key with
    | none => simp
    | some pos => rw [hg] at hopen; simpa using hopen
  exact ⟨hq, h.entry_flat key strategyId market hq⟩

theorem totalCost_setPosition (ledger : Ledger) (key strategyId market : String) (pos : PositionLedger) :
    (ledger.setPosition key pos).totalCost
      = ledger.totalCost - (getOrCreatePositionLedger ledger key strategyId market).costBasisKrw
        + pos.costBasisKrw := by
  unfold Ledger.totalCost Ledger.setPosition getOrCreatePositionLedger
  rw [InsertionMap.total_set]
  cases ledger.positions.get key <;> simp

/-- writing one entry and moving cash and realised PnL keeps the books when the written entry balances -/
theorem Ledger.Books.write {seeded seeded' : ℚ} {ledger ledger' : Ledger} (h : ledger.Books seeded)
    (key strategyId market : String) (pos : PositionLedger)
    (hpositions : ledger'.positions = ledger.positions.set key pos)
    (hbalance : ledger'.cashKrw - ledger.cashKrw + pos.costBasisKrw
        - (getOrCreatePositionLedger ledger key strategyId market).costBasisKrw
      = ledger'.realizedPnlKrw - ledger.realizedPnlKrw + (seeded' - seeded))
    (hq : 0 ≤ pos.quantity) (hflat : pos.quantity = 0 → pos.costBasisKrw = 0) : ledger'.Books seeded' where
  conserve := by
    have htotal : ledger'.totalCost = (ledger.setPosition key pos).totalCost := by
      unfold Ledger.totalCost; rw [hpositions]; rfl
    rw [htotal, totalCost_setPosition ledger key strategyId market pos]
    linarith [h.conserve]
  held k pos' hget := by
    rw [hpositions, InsertionMap.get_set] at hget
    split_ifs at hget with hk
    · cases hget; exact hq
    · exact h.held k pos' hget
  flat k pos' hget := by
    rw [hpositions, InsertionMap.get_set] at hget
    split_ifs at hget with hk
    · cases hget; exact hflat
    · exact h.flat k pos' hget

theorem createEmptyLedger_books : createEmptyLedger.Books createEmptyLedger.totalCost where
  conserve := by simp [createEmptyLedger]
  held k pos h := by simp [createEmptyLedger] at h
  flat k pos h := by simp [createEmptyLedger] at h

def Ledger.CostNonneg (ledger : Ledger) : Prop := ∀ k pos, ledger.positions.get k = some pos → 0 ≤ pos.costBasisKrw

theorem Ledger.CostNonneg.entry {ledger : Ledger} (h : ledger.CostNonneg) (key strategyId market : String) :
    0 ≤ (getOrCreatePositionLedger ledger key strategyId market).costBasisKrw := by
  unfold getOrCreatePositionLedger
  cases hg : ledger.positions.get key with
  | none => simp
  | some pos => simpa using h key pos hg

theorem Ledger.CostNonneg.write {ledger ledger' : Ledger} (h : ledger.CostNonneg) (key : String) (pos : PositionLedger)
    (hpositions : ledger'.positions = ledger.positions.set key pos) (hpos : 0 ≤ pos.costBasisKrw) :
    ledger'.CostNonneg := by
  intro k pos' hget
  rw [hpositions, InsertionMap.get_set] at hget
  split_ifs at hget with hk
  · cases hget; exact hpos
  · exact h k pos' hget

theorem quantityOf_write (ledger ledger' : Ledger) (key : String) (pos : PositionLedger)
    (h : ledger'.positions = ledger.positions.set key pos) (key' : String) :
    ledger'.quantityOf key' = if key = key' then pos.quantity else ledger.quantityOf key' := by
  unfold Ledger.quantityOf
  rw [h, InsertionMap.get_set]
  split_ifs <;> rfl

theorem entry_quantity (ledger : Ledger) (fill : PnLFillFact) :
    (ledger.entry fill).quantity = ledger.quantityOf fill.key := by
  unfold Ledger.entry getOrCreatePositionLedger Ledger.quantityOf
  cases ledger.positions.get fill.key <;> rfl

/-! ## Seeding and replay -/

section Replay

variable [Host]

def parseOptional : Option String → Except Thrown (Option ℚ)
  | none => pure none
  | some s => some <$> parseFinancialDecimal s

def seedFromReconcile (ledger : Ledger) (pos : PnLPositionFact) : Except Thrown Ledger :=
  if ledger.isOpen pos.key then pure ledger
  else do
    let entry := getOrCreatePositionLedger ledger pos.key pos.strategyId pos.market
    let avgPrice ← parseOptional pos.averageEntryPrice
    let entry := { entry with initialAverageEntryPrice := avgPrice }
    if pos.quantity = "0" then pure (ledger.setPosition pos.key entry)
    else do
      let qty ← parseNonNegativeDecimal pos.quantity
      match avgPrice with
      | some avg =>
        if 0 < qty then pure (ledger.setPosition pos.key { entry with quantity := qty, costBasisKrw := qty * avg })
        else pure (ledger.setPosition pos.key entry)
      | none => pure (ledger.setPosition pos.key entry)

def seedLedgerFromReconcile (ledger : Ledger) (positions : List PnLPositionFact) : Except Thrown Ledger :=
  positions.foldlM seedFromReconcile ledger

def seedFromPosition (ledger : Ledger) (pos : PnLPositionFact) : Except Thrown Ledger :=
  if ledger.isOpen pos.key then pure ledger
  else do
    let entry := getOrCreatePositionLedger ledger pos.key pos.strategyId pos.market
    let avgPrice ← parseOptional pos.averageEntryPrice
    let unrealized ← parseOptional pos.unrealizedPnl
    let entry := { entry with initialAverageEntryPrice := avgPrice, fallbackUnrealizedPnlKrw := unrealized }
    if pos.quantity = "0" then pure (ledger.setPosition pos.key entry)
    else do
      let qty ← parseNonNegativeDecimal pos.quantity
      if 0 < qty then
        -- the quantity is kept without a price: it is evidence for market value even where the cost is unknown
        match avgPrice with
        | some avg => pure (ledger.setPosition pos.key { entry with quantity := qty, costBasisKrw := qty * avg })
        | none => pure (ledger.setPosition pos.key { entry with quantity := qty })
      else pure (ledger.setPosition pos.key entry)

def seedLedgerFromPositions (ledger : Ledger) (positions : List PnLPositionFact) : Except Thrown Ledger :=
  positions.foldlM seedFromPosition ledger

/-- the ledger a replay starts from -/
def openingLedger (reconciled positions : List PnLPositionFact) : Except Thrown Ledger := do
  let ledger ← seedLedgerFromReconcile createEmptyLedger reconciled
  seedLedgerFromPositions ledger positions

def applyFill (ledger : Ledger) (fill : PnLFillFact) : Except Thrown Ledger := do
  let quantity ← parseNonNegativeDecimal fill.quantity
  let price ← parseNonNegativeDecimal fill.price
  let notional := quantity * price
  let fee ← parseNonNegativeDecimal fill.fee
  let feeKrw := if fill.feeCurrency = "KRW" then fee else 0
  if quantity = 0 then pure ledger
  else
    let ledger := ledger.countOrder fill.orderId
    let pos := getOrCreatePositionLedger ledger fill.key fill.strategyId fill.market
    match fill.side with
    | .buy =>
      let fillCostKrw := notional + feeKrw
      pure { ledger.setPosition fill.key
          { pos with quantity := pos.quantity + quantity, costBasisKrw := pos.costBasisKrw + fillCostKrw } with
        cashKrw := ledger.cashKrw - fillCostKrw }
    | .sell =>
      if pos.quantity < quantity then
        throw (invariantError ("SELL fill exceeds open position for " ++ fill.market))
      else
        let averageCostKrw := if pos.quantity = 0 then 0 else pos.costBasisKrw / pos.quantity
        let realizedCostBasisKrw := averageCostKrw * quantity
        pure { ledger.setPosition fill.key
            { pos with
              quantity := pos.quantity - quantity
              costBasisKrw := if pos.quantity - quantity = 0 then 0 else pos.costBasisKrw - realizedCostBasisKrw } with
          realizedPnlKrw := ledger.realizedPnlKrw + (notional - realizedCostBasisKrw - feeKrw)
          cashKrw := ledger.cashKrw + (notional - feeKrw) }

def applyFillsToLedger (ledger : Ledger) (fills : List PnLFillFact) : Except Thrown Ledger :=
  fills.foldlM applyFill ledger

/-! ## Execution order -/

def sideSortRank : Side → ℕ
  | .buy => 0
  | .sell => 1

def Liquidity.text : Liquidity → String
  | .maker => "MAKER"
  | .taker => "TAKER"

def createFillTieBreakKey (fill : PnLFillFact) : String :=
  JsonText.stringify [some fill.strategyId, some fill.market, some fill.orderId, some fill.price, some fill.quantity,
    some fill.fee, some fill.feeCurrency, some fill.liquidity.text]

def compareFillFact (left right : PnLFillFact) : Ordering :=
  (compare left.filledAt.millis right.filledAt.millis).then
    ((compare (sideSortRank left.side) (sideSortRank right.side)).then
      (Host.localeCompare (createFillTieBreakKey left) (createFillTieBreakKey right)))

/-- the comparator is called, and reads every timestamp, once there are two fills to compare -/
def sortFillsByExecutionTime (fills : List PnLFillFact) : Except Thrown (List PnLFillFact) := do
  if 2 ≤ fills.length then
    let _ ← fills.mapM (fun fill => toTime fill.filledAt)
  pure (stableSort compareFillFact fills)

theorem sortFills_perm {fills sorted : List PnLFillFact} (h : sortFillsByExecutionTime fills = .ok sorted) :
    sorted.Perm fills := by
  have hsorted : sorted = stableSort compareFillFact fills := by
    unfold sortFillsByExecutionTime at h
    split at h
    · obtain ⟨_, -, h⟩ := bind_eq_ok.1 h
      exact (pure_eq_ok.1 h).symm
    · exact (pure_eq_ok.1 h).symm
  rw [hsorted]
  exact stableSort_perm

/-! ## What one step does -/

/-- what a seed leaves under its key, in an entry of the same names: nothing new to hold, or its quantity at its price -/
def SeedsAs (pos : PnLPositionFact) (old new : PositionLedger) : Prop :=
  new.market = old.market ∧
  ((new.quantity = old.quantity ∧ new.costBasisKrw = old.costBasisKrw) ∨
    (0 < amount pos.quantity ∧ new.quantity = amount pos.quantity ∧
      ((pos.averageEntryPrice = none ∧ new.costBasisKrw = old.costBasisKrw) ∨
        ∃ s avg, pos.averageEntryPrice = some s ∧ Host.valueOf s = some avg ∧
          new.costBasisKrw = amount pos.quantity * avg)))

theorem parseOptional_eq_ok {o : Option String} {r : Option ℚ} (h : parseOptional o = .ok r) :
    (o = none ∧ r = none) ∨ ∃ s q, o = some s ∧ r = some q ∧ Host.valueOf s = some q := by
  cases o with
  | none => exact Or.inl ⟨rfl, (pure_eq_ok.1 h).symm⟩
  | some s =>
    right
    obtain ⟨q, hq, hr⟩ := map_eq_ok.1 h
    exact ⟨s, q, rfl, hr.symm, parseFinancialDecimal_eq_ok.1 hq⟩

theorem seedFromReconcile_cases {ledger ledger' : Ledger} {pos : PnLPositionFact}
    (h : seedFromReconcile ledger pos = .ok ledger') :
    ledger' = ledger ∨ (ledger.isOpen pos.key = false ∧ ∃ entry, ledger' = ledger.setPosition pos.key entry ∧
      SeedsAs pos (getOrCreatePositionLedger ledger pos.key pos.strategyId pos.market) entry) := by
  unfold seedFromReconcile at h
  split at h
  · exact Or.inl (pure_eq_ok.1 h).symm
  · rename_i hopen
    refine Or.inr ⟨by simpa using hopen, ?_⟩
    obtain ⟨avgPrice, havg, h⟩ := bind_eq_ok.1 h
    split at h
    · exact ⟨_, (pure_eq_ok.1 h).symm, rfl, Or.inl ⟨rfl, rfl⟩⟩
    · obtain ⟨qty, hqty, h⟩ := bind_eq_ok.1 h
      rcases parseOptional_eq_ok havg with ⟨-, rfl⟩ | ⟨s, avg, hs, rfl, hv⟩
      · exact ⟨_, (pure_eq_ok.1 h).symm, rfl, Or.inl ⟨rfl, rfl⟩⟩
      · simp only at h
        split at h
        · rename_i hpos
          refine ⟨_, (pure_eq_ok.1 h).symm, rfl, Or.inr ?_⟩
          rw [amount_of_parse hqty]
          exact ⟨hpos, rfl, Or.inr ⟨s, avg, hs, hv, rfl⟩⟩
        · exact ⟨_, (pure_eq_ok.1 h).symm, rfl, Or.inl ⟨rfl, rfl⟩⟩

theorem seedFromPosition_cases {ledger ledger' : Ledger} {pos : PnLPositionFact}
    (h : seedFromPosition ledger pos = .ok ledger') :
    ledger' = ledger ∨ (ledger.isOpen pos.key = false ∧ ∃ entry, ledger' = ledger.setPosition pos.key entry ∧
      SeedsAs pos (getOrCreatePositionLedger ledger pos.key pos.strategyId pos.market) entry) := by
  unfold seedFromPosition at h
  split at h
  · exact Or.inl (pure_eq_ok.1 h).symm
  · rename_i hopen
    refine Or.inr ⟨by simpa using hopen, ?_⟩
    obtain ⟨avgPrice, havg, h⟩ := bind_eq_ok.1 h
    obtain ⟨unrealized, -, h⟩ := bind_eq_ok.1 h
    split at h
    · exact ⟨_, (pure_eq_ok.1 h).symm, rfl, Or.inl ⟨rfl, rfl⟩⟩
    · obtain ⟨qty, hqty, h⟩ := bind_eq_ok.1 h
      split at h
      · rename_i hpos
        rw [← amount_of_parse hqty] at hpos
        rcases parseOptional_eq_ok havg with ⟨hn, rfl⟩ | ⟨s, avg, hs, rfl, hv⟩
        · refine ⟨_, (pure_eq_ok.1 h).symm, rfl, Or.inr ⟨hpos, (amount_of_parse hqty).symm, Or.inl ⟨hn, rfl⟩⟩⟩
        · refine ⟨_, (pure_eq_ok.1 h).symm, rfl, Or.inr ⟨hpos, (amount_of_parse hqty).symm, Or.inr ⟨s, avg, hs, hv, ?_⟩⟩⟩
          rw [amount_of_parse hqty]
      · exact ⟨_, (pure_eq_ok.1 h).symm, rfl, Or.inl ⟨rfl, rfl⟩⟩

/-- what a purchase adds to the cost basis: its notional, and its fee where that is in KRW -/
def fillCost (fill : PnLFillFact) : ℚ :=
  amount fill.quantity * amount fill.price + if fill.feeCurrency = "KRW" then amount fill.fee else 0

/-- everything a fill can do: nothing (zero quantity), buy at cost, or sell at average cost from an open lot -/
inductive FillEffect (ledger : Ledger) (fill : PnLFillFact) : Ledger → Prop where
  | skip (hzero : amount fill.quantity = 0) : FillEffect ledger fill ledger
  | buy (cost : ℚ) (hside : fill.side = .buy) (hpos : 0 < amount fill.quantity) (hcost : 0 ≤ cost)
      (hvalue : cost = fillCost fill) :
    FillEffect ledger fill
      { (ledger.countOrder fill.orderId).setPosition fill.key
          { ledger.entry fill with
            quantity := (ledger.entry fill).quantity + amount fill.quantity
            costBasisKrw := (ledger.entry fill).costBasisKrw + cost } with
        cashKrw := ledger.cashKrw - cost }
  | sell (proceeds released : ℚ) (hside : fill.side = .sell) (hpos : 0 < amount fill.quantity)
      (hheld : amount fill.quantity ≤ (ledger.entry fill).quantity)
      (hreleased : released = (ledger.entry fill).costBasisKrw / (ledger.entry fill).quantity * amount fill.quantity) :
    FillEffect ledger fill
      { (ledger.countOrder fill.orderId).setPosition fill.key
          { ledger.entry fill with
            quantity := (ledger.entry fill).quantity - amount fill.quantity
            costBasisKrw := (ledger.entry fill).costBasisKrw - released } with
        realizedPnlKrw := ledger.realizedPnlKrw + (proceeds - released)
        cashKrw := ledger.cashKrw + proceeds }

theorem applyFill_effect {ledger ledger' : Ledger} {fill : PnLFillFact} (h : applyFill ledger fill = .ok ledger') :
    FillEffect ledger fill ledger' := by
  unfold applyFill at h
  obtain ⟨quantity, hq, h⟩ := bind_eq_ok.1 h
  obtain ⟨price, hp, h⟩ := bind_eq_ok.1 h
  obtain ⟨fee, hf, h⟩ := bind_eq_ok.1 h
  have hq0 := parseNonNegativeDecimal_nonneg hq
  have hp0 := parseNonNegativeDecimal_nonneg hp
  have hf0 := parseNonNegativeDecimal_nonneg hf
  have hamount := amount_of_parse hq
  simp only at h
  have hcount : getOrCreatePositionLedger (ledger.countOrder fill.orderId) fill.key fill.strategyId fill.market
      = ledger.entry fill := by
    rw [getOrCreatePositionLedger, countOrder_positions, Ledger.entry, getOrCreatePositionLedger]
  split at h
  · rename_i hzero
    rw [pure_eq_ok] at h
    exact h ▸ FillEffect.skip (hamount.trans hzero)
  · rename_i hne
    have hpos : 0 < amount fill.quantity := by rw [hamount]; exact lt_of_le_of_ne hq0 (Ne.symm hne)
    rw [hcount] at h
    split at h
    · rename_i hside
      rw [pure_eq_ok, countOrder_cash] at h
      rw [← h, ← hamount]
      refine FillEffect.buy _ hside hpos ?_ ?_
      · rw [hamount]
        split_ifs <;> positivity
      · rw [fillCost, amount_of_parse hp, amount_of_parse hf]
    · rename_i hside
      split at h
      · simp at h
      · rename_i hheld
        rw [not_lt, ← hamount] at hheld
        have hopen : (ledger.entry fill).quantity ≠ 0 :=
          (lt_of_lt_of_le hpos hheld).ne'
        rw [pure_eq_ok, countOrder_cash, countOrder_realized, if_neg hopen, ← hamount] at h
        rw [← h]
        -- closing the lot zeroes the cost, which is what releasing the whole lot at average cost leaves
        have hzero : ∀ c q : ℚ, q ≠ 0 → (if q - amount fill.quantity = 0 then 0 else c - c / q * amount fill.quantity)
            = c - c / q * amount fill.quantity := by
          intro c q hqne
          split_ifs with hc
          · rw [← sub_eq_zero.1 hc, div_mul_cancel₀ c hqne, sub_self]
          · rfl
        rw [hzero _ _ hopen]
        have heffect : FillEffect ledger fill _ := FillEffect.sell
          (amount fill.quantity * price - (if fill.feeCurrency = "KRW" then fee else 0)) _ hside hpos hheld rfl
        convert heffect using 3
        ring

/-! ## Whole replays -/

theorem applyFill_books {seeded : ℚ} {ledger ledger' : Ledger} {fill : PnLFillFact}
    (h : applyFill ledger fill = .ok ledger') (hb : ledger.Books seeded) : ledger'.Books seeded := by
  have hq := hb.entry_quantity fill.key fill.strategyId fill.market
  cases applyFill_effect h with
  | skip => exact hb
  | buy cost hside hpos hcost =>
    refine hb.write fill.key fill.strategyId fill.market _ (by simp; rfl) ?_ ?_ ?_
    · simp [Ledger.entry]
    · exact add_nonneg hq hpos.le
    · intro hz
      simp only [Ledger.entry] at hz
      linarith
  | sell proceeds released hside hpos hheld hreleased =>
    refine hb.write fill.key fill.strategyId fill.market _ (by simp; rfl) ?_ ?_ ?_
    · simp [Ledger.entry]; ring
    · exact sub_nonneg.2 hheld
    · intro hz
      simp only at hz ⊢
      have hall : (ledger.entry fill).quantity = amount fill.quantity := sub_eq_zero.1 hz
      rw [hreleased, hall, div_mul_cancel₀ _ hpos.ne', sub_self]

/-- **Every replay keeps the books.** -/
theorem applyFillsToLedger_books {seeded : ℚ} {ledger ledger' : Ledger} {fills : List PnLFillFact}
    (h : applyFillsToLedger ledger fills = .ok ledger') (hb : ledger.Books seeded) : ledger'.Books seeded :=
  foldlM_keeps (Ledger.Books seeded) (fun _ _ _ _ hstep => applyFill_books hstep) h hb

/-- seeding a key that is not open replaces a flat entry: the seeded cost is all that changes -/
theorem SeedsAs.books {ledger : Ledger} {pos : PnLPositionFact} {entry : PositionLedger}
    (hb : ledger.Books ledger.totalCost) (hopen : ledger.isOpen pos.key = false)
    (hs : SeedsAs pos (getOrCreatePositionLedger ledger pos.key pos.strategyId pos.market) entry) :
    (ledger.setPosition pos.key entry).Books (ledger.setPosition pos.key entry).totalCost := by
  obtain ⟨hzero, hcost⟩ := hb.entry_of_not_open pos.key pos.strategyId pos.market hopen
  refine hb.write pos.key pos.strategyId pos.market entry rfl ?_ ?_ ?_
  · rw [totalCost_setPosition ledger pos.key pos.strategyId pos.market]
    simp; ring
  · rcases hs with ⟨-, ⟨h, -⟩ | ⟨h, hn, -⟩⟩
    · rw [h, hzero]
    · rw [hn]; exact h.le
  · intro hz
    rcases hs with ⟨-, ⟨-, h⟩ | ⟨h, hn, -⟩⟩
    · rw [h]; exact hcost
    · rw [hn] at hz; exact absurd hz h.ne'

/-- the invariant rule for seeding: a predicate that every seed written on a closed key keeps holds of the opening ledger -/
theorem openingLedger_keeps {reconciled positions : List PnLPositionFact} (P : Ledger → Prop)
    (hempty : P createEmptyLedger)
    (hseed : ∀ ledger pos entry, pos ∈ reconciled ++ positions → P ledger → ledger.isOpen pos.key = false →
      SeedsAs pos (getOrCreatePositionLedger ledger pos.key pos.strategyId pos.market) entry →
      P (ledger.setPosition pos.key entry))
    {ledger : Ledger} (h : openingLedger reconciled positions = .ok ledger) : P ledger := by
  obtain ⟨mid, hmid, hrest⟩ := bind_eq_ok.1 h
  have hP : P mid := by
    refine foldlM_keeps P (fun b pos b' hmem hstep hb => ?_) hmid hempty
    rcases seedFromReconcile_cases hstep with rfl | ⟨hopen, entry, rfl, hs⟩
    · exact hb
    · exact hseed b pos entry (by simp [hmem]) hb hopen hs
  refine foldlM_keeps P (fun b pos b' hmem hstep hb => ?_) hrest hP
  rcases seedFromPosition_cases hstep with rfl | ⟨hopen, entry, rfl, hs⟩
  · exact hb
  · exact hseed b pos entry (by simp [hmem]) hb hopen hs

theorem openingLedger_books {reconciled positions : List PnLPositionFact} {ledger : Ledger}
    (h : openingLedger reconciled positions = .ok ledger) : ledger.Books ledger.totalCost :=
  openingLedger_keeps (fun l => l.Books l.totalCost) createEmptyLedger_books
    (fun _ _ _ _ hb hopen hs => hs.books hb hopen) h

/-! ## Signs of cost bases -/

/-- no seed is priced below zero -/
def PricedNonneg (positions : List PnLPositionFact) : Prop :=
  ∀ pos ∈ positions, ∀ s avg, pos.averageEntryPrice = some s → Host.valueOf s = some avg → 0 ≤ avg

theorem applyFill_costNonneg {ledger ledger' : Ledger} {fill : PnLFillFact} (h : applyFill ledger fill = .ok ledger')
    (hc : ledger.CostNonneg) : ledger'.CostNonneg := by
  have hentry : 0 ≤ (ledger.entry fill).costBasisKrw := hc.entry fill.key fill.strategyId fill.market
  cases applyFill_effect h with
  | skip => exact hc
  | buy cost hside hpos hcost => exact hc.write fill.key _ (by simp; rfl) (add_nonneg hentry hcost)
  | sell proceeds released hside hpos hheld hreleased =>
    refine hc.write fill.key _ (by simp; rfl) ?_
    have hq : 0 < (ledger.entry fill).quantity := lt_of_lt_of_le hpos hheld
    -- at average cost, no more than the lot's cost is released by selling no more than the lot
    have hle : released ≤ (ledger.entry fill).costBasisKrw := by
      rw [hreleased, div_mul_eq_mul_div, div_le_iff₀ hq]
      exact mul_le_mul_of_nonneg_left hheld hentry
    exact sub_nonneg.2 hle

theorem openingLedger_costNonneg {reconciled positions : List PnLPositionFact} {ledger : Ledger}
    (h : openingLedger reconciled positions = .ok ledger) (hp : PricedNonneg (reconciled ++ positions)) :
    ledger.CostNonneg := by
  refine openingLedger_keeps Ledger.CostNonneg (fun k pos hget => by simp [createEmptyLedger] at hget) ?_ h
  intro ledger pos entry hmem hc _ hs
  refine hc.write pos.key entry rfl ?_
  have hold := hc.entry pos.key pos.strategyId pos.market
  rcases hs with ⟨-, ⟨-, heq⟩ | ⟨hpos, -, ⟨-, heq⟩ | ⟨s, avg, hsome, hval, heq⟩⟩⟩
  · rw [heq]; exact hold
  · rw [heq]; exact hold
  · rw [heq]; exact mul_nonneg hpos.le (hp pos hmem s avg hsome hval)

/-! ## Quantities -/

/-- what the fills of one side booked on `key` add up to -/
def tradedQuantity (side : Side) (key : String) (fills : List PnLFillFact) : ℚ :=
  ((fills.filter (fun f => f.key = key ∧ f.side = side)).map (fun f => amount f.quantity)).sum

/-- bought minus sold -/
def netQuantity (key : String) (fills : List PnLFillFact) : ℚ :=
  tradedQuantity .buy key fills - tradedQuantity .sell key fills

/-- what a fill moves its position by -/
def signedQuantity (fill : PnLFillFact) : ℚ :=
  match fill.side with
  | .buy => amount fill.quantity
  | .sell => -amount fill.quantity

theorem netQuantity_cons (key : String) (fill : PnLFillFact) (fills : List PnLFillFact) :
    netQuantity key (fill :: fills) = (if fill.key = key then signedQuantity fill else 0) + netQuantity key fills := by
  unfold netQuantity tradedQuantity signedQuantity
  by_cases hk : fill.key = key
  · cases hs : fill.side
    · simp [hk, hs]; ring
    · simp [hk, hs]; ring
  · simp [hk]

@[simp] theorem netQuantity_nil (key : String) : netQuantity key [] = 0 := by simp [netQuantity, tradedQuantity]

theorem applyFill_quantity {ledger ledger' : Ledger} {fill : PnLFillFact} (h : applyFill ledger fill = .ok ledger')
    (key : String) : ledger'.quantityOf key = ledger.quantityOf key + netQuantity key [fill] := by
  rw [netQuantity_cons, netQuantity_nil, add_zero, signedQuantity]
  cases applyFill_effect h with
  | skip hzero => split_ifs <;> cases fill.side <;> simp [hzero]
  | buy cost hside hpos hcost =>
    rw [quantityOf_write ledger _ fill.key _ (by simp; rfl)]
    simp only [entry_quantity, hside]
    split_ifs with hk
    · rw [hk]
    · simp
  | sell proceeds released hside hpos hheld hreleased =>
    rw [quantityOf_write ledger _ fill.key _ (by simp; rfl)]
    simp only [entry_quantity, hside]
    split_ifs with hk
    · rw [hk]; ring
    · simp

theorem applyFillsToLedger_quantity {ledger ledger' : Ledger} {fills : List PnLFillFact}
    (h : applyFillsToLedger ledger fills = .ok ledger') (key : String) :
    ledger'.quantityOf key = ledger.quantityOf key + netQuantity key fills := by
  induction fills generalizing ledger with
  | nil =>
    have heq : ledger = ledger' := by simpa [applyFillsToLedger] using h
    simp [heq]
  | cons fill fills ih =>
    obtain ⟨mid, hmid, hrest⟩ := bind_eq_ok.1 (show (applyFill ledger fill >>= fun l => fills.foldlM applyFill l)
      = .ok ledger' from h)
    have hsplit : netQuantity key (fill :: fills) = netQuantity key [fill] + netQuantity key fills := by
      rw [netQuantity_cons, netQuantity_cons, netQuantity_nil, add_zero]
    rw [ih hrest, applyFill_quantity hmid, hsplit, add_assoc]

/-! ## Conservation -/

/-- **Conservation.** Over every replay from every list of seeds, cash plus cost bases equals realised PnL plus the
seeded cost; every position is non-negative, carries no cost when flat, carries no negative cost unless a seed was
priced below zero, and holds its seed plus what was bought minus what was sold. -/
theorem ledger_conservation {reconciled positions : List PnLPositionFact} {fills : List PnLFillFact}
    {opening ledger : Ledger} (hopening : openingLedger reconciled positions = .ok opening)
    (hreplay : applyFillsToLedger opening fills = .ok ledger) :
    ledger.cashKrw + ledger.totalCost = ledger.realizedPnlKrw + opening.totalCost ∧
    ∀ key pos, ledger.positions.get key = some pos →
      0 ≤ pos.quantity ∧ (pos.quantity = 0 → pos.costBasisKrw = 0) ∧
      (PricedNonneg (reconciled ++ positions) → 0 ≤ pos.costBasisKrw) ∧
      pos.quantity = opening.quantityOf key + tradedQuantity .buy key fills - tradedQuantity .sell key fills := by
  have hbooks := applyFillsToLedger_books hreplay (openingLedger_books hopening)
  refine ⟨hbooks.conserve, fun key pos hget => ⟨hbooks.held key pos hget, hbooks.flat key pos hget, ?_, ?_⟩⟩
  · intro hpriced
    have hcost := foldlM_keeps Ledger.CostNonneg (fun _ _ _ _ hstep => applyFill_costNonneg hstep) hreplay
      (openingLedger_costNonneg hopening hpriced)
    exact hcost key pos hget
  · have hq := applyFillsToLedger_quantity hreplay key
    rw [Ledger.quantityOf, hget, Option.map_some, Option.getD_some, netQuantity] at hq
    rw [hq]; ring

end Replay

/-- a seed of `quantity` at `price` -/
def seedAt (quantity price : String) : PnLPositionFact :=
  { strategyId := "s", market := "KRW-BTC", quantity := quantity, averageEntryPrice := some price,
    realizedPnl := "0", unrealizedPnl := none, updatedAt := .at 0, source := "positions" }

def fillAt (side : Side) (quantity price : String) (ms : Int) : PnLFillFact :=
  { orderId := "o", strategyId := "s", market := "KRW-BTC", side := side, price := price, quantity := quantity,
    fee := "1", feeCurrency := "KRW", liquidity := .taker, filledAt := .at ms }

/-- two seeded at 10, one bought at 13, three sold at 20 with a fee of 1 each: the lot closes with a profit of 25 -/
theorem ledger_conservation_closed_lot : ∃ opening ledger, openingLedger [] [seedAt "2" "10"] = .ok opening ∧
    applyFillsToLedger opening [fillAt .buy "1" "13" 1, fillAt .sell "3" "20" 2] = .ok ledger ∧
    ledger.cashKrw + ledger.totalCost = ledger.realizedPnlKrw + opening.totalCost := by
  obtain ⟨ledger, h⟩ := exists_ok (show (openingLedger [] [seedAt "2" "10"] >>= fun opening =>
    applyFillsToLedger opening [fillAt .buy "1" "13" 1, fillAt .sell "3" "20" 2]).toOption.isSome by decide +kernel)
  obtain ⟨opening, hopening, hreplay⟩ := bind_eq_ok.1 h
  exact ⟨opening, ledger, hopening, hreplay, (ledger_conservation hopening hreplay).1⟩

/-- a seed priced at -1 is admitted, and its position carries a cost basis of -1 -/
theorem negative_seed_cost : ∃ opening ledger pos, openingLedger [] [seedAt "1" "-1"] = .ok opening ∧
    applyFillsToLedger opening [] = .ok ledger ∧ ledger.positions.get "s::KRW-BTC" = some pos ∧
    ¬ 0 ≤ pos.costBasisKrw := by
  obtain ⟨opening, h⟩ := exists_ok (show (openingLedger [] [seedAt "1" "-1"]).toOption.isSome by decide +kernel)
  have hcost : ((openingLedger [] [seedAt "1" "-1"]).toOption.bind fun l =>
      (l.positions.get "s::KRW-BTC").map (·.costBasisKrw)) = some (-1) := by decide +kernel
  rw [h] at hcost
  simp only [Except.toOption, Option.bind_some, Option.map_eq_some_iff] at hcost
  obtain ⟨pos, hget, hneg⟩ := hcost
  exact ⟨opening, opening, pos, h, rfl, hget, by rw [hneg]; decide⟩

end SeeMirai.Pnl
