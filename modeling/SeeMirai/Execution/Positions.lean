/-
The position snapshot that stored fills keep (infrastructure/db/execution-persistence/position-repository.ts): one row
of `positions` for each exchange, market and strategy. A BUY fill inserts the row or mixes its price into the average; a
SELL fill takes what it can from the row there is, and leaves no trace where there is none.

PostgreSQL runs the two statements: every column on the right of SET is the old row's, the proposed row of an upsert
passes the table's checks before the conflict is looked at, and a failed check refuses the statement. NUMERIC columns
are exact rationals.

Results:
- `upsertBuyPositionFill_lot` / `applySellPositionFill_lot`: each statement is the trade at average cost.
- `fillByFill_lot`: a whole sequence of fills runs through and does what the run of trades does.
- `upsertPositionFromFills_table`: one call over all fills leaves the table that a call for each fill leaves.
- `Coupled`: a lot and the PnL ledger say the same of a scope; every fill that is held keeps it.
- `positions_agree_with_ledger`: the snapshot equals the fill ledger until something is oversold, and its profit is
  what the sales took in minus what the purchases cost plus what is left, oversold or not.
-/
import SeeMirai.Lib.AverageCost
import SeeMirai.Pnl.Completeness

namespace SeeMirai.Execution

open Fallible AverageCost

/-! ## Model -/

/-- the columns of an order that its position is found by: UNIQUE (exchange, market, strategy_id) -/
structure ExecutionOrderRecord where
  exchange : String
  market : String
  strategyId : String
deriving DecidableEq

/-- the columns of a `fills` row that the position is moved by -/
structure FillRecord where
  side : Pnl.Side
  price : String
  quantity : String
  filledAt : TimestampInput
deriving DecidableEq

/-- a row of `positions`, with the checks on its amounts -/
structure PositionRecord where
  quantity : ℚ
  averageEntryPrice : ℚ
  realizedPnl : ℚ
  unrealizedPnl : ℚ
  updatedAt : TimestampInput
  quantity_nonneg : 0 ≤ quantity
  average_nonneg : 0 ≤ averageEntryPrice
deriving DecidableEq

abbrev Positions := InsertionMap ExecutionOrderRecord PositionRecord

/-- `btrim(market) <> ''` -/
def namesMarket (market : String) : Bool := market.toList.any (· ≠ ' ')

def checkViolation : Thrown :=
  ⟨"DatabaseError", "new row for relation \"positions\" violates check constraint"⟩

/-- the row a statement proposes, if the checks of `positions` let it in -/
def proposePosition (market : String) (quantity average realized unrealized : ℚ) (updatedAt : TimestampInput) :
    Except Thrown PositionRecord :=
  if h : namesMarket market = true ∧ 0 ≤ quantity ∧ 0 ≤ average then
    pure ⟨quantity, average, realized, unrealized, updatedAt, h.2.1, h.2.2⟩
  else throw checkViolation

section Statements

variable [Host]

/-- `INSERT … ON CONFLICT (exchange, market, strategy_id) DO UPDATE … RETURNING *` -/
def upsertBuyPositionFill (positions : Positions) (order : ExecutionOrderRecord) (fill : FillRecord) :
    Except Thrown (PositionRecord × Positions) := do
  let quantity ← parseFinancialDecimal fill.quantity
  let price ← parseFinancialDecimal fill.price
  let excluded ← proposePosition order.market quantity price 0 0 fill.filledAt
  match positions.get order with
  | none => pure (excluded, positions.set order excluded)
  | some row =>
    let average :=
      if row.quantity + excluded.quantity = 0 then 0
      else (row.quantity * row.averageEntryPrice + excluded.quantity * excluded.averageEntryPrice)
        / (row.quantity + excluded.quantity)
    let updated ← proposePosition order.market (row.quantity + excluded.quantity) average row.realizedPnl
      row.unrealizedPnl excluded.updatedAt
    pure (updated, positions.set order updated)

/-- `UPDATE … WHERE exchange, market, strategy_id … RETURNING *`: nothing where there is no row -/
def applySellPositionFill (positions : Positions) (order : ExecutionOrderRecord) (fill : FillRecord) :
    Except Thrown (Option PositionRecord × Positions) := do
  let quantity ← parseFinancialDecimal fill.quantity
  let price ← parseFinancialDecimal fill.price
  match positions.get order with
  | none => pure (none, positions)
  | some row =>
    let average := if max (row.quantity - quantity) 0 = 0 then 0 else row.averageEntryPrice
    let updated ← proposePosition order.market (max (row.quantity - quantity) 0) average
      (row.realizedPnl + (price - row.averageEntryPrice) * min row.quantity quantity) row.unrealizedPnl fill.filledAt
    pure (some updated, positions.set order updated)

/-- one turn of the loop: the row the fill returned, and the table it left -/
def applyPositionFill (order : ExecutionOrderRecord) (state : Option PositionRecord × Positions) (fill : FillRecord) :
    Except Thrown (Option PositionRecord × Positions) :=
  match fill.side with
  | .buy => (fun done => (some done.1, done.2)) <$> upsertBuyPositionFill state.2 order fill
  | .sell => applySellPositionFill state.2 order fill

def upsertPositionFromFills (positions : Positions) (order : ExecutionOrderRecord) (fills : List FillRecord) :
    Except Thrown (Option PositionRecord × Positions) :=
  fills.foldlM (applyPositionFill order) (none, positions)

/-- a call for each fill; what is kept is the table -/
def fillByFill (order : ExecutionOrderRecord) (positions : Positions) (fills : List FillRecord) :
    Except Thrown Positions :=
  fills.foldlM (fun table fill => Prod.snd <$> upsertPositionFromFills table order [fill]) positions

end Statements

/-! ## What a row says -/

/-- the lot of a scope, flat where it has no row -/
def lotOf (positions : Positions) (order : ExecutionOrderRecord) : Lot ℚ :=
  match positions.get order with
  | none => Lot.flat
  | some row => ⟨row.quantity, row.averageEntryPrice, row.realizedPnl⟩

theorem lotOf_sound (positions : Positions) (order : ExecutionOrderRecord) : (lotOf positions order).Sound := by
  unfold lotOf
  split
  · exact Lot.flat_sound
  · rename_i row _
    exact ⟨row.quantity_nonneg, row.average_nonneg⟩

theorem lotOf_set (positions : Positions) (order : ExecutionOrderRecord) (row : PositionRecord) :
    lotOf (positions.set order row) order = ⟨row.quantity, row.averageEntryPrice, row.realizedPnl⟩ := by
  rw [lotOf, InsertionMap.get_set_self]

def quantityOf (positions : Positions) (order : ExecutionOrderRecord) : ℚ := (lotOf positions order).quantity

def averageOf (positions : Positions) (order : ExecutionOrderRecord) : ℚ := (lotOf positions order).average

def realizedOf (positions : Positions) (order : ExecutionOrderRecord) : ℚ := (lotOf positions order).realized

theorem proposePosition_ok {market : String} {quantity average : ℚ} (hmarket : namesMarket market = true)
    (hq : 0 ≤ quantity) (ha : 0 ≤ average) (realized unrealized : ℚ) (updatedAt : TimestampInput) :
    proposePosition market quantity average realized unrealized updatedAt
      = .ok ⟨quantity, average, realized, unrealized, updatedAt, hq, ha⟩ := by
  rw [proposePosition, dif_pos ⟨hmarket, hq, ha⟩]
  rfl

/-! ## Each statement is a trade at average cost -/

section Runs

variable [Host]

open Pnl (amount)

/-- `CHECK (price > 0)` and `CHECK (quantity > 0)` of `fills` -/
structure FillRecord.Stored (fill : FillRecord) : Prop where
  quantity_pos : 0 < amount fill.quantity
  price_pos : 0 < amount fill.price

def FillRecord.trade (fill : FillRecord) : Trade ℚ :=
  match fill.side with
  | .buy => .buy (amount fill.quantity) (amount fill.price)
  | .sell => .sell (amount fill.quantity) (amount fill.price)

theorem FillRecord.Stored.trade_sound {fill : FillRecord} (h : fill.Stored) : fill.trade.Sound := by
  unfold FillRecord.trade
  cases fill.side with
  | buy => exact ⟨h.quantity_pos, h.price_pos.le⟩
  | sell => exact ⟨h.quantity_pos, h.price_pos.le⟩

/-- a text that reads as a positive amount is parsed to it -/
theorem parseFinancialDecimal_of_pos {s : String} (h : 0 < amount s) : parseFinancialDecimal s = .ok (amount s) := by
  apply parseFinancialDecimal_eq_ok.2
  unfold amount at h ⊢
  cases hv : Host.valueOf s with
  | none => simp [hv] at h
  | some q => rfl

theorem upsertBuyPositionFill_lot (positions : Positions) {order : ExecutionOrderRecord} {fill : FillRecord}
    (hmarket : namesMarket order.market = true) (h : fill.Stored) :
    ∃ row table, upsertBuyPositionFill positions order fill = .ok (row, table) ∧
      lotOf table order = (lotOf positions order).buy (amount fill.quantity) (amount fill.price) := by
  have hproposed := proposePosition_ok hmarket h.quantity_pos.le h.price_pos.le 0 0 fill.filledAt
  simp only [upsertBuyPositionFill, parseFinancialDecimal_of_pos h.quantity_pos,
    parseFinancialDecimal_of_pos h.price_pos, hproposed, ok_bind]
  cases hrow : positions.get order with
  | none =>
    refine ⟨_, _, rfl, ?_⟩
    rw [lotOf_set, lotOf, hrow]
    exact (Lot.flat_buy h.quantity_pos _).symm
  | some row =>
    have hlot : lotOf positions order = ⟨row.quantity, row.averageEntryPrice, row.realizedPnl⟩ := by
      rw [lotOf, hrow]
    have hsound := (lotOf_sound positions order).buy h.quantity_pos.le h.price_pos.le
    rw [hlot] at hsound ⊢
    have hupdated := proposePosition_ok hmarket hsound.held hsound.priced row.realizedPnl row.unrealizedPnl
      fill.filledAt
    simp only [Lot.buy] at hupdated
    simp only [hupdated, ok_bind]
    refine ⟨_, _, rfl, ?_⟩
    rw [lotOf_set]
    rfl

theorem applySellPositionFill_lot (positions : Positions) {order : ExecutionOrderRecord} {fill : FillRecord}
    (hmarket : namesMarket order.market = true) (h : fill.Stored) :
    ∃ row table, applySellPositionFill positions order fill = .ok (row, table) ∧
      lotOf table order = (lotOf positions order).sell (amount fill.quantity) (amount fill.price) := by
  simp only [applySellPositionFill, parseFinancialDecimal_of_pos h.quantity_pos,
    parseFinancialDecimal_of_pos h.price_pos, ok_bind]
  cases hrow : positions.get order with
  | none =>
    refine ⟨_, _, rfl, ?_⟩
    rw [lotOf, hrow]
    exact (Lot.flat_sell h.quantity_pos.le _).symm
  | some row =>
    have hlot : lotOf positions order = ⟨row.quantity, row.averageEntryPrice, row.realizedPnl⟩ := by
      rw [lotOf, hrow]
    have hsound := (lotOf_sound positions order).sell (amount fill.quantity) (amount fill.price)
    rw [hlot] at hsound ⊢
    have hupdated := proposePosition_ok hmarket hsound.held hsound.priced
      (row.realizedPnl + (amount fill.price - row.averageEntryPrice) * min row.quantity (amount fill.quantity))
      row.unrealizedPnl fill.filledAt
    simp only [Lot.sell] at hupdated
    simp only [hupdated, ok_bind]
    refine ⟨_, _, rfl, ?_⟩
    rw [lotOf_set]
    rfl

/-- one fill, whatever was returned before it -/
theorem applyPositionFill_lot (last : Option PositionRecord) (positions : Positions) {order : ExecutionOrderRecord}
    {fill : FillRecord} (hmarket : namesMarket order.market = true) (h : fill.Stored) :
    ∃ row table, applyPositionFill order (last, positions) fill = .ok (row, table) ∧
      lotOf table order = (lotOf positions order).apply fill.trade := by
  unfold applyPositionFill FillRecord.trade
  cases fill.side with
  | buy =>
    obtain ⟨row, table, hstep, hlot⟩ := upsertBuyPositionFill_lot positions hmarket h
    refine ⟨some row, table, ?_, hlot⟩
    simp only [hstep]
    rfl
  | sell => exact applySellPositionFill_lot positions hmarket h

theorem upsertPositionFromFills_single (positions : Positions) (order : ExecutionOrderRecord) (fill : FillRecord) :
    upsertPositionFromFills positions order [fill] = applyPositionFill order (none, positions) fill := by
  simp [upsertPositionFromFills]

theorem fillByFill_cons (order : ExecutionOrderRecord) (positions : Positions) (fill : FillRecord)
    (fills : List FillRecord) : fillByFill order positions (fill :: fills)
      = applyPositionFill order (none, positions) fill >>= fun done => fillByFill order done.2 fills := by
  simp only [fillByFill, List.foldlM_cons, upsertPositionFromFills_single]
  cases applyPositionFill order (none, positions) fill with
  | error e => rfl
  | ok done => rfl

/-- **Fill by fill.** Every sequence of stored fills runs through, and the scope's row does what the trades do. -/
theorem fillByFill_lot {order : ExecutionOrderRecord} (hmarket : namesMarket order.market = true)
    {fills : List FillRecord} (h : ∀ fill ∈ fills, fill.Stored) (positions : Positions) :
    ∃ table, fillByFill order positions fills = .ok table ∧
      lotOf table order = (lotOf positions order).run (fills.map FillRecord.trade) := by
  induction fills generalizing positions with
  | nil => exact ⟨positions, rfl, rfl⟩
  | cons fill fills ih =>
    obtain ⟨row, mid, hstep, hlot⟩ := applyPositionFill_lot none positions hmarket (h fill List.mem_cons_self)
    obtain ⟨table, hrest, hrun⟩ := ih (fun f hf => h f (List.mem_cons_of_mem fill hf)) mid
    refine ⟨table, ?_, ?_⟩
    · rw [fillByFill_cons, hstep]
      exact hrest
    · rw [hrun, hlot]
      rfl

/-- a turn reads the table only -/
theorem applyPositionFill_last (order : ExecutionOrderRecord) (last last' : Option PositionRecord)
    (positions : Positions) (fill : FillRecord) :
    applyPositionFill order (last, positions) fill = applyPositionFill order (last', positions) fill := rfl

/-- one call over all fills leaves the table that a call for each of them leaves -/
theorem upsertPositionFromFills_table (order : ExecutionOrderRecord) (positions : Positions) (fills : List FillRecord) :
    Prod.snd <$> upsertPositionFromFills positions order fills = fillByFill order positions fills := by
  suffices h : ∀ last, Prod.snd <$> fills.foldlM (applyPositionFill order) (last, positions)
      = fillByFill order positions fills from h none
  induction fills generalizing positions with
  | nil => intro last; rfl
  | cons fill fills ih =>
    intro last
    rw [fillByFill_cons, List.foldlM_cons, applyPositionFill_last order last none]
    cases hstep : applyPositionFill order (none, positions) fill with
    | error e => rfl
    | ok state => exact ih state.2 state.1

/-! ## The coupling with the fill ledger -/

/-- the `fills` row that a fact is read from -/
def FillRecord.ofFact (fact : Pnl.PnLFillFact) : FillRecord := ⟨fact.side, fact.price, fact.quantity, fact.filledAt⟩

/-- a lot and a ledger say the same of a scope: quantity, cost basis and realised profit -/
structure Coupled (key : String) (lot : Lot ℚ) (ledger : Pnl.Ledger) : Prop where
  quantity : lot.quantity = ledger.quantityOf key
  cost : lot.worth = ledger.costOf key
  realized : lot.realized = ledger.realizedPnlKrw

theorem parseNonNegativeDecimal_of_pos {s : String} (h : 0 < amount s) :
    Pnl.parseNonNegativeDecimal s = .ok (amount s) := by
  have hvalue := parseFinancialDecimal_of_pos h
  unfold parseFinancialDecimal at hvalue
  obtain ⟨d, hd, hdv⟩ := map_eq_ok.1 hvalue
  have hsign : d.isNegative = false := by
    have hs := d.sign
    cases hn : d.isNegative with
    | false => rfl
    | true =>
      rw [hn, if_pos rfl, hdv] at hs
      exact absurd h (not_lt.2 hs)
  simp only [Pnl.parseNonNegativeDecimal, hd, ok_bind, hsign]
  rw [← hdv]
  rfl

omit [Host] in
theorem createEmptyLedger_coupled (key : String) : Coupled key Lot.flat Pnl.createEmptyLedger where
  quantity := by simp [Lot.flat, Pnl.createEmptyLedger, Pnl.Ledger.quantityOf]
  cost := by simp [Lot.flat, Lot.worth, Pnl.createEmptyLedger, Pnl.Ledger.costOf]
  realized := rfl

omit [Host] in
/-- the ledger after a fill that moved cash and profit and wrote `pos` under the fill's key -/
theorem Coupled.write {key : String} {lot : Lot ℚ} {ledger' : Pnl.Ledger}
    {positions : InsertionMap String Pnl.PositionLedger} {pos : Pnl.PositionLedger}
    (hpositions : ledger'.positions = positions.set key pos) (hq : lot.quantity = pos.quantity)
    (hcost : lot.worth = pos.costBasisKrw) (hrealized : lot.realized = ledger'.realizedPnlKrw) : Coupled key lot ledger' where
  quantity := by rw [hq, Pnl.Ledger.quantityOf, hpositions, InsertionMap.get_set_self]; rfl
  cost := by rw [hcost, Pnl.Ledger.costOf, hpositions, InsertionMap.get_set_self]; rfl
  realized := hrealized

/-- a fill without a fee, of no more than is held if it sells, goes into the ledger as the trade goes into the lot -/
theorem Coupled.applyFill {lot : Lot ℚ} {ledger : Pnl.Ledger} {fact : Pnl.PnLFillFact} (h : Coupled fact.key lot ledger)
    (hlot : lot.Sound) (hstored : (FillRecord.ofFact fact).Stored) (hfee : Pnl.parseNonNegativeDecimal fact.fee = .ok 0)
    (hheld : fact.side = .sell → amount fact.quantity ≤ lot.quantity) :
    ∃ ledger', Pnl.applyFill ledger fact = .ok ledger' ∧
      Coupled fact.key (lot.apply (FillRecord.ofFact fact).trade) ledger' := by
  have hq : 0 < amount fact.quantity := hstored.quantity_pos
  have hp : 0 < amount fact.price := hstored.price_pos
  have hentryQuantity : (ledger.entry fact).quantity = lot.quantity := by rw [Pnl.entry_quantity, h.quantity]
  have hentryCost : (ledger.entry fact).costBasisKrw = lot.worth := by rw [Pnl.entry_cost, h.cost]
  have hentry : Pnl.getOrCreatePositionLedger (ledger.countOrder fact.orderId) fact.key fact.strategyId fact.market
      = ledger.entry fact := by
    rw [Pnl.getOrCreatePositionLedger, Pnl.countOrder_positions, Pnl.Ledger.entry, Pnl.getOrCreatePositionLedger]
  simp only [Pnl.applyFill, parseNonNegativeDecimal_of_pos hq, parseNonNegativeDecimal_of_pos hp, hfee, ok_bind,
    ite_self, if_neg hq.ne', hentry]
  cases hside : fact.side with
  | buy =>
    refine ⟨_, rfl, Coupled.write rfl ?_ ?_ ?_⟩
    · simp only [FillRecord.ofFact, FillRecord.trade, hside, Lot.apply, Lot.buy, hentryQuantity]
    · simp only [FillRecord.ofFact, FillRecord.trade, hside, Lot.apply, hentryCost]
      rw [Lot.buy_worth hlot.held hq]
      ring
    · simp only [FillRecord.ofFact, FillRecord.trade, hside, Lot.apply, Lot.buy, Pnl.setPosition_realized,
        Pnl.countOrder_realized, h.realized]
  | sell =>
    have hle := hheld hside
    have hne : lot.quantity ≠ 0 := (hq.trans_le hle).ne'
    have hall := Lot.taken_of_le hle
    have haverage : lot.worth / lot.quantity = lot.average := by
      rw [Lot.worth, mul_div_cancel_left₀ _ hne]
    simp only [hentryQuantity, hentryCost, if_neg (not_lt.2 hle), if_neg hne, haverage]
    refine ⟨_, rfl, Coupled.write rfl ?_ ?_ ?_⟩
    · simp only [FillRecord.ofFact, FillRecord.trade, hside, Lot.apply]
      rw [Lot.sell_quantity, hall]
    · simp only [FillRecord.ofFact, FillRecord.trade, hside, Lot.apply]
      rw [Lot.sell_worth, hall]
      split_ifs with hclosed
      · rw [← sub_eq_zero.1 hclosed, Lot.worth]
        ring
      · rfl
    · simp only [FillRecord.ofFact, FillRecord.trade, hside, Lot.apply, Lot.sell, Pnl.countOrder_realized, h.realized,
        hall]
      ring

/-- no SELL exceeds what the fills before it come to -/
def NeverOversells (facts : List Pnl.PnLFillFact) : Prop :=
  ∀ before fact after, facts = before ++ fact :: after → fact.side = .sell →
    amount fact.quantity ≤ (before.map Pnl.signedQuantity).sum

/-- while nothing is oversold a trade moves the quantity by the fill's signed amount -/
theorem apply_quantity {lot : Lot ℚ} {fact : Pnl.PnLFillFact}
    (hheld : fact.side = .sell → amount fact.quantity ≤ lot.quantity) :
    (lot.apply (FillRecord.ofFact fact).trade).quantity = lot.quantity + Pnl.signedQuantity fact := by
  cases hside : fact.side with
  | buy => simp only [FillRecord.ofFact, FillRecord.trade, hside, Lot.apply, Lot.buy, Pnl.signedQuantity]
  | sell =>
    simp only [FillRecord.ofFact, FillRecord.trade, hside, Lot.apply, Pnl.signedQuantity]
    rw [Lot.sell_quantity, Lot.taken_of_le (hheld hside)]
    ring

/-- a replay that never oversells, from a coupled lot and ledger, ends coupled -/
theorem Coupled.applyFillsToLedger {key : String} {facts : List Pnl.PnLFillFact} (hkey : ∀ fact ∈ facts, fact.key = key)
    (hstored : ∀ fact ∈ facts, (FillRecord.ofFact fact).Stored)
    (hfee : ∀ fact ∈ facts, Pnl.parseNonNegativeDecimal fact.fee = .ok 0) {lot : Lot ℚ} {ledger : Pnl.Ledger}
    (h : Coupled key lot ledger) (hlot : lot.Sound)
    (hheld : ∀ before fact after, facts = before ++ fact :: after → fact.side = .sell →
      amount fact.quantity ≤ lot.quantity + (before.map Pnl.signedQuantity).sum) :
    ∃ ledger', Pnl.applyFillsToLedger ledger facts = .ok ledger' ∧
      Coupled key (lot.run (facts.map fun fact => (FillRecord.ofFact fact).trade)) ledger' := by
  induction facts generalizing lot ledger with
  | nil => exact ⟨ledger, rfl, h⟩
  | cons fact facts ih =>
    have hfirst : fact.side = .sell → amount fact.quantity ≤ lot.quantity := by
      intro hside
      have hle := hheld [] fact facts rfl hside
      simpa using hle
    have hmem : fact ∈ fact :: facts := List.mem_cons_self
    have hfact := hkey fact hmem
    subst hfact
    obtain ⟨mid, hstep, hmid⟩ := h.applyFill hlot (hstored fact hmem) (hfee fact hmem) hfirst
    have hrest : ∀ before fact' after, facts = before ++ fact' :: after → fact'.side = .sell → amount fact'.quantity
        ≤ (lot.apply (FillRecord.ofFact fact).trade).quantity + (before.map Pnl.signedQuantity).sum := by
      intro before fact' after heq hside
      have hle := hheld (fact :: before) fact' after (by rw [heq]; rfl) hside
      rw [List.map_cons, List.sum_cons] at hle
      rw [apply_quantity hfirst]
      linarith
    obtain ⟨ledger', hrun, hcoupled⟩ := ih (fun f hf => hkey f (List.mem_cons_of_mem fact hf))
      (fun f hf => hstored f (List.mem_cons_of_mem fact hf)) (fun f hf => hfee f (List.mem_cons_of_mem fact hf)) hmid
      (apply_sound hlot (hstored fact hmem).trade_sound) hrest
    refine ⟨ledger', ?_, hcoupled⟩
    simp only [Pnl.applyFillsToLedger, List.foldlM_cons, hstep]
    exact hrun

/-! ## Both sides together -/

/-- the proceeds of what the SELL fills of a sequence really take out of the scope's row -/
def deductedProceeds (order : ExecutionOrderRecord) (positions : Positions) : List FillRecord → ℚ
  | [] => 0
  | fill :: fills =>
    match upsertPositionFromFills positions order [fill] with
    | .error _ => 0
    | .ok (_, table) =>
      (match fill.side with
        | .buy => 0
        | .sell => amount fill.price * (quantityOf positions order - quantityOf table order))
        + deductedProceeds order table fills

/-- what the BUY fills of a sequence cost -/
def buyNotional (fills : List FillRecord) : ℚ :=
  ((fills.filter (·.side = .buy)).map fun fill => amount fill.quantity * amount fill.price).sum

theorem deductedProceeds_lot {order : ExecutionOrderRecord} (hmarket : namesMarket order.market = true)
    {fills : List FillRecord} (h : ∀ fill ∈ fills, fill.Stored) (positions : Positions) :
    deductedProceeds order positions fills = proceeds (lotOf positions order) (fills.map FillRecord.trade) := by
  induction fills generalizing positions with
  | nil => rfl
  | cons fill fills ih =>
    obtain ⟨row, mid, hstep, hlot⟩ := applyPositionFill_lot none positions hmarket (h fill List.mem_cons_self)
    have hrest := ih (fun f hf => h f (List.mem_cons_of_mem fill hf)) mid
    rw [deductedProceeds, upsertPositionFromFills_single, hstep, List.map_cons, proceeds, ← hlot, ← hrest]
    simp only [quantityOf, hlot]
    congr 1
    cases hside : fill.side with
    | buy => simp only [FillRecord.trade, hside, Trade.earned]
    | sell =>
      simp only [FillRecord.trade, hside, Trade.earned, Lot.apply]
      rw [Lot.sell_quantity]
      ring

theorem buyNotional_spent (fills : List FillRecord) :
    buyNotional fills = ((fills.map FillRecord.trade).map Trade.spent).sum := by
  induction fills with
  | nil => rfl
  | cons fill fills ih =>
    unfold buyNotional at ih ⊢
    rw [List.map_cons, List.map_cons, List.sum_cons, ← ih]
    cases hside : fill.side with
    | buy => simp [hside, FillRecord.trade, Trade.spent]
    | sell => simp [hside, FillRecord.trade, Trade.spent]

/-- **Positions agree with the fill ledger.** From no row, and over every sequence of stored fills of one scope: without
fees and while no SELL exceeds what is held, the row has the quantity, the cost basis and the realised profit of the
ledger; and in any case its quantity is not negative and its profit is what the deducted quantities brought in, minus
what the purchases cost, plus what is left at its average. -/
theorem positions_agree_with_ledger (order : ExecutionOrderRecord) (hmarket : namesMarket order.market = true)
    (positions : Positions) (hnew : positions.get order = none) (facts : List Pnl.PnLFillFact)
    (hscope : ∀ fact ∈ facts, fact.strategyId = order.strategyId ∧ fact.market = order.market)
    (hstored : ∀ fact ∈ facts, (FillRecord.ofFact fact).Stored) :
    ((∀ fact ∈ facts, Pnl.parseNonNegativeDecimal fact.fee = .ok 0) → NeverOversells facts →
      ∃ table ledger, fillByFill order positions (facts.map FillRecord.ofFact) = .ok table ∧
        Pnl.applyFillsToLedger Pnl.createEmptyLedger facts = .ok ledger ∧
        quantityOf table order = ledger.quantityOf (Pnl.scopeKey order.strategyId (some order.market)) ∧
        quantityOf table order * averageOf table order
          = ledger.costOf (Pnl.scopeKey order.strategyId (some order.market)) ∧
        realizedOf table order = ledger.realizedPnlKrw) ∧
    ∃ table, fillByFill order positions (facts.map FillRecord.ofFact) = .ok table ∧ 0 ≤ quantityOf table order ∧
      realizedOf table order = deductedProceeds order positions (facts.map FillRecord.ofFact)
        - buyNotional (facts.map FillRecord.ofFact) + quantityOf table order * averageOf table order := by
  have hfills : ∀ fill ∈ facts.map FillRecord.ofFact, fill.Stored := by
    intro fill hfill
    obtain ⟨fact, hfact, rfl⟩ := List.mem_map.1 hfill
    exact hstored fact hfact
  have hflat : lotOf positions order = Lot.flat := by rw [lotOf, hnew]
  obtain ⟨table, hrun, hlot⟩ := fillByFill_lot hmarket hfills positions
  rw [hflat] at hlot
  refine ⟨?_, table, hrun, (lotOf_sound table order).held, ?_⟩
  · intro hfee hheld
    have hkey : ∀ fact ∈ facts, fact.key = Pnl.scopeKey order.strategyId (some order.market) := by
      intro fact hfact
      rw [Pnl.PnLFillFact.key, (hscope fact hfact).1, (hscope fact hfact).2]
    have hcovered : ∀ before fact after, facts = before ++ fact :: after → fact.side = .sell →
        amount fact.quantity ≤ (Lot.flat : Lot ℚ).quantity + (before.map Pnl.signedQuantity).sum := by
      intro before fact after heq hside
      have hle := hheld before fact after heq hside
      rw [Lot.flat, zero_add]
      exact hle
    obtain ⟨ledger, hreplay, hcoupled⟩ := (createEmptyLedger_coupled _).applyFillsToLedger hkey hstored hfee
      Lot.flat_sound hcovered
    refine ⟨table, ledger, hrun, hreplay, ?_, ?_, ?_⟩
    · rw [← hcoupled.quantity, quantityOf, hlot, List.map_map]
      rfl
    · rw [← hcoupled.cost, quantityOf, averageOf, hlot, List.map_map]
      rfl
    · rw [← hcoupled.realized, realizedOf, hlot, List.map_map]
      rfl
  · have htrades : ∀ trade ∈ (facts.map FillRecord.ofFact).map FillRecord.trade, trade.Sound := by
      intro trade htrade
      obtain ⟨fill, hfill, rfl⟩ := List.mem_map.1 htrade
      exact (hfills fill hfill).trade_sound
    have hprofit := run_profit Lot.flat_sound htrades
    rw [← hlot, ← buyNotional_spent, ← hflat, ← deductedProceeds_lot hmarket hfills, hflat] at hprofit
    simp only [Lot.flat, Lot.worth, zero_mul, sub_zero, zero_add] at hprofit
    unfold realizedOf quantityOf averageOf
    linarith

end Runs

def tradedFill (side : Pnl.Side) (quantity price : String) : Pnl.PnLFillFact :=
  { orderId := "o", strategyId := "s", market := "KRW-BTC", side := side, price := price, quantity := quantity,
    fee := "0", feeCurrency := "KRW", liquidity := .taker, filledAt := .at 0 }

def tradedOrder : ExecutionOrderRecord := ⟨"upbit", "KRW-BTC", "s"⟩

/-- two bought at 10 and one sold at 14 on both sides; three sold of the one that is left take only one -/
theorem positions_agree_with_ledger_bought_two :
    (∃ table ledger, fillByFill tradedOrder InsertionMap.empty
        ([tradedFill .buy "2" "10", tradedFill .sell "1" "14"].map FillRecord.ofFact) = .ok table ∧
      Pnl.applyFillsToLedger Pnl.createEmptyLedger [tradedFill .buy "2" "10", tradedFill .sell "1" "14"] = .ok ledger ∧
      realizedOf table tradedOrder = ledger.realizedPnlKrw) ∧
    ∃ table, fillByFill tradedOrder InsertionMap.empty
        ([tradedFill .buy "2" "10", tradedFill .sell "1" "14", tradedFill .sell "3" "14"].map FillRecord.ofFact)
        = .ok table ∧ 0 ≤ quantityOf table tradedOrder := by
  have hscope : ∀ side quantity price, (tradedFill side quantity price).strategyId = tradedOrder.strategyId ∧
      (tradedFill side quantity price).market = tradedOrder.market := fun _ _ _ => ⟨rfl, rfl⟩
  have hbought : (FillRecord.ofFact (tradedFill .buy "2" "10")).Stored := ⟨by decide +kernel, by decide +kernel⟩
  have hsold : (FillRecord.ofFact (tradedFill .sell "1" "14")).Stored := ⟨by decide +kernel, by decide +kernel⟩
  have hoversold : (FillRecord.ofFact (tradedFill .sell "3" "14")).Stored := ⟨by decide +kernel, by decide +kernel⟩
  have hfee : ∀ side quantity price, Pnl.parseNonNegativeDecimal (tradedFill side quantity price).fee = .ok 0 := by
    intro side quantity price
    change Pnl.parseNonNegativeDecimal "0" = .ok 0
    decide +kernel
  have hheld : NeverOversells [tradedFill .buy "2" "10", tradedFill .sell "1" "14"] := by
    intro before fact after heq hside
    rcases before with _ | ⟨first, _ | ⟨second, rest⟩⟩
    · simp only [List.nil_append, List.cons.injEq] at heq
      rw [← heq.1] at hside
      cases hside
    · simp only [List.cons_append, List.nil_append, List.cons.injEq] at heq
      rw [← heq.1, ← heq.2.1]
      decide +kernel
    · simp at heq
  constructor
  · obtain ⟨table, ledger, hrun, hreplay, -, -, hrealized⟩ := (positions_agree_with_ledger tradedOrder (by decide)
      InsertionMap.empty rfl [tradedFill .buy "2" "10", tradedFill .sell "1" "14"] (by simp [hscope])
      (by simp [hbought, hsold])).1 (by simp [hfee]) hheld
    exact ⟨table, ledger, hrun, hreplay, hrealized⟩
  · obtain ⟨table, hrun, hquantity, -⟩ := (positions_agree_with_ledger tradedOrder (by decide) InsertionMap.empty rfl
      [tradedFill .buy "2" "10", tradedFill .sell "1" "14", tradedFill .sell "3" "14"] (by simp [hscope])
      (by simp [hbought, hsold, hoversold])).2
    exact ⟨table, hrun, hquantity⟩

end SeeMirai.Execution
