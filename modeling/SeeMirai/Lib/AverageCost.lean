/-
Stock kept at average cost: a quantity, the average price paid for it, and the profit realised so far. A purchase mixes
its price into the average; a sale realises the difference to the average on what it takes, which is no more than what
is there, and an emptied lot forgets its average.

Results:
- `buy_worth` / `sell_worth`: what a trade does to the worth of a lot at its average.
- `taken_of_le`: a sale of no more than is held takes all of it.
- `run_profit`: over every run of trades, realised profit minus worth moves by what the sales brought in minus what the
  purchases cost. Oversold quantities bring in nothing.
-/
import Mathlib.Tactic
import Mathlib.Algebra.Order.Field.Basic

namespace SeeMirai.AverageCost

structure Lot (K : Type*) where
  quantity : K
  average : K
  realized : K

inductive Trade (K : Type*) where
  | buy (quantity price : K)
  | sell (quantity price : K)

section Lots

variable {K : Type*} [Field K] [LinearOrder K] [IsStrictOrderedRing K]

namespace Lot

def flat : Lot K := ⟨0, 0, 0⟩

/-- the lot at its average price -/
def worth (lot : Lot K) : K := lot.quantity * lot.average

/-- what a sale of `quantity` takes out of the lot -/
def taken (lot : Lot K) (quantity : K) : K := min lot.quantity quantity

def buy (lot : Lot K) (quantity price : K) : Lot K :=
  { lot with
    quantity := lot.quantity + quantity
    average := if lot.quantity + quantity = 0 then 0
      else (lot.quantity * lot.average + quantity * price) / (lot.quantity + quantity) }

def sell (lot : Lot K) (quantity price : K) : Lot K where
  quantity := max (lot.quantity - quantity) 0
  average := if max (lot.quantity - quantity) 0 = 0 then 0 else lot.average
  realized := lot.realized + (price - lot.average) * lot.taken quantity

/-- neither the quantity nor the average is negative -/
structure Sound (lot : Lot K) : Prop where
  held : 0 ≤ lot.quantity
  priced : 0 ≤ lot.average

omit [Field K] [IsStrictOrderedRing K] in
theorem taken_of_le {lot : Lot K} {quantity : K} (h : quantity ≤ lot.quantity) : lot.taken quantity = quantity :=
  min_eq_right h

theorem buy_worth {lot : Lot K} (h : 0 ≤ lot.quantity) {quantity : K} (hq : 0 < quantity) (price : K) :
    (lot.buy quantity price).worth = lot.worth + quantity * price := by
  have hsum : lot.quantity + quantity ≠ 0 := (add_pos_of_nonneg_of_pos h hq).ne'
  simp only [worth, buy, if_neg hsum]
  exact mul_div_cancel₀ _ hsum

theorem sell_quantity (lot : Lot K) (quantity price : K) :
    (lot.sell quantity price).quantity = lot.quantity - lot.taken quantity := by
  simp only [sell, taken]
  rcases le_total lot.quantity quantity with h | h
  · rw [max_eq_right (sub_nonpos.2 h), min_eq_left h, sub_self]
  · rw [max_eq_left (sub_nonneg.2 h), min_eq_right h]

theorem sell_worth (lot : Lot K) (quantity price : K) :
    (lot.sell quantity price).worth = lot.worth - lot.average * lot.taken quantity := by
  have hq := sell_quantity lot quantity price
  simp only [worth] at *
  rw [hq]
  simp only [sell] at *
  split_ifs with hempty
  · -- an emptied lot was taken whole
    have hall : lot.quantity = lot.taken quantity := by
      rw [hempty] at hq
      exact sub_eq_zero.1 hq.symm
    rw [← hall]
    ring
  · ring

theorem Sound.buy {lot : Lot K} (h : lot.Sound) {quantity price : K} (hq : 0 ≤ quantity) (hp : 0 ≤ price) :
    (lot.buy quantity price).Sound := by
  have hsum : 0 ≤ lot.quantity + quantity := add_nonneg h.held hq
  refine ⟨hsum, ?_⟩
  simp only [Lot.buy]
  split_ifs
  · exact le_rfl
  · exact div_nonneg (add_nonneg (mul_nonneg h.held h.priced) (mul_nonneg hq hp)) hsum

omit [IsStrictOrderedRing K] in
theorem Sound.sell {lot : Lot K} (h : lot.Sound) (quantity price : K) : (lot.sell quantity price).Sound := by
  refine ⟨le_max_right _ _, ?_⟩
  simp only [Lot.sell]
  split_ifs
  · exact le_rfl
  · exact h.priced

omit [IsStrictOrderedRing K] in
theorem flat_sound : (flat : Lot K).Sound := ⟨le_rfl, le_rfl⟩

/-- there is nothing to sell in a flat lot -/
theorem flat_sell {quantity : K} (h : 0 ≤ quantity) (price : K) : (flat : Lot K).sell quantity price = flat := by
  have hmax : max (0 - quantity) 0 = (0 : K) := max_eq_right (by rw [zero_sub]; exact neg_nonpos.2 h)
  have hmin : min 0 quantity = (0 : K) := min_eq_left h
  simp only [sell, taken, flat, hmax, hmin]
  simp

omit [IsStrictOrderedRing K] in
/-- the first purchase opens the lot at its price -/
theorem flat_buy {quantity : K} (h : 0 < quantity) (price : K) :
    (flat : Lot K).buy quantity price = ⟨quantity, price, 0⟩ := by
  have hprice : quantity * price / quantity = price := mul_div_cancel_left₀ price h.ne'
  simp only [buy, flat, zero_add, zero_mul, if_neg h.ne', hprice]

/-! ## Runs of trades -/

def apply (lot : Lot K) : Trade K → Lot K
  | .buy quantity price => lot.buy quantity price
  | .sell quantity price => lot.sell quantity price

def run (lot : Lot K) (trades : List (Trade K)) : Lot K := trades.foldl apply lot

end Lot

namespace Trade

/-- a trade moves a positive quantity at a price that is not negative -/
def Sound : Trade K → Prop
  | buy quantity price => 0 < quantity ∧ 0 ≤ price
  | sell quantity price => 0 < quantity ∧ 0 ≤ price

/-- what a trade costs its buyer -/
def spent : Trade K → K
  | buy quantity price => quantity * price
  | sell _ _ => 0

/-- what a trade brings in, sold from `lot` -/
def earned (lot : Lot K) : Trade K → K
  | buy _ _ => 0
  | sell quantity price => price * lot.taken quantity

end Trade

/-- what the sales of a run bring in -/
def proceeds (lot : Lot K) : List (Trade K) → K
  | [] => 0
  | trade :: trades => trade.earned lot + proceeds (lot.apply trade) trades

theorem apply_sound {lot : Lot K} (h : lot.Sound) {trade : Trade K} (ht : trade.Sound) : (lot.apply trade).Sound := by
  cases trade with
  | buy quantity price => exact h.buy ht.1.le ht.2
  | sell quantity price => exact h.sell quantity price

theorem run_sound {lot : Lot K} (h : lot.Sound) {trades : List (Trade K)} (ht : ∀ trade ∈ trades, trade.Sound) :
    (lot.run trades).Sound := by
  induction trades generalizing lot with
  | nil => exact h
  | cons trade trades ih =>
    exact ih (apply_sound h (ht trade List.mem_cons_self)) fun t hmem => ht t (List.mem_cons_of_mem trade hmem)

/-- one trade: profit minus worth moves by what came in minus what was paid -/
theorem apply_profit {lot : Lot K} (h : lot.Sound) {trade : Trade K} (ht : trade.Sound) :
    (lot.apply trade).realized - (lot.apply trade).worth
      = lot.realized - lot.worth + trade.earned lot - trade.spent := by
  cases trade with
  | buy quantity price =>
    simp only [Lot.apply, Trade.earned, Trade.spent]
    rw [Lot.buy_worth h.held ht.1]
    simp only [Lot.buy]
    ring
  | sell quantity price =>
    simp only [Lot.apply, Trade.earned, Trade.spent]
    rw [Lot.sell_worth]
    simp only [Lot.sell]
    ring

/-- **Profit over a run.** From every lot and over every run of trades, realised profit minus worth moves by the
proceeds of what the sales really took minus what the purchases cost. -/
theorem run_profit {lot : Lot K} (h : lot.Sound) {trades : List (Trade K)} (ht : ∀ trade ∈ trades, trade.Sound) :
    (lot.run trades).realized - (lot.run trades).worth
      = lot.realized - lot.worth + proceeds lot trades - (trades.map Trade.spent).sum := by
  induction trades generalizing lot with
  | nil => simp [Lot.run, proceeds]
  | cons trade trades ih =>
    have hhead := ht trade List.mem_cons_self
    have hrest := ih (apply_sound h hhead) fun t hmem => ht t (List.mem_cons_of_mem trade hmem)
    have hstep := apply_profit h hhead
    calc (lot.run (trade :: trades)).realized - (lot.run (trade :: trades)).worth
        = ((lot.apply trade).run trades).realized - ((lot.apply trade).run trades).worth := rfl
      _ = lot.realized - lot.worth + proceeds lot (trade :: trades) - ((trade :: trades).map Trade.spent).sum := by
          rw [hrest, hstep, proceeds, List.map_cons, List.sum_cons]
          ring

end Lots

end SeeMirai.AverageCost
