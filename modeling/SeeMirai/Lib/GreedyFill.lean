/-
Filling a demand from priced offers, cheapest first: each offer gives what is still wanted, or all it has, until nothing
is wanted or the next offer is beyond the limit.

The filled amount is the smaller of the demand and what the offers within the limit hold. The cost is the least that any
way of taking this amount from the offers has. The proof is by duality: some price `t` splits the offers into those
taken whole and those not touched, so the greedy choice reaches the lower bound `t * amount + Σ size * min (cost - t) 0`
that every choice obeys, in whatever order it lists the offers.

Results:
- `greedyFill_amount`: how much is filled.
- `greedyFill_draws`: the greedy choice takes from every offer at most what it has.
- `greedyFill_dual`: the greedy choice reaches the bound.
- `greedyFill_optimal`: no other choice of the same amount costs less.
-/
import Mathlib

namespace SeeMirai

variable {α β : Type} [Field α] [LinearOrder α] [IsStrictOrderedRing α] (cost size : β → α)

/-- the offers that are drawn on, each with the quantity taken -/
def greedyFill (limit wanted : α) : List β → List (β × α)
  | [] => []
  | offer :: offers =>
    if limit < cost offer ∨ wanted ≤ 0 then []
    else (offer, min wanted (size offer)) :: greedyFill limit (wanted - min wanted (size offer)) offers

def amountOf (fills : List (β × α)) : α := (fills.map Prod.snd).sum

def costOf (fills : List (β × α)) : α := (fills.map fun fill => fill.2 * cost fill.1).sum

/-- what the offers within the limit hold -/
def availableWithin (limit : α) (offers : List β) : α :=
  ((offers.filter fun offer => cost offer ≤ limit).map size).sum

/-- a way of drawing on the offers: every offer once, in any order, with a part of its size -/
structure Draws (offers : List β) (fills : List (β × α)) : Prop where
  perm : (fills.map Prod.fst).Perm offers
  nonneg : ∀ fill ∈ fills, 0 ≤ fill.2
  le_size : ∀ fill ∈ fills, fill.2 ≤ size fill.1

/-- the bound at a splitting price, relative to it -/
def dualOf (t : α) (offers : List β) : α := (offers.map fun offer => size offer * min (cost offer - t) 0).sum

variable {cost size}

/-! ## The amount -/

theorem availableWithin_nonneg {limit : α} {offers : List β} (hsize : ∀ offer ∈ offers, 0 ≤ size offer) :
    0 ≤ availableWithin cost size limit offers := by
  refine List.sum_nonneg fun x hx => ?_
  obtain ⟨offer, hoffer, rfl⟩ := List.mem_map.1 hx
  exact hsize offer (List.mem_filter.1 hoffer).1

omit [IsStrictOrderedRing α] in
/-- beyond the limit there is nothing -/
theorem availableWithin_of_beyond {limit : α} {offers : List β} (h : ∀ offer ∈ offers, limit < cost offer) :
    availableWithin cost size limit offers = 0 := by
  have hnone : (offers.filter fun offer => cost offer ≤ limit) = [] := by
    rw [List.filter_eq_nil_iff]
    intro offer hoffer
    simpa using h offer hoffer
  rw [availableWithin, hnone]
  rfl

omit [IsStrictOrderedRing α] in
theorem availableWithin_perm {limit : α} {offers offers' : List β} (h : offers.Perm offers') :
    availableWithin cost size limit offers = availableWithin cost size limit offers' :=
  ((h.filter _).map _).sum_eq

/-- a looser limit admits no less -/
theorem availableWithin_mono {limit limit' : α} (h : limit ≤ limit') {offers : List β}
    (hsize : ∀ offer ∈ offers, 0 ≤ size offer) : availableWithin cost size limit offers ≤ availableWithin cost size limit' offers := by
  unfold availableWithin
  refine List.Sublist.sum_le_sum ?_ ?_
  · refine (List.monotone_filter_right _ fun offer hoffer => ?_).map _
    simp only [decide_eq_true_eq] at hoffer ⊢
    exact hoffer.trans h
  · intro x hx
    obtain ⟨offer, hoffer, rfl⟩ := List.mem_map.1 hx
    exact hsize offer (List.mem_filter.1 hoffer).1

omit [LinearOrder α] [IsStrictOrderedRing α] in
@[simp] theorem amountOf_cons (fill : β × α) (fills : List (β × α)) :
    amountOf (fill :: fills) = fill.2 + amountOf fills := List.sum_cons

omit [LinearOrder α] [IsStrictOrderedRing α] in
@[simp] theorem costOf_cons (fill : β × α) (fills : List (β × α)) :
    costOf cost (fill :: fills) = fill.2 * cost fill.1 + costOf cost fills := List.sum_cons

omit [IsStrictOrderedRing α] in
@[simp] theorem dualOf_cons (t : α) (offer : β) (offers : List β) :
    dualOf cost size t (offer :: offers) = size offer * min (cost offer - t) 0 + dualOf cost size t offers := List.sum_cons

/-- **The filled amount.** -/
theorem greedyFill_amount {limit : α} {offers : List β} (hsorted : offers.Pairwise fun a b => cost a ≤ cost b)
    (hsize : ∀ offer ∈ offers, 0 ≤ size offer) {wanted : α} (hwanted : 0 ≤ wanted) :
    amountOf (greedyFill cost size limit wanted offers) = min wanted (availableWithin cost size limit offers) := by
  induction offers generalizing wanted with
  | nil =>
    simp only [greedyFill, amountOf, availableWithin, List.filter_nil, List.map_nil, List.sum_nil]
    exact (min_eq_right hwanted).symm
  | cons offer offers ih =>
    obtain ⟨hfirst, hrest⟩ := List.pairwise_cons.1 hsorted
    have hsizes : ∀ o ∈ offers, 0 ≤ size o := fun o ho => hsize o (List.mem_cons_of_mem _ ho)
    have havailable : 0 ≤ availableWithin cost size limit offers := availableWithin_nonneg hsizes
    unfold greedyFill
    split_ifs with hstop
    · rcases hstop with hbeyond | hdone
      · have hall : ∀ o ∈ offer :: offers, limit < cost o := by
          intro o ho
          rcases List.mem_cons.1 ho with rfl | hmem
          · exact hbeyond
          · exact hbeyond.trans_le (hfirst o hmem)
        rw [availableWithin_of_beyond hall]
        exact (min_eq_right hwanted).symm
      · rw [le_antisymm hdone hwanted]
        exact (min_eq_left (availableWithin_nonneg hsize)).symm
    · rw [not_or, not_lt, not_le] at hstop
      have hwithin : availableWithin cost size limit (offer :: offers) = size offer + availableWithin cost size limit offers := by
        simp [availableWithin, hstop.1]
      rw [amountOf_cons, ih hrest hsizes (sub_nonneg.2 (min_le_left _ _)), hwithin]
      rcases le_total wanted (size offer) with hle | hle
      · rw [min_eq_left hle, sub_self, min_eq_left havailable, add_zero, min_eq_left (by linarith)]
      · rw [min_eq_right hle, ← min_add_add_left, add_sub_cancel]

omit [IsStrictOrderedRing α] in
/-- every fill is within the limit -/
theorem greedyFill_within {limit : α} {offers : List β} {wanted : α} :
    ∀ fill ∈ greedyFill cost size limit wanted offers, cost fill.1 ≤ limit := by
  induction offers generalizing wanted with
  | nil => exact fun _ h => absurd h List.not_mem_nil
  | cons offer offers ih =>
    intro fill hfill
    unfold greedyFill at hfill
    split_ifs at hfill with hstop
    · exact absurd hfill List.not_mem_nil
    · rcases List.mem_cons.1 hfill with rfl | hmem
      · exact not_lt.1 fun h => hstop (Or.inl h)
      · exact ih fill hmem

/-- the greedy choice is one: the offers it leaves out give nothing -/
theorem greedyFill_draws (cost : β → α) (limit : α) {offers : List β} (hsize : ∀ offer ∈ offers, 0 ≤ size offer) {wanted : α}
    (hwanted : 0 ≤ wanted) :
    ∃ untouched, Draws size offers (greedyFill cost size limit wanted offers ++ untouched) ∧ ∀ fill ∈ untouched, fill.2 = 0 := by
  have hnone : ∀ rest : List β, (∀ offer ∈ rest, 0 ≤ size offer) → Draws size rest (rest.map fun offer => (offer, 0)) := by
    intro rest hrest
    refine ⟨by simp [Function.comp_def], fun fill hfill => ?_, fun fill hfill => ?_⟩
    · obtain ⟨offer, -, rfl⟩ := List.mem_map.1 hfill
      exact le_rfl
    · obtain ⟨offer, hoffer, rfl⟩ := List.mem_map.1 hfill
      exact hrest offer hoffer
  induction offers generalizing wanted with
  | nil => exact ⟨[], hnone [] hsize, fun _ h => absurd h List.not_mem_nil⟩
  | cons offer offers ih =>
    have hsizes : ∀ o ∈ offers, 0 ≤ size o := fun o ho => hsize o (List.mem_cons_of_mem _ ho)
    unfold greedyFill
    split_ifs with hstop
    · refine ⟨(offer :: offers).map fun offer => (offer, 0), hnone _ hsize, fun fill hfill => ?_⟩
      obtain ⟨_, -, rfl⟩ := List.mem_map.1 hfill
      rfl
    · obtain ⟨untouched, hdraws, hzero⟩ := ih hsizes (sub_nonneg.2 (min_le_left wanted (size offer)))
      refine ⟨untouched, ⟨?_, fun fill hfill => ?_, fun fill hfill => ?_⟩, hzero⟩
      · exact hdraws.perm.cons offer
      · rcases List.mem_cons.1 hfill with rfl | hmem
        · exact le_min hwanted (hsize offer List.mem_cons_self)
        · exact hdraws.nonneg fill hmem
      · rcases List.mem_cons.1 hfill with rfl | hmem
        · exact min_le_right _ _
        · exact hdraws.le_size fill hmem

/-! ## Duality -/

/-- no offer is below the splitting price -/
theorem dualOf_of_le {t : α} {offers : List β} (h : ∀ offer ∈ offers, t ≤ cost offer) : dualOf cost size t offers = 0 := by
  refine List.sum_eq_zero fun x hx => ?_
  obtain ⟨offer, hoffer, rfl⟩ := List.mem_map.1 hx
  rw [min_eq_right (sub_nonneg.2 (h offer hoffer)), mul_zero]

omit [IsStrictOrderedRing α] in
theorem dualOf_perm (t : α) {offers offers' : List β} (h : offers.Perm offers') :
    dualOf cost size t offers = dualOf cost size t offers' := (h.map _).sum_eq

/-- every choice obeys the bound, at every price -/
theorem Draws.dual_le {offers : List β} {fills : List (β × α)} (h : Draws size offers fills) (t : α) :
    t * amountOf fills + dualOf cost size t offers ≤ costOf cost fills := by
  rw [← dualOf_perm t h.perm]
  have hnonneg := h.nonneg
  have hsize := h.le_size
  clear h
  induction fills with
  | nil => simp [amountOf, dualOf, costOf]
  | cons fill fills ih =>
    have hrest := ih (fun f hf => hnonneg f (List.mem_cons_of_mem _ hf)) fun f hf => hsize f (List.mem_cons_of_mem _ hf)
    have hzero := hnonneg fill List.mem_cons_self
    have hfull := hsize fill List.mem_cons_self
    have hfill : size fill.1 * min (cost fill.1 - t) 0 ≤ fill.2 * (cost fill.1 - t) := by
      rcases le_total (cost fill.1 - t) 0 with hle | hle
      · rw [min_eq_left hle]
        exact mul_le_mul_of_nonpos_right hfull hle
      · rw [min_eq_right hle, mul_zero]
        exact mul_nonneg hzero hle
    rw [List.map_cons, dualOf_cons, amountOf_cons, costOf_cons]
    linarith

/-- **The greedy choice reaches the bound** at a price between the offers taken whole and those not touched. -/
theorem greedyFill_dual {limit : α} {offers : List β} (hsorted : offers.Pairwise fun a b => cost a ≤ cost b)
    (hsize : ∀ offer ∈ offers, 0 ≤ size offer) {low : α} (hlow : ∀ offer ∈ offers, low ≤ cost offer) (hlimit : low ≤ limit)
    {wanted : α} (hwanted : 0 ≤ wanted) :
    ∃ t, low ≤ t ∧
      costOf cost (greedyFill cost size limit wanted offers) = t * amountOf (greedyFill cost size limit wanted offers) + dualOf cost size t offers := by
  induction offers generalizing low wanted with
  | nil => exact ⟨limit, hlimit, by simp [greedyFill, costOf, amountOf, dualOf]⟩
  | cons offer offers ih =>
    obtain ⟨hfirst, hrest⟩ := List.pairwise_cons.1 hsorted
    unfold greedyFill
    split_ifs with hstop
    · rcases hstop with hbeyond | hdone
      · refine ⟨limit, hlimit, ?_⟩
        rw [dualOf_of_le]
        · simp [costOf, amountOf]
        · intro o ho
          rcases List.mem_cons.1 ho with rfl | hmem
          · exact hbeyond.le
          · exact hbeyond.le.trans (hfirst o hmem)
      · refine ⟨low, le_rfl, ?_⟩
        rw [dualOf_of_le hlow]
        simp [costOf, amountOf]
    · rw [not_or, not_lt, not_le] at hstop
      have hsizes : ∀ o ∈ offers, 0 ≤ size o := fun o ho => hsize o (List.mem_cons_of_mem _ ho)
      rcases le_total wanted (size offer) with hle | hle
      · -- the demand ends here: this offer's own price splits
        have hdone : greedyFill cost size limit (wanted - min wanted (size offer)) offers = [] := by
          rw [min_eq_left hle, sub_self]
          cases offers with
          | nil => rfl
          | cons next rest => rw [greedyFill, if_pos (Or.inr le_rfl)]
        refine ⟨cost offer, hlow offer List.mem_cons_self, ?_⟩
        rw [hdone, dualOf_cons, dualOf_of_le hfirst, sub_self, min_self]
        simp [costOf, amountOf, mul_comm]
      · -- taken whole: the price that splits the rest is no lower
        obtain ⟨t, ht, hcost⟩ := ih hrest hsizes hfirst hstop.1 (sub_nonneg.2 (min_le_left wanted (size offer)))
        refine ⟨t, (hlow offer List.mem_cons_self).trans ht, ?_⟩
        rw [costOf_cons, amountOf_cons, dualOf_cons, hcost, min_eq_right hle, min_eq_left (sub_nonpos.2 ht)]
        ring

/-- **Optimality.** No other choice of the filled amount costs less. -/
theorem greedyFill_optimal {limit : α} {offers : List β} (hsorted : offers.Pairwise fun a b => cost a ≤ cost b)
    (hsize : ∀ offer ∈ offers, 0 ≤ size offer) {wanted : α} (hwanted : 0 ≤ wanted) {offers' : List β}
    (hperm : offers.Perm offers') {fills : List (β × α)} (hdraws : Draws size offers' fills)
    (hamount : amountOf fills = amountOf (greedyFill cost size limit wanted offers)) :
    costOf cost (greedyFill cost size limit wanted offers) ≤ costOf cost fills := by
  obtain ⟨low, hlow, hlimit⟩ : ∃ low, (∀ offer ∈ offers, low ≤ cost offer) ∧ low ≤ limit := by
    cases offers with
    | nil => exact ⟨limit, fun _ h => absurd h List.not_mem_nil, le_rfl⟩
    | cons offer offers =>
      refine ⟨min (cost offer) limit, fun o ho => ?_, min_le_right _ _⟩
      rcases List.mem_cons.1 ho with rfl | hmem
      · exact min_le_left _ _
      · exact (min_le_left _ _).trans ((List.pairwise_cons.1 hsorted).1 o hmem)
  obtain ⟨t, -, hcost⟩ := greedyFill_dual hsorted hsize hlow hlimit hwanted
  have hbound : t * amountOf fills + dualOf cost size t offers' ≤ costOf cost fills := hdraws.dual_le t
  rw [hcost, dualOf_perm t hperm, ← hamount]
  exact hbound

end SeeMirai
