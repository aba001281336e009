/-
The cheap scan that asks for an opening seed (`findOpeningPositionSeedRequiredAt`, application/pnl-accounting) beside the
replay it stands for (`applyFillsToLedger` on an empty ledger). Both go through a scope's fills in execution order. The
scan reads quantities only; the replay reads prices and fees as well, and throws where one is not a non-negative decimal.

Results:
- `applyFill_readable`: on readable amounts the only throw of a fill is an uncovered SELL.
- `firstUnderflow_replay`: scan and replay go together from any quantity.
- `opening_check_agrees`: on readable prices and fees, no seed is asked for just where the replay goes through, and
  otherwise the replay throws at the SELL whose time the scan returns.
-/
import SeeMirai.Pnl.Calculator

namespace SeeMirai.Pnl

open Fallible

section Scan

variable [Host]

/-- price and fee are non-negative decimals -/
structure PnLFillFact.Priced (fill : PnLFillFact) : Prop where
  price : ∃ price, parseNonNegativeDecimal fill.price = .ok price
  fee : ∃ fee, parseNonNegativeDecimal fill.fee = .ok fee

omit [Host] in
/-- the throw of a SELL that exceeds what is held -/
def uncoveredSell (fill : PnLFillFact) : Thrown := invariantError ("SELL fill exceeds open position for " ++ fill.market)

/-- the replay stops at an uncovered SELL of this time -/
def ThrowsAt (ledger : Ledger) (fills : List PnLFillFact) (time : Int) : Prop :=
  ∃ before sell after mid, fills = before ++ sell :: after ∧ applyFillsToLedger ledger before = .ok mid ∧
    sell.side = .sell ∧ toTime sell.filledAt = .ok time ∧ applyFill mid sell = .error (uncoveredSell sell)

/-- what the answer of the scan says about the replay -/
def Replays (ledger : Ledger) (fills : List PnLFillFact) : Option Int → Prop
  | none => ∃ ledger', applyFillsToLedger ledger fills = .ok ledger'
  | some time => ThrowsAt ledger fills time

/-- what stops the replay of a part stops the replay of the whole -/
theorem ThrowsAt.throws {ledger : Ledger} {fills : List PnLFillFact} {time : Int} (h : ThrowsAt ledger fills time) :
    ∃ sell ∈ fills, applyFillsToLedger ledger fills = .error (uncoveredSell sell) := by
  obtain ⟨before, sell, after, mid, rfl, hbefore, -, -, hthrow⟩ := h
  refine ⟨sell, by simp, ?_⟩
  unfold applyFillsToLedger at hbefore ⊢
  rw [List.foldlM_append, hbefore, ok_bind, List.foldlM_cons, hthrow]
  rfl

/-- on readable amounts the only throw of a fill is an uncovered SELL -/
theorem applyFill_readable (ledger : Ledger) {fill : PnLFillFact} (h : fill.Priced) {quantity : ℚ}
    (hquantity : parseNonNegativeDecimal fill.quantity = .ok quantity) :
    (quantity ≠ 0 ∧ fill.side = .sell ∧ ledger.quantityOf fill.key < quantity ∧
        applyFill ledger fill = .error (uncoveredSell fill)) ∨
      ¬ (quantity ≠ 0 ∧ fill.side = .sell ∧ ledger.quantityOf fill.key < quantity) ∧
        ∃ ledger', applyFill ledger fill = .ok ledger' := by
  obtain ⟨price, hprice⟩ := h.price
  obtain ⟨fee, hfee⟩ := h.fee
  have hheld : (getOrCreatePositionLedger (ledger.countOrder fill.orderId) fill.key fill.strategyId fill.market).quantity =
      ledger.quantityOf fill.key := by
    rw [← entry_quantity, Ledger.entry, getOrCreatePositionLedger, getOrCreatePositionLedger, countOrder_positions]
  unfold applyFill
  rw [hquantity, ok_bind, hprice, ok_bind, hfee, ok_bind]
  dsimp only
  rw [hheld]
  by_cases hzero : quantity = 0
  · right
    exact ⟨fun hbad => hbad.1 hzero, ledger, by rw [if_pos hzero]; rfl⟩
  · rw [if_neg hzero]
    cases hside : fill.side with
    | buy =>
      right
      exact ⟨fun hbad => absurd hbad.2.1 (by decide), _, rfl⟩
    | sell =>
      by_cases hshort : ledger.quantityOf fill.key < quantity
      · left
        exact ⟨hzero, rfl, hshort, by rw [if_pos hshort]; rfl⟩
      · right
        exact ⟨fun hbad => hshort hbad.2.2, _, by rw [if_neg hshort]; rfl⟩

/-- the scan and the replay go together: from the same quantity they reach the same SELL, or the end -/
theorem firstUnderflow_replay (key : String) {fills : List PnLFillFact} (hkey : ∀ fill ∈ fills, fill.key = key)
    (hpriced : ∀ fill ∈ fills, fill.Priced) (ledger : Ledger) {found : Option Int}
    (h : firstUnderflow (ledger.quantityOf key) fills = .ok found) : Replays ledger fills found := by
  induction fills generalizing ledger with
  | nil =>
    obtain rfl := pure_eq_ok.1 h
    exact ⟨ledger, rfl⟩
  | cons fill fills ih =>
    have hfillKey := hkey fill List.mem_cons_self
    obtain ⟨quantity, hquantity, hscan⟩ := bind_eq_ok.1 h
    rcases applyFill_readable ledger (hpriced fill List.mem_cons_self) hquantity with
      ⟨hne, hside, hshort, hthrow⟩ | ⟨hcovered, next, hnext⟩
    · -- the scan stops here as well
      rw [hfillKey] at hshort
      rw [if_neg hne, hside] at hscan
      dsimp only at hscan
      rw [if_pos hshort] at hscan
      obtain ⟨time, htime, rfl⟩ := map_eq_ok.1 hscan
      exact ⟨[], fill, fills, ledger, rfl, rfl, hside, htime, hthrow⟩
    · have hheld : next.quantityOf key = ledger.quantityOf key + signedQuantity fill := by
        rw [applyFill_quantity hnext key, netQuantity_cons, netQuantity_nil, add_zero, if_pos hfillKey]
      have hamount := amount_of_parse hquantity
      have hrest : firstUnderflow (next.quantityOf key) fills = .ok found := by
        rw [hheld, signedQuantity, hamount]
        by_cases hzero : quantity = 0
        · rw [if_pos hzero] at hscan
          cases hside : fill.side with
          | buy => simpa [hzero] using hscan
          | sell => simpa [hzero] using hscan
        · rw [if_neg hzero] at hscan
          cases hside : fill.side with
          | buy =>
            rw [hside] at hscan
            exact hscan
          | sell =>
            rw [hside] at hscan
            dsimp only at hscan
            rw [if_neg fun hshort => hcovered ⟨hzero, hside, by rw [hfillKey]; exact hshort⟩] at hscan
            rw [← sub_eq_add_neg]
            exact hscan
      have hlater := ih (fun f hf => hkey f (List.mem_cons_of_mem _ hf)) (fun f hf => hpriced f (List.mem_cons_of_mem _ hf))
        next hrest
      cases found with
      | none =>
        obtain ⟨ledger', hledger'⟩ := hlater
        refine ⟨ledger', ?_⟩
        unfold applyFillsToLedger at hledger' ⊢
        rw [List.foldlM_cons, hnext, ok_bind, hledger']
      | some time =>
        obtain ⟨before, sell, after, mid, rfl, hbefore, hsell, htime, hthrow⟩ := hlater
        refine ⟨fill :: before, sell, after, mid, rfl, ?_, hsell, htime, hthrow⟩
        unfold applyFillsToLedger at hbefore ⊢
        rw [List.foldlM_cons, hnext, ok_bind, hbefore]

/-- the fills of one scope -/
def scopeFills (fills : List PnLFillFact) (strategyId market : String) : List PnLFillFact :=
  fills.filter (fun fill => fill.strategyId = strategyId ∧ fill.market = market)

/-- the check and the replay of the scope's fills on an empty ledger agree -/
structure CheckAgrees (fills : List PnLFillFact) (strategyId market : String) : Prop where
  covered : findOpeningPositionSeedRequiredAt fills strategyId market = .ok none →
    ∃ sorted ledger, sortFillsByExecutionTime (scopeFills fills strategyId market) = .ok sorted ∧
      applyFillsToLedger createEmptyLedger sorted = .ok ledger
  required : ∀ time, findOpeningPositionSeedRequiredAt fills strategyId market = .ok (some time) →
    ∃ sorted, sortFillsByExecutionTime (scopeFills fills strategyId market) = .ok sorted ∧
      ThrowsAt createEmptyLedger sorted time

/-- **The opening check.** On readable prices and fees the check agrees with the replay. -/
theorem opening_check_agrees (fills : List PnLFillFact) (strategyId market : String)
    (hpriced : ∀ fill ∈ scopeFills fills strategyId market, fill.Priced) : CheckAgrees fills strategyId market := by
  have hfound : ∀ found, findOpeningPositionSeedRequiredAt fills strategyId market = .ok found →
      ∃ sorted, sortFillsByExecutionTime (scopeFills fills strategyId market) = .ok sorted ∧
        Replays createEmptyLedger sorted found := by
    intro found h
    obtain ⟨sorted, hsorted, hscan⟩ := bind_eq_ok.1 h
    have hperm : sorted.Perm (scopeFills fills strategyId market) := sortFills_perm hsorted
    refine ⟨sorted, hsorted, firstUnderflow_replay (scopeKey strategyId (some market)) (fun fill hfill => ?_)
      (fun fill hfill => ?_) createEmptyLedger hscan⟩
    · have hscope := (List.mem_filter.1 (hperm.mem_iff.1 hfill)).2
      simp only [decide_eq_true_eq] at hscope
      rw [PnLFillFact.key, hscope.1, hscope.2]
    · exact hpriced fill (hperm.mem_iff.1 hfill)
  refine ⟨fun h => ?_, fun time h => ?_⟩
  · obtain ⟨sorted, hsorted, ledger, hledger⟩ := hfound none h
    exact ⟨sorted, ledger, hsorted, hledger⟩
  · exact hfound (some time) h

end Scan

section Plain

attribute [local instance] plainHost

/-- one bought, two sold at time 2: the replay throws at the sale -/
theorem oversold_check_agrees :
    CheckAgrees [fillAt .buy "1" "10" 1, fillAt .sell "2" "20" 2] "s" "KRW-BTC" := by
  refine opening_check_agrees _ "s" "KRW-BTC" fun fill hfill => ?_
  have hmem := (List.mem_filter.1 hfill).1
  simp only [List.mem_cons, List.not_mem_nil, or_false] at hmem
  have hone : parseNonNegativeDecimal "1" = .ok 1 := by decide +kernel
  rcases hmem with rfl | rfl
  · exact ⟨⟨10, by decide +kernel⟩, 1, hone⟩
  · exact ⟨⟨20, by decide +kernel⟩, 1, hone⟩

/-- a purchase at a negative price: no seed is asked for, and the replay throws -/
theorem negative_price_not_checked : ¬ CheckAgrees [fillAt .buy "1" "-10" 1] "s" "KRW-BTC" := by
  intro h
  have hcheck : findOpeningPositionSeedRequiredAt [fillAt .buy "1" "-10" 1] "s" "KRW-BTC" = .ok none := by
    decide +kernel
  obtain ⟨sorted, ledger, hsorted, hledger⟩ := h.covered hcheck
  have hsame : sortFillsByExecutionTime (scopeFills [fillAt .buy "1" "-10" 1] "s" "KRW-BTC")
      = .ok [fillAt .buy "1" "-10" 1] := by decide +kernel
  rw [hsame] at hsorted
  obtain rfl := Except.ok.inj hsorted
  have hthrow : applyFillsToLedger createEmptyLedger [fillAt .buy "1" "-10" 1]
      = .error (invariantError "value must be non-negative") := by decide +kernel
  rw [hthrow] at hledger
  cases hledger

end Plain

end SeeMirai.Pnl
