/-
Exits of the autonomous 24/7 strategy that take more than one order. One order may be worth at most the budget, so a full
exit of a larger position is cut into chunks, a tick each. Nothing looks at what is left behind the last full chunk: worth
less than the exchange minimum it can be neither sold nor replaced by an entry. Arithmetic is that of decimal.js.

Results:
- `exitTick_orders`: at a full exit a tick sells the chunk, or all that is left, where this is sellable, and blocks
  otherwise.
- `ExitRun.held_eq`: over ticks with an unchanged book the position is emptied as by `drain`.
- `chunked_exit_finishes_iff`: which positions are sold completely.
- `chunk_remainder_stuck`: a position of which a chunk is sold and a remainder below the minimum stays.
-/
import SeeMirai.Live.AutonomousOrders
import SeeMirai.Lib.ChunkedDrain

namespace SeeMirai.Live.Autonomous24x7

open Execution (ExecutionIntent)

/-- decimal.js with its default precision -/
def decimalJs (parseDate : String → Option ℤ) : Platform := ⟨decimalRound, parseDate⟩

/-- the most places that decimal.js rounds to -/
def maxPlaces : ℕ := 1000000000

section Chunks

variable [H : Host]

/-- as much as the budget buys at the exit price, on the grid of quantities -/
def exitChunk (platform : Platform) (options : NormalizedOptions) (bestAsk : ℚ) : ℚ :=
  truncate options.quantityScale (platform.round (options.maxEntryNotionalKrw.1 / exitPrice platform options bestAsk))

/-- what a quantity is worth at the exit price -/
def exitValue (platform : Platform) (options : NormalizedOptions) (bestAsk quantity : ℚ) : ℚ :=
  platform.round (exitPrice platform options bestAsk * quantity)

/-- one order may sell the quantity -/
def Sellable (platform : Platform) (options : NormalizedOptions) (bestAsk quantity : ℚ) : Prop :=
  0 < quantity ∧ minimumUpbitKrwOrderNotional ≤ exitValue platform options bestAsk quantity ∧
    exitValue platform options bestAsk quantity ≤ options.maxEntryNotionalKrw.1

instance (platform : Platform) (options : NormalizedOptions) (bestAsk : ℚ) :
    DecidablePred (Sellable platform options bestAsk) := fun _ => inferInstanceAs (Decidable (_ ∧ _ ∧ _))

/-- what the SELLs of a tick take from the position once they are filled -/
def sold (tick : Except Thrown StrategyDecision) : ℚ :=
  match tick with
  | .ok decision => ((decision.orderIntents.filter fun intent => intent.side = .sell).map fun intent =>
      (Host.valueOf intent.requestedQuantity).getD 0).sum
  | .error _ => 0

/-- ticks at an unchanged book while a full-exit rule stays triggered; every SELL is filled before the next tick -/
structure ExitRun (platform : Platform) (options : NormalizedOptions) (orderbook : OrderbookEvent)
    (context : ℕ → StrategyContext) (held : ℕ → ℚ) : Prop where
  exchange : ∀ k, (context k).exchangeId = some "upbit_krw_spot"
  market : ∀ k, (context k).market = some "KRW-BTC"
  book : ∀ k, selectLatestOrderbook (context k).marketEvents (some "KRW-BTC") = some orderbook
  position : ∀ k, ∃ position, readPositionSnapshot (context k).positions = .ok position ∧ position.quantity = held k ∧
    (0 < held k → ∃ bestBid exitRule, readBestBid orderbook = some bestBid ∧
      selectExitRule platform (context k).observedAt bestBid options position = some exitRule ∧
      exitRule.rule ≠ .riskReduction)
  filled : ∀ k, held (k + 1) = held k - sold (evaluateAutonomous24x7 platform (context k) options)

/-- the tick proposes one order, a SELL -/
def Sells (platform : Platform) (options : NormalizedOptions) (context : StrategyContext) : Prop :=
  ∃ decision intent, evaluateAutonomous24x7 platform context options = .ok decision ∧
    decision.orderIntents = [intent] ∧ intent.side = .sell

/-- SELL after SELL until nothing is left, and no chunk leaves a remainder below the minimum -/
structure ExitFinishes (platform : Platform) (options : NormalizedOptions) (bestAsk : ℚ) (context : ℕ → StrategyContext)
    (held : ℕ → ℚ) : Prop where
  finishes : ∃ n, held n = 0 ∧ ∀ k < n, Sells platform options (context k)
  remainders : ∀ k, Sells platform options (context k) → held (k + 1) = 0 ∨
    minimumUpbitKrwOrderNotional ≤ exitValue platform options bestAsk (held (k + 1))

/-! ## One tick -/

variable {parseDate : String → Option ℤ} {context : StrategyContext} {options : NormalizedOptions}
  {orderbook : OrderbookEvent} {position : PositionSnapshot} {bestBid bestAsk : ℚ} {exitRule : ExitRuleSelection}

theorem Sellable.price_pos {quantity : ℚ} (h : Sellable (decimalJs parseDate) options bestAsk quantity) :
    0 < exitPrice (decimalJs parseDate) options bestAsk := by
  by_contra hneg
  have hproduct := mul_nonpos_of_nonpos_of_nonneg (not_lt.1 hneg) h.1.le
  have hvalue : exitValue (decimalJs parseDate) options bestAsk quantity ≤ 0 := decimalRound_nonpos hproduct
  have hminimum := h.2.1
  unfold minimumUpbitKrwOrderNotional at hminimum
  linarith

theorem sellable_iff_sized {quantity : ℚ} :
    Sized (decimalJs parseDate) options (exitPrice (decimalJs parseDate) options bestAsk) quantity ↔
      Sellable (decimalJs parseDate) options bestAsk quantity := by
  constructor
  · intro h
    exact ⟨h.quantity_pos, h.minimum, h.maximum⟩
  · intro h
    exact ⟨h.price_pos, h.1, h.2.1, h.2.2⟩

theorem exitChunk_onGrid : OnGrid options.quantityScale (exitChunk (decimalJs parseDate) options bestAsk) :=
  onGrid_truncate _ _

/-- the quantity of a full exit: the chunk, or all that is left -/
theorem fullExit_quantity (hscale : (options.quantityScale : ℕ) ≤ maxPlaces) (hfull : exitRule.rule ≠ .riskReduction)
    (hgrid : OnGrid options.quantityScale position.quantity)
    (hprice : 0 < exitPrice (decimalJs parseDate) options bestAsk) :
    calculateExitQuantity (decimalJs parseDate) position.quantity options exitRule.rule = .ok position.quantity ∧
      capExitQuantityByOrderNotional (decimalJs parseDate) position.quantity (exitPrice (decimalJs parseDate) options bestAsk)
        options.maxEntryNotionalKrw.1 options.quantityScale
        = .ok (min position.quantity (exitChunk (decimalJs parseDate) options bestAsk)) := by
  constructor
  · unfold calculateExitQuantity
    split
    · rename_i hrule
      exact absurd hrule hfull
    · exact toDecimalPlaces_ok.2 ⟨hscale, hgrid.truncate_eq⟩
  · unfold capExitQuantityByOrderNotional
    rw [if_neg (not_not.2 hprice), toDecimalPlaces_ok.2 ⟨hscale, rfl⟩, Fallible.ok_bind]
    exact toDecimalPlaces_ok.2 ⟨hscale, (hgrid.min exitChunk_onGrid).truncate_eq⟩

/-- what a full exit decides -/
theorem createExitDecision_full (hscale : (options.quantityScale : ℕ) ≤ maxPlaces) (hfull : exitRule.rule ≠ .riskReduction)
    (hgrid : OnGrid options.quantityScale position.quantity) :
    ∃ decision, createExitDecision (decimalJs parseDate) context options position bestBid bestAsk exitRule = .ok decision ∧
      decision.orderIntents =
        if Sellable (decimalJs parseDate) options bestAsk
            (min position.quantity (exitChunk (decimalJs parseDate) options bestAsk)) then
          [exitIntent (decimalJs parseDate) options position exitRule context.observedAt bestBid bestAsk position.quantity
            (min position.quantity (exitChunk (decimalJs parseDate) options bestAsk))]
        else [] := by
  obtain ⟨sell, hcap, hsell⟩ : ∃ sell, capExitQuantityByOrderNotional (decimalJs parseDate) position.quantity
      (exitPrice (decimalJs parseDate) options bestAsk) options.maxEntryNotionalKrw.1 options.quantityScale = .ok sell ∧
      (0 < exitPrice (decimalJs parseDate) options bestAsk →
        sell = min position.quantity (exitChunk (decimalJs parseDate) options bestAsk)) := by
    by_cases hprice : 0 < exitPrice (decimalJs parseDate) options bestAsk
    · exact ⟨_, (fullExit_quantity hscale hfull hgrid hprice).2, fun _ => rfl⟩
    · refine ⟨0, ?_, fun h => absurd h hprice⟩
      unfold capExitQuantityByOrderNotional
      rw [if_pos hprice]
      rfl
  have htarget : calculateExitQuantity (decimalJs parseDate) position.quantity options exitRule.rule
      = .ok position.quantity := by
    unfold calculateExitQuantity
    split
    · rename_i hrule
      exact absurd hrule hfull
    · exact toDecimalPlaces_ok.2 ⟨hscale, hgrid.truncate_eq⟩
  unfold createExitDecision
  rw [htarget, Fallible.ok_bind]
  change ∃ decision, (capExitQuantityByOrderNotional (decimalJs parseDate) position.quantity
      (exitPrice (decimalJs parseDate) options bestAsk) options.maxEntryNotionalKrw.1 options.quantityScale >>= _) = _ ∧ _
  rw [hcap, Fallible.ok_bind]
  split
  · -- blocked: the amounts are not sellable
    rename_i reasonCode hsizing
    refine ⟨_, rfl, ?_⟩
    rw [if_neg]
    · rfl
    · intro hsellable
      rw [← hsell hsellable.price_pos, ← sellable_iff_sized] at hsellable
      have hok : createLimitSizing (decimalJs parseDate) .sell (exitPrice (decimalJs parseDate) options bestAsk) sell
          minimumUpbitKrwOrderNotional options.maxEntryNotionalKrw.1 = .ok _ :=
        createLimitSizing_ok.2 ⟨hsellable.price_pos, hsellable.quantity_pos, hsellable.minimum, hsellable.maximum, rfl⟩
      exact absurd (hok.symm.trans hsizing) (by simp)
  · rename_i sizing hsizing
    obtain ⟨hsized, rfl⟩ := sized_of_ok hsizing
    have hquantity := hsell hsized.price_pos
    refine ⟨_, rfl, ?_⟩
    rw [← hquantity, if_pos (sellable_iff_sized.1 hsized)]
    rfl

/-- the context of a full exit -/
structure FullExit (platform : Platform) (options : NormalizedOptions) (orderbook : OrderbookEvent)
    (context : StrategyContext) (position : PositionSnapshot) (bestBid bestAsk : ℚ) (exitRule : ExitRuleSelection) :
    Prop where
  exchange : context.exchangeId = some "upbit_krw_spot"
  market : context.market = some "KRW-BTC"
  book : selectLatestOrderbook context.marketEvents (some "KRW-BTC") = some orderbook
  reads : readPositionSnapshot context.positions = .ok position
  held : 0 < position.quantity
  bid : readBestBid orderbook = some bestBid
  ask : readBestAsk orderbook = some bestAsk
  rule : selectExitRule platform context.observedAt bestBid options position = some exitRule
  full : exitRule.rule ≠ .riskReduction

theorem FullExit.evaluate_eq {platform : Platform}
    (h : FullExit platform options orderbook context position bestBid bestAsk exitRule) :
    evaluateAutonomous24x7 platform context options
      = createExitDecision platform context options position bestBid bestAsk exitRule := by
  unfold evaluateAutonomous24x7
  rw [if_neg (by simp [h.exchange, h.market]), h.market, h.book]
  dsimp only
  rw [h.reads]
  dsimp only
  rw [if_pos h.held]
  unfold evaluateExitPolicy
  rw [h.bid, h.ask]
  dsimp only
  rw [h.rule]

/-- **One tick.** At a full exit a tick sells the chunk, or all that is left, where this is sellable; otherwise there is
no order. -/
theorem exitTick_orders (hscale : (options.quantityScale : ℕ) ≤ maxPlaces)
    (h : FullExit (decimalJs parseDate) options orderbook context position bestBid bestAsk exitRule)
    (hgrid : OnGrid options.quantityScale position.quantity) :
    ∃ decision, evaluateAutonomous24x7 (decimalJs parseDate) context options = .ok decision ∧
      decision.orderIntents =
        if Sellable (decimalJs parseDate) options bestAsk
            (min position.quantity (exitChunk (decimalJs parseDate) options bestAsk)) then
          [exitIntent (decimalJs parseDate) options position exitRule context.observedAt bestBid bestAsk position.quantity
            (min position.quantity (exitChunk (decimalJs parseDate) options bestAsk))]
        else [] := by
  rw [h.evaluate_eq]
  exact createExitDecision_full hscale h.full hgrid

/-- more places than decimal.js has end the tick with an error -/
theorem exitTick_throws (hscale : ¬(options.quantityScale : ℕ) ≤ maxPlaces)
    (h : FullExit (decimalJs parseDate) options orderbook context position bestBid bestAsk exitRule) :
    ∃ error, evaluateAutonomous24x7 (decimalJs parseDate) context options = .error error := by
  have htarget : ∃ error, calculateExitQuantity (decimalJs parseDate) position.quantity options exitRule.rule
      = .error error := by
    unfold calculateExitQuantity
    split
    · rename_i hrule
      exact absurd hrule h.full
    · exact ⟨_, if_neg hscale⟩
  obtain ⟨error, herror⟩ := htarget
  rw [h.evaluate_eq]
  unfold createExitDecision
  rw [herror]
  exact ⟨error, rfl⟩

section Reading

variable [H.Decimals]

theorem exitTick_sold (hscale : (options.quantityScale : ℕ) ≤ maxPlaces)
    (h : FullExit (decimalJs parseDate) options orderbook context position bestBid bestAsk exitRule)
    (hgrid : OnGrid options.quantityScale position.quantity) :
    position.quantity - sold (evaluateAutonomous24x7 (decimalJs parseDate) context options)
      = drain (exitChunk (decimalJs parseDate) options bestAsk) (Sellable (decimalJs parseDate) options bestAsk)
        position.quantity := by
  obtain ⟨decision, hdecision, horders⟩ := exitTick_orders hscale h hgrid
  unfold drain
  rw [hdecision, sold, horders]
  split_ifs with hsellable hboth hboth
  · have hread : Host.valueOf (Host.toFixed (min position.quantity (exitChunk (decimalJs parseDate) options bestAsk)))
        = some _ := Host.Decimals.read_toFixed ⟨_, hgrid.min exitChunk_onGrid⟩
    simp [exitIntent, createLimitIntent, printedSizing, hread]
  · exact absurd ⟨h.held, hsellable⟩ hboth
  · exact absurd hboth.2 hsellable
  · simp

/-! ## A run of ticks -/

variable {ticks : ℕ → StrategyContext} {held : ℕ → ℚ} {k : ℕ}

omit [H.Decimals] in
theorem ExitRun.fullExit {platform : Platform} (h : ExitRun platform options orderbook ticks held)
    (hask : readBestAsk orderbook = some bestAsk) (hpos : 0 < held k) :
    ∃ position bestBid exitRule, FullExit platform options orderbook (ticks k) position bestBid bestAsk exitRule ∧
      position.quantity = held k := by
  obtain ⟨position, hreads, hquantity, hrule⟩ := h.position k
  obtain ⟨bestBid, exitRule, hbid, hselected, hfull⟩ := hrule hpos
  exact ⟨position, bestBid, exitRule,
    ⟨h.exchange k, h.market k, h.book k, hreads, hquantity ▸ hpos, hbid, hask, hselected, hfull⟩, hquantity⟩

omit [H.Decimals] in
theorem ExitRun.nonneg {platform : Platform} (h : ExitRun platform options orderbook ticks held) (k : ℕ) :
    0 ≤ held k := by
  obtain ⟨position, -, hquantity, -⟩ := h.position k
  exact hquantity ▸ position.quantity_nonneg

omit [H.Decimals] in
/-- without a position nothing is sold -/
theorem ExitRun.unheld {platform : Platform} (h : ExitRun platform options orderbook ticks held) (hzero : held k = 0)
    {decision : StrategyDecision} (hdecision : evaluateAutonomous24x7 platform (ticks k) options = .ok decision)
    {intent : ExecutionIntent} (hmem : intent ∈ decision.orderIntents) : intent.side = .buy := by
  obtain ⟨position, hreads, hquantity, -⟩ := h.position k
  obtain ⟨-, _, position', -, hreads', horder⟩ := evaluateAutonomous24x7_orders hdecision hmem
  obtain rfl := Except.ok.inj (hreads.symm.trans hreads')
  rcases horder with ⟨hpos, -⟩ | ⟨-, _, _, hentry⟩
  · rw [hquantity, hzero] at hpos
    exact absurd hpos (lt_irrefl _)
  · obtain ⟨metadata, rfl⟩ := hentry.intent
    rfl

omit [H.Decimals] in
theorem ExitRun.sold_unheld {platform : Platform} (h : ExitRun platform options orderbook ticks held)
    (hzero : held k = 0) : sold (evaluateAutonomous24x7 platform (ticks k) options) = 0 := by
  unfold sold
  split
  · rename_i decision hdecision
    have hnone : (decision.orderIntents.filter fun intent => intent.side = .sell) = [] := by
      rw [List.filter_eq_nil_iff]
      intro intent hmem
      rw [h.unheld hzero hdecision hmem]
      decide
    rw [hnone]
    rfl
  · rfl

theorem ExitRun.step (h : ExitRun (decimalJs parseDate) options orderbook ticks held)
    (hask : readBestAsk orderbook = some bestAsk) (hscale : (options.quantityScale : ℕ) ≤ maxPlaces)
    (hgrid : OnGrid options.quantityScale (held k)) :
    held (k + 1) = drain (exitChunk (decimalJs parseDate) options bestAsk)
      (Sellable (decimalJs parseDate) options bestAsk) (held k) := by
  rw [h.filled k]
  rcases (h.nonneg k).eq_or_lt with hzero | hpos
  · rw [h.sold_unheld hzero.symm, ← hzero, sub_zero, drain_zero]
  · obtain ⟨position, bestBid, exitRule, hexit, hquantity⟩ := h.fullExit hask hpos
    rw [← hquantity] at hgrid ⊢
    exact exitTick_sold hscale hexit hgrid

omit [H.Decimals] in
theorem drain_onGrid {quantity : ℚ} (hgrid : OnGrid options.quantityScale quantity) :
    OnGrid options.quantityScale (drain (exitChunk (decimalJs parseDate) options bestAsk)
      (Sellable (decimalJs parseDate) options bestAsk) quantity) := by
  unfold drain
  split_ifs
  · exact hgrid.sub (hgrid.min exitChunk_onGrid)
  · exact hgrid

theorem ExitRun.onGrid (h : ExitRun (decimalJs parseDate) options orderbook ticks held)
    (hask : readBestAsk orderbook = some bestAsk) (hscale : (options.quantityScale : ℕ) ≤ maxPlaces)
    (hgrid : OnGrid options.quantityScale (held 0)) (k : ℕ) : OnGrid options.quantityScale (held k) := by
  induction k with
  | zero => exact hgrid
  | succ k ih =>
    rw [h.step hask hscale ih]
    exact drain_onGrid ih

/-- the position over the ticks is a stock that is drained -/
theorem ExitRun.held_eq (h : ExitRun (decimalJs parseDate) options orderbook ticks held)
    (hask : readBestAsk orderbook = some bestAsk) (hscale : (options.quantityScale : ℕ) ≤ maxPlaces)
    (hgrid : OnGrid options.quantityScale (held 0)) (k : ℕ) :
    held k = (drain (exitChunk (decimalJs parseDate) options bestAsk)
      (Sellable (decimalJs parseDate) options bestAsk))^[k] (held 0) := by
  induction k with
  | zero => rfl
  | succ k ih => rw [h.step hask hscale (h.onGrid hask hscale hgrid k), Function.iterate_succ_apply', ← ih]

omit [H.Decimals] in
theorem ExitRun.sells_iff (h : ExitRun (decimalJs parseDate) options orderbook ticks held)
    (hask : readBestAsk orderbook = some bestAsk) (hscale : (options.quantityScale : ℕ) ≤ maxPlaces)
    (hgrid : OnGrid options.quantityScale (held k)) (hpos : 0 < held k) :
    Sells (decimalJs parseDate) options (ticks k) ↔ Sellable (decimalJs parseDate) options bestAsk
      (min (held k) (exitChunk (decimalJs parseDate) options bestAsk)) := by
  obtain ⟨position, bestBid, exitRule, hexit, hquantity⟩ := h.fullExit hask hpos
  rw [← hquantity] at hgrid ⊢
  obtain ⟨decision, hdecision, horders⟩ := exitTick_orders hscale hexit hgrid
  split_ifs at horders with hsellable
  · refine ⟨fun _ => hsellable, fun _ => ⟨decision, _, hdecision, horders, rfl⟩⟩
  · refine ⟨?_, fun hs => absurd hs hsellable⟩
    rintro ⟨decision', intent, hdecision', hsingle, -⟩
    obtain rfl := Except.ok.inj (hdecision.symm.trans hdecision')
    rw [horders] at hsingle
    cases hsingle

omit [H.Decimals] in
theorem ExitRun.not_sells_unheld (h : ExitRun (decimalJs parseDate) options orderbook ticks held) (hzero : held k = 0) :
    ¬Sells (decimalJs parseDate) options (ticks k) := by
  rintro ⟨decision, intent, hdecision, hsingle, hside⟩
  have hbuy := h.unheld hzero hdecision (hsingle ▸ List.mem_singleton.2 rfl)
  rw [hside] at hbuy
  cases hbuy

omit [H.Decimals] in
/-- with more places than decimal.js has, no tick sells anything -/
theorem ExitRun.unscaled (h : ExitRun (decimalJs parseDate) options orderbook ticks held)
    (hask : readBestAsk orderbook = some bestAsk) (hscale : ¬(options.quantityScale : ℕ) ≤ maxPlaces)
    (hpos : 0 < held 0) (k : ℕ) : held k = held 0 := by
  induction k with
  | zero => rfl
  | succ k ih =>
    obtain ⟨position, bestBid, exitRule, hexit, -⟩ := h.fullExit hask (ih ▸ hpos : 0 < held k)
    obtain ⟨error, herror⟩ := exitTick_throws hscale hexit
    rw [h.filled k, herror, ih]
    exact sub_zero _

omit [H.Decimals] in
/-- a larger quantity is worth at least as much -/
theorem exitValue_mono {a b : ℚ} (hprice : 0 < exitPrice (decimalJs parseDate) options bestAsk) (ha : 0 < a) (h : a ≤ b) :
    exitValue (decimalJs parseDate) options bestAsk a ≤ exitValue (decimalJs parseDate) options bestAsk b :=
  decimalRound_mono (mul_pos hprice ha) (mul_le_mul_of_nonneg_left h hprice.le)

/-- **Chunked exits.** A position on the grid is sold completely, and no chunk leaves a remainder below the minimum,
exactly when the chunk, as far as it is needed, and the remainder behind the last full chunk, where there is one, can each
be sold in one order. -/
theorem chunked_exit_finishes_iff (h : ExitRun (decimalJs parseDate) options orderbook ticks held)
    (hask : readBestAsk orderbook = some bestAsk) (hgrid : OnGrid options.quantityScale (held 0)) (hpos : 0 < held 0) :
    ExitFinishes (decimalJs parseDate) options bestAsk ticks held ↔
      (options.quantityScale : ℕ) ≤ maxPlaces ∧
        Drainable (exitChunk (decimalJs parseDate) options bestAsk) (Sellable (decimalJs parseDate) options bestAsk)
          (held 0) := by
  have hok : ∀ amount, Sellable (decimalJs parseDate) options bestAsk amount → 0 < amount := fun _ hs => hs.1
  constructor
  · intro hfinishes
    obtain ⟨n, hn, -⟩ := hfinishes.finishes
    have hscale : (options.quantityScale : ℕ) ≤ maxPlaces := by
      by_contra hscale
      rw [h.unscaled hask hscale hpos n] at hn
      exact hpos.ne' hn
    rw [h.held_eq hask hscale hgrid n] at hn
    exact ⟨hscale, (drain_finishes_iff hok hpos).1 ⟨n, hn⟩⟩
  · rintro ⟨hscale, hdrainable⟩
    have hheld := h.held_eq hask hscale hgrid
    have hkept : ∀ k, held k = 0 ∨ 0 < held k ∧
        Drainable (exitChunk (decimalJs parseDate) options bestAsk) (Sellable (decimalJs parseDate) options bestAsk)
          (held k) := by
      intro k
      rw [hheld k]
      exact hdrainable.iterate hpos k
    refine ⟨?_, ?_⟩
    · -- up to the first empty tick every tick sells
      have hempty : ∃ n, held n = 0 := by
        obtain ⟨n, hn⟩ := hdrainable.finishes hpos
        exact ⟨n, (hheld n).trans hn⟩
      classical
      refine ⟨Nat.find hempty, Nat.find_spec hempty, fun k hk => ?_⟩
      rcases hkept k with hzero | ⟨hk0, hd⟩
      · exact absurd hzero (Nat.find_min hempty hk)
      · exact (h.sells_iff hask hscale (h.onGrid hask hscale hgrid k) hk0).2 (hd.ok_min hk0)
    · intro k _
      refine (hkept (k + 1)).imp_right ?_
      rintro ⟨hnext, hd⟩
      have hsellable := hd.ok_min hnext
      exact hsellable.2.1.trans (exitValue_mono hsellable.price_pos hsellable.1 (min_le_left _ _))

end Reading

end Chunks

/-! ## A remainder that stays -/

section Sample

local instance chunkHost : Host := decimalHost

local instance chunkHost_decimals : Host.Decimals chunkHost := decimalHost_decimals

/-- the budget buys two units at the exit price of 4000 -/
def chunkOptions : NormalizedOptions :=
  (normalizeOptions (sampleOptions "8000" "1000")).toOption.get (by decide +kernel)

def chunkBook : OrderbookEvent := ⟨"upbit_krw_spot", "KRW-BTC", [⟨"3000", "1"⟩], [⟨"2000", "1"⟩], .nanos 0⟩

/-- ticks far below the average entry price -/
def chunkTicks (quantity : ℕ → String) (k : ℕ) : StrategyContext := sampleContext "2000" "3000" (quantity k) "100000"

/-- the position and the rule of a tick -/
def tickSummary (orderbook : OrderbookEvent) (context : StrategyContext) : Option (ℚ × ExitRule) :=
  (readPositionSnapshot context.positions).toOption.bind fun position =>
    (readBestBid orderbook).bind fun bestBid =>
      (selectExitRule (decimalJs fun _ => none) context.observedAt bestBid chunkOptions position).map fun exitRule =>
        (position.quantity, exitRule.rule)

theorem tickSummary_reads {orderbook : OrderbookEvent} {context : StrategyContext} {quantity : ℚ} {rule : ExitRule}
    (h : tickSummary orderbook context = some (quantity, rule)) : ∃ position bestBid exitRule,
      readPositionSnapshot context.positions = .ok position ∧ position.quantity = quantity ∧
      readBestBid orderbook = some bestBid ∧
      selectExitRule (decimalJs fun _ => none) context.observedAt bestBid chunkOptions position = some exitRule ∧
      exitRule.rule = rule := by
  obtain ⟨position, hreads, h⟩ := Option.bind_eq_some_iff.1 h
  obtain ⟨bestBid, hbid, h⟩ := Option.bind_eq_some_iff.1 h
  obtain ⟨exitRule, hrule, h⟩ := Option.map_eq_some_iff.1 h
  obtain ⟨hquantity, hkind⟩ := Prod.mk.inj h
  refine ⟨position, bestBid, exitRule, ?_, hquantity, hbid, hrule, hkind⟩
  cases hposition : readPositionSnapshot context.positions with
  | error reason =>
    rw [hposition] at hreads
    cases hreads
  | ok _ =>
    rw [hposition] at hreads
    rw [Option.some.inj hreads]

/-- the ticks are a run where every one is a stop loss and the position follows the SELLs -/
theorem chunkRun {quantity : ℕ → String} {held : ℕ → ℚ}
    (hsummary : ∀ k, tickSummary chunkBook (chunkTicks quantity k) = some (held k, .stopLoss))
    (hfilled : ∀ k, held (k + 1)
      = held k - sold (evaluateAutonomous24x7 (decimalJs fun _ => none) (chunkTicks quantity k) chunkOptions)) :
    ExitRun (decimalJs fun _ => none) chunkOptions chunkBook (chunkTicks quantity) held where
  exchange _ := rfl
  market _ := rfl
  book _ := rfl
  position k := by
    obtain ⟨position, bestBid, exitRule, hreads, hquantity, hbid, hrule, hkind⟩ := tickSummary_reads (hsummary k)
    refine ⟨position, hreads, hquantity, fun _ => ⟨bestBid, exitRule, hbid, hrule, ?_⟩⟩
    rw [hkind]
    decide
  filled := hfilled

theorem normalizeOptions_chunk : normalizeOptions (sampleOptions "8000" "1000") = .ok chunkOptions := by
  obtain ⟨options, hoptions⟩ := Fallible.exists_ok
    (show (normalizeOptions (sampleOptions "8000" "1000")).toOption.isSome by decide +kernel)
  unfold chunkOptions
  simp only [hoptions]
  rfl

/-- the position texts of a run that starts with three units -/
def twoOfThree : ℕ → String
  | 0 => "3"
  | _ + 1 => "1"

def heldOfThree : ℕ → ℚ
  | 0 => 3
  | _ + 1 => 1

/-- two units of three are sold, and the third, worth 4000, stays for good -/
theorem chunk_remainder_stuck : ∃ (options : NormalizedOptions) (orderbook : OrderbookEvent) (bestAsk : ℚ)
    (ticks : ℕ → StrategyContext) (held : ℕ → ℚ),
    normalizeOptions (sampleOptions "8000" "1000") = .ok options ∧
    ExitRun (decimalJs fun _ => none) options orderbook ticks held ∧ readBestAsk orderbook = some bestAsk ∧
    OnGrid options.quantityScale (held 0) ∧ 0 < held 0 ∧
    minimumUpbitKrwOrderNotional ≤ exitPrice (decimalJs fun _ => none) options bestAsk * held 0 ∧
    ¬ExitFinishes (decimalJs fun _ => none) options bestAsk ticks held := by
  have hfirst : tickSummary chunkBook (chunkTicks twoOfThree 0) = some (3, .stopLoss) := by decide +kernel
  have hlater : tickSummary chunkBook (sampleContext "2000" "3000" "1" "100000") = some (1, .stopLoss) := by decide +kernel
  have hsold : (1 : ℚ) = 3 - sold (evaluateAutonomous24x7 (decimalJs fun _ => none) (chunkTicks twoOfThree 0)
      chunkOptions) := by
    decide +kernel
  have hstuck : (1 : ℚ) = 1 - sold (evaluateAutonomous24x7 (decimalJs fun _ => none)
      (sampleContext "2000" "3000" "1" "100000") chunkOptions) := by
    decide +kernel
  have hscale : (chunkOptions.quantityScale : ℕ) = 8 := by decide +kernel
  refine ⟨chunkOptions, chunkBook, 3000, chunkTicks twoOfThree, heldOfThree, normalizeOptions_chunk, chunkRun ?_ ?_,
    by decide +kernel, ⟨3 * 10 ^ 8, ?_⟩, by norm_num [heldOfThree], by decide +kernel, ?_⟩
  · rintro (_ | k)
    · exact hfirst
    · exact hlater
  · rintro (_ | k)
    · exact hsold
    · exact hstuck
  · norm_num [hscale, heldOfThree]
  · rintro ⟨⟨n, hn, -⟩, -⟩
    rcases n with _ | n
    · norm_num [heldOfThree] at hn
    · norm_num [heldOfThree] at hn

/-- the position texts of a run that starts with four units -/
def fourUnits : ℕ → String
  | 0 => "4"
  | 1 => "2"
  | _ + 2 => "0"

def heldOfFour : ℕ → ℚ
  | 0 => 4
  | 1 => 2
  | _ + 2 => 0

/-- four units are two chunks -/
theorem chunked_exit_finishes_four :
    ExitFinishes (decimalJs fun _ => none) chunkOptions 3000 (chunkTicks fourUnits) heldOfFour := by
  have hsummary : tickSummary chunkBook (chunkTicks fourUnits 0) = some (4, .stopLoss) ∧
      tickSummary chunkBook (chunkTicks fourUnits 1) = some (2, .stopLoss) ∧
      tickSummary chunkBook (sampleContext "2000" "3000" "0" "100000") = some (0, .stopLoss) := by
    decide +kernel
  have hsold : (2 : ℚ) = 4 - sold (evaluateAutonomous24x7 (decimalJs fun _ => none) (chunkTicks fourUnits 0) chunkOptions) ∧
      (0 : ℚ) = 2 - sold (evaluateAutonomous24x7 (decimalJs fun _ => none) (chunkTicks fourUnits 1) chunkOptions) ∧
      (0 : ℚ) = 0 - sold (evaluateAutonomous24x7 (decimalJs fun _ => none)
        (sampleContext "2000" "3000" "0" "100000") chunkOptions) := by
    decide +kernel
  have hrun : ExitRun (decimalJs fun _ => none) chunkOptions chunkBook (chunkTicks fourUnits) heldOfFour := by
    refine chunkRun ?_ ?_
    · rintro (_ | _ | k)
      · exact hsummary.1
      · exact hsummary.2.1
      · exact hsummary.2.2
    · rintro (_ | _ | k)
      · exact hsold.1
      · exact hsold.2.1
      · exact hsold.2.2
  have hscale : (chunkOptions.quantityScale : ℕ) = 8 := by decide +kernel
  refine (chunked_exit_finishes_iff hrun (by decide +kernel) ⟨4 * 10 ^ 8, ?_⟩ (by norm_num [heldOfFour])).2
    ⟨by decide +kernel, by decide +kernel, fun _ => by decide +kernel, fun hne => absurd ?_ hne⟩
  · norm_num [hscale, heldOfFour]
  · decide +kernel

end Sample

end SeeMirai.Live.Autonomous24x7
