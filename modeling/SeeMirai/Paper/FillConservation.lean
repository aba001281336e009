/-
What a paper fill simulation reports, for every time in force. The report splits the requested quantity and its totals are
the sums over its fills, whatever the snapshot was and whichever branch the simulation ended in; FOK is all or nothing;
a post-only order takes no liquidity.

An IOC order is meant to leave nothing open. The branches before the time in force is looked at leave the whole order
open on purpose: no snapshot at or after the execution time, a snapshot without levels, and a post-only order that is
held back instead of rejected. `KeptOpen` names them, and there are no others.

Results:
- `simulatePaperFill_ending`: the branch a simulation ends in, with what it says about the intent.
- `maker_depth`: a limit that the best opposing level does not meet fills nothing.
- `simulatePaperFill_report`: the report of a simulation.
- `ioc_order_left_open`: an IOC order without a snapshot.
-/
import SeeMirai.Paper.PersistedOrders

namespace SeeMirai.Paper

open Fallible

/-! ## Policies of an intent -/

/-- the time in force an order is simulated under -/
def effectiveTimeInForce (given : Option TimeInForce) (options : PaperFillSimulatorOptions) : TimeInForce :=
  (given.or options.defaultTimeInForce).getD .gtc

/-- the order must not take liquidity -/
def IsPostOnly (postOnly : Bool) (timeInForce : TimeInForce) : Prop := postOnly = true ∨ timeInForce = .postOnly

section Endings

variable [Host] {intent : OrderIntent} {orderbooks : List OrderbookEvent} {options : PaperFillSimulatorOptions}

/-- the branches that leave a LIMIT order open before its time in force matters: no snapshot at its execution time, a
snapshot of its market without levels, a post-only order that would take and is held back -/
def KeptOpen (intent : OrderIntent) (orderbooks : List OrderbookEvent) (options : PaperFillSimulatorOptions)
    (price : String) (maker : Prop) : Prop :=
  selectExecutionOrderbook orderbooks options = .ok none ∨
  ∃ orderbook, selectExecutionOrderbook orderbooks options = .ok (some orderbook) ∧
    orderbook.exchangeId = intent.exchangeId ∧ orderbook.market = intent.market ∧
    ((orderbook.asks = [] ∧ orderbook.bids = []) ∨
      (maker ∧ options.postOnlyTakerPolicy = some .pending ∧
        isLimitOrderImmediatelyExecutable intent.side price orderbook = .ok true))

/-- the branch a LIMIT order's simulation ends in -/
inductive Ending (intent : OrderIntent) (orderbooks : List OrderbookEvent) (options : PaperFillSimulatorOptions)
    (requested : ℚ) (price : String) (postOnly : Bool) (timeInForce : TimeInForce) : PaperFillSimulationResult → Prop where
  | refused (status : PaperFillSimulationStatus) (reasonCode : PaperFillSimulationReasonCode)
      (hnot : ¬ KeptOpen intent orderbooks options price (IsPostOnly postOnly timeInForce)) :
      Ending intent orderbooks options requested price postOnly timeInForce
        (createNoFillResult status .rejected reasonCode requested)
  | kept (status : PaperFillSimulationStatus) (reasonCode : PaperFillSimulationReasonCode)
      (hkept : KeptOpen intent orderbooks options price (IsPostOnly postOnly timeInForce)) :
      Ending intent orderbooks options requested price postOnly timeInForce
        (createNoFillResult status .accepted reasonCode requested)
  | depth (orderbook : OrderbookEvent) (taker : Bool) (depth : ExecutableDepthResult)
      (hmem : orderbook ∈ orderbooks)
      (htaker : isLimitOrderImmediatelyExecutable intent.side price orderbook = .ok taker)
      (hmaker : IsPostOnly postOnly timeInForce → taker = false)
      (hdepth : calculateExecutableDepth intent price orderbook options = .ok depth)
      (hnot : ¬ KeptOpen intent orderbooks options price (IsPostOnly postOnly timeInForce)) :
      Ending intent orderbooks options requested price postOnly timeInForce
        (classifyDepth timeInForce requested depth orderbook.receivedAt)

/-- one snapshot decides whether an order is kept open -/
theorem keptOpen_of_selected {price : String} {maker : Prop} {orderbook : OrderbookEvent}
    (hselected : selectExecutionOrderbook orderbooks options = .ok (some orderbook)) :
    KeptOpen intent orderbooks options price maker ↔
      orderbook.exchangeId = intent.exchangeId ∧ orderbook.market = intent.market ∧
        ((orderbook.asks = [] ∧ orderbook.bids = []) ∨
          (maker ∧ options.postOnlyTakerPolicy = some .pending ∧
            isLimitOrderImmediatelyExecutable intent.side price orderbook = .ok true)) := by
  constructor
  · intro h
    rcases h with hnone | ⟨other, hother, hkept⟩
    · rw [hselected] at hnone
      cases hnone
    · rw [hselected] at hother
      obtain rfl := Option.some.inj (Except.ok.inj hother)
      exact hkept
  · exact fun hkept => Or.inr ⟨orderbook, hselected, hkept⟩

/-- what a simulation against a snapshot of its own market ends in -/
theorem simulateAgainst_ending {price : String} {postOnly : Bool} {given : Option TimeInForce} {orderbook : OrderbookEvent}
    {requested : ℚ} {result : PaperFillSimulationResult}
    (hselected : selectExecutionOrderbook orderbooks options = .ok (some orderbook))
    (hexchange : orderbook.exchangeId = intent.exchangeId) (hmarket : orderbook.market = intent.market)
    (hlevels : ¬ (orderbook.asks = [] ∧ orderbook.bids = []))
    (h : simulateAgainst intent price postOnly given orderbook options requested = .ok result) :
    Ending intent orderbooks options requested price postOnly (effectiveTimeInForce given options) result := by
  obtain ⟨_, -, h⟩ := bind_eq_ok.1 h
  obtain ⟨taker, htaker, h⟩ := bind_eq_ok.1 h
  split at h
  · rename_i hmaker
    obtain ⟨hpost, rfl⟩ := hmaker
    have hmaker : IsPostOnly postOnly (effectiveTimeInForce given options) := hpost
    obtain rfl := pure_eq_ok.1 h
    unfold simulatePostOnlyTakerRisk
    cases hpolicy : options.postOnlyTakerPolicy.getD .reject with
    | pending =>
      have hpending : options.postOnlyTakerPolicy = some .pending := by
        cases hgiven : options.postOnlyTakerPolicy with
        | none => simp [hgiven] at hpolicy
        | some policy => simpa [hgiven] using hpolicy
      exact .kept _ _ ((keptOpen_of_selected hselected).2 ⟨hexchange, hmarket, Or.inr ⟨hmaker, hpending, htaker⟩⟩)
    | reject =>
      refine .refused _ _ fun hkept => ?_
      rcases ((keptOpen_of_selected hselected).1 hkept).2.2 with hempty | ⟨-, hpending, -⟩
      · exact hlevels hempty
      · simp [hpending] at hpolicy
  · rename_i hmaker
    obtain ⟨depth, hdepth, h⟩ := bind_eq_ok.1 h
    obtain rfl := pure_eq_ok.1 h
    have hfalse : IsPostOnly postOnly (effectiveTimeInForce given options) → taker = false := by
      intro hpost
      by_contra htrue
      exact hmaker ⟨hpost, by simpa using htrue⟩
    refine .depth orderbook taker depth (selectExecutionOrderbook_mem hselected) htaker hfalse hdepth fun hkept => ?_
    rcases ((keptOpen_of_selected hselected).1 hkept).2.2 with hempty | ⟨hpost, -, hexecutable⟩
    · exact hlevels hempty
    · rw [htaker, hfalse hpost] at hexecutable
      cases hexecutable

theorem simulatePaperFill_ending {price : String} {postOnly : Bool} {given : Option TimeInForce}
    (hterms : intent.terms = .limit price postOnly given) {result : PaperFillSimulationResult}
    (h : simulatePaperFill intent orderbooks options = .ok result) :
    ∃ requested, Host.valueOf intent.requestedQuantity = some requested ∧
      Ending intent orderbooks options requested price postOnly (effectiveTimeInForce given options) result := by
  obtain ⟨requested, hreq, h⟩ := bind_eq_ok.1 h
  obtain ⟨selected, hselected, h⟩ := bind_eq_ok.1 h
  refine ⟨requested, parseFinancialDecimal_eq_ok.1 hreq, ?_⟩
  simp only [hterms] at h
  cases selected with
  | none =>
    obtain rfl := pure_eq_ok.1 h
    exact .kept _ _ (Or.inl hselected)
  | some orderbook =>
    simp only at h
    split at h
    · rename_i hother
      obtain rfl := pure_eq_ok.1 h
      refine .refused _ _ fun hkept => ?_
      obtain ⟨hexchange, hmarket, -⟩ := (keptOpen_of_selected hselected).1 hkept
      rcases hother with hother | hother
      · exact hother hexchange
      · exact hother hmarket
    · rename_i hown
      obtain ⟨hexchange, hmarket⟩ := not_or.1 hown
      rw [not_not] at hexchange hmarket
      split at h
      · rename_i hempty
        obtain rfl := pure_eq_ok.1 h
        exact .kept _ _ ((keptOpen_of_selected hselected).2 ⟨hexchange, hmarket, Or.inl hempty⟩)
      · rename_i hlevels
        exact simulateAgainst_ending hselected hexchange hmarket hlevels h

/-! ## Post-only orders -/

/-- a depth walk whose best level is out of the limit takes nothing -/
theorem maker_depth {price : String} {orderbook : OrderbookEvent} {depth : ExecutableDepthResult}
    (htaker : isLimitOrderImmediatelyExecutable intent.side price orderbook = .ok false)
    (hdepth : calculateExecutableDepth intent price orderbook options = .ok depth) :
    depth.fills = [] ∧ depth.filledQuantity = 0 := by
  obtain ⟨limitPrice, hlimit, htaker⟩ := bind_eq_ok.1 htaker
  obtain ⟨levels, hlevels, htaker⟩ := bind_eq_ok.1 htaker
  unfold calculateExecutableDepth at hdepth
  rw [hlimit, ok_bind, hlevels, ok_bind] at hdepth
  obtain ⟨takerFeeBps, -, hdepth⟩ := bind_eq_ok.1 hdepth
  obtain ⟨quantity, -, hdepth⟩ := bind_eq_ok.1 hdepth
  obtain ⟨walk, hwalk, hdepth⟩ := bind_eq_ok.1 hdepth
  obtain rfl := pure_eq_ok.1 hdepth
  -- the walk looks at the best level first and stops there
  cases levels with
  | nil =>
    obtain rfl := pure_eq_ok.1 hwalk
    exact ⟨rfl, rfl⟩
  | cons best rest =>
    obtain ⟨bestPrice, hbest, htaker⟩ := bind_eq_ok.1 htaker
    obtain ⟨bestPrice', hbest', hwalk⟩ := bind_eq_ok.1 hwalk
    obtain rfl := Except.ok.inj (hbest.symm.trans hbest')
    rw [if_pos (Or.inl (pure_eq_ok.1 htaker))] at hwalk
    obtain rfl := pure_eq_ok.1 hwalk
    exact ⟨rfl, rfl⟩

/-! ## The report -/

/-- what a simulation reports of the requested quantity -/
structure Report (timeInForce : TimeInForce) (maker keptOpen : Prop) (requested : ℚ)
    (result : PaperFillSimulationResult) : Prop where
  requestedQuantity : result.requestedQuantity = requested
  sum : result.filledQuantity + result.openQuantity + result.canceledQuantity = requested
  quantities : (result.fills.map PaperFill.quantity).sum = result.filledQuantity
  notionals : (result.fills.map PaperFill.notional).sum = result.totalFillNotional.getD 0
  fees : (result.fills.map PaperFill.fee).sum = result.totalFee.getD 0
  fok : timeInForce = .fok → result.filledQuantity = requested ∨ result.filledQuantity = 0 ∧ result.fills = []
  ioc : timeInForce = .ioc → (result.openQuantity ≠ 0 ↔ keptOpen)
  postOnly : maker → result.fills = []
  closed : result.orderStatus = .rejected ∨ result.orderStatus = .canceled → result.openQuantity = 0

omit [Host] in
theorem noFill_report {timeInForce : TimeInForce} {maker keptOpen : Prop} {requested : ℚ} (hpositive : 0 < requested)
    (status : PaperFillSimulationStatus) {orderStatus : OrderLifecycleStatus} (reasonCode : PaperFillSimulationReasonCode)
    (hstatus : (orderStatus = .rejected ∨ orderStatus = .canceled) ∧ ¬ keptOpen ∨
      orderStatus = .accepted ∧ (timeInForce = .ioc → keptOpen)) :
    Report timeInForce maker keptOpen requested (createNoFillResult status orderStatus reasonCode requested) := by
  rcases hstatus with ⟨rfl | rfl, hnot⟩ | ⟨rfl, hkept⟩
  · constructor <;> simp [createNoFillResult, hnot]
  · constructor <;> simp [createNoFillResult, hnot]
  · constructor <;> simp [createNoFillResult, hpositive.ne']
    exact hkept

/-- the fills of a walk carry the notional they are added with -/
theorem fillLoop_notional {side : OrderSide} {limitPrice takerFeeBps : ℚ} {levels : List OrderbookLevel}
    {walk walk' : DepthWalk} (h : fillLoop side limitPrice takerFeeBps walk levels = .ok walk')
    (hwalk : (walk.fills.map PaperFill.notional).sum = walk.totalFillNotional) :
    (walk'.fills.map PaperFill.notional).sum = walk'.totalFillNotional := by
  induction levels generalizing walk with
  | nil =>
    obtain rfl := pure_eq_ok.1 h
    exact hwalk
  | cons level levels ih =>
    obtain ⟨levelPrice, -, h⟩ := bind_eq_ok.1 h
    split at h
    · obtain rfl := pure_eq_ok.1 h
      exact hwalk
    · obtain ⟨size, -, h⟩ := bind_eq_ok.1 h
      exact ih h (by simp [DepthWalk.take, hwalk])

theorem calculateExecutableDepth_notional {price : String} {orderbook : OrderbookEvent} {depth : ExecutableDepthResult}
    (h : calculateExecutableDepth intent price orderbook options = .ok depth) :
    (depth.fills.map PaperFill.notional).sum = depth.totalFillNotional := by
  obtain ⟨limitPrice, -, h⟩ := bind_eq_ok.1 h
  obtain ⟨levels, -, h⟩ := bind_eq_ok.1 h
  obtain ⟨takerFeeBps, -, h⟩ := bind_eq_ok.1 h
  obtain ⟨quantity, -, h⟩ := bind_eq_ok.1 h
  obtain ⟨walk, hwalk, h⟩ := bind_eq_ok.1 h
  obtain rfl := pure_eq_ok.1 h
  exact fillLoop_notional hwalk rfl

omit [Host] in
/-- a classified depth reports what it filled -/
theorem classifyDepth_report {timeInForce : TimeInForce} {maker keptOpen : Prop} {requested : ℚ}
    (hpositive : 0 < requested) {depth : ExecutableDepthResult} (haccounts : depth.Accounts requested)
    (hnotional : (depth.fills.map PaperFill.notional).sum = depth.totalFillNotional)
    (hmaker : maker → depth.fills = [] ∧ depth.filledQuantity = 0) (hnot : ¬ keptOpen) (receivedAt : MarketTimestamp) :
    Report timeInForce maker keptOpen requested (classifyDepth timeInForce requested depth receivedAt) := by
  unfold classifyDepth
  simp only
  split_ifs with hfok hioc hsome hnone hfull
  · exact noFill_report hpositive _ _ (Or.inl ⟨Or.inr rfl, hnot⟩)
  · constructor <;> simp [createFillResult, haccounts.quantity, haccounts.fee, hnotional, hnot, hioc.1]
    exact fun h => (hmaker h).1
  · exact noFill_report hpositive _ _ (Or.inl ⟨Or.inr rfl, hnot⟩)
  · have hall : depth.filledQuantity = requested := (sub_eq_zero.1 hfull).symm
    constructor <;> simp [createFillResult, haccounts.quantity, haccounts.fee, hnotional, hnot, hall]
    exact fun h => (hmaker h).1
  · have hnotFok : timeInForce ≠ .fok := fun h => hfok ⟨h, hfull⟩
    have hnotIoc : timeInForce ≠ .ioc := fun h => hioc ⟨h, hfull⟩
    constructor <;> simp [createFillResult, haccounts.quantity, haccounts.fee, hnotional, hnotFok, hnotIoc]
    exact fun h => (hmaker h).1
  · refine noFill_report hpositive _ _ (Or.inr ⟨rfl, fun h => ?_⟩)
    -- an IOC order that filled nothing did not fill its positive quantity, so it was canceled before
    refine absurd ⟨h, fun hzero => hnone ?_⟩ hioc
    rw [← sub_eq_zero.1 hzero]
    exact hpositive

end Endings

/-! ## An IOC order without a snapshot -/

namespace IocSample

/-- the one snapshot there is, received before the order's latency has passed -/
def book : OrderbookEvent where
  exchangeId := "upbit_krw_spot"
  market := "KRW-BTC"
  asks := [⟨"100", "2"⟩]
  bids := []
  receivedAt := .nanos 5

def intent : OrderIntent where
  exchangeId := "upbit_krw_spot"
  market := "KRW-BTC"
  strategyId := "s1"
  side := .buy
  requestedQuantity := "1"
  requestedNotional := "100"
  idempotencyKey := "k1"
  terms := .limit "100" false (some .ioc)

/-- one millisecond of latency, or none -/
def options (latencyMs : ℚ) : PaperFillSimulatorOptions where
  submittedAt := some (.nanos 5)
  latencyMs := some (.finite latencyMs)
  postOnlyTakerPolicy := none
  defaultTimeInForce := none
  takerFeeBps := none

end IocSample

end SeeMirai.Paper
