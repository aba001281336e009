/-
The guard of the live execution adapter in front of a SELL (runtime/live-ops-live-execution/service.ts,
`collectExitOrderIntentViolations`). It compares the order with the market of the config, with the strategy the risk input
is about, with the position scope in the order's metadata and with the latest position of the strategy. Texts go into
decimal.js without a check that they are finite, so the comparisons are those of `RawDecimal`.

Results:
- `exitGuard_passes_iff`: the guard has no objection exactly when every check passes.
- `validateExitQuantity_eq_none`: for finite amounts, what the two quantity checks let through.
-/
import SeeMirai.Execution.Evidence
import SeeMirai.Lib.RawDecimal

namespace SeeMirai.Live

open Execution (ExecutionIntent)

/-! ## Model -/

/-- the markets of a live ops config -/
structure LiveOpsUniverse where
  markets : List String
  default_market : String

/-- a position of the risk input; a caller without type checks leaves fields out -/
structure ExitPositionSnapshot where
  exchangeId : Option String
  market : String
  strategyId : Option String
  metadata : JsValue

/-- what the guard reads of the risk input -/
structure ExitRiskInput where
  strategyId : String
  positions : List ExitPositionSnapshot

/-- the position scope that the evidence of an exit carries -/
structure ExitPositionScope where
  market : String
  strategy_id : String
  total_quantity : String
deriving DecidableEq

/-- a text property that is not empty -/
def readStringMetadata (metadata : JsValue) (key : String) : Option String :=
  (metadata.prop key).asString.filter fun value => value ≠ ""

/-- `left ?? right` -/
def nullish : JsValue → JsValue → JsValue
  | .undefined, right => right
  | .null, right => right
  | left, _ => left

def readExpectedLossBps (intent : ExecutionIntent) : Option String :=
  ((nullish (intent.metadata.prop "expected_loss_bps_of_equity") (intent.metadata.prop "expectedLossBpsOfEquity")).asString.map
    trim).filter fun value => value ≠ ""

def readPositionEffect (intent : ExecutionIntent) : Option String :=
  (readStringMetadata intent.metadata "position_effect").or (readStringMetadata intent.metadata "positionEffect")

def readExitPositionScope (intent : ExecutionIntent) : Option ExitPositionScope :=
  let scope := intent.metadata.prop "position_scope"
  if scope.isNonEmptyRecord then
    match (scope.prop "market").asString, (scope.prop "strategy_id").asString, (scope.prop "total_quantity").asString with
    | some market, some strategy_id, some total_quantity => some { market, strategy_id, total_quantity }
    | _, _, _ => none
  else none

/-- the violation, where the condition holds -/
def violated (condition : Prop) [Decidable condition] (message : String) : List String :=
  if condition then [message] else []

/-- the exchange and strategy of a position are known and those of the scope -/
def isMatchingExitPositionSnapshot (intent : ExecutionIntent) (positionScope : ExitPositionScope)
    (position : ExitPositionSnapshot) : Bool :=
  position.exchangeId = some intent.exchangeId ∧ position.market = positionScope.market ∧
    position.strategyId = some positionScope.strategy_id

/-- the quantity under its several names; the unqualified ones count for a position of a strategy only -/
def positionQuantityText (position : ExitPositionSnapshot) : Option String :=
  (readStringMetadata position.metadata "strategy_owned_quantity").or
    (if position.strategyId.isNone then none
    else (readStringMetadata position.metadata "position_quantity").or
      ((readStringMetadata position.metadata "position_total_quantity").or
        ((readStringMetadata position.metadata "total_quantity").or (readStringMetadata position.metadata "quantity"))))

section Host

variable [H : Host] [H.NonFinites]

/-- a text above zero; an infinity counts -/
def readPositiveRawDecimal (value : Option String) : Option RawDecimal :=
  (value.filter fun value => trim value ≠ "").bind fun value =>
    (rawDecimal value).filter fun parsed => parsed.gt (.finite 0)

def readPositionRiskSnapshotQuantity (position : Option ExitPositionSnapshot) : Option RawDecimal :=
  position.bind fun position => readPositiveRawDecimal (positionQuantityText position)

/-- the checks of the quantity against the scope in the order's own metadata -/
def validateExitQuantityAgainstScope (intent : ExecutionIntent) (positionScope : ExitPositionScope)
    (positionEffect : Option String) : Option String :=
  if positionScope.market ≠ intent.market then some "매도 후보 position scope market은 주문 market과 일치해야 합니다"
  else if positionScope.strategy_id ≠ intent.strategyId then
    some "매도 후보 position scope strategy는 주문 strategy와 일치해야 합니다"
  else
    match rawDecimal intent.requestedQuantity, rawDecimal positionScope.total_quantity with
    | some requestedQuantity, some openQuantity =>
      if ¬openQuantity.gt (.finite 0) then some "매도 후보의 보유 수량 scope는 0보다 커야 합니다"
      else if requestedQuantity.gt openQuantity then some "매도 후보 수량은 보유 수량을 초과할 수 없습니다"
      else if positionEffect = some "EXIT" ∧ ¬requestedQuantity.eq openQuantity then
        some "EXIT 매도 후보 수량은 보유 수량 전체와 일치해야 합니다"
      else none
    | _, _ => some "매도 후보 수량과 보유 수량은 Decimal 문자열이어야 합니다"

/-- the checks of the quantity and the scope against the latest position of the strategy -/
def validateExitQuantityAgainstLatestPosition (risk : ExitRiskInput) (intent : ExecutionIntent)
    (positionScope : ExitPositionScope) (positionEffect : Option String) : Option String :=
  match readPositionRiskSnapshotQuantity (risk.positions.find? (isMatchingExitPositionSnapshot intent positionScope)) with
  | none => some "매도 후보에는 최신 포지션 snapshot의 strategy-owned 수량 evidence가 필요합니다"
  | some latestQuantity =>
    match rawDecimal intent.requestedQuantity, rawDecimal positionScope.total_quantity with
    | some requestedQuantity, some scopedQuantity =>
      if ¬latestQuantity.gt (.finite 0) then
        some "최신 포지션 snapshot 수량은 0보다 커야 SELL 후보를 제출할 수 있습니다"
      else if ¬scopedQuantity.eq latestQuantity then
        some "매도 후보 position scope가 최신 포지션 snapshot 수량과 일치해야 합니다"
      else if requestedQuantity.gt latestQuantity then
        some "매도 후보 수량은 최신 포지션 snapshot 수량을 초과할 수 없습니다"
      else if positionEffect = some "EXIT" ∧ ¬requestedQuantity.eq latestQuantity then
        some "EXIT 매도 후보 수량은 최신 포지션 snapshot 전체 수량과 일치해야 합니다"
      else none
    | _, _ => some "최신 포지션 snapshot 수량과 매도 후보 수량은 Decimal 문자열이어야 합니다"

/-- the shape of the order: everything but the quantities -/
def exitShapeViolations (config : LiveOpsUniverse) (risk : ExitRiskInput) (intent : ExecutionIntent) : List String :=
  violated (intent.exchangeId ≠ "upbit_krw_spot") "exchange는 upbit_krw_spot이어야 합니다"
  ++ violated (intent.market ∉ config.markets ∨ intent.market ≠ config.default_market)
    "매도 후보 market은 production live ops 기본 market이어야 합니다"
  ++ violated (intent.side ≠ .sell) "production live ops exit은 SELL 후보만 허용합니다"
  ++ (match intent.terms with
    | .market => ["production live ops exit은 LIMIT 주문만 허용합니다"]
    | .limit _ postOnly timeInForce =>
      violated (postOnly ≠ true ∨ timeInForce ≠ some .postOnly)
        "production live ops exit은 post-only LIMIT 주문만 허용합니다")
  ++ violated (risk.strategyId ≠ intent.strategyId) "RiskGate strategy snapshot과 매도 후보 strategy가 일치해야 합니다"
  ++ violated (readExpectedLossBps intent = none) "매도 후보에는 RiskGate expected loss 입력이 필요합니다"
  ++ violated (readPositionEffect intent ≠ some "REDUCE" ∧ readPositionEffect intent ≠ some "EXIT")
    "매도 후보에는 REDUCE 또는 EXIT position effect가 필요합니다"
  ++ violated (readStringMetadata intent.metadata "exit_reason_code" = none) "매도 후보에는 exit reason code가 필요합니다"
  ++ violated (readStringMetadata intent.metadata "exit_rule_id" = none) "매도 후보에는 exit rule id가 필요합니다"

def collectExitOrderIntentViolations (config : LiveOpsUniverse) (risk : ExitRiskInput) (intent : ExecutionIntent) :
    List String :=
  exitShapeViolations config risk intent
  ++ (match readExitPositionScope intent with
    | none => ["매도 후보에는 보유 수량 position scope가 필요합니다"]
    | some positionScope =>
      (validateExitQuantityAgainstScope intent positionScope (readPositionEffect intent)).toList
      ++ (validateExitQuantityAgainstLatestPosition risk intent positionScope (readPositionEffect intent)).toList)

/-! ## What the guard lets through -/

omit H in
theorem violated_eq_nil {condition : Prop} [Decidable condition] {message : String} :
    violated condition message = [] ↔ ¬condition := by
  unfold violated
  split_ifs with h
  · simp [h]
  · simp [h]

/-- an order of the right shape: a SELL LIMIT post-only in the market of the config, with its evidence -/
structure ExitShape (config : LiveOpsUniverse) (risk : ExitRiskInput) (intent : ExecutionIntent) : Prop where
  exchange : intent.exchangeId = "upbit_krw_spot"
  listed : intent.market ∈ config.markets
  default : intent.market = config.default_market
  side : intent.side = .sell
  limit : ∃ requestedPrice, intent.terms = .limit requestedPrice true (some .postOnly)
  strategy : risk.strategyId = intent.strategyId
  expectedLoss : readExpectedLossBps intent ≠ none
  effect : readPositionEffect intent = some "REDUCE" ∨ readPositionEffect intent = some "EXIT"
  reason : readStringMetadata intent.metadata "exit_reason_code" ≠ none
  rule : readStringMetadata intent.metadata "exit_rule_id" ≠ none

omit H in
theorem exitShapeViolations_eq_nil {config : LiveOpsUniverse} {risk : ExitRiskInput} {intent : ExecutionIntent} :
    exitShapeViolations config risk intent = [] ↔ ExitShape config risk intent := by
  have hterms : (match intent.terms with
      | .market => ["production live ops exit은 LIMIT 주문만 허용합니다"]
      | .limit _ postOnly timeInForce =>
        violated (postOnly ≠ true ∨ timeInForce ≠ some .postOnly)
          "production live ops exit은 post-only LIMIT 주문만 허용합니다") = []
      ↔ ∃ requestedPrice, intent.terms = .limit requestedPrice true (some .postOnly) := by
    cases intent.terms with
    | market => simp
    | limit requestedPrice postOnly timeInForce => simp [violated_eq_nil]
  unfold exitShapeViolations
  simp only [List.append_eq_nil_iff, violated_eq_nil, hterms, not_not, not_or, not_and_or, and_assoc, ne_eq]
  constructor
  · rintro ⟨hexchange, hlisted, hdefault, hside, hlimit, hstrategy, hloss, heffect, hreason, hrule⟩
    exact ⟨hexchange, hlisted, hdefault, hside, hlimit, hstrategy, hloss, heffect, hreason, hrule⟩
  · intro h
    exact ⟨h.exchange, h.listed, h.default, h.side, h.limit, h.strategy, h.expectedLoss, h.effect, h.reason, h.rule⟩

/-- what the scope check lets through -/
structure FitsScope (intent : ExecutionIntent) (positionScope : ExitPositionScope) (requested held : RawDecimal) :
    Prop where
  market : positionScope.market = intent.market
  strategy : positionScope.strategy_id = intent.strategyId
  reads_requested : rawDecimal intent.requestedQuantity = some requested
  reads_held : rawDecimal positionScope.total_quantity = some held
  held_pos : held.gt (.finite 0)
  within : requested.gt held = false
  exit : readPositionEffect intent = some "EXIT" → requested.eq held

theorem validateExitQuantityAgainstScope_eq_none {intent : ExecutionIntent} {positionScope : ExitPositionScope} :
    validateExitQuantityAgainstScope intent positionScope (readPositionEffect intent) = none
      ↔ ∃ requested held, FitsScope intent positionScope requested held := by
  unfold validateExitQuantityAgainstScope
  constructor
  · intro h
    split_ifs at h with hmarket hstrategy
    split at h
    · rename_i requested held hrequested hheld
      split_ifs at h with hpos hwithin hexit
      exact ⟨requested, held, not_not.1 hmarket, not_not.1 hstrategy, hrequested, hheld, hpos,
        Bool.not_eq_true _ ▸ hwithin, fun heffect => not_not.1 fun hne => hexit ⟨heffect, hne⟩⟩
    · cases h
  · rintro ⟨requested, held, h⟩
    rw [if_neg (not_not.2 h.market), if_neg (not_not.2 h.strategy), h.reads_requested, h.reads_held]
    dsimp only
    rw [if_neg (not_not.2 h.held_pos), if_neg (by simp [h.within]), if_neg fun hexit => hexit.2 (h.exit hexit.1)]

/-- what the check against the latest position lets through -/
structure FitsLatest (risk : ExitRiskInput) (intent : ExecutionIntent) (positionScope : ExitPositionScope)
    (requested scopeQuantity latest : RawDecimal) : Prop where
  reads_latest : readPositionRiskSnapshotQuantity
    (risk.positions.find? (isMatchingExitPositionSnapshot intent positionScope)) = some latest
  reads_requested : rawDecimal intent.requestedQuantity = some requested
  reads_scope : rawDecimal positionScope.total_quantity = some scopeQuantity
  latest_pos : latest.gt (.finite 0)
  same : scopeQuantity.eq latest
  within : requested.gt latest = false
  exit : readPositionEffect intent = some "EXIT" → requested.eq latest

theorem validateExitQuantityAgainstLatestPosition_eq_none {risk : ExitRiskInput} {intent : ExecutionIntent}
    {positionScope : ExitPositionScope} :
    validateExitQuantityAgainstLatestPosition risk intent positionScope (readPositionEffect intent) = none
      ↔ ∃ requested scopeQuantity latest, FitsLatest risk intent positionScope requested scopeQuantity latest := by
  unfold validateExitQuantityAgainstLatestPosition
  constructor
  · intro h
    split at h
    · cases h
    · rename_i latest hlatest
      split at h
      · rename_i requested scopeQuantity hrequested hscoped
        split_ifs at h with hpos hsame hwithin hexit
        exact ⟨requested, scopeQuantity, latest, hlatest, hrequested, hscoped, hpos, hsame,
          Bool.not_eq_true _ ▸ hwithin, fun heffect => not_not.1 fun hne => hexit ⟨heffect, hne⟩⟩
      · cases h
  · rintro ⟨requested, scopeQuantity, latest, h⟩
    rw [h.reads_latest]
    dsimp only
    rw [h.reads_requested, h.reads_scope]
    dsimp only
    rw [if_neg (not_not.2 h.latest_pos), if_neg (not_not.2 h.same), if_neg (by simp [h.within]),
      if_neg fun hexit => hexit.2 (h.exit hexit.1)]

/-- **The guard.** It has no objection exactly to an order of the right shape whose quantity fits the scope in its
metadata and the latest position of its strategy. -/
theorem exitGuard_passes_iff {config : LiveOpsUniverse} {risk : ExitRiskInput} {intent : ExecutionIntent} :
    collectExitOrderIntentViolations config risk intent = [] ↔
      ExitShape config risk intent ∧ ∃ positionScope, readExitPositionScope intent = some positionScope ∧
        (∃ requested held, FitsScope intent positionScope requested held) ∧
        ∃ requested scopeQuantity latest, FitsLatest risk intent positionScope requested scopeQuantity latest := by
  unfold collectExitOrderIntentViolations
  rw [List.append_eq_nil_iff, exitShapeViolations_eq_nil]
  refine and_congr_right fun _ => ?_
  cases hscope : readExitPositionScope intent with
  | none => simp
  | some positionScope =>
    simp only [List.append_eq_nil_iff, Option.toList_eq_nil_iff, validateExitQuantityAgainstScope_eq_none,
      validateExitQuantityAgainstLatestPosition_eq_none, Option.some.injEq, exists_eq_left']

end Host

end SeeMirai.Live
