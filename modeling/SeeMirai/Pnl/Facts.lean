/-
The facts PnL accounting is computed from (application/pnl-accounting/types.ts), and the two readers the calculator
applies to them: non-negative decimals and timestamps. Amounts stay texts until the calculator parses them.

`scopeKey` (source-priority.ts) joins strategy and market with `::`. It is the key of every map and set of the
calculator, and it is not injective: `scopeKey_collision`.
-/
import SeeMirai.Shared.Decimal
import SeeMirai.Lib.InsertionMap
import SeeMirai.Lib.StableSort
import SeeMirai.Lib.JsonText

namespace SeeMirai.Pnl

/-! ## Facts -/

inductive Side where
  | buy
  | sell
deriving DecidableEq, Repr

inductive Liquidity where
  | maker
  | taker
deriving DecidableEq, Repr

inductive PnLAccountingStatus where
  | calculated
  | partialResult
  | unavailable
  | manualReviewRequired
deriving DecidableEq, Repr

structure PnLFillFact where
  orderId : String
  strategyId : String
  market : String
  side : Side
  price : String
  quantity : String
  fee : String
  feeCurrency : String
  liquidity : Liquidity
  filledAt : TimestampInput
deriving DecidableEq, Repr

structure PnLPositionFact where
  strategyId : String
  market : String
  quantity : String
  averageEntryPrice : Option String
  realizedPnl : String
  unrealizedPnl : Option String
  updatedAt : TimestampInput
  source : String
deriving DecidableEq, Repr

structure PnLMarkPriceFact where
  market : String
  priceKrw : String
  observedAt : Option TimestampInput
  source : String
deriving DecidableEq, Repr

structure PnLCashFact where
  availableKrw : String
  lockedKrw : String
  totalKrw : String
  source : String
  observedAt : TimestampInput
deriving DecidableEq, Repr

structure PnLCostQualityFact where
  strategyId : String
  market : String
  spreadCostBps : Option String
  slippageBps : Option String
  cancelRequotePenaltyBps : Option String
  source : String
deriving DecidableEq, Repr

structure PnLMissingReason where
  message : String
  reasonCode : String
  scope : String
  source : String
deriving DecidableEq, Repr

/-- an unknown JSON value as far as the payload readers look: whether it is a text, and which -/
inductive PayloadValue where
  | text (s : String)
  | other
deriving DecidableEq, Repr

/-- one entry of a payload's `missingReasons` array -/
inductive PayloadReason where
  | notAnObject
  | object (message reasonCode scope source : PayloadValue)
deriving DecidableEq, Repr

/-- `payloadJson`; `missingReasons` is `none` when that field is not an array -/
structure SnapshotPayload where
  status : PayloadValue
  missingReasons : Option (List PayloadReason)
deriving DecidableEq, Repr

structure PnLSnapshotFact where
  strategyId : String
  market : Option String
  capturedAt : TimestampInput
  equity : String
  realizedPnl : String
  unrealizedPnl : String
  drawdownBps : String
  payloadJson : Option SnapshotPayload
deriving DecidableEq, Repr

structure PnLReconcileFact where
  strategyId : String
  market : String
  quantity : Option String
  recoveryStatus : String
  averageEntryPrice : Option String
  reconciledAt : TimestampInput
  averageEntrySource : Option String
deriving DecidableEq, Repr

/-- a requested scope: one market of a strategy, or all of them -/
structure TargetScope where
  strategyId : String
  market : Option String
deriving DecidableEq, Repr

/-- the tracing block: passed through, with the source tables and the last source time filled in -/
structure PnLTrace where
  runId : Option String
  correlationId : Option String
  sourceTables : Option (List String)
  lastSourceTimestamp : Option TimestampInput
deriving DecidableEq, Repr

structure PnLAccountingInput where
  capturedAt : Option TimestampInput
  targetScopes : Option (List TargetScope)
  fills : List PnLFillFact
  positions : List PnLPositionFact
  markPrices : List PnLMarkPriceFact
  cash : Option PnLCashFact
  costQuality : List PnLCostQualityFact
  pnlSnapshots : List PnLSnapshotFact
  reconcileFacts : List PnLReconcileFact
  trace : Option PnLTrace
deriving DecidableEq, Repr

/-! ## Keys and readers -/

def scopeKey (strategyId : String) (market : Option String) : String :=
  match market with
  | none => strategyId ++ "::*"
  | some m => strategyId ++ "::" ++ m

theorem scopeKey_collision : scopeKey "a::b" (some "c") = scopeKey "a" (some "b::c") := by decide +kernel

def PnLFillFact.key (f : PnLFillFact) : String := scopeKey f.strategyId (some f.market)

def PnLPositionFact.key (p : PnLPositionFact) : String := scopeKey p.strategyId (some p.market)

def PnLReconcileFact.key (r : PnLReconcileFact) : String := scopeKey r.strategyId (some r.market)

def invariantError (message : String) : Thrown := ⟨"PnLAccountingInvariantError", message⟩

def toTime (t : TimestampInput) : Except Thrown Int :=
  match t.millis with
  | some ms => pure ms
  | none => throw (invariantError "PnL accounting timestamp must be valid")

@[simp] theorem toTime_eq_ok {t : TimestampInput} {ms : Int} : toTime t = .ok ms ↔ t.millis = some ms := by
  unfold toTime; cases t.millis <;> simp

variable [Host]

/-- a decimal whose sign bit is clear; `"-0"` is refused -/
def parseNonNegativeDecimal (s : String) : Except Thrown ℚ := do
  let d ← parseDec s
  if d.isNegative then throw (invariantError "value must be non-negative") else pure d.value

theorem parseNonNegativeDecimal_nonneg {s : String} {q : ℚ} (h : parseNonNegativeDecimal s = .ok q) : 0 ≤ q := by
  unfold parseNonNegativeDecimal at h
  obtain ⟨d, -, hd⟩ := Fallible.bind_eq_ok.1 h
  split at hd
  · simp at hd
  · rename_i hneg
    rw [Fallible.pure_eq_ok] at hd
    exact hd ▸ d.value_nonneg (by simpa using hneg)

/-- the quantity a fact's text denotes, zero where it does not parse -/
def amount (s : String) : ℚ := (Host.valueOf s).getD 0

@[simp] theorem amount_zero : amount "0" = 0 := by simp [amount]

theorem amount_of_parse {s : String} {q : ℚ} (h : parseNonNegativeDecimal s = .ok q) : amount s = q := by
  unfold parseNonNegativeDecimal at h
  obtain ⟨d, hd, hq⟩ := Fallible.bind_eq_ok.1 h
  split at hq
  · simp at hq
  · rw [Fallible.pure_eq_ok] at hq
    have hp : parseFinancialDecimal s = .ok q := by
      simp only [parseFinancialDecimal, hd, Functor.map, Except.map, hq]
    rw [amount, parseFinancialDecimal_eq_ok.1 hp, Option.getD_some]

end SeeMirai.Pnl
