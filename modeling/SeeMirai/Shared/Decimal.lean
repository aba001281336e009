/-
Financial decimals at the program's boundary (shared/decimal.ts). Every amount enters as a text and is parsed here;
inside the program amounts are decimal.js values, modelled exactly. `Thrown` is the error a call ends with.
-/
import SeeMirai.Lib.JsHost
import SeeMirai.Lib.Fallible

namespace SeeMirai

/-- an error as the caller sees it: the class name and the message -/
structure Thrown where
  name : String
  message : String
deriving DecidableEq, Repr

namespace Thrown

/-- decimal.js rejects the text -/
def decimalError (s : String) : Thrown := ⟨"Error", "[DecimalError] Invalid argument: " ++ s⟩

def nonFiniteFinancialDecimal : Thrown :=
  ⟨"NonFiniteFinancialDecimalError", "Financial decimal input must be finite"⟩

end Thrown

variable [Host]

/-- `parseFinancialDecimal` on a text: the finite decimal it denotes -/
def parseDec (s : String) : Except Thrown Dec :=
  match Host.decimal s with
  | .invalid => throw (Thrown.decimalError s)
  | .nonFinite => throw Thrown.nonFiniteFinancialDecimal
  | .finite d => pure d

/-- the value of `parseFinancialDecimal`, where the sign of a zero is not looked at -/
def parseFinancialDecimal (s : String) : Except Thrown ℚ := Dec.value <$> parseDec s

theorem parseFinancialDecimal_eq_ok {s : String} {q : ℚ} :
    parseFinancialDecimal s = .ok q ↔ Host.valueOf s = some q := by
  unfold parseFinancialDecimal parseDec Host.valueOf
  cases Host.decimal s <;> simp [Functor.map, Except.map, throw, throwThe, MonadExceptOf.throw, pure, Except.pure]

end SeeMirai
