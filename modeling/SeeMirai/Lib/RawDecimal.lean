/-
`new Decimal(text)` without a guard behind it: besides numbers it gives `NaN` and the infinities, and comparisons with
them answer as IEEE comparisons do. `Host.NonFinites` adds to a host which of them a text denotes.

Results:
- `gt_finite`, `eq_finite`: between numbers the comparisons are those of the numbers.
- `rawDecimal_finite`: a text that denotes a number is read as this number.
-/
import SeeMirai.Lib.JsHost

namespace SeeMirai

/-- a decimal.js value, its zero without a sign -/
inductive RawDecimal where
  | nan
  | infinity (isNegative : Bool)
  | finite (value : ℚ)
deriving DecidableEq

namespace RawDecimal

/-- `comparedTo`; `none` for `NaN` -/
def comparedTo : RawDecimal → RawDecimal → Option Ordering
  | finite p, finite q => some (compare p q)
  | infinity a, infinity b => some (compare b a)
  | infinity a, finite _ => some (if a then .lt else .gt)
  | finite _, infinity b => some (if b then .gt else .lt)
  | _, _ => none

def gt (x y : RawDecimal) : Bool := x.comparedTo y = some .gt

def eq (x y : RawDecimal) : Bool := x.comparedTo y = some .eq

@[simp] theorem gt_finite {p q : ℚ} : gt (finite p) (finite q) = true ↔ q < p := by
  simp [gt, comparedTo, compare_gt_iff_gt]

@[simp] theorem eq_finite {p q : ℚ} : eq (finite p) (finite q) = true ↔ p = q := by
  simp [eq, comparedTo]

end RawDecimal

/-- which non-finite value a text denotes: `none` for `NaN`, the sign for an infinity -/
class Host.NonFinites (H : Host) where
  infinitySign : String → Option Bool

/-- `new Decimal(text)`; `none` where it throws -/
def rawDecimal [H : Host] [H.NonFinites] (s : String) : Option RawDecimal :=
  match Host.decimal s with
  | .invalid => none
  | .nonFinite => some ((Host.NonFinites.infinitySign H s).elim .nan .infinity)
  | .finite d => some (.finite d.value)

theorem rawDecimal_finite [H : Host] [H.NonFinites] {s : String} {q : ℚ} (h : Host.valueOf s = some q) :
    rawDecimal s = some (.finite q) := by
  unfold Host.valueOf at h
  unfold rawDecimal
  split at h
  · rename_i d hd
    rw [hd]
    exact congrArg _ (congrArg _ (Option.some.inj h))
  · cases h

end SeeMirai
