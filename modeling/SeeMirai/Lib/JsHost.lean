/-
What a JavaScript program takes from its host without defining it: decimal.js numbers, locale collation and the Unicode
case tables. `Host` is the parameter through which every model below reads them, so a result proved for
an arbitrary host holds for the real one. Arithmetic on decimals is exact: a finite decimal.js value is a rational
number together with its sign bit, which decimal.js keeps on a zero.

- `DecimalText`: what `new Decimal(text)` does with a text (throws, non-finite, finite).
- `Host.Lawful`: the two facts about collation and printing that order-independence arguments need. `localeCompare`
  orders totally and separates distinct texts, and `toFixed` prints different values differently.
- `Host.Prints`: what a decimal is printed as is read back as the same value.
- `TimestampInput`: a `Date` object or a text, as far as a program can tell two of them apart.
- `plainHost`: integers, code-point collation and ASCII case, the host on which the witnesses below are evaluated.
-/
import Mathlib

namespace SeeMirai

/-! ## Decimals -/

/-- a finite decimal.js value: `isNegative()` reads the sign bit, not the value -/
structure Dec where
  isNegative : Bool
  value : ℚ
  sign : if isNegative then value ≤ 0 else 0 ≤ value
deriving DecidableEq

namespace Dec

theorem value_nonneg {d : Dec} (h : d.isNegative = false) : 0 ≤ d.value := by
  have := d.sign
  simpa [h] using this

end Dec

/-- what the decimal.js constructor makes of a text -/
inductive DecimalText where
  | invalid
  | nonFinite
  | finite (d : Dec)
deriving DecidableEq

/-- a `Date` or a timestamp text, read through `getTime()` and through truthiness only; an invalid date is an object
and truthy, the empty text is neither valid nor truthy -/
inductive TimestampInput where
  | at (ms : Int)
  | invalid
  | empty
deriving DecidableEq, Repr

namespace TimestampInput

def truthy : TimestampInput → Bool
  | empty => false
  | _ => true

/-- `getTime()`; `none` for `NaN` -/
def millis : TimestampInput → Option Int
  | .at ms => some ms
  | _ => none

end TimestampInput

/-! ## Texts -/

/-- ECMAScript white space and line terminators -/
def whiteSpace : List Char :=
  ['\t', '\n', '\x0b', '\x0c', '\r', ' ', '\u00a0', '\u1680', '\u2000', '\u2001', '\u2002', '\u2003', '\u2004',
    '\u2005', '\u2006', '\u2007', '\u2008', '\u2009', '\u200a', '\u2028', '\u2029', '\u202f', '\u205f', '\u3000', '\ufeff']

def isWhiteSpace (c : Char) : Bool := c ∈ whiteSpace

/-- `String.prototype.trim` -/
def trim (s : String) : String :=
  String.ofList (((s.toList.dropWhile isWhiteSpace).reverse.dropWhile isWhiteSpace).reverse)

/-- nothing to trim -/
theorem trim_solid {s : String} (h : ∀ c ∈ s.toList, isWhiteSpace c = false) : trim s = s := by
  have hdrop : ∀ cs : List Char, (∀ c ∈ cs, isWhiteSpace c = false) → cs.dropWhile isWhiteSpace = cs := by
    intro cs hcs
    cases cs with
    | nil => rfl
    | cons c cs => rw [List.dropWhile_cons, hcs c (by simp)]; rfl
  unfold trim
  rw [hdrop _ h, hdrop _ (fun c hc => h c (List.mem_reverse.1 hc)), List.reverse_reverse, String.ofList_toList]

theorem isWhiteSpace_of_isLower {c : Char} (h : c.isLower = true) : isWhiteSpace c = false := by
  have hnone : ∀ w ∈ whiteSpace, w.isLower = false := by simp [whiteSpace, Char.isLower]
  rw [Bool.eq_false_iff]
  intro hspace
  rw [hnone c (by simpa [isWhiteSpace] using hspace)] at h
  cases h

/-! ## Dates -/

/-- the civil date of a day counted from 1970-01-01: year, month, day -/
def civilDate (day : Int) : Int × ℕ × ℕ :=
  let shifted := day + 719468
  let era := shifted / 146097
  let dayOfEra := (shifted % 146097).toNat
  let yearOfEra := (dayOfEra - dayOfEra / 1460 + dayOfEra / 36524 - dayOfEra / 146096) / 365
  let dayOfYear := dayOfEra - (365 * yearOfEra + yearOfEra / 4 - yearOfEra / 100)
  let march := (5 * dayOfYear + 2) / 153
  let month := if march < 10 then march + 3 else march - 9
  let year := (yearOfEra : Int) + era * 400
  (if month ≤ 2 then year + 1 else year, month, dayOfYear - (153 * march + 2) / 5 + 1)

def padZeros (width : ℕ) (n : ℕ) : String :=
  let digits := toString n
  String.ofList (List.replicate (width - digits.length) '0') ++ digits

/-- `Date.prototype.toISOString` of a valid time; years outside 0 to 9999 carry a sign and six digits -/
def toISOString (ms : Int) : String :=
  let (year, month, day) := civilDate (ms / 86400000)
  let rest := (ms % 86400000).toNat
  let yearText :=
    if 0 ≤ year ∧ year ≤ 9999 then padZeros 4 year.toNat
    else (if year < 0 then "-" else "+") ++ padZeros 6 year.natAbs
  yearText ++ "-" ++ padZeros 2 month ++ "-" ++ padZeros 2 day ++ "T" ++ padZeros 2 (rest / 3600000) ++ ":"
    ++ padZeros 2 (rest / 60000 % 60) ++ ":" ++ padZeros 2 (rest / 1000 % 60) ++ "." ++ padZeros 3 (rest % 1000) ++ "Z"

example : toISOString 1779184800123 = "2026-05-19T10:00:00.123Z" := by decide +kernel

/-! ## The host -/

class Host where
  /-- `new Decimal(text)` -/
  decimal : String → DecimalText
  decimal_zero : ∃ d : Dec, decimal "0" = .finite d ∧ d.isNegative = false ∧ d.value = 0
  /-- `toFixed()` without argument: plain notation, all digits -/
  toFixed : ℚ → String
  /-- `toString()` of a decimal: exponent notation where the number is very large or small -/
  toText : ℚ → String
  /-- `left.localeCompare(right)`: `lt` for a negative answer, `gt` for a positive one -/
  localeCompare : String → String → Ordering
  toUpperCase : String → String
  toLowerCase : String → String
  /-- a text of lower-case ASCII letters and underscores is its own lower case -/
  toLowerCase_plain : ∀ s : String, (∀ c ∈ s.toList, c.isLower ∨ c = '_') → toLowerCase s = s

namespace Host

/-- the value a text denotes, when it denotes a finite one -/
def valueOf [Host] (s : String) : Option ℚ :=
  match decimal s with
  | .finite d => some d.value
  | _ => none

@[simp] theorem valueOf_zero [Host] : valueOf "0" = some 0 := by
  obtain ⟨d, hd, -, hv⟩ := decimal_zero
  simp only [valueOf, hd, hv]

/-- collation is a total order that separates texts, and printing separates the values texts denote -/
class Lawful (H : Host) : Prop where
  trans : Std.TransCmp H.localeCompare
  eq : Std.LawfulEqCmp H.localeCompare
  toFixed_inj : ∀ {s t : String} {a b : ℚ}, valueOf s = some a → valueOf t = some b → toFixed a = toFixed b → a = b

/-- a printed decimal is read back as it was, and the text of one is one -/
class Prints (H : Host) : Prop where
  read_toFixed : ∀ {s : String} {a : ℚ}, valueOf s = some a → valueOf (toFixed a) = some a
  one : valueOf "1" = some 1

theorem toFixed_inj [H : Host] [H.Prints] {s t : String} {a b : ℚ} (hs : valueOf s = some a) (ht : valueOf t = some b)
    (h : toFixed a = toFixed b) : a = b := by
  have ha : valueOf (toFixed a) = some a := Prints.read_toFixed hs
  rw [h, Prints.read_toFixed ht] at ha
  exact (Option.some.inj ha).symm

end Host

/-! ## A host to evaluate on -/

/-- digits read in base ten; `none` on any other character or on the empty text -/
def readDigits : List Char → Option ℕ
  | [] => none
  | c :: cs => (c :: cs).foldl (fun acc d => acc.bind fun n => if d.isDigit then some (10 * n + (d.toNat - 48)) else none)
      (some 0)

/-- an integer text, with an optional minus sign -/
def readInteger (s : String) : DecimalText :=
  match s.toList with
  | '-' :: cs =>
    match readDigits cs with
    | some n => .finite ⟨true, -(n : ℚ), by simp⟩
    | none => .invalid
  | cs =>
    match readDigits cs with
    | some n => .finite ⟨false, (n : ℚ), by simp⟩
    | none => .invalid

def asciiMap (f : Char → Char) (s : String) : String := String.ofList (s.toList.map f)

theorem asciiMap_fixed {f : Char → Char} {s : String} (h : ∀ c ∈ s.toList, f c = c) : asciiMap f s = s := by
  unfold asciiMap
  rw [List.map_congr_left h, List.map_id', String.ofList_toList]

theorem toLower_plain {c : Char} (h : c.isLower ∨ c = '_') : c.toLower = c := by
  unfold Char.toLower
  refine dif_neg fun hupper => ?_
  rcases h with hlower | rfl
  · have hle : 'a'.val ≤ 'Z'.val := by
      simp only [Char.isLower, Bool.and_eq_true, decide_eq_true_eq] at hlower
      exact UInt32.le_trans hlower.1 hupper.2
    exact absurd hle (by decide)
  · exact absurd hupper.2 (by decide)

/-- integer decimals, code-point collation, ASCII case -/
instance plainHost : Host where
  decimal := readInteger
  decimal_zero := ⟨⟨false, 0, by simp⟩, by decide +kernel, rfl, rfl⟩
  toFixed q := Int.repr q.num
  toText q := Int.repr q.num
  localeCompare := compare
  toUpperCase := asciiMap Char.toUpper
  toLowerCase := asciiMap Char.toLower
  toLowerCase_plain _ h := asciiMap_fixed fun c hc => toLower_plain (h c hc)

theorem readInteger_isInt {s : String} {a : ℚ} (h : Host.valueOf s = some a) : (a.num : ℚ) = a := by
  unfold Host.valueOf at h
  change (match readInteger s with | .finite d => some d.value | _ => none) = some a at h
  unfold readInteger at h
  split at h
  · rename_i d hd
    split at hd <;> split at hd <;> cases hd
    all_goals simp only [Option.some.injEq] at h; subst h; simp
  · cases h

/-- the plain host keeps the laws: code-point order is total, and an integer is read back from its print -/
instance plainHost_lawful : Host.Lawful plainHost where
  trans := inferInstanceAs (Std.TransCmp (compare : String → String → Ordering))
  eq := inferInstanceAs (Std.LawfulEqCmp (compare : String → String → Ordering))
  toFixed_inj := by
    intro s t a b ha hb h
    have hnum : a.num = b.num := Int.repr_injective h
    rw [← readInteger_isInt ha, ← readInteger_isInt hb, hnum]

example : Host.valueOf "-12" = some (-12) := by decide +kernel

theorem readDigits_fold {cs : List Char} (h : ∀ c ∈ cs, c.isDigit) (n : ℕ) :
    cs.foldl (fun acc d => acc.bind fun n => if d.isDigit then some (10 * n + (d.toNat - 48)) else none) (some n)
      = some (Nat.ofDigitChars 10 cs n) := by
  induction cs generalizing n with
  | nil => rfl
  | cons c cs ih =>
    have hc : c.isDigit = true := h c (by simp)
    rw [List.foldl_cons, Option.bind_some, if_pos hc, ih (fun d hd => h d (by simp [hd])), Nat.ofDigitChars_cons]
    rfl

theorem readDigits_toDigits (n : ℕ) : readDigits (Nat.toDigits 10 n) = some n := by
  have hdigits : ∀ c ∈ Nat.toDigits 10 n, c.isDigit := fun c hc => Nat.isDigit_of_mem_toDigits (by decide) (by decide) hc
  cases hcs : Nat.toDigits 10 n with
  | nil => exact absurd hcs Nat.toDigits_ne_nil
  | cons c cs =>
    rw [readDigits, readDigits_fold (hcs ▸ hdigits), ← hcs, Nat.ofDigitChars_ten_toDigits]

theorem readInteger_repr (n : ℤ) : Host.valueOf (Int.repr n) = some (n : ℚ) := by
  change (match readInteger (Int.repr n) with | .finite d => some d.value | _ => none) = _
  unfold readInteger
  cases n with
  | ofNat n =>
    have hlist : (Int.ofNat n).repr.toList = Nat.toDigits 10 n := Nat.toList_repr
    have hhead : ∀ cs, Nat.toDigits 10 n ≠ '-' :: cs := by
      intro cs hcs
      have : '-'.isDigit = true :=
        Nat.isDigit_of_mem_toDigits (b := 10) (n := n) (by decide) (by decide) (hcs ▸ List.mem_cons_self)
      exact absurd this (by decide)
    rw [hlist]
    split
    · rename_i d hd
      split at hd
      · rename_i cs hcs; exact absurd hcs (hhead cs)
      · rw [readDigits_toDigits] at hd
        cases hd
        simp
    · rename_i hno
      split at hno
      · rename_i cs hcs; exact absurd hcs (hhead cs)
      · rw [readDigits_toDigits] at hno
        exact absurd rfl (hno _)
  | negSucc n =>
    have hlist : (Int.negSucc n).repr.toList = '-' :: Nat.toDigits 10 (n + 1) := by
      change ("-" ++ Nat.repr (n + 1)).toList = _
      rw [String.toList_append, Nat.toList_repr]
      rfl
    rw [hlist]
    simp only [readDigits_toDigits]
    simp [Int.negSucc_eq]

instance plainHost_prints : Host.Prints plainHost where
  read_toFixed {s a} h := by
    change Host.valueOf (Int.repr a.num) = some a
    rw [readInteger_repr, readInteger_isInt h]
  one := by decide +kernel

end SeeMirai
