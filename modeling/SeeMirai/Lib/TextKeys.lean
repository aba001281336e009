/-
Texts as keys. A key that is joined from parts with a separator can be read back only where no part carries the separator,
and a key that is a short hash of a text only where no other text has the same hash.

The separators are of the kind `:name:`, a mark on both sides of a word without it: two occurrences overlap in one mark at
most. The hash is the rolling one, 31 times the hash so far plus the next code unit, wrapped to a signed 32-bit integer,
and printed without its sign in padded hexadecimal digits.

Results:
- `separated_inj`: the two ways in which two joins are the same text.
- `roll_eq`: the rolling hash is the wrapped value of a polynomial.
- `hexText_inj`: the printed digits say the number.
- `printedHash_eq_iff`: two texts print the same hash exactly where their polynomials agree up to the sign.
-/
import Mathlib.Data.Int.ModEq
import Mathlib.Data.List.Induction
import Mathlib.Tactic.IntervalCases
import Mathlib.Tactic.Ring
import Mathlib.Tactic.Linarith

namespace SeeMirai.TextKeys

/-! ## Separators -/

section Separators

variable {α : Type*} {mark : α} {word : List α}

/-- `mark`, the word, `mark` -/
def separator (mark : α) (word : List α) : List α := mark :: (word ++ [mark])

/-- the first join reads the separator earlier: what it has behind it still carries the separator of the second -/
def Shifted (mark : α) (word left right left' right' : List α) : Prop :=
  ∃ between, left' ++ [mark] = left ++ separator mark word ++ between ∧ right = between ++ word ++ mark :: right'

theorem word_mark_eq (hword : mark ∉ word) {left right rest : List α} (h : left ++ mark :: right = word ++ mark :: rest) :
    ∃ between, left ++ [mark] = word ++ [mark] ++ between ∧ rest = between ++ right := by
  rcases List.append_eq_append_iff.1 h with ⟨common, hcommon, hrest⟩ | ⟨common, hcommon, hrest⟩
  · cases common with
    | nil =>
      rw [List.nil_append, List.cons.injEq] at hrest
      rw [List.append_nil] at hcommon
      exact ⟨[], by simp [hcommon], by simp [hrest.2]⟩
    | cons c cs =>
      -- the word would carry the mark
      have hc : c = mark := by
        have := congrArg List.head? hrest
        simpa using this.symm
      rw [hcommon, hc] at hword
      simp at hword
  · cases common with
    | nil =>
      rw [List.nil_append, List.cons.injEq] at hrest
      rw [List.append_nil] at hcommon
      exact ⟨[], by simp [hcommon], by simp [hrest.2]⟩
    | cons c cs =>
      rw [List.cons_append, List.cons.injEq] at hrest
      obtain ⟨rfl, hrest⟩ := hrest
      exact ⟨cs ++ [mark], by simp [hcommon], by simp [hrest]⟩

theorem shifted_of_append (hword : mark ∉ word) {left right right' shift : List α} (hshift : shift ≠ [])
    (h : separator mark word ++ right = shift ++ separator mark word ++ right') :
    Shifted mark word left right (left ++ shift) right' := by
  cases shift with
  | nil => exact absurd rfl hshift
  | cons c cs =>
    simp only [separator, List.cons_append, List.cons.injEq, List.append_assoc, List.nil_append] at h
    obtain ⟨rfl, h⟩ := h
    obtain ⟨between, hbetween, hright⟩ := word_mark_eq hword h.symm
    refine ⟨between, ?_, by simpa using hright⟩
    simpa [separator] using hbetween

/-- **Two joins are one text** exactly where their parts are the same, or one carries the separator inside a part. -/
theorem separated_inj (hword : mark ∉ word) {left right left' right' : List α} :
    left ++ separator mark word ++ right = left' ++ separator mark word ++ right' ↔
      (left = left' ∧ right = right') ∨ Shifted mark word left right left' right' ∨
        Shifted mark word left' right' left right := by
  constructor
  · intro h
    rw [List.append_assoc, List.append_assoc] at h
    rcases List.append_eq_append_iff.1 h with ⟨shift, rfl, hrest⟩ | ⟨shift, rfl, hrest⟩
    · by_cases hshift : shift = []
      · subst hshift
        rw [List.nil_append] at hrest
        exact Or.inl ⟨(List.append_nil _).symm, List.append_cancel_left hrest⟩
      · exact Or.inr (Or.inl (shifted_of_append hword hshift (by simpa using hrest)))
    · by_cases hshift : shift = []
      · subst hshift
        rw [List.nil_append] at hrest
        exact Or.inl ⟨List.append_nil _, (List.append_cancel_left hrest).symm⟩
      · exact Or.inr (Or.inr (shifted_of_append hword hshift (by simpa using hrest)))
  · have hjoin : ∀ {left right left' right' : List α}, Shifted mark word left right left' right' →
        left ++ separator mark word ++ right = left' ++ separator mark word ++ right' := by
      rintro left right left' right' ⟨between, hleft, rfl⟩
      calc left ++ separator mark word ++ (between ++ word ++ mark :: right')
          = (left ++ separator mark word ++ between) ++ (word ++ mark :: right') := by simp
        _ = (left' ++ [mark]) ++ (word ++ mark :: right') := by rw [hleft]
        _ = left' ++ separator mark word ++ right' := by simp [separator]
    rintro (⟨rfl, rfl⟩ | h | h)
    · rfl
    · exact hjoin h
    · exact (hjoin h).symm

end Separators

/-! ## The rolling hash -/

/-- `x | 0` -/
def toInt32 (x : ℤ) : ℤ := Int.bmod x (2 ^ 32)

/-- one round: `((hash << 5) - hash + unit) | 0` -/
def roll (hash : ℤ) (unit : ℕ) : ℤ := toInt32 (toInt32 (hash * 2 ^ 5) - hash + unit)

/-- the code units as the digits of a number to the base 31 -/
def polynomial (units : List ℕ) : ℤ := units.foldl (fun (value : ℤ) (unit : ℕ) => 31 * value + unit) 0

theorem toInt32_modEq (x : ℤ) : toInt32 x ≡ x [ZMOD 2 ^ 32] := Int.bmod_emod

theorem toInt32_congr {x y : ℤ} (h : x ≡ y [ZMOD 2 ^ 32]) : toInt32 x = toInt32 y := by
  have hmod : x % ((2 ^ 32 : ℕ) : ℤ) = y % ((2 ^ 32 : ℕ) : ℤ) := h
  unfold toInt32
  rw [← Int.emod_bmod, hmod, Int.emod_bmod]

theorem roll_toInt32 (value : ℤ) (unit : ℕ) : roll (toInt32 value) unit = toInt32 (31 * value + unit) := by
  apply toInt32_congr
  have hvalue := toInt32_modEq value
  have hshift := (toInt32_modEq (toInt32 value * 2 ^ 5)).trans (hvalue.mul_right (2 ^ 5))
  calc toInt32 (toInt32 value * 2 ^ 5) - toInt32 value + unit
      ≡ value * 2 ^ 5 - value + unit [ZMOD 2 ^ 32] := (hshift.sub hvalue).add_right _
    _ = 31 * value + unit := by ring

/-- the rolling hash is the wrapped value of the polynomial -/
theorem roll_eq (units : List ℕ) : units.foldl roll 0 = toInt32 (polynomial units) := by
  induction units using List.reverseRecOn with
  | nil => simp [polynomial, toInt32]
  | append_singleton units unit ih =>
    rw [List.foldl_append, ih]
    simp only [polynomial, List.foldl_append, List.foldl_cons, List.foldl_nil]
    exact roll_toInt32 _ _

theorem toInt32_bounds (x : ℤ) : -2147483648 ≤ toInt32 x ∧ toInt32 x < 2147483648 := by
  have hle := Int.le_bmod (x := x) (m := 2 ^ 32) (by norm_num)
  have hlt := Int.bmod_lt (x := x) (m := 2 ^ 32) (by norm_num)
  norm_num at hle hlt
  exact ⟨hle, hlt⟩

theorem natAbs_toInt32_eq_iff {x y : ℤ} :
    (toInt32 x).natAbs = (toInt32 y).natAbs ↔ x ≡ y [ZMOD 2 ^ 32] ∨ x ≡ -y [ZMOD 2 ^ 32] := by
  have hx := toInt32_bounds x
  have hy := toInt32_bounds y
  have hxmod : toInt32 x % 4294967296 = x % 4294967296 := toInt32_modEq x
  have hymod : toInt32 y % 4294967296 = y % 4294967296 := toInt32_modEq y
  have hgoal : (toInt32 x).natAbs = (toInt32 y).natAbs ↔
      x % 4294967296 = y % 4294967296 ∨ x % 4294967296 = -y % 4294967296 := by omega
  exact hgoal

/-! ## Padded hexadecimal digits -/

/-- `number.toString(16).padStart(8, "0")` -/
def hexText (n : ℕ) : List Char :=
  List.replicate (8 - (Nat.toDigits 16 n).length) '0' ++ Nat.toDigits 16 n

/-- the value of a hexadecimal digit -/
def digitValue (c : Char) : ℕ := if c.isDigit then c.toNat - '0'.toNat else c.toNat - 'a'.toNat + 10

def readHex (digits : List Char) : ℕ := digits.foldl (fun value digit => 16 * value + digitValue digit) 0

theorem digitValue_digitChar {d : ℕ} (h : d < 16) : digitValue d.digitChar = d := by
  interval_cases d <;> decide

theorem readHex_toDigits (n : ℕ) : readHex (Nat.toDigits 16 n) = n := by
  induction n using Nat.strongRecOn with
  | ind n ih =>
    rcases Nat.lt_or_ge n 16 with hlt | hge
    · rw [Nat.toDigits_of_lt_base hlt]
      simp [readHex, digitValue_digitChar hlt]
    · rw [Nat.toDigits_of_base_le (by norm_num) hge, readHex, List.foldl_append]
      have hquot : (Nat.toDigits 16 (n / 16)).foldl (fun value digit => 16 * value + digitValue digit) 0 = n / 16 :=
        ih _ (Nat.div_lt_self (by omega) (by norm_num))
      rw [hquot, List.foldl_cons, List.foldl_nil, digitValue_digitChar (Nat.mod_lt _ (by norm_num))]
      omega

theorem readHex_hexText (n : ℕ) : readHex (hexText n) = n := by
  have hzeros : ∀ k, (List.replicate k '0').foldl (fun value digit => 16 * value + digitValue digit) 0 = 0 := by
    intro k
    induction k with
    | zero => rfl
    | succ k ih => simpa [List.replicate_succ, digitValue] using ih
  rw [hexText, readHex, List.foldl_append, hzeros]
  exact readHex_toDigits n

theorem hexText_inj {m n : ℕ} : hexText m = hexText n ↔ m = n := by
  constructor
  · intro h
    rw [← readHex_hexText m, h, readHex_hexText]
  · rintro rfl
    rfl

/-- the digits that a text's hash is printed with, its sign left out -/
def printedHash (units : List ℕ) : List Char := hexText (units.foldl roll 0).natAbs

/-- **Two texts print the same hash** exactly where their polynomials are the same up to the sign, modulo `2 ^ 32`. -/
theorem printedHash_eq_iff {units units' : List ℕ} : printedHash units = printedHash units' ↔
    polynomial units ≡ polynomial units' [ZMOD 2 ^ 32] ∨ polynomial units ≡ -polynomial units' [ZMOD 2 ^ 32] := by
  rw [printedHash, printedHash, hexText_inj, roll_eq, roll_eq, natAbs_toInt32_eq_iff]

end SeeMirai.TextKeys
