/-
Hosts that read and print decimal fractions. What a text denotes has finitely many places, every number with finitely
many places is printed in plain notation, and what is printed is read back. `decimalHost` is such a host, digit by digit;
`plainHost` is not, it prints integers only.

Results:
- `readDecimal_printDecimal`: printing and reading a decimal fraction is a round trip.
- `decimalHost_decimals`: the host made of the two keeps the laws.
- `Host.toFixed_injective`: decimals that print alike are equal.
-/
import SeeMirai.Lib.DecimalPlaces
import SeeMirai.Lib.JsArithmetic

namespace SeeMirai

/-- the characters of plain notation -/
def isPlainChar (c : Char) : Bool := c.isDigit || c = '-' || c = '.'

/-- what decimal.js rounds to has finitely many places -/
theorem decimalRound_isDecimal (x : ℚ) : IsDecimalFraction (decimalRound x) := by
  unfold decimalRound roundSignificant digitScale
  obtain ⟨k, hk | hk⟩ := Int.eq_nat_or_neg ((20 : ℕ) - 1 - Int.log 10 |x|)
  · rw [hk, zpow_natCast]
    exact ⟨k, _, rfl⟩
  · rw [hk, zpow_neg, zpow_natCast, div_inv_eq_mul]
    exact (IsDecimalFraction.intCast _).mul (by exact_mod_cast IsDecimalFraction.natCast (10 ^ k))

namespace Host

/-- texts denote decimal fractions; each is printed in plain notation and read back -/
class Decimals (H : Host) : Prop where
  isDecimal : ∀ {s : String} {q : ℚ}, valueOf s = some q → IsDecimalFraction q
  read_toFixed : ∀ {q : ℚ}, IsDecimalFraction q → valueOf (toFixed q) = some q
  toFixed_nonempty : ∀ {q : ℚ}, IsDecimalFraction q → toFixed q ≠ ""
  toFixed_plain : ∀ {q : ℚ}, IsDecimalFraction q → ∀ c ∈ (toFixed q).toList, isPlainChar c

/-- a number that is not negative is printed without a sign -/
class PrintsUnsigned (H : Host) : Prop where
  decimal_toFixed : ∀ {q : ℚ}, IsDecimalFraction q → 0 ≤ q →
    ∃ d : Dec, H.decimal (H.toFixed q) = .finite d ∧ d.isNegative = false

theorem toFixed_injective [H : Host] [H.Decimals] {a b : ℚ} (ha : IsDecimalFraction a) (hb : IsDecimalFraction b)
    (h : toFixed a = toFixed b) : a = b := by
  have hread := Decimals.read_toFixed (H := H) ha
  rw [h, Decimals.read_toFixed hb] at hread
  exact (Option.some.inj hread).symm

end Host

theorem isPlainChar_isDigit {c : Char} (h : c.isDigit) : isPlainChar c := by simp [isPlainChar, h]

theorem isWhiteSpace_of_isPlainChar {c : Char} (h : isPlainChar c) : isWhiteSpace c = false := by
  have hnone : ∀ w ∈ whiteSpace, isPlainChar w = false := by simp [whiteSpace, isPlainChar, Char.isDigit]
  rw [Bool.eq_false_iff]
  intro hspace
  rw [hnone c (by simpa [isWhiteSpace] using hspace)] at h
  cases h

/-! ## Printing -/

/-- the digits behind the point, until nothing is left; `fuel` bounds their number -/
def printFraction : ℕ → ℚ → List Char
  | 0, _ => []
  | fuel + 1, f => if f = 0 then [] else Nat.digitChar ⌊f * 10⌋.toNat :: printFraction fuel (f * 10 - ⌊f * 10⌋)

/-- what stands behind the units -/
def printPlaces (q : ℚ) : List Char :=
  if |q| - ⌊|q|⌋ = 0 then [] else '.' :: printFraction q.den (|q| - ⌊|q|⌋)

/-- plain notation, without trailing zeros -/
def printDecimal (q : ℚ) : String :=
  String.ofList ((if q < 0 then ['-'] else []) ++ (Nat.toDigits 10 ⌊|q|⌋.toNat ++ printPlaces q))

/-! ## Reading -/

/-- digits, and more digits behind a point -/
def readUnsigned (cs : List Char) : Option ℚ :=
  match cs.dropWhile (fun c => c.isDigit) with
  | [] => (readDigits cs).map fun n : ℕ => (n : ℚ)
  | '.' :: places =>
    (readDigits (cs.takeWhile fun c => c.isDigit)).bind fun n : ℕ =>
      (readDigits places).map fun m : ℕ => (n : ℚ) + (m : ℚ) / 10 ^ places.length
  | _ => none

theorem readUnsigned_nonneg {cs : List Char} {q : ℚ} (h : readUnsigned cs = some q) : 0 ≤ q ∧ IsDecimalFraction q := by
  unfold readUnsigned at h
  split at h
  · obtain ⟨n, -, rfl⟩ := Option.map_eq_some_iff.1 h
    exact ⟨Nat.cast_nonneg n, IsDecimalFraction.natCast n⟩
  · rename_i places _
    obtain ⟨n, -, h⟩ := Option.bind_eq_some_iff.1 h
    obtain ⟨m, -, rfl⟩ := Option.map_eq_some_iff.1 h
    exact ⟨by positivity, (IsDecimalFraction.natCast n).add ⟨places.length, m, by push_cast; rfl⟩⟩
  · cases h

/-- a number with its sign -/
def readSigned (isNegative : Bool) (cs : List Char) : DecimalText :=
  match h : readUnsigned cs with
  | some q => .finite ⟨isNegative, if isNegative then -q else q, by
      have hq := (readUnsigned_nonneg h).1
      cases isNegative <;> simpa using hq⟩
  | none => .invalid

/-- an optional minus sign before the digits -/
def readDecimal (s : String) : DecimalText :=
  match s.toList with
  | '-' :: cs => readSigned true cs
  | cs => readSigned false cs

theorem readSigned_some (isNegative : Bool) {cs : List Char} {q : ℚ} (h : readUnsigned cs = some q) :
    ∃ d : Dec, readSigned isNegative cs = .finite d ∧ d.isNegative = isNegative ∧
      d.value = if isNegative then -q else q := by
  unfold readSigned
  split
  · rename_i q' hq'
    rw [h, Option.some.injEq] at hq'
    exact ⟨_, rfl, rfl, by rw [hq']⟩
  · rename_i hnone
    rw [h] at hnone
    cases hnone

theorem readSigned_isDecimal {isNegative : Bool} {cs : List Char} {d : Dec} (h : readSigned isNegative cs = .finite d) :
    IsDecimalFraction d.value := by
  unfold readSigned at h
  split at h
  · rename_i q hq
    cases h
    have hdecimal := (readUnsigned_nonneg hq).2
    cases isNegative
    · exact hdecimal
    · exact hdecimal.neg
  · cases h

/-! ## Round trip -/

section RoundTrip

variable {fuel : ℕ} {f q : ℚ}

/-- the next digit of a fraction and what is left behind it -/
theorem nextDigit (h0 : 0 ≤ f) (h1 : f < 1) :
    ∃ d : ℕ, d < 10 ∧ ⌊f * 10⌋ = d ∧ 0 ≤ f * 10 - ⌊f * 10⌋ ∧ f * 10 - ⌊f * 10⌋ < 1 := by
  have hnonneg : 0 ≤ ⌊f * 10⌋ := Int.floor_nonneg.2 (by linarith)
  have hlt : ⌊f * 10⌋ < 10 := Int.floor_lt.2 (by push_cast; linarith)
  obtain ⟨d, hd⟩ := Int.eq_ofNat_of_zero_le hnonneg
  refine ⟨d, by omega, hd, ?_, ?_⟩
  · linarith [Int.floor_le (f * 10)]
  · linarith [Int.lt_floor_add_one (f * 10)]

theorem printFraction_isDigit (fuel : ℕ) (h0 : 0 ≤ f) (h1 : f < 1) : ∀ c ∈ printFraction fuel f, c.isDigit := by
  induction fuel generalizing f with
  | zero => simp [printFraction]
  | succ fuel ih =>
    obtain ⟨d, hd, hfloor, hrest0, hrest1⟩ := nextDigit h0 h1
    unfold printFraction
    split_ifs with hzero
    · simp
    · intro c hc
      rcases List.mem_cons.1 hc with rfl | hc
      · rw [hfloor, Int.toNat_natCast, Nat.isDigit_digitChar]
        simpa using hd
      · exact ih hrest0 hrest1 c hc

theorem OnGrid.nextFraction (h : OnGrid (fuel + 1) f) : OnGrid fuel (f * 10 - ⌊f * 10⌋) := by
  obtain ⟨n, hn⟩ := h
  refine ⟨n - ⌊f * 10⌋ * 10 ^ fuel, ?_⟩
  rw [eq_div_iff (pow_ten_pos fuel).ne', sub_mul]
  push_cast
  congr 1
  rw [hn, pow_succ]
  field_simp

/-- the digits of a fraction, read behind a number -/
theorem ofDigitChars_printFraction (h0 : 0 ≤ f) (h1 : f < 1) (hgrid : OnGrid fuel f) (n : ℕ) :
    (Nat.ofDigitChars 10 (printFraction fuel f) n : ℚ) = (n + f) * 10 ^ (printFraction fuel f).length := by
  induction fuel generalizing f n with
  | zero =>
    -- a fraction without places is zero
    obtain ⟨m, hm⟩ := hgrid
    rw [pow_zero, div_one] at hm
    have hm0 : m = 0 := by
      have hge : (0 : ℤ) ≤ m := by exact_mod_cast hm ▸ h0
      have hlt : m < 1 := by exact_mod_cast hm ▸ h1
      omega
    simp [printFraction, hm, hm0]
  | succ fuel ih =>
    obtain ⟨d, hd, hfloor, hrest0, hrest1⟩ := nextDigit h0 h1
    unfold printFraction
    split_ifs with hzero
    · simp [hzero]
    · rw [hfloor, Int.toNat_natCast, Nat.ofDigitChars_cons_digitChar_of_lt_ten hd, List.length_cons, pow_succ,
        ← hfloor, ih hrest0 hrest1 hgrid.nextFraction, hfloor]
      push_cast
      ring

theorem printFraction_ne_nil (hzero : f ≠ 0) : printFraction (fuel + 1) f ≠ [] := by
  unfold printFraction
  rw [if_neg hzero]
  exact List.cons_ne_nil _ _

theorem readDigits_ofDigitChars {cs : List Char} (h : ∀ c ∈ cs, c.isDigit) (hne : cs ≠ []) :
    readDigits cs = some (Nat.ofDigitChars 10 cs 0) := by
  cases cs with
  | nil => exact absurd rfl hne
  | cons c cs =>
    rw [readDigits, readDigits_fold h]

theorem toDigits_isDigit (n : ℕ) : ∀ c ∈ Nat.toDigits 10 n, c.isDigit :=
  fun _ hc => Nat.isDigit_of_mem_toDigits (by decide) (by decide) hc

theorem readUnsigned_printed (hq : IsDecimalFraction q) :
    readUnsigned (Nat.toDigits 10 ⌊|q|⌋.toNat ++ printPlaces q) = some |q| := by
  have hfloor0 : 0 ≤ ⌊|q|⌋ := Int.floor_nonneg.2 (abs_nonneg q)
  obtain ⟨n, hn⟩ := Int.eq_ofNat_of_zero_le hfloor0
  have hdigits := toDigits_isDigit n
  have hfract0 : 0 ≤ |q| - ⌊|q|⌋ := by linarith [Int.floor_le |q|]
  have hfract1 : |q| - ⌊|q|⌋ < 1 := by linarith [Int.lt_floor_add_one |q|]
  rw [hn, Int.toNat_natCast]
  unfold printPlaces
  split_ifs with hzero
  · have hint : |q| = n := by
      rw [hn] at hzero
      push_cast at hzero
      linarith
    have hdrop : (Nat.toDigits 10 n).dropWhile (fun c => c.isDigit) = [] := List.dropWhile_eq_nil_iff.2 hdigits
    simp only [readUnsigned, List.append_nil, hdrop, readDigits_toDigits, Option.map_some, hint]
  · obtain ⟨fuel, hfuel⟩ := Nat.exists_eq_succ_of_ne_zero q.den_nz
    have hgrid : OnGrid q.den (|q| - ⌊|q|⌋) := by
      obtain ⟨m, hm⟩ := hq.onGrid_den
      refine ⟨|m| - ⌊|q|⌋ * 10 ^ q.den, ?_⟩
      rw [eq_div_iff (pow_ten_pos _).ne', sub_mul]
      push_cast
      congr 1
      have habs : |q| * 10 ^ q.den = |q * 10 ^ q.den| := by rw [abs_mul, abs_of_pos (pow_ten_pos q.den)]
      rw [habs, (eq_div_iff (pow_ten_pos q.den).ne').1 hm]
    have hne : printFraction q.den (|q| - ⌊|q|⌋) ≠ [] := by
      rw [hfuel]
      exact printFraction_ne_nil hzero
    have hread := readDigits_ofDigitChars (printFraction_isDigit q.den hfract0 hfract1) hne
    have hvalue := ofDigitChars_printFraction hfract0 hfract1 hgrid 0
    have hdrop : (Nat.toDigits 10 n ++ '.' :: printFraction q.den (|q| - ⌊|q|⌋)).dropWhile (fun c => c.isDigit)
        = '.' :: printFraction q.den (|q| - ⌊|q|⌋) := by
      rw [List.dropWhile_append_of_pos hdigits]
      rfl
    have htake : (Nat.toDigits 10 n ++ '.' :: printFraction q.den (|q| - ⌊|q|⌋)).takeWhile (fun c => c.isDigit)
        = Nat.toDigits 10 n := by
      rw [List.takeWhile_append_of_pos hdigits]
      simp
    simp only [readUnsigned, hdrop, htake, readDigits_toDigits, hread, Option.bind_some, Option.map_some]
    rw [hvalue, mul_div_assoc, div_self (pow_ten_pos _).ne', mul_one, hn]
    push_cast
    ring_nf

/-- **Round trip.** A printed decimal fraction is read back, with its sign. -/
theorem readDecimal_printDecimal (hq : IsDecimalFraction q) :
    ∃ d : Dec, readDecimal (printDecimal q) = .finite d ∧ d.isNegative = decide (q < 0) ∧ d.value = q := by
  have hread := readUnsigned_printed hq
  unfold readDecimal printDecimal
  rw [String.toList_ofList]
  by_cases hneg : q < 0
  · rw [if_pos hneg, List.singleton_append]
    obtain ⟨d, hd, hsign, hvalue⟩ := readSigned_some true hread
    exact ⟨d, hd, by simp [hsign, hneg], by rw [hvalue, if_pos rfl, abs_of_neg hneg, neg_neg]⟩
  · rw [if_neg hneg, List.nil_append]
    obtain ⟨c, cs, hcs⟩ := List.exists_cons_of_ne_nil (Nat.toDigits_ne_nil (b := 10) (n := ⌊|q|⌋.toNat))
    have hdigit : c.isDigit := toDigits_isDigit _ c (hcs ▸ List.mem_cons_self)
    have hminus : c ≠ '-' := by
      rintro rfl
      exact absurd hdigit (by decide)
    obtain ⟨d, hd, hsign, hvalue⟩ := readSigned_some false hread
    refine ⟨d, ?_, by simp [hsign, hneg], by rw [hvalue, if_neg Bool.false_ne_true, abs_of_nonneg (not_lt.1 hneg)]⟩
    split
    · rename_i cs' heq
      rw [hcs, List.cons_append] at heq
      exact absurd (List.cons.inj heq).1 hminus
    · exact hd

theorem printDecimal_nonempty : printDecimal q ≠ "" := by
  intro h
  have hlist := congrArg String.toList h
  rw [printDecimal, String.toList_ofList] at hlist
  have hnil := (List.append_eq_nil_iff.1 (List.append_eq_nil_iff.1 hlist).2).1
  exact Nat.toDigits_ne_nil hnil

theorem printDecimal_plain : ∀ c ∈ (printDecimal q).toList, isPlainChar c := by
  have hfract0 : 0 ≤ |q| - ⌊|q|⌋ := by linarith [Int.floor_le |q|]
  have hfract1 : |q| - ⌊|q|⌋ < 1 := by linarith [Int.lt_floor_add_one |q|]
  intro c hc
  rw [printDecimal, String.toList_ofList] at hc
  rcases List.mem_append.1 hc with hc | hc
  · split_ifs at hc with hneg
    · rw [List.mem_singleton.1 hc]
      rfl
    · cases hc
  · rcases List.mem_append.1 hc with hc | hc
    · exact isPlainChar_isDigit (toDigits_isDigit _ c hc)
    · unfold printPlaces at hc
      split_ifs at hc with hzero
      · cases hc
      · rcases List.mem_cons.1 hc with rfl | hc
        · rfl
        · exact isPlainChar_isDigit (printFraction_isDigit q.den hfract0 hfract1 c hc)

end RoundTrip

/-! ## The host -/

theorem asciiLower_plain (s : String) (h : ∀ c ∈ s.toList, c.isLower ∨ c = '_') : asciiMap Char.toLower s = s :=
  asciiMap_fixed fun c hc => toLower_plain (h c hc)

/-- decimal fractions, code-point collation, ASCII case -/
@[reducible] def decimalHost : Host where
  decimal := readDecimal
  decimal_zero := ⟨⟨false, 0, by simp⟩, by decide +kernel, rfl, rfl⟩
  toFixed := printDecimal
  toText := printDecimal
  localeCompare := compare
  toUpperCase := asciiMap Char.toUpper
  toLowerCase := asciiMap Char.toLower
  toLowerCase_plain := asciiLower_plain

instance decimalHost_decimals : Host.Decimals decimalHost where
  isDecimal {s q} h := by
    unfold Host.valueOf at h
    change (match readDecimal s with | .finite d => some d.value | _ => none) = some q at h
    unfold readDecimal at h
    split at h
    · rename_i d hd
      cases h
      split at hd
      · exact readSigned_isDecimal hd
      · exact readSigned_isDecimal hd
    · cases h
  read_toFixed {q} hq := by
    obtain ⟨d, hd, -, hvalue⟩ := readDecimal_printDecimal hq
    change (match readDecimal (printDecimal q) with | .finite d => some d.value | _ => none) = some q
    rw [hd]
    exact congrArg some hvalue
  toFixed_nonempty _ := printDecimal_nonempty
  toFixed_plain _ := printDecimal_plain

instance decimalHost_printsUnsigned : Host.PrintsUnsigned decimalHost where
  decimal_toFixed {q} hq hnonneg := by
    obtain ⟨d, hd, hsign, -⟩ := readDecimal_printDecimal hq
    exact ⟨d, hd, by simp [hsign, hnonneg]⟩

instance decimalHost_prints : Host.Prints decimalHost where
  read_toFixed h := Host.Decimals.read_toFixed (Host.Decimals.isDecimal h)
  one := by decide +kernel

instance decimalHost_rejectsEmpty : Host.RejectsEmpty decimalHost := ⟨by decide +kernel⟩

example : printDecimal (-25 / 8) = "-3.125" := by decide +kernel

end SeeMirai
