/-
The dates of a `Date`: the range of its times, its text, and the calendar date that the text begins with.

Results:
- `isoText_eq_ok`: a time has a text exactly if it is in range.
- `take_toISOString`: between the years 0 and 9999 a text begins with ten characters of date.
- `dateText_injective`: these name one date.
-/
import SeeMirai.Lib.Calendar
import SeeMirai.Shared.Decimal

namespace SeeMirai

/-- a number that is the time of a `Date` -/
def IsDateTime (ms : ℤ) : Prop := -8640000000000000 ≤ ms ∧ ms ≤ 8640000000000000

instance (ms : ℤ) : Decidable (IsDateTime ms) := inferInstanceAs (Decidable (_ ∧ _))

/-- `new Date(ms).toISOString()` -/
def isoText (ms : ℤ) : Except Thrown String :=
  if IsDateTime ms then .ok (toISOString ms) else .error ⟨"RangeError", "Invalid time value"⟩

theorem isoText_eq_ok {ms : ℤ} {text : String} : isoText ms = .ok text ↔ IsDateTime ms ∧ text = toISOString ms := by
  unfold isoText
  split_ifs with h
  · simp [h, eq_comm]
  · simp [h]

/-- `YYYY-MM-DD` -/
def dateText (date : ℤ × ℕ × ℕ) : String :=
  padZeros 4 date.1.toNat ++ "-" ++ padZeros 2 date.2.1 ++ "-" ++ padZeros 2 date.2.2

theorem toList_dateText (date : ℤ × ℕ × ℕ) : (dateText date).toList =
    (padZeros 4 date.1.toNat).toList ++ '-' ::
      ((padZeros 2 date.2.1).toList ++ '-' :: (padZeros 2 date.2.2).toList) := by
  simp [dateText]

/-- a year of at most four digits -/
def FourDigits (year : ℤ) : Prop := 0 ≤ year ∧ year ≤ 9999

theorem isoYear_four {year : ℤ} (h : FourDigits year) : isoYear year = padZeros 4 year.toNat := if_pos h

theorem isoYear_signed {year : ℤ} (h : ¬ FourDigits year) :
    isoYear year = (if year < 0 then "-" else "+") ++ padZeros 6 year.natAbs := if_neg h

theorem length_dateText {date : ℤ × ℕ × ℕ} (hyear : FourDigits date.1) (hmonth : date.2.1 < 10 ^ 2)
    (hday : date.2.2 < 10 ^ 2) : (dateText date).toList.length = 10 := by
  have hfour : date.1.toNat < 10 ^ 4 := by
    have := hyear.2
    omega
  rw [toList_dateText, List.length_append, List.length_cons, List.length_append, List.length_cons,
    length_padZeros (by decide) hfour, length_padZeros two_pos hmonth, length_padZeros two_pos hday]
  rfl

/-- the time of day behind a date -/
def isoTime (rest : ℕ) : String :=
  "T" ++ padZeros 2 (rest / 3600000) ++ ":" ++ padZeros 2 (rest / 60000 % 60) ++ ":" ++ padZeros 2 (rest / 1000 % 60)
    ++ "." ++ padZeros 3 (rest % 1000) ++ "Z"

theorem toISOString_dateText {ms : ℤ} (hyear : FourDigits (civilDate (ms / 86400000)).1) :
    toISOString ms = dateText (civilDate (ms / 86400000)) ++ isoTime (ms % 86400000).toNat := by
  rw [toISOString_eq, isoYear_four hyear, isoRest, dateText, isoTime]
  simp only [String.append_assoc]

theorem take_toISOString {ms : ℤ} (hyear : FourDigits (civilDate (ms / 86400000)).1) :
    (toISOString ms).toList.take 10 = (dateText (civilDate (ms / 86400000))).toList := by
  obtain ⟨hmonth, hday⟩ := civilDate_lt (ms / 86400000)
  rw [toISOString_dateText hyear, String.toList_append]
  exact List.take_left' (length_dateText hyear hmonth hday)

/-- a text whose year has more digits begins with a sign -/
theorem head_toISOString {ms : ℤ} (hyear : ¬ FourDigits (civilDate (ms / 86400000)).1) :
    ∃ sign rest, (toISOString ms).toList = sign :: rest ∧ sign.isDigit = false := by
  rw [toISOString_eq, isoYear_signed hyear]
  by_cases hneg : (civilDate (ms / 86400000)).1 < 0
  · rw [if_pos hneg]
    simp only [String.toList_append]
    exact ⟨'-', _, rfl, rfl⟩
  · rw [if_neg hneg]
    simp only [String.toList_append]
    exact ⟨'+', _, rfl, rfl⟩

theorem dateText_injective {a b : ℤ × ℕ × ℕ} (ha : FourDigits a.1) (hb : FourDigits b.1) (hamonth : a.2.1 < 10 ^ 2)
    (hbmonth : b.2.1 < 10 ^ 2) (haday : a.2.2 < 10 ^ 2) (hbday : b.2.2 < 10 ^ 2) (h : dateText a = dateText b) :
    a = b := by
  have hlist := congrArg String.toList h
  rw [toList_dateText, toList_dateText] at hlist
  obtain ⟨hyear, hrest⟩ := field_inj (show 0 < 4 by decide) (by have := ha.2; omega) (by have := hb.2; omega) hlist
  obtain ⟨hmonth, hrest⟩ := field_inj two_pos hamonth hbmonth hrest
  have hday : a.2.2 = b.2.2 := padZeros_injective (String.toList_inj.1 hrest)
  obtain ⟨y, m, d⟩ := a
  obtain ⟨z, n, e⟩ := b
  have hyears : y = z := by
    have := ha.1
    have := hb.1
    simp only at *
    omega
  simp only at hmonth hday
  rw [hyears, hmonth, hday]

/-- the first digit of a date -/
theorem head_dateText (date : ℤ × ℕ × ℕ) : ∃ digit rest, (dateText date).toList = digit :: rest ∧ digit.isDigit := by
  rw [toList_dateText]
  cases hpad : (padZeros 4 date.1.toNat).toList with
  | nil =>
    have hvalue := padZeros_value 4 date.1.toNat
    have hlength : 0 < (padZeros 4 date.1.toNat).toList.length := by
      rw [toList_padZeros, List.length_append]
      have := Nat.length_toDigits_pos (b := 10) (n := date.1.toNat)
      omega
    rw [hpad] at hlength
    cases hlength
  | cons digit rest => exact ⟨digit, _, rfl, padZeros_isDigit 4 date.1.toNat digit (hpad ▸ List.mem_cons_self)⟩

end SeeMirai
