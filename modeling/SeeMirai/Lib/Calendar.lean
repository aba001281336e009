/-
The proleptic Gregorian calendar: the day number of a date, counted from 1970-01-01, and the date of a day.

`epochDay` is the day number of ECMAScript, `civilDate` the date that the getters of a `Date` answer.

Results:
- `dayFromYear_succ`: a year has 365 days, a leap year one more.
- `civilDate_valid`: the date of a day is a calendar date.
- `civilDate_epochDay`: a calendar date is the date of its day, so that `epochDay` separates calendar dates.
-/
import SeeMirai.Lib.IsoTimestamp

namespace SeeMirai

/-! ## Dates -/

def isLeapYear (year : Int) : Bool := year % 4 = 0 ∧ (year % 100 ≠ 0 ∨ year % 400 = 0)

/-- the days of a month, 1 to 12 -/
def daysInMonth (year : Int) (month : ℕ) : ℕ :=
  if month = 2 then if isLeapYear year then 29 else 28
  else if month = 4 ∨ month = 6 ∨ month = 9 ∨ month = 11 then 30
  else 31

structure ValidDate (year : Int) (month day : ℕ) : Prop where
  month_pos : 1 ≤ month
  month_le : month ≤ 12
  day_pos : 1 ≤ day
  day_le : day ≤ daysInMonth year month

instance (year : Int) (month day : ℕ) : Decidable (ValidDate year month day) :=
  decidable_of_iff (1 ≤ month ∧ month ≤ 12 ∧ 1 ≤ day ∧ day ≤ daysInMonth year month)
    ⟨fun h => ⟨h.1, h.2.1, h.2.2.1, h.2.2.2⟩, fun h => ⟨h.month_pos, h.month_le, h.day_pos, h.day_le⟩⟩

/-- the day on which a year begins -/
def dayFromYear (year : Int) : Int := 365 * (year - 1970) + (year - 1969) / 4 - (year - 1901) / 100 +
    (year - 1601) / 400

/-- the days of a year before a month, in a common year -/
def commonDaysBefore : ℕ → ℕ
  | 2 => 31
  | 3 => 59
  | 4 => 90
  | 5 => 120
  | 6 => 151
  | 7 => 181
  | 8 => 212
  | 9 => 243
  | 10 => 273
  | 11 => 304
  | 12 => 334
  | _ => 0

def daysBeforeMonth (year : Int) (month : ℕ) : ℕ :=
  commonDaysBefore month + if isLeapYear year ∧ 2 < month then 1 else 0

/-- the day of a date, counted from 1970-01-01 -/
def epochDay (year : Int) (month day : ℕ) : Int := dayFromYear year + daysBeforeMonth year month + (day : Int) - 1

example : epochDay 1970 1 1 = 0 ∧ epochDay 2000 3 1 = 11017 := by decide +kernel

/-! ## Years and months -/

theorem dayFromYear_succ (year : Int) :
    dayFromYear (year + 1) = dayFromYear year + if isLeapYear year then 366 else 365 := by
  by_cases hleap : isLeapYear year
  · rw [if_pos hleap]
    simp only [isLeapYear, decide_eq_true_eq] at hleap
    unfold dayFromYear
    omega
  · rw [if_neg hleap]
    simp only [isLeapYear, decide_eq_true_eq] at hleap
    unfold dayFromYear
    omega

theorem dayFromYear_mono {y z : Int} (h : y ≤ z) : dayFromYear y ≤ dayFromYear z := by
  unfold dayFromYear
  omega

/-- a month ends where the next one begins -/
theorem daysBeforeMonth_succ (year : Int) {month : ℕ} (h : 1 ≤ month) (h' : month < 12) :
    daysBeforeMonth year (month + 1) = daysBeforeMonth year month + daysInMonth year month := by
  unfold daysBeforeMonth daysInMonth
  cases isLeapYear year <;> interval_cases month <;> rfl

/-- December ends with the year -/
theorem daysBeforeMonth_december (year : Int) :
    daysBeforeMonth year 12 + daysInMonth year 12 = if isLeapYear year then 366 else 365 := by
  unfold daysBeforeMonth daysInMonth
  cases isLeapYear year <;> rfl

theorem daysBeforeMonth_le {year : Int} {m n : ℕ} (hm : 1 ≤ m) (hn : n ≤ 12) (h : m < n) :
    daysBeforeMonth year m + daysInMonth year m ≤ daysBeforeMonth year n := by
  induction n with
  | zero => omega
  | succ n ih =>
    have hstep : daysBeforeMonth year (n + 1) = daysBeforeMonth year n + daysInMonth year n :=
      daysBeforeMonth_succ year (by omega) (by omega)
    rcases Nat.lt_succ_iff_lt_or_eq.1 h with hlt | rfl
    · have := ih (by omega) hlt
      omega
    · omega

/-- a date is within its year -/
theorem ValidDate.within {year : Int} {month day : ℕ} (h : ValidDate year month day) :
    dayFromYear year ≤ epochDay year month day ∧ epochDay year month day < dayFromYear (year + 1) := by
  obtain ⟨h1, h2, h3, h4⟩ := h
  have hyear := dayFromYear_succ year
  have hdec := daysBeforeMonth_december year
  have hmonth : daysBeforeMonth year month + daysInMonth year month ≤ daysBeforeMonth year 12 + daysInMonth year 12 :=
    by
    rcases Nat.lt_or_eq_of_le h2 with hlt | rfl
    · exact (daysBeforeMonth_le h1 le_rfl hlt).trans (Nat.le_add_right _ _)
    · exact le_rfl
  unfold epochDay
  split_ifs at hyear hdec <;> omega

/-- **A day has one date.** -/
theorem epochDay_injective {y z : Int} {m n d e : ℕ} (h : ValidDate y m d) (h' : ValidDate z n e)
    (heq : epochDay y m d = epochDay z n e) : y = z ∧ m = n ∧ d = e := by
  obtain ⟨hle, hlt⟩ := h.within
  obtain ⟨hle', hlt'⟩ := h'.within
  have hyear : y = z := by
    rcases lt_trichotomy y z with hyz | hyz | hyz
    · have := dayFromYear_mono (show y + 1 ≤ z by omega)
      omega
    · exact hyz
    · have := dayFromYear_mono (show z + 1 ≤ y by omega)
      omega
  subst hyear
  obtain ⟨hm1, hm12, hd1, hd⟩ := h
  obtain ⟨hn1, hn12, he1, he⟩ := h'
  unfold epochDay at heq
  have hmonth : m = n := by
    rcases lt_trichotomy m n with hmn | hmn | hmn
    · have := @daysBeforeMonth_le y m n hm1 hn12 hmn
      omega
    · exact hmn
    · have := @daysBeforeMonth_le y n m hn1 hm12 hmn
      omega
  subst hmonth
  exact ⟨rfl, rfl, by omega⟩

/-! ## The date of a day -/

/-- the first of March, on which the years of `civilDate` begin -/
theorem epochDay_march (year : Int) :
    epochDay year 3 1 = year / 400 * 146097 + daysBefore (year % 400).toNat - 719468 := by
  unfold epochDay dayFromYear daysBeforeMonth daysBefore
  by_cases hleap : isLeapYear year
  · rw [if_pos ⟨hleap, by decide⟩]
    simp only [isLeapYear, decide_eq_true_eq] at hleap
    simp only [commonDaysBefore]
    omega
  · rw [if_neg fun h => hleap h.1]
    simp only [isLeapYear, decide_eq_true_eq] at hleap
    simp only [commonDaysBefore]
    omega

theorem dayOf_eq_epochDay {year : Int} {month day : ℕ} (h : 1 ≤ month) (h' : month ≤ 12) (hday : 1 ≤ day) :
    dayOf (year, month, day) = epochDay year month day := by
  have hmarch : ∀ m : ℕ, 3 ≤ m → m ≤ 12 → (153 * (m - 3) + 2) / 5 + 59 = commonDaysBefore m := by
    intro m hm hm'
    interval_cases m <;> rfl
  by_cases hearly : month ≤ 2
  · have hyear := dayFromYear_succ (year - 1)
    rw [sub_add_cancel] at hyear
    have hfirst := epochDay_march (year - 1)
    have hbefore : daysBeforeMonth year month = (153 * (month + 9) + 2) / 5 - 306 := by
      unfold daysBeforeMonth
      rw [if_neg fun h => absurd h.2 (by omega)]
      interval_cases month <;> rfl
    have hfloor : 306 ≤ (153 * (month + 9) + 2) / 5 := by omega
    simp only [dayOf, if_pos hearly]
    unfold epochDay daysBeforeMonth at hfirst
    unfold epochDay
    rw [hbefore]
    by_cases hleap : isLeapYear (year - 1)
    · rw [if_pos ⟨hleap, by decide⟩] at hfirst
      rw [if_pos hleap] at hyear
      simp only [commonDaysBefore] at hfirst
      omega
    · rw [if_neg fun h => hleap h.1] at hfirst
      rw [if_neg hleap] at hyear
      simp only [commonDaysBefore] at hfirst
      omega
  · have hfirst := epochDay_march year
    have hmonth := hmarch month (by omega) h'
    have hbefore : daysBeforeMonth year month = (153 * (month - 3) + 2) / 5 + daysBeforeMonth year 3 := by
      unfold daysBeforeMonth
      rw [← hmonth]
      by_cases hleap : isLeapYear year
      · rw [if_pos ⟨hleap, by omega⟩, if_pos ⟨hleap, by decide⟩]
        rfl
      · rw [if_neg fun h => hleap h.1, if_neg fun h => hleap h.1]
        rfl
    simp only [dayOf, if_neg hearly]
    unfold epochDay at hfirst ⊢
    rw [hbefore]
    omega

/-- the last year of March years that has 366 days ends in a leap year -/
theorem commonDays_common : ∀ y < 400, isLeapYear ((y : ℕ) + 1) = false →
    365 * (y + 1) ≤ commonDays (daysBefore y + 365) := by
  decide +kernel

theorem isLeapYear_add_era (year era : Int) : isLeapYear (year + era * 400) = isLeapYear year := by
  unfold isLeapYear
  congr 1
  apply propext
  omega

theorem civilDate_valid (day : Int) :
    ValidDate (civilDate day).1 (civilDate day).2.1 (civilDate day).2.2 := by
  obtain ⟨s, hs⟩ : ∃ s, day + 719468 = s := ⟨_, rfl⟩
  obtain ⟨e, he⟩ : ∃ e, (s % 146097).toNat = e := ⟨_, rfl⟩
  obtain ⟨y, hy⟩ : ∃ y, commonDays e / 365 = y := ⟨_, rfl⟩
  obtain ⟨d, hd⟩ : ∃ d, e - daysBefore y = d := ⟨_, rfl⟩
  obtain ⟨m, hm⟩ : ∃ m, (5 * d + 2) / 153 = m := ⟨_, rfl⟩
  have hlt : e < 146097 := by omega
  obtain ⟨hyear, hle, hge⟩ := hy ▸ yearOfEra_bounds hlt
  have hm' : m ≤ 11 := by omega
  have hfebruary : m = 11 → d < 365 ∨ isLeapYear ((y : Int) + s / 146097 * 400 + 1) = true := by
    intro _
    by_contra hnot
    rw [not_or, not_lt, Bool.not_eq_true] at hnot
    have hcommon : isLeapYear ((y : Int) + 1) = false := by
      rw [← isLeapYear_add_era _ (s / 146097), ← hnot.2]
      exact congrArg isLeapYear (by ring)
    have hnext := commonDays_common y hyear hcommon
    have hmono := commonDays_mono (d := daysBefore y + 365) (e := e) (by omega)
    omega
  rw [civilDate_eq hs he hy hd hm]
  by_cases hmarch : m < 10
  · rw [if_pos hmarch, if_pos hmarch]
    refine ⟨Nat.le_add_left 1 (m + 2), show m + 3 ≤ 12 by omega, Nat.le_add_left 1 _, ?_⟩
    change d - (153 * m + 2) / 5 + 1 ≤ daysInMonth _ (m + 3)
    unfold daysInMonth
    rw [if_neg (by omega)]
    split_ifs <;> interval_cases m <;> omega
  · rw [if_neg hmarch, if_neg hmarch]
    refine ⟨show 1 ≤ m - 9 by omega, show m - 9 ≤ 12 by omega, Nat.le_add_left 1 _, ?_⟩
    change d - (153 * m + 2) / 5 + 1 ≤ daysInMonth _ (m - 9)
    unfold daysInMonth
    rcases Nat.lt_or_ge m 11 with hjanuary | hlast
    · obtain rfl : m = 10 := by omega
      rw [if_neg (by decide), if_neg (by decide)]
      omega
    · obtain rfl : m = 11 := by omega
      rw [if_pos rfl]
      rcases hfebruary rfl with hd' | hleap
      · split_ifs <;> omega
      · rw [if_pos hleap]
        omega

/-- the day of the date of a day -/
theorem epochDay_civilDate (day : Int) :
    epochDay (civilDate day).1 (civilDate day).2.1 (civilDate day).2.2 = day := by
  obtain ⟨h1, h2, h3, -⟩ := civilDate_valid day
  rw [← dayOf_eq_epochDay h1 h2 h3]
  exact dayOf_civilDate day

/-- **Round trip.** A calendar date is the date of its day. -/
theorem civilDate_epochDay {year : Int} {month day : ℕ} (h : ValidDate year month day) :
    civilDate (epochDay year month day) = (year, month, day) := by
  obtain ⟨hyear, hmonth, hday⟩ := epochDay_injective (civilDate_valid _) h (epochDay_civilDate _)
  exact Prod.ext hyear (Prod.ext hmonth hday)

end SeeMirai
