/-
`Date.prototype.toISOString` separates times. The calendar of `civilDate` can be inverted, and every field of the text
but the year has a fixed width, so the fields can be read off one after the other, from the back of the year on.

Results:
- `dayOf_civilDate`: the day of a civil date is the day it was computed from.
- `toISOString_injective`: two times with one text are the same millisecond.
-/
import SeeMirai.Lib.JsHost

namespace SeeMirai

/-! ## The calendar -/

/-- the days of an era before its year `y` -/
def daysBefore (y : ℕ) : ℕ := 365 * y + y / 4 - y / 100

/-- the days of an era without those of its leap days -/
def commonDays (e : ℕ) : ℕ := e - e / 1460 + e / 36524 - e / 146096

theorem commonDays_mono {d e : ℕ} (h : d ≤ e) : commonDays d ≤ commonDays e := by
  unfold commonDays
  omega

theorem commonDays_bounds : ∀ y < 400, (y = 0 ∨ commonDays (daysBefore y - 1) < 365 * y) ∧
    365 * (y + 1) ≤ commonDays (daysBefore y + 366) := by
  decide +kernel

theorem yearOfEra_bounds {e : ℕ} (h : e < 146097) : commonDays e / 365 < 400 ∧
    daysBefore (commonDays e / 365) ≤ e ∧ e ≤ daysBefore (commonDays e / 365) + 365 := by
  have hlast : commonDays e ≤ commonDays 146096 := commonDays_mono (by omega)
  have hyear : commonDays e / 365 < 400 := by
    have : commonDays 146096 = 145999 := rfl
    omega
  generalize hy : commonDays e / 365 = y at *
  obtain ⟨hbefore, hafter⟩ := commonDays_bounds y hyear
  refine ⟨hyear, ?_, ?_⟩
  · by_contra hlt
    have := commonDays_mono (d := e) (e := daysBefore y - 1) (by omega)
    rcases hbefore with rfl | hbefore
    · exact hlt (Nat.zero_le e)
    · omega
  · by_contra hlt
    have := commonDays_mono (d := daysBefore y + 366) (e := e) (by omega)
    omega

theorem civilDate_eq {day s : Int} {e y d m : ℕ} (hs : day + 719468 = s) (he : (s % 146097).toNat = e)
    (hy : commonDays e / 365 = y) (hd : e - daysBefore y = d) (hm : (5 * d + 2) / 153 = m) :
    civilDate day = (if m < 10 then (y : Int) + s / 146097 * 400 else (y : Int) + s / 146097 * 400 + 1,
      if m < 10 then m + 3 else m - 9, d - (153 * m + 2) / 5 + 1) := by
  have hlt : e < 146097 := by omega
  obtain ⟨-, hle, hge⟩ := hy ▸ yearOfEra_bounds hlt
  have hm' : m ≤ 11 := by omega
  unfold commonDays at hy
  unfold daysBefore at hd
  simp only [civilDate, hs, he, hy, hd, hm]
  by_cases hmarch : m < 10
  · rw [if_pos hmarch, if_pos hmarch, if_neg (by omega)]
  · rw [if_neg hmarch, if_neg hmarch, if_pos (by omega)]

/-- the day of a civil date -/
def dayOf (date : Int × ℕ × ℕ) : Int :=
  let year := if date.2.1 ≤ 2 then date.1 - 1 else date.1
  let march := if date.2.1 ≤ 2 then date.2.1 + 9 else date.2.1 - 3
  year / 400 * 146097 + (daysBefore (year % 400).toNat + (153 * march + 2) / 5 + date.2.2 - 1 : ℕ) - 719468

theorem dayOf_civilDate (day : Int) : dayOf (civilDate day) = day := by
  obtain ⟨s, hs⟩ : ∃ s, day + 719468 = s := ⟨_, rfl⟩
  obtain ⟨e, he⟩ : ∃ e, (s % 146097).toNat = e := ⟨_, rfl⟩
  obtain ⟨y, hy⟩ : ∃ y, commonDays e / 365 = y := ⟨_, rfl⟩
  obtain ⟨d, hd⟩ : ∃ d, e - daysBefore y = d := ⟨_, rfl⟩
  obtain ⟨m, hm⟩ : ∃ m, (5 * d + 2) / 153 = m := ⟨_, rfl⟩
  have hlt : e < 146097 := by omega
  obtain ⟨hyear, hle, hge⟩ := hy ▸ yearOfEra_bounds hlt
  have hm' : m ≤ 11 := by omega
  have hback : ((y : Int) + s / 146097 * 400) % 400 = y ∧ ((y : Int) + s / 146097 * 400) / 400 = s / 146097 := by omega
  have hmarch : (if (if m < 10 then m + 3 else m - 9) ≤ 2 then (if m < 10 then m + 3 else m - 9) + 9
      else (if m < 10 then m + 3 else m - 9) - 3) = m := by
    split_ifs <;> omega
  have hyear' : (if (if m < 10 then m + 3 else m - 9) ≤ 2 then
      (if m < 10 then (y : Int) + s / 146097 * 400 else (y : Int) + s / 146097 * 400 + 1) - 1
      else (if m < 10 then (y : Int) + s / 146097 * 400 else (y : Int) + s / 146097 * 400 + 1))
      = (y : Int) + s / 146097 * 400 := by
    split_ifs <;> omega
  rw [civilDate_eq hs he hy hd hm]
  simp only [dayOf, hmarch, hyear', hback.1, hback.2, Int.toNat_natCast]
  omega

theorem civilDate_injective {a b : Int} (h : civilDate a = civilDate b) : a = b := by
  rw [← dayOf_civilDate a, h, dayOf_civilDate]

theorem civilDate_lt (day : Int) : (civilDate day).2.1 < 10 ^ 2 ∧ (civilDate day).2.2 < 10 ^ 2 := by
  simp only [civilDate]
  split_ifs <;> omega

/-! ## The fields of the text -/

theorem toList_padZeros (width n : ℕ) : (padZeros width n).toList =
    List.replicate (width - (Nat.toDigits 10 n).length) '0' ++ Nat.toDigits 10 n := by
  simp [padZeros, Nat.toList_repr, ← String.length_toList]

theorem padZeros_isDigit (width n : ℕ) : ∀ c ∈ (padZeros width n).toList, c.isDigit := by
  intro c hc
  rw [toList_padZeros, List.mem_append] at hc
  rcases hc with hc | hc
  · rw [List.eq_of_mem_replicate hc]
    rfl
  · exact Nat.isDigit_of_mem_toDigits (by decide) (by decide) hc

theorem padZeros_value (width n : ℕ) : Nat.ofDigitChars 10 (padZeros width n).toList 0 = n := by
  have hzeros : ∀ k : ℕ, Nat.ofDigitChars 10 (List.replicate k '0' ++ Nat.toDigits 10 n) 0 = n := by
    intro k
    induction k with
    | zero => simp [Nat.ofDigitChars_toDigits]
    | succ k ih => simpa [List.replicate_succ, Nat.ofDigitChars_cons] using ih
  rw [toList_padZeros, hzeros]

theorem padZeros_injective {width m n : ℕ} (h : padZeros width m = padZeros width n) : m = n := by
  rw [← padZeros_value width m, h, padZeros_value]

theorem length_padZeros {width n : ℕ} (hwidth : 0 < width) (h : n < 10 ^ width) :
    (padZeros width n).toList.length = width := by
  have hdigits : (Nat.toDigits 10 n).length ≤ width := (Nat.length_toDigits_le_iff (by decide) hwidth).2 h
  rw [toList_padZeros, List.length_append, List.length_replicate]
  omega

theorem padZeros_append_inj {width m n : ℕ} (hwidth : 0 < width) (hm : m < 10 ^ width) (hn : n < 10 ^ width)
    {x y : List Char} (h : (padZeros width m).toList ++ x = (padZeros width n).toList ++ y) : m = n ∧ x = y := by
  obtain ⟨hpad, hxy⟩ := List.append_inj h (by rw [length_padZeros hwidth hm, length_padZeros hwidth hn])
  exact ⟨padZeros_injective (String.toList_inj.1 hpad), hxy⟩

/-- the year as `toISOString` writes it -/
def isoYear (year : Int) : String :=
  if 0 ≤ year ∧ year ≤ 9999 then padZeros 4 year.toNat
  else (if year < 0 then "-" else "+") ++ padZeros 6 year.natAbs

/-- month, day and time of day -/
def isoRest (month day rest : ℕ) : String :=
  "-" ++ padZeros 2 month ++ "-" ++ padZeros 2 day ++ "T" ++ padZeros 2 (rest / 3600000) ++ ":"
    ++ padZeros 2 (rest / 60000 % 60) ++ ":" ++ padZeros 2 (rest / 1000 % 60) ++ "." ++ padZeros 3 (rest % 1000) ++ "Z"

theorem toISOString_eq (ms : Int) : toISOString ms = isoYear (civilDate (ms / 86400000)).1 ++
    isoRest (civilDate (ms / 86400000)).2.1 (civilDate (ms / 86400000)).2.2 (ms % 86400000).toNat := by
  simp only [toISOString, isoYear, isoRest, String.append_assoc]

theorem toISOString_zulu (ms : Int) : ∃ s, toISOString ms = s ++ "Z" := by
  rw [toISOString_eq]
  exact ⟨_, (String.append_assoc ..).symm⟩

theorem isoYear_cases (year : Int) : 0 ≤ year ∧ isoYear year = padZeros 4 year.toNat ∨
    year < 0 ∧ isoYear year = "-" ++ padZeros 6 year.natAbs ∨
    0 ≤ year ∧ isoYear year = "+" ++ padZeros 6 year.natAbs := by
  unfold isoYear
  by_cases hplain : 0 ≤ year ∧ year ≤ 9999
  · exact Or.inl ⟨hplain.1, if_pos hplain⟩
  · rw [if_neg hplain]
    by_cases hneg : year < 0
    · exact Or.inr (Or.inl ⟨hneg, by rw [if_pos hneg]⟩)
    · exact Or.inr (Or.inr ⟨not_lt.1 hneg, by rw [if_neg hneg]⟩)

theorem isoYear_injective {y z : Int} (h : isoYear y = isoYear z) : y = z := by
  have hunsigned : ∀ {s : String} {m n : ℕ}, (s = "-" ∨ s = "+") → padZeros 4 m ≠ s ++ padZeros 6 n := by
    intro s m n hs heq
    have hdigit := padZeros_isDigit 4 m
    rw [heq, String.toList_append] at hdigit
    rcases hs with rfl | rfl
    · exact absurd (hdigit '-' (by simp)) (by decide)
    · exact absurd (hdigit '+' (by simp)) (by decide)
  have hsign : ∀ {m n : ℕ}, "-" ++ padZeros 6 m ≠ "+" ++ padZeros 6 n := by
    intro m n heq
    have hlist := congrArg String.toList heq
    simp at hlist
  have hsigned : ∀ {s : String} {m n : ℕ}, s ++ padZeros 6 m = s ++ padZeros 6 n → m = n :=
    fun heq => padZeros_injective ((String.append_right_inj _).1 heq)
  rcases isoYear_cases y with ⟨hy, hyt⟩ | ⟨hy, hyt⟩ | ⟨hy, hyt⟩ <;>
    rcases isoYear_cases z with ⟨hz, hzt⟩ | ⟨hz, hzt⟩ | ⟨hz, hzt⟩ <;> rw [hyt, hzt] at h
  · have := padZeros_injective h
    omega
  · exact absurd h (hunsigned (Or.inl rfl))
  · exact absurd h (hunsigned (Or.inr rfl))
  · exact absurd h.symm (hunsigned (Or.inl rfl))
  · have := hsigned h
    omega
  · exact absurd h hsign
  · exact absurd h.symm (hunsigned (Or.inr rfl))
  · exact absurd h.symm hsign
  · have := hsigned h
    omega

theorem fields_lt {rest : ℕ} (h : rest < 86400000) : rest / 3600000 < 10 ^ 2 ∧ rest / 60000 % 60 < 10 ^ 2 ∧
    rest / 1000 % 60 < 10 ^ 2 ∧ rest % 1000 < 10 ^ 3 := by
  omega

theorem fields_injective {r s : ℕ} (hhour : r / 3600000 = s / 3600000) (hminute : r / 60000 % 60 = s / 60000 % 60)
    (hsecond : r / 1000 % 60 = s / 1000 % 60) (hmilli : r % 1000 = s % 1000) : r = s := by
  omega

/-- one field, up to the separator behind it -/
theorem field_inj {width m n : ℕ} (hwidth : 0 < width) (hm : m < 10 ^ width) (hn : n < 10 ^ width) {c d : Char}
    {x y : List Char} (h : (padZeros width m).toList ++ c :: x = (padZeros width n).toList ++ d :: y) : m = n ∧
      x = y := by
  obtain ⟨hfield, hrest⟩ := padZeros_append_inj hwidth hm hn h
  exact ⟨hfield, (List.cons.inj hrest).2⟩

theorem isoRest_injective {month month' day day' rest rest' : ℕ} (hmonth : month < 10 ^ 2) (hmonth' : month' < 10 ^ 2)
    (hday : day < 10 ^ 2) (hday' : day' < 10 ^ 2) (hrest : rest < 86400000) (hrest' : rest' < 86400000)
    (h : isoRest month day rest = isoRest month' day' rest') : month = month' ∧ day = day' ∧ rest = rest' := by
  obtain ⟨hh, hm, hs, hms⟩ := fields_lt hrest
  obtain ⟨hh', hm', hs', hms'⟩ := fields_lt hrest'
  have hlist := congrArg String.toList h
  simp only [isoRest, String.toList_append, List.append_assoc, String.reduceToList, List.cons_append, List.nil_append,
    List.cons.injEq, true_and] at hlist
  obtain ⟨hmonths, hlist⟩ := field_inj two_pos hmonth hmonth' hlist
  obtain ⟨hdays, hlist⟩ := field_inj two_pos hday hday' hlist
  obtain ⟨hhour, hlist⟩ := field_inj two_pos hh hh' hlist
  obtain ⟨hminute, hlist⟩ := field_inj two_pos hm hm' hlist
  obtain ⟨hsecond, hlist⟩ := field_inj two_pos hs hs' hlist
  obtain ⟨hmilli, -⟩ := field_inj three_pos hms hms' hlist
  exact ⟨hmonths, hdays, fields_injective hhour hminute hsecond hmilli⟩

theorem length_isoRest {month day rest : ℕ} (hmonth : month < 10 ^ 2) (hday : day < 10 ^ 2) (hrest : rest < 86400000) :
    (isoRest month day rest).toList.length = 20 := by
  obtain ⟨hh, hm, hs, hms⟩ := fields_lt hrest
  simp only [isoRest, String.toList_append, List.length_append, String.reduceToList, List.length_cons, List.length_nil,
    length_padZeros two_pos hmonth, length_padZeros two_pos hday, length_padZeros two_pos hh,
      length_padZeros two_pos hm,
    length_padZeros two_pos hs, length_padZeros three_pos hms, Nat.reduceAdd]

/-- **A timestamp names its millisecond.** -/
theorem toISOString_injective {a b : Int} (h : toISOString a = toISOString b) : a = b := by
  have hlt : ∀ ms : Int, (ms % 86400000).toNat < 86400000 := by
    intro ms
    omega
  obtain ⟨hma, hda⟩ := civilDate_lt (a / 86400000)
  obtain ⟨hmb, hdb⟩ := civilDate_lt (b / 86400000)
  have hlist := congrArg String.toList h
  rw [toISOString_eq, toISOString_eq, String.toList_append, String.toList_append] at hlist
  obtain ⟨hyear, hrest⟩ := List.append_inj' hlist
    (by rw [length_isoRest hma hda (hlt a), length_isoRest hmb hdb (hlt b)])
  obtain ⟨hmonth, hday, htime⟩ := isoRest_injective hma hmb hda hdb (hlt a) (hlt b) (String.toList_inj.1 hrest)
  have hdate : civilDate (a / 86400000) = civilDate (b / 86400000) :=
    Prod.ext (isoYear_injective (String.toList_inj.1 hyear)) (Prod.ext hmonth hday)
  have := civilDate_injective hdate
  omega

/-! ## Reading a timestamp -/

/-- the range of a `Date` -/
structure TimeValue where
  ms : Int
  low : -8640000000000000 ≤ ms
  high : ms ≤ 8640000000000000
deriving DecidableEq

/-- `new Date(text)`, which the host defines; it reads what `toISOString` writes -/
class DateText where
  parse : String → Option TimeValue
  parse_toISOString : ∀ t : TimeValue, parse (toISOString t.ms) = some t

/-- the year in front of a rest of 20 characters -/
def readYear : List Char → Int
  | '-' :: cs => -(Nat.ofDigitChars 10 cs 0 : ℕ)
  | '+' :: cs => (Nat.ofDigitChars 10 cs 0 : ℕ)
  | cs => (Nat.ofDigitChars 10 cs 0 : ℕ)

/-- the fields of a rest of 20 characters: month, day and time of day -/
def readRest (cs : List Char) : ℕ × ℕ × ℕ :=
  let field := fun start width => Nat.ofDigitChars 10 ((cs.drop start).take width) 0
  (field 1 2, field 4 2, field 7 2 * 3600000 + field 10 2 * 60000 + field 13 2 * 1000 + field 16 3)

/-- the time of a text that `toISOString` writes -/
def readISOString (s : String) : Option TimeValue :=
  let year := s.toList.take (s.toList.length - 20)
  let rest := readRest (s.toList.drop (s.toList.length - 20))
  let ms := dayOf (readYear year, rest.1, rest.2.1) * 86400000 + rest.2.2
  if h : -8640000000000000 ≤ ms ∧ ms ≤ 8640000000000000 ∧ toISOString ms = s then some ⟨ms, h.1, h.2.1⟩ else none

theorem readYear_isoYear (year : Int) : readYear (isoYear year).toList = year := by
  rcases isoYear_cases year with ⟨hyear, htext⟩ | ⟨hyear, htext⟩ | ⟨hyear, htext⟩
  · have hdigits := padZeros_isDigit 4 year.toNat
    have hvalue := padZeros_value 4 year.toNat
    rw [htext]
    unfold readYear
    split
    · rename_i cs hcs
      rw [hcs] at hdigits
      exact absurd (hdigits '-' List.mem_cons_self) (by decide)
    · rename_i cs hcs
      rw [hcs] at hdigits
      exact absurd (hdigits '+' List.mem_cons_self) (by decide)
    · rw [hvalue]
      omega
  · rw [htext, String.toList_append]
    change -((Nat.ofDigitChars 10 (padZeros 6 year.natAbs).toList 0 : ℕ) : Int) = year
    rw [padZeros_value]
    omega
  · rw [htext, String.toList_append]
    change ((Nat.ofDigitChars 10 (padZeros 6 year.natAbs).toList 0 : ℕ) : Int) = year
    rw [padZeros_value]
    omega

theorem two_digits {n : ℕ} (h : n < 10 ^ 2) : ∃ a b, (padZeros 2 n).toList = [a, b] ∧
    Nat.ofDigitChars 10 [a, b] 0 = n := by
  obtain ⟨a, b, hab⟩ := List.length_eq_two.1 (length_padZeros two_pos h)
  exact ⟨a, b, hab, hab ▸ padZeros_value 2 n⟩

theorem readRest_isoRest {month day rest : ℕ} (hmonth : month < 10 ^ 2) (hday : day < 10 ^ 2)
    (hrest : rest < 86400000) :
    readRest (isoRest month day rest).toList = (month, day, rest) := by
  obtain ⟨hh, hm, hs, hms⟩ := fields_lt hrest
  obtain ⟨a, b, hmonths, hmonthv⟩ := two_digits hmonth
  obtain ⟨c, d, hdays, hdayv⟩ := two_digits hday
  obtain ⟨e, f, hhours, hhourv⟩ := two_digits hh
  obtain ⟨g, i, hminutes, hminutev⟩ := two_digits hm
  obtain ⟨j, k, hseconds, hsecondv⟩ := two_digits hs
  obtain ⟨l, m, n, hmillis⟩ := List.length_eq_three.1 (length_padZeros three_pos hms)
  have hmilliv := padZeros_value 3 (rest % 1000)
  rw [hmillis] at hmilliv
  have hlist : (isoRest month day rest).toList =
      ['-', a, b, '-', c, d, 'T', e, f, ':', g, i, ':', j, k, '.', l, m, n, 'Z'] := by
    simp only [isoRest, String.toList_append, hmonths, hdays, hhours, hminutes, hseconds, hmillis, String.reduceToList,
      List.cons_append, List.nil_append]
  have htime : rest / 3600000 * 3600000 + rest / 60000 % 60 * 60000 + rest / 1000 % 60 * 1000 + rest % 1000 = rest := by
    omega
  simp only [readRest, hlist, List.drop_succ_cons, List.drop_zero, List.take_succ_cons, List.take_zero, hmonthv, hdayv,
    hhourv, hminutev, hsecondv, hmilliv, htime]

/-- **Round trip.** -/
theorem readISOString_toISOString (t : TimeValue) : readISOString (toISOString t.ms) = some t := by
  obtain ⟨hmonth, hday⟩ := civilDate_lt (t.ms / 86400000)
  have hrest : (t.ms % 86400000).toNat < 86400000 := by omega
  have htext := congrArg String.toList (toISOString_eq t.ms)
  rw [String.toList_append] at htext
  have hlength := length_isoRest hmonth hday hrest
  have htake : (toISOString t.ms).toList.take ((toISOString t.ms).toList.length - 20) =
      (isoYear (civilDate (t.ms / 86400000)).1).toList := by
    rw [htext]
    exact List.take_left' (by rw [List.length_append, hlength, Nat.add_sub_cancel])
  have hdrop : (toISOString t.ms).toList.drop ((toISOString t.ms).toList.length - 20) =
      (isoRest (civilDate (t.ms / 86400000)).2.1 (civilDate (t.ms / 86400000)).2.2 (t.ms % 86400000).toNat).toList := by
    rw [htext]
    exact List.drop_left' (by rw [List.length_append, hlength, Nat.add_sub_cancel])
  have hday' : dayOf ((civilDate (t.ms / 86400000)).1, (civilDate (t.ms / 86400000)).2.1,
      (civilDate (t.ms / 86400000)).2.2) = t.ms / 86400000 := dayOf_civilDate _
  have hms : t.ms / 86400000 * 86400000 + ((t.ms % 86400000).toNat : ℕ) = t.ms := by omega
  simp only [readISOString, htake, hdrop, readYear_isoYear, readRest_isoRest hmonth hday hrest, hday', hms]
  rw [dif_pos ⟨t.low, t.high, trivial⟩]

instance isoDates : DateText := ⟨readISOString, readISOString_toISOString⟩

end SeeMirai
