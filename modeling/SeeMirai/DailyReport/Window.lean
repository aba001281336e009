/-
The day of a report (application/daily-report/window.ts). A report date is a day of Korea, and the facts of the day are
those between two instants of UTC; the scheduler asks which day an instant is in.

Results:
- `createDailyReportWindow_iff`: exactly the calendar dates from the year 100 on have a window, and which.
- `windows_tile`: an instant is of a day exactly if it is within the window of that day, a window ends where the next
  one begins, and every instant is in one.
-/
import SeeMirai.Lib.DateTime
import SeeMirai.Market.TimestampInstant

namespace SeeMirai.DailyReport

open Market

/-! ## Model -/

def dailyReportTimezone : String := "Asia/Seoul"

structure DailyReportWindow where
  reportDate : String
  timezone : String
  kstStartAt : String
  kstEndAt : String
  utcStartAt : String
  utcEndAt : String
deriving DecidableEq

def millisecondsPerDay : ℤ := 24 * 60 * 60 * 1000

def kstOffsetHours : ℤ := 9

/-- `Date.UTC(year, month - 1, day, hours)`: a year of two digits is one of the twentieth century -/
def dateUTC (year month day : ℕ) (hours : ℤ) : ℤ :=
  setUTCFullYear (if year ≤ 99 then 1900 + year else year) month day * millisecondsPerDay + hours * (60 * 60 * 1000)

/-- a `Date`, whose time is `none` where it is invalid, or a text -/
inductive ClockInput where
  | date (value : Option TimeValue)
  | text (value : String)

def ClockInput.time [DateText] : ClockInput → Option TimeValue
  | date value => value
  | text value => DateText.parse value

/-- the first ten characters of the text of a time, moved to Korea -/
def kstDate (ms : ℤ) : Except Thrown String :=
  (isoText (ms + kstOffsetHours * 60 * 60 * 1000)).map fun text => String.ofList (text.toList.take 10)

def toKstReportDate [DateText] (input : ClockInput) : Except Thrown String :=
  match input.time with
  | none => throw ⟨"Error", "daily report clock input must be a valid Date or ISO timestamp"⟩
  | some date => kstDate date.ms

/-- `/^(\d{4})-(\d{2})-(\d{2})$/u` -/
def reportDatePattern (value : String) : Option (ℕ × ℕ × ℕ) := do
  let (year, cs) ← takeDigits 4 value.toList
  let cs ← takeChar '-' cs
  let (month, cs) ← takeDigits 2 cs
  let cs ← takeChar '-' cs
  let (day, cs) ← takeDigits 2 cs
  if cs = [] then pure (year, month, day) else none

def parseReportDate (reportDate : String) : Except Thrown (ℕ × ℕ × ℕ) :=
  match reportDatePattern reportDate with
  | none => throw ⟨"Error", "daily report date must use YYYY-MM-DD format"⟩
  | some (year, month, day) =>
    let utcMidnight := civilDate (dateUTC year month day 0 / millisecondsPerDay)
    if utcMidnight.1 ≠ year ∨ utcMidnight.2.1 ≠ month ∨ utcMidnight.2.2 ≠ day then
      throw ⟨"Error", "daily report date must be a valid calendar date"⟩
    else pure (year, month, day)

def createDailyReportWindow (reportDate : String) : Except Thrown DailyReportWindow := do
  let (year, month, day) ← parseReportDate reportDate
  let utcStart := dateUTC year month day (-kstOffsetHours)
  let utcEnd := utcStart + millisecondsPerDay
  -- the times are those of dates with four digits and a day more, and have their texts
  let nextReportDate ← kstDate utcEnd
  let utcStartAt ← isoText utcStart
  let utcEndAt ← isoText utcEnd
  pure { reportDate, timezone := dailyReportTimezone, kstStartAt := reportDate ++ "T00:00:00+09:00",
         kstEndAt := nextReportDate ++ "T00:00:00+09:00", utcStartAt, utcEndAt }

example : (createDailyReportWindow "2024-02-29").toOption.map (fun w => (w.kstEndAt, w.utcStartAt, w.utcEndAt)) =
    some ("2024-03-01T00:00:00+09:00", "2024-02-28T15:00:00.000Z", "2024-02-29T15:00:00.000Z") := by decide +kernel

/-! ## Report dates -/

/-- numbers of one length have one text -/
theorem digitsValue_injective {cs ds : List Char} (hcs : ∀ c ∈ cs, c.isDigit) (hds : ∀ d ∈ ds, d.isDigit)
    (hlength : cs.length = ds.length) (h : digitsValue cs = digitsValue ds) : cs = ds := by
  induction cs generalizing ds with
  | nil => exact (List.length_eq_zero_iff.1 hlength.symm).symm
  | cons c cs ih =>
    cases ds with
    | nil => cases hlength
    | cons d ds =>
      have hlengths : cs.length = ds.length := Nat.succ.inj hlength
      have hcs' : ∀ e ∈ cs, e.isDigit := fun e he => hcs e (List.mem_cons_of_mem _ he)
      have hds' : ∀ e ∈ ds, e.isDigit := fun e he => hds e (List.mem_cons_of_mem _ he)
      obtain ⟨hc, -⟩ := digit_lt (hcs c List.mem_cons_self)
      obtain ⟨hd, -⟩ := digit_lt (hds d List.mem_cons_self)
      have hhead : c.toNat = d.toNat := by
        rcases lt_trichotomy c.toNat d.toNat with hlt | heq | hlt
        · exact absurd h (digitsValue_lt_of_head hcs' hlengths hc hlt).ne
        · exact heq
        · exact absurd h (digitsValue_lt_of_head hds' hlengths.symm hd hlt).ne'
      have hsame : c = d := Char.ext (UInt32.toNat_inj.1 hhead)
      have htail : digitsValue cs = digitsValue ds := by
        rw [digitsValue_cons, digitsValue_cons, hhead, hlengths] at h
        exact Nat.add_left_cancel h
      rw [hsame, ih hcs' hds' hlengths htail]

theorem ofDigitChars_eq (cs : List Char) : Nat.ofDigitChars 10 cs 0 = digitsValue cs := rfl

theorem digitsValue_padZeros (width n : ℕ) : digitsValue (padZeros width n).toList = n := by
  rw [← ofDigitChars_eq, padZeros_value]

theorem spells_iff {width n : ℕ} {ds : List Char} (hwidth : 0 < width) :
    Spells width n ds ↔ n < 10 ^ width ∧ ds = (padZeros width n).toList := by
  constructor
  · rintro ⟨hlength, hdigits, rfl⟩
    have hlt : digitsValue ds < 10 ^ width := hlength ▸ digitsValue_lt hdigits
    have hlengths : ds.length = (padZeros width (digitsValue ds)).toList.length := by
      rw [hlength, length_padZeros hwidth hlt]
    exact ⟨hlt, digitsValue_injective hdigits (padZeros_isDigit width _) hlengths (digitsValue_padZeros width _).symm⟩
  · intro ⟨hlt, hds⟩
    rw [hds]
    exact ⟨length_padZeros hwidth hlt, padZeros_isDigit _ _, digitsValue_padZeros _ _⟩

/-- the pattern matches exactly the dates of four, two and two digits -/
theorem reportDatePattern_iff {value : String} {year month day : ℕ} :
    reportDatePattern value = some (year, month, day) ↔
      (year < 10 ^ 4 ∧ month < 10 ^ 2 ∧ day < 10 ^ 2) ∧ value = dateText (year, month, day) := by
  rw [← String.toList_inj, toList_dateText, Int.toNat_natCast]
  constructor
  · intro h
    simp only [reportDatePattern, Option.bind_eq_bind, Option.bind_eq_some_iff, Prod.exists, takeDigits_iff,
      takeChar_iff] at h
    obtain ⟨y, cs, ⟨ys, hyear, hvalue⟩, ds, rfl, m, ms, ⟨mds, hmonth, rfl⟩, es, rfl, d, fs, ⟨dds, hday, rfl⟩, hend⟩ := h
    split_ifs at hend with hnil
    cases hend
    obtain ⟨hy, hys⟩ := (spells_iff (show 0 < 4 by decide)).1 hyear
    obtain ⟨hm, hms⟩ := (spells_iff two_pos).1 hmonth
    obtain ⟨hd, hds⟩ := (spells_iff two_pos).1 hday
    rw [hnil, List.append_nil, hys, hms, hds] at hvalue
    exact ⟨⟨hy, hm, hd⟩, hvalue⟩
  · rintro ⟨⟨hy, hm, hd⟩, hvalue⟩
    have hdigits : ∀ {width n : ℕ} (rest : List Char), 0 < width → n < 10 ^ width →
        takeDigits width ((padZeros width n).toList ++ rest) = some (n, rest) := fun rest hwidth hlt =>
      takeDigits_iff.2 ⟨_, (spells_iff hwidth).2 ⟨hlt, rfl⟩, rfl⟩
    have hchar : ∀ (c : Char) (rest : List Char), takeChar c (c :: rest) = some rest := fun c rest => takeChar_iff.2 rfl
    have hlast := hdigits [] two_pos hd
    rw [List.append_nil] at hlast
    simp only [reportDatePattern, hvalue, hdigits _ (show 0 < 4 by decide) hy, hdigits _ two_pos hm, hchar, hlast,
      Option.bind_eq_bind, Option.bind_some, if_true]
    rfl

/-- a date that a report may have -/
structure ReportDay (date : ℤ × ℕ × ℕ) : Prop where
  valid : ValidDate date.1 date.2.1 date.2.2
  low : 100 ≤ date.1
  high : date.1 ≤ 9999

theorem daysBeforeMonth_lt (year : ℤ) (month : ℕ) : daysBeforeMonth year month ≤ 335 := by
  have hcommon : commonDaysBefore month ≤ 334 := by
    unfold commonDaysBefore
    split <;> decide
  unfold daysBeforeMonth
  split_ifs <;> omega

/-- a year of two digits is not the year that is read back -/
theorem epochDay_century {year : ℕ} (month day : ℕ) :
    epochDay ((1900 + year : ℕ) : ℤ) month day ≠ epochDay year month day := by
  have hlate := daysBeforeMonth_lt ((1900 + year : ℕ) : ℤ) month
  have hearly := daysBeforeMonth_lt year month
  unfold epochDay dayFromYear
  omega

/-- a date of the pattern is accepted if it is read back -/
theorem parseReportDate_of_pattern {reportDate : String} {year month day : ℕ}
    (h : reportDatePattern reportDate = some (year, month, day)) : parseReportDate reportDate =
      let utcMidnight := civilDate (setUTCFullYear (if year ≤ 99 then 1900 + year else year) month day)
      if utcMidnight.1 ≠ year ∨ utcMidnight.2.1 ≠ month ∨ utcMidnight.2.2 ≠ day then
        throw ⟨"Error", "daily report date must be a valid calendar date"⟩
      else pure (year, month, day) := by
  have hday : dateUTC year month day 0 / millisecondsPerDay =
      setUTCFullYear (if year ≤ 99 then 1900 + year else year) month day := by
    unfold dateUTC millisecondsPerDay
    omega
  rw [parseReportDate, h]
  simp only [hday]

/-- exactly the dates of the calendar are accepted, from the year 100 on -/
theorem parseReportDate_iff {reportDate : String} {year month day : ℕ} :
    parseReportDate reportDate = .ok (year, month, day) ↔
      ReportDay (year, month, day) ∧ reportDate = dateText (year, month, day) := by
  constructor
  · intro h
    cases hpattern : reportDatePattern reportDate with
    | none =>
      rw [parseReportDate, hpattern] at h
      cases h
    | some parts =>
      obtain ⟨y, m, d⟩ := parts
      obtain ⟨⟨hy, -, -⟩, htext⟩ := reportDatePattern_iff.1 hpattern
      rw [parseReportDate_of_pattern hpattern] at h
      generalize hdays : setUTCFullYear (if y ≤ 99 then 1900 + y else y) m d = days at h
      simp only at h
      split_ifs at h with hroll
      cases h
      simp only [not_or, not_not] at hroll
      obtain ⟨hyear, hmonth, hdate⟩ := hroll
      have hvalid := civilDate_valid days
      have hback := epochDay_civilDate days
      rw [hyear, hmonth, hdate] at hvalid hback
      rw [← hdays, setUTCFullYear_eq hvalid.month_pos hvalid.month_le] at hback
      have hlow : (100 : ℤ) ≤ year := by
        by_contra hlow
        rw [if_pos (by omega)] at hback
        exact epochDay_century month day hback.symm
      have hhigh : (year : ℤ) ≤ 9999 := by omega
      exact ⟨⟨hvalid, hlow, hhigh⟩, htext⟩
  · rintro ⟨⟨hvalid, hlow, hhigh⟩, htext⟩
    have hmonth : month ≤ 12 := hvalid.month_le
    have hlast : day < 10 ^ 2 := by
      have hle : day ≤ daysInMonth year month := hvalid.day_le
      unfold daysInMonth at hle
      split_ifs at hle <;> omega
    have hcivil : civilDate (epochDay year month day) = ((year : ℤ), month, day) := civilDate_epochDay hvalid
    have hcentury : ¬ year ≤ 99 := by
      have : (100 : ℤ) ≤ year := hlow
      omega
    have hfour : year < 10 ^ 4 := by
      have : (year : ℤ) ≤ 9999 := hhigh
      omega
    rw [parseReportDate_of_pattern (reportDatePattern_iff.2 ⟨⟨hfour, by omega, hlast⟩, htext⟩)]
    simp only [if_neg hcentury, setUTCFullYear_eq hvalid.month_pos hvalid.month_le, hcivil, ne_eq, not_true_eq_false,
      or_self, if_false]
    rfl

/-! ## Windows -/

/-- the ten characters that name the day, counted from 1970-01-01, in a text -/
def dayText (day : ℤ) : String := String.ofList ((toISOString (day * millisecondsPerDay)).toList.take 10)

/-- the window of a day -/
def dayWindow (day : ℤ) : DailyReportWindow where
  reportDate := dayText day
  timezone := dailyReportTimezone
  kstStartAt := dayText day ++ "T00:00:00+09:00"
  kstEndAt := dayText (day + 1) ++ "T00:00:00+09:00"
  utcStartAt := toISOString (day * millisecondsPerDay - 9 * (60 * 60 * 1000))
  utcEndAt := toISOString ((day + 1) * millisecondsPerDay - 9 * (60 * 60 * 1000))

theorem dayText_eq {day : ℤ} (h : FourDigits (civilDate day).1) : dayText day = dateText (civilDate day) := by
  have hday : day * millisecondsPerDay / 86400000 = day := by
    unfold millisecondsPerDay
    omega
  rw [← hday] at h
  rw [dayText, take_toISOString h, hday, String.ofList_toList]

theorem ReportDay.fourDigits {date : ℤ × ℕ × ℕ} (h : ReportDay date) : FourDigits date.1 :=
  ⟨by have := h.low; omega, h.high⟩

/-- the days of the years 100 to 9999 -/
theorem ReportDay.bounds {day : ℤ} (h : ReportDay (civilDate day)) : -683003 ≤ day ∧ day < 2932897 := by
  obtain ⟨hfrom, hto⟩ := h.valid.within
  rw [epochDay_civilDate] at hfrom hto
  have hlow := dayFromYear_mono h.low
  have hhigh := dayFromYear_mono (show (civilDate day).1 + 1 ≤ 10000 by have := h.high; omega)
  have hfirst : dayFromYear 100 = -683003 := by decide
  have hlast : dayFromYear 10000 = 2932897 := by decide
  omega

/-- what is asked for on a day gets the window of the day -/
theorem createDailyReportWindow_day {day : ℤ} (h : ReportDay (civilDate day)) :
    createDailyReportWindow (dayText day) = .ok (dayWindow day) := by
  obtain ⟨hlow, hhigh⟩ := h.bounds
  have hyear : ((civilDate day).1.toNat : ℤ) = (civilDate day).1 := by
    have := h.low
    omega
  have hparse : parseReportDate (dayText day) =
      .ok ((civilDate day).1.toNat, (civilDate day).2.1, (civilDate day).2.2) := by
    refine parseReportDate_iff.2 ⟨?_, ?_⟩
    · rw [hyear]
      exact h
    · rw [dayText_eq h.fourDigits, hyear]
  have hcentury : ¬ (civilDate day).1.toNat ≤ 99 := by
    have := h.low
    omega
  have hstart : dateUTC (civilDate day).1.toNat (civilDate day).2.1 (civilDate day).2.2 (-kstOffsetHours) =
      day * millisecondsPerDay - 9 * (60 * 60 * 1000) := by
    rw [dateUTC, if_neg hcentury, setUTCFullYear_eq h.valid.month_pos h.valid.month_le, hyear, epochDay_civilDate,
      kstOffsetHours]
    ring
  have hend : day * millisecondsPerDay - 9 * (60 * 60 * 1000) + millisecondsPerDay =
      (day + 1) * millisecondsPerDay - 9 * (60 * 60 * 1000) := by ring
  have hnext : kstDate ((day + 1) * millisecondsPerDay - 9 * (60 * 60 * 1000)) = .ok (dayText (day + 1)) := by
    have hmidnight : (day + 1) * millisecondsPerDay - 9 * (60 * 60 * 1000) + kstOffsetHours * 60 * 60 * 1000 =
        (day + 1) * millisecondsPerDay := by
      unfold kstOffsetHours
      ring
    rw [kstDate, hmidnight, isoText_eq_ok.2 ⟨?_, rfl⟩]
    · rfl
    · unfold IsDateTime millisecondsPerDay
      omega
  have hstarts := isoText_eq_ok.2 ⟨show IsDateTime (day * millisecondsPerDay - 9 * (60 * 60 * 1000)) by
    unfold IsDateTime millisecondsPerDay
    omega, rfl⟩
  have hends := isoText_eq_ok.2 ⟨show IsDateTime ((day + 1) * millisecondsPerDay - 9 * (60 * 60 * 1000)) by
    unfold IsDateTime millisecondsPerDay
    omega, rfl⟩
  simp only [createDailyReportWindow, hparse, bind, Except.bind, hstart, hend, hnext, hstarts, hends]
  rfl

/-- **Windows.** Exactly the calendar dates from the year 100 on have a window, each that of its day. -/
theorem createDailyReportWindow_iff {reportDate : String} {w : DailyReportWindow} :
    createDailyReportWindow reportDate = .ok w ↔
      ∃ day, ReportDay (civilDate day) ∧ reportDate = dayText day ∧ w = dayWindow day := by
  constructor
  · intro h
    obtain ⟨⟨year, month, date⟩, hparse, -⟩ := Fallible.bind_eq_ok.1 h
    obtain ⟨hday, htext⟩ := parseReportDate_iff.1 hparse
    have hcivil := civilDate_epochDay hday.valid
    have hreport : ReportDay (civilDate (epochDay year month date)) := by
      rw [hcivil]
      exact hday
    have hsame : reportDate = dayText (epochDay year month date) := by
      rw [dayText_eq hreport.fourDigits, hcivil, htext]
    rw [hsame, createDailyReportWindow_day hreport] at h
    exact ⟨_, hreport, hsame, (Except.ok.inj h).symm⟩
  · rintro ⟨day, hday, rfl, rfl⟩
    exact createDailyReportWindow_day hday

/-! ## Tiling -/

/-- the day in Korea, counted from 1970-01-01 -/
def kstDay (ms : ℤ) : ℤ := (ms + 9 * (60 * 60 * 1000)) / millisecondsPerDay

theorem kstDate_eq_ok {ms : ℤ} {text : String} : kstDate ms = .ok text ↔
    IsDateTime (ms + 9 * (60 * 60 * 1000)) ∧
      text = String.ofList ((toISOString (ms + 9 * (60 * 60 * 1000))).toList.take 10) := by
  have hmoved : ms + kstOffsetHours * 60 * 60 * 1000 = ms + 9 * (60 * 60 * 1000) := by
    unfold kstOffsetHours
    ring
  rw [kstDate, hmoved, isoText]
  generalize ms + 9 * (60 * 60 * 1000) = moved
  split_ifs with hrange
  · simp [Except.map, hrange, eq_comm]
  · simp [Except.map, hrange]

/-- a time is of a day exactly if its text says so -/
theorem kstDate_iff {ms day : ℤ} (hday : ReportDay (civilDate day)) :
    kstDate ms = .ok (dayText day) ↔ kstDay ms = day := by
  have hdiv : (ms + 9 * (60 * 60 * 1000)) / 86400000 = kstDay ms := rfl
  obtain ⟨hmonth, hdate⟩ := civilDate_lt (kstDay ms)
  obtain ⟨hmonth', hdate'⟩ := civilDate_lt day
  rw [kstDate_eq_ok]
  constructor
  · rintro ⟨-, htext⟩
    have hlist := congrArg String.toList htext
    rw [dayText_eq hday.fourDigits, String.toList_ofList] at hlist
    by_cases hyear : FourDigits (civilDate (kstDay ms)).1
    · rw [← hdiv] at hyear
      rw [take_toISOString hyear, hdiv] at hlist
      have hsame := dateText_injective hday.fourDigits hyear hmonth' hmonth hdate' hdate (String.toList_inj.1 hlist)
      exact (civilDate_injective hsame).symm
    · obtain ⟨sign, rest, hsign, hno⟩ := head_toISOString hyear
      obtain ⟨digit, rest', hdigit, hyes⟩ := head_dateText (civilDate day)
      rw [hsign, hdigit, List.take_succ_cons] at hlist
      rw [(List.cons.inj hlist).1, hno] at hyes
      cases hyes
  · intro h
    obtain ⟨hlow, hhigh⟩ := hday.bounds
    have hrange : IsDateTime (ms + 9 * (60 * 60 * 1000)) := by
      unfold kstDay millisecondsPerDay at h
      unfold IsDateTime
      omega
    have hyear : FourDigits (civilDate ((ms + 9 * (60 * 60 * 1000)) / 86400000)).1 := by
      rw [hdiv, h]
      exact hday.fourDigits
    refine ⟨hrange, ?_⟩
    rw [take_toISOString hyear, hdiv, h, dayText_eq hday.fourDigits, String.ofList_toList]

/-- what a window is for: it holds exactly the instants of its day, and the next one begins where it ends -/
structure Tiles [DateText] (reportDate : String) (w : DailyReportWindow) (start stop : TimeValue) : Prop where
  starts : DateText.parse w.utcStartAt = some start
  stops : DateText.parse w.utcEndAt = some stop
  holds : ∀ t : TimeValue, toKstReportDate (.date (some t)) = .ok reportDate ↔ start.ms ≤ t.ms ∧ t.ms < stop.ms
  next : ∀ nextDate nextWindow, toKstReportDate (.text w.utcEndAt) = .ok nextDate →
    createDailyReportWindow nextDate = .ok nextWindow →
      nextWindow.utcStartAt = w.utcEndAt ∧ nextWindow.kstStartAt = w.kstEndAt

/-- **Windows tile.** Exactly the calendar dates from the year 100 on have a window; an instant is of a day exactly if it
is within the window of that day, a window ends where the next one begins, and every instant of the years 100 to 9999 is
of a day with a window. -/
theorem windows_tile [DateText] :
    (∀ reportDate, (∃ w, createDailyReportWindow reportDate = .ok w) ↔
      ∃ date, ReportDay date ∧ reportDate = dateText date) ∧
    (∀ reportDate w, createDailyReportWindow reportDate = .ok w → ∃ start stop, Tiles reportDate w start stop) ∧
      ∀ t : TimeValue, 100 ≤ (civilDate (kstDay t.ms)).1 → (civilDate (kstDay t.ms)).1 ≤ 9999 →
        ∃ reportDate w, toKstReportDate (.date (some t)) = .ok reportDate ∧
          createDailyReportWindow reportDate = .ok w := by
  refine ⟨fun reportDate => ⟨fun h => ?_, fun h => ?_⟩, ?_, ?_⟩
  · obtain ⟨w, h⟩ := h
    obtain ⟨day, hday, rfl, -⟩ := createDailyReportWindow_iff.1 h
    exact ⟨_, hday, dayText_eq hday.fourDigits⟩
  · obtain ⟨date, hdate, htext⟩ := h
    have hcivil := civilDate_epochDay hdate.valid
    have hday : ReportDay (civilDate (epochDay date.1 date.2.1 date.2.2)) := hcivil ▸ hdate
    have hsame : reportDate = dayText (epochDay date.1 date.2.1 date.2.2) := by
      rw [dayText_eq hday.fourDigits, hcivil, htext]
    exact ⟨_, createDailyReportWindow_iff.2 ⟨_, hday, hsame, rfl⟩⟩
  · intro reportDate w h
    obtain ⟨day, hday, rfl, rfl⟩ := createDailyReportWindow_iff.1 h
    obtain ⟨hlow, hhigh⟩ := hday.bounds
    let start : TimeValue := ⟨day * millisecondsPerDay - 9 * (60 * 60 * 1000), by unfold millisecondsPerDay; omega,
      by unfold millisecondsPerDay; omega⟩
    let stop : TimeValue := ⟨(day + 1) * millisecondsPerDay - 9 * (60 * 60 * 1000), by unfold millisecondsPerDay; omega,
      by unfold millisecondsPerDay; omega⟩
    have hstop : DateText.parse (dayWindow day).utcEndAt = some stop := DateText.parse_toISOString stop
    refine ⟨start, stop, DateText.parse_toISOString start, hstop, fun t => ?_,
      fun nextDate nextWindow hnext hwindow => ?_⟩
    · rw [toKstReportDate, ClockInput.time, kstDate_iff hday, kstDay]
      show _ ↔ day * millisecondsPerDay - 9 * (60 * 60 * 1000) ≤ t.ms ∧
        t.ms < (day + 1) * millisecondsPerDay - 9 * (60 * 60 * 1000)
      unfold millisecondsPerDay
      omega
    · obtain ⟨later, hlater, rfl, rfl⟩ := createDailyReportWindow_iff.1 hwindow
      rw [toKstReportDate, ClockInput.time, hstop] at hnext
      have hsame : later = day + 1 := by
        rw [← (kstDate_iff hlater).1 hnext]
        show ((day + 1) * millisecondsPerDay - 9 * (60 * 60 * 1000) + 9 * (60 * 60 * 1000)) / millisecondsPerDay =
          day + 1
        unfold millisecondsPerDay
        omega
      rw [hsame]
      exact ⟨rfl, rfl⟩
  · intro t hlow hhigh
    have hday : ReportDay (civilDate (kstDay t.ms)) := ⟨civilDate_valid _, hlow, hhigh⟩
    exact ⟨_, _, (kstDate_iff hday).2 rfl, createDailyReportWindow_day hday⟩

end SeeMirai.DailyReport
