/-
What a timestamp text denotes (domain/market-event.ts). A text is written in one way only, so its parts can be read off;
where they are a date of the calendar, a time of day and an offset of less than a day, it denotes an instant.

Results:
- `pattern_iff`: the pattern matches exactly the texts of its form.
- `createUtcSeconds_iff`: parts that roll over are refused, and only these.
- `timestamp_nanos_exact`: an accepted text gives the nanoseconds of its instant, whatever its offset and the length of
  its fraction, and every other text is refused.
-/
import SeeMirai.Market.Replay
import SeeMirai.Lib.Calendar

namespace SeeMirai.Market

open Fallible

/-! ## Texts -/

/-- `width` digits with the value `n` -/
structure Spells (width n : ℕ) (ds : List Char) : Prop where
  length : ds.length = width
  digits : ∀ c ∈ ds, c.isDigit
  value : digitsValue ds = n

/-- no fraction, or a point and up to nine digits -/
inductive FractionWritten : List Char → List Char → Prop
  | absent : FractionWritten [] []
  | digits {ds : List Char} (pos : 1 ≤ ds.length) (le : ds.length ≤ 9) (digits : ∀ c ∈ ds, c.isDigit) :
      FractionWritten ds ('.' :: ds)

inductive OffsetWritten : Option (Bool × ℕ × ℕ) → List Char → Prop
  | utc : OffsetWritten none ['Z']
  | signed (plus : Bool) {hour minute : ℕ} {hs ms : List Char} (hhour : Spells 2 hour hs)
      (hminute : Spells 2 minute ms) :
      OffsetWritten (some (plus, hour, minute)) ((if plus then '+' else '-') :: (hs ++ ':' :: ms))

/-- the text of some parts, field by field -/
structure TimestampText (parts : TimestampMatch) where
  year : List Char
  month : List Char
  day : List Char
  hour : List Char
  minute : List Char
  second : List Char
  fraction : List Char
  offset : List Char
  year_spells : Spells 4 parts.year year
  month_spells : Spells 2 parts.month month
  day_spells : Spells 2 parts.day day
  hour_spells : Spells 2 parts.hour hour
  minute_spells : Spells 2 parts.minute minute
  second_spells : Spells 2 parts.second second
  fraction_written : FractionWritten parts.fractionText fraction
  offset_written : OffsetWritten parts.offset offset

def TimestampText.text {parts : TimestampMatch} (t : TimestampText parts) : List Char :=
  t.year ++ '-' :: (t.month ++ '-' :: (t.day ++ 'T' :: (t.hour ++ ':' :: (t.minute ++ ':' ::
    (t.second ++ (t.fraction ++ t.offset))))))

def Written (value : String) (parts : TimestampMatch) : Prop := ∃ t : TimestampText parts, value.toList = t.text

/-! ## Instants -/

/-- a date of the calendar, a time of day and an offset of less than a day -/
structure ValidTimestamp (parts : TimestampMatch) : Prop where
  date : ValidDate parts.year parts.month parts.day
  hour : parts.hour < 24
  minute : parts.minute < 60
  second : parts.second < 60
  offset : ∀ o ∈ parts.offset, o.2.1 < 24 ∧ o.2.2 < 60

/-- how far the local time is ahead of UTC, in seconds -/
def TimestampMatch.offsetSeconds (parts : TimestampMatch) : ℤ :=
  match parts.offset with
  | none => 0
  | some (plus, hour, minute) => (if plus then 1 else -1) * (hour * 3600 + minute * 60)

/-- the seconds of the date and the time of day -/
def TimestampMatch.localSeconds (parts : TimestampMatch) : ℤ :=
  epochDay parts.year parts.month parts.day * 86400 + parts.hour * 3600 + parts.minute * 60 + parts.second

/-- seconds since 1970-01-01T00:00:00Z -/
def TimestampMatch.instant (parts : TimestampMatch) : ℚ :=
  parts.localSeconds - parts.offsetSeconds + digitsValue parts.fractionText / 10 ^ parts.fractionText.length

/-! ## The pattern -/

theorem takeDigits_iff {width n : ℕ} {cs rest : List Char} :
    takeDigits width cs = some (n, rest) ↔ ∃ ds, Spells width n ds ∧ cs = ds ++ rest := by
  unfold takeDigits
  constructor
  · intro h
    split_ifs at h with hdigits
    cases h
    exact ⟨cs.take width, ⟨hdigits.1, List.all_eq_true.1 hdigits.2, rfl⟩, (List.take_append_drop width cs).symm⟩
  · rintro ⟨ds, ⟨rfl, hdigits, rfl⟩, rfl⟩
    have htake : (ds ++ rest).take ds.length = ds := List.take_left' rfl
    have hdrop : (ds ++ rest).drop ds.length = rest := List.drop_left' rfl
    rw [htake, hdrop, if_pos ⟨rfl, List.all_eq_true.2 hdigits⟩]

theorem takeChar_iff {c : Char} {cs rest : List Char} : takeChar c cs = some rest ↔ cs = c :: rest := by
  cases cs with
  | nil => simp [takeChar]
  | cons d cs =>
    by_cases h : c = d
    · simp [takeChar, h]
    · simp [takeChar, h, Ne.symm h]

theorem takeOffset_signed {sign : Char} {cs : List Char} {o : Option (Bool × ℕ × ℕ)} (h : sign :: cs ≠ ['Z']) :
    takeOffset (sign :: cs) = some o ↔ (sign = '+' ∨ sign = '-') ∧ ∃ hour minute hs ms, Spells 2 hour hs ∧
      Spells 2 minute ms ∧ cs = hs ++ ':' :: ms ∧ o = some (decide (sign = '+'), hour, minute) := by
  have hrun : takeOffset (sign :: cs) = if sign ≠ '+' ∧ sign ≠ '-' then none else
      (takeDigits 2 cs).bind fun hour => (takeChar ':' hour.2).bind fun cs => (takeDigits 2 cs).bind fun minute =>
        if minute.2 = [] then some (some (decide (sign = '+'), hour.1, minute.1)) else none := by
    unfold takeOffset
    split
    · rename_i heq
      exact absurd heq h
    · rename_i heq
      cases heq
      rfl
    · rename_i heq
      cases heq
  rw [hrun]
  by_cases hsign : sign = '+' ∨ sign = '-'
  · rw [if_neg fun hne => hsign.elim hne.1 hne.2]
    constructor
    · intro hsome
      obtain ⟨⟨hour, cs₁⟩, hhour, hafter⟩ := Option.bind_eq_some_iff.1 hsome
      obtain ⟨cs₂, hcolon, hrest⟩ := Option.bind_eq_some_iff.1 hafter
      obtain ⟨⟨minute, cs₃⟩, hminute, hlast⟩ := Option.bind_eq_some_iff.1 hrest
      split_ifs at hlast with hend
      obtain ⟨hs, hhs, rfl⟩ := takeDigits_iff.1 hhour
      obtain ⟨ms, hms, rfl⟩ := takeDigits_iff.1 hminute
      cases takeChar_iff.1 hcolon
      obtain rfl : cs₃ = [] := hend
      cases hlast
      exact ⟨hsign, hour, minute, hs, ms, hhs, hms, by rw [List.append_nil], rfl⟩
    · rintro ⟨-, hour, minute, hs, ms, hhs, hms, rfl, rfl⟩
      have hhour := takeDigits_iff.2 ⟨hs, hhs, (rfl : hs ++ ':' :: ms = hs ++ ':' :: ms)⟩
      have hminute := takeDigits_iff.2 ⟨ms, hms, (List.append_nil ms).symm⟩
      rw [hhour, Option.bind_some, takeChar_iff.2 rfl, Option.bind_some, hminute, Option.bind_some, if_pos rfl]
  · rw [if_pos (not_or.1 hsign)]
    exact iff_of_false (fun h => nomatch h) fun h => hsign h.1

theorem takeOffset_iff {cs : List Char} {o : Option (Bool × ℕ × ℕ)} : takeOffset cs = some o ↔ OffsetWritten o cs := by
  by_cases hutc : cs = ['Z']
  · subst hutc
    constructor
    · intro h
      cases h
      exact .utc
    · intro h
      generalize hz : ['Z'] = l at h
      cases h with
      | utc => rfl
      | signed plus _ _ => cases plus <;> simp at hz
  · cases cs with
    | nil => exact iff_of_false (fun h => nomatch h) (fun h => nomatch h)
    | cons sign cs =>
      rw [takeOffset_signed hutc]
      constructor
      · rintro ⟨hsign, hour, minute, hs, ms, hhs, hms, rfl, rfl⟩
        rcases hsign with rfl | rfl
        · exact .signed true hhs hms
        · exact .signed false hhs hms
      · intro h
        cases h with
        | utc => exact absurd rfl hutc
        | signed plus hhs hms =>
          cases plus
          · exact ⟨Or.inr rfl, _, _, _, _, hhs, hms, rfl, rfl⟩
          · exact ⟨Or.inl rfl, _, _, _, _, hhs, hms, rfl, rfl⟩

theorem takeFraction_sound {cs rest fraction : List Char} (h : takeFraction cs = some (fraction, rest)) :
    ∃ written, FractionWritten fraction written ∧ cs = written ++ rest := by
  unfold takeFraction at h
  split at h
  · rename_i cs
    dsimp only at h
    split_ifs at h with hlength
    cases h
    refine ⟨'.' :: cs.takeWhile Char.isDigit, .digits hlength.1 hlength.2 fun c hc => ?_, ?_⟩
    · exact List.mem_takeWhile_imp hc
    · rw [List.cons_append, List.takeWhile_append_dropWhile]
  · cases h
    exact ⟨[], .absent, rfl⟩

/-- an offset begins with neither a digit nor a point -/
theorem OffsetWritten.head {o : Option (Bool × ℕ × ℕ)} {cs : List Char} (h : OffsetWritten o cs) :
    ∃ c rest, cs = c :: rest ∧ c.isDigit = false ∧ c ≠ '.' := by
  cases h with
  | utc => exact ⟨'Z', [], rfl, rfl, by decide⟩
  | signed plus _ _ =>
    cases plus
    · exact ⟨'-', _, rfl, rfl, by decide⟩
    · exact ⟨'+', _, rfl, rfl, by decide⟩

theorem takeFraction_complete {o : Option (Bool × ℕ × ℕ)} {offset fraction written : List Char}
    (h : FractionWritten fraction written) (ho : OffsetWritten o offset) :
    takeFraction (written ++ offset) = some (fraction, offset) := by
  obtain ⟨c, rest, rfl, hdigit, hpoint⟩ := ho.head
  cases h with
  | absent =>
    rw [List.nil_append]
    unfold takeFraction
    split
    · rename_i heq
      cases heq
      exact absurd rfl hpoint
    · rfl
  | digits hpos hle hdigits =>
    have hnot : ¬ c.isDigit = true := by simp [hdigit]
    have htake : (fraction ++ c :: rest).takeWhile Char.isDigit = fraction := by
      rw [List.takeWhile_append_of_pos hdigits, List.takeWhile_cons_of_neg hnot, List.append_nil]
    have hdrop : (fraction ++ c :: rest).dropWhile Char.isDigit = c :: rest := by
      rw [List.dropWhile_append_of_pos hdigits, List.dropWhile_cons_of_neg hnot]
    rw [List.cons_append, takeFraction]
    simp only [htake, hdrop]
    rw [if_pos ⟨hpos, hle⟩]

/-- **The pattern** matches the texts of its form and reads their parts. -/
theorem pattern_iff {value : String} {parts : TimestampMatch} :
    timezoneExplicitIsoTimestampPattern value = some parts ↔ Written value parts := by
  unfold timezoneExplicitIsoTimestampPattern
  constructor
  · intro h
    simp only [Option.bind_eq_bind, Option.bind_eq_some_iff, Prod.exists] at h
    obtain ⟨year, r₁, hyear, r₂, hdash, month, r₃, hmonth, r₄, hdash', day, r₅, hday, r₆, ht, hour, r₇, hhour, r₈,
      hcolon,
      minute, r₉, hminute, r₁₀, hcolon', second, r₁₁, hsecond, fractionText, r₁₂, hfraction, offset, hoffset,
        hparts⟩ := h
    cases hparts
    obtain ⟨ys, hys, hvalue⟩ := takeDigits_iff.1 hyear
    obtain ⟨mos, hmos, hr₂⟩ := takeDigits_iff.1 hmonth
    obtain ⟨ds, hds, hr₄⟩ := takeDigits_iff.1 hday
    obtain ⟨hs, hhs, hr₆⟩ := takeDigits_iff.1 hhour
    obtain ⟨ms, hms, hr₈⟩ := takeDigits_iff.1 hminute
    obtain ⟨ss, hss, hr₁₀⟩ := takeDigits_iff.1 hsecond
    obtain ⟨fs, hfs, hr₁₁⟩ := takeFraction_sound hfraction
    refine ⟨⟨ys, mos, ds, hs, ms, ss, fs, r₁₂, hys, hmos, hds, hhs, hms, hss, hfs, takeOffset_iff.1 hoffset⟩, ?_⟩
    rw [hvalue, takeChar_iff.1 hdash, hr₂, takeChar_iff.1 hdash', hr₄, takeChar_iff.1 ht, hr₆, takeChar_iff.1 hcolon,
      hr₈,
      takeChar_iff.1 hcolon', hr₁₀, hr₁₁]
    rfl
  · rintro ⟨t, htext⟩
    have hdigits : ∀ {width n : ℕ} {ds : List Char}, Spells width n ds → ∀ rest,
        takeDigits width (ds ++ rest) = some (n, rest) :=
      fun h rest => takeDigits_iff.2 ⟨_, h, rfl⟩
    have hchar : ∀ (c : Char) (rest : List Char), takeChar c (c :: rest) = some rest := fun c rest => takeChar_iff.2 rfl
    simp only [htext, TimestampText.text, hdigits t.year_spells, hdigits t.month_spells, hdigits t.day_spells,
      hdigits t.hour_spells, hdigits t.minute_spells, hdigits t.second_spells, hchar, Option.bind_eq_bind,
      Option.bind_some, takeFraction_complete t.fraction_written t.offset_written, takeOffset_iff.2 t.offset_written]
    rfl

/-! ## The calendar -/

theorem yearOfEra_days (year : ℤ) :
    (year - year / 400 * 400) * 365 + (year - year / 400 * 400) / 4 - (year - year / 400 * 400) / 100 =
      daysBefore (year % 400).toNat := by
  obtain ⟨r, hr⟩ : ∃ r : ℕ, year % 400 = r := ⟨(year % 400).toNat, by omega⟩
  have hrest : year - year / 400 * 400 = r := by omega
  rw [hrest, hr, Int.toNat_natCast, daysBefore]
  omega

theorem monthStart_eq {year : ℤ} {month : ℕ} (h : 1 ≤ month) (h' : month ≤ 12) :
    monthStart year month = epochDay year month 1 := by
  rw [← dayOf_eq_epochDay h h' le_rfl]
  unfold monthStart dayOf
  by_cases hearly : month ≤ 2
  · have hmarch : (month + 9) % 12 = month + 9 := by omega
    have hdays := yearOfEra_days (year - 1)
    simp only [if_pos hearly, hmarch]
    omega
  · have hmarch : (month + 9) % 12 = month - 3 := by omega
    have hdays := yearOfEra_days year
    simp only [if_neg hearly, hmarch]
    omega

theorem setUTCFullYear_eq {year month day : ℕ} (h : 1 ≤ month) (h' : month ≤ 12) :
    setUTCFullYear year month day = epochDay year month day := by
  have hyear : (year : ℤ) + ((month : ℤ) - 1) / 12 = year := by omega
  have hmonth : (((month : ℤ) - 1) % 12).toNat + 1 = month := by omega
  rw [setUTCFullYear, hyear, hmonth, monthStart_eq h h']
  unfold epochDay
  push_cast
  ring

/-- parts that roll over are refused, and only these -/
theorem createUtcSeconds_iff {parts : TimestampMatch} {originalValue : String} {seconds : ℤ} :
    createUtcSecondsFromTimestampParts parts originalValue = .ok seconds ↔
      ValidDate parts.year parts.month parts.day ∧ parts.hour < 24 ∧ parts.minute < 60 ∧ parts.second < 60 ∧
        seconds = parts.localSeconds := by
  obtain ⟨total, htotal⟩ : ∃ total, setUTCFullYear parts.year parts.month parts.day * 86400 + parts.hour * 3600 +
      parts.minute * 60 + parts.second = total := ⟨_, rfl⟩
  have hrun : createUtcSecondsFromTimestampParts parts originalValue =
      if (civilDate (total / 86400)).1 ≠ parts.year ∨ (civilDate (total / 86400)).2.1 ≠ parts.month ∨
          (civilDate (total / 86400)).2.2 ≠ parts.day ∨ (total % 86400).toNat / 3600 ≠ parts.hour ∨
          (total % 86400).toNat / 60 % 60 ≠ parts.minute ∨ (total % 86400).toNat % 60 ≠ parts.second then
        throw ⟨"Error", "Invalid MarketEvent timestamp calendar value: " ++ originalValue⟩
      else pure total := by
    rw [createUtcSecondsFromTimestampParts, htotal]
  have hok : ∀ {p : Prop} [Decidable p], (if p then throw
      ⟨"Error", "Invalid MarketEvent timestamp calendar value: " ++ originalValue⟩ else pure total : Except Thrown ℤ)
        = .ok seconds ↔ ¬ p ∧ total = seconds := by
    intro p _
    by_cases hp : p
    · rw [if_pos hp]
      exact iff_of_false (fun h => nomatch h) fun h => h.1 hp
    · rw [if_neg hp]
      exact ⟨fun h => ⟨hp, Except.ok.inj h⟩, fun h => congrArg Except.ok h.2⟩
  rw [hrun, hok]
  simp only [not_or, not_not]
  constructor
  · rintro ⟨⟨hyear, hmonth, hday, hhour, hminute, hsecond⟩, rfl⟩
    have hvalid := civilDate_valid (total / 86400)
    rw [hyear, hmonth, hday] at hvalid
    rw [setUTCFullYear_eq hvalid.month_pos hvalid.month_le] at htotal
    exact ⟨hvalid, by omega, by omega, by omega, htotal.symm⟩
  · rintro ⟨hdate, hhour, hminute, hsecond, rfl⟩
    rw [setUTCFullYear_eq hdate.month_pos hdate.month_le] at htotal
    have hquot : total / 86400 = epochDay parts.year parts.month parts.day := by omega
    have hcivil := civilDate_epochDay hdate
    rw [hquot, hcivil]
    exact ⟨⟨rfl, rfl, rfl, by omega, by omega, by omega⟩, htotal.symm⟩

/-! ## Nanoseconds -/

/-- the parts of a match, once they are read -/
theorem parse_of_match {value : String} {parts : TimestampMatch} {v : ℤ}
    (h : timezoneExplicitIsoTimestampPattern value = some parts) :
    parseMarketEventTimestampNanos (.text value) = .ok v ↔ ValidTimestamp parts ∧
      v = (parts.localSeconds - parts.offsetSeconds) * 1000000000 + fractionNanos parts.fractionText := by
  have hread : ∀ x : ℤ, (createUtcSecondsFromTimestampParts parts value >>= fun seconds =>
      pure ((seconds - x) * 1000000000 + fractionNanos parts.fractionText)) = .ok v ↔
      (ValidDate parts.year parts.month parts.day ∧ parts.hour < 24 ∧ parts.minute < 60 ∧ parts.second < 60) ∧
        v = (parts.localSeconds - x) * 1000000000 + fractionNanos parts.fractionText := by
    intro x
    rw [bind_eq_ok]
    constructor
    · rintro ⟨seconds, hseconds, hv⟩
      obtain ⟨hdate, hhour, hminute, hsecond, rfl⟩ := createUtcSeconds_iff.1 hseconds
      exact ⟨⟨hdate, hhour, hminute, hsecond⟩, (Except.ok.inj hv).symm⟩
    · rintro ⟨⟨hdate, hhour, hminute, hsecond⟩, rfl⟩
      exact ⟨_, createUtcSeconds_iff.2 ⟨hdate, hhour, hminute, hsecond, rfl⟩, rfl⟩
  have hvalid : ValidTimestamp parts ↔ (ValidDate parts.year parts.month parts.day ∧ parts.hour < 24 ∧
      parts.minute < 60 ∧ parts.second < 60) ∧ ∀ o ∈ parts.offset, o.2.1 < 24 ∧ o.2.2 < 60 :=
    ⟨fun h => ⟨⟨h.date, h.hour, h.minute, h.second⟩, h.offset⟩, fun h => ⟨h.1.1, h.1.2.1, h.1.2.2.1, h.1.2.2.2, h.2⟩⟩
  rw [parseMarketEventTimestampNanos, parseTimezoneExplicitTimestampNanos, h, hvalid]
  cases ho : parts.offset with
  | none =>
    have hseconds : parts.offsetSeconds = ((0 : ℕ) * 60 + (0 : ℕ)) * 60 * 0 := by
      simp [TimestampMatch.offsetSeconds, ho]
    have hoffset : ∀ o ∈ (none : Option (Bool × ℕ × ℕ)), o.2.1 < 24 ∧ o.2.2 < 60 :=
      fun o hnone => absurd hnone (by simp)
    simp only [ho]
    rw [if_neg (by omega), hread, hseconds, and_iff_left hoffset]
  | some o =>
    obtain ⟨plus, hour, minute⟩ := o
    have hseconds : parts.offsetSeconds = (hour * 60 + minute) * 60 * if plus = true then 1 else -1 := by
      cases plus <;> simp [TimestampMatch.offsetSeconds, ho] <;> ring
    have hoffset : (∀ o ∈ some (plus, hour, minute), o.2.1 < 24 ∧ o.2.2 < 60) ↔ hour < 24 ∧ minute < 60 := by simp
    simp only [ho]
    by_cases hbeyond : 23 < hour ∨ 59 < minute
    · rw [if_pos hbeyond]
      refine iff_of_false (fun h => ?_) fun h => ?_
      · cases h
      · have hbound := hoffset.1 h.1.2
        omega
    · rw [if_neg hbeyond, hread, hseconds, and_iff_left (hoffset.2 (by omega))]

/-- a padded fraction has the value of the fraction -/
theorem fractionNanos_exact {fraction written : List Char} (h : FractionWritten fraction written) :
    (fractionNanos fraction : ℚ) = digitsValue fraction / 10 ^ fraction.length * 10 ^ 9 := by
  have hle : fraction.length ≤ 9 := by
    cases h with
    | absent => decide
    | digits _ hle _ => exact hle
  have hpow : (10 : ℚ) ^ 9 = 10 ^ (9 - fraction.length) * 10 ^ fraction.length := by
    rw [← pow_add, Nat.sub_add_cancel hle]
  rw [fractionNanos, hpow]
  push_cast
  field_simp

/-- **What is accepted.** The parts of a text are those of a calendar date, a time of day and an offset,
  and the value is
the instant in nanoseconds. -/
theorem parse_iff {value : String} {v : ℤ} : parseMarketEventTimestampNanos (.text value) = .ok v ↔
    ∃ parts, Written value parts ∧ ValidTimestamp parts ∧ (v : ℚ) = parts.instant * 10 ^ 9 := by
  have hvalue : ∀ {parts : TimestampMatch}, Written value parts →
      ((v : ℚ) = parts.instant * 10 ^ 9 ↔
        v = (parts.localSeconds - parts.offsetSeconds) * 1000000000 + fractionNanos parts.fractionText) := by
    rintro parts ⟨t, -⟩
    have hinstant : parts.instant * 10 ^ 9 = (((parts.localSeconds - parts.offsetSeconds) * 1000000000 +
        fractionNanos parts.fractionText : ℤ) : ℚ) := by
      push_cast
      rw [fractionNanos_exact t.fraction_written, TimestampMatch.instant]
      ring
    rw [hinstant]
    exact Int.cast_inj
  constructor
  · intro h
    cases hpattern : timezoneExplicitIsoTimestampPattern value with
    | none =>
      rw [parseMarketEventTimestampNanos, parseTimezoneExplicitTimestampNanos, hpattern] at h
      cases h
    | some parts =>
      have hwritten := pattern_iff.1 hpattern
      obtain ⟨hvalid, hv⟩ := (parse_of_match hpattern).1 h
      exact ⟨parts, hwritten, hvalid, (hvalue hwritten).2 hv⟩
  · rintro ⟨parts, hwritten, hvalid, hv⟩
    exact (parse_of_match (pattern_iff.2 hwritten)).2 ⟨hvalid, (hvalue hwritten).1 hv⟩

theorem Written.unique {value : String} {parts parts' : TimestampMatch} (h : Written value parts)
    (h' : Written value parts') : parts = parts' :=
  Option.some.inj ((pattern_iff.2 h).symm.trans (pattern_iff.2 h'))

/-- **Timestamps are exact.** An accepted text gives the nanoseconds of the instant it denotes; accepted texts give one
value exactly when they denote one instant; a text whose date, time or offset is not of the calendar is refused. -/
theorem timestamp_nanos_exact :
    (∀ value v, parseMarketEventTimestampNanos (.text value) = .ok v →
      ∃ parts, Written value parts ∧ ValidTimestamp parts ∧ (v : ℚ) = parts.instant * 10 ^ 9) ∧
    (∀ value value' v v' parts parts', Written value parts → Written value' parts' →
      parseMarketEventTimestampNanos (.text value) = .ok v → parseMarketEventTimestampNanos (.text value') = .ok v' →
        (v = v' ↔ parts.instant = parts'.instant)) ∧
    (∀ value, (∀ parts, Written value parts → ¬ ValidTimestamp parts) →
      ∃ error, parseMarketEventTimestampNanos (.text value) = .error error) ∧
    ∀ value parts, Written value parts → ValidTimestamp parts →
      ∃ v, parseMarketEventTimestampNanos (.text value) = .ok v := by
  refine ⟨fun value v h => parse_iff.1 h, ?_, ?_, ?_⟩
  · intro value value' v v' parts parts' hwritten hwritten' hv hv'
    obtain ⟨q, hq, -, hvq⟩ := parse_iff.1 hv
    obtain ⟨q', hq', -, hvq'⟩ := parse_iff.1 hv'
    cases hq.unique hwritten
    cases hq'.unique hwritten'
    rw [← Int.cast_inj (α := ℚ), hvq, hvq', mul_left_inj' (by norm_num)]
  · intro value hnone
    cases hparse : parseMarketEventTimestampNanos (.text value) with
    | error error => exact ⟨error, rfl⟩
    | ok v =>
      obtain ⟨parts, hwritten, hvalid, -⟩ := parse_iff.1 hparse
      exact absurd hvalid (hnone parts hwritten)
  · intro value parts hwritten hvalid
    exact ⟨_, (parse_of_match (pattern_iff.2 hwritten)).2 ⟨hvalid, rfl⟩⟩

/-- an offset across midnight and a padded fraction, and the same instant in UTC -/
theorem midnight_crossed : ∃ parts parts', Written "2024-03-01T08:30:00.1+09:00" parts ∧
    Written "2024-02-29T23:30:00.100Z" parts' ∧ parts.instant = parts'.instant := by
  have hlocal : parseMarketEventTimestampNanos (.text "2024-03-01T08:30:00.1+09:00") = .ok 1709249400100000000 := by
    decide +kernel
  have hutc : parseMarketEventTimestampNanos (.text "2024-02-29T23:30:00.100Z") = .ok 1709249400100000000 := by
    decide +kernel
  obtain ⟨parts, hparts, -⟩ := timestamp_nanos_exact.1 _ _ hlocal
  obtain ⟨parts', hparts', -⟩ := timestamp_nanos_exact.1 _ _ hutc
  exact ⟨parts, parts', hparts, hparts',
    (timestamp_nanos_exact.2.1 _ _ _ _ _ _ hparts hparts' hlocal hutc).1 rfl⟩

end SeeMirai.Market
