/-
The replay order of market events (domain/market-event.ts, application/backtest/market-event-fixture.ts). Events are
ordered by time, then by sequence, tie-break key, exchange and market. Two sequences are compared as numbers where both
are digits and as texts otherwise, so which order applies depends on the pair and not on the sequence.

Results:
- `compareSequence_numeric`: two digit sequences compare as the numbers they spell, of any size.
- `replay_order_exact`: on parsed events the comparator is a total preorder that separates order keys, and events with
  unique keys replay alike from every permutation, exactly where no three events of one time have crossing sequences.
- `crossing_replay`: the sequences 2, 10 and 1a cross.
-/
import SeeMirai.Lib.TextOrder
import SeeMirai.Lib.ThrowingSort
import SeeMirai.Lib.JsonText
import SeeMirai.Shared.Decimal

namespace SeeMirai.Market

open Fallible

/-! ## Timestamps -/

/-- a `Date`, whose time is `none` where it is invalid, or a text -/
inductive EventTimestamp where
  | date (milliseconds : Option ℤ)
  | text (value : String)
deriving DecidableEq, Repr

/-- the captures of `timezoneExplicitIsoTimestampPattern` -/
structure TimestampMatch where
  year : ℕ
  month : ℕ
  day : ℕ
  hour : ℕ
  minute : ℕ
  second : ℕ
  fractionText : List Char
  /-- whether the sign is a plus, the hours and the minutes; `none` for `Z` -/
  offset : Option (Bool × ℕ × ℕ)
deriving DecidableEq, Repr

/-- `\d{width}` -/
def takeDigits (width : ℕ) (cs : List Char) : Option (ℕ × List Char) :=
  if (cs.take width).length = width ∧ (cs.take width).all Char.isDigit then
    some (digitsValue (cs.take width), cs.drop width)
  else none

def takeChar (c : Char) : List Char → Option (List Char)
  | d :: cs => if c = d then some cs else none
  | [] => none

/-- `(?:\.(\d{1,9}))?`, before something that is no digit -/
def takeFraction : List Char → Option (List Char × List Char)
  | '.' :: cs =>
    let fraction := cs.takeWhile Char.isDigit
    if 1 ≤ fraction.length ∧ fraction.length ≤ 9 then some (fraction, cs.dropWhile Char.isDigit) else none
  | cs => some ([], cs)

/-- `(?:Z|([+-])(\d{2}):(\d{2}))$` -/
def takeOffset : List Char → Option (Option (Bool × ℕ × ℕ))
  | ['Z'] => some none
  | sign :: cs => do
    if sign ≠ '+' ∧ sign ≠ '-' then none
    else do
      let (hour, cs) ← takeDigits 2 cs
      let cs ← takeChar ':' cs
      let (minute, cs) ← takeDigits 2 cs
      if cs = [] then some (some (sign = '+', hour, minute)) else none
  | [] => none

def timezoneExplicitIsoTimestampPattern (value : String) : Option TimestampMatch := do
  let (year, cs) ← takeDigits 4 value.toList
  let cs ← takeChar '-' cs
  let (month, cs) ← takeDigits 2 cs
  let cs ← takeChar '-' cs
  let (day, cs) ← takeDigits 2 cs
  let cs ← takeChar 'T' cs
  let (hour, cs) ← takeDigits 2 cs
  let cs ← takeChar ':' cs
  let (minute, cs) ← takeDigits 2 cs
  let cs ← takeChar ':' cs
  let (second, cs) ← takeDigits 2 cs
  let (fractionText, cs) ← takeFraction cs
  let offset ← takeOffset cs
  pure ⟨year, month, day, hour, minute, second, fractionText, offset⟩

/-- the day, counted from 1970-01-01, on which the month begins -/
def monthStart (year : ℤ) (month : ℕ) : ℤ :=
  let shifted := if month ≤ 2 then year - 1 else year
  let era := shifted / 400
  let yearOfEra := shifted - era * 400
  let dayOfYear := (153 * ((month + 9) % 12) + 2) / 5
  era * 146097 + yearOfEra * 365 + yearOfEra / 4 - yearOfEra / 100 + (dayOfYear : ℤ) - 719468

/-- `setUTCFullYear(year, month - 1, day)`: months and days beyond the calendar roll over -/
def setUTCFullYear (year month day : ℕ) : ℤ :=
  monthStart (year + ((month : ℤ) - 1) / 12) ((((month : ℤ) - 1) % 12).toNat + 1) + (day : ℤ) - 1

/-- the seconds of the date; parts that roll over are not its own parts and are refused -/
def createUtcSecondsFromTimestampParts (parts : TimestampMatch) (originalValue : String) : Except Thrown ℤ :=
  let seconds := setUTCFullYear parts.year parts.month parts.day * 86400 + parts.hour * 3600 + parts.minute * 60 +
    parts.second
  let (year, month, day) := civilDate (seconds / 86400)
  let rest := (seconds % 86400).toNat
  if year ≠ parts.year ∨ month ≠ parts.month ∨ day ≠ parts.day ∨ rest / 3600 ≠ parts.hour ∨
      rest / 60 % 60 ≠ parts.minute ∨ rest % 60 ≠ parts.second then
    throw ⟨"Error", "Invalid MarketEvent timestamp calendar value: " ++ originalValue⟩
  else pure seconds

/-- `fractionText.padEnd(9, "0")` as a number -/
def fractionNanos (fractionText : List Char) : ℕ := digitsValue fractionText * 10 ^ (9 - fractionText.length)

def parseTimezoneExplicitTimestampNanos (value : String) : Except Thrown ℤ :=
  match timezoneExplicitIsoTimestampPattern value with
  | none => throw ⟨"Error", "MarketEvent timestamp must include an explicit timezone: " ++ value⟩
  | some parts => do
    let (sign, offsetHour, offsetMinute) : ℤ × ℕ × ℕ :=
      match parts.offset with
      | none => (0, 0, 0)
      | some (plus, hour, minute) => (if plus then 1 else -1, hour, minute)
    if 23 < offsetHour ∨ 59 < offsetMinute then
      throw ⟨"Error", "Invalid MarketEvent timestamp timezone offset: " ++ value⟩
    let localEpochSeconds ← createUtcSecondsFromTimestampParts parts value
    let offsetSeconds := (offsetHour * 60 + offsetMinute) * 60 * sign
    pure ((localEpochSeconds - offsetSeconds) * 1000000000 + fractionNanos parts.fractionText)

def parseMarketEventTimestampNanos : EventTimestamp → Except Thrown ℤ
  | .date none => throw ⟨"Error", "Invalid MarketEvent eventTimestamp: Invalid Date"⟩
  | .date (some milliseconds) => pure (milliseconds * 1000000)
  | .text value => parseTimezoneExplicitTimestampNanos value

example : parseMarketEventTimestampNanos (.text "2026-05-19T19:00:00.1234567+09:00") = .ok 1779184800123456700 := by
  decide +kernel

example : (parseMarketEventTimestampNanos (.text "2026-02-29T00:00:00Z")).toOption = none := by decide +kernel

/-! ## Events -/

inductive MarketEventKind where
  | trade
  | orderbookSnapshot
  | orderbookMetric
  | ticker
  | policyCandidate
  | status
deriving DecidableEq, Repr

/-- an event; `body` is what the order does not read: the source, the metadata and the fields of the kind -/
structure MarketEvent (Body : Type) where
  kind : MarketEventKind
  exchangeId : String
  eventTimestamp : EventTimestamp
  sequence : String
  tieBreakKey : String
  market : Option String
  body : Body
deriving DecidableEq

variable {Body : Type}

def isUnsignedIntegerText (value : String) : Bool := value ≠ "" ∧ value.toList.all Char.isDigit

def trimLeadingZeroes (value : String) : String :=
  let trimmed := value.toList.dropWhile (· = '0')
  if trimmed = [] then "0" else String.ofList trimmed

def compareSequence (left right : String) : Ordering :=
  if left = right then .eq
  else if isUnsignedIntegerText left && isUnsignedIntegerText right then
    let normalizedLeft := trimLeadingZeroes left
    let normalizedRight := trimLeadingZeroes right
    (compare (codeUnits normalizedLeft).length (codeUnits normalizedRight).length).then
      ((compareString normalizedLeft normalizedRight).then (compareString left right))
  else compareString left right

def compareMarketEvents (left right : MarketEvent Body) : Except Thrown Ordering := do
  let leftNanos ← parseMarketEventTimestampNanos left.eventTimestamp
  let rightNanos ← parseMarketEventTimestampNanos right.eventTimestamp
  pure ((compare leftNanos rightNanos).then ((compareSequence left.sequence right.sequence).then
    ((compareString left.tieBreakKey right.tieBreakKey).then ((compareString left.exchangeId right.exchangeId).then
      (compareString (left.market.getD "*") (right.market.getD "*"))))))

def sortMarketEvents (events : List (MarketEvent Body)) : Except Thrown (List (MarketEvent Body)) :=
  stableSortM compareMarketEvents events

def createMarketEventOrderKey (event : MarketEvent Body) : Except Thrown String := do
  let nanos ← parseMarketEventTimestampNanos event.eventTimestamp
  pure (JsonText.stringify [some (Int.repr nanos), some event.exchangeId, some (event.market.getD "*"),
    some event.sequence, some event.tieBreakKey])

/-- one turn of the loop over the events, with the keys seen so far -/
def assertUnseen (seen : List String) (event : MarketEvent Body) : Except Thrown (List String) := do
  let orderKey ← createMarketEventOrderKey event
  if orderKey ∈ seen then throw ⟨"Error", "Duplicate MarketEvent order key: " ++ orderKey⟩ else pure (orderKey :: seen)

def assertUniqueMarketEventOrderKeys (events : List (MarketEvent Body)) : Except Thrown Unit := do
  let _ ← events.foldlM assertUnseen []
  pure ()

/-! ## Fixtures -/

def canParseMarketEventTimestamp (timestamp : EventTimestamp) : Bool :=
  (parseMarketEventTimestampNanos timestamp).toOption.isSome

/-- the schema of an event, with the one of its body as a parameter; only a status may be without a market -/
def MarketEventSchema (bodySchema : MarketEventKind → Body → Bool) (event : MarketEvent Body) : Bool :=
  event.exchangeId ≠ "" ∧ canParseMarketEventTimestamp event.eventTimestamp ∧ event.sequence ≠ "" ∧
    event.tieBreakKey ≠ "" ∧ (event.market = none → event.kind = .status) ∧ event.market ≠ some "" ∧
    bodySchema event.kind event.body

def parseMarketEventFixture (bodySchema : MarketEventKind → Body → Bool) (events : List (MarketEvent Body)) :
    Except Thrown (List (MarketEvent Body)) := do
  if events = [] ∨ events.all (MarketEventSchema bodySchema) = false then throw ⟨"ZodError", ""⟩
  assertUniqueMarketEventOrderKeys events
  pure events

/-! ## Sequences -/

theorem isUnsignedIntegerText_iff {s : String} :
    isUnsignedIntegerText s = true ↔ s.toList ≠ [] ∧ ∀ c ∈ s.toList, c.isDigit := by
  have hempty : s = "" ↔ s.toList = [] := by rw [← String.toList_inj]; rfl
  unfold isUnsignedIntegerText
  rw [decide_eq_true_iff, List.all_eq_true, Ne, hempty]

/-- the number that a digit sequence spells -/
def sequenceValue (s : String) : ℕ := digitsValue s.toList

theorem digitsValue_dropZeroes (cs : List Char) : digitsValue (cs.dropWhile (· = '0')) = digitsValue cs := by
  induction cs with
  | nil => rfl
  | cons c cs ih =>
    rw [List.dropWhile_cons]
    split_ifs with hzero
    · obtain rfl : c = '0' := by simpa using hzero
      rw [ih, digitsValue_cons]
      simp
    · rfl

theorem trimLeadingZeroes_spec {s : String} (h : isUnsignedIntegerText s = true) :
    (∀ c ∈ (trimLeadingZeroes s).toList, c.isDigit) ∧ Trimmed (trimLeadingZeroes s).toList ∧
      digitsValue (trimLeadingZeroes s).toList = sequenceValue s := by
  obtain ⟨-, hdigits⟩ := isUnsignedIntegerText_iff.1 h
  have hvalue := digitsValue_dropZeroes s.toList
  unfold trimLeadingZeroes sequenceValue
  dsimp only
  split_ifs with hzero
  · rw [hzero] at hvalue
    refine ⟨fun c hc => ?_, ⟨by decide, by decide⟩, hvalue⟩
    obtain rfl := List.mem_singleton.1 (show c ∈ ['0'] from hc)
    rfl
  · rw [String.toList_ofList]
    refine ⟨fun c hc => hdigits c ((List.dropWhile_sublist _).mem hc), ⟨List.length_pos_iff.2 hzero, fun _ hhead => ?_⟩, hvalue⟩
    have hnot := List.head?_dropWhile_not (fun c => decide (c = '0')) s.toList
    rw [hhead] at hnot
    simp at hnot

theorem codeUnits_length_of_digits {s : String} (h : ∀ c ∈ s.toList, c.isDigit) :
    (codeUnits s).length = s.toList.length := by
  unfold codeUnits
  rw [codeUnits_digits h, List.length_map]

/-- **Digit sequences** compare as numbers; two spellings of one number compare as texts. -/
theorem compareSequence_numeric {p q : String} (hp : isUnsignedIntegerText p = true) (hq : isUnsignedIntegerText q = true) :
    compareSequence p q = (compare (sequenceValue p) (sequenceValue q)).then (compareString p q) := by
  unfold compareSequence
  split_ifs with heq hnumeric
  · rw [heq, Nat.compare_eq_eq.2 rfl]
    exact (compareString_eq.2 rfl).symm
  · obtain ⟨hpdigits, hptrimmed, hpvalue⟩ := trimLeadingZeroes_spec hp
    obtain ⟨hqdigits, hqtrimmed, hqvalue⟩ := trimLeadingZeroes_spec hq
    have hcompare := compare_digits hpdigits hqdigits hptrimmed hqtrimmed
    rw [String.ofList_toList, String.ofList_toList, hpvalue, hqvalue] at hcompare
    dsimp only
    rw [codeUnits_length_of_digits hpdigits, codeUnits_length_of_digits hqdigits, ← hcompare, Ordering.then_assoc]
  · simp [hp, hq] at hnumeric

theorem compareSequence_text {p q : String} (h : ¬ (isUnsignedIntegerText p = true ∧ isUnsignedIntegerText q = true)) :
    compareSequence p q = compareString p q := by
  unfold compareSequence
  split_ifs with heq hnumeric
  · exact (compareString_eq.2 heq).symm
  · exact absurd (by simpa using hnumeric) h
  · rfl

@[simp] theorem compareSequence_eq {p q : String} : compareSequence p q = .eq ↔ p = q := by
  by_cases h : isUnsignedIntegerText p = true ∧ isUnsignedIntegerText q = true
  · rw [compareSequence_numeric h.1 h.2, Ordering.then_eq_eq, compareString_eq]
    exact ⟨And.right, fun heq => ⟨by rw [heq, Nat.compare_eq_eq.2 rfl], heq⟩⟩
  · rw [compareSequence_text h, compareString_eq]

theorem compareSequence_swap (p q : String) : compareSequence p q = (compareSequence q p).swap := by
  by_cases h : isUnsignedIntegerText p = true ∧ isUnsignedIntegerText q = true
  · rw [compareSequence_numeric h.1 h.2, compareSequence_numeric h.2 h.1, Ordering.swap_then,
      Nat.compare_swap, ← compareString_swap]
  · rw [compareSequence_text h, compareSequence_text fun h' => h h'.symm]
    exact compareString_swap p q

/-- two digit sequences in numeric order, with a third sequence between them in the order of texts -/
structure CrossingSequences (p q r : String) : Prop where
  left : isUnsignedIntegerText p = true
  right : isUnsignedIntegerText q = true
  middle : isUnsignedIntegerText r = false
  numeric : sequenceValue p < sequenceValue q
  after : compareString q r = .lt
  before : compareString r p = .lt

/-- comparing by value and then as texts -/
theorem numeric_trans : Std.TransCmp (fun p q => (compare (sequenceValue p) (sequenceValue q)).then (compareString p q)) :=
  transCmp_then (transCmp_on (inferInstanceAs (Std.TransOrd ℕ)) sequenceValue) compareString_trans

theorem text_lt_of_not {p q : String} (hne : p ≠ q) (h : compareString p q ≠ .lt) : compareString q p = .lt := by
  rw [compareString_swap]
  cases hcompare : compareString p q with
  | lt => exact absurd hcompare h
  | eq => exact absurd (compareString_eq.1 hcompare) hne
  | gt => rfl

theorem CrossingSequences.of_cycle {p q r : String} (hp : isUnsignedIntegerText p = true)
    (hq : isUnsignedIntegerText q = true) (hr : isUnsignedIntegerText r = false) (hpq : compareSequence p q = .lt)
    (hqr : compareString q r = .lt) (hrp : compareString r p = .lt) : CrossingSequences p q r := by
  refine ⟨hp, hq, hr, ?_, hqr, hrp⟩
  have hqp : compareString q p = .lt := Std.TransCmp.lt_trans hqr hrp
  rw [compareSequence_numeric hp hq] at hpq
  rcases Ordering.then_eq_lt.1 hpq with hvalue | ⟨-, htext⟩
  · exact Nat.compare_eq_lt.1 hvalue
  · -- as texts they are the other way round
    rw [compareString_swap, hqp] at htext
    cases htext

theorem CrossingSequences.cycle {p q r : String} (h : CrossingSequences p q r) :
    compareSequence p q = .lt ∧ compareSequence q r = .lt ∧ compareSequence r p = .lt := by
  refine ⟨?_, ?_, ?_⟩
  · rw [compareSequence_numeric h.left h.right, Nat.compare_eq_lt.2 h.numeric]
    rfl
  · rw [compareSequence_text (by simp [h.middle])]
    exact h.after
  · rw [compareSequence_text (by simp [h.middle])]
    exact h.before

/-- **Three sequences** compare as an order where no two of them enclose the third the wrong way round. -/
theorem compareSequence_composes {p q r : String} (hpqr : ¬ CrossingSequences p q r) (hrpq : ¬ CrossingSequences r p q)
    (hqrp : ¬ CrossingSequences q r p) :
    Composes (compareSequence p q) (compareSequence q r) (compareSequence p r) := by
  have hne : ∀ {s t : String}, isUnsignedIntegerText s = true → isUnsignedIntegerText t = false → s ≠ t := by
    intro s t hs ht heq
    rw [heq, ht] at hs
    cases hs
  cases hp : isUnsignedIntegerText p with
  | true =>
    cases hq : isUnsignedIntegerText q with
    | true =>
      cases hr : isUnsignedIntegerText r with
      | true =>
        rw [compareSequence_numeric hp hq, compareSequence_numeric hq hr, compareSequence_numeric hp hr]
        exact Composes.of_trans numeric_trans p q r
      | false =>
        rw [compareSequence_text (p := q) (by simp [hr]), compareSequence_text (p := p) (q := r) (by simp [hr])]
        refine ⟨fun hpq => ?_, fun hqr => ?_, fun hpq hqr => ?_⟩
        · rw [compareSequence_eq.1 hpq]
        · exact absurd (compareString_eq.1 hqr) (hne hq hr)
        · by_contra hpr
          exact hpqr (CrossingSequences.of_cycle hp hq hr hpq hqr (text_lt_of_not (hne hp hr) hpr))
    | false =>
      cases hr : isUnsignedIntegerText r with
      | true =>
        rw [compareSequence_text (q := q) (by simp [hq]), compareSequence_text (p := q) (by simp [hq])]
        refine ⟨fun hpq => ?_, fun hqr => ?_, fun hpq hqr => ?_⟩
        · exact absurd (compareString_eq.1 hpq) (hne hp hq)
        · exact absurd (compareString_eq.1 hqr).symm (hne hr hq)
        · by_contra hpr
          refine hrpq (CrossingSequences.of_cycle hr hp hq ?_ hpq hqr)
          rw [compareSequence_swap]
          cases hcompare : compareSequence p r with
          | lt => exact absurd hcompare hpr
          | eq =>
            rw [compareSequence_eq.1 hcompare, compareString_swap, hqr] at hpq
            cases hpq
          | gt => rfl
      | false =>
        rw [compareSequence_text (by simp [hq]), compareSequence_text (by simp [hq]), compareSequence_text (by simp [hr])]
        exact Composes.of_trans compareString_trans p q r
  | false =>
    rw [compareSequence_text (p := p) (q := q) (by simp [hp]), compareSequence_text (p := p) (q := r) (by simp [hp])]
    by_cases hboth : isUnsignedIntegerText q = true ∧ isUnsignedIntegerText r = true
    · obtain ⟨hq, hr⟩ := hboth
      refine ⟨fun hpq => ?_, fun hqr => ?_, fun hpq hqr => ?_⟩
      · exact absurd (compareString_eq.1 hpq).symm (hne hq hp)
      · rw [compareSequence_eq.1 hqr]
      · by_contra hpr
        exact hqrp (CrossingSequences.of_cycle hq hr hp hqr (text_lt_of_not (hne hr hp).symm hpr) hpq)
    · rw [compareSequence_text hboth]
      exact Composes.of_trans compareString_trans p q r

/-! ## Keys -/

/-- what the order reads of an event -/
structure ReplayKey where
  nanos : ℤ
  sequence : String
  tieBreakKey : String
  exchangeId : String
  market : String
deriving DecidableEq

/-- the time of a parsed event -/
def MarketEvent.nanos (event : MarketEvent Body) : ℤ :=
  (parseMarketEventTimestampNanos event.eventTimestamp).toOption.getD 0

def MarketEvent.replayKey (event : MarketEvent Body) : ReplayKey :=
  ⟨event.nanos, event.sequence, event.tieBreakKey, event.exchangeId, event.market.getD "*"⟩

def compareTies (left right : ReplayKey) : Ordering :=
  (compareString left.tieBreakKey right.tieBreakKey).then ((compareString left.exchangeId right.exchangeId).then
    (compareString left.market right.market))

def compareKeys (left right : ReplayKey) : Ordering :=
  (compare left.nanos right.nanos).then ((compareSequence left.sequence right.sequence).then (compareTies left right))

theorem compareTies_trans : Std.TransCmp compareTies :=
  transCmp_then (transCmp_on compareString_trans ReplayKey.tieBreakKey)
    (transCmp_then (transCmp_on compareString_trans ReplayKey.exchangeId)
      (transCmp_on compareString_trans ReplayKey.market))

theorem compareKeys_swap (left right : ReplayKey) : compareKeys left right = (compareKeys right left).swap := by
  have hties : compareTies left right = (compareTies right left).swap := compareTies_trans.eq_swap
  unfold compareKeys
  rw [Ordering.swap_then, Ordering.swap_then, ← hties, ← compareSequence_swap, ← Std.OrientedOrd.eq_swap]

theorem compareKeys_eq {left right : ReplayKey} : compareKeys left right = .eq ↔ left = right := by
  obtain ⟨nanos, sequence, tieBreakKey, exchangeId, market⟩ := left
  obtain ⟨nanos', sequence', tieBreakKey', exchangeId', market'⟩ := right
  simp only [compareKeys, compareTies, Ordering.then_eq_eq, compareSequence_eq, compareString_eq, compare_eq_iff_eq,
    ReplayKey.mk.injEq]

theorem compareKeys_composes {a b c : ReplayKey}
    (h : a.nanos = b.nanos → b.nanos = c.nanos → Composes (compareSequence a.sequence b.sequence)
      (compareSequence b.sequence c.sequence) (compareSequence a.sequence c.sequence)) :
    Composes (compareKeys a b) (compareKeys b c) (compareKeys a c) := by
  refine (Composes.of_trans (inferInstanceAs (Std.TransOrd ℤ)) a.nanos b.nanos c.nanos).then_of fun hab hbc => ?_
  rw [compare_eq_iff_eq] at hab hbc
  exact (h hab hbc).then_of fun _ _ => Composes.of_trans compareTies_trans a b c

/-! ## Parsed events -/

/-- the event's time reads -/
def Parsed (event : MarketEvent Body) : Prop := parseMarketEventTimestampNanos event.eventTimestamp = .ok event.nanos

theorem parsed_of_schema {bodySchema : MarketEventKind → Body → Bool} {event : MarketEvent Body}
    (h : MarketEventSchema bodySchema event = true) : Parsed event := by
  obtain ⟨-, htime, -⟩ := of_decide_eq_true h
  obtain ⟨nanos, hnanos⟩ := exists_ok htime
  unfold Parsed MarketEvent.nanos
  rw [hnanos]
  rfl

theorem compareMarketEvents_parsed {left right : MarketEvent Body} (hleft : Parsed left) (hright : Parsed right) :
    compareMarketEvents left right = .ok (compareKeys left.replayKey right.replayKey) := by
  unfold Parsed at hleft hright
  unfold compareMarketEvents
  rw [hleft, ok_bind, hright, ok_bind]
  rfl

/-- **Order keys** name what the order reads, and nothing else. -/
theorem createMarketEventOrderKey_parsed {event : MarketEvent Body} (h : Parsed event) :
    createMarketEventOrderKey event = .ok (JsonText.stringify [some (Int.repr event.replayKey.nanos),
      some event.replayKey.exchangeId, some event.replayKey.market, some event.replayKey.sequence,
      some event.replayKey.tieBreakKey]) := by
  unfold Parsed at h
  unfold createMarketEventOrderKey
  rw [h, ok_bind]
  rfl

theorem createMarketEventOrderKey_inj {left right : MarketEvent Body} (hleft : Parsed left) (hright : Parsed right) :
    createMarketEventOrderKey left = createMarketEventOrderKey right ↔ left.replayKey = right.replayKey := by
  rw [createMarketEventOrderKey_parsed hleft, createMarketEventOrderKey_parsed hright, Except.ok.injEq]
  refine ⟨fun h => ?_, fun h => by rw [h]⟩
  have hparts := JsonText.stringify_injective h
  simp only [List.cons.injEq, Option.some.injEq, and_true] at hparts
  obtain ⟨hnanos, hexchange, hmarket, hsequence, htie⟩ := hparts
  have hnanos := Int.repr_injective hnanos
  revert hnanos hexchange hmarket hsequence htie
  cases left.replayKey
  cases right.replayKey
  rintro rfl rfl rfl rfl rfl
  rfl

/-- unique keys separate the events -/
theorem unique_of_assert {events : List (MarketEvent Body)} (h : assertUniqueMarketEventOrderKeys events = .ok ()) :
    events.Pairwise fun a b => createMarketEventOrderKey a ≠ createMarketEventOrderKey b := by
  obtain ⟨seen, hseen, -⟩ := bind_eq_ok.1 h
  suffices hall : ∀ (rest : List (MarketEvent Body)) (seen seen' : List String), rest.foldlM assertUnseen seen = .ok seen' →
      (∀ e ∈ rest, ∀ key ∈ seen, createMarketEventOrderKey e ≠ .ok key) ∧
      rest.Pairwise fun a b => createMarketEventOrderKey a ≠ createMarketEventOrderKey b from (hall events [] seen hseen).2
  intro rest
  induction rest with
  | nil => exact fun seen seen' _ => ⟨by simp, List.Pairwise.nil⟩
  | cons e rest ih =>
    intro seen seen' hfold
    rw [List.foldlM_cons] at hfold
    obtain ⟨next, hstep, hfold⟩ := bind_eq_ok.1 hfold
    obtain ⟨key, hkey, hstep⟩ := bind_eq_ok.1 hstep
    split at hstep
    · cases hstep
    · rename_i hmem
      obtain rfl := pure_eq_ok.1 hstep
      obtain ⟨hfresh, hpairwise⟩ := ih _ _ hfold
      refine ⟨?_, List.Pairwise.cons (fun b hb => ?_) hpairwise⟩
      · intro a ha k hk
        rcases List.mem_cons.1 ha with rfl | ha
        · rw [hkey]
          intro heq
          cases heq
          exact hmem hk
        · exact hfresh a ha k (List.mem_cons_of_mem _ hk)
      · rw [hkey]
        exact (hfresh b hb key (by simp)).symm

/-! ## The replay order -/

/-- the comparator is a total preorder of the events, and answers 0 only for equal order keys -/
structure OrdersEvents (events : List (MarketEvent Body)) : Prop where
  swap : ∀ a ∈ events, ∀ b ∈ events, ∃ order, compareMarketEvents a b = .ok order ∧
    compareMarketEvents b a = .ok order.swap
  trans : ∀ a ∈ events, ∀ b ∈ events, ∀ c ∈ events, ∀ ab bc ac, compareMarketEvents a b = .ok ab →
    compareMarketEvents b c = .ok bc → compareMarketEvents a c = .ok ac → ab.isLE → bc.isLE → ac.isLE
  separates : ∀ a ∈ events, ∀ b ∈ events, compareMarketEvents a b = .ok .eq ↔
    createMarketEventOrderKey a = createMarketEventOrderKey b

/-- events that are accepted replay alike from every order in which they are given -/
def ReplaysAlike (events : List (MarketEvent Body)) : Prop :=
  assertUniqueMarketEventOrderKeys events = .ok () → ∀ permuted, events.Perm permuted →
    ∃ stream, sortMarketEvents events = .ok stream ∧ sortMarketEvents permuted = .ok stream

/-- three events of one time have crossing sequences -/
def Crossing (events : List (MarketEvent Body)) : Prop :=
  ∃ a ∈ events, ∃ b ∈ events, ∃ c ∈ events, a.nanos = b.nanos ∧ b.nanos = c.nanos ∧
    CrossingSequences a.sequence b.sequence c.sequence

theorem composes_of_not_crossing {events : List (MarketEvent Body)} (h : ¬ Crossing events) {a b c : MarketEvent Body}
    (ha : a ∈ events) (hb : b ∈ events) (hc : c ∈ events) :
    Composes (compareKeys a.replayKey b.replayKey) (compareKeys b.replayKey c.replayKey)
      (compareKeys a.replayKey c.replayKey) := by
  refine compareKeys_composes fun hab hbc => compareSequence_composes ?_ ?_ ?_
  · exact fun hcross => h ⟨a, ha, b, hb, c, hc, hab, hbc, hcross⟩
  · exact fun hcross => h ⟨c, hc, a, ha, b, hb, (hab.trans hbc).symm, hab, hcross⟩
  · exact fun hcross => h ⟨b, hb, c, hc, a, ha, hbc, (hab.trans hbc).symm, hcross⟩

theorem ordersEvents_of_not_crossing {events : List (MarketEvent Body)} (hparsed : ∀ e ∈ events, Parsed e)
    (h : ¬ Crossing events) : OrdersEvents events := by
  refine ⟨?_, ?_, ?_⟩
  · intro a ha b hb
    refine ⟨_, compareMarketEvents_parsed (hparsed a ha) (hparsed b hb), ?_⟩
    rw [compareMarketEvents_parsed (hparsed b hb) (hparsed a ha), compareKeys_swap]
  · intro a ha b hb c hc ab bc ac hab hbc hac
    rw [compareMarketEvents_parsed (hparsed a ha) (hparsed b hb)] at hab
    rw [compareMarketEvents_parsed (hparsed b hb) (hparsed c hc)] at hbc
    rw [compareMarketEvents_parsed (hparsed a ha) (hparsed c hc)] at hac
    cases hab
    cases hbc
    cases hac
    exact (composes_of_not_crossing h ha hb hc).isLE
  · intro a ha b hb
    rw [compareMarketEvents_parsed (hparsed a ha) (hparsed b hb), Except.ok.injEq, compareKeys_eq,
      createMarketEventOrderKey_inj (hparsed a ha) (hparsed b hb)]

theorem replaysAlike_of_not_crossing {events : List (MarketEvent Body)} (hparsed : ∀ e ∈ events, Parsed e)
    (h : ¬ Crossing events) : ReplaysAlike events := by
  intro hunique permuted hperm
  have hsort : ∀ xs : List (MarketEvent Body), (∀ e ∈ xs, Parsed e) →
      sortMarketEvents xs = .ok (stableSort (fun a b => compareKeys a.replayKey b.replayKey) xs) :=
    fun xs hxs => stableSortM_eq fun a ha b hb => compareMarketEvents_parsed (hxs a ha) (hxs b hb)
  refine ⟨_, hsort events hparsed, ?_⟩
  rw [hsort permuted fun e he => hparsed e (hperm.mem_iff.2 he)]
  refine congrArg Except.ok (stableSort_eq_of_perm_on hperm ?_ ?_ ?_).symm
  · exact fun a _ b _ => compareKeys_swap _ _
  · exact fun a ha b hb c hc => (composes_of_not_crossing h ha hb hc).isLE
  · -- two elements with one key are one element of the list
    intro a ha b hb heq
    by_contra hne
    have hsymm : Std.Symm fun a b : MarketEvent Body => createMarketEventOrderKey a ≠ createMarketEventOrderKey b :=
      ⟨fun _ _ hxy => hxy.symm⟩
    have hkeys : createMarketEventOrderKey a = createMarketEventOrderKey b :=
      (createMarketEventOrderKey_inj (hparsed a ha) (hparsed b hb)).2 (compareKeys_eq.1 heq)
    exact (unique_of_assert hunique).forall ha hb hne hkeys

theorem Crossing.not_orders {events : List (MarketEvent Body)} (hparsed : ∀ e ∈ events, Parsed e)
    (h : Crossing events) : ¬ OrdersEvents events := by
  obtain ⟨a, ha, b, hb, c, hc, hab, hbc, hcross⟩ := h
  obtain ⟨hpq, hqr, hrp⟩ := hcross.cycle
  have hlt : ∀ {x y : MarketEvent Body}, x.nanos = y.nanos → compareSequence x.sequence y.sequence = .lt →
      compareKeys x.replayKey y.replayKey = .lt := by
    intro x y htime hsequence
    unfold compareKeys MarketEvent.replayKey
    dsimp only
    rw [htime, hsequence, compare_eq_iff_eq.2 rfl]
    rfl
  have hac : compareKeys a.replayKey c.replayKey = .gt := by
    rw [compareKeys_swap, hlt (hab.trans hbc).symm hrp]
    rfl
  intro horders
  have hle := horders.trans a ha b hb c hc _ _ _ (compareMarketEvents_parsed (hparsed a ha) (hparsed b hb))
    (compareMarketEvents_parsed (hparsed b hb) (hparsed c hc)) (compareMarketEvents_parsed (hparsed a ha) (hparsed c hc))
  rw [hlt hab hpq, hlt hbc hqr, hac] at hle
  exact absurd (hle rfl rfl) (by decide)

/-- **Replay order.** On parsed events the comparator is a total preorder, 0 only for equal order keys, and accepted
events replay alike from every permutation, exactly where no three events of one time have crossing sequences. -/
theorem replay_order_exact (bodySchema : MarketEventKind → Body → Bool) (events : List (MarketEvent Body))
    (hschema : ∀ e ∈ events, MarketEventSchema bodySchema e = true) :
    OrdersEvents events ∧ ReplaysAlike events ↔ ¬ Crossing events := by
  have hparsed : ∀ e ∈ events, Parsed e := fun e he => parsed_of_schema (hschema e he)
  refine ⟨fun h hcross => hcross.not_orders hparsed h.1, fun h => ⟨?_, ?_⟩⟩
  · exact ordersEvents_of_not_crossing hparsed h
  · exact replaysAlike_of_not_crossing hparsed h

/-- what a fixture that is accepted satisfies -/
theorem parseMarketEventFixture_accepted {bodySchema : MarketEventKind → Body → Bool} {events fixture : List (MarketEvent Body)}
    (h : parseMarketEventFixture bodySchema events = .ok fixture) :
    fixture = events ∧ (∀ e ∈ events, MarketEventSchema bodySchema e = true) ∧
      assertUniqueMarketEventOrderKeys events = .ok () := by
  unfold parseMarketEventFixture at h
  split_ifs at h with hschema
  · cases h
  · obtain ⟨⟨⟩, hunique, h⟩ := bind_eq_ok.1 h
    obtain rfl := pure_eq_ok.1 h
    simp only [not_or, Bool.not_eq_false, List.all_eq_true] at hschema
    exact ⟨rfl, hschema.2, hunique⟩

/-- a fixture that is accepted and has no crossing sequences replays alike -/
theorem fixture_replays_alike {bodySchema : MarketEventKind → Body → Bool} {events fixture : List (MarketEvent Body)}
    (h : parseMarketEventFixture bodySchema events = .ok fixture) (hcross : ¬ Crossing events) (permuted : List (MarketEvent Body))
    (hperm : events.Perm permuted) :
    ∃ stream, sortMarketEvents fixture = .ok stream ∧ sortMarketEvents permuted = .ok stream := by
  obtain ⟨rfl, hschema, hunique⟩ := parseMarketEventFixture_accepted h
  exact replaysAlike_of_not_crossing (fun e he => parsed_of_schema (hschema e he)) hcross hunique permuted hperm

/-! ## Sample events -/

/-- a trade at one time, with this sequence -/
def sampleTrade (sequence : String) : MarketEvent Unit where
  kind := .trade
  exchangeId := "upbit"
  eventTimestamp := .text "2026-05-19T10:00:00Z"
  sequence := sequence
  tieBreakKey := "t"
  market := some "KRW-BTC"
  body := ()

/-- digits only -/
theorem numeric_replay :
    (∀ e ∈ [sampleTrade "10", sampleTrade "2"], MarketEventSchema (fun _ _ => true) e = true) ∧
      OrdersEvents [sampleTrade "10", sampleTrade "2"] ∧ ReplaysAlike [sampleTrade "10", sampleTrade "2"] := by
  have hschema : ∀ e ∈ [sampleTrade "10", sampleTrade "2"], MarketEventSchema (fun _ _ => true) e = true := by
    decide +kernel
  refine ⟨hschema, (replay_order_exact (fun _ _ => true) _ hschema).2 ?_⟩
  intro hcross
  obtain ⟨a, -, b, -, c, hc, -, -, hsequences⟩ := hcross
  have hnumeric : ∀ e ∈ [sampleTrade "10", sampleTrade "2"], isUnsignedIntegerText e.sequence = true := by decide +kernel
  have hmiddle := hsequences.middle
  rw [hnumeric c hc] at hmiddle
  cases hmiddle

/-- **Crossing sequences.** 2 is before 10 as a number, 10 before 1a and 1a before 2 as texts; an accepted fixture with
the three replays differently from two orders. -/
theorem crossing_replay :
    (parseMarketEventFixture (fun _ _ => true) [sampleTrade "2", sampleTrade "10", sampleTrade "1a"]).toOption.isSome ∧
      ¬ (OrdersEvents [sampleTrade "2", sampleTrade "10", sampleTrade "1a"] ∧
        ReplaysAlike [sampleTrade "2", sampleTrade "10", sampleTrade "1a"]) ∧
      (sortMarketEvents [sampleTrade "2", sampleTrade "10", sampleTrade "1a"]).toOption ≠
        (sortMarketEvents [sampleTrade "10", sampleTrade "1a", sampleTrade "2"]).toOption := by
  refine ⟨by decide +kernel, ?_, by decide +kernel⟩
  intro h
  refine Crossing.not_orders ?_ ?_ h.1
  · have hschema : ∀ e ∈ [sampleTrade "2", sampleTrade "10", sampleTrade "1a"],
        MarketEventSchema (fun _ _ => true) e = true := by
      decide +kernel
    exact fun e he => parsed_of_schema (hschema e he)
  · refine ⟨sampleTrade "2", by simp, sampleTrade "10", by simp, sampleTrade "1a", by simp, rfl, rfl, ?_⟩
    exact ⟨by decide +kernel, by decide +kernel, by decide +kernel, by decide +kernel, by decide +kernel, by decide +kernel⟩

end SeeMirai.Market
