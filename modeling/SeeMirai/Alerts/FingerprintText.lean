/-
Reading an alert fingerprint back (infrastructure/telegram/message-format.ts). The message layer takes a fingerprint of
application/alerts apart at its colons and undoes the one escape the writer uses.

Results:
- `decodeFingerprintPart_normalize`: the escape of colons is undone, since a normalised part has no percent sign of its
  own.
- `fingerprint_decodes_and_separates`: every part of an alert is read back as it was normalised, and two alerts share a
  fingerprint exactly when their severities, parts and dedupe keys agree.
-/
import SeeMirai.Alerts.Dispatch
import SeeMirai.Lib.PercentEncoding

namespace SeeMirai.Alerts

open Percent

/-! ## Model -/

structure ParsedAlertFingerprint where
  environment : Option String
  runMode : Option String
  severity : Option String
  alertType : Option String
  market : Option String
  strategyId : Option String
  reasonCode : Option String
deriving DecidableEq

/-- `value?.replaceAll("%3a", ":")` -/
def decodeFingerprintPart (value : Option String) : Option String :=
  value.map fun text => String.ofList (replaceEscape '3' 'a' ':' text.toList)

def parseAlertFingerprint (fingerprint : String) : ParsedAlertFingerprint :=
  let parts := (fingerprint.toList.splitOn ':').map String.ofList
  if parts[0]? ≠ some "alert" then ⟨none, none, none, none, none, none, none⟩
  else
    { environment := decodeFingerprintPart parts[1]?
      runMode := decodeFingerprintPart parts[2]?
      severity := parts[3]?
      alertType := decodeFingerprintPart parts[4]?
      market := decodeFingerprintPart parts[5]?
      strategyId := decodeFingerprintPart parts[6]?
      reasonCode := decodeFingerprintPart parts[7]? }

/-! ## Parts -/

variable [Host]

/-- a part in lower case, with a run of other characters as one underscore -/
def normalizedPart (value : String) : String :=
  String.ofList (underscoreRuns false (Host.toLowerCase (trim value)).toList)

omit [Host] in
theorem underscoreRuns_character (inRun : Bool) (cs : List Char) :
    ∀ c ∈ underscoreRuns inRun cs, isFingerprintCharacter c := by
  induction cs generalizing inRun with
  | nil => exact fun c hc => absurd hc List.not_mem_nil
  | cons d cs ih =>
    intro c hc
    rw [underscoreRuns] at hc
    split_ifs at hc with hd hrun
    · rcases List.mem_cons.1 hc with rfl | hc
      · exact hd
      · exact ih false c hc
    · exact ih true c hc
    · rcases List.mem_cons.1 hc with rfl | hc
      · rfl
      · exact ih true c hc

omit [Host] in
/-- a text without percent signs comes back from its escaped form -/
theorem replaceEscape_escapeColon {cs : List Char} (h : '%' ∉ cs) :
    replaceEscape '3' 'a' ':' (cs.flatMap escapeColon) = cs := by
  induction cs with
  | nil => rfl
  | cons c cs ih =>
    rw [List.mem_cons, not_or] at h
    have hrest := ih h.2
    rw [List.flatMap_cons, escapeColon]
    split_ifs with hc
    · rw [hc, List.cons_append, List.cons_append, List.cons_append, List.nil_append, replaceEscape,
        if_pos ⟨rfl, rfl, rfl⟩, hrest]
    · rw [List.singleton_append, replaceEscape_plain (Ne.symm h.1), hrest]

theorem decodeFingerprintPart_normalize (value : String) :
    decodeFingerprintPart (some (normalizeFingerprintPart value)) = some (normalizedPart value) := by
  have hpercent : '%' ∉ underscoreRuns false (Host.toLowerCase (trim value)).toList :=
    fun hmem => absurd (underscoreRuns_character false _ _ hmem) (by decide)
  rw [decodeFingerprintPart, Option.map_some, normalizeFingerprintPart, String.toList_ofList,
    replaceEscape_escapeColon hpercent, normalizedPart]

theorem normalizeFingerprintPart_eq_iff {s t : String} :
    normalizeFingerprintPart s = normalizeFingerprintPart t ↔ normalizedPart s = normalizedPart t := by
  constructor
  · intro h
    have hdecoded := decodeFingerprintPart_normalize s
    rw [h, decodeFingerprintPart_normalize t] at hdecoded
    exact (Option.some.inj hdecoded).symm
  · intro h
    rw [normalizeFingerprintPart, normalizeFingerprintPart, String.ofList_injective h]

/-! ## Fingerprints -/

theorem parts_of_fingerprint (request : AlertDispatchRequest) :
    ((createAlertFingerprint request).toList.splitOn ':').map String.ofList = fingerprintParts request := by
  rw [splitOn_fingerprint, List.map_map]
  exact (List.map_congr_left fun part _ => String.ofList_toList).trans (List.map_id _)

/-- the parts that name an alert -/
def alertParts (request : AlertDispatchRequest) : List String :=
  [normalizedPart request.environment, normalizedPart request.runMode, normalizedPart request.alertType,
    normalizedPart (request.market.getD "global"), normalizedPart (request.strategyId.getD "global"),
    normalizedPart request.reasonCode]

theorem fingerprintParts_eq_iff {a b : AlertDispatchRequest} : fingerprintParts a = fingerprintParts b ↔
    a.severity.text = b.severity.text ∧ alertParts a = alertParts b ∧
      a.dedupeKey.map normalizedPart = b.dedupeKey.map normalizedPart := by
  have hkey : a.dedupeKey.toList.map normalizeFingerprintPart = b.dedupeKey.toList.map normalizeFingerprintPart ↔
      a.dedupeKey.map normalizedPart = b.dedupeKey.map normalizedPart := by
    cases a.dedupeKey with
    | none => cases b.dedupeKey <;> simp
    | some s =>
      cases b.dedupeKey with
      | none => simp
      | some t => simp [normalizeFingerprintPart_eq_iff]
  simp only [fingerprintParts, alertParts, List.cons_append, List.nil_append, List.cons.injEq, true_and,
    normalizeFingerprintPart_eq_iff, hkey, and_true]
  -- the severity stands third in the text and first in the statement
  constructor
  · rintro ⟨henvironment, hmode, hseverity, htype, hmarket, hstrategy, hreason, hdedupe⟩
    exact ⟨hseverity, ⟨henvironment, hmode, htype, hmarket, hstrategy, hreason⟩, hdedupe⟩
  · rintro ⟨hseverity, ⟨henvironment, hmode, htype, hmarket, hstrategy, hreason⟩, hdedupe⟩
    exact ⟨henvironment, hmode, hseverity, htype, hmarket, hstrategy, hreason, hdedupe⟩

/-- **Fingerprints decode and separate.** The message layer reads every part of an alert as it was normalised, and two
alerts have one fingerprint exactly when their severities, their parts and their dedupe keys agree. -/
theorem fingerprint_decodes_and_separates (a b : AlertDispatchRequest) :
    parseAlertFingerprint (createAlertFingerprint a) =
        { environment := some (normalizedPart a.environment)
          runMode := some (normalizedPart a.runMode)
          severity := some a.severity.text
          alertType := some (normalizedPart a.alertType)
          market := some (normalizedPart (a.market.getD "global"))
          strategyId := some (normalizedPart (a.strategyId.getD "global"))
          reasonCode := some (normalizedPart a.reasonCode) } ∧
      (createAlertFingerprint a = createAlertFingerprint b ↔
        a.severity = b.severity ∧ alertParts a = alertParts b ∧
          a.dedupeKey.map normalizedPart = b.dedupeKey.map normalizedPart) := by
  constructor
  · simp only [parseAlertFingerprint, parts_of_fingerprint, fingerprintParts, List.cons_append, List.getElem?_cons_zero,
      List.getElem?_cons_succ, ne_eq, not_true_eq_false, if_false, decodeFingerprintPart_normalize]
  · constructor
    · intro h
      have hparts : fingerprintParts a = fingerprintParts b := by
        rw [← parts_of_fingerprint, ← parts_of_fingerprint, h]
      exact ⟨severity_of_fingerprint h, (fingerprintParts_eq_iff.1 hparts).2⟩
    · rintro ⟨hseverity, hparts⟩
      have hall : fingerprintParts a = fingerprintParts b :=
        fingerprintParts_eq_iff.2 ⟨congrArg AlertSeverity.text hseverity, hparts⟩
      rw [createAlertFingerprint, hall, createAlertFingerprint]

end SeeMirai.Alerts
