/-
Alert cooldown stores. A store keeps, for each alert fingerprint, when the alert was last sent, when it was last
skipped, and until when a dispatch has reserved its delivery. There are two: a map in the memory of the process
(`createInMemoryAlertCooldownStore`, application/alerts/index.ts) and a table (infrastructure/db/alert-cooldown.ts over
migrations/000008_alert_cooldowns.sql). Points in time are milliseconds.

The table is a function of its primary key, and a statement works on the one row its fingerprint names. A statement is
refused where the new row breaks a check of the table; the map has no checks. `created_at` is never read and left out.
-/
import SeeMirai.Lib.JsValue

namespace SeeMirai.Alerts

/-! ## Model: alerts and their cooldown -/

inductive AlertSeverity where
  | p0
  | p1
  | p2
  | p3
deriving DecidableEq, Repr

def getDefaultAlertCooldownMs : AlertSeverity → ℤ
  | .p0 => 60000
  | .p1 => 5 * 60000
  | .p2 => 60 * 60000
  | .p3 => 6 * 60 * 60000

structure AlertCooldownState where
  fingerprint : String
  severity : AlertSeverity
  alertType : String
  market : Option String
  strategyId : Option String
  reasonCode : String
  lastSentAt : Option ℤ
  lastSkippedAt : Option ℤ
  deliveryReservedUntil : Option ℤ
  payloadJson : JsonRecord

structure AlertCooldownRecordInput where
  fingerprint : String
  severity : AlertSeverity
  alertType : String
  market : Option String
  strategyId : Option String
  reasonCode : String
  occurredAt : ℤ
  payloadJson : Option JsonRecord

structure AlertCooldownReleaseInput extends AlertCooldownRecordInput where
  reservedUntil : ℤ

structure AlertCooldownReservationInput extends AlertCooldownRecordInput where
  cooldownMs : ℤ
  reserveUntil : ℤ

structure AlertCooldownReservationResult where
  reserved : Bool
  state : AlertCooldownState

inductive SkippedReason where
  | alertCooldownActive
  | alertDeliveryReserved
deriving DecidableEq, Repr

def SkippedReason.code : SkippedReason → String
  | alertCooldownActive => "alert_cooldown_active"
  | alertDeliveryReserved => "alert_delivery_reserved"

/-- why a delivery is blocked, and until when -/
def describeBlockedDelivery (state : AlertCooldownState) (severity : AlertSeverity) (occurredAt : ℤ) :
    Option (SkippedReason × ℤ) :=
  match state.lastSentAt.filter (fun sent => occurredAt < sent + getDefaultAlertCooldownMs severity) with
  | some sent => some (.alertCooldownActive, sent + getDefaultAlertCooldownMs severity)
  | none =>
    match state.deliveryReservedUntil.filter (fun reserved => occurredAt < reserved) with
    | some reserved => some (.alertDeliveryReserved, reserved)
    | none => none

def isDeliveryBlocked (state : AlertCooldownState) (severity : AlertSeverity) (occurredAt : ℤ) : Bool :=
  (describeBlockedDelivery state severity occurredAt).isSome

def toCooldownState (input : AlertCooldownRecordInput) (lastSentAt lastSkippedAt deliveryReservedUntil : Option ℤ) :
    AlertCooldownState where
  fingerprint := input.fingerprint
  severity := input.severity
  alertType := input.alertType
  market := input.market
  strategyId := input.strategyId
  reasonCode := input.reasonCode
  lastSentAt := lastSentAt
  lastSkippedAt := lastSkippedAt
  deliveryReservedUntil := deliveryReservedUntil
  payloadJson := input.payloadJson.getD []

/-! ## Model: the store in memory -/

namespace Memory

/-- `Map<string, AlertCooldownState>` -/
abbrev States := String → Option AlertCooldownState

def latestTimestamp (current : Option ℤ) (next : ℤ) : ℤ :=
  match current with
  | none => next
  | some current => if next ≤ current then current else next

def reserveDelivery (states : States) (input : AlertCooldownReservationInput) :
    AlertCooldownReservationResult × States :=
  let previous := states input.fingerprint
  match previous.filter (fun state => isDeliveryBlocked state input.severity input.occurredAt) with
  | some blocked => (⟨false, blocked⟩, states)
  | none =>
    let state := toCooldownState input.toAlertCooldownRecordInput (previous.bind AlertCooldownState.lastSentAt)
      (previous.bind AlertCooldownState.lastSkippedAt) (some input.reserveUntil)
    (⟨true, state⟩, Function.update states input.fingerprint (some state))

def releaseDeliveryReservation (states : States) (input : AlertCooldownReleaseInput) : AlertCooldownState × States :=
  match states input.fingerprint with
  | none => (toCooldownState input.toAlertCooldownRecordInput none none none, states)
  | some previous =>
    if previous.deliveryReservedUntil ≠ some input.reservedUntil then (previous, states)
    else
      let state := toCooldownState input.toAlertCooldownRecordInput previous.lastSentAt previous.lastSkippedAt none
      (state, Function.update states input.fingerprint (some state))

def recordSent (states : States) (input : AlertCooldownRecordInput) : AlertCooldownState × States :=
  let previous := states input.fingerprint
  let state := toCooldownState input (some input.occurredAt) (previous.bind AlertCooldownState.lastSkippedAt) none
  (state, Function.update states input.fingerprint (some state))

def recordSkipped (states : States) (input : AlertCooldownRecordInput) : AlertCooldownState × States :=
  let previous := states input.fingerprint
  let state := toCooldownState input (previous.bind AlertCooldownState.lastSentAt)
    (some (latestTimestamp (previous.bind AlertCooldownState.lastSkippedAt) input.occurredAt))
    (previous.bind AlertCooldownState.deliveryReservedUntil)
  (state, Function.update states input.fingerprint (some state))

end Memory

/-! ## Model: the store in the database -/

namespace Postgres

/-- a row of `alert_cooldowns` -/
structure AlertCooldownRow where
  fingerprint : String
  severity : AlertSeverity
  alertType : String
  market : Option String
  strategyId : Option String
  reasonCode : String
  lastSentAt : Option ℤ
  lastSkippedAt : Option ℤ
  deliveryReservedUntil : Option ℤ
  payloadJson : JsonRecord
  updatedAt : ℤ

abbrev AlertCooldowns := String → Option AlertCooldownRow

inductive StoreError where
  /-- a row check failed -/
  | checkViolation
  | upsertWithoutRow
  | rowNotFound
deriving DecidableEq, Repr

/-- `btrim(text) <> ''` -/
def isNotBlank (text : String) : Bool := text.toList.any fun c => c != ' '

def AlertCooldownRow.checks (row : AlertCooldownRow) : Bool :=
  isNotBlank row.fingerprint && isNotBlank row.alertType && row.market.all isNotBlank &&
    row.strategyId.all isNotBlank && isNotBlank row.reasonCode

def coalesce (a b : Option ℤ) : Option ℤ := a.or b

/-- `GREATEST`, which passes over NULL -/
def greatest : Option ℤ → Option ℤ → Option ℤ
  | some a, some b => some (max a b)
  | some a, none => some a
  | none, b => b

structure Timestamps where
  lastSentAt : Option ℤ
  lastSkippedAt : Option ℤ
  deliveryReservedUntil : Option ℤ

def toAlertCooldownRowInput (input : AlertCooldownRecordInput) (timestamps : Timestamps) : AlertCooldownRow where
  fingerprint := input.fingerprint
  severity := input.severity
  alertType := input.alertType
  market := input.market
  strategyId := input.strategyId
  reasonCode := input.reasonCode
  lastSentAt := timestamps.lastSentAt
  lastSkippedAt := timestamps.lastSkippedAt
  deliveryReservedUntil := timestamps.deliveryReservedUntil
  payloadJson := input.payloadJson.getD []
  updatedAt := input.occurredAt

def toAlertCooldownState (row : AlertCooldownRow) : AlertCooldownState where
  fingerprint := row.fingerprint
  severity := row.severity
  alertType := row.alertType
  market := row.market
  strategyId := row.strategyId
  reasonCode := row.reasonCode
  lastSentAt := row.lastSentAt
  lastSkippedAt := row.lastSkippedAt
  deliveryReservedUntil := row.deliveryReservedUntil
  payloadJson := row.payloadJson

/-- a row written in its place, if it passes the checks -/
def write (table : AlertCooldowns) (row : AlertCooldownRow) :
    Except StoreError (Option AlertCooldownRow) × AlertCooldowns :=
  if row.checks then (.ok (some row), Function.update table row.fingerprint (some row))
  else (.error .checkViolation, table)

/-- `INSERT … ON CONFLICT (fingerprint) DO UPDATE SET … WHERE … RETURNING *`; the row to insert is checked first -/
def insertOnConflict (table : AlertCooldowns) (excluded : AlertCooldownRow) (condition : AlertCooldownRow → Bool)
    (merge : AlertCooldownRow → AlertCooldownRow) : Except StoreError (Option AlertCooldownRow) × AlertCooldowns :=
  if excluded.checks = false then (.error .checkViolation, table)
  else match table excluded.fingerprint with
    | none => write table excluded
    | some existing => if condition existing then write table (merge existing) else (.ok none, table)

/-- DO UPDATE of the upsert -/
def upsertMerge (excluded existing : AlertCooldownRow) : AlertCooldownRow :=
  { excluded with
    lastSentAt := if excluded.lastSentAt.isNone then existing.lastSentAt
      else greatest (coalesce existing.lastSentAt excluded.lastSentAt) excluded.lastSentAt
    lastSkippedAt := if excluded.lastSkippedAt.isNone then existing.lastSkippedAt
      else greatest (coalesce existing.lastSkippedAt excluded.lastSkippedAt) excluded.lastSkippedAt
    updatedAt := max existing.updatedAt excluded.updatedAt }

def upsertAlertCooldown (table : AlertCooldowns) (input : AlertCooldownRecordInput) (timestamps : Timestamps) :
    Except StoreError AlertCooldownState × AlertCooldowns :=
  let row := toAlertCooldownRowInput input timestamps
  match insertOnConflict table row (fun _ => true) (upsertMerge row) with
  | (.ok (some record), after) => (.ok (toAlertCooldownState record), after)
  | (.ok none, after) => (.error .upsertWithoutRow, after)
  | (.error e, after) => (.error e, after)

def recordSent (table : AlertCooldowns) (input : AlertCooldownRecordInput) :
    Except StoreError AlertCooldownState × AlertCooldowns :=
  upsertAlertCooldown table input ⟨some input.occurredAt, none, none⟩

/-- WHERE of the reservation -/
def isReservable (input : AlertCooldownReservationInput) (existing : AlertCooldownRow) : Bool :=
  let cooldownCutoff := input.occurredAt - input.cooldownMs
  existing.lastSentAt.all (fun sent => decide (sent ≤ cooldownCutoff)) &&
    existing.deliveryReservedUntil.all (fun reserved => decide (reserved ≤ input.occurredAt))

/-- DO UPDATE of the reservation, which leaves the two records alone -/
def reserveMerge (excluded existing : AlertCooldownRow) : AlertCooldownRow :=
  { excluded with lastSentAt := existing.lastSentAt, lastSkippedAt := existing.lastSkippedAt }

def reserveAlertDelivery (table : AlertCooldowns) (input : AlertCooldownReservationInput) :
    Except StoreError AlertCooldownReservationResult × AlertCooldowns :=
  let row := toAlertCooldownRowInput input.toAlertCooldownRecordInput ⟨none, none, some input.reserveUntil⟩
  match insertOnConflict table row (isReservable input) (reserveMerge row) with
  | (.ok (some record), after) => (.ok ⟨true, toAlertCooldownState record⟩, after)
  | (.ok none, after) =>
    match after input.fingerprint with
    | some record => (.ok ⟨false, toAlertCooldownState record⟩, after)
    | none => (.error .rowNotFound, after)
  | (.error e, after) => (.error e, after)

def toReleasedCooldownState (input : AlertCooldownReleaseInput) : AlertCooldownState :=
  toCooldownState input.toAlertCooldownRecordInput none none none

/-- SET of the release -/
def releaseSet (row existing : AlertCooldownRow) : AlertCooldownRow :=
  { row with
    lastSentAt := existing.lastSentAt
    lastSkippedAt := existing.lastSkippedAt
    deliveryReservedUntil := none
    updatedAt := max existing.updatedAt row.updatedAt }

def releaseAlertDeliveryReservation (table : AlertCooldowns) (input : AlertCooldownReleaseInput) :
    Except StoreError AlertCooldownState × AlertCooldowns :=
  let row := toAlertCooldownRowInput input.toAlertCooldownRecordInput ⟨none, none, none⟩
  match table input.fingerprint with
  | none => (.ok (toReleasedCooldownState input), table)
  | some existing =>
    if existing.deliveryReservedUntil = some input.reservedUntil then
      match write table (releaseSet row existing) with
      | (.ok _, after) => (.ok (toAlertCooldownState (releaseSet row existing)), after)
      | (.error e, after) => (.error e, after)
    else (.ok (toAlertCooldownState existing), table)

/-- DO UPDATE of the skip record, which leaves the sent record and the lease alone -/
def skipMerge (excluded existing : AlertCooldownRow) : AlertCooldownRow :=
  { excluded with
    lastSentAt := existing.lastSentAt
    lastSkippedAt := greatest (coalesce existing.lastSkippedAt excluded.lastSkippedAt) excluded.lastSkippedAt
    deliveryReservedUntil := existing.deliveryReservedUntil }

def recordAlertCooldownSkipped (table : AlertCooldowns) (input : AlertCooldownRecordInput) :
    Except StoreError AlertCooldownState × AlertCooldowns :=
  let row := toAlertCooldownRowInput input ⟨none, some input.occurredAt, none⟩
  match insertOnConflict table row (fun _ => true) (skipMerge row) with
  | (.ok (some record), after) => (.ok (toAlertCooldownState record), after)
  | (.ok none, after) => (.error .rowNotFound, after)
  | (.error e, after) => (.error e, after)

end Postgres

end SeeMirai.Alerts
