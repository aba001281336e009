/-
The two cooldown stores side by side. One call is made to both; they agree if the table accepts it with the answer the
map gives, if they show the same states afterwards, and if no record moves back in time.

They do not agree on every run. The map takes the time of a sent record as it comes, the table keeps the later of two;
the map knows only the cooldown of the severity, the table goes by the one in the call; and the table refuses blank
names. `Fits` says when none of this shows.

Results:
- `agree_iff`: on equal states the stores agree on a call exactly if it fits.
- `stores_agree_iff`: they agree throughout a run exactly if every call of it fits.
- `stores_disagree`: a sent record that arrives late.
-/
import SeeMirai.Alerts.Cooldown

namespace SeeMirai.Alerts

open Postgres

/-! ## Model: runs of calls -/

inductive CooldownCall where
  | reserve (input : AlertCooldownReservationInput)
  | release (input : AlertCooldownReleaseInput)
  | sent (input : AlertCooldownRecordInput)
  | skipped (input : AlertCooldownRecordInput)

inductive CooldownAnswer where
  | reservation (result : AlertCooldownReservationResult)
  | state (state : AlertCooldownState)

def Memory.perform (states : Memory.States) : CooldownCall → CooldownAnswer × Memory.States
  | .reserve input => ((Memory.reserveDelivery states input).1 |> .reservation, (Memory.reserveDelivery states input).2)
  | .release input =>
    (.state (Memory.releaseDeliveryReservation states input).1, (Memory.releaseDeliveryReservation states input).2)
  | .sent input => (.state (Memory.recordSent states input).1, (Memory.recordSent states input).2)
  | .skipped input => (.state (Memory.recordSkipped states input).1, (Memory.recordSkipped states input).2)

def Postgres.perform (table : AlertCooldowns) : CooldownCall → Except StoreError CooldownAnswer × AlertCooldowns
  | .reserve input => ((reserveAlertDelivery table input).1.map .reservation, (reserveAlertDelivery table input).2)
  | .release input =>
    ((releaseAlertDeliveryReservation table input).1.map .state, (releaseAlertDeliveryReservation table input).2)
  | .sent input => ((Postgres.recordSent table input).1.map .state, (Postgres.recordSent table input).2)
  | .skipped input =>
    ((recordAlertCooldownSkipped table input).1.map .state, (recordAlertCooldownSkipped table input).2)

/-- the states a table shows -/
def view (table : AlertCooldowns) : Memory.States := fun fingerprint => (table fingerprint).map toAlertCooldownState

/-- a record that is kept or moved forward -/
def Kept (before after : Option ℤ) : Prop := ∀ t, before = some t → ∃ t', after = some t' ∧ t ≤ t'

def lastSentAt (states : Memory.States) (fingerprint : String) : Option ℤ :=
  (states fingerprint).bind AlertCooldownState.lastSentAt

def lastSkippedAt (states : Memory.States) (fingerprint : String) : Option ℤ :=
  (states fingerprint).bind AlertCooldownState.lastSkippedAt

def NeverDecreases (before after : Memory.States) : Prop :=
  ∀ fingerprint, Kept (lastSentAt before fingerprint) (lastSentAt after fingerprint) ∧
    Kept (lastSkippedAt before fingerprint) (lastSkippedAt after fingerprint)

/-- the stores treat a call alike -/
structure Agree (states : Memory.States) (table : AlertCooldowns) (call : CooldownCall) : Prop where
  answer : (Postgres.perform table call).1 = .ok (Memory.perform states call).1
  shown : (Memory.perform states call).2 = view (Postgres.perform table call).2
  memoryKeeps : NeverDecreases states (Memory.perform states call).2
  postgresKeeps : NeverDecreases (view table) (view (Postgres.perform table call).2)

def AgreeThroughout (states : Memory.States) (table : AlertCooldowns) : List CooldownCall → Prop
  | [] => True
  | call :: calls =>
    Agree states table call ∧ AgreeThroughout (Memory.perform states call).2 (Postgres.perform table call).2 calls

/-! ## When a call fits -/

/-- names the table accepts -/
def Named (input : AlertCooldownRecordInput) : Prop := (toAlertCooldownRowInput input ⟨none, none, none⟩).checks = true

/-- the cooldown of the call and the one of the severity give one verdict on the last sent record -/
def SameVerdict (input : AlertCooldownReservationInput) (state : AlertCooldownState) : Prop :=
  (∃ reserved, state.deliveryReservedUntil = some reserved ∧ input.occurredAt < reserved) ∨
    ∀ sent, state.lastSentAt = some sent →
      (input.occurredAt < sent + getDefaultAlertCooldownMs input.severity ↔ input.occurredAt < sent + input.cooldownMs)

def Fits (states : Memory.States) : CooldownCall → Prop
  | .reserve input => Named input.toAlertCooldownRecordInput ∧ ∀ state, states input.fingerprint = some state →
      SameVerdict input state
  | .release input => (∃ state, states input.fingerprint = some state ∧
      state.deliveryReservedUntil = some input.reservedUntil) → Named input.toAlertCooldownRecordInput
  | .sent input => Named input ∧ ∀ state, states input.fingerprint = some state →
      ∀ sent, state.lastSentAt = some sent → sent ≤ input.occurredAt
  | .skipped input => Named input

def FitThroughout (states : Memory.States) : List CooldownCall → Prop
  | [] => True
  | call :: calls => Fits states call ∧ FitThroughout (Memory.perform states call).2 calls

/-! ## The statements -/

theorem kept_refl (record : Option ℤ) : Kept record record := fun t h => ⟨t, h, le_refl t⟩

theorem view_update (table : AlertCooldowns) (fingerprint : String) (row : AlertCooldownRow) :
    view (Function.update table fingerprint (some row)) =
      Function.update (view table) fingerprint (some (toAlertCooldownState row)) := by
  funext key
  by_cases hkey : key = fingerprint
  · subst hkey
    simp [view]
  · simp [view, hkey]

theorem neverDecreases_refl (states : Memory.States) : NeverDecreases states states :=
  fun _ => ⟨kept_refl _, kept_refl _⟩

theorem neverDecreases_update {states : Memory.States} {fingerprint : String} {state : AlertCooldownState}
    (hsent : Kept (lastSentAt states fingerprint) state.lastSentAt)
    (hskipped : Kept (lastSkippedAt states fingerprint) state.lastSkippedAt) :
    NeverDecreases states (Function.update states fingerprint (some state)) := by
  intro key
  by_cases hkey : key = fingerprint
  · subst hkey
    simpa [lastSentAt, lastSkippedAt] using ⟨hsent, hskipped⟩
  · simpa [lastSentAt, lastSkippedAt, hkey] using ⟨kept_refl _, kept_refl _⟩

/-- the names alone decide the row checks -/
theorem checks_eq (input : AlertCooldownRecordInput) (timestamps : Timestamps) :
    (toAlertCooldownRowInput input timestamps).checks = (toAlertCooldownRowInput input ⟨none, none, none⟩).checks := rfl

theorem write_of_checks {table : AlertCooldowns} {row : AlertCooldownRow} (h : row.checks = true) :
    write table row = (.ok (some row), Function.update table row.fingerprint (some row)) := by
  rw [write, if_pos h]

/-- the row an upsert leaves -/
def landed (existing : Option AlertCooldownRow) (excluded : AlertCooldownRow)
    (merge : AlertCooldownRow → AlertCooldownRow) : AlertCooldownRow := existing.elim excluded merge

/-- an upsert of a named row, on a row that meets its condition or on none -/
theorem insertOnConflict_of_checks {table : AlertCooldowns} {excluded : AlertCooldownRow}
    {condition : AlertCooldownRow → Bool} {merge : AlertCooldownRow → AlertCooldownRow} (h : excluded.checks = true)
    (hmerge : ∀ existing, (merge existing).checks = excluded.checks)
    (hkey : ∀ existing, (merge existing).fingerprint = excluded.fingerprint)
    (hcondition : (table excluded.fingerprint).all condition = true) :
    insertOnConflict table excluded condition merge =
      (.ok (some (landed (table excluded.fingerprint) excluded merge)),
        Function.update table excluded.fingerprint (some (landed (table excluded.fingerprint) excluded merge))) := by
  rw [insertOnConflict, if_neg (by simp [h])]
  cases hrow : table excluded.fingerprint with
  | none => exact write_of_checks h
  | some existing =>
    rw [hrow] at hcondition
    simp only [Option.all_some] at hcondition
    simp only [hcondition, if_true]
    rw [write_of_checks ((hmerge existing).trans h), hkey existing]
    rfl

theorem insertOnConflict_of_blank {table : AlertCooldowns} {excluded : AlertCooldownRow}
    {condition : AlertCooldownRow → Bool} {merge : AlertCooldownRow → AlertCooldownRow} (h : excluded.checks = false) :
    insertOnConflict table excluded condition merge = (.error .checkViolation, table) := by
  rw [insertOnConflict, if_pos h]

/-! ## One call -/

variable {table : AlertCooldowns}

/-- both stores write one state -/
theorem agree_of_write {call : CooldownCall} {answer : CooldownAnswer} (fingerprint : String) (row : AlertCooldownRow)
    (hmemory : Memory.perform (view table) call =
      (answer, Function.update (view table) fingerprint (some (toAlertCooldownState row))))
    (hpostgres : Postgres.perform table call = (.ok answer, Function.update table fingerprint (some row)))
    (hsent : Kept (lastSentAt (view table) fingerprint) row.lastSentAt)
    (hskipped : Kept (lastSkippedAt (view table) fingerprint) row.lastSkippedAt) : Agree (view table) table call := by
  have hkeeps : NeverDecreases (view table)
      (Function.update (view table) fingerprint (some (toAlertCooldownState row))) :=
    neverDecreases_update hsent hskipped
  constructor
  · rw [hmemory, hpostgres]
  · rw [hmemory, hpostgres, view_update]
  · rw [hmemory]
    exact hkeeps
  · rw [hpostgres, view_update]
    exact hkeeps

/-- neither store writes -/
theorem agree_of_read {call : CooldownCall} (answer : CooldownAnswer)
    (hmemory : Memory.perform (view table) call = (answer, view table))
    (hpostgres : Postgres.perform table call = (.ok answer, table)) : Agree (view table) table call := by
  constructor
  · rw [hmemory, hpostgres]
  · rw [hmemory, hpostgres]
  · rw [hmemory]
    exact neverDecreases_refl _
  · rw [hpostgres]
    exact neverDecreases_refl _

theorem not_agree_of_error {call : CooldownCall} (error : StoreError)
    (hpostgres : (Postgres.perform table call).1 = .error error) : ¬ Agree (view table) table call := by
  intro h
  have hanswer := h.answer
  rw [hpostgres] at hanswer
  cases hanswer

theorem greatest_coalesce (existing : Option ℤ) (time : ℤ) :
    greatest (coalesce existing (some time)) (some time) = some (max (existing.getD time) time) := by
  cases existing <;> rfl

theorem latestTimestamp_eq (current : Option ℤ) (next : ℤ) :
    Memory.latestTimestamp current next = max (current.getD next) next := by
  cases current with
  | none => simp [Memory.latestTimestamp]
  | some time =>
    simp only [Memory.latestTimestamp, Option.getD_some]
    split <;> omega

theorem kept_max {record : Option ℤ} {time : ℤ} : Kept record (some (max (record.getD time) time)) := by
  intro t h
  refine ⟨_, rfl, ?_⟩
  rw [h]
  exact le_max_left _ _

/-- the two records of a row that an upsert may leave there -/
theorem kept_landed {fingerprint : String} {excluded : AlertCooldownRow} {merge : AlertCooldownRow → AlertCooldownRow}
    {record : AlertCooldownState → Option ℤ}
    (h : ∀ existing, table fingerprint = some existing →
      Kept (record (toAlertCooldownState existing)) (record (toAlertCooldownState (merge existing)))) :
    Kept ((view table fingerprint).bind record)
      (record (toAlertCooldownState (landed (table fingerprint) excluded merge))) := by
  rw [view]
  cases hrow : table fingerprint with
  | none =>
    intro t ht
    cases ht
  | some existing => exact h existing hrow

/-! Skip records: both keep the later time. -/

def skippedRow (input : AlertCooldownRecordInput) : AlertCooldownRow :=
  toAlertCooldownRowInput input ⟨none, some input.occurredAt, none⟩

theorem agree_skipped (input : AlertCooldownRecordInput) : Agree (view table) table (.skipped input) ↔ Named input := by
  constructor
  · intro h
    by_contra hnamed
    have hblank : (skippedRow input).checks = false := Bool.eq_false_iff.2 hnamed
    refine not_agree_of_error .checkViolation ?_ h
    simp only [Postgres.perform, recordAlertCooldownSkipped]
    rw [show toAlertCooldownRowInput input _ = skippedRow input from rfl, insertOnConflict_of_blank hblank]
    rfl
  · intro hnamed
    have hstatement : insertOnConflict table (skippedRow input) (fun _ => true) (skipMerge (skippedRow input)) = _ :=
      insertOnConflict_of_checks hnamed (fun _ => rfl) (fun _ => rfl) (by cases table _ <;> rfl)
    let row := landed (table input.fingerprint) (skippedRow input) (skipMerge (skippedRow input))
    have hpostgres : Postgres.perform table (.skipped input) =
        (.ok (.state (toAlertCooldownState row)), Function.update table input.fingerprint (some row)) := by
      simp only [Postgres.perform, recordAlertCooldownSkipped]
      rw [show toAlertCooldownRowInput input _ = skippedRow input from rfl, hstatement]
      rfl
    refine agree_of_write input.fingerprint row ?_ hpostgres ?_ ?_
    · simp only [Memory.perform, Memory.recordSkipped, latestTimestamp_eq, view, row]
      cases table input.fingerprint with
      | none => simp [landed, skippedRow, toAlertCooldownRowInput, toAlertCooldownState, toCooldownState]
      | some existing =>
        simp [landed, skippedRow, toAlertCooldownRowInput, toAlertCooldownState, toCooldownState, skipMerge,
          greatest_coalesce]
    · exact kept_landed fun existing _ => kept_refl _
    · refine kept_landed fun existing _ => ?_
      simp only [toAlertCooldownState, skipMerge, skippedRow, toAlertCooldownRowInput, greatest_coalesce]
      exact kept_max

/-! Sent records: the map takes the time as it comes, so it must not be older than the one it has. -/

def sentRow (input : AlertCooldownRecordInput) : AlertCooldownRow :=
  toAlertCooldownRowInput input ⟨some input.occurredAt, none, none⟩

theorem agree_sent (input : AlertCooldownRecordInput) :
    Agree (view table) table (.sent input) ↔ Fits (view table) (.sent input) := by
  constructor
  · intro h
    constructor
    · by_contra hnamed
      have hblank : (sentRow input).checks = false := Bool.eq_false_iff.2 hnamed
      refine not_agree_of_error .checkViolation ?_ h
      simp only [Postgres.perform, Postgres.recordSent, upsertAlertCooldown]
      rw [show toAlertCooldownRowInput input _ = sentRow input from rfl, insertOnConflict_of_blank hblank]
      rfl
    · intro state hstate sent hsent
      obtain ⟨time, htime, hle⟩ := (h.memoryKeeps input.fingerprint).1 sent (by simp [lastSentAt, hstate, hsent])
      -- the map now has the time of the call
      have hnow : time = input.occurredAt := by
        simpa [Memory.perform, Memory.recordSent, lastSentAt, toCooldownState] using htime.symm
      exact hnow ▸ hle
  · intro hfits
    obtain ⟨hnamed, horder⟩ := hfits
    have hstatement : insertOnConflict table (sentRow input) (fun _ => true) (upsertMerge (sentRow input)) = _ :=
      insertOnConflict_of_checks hnamed (fun _ => rfl) (fun _ => rfl) (by cases table _ <;> rfl)
    let row := landed (table input.fingerprint) (sentRow input) (upsertMerge (sentRow input))
    have hpostgres : Postgres.perform table (.sent input) =
        (.ok (.state (toAlertCooldownState row)), Function.update table input.fingerprint (some row)) := by
      simp only [Postgres.perform, Postgres.recordSent, upsertAlertCooldown]
      rw [show toAlertCooldownRowInput input _ = sentRow input from rfl, hstatement]
      rfl
    have hlatest : ∀ existing, table input.fingerprint = some existing →
        max (existing.lastSentAt.getD input.occurredAt) input.occurredAt = input.occurredAt := by
      intro existing hrow
      cases hsent : existing.lastSentAt with
      | none => simp
      | some sent => exact max_eq_right (horder (toAlertCooldownState existing) (by simp [view, hrow]) sent hsent)
    refine agree_of_write input.fingerprint row ?_ hpostgres ?_ ?_
    · simp only [Memory.perform, Memory.recordSent, view, row]
      cases hrow : table input.fingerprint with
      | none => simp [landed, sentRow, toAlertCooldownRowInput, toAlertCooldownState, toCooldownState]
      | some existing =>
        simp [landed, sentRow, toAlertCooldownRowInput, toAlertCooldownState, toCooldownState, upsertMerge,
          greatest_coalesce, hlatest existing hrow]
    · refine kept_landed fun existing _ => ?_
      simp only [toAlertCooldownState, upsertMerge, sentRow, toAlertCooldownRowInput, greatest_coalesce,
        Option.isNone_some, Bool.false_eq_true, if_false]
      exact kept_max
    · exact kept_landed fun existing _ => kept_refl _

/-! Releases: only a lease that is there is released, and only a release writes. -/

def releasedRow (input : AlertCooldownReleaseInput) (existing : AlertCooldownRow) : AlertCooldownRow :=
  releaseSet (toAlertCooldownRowInput input.toAlertCooldownRecordInput ⟨none, none, none⟩) existing

theorem agree_release (input : AlertCooldownReleaseInput) :
    Agree (view table) table (.release input) ↔ Fits (view table) (.release input) := by
  cases hrow : table input.fingerprint with
  | none =>
    have hagree : Agree (view table) table (.release input) := by
      refine agree_of_read (.state (toReleasedCooldownState input)) ?_ ?_
      · simp [Memory.perform, Memory.releaseDeliveryReservation, view, hrow, toReleasedCooldownState]
      · simp only [Postgres.perform, releaseAlertDeliveryReservation, hrow]
        rfl
    exact ⟨fun _ h => by simp [view, hrow] at h, fun _ => hagree⟩
  | some existing =>
    by_cases hlease : existing.deliveryReservedUntil = some input.reservedUntil
    · have hwritten : ∀ outcome, write table (releasedRow input existing) = outcome →
          releaseAlertDeliveryReservation table input =
            (outcome.1.map fun _ => toAlertCooldownState (releasedRow input existing), outcome.2) := by
        rintro ⟨result, after⟩ hwrite
        simp only [releaseAlertDeliveryReservation, hrow, hlease, if_true]
        cases result with
        | ok row =>
          rw [releasedRow] at hwrite
          rw [hwrite]
          rfl
        | error e =>
          rw [releasedRow] at hwrite
          rw [hwrite]
          rfl
      constructor
      · intro h _
        by_contra hnamed
        have hblank : (releasedRow input existing).checks = false := Bool.eq_false_iff.2 hnamed
        have hrejected : write table (releasedRow input existing) = (.error .checkViolation, table) := by
          rw [write, hblank]
          rfl
        refine not_agree_of_error .checkViolation ?_ h
        simp only [Postgres.perform, hwritten _ hrejected]
        rfl
      · intro hfits
        have hchecks : (releasedRow input existing).checks = true :=
          hfits ⟨toAlertCooldownState existing, by simp [view, hrow], hlease⟩
        have hpostgres : Postgres.perform table (.release input) =
            (.ok (.state (toAlertCooldownState (releasedRow input existing))),
              Function.update table input.fingerprint (some (releasedRow input existing))) := by
          simp only [Postgres.perform, hwritten _ (write_of_checks hchecks)]
          rfl
        refine agree_of_write input.fingerprint _ ?_ hpostgres ?_ ?_
        · simp [Memory.perform, Memory.releaseDeliveryReservation, view, hrow, hlease, toAlertCooldownState,
            toCooldownState, releasedRow, releaseSet, toAlertCooldownRowInput]
        · simp only [lastSentAt, view, hrow]
          exact kept_refl _
        · simp only [lastSkippedAt, view, hrow]
          exact kept_refl _
    · have hagree : Agree (view table) table (.release input) := by
        refine agree_of_read (.state (toAlertCooldownState existing)) ?_ ?_
        · simp [Memory.perform, Memory.releaseDeliveryReservation, view, hrow, hlease, toAlertCooldownState]
        · simp only [Postgres.perform, releaseAlertDeliveryReservation, hrow, hlease, if_false]
          rfl
      refine ⟨fun _ h => ?_, fun _ => hagree⟩
      obtain ⟨state, hstate, hreserved⟩ := h
      have hshown : state = toAlertCooldownState existing := by simpa [view, hrow] using hstate.symm
      subst hshown
      exact absurd hreserved hlease

/-! Reservations: the two conditions are one where the cooldown of the call is as good as the severity's. -/

def reservedRow (input : AlertCooldownReservationInput) : AlertCooldownRow :=
  toAlertCooldownRowInput input.toAlertCooldownRecordInput ⟨none, none, some input.reserveUntil⟩

theorem isDeliveryBlocked_iff {state : AlertCooldownState} {severity : AlertSeverity} {now : ℤ} :
    isDeliveryBlocked state severity now = true ↔
      (∃ sent, state.lastSentAt = some sent ∧ now < sent + getDefaultAlertCooldownMs severity) ∨
        ∃ reserved, state.deliveryReservedUntil = some reserved ∧ now < reserved := by
  rw [isDeliveryBlocked, describeBlockedDelivery]
  cases state.lastSentAt with
  | none =>
    cases state.deliveryReservedUntil with
    | none => simp
    | some reserved => by_cases h : now < reserved <;> simp [Option.filter, h]
  | some sent =>
    by_cases hsent : now < sent + getDefaultAlertCooldownMs severity
    · simp [Option.filter, hsent]
    · cases state.deliveryReservedUntil with
      | none => simp [Option.filter, hsent]
      | some reserved => by_cases h : now < reserved <;> simp [Option.filter, hsent, h]

theorem isReservable_iff {input : AlertCooldownReservationInput} {row : AlertCooldownRow} :
    isReservable input row = true ↔
      (∀ sent, row.lastSentAt = some sent → ¬ input.occurredAt < sent + input.cooldownMs) ∧
        ∀ reserved, row.deliveryReservedUntil = some reserved → ¬ input.occurredAt < reserved := by
  simp only [isReservable, Bool.and_eq_true, Option.all_eq_true, decide_eq_true_eq, not_lt]
  constructor
  · intro h
    exact ⟨fun sent hs => by have := h.1 sent hs; omega, h.2⟩
  · intro h
    exact ⟨fun sent hs => by have := h.1 sent hs; omega, h.2⟩

theorem sameVerdict_iff {input : AlertCooldownReservationInput} {row : AlertCooldownRow} :
    SameVerdict input (toAlertCooldownState row) ↔
      (isDeliveryBlocked (toAlertCooldownState row) input.severity input.occurredAt = true ↔
        ¬ isReservable input row = true) := by
  rw [isDeliveryBlocked_iff, isReservable_iff, SameVerdict]
  simp only [toAlertCooldownState]
  by_cases hlease : ∃ reserved, row.deliveryReservedUntil = some reserved ∧ input.occurredAt < reserved
  · obtain ⟨reserved, hreserved, hlt⟩ := hlease
    refine ⟨fun _ => ⟨fun _ h => h.2 reserved hreserved hlt, fun _ => Or.inr ⟨reserved, hreserved, hlt⟩⟩,
      fun _ => Or.inl ⟨reserved, hreserved, hlt⟩⟩
  · have hfree : ∀ reserved, row.deliveryReservedUntil = some reserved → ¬ input.occurredAt < reserved :=
      fun reserved hreserved hlt => hlease ⟨reserved, hreserved, hlt⟩
    cases row.lastSentAt with
    | none => simp [hlease]
    | some sent =>
      simp only [Option.some.injEq, exists_eq_left', forall_eq']
      tauto

/-- the row a reservation leaves -/
def leasedRow (table : AlertCooldowns) (input : AlertCooldownReservationInput) : AlertCooldownRow :=
  landed (table input.fingerprint) (reservedRow input) (reserveMerge (reservedRow input))

theorem postgres_reserves (input : AlertCooldownReservationInput) (hnamed : Named input.toAlertCooldownRecordInput)
    (hfree : (table input.fingerprint).all (isReservable input) = true) :
    Postgres.perform table (.reserve input) =
      (.ok (.reservation ⟨true, toAlertCooldownState (leasedRow table input)⟩),
        Function.update table input.fingerprint (some (leasedRow table input))) := by
  have hstatement : insertOnConflict table (reservedRow input) (isReservable input)
      (reserveMerge (reservedRow input)) = _ := insertOnConflict_of_checks hnamed (fun _ => rfl) (fun _ => rfl) hfree
  simp only [Postgres.perform, reserveAlertDelivery]
  rw [show toAlertCooldownRowInput input.toAlertCooldownRecordInput _ = reservedRow input from rfl, hstatement]
  rfl

theorem postgres_refuses (input : AlertCooldownReservationInput) (hnamed : Named input.toAlertCooldownRecordInput)
    {existing : AlertCooldownRow} (hrow : table input.fingerprint = some existing)
    (htaken : isReservable input existing = false) :
    Postgres.perform table (.reserve input) = (.ok (.reservation ⟨false, toAlertCooldownState existing⟩), table) := by
  have hchecks : (reservedRow input).checks = true := hnamed
  have hkey : table (reservedRow input).fingerprint = some existing := hrow
  have hstatement : insertOnConflict table (reservedRow input) (isReservable input) (reserveMerge (reservedRow input)) =
      (.ok none, table) := by
    rw [insertOnConflict, if_neg (by simp [hchecks]), hkey]
    simp [htaken]
  simp only [Postgres.perform, reserveAlertDelivery]
  rw [show toAlertCooldownRowInput input.toAlertCooldownRecordInput _ = reservedRow input from rfl, hstatement]
  simp only [hrow]
  rfl

theorem memory_reserves (input : AlertCooldownReservationInput)
    (hfree : ∀ existing, table input.fingerprint = some existing →
      isDeliveryBlocked (toAlertCooldownState existing) input.severity input.occurredAt = false) :
    Memory.perform (view table) (.reserve input) =
      (.reservation ⟨true, toAlertCooldownState (leasedRow table input)⟩,
        Function.update (view table) input.fingerprint (some (toAlertCooldownState (leasedRow table input)))) := by
  simp only [Memory.perform, Memory.reserveDelivery, view, leasedRow]
  cases hrow : table input.fingerprint with
  | none => simp [landed, reservedRow, toAlertCooldownRowInput, toAlertCooldownState, toCooldownState]
  | some existing =>
    have hblocked := hfree existing hrow
    simp only [Option.map_some, Option.filter, hblocked, Bool.false_eq_true, if_false]
    simp [landed, reservedRow, toAlertCooldownRowInput, toAlertCooldownState, toCooldownState, reserveMerge]

theorem memory_refuses (input : AlertCooldownReservationInput) {existing : AlertCooldownRow}
    (hrow : table input.fingerprint = some existing)
    (hblocked : isDeliveryBlocked (toAlertCooldownState existing) input.severity input.occurredAt = true) :
    Memory.perform (view table) (.reserve input) =
      (.reservation ⟨false, toAlertCooldownState existing⟩, view table) := by
  simp [Memory.perform, Memory.reserveDelivery, view, hrow, Option.filter, hblocked]

theorem agree_reserve (input : AlertCooldownReservationInput) :
    Agree (view table) table (.reserve input) ↔ Fits (view table) (.reserve input) := by
  constructor
  · intro h
    have hnamed : Named input.toAlertCooldownRecordInput := by
      by_contra hnamed
      have hblank : (reservedRow input).checks = false := Bool.eq_false_iff.2 hnamed
      refine not_agree_of_error .checkViolation ?_ h
      simp only [Postgres.perform, reserveAlertDelivery]
      rw [show toAlertCooldownRowInput input.toAlertCooldownRecordInput _ = reservedRow input from rfl,
        insertOnConflict_of_blank hblank]
      rfl
    refine ⟨hnamed, fun state hstate => ?_⟩
    obtain ⟨existing, hrow, rfl⟩ := Option.map_eq_some_iff.1 hstate
    have hanswer := h.answer
    rw [sameVerdict_iff]
    -- two different verdicts would be two different answers
    cases hblocked : isDeliveryBlocked (toAlertCooldownState existing) input.severity input.occurredAt with
    | true =>
      cases hreservable : isReservable input existing with
      | false => simp
      | true =>
        rw [memory_refuses input hrow hblocked, postgres_reserves input hnamed (by simp [hrow, hreservable])] at hanswer
        simp at hanswer
    | false =>
      cases hreservable : isReservable input existing with
      | true => simp
      | false =>
        have hfree : ∀ row, table input.fingerprint = some row →
            isDeliveryBlocked (toAlertCooldownState row) input.severity input.occurredAt = false := by
          intro row hrow'
          rw [hrow] at hrow'
          exact Option.some.inj hrow' ▸ hblocked
        rw [memory_reserves input hfree, postgres_refuses input hnamed hrow hreservable] at hanswer
        simp at hanswer
  · intro hfits
    obtain ⟨hnamed, hverdict⟩ := hfits
    have hwrite : (∀ existing, table input.fingerprint = some existing →
        isDeliveryBlocked (toAlertCooldownState existing) input.severity input.occurredAt = false) →
        (table input.fingerprint).all (isReservable input) = true → Agree (view table) table (.reserve input) := by
      intro hfree hreservable
      exact agree_of_write input.fingerprint _ (memory_reserves input hfree)
        (postgres_reserves input hnamed hreservable) (kept_landed fun existing _ => kept_refl _)
        (kept_landed fun existing _ => kept_refl _)
    cases hrow : table input.fingerprint with
    | none => exact hwrite (fun existing h => by rw [hrow] at h; cases h) (by simp [hrow])
    | some existing =>
      have hsame := sameVerdict_iff.1 (hverdict (toAlertCooldownState existing) (by simp [view, hrow]))
      cases hblocked : isDeliveryBlocked (toAlertCooldownState existing) input.severity input.occurredAt with
      | true =>
        have hreservable : isReservable input existing = false := by simpa using hsame.1 hblocked
        exact agree_of_read _ (memory_refuses input hrow hblocked) (postgres_refuses input hnamed hrow hreservable)
      | false =>
        have hreservable : isReservable input existing = true := by
          by_contra hnot
          rw [hsame.2 hnot] at hblocked
          cases hblocked
        refine hwrite (fun row hrow' => ?_) (by simp [hrow, hreservable])
        rw [hrow] at hrow'
        exact Option.some.inj hrow' ▸ hblocked

/-! ## Runs -/

/-- on equal states the stores agree on a call exactly if it fits -/
theorem agree_iff (call : CooldownCall) : Agree (view table) table call ↔ Fits (view table) call := by
  cases call with
  | reserve input => exact agree_reserve input
  | release input => exact agree_release input
  | sent input => exact agree_sent input
  | skipped input => exact agree_skipped input

theorem agreeThroughout_iff (calls : List CooldownCall) (table : AlertCooldowns) :
    AgreeThroughout (view table) table calls ↔ FitThroughout (view table) calls := by
  induction calls generalizing table with
  | nil => exact Iff.rfl
  | cons call calls ih =>
    simp only [AgreeThroughout, FitThroughout, agree_iff call]
    refine and_congr_right fun hfits => ?_
    have hagree := (agree_iff call).2 hfits
    rw [hagree.shown]
    exact ih _

/-- **The cooldown stores agree exactly on fitting runs.** From empty stores, each call is answered alike, leaves the
same states and moves no record back, throughout a run, if and only if every call of it fits the states it finds. -/
theorem stores_agree_iff (calls : List CooldownCall) :
    AgreeThroughout (fun _ => none) (fun _ => none) calls ↔ FitThroughout (fun _ => none) calls :=
  agreeThroughout_iff calls fun _ => none

/-! Two dispatches of one alert: the send of the first one is recorded after the send of the second. -/

def lateInput (time : ℤ) : AlertCooldownRecordInput where
  fingerprint := "alert:prod:live:P1:db_lag:global:global:lag"
  severity := .p1
  alertType := "db_lag"
  market := none
  strategyId := none
  reasonCode := "lag"
  occurredAt := time
  payloadJson := none

theorem stores_disagree :
    ¬ AgreeThroughout (fun _ => none) (fun _ => none) [.sent (lateInput 20), .sent (lateInput 10)] := by
  rw [stores_agree_iff]
  intro h
  have horder := h.2.1.2 _ rfl 20 rfl
  simp [lateInput] at horder

end SeeMirai.Alerts
