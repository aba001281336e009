/-
Tables whose rows change under guarded statements. An update names the rows it takes by a condition and what becomes of
them; the rows it returns are the changed ones. A row check refuses the whole statement when one changed row fails it.

- `mem_updateWhere`: where the rows after an update come from.
- `map_updateWhere`: a column that the update keeps is the same list of values.
- `forall_updateWhere`: a row invariant survives if the change keeps it on the rows taken.
- `returning_eq_nil`: an update that returns nothing changed nothing.
-/
import Mathlib

namespace SeeMirai.Table

variable {ρ κ : Type*} {picked : ρ → Bool} {change : ρ → ρ} {rows : List ρ}

/-- the rows an update returns, as it leaves them -/
def returning (picked : ρ → Bool) (change : ρ → ρ) (rows : List ρ) : List ρ := (rows.filter picked).map change

/-- the table after an update -/
def updateWhere (picked : ρ → Bool) (change : ρ → ρ) (rows : List ρ) : List ρ :=
  rows.map fun row => if picked row then change row else row

/-- an update under a row check: the rows returned and the table, unless a changed row fails the check -/
def updateChecked (check picked : ρ → Bool) (change : ρ → ρ) (rows : List ρ) : Option (List ρ × List ρ) :=
  if (returning picked change rows).all check then
    some (returning picked change rows, updateWhere picked change rows)
  else none

theorem mem_returning {row : ρ} :
    row ∈ returning picked change rows ↔ ∃ old ∈ rows, picked old = true ∧ change old = row := by
  simp only [returning, List.mem_map, List.mem_filter, and_assoc]

theorem mem_updateWhere {row : ρ} :
    row ∈ updateWhere picked change rows ↔
      (∃ old ∈ rows, picked old = true ∧ change old = row) ∨ (row ∈ rows ∧ picked row = false) := by
  simp only [updateWhere, List.mem_map]
  constructor
  · intro h
    obtain ⟨old, hold, heq⟩ := h
    cases hp : picked old with
    | true => exact Or.inl ⟨old, hold, hp, by simpa [hp] using heq⟩
    | false =>
      have hrow : old = row := by simpa [hp] using heq
      subst hrow
      exact Or.inr ⟨hold, hp⟩
  · intro h
    rcases h with ⟨old, hold, hp, heq⟩ | ⟨hrow, hp⟩
    · exact ⟨old, hold, by simpa [hp] using heq⟩
    · exact ⟨row, hrow, by simp [hp]⟩

/-- a row that the update does not take stays as it is -/
theorem mem_updateWhere_of_not_picked {row : ρ} (h : row ∈ rows) (hp : picked row = false) :
    row ∈ updateWhere picked change rows := mem_updateWhere.2 (Or.inr ⟨h, hp⟩)

theorem map_updateWhere {key : ρ → κ} (hkey : ∀ row, key (change row) = key row) :
    (updateWhere picked change rows).map key = rows.map key := by
  rw [updateWhere, List.map_map]
  refine List.map_congr_left fun row _ => ?_
  simp only [Function.comp_apply]
  split
  · exact hkey row
  · rfl

theorem map_returning {key : ρ → κ} (hkey : ∀ row, key (change row) = key row) :
    (returning picked change rows).map key = (rows.filter picked).map key := by
  rw [returning, List.map_map]
  exact List.map_congr_left fun row _ => hkey row

theorem forall_updateWhere {good : ρ → Prop} (hrows : ∀ row ∈ rows, good row)
    (hchange : ∀ row ∈ rows, picked row = true → good (change row)) :
    ∀ row ∈ updateWhere picked change rows, good row := by
  intro row hrow
  rcases mem_updateWhere.1 hrow with ⟨old, hold, hp, rfl⟩ | ⟨hold, -⟩
  · exact hchange old hold hp
  · exact hrows row hold

theorem returning_eq_nil : returning picked change rows = [] ↔ ∀ row ∈ rows, picked row = false := by
  simp [returning, List.filter_eq_nil_iff]

theorem updateWhere_of_none (h : ∀ row ∈ rows, picked row = false) : updateWhere picked change rows = rows := by
  rw [updateWhere]
  calc rows.map (fun row => if picked row then change row else row)
      = rows.map id := List.map_congr_left fun row hrow => by simp [h row hrow]
    _ = rows := List.map_id rows

/-- an update that went through returned the changed rows, all of which pass the check -/
theorem updateChecked_eq_some {check : ρ → Bool} {returned after : List ρ} :
    updateChecked check picked change rows = some (returned, after) ↔
      (∀ row ∈ returned, check row = true) ∧ returned = returning picked change rows ∧
        after = updateWhere picked change rows := by
  rw [updateChecked]
  constructor
  · intro h
    split at h
    · rename_i hcheck
      simp only [Option.some.injEq, Prod.mk.injEq] at h
      obtain ⟨rfl, rfl⟩ := h
      exact ⟨List.all_eq_true.1 hcheck, rfl, rfl⟩
    · cases h
  · intro h
    obtain ⟨hcheck, rfl, rfl⟩ := h
    rw [if_pos (List.all_eq_true.2 hcheck)]

/-- two rows with one key are the same row where the key column has no value twice -/
theorem eq_of_key_eq {key : ρ → κ} (hkeys : (rows.map key).Nodup) {row row' : ρ} (h : row ∈ rows) (h' : row' ∈ rows)
    (heq : key row = key row') : row = row' := List.inj_on_of_nodup_map hkeys h h' heq

end SeeMirai.Table
