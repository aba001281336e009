/-
A table as the outcome of a log of deliveries, each of which may write a row under a key. An upsert replaces the row of
its key, so the table holds what the last write of a key wrote; an insert that does nothing on a conflict keeps the first.

Results:
- `foldl_upsert_get`: the row of a key is the one of the last delivery that writes it.
- `mem_foldl_insertNew`: the keys of the table are the ones that some delivery writes.
-/
import SeeMirai.Lib.InsertionMap

namespace SeeMirai.WriteLog

variable {δ κ α : Type*} [DecidableEq κ]

/-- insert, or update the row of the key -/
def upsert (write : δ → Option (κ × α)) (table : InsertionMap κ α) (delivery : δ) : InsertionMap κ α :=
  match write delivery with
  | some (key, row) => table.set key row
  | none => table

/-- insert, or do nothing where the key is taken -/
def insertNew (write : δ → Option (κ × α)) (table : InsertionMap κ α) (delivery : δ) : InsertionMap κ α :=
  match write delivery with
  | some (key, row) => if (table.get key).isSome then table else table.set key row
  | none => table

/-- the last delivery of a log that writes a key -/
def IsLastWrite (write : δ → Option (κ × α)) (deliveries : List δ) (key : κ) (delivery : δ) (row : α) : Prop :=
  ∃ before after, deliveries = before ++ delivery :: after ∧ write delivery = some (key, row) ∧
    ∀ later ∈ after, ∀ row', write later ≠ some (key, row')

omit [DecidableEq κ] in
theorem IsLastWrite.mem {write : δ → Option (κ × α)} {deliveries : List δ} {key : κ} {delivery : δ} {row : α}
    (h : IsLastWrite write deliveries key delivery row) : delivery ∈ deliveries := by
  obtain ⟨before, after, rfl, -⟩ := h
  simp

omit [DecidableEq κ] in
/-- a further delivery is the last write of its own key and of no other -/
theorem isLastWrite_snoc {write : δ → Option (κ × α)} {deliveries : List δ} {next : δ} {key : κ} {row : α} :
    (∃ delivery, IsLastWrite write (deliveries ++ [next]) key delivery row) ↔
      write next = some (key, row) ∨
      (∀ row', write next ≠ some (key, row')) ∧ ∃ delivery, IsLastWrite write deliveries key delivery row := by
  constructor
  · rintro ⟨delivery, before, after, hsplit, hwrite, hafter⟩
    rcases List.eq_nil_or_concat after with rfl | ⟨rest, last, rfl⟩
    · obtain ⟨-, hlast⟩ := @List.append_inj' _ deliveries [next] before [delivery] hsplit rfl
      rw [List.singleton_inj] at hlast
      exact Or.inl (hlast ▸ hwrite)
    · have hsplit' : deliveries ++ [next] = (before ++ delivery :: rest) ++ [last] := by simpa using hsplit
      obtain ⟨hdeliveries, hlast⟩ := List.append_inj' hsplit' rfl
      rw [List.singleton_inj] at hlast
      subst hlast
      exact Or.inr ⟨hafter next (by simp), delivery, before, rest, hdeliveries, hwrite,
        fun later hlater => hafter later (by simp [hlater])⟩
  · rintro (hwrite | ⟨hother, delivery, before, after, rfl, hwrite, hafter⟩)
    · exact ⟨next, deliveries, [], rfl, hwrite, by simp⟩
    · refine ⟨delivery, before, after ++ [next], by simp, hwrite, fun later hlater => ?_⟩
      rcases List.mem_append.1 hlater with hmem | hlast
      · exact hafter later hmem
      · exact List.mem_singleton.1 hlast ▸ hother

/-- **Last write wins.** -/
theorem foldl_upsert_get (write : δ → Option (κ × α)) (deliveries : List δ) (key : κ) (row : α) :
    (deliveries.foldl (upsert write) InsertionMap.empty).get key = some row ↔
      ∃ delivery, IsLastWrite write deliveries key delivery row := by
  induction deliveries using List.reverseRecOn with
  | nil => simp [IsLastWrite]
  | append_singleton deliveries next ih =>
    rw [List.foldl_append, isLastWrite_snoc, ← ih]
    simp only [List.foldl_cons, List.foldl_nil, upsert]
    cases hwrite : write next with
    | none => simp
    | some entry =>
      obtain ⟨key', row'⟩ := entry
      simp only [InsertionMap.get_set]
      by_cases hkey : key' = key
      · subst hkey
        simp
      · rw [if_neg hkey]
        simp [hkey]

/-- **First write wins**, and every key that is written has a row. -/
theorem mem_foldl_insertNew (write : δ → Option (κ × α)) (deliveries : List δ) (key : κ) :
    ((deliveries.foldl (insertNew write) InsertionMap.empty).get key).isSome ↔
      ∃ delivery ∈ deliveries, ∃ row, write delivery = some (key, row) := by
  induction deliveries using List.reverseRecOn with
  | nil => simp
  | append_singleton deliveries next ih =>
    rw [List.foldl_append]
    simp only [List.foldl_cons, List.foldl_nil, insertNew, List.mem_append, List.mem_singleton, or_and_right, exists_or,
      exists_eq_left, ← ih]
    generalize deliveries.foldl (insertNew write) InsertionMap.empty = table
    cases hwrite : write next with
    | none => simp
    | some entry =>
      obtain ⟨key', row'⟩ := entry
      simp only
      by_cases hkey : key' = key
      · subst hkey
        split_ifs with htaken
        · simp [htaken]
        · simp
      · split_ifs with htaken
        · simp [hkey]
        · rw [InsertionMap.get_set_ne _ _ hkey]
          simp [hkey]

end SeeMirai.WriteLog
