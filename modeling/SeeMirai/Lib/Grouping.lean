/-
Grouping a list by a key, in first-seen order: the `Map` that a loop fills by pushing every element under its key, and
the list of distinct keys that a loop collects by asking whether it has a key already.

Results:
- `groupBy_get`: a group is the elements of its key, in order.
- `groupBy_perm`: the groups together are the elements, each with its occurrences.
- `filter_groups_perm`: so are the filters by any list of distinct keys that has every element's key.
- `mem_firstSeen` / `firstSeen_nodup`: the first-seen keys are the keys, once each.
-/
import SeeMirai.Lib.InsertionMap

namespace SeeMirai.Grouping

variable {α κ : Type*} [DecidableEq κ]

/-! ## Groups -/

/-- push an element under its key -/
def push (key : α → κ) (groups : InsertionMap κ (List α)) (x : α) : InsertionMap κ (List α) :=
  groups.set (key x) ((groups.get (key x)).getD [] ++ [x])

def groupBy (key : α → κ) (xs : List α) : InsertionMap κ (List α) := xs.foldl (push key) InsertionMap.empty

theorem groupBy_get (key : α → κ) (xs : List α) (k : κ) :
    (groupBy key xs).get k
      = if xs.filter (fun x => key x = k) = [] then none else some (xs.filter (fun x => key x = k)) := by
  induction xs using List.reverseRecOn with
  | nil => rfl
  | append_singleton xs x ih =>
    have hstep : groupBy key (xs ++ [x]) = push key (groupBy key xs) x := by simp [groupBy, List.foldl_append]
    rw [hstep, push, InsertionMap.get_set, List.filter_append]
    by_cases hk : key x = k
    · subst hk
      rw [if_pos rfl, ih]
      split_ifs <;> simp_all
    · simp [hk, ih]

/-- an entry is its key with the elements of that key -/
theorem groupBy_entries {key : α → κ} {xs : List α} {entry : κ × List α} (h : entry ∈ (groupBy key xs).entries) :
    entry.2 = xs.filter (fun x => key x = entry.1) ∧ entry.2 ≠ [] := by
  have hget := (groupBy key xs).mem_iff_get.1 h
  rw [groupBy_get] at hget
  split_ifs at hget with hnil
  obtain hgroup := Option.some.inj hget
  exact ⟨hgroup.symm, hgroup ▸ hnil⟩

/-- every element's key has a group -/
theorem key_mem_groupBy {key : α → κ} {xs : List α} {x : α} (h : x ∈ xs) : key x ∈ (groupBy key xs).keys := by
  have hmem : x ∈ xs.filter (fun y => key y = key x) := List.mem_filter.2 ⟨h, by simp⟩
  have hget : (groupBy key xs).get (key x) = some (xs.filter (fun y => key y = key x)) := by
    rw [groupBy_get, if_neg (List.ne_nil_of_mem hmem)]
  exact List.mem_map.2 ⟨_, (groupBy key xs).mem_iff_get.2 hget, rfl⟩

/-! ## The groups are a partition -/

/-- filtering by each of some distinct keys, one of which is the element's -/
theorem flatMap_single {keys : List κ} (hnodup : keys.Nodup) {k : κ} (h : k ∈ keys) (x : α) :
    keys.flatMap (fun k' => if k = k' then [x] else []) = [x] := by
  induction keys with
  | nil => cases h
  | cons k' keys ih =>
    rw [List.nodup_cons] at hnodup
    rw [List.flatMap_cons]
    rcases List.mem_cons.1 h with rfl | hmem
    · have hnone : keys.flatMap (fun k' => if k = k' then [x] else []) = [] := by
        rw [List.flatMap_eq_nil_iff]
        intro other hother
        refine if_neg ?_
        rintro rfl
        exact hnodup.1 hother
      simp [hnone]
    · have hne : k ≠ k' := fun heq => hnodup.1 (heq ▸ hmem)
      simpa [hne] using ih hnodup.2 hmem

theorem filter_groups_perm {key : α → κ} {keys : List κ} (hnodup : keys.Nodup) {xs : List α}
    (hcovered : ∀ x ∈ xs, key x ∈ keys) : (keys.flatMap (fun k => xs.filter (fun x => key x = k))).Perm xs := by
  induction xs with
  | nil => simp
  | cons x xs ih =>
    have hsplit : (fun k => (x :: xs).filter (fun y => key y = k))
        = fun k => (if key x = k then [x] else []) ++ xs.filter (fun y => key y = k) := by
      funext k
      by_cases hk : key x = k <;> simp [hk]
    have hhead := flatMap_single hnodup (hcovered x (by simp)) x
    have htail := ih (fun y hy => hcovered y (by simp [hy]))
    rw [hsplit]
    refine (List.flatMap_append_perm keys _ _).symm.trans ?_
    rw [hhead]
    exact htail.cons x

theorem groupBy_perm (key : α → κ) (xs : List α) : ((groupBy key xs).entries.flatMap Prod.snd).Perm xs := by
  have hgroups : (groupBy key xs).entries.flatMap Prod.snd
      = (groupBy key xs).keys.flatMap (fun k => xs.filter (fun x => key x = k)) := by
    rw [InsertionMap.keys, List.flatMap_map]
    exact List.flatMap_congr fun entry hentry => (groupBy_entries hentry).1
  rw [hgroups]
  exact filter_groups_perm (groupBy key xs).nodup fun x hx => key_mem_groupBy hx

/-! ## First-seen keys -/

/-- a key is collected where it is not there yet -/
def collect (keys : List κ) (k : κ) : List κ := if k ∈ keys then keys else keys ++ [k]

def firstSeen (ks : List κ) : List κ := ks.foldl collect []

theorem firstSeen_snoc (ks : List κ) (k : κ) : firstSeen (ks ++ [k]) = collect (firstSeen ks) k := by
  simp [firstSeen, List.foldl_append]

theorem mem_firstSeen {ks : List κ} {k : κ} : k ∈ firstSeen ks ↔ k ∈ ks := by
  induction ks using List.reverseRecOn with
  | nil => simp [firstSeen]
  | append_singleton ks k' ih =>
    rw [firstSeen_snoc, collect, List.mem_append, List.mem_singleton, ← ih]
    split_ifs with hmem
    · constructor
      · exact Or.inl
      · rintro (h | rfl)
        · exact h
        · exact hmem
    · rw [List.mem_append, List.mem_singleton]

/-- keys that are there already add nothing -/
theorem firstSeen_append_of_mem {ks ks' : List κ} (h : ∀ k ∈ ks', k ∈ ks) : firstSeen (ks ++ ks') = firstSeen ks := by
  induction ks' using List.reverseRecOn with
  | nil => rw [List.append_nil]
  | append_singleton ks' k ih =>
    have hmem : k ∈ firstSeen (ks ++ ks') := mem_firstSeen.2 (List.mem_append_left _ (h k (by simp)))
    rw [← List.append_assoc, firstSeen_snoc, collect, if_pos hmem]
    exact ih fun k' hk' => h k' (by simp [hk'])

theorem firstSeen_nodup (ks : List κ) : (firstSeen ks).Nodup := by
  induction ks using List.reverseRecOn with
  | nil => exact List.nodup_nil
  | append_singleton ks k ih =>
    rw [firstSeen_snoc, collect]
    split_ifs with hmem
    · exact ih
    · rw [List.nodup_append]
      refine ⟨ih, List.nodup_singleton k, fun a ha b hb => ?_⟩
      rw [List.mem_singleton] at hb
      rintro rfl
      exact hmem (hb ▸ ha)

end SeeMirai.Grouping
