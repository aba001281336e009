/-
Insertion-ordered finite maps, the `Map` of ECMAScript. Writing a key that is present replaces its value in place;
writing a new key appends the entry. Iteration visits the entries in that order. MODEL ONLY of the observable
behaviour: no hashing, no iterator invalidation.

An `InsertionMap` carries the fact that its keys are distinct, so no result below has to assume it.

Results:
- `get_set` / `get_set_self` / `get_set_ne`: reading after one write.
- `mem_iff_get`: the entries are exactly what `get` answers.
- `total_set`: a sum over all entries changes under one write by the new value minus the old one. This is the lemma
  that conservation arguments over a map of accounts rest on.
- `set_cases` / `get_delete`: what a write and a removal leave behind.
-/
import Mathlib.Tactic
import Mathlib.Algebra.BigOperators.Group.List.Basic

namespace SeeMirai

/-! ## Raw association lists -/

/-- replace the value under `k` in place, or append a new entry -/
def assocSet {κ α : Type*} [DecidableEq κ] : List (κ × α) → κ → α → List (κ × α)
  | [], k, v => [(k, v)]
  | e :: es, k, v => if e.1 = k then (k, v) :: es else e :: assocSet es k v

/-- the first value stored under `k` -/
def assocGet {κ α : Type*} [DecidableEq κ] : List (κ × α) → κ → Option α
  | [], _ => none
  | e :: es, k => if e.1 = k then some e.2 else assocGet es k

section Raw

variable {κ α : Type*} [DecidableEq κ]

theorem assocGet_eq_none {es : List (κ × α)} {k : κ} : assocGet es k = none ↔ k ∉ es.map Prod.fst := by
  induction es with
  | nil => simp [assocGet]
  | cons e es ih =>
    simp only [assocGet, List.map_cons, List.mem_cons, not_or]
    split_ifs with h
    · simp [h]
    · rw [ih]; simp [Ne.symm h]

theorem assocGet_append (es es' : List (κ × α)) (k : κ) :
    assocGet (es ++ es') k = (assocGet es k).or (assocGet es' k) := by
  induction es with
  | nil => rfl
  | cons e es ih =>
    simp only [List.cons_append, assocGet]
    split_ifs
    · rfl
    · exact ih

theorem assocGet_assocSet (es : List (κ × α)) (k k' : κ) (v : α) :
    assocGet (assocSet es k v) k' = if k = k' then some v else assocGet es k' := by
  induction es with
  | nil => simp [assocSet, assocGet]
  | cons e es ih =>
    simp only [assocSet]
    split_ifs with h h' h'
    · simp [assocGet, h']
    · have he : e.1 ≠ k' := h ▸ h'
      simp [assocGet, h', he]
    · subst h'
      simpa [assocGet, h] using ih
    · simp only [assocGet]
      rw [ih, if_neg h']

theorem keys_assocSet (es : List (κ × α)) (k : κ) (v : α) :
    (assocSet es k v).map Prod.fst = if k ∈ es.map Prod.fst then es.map Prod.fst else es.map Prod.fst ++ [k] := by
  induction es with
  | nil => simp [assocSet]
  | cons e es ih =>
    simp only [assocSet]
    by_cases h : e.1 = k
    · simp [h]
    · have hk : ¬k = e.1 := fun hc => h hc.symm
      simp only [if_neg h, List.map_cons, ih, List.mem_cons, hk, false_or]
      split_ifs <;> simp

theorem mem_assocGet {es : List (κ × α)} (hn : (es.map Prod.fst).Nodup) {k : κ} {v : α} :
    (k, v) ∈ es ↔ assocGet es k = some v := by
  induction es with
  | nil => simp [assocGet]
  | cons e es ih =>
    obtain ⟨ek, ev⟩ := e
    simp only [List.map_cons, List.nodup_cons] at hn
    simp only [assocGet, List.mem_cons, Prod.mk.injEq]
    split_ifs with h
    · subst h
      constructor
      · rintro (⟨-, rfl⟩ | hmem)
        · rfl
        · exact absurd (List.mem_map_of_mem hmem) hn.1
      · intro hv
        exact Or.inl ⟨rfl, (Option.some.inj hv).symm⟩
    · rw [← ih hn.2]
      constructor
      · rintro (⟨rfl, -⟩ | hmem)
        · exact absurd rfl h
        · exact hmem
      · exact Or.inr

theorem assocGet_map {β : Type*} (f : α → β) (es : List (κ × α)) (k : κ) :
    assocGet (es.map (fun e => (e.1, f e.2))) k = (assocGet es k).map f := by
  induction es with
  | nil => rfl
  | cons e es ih =>
    simp only [List.map_cons, assocGet]
    split_ifs
    · rfl
    · exact ih

/-- looking a key up among the entries that pass a test, with their values mapped -/
theorem assocGet_filter_map {β : Type*} (p : κ × α → Bool) (f : α → β) {es : List (κ × α)}
    (hn : (es.map Prod.fst).Nodup) (k : κ) :
    assocGet ((es.filter p).map (fun e => (e.1, f e.2))) k = ((assocGet es k).filter (fun v => p (k, v))).map f := by
  induction es with
  | nil => rfl
  | cons e es ih =>
    obtain ⟨ek, ev⟩ := e
    simp only [List.map_cons, List.nodup_cons] at hn
    have hnotin : ∀ es' : List (κ × α), es'.Sublist es → ek ∉ (es'.map (fun e => (e.1, f e.2))).map Prod.fst := by
      intro es' hsub hmem
      simp only [List.map_map, List.mem_map, Function.comp] at hmem
      obtain ⟨e, he, hek⟩ := hmem
      exact hn.1 (List.mem_map.2 ⟨e, hsub.subset he, hek⟩)
    by_cases hk : ek = k
    · subst hk
      cases hp : p (ek, ev) with
      | true => simp [assocGet, hp]
      | false =>
        have hnone : assocGet ((es.filter p).map (fun e => (e.1, f e.2))) ek = none :=
          assocGet_eq_none.2 (hnotin _ List.filter_sublist)
        simp [assocGet, hp, hnone]
    · cases hp : p (ek, ev) with
      | true => simpa [assocGet, hp, hk] using ih hn.2
      | false => simpa [assocGet, hp, hk] using ih hn.2

theorem assocGet_filter_ne (es : List (κ × α)) (k k' : κ) :
    assocGet (es.filter (fun e => e.1 ≠ k)) k' = if k = k' then none else assocGet es k' := by
  induction es with
  | nil => simp [assocGet]
  | cons e es ih =>
    by_cases hk : e.1 = k
    · rw [List.filter_cons_of_neg (by simpa using hk), ih]
      split_ifs with hkk'
      · rfl
      · rw [assocGet, if_neg (fun hek' => hkk' (hk.symm.trans hek'))]
    · rw [List.filter_cons_of_pos (by simpa using hk), assocGet, assocGet, ih]
      split_ifs with hek' hkk'
      · exact absurd (hek'.trans hkk'.symm) hk
      · rfl
      · rfl
      · rfl

/-- distinct keys: a sum over the entries moves by what the written entry moves -/
theorem sum_assocSet {M : Type*} [AddCommGroup M] (f : κ → α → M) (es : List (κ × α)) (k : κ) (v : α) :
    ((assocSet es k v).map (fun e => f e.1 e.2)).sum
      = (es.map (fun e => f e.1 e.2)).sum - ((assocGet es k).map (f k)).getD 0 + f k v := by
  induction es with
  | nil => simp [assocSet, assocGet]
  | cons e es ih =>
    simp only [assocSet, assocGet]
    split_ifs with h
    · subst h
      simp only [List.map_cons, List.sum_cons, Option.map_some, Option.getD_some]
      abel
    · simp only [List.map_cons, List.sum_cons, ih]
      abel

end Raw

/-! ## The map -/

/-- an insertion-ordered map; a duplicated key cannot be built -/
structure InsertionMap (κ α : Type*) where
  entries : List (κ × α)
  nodup : (entries.map Prod.fst).Nodup
deriving DecidableEq

namespace InsertionMap

variable {κ α : Type*}

@[ext] theorem ext {m m' : InsertionMap κ α} (h : m.entries = m'.entries) : m = m' := by
  cases m; cases m'; cases h; rfl

def empty : InsertionMap κ α := ⟨[], List.nodup_nil⟩

def keys (m : InsertionMap κ α) : List κ := m.entries.map Prod.fst

def values (m : InsertionMap κ α) : List α := m.entries.map Prod.snd

/-- the sum of a measure over all entries -/
def total {M : Type*} [AddMonoid M] (m : InsertionMap κ α) (f : α → M) : M := (m.entries.map (fun e => f e.2)).sum

@[simp] theorem entries_empty : (empty : InsertionMap κ α).entries = [] := rfl

@[simp] theorem total_empty {M : Type*} [AddMonoid M] (f : α → M) : (empty : InsertionMap κ α).total f = 0 := rfl

variable [DecidableEq κ]

def get (m : InsertionMap κ α) (k : κ) : Option α := assocGet m.entries k

def set (m : InsertionMap κ α) (k : κ) (v : α) : InsertionMap κ α where
  entries := assocSet m.entries k v
  nodup := by
    rw [keys_assocSet]
    split_ifs with h
    · exact m.nodup
    · rw [List.nodup_append]
      exact ⟨m.nodup, List.nodup_singleton k, by rintro a ha b hb rfl; simp_all⟩

def delete (m : InsertionMap κ α) (k : κ) : InsertionMap κ α where
  entries := m.entries.filter (fun e => e.1 ≠ k)
  nodup := m.nodup.sublist (List.filter_sublist.map Prod.fst)

@[simp] theorem get_empty (k : κ) : (empty : InsertionMap κ α).get k = none := rfl

theorem get_set (m : InsertionMap κ α) (k k' : κ) (v : α) :
    (m.set k v).get k' = if k = k' then some v else m.get k' :=
  assocGet_assocSet m.entries k k' v

@[simp] theorem get_set_self (m : InsertionMap κ α) (k : κ) (v : α) : (m.set k v).get k = some v := by
  rw [get_set, if_pos rfl]

theorem get_set_ne (m : InsertionMap κ α) {k k' : κ} (v : α) (h : k ≠ k') : (m.set k v).get k' = m.get k' := by
  rw [get_set, if_neg h]

theorem mem_iff_get (m : InsertionMap κ α) {k : κ} {v : α} : (k, v) ∈ m.entries ↔ m.get k = some v :=
  mem_assocGet m.nodup

/-- what a write leaves behind: the written entry, or one that was there -/
theorem set_cases {m : InsertionMap κ α} {k k' : κ} {v v' : α} (h : (m.set k v).get k' = some v') :
    (k' = k ∧ v' = v) ∨ m.get k' = some v' := by
  rw [get_set] at h
  split_ifs at h with hk
  · exact Or.inl ⟨hk.symm, (Option.some.inj h).symm⟩
  · exact Or.inr h

theorem get_delete (m : InsertionMap κ α) (k k' : κ) : (m.delete k).get k' = if k = k' then none else m.get k' :=
  assocGet_filter_ne m.entries k k'

/-- maps that answer alike have the same entries, in some order -/
theorem perm_of_get_eq {m m' : InsertionMap κ α} (h : ∀ k, m.get k = m'.get k) : m.entries.Perm m'.entries := by
  refine (List.perm_ext_iff_of_nodup m.nodup.of_map m'.nodup.of_map).2 ?_
  rintro ⟨k, v⟩
  rw [m.mem_iff_get, m'.mem_iff_get, h k]

theorem total_set {M : Type*} [AddCommGroup M] (m : InsertionMap κ α) (f : α → M) (k : κ) (v : α) :
    (m.set k v).total f = m.total f - ((m.get k).map f).getD 0 + f v :=
  sum_assocSet (fun _ => f) m.entries k v

end InsertionMap

end SeeMirai
