/-
Union-find on an insertion-ordered map of parents, with path compression and without ranks. A key that is looked up for
the first time becomes its own root.

`find` takes its bound from the map: a path to a root has no repeated key.

Results:
- `RootAt.unique`, `RootAt.depth_lt`: a key has one root, at a depth below the number of keys.
- `find_spec`: a lookup answers the root and changes no other key's root.
- `union_spec`: the two classes become one.
- `Represents`: after lookups and unions, two keys have the same root exactly when the unions connect them.
-/
import SeeMirai.Lib.Grouping
import Mathlib.Logic.Relation

namespace SeeMirai.UnionFind

variable {K : Type*} [DecidableEq K]

/-! ## Program -/

/-- the way up from a key; on the way back every key is put under the root -/
def findFrom : ℕ → InsertionMap K K → K → Option (K × InsertionMap K K)
  | 0, _, _ => none
  | fuel + 1, parent, key =>
    match parent.get key with
    | none => some (key, parent.set key key)
    | some existing =>
      if existing = key then some (key, parent)
      else (findFrom fuel parent existing).map fun found => (found.1, found.2.set key found.1)

def find (parent : InsertionMap K K) (key : K) : Option (K × InsertionMap K K) :=
  findFrom (parent.entries.length + 1) parent key

def union (parent : InsertionMap K K) (left right : K) : Option (InsertionMap K K) := do
  let leftFound ← find parent left
  let rightFound ← find leftFound.2 right
  if leftFound.1 ≠ rightFound.1 then some (rightFound.2.set rightFound.1 leftFound.1) else some rightFound.2

/-! ## Roots -/

/-- the root of a key and how far away it is -/
inductive RootAt (parent : InsertionMap K K) : ℕ → K → K → Prop where
  | root {k : K} (h : parent.get k = some k) : RootAt parent 0 k k
  | step {n : ℕ} {k p r : K} (h : parent.get k = some p) (hne : p ≠ k) (hroot : RootAt parent n p r) :
      RootAt parent (n + 1) k r

def Root (parent : InsertionMap K K) (k r : K) : Prop := ∃ n, RootAt parent n k r

/-- every key has a root -/
def Rooted (parent : InsertionMap K K) : Prop := ∀ k p, parent.get k = some p → ∃ r, Root parent k r

variable {parent : InsertionMap K K}

theorem RootAt.unique {n m : ℕ} {k r s : K} (h : RootAt parent n k r) (h' : RootAt parent m k s) : n = m ∧ r = s := by
  induction h generalizing m with
  | root hget =>
    cases h' with
    | root _ => exact ⟨rfl, rfl⟩
    | step hget' hne _ => exact absurd (Option.some.inj (hget'.symm.trans hget)) hne
  | step hget hne _ ih =>
    cases h' with
    | root hget' => exact absurd (Option.some.inj (hget.symm.trans hget')) hne
    | step hget' _ hroot' =>
      obtain rfl := Option.some.inj (hget.symm.trans hget')
      obtain ⟨rfl, rfl⟩ := ih hroot'
      exact ⟨rfl, rfl⟩

theorem Root.unique {k r s : K} (h : Root parent k r) (h' : Root parent k s) : r = s := by
  obtain ⟨n, hn⟩ := h
  obtain ⟨m, hm⟩ := h'
  exact (hn.unique hm).2

theorem RootAt.isRoot {n : ℕ} {k r : K} (h : RootAt parent n k r) : parent.get r = some r := by
  induction h with
  | root hget => exact hget
  | step _ _ _ ih => exact ih

theorem Root.self {k r : K} (h : Root parent k r) : Root parent r r := by
  obtain ⟨n, hn⟩ := h
  exact ⟨0, .root hn.isRoot⟩

theorem RootAt.mem {n : ℕ} {k r : K} (h : RootAt parent n k r) : k ∈ parent.keys := by
  cases h with
  | root hget => exact List.mem_map_of_mem ((parent.mem_iff_get).2 hget)
  | step hget _ _ => exact List.mem_map_of_mem ((parent.mem_iff_get).2 hget)

theorem Root.get_ne_none {k r : K} (h : Root parent k r) : parent.get k ≠ none := by
  obtain ⟨n, hn⟩ := h
  cases hn with
  | root hget => simp [hget]
  | step hget _ _ => simp [hget]

/-- the keys on the way up, each nearer to the root than the one before -/
theorem RootAt.path {n : ℕ} {k r : K} (h : RootAt parent n k r) :
    ∃ path : List K, path.length = n + 1 ∧ path.Nodup ∧ ∀ x ∈ path, x ∈ parent.keys ∧ ∃ m ≤ n, RootAt parent m x r := by
  induction h with
  | root hget =>
    rename_i k
    refine ⟨[k], rfl, List.nodup_singleton k, fun x hx => ?_⟩
    rw [List.mem_singleton] at hx
    subst hx
    exact ⟨(RootAt.root hget).mem, 0, le_rfl, .root hget⟩
  | step hget hne hroot ih =>
    rename_i n k p r
    obtain ⟨path, hlength, hnodup, hpath⟩ := ih
    have hfirst : RootAt parent (n + 1) k r := .step hget hne hroot
    refine ⟨k :: path, by simp [hlength], List.nodup_cons.2 ⟨fun hk => ?_, hnodup⟩, fun x hx => ?_⟩
    · obtain ⟨-, m, hm, hk'⟩ := hpath k hk
      have := (hfirst.unique hk').1
      omega
    · rcases List.mem_cons.1 hx with rfl | hx
      · exact ⟨hfirst.mem, n + 1, le_rfl, hfirst⟩
      · obtain ⟨hmem, m, hm, hx'⟩ := hpath x hx
        exact ⟨hmem, m, by omega, hx'⟩

/-- **Depth.** A path to a root is shorter than the map. -/
theorem RootAt.depth_lt {n : ℕ} {k r : K} (h : RootAt parent n k r) : n < parent.entries.length := by
  obtain ⟨path, hlength, hnodup, hpath⟩ := h.path
  have hsub : path ⊆ parent.keys := fun x hx => (hpath x hx).1
  have hle := (hnodup.subperm hsub).length_le
  have hkeys : parent.keys.length = parent.entries.length := List.length_map _
  omega

theorem Root.of_get {k p r : K} (h : parent.get k = some p) (hne : p ≠ k)
    (hroot : Root parent p r) : Root parent k r := by
  obtain ⟨n, hn⟩ := hroot
  exact ⟨n + 1, .step h hne hn⟩

/-- a map in which every old root is still found has no other roots for the old keys -/
theorem Root.back {parent' : InsertionMap K K} {f : K → K} (hrooted : Rooted parent)
    (hforward : ∀ x s, Root parent x s → Root parent' x (f s)) {x s : K} (hx : parent.get x ≠ none)
    (h : Root parent' x s) : ∃ s', Root parent x s' ∧ s = f s' := by
  obtain ⟨p, hp⟩ := Option.ne_none_iff_exists'.1 hx
  obtain ⟨s', hs'⟩ := hrooted x p hp
  exact ⟨s', hs', h.unique (hforward x s' hs')⟩

/-! ## Steps -/

/-- a new key is its own root -/
theorem add_spec (hrooted : Rooted parent) {key : K} (hnew : parent.get key = none) :
    Rooted (parent.set key key) ∧ ∀ x s, Root (parent.set key key) x s ↔ Root parent x s ∨ x = key ∧ s = key := by
  have hself : Root (parent.set key key) key key := ⟨0, .root (parent.get_set_self key key)⟩
  have hforward : ∀ x s, Root parent x s → Root (parent.set key key) x (id s) := by
    intro x s hroot
    obtain ⟨n, hn⟩ := hroot
    induction hn with
    | root hget =>
      refine ⟨0, .root ?_⟩
      rw [parent.get_set_ne key (fun hsame => ?_)]
      · exact hget
      · subst hsame
        rw [hnew] at hget
        cases hget
    | step hget hne _ ih =>
      refine Root.of_get ?_ hne ih
      rw [parent.get_set_ne key (fun hsame => ?_)]
      · exact hget
      · subst hsame
        rw [hnew] at hget
        cases hget
  have hiff : ∀ x s, Root (parent.set key key) x s ↔ Root parent x s ∨ x = key ∧ s = key := by
    intro x s
    constructor
    · intro h
      by_cases hkey : x = key
      · subst hkey
        exact Or.inr ⟨rfl, h.unique hself⟩
      · have hx := h.get_ne_none
        rw [parent.get_set_ne key (Ne.symm hkey)] at hx
        obtain ⟨s', hs', rfl⟩ := Root.back hrooted hforward hx h
        exact Or.inl hs'
    · intro h
      rcases h with h | ⟨rfl, rfl⟩
      · exact hforward x s h
      · exact hself
  refine ⟨fun x p hx => ?_, hiff⟩
  rw [parent.get_set] at hx
  split_ifs at hx with hkey
  · subst hkey
    exact ⟨key, hself⟩
  · obtain ⟨r, hr⟩ := hrooted x p hx
    exact ⟨r, hforward x r hr⟩

/-- a key may be put directly under its root -/
theorem compress_spec (hrooted : Rooted parent) {key root : K} (hroot : Root parent key root) (hne : key ≠ root) :
    Rooted (parent.set key root) ∧ ∀ x s, Root (parent.set key root) x s ↔ Root parent x s := by
  have htop : Root (parent.set key root) root root := by
    obtain ⟨n, hn⟩ := hroot
    refine ⟨0, .root ?_⟩
    rw [parent.get_set_ne root hne]
    exact hn.isRoot
  have hkey : Root (parent.set key root) key root := Root.of_get (parent.get_set_self key root) hne.symm htop
  have hforward : ∀ x s, Root parent x s → Root (parent.set key root) x (id s) := by
    intro x s hs
    by_cases hsame : x = key
    · subst hsame
      rw [id, hs.unique hroot]
      exact hkey
    · obtain ⟨n, hn⟩ := hs
      induction hn with
      | root hget =>
        refine ⟨0, .root ?_⟩
        rw [parent.get_set_ne root (Ne.symm hsame)]
        exact hget
      | step hget hpne hrest ih =>
        rename_i n k p r
        have hget' : (parent.set key root).get k = some p := by
          rw [parent.get_set_ne root (Ne.symm hsame)]
          exact hget
        by_cases hp : p = key
        · subst hp
          rw [id, Root.unique ⟨n, hrest⟩ hroot]
          exact Root.of_get hget' hpne hkey
        · exact Root.of_get hget' hpne (ih hp)
  refine ⟨fun x p hx => ?_, fun x s => ⟨fun h => ?_, fun h => hforward x s h⟩⟩
  · rw [parent.get_set] at hx
    split_ifs at hx with hsame
    · subst hsame
      exact ⟨root, hkey⟩
    · obtain ⟨r, hr⟩ := hrooted x p hx
      exact ⟨r, hforward x r hr⟩
  · have hx : parent.get x ≠ none := by
      by_cases hsame : x = key
      · subst hsame
        exact hroot.get_ne_none
      · have := h.get_ne_none
        rwa [parent.get_set_ne root (Ne.symm hsame)] at this
    obtain ⟨s', hs', rfl⟩ := Root.back hrooted hforward hx h
    exact hs'

/-- one root is put under another -/
theorem link_spec (hrooted : Rooted parent) {left right : K} (hleft : Root parent left left)
    (hright : Root parent right right) (hne : left ≠ right) :
    Rooted (parent.set right left) ∧
      ∀ x s, Root (parent.set right left) x s ↔ ∃ r, Root parent x r ∧ s = if r = right then left else r := by
  have htop : Root (parent.set right left) left left := by
    obtain ⟨n, hn⟩ := hleft
    refine ⟨0, .root ?_⟩
    rw [parent.get_set_ne left (Ne.symm hne)]
    exact hn.isRoot
  have hmoved : Root (parent.set right left) right left := Root.of_get (parent.get_set_self right left) hne htop
  have hforward : ∀ x r, Root parent x r → Root (parent.set right left) x (if r = right then left else r) := by
    intro x r hr
    obtain ⟨n, hn⟩ := hr
    induction hn with
    | root hget =>
      split_ifs with hsame
      · subst hsame
        exact hmoved
      · refine ⟨0, .root ?_⟩
        rw [parent.get_set_ne left (Ne.symm hsame)]
        exact hget
    | step hget hpne hrest ih =>
      refine Root.of_get ?_ hpne ih
      rw [parent.get_set_ne left (fun hsame => ?_)]
      · exact hget
      · obtain ⟨n, hn⟩ := hright
        have hself := hn.isRoot
        rw [hsame, hget] at hself
        exact hpne (Option.some.inj hself)
  refine ⟨fun x p hx => ?_, fun x s => ⟨fun h => ?_, fun h => ?_⟩⟩
  · rw [parent.get_set] at hx
    split_ifs at hx with hsame
    · subst hsame
      exact ⟨left, hmoved⟩
    · obtain ⟨r, hr⟩ := hrooted x p hx
      exact ⟨_, hforward x r hr⟩
  · have hx : parent.get x ≠ none := by
      by_cases hsame : x = right
      · subst hsame
        exact hright.get_ne_none
      · have := h.get_ne_none
        rwa [parent.get_set_ne left (Ne.symm hsame)] at this
    exact Root.back hrooted hforward hx h
  · obtain ⟨r, hr, rfl⟩ := h
    exact hforward x r hr

/-! ## Lookup and union -/

theorem findFrom_rooted (hrooted : Rooted parent) {n : ℕ} {k r : K} (h : RootAt parent n k r) {fuel : ℕ}
    (hfuel : n < fuel) : ∃ parent', findFrom fuel parent k = some (r, parent') ∧ Rooted parent' ∧
      ∀ x s, Root parent' x s ↔ Root parent x s := by
  induction h generalizing fuel with
  | root hget =>
    obtain ⟨fuel, rfl⟩ := Nat.exists_eq_add_one_of_ne_zero (Nat.ne_of_gt hfuel)
    refine ⟨parent, ?_, hrooted, fun x s => Iff.rfl⟩
    rw [findFrom, hget]
    exact if_pos rfl
  | step hget hne hroot ih =>
    rename_i n k p r
    obtain ⟨fuel, rfl⟩ := Nat.exists_eq_add_one_of_ne_zero (Nat.ne_of_gt (Nat.zero_lt_of_lt hfuel))
    obtain ⟨below, hbelow, hrooted', hsame⟩ := ih (Nat.lt_of_succ_lt_succ hfuel)
    have hkey : Root below k r := (hsame k r).2 (Root.of_get hget hne ⟨n, hroot⟩)
    have htop : k ≠ r := by
      intro heq
      rw [heq, hroot.isRoot] at hget
      exact hne ((Option.some.inj hget).symm.trans heq.symm)
    obtain ⟨hrooted'', hsame'⟩ := compress_spec hrooted' hkey htop
    refine ⟨below.set k r, ?_, hrooted'', fun x s => (hsame' x s).trans (hsame x s)⟩
    rw [findFrom, hget]
    dsimp only
    rw [if_neg hne, hbelow]
    rfl

/-- **Lookup.** The root is answered; only a new key gets a root. -/
theorem find_spec (hrooted : Rooted parent) (key : K) :
    ∃ r parent', find parent key = some (r, parent') ∧ Rooted parent' ∧ Root parent' key r ∧
      ∀ x s, Root parent' x s ↔ Root parent x s ∨ parent.get key = none ∧ x = key ∧ s = key := by
  cases hget : parent.get key with
  | none =>
    obtain ⟨hrooted', hsame⟩ := add_spec hrooted hget
    refine ⟨key, parent.set key key, ?_, hrooted', (hsame key key).2 (Or.inr ⟨rfl, rfl⟩), fun x s => ?_⟩
    · rw [find, findFrom, hget]
    · rw [hsame]
      simp
  | some p =>
    obtain ⟨r, n, hn⟩ := hrooted key p hget
    obtain ⟨parent', hfind, hrooted', hsame⟩ := findFrom_rooted hrooted hn (Nat.lt_succ_of_lt hn.depth_lt)
    refine ⟨r, parent', hfind, hrooted', (hsame key r).2 ⟨n, hn⟩, fun x s => ?_⟩
    rw [hsame]
    simp

/-! ## Connected keys -/

/-- two keys have the same root exactly when the edges connect them -/
structure Represents (parent : InsertionMap K K) (E : K → K → Prop) : Prop where
  rooted : Rooted parent
  edges : ∀ {a b}, E a b → ∃ r, Root parent a r ∧ Root parent b r
  connected : ∀ {a b r}, Root parent a r → Root parent b r → Relation.EqvGen E a b

variable {E : K → K → Prop}

theorem represents_empty (hE : ∀ a b, ¬ E a b) : Represents (InsertionMap.empty : InsertionMap K K) E := by
  refine ⟨fun k p h => ?_, fun h => absurd h (hE _ _), fun h _ => ?_⟩
  · simp at h
  · exact absurd (InsertionMap.get_empty _) h.get_ne_none

theorem Represents.root_iff (h : Represents parent E) {a b : K} (hab : Relation.EqvGen E a b) (r : K) :
    Root parent a r ↔ Root parent b r := by
  induction hab with
  | rel a b hedge =>
    obtain ⟨s, ha, hb⟩ := h.edges hedge
    exact ⟨fun hr => (ha.unique hr) ▸ hb, fun hr => (hb.unique hr) ▸ ha⟩
  | refl a => exact Iff.rfl
  | symm a b _ ih => exact ih.symm
  | trans a b c _ _ ih ih' => exact ih.trans ih'

/-- **Lookup.** -/
theorem represents_find (h : Represents parent E) (key : K) :
    ∃ r parent', find parent key = some (r, parent') ∧ Represents parent' E ∧ Root parent' key r ∧
      ∀ x s, Root parent' x s ↔ Root parent x s ∨ parent.get key = none ∧ x = key ∧ s = key := by
  obtain ⟨r, parent', hfind, hrooted, hroot, hsame⟩ := find_spec h.rooted key
  refine ⟨r, parent', hfind, ⟨hrooted, fun hedge => ?_, fun ha hb => ?_⟩, hroot, hsame⟩
  · obtain ⟨s, ha, hb⟩ := h.edges hedge
    exact ⟨s, (hsame _ _).2 (Or.inl ha), (hsame _ _).2 (Or.inl hb)⟩
  · rcases (hsame _ _).1 ha with ha | ⟨hnew, rfl, rfl⟩
    · rcases (hsame _ _).1 hb with hb | ⟨hnew, rfl, rfl⟩
      · exact h.connected ha hb
      · exact absurd hnew ha.self.get_ne_none
    · rcases (hsame _ _).1 hb with hb | ⟨_, rfl, _⟩
      · exact absurd hnew hb.self.get_ne_none
      · exact .refl _

/-- **Union.** One more edge. -/
theorem represents_union (h : Represents parent E) (left right : K) :
    ∃ parent', union parent left right = some parent' ∧
      Represents parent' (fun a b => E a b ∨ a = left ∧ b = right) ∧
      ∀ x, (∃ r, Root parent' x r) ↔ (∃ r, Root parent x r) ∨ x = left ∨ x = right := by
  obtain ⟨leftRoot, parent₁, hfind₁, h₁, hleft₁, hsame₁⟩ := represents_find h left
  obtain ⟨rightRoot, parent₂, hfind₂, h₂, hright, hsame₂⟩ := represents_find h₁ right
  have hleft : Root parent₂ left leftRoot := (hsame₂ _ _).2 (Or.inl hleft₁)
  have hdomain : ∀ x, (∃ r, Root parent₂ x r) ↔ (∃ r, Root parent x r) ∨ x = left ∨ x = right := by
    intro x
    constructor
    · rintro ⟨r, hr⟩
      rcases (hsame₂ x r).1 hr with hr | ⟨-, rfl, -⟩
      · rcases (hsame₁ x r).1 hr with hr | ⟨-, rfl, -⟩
        · exact Or.inl ⟨r, hr⟩
        · exact Or.inr (Or.inl rfl)
      · exact Or.inr (Or.inr rfl)
    · rintro (⟨r, hr⟩ | rfl | rfl)
      · exact ⟨r, (hsame₂ x r).2 (Or.inl ((hsame₁ x r).2 (Or.inl hr)))⟩
      · exact ⟨leftRoot, hleft⟩
      · exact ⟨rightRoot, hright⟩
  have hmono : ∀ {a b : K}, Relation.EqvGen E a b → Relation.EqvGen (fun a b => E a b ∨ a = left ∧ b = right) a b :=
    fun hab => hab.mono fun _ _ => Or.inl
  have hedge : Relation.EqvGen (fun a b => E a b ∨ a = left ∧ b = right) left right := .rel _ _ (Or.inr ⟨rfl, rfl⟩)
  by_cases heq : leftRoot = rightRoot
  · subst heq
    refine ⟨parent₂, by simp [union, hfind₁, hfind₂], ⟨h₂.rooted, fun hab => ?_, fun ha hb => ?_⟩, hdomain⟩
    · rcases hab with hab | ⟨rfl, rfl⟩
      · exact h₂.edges hab
      · exact ⟨leftRoot, hleft, hright⟩
    · exact hmono (h₂.connected ha hb)
  · obtain ⟨hrooted, hlink⟩ := link_spec h₂.rooted hleft.self hright.self heq
    refine ⟨parent₂.set rightRoot leftRoot, by simp [union, hfind₁, hfind₂, heq], ⟨hrooted, fun hab => ?_,
      fun ha hb => ?_⟩, fun x => ?_⟩
    · rcases hab with hab | ⟨rfl, rfl⟩
      · obtain ⟨r, ha, hb⟩ := h₂.edges hab
        exact ⟨_, (hlink _ _).2 ⟨r, ha, rfl⟩, (hlink _ _).2 ⟨r, hb, rfl⟩⟩
      · refine ⟨leftRoot, (hlink _ _).2 ⟨leftRoot, hleft, by rw [if_neg heq]⟩,
        (hlink _ _).2 ⟨rightRoot, hright, by rw [if_pos rfl]⟩⟩
    · obtain ⟨r, hr, rfl⟩ := (hlink _ _).1 ha
      obtain ⟨s, hs, hrs⟩ := (hlink _ _).1 hb
      -- each class is an old one, or the one made of the classes of `left` and `right`
      by_cases hrRight : r = rightRoot
      · subst hrRight
        by_cases hsRight : s = r
        · subst hsRight
          exact hmono (h₂.connected hr hs)
        · rw [if_pos rfl, if_neg hsRight] at hrs
          subst hrs
          exact ((hmono (h₂.connected hr hright)).trans _ _ _ hedge.symm).trans _ _ _ (hmono (h₂.connected hleft hs))
      · by_cases hsRight : s = rightRoot
        · subst hsRight
          rw [if_neg hrRight, if_pos rfl] at hrs
          subst hrs
          exact ((hmono (h₂.connected hr hleft)).trans _ _ _ hedge).trans _ _ _ (hmono (h₂.connected hright hs))
        · rw [if_neg hrRight, if_neg hsRight] at hrs
          subst hrs
          exact hmono (h₂.connected hr hs)
    · rw [← hdomain x]
      constructor
      · rintro ⟨s, hs⟩
        obtain ⟨r, hr, -⟩ := (hlink x s).1 hs
        exact ⟨r, hr⟩
      · rintro ⟨r, hr⟩
        exact ⟨_, (hlink x _).2 ⟨r, hr, rfl⟩⟩

/-! ## Root of a key -/

open Classical in
/-- what a lookup answers -/
noncomputable def rootOf (parent : InsertionMap K K) (key : K) : K :=
  if h : ∃ r, Root parent key r then h.choose else key

theorem rootOf_eq {key r : K} (h : Root parent key r) : rootOf parent key = r := by
  have hsome : ∃ r, Root parent key r := ⟨r, h⟩
  rw [rootOf, dif_pos hsome]
  exact hsome.choose_spec.unique h

theorem rootOf_new {key : K} (h : ∀ r, ¬ Root parent key r) : rootOf parent key = key :=
  dif_neg fun hsome => hsome.elim h

/-- **Classes.** Two keys have the same root exactly when the edges connect them. -/
theorem rootOf_eq_iff (h : Represents parent E) {a b : K} : rootOf parent a = rootOf parent b ↔
    Relation.EqvGen E a b := by
  constructor
  · intro heq
    by_cases ha : ∃ r, Root parent a r
    · obtain ⟨r, ha⟩ := ha
      rw [rootOf_eq ha] at heq
      by_cases hb : ∃ s, Root parent b s
      · obtain ⟨s, hb⟩ := hb
        rw [rootOf_eq hb] at heq
        exact h.connected ha (heq ▸ hb)
      · rw [rootOf_new (not_exists.1 hb)] at heq
        exact absurd ⟨r, heq ▸ ha.self⟩ hb
    · rw [rootOf_new (not_exists.1 ha)] at heq
      by_cases hb : ∃ s, Root parent b s
      · obtain ⟨s, hb⟩ := hb
        rw [rootOf_eq hb] at heq
        exact absurd ⟨s, heq ▸ hb.self⟩ ha
      · rw [rootOf_new (not_exists.1 hb)] at heq
        exact heq ▸ .refl _
  · intro hab
    induction hab with
    | rel a b hedge =>
      obtain ⟨r, ha, hb⟩ := h.edges hedge
      rw [rootOf_eq ha, rootOf_eq hb]
    | refl a => rfl
    | symm a b _ ih => exact ih.symm
    | trans a b c _ _ ih ih' => exact ih.trans ih'

/-- a lookup answers the root and changes none -/
theorem find_rootOf (h : Represents parent E) (key : K) :
    ∃ parent', find parent key = some (rootOf parent key, parent') ∧ Represents parent' E ∧
      rootOf parent' = rootOf parent ∧
      ∀ x, (∃ r, Root parent' x r) ↔ (∃ r, Root parent x r) ∨ x = key := by
  obtain ⟨r, parent', hfind, h', hroot, hsame⟩ := represents_find h key
  have hkeep : ∀ x s, Root parent x s → rootOf parent' x = rootOf parent x := fun x s hs => by
    rw [rootOf_eq hs, rootOf_eq ((hsame x s).2 (Or.inl hs))]
  have hall : ∀ x, rootOf parent' x = rootOf parent x := by
    intro x
    by_cases hx : ∃ s, Root parent x s
    · obtain ⟨s, hs⟩ := hx
      exact hkeep x s hs
    · rw [rootOf_new (not_exists.1 hx)]
      by_cases hkey : x = key
      · subst hkey
        rcases (hsame x r).1 hroot with hold | ⟨-, -, rfl⟩
        · exact absurd ⟨r, hold⟩ hx
        · exact rootOf_eq hroot
      · refine rootOf_new fun s hs => ?_
        rcases (hsame x s).1 hs with hold | ⟨-, heq, -⟩
        · exact hx ⟨s, hold⟩
        · exact hkey heq
  refine ⟨parent', ?_, h', funext hall, fun x => ?_⟩
  · rw [hfind, ← hall key, rootOf_eq hroot]
  · constructor
    · rintro ⟨s, hs⟩
      rcases (hsame x s).1 hs with hold | ⟨-, heq, -⟩
      · exact Or.inl ⟨s, hold⟩
      · exact Or.inr heq
    · rintro (⟨s, hs⟩ | rfl)
      · exact ⟨s, (hsame x s).2 (Or.inl hs)⟩
      · exact ⟨r, hroot⟩

/-! ## The roots -/

/-- the root of every key, each once -/
def distinctRoots (parent : InsertionMap K K) : Option (List K) :=
  (parent.keys.foldlM (fun found key => (find found.1 key).map fun root => (root.2, Grouping.collect found.2 root.1))
    (parent, [])).map Prod.snd

theorem collectRoots_spec {keys : List K} (h : Represents parent E) (hkeys : ∀ k ∈ keys, parent.get k ≠ none)
    {seen : List K} (hnodup : seen.Nodup) :
    ∃ parent' roots, keys.foldlM (fun found key =>
        (find found.1 key).map fun root => (root.2, Grouping.collect found.2 root.1)) (parent, seen) =
          some (parent', roots) ∧
      roots.Nodup ∧ ∀ r, r ∈ roots ↔ r ∈ seen ∨ ∃ k ∈ keys, Root parent k r := by
  induction keys generalizing parent seen with
  | nil => exact ⟨parent, seen, rfl, hnodup, by simp⟩
  | cons key keys ih =>
    obtain ⟨root, next, hfind, hnext, hroot, hsame⟩ := represents_find h key
    have hold : ∀ x s, Root next x s ↔ Root parent x s := fun x s => by
      rw [hsame]
      simp [hkeys key List.mem_cons_self]
    have hcollect : (Grouping.collect seen root).Nodup ∧ ∀ r, r ∈ Grouping.collect seen root ↔ r ∈ seen ∨ r = root := by
      unfold Grouping.collect
      split_ifs with hmem
      · exact ⟨hnodup, fun r => ⟨Or.inl, fun hr => hr.elim id fun heq => heq ▸ hmem⟩⟩
      · refine ⟨List.nodup_append.2 ⟨hnodup, List.nodup_singleton _, fun a ha b hb => ?_⟩, fun r => by simp⟩
        rw [List.mem_singleton] at hb
        subst hb
        exact fun heq => hmem (heq ▸ ha)
    have hrest : ∀ k ∈ keys, next.get k ≠ none := by
      intro k hk
      obtain ⟨p, hp⟩ := Option.ne_none_iff_exists'.1 (hkeys k (List.mem_cons_of_mem _ hk))
      obtain ⟨r, hr⟩ := h.rooted k p hp
      exact ((hold k r).2 hr).get_ne_none
    obtain ⟨parent', roots, hfold, hroots, hmem⟩ := ih hnext hrest hcollect.1
    refine ⟨parent', roots, ?_, hroots, fun r => ?_⟩
    · rw [List.foldlM_cons, hfind]
      exact hfold
    · rw [hmem, hcollect.2]
      simp only [hold, List.mem_cons, exists_eq_or_imp]
      have hkey : r = root ↔ Root parent key r :=
        ⟨fun heq => heq ▸ (hold key root).1 hroot, fun hr => hr.unique ((hold key root).1 hroot)⟩
      rw [hkey, or_assoc]

/-- **Roots.** Each class has one. -/
theorem distinctRoots_spec (h : Represents parent E) :
    ∃ roots, distinctRoots parent = some roots ∧ roots.Nodup ∧ ∀ r, r ∈ roots ↔ ∃ k, Root parent k r := by
  have hkeys : ∀ k, k ∈ parent.keys ↔ parent.get k ≠ none := by
    intro k
    unfold InsertionMap.keys InsertionMap.get
    rw [Ne, assocGet_eq_none, not_not]
  obtain ⟨parent', roots, hfold, hnodup, hmem⟩ :=
    collectRoots_spec h (fun k hk => (hkeys k).1 hk) (List.nodup_nil)
  refine ⟨roots, by rw [distinctRoots, hfold]; rfl, hnodup, fun r => ?_⟩
  rw [hmem]
  constructor
  · rintro (hr | ⟨k, -, hk⟩)
    · cases hr
    · exact ⟨k, hk⟩
  · rintro ⟨k, hk⟩
    exact Or.inr ⟨k, (hkeys k).2 hk.get_ne_none, hk⟩

end SeeMirai.UnionFind
