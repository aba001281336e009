/-
"Latest wins" selection: a pass over a list that keeps, per key, the element that no other element of that key beats.
The comparison may throw, so the pass may. A later element replaces the kept one only when it compares strictly
greater, so ties are decided by the order of the list.

- `keepLatest`: one iteration on an insertion-ordered map.
- `pick`: what one iteration does to the value under one key.
- `pick_le`: the kept value is above the old one and above the candidate, for any preorder the comparison follows.
- `KeepsLatest.pass_get` / `KeepsLatest.pass_ok`: the whole pass under one key is a pass over the elements of that
  key, and the whole pass returns where each of these does.
- `pickPass_greatest`: the pass over one key keeps a greatest element.
-/
import SeeMirai.Lib.InsertionMap
import SeeMirai.Lib.Fallible

namespace SeeMirai

open Fallible

variable {κ α ε : Type} [DecidableEq κ]

/-- the value kept under one key after a candidate came along -/
def pick (cmp : α → α → Except ε Ordering) (existing : Option α) (candidate : α) : Except ε α :=
  match existing with
  | none => pure candidate
  | some e => do
    let o ← cmp candidate e
    if o = .gt then pure candidate else pure e

/-- one iteration: write the candidate when its key is new or it beats the kept value -/
def keepLatest (cmp : α → α → Except ε Ordering) (latest : InsertionMap κ α) (k : κ) (candidate : α) :
    Except ε (InsertionMap κ α) :=
  match latest.get k with
  | none => pure (latest.set k candidate)
  | some e => do
    let o ← cmp candidate e
    if o = .gt then pure (latest.set k candidate) else pure latest

theorem keepLatest_get {cmp : α → α → Except ε Ordering} {latest latest' : InsertionMap κ α} {k : κ} {x : α}
    (h : keepLatest cmp latest k x = .ok latest') :
    ∃ w, pick cmp (latest.get k) x = .ok w ∧ ∀ k', latest'.get k' = if k = k' then some w else latest.get k' := by
  unfold keepLatest at h
  unfold pick
  cases hg : latest.get k with
  | none =>
    rw [hg] at h
    simp only [pure_eq_ok] at h
    subst h
    exact ⟨x, rfl, fun k' => latest.get_set k k' x⟩
  | some e =>
    rw [hg] at h
    obtain ⟨o, ho, h⟩ := bind_eq_ok.1 h
    simp only [ho, ok_bind]
    split at h
    · rename_i hgt
      rw [pure_eq_ok] at h
      subst h
      exact ⟨x, by simp [hgt], fun k' => latest.get_set k k' x⟩
    · rename_i hgt
      rw [pure_eq_ok] at h
      subst h
      refine ⟨e, by simp [hgt], fun k' => ?_⟩
      split_ifs with hk
      · rw [← hk, hg]
      · rfl

/-- the kept value is one of the two -/
theorem pick_mem {cmp : α → α → Except ε Ordering} {existing : Option α} {x w : α}
    (h : pick cmp existing x = .ok w) : w = x ∨ existing = some w := by
  unfold pick at h
  cases existing with
  | none => exact Or.inl (pure_eq_ok.1 h).symm
  | some e =>
    obtain ⟨o, -, h⟩ := bind_eq_ok.1 h
    split at h
    · exact Or.inl (pure_eq_ok.1 h).symm
    · exact Or.inr (by rw [pure_eq_ok.1 h])

/-- the kept value is above both -/
theorem pick_le {cmp : α → α → Except ε Ordering} (le : α → α → Prop) (hrefl : ∀ a, le a a)
    (hgt : ∀ a b, cmp a b = .ok .gt → le b a) (hle : ∀ a b o, cmp a b = .ok o → o ≠ .gt → le a b)
    {existing : Option α} {x w : α} (h : pick cmp existing x = .ok w) :
    le x w ∧ ∀ e, existing = some e → le e w := by
  unfold pick at h
  cases existing with
  | none =>
    rw [pure_eq_ok] at h
    subst h
    exact ⟨hrefl x, by rintro e ⟨⟩⟩
  | some e =>
    obtain ⟨o, ho, h⟩ := bind_eq_ok.1 h
    split at h
    · rename_i hg
      rw [pure_eq_ok] at h
      subst h hg
      exact ⟨hrefl x, by rintro e' ⟨⟩; exact hgt x e ho⟩
    · rename_i hg
      rw [pure_eq_ok] at h
      subst h
      exact ⟨hle x e o ho hg, by rintro e' ⟨⟩; exact hrefl e⟩

/-! ## Whole passes -/

/-- the pass over the elements of one key -/
def pickPass (cmp : α → α → Except ε Ordering) (kept : Option α) (xs : List α) : Except ε (Option α) :=
  xs.foldlM (fun kept x => some <$> pick cmp kept x) kept

/-- a store whose step does `pick` under the element's key and leaves the other keys alone -/
structure KeepsLatest {M : Type} (cmp : α → α → Except ε Ordering) (key : α → κ) (lookup : M → κ → Option α)
    (step : M → α → Except ε M) : Prop where
  ok : ∀ m x w, pick cmp (lookup m (key x)) x = .ok w → ∃ m', step m x = .ok m'
  get : ∀ m x m', step m x = .ok m' → ∃ w, pick cmp (lookup m (key x)) x = .ok w ∧
    ∀ k, lookup m' k = if key x = k then some w else lookup m k

section Pass

variable {M : Type} {cmp : α → α → Except ε Ordering} {key : α → κ} {lookup : M → κ → Option α}
  {step : M → α → Except ε M}

/-- the whole pass, seen under one key: only the elements of that key take part -/
theorem KeepsLatest.pass_get (hk : KeepsLatest cmp key lookup step) {xs : List α} {m m' : M}
    (h : xs.foldlM step m = .ok m') (k : κ) :
    pickPass cmp (lookup m k) (xs.filter (fun x => key x = k)) = .ok (lookup m' k) := by
  induction xs generalizing m with
  | nil =>
    rw [List.foldlM_nil, pure_eq_ok] at h
    rw [h]
    rfl
  | cons x xs ih =>
    rw [List.foldlM_cons, bind_eq_ok] at h
    obtain ⟨mid, hmid, hrest⟩ := h
    obtain ⟨w, hw, hget⟩ := hk.get m x mid hmid
    have htail := ih hrest
    by_cases hkx : key x = k
    · rw [hget k, if_pos hkx] at htail
      rw [hkx] at hw
      simp only [pickPass, hkx, decide_true, List.filter_cons_of_pos, List.foldlM_cons, hw]
      exact htail
    · rw [hget k, if_neg hkx] at htail
      simpa [hkx] using htail

/-- the whole pass returns where the pass over each key does -/
theorem KeepsLatest.pass_ok (hk : KeepsLatest cmp key lookup step) {xs : List α} {m : M}
    (h : ∀ k, ∃ kept, pickPass cmp (lookup m k) (xs.filter (fun x => key x = k)) = .ok kept) :
    ∃ m', xs.foldlM step m = .ok m' := by
  induction xs generalizing m with
  | nil => exact ⟨m, rfl⟩
  | cons x xs ih =>
    obtain ⟨kept, hkept⟩ := h (key x)
    simp only [pickPass, decide_true, List.filter_cons_of_pos, List.foldlM_cons] at hkept
    obtain ⟨_, hpick, htail⟩ := bind_eq_ok.1 hkept
    obtain ⟨w, hw, rfl⟩ := map_eq_ok.1 hpick
    obtain ⟨mid, hmid⟩ := hk.ok m x w hw
    obtain ⟨w', hw', hget⟩ := hk.get m x mid hmid
    have hww : w' = w := Except.ok.inj (hw'.symm.trans hw)
    subst hww
    obtain ⟨m', hm'⟩ := ih (m := mid) fun k => by
      rw [hget k]
      by_cases hkx : key x = k
      · subst hkx
        exact ⟨kept, by rw [if_pos rfl]; exact htail⟩
      · obtain ⟨kept', hkept'⟩ := h k
        exact ⟨kept', by simpa [hkx] using hkept'⟩
    exact ⟨m', by rw [List.foldlM_cons, hmid, ok_bind, hm']⟩

theorem keepLatest_keeps (cmp : α → α → Except ε Ordering) (key : α → κ) :
    KeepsLatest cmp key InsertionMap.get (fun latest x => keepLatest cmp latest (key x) x) where
  get m x m' h := keepLatest_get h
  ok m x w h := by
    unfold pick at h
    unfold keepLatest
    cases hg : m.get (key x) with
    | none => exact ⟨_, rfl⟩
    | some e =>
      rw [hg] at h
      obtain ⟨o, ho, -⟩ := bind_eq_ok.1 h
      simp only [ho, ok_bind]
      split
      · exact ⟨_, rfl⟩
      · exact ⟨_, rfl⟩

end Pass

/-! ## The kept element -/

/-- a relation that holds within each group holds on the list wherever two elements are of one group -/
theorem pairwise_of_groups {key : α → κ} {R : α → α → Prop} {xs : List α}
    (h : ∀ k, (xs.filter (fun x => key x = k)).Pairwise R) : xs.Pairwise (fun x y => key x = key y → R x y) := by
  induction xs with
  | nil => exact List.Pairwise.nil
  | cons x xs ih =>
    refine List.Pairwise.cons (fun y hy hkey => ?_) (ih fun k => ?_)
    · have hgroup := h (key x)
      rw [List.filter_cons_of_pos (by simp), List.pairwise_cons] at hgroup
      exact hgroup.1 y (List.mem_filter.2 ⟨hy, by simp [hkey]⟩)
    · have hgroup := h k
      by_cases hk : key x = k
      · rw [List.filter_cons_of_pos (by simp [hk]), List.pairwise_cons] at hgroup
        exact hgroup.2
      · rwa [List.filter_cons_of_neg (by simp [hk])] at hgroup


section Kept

variable {cmp : α → α → Except ε Ordering}

theorem pickPass_snoc {kept : Option α} {xs : List α} {x : α} {r : Option α} :
    pickPass cmp kept (xs ++ [x]) = .ok r ↔ ∃ e w, pickPass cmp kept xs = .ok e ∧ pick cmp e x = .ok w ∧ r = some w := by
  unfold pickPass
  rw [foldlM_append_ok]
  simp only [List.foldlM_cons, List.foldlM_nil, bind_pure, map_eq_ok]
  constructor
  · rintro ⟨e, he, w, hw, rfl⟩
    exact ⟨e, w, he, hw, rfl⟩
  · rintro ⟨e, w, he, hw, rfl⟩
    exact ⟨e, he, w, hw, rfl⟩

theorem pickPass_mem {xs : List α} {kept : Option α} (h : pickPass cmp none xs = .ok kept) :
    (kept = none ↔ xs = []) ∧ ∀ w, kept = some w → w ∈ xs := by
  induction xs using List.reverseRecOn generalizing kept with
  | nil =>
    obtain rfl : none = kept := pure_eq_ok.1 h
    simp
  | append_singleton xs x ih =>
    obtain ⟨e, w, he, hw, rfl⟩ := pickPass_snoc.1 h
    refine ⟨by simp, ?_⟩
    rintro w' ⟨⟩
    rcases pick_mem hw with rfl | hold
    · simp
    · exact List.mem_append_left _ ((ih he).2 w hold)

/-- **The kept element is a greatest one.** Where the comparison answers, on any two elements, as a total preorder does. -/
theorem pickPass_greatest (order : α → α → Ordering) [Std.TransCmp order] {xs : List α}
    (hcmp : xs.Pairwise (fun x y => cmp y x = .ok (order y x))) :
    ∃ kept, pickPass cmp none xs = .ok kept ∧ ∀ w, kept = some w → ∀ x ∈ xs, (order x w).isLE := by
  induction xs using List.reverseRecOn with
  | nil => exact ⟨none, rfl, by simp⟩
  | append_singleton xs x ih =>
    rw [List.pairwise_append] at hcmp
    obtain ⟨kept, hkept, hmax⟩ := ih hcmp.1
    have hmem := pickPass_mem hkept
    cases kept with
    | none =>
      refine ⟨some x, pickPass_snoc.2 ⟨none, x, hkept, rfl, rfl⟩, ?_⟩
      rintro w ⟨⟩ y hy
      rw [hmem.1.1 rfl] at hy
      have hyx : y = x := by simpa using hy
      rw [hyx]
      exact Std.ReflCmp.isLE_rfl
    | some e =>
      have hex := hcmp.2.2 e (hmem.2 e rfl) x (by simp)
      by_cases hgt : order x e = .gt
      · refine ⟨some x, pickPass_snoc.2 ⟨some e, x, hkept, by simp [pick, hex, hgt], rfl⟩, ?_⟩
        rintro w ⟨⟩ y hy
        rcases List.mem_append.1 hy with hv | hx
        · refine Std.TransCmp.isLE_trans (hmax e rfl y hv) ?_
          rw [Std.OrientedCmp.lt_of_gt hgt]
          rfl
        · rw [List.mem_singleton.1 hx]
          exact Std.ReflCmp.isLE_rfl
      · refine ⟨some e, pickPass_snoc.2 ⟨some e, e, hkept, by simp [pick, hex, hgt], rfl⟩, ?_⟩
        rintro w ⟨⟩ y hy
        rcases List.mem_append.1 hy with hv | hx
        · exact hmax e rfl y hv
        · rw [List.mem_singleton.1 hx]
          cases ho : order x e with
          | gt => exact absurd ho hgt
          | lt => rfl
          | eq => rfl

/-- in a pass over two elements or more that returned, every element was compared -/
theorem pickPass_compared {xs : List α} {kept : Option α} (h : pickPass cmp none xs = .ok kept) (hlen : 2 ≤ xs.length) :
    ∀ x ∈ xs, ∃ y o, cmp x y = .ok o ∨ cmp y x = .ok o := by
  induction xs using List.reverseRecOn generalizing kept with
  | nil => simp at hlen
  | append_singleton xs x ih =>
    obtain ⟨e, w, he, hw, rfl⟩ := pickPass_snoc.1 h
    have hmem := pickPass_mem he
    cases e with
    | none => simp [hmem.1.1 rfl] at hlen
    | some e =>
      obtain ⟨o, ho, -⟩ := bind_eq_ok.1 hw
      intro y hy
      rcases List.mem_append.1 hy with hv | hx
      · by_cases htwo : 2 ≤ xs.length
        · exact ih he htwo y hv
        · -- the only element before the last is the kept one
          obtain ⟨z, rfl⟩ : ∃ z, xs = [z] := by
            rw [← List.length_eq_one_iff]
            simp at hlen
            have := List.length_pos_of_mem hv
            omega
          have hye : y = e := (List.mem_singleton.1 hv).trans (List.mem_singleton.1 (hmem.2 e rfl)).symm
          exact ⟨x, o, Or.inr (hye ▸ ho)⟩
      · rw [List.mem_singleton.1 hx]
        exact ⟨e, o, Or.inl ho⟩

/-- the pass over a permuted list keeps an element of the same rank -/
theorem pickPass_perm (order : α → α → Ordering) [Std.TransCmp order] {xs ys : List α} (hp : xs.Perm ys)
    (hcmp : ∀ x ∈ xs, ∀ y ∈ xs, cmp x y = .ok (order x y)) :
    ∃ kept kept', pickPass cmp none xs = .ok kept ∧ pickPass cmp none ys = .ok kept' ∧
      Option.Rel (fun w w' => order w w' = .eq) kept kept' := by
  have hpairs : ∀ zs : List α, (∀ z ∈ zs, z ∈ xs) → zs.Pairwise (fun x y => cmp y x = .ok (order y x)) :=
    fun zs hz => List.pairwise_of_forall_mem_list fun x hx y hy => hcmp y (hz y hy) x (hz x hx)
  obtain ⟨kept, hkept, hmax⟩ := pickPass_greatest order (hpairs xs fun _ h => h)
  obtain ⟨kept', hkept', hmax'⟩ := pickPass_greatest order (hpairs ys fun _ h => hp.mem_iff.2 h)
  have hmem := pickPass_mem hkept
  have hmem' := pickPass_mem hkept'
  refine ⟨kept, kept', hkept, hkept', ?_⟩
  cases kept with
  | none =>
    rw [hmem'.1.2 (by rw [← List.perm_nil, ← hmem.1.1 rfl]; exact hp.symm)]
    exact Option.Rel.none
  | some w =>
    cases kept' with
    | none =>
      have hnil : xs = [] := by rw [← List.perm_nil, ← hmem'.1.1 rfl]; exact hp
      cases hmem.1.2 hnil
    | some w' =>
      refine Option.Rel.some (Std.OrientedCmp.isLE_antisymm ?_ ?_)
      · exact hmax' w' rfl w (hp.mem_iff.1 (hmem.2 w rfl))
      · exact hmax w rfl w' (hp.mem_iff.2 (hmem'.2 w' rfl))

/-- in a pass that returned, two elements of the greatest rank were read: a comparison of equal ranks reads both -/
theorem pickPass_ties {T : Type} [LinearOrder T] (rank : α → T) (read : α → Prop)
    (hlt : ∀ a b o, cmp a b = .ok o → rank a < rank b → o ≠ .gt)
    (hgt : ∀ a b o, cmp a b = .ok o → rank b < rank a → o = .gt)
    (htie : ∀ a b o, cmp a b = .ok o → rank a = rank b → read a ∧ read b) {xs : List α} {w : α}
    (h : pickPass cmp none xs = .ok (some w)) :
    (∀ x ∈ xs, rank x ≤ rank w) ∧ xs.Pairwise (fun x y => rank x = rank w → rank y = rank w → read x ∧ read y) := by
  induction xs using List.reverseRecOn generalizing w with
  | nil => simp [pickPass] at h
  | append_singleton xs x ih =>
    obtain ⟨e, w', he, hw, hww⟩ := pickPass_snoc.1 h
    cases hww
    cases e with
    | none =>
      obtain rfl : x = w := pure_eq_ok.1 hw
      simp [(pickPass_mem he).1.1 rfl]
    | some e =>
      obtain ⟨hmax, hpairs⟩ := ih he
      have hemem := (pickPass_mem he).2 e rfl
      obtain ⟨o, ho, hpick⟩ := bind_eq_ok.1 hw
      -- a kept element of a lower rank is replaced, one of a higher rank stays
      have hwcase : (w = x ∧ rank e ≤ rank x) ∨ (w = e ∧ rank x ≤ rank e) := by
        split at hpick
        · rename_i hog
          refine Or.inl ⟨(pure_eq_ok.1 hpick).symm, not_lt.1 fun hc => hlt x e o ho hc hog⟩
        · rename_i hog
          exact Or.inr ⟨(pure_eq_ok.1 hpick).symm, not_lt.1 fun hc => hog (hgt x e o ho hc)⟩
      have htop : rank e ≤ rank w ∧ rank x ≤ rank w := by
        rcases hwcase with ⟨rfl, hle⟩ | ⟨rfl, hle⟩
        · exact ⟨hle, le_refl _⟩
        · exact ⟨le_refl _, hle⟩
      refine ⟨fun y hy => ?_, ?_⟩
      · rcases List.mem_append.1 hy with hv | hx
        · exact (hmax y hv).trans htop.1
        · rw [List.mem_singleton.1 hx]
          exact htop.2
      · rw [List.pairwise_append]
        refine ⟨hpairs.imp_of_mem fun {a b} ha hb hab hra hrb => ?_, List.pairwise_singleton _ _, ?_⟩
        · -- visited elements reach the new top only if the kept one has it
          have hew : rank e = rank w := le_antisymm htop.1 (hra ▸ hmax a ha)
          exact hab (hra.trans hew.symm) (hrb.trans hew.symm)
        · intro y hy z hz hry hrz
          rw [List.mem_singleton.1 hz] at hrz ⊢
          have hew : rank e = rank w := le_antisymm htop.1 (hry ▸ hmax y hy)
          have hread := htie x e o ho (hrz.trans hew.symm)
          refine ⟨?_, hread.1⟩
          by_cases hye : y = e
          · exact hye ▸ hread.2
          · have hsymm : Std.Symm (fun a b => rank a = rank e → rank b = rank e → read a ∧ read b) :=
              ⟨fun _ _ hr ha hb => (hr hb ha).symm⟩
            exact (hpairs.forall hy hemem hye (hry.trans hew.symm) rfl).1

end Kept

end SeeMirai
