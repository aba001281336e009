/-
`Array.prototype.sort` with a comparator: a stable sort. Elements that compare equal keep their order, so the result of
sorting depends on the order of the input exactly through such ties.

- `stableSort_perm`: sorting permutes.
- `stableSort_congr`: two comparators that agree on the elements sort them alike.
- `stableSort_eq_of_perm`: where the comparator is a total preorder that separates the elements at hand, two
  permutations of one list sort to the same list.
-/
import Mathlib

namespace SeeMirai

def stableSort {α : Type*} (cmp : α → α → Ordering) (xs : List α) : List α :=
  xs.insertionSort (fun a b => (cmp a b).isLE)

/-! ## Comparators -/

/-- comparing by a key -/
theorem transCmp_on {α β : Type*} {cmp : β → β → Ordering} (h : Std.TransCmp cmp) (f : α → β) :
    Std.TransCmp (fun a b => cmp (f a) (f b)) where
  eq_swap := h.eq_swap
  isLE_trans := h.isLE_trans

/-- comparing by one comparator, then by another -/
theorem transCmp_then {α : Type*} {c₁ c₂ : α → α → Ordering} (h₁ : Std.TransCmp c₁) (h₂ : Std.TransCmp c₂) :
    Std.TransCmp (fun a b => (c₁ a b).then (c₂ a b)) :=
  inferInstanceAs (Std.TransCmp (compareLex c₁ c₂))

/-! ## Sorting -/

variable {α : Type*} {cmp : α → α → Ordering} {xs ys : List α}

theorem stableSort_perm : (stableSort cmp xs).Perm xs := List.perm_insertionSort _ _

@[simp] theorem mem_stableSort {x : α} : x ∈ stableSort cmp xs ↔ x ∈ xs := List.mem_insertionSort _

@[simp] theorem length_stableSort : (stableSort cmp xs).length = xs.length := List.length_insertionSort _ _

theorem stableSort_pairwise [Std.TransCmp cmp] : (stableSort cmp xs).Pairwise (fun a b => (cmp a b).isLE) := by
  have htotal : Std.Total (fun a b : α => (cmp a b).isLE = true) := by
    constructor
    intro a b
    cases hab : (cmp a b).isLE
    · right
      rw [Std.OrientedCmp.lt_of_not_isLE (by simp [hab] : ¬ (cmp a b).isLE)]
      rfl
    · exact Or.inl rfl
  have htrans : IsTrans α (fun a b : α => (cmp a b).isLE = true) := ⟨fun _ _ _ => Std.TransCmp.isLE_trans⟩
  exact List.pairwise_insertionSort _ xs

/-- only the comparisons of the elements at hand matter -/
theorem stableSort_congr {cmp' : α → α → Ordering} (h : ∀ a ∈ xs, ∀ b ∈ xs, cmp a b = cmp' a b) :
    stableSort cmp xs = stableSort cmp' xs := by
  have hmap := List.map_insertionSort (fun a b : α => (cmp a b).isLE) (fun a b : α => (cmp' a b).isLE) id xs
    (fun a ha b hb => by rw [h a ha b hb]; rfl)
  simpa [stableSort] using hmap

/-- elements that compare equal keep their order -/
theorem stableSort_filter [Std.TransCmp cmp] (a : α) :
    (stableSort cmp xs).filter (fun x => cmp a x == .eq) = xs.filter (fun x => cmp a x == .eq) := by
  induction xs with
  | nil => rfl
  | cons x xs ih =>
    have hinsert : stableSort cmp (x :: xs) =
        (stableSort cmp xs).takeWhile (fun b => ¬ (cmp x b).isLE) ++
          x :: (stableSort cmp xs).dropWhile (fun b => ¬ (cmp x b).isLE) :=
      List.orderedInsert_eq_take_drop _ _ _
    have hsplit : (stableSort cmp xs).filter (fun y => cmp a y == .eq) =
        ((stableSort cmp xs).takeWhile (fun b => ¬ (cmp x b).isLE)).filter (fun y => cmp a y == .eq) ++
          ((stableSort cmp xs).dropWhile (fun b => ¬ (cmp x b).isLE)).filter (fun y => cmp a y == .eq) := by
      rw [← List.filter_append, List.takeWhile_append_dropWhile]
    rw [hinsert, List.filter_append, List.filter_cons, List.filter_cons, ← ih]
    split_ifs with hx
    · -- what is passed over is greater, so none of it is in the class
      have hnone : ((stableSort cmp xs).takeWhile (fun b => ¬ (cmp x b).isLE)).filter (fun y => cmp a y == .eq) = [] := by
        rw [List.filter_eq_nil_iff]
        intro y hy heq
        have hgt := List.mem_takeWhile_imp hy
        have hxy : cmp x y = .eq :=
          Std.TransCmp.eq_trans (Std.OrientedCmp.eq_comm.1 (beq_iff_eq.1 hx)) (beq_iff_eq.1 heq)
        simp [hxy] at hgt
      rw [hsplit, hnone, List.nil_append, List.nil_append]
    · exact hsplit.symm

/-- **Stability.** Lists that agree on every class of equal elements are sorted into the same list. -/
theorem stableSort_eq_of_filter [Std.TransCmp cmp]
    (h : ∀ a, xs.filter (fun x => cmp a x == .eq) = ys.filter (fun x => cmp a x == .eq)) :
    stableSort cmp xs = stableSort cmp ys := by
  have hself : ∀ a : α, cmp a a = .eq := fun _ => Std.ReflCmp.compare_self
  have hunique : ∀ {us vs : List α}, us.Pairwise (fun a b => (cmp a b).isLE) → vs.Pairwise (fun a b => (cmp a b).isLE) →
      (∀ a, us.filter (fun x => cmp a x == .eq) = vs.filter (fun x => cmp a x == .eq)) → us = vs := by
    intro us
    induction us with
    | nil =>
      intro vs _ _ hclass
      cases vs with
      | nil => rfl
      | cons v vs => exact absurd (hclass v) (by simp [hself])
    | cons u us ih =>
      intro vs hus hvs hclass
      cases vs with
      | nil => exact absurd (hclass u) (by simp [hself])
      | cons v vs =>
        have hmem : u ∈ v :: vs := by
          have hin : u ∈ (u :: us).filter (fun x => cmp u x == .eq) := by simp [hself]
          rw [hclass u] at hin
          exact (List.mem_filter.1 hin).1
        have hmem' : v ∈ u :: us := by
          have hin : v ∈ (v :: vs).filter (fun x => cmp v x == .eq) := by simp [hself]
          rw [← hclass v] at hin
          exact (List.mem_filter.1 hin).1
        have hle : (cmp u v).isLE := by
          rcases List.mem_cons.1 hmem' with rfl | hin
          · simp [hself]
          · exact List.rel_of_pairwise_cons hus hin
        have hge : (cmp v u).isLE := by
          rcases List.mem_cons.1 hmem with rfl | hin
          · simp [hself]
          · exact List.rel_of_pairwise_cons hvs hin
        have heq : cmp u v = .eq := Std.OrientedCmp.isLE_antisymm hle hge
        have hhead := hclass u
        rw [List.filter_cons_of_pos (by simp [hself]), List.filter_cons_of_pos (by simp [heq])] at hhead
        obtain rfl := (List.cons.inj hhead).1
        refine congrArg (u :: ·) (ih (List.pairwise_cons.1 hus).2 (List.pairwise_cons.1 hvs).2 fun a => ?_)
        have ha := hclass a
        rw [List.filter_cons, List.filter_cons] at ha
        split_ifs at ha
        · exact (List.cons.inj ha).2
        · exact ha
  refine hunique stableSort_pairwise stableSort_pairwise fun a => ?_
  rw [stableSort_filter, stableSort_filter, h a]

/-- **Sorting forgets the order of the input** where the comparator separates the elements. -/
theorem stableSort_eq_of_perm [Std.TransCmp cmp] (hp : xs.Perm ys)
    (hsep : ∀ a ∈ xs, ∀ b ∈ xs, cmp a b = .eq → a = b) : stableSort cmp xs = stableSort cmp ys := by
  refine List.Perm.eq_of_pairwise ?_ stableSort_pairwise stableSort_pairwise
    ((stableSort_perm.trans hp).trans stableSort_perm.symm)
  intro a b ha hb hab hba
  rw [mem_stableSort] at ha hb
  exact hsep a ha b (hp.mem_iff.2 hb) (Std.OrientedCmp.isLE_antisymm hab hba)

/-- the same where the comparator is a total preorder of the elements at hand only -/
theorem stableSort_eq_of_perm_on (hp : xs.Perm ys) (hswap : ∀ a ∈ xs, ∀ b ∈ xs, cmp a b = (cmp b a).swap)
    (htrans : ∀ a ∈ xs, ∀ b ∈ xs, ∀ c ∈ xs, (cmp a b).isLE → (cmp b c).isLE → (cmp a c).isLE)
    (hsep : ∀ a ∈ xs, ∀ b ∈ xs, cmp a b = .eq → a = b) : stableSort cmp xs = stableSort cmp ys := by
  have honly : Std.TransCmp (fun a b : { x // x ∈ xs } => cmp a.1 b.1) :=
    { eq_swap := fun {a b} => hswap a.1 a.2 b.1 b.2
      isLE_trans := fun {a b c} => htrans a.1 a.2 b.1 b.2 c.1 c.2 }
  have hsort : ∀ zs : List { x // x ∈ xs },
      (stableSort (fun a b : { x // x ∈ xs } => cmp a.1 b.1) zs).map Subtype.val = stableSort cmp (zs.map Subtype.val) :=
    fun zs => List.map_insertionSort _ _ Subtype.val zs (fun _ _ _ _ => Iff.rfl)
  have hperm : (xs.attachWith (· ∈ xs) fun _ h => h).Perm (ys.attachWith (· ∈ xs) fun _ h => hp.mem_iff.2 h) :=
    (List.map_perm_map_iff Subtype.val_injective).1 (by simpa using hp)
  have heq := stableSort_eq_of_perm hperm fun a _ b _ h => Subtype.ext (hsep a.1 a.2 b.1 b.2 h)
  have hval := congrArg (List.map Subtype.val) heq
  rw [hsort, hsort] at hval
  simpa using hval

end SeeMirai
