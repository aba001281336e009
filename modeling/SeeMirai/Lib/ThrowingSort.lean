/-
Comparators that may throw, and comparators that are an order on part of their domain only.

- `Composes`: what the comparisons of `a` with `b` and of `b` with `c` say about the one of `a` with `c`. It is kept by
  comparing by one key and then by another (`Composes.then_of`), element by element, so transitivity on three given
  elements can be read off key by key.
- `stableSortM`: a stable sort whose comparator may throw. Where no comparison of two elements throws it is the stable
  sort by the answers (`stableSortM_eq`).
-/
import SeeMirai.Lib.StableSort
import SeeMirai.Lib.Fallible

namespace SeeMirai

/-! ## Three comparisons -/

/-- the comparisons `a b`, `b c` and `a c` are those of an order -/
structure Composes (ab bc ac : Ordering) : Prop where
  left : ab = .eq → ac = bc
  right : bc = .eq → ac = ab
  lt : ab = .lt → bc = .lt → ac = .lt

theorem Composes.isLE {ab bc ac : Ordering} (h : Composes ab bc ac) (hab : ab.isLE) (hbc : bc.isLE) : ac.isLE := by
  cases ab with
  | lt =>
    cases bc with
    | lt => rw [h.lt rfl rfl]; rfl
    | eq => rw [h.right rfl]; rfl
    | gt => cases hbc
  | eq => rw [h.left rfl]; exact hbc
  | gt => cases hab

theorem Composes.of_trans {α : Type*} {cmp : α → α → Ordering} (h : Std.TransCmp cmp) (a b c : α) :
    Composes (cmp a b) (cmp b c) (cmp a c) where
  left hab := Std.TransCmp.congr_left hab
  right hbc := (Std.TransCmp.congr_right hbc).symm
  lt hab hbc := Std.TransCmp.lt_trans hab hbc

/-- by one key and then, where it does not separate, by another -/
theorem Composes.then_of {ab bc ac ab' bc' ac' : Ordering} (h : Composes ab bc ac)
    (h' : ab = .eq → bc = .eq → Composes ab' bc' ac') : Composes (ab.then ab') (bc.then bc') (ac.then ac') := by
  cases ab with
  | lt =>
    cases bc with
    | lt => rw [h.lt rfl rfl]; exact ⟨nofun, nofun, fun _ _ => rfl⟩
    | eq => rw [h.right rfl]; exact ⟨nofun, fun _ => rfl, fun _ _ => rfl⟩
    | gt => exact ⟨nofun, nofun, fun _ => nofun⟩
  | eq =>
    rw [h.left rfl]
    cases bc with
    | lt => exact ⟨fun _ => rfl, nofun, fun _ _ => rfl⟩
    | eq => exact h' rfl rfl
    | gt => exact ⟨fun _ => rfl, nofun, fun _ => nofun⟩
  | gt =>
    cases bc with
    | lt => exact ⟨nofun, nofun, nofun⟩
    | eq => rw [h.right rfl]; exact ⟨nofun, fun _ => rfl, nofun⟩
    | gt => exact ⟨nofun, nofun, nofun⟩

/-! ## Sorting -/

variable {ε : Type*} {α : Type} {cmp : α → α → Except ε Ordering}

def insertM (cmp : α → α → Except ε Ordering) (x : α) : List α → Except ε (List α)
  | [] => pure [x]
  | y :: ys => do
    let order ← cmp x y
    if order.isLE then pure (x :: y :: ys)
    else do
      let rest ← insertM cmp x ys
      pure (y :: rest)

def stableSortM (cmp : α → α → Except ε Ordering) : List α → Except ε (List α)
  | [] => pure []
  | x :: xs => do
    let sorted ← stableSortM cmp xs
    insertM cmp x sorted

theorem insertM_eq {answer : α → α → Ordering} {x : α} {ys : List α} (h : ∀ y ∈ ys, cmp x y = .ok (answer x y)) :
    insertM cmp x ys = .ok (ys.orderedInsert (fun a b => (answer a b).isLE) x) := by
  induction ys with
  | nil => rfl
  | cons y ys ih =>
    rw [insertM, h y (by simp), Fallible.ok_bind, List.orderedInsert_cons]
    split_ifs
    · rfl
    · rw [ih fun z hz => h z (by simp [hz])]
      rfl

/-- **Sorting without a throw.** -/
theorem stableSortM_eq {answer : α → α → Ordering} {xs : List α}
    (h : ∀ a ∈ xs, ∀ b ∈ xs, cmp a b = .ok (answer a b)) : stableSortM cmp xs = .ok (stableSort answer xs) := by
  induction xs with
  | nil => rfl
  | cons x xs ih =>
    rw [stableSortM, ih fun a ha b hb => h a (by simp [ha]) b (by simp [hb]), Fallible.ok_bind]
    refine insertM_eq fun y hy => h x (by simp) y ?_
    exact List.mem_cons_of_mem x (mem_stableSort.1 hy)

end SeeMirai
