/-
Pages of a list that changes between the requests. Page `k` holds the entries from `k * limit` on. Entries leave the
list anywhere and join it at its end, and pages are read until one is short.

Results:
- `pagesRead_unchanged`: of a list that does not change, the pages are the list.
- `count_pagesRead_le_one`: no entry that stays is read twice.
- `count_pagesRead_iff`: an entry that stays is read exactly when it is never moved across the end of the page read.
-/
import Mathlib

namespace SeeMirai

/-! ## Pages -/

section Pages

variable {α : Type}

def pageAt (limit : ℕ) (xs : List α) (k : ℕ) : List α := (xs.drop (k * limit)).take limit

/-- what the requests of the pages `0, …, n - 1` give, the list being `lists k` at the request of page `k` -/
def pagesRead (limit : ℕ) (lists : ℕ → List α) (n : ℕ) : List α :=
  (List.range n).flatMap fun k => pageAt limit (lists k) k

/-- page `m` is the first short one -/
structure EndsAt (limit : ℕ) (lists : ℕ → List α) (m : ℕ) : Prop where
  short : (lists m).length < (m + 1) * limit
  full : ∀ k < m, (k + 1) * limit ≤ (lists k).length

theorem EndsAt.unique {limit : ℕ} {lists : ℕ → List α} {m n : ℕ} (h : EndsAt limit lists m)
    (h' : EndsAt limit lists n) : m = n := by
  rcases lt_trichotomy m n with hlt | heq | hgt
  · exact absurd h.short (not_lt.2 (h'.full m hlt))
  · exact heq
  · exact absurd h'.short (not_lt.2 (h.full n hgt))

/-- entries leave anywhere, and others join at the end -/
def Evolves (xs ys : List α) : Prop :=
  ∃ kept joined : List α, kept.Sublist xs ∧ (∀ x ∈ joined, x ∉ xs) ∧ ys = kept ++ joined

theorem Evolves.refl (xs : List α) : Evolves xs xs := ⟨xs, [], List.Sublist.refl xs, by simp, by simp⟩

theorem pageAt_short_iff {limit : ℕ} (hlimit : 0 < limit) (xs : List α) (k : ℕ) :
    (pageAt limit xs k).length < limit ↔ xs.length < (k + 1) * limit := by
  rw [pageAt, List.length_take, List.length_drop, Nat.add_one_mul]
  omega

theorem pagesRead_succ (limit : ℕ) (lists : ℕ → List α) (n : ℕ) :
    pagesRead limit lists (n + 1) = pagesRead limit lists n ++ pageAt limit (lists n) n := by
  rw [pagesRead, List.range_succ, List.flatMap_append, List.flatMap_singleton, pagesRead]

theorem take_pageAt (limit : ℕ) (xs : List α) (k : ℕ) :
    xs.take (k * limit) ++ pageAt limit xs k = xs.take ((k + 1) * limit) := by
  rw [pageAt, Nat.add_one_mul, List.take_add]

/-- the first pages of an unchanged list are its first entries -/
theorem pagesRead_const (limit : ℕ) (xs : List α) (n : ℕ) : pagesRead limit (fun _ => xs) n = xs.take (n * limit) := by
  induction n with
  | zero => simp [pagesRead]
  | succ n ih => rw [pagesRead_succ, ih, take_pageAt]

theorem pagesRead_unchanged {limit m : ℕ} {xs : List α} (h : EndsAt limit (fun _ => xs) m) :
    pagesRead limit (fun _ => xs) (m + 1) = xs := by
  rw [pagesRead_const, List.take_of_length_le h.short.le]

theorem endsAt_unchanged {limit : ℕ} (hlimit : 0 < limit) (xs : List α) :
    EndsAt limit (fun _ => xs) (xs.length / limit) := by
  constructor
  · rw [Nat.add_one_mul]
    exact Nat.lt_div_mul_add hlimit
  · intro k hk
    calc (k + 1) * limit ≤ xs.length / limit * limit := Nat.mul_le_mul_right limit hk
      _ ≤ xs.length := Nat.div_mul_le_self xs.length limit

end Pages

/-! ## Places -/

section Places

variable {α : Type} [DecidableEq α] {limit : ℕ}

/-- an entry that stays moves only towards the front -/
theorem sublist_idxOf_le {x : α} {kept xs : List α} (h : kept.Sublist xs) (hx : x ∈ kept) (hnodup : xs.Nodup) :
    kept.idxOf x ≤ xs.idxOf x := by
  induction h with
  | slnil => cases hx
  | @cons kept xs a h ih =>
    have hne : a ≠ x := by
      rintro rfl
      exact (List.nodup_cons.1 hnodup).1 (h.subset hx)
    rw [List.idxOf_cons_ne xs hne]
    exact (ih hx (List.nodup_cons.1 hnodup).2).trans (Nat.le_succ _)
  | @cons_cons kept xs a h ih =>
    by_cases ha : a = x
    · subst ha
      rw [List.idxOf_cons_self]
      exact Nat.zero_le _
    · rw [List.idxOf_cons_ne _ ha, List.idxOf_cons_ne _ ha]
      exact Nat.succ_le_succ (ih ((List.mem_cons.1 hx).resolve_left (Ne.symm ha)) (List.nodup_cons.1 hnodup).2)

theorem Evolves.idxOf_le {x : α} {xs ys : List α} (h : Evolves xs ys) (hnodup : xs.Nodup) (hx : x ∈ xs) (hy : x ∈ ys) :
    ys.idxOf x ≤ xs.idxOf x := by
  obtain ⟨kept, joined, hkept, hjoined, rfl⟩ := h
  have hstay : x ∈ kept := (List.mem_append.1 hy).resolve_right fun hnew => hjoined x hnew hx
  rw [List.idxOf_append_of_mem hstay]
  exact sublist_idxOf_le hkept hstay hnodup

theorem count_pageAt {x : α} {xs : List α} (hnodup : xs.Nodup) (hx : x ∈ xs) (k : ℕ) :
    (pageAt limit xs k).count x = if k * limit ≤ xs.idxOf x ∧ xs.idxOf x < (k + 1) * limit then 1 else 0 := by
  have hparts : (xs.take (k * limit)).count x + (pageAt limit xs k).count x = (xs.take ((k + 1) * limit)).count x := by
    rw [← List.count_append, take_pageAt]
  have htake : ∀ n, (xs.take n).count x = if xs.idxOf x < n then 1 else 0 := by
    intro n
    rw [(hnodup.sublist (List.take_sublist n xs)).count]
    simp only [List.mem_take_iff_idxOf_lt hx]
  rw [htake, htake] at hparts
  have hgrow : k * limit ≤ (k + 1) * limit := Nat.mul_le_mul_right limit (Nat.le_succ k)
  split_ifs at hparts ⊢ <;> omega

end Places

/-! ## Entries that stay -/

section Staying

variable {α : Type} [DecidableEq α] {limit m : ℕ} {lists : ℕ → List α} {x : α}

/-- the entry stands behind page `k` when that page is read, and no longer when the next one is -/
def Crosses (limit : ℕ) (lists : ℕ → List α) (x : α) (k : ℕ) : Prop :=
  (k + 1) * limit ≤ (lists k).idxOf x ∧ (lists (k + 1)).idxOf x < (k + 1) * limit

/-- a list without repetition that evolves up to request `m`, and an entry that stays -/
structure Stays (lists : ℕ → List α) (m : ℕ) (x : α) : Prop where
  nodup : ∀ k ≤ m, (lists k).Nodup
  evolves : ∀ k < m, Evolves (lists k) (lists (k + 1))
  mem : ∀ k ≤ m, x ∈ lists k

theorem Stays.idxOf_le (h : Stays lists m x) {j k : ℕ} (hjk : j ≤ k) (hk : k ≤ m) :
    (lists k).idxOf x ≤ (lists j).idxOf x := by
  induction k, hjk using Nat.le_induction with
  | base => exact le_rfl
  | succ k hjk ih =>
    have hstep := (h.evolves k hk).idxOf_le (h.nodup k (by omega)) (h.mem k (by omega)) (h.mem (k + 1) hk)
    exact hstep.trans (ih (by omega))

theorem Stays.count_page (h : Stays lists m x) {k : ℕ} (hk : k ≤ m) : (pageAt limit (lists k) k).count x =
    if k * limit ≤ (lists k).idxOf x ∧ (lists k).idxOf x < (k + 1) * limit then 1 else 0 :=
  count_pageAt (h.nodup k hk) (h.mem k hk) k

/-- what is behind the page just read has not been read yet -/
theorem Stays.unread (h : Stays lists m x) {k : ℕ} (hk : k ≤ m) (hbehind : (k + 1) * limit ≤ (lists k).idxOf x) :
    (pagesRead limit lists (k + 1)).count x = 0 := by
  have hpages : ∀ n ≤ k + 1, (pagesRead limit lists n).count x = 0 := by
    intro n
    induction n with
    | zero => simp [pagesRead]
    | succ n ih =>
      intro hn
      have hplace : (n + 1) * limit ≤ (lists n).idxOf x :=
        calc (n + 1) * limit ≤ (k + 1) * limit := Nat.mul_le_mul_right limit hn
          _ ≤ (lists k).idxOf x := hbehind
          _ ≤ (lists n).idxOf x := h.idxOf_le (by omega) hk
      rw [pagesRead_succ, List.count_append, ih (by omega), h.count_page (by omega), if_neg (by omega)]
  exact hpages (k + 1) le_rfl

/-- what has been passed was read once, unless it was moved across the end of a page -/
theorem Stays.passed (h : Stays lists m x) {n : ℕ} (hn : n ≤ m) (hpassed : (lists n).idxOf x < (n + 1) * limit) :
    (pagesRead limit lists (n + 1)).count x = 1 ∧ (∀ k < n, ¬ Crosses limit lists x k) ∨
      (pagesRead limit lists (n + 1)).count x = 0 ∧ ∃ k < n, Crosses limit lists x k := by
  induction n with
  | zero =>
    left
    refine ⟨?_, fun k hk => absurd hk (Nat.not_lt_zero k)⟩
    rw [pagesRead_succ, List.count_append, h.count_page hn, if_pos ⟨by omega, hpassed⟩]
    simp [pagesRead]
  | succ n ih =>
    have hcount : (pagesRead limit lists (n + 1 + 1)).count x =
        (pagesRead limit lists (n + 1)).count x + (pageAt limit (lists (n + 1)) (n + 1)).count x := by
      rw [pagesRead_succ, List.count_append]
    have hpage : (pageAt limit (lists (n + 1)) (n + 1)).count x = _ := h.count_page hn
    rcases le_or_gt ((n + 1) * limit) ((lists n).idxOf x) with hbehind | hahead
    · -- still behind page `n`: nothing was crossed before, and now it is read or crossed
      have hunread := h.unread (by omega) hbehind
      have hbefore : ∀ k < n, ¬ Crosses limit lists x k := by
        intro k hk hcross
        have hplace : (lists n).idxOf x < (n + 1) * limit :=
          calc (lists n).idxOf x ≤ (lists (k + 1)).idxOf x := h.idxOf_le hk (by omega)
            _ < (k + 1) * limit := hcross.2
            _ ≤ (n + 1) * limit := Nat.mul_le_mul_right limit (by omega)
        omega
      rcases le_or_gt ((n + 1) * limit) ((lists (n + 1)).idxOf x) with hread | hcrossed
      · left
        rw [hcount, hunread, hpage, if_pos ⟨hread, hpassed⟩]
        refine ⟨rfl, fun k hk hcross => ?_⟩
        rcases Nat.lt_succ_iff_lt_or_eq.1 hk with hlt | rfl
        · exact hbefore k hlt hcross
        · exact absurd hcross.2 (by omega)
      · right
        rw [hcount, hunread, hpage, if_neg (by omega)]
        exact ⟨rfl, n, Nat.lt_succ_self n, hbehind, hcrossed⟩
    · -- passed already: it only moves further to the front
      have hstep : (lists (n + 1)).idxOf x ≤ (lists n).idxOf x := h.idxOf_le (Nat.le_succ n) hn
      rw [hcount, hpage, if_neg (by omega), Nat.add_zero]
      rcases ih (by omega) hahead with ⟨hone, hnone⟩ | ⟨hzero, k, hk, hcross⟩
      · left
        refine ⟨hone, fun k hk hcross => ?_⟩
        rcases Nat.lt_succ_iff_lt_or_eq.1 hk with hlt | rfl
        · exact hnone k hlt hcross
        · exact absurd hcross.1 (by omega)
      · right
        exact ⟨hzero, k, hk.trans (Nat.lt_succ_self n), hcross⟩

/-- when the last page is short, nothing is behind it -/
theorem Stays.passed_end (h : Stays lists m x) (hend : EndsAt limit lists m) :
    (lists m).idxOf x < (m + 1) * limit :=
  (List.idxOf_lt_length_of_mem (h.mem m le_rfl)).trans hend.short

theorem count_pagesRead_le_one (h : Stays lists m x) (hend : EndsAt limit lists m) :
    (pagesRead limit lists (m + 1)).count x ≤ 1 := by
  rcases h.passed le_rfl (h.passed_end hend) with ⟨hone, -⟩ | ⟨hzero, -⟩
  · exact hone.le
  · omega

/-- **Pages of a changing list.** An entry that stays is read once, unless between two requests it is moved from behind
the page just read to before the next one. -/
theorem count_pagesRead_iff (h : Stays lists m x) (hend : EndsAt limit lists m) :
    (pagesRead limit lists (m + 1)).count x = 1 ↔ ∀ k < m, ¬ Crosses limit lists x k := by
  rcases h.passed le_rfl (h.passed_end hend) with ⟨hone, hnone⟩ | ⟨hzero, k, hk, hcross⟩
  · exact iff_of_true hone hnone
  · refine iff_of_false (by omega) fun hnone => hnone k hk hcross

end Staying

end SeeMirai
