/-
Code that can throw, as `Except`. The rules here take a successful run apart: what a `bind` did, what a loop over a
list did (`foldlM`), and what every iteration of a checking loop (`mapM`) returned. They are the induction rules for
loops whose body may throw: an invariant that each successful iteration keeps holds after every successful loop.

Results:
- `bind_eq_ok`: inversion of a successful bind.
- `foldlM_keeps`: the invariant rule for a throwing loop.
- `foldlM_history`: the same, with an invariant that speaks about the elements visited so far.
- `foldlM_turns`: a loop that makes something true has an iteration that does.
- `foldlM_states`: a loop that returned is a sequence of states, one step apart.
- `foldlM_collects`: a throwing loop that appends collects its elements' items in order.
- `foldlM_append_ok`: a loop over `xs ++ ys` is the loop over `xs` followed by the loop over `ys`.
- `mapM_ok_iff`: a checking loop succeeds exactly when every element does, with the elements' results in order.
- `Follows.bind` / `Follows.foldlM`: the rules for two runs side by side, the second returning whenever the first does.
-/
import Mathlib.Tactic

namespace SeeMirai.Fallible

universe u

variable {ε : Type*} {α β : Type u}

theorem bind_eq_ok {x : Except ε α} {f : α → Except ε β} {b : β} :
    (x >>= f) = .ok b ↔ ∃ a, x = .ok a ∧ f a = .ok b := by
  cases x with
  | error e => simp [bind, Except.bind]
  | ok a => simp [bind, Except.bind]

theorem map_eq_ok {x : Except ε α} {f : α → β} {b : β} :
    (f <$> x) = .ok b ↔ ∃ a, x = .ok a ∧ f a = b := by
  cases x with
  | error e => simp [Functor.map, Except.map]
  | ok a => simp [Functor.map, Except.map]

@[simp] theorem pure_eq_ok {a b : α} : (pure a : Except ε α) = .ok b ↔ a = b := by
  simp [pure, Except.pure]

@[simp] theorem throw_ne_ok {e : ε} {b : α} : (throw e : Except ε α) ≠ .ok b := by
  simp [throw, throwThe, MonadExceptOf.throw]

@[simp] theorem ok_bind (a : α) (f : α → Except ε β) : ((.ok a : Except ε α) >>= f) = f a := rfl

@[simp] theorem error_bind (e : ε) (f : α → Except ε β) : ((.error e : Except ε α) >>= f) = .error e := rfl

theorem ok_of_toOption {x : Except ε α} {a : α} (h : x.toOption = some a) : x = .ok a := by
  cases x with
  | error e => cases h
  | ok b => exact congrArg Except.ok (Option.some.inj h)

/-- a run that is seen to return has a result -/
theorem exists_ok {x : Except ε α} (h : x.toOption.isSome) : ∃ a, x = .ok a := by
  cases x with
  | error e => simp [Except.toOption] at h
  | ok a => exact ⟨a, rfl⟩

/-- **Loop invariant.** A throwing loop that returns kept every invariant its iterations keep. -/
theorem foldlM_keeps {xs : List α} {f : β → α → Except ε β} (P : β → Prop)
    (hstep : ∀ b x b', x ∈ xs → f b x = .ok b' → P b → P b') {b b' : β}
    (h : xs.foldlM f b = .ok b') (hb : P b) : P b' := by
  induction xs generalizing b with
  | nil => simp only [List.foldlM_nil, pure_eq_ok] at h; exact h ▸ hb
  | cons x xs ih =>
    rw [List.foldlM_cons, bind_eq_ok] at h
    obtain ⟨c, hc, hrest⟩ := h
    have hcP : P c := hstep b x c (by simp) hc hb
    exact ih (fun b y b' hy => hstep b y b' (by simp [hy])) hrest hcP

/-- **Loop invariant with history.** The invariant may speak about the elements already visited. -/
theorem foldlM_history {xs : List α} {f : β → α → Except ε β} (P : List α → β → Prop) {b b' : β} (hinit : P [] b)
    (hstep : ∀ visited x c c', P visited c → f c x = .ok c' → P (visited ++ [x]) c')
    (h : xs.foldlM f b = .ok b') : P xs b' := by
  induction xs using List.reverseRecOn generalizing b' with
  | nil => simp only [List.foldlM_nil, pure_eq_ok] at h; exact h ▸ hinit
  | append_singleton xs x ih =>
    rw [List.foldlM_append, bind_eq_ok] at h
    obtain ⟨c, hc, hlast⟩ := h
    rw [List.foldlM_cons, bind_eq_ok] at hlast
    obtain ⟨c', hc', hnil⟩ := hlast
    rw [List.foldlM_nil, pure_eq_ok] at hnil
    exact hnil ▸ hstep xs x c c' (ih hc) hc'

/-- what a loop made true was made true by one of its iterations -/
theorem foldlM_turns {xs : List α} {f : β → α → Except ε β} (P : β → Prop) {b b' : β} (h : xs.foldlM f b = .ok b')
    (hstart : ¬ P b) (hend : P b') :
    ∃ before x after c c', xs = before ++ x :: after ∧ before.foldlM f b = .ok c ∧ f c x = .ok c' ∧
      after.foldlM f c' = .ok b' ∧ ¬ P c ∧ P c' := by
  induction xs generalizing b with
  | nil =>
    simp only [List.foldlM_nil, pure_eq_ok] at h
    exact absurd (h ▸ hend) hstart
  | cons x xs ih =>
    rw [List.foldlM_cons, bind_eq_ok] at h
    obtain ⟨c, hc, hrest⟩ := h
    by_cases hP : P c
    · exact ⟨[], x, xs, b, c, rfl, rfl, hc, hrest, hstart, hP⟩
    · obtain ⟨before, y, after, d, d', rfl, hbefore, hy, hafter, hd, hd'⟩ := ih hrest hP
      exact ⟨x :: before, y, after, d, d', rfl, by rw [List.foldlM_cons, hc, ok_bind, hbefore], hy, hafter, hd, hd'⟩

/-- the iteration of one element of a loop that returned -/
theorem foldlM_at {before after : List α} {x : α} {f : β → α → Except ε β} {b b' : β}
    (h : (before ++ x :: after).foldlM f b = .ok b') :
    ∃ c c', before.foldlM f b = .ok c ∧ f c x = .ok c' ∧ after.foldlM f c' = .ok b' := by
  rw [List.foldlM_append, bind_eq_ok] at h
  obtain ⟨c, hc, h⟩ := h
  rw [List.foldlM_cons, bind_eq_ok] at h
  obtain ⟨c', hc', h⟩ := h
  exact ⟨c, c', hc, hc', h⟩

theorem foldlM_append_ok {xs ys : List α} {f : β → α → Except ε β} {b c : β} :
    (xs ++ ys).foldlM f b = .ok c ↔ ∃ m, xs.foldlM f b = .ok m ∧ ys.foldlM f m = .ok c := by
  rw [List.foldlM_append, bind_eq_ok]

/-- a loop that returned, as the sequence of its states -/
theorem foldlM_states {xs : List α} {f : β → α → Except ε β} {b b' : β} (h : xs.foldlM f b = .ok b') :
    ∃ state : ℕ → β, state 0 = b ∧ state xs.length = b' ∧ (∀ i, (xs.take i).foldlM f b = .ok (state i)) ∧
      ∀ i x, xs[i]? = some x → f (state i) x = .ok (state (i + 1)) := by
  have hprefix : ∀ i, ∃ c, (xs.take i).foldlM f b = .ok c := by
    intro i
    rw [← List.take_append_drop i xs, foldlM_append_ok] at h
    obtain ⟨c, hc, -⟩ := h
    exact ⟨c, hc⟩
  choose state hstate using hprefix
  refine ⟨state, ?_, ?_, hstate, ?_⟩
  · have hfirst := hstate 0
    rw [List.take_zero, List.foldlM_nil, pure_eq_ok] at hfirst
    exact hfirst.symm
  · have hlast := hstate xs.length
    rw [List.take_length, h, Except.ok.injEq] at hlast
    exact hlast.symm
  · intro i x hx
    have hnext := hstate (i + 1)
    rw [List.take_add_one, hx, Option.toList_some, foldlM_append_ok] at hnext
    obtain ⟨c, hc, hlast⟩ := hnext
    rw [hstate i, Except.ok.injEq] at hc
    subst hc
    rw [List.foldlM_cons, bind_eq_ok] at hlast
    obtain ⟨d, hd, hnil⟩ := hlast
    rw [List.foldlM_nil, pure_eq_ok] at hnil
    rw [hd, hnil]

/-- a loop whose iterations append to a list collects what its elements append, in order -/
theorem foldlM_collects {γ : Type*} {xs : List α} {f : β → α → Except ε β} (collected : β → List γ) (item : α → List γ)
    (hstep : ∀ b x b', f b x = .ok b' → collected b' = collected b ++ item x) {b b' : β}
    (h : xs.foldlM f b = .ok b') : collected b' = collected b ++ xs.flatMap item := by
  induction xs generalizing b with
  | nil => simp only [List.foldlM_nil, pure_eq_ok] at h; simp [h]
  | cons x xs ih =>
    rw [List.foldlM_cons, bind_eq_ok] at h
    obtain ⟨c, hc, hrest⟩ := h
    rw [ih hrest, hstep b x c hc, List.flatMap_cons, List.append_assoc]

/-- iterations that do nothing can be filtered out of a loop -/
theorem foldlM_filter {xs : List α} {f : β → α → Except ε β} (p : α → Bool)
    (hskip : ∀ b x, p x = false → f b x = pure b) (b : β) : xs.foldlM f b = (xs.filter p).foldlM f b := by
  induction xs generalizing b with
  | nil => rfl
  | cons x xs ih =>
    cases hp : p x with
    | true =>
      rw [List.filter_cons_of_pos hp, List.foldlM_cons, List.foldlM_cons]
      exact congrArg (f b x >>= ·) (funext fun c => ih c)
    | false =>
      rw [List.filter_cons_of_neg (by simp [hp]), List.foldlM_cons, hskip b x hp, pure_bind, ih]

theorem foldlM_congr {xs : List α} {f g : β → α → Except ε β} (h : ∀ x ∈ xs, ∀ b, f b x = g b x) (b : β) :
    xs.foldlM f b = xs.foldlM g b := by
  induction xs generalizing b with
  | nil => rfl
  | cons x xs ih =>
    rw [List.foldlM_cons, List.foldlM_cons, h x (by simp)]
    exact congrArg (g b x >>= ·) (funext fun c => ih (fun y hy => h y (by simp [hy])) c)

theorem mapM_ok_iff {xs : List α} {f : α → Except ε β} {ys : List β} :
    xs.mapM f = .ok ys ↔ List.Forall₂ (fun x y => f x = .ok y) xs ys := by
  induction xs generalizing ys with
  | nil => cases ys <;> simp
  | cons x xs ih =>
    rw [List.mapM_cons, bind_eq_ok]
    constructor
    · rintro ⟨y, hy, h⟩
      obtain ⟨zs, hzs, h⟩ := bind_eq_ok.1 h
      rw [pure_eq_ok] at h
      subst h
      exact List.Forall₂.cons hy (ih.1 hzs)
    · rintro (_ | ⟨hy, hrest⟩)
      exact ⟨_, hy, bind_eq_ok.2 ⟨_, ih.2 hrest, rfl⟩⟩

/-- a checking loop that returned is the map of its elements' results -/
theorem mapM_eq_map {xs : List α} {f : α → Except ε β} {ys : List β} (d : β) (h : xs.mapM f = .ok ys) :
    ys = xs.map (fun x => (f x).toOption.getD d) ∧ ∀ x ∈ xs, f x = .ok ((f x).toOption.getD d) := by
  have hall := mapM_ok_iff.1 h
  clear h
  induction hall with
  | nil => simp
  | cons hx _ ih =>
    refine ⟨?_, ?_⟩
    · rw [List.map_cons, ← ih.1, hx]; rfl
    · intro z hz
      rcases List.mem_cons.1 hz with rfl | hmem
      · rw [hx]; rfl
      · exact ih.2 z hmem

theorem mapM_total {xs : List α} {f : α → Except ε β} (h : ∀ x ∈ xs, ∃ y, f x = .ok y) : ∃ ys, xs.mapM f = .ok ys := by
  induction xs with
  | nil => exact ⟨[], rfl⟩
  | cons x xs ih =>
    obtain ⟨y, hy⟩ := h x (by simp)
    obtain ⟨ys, hys⟩ := ih fun z hz => h z (by simp [hz])
    exact ⟨y :: ys, by rw [List.mapM_cons, hy, ok_bind, hys]; rfl⟩

/-- a checking loop over a permuted list returns the permuted results -/
theorem mapM_perm {xs xs' : List α} (hp : xs.Perm xs') {f : α → Except ε β} {ys : List β} (h : xs.mapM f = .ok ys) :
    ∃ ys', xs'.mapM f = .ok ys' ∧ ys.Perm ys' := by
  obtain ⟨ys', hall, hperm⟩ := List.perm_comp_forall₂ hp.symm (mapM_ok_iff.1 h)
  exact ⟨ys', mapM_ok_iff.2 hall, hperm.symm⟩

/-- a loop whose iterations never throw returns -/
theorem foldlM_total {xs : List α} {f : β → α → Except ε β} (h : ∀ x ∈ xs, ∀ b, ∃ b', f b x = .ok b') (b : β) :
    ∃ b', xs.foldlM f b = .ok b' := by
  induction xs generalizing b with
  | nil => exact ⟨b, rfl⟩
  | cons x xs ih =>
    obtain ⟨c, hc⟩ := h x (by simp) b
    obtain ⟨b', hb'⟩ := ih (fun y hy => h y (by simp [hy])) c
    exact ⟨b', by rw [List.foldlM_cons, hc, ok_bind, hb']⟩

/-- a loop whose iterations return and keep an invariant returns and keeps it -/
theorem foldlM_total_keeps {xs : List α} {f : β → α → Except ε β} (P : β → Prop)
    (h : ∀ x ∈ xs, ∀ b, P b → ∃ b', f b x = .ok b' ∧ P b') {b : β} (hb : P b) :
    ∃ b', xs.foldlM f b = .ok b' ∧ P b' := by
  induction xs generalizing b with
  | nil => exact ⟨b, rfl, hb⟩
  | cons x xs ih =>
    obtain ⟨c, hc, hP⟩ := h x (by simp) b hb
    obtain ⟨b', hb', hP'⟩ := ih (fun y hy => h y (by simp [hy])) hP
    exact ⟨b', by rw [List.foldlM_cons, hc, ok_bind, hb'], hP'⟩

/-- in a loop that returned every iteration did -/
theorem foldlM_visits {xs : List α} {f : β → α → Except ε β} {b b' : β} (h : xs.foldlM f b = .ok b') {x : α}
    (hx : x ∈ xs) : ∃ c c', f c x = .ok c' := by
  induction xs generalizing b with
  | nil => simp at hx
  | cons y ys ih =>
    rw [List.foldlM_cons, bind_eq_ok] at h
    obtain ⟨c, hc, hrest⟩ := h
    rcases List.mem_cons.1 hx with rfl | hmem
    · exact ⟨b, c, hc⟩
    · exact ih hrest hmem

/-- what the iterations carry along unread can be put on, or left out, after the loop -/
theorem foldlM_carry {γ : Type u} {xs : List α} {f : β → α → Except ε β} {f' : γ → α → Except ε γ} (g : β → γ)
    (hstep : ∀ b x, f' (g b) x = g <$> f b x) (b : β) : xs.foldlM f' (g b) = g <$> xs.foldlM f b := by
  induction xs generalizing b with
  | nil => rfl
  | cons x xs ih =>
    rw [List.foldlM_cons, List.foldlM_cons, hstep]
    cases f b x with
    | error e => rfl
    | ok c => exact ih c

/-! ## Two runs side by side -/

section Follows

variable {γ δ : Type u}

/-- whenever the first run returns the second does, with a related result -/
def Follows (R : α → β → Prop) (x : Except ε α) (y : Except ε β) : Prop := ∀ a, x = .ok a → ∃ b, y = .ok b ∧ R a b

theorem Follows.pure {R : α → β → Prop} {a : α} {b : β} (h : R a b) :
    Follows R (Pure.pure a : Except ε α) (Pure.pure b) := by
  intro a' ha
  rw [pure_eq_ok] at ha
  exact ⟨b, rfl, ha ▸ h⟩

theorem Follows.refl (x : Except ε α) : Follows Eq x x := fun a h => ⟨a, h, rfl⟩

theorem Follows.bind {R : α → β → Prop} {S : γ → δ → Prop} {x : Except ε α} {y : Except ε β} {f : α → Except ε γ}
    {g : β → Except ε δ} (h : Follows R x y) (hf : ∀ a b, R a b → Follows S (f a) (g b)) :
    Follows S (x >>= f) (y >>= g) := by
  intro c hc
  obtain ⟨a, ha, hfa⟩ := bind_eq_ok.1 hc
  obtain ⟨b, hb, hR⟩ := h a ha
  obtain ⟨d, hd, hS⟩ := hf a b hR c hfa
  exact ⟨d, bind_eq_ok.2 ⟨b, hb, hd⟩, hS⟩

theorem Follows.foldlM {R : γ → δ → Prop} {T : α → β → Prop} {xs : List α} {ys : List β} {f : γ → α → Except ε γ}
    {g : δ → β → Except ε δ} (hxs : List.Forall₂ T xs ys)
    (hstep : ∀ c d x y, T x y → R c d → Follows R (f c x) (g d y)) {c : γ} {d : δ} (h : R c d) :
    Follows R (xs.foldlM f c) (ys.foldlM g d) := by
  induction hxs generalizing c d with
  | nil => exact Follows.pure h
  | cons hx _ ih => exact (hstep c d _ _ hx h).bind fun c' d' h' => ih h'

end Follows

end SeeMirai.Fallible
