/-
A mutex made of chained promises. Who asks for it takes a ticket: it remembers the promise under the owner's entry and
puts its own there, one that settles when the remembered promise has settled and the ticket is released. It enters once
the remembered promise has settled, and when it leaves it releases its ticket and removes the entry if that is still its
own. Without an entry there is nothing to wait for.

An entry that is gone is safe to miss: only the newest ticket finds its own promise there, and it enters last.

Results:
- `Serial.step`: what every step keeps.
- `Serial.alone`: at most one ticket is inside.
- `Serial.entry_removed`: the entry goes with the newest ticket, when all have left.
- `Serial.settles`: when all tickets before it have left, settling alone lets a ticket in.
-/
import Mathlib

namespace SeeMirai

/-- tickets are numbered in the order they were taken -/
structure PromiseChain where
  previous : List (Option ℕ)
  entry : Option ℕ
  entered : List ℕ
  released : Finset ℕ
  settled : Finset ℕ

namespace PromiseChain

def empty : PromiseChain := ⟨[], none, [], ∅, ∅⟩

/-- take the next ticket -/
def request (c : PromiseChain) : PromiseChain :=
  { c with previous := c.previous ++ [c.entry], entry := some c.previous.length }

/-- what the ticket waits for has settled -/
def Ready (c : PromiseChain) (i : ℕ) : Prop := ∃ p, c.previous[i]? = some p ∧ ∀ q, p = some q → q ∈ c.settled

def enter (c : PromiseChain) (i : ℕ) : PromiseChain := { c with entered := c.entered ++ [i] }

def leave (c : PromiseChain) (i : ℕ) : PromiseChain :=
  { c with released := insert i c.released, entry := if c.entry = some i then none else c.entry }

def settle (c : PromiseChain) (i : ℕ) : PromiseChain := { c with settled := insert i c.settled }

/-- inside: entered and not yet released -/
def Inside (c : PromiseChain) (i : ℕ) : Prop := i ∈ c.entered ∧ i ∉ c.released

/-- all that has entered has left -/
def Quiet (c : PromiseChain) : Prop := ∀ i, ¬ c.Inside i

inductive Step : PromiseChain → PromiseChain → Prop where
  | request {c : PromiseChain} : Step c c.request
  | enter {c : PromiseChain} (i : ℕ) (hnew : i ∉ c.entered) (hready : c.Ready i) : Step c (c.enter i)
  | leave {c : PromiseChain} (i : ℕ) (hinside : c.Inside i) : Step c (c.leave i)
  | settle {c : PromiseChain} (i : ℕ) (hready : c.Ready i) (hreleased : i ∈ c.released) : Step c (c.settle i)

/-! ## The invariant -/

structure Serial (c : PromiseChain) : Prop where
  /-- a ticket waits for the one before it, or for none, and then all before it have left -/
  waits : ∀ i p, c.previous[i]? = some p → (∀ q, p = some q → q + 1 = i) ∧ (p = none → ∀ j < i, j ∈ c.released)
  /-- the entry is that of the newest ticket; without one all have left -/
  entry : (∀ k, c.entry = some k → k + 1 = c.previous.length) ∧
    (c.entry = none → ∀ j < c.previous.length, j ∈ c.released)
  settled : ∀ i ∈ c.settled, ∀ j ≤ i, j ∈ c.released
  order : c.entered = List.range c.entered.length
  count : c.entered.length ≤ c.previous.length
  released : ∀ i ∈ c.released, i ∈ c.entered
  /-- all but the last that entered have left -/
  left : ∀ i, i + 1 < c.entered.length → i ∈ c.released

theorem serial_empty : Serial empty := by
  constructor <;> simp [empty]

variable {c c' : PromiseChain} {i j : ℕ}

namespace Serial

theorem mem_entered (h : Serial c) : i ∈ c.entered ↔ i < c.entered.length := by
  conv_lhs => rw [h.order]
  exact List.mem_range

/-- a ticket is ready only when all before it have left -/
theorem ready_left (h : Serial c) (hready : c.Ready i) : ∀ j < i, j ∈ c.released := by
  intro j hj
  obtain ⟨p, hp, hsettled⟩ := hready
  obtain ⟨hsome, hnone⟩ := h.waits i p hp
  cases p with
  | none => exact hnone rfl j hj
  | some q =>
    have hq := hsome q rfl
    exact h.settled q (hsettled q rfl) j (by omega)

theorem ready_lt (hready : c.Ready i) : i < c.previous.length := by
  obtain ⟨p, hp, -⟩ := hready
  exact (List.getElem?_eq_some_iff.1 hp).1

/-- the ticket that enters is the next one -/
theorem enters_next (h : Serial c) (hnew : i ∉ c.entered) (hready : c.Ready i) : i = c.entered.length := by
  rw [h.mem_entered] at hnew
  by_contra hne
  have hleft := h.ready_left hready c.entered.length (by omega)
  exact absurd (h.mem_entered.1 (h.released _ hleft)) (lt_irrefl _)

/-- **One inside.** -/
theorem alone (h : Serial c) (hi : c.Inside i) (hj : c.Inside j) : i = j := by
  have last : ∀ {k}, c.Inside k → k + 1 = c.entered.length := by
    intro k hk
    have hlt := h.mem_entered.1 hk.1
    have hnot : ¬ k + 1 < c.entered.length := fun hlt' => hk.2 (h.left k hlt')
    omega
  have := last hi
  have := last hj
  omega

theorem request (h : Serial c) : Serial c.request := by
  refine ⟨fun i p hp => ?_, ⟨fun k hk => ?_, fun hnone => (by cases hnone)⟩, h.settled, h.order, ?_, h.released, h.left⟩
  · rcases Nat.lt_trichotomy i c.previous.length with hlt | rfl | hgt
    · rw [PromiseChain.request, List.getElem?_append_left hlt] at hp
      exact h.waits i p hp
    · rw [PromiseChain.request, List.getElem?_concat_length] at hp
      cases hp
      exact h.entry
    · have hnone : c.request.previous[i]? = none :=
        List.getElem?_eq_none (by simp only [PromiseChain.request, List.length_append, List.length_singleton]; omega)
      rw [hnone] at hp
      cases hp
  · cases hk
    simp [PromiseChain.request]
  · have := h.count
    simp only [PromiseChain.request, List.length_append, List.length_singleton]
    omega

theorem enter (h : Serial c) (hnew : i ∉ c.entered) (hready : c.Ready i) : Serial (c.enter i) := by
  have hi := h.enters_next hnew hready
  have hleft := h.ready_left hready
  have hlt := ready_lt hready
  refine ⟨h.waits, h.entry, h.settled, ?_, ?_, fun j hj => List.mem_append_left _ (h.released j hj), ?_⟩
  · simp only [PromiseChain.enter, List.length_append, List.length_singleton, List.range_succ]
    rw [← h.order, hi]
  · simp only [PromiseChain.enter, List.length_append, List.length_singleton]
    omega
  · intro j hj
    simp only [PromiseChain.enter, List.length_append, List.length_singleton] at hj
    exact hleft j (by omega)

theorem leave (h : Serial c) (hinside : c.Inside i) : Serial (c.leave i) := by
  have hsub : ∀ j ∈ c.released, j ∈ (c.leave i).released := fun j hj => Finset.mem_insert_of_mem hj
  have hself : i ∈ (c.leave i).released := Finset.mem_insert_self _ _
  have hlast : ∀ j < i, j ∈ c.released := by
    intro j hj
    exact h.left j (by have := h.mem_entered.1 hinside.1; omega)
  refine ⟨fun j p hp => ?_, ⟨fun k hk => ?_, fun hnone j hj => ?_⟩, fun k hk j hj => hsub _ (h.settled k hk j hj),
    h.order, h.count, fun j hj => ?_, fun j hj => hsub _ (h.left j hj)⟩
  · obtain ⟨hsome, hnone⟩ := h.waits j p hp
    exact ⟨hsome, fun hp' k hk => hsub _ (hnone hp' k hk)⟩
  · simp only [PromiseChain.leave] at hk
    split_ifs at hk
    exact h.entry.1 k hk
  · simp only [PromiseChain.leave] at hnone hj
    split_ifs at hnone with hown
    · -- the entry was that of the ticket that leaves, and this is the newest
      have hnewest := h.entry.1 i hown
      rcases Nat.lt_or_ge j i with hlt | hge
      · exact hsub j (hlast j hlt)
      · obtain rfl : j = i := by omega
        exact hself
    · exact hsub j (h.entry.2 hnone j hj)
  · rcases Finset.mem_insert.1 hj with rfl | hj
    · exact hinside.1
    · exact h.released j hj

theorem settle (h : Serial c) (hready : c.Ready i) (hreleased : i ∈ c.released) : Serial (c.settle i) := by
  refine ⟨h.waits, h.entry, fun k hk j hj => ?_, h.order, h.count, h.released, h.left⟩
  rcases Finset.mem_insert.1 hk with rfl | hk
  · rcases Nat.lt_or_eq_of_le hj with hlt | rfl
    · exact h.ready_left hready j hlt
    · exact hreleased
  · exact h.settled k hk j hj

theorem step (h : Serial c) (hstep : Step c c') : Serial c' := by
  cases hstep with
  | request => exact h.request
  | enter i hnew hready => exact h.enter hnew hready
  | leave i hinside => exact h.leave hinside
  | settle i hready hreleased => exact h.settle hready hreleased

/-- **The entry goes last.** A step that removes it is that of the newest ticket leaving, and then all have left. -/
theorem entry_removed (h : Serial c) (hstep : Step c c') (hsome : c.entry ≠ none) (hnone : c'.entry = none) :
    ∃ i, i + 1 = c.previous.length ∧ c.Inside i ∧ c' = c.leave i ∧ ∀ j < c.previous.length, j ∈ c'.released := by
  have h' := h.step hstep
  cases hstep with
  | request => cases hnone
  | enter i hnew hready => exact absurd hnone hsome
  | settle i hready hreleased => exact absurd hnone hsome
  | leave i hinside =>
    refine ⟨i, ?_, hinside, rfl, h'.entry.2 hnone⟩
    simp only [PromiseChain.leave] at hnone
    split_ifs at hnone with hown
    · exact h.entry.1 i hown
    · exact absurd hnone hsome

end Serial

/-! ## Progress -/

/-- promises settle, and nothing else happens -/
inductive Settles : PromiseChain → PromiseChain → Prop where
  | refl (c : PromiseChain) : Settles c c
  | step {c c' : PromiseChain} (before : Settles c c') (i : ℕ) (hready : c'.Ready i) (hreleased : i ∈ c'.released) :
      Settles c (c'.settle i)

theorem Settles.same (h : Settles c c') : c'.previous = c.previous ∧ c'.entered = c.entered ∧
    c'.released = c.released := by
  induction h with
  | refl => exact ⟨rfl, rfl, rfl⟩
  | step _ i _ _ ih => exact ih

/-- **Who has left blocks nobody.** When all tickets before it have left, settling alone makes a ticket ready. -/
theorem Serial.settles (h : Serial c) (hi : i < c.previous.length) (hleft : ∀ j < i, j ∈ c.released) :
    ∃ c', Settles c c' ∧ c'.Ready i := by
  induction i with
  | zero =>
    refine ⟨c, .refl c, c.previous[0], List.getElem?_eq_getElem hi, fun q hq => ?_⟩
    have := (h.waits 0 _ (List.getElem?_eq_getElem hi)).1 q hq
    omega
  | succ i ih =>
    obtain ⟨c₁, hsettles, hready⟩ := ih (by omega) fun j hj => hleft j (by omega)
    obtain ⟨hprevious, -, hreleased⟩ := hsettles.same
    have hget : c.previous[i + 1]? = some c.previous[i + 1] := List.getElem?_eq_getElem hi
    refine ⟨c₁.settle i, .step hsettles i hready (hreleased ▸ hleft i (by omega)), c.previous[i + 1], ?_,
      fun q hq => ?_⟩
    · rw [← hget, ← hprevious]
      rfl
    · have hqi := (h.waits (i + 1) _ hget).1 q hq
      obtain rfl : q = i := by omega
      exact Finset.mem_insert_self _ _

end PromiseChain

end SeeMirai
