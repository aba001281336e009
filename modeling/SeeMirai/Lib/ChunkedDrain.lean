/-
Emptying a stock in chunks. Each turn takes the chunk, or all that is left where that is less, but only where the amount
to be taken is acceptable; otherwise the stock stays as it is, and it stays so for good.

Results:
- `Drainable.drain`: a turn keeps a stock drainable, or empties it.
- `drain_finishes_iff`: the stock is emptied exactly when the chunk is acceptable, as far as it is needed, and so is the
  remainder, where there is one.
-/
import Mathlib

namespace SeeMirai

variable {K : Type*} [Field K] [LinearOrder K] [IsStrictOrderedRing K] [FloorRing K]

/-- one turn -/
def drain (chunk : K) (ok : K → Prop) [DecidablePred ok] (held : K) : K :=
  if 0 < held ∧ ok (min held chunk) then held - min held chunk else held

/-- what is left after the full chunks -/
def drainRemainder (chunk held : K) : K := held - chunk * ⌊held / chunk⌋

/-- every amount that has to be taken is acceptable -/
structure Drainable (chunk : K) (ok : K → Prop) (held : K) : Prop where
  chunk_pos : 0 < chunk
  full : chunk ≤ held → ok chunk
  rest : drainRemainder chunk held ≠ 0 → ok (drainRemainder chunk held)

variable {chunk held : K} {ok : K → Prop}

theorem drainRemainder_of_lt (hheld : 0 ≤ held) (h : held < chunk) : drainRemainder chunk held = held := by
  have hchunk : 0 < chunk := hheld.trans_lt h
  have hfloor : ⌊held / chunk⌋ = 0 := by
    rw [Int.floor_eq_zero_iff]
    exact ⟨div_nonneg hheld hchunk.le, (div_lt_one hchunk).2 h⟩
  rw [drainRemainder, hfloor, Int.cast_zero, mul_zero, sub_zero]

theorem drainRemainder_sub (hchunk : 0 < chunk) : drainRemainder chunk (held - chunk) = drainRemainder chunk held := by
  have hdiv : (held - chunk) / chunk = held / chunk - 1 := by rw [sub_div, div_self hchunk.ne']
  rw [drainRemainder, drainRemainder, hdiv, Int.floor_sub_one]
  push_cast
  ring

theorem drainRemainder_self (hchunk : 0 < chunk) : drainRemainder chunk chunk = 0 := by
  rw [drainRemainder, div_self hchunk.ne', Int.floor_one, Int.cast_one, mul_one, sub_self]

namespace Drainable

theorem ok_min (h : Drainable chunk ok held) (hheld : 0 < held) : ok (min held chunk) := by
  rcases lt_or_ge held chunk with hlt | hge
  · have hrest := drainRemainder_of_lt hheld.le hlt
    have hok := h.rest (by rw [hrest]; exact hheld.ne')
    rw [hrest] at hok
    rw [min_eq_left hlt.le]
    exact hok
  · rw [min_eq_right hge]
    exact h.full hge

theorem drain_eq [DecidablePred ok] (h : Drainable chunk ok held) (hheld : 0 < held) :
    drain chunk ok held = held - min held chunk := if_pos ⟨hheld, h.ok_min hheld⟩

theorem sub_chunk (h : Drainable chunk ok held) : Drainable chunk ok (held - chunk) where
  chunk_pos := h.chunk_pos
  full hle := h.full (by linarith [h.chunk_pos])
  rest hne := by
    rw [drainRemainder_sub h.chunk_pos] at hne ⊢
    exact h.rest hne

/-- a turn empties the stock or leaves a drainable one -/
theorem drain [DecidablePred ok] (h : Drainable chunk ok held) (hheld : 0 < held) :
    SeeMirai.drain chunk ok held = 0 ∨
      0 < SeeMirai.drain chunk ok held ∧ Drainable chunk ok (SeeMirai.drain chunk ok held) := by
  rw [h.drain_eq hheld]
  rcases le_or_gt held chunk with hle | hgt
  · rw [min_eq_left hle, sub_self]
    exact Or.inl rfl
  · rw [min_eq_right hgt.le]
    exact Or.inr ⟨sub_pos.2 hgt, h.sub_chunk⟩

end Drainable

variable [DecidablePred ok]

omit [IsStrictOrderedRing K] [FloorRing K] in
theorem drain_zero : drain chunk ok 0 = 0 := if_neg fun h => lt_irrefl _ h.1

/-- along a run the stock is empty or drainable -/
theorem Drainable.iterate (h : Drainable chunk ok held) (hheld : 0 < held) (n : ℕ) :
    (SeeMirai.drain chunk ok)^[n] held = 0 ∨
      0 < (SeeMirai.drain chunk ok)^[n] held ∧ Drainable chunk ok ((SeeMirai.drain chunk ok)^[n] held) := by
  induction n with
  | zero => exact Or.inr ⟨hheld, h⟩
  | succ n ih =>
    rw [Function.iterate_succ_apply']
    rcases ih with hzero | ⟨hpos, hdrainable⟩
    · rw [hzero, drain_zero]
      exact Or.inl rfl
    · exact hdrainable.drain hpos

theorem Drainable.finishes (h : Drainable chunk ok held) (hheld : 0 < held) :
    ∃ n, (SeeMirai.drain chunk ok)^[n] held = 0 := by
  -- every turn takes a whole chunk until the last one takes what is left
  obtain ⟨turns, hturns⟩ := exists_nat_gt (held / chunk)
  rw [div_lt_iff₀ h.chunk_pos] at hturns
  induction turns generalizing held with
  | zero =>
    rw [Nat.cast_zero, zero_mul] at hturns
    exact absurd hturns (not_lt.2 hheld.le)
  | succ turns ih =>
    rcases le_or_gt held chunk with hle | hgt
    · exact ⟨1, by rw [Function.iterate_one, h.drain_eq hheld, min_eq_left hle, sub_self]⟩
    · have hless : held - chunk < turns * chunk := by
        push_cast at hturns
        linarith
      obtain ⟨n, hn⟩ := ih h.sub_chunk (sub_pos.2 hgt) hless
      exact ⟨n + 1, by rw [Function.iterate_succ_apply, h.drain_eq hheld, min_eq_right hgt.le, hn]⟩

/-- **Emptied or stuck.** A positive stock is emptied exactly when it is drainable. -/
theorem drain_finishes_iff (hok : ∀ amount, ok amount → 0 < amount) (hheld : 0 < held) :
    (∃ n, (drain chunk ok)^[n] held = 0) ↔ Drainable chunk ok held := by
  refine ⟨?_, fun h => h.finishes hheld⟩
  rintro ⟨n, hn⟩
  induction n generalizing held with
  | zero => exact absurd hn hheld.ne'
  | succ n ih =>
    rw [Function.iterate_succ_apply] at hn
    by_cases htake : ok (min held chunk)
    · have hchunk : 0 < chunk := (lt_min_iff.1 (hok _ htake)).2
      rw [drain, if_pos ⟨hheld, htake⟩] at hn
      rcases lt_or_ge held chunk with hlt | hge
      · rw [min_eq_left hlt.le] at htake
        have hrest := drainRemainder_of_lt hheld.le hlt
        exact ⟨hchunk, fun hle => absurd hle (not_le.2 hlt), fun _ => hrest.symm ▸ htake⟩
      · rw [min_eq_right hge] at htake hn
        rcases hge.eq_or_lt with rfl | hgt
        · exact ⟨hchunk, fun _ => htake, fun hne => absurd (drainRemainder_self hchunk) hne⟩
        · have hrest := (ih (sub_pos.2 hgt) hn).rest
          rw [drainRemainder_sub hchunk] at hrest
          exact ⟨hchunk, fun _ => htake, hrest⟩
    · -- nothing is taken, now or later
      rw [drain, if_neg fun h => htake h.2] at hn
      exact ih hheld hn

end SeeMirai
