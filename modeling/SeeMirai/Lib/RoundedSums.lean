/-
Sums that are rounded to a number of significant digits after every addition, as decimal libraries form them. Rounding
once more changes nothing, and what the roundings lose together stays below one factor for each of them.

Results:
- `roundSignificant_idem`: a rounded number is not changed by rounding it again.
- `le_roundedSum`: the exact sum, short of half a unit for each rounding, is below the rounded one.
-/
import SeeMirai.Lib.SignificantDigits

namespace SeeMirai

section Rounding

variable {precision : ℕ}

theorem halfUnit_lt_one (hprecision : 0 < precision) : halfUnit precision < 1 := by
  unfold halfUnit
  have hpow : (10 : ℚ) ^ (1 - (precision : ℤ)) ≤ 1 := zpow_le_one_of_nonpos₀ (by norm_num) (by omega)
  linarith

/-- what one rounding may leave of a number -/
theorem le_roundSignificant (precision : ℕ) {x : ℚ} (hx : 0 ≤ x) :
    x * (1 - halfUnit precision) ≤ roundSignificant precision x :=
  le_of_roundSignificant_le hx le_rfl

theorem roundSignificant_nonneg (hprecision : 0 < precision) {x : ℚ} (hx : 0 ≤ x) :
    0 ≤ roundSignificant precision x := by
  have hfactor : 0 ≤ 1 - halfUnit precision := by linarith [halfUnit_lt_one hprecision]
  exact (mul_nonneg hx hfactor).trans (le_roundSignificant precision hx)

/-- a rounded number has no more digits than the precision -/
theorem short_roundSignificant (hprecision : 0 < precision) {x : ℚ} (hx : 0 < x) :
    Short precision (roundSignificant precision x) := by
  have hscale := digitScale_pos precision x
  have hten : (10 : ℚ) ≠ 0 := by norm_num
  have habs : |x| = x := abs_of_pos hx
  obtain ⟨hlow, hhigh⟩ := roundSignificant_bounds hprecision hx
  have hvalue : roundSignificant precision x =
      (roundHalfUp (x * digitScale precision x) : ℚ) * (10 : ℚ) ^ (Int.log 10 x + 1 - (precision : ℤ)) := by
    have hinv : (10 : ℚ) ^ (Int.log 10 x + 1 - (precision : ℤ)) = (digitScale precision x)⁻¹ := by
      unfold digitScale
      rw [habs, ← zpow_neg]
      congr 1
      ring
    rw [hinv]
    rfl
  rcases hhigh.lt_or_eq with hlt | heq
  · refine ⟨roundHalfUp (x * digitScale precision x), _, hvalue, ?_⟩
    have hpositive : 0 < roundSignificant precision x := (zpow_pos (by norm_num) _).trans_le hlow
    have hpow : (0 : ℚ) < (10 : ℚ) ^ (Int.log 10 x + 1 - (precision : ℤ)) := zpow_pos (by norm_num) _
    rw [hvalue] at hlt hpositive
    have hdigits : (0 : ℚ) < roundHalfUp (x * digitScale precision x) := (pos_iff_pos_of_mul_pos hpositive).2 hpow
    have hbelow : (roundHalfUp (x * digitScale precision x) : ℚ) < (10 : ℚ) ^ precision := by
      refine lt_of_mul_lt_mul_right ?_ hpow.le
      rw [← zpow_natCast, ← zpow_add₀ hten]
      convert hlt using 2
      ring
    rw [abs_of_pos (by exact_mod_cast hdigits)]
    exact_mod_cast hbelow
  · refine ⟨1, Int.log 10 x + 1, by rw [heq]; simp, ?_⟩
    rw [abs_one]
    exact one_lt_pow₀ (by norm_num) (by omega)

theorem roundSignificant_idem (hprecision : 0 < precision) {x : ℚ} (hx : 0 ≤ x) :
    roundSignificant precision (roundSignificant precision x) = roundSignificant precision x := by
  rcases hx.eq_or_lt with rfl | hpos
  · rw [roundSignificant_zero, roundSignificant_zero]
  · exact roundSignificant_short (short_roundSignificant hprecision hpos)

end Rounding

/-! ## Sums -/

/-- from a start, each sum rounded -/
def roundedSum (precision : ℕ) (start : ℚ) (values : List ℚ) : ℚ :=
  values.foldl (fun total value => roundSignificant precision (total + value)) start

section Sums

variable {precision : ℕ}

theorem roundedSum_snoc (start : ℚ) (values : List ℚ) (value : ℚ) :
    roundedSum precision start (values ++ [value]) =
      roundSignificant precision (roundedSum precision start values + value) := by
  unfold roundedSum
  rw [List.foldl_append]
  rfl

/-- **Rounded sums.** Below a rounded sum of amounts lies the exact one, less half a unit for each rounding. -/
theorem le_roundedSum (hprecision : 0 < precision) {start : ℚ} {values : List ℚ} (hstart : 0 ≤ start)
    (hvalues : ∀ value ∈ values, 0 ≤ value) :
    (start + values.sum) * (1 - halfUnit precision) ^ values.length ≤ roundedSum precision start values := by
  have hfactor : 0 ≤ 1 - halfUnit precision := by linarith [halfUnit_lt_one hprecision]
  induction values generalizing start with
  | nil => simp [roundedSum]
  | cons value values ih =>
    have hvalue : 0 ≤ value := hvalues value List.mem_cons_self
    have hrest : 0 ≤ values.sum := List.sum_nonneg fun v hv => hvalues v (List.mem_cons_of_mem _ hv)
    have hone : 1 - halfUnit precision ≤ 1 := by
      have hunit : 0 ≤ halfUnit precision := by unfold halfUnit; positivity
      linarith
    have hrounded := le_roundSignificant precision (add_nonneg hstart hvalue)
    calc (start + (value :: values).sum) * (1 - halfUnit precision) ^ (values.length + 1)
        = ((start + value) * (1 - halfUnit precision) + values.sum * (1 - halfUnit precision))
            * (1 - halfUnit precision) ^ values.length := by rw [List.sum_cons]; ring
      _ ≤ (roundSignificant precision (start + value) + values.sum) * (1 - halfUnit precision) ^ values.length := by
          refine mul_le_mul_of_nonneg_right (add_le_add hrounded ?_) (pow_nonneg hfactor _)
          exact mul_le_of_le_one_right hrest hone
      _ ≤ roundedSum precision (roundSignificant precision (start + value)) values :=
          ih (roundSignificant_nonneg hprecision (add_nonneg hstart hvalue))
            fun v hv => hvalues v (List.mem_cons_of_mem _ hv)

theorem roundedSum_nonneg (hprecision : 0 < precision) {values : List ℚ} (hvalues : ∀ value ∈ values, 0 ≤ value) :
    0 ≤ roundedSum precision 0 values := by
  have hfactor : 0 ≤ 1 - halfUnit precision := by linarith [halfUnit_lt_one hprecision]
  refine le_trans ?_ (le_roundedSum hprecision le_rfl hvalues)
  rw [zero_add]
  exact mul_nonneg (List.sum_nonneg hvalues) (pow_nonneg hfactor _)

end Sums

end SeeMirai
