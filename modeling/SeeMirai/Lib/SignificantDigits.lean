/-
Decimal arithmetic with a fixed number of significant digits. An operation is computed exactly and then rounded, half
away from zero, to `precision` digits counted from the leading one. The exponent is not bounded.

Results:
- `roundSignificant_error`: rounding changes a number by at most half a unit in its last digit, relative to its size.
- `roundSignificant_short`: a number that has no more digits is not changed.
- `roundSignificant_mono`: rounding keeps the order of positive numbers.
- `le_of_roundSignificant_le`: what a bound on the rounded number says about the exact one.
-/
import Mathlib

namespace SeeMirai

/-! ## Rounding to an integer -/

/-- nearest integer, halves away from zero -/
def roundHalfUp (x : ℚ) : ℤ := if 0 ≤ x then ⌊x + 1 / 2⌋ else -⌊-x + 1 / 2⌋

theorem roundHalfUp_error (x : ℚ) : |(roundHalfUp x : ℚ) - x| ≤ 1 / 2 := by
  unfold roundHalfUp
  rw [abs_le]
  split_ifs with h
  · have hlow := Int.floor_le (x + 1 / 2)
    have hhigh := Int.lt_floor_add_one (x + 1 / 2)
    constructor <;> linarith
  · have hlow := Int.floor_le (-x + 1 / 2)
    have hhigh := Int.lt_floor_add_one (-x + 1 / 2)
    push_cast
    constructor <;> linarith

theorem roundHalfUp_intCast (n : ℤ) : roundHalfUp n = n := by
  have hhalf : ∀ m : ℤ, ⌊(m : ℚ) + 1 / 2⌋ = m := by
    intro m
    rw [Int.floor_eq_iff]
    constructor <;> linarith
  unfold roundHalfUp
  split_ifs with h
  · exact hhalf n
  · have hneg : -(n : ℚ) = ((-n : ℤ) : ℚ) := by push_cast; ring
    rw [hneg, hhalf, neg_neg]

/-! ## Rounding to significant digits -/

/-- the power of ten that brings the last significant digit to the units -/
def digitScale (precision : ℕ) (x : ℚ) : ℚ := (10 : ℚ) ^ ((precision : ℤ) - 1 - Int.log 10 |x|)

def roundSignificant (precision : ℕ) (x : ℚ) : ℚ := roundHalfUp (x * digitScale precision x) / digitScale precision x

/-- half a unit in the last digit of a number between 1 and 10 -/
def halfUnit (precision : ℕ) : ℚ := (10 : ℚ) ^ (1 - (precision : ℤ)) / 2

/-- an integer of at most `precision` digits, with the decimal point anywhere -/
def Short (precision : ℕ) (x : ℚ) : Prop := ∃ (n k : ℤ), x = n * (10 : ℚ) ^ k ∧ |n| < 10 ^ precision

theorem digitScale_pos (precision : ℕ) (x : ℚ) : 0 < digitScale precision x := zpow_pos (by norm_num) _

theorem roundSignificant_zero (precision : ℕ) : roundSignificant precision 0 = 0 := by
  have hzero : roundHalfUp 0 = 0 := by exact_mod_cast roundHalfUp_intCast 0
  rw [roundSignificant, zero_mul, hzero, Int.cast_zero, zero_div]

/-- **Error.** Rounding changes a number by at most half a unit in its last significant digit. -/
theorem roundSignificant_error (precision : ℕ) (x : ℚ) :
    |roundSignificant precision x - x| ≤ halfUnit precision * |x| := by
  rcases eq_or_ne x 0 with rfl | hx
  · simp [roundSignificant_zero]
  have hscale := digitScale_pos precision x
  have hlead : (10 : ℚ) ^ Int.log 10 |x| ≤ |x| := by
    have h := Int.zpow_log_le_self (b := 10) (r := |x|) (by norm_num) (abs_pos.2 hx)
    exact_mod_cast h
  have hunit : (1 / 2) / digitScale precision x = halfUnit precision * (10 : ℚ) ^ Int.log 10 |x| := by
    unfold digitScale halfUnit
    rw [div_eq_iff (zpow_ne_zero _ (by norm_num)), div_mul_eq_mul_div, div_mul_eq_mul_div, ← zpow_add₀ (by norm_num),
      ← zpow_add₀ (by norm_num)]
    ring_nf
    simp
  calc |roundSignificant precision x - x|
      = |((roundHalfUp (x * digitScale precision x) : ℚ) - x * digitScale precision x) / digitScale precision x| := by
        unfold roundSignificant
        congr 1
        field_simp
    _ = |(roundHalfUp (x * digitScale precision x) : ℚ) - x * digitScale precision x| / digitScale precision x := by
        rw [abs_div, abs_of_pos hscale]
    _ ≤ (1 / 2) / digitScale precision x := by gcongr; exact roundHalfUp_error _
    _ = halfUnit precision * (10 : ℚ) ^ Int.log 10 |x| := hunit
    _ ≤ halfUnit precision * |x| := by
        refine mul_le_mul_of_nonneg_left hlead ?_
        unfold halfUnit
        positivity

/-- **Exactness.** A number with no more digits than the precision keeps them. -/
theorem roundSignificant_short {precision : ℕ} {x : ℚ} (h : Short precision x) : roundSignificant precision x = x := by
  obtain ⟨n, k, hx, hn⟩ := h
  rcases eq_or_ne x 0 with rfl | hne
  · exact roundSignificant_zero precision
  have hscale := digitScale_pos precision x
  -- the leading digit is below the end of the window, so the scaled number is an integer
  have hlog : Int.log 10 |x| < precision + k := by
    rw [← Int.lt_zpow_iff_log_lt (by norm_num) (abs_pos.2 hne)]
    have habs : |x| = |(n : ℚ)| * (10 : ℚ) ^ k := by
      rw [hx, abs_mul, abs_of_pos (zpow_pos (by norm_num : (0 : ℚ) < 10) k)]
    have hn' : |(n : ℚ)| < (10 : ℚ) ^ precision := by exact_mod_cast hn
    rw [habs, zpow_add₀ (by norm_num)]
    push_cast
    rw [zpow_natCast]
    exact mul_lt_mul_of_pos_right hn' (zpow_pos (by norm_num) k)
  obtain ⟨j, hj⟩ := Int.eq_ofNat_of_zero_le (show 0 ≤ k + ((precision : ℤ) - 1 - Int.log 10 |x|) by omega)
  have hint : x * digitScale precision x = ((n * 10 ^ j : ℤ) : ℚ) := by
    unfold digitScale
    rw [show x * (10 : ℚ) ^ ((precision : ℤ) - 1 - Int.log 10 |x|)
        = n * (10 : ℚ) ^ (k + ((precision : ℤ) - 1 - Int.log 10 |x|)) by
      rw [zpow_add₀ (by norm_num), ← mul_assoc, ← hx], hj]
    push_cast
    rw [zpow_natCast]
  unfold roundSignificant
  rw [hint, roundHalfUp_intCast, ← hint, mul_div_assoc, div_self hscale.ne', mul_one]

/-- a bound on the rounded number is a bound on the exact one, up to the error -/
theorem le_of_roundSignificant_le {precision : ℕ} {x bound : ℚ} (hx : 0 ≤ x) (h : roundSignificant precision x ≤ bound) :
    x * (1 - halfUnit precision) ≤ bound := by
  have herror := abs_le.1 (roundSignificant_error precision x)
  rw [abs_of_nonneg hx] at herror
  linarith [herror.1]

theorem Short.shift {precision : ℕ} {x : ℚ} (h : Short precision x) (j : ℤ) : Short precision (x * (10 : ℚ) ^ j) := by
  obtain ⟨n, k, hx, hn⟩ := h
  refine ⟨n, k + j, ?_, hn⟩
  rw [hx, zpow_add₀ (by norm_num), mul_assoc]

/-! ## Rounding keeps the order -/

theorem roundHalfUp_mono {x y : ℚ} (h : x ≤ y) : roundHalfUp x ≤ roundHalfUp y := by
  unfold roundHalfUp
  split_ifs with hx hy hy
  · exact Int.floor_mono (by linarith)
  · exact absurd (hx.trans h) hy
  · have hpos : 0 ≤ ⌊y + 1 / 2⌋ := Int.floor_nonneg.2 (by linarith)
    have hneg : 0 ≤ ⌊-x + 1 / 2⌋ := Int.floor_nonneg.2 (by linarith)
    omega
  · have hfloor : ⌊-y + 1 / 2⌋ ≤ ⌊-x + 1 / 2⌋ := Int.floor_mono (by linarith)
    omega

/-- the scaled number has its leading digit at the front of the window -/
theorem scaled_bounds (precision : ℕ) {x : ℚ} (hx : 0 < x) :
    (10 : ℚ) ^ ((precision : ℤ) - 1) ≤ x * digitScale precision x ∧
      x * digitScale precision x < (10 : ℚ) ^ (precision : ℤ) := by
  have hscale := digitScale_pos precision x
  have hlow : (10 : ℚ) ^ Int.log 10 |x| ≤ |x| := by
    exact_mod_cast Int.zpow_log_le_self (b := 10) (r := |x|) (by norm_num) (abs_pos.2 hx.ne')
  have hhigh : |x| < (10 : ℚ) ^ (Int.log 10 |x| + 1) := by
    exact_mod_cast Int.lt_zpow_succ_log_self (b := 10) (by norm_num) |x|
  have hsplit : ∀ k : ℤ, (10 : ℚ) ^ (Int.log 10 |x| + k) * digitScale precision x = 10 ^ ((precision : ℤ) - 1 + k) := by
    intro k
    unfold digitScale
    rw [← zpow_add₀ (by norm_num)]
    ring_nf
  rw [abs_of_pos hx] at hlow hhigh
  constructor
  · calc (10 : ℚ) ^ ((precision : ℤ) - 1)
        = (10 : ℚ) ^ (Int.log 10 |x| + 0) * digitScale precision x := by rw [hsplit, add_zero]
      _ ≤ x * digitScale precision x := by
        rw [add_zero, abs_of_pos hx]
        exact mul_le_mul_of_nonneg_right hlow hscale.le
  · calc x * digitScale precision x
        < (10 : ℚ) ^ (Int.log 10 |x| + 1) * digitScale precision x := by
          rw [abs_of_pos hx]
          exact mul_lt_mul_of_pos_right hhigh hscale
      _ = (10 : ℚ) ^ (precision : ℤ) := by rw [hsplit, sub_add_cancel]

/-- rounding keeps a number within its decade -/
theorem roundSignificant_bounds {precision : ℕ} (hprecision : 0 < precision) {x : ℚ} (hx : 0 < x) :
    (10 : ℚ) ^ Int.log 10 x ≤ roundSignificant precision x ∧
      roundSignificant precision x ≤ (10 : ℚ) ^ (Int.log 10 x + 1) := by
  have hscale := digitScale_pos precision x
  obtain ⟨hlow, hhigh⟩ := scaled_bounds precision hx
  obtain ⟨k, rfl⟩ : ∃ k, precision = k + 1 := ⟨precision - 1, by omega⟩
  have hint : ∀ j : ℕ, roundHalfUp ((10 : ℚ) ^ (j : ℤ)) = 10 ^ j := by
    intro j
    have hcast := roundHalfUp_intCast (10 ^ j)
    push_cast at hcast
    rw [zpow_natCast]
    exact hcast
  have hexp : ∀ j : ℤ, (10 : ℚ) ^ (Int.log 10 x + j) * digitScale (k + 1) x = 10 ^ ((k : ℤ) + j) := by
    intro j
    unfold digitScale
    rw [abs_of_pos hx, ← zpow_add₀ (by norm_num)]
    congr 1
    push_cast
    ring
  unfold roundSignificant
  rw [le_div_iff₀ hscale, div_le_iff₀ hscale]
  constructor
  · have hle := roundHalfUp_mono hlow
    rw [show ((k + 1 : ℕ) : ℤ) - 1 = (k : ℤ) by push_cast; ring, hint] at hle
    have hfirst := hexp 0
    rw [add_zero, add_zero, zpow_natCast] at hfirst
    rw [hfirst]
    exact_mod_cast hle
  · have hle := roundHalfUp_mono hhigh.le
    rw [hint] at hle
    have hlast := hexp 1
    rw [hlast]
    exact_mod_cast hle

/-- **Monotonicity.** Rounding to significant digits keeps the order of positive numbers. -/
theorem roundSignificant_mono {precision : ℕ} (hprecision : 0 < precision) {x y : ℚ} (hx : 0 < x) (h : x ≤ y) :
    roundSignificant precision x ≤ roundSignificant precision y := by
  have hy : 0 < y := hx.trans_le h
  rcases (Int.log_mono_right (b := 10) hx h).eq_or_lt with heq | hlt
  · -- the same decade: the same scale
    have hscale : digitScale precision x = digitScale precision y := by
      unfold digitScale
      rw [abs_of_pos hx, abs_of_pos hy, heq]
    unfold roundSignificant
    rw [hscale]
    have hpos := digitScale_pos precision y
    have hle := roundHalfUp_mono (mul_le_mul_of_nonneg_right h hpos.le)
    gcongr
  · calc roundSignificant precision x
        ≤ (10 : ℚ) ^ (Int.log 10 x + 1) := (roundSignificant_bounds hprecision hx).2
      _ ≤ (10 : ℚ) ^ Int.log 10 y := zpow_le_zpow_right₀ (by norm_num) hlt
      _ ≤ roundSignificant precision y := (roundSignificant_bounds hprecision hy).1

end SeeMirai
