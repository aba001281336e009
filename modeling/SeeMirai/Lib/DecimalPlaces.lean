/-
Decimal fractions: numbers with finitely many decimal places, and truncation to a number of places, toward zero as
`toDecimalPlaces(places, ROUND_DOWN)` does it. The numbers with at most `places` places are a grid; truncation is the
nearest grid point on the side of zero.

Results:
- `truncate_le`, `lt_truncate_add`: how far truncation of a number that is not negative moves it.
- `OnGrid.le_truncate`: a grid point below a number is below its truncation.
- `OnGrid.truncate_eq`: grid points stay where they are.
- `IsDecimalFraction.add`, `IsDecimalFraction.sub`, `IsDecimalFraction.mul`: decimal fractions are a ring.
- `IsDecimalFraction.onGrid_den`: a decimal fraction has no more places than its denominator says.
-/
import Mathlib

namespace SeeMirai

/-! ## The grid -/

/-- at most `places` decimal places -/
def OnGrid (places : ℕ) (x : ℚ) : Prop := ∃ n : ℤ, x = n / 10 ^ places

/-- toward zero, to `places` decimal places -/
def truncate (places : ℕ) (x : ℚ) : ℚ :=
  (if 0 ≤ x then (⌊x * 10 ^ places⌋ : ℚ) else (⌈x * 10 ^ places⌉ : ℚ)) / 10 ^ places

section Grid

variable {places : ℕ} {x y : ℚ}

theorem pow_ten_pos (places : ℕ) : (0 : ℚ) < 10 ^ places := by positivity

theorem onGrid_truncate (places : ℕ) (x : ℚ) : OnGrid places (truncate places x) := by
  unfold truncate
  split_ifs with h
  · exact ⟨_, rfl⟩
  · exact ⟨_, rfl⟩

theorem truncate_of_nonneg (h : 0 ≤ x) : truncate places x = ⌊x * 10 ^ places⌋ / 10 ^ places := by
  unfold truncate
  rw [if_pos h]

theorem truncate_le (h : 0 ≤ x) : truncate places x ≤ x := by
  rw [truncate_of_nonneg h, div_le_iff₀ (pow_ten_pos places)]
  exact Int.floor_le _

theorem truncate_nonneg (h : 0 ≤ x) : 0 ≤ truncate places x := by
  have hpow := pow_ten_pos places
  have hfloor : (0 : ℚ) ≤ ⌊x * 10 ^ places⌋ := by
    exact_mod_cast Int.floor_nonneg.2 (mul_nonneg h hpow.le)
  rw [truncate_of_nonneg h]
  exact div_nonneg hfloor hpow.le

/-- truncation loses less than one unit of the last place -/
theorem lt_truncate_add (h : 0 ≤ x) : x < truncate places x + 1 / 10 ^ places := by
  rw [truncate_of_nonneg h, ← add_div, lt_div_iff₀ (pow_ten_pos places)]
  exact Int.lt_floor_add_one _

theorem OnGrid.truncate_eq (h : OnGrid places x) : truncate places x = x := by
  obtain ⟨n, rfl⟩ := h
  have hcancel : (n : ℚ) / 10 ^ places * 10 ^ places = n := div_mul_cancel₀ _ (pow_ten_pos places).ne'
  unfold truncate
  rw [hcancel, Int.floor_intCast, Int.ceil_intCast, ite_self]

/-- the truncation of a number is the greatest grid point below it -/
theorem OnGrid.le_truncate (h : OnGrid places x) (hy : 0 ≤ y) (hle : x ≤ y) : x ≤ truncate places y := by
  obtain ⟨n, rfl⟩ := h
  have hpow := pow_ten_pos places
  have hfloor : n ≤ ⌊y * 10 ^ places⌋ := Int.le_floor.2 ((div_le_iff₀ hpow).1 hle)
  rw [truncate_of_nonneg hy]
  gcongr

theorem OnGrid.sub (hx : OnGrid places x) (hy : OnGrid places y) : OnGrid places (x - y) := by
  obtain ⟨m, rfl⟩ := hx
  obtain ⟨n, rfl⟩ := hy
  exact ⟨m - n, by push_cast; ring⟩

theorem OnGrid.min (hx : OnGrid places x) (hy : OnGrid places y) : OnGrid places (min x y) := by
  rcases min_choice x y with h | h
  · rw [h]
    exact hx
  · rw [h]
    exact hy

/-- the least positive grid point is one unit of the last place -/
theorem OnGrid.unit_le (h : OnGrid places x) (hpos : 0 < x) : 1 / 10 ^ places ≤ x := by
  obtain ⟨n, rfl⟩ := h
  have hpow := pow_ten_pos places
  have hn : (0 : ℚ) < n := by
    by_contra hneg
    exact absurd (div_nonpos_of_nonpos_of_nonneg (not_lt.1 hneg) hpow.le) (not_le.2 hpos)
  have hone : (1 : ℤ) ≤ n := by exact_mod_cast hn
  gcongr
  exact_mod_cast hone

end Grid

/-! ## Decimal fractions -/

/-- finitely many decimal places -/
def IsDecimalFraction (x : ℚ) : Prop := ∃ places, OnGrid places x

namespace IsDecimalFraction

variable {x y : ℚ}

theorem intCast (n : ℤ) : IsDecimalFraction n := ⟨0, n, by simp⟩

theorem natCast (n : ℕ) : IsDecimalFraction n := by exact_mod_cast intCast n

theorem truncate (places : ℕ) (x : ℚ) : IsDecimalFraction (truncate places x) := ⟨places, onGrid_truncate places x⟩

theorem add (hx : IsDecimalFraction x) (hy : IsDecimalFraction y) : IsDecimalFraction (x + y) := by
  obtain ⟨j, m, rfl⟩ := hx
  obtain ⟨k, n, rfl⟩ := hy
  refine ⟨j + k, m * 10 ^ k + n * 10 ^ j, ?_⟩
  push_cast
  field_simp
  ring

theorem neg (hx : IsDecimalFraction x) : IsDecimalFraction (-x) := by
  obtain ⟨j, m, rfl⟩ := hx
  exact ⟨j, -m, by push_cast; ring⟩

theorem sub (hx : IsDecimalFraction x) (hy : IsDecimalFraction y) : IsDecimalFraction (x - y) := by
  rw [sub_eq_add_neg]
  exact hx.add hy.neg

theorem mul (hx : IsDecimalFraction x) (hy : IsDecimalFraction y) : IsDecimalFraction (x * y) := by
  obtain ⟨j, m, rfl⟩ := hx
  obtain ⟨k, n, rfl⟩ := hy
  refine ⟨j + k, m * n, ?_⟩
  push_cast
  field_simp
  ring

end IsDecimalFraction

/-- a denominator made of twos and fives divides the power of ten with itself as exponent -/
theorem dvd_pow_ten_self {d k : ℕ} (h : d ∣ 10 ^ k) : d ∣ 10 ^ d := by
  rw [show (10 : ℕ) = 2 * 5 from rfl, mul_pow] at h ⊢
  obtain ⟨e, f, he, hf, rfl⟩ := (Nat.dvd_mul).1 h
  obtain ⟨a, -, rfl⟩ := (Nat.dvd_prime_pow Nat.prime_two).1 he
  obtain ⟨b, -, rfl⟩ := (Nat.dvd_prime_pow Nat.prime_five).1 hf
  have ha : a ≤ 2 ^ a * 5 ^ b := (Nat.lt_two_pow_self).le.trans (Nat.le_mul_of_pos_right _ (by positivity))
  have hb : b ≤ 2 ^ a * 5 ^ b :=
    (Nat.lt_pow_self (by norm_num)).le.trans (Nat.le_mul_of_pos_left _ (by positivity))
  exact mul_dvd_mul (pow_dvd_pow 2 ha) (pow_dvd_pow 5 hb)

/-- a decimal fraction has no more places than its denominator says -/
theorem IsDecimalFraction.onGrid_den {x : ℚ} (h : IsDecimalFraction x) : OnGrid x.den x := by
  obtain ⟨k, n, hn⟩ := h
  have hdvd : x.den ∣ 10 ^ k := by
    have hle := Rat.den_dvd n ((10 : ℤ) ^ k)
    rw [show (Rat.divInt n (10 ^ k) : ℚ) = x by rw [hn, Rat.divInt_eq_div]; push_cast; rfl] at hle
    exact_mod_cast hle
  obtain ⟨e, he⟩ := dvd_pow_ten_self hdvd
  have hden : (x.den : ℚ) ≠ 0 := by exact_mod_cast x.den_nz
  have hpow : (10 : ℚ) ^ x.den = x.den * e := by exact_mod_cast he
  refine ⟨x.num * e, ?_⟩
  rw [eq_div_iff (pow_ten_pos _).ne', hpow, ← mul_assoc, Rat.mul_den_eq_num]
  push_cast
  rfl

end SeeMirai
