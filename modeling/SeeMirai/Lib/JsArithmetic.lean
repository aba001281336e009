/-
Arithmetic on the decimals that a host reads. An operation is exact up to the default precision of decimal.js; what it
gives is again the value of a text, so it can be printed and read back.

Results:
- `decimalRound_pos` / `decimalRound_nonneg` / `decimalRound_nonpos`: rounding keeps the sign.
- `Host.Denotes.read_toFixed`: a value that some text denotes is read back from its print.
- `plainHost_closed`: the integers are closed under the operations.
-/
import SeeMirai.Lib.JsHost
import SeeMirai.Lib.SignificantDigits

namespace SeeMirai

/-- decimal.js with its default precision -/
def decimalRound (x : ℚ) : ℚ := roundSignificant 20 x

theorem decimalRound_pos {x : ℚ} (h : 0 < x) : 0 < decimalRound x := by
  have herror := (abs_le.1 (roundSignificant_error 20 x)).1
  have hunit : halfUnit 20 ≤ 1 / 2 := by unfold halfUnit; norm_num
  rw [abs_of_pos h] at herror
  have hlost : halfUnit 20 * x ≤ 1 / 2 * x := mul_le_mul_of_nonneg_right hunit h.le
  unfold decimalRound
  linarith

theorem decimalRound_nonneg {x : ℚ} (h : 0 ≤ x) : 0 ≤ decimalRound x := by
  rcases h.eq_or_lt with rfl | hpos
  · exact (roundSignificant_zero 20).ge
  · exact (decimalRound_pos hpos).le

theorem decimalRound_nonpos {x : ℚ} (h : x ≤ 0) : decimalRound x ≤ 0 := by
  have herror := (abs_le.1 (roundSignificant_error 20 x)).2
  have hunit : halfUnit 20 ≤ 1 / 2 := by unfold halfUnit; norm_num
  rw [abs_of_nonpos h] at herror
  have hlost : halfUnit 20 * -x ≤ 1 / 2 * -x := mul_le_mul_of_nonneg_right hunit (by linarith)
  unfold decimalRound
  linarith

theorem decimalRound_mono {x y : ℚ} (hx : 0 < x) (h : x ≤ y) : decimalRound x ≤ decimalRound y :=
  roundSignificant_mono (by norm_num) hx h

/-! ## Values with a text -/

/-- some text has this value -/
def Host.Denotes [Host] (a : ℚ) : Prop := ∃ s, Host.valueOf s = some a

/-- differences, products and rounded numbers have a text -/
class Host.Closed (H : Host) : Prop where
  sub : ∀ {a b : ℚ}, Host.Denotes a → Host.Denotes b → Host.Denotes (a - b)
  mul : ∀ {a b : ℚ}, Host.Denotes a → Host.Denotes b → Host.Denotes (a * b)
  round : ∀ {a : ℚ}, Host.Denotes a → Host.Denotes (decimalRound a)

/-- the empty text is no number -/
class Host.RejectsEmpty (H : Host) : Prop where
  decimal_empty : H.decimal "" = .invalid

theorem Host.Denotes.read_toFixed [H : Host] [H.Prints] {a : ℚ} (h : Host.Denotes a) :
    Host.valueOf (Host.toFixed a) = some a := by
  obtain ⟨s, hs⟩ := h
  exact Host.Prints.read_toFixed hs

/-! ## Integers -/

theorem roundSignificant_intCast (precision : ℕ) (n : ℤ) : ∃ m : ℤ, roundSignificant precision n = m := by
  rcases le_or_gt 0 ((precision : ℤ) - 1 - Int.log 10 |(n : ℚ)|) with hnonneg | hneg
  · -- the scale is a natural power of ten, so nothing is rounded away
    obtain ⟨k, hk⟩ := Int.eq_ofNat_of_zero_le hnonneg
    have hscale : digitScale precision n = ((10 ^ k : ℤ) : ℚ) := by
      unfold digitScale
      rw [hk]
      push_cast
      rw [zpow_natCast]
    refine ⟨n, ?_⟩
    unfold roundSignificant
    rw [hscale, ← Int.cast_mul, roundHalfUp_intCast]
    push_cast
    rw [mul_div_assoc, div_self (by positivity), mul_one]
  · obtain ⟨k, hk⟩ := Int.eq_ofNat_of_zero_le (show 0 ≤ -((precision : ℤ) - 1 - Int.log 10 |(n : ℚ)|) by omega)
    refine ⟨roundHalfUp (n * digitScale precision n) * 10 ^ k, ?_⟩
    unfold roundSignificant
    rw [div_eq_mul_inv]
    push_cast
    congr 1
    unfold digitScale
    rw [← zpow_neg, hk, zpow_natCast]

theorem plainHost_denotes {a : ℚ} : Host.Denotes a ↔ ∃ n : ℤ, a = n := by
  constructor
  · rintro ⟨s, hs⟩
    exact ⟨a.num, (readInteger_isInt hs).symm⟩
  · rintro ⟨n, rfl⟩
    exact ⟨Int.repr n, readInteger_repr n⟩

instance plainHost_rejectsEmpty : Host.RejectsEmpty plainHost := ⟨by decide +kernel⟩

instance plainHost_closed : Host.Closed plainHost where
  sub ha hb := by
    obtain ⟨m, rfl⟩ := plainHost_denotes.1 ha
    obtain ⟨n, rfl⟩ := plainHost_denotes.1 hb
    exact plainHost_denotes.2 ⟨m - n, by push_cast; rfl⟩
  mul ha hb := by
    obtain ⟨m, rfl⟩ := plainHost_denotes.1 ha
    obtain ⟨n, rfl⟩ := plainHost_denotes.1 hb
    exact plainHost_denotes.2 ⟨m * n, by push_cast; rfl⟩
  round ha := by
    obtain ⟨n, rfl⟩ := plainHost_denotes.1 ha
    exact plainHost_denotes.2 (roundSignificant_intCast 20 n)

end SeeMirai
