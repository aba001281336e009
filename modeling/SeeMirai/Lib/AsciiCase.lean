/-
Upper and lower case of ASCII texts.

Results:
- `Host.lower_ofList`, `Host.upper_ofList`: a host maps the letters of an ASCII text one by one.
- `Host.upper_fixed`: an ASCII text without lower-case letters is its own upper case.
-/
import SeeMirai.Lib.DecimalHost

namespace SeeMirai

/-- letters, digits and signs of the first 128 code points -/
def IsAscii (c : Char) : Prop := c.toNat < 128

/-- the case of an ASCII text is the case of its letters -/
class Host.AsciiCase (H : Host) : Prop where
  lower : ∀ s : String, (∀ c ∈ s.toList, IsAscii c) → H.toLowerCase s = asciiMap Char.toLower s
  upper : ∀ s : String, (∀ c ∈ s.toList, IsAscii c) → H.toUpperCase s = asciiMap Char.toUpper s

instance decimalHost_asciiCase : Host.AsciiCase decimalHost where
  lower _ _ := rfl
  upper _ _ := rfl

theorem isAscii_alphanum {c : Char} (h : c.isAlphanum = true) : IsAscii c := by
  simp only [Char.isAlphanum, Char.isAlpha, Char.isUpper, Char.isLower, Char.isDigit, Bool.or_eq_true,
    Bool.and_eq_true, decide_eq_true_eq, UInt32.le_iff_toNat_le] at h
  unfold IsAscii Char.toNat
  have hbounds : ('Z'.val.toNat = 90 ∧ 'z'.val.toNat = 122) ∧ '9'.val.toNat = 57 := by decide
  omega

/-- only letters have a lower-case letter as their lower case -/
theorem isAlpha_of_toLower {c d : Char} (h : c.toLower = d) (hd : d.isLower = true) : c.isAlpha = true := by
  rw [← Char.isLower_toLower_eq_isAlpha, h]
  exact hd

namespace Host

variable [H : Host] [H.AsciiCase]

theorem lower_ofList {cs : List Char} (h : ∀ c ∈ cs, IsAscii c) :
    toLowerCase (String.ofList cs) = String.ofList (cs.map Char.toLower) := by
  rw [AsciiCase.lower (String.ofList cs) (by simpa using h), asciiMap, String.toList_ofList]

theorem upper_ofList {cs : List Char} (h : ∀ c ∈ cs, IsAscii c) :
    toUpperCase (String.ofList cs) = String.ofList (cs.map Char.toUpper) := by
  rw [AsciiCase.upper (String.ofList cs) (by simpa using h), asciiMap, String.toList_ofList]

theorem upper_fixed {s : String} (h : ∀ c ∈ s.toList, IsAscii c ∧ c.isLower = false) : toUpperCase s = s := by
  rw [AsciiCase.upper s fun c hc => (h c hc).1]
  refine asciiMap_fixed fun c hc => Char.toUpper_eq_of_not_isLower ?_
  rw [(h c hc).2]
  exact Bool.false_ne_true

end Host

end SeeMirai
