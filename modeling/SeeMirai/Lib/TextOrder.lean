/-
Texts as JavaScript compares them: by UTF-16 code units, where a character outside the basic plane counts as two. The
encoding is a prefix code, so two texts with the same units are the same text and the order is total on texts.

- `codeUnits_injective`: the units determine the text.
- `compareString_trans`, `compareString_eq`: the order of texts is total, and only a text itself is its equal.
- `compare_digits`: two digit texts without leading zeroes are ordered by their length and then as texts exactly as the
  numbers they spell, whatever their size.
-/
import SeeMirai.Lib.StableSort

namespace SeeMirai

/-! ## Code units -/

/-- the UTF-16 code units of a character -/
def charUnits (c : Char) : List ℕ :=
  if c.toNat < 0x10000 then [c.toNat]
  else [0xd800 + (c.toNat - 0x10000) / 0x400, 0xdc00 + (c.toNat - 0x10000) % 0x400]

def codeUnits (s : String) : List ℕ := s.toList.flatMap charUnits

/-- a character of the basic plane is no surrogate -/
theorem toNat_not_surrogate (c : Char) : c.toNat < 0xd800 ∨ 0xdfff < c.toNat := by
  have hvalid : c.toNat < 0xd800 ∨ 0xdfff < c.toNat ∧ c.toNat < 0x110000 := c.valid
  exact hvalid.imp_right And.left

theorem charUnits_append_inj {c d : Char} {x y : List ℕ} (h : charUnits c ++ x = charUnits d ++ y) : c = d ∧ x = y := by
  have hc := toNat_not_surrogate c
  have hd := toNat_not_surrogate d
  have hlimit : ∀ e : Char, e.toNat < 0x110000 := by
    intro e
    rcases e.valid with hlow | ⟨-, hhigh⟩
    · exact lt_trans hlow (by decide)
    · exact hhigh
  have hclimit := hlimit c
  have hdlimit := hlimit d
  have htext : c.toNat = d.toNat → c = d := fun hnat => by rw [← Char.ofNat_toNat c, hnat, Char.ofNat_toNat]
  unfold charUnits at h
  split_ifs at h with hcbasic hdbasic hdbasic
  · simp only [List.cons_append, List.nil_append, List.cons.injEq] at h
    exact ⟨htext h.1, h.2⟩
  · -- a basic character against the first of two surrogates
    simp only [List.cons_append, List.nil_append, List.cons.injEq] at h
    omega
  · simp only [List.cons_append, List.nil_append, List.cons.injEq] at h
    omega
  · simp only [List.cons_append, List.nil_append, List.cons.injEq] at h
    exact ⟨htext (by omega), h.2.2⟩

theorem codeUnits_injective {s t : String} (h : codeUnits s = codeUnits t) : s = t := by
  have hne : ∀ c : Char, charUnits c ≠ [] := by
    intro c
    unfold charUnits
    split_ifs
    · simp
    · simp
  have hlists : ∀ cs ds : List Char, cs.flatMap charUnits = ds.flatMap charUnits → cs = ds := by
    intro cs
    induction cs with
    | nil =>
      intro ds hds
      cases ds with
      | nil => rfl
      | cons d ds => simp [hne] at hds
    | cons c cs ih =>
      intro ds hds
      cases ds with
      | nil => simp [hne] at hds
      | cons d ds =>
        rw [List.flatMap_cons, List.flatMap_cons] at hds
        obtain ⟨rfl, hrest⟩ := charUnits_append_inj hds
        rw [ih ds hrest]
  exact String.toList_inj.1 (hlists _ _ h)

/-! ## Comparing -/

/-- `left < right ? -1 : 1` of two different texts, `0` of two equal ones -/
def compareString (left right : String) : Ordering := compare (codeUnits left) (codeUnits right)

instance compareString_trans : Std.TransCmp compareString :=
  transCmp_on (inferInstanceAs (Std.TransOrd (List ℕ))) codeUnits

theorem compareString_swap (left right : String) : compareString left right = (compareString right left).swap :=
  Std.OrientedCmp.eq_swap

@[simp] theorem compareString_eq {left right : String} : compareString left right = .eq ↔ left = right := by
  refine ⟨fun h => codeUnits_injective (Std.LawfulEqCmp.eq_of_compare h), ?_⟩
  rintro rfl
  exact Std.ReflCmp.compare_self

/-! ## Digits -/

/-- the number that digits spell -/
def digitsValue (cs : List Char) : ℕ := cs.foldl (fun n c => 10 * n + (c.toNat - 48)) 0

theorem digitsValue_cons (c : Char) (cs : List Char) :
    digitsValue (c :: cs) = (c.toNat - 48) * 10 ^ cs.length + digitsValue cs := by
  have hfold : ∀ (ds : List Char) (n : ℕ),
      ds.foldl (fun n c => 10 * n + (c.toNat - 48)) n = n * 10 ^ ds.length + digitsValue ds := by
    intro ds
    induction ds with
    | nil => simp [digitsValue]
    | cons d ds ih =>
      intro n
      unfold digitsValue
      rw [List.foldl_cons, List.foldl_cons, ih, ih, List.length_cons, pow_succ]
      ring
  unfold digitsValue
  rw [List.foldl_cons, hfold]
  simp [digitsValue]

theorem digit_lt {c : Char} (h : c.isDigit) : 48 ≤ c.toNat ∧ c.toNat < 58 := by
  simp only [Char.isDigit, Bool.and_eq_true, decide_eq_true_eq] at h
  obtain ⟨hlow, hhigh⟩ := h
  have hlow : 48 ≤ c.toNat := hlow
  have hhigh : c.toNat ≤ 57 := hhigh
  exact ⟨hlow, by omega⟩

theorem digitsValue_lt {cs : List Char} (h : ∀ c ∈ cs, c.isDigit) : digitsValue cs < 10 ^ cs.length := by
  induction cs with
  | nil => simp [digitsValue]
  | cons c cs ih =>
    have hrest := ih fun d hd => h d (by simp [hd])
    obtain ⟨-, hdigit⟩ := digit_lt (h c (by simp))
    rw [digitsValue_cons, List.length_cons, pow_succ]
    calc (c.toNat - 48) * 10 ^ cs.length + digitsValue cs
        < (c.toNat - 48) * 10 ^ cs.length + 10 ^ cs.length := by omega
      _ = (c.toNat - 48 + 1) * 10 ^ cs.length := by ring
      _ ≤ 10 * 10 ^ cs.length := Nat.mul_le_mul_right _ (by omega)
      _ = 10 ^ cs.length * 10 := by ring

/-- of two numbers of one length the greater head decides -/
theorem digitsValue_lt_of_head {c d : Char} {cs ds : List Char} (hcs : ∀ e ∈ cs, e.isDigit)
    (hlength : cs.length = ds.length) (hc : 48 ≤ c.toNat) (hlt : c.toNat < d.toNat) :
    digitsValue (c :: cs) < digitsValue (d :: ds) := by
  have hrest := digitsValue_lt hcs
  rw [digitsValue_cons, digitsValue_cons, hlength]
  rw [hlength] at hrest
  calc (c.toNat - 48) * 10 ^ ds.length + digitsValue cs
      < (c.toNat - 48) * 10 ^ ds.length + 10 ^ ds.length := by omega
    _ = (c.toNat - 48 + 1) * 10 ^ ds.length := by ring
    _ ≤ (d.toNat - 48) * 10 ^ ds.length := Nat.mul_le_mul_right _ (by omega)
    _ ≤ (d.toNat - 48) * 10 ^ ds.length + digitsValue ds := Nat.le_add_right _ _

theorem codeUnits_digits {cs : List Char} (h : ∀ c ∈ cs, c.isDigit) : cs.flatMap charUnits = cs.map Char.toNat := by
  induction cs with
  | nil => rfl
  | cons c cs ih =>
    obtain ⟨-, hdigit⟩ := digit_lt (h c (by simp))
    have hunits : charUnits c = [c.toNat] := if_pos (by omega)
    rw [List.flatMap_cons, List.map_cons, hunits, ih fun d hd => h d (by simp [hd])]
    rfl

theorem compare_digits_of_length {cs ds : List Char} (hcs : ∀ c ∈ cs, c.isDigit) (hds : ∀ d ∈ ds, d.isDigit)
    (hlength : cs.length = ds.length) :
    compare (cs.map Char.toNat) (ds.map Char.toNat) = compare (digitsValue cs) (digitsValue ds) := by
  induction cs generalizing ds with
  | nil =>
    obtain rfl := List.length_eq_zero_iff.1 hlength.symm
    rfl
  | cons c cs ih =>
    cases ds with
    | nil => simp at hlength
    | cons d ds =>
      have hlength : cs.length = ds.length := by simpa using hlength
      have hcs' : ∀ e ∈ cs, e.isDigit := fun e he => hcs e (by simp [he])
      have hds' : ∀ e ∈ ds, e.isDigit := fun e he => hds e (by simp [he])
      obtain ⟨hc, -⟩ := digit_lt (hcs c (by simp))
      obtain ⟨hd, -⟩ := digit_lt (hds d (by simp))
      rw [List.map_cons, List.map_cons, List.compare_cons_cons, ih hcs' hds' hlength]
      rcases lt_trichotomy c.toNat d.toNat with hlt | heq | hgt
      · rw [Nat.compare_eq_lt.2 hlt, Nat.compare_eq_lt.2 (digitsValue_lt_of_head hcs' hlength hc hlt)]
        rfl
      · rw [Nat.compare_eq_eq.2 heq, digitsValue_cons, digitsValue_cons, hlength, heq]
        simp [Nat.compare_eq_ite_lt]
      · rw [Nat.compare_eq_gt.2 hgt, Nat.compare_eq_gt.2 (digitsValue_lt_of_head hds' hlength.symm hd hgt)]
        rfl

/-- digits without a leading zero, or the single digit zero -/
def Trimmed (cs : List Char) : Prop := 0 < cs.length ∧ (1 < cs.length → cs.head? ≠ some '0')

/-- a trimmed number is as large as its length says -/
theorem Trimmed.le_value {cs : List Char} (h : Trimmed cs) (hdigits : ∀ c ∈ cs, c.isDigit) (hlong : 1 < cs.length) :
    10 ^ (cs.length - 1) ≤ digitsValue cs := by
  cases cs with
  | nil => simp at hlong
  | cons c cs =>
    obtain ⟨hlow, -⟩ := digit_lt (hdigits c (by simp))
    have hne : c.toNat ≠ 48 := by
      intro hzero
      have hc : c = '0' := by rw [← Char.ofNat_toNat c, hzero]
      exact h.2 hlong (by rw [hc]; rfl)
    rw [digitsValue_cons, List.length_cons, Nat.add_sub_cancel]
    calc 10 ^ cs.length = 1 * 10 ^ cs.length := (one_mul _).symm
      _ ≤ (c.toNat - 48) * 10 ^ cs.length := Nat.mul_le_mul_right _ (by omega)
      _ ≤ (c.toNat - 48) * 10 ^ cs.length + digitsValue cs := Nat.le_add_right _ _

theorem Trimmed.value_lt {cs ds : List Char} (hcs : ∀ c ∈ cs, c.isDigit) (h : Trimmed cs) (hd : Trimmed ds)
    (hds : ∀ d ∈ ds, d.isDigit) (hlength : cs.length < ds.length) : digitsValue cs < digitsValue ds := by
  have hpos := h.1
  calc digitsValue cs < 10 ^ cs.length := digitsValue_lt hcs
    _ ≤ 10 ^ (ds.length - 1) := Nat.pow_le_pow_right (by omega) (by omega)
    _ ≤ digitsValue ds := hd.le_value hds (by omega)

/-- **Digit texts in numeric order.** Shorter first, then as texts: the order of the numbers. -/
theorem compare_digits {cs ds : List Char} (hcs : ∀ c ∈ cs, c.isDigit) (hds : ∀ d ∈ ds, d.isDigit) (hc : Trimmed cs)
    (hd : Trimmed ds) :
    (compare cs.length ds.length).then (compareString (String.ofList cs) (String.ofList ds)) =
      compare (digitsValue cs) (digitsValue ds) := by
  have hunits : compareString (String.ofList cs) (String.ofList ds) =
      compare (cs.map Char.toNat) (ds.map Char.toNat) := by
    unfold compareString codeUnits
    rw [String.toList_ofList, String.toList_ofList, codeUnits_digits hcs, codeUnits_digits hds]
  rcases lt_trichotomy cs.length ds.length with hlt | heq | hgt
  · rw [Nat.compare_eq_lt.2 hlt, Nat.compare_eq_lt.2 (hc.value_lt hcs hd hds hlt)]
    rfl
  · rw [Nat.compare_eq_eq.2 heq, hunits, compare_digits_of_length hcs hds heq]
    rfl
  · rw [Nat.compare_eq_gt.2 hgt, Nat.compare_eq_gt.2 (hd.value_lt hds hc hcs hgt)]
    rfl

end SeeMirai
