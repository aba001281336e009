/-
`JSON.stringify` of a flat array of texts and nulls, the form in which programs build composite sort and map keys.
A key made this way names its parts: `stringify_injective`, two arrays with the same text are the same array. The
quotes and backslashes inside a part are escaped, so no part can imitate the separator.

The argument is that the escapes form a prefix code. `escapeChar_append_inj` reads off one character, `escape_append_inj`
a whole quoted text up to its closing quote, `items_append_inj` the items up to the closing bracket.
-/
import Mathlib

namespace SeeMirai.JsonText

/-! ## Escaping -/

def hexDigit (n : ℕ) : Char := if n < 10 then Char.ofNat (48 + n) else Char.ofNat (87 + n)

/-- what follows the backslash for a character that JSON escapes -/
def escapeTail (c : Char) : List Char :=
  if c = '"' then ['"']
  else if c = '\\' then ['\\']
  else if c.toNat = 8 then ['b']
  else if c.toNat = 9 then ['t']
  else if c.toNat = 10 then ['n']
  else if c.toNat = 12 then ['f']
  else if c.toNat = 13 then ['r']
  else ['u', '0', '0', hexDigit (c.toNat / 16), hexDigit (c.toNat % 16)]

def escaped (c : Char) : Bool := c = '"' || c = '\\' || c.toNat < 32

def escapeChar (c : Char) : List Char := if escaped c then '\\' :: escapeTail c else [c]

def escape (cs : List Char) : List Char := cs.flatMap escapeChar

def quote (s : String) : List Char := '"' :: (escape s.toList ++ ['"'])

def item : Option String → List Char
  | none => ['n', 'u', 'l', 'l']
  | some s => quote s

def items : List (Option String) → List Char
  | [] => [']']
  | [i] => item i ++ [']']
  | i :: is => item i ++ ',' :: items is

/-- `JSON.stringify(array)` -/
def stringify (array : List (Option String)) : String := String.ofList ('[' :: items array)

/-! ## Escapes form a prefix code -/

theorem escaped_toNat {c : Char} (h : escaped c) : c.toNat < 93 := by
  simp only [escaped, Bool.or_eq_true, decide_eq_true_eq] at h
  rcases h with (rfl | rfl) | h
  · decide
  · decide
  · omega

/-- among the escaped characters the tail determines the character -/
theorem escapeTail_inj : ∀ n m : Fin 93, escaped (Char.ofNat n) → escaped (Char.ofNat m) →
    escapeTail (Char.ofNat n) = escapeTail (Char.ofNat m) → n = m := by
  decide +kernel

/-- the head of the tail determines its length -/
theorem escapeTail_length (c : Char) :
    (escapeTail c).length = if (escapeTail c).head? = some 'u' then 5 else 1 := by
  unfold escapeTail; split_ifs <;> simp_all

theorem escapeTail_append_inj {c d : Char} (hc : escaped c) (hd : escaped d) {x y : List Char}
    (h : escapeTail c ++ x = escapeTail d ++ y) : c = d ∧ x = y := by
  have hne : ∀ e : Char, escapeTail e ≠ [] := by
    intro e; unfold escapeTail; split_ifs <;> simp
  have hhead : (escapeTail c).head? = (escapeTail d).head? := by
    have := congrArg List.head? h
    rwa [List.head?_append_of_ne_nil _ (hne c), List.head?_append_of_ne_nil _ (hne d)] at this
  have hlen : (escapeTail c).length = (escapeTail d).length := by
    rw [escapeTail_length, escapeTail_length, hhead]
  obtain ⟨htail, hrest⟩ := List.append_inj h hlen
  have hn := escapeTail_inj ⟨c.toNat, escaped_toNat hc⟩ ⟨d.toNat, escaped_toNat hd⟩
  simp only [Char.ofNat_toNat, Fin.mk.injEq] at hn
  exact ⟨by rw [← Char.ofNat_toNat c, hn hc hd htail, Char.ofNat_toNat], hrest⟩

theorem escapeChar_append_inj {c d : Char} {x y : List Char} (h : escapeChar c ++ x = escapeChar d ++ y) :
    c = d ∧ x = y := by
  -- a plain character is never the backslash, so the two forms cannot meet
  have hplain : ∀ e : Char, escaped e = false → e ≠ '\\' := by
    rintro e he rfl; simp [escaped] at he
  unfold escapeChar at h
  cases hc : escaped c <;> cases hd : escaped d
  · simpa [hc, hd] using h
  · simp only [hc, hd] at h
    simp only [Bool.false_eq_true, if_false, if_true, List.cons_append, List.cons.injEq] at h
    exact absurd h.1 (hplain c hc)
  · simp only [hc, hd] at h
    simp only [Bool.false_eq_true, if_false, if_true, List.cons_append, List.cons.injEq] at h
    exact absurd h.1.symm (hplain d hd)
  · simp only [hc, hd, if_true, List.cons_append, List.cons.injEq, true_and] at h
    exact escapeTail_append_inj hc hd h

theorem escapeChar_head {c : Char} {x y : List Char} : escapeChar c ++ x ≠ '"' :: y := by
  unfold escapeChar
  split_ifs with h
  · simp
  · rintro he
    simp only [List.cons_append, List.nil_append, List.cons.injEq] at he
    simp [escaped, he.1] at h

theorem escape_append_inj {cs ds x y : List Char} (h : escape cs ++ '"' :: x = escape ds ++ '"' :: y) :
    cs = ds ∧ x = y := by
  induction cs generalizing ds with
  | nil =>
    cases ds with
    | nil => simpa [escape] using h
    | cons d ds =>
      simp only [escape, List.flatMap_nil, List.nil_append, List.flatMap_cons, List.append_assoc] at h
      exact absurd h.symm escapeChar_head
  | cons c cs ih =>
    cases ds with
    | nil =>
      simp only [escape, List.flatMap_nil, List.nil_append, List.flatMap_cons, List.append_assoc] at h
      exact absurd h escapeChar_head
    | cons d ds =>
      simp only [escape, List.flatMap_cons, List.append_assoc] at h
      obtain ⟨rfl, hrest⟩ := escapeChar_append_inj h
      obtain ⟨rfl, hxy⟩ := ih hrest
      exact ⟨rfl, hxy⟩

/-! ## Arrays -/

theorem item_append_inj {i j : Option String} {x y : List Char} (h : item i ++ x = item j ++ y) : i = j ∧ x = y := by
  cases i with
  | none =>
    cases j with
    | none => simpa [item] using h
    | some t => simp [item, quote] at h
  | some s =>
    cases j with
    | none => simp [item, quote] at h
    | some t =>
      simp only [item, quote, List.cons_append, List.append_assoc, List.cons.injEq, true_and] at h
      obtain ⟨hst, hxy⟩ := escape_append_inj h
      exact ⟨by rw [String.toList_inj.1 hst], hxy⟩

theorem item_ne_bracket (i : Option String) (x y : List Char) : item i ++ x ≠ ']' :: y := by
  cases i <;> simp [item, quote]

theorem items_cons (i : Option String) (is : List (Option String)) :
    items (i :: is) = item i ++ (if is = [] then [']'] else ',' :: items is) := by
  cases is <;> simp [items]

theorem items_inj {is js : List (Option String)} (h : items is = items js) : is = js := by
  induction is generalizing js with
  | nil =>
    cases js with
    | nil => rfl
    | cons j js => rw [items_cons] at h; exact absurd h.symm (item_ne_bracket j _ _)
  | cons i is ih =>
    cases js with
    | nil => rw [items_cons] at h; exact absurd h (item_ne_bracket i _ _)
    | cons j js =>
      rw [items_cons, items_cons] at h
      obtain ⟨rfl, hrest⟩ := item_append_inj h
      split_ifs at hrest with h1 h2 h2
      · rw [h1, h2]
      · simp at hrest
      · simp at hrest
      · simp only [List.cons.injEq, true_and] at hrest
        rw [ih hrest]

/-- **A stringified array names its parts.** -/
theorem stringify_injective {a b : List (Option String)} (h : stringify a = stringify b) : a = b := by
  have hl : '[' :: items a = '[' :: items b := String.ofList_injective h
  exact items_inj (List.cons.inj hl).2

example : stringify [some "a\"b", none] = "[\"a\\\"b\",null]" := by decide +kernel

end SeeMirai.JsonText
