/-
Plain JSON values and what `JSON.stringify` writes for them. Numbers are written as ECMAScript writes them, strings with
the escapes of `JsonText`, members in the order in which the object has them.

A number is the rational that its shortest decimal denotes: a finite double has exactly one, and `0` and `-0` are the
same. The members of an object stand in the order of its own keys: array indices first and by value, then the other
keys as they were assigned. `assign` is `object[key] = value` on an object literal, where `__proto__` is no member.

Results:
- `stringify_injective`: plain values with one text are one value.
- `SameUpToKeyOrder`: members may be permuted, at any depth. `object_inv` and `string_inv` take it apart.
- `assignAll_perm`: assigning distinct keys to a new object keeps all members but `__proto__`.
-/
import SeeMirai.Lib.JsonText
import SeeMirai.Lib.DecimalHost

namespace SeeMirai

inductive JsonValue where
  | null
  | bool (b : Bool)
  | number (n : ℚ)
  | string (s : String)
  | array (items : List JsonValue)
  | object (members : List (String × JsonValue))

namespace JsonValue

/-! ## Plain values -/

/-- what `JSON.parse` answers: every number has a finite decimal, no object has a key twice -/
inductive Plain : JsonValue → Prop
  | null : Plain null
  | bool (b : Bool) : Plain (bool b)
  | number {n : ℚ} (decimal : IsDecimalFraction n) : Plain (number n)
  | string (s : String) : Plain (string s)
  | array {items : List JsonValue} (plain : ∀ v ∈ items, Plain v) : Plain (array items)
  | object {members : List (String × JsonValue)} (keys : (members.map Prod.fst).Nodup)
      (plain : ∀ m ∈ members, Plain m.2) : Plain (object members)

/-- induction over a value, with the items of an array and the members of an object -/
@[elab_as_elim] theorem induct {P : JsonValue → Prop} (null : P null) (bool : ∀ b, P (bool b))
    (number : ∀ n, P (number n)) (string : ∀ s, P (string s))
    (array : ∀ items, (∀ v ∈ items, P v) → P (array items))
    (object : ∀ members, (∀ m ∈ members, P m.2) → P (object members)) (v : JsonValue) : P v :=
  @JsonValue.rec P (fun items => ∀ v ∈ items, P v) (fun members => ∀ m ∈ members, P m.2) (fun m => P m.2)
    null bool number string array object (by simp) (fun _ _ hv hvs => List.forall_mem_cons.2 ⟨hv, hvs⟩) (by simp)
    (fun _ _ hm hms => List.forall_mem_cons.2 ⟨hm, hms⟩) (fun _ _ hv => hv) v

/-! ## Numbers -/

def exponentText (e : ℤ) : String := (if e < 0 then "e-" else "e+") ++ toString e.natAbs

/-- `String(n)`: exponent notation below `1e-6` and from `1e21` on -/
def numberText (n : ℚ) : String :=
  if n = 0 ∨ 1 / 10 ^ 6 ≤ |n| ∧ |n| < 10 ^ 21 then printDecimal n
  else printDecimal (n / (10 : ℚ) ^ Int.log 10 |n|) ++ exponentText (Int.log 10 |n|)

/-! ## Texts -/

mutual

/-- `JSON.stringify` -/
def write : JsonValue → List Char
  | null => "null".toList
  | bool true => "true".toList
  | bool false => "false".toList
  | number n => (numberText n).toList
  | string s => JsonText.quote s
  | array [] => ['[', ']']
  | array (v :: vs) => '[' :: (write v ++ writeItems vs)
  | object [] => ['\x7b', '\x7d']
  | object ((k, v) :: ms) => '\x7b' :: (JsonText.quote k ++ ':' :: (write v ++ writeMembers ms))

/-- the items behind the first one -/
def writeItems : List JsonValue → List Char
  | [] => [']']
  | v :: vs => ',' :: (write v ++ writeItems vs)

/-- the members behind the first one -/
def writeMembers : List (String × JsonValue) → List Char
  | [] => ['\x7d']
  | (k, v) :: ms => ',' :: (JsonText.quote k ++ ':' :: (write v ++ writeMembers ms))

end

def stringify (v : JsonValue) : String := String.ofList (write v)

/-! ## Building an object -/

/-- the numeral of an array index, a key that comes before all others -/
def arrayIndex (key : String) : Option ℕ :=
  (readDigits key.toList).bind fun n => if toString n = key ∧ n < 2 ^ 32 - 1 then some n else none

/-- a new key is put in front of an old one -/
def precedes (key old : String) : Bool :=
  match arrayIndex key, arrayIndex old with
  | some i, some j => i < j
  | some _, none => true
  | none, _ => false

/-- an own key keeps its place and a new one gets it -/
def setOwn : List (String × JsonValue) → String → JsonValue → List (String × JsonValue)
  | [], key, v => [(key, v)]
  | m :: ms, key, v =>
    if m.1 = key then (key, v) :: ms
    else if precedes key m.1 then (key, v) :: m :: ms
    else m :: setOwn ms key v

def protoKey : String := "__proto__"

/-- `object[key] = v`; the prototype is no member -/
def assign (members : List (String × JsonValue)) (key : String) (v : JsonValue) : List (String × JsonValue) :=
  if key = protoKey then members else setOwn members key v

/-- a new object, one assignment after the other -/
def assignAll (members : List (String × JsonValue)) : List (String × JsonValue) :=
  members.foldl (fun made m => assign made m.1 m.2) []

example : assignAll [("b", null), ("10", null), ("__proto__", null), ("9", null)] =
  [("9", null), ("10", null), ("b", null)] :=
  rfl

/-! ## Reading a number off a text -/

def isNumberChar (c : Char) : Bool := isPlainChar c || c = 'e' || c = '+'

/-- what may stand behind a value -/
def Ends (x : List Char) : Prop := ∀ c ∈ x.head?, isNumberChar c = false

/-- a text of one kind of characters ends where the next one is of another kind -/
theorem span_append_inj {p : Char → Bool} {as bs x y : List Char} (has : ∀ c ∈ as, p c) (hbs : ∀ c ∈ bs, p c)
    (hx : ∀ c ∈ x.head?, p c = false) (hy : ∀ c ∈ y.head?, p c = false) (h : as ++ x = bs ++ y) : as = bs ∧ x = y := by
  have hstop : ∀ z : List Char, (∀ c ∈ z.head?, p c = false) → z.takeWhile p = [] := by
    intro z hz
    cases z with
    | nil => rfl
    | cons c z => exact List.takeWhile_cons_of_neg (by simp [hz c rfl])
  have htake := congrArg (List.takeWhile p) h
  rw [List.takeWhile_append_of_pos has, List.takeWhile_append_of_pos hbs, hstop x hx, hstop y hy, List.append_nil,
    List.append_nil] at htake
  exact ⟨htake, List.append_cancel_left (htake ▸ h)⟩

theorem zpow_isDecimal (e : ℤ) : IsDecimalFraction ((10 : ℚ) ^ e) := by
  cases e with
  | ofNat n => exact ⟨0, 10 ^ n, by simp⟩
  | negSucc n => exact ⟨n + 1, 1, by simp [zpow_negSucc]⟩

theorem div_zpow_isDecimal {n : ℚ} (h : IsDecimalFraction n) (e : ℤ) : IsDecimalFraction (n / (10 : ℚ) ^ e) := by
  rw [div_eq_mul_inv, ← zpow_neg]
  exact h.mul (zpow_isDecimal (-e))

theorem printDecimal_injective {a b : ℚ} (ha : IsDecimalFraction a) (hb : IsDecimalFraction b)
    (h : printDecimal a = printDecimal b) : a = b := by
  obtain ⟨d, hd, -, hda⟩ := readDecimal_printDecimal ha
  obtain ⟨d', hd', -, hdb⟩ := readDecimal_printDecimal hb
  rw [h, hd'] at hd
  cases hd
  rw [← hda, ← hdb]

theorem exponentText_head (e : ℤ) : ∃ cs, (exponentText e).toList = 'e' :: cs := by
  unfold exponentText
  split_ifs
  · exact ⟨'-' :: (toString e.natAbs).toList, by simp⟩
  · exact ⟨'+' :: (toString e.natAbs).toList, by simp⟩

theorem exponentText_injective {e f : ℤ} (h : exponentText e = exponentText f) : e = f := by
  have hdigits : ∀ {s : String}, s ++ toString e.natAbs = s ++ toString f.natAbs → e.natAbs = f.natAbs := by
    intro s hs
    exact Nat.repr_injective (String.append_right_inj _ |>.1 hs)
  have hsign : ∀ {m n : ℕ}, "e-" ++ toString m ≠ "e+" ++ toString n := by
    intro m n hmn
    have hlist := congrArg String.toList hmn
    simp at hlist
  unfold exponentText at h
  split_ifs at h with hneg hneg' hneg'
  · have := hdigits h
    omega
  · exact absurd h hsign
  · exact absurd h.symm hsign
  · have := hdigits h
    omega

theorem numberText_injective {a b : ℚ} (ha : IsDecimalFraction a) (hb : IsDecimalFraction b)
    (h : numberText a = numberText b) : a = b := by
  have hmark : ∀ {m n : ℚ} {e : ℤ}, printDecimal m ≠ printDecimal n ++ exponentText e := by
    intro m n e heq
    obtain ⟨cs, hcs⟩ := exponentText_head e
    have he : 'e' ∈ (printDecimal m).toList := by simp [heq, hcs]
    exact absurd (printDecimal_plain 'e' he) (by decide)
  have hstop : ∀ e, ∀ c ∈ (exponentText e).toList.head?, isPlainChar c = false := by
    intro e c hc
    obtain ⟨cs, hcs⟩ := exponentText_head e
    rw [hcs] at hc
    cases hc
    rfl
  unfold numberText at h
  split_ifs at h with hplain hplain' hplain'
  · exact printDecimal_injective ha hb h
  · exact absurd h hmark
  · exact absurd h.symm hmark
  · have hlist := congrArg String.toList h
    simp only [String.toList_append] at hlist
    obtain ⟨hmantissa, hexponent⟩ := span_append_inj printDecimal_plain printDecimal_plain (hstop _) (hstop _) hlist
    have hlog := exponentText_injective (String.toList_inj.1 hexponent)
    have hdiv := printDecimal_injective (div_zpow_isDecimal ha _) (div_zpow_isDecimal hb _)
      (String.toList_inj.1 hmantissa)
    rw [hlog] at hdiv
    exact (div_left_inj' (by positivity)).1 hdiv

theorem exponentText_chars (e : ℤ) : ∀ c ∈ (exponentText e).toList, isNumberChar c := by
  have hdigits : ∀ c ∈ (toString e.natAbs).toList, isNumberChar c := by
    intro c hc
    simp [isNumberChar, isPlainChar, toDigits_isDigit e.natAbs c (by simpa [Nat.toList_repr] using hc)]
  intro c hc
  unfold exponentText at hc
  rw [String.toList_append, List.mem_append] at hc
  rcases hc with hc | hc
  · split_ifs at hc <;> (simp only [String.reduceToList, List.mem_cons, List.not_mem_nil, or_false] at hc
                         rcases hc with rfl | rfl <;> rfl)
  · exact hdigits c hc

theorem numberText_chars (n : ℚ) : ∀ c ∈ (numberText n).toList, isNumberChar c := by
  have hplain : ∀ {m : ℚ}, ∀ c ∈ (printDecimal m).toList, isNumberChar c := by
    intro m c hc
    simp [isNumberChar, printDecimal_plain c hc]
  intro c hc
  unfold numberText at hc
  split_ifs at hc
  · exact hplain c hc
  · rw [String.toList_append, List.mem_append] at hc
    rcases hc with hc | hc
    · exact hplain c hc
    · exact exponentText_chars _ c hc

theorem numberText_head (n : ℚ) : ∃ c cs, (numberText n).toList = c :: cs ∧ isPlainChar c := by
  have hplain : ∀ m : ℚ, ∃ c cs, (printDecimal m).toList = c :: cs ∧ isPlainChar c := by
    intro m
    obtain ⟨c, cs, hcs⟩ := List.exists_cons_of_ne_nil fun h => printDecimal_nonempty (q := m)
      (String.toList_eq_nil_iff.1 h)
    exact ⟨c, cs, hcs, printDecimal_plain c (hcs ▸ List.mem_cons_self)⟩
  unfold numberText
  split_ifs
  · exact hplain n
  · obtain ⟨c, cs, hcs, hc⟩ := hplain (n / (10 : ℚ) ^ Int.log 10 |n|)
    exact ⟨c, cs ++ (exponentText (Int.log 10 |n|)).toList, by rw [String.toList_append, hcs, List.cons_append], hc⟩

theorem numberText_append_inj {a b : ℚ} {x y : List Char} (ha : IsDecimalFraction a) (hb : IsDecimalFraction b)
    (hx : Ends x) (hy : Ends y) (h : (numberText a).toList ++ x = (numberText b).toList ++ y) : a = b ∧ x = y := by
  obtain ⟨htext, hxy⟩ := span_append_inj (numberText_chars a) (numberText_chars b) hx hy h
  exact ⟨numberText_injective ha hb (String.toList_inj.1 htext), hxy⟩

/-! ## Reading a value off a text -/

/-- which kind of value a first character announces -/
def announced (c : Char) : ℕ :=
  if c = 'n' then 0 else if c = 't' then 1 else if c = 'f' then 2 else if c = '"' then 3 else if c = '[' then 4
  else if c = '\x7b' then 5 else if isPlainChar c then 6 else 7

def kind : JsonValue → ℕ
  | null => 0
  | bool true => 1
  | bool false => 2
  | string _ => 3
  | array _ => 4
  | object _ => 5
  | number _ => 6

theorem write_announces (v : JsonValue) : ∃ c cs, write v = c :: cs ∧ announced c = v.kind := by
  cases v with
  | null => exact ⟨_, _, rfl, rfl⟩
  | bool b => cases b <;> exact ⟨_, _, rfl, rfl⟩
  | number n =>
    obtain ⟨c, cs, hcs, hc⟩ := numberText_head n
    refine ⟨c, cs, by rw [write, hcs], ?_⟩
    have hother : ∀ d, isPlainChar d = false → c ≠ d := by
      rintro d hd rfl
      rw [hc] at hd
      cases hd
    simp only [announced, kind, hother 'n' rfl, hother 't' rfl, hother 'f' rfl, hother '"' rfl, hother '[' rfl,
      hother '\x7b' rfl, hc, if_false, if_true]
  | string s => exact ⟨_, _, by rw [write, JsonText.quote], rfl⟩
  | array items => cases items <;> exact ⟨_, _, by rw [write], rfl⟩
  | object members => cases members <;> exact ⟨_, _, by rw [write], rfl⟩

theorem kind_eq {v w : JsonValue} {x y : List Char} (h : write v ++ x = write w ++ y) : v.kind = w.kind := by
  obtain ⟨c, cs, hv, hc⟩ := write_announces v
  obtain ⟨d, ds, hw, hd⟩ := write_announces w
  rw [hv, hw, List.cons_append, List.cons_append, List.cons.injEq] at h
  rw [← hc, ← hd, h.1]

theorem quote_append_inj {s t : String} {x y : List Char} (h : JsonText.quote s ++ x = JsonText.quote t ++ y) :
    s = t ∧ x = y := by
  simp only [JsonText.quote, List.cons_append, List.append_assoc, List.cons.injEq, true_and, List.nil_append] at h
  obtain ⟨hst, hxy⟩ := JsonText.escape_append_inj h
  exact ⟨String.toList_inj.1 hst, hxy⟩

/-- `v` ends where its text does -/
def SelfDelimiting (v : JsonValue) : Prop :=
  v.Plain → ∀ {w : JsonValue} {x y : List Char}, w.Plain → Ends x → Ends y → write v ++ x = write w ++ y → v = w ∧ x = y

theorem ends_cons {c : Char} {x : List Char} (h : isNumberChar c = false) : Ends (c :: x) := by
  rintro d ⟨⟩
  exact h

theorem writeItems_ends (vs : List JsonValue) (x : List Char) : Ends (writeItems vs ++ x) := by
  cases vs <;> exact ends_cons rfl

theorem writeMembers_ends (ms : List (String × JsonValue)) (x : List Char) : Ends (writeMembers ms ++ x) := by
  cases ms with
  | nil => exact ends_cons rfl
  | cons m ms => exact ends_cons rfl

theorem writeItems_append_inj {vs : List JsonValue} (hself : ∀ v ∈ vs, SelfDelimiting v) {ws : List JsonValue}
    (hv : ∀ v ∈ vs, v.Plain) (hw : ∀ w ∈ ws, w.Plain) {x y : List Char}
    (h : writeItems vs ++ x = writeItems ws ++ y) : vs = ws ∧ x = y := by
  induction vs generalizing ws with
  | nil =>
    cases ws with
    | nil => simpa [writeItems] using h
    | cons w ws => simp [writeItems] at h
  | cons v vs ih =>
    cases ws with
    | nil => simp [writeItems] at h
    | cons w ws =>
      simp only [writeItems, List.cons_append, List.append_assoc, List.cons.injEq, true_and] at h
      obtain ⟨rfl, hrest⟩ := hself v List.mem_cons_self (hv v List.mem_cons_self) (hw w List.mem_cons_self)
        (writeItems_ends vs x) (writeItems_ends ws y) h
      obtain ⟨rfl, hxy⟩ := ih (fun u hu => hself u (List.mem_cons_of_mem _ hu))
        (fun u hu => hv u (List.mem_cons_of_mem _ hu))
        (fun u hu => hw u (List.mem_cons_of_mem _ hu)) hrest
      exact ⟨rfl, hxy⟩

theorem writeMembers_append_inj {ms : List (String × JsonValue)} (hself : ∀ m ∈ ms, SelfDelimiting m.2)
    {ns : List (String × JsonValue)} (hm : ∀ m ∈ ms, m.2.Plain) (hn : ∀ n ∈ ns, n.2.Plain) {x y : List Char}
    (h : writeMembers ms ++ x = writeMembers ns ++ y) : ms = ns ∧ x = y := by
  induction ms generalizing ns with
  | nil =>
    cases ns with
    | nil => simpa [writeMembers] using h
    | cons n ns => simp [writeMembers] at h
  | cons m ms ih =>
    cases ns with
    | nil => simp [writeMembers] at h
    | cons n ns =>
      obtain ⟨k, v⟩ := m
      obtain ⟨l, w⟩ := n
      simp only [writeMembers, List.cons_append, List.append_assoc, List.cons.injEq, true_and] at h
      obtain ⟨rfl, hvalue⟩ := quote_append_inj h
      rw [List.cons.injEq] at hvalue
      obtain ⟨rfl, hrest⟩ := hself (k, v) List.mem_cons_self (hm (k, v) List.mem_cons_self)
        (hn (k, w) List.mem_cons_self)
        (writeMembers_ends ms x) (writeMembers_ends ns y) hvalue.2
      obtain ⟨rfl, hxy⟩ := ih (fun u hu => hself u (List.mem_cons_of_mem _ hu))
        (fun u hu => hm u (List.mem_cons_of_mem _ hu)) (fun u hu => hn u (List.mem_cons_of_mem _ hu)) hrest
      exact ⟨rfl, hxy⟩

theorem write_ne_bracket (v : JsonValue) (x y : List Char) : write v ++ x ≠ ']' :: y := by
  intro h
  obtain ⟨c, cs, hv, hc⟩ := write_announces v
  rw [hv, List.cons_append, List.cons.injEq] at h
  rw [h.1] at hc
  cases v with
  | bool b => cases b <;> cases hc
  | _ => cases hc

theorem array_append_inj {vs ws : List JsonValue} (hself : ∀ v ∈ vs, SelfDelimiting v) (hv : ∀ v ∈ vs, v.Plain)
    (hw : ∀ w ∈ ws, w.Plain) {x y : List Char} (h : write (array vs) ++ x = write (array ws) ++ y) : vs = ws ∧
      x = y := by
  cases vs with
  | nil =>
    cases ws with
    | nil => simpa [write] using h
    | cons w ws =>
      simp only [write, List.cons_append, List.append_assoc, List.cons.injEq, true_and] at h
      exact absurd h.symm (write_ne_bracket _ _ _)
  | cons v vs =>
    cases ws with
    | nil =>
      simp only [write, List.cons_append, List.append_assoc, List.cons.injEq, true_and] at h
      exact absurd h (write_ne_bracket _ _ _)
    | cons w ws =>
      refine writeItems_append_inj hself hv hw ?_
      simpa [write, writeItems] using h

theorem object_append_inj {ms ns : List (String × JsonValue)} (hself : ∀ m ∈ ms, SelfDelimiting m.2)
    (hm : ∀ m ∈ ms, m.2.Plain) (hn : ∀ n ∈ ns, n.2.Plain) {x y : List Char}
    (h : write (object ms) ++ x = write (object ns) ++ y) : ms = ns ∧ x = y := by
  cases ms with
  | nil =>
    cases ns with
    | nil => simpa [write] using h
    | cons n ns => simp [write, JsonText.quote] at h
  | cons m ms =>
    cases ns with
    | nil => simp [write, JsonText.quote] at h
    | cons n ns =>
      refine writeMembers_append_inj hself hm hn ?_
      simpa [write, writeMembers] using h

/-- **A written value can be read back**, whatever stands behind it. -/
theorem selfDelimiting (v : JsonValue) : SelfDelimiting v := by
  induction v using induct with
  | null =>
    intro _ w x y _ _ _ h
    have hkind := kind_eq h
    cases w with
    | null => exact ⟨rfl, List.append_cancel_left h⟩
    | bool b => cases b <;> cases hkind
    | _ => cases hkind
  | bool b =>
    intro _ w x y _ _ _ h
    have hkind := kind_eq h
    cases w with
    | bool b' =>
      have hb : b = b' := by cases b <;> cases b' <;> first | rfl | cases hkind
      subst hb
      exact ⟨rfl, List.append_cancel_left h⟩
    | _ => cases b <;> cases hkind
  | number n =>
    intro hv w x y hw hx hy h
    have hkind := kind_eq h
    cases w with
    | number m =>
      cases hv with
      | number hn =>
        cases hw with
        | number hm =>
          obtain ⟨rfl, hxy⟩ := numberText_append_inj hn hm hx hy (by simpa [write] using h)
          exact ⟨rfl, hxy⟩
    | bool b => cases b <;> cases hkind
    | _ => cases hkind
  | string s =>
    intro _ w x y _ _ _ h
    have hkind := kind_eq h
    cases w with
    | string t =>
      obtain ⟨rfl, hxy⟩ := quote_append_inj (by simpa [write] using h)
      exact ⟨rfl, hxy⟩
    | bool b => cases b <;> cases hkind
    | _ => cases hkind
  | array vs ih =>
    intro hv w x y hw _ _ h
    have hkind := kind_eq h
    cases w with
    | array ws =>
      cases hv with
      | array hv =>
        cases hw with
        | array hw =>
          obtain ⟨rfl, hxy⟩ := array_append_inj ih hv hw h
          exact ⟨rfl, hxy⟩
    | bool b => cases b <;> cases hkind
    | _ => cases hkind
  | object ms ih =>
    intro hv w x y hw _ _ h
    have hkind := kind_eq h
    cases w with
    | object ns =>
      cases hv with
      | object _ hv =>
        cases hw with
        | object _ hw =>
          obtain ⟨rfl, hxy⟩ := object_append_inj ih hv hw h
          exact ⟨rfl, hxy⟩
    | bool b => cases b <;> cases hkind
    | _ => cases hkind

/-- **Texts name values.** Plain values that `JSON.stringify` writes alike are the same. -/
theorem stringify_injective {v w : JsonValue} (hv : v.Plain) (hw : w.Plain) (h : stringify v = stringify w) : v = w :=
    by
  have hlist : write v ++ [] = write w ++ [] := by
    rw [List.append_nil, List.append_nil]
    exact String.ofList_injective h
  exact (selfDelimiting v hv hw (by rintro c ⟨⟩) (by rintro c ⟨⟩) hlist).1

/-! ## The order of members -/

/-- equal up to the order of members, at any depth -/
inductive SameUpToKeyOrder : JsonValue → JsonValue → Prop
  | refl (v : JsonValue) : SameUpToKeyOrder v v
  | trans {u v w : JsonValue} : SameUpToKeyOrder u v → SameUpToKeyOrder v w → SameUpToKeyOrder u w
  | reorder {ms ns : List (String × JsonValue)} : ms.Perm ns → SameUpToKeyOrder (object ms) (object ns)
  | item (before after : List JsonValue) {v w : JsonValue} :
      SameUpToKeyOrder v w → SameUpToKeyOrder (array (before ++ v :: after)) (array (before ++ w :: after))
  | member (before after : List (String × JsonValue)) (key : String) {v w : JsonValue} :
      SameUpToKeyOrder v w →
        SameUpToKeyOrder (object (before ++ (key, v) :: after)) (object (before ++ (key, w) :: after))

namespace SameUpToKeyOrder

theorem symm {v w : JsonValue} (h : SameUpToKeyOrder v w) : SameUpToKeyOrder w v := by
  induction h with
  | refl v => exact refl v
  | trans _ _ ih ih' => exact ih'.trans ih
  | reorder hp => exact reorder hp.symm
  | item before after _ ih => exact item before after ih
  | member before after key _ ih => exact member before after key ih

/-- changing every item to one that is the same -/
theorem items {f g : JsonValue → JsonValue} {vs : List JsonValue} (h : ∀ v ∈ vs, SameUpToKeyOrder (f v) (g v)) :
    SameUpToKeyOrder (array (vs.map f)) (array (vs.map g)) := by
  have hfrom : ∀ before, SameUpToKeyOrder (array (before ++ vs.map f)) (array (before ++ vs.map g)) := by
    induction vs with
    | nil => exact fun before => refl _
    | cons v vs ih =>
      intro before
      have hhead := item before (vs.map f) (h v List.mem_cons_self)
      have htail := ih (fun u hu => h u (List.mem_cons_of_mem _ hu)) (before ++ [g v])
      rw [List.append_assoc, List.append_assoc, List.singleton_append, List.singleton_append] at htail
      exact hhead.trans htail
  exact hfrom []

/-- changing the value of every member to one that is the same -/
theorem members {f g : JsonValue → JsonValue} {ms : List (String × JsonValue)}
    (h : ∀ m ∈ ms, SameUpToKeyOrder (f m.2) (g m.2)) :
    SameUpToKeyOrder (object (ms.map (Prod.map id f))) (object (ms.map (Prod.map id g))) := by
  have hfrom : ∀ before, SameUpToKeyOrder (object (before ++ ms.map (Prod.map id f)))
      (object (before ++ ms.map (Prod.map id g))) := by
    induction ms with
    | nil => exact fun before => refl _
    | cons m ms ih =>
      intro before
      have hhead := member before (ms.map (Prod.map id f)) m.1 (h m List.mem_cons_self)
      have htail := ih (fun n hn => h n (List.mem_cons_of_mem _ hn)) (before ++ [(m.1, g m.2)])
      rw [List.append_assoc, List.append_assoc, List.singleton_append, List.singleton_append] at htail
      exact hhead.trans htail
  exact hfrom []

theorem string_inv {s : String} {w : JsonValue} (h : SameUpToKeyOrder (string s) w) : w = string s := by
  obtain ⟨v, hv⟩ : ∃ v, v = string s := ⟨_, rfl⟩
  rw [← hv] at h
  induction h with
  | refl v => exact hv
  | trans _ _ ih ih' => exact ih' (ih hv)
  | _ => cases hv

/-- the same members, each with a value that is the same -/
theorem object_inv {ms : List (String × JsonValue)} {w : JsonValue} (h : SameUpToKeyOrder (object ms) w) :
    ∃ ns, w = object ns ∧ (∀ key v, (key, v) ∈ ms → ∃ v', (key, v') ∈ ns ∧ SameUpToKeyOrder v v') := by
  generalize hv : object ms = v at h
  induction h generalizing ms with
  | refl v => exact ⟨ms, hv.symm, fun key v hmem => ⟨v, hmem, refl v⟩⟩
  | trans _ _ ih ih' =>
    obtain ⟨ns, rfl, hns⟩ := ih hv
    obtain ⟨ns', rfl, hns'⟩ := ih' rfl
    refine ⟨ns', rfl, fun key v hmem => ?_⟩
    obtain ⟨v', hmem', hsame⟩ := hns key v hmem
    obtain ⟨v'', hmem'', hsame'⟩ := hns' key v' hmem'
    exact ⟨v'', hmem'', hsame.trans hsame'⟩
  | reorder hp =>
    cases hv
    exact ⟨_, rfl, fun key v hmem => ⟨v, hp.mem_iff.1 hmem, refl v⟩⟩
  | item => cases hv
  | member before after key hsame _ =>
    cases hv
    refine ⟨_, rfl, fun key' v' hmem => ?_⟩
    rcases List.mem_append.1 hmem with hbefore | hrest
    · exact ⟨v', List.mem_append_left _ hbefore, refl v'⟩
    · rcases List.mem_cons.1 hrest with heq | hafter
      · cases heq
        exact ⟨_, List.mem_append_right _ List.mem_cons_self, hsame⟩
      · exact ⟨v', List.mem_append_right _ (List.mem_cons_of_mem _ hafter), refl v'⟩

/-- no plain value is the same as one that is not -/
theorem plain {v w : JsonValue} (h : SameUpToKeyOrder v w) (hv : v.Plain) : w.Plain := by
  induction h with
  | refl v => exact hv
  | trans _ _ ih ih' => exact ih' (ih hv)
  | reorder hp =>
    cases hv with
    | object keys values =>
      exact .object ((hp.map Prod.fst).nodup_iff.1 keys) fun m hm => values m (hp.mem_iff.2 hm)
  | item before after _ ih =>
    cases hv with
    | array items =>
      simp only [List.forall_mem_append, List.forall_mem_cons] at items
      refine .array ?_
      simp only [List.forall_mem_append, List.forall_mem_cons]
      exact ⟨items.1, ih items.2.1, items.2.2⟩
  | member before after key _ ih =>
    cases hv with
    | object keys values =>
      simp only [List.forall_mem_append, List.forall_mem_cons] at values
      refine .object (by simpa using keys) ?_
      simp only [List.forall_mem_append, List.forall_mem_cons]
      exact ⟨values.1, ih values.2.1, values.2.2⟩

end SameUpToKeyOrder

/-! ## What a new object has -/

theorem setOwn_perm {ms : List (String × JsonValue)} {key : String} {v : JsonValue} (h : key ∉ ms.map Prod.fst) :
    (setOwn ms key v).Perm ((key, v) :: ms) := by
  induction ms with
  | nil => exact .refl _
  | cons m ms ih =>
    rw [List.map_cons, List.mem_cons, not_or] at h
    unfold setOwn
    rw [if_neg (Ne.symm h.1)]
    split_ifs
    · exact .refl _
    · exact ((ih h.2).cons m).trans (.swap _ _ _)

/-- distinct keys all become members, `__proto__` apart -/
theorem assignAll_perm {ms : List (String × JsonValue)} (h : (ms.map Prod.fst).Nodup) :
    (assignAll ms).Perm (ms.filter fun m => m.1 ≠ protoKey) := by
  have hfrom : ∀ made : List (String × JsonValue), ((made ++ ms).map Prod.fst).Nodup →
      (ms.foldl (fun made m => assign made m.1 m.2) made).Perm (made ++ ms.filter fun m => m.1 ≠ protoKey) := by
    clear h
    induction ms with
    | nil => exact fun made _ => by simp
    | cons m ms ih =>
      intro made hnodup
      rw [List.foldl_cons]
      by_cases hproto : m.1 = protoKey
      · have hrest : ((made ++ ms).map Prod.fst).Nodup :=
          hnodup.sublist (((List.sublist_cons_self m ms).append_left made).map Prod.fst)
        rw [assign, if_pos hproto, List.filter_cons_of_neg (by simpa using hproto)]
        exact ih made hrest
      · have hmoved : (made ++ m :: ms).Perm (m :: made ++ ms) := List.perm_middle
        have hkeys : ((m :: made ++ ms).map Prod.fst).Nodup := (hmoved.map Prod.fst).nodup_iff.1 hnodup
        have hnew : m.1 ∉ made.map Prod.fst := by
          intro hmem
          rw [List.cons_append, List.map_cons, List.nodup_cons, List.map_append, List.mem_append] at hkeys
          exact hkeys.1 (Or.inl hmem)
        have hset : (assign made m.1 m.2).Perm (m :: made) := by
          rw [assign, if_neg hproto]
          exact setOwn_perm hnew
        have hnext := ih (assign made m.1 m.2) (((hset.append_right ms).map Prod.fst).nodup_iff.2 hkeys)
        rw [List.filter_cons_of_pos (by simpa using hproto)]
        exact (hnext.trans (hset.append_right _)).trans List.perm_middle.symm
  exact hfrom [] h

end JsonValue

end SeeMirai
