/-
The two query strings of a private Upbit request (infrastructure/upbit/private-client/auth.ts): the one whose hash is
signed, as it is written, and the one that is sent, percent-encoded but for square brackets.

An empty query has no entries; every other piece between two `&` is one.

Results:
- `encodes_part`: an encoded part is read back, and neither `&` nor `=` occurs in it.
- `query_strings_agree`: decoding what is sent gives what is signed, and taking it apart gives the entries.
-/
import SeeMirai.Lib.PercentEncoding
import SeeMirai.Lib.JsonValue
import SeeMirai.Universe.Eligibility

namespace SeeMirai.Upbit

open Percent Universe

/-! ## Model -/

inductive UpbitQueryParamValue where
  | string (s : String)
  | number (n : JsNumber)
  | boolean (b : Bool)

/-- one value or an array of them -/
inductive UpbitQueryParamValues where
  | one (value : UpbitQueryParamValue)
  | many (values : List UpbitQueryParamValue)

structure UpbitQueryParam where
  key : String
  value : UpbitQueryParamValues

abbrev UpbitQueryParams := List UpbitQueryParam

def UpbitQueryParamValues.toList : UpbitQueryParamValues → List UpbitQueryParamValue
  | one value => [value]
  | many values => values

/-- `String(value)` -/
def toQueryValue : UpbitQueryParamValue → String
  | .string s => s
  | .number (.finite n) => JsonValue.numberText n
  | .number (.infinite negative) => if negative then "-Infinity" else "Infinity"
  | .number .notANumber => "NaN"
  | .boolean b => if b then "true" else "false"

def toQueryStringEntries (param : UpbitQueryParam) (encodePart : String → String) : List String :=
  param.value.toList.map fun value => encodePart param.key ++ "=" ++ encodePart (toQueryValue value)

def toRawQueryPart (value : String) : String := value

def encodeUrlQueryPart (value : String) : String :=
  String.ofList (replaceEscape '5' 'D' ']' (replaceEscape '5' 'B' '[' (encodeURIComponent value.toList)))

def buildUpbitQueryString (params : UpbitQueryParams) : String :=
  "&".intercalate (params.flatMap fun param => toQueryStringEntries param toRawQueryPart)

def buildUpbitUrlQueryString (params : UpbitQueryParams) : String :=
  "&".intercalate (params.flatMap fun param => toQueryStringEntries param encodeUrlQueryPart)

/-! ## The receiver -/

/-- the keys and values of a request, in order -/
def queryEntries (params : UpbitQueryParams) : List (String × String) :=
  params.flatMap fun param => param.value.toList.map fun value => (param.key, toQueryValue value)

def decodeText (cs : List Char) : Option String := String.ofList <$> decodeURIComponent cs

/-- key and value of a piece, on either side of its first `=` -/
def readEntry (piece : List Char) : Option (String × String) := do
  let key ← decodeText (piece.takeWhile (· ≠ '='))
  let value ← decodeText ((piece.dropWhile (· ≠ '=')).drop 1)
  return (key, value)

def readQuery (query : String) : Option (List (String × String)) :=
  ((query.toList.splitOn '&').filter (· ≠ [])).mapM readEntry

/-! ## Parts -/

/-- an escaped byte, with the square brackets as they are -/
def escapeQueryByte (b : UInt8) : List Char := replaceEscape '5' 'D' ']' (replaceEscape '5' 'B' '[' (escapeByte b))

theorem toList_encodeUrlQueryPart (value : String) :
    (encodeUrlQueryPart value).toList = value.toList.flatMap (encodeChar escapeQueryByte) := by
  have hchunk : ∀ b, Chunk (replaceEscape '5' 'B' '[' (escapeByte b)) :=
    fun b => (chunk_escapeByte b).replaced (by decide)
  rw [encodeUrlQueryPart, String.toList_ofList, encodeURIComponent, replaceEscape_encoded chunk_escapeByte,
    replaceEscape_encoded hchunk]
  rfl

theorem escapeQueryByte_eq (b : UInt8) :
    escapeQueryByte b = ['['] ∧ b = 0x5B ∨ escapeQueryByte b = [']'] ∧ b = 0x5D ∨ escapeQueryByte b = escapeByte b := by
  have hall : ∀ n : Fin 256, escapeQueryByte (UInt8.ofNat n) = ['['] ∧ UInt8.ofNat n = 0x5B ∨
      escapeQueryByte (UInt8.ofNat n) = [']'] ∧ UInt8.ofNat n = 0x5D ∨
      escapeQueryByte (UInt8.ofNat n) = escapeByte (UInt8.ofNat n) := by
    decide +kernel
  have hb := hall ⟨b.toNat, b.toNat_lt⟩
  rwa [UInt8.ofNat_toNat] at hb

theorem escapes_escapeQueryByte : Escapes escapeQueryByte := by
  intro b rest
  rcases escapeQueryByte_eq b with ⟨h, rfl⟩ | ⟨h, rfl⟩ | h
  · rw [h, List.singleton_append, percentBytes_plain (by decide)]
    rfl
  · rw [h, List.singleton_append, percentBytes_plain (by decide)]
    rfl
  · rw [h]
    exact escapes_escapeByte b rest

theorem separator_not_mem {d : Char} (hd : d = '&' ∨ d = '=') (value : String) : d ∉
    (encodeUrlQueryPart value).toList := by
  have hdigits : ∀ n : Fin 16, d ≠ hexDigit n := by
    rcases hd with rfl | rfl <;> decide
  have hescape : ∀ b, d ∉ escapeByte b := by
    intro b hmem
    have hb : b.toNat < 256 := b.toNat_lt
    simp only [escapeByte, List.mem_cons, List.not_mem_nil, or_false] at hmem
    rcases hmem with rfl | hmem | hmem
    · rcases hd with hd | hd <;> exact absurd hd (by decide)
    · exact hdigits ⟨b.toNat / 16, by omega⟩ hmem
    · exact hdigits ⟨b.toNat % 16, by omega⟩ hmem
  rw [toList_encodeUrlQueryPart]
  refine encoded_not_mem (by rcases hd with rfl | rfl <;> decide) (fun b => ?_) _
  rcases escapeQueryByte_eq b with ⟨h, -⟩ | ⟨h, -⟩ | h
  · rw [h]
    rcases hd with rfl | rfl <;> decide
  · rw [h]
    rcases hd with rfl | rfl <;> decide
  · rw [h]
    exact hescape b

/-- an encoded part is read back -/
theorem encodes_part (value : String) : Encodes (encodeUrlQueryPart value).toList value.toList := by
  rw [toList_encodeUrlQueryPart]
  exact encodes_encoded escapes_escapeQueryByte _

/-! ## Entries -/

/-- an entry as it is sent and as it is signed -/
def entryTexts (entry : String × String) : List Char × List Char :=
  ((encodeUrlQueryPart entry.1 ++ "=" ++ encodeUrlQueryPart entry.2).toList, (entry.1 ++ "=" ++ entry.2).toList)

theorem encodes_entry (entry : String × String) : Encodes (entryTexts entry).1 (entryTexts entry).2 := by
  simp only [entryTexts, String.toList_append]
  exact ((encodes_part entry.1).append (.char (by decide))).append (encodes_part entry.2)

theorem map_toQueryStringEntries (params : UpbitQueryParams) (encodePart : String → String) :
    (params.flatMap fun param => toQueryStringEntries param encodePart).map String.toList =
      (queryEntries params).map fun entry => (encodePart entry.1 ++ "=" ++ encodePart entry.2).toList := by
  simp only [queryEntries, toQueryStringEntries, List.map_flatMap, List.map_map, Function.comp_def]

theorem toList_buildUpbitUrlQueryString (params : UpbitQueryParams) :
    (buildUpbitUrlQueryString params).toList =
      ['&'].intercalate ((queryEntries params).map fun entry => (entryTexts entry).1) := by
  rw [buildUpbitUrlQueryString, String.toList_intercalate, map_toQueryStringEntries]
  simp only [entryTexts, String.reduceToList]

theorem toList_buildUpbitQueryString (params : UpbitQueryParams) :
    (buildUpbitQueryString params).toList =
      ['&'].intercalate ((queryEntries params).map fun entry => (entryTexts entry).2) := by
  rw [buildUpbitQueryString, String.toList_intercalate, map_toQueryStringEntries]
  simp only [entryTexts, toRawQueryPart, String.reduceToList]

theorem ampersand_not_mem (entry : String × String) : '&' ∉ (entryTexts entry).1 := by
  simp only [entryTexts, String.toList_append, List.mem_append]
  rintro ((hkey | hequals) | hvalue)
  · exact separator_not_mem (Or.inl rfl) _ hkey
  · exact absurd hequals (by decide)
  · exact separator_not_mem (Or.inl rfl) _ hvalue

/-- an entry is taken apart at its first `=` -/
theorem readEntry_entryTexts (entry : String × String) : readEntry (entryTexts entry).1 = some entry := by
  have hkey : ∀ c ∈ (encodeUrlQueryPart entry.1).toList, decide (c ≠ '=') = true := by
    rintro c hc
    refine decide_eq_true ?_
    rintro rfl
    exact separator_not_mem (Or.inr rfl) _ hc
  have hlist : (entryTexts entry).1 =
    (encodeUrlQueryPart entry.1).toList ++ '=' :: (encodeUrlQueryPart entry.2).toList := by
    simp [entryTexts]
  have htake : (entryTexts entry).1.takeWhile (· ≠ '=') = (encodeUrlQueryPart entry.1).toList := by
    rw [hlist, List.takeWhile_append_of_pos hkey, List.takeWhile_cons_of_neg (by decide), List.append_nil]
  have hdrop : (entryTexts entry).1.dropWhile (· ≠ '=') = '=' :: (encodeUrlQueryPart entry.2).toList := by
    rw [hlist, List.dropWhile_append_of_pos hkey, List.dropWhile_cons_of_neg (by decide)]
  have hdecode : ∀ value, decodeText (encodeUrlQueryPart value).toList = some value := by
    intro value
    rw [decodeText, (encodes_part value).decode]
    exact congrArg some String.ofList_toList
  rw [readEntry, htake, hdrop, List.drop_one, List.tail_cons, hdecode, hdecode]
  rfl

theorem mapM_readEntry (entries : List (String × String)) :
    (entries.map fun entry => (entryTexts entry).1).mapM readEntry = some entries := by
  induction entries with
  | nil => rfl
  | cons entry entries ih =>
    rw [List.map_cons, List.mapM_cons, readEntry_entryTexts, ih]
    rfl

/-- what is sent has one piece for each entry -/
theorem pieces_of_query (params : UpbitQueryParams) :
    ((buildUpbitUrlQueryString params).toList.splitOn '&').filter (· ≠ []) =
      (queryEntries params).map fun entry => (entryTexts entry).1 := by
  have hpiece : ∀ entry, (entryTexts entry).1 ≠ [] := by
    intro entry hnil
    have hequals : '=' ∈ (entryTexts entry).1 := by simp [entryTexts]
    rw [hnil] at hequals
    cases hequals
  rw [toList_buildUpbitUrlQueryString]
  cases hentries : queryEntries params with
  | nil => decide
  | cons entry entries =>
    rw [List.splitOn_intercalate '&' (List.forall_mem_map.2 fun e _ => ampersand_not_mem e) (by simp)]
    exact List.filter_eq_self.2 (List.forall_mem_map.2 fun e _ => decide_eq_true (hpiece e))

/-- **The signed query and the sent one agree.** Decoding what is sent gives what is signed, and its pieces are the
entries of the request, in their order. -/
theorem query_strings_agree (params : UpbitQueryParams) :
    decodeText (buildUpbitUrlQueryString params).toList = some (buildUpbitQueryString params) ∧
      readQuery (buildUpbitUrlQueryString params) = some (queryEntries params) := by
  constructor
  · have hencodes : Encodes (buildUpbitUrlQueryString params).toList (buildUpbitQueryString params).toList := by
      rw [toList_buildUpbitUrlQueryString, toList_buildUpbitQueryString]
      have hjoined := Encodes.intercalate (c := '&') (by decide)
        (List.forall_mem_map.2 fun entry (_ : entry ∈ queryEntries params) => encodes_entry entry)
      simpa only [List.map_map, Function.comp_def] using hjoined
    rw [decodeText, hencodes.decode]
    exact congrArg some String.ofList_toList
  · rw [readQuery, pieces_of_query, mapM_readEntry]

example : buildUpbitUrlQueryString
  [⟨"states[]", .many [.string "wait", .string "a&b=c"]⟩, ⟨"page", .one (.boolean true)⟩]
    = "states[]=wait&states[]=a%26b%3Dc&page=true" := by decide +kernel

end SeeMirai.Upbit
