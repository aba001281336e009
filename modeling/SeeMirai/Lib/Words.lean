/-
The words of a text: what is left when white space is only a separator. `collapse` is `replace(/\s+/gu, " ")`.

Results:
- `collapse_trim`: a trimmed text with its runs of white space collapsed is its words, one space apart.
- `words_join`: joined words are taken apart again, so a text in this form is in normal form.
-/
import SeeMirai.Lib.JsHost

namespace SeeMirai

/-- the maximal runs of characters that are no white space -/
def words : List Char → List (List Char)
  | [] => []
  | [c] => if isWhiteSpace c then [] else [[c]]
  | c :: d :: cs =>
    if isWhiteSpace c then words (d :: cs)
    else if isWhiteSpace d then [c] :: words (d :: cs)
    else
      match words (d :: cs) with
      | [] => [[c]]
      | w :: ws => (c :: w) :: ws

/-- every run of white space becomes one space; the flag says whether the last character was in one -/
def collapse : Bool → List Char → List Char
  | _, [] => []
  | inRun, c :: cs =>
    if isWhiteSpace c then if inRun then collapse true cs else ' ' :: collapse true cs
    else c :: collapse false cs

def joinWords (ws : List (List Char)) : List Char := [' '].intercalate ws

/-- a word has characters, and none of them is white space -/
structure IsWord (w : List Char) : Prop where
  ne_nil : w ≠ []
  solid : ∀ c ∈ w, isWhiteSpace c = false

/-! ## Taking words apart -/

theorem words_space {c : Char} (h : isWhiteSpace c = true) (cs : List Char) : words (c :: cs) = words cs := by
  cases cs with
  | nil => simp [words, h]
  | cons d cs => rw [words, if_pos h]

theorem words_eq_nil {cs : List Char} (h : words cs = []) : ∀ c ∈ cs, isWhiteSpace c = true := by
  induction cs with
  | nil => exact fun c hc => absurd hc List.not_mem_nil
  | cons c cs ih =>
    by_cases hc : isWhiteSpace c = true
    · rw [words_space hc] at h
      exact List.forall_mem_cons.2 ⟨hc, ih h⟩
    · cases cs with
      | nil =>
        rw [words, if_neg hc] at h
        cases h
      | cons d cs =>
        rw [words, if_neg hc] at h
        split_ifs at h
        split at h <;> cases h

theorem words_isWord (cs : List Char) : ∀ w ∈ words cs, IsWord w := by
  induction cs with
  | nil => exact fun w hw => absurd hw List.not_mem_nil
  | cons c cs ih =>
    by_cases hc : isWhiteSpace c = true
    · rwa [words_space hc]
    · have hsolid : isWhiteSpace c = false := by simpa using hc
      have hone : IsWord [c] := ⟨by simp, by simpa using hsolid⟩
      cases cs with
      | nil =>
        rw [words, if_neg hc]
        simpa using hone
      | cons d cs =>
        rw [words, if_neg hc]
        split_ifs with hd
        · exact List.forall_mem_cons.2 ⟨hone, ih⟩
        · split
          · simpa using hone
          · rename_i w ws hws
            rw [hws] at ih
            obtain ⟨hw, hrest⟩ := List.forall_mem_cons.1 ih
            refine List.forall_mem_cons.2 ⟨⟨by simp, ?_⟩, hrest⟩
            exact List.forall_mem_cons.2 ⟨hsolid, hw.solid⟩

/-- behind a word character, white space ends the word -/
theorem words_solid_space {c d : Char} (hc : isWhiteSpace c = false) (hd : isWhiteSpace d = true) (cs : List Char) :
    words (c :: d :: cs) = [c] :: words cs := by
  rw [words, if_neg (by simp [hc]), if_pos hd, words_space hd]

theorem words_spaces {spaces : List Char} (h : ∀ c ∈ spaces, isWhiteSpace c = true) : words spaces = [] := by
  induction spaces with
  | nil => rfl
  | cons c cs ih =>
    rw [words_space (h c List.mem_cons_self)]
    exact ih fun d hd => h d (List.mem_cons_of_mem _ hd)

theorem words_append_spaces {spaces : List Char} (h : ∀ c ∈ spaces, isWhiteSpace c = true) (cs : List Char) :
    words (cs ++ spaces) = words cs := by
  induction cs with
  | nil => exact words_spaces h
  | cons c cs ih =>
    by_cases hc : isWhiteSpace c = true
    · rw [List.cons_append, words_space hc, words_space hc, ih]
    · have hsolid : isWhiteSpace c = false := by simpa using hc
      cases cs with
      | nil =>
        cases spaces with
        | nil => rfl
        | cons d ds =>
          rw [List.cons_append, List.nil_append, words_solid_space hsolid (h d List.mem_cons_self),
            words_spaces fun e he => h e (List.mem_cons_of_mem _ he), words, if_neg hc]
      | cons d cs =>
        rw [List.cons_append, List.cons_append, words, ← List.cons_append, ih]
        conv_rhs => rw [words]

theorem words_dropWhile (cs : List Char) : words (cs.dropWhile isWhiteSpace) = words cs := by
  induction cs with
  | nil => rfl
  | cons c cs ih =>
    by_cases hc : isWhiteSpace c = true
    · rw [List.dropWhile_cons_of_pos hc, ih, words_space hc]
    · rw [List.dropWhile_cons_of_neg hc]

/-! ## Collapsing -/

/-- a text that does not end in white space -/
def EndsSolid (cs : List Char) : Prop := ∀ c ∈ cs.getLast?, isWhiteSpace c = false

theorem joinWords_cons (w : List Char) {ws : List (List Char)} (h : ws ≠ []) :
    joinWords (w :: ws) = w ++ ' ' :: joinWords ws := by
  obtain ⟨v, vs, rfl⟩ := List.exists_cons_of_ne_nil h
  simp [joinWords, List.intercalate_cons_cons]

theorem joinWords_singleton (w : List Char) : joinWords [w] = w := by simp [joinWords]

theorem EndsSolid.words_ne_nil {c : Char} {cs : List Char} (h : EndsSolid (c :: cs)) : words (c :: cs) ≠ [] := by
  intro hnil
  have hlast := List.getLast_mem (List.cons_ne_nil c cs)
  have hsolid := h _ (List.getLast?_eq_some_getLast (List.cons_ne_nil c cs))
  rw [words_eq_nil hnil _ hlast] at hsolid
  cases hsolid

theorem EndsSolid.tail {c : Char} {cs : List Char} (h : EndsSolid (c :: cs)) : EndsSolid cs := by
  cases cs with
  | nil => exact fun d hd => absurd hd (by simp)
  | cons d cs =>
    intro e he
    exact h e (by rwa [List.getLast?_cons_cons])

/-- a word character in front of a text goes to its first word, if there is one right behind -/
theorem joinWords_solid {c : Char} {cs : List Char} (hc : isWhiteSpace c = false) (h : EndsSolid cs) :
    joinWords (words (c :: cs)) =
      c :: ((if cs.head?.map isWhiteSpace = some true then [' '] else []) ++ joinWords (words cs)) := by
  have hnot : ¬ isWhiteSpace c = true := by simp [hc]
  cases cs with
  | nil => simp [words, hc, joinWords]
  | cons d cs =>
    have hne := h.words_ne_nil
    by_cases hd : isWhiteSpace d = true
    · rw [words, if_neg hnot, if_pos hd, joinWords_cons [c] hne, if_pos (by simp [hd])]
      rfl
    · obtain ⟨w, ws, hws⟩ := List.exists_cons_of_ne_nil hne
      rw [words, if_neg hnot, if_neg hd, hws, if_neg (by simp [hd])]
      cases ws with
      | nil => simp [joinWords]
      | cons v vs => simp [joinWords, List.intercalate_cons_cons]

/-- collapsing behind white space, and behind anything else -/
theorem collapse_words {cs : List Char} (h : EndsSolid cs) : collapse true cs = joinWords (words cs) ∧
    collapse false cs = (if cs.head?.map isWhiteSpace = some true then [' '] else []) ++ joinWords (words cs) := by
  induction cs with
  | nil => exact ⟨rfl, rfl⟩
  | cons c cs ih =>
    obtain ⟨htrue, hfalse⟩ := ih h.tail
    by_cases hc : isWhiteSpace c = true
    · rw [words_space hc, collapse, if_pos hc, if_pos rfl, collapse, if_pos hc, if_neg (by decide), htrue,
        if_pos (by simp [hc])]
      exact ⟨rfl, rfl⟩
    · have hsolid : isWhiteSpace c = false := by simpa using hc
      have hhead : ¬ (c :: cs).head?.map isWhiteSpace = some true := by simp [hsolid]
      rw [joinWords_solid hsolid h.tail, collapse, if_neg hc, collapse, if_neg hc, hfalse, if_neg hhead]
      exact ⟨rfl, rfl⟩

/-- a text is its core with white space behind it -/
theorem dropTrailing_spec (cs : List Char) : ∃ spaces, (∀ c ∈ spaces, isWhiteSpace c = true) ∧
    cs = (cs.reverse.dropWhile isWhiteSpace).reverse ++ spaces ∧
      EndsSolid (cs.reverse.dropWhile isWhiteSpace).reverse := by
  refine ⟨(cs.reverse.takeWhile isWhiteSpace).reverse, ?_, ?_, ?_⟩
  · intro c hc
    exact List.mem_takeWhile_imp (List.mem_reverse.1 hc)
  · rw [← List.reverse_append, List.takeWhile_append_dropWhile, List.reverse_reverse]
  · intro c hc
    rw [List.getLast?_reverse] at hc
    have hhead := List.head?_dropWhile_not isWhiteSpace cs.reverse
    rw [Option.mem_def.1 hc] at hhead
    simpa using hhead

/-- **Normal form.** A trimmed text with its runs collapsed is its words, one space apart. -/
theorem collapse_trim (s : String) : collapse false (trim s).toList = joinWords (words s.toList) := by
  obtain ⟨spaces, hspaces, hcore, hends⟩ := dropTrailing_spec (s.toList.dropWhile isWhiteSpace)
  have hwords : words (trim s).toList = words s.toList := by
    rw [trim, String.toList_ofList, ← words_append_spaces hspaces, ← hcore, words_dropWhile]
  have hhead : ¬ (trim s).toList.head?.map isWhiteSpace = some true := by
    rw [trim, String.toList_ofList]
    have hdrop := List.head?_dropWhile_not isWhiteSpace s.toList
    cases hlist : ((s.toList.dropWhile isWhiteSpace).reverse.dropWhile isWhiteSpace).reverse with
    | nil => simp
    | cons c cs =>
      rw [hlist, List.cons_append] at hcore
      rw [hcore, List.head?_cons] at hdrop
      simpa using hdrop
  rw [(collapse_words (by rw [trim, String.toList_ofList]; exact hends)).2, if_neg hhead, hwords, List.nil_append]

/-! ## Joining words -/

theorem words_word {w : List Char} (h : IsWord w) : words w = [w] := by
  obtain ⟨hne, hsolid⟩ := h
  induction w with
  | nil => exact absurd rfl hne
  | cons c cs ih =>
    have hc : ¬ isWhiteSpace c = true := by simp [hsolid c List.mem_cons_self]
    cases cs with
    | nil => rw [words, if_neg hc]
    | cons d cs =>
      have hd : ¬ isWhiteSpace d = true := by simp [hsolid d (by simp)]
      rw [words, if_neg hc, if_neg hd, ih (by simp) fun e he => hsolid e (List.mem_cons_of_mem _ he)]

theorem words_word_append {w cs : List Char} (h : IsWord w) : words (w ++ ' ' :: cs) = w :: words cs := by
  obtain ⟨hne, hsolid⟩ := h
  have hspace : isWhiteSpace ' ' = true := by decide
  induction w with
  | nil => exact absurd rfl hne
  | cons c w ih =>
    have hc := hsolid c List.mem_cons_self
    cases w with
    | nil => exact words_solid_space hc hspace cs
    | cons d w =>
      have hd : ¬ isWhiteSpace d = true := by simp [hsolid d (by simp)]
      have hrest := ih (by simp) fun e he => hsolid e (List.mem_cons_of_mem _ he)
      rw [List.cons_append, List.cons_append, words, if_neg (by simp [hc]), if_neg hd, ← List.cons_append, hrest]

/-- **Joined words** are taken apart again. -/
theorem words_join {ws : List (List Char)} (h : ∀ w ∈ ws, IsWord w) : words (joinWords ws) = ws := by
  induction ws with
  | nil => rfl
  | cons w ws ih =>
    obtain ⟨hw, hrest⟩ := List.forall_mem_cons.1 h
    cases ws with
    | nil => rw [joinWords_singleton, words_word hw]
    | cons v vs => rw [joinWords_cons w (by simp), words_word_append hw, ih hrest]

/-- nothing to trim at either end -/
theorem trim_solid_ends {cs : List Char} (hhead : ∀ c ∈ cs.head?, isWhiteSpace c = false) (hends : EndsSolid cs) :
    trim (String.ofList cs) = String.ofList cs := by
  have hkeep : ∀ {ds : List Char}, (∀ c ∈ ds.head?, isWhiteSpace c = false) → ds.dropWhile isWhiteSpace = ds := by
    intro ds hds
    cases ds with
    | nil => rfl
    | cons d ds => exact List.dropWhile_cons_of_neg (by simp [hds d rfl])
  have hlast : ∀ c ∈ cs.reverse.head?, isWhiteSpace c = false := by
    rw [List.head?_reverse]
    exact hends
  rw [trim, String.toList_ofList, hkeep hhead, hkeep hlast, List.reverse_reverse]

theorem joinWords_ends {ws : List (List Char)} (h : ∀ w ∈ ws, IsWord w) :
    (∀ c ∈ (joinWords ws).head?, isWhiteSpace c = false) ∧ EndsSolid (joinWords ws) := by
  induction ws with
  | nil => exact ⟨fun c hc => absurd hc (by simp [joinWords]), fun c hc => absurd hc (by simp [joinWords])⟩
  | cons w ws ih =>
    obtain ⟨hw, hrest⟩ := List.forall_mem_cons.1 h
    obtain ⟨c, cs, rfl⟩ := List.exists_cons_of_ne_nil hw.ne_nil
    cases ws with
    | nil =>
      rw [joinWords_singleton]
      exact ⟨fun d hd => hw.solid d (List.mem_of_mem_head? hd), fun d hd => hw.solid d (List.mem_of_mem_getLast? hd)⟩
    | cons v vs =>
      obtain ⟨-, hends⟩ := ih hrest
      have hne : joinWords (v :: vs) ≠ [] := by
        intro hnil
        have hjoined := words_join hrest
        rw [hnil] at hjoined
        cases hjoined
      rw [joinWords_cons _ (by simp)]
      refine ⟨fun d hd => hw.solid d (List.mem_of_mem_head? hd), fun d hd => hends d ?_⟩
      obtain ⟨e, es, hes⟩ := List.exists_cons_of_ne_nil hne
      rwa [hes, List.getLast?_append_cons, List.getLast?_cons_cons, ← hes] at hd

theorem trim_join {ws : List (List Char)} (h : ∀ w ∈ ws, IsWord w) :
    trim (String.ofList (joinWords ws)) = String.ofList (joinWords ws) :=
  trim_solid_ends (joinWords_ends h).1 (joinWords_ends h).2

end SeeMirai
