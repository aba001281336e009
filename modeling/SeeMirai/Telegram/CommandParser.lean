/-
The parser of Telegram commands (application/telegram-inbound/parser.ts): a slash, the name of a command, an optional
mention of this bot and what the command takes.

A text is read through its words. What is refused is answered with a reason and with the text as it was read, in the
letters and with the mention it had.

Results:
- `parse_of_words`: the answer is read off the words of the text.
- `parsed_iff`: a text is parsed exactly when its words are those of a command.
- `command_grammar`: the grammar, what does not change an answer, and that the normal form of a command is a command.
-/
import SeeMirai.Lib.Words
import SeeMirai.Lib.AsciiCase

namespace SeeMirai.Telegram

/-! ## Model: commands -/

inductive TelegramInboundCommandName where
  | status
  | brief
  | positions
  | pnl
  | why
  | orders
  | risk
  | pause
  | resume
  | kill
  | approve
  | reject
deriving DecidableEq, Repr

namespace TelegramInboundCommandName

def text : TelegramInboundCommandName → String
  | status => "status"
  | brief => "brief"
  | positions => "positions"
  | pnl => "pnl"
  | why => "why"
  | orders => "orders"
  | risk => "risk"
  | pause => "pause"
  | resume => "resume"
  | kill => "kill"
  | approve => "approve"
  | reject => "reject"

end TelegramInboundCommandName

open TelegramInboundCommandName

def telegramInboundReadOnlyCommands : List TelegramInboundCommandName :=
    [status, brief, positions, pnl, why, orders, risk]

def telegramInboundControlCommands : List TelegramInboundCommandName := [pause, resume, kill]

def telegramInboundApprovalCommands : List TelegramInboundCommandName := [approve, reject]

inductive TelegramInboundCommandScope where
  | readOnly
  | control
  | approval
deriving DecidableEq, Repr

inductive TelegramInboundCommandArgument where
  | cash
  | market (market : String)
  | proposal (proposalId : String)
deriving DecidableEq, Repr

structure ParsedTelegramInboundCommand where
  name : TelegramInboundCommandName
  scope : TelegramInboundCommandScope
  normalizedText : String
  argument : Option TelegramInboundCommandArgument
deriving DecidableEq, Repr

inductive TelegramInboundParseResult where
  | parsed (command : ParsedTelegramInboundCommand)
  | unknown (reasonCode userMessage normalizedText : String)
  | malformed (reasonCode userMessage normalizedText : String)
deriving DecidableEq, Repr

/-- the name of a lower-case text -/
def findCommandName (value : String) : Option TelegramInboundCommandName :=
  (telegramInboundReadOnlyCommands ++ telegramInboundControlCommands ++ telegramInboundApprovalCommands).find?
    fun name => name.text = value

def resolveCommandScope (command : TelegramInboundCommandName) : TelegramInboundCommandScope :=
  if command ∈ telegramInboundApprovalCommands then .approval
  else if command ∈ telegramInboundControlCommands then .control
  else .readOnly

/-! ## Model: patterns -/

def isNameCharacter (c : Char) : Bool := c.isAlphanum || c = '_'

/-- the characters that `.` does not match -/
def isLineTerminator (c : Char) : Bool := c ∈ ['\n', '\r', '\u2028', '\u2029']

structure CommandMatch where
  name : List Char
  botUsername : Option (List Char)
  argument : Option (List Char)

/-- `(?:\s+(?<argument>.*))?$` -/
def matchArgument (name : List Char) (botUsername : Option (List Char)) : List Char → Option CommandMatch
  | [] => some ⟨name, botUsername, none⟩
  | c :: cs =>
    let argument := cs.dropWhile isWhiteSpace
    if isWhiteSpace c ∧ argument.all (fun c => !isLineTerminator c) then some
      ⟨name, botUsername, some argument⟩ else none

/-- `/^\/(?<name>[A-Za-z0-9_]+)(?:@(?<botUsername>[A-Za-z0-9_]+))?(?:\s+(?<argument>.*))?$/u` -/
def commandPattern : List Char → Option CommandMatch
  | '/' :: cs =>
    let name := cs.takeWhile isNameCharacter
    if name = [] then none
    else
      match cs.dropWhile isNameCharacter with
      | '@' :: ds =>
        let botUsername := ds.takeWhile isNameCharacter
        if botUsername = [] then none else matchArgument name (some botUsername) (ds.dropWhile isNameCharacter)
      | ds => matchArgument name none ds
  | _ => none

def isMarketCharacter (c : Char) : Bool := c.isUpper || c.isDigit

/-- `/^KRW-[A-Z0-9]+$/u` -/
def krwMarketPattern (value : String) : Bool :=
  value.toList.take 4 = "KRW-".toList ∧ value.toList.drop 4 ≠ [] ∧ (value.toList.drop 4).all isMarketCharacter

def isProposalCharacter (c : Char) : Bool := c.isAlphanum || c = '.' || c = '_' || c = ':' || c = '-'

/-- `/^[A-Za-z0-9][A-Za-z0-9._:-]{0,127}$/u` -/
def proposalIdPattern (value : String) : Bool :=
  match value.toList with
  | [] => false
  | c :: cs => c.isAlphanum && cs.length ≤ 127 && cs.all isProposalCharacter

/-! ## Model: the parser -/

def normalizeCommandText (text : String) : String := String.ofList (collapse false (trim text).toList)

section Parser

variable [Host]

/-- one leading `@` is left out -/
def normalizeBotUsername : Option String → Option String
  | none => none
  | some value =>
    let trimmed := match (trim value).toList with
      | '@' :: cs => String.ofList cs
      | cs => String.ofList cs
    if trimmed = "" then none else some (Host.toLowerCase trimmed)

def isMentionForThisBot (mentionedBotUsername : String) (configuredBotUsername : Option String) : Bool :=
  normalizeBotUsername configuredBotUsername ≠ none ∧
    normalizeBotUsername (some mentionedBotUsername) = normalizeBotUsername configuredBotUsername

/-- a mention that is there and names another bot -/
def isMentionRefused (mention : Option (List Char)) (configuredBotUsername : Option String) : Bool :=
  mention.any fun username => !isMentionForThisBot (String.ofList username) configuredBotUsername

def parseWhyCommand (argument : Option String) (normalizedText : String) : TelegramInboundParseResult :=
  if argument = none ∨ argument = some "" then
    .malformed "telegram_why_target_required"
      "판단 이유를 보려면 /why KRW-BTC 또는 /why cash처럼 대상을 함께 입력해 주세요." normalizedText
  else
    let target := Host.toUpperCase (argument.getD "")
    if target = "CASH" then .parsed ⟨why, resolveCommandScope why, "/why cash", some .cash⟩
    else if !krwMarketPattern target then
      .malformed "telegram_why_target_invalid" "판단 이유 대상은 cash 또는 KRW-BTC 같은 KRW 마켓 코드여야 합니다." normalizedText
    else .parsed ⟨why, resolveCommandScope why, "/why " ++ target, some (.market target)⟩

omit [Host] in
/-- `argument.split(/\s+/u)` of a trimmed argument is its words -/
def parseApprovalCommand (name : TelegramInboundCommandName) (argument : Option String) (normalizedText : String) :
    TelegramInboundParseResult :=
  if argument = none ∨ argument = some "" then
    .malformed "telegram_approval_proposal_id_required"
      ("/" ++ name.text ++ " 명령은 proposal id를 함께 입력해야 합니다.") normalizedText
  else
    let invalid := TelegramInboundParseResult.malformed "telegram_approval_proposal_id_invalid"
      "proposal id는 공백 없이 1~128자의 영문, 숫자, 점, 밑줄, 콜론, 하이픈만 사용할 수 있습니다." normalizedText
    match words (argument.getD "").toList with
    | [token] =>
      let proposalId := String.ofList token
      if !proposalIdPattern proposalId then invalid
      else .parsed ⟨name, resolveCommandScope name, "/" ++ name.text ++ " " ++ proposalId, some (.proposal proposalId)⟩
    | _ => invalid

omit [Host] in
/-- a command that takes nothing -/
def parsePlainCommand (name : TelegramInboundCommandName) (argument : Option String) (normalizedText : String) :
    TelegramInboundParseResult :=
  if argument ≠ none ∧ argument ≠ some "" then
    .malformed "telegram_command_unexpected_argument" ("/" ++ name.text ++ " 명령은 추가 입력 없이 사용해 주세요.")
      normalizedText
  else .parsed ⟨name, resolveCommandScope name, "/" ++ name.text, none⟩

def parseNamedCommand (name : TelegramInboundCommandName) (argument : Option String) (normalizedText : String) :
    TelegramInboundParseResult :=
  if name = why then parseWhyCommand argument normalizedText
  else if name = approve ∨ name = reject then parseApprovalCommand name argument normalizedText
  else parsePlainCommand name argument normalizedText

/-- what is answered once the pattern has found a command -/
def answerFound (found : CommandMatch) (botUsername : Option String) (normalizedText : String) :
    TelegramInboundParseResult :=
  if isMentionRefused found.botUsername botUsername then
    .unknown
      (if normalizeBotUsername botUsername = none then "telegram_command_bot_username_unconfigured"
        else "telegram_command_bot_mention_mismatch")
      "다른 Telegram bot을 향한 명령이거나 bot username 확인이 없어 요청을 실행하지 않았습니다." normalizedText
  else
    match findCommandName (Host.toLowerCase (String.ofList found.name)) with
    | none =>
      .unknown "telegram_command_unknown"
        "지원하지 않는 명령입니다. 상태 조회는 /status, 브리핑은 /brief, 판단 이유 조회는 /why KRW-BTC 또는 /why cash를 사용해 주세요."
        normalizedText
    | some name => parseNamedCommand name (found.argument.map fun a => trim (String.ofList a)) normalizedText

def parseTelegramInboundCommand (text : String) (botUsername : Option String) : TelegramInboundParseResult :=
  let normalizedText := normalizeCommandText text
  match commandPattern normalizedText.toList with
  | none =>
    .malformed "telegram_command_prefix_required" "명령은 /status 처럼 슬래시로 시작해야 합니다." normalizedText
  | some found => answerFound found botUsername normalizedText

end Parser

/-! ## The first word -/

/-- letters, digits and underscores, at least one -/
structure IsName (cs : List Char) : Prop where
  ne_nil : cs ≠ []
  characters : ∀ c ∈ cs, isNameCharacter c

def mentionText : Option (List Char) → List Char
  | none => []
  | some username => '@' :: username

/-- name and mention of a first word -/
def readHead : List Char → Option (List Char × Option (List Char))
  | '/' :: cs =>
    if cs.takeWhile isNameCharacter = [] then none
    else
      match cs.dropWhile isNameCharacter with
      | [] => some (cs.takeWhile isNameCharacter, none)
      | '@' :: ds =>
        if ds.takeWhile isNameCharacter = [] ∨ ds.dropWhile isNameCharacter ≠ [] then none
        else some (cs.takeWhile isNameCharacter, some (ds.takeWhile isNameCharacter))
      | _ => none
  | _ => none

theorem span_name {name : List Char} (h : IsName name) (rest : List Char) (hrest : ∀ c ∈ rest.head?, isNameCharacter c = false) :
    (name ++ rest).takeWhile isNameCharacter = name ∧ (name ++ rest).dropWhile isNameCharacter = rest := by
  have hstop : rest.takeWhile isNameCharacter = [] ∧ rest.dropWhile isNameCharacter = rest := by
    cases rest with
    | nil => exact ⟨rfl, rfl⟩
    | cons c cs =>
      have hc : ¬ isNameCharacter c = true := by simp [hrest c rfl]
      exact ⟨List.takeWhile_cons_of_neg hc, List.dropWhile_cons_of_neg hc⟩
  rw [List.takeWhile_append_of_pos h.characters, List.dropWhile_append_of_pos h.characters, hstop.1, hstop.2,
    List.append_nil]
  exact ⟨rfl, rfl⟩

theorem readHead_iff {head name : List Char} {mention : Option (List Char)} : readHead head = some (name, mention) ↔
    IsName name ∧ (∀ username ∈ mention, IsName username) ∧ head = '/' :: (name ++ mentionText mention) := by
  have htake : ∀ cs : List Char, cs.takeWhile isNameCharacter ≠ [] → IsName (cs.takeWhile isNameCharacter) :=
    fun cs hne => ⟨hne, fun c hc => List.mem_takeWhile_imp hc⟩
  constructor
  · intro h
    unfold readHead at h
    split at h
    · rename_i cs
      split_ifs at h with hname
      split at h
      · rename_i hrest
        cases h
        refine ⟨htake cs hname, by simp, ?_⟩
        conv_lhs => rw [← List.takeWhile_append_dropWhile (p := isNameCharacter) (l := cs), hrest]
        rfl
      · rename_i ds hrest
        split_ifs at h with husername
        rw [not_or, not_not] at husername
        cases h
        refine ⟨htake cs hname, by simpa using htake ds husername.1, ?_⟩
        conv_lhs =>
          rw [← List.takeWhile_append_dropWhile (p := isNameCharacter) (l := cs), hrest,
            ← List.takeWhile_append_dropWhile (p := isNameCharacter) (l := ds), husername.2, List.append_nil]
        rfl
      · cases h
    · cases h
  · rintro ⟨hname, hmention, rfl⟩
    cases mention with
    | none =>
      obtain ⟨htaken, hdropped⟩ := span_name hname [] (by simp)
      rw [mentionText, readHead, htaken, hdropped, if_neg hname.ne_nil]
    | some username =>
      have husername := hmention username rfl
      obtain ⟨htaken, hdropped⟩ := span_name hname ('@' :: username) (by rintro c ⟨⟩; rfl)
      obtain ⟨htaken', hdropped'⟩ := span_name husername [] (by simp)
      rw [List.append_nil] at htaken' hdropped'
      rw [mentionText, readHead, htaken, hdropped, if_neg hname.ne_nil]
      simp only [htaken', hdropped', husername.ne_nil, ne_eq, not_true_eq_false, or_self, if_false]

/-! ## The words -/

/-- what the pattern finds in a text of these words -/
def readWords : List (List Char) → Option CommandMatch
  | [] => none
  | head :: rest =>
    (readHead head).map fun found => ⟨found.1, found.2, if rest = [] then none else some (joinWords rest)⟩

/-- behind the first word there is nothing, or a space and the other words -/
def tailText (rest : List (List Char)) : List Char := if rest = [] then [] else ' ' :: joinWords rest

theorem joinWords_head (head : List Char) (rest : List (List Char)) : joinWords
    (head :: rest) = head ++ tailText rest := by
  unfold tailText
  split_ifs with hrest
  · rw [hrest, joinWords_singleton, List.append_nil]
  · rw [joinWords_cons head hrest]

theorem tailText_head (rest : List (List Char)) : ∀ c ∈ (tailText rest).head?, c = ' ' := by
  unfold tailText
  split_ifs
  · exact fun c hc => absurd hc (by simp)
  · rintro c ⟨⟩
    rfl

theorem mem_joinWords {ws : List (List Char)} {c : Char} (h : c ∈ joinWords ws) : c = ' ' ∨ ∃ w ∈ ws, c ∈ w := by
  induction ws with
  | nil => cases h
  | cons w ws ih =>
    rw [joinWords_head, List.mem_append] at h
    rcases h with h | h
    · exact Or.inr ⟨w, List.mem_cons_self, h⟩
    · unfold tailText at h
      split_ifs at h
      · cases h
      · rcases List.mem_cons.1 h with h | h
        · exact Or.inl h
        · rcases ih h with h | ⟨v, hv, h⟩
          · exact Or.inl h
          · exact Or.inr ⟨v, List.mem_cons_of_mem _ hv, h⟩

theorem isLineTerminator_space {c : Char} (h : isLineTerminator c = true) : isWhiteSpace c = true := by
  have hcases : c = '\n' ∨ c = '\r' ∨ c = '\u2028' ∨ c = '\u2029' := by simpa [isLineTerminator] using h
  rcases hcases with rfl | rfl | rfl | rfl <;> rfl

theorem matchArgument_tail {rest : List (List Char)} (h : ∀ w ∈ rest, IsWord w) (name : List Char)
    (mention : Option (List Char)) : matchArgument name mention (tailText rest) =
      some ⟨name, mention, if rest = [] then none else some (joinWords rest)⟩ := by
  unfold tailText
  split_ifs with hrest
  · rfl
  · have hdrop : (joinWords rest).dropWhile isWhiteSpace = joinWords rest := by
      cases hjoin : joinWords rest with
      | nil => rfl
      | cons c cs =>
        have hsolid := (joinWords_ends h).1
        rw [hjoin] at hsolid
        exact List.dropWhile_cons_of_neg (by simp [hsolid c rfl])
    have hlines : (joinWords rest).all (fun c => !isLineTerminator c) = true := by
      refine List.all_eq_true.2 fun c hc => ?_
      rcases mem_joinWords hc with rfl | ⟨w, hw, hcw⟩
      · rfl
      · rw [Bool.not_eq_true', Bool.eq_false_iff]
        intro hline
        have hsolid := (h w hw).solid c hcw
        rw [isLineTerminator_space hline] at hsolid
        cases hsolid
    rw [matchArgument]
    simp only [hdrop]
    rw [if_pos ⟨by decide, hlines⟩]

/-- nothing but white space ends a command -/
theorem matchArgument_solid {c : Char} (h : isWhiteSpace c = false) (name : List Char) (mention : Option (List Char))
    (cs : List Char) : matchArgument name mention (c :: cs) = none := by
  rw [matchArgument]
  exact if_neg fun hc => by simp [h] at hc

theorem space_no_name (rest : List (List Char)) : ∀ c ∈ (tailText rest).head?, isNameCharacter c = false := by
  intro c hc
  rw [tailText_head rest c hc]
  rfl

theorem takeWhile_tail (cs : List Char) (rest : List (List Char)) :
    (cs ++ tailText rest).takeWhile isNameCharacter = cs.takeWhile isNameCharacter ∧
      (cs ++ tailText rest).dropWhile isNameCharacter = cs.dropWhile isNameCharacter ++ tailText rest := by
  induction cs with
  | nil =>
    cases htail : tailText rest with
    | nil => exact ⟨rfl, rfl⟩
    | cons c cs =>
      have hspace := space_no_name rest
      rw [htail] at hspace
      have hc : ¬ isNameCharacter c = true := by simp [hspace c rfl]
      exact ⟨List.takeWhile_cons_of_neg hc, List.dropWhile_cons_of_neg hc⟩
  | cons c cs ih =>
    by_cases hc : isNameCharacter c = true
    · rw [List.cons_append, List.takeWhile_cons_of_pos hc, List.takeWhile_cons_of_pos hc, List.dropWhile_cons_of_pos hc,
        List.dropWhile_cons_of_pos hc, ih.1, ih.2]
      exact ⟨rfl, rfl⟩
    · rw [List.cons_append, List.takeWhile_cons_of_neg hc, List.takeWhile_cons_of_neg hc, List.dropWhile_cons_of_neg hc,
        List.dropWhile_cons_of_neg hc]
      exact ⟨rfl, rfl⟩

/-- the pattern reads the first word, and the other words as its argument -/
theorem commandPattern_head {head : List Char} {rest : List (List Char)} (hhead : IsWord head)
    (hrest : ∀ w ∈ rest, IsWord w) : commandPattern (head ++ tailText rest) = readWords (head :: rest) := by
  obtain ⟨c, cs, rfl⟩ := List.exists_cons_of_ne_nil hhead.ne_nil
  by_cases hslash : c = '/'
  · subst hslash
    have hsolid : ∀ d ∈ cs, isWhiteSpace d = false := fun d hd => hhead.solid d (List.mem_cons_of_mem _ hd)
    obtain ⟨htake, hdrop⟩ := takeWhile_tail cs rest
    rw [List.cons_append, commandPattern, readWords, readHead]
    simp only [htake, hdrop]
    by_cases hname : cs.takeWhile isNameCharacter = []
    · rw [if_pos hname, if_pos hname]
      rfl
    · rw [if_neg hname, if_neg hname]
      cases hafter : cs.dropWhile isNameCharacter with
      | nil =>
        rw [List.nil_append]
        split
        · rename_i ds htail
          have hspace := tailText_head rest
          rw [htail] at hspace
          exact absurd (hspace '@' rfl) (by decide)
        · exact matchArgument_tail hrest _ _
      | cons d ds =>
        have hafterSolid : ∀ e ∈ d :: ds, isWhiteSpace e = false := by
          intro e he
          rw [← hafter] at he
          exact hsolid e (List.dropWhile_subset _ he)
        by_cases hmention : d = '@'
        · subst hmention
          obtain ⟨htake', hdrop'⟩ := takeWhile_tail ds rest
          simp only [List.cons_append, htake', hdrop']
          by_cases husername : ds.takeWhile isNameCharacter = []
          · rw [if_pos husername, if_pos (Or.inl husername)]
            rfl
          · rw [if_neg husername]
            cases hend : ds.dropWhile isNameCharacter with
            | nil =>
              have hfine : ¬ (ds.takeWhile isNameCharacter = [] ∨ ([] : List Char) ≠ []) :=
                fun h => h.elim husername fun hne => hne rfl
              rw [if_neg hfine, List.nil_append, matchArgument_tail hrest]
              rfl
            | cons e es =>
              have he : e ∈ '@' :: ds := List.mem_cons_of_mem _ (List.dropWhile_subset _ (hend ▸ List.mem_cons_self))
              rw [if_pos (Or.inr (by simp)), List.cons_append, matchArgument_solid (hafterSolid e he)]
              rfl
        · have hpattern : ∀ es, (match d :: es with
              | '@' :: ds =>
                if ds.takeWhile isNameCharacter = [] then none
                else matchArgument (cs.takeWhile isNameCharacter) (some (ds.takeWhile isNameCharacter))
                  (ds.dropWhile isNameCharacter)
              | ds => matchArgument (cs.takeWhile isNameCharacter) none ds) = none := by
            intro es
            split
            · rename_i heq
              cases heq
              exact absurd rfl hmention
            · exact matchArgument_solid (hafterSolid d List.mem_cons_self) _ _ _
          have hread : (match d :: ds with
              | [] => some (cs.takeWhile isNameCharacter, none)
              | '@' :: ds =>
                if ds.takeWhile isNameCharacter = [] ∨ ds.dropWhile isNameCharacter ≠ [] then none
                else some (cs.takeWhile isNameCharacter, some (ds.takeWhile isNameCharacter))
              | _ => none) = none := by
            split
            · rename_i heq
              cases heq
            · rename_i heq
              cases heq
              exact absurd rfl hmention
            · rfl
          rw [List.cons_append, hread]
          exact hpattern _
  · have hpattern : ∀ ds, commandPattern (c :: ds) = none := by
      intro ds
      unfold commandPattern
      split
      · rename_i heq
        cases heq
        exact absurd rfl hslash
      · rfl
    have hread : readHead (c :: cs) = none := by
      unfold readHead
      split
      · rename_i heq
        cases heq
        exact absurd rfl hslash
      · rfl
    rw [List.cons_append, hpattern, readWords, hread]
    rfl

theorem normalizeCommandText_words (text : String) :
    normalizeCommandText text = String.ofList (joinWords (words text.toList)) := by
  rw [normalizeCommandText, collapse_trim]

theorem commandPattern_words (text : String) :
    commandPattern (normalizeCommandText text).toList = readWords (words text.toList) := by
  rw [normalizeCommandText_words, String.toList_ofList]
  have hwords := words_isWord text.toList
  cases hws : words text.toList with
  | nil => rfl
  | cons head rest =>
    rw [hws] at hwords
    obtain ⟨hhead, hrest⟩ := List.forall_mem_cons.1 hwords
    rw [joinWords_head, commandPattern_head hhead hrest]

/-- a class of characters without white space -/
theorem solid_of_class {p : Char → Bool} (hp : whiteSpace.all (fun c => !p c) = true) {c : Char} (h : p c = true) :
    isWhiteSpace c = false := by
  rw [Bool.eq_false_iff]
  intro hspace
  have hmem : c ∈ whiteSpace := of_decide_eq_true hspace
  have hnot := List.all_eq_true.1 hp c hmem
  rw [h] at hnot
  cases hnot

/-! ## The rules -/

/-- `KRW-`, then upper-case letters and digits, at least one -/
def IsKrwMarket (market : String) : Prop :=
  ∃ code : List Char, code ≠ [] ∧ (∀ c ∈ code, isMarketCharacter c) ∧ market.toList = "KRW-".toList ++ code

/-- at most 128 letters, digits, points, underscores, colons and hyphens, a letter or a digit first -/
structure IsProposalId (cs : List Char) : Prop where
  first : ∃ c ∈ cs.head?, c.isAlphanum
  length_le : cs.length ≤ 128
  characters : ∀ c ∈ cs, isProposalCharacter c

theorem krwMarketPattern_iff (market : String) : krwMarketPattern market = true ↔ IsKrwMarket market := by
  unfold krwMarketPattern IsKrwMarket
  rw [decide_eq_true_iff]
  constructor
  · rintro ⟨htake, hne, hall⟩
    refine ⟨market.toList.drop 4, hne, by simpa using hall, ?_⟩
    rw [← htake, List.take_append_drop]
  · rintro ⟨code, hne, hall, hlist⟩
    have hdrop : market.toList.drop 4 = code := by rw [hlist]; rfl
    refine ⟨by rw [hlist]; rfl, hdrop ▸ hne, ?_⟩
    rw [hdrop]
    exact List.all_eq_true.2 hall

theorem proposalIdPattern_iff (cs : List Char) : proposalIdPattern (String.ofList cs) = true ↔ IsProposalId cs := by
  unfold proposalIdPattern
  rw [String.toList_ofList]
  cases cs with
  | nil => exact iff_of_false (by simp) fun h => by simpa using h.first
  | cons c cs =>
    simp only [Bool.and_eq_true, decide_eq_true_eq, List.all_eq_true]
    constructor
    · rintro ⟨⟨hfirst, hlength⟩, hall⟩
      refine ⟨⟨c, rfl, hfirst⟩, by simp only [List.length_cons]; omega, List.forall_mem_cons.2 ⟨?_, hall⟩⟩
      simp [isProposalCharacter, hfirst]
    · rintro ⟨⟨d, hd, hfirst⟩, hlength, hall⟩
      cases hd
      simp only [List.length_cons] at hlength
      exact ⟨⟨hfirst, by omega⟩, fun d hd => hall d (List.mem_cons_of_mem _ hd)⟩

/-- the words behind the command, as one text -/
def argumentText (rest : List (List Char)) : Option String :=
  if rest = [] then none else some (String.ofList (joinWords rest))

/-- the normal form of a command -/
def commandText (name : TelegramInboundCommandName) : Option TelegramInboundCommandArgument → String
  | none => "/" ++ name.text
  | some .cash => "/" ++ name.text ++ " cash"
  | some (.market market) => "/" ++ name.text ++ " " ++ market
  | some (.proposal proposalId) => "/" ++ name.text ++ " " ++ proposalId

def commandOf (name : TelegramInboundCommandName) (argument : Option TelegramInboundCommandArgument) :
    ParsedTelegramInboundCommand :=
  ⟨name, resolveCommandScope name, commandText name argument, argument⟩

section Grammar

variable [Host]

/-- the rule of each command for the words behind it, with the argument they give -/
inductive ArgumentRule : TelegramInboundCommandName → List (List Char) → Option TelegramInboundCommandArgument → Prop
  | nothing {name} (h : name ∉ [why, approve, reject]) : ArgumentRule name [] none
  | cash {rest} (hrest : rest ≠ []) (h : Host.toUpperCase (String.ofList (joinWords rest)) = "CASH") :
      ArgumentRule why rest (some .cash)
  | market {rest} (hrest : rest ≠ []) (h : IsKrwMarket (Host.toUpperCase (String.ofList (joinWords rest)))) :
      ArgumentRule why rest (some (.market (Host.toUpperCase (String.ofList (joinWords rest)))))
  | proposal {name word} (h : name ∈ [approve, reject]) (hid : IsProposalId word) :
      ArgumentRule name [word] (some (.proposal (String.ofList word)))

omit [Host] in
theorem argumentText_blank {rest : List (List Char)} (h : ∀ w ∈ rest, IsWord w) :
    argumentText rest = none ∨ argumentText rest = some "" ↔ rest = [] := by
  unfold argumentText
  constructor
  · intro hblank
    by_contra hrest
    rw [if_neg hrest] at hblank
    obtain ⟨head, tail, rfl⟩ := List.exists_cons_of_ne_nil hrest
    rcases hblank with hblank | hblank
    · cases hblank
    · have hempty : joinWords (head :: tail) = [] := by simpa using Option.some.inj hblank
      rw [joinWords_head, List.append_eq_nil_iff] at hempty
      exact (h head List.mem_cons_self).ne_nil hempty.1
  · intro hrest
    exact Or.inl (if_pos hrest)

theorem parseWhyCommand_iff {rest : List (List Char)} (h : ∀ w ∈ rest, IsWord w) (normalizedText : String)
    (command : ParsedTelegramInboundCommand) : parseWhyCommand (argumentText rest) normalizedText = .parsed command ↔
      ∃ argument, ArgumentRule why rest argument ∧ command = commandOf why argument := by
  unfold parseWhyCommand
  by_cases hrest : rest = []
  · rw [if_pos ((argumentText_blank h).2 hrest)]
    refine iff_of_false (fun h => nomatch h) ?_
    rintro ⟨argument, hrule, -⟩
    cases hrule with
    | nothing hname => exact hname (by simp)
    | cash hne => exact hne hrest
    | market hne => exact hne hrest
    | proposal hname => simp at hname
  · rw [if_neg fun hblank => hrest ((argumentText_blank h).1 hblank)]
    have htext : (argumentText rest).getD "" = String.ofList (joinWords rest) := by
      rw [argumentText, if_neg hrest, Option.getD_some]
    simp only [htext]
    by_cases hcash : Host.toUpperCase (String.ofList (joinWords rest)) = "CASH"
    · rw [if_pos hcash]
      constructor
      · rintro ⟨⟩
        exact ⟨some .cash, .cash hrest hcash, rfl⟩
      · rintro ⟨argument, hrule, rfl⟩
        cases hrule with
        | nothing hname => exact absurd (by simp) hname
        | cash => rfl
        | market _ hmarket =>
          rw [hcash, ← krwMarketPattern_iff] at hmarket
          exact absurd hmarket (by decide)
        | proposal hname => simp at hname
    · rw [if_neg hcash]
      by_cases hmarket : krwMarketPattern (Host.toUpperCase (String.ofList (joinWords rest))) = true
      · rw [if_neg (by simp [hmarket])]
        constructor
        · rintro ⟨⟩
          exact ⟨some (.market _), .market hrest ((krwMarketPattern_iff _).1 hmarket), rfl⟩
        · rintro ⟨argument, hrule, rfl⟩
          cases hrule with
          | nothing hname => exact absurd (by simp) hname
          | cash _ hupper => exact absurd hupper hcash
          | market => rfl
          | proposal hname => simp at hname
      · rw [if_pos (by simpa using hmarket)]
        refine iff_of_false (fun h => nomatch h) ?_
        rintro ⟨argument, hrule, -⟩
        cases hrule with
        | nothing hname => exact hname (by simp)
        | cash _ hupper => exact hcash hupper
        | market _ hupper => exact hmarket ((krwMarketPattern_iff _).2 hupper)
        | proposal hname => simp at hname

theorem parseApprovalCommand_iff {name : TelegramInboundCommandName} (hname : name ∈ [approve, reject])
    {rest : List (List Char)} (h : ∀ w ∈ rest, IsWord w) (normalizedText : String)
    (command : ParsedTelegramInboundCommand) :
    parseApprovalCommand name (argumentText rest) normalizedText = .parsed command ↔
      ∃ argument, ArgumentRule name rest argument ∧ command = commandOf name argument := by
  have hwhy : name ≠ why := by rintro rfl; simp at hname
  have hrule : ∀ argument, ArgumentRule name rest argument ↔
      ∃ word, rest = [word] ∧ IsProposalId word ∧ argument = some (.proposal (String.ofList word)) := by
    intro argument
    constructor
    · intro hrule
      cases hrule with
      | nothing hplain => exact absurd (List.mem_cons_of_mem _ hname) hplain
      | cash => exact absurd rfl hwhy
      | market => exact absurd rfl hwhy
      | proposal _ hid => exact ⟨_, rfl, hid, rfl⟩
    · rintro ⟨word, rfl, hid, rfl⟩
      exact .proposal hname hid
  unfold parseApprovalCommand
  simp only [hrule]
  by_cases hrest : rest = []
  · rw [if_pos ((argumentText_blank h).2 hrest)]
    refine iff_of_false (fun h => nomatch h) ?_
    rintro ⟨_, ⟨word, hword, -⟩, -⟩
    rw [hrest] at hword
    cases hword
  · rw [if_neg fun hblank => hrest ((argumentText_blank h).1 hblank)]
    have htext : words ((argumentText rest).getD "").toList = rest := by
      rw [argumentText, if_neg hrest, Option.getD_some, String.toList_ofList, words_join h]
    rw [htext]
    split
    · rename_i token
      by_cases hid : proposalIdPattern (String.ofList token) = true
      · rw [if_neg (by simp [hid])]
        constructor
        · rintro ⟨⟩
          exact ⟨_, ⟨token, rfl, (proposalIdPattern_iff token).1 hid, rfl⟩, rfl⟩
        · rintro ⟨_, ⟨word, hword, -, rfl⟩, rfl⟩
          cases hword
          rfl
      · rw [if_pos (by simpa using hid)]
        refine iff_of_false (fun h => nomatch h) ?_
        rintro ⟨_, ⟨word, hword, hfits, -⟩, -⟩
        cases hword
        exact hid ((proposalIdPattern_iff token).2 hfits)
    · rename_i hmany
      refine iff_of_false (fun h => nomatch h) ?_
      rintro ⟨_, ⟨word, hword, -⟩, -⟩
      exact hmany word hword

theorem parsePlainCommand_iff {name : TelegramInboundCommandName} (hname : name ∉ [why, approve, reject])
    {rest : List (List Char)} (h : ∀ w ∈ rest, IsWord w) (normalizedText : String)
    (command : ParsedTelegramInboundCommand) :
    parsePlainCommand name (argumentText rest) normalizedText = .parsed command ↔
      ∃ argument, ArgumentRule name rest argument ∧ command = commandOf name argument := by
  unfold parsePlainCommand
  by_cases hrest : rest = []
  · rw [if_neg fun hgiven => ((argumentText_blank h).2 hrest).elim hgiven.1 hgiven.2]
    constructor
    · rintro ⟨⟩
      exact ⟨none, hrest ▸ .nothing hname, rfl⟩
    · rintro ⟨argument, hrule, rfl⟩
      cases hrule with
      | nothing => rfl
      | cash => simp at hname
      | market => simp at hname
      | proposal happroval => exact absurd (List.mem_cons_of_mem _ happroval) hname
  · rw [if_pos (not_or.1 fun hblank => hrest ((argumentText_blank h).1 hblank))]
    refine iff_of_false (fun h => nomatch h) ?_
    rintro ⟨argument, hrule, -⟩
    cases hrule with
    | nothing => exact hrest rfl
    | cash => simp at hname
    | market => simp at hname
    | proposal happroval => exact hname (List.mem_cons_of_mem _ happroval)

theorem parseNamedCommand_iff (name : TelegramInboundCommandName) {rest : List (List Char)}
    (h : ∀ w ∈ rest, IsWord w) (normalizedText : String) (command : ParsedTelegramInboundCommand) :
    parseNamedCommand name (argumentText rest) normalizedText = .parsed command ↔
      ∃ argument, ArgumentRule name rest argument ∧ command = commandOf name argument := by
  unfold parseNamedCommand
  split_ifs with hwhy happroval
  · subst hwhy
    exact parseWhyCommand_iff h normalizedText command
  · exact parseApprovalCommand_iff (by simpa using happroval) h normalizedText command
  · exact parsePlainCommand_iff (by simpa using ⟨hwhy, not_or.1 happroval⟩) h normalizedText command

/-! ## Names and mentions -/

/-- the letters of a name, each in upper or lower case -/
def Spells (letters : List Char) (name : TelegramInboundCommandName) : Prop :=
  letters.map Char.toLower = name.text.toList

/-- no mention, or one of this bot -/
def MentionFits (botUsername : Option String) : Option (List Char) → Prop
  | none => True
  | some username =>
    IsName username ∧ normalizeBotUsername botUsername = some (String.ofList (username.map Char.toLower))

omit [Host] in
theorem IsName.isAscii {cs : List Char} (h : IsName cs) : ∀ c ∈ cs, IsAscii c := by
  intro c hc
  have hcharacter := h.characters c hc
  rw [isNameCharacter, Bool.or_eq_true, decide_eq_true_eq] at hcharacter
  rcases hcharacter with halphanum | rfl
  · exact isAscii_alphanum halphanum
  · show '_'.toNat < 128
    decide

omit [Host] in
theorem Spells.isName {letters : List Char} {name : TelegramInboundCommandName} (h : Spells letters name) :
    IsName letters := by
  have hlower : name.text.toList.all Char.isLower = true := by cases name <;> rfl
  constructor
  · rintro rfl
    revert h
    cases name <;> exact fun h => nomatch h
  · intro c hc
    have hmem : c.toLower ∈ name.text.toList := by
      rw [← h]
      exact List.mem_map_of_mem hc
    have halpha := isAlpha_of_toLower rfl (List.all_eq_true.1 hlower _ hmem)
    simp [isNameCharacter, Char.isAlphanum, halpha]

omit [Host] in
theorem findCommandName_iff (value : String) (name : TelegramInboundCommandName) :
    findCommandName value = some name ↔ value = name.text := by
  constructor
  · intro h
    have hfound := List.find?_some h
    exact (of_decide_eq_true hfound).symm
  · rintro rfl
    cases name <;> rfl

variable [Host.AsciiCase ‹Host›]

theorem findCommandName_spelled {letters : List Char} (h : IsName letters) (name : TelegramInboundCommandName) :
    findCommandName (Host.toLowerCase (String.ofList letters)) = some name ↔ Spells letters name := by
  rw [findCommandName_iff, Host.lower_ofList h.isAscii, Spells]
  constructor
  · intro htext
    rw [← htext, String.toList_ofList]
  · intro hletters
    rw [hletters, String.ofList_toList]

theorem normalizeBotUsername_name {username : List Char} (h : IsName username) :
    normalizeBotUsername (some (String.ofList username)) = some (String.ofList (username.map Char.toLower)) := by
  have hsolid : ∀ c ∈ (String.ofList username).toList, isWhiteSpace c = false := by
    intro c hc
    rw [String.toList_ofList] at hc
    exact solid_of_class rfl (h.characters c hc)
  obtain ⟨c, cs, rfl⟩ := List.exists_cons_of_ne_nil h.ne_nil
  have hat : c ≠ '@' := by
    rintro rfl
    exact absurd (h.characters '@' List.mem_cons_self) (by decide)
  unfold normalizeBotUsername
  simp only [trim_solid hsolid, String.toList_ofList]
  split
  · rename_i heq
    cases heq
    exact absurd rfl hat
  · rw [if_neg (by simp), Host.lower_ofList h.isAscii]

theorem mentionRefused_iff (botUsername : Option String) {mention : Option (List Char)}
    (h : ∀ username ∈ mention, IsName username) :
    isMentionRefused mention botUsername = false ↔ MentionFits botUsername mention := by
  cases mention with
  | none => exact iff_of_true rfl trivial
  | some username =>
    have husername := h username rfl
    simp only [isMentionRefused, Option.any_some, Bool.not_eq_false', isMentionForThisBot, decide_eq_true_eq,
      normalizeBotUsername_name husername, MentionFits]
    constructor
    · rintro ⟨-, heq⟩
      exact ⟨husername, heq.symm⟩
    · rintro ⟨-, heq⟩
      exact ⟨by simp [heq], heq.symm⟩

/-! ## The grammar -/

/-- words that are a command: its name, a fitting mention or none, and what its rule allows -/
inductive IsCommand (botUsername : Option String) : List (List Char) → ParsedTelegramInboundCommand → Prop
  | intro {letters mention rest name argument} (hname : Spells letters name)
      (hmention : MentionFits botUsername mention) (hargument : ArgumentRule name rest argument) :
      IsCommand botUsername (('/' :: (letters ++ mentionText mention)) :: rest) (commandOf name argument)

omit [Host] in
theorem argument_trimmed {rest : List (List Char)} (h : ∀ w ∈ rest, IsWord w) :
    (if rest = [] then none else some (joinWords rest)).map (fun a => trim (String.ofList a)) = argumentText rest := by
  unfold argumentText
  split_ifs
  · rfl
  · rw [Option.map_some, trim_join h]

omit [Host.AsciiCase ‹Host›] in
/-- the answer to a text whose first word is a slash, a name and perhaps a mention -/
theorem parse_of_head {text : String} {head letters : List Char} {rest : List (List Char)}
    {mention : Option (List Char)} (hwords : words text.toList = head :: rest)
    (hread : readHead head = some (letters, mention)) (botUsername : Option String) :
    parseTelegramInboundCommand text botUsername =
      answerFound ⟨letters, mention, if rest = [] then none else some (joinWords rest)⟩ botUsername
        (normalizeCommandText text) := by
  have hpattern := commandPattern_words text
  rw [hwords, readWords, hread, Option.map_some] at hpattern
  unfold parseTelegramInboundCommand
  simp only [hpattern]

omit [Host.AsciiCase ‹Host›] in
/-- a text that does not begin so is no command -/
theorem parse_of_no_head {text : String} (h : readWords (words text.toList) = none) (botUsername : Option String)
    (command : ParsedTelegramInboundCommand) : parseTelegramInboundCommand text botUsername ≠ .parsed command := by
  unfold parseTelegramInboundCommand
  simp only [commandPattern_words, h]
  exact fun h => nomatch h

/-- the answer to a name and a fitting mention -/
theorem answerFound_fitting {letters : List Char} (hletters : IsName letters) {mention : Option (List Char)}
    {botUsername : Option String} (hmention : MentionFits botUsername mention) {rest : List (List Char)}
    (hrest : ∀ w ∈ rest, IsWord w) {name : TelegramInboundCommandName} (hname : Spells letters name)
    (normalizedText : String) :
    answerFound ⟨letters, mention, if rest = [] then none else some (joinWords rest)⟩ botUsername normalizedText =
      parseNamedCommand name (argumentText rest) normalizedText := by
  have husername : ∀ username ∈ mention, IsName username := by
    rintro username ⟨⟩
    exact hmention.1
  have hfits := (mentionRefused_iff botUsername husername).2 hmention
  have hfound := (findCommandName_spelled hletters name).2 hname
  unfold answerFound
  simp only [hfits, hfound, argument_trimmed hrest, Bool.false_eq_true, if_false]

/-- what is answered with a command has a fitting mention and the name of a command -/
theorem answerFound_parsed {letters : List Char} (hletters : IsName letters) {mention : Option (List Char)}
    (husername : ∀ username ∈ mention, IsName username) {botUsername : Option String} {argument : Option (List Char)}
    {normalizedText : String} {command : ParsedTelegramInboundCommand}
    (h : answerFound ⟨letters, mention, argument⟩ botUsername normalizedText = .parsed command) :
    MentionFits botUsername mention ∧ ∃ name, Spells letters name := by
  unfold answerFound at h
  simp only at h
  split_ifs at h with hrefused
  rw [Bool.not_eq_true] at hrefused
  refine ⟨(mentionRefused_iff botUsername husername).1 hrefused, ?_⟩
  cases hfound : findCommandName (Host.toLowerCase (String.ofList letters)) with
  | none =>
    rw [hfound] at h
    cases h
  | some name => exact ⟨name, (findCommandName_spelled hletters name).1 hfound⟩

/-- a text is parsed exactly when its words are those of a command -/
theorem parsed_iff (text : String) (botUsername : Option String) (command : ParsedTelegramInboundCommand) :
    parseTelegramInboundCommand text botUsername = .parsed command ↔
      IsCommand botUsername (words text.toList) command := by
  have hwords := words_isWord text.toList
  constructor
  · intro h
    cases hws : words text.toList with
    | nil => exact absurd h (parse_of_no_head (by rw [hws]; rfl) botUsername command)
    | cons head rest =>
      cases hread : readHead head with
      | none => exact absurd h (parse_of_no_head (by rw [hws, readWords, hread]; rfl) botUsername command)
      | some found =>
        obtain ⟨letters, mention⟩ := found
        obtain ⟨hletters, husername, rfl⟩ := readHead_iff.1 hread
        rw [hws] at hwords
        have hrest : ∀ w ∈ rest, IsWord w := fun w hw => hwords w (List.mem_cons_of_mem _ hw)
        rw [parse_of_head hws hread] at h
        obtain ⟨hmention, name, hname⟩ := answerFound_parsed hletters husername h
        rw [answerFound_fitting hletters hmention hrest hname] at h
        obtain ⟨argument, hargument, rfl⟩ := (parseNamedCommand_iff name hrest _ command).1 h
        exact .intro hname hmention hargument
  · intro h
    cases hws : words text.toList with
    | nil =>
      rw [hws] at h
      cases h
    | cons head rest =>
      rw [hws] at h hwords
      cases h with
      | @intro letters mention _ name argument hname hmention hargument =>
        have hrest : ∀ w ∈ rest, IsWord w := fun w hw => hwords w (List.mem_cons_of_mem _ hw)
        have husername : ∀ username ∈ mention, IsName username := by
          rintro username ⟨⟩
          exact hmention.1
        rw [parse_of_head hws (readHead_iff.2 ⟨hname.isName, husername, rfl⟩),
          answerFound_fitting hname.isName hmention hrest hname]
        exact (parseNamedCommand_iff name hrest _ _).2 ⟨argument, hargument, rfl⟩

/-! ## The normal form -/

/-- the words an argument is printed as -/
def argumentWords : Option TelegramInboundCommandArgument → List (List Char)
  | none => []
  | some .cash => ["cash".toList]
  | some (.market market) => [market.toList]
  | some (.proposal proposalId) => [proposalId.toList]

omit [Host] in
theorem commandText_words (name : TelegramInboundCommandName) (argument : Option TelegramInboundCommandArgument) :
    (commandText name argument).toList = joinWords (('/' :: name.text.toList) :: argumentWords argument) := by
  rw [joinWords_head]
  cases argument with
  | none => simp [commandText, argumentWords, tailText]
  | some argument => cases argument <;> simp [commandText, argumentWords, tailText, joinWords_singleton]

omit [Host] in
theorem IsKrwMarket.isWord {market : String} (h : IsKrwMarket market) : IsWord market.toList := by
  obtain ⟨code, -, hcode, hlist⟩ := h
  rw [hlist]
  refine ⟨by simp, fun c hc => ?_⟩
  rcases List.mem_append.1 hc with hc | hc
  · have hall : "KRW-".toList.all (fun c => !isWhiteSpace c) = true := rfl
    simpa using List.all_eq_true.1 hall c hc
  · exact solid_of_class rfl (hcode c hc)

omit [Host] in
theorem IsProposalId.isWord {cs : List Char} (h : IsProposalId cs) : IsWord cs := by
  refine ⟨?_, fun c hc => solid_of_class rfl (h.characters c hc)⟩
  rintro rfl
  obtain ⟨c, hc, -⟩ := h.first
  cases hc

/-- a market code is in upper case already -/
theorem IsKrwMarket.upper {market : String} (h : IsKrwMarket market) : Host.toUpperCase market = market := by
  obtain ⟨code, -, hcode, hlist⟩ := h
  refine Host.upper_fixed fun c hc => ?_
  rw [hlist] at hc
  rcases List.mem_append.1 hc with hc | hc
  · have hall : "KRW-".toList.all (fun c => c.toNat < 128 && !c.isLower) = true := rfl
    simpa [IsAscii] using List.all_eq_true.1 hall c hc
  · have hcharacter := hcode c hc
    refine ⟨isAscii_alphanum ?_, ?_⟩
    · rcases Bool.or_eq_true_iff.1 hcharacter with hupper | hdigit
      · simp [Char.isAlphanum, Char.isAlpha, hupper]
      · simp [Char.isAlphanum, hdigit]
    · simp only [isMarketCharacter, Char.isUpper, Char.isDigit, Char.isLower, Bool.or_eq_true, Bool.and_eq_true,
        decide_eq_true_eq, UInt32.le_iff_toNat_le] at hcharacter ⊢
      have hbounds : ('Z'.val.toNat = 90 ∧ 'a'.val.toNat = 97) ∧ '9'.val.toNat = 57 := by decide
      rw [Bool.and_eq_false_iff, decide_eq_false_iff_not]
      left
      omega

/-- printed, an argument fits the rule it fitted, and gives itself -/
theorem ArgumentRule.printed {name : TelegramInboundCommandName} {rest : List (List Char)}
    {argument : Option TelegramInboundCommandArgument} (h : ArgumentRule name rest argument) :
    ArgumentRule name (argumentWords argument) argument ∧ ∀ w ∈ argumentWords argument, IsWord w := by
  cases h with
  | nothing hname => exact ⟨.nothing hname, by simp [argumentWords]⟩
  | cash =>
    refine ⟨.cash (by simp [argumentWords]) ?_, ?_⟩
    · have hascii : "cash".toList.all (fun c => c.toNat < 128) = true := rfl
      rw [argumentWords, joinWords_singleton,
        Host.upper_ofList fun c hc => by simpa [IsAscii] using List.all_eq_true.1 hascii c hc]
      rfl
    · have hsolid : "cash".toList.all (fun c => !isWhiteSpace c) = true := rfl
      simp only [argumentWords, List.forall_mem_singleton]
      exact ⟨by simp, fun c hc => by simpa using List.all_eq_true.1 hsolid c hc⟩
  | market hrest hmarket =>
    obtain ⟨market, hmarketText⟩ : ∃ market, Host.toUpperCase (String.ofList (joinWords rest)) = market := ⟨_, rfl⟩
    rw [hmarketText] at hmarket ⊢
    have htext : Host.toUpperCase (String.ofList (joinWords [market.toList])) = market := by
      rw [joinWords_singleton, String.ofList_toList, hmarket.upper]
    have hrule := ArgumentRule.market (List.cons_ne_nil market.toList []) (htext.symm ▸ hmarket)
    rw [htext] at hrule
    exact ⟨hrule, by simpa [argumentWords] using hmarket.isWord⟩
  | proposal hname hid =>
    refine ⟨?_, by simpa [argumentWords] using hid.isWord⟩
    rw [argumentWords, String.toList_ofList]
    exact .proposal hname hid

/-- the normal form of a command is that command, to any bot -/
theorem IsCommand.normal {botUsername : Option String} {ws : List (List Char)} {command : ParsedTelegramInboundCommand}
    (h : IsCommand botUsername ws command) (otherBot : Option String) :
    IsCommand otherBot (words command.normalizedText.toList) command := by
  cases h with
  | @intro letters mention rest name argument hname hmention hargument =>
    obtain ⟨hprinted, hwords⟩ := hargument.printed
    have hslash : IsWord ('/' :: name.text.toList) := by
      have hsolid : ('/' :: name.text.toList).all (fun c => !isWhiteSpace c) = true := by cases name <;> rfl
      exact ⟨by simp, fun c hc => by simpa using List.all_eq_true.1 hsolid c hc⟩
    have hnormal : words (commandOf name argument).normalizedText.toList =
        ('/' :: (name.text.toList ++ mentionText none)) :: argumentWords argument := by
      rw [commandOf, commandText_words, words_join (List.forall_mem_cons.2 ⟨hslash, hwords⟩), mentionText,
        List.append_nil]
    rw [hnormal]
    refine .intro ?_ trivial hprinted
    unfold Spells
    cases name <;> rfl

/-! ## What does not change an answer -/

/-- the answer without the text it repeats -/
def withoutEcho : TelegramInboundParseResult → TelegramInboundParseResult
  | .parsed command => .parsed command
  | .unknown reasonCode userMessage _ => .unknown reasonCode userMessage ""
  | .malformed reasonCode userMessage _ => .malformed reasonCode userMessage ""

omit [Host] in
theorem withoutEcho_parsed (result : TelegramInboundParseResult) (command : ParsedTelegramInboundCommand) :
    withoutEcho result = .parsed command ↔ result = .parsed command := by
  cases result with
  | parsed => exact Iff.rfl
  | unknown => exact iff_of_false (fun h => nomatch h) (fun h => nomatch h)
  | malformed => exact iff_of_false (fun h => nomatch h) (fun h => nomatch h)

omit [Host.AsciiCase ‹Host›] in
theorem parseNamedCommand_echo (name : TelegramInboundCommandName) (argument : Option String)
    (normalizedText otherText : String) : withoutEcho (parseNamedCommand name argument normalizedText) =
      withoutEcho (parseNamedCommand name argument otherText) := by
  unfold parseNamedCommand
  split_ifs
  · unfold parseWhyCommand
    simp only
    split_ifs <;> rfl
  · unfold parseApprovalCommand
    simp only
    split_ifs
    · rfl
    · split
      · split_ifs <;> rfl
      · rfl
  · unfold parsePlainCommand
    split_ifs <;> rfl

/-- the letters of a first word that is read as a name, and a mention of this bot or none -/
structure Opens (botUsername : Option String) (letters : List Char) (mention : Option (List Char)) : Prop where
  isName : IsName letters
  fits : MentionFits botUsername mention

omit [Host.AsciiCase ‹Host›] in
theorem Opens.readHead {botUsername : Option String} {letters : List Char} {mention : Option (List Char)}
    (h : Opens botUsername letters mention) :
    readHead ('/' :: (letters ++ mentionText mention)) = some (letters, mention) := by
  refine readHead_iff.2 ⟨h.isName, ?_, rfl⟩
  rintro username ⟨⟩
  exact h.fits.1

theorem answerFound_echo {letters otherLetters : List Char} {mention otherMention : Option (List Char)}
    {botUsername : Option String} (h : Opens botUsername letters mention)
    (hother : Opens botUsername otherLetters otherMention)
    (hletters : letters.map Char.toLower = otherLetters.map Char.toLower) (argument : Option (List Char))
    (normalizedText otherText : String) :
    withoutEcho (answerFound ⟨letters, mention, argument⟩ botUsername normalizedText) =
      withoutEcho (answerFound ⟨otherLetters, otherMention, argument⟩ botUsername otherText) := by
  have hfits : ∀ {mention : Option (List Char)}, MentionFits botUsername mention →
      isMentionRefused mention botUsername = false := by
    intro mention hmention
    refine (mentionRefused_iff botUsername ?_).2 hmention
    rintro username ⟨⟩
    exact hmention.1
  unfold answerFound
  simp only [hfits h.fits, hfits hother.fits, Host.lower_ofList h.isName.isAscii,
    Host.lower_ofList hother.isName.isAscii, hletters, Bool.false_eq_true, if_false]
  split
  · rfl
  · exact parseNamedCommand_echo _ _ _ _

/-- the letter case of the name and a mention of this bot change nothing but the repeated text -/
theorem respelled {text otherText : String} {letters otherLetters : List Char}
    {mention otherMention : Option (List Char)} {rest : List (List Char)} {botUsername : Option String}
    (h : Opens botUsername letters mention) (hother : Opens botUsername otherLetters otherMention)
    (hletters : letters.map Char.toLower = otherLetters.map Char.toLower)
    (hwords : words text.toList = ('/' :: (letters ++ mentionText mention)) :: rest)
    (hotherWords : words otherText.toList = ('/' :: (otherLetters ++ mentionText otherMention)) :: rest) :
    withoutEcho (parseTelegramInboundCommand text botUsername) =
      withoutEcho (parseTelegramInboundCommand otherText botUsername) := by
  rw [parse_of_head hwords h.readHead, parse_of_head hotherWords hother.readHead]
  exact answerFound_echo h hother hletters _ _ _

omit [Host.AsciiCase ‹Host›] in
/-- white space changes nothing -/
theorem same_words {text otherText : String} (h : words text.toList = words otherText.toList)
    (botUsername : Option String) : parseTelegramInboundCommand text botUsername =
      parseTelegramInboundCommand otherText botUsername := by
  unfold parseTelegramInboundCommand
  rw [normalizeCommandText_words, normalizeCommandText_words, h]

/-- **The grammar of commands.** A text is parsed exactly when its words are a command. White space changes no answer,
the letter case of the name and a mention of this bot change nothing but the text that a refusal repeats, and the
normal form of a command is parsed to that command. -/
theorem command_grammar (botUsername : Option String) :
    (∀ text command, parseTelegramInboundCommand text botUsername = .parsed command ↔
      IsCommand botUsername (words text.toList) command) ∧
    (∀ text otherText : String, words text.toList = words otherText.toList →
      parseTelegramInboundCommand text botUsername = parseTelegramInboundCommand otherText botUsername) ∧
    (∀ (text otherText : String) (letters otherLetters : List Char) (mention otherMention : Option (List Char))
      (rest : List (List Char)), Opens botUsername letters mention → Opens botUsername otherLetters otherMention →
      letters.map Char.toLower = otherLetters.map Char.toLower →
      words text.toList = ('/' :: (letters ++ mentionText mention)) :: rest →
      words otherText.toList = ('/' :: (otherLetters ++ mentionText otherMention)) :: rest →
      withoutEcho (parseTelegramInboundCommand text botUsername) =
          withoutEcho (parseTelegramInboundCommand otherText botUsername) ∧
        ∀ command, parseTelegramInboundCommand text botUsername = .parsed command ↔
          parseTelegramInboundCommand otherText botUsername = .parsed command) ∧
    ∀ text command, parseTelegramInboundCommand text botUsername = .parsed command →
      ∀ otherBot, parseTelegramInboundCommand command.normalizedText otherBot = .parsed command := by
  refine ⟨fun text command => parsed_iff text botUsername command, fun text otherText h => same_words h botUsername,
    ?_, ?_⟩
  · intro text otherText letters otherLetters mention otherMention rest h hother hletters hwords hotherWords
    have hecho := respelled h hother hletters hwords hotherWords
    refine ⟨hecho, fun command => ?_⟩
    rw [← withoutEcho_parsed, hecho, withoutEcho_parsed]
  · intro text command h otherBot
    exact (parsed_iff _ otherBot command).2 (((parsed_iff text botUsername command).1 h).normal otherBot)

end Grammar

/-- a command with stray white space, capitals and a mention, and its normal form -/
theorem spaced_why_command :
    @parseTelegramInboundCommand decimalHost " /WHY@SeemiraiOpsBot \n krw-btc " (some "@seemiraiopsbot") =
      .parsed ⟨why, .readOnly, "/why KRW-BTC", some (.market "KRW-BTC")⟩ ∧
    @parseTelegramInboundCommand decimalHost "/why KRW-BTC" none =
      .parsed ⟨why, .readOnly, "/why KRW-BTC", some (.market "KRW-BTC")⟩ := by
  have hparsed : @parseTelegramInboundCommand decimalHost " /WHY@SeemiraiOpsBot \n krw-btc " (some "@seemiraiopsbot") =
      .parsed ⟨why, .readOnly, "/why KRW-BTC", some (.market "KRW-BTC")⟩ := by decide +kernel
  exact ⟨hparsed, (@command_grammar decimalHost decimalHost_asciiCase (some "@seemiraiopsbot")).2.2.2 _ _ hparsed none⟩

/-- a refusal repeats the name in the letters it came in -/
theorem refusal_repeats_letters : ¬ ∀ (text otherText : String) (letters otherLetters : List Char)
    (rest : List (List Char)), letters.map Char.toLower = otherLetters.map Char.toLower →
    words text.toList = ('/' :: letters) :: rest → words otherText.toList = ('/' :: otherLetters) :: rest →
    @parseTelegramInboundCommand decimalHost text none = @parseTelegramInboundCommand decimalHost otherText none := by
  intro h
  have hsame := h "/STATUS x" "/status x" "STATUS".toList "status".toList ["x".toList] (by decide +kernel)
    (by decide +kernel) (by decide +kernel)
  revert hsame
  decide +kernel

end SeeMirai.Telegram
