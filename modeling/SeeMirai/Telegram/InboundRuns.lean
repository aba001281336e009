/-
One process of the chat's runtime, whatever its ports reply: how far it has come, what it may ask for next, and what its
results say.

Results:
- `handleMessage_keeps`: a message is noted first, a control command is done only where the store has confirmed it, and
  a result says that a command was executed only where it was asked for.
- `ticks_keeps`: updates are asked for behind a batch only once all of the batch is handled.
-/
import SeeMirai.Telegram.InboundRuntime

namespace SeeMirai.Telegram

open Async KillSwitch

/-! ## What a process asks for -/

/-- how far the message that is handled has come -/
inductive HandlerStep where
  | idle
  | noted (message : TelegramInboundCommandMessage) (command : ParsedTelegramInboundCommand)
  /-- it waits, and its prompt is on its way -/
  | prompting (message : TelegramInboundCommandMessage) (command : ParsedTelegramInboundCommand)
  | confirmed (message : TelegramInboundCommandMessage) (command : ParsedTelegramInboundCommand)
  | acted (message : TelegramInboundCommandMessage) (command : ParsedTelegramInboundCommand)
deriving DecidableEq

/-- no prompt is on its way -/
def HandlerStep.settled : HandlerStep → Bool
  | prompting _ _ => false
  | _ => true

structure InboundPlace where
  /-- what updates were asked for with last -/
  offset : Option ℤ
  /-- the batch that came, with its next offset -/
  batch : Option (List TelegramInboundCommandMessage × Option ℤ)
  /-- what of it is not handled -/
  rest : List TelegramInboundCommandMessage
  step : HandlerStep

/-- the same batch, at another step -/
def InboundPlace.at (place : InboundPlace) (step : HandlerStep) : InboundPlace := { place with step := step }

@[simp] theorem InboundPlace.at_at (place : InboundPlace) (step step' : HandlerStep) :
    (place.at step).at step' = place.at step' := rfl

@[simp] theorem InboundPlace.step_at (place : InboundPlace) (step : HandlerStep) : (place.at step).step = step := rfl

@[simp] theorem InboundPlace.rest_at (place : InboundPlace) (step : HandlerStep) : (place.at step).rest = place.rest :=
  rfl

section Programs

variable [Host] (options : InboundOptions)

/-- a message of someone authorised, read as the command -/
structure Commanded (message : TelegramInboundCommandMessage) (command : ParsedTelegramInboundCommand) : Prop where
  authorized : evaluateTelegramInboundAuthorization message options.allowlist = .authorized
  parsed : parseTelegramInboundCommand message.text options.botUsername = .parsed command

/-- what a result may say of its message -/
structure Reports (step : HandlerStep) (message : TelegramInboundCommandMessage)
    (result : TelegramInboundCommandHandleResult) : Prop where
  updateId : result.updateId = message.updateId
  messageId : result.messageId = message.messageId
  executed : result.executed = true → ∀ command,
    parseTelegramInboundCommand message.text options.botUsername = .parsed command → command.scope ≠ .readOnly →
      step = .acted message command

/-- the offset is the one before, or the next one of a batch that is handled -/
def InboundPlace.Moves (place : InboundPlace) (offset : Option ℤ) : Prop :=
  offset = place.offset ∨
    ∃ updates next, place.batch = some (updates, some next) ∧ place.rest = [] ∧ offset = some next

def inboundMonitor : Monitor InboundRequest InboundReply Thrown InboundPlace where
  Allowed place
    | .getUpdates offset => place.Moves offset ∧ place.step.settled = true
    | .record message command => place.step = .idle ∧ Commanded options message command
    | .sendReply message (.confirmationRequired _ _) => ∃ command, place.step = .prompting message command
    | .confirm message command => place.step = .noted message command ∧ command.scope = .control
    | .clear message command => place.step = .prompting message command
    | .apply message command control =>
      place.step = .confirmed message command ∧
        mapControlCommand command.name = some (control.targetState, control.reasonCode)
    | .handleCommand message command _ => place.step = .noted message command ∧ command.scope = .approval
    | .push message result =>
      place.rest.head? = some message ∧ place.step.settled = true ∧ Reports options place.step message result
    | _ => True
  after place
    | .getUpdates offset, .ok (.ok updates next) => ⟨offset, some (updates, next), updates, .idle⟩
    | .getUpdates offset, _ => ⟨offset, none, [], .idle⟩
    | .record message command, .ok ⟨_, false⟩ => place.at (.noted message command)
    | .confirm message command, .ok (.confirmed _ _) => place.at (.confirmed message command)
    | .confirm message command, .ok (.pending _) => place.at (.prompting message command)
    | .confirm _ _, _ => place.at .idle
    | .sendReply _ (.confirmationRequired _ _), .ok true => place.at .idle
    | .clear _ _, _ => place.at .idle
    | .apply message command _, _ => place.at (.acted message command)
    | .handleCommand message command _, _ => place.at (.acted message command)
    | .push _ _, _ => { place with rest := place.rest.tail, step := .idle }
    | _, _ => place

variable {options} {place : InboundPlace} {message : TelegramInboundCommandMessage}

/-- a program that leaves the process where it is, and does not throw -/
def Stays {α : Type} (place place' : InboundPlace) (end_ : Except Thrown α) : Prop :=
  place' = place ∧ ∃ a, end_ = .ok a

theorem stays_bind {α β : Type} {program : Inbound α} {f : α → Inbound β} {post : InboundPlace → Except Thrown β → Prop}
    (h : Keeps (inboundMonitor options) (Stays place) place program)
    (hf : ∀ a, Keeps (inboundMonitor options) post place (f a)) :
    Keeps (inboundMonitor options) post place (program >>= f) := by
  refine keeps_bind h (fun place' a hplace => ?_) (fun _ _ hthrown => ?_)
  · obtain ⟨rfl, -⟩ := hplace
    exact hf a
  · obtain ⟨-, a, ha⟩ := hthrown
    cases ha

/-- a caught throw leaves the process where the program left it -/
theorem caught_keeps {α : Type} {program : Inbound α} {fallback : α} {place' : InboundPlace}
    (h : Keeps (inboundMonitor options) (fun place'' _ => place'' = place') place program) :
    Keeps (inboundMonitor options) (fun place'' end_ => place'' = place' ∧ ∃ a, end_ = .ok a) place
      (tryCatch program fun _ => return fallback) :=
  keeps_tryCatch h (fun _ a h => ⟨h, a, rfl⟩) (fun _ _ h => keeps_pure ⟨h, fallback, rfl⟩)

theorem audit_keeps (handling : InboundHandling) (dedupeFailed : Bool) :
    Keeps (inboundMonitor options) (Stays place) place (appendInboundAuditEventSafely handling dedupeFailed) :=
  caught_keeps (keeps_call_bind trivial (fun _ => keeps_pure rfl) (fun _ => rfl))

/-- a reply that is no prompt -/
theorem reply_keeps {text : InboundReplyText}
    (h : ∀ command expiresAt, text ≠ .confirmationRequired command expiresAt) :
    Keeps (inboundMonitor options) (Stays place) place (sendReplySafely message text) := by
  cases text with
  | confirmationRequired command expiresAt => exact absurd rfl (h command expiresAt)
  | _ => exact caught_keeps (keeps_call trivial fun _ => rfl)

/-- a handler ends with nothing on its way, and its result reports -/
def Ends (options : InboundOptions) (place : InboundPlace) (message : TelegramInboundCommandMessage)
    (place' : InboundPlace) (end_ : Except Thrown TelegramInboundCommandHandleResult) : Prop :=
  ∃ step : HandlerStep, place' = place.at step ∧ step.settled = true ∧
    ∀ result, end_ = .ok result → Reports options step message result

theorem Ends.at {step : HandlerStep} {place' : InboundPlace}
    {end_ : Except Thrown TelegramInboundCommandHandleResult} (h : Ends options (place.at step) message place' end_) :
    Ends options place message place' end_ := h

/-- nothing was executed -/
theorem ends_at {step : HandlerStep} {result : TelegramInboundCommandHandleResult} (hsettled : step.settled = true)
    (hupdate : result.updateId = message.updateId) (hmessage : result.messageId = message.messageId)
    (hquiet : result.executed = false) : Ends options place message (place.at step) (.ok result) := by
  refine ⟨step, rfl, hsettled, fun result' hresult => ?_⟩
  cases hresult
  refine ⟨hupdate, hmessage, fun hexecuted => ?_⟩
  rw [hquiet] at hexecuted
  cases hexecuted

theorem ends_quiet {result : TelegramInboundCommandHandleResult} (hsettled : place.step.settled = true)
    (hupdate : result.updateId = message.updateId) (hmessage : result.messageId = message.messageId)
    (hquiet : result.executed = false) : Ends options place message place (.ok result) :=
  ends_at hsettled hupdate hmessage hquiet

theorem reported_keeps {text : InboundReplyText}
    (h : ∀ command expiresAt, text ≠ .confirmationRequired command expiresAt)
    {f : Bool → TelegramInboundCommandHandleResult}
    (hf : ∀ delivered, Ends options place message place (.ok (f delivered))) :
    Keeps (inboundMonitor options) (Ends options place message) place (do
      let delivered ← sendReplySafely message text
      return f delivered) :=
  stays_bind (reply_keeps h) fun delivered => keeps_pure (hf delivered)

theorem readOnly_keeps (command : ParsedTelegramInboundCommand) :
    Keeps (inboundMonitor options) (Stays place) place (executeReadOnlyCommandSafely command) := by
  unfold executeReadOnlyCommandSafely
  by_cases hbrief : command.name = .brief
  · rw [if_pos hbrief]
    exact caught_keeps (keeps_call_bind trivial (fun _ => keeps_pure rfl) (fun _ => rfl))
  · rw [if_neg hbrief]
    exact caught_keeps (keeps_call_bind trivial (fun _ => keeps_pure rfl) (fun _ => rfl))

theorem handleReadOnlyCommand_keeps {handling : InboundHandling} {command : ParsedTelegramInboundCommand}
    (hmessage : handling.message = message)
    (hparsed : parseTelegramInboundCommand message.text options.botUsername = .parsed command)
    (hscope : command.scope = .readOnly) (hsettled : place.step.settled = true) :
    Keeps (inboundMonitor options) (Ends options place message) place (handleReadOnlyCommand handling command) := by
  subst hmessage
  refine stays_bind (readOnly_keeps command) fun ok => ?_
  have htext : ∀ name expiresAt, resultText command ok ≠ .confirmationRequired name expiresAt := by
    intro name expiresAt h
    cases ok <;> cases h
  refine reported_keeps htext fun delivered => ⟨place.step, rfl, hsettled, fun result hresult => ?_⟩
  cases hresult
  refine ⟨rfl, rfl, fun _ other hother hcommand => absurd ?_ hcommand⟩
  rw [hparsed] at hother
  cases hother
  exact hscope

/-- where an action leaves the process: it was asked for, or nothing came of it -/
def Acts (place : InboundPlace) (message : TelegramInboundCommandMessage) (command : ParsedTelegramInboundCommand)
    {α : Type} (done : α → Bool) (place' : InboundPlace) (end_ : Except Thrown α) : Prop :=
  ∃ step : HandlerStep, ∃ a, place' = place.at step ∧ step.settled = true ∧ end_ = .ok a ∧
    (done a = true → step = .acted message command)

theorem executeControlCommandSafely_keeps {command : ParsedTelegramInboundCommand}
    (hstep : place.step = .confirmed message command) :
    Keeps (inboundMonitor options) (Acts place message command id) place
      (executeControlCommandSafely options message command) := by
  unfold executeControlCommandSafely
  cases hmapped : mapControlCommand command.name with
  | none =>
    refine keeps_pure ⟨place.step, false, rfl, by rw [hstep]; rfl, rfl, fun h => ?_⟩
    cases h
  | some target =>
    have hask : Keeps (inboundMonitor options) (fun place' _ => place' = place.at (.acted message command)) place (do
        let _ : Unit ← askPort (.apply message command (controlRequest options message command target))
        return true) :=
      keeps_call_bind ⟨hstep, hmapped⟩ (fun _ => keeps_pure rfl) (fun _ => rfl)
    refine Keeps.mono (caught_keeps hask) fun place' end_ h => ?_
    obtain ⟨rfl, ok, rfl⟩ := h
    exact ⟨_, ok, rfl, rfl, rfl, fun _ => rfl⟩

theorem executeLiveOrderApprovalCommandSafely_keeps {command : ParsedTelegramInboundCommand}
    (hstep : place.step = .noted message command) (hscope : command.scope = .approval) (dedupeKey : Option String) :
    Keeps (inboundMonitor options) (Acts place message command Option.isSome) place
      (executeLiveOrderApprovalCommandSafely options message command dedupeKey) := by
  unfold executeLiveOrderApprovalCommandSafely
  by_cases hruntime : options.hasApprovalRuntime = false
  · rw [if_pos hruntime]
    refine keeps_pure ⟨place.step, none, rfl, by rw [hstep]; rfl, rfl, fun h => ?_⟩
    cases h
  · rw [if_neg hruntime]
    have hask : Keeps (inboundMonitor options) (fun place' _ => place' = place.at (.acted message command)) place (do
        let outcome : ApprovalOutcome ← askPort (.handleCommand message command dedupeKey)
        return some outcome) :=
      keeps_call_bind ⟨hstep, hscope⟩ (fun _ => keeps_pure rfl) (fun _ => rfl)
    refine Keeps.mono (caught_keeps hask) fun place' end_ h => ?_
    obtain ⟨rfl, outcome, rfl⟩ := h
    exact ⟨_, outcome, rfl, rfl, rfl, fun _ => rfl⟩

/-- an action, its reply, and a result that says `executed` only where something was done -/
theorem acted_keeps {α : Type} {program : Inbound α} {done : α → Bool} {command : ParsedTelegramInboundCommand}
    (h : Keeps (inboundMonitor options) (Acts place message command done) place program) {text : α → InboundReplyText}
    (htext : ∀ a name expiresAt, text a ≠ .confirmationRequired name expiresAt)
    (hparsed : parseTelegramInboundCommand message.text options.botUsername = .parsed command)
    {f : α → Bool → TelegramInboundCommandHandleResult}
    (hf : ∀ a delivered, (f a delivered).updateId = message.updateId ∧ (f a delivered).messageId = message.messageId ∧
      ((f a delivered).executed = true → done a = true)) :
    Keeps (inboundMonitor options) (Ends options place message) place (do
      let a ← program
      let delivered ← sendReplySafely message (text a)
      return f a delivered) := by
  refine keeps_bind h (fun place' a hplace => ?_) (fun place' e hplace => ?_)
  · obtain ⟨step, a', rfl, hsettled, ha, hdone⟩ := hplace
    cases ha
    refine Keeps.mono (reported_keeps (htext a) fun delivered => ?_) fun _ _ hends => hends
    obtain ⟨hupdate, hmessage, hexecuted⟩ := hf a delivered
    refine ⟨step, rfl, hsettled, fun result hresult => ?_⟩
    cases hresult
    refine ⟨hupdate, hmessage, fun hdid other hother _ => ?_⟩
    rw [hparsed] at hother
    cases hother
    exact hdone (hexecuted hdid)
  · obtain ⟨_, _, _, _, hthrown, _⟩ := hplace
    cases hthrown

omit [Host] in
theorem resultText_ne (command : ParsedTelegramInboundCommand) (ok : Bool) (name : TelegramInboundCommandName)
    (expiresAt : String) : resultText command ok ≠ .confirmationRequired name expiresAt := by
  intro h
  cases ok with
  | true => cases h
  | false => cases h

theorem handleApprovalCommand_keeps {handling : InboundHandling} {command : ParsedTelegramInboundCommand}
    (hmessage : handling.message = message)
    (hparsed : parseTelegramInboundCommand message.text options.botUsername = .parsed command)
    (hscope : command.scope = .approval) (hstep : place.step = .noted message command) :
    Keeps (inboundMonitor options) (Ends options place message) place
      (handleApprovalCommand options handling command) := by
  subst hmessage
  refine acted_keeps (executeLiveOrderApprovalCommandSafely_keeps hstep hscope _)
    (fun outcome => resultText_ne command outcome.isSome) hparsed fun outcome delivered =>
      ⟨rfl, rfl, fun hexecuted => ?_⟩
  cases outcome with
  | none => cases hexecuted
  | some outcome => rfl

/-- where a command stands once the store has answered -/
def AfterConfirming (place : InboundPlace) (message : TelegramInboundCommandMessage)
    (command : ParsedTelegramInboundCommand) (place' : InboundPlace) :
    Except Thrown TelegramInboundControlConfirmationResult → Prop
  | .ok (.confirmed _ _) => place' = place.at (.confirmed message command)
  | .ok (.pending _) => place' = place.at (.prompting message command)
  | _ => place' = place.at .idle

theorem confirm_keeps {command : ParsedTelegramInboundCommand} (hstep : place.step = .noted message command)
    (hscope : command.scope = .control) :
    Keeps (inboundMonitor options) (AfterConfirming place message command) place
      (askPort (.confirm message command)) := by
  refine keeps_call ⟨hstep, hscope⟩ fun reply => ?_
  rcases reply with e | (⟨confirmedAt, first⟩ | ⟨receivedAt, expiredAt⟩ | expiresAt) <;> rfl

/-- a prompt arrives, or its command is still to be cleared -/
theorem prompt_keeps {command : ParsedTelegramInboundCommand} (hstep : place.step = .prompting message command)
    (expiresAt : String) :
    Keeps (inboundMonitor options) (fun place' end_ => (end_ = .ok true ∧ place' = place.at .idle) ∨
        (end_ = .ok false ∧ place' = place)) place
      (sendReplySafely message (.confirmationRequired command.name expiresAt)) := by
  have hask : Keeps (inboundMonitor options) (fun place' (end_ : Except Thrown Bool) =>
      (end_ = .ok true ∧ place' = place.at .idle) ∨ (end_ ≠ .ok true ∧ place' = place)) place
      (askPort (.sendReply message (.confirmationRequired command.name expiresAt))) := by
    refine keeps_call ⟨command, hstep⟩ fun reply => ?_
    rcases reply with e | (_ | _)
    · exact Or.inr ⟨fun h => (by cases h), rfl⟩
    · exact Or.inr ⟨fun h => (by cases h), rfl⟩
    · exact Or.inl ⟨rfl, rfl⟩
  refine keeps_tryCatch hask (fun place' delivered h => ?_) (fun place' e h => ?_)
  · rcases h with ⟨hdelivered, hplace⟩ | ⟨hdelivered, hplace⟩
    · exact Or.inl ⟨hdelivered, hplace⟩
    · cases delivered with
      | true => exact absurd rfl hdelivered
      | false => exact Or.inr ⟨rfl, hplace⟩
  · rcases h with ⟨hdelivered, -⟩ | ⟨-, hplace⟩
    · cases hdelivered
    · exact keeps_pure (Or.inr ⟨rfl, hplace⟩)

theorem handleControlCommand_keeps {handling : InboundHandling} {command : ParsedTelegramInboundCommand}
    (hmessage : handling.message = message)
    (hparsed : parseTelegramInboundCommand message.text options.botUsername = .parsed command)
    (hscope : command.scope = .control) (hstep : place.step = .noted message command) :
    Keeps (inboundMonitor options) (Ends options place message) place
      (handleControlCommand options handling command) := by
  subst hmessage
  refine keeps_bind (confirm_keeps hstep hscope) (fun place' confirmation hplace => ?_) (fun place' e hplace => ?_)
  · cases confirmation with
    | confirmed confirmedAt first =>
      obtain rfl : place' = place.at (.confirmed handling.message command) := hplace
      refine Keeps.mono (acted_keeps (executeControlCommandSafely_keeps rfl) (resultText_ne command) hparsed
        fun ok delivered => ⟨rfl, rfl, fun hexecuted => hexecuted⟩) fun _ _ hends => Ends.at hends
    | expired receivedAt expiredAt =>
      obtain rfl : place' = place.at .idle := hplace
      exact reported_keeps (fun _ _ h => (by cases h)) fun delivered => ends_at rfl rfl rfl rfl
    | pending expiresAt =>
      obtain rfl : place' = place.at (.prompting handling.message command) := hplace
      refine keeps_bind (prompt_keeps rfl expiresAt) (fun place'' delivered hprompt => ?_) (fun _ _ hprompt => ?_)
      · rcases hprompt with ⟨hdelivered, rfl⟩ | ⟨hdelivered, rfl⟩
        · cases hdelivered
          exact keeps_pure (ends_at rfl rfl rfl rfl)
        · cases hdelivered
          refine keeps_call_bind rfl (fun _ => keeps_pure (ends_at rfl rfl rfl rfl)) (fun e => ?_)
          exact ⟨.idle, rfl, rfl, fun result hresult => (by cases hresult)⟩
      · rcases hprompt with ⟨hthrown, -⟩ | ⟨hthrown, -⟩ <;> cases hthrown
  · obtain rfl : place' = place.at .idle := hplace
    exact ⟨.idle, rfl, rfl, fun result hresult => (by cases hresult)⟩

/-- what is known of a message that is past its note -/
structure Prepared (options : InboundOptions) (place : InboundPlace) (message : TelegramInboundCommandMessage)
    (handling : InboundHandling) : Prop where
  same : handling.message = message
  parseResult : handling.parseResult = parseTelegramInboundCommand message.text options.botUsername
  settled : place.step.settled = true
  /-- a command that is not a duplicate is noted -/
  noted : ∀ command, handling.parseResult = .parsed command → handling.authorization = .authorized →
    (handling.dedupe.any fun dedupe => dedupe.duplicate) ≠ true → place.step = .noted message command

theorem handleAudited_keeps {handling : InboundHandling} (h : Prepared options place message handling) :
    Keeps (inboundMonitor options) (Ends options place message) place (handleAudited options handling) := by
  obtain ⟨rfl, hparse, hsettled, hnoted⟩ := h
  unfold handleAudited
  cases hauthorized : handling.authorization with
  | refused reasonCode userMessage => exact keeps_pure (ends_quiet hsettled rfl rfl rfl)
  | authorized =>
    cases hresult : handling.parseResult with
    | unknown reasonCode userMessage normalizedText =>
      exact reported_keeps (fun _ _ h => (by cases h)) fun delivered => ends_quiet hsettled rfl rfl rfl
    | malformed reasonCode userMessage normalizedText =>
      exact reported_keeps (fun _ _ h => (by cases h)) fun delivered => ends_quiet hsettled rfl rfl rfl
    | parsed command =>
      have hparsed := hparse.symm.trans hresult
      by_cases hduplicate : (handling.dedupe.any fun dedupe => dedupe.duplicate) = true
      · simp only [hduplicate, if_true]
        exact keeps_pure (ends_quiet hsettled rfl rfl rfl)
      · have hstep := hnoted command hresult hauthorized hduplicate
        simp only [hduplicate]
        cases hscope : command.scope with
        | control => exact handleControlCommand_keeps rfl hparsed hscope hstep
        | approval => exact handleApprovalCommand_keeps rfl hparsed hscope hstep
        | readOnly => exact handleReadOnlyCommand_keeps rfl hparsed hscope hsettled

theorem handleAuditFailed_keeps {handling : InboundHandling} (hmessage : handling.message = message)
    (hsettled : place.step.settled = true) :
    Keeps (inboundMonitor options) (Ends options place message) place (handleAuditFailed handling) := by
  subst hmessage
  unfold handleAuditFailed
  by_cases hauthorized : handling.authorization = .authorized
  · rw [if_pos hauthorized]
    exact reported_keeps (fun _ _ h => (by cases h)) fun delivered => ends_quiet hsettled rfl rfl rfl
  · rw [if_neg hauthorized]
    exact keeps_pure (ends_quiet hsettled rfl rfl rfl)

theorem handleDedupeFailed_keeps {handling : InboundHandling} (hmessage : handling.message = message)
    (hsettled : place.step.settled = true) :
    Keeps (inboundMonitor options) (Ends options place message) place (handleDedupeFailed handling) := by
  subst hmessage
  refine stays_bind (audit_keeps handling true) fun audited => ?_
  cases audited with
  | true => exact reported_keeps (fun _ _ h => (by cases h)) fun delivered => ends_quiet hsettled rfl rfl rfl
  | false => exact reported_keeps (fun _ _ h => (by cases h)) fun delivered => ends_quiet hsettled rfl rfl rfl

theorem handleNoted_keeps {handling : InboundHandling} (h : Prepared options place message handling) :
    Keeps (inboundMonitor options) (Ends options place message) place (handleNoted options handling) := by
  refine stays_bind (audit_keeps handling false) fun audited => ?_
  cases audited with
  | true => exact handleAudited_keeps h
  | false => exact handleAuditFailed_keeps h.same h.settled

/-- where a command stands once it is noted, or could not be -/
def AfterNoting (place : InboundPlace) (message : TelegramInboundCommandMessage)
    (command : ParsedTelegramInboundCommand) (place' : InboundPlace) :
    Except Thrown (Option TelegramInboundCommandDedupeResult) → Prop
  | .ok (some ⟨_, false⟩) => place' = place.at (.noted message command)
  | .ok _ => place' = place
  | .error _ => False

theorem record_keeps {command : ParsedTelegramInboundCommand} (hidle : place.step = .idle)
    (hcommanded : Commanded options message command) :
    Keeps (inboundMonitor options) (AfterNoting place message command) place
      (recordDedupeSafely message command) := by
  have hask : Keeps (inboundMonitor options) (fun place' end_ => (∃ e, end_ = .error e ∧ place' = place) ∨
      AfterNoting place message command place' end_) place (do
        let dedupe : TelegramInboundCommandDedupeResult ← askPort (.record message command)
        return some dedupe) := by
    refine keeps_call_bind ⟨hidle, hcommanded⟩ (fun dedupe => keeps_pure (Or.inr ?_)) (fun e => Or.inl ⟨e, rfl, rfl⟩)
    obtain ⟨key, _ | _⟩ := dedupe <;> rfl
  refine keeps_tryCatch hask (fun place' dedupe h => ?_) (fun place' e h => ?_)
  · rcases h with ⟨_, hthrown, -⟩ | h
    · cases hthrown
    · exact h
  · rcases h with ⟨_, -, hsame⟩ | h
    · exact keeps_pure hsame
    · exact h.elim

/-- **A message**, from its note to its result. -/
theorem handleMessage_keeps (message : TelegramInboundCommandMessage) (hidle : place.step = .idle) :
    Keeps (inboundMonitor options) (Ends options place message) place (handleMessage options message) := by
  have hsettled : place.step.settled = true := by rw [hidle]; rfl
  unfold handleMessage
  cases hparsed : parseTelegramInboundCommand message.text options.botUsername with
  | unknown reasonCode userMessage normalizedText =>
    exact handleNoted_keeps ⟨rfl, hparsed.symm, hsettled, fun command h => nomatch h⟩
  | malformed reasonCode userMessage normalizedText =>
    exact handleNoted_keeps ⟨rfl, hparsed.symm, hsettled, fun command h => nomatch h⟩
  | parsed command =>
    cases hauthorized : evaluateTelegramInboundAuthorization message options.allowlist with
    | refused reasonCode userMessage =>
      exact handleNoted_keeps ⟨rfl, hparsed.symm, hsettled, fun command _ h => nomatch h⟩
    | authorized =>
      refine keeps_bind (record_keeps hidle ⟨hauthorized, hparsed⟩) (fun place' dedupe hplace => ?_)
        (fun _ _ hthrown => hthrown.elim)
      rcases dedupe with _ | ⟨key, _ | _⟩
      · obtain rfl : place' = place := hplace
        exact handleDedupeFailed_keeps rfl hsettled
      · obtain rfl : place' = place.at (.noted message command) := hplace
        refine Keeps.mono (handleNoted_keeps
          ⟨rfl, hparsed.symm, rfl, fun other hother _ _ => ?_⟩) fun _ _ hends => hends
        cases hother
        rfl
      · obtain rfl : place' = place := hplace
        exact handleNoted_keeps ⟨rfl, hparsed.symm, hsettled, fun other _ _ h => absurd rfl h⟩

/-! ## The loop -/

/-- a program that leaves the batch as it is but for what is handled of it -/
def SameBatch {α : Type} (place place' : InboundPlace) (_ : Except Thrown α) : Prop :=
  place'.offset = place.offset ∧ place'.batch = place.batch ∧ place'.step.settled = true

theorem handleUpdates_keeps (updates : List TelegramInboundCommandMessage) (hrest : place.rest = updates)
    (hidle : place.step = .idle) :
    Keeps (inboundMonitor options) (fun place' end_ => SameBatch place place' end_ ∧ (end_ = .ok () → place'.rest = []))
      place (handleUpdates options updates) := by
  induction updates generalizing place with
  | nil => exact keeps_pure ⟨⟨rfl, rfl, by rw [hidle]; rfl⟩, fun _ => hrest⟩
  | cons message rest ih =>
    refine keeps_bind (handleMessage_keeps message hidle) (fun place' result hplace => ?_) (fun place' e hplace => ?_)
    · obtain ⟨step, rfl, hsettled, hreports⟩ := hplace
      refine keeps_call_bind ⟨?_, hsettled, hreports result rfl⟩ (fun _ => ?_) (fun e => ?_)
      · rw [InboundPlace.rest_at, hrest]
        rfl
      · have htail : place.rest.tail = rest := by
          rw [hrest]
          rfl
        have hnext := @ih { place.at step with rest := place.rest.tail, step := .idle } htail rfl
        exact hnext
      · exact ⟨⟨rfl, rfl, rfl⟩, fun h => nomatch h⟩
    · obtain ⟨step, rfl, hsettled, -⟩ := hplace
      exact ⟨⟨rfl, rfl, hsettled⟩, fun h => nomatch h⟩

/-- between batches: nothing on its way, and this is the offset to ask with -/
def Between (offset : Option ℤ) (place : InboundPlace) : Prop := place.Moves offset ∧ place.step.settled = true

/-- after a batch, and after one that threw -/
def AfterBatch (offset : Option ℤ) (place' : InboundPlace) : Except Thrown (Option ℤ) → Prop
  | .ok next => Between next place'
  | .error _ => Between offset place'

theorem runOnce_keeps {offset : Option ℤ} (h : Between offset place) :
    Keeps (inboundMonitor options) (AfterBatch offset) place (runOnce options offset) := by
  refine keeps_call_bind h (fun polling => ?_) (fun e => ⟨Or.inl rfl, rfl⟩)
  cases polling with
  | failed reasonCode => exact keeps_pure ⟨Or.inl rfl, rfl⟩
  | ok updates nextOffset =>
    refine keeps_bind (handleUpdates_keeps updates rfl rfl) (fun place' _ hplace => keeps_pure ?_)
      (fun place' e hplace => ?_)
    · obtain ⟨⟨hoffset, hbatch, hsettled⟩, hrest⟩ := hplace
      refine ⟨?_, hsettled⟩
      cases nextOffset with
      | none => exact Or.inl hoffset.symm
      | some next => exact Or.inr ⟨updates, next, hbatch, hrest rfl, rfl⟩
    · obtain ⟨⟨hoffset, hbatch, hsettled⟩, -⟩ := hplace
      exact ⟨Or.inl hoffset.symm, hsettled⟩

/-- **The loop** asks behind a batch only once the batch is handled. -/
theorem ticks_keeps (count : ℕ) {offset : Option ℤ} (h : Between offset place) :
    Keeps (inboundMonitor options) (fun _ _ => True) place (ticks options count offset) := by
  induction count generalizing place offset with
  | zero => exact keeps_pure trivial
  | succ count ih =>
    have htick : Keeps (inboundMonitor options) (fun place' end_ => ∃ next, end_ = .ok next ∧ Between next place') place
        (tryCatch (runOnce options offset) fun _ => return offset) :=
      keeps_tryCatch (runOnce_keeps h) (fun _ next hnext => ⟨next, rfl, hnext⟩)
        (fun _ _ hsame => keeps_pure ⟨offset, rfl, hsame⟩)
    refine keeps_bind htick (fun place' next hnext => ?_) (fun _ _ hthrown => ?_)
    · obtain ⟨next', hsame, hbetween⟩ := hnext
      cases hsame
      exact ih hbetween
    · obtain ⟨_, hsame, -⟩ := hthrown
      cases hsame

end Programs

end SeeMirai.Telegram
