/-
The runtime behind the operator's Telegram chat (runtime/telegram-inbound-runtime/service.ts and dedupe.ts, security.ts,
audit.ts of application/telegram-inbound): updates are polled in batches, and each message is parsed, authorised, noted
against redelivery and audited before anything is done for it. A control command is done only when it is sent a second
time, within the time for that; the first one waits in the memory of the process.

One process polls at a time. It may die at any await, and the next one starts with an empty memory; the notes against
redelivery are rows of the jobs table and stay. Ports may throw, and a note may be written and its answer get lost.
Texts of replies are left out but for what they say, of audit events the metadata, of results the receipts.

- `confirm`: the store of commands that wait for their second message.
- `handleMessage`, `runOnce`, `ticks`: one message, one batch, the loop.
- `inboundEnvironment`: how processes begin and how their requests are served.
-/
import SeeMirai.Telegram.CommandParser
import SeeMirai.KillSwitch.Control
import SeeMirai.Lib.Async
import SeeMirai.Lib.DateTime
import SeeMirai.Lib.Digest
import SeeMirai.Lib.InsertionMap

namespace SeeMirai.Telegram

open Async KillSwitch

/-! ## Model: messages -/

structure TelegramInboundCommandMessage where
  updateId : ℤ
  messageId : ℤ
  chatId : String
  text : String
  receivedAt : String
  userId : Option String
deriving DecidableEq

structure TelegramInboundAllowlist where
  ownerChatIds : List String
  ownerUserIds : Option (List String)

inductive TelegramInboundAuthorizationResult where
  | authorized
  | refused (reasonCode userMessage : String)
deriving DecidableEq

def TelegramInboundAuthorizationResult.reasonCode : TelegramInboundAuthorizationResult → String
  | authorized => "telegram_inbound_authorized"
  | refused reasonCode _ => reasonCode

def normalizeAllowlist (values : List String) : List String := (values.map trim).filter (· ≠ "")

def evaluateTelegramInboundAuthorization (message : TelegramInboundCommandMessage)
    (allowlist : TelegramInboundAllowlist) : TelegramInboundAuthorizationResult :=
  let ownerChatIds := normalizeAllowlist allowlist.ownerChatIds
  let ownerUserIds := normalizeAllowlist (allowlist.ownerUserIds.getD [])
  if ownerChatIds = [] then
    .refused "telegram_inbound_owner_chat_allowlist_empty"
      "Telegram 명령을 실행할 운영자 채팅이 설정되지 않아 요청을 거부했습니다."
  else if trim message.chatId ∉ ownerChatIds then
    .refused "telegram_inbound_chat_not_allowed" "허용된 운영자 채팅이 아니어서 Telegram 명령을 실행하지 않았습니다."
  else if ownerUserIds ≠ [] ∧ (message.userId.all fun userId => trim userId ∉ ownerUserIds) = true then
    .refused "telegram_inbound_user_not_allowed" "허용된 운영자 계정이 아니어서 Telegram 명령을 실행하지 않았습니다."
  else .authorized

structure TelegramInboundCommandDedupeResult where
  idempotencyKey : String
  duplicate : Bool
deriving DecidableEq

section Keys

variable [Digest]

/-- 16 digits of the digest -/
def shortHash (value : String) : String := String.ofList ((Digest.sha256 value).toList.take 16)

def createTelegramInboundCommandIdempotencyKey (message : TelegramInboundCommandMessage)
    (command : ParsedTelegramInboundCommand) : String :=
  ":".intercalate ["telegram.inbound.v1", "update:" ++ toString message.updateId,
    "message:" ++ toString message.messageId, "chat:" ++ shortHash message.chatId, "command:" ++ command.name.text,
    "text:" ++ shortHash command.normalizedText]

def createConfirmationKey (message : TelegramInboundCommandMessage) (command : ParsedTelegramInboundCommand) : String :=
  Digest.senderKey message.chatId message.userId command.name.text

end Keys

def createTelegramInboundCorrelationId (message : TelegramInboundCommandMessage) : String :=
  "telegram-inbound-" ++ toString message.updateId ++ "-" ++ toString message.messageId

/-! ## Model: the store of waiting commands -/

structure PendingConfirmation where
  expiresAtMs : ℤ
  messageId : ℤ
  commandText : String
deriving DecidableEq

abbrev PendingConfirmations := InsertionMap String PendingConfirmation

inductive TelegramInboundControlConfirmationResult where
  | confirmed (confirmedAt : String) (firstMessageId : ℤ)
  | expired (receivedAt expiredAt : String)
  | pending (expiresAt : String)
deriving DecidableEq

def removeExpiredConfirmations (pending : PendingConfirmations) (nowMs : ℤ) : PendingConfirmations where
  entries := pending.entries.filter fun entry => nowMs ≤ entry.2.expiresAtMs
  nodup := pending.nodup.sublist (List.filter_sublist.map Prod.fst)

/-- the entry that an equal command of another message may confirm -/
def isConfirmedBy (ttlMs messageMs nowMs : ℤ) (message : TelegramInboundCommandMessage)
    (command : ParsedTelegramInboundCommand) (existing : PendingConfirmation) : Bool :=
  messageMs ≤ existing.expiresAtMs ∧ nowMs ≤ messageMs + ttlMs ∧ existing.commandText = command.normalizedText ∧
    existing.messageId ≠ message.messageId

section Confirmation

variable [DateText] [Digest]

/-- a time that cannot be read is now -/
def readConfirmationMessageTimeMs (receivedAt : String) (now : TimeValue) : ℤ :=
  ((DateText.parse receivedAt).getD now).ms

/-- what the store answers, and what it keeps; it may throw over a time after it has stored the command -/
def confirm (ttlMs : ℤ) (now : TimeValue) (pending : PendingConfirmations) (message : TelegramInboundCommandMessage)
    (command : ParsedTelegramInboundCommand) :
    Except Thrown TelegramInboundControlConfirmationResult × PendingConfirmations :=
  let messageMs := readConfirmationMessageTimeMs message.receivedAt now
  let unexpired := removeExpiredConfirmations pending now.ms
  let key := createConfirmationKey message command
  match (unexpired.get key).filter (isConfirmedBy ttlMs messageMs now.ms message command) with
  | some existing => ((isoText messageMs).map fun text => .confirmed text existing.messageId, unexpired.delete key)
  | none =>
    if messageMs + ttlMs < now.ms then
      ((isoText messageMs).bind fun received => (isoText (messageMs + ttlMs)).map fun expired =>
        .expired received expired, unexpired.delete key)
    else
      ((isoText (messageMs + ttlMs)).map .pending,
        unexpired.set key ⟨messageMs + ttlMs, message.messageId, command.normalizedText⟩)

end Confirmation

/-! ## Model: requests -/

inductive TelegramInboundAuditOutcome where
  | authorized
  | unauthorized
  | duplicate
  | dedupeFailed
  | unknown
  | malformed
deriving DecidableEq

structure TelegramInboundAuditEvent where
  outcome : TelegramInboundAuditOutcome
  occurredAt : String
  reasonCode : String
  correlationId : String
  updateId : ℤ
  messageId : ℤ
deriving DecidableEq

/-- what a reply says -/
inductive InboundReplyText where
  | auditFailure
  | dedupeFailure
  | parseRefused (userMessage : String)
  | confirmationRequired (command : TelegramInboundCommandName) (expiresAt : String)
  | confirmationExpired (command : TelegramInboundCommandName) (receivedAt expiredAt : String)
  | commandResult (command : TelegramInboundCommandName)
  | executionFailure (command : TelegramInboundCommandName)
deriving DecidableEq

/-- what is asked of the kill switch -/
structure InboundControlRequest where
  targetState : KillSwitchControlTargetState
  reasonCode : String
  correlationId : String
  actor : String
  message : String
deriving DecidableEq

inductive TelegramInboundCommandHandleStatus where
  | unauthorized
  | unknown
  | malformed
  | duplicate
  | dedupeFailed
  | confirmationRequired
  | confirmationExpired
  | executed
  | executionFailed
  | auditFailed
  | replyFailed
deriving DecidableEq

inductive TelegramInboundParseStatus where
  | parsed
  | unknown
  | malformed
deriving DecidableEq

def TelegramInboundParseResult.status : TelegramInboundParseResult → TelegramInboundParseStatus
  | parsed _ => .parsed
  | unknown _ _ _ => .unknown
  | malformed _ _ _ => .malformed

structure TelegramInboundCommandHandleResult where
  status : TelegramInboundCommandHandleStatus
  correlationId : String
  updateId : ℤ
  messageId : ℤ
  executed : Bool
  commandName : Option TelegramInboundCommandName
  parseStatus : TelegramInboundParseStatus
  authorization : TelegramInboundAuthorizationResult
  dedupe : Option TelegramInboundCommandDedupeResult
  replyDelivered : Option Bool
  controlConfirmation : Option TelegramInboundControlConfirmationResult
  reasonCode : Option String
deriving DecidableEq

inductive TelegramPollingResult where
  | failed (reasonCode : String)
  | ok (updates : List TelegramInboundCommandMessage) (nextOffset : Option ℤ)

/-- what an approval command says of itself -/
structure ApprovalOutcome where
  brokerSubmitted : Bool
  stateChanged : Bool

/-- `confirm`, `clear` and `push` are calls without an await -/
inductive InboundRequest where
  | getUpdates (offset : Option ℤ)
  | record (message : TelegramInboundCommandMessage) (command : ParsedTelegramInboundCommand)
  | appendEvent (event : TelegramInboundAuditEvent)
  | sendReply (message : TelegramInboundCommandMessage) (text : InboundReplyText)
  | confirm (message : TelegramInboundCommandMessage) (command : ParsedTelegramInboundCommand)
  | clear (message : TelegramInboundCommandMessage) (command : ParsedTelegramInboundCommand)
  | apply (message : TelegramInboundCommandMessage) (command : ParsedTelegramInboundCommand)
      (control : InboundControlRequest)
  | handleCommand (message : TelegramInboundCommandMessage) (command : ParsedTelegramInboundCommand)
      (dedupeKey : Option String)
  | getStatus
  | getBriefing
  | push (message : TelegramInboundCommandMessage) (result : TelegramInboundCommandHandleResult)

def InboundReply : InboundRequest → Type
  | .getUpdates _ => TelegramPollingResult
  | .record _ _ => TelegramInboundCommandDedupeResult
  | .appendEvent _ => Unit
  | .sendReply _ _ => Bool
  | .confirm _ _ => TelegramInboundControlConfirmationResult
  | .clear _ _ => Unit
  | .apply _ _ _ => Unit
  | .handleCommand _ _ _ => ApprovalOutcome
  | .getStatus => Unit
  | .getBriefing => Unit
  | .push _ _ => Unit

abbrev Inbound := Async InboundRequest InboundReply Thrown

def askPort (request : InboundRequest) : Inbound (InboundReply request) := Async.call request

/-! ## Model: a message -/

structure InboundOptions where
  allowlist : TelegramInboundAllowlist
  botUsername : Option String
  actor : Option String
  hasApprovalRuntime : Bool
  confirmationTtlMs : ℤ
  initialOffset : Option ℤ

def defaultControlConfirmationTtlMs : ℤ := 60000

/-- a message that is handled, and what is known of it -/
structure InboundHandling where
  message : TelegramInboundCommandMessage
  parseResult : TelegramInboundParseResult
  authorization : TelegramInboundAuthorizationResult
  dedupe : Option TelegramInboundCommandDedupeResult

def inferTelegramInboundAuditOutcome (handling : InboundHandling) (dedupeFailed : Bool) : TelegramInboundAuditOutcome :=
  if handling.authorization ≠ .authorized then .unauthorized
  else if dedupeFailed then .dedupeFailed
  else if (handling.dedupe.any fun dedupe => dedupe.duplicate) = true then .duplicate
  else
    match handling.parseResult with
    | .parsed _ => .authorized
    | .unknown _ _ _ => .unknown
    | .malformed _ _ _ => .malformed

def toAuditReasonCode (outcome : TelegramInboundAuditOutcome) (handling : InboundHandling) : String :=
  match outcome with
  | .unauthorized => handling.authorization.reasonCode
  | .unknown | .malformed =>
    match handling.parseResult with
    | .parsed _ => "telegram_command_parse_unexpected"
    | .unknown reasonCode _ _ => reasonCode
    | .malformed reasonCode _ _ => reasonCode
  | .duplicate => "telegram_inbound_duplicate_command"
  | .dedupeFailed => "telegram_inbound_dedupe_failed"
  | .authorized => "telegram_inbound_command_accepted"

def createTelegramInboundCommandAuditEvent (handling : InboundHandling) (dedupeFailed : Bool) :
    TelegramInboundAuditEvent where
  outcome := inferTelegramInboundAuditOutcome handling dedupeFailed
  occurredAt := handling.message.receivedAt
  reasonCode := toAuditReasonCode (inferTelegramInboundAuditOutcome handling dedupeFailed) handling
  correlationId := createTelegramInboundCorrelationId handling.message
  updateId := handling.message.updateId
  messageId := handling.message.messageId

def createHandleResult (handling : InboundHandling) (status : TelegramInboundCommandHandleStatus) :
    TelegramInboundCommandHandleResult where
  status := status
  correlationId := createTelegramInboundCorrelationId handling.message
  updateId := handling.message.updateId
  messageId := handling.message.messageId
  executed := false
  commandName := none
  parseStatus := handling.parseResult.status
  authorization := handling.authorization
  dedupe := handling.dedupe
  replyDelivered := none
  controlConfirmation := none
  reasonCode := none

/-- whether the audit log took the event -/
def appendInboundAuditEventSafely (handling : InboundHandling) (dedupeFailed : Bool) : Inbound Bool :=
  tryCatch (do
    let _ : Unit ← askPort (.appendEvent (createTelegramInboundCommandAuditEvent handling dedupeFailed))
    return true) fun _ => return false

/-- whether the reply was delivered -/
def sendReplySafely (message : TelegramInboundCommandMessage) (text : InboundReplyText) : Inbound Bool :=
  tryCatch (do
    let delivered : Bool ← askPort (.sendReply message text)
    return delivered) fun _ => return false

def recordDedupeSafely (message : TelegramInboundCommandMessage) (command : ParsedTelegramInboundCommand) :
    Inbound (Option TelegramInboundCommandDedupeResult) :=
  tryCatch (do
    let dedupe : TelegramInboundCommandDedupeResult ← askPort (.record message command)
    return some dedupe) fun _ => return none

/-- the state and the reason a control command stands for; other commands throw -/
def mapControlCommand : TelegramInboundCommandName → Option (KillSwitchControlTargetState × String)
  | .pause => some (.newOrdersBlocked, "operator_pause")
  | .resume => some (.normal, "operator_resume")
  | .kill => some (.hardStop, "operator_kill")
  | _ => none

def mapControlCommandMessage : TelegramInboundCommandName → String
  | .pause => "Telegram 운영자가 신규 주문 중단을 요청했습니다."
  | .resume => "Telegram 운영자가 거래 상태 복구를 요청했습니다."
  | .kill => "Telegram 운영자가 긴급 거래 중지를 요청했습니다."
  | _ => "Telegram 운영자가 control 명령을 요청했습니다."

section Handler

variable [Host] (options : InboundOptions)

def controlRequest (message : TelegramInboundCommandMessage) (command : ParsedTelegramInboundCommand)
    (target : KillSwitchControlTargetState × String) : InboundControlRequest where
  targetState := target.1
  reasonCode := target.2
  correlationId := createTelegramInboundCorrelationId message
  actor := options.actor.getD "telegram-inbound"
  message := mapControlCommandMessage command.name

def executeControlCommandSafely (message : TelegramInboundCommandMessage) (command : ParsedTelegramInboundCommand) :
    Inbound Bool :=
  match mapControlCommand command.name with
  | none => return false
  | some target =>
    tryCatch (do
      let _ : Unit ← askPort (.apply message command (controlRequest options message command target))
      return true) fun _ => return false

def executeLiveOrderApprovalCommandSafely (message : TelegramInboundCommandMessage)
    (command : ParsedTelegramInboundCommand) (dedupeKey : Option String) : Inbound (Option ApprovalOutcome) :=
  if options.hasApprovalRuntime = false then return none
  else
    tryCatch (do
      let outcome : ApprovalOutcome ← askPort (.handleCommand message command dedupeKey)
      return some outcome) fun _ => return none

def executeReadOnlyCommandSafely (command : ParsedTelegramInboundCommand) : Inbound Bool :=
  tryCatch
    (if command.name = .brief then do
      let _ : Unit ← askPort .getBriefing
      return true
    else do
      let _ : Unit ← askPort .getStatus
      return decide (command.name ∉ ([.pause, .resume, .kill, .approve, .reject] : List TelegramInboundCommandName)))
    fun _ => return false

/-- the text of a command that was done, or was not -/
def resultText (command : ParsedTelegramInboundCommand) (ok : Bool) : InboundReplyText :=
  if ok then .commandResult command.name else .executionFailure command.name

/-- the status of a command whose reply is on its way -/
def executedStatus (ok delivered : Bool) : TelegramInboundCommandHandleStatus :=
  if ok = false then .executionFailed else if delivered then .executed else .replyFailed

/-- a control command: the first message waits, the second one is done -/
def handleControlCommand (handling : InboundHandling) (command : ParsedTelegramInboundCommand) :
    Inbound TelegramInboundCommandHandleResult := do
  let confirmation : TelegramInboundControlConfirmationResult ← askPort (.confirm handling.message command)
  match confirmation with
  | .pending expiresAt => do
    let delivered ← sendReplySafely handling.message (.confirmationRequired command.name expiresAt)
    -- a command whose prompt did not arrive is not to be done by its second message alone
    if delivered = false then
      let _ : Unit ← askPort (.clear handling.message command)
    return { createHandleResult handling (if delivered then .confirmationRequired else .replyFailed) with
      commandName := some command.name, replyDelivered := some delivered, controlConfirmation := some confirmation }
  | .expired receivedAt expiredAt => do
    let delivered ← sendReplySafely handling.message (.confirmationExpired command.name receivedAt expiredAt)
    return { createHandleResult handling (if delivered then .confirmationExpired else .replyFailed) with
      commandName := some command.name, replyDelivered := some delivered, controlConfirmation := some confirmation,
      reasonCode := some "telegram_inbound_control_confirmation_expired" }
  | .confirmed _ _ => do
    let ok ← executeControlCommandSafely options handling.message command
    let delivered ← sendReplySafely handling.message (resultText command ok)
    return { createHandleResult handling (executedStatus ok delivered) with
      executed := ok, commandName := some command.name, replyDelivered := some delivered,
      controlConfirmation := some confirmation,
      reasonCode := if ok then none else some "telegram_inbound_command_execution_failed" }

def handleApprovalCommand (handling : InboundHandling) (command : ParsedTelegramInboundCommand) :
    Inbound TelegramInboundCommandHandleResult := do
  let outcome ← executeLiveOrderApprovalCommandSafely options handling.message command
    (handling.dedupe.map fun dedupe => dedupe.idempotencyKey)
  let delivered ← sendReplySafely handling.message (resultText command outcome.isSome)
  return { createHandleResult handling (executedStatus outcome.isSome delivered) with
    executed := outcome.any fun outcome => outcome.brokerSubmitted || outcome.stateChanged
    commandName := some command.name, replyDelivered := some delivered,
    reasonCode := if outcome.isSome then none else some "telegram_inbound_approval_runtime_unavailable" }

def handleReadOnlyCommand (handling : InboundHandling) (command : ParsedTelegramInboundCommand) :
    Inbound TelegramInboundCommandHandleResult := do
  let ok ← executeReadOnlyCommandSafely command
  let delivered ← sendReplySafely handling.message (resultText command ok)
  return { createHandleResult handling (executedStatus ok delivered) with
    executed := ok, commandName := some command.name, replyDelivered := some delivered,
    reasonCode := if ok then none else some "telegram_inbound_command_execution_failed" }

/-- a message that is on record and audited -/
def handleAudited (handling : InboundHandling) : Inbound TelegramInboundCommandHandleResult :=
  match handling.authorization with
  | .refused reasonCode _ =>
    return { createHandleResult handling .unauthorized with reasonCode := some reasonCode }
  | .authorized =>
    match handling.parseResult with
    | .unknown reasonCode userMessage _ => do
      let delivered ← sendReplySafely handling.message (.parseRefused userMessage)
      return { createHandleResult handling (if delivered then .unknown else .replyFailed) with
        replyDelivered := some delivered, reasonCode := some reasonCode }
    | .malformed reasonCode userMessage _ => do
      let delivered ← sendReplySafely handling.message (.parseRefused userMessage)
      return { createHandleResult handling (if delivered then .malformed else .replyFailed) with
        replyDelivered := some delivered, reasonCode := some reasonCode }
    | .parsed command =>
      if (handling.dedupe.any fun dedupe => dedupe.duplicate) = true then
        return { createHandleResult handling .duplicate with
          reasonCode := some "telegram_inbound_duplicate_command" }
      else
        match command.scope with
        | .control => handleControlCommand options handling command
        | .approval => handleApprovalCommand options handling command
        | .readOnly => handleReadOnlyCommand handling command

/-- an audit log that fails stops a message, and says so to those who may know -/
def handleAuditFailed (handling : InboundHandling) : Inbound TelegramInboundCommandHandleResult :=
  if handling.authorization = .authorized then do
    let delivered ← sendReplySafely handling.message .auditFailure
    return { createHandleResult handling (if delivered then .auditFailed else .replyFailed) with
      replyDelivered := some delivered, reasonCode := some "telegram_inbound_audit_append_failed" }
  else
    return { createHandleResult handling .auditFailed with
      reasonCode := some "telegram_inbound_audit_append_failed" }

/-- a command that could not be noted against redelivery is not done -/
def handleDedupeFailed (handling : InboundHandling) : Inbound TelegramInboundCommandHandleResult := do
  let audited ← appendInboundAuditEventSafely handling true
  if audited then
    let delivered ← sendReplySafely handling.message .dedupeFailure
    return { createHandleResult handling (if delivered then .dedupeFailed else .replyFailed) with
      replyDelivered := some delivered, reasonCode := some "telegram_inbound_dedupe_failed" }
  else
    let delivered ← sendReplySafely handling.message .auditFailure
    return { createHandleResult handling (if delivered then .auditFailed else .replyFailed) with
      replyDelivered := some delivered, reasonCode := some "telegram_inbound_audit_append_failed" }

def handleNoted (handling : InboundHandling) : Inbound TelegramInboundCommandHandleResult := do
  let audited ← appendInboundAuditEventSafely handling false
  if audited then handleAudited options handling else handleAuditFailed handling

/-- one message; its text is not to be parsed where a proof only follows the calls -/
@[irreducible] def handleMessage (message : TelegramInboundCommandMessage) :
    Inbound TelegramInboundCommandHandleResult :=
  let handling : InboundHandling :=
    ⟨message, parseTelegramInboundCommand message.text options.botUsername,
      evaluateTelegramInboundAuthorization message options.allowlist, none⟩
  match handling.parseResult, handling.authorization with
  | .parsed command, .authorized => do
    let dedupe ← recordDedupeSafely message command
    match dedupe with
    | none => handleDedupeFailed handling
    | some dedupe => handleNoted options { handling with dedupe := some dedupe }
  | _, _ => handleNoted options handling

/-! ## Model: the loop -/

def handleUpdates : List TelegramInboundCommandMessage → Inbound Unit
  | [] => return ()
  | message :: rest => do
    let result ← handleMessage options message
    let _ : Unit ← askPort (.push message result)
    handleUpdates rest

/-- one batch; the offset is moved behind it when all of it is handled -/
def runOnce (offset : Option ℤ) : Inbound (Option ℤ) := do
  let polling : TelegramPollingResult ← askPort (.getUpdates offset)
  match polling with
  | .failed _ => return offset
  | .ok updates nextOffset => do
    handleUpdates options updates
    return nextOffset.or offset

/-- a number of ticks; what a batch throws is dropped -/
def ticks : ℕ → Option ℤ → Inbound Unit
  | 0, _ => return ()
  | count + 1, offset => do
    let next ← tryCatch (runOnce options offset) fun _ => return offset
    ticks count next

end Handler

/-! ## Model: processes over one database -/

/-- a control command that waits or waited, and the time it was read with -/
structure Asked where
  message : TelegramInboundCommandMessage
  command : ParsedTelegramInboundCommand
  messageMs : ℤ
deriving DecidableEq

/-- what happened -/
inductive InboundEvent where
  | asked (offset : Option ℤ)
  | polled (poll : ℕ) (updates : List TelegramInboundCommandMessage) (nextOffset : Option ℤ)
  /-- the prompt of a waiting command was delivered -/
  | prompted (message : TelegramInboundCommandMessage)
  | confirmed (first second : Asked) (nowMs : ℤ)
  /-- the kill switch or the approval runtime was asked -/
  | acted (message : TelegramInboundCommandMessage) (command : ParsedTelegramInboundCommand)
  | handled (poll : ℕ) (message : TelegramInboundCommandMessage) (result : TelegramInboundCommandHandleResult)

structure InboundShared where
  /-- the keys of the jobs table -/
  noted : List String
  pending : PendingConfirmations
  now : TimeValue
  /-- the command behind each entry of `pending` -/
  askedBy : String → Option Asked
  polls : ℕ
  /-- newest first -/
  history : List InboundEvent

section Environment

variable [Host] [DateText] [Digest]

/-- `confirm` over the memory of the process -/
def InboundShared.confirming (options : InboundOptions) (shared : InboundShared)
    (message : TelegramInboundCommandMessage) (command : ParsedTelegramInboundCommand) : InboundShared :=
  let key := createConfirmationKey message command
  let asked : Asked := ⟨message, command, readConfirmationMessageTimeMs message.receivedAt shared.now⟩
  let (reply, pending) := confirm options.confirmationTtlMs shared.now shared.pending message command
  match reply, shared.askedBy key with
  | .ok (.confirmed _ _), some first =>
    { shared with
      pending := pending, askedBy := Function.update shared.askedBy key none
      history := .confirmed first asked shared.now.ms :: shared.history }
  | _, _ =>
    { shared with
      pending := pending
      askedBy := Function.update shared.askedBy key (if (pending.get key).isSome then some asked else none) }

/-- an acknowledged prompt -/
def InboundShared.replied (shared : InboundShared) (message : TelegramInboundCommandMessage) (text : InboundReplyText)
    (reply : Except Thrown Bool) : InboundShared :=
  match text, reply with
  | .confirmationRequired _ _, .ok true => { shared with history := .prompted message :: shared.history }
  | _, _ => shared

/-- a batch that came -/
def InboundShared.polling (shared : InboundShared) (offset : Option ℤ) (reply : Except Thrown TelegramPollingResult) :
    InboundShared :=
  match reply with
  | .ok (.ok updates nextOffset) =>
    { shared with
      polls := shared.polls + 1
      history := .polled (shared.polls + 1) updates nextOffset :: .asked offset :: shared.history }
  | _ => { shared with history := .asked offset :: shared.history }

/-- how a request is served; a note may be written without an answer -/
inductive InboundServes (options : InboundOptions) (shared : InboundShared) :
    (request : InboundRequest) → Except Thrown (InboundReply request) → InboundShared → Prop where
  | getUpdates (offset : Option ℤ) (reply : Except Thrown TelegramPollingResult) :
      InboundServes options shared (.getUpdates offset) reply (shared.polling offset reply)
  | record (message : TelegramInboundCommandMessage) (command : ParsedTelegramInboundCommand)
      (reply : Except Thrown TelegramInboundCommandDedupeResult)
      (hnew : createTelegramInboundCommandIdempotencyKey message command ∉ shared.noted)
      (hreply : ∀ result, reply = .ok result →
        result = ⟨createTelegramInboundCommandIdempotencyKey message command, false⟩) :
      InboundServes options shared (.record message command) reply
        { shared with noted := createTelegramInboundCommandIdempotencyKey message command :: shared.noted }
  | recordAgain (message : TelegramInboundCommandMessage) (command : ParsedTelegramInboundCommand)
      (hknown : createTelegramInboundCommandIdempotencyKey message command ∈ shared.noted) :
      InboundServes options shared (.record message command)
        (.ok ⟨createTelegramInboundCommandIdempotencyKey message command, true⟩) shared
  | recordThrows (message : TelegramInboundCommandMessage) (command : ParsedTelegramInboundCommand) (e : Thrown) :
      InboundServes options shared (.record message command) (.error e) shared
  | appendEvent (event : TelegramInboundAuditEvent) (reply : Except Thrown Unit) :
      InboundServes options shared (.appendEvent event) reply shared
  | sendReply (message : TelegramInboundCommandMessage) (text : InboundReplyText) (reply : Except Thrown Bool) :
      InboundServes options shared (.sendReply message text) reply (shared.replied message text reply)
  | confirm (message : TelegramInboundCommandMessage) (command : ParsedTelegramInboundCommand) :
      InboundServes options shared (.confirm message command)
        (confirm options.confirmationTtlMs shared.now shared.pending message command).1
        (shared.confirming options message command)
  | clear (message : TelegramInboundCommandMessage) (command : ParsedTelegramInboundCommand) :
      InboundServes options shared (.clear message command) (.ok ())
        { shared with
          pending := shared.pending.delete (createConfirmationKey message command)
          askedBy := Function.update shared.askedBy (createConfirmationKey message command) none }
  | apply (message : TelegramInboundCommandMessage) (command : ParsedTelegramInboundCommand)
      (control : InboundControlRequest) (reply : Except Thrown Unit) :
      InboundServes options shared (.apply message command control) reply
        { shared with history := .acted message command :: shared.history }
  | handleCommand (message : TelegramInboundCommandMessage) (command : ParsedTelegramInboundCommand)
      (dedupeKey : Option String) (reply : Except Thrown ApprovalOutcome) :
      InboundServes options shared (.handleCommand message command dedupeKey) reply
        { shared with history := .acted message command :: shared.history }
  | getStatus (reply : Except Thrown Unit) : InboundServes options shared .getStatus reply shared
  | getBriefing (reply : Except Thrown Unit) : InboundServes options shared .getBriefing reply shared
  | push (message : TelegramInboundCommandMessage) (result : TelegramInboundCommandHandleResult) :
      InboundServes options shared (.push message result) (.ok ())
        { shared with history := .handled shared.polls message result :: shared.history }

/-- one process at a time, each with an empty memory; the clock may be set to any time -/
def inboundEnvironment (options : InboundOptions) :
    Environment Unit InboundShared InboundRequest InboundReply Thrown Unit where
  Starts _ shared program shared' :=
    (∃ count, program = ticks options count options.initialOffset) ∧
      shared' = { shared with pending := InsertionMap.empty, askedBy := fun _ => none }
  Serves _ := InboundServes options
  Drifts shared shared' := ∃ now, shared' = { shared with now := now }

/-- before the first process -/
def inboundStart (now : TimeValue) : World Unit InboundShared InboundRequest InboundReply Thrown Unit where
  shared := ⟨[], InsertionMap.empty, now, fun _ => none, 0, []⟩
  running _ := none

end Environment

end SeeMirai.Telegram
