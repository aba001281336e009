/-
The operator's chat over whole runs: any batches, redelivered or not, any failures of the ports, any moves of the clock,
and processes that die at any await.

Results:
- `controls_safe`: what acts was sent by someone authorised and acts once, and a control command acts only as the second
  of two messages of one sender within the time for that, each of them part of one confirmation at most.
- `batches_handled`: updates are asked for behind a batch only when each of its messages has a result, and a result says
  that a command was executed only where it was asked for.
-/
import SeeMirai.Telegram.InboundRuns

namespace SeeMirai.Telegram

open Async KillSwitch

section Safety

variable [Host] [DateText] [HexDigest]

/-! ## Histories -/

def Asked.key (asked : Asked) : String := createTelegramInboundCommandIdempotencyKey asked.message asked.command

def Asked.slot (asked : Asked) : String := createConfirmationKey asked.message asked.command

/-- the two commands of a confirmation -/
def InboundEvent.confirmedKeys : InboundEvent → List String
  | confirmed first second _ => [first.key, second.key]
  | _ => []

def InboundEvent.actedKeys : InboundEvent → List String
  | acted message command => [createTelegramInboundCommandIdempotencyKey message command]
  | _ => []

/-- the time that a readable message says -/
def Asked.ReadsTime (asked : Asked) : Prop :=
  ∀ time, DateText.parse asked.message.receivedAt = some time → asked.messageMs = time.ms

/-- two messages that make one confirmation at a time -/
structure Fair (options : InboundOptions) (history : List InboundEvent) (first second : Asked) (nowMs : ℤ) : Prop where
  commanded : Commanded options first.message first.command ∧ Commanded options second.message second.command
  control : first.command.scope = .control ∧ second.command.scope = .control
  /-- of one chat and user, as far as their digests tell -/
  sender : Digest.sha256 first.message.chatId = Digest.sha256 second.message.chatId ∧
    first.message.userId.map Digest.sha256 = second.message.userId.map Digest.sha256
  text : first.command.normalizedText = second.command.normalizedText
  distinct : first.message.messageId ≠ second.message.messageId
  times : first.ReadsTime ∧ second.ReadsTime
  within : second.messageMs ≤ first.messageMs + options.confirmationTtlMs
  fresh : nowMs ≤ first.messageMs + options.confirmationTtlMs ∧ nowMs ≤ second.messageMs + options.confirmationTtlMs
  /-- the first one's prompt was delivered, but where the time it expires is no date -/
  prompted : .prompted first.message ∈ history ∨ ¬ IsDateTime (first.messageMs + options.confirmationTtlMs)

/-- a batch with this next offset came, and each of its messages has a result -/
def Handled (history : List InboundEvent) (next : ℤ) : Prop :=
  ∃ poll updates, .polled poll updates (some next) ∈ history ∧
    ∀ message ∈ updates, ∃ result, .handled poll message result ∈ history

/-- what may act -/
def MayAct (options : InboundOptions) (history : List InboundEvent) (message : TelegramInboundCommandMessage)
    (command : ParsedTelegramInboundCommand) : Prop :=
  Commanded options message command ∧ (command.scope = .approval ∨ command.scope = .control ∧
    ∃ first messageMs nowMs, .confirmed first ⟨message, command, messageMs⟩ nowMs ∈ history)

/-- what a result may say -/
def Truthful (options : InboundOptions) (history : List InboundEvent) (message : TelegramInboundCommandMessage)
    (result : TelegramInboundCommandHandleResult) : Prop :=
  result.updateId = message.updateId ∧ result.messageId = message.messageId ∧
    (result.executed = true → ∀ command,
      parseTelegramInboundCommand message.text options.botUsername = .parsed command → command.scope ≠ .readOnly →
        .acted message command ∈ history)

structure HistorySound (options : InboundOptions) (noted : List String) (history : List InboundEvent) : Prop where
  fair : ∀ first second nowMs, .confirmed first second nowMs ∈ history → Fair options history first second nowMs
  matched : (history.flatMap InboundEvent.confirmedKeys).Nodup
  confirmedNoted : ∀ key ∈ history.flatMap InboundEvent.confirmedKeys, key ∈ noted
  mayAct : ∀ message command, .acted message command ∈ history → MayAct options history message command
  once : (history.flatMap InboundEvent.actedKeys).Nodup
  actedNoted : ∀ key ∈ history.flatMap InboundEvent.actedKeys, key ∈ noted
  offsets : ∀ next, .asked (some next) ∈ history → options.initialOffset = some next ∨ Handled history next
  truthful : ∀ poll message result, .handled poll message result ∈ history → Truthful options history message result

/-- what may be added to a history -/
def Admits (options : InboundOptions) (noted : List String) (history : List InboundEvent) : InboundEvent → Prop
  | .asked offset => ∀ next, offset = some next → options.initialOffset = some next ∨ Handled history next
  | .confirmed first second nowMs => Fair options history first second nowMs ∧ first.key ∈ noted ∧ second.key ∈ noted ∧
      first.key ≠ second.key ∧ first.key ∉ history.flatMap InboundEvent.confirmedKeys ∧
      second.key ∉ history.flatMap InboundEvent.confirmedKeys
  | .acted message command => MayAct options history message command ∧
      createTelegramInboundCommandIdempotencyKey message command ∈ noted ∧
      createTelegramInboundCommandIdempotencyKey message command ∉ history.flatMap InboundEvent.actedKeys
  | .handled _ message result => Truthful options history message result
  | _ => True

variable {options : InboundOptions} {noted : List String} {history : List InboundEvent}

theorem Fair.grows {first second : Asked} {nowMs : ℤ} (h : Fair options history first second nowMs)
    (event : InboundEvent) : Fair options (event :: history) first second nowMs :=
  { h with prompted := h.prompted.imp_left (List.mem_cons_of_mem _) }

omit [Host] [DateText] [HexDigest] in
theorem Handled.grows {next : ℤ} (h : Handled history next) (event : InboundEvent) :
    Handled (event :: history) next := by
  obtain ⟨poll, updates, hpolled, hall⟩ := h
  refine ⟨poll, updates, List.mem_cons_of_mem _ hpolled, fun message hmessage => ?_⟩
  obtain ⟨result, hresult⟩ := hall message hmessage
  exact ⟨result, List.mem_cons_of_mem _ hresult⟩

omit [DateText] [HexDigest] in
theorem MayAct.grows {message : TelegramInboundCommandMessage} {command : ParsedTelegramInboundCommand}
    (h : MayAct options history message command) (event : InboundEvent) :
    MayAct options (event :: history) message command := by
  obtain ⟨hcommanded, hscope | ⟨hscope, first, messageMs, nowMs, hconfirmed⟩⟩ := h
  · exact ⟨hcommanded, Or.inl hscope⟩
  · exact ⟨hcommanded, Or.inr ⟨hscope, first, messageMs, nowMs, List.mem_cons_of_mem _ hconfirmed⟩⟩

omit [DateText] [HexDigest] in
theorem Truthful.grows {message : TelegramInboundCommandMessage} {result : TelegramInboundCommandHandleResult}
    (h : Truthful options history message result) (event : InboundEvent) :
    Truthful options (event :: history) message result :=
  ⟨h.1, h.2.1, fun hexecuted command hparsed hscope => List.mem_cons_of_mem _ (h.2.2 hexecuted command hparsed hscope)⟩

/-- **One event.** A history that admits it stays sound. -/
theorem HistorySound.cons (h : HistorySound options noted history) {event : InboundEvent}
    (hadmits : Admits options noted history event) : HistorySound options noted (event :: history) := by
  refine ⟨fun first second nowMs hmem => ?_, ?_, fun key hkey => ?_, fun message command hmem => ?_, ?_,
    fun key hkey => ?_, fun next hmem => ?_, fun poll message result hmem => ?_⟩
  · rcases List.mem_cons.1 hmem with rfl | hmem
    · exact hadmits.1.grows _
    · exact (h.fair _ _ _ hmem).grows _
  · rw [List.flatMap_cons, List.nodup_append]
    refine ⟨?_, h.matched, fun key hkey other hother => ?_⟩
    · cases event with
      | confirmed first second nowMs =>
        have hne := hadmits.2.2.2.1
        simp [InboundEvent.confirmedKeys, hne]
      | _ => exact List.nodup_nil
    · cases event with
      | confirmed first second nowMs =>
        obtain ⟨-, -, -, -, hfirst, hsecond⟩ := hadmits
        simp only [InboundEvent.confirmedKeys, List.mem_cons, List.not_mem_nil, or_false] at hkey
        rcases hkey with rfl | rfl
        · exact fun heq => hfirst (heq ▸ hother)
        · exact fun heq => hsecond (heq ▸ hother)
      | _ => cases hkey
  · rw [List.flatMap_cons, List.mem_append] at hkey
    rcases hkey with hkey | hkey
    · cases event with
      | confirmed first second nowMs =>
        simp only [InboundEvent.confirmedKeys, List.mem_cons, List.not_mem_nil, or_false] at hkey
        rcases hkey with rfl | rfl
        · exact hadmits.2.1
        · exact hadmits.2.2.1
      | _ => cases hkey
    · exact h.confirmedNoted key hkey
  · rcases List.mem_cons.1 hmem with rfl | hmem
    · exact hadmits.1.grows _
    · exact (h.mayAct _ _ hmem).grows _
  · rw [List.flatMap_cons, List.nodup_append]
    refine ⟨?_, h.once, fun key hkey other hother => ?_⟩
    · cases event with
      | acted message command => exact List.nodup_singleton _
      | _ => exact List.nodup_nil
    · cases event with
      | acted message command =>
        obtain rfl := List.mem_singleton.1 hkey
        exact fun heq => hadmits.2.2 (heq ▸ hother)
      | _ => cases hkey
  · rw [List.flatMap_cons, List.mem_append] at hkey
    rcases hkey with hkey | hkey
    · cases event with
      | acted message command =>
        obtain rfl := List.mem_singleton.1 hkey
        exact hadmits.2.1
      | _ => cases hkey
    · exact h.actedNoted key hkey
  · rcases List.mem_cons.1 hmem with rfl | hmem
    · exact (hadmits next rfl).imp_right fun hhandled => hhandled.grows _
    · exact (h.offsets next hmem).imp_right fun hhandled => hhandled.grows _
  · rcases List.mem_cons.1 hmem with rfl | hmem
    · exact Truthful.grows hadmits _
    · exact (h.truthful _ _ _ hmem).grows _

/-- more notes -/
theorem HistorySound.note (h : HistorySound options noted history) (key : String) :
    HistorySound options (key :: noted) history :=
  { h with
    confirmedNoted := fun other hother => List.mem_cons_of_mem _ (h.confirmedNoted other hother)
    actedNoted := fun other hother => List.mem_cons_of_mem _ (h.actedNoted other hother) }

theorem historySound_start : HistorySound options [] [] where
  fair _ _ _ h := nomatch h
  matched := List.nodup_nil
  confirmedNoted _ h := nomatch h
  mayAct _ _ h := nomatch h
  once := List.nodup_nil
  actedNoted _ h := nomatch h
  offsets _ h := nomatch h
  truthful _ _ _ h := nomatch h

/-! ## The memory of a process -/

/-- the command behind an entry of the store -/
structure Waiting (options : InboundOptions) (shared : InboundShared) (step : HandlerStep) (slot : String)
    (entry : PendingConfirmation) (asked : Asked) : Prop where
  slot : asked.slot = slot
  expires : entry.expiresAtMs = asked.messageMs + options.confirmationTtlMs
  messageId : entry.messageId = asked.message.messageId
  text : entry.commandText = asked.command.normalizedText
  commanded : Commanded options asked.message asked.command
  control : asked.command.scope = .control
  time : asked.ReadsTime
  noted : asked.key ∈ shared.noted
  unmatched : asked.key ∉ shared.history.flatMap InboundEvent.confirmedKeys
  prompted : .prompted asked.message ∈ shared.history ∨
    ¬ IsDateTime (asked.messageMs + options.confirmationTtlMs) ∨ step = .prompting asked.message asked.command

/-- a command waits under a slot -/
def InboundShared.Waits (shared : InboundShared) (slot : String) (asked : Asked) : Prop :=
  ∃ entry, shared.pending.get slot = some entry ∧ shared.askedBy slot = some asked

/-- what is known at a step -/
def StepSound (options : InboundOptions) (shared : InboundShared) : HandlerStep → Prop
  | .noted message command =>
    let key := createTelegramInboundCommandIdempotencyKey message command
    Commanded options message command ∧ key ∈ shared.noted ∧
      key ∉ shared.history.flatMap InboundEvent.confirmedKeys ∧ key ∉ shared.history.flatMap InboundEvent.actedKeys ∧
      ∀ slot asked, shared.Waits slot asked → asked.key ≠ key
  | .confirmed message command =>
    let key := createTelegramInboundCommandIdempotencyKey message command
    MayAct options shared.history message command ∧ key ∈ shared.noted ∧
      key ∉ shared.history.flatMap InboundEvent.actedKeys
  | .acted message command => .acted message command ∈ shared.history
  | _ => True

/-- the batch under way: it came, and what is not left of it has a result -/
def BatchSound (shared : InboundShared) (place : InboundPlace) : Prop :=
  ∀ updates next, place.batch = some (updates, next) → .polled shared.polls updates next ∈ shared.history ∧
    ∀ message ∈ updates, message ∈ place.rest ∨ ∃ result, .handled shared.polls message result ∈ shared.history

structure MemorySound (options : InboundOptions) (shared : InboundShared) (place : InboundPlace) : Prop where
  waiting : ∀ slot entry, shared.pending.get slot = some entry →
    ∃ asked, shared.askedBy slot = some asked ∧ Waiting options shared place.step slot entry asked
  apart : ∀ slot slot' asked asked', shared.Waits slot asked → shared.Waits slot' asked' → asked.key = asked'.key →
    slot = slot'
  step : StepSound options shared place.step
  offset : place.offset = options.initialOffset ∨ ∃ next, place.offset = some next ∧ Handled shared.history next
  batch : BatchSound shared place

/-- all that a world keeps while a process is at a place -/
def Sound (options : InboundOptions) (shared : InboundShared) (place : InboundPlace) : Prop :=
  HistorySound options shared.noted shared.history ∧ MemorySound options shared place

variable {shared : InboundShared} {place : InboundPlace} {message : TelegramInboundCommandMessage}
  {command : ParsedTelegramInboundCommand}

/-- an event that confirms nothing -/
theorem Waiting.grows {step : HandlerStep} {slot : String} {entry : PendingConfirmation} {asked : Asked}
    (h : Waiting options shared step slot entry asked) {event : InboundEvent} (hevent : event.confirmedKeys = []) :
    Waiting options { shared with history := event :: shared.history } step slot entry asked := by
  refine { h with unmatched := ?_, prompted := h.prompted.imp_left (List.mem_cons_of_mem _) }
  rw [List.flatMap_cons, hevent, List.nil_append]
  exact h.unmatched

/-- where no prompt is on its way, the step does not matter -/
theorem Waiting.settled {step : HandlerStep} {slot : String} {entry : PendingConfirmation} {asked : Asked}
    (h : Waiting options shared step slot entry asked) (hsettled : step.settled = true) (step' : HandlerStep) :
    Waiting options shared step' slot entry asked := by
  refine { h with prompted := ?_ }
  rcases h.prompted with hprompted | hdate | hstep
  · exact Or.inl hprompted
  · exact Or.inr (Or.inl hdate)
  · rw [hstep] at hsettled
    cases hsettled

omit [Host] [DateText] [HexDigest] in
theorem BatchSound.grows (h : BatchSound shared place) (event : InboundEvent) :
    BatchSound { shared with history := event :: shared.history } place := by
  intro updates next hbatch
  obtain ⟨hpolled, hall⟩ := h updates next hbatch
  refine ⟨List.mem_cons_of_mem _ hpolled, fun message hmessage => ?_⟩
  rcases hall message hmessage with hrest | ⟨result, hresult⟩
  · exact Or.inl hrest
  · exact Or.inr ⟨result, List.mem_cons_of_mem _ hresult⟩

/-- **One event** that confirms nothing, and a step that is sound after it. -/
theorem Sound.event (h : Sound options shared place) {event : InboundEvent}
    (hadmits : Admits options shared.noted shared.history event) (hevent : event.confirmedKeys = [])
    {step : HandlerStep} (hsettled : place.step.settled = true ∨ step = place.step)
    (hstep : StepSound options { shared with history := event :: shared.history } step) :
    Sound options { shared with history := event :: shared.history } (place.at step) := by
  obtain ⟨hhistory, hmemory⟩ := h
  refine ⟨hhistory.cons hadmits, fun slot entry hentry => ?_, hmemory.apart, hstep, ?_, hmemory.batch.grows event⟩
  · obtain ⟨asked, hasked, hwaiting⟩ := hmemory.waiting slot entry hentry
    refine ⟨asked, hasked, ?_⟩
    rcases hsettled with hsettled | rfl
    · exact (hwaiting.settled hsettled step).grows hevent
    · exact hwaiting.grows hevent
  · exact hmemory.offset.imp_right fun ⟨next, hnext, hhandled⟩ => ⟨next, hnext, hhandled.grows event⟩

/-! ## Requests -/

/-- asking for updates: the offset is the one before, or its batch is handled -/
theorem getUpdates_sound (h : Sound options shared place) {offset : Option ℤ}
    (hallowed : (inboundMonitor options).Allowed place (.getUpdates offset))
    (reply : Except Thrown TelegramPollingResult) :
    Sound options (shared.polling offset reply)
      ((inboundMonitor options).after place (.getUpdates offset) reply) := by
  obtain ⟨hmoves, hsettled⟩ := hallowed
  have hoffset : offset = options.initialOffset ∨ ∃ next, offset = some next ∧ Handled shared.history next := by
    rcases hmoves with rfl | ⟨updates, next, hbatch, hrest, rfl⟩
    · exact h.2.offset
    · obtain ⟨hpolled, hall⟩ := h.2.batch updates (some next) hbatch
      refine Or.inr ⟨next, rfl, shared.polls, updates, hpolled, fun message hmessage => ?_⟩
      rcases hall message hmessage with hleft | hresult
      · rw [hrest] at hleft
        cases hleft
      · exact hresult
  have hadmits : Admits options shared.noted shared.history (.asked offset) := by
    intro next hnext
    rcases hoffset with hinitial | ⟨next', hsome, hhandled⟩
    · exact Or.inl (hinitial.symm.trans hnext)
    · cases hsome.symm.trans hnext
      exact Or.inr hhandled
  have hasked : Sound options { shared with history := .asked offset :: shared.history } (place.at .idle) :=
    h.event hadmits rfl (Or.inl hsettled) trivial
  rcases reply with e | (⟨reasonCode⟩ | ⟨updates, nextOffset⟩)
  · refine ⟨hasked.1, hasked.2.waiting, hasked.2.apart, trivial, ?_, fun updates next hbatch => (by cases hbatch)⟩
    exact hoffset.imp_right fun ⟨next, hnext, hhandled⟩ => ⟨next, hnext, hhandled.grows _⟩
  · refine ⟨hasked.1, hasked.2.waiting, hasked.2.apart, trivial, ?_, fun updates next hbatch => (by cases hbatch)⟩
    exact hoffset.imp_right fun ⟨next, hnext, hhandled⟩ => ⟨next, hnext, hhandled.grows _⟩
  · refine ⟨hasked.1.cons trivial, fun slot entry hentry => ?_, hasked.2.apart, trivial, ?_,
      fun updates' next hbatch => ?_⟩
    · obtain ⟨asked, hsame, hwaiting⟩ := hasked.2.waiting slot entry hentry
      exact ⟨asked, hsame, { hwaiting with
        unmatched := hwaiting.unmatched
        prompted := hwaiting.prompted.imp_left (List.mem_cons_of_mem _) }⟩
    · exact hoffset.imp_right fun ⟨next, hnext, hhandled⟩ => ⟨next, hnext, (hhandled.grows _).grows _⟩
    · cases hbatch
      exact ⟨List.mem_cons_self, fun message hmessage => Or.inl hmessage⟩

/-- a note that is written, whether the answer comes or not -/
theorem Sound.note (h : Sound options shared place) (key : String)
    {step : HandlerStep} (hsettled : place.step.settled = true)
    (hstep : StepSound options { shared with noted := key :: shared.noted } step) :
    Sound options { shared with noted := key :: shared.noted } (place.at step) := by
  refine ⟨h.1.note key, fun slot entry hentry => ?_, h.2.apart, hstep, h.2.offset, h.2.batch⟩
  obtain ⟨asked, hasked, hwaiting⟩ := h.2.waiting slot entry hentry
  exact ⟨asked, hasked, { hwaiting.settled hsettled step with noted := List.mem_cons_of_mem _ hwaiting.noted }⟩

/-- a key that is new belongs to nothing yet -/
theorem noted_sound (h : Sound options shared place) (hcommanded : Commanded options message command)
    (hnew : createTelegramInboundCommandIdempotencyKey message command ∉ shared.noted) :
    StepSound options
      { shared with noted := createTelegramInboundCommandIdempotencyKey message command :: shared.noted }
      (.noted message command) := by
  refine ⟨hcommanded, List.mem_cons_self, fun hmem => hnew (h.1.confirmedNoted _ hmem),
    fun hmem => hnew (h.1.actedNoted _ hmem), fun slot asked hwaits hsame => ?_⟩
  obtain ⟨entry, hentry, hasked⟩ := hwaits
  obtain ⟨asked', hasked', hwaiting⟩ := h.2.waiting slot entry hentry
  cases hasked.symm.trans hasked'
  exact hnew (hsame ▸ hwaiting.noted)

theorem record_sound (h : Sound options shared place)
    (hallowed : (inboundMonitor options).Allowed place (.record message command))
    (hnew : createTelegramInboundCommandIdempotencyKey message command ∉ shared.noted)
    {reply : Except Thrown TelegramInboundCommandDedupeResult}
    (hreply : ∀ result, reply = .ok result →
      result = ⟨createTelegramInboundCommandIdempotencyKey message command, false⟩) :
    Sound options
      { shared with noted := createTelegramInboundCommandIdempotencyKey message command :: shared.noted }
      ((inboundMonitor options).after place (.record message command) reply) := by
  obtain ⟨hidle, hcommanded⟩ := hallowed
  have hsettled : place.step.settled = true := by rw [hidle]; rfl
  cases reply with
  | error e =>
    have hstep : StepSound options
        { shared with noted := createTelegramInboundCommandIdempotencyKey message command :: shared.noted }
        place.step := by
      rw [hidle]
      trivial
    exact h.note _ hsettled hstep
  | ok result =>
    obtain rfl := hreply result rfl
    exact h.note _ hsettled (noted_sound h hcommanded hnew)

theorem reply_sound (h : Sound options shared place) {text : InboundReplyText}
    (hallowed : (inboundMonitor options).Allowed place (.sendReply message text)) (reply : Except Thrown Bool) :
    Sound options (shared.replied message text reply)
      ((inboundMonitor options).after place (.sendReply message text) reply) := by
  cases text with
  | confirmationRequired name expiresAt =>
    rcases reply with e | (_ | _)
    · exact h
    · exact h
    · -- the prompt has arrived: no entry waits for it any more
      obtain ⟨command, hprompting⟩ := hallowed
      refine ⟨h.1.cons trivial, fun slot entry hentry => ?_, h.2.apart, trivial, ?_, h.2.batch.grows _⟩
      · obtain ⟨asked, hasked, hwaiting⟩ := h.2.waiting slot entry hentry
        refine ⟨asked, hasked, { hwaiting with unmatched := hwaiting.unmatched, prompted := ?_ }⟩
        rcases hwaiting.prompted with hprompted | hdate | hstep
        · exact Or.inl (List.mem_cons_of_mem _ hprompted)
        · exact Or.inr (Or.inl hdate)
        · cases hprompting.symm.trans hstep
          exact Or.inl List.mem_cons_self
      · exact h.2.offset.imp_right fun ⟨next, hnext, hhandled⟩ => ⟨next, hnext, hhandled.grows _⟩
  | _ => exact h

/-- an action by a step that may take it -/
theorem act_sound (h : Sound options shared place) (hsettled : place.step.settled = true)
    (hmay : MayAct options shared.history message command)
    (hnoted : createTelegramInboundCommandIdempotencyKey message command ∈ shared.noted)
    (hnew : createTelegramInboundCommandIdempotencyKey message command ∉
      shared.history.flatMap InboundEvent.actedKeys) :
    Sound options { shared with history := .acted message command :: shared.history }
      (place.at (.acted message command)) := by
  have hadmits : Admits options shared.noted shared.history (.acted message command) := ⟨hmay, hnoted, hnew⟩
  exact h.event hadmits rfl (Or.inl hsettled) List.mem_cons_self

theorem apply_sound (h : Sound options shared place) {control : InboundControlRequest}
    (hallowed : (inboundMonitor options).Allowed place (.apply message command control)) :
    Sound options { shared with history := .acted message command :: shared.history }
      (place.at (.acted message command)) := by
  have hstep := h.2.step
  rw [hallowed.1] at hstep
  exact act_sound h (by rw [hallowed.1]; rfl) hstep.1 hstep.2.1 hstep.2.2

theorem handleCommand_sound (h : Sound options shared place) {dedupeKey : Option String}
    (hallowed : (inboundMonitor options).Allowed place (.handleCommand message command dedupeKey)) :
    Sound options { shared with history := .acted message command :: shared.history }
      (place.at (.acted message command)) := by
  have hstep := h.2.step
  rw [hallowed.1] at hstep
  exact act_sound h (by rw [hallowed.1]; rfl) ⟨hstep.1, Or.inl hallowed.2⟩ hstep.2.1 hstep.2.2.2.1

theorem push_sound (h : Sound options shared place) {result : TelegramInboundCommandHandleResult}
    (hallowed : (inboundMonitor options).Allowed place (.push message result)) :
    Sound options { shared with history := .handled shared.polls message result :: shared.history }
      { place with rest := place.rest.tail, step := .idle } := by
  obtain ⟨hhead, hsettled, hreports⟩ := hallowed
  have htruthful : Truthful options shared.history message result := by
    refine ⟨hreports.updateId, hreports.messageId, fun hexecuted command hparsed hscope => ?_⟩
    have hstep := h.2.step
    rw [hreports.executed hexecuted command hparsed hscope] at hstep
    exact hstep
  have hadmits : Admits options shared.noted shared.history (.handled shared.polls message result) := htruthful
  have hpushed : Sound options { shared with history := .handled shared.polls message result :: shared.history }
      (place.at .idle) :=
    h.event hadmits rfl (Or.inl hsettled) trivial
  refine ⟨hpushed.1, hpushed.2.waiting, hpushed.2.apart, trivial, hpushed.2.offset, fun updates next hbatch => ?_⟩
  obtain ⟨hpolled, hall⟩ := hpushed.2.batch updates next hbatch
  refine ⟨hpolled, fun other hother => ?_⟩
  rcases hall other hother with hrest | hresult
  · change other ∈ place.rest at hrest
    cases hcases : place.rest with
    | nil =>
      rw [hcases] at hhead
      cases hhead
    | cons first rest =>
      rw [hcases] at hhead hrest
      cases hhead
      rcases List.mem_cons.1 hrest with rfl | hrest
      · exact Or.inr ⟨result, List.mem_cons_self⟩
      · exact Or.inl hrest
  · exact Or.inr hresult

/-! ## The store -/

omit [Host] [DateText] [HexDigest] in
theorem get_removeExpired {pending : PendingConfirmations} {nowMs : ℤ} {slot : String} {entry : PendingConfirmation} :
    (removeExpiredConfirmations pending nowMs).get slot = some entry ↔
      pending.get slot = some entry ∧ nowMs ≤ entry.expiresAtMs := by
  rw [← InsertionMap.mem_iff_get, ← InsertionMap.mem_iff_get]
  unfold removeExpiredConfirmations
  rw [List.mem_filter, decide_eq_true_iff]

omit [Host] [HexDigest] in
theorem isoText_message (receivedAt : String) (now : TimeValue) :
    isoText (readConfirmationMessageTimeMs receivedAt now) =
      .ok (toISOString (readConfirmationMessageTimeMs receivedAt now)) := by
  unfold isoText readConfirmationMessageTimeMs
  rw [if_pos ⟨TimeValue.low _, TimeValue.high _⟩]

omit [Host] in
/-- what the store does with a command -/
theorem confirm_cases (ttlMs : ℤ) (now : TimeValue) (pending : PendingConfirmations)
    (message : TelegramInboundCommandMessage) (command : ParsedTelegramInboundCommand) :
    let messageMs := readConfirmationMessageTimeMs message.receivedAt now
    let unexpired := removeExpiredConfirmations pending now.ms
    let slot := createConfirmationKey message command
    (∃ existing, unexpired.get slot = some existing ∧
        isConfirmedBy ttlMs messageMs now.ms message command existing = true ∧
        confirm ttlMs now pending message command =
          (.ok (.confirmed (toISOString messageMs) existing.messageId), unexpired.delete slot)) ∨
      ((∃ reply, confirm ttlMs now pending message command = (reply, unexpired.delete slot) ∧
        ((∃ e, reply = .error e) ∨ ∃ received expired, reply = .ok (.expired received expired)))) ∨
      confirm ttlMs now pending message command = ((isoText (messageMs + ttlMs)).map .pending,
        unexpired.set slot ⟨messageMs + ttlMs, message.messageId, command.normalizedText⟩) := by
  intro messageMs unexpired slot
  unfold confirm
  cases hfound : (unexpired.get slot).filter (isConfirmedBy ttlMs messageMs now.ms message command) with
  | some existing =>
    obtain ⟨hget, hconfirmed⟩ := Option.filter_eq_some_iff.1 hfound
    refine Or.inl ⟨existing, hget, hconfirmed, ?_⟩
    simp only [unexpired, slot, messageMs] at hfound
    simp only [hfound, isoText_message]
    rfl
  | none =>
    refine Or.inr ?_
    simp only [unexpired, slot, messageMs] at hfound
    simp only [hfound]
    split_ifs with hlate
    · refine Or.inl ⟨_, rfl, ?_⟩
      rw [isoText_message]
      cases hexpired : isoText (readConfirmationMessageTimeMs message.receivedAt now + ttlMs) with
      | error e => exact Or.inl ⟨e, rfl⟩
      | ok expired => exact Or.inr ⟨_, expired, rfl⟩
    · exact Or.inr rfl

omit [Host] [HexDigest] in
theorem reads_time (message : TelegramInboundCommandMessage) (command : ParsedTelegramInboundCommand)
    (now : TimeValue) :
    Asked.ReadsTime ⟨message, command, readConfirmationMessageTimeMs message.receivedAt now⟩ := by
  intro time htime
  change ((DateText.parse message.receivedAt).getD now).ms = time.ms
  rw [htime]
  rfl

/-- where an entry's prompt is not on its way, the step does not matter -/
theorem Waiting.moved {step : HandlerStep} {slot : String} {entry : PendingConfirmation} {asked : Asked}
    (h : Waiting options shared step slot entry asked) (hstep : step ≠ .prompting asked.message asked.command)
    (step' : HandlerStep) : Waiting options shared step' slot entry asked := by
  refine { h with prompted := ?_ }
  rcases h.prompted with hprompted | hdate | hsame
  · exact Or.inl hprompted
  · exact Or.inr (Or.inl hdate)
  · exact absurd hsame hstep

/-- what a part of the store holds, the store held -/
def Left (shared : InboundShared) (pending' : PendingConfirmations) (askedBy' : String → Option Asked) : Prop :=
  ∀ slot entry, pending'.get slot = some entry →
    shared.pending.get slot = some entry ∧ askedBy' slot = shared.askedBy slot

omit [Host] [DateText] [HexDigest] in
theorem Left.waits {pending' : PendingConfirmations} {askedBy' : String → Option Asked}
    (hleft : Left shared pending' askedBy') {slot : String} {asked : Asked}
    (hwaits : InboundShared.Waits { shared with pending := pending', askedBy := askedBy' } slot asked) :
    shared.Waits slot asked := by
  obtain ⟨entry, hentry, hasked⟩ := hwaits
  obtain ⟨hold, hsame⟩ := hleft slot entry hentry
  exact ⟨entry, hold, hsame.symm.trans hasked⟩

/-- entries that are left wait as before -/
theorem waiting_left (h : Sound options shared place) {pending' : PendingConfirmations}
    {askedBy' : String → Option Asked} (hleft : Left shared pending' askedBy') {slot : String}
    {entry : PendingConfirmation} (hentry : pending'.get slot = some entry) :
    ∃ asked, askedBy' slot = some asked ∧ shared.Waits slot asked ∧
      Waiting options shared place.step slot entry asked := by
  obtain ⟨hold, hsame⟩ := hleft slot entry hentry
  obtain ⟨asked, hasked, hwaiting⟩ := h.2.waiting slot entry hold
  exact ⟨asked, hsame.trans hasked, ⟨entry, hold, hasked⟩, hwaiting⟩

/-- the store forgets entries, and nothing else happens -/
theorem Sound.forget (h : Sound options shared place) {pending' : PendingConfirmations}
    {askedBy' : String → Option Asked} (hleft : Left shared pending' askedBy')
    (hstep : ∀ slot entry (asked : Asked), pending'.get slot = some entry → asked.slot = slot →
      place.step ≠ .prompting asked.message asked.command) :
    Sound options { shared with pending := pending', askedBy := askedBy' } (place.at .idle) := by
  refine ⟨h.1, fun slot entry hentry => ?_, fun slot slot' asked asked' hslot hslot' hkey => ?_, trivial, h.2.offset,
    h.2.batch⟩
  · obtain ⟨asked, hasked, -, hwaiting⟩ := waiting_left h hleft hentry
    have hmoved := hwaiting.moved (hstep slot entry asked hentry hwaiting.slot) .idle
    exact ⟨asked, hasked, { hmoved with noted := hmoved.noted }⟩
  · exact h.2.apart slot slot' asked asked' (hleft.waits hslot) (hleft.waits hslot') hkey

omit [Host] [DateText] [HexDigest] in
/-- the entry of one slot is deleted, and its command with it -/
theorem left_delete {pending' : PendingConfirmations} (slot : String) (asked : Option Asked)
    (hsub : ∀ slot' entry, pending'.get slot' = some entry → shared.pending.get slot' = some entry) :
    Left shared (pending'.delete slot) (Function.update shared.askedBy slot asked) := by
  intro slot' entry hentry
  rw [InsertionMap.get_delete] at hentry
  split_ifs at hentry with hslot
  exact ⟨hsub slot' entry hentry, Function.update_of_ne (fun h => hslot h.symm) _ _⟩

theorem clear_sound (h : Sound options shared place)
    (hallowed : (inboundMonitor options).Allowed place (.clear message command)) :
    Sound options
      { shared with
        pending := shared.pending.delete (createConfirmationKey message command)
        askedBy := Function.update shared.askedBy (createConfirmationKey message command) none }
      (place.at .idle) := by
  have hprompting : place.step = .prompting message command := hallowed
  refine h.forget (left_delete _ none fun slot entry hentry => hentry) fun slot entry asked hentry hslot hsame => ?_
  -- the entry without its prompt is the one that is deleted
  cases hprompting.symm.trans hsame
  rw [InsertionMap.get_delete, if_pos (show createConfirmationKey _ _ = slot from hslot)] at hentry
  cases hentry

/-- a key that is noted and was not used, as far as the store goes -/
theorem apart_noted (h : Sound options shared place) (hstep : place.step = .noted message command) :
    Commanded options message command ∧
      createTelegramInboundCommandIdempotencyKey message command ∈ shared.noted ∧
      createTelegramInboundCommandIdempotencyKey message command ∉ shared.history.flatMap InboundEvent.confirmedKeys ∧
      createTelegramInboundCommandIdempotencyKey message command ∉ shared.history.flatMap InboundEvent.actedKeys ∧
      ∀ slot asked, shared.Waits slot asked →
        asked.key ≠ createTelegramInboundCommandIdempotencyKey message command := by
  have hnoted := h.2.step
  rw [hstep] at hnoted
  exact hnoted

/-- the second message of a command: what makes the confirmation fair -/
theorem fair_confirmation (h : Sound options shared place) (hstep : place.step = .noted message command)
    (hscope : command.scope = .control) {existing : PendingConfirmation} {first : Asked}
    (hwaiting : Waiting options shared place.step (createConfirmationKey message command) existing first)
    (hunexpired : shared.now.ms ≤ existing.expiresAtMs)
    (hconfirmed : isConfirmedBy options.confirmationTtlMs (readConfirmationMessageTimeMs message.receivedAt shared.now)
      shared.now.ms message command existing = true) :
    Fair options shared.history first
      ⟨message, command, readConfirmationMessageTimeMs message.receivedAt shared.now⟩ shared.now.ms := by
  unfold isConfirmedBy at hconfirmed
  obtain ⟨hwithin, hfresh, htext, hdistinct⟩ := of_decide_eq_true hconfirmed
  obtain ⟨hchat, huser, -⟩ := Digest.sender_inj hwaiting.slot
  rw [hwaiting.expires] at hwithin hunexpired
  refine ⟨⟨hwaiting.commanded, (apart_noted h hstep).1⟩, ⟨hwaiting.control, hscope⟩, ⟨hchat, huser⟩, ?_, ?_,
    ⟨hwaiting.time, reads_time message command shared.now⟩, hwithin, ⟨hunexpired, hfresh⟩, ?_⟩
  · exact hwaiting.text.symm.trans htext
  · rw [← hwaiting.messageId]
    exact hdistinct
  · rcases hwaiting.prompted with hprompted | hdate | hprompting
    · exact Or.inl hprompted
    · exact Or.inr hdate
    · rw [hstep] at hprompting
      cases hprompting

/-- **A confirmation.** Both commands leave the store, and the second one may act. -/
theorem confirmed_sound (h : Sound options shared place) (hstep : place.step = .noted message command)
    (hscope : command.scope = .control) {existing : PendingConfirmation} {first : Asked}
    {pending' : PendingConfirmations} {askedBy' : String → Option Asked} (hleft : Left shared pending' askedBy')
    (hgone : pending'.get (createConfirmationKey message command) = none)
    (hold : shared.pending.get (createConfirmationKey message command) = some existing)
    (hfirst : shared.askedBy (createConfirmationKey message command) = some first)
    (hfair : Fair options shared.history first
      ⟨message, command, readConfirmationMessageTimeMs message.receivedAt shared.now⟩ shared.now.ms) :
    Sound options
      { shared with
        pending := pending', askedBy := askedBy'
        history := .confirmed first ⟨message, command, readConfirmationMessageTimeMs message.receivedAt shared.now⟩
          shared.now.ms :: shared.history }
      (place.at (.confirmed message command)) := by
  obtain ⟨hcommanded, hnoted, hunmatched, hfresh, hapart⟩ := apart_noted h hstep
  have hwaits : shared.Waits (createConfirmationKey message command) first := ⟨existing, hold, hfirst⟩
  obtain ⟨first', hsame, hwaiting⟩ := h.2.waiting _ _ hold
  cases hfirst.symm.trans hsame
  have hadmits : Admits options shared.noted shared.history
      (.confirmed first ⟨message, command, readConfirmationMessageTimeMs message.receivedAt shared.now⟩
        shared.now.ms) :=
    ⟨hfair, hwaiting.noted, hnoted, hapart _ _ hwaits, hwaiting.unmatched, hunmatched⟩
  refine ⟨h.1.cons hadmits, fun slot entry hentry => ?_, fun slot slot' asked asked' hslot hslot' hkey => ?_,
    ⟨⟨hcommanded, Or.inr ⟨hscope, first, _, _, List.mem_cons_self⟩⟩, hnoted, hfresh⟩, ?_, h.2.batch.grows _⟩
  · obtain ⟨asked, hasked, hother, hbefore⟩ := waiting_left h hleft hentry
    have hmoved := hbefore.moved (by rw [hstep]; exact fun hsame => nomatch hsame) (.confirmed message command)
    refine ⟨asked, hasked, { hmoved with
      unmatched := ?_, prompted := hmoved.prompted.imp_left (List.mem_cons_of_mem _) }⟩
    rw [List.flatMap_cons, List.mem_append]
    intro hmem
    rcases hmem with hmem | hmem
    · simp only [InboundEvent.confirmedKeys, List.mem_cons, List.not_mem_nil, or_false] at hmem
      rcases hmem with hkey | hkey
      · -- the first command's slot is empty now
        have hslot := h.2.apart _ _ _ _ hother hwaits hkey
        rw [hslot, hgone] at hentry
        cases hentry
      · exact hapart _ _ hother hkey
    · exact hmoved.unmatched hmem
  · exact h.2.apart slot slot' asked asked' (hleft.waits hslot) (hleft.waits hslot') hkey
  · exact h.2.offset.imp_right fun ⟨next, hnext, hhandled⟩ => ⟨next, hnext, hhandled.grows _⟩

/-- **A first message.** It waits, its prompt on its way, or its time is no date. -/
theorem pending_sound (h : Sound options shared place) (hstep : place.step = .noted message command)
    (hscope : command.scope = .control) {unexpired : PendingConfirmations}
    (hsub : ∀ slot entry, unexpired.get slot = some entry → shared.pending.get slot = some entry) {step : HandlerStep}
    (hnext : step = .prompting message command ∨ step = .idle ∧
      ¬ IsDateTime (readConfirmationMessageTimeMs message.receivedAt shared.now + options.confirmationTtlMs)) :
    Sound options
      { shared with
        pending := unexpired.set (createConfirmationKey message command)
          ⟨readConfirmationMessageTimeMs message.receivedAt shared.now + options.confirmationTtlMs, message.messageId,
            command.normalizedText⟩
        askedBy := Function.update shared.askedBy (createConfirmationKey message command)
          (some ⟨message, command, readConfirmationMessageTimeMs message.receivedAt shared.now⟩) }
      (place.at step) := by
  obtain ⟨hcommanded, hnoted, hunmatched, -, hapart⟩ := apart_noted h hstep
  set slot := createConfirmationKey message command with hslot
  set asked : Asked := ⟨message, command, readConfirmationMessageTimeMs message.receivedAt shared.now⟩ with hasked
  -- an entry is the new one, or one of before under another slot
  have hcases : ∀ slot' entry, (unexpired.set slot
      ⟨asked.messageMs + options.confirmationTtlMs, message.messageId, command.normalizedText⟩).get slot' = some entry →
      (slot' = slot ∧ entry = ⟨asked.messageMs + options.confirmationTtlMs, message.messageId,
        command.normalizedText⟩) ∨
        (slot' ≠ slot ∧ shared.pending.get slot' = some entry) := by
    intro slot' entry hentry
    rw [InsertionMap.get_set] at hentry
    split_ifs at hentry with hsame
    · exact Or.inl ⟨hsame.symm, (Option.some.inj hentry).symm⟩
    · exact Or.inr ⟨fun h => hsame h.symm, hsub _ _ hentry⟩
  have hwaits : ∀ slot' other, InboundShared.Waits
      { shared with
        pending := unexpired.set slot
          ⟨asked.messageMs + options.confirmationTtlMs, message.messageId, command.normalizedText⟩
        askedBy := Function.update shared.askedBy slot (some asked) } slot' other →
      (slot' = slot ∧ other = asked) ∨ (slot' ≠ slot ∧ shared.Waits slot' other) := by
    intro slot' other hother
    obtain ⟨entry, hentry, hsame⟩ := hother
    change Function.update shared.askedBy slot (some asked) slot' = some other at hsame
    rcases hcases slot' entry hentry with ⟨rfl, -⟩ | ⟨hne, hold⟩
    · rw [Function.update_self] at hsame
      exact Or.inl ⟨rfl, (Option.some.inj hsame).symm⟩
    · rw [Function.update_of_ne hne] at hsame
      exact Or.inr ⟨hne, entry, hold, hsame⟩
  refine ⟨h.1, fun slot' entry hentry => ?_, fun slot' slot'' other other' hother hother' hkey => ?_, ?_, h.2.offset,
    h.2.batch⟩
  · rcases hcases slot' entry hentry with ⟨rfl, rfl⟩ | ⟨hne, hold⟩
    · refine ⟨asked, Function.update_self _ _ _, rfl, rfl, rfl, rfl, hcommanded, hscope, reads_time _ _ _, hnoted,
        hunmatched, ?_⟩
      rcases hnext with rfl | ⟨-, hdate⟩
      · exact Or.inr (Or.inr rfl)
      · exact Or.inr (Or.inl hdate)
    · obtain ⟨other, hother, hwaiting⟩ := h.2.waiting slot' entry hold
      have hnotPrompting : place.step ≠ .prompting other.message other.command := by
        rw [hstep]
        intro hsame
        cases hsame
      have hmoved := hwaiting.moved hnotPrompting step
      exact ⟨other, (Function.update_of_ne hne _ _).trans hother, { hmoved with noted := hmoved.noted }⟩
  · rcases hwaits slot' other hother with ⟨rfl, rfl⟩ | ⟨hne, hother⟩
    · rcases hwaits slot'' other' hother' with ⟨rfl, -⟩ | ⟨-, hother'⟩
      · rfl
      · exact absurd hkey.symm (hapart _ _ hother')
    · rcases hwaits slot'' other' hother' with ⟨rfl, rfl⟩ | ⟨-, hother'⟩
      · exact absurd hkey (hapart _ _ hother)
      · exact h.2.apart slot' slot'' other other' hother hother' hkey
  · rcases hnext with rfl | ⟨rfl, -⟩
    · trivial
    · trivial

/-- `confirm` and its answer -/
theorem confirm_sound (h : Sound options shared place)
    (hallowed : (inboundMonitor options).Allowed place (.confirm message command)) :
    Sound options (shared.confirming options message command) ((inboundMonitor options).after place
      (.confirm message command) (confirm options.confirmationTtlMs shared.now shared.pending message command).1) := by
  obtain ⟨hstep, hscope⟩ := hallowed
  have hsub : ∀ slot entry, (removeExpiredConfirmations shared.pending shared.now.ms).get slot = some entry →
      shared.pending.get slot = some entry := fun slot entry hentry => (get_removeExpired.1 hentry).1
  unfold InboundShared.confirming
  rcases confirm_cases options.confirmationTtlMs shared.now shared.pending message command with
    ⟨existing, hfound, hconfirmed, hanswer⟩ | ⟨reply, hanswer, hreply⟩ | hanswer
  · obtain ⟨hold, hunexpired⟩ := get_removeExpired.1 hfound
    obtain ⟨first, hfirst, hwaiting⟩ := h.2.waiting _ _ hold
    simp only [hanswer, hfirst]
    have hfair := fair_confirmation h hstep hscope hwaiting hunexpired hconfirmed
    refine confirmed_sound h hstep hscope (left_delete _ none hsub) ?_ hold hfirst hfair
    rw [InsertionMap.get_delete, if_pos rfl]
  · have hquiet : ∀ slot entry (asked : Asked), ((removeExpiredConfirmations shared.pending shared.now.ms).delete
        (createConfirmationKey message command)).get slot = some entry → asked.slot = slot →
        place.step ≠ .prompting asked.message asked.command := by
      intro slot entry asked _ _ hprompting
      rw [hstep] at hprompting
      cases hprompting
    rcases hreply with ⟨e, rfl⟩ | ⟨received, expired, rfl⟩
    · simp only [hanswer]
      exact h.forget (left_delete _ _ hsub) hquiet
    · simp only [hanswer]
      exact h.forget (left_delete _ _ hsub) hquiet
  · have hget : ∀ entry, (InsertionMap.set (removeExpiredConfirmations shared.pending shared.now.ms)
        (createConfirmationKey message command) entry).get (createConfirmationKey message command) = some entry :=
      fun entry => InsertionMap.get_set_self _ _ _
    by_cases hdate : IsDateTime
        (readConfirmationMessageTimeMs message.receivedAt shared.now + options.confirmationTtlMs)
    · have htext : isoText (readConfirmationMessageTimeMs message.receivedAt shared.now + options.confirmationTtlMs) =
          .ok (toISOString (readConfirmationMessageTimeMs message.receivedAt shared.now + options.confirmationTtlMs)) :=
        if_pos hdate
      simp only [hanswer, htext, Except.map, hget, Option.isSome_some, if_true]
      exact pending_sound h hstep hscope hsub (Or.inl rfl)
    · have htext : isoText (readConfirmationMessageTimeMs message.receivedAt shared.now + options.confirmationTtlMs) =
          .error ⟨"RangeError", "Invalid time value"⟩ := if_neg hdate
      simp only [hanswer, htext, Except.map, hget, Option.isSome_some, if_true]
      exact pending_sound h hstep hscope hsub (Or.inr ⟨rfl, hdate⟩)

/-! ## Runs -/

/-- the history is sound, and so is the memory of the process that runs -/
def InboundInv (options : InboundOptions) (shared : InboundShared) (places : Unit → Option InboundPlace) : Prop :=
  HistorySound options shared.noted shared.history ∧
    ∀ place, places () = some place → MemorySound options shared place

/-- **One request.** -/
theorem serves_sound (h : Sound options shared place) {request : InboundRequest}
    {reply : Except Thrown (InboundReply request)}
    {shared' : InboundShared} (hallowed : (inboundMonitor options).Allowed place request)
    (hserves : InboundServes options shared request reply shared') :
    Sound options shared' ((inboundMonitor options).after place request reply) := by
  cases hserves with
  | getUpdates offset reply => exact getUpdates_sound h hallowed reply
  | record message command reply hnew hreply => exact record_sound h hallowed hnew hreply
  | recordAgain message command hknown => exact h
  | recordThrows message command e => exact h
  | appendEvent event reply => exact h
  | sendReply message text reply => exact reply_sound h hallowed reply
  | confirm message command => exact confirm_sound h hallowed
  | clear message command => exact clear_sound h hallowed
  | apply message command control reply => exact apply_sound h hallowed
  | handleCommand message command dedupeKey reply => exact handleCommand_sound h hallowed
  | getStatus reply => exact h
  | getBriefing reply => exact h
  | push message result => exact push_sound h hallowed

theorem inbound_invariant : Invariant (inboundEnvironment options) (fun _ => inboundMonitor options)
    (fun _ _ _ => True) (InboundInv options) where
  start shared places i program shared' hinv _ hstarts := by
    obtain ⟨⟨count, rfl⟩, rfl⟩ := hstarts
    refine ⟨⟨options.initialOffset, none, [], .idle⟩, ticks_keeps count ⟨Or.inl rfl, rfl⟩, hinv.1,
      fun place hplace => ?_⟩
    rw [Function.update_self] at hplace
    cases hplace
    refine ⟨fun slot entry hentry => (by cases hentry), fun slot slot' asked asked' hwaits => ?_, trivial, Or.inl rfl,
      fun updates next hbatch => (by cases hbatch)⟩
    obtain ⟨entry, hentry, -⟩ := hwaits
    cases hentry
  serve shared places i s request reply shared' hinv hplace hallowed hserves := by
    have hsound := serves_sound ⟨hinv.1, hinv.2 s hplace⟩ hallowed hserves
    refine ⟨hsound.1, fun place hsame => ?_⟩
    rw [Function.update_self] at hsame
    cases hsame
    exact hsound.2
  stop shared places i hinv := by
    refine ⟨hinv.1, fun place hplace => ?_⟩
    rw [Function.update_self] at hplace
    cases hplace
  drift shared places shared' hinv hdrifts := by
    obtain ⟨now, rfl⟩ := hdrifts
    refine ⟨hinv.1, fun place hplace => ?_⟩
    obtain ⟨hwaiting, hapart, hstep, hoffset, hbatch⟩ := hinv.2 place hplace
    refine ⟨fun slot entry hentry => ?_, hapart, ?_, hoffset, hbatch⟩
    · obtain ⟨asked, hasked, hbefore⟩ := hwaiting slot entry hentry
      exact ⟨asked, hasked, { hbefore with noted := hbefore.noted }⟩
    · cases hcases : place.step with
      | _ => rw [hcases] at hstep; exact hstep

theorem history_sound {now : TimeValue} {w : World Unit InboundShared InboundRequest InboundReply Thrown Unit}
    (hrun : Reaches (inboundEnvironment options) (inboundStart now) w) :
    HistorySound options w.shared.noted w.shared.history := by
  have hstart : InStep (fun _ => inboundMonitor options) (fun _ _ _ => True) (InboundInv options) (inboundStart now) :=
    ⟨fun _ => none, ⟨historySound_start, fun place hplace => nomatch hplace⟩, fun i => trivial⟩
  obtain ⟨places, hinv, -⟩ := reaches_inStep inbound_invariant hstart hrun
  exact hinv.1

/-- what the operator may rely on -/
structure ControlsSafe (options : InboundOptions) (history : List InboundEvent) : Prop where
  /-- what acts was sent by someone authorised and read so, and a control command acts only once it is confirmed -/
  mayAct : ∀ message command, .acted message command ∈ history → MayAct options history message command
  /-- each message acts once at most, however often it is redelivered -/
  once : (history.flatMap InboundEvent.actedKeys).Nodup
  /-- a confirmation is fair -/
  fair : ∀ first second nowMs, .confirmed first second nowMs ∈ history → Fair options history first second nowMs
  /-- each message is part of one confirmation at most -/
  matched : (history.flatMap InboundEvent.confirmedKeys).Nodup

/-- **Controls.** Whatever is polled and redelivered, whichever ports fail, wherever processes die: what acts was sent
by someone authorised and acts once, and a control command acts only as the second of two messages that no other
confirmation has a part of. -/
theorem controls_safe {now : TimeValue} {w : World Unit InboundShared InboundRequest InboundReply Thrown Unit}
    (hrun : Reaches (inboundEnvironment options) (inboundStart now) w) : ControlsSafe options w.shared.history :=
  have h := history_sound hrun
  ⟨h.mayAct, h.once, h.fair, h.matched⟩

/-- what the provider of updates and the reader of results may rely on -/
structure BatchesHandled (options : InboundOptions) (history : List InboundEvent) : Prop where
  /-- behind a batch is only asked once each of its messages has a result -/
  offsets : ∀ next, .asked (some next) ∈ history → options.initialOffset = some next ∨ Handled history next
  /-- a result is that of its message, and says of an action only that it was executed where it was asked for -/
  truthful : ∀ poll message result, .handled poll message result ∈ history → Truthful options history message result

/-- **Batches.** The offset moves behind a batch only when all of the batch is handled, and results tell the truth. -/
theorem batches_handled {now : TimeValue} {w : World Unit InboundShared InboundRequest InboundReply Thrown Unit}
    (hrun : Reaches (inboundEnvironment options) (inboundStart now) w) : BatchesHandled options w.shared.history :=
  have h := history_sound hrun
  ⟨h.offsets, h.truthful⟩

end Safety

/-! ## A pause, confirmed -/

section Confirming

variable [Host] (options : InboundOptions)

/-- a control command up to its confirmation -/
theorem handleMessage_asks {message : TelegramInboundCommandMessage} {command : ParsedTelegramInboundCommand}
    (hcommanded : Commanded options message command) (hscope : command.scope = .control) (key : String) :
    ∃ noted, handleMessage options message = .awaiting (.record message command) noted ∧
      ∃ event audited, noted (.ok ⟨key, false⟩) = .awaiting (.appendEvent event) audited ∧
        ∃ handling, handling.message = message ∧ audited (.ok ()) = handleControlCommand options handling command := by
  unfold handleMessage
  simp only [hcommanded.parsed, hcommanded.authorized]
  refine ⟨_, rfl, _, _, rfl, ⟨message, .parsed command, .authorized, some ⟨key, false⟩⟩, rfl, ?_⟩
  simp only [settle, andThen, rescue, pure_def, if_true]
  unfold handleAudited
  simp only [hscope]
  rfl

omit [Host] in
/-- what follows the confirmation: the prompt of a first message, the action of a second -/
theorem handleControlCommand_asks {handling : InboundHandling} {message : TelegramInboundCommandMessage}
    (hmessage : handling.message = message) (command : ParsedTelegramInboundCommand) :
    ∃ answered, handleControlCommand options handling command = .awaiting (.confirm message command) answered ∧
      (∀ expiresAt, ∃ prompted, answered (.ok (.pending expiresAt)) =
        .awaiting (.sendReply message (.confirmationRequired command.name expiresAt)) prompted ∧
          ∃ result, prompted (.ok true) = .returned result) ∧
      ∀ confirmedAt first target, mapControlCommand command.name = some target →
        ∃ acted, answered (.ok (.confirmed confirmedAt first)) =
          .awaiting (.apply message command (controlRequest options message command target)) acted := by
  subst hmessage
  refine ⟨_, rfl, fun expiresAt => ⟨_, rfl, _, rfl⟩, fun confirmedAt first target htarget => ⟨?_, ?_⟩⟩
  rotate_left
  · simp only [settle, andThen, executeControlCommandSafely, htarget]
    rfl

end Confirming

section OneConfirmation

/-- a digest of zeros -/
@[reducible] def zeroDigest : HexDigest where
  sha256 _ := String.ofList (List.replicate 64 '0')
  length_sha256 _ := by rw [String.toList_ofList, List.length_replicate]

attribute [local instance] plainHost zeroDigest

/-- a chat with one owner -/
def ownerOptions : InboundOptions := ⟨⟨["1"], none⟩, none, none, false, defaultControlConfirmationTtlMs, none⟩

/-- `/pause`, sent by the owner -/
def pauseMessage (id : ℤ) : TelegramInboundCommandMessage :=
  ⟨id, id, "1", "/pause", "1970-01-01T00:00:00.000Z", none⟩

def pauseCommand : ParsedTelegramInboundCommand := ⟨.pause, .control, "/pause", none⟩

theorem pause_commanded (id : ℤ) : Commanded ownerOptions (pauseMessage id) pauseCommand := by
  refine ⟨?_, ?_⟩
  · have hsame : evaluateTelegramInboundAuthorization (pauseMessage id) ownerOptions.allowlist =
        evaluateTelegramInboundAuthorization (pauseMessage 1) ownerOptions.allowlist := rfl
    rw [hsame]
    decide +kernel
  · show parseTelegramInboundCommand "/pause" none = .parsed pauseCommand
    decide +kernel

def epoch : TimeValue := ⟨0, by norm_num, by norm_num⟩

/-- the batch has come -/
def sharedPolled : InboundShared :=
  InboundShared.polling ⟨[], InsertionMap.empty, epoch, fun _ => none, 0, []⟩ none
    (.ok (.ok [pauseMessage 1, pauseMessage 2] (some 3)))

def noteOf (shared : InboundShared) (id : ℤ) : InboundShared :=
  { shared with
    noted := createTelegramInboundCommandIdempotencyKey (pauseMessage id) pauseCommand :: shared.noted }

/-- the first command waits, and its prompt has arrived -/
def sharedPrompted : InboundShared :=
  InboundShared.replied ((noteOf sharedPolled 1).confirming ownerOptions (pauseMessage 1) pauseCommand) (pauseMessage 1)
    (.confirmationRequired .pause "1970-01-01T00:01:00.000Z") (.ok true)

theorem first_pends : (confirm ownerOptions.confirmationTtlMs (noteOf sharedPolled 1).now
    (noteOf sharedPolled 1).pending (pauseMessage 1) pauseCommand).1 = .ok (.pending "1970-01-01T00:01:00.000Z") := by
  decide +kernel

theorem second_is_new : createTelegramInboundCommandIdempotencyKey (pauseMessage 2) pauseCommand ∉
    sharedPrompted.noted := by
  decide +kernel

theorem second_confirms : (confirm ownerOptions.confirmationTtlMs sharedPrompted.now sharedPrompted.pending
    (pauseMessage 2) pauseCommand).1 = .ok (.confirmed "1970-01-01T00:00:00.000Z" 1) := by
  decide +kernel

/-- a message that is handled, and what follows it in its batch -/
def inBatch (message : TelegramInboundCommandMessage) (rest : List TelegramInboundCommandMessage)
    (program : Inbound TelegramInboundCommandHandleResult) : Inbound Unit := do
  let next ← tryCatch (do
    program >>= fun result => do
      let _ : Unit ← askPort (.push message result)
      handleUpdates ownerOptions rest
    return some 3) fun _ => return none
  ticks ownerOptions 0 next

/-- the first message: it is noted, audited, and its command waits -/
theorem first_waits : ∃ w result, Reaches (inboundEnvironment ownerOptions) (inboundStart epoch) w ∧
    w.running () = some (inBatch (pauseMessage 1) [pauseMessage 2] (.returned result)) ∧
    w.shared = sharedPrompted := by
  obtain ⟨noted, hfirst, event, audited, hnoted, handling, hmessage, haudited⟩ := handleMessage_asks ownerOptions
    (pause_commanded 1) rfl (createTelegramInboundCommandIdempotencyKey (pauseMessage 1) pauseCommand)
  obtain ⟨answered, hasks, hpending, -⟩ := handleControlCommand_asks ownerOptions hmessage pauseCommand
  obtain ⟨prompted, hprompts, result, hresult⟩ := hpending "1970-01-01T00:01:00.000Z"
  obtain ⟨polled, hticks, hpolled⟩ : ∃ polled, ticks ownerOptions 1 none = .awaiting (.getUpdates none) polled ∧
      polled (.ok (.ok [pauseMessage 1, pauseMessage 2] (some 3))) =
        inBatch (pauseMessage 1) [pauseMessage 2] (handleMessage ownerOptions (pauseMessage 1)) := ⟨_, rfl, rfl⟩
  obtain ⟨w₀, hrun₀, hrunning₀, hshared₀⟩ : ∃ w₀, Reaches (inboundEnvironment ownerOptions) (inboundStart epoch) w₀ ∧
      w₀.running () = some (.awaiting (.getUpdates none) polled) ∧
      w₀.shared = ⟨[], InsertionMap.empty, epoch, fun _ => none, 0, []⟩ := by
    rw [← hticks]
    exact ⟨_, .step .refl (.start () (ticks ownerOptions 1 none) _ rfl ⟨⟨1, rfl⟩, rfl⟩), rfl, rfl⟩
  obtain ⟨w₁, hrun₁, hrunning₁, hshared₁⟩ := hrun₀.next hrunning₀ (.ok (.ok [pauseMessage 1, pauseMessage 2] (some 3)))
    (hpolled.trans (congrArg _ hfirst)) (.getUpdates none _)
  rw [hshared₀] at hshared₁
  obtain ⟨w₂, hrun₂, hrunning₂, hshared₂⟩ := hrun₁.next hrunning₁
    (.ok ⟨createTelegramInboundCommandIdempotencyKey (pauseMessage 1) pauseCommand, false⟩)
    (congrArg (inBatch (pauseMessage 1) [pauseMessage 2]) hnoted)
    (.record _ _ _ (by rw [hshared₁]; exact List.not_mem_nil) (fun _ h => (Except.ok.inj h).symm))
  rw [hshared₁] at hshared₂
  obtain ⟨w₃, hrun₃, hrunning₃, hshared₃⟩ := hrun₂.next hrunning₂ (.ok ())
    (congrArg (inBatch (pauseMessage 1) [pauseMessage 2]) (haudited.trans hasks)) (.appendEvent _ _)
  have hnotes : w₃.shared = noteOf sharedPolled 1 := hshared₃.trans hshared₂
  have hpends : (confirm ownerOptions.confirmationTtlMs w₃.shared.now w₃.shared.pending (pauseMessage 1)
      pauseCommand).1 = .ok (.pending "1970-01-01T00:01:00.000Z") := by
    rw [hnotes]
    exact first_pends
  obtain ⟨w₄, hrun₄, hrunning₄, hshared₄⟩ := hrun₃.next hrunning₃ _
    (congrArg (inBatch (pauseMessage 1) [pauseMessage 2]) ((congrArg answered hpends).trans hprompts))
    (.confirm _ _)
  obtain ⟨w₅, hrun₅, hrunning₅, hshared₅⟩ := hrun₄.next hrunning₄ (.ok true)
    (congrArg (inBatch (pauseMessage 1) [pauseMessage 2]) hresult) (.sendReply _ _ _)
  refine ⟨w₅, result, hrun₅, hrunning₅, ?_⟩
  rw [hshared₅, hshared₄, hnotes]
  rfl

/-- the second message: its command is confirmed, and the kill switch is asked -/
theorem pause_acts : ∃ w, Reaches (inboundEnvironment ownerOptions) (inboundStart epoch) w ∧
    .acted (pauseMessage 2) pauseCommand ∈ w.shared.history := by
  obtain ⟨w₀, result, hrun₀, hrunning₀, hshared₀⟩ := first_waits
  obtain ⟨noted, hfirst, event, audited, hnoted, handling, hmessage, haudited⟩ := handleMessage_asks ownerOptions
    (pause_commanded 2) rfl (createTelegramInboundCommandIdempotencyKey (pauseMessage 2) pauseCommand)
  obtain ⟨answered, hasks, -, hconfirmed⟩ := handleControlCommand_asks ownerOptions hmessage pauseCommand
  obtain ⟨acted, hacts⟩ := hconfirmed "1970-01-01T00:00:00.000Z" 1 (.newOrdersBlocked, "operator_pause") rfl
  obtain ⟨pushed, hpushes, hpushed⟩ : ∃ pushed, inBatch (pauseMessage 1) [pauseMessage 2] (.returned result) =
      .awaiting (.push (pauseMessage 1) result) pushed ∧
      pushed (.ok ()) = inBatch (pauseMessage 2) [] (handleMessage ownerOptions (pauseMessage 2)) := ⟨_, rfl, rfl⟩
  rw [hpushes] at hrunning₀
  obtain ⟨w₁, hrun₁, hrunning₁, hshared₁⟩ := hrun₀.next hrunning₀ (.ok ()) (hpushed.trans (congrArg _ hfirst))
    (.push _ _)
  obtain ⟨w₂, hrun₂, hrunning₂, hshared₂⟩ := hrun₁.next hrunning₁
    (.ok ⟨createTelegramInboundCommandIdempotencyKey (pauseMessage 2) pauseCommand, false⟩)
    (congrArg (inBatch (pauseMessage 2) []) hnoted)
    (.record _ _ _ (by rw [hshared₁, hshared₀]; exact second_is_new) (fun _ h => (Except.ok.inj h).symm))
  obtain ⟨w₃, hrun₃, hrunning₃, hshared₃⟩ := hrun₂.next hrunning₂ (.ok ())
    (congrArg (inBatch (pauseMessage 2) []) (haudited.trans hasks)) (.appendEvent _ _)
  have hconfirms : (confirm ownerOptions.confirmationTtlMs w₃.shared.now w₃.shared.pending (pauseMessage 2)
      pauseCommand).1 = .ok (.confirmed "1970-01-01T00:00:00.000Z" 1) := by
    rw [hshared₃, hshared₂, hshared₁, hshared₀]
    exact second_confirms
  obtain ⟨w₄, hrun₄, hrunning₄, hshared₄⟩ := hrun₃.next hrunning₃ _
    (congrArg (inBatch (pauseMessage 2) []) ((congrArg answered hconfirms).trans hacts)) (.confirm _ _)
  obtain ⟨w₅, hrun₅, -, hshared₅⟩ := hrun₄.next hrunning₄ (.ok ()) rfl (.apply _ _ _ _)
  refine ⟨w₅, hrun₅, ?_⟩
  rw [hshared₅]
  exact List.mem_cons_self

theorem controls_safe_paused : ∃ history : List InboundEvent, .acted (pauseMessage 2) pauseCommand ∈ history ∧
    ControlsSafe ownerOptions history := by
  obtain ⟨w, hrun, hacted⟩ := pause_acts
  exact ⟨w.shared.history, hacted, controls_safe hrun⟩

theorem batches_handled_paused : ∃ history : List InboundEvent, .acted (pauseMessage 2) pauseCommand ∈ history ∧
    BatchesHandled ownerOptions history := by
  obtain ⟨w, hrun, hacted⟩ := pause_acts
  exact ⟨w.shared.history, hacted, batches_handled hrun⟩

end OneConfirmation

end SeeMirai.Telegram
