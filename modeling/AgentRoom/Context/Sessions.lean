import AgentRoom.Context.RuntimeSession

/-!
# The Codex adapter

`CodexAdapter.Execute` and its parser: how a delivery opens a session, what each
message of the app server does to the parser and to the stored binding, and the
session status the terminal event carries.

A message comes decoded: malformed ones are one case, and so are those the parser
answers or ignores whatever it has seen. The text of a refused resume comes
classified, as `isCodexSessionInUse` and `isCodexSessionMissingOrInvalid` do.

The Pi adapter, `PiAdapter.Execute`: the session a delivery opens, the native session it is run
in, and the binding it stores with the one terminal event that carries a session
status. Every failure is reported without one.
-/

namespace AgentRoom.Context

/-- `FileRuntimeSessionStore`: the bindings, by key. -/
abbrev SessionStore := Table RuntimeSessionKey RuntimeSessionBinding

/-- What loading a session leaves: the store, the binding found and whether one was found. -/
structure LoadedSession where
  store : SessionStore
  binding : RuntimeSessionBinding
  found : Bool

/-- `Load`, and `Delete` under the policy `start_new`. -/
def loadSession (store : SessionStore) (plan : RuntimeSessionPlan) : LoadedSession :=
  match store.get plan.key with
  | none => { store, binding := {}, found := false }
  | some binding =>
    if plan.resumePolicy = .startNew then
      { store := store.remove plan.key, binding := {}, found := false }
    else { store, binding, found := true }

/-- **`codexAppServerParser`**, as far as its session goes. -/
structure CodexParser where
  key : RuntimeSessionKey
  config : RuntimeConfig
  instruction : RunRequested
  bootstrapInstruction : RunRequested
  resumeId : Option NativeId
  resumeFailed : Bool
  threadId : NativeId
  turnId : NativeId
  reply : String
  complete : Bool
  failure : String
  binding : RuntimeSessionBinding
  contextCursor : Nat
  bootstrapContextCursor : Nat
  roomContextConsumption : Option RoomContextConsumption
  bootstrapRoomContextConsumption : Option RoomContextConsumption
  revisions : PromptRevisions
  bootstrapRevisions : PromptRevisions
  runId : RunId
  runtimeScopeId : String
  sessionDisposition : SessionDisposition

/-- The failures reported before the Codex process starts. -/
inductive OpenFailure where
  | sessionStateInvalid | resultEvidenceCursorGap | roomContextInvalid
  deriving DecidableEq

/-- The cursor a session reaches with a receipt. -/
def coverageCursor (contextCursor : Nat) (receipt : Option RoomContextConsumption) : Nat :=
  (receipt.map (·.coverageThroughSequence)).getD contextCursor

/-- The run a session is prompted with. -/
def promptFor (run : RunRequested) (loaded : LoadedSession) : RunRequested :=
  if loaded.found then contextDeltaForSession run loaded.binding else run

/-- `started`, or `resumed` when a binding was found. -/
def openDisposition (loaded : LoadedSession) : SessionDisposition :=
  if loaded.found then .resumed else .started

/-- **`Execute` up to the parser**: the store and the parser, or the failure. -/
def openCodex (agentRuntimeScopeId : RuntimeKind → RuntimeConfig → String) (store : SessionStore)
    (config : RuntimeConfig) (run : RunRequested) :
    SessionStore × Except OpenFailure CodexParser :=
  match planRuntimeSession agentRuntimeScopeId .codex config run with
  | .error _ => (store, .error .sessionStateInvalid)
  | .ok plan =>
    let loaded := loadSession store plan
    (loaded.store,
      if hasResultEvidenceCursorGap run loaded.binding then .error .resultEvidenceCursorGap
      else
        match prepareRoomContextForSession run {} .recreated,
            prepareRoomContextForSession (promptFor run loaded) loaded.binding
              (openDisposition loaded) with
        | .ok (bootstrapRun, bootstrapConsumption), .ok (promptRun, consumption) =>
          .ok
            { key := plan.key
              config
              instruction := promptRun
              bootstrapInstruction := bootstrapRun
              resumeId := if loaded.found then some loaded.binding.sessionId else none
              resumeFailed := false
              threadId := ""
              turnId := ""
              reply := ""
              complete := false
              failure := ""
              binding := loaded.binding
              contextCursor := coverageCursor plan.contextCursor consumption
              bootstrapContextCursor :=
                coverageCursor plan.contextCursor bootstrapConsumption
              roomContextConsumption := consumption
              bootstrapRoomContextConsumption := bootstrapConsumption
              revisions := promptRevisions promptRun
              bootstrapRevisions := promptRevisions bootstrapRun
              runId := run.runId
              runtimeScopeId := plan.scopeId
              sessionDisposition := openDisposition loaded }
        | _, _ => .error .roomContextInvalid)

/-! ## Messages -/

/-- Why a request was refused, by its text. -/
inductive RefusalKind where
  | sessionInUse | sessionMissingOrInvalid | other
  deriving DecidableEq

/-- A message of the app server. -/
inductive CodexMessage where
  | malformed
  /-- A request of the app server, refused whatever it asks. -/
  | request
  | refused (id : Nat) (kind : RefusalKind)
  | initialized
  | threadOpened (threadId : NativeId)
  | turnStarted (turnId : NativeId)
  | itemCompleted (threadId turnId : NativeId) (agentMessage : Bool) (text : String)
  | turnCompleted (threadId turnId : NativeId) (status error : String)
  | errorNotification (willRetry : Bool) (message : String)
  /-- Any other response or notification. -/
  | other

/-- What the Bridge writes to the app server. -/
inductive CodexRequest where
  | refusal
  | initialized
  | threadStart
  | threadResume (threadId : NativeId)
  | turnStart (threadId : NativeId) (input : RunRequested)

/-- The errors `consume` returns. -/
inductive CodexError where
  | sessionInUse | sessionResumeFailed | protocolInvalid
  deriving DecidableEq

/-- `strings.TrimSpace`. -/
def goTrim (text : String) : String :=
  String.ofList (((text.toList.dropWhile isGoSpace).reverse.dropWhile isGoSpace).reverse)

namespace CodexParser

def threadRequest (p : CodexParser) : CodexRequest :=
  match p.resumeId with
  | some threadId => .threadResume threadId
  | none => .threadStart

/-- `prepareReplacementThread`, the store apart. -/
def replaced (p : CodexParser) : CodexParser :=
  { p with
    resumeId := none
    resumeFailed := true
    instruction := p.bootstrapInstruction
    binding := {}
    revisions := p.bootstrapRevisions
    sessionDisposition := .recreated
    contextCursor :=
      if p.bootstrapRoomContextConsumption.isSome then p.bootstrapContextCursor
      else p.contextCursor
    roomContextConsumption :=
      if p.bootstrapRoomContextConsumption.isSome then p.bootstrapRoomContextConsumption
      else p.roomContextConsumption }

/-- The binding `saveSessionBinding` stores. -/
def savedBinding (p : CodexParser) (consumed : Bool) : RuntimeSessionBinding :=
  let binding := { p.binding with sessionId := p.threadId }
  if consumed then binding.consume p.contextCursor p.runId p.revisions else binding

/-- The parser and the store after one message, with what is written back. -/
structure Consumed where
  parser : CodexParser
  store : SessionStore
  requests : List CodexRequest
  error : Option CodexError

/-- `saveSessionBinding`. The store refuses a session without an id. -/
def saveSessionBinding (p : CodexParser) (store : SessionStore) (consumed stored : Bool)
    (requests : List CodexRequest) : Consumed :=
  if stored && !isGoBlank p.threadId then
    { parser := { p with binding := p.savedBinding consumed }
      store := store.put p.key (p.savedBinding consumed), requests, error := none }
  else { parser := p, store, requests := [], error := some .protocolInvalid }

/-- Nothing but an error. -/
def rejected (p : CodexParser) (store : SessionStore) (error : CodexError) : Consumed :=
  { parser := p, store, requests := [], error := some error }

/-- A notification of this thread, and of this turn once it has an id. -/
def isCurrent (p : CodexParser) (threadId turnId : NativeId) : Bool :=
  threadId = p.threadId && (p.turnId = "" || turnId = p.turnId)

/-- **`consume`.** `stored` says whether the store could write. -/
def consume (p : CodexParser) (store : SessionStore) (stored : Bool) : CodexMessage → Consumed
  | .malformed => p.rejected store .protocolInvalid
  | .request => { parser := p, store, requests := [.refusal], error := none }
  | .refused id kind =>
    if id = 2 ∧ p.resumeId.isSome ∧ !p.resumeFailed then
      match kind with
      | .sessionInUse =>
        if p.config.startNewOnConflict then
          { parser := p.replaced, store, requests := [p.replaced.threadRequest], error := none }
        else p.rejected store .sessionInUse
      | .other => p.rejected store .sessionResumeFailed
      | .sessionMissingOrInvalid =>
        if stored then
          { parser := p.replaced, store := store.remove p.key
            requests := [p.replaced.threadRequest], error := none }
        else p.rejected store .protocolInvalid
    else p.rejected store .protocolInvalid
  | .initialized =>
    { parser := p, store, requests := [.initialized, p.threadRequest], error := none }
  | .threadOpened threadId =>
    if threadId = "" then p.rejected store .protocolInvalid
    else
      saveSessionBinding { p with threadId } store false stored
        [.turnStart threadId p.instruction]
  | .turnStarted turnId =>
    if turnId = "" then p.rejected store .protocolInvalid
    else saveSessionBinding { p with turnId } store true stored []
  | .itemCompleted threadId turnId agentMessage text =>
    { parser :=
        if p.isCurrent threadId turnId && agentMessage && goTrim text ≠ "" then
          { p with reply := goTrim text }
        else p
      store, requests := [], error := none }
  | .turnCompleted threadId turnId status error =>
    if threadId = "" ∨ turnId = "" then p.rejected store .protocolInvalid
    else
      { parser :=
          if p.isCurrent threadId turnId then
            { p with
              complete := true
              failure :=
                if status = "completed" then p.failure
                else if isGoBlank error then status else error }
          else p
        store, requests := [], error := none }
  | .errorNotification willRetry message =>
    { parser := if willRetry then p else { p with failure := goTrim message }
      store, requests := [], error := none }
  | .other => { parser := p, store, requests := [], error := none }

def logicalSessionStatus (p : CodexParser) : RuntimeSession :=
  sessionStatus p.sessionDisposition p.binding.lastRoomSequence p.runtimeScopeId
    p.binding.resultEvidenceRevision p.roomContextConsumption

def acceptedLogicalSessionStatus (p : CodexParser) : Option RuntimeSession :=
  if p.binding.lastRunId = some p.runId then some p.logicalSessionStatus else none

end CodexParser

/-- How the loop over the app server's messages ended. -/
inductive LoopEnd where
  /-- The run's context was canceled, or its deadline passed. -/
  | canceled (deadline : Bool)
  | failed (error : CodexError)
  /-- The stream ended, or the turn is complete. -/
  | ended

/-- The terminal event of an execution, with its session status. -/
structure SessionReport where
  runId : RunId
  status : RuntimeStatus
  session : Option RuntimeSession

/-- **`Execute` after the loop.** `clarifies` tells a reply that is a clarification envelope. -/
def CodexParser.finish (clarifies : String → Bool) (p : CodexParser) (outcome : LoopEnd) :
    SessionReport :=
  let failedAfterAcceptance : SessionReport :=
    { runId := p.runId, status := .failed, session := p.acceptedLogicalSessionStatus }
  match outcome with
  | .canceled deadline =>
    { runId := p.runId, status := if deadline then .failed else .canceled
      session := p.acceptedLogicalSessionStatus }
  | .failed .sessionInUse | .failed .sessionResumeFailed =>
    { runId := p.runId, status := .failed, session := none }
  | .failed .protocolInvalid => failedAfterAcceptance
  | .ended =>
    if !p.complete then failedAfterAcceptance
    else if p.failure ≠ "" then failedAfterAcceptance
    else if p.reply = "" then failedAfterAcceptance
    else if 20000 < p.reply.utf8ByteSize then failedAfterAcceptance
    else
      { runId := p.runId
        status := if clarifies p.reply then .inputRequired else .completed
        session := some p.logicalSessionStatus }

/-! ## The Pi adapter -/

/-- An execution in progress. -/
structure PiExecution where
  key : RuntimeSessionKey
  binding : RuntimeSessionBinding
  nativeSessionId : NativeId
  prompt : RunRequested
  roomContextConsumption : Option RoomContextConsumption
  sessionDisposition : SessionDisposition
  contextCursor : Nat
  runtimeScopeId : String
  runId : RunId

/-- **`Execute` up to the process.** `piSessionId` digests the key and the Run's id. -/
def openPi (agentRuntimeScopeId : RuntimeKind → RuntimeConfig → String)
    (piSessionId : RuntimeSessionKey → RunId → NativeId) (store : SessionStore)
    (config : RuntimeConfig) (run : RunRequested) :
    SessionStore × Except OpenFailure PiExecution :=
  match planRuntimeSession agentRuntimeScopeId .pi config run with
  | .error _ => (store, .error .sessionStateInvalid)
  | .ok plan =>
    let loaded := loadSession store plan
    (loaded.store,
      if hasResultEvidenceCursorGap run loaded.binding then .error .resultEvidenceCursorGap
      else
        match prepareRoomContextForSession (promptFor run loaded) loaded.binding
            (openDisposition loaded) with
        | .ok (promptRun, consumption) =>
          .ok
            { key := plan.key
              binding := loaded.binding
              nativeSessionId :=
                if loaded.found then loaded.binding.sessionId
                else piSessionId plan.key run.runId
              prompt := promptRun
              roomContextConsumption := consumption
              sessionDisposition := openDisposition loaded
              contextCursor := plan.contextCursor
              runtimeScopeId := plan.scopeId
              runId := run.runId }
        | .error _ => .error .roomContextInvalid)

namespace PiExecution

/-- The binding a successful execution stores. -/
def savedBinding (e : PiExecution) : RuntimeSessionBinding :=
  { e.binding with sessionId := e.nativeSessionId }.consume
    (coverageCursor e.contextCursor e.roomContextConsumption) e.runId (promptRevisions e.prompt)

/-- How the process ended. -/
inductive Outcome where
  /-- Canceled, over its deadline, over a limit, failed or without a usable reply. -/
  | failed (canceled : Bool)
  | replied (reply : String)

/-- **`Execute` after the process.** `stored` says whether the store could write. -/
def finish (clarifies : String → Bool) (e : PiExecution) (store : SessionStore) (stored : Bool) :
    Outcome → SessionStore × SessionReport
  | .failed canceled =>
    (store, { runId := e.runId, status := if canceled then .canceled else .failed
              session := none })
  | .replied reply =>
    if stored && !isGoBlank e.nativeSessionId then
      (store.put e.key e.savedBinding,
        { runId := e.runId
          status := if clarifies reply then .inputRequired else .completed
          session := some (sessionStatus e.sessionDisposition e.savedBinding.lastRoomSequence
            e.runtimeScopeId e.savedBinding.resultEvidenceRevision e.roomContextConsumption) })
    else (store, { runId := e.runId, status := .failed, session := none })

end PiExecution

end AgentRoom.Context
