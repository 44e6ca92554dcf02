import AgentRoom.Lib.Proc
import AgentRoom.Bridge.Inbox

/-!
# The Runtime executor

`RuntimeExecutor`: it runs the Agent adapter of an admitted Run and persists each
event before it sends it, reports what never ran, replays what was persisted, and
recovers the records a restart finds. Each function is a program over the inbox,
the socket, the Artifact materializer and the adapter.
-/

namespace AgentRoom.Bridge

/-- A failed preparation; `IsPrepareRetryable`. -/
structure PrepareFailure where
  failure : Failure
  retryable : Bool

inductive Op where
  | inbox (op : InboxOp)
  | send (value : Outgoing)
  /-- `Materialize`. -/
  | prepare (request : RunRequest)
  /-- `RuntimeArtifacts`, with `ValidateArtifactAliases`. -/
  | resolveArtifacts (request : RunRequest)
  /-- `IsExplicitCancel(ctx)` of the Run's context. -/
  | explicitCancel (runId : String)
  /-- `Gate.Acquire`: whether the gate was taken before the context ended. -/
  | acquire (agentId : String)
  /-- `adapter.Execute` starts; the response is how many events it will emit. -/
  | startRuntime (runId : String)
  /-- The adapter's next event, after the one numbered `sequence`. -/
  | runtimeEvent (runId : String) (artifacts : List ArtifactAlias) (sequence : Nat)
  /-- What `adapter.Execute` returns. -/
  | runtimeReturn (runId : String)

@[reducible] def Op.Resp : Op → Type
  | .inbox op => Except Failure op.Result
  | .send _ => Except Failure Unit
  | .prepare _ => Except PrepareFailure (List Json)
  | .resolveArtifacts _ => Except Failure (List ArtifactAlias)
  | .explicitCancel _ => Bool
  | .acquire _ => Bool
  | .startRuntime _ => Nat
  | .runtimeEvent .. => RuntimeEvent
  | .runtimeReturn _ => Option Failure

def bridgeInterface : Interface where
  Op := Op
  Resp := Op.Resp

abbrev Prog (α : Type) := Proc bridgeInterface Failure α

/-- An inbox operation, failing as it fails. -/
def inbox (op : InboxOp) : Prog op.Result := .call (.inbox op) fun r => .ofExcept r

def send (value : Outgoing) : Prog Unit := .call (.send value) fun r => .ofExcept r

def explicitCancel (runId : String) : Prog Bool := .call (.explicitCancel runId) fun r => .ret r

def acquire (agentId : String) : Prog Bool := .call (.acquire agentId) fun r => .ret r

def prepare (request : RunRequest) : Prog (Except PrepareFailure (List Json)) :=
  .call (.prepare request) fun r => .ret r

def fail {α : Type} (message : String) : Prog α := .fail (.error message)

/-- Where a function hands its messages: the socket, or a list its caller sends later. -/
abbrev Sender := List Outgoing → Prog Unit

def toSocket : Sender := Proc.forEach send

def collect : Sender := fun _ => .ret ()

/-! ## Redaction -/

mutual

def redactRuntimeDetail (redact : String → String) : Json → Json
  | .str s => .str (redact s)
  | .obj fields => .obj (redactRuntimeDetailMap redact fields)
  | .arr items => .arr (redactRuntimeDetails redact items)
  | .null => .null
  | .bool b => .bool b
  | .num q => .num q

def redactRuntimeDetails (redact : String → String) : List Json → List Json
  | [] => []
  | item :: items => redactRuntimeDetail redact item :: redactRuntimeDetails redact items

def redactRuntimeDetailMap (redact : String → String) :
    List (String × Json) → List (String × Json)
  | [] => []
  | (key, value) :: fields =>
    (redact key, redactRuntimeDetail redact value) :: redactRuntimeDetailMap redact fields

end

def redactRuntimeError (redact : String → String) (error : WireError) : WireError :=
  { error with
    message := redact error.message
    details := error.details.map (redactRuntimeDetailMap redact) }

def redactRuntimeClarification (redact : String → String)
    (clarification : TaskClarificationRequest) : TaskClarificationRequest where
  question := redact clarification.question
  choices := clarification.choices.map (·.map redact)

def redactRuntimeAssessment (redact : String → String) (assessment : AgentAssessment) :
    AgentAssessment :=
  { assessment with
    newEvidenceRefs := assessment.newEvidenceRefs.map (·.map redact)
    openQuestions := assessment.openQuestions.map (·.map fun q =>
      { q with id := redact q.id, question := redact q.question })
    resolvedQuestionIds := assessment.resolvedQuestionIds.map (·.map redact) }

namespace RuntimeExecutor

variable (config : Config)

/-! ## Replay -/

/-- `privateReasoningReplay`: the sequence stays, the content does not. -/
def privateReasoningReplay : OutboxMessage → OutboxMessage
  | .activity m =>
    if m.kind = "reasoning" then
      .activity { m with
        activityId := "private-activity-" ++ toString m.sequence
        label := some "Summary sharing disabled", content := none, reset := none }
    else .activity m
  | m => m

/-- The persisted events checked by `validateRecoveryRecord`, from the one at `index`. -/
def validateEvents (record : Record) (index : Nat) : List OutboxMessage → Except Failure Unit
  | [] => pure ()
  | event :: events =>
    if event.identity.runId ≠ record.runId then
      throw (.error ("persisted Run event " ++ toString index ++
        " has a mismatched Run identity"))
    else if isContractTraceID event.identity.traceId = false ∨
        event.identity.traceId ≠ record.request.traceId then
      throw (.error ("persisted Run event " ++ toString index ++
        " has incompatible trace metadata"))
    else validateEvents record (index + 1) events

def validateRecoveryRecord (record : Record) : Except Failure Unit :=
  if isContractRunID record.runId = false ∨ record.request.runId ≠ record.runId then
    throw (.error "request Run identity does not match inbox record")
  else if isContractTraceID record.request.traceId = false then
    throw (.error "request trace identity is invalid")
  else validateEvents record 0 record.events

/-- What a replay of the record sends after its acceptance. -/
def replayEvents (record : Record) : List Outgoing :=
  record.events.map fun event =>
    .event (if config.shareReasoningSummaries then event else privateReasoningReplay event)

/-- **`Replay`.** It returns what it handed to the sender. -/
def replay (runId : String) (sender : Sender) : Prog (List Outgoing) := do
  let latest ← inbox (.get runId)
  Proc.ofExcept (validateRecoveryRecord latest)
  sender (replayEvents config latest)
  pure (replayEvents config latest)

/-! ## Terminal reports without a Runtime -/

def clearTerminalCancellationFence (request : RunRequest) : Prog Unit := do
  let record ← inbox (.get request.runId)
  if isCancellationTerminalState record.state then
    let staged ← inbox (.hasCancellation request)
    if staged then inbox (.clearCancellation request.runId) else pure ()
  else pure ()

def statusMessage (record : Record) (sequence : Nat) (status : RunExecutionStatus)
    (error : Option WireError) : OutboxMessage :=
  .status { identity := record.request.identity, sequence, status, error }

/-- Persist the cancellation of a record that is not terminal, and hand it over. -/
def persistCanceled (latest : Record) (sender : Sender) : Prog (List Outgoing) := do
  let message := statusMessage latest (latest.lastSequence + 1) .canceled none
  let updated ← inbox (.appendEvent latest.runId .canceled (latest.lastSequence + 1) message)
  if latest.state = .accepted then
    sender [.event message]
    pure [.event message]
  else replay config updated.runId sender

/-- **`CancelQueued`.** -/
def cancelQueued (record : Record) (sender : Sender) : Prog (List Outgoing) := do
  let latest ← inbox (.get record.runId)
  if isCancellationTerminalState latest.state then replay config latest.runId sender
  else if latest.state = .preparing then
    let latest ← inbox (.transitionLocalState latest.runId .preparing .accepted)
    persistCanceled config latest sender
  else if latest.state = .accepted ∨ latest.state = .working ∨ latest.state = .inputRequired then
    persistCanceled config latest sender
  else fail ("Run cannot be canceled before admission: " ++ latest.state.text)

/-- **`failBeforeRuntime`.** -/
def failBeforeRuntime (record : Record) (sender : Sender) (code messageText : String) :
    Prog (List Outgoing) := do
  let latest ← inbox (.get record.runId)
  if isTerminalState latest.state then replay config latest.runId sender
  else
    let message := statusMessage latest (latest.lastSequence + 1) .failed
      (some { code, message := messageText, retryable := false })
    let _ ← inbox (.appendEvent latest.runId .failed (latest.lastSequence + 1) message)
    sender [.event message]
    clearTerminalCancellationFence record.request
    pure [.event message]

def failMaterialization (record : Record) (sender : Sender) : Prog (List Outgoing) :=
  failBeforeRuntime config record sender "ARTIFACT_MATERIALIZATION_FAILED"
    "Pinned Artifact content could not be verified in isolated staging."

/-- **`emitUnknown`.** -/
def emitUnknown (record : Record) (code : String) : Prog Unit := do
  let message := statusMessage record (record.lastSequence + 1) .outcomeUnknown
    (some { code, message := "Runtime outcome could not be determined.", retryable := false })
  let _ ← inbox (.appendEvent record.runId .outcomeUnknown (record.lastSequence + 1) message)
  send (.event message)
  clearTerminalCancellationFence record.request

/-! ## Running the adapter -/

/-- `discussionSupplementalEvidenceMessage`. -/
def supplementalMessage (record : Record) (offer : SupplementalOffer) (replySequence : Nat) :
    SupplementalMessage where
  identity := record.request.identity
  operationId := offer.operationId
  discussionId := offer.discussionId
  waveId := offer.waveId
  turnId := offer.turnId
  sourceReplySequence := replySequence

/-- The variables of one `executeAdapter` call. -/
structure Emitting where
  sequence : Nat
  lastReplySequence : Nat
  currentState : State

/-- The summaries the Bridge's owner does not share. -/
def withheld (event : RuntimeEvent) : Bool :=
  event.status.isNone && event.activity.any (·.kind = "reasoning") &&
    !config.shareReasoningSummaries

/-- The checks on an activity, after redaction. -/
def validActivity (redact : String → String) (activity : Activity) : Bool :=
  redact activity.id ≠ "" && (redact activity.id).length ≤ 160 &&
    (activity.kind = "reasoning" || activity.kind = "tool") &&
    (activity.phase = "started" || activity.phase = "updated" || activity.phase = "completed" ||
      activity.phase = "failed") &&
    (redact activity.label).length ≤ 120 && (redact activity.content).length ≤ 4000

def nonEmpty (value : String) : Option String := if value = "" then none else some value

def emittedStatus (record : Record) (redact : String → String) (sequence : Nat)
    (status : RunExecutionStatus) (event : RuntimeEvent) : OutboxMessage :=
  .status
    { identity := record.request.identity, sequence, status
      error := event.error.map (redactRuntimeError redact), session := event.session
      clarification := event.clarification.map (redactRuntimeClarification redact) }

def emittedActivity (record : Record) (redact : String → String) (sequence : Nat)
    (activity : Activity) : OutboxMessage :=
  .activity
    { identity := record.request.identity, sequence, activityId := redact activity.id
      kind := activity.kind, phase := activity.phase, label := nonEmpty (redact activity.label)
      content := nonEmpty (redact activity.content)
      reset := if activity.reset then some true else none }

def emittedOutput (record : Record) (redact : String → String) (sequence : Nat)
    (output : OutputDelta) : OutboxMessage :=
  .output
    { identity := record.request.identity, sequence, content := redact output.content
      reset := if output.reset then some true else none }

def emittedReply (record : Record) (redact : String → String) (sequence : Nat)
    (event : RuntimeEvent) : OutboxMessage :=
  .reply
    { identity := record.request.identity, sequence, content := redact event.reply
      assessment := event.assessment.map (redactRuntimeAssessment redact) }

def persistAndSend (record : Record) (state : State) (sequence : Nat) (message : OutboxMessage) :
    Prog Unit := do
  let _ ← inbox (.appendEvent record.runId state sequence message)
  send (.event message)

/-- A status event: after a completion, the supplemental evidence follows the last reply. -/
def emitStatus (record : Record) (s : Emitting) (message : OutboxMessage) : Prog Unit := do
  let _ ← inbox (.appendEvent record.runId s.currentState s.sequence message)
  match record.request.supplementalOffer with
  | none => send (.event message)
  | some offer =>
    if s.currentState = .completed ∧ 0 < s.lastReplySequence then
      let value := supplementalMessage record offer s.lastReplySequence
      let _ ← inbox (.appendSupplementalEvidence record.runId value)
      send (.event message)
      send (.event (.supplemental value))
    else send (.event message)

/-- **The emit callback.** The adapter sees its error and goes on as it likes: only the variables
of `executeAdapter` remain. -/
def emit (record : Record) (artifacts : List ArtifactAlias) (s : Emitting)
    (event : RuntimeEvent) : Prog Emitting :=
  if withheld config event then pure s
  else
    let redact := config.redactRuntimeText artifacts
    let s := { s with sequence := s.sequence + 1 }
    match event.status with
    | some status => do
        let s := { s with currentState := stateForStatus status }
        let _ ← (emitStatus record s (emittedStatus record redact s.sequence status event)).attempt
        pure s
    | none =>
      match event.activity with
      | some activity => do
          if validActivity redact activity then
            let _ ← (persistAndSend record s.currentState s.sequence
              (emittedActivity record redact s.sequence activity)).attempt
            pure s
          else pure s
      | none =>
        match event.output with
        | some output => do
            if output.content = "" then pure s
            else
              let _ ← (persistAndSend record s.currentState s.sequence
                (emittedOutput record redact s.sequence output)).attempt
              pure s
        | none => do
            if event.reply = "" then pure s
            else
              let message := emittedReply record redact s.sequence event
              let persisted ← (inbox (.appendEvent record.runId s.currentState s.sequence
                message)).attempt
              match persisted with
              | .error _ => pure s
              | .ok _ =>
                let _ ← (send (.event message)).attempt
                pure { s with lastReplySequence := s.sequence }

/-- The adapter's events, as many as it emits. -/
def emissions (record : Record) (artifacts : List ArtifactAlias) : Nat → Emitting → Prog Unit
  | 0, _ => pure ()
  | n + 1, s => .call (.runtimeEvent record.runId artifacts s.sequence) fun event =>
    (emit config record artifacts s event).bind fun s => emissions record artifacts n s

/-- After `adapter.Execute` returned. -/
def afterRuntime (record : Record) : Option Failure → Prog Unit
  | none => clearTerminalCancellationFence record.request
  | some err => do
      let latest ← inbox (.get record.runId)
      -- a persisted result stays; its error makes the connection replay it
      if isTerminalState latest.state then .fail err
      else emitUnknown latest "RUNTIME_EXECUTION_UNKNOWN"

/-- **`executeAdapter`.** `adapters` are the Agents with an adapter. -/
def executeAdapter (adapters : List String) (record : Record) : Prog Unit :=
  .call (.resolveArtifacts record.request) fun resolved =>
    match resolved with
    | .error _ => do
        let _ ← failBeforeRuntime config record toSocket "ARTIFACT_RUNTIME_ALIAS_INVALID"
          "Verified Artifact aliases could not be admitted to the Runtime."
        pure ()
    | .ok artifacts =>
      if record.request.targetAgentId ∉ adapters then
        emitUnknown record "RUNTIME_ADAPTER_MISSING"
      else
        .call (.startRuntime record.runId) fun count => do
          emissions config record artifacts count
            { sequence := record.lastSequence, lastReplySequence := 0
              currentState := record.state }
          .call (.runtimeReturn record.runId) fun err => afterRuntime record err

/-- **`Execute`.** -/
def execute (adapters : List String) (record : Record) : Prog Unit :=
  if record.request.governed then
    fail "governed execution requires a supported local admission implementation"
  else executeAdapter config adapters record

end RuntimeExecutor

end AgentRoom.Bridge
