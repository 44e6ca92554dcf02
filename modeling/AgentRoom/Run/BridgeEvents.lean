import AgentRoom.Run.Delivery

/-!
# Events a Bridge reports, and what else moves its Runs

`BridgeRunEventService`: it checks who reports, the sequence and the payload of
an event before the repository applies it. The repository's answer to a stale
event, or to one after a terminal state, is a quiet `applied := false`; every
throw here closes the socket.

The callers of the repository that are not event reports: `CancellationService`
sends a pending cancellation to its frozen Device, `DeviceRevocationService`
ends the Runs of a revoked Device, and `dispatchRun` dispatches a Run its caller
read some time before.
-/

namespace AgentRoom

/-- What identifies a reported event: the Run, and who reports. -/
structure ReportIdentity where
  runId : RunId
  traceId : TraceId
  agentId : AgentId

/-- `input.error` of a status report, its details still untyped. -/
structure ReportedError where
  code : String
  message : String
  retryable : Bool
  details : Option Json := none

structure StatusInput where
  identity : ReportIdentity
  sequence : Nat
  status : RuntimeStatus
  error : Option ReportedError := none
  session : Option RuntimeSession := none
  clarification : Option TaskClarificationRequest := none

structure ReplyInput where
  identity : ReportIdentity
  sequence : Nat
  content : String
  assessment : Option Json := none

structure ActivityInput where
  identity : ReportIdentity
  sequence : Nat
  activityId : String
  kind : ActivityKind
  phase : ActivityPhase
  label : Option String := none
  content : Option String := none
  reset : Option Bool := none

structure OutputInput where
  identity : ReportIdentity
  sequence : Nat
  content : String
  reset : Option Bool := none

/-- `terminalStatuses`: what a Bridge can end a Run with. -/
def RuntimeStatus.bridgeTerminal : RuntimeStatus → Bool
  | .completed | .failed | .canceled | .outcomeUnknown => true
  | .delivered | .working | .inputRequired | .expired => false

/-- `bridgeStatuses`. -/
def RuntimeStatus.fromBridge : RuntimeStatus → Bool
  | .working | .inputRequired | .completed | .failed | .canceled | .outcomeUnknown => true
  | .delivered | .expired => false

open RunRepository DeliveryService

namespace BridgeRunEventService

/-- `correctDevice`: the frozen owner of the cancellation, or else the Agent's current Device. -/
def correctDevice (cancellation : Option RunCancellationIntent) (agent : AgentRecord)
    (agentId : AgentId) (principal : DevicePrincipal) : Bool :=
  match cancellation with
  | some intent => intent.agentId = agentId && intent.deviceId = principal.deviceId
  | none => agent.deviceId = some principal.deviceId

/-- The intent that decides who may report: only a terminal report looks at it. -/
def frozenIntent (db : Central) (identity : ReportIdentity) (terminalStatus : Bool) :
    Option RunCancellationIntent :=
  if terminalStatus then db.cancellationIntents.get identity.runId else none

/-- **`requireOwnedRun`.** A terminal report of a Run with a cancellation intent must come from
the Device frozen in the intent; any other report from the Agent's current Device. -/
def requireOwnedRun (principal : DevicePrincipal) (identity : ReportIdentity)
    (terminalStatus : Bool) : Db RunRecord := do
  let db ← get
  let cancellation := frozenIntent db identity terminalStatus
  match db.runs.get identity.runId, db.agents.get identity.agentId with
  | some run, some agent =>
    if run.traceId ≠ identity.traceId ∨ run.targetAgentId ≠ identity.agentId ∨
        correctDevice cancellation agent identity.agentId principal = false ∨
        agent.ownerMemberId ≠ principal.ownerMemberId ∨ agent.teamId ≠ principal.teamId then
      throw "Run event identity mismatch"
    else pure run
  | _, _ => throw "Run event identity mismatch"

def validateSequence (sequence : Nat) : Except Err Unit :=
  if !isSafeInteger sequence ∨ sequence < 2 then
    throw "Run event sequence must be an integer greater than 1"
  else pure ()

/-- Run a check and throw what it throws. -/
def require (check : Except Err Unit) : Db Unit :=
  match check with
  | .ok () => pure ()
  | .error e => throw e

/-- `preAdmissionCancellationAck`: the only report that may carry sequence 1. -/
def preAdmissionCancellationAck (run : RunRecord) (cancellation : Option RunCancellationIntent)
    (input : StatusInput) : Bool :=
  input.status = .canceled && input.sequence = 1 &&
    ((run.state = .queued && cancellation.any (·.state = .pending)) ||
      (run.state = .canceled &&
        cancellation.any fun c => c.state = .resolved && c.terminalStatus = some .canceled))

def validateError (error : ReportedError) : Except Err Unit :=
  if !runtimeErrorCodePattern error.code || isBlank error.message ||
      exceedsUnicodeCodePointLimit error.message 512 then
    throw "Invalid Runtime error"
  else pure ()

/-- The checks on `input.session`, against the trigger message and the frozen delivery. -/
def validateSession (db : Central) (run : RunRecord) (session : RuntimeSession) :
    Except Err Unit := do
  let trigger := db.messages.get run.triggerMessageId
  let agent := db.agents.get run.targetAgentId
  let hasEvidenceCursor :=
    session.runtimeScopeId.isSome || session.resultEvidenceRevision.isSome
  let invalidEvidenceCursor := match session.runtimeScopeId, session.resultEvidenceRevision with
    | some scope, some revision =>
      !runtimeScopePattern scope || !isSafeInteger revision || agent.isNone ||
        runtimeScope db run.runId ≠ some scope
    | _, _ => true
  let invalidCursor := match trigger with
    | none => true
    | some trigger =>
      session.roomContextConsumption.isNone && trigger.sequence < session.contextCursor
  if !isSafeInteger session.contextCursor || invalidCursor ||
      (hasEvidenceCursor && invalidEvidenceCursor) then
    throw "Invalid logical Runtime session status"
  else
    match session.roomContextConsumption with
    | none => pure ()
    | some receipt =>
      validateRoomContextConsumption db run.runId session.disposition session.contextCursor
        receipt

def validateClarification (run : RunRecord) (input : StatusInput)
    (clarification : TaskClarificationRequest) : Except Err Unit :=
  let choices := clarification.choices.getD []
  if input.status ≠ .inputRequired ∨ isBlank clarification.question ∨
      exceedsUnicodeCodePointLimit clarification.question 2000 ∨
      (clarification.choices.isSome ∧ choices.length < 2) ∨ 8 < choices.length ∨
      choices.any (fun choice => isBlank choice || exceedsUnicodeCodePointLimit choice 240) ∨
      ¬ choices.Nodup ∨ input.error.isSome ∨ run.orchestrationKey.isSome then
    throw "Invalid Task clarification status"
  else pure ()

/-! ## Result-evidence cursors -/

/-- `ResultEvidenceConsumptionRepository.validateAcknowledgement`. -/
def validateAcknowledgement (db : Central) (run : RunRecord) (scope : String) (revision : Nat) :
    Except Err Unit :=
  let current := (db.evidenceConsumption.get (run.taskId, run.targetAgentId, scope)).getD 0
  if revision ≤ current then pure ()
  else
    match db.deliveries.get run.runId with
    | none => throw "Result-evidence acknowledgement has no durable delivery"
    | some delivery =>
      if delivery.payload.session.runtimeScopeId ≠ some scope ∨
          delivery.payload.contextPlan.resultEvidence.map (·.throughRevision) ≠ some revision then
        throw "Result-evidence acknowledgement exceeds its delivered page"
      else pure ()

/-- The evidence cursor a session reports, when it reports both halves of it. -/
def evidenceCursor (session : Option RuntimeSession) : Option (String × Nat) := do
  let session ← session
  let scope ← session.runtimeScopeId
  let revision ← session.resultEvidenceRevision
  some (scope, revision)

/-- `ResultEvidenceConsumptionRepository.acknowledge`. -/
def acknowledge (run : RunRecord) (scope : String) (revision : Nat) : Db Unit := do
  let db ← get
  let key := (run.taskId, run.targetAgentId, scope)
  if revision ≤ (db.evidenceConsumption.get key).getD 0 then pure ()
  else
    require (validateAcknowledgement db run scope revision)
    let advanced := max ((db.evidenceConsumption.get key).getD 0) revision
    set { db with evidenceConsumption := db.evidenceConsumption.put key advanced }

/-- `core.updateAgentPresence`. -/
def updateAgentPresence (agentId : AgentId) (presence : Presence) : Db Unit :=
  modify fun db => match db.agents.get agentId with
    | some agent => { db with agents := db.agents.put agentId { agent with presence } }
    | none => db

variable (services : Services)

/-- The clarification as it is stored: trimmed and redacted. -/
def storedClarification (clarification : TaskClarificationRequest) : TaskClarificationRequest :=
  { question := services.redactSensitiveText (trim clarification.question)
    choices := clarification.choices.map fun choices =>
      choices.map fun choice => services.redactSensitiveText (trim choice) }

/-- The status event a valid report becomes. -/
def statusEvent (input : StatusInput) : StatusEvent where
  sequence := input.sequence
  status := input.status
  error := input.error.map fun e =>
    { code := e.code, message := e.message, retryable := e.retryable
      details := safeRuntimeFailureDetails e.details }
  session := input.session
  clarification := input.clarification.map (storedClarification services)

/-- The sequence a report may carry, which depends on the Run's cancellation. -/
def validateStatusSequence (db : Central) (run : RunRecord) (input : StatusInput) :
    Except Err Unit :=
  if preAdmissionCancellationAck run (db.cancellationIntents.get run.runId) input then pure ()
  else validateSequence input.sequence

/-- Run a check on a value, if there is one. -/
def checkSome {α : Type} (value : Option α) (check : α → Except Err Unit) : Except Err Unit :=
  match value with
  | some a => check a
  | none => pure ()

def validateStatusKind (status : RuntimeStatus) : Except Err Unit :=
  if status.fromBridge then pure ()
  else throw ("Bridge cannot emit Run status: " ++ stateText status.toRunState)

/-- The checks on a report that do not depend on where the Run is in its life. -/
def validateReport (db : Central) (run : RunRecord) (input : StatusInput) : Except Err Unit := do
  validateStatusKind input.status
  checkSome input.error validateError
  checkSome input.session (validateSession db run)
  checkSome input.clarification (validateClarification run input)
  checkSome (evidenceCursor input.session) fun cursor =>
    validateAcknowledgement db run cursor.1 cursor.2

/-- **`applyStatus`.** -/
def applyStatus (principal : DevicePrincipal) (input : StatusInput) (now : Time) :
    Db AppliedRunEvent := do
  let run ← requireOwnedRun principal input.identity input.status.bridgeTerminal
  require (validateStatusSequence (← get) run input)
  require (validateReport (← get) run input)
  let applied ← applyEvent run.runId (.status (statusEvent services input)) now
  Tx.when applied.applied
    (updateAgentPresence run.targetAgentId
      (if input.status.bridgeTerminal ∨ input.status = .inputRequired then .ready else .busy))
  Tx.whenSome (evidenceCursor input.session) fun cursor => acknowledge run cursor.1 cursor.2
  pure applied

/-- The assessment as it is stored. -/
def storedAssessment (assessment : AgentAssessment) : AgentAssessment :=
  { assessment with
    openQuestions := assessment.openQuestions.map fun questions =>
      questions.map fun q => { q with question := services.redactSensitiveText q.question }
    newEvidenceRefs := assessment.newEvidenceRefs.map fun refs =>
      refs.map services.redactSensitiveText }

def validateReplyContent (content : String) : Except Err Unit :=
  if isBlank content || exceedsUnicodeCodePointLimit content 20000 then
    throw "Runtime reply must contain 1 to 20000 characters"
  else pure ()

/-- **`applyReply`.** -/
def applyReply (principal : DevicePrincipal) (input : ReplyInput) (now : Time) :
    Db AppliedRunEvent := do
  let run ← requireOwnedRun principal input.identity false
  require (validateSequence input.sequence)
  require (validateReplyContent input.content)
  RunRepository.applyReply run.runId
    { sequence := input.sequence, content := services.redactSensitiveText input.content
      assessment := (parseAgentAssessment input.assessment).map (storedAssessment services) } now

/-- A label or content that is present is neither blank nor over its limit. -/
def validActivityText (text : Option String) (maximum : Nat) : Bool :=
  match text with
  | none => true
  | some t => !isBlank t && !exceedsUnicodeCodePointLimit t maximum

def validateActivity (input : ActivityInput) : Except Err Unit :=
  if isBlank input.activityId || exceedsUnicodeCodePointLimit input.activityId 160 ||
      !validActivityText input.label 120 || !validActivityText input.content 4000 then
    throw "Invalid Runtime activity"
  else pure ()

/-- **`applyActivity`.** -/
def applyActivity (principal : DevicePrincipal) (input : ActivityInput) (now : Time) :
    Db AppliedRunEvent := do
  let run ← requireOwnedRun principal input.identity false
  require (validateSequence input.sequence)
  require (validateActivity input)
  applyEvent run.runId (.activity
    { sequence := input.sequence, activityId := input.activityId, kind := input.kind
      phase := input.phase, label := input.label.map services.redactSensitiveText
      content := input.content.map services.redactSensitiveText
      reset := input.reset = some true }) now

/-- The provisional output so far: what was streamed since the last reply or reset. -/
def currentOutput (events : List RunEventRecord) : String :=
  events.foldl (fun content record => match record.event with
    | .reply _ => ""
    | .output e => if e.reset then e.content else content ++ e.content
    | .status _ | .activity _ => content) ""

def validateOutputContent (content : String) : Except Err Unit :=
  if content.isEmpty || exceedsUnicodeCodePointLimit content 20000 then
    throw "Runtime output delta must contain 1 to 20000 characters"
  else pure ()

/-- `nextOutput`: a reset starts the provisional output over. -/
def nextOutput (reset : Option Bool) (current safeContent : String) : String :=
  if reset = some true then safeContent else current ++ safeContent

/-- **`applyOutput`.** The length of the whole output is only checked for an event that would be
applied. -/
def applyOutput (principal : DevicePrincipal) (input : OutputInput) (now : Time) :
    Db AppliedRunEvent := do
  let run ← requireOwnedRun principal input.identity false
  require (validateSequence input.sequence)
  require (validateOutputContent input.content)
  let current := currentOutput ((← get).listEvents run.runId)
  let safeContent := services.redactSensitiveText input.content
  let event : RuntimeEvent := .output
    { sequence := input.sequence, content := safeContent, reset := input.reset = some true }
  if input.sequence ≤ run.lastSequence ∨ run.state.terminal then
    applyEvent run.runId event now
  else if exceedsUnicodeCodePointLimit (nextOutput input.reset current safeContent) 20000 then
    throw "Runtime provisional output exceeds 20000 characters"
  else applyEvent run.runId event now

end BridgeRunEventService

/-! ## Cancellation commands, device revocation and dispatch of a read Run -/

variable (services : Services) (accepts : DeviceId → BridgeMessage → Bool)

namespace CancellationService

/-- `dispatch`: writes the pending intent to its Device and marks it sent. -/
def dispatch (sentAt : Time) (runId : RunId) : Db Bool := do
  match ← getCancellationIntent runId, ← getRun runId with
  | some intent, some run =>
    if intent.state ≠ .pending ∨ run.state.terminal then pure false
    else
      let sent ← send accepts intent.deviceId runId
        (.runCancelRequested intent.messageId run.runId run.traceId intent.agentId intent.reason)
      if sent then
        let _ ← markCancellationIntentSent runId intent.messageId sentAt
        pure true
      else pure false
  | _, _ => pure false

/-- The rows `listDispatchableCancellationIntents` selects. -/
def dispatchable (db : Central) (now sentBefore : Time) (limit : Nat) (deviceId : Option DeviceId) :
    List RunId :=
  ((Table.orderBy (fun i => [i.createdAt, i.runId])
    (db.cancellationIntents.rows.filter fun i =>
      i.state = .pending ∧ now < i.ackDeadlineAt ∧ i.lastSentAt.all (· ≤ sentBefore) ∧
        deviceId.all (· = i.deviceId))).take (max 1 (min 500 limit))).map (·.runId)

/-- `sweep` and `resendForDevice`: expire what is overdue, then send what is due again. -/
def sweep (now sentBefore : Time) (limit : Nat) (deviceId : Option DeviceId) :
    Db (List Bool) := do
  let _ ← expireCancellationIntents now limit
  Tx.forEach (dispatch accepts now) (dispatchable (← get) now sentBefore limit deviceId)

end CancellationService

namespace DeviceRevocationService

/-- A row of `listDeviceRevocationRuns`. -/
structure DeviceRevocationRun where
  run : RunRecord
  acceptedByBridge : Bool

def listDeviceRevocationRuns (db : Central) (deviceId : DeviceId) : List DeviceRevocationRun :=
  (Table.orderBy (fun r => [r.createdAt, r.runId])
    (db.runs.rows.filter fun r =>
      ((db.agents.get r.targetAgentId).bind (·.deviceId)) = some deviceId ∧
        r.state.terminal = false)).map fun run =>
    { run
      acceptedByBridge :=
        ((db.deliveries.get run.runId).map (·.state)) = some .accepted || run.state ≠ .queued }

/-- The status a revoked Device's Run ends with. -/
def revocationStatus (acceptedByBridge : Bool) : RuntimeStatus :=
  if acceptedByBridge then .outcomeUnknown else .failed

def revocationError (acceptedByBridge : Bool) : RuntimeError :=
  if acceptedByBridge then
    { code := "RUN_DEVICE_REVOKED_OUTCOME_UNKNOWN"
      message :=
        "Target Device was revoked after accepting delivery; Runtime outcome cannot be verified."
      retryable := false }
  else
    { code := "RUN_DEVICE_REVOKED"
      message := "Target Device was revoked before accepting delivery."
      retryable := false }

/-- The terminal event of one affected Run, from the row as it was listed. -/
def endRun (now : Time) (affected : DeviceRevocationRun) : Db AppliedRunEvent :=
  applyEvent affected.run.runId
    (.status { sequence := affected.run.lastSequence + 1
               status := revocationStatus affected.acceptedByBridge
               error := some (revocationError affected.acceptedByBridge) }) now

/-- `reconcile`, without its best-effort cancel commands to the Device's socket. -/
def reconcile (deviceId : DeviceId) (now : Time) : Db (List AppliedRunEvent) := do
  Tx.forEach (endRun now) (listDeviceRevocationRuns (← get) deviceId)

end DeviceRevocationService

/-- **`dispatchRun`**, for a managed Agent: `run` is the Run as the caller read it. -/
def dispatchRun (clock : Time) (run : RunRecord) : Db RunRecord := do
  if run.state.terminal then pure run
  else
    let agent := (← get).agents.get run.targetAgentId
    if agent.any (·.integrationMode = .managed) then
      let _ ← DeliveryService.dispatch services accepts clock run.runId
      return (← getRun run.runId).getD run
    else return (← getRun run.runId).getD run

end AgentRoom
