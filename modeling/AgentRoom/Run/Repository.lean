import AgentRoom.Run.Store

/-!
# The Run repository

`RunRepository`: the only code that appends to a Run's event log and moves its
state. Every write goes through `applyRuntimeEvent`, which refuses what is stale,
what would leave a gap and what comes after a terminal state.
-/

namespace AgentRoom

structure PlannedRuntimeContext where
  contextPlan : ContextPlan
  roomContextBundle : Option RoomContextBundle
  contextMessages : List ContextMessage

/-- What the Run services call and this development does not open up: each field is a function
of another subsystem, applied to the database it reads. -/
structure Services where
  /-- `RunRepository.buildContextManifest`. -/
  buildContextManifest : Central → RunId → Except Err String
  /-- `redactSensitiveText`. -/
  redactSensitiveText : String → String
  /-- `ContextPlanner.plan`, for a Run and the sequence of its trigger message. -/
  plan : Central → RunRecord → Nat → Except Err PlannedRuntimeContext
  /-- `DeliveryService.discussionSupplementalEvidenceOffer`. -/
  supplementalEvidenceOffer : Central → RunId → AgentRecord → Option SupplementalEvidenceOffer
  /-- `createHash("sha256")` of the payload's JSON. -/
  hashPayload : DeliveryPayload → String
  /-- `left.localeCompare(right) <= 0`. -/
  localeLe : String → String → Bool

structure AppliedRunEvent where
  applied : Bool
  run : RunRecord

structure RunCancellationRequest where
  run : RunRecord
  intent : Option RunCancellationIntent
  created : Bool

/-- What a caller of `createRuns` supplies; every caller creates the Run queued, with an empty
log. -/
structure RunRequest where
  runId : RunId
  traceId : TraceId
  roomId : RoomId
  taskId : TaskId
  triggerMessageId : MessageId
  requesterMemberId : MemberId
  targetAgentId : AgentId
  parentRunId : Option RunId := none
  attemptNumber : Option Nat := none
  retryOfRunId : Option RunId := none
  instruction : String
  deadlineAt : Time
  createdAt : Time
  orchestrationKey : Option OrchestrationKey := none

/-- `UPDATE runs SET state, last_sequence, updated_at, terminal_at`. -/
def RunRecord.advanced (run : RunRecord) (event : RuntimeEvent) (now : Time) : RunRecord :=
  { run with
    state := event.nextState run.state
    lastSequence := event.sequence
    updatedAt := now
    terminalAt := if (event.nextState run.state).terminal then some now else none }

namespace Central

/-- `listEvents`: the rows of one Run. Rows are stored in the order of their sequences. -/
def listEvents (db : Central) (runId : RunId) : List RunEventRecord :=
  db.runEvents.filter (·.runId = runId)

def nextAttemptNumber (db : Central) (taskId : TaskId) : Nat :=
  ((db.runs.rows.filter (·.taskId = taskId)).map (·.attemptNumber)).foldl max 0 + 1

end Central

namespace RunRepository

def getRun (runId : RunId) : Db (Option RunRecord) := do
  return (← get).runs.get runId

def getCancellationIntent (runId : RunId) : Db (Option RunCancellationIntent) := do
  return (← get).cancellationIntents.get runId

/-- `UPDATE rooms SET next_message_sequence = next_message_sequence + 1 … RETURNING`. -/
def nextMessageSequence (roomId : RoomId) : Db Nat := do
  let db ← get
  match db.rooms.get roomId with
  | none => throw s!"Run Room not found: {roomId}"
  | some room =>
    let next := room.nextMessageSequence + 1
    set { db with rooms := db.rooms.put roomId { room with nextMessageSequence := next } }
    pure next

/-- `INSERT INTO messages`, of a message an Agent sends in answer to a Run's trigger. -/
def insertAgentMessage (run : RunRecord) (messageId : MessageId) (sequence : Nat)
    (content : String) (createdAt : Time) : Db Unit :=
  modify fun db => { db with
    messages := db.messages.put messageId
      { messageId, traceId := run.traceId, roomId := run.roomId, taskId := run.taskId, sequence
        senderType := .agent, senderId := run.targetAgentId, content
        parentMessageId := some run.triggerMessageId, createdAt } }

/-- `INSERT INTO run_events`. -/
def insertRunEvent (runId : RunId) (traceId : TraceId) (event : RuntimeEvent) (now : Time) :
    Db Unit :=
  modify fun db => { db with
    runEvents := db.runEvents ++ [{ runId, traceId, event, createdAt := now }] }

/-- The clarification a status event opens: the question becomes a Room message. -/
def openClarification (current : RunRecord) (event : StatusEvent)
    (clarification : TaskClarificationRequest) (now : Time) : Db Unit := do
  if event.status ≠ .inputRequired ∨ current.orchestrationKey.isSome then
    throw "Task clarification is allowed only for a non-Discussion input-required Run"
  else if ((← get).clarifications.get current.runId).isSome then
    throw "Run already owns a Task clarification"
  else
    let questionMessageId ← createOpaqueId
    let clarificationId ← createOpaqueId
    let sequence ← nextMessageSequence current.roomId
    insertAgentMessage current questionMessageId sequence clarification.question now
    modify fun db => { db with
      clarifications := db.clarifications.put current.runId
        { clarificationId, taskId := current.taskId, roomId := current.roomId
          requestingRunId := current.runId, targetAgentId := current.targetAgentId
          question := clarification.question, choices := clarification.choices
          questionMessageId, createdAt := now } }

/-- `UPDATE agent_tasks SET last_room_sequence = max(last_room_sequence, ?)`. -/
def advanceTaskCursor (taskId : TaskId) (contextCursor : Nat) : Db Unit :=
  modify fun db => match db.taskRoomSequence.get taskId with
    | none => db
    | some last =>
      { db with taskRoomSequence := db.taskRoomSequence.put taskId (max last contextCursor) }

/-- What an applied event writes besides the log and the Run row. -/
def projectEvent (current : RunRecord) (event : RuntimeEvent) (now : Time) : Db Unit :=
  match event with
  | .status e => do
      Tx.whenSome e.clarification fun clarification =>
        openClarification current e clarification now
      Tx.whenSome e.session fun session =>
        advanceTaskCursor current.taskId session.contextCursor
  | .reply e =>
    modify fun db => { db with
      routingIntents := db.routingIntents ++
        [{ parentRunId := current.runId, replySequence := e.sequence, content := e.content
           createdAt := now }] }
  | .activity _ | .output _ => pure ()

/-- `resolveCancellationIntent`, on the table. -/
def resolved (intents : Table RunId RunCancellationIntent) (runId : RunId)
    (terminalStatus : RunState) (resolvedAt : Time) : Table RunId RunCancellationIntent :=
  match intents.get runId with
  | some intent =>
    if intent.state = .pending then
      intents.put runId
        { intent with
          state := .resolved, resolvedAt := some resolvedAt
          terminalStatus := some terminalStatus }
    else intents
  | none => intents

def resolveCancellationIntent (runId : RunId) (terminalStatus : RunState) (resolvedAt : Time) :
    Db Unit :=
  modify fun db => { db with
    cancellationIntents := resolved db.cancellationIntents runId terminalStatus resolvedAt }

/-- The writes of an event that passed the guards of `applyRuntimeEvent`. -/
def commitRuntimeEvent (runId : RunId) (current : RunRecord) (event : RuntimeEvent)
    (now : Time) : Db AppliedRunEvent := do
  insertRunEvent runId current.traceId event now
  projectEvent current event now
  modify fun db => { db with runs := db.runs.put runId (current.advanced event now) }
  Tx.when (event.nextState current.state).terminal
    (resolveCancellationIntent runId (event.nextState current.state) now)
  match ← getRun runId with
  | none => throw s!"Run disappeared after event: {runId}"
  | some updated => pure { applied := true, run := updated }

/-- **`applyRuntimeEvent`.** The single writer of a Run's log and state. -/
def applyRuntimeEvent (runId : RunId) (event : RuntimeEvent) (now : Time) : Db AppliedRunEvent :=
  Tx.immediate do
    match ← getRun runId with
    | none => throw s!"Run not found: {runId}"
    | some current =>
      if event.sequence ≤ current.lastSequence ∨ current.state.terminal then
        pure { applied := false, run := current }
      else if event.sequence ≠ current.lastSequence + 1 then
        throw s!"Run event sequence gap: {event.sequence}"
      else commitRuntimeEvent runId current event now

def applyEvent (runId : RunId) (event : RuntimeEvent) (now : Time) : Db AppliedRunEvent :=
  applyRuntimeEvent runId event now

/-- `insertReplyMessage` and `insertReplyMessageProjection`. -/
def projectReplyMessage (run : RunRecord) (event : ReplyEvent) (now : Time) : Db Unit := do
  let messageId ← createOpaqueId
  let sequence ← nextMessageSequence run.roomId
  insertAgentMessage run messageId sequence event.content now
  modify fun db => { db with
    projections := db.projections ++
      [{ runId := run.runId, replySequence := event.sequence, messageId, projectedAt := now }] }

/-- `applyReply`: the event, its message and its projection, or none of them. -/
def applyReply (runId : RunId) (event : ReplyEvent) (now : Time) : Db AppliedRunEvent :=
  Tx.immediate do
    let applied ← applyRuntimeEvent runId (.reply event) now
    Tx.when applied.applied (projectReplyMessage applied.run event now)
    pure applied

/-- `applyReplyAndTerminal`; the terminal event is a completion. -/
def applyReplyAndTerminal (runId : RunId) (replyEvent : ReplyEvent) (terminalSequence : Nat)
    (now : Time) : Db AppliedRunEvent := do
  if terminalSequence ≠ replyEvent.sequence + 1 then
    throw "Runtime reply and completion sequences must be contiguous"
  else
    Tx.immediate do
      let reply ← applyReply runId replyEvent now
      if reply.applied then
        let terminal ← applyRuntimeEvent runId
          (.status { sequence := terminalSequence, status := .completed }) now
        if terminal.applied then pure terminal
        else throw "Runtime completion was not applied with its reply"
      else pure reply

/-! ## Creating Runs -/

def insertRunIdentity (request : RunRequest) : Db Unit := do
  let db ← get
  if (db.runs.get request.runId).isSome then
    throw "UNIQUE constraint failed: runs.run_id"
  else
    let run : RunRecord :=
      { runId := request.runId, traceId := request.traceId, roomId := request.roomId
        taskId := request.taskId, triggerMessageId := request.triggerMessageId
        requesterMemberId := request.requesterMemberId, targetAgentId := request.targetAgentId
        parentRunId := request.parentRunId
        attemptNumber := request.attemptNumber.getD (db.nextAttemptNumber request.taskId)
        retryOfRunId := request.retryOfRunId, instruction := request.instruction
        state := .queued, lastSequence := 0, deadlineAt := request.deadlineAt
        createdAt := request.createdAt, updatedAt := request.createdAt, terminalAt := none
        orchestrationKey := request.orchestrationKey }
    set { db with runs := db.runs.put request.runId run }

def freezeContextManifest (services : Services) (runId : RunId) : Db Unit := do
  let db ← get
  match services.buildContextManifest db runId with
  | .error e => throw e
  | .ok manifest =>
    if (db.contextManifests.get runId).isSome then
      throw "Run Context Manifest is already frozen"
    else
      set { db with contextManifests := db.contextManifests.put runId manifest }

def createRuns (services : Services) (requests : List RunRequest) : Db (List Unit) :=
  Tx.immediate <| Tx.forEach (fun request => do
    insertRunIdentity request
    freezeContextManifest services request.runId) requests

/-! ## Cancellation and expiry -/

def requestCancellation (runId : RunId) (messageId : MessageId) (requestedByMemberId : MemberId)
    (reason : String) (now ackDeadlineAt : Time) : Db RunCancellationRequest :=
  Tx.immediate do
    match ← getRun runId with
    | none => throw s!"Run not found: {runId}"
    | some run =>
      let existing ← getCancellationIntent run.runId
      if run.state.terminal then
        Tx.when ((existing.map (·.state)) = some .pending)
          (resolveCancellationIntent run.runId run.state now)
        let resolved ← getCancellationIntent run.runId
        pure { run, intent := resolved, created := false }
      else if run.state = .inputRequired then
        let canceled ← applyRuntimeEvent run.runId
          (.status { sequence := run.lastSequence + 1, status := .canceled }) now
        pure { run := canceled.run, intent := none, created := false }
      else if existing.isSome then
        pure { run, intent := existing, created := false }
      else
        let delivery := (← get).deliveries.get run.runId
        -- a delivery row may have reached the Bridge, whatever its send count says
        if run.state = .queued ∧ delivery.isNone then
          let canceled ← applyRuntimeEvent run.runId
            (.status { sequence := run.lastSequence + 1, status := .canceled }) now
          pure { run := canceled.run, intent := none, created := false }
        else if run.state ≠ .queued ∧ run.state ≠ .delivered ∧ run.state ≠ .working then
          throw ("Run cannot be canceled from state: " ++ stateText run.state)
        else
          match delivery with
          | none => throw "Remote Run cancellation requires its frozen delivery Device"
          | some delivery =>
            let intent : RunCancellationIntent :=
              { runId := run.runId, messageId, agentId := run.targetAgentId
                deviceId := delivery.deviceId, requestedByMemberId, reason, state := .pending
                createdAt := now, lastSentAt := none, sendCount := 0, ackDeadlineAt
                resolvedAt := none, terminalStatus := none }
            modify fun db => { db with
              cancellationIntents := db.cancellationIntents.put run.runId intent }
            pure { run, intent := some intent, created := true }

def markCancellationIntentSent (runId : RunId) (messageId : MessageId) (sentAt : Time) :
    Db (Option RunCancellationIntent) := do
  modify fun db => match db.cancellationIntents.get runId with
    | some intent =>
      if intent.messageId = messageId ∧ intent.state = .pending then
        { db with
          cancellationIntents := db.cancellationIntents.put runId
            { intent with sendCount := intent.sendCount + 1, lastSentAt := some sentAt } }
      else db
    | none => db
  getCancellationIntent runId

/-- The error a Run ends with when its cancellation is not confirmed in time. -/
def cancelAckTimeout : RuntimeError where
  code := "RUN_CANCEL_ACK_TIMEOUT"
  message :=
    "The managed Runtime did not confirm a terminal outcome before the cancellation deadline."
  retryable := false

/-- One row of the sweep of `expireCancellationIntents`. -/
def expireCancellationIntent (now : Time) (runId : RunId) : Db RunRecord :=
  Tx.immediate do
    match ← getCancellationIntent runId, ← getRun runId with
    | some intent, some run =>
      if intent.state ≠ .pending then pure run
      else if run.state.terminal then
        resolveCancellationIntent run.runId run.state now
        pure run
      else
        let applied ← applyRuntimeEvent run.runId
          (.status { sequence := run.lastSequence + 1, status := .outcomeUnknown
                     error := some cancelAckTimeout }) now
        pure applied.run
    | _, _ => throw s!"Run not found: {runId}"

/-- The rows `expireCancellationIntents` selects. -/
def dueCancellationIntents (db : Central) (now : Time) (limit : Nat) : List RunId :=
  ((Table.orderBy (fun i => [i.ackDeadlineAt, i.createdAt, i.runId])
    (db.cancellationIntents.rows.filter fun i =>
      i.state = .pending ∧ i.ackDeadlineAt ≤ now)).take (max 1 (min 500 limit))).map (·.runId)

def expireCancellationIntents (now : Time) (limit : Nat) : Db (List RunRecord) := do
  Tx.forEach (expireCancellationIntent now) (dueCancellationIntents (← get) now limit)

/-- The error of a Run nobody accepted in time. -/
def runExpired : RuntimeError where
  code := "RUN_EXPIRED"
  message := "Run expired before its target Agent accepted delivery."
  retryable := false

/-- The rows `expireQueued` selects. -/
def dueQueued (db : Central) (roomId : RoomId) (now : Time) : List RunId :=
  (Table.orderBy (fun r => [r.createdAt, r.runId])
    (db.runs.rows.filter fun r =>
      r.roomId = roomId ∧ r.state = .queued ∧ r.deadlineAt ≤ now)).map (·.runId)

/-- One row of the sweep of `expireQueued`. -/
def expireQueuedRun (now : Time) (runId : RunId) : Db RunRecord := do
  let lastSequence := ((← getRun runId).map (·.lastSequence)).getD 0
  let applied ← applyEvent runId
    (.status { sequence := lastSequence + 1, status := .expired, error := some runExpired }) now
  pure applied.run

def expireQueued (roomId : RoomId) (now : Time) : Db (List RunRecord) := do
  Tx.forEach (expireQueuedRun now) (dueQueued (← get) roomId now)

end RunRepository

end AgentRoom
