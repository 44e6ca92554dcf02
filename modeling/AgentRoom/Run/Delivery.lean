import AgentRoom.Run.Repository
import AgentRoom.Domain.Text

/-!
# Deliveries

`DeliveryService`: it freezes one delivery row a Run, writes `run.requested` to
the target Device's socket, and takes the Bridge's acceptance. `accepts` says
whether the connection registry has a socket that takes a message.
-/

namespace AgentRoom

/-- The authenticated Device of a socket. -/
structure DevicePrincipal where
  deviceId : DeviceId
  ownerMemberId : MemberId
  teamId : TeamId

namespace DeliveryService

open RunRepository

variable (services : Services) (accepts : DeviceId → BridgeMessage → Bool)

def getByRun (runId : RunId) : Db (Option DeliveryRecord) := do
  return (← get).deliveries.get runId

/-- `connections.send`: writes the message if a connection takes it. -/
def send (deviceId : DeviceId) (runId : RunId) (message : BridgeMessage) : Db Bool := do
  if accepts deviceId message then
    modify fun db => { db with
      emitted := db.emitted ++
        [{ deviceId, runId, message, storedState := (db.runs.get runId).map (·.state) }] }
    pure true
  else pure false

/-- The other enabled Agents of the Team in the Room, at most twenty, by name. -/
def routingAgents (db : Central) (roomId : RoomId) (agent : AgentRecord) :
    List (AgentId × String) :=
  match db.rooms.get roomId with
  | none => []
  | some room =>
    if room.allowAgentMentions then
      (((db.agents.rows.filter fun candidate =>
        candidate.teamId = agent.teamId ∧ candidate.enabled ∧
          candidate.agentId ≠ agent.agentId ∧
          candidate.agentId ∈ room.roomAgents).insertionSort fun left right =>
            (if left.name = right.name then left.agentId ≤ right.agentId
              else services.localeLe left.name right.name) = true).take 20).map
        fun candidate => (candidate.agentId, candidate.name)
    else []

/-- An Agent that cannot materialize Artifacts gets the references without their content. -/
def deliveredPlan (agent : AgentRecord) (plan : ContextPlan) : ContextPlan :=
  if agent.capabilities.supportsArtifactMaterialization then plan
  else { plan with
    resultEvidence := plan.resultEvidence.map fun page =>
      { page with artifactRefs := page.artifactRefs.map fun ref => { ref with content := none } } }

/-- The payload of a new delivery. -/
def deliveryPayload (db : Central) (run : RunRecord) (agent : AgentRecord)
    (trigger : MessageRecord) (contextManifest : String) (planned : PlannedRuntimeContext)
    (deliveryAttemptId idempotencyKey : Nat) : DeliveryPayload :=
  let roomContextBundle :=
    if agent.capabilities.supportsRoomContextCoverage then planned.roomContextBundle else none
  { runId := run.runId, traceId := run.traceId, roomId := run.roomId, taskId := run.taskId
    session := { contextCursor := trigger.sequence, runtimeScopeId := agent.runtimeScopeId }
    triggerMessageId := run.triggerMessageId, requesterMemberId := run.requesterMemberId
    targetAgentId := run.targetAgentId, targetAgentName := agent.name
    deliveryAttemptId, idempotencyKey, parentRunId := run.parentRunId
    instruction := run.instruction, contextPlan := deliveredPlan agent planned.contextPlan
    contextManifest
    contextMessages := if roomContextBundle.isSome then [] else planned.contextMessages
    roomContextBundle, routingAgents := routingAgents services db run.roomId agent
    discussionSupplementalEvidence := services.supplementalEvidenceOffer db run.runId agent
    deadline := run.deadlineAt }

/-- **`ensure`.** The Run's delivery row, created if the Run is still queued. An existing row is
returned whatever the Run's state. -/
def ensure (clock : Time) (runId : RunId) : Db (Option DeliveryRecord) := do
  let db ← get
  match db.deliveries.get runId with
  | some existing => pure (some existing)
  | none =>
    match db.runs.get runId with
    | none => pure none
    | some run =>
      if run.state ≠ .queued then pure none
      else
        match db.agents.get run.targetAgentId, db.messages.get run.triggerMessageId with
        | some agent, some trigger =>
          match agent.deviceId with
          | none => pure none
          | some deviceId =>
            if agent.integrationMode ≠ .managed then pure none
            else
              let deliveryAttemptId ← createOpaqueId
              let idempotencyKey ← createOpaqueId
              match db.contextManifests.get run.runId with
              | none => throw "Run delivery requires a frozen Context Manifest"
              | some contextManifest =>
                match services.plan db run trigger.sequence with
                | .error e => throw e
                | .ok planned =>
                  let payload := deliveryPayload services db run agent trigger
                    contextManifest planned deliveryAttemptId idempotencyKey
                  let delivery : DeliveryRecord :=
                    { deliveryAttemptId, traceId := run.traceId, runId := run.runId
                      deviceId, idempotencyKey
                      payloadHash := services.hashPayload payload, payload
                      state := .pending, sendCount := 0, createdAt := clock
                      lastSentAt := none, acceptedAt := none }
                  modify fun db => { db with
                    deliveries := db.deliveries.put run.runId delivery }
                  getByRun runId
        | _, _ => pure none

/-- The send marker: `send_count + 1`, while the row is pending. -/
def markSent (runId : RunId) (sentAt : Time) : Db Unit :=
  modify fun db => match db.deliveries.get runId with
    | some delivery =>
      if delivery.state = .pending then
        { db with
          deliveries := db.deliveries.put runId
            { delivery with
              sendCount := delivery.sendCount + 1, lastSentAt := some sentAt } }
      else db
    | none => db

/-- `run?.state === "queued" && Date.parse(run.deadlineAt) <= Date.parse(clock())`. -/
def dueRun (run : Option RunRecord) (clock : Time) : Option RunRecord :=
  run.filter fun r => r.state = .queued ∧ r.deadlineAt ≤ clock

/-- **`dispatch`.** -/
def dispatch (clock : Time) (runId : RunId) : Db (Option DeliveryRecord) := do
  if ((← getCancellationIntent runId).map (·.state)) = some .pending then
    getByRun runId
  else
    match dueRun (← getRun runId) clock with
    | some run =>
      let _ ← expireQueued run.roomId clock
      pure none
    | none =>
      match ← ensure services clock runId with
      | none => pure none
      | some delivery =>
        if delivery.state = .accepted then pure (some delivery)
        else
          let sent ← send accepts delivery.deviceId runId (.runRequested delivery.payload)
          if sent then
            markSent runId clock
            getByRun runId
          else pure (some delivery)

/-- The rows `dispatchQueuedForDevice` selects: the queued Runs of the Device's Agents without a
pending cancellation. -/
def queuedForDevice (db : Central) (deviceId : DeviceId) : List RunId :=
  (Table.orderBy (fun r => [r.createdAt, r.runId])
    (db.runs.rows.filter fun r =>
      ((db.agents.get r.targetAgentId).bind (·.deviceId)) = some deviceId ∧ r.state = .queued ∧
        ((db.cancellationIntents.get r.runId).map (·.state)) ≠ some .pending)).map (·.runId)

/-- `dispatchQueuedForDevice`. The rows are selected once; the clock is read again for each. -/
def dispatchQueuedForDevice (clock : RunId → Time) (deviceId : DeviceId) : Db Unit := do
  let _ ← Tx.forEach (fun runId => dispatch services accepts (clock runId) runId)
    (queuedForDevice (← get) deviceId)

/-! ## Acceptance -/

/-- The pinned Artifacts a delivery expects to be materialized. -/
def expectedMaterializations (delivery : DeliveryRecord) : List (String × ArtifactContent) :=
  match delivery.payload.contextPlan.resultEvidence with
  | none => []
  | some page => page.artifactRefs.filterMap fun ref =>
    ref.content.map fun content => (ref.artifactId, content)

/-- One receipt against the Artifact it names. -/
def receiptMatches (receipt : Json) (pinned : ArtifactContent) : Bool :=
  receipt.strField "contentId" = some pinned.contentId &&
    receipt.strField "logicalAlias" = some pinned.logicalAlias &&
    receipt.strField "mediaType" = some pinned.mediaType &&
    receipt.strField "sha256" = some pinned.sha256 &&
    receipt.numField "sizeBytes" = some (pinned.sizeBytes : ℚ) &&
    (receipt.strField "materializationState" = some "verified" ||
      receipt.strField "materializationState" = some "reused")

/-- Every receipt consumes the Artifact it names; true when none is left. -/
def receiptsConsume (remaining : Table String ArtifactContent) : List Json → Bool
  | [] => remaining.rows.isEmpty
  | candidate :: rest =>
    let artifactId := (candidate.strField "artifactId").getD ""
    match remaining.get artifactId with
    | none => false
    | some pinned =>
      receiptMatches candidate pinned && receiptsConsume (remaining.remove artifactId) rest

def validateArtifactMaterializations (delivery : DeliveryRecord)
    (materializations materializationError : Option Json) : Except Err Unit :=
  let expected := expectedMaterializations delivery
  match materializationError with
  | some failure =>
    let emptyReceipts := match materializations with
      | none => true
      | some receipts => receipts.asArr.any (·.isEmpty)
    if expected.isEmpty || !failure.isObject ||
        failure.strField "code" ≠ some "ARTIFACT_MATERIALIZATION_FAILED" ||
        failure.boolField "retryable" ≠ some false ||
        failure.strField "message" ≠
          some "Pinned Artifact content could not be verified in isolated staging." ||
        !emptyReceipts then
      throw "Artifact materialization failure does not match delivery"
    else pure ()
  | none =>
    match materializations.bind Json.asArr with
    | none =>
      if expected.isEmpty && materializations.isNone then pure ()
      else throw "Artifact materialization receipts do not match delivery"
    | some receipts =>
      let remaining := expected.foldl (fun t (artifactId, content) => t.put artifactId content)
        (.empty : Table String ArtifactContent)
      if receipts.length = expected.length && receiptsConsume remaining receipts then pure ()
      else throw "Artifact materialization receipts do not match delivery"

/-- **`accept`.** The Bridge took the delivery: the row is accepted and the Run delivered. -/
def accept (principal : DevicePrincipal) (runId : RunId) (traceId : TraceId) (agentId : AgentId)
    (sequence : Nat) (now : Time)
    (artifactMaterializations artifactMaterializationError : Option Json) : Db RunRecord := do
  if sequence ≠ 1 then throw "run.accepted must use sequence 1"
  else
    let db ← get
    match db.runs.get runId, db.agents.get agentId, db.deliveries.get runId with
    | some run, some agent, some delivery =>
      if run.traceId ≠ traceId ∨ delivery.traceId ≠ traceId ∨ run.targetAgentId ≠ agentId ∨
          agent.deviceId ≠ some principal.deviceId ∨
          agent.ownerMemberId ≠ principal.ownerMemberId ∨
          delivery.deviceId ≠ principal.deviceId then
        throw "Run acceptance identity mismatch"
      else
        match validateArtifactMaterializations delivery artifactMaterializations
          artifactMaterializationError with
        | .error e => throw e
        | .ok () =>
          -- its own statement, committed before the event is applied
          modify fun db => match db.deliveries.get runId with
            | some delivery =>
              if delivery.state = .pending then
                { db with
                  deliveries := db.deliveries.put runId
                    { delivery with state := .accepted, acceptedAt := some now } }
              else db
            | none => db
          let applied ← applyEvent runId
            (.status { sequence := 1, status := .delivered }) now
          pure applied.run
    | _, _, _ => throw "Run acceptance identity mismatch"

/-! ## What a report is validated against -/

/-- `getRuntimeScope`. -/
def runtimeScope (db : Central) (runId : RunId) : Option String :=
  (db.deliveries.get runId).bind (·.payload.session.runtimeScopeId)

/-- `core.latestMessageSequence`. -/
def latestMessageSequence (db : Central) (roomId : RoomId) : Nat :=
  ((db.messages.rows.filter (·.roomId = roomId)).map (·.sequence)).foldl max 0

/-- The checks on a receipt, of a delivered bundle and the Room's latest sequence. -/
def checkRoomContextConsumption (bundle : RoomContextBundle) (latest : Nat)
    (disposition : SessionDisposition) (contextCursor : Nat) (receipt : RoomContextConsumption) :
    Except Err Unit :=
  if [contextCursor, receipt.baseContextCursor, receipt.rawFromSequenceExclusive,
      receipt.rawThroughSequenceInclusive, receipt.rawMessageCount,
      receipt.coverageThroughSequence].any (!isSafeInteger ·) then
    throw "Room context consumption cursors are invalid"
  else if 12 < receipt.rawMessageCount ∨
      receipt.rawThroughSequenceInclusive ≠ bundle.rawTail.throughSequenceInclusive ∨
      receipt.rawThroughSequenceInclusive ≠
        receipt.rawFromSequenceExclusive + receipt.rawMessageCount ∨
      contextCursor ≠ receipt.coverageThroughSequence ∨
      receipt.coverageThroughSequence ≠
        max receipt.baseContextCursor bundle.targetThroughSequence ∨
      receipt.coverageThroughSequence < bundle.targetThroughSequence ∨
      latest < receipt.coverageThroughSequence then
    throw "Room context consumption does not match its delivered interval"
  else if (disposition = .started ∨ disposition = .recreated) ∧
      receipt.baseContextCursor ≠ 0 then
    throw "A new Runtime session cannot inherit a Room context cursor"
  else
    let consumed := bundle.checkpoint.filter fun checkpoint =>
      disposition ≠ .resumed ∨ receipt.baseContextCursor < checkpoint.throughSequence
    let expectedRawFrom :=
      if consumed.isSome then bundle.rawTail.fromSequenceExclusive
      else min (max receipt.baseContextCursor bundle.rawTail.fromSequenceExclusive)
        bundle.rawTail.throughSequenceInclusive
    if receipt.checkpointId ≠ consumed.map (·.checkpointId) then
      throw "Room context checkpoint receipt does not match delivery"
    else if receipt.rawFromSequenceExclusive ≠ expectedRawFrom then
      throw "Room context raw receipt does not match delivery"
    else pure ()

def validateRoomContextConsumption (db : Central) (runId : RunId)
    (disposition : SessionDisposition) (contextCursor : Nat) (receipt : RoomContextConsumption) :
    Except Err Unit :=
  match (db.deliveries.get runId).bind (·.payload.roomContextBundle), db.runs.get runId with
  | some bundle, some run =>
    checkRoomContextConsumption bundle (latestMessageSequence db run.roomId) disposition
      contextCursor receipt
  | _, _ => throw "Run was not delivered with Room context coverage"

end DeliveryService

end AgentRoom
