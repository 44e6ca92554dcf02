import AgentRoom.Lib.Tx
import AgentRoom.Run.Types

/-!
# The database Central keeps

`Central` holds the tables the Run services read and write, and the messages
written to Bridge sockets so far. Each `emitted` entry also records the Run's stored
state at the moment of the write; no code reads it.
-/

namespace AgentRoom

/-- A row of `runs`. -/
structure RunRecord where
  runId : RunId
  traceId : TraceId
  roomId : RoomId
  taskId : TaskId
  triggerMessageId : MessageId
  requesterMemberId : MemberId
  targetAgentId : AgentId
  parentRunId : Option RunId := none
  attemptNumber : Nat := 1
  retryOfRunId : Option RunId := none
  instruction : String
  state : RunState
  lastSequence : Nat
  deadlineAt : Time
  createdAt : Time
  updatedAt : Time
  terminalAt : Option Time
  orchestrationKey : Option OrchestrationKey := none

/-- A row of `run_events`. -/
structure RunEventRecord where
  runId : RunId
  traceId : TraceId
  event : RuntimeEvent
  createdAt : Time

def RunEventRecord.sequence (r : RunEventRecord) : Nat := r.event.sequence

inductive CancellationIntentState where
  | pending | resolved
  deriving DecidableEq

/-- A row of `run_cancellation_intents`, keyed by `runId`. -/
structure RunCancellationIntent where
  runId : RunId
  messageId : MessageId
  agentId : AgentId
  deviceId : DeviceId
  requestedByMemberId : MemberId
  reason : String
  state : CancellationIntentState
  createdAt : Time
  lastSentAt : Option Time
  sendCount : Nat
  ackDeadlineAt : Time
  resolvedAt : Option Time
  terminalStatus : Option RunState

/-! ## Deliveries -/

/-- The pinned content of an Artifact reference. -/
structure ArtifactContent where
  contentId : String
  logicalAlias : String
  mediaType : String
  sha256 : String
  sizeBytes : Nat

structure ContextArtifactRef where
  artifactId : String
  content : Option ArtifactContent

structure ResultEvidencePage where
  revision : Nat
  fromRevision : Nat
  throughRevision : Nat
  hasMore : Bool
  artifactRefs : List ContextArtifactRef

structure ContextPlan where
  roomMemory : String
  taskMemory : String
  resultEvidence : Option ResultEvidencePage

structure ContextMessage where
  messageId : MessageId
  sequence : Nat
  senderId : Nat
  content : String

structure RoomContextCheckpoint where
  checkpointId : Nat
  throughSequence : Nat

structure RawTail where
  fromSequenceExclusive : Nat
  throughSequenceInclusive : Nat
  messages : List ContextMessage

structure RoomContextBundle where
  targetThroughSequence : Nat
  checkpoint : Option RoomContextCheckpoint
  rawTail : RawTail

structure SupplementalEvidenceOffer where
  operationId : Nat
  discussionId : Nat
  waveId : Nat
  turnId : Nat

structure DeliverySession where
  contextCursor : Nat
  runtimeScopeId : Option String

/-- The body of `run.requested`. The Context Manifest frozen for the Run is `contextManifest`. -/
structure DeliveryPayload where
  runId : RunId
  traceId : TraceId
  roomId : RoomId
  taskId : TaskId
  session : DeliverySession
  triggerMessageId : MessageId
  requesterMemberId : MemberId
  targetAgentId : AgentId
  targetAgentName : String
  deliveryAttemptId : Nat
  idempotencyKey : Nat
  parentRunId : Option RunId
  instruction : String
  contextPlan : ContextPlan
  contextManifest : String
  contextMessages : List ContextMessage
  roomContextBundle : Option RoomContextBundle
  routingAgents : List (AgentId × String)
  discussionSupplementalEvidence : Option SupplementalEvidenceOffer
  deadline : Time

inductive DeliveryState where
  | pending | accepted
  deriving DecidableEq

/-- A row of `run_deliveries`, keyed by `runId`. -/
structure DeliveryRecord where
  deliveryAttemptId : Nat
  traceId : TraceId
  runId : RunId
  deviceId : DeviceId
  idempotencyKey : Nat
  payloadHash : String
  payload : DeliveryPayload
  state : DeliveryState
  sendCount : Nat
  createdAt : Time
  lastSentAt : Option Time
  acceptedAt : Option Time

/-! ## Agents, rooms and messages -/

inductive IntegrationMode where
  | managed | manual | fake | hosted
  deriving DecidableEq

inductive Presence where
  | ready | busy | degraded | manual | offline
  deriving DecidableEq

structure AgentCapabilities where
  supportsInterrupt : Bool
  supportsRoomContextCoverage : Bool
  supportsArtifactMaterialization : Bool
  supportsDiscussionSupplementalEvidence : Bool

structure AgentRecord where
  agentId : AgentId
  teamId : TeamId
  ownerMemberId : MemberId
  deviceId : Option DeviceId
  name : String
  integrationMode : IntegrationMode
  capabilities : AgentCapabilities
  readOnly : Bool
  runtimeScopeId : Option String
  enabled : Bool
  presence : Presence
  createdAt : Time

inductive SenderType where
  | member | agent | system
  deriving DecidableEq

structure MessageRecord where
  messageId : MessageId
  traceId : TraceId
  roomId : RoomId
  taskId : TaskId
  sequence : Nat
  senderType : SenderType
  senderId : Nat
  content : String
  parentMessageId : Option MessageId
  createdAt : Time

structure RoomRecord where
  roomId : RoomId
  nextMessageSequence : Nat
  allowAgentMentions : Bool
  roomAgents : List AgentId

/-- A row of `task_clarifications`, keyed by the requesting Run. -/
structure TaskClarification where
  clarificationId : Nat
  taskId : TaskId
  roomId : RoomId
  requestingRunId : RunId
  targetAgentId : AgentId
  question : String
  choices : Option (List String)
  questionMessageId : MessageId
  createdAt : Time

/-- A row of `run_reply_routing_intents`. -/
structure RunReplyRoutingIntent where
  parentRunId : RunId
  replySequence : Nat
  content : String
  createdAt : Time

/-- A row of `run_reply_message_projections`. -/
structure RunReplyMessageProjection where
  runId : RunId
  replySequence : Nat
  messageId : MessageId
  projectedAt : Time

/-! ## Messages to Bridges -/

inductive BridgeMessage where
  | runRequested (payload : DeliveryPayload)
  | runCancelRequested (messageId : MessageId) (runId : RunId) (traceId : TraceId)
      (agentId : AgentId) (reason : String)

/-- One message written to a Device's socket, with the Run's stored state at that moment. -/
structure Emission where
  deviceId : DeviceId
  runId : RunId
  message : BridgeMessage
  storedState : Option RunState

/-- **Central's state.** -/
structure Central where
  runs : Table RunId RunRecord
  runEvents : List RunEventRecord
  cancellationIntents : Table RunId RunCancellationIntent
  deliveries : Table RunId DeliveryRecord
  messages : Table MessageId MessageRecord
  agents : Table AgentId AgentRecord
  rooms : Table RoomId RoomRecord
  clarifications : Table RunId TaskClarification
  routingIntents : List RunReplyRoutingIntent
  projections : List RunReplyMessageProjection
  /-- `agent_tasks.last_room_sequence`. -/
  taskRoomSequence : Table TaskId Nat
  /-- `runs.context_manifest_json`. -/
  contextManifests : Table RunId String
  /-- `task_result_evidence_consumption.through_revision`. -/
  evidenceConsumption : Table (TaskId × AgentId × String) Nat
  emitted : List Emission
  nextId : Nat

namespace Central

def initial : Central where
  runs := .empty
  runEvents := []
  cancellationIntents := .empty
  deliveries := .empty
  messages := .empty
  agents := .empty
  rooms := .empty
  clarifications := .empty
  routingIntents := []
  projections := []
  taskRoomSequence := .empty
  contextManifests := .empty
  evidenceConsumption := .empty
  emitted := []
  nextId := 0

end Central

/-- A program over Central's database. -/
abbrev Db (α : Type) := Tx Central Err α

/-- `length(trim(text))`: SQLite trims spaces, and counts the characters before the first NUL. -/
def sqlTrimmedLength (text : String) : Nat :=
  let trimmed := ((text.toList.dropWhile (· = ' ')).reverse.dropWhile (· = ' ')).reverse
  (trimmed.takeWhile (· ≠ '\x00')).length

/-- `length(trim(text)) BETWEEN 1 AND maximum`. -/
def trimmedWithin (text : String) (maximum : Nat) : Bool :=
  1 ≤ sqlTrimmedLength text && sqlTrimmedLength text ≤ maximum

/-- A fresh identifier. -/
def createOpaqueId : Db Nat := do
  let db ← get
  set { db with nextId := db.nextId + 1 }
  pure db.nextId

end AgentRoom
