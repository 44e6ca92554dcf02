import AgentRoom.Domain.Text

/-!
# What a Bridge stores and sends

The Run record of the Bridge's inbox, the cancellation tombstone, and the messages
the outbox of a record holds. Identifiers are strings here: the inbox checks their
form before it uses them as file names.

Message identifiers and timestamps are left out: nothing reads them.
-/

namespace AgentRoom.Bridge

inductive State where
  | preparing | accepted | working | inputRequired
  | completed | failed | canceled | outcomeUnknown
  deriving DecidableEq

/-- `contracts.RunExecutionStatus`. -/
inductive RunExecutionStatus where
  | working | inputRequired | completed | failed | canceled | outcomeUnknown
  deriving DecidableEq

def stateForStatus : RunExecutionStatus → State
  | .working => .working
  | .inputRequired => .inputRequired
  | .completed => .completed
  | .failed => .failed
  | .canceled => .canceled
  | .outcomeUnknown => .outcomeUnknown

/-- The text of a `State`. -/
def State.text : State → String
  | .preparing => "preparing"
  | .accepted => "accepted"
  | .working => "working"
  | .inputRequired => "input_required"
  | .completed => "completed"
  | .failed => "failed"
  | .canceled => "canceled"
  | .outcomeUnknown => "outcome_unknown"

def isTerminalState : State → Bool
  | .inputRequired | .completed | .failed | .canceled | .outcomeUnknown => true
  | .preparing | .accepted | .working => false

def isCancellationTerminalState : State → Bool
  | .completed | .failed | .canceled | .outcomeUnknown => true
  | .preparing | .accepted | .working | .inputRequired => false

theorem live_of_not_terminal {state : State} (h : ¬ isTerminalState state = true) :
    isCancellationTerminalState state = false := by
  cases state <;> first | rfl | exact absurd rfl h

theorem terminal_of_ended {state : State} (h : isCancellationTerminalState state = true) :
    isTerminalState state = true := by
  cases state <;> first | rfl | exact absurd h (by decide)

def isCancellationTerminalStatus (status : RunExecutionStatus) : Bool :=
  isCancellationTerminalState (stateForStatus status)

/-! ## Identifiers -/

def identifierChar (c : Char) : Bool := c.isAlphanum || c = '_' || c = '-'

/-- `^<label>[A-Za-z0-9_-]{8,128}$`. -/
def matchesIdentifier (label value : String) : Bool :=
  let rest := value.toList.drop label.length
  label.toList.isPrefixOf value.toList && 8 ≤ rest.length && rest.length ≤ 128 &&
    rest.all identifierChar

def isContractRunID (value : String) : Bool := matchesIdentifier "run_" value
def isContractTraceID (value : String) : Bool := matchesIdentifier "trace_" value
def isContractAgentID (value : String) : Bool := matchesIdentifier "agent_" value

/-! ## Requests and messages -/

/-- `DiscussionSupplementalEvidence` of a request. -/
structure SupplementalOffer where
  operationId : String
  discussionId : String
  waveId : String
  turnId : String

/-- `RunRequestedPayload`: the identities, what the delivery path reads, and the rest as `body`. -/
structure RunRequest where
  runId : String
  traceId : String
  targetAgentId : String
  idempotencyKey : String
  /-- `ContextManifest.Execution` is present. -/
  governed : Bool := false
  /-- Some Artifact reference carries pinned content: `runHasPinnedArtifactContent`. -/
  pinnedArtifacts : Bool := false
  supplementalOffer : Option SupplementalOffer := none
  body : String := ""

structure RunCancelRequest where
  protocolVersion : String
  messageId : String
  runId : String
  traceId : String
  agentId : String
  reason : String

/-- `ConveneWireError`. -/
structure WireError where
  code : String
  message : String
  retryable : Bool
  details : Option (List (String × Json)) := none

/-- The identities every message about a Run carries. -/
structure MessageIdentity where
  runId : String
  agentId : String
  traceId : String
  deriving DecidableEq

structure RunStatusMessage where
  identity : MessageIdentity
  sequence : Nat
  status : RunExecutionStatus
  error : Option WireError := none
  session : Option RuntimeSession := none
  clarification : Option TaskClarificationRequest := none

structure RunActivityMessage where
  identity : MessageIdentity
  sequence : Nat
  activityId : String
  kind : String
  phase : String
  label : Option String
  content : Option String
  reset : Option Bool

structure RunOutputDeltaMessage where
  identity : MessageIdentity
  sequence : Nat
  content : String
  reset : Option Bool

structure RunReplyMessage where
  identity : MessageIdentity
  sequence : Nat
  content : String
  assessment : Option AgentAssessment

structure SupplementalMessage where
  identity : MessageIdentity
  operationId : String
  discussionId : String
  waveId : String
  turnId : String
  sourceReplySequence : Nat
  deriving DecidableEq

inductive OutboxMessage where
  | status (message : RunStatusMessage)
  | activity (message : RunActivityMessage)
  | output (message : RunOutputDeltaMessage)
  | reply (message : RunReplyMessage)
  | supplemental (message : SupplementalMessage)

namespace OutboxMessage

def identity : OutboxMessage → MessageIdentity
  | .status m => m.identity
  | .activity m => m.identity
  | .output m => m.identity
  | .reply m => m.identity
  | .supplemental m => m.identity

/-- The sequence of a Run event; supplemental evidence has none. -/
def sequence? : OutboxMessage → Option Nat
  | .status m => some m.sequence
  | .activity m => some m.sequence
  | .output m => some m.sequence
  | .reply m => some m.sequence
  | .supplemental _ => none

end OutboxMessage

structure RunAcceptedMessage where
  identity : MessageIdentity
  sequence : Nat := 1
  materializations : Option (List Json) := none
  /-- `ArtifactMaterializationError` is set, always to the one fixed acknowledgement. -/
  materializationFailed : Bool := false

/-- What the delivery path writes to the socket. -/
inductive Outgoing where
  | accepted (message : RunAcceptedMessage)
  | event (message : OutboxMessage)

/-! ## Records -/

structure Record where
  runId : String
  idempotencyKey : String
  payloadHash : String
  request : RunRequest
  state : State
  lastSequence : Nat
  events : List OutboxMessage

structure CancellationTombstone where
  runId : String
  traceId : String
  agentId : String
  messageId : String
  reason : String
  deriving DecidableEq

def RunRequest.identity (request : RunRequest) : MessageIdentity where
  runId := request.runId
  agentId := request.targetAgentId
  traceId := request.traceId

/-! ## Inside the Bridge -/

/-- `VerifiedArtifactAlias`, as redaction reads it. -/
structure ArtifactAlias where
  localPath : String
  logicalAlias : String

structure Activity where
  id : String
  kind : String
  phase : String
  label : String
  content : String
  reset : Bool

structure OutputDelta where
  content : String
  reset : Bool

/-- `bridgeruntime.Event`: what an Agent adapter emits. -/
structure RuntimeEvent where
  status : Option RunExecutionStatus := none
  activity : Option Activity := none
  output : Option OutputDelta := none
  reply : String := ""
  assessment : Option AgentAssessment := none
  clarification : Option TaskClarificationRequest := none
  error : Option WireError := none
  session : Option RuntimeSession := none

/-- The hash of a request's JSON form, the text redaction, and the one setting the delivery path
reads. -/
structure Config where
  hashPayload : RunRequest → String
  redactRuntimeText : List ArtifactAlias → String → String
  shareReasoningSummaries : Bool

end AgentRoom.Bridge
