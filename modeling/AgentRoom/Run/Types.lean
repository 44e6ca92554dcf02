import Mathlib.Data.Rat.Defs
import AgentRoom.Lib.Table

/-!
# Run records

The rows Central keeps about a Run: its state, its event log, its cancellation
intent and its delivery, with the messages, agents and rooms they refer to.

Identifiers are opaque in the source and numbers here, drawn from one counter.
Timestamps are numbers of milliseconds.
-/

namespace AgentRoom

abbrev RunId := Nat
abbrev TraceId := Nat
abbrev RoomId := Nat
abbrev TaskId := Nat
abbrev MessageId := Nat
abbrev MemberId := Nat
abbrev TeamId := Nat
abbrev AgentId := Nat
abbrev DeviceId := Nat
abbrev OrchestrationKey := Nat
abbrev Time := Nat

/-- A thrown `Error`: its message. -/
abbrev Err := String

inductive RunState where
  | queued | delivered | working | inputRequired
  | completed | failed | canceled | expired | outcomeUnknown
  deriving DecidableEq

/-- The statuses a status event can carry: every Run state but `queued`. -/
inductive RuntimeStatus where
  | delivered | working | inputRequired
  | completed | failed | canceled | expired | outcomeUnknown
  deriving DecidableEq

/-- The state a status event moves a Run to. -/
def RuntimeStatus.toRunState : RuntimeStatus → RunState
  | .delivered => .delivered
  | .working => .working
  | .inputRequired => .inputRequired
  | .completed => .completed
  | .failed => .failed
  | .canceled => .canceled
  | .expired => .expired
  | .outcomeUnknown => .outcomeUnknown

/-- `terminalStates`. -/
def RunState.terminal : RunState → Bool
  | .completed | .failed | .canceled | .expired | .outcomeUnknown => true
  | .queued | .delivered | .working | .inputRequired => false

/-- The source's text for a Run state. -/
def stateText : RunState → String
  | .queued => "queued"
  | .delivered => "delivered"
  | .working => "working"
  | .inputRequired => "input_required"
  | .completed => "completed"
  | .failed => "failed"
  | .canceled => "canceled"
  | .expired => "expired"
  | .outcomeUnknown => "outcome_unknown"

/-! ## Runtime events -/

inductive SessionDisposition where
  | started | resumed | recreated
  deriving DecidableEq

/-- The diagnostic fields of a Runtime failure that survive `safeRuntimeFailureDetails`. -/
structure FailureDetails where
  category : Option String
  exitCode : Option Int
  stderrCaptured : Option Bool

structure RuntimeError where
  code : String
  message : String
  retryable : Bool
  details : Option FailureDetails := none

structure RoomContextConsumption where
  baseContextCursor : Nat
  checkpointId : Option Nat
  rawFromSequenceExclusive : Nat
  rawThroughSequenceInclusive : Nat
  rawMessageCount : Nat
  coverageThroughSequence : Nat

structure RuntimeSession where
  disposition : SessionDisposition
  contextCursor : Nat
  runtimeScopeId : Option String := none
  resultEvidenceRevision : Option Nat := none
  roomContextConsumption : Option RoomContextConsumption := none

structure TaskClarificationRequest where
  question : String
  choices : Option (List String)

structure StatusEvent where
  sequence : Nat
  status : RuntimeStatus
  error : Option RuntimeError := none
  session : Option RuntimeSession := none
  clarification : Option TaskClarificationRequest := none

inductive ActivityKind where
  | reasoning | tool
  deriving DecidableEq

inductive ActivityPhase where
  | started | updated | completed | failed
  deriving DecidableEq

structure ActivityEvent where
  sequence : Nat
  activityId : String
  kind : ActivityKind
  phase : ActivityPhase
  label : Option String
  content : Option String
  reset : Bool

structure OutputEvent where
  sequence : Nat
  content : String
  reset : Bool

inductive QuestionImportance where
  | low | medium | high
  deriving DecidableEq

structure OpenQuestion where
  id : String
  question : String
  importance : QuestionImportance
  deriving DecidableEq

inductive Disagreement where
  | none | low | medium | high
  deriving DecidableEq

inductive Recommendation where
  | continue | finish | waitHuman
  deriving DecidableEq

/-- An Agent's self-assessment; every field is optional. -/
structure AgentAssessment where
  goalSatisfied : Option Bool := .none
  confidence : Option ℚ := .none
  resolvedQuestionIds : Option (List String) := .none
  newEvidenceRefs : Option (List String) := .none
  openQuestions : Option (List OpenQuestion) := .none
  disagreementRemaining : Option Disagreement := .none
  newInformationAdded : Option Bool := .none
  reviewerApproved : Option Bool := .none
  recommendation : Option Recommendation := .none
  deriving DecidableEq

structure ReplyEvent where
  sequence : Nat
  content : String
  assessment : Option AgentAssessment := .none

inductive RuntimeEvent where
  | status (event : StatusEvent)
  | activity (event : ActivityEvent)
  | output (event : OutputEvent)
  | reply (event : ReplyEvent)

def RuntimeEvent.sequence : RuntimeEvent → Nat
  | .status e => e.sequence
  | .activity e => e.sequence
  | .output e => e.sequence
  | .reply e => e.sequence

/-- `event.type === "status" ? event.status : current.state`. -/
def RuntimeEvent.nextState (current : RunState) : RuntimeEvent → RunState
  | .status e => e.status.toRunState
  | .activity _ | .output _ | .reply _ => current

end AgentRoom
