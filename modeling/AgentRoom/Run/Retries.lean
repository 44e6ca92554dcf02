import AgentRoom.Run.System
import AgentRoom.Lib.Checks

/-!
# Retries

`acknowledgeAmbiguity` and `createRetry` of `RunRepository`, over Central and the tables they read
and write beside it. Both run as one transaction and are keyed by the caller's operation: a repeat
finds the row of the first and writes nothing.

A retry inherits the Room, Task, Agent and instruction of its parent, and takes the next attempt
number of the Task.
-/

namespace AgentRoom

/-- The caller's name of a request. -/
abbrev OperationId := String

inductive TaskLifecycle where
  | draft | ready | active | review | completed | canceled
  deriving DecidableEq

/-- What is read of a row of `agent_tasks`. -/
structure RetryTask where
  roomId : RoomId
  taskRevision : Nat
  lifecycleState : TaskLifecycle
  schedulingEnabled : Bool
  maxRunAttempts : Nat
  budgetRunAttempts : Nat
  maxExecutionDurationSeconds : Nat
  budgetExecutionDurationSeconds : Nat
  isDefault : Bool
  /-- It is in `execution_active_task_governance`. -/
  governed : Bool
  updatedAt : Time

/-- A row of `run_retry_operations`, keyed by its operation. -/
structure RetryOperation where
  parentRunId : RunId
  retryRunId : RunId
  createdByMemberId : MemberId
  createdAt : Time

/-- A row of `run_ambiguity_acknowledgements`, keyed by `runId`. -/
structure AmbiguityAcknowledgement where
  runId : RunId
  operationId : OperationId
  taskId : TaskId
  acknowledgedByMemberId : MemberId
  reason : String
  taskRevisionBefore : Nat
  taskRevisionAfter : Nat
  acknowledgedAt : Time

/-- **Central with the tables of retries.** -/
structure Lineage where
  central : Central
  tasks : Table TaskId RetryTask
  /-- `task_agent_assignments`. -/
  assignments : List (TaskId × AgentId)
  /-- `team_members`. -/
  members : List MemberId
  retryOperations : Table OperationId RetryOperation
  acknowledgements : Table RunId AmbiguityAcknowledgement

structure AcknowledgeInput where
  runId : RunId
  operationId : OperationId
  expectedTaskRevision : Nat
  memberId : MemberId
  reason : String
  now : Time

def AcknowledgeInput.row (input : AcknowledgeInput) (taskId : TaskId) :
    AmbiguityAcknowledgement where
  runId := input.runId
  operationId := input.operationId
  taskId
  acknowledgedByMemberId := input.memberId
  reason := input.reason
  taskRevisionBefore := input.expectedTaskRevision
  taskRevisionAfter := input.expectedTaskRevision + 1
  acknowledgedAt := input.now

structure RetryInput where
  parentRunId : RunId
  operationId : OperationId
  expectedTaskRevision : Nat
  memberId : MemberId
  now : Time
  deadlineAt : Time

def RetryInput.row (input : RetryInput) (retryRunId : RunId) : RetryOperation where
  parentRunId := input.parentRunId
  retryRunId
  createdByMemberId := input.memberId
  createdAt := input.now

/-- `GLOB 'op_*'`. -/
def operationPattern (operationId : OperationId) : Bool :=
  "op_".toList.isPrefixOf operationId.toList

namespace Lineage

/-- A program on Central, on the whole. -/
def onCentral {α : Type} (x : Db α) : Tx Lineage Err α := fun s =>
  ((x s.central).1, { s with central := (x s.central).2 })

/-- Throw unless the condition holds. -/
def require (c : Prop) [Decidable c] (e : Err) : Tx Lineage Err Unit :=
  if c then pure () else throw e

/-- What a check returns, or throws. -/
def check {α : Type} (x : Except Err α) : Tx Lineage Err α :=
  match x with
  | .ok a => pure a
  | .error e => throw e

/-- The value, or a throw. -/
def demand {α : Type} (o : Option α) (e : Err) : Tx Lineage Err α :=
  match o with
  | some a => pure a
  | none => throw e

/-! ## Acknowledging an ambiguous outcome -/

/-- The row of an operation: `operation_id` is unique. -/
def acknowledgementOf (s : Lineage) (operationId : OperationId) : Option AmbiguityAcknowledgement :=
  s.acknowledgements.rows.find? (·.operationId = operationId)

def recordAcknowledgement (input : AcknowledgeInput) (run : RunRecord) : Tx Lineage Err Unit := do
  let s ← get
  let task ← demand ((s.tasks.get run.taskId).filter
    (·.taskRevision = input.expectedTaskRevision)) "Task revision conflict"
  require (operationPattern input.operationId = true ∧ trimmedWithin input.reason 1000 = true ∧
    0 < input.expectedTaskRevision) "CHECK constraint failed"
  require (input.memberId ∈ s.members) "FOREIGN KEY constraint failed"
  set { s with
    tasks := s.tasks.put run.taskId
      { task with taskRevision := task.taskRevision + 1, updatedAt := input.now }
    acknowledgements := s.acknowledgements.put input.runId (input.row run.taskId) }

/-- The transaction of `acknowledgeAmbiguity`. -/
def acknowledgeOnce (input : AcknowledgeInput) : Tx Lineage Err Unit := do
  let s ← get
  match s.acknowledgementOf input.operationId with
  | some operation =>
    require (operation.runId = input.runId) "Ambiguity operation is bound to another Run"
  | none => do
      let run ← demand ((s.central.runs.get input.runId).filter (·.state = .outcomeUnknown))
        "Only an outcome_unknown Run may be acknowledged"
      require (s.acknowledgements.get input.runId = none) "Run ambiguity is already acknowledged"
      recordAcknowledgement input run

/-- **`acknowledgeAmbiguity`.** -/
def acknowledgeAmbiguity (input : AcknowledgeInput) :
    Tx Lineage Err (Option AmbiguityAcknowledgement) := do
  Tx.immediate (acknowledgeOnce input)
  return (← get).acknowledgements.get input.runId

/-! ## Retrying a Run -/

variable (services : Services)

/-- What is asked of the parent and its Task. -/
def retryable (s : Lineage) (input : RetryInput) : Except Err RunRecord := do
  let parent ← Except.demand ((s.central.runs.get input.parentRunId).filter fun parent =>
    parent.state.terminal && parent.state ≠ .completed)
    "Only an unsuccessful terminal Run may be retried"
  Except.require (parent.state = .outcomeUnknown → (s.acknowledgements.get parent.runId).isSome)
    "Ambiguous Run outcome requires acknowledgement before retry"
  let task ← Except.demand ((s.tasks.get parent.taskId).filter
    (·.taskRevision = input.expectedTaskRevision)) "Task revision conflict"
  Except.require (task.lifecycleState ∈ [.ready, .active, .review] ∧ task.schedulingEnabled = true)
    "Run Task is not schedulable"
  Except.require (task.budgetRunAttempts < task.maxRunAttempts ∧
    task.budgetExecutionDurationSeconds < task.maxExecutionDurationSeconds)
    "Task budget is exhausted"
  Except.require (task.isDefault = true ∨ (parent.taskId, parent.targetAgentId) ∈ s.assignments)
    "Retry target is no longer assigned to the Task"
  pure parent

/-- `INSERT INTO messages`: the trigger of the retry. -/
def insertRetryTrigger (input : RetryInput) (parent : RunRecord) (messageId : MessageId)
    (sequence : Nat) : Db Unit :=
  modify fun db => { db with
    messages := db.messages.put messageId
      { messageId, traceId := parent.traceId, roomId := parent.roomId, taskId := parent.taskId,
        sequence, senderType := .member, senderId := input.memberId, content := parent.instruction
        parentMessageId := some parent.triggerMessageId, createdAt := input.now } }

def retryRequest (input : RetryInput) (parent : RunRecord) (runId : RunId)
    (triggerMessageId : MessageId) : RunRequest where
  runId
  traceId := parent.traceId
  roomId := parent.roomId
  taskId := parent.taskId
  triggerMessageId
  requesterMemberId := input.memberId
  targetAgentId := parent.targetAgentId
  parentRunId := none
  retryOfRunId := some parent.runId
  instruction := parent.instruction
  deadlineAt := input.deadlineAt
  createdAt := input.now

/-- What `INSERT INTO runs` refuses, of a Run without an execution admission. -/
def checkRunInsert (s : Lineage) (request : RunRequest) : Except Err Unit := do
  Except.require (1 ≤ request.instruction.length ∧ request.instruction.length ≤ 20000)
    "CHECK constraint failed: length(instruction) BETWEEN 1 AND 20000"
  Except.require ((s.tasks.get request.taskId).any (·.roomId = request.roomId) = true)
    "Run Task must belong to its Room"
  Except.require ((s.tasks.get request.taskId).any (·.governed) = false)
    "Governed Task requires exact execution admission"
  Except.require (∀ parentRunId, request.retryOfRunId = some parentRunId →
    (s.central.runs.get parentRunId).any (fun parent =>
      parent.taskId = request.taskId && parent.roomId = request.roomId &&
        parent.targetAgentId = request.targetAgentId &&
        decide (parent.attemptNumber < request.attemptNumber.getD
          (s.central.nextAttemptNumber request.taskId))) = true) "Run retry lineage is invalid"
  Except.require (∀ other ∈ s.central.runs.rows,
    ¬ (other.triggerMessageId = request.triggerMessageId ∧
      other.targetAgentId = request.targetAgentId))
    "UNIQUE constraint failed: runs.trigger_message_id, runs.target_agent_id"

/-- `task_budget_count_run_insert`. -/
def countRun (taskId : TaskId) : Tx Lineage Err Unit :=
  modify fun s => match s.tasks.get taskId with
    | some task => { s with
        tasks := s.tasks.put taskId { task with budgetRunAttempts := task.budgetRunAttempts + 1 } }
    | none => s

/-- `createRuns`, of one Run. -/
def createRun (request : RunRequest) : Tx Lineage Err Unit :=
  Tx.immediate do
    check ((← get).checkRunInsert request)
    onCentral (RunRepository.insertRunIdentity request)
    countRun request.taskId
    onCentral (RunRepository.freezeContextManifest services request.runId)

/-- `INSERT INTO run_retry_operations`. -/
def recordRetryOperation (input : RetryInput) (retryRunId : RunId) : Tx Lineage Err Unit := do
  require (operationPattern input.operationId = true) "CHECK constraint failed"
  require (input.memberId ∈ (← get).members) "FOREIGN KEY constraint failed"
  modify fun s => { s with
    retryOperations := s.retryOperations.put input.operationId (input.row retryRunId) }

def writeRetry (input : RetryInput) (parent : RunRecord) : Tx Lineage Err RunId := do
  let retryRunId ← onCentral createOpaqueId
  let retryTriggerMessageId ← onCentral createOpaqueId
  let sequence ← onCentral (RunRepository.nextMessageSequence parent.roomId)
  onCentral (insertRetryTrigger input parent retryTriggerMessageId sequence)
  createRun services (retryRequest input parent retryRunId retryTriggerMessageId)
  recordRetryOperation input retryRunId
  pure retryRunId

/-- The transaction of `createRetry`. -/
def retryOnce (input : RetryInput) : Tx Lineage Err RunId := do
  let s ← get
  match s.retryOperations.get input.operationId with
  | some replay => do
      require (replay.parentRunId = input.parentRunId) "Retry operation is bound to another Run"
      pure replay.retryRunId
  | none => do
      let parent ← check (s.retryable input)
      writeRetry services input parent

/-- **`createRetry`.** -/
def createRetry (input : RetryInput) : Tx Lineage Err (Option RunRecord) := do
  let retryRunId ← Tx.immediate (retryOnce services input)
  return (← get).central.runs.get retryRunId

end Lineage

/-- A step: a request, or a step of Central, with what other services do to the Tasks. -/
inductive LineageStep where
  | acknowledge (input : AcknowledgeInput)
  | retry (input : RetryInput)
  | elsewhere (label : Label)

/-- **Retries and what surrounds them.** Requests are transactions, one after another, in any
order and as often as they are made. -/
def lineage (services : Services) : System Lineage LineageStep where
  init s := (central services).init s.central ∧ s.retryOperations = .empty ∧
    s.acknowledgements = .empty
  step i s s' := match i with
    | .acknowledge input => s' = (Lineage.acknowledgeAmbiguity input s).2
    | .retry input => s' = (Lineage.createRetry services input s).2
    | .elsewhere label => (central services).step label s.central s'.central ∧
        s'.retryOperations = s.retryOperations ∧ s'.acknowledgements = s.acknowledgements

end AgentRoom
