import AgentRoom.Run.Retries

/-!
# Results of a Task

`ResultRepository` and the mutations of `AgentTaskRepository`: a Result is proposed, superseded,
accepted or rejected, each in one transaction that also advances the revision of its Task. A
transaction that finds the operation of the caller among the rows is a replay and writes nothing.

What other tables refuse (the scope of a proposer and of evidence, the governance of a Task, work
that is under way) is an answer of the host.
-/

namespace AgentRoom.Results

open Tx

abbrev ResultId := Nat
abbrev DiscussionId := Nat
abbrev ArtifactId := Nat
abbrev MemoryId := Nat
abbrev BlockId := Nat
abbrev CriterionKey := String

/-! ## Tasks -/

inductive CompletionPolicy where
  | ownerConfirmed | acceptedResultRequired
  deriving DecidableEq

inductive TaskPriority where
  | low | normal | high | urgent
  deriving DecidableEq

inductive AssignmentRole where
  | primary | contributor | reviewer
  deriving DecidableEq

structure TaskCriterion where
  criterionKey : CriterionKey
  description : String
  required : Bool
  ordinal : Nat
  deriving DecidableEq

/-- A row of `agent_tasks`, with its assignments. -/
structure TaskRow where
  roomId : RoomId
  title : String
  goal : String
  ownerMemberId : MemberId
  lifecycleState : TaskLifecycle
  schedulingEnabled : Bool
  completionPolicy : CompletionPolicy
  priority : TaskPriority
  dueAt : Option Time
  taskRevision : Nat
  definitionRevision : Nat
  criteriaRevision : Nat
  assignments : List (AgentId × AssignmentRole)
  maxRunAttempts : Nat
  maxExecutionDurationSeconds : Nat
  completionResultId : Option ResultId
  isDefault : Bool
  updatedAt : Time

/-- A row of `task_blocks`. -/
structure BlockRow where
  taskId : TaskId
  reason : String
  createdByMemberId : MemberId
  createdAt : Time
  resolved : Option (MemberId × Time)

/-- A row of `task_mutation_operations`. -/
structure TaskOperation where
  taskId : TaskId
  resultingTaskRevision : Nat
  createdAt : Time

/-! ## Results -/

inductive ResultOutcome where
  | satisfied | partially | notSatisfied | informational
  deriving DecidableEq

inductive ResultState where
  | proposed | accepted | rejected | superseded
  deriving DecidableEq

inductive ReviewDecision where
  | accepted | rejected
  deriving DecidableEq

inductive Coverage where
  | satisfied | unresolved | notSatisfied | notApplicable
  deriving DecidableEq

/-- What a piece of evidence refers to. -/
inductive Evidence where
  | artifact (artifactId : ArtifactId)
  | runEvent (runId : RunId) (sequence : Nat)
  | message (messageId : MessageId)
  | memory (memoryId : MemoryId)
  | discussion (discussionId : DiscussionId)

def Evidence.isArtifact : Evidence → Bool
  | .artifact _ => true
  | _ => false

structure ResultSource where
  evidenceRefId : String
  evidence : Evidence

structure CriterionClaim where
  criterionKey : CriterionKey
  coverage : Coverage
  explanation : String
  evidenceRefIds : List String

structure NextAction where
  nextActionKey : String
  description : String

structure ResultProposal where
  operationId : OperationId
  taskId : TaskId
  definitionRevision : Nat
  criteriaRevision : Nat
  proposedAtTaskRevision : Nat
  supersedesResultId : Option ResultId
  outcome : ResultOutcome
  summary : String
  risks : List String
  openQuestions : List String
  nextActions : List NextAction
  sources : List ResultSource
  criterionClaims : List CriterionClaim

inductive ResultActor where
  | member (memberId : MemberId)
  | manualAgent (agentId : AgentId) (runId : RunId)
  | managedAgent (agentId : AgentId) (runId : RunId)
  | orchestrator (discussionId : DiscussionId)

/-- A row of `task_results`, with the rows of its actions, evidence and claims. -/
structure ResultRow where
  resultId : ResultId
  roomId : RoomId
  resultVersion : Nat
  state : ResultState
  proposal : ResultProposal
  proposedBy : ResultActor
  proposedAt : Time

/-- A row of `result_reviews`. -/
structure ReviewRow where
  resultId : ResultId
  operationId : OperationId
  decision : ReviewDecision
  reviewRevision : Nat
  reviewedByMemberId : MemberId
  reason : String
  taskRevisionBefore : Nat
  taskRevisionAfter : Nat
  completedTask : Bool
  reviewedAt : Time

structure ResultProjection where
  result : ResultRow
  review : Option ReviewRow

/-- A row of `run_ambiguity_acknowledgements`. -/
structure AcknowledgementRow where
  runId : RunId
  operationId : OperationId
  taskId : TaskId
  taskRevisionBefore : Nat
  taskRevisionAfter : Nat

/-- **The tables.** -/
structure ResultDb where
  tasks : Table TaskId TaskRow
  /-- `task_criteria_entries`, of a Task and a revision of its criteria. -/
  criteria : Table (TaskId × Nat) (List TaskCriterion)
  results : Table ResultId ResultRow
  reviews : Table ResultId ReviewRow
  operations : Table OperationId TaskOperation
  blocks : Table BlockId BlockRow
  acknowledgements : Table RunId AcknowledgementRow

namespace ResultDb

def blank : ResultDb := ⟨.empty, .empty, .empty, .empty, .empty, .empty, .empty⟩

/-- `ResultRepository.get`. -/
def getResult (db : ResultDb) (resultId : ResultId) : Option ResultProjection :=
  (db.results.get resultId).map fun row => ⟨row, db.reviews.get resultId⟩

def resultsOf (db : ResultDb) (taskId : TaskId) : List ResultRow :=
  db.results.rows.filter (·.proposal.taskId = taskId)

/-- `COALESCE(MAX(result_version), 0) + 1`. -/
def nextVersion (db : ResultDb) (taskId : TaskId) : Nat :=
  ((db.resultsOf taskId).map (·.resultVersion)).foldr max 0 + 1

/-- The row of an operation: `operation_id` is unique. -/
def resultOfOperation (db : ResultDb) (operationId : OperationId) : Option ResultRow :=
  db.results.rows.find? (·.proposal.operationId = operationId)

def reviewOfOperation (db : ResultDb) (operationId : OperationId) : Option ReviewRow :=
  db.reviews.rows.find? (·.operationId = operationId)

def acknowledgementOfOperation (db : ResultDb) (operationId : OperationId) :
    Option AcknowledgementRow :=
  db.acknowledgements.rows.find? (·.operationId = operationId)

/-- The criteria of a Task as it is read. -/
def currentCriteria (db : ResultDb) (taskId : TaskId) (task : TaskRow) : List TaskCriterion :=
  ((db.criteria.get (taskId, task.criteriaRevision)).getD []).mergeSort fun a b =>
    a.ordinal < b.ordinal || (a.ordinal = b.ordinal && a.criterionKey ≤ b.criterionKey)

end ResultDb

abbrev ResultTx (α : Type) := Tx ResultDb Err α

/-- Throw unless the condition holds. -/
def require (c : Prop) [Decidable c] (e : Err) : ResultTx Unit :=
  if c then pure () else throw e

/-- The value, or a throw. -/
def demand {α : Type} (o : Option α) (e : Err) : ResultTx α :=
  match o with
  | some a => pure a
  | none => throw e

/-- **What other tables answer** while a call runs. -/
structure ResultHost where
  /-- `result_evidence_refs_require_task_scope_insert` and
  `task_results_require_proposer_scope_insert`. -/
  inScope : Bool
  /-- A trigger of the governance of a Task, or a key into another table, aborts the call. -/
  aborts : Bool
  /-- A Run, a Discussion or a clarification of the Task is under way. -/
  activeWork : Bool
  /-- A Run of the Task has an outcome that is unknown and not acknowledged. -/
  ambiguity : Bool
  /-- The Task of a Run whose outcome is unknown. -/
  unknownRun : RunId → Option TaskId
  /-- `createOpaqueId`. -/
  createOpaqueId : Nat

variable (host : ResultHost)

/-! ## Writing -/

/-- The checks and the keys of the rows of a proposal. -/
def storable (db : ResultDb) (proposal : ResultProposal) : Bool :=
  operationPattern proposal.operationId && 0 < proposal.definitionRevision &&
    0 < proposal.criteriaRevision && 0 < proposal.proposedAtTaskRevision &&
    trimmedWithin proposal.summary 20000 &&
    proposal.nextActions.length ≤ 50 && (proposal.nextActions.map (·.nextActionKey)).Nodup &&
    proposal.nextActions.all (fun action => trimmedWithin action.description 2000) &&
    proposal.sources.length ≤ 100 && (proposal.sources.map (·.evidenceRefId)).Nodup &&
    proposal.criterionClaims.length ≤ 100 &&
    (proposal.criterionClaims.map (·.criterionKey)).Nodup &&
    proposal.criterionClaims.all fun claim =>
      trimmedWithin claim.explanation 4000 && claim.evidenceRefIds.length ≤ 100 &&
        claim.evidenceRefIds.Nodup &&
        claim.evidenceRefIds.all (fun id => proposal.sources.any (·.evidenceRefId = id)) &&
        ((db.criteria.get (proposal.taskId, proposal.criteriaRevision)).getD []).any
          (·.criterionKey = claim.criterionKey)

/-- `task_results_require_supersession_scope_insert`, and the key of the column. -/
def supersedable (db : ResultDb) (roomId : RoomId) (proposal : ResultProposal) : Bool :=
  match proposal.supersedesResultId with
  | none => true
  | some previousId =>
    (db.results.get previousId).any (fun previous =>
      previous.proposal.taskId = proposal.taskId && previous.roomId = roomId &&
        (previous.state = .proposed || previous.state = .rejected)) &&
      db.results.rows.all fun row => row.proposal.supersedesResultId ≠ some previousId

/-- `agent_tasks_require_valid_completion_result_update`: the criteria that need a claim have one,
with an Artifact. -/
def criteriaCovered (db : ResultDb) (taskId : TaskId) (criteriaRevision : Nat)
    (result : ResultRow) : Bool :=
  ((db.criteria.get (taskId, criteriaRevision)).getD []).all fun criterion =>
    !criterion.required || result.proposal.criterionClaims.any fun claim =>
      claim.criterionKey = criterion.criterionKey && claim.coverage = .satisfied &&
        claim.evidenceRefIds.any fun id => result.proposal.sources.any fun source =>
          source.evidenceRefId = id && source.evidence.isArtifact

/-- `agent_tasks_require_valid_completion_result_update`. -/
def completionValid (db : ResultDb) (taskId : TaskId) (task : TaskRow) : Bool :=
  match task.completionResultId with
  | none =>
    task.lifecycleState ≠ .completed || task.completionPolicy ≠ .acceptedResultRequired
  | some resultId =>
    (db.results.get resultId).any fun result =>
      result.proposal.taskId = taskId && result.state = .accepted &&
        result.proposal.definitionRevision = task.definitionRevision &&
        result.proposal.criteriaRevision = task.criteriaRevision &&
        (task.lifecycleState ≠ .completed ||
          criteriaCovered db taskId task.criteriaRevision result)

/-- `agent_tasks_protect_permanent_default_update`. -/
def defaultKept (task task' : TaskRow) : Bool :=
  !task.isDefault ||
    (task'.isDefault && task'.lifecycleState = .active && task'.schedulingEnabled)

/-- `UPDATE agent_tasks ... WHERE task_id = ? AND task_revision = ?`. -/
def advanceTask (taskId : TaskId) (expected : Nat) (change : TaskRow → TaskRow) :
    ResultTx Unit := do
  let db ← get
  let task ← demand ((db.tasks.get taskId).filter (·.taskRevision = expected))
    "Task revision conflict"
  let task' := { change task with taskRevision := task.taskRevision + 1 }
  require (completionValid db taskId task' = true ∧ defaultKept task task' = true)
    "Task completion Result is invalid or stale"
  set { db with tasks := db.tasks.put taskId task' }

def setResultState (resultId : ResultId) (state : ResultState) : ResultTx Unit :=
  modify fun db => match db.results.get resultId with
    | some row => { db with results := db.results.put resultId { row with state } }
    | none => db

/-! ## `ResultRepository` -/

structure CreateInput where
  roomId : RoomId
  proposal : ResultProposal
  actor : ResultActor
  now : Time

def CreateInput.row (input : CreateInput) (resultId : ResultId) (resultVersion : Nat) :
    ResultRow where
  resultId
  roomId := input.roomId
  resultVersion
  state := .proposed
  proposal := input.proposal
  proposedBy := input.actor
  proposedAt := input.now

/-- What is asked of the Task of a proposal. -/
def proposable (input : CreateInput) : ResultTx Unit := do
  let db ← get
  let task ← demand ((db.tasks.get input.proposal.taskId).filter (·.roomId = input.roomId))
    "Result Task is unavailable"
  require (task.lifecycleState = .active ∨ task.lifecycleState = .review)
    "Only an active or review Task may receive a Result proposal"
  require (task.taskRevision = input.proposal.proposedAtTaskRevision) "Task revision conflict"
  require (task.definitionRevision = input.proposal.definitionRevision ∧
    task.criteriaRevision = input.proposal.criteriaRevision)
    "Result proposal revisions are stale"

/-- `INSERT INTO task_results`, and the rows of its actions, evidence and claims. -/
def insertResult (input : CreateInput) : ResultTx ResultId := do
  let db ← get
  let resultId := host.createOpaqueId
  require (db.results.get resultId = none) "UNIQUE constraint failed: task_results.result_id"
  require (host.inScope = true ∧ host.aborts = false)
    "Result evidence must belong to the same Task scope"
  require (supersedable db input.roomId input.proposal = true)
    "Result supersession must replace a correctable Task Result"
  require (storable db input.proposal = true) "CHECK constraint failed"
  set { db with
    results := db.results.put resultId
      (input.row resultId (db.nextVersion input.proposal.taskId)) }
  pure resultId

/-- `UPDATE task_results SET state = 'superseded'`. -/
def supersede (resultId : ResultId) : ResultTx Unit := do
  let db ← get
  require ((db.results.get resultId).any (fun row =>
    row.state = .proposed || row.state = .rejected) = true) "Result supersession conflict"
  setResultState resultId .superseded

/-- The transaction of `create`. -/
def createOnce (input : CreateInput) : ResultTx ResultId := do
  let db ← get
  match db.resultOfOperation input.proposal.operationId with
  | some replay => do
      require (replay.proposal.taskId = input.proposal.taskId)
        "Result operation is bound to another Task"
      pure replay.resultId
  | none => do
      proposable input
      let resultId ← insertResult host input
      Tx.whenSome input.proposal.supersedesResultId supersede
      advanceTask input.proposal.taskId input.proposal.proposedAtTaskRevision
        fun task => { task with updatedAt := input.now }
      pure resultId

/-- **`create`.** -/
def create (input : CreateInput) : ResultTx (Option ResultProjection) := do
  let resultId ← Tx.immediate (createOnce host input)
  return (← get).getResult resultId

/-- `ResultReviewCommand`. -/
structure ReviewCommand where
  operationId : OperationId
  decision : ReviewDecision
  expectedTaskRevision : Nat
  expectedReviewRevision : Nat
  reason : String
  completeTask : Bool

structure ReviewInput where
  resultId : ResultId
  memberId : MemberId
  command : ReviewCommand
  now : Time

def ReviewInput.row (input : ReviewInput) : ReviewRow where
  resultId := input.resultId
  operationId := input.command.operationId
  decision := input.command.decision
  reviewRevision := 1
  reviewedByMemberId := input.memberId
  reason := input.command.reason
  taskRevisionBefore := input.command.expectedTaskRevision
  taskRevisionAfter := input.command.expectedTaskRevision + 1
  completedTask := input.command.completeTask
  reviewedAt := input.now

/-- `ResultReviewOutcome`. -/
structure ReviewOutcome where
  result : Option ResultProjection
  taskRevisionBefore : Nat
  taskRevisionAfter : Nat
  completedTask : Bool

def ReviewDecision.state : ReviewDecision → ResultState
  | .accepted => .accepted
  | .rejected => .rejected

def requireCompletable (result : ResultRow) (task : TaskRow) : ResultTx Unit := do
  let db ← get
  require (result.proposal.outcome = .satisfied ∨ result.proposal.outcome = .partially)
    "Result outcome cannot complete the Task"
  require (task.isDefault = false) "Default Task is permanently active"
  require (task.lifecycleState = .active ∨ task.lifecycleState = .review)
    "Task is not in a completable lifecycle state"
  require (host.activeWork = false) "Task has active work"
  require (host.ambiguity = false) "Task has an unacknowledged ambiguous outcome"
  require (db.blocks.rows.all (fun block =>
    block.taskId ≠ result.proposal.taskId || block.resolved.isSome) = true)
    "Task has an unresolved block"
  require (criteriaCovered db result.proposal.taskId result.proposal.criteriaRevision result = true)
    "Every required criterion needs a satisfied claim with Artifact evidence"

/-- What is asked of a Result and its Task. -/
def reviewable (input : ReviewInput) : ResultTx ResultRow := do
  require (input.command.expectedReviewRevision = 0) "Result review revision conflict"
  let db ← get
  let result ← demand ((db.results.get input.resultId).filter (·.state = .proposed))
    "Only a proposed Result may be reviewed"
  let task ← demand (db.tasks.get result.proposal.taskId)
    "Cannot read properties of undefined"
  require (task.taskRevision = input.command.expectedTaskRevision) "Task revision conflict"
  require (input.command.completeTask = true → input.command.decision = .accepted)
    "Only an accepted Result may complete a Task"
  require (input.command.decision = .accepted →
    result.proposal.definitionRevision = task.definitionRevision ∧
      result.proposal.criteriaRevision = task.criteriaRevision) "Stale Result cannot be accepted"
  Tx.when (input.command.completeTask = true) (requireCompletable host result task)
  pure result

/-- `INSERT INTO result_reviews`. -/
def insertReview (input : ReviewInput) : ResultTx Unit := do
  let db ← get
  require (host.aborts = false) "Governed Result requires verified execution review"
  require (db.reviews.get input.resultId = none)
    "UNIQUE constraint failed: result_reviews.result_id"
  require (operationPattern input.command.operationId = true ∧
    0 < input.command.expectedTaskRevision ∧ trimmedWithin input.command.reason 4000 = true)
    "CHECK constraint failed"
  set { db with reviews := db.reviews.put input.resultId input.row }

/-- The change of the Task that a review makes. -/
def ReviewInput.change (input : ReviewInput) (task : TaskRow) : TaskRow :=
  if input.command.completeTask then
    { task with
      lifecycleState := .completed
      completionResultId := some input.resultId
      updatedAt := input.now }
  else { task with updatedAt := input.now }

/-- The transaction of `review`. -/
def reviewOnce (input : ReviewInput) : ResultTx ReviewOutcome := do
  let db ← get
  match db.reviewOfOperation input.command.operationId with
  | some replay => do
      require (replay.resultId = input.resultId) "Review operation is bound to another Result"
      pure {
        result := db.getResult input.resultId
        taskRevisionBefore := replay.taskRevisionBefore
        taskRevisionAfter := replay.taskRevisionAfter
        completedTask := replay.completedTask }
  | none => do
      let result ← reviewable host input
      insertReview host input
      setResultState input.resultId input.command.decision.state
      advanceTask result.proposal.taskId input.command.expectedTaskRevision input.change
      pure {
        result := (← get).getResult input.resultId
        taskRevisionBefore := input.command.expectedTaskRevision
        taskRevisionAfter := input.command.expectedTaskRevision + 1
        completedTask := input.command.completeTask }

/-- **`review`.** -/
def review (input : ReviewInput) : ResultTx ReviewOutcome := Tx.immediate (reviewOnce host input)

/-! ## `AgentTaskRepository` -/

def isOperationReplay (operationId : OperationId) (taskId : TaskId) : ResultTx Bool := do
  match (← get).operations.get operationId with
  | none => pure false
  | some operation => do
      require (operation.taskId = taskId) "Task operation is already bound to another Task"
      pure true

def requireRevision (taskId : TaskId) (expected : Nat) : ResultTx TaskRow := do
  let task ← demand ((← get).tasks.get taskId) "Task not found"
  require (task.taskRevision = expected) "Task revision conflict"
  pure task

def recordOperation (operationId : OperationId) (taskId : TaskId) (revision : Nat) (now : Time) :
    ResultTx Unit := do
  require (operationPattern operationId = true ∧ 0 < revision) "CHECK constraint failed"
  require ((← get).operations.get operationId = none)
    "UNIQUE constraint failed: task_mutation_operations.operation_id"
  modify fun db => { db with
    operations := db.operations.put operationId ⟨taskId, revision, now⟩ }

/-- What every mutation of a Task names. -/
structure MutationInput where
  taskId : TaskId
  operationId : OperationId
  expectedTaskRevision : Nat
  now : Time

/-- The frame of the mutations: a replay writes nothing, and a change of the Task is written with
the rows beside it, and recorded. -/
def mutate (input : MutationInput) (beside : TaskRow → ResultTx Unit)
    (change : TaskRow → TaskRow) : ResultTx Unit :=
  Tx.immediate do
    if ← isOperationReplay input.operationId input.taskId then pure ()
    else do
      let current ← requireRevision input.taskId input.expectedTaskRevision
      require (host.aborts = false) "Governed Task completion policy cannot be weakened"
      beside current
      advanceTask input.taskId input.expectedTaskRevision change
      recordOperation input.operationId input.taskId (current.taskRevision + 1) input.now

def fenceRevision (input : MutationInput) : ResultTx Unit :=
  mutate host input (fun _ => pure ()) fun task => { task with updatedAt := input.now }

structure DefinitionInput where
  title : String
  goal : String
  ownerMemberId : MemberId
  completionPolicy : CompletionPolicy
  priority : TaskPriority
  dueAt : Option Time
  criteria : List TaskCriterion
  assignments : List (AgentId × AssignmentRole)
  maxRunAttempts : Nat
  maxExecutionDurationSeconds : Nat

/-- The criteria are others. -/
def criteriaChanged (db : ResultDb) (taskId : TaskId) (task : TaskRow)
    (definition : DefinitionInput) : Bool :=
  db.currentCriteria taskId task ≠ definition.criteria

/-- `insertCriteriaRevision`. -/
def insertCriteria (input : MutationInput) (definition : DefinitionInput) (task : TaskRow) :
    ResultTx Unit := do
  let db ← get
  Tx.when (criteriaChanged db input.taskId task definition = true) do
    require (db.criteria.get (input.taskId, task.criteriaRevision + 1) = none)
      "UNIQUE constraint failed: task_criteria_revisions"
    set { db with
      criteria := db.criteria.put (input.taskId, task.criteriaRevision + 1) definition.criteria }

/-- The change of a definition, in the tables it is held against. -/
def DefinitionInput.change (definition : DefinitionInput) (changed : Bool) (now : Time)
    (task : TaskRow) : TaskRow :=
  { task with
    title := definition.title
    goal := definition.goal
    ownerMemberId := definition.ownerMemberId
    completionPolicy := definition.completionPolicy
    priority := definition.priority
    dueAt := definition.dueAt
    definitionRevision := task.definitionRevision +
      (if task.title ≠ definition.title ∨ task.goal ≠ definition.goal ∨ changed = true
        then 1 else 0)
    criteriaRevision := task.criteriaRevision + (if changed then 1 else 0)
    assignments := definition.assignments
    maxRunAttempts := definition.maxRunAttempts
    maxExecutionDurationSeconds := definition.maxExecutionDurationSeconds
    updatedAt := now }

def updateDefinition (input : MutationInput) (definition : DefinitionInput) : ResultTx Unit := do
  let db ← get
  let changed := (db.tasks.get input.taskId).any fun task =>
    criteriaChanged db input.taskId task definition
  mutate host input (insertCriteria input definition) (definition.change changed input.now)

def updateControl (input : MutationInput) (lifecycleState : Option TaskLifecycle)
    (schedulingEnabled : Option Bool) : ResultTx Unit :=
  mutate host input (fun _ => pure ()) fun task =>
    { task with
      lifecycleState := lifecycleState.getD task.lifecycleState
      schedulingEnabled := schedulingEnabled.getD task.schedulingEnabled
      updatedAt := input.now }

/-- `INSERT INTO task_blocks`. -/
def insertBlock (input : MutationInput) (reason : String) (memberId : MemberId) :
    ResultTx Unit := do
  let db ← get
  require (db.blocks.get host.createOpaqueId = none ∧ trimmedWithin reason 2000 = true)
    "UNIQUE constraint failed: task_blocks.block_id"
  set { db with
    blocks := db.blocks.put host.createOpaqueId
      ⟨input.taskId, reason, memberId, input.now, none⟩ }

def addBlock (input : MutationInput) (reason : String) (memberId : MemberId) : ResultTx Unit :=
  mutate host input (fun _ => insertBlock host input reason memberId)
    fun task => { task with updatedAt := input.now }

/-- `UPDATE task_blocks SET state = 'resolved'`. -/
def closeBlock (input : MutationInput) (blockId : BlockId) (memberId : MemberId) :
    ResultTx Unit := do
  let db ← get
  let block ← demand ((db.blocks.get blockId).filter fun block =>
    block.taskId = input.taskId && block.resolved.isNone) "Open Task block not found"
  set { db with
    blocks := db.blocks.put blockId { block with resolved := some (memberId, input.now) } }

def resolveBlock (input : MutationInput) (blockId : BlockId) (memberId : MemberId) :
    ResultTx Unit :=
  mutate host input (fun _ => closeBlock input blockId memberId)
    fun task => { task with updatedAt := input.now }

/-- `update`, without an operation and without an expected revision. -/
def update (taskId : TaskId) (title goal : String) (lifecycleState : TaskLifecycle) (now : Time) :
    ResultTx Unit :=
  Tx.immediate do
    let db ← get
    let current ← demand (db.tasks.get taskId) "Task not found"
    require (host.aborts = false) "Governed Task completion policy cannot be weakened"
    advanceTask taskId current.taskRevision fun task =>
      { task with
        title
        goal
        lifecycleState
        definitionRevision := task.definitionRevision +
          (if task.title ≠ title ∨ task.goal ≠ goal then 1 else 0)
        updatedAt := now }

/-- `create`, of a Task. -/
def createTask (taskId : TaskId) (task : TaskRow) (criteria : List TaskCriterion) :
    ResultTx Unit :=
  Tx.immediate do
    let db ← get
    require (db.tasks.get taskId = none) "UNIQUE constraint failed: agent_tasks.task_id"
    require (host.aborts = false ∧ 0 < task.taskRevision) "CHECK constraint failed"
    set { db with
      tasks := db.tasks.put taskId task
      criteria := db.criteria.put (taskId, task.criteriaRevision) criteria }

structure AcknowledgeInput where
  runId : RunId
  operationId : OperationId
  expectedTaskRevision : Nat
  now : Time

/-- The transaction of `RunRepository.acknowledgeAmbiguity`. -/
def acknowledgeOnce (input : AcknowledgeInput) : ResultTx Unit := do
  let db ← get
  match db.acknowledgementOfOperation input.operationId with
  | some operation =>
    require (operation.runId = input.runId) "Ambiguity operation is bound to another Run"
  | none => do
      let taskId ← demand (host.unknownRun input.runId)
        "Only an outcome_unknown Run may be acknowledged"
      require (db.acknowledgements.get input.runId = none) "Run ambiguity is already acknowledged"
      advanceTask taskId input.expectedTaskRevision fun task => { task with updatedAt := input.now }
      require (host.aborts = false ∧ operationPattern input.operationId = true)
        "CHECK constraint failed"
      modify fun db => { db with
        acknowledgements := db.acknowledgements.put input.runId {
          runId := input.runId
          operationId := input.operationId
          taskId
          taskRevisionBefore := input.expectedTaskRevision
          taskRevisionAfter := input.expectedTaskRevision + 1 } }

/-- `RunRepository.acknowledgeAmbiguity`. -/
def acknowledgeAmbiguity (input : AcknowledgeInput) : ResultTx Unit :=
  Tx.immediate (acknowledgeOnce host input)

end AgentRoom.Results
