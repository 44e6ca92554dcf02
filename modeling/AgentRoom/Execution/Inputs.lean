import AgentRoom.Execution.Compilation

/-!
# The inputs of a Run

`ExecutionInputService.freezeForRun` and the repository under it: each selected Artifact is
resolved to its source, checked against the evidence that was adopted, and bound to one input slot
of the Run. All of them are prepared before the first is written. A time is a number of
milliseconds, so each one is finite.
-/

namespace AgentRoom.Execution

open Plan (ArtifactKind ArtifactSlot ExternalInput Gate PlanDefinition PlanEdge PlanNode Validated)

/-! ## The destination -/

structure Destination where
  taskId : String
  targetAgentId : String
  deadlineAt : Time
  contextManifest : Option ContextManifest

def TaskLifecycleState.open (state : TaskLifecycleState) : Bool :=
  state = .ready || state = .active || state = .review

/-- `destination`: a live Run of the node's Task, on the Device of the node's Agent. -/
def destination (db : ExecutionDb) (plan : PlanProjection) (nodeKey runId deviceId : String) :
    Option Destination := do
  let run ← db.runs.find? fun r => r.runId = runId
  let task ← getTask db run.taskId
  let room ← db.rooms.find? fun r => r.roomId = run.roomId
  let team ← db.teams.find? fun t => t.teamId = room.teamId
  let root ← getTask db plan.rootTaskId
  let agent ← getAgent db run.targetAgentId
  let device ← db.devices.find? fun d => d.deviceId = deviceId
  let member ← getMember db agent.ownerMemberId
  let node ← nodeRow db plan.planId plan.current.revision nodeKey
  if room.archived = false ∧ team.archived = false ∧
      isRoomMember db room.roomId task.ownerMemberId ∧
      root.roomId = room.roomId ∧ root.ownerMemberId = plan.ownerMemberId ∧
      root.lifecycleState ≠ .completed ∧ root.lifecycleState ≠ .canceled ∧
      isRoomMember db room.roomId root.ownerMemberId ∧
      agent.enabled ∧ agent.integrationMode = .managed ∧
      agent.deviceId = some deviceId ∧ device.status = .active ∧
      member.teamId = room.teamId ∧ isRoomMember db room.roomId member.memberId ∧
      isRoomAgent db room.roomId agent.agentId ∧
      node.taskId = task.taskId ∧ node.agentId = agent.agentId ∧ node.claim ∈ db.claims ∧
      run.roomId = plan.roomId ∧ task.roomId = run.roomId ∧
      device.ownerMemberId = member.memberId ∧ device.teamId = room.teamId ∧
      agent.teamId = room.teamId ∧ task.lifecycleState.open ∧ run.state.terminal = false ∧
      task.definitionRevision = node.definitionRevision ∧
      task.criteriaRevision = node.criteriaRevision ∧ task.ownerMemberId = node.ownerMemberId ∧
      ∃ a ∈ task.assignments, a.agentId = agent.agentId then
    some ⟨task.taskId, run.targetAgentId, run.deadlineAt, run.contextManifest⟩
  else none

/-! ## The sources -/

/-- What a materialized source is looked for by. -/
structure SourceQuery where
  gate : Gate
  planId : String
  planRevision : Nat
  taskId : String
  resultId : Option String
  authority : Option InputSourceAuthority
  artifactId : String
  outputSlot : String
  roomId : String

structure MaterializedSource where
  adopted : AdoptedMaterialization
  adoptionNative : Bool
  taskId : String
  resultVersion : Option Nat
  definitionRevision : Nat
  criteriaRevision : Nat
  review : Option ResultReview

/-- The Result a materialization names, at the revisions of its node. -/
def sourceResult (db : ExecutionDb) (a : AdoptedMaterialization) (node : NodeRow)
    (roomId : String) : Option TaskResult :=
  db.results.find? fun r => some r.resultId = a.sourceResultId ∧ r.taskId = node.taskId ∧
    some r.resultVersion = a.sourceResultVersion ∧
    r.definitionRevision = node.definitionRevision ∧
    r.criteriaRevision = node.criteriaRevision ∧ r.roomId = roomId

/-- The acceptance a materialization of the first gate rests on. -/
def sourceReview (db : ExecutionDb) (a : AdoptedMaterialization) (result : Option TaskResult) :
    Option ResultReview :=
  if a.gate = .acceptedResult then
    db.reviews.find? fun v => some v.resultId = result.map (·.resultId) ∧
      v.operationId = a.gateOperationId ∧ v.decision = .accepted
  else none

/-- Whether the adoption is a carried or a remote one. -/
def adoptionNative (db : ExecutionDb) (a : AdoptedMaterialization) : Bool :=
  (db.carriedAdoptions.map (·.adoption) ++ db.remoteAdoptions).any fun e =>
    e.adoptionId = a.adoptionId ∧ e.adoptionDigest = a.adoptionDigest ∧ e.planId = a.planId ∧
      e.planRevision = a.planRevision ∧ e.nodeKey = a.nodeKey

/-- The Result of a source is there with the Artifact as its evidence, or there is none. -/
def resultHolds (db : ExecutionDb) (a : AdoptedMaterialization) (result : Option TaskResult)
    (artifactId : String) : Bool :=
  match a.sourceResultId, result with
  | none, none => true
  | some _, some result => ⟨result.resultId, artifactId⟩ ∈ db.resultArtifacts
  | _, _ => false

/-- One row of the join of `materializedSource`. -/
def materializedFrom (db : ExecutionDb) (q : SourceQuery) (a : AdoptedMaterialization) :
    Option MaterializedSource := do
  let node ← nodeRow db a.planId a.planRevision a.nodeKey
  let task ← getTask db node.taskId
  let artifact ← db.artifacts.find? fun r => r.artifactId = q.artifactId
  let result := sourceResult db a node q.roomId
  if node.taskId = q.taskId ∧ task.roomId = q.roomId ∧ task.lifecycleState ≠ .canceled ∧
      task.definitionRevision = node.definitionRevision ∧
      task.criteriaRevision = node.criteriaRevision ∧
      (∃ p ∈ a.artifactPins, p.artifactId = q.artifactId ∧ p.outputSlot = q.outputSlot) ∧
      artifact.taskId = node.taskId ∧ artifact.roomId = q.roomId ∧
      artifact.contentMode = .snapshotBlob ∧
      a.planId = q.planId ∧ a.planRevision = q.planRevision ∧ a.gate = q.gate ∧
      a.sourceResultId = q.resultId ∧ (∀ authority ∈ q.authority, a.authority = authority) ∧
      resultHolds db a result q.artifactId then
    some {
      adopted := a
      adoptionNative := adoptionNative db a
      taskId := node.taskId
      resultVersion := result.map (·.resultVersion)
      definitionRevision := node.definitionRevision
      criteriaRevision := node.criteriaRevision
      review := sourceReview db a result }
  else none

def materializedSource (db : ExecutionDb) (q : SourceQuery) : Option MaterializedSource :=
  (allAdopted db).findSome? (materializedFrom db q)

def acceptedProjection (source : MaterializedSource) : Except Err AcceptedSource :=
  match source.adopted.gate, source.review, source.resultVersion with
  | .acceptedResult, some review, some resultVersion =>
    .ok ⟨source.taskId, resultVersion, source.definitionRevision, source.criteriaRevision,
      review.operationId, review.reviewedByMemberId, review.reviewedAt⟩
  | _, _, _ => .error "EXECUTION_INPUT_SOURCE_UNAVAILABLE"

def materializedGateDigest (K : Contracts) (source : MaterializedSource) : Except Err String :=
  if source.adopted.gate = .acceptedResult ∧ source.adoptionNative = false then do
    let projection ← acceptedProjection source
    pure (K.digest (.acceptedSource projection))
  else pure source.adopted.materializationDigest

/-- `acceptedSource`, of an external input. -/
def acceptedSource (db : ExecutionDb) (taskId resultId artifactId roomId : String) :
    Option AcceptedSource := do
  let result ← db.results.find? fun r => r.resultId = resultId
  let review ← db.reviews.find? fun v => v.resultId = resultId
  let task ← getTask db result.taskId
  if isRoomMember db task.roomId task.ownerMemberId ∧
      ⟨resultId, artifactId⟩ ∈ db.resultArtifacts ∧
      result.taskId = taskId ∧ result.roomId = roomId ∧ result.state = .accepted ∧
      review.decision = .accepted ∧ task.lifecycleState ≠ .canceled ∧
      task.definitionRevision = result.definitionRevision ∧
      task.criteriaRevision = result.criteriaRevision then
    some ⟨result.taskId, result.resultVersion, result.definitionRevision, result.criteriaRevision,
      review.operationId, review.reviewedByMemberId, review.reviewedAt⟩
  else none

/-- `sealedArtifact`: the Artifact with the content it was sealed with. -/
def sealedArtifact (db : ExecutionDb) (artifactId taskId roomId : String) :
    Option (TaskArtifact × StoredContent) := do
  let artifact ← db.artifacts.find? fun a => a.artifactId = artifactId
  let contentId ← artifact.contentId
  let content ← db.contents.find? fun c => c.contentId = contentId
  let room ← db.rooms.find? fun r => r.roomId = roomId
  if artifact.taskId = taskId ∧ artifact.roomId = roomId ∧ artifact.contentMode = .snapshotBlob ∧
      artifact.contentSha256 = some content.sha256 ∧
      artifact.contentSizeBytes = some content.sizeBytes ∧ content.teamId = room.teamId ∧
      artifact.contentMediaType.isSome ∧ 1 ≤ content.sizeBytes ∧ content.sizeBytes ≤ 4194304 then
    some (artifact, content)
  else none

/-! ## One input -/

/-- Where the value of a slot comes from. -/
inductive Producer where
  | edge (edge : PlanEdge)
  | external (input : ExternalInput)

/-- A slot has exactly one producer. -/
def producerOf (definition : PlanDefinition) (nodeKey inputSlot : String) : Except Err Producer :=
  match definition.edges.find? (fun e => e.toNodeKey = nodeKey ∧
        ∃ b ∈ e.bindings, b.inputSlot = inputSlot),
      definition.externalInputs.find? (fun x => x.nodeKey = nodeKey ∧ x.inputSlot = inputSlot) with
  | some edge, none => .ok (.edge edge)
  | none, some input => .ok (.external input)
  | _, _ => .error "EXECUTION_INPUT_PRODUCER_MISSING"

/-- What a binding says of its source. The digest of the gate is taken last. -/
structure InputSource where
  edgeKey : Option String
  gate : Gate
  gateOperationId : String
  gateDigest : Except Err String
  taskId : String
  definitionRevision : Nat
  criteriaRevision : Nat
  resultVersion : Option Nat
  authority : Option InputSourceAuthority
  outputSlot : String
  /-- The outputs of the source node, of which the Artifact is one. -/
  outputs : Option (List ArtifactSlot)
  repositoryId : Option String
  commit : Option String
  tree : Option String
  ordinal : Int

def edgeSource (K : Contracts) (db : ExecutionDb) (r : FreezeInputs) (plan : PlanProjection)
    (destination : Destination) (validated : Validated) (edge : PlanEdge)
    (selection : InputSelection) : Except Err InputSource :=
  match nodeOf validated.definition edge.fromNodeKey with
  | none => .error "EXECUTION_INPUT_SOURCE_INVALID"
  | some node =>
    match plan.compiledTasks.find? (fun t => t.nodeKey = node.nodeKey),
        edge.bindings.find? (fun b => b.inputSlot = selection.inputSlot) with
    | some task, some binding => do
        require (task.taskId ≠ destination.taskId) "EXECUTION_INPUT_SOURCE_INVALID"
        require (selection.sourceAuthority.isSome ∨ selection.sourceResultId.isSome)
          "EXECUTION_INPUT_SOURCE_AUTHORITY_REQUIRED"
        match materializedSource db ⟨edge.gate, plan.planId, r.revision, task.taskId,
            selection.sourceResultId, selection.sourceAuthority, selection.artifactId,
            binding.outputSlot, plan.roomId⟩ with
        | none => .error "EXECUTION_INPUT_SOURCE_UNAVAILABLE"
        | some source => do
            require (source.definitionRevision = task.definitionRevision ∧
              source.criteriaRevision = task.criteriaRevision) "EXECUTION_INPUT_SOURCE_STALE"
            pure {
              edgeKey := some edge.edgeKey
              gate := edge.gate
              gateOperationId := source.adopted.gateOperationId
              gateDigest := materializedGateDigest K source
              taskId := task.taskId
              definitionRevision := source.definitionRevision
              criteriaRevision := source.criteriaRevision
              resultVersion := source.resultVersion
              authority := some source.adopted.authority
              outputSlot := binding.outputSlot
              outputs := some node.outputs
              repositoryId := some node.repository.repositoryId
              commit := source.adopted.candidateCommit
              tree := source.adopted.candidateTree
              ordinal := validated.topologicalOrder.idxOf node.nodeKey }
    | _, _ => .error "EXECUTION_INPUT_SOURCE_INVALID"

/-- The source of an external input: a Result that was accepted. -/
def externalSource (K : Contracts) (db : ExecutionDb) (plan : PlanProjection)
    (destination : Destination) (input : ExternalInput) (selection : InputSelection) :
    Except Err InputSource := do
  require (input.sourceTaskId ≠ destination.taskId) "EXECUTION_INPUT_SOURCE_INVALID"
  match selection.sourceResultId, selection.sourceAuthority with
  | some resultId, none =>
    match acceptedSource db input.sourceTaskId resultId selection.artifactId plan.roomId with
    | none => .error "EXECUTION_INPUT_SOURCE_UNAVAILABLE"
    | some source => pure {
        edgeKey := none
        gate := .acceptedResult
        gateOperationId := source.operationId
        gateDigest := .ok (K.digest (.acceptedSource source))
        taskId := input.sourceTaskId
        definitionRevision := source.definitionRevision
        criteriaRevision := source.criteriaRevision
        resultVersion := some source.resultVersion
        authority := none
        outputSlot := "external"
        outputs := none
        repositoryId := none
        commit := none
        tree := none
        ordinal := -1 }
  | _, _ => .error "EXECUTION_INPUT_SOURCE_INVALID"

def inputSource (K : Contracts) (db : ExecutionDb) (r : FreezeInputs) (plan : PlanProjection)
    (destination : Destination) (validated : Validated) (selection : InputSelection) :
    Producer → Except Err InputSource
  | .edge edge => edgeSource K db r plan destination validated edge selection
  | .external input => externalSource K db plan destination input selection

/-- The Artifact is the very one an external input pins. -/
def Producer.pins (artifact : TaskArtifact) (content : StoredContent)
    (selection : InputSelection) : Producer → Prop
  | .edge _ => True
  | .external input => selection.sourceResultId = some input.sourceResultId ∧
      input.artifactId = artifact.artifactId ∧ input.artifactRevision = artifact.artifactRevision ∧
      input.contentDigest = content.sha256 ∧ kindType input.kind = artifact.type

instance (artifact : TaskArtifact) (content : StoredContent) (selection : InputSelection)
    (producer : Producer) : Decidable (producer.pins artifact content selection) := by
  cases producer <;> unfold Producer.pins <;> infer_instance

/-- The identity of the input of a Run for a slot. -/
def inputId (K : Contracts) (runId inputSlot : String) : String :=
  "input_" ++ K.digest (.inputIdentity runId inputSlot)

/-- The binding of a slot to its source. -/
def bindInput (K : Contracts) (r : FreezeInputs) (now : Time) (plan : PlanProjection)
    (destination : Destination) (slot : ArtifactSlot) (source : InputSource) (gateDigest : String)
    (artifact : TaskArtifact) (content : StoredContent) (selection : InputSelection) :
    InputBinding where
  bindingId := inputId K r.runId selection.inputSlot
  planId := plan.planId
  planRevision := r.revision
  edgeKey := source.edgeKey
  gate := source.gate
  gateOperationId := source.gateOperationId
  gateDigest
  sourceTaskId := source.taskId
  sourceDefinitionRevision := source.definitionRevision
  sourceCriteriaRevision := source.criteriaRevision
  sourceResultId := selection.sourceResultId
  sourceResultVersion := source.resultVersion
  sourceAuthority := source.authority
  sourceOutputSlot := source.outputSlot
  artifact := ⟨artifact.artifactId, artifact.artifactRevision, content.sha256, content.sizeBytes,
    slot.kind⟩
  repositoryId := source.repositoryId
  sourceCommit := source.commit
  sourceTree := source.tree
  destinationTaskId := destination.taskId
  destinationRunId := r.runId
  destinationAgentId := destination.targetAgentId
  destinationDeviceId := r.deviceId
  inputSlot := selection.inputSlot
  issuedAt := now
  expiresAt := r.expiresAt

/-- `inputs.get`. -/
def getInput (K : Contracts) (db : ExecutionDb) (bindingId : String) :
    Except Err (Option StoredInput) :=
  match db.inputs.find? fun i => i.binding.bindingId = bindingId with
  | none => .ok none
  | some input => do
      K.assertExecutionCommand (.executionInputBinding input.binding)
      require (K.digest (.inputBinding input.binding) = input.bindingDigest)
        "EXECUTION_INPUT_CORRUPT"
      pure (some input)

/-- What a Run's manifest froze is all its inputs may be. -/
def Destination.permits (destination : Destination) (previous : Option StoredInput) : Bool :=
  match destination.contextManifest with
  | none => true
  | some manifest =>
    match previous, manifest.executionInputs with
    | some input, some frozen => input.binding ∈ frozen
    | _, _ => false

structure PreparedInput where
  record : StoredInput
  ordinal : Int

def prepareInput (K : Contracts) (db : ExecutionDb) (r : FreezeInputs) (now : Time)
    (plan : PlanProjection) (approval : ApprovalRow) (destination : Destination)
    (validated : Validated) (node : PlanNode) (selection : InputSelection) :
    Except Err PreparedInput := do
  let producer ← producerOf validated.definition node.nodeKey selection.inputSlot
  let source ← inputSource K db r plan destination validated selection producer
  match sealedArtifact db selection.artifactId source.taskId plan.roomId,
      slotOf node.inputs selection.inputSlot with
  | some (artifact, content), some slot => do
      require (artifact.type = kindType slot.kind ∧ ∀ outputs ∈ source.outputs,
        ∃ o ∈ outputs, o.slotKey = source.outputSlot ∧ kindType o.kind = artifact.type)
        "EXECUTION_INPUT_KIND_MISMATCH"
      require (producer.pins artifact content selection) "EXECUTION_INPUT_EXTERNAL_MISMATCH"
      let gateDigest ← source.gateDigest
      let binding := bindInput K r now plan destination slot source gateDigest artifact content
        selection
      let requestDigest := K.digest (.inputRequest { r with selections := [selection] }
        { binding with issuedAt := 0 })
      let previous ← getInput K db binding.bindingId
      require (∀ p ∈ previous, p.requestDigest = requestDigest) "EXECUTION_INPUT_CONFLICT"
      require (destination.permits previous = true) "EXECUTION_INPUT_MANIFEST_FROZEN"
      pure {
        record := {
          binding
          nodeKey := node.nodeKey
          contentId := artifact.contentId
          planDigest := approval.digest
          approvalOperationId := approval.operationId
          controlRevision := plan.controlRevision
          requestDigest
          bindingDigest := K.digest (.inputBinding binding) }
        ordinal := source.ordinal }
  | _, _ => .error "EXECUTION_INPUT_CONTENT_UNAVAILABLE"

/-! ## The rows -/

/-- `execution_input_source_authority_insert`. -/
def authorityAdmits (b : InputBinding) : Bool :=
  match b.sourceResultId with
  | some _ => b.sourceResultVersion.isSome
  | none => b.sourceResultVersion.isNone && b.sourceAuthority.isSome

/-- The Run and the approval an input row names. -/
def scopeRun (db : ExecutionDb) (i : StoredInput) : Option RunRow :=
  if db.approvals.any fun a => a.operationId = i.approvalOperationId ∧
      a.planId = i.binding.planId ∧ a.revision = i.binding.planRevision ∧
      a.digest = i.planDigest ∧ a.decision = .approved then
    db.runs.find? fun r => r.runId = i.binding.destinationRunId ∧
      r.taskId = i.binding.destinationTaskId ∧ r.targetAgentId = i.binding.destinationAgentId
  else none

/-- The sealed Artifact an input row names. -/
def scopeArtifact (db : ExecutionDb) (i : StoredInput) (run : RunRow) : Bool :=
  db.artifacts.any fun a => a.artifactId = i.binding.artifact.artifactId ∧
    a.taskId = i.binding.sourceTaskId ∧ a.roomId = run.roomId ∧ a.contentMode = .snapshotBlob ∧
    a.contentId = i.contentId

/-- The pin of the source is the Artifact of the row. -/
def pinAgrees (b : InputBinding) (p : ArtifactPin) : Bool :=
  p.artifactId = b.artifact.artifactId ∧ p.outputSlot = b.sourceOutputSlot ∧
    p.artifactRevision = b.artifact.artifactRevision ∧ p.kind = b.artifact.kind ∧
    p.contentDigest = b.artifact.contentDigest ∧ p.byteLength = b.artifact.byteLength

/-- An external input: the accepted Result with the Artifact. -/
def externalScope (db : ExecutionDb) (i : StoredInput) (run : RunRow) : Bool :=
  decide (i.binding.edgeKey = none ∧ i.binding.gate = .acceptedResult ∧
    i.binding.sourceAuthority = none) &&
  (db.results.any fun r => some r.resultId = i.binding.sourceResultId &&
    decide (r.taskId = i.binding.sourceTaskId ∧ r.roomId = run.roomId ∧ r.state = .accepted ∧
      ⟨r.resultId, i.binding.artifact.artifactId⟩ ∈ db.resultArtifacts) &&
    db.reviews.any fun v => v.resultId = r.resultId ∧ v.decision = .accepted ∧
      v.operationId = i.binding.gateOperationId) &&
  scopeArtifact db i run

/-- The adopted rows of the source node that an input row names. -/
def scopeAdopted (db : ExecutionDb) (i : StoredInput) (edge : PlanEdge)
    (a : AdoptedMaterialization) : Bool :=
  a.planId = i.binding.planId ∧ a.planRevision = i.binding.planRevision ∧
    a.nodeKey = edge.fromNodeKey ∧ a.gate = edge.gate ∧
    a.sourceResultId = i.binding.sourceResultId ∧ some a.authority = i.binding.sourceAuthority ∧
    a.gateOperationId = i.binding.gateOperationId ∧
    a.candidateCommit = i.binding.sourceCommit ∧ a.candidateTree = i.binding.sourceTree ∧
    (∃ p ∈ a.artifactPins, pinAgrees i.binding p ∧ ∃ b ∈ edge.bindings,
      b.inputSlot = i.binding.inputSlot ∧ b.outputSlot = p.outputSlot)

/-- Evidence with a Result: the Result has the Artifact, and an acceptance is the review itself. -/
def resultScope (db : ExecutionDb) (i : StoredInput) (run : RunRow) (edge : PlanEdge)
    (a : AdoptedMaterialization) : Bool :=
  (db.results.any fun r => some r.resultId = a.sourceResultId &&
    decide (r.taskId = i.binding.sourceTaskId ∧ r.roomId = run.roomId ∧
      ⟨r.resultId, i.binding.artifact.artifactId⟩ ∈ db.resultArtifacts) &&
    if edge.gate = .acceptedResult then
      db.reviews.any fun v => v.resultId = r.resultId ∧ v.operationId = a.gateOperationId ∧
        v.decision = .accepted
    else decide (a.materializationDigest = i.binding.gateDigest))

/-- Evidence without a Result: a remote commit, whose patch was imported. -/
def remoteScope (db : ExecutionDb) (i : StoredInput) (edge : PlanEdge)
    (a : AdoptedMaterialization) : Bool :=
  decide (edge.gate = .verifiedOutput ∧ a.sourceResultId = none ∧
    a.materializationDigest = a.adoptionDigest ∧ a.candidateCommit.isSome ∧
    a.candidateTree.isSome) &&
  decide (⟨i.binding.artifact.artifactId, .patch⟩ ∈ db.remoteImports)

def edgeScope (db : ExecutionDb) (i : StoredInput) (run : RunRow) : Bool :=
  (db.edges.any fun e => e.planId = i.binding.planId && e.revision = i.binding.planRevision &&
    decide (some e.edge.edgeKey = i.binding.edgeKey ∧ e.edge.toNodeKey = i.nodeKey ∧
      e.edge.gate = i.binding.gate) &&
    (nodeRow db e.planId e.revision e.edge.fromNodeKey).any
      (fun n => n.taskId = i.binding.sourceTaskId) &&
    (allAdopted db).any fun a => scopeAdopted db i e.edge a &&
      (resultScope db i run e.edge a || remoteScope db i e.edge a)) &&
  scopeArtifact db i run

/-- `execution_input_require_scope_insert`. -/
def scopeAdmits (db : ExecutionDb) (i : StoredInput) : Bool :=
  match scopeRun db i with
  | none => false
  | some run => externalScope db i run || edgeScope db i run

/-- `inputs.insert`. -/
def insertInput (K : Contracts) (input : StoredInput) : Db InputBinding := do
  check fun _ => K.assertExecutionCommand (.executionInputBinding input.binding)
  let previous ← check fun db => getInput K db input.binding.bindingId
  match previous with
  | some previous => do
      check fun _ => require (previous.requestDigest = input.requestDigest)
        "EXECUTION_INPUT_CONFLICT"
      pure previous.binding
  | none => do
      insertRow (fun db => db.inputs.all (fun i =>
        ¬(i.binding.bindingId = input.binding.bindingId) ∧
          ¬(i.binding.destinationRunId = input.binding.destinationRunId ∧
            i.binding.inputSlot = input.binding.inputSlot)) &&
          authorityAdmits input.binding && scopeAdmits db input)
        fun db => { db with inputs := db.inputs ++ [input] }
      pure input.binding

/-! ## The freeze -/

/-- By the place of the source in the topological order, then by slot. -/
def PreparedInput.le (a b : PreparedInput) : Prop :=
  a.ordinal < b.ordinal ∨ a.ordinal = b.ordinal ∧
    Plan.textLe a.record.binding.inputSlot b.record.binding.inputSlot

instance : DecidableRel PreparedInput.le := fun a b => by unfold PreparedInput.le; infer_instance

/-- Every source, before a row is written. -/
def prepareInputs (K : Contracts) (db : ExecutionDb) (r : FreezeInputs) (now : Time) :
    Except Err (List PreparedInput) := do
  require (r.selections.length ≤ 32 ∧ (r.selections.map (·.inputSlot)).Nodup)
    "EXECUTION_INPUT_SELECTION_INVALID"
  match ← getPlan db r.planId with
  | none => .error "EXECUTION_INPUT_PLAN_STALE"
  | some plan => do
      require (plan.state.schedulable = true ∧ plan.current.revision = r.revision ∧
        plan.current.digest = r.expectedDigest ∧
        plan.controlRevision = r.expectedControlRevision) "EXECUTION_INPUT_PLAN_STALE"
      match getApproval db plan.planId r.revision with
      | none => .error "EXECUTION_INPUT_APPROVAL_REQUIRED"
      | some approval => do
          require (approval.decision = .approved ∧ approval.digest = r.expectedDigest)
            "EXECUTION_INPUT_APPROVAL_REQUIRED"
          match destination db plan r.nodeKey r.runId r.deviceId with
          | none => .error "EXECUTION_INPUT_DESTINATION_UNAVAILABLE"
          | some destination => do
              require (now < r.expiresAt ∧ r.expiresAt ≤ destination.deadlineAt)
                "EXECUTION_INPUT_EXPIRY_INVALID"
              let validated ← K.validateExecutionPlanDefinition plan.current.definition
              match nodeOf validated.definition r.nodeKey with
              | none => .error "TypeError"
              | some node => do
                  require ((∀ s ∈ r.selections, ∃ slot ∈ node.inputs, slot.slotKey = s.inputSlot) ∧
                    ∀ slot ∈ node.inputs, slot.required → ∃ s ∈ r.selections,
                      s.inputSlot = slot.slotKey) "EXECUTION_INPUT_SELECTION_INVALID"
                  let prepared ← r.selections.mapM
                    (prepareInput K db r now plan approval destination validated node)
                  pure (prepared.insertionSort PreparedInput.le)

/-- **`freezeForRun`.** -/
def freezeForRun (K : Contracts) (r : FreezeInputs) (now : Time) : Db (List InputBinding) :=
  Tx.immediate do
    let prepared ← check fun db => prepareInputs K db r now
    Tx.forEach (fun p : PreparedInput => insertInput K p.record) prepared

end AgentRoom.Execution
