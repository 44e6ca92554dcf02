import AgentRoom.Execution.Compilation

/-!
# What activating a supersession checks

The reads of `ExecutionPlanSupersessionService.activateWithActor`, up to its first write: the
authority, the replay, the pins, the fixed Task set, the sources, the delegation with its
low-risk comparison, and the selection of the evidence to carry.
-/

namespace AgentRoom.Execution

open Plan (PlanDefinition PlanNode PlanPolicy BudgetPolicy pairLe textLe sortBy)

/-- What a call reads outside the execution tables. -/
structure Surroundings where
  /-- `sources.freeze`. -/
  freeze : PlanDefinition → String → Except Err (List SourceSnapshot)
  /-- `sources.requireExternalInputs`. -/
  requireExternalInputs : PlanDefinition → String → Except Err Unit
  /-- `connections.governedAgentReadyGrants`, by Device and Agent. -/
  governedAgentReadyGrants : String → String → List ReadyGrant
  now : Time

/-- A node whose evidence is carried, and the selection that says so. -/
structure CarryStep where
  node : PlanNode
  task : AgentTask
  selection : CarrySelection

section Checks

variable (K : Contracts) (E : Surroundings) (db : ExecutionDb)

/-! ## Authority and replay -/

def requireRoot (plan : PlanProjection) : Except Err AgentTask :=
  match getTask db plan.rootTaskId with
  | none => .error "EXECUTION_ROOT_UNAVAILABLE"
  | some root => do
      require (root.isDefault = false ∧ root.parentTaskId = none ∧
        root.lifecycleState ≠ .completed ∧ root.lifecycleState ≠ .canceled)
        "EXECUTION_ROOT_UNAVAILABLE"
      pure root

def requireAuthorityMember (plan : PlanProjection) (memberId : String) : Except Err Unit := do
  let root ← requireRoot db plan
  match getMember db memberId with
  | none => .error "FORBIDDEN"
  | some member =>
    require (member.teamId = root.teamId ∧ isRoomMember db plan.roomId memberId ∧
      (member.role = .owner ∨ memberId = root.ownerMemberId)) "FORBIDDEN"

/-- The operation id is used for nothing but an activation. -/
def requireOperationScope (operationId : String) : Except Err Unit :=
  require (operationId ∉ db.planOperations ∧ (∀ a ∈ db.approvals, a.operationId ≠ operationId) ∧
    (∀ c ∈ db.candidates, c.operationId ≠ operationId) ∧
    (∀ d ∈ db.delegations, d.operationId ≠ operationId) ∧
    ∀ r ∈ db.revocations, r.operationId ≠ operationId) "EXECUTION_OPERATION_CONFLICT"

def activationOf (operationId : String) : Option ActivationRow :=
  db.activations.find? fun a => a.operationId = operationId

def receiptOf (operationId : String) : Option ActivationReceipt :=
  db.receipts.find? fun r => r.operationId = operationId

def replayActivation (operationId requestDigest : String) :
    Except Err (Option ActivationReceipt) :=
  match activationOf db operationId, receiptOf db operationId with
  | none, _ => do
      requireOperationScope db operationId
      pure none
  | some _, none => .error "EXECUTION_OPERATION_CONFLICT"
  | some row, some receipt => do
      require (row.requestDigest = requestDigest) "EXECUTION_OPERATION_CONFLICT"
      K.assertExecutionCommand (.supersessionActivationReceipt receipt)
      pure (some receipt)

/-! ## Pins -/

def requireCurrentPins (plan : PlanProjection) (revision : Nat) (digest : String)
    (controlRevision : Nat) : Except Err Unit :=
  require (plan.state.active = true ∧ plan.current.revision = revision ∧
    plan.current.digest = digest ∧ plan.controlRevision = controlRevision)
    "EXECUTION_REVISION_CONFLICT"

/-- The candidate follows the current revision and is the one the command means. -/
def requireCandidate (plan : PlanProjection) (root : AgentTask) (command : ActivationCommand) :
    Except Err SupersessionCandidate := do
  match ← supersessionCandidateById db K command.candidateId with
  | none => .error "EXECUTION_SUPERSESSION_CANDIDATE_CONFLICT"
  | some candidate => do
      require (candidate.planId = plan.planId ∧ candidate.baseRevision = plan.current.revision ∧
        candidate.baseDigest = plan.current.digest ∧
        candidate.baseControlRevision = plan.controlRevision ∧
        candidate.rootTaskRevision = root.taskRevision ∧
        candidate.candidateRevision = command.expectedCandidateRevision ∧
        candidate.candidateDigest = command.expectedCandidateDigest ∧
        candidate.candidateRevision = plan.current.revision + 1)
        "EXECUTION_SUPERSESSION_CANDIDATE_CONFLICT"
      pure candidate

/-! ## The fixed Task set -/

def compileNode (plan : PlanProjection) (node : PlanNode) : Except Err CompiledNode :=
  match node.task with
  | .new _ => .error "EXECUTION_SUPERSESSION_FIXED_TASK_SET_REQUIRED"
  | .existing pin =>
    match getTask db pin.taskId with
    | none => .error "EXECUTION_SUPERSESSION_TASK_CONFLICT"
    | some task => do
        require (task.taskId ∈ plan.compiledTasks.map (·.taskId) ∧ task.roomId = plan.roomId ∧
          task.isDefault = false ∧ task.lifecycleState ≠ .completed ∧
          task.lifecycleState ≠ .canceled ∧ task.completionPolicy = .acceptedResultRequired ∧
          task.taskRevision = pin.expectedTaskRevision ∧
          task.definitionRevision = pin.definitionRevision ∧
          task.criteriaRevision = pin.criteriaRevision ∧
          ∃ a ∈ task.assignments, a.agentId = node.agentId)
          "EXECUTION_SUPERSESSION_TASK_CONFLICT"
        match getAgent db node.agentId with
        | none => .error "EXECUTION_NODE_AGENT_UNAVAILABLE"
        | some agent =>
          require (agent.enabled = true ∧ agent.teamId = task.teamId ∧
            isRoomAgent db plan.roomId node.agentId) "EXECUTION_NODE_AGENT_UNAVAILABLE"
        match getMember db task.ownerMemberId with
        | none => .error "EXECUTION_NODE_OWNER_UNAVAILABLE"
        | some owner =>
          require (owner.teamId = task.teamId ∧
            isRoomMember db plan.roomId owner.memberId) "EXECUTION_NODE_OWNER_UNAVAILABLE"
        pure ⟨node, task⟩

def compileFixedTaskSet (plan : PlanProjection) (definition : PlanDefinition) :
    Except Err (List CompiledNode) := do
  require (plan.state.active = true) "EXECUTION_SUPERSESSION_STATE_INVALID"
  let actual ← definition.nodes.mapM (compileNode db plan)
  let expected : List String := (plan.compiledTasks.map (·.taskId)).dedup
  let actualIds : List String := actual.map (·.task.taskId)
  require (actualIds.Nodup ∧ actualIds.length = expected.length ∧
    ∀ taskId ∈ expected, taskId ∈ actualIds) "EXECUTION_SUPERSESSION_FIXED_TASK_SET_REQUIRED"
  pure actual

/-! ## Sources -/

/-- The sources of the decision are as they were when the candidate was proposed. -/
def requireSources (plan : PlanProjection) (candidate : SupersessionCandidate)
    (definition : PlanDefinition) : Except Err Unit := do
  let currentSources ← E.freeze definition plan.roomId
  match getRevision db plan.planId candidate.candidateRevision with
  | none => .error "TypeError"
  | some revision =>
    let frozenSources := decisionSourcesOf db revision.decisionId
    require (currentSources.length = frozenSources.length ∧
      ∀ s ∈ currentSources, ∃ f ∈ frozenSources,
        s.source.evidenceRefId = f.source.evidenceRefId ∧ s.revision = f.revision ∧
          s.digest = f.digest) "EXECUTION_SOURCE_REVISION_CONFLICT"
  E.requireExternalInputs definition plan.roomId

/-! ## The delegation -/

/-- The limits of a budget are no higher. -/
def withinBudget (next current : BudgetPolicy) : Prop :=
  next.maxRunAttempts ≤ current.maxRunAttempts ∧
    next.maxExecutionDurationSeconds ≤ current.maxExecutionDurationSeconds

instance (next current : BudgetPolicy) : Decidable (withinBudget next current) := by
  unfold withinBudget
  infer_instance

/-- The policies are the same apart from the concurrency and the budget. -/
def samePolicy (current next : PlanPolicy) : Prop :=
  { next with maxConcurrency := current.maxConcurrency, budget := current.budget } = current

/-- The nodes are the same apart from the Task and the budget. -/
def sameContract (current next : PlanNode) : Prop :=
  { next with task := current.task, budget := current.budget } = current

instance (current next : PlanPolicy) : Decidable (samePolicy current next) := by
  unfold samePolicy
  infer_instance

instance (current next : PlanNode) : Decidable (sameContract current next) := by
  unfold sameContract
  infer_instance

/-- One pass of the loop of `isLowRisk`. -/
def lowRiskTask (current next : PlanDefinition) (compiled : CompiledTask) : Bool :=
  match current.nodes.find? (fun node => node.nodeKey = compiled.nodeKey),
      next.nodes.find? (fun node => Plan.existingTaskOf node = some compiled.taskId) with
  | some oldNode, some newNode =>
    oldNode.nodeKey = newNode.nodeKey ∧ withinBudget newNode.budget oldNode.budget ∧
      sameContract oldNode newNode
  | _, _ => false

def isLowRisk (plan : PlanProjection) (next : PlanDefinition) : Bool :=
  let current := plan.current.definition
  decide (next.policy.maxConcurrency ≤ current.policy.maxConcurrency ∧
    withinBudget next.policy.budget current.policy.budget ∧
    samePolicy current.policy next.policy ∧ current.externalInputs = next.externalInputs) &&
  plan.compiledTasks.all (lowRiskTask current next)

/-- The candidate was proposed by the Agent that activates it, in the same Run. -/
def authoredBy (candidate : SupersessionCandidate) : SupersessionActor → Prop
  | .member _ => False
  | .agent agentId runId => candidate.author = .agent agentId runId

instance (candidate : SupersessionCandidate) (actor : SupersessionActor) :
    Decidable (authoredBy candidate actor) := by
  unfold authoredBy
  split <;> infer_instance

def delegatedTo (delegation : ReplanDelegation) : SupersessionActor → Prop
  | .member _ => False
  | .agent agentId _ => delegation.agentId = agentId

instance (delegation : ReplanDelegation) (actor : SupersessionActor) :
    Decidable (delegatedTo delegation actor) := by
  unfold delegatedTo
  split <;> infer_instance

def requireDelegation (delegationId : String) (actor : SupersessionActor)
    (authorityMemberId : String) (plan : PlanProjection) (candidate : SupersessionCandidate)
    (definition : PlanDefinition) : Except Err ReplanDelegation := do
  let root ← requireRoot db plan
  match ← getDelegation db K delegationId with
  | none => .error "EXECUTION_HUMAN_REVIEW_REQUIRED"
  | some delegation => do
      require (delegatedTo delegation actor ∧
        delegation.issuedByMemberId = authorityMemberId ∧ delegation.planId = plan.planId ∧
        delegation.planRevision = plan.current.revision ∧
        delegation.planDigest = plan.current.digest ∧
        delegation.planControlRevision = plan.controlRevision ∧
        delegation.rootTaskRevision = root.taskRevision ∧ E.now < delegation.expiresAt ∧
        isCurrentDelegation db delegation ∧ isRevoked db delegationId = false ∧
        isConsumed db delegationId = false) "EXECUTION_HUMAN_REVIEW_REQUIRED"
      require (sortBy id (plan.compiledTasks.map (·.taskId)) = delegation.taskIds ∧
        authoredBy candidate actor ∧ isLowRisk plan definition)
        "EXECUTION_HUMAN_REVIEW_REQUIRED"
      pure delegation

/-! ## The evidence to carry -/

/-- `entries.indexOf(key)`. -/
def indexOf (entries : List String) (key : String) : Int :=
  if key ∈ entries then entries.idxOf key else -1

/-- The selection for an adopted gate, with the node that now has its Task. -/
def selectCarry (compiled : List CompiledNode) (command : ActivationCommand)
    (source : AdoptedMaterialization) : Except Err CarryStep :=
  match compiled.find? (fun c => c.task.taskId = source.sourceTaskId) with
  | none => .error "EXECUTION_CARRY_COVERAGE_REQUIRED"
  | some target =>
    match command.carryForward.find? (fun s => s.targetNodeKey = target.node.nodeKey ∧
        s.gate = source.gate ∧ s.sourceAdoptionId = source.adoptionId ∧
        s.sourceAdoptionDigest = source.adoptionDigest) with
    | none => .error "EXECUTION_CARRY_COVERAGE_REQUIRED"
    | some selection => .ok ⟨target.node, target.task, selection⟩

/-- Nodes in topological order, and the gates of one node in the order of their names. -/
def carryLe (topology : List String) (a b : CarryStep) : Prop :=
  let i := indexOf topology a.node.nodeKey
  let j := indexOf topology b.node.nodeKey
  i < j ∨ i = j ∧ textLe a.selection.gate.text b.selection.gate.text

instance (topology : List String) : DecidableRel (carryLe topology) := fun a b => by
  unfold carryLe
  infer_instance

def requireCarryCoverage (plan : PlanProjection) (definition : PlanDefinition)
    (compiled : List CompiledNode) (command : ActivationCommand) :
    Except Err (List CarryStep) := do
  let adopted := (adoptedAt db plan.planId plan.current.revision).insertionSort fun a b =>
    pairLe (a.nodeKey, a.gate.text) (b.nodeKey, b.gate.text)
  require (command.carryForward.map fun s => (s.targetNodeKey, s.gate)).Nodup
    "EXECUTION_CARRY_SELECTION_DUPLICATE"
  require (adopted.length = command.carryForward.length) "EXECUTION_CARRY_COVERAGE_REQUIRED"
  let result ← adopted.mapM (selectCarry compiled command)
  let validated ← K.validateExecutionPlanDefinition definition
  pure (result.insertionSort (carryLe validated.topologicalOrder))

def GateProofBody.kind : GateProofBody → String
  | .resultReview .. => "result_review"
  | .verificationReceipt .. => "verification_receipt"
  | .ciObservationReceipt .. => "ci_observation_receipt"
  | .integrationReceipt .. => "integration_receipt"

/-- The proof is retained as it stands. -/
def requireProof (proof : GateProofRef) : Except Err Unit :=
  match db.gateProofs.find? fun p => p.body.kind = proof.body.kind ∧
      p.operationId = proof.operationId ∧ p.proofDigest = proof.proofDigest with
  | none => .error "EXECUTION_CARRY_PROOF_UNAVAILABLE"
  | some retained => require (retained = proof) "EXECUTION_CARRY_PROOF_UNAVAILABLE"

/-- `evidence.getReuse`. -/
def getReuse (adoptionId : String) : Except Err (Option EvidenceReuseContract) :=
  match (db.reuseContracts ++ db.carriedReuse.map (·.contract)).find? fun r =>
      r.adoptionId = adoptionId with
  | none => .ok none
  | some contract => do
      K.assertExecutionCommand (.evidenceReuseContract contract)
      pure (some contract)

/-- The local and the carried adoptions. -/
def carryable : List EvidenceAdoption :=
  db.adoptions.map (·.adoption) ++ db.carriedAdoptions.map (·.adoption)

/-- `carry.source`. -/
def carrySource (adoptionId : String) :
    Except Err (Option (EvidenceAdoption × EvidenceReuseContract)) :=
  match (carryable db).find? fun a => a.adoptionId = adoptionId with
  | none => .ok none
  | some adoption => do
      K.assertExecutionCommand (.evidenceAdoption adoption)
      adoption.proofs.forM (requireProof db)
      match ← getReuse K db adoption.adoptionId with
      | none => .error "EXECUTION_REUSE_CONTRACT_UNAVAILABLE"
      | some reuse => pure (some (adoption, reuse))

/-- A ready grant is the one the evidence of a node was produced under. -/
def grantMatches (plan : PlanProjection) (node : PlanNode) (authority : LocalAuthority)
    (grant : ReadyGrant) : Bool :=
  grant.planId = plan.planId ∧ grant.nodeKey = node.nodeKey ∧ grant.agentId = node.agentId ∧
    grant.deviceId = authority.deviceId ∧ grant.repositoryId = node.repository.repositoryId ∧
    grant.bindingId = node.repository.bindingId ∧ grant.grantId = node.repository.grantId ∧
    grant.grantId = authority.grantId ∧ grant.grantRevision = node.repository.grantRevision ∧
    grant.grantRevision = authority.grantRevision ∧ grant.grantDigest = authority.grantDigest ∧
    grant.runtimeProfile.profileId = node.repository.runtimeProfileId ∧
    grant.runtimeProfile.digest = node.repository.runtimeProfileDigest ∧
    grant.revokedAt = none ∧ grant.scopePolicy = node.scope ∧
    grant.verificationProfiles = node.verificationProfiles.map (fun p =>
      ⟨p.profileId, p.revision, p.digest⟩) ∧
    grant.issuedAt ≤ E.now ∧ E.now < grant.expiresAt

def requireCurrentLocalAuthority (plan : PlanProjection) (step : CarryStep) :
    Except Err Unit := do
  match ← carrySource K db step.selection.sourceAdoptionId with
  | none => .error "EXECUTION_CARRY_LOCAL_AUTHORITY_REQUIRED"
  | some (adoption, _) =>
    match adoption.authority.service.local? with
    | none => .error "EXECUTION_CARRY_LOCAL_AUTHORITY_REQUIRED"
    | some authority =>
      let ready := (E.governedAgentReadyGrants authority.deviceId authority.agentId).filter
        (grantMatches E plan step.node authority)
      require (ready.length = 1) "EXECUTION_CARRY_LOCAL_AUTHORITY_UNAVAILABLE"

end Checks

/-! ## The whole of the checks -/

/-- Who activates what, and on whose authority. -/
structure ActivationRequest where
  planId : String
  command : ActivationCommand
  activatedBy : SupersessionActor
  authorityMemberId : String
  delegationId : Option String

def ActivationRequest.digest (K : Contracts) (r : ActivationRequest) : String :=
  K.digest (.activationRequest r.planId r.activatedBy r.authorityMemberId r.delegationId r.command)

structure Activation where
  plan : PlanProjection
  root : AgentTask
  candidate : SupersessionCandidate
  definition : PlanDefinition
  compiled : List CompiledNode
  delegation : Option ReplanDelegation
  carryPlan : List CarryStep

def requireActivation (K : Contracts) (E : Surroundings) (db : ExecutionDb)
    (r : ActivationRequest) (plan : PlanProjection) : Except Err Activation := do
  requireCurrentPins plan r.command.expectedCurrentRevision r.command.expectedCurrentDigest
    r.command.expectedControlRevision
  let root ← requireRoot db plan
  require (root.taskRevision = r.command.expectedRootTaskRevision)
    "EXECUTION_ROOT_REVISION_CONFLICT"
  let candidate ← requireCandidate K db plan root r.command
  let validated ← K.validateExecutionPlanDefinition candidate.definition
  let definition := validated.definition
  let compiled ← compileFixedTaskSet db plan definition
  requireSources E db plan candidate definition
  let delegation ← r.delegationId.mapM fun delegationId =>
    requireDelegation K E db delegationId r.activatedBy r.authorityMemberId plan candidate
      definition
  let carryPlan ← requireCarryCoverage K db plan definition compiled r.command
  carryPlan.forM (requireCurrentLocalAuthority K E db plan)
  pure { plan, root, candidate, definition, compiled, delegation, carryPlan }

end AgentRoom.Execution
