import AgentRoom.Execution.Supersession

/-!
# What activating a supersession writes

The writes of `activateWithActor`, in one transaction: the activation, the compilation of the
candidate with the moved claims, the fence of the root Task, the approval, the plan, the carried
evidence, the consumed delegation and the receipt.

An insert is refused when its key is taken. Triggers that only ask for a row which the same
transaction has just written are left out.
-/

namespace AgentRoom.Execution

open Plan (PlanDefinition PlanNode PlanPolicy PlanEdge pairLe textLe sortBy)

/-! ## The activation -/

def ActivationRequest.row (K : Contracts) (r : ActivationRequest) (a : Activation) (now : Time) :
    ActivationRow where
  operationId := r.command.operationId
  planId := r.planId
  baseRevision := a.plan.current.revision
  baseDigest := a.plan.current.digest
  baseControlRevision := a.plan.controlRevision
  candidateId := a.candidate.candidateId
  candidateRevision := a.candidate.candidateRevision
  candidateDigest := a.candidate.candidateDigest
  rootTaskRevisionBefore := a.root.taskRevision
  activatedBy := r.activatedBy
  authorityMemberId := r.authorityMemberId
  delegationId := r.delegationId
  reason := r.command.reason
  requestDigest := r.digest K
  activatedAt := now

def beginActivation (row : ActivationRow) : Db Unit :=
  insertRow (fun db => db.activations.all fun a => a.operationId ≠ row.operationId ∧
      a.candidateId ≠ row.candidateId ∧
      ¬(a.planId = row.planId ∧ a.candidateRevision = row.candidateRevision))
    fun db => { db with activations := db.activations ++ [row] }

/-! ## The compilation -/

/-- The claim that a node of the candidate takes over. -/
def NodeRow.takesOver (row : NodeRow) (base : Nat) (c : TaskClaim) : Bool :=
  c.taskId = row.taskId ∧ c.planId = row.planId ∧ c.revision = base

/-- The claim of a Task moves to the candidate; `changes` must be one. -/
def moveClaim (row : NodeRow) (base : Nat) : Db Unit := do
  check fun db => require (db.claims.countP (row.takesOver base) = 1)
    "EXECUTION_SUPERSESSION_TASK_CONFLICT"
  insertRow (fun db => db.claims.all fun c => row.takesOver base c ||
      decide (¬(c.planId = row.planId ∧ c.revision = row.revision ∧ c.nodeKey = row.nodeKey)))
    fun db => { db with
      claims := db.claims.map fun c => if row.takesOver base c then row.claim else c }

def insertCompilation (a : Activation) : Db Unit := do
  let _ ← Tx.forEach (fun c : CompiledNode => do
    let row := c.row a.plan.planId a.candidate.candidateRevision
    insertNode row
    moveClaim row a.plan.current.revision) a.compiled
  let _ ← Tx.forEach (fun edge : PlanEdge =>
    insertEdge ⟨a.plan.planId, a.candidate.candidateRevision, edge⟩) a.definition.edges

/-! ## The root Task and the approval -/

def AgentTask.fenced (t : AgentTask) (now : Time) : AgentTask :=
  { t with taskRevision := t.taskRevision + 1, updatedAt := now }

/-- The revision of a Task grows, under an operation id. -/
def raiseRevision (taskId operationId : String) (expectedTaskRevision : Nat) (now : Time) :
    Db Unit := do
  match getTask (← get) taskId with
  | none => throw "Task not found"
  | some current => do
      check fun _ => require (current.taskRevision = expectedTaskRevision)
        "Task revision conflict"
      insertRow (fun db => db.taskOperations.all fun o => o.operationId ≠ operationId)
        fun db => { db with
          tasks := db.tasks.map fun t => if t.taskId = taskId then t.fenced now else t
          taskOperations := db.taskOperations ++
            [⟨operationId, taskId, current.taskRevision + 1⟩] }

/-- `tasks.fenceRevision`: a repeated operation reads the Task as it is. -/
def fenceRevision (taskId operationId : String) (expectedTaskRevision : Nat) (now : Time) :
    Db AgentTask := do
  let db ← get
  Tx.when (¬∃ o ∈ db.taskOperations, o.operationId = operationId ∧ o.taskId = taskId)
    (raiseRevision taskId operationId expectedTaskRevision now)
  match getTask (← get) taskId with
  | none => throw "TypeError"
  | some task => pure task

def insertApproval (K : Contracts) (r : ActivationRequest) (a : Activation)
    (rootTaskRevisionAfter : Nat) (now : Time) : Db Unit := do
  let compiledTasks := sortBy (·.nodeKey) (a.compiled.map CompiledNode.compiled)
  match getRevision (← get) a.plan.planId a.candidate.candidateRevision with
  | none => throw "TypeError"
  | some next =>
    let row : ApprovalRow := {
      operationId := r.command.operationId
      planId := a.plan.planId
      revision := a.candidate.candidateRevision
      digest := a.candidate.candidateDigest
      decision := .approved
      reason := r.command.reason
      reviewedByMemberId := r.authorityMemberId
      rootTaskRevisionBefore := r.command.expectedRootTaskRevision
      rootTaskRevisionAfter
      compiledTasks
      requestDigest := K.digest (.supersessionApproval r.command)
      plan := { a.plan with
        current := next
        controlRevision := a.plan.controlRevision + 1
        compiledTasks
        updatedAt := now }
      reviewedAt := now }
    insertApprovalRow row

/-! ## The plan -/

/-- The row of a plan that the update meets. -/
def PlanRow.pinned (p : PlanRow) (plan : PlanProjection) : Prop :=
  p.planId = plan.planId ∧ p.currentRevision = plan.current.revision ∧
    p.controlRevision = plan.controlRevision ∧ p.state.active = true

instance (p : PlanRow) (plan : PlanProjection) : Decidable (p.pinned plan) := by
  unfold PlanRow.pinned
  infer_instance

def PlanRow.advanced (p : PlanRow) (revision : Nat) (now : Time) : PlanRow :=
  { p with
    currentRevision := revision
    controlRevision := p.controlRevision + 1
    updatedAt := now }

def advancePlan (plan : PlanProjection) (revision : Nat) (now : Time) : Db Unit := do
  check fun db => require (db.plans.countP (fun p => p.pinned plan) = 1)
    "EXECUTION_REVISION_CONFLICT"
  modify fun db => { db with
    plans := db.plans.map fun p => if p.pinned plan then p.advanced revision now else p }

/-! ## The carried evidence -/

/-- The logical inputs of the source are inputs of the node in the candidate, and the evidence
they came from is adopted on its revision. -/
def requireLogicalInput (db : ExecutionDb) (definition : PlanDefinition) (node : PlanNode)
    (reuse : EvidenceReuseContract) (input : ReuseInput) : Except Err Unit :=
  match input.producer with
  | .adoptedEvidence edge sourceEvidenceId sourceDigest _ => do
      require (edge.toNodeKey = node.nodeKey ∧ edge ∈ definition.edges)
        "EXECUTION_CARRY_INPUT_MISMATCH"
      require (∃ a ∈ allAdopted db, a.planId = reuse.planId ∧
        a.planRevision = reuse.planRevision + 1 ∧ a.nodeKey = edge.fromNodeKey ∧
        a.gate = edge.gate ∧ a.sourceEvidenceId = sourceEvidenceId ∧
        a.sourceDigest = sourceDigest) "EXECUTION_CARRY_INPUT_NOT_ADOPTED"
  | .externalResult externalInput _ _ =>
    require (externalInput.nodeKey = node.nodeKey ∧ externalInput ∈ definition.externalInputs)
      "EXECUTION_CARRY_INPUT_MISMATCH"

/-- The selection names the adoption as it is retained, on the revision before. -/
def requireCarrySource (K : Contracts) (db : ExecutionDb) (planId : String)
    (candidateRevision : Nat) (selection : CarrySelection) :
    Except Err (EvidenceAdoption × EvidenceReuseContract × LocalAuthority) := do
  match ← carrySource K db selection.sourceAdoptionId with
  | none => .error "EXECUTION_CARRY_SOURCE_CONFLICT"
  | some (adoption, reuse) =>
    match adoption.authority.service.local? with
    | none => .error "EXECUTION_CARRY_SOURCE_CONFLICT"
    | some authority => do
        require (adoption.planId = planId ∧ adoption.planRevision + 1 = candidateRevision ∧
          adoption.adoptionDigest = selection.sourceAdoptionDigest ∧
          adoption.gate = selection.gate ∧
          reuse.reuseContractId = selection.sourceReuseContractId ∧
          reuse.nodeReuseContractDigest = selection.sourceNodeReuseContractDigest ∧
          reuse.reuseInputEvidenceDigest = selection.sourceReuseInputEvidenceDigest)
          "EXECUTION_CARRY_SOURCE_CONFLICT"
        pure (adoption, reuse, authority)

structure CarryInput where
  activatedBy : SupersessionActor
  activationOperationId : String
  candidateDigest : String
  candidateRevision : Nat
  definition : PlanDefinition
  delegationId : Option String
  planId : String
  step : CarryStep
  now : Time

/-- The id of an adoption that carries another. -/
def carryId (K : Contracts) (operationId sourceAdoptionId targetNodeKey : String) : String :=
  "adoption_" ++ K.digest (.carryAdoption operationId sourceAdoptionId targetNodeKey)

/-- `pending`, with its digests. -/
def CarryInput.adoption (K : Contracts) (i : CarryInput) (source : EvidenceAdoption)
    (reuse : EvidenceReuseContract) (authority : LocalAuthority) : EvidenceAdoption :=
  let node := i.step.node
  let task := i.step.task.snapshot
  let operationId := "op_" ++ K.digest (.carryOperation i.activationOperationId node.nodeKey
    i.step.selection.gate)
  let resolvedInputSetDigest := K.digest (.inputBindings [])
  let pending : EvidenceAdoption := {
    adoptionId := carryId K operationId source.adoptionId node.nodeKey
    operationId
    operationDigest := ""
    planId := i.planId
    planRevision := i.candidateRevision
    nodeKey := node.nodeKey
    gate := source.gate
    sourceEvidenceId := source.sourceEvidenceId
    sourceDigest := source.sourceDigest
    sourceExecution := source.sourceExecution
    proofs := source.proofs
    proofSetDigest := K.digest (.proofSet source.proofs)
    nodeContractDigest := K.digest (.nodeContract i.planId i.candidateRevision i.candidateDigest
      i.activationOperationId node task resolvedInputSetDigest)
    resolvedInputSetDigest
    authority := {
      approvalOperationId := i.activationOperationId
      planDigest := i.candidateDigest
      roomId := task.contract.roomId
      taskId := task.contract.taskId
      definitionRevision := task.contract.definitionRevision
      criteriaRevision := task.contract.criteriaRevision
      service := .executionSupersession authority {
        activatedBy := i.activatedBy
        delegationId := i.delegationId
        sourceAdoptionId := source.adoptionId
        sourceAdoptionDigest := source.adoptionDigest
        sourceReuseContractId := reuse.reuseContractId } }
    adoptionDigest := ""
    createdAt := i.now }
  let operated := { pending with operationDigest := K.digest (.adoptionOperation pending) }
  { operated with adoptionDigest := K.digest (.adoption operated) }

def reuseNode (n : PlanNode) : ReuseNode where
  nodeKey := n.nodeKey
  kind := n.kind
  required := n.required
  agentId := n.agentId
  repository := n.repository
  scope := n.scope
  budget := n.budget
  verificationProfiles := n.verificationProfiles
  inputs := n.inputs
  outputs := n.outputs

/-- The integration policy as far as it concerns a repository. -/
def reusePolicy (policy : PlanPolicy) (repositoryId : String) : ReuseIntegrationPolicy where
  integration := policy.integration
  requireHumanIntegrationApproval := policy.requireHumanIntegrationApproval
  integrationTargets := (policy.integrationTargets.filter fun t =>
    t.repositoryId = repositoryId).insertionSort fun a b =>
      if a.repositoryId = b.repositoryId then
        pairLe (a.targetRef, a.expectedCommit) (b.targetRef, b.expectedCommit)
      else textLe a.repositoryId b.repositoryId

def sealEvidenceReuseContract (K : Contracts) (adoption : EvidenceAdoption) (policy : PlanPolicy)
    (node : PlanNode) (reuseInputs : List ReuseInput) (runtimeDigest : String)
    (task : TaskSnapshot) : EvidenceReuseContract :=
  let inputs := sortBy (·.inputSlot) reuseInputs
  let inputDigest := K.digest (.reuseInputs inputs)
  let integrationPolicy := reusePolicy policy node.repository.repositoryId
  let pending : EvidenceReuseContract := {
    reuseContractId := ""
    adoptionId := adoption.adoptionId
    adoptionDigest := adoption.adoptionDigest
    planId := adoption.planId
    planRevision := adoption.planRevision
    nodeKey := adoption.nodeKey
    gate := adoption.gate
    runtimeInputBindingDigest := runtimeDigest
    reuseInputs := inputs
    reuseInputEvidenceDigest := inputDigest
    nodeExecutionDigest := adoption.nodeContractDigest
    node := reuseNode node
    task := task.contract
    integrationPolicy
    nodeReuseContractDigest := K.digest (.nodeReuseContract (reuseNode node) task.contract
      integrationPolicy inputDigest)
    contractDigest := ""
    createdAt := adoption.createdAt }
  let digested := { pending with contractDigest := K.digest (.reuseContract pending) }
  { digested with reuseContractId :=
      "reuse_" ++ K.digest (.reuseContractId digested.adoptionId digested.contractDigest) }

def createCarriedEvidenceReuseContract (K : Contracts) (adoption : EvidenceAdoption)
    (policy : PlanPolicy) (node : PlanNode) (reuseInputs : List ReuseInput)
    (task : TaskSnapshot) : Except Err EvidenceReuseContract := do
  let runtimeDigest := K.digest (.inputBindings [])
  let authority := adoption.authority
  match authority.service with
  | .executionSupersession .. =>
    require (adoption.resolvedInputSetDigest = runtimeDigest ∧
      node.nodeKey = adoption.nodeKey ∧ task.contract.taskId = authority.taskId ∧
      task.contract.roomId = authority.roomId ∧
      task.contract.definitionRevision = authority.definitionRevision ∧
      task.contract.criteriaRevision = authority.criteriaRevision)
      "Carried evidence reuse context conflicts with adoption"
  | _ => .error "Carried evidence reuse context conflicts with adoption"
  let contract := sealEvidenceReuseContract K adoption policy node reuseInputs runtimeDigest task
  K.assertExecutionCommand (.evidenceReuseContract contract)
  pure contract

/-- The plan, its activation, the approval and the node say where the adoption belongs. -/
def carryScope (db : ExecutionDb) (a : EvidenceAdoption) : Bool :=
  db.plans.any fun p => decide (p.planId = a.planId ∧ p.currentRevision = a.planRevision ∧
      a.authority.roomId = p.roomId) &&
    db.activations.any (fun v => v.planId = p.planId ∧ v.candidateRevision = p.currentRevision ∧
      v.operationId = a.authority.approvalOperationId) &&
    db.approvals.any (fun v => v.operationId = a.authority.approvalOperationId ∧
      v.revision = a.planRevision ∧ v.digest = a.authority.planDigest) &&
    db.nodes.any (fun n => n.planId = a.planId ∧ n.revision = a.planRevision ∧
      n.nodeKey = a.nodeKey ∧ n.taskId = a.authority.taskId ∧
      n.definitionRevision = a.authority.definitionRevision ∧
      n.criteriaRevision = a.authority.criteriaRevision)

/-- No adoption of another service is in the place of this one. -/
def gateFree (db : ExecutionDb) (a : EvidenceAdoption) : Bool :=
  (db.adoptions.map (·.adoption) ++ db.remoteAdoptions).all fun b =>
    ¬(b.planId = a.planId ∧ b.planRevision = a.planRevision ∧ b.nodeKey = a.nodeKey ∧
      b.gate = a.gate)

/-- The row a carried adoption is made from. -/
def carryOrigin (db : ExecutionDb) (row : CarriedAdoption) : Bool :=
  (carryable db).any fun s => s.adoptionId = row.sourceAdoptionId ∧
    s.sourceEvidenceId = row.adoption.sourceEvidenceId ∧
    s.sourceDigest = row.adoption.sourceDigest ∧ s.gate = row.adoption.gate ∧
    s.proofSetDigest = row.adoption.proofSetDigest

def insertCarriedAdoption (row : CarriedAdoption) : Db Unit :=
  insertRow (fun db => (db.carriedAdoptions.all fun c =>
      c.adoption.adoptionId ≠ row.adoption.adoptionId ∧
      c.adoption.operationId ≠ row.adoption.operationId ∧
      c.adoption.adoptionDigest ≠ row.adoption.adoptionDigest ∧
      ¬(c.adoption.planId = row.adoption.planId ∧
        c.adoption.planRevision = row.adoption.planRevision ∧
        c.adoption.nodeKey = row.adoption.nodeKey ∧ c.adoption.gate = row.adoption.gate)) &&
      carryScope db row.adoption && gateFree db row.adoption && carryOrigin db row)
    fun db => { db with carriedAdoptions := db.carriedAdoptions ++ [row] }

def insertCarriedReuse (row : CarriedReuse) : Db Unit :=
  insertRow (fun db => (db.carriedReuse.all fun c =>
      c.contract.reuseContractId ≠ row.contract.reuseContractId ∧
      c.contract.adoptionId ≠ row.contract.adoptionId ∧
      c.contract.contractDigest ≠ row.contract.contractDigest) &&
      (db.reuseContracts ++ db.carriedReuse.map (·.contract)).any fun s =>
        s.reuseContractId = row.sourceReuseContractId ∧
        s.reuseInputEvidenceDigest = row.contract.reuseInputEvidenceDigest ∧
        s.nodeReuseContractDigest = row.contract.nodeReuseContractDigest)
    fun db => { db with carriedReuse := db.carriedReuse ++ [row] }

def carryReceipt (source adoption : EvidenceAdoption) (reuse : EvidenceReuseContract) :
    CarryReceipt where
  targetNodeKey := adoption.nodeKey
  gate := adoption.gate
  sourceAdoptionId := source.adoptionId
  sourceAdoptionDigest := source.adoptionDigest
  adoptionId := adoption.adoptionId
  adoptionDigest := adoption.adoptionDigest
  reuseContractId := reuse.reuseContractId
  nodeReuseContractDigest := reuse.nodeReuseContractDigest
  reuseInputEvidenceDigest := reuse.reuseInputEvidenceDigest

/-- `carry.retain`. -/
def retainCarry (K : Contracts) (i : CarryInput) : Db CarryReceipt := do
  let (source, reuse, authority) ← check fun db =>
    requireCarrySource K db i.planId i.candidateRevision i.step.selection
  check fun db => reuse.reuseInputs.forM (requireLogicalInput db i.definition i.step.node reuse)
  check fun _ => require (source.sourceExecution.isSome = true)
    "EXECUTION_CARRY_LOCAL_AUTHORITY_REQUIRED"
  let pending := i.adoption K source reuse authority
  check fun _ => K.assertExecutionCommand (.evidenceAdoption pending)
  let targetReuse ← check fun _ => createCarriedEvidenceReuseContract K pending
    i.definition.policy i.step.node reuse.reuseInputs i.step.task.snapshot
  check fun _ => require (
    targetReuse.nodeReuseContractDigest = reuse.nodeReuseContractDigest ∧
    targetReuse.reuseInputEvidenceDigest = reuse.reuseInputEvidenceDigest)
    "EXECUTION_CARRY_REUSE_MISMATCH"
  insertCarriedAdoption ⟨pending, source.adoptionId⟩
  insertCarriedReuse ⟨targetReuse, reuse.reuseContractId⟩
  let retained ← check fun db => carrySource K db pending.adoptionId
  check fun _ => require (retained = some (pending, targetReuse))
    "Carried evidence is not replayable"
  pure (carryReceipt source pending targetReuse)

/-! ## The receipt -/

/-- `supersessions.consume`. -/
def consumeDelegation (delegationId activationOperationId : String) (now : Time) : Db Unit :=
  insertRow (fun db => db.consumptions.all fun c => c.delegationId ≠ delegationId ∧
      c.activationOperationId ≠ activationOperationId)
    fun db => { db with
      consumptions := db.consumptions ++ [⟨delegationId, activationOperationId, now⟩] }

def retainActivationReceipt (K : Contracts) (receipt : ActivationReceipt) : Db Unit := do
  check fun _ => K.assertExecutionCommand (.supersessionActivationReceipt receipt)
  insertRow (fun db => db.receipts.all fun r => r.operationId ≠ receipt.operationId ∧
      r.operationDigest ≠ receipt.operationDigest)
    fun db => { db with receipts := db.receipts ++ [receipt] }

def ActivationRequest.carryInput (r : ActivationRequest) (a : Activation) (now : Time)
    (step : CarryStep) : CarryInput where
  activatedBy := r.activatedBy
  activationOperationId := r.command.operationId
  candidateDigest := a.candidate.candidateDigest
  candidateRevision := a.candidate.candidateRevision
  definition := a.definition
  delegationId := r.delegationId
  planId := r.planId
  step
  now

def ActivationRequest.receipt (K : Contracts) (r : ActivationRequest) (a : Activation)
    (plan : PlanProjection) (carryForward : List CarryReceipt) (now : Time) :
    ActivationReceipt :=
  let unsigned : ActivationReceipt := {
    operationId := r.command.operationId
    plan
    candidate := a.candidate
    activatedBy := r.activatedBy
    delegationId := r.delegationId
    carryForward
    requestDigest := r.digest K
    operationDigest := ""
    activatedAt := now }
  { unsigned with operationDigest := K.digest (.activationReceipt unsigned) }

def writeRevision (K : Contracts) (r : ActivationRequest) (a : Activation) (now : Time) :
    Db Unit := do
  beginActivation (r.row K a now)
  insertCompilation a
  let fenced ← fenceRevision a.root.taskId
    ("op_" ++ K.digest (.rootSupersession r.command.operationId)) a.root.taskRevision now
  insertApproval K r a fenced.taskRevision now
  advancePlan a.plan a.candidate.candidateRevision now

def writeReceipt (K : Contracts) (r : ActivationRequest) (a : Activation)
    (carryForward : List CarryReceipt) (now : Time) : Db ActivationReceipt := do
  Tx.whenSome a.delegation fun delegation =>
    consumeDelegation delegation.delegationId r.command.operationId now
  match ← check fun db => getPlan db r.planId with
  | none => throw "TypeError"
  | some current => do
      let receipt := r.receipt K a current carryForward now
      retainActivationReceipt K receipt
      pure receipt

def writeActivation (K : Contracts) (r : ActivationRequest) (a : Activation) (now : Time) :
    Db ActivationReceipt := do
  writeRevision K r a now
  let carryForward ← Tx.forEach (fun step => retainCarry K (r.carryInput a now step)) a.carryPlan
  writeReceipt K r a carryForward now

/-- The replay, or the checks and the writes of a new activation. -/
def activateOnce (K : Contracts) (E : Surroundings) (r : ActivationRequest) :
    Db ActivationReceipt := do
  match ← check fun db => getPlan db r.planId with
  | none => throw "EXECUTION_PLAN_NOT_FOUND"
  | some plan => do
      check fun db => requireAuthorityMember db plan r.authorityMemberId
      match ← check fun db => replayActivation K db r.command.operationId (r.digest K) with
      | some receipt => pure receipt
      | none => do
          let a ← check fun db => requireActivation K E db r plan
          writeActivation K r a E.now

/-- **`activateWithActor`.** -/
def activateWithActor (K : Contracts) (E : Surroundings) (r : ActivationRequest) :
    Db ActivationReceipt := do
  check fun _ => K.assertExecutionCommand (.supersessionActivationCommand r.command)
  Tx.immediate (activateOnce K E r)

/-- `activate`, by a member who may see the plan. -/
def activate (K : Contracts) (E : Surroundings) (memberId planId : String)
    (command : ActivationCommand) : Db ActivationReceipt := do
  match ← check fun db => getPlan db planId with
  | none => throw "EXECUTION_PLAN_NOT_FOUND"
  | some plan => do
      check fun db => do
        require (isRoomMember db plan.roomId memberId = true) "FORBIDDEN"
        let root ← requireRoot db plan
        match getMember db memberId with
        | none => .error "FORBIDDEN"
        | some member => require (member.role = .owner ∨ memberId = root.ownerMemberId) "FORBIDDEN"
      activateWithActor K E ⟨planId, command, .member memberId, memberId, none⟩

/-- **`activateForAgent`.** -/
def activateForAgent (K : Contracts) (E : Surroundings) (planId : String)
    (command : ActivationCommand) (agentId runId delegationId : String) :
    Db ActivationReceipt := do
  match ← check fun db => getDelegation db K delegationId with
  | none => throw "EXECUTION_REPLAN_DELEGATION_NOT_FOUND"
  | some delegation => do
      check fun _ => require (delegation.planId = planId) "EXECUTION_REPLAN_DELEGATION_NOT_FOUND"
      activateWithActor K E ⟨planId, command, .agent agentId runId, delegation.issuedByMemberId,
        some delegationId⟩

end AgentRoom.Execution
