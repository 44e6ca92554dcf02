import AgentRoom.Execution.Records
import AgentRoom.Plan.Validation

/-!
# The execution tables

`ExecutionDb` holds the tables of `Records`. Reads are functions of it; a write refuses a row
whose key is taken, as the primary keys and the unique columns do.
-/

namespace AgentRoom.Execution

open Plan (Gate PlanDefinition PlanNode PlanPolicy Validated)

/-- The tables the execution services read and write. -/
structure ExecutionDb where
  teams : List Team := []
  rooms : List Room := []
  members : List Member := []
  devices : List Device := []
  agents : List Agent := []
  /-- `room_human_participants`: the Room and the member. -/
  roomMembers : List (String × String) := []
  /-- `room_agent_participants`: the Room and the Agent. -/
  roomAgents : List (String × String) := []
  tasks : List AgentTask := []
  taskOperations : List TaskOperation := []
  plans : List PlanRow := []
  revisions : List PlanRevision := []
  decisionSources : List DecisionSource := []
  /-- The operation ids of `execution_plan_operations`. -/
  planOperations : List String := []
  approvals : List ApprovalRow := []
  nodes : List NodeRow := []
  edges : List EdgeRow := []
  claims : List TaskClaim := []
  candidates : List SupersessionCandidate := []
  activations : List ActivationRow := []
  receipts : List ActivationReceipt := []
  delegations : List ReplanDelegation := []
  revocations : List DelegationRevocation := []
  consumptions : List DelegationConsumption := []
  sourceEvidence : List SourceEvidence := []
  materializations : List NodeMaterialization := []
  gateProofs : List GateProofRef := []
  adoptions : List LocalAdoption := []
  reuseContracts : List EvidenceReuseContract := []
  remoteAdoptions : List EvidenceAdoption := []
  remoteReuse : List EvidenceReuseContract := []
  remoteSources : List RemoteSource := []
  attestations : List RemoteAttestation := []
  carriedAdoptions : List CarriedAdoption := []
  carriedReuse : List CarriedReuse := []
  runs : List RunRow := []
  results : List TaskResult := []
  reviews : List ResultReview := []
  resultArtifacts : List ResultArtifact := []
  artifacts : List TaskArtifact := []
  contents : List StoredContent := []
  remoteImports : List RemoteImport := []
  inputs : List StoredInput := []

/-- A program over the execution tables; what it throws is the code of the error. -/
abbrev Db (α : Type) := Tx ExecutionDb Err α

/-- What the database throws of a row it refuses. -/
def constraintFailed : Err := "SQLITE_CONSTRAINT"

/-! ## Digests -/

inductive Digested where
  | activationRequest (planId : String) (activatedBy : SupersessionActor)
      (authorityMemberId : String) (delegationId : Option String) (command : ActivationCommand)
  | rootSupersession (operationId : String)
  | supersessionApproval (command : ActivationCommand)
  | carryOperation (activationOperationId targetNodeKey : String) (gate : Gate)
  | carryAdoption (operationId sourceAdoptionId targetNodeKey : String)
  | inputBindings (bindings : List InputBinding)
  | nodeContract (planId : String) (planRevision : Nat) (planDigest approvalOperationId : String)
      (node : PlanNode) (task : TaskSnapshot) (resolvedInputSetDigest : String)
  | proofSet (proofs : List GateProofRef)
  /-- The adoption without its two digests and its time. -/
  | adoptionOperation (adoption : EvidenceAdoption)
  /-- The adoption without `adoptionDigest`. -/
  | adoption (adoption : EvidenceAdoption)
  | reuseInputs (inputs : List ReuseInput)
  | nodeReuseContract (node : ReuseNode) (task : TaskContract) (policy : ReuseIntegrationPolicy)
      (reuseInputEvidenceDigest : String)
  /-- The contract without its id, its own digest and its time. -/
  | reuseContract (contract : EvidenceReuseContract)
  | reuseContractId (adoptionId contractDigest : String)
  /-- The receipt without its own digest. -/
  | activationReceipt (receipt : ActivationReceipt)
  | inputIdentity (runId inputSlot : String)
  | acceptedSource (source : AcceptedSource)
  | inputBinding (binding : InputBinding)
  /-- A request with one selection, and the binding without its time. -/
  | inputRequest (request : FreezeInputs) (binding : InputBinding)

/-- What `assertExecutionCommand` is called with. -/
inductive Asserted where
  | supersessionActivationCommand (command : ActivationCommand)
  | supersessionCandidateRecord (candidate : SupersessionCandidate)
  | replanDelegationRecord (delegation : ReplanDelegation)
  | evidenceAdoption (adoption : EvidenceAdoption)
  | evidenceReuseContract (contract : EvidenceReuseContract)
  | supersessionActivationReceipt (receipt : ActivationReceipt)
  | executionInputBinding (binding : InputBinding)

/-- **The contracts package**: the validator of definitions, the digest and the closed schemas. -/
structure Contracts where
  validateExecutionPlanDefinition : PlanDefinition → Except Err Validated
  /-- `executionOperationDigest`. -/
  digest : Digested → String
  /-- Whether `assertExecutionCommand` accepts a record. -/
  conforms : Asserted → Bool

/-- The package with the validator of the plan model. -/
def Contracts.of (D : AgentRoom.Contracts.Doubles) (sha256 : List UInt8 → String)
    (digest : Digested → String) (conforms : Asserted → Bool) : Contracts where
  validateExecutionPlanDefinition := Plan.validateExecutionPlanDefinition D sha256
  digest
  conforms

def Contracts.assertExecutionCommand (K : Contracts) (value : Asserted) : Except Err Unit :=
  if K.conforms value then .ok () else .error "EXECUTION_SCHEMA_INVALID"

/-- `if (!condition) throw new ExecutionError(code)`. Only the routes read its HTTP status. -/
def require (condition : Prop) [Decidable condition] (code : Err) : Except Err Unit :=
  if condition then .ok () else .error code

/-! ## Reads -/

section Reads

variable (db : ExecutionDb)

def getMember (memberId : String) : Option Member :=
  db.members.find? fun m => m.memberId = memberId

def getAgent (agentId : String) : Option Agent := db.agents.find? fun a => a.agentId = agentId

def isRoomMember (roomId memberId : String) : Bool := (roomId, memberId) ∈ db.roomMembers

def isRoomAgent (roomId agentId : String) : Bool := (roomId, agentId) ∈ db.roomAgents

/-- `tasks.get`. -/
def getTask (taskId : String) : Option AgentTask := db.tasks.find? fun t => t.taskId = taskId

/-- `plans.revision`. -/
def getRevision (planId : String) (revision : Nat) : Option PlanRevision :=
  db.revisions.find? fun r => r.planId = planId ∧ r.revision = revision

def nodesOf (planId : String) (revision : Nat) : List NodeRow :=
  db.nodes.filter fun n => n.planId = planId ∧ n.revision = revision

def NodeRow.compiled (n : NodeRow) : CompiledTask where
  nodeKey := n.nodeKey
  taskId := n.taskId
  taskRevision := n.taskRevision
  definitionRevision := n.definitionRevision
  criteriaRevision := n.criteriaRevision

def PlanRow.projection (row : PlanRow) (current : PlanRevision)
    (compiledTasks : List CompiledTask) : PlanProjection where
  planId := row.planId
  rootTaskId := row.rootTaskId
  roomId := row.roomId
  ownerMemberId := row.ownerMemberId
  current
  controlRevision := row.controlRevision
  state := row.state
  compiledTasks
  createdAt := row.createdAt
  updatedAt := row.updatedAt

/-- `plans.get`. -/
def getPlan (planId : String) : Except Err (Option PlanProjection) :=
  match db.plans.find? fun p => p.planId = planId with
  | none => .ok none
  | some row =>
    match getRevision db planId row.currentRevision with
    | none => .error "EXECUTION_HISTORY_INCONSISTENT"
    | some current => .ok (some (row.projection current
        (Plan.sortBy (·.nodeKey) ((nodesOf db planId row.currentRevision).map NodeRow.compiled))))

/-- `plans.sources`. -/
def decisionSourcesOf (decisionId : String) : List SourceSnapshot :=
  (db.decisionSources.filter fun s => s.decisionId = decisionId).map (·.snapshot)

def getApproval (planId : String) (revision : Nat) : Option ApprovalRow :=
  db.approvals.find? fun a => a.planId = planId ∧ a.revision = revision

/-- `plans.supersessionCandidateById`. -/
def supersessionCandidateById (K : Contracts) (candidateId : String) :
    Except Err (Option SupersessionCandidate) :=
  match db.candidates.find? fun c => c.candidateId = candidateId with
  | none => .ok none
  | some candidate => do
      K.assertExecutionCommand (.supersessionCandidateRecord candidate)
      pure (some candidate)

def getDelegation (K : Contracts) (delegationId : String) :
    Except Err (Option ReplanDelegation) :=
  match db.delegations.find? fun d => d.delegationId = delegationId with
  | none => .ok none
  | some delegation => do
      K.assertExecutionCommand (.replanDelegationRecord delegation)
      pure (some delegation)

/-- No delegation of the plan to the Agent has a higher revision. -/
def isCurrentDelegation (delegation : ReplanDelegation) : Bool :=
  db.delegations.any (fun d => d.planId = delegation.planId ∧ d.agentId = delegation.agentId ∧
    d.revision = delegation.revision) &&
  db.delegations.all fun d => ¬(d.planId = delegation.planId ∧ d.agentId = delegation.agentId) ∨
    d.revision ≤ delegation.revision

def isRevoked (delegationId : String) : Bool :=
  db.revocations.any fun r => r.delegationId = delegationId

def isConsumed (delegationId : String) : Bool :=
  db.consumptions.any fun c => c.delegationId = delegationId

end Reads

/-! ## Adopted materializations -/

section View

variable (db : ExecutionDb)

/-- The join of a materialization with the evidence its adoption names. -/
def SourceEvidence.joins (source : SourceEvidence) (m : NodeMaterialization) : Bool :=
  match m.gate, source.origin with
  | .acceptedResult, .taskResult sourceRunId resultId _ =>
    sourceRunId = m.sourceRunId ∧ resultId = m.sourceResultId
  | .verifiedOutput, .repositoryCommit sourceRunId _ commit tree checkpointId _ _ =>
    sourceRunId = m.sourceRunId ∧ some checkpointId = m.checkpointId ∧
      some commit = m.candidateCommit ∧ some tree = m.candidateTree
  | .integratedCommit, .repositoryCommit sourceRunId repositoryId commit tree checkpointId _ _ =>
    sourceRunId = m.sourceRunId ∧ some repositoryId = m.repositoryId ∧
      some checkpointId = m.checkpointId ∧ some commit = m.candidateCommit ∧
      some tree = m.candidateTree
  | _, _ => false

/-- The Task result beside a commit is the one the materialization names. -/
def companionMatches (source : SourceEvidence) (m : NodeMaterialization) : Bool :=
  match source.origin with
  | .taskResult .. => true
  | .repositoryCommit _ _ _ _ _ companionId _ =>
    db.sourceEvidence.any fun c => c.sourceEvidenceId = companionId &&
      match c.origin with
      | .taskResult sourceRunId resultId _ =>
        sourceRunId = m.sourceRunId ∧ resultId = m.sourceResultId
      | .repositoryCommit .. => false

def nodeRow (planId : String) (revision : Nat) (nodeKey : String) : Option NodeRow :=
  db.nodes.find? fun n => n.planId = planId ∧ n.revision = revision ∧ n.nodeKey = nodeKey

/-- `execution_source_evidence` under the id and the digest an adoption names. -/
def sourceOf (adoption : EvidenceAdoption) : Option SourceEvidence :=
  db.sourceEvidence.find? fun s => s.sourceEvidenceId = adoption.sourceEvidenceId ∧
    s.sourceDigest = adoption.sourceDigest

/-- The rows a local adoption contributes to `execution_adopted_node_materializations`. -/
def localView (row : LocalAdoption) : List AdoptedMaterialization :=
  match sourceOf db row.adoption,
      nodeRow db row.adoption.planId row.adoption.planRevision row.adoption.nodeKey with
  | some source, some node =>
    (db.materializations.filter fun m => m.planId = row.adoption.planId ∧
      m.planRevision = row.adoption.planRevision ∧ m.nodeKey = row.adoption.nodeKey ∧
      m.gate = row.adoption.gate ∧ m.materializationDigest = row.legacyMaterializationDigest ∧
      source.joins m ∧ companionMatches db source m).map fun m => {
        planId := m.planId
        planRevision := m.planRevision
        nodeKey := m.nodeKey
        gate := m.gate
        dispatchGeneration := some m.dispatchGeneration
        sourceRunId := some m.sourceRunId
        sourceResultId := some m.sourceResultId
        sourceResultVersion := some m.sourceResultVersion
        gateOperationId := m.gateOperationId
        materializationDigest := m.materializationDigest
        candidateCommit := m.candidateCommit
        candidateTree := m.candidateTree
        checkpointId := m.checkpointId
        artifactPins := m.artifactPins
        adoptionId := row.adoption.adoptionId
        adoptionDigest := row.adoption.adoptionDigest
        sourceEvidenceId := row.adoption.sourceEvidenceId
        sourceDigest := row.adoption.sourceDigest
        sourceTaskId := node.taskId
        definitionRevision := node.definitionRevision
        criteriaRevision := node.criteriaRevision }
  | _, _ => []

/-- The row a remote adoption contributes, once its inputs are attested. -/
def remoteView (adoption : EvidenceAdoption) : List AdoptedMaterialization :=
  match db.remoteSources.find? (fun s => s.sourceEvidenceId = adoption.sourceEvidenceId ∧
        s.sourceDigest = adoption.sourceDigest),
      db.remoteReuse.find? (fun r => r.adoptionId = adoption.adoptionId ∧
        r.adoptionDigest = adoption.adoptionDigest),
      nodeRow db adoption.planId adoption.planRevision adoption.nodeKey with
  | some source, some reuse, some node =>
    if node.node.inputs = [] ∨ (db.attestations.any fun a => a.planId = adoption.planId ∧
        a.planRevision = adoption.planRevision ∧ a.nodeKey = adoption.nodeKey ∧
        a.sourceEvidenceId = adoption.sourceEvidenceId ∧
        a.remoteInputEvidenceDigest = reuse.reuseInputEvidenceDigest) then
      [{
        planId := adoption.planId
        planRevision := adoption.planRevision
        nodeKey := adoption.nodeKey
        gate := adoption.gate
        dispatchGeneration := none
        sourceRunId := none
        sourceResultId := none
        sourceResultVersion := none
        gateOperationId := adoption.operationId
        materializationDigest := adoption.adoptionDigest
        candidateCommit := source.candidateCommit
        candidateTree := source.candidateTree
        checkpointId := none
        artifactPins := source.artifactPins
        adoptionId := adoption.adoptionId
        adoptionDigest := adoption.adoptionDigest
        sourceEvidenceId := adoption.sourceEvidenceId
        sourceDigest := adoption.sourceDigest
        sourceTaskId := node.taskId
        definitionRevision := node.definitionRevision
        criteriaRevision := node.criteriaRevision }]
    else []
  | _, _, _ => []

/-- The result a source names, or the one beside its commit. -/
def resultOf (source : SourceEvidence) : Option (String × Nat) :=
  match source.origin with
  | .taskResult _ resultId resultVersion => some (resultId, resultVersion)
  | .repositoryCommit _ _ _ _ _ companionId companionDigest =>
    match db.sourceEvidence.find? fun c => c.sourceEvidenceId = companionId ∧
        c.sourceDigest = companionDigest with
    | some companion =>
      match companion.origin with
      | .taskResult _ resultId resultVersion => some (resultId, resultVersion)
      | .repositoryCommit .. => none
    | none => none

def SourceOrigin.commit : SourceOrigin → Option String
  | .taskResult .. => none
  | .repositoryCommit _ _ commit _ _ _ _ => some commit

def SourceOrigin.tree : SourceOrigin → Option String
  | .taskResult .. => none
  | .repositoryCommit _ _ _ tree _ _ _ => some tree

def SourceOrigin.checkpointId : SourceOrigin → Option String
  | .taskResult .. => none
  | .repositoryCommit _ _ _ _ checkpointId _ _ => some checkpointId

/-- A carried acceptance keeps the operation of its review; another gate has that of the carry. -/
def gateOperationOf (adoption : EvidenceAdoption) : String :=
  match adoption.gate, adoption.proofs with
  | .acceptedResult, review :: _ => review.operationId
  | _, _ => adoption.operationId

/-- The row a carried adoption contributes. -/
def carriedView (adoption : EvidenceAdoption) : List AdoptedMaterialization :=
  match sourceOf db adoption,
      db.carriedReuse.find? (fun r => r.contract.adoptionId = adoption.adoptionId ∧
        r.contract.adoptionDigest = adoption.adoptionDigest),
      nodeRow db adoption.planId adoption.planRevision adoption.nodeKey with
  | some source, some _, some node =>
    [{
      planId := adoption.planId
      planRevision := adoption.planRevision
      nodeKey := adoption.nodeKey
      gate := adoption.gate
      dispatchGeneration := adoption.sourceExecution.map (·.dispatchGeneration)
      sourceRunId := adoption.sourceExecution.map (·.runId)
      sourceResultId := (resultOf db source).map (·.1)
      sourceResultVersion := (resultOf db source).map (·.2)
      gateOperationId := gateOperationOf adoption
      materializationDigest := adoption.adoptionDigest
      candidateCommit := source.origin.commit
      candidateTree := source.origin.tree
      checkpointId := source.origin.checkpointId
      artifactPins := source.artifactPins
      adoptionId := adoption.adoptionId
      adoptionDigest := adoption.adoptionDigest
      sourceEvidenceId := adoption.sourceEvidenceId
      sourceDigest := adoption.sourceDigest
      sourceTaskId := node.taskId
      definitionRevision := node.definitionRevision
      criteriaRevision := node.criteriaRevision }]
  | _, _, _ => []

/-- **`execution_all_adopted_node_materializations`.** -/
def allAdopted : List AdoptedMaterialization :=
  db.adoptions.flatMap (localView db) ++ db.remoteAdoptions.flatMap (remoteView db) ++
    db.carriedAdoptions.flatMap fun row => carriedView db row.adoption

def adoptedAt (planId : String) (revision : Nat) : List AdoptedMaterialization :=
  (allAdopted db).filter fun a => a.planId = planId ∧ a.planRevision = revision

end View

end AgentRoom.Execution
