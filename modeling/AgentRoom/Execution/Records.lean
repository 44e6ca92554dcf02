import AgentRoom.Plan.Types
import AgentRoom.Run.Store

/-!
# Execution records

The rows Central keeps about an approved execution plan: its revisions and their compilation,
the Tasks it claims, the evidence adopted for its nodes, and the facts of superseding it.

Digests are texts. What each one is taken of is a value of `Digested`.

A manifest is the record the server admits a governed Run with and the Bridge checks its local
grant against. Its schema version is left out: it is always 1.
-/

namespace AgentRoom.Execution

open Plan (ArtifactKind ArtifactSlot BudgetPolicy Criterion ExternalInput Gate Integration
  IntegrationTarget NodeKind PlanDefinition PlanEdge PlanNode PlanPolicy RepositoryInput
  ScopePolicy Source VerificationProfile)

/-! ## Members, Agents and Tasks -/

inductive MemberRole where
  | owner | member
  deriving DecidableEq

structure Member where
  memberId : String
  teamId : String
  role : MemberRole

/-- `capabilities_json.governedExecution`, as its canonical text. -/
abbrev Capability := String

/-- A row of `agents`; a capability that does not conform is none. -/
structure Agent where
  agentId : String
  teamId : String
  ownerMemberId : String
  deviceId : Option String
  integrationMode : IntegrationMode
  governedExecution : Option Capability
  enabled : Bool

structure Team where
  teamId : String
  archived : Bool

structure Room where
  roomId : String
  teamId : String
  archived : Bool

inductive DeviceStatus where
  | active | revoked
  deriving DecidableEq

structure Device where
  deviceId : String
  teamId : String
  ownerMemberId : String
  status : DeviceStatus

inductive TaskRole where
  | primary | contributor | reviewer
  deriving DecidableEq

structure TaskAssignment where
  agentId : String
  role : TaskRole
  assignedByMemberId : String
  assignedAt : Time
  deriving DecidableEq

inductive TaskLifecycleState where
  | draft | ready | active | review | completed | canceled
  deriving DecidableEq

inductive TaskSchedulingState where
  | enabled | paused
  deriving DecidableEq

inductive TaskCompletionPolicy where
  | ownerConfirmed | acceptedResultRequired
  deriving DecidableEq

structure BudgetUsage where
  runAttempts : Nat
  executionDurationSeconds : Nat

/-- A row of `agent_tasks`, with its assignments and criteria. -/
structure AgentTask where
  taskId : String
  teamId : String
  roomId : String
  parentTaskId : Option String
  title : String
  goal : String
  lifecycleState : TaskLifecycleState
  schedulingState : TaskSchedulingState
  completionPolicy : TaskCompletionPolicy
  taskRevision : Nat
  definitionRevision : Nat
  criteriaRevision : Nat
  criteria : List Criterion
  ownerMemberId : String
  assignments : List TaskAssignment
  budgetPolicy : BudgetPolicy
  budgetUsage : BudgetUsage
  isDefault : Bool
  updatedAt : Time

/-- What of a Task its evidence depends on. -/
structure TaskContract where
  taskId : String
  roomId : String
  parentTaskId : Option String
  title : String
  goal : String
  ownerMemberId : String
  completionPolicy : TaskCompletionPolicy
  definitionRevision : Nat
  criteriaRevision : Nat
  criteria : List Criterion
  assignments : List TaskAssignment
  budgetPolicy : BudgetPolicy
  deriving DecidableEq

structure TaskSnapshot where
  contract : TaskContract
  taskRevision : Nat

/-! ## Plans -/

inductive PlanState where
  | draft | approved | running | paused | review | completed | canceled
  deriving DecidableEq

/-- `activePlanStates`. -/
def PlanState.active : PlanState → Bool
  | .approved | .running | .paused | .review => true
  | .draft | .completed | .canceled => false

inductive PlanAuthor where
  | member (memberId : String)
  | agent (agentId runId : String)
  | discussion (discussionId : String)
  deriving DecidableEq

inductive SupersessionActor where
  | member (memberId : String)
  | agent (agentId runId : String)
  deriving DecidableEq

/-- A row of `execution_plans`. -/
structure PlanRow where
  planId : String
  rootTaskId : String
  roomId : String
  ownerMemberId : String
  currentRevision : Nat
  controlRevision : Nat
  state : PlanState
  createdAt : Time
  updatedAt : Time

/-- A row of `execution_plan_revisions` joined with its proposal. -/
structure PlanRevision where
  planId : String
  revision : Nat
  proposalId : String
  decisionId : String
  definition : PlanDefinition
  author : PlanAuthor
  digest : String
  createdAt : Time

structure CompiledTask where
  nodeKey : String
  taskId : String
  taskRevision : Nat
  definitionRevision : Nat
  criteriaRevision : Nat
  deriving DecidableEq

/-- `ExecutionPlanProjection`. -/
structure PlanProjection where
  planId : String
  rootTaskId : String
  roomId : String
  ownerMemberId : String
  current : PlanRevision
  controlRevision : Nat
  state : PlanState
  compiledTasks : List CompiledTask
  createdAt : Time
  updatedAt : Time

/-- A frozen source of a decision. -/
structure SourceSnapshot where
  source : Source
  revision : Nat
  digest : String

/-- A row of `execution_decision_sources`. -/
structure DecisionSource where
  decisionId : String
  snapshot : SourceSnapshot

/-- A row of `execution_plan_nodes`. -/
structure NodeRow where
  planId : String
  revision : Nat
  nodeKey : String
  taskId : String
  taskRevision : Nat
  definitionRevision : Nat
  criteriaRevision : Nat
  agentId : String
  ownerMemberId : String
  node : PlanNode
  snapshot : TaskSnapshot

/-- A row of `execution_plan_edges`. -/
structure EdgeRow where
  planId : String
  revision : Nat
  edge : PlanEdge

/-- A row of `execution_plan_task_claims`. -/
structure TaskClaim where
  taskId : String
  planId : String
  revision : Nat
  nodeKey : String
  deriving DecidableEq

inductive ApprovalDecision where
  | approved | rejected
  deriving DecidableEq

/-- A row of `execution_plan_approvals`. -/
structure ApprovalRow where
  operationId : String
  planId : String
  revision : Nat
  digest : String
  decision : ApprovalDecision
  reason : String
  reviewedByMemberId : String
  rootTaskRevisionBefore : Nat
  rootTaskRevisionAfter : Nat
  compiledTasks : List CompiledTask
  requestDigest : String
  plan : PlanProjection
  reviewedAt : Time

/-- A row of `task_operations`. -/
structure TaskOperation where
  operationId : String
  taskId : String
  taskRevision : Nat

/-! ## Evidence -/

structure ArtifactPin where
  artifactId : String
  artifactRevision : Nat
  byteLength : Nat
  contentDigest : String
  kind : ArtifactKind
  outputSlot : String

/-- What a proof of a gate refers to, by its kind. -/
inductive GateProofBody where
  | resultReview (resultId : String) (resultVersion : Nat)
  | verificationReceipt (verificationId profileId : String) (profileRevision : Nat)
      (profileDigest : String)
  | ciObservationReceipt (providerBindingId observationId checkKey : String) (attempt : Nat)
  | integrationReceipt (repositoryId resultingCommit : String)
  deriving DecidableEq

structure GateProofRef where
  operationId : String
  proofDigest : String
  body : GateProofBody
  deriving DecidableEq

structure SourceExecution where
  runId : String
  dispatchGeneration : Nat
  deriving DecidableEq

/-- The Agent, the Device and the grant a local adoption rests on. -/
structure LocalAuthority where
  agentId : String
  deviceId : String
  grantId : String
  grantRevision : Nat
  grantDigest : String
  deriving DecidableEq

/-- What a carried adoption says of the adoption it carries. -/
structure CarrySource where
  activatedBy : SupersessionActor
  delegationId : Option String
  sourceAdoptionId : String
  sourceAdoptionDigest : String
  sourceReuseContractId : String
  deriving DecidableEq

/-- The service an adoption was made by, with the fields that service adds. -/
inductive AdoptionService where
  | executionMaterialization (authority : LocalAuthority)
  | remoteEvidenceAdoption (actorMemberId providerBindingId bindingDigest : String)
  | executionSupersession (authority : LocalAuthority) (source : CarrySource)
  deriving DecidableEq

/-- The local authority; a remote adoption has none. -/
def AdoptionService.local? : AdoptionService → Option LocalAuthority
  | .executionMaterialization authority => some authority
  | .remoteEvidenceAdoption .. => none
  | .executionSupersession authority _ => some authority

structure AdoptionAuthority where
  approvalOperationId : String
  planDigest : String
  roomId : String
  taskId : String
  definitionRevision : Nat
  criteriaRevision : Nat
  service : AdoptionService
  deriving DecidableEq

structure EvidenceAdoption where
  adoptionId : String
  operationId : String
  operationDigest : String
  planId : String
  planRevision : Nat
  nodeKey : String
  gate : Gate
  sourceEvidenceId : String
  sourceDigest : String
  sourceExecution : Option SourceExecution
  proofs : List GateProofRef
  proofSetDigest : String
  nodeContractDigest : String
  resolvedInputSetDigest : String
  authority : AdoptionAuthority
  adoptionDigest : String
  createdAt : Time
  deriving DecidableEq

inductive ReuseProducer where
  | adoptedEvidence (edge : PlanEdge) (sourceEvidenceId sourceDigest proofSetDigest : String)
  | externalResult (externalInput : ExternalInput) (reviewOperationId reviewDigest : String)
  deriving DecidableEq

structure ReuseInput where
  inputSlot : String
  producer : ReuseProducer
  kind : ArtifactKind
  contentDigest : String
  deriving DecidableEq

structure ReuseNode where
  nodeKey : String
  kind : NodeKind
  required : Bool
  agentId : String
  repository : RepositoryInput
  scope : ScopePolicy
  budget : BudgetPolicy
  verificationProfiles : List VerificationProfile
  inputs : List ArtifactSlot
  outputs : List ArtifactSlot
  deriving DecidableEq

structure ReuseIntegrationPolicy where
  integration : Integration
  requireHumanIntegrationApproval : Bool
  integrationTargets : List IntegrationTarget
  deriving DecidableEq

structure EvidenceReuseContract where
  reuseContractId : String
  adoptionId : String
  adoptionDigest : String
  planId : String
  planRevision : Nat
  nodeKey : String
  gate : Gate
  runtimeInputBindingDigest : String
  reuseInputs : List ReuseInput
  reuseInputEvidenceDigest : String
  nodeExecutionDigest : String
  node : ReuseNode
  task : TaskContract
  integrationPolicy : ReuseIntegrationPolicy
  nodeReuseContractDigest : String
  contractDigest : String
  createdAt : Time
  deriving DecidableEq

/-- What a row of `execution_source_evidence` was produced from. -/
inductive SourceOrigin where
  | taskResult (sourceRunId resultId : String) (resultVersion : Nat)
  | repositoryCommit (sourceRunId repositoryId commit tree checkpointId : String)
      (companionSourceEvidenceId companionSourceDigest : String)

structure SourceEvidence where
  sourceEvidenceId : String
  sourceDigest : String
  artifactPins : List ArtifactPin
  origin : SourceOrigin

/-- A row of one of the three tables of materializations, which are told apart by the gate. -/
structure NodeMaterialization where
  planId : String
  planRevision : Nat
  nodeKey : String
  gate : Gate
  dispatchGeneration : Nat
  sourceRunId : String
  sourceResultId : String
  sourceResultVersion : Nat
  gateOperationId : String
  materializationDigest : String
  candidateCommit : Option String
  candidateTree : Option String
  checkpointId : Option String
  repositoryId : Option String
  artifactPins : List ArtifactPin

/-- A row of `execution_evidence_adoptions`. -/
structure LocalAdoption where
  adoption : EvidenceAdoption
  legacyMaterializationDigest : String

/-- A row of `execution_carried_evidence_adoptions`. -/
structure CarriedAdoption where
  adoption : EvidenceAdoption
  sourceAdoptionId : String

/-- A row of `execution_carried_evidence_reuse_contracts`. -/
structure CarriedReuse where
  contract : EvidenceReuseContract
  sourceReuseContractId : String

/-- A row of `execution_remote_source_evidence`. -/
structure RemoteSource where
  sourceEvidenceId : String
  sourceDigest : String
  candidateCommit : Option String
  candidateTree : Option String
  artifactPins : List ArtifactPin

/-- A row of `remote_input_attestations`. -/
structure RemoteAttestation where
  planId : String
  planRevision : Nat
  nodeKey : String
  sourceEvidenceId : String
  remoteInputEvidenceDigest : String

/-- A row of the view `execution_all_adopted_node_materializations`. -/
structure AdoptedMaterialization where
  planId : String
  planRevision : Nat
  nodeKey : String
  gate : Gate
  dispatchGeneration : Option Nat
  sourceRunId : Option String
  sourceResultId : Option String
  sourceResultVersion : Option Nat
  gateOperationId : String
  materializationDigest : String
  candidateCommit : Option String
  candidateTree : Option String
  checkpointId : Option String
  artifactPins : List ArtifactPin
  adoptionId : String
  adoptionDigest : String
  sourceEvidenceId : String
  sourceDigest : String
  sourceTaskId : String
  definitionRevision : Nat
  criteriaRevision : Nat

/-- The adoption an input was taken from. -/
structure InputSourceAuthority where
  sourceEvidenceId : String
  sourceDigest : String
  adoptionId : String
  adoptionDigest : String
  deriving DecidableEq

structure InputArtifact where
  artifactId : String
  artifactRevision : Nat
  contentDigest : String
  byteLength : Nat
  kind : ArtifactKind
  deriving DecidableEq

/-- `ExecutionInputBinding`. -/
structure InputBinding where
  bindingId : String
  planId : String
  planRevision : Nat
  edgeKey : Option String
  gate : Gate
  gateOperationId : String
  gateDigest : String
  sourceTaskId : String
  sourceDefinitionRevision : Nat
  sourceCriteriaRevision : Nat
  sourceResultId : Option String
  sourceResultVersion : Option Nat
  sourceAuthority : Option InputSourceAuthority
  sourceOutputSlot : String
  artifact : InputArtifact
  repositoryId : Option String
  sourceCommit : Option String
  sourceTree : Option String
  destinationTaskId : String
  destinationRunId : String
  destinationAgentId : String
  destinationDeviceId : String
  inputSlot : String
  issuedAt : Time
  expiresAt : Time
  deriving DecidableEq

/-- `ExecutionInputSelection`: the Artifact for a slot, and the evidence it is taken from. -/
structure InputSelection where
  artifactId : String
  inputSlot : String
  sourceResultId : Option String
  sourceAuthority : Option InputSourceAuthority

/-- `FreezeExecutionInputs`. -/
structure FreezeInputs where
  planId : String
  revision : Nat
  expectedDigest : String
  expectedControlRevision : Nat
  nodeKey : String
  runId : String
  deviceId : String
  selections : List InputSelection
  expiresAt : Time

/-- An accepted Result as a source of an input. -/
structure AcceptedSource where
  taskId : String
  resultVersion : Nat
  definitionRevision : Nat
  criteriaRevision : Nat
  operationId : String
  reviewedByMemberId : String
  reviewedAt : Time

/-- A row of `execution_input_bindings`. -/
structure StoredInput where
  binding : InputBinding
  nodeKey : String
  contentId : Option String
  planDigest : String
  approvalOperationId : String
  controlRevision : Nat
  requestDigest : String
  bindingDigest : String

/-! ## Runs -/

/-- What a Context Manifest says of governed execution: the inputs it froze. -/
structure ContextManifest where
  executionInputs : Option (List InputBinding)

/-- A row of `runs`. -/
structure RunRow where
  runId : String
  roomId : String
  taskId : String
  triggerMessageId : String
  requesterMemberId : String
  targetAgentId : String
  retryOfRunId : Option String
  instruction : String
  state : RunState
  deadlineAt : Time
  createdAt : Time
  updatedAt : Time
  terminalAt : Option Time
  contextManifest : Option ContextManifest

/-! ## Results and Artifacts -/

inductive ResultState where
  | proposed | accepted | rejected | superseded
  deriving DecidableEq

/-- A row of `task_results`. -/
structure TaskResult where
  resultId : String
  taskId : String
  roomId : String
  resultVersion : Nat
  definitionRevision : Nat
  criteriaRevision : Nat
  state : ResultState

inductive ReviewDecision where
  | accepted | rejected
  deriving DecidableEq

/-- A row of `result_reviews`, of which a Result has one. -/
structure ResultReview where
  resultId : String
  operationId : String
  decision : ReviewDecision
  reviewedByMemberId : String
  reviewedAt : Time

/-- A row of `result_evidence_refs` of kind `artifact`. -/
structure ResultArtifact where
  resultId : String
  artifactId : String
  deriving DecidableEq

inductive ArtifactType where
  | commit | branch | file | patch | testResult | document
  deriving DecidableEq

def kindType : ArtifactKind → ArtifactType
  | .patch => .patch
  | .commit => .commit
  | .document => .document
  | .testResult => .testResult

inductive ContentMode where
  | referenceOnly | snapshotBlob
  deriving DecidableEq

/-- A row of `task_artifact_refs`. -/
structure TaskArtifact where
  artifactId : String
  artifactRevision : Nat
  taskId : String
  roomId : String
  type : ArtifactType
  contentMode : ContentMode
  contentId : Option String
  contentSizeBytes : Option Nat
  contentMediaType : Option String
  contentSha256 : Option String

/-- A row of `artifact_contents`. -/
structure StoredContent where
  contentId : String
  teamId : String
  sha256 : String
  sizeBytes : Nat

inductive ImportKind where
  | commitBundle | patch
  deriving DecidableEq

/-- A row of `remote_artifact_imports`. -/
structure RemoteImport where
  artifactId : String
  kind : ImportKind
  deriving DecidableEq

/-! ## Supersession -/

structure SupersessionCandidate where
  candidateId : String
  operationId : String
  planId : String
  baseRevision : Nat
  baseDigest : String
  baseControlRevision : Nat
  rootTaskRevision : Nat
  candidateRevision : Nat
  candidateDigest : String
  definition : PlanDefinition
  author : PlanAuthor
  reason : String
  requestDigest : String
  createdAt : Time

structure CarrySelection where
  targetNodeKey : String
  gate : Gate
  sourceAdoptionId : String
  sourceAdoptionDigest : String
  sourceReuseContractId : String
  sourceNodeReuseContractDigest : String
  sourceReuseInputEvidenceDigest : String

structure ActivationCommand where
  operationId : String
  expectedCurrentRevision : Nat
  expectedCurrentDigest : String
  expectedControlRevision : Nat
  expectedRootTaskRevision : Nat
  candidateId : String
  expectedCandidateRevision : Nat
  expectedCandidateDigest : String
  carryForward : List CarrySelection
  reason : String

structure CarryReceipt where
  targetNodeKey : String
  gate : Gate
  sourceAdoptionId : String
  sourceAdoptionDigest : String
  adoptionId : String
  adoptionDigest : String
  reuseContractId : String
  nodeReuseContractDigest : String
  reuseInputEvidenceDigest : String

structure ActivationReceipt where
  operationId : String
  plan : PlanProjection
  candidate : SupersessionCandidate
  activatedBy : SupersessionActor
  delegationId : Option String
  carryForward : List CarryReceipt
  requestDigest : String
  operationDigest : String
  activatedAt : Time

/-- A row of `execution_plan_supersession_activations`. -/
structure ActivationRow where
  operationId : String
  planId : String
  baseRevision : Nat
  baseDigest : String
  baseControlRevision : Nat
  candidateId : String
  candidateRevision : Nat
  candidateDigest : String
  rootTaskRevisionBefore : Nat
  activatedBy : SupersessionActor
  authorityMemberId : String
  delegationId : Option String
  reason : String
  requestDigest : String
  activatedAt : Time

structure ReplanDelegation where
  delegationId : String
  revision : Nat
  operationId : String
  planId : String
  planRevision : Nat
  planDigest : String
  planControlRevision : Nat
  rootTaskRevision : Nat
  agentId : String
  issuedByMemberId : String
  taskIds : List String
  expiresAt : Time
  reason : String
  issuedAt : Time
  delegationDigest : String

/-- A row of `execution_replan_delegation_revocations`. -/
structure DelegationRevocation where
  operationId : String
  delegationId : String

/-- A row of `execution_replan_delegation_consumptions`. -/
structure DelegationConsumption where
  delegationId : String
  activationOperationId : String
  consumedAt : Time

/-! ## Grants -/

structure ProfilePin where
  profileId : String
  revision : Nat
  digest : String
  deriving DecidableEq

inductive GrantOperation where
  | prepare | capture | verify
  deriving DecidableEq

/-- A grant a connected Bridge says is ready, `GovernedExecutionCapabilityReadyGrant`. -/
structure ReadyGrant where
  planId : String
  nodeKey : String
  agentId : String
  deviceId : String
  repositoryId : String
  bindingId : String
  grantId : String
  grantRevision : Nat
  grantDigest : String
  expiresAt : Time
  runtimeProfile : ProfilePin
  operations : List GrantOperation
  integrationTargets : List IntegrationTarget
  scopePolicy : ScopePolicy
  verificationProfiles : List ProfilePin
  issuedAt : Time
  revokedAt : Option Time

/-! ## Governed execution manifests -/

/-- Whose attempt at which node a manifest is, and the revisions it was admitted at. -/
structure ManifestScope where
  planId : String
  planRevision : Nat
  planDigest : String
  planControlRevision : Nat
  approvalOperationId : String
  nodeKey : String
  dispatchGeneration : Nat
  roomId : String
  taskId : String
  taskRevision : Nat
  definitionRevision : Nat
  criteriaRevision : Nat
  runId : String
  deviceId : String
  agentId : String
  deriving DecidableEq

structure ManifestGrant where
  grantId : String
  revision : Nat
  digest : String
  expiresAt : String
  deriving DecidableEq

/-- The isolated workspace lease of the attempt. -/
structure WorkspaceLease where
  leaseId : String
  workspaceRef : String
  workspaceGeneration : String
  mode : String
  issuedAt : String
  expiresAt : String
  deriving DecidableEq

structure CaptureOutput where
  slotKey : String
  path : Option String
  title : String
  summary : String
  deriving DecidableEq

structure ManifestCapture where
  operationId : String
  rootTaskId : String
  outputs : List CaptureOutput
  deriving DecidableEq

/-- `GovernedExecutionManifest`. -/
structure Manifest where
  scope : ManifestScope
  repository : RepositoryInput
  grant : ManifestGrant
  scopePolicy : ScopePolicy
  verificationProfiles : List VerificationProfile
  outputs : List ArtifactSlot
  inputs : List InputBinding
  inputDigest : String
  workspace : WorkspaceLease
  capture : Option ManifestCapture
  deadline : String
  manifestDigest : String
  deriving DecidableEq

end AgentRoom.Execution
