import AgentRoom.Consent.GrantCheck
import AgentRoom.Execution.Inputs

/-!
# Governed dispatch

The server's side of a grant: the Agents' capabilities as Bridges published them, the admission of
a governed Run, which freezes its manifest, and the check of the manifest before it is sent.

The Run's own row is left to the tables it is inserted into, whose triggers may refuse it; what
else the transaction writes is not read here.
-/

namespace AgentRoom.Consent

open Except (demand require)
open Execution (AgentTask CaptureOutput Contracts ExecutionDb Manifest ManifestScope MemberRole
  NodeIdentity Resolution RunRow)
open Plan (ArtifactSlot PlanNode RepositoryInput ScopePolicy VerificationProfile)
open Workspace (Platform)

/-! ## Connections -/

/-- `GovernedExecutionCapability`. -/
structure GovernedCapability where
  workspaceBoundary : String
  operations : List Operation
  preventivePathEnforcement : Bool
  readyGrants : Option (List ExecutionGrantSummary)
  deriving DecidableEq

/-- A Bridge's connection: the capability of its Device, and those of its Agents. -/
structure Connection where
  governedExecution : Option GovernedCapability
  governedExecutionAgents : String → Option GovernedCapability

/-- The connections of `BridgeConnectionRegistry`, by Device. -/
abbrev Connections := String → Option Connection

def GovernedCapability.executes (c : GovernedCapability) : Bool :=
  .prepare ∈ c.operations && .capture ∈ c.operations

namespace Connections

variable (C : Connections)

def supportsGovernedExecution (deviceId : String) : Bool :=
  ((C deviceId).bind (·.governedExecution)).any (·.executes)

def governedAgentExecutionCapability (deviceId agentId : String) : Option GovernedCapability :=
  (C deviceId).bind (·.governedExecutionAgents agentId)

def governedAgentReadyGrants (deviceId agentId : String) : List ExecutionGrantSummary :=
  ((C.governedAgentExecutionCapability deviceId agentId).bind (·.readyGrants)).getD []

def supportsGovernedAgentExecution (deviceId agentId : String) : Bool :=
  C.supportsGovernedExecution deviceId &&
    (C.governedAgentExecutionCapability deviceId agentId).any (·.executes)

end Connections

/-! ## Dates -/

/-- The dates of the server, in milliseconds. -/
structure Dates where
  toISOString : Int → String
  /-- `Date.parse` of an instant as a Bridge writes it. -/
  millisecond : Time → Int

/-- **Two clocks, one calendar.** `Date.parse` cuts a time to its millisecond, and what
`toISOString` writes is the first instant of one, for a millisecond that a written time has. -/
structure Dates.Agree (D : Dates) (P : Platform) (B : Bridge) : Prop where
  parse : ∀ text t, B.utcTimestamp text = true → B.parseTime text = some t →
    P.parse text = some (D.millisecond t)
  written : ∀ ms text u, 0 ≤ ms → B.parseTime text = some u → ms ≤ D.millisecond u →
    ∃ t, B.parseTime (D.toISOString ms) = some t ∧ ∀ v, ms ≤ D.millisecond v → t ≤ v

/-! ## Matching a grant -/

/-- What a node's verification profiles ask of its grant. -/
def expectedOperations (profiles : List VerificationProfile) : List Operation :=
  if profiles.any (·.required) then [.prepare, .capture, .verify] else [.prepare, .capture]

/-- What `matchingGrants` and `exactGrantMatchesManifest` both compare. -/
def fitsNode (grant : ExecutionGrantSummary) (planId nodeKey : String)
    (repository : RepositoryInput) (scopePolicy : ScopePolicy)
    (profiles : List VerificationProfile) : Bool :=
  grant.planId = planId && grant.nodeKey = nodeKey &&
    grant.repositoryId = repository.repositoryId && grant.bindingId = repository.bindingId &&
    grant.runtimeProfile.profileId = repository.runtimeProfileId &&
    grant.runtimeProfile.revision = 1 &&
    grant.runtimeProfile.digest = repository.runtimeProfileDigest &&
    grant.revokedAt.isNone &&
    grant.operations.length = (expectedOperations profiles).length &&
    (expectedOperations profiles).all (fun operation => operation ∈ grant.operations) &&
    grant.integrationTargets = [] && grant.scopePolicy = scopePolicy &&
    grant.verificationProfiles = profiles.map profilePin

section Server

variable (P : Platform) (D : Dates)

def exactGrantMatchesManifest (grant : ExecutionGrantSummary) (manifest : Manifest)
    (nowMs : Int) : Bool :=
  grant.deviceId = manifest.scope.deviceId && grant.agentId = manifest.scope.agentId &&
    grant.grant = manifest.grant &&
    fitsNode grant manifest.scope.planId manifest.scope.nodeKey manifest.repository
      manifest.scopePolicy manifest.verificationProfiles &&
    match P.parse grant.grant.expiresAt, P.parse manifest.deadline with
    | some expiresAt, some deadline =>
      D.millisecond grant.issuedAt ≤ nowMs && nowMs < expiresAt && deadline ≤ expiresAt
    | _, _ => false

def hasExactCurrentGrant (C : Connections) (deviceId agentId : String) (manifest : Manifest)
    (nowMs : Int) : Bool :=
  P.conforms manifest &&
    P.digest (.manifest { manifest with manifestDigest := "" }) = manifest.manifestDigest &&
    manifest.scope.deviceId = deviceId && manifest.scope.agentId = agentId &&
    ((C.governedAgentReadyGrants deviceId agentId).filter fun grant =>
      exactGrantMatchesManifest P D grant manifest nowMs).length = 1

/-- **`send`**, of a `run.requested` with a governed manifest: whether it is put on the socket. -/
def send (C : Connections) (deviceId agentId : String) (manifest : Manifest) (nowMs : Int) :
    Bool :=
  C.supportsGovernedAgentExecution deviceId agentId &&
    hasExactCurrentGrant P D C deviceId agentId manifest nowMs

def matchingGrants (C : Connections) (planId : String) (node : PlanNode) (deviceId : String)
    (nowMs : Int) : List ExecutionGrantSummary :=
  (C.governedAgentReadyGrants deviceId node.agentId).filter fun grant =>
    fitsNode grant planId node.nodeKey node.repository node.scope node.verificationProfiles &&
      grant.grant.grantId = node.repository.grantId &&
      grant.grant.revision = node.repository.grantRevision &&
      D.millisecond grant.issuedAt ≤ nowMs &&
      (P.parse grant.grant.expiresAt).any (nowMs < ·)

def exactGrant (C : Connections) (planId : String) (node : PlanNode) (deviceId : String)
    (nowMs : Int) : Except Err ExecutionGrantSummary :=
  match matchingGrants P D C planId node deviceId nowMs with
  | [] => .error "EXECUTION_DISPATCH_GRANT_UNAVAILABLE"
  | [grant] => .ok grant
  | _ => .error "EXECUTION_DISPATCH_GRANT_AMBIGUOUS"

/-! ## Admission -/

inductive AdmissionSource where
  | memberMessage | scheduler
  deriving DecidableEq

/-- A retry of a node: the Run it repeats, and what was authorized. -/
structure RetryAuthorization where
  previousRunId : String
  authorizedRunId : String
  previousGeneration : Nat
  newGeneration : Nat
  newRunId : String

/-- What `admitRun` is given. `mentions` are the target Agents of the message. -/
structure AdmissionInput where
  memberId : String
  role : MemberRole
  messageId : String
  content : String
  mentions : List String
  roomId : String
  now : Time
  task : AgentTask
  governance : NodeIdentity
  source : AdmissionSource
  retry : Option RetryAuthorization

/-- What the rest of the server and the transaction answer. -/
structure AdmissionHost where
  /-- `canonicalExecutionJSON` of a capability. -/
  capabilityText : GovernedCapability → String
  /-- The dispatch generation after the last one of the node. -/
  nextDispatchGeneration : Nat
  /-- The id of a new Run. -/
  runId : String
  /-- The digest a capture operation is named after. -/
  captureDigest : ManifestScope → String
  /-- The Run of the trigger or of the node, when it was admitted before. -/
  admitted : Bool
  /-- Whether the tables take the Run, its seal and its workspace. -/
  seals : Manifest → Bool

def defaultRunDurationMilliseconds : Nat := 20 * 60 * 1000

def Resolution.selections : Resolution → Except Err (List Execution.InputSelection)
  | .ready selections => .ok selections
  | .blocked blocker => .error blocker

def capturable (output : ArtifactSlot) : Bool := output.kind = .patch || output.kind = .commit

def kindText : Plan.ArtifactKind → String
  | .patch => "patch"
  | .commit => "commit"
  | .document => "document"
  | .testResult => "test_result"

def captureOutput (nodeKey : String) (output : ArtifactSlot) : CaptureOutput where
  slotKey := output.slotKey
  path := none
  title := nodeKey ++ " " ++ kindText output.kind
  summary := "Captured governed " ++ kindText output.kind ++ " output for " ++ nodeKey ++ "."

/-- The dispatch generation of the Run: the next one of the node, which a retry must authorize. -/
def dispatchGeneration (host : AdmissionHost) (input : AdmissionInput) : Except Err Nat :=
  match input.retry with
  | none => do
      require (input.source = .scheduler → host.nextDispatchGeneration = 1)
        "EXECUTION_AUTOMATIC_RETRY_FORBIDDEN"
      pure host.nextDispatchGeneration
  | some retry => do
      require (retry.newRunId ≠ retry.previousRunId ∧
        retry.authorizedRunId = retry.previousRunId ∧
        retry.previousGeneration + 1 = retry.newGeneration ∧
        host.nextDispatchGeneration = retry.newGeneration)
        "EXECUTION_NODE_RETRY_GENERATION_CONFLICT"
      require (input.source = .scheduler → retry.newGeneration = 1)
        "EXECUTION_AUTOMATIC_RETRY_FORBIDDEN"
      pure retry.newGeneration

def governedRun (host : AdmissionHost) (input : AdmissionInput) (agentId : String)
    (deadlineAt : Time) : RunRow where
  runId := (input.retry.map (·.newRunId)).getD host.runId
  roomId := input.roomId
  taskId := input.task.taskId
  triggerMessageId := input.messageId
  requesterMemberId := input.memberId
  targetAgentId := agentId
  retryOfRunId := input.retry.map (·.previousRunId)
  instruction :=
    if input.source = .scheduler ∨ input.retry.isSome then input.task.goal else input.content
  state := .queued
  deadlineAt
  createdAt := input.now
  updatedAt := input.now
  terminalAt := none
  contextManifest := none

/-- What an admission froze before its manifest is made. -/
structure Frozen where
  plan : Execution.PlanProjection
  approvalOperationId : String
  node : PlanNode
  deviceId : String
  grant : ExecutionGrantSummary
  generation : Nat
  deadlineAt : Time
  selections : List Execution.InputSelection

def Frozen.scope (f : Frozen) (input : AdmissionInput) (runId : String) : ManifestScope where
  planId := f.plan.planId
  planRevision := f.plan.current.revision
  planDigest := f.plan.current.digest
  planControlRevision := f.plan.controlRevision
  approvalOperationId := f.approvalOperationId
  nodeKey := f.node.nodeKey
  dispatchGeneration := f.generation
  roomId := input.task.roomId
  taskId := input.task.taskId
  taskRevision := input.task.taskRevision
  definitionRevision := input.task.definitionRevision
  criteriaRevision := input.task.criteriaRevision
  runId
  deviceId := f.deviceId
  agentId := f.node.agentId

/-- The manifest, without its digest. -/
def Frozen.unsigned (f : Frozen) (host : AdmissionHost) (input : AdmissionInput)
    (inputs : List Execution.InputBinding) : Manifest :=
  let scope := f.scope input ((input.retry.map (·.newRunId)).getD host.runId)
  { scope
    repository := f.node.repository
    grant := f.grant.grant
    scopePolicy := f.node.scope
    verificationProfiles := f.node.verificationProfiles
    outputs := f.node.outputs
    inputs
    inputDigest := P.digest (.inputs inputs)
    workspace := Workspace.planIsolatedWorkspace P scope f.node.repository
      (D.toISOString input.now) (D.toISOString f.deadlineAt)
    capture := some
      { operationId := "op_" ++ host.captureDigest scope
        rootTaskId := f.plan.rootTaskId
        outputs := (f.node.outputs.filter capturable).map (captureOutput f.node.nodeKey) }
    deadline := D.toISOString f.deadlineAt
    manifestDigest := "" }

def Frozen.manifest (f : Frozen) (host : AdmissionHost) (input : AdmissionInput)
    (inputs : List Execution.InputBinding) : Manifest :=
  { f.unsigned P D host input inputs with
    manifestDigest := P.digest (.manifest (f.unsigned P D host input inputs)) }

variable (K : Contracts) (host : AdmissionHost) (C : Connections) (db : ExecutionDb)

/-- The first half of `admitRun`: the plan, the node, the grant and the deadline. -/
def freeze (input : AdmissionInput) : Except Err Frozen := do
  require (input.source = .memberMessage → input.role = .owner ∨
    input.memberId = input.task.ownerMemberId) "EXECUTION_DISPATCH_OWNER_REQUIRED"
  require (input.source = .memberMessage → input.mentions.length = 1)
    "EXECUTION_DISPATCH_TARGET_INVALID"
  let found ← Execution.getPlan db input.governance.planId
  let plan ← demand found "EXECUTION_DISPATCH_PLAN_STALE"
  let approval ← demand (Execution.getApproval db plan.planId input.governance.planRevision)
    "EXECUTION_DISPATCH_PLAN_STALE"
  require (plan.state.schedulable = true ∧ plan.current.revision = input.governance.planRevision ∧
    plan.current.digest = approval.digest ∧ 1 ≤ plan.controlRevision ∧
    approval.decision = .approved) "EXECUTION_DISPATCH_PLAN_STALE"
  let validated ← K.validateExecutionPlanDefinition plan.current.definition
  require (validated.digest = plan.current.digest) "EXECUTION_DISPATCH_PLAN_STALE"
  let node ← demand (Execution.nodeOf validated.definition input.governance.nodeKey)
    "EXECUTION_DISPATCH_SCOPE_INVALID"
  let compiled ← demand (plan.compiledTasks.find? fun t => t.nodeKey = input.governance.nodeKey)
    "EXECUTION_DISPATCH_SCOPE_INVALID"
  require (compiled.taskId = input.task.taskId ∧
    compiled.definitionRevision = input.task.definitionRevision ∧
    compiled.criteriaRevision = input.task.criteriaRevision ∧
    (input.source = .memberMessage → input.mentions.head? = some node.agentId) ∧
    (∃ a ∈ input.task.assignments, a.agentId = node.agentId) ∧ node.kind = .implementation)
    "EXECUTION_DISPATCH_SCOPE_INVALID"
  let dependency ← Execution.resolve K db ⟨plan.planId, plan.current.revision, node.nodeKey⟩
  let selections ← Resolution.selections dependency
  let agent ← demand (Execution.getAgent db node.agentId)
    "EXECUTION_DISPATCH_CAPABILITY_UNAVAILABLE"
  require (agent.enabled = true ∧ agent.integrationMode = .managed)
    "EXECUTION_DISPATCH_CAPABILITY_UNAVAILABLE"
  let deviceId ← demand agent.deviceId "EXECUTION_DISPATCH_CAPABILITY_UNAVAILABLE"
  require (agent.teamId = input.task.teamId ∧
    C.supportsGovernedAgentExecution deviceId node.agentId = true)
    "EXECUTION_DISPATCH_CAPABILITY_UNAVAILABLE"
  require (agent.governedExecution.isSome = true ∧
    (C.governedAgentExecutionCapability deviceId node.agentId).map host.capabilityText =
      agent.governedExecution) "EXECUTION_DISPATCH_CAPABILITY_UNAVAILABLE"
  let grant ← exactGrant P D C plan.planId node deviceId input.now
  let grantExpiry ← demand (P.parse grant.grant.expiresAt) "EXECUTION_DISPATCH_TIME_INVALID"
  let deadline := min ((input.now : Int) + defaultRunDurationMilliseconds) grantExpiry
  require ((input.now : Int) < deadline) "EXECUTION_DISPATCH_GRANT_UNAVAILABLE"
  require ((node.outputs.all fun output => !output.required || capturable output) = true ∧
    node.outputs.any capturable = true) "EXECUTION_CAPTURE_OUTPUT_UNSUPPORTED"
  let generation ← dispatchGeneration host input
  pure
    { plan
      approvalOperationId := approval.operationId
      node
      deviceId
      grant
      generation
      deadlineAt := deadline.toNat
      selections }

/-- **`admitRun`**: the manifest of the Run that is admitted, if it was not admitted before. -/
def admitRun (input : AdmissionInput) : Except Err (Option Manifest) := do
  if host.admitted then pure none
  else
    let f ← freeze P D K host C db input
    let run := governedRun host input f.node.agentId f.deadlineAt
    let inputs ← (Execution.freezeForRun K
      { planId := f.plan.planId
        revision := f.plan.current.revision
        expectedDigest := f.plan.current.digest
        expectedControlRevision := f.plan.controlRevision
        nodeKey := f.node.nodeKey
        runId := run.runId
        deviceId := f.deviceId
        selections := f.selections
        expiresAt := f.deadlineAt } input.now { db with runs := db.runs ++ [run] }).1
    let manifest := f.manifest P D host input inputs
    require (P.conforms manifest = true) "EXECUTION_SCHEMA_INVALID"
    require (host.seals manifest = true) "EXECUTION_DISPATCH_MANIFEST_CONFLICT"
    pure (some manifest)

end Server

end AgentRoom.Consent
