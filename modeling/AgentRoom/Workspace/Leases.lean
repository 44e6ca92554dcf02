import AgentRoom.Execution.Records
import AgentRoom.Lib.Checks
import AgentRoom.Bridge.Admission
import Mathlib.Data.List.MinMax

/-!
# Isolated workspace leases

The two tables of `isolated-workspace-lease-service.ts` and the calls that write them. A lease is
written once, when its Run is admitted; what happens to it afterwards is a list of operations,
each with the next revision. State and generation are read off the last one.

A call returns its answer with the tables it leaves, or throws and leaves them as they were: the
transaction around it is rolled back.
-/

namespace AgentRoom.Workspace

open Except (demand require)
open Execution (Manifest ManifestScope PlanState WorkspaceLease)
open Plan (PlanNode RepositoryInput)

/-! ## Records -/

inductive Kind where
  | advance | revoke | release
  deriving DecidableEq

/-- The `kind` of `closeForDevice`. -/
inductive Closing where
  | revoke | release
  deriving DecidableEq

def Closing.kind : Closing → Kind
  | .revoke => .revoke
  | .release => .release

inductive LeaseState where
  | active | expired | revoked | released
  deriving DecidableEq

structure IsolatedWorkspaceState where
  lease : WorkspaceLease
  revision : Nat
  generation : String
  state : LeaseState

structure DevicePrincipal where
  deviceId : String
  ownerMemberId : String
  teamId : String

/-- `WorkspaceOperationCommand`. A revision that is no integer is refused as one out of range. -/
structure WorkspaceOperationCommand where
  operationId : String
  leaseId : String
  expectedRevision : Int
  expectedGeneration : String

/-- The attempt a workspace is for. -/
structure Attempt where
  runId : String
  deviceId : String
  planId : String
  planRevision : Nat
  nodeKey : String
  dispatchGeneration : Nat

/-- What the replay of an operation is recognised by. -/
structure OperationRequest where
  command : WorkspaceOperationCommand
  kind : Kind
  generation : String
  deviceId : String
  ownerMemberId : String

/-- A row of `isolated_workspace_leases`. -/
structure LeaseRow where
  attempt : Attempt
  taskId : String
  teamId : String
  roomId : String
  agentId : String
  ownerMemberId : String
  manifestDigest : String
  leaseDigest : String
  lease : WorkspaceLease

def LeaseRow.leaseId (row : LeaseRow) : String := row.lease.leaseId

/-- A row of `isolated_workspace_operations`. -/
structure Operation where
  operationId : String
  leaseId : String
  revision : Nat
  kind : Kind
  expectedGeneration : String
  generation : String
  requestDigest : String
  recordedAt : String

/-- The two tables, in the order their rows were inserted. -/
structure LeaseDb where
  leases : List LeaseRow := []
  operations : List Operation := []

/-! ## Digests and times -/

inductive Digested where
  /-- With `purpose: "isolated_attempt_v1"`. -/
  | attempt (attempt : Attempt)
  /-- With `generation: 1`. -/
  | firstGeneration (identity : String) (repository : RepositoryInput)
  | lease (lease : WorkspaceLease)
  | request (request : OperationRequest)
  /-- The manifest without its own digest. -/
  | manifest (unsigned : Manifest)
  | inputs (inputs : List Execution.InputBinding)

/-- **The contracts package and the platform**: `executionOperationDigest`, whether
`assertExecutionCommand` accepts a manifest, and `Date.parse`, which answers `none` for `NaN`. -/
structure Platform where
  digest : Digested → String
  conforms : Manifest → Bool
  parse : String → Option Int

/-- `<` on numbers; `NaN` is below nothing and above nothing. -/
def before (a b : Option Int) : Bool :=
  match a, b with
  | some x, some y => x < y
  | _, _ => false

/-- `<=` on numbers. -/
def atMost (a b : Option Int) : Bool :=
  match a, b with
  | some x, some y => x ≤ y
  | _, _ => false

/-- `Number.MAX_SAFE_INTEGER`. -/
def maxSafeInteger : Nat := 9007199254740991

def attemptOf (scope : ManifestScope) : Attempt where
  runId := scope.runId
  deviceId := scope.deviceId
  planId := scope.planId
  planRevision := scope.planRevision
  nodeKey := scope.nodeKey
  dispatchGeneration := scope.dispatchGeneration

def planIsolatedWorkspace (P : Platform) (scope : ManifestScope) (repository : RepositoryInput)
    (issuedAt expiresAt : String) : WorkspaceLease :=
  let identity := P.digest (.attempt (attemptOf scope))
  { leaseId := "lease_" ++ identity
    workspaceRef := "workspace_" ++ identity
    workspaceGeneration := P.digest (.firstGeneration identity repository)
    mode := "isolated_worktree"
    issuedAt
    expiresAt }

/-! ## What the calls read elsewhere -/

/-- What `plans.get` answers. -/
structure PlanView where
  revision : Nat
  digest : String
  state : PlanState
  controlRevision : Nat
  rootTaskId : String
  ownerMemberId : String
  nodes : List PlanNode

/-- `GovernedExecutionCapability`; the members not read here are kept together. -/
structure Capability where
  operations : List String
  preventivePathEnforcement : Bool
  rest : String
  deriving DecidableEq

/-- The parameters of the scope query. -/
structure ScopeQuery where
  rootTaskId : String
  rootOwner : String
  scope : ManifestScope
  admission : Bool

/-- The row the scope query answers with. `executionManifest` is the `execution` of the Run's
Context Manifest, absent while the Run has none. -/
structure ScopeRow where
  ownerMemberId : String
  teamId : String
  deadlineAt : String
  taskRevision : Nat
  /-- `governedExecution` of the Agent's stored capabilities, if it is there and valid. -/
  agentCapability : Option Capability
  executionManifest : Option Manifest

structure DeviceRow where
  ownerMemberId : String
  teamId : String
  active : Bool

/-- A Run's Context Manifest. -/
structure RunContext where
  execution : Manifest
  runId : String
  taskId : String
  taskRevision : Nat
  definitionRevision : Nat
  criteriaRevision : Nat
  targetDeviceId : String
  targetAgentId : String

/-- **The rest of the server**, as one call finds it: other tables and the Bridge connections. -/
structure Surroundings where
  plan : String → Option PlanView
  /-- `governedExecutionCapability` of a Device that also supports governed execution. -/
  deviceCapability : String → Option Capability
  /-- The same of one Agent on a Device. -/
  agentCapability : String → String → Option Capability
  scopeRow : ScopeQuery → Option ScopeRow
  device : String → Option DeviceRow
  context : String → Option RunContext
  canceled : String → Bool
  /-- The foreign keys and the scope trigger of `isolated_workspace_leases`. -/
  admits : LeaseRow → Bool

section Calls

variable (P : Platform) (S : Surroundings)

/-! ## Checks -/

def validateManifest (manifest : Manifest) : Except Err Unit := do
  require (P.conforms manifest) "EXECUTION_SCHEMA_INVALID"
  require (P.digest (.manifest { manifest with manifestDigest := "" }) = manifest.manifestDigest ∧
    P.digest (.inputs manifest.inputs) = manifest.inputDigest) "WORKSPACE_MANIFEST_CONFLICT"

def requireTime (manifest : Manifest) (now : String) : Except Err Unit :=
  let at_ := P.parse now
  let start := P.parse manifest.workspace.issuedAt
  let stop := P.parse manifest.workspace.expiresAt
  require (at_.isSome ∧ ¬ before at_ start ∧ ¬ atMost stop at_ ∧
    ¬ before (P.parse manifest.deadline) stop ∧
    ¬ before (P.parse manifest.grant.expiresAt) stop) "WORKSPACE_LEASE_EXPIRED"

/-- The states of the plan a scope may be used in. -/
def planStates (admission : Bool) : List PlanState :=
  if admission then [.approved, .running] else [.approved, .running, .paused, .review]

def requireScope (manifest : Manifest) (admission : Bool) : Except Err ScopeRow := do
  let s := manifest.scope
  let plan ← demand (S.plan s.planId) "WORKSPACE_PLAN_CONFLICT"
  let node ← demand (plan.nodes.find? fun n => n.nodeKey = s.nodeKey) "WORKSPACE_PLAN_CONFLICT"
  require (plan.revision = s.planRevision ∧ plan.digest = s.planDigest ∧
    plan.state ∈ planStates admission ∧
    (admission → plan.controlRevision = s.planControlRevision) ∧
    node.repository = manifest.repository ∧ node.scope = manifest.scopePolicy ∧
    node.verificationProfiles = manifest.verificationProfiles ∧
    node.outputs = manifest.outputs ∧ manifest.grant.grantId = node.repository.grantId ∧
    manifest.grant.revision = node.repository.grantRevision) "WORKSPACE_PLAN_CONFLICT"
  let preventive := node.scope.requirePreventivePathEnforcement
  let device ← demand (S.deviceCapability s.deviceId) "WORKSPACE_CAPABILITY_UNAVAILABLE"
  require (preventive → device.preventivePathEnforcement) "WORKSPACE_CAPABILITY_UNAVAILABLE"
  let current ← demand (S.agentCapability s.deviceId s.agentId) "WORKSPACE_CAPABILITY_UNAVAILABLE"
  require (preventive → current.preventivePathEnforcement) "WORKSPACE_CAPABILITY_UNAVAILABLE"
  let owner ← demand (S.scopeRow ⟨plan.rootTaskId, plan.ownerMemberId, s, admission⟩)
    "WORKSPACE_SCOPE_UNAVAILABLE"
  require (¬ before (P.parse owner.deadlineAt) (P.parse manifest.deadline))
    "WORKSPACE_SCOPE_UNAVAILABLE"
  let stored ← demand owner.agentCapability "WORKSPACE_CAPABILITY_UNAVAILABLE"
  require (stored = current ∧ "prepare" ∈ stored.operations ∧ "capture" ∈ stored.operations ∧
    (preventive → stored.preventivePathEnforcement)) "WORKSPACE_CAPABILITY_UNAVAILABLE"
  match owner.executionManifest with
  | some pinned => require (pinned = manifest) "WORKSPACE_MANIFEST_CONFLICT"
  | none => require (admission ∧ owner.taskRevision = s.taskRevision) "WORKSPACE_MANIFEST_CONFLICT"
  return owner

def requireDevice (principal : DevicePrincipal) (row : LeaseRow) : Except Err Unit := do
  let device ← demand (S.device row.attempt.deviceId) "FORBIDDEN"
  require (device.active ∧ row.attempt.deviceId = principal.deviceId ∧
    row.ownerMemberId = principal.ownerMemberId ∧ row.teamId = principal.teamId ∧
    device.ownerMemberId = row.ownerMemberId ∧ device.teamId = row.teamId) "FORBIDDEN"

/-! ## Reading a lease -/

def LeaseDb.row (db : LeaseDb) (leaseId : String) : Except Err LeaseRow :=
  demand (db.leases.find? fun row => row.leaseId = leaseId) "WORKSPACE_LEASE_UNAVAILABLE"

def LeaseDb.rowForRun (db : LeaseDb) (runId : String) : Option LeaseRow :=
  db.leases.find? fun row => row.attempt.runId = runId

/-- The operations of a lease, oldest first. -/
def LeaseDb.operationsOf (db : LeaseDb) (leaseId : String) : List Operation :=
  db.operations.filter fun op => op.leaseId = leaseId

/-- `ORDER BY revision DESC LIMIT 1`. -/
def LeaseDb.latest (db : LeaseDb) (leaseId : String) : Option Operation :=
  (db.operationsOf leaseId).argmax Operation.revision

def projectOperation (lease : WorkspaceLease) (op : Operation) (now : String) :
    IsolatedWorkspaceState where
  lease
  revision := op.revision
  generation := op.generation
  state := match op.kind with
    | .revoke => .revoked
    | .release => .released
    | .advance => if atMost (P.parse lease.expiresAt) (P.parse now) then .expired else .active

def project (db : LeaseDb) (row : LeaseRow) (now : String) : Except Err IsolatedWorkspaceState := do
  require (P.digest (.lease row.lease) = row.leaseDigest) "WORKSPACE_LEASE_CORRUPT"
  match db.latest row.leaseId with
  | some op => return projectOperation P row.lease op now
  | none => return {
      lease := row.lease
      revision := 1
      generation := row.lease.workspaceGeneration
      state := if atMost (P.parse row.lease.expiresAt) (P.parse now) then .expired else .active }

/-! ## Writes -/

/-- What the database throws of a row it refuses. -/
def constraintFailed : Err := "SQLITE_CONSTRAINT"

/-- Whether two attempts share the plan, its revision, the node and the dispatch generation. -/
def Attempt.sameDispatch (a b : Attempt) : Prop :=
  a.planId = b.planId ∧ a.planRevision = b.planRevision ∧ a.nodeKey = b.nodeKey ∧
    a.dispatchGeneration = b.dispatchGeneration

instance (a b : Attempt) : Decidable (a.sameDispatch b) := by
  unfold Attempt.sameDispatch
  infer_instance

/-- `INSERT INTO isolated_workspace_leases`, with its keys and its trigger. -/
def LeaseDb.insertLease (db : LeaseDb) (row : LeaseRow) : Except Err LeaseDb := do
  require (S.admits row ∧ 0 < row.attempt.dispatchGeneration ∧
    ∀ old ∈ db.leases, old.leaseId ≠ row.leaseId ∧ old.attempt.runId ≠ row.attempt.runId ∧
      old.lease.workspaceRef ≠ row.lease.workspaceRef ∧
      ¬ old.attempt.sameDispatch row.attempt) constraintFailed
  return { db with leases := db.leases ++ [row] }

/-- What the trigger `isolated_workspace_operation_cas` asks of a new operation of a lease. -/
def LeaseDb.continues (db : LeaseDb) (row : LeaseRow) (op : Operation) : Prop :=
  op.revision = (match db.latest op.leaseId with | some last => last.revision | none => 1) + 1 ∧
    op.expectedGeneration = (match db.latest op.leaseId with
      | some last => last.generation
      | none => row.lease.workspaceGeneration) ∧
    (∀ old ∈ db.operationsOf op.leaseId, old.kind = .advance) ∧
    (op.kind = .advance → op.generation ≠ row.lease.workspaceGeneration)

instance (db : LeaseDb) (row : LeaseRow) (op : Operation) : Decidable (db.continues row op) := by
  unfold LeaseDb.continues
  infer_instance

/-- `INSERT INTO isolated_workspace_operations`, with its keys, its checks and its trigger. -/
def LeaseDb.insertOperation (db : LeaseDb) (op : Operation) : Except Err LeaseDb := do
  require ((∃ row ∈ db.leases, row.leaseId = op.leaseId ∧ db.continues row op) ∧
    op.revision ≤ maxSafeInteger ∧
    (op.kind = .advance ↔ op.generation ≠ op.expectedGeneration) ∧
    ∀ old ∈ db.operations, old.operationId ≠ op.operationId ∧
      (old.leaseId = op.leaseId → old.revision ≠ op.revision ∧
        (old.kind = .advance → op.kind = .advance → old.generation ≠ op.generation)))
    constraintFailed
  return { db with operations := db.operations ++ [op] }

/-! ## The calls -/

def newLeaseRow (manifest : Manifest) (owner : ScopeRow) : LeaseRow where
  attempt := attemptOf manifest.scope
  taskId := manifest.scope.taskId
  teamId := owner.teamId
  roomId := manifest.scope.roomId
  agentId := manifest.scope.agentId
  ownerMemberId := owner.ownerMemberId
  manifestDigest := manifest.manifestDigest
  leaseDigest := P.digest (.lease manifest.workspace)
  lease := manifest.workspace

def reserveForRun (db : LeaseDb) (inTransaction : Bool) (manifest : Manifest) (now : String) :
    Except Err (IsolatedWorkspaceState × LeaseDb) := do
  require inTransaction "WORKSPACE_TRANSACTION_REQUIRED"
  validateManifest P manifest
  let owner ← requireScope P S manifest true
  let expected := planIsolatedWorkspace P manifest.scope manifest.repository
    manifest.workspace.issuedAt manifest.workspace.expiresAt
  require (expected = manifest.workspace) "WORKSPACE_ATTEMPT_IDENTITY_CONFLICT"
  requireTime P manifest now
  match db.rowForRun manifest.scope.runId with
  | some existing =>
    require (existing.manifestDigest = manifest.manifestDigest) "WORKSPACE_RESERVATION_CONFLICT"
    let state ← project P db existing now
    require (state.state = .active) "WORKSPACE_LEASE_INACTIVE"
    return (state, db)
  | none =>
    require (¬ ∃ old ∈ db.leases, old.attempt.sameDispatch (attemptOf manifest.scope))
      "WORKSPACE_ATTEMPT_IDENTITY_CONFLICT"
    let db' ← db.insertLease S (newLeaseRow P manifest owner)
    let row ← db'.row manifest.workspace.leaseId
    let state ← project P db' row now
    return (state, db')

def requireActiveForDevice (db : LeaseDb) (principal : DevicePrincipal) (leaseId now : String) :
    Except Err IsolatedWorkspaceState := do
  let row ← db.row leaseId
  requireDevice S principal row
  let context ← demand (S.context row.attempt.runId) "WORKSPACE_MANIFEST_REQUIRED"
  let manifest := context.execution
  validateManifest P manifest
  require (manifest.manifestDigest = row.manifestDigest ∧ manifest.workspace = row.lease ∧
    context.runId = manifest.scope.runId ∧ context.taskId = manifest.scope.taskId ∧
    context.taskRevision = manifest.scope.taskRevision ∧
    context.definitionRevision = manifest.scope.definitionRevision ∧
    context.criteriaRevision = manifest.scope.criteriaRevision ∧
    context.targetDeviceId = principal.deviceId ∧
    context.targetAgentId = manifest.scope.agentId) "WORKSPACE_MANIFEST_CONFLICT"
  let _ ← requireScope P S manifest false
  requireTime P manifest now
  let state ← project P db row now
  require (state.state = .active) "WORKSPACE_LEASE_INACTIVE"
  return state

def append (db : LeaseDb) (principal : DevicePrincipal) (command : WorkspaceOperationCommand)
    (kind : Kind) (generation : String) (current : IsolatedWorkspaceState) (now : String) :
    Except Err (IsolatedWorkspaceState × LeaseDb) := do
  require (Bridge.isOperationID command.operationId ∧ Bridge.isHex 64 generation ∧
    1 ≤ command.expectedRevision ∧ command.expectedRevision ≤ maxSafeInteger ∧
    (P.parse now).isSome ∧ ¬ before (P.parse now) (P.parse current.lease.issuedAt))
    "WORKSPACE_OPERATION_INVALID"
  let digest := P.digest (.request ⟨command, kind, generation, principal.deviceId,
    principal.ownerMemberId⟩)
  match db.operations.find? fun op => op.operationId = command.operationId with
  | some previous =>
    require (previous.requestDigest = digest ∧ previous.leaseId = command.leaseId)
      "WORKSPACE_OPERATION_CONFLICT"
    return (projectOperation P current.lease previous now, db)
  | none =>
    require ((kind = .advance → current.state = .active) ∧ current.state ≠ .released ∧
      current.state ≠ .revoked ∧ current.revision < maxSafeInteger ∧
      (current.revision : Int) = command.expectedRevision ∧
      current.generation = command.expectedGeneration ∧
      (kind = .advance → generation ≠ current.generation ∧
        generation ≠ current.lease.workspaceGeneration)) "WORKSPACE_GENERATION_CONFLICT"
    require (kind = .advance → ¬ ∃ op ∈ db.operations, op.leaseId = command.leaseId ∧
      op.kind = .advance ∧ op.generation = generation) "WORKSPACE_GENERATION_CONFLICT"
    let db' ← db.insertOperation {
      operationId := command.operationId
      leaseId := command.leaseId
      revision := current.revision + 1
      kind
      expectedGeneration := command.expectedGeneration
      generation
      requestDigest := digest
      recordedAt := now }
    let row ← db'.row command.leaseId
    let state ← project P db' row now
    return (state, db')

/-- `advanceForDevice`. The command's own `generation` is the one the operation brings. -/
def advanceForDevice (db : LeaseDb) (principal : DevicePrincipal)
    (command : WorkspaceOperationCommand) (generation now : String) :
    Except Err (IsolatedWorkspaceState × LeaseDb) := do
  let current ← requireActiveForDevice P S db principal command.leaseId now
  append P db principal command .advance generation current now

def closeForDevice (db : LeaseDb) (principal : DevicePrincipal)
    (command : WorkspaceOperationCommand) (closing : Closing) (now : String) :
    Except Err (IsolatedWorkspaceState × LeaseDb) := do
  let row ← db.row command.leaseId
  requireDevice S principal row
  let current ← project P db row now
  append P db principal command closing.kind command.expectedGeneration current now

/-! ## Reading authority -/

structure RuntimeAuthorityRequest where
  runId : String
  leaseId : String
  manifestDigest : String
  workspaceRef : String
  workspaceGeneration : String

/-- `requireRuntimeAuthority`: the state the view it answers with is made of. -/
def requireRuntimeAuthority (db : LeaseDb) (principal : DevicePrincipal)
    (request : RuntimeAuthorityRequest) (now : String) : Except Err IsolatedWorkspaceState := do
  let row ← db.row request.leaseId
  requireDevice S principal row
  require (row.attempt.runId = request.runId ∧ row.manifestDigest = request.manifestDigest)
    "RUNTIME_AUTHORITY_CONFLICT"
  let current ← requireActiveForDevice P S db principal request.leaseId now
  require (¬ S.canceled request.runId) "RUNTIME_AUTHORITY_CANCELED"
  require (current.state = .active ∧ current.generation = request.workspaceGeneration ∧
    current.lease.workspaceRef = request.workspaceRef ∧
    current.lease.workspaceGeneration = request.workspaceGeneration) "RUNTIME_AUTHORITY_STALE"
  return current

end Calls

end AgentRoom.Workspace
