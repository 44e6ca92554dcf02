import AgentRoom.Bridge.Inbox

/-!
# Governed admissions

The durable inventory of governed Runtimes: a Run is claimed, may then have been
started, and is stopped at last. A restart sees each Run as a view. What joins a
view to the request in the inbox is the Run's frozen manifest, all but the fields
that local preparation made.

The manifest's wire form and Go's times are left to the environment.
-/

namespace AgentRoom.Bridge

structure RuntimeAdmissionSpec where
  runId : String
  taskId : String
  agentId : String
  deviceId : String
  planId : String
  planRevision : Int
  planDigest : String
  approvalOperationId : String
  planControlRevision : Int
  nodeKey : String
  dispatchGeneration : Int
  roomId : String
  taskRevision : Int
  definitionRevision : Int
  criteriaRevision : Int
  manifestDigest : String
  grantId : String
  grantRevision : Int
  grantDigest : String
  repositoryId : String
  bindingId : String
  leaseId : String
  workspaceRef : String
  workspaceGeneration : String
  runtimeProfileId : String
  runtimeProfileRevision : Int
  runtimeProfileDigest : String
  preparedOperationId : String
  preparedIntentDigest : String
  preparedIdentityDigest : String
  baseCommit : String
  preparedCommit : String
  preparedTree : String
  outputBaseCommit : String
  workspaceIssuedAt : String
  workspaceExpiresAt : String
  grantExpiresAt : String
  deadline : String
  deriving DecidableEq

/-- `State` of a view. -/
inductive AdmissionState where
  | claimed | starting | stopped
  | other (name : String)
  deriving DecidableEq

inductive RuntimeOutcome where
  | completed | failed | canceled | inputRequired | unknown
  | other (name : String)
  deriving DecidableEq

/-- `validRuntimeOutcome`, and `validGovernedRecoveryOutcome`. -/
def validRuntimeOutcome : RuntimeOutcome → Bool
  | .completed | .failed | .canceled | .inputRequired | .unknown => true
  | .other _ => false

structure RuntimeAdmissionView where
  spec : RuntimeAdmissionSpec
  admissionDigest : String
  state : AdmissionState
  claimedAt : String
  startDigest : Option String
  authorityCheckedAt : Option String
  outcome : Option RuntimeOutcome
  stoppedAt : Option String
  deriving DecidableEq

/-- `GovernedProcessIdentity`: the process tree of one start. -/
structure GovernedProcessIdentity where
  runId : String
  admissionDigest : String
  startDigest : String
  deriving DecidableEq

/-- The process a possible start belongs to. -/
def RuntimeAdmissionView.identity (view : RuntimeAdmissionView) (startDigest : String) :
    GovernedProcessIdentity where
  runId := view.spec.runId
  admissionDigest := view.admissionDigest
  startDigest := startDigest

/-! ## The manifest of a request -/

structure ManifestScope where
  runId : String
  taskId : String
  agentId : String
  deviceId : String
  planId : String
  planRevision : Int
  planDigest : String
  approvalOperationId : String
  planControlRevision : Int
  nodeKey : String
  dispatchGeneration : Int
  roomId : String
  taskRevision : Int
  definitionRevision : Int
  criteriaRevision : Int

structure ManifestGrant where
  grantId : String
  revision : Int
  digest : String
  expiresAt : String

structure ManifestRepository where
  repositoryId : String
  bindingId : String
  runtimeProfileId : String
  runtimeProfileDigest : String
  baseCommit : String

structure ManifestWorkspace where
  leaseId : String
  workspaceRef : String
  workspaceGeneration : String
  issuedAt : String
  expiresAt : String

/-- `GovernedExecutionManifest`: what a view is compared with. -/
structure GovernedExecutionManifest where
  scope : ManifestScope
  grant : ManifestGrant
  repository : ManifestRepository
  workspace : ManifestWorkspace
  manifestDigest : String
  deadline : String

/-- What the governed path takes from its surroundings: `DecodeGovernedManifest`, `time.Parse` of
an RFC 3339 time, and `profileTime`. An instant counts nanoseconds from Go's zero time. -/
structure Governance where
  decodeGovernedManifest : RunRequest → Option GovernedExecutionManifest
  parseTime : String → Option Int
  profileTime : Int → String

/-! ## Validation -/

/-- `^[a-f0-9]{n}$`. -/
def isHex (n : Nat) (value : String) : Bool :=
  value.toList.length = n && value.toList.all fun c => c.isDigit || ('a' ≤ c && c ≤ 'f')

def isSha256Digest (value : String) : Bool := isHex 64 value
def isObjectID (value : String) : Bool := isHex 40 value || isHex 64 value
def isProfileID (value : String) : Bool := matchesIdentifier "profile_" value
def isOperationID (value : String) : Bool := matchesIdentifier "op_" value

/-- The identifiers, digests and commits of a specification. -/
def validSpecIdentities (spec : RuntimeAdmissionSpec) : Bool :=
  isContractRunID spec.runId && isContractAgentID spec.agentId &&
    isProfileID spec.runtimeProfileId &&
    isOperationID spec.approvalOperationId && isOperationID spec.preparedOperationId &&
    isSha256Digest spec.planDigest && isSha256Digest spec.manifestDigest &&
    isSha256Digest spec.grantDigest && isSha256Digest spec.runtimeProfileDigest &&
    isSha256Digest spec.preparedIntentDigest && isSha256Digest spec.preparedIdentityDigest &&
    isObjectID spec.baseCommit && isObjectID spec.preparedCommit && isObjectID spec.preparedTree &&
    (spec.outputBaseCommit = "" || isObjectID spec.outputBaseCommit) &&
    spec.baseCommit.utf8ByteSize = spec.preparedCommit.utf8ByteSize &&
    spec.preparedCommit.utf8ByteSize = spec.preparedTree.utf8ByteSize &&
    (spec.outputBaseCommit = "" ||
      spec.outputBaseCommit.utf8ByteSize = spec.baseCommit.utf8ByteSize)

/-- The free-form names: present, and at most 256 bytes. -/
def validSpecNames (spec : RuntimeAdmissionSpec) : Bool :=
  [spec.taskId, spec.deviceId, spec.planId, spec.nodeKey, spec.roomId, spec.grantId,
    spec.repositoryId, spec.bindingId, spec.leaseId, spec.workspaceRef,
    spec.workspaceGeneration].all fun value => value ≠ "" && value.utf8ByteSize ≤ 256

def validSpecRevisions (spec : RuntimeAdmissionSpec) : Bool :=
  1 ≤ spec.planRevision && 1 ≤ spec.planControlRevision && 1 ≤ spec.dispatchGeneration &&
    1 ≤ spec.taskRevision && 1 ≤ spec.definitionRevision && 1 ≤ spec.criteriaRevision &&
    spec.grantRevision = 1 && spec.runtimeProfileRevision = 1

variable (governance : Governance)

/-- The times: issued before all three ends, the deadline after neither of the other two. -/
def validSpecTimes (spec : RuntimeAdmissionSpec) : Bool :=
  match governance.parseTime spec.workspaceIssuedAt, governance.parseTime spec.workspaceExpiresAt,
      governance.parseTime spec.grantExpiresAt, governance.parseTime spec.deadline with
  | some issued, some workspaceExpiry, some grantExpiry, some deadline =>
    issued < workspaceExpiry && issued < grantExpiry && issued < deadline &&
      deadline ≤ workspaceExpiry && deadline ≤ grantExpiry
  | _, _, _, _ => false

def validRuntimeAdmissionSpec (spec : RuntimeAdmissionSpec) : Bool :=
  validSpecIdentities spec && validSpecNames spec && validSpecRevisions spec &&
    validSpecTimes governance spec

/-- The specification a manifest asks for; what only local preparation knows is taken from
`got`. -/
def wantedSpec (manifest : GovernedExecutionManifest) (got : RuntimeAdmissionSpec) :
    RuntimeAdmissionSpec where
  runId := manifest.scope.runId
  taskId := manifest.scope.taskId
  agentId := manifest.scope.agentId
  deviceId := manifest.scope.deviceId
  planId := manifest.scope.planId
  planRevision := manifest.scope.planRevision
  planDigest := manifest.scope.planDigest
  approvalOperationId := manifest.scope.approvalOperationId
  planControlRevision := manifest.scope.planControlRevision
  nodeKey := manifest.scope.nodeKey
  dispatchGeneration := manifest.scope.dispatchGeneration
  roomId := manifest.scope.roomId
  taskRevision := manifest.scope.taskRevision
  definitionRevision := manifest.scope.definitionRevision
  criteriaRevision := manifest.scope.criteriaRevision
  manifestDigest := manifest.manifestDigest
  grantId := manifest.grant.grantId
  grantRevision := manifest.grant.revision
  grantDigest := manifest.grant.digest
  repositoryId := manifest.repository.repositoryId
  bindingId := manifest.repository.bindingId
  leaseId := manifest.workspace.leaseId
  workspaceRef := manifest.workspace.workspaceRef
  workspaceGeneration := manifest.workspace.workspaceGeneration
  runtimeProfileId := manifest.repository.runtimeProfileId
  runtimeProfileDigest := manifest.repository.runtimeProfileDigest
  baseCommit := manifest.repository.baseCommit
  workspaceIssuedAt := manifest.workspace.issuedAt
  workspaceExpiresAt := manifest.workspace.expiresAt
  grantExpiresAt := manifest.grant.expiresAt
  deadline := manifest.deadline
  runtimeProfileRevision := got.runtimeProfileRevision
  preparedOperationId := got.preparedOperationId
  preparedIntentDigest := got.preparedIntentDigest
  preparedIdentityDigest := got.preparedIdentityDigest
  preparedCommit := got.preparedCommit
  preparedTree := got.preparedTree
  outputBaseCommit := got.outputBaseCommit

/-- **`ValidateRuntimeAdmissionRequest`.** -/
def validateRuntimeAdmissionRequest (request : RunRequest) (view : RuntimeAdmissionView) : Bool :=
  match governance.decodeGovernedManifest request with
  | none => false
  | some manifest =>
    validRuntimeAdmissionSpec governance view.spec && isSha256Digest view.admissionDigest &&
      view.spec = wantedSpec manifest view.spec

/-! ## The inventory -/

/-- `RuntimeFenceStore`: a view for each Run that was claimed. -/
structure FenceStore where
  views : Table String RuntimeAdmissionView

abbrev FenceM (α : Type) := Tx FenceStore Failure α

namespace FenceStore

/-- Each view is stored under its own Run. -/
def named (store : FenceStore) : Bool :=
  store.views.keys.all fun runId =>
    (store.views.get runId).all fun view => view.spec.runId = runId

/-- `List`, in the order of the Runs; a file under another Run's name is refused. -/
def list : FenceM (List RuntimeAdmissionView) := do
  let store ← get
  if store.named then
    pure (store.views.rows.insertionSort fun a b => a.spec.runId ≤ b.spec.runId)
  else throw (.error "local Runtime admission state changed")

/-- The view once it is closed. -/
def closed (view : RuntimeAdmissionView) (outcome : RuntimeOutcome) (now : Int) :
    RuntimeAdmissionView :=
  { view with
    state := .stopped, outcome := some outcome, stoppedAt := some (governance.profileTime now) }

/-- **`Stop`.** It closes a possible start, by its exact digests; closing it again with the same
outcome changes nothing. -/
def stop (runId admissionDigest startDigest : String) (outcome : RuntimeOutcome) (now : Int) :
    FenceM RuntimeAdmissionView := do
  if validRuntimeOutcome outcome = false ∨ now = 0 then
    throw (.error "local Runtime admission is invalid")
  else if isContractRunID runId = false then
    throw (.error "local Runtime admission is invalid")
  else
    let store ← get
    match store.views.get runId with
    | none => throw .notExist
    | some view =>
      if view.admissionDigest ≠ admissionDigest ∨ view.startDigest ≠ some startDigest then
        throw (.error "local Runtime admission conflicts with immutable state")
      else if view.state = .stopped then
        if view.outcome ≠ some outcome then
          throw (.error "local Runtime admission conflicts with immutable state")
        else pure view
      else
        let started := (view.authorityCheckedAt.bind governance.parseTime).getD 0
        if view.state ≠ .starting ∨ now < started then
          throw (.error "local Runtime admission is invalid")
        else
          set { store with views := store.views.put runId (closed governance view outcome now) }
          pure (closed governance view outcome now)

end FenceStore

end AgentRoom.Bridge
