import AgentRoom.Execution.Records
import AgentRoom.Lib.Registry
import AgentRoom.Repository.Snapshot
import Mathlib.Data.String.Basic

/-!
# Records of local consent

What the owner of a Bridge has consented to: which repositories it may use, which Runtime and
verifier profiles, and which Tasks it may execute. Everything is kept in the owner's own files,
under one owner and one data directory.

An instant is one that can be written, so the checks that a time can be written are left out; a
stored time has a fixed width and compares as the instant it names. Versions and revisions that
are always the same number are left out too.
-/

namespace AgentRoom.Consent

open Execution (ManifestGrant)
open Plan (IntegrationTarget ScopePolicy)
open Repository (ObjectFormat)

inductive ConsentError where
  | invalid
  | limit
  | changed
  | conflict
  | incomplete
  | notExist
  | bindingRevoked
  | grantRevoked
  | grantExpired
  | grantDenied
  | profileRevoked
  | profileDenied
  deriving DecidableEq

/-- `BindingOwner`, and the `Owner` of the two profile stores. -/
structure Owner where
  serverUrl : String
  teamId : String
  deviceId : String
  ownerMemberId : String
  deriving DecidableEq

/-! ## Repository bindings -/

/-- `Source`: a checkout, with the identities of its directories. -/
structure Source where
  root : String
  gitDirectory : String
  commonDirectory : String
  objectFormat : ObjectFormat
  rootIdentity : String
  gitIdentity : String
  commonIdentity : String
  deriving DecidableEq

structure BindRepository where
  bindingId : String
  repositoryId : String
  aliasName : String
  selectedRoot : String
  allowedRoots : List String

structure BindingRecord where
  bindingId : String
  repositoryId : String
  aliasName : String
  owner : Owner
  allowedRoots : List String
  source : Source
  registeredAt : Time
  deriving DecidableEq

structure BindingRevocation where
  bindingId : String
  bindingDigest : String
  revokedAt : Time

structure BindingView where
  bindingId : String
  repositoryId : String
  aliasName : String
  revision : Nat
  sourceFingerprint : String
  registeredAt : Time
  revokedAt : Option Time

/-! ## Runtime profiles -/

/-- `AgentConfig`, as far as a Runtime profile binds it. -/
structure AgentConfig where
  name : String
  adapter : String
  runtimeKind : String
  presetVersion : Nat
  command : List String
  sandbox : String
  codexSessionConflictPolicy : String
  envAllowlist : List String
  deriving DecidableEq

structure RuntimeProfileSpec where
  profileId : String
  revision : Nat
  agentId : String
  runtimeKind : String
  configurationDigest : String
  permissionProfile : String
  deriving DecidableEq

structure ProfileBoundary where
  executableDigest : String
  permissionProfileDigest : String
  filesystemBoundary : String
  networkBoundary : String
  platform : String
  deriving DecidableEq

structure RuntimeProfileRecord where
  owner : Owner
  spec : RuntimeProfileSpec
  boundary : ProfileBoundary
  registeredAt : Time

/-- `profileRevocation`, and the `revocationRecord` of a verifier. -/
structure ProfileRevocation where
  profileId : String
  digest : String
  revokedAt : Time

structure RuntimeProfileView where
  spec : RuntimeProfileSpec
  digest : String
  boundary : ProfileBoundary
  registeredAt : Time
  revokedAt : Option Time

/-! ## Verifier profiles -/

/-- `ProfileSpec`. -/
structure VerifierSpec where
  profileId : String
  revision : Nat
  command : List String
  environmentNames : List String
  timeoutMilliseconds : Nat
  outputLimitBytes : Nat
  deriving DecidableEq

structure VerifierRecord where
  owner : Owner
  spec : VerifierSpec
  executableDigest : String
  registeredAt : Time
  deriving DecidableEq

structure VerifierView where
  spec : VerifierSpec
  digest : String
  executableDigest : String
  registeredAt : Time
  revokedAt : Option Time

/-! ## Task grants -/

/-- `KindElement`. -/
inductive Operation where
  | prepare | capture | verify | integrate | publish | observe
  deriving DecidableEq

def Operation.text : Operation → String
  | .prepare => "prepare"
  | .capture => "capture"
  | .verify => "verify"
  | .integrate => "integrate"
  | .publish => "publish"
  | .observe => "observe"

/-- A profile, by its exact registration. -/
structure ProfilePin where
  profileId : String
  revision : Nat
  digest : String
  deriving DecidableEq

/-- `TaskGrantSpec`: what the owner consents to. -/
structure TaskGrantSpec where
  grantId : String
  bindingId : String
  bindingRevision : Nat
  sourceFingerprint : String
  repositoryId : String
  baseCommit : String
  planId : String
  planRevision : Nat
  planDigest : String
  nodeKey : String
  roomId : String
  taskId : String
  definitionRevision : Nat
  criteriaRevision : Nat
  agentId : String
  expiresAt : String
  operations : List Operation
  runtimeProfile : ProfilePin
  verificationProfiles : List ProfilePin
  scopePolicy : ScopePolicy
  integrationTargets : List IntegrationTarget
  deriving DecidableEq

structure TaskGrantRecord where
  owner : Owner
  spec : TaskGrantSpec
  issuedAt : Time

structure TaskGrantRevocation where
  grantId : String
  digest : String
  revokedAt : Time

/-- `ExecutionGrantSummary`: what a Bridge publishes of a grant. -/
structure ExecutionGrantSummary where
  agentId : String
  bindingId : String
  deviceId : String
  grant : ManifestGrant
  repositoryId : String
  planId : String
  nodeKey : String
  operations : List Operation
  runtimeProfile : ProfilePin
  verificationProfiles : List ProfilePin
  scopePolicy : ScopePolicy
  integrationTargets : List IntegrationTarget
  issuedAt : Time
  revokedAt : Option Time
  deriving DecidableEq

structure TaskGrantView where
  spec : TaskGrantSpec
  summary : ExecutionGrantSummary

/-! ## The Bridge -/

/-- A value the Bridge writes as JSON. -/
inductive Document where
  | source (s : Source)
  | binding (r : BindingRecord)
  | bindingRevocation (r : BindingRevocation)
  | runtimeProfile (r : RuntimeProfileRecord)
  | profileRevocation (r : ProfileRevocation)
  | verifier (r : VerifierRecord)
  | grantSpec (s : TaskGrantSpec)
  | grant (r : TaskGrantRecord)
  | grantRevocation (r : TaskGrantRevocation)
  | grantSummary (s : ExecutionGrantSummary)

/-- **One paired owner namespace of a Bridge**: its owner and data directory, and the functions
of JSON, digests, times and paths its stores use. -/
structure Bridge where
  owner : Owner
  dataRoot : String
  unicode : Repository.Unicode
  /-- The bytes of `json.Marshal`. -/
  bytes : Document → Nat
  /-- Whether `CanonicalExecutionJSON` takes the value's JSON. -/
  canonical : Document → Bool
  digest : Document → String
  /-- The digest of an Agent's local execution policy. -/
  configurationDigest : AgentConfig → String → String → String
  /-- `time.Parse`, of RFC 3339 texts. -/
  parseTime : String → Option Time
  /-- The `date-time` format and pattern of the schema. -/
  utcTimestamp : String → Bool
  /-- `filepath.IsAbs(path) && filepath.Clean(path) == path`. -/
  cleanPath : String → Bool
  /-- Whether `filepath.Dir(path)` is `path` itself. -/
  rootPath : String → Bool
  contained : String → String → Bool

def recordLimit : Nat := 64 * 1024

/-- Whether a stored file gives back the value it was written for. -/
def Bridge.reads (B : Bridge) (d : Document) : Bool := B.bytes d ≤ recordLimit && B.canonical d

abbrev Bindings := Registry String BindingRecord BindingRevocation
abbrev RuntimeProfiles := Registry String RuntimeProfileRecord ProfileRevocation
abbrev Verifiers := Registry String VerifierRecord ProfileRevocation
abbrev TaskGrants := Registry String TaskGrantRecord TaskGrantRevocation

/-- The stores of one namespace. -/
structure Stores where
  bindings : Bindings
  profiles : RuntimeProfiles
  verifiers : Verifiers
  grants : TaskGrants

def Stores.empty : Stores := ⟨.empty, .empty, .empty, .empty⟩

end AgentRoom.Consent
