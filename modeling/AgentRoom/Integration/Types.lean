import AgentRoom.Repository.Snapshot

/-!
# Integration operations

What Central admits, what the Bridge journals and what it reports of one
`integrate` operation: the operation itself, the sealed checkpoint it integrates,
the local intent and the terminal receipt.
-/

namespace AgentRoom.Integration

open Repository

/-- `RepositoryOperationRequestPlan`. -/
structure OperationPlan where
  planId : String
  revision : Nat
  digest : String
  roomId : String
  deriving DecidableEq

/-- `RepositoryOperationRequestExecution`, which a checkpoint's scope repeats. -/
structure ExecutionScope where
  planId : String
  planRevision : Nat
  planDigest : String
  nodeKey : String
  roomId : String
  taskId : String
  runId : String
  agentId : String
  deviceId : String
  deriving DecidableEq

structure IntegrateTarget where
  repositoryId : String
  targetRef : String
  expectedCommit : String
  deriving DecidableEq

/-- `IntegrateClass`. -/
structure IntegrateAction where
  candidateCommit : String
  candidateTree : String
  inputDigest : String
  target : IntegrateTarget
  deriving DecidableEq

/-- `RepositoryOperationRequest` of the kind `integrate`. -/
structure RepositoryOperation where
  operationId : String
  requestDigest : String
  plan : OperationPlan
  execution : ExecutionScope
  repositoryId : String
  bindingId : String
  deviceId : String
  expectedGeneration : String
  action : IntegrateAction
  deriving DecidableEq

structure RepositoryCheckpoint where
  checkpointId : String
  repositoryId : String
  bindingId : String
  workspaceGeneration : String
  candidateCommit : String
  candidateTree : String
  inputDigest : String
  scope : ExecutionScope
  deriving DecidableEq

/-- `Admission`; an `IntentRecord` is an admission and its version. -/
structure Admission where
  operation : RepositoryOperation
  checkpoint : RepositoryCheckpoint
  approvalDigest : String
  admittedAt : String
  deriving DecidableEq

/-- `RepositoryOperationReceiptState`. -/
inductive ReceiptState where
  | prepared
  | succeeded
  | failed
  | canceled
  | outcomeUnknown
  deriving DecidableEq

/-- `RepositoryOperationReceipt` of the kind `integrate`. -/
structure OperationReceipt where
  operationId : String
  requestDigest : String
  repositoryId : String
  bindingId : String
  deviceId : String
  state : ReceiptState
  observedGeneration : String
  checkpointId : String
  candidateCommit : String
  candidateTree : String
  target : IntegrateTarget
  errorCode : Option String
  recordedAt : Nat
  deriving DecidableEq

/-- `Source`: a local repository. -/
structure Source where
  root : String
  gitDirectory : String
  commonDirectory : String
  objectFormat : ObjectFormat

/-- The errors of the integration path, as far as it tells them apart. -/
inductive IntegrationError where
  | canceled
  | deadlineExceeded
  | targetMoved
  | targetCheckedOut
  | nonFastForward
  | outcomeUnknown
  | invalid
  | changed
  | conflict
  | other
  deriving DecidableEq

/-- An error of the host: of the context, or any other. -/
inductive HostError where
  | canceled
  | deadlineExceeded
  | other
  deriving DecidableEq

/-- The host's error as the path returns it. -/
def HostError.toError : HostError → IntegrationError
  | .canceled => .canceled
  | .deadlineExceeded => .deadlineExceeded
  | .other => .other

/-- `ctx.Err()`. -/
inductive ContextError where
  | canceled
  | deadlineExceeded
  deriving DecidableEq

def ContextError.toError : ContextError → IntegrationError
  | .canceled => .canceled
  | .deadlineExceeded => .deadlineExceeded

end AgentRoom.Integration
