import AgentRoom.Lib.Proc
import AgentRoom.Integration.Types

/-!
# The exact target and its coordinator

`Preparer.IntegrateExactTarget`: the checks before the update, the one update of
the target ref with its expected old value, and what is made of the update's
answer. Every Git command and every look at the host is an operation; a context
that has ended is asked for where the source asks for it.

`GovernedIntegrationCoordinator.Execute`: the receipt of a settled operation is
reported again, an operation with an intent is recovered from what its target ref
holds, and any other is authorised, journaled and updated. Every path that settles
the operation stores its receipt before it reports it.
-/

namespace AgentRoom.Integration

open Repository

/-- `CapturedRepository`, as far as integration compares it. -/
structure Captured where
  candidateCommit : String
  candidateTree : String

inductive IntegrationOp where
  /-- `transport.Get`. -/
  | get (operationId : String)
  /-- `transport.Retain`. -/
  | retain (receipt : OperationReceipt)
  /-- `journal.Receipt`, `journal.Intent`. -/
  | receipt (operationId : String)
  | intent (operationId : String)
  | putIntent (admission : Admission)
  | putReceipt (receipt : OperationReceipt)
  | now
  | resolveSource (bindingId repositoryId : String) (revision : Nat)
  | checkIntegrationGrant (operation : RepositoryOperation) (now : Nat)
  /-- `ctx.Err()`. -/
  | contextErr
  | checkOwner
  | checkSource (source : Source)
  | confirmedCapture (checkpoint : RepositoryCheckpoint)
  /-- `show-ref --verify --hash`. -/
  | showRef (source : Source) (targetRef : String)
  | targetCheckedOut (source : Source) (targetRef : String)
  | verifiedCapturedSource
  /-- `readCommitBundleLocked`: whether the bundle's header and size are in bounds. -/
  | readCommitBundle
  | indexPack
  /-- `rev-parse` of a commit's tree. -/
  | revParseTree (commit : String)
  /-- `merge-base --is-ancestor`. -/
  | isAncestor (ancestor commit : String)
  | updateRef (targetRef new old : String)

@[reducible] def IntegrationOp.Resp : IntegrationOp → Type
  | .get _ => Except IntegrationError Admission
  | .retain _ => Except IntegrationError Unit
  | .receipt _ => Except IntegrationError (Option OperationReceipt)
  | .intent _ => Except IntegrationError (Option Admission)
  | .putIntent _ | .putReceipt _ => Except IntegrationError Unit
  | .now => Nat
  | .resolveSource .. => Except IntegrationError Source
  | .checkIntegrationGrant .. => Except IntegrationError Unit
  | .contextErr => Option ContextError
  | .checkOwner => Except HostError Unit
  | .checkSource _ => Except HostError Unit
  | .confirmedCapture _ => Except HostError Captured
  | .showRef .. => Except HostError String
  | .targetCheckedOut .. => Except HostError Bool
  | .verifiedCapturedSource => Except HostError Unit
  | .readCommitBundle => Except HostError Bool
  | .indexPack => Except HostError Unit
  | .revParseTree _ => Except HostError String
  | .isAncestor .. => Except HostError Unit
  | .updateRef .. => Except HostError Unit

def integrationInterface : Interface where
  Op := IntegrationOp
  Resp := IntegrationOp.Resp

abbrev IntegrationProg (α : Type) := Proc integrationInterface IntegrationError α

/-- What the checks of schema, digest and spelling say. -/
structure EvidenceRules where
  /-- `ValidateExecutionCommand` and the request digest. -/
  validOperation : RepositoryOperation → Bool
  /-- `validCheckpoint`. -/
  validCheckpoint : RepositoryCheckpoint → Bool
  /-- `validGrantTarget`. -/
  validGrantTarget : String → Bool

def validateIntegrationEvidence (rules : EvidenceRules) (operation : RepositoryOperation)
    (checkpoint : RepositoryCheckpoint) : Except IntegrationError IntegrateAction :=
  let action := operation.action
  let scope := operation.execution
  if !rules.validOperation operation || !rules.validCheckpoint checkpoint then .error .invalid
  else if operation.repositoryId ≠ checkpoint.repositoryId ∨
      operation.bindingId ≠ checkpoint.bindingId ∨ operation.deviceId ≠ scope.deviceId ∨
      operation.expectedGeneration ≠ checkpoint.workspaceGeneration ∨
      action.target.repositoryId ≠ operation.repositoryId ∨
      action.candidateCommit ≠ checkpoint.candidateCommit ∨
      action.candidateTree ≠ checkpoint.candidateTree ∨
      action.inputDigest ≠ checkpoint.inputDigest ∨ checkpoint.scope ≠ scope ∨
      operation.plan.planId ≠ scope.planId ∨ operation.plan.revision ≠ scope.planRevision ∨
      operation.plan.digest ≠ scope.planDigest ∨ operation.plan.roomId ≠ scope.roomId then
    .error .changed
  else .ok action

namespace Preparer

def integrationContextError {α : Type} (err : HostError) : IntegrationProg α :=
  .call .contextErr fun ended =>
    match ended with
    | some e => .fail e.toError
    | none => .fail err.toError

/-- The result of a command, or the context's error before the command's. -/
def orContext {α : Type} (r : Except HostError α) : IntegrationProg α :=
  match r with
  | .ok a => .ret a
  | .error err => integrationContextError err

def integrationTarget (source : Source) (targetRef : String) : IntegrationProg String :=
  .call (.checkSource source) fun checked =>
    match checked with
    | .error err => integrationContextError err
    | .ok () =>
      .call (.showRef source targetRef) fun shown =>
        match shown with
        | .error err => .fail err.toError
        | .ok commit => .ret commit

def confirmIntegrationTarget (source : Source) (action : IntegrateAction) :
    IntegrationProg String := do
  match ← (integrationTarget source action.target.targetRef).attempt with
  | .error _ => .fail .outcomeUnknown
  | .ok current =>
    if current ≠ action.candidateCommit then .fail .outcomeUnknown else pure current

/-- What is made of an update that failed: only the exact ref is inspected. -/
def inspectFailedUpdate (source : Source) (action : IntegrateAction) (updateErr : HostError) :
    IntegrationProg String := do
  match ← (integrationTarget source action.target.targetRef).attempt with
  | .error _ => .fail .outcomeUnknown
  | .ok current =>
    if current = action.candidateCommit then pure action.candidateCommit
    else if current = action.target.expectedCommit then .fail updateErr.toError
    else .fail .targetMoved

def updateTarget (source : Source) (action : IntegrateAction) : IntegrationProg String :=
  .call (.updateRef action.target.targetRef action.candidateCommit action.target.expectedCommit)
    fun updated =>
      match updated with
      | .ok () => confirmIntegrationTarget source action
      | .error updateErr => inspectFailedUpdate source action updateErr

/-- A target that is not checked out in any worktree. -/
def requireNotCheckedOut (source : Source) (targetRef : String) : IntegrationProg Unit :=
  .call (.targetCheckedOut source targetRef) fun listed => do
    if ← orContext listed then .fail .targetCheckedOut else pure ()

/-- The exact sealed candidate, imported: its capture is confirmed, its objects are there. -/
def importCandidate (source : Source) (action : IntegrateAction) : IntegrationProg Unit :=
  .call .verifiedCapturedSource fun sealed => do
    orContext sealed
    .call .readCommitBundle fun bundle => do
      let wellFormed ← orContext bundle
      if !wellFormed then .fail .changed
      else .call .indexPack fun indexed => do
        orContext indexed
        .call (.checkSource source) fun checked => do
          orContext checked
          .call (.revParseTree action.candidateCommit) fun parsed => do
            let tree ← orContext parsed
            if tree ≠ action.candidateTree then .fail .changed else pure ()

/-- The candidate strictly descends from the approved commit. -/
def requireFastForward (action : IntegrateAction) : IntegrationProg Unit :=
  if action.candidateCommit = action.target.expectedCommit then .fail .nonFastForward
  else .call (.isAncestor action.target.expectedCommit action.candidateCommit) fun descends =>
    match descends with
    | .ok () => pure ()
    | .error _ =>
      .call .contextErr fun ended =>
        match ended with
        | some e => .fail e.toError
        | none => .fail .nonFastForward

/-- The target still equals the approved commit. -/
def requireExpected (source : Source) (action : IntegrateAction) : IntegrationProg Unit := do
  match ← (integrationTarget source action.target.targetRef).attempt with
  | .error _ => .fail .targetMoved
  | .ok current =>
    if current ≠ action.target.expectedCommit then .fail .targetMoved else pure ()

/-- The context has not ended. -/
def requireContext : IntegrationProg Unit :=
  .call .contextErr fun ended =>
    match ended with
    | some e => .fail e.toError
    | none => pure ()

/-- The checkpoint is the confirmed capture of the candidate. -/
def requireCapture (checkpoint : RepositoryCheckpoint) (action : IntegrateAction) :
    IntegrationProg Unit :=
  .call (.confirmedCapture checkpoint) fun confirmed => do
    let captured ← orContext confirmed
    if captured.candidateCommit ≠ action.candidateCommit ∨
        captured.candidateTree ≠ action.candidateTree then .fail .changed
    else pure ()

/-- Everything that is checked before the update. -/
def checkExactTarget (rules : EvidenceRules) (source : Source) (operation : RepositoryOperation)
    (checkpoint : RepositoryCheckpoint) : IntegrationProg IntegrateAction :=
  .call .checkOwner fun owner =>
    match owner with
    | .error err => .fail err.toError
    | .ok () => do
        let action ← .ofExcept (validateIntegrationEvidence rules operation checkpoint)
        if !rules.validGrantTarget action.target.targetRef ||
            !validObject action.target.expectedCommit source.objectFormat ||
            !validObject action.candidateCommit source.objectFormat ||
            !validObject action.candidateTree source.objectFormat then .fail .invalid
        else .call (.checkSource source) fun checked => do
          orContext checked
          requireCapture checkpoint action
          requireExpected source action
          requireNotCheckedOut source action.target.targetRef
          importCandidate source action
          requireFastForward action
          requireNotCheckedOut source action.target.targetRef
          requireContext
          pure action

/-- **`IntegrateExactTarget`.** -/
def integrateExactTarget (rules : EvidenceRules) (source : Source)
    (operation : RepositoryOperation) (checkpoint : RepositoryCheckpoint) :
    IntegrationProg String := do
  let action ← checkExactTarget rules source operation checkpoint
  updateTarget source action

def inspectIntegrationTarget (rules : EvidenceRules) (source : Source) (targetRef : String) :
    IntegrationProg String :=
  if !rules.validGrantTarget targetRef then .fail .invalid
  else .call .checkOwner fun owner =>
    match owner with
    | .error err => .fail err.toError
    | .ok () => integrationTarget source targetRef

end Preparer

/-! ## The integration coordinator -/

variable (rules : EvidenceRules)

def integrationFailure : IntegrationError → ReceiptState × String
  | .canceled | .deadlineExceeded => (.canceled, "INTEGRATION_CANCELED")
  | .targetMoved => (.failed, "INTEGRATION_TARGET_MOVED")
  | .targetCheckedOut => (.failed, "INTEGRATION_TARGET_CHECKED_OUT")
  | .nonFastForward => (.failed, "INTEGRATION_NON_FAST_FORWARD")
  | .outcomeUnknown => (.outcomeUnknown, "INTEGRATION_TARGET_OUTCOME_UNKNOWN")
  | .invalid | .changed | .conflict | .other => (.failed, "INTEGRATION_LOCAL_EFFECT_FAILED")

/-- The receipt `retainTerminal` makes. -/
def terminalReceipt (admission : Admission) (state : ReceiptState) (errorCode : String)
    (now : Nat) : OperationReceipt where
  operationId := admission.operation.operationId
  requestDigest := admission.operation.requestDigest
  repositoryId := admission.operation.repositoryId
  bindingId := admission.operation.bindingId
  deviceId := admission.operation.deviceId
  state
  observedGeneration := admission.operation.expectedGeneration
  checkpointId := admission.checkpoint.checkpointId
  candidateCommit := admission.operation.action.candidateCommit
  candidateTree := admission.operation.action.candidateTree
  target := admission.operation.action.target
  errorCode := if errorCode = "" then none else some errorCode
  recordedAt := now

namespace Coordinator

def retain (receipt : OperationReceipt) : IntegrationProg OperationReceipt :=
  .call (.retain receipt) fun retained =>
    match retained with
    | .error e => .fail e
    | .ok () => .ret receipt

def retainTerminal (admission : Admission) (state : ReceiptState) (errorCode : String)
    (now : Nat) : IntegrationProg OperationReceipt :=
  .call (.putReceipt (terminalReceipt admission state errorCode now)) fun stored =>
    match stored with
    | .error e => .fail e
    | .ok () => retain (terminalReceipt admission state errorCode now)

/-- The receipt of an update that returned. -/
def retainUpdate (admission : Admission) (result : Except IntegrationError String) :
    IntegrationProg OperationReceipt :=
  .call .now fun now =>
    match result with
    | .ok _ => retainTerminal admission .succeeded "" now
    | .error err =>
      retainTerminal admission (integrationFailure err).1 (integrationFailure err).2 now

def executeCAS (admission : Admission) (source : Source) (now : Nat) :
    IntegrationProg OperationReceipt :=
  .call (.checkIntegrationGrant admission.operation now) fun granted =>
    match granted with
    | .error _ =>
      retainTerminal admission .failed "INTEGRATION_LOCAL_AUTHORITY_UNAVAILABLE" now
    | .ok () => do
        let result ← (Preparer.integrateExactTarget rules source admission.operation
          admission.checkpoint).attempt
        retainUpdate admission result

def recoverOrExecute (admission : Admission) (source : Except IntegrationError Source)
    (now : Nat) : IntegrationProg OperationReceipt :=
  match source with
  | .error _ => retainTerminal admission .outcomeUnknown "INTEGRATION_RECOVERY_UNAVAILABLE" now
  | .ok source => do
      let action := admission.operation.action
      match ← (Preparer.inspectIntegrationTarget rules source action.target.targetRef).attempt with
      | .error _ =>
        retainTerminal admission .outcomeUnknown "INTEGRATION_RECOVERY_UNAVAILABLE" now
      | .ok current =>
        if current = action.candidateCommit then retainTerminal admission .succeeded "" now
        else if current ≠ action.target.expectedCommit then
          retainTerminal admission .outcomeUnknown "INTEGRATION_TARGET_OUTCOME_UNKNOWN" now
        else executeCAS rules admission source now

/-- An operation without an intent: it is authorised and journaled first. -/
def admitAndExecute (admission : Admission) (source : Except IntegrationError Source)
    (now : Nat) : IntegrationProg OperationReceipt :=
  match source with
  | .error _ => retainTerminal admission .failed "INTEGRATION_LOCAL_AUTHORITY_UNAVAILABLE" now
  | .ok source =>
    .call (.checkIntegrationGrant admission.operation now) fun granted =>
      match granted with
      | .error _ =>
        retainTerminal admission .failed "INTEGRATION_LOCAL_AUTHORITY_UNAVAILABLE" now
      | .ok () =>
        .call (.putIntent admission) fun stored =>
          match stored with
          | .error e => .fail e
          | .ok () => executeCAS rules admission source now

/-- What `Execute` does with an admission that has no receipt. -/
def executeUnsettled (admission : Admission) (intent : Option Admission) :
    IntegrationProg OperationReceipt :=
  if intent.any (· ≠ admission) then .fail .changed
  else .call .now fun (now : Nat) =>
    -- the zero time
    if now = 0 then .fail .invalid
    else .call (.resolveSource admission.operation.bindingId admission.operation.repositoryId 1)
      fun source =>
        if intent.isSome then recoverOrExecute rules admission source now
        else admitAndExecute rules admission source now

/-- **`Execute`.** -/
def execute (operationId : String) : IntegrationProg OperationReceipt :=
  .call (.get operationId) fun got =>
    match got with
    | .error e => .fail e
    | .ok admission =>
      .call (.receipt operationId) fun read =>
        match read with
        | .error e => .fail e
        | .ok (some receipt) => retain receipt
        | .ok none =>
          .call (.intent operationId) fun read =>
            match read with
            | .error e => .fail e
            | .ok intent => executeUnsettled rules admission intent

end Coordinator

end AgentRoom.Integration
