import AgentRoom.Bridge.Executor

/-!
# Deliveries, cancellations and recovery

`Handler.Handle` is what a connection worker runs for one `run.requested`;
`StageCancellation` and `ReplayCanceledRun` are what the connection's reader runs
for one `run.cancel_requested`; `recover` is what runs before a connection is
dialled. A request for governed execution is refused here: it has a handler of its
own.
-/

namespace AgentRoom.Bridge

open RuntimeExecutor

variable (config : Config)

/-- The acceptance of a record's Run. -/
def acceptedMessage (request : RunRequest) (materializations : Option (List Json))
    (materializationFailed : Bool) : Outgoing :=
  .accepted { identity := request.identity, materializations, materializationFailed }

namespace Handler

/-! ## Canceled before the Runtime -/

/-- The cancellation of a record whose acceptance has not been sent: the terminal event is
persisted first, then acceptance and event are sent, then the tombstone goes. -/
def reportCanceled (record : Record) (materializationFailed : Bool) : Prog Unit := do
  let terminal ← cancelQueued config record collect
  send (acceptedMessage record.request none materializationFailed)
  toSocket terminal
  inbox (.clearCancellation record.runId)

/-- Back to `accepted` from an unfinished preparation. -/
def leavePreparing (record : Record) : Prog Record :=
  if record.state = .preparing then
    inbox (.transitionLocalState record.runId .preparing .accepted)
  else pure record

def cancelBeforeAdmission (record : Record) : Prog Unit := do
  let record ← leavePreparing record
  reportCanceled config record record.request.pinnedArtifacts

def cancelDuringPreparation (record : Record) : Prog Unit := do
  let record ← leavePreparing record
  reportCanceled config record true

def cancelAfterAcceptance (record : Record) : Prog Unit := do
  let _ ← cancelQueued config record toSocket
  inbox (.clearCancellation record.runId)

/-- `handleQueueExit`: without an explicit cancellation the accepted record is left to recovery. -/
def handleQueueExit (record : Record) : Prog Unit := do
  let explicit ← explicitCancel record.runId
  if explicit then cancelAfterAcceptance config record else pure ()

/-! ## Admission -/

/-- `HasCancellation`, or else `isExplicitCancel`. -/
def canceledNow (record : Record) : Prog Bool := do
  let canceled ← inbox (.hasCancellation record.request)
  if canceled then pure true
  else explicitCancel record.runId

/-- **`runNew`.** -/
def runNew (adapters : List String) (record : Record) : Prog Unit := do
  let canceled ← canceledNow record
  if canceled then cancelAfterAcceptance config record
  else
    let granted ← acquire record.request.targetAgentId
    if granted then
      let canceled ← canceledNow record
      if canceled then cancelAfterAcceptance config record
      else execute config adapters record
    else handleQueueExit config record

/-- What `Handle` does once the preparation has ended, well or for good. -/
def afterPreparation (adapters : List String) (record : Record) (duplicate resumePreparing : Bool)
    (prepared : Except PrepareFailure (List Json)) : Prog Unit := do
  let record ← leavePreparing record
  let canceled ← canceledNow record
  if canceled then cancelBeforeAdmission config record
  else
    match prepared with
    | .error _ =>
      let terminal ← failMaterialization config record collect
      send (acceptedMessage record.request none true)
      toSocket terminal
    | .ok materializations =>
      send (acceptedMessage record.request (some materializations) false)
      if duplicate = true ∧ resumePreparing = false then
        let _ ← replay config record.runId toSocket
        pure ()
      else runNew config adapters record

/-- `Prepare`, after which a retryable failure leaves the record in `preparing`. -/
def prepareRun (adapters : List String) (record : Record) (duplicate resumePreparing : Bool) :
    Prog Unit := do
  match ← prepare record.request with
  | .error failure =>
    if failure.retryable then
      let explicit ← explicitCancel record.runId
      if explicit then cancelDuringPreparation config record else .fail failure.failure
    else
      afterPreparation config adapters record duplicate resumePreparing (.error failure)
  | .ok materializations =>
    afterPreparation config adapters record duplicate resumePreparing (.ok materializations)

/-- **`Handle`.** -/
def handle (adapters : List String) (request : RunRequest) : Prog Unit :=
  if request.governed then
    fail "governed execution requires a supported local admission implementation"
  else do
    let (record, duplicate) ← inbox (.accept request)
    let canceled ← inbox (.hasCancellation record.request)
    if canceled then cancelBeforeAdmission config record
    else if duplicate then
      prepareRun config adapters record true (record.state = .preparing)
    else
      let record ← inbox (.transitionLocalState record.runId .accepted .preparing)
      prepareRun config adapters record false false

end Handler

namespace RuntimeExecutor

/-! ## Cancellation commands -/

def cancellationTombstoneStatus (tombstone : CancellationTombstone) : OutboxMessage :=
  .status
    { identity :=
        { runId := tombstone.runId, agentId := tombstone.agentId, traceId := tombstone.traceId }
      sequence := 1, status := .canceled }

def cancelTombstonedRecord (record : Record) : Prog Unit :=
  Handler.reportCanceled config record record.request.pinnedArtifacts

/-- The checks on the last event of a terminal record. -/
def terminalEventConsistent (record : Record) (terminal : OutboxMessage) : Bool :=
  match terminal with
  | .status m =>
    m.identity = { runId := record.runId, agentId := record.request.targetAgentId
                   traceId := record.request.traceId } &&
      m.sequence = record.lastSequence && isCancellationTerminalStatus m.status &&
      stateForStatus m.status = record.state
  | _ => false

/-- The record of a canceled Run: fenced and canceled if it has not ended, or replayed. -/
def replayCanceledRecord (requested : RunCancelRequest) (record : Record) : Prog Unit := do
  Proc.ofExcept (validateRecoveryRecord record)
  if record.runId ≠ requested.runId ∨ Inbox.cancellationMatches requested record = false then
    fail "Run cancellation replay identity mismatch"
  else if isCancellationTerminalState record.state = false then
    let _ ← inbox (.recordCancellation requested)
    cancelTombstonedRecord config record
  else
    match record.events.getLast? with
    | none => fail "Run cancellation replay terminal record has no event"
    | some terminal =>
      if terminalEventConsistent record terminal then
        let _ ← replay config record.runId toSocket
        inbox (.clearCancellation record.runId)
      else fail "Run cancellation replay terminal event is inconsistent"

/-- **`ReplayCanceledRun`**, for a Run without an active worker. Without a record the cancellation
is recorded, reported and forgotten again. -/
def replayCanceledRun (requested : RunCancelRequest) : Prog Unit := do
  let found ← (inbox (.get requested.runId)).attempt
  match found with
  | .error .notExist =>
    let tombstone ← inbox (.recordCancellation requested)
    send (.event (cancellationTombstoneStatus tombstone))
    inbox (.clearCancellation tombstone.runId)
  | .error (.error _) => fail "load canceled Run replay record"
  | .ok record => replayCanceledRecord config requested record

/-- **`StageCancellation`**, for a Run with an active worker. -/
def stageCancellation (requested : RunCancelRequest) : Prog Unit := do
  let _ ← inbox (.recordCancellation requested)
  let found ← (inbox (.get requested.runId)).attempt
  match found with
  | .error .notExist => pure ()
  | .error err => .fail err
  | .ok record =>
    if isCancellationTerminalState record.state then inbox (.clearCancellation record.runId)
    else pure ()

/-! ## Recovery -/

/-- `hasPersistedMaterializationFailure`: what the last event of a failed record says. -/
def hasPersistedMaterializationFailure (record : Record) : Bool :=
  record.state = .failed && match record.events.getLast? with
    | some (.status m) =>
      m.status = .failed && m.error.any (·.code = "ARTIFACT_MATERIALIZATION_FAILED")
    | _ => false

def latestPersistedReplySequence (record : Record) : Nat :=
  (record.events.filterMap fun
    | .reply m => some m.sequence
    | _ => none).foldl max 0

/-- The records a recovery goes through: a terminal one with foreign trace metadata is set aside,
an active one stops it. -/
def recoverable (governedAlreadyRecovered : Bool) : List Record → Prog (List Record)
  | [] => pure []
  | record :: records =>
    if record.request.governed then
      if governedAlreadyRecovered then recoverable governedAlreadyRecovered records
      else fail "governed execution requires a supported local admission implementation"
    else
      match validateRecoveryRecord record with
      | .ok () => do
          let rest ← recoverable governedAlreadyRecovered records
          pure (record :: rest)
      | .error _ =>
        if isTerminalState record.state then do
          inbox (.quarantineIncompatibleTrace record.runId)
          recoverable governedAlreadyRecovered records
        else fail "active inbox record has incompatible trace metadata"

/-- The report of a record whose Runtime may have started: persisted with the next sequence. -/
def restartedMessage (record : Record) : OutboxMessage :=
  statusMessage record (record.lastSequence + 1) .outcomeUnknown
    (some { code := "RUNTIME_PROCESS_RESTARTED"
            message := "Bridge restarted before the Runtime terminal outcome was persisted."
            retryable := false })

/-- Acceptance, the unknown outcome if there is no other, and the replay. -/
def reportRecovered (record : Record) (prepared : Except PrepareFailure (List Json)) :
    Prog Unit := do
  send (acceptedMessage record.request prepared.toOption (!prepared.isOk))
  if record.state = .accepted ∨ record.state = .working then
    let _ ← inbox (.appendEvent record.runId .outcomeUnknown (record.lastSequence + 1)
      (restartedMessage record))
    let _ ← replay config record.runId toSocket
    pure ()
  else
    let _ ← replay config record.runId toSocket
    pure ()

/-- Re-verify the pinned Artifacts, unless their failure is what the record reports. -/
def recoverPrepared (record : Record) : Prog Unit := do
  if hasPersistedMaterializationFailure record then
    reportRecovered config record
      (.error { failure := .error "persisted Artifact materialization failure"
                retryable := false })
  else
    match ← prepare record.request with
    | .error failure =>
      if failure.retryable then .fail failure.failure
      else reportRecovered config record (.error failure)
    | .ok materializations => reportRecovered config record (.ok materializations)

/-- The supplemental evidence a completed record still owes. -/
def recoverSupplemental (record : Record) : Prog Record :=
  match record.request.supplementalOffer with
  | none => pure record
  | some offer =>
    if record.state = .completed ∧ 0 < latestPersistedReplySequence record then
      inbox (.appendSupplementalEvidence record.runId
        (supplementalMessage record offer (latestPersistedReplySequence record)))
    else pure record

/-- One record of a recovery. An unfinished preparation is left to the next delivery. -/
def recoverRecord (record : Record) : Prog Unit := do
  let canceled ← inbox (.hasCancellation record.request)
  if canceled then cancelTombstonedRecord config record
  else if record.state = .preparing then pure ()
  else
    let record ← recoverSupplemental record
    recoverPrepared config record

/-- **`recover`.** -/
def recover (governedAlreadyRecovered : Bool) : Prog Unit := do
  let records ← inbox .list
  let records ← recoverable governedAlreadyRecovered records
  Proc.forEach (recoverRecord config) records

end RuntimeExecutor

end AgentRoom.Bridge
