import AgentRoom.Lib.Disk
import AgentRoom.Bridge.Records

/-!
# The inbox as files

One file `<runId>.json` for each record, one for each tombstone in its own
directory, temporary files named `.run-*`, and the quarantined records. An operation
reads the files it needs and then writes at most one of them, by one of two
protocols: a new file is created in place and written, an existing one is replaced
through a temporary file.

Directories and files have the type and mode the Bridge gave them, so the checks of
those pass, and a directory once made stays made.
-/

namespace AgentRoom.Bridge

inductive FileName where
  | record (runId : String)
  /-- What `CreateTemp` made of `.run-*`. -/
  | temporary (random : Nat)
  | tombstone (runId : String)
  | quarantined (runId : String) (suffix : Nat)
  deriving DecidableEq

/-- What a file holds: JSON text of a record or a tombstone, or text that does not decode. -/
inductive FileContent where
  | torn
  | record (value : Record)
  | tombstone (value : CancellationTombstone)

abbrev Files := Disk FileName FileContent

namespace Files

/-- The directory of the records, the temporary files among them. -/
def inInbox : FileName → Bool
  | .record _ | .temporary _ => true
  | _ => false

def inTombstones : FileName → Bool
  | .tombstone _ => true
  | _ => false

def inQuarantine : FileName → Bool
  | .quarantined .. => true
  | _ => false

/-! ## Reading -/

/-- `load(i.path(runID))`. The text of the decoder's own error, which follows, is left out. -/
def load (d : Files) (runId : String) : Except Failure Record :=
  match d.read (.record runId) with
  | none => .error .notExist
  | some (.record record) => .ok record
  | some _ => .error (.error "decode inbox record")

/-- `loadCancellationTombstone(i.cancellationTombstonePath(runID))`. -/
def loadCancellationTombstone (d : Files) (runId : String) :
    Except Failure CancellationTombstone :=
  match d.read (.tombstone runId) with
  | none => .error .notExist
  | some (.tombstone tombstone) => .ok tombstone
  | some _ => .error (.error "decode cancellation tombstone")

/-- The Run identifiers of the record files, in the order of the file names. -/
def recordNames (d : Files) : List String :=
  (d.names.keys.filterMap fun
    | .record runId => some runId
    | _ => none).insertionSort fun a b => Inbox.fileName a ≤ Inbox.fileName b

/-- One pass of `List`. -/
def listed (d : Files) (name : String) : Except Failure Record := do
  let record ← load d name
  if isContractRunID record.runId = false ∨ name ≠ record.runId then
    throw (.error ("inbox filename does not match Run identity: " ++ Inbox.fileName name))
  else pure record

/-- **`List`.** One file that does not decode fails it. -/
def list (d : Files) : Except Failure (List Record) := d.recordNames.mapM d.listed

/-! ## Writing -/

/-- What an operation writes once it has read. -/
inductive Writes where
  | nothing
  /-- `writeNew(i.path(runID), record)`. -/
  | writeNewRecord (runId : String) (record : Record)
  /-- `replace(i.path(runID), record)`. -/
  | replaceRecord (runId : String) (record : Record)
  /-- `writeNew(path, tombstone)`, after the directory was made and protected. -/
  | writeNewTombstone (runId : String) (tombstone : CancellationTombstone)
  /-- `os.Remove(path)` and `SyncParent(path)`. -/
  | removeTombstone (runId : String)
  /-- The rename into the quarantine, after its directory was made and protected. -/
  | quarantineRecord (runId : String)

theorem exists_free_suffix (d : Files) (runId : String) :
    ∃ suffix, d.names.get (.quarantined runId suffix) = none :=
  d.names.exists_unused fun _ _ h => by injection h

/-- The quarantine takes the first name that is free. -/
def freeSuffix (d : Files) (runId : String) : Nat := Nat.find (d.exists_free_suffix runId)

/-- A temporary name not in use, which `CreateTemp` picks. -/
def Spare (d : Files) : Type := { random : Nat // d.names.get (.temporary random) = none }

namespace Writes

/-- **The steps on the files.** -/
def steps (d : Files) (spare : d.Spare) : Writes → List (FileOp FileName FileContent)
  | nothing => []
  | writeNewRecord runId record => d.writeNew (.record runId) (.record record) inInbox
  | replaceRecord runId record =>
    d.replace (.temporary spare.val) (.record runId) (.record record) inInbox
  | writeNewTombstone runId tombstone =>
    .other :: .other :: d.writeNew (.tombstone runId) (.tombstone tombstone) inTombstones
  | removeTombstone runId => Disk.discard (.tombstone runId) inTombstones
  | quarantineRecord runId =>
    .other :: .other :: .other ::
      Disk.setAside (.record runId) (.quarantined runId (d.freeSuffix runId)) inQuarantine inInbox

/-- What they come to for the inbox. -/
def effect (inbox : Inbox) : Writes → Inbox
  | nothing => inbox
  | writeNewRecord runId record | replaceRecord runId record =>
    { inbox with records := inbox.records.put runId record }
  | writeNewTombstone runId tombstone =>
    { inbox with tombstones := inbox.tombstones.put runId tombstone }
  | removeTombstone runId => { inbox with tombstones := inbox.tombstones.remove runId }
  | quarantineRecord runId => { inbox with records := inbox.records.remove runId }

end Writes

/-! ## The operations -/

def accept (config : Config) (request : RunRequest) (d : Files) :
    Except Failure ((Record × Bool) × Writes) :=
  if isContractRunID request.runId = false then throw (.error "invalid Run ID")
  else if isContractTraceID request.traceId = false then throw (.error "invalid Run trace ID")
  else
    match d.load request.runId with
    | .ok existing =>
      if existing.idempotencyKey ≠ request.idempotencyKey ∨
          existing.payloadHash ≠ config.hashPayload request then
        throw (.error "duplicate Run payload mismatch")
      else pure ((existing, true), .nothing)
    | .error .notExist =>
      let record : Record :=
        { runId := request.runId, idempotencyKey := request.idempotencyKey
          payloadHash := config.hashPayload request, request, state := .accepted
          lastSequence := 1, events := [] }
      pure ((record, false), .writeNewRecord request.runId record)
    | .error error => throw error

def appendEvent (runId : String) (state : State) (sequence : Nat) (message : OutboxMessage)
    (d : Files) : Except Failure (Record × Writes) := do
  let record ← d.load runId
  if sequence ≤ record.lastSequence then pure (record, .nothing)
  else if sequence ≠ record.lastSequence + 1 then
    throw (.error ("Run event sequence gap: " ++ toString sequence))
  else
    let record := { record with
      state, lastSequence := sequence, events := record.events ++ [message] }
    pure (record, .replaceRecord runId record)

def appendSupplementalEvidence (runId : String) (value : SupplementalMessage) (d : Files) :
    Except Failure (Record × Writes) := do
  let record ← d.load runId
  if Inbox.matchesOffer record value = false then
    throw (.error "supplemental evidence does not match its frozen offer")
  else
    match Inbox.supplementalFor value.operationId record.events with
    | some existing =>
      if existing ≠ value then
        throw (.error "supplemental evidence operation identity was reused")
      else pure (record, .nothing)
    | none =>
      if Inbox.hasReply value.sourceReplySequence record.events = false then
        throw (.error "supplemental evidence reply was not persisted")
      else
        let record := { record with events := record.events ++ [.supplemental value] }
        pure (record, .replaceRecord runId record)

/-- `QuarantineIncompatibleTrace`. It does not decode the record. -/
def quarantineIncompatibleTrace (runId : String) (d : Files) :
    Except Failure (Unit × Writes) :=
  if isContractRunID runId = false then throw (.error "invalid Run ID")
  else if (d.read (.record runId)).isNone then
    throw (.error "protect incompatible trace inbox record")
  else pure ((), .quarantineRecord runId)

def update (runId : String) (state : State) (sequence : Nat) (d : Files) :
    Except Failure (Record × Writes) := do
  let record ← d.load runId
  if sequence ≤ record.lastSequence then pure (record, .nothing)
  else
    let record := { record with state, lastSequence := sequence }
    pure (record, .replaceRecord runId record)

def transitionLocalState (runId : String) (expected next : State) (d : Files) :
    Except Failure (Record × Writes) := do
  let record ← d.load runId
  if record.state ≠ expected then throw (Inbox.stateChanged record.state expected)
  else
    let record := { record with state := next }
    pure (record, .replaceRecord runId record)

/-- The record is not there, or it is the cancellation's; one that does not decode fails. -/
def checkCancellation (requested : RunCancelRequest) (d : Files) : Except Failure Unit :=
  match d.load requested.runId with
  | .ok record =>
    if Inbox.cancellationMatches requested record = false then
      throw (.error "Run cancellation identity mismatch")
    else pure ()
  | .error .notExist => pure ()
  | .error error => throw error

def recordCancellation (requested : RunCancelRequest) (d : Files) :
    Except Failure (CancellationTombstone × Writes) := do
  if requested.protocolVersion ≠ "1.0" ∨ isContractRunID requested.runId = false ∨
      isContractTraceID requested.traceId = false ∨
      isContractAgentID requested.agentId = false then
    throw (.error "invalid Run cancellation identity")
  else
    d.checkCancellation requested
    match d.loadCancellationTombstone requested.runId with
    | .ok existing =>
      if existing ≠ Inbox.tombstoneOf requested then
        throw (.error "Run cancellation tombstone mismatch")
      else pure (existing, .nothing)
    | .error .notExist =>
      pure (Inbox.tombstoneOf requested,
        .writeNewTombstone requested.runId (Inbox.tombstoneOf requested))
    | .error error => throw error

def hasCancellation (request : RunRequest) (d : Files) : Except Failure (Bool × Writes) :=
  if isContractRunID request.runId = false then throw (.error "invalid Run ID")
  else
    match d.loadCancellationTombstone request.runId with
    | .error .notExist => pure (false, .nothing)
    | .error error => throw error
    | .ok tombstone =>
      if tombstone.runId ≠ request.runId ∨ tombstone.traceId ≠ request.traceId ∨
          tombstone.agentId ≠ request.targetAgentId then
        throw (.error "Run cancellation tombstone identity mismatch")
      else pure (true, .nothing)

def clearCancellation (runId : String) (d : Files) : Except Failure (Unit × Writes) :=
  if isContractRunID runId = false then throw (.error "invalid Run ID")
  else if (d.read (.tombstone runId)).isNone then pure ((), .nothing)
  else pure ((), .removeTombstone runId)

end Files

def InboxOp.onFiles (config : Config) :
    (op : InboxOp) → Files → Except Failure (op.Result × Files.Writes)
  | accept request, d => d.accept config request
  | appendEvent runId state sequence message, d => d.appendEvent runId state sequence message
  | appendSupplementalEvidence runId message, d => d.appendSupplementalEvidence runId message
  | list, d => d.list.map fun records => (records, .nothing)
  | quarantineIncompatibleTrace runId, d => d.quarantineIncompatibleTrace runId
  | update runId state sequence, d => d.update runId state sequence
  | transitionLocalState runId expected next, d => d.transitionLocalState runId expected next
  | get runId, d => (d.load runId).map fun record => (record, .nothing)
  | recordCancellation requested, d => d.recordCancellation requested
  | hasCancellation request, d => d.hasCancellation request
  | clearCancellation runId, d => d.clearCancellation runId

/-- What it writes: nothing if it fails. -/
def InboxOp.writes (config : Config) (op : InboxOp) (d : Files) : Files.Writes :=
  match op.onFiles config d with
  | .ok (_, writes) => writes
  | .error _ => .nothing

end AgentRoom.Bridge
