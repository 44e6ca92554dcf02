import AgentRoom.Lib.Tx
import AgentRoom.Bridge.Types

/-!
# The inbox

The durable store of one Bridge data directory: a record for each Run it was asked
to run, and a tombstone for each cancellation it has not reported yet. Here each
operation is one step under the inbox's mutex.
-/

namespace AgentRoom.Bridge

/-- An error of a Bridge operation; `os.IsNotExist` recognises the first kind. -/
inductive Failure where
  | notExist
  | error (message : String)
  deriving DecidableEq

/-- The records and the tombstones of a data directory, by Run. -/
structure Inbox where
  records : Table String Record
  tombstones : Table String CancellationTombstone

def Inbox.empty : Inbox where
  records := .empty
  tombstones := .empty

abbrev InboxM (α : Type) := Tx Inbox Failure α

namespace Inbox

/-- `load(i.path(runID))`. -/
def load (runId : String) : InboxM Record := do
  match (← get).records.get runId with
  | some record => pure record
  | none => throw .notExist

/-- `replace(i.path(runID), record)`. -/
def replace (runId : String) (record : Record) : InboxM Unit :=
  modify fun inbox => { inbox with records := inbox.records.put runId record }

/-- **`Accept`.** The record of the request, and whether it was there already. -/
def accept (config : Config) (request : RunRequest) : InboxM (Record × Bool) := do
  if isContractRunID request.runId = false then throw (.error "invalid Run ID")
  else if isContractTraceID request.traceId = false then throw (.error "invalid Run trace ID")
  else
    match (← get).records.get request.runId with
    | some existing =>
      if existing.idempotencyKey ≠ request.idempotencyKey ∨
          existing.payloadHash ≠ config.hashPayload request then
        throw (.error "duplicate Run payload mismatch")
      else pure (existing, true)
    | none =>
      let record : Record :=
        { runId := request.runId, idempotencyKey := request.idempotencyKey
          payloadHash := config.hashPayload request, request, state := .accepted
          lastSequence := 1, events := [] }
      replace request.runId record
      pure (record, false)

/-- **`AppendEvent`.** -/
def appendEvent (runId : String) (state : State) (sequence : Nat) (message : OutboxMessage) :
    InboxM Record := do
  let record ← load runId
  if sequence ≤ record.lastSequence then pure record
  else if sequence ≠ record.lastSequence + 1 then
    throw (.error ("Run event sequence gap: " ++ toString sequence))
  else
    let record := { record with
      state, lastSequence := sequence, events := record.events ++ [message] }
    replace runId record
    pure record

/-- The evidence is the one the record's request offered, after a completion. -/
def matchesOffer (record : Record) (value : SupplementalMessage) : Bool :=
  match record.request.supplementalOffer with
  | none => false
  | some offer =>
    record.state = .completed && value.operationId = offer.operationId &&
      value.discussionId = offer.discussionId && value.waveId = offer.waveId &&
      value.turnId = offer.turnId && value.identity.runId = record.runId &&
      value.identity.traceId = record.request.traceId &&
      value.identity.agentId = record.request.targetAgentId && 1 ≤ value.sourceReplySequence

/-- The supplemental evidence a record holds for an operation. -/
def supplementalFor (operationId : String) (events : List OutboxMessage) :
    Option SupplementalMessage :=
  events.findSome? fun
    | .supplemental m => if m.operationId = operationId then some m else none
    | _ => none

def hasReply (sequence : Nat) (events : List OutboxMessage) : Bool :=
  events.any fun
    | .reply m => m.sequence = sequence
    | _ => false

/-- **`AppendSupplementalEvidence`.** It takes no sequence. -/
def appendSupplementalEvidence (runId : String) (value : SupplementalMessage) : InboxM Record := do
  let record ← load runId
  if matchesOffer record value = false then
    throw (.error "supplemental evidence does not match its frozen offer")
  else
    match supplementalFor value.operationId record.events with
    | some existing =>
      if existing ≠ value then
        throw (.error "supplemental evidence operation identity was reused")
      else pure record
    | none =>
      if hasReply value.sourceReplySequence record.events = false then
        throw (.error "supplemental evidence reply was not persisted")
      else
        let record := { record with events := record.events ++ [.supplemental value] }
        replace runId record
        pure record

/-- `<runId>.json`. -/
def fileName (runId : String) : String := runId ++ ".json"

/-- `List`, in the order of the file names. -/
def list : InboxM (List Record) := do
  let rows := (← get).records.rows.insertionSort fun a b => fileName a.runId ≤ fileName b.runId
  match rows.find? fun record => isContractRunID record.runId = false with
  | some record =>
    throw (.error ("inbox filename does not match Run identity: " ++ fileName record.runId))
  | none => pure rows

/-- `QuarantineIncompatibleTrace`: the record leaves the inbox. -/
def quarantineIncompatibleTrace (runId : String) : InboxM Unit := do
  if isContractRunID runId = false then throw (.error "invalid Run ID")
  else if ((← get).records.get runId).isNone then
    throw (.error "protect incompatible trace inbox record")
  else modify fun inbox => { inbox with records := inbox.records.remove runId }

def update (runId : String) (state : State) (sequence : Nat) : InboxM Record := do
  let record ← load runId
  if sequence ≤ record.lastSequence then pure record
  else
    let record := { record with state, lastSequence := sequence }
    replace runId record
    pure record

/-- The error of `TransitionLocalState` when the record is not in the expected state. -/
def stateChanged (found expected : State) : Failure :=
  .error ("Run local state changed: " ++ found.text ++ ", expected " ++ expected.text)

/-- **`TransitionLocalState`.** -/
def transitionLocalState (runId : String) (expected next : State) : InboxM Record := do
  let record ← load runId
  if record.state ≠ expected then throw (stateChanged record.state expected)
  else
    let record := { record with state := next }
    replace runId record
    pure record

/-- The cancellation names the record's Run, trace and Agent. -/
def cancellationMatches (requested : RunCancelRequest) (record : Record) : Bool :=
  record.request.traceId = requested.traceId && record.request.targetAgentId = requested.agentId

def tombstoneOf (requested : RunCancelRequest) : CancellationTombstone where
  runId := requested.runId
  traceId := requested.traceId
  agentId := requested.agentId
  messageId := requested.messageId
  reason := requested.reason

/-- **`RecordCancellation`.** A repeated cancellation must be the first one again. -/
def recordCancellation (requested : RunCancelRequest) : InboxM CancellationTombstone := do
  if requested.protocolVersion ≠ "1.0" ∨ isContractRunID requested.runId = false ∨
      isContractTraceID requested.traceId = false ∨
      isContractAgentID requested.agentId = false then
    throw (.error "invalid Run cancellation identity")
  else
    let inbox ← get
    if ((inbox.records.get requested.runId).all (cancellationMatches requested)) = false then
      throw (.error "Run cancellation identity mismatch")
    else
      match inbox.tombstones.get requested.runId with
      | some existing =>
        if existing ≠ tombstoneOf requested then
          throw (.error "Run cancellation tombstone mismatch")
        else pure existing
      | none =>
        set { inbox with
          tombstones := inbox.tombstones.put requested.runId (tombstoneOf requested) }
        pure (tombstoneOf requested)

/-- **`HasCancellation`.** -/
def hasCancellation (request : RunRequest) : InboxM Bool := do
  if isContractRunID request.runId = false then throw (.error "invalid Run ID")
  else
    match (← get).tombstones.get request.runId with
    | none => pure false
    | some tombstone =>
      if tombstone.runId ≠ request.runId ∨ tombstone.traceId ≠ request.traceId ∨
          tombstone.agentId ≠ request.targetAgentId then
        throw (.error "Run cancellation tombstone identity mismatch")
      else pure true

def clearCancellation (runId : String) : InboxM Unit := do
  if isContractRunID runId = false then throw (.error "invalid Run ID")
  else modify fun inbox => { inbox with tombstones := inbox.tombstones.remove runId }

end Inbox

/-! ## The operations as data -/

/-- An inbox operation with its arguments. -/
inductive InboxOp where
  | accept (request : RunRequest)
  | appendEvent (runId : String) (state : State) (sequence : Nat) (message : OutboxMessage)
  | appendSupplementalEvidence (runId : String) (message : SupplementalMessage)
  | list
  | quarantineIncompatibleTrace (runId : String)
  | update (runId : String) (state : State) (sequence : Nat)
  | transitionLocalState (runId : String) (expected next : State)
  | get (runId : String)
  | recordCancellation (requested : RunCancelRequest)
  | hasCancellation (request : RunRequest)
  | clearCancellation (runId : String)

namespace InboxOp

@[reducible] def Result : InboxOp → Type
  | accept _ => Record × Bool
  | appendEvent .. => Record
  | appendSupplementalEvidence .. => Record
  | list => List Record
  | quarantineIncompatibleTrace _ => Unit
  | update .. => Record
  | transitionLocalState .. => Record
  | get _ => Record
  | recordCancellation _ => CancellationTombstone
  | hasCancellation _ => Bool
  | clearCancellation _ => Unit

def run (config : Config) : (op : InboxOp) → InboxM op.Result
  | accept request => Inbox.accept config request
  | appendEvent runId state sequence message => Inbox.appendEvent runId state sequence message
  | appendSupplementalEvidence runId message => Inbox.appendSupplementalEvidence runId message
  | list => Inbox.list
  | quarantineIncompatibleTrace runId => Inbox.quarantineIncompatibleTrace runId
  | update runId state sequence => Inbox.update runId state sequence
  | transitionLocalState runId expected next => Inbox.transitionLocalState runId expected next
  | get runId => Inbox.load runId
  | recordCancellation requested => Inbox.recordCancellation requested
  | hasCancellation request => Inbox.hasCancellation request
  | clearCancellation runId => Inbox.clearCancellation runId

end InboxOp

end AgentRoom.Bridge
