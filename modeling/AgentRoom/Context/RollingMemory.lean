import AgentRoom.Lib.Utf16
import AgentRoom.Context.Redaction
import AgentRoom.Run.Store

/-!
# Rolling Room memory

A Room's log, the checkpoints that summarise it and the row that says how far
they reach: `RollingRoomMemoryRepository`, with the CHECKs and triggers of its
two tables, and the two halves of `MemoryReducerScheduler.drainRoom`, between
which the reducer runs.

One Room is modelled, so the rows carry no Room id. Checkpoints and lease tokens
are opaque ids and numbers here.
-/

namespace AgentRoom.Context

/-! ## The Room's log -/

/-- **A Room's messages**, in the order of their sequence. -/
structure RoomLog where
  messages : List MessageRecord
  /-- `next_message_sequence` is taken by each message in turn. -/
  numbered : messages.map (·.sequence) = List.range' 1 messages.length
  /-- `message_id` is the primary key. -/
  distinct : (messages.map (·.messageId)).Nodup

namespace RoomLog

def empty : RoomLog := ⟨[], rfl, List.nodup_nil⟩

/-- `core.latestMessageSequence`: the Room's `next_message_sequence`. -/
def latestMessageSequence (log : RoomLog) : Nat := log.messages.length

/-- `core.listMessagesRange`. The log is in sequence order already. -/
def listMessagesRange (log : RoomLog) (fromSequenceExclusive throughSequenceInclusive : Nat)
    (limit : Nat) : List MessageRecord :=
  (log.messages.filter fun m =>
    fromSequenceExclusive < m.sequence ∧ m.sequence ≤ throughSequenceInclusive).take limit

/-- A message appended under the next sequence. -/
def append (log : RoomLog) (message : MessageRecord)
    (fresh : message.messageId ∉ log.messages.map (·.messageId)) : RoomLog where
  messages := log.messages ++ [{ message with sequence := log.messages.length + 1 }]
  numbered := by
    rw [List.map_append, log.numbered, List.length_append, List.length_singleton,
      List.range'_concat]
    simp [Nat.add_comm]
  distinct := by
    rw [List.map_append, List.map_singleton, List.nodup_append]
    refine ⟨log.distinct, List.nodup_singleton _, ?_⟩
    intro a ha b hb hab
    rw [List.mem_singleton] at hb
    exact fresh (hb ▸ hab ▸ ha)

theorem mem_of_listMessagesRange {log : RoomLog} {low high limit : Nat} {m : MessageRecord}
    (h : m ∈ log.listMessagesRange low high limit) : m ∈ log.messages :=
  List.mem_of_mem_filter (List.mem_of_mem_take h)

theorem listMessagesRange_distinct (log : RoomLog) (low high limit : Nat) :
    ((log.listMessagesRange low high limit).map (·.messageId)).Nodup :=
  log.distinct.sublist ((List.take_sublist _ _).trans List.filter_sublist |>.map _)

end RoomLog

/-! ## Rows -/

inductive RollingRoomMode where
  | disabled | backfilling | ready | degraded
  deriving DecidableEq

inductive RollingRoomBuildKind where
  | incremental | rebase
  deriving DecidableEq

/-- A row of `rolling_room_checkpoints`. -/
structure RollingRoomCheckpoint where
  checkpointId : Nat
  parentCheckpointId : Option Nat
  inputFromSequenceExclusive : Nat
  throughSequence : Nat
  summary : String
  provenance : List MessageId
  sourceMessageCount : Nat
  sourceDigest : String
  promptVersion : Nat
  modelFingerprint : String
  buildKind : RollingRoomBuildKind
  createdAt : Time

/-- The Room's row of `rolling_room_state`. -/
structure RollingRoomState where
  mode : RollingRoomMode
  latestCheckpointId : Option Nat
  latestThroughSequence : Nat
  desiredThroughSequence : Nat
  generation : Nat
  leaseToken : Option Nat
  leaseExpiresAt : Option Time
  deriving DecidableEq

/-- The two tables, for one Room. -/
structure RollingMemory where
  checkpoints : List RollingRoomCheckpoint
  state : RollingRoomState

namespace RollingMemory

/-- `rooms_create_rolling_room_state`. -/
def initial : RollingMemory where
  checkpoints := []
  state :=
    { mode := .disabled, latestCheckpointId := none, latestThroughSequence := 0
      desiredThroughSequence := 0, generation := 0, leaseToken := none, leaseExpiresAt := none }

/-- `messages_advance_rolling_room_desired`. -/
def advanceDesired (db : RollingMemory) (sequence : Nat) : RollingMemory :=
  { db with
    state := { db.state with
      desiredThroughSequence := max db.state.desiredThroughSequence sequence } }

/-- The mode `enable` and `enableAll` set. -/
def enabledMode (state : RollingRoomState) : RollingRoomMode :=
  if state.latestCheckpointId.isNone then .backfilling else .ready

def enable (db : RollingMemory) : RollingMemory :=
  { db with state := { db.state with mode := enabledMode db.state } }

/-- `enableAll`, on this Room's row. -/
def enableAll (db : RollingMemory) : RollingMemory :=
  if db.state.mode = .disabled then db.enable else db

def disable (db : RollingMemory) : RollingMemory :=
  { db with
    state := { db.state with mode := .disabled, leaseToken := none, leaseExpiresAt := none } }

/-- `acquireLease`: the leased row, when there is work and no lease in force. -/
def acquireLease (db : RollingMemory) (leaseToken : Nat) (now leaseExpiresAt : Time) :
    Option RollingRoomState :=
  if db.state.mode ≠ .disabled ∧
      db.state.latestThroughSequence < db.state.desiredThroughSequence ∧
      (db.state.leaseToken.isNone ∨ db.state.leaseExpiresAt.any (· ≤ now)) then
    some { db.state with
      generation := db.state.generation + 1
      leaseToken := some leaseToken
      leaseExpiresAt := some leaseExpiresAt }
  else none

/-- `/^[a-f0-9]{64}$/u`. -/
def digestPattern (digest : String) : Bool := runtimeScopePattern digest

/-- The CHECKs and the unique keys of `rolling_room_checkpoints`. -/
def rowAccepted (db : RollingMemory) (row : RollingRoomCheckpoint) : Bool :=
  db.checkpoints.all (·.checkpointId ≠ row.checkpointId) &&
    row.inputFromSequenceExclusive < row.throughSequence &&
    trimmedWithin row.summary 12000 &&
    0 < row.sourceMessageCount && row.sourceDigest.length = 64 && 0 < row.promptVersion &&
    trimmedWithin row.modelFingerprint 256 &&
    db.checkpoints.all fun other => row.parentCheckpointId.isNone ||
      (other.parentCheckpointId, other.throughSequence, other.sourceDigest, other.promptVersion,
          other.modelFingerprint, other.buildKind) ≠
        (row.parentCheckpointId, row.throughSequence, row.sourceDigest, row.promptVersion,
          row.modelFingerprint, row.buildKind)

/-- `rolling_room_checkpoints_require_contiguous_insert`. -/
def contiguousInsert (db : RollingMemory) (row : RollingRoomCheckpoint) : Bool :=
  match row.buildKind, row.parentCheckpointId with
  | .rebase, _ => row.inputFromSequenceExclusive = 0
  | .incremental, none => row.inputFromSequenceExclusive = 0
  | .incremental, some parentId => db.checkpoints.any fun parent =>
    parent.checkpointId = parentId &&
      parent.throughSequence = row.inputFromSequenceExclusive

/-- `insertCheckpoint`. Message ids are within their length bounds. -/
def insertCheckpoint (db : RollingMemory) (row : RollingRoomCheckpoint) :
    Except Err RollingMemory :=
  if 64 < row.provenance.length ∨ ¬row.provenance.Nodup then
    throw "Checkpoint provenance must contain bounded unique IDs"
  else if !digestPattern row.sourceDigest then
    throw "Checkpoint source digest must be lowercase SHA-256"
  else if !contiguousInsert db row then
    throw "Rolling Room checkpoint input is not contiguous"
  else if !rowAccepted db row then throw "CHECK constraint failed: rolling_room_checkpoints"
  else pure { db with checkpoints := db.checkpoints ++ [row] }

/-- **`commitCheckpoint`.** -/
def commitCheckpoint (db : RollingMemory) (checkpoint : RollingRoomCheckpoint)
    (expectedGeneration leaseToken : Nat) (now : Time) : Except Err RollingMemory := do
  if db.state.generation ≠ expectedGeneration ∨ db.state.leaseToken ≠ some leaseToken ∨
      !db.state.leaseExpiresAt.any (now < ·) then
    throw "Rolling Room checkpoint lease is stale"
  else if db.state.desiredThroughSequence < checkpoint.throughSequence ∨
      checkpoint.throughSequence < db.state.latestThroughSequence then
    throw "Rolling Room checkpoint is outside the desired watermark"
  else if checkpoint.buildKind = .incremental ∧
      (checkpoint.parentCheckpointId ≠ db.state.latestCheckpointId ∨
        checkpoint.inputFromSequenceExclusive ≠ db.state.latestThroughSequence) then
    throw "Incremental checkpoint must extend the current latest checkpoint"
  else if checkpoint.buildKind = .rebase ∧ checkpoint.inputFromSequenceExclusive ≠ 0 then
    throw "Rebase checkpoint must start at sequence zero"
  else if checkpoint.throughSequence ≠
      checkpoint.inputFromSequenceExclusive + checkpoint.sourceMessageCount then
    throw "Checkpoint source count does not match its input interval"
  else
    let inserted ← insertCheckpoint db checkpoint
    pure { inserted with
      state := { inserted.state with
        mode := .ready
        latestCheckpointId := some checkpoint.checkpointId
        latestThroughSequence := checkpoint.throughSequence
        leaseToken := none
        leaseExpiresAt := none } }

/-- `recordFailure`. The row is left alone when the lease was lost. -/
def recordFailure (db : RollingMemory) (expectedGeneration leaseToken : Nat) : RollingMemory :=
  if db.state.generation = expectedGeneration ∧ db.state.leaseToken = some leaseToken then
    { db with
      state := { db.state with mode := .degraded, leaseToken := none, leaseExpiresAt := none } }
  else db

/-- `ORDER BY through_sequence DESC, created_at DESC, checkpoint_id DESC`: `a` comes first. -/
def isLater (a b : RollingRoomCheckpoint) : Bool :=
  b.throughSequence < a.throughSequence ||
    (a.throughSequence = b.throughSequence &&
      (b.createdAt < a.createdAt ||
        (a.createdAt = b.createdAt && b.checkpointId < a.checkpointId)))

def latestAtOrBefore (db : RollingMemory) (throughSequence : Nat)
    (createdAtOrBefore : Option Time) : Option RollingRoomCheckpoint :=
  (db.checkpoints.filter fun c => c.throughSequence ≤ throughSequence &&
      createdAtOrBefore.all (c.createdAt ≤ ·)).foldl
    (fun best c => match best with
      | none => some c
      | some b => if isLater c b then some c else some b) none

end RollingMemory

/-! ## The scheduler -/

def reducerInputUtf8ByteLimit : Nat := 64 * 1024

/-- `planWork`'s loop: the messages that fit the byte bound. -/
def boundedMessages : Nat → List MessageRecord → List MessageRecord
  | _, [] => []
  | bytes, message :: rest =>
    let nextBytes := bytes + message.content.utf8ByteSize
    if reducerInputUtf8ByteLimit < nextBytes then []
    else message :: boundedMessages nextBytes rest

/-- What `planWork` returns. -/
structure ReducerWork where
  buildKind : RollingRoomBuildKind
  fromSequenceExclusive : Nat
  throughSequence : Nat
  messages : List MessageRecord

/-- The messages carry the sequences after `low`, one by one. -/
def Consecutive (low : Nat) (messages : List MessageRecord) : Prop :=
  messages.map (·.sequence) = List.range' (low + 1) messages.length

instance (low : Nat) (messages : List MessageRecord) : Decidable (Consecutive low messages) :=
  inferInstanceAs (Decidable (_ = _))

/-- **`planWork`.** -/
def planWork (log : RoomLog) (state : RollingRoomState) (rebase : Bool) :
    Except Err ReducerWork :=
  let fromSequenceExclusive := if rebase then 0 else state.latestThroughSequence
  let messageLimit := if rebase then 128 else 32
  let maximumTarget := min state.desiredThroughSequence (fromSequenceExclusive + messageLimit)
  let availableMessages :=
    log.listMessagesRange fromSequenceExclusive maximumTarget (messageLimit + 1)
  if fromSequenceExclusive + availableMessages.length ≠ maximumTarget ∨
      ¬Consecutive fromSequenceExclusive availableMessages then
    throw "Memory reducer input interval is not contiguous"
  else
    let messages := boundedMessages 0 availableMessages
    match messages.getLast? with
    | none => throw "Memory reducer input exceeds its byte bound"
    | some last =>
      if rebase ∧ last.sequence < state.latestThroughSequence then
        throw "Bounded rebase cannot cover the current latest checkpoint"
      else
        pure
          { buildKind := if rebase then .rebase else .incremental
            fromSequenceExclusive, throughSequence := last.sequence, messages }

/-- `MemoryReducerOutput`, without its candidates. -/
structure ReducerOutput where
  summary : String
  provenanceMessageIds : List MessageId
  modelFingerprint : String

/-- `text.length`: its UTF-16 units. -/
def utf16Length (text : String) : Nat := (Utf16.encode text.toList).length

def validateReducerOutput (output : ReducerOutput) (messages : List MessageRecord) :
    Except Err Unit :=
  if isBlank output.summary ∨ 12000 < utf16Length output.summary ∨
      isBlank output.modelFingerprint ∨ 160 < utf16Length output.modelFingerprint ∨
      output.provenanceMessageIds = [] ∨ 64 < output.provenanceMessageIds.length ∨
      ¬output.provenanceMessageIds.Nodup then
    throw "Memory reducer output is outside its bounds"
  else if output.provenanceMessageIds.any (· ∉ messages.map (·.messageId)) then
    throw "Memory reducer provenance is outside its input interval"
  else pure ()

/-- A drain between its two halves: the leased row and the work the reducer was given. -/
structure DrainJob where
  lease : RollingRoomState
  leaseToken : Nat
  work : ReducerWork

/-- `drainRoom` up to the reducer: the lease is taken and the work planned. -/
def beginDrain (log : RoomLog) (db : RollingMemory) (rebase : Bool) (leaseToken : Nat)
    (now leaseExpiresAt : Time) : RollingMemory × Option DrainJob :=
  match db.acquireLease leaseToken now leaseExpiresAt with
  | none => (db, none)
  | some lease =>
    let leased := { db with state := lease }
    match planWork log lease rebase with
    | .error _ => (leased.recordFailure lease.generation leaseToken, none)
    | .ok work => (leased, some { lease, leaseToken, work })

/-- The checkpoint `drainRoom` makes of the reducer's output. -/
def DrainJob.checkpoint (job : DrainJob) (output : ReducerOutput) (checkpointId : Nat)
    (sourceDigest : String) (promptVersion : Nat) (createdAt : Time) : RollingRoomCheckpoint where
  checkpointId
  parentCheckpointId :=
    if job.work.buildKind = .incremental then job.lease.latestCheckpointId else none
  inputFromSequenceExclusive := job.work.fromSequenceExclusive
  throughSequence := job.work.throughSequence
  summary := redactSensitiveText (trim output.summary)
  provenance := output.provenanceMessageIds
  sourceMessageCount := job.work.messages.length
  sourceDigest
  promptVersion
  modelFingerprint := redactSensitiveText (trim output.modelFingerprint)
  buildKind := job.work.buildKind
  createdAt

/-- What the second half of a drain takes from outside. -/
structure DrainAnswer where
  /-- What the reducer returned; `none` when it threw. -/
  output : Option ReducerOutput
  checkpointId : Nat
  /-- The digest of the source messages. -/
  sourceDigest : String
  promptVersion : Nat
  createdAt : Time
  now : Time

/-- The `try` block of `drainRoom` from the reducer's answer on. -/
def commitAnswer (db : RollingMemory) (job : DrainJob) (answer : DrainAnswer) :
    Except Err RollingMemory :=
  match answer.output with
  | none => throw "Memory reducer failed"
  | some output => do
      validateReducerOutput output job.work.messages
      db.commitCheckpoint
        (job.checkpoint output answer.checkpointId answer.sourceDigest answer.promptVersion
          answer.createdAt)
        job.lease.generation job.leaseToken answer.now

/-- `drainRoom` from the reducer's answer on. -/
def finishDrain (db : RollingMemory) (job : DrainJob) (answer : DrainAnswer) : RollingMemory :=
  match commitAnswer db job answer with
  | .ok db' => db'
  | .error _ => db.recordFailure job.lease.generation job.leaseToken

end AgentRoom.Context
