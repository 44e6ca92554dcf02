import AgentRoom.Results.Store

/-!
# Memory entries

`MemoryEntryRepository`: the shared assertions of a Room or a Task, their revisions, and the view
of a scope at an earlier revision. A write takes the next revisions of its scope, and the triggers
of `memory_entries` append every state a row takes to `memory_entry_lifecycle_events`.

The view at a revision is not stored. It joins the events up to it with the rows as they are now.
-/

namespace AgentRoom.Memory

open Results (MemoryId ArtifactId DiscussionId)

/-! ## Rows -/

inductive MemoryScopeKind where
  | room | task
  deriving DecidableEq

/-- `RoomMemoryEntryType` and `TaskMemoryEntryType`. -/
inductive MemoryEntryType where
  | decision | constraint | fact | openQuestion | convention
  | goal | acceptanceCriterion | plan | progress | blocker | result
  deriving DecidableEq

inductive MemoryEntryState where
  | active | superseded | retracted
  deriving DecidableEq

/-- A row of `memory_entries`, and `MemoryEntryRecord`. -/
structure MemoryEntryRecord where
  memoryId : MemoryId
  scopeKind : MemoryScopeKind
  scopeId : Nat
  roomId : RoomId
  taskId : Option TaskId
  type : MemoryEntryType
  content : String
  state : MemoryEntryState
  revision : Nat
  supersedesMemoryId : Option MemoryId
  sourceMessageIds : List MessageId
  sourceArtifactIds : List ArtifactId
  sourceRunIds : List RunId
  sourceDiscussionIds : List DiscussionId
  createdByMemberId : MemberId
  createdAt : Time
  updatedAt : Time

/-- What `create` is given. -/
structure NewMemoryEntry where
  memoryId : MemoryId
  scopeKind : MemoryScopeKind
  scopeId : Nat
  roomId : RoomId
  taskId : Option TaskId
  type : MemoryEntryType
  content : String
  supersedesMemoryId : Option MemoryId
  sourceMessageIds : List MessageId
  sourceArtifactIds : List ArtifactId
  sourceRunIds : List RunId
  sourceDiscussionIds : List DiscussionId
  createdByMemberId : MemberId
  createdAt : Time

/-- The row `create` inserts. -/
def NewMemoryEntry.row (input : NewMemoryEntry) (revision : Nat) : MemoryEntryRecord :=
  { input with state := .active, revision, updatedAt := input.createdAt }

/-- A row of `memory_entry_lifecycle_events`. -/
structure LifecycleEvent where
  memoryId : MemoryId
  scopeKind : MemoryScopeKind
  scopeId : Nat
  revision : Nat
  state : MemoryEntryState
  recordedAt : Time

/-- What the lifecycle triggers record of a row. -/
def MemoryEntryRecord.event (row : MemoryEntryRecord) : LifecycleEvent :=
  { row with recordedAt := row.updatedAt }

/-- A row of `agent_tasks`, as far as memory reads it. -/
structure MemoryTask where
  roomId : RoomId
  longTermMemoryRevision : Nat

/-- **The tables.** -/
structure MemoryDb where
  /-- `rooms.memory_revision`. -/
  rooms : Table RoomId Nat
  tasks : Table TaskId MemoryTask
  entries : Table MemoryId MemoryEntryRecord
  events : List LifecycleEvent

namespace MemoryDb

/-- No Room, and nothing in memory. -/
def blank : MemoryDb := ⟨.empty, .empty, .empty, []⟩

/-- `scopeRevision`, where the scope exists. -/
def scopeRevision (db : MemoryDb) : MemoryScopeKind → Nat → Option Nat
  | .room, scopeId => db.rooms.get scopeId
  | .task, scopeId => (db.tasks.get scopeId).map (·.longTermMemoryRevision)

/-- The scope with another revision. -/
def withRevision (db : MemoryDb) (scopeKind : MemoryScopeKind) (scopeId revision : Nat) :
    MemoryDb :=
  match scopeKind, db.tasks.get scopeId with
  | .room, _ => { db with rooms := db.rooms.put scopeId revision }
  | .task, some task =>
    { db with tasks := db.tasks.put scopeId { task with longTermMemoryRevision := revision } }
  | .task, none => db

end MemoryDb

abbrev MemoryTx (α : Type) := Tx MemoryDb Err α

/-! ## The checks of a row -/

/-- `memory_entries_require_scope_type_insert`. -/
def typeInScope : MemoryScopeKind → MemoryEntryType → Bool
  | .room, type =>
    type ∈ [.decision, .constraint, .fact, .openQuestion, .convention]
  | .task, type =>
    type ∈ [.goal, .acceptanceCriterion, .plan, .progress, .blocker, .decision, .result]

/-- The scope is the Room, or a Task of the Room. -/
def scopeHolds (db : MemoryDb) (row : MemoryEntryRecord) : Bool :=
  (db.rooms.get row.roomId).isSome &&
    match row.scopeKind, row.taskId with
    | .room, none => row.scopeId = row.roomId
    | .task, some taskId =>
      row.scopeId = taskId && (db.tasks.get taskId).any (·.roomId = row.roomId)
    | _, _ => false

/-- `memory_entries_require_supersession_scope_insert`, and the key of the column. -/
def supersedes (db : MemoryDb) (row : MemoryEntryRecord) : Bool :=
  row.supersedesMemoryId.all fun target =>
    (db.entries.get target).any (fun previous => previous.scopeKind = row.scopeKind &&
      previous.scopeId = row.scopeId && previous.state = .active) &&
    db.entries.rows.all (·.supersedesMemoryId ≠ some target)

/-- `UNIQUE (scope_kind, scope_id, revision)`, against the other rows. -/
def revisionFree (db : MemoryDb) (row : MemoryEntryRecord) : Bool :=
  db.entries.rows.all fun other => other.memoryId = row.memoryId ||
    (other.scopeKind, other.scopeId, other.revision) ≠ (row.scopeKind, row.scopeId, row.revision)

/-- What is checked of a new row. -/
def insertable (db : MemoryDb) (row : MemoryEntryRecord) : Bool :=
  (db.entries.get row.memoryId).isNone && trimmedWithin row.content 2000 && 0 < row.revision &&
    scopeHolds db row && typeInScope row.scopeKind row.type && supersedes db row &&
    revisionFree db row

/-- `memory_entries_require_lifecycle_update`, and the key of the new revision. -/
def closable (db : MemoryDb) (old new : MemoryEntryRecord) : Bool :=
  old.state = .active && new.state ≠ .active && old.revision < new.revision &&
    old.updatedAt ≤ new.updatedAt && revisionFree db new

/-- The keys of `memory_entry_lifecycle_events`. -/
def recordable (db : MemoryDb) (event : LifecycleEvent) : Bool :=
  db.events.all fun other =>
    (other.memoryId, other.revision) ≠ (event.memoryId, event.revision) &&
      (other.scopeKind, other.scopeId, other.revision) ≠
        (event.scopeKind, event.scopeId, event.revision)

/-! ## Writing -/

/-- A row is written, and its state with it: `memory_entries_record_lifecycle_insert` and
`memory_entries_record_lifecycle_update`. -/
def writeRow (row : MemoryEntryRecord) : MemoryTx Unit := do
  let db ← get
  Tx.require (recordable db row.event) "UNIQUE constraint failed: memory_entry_lifecycle_events"
  set { db with entries := db.entries.put row.memoryId row, events := db.events ++ [row.event] }

def advanceScope (scopeKind : MemoryScopeKind) (scopeId step : Nat) : MemoryTx Nat := do
  let db ← get
  let revision ← Tx.demand (db.scopeRevision scopeKind scopeId)
    s!"Memory scope not found: {scopeId}"
  set (db.withRevision scopeKind scopeId (revision + step))
  pure (revision + step)

/-- `INSERT INTO memory_entries`. `stores` stands for the formats of the ids and the key of the
member. -/
def insertRow (stores : Bool) (row : MemoryEntryRecord) : MemoryTx Unit := do
  let db ← get
  Tx.require (stores && insertable db row) "constraint failed: memory_entries"
  writeRow row

/-- `UPDATE memory_entries` of an active row that `found` selects: the rows changed. -/
def closeRow (memoryId : MemoryId) (found : MemoryEntryRecord → Bool) (state : MemoryEntryState)
    (revision : Nat) (updatedAt : Time) : MemoryTx Nat := do
  let db ← get
  match (db.entries.get memoryId).filter fun row => found row && row.state = .active with
  | none => pure 0
  | some row =>
    let closed := { row with state, revision, updatedAt }
    Tx.require (closable db row closed) "Memory entry lifecycle must close one active revision"
    writeRow closed
    pure 1

/-- The entry just written, as it is read again. -/
def readBack (memoryId : MemoryId) : MemoryTx MemoryEntryRecord := do
  let db ← get
  Tx.demand (db.entries.get memoryId) s!"Memory entry not found: {memoryId}"

/-- **`create`.** -/
def create (stores : Bool) (input : NewMemoryEntry) : MemoryTx MemoryEntryRecord :=
  Tx.immediate do
    let step := if input.supersedesMemoryId.isSome then 2 else 1
    let revision ← advanceScope input.scopeKind input.scopeId step
    insertRow stores (input.row revision)
    Tx.whenSome input.supersedesMemoryId fun target => do
      let changes ← closeRow target
        (fun row => row.scopeKind = input.scopeKind && row.scopeId = input.scopeId)
        .superseded (revision - 1) input.createdAt
      Tx.require (changes = 1) "Memory supersession target is no longer active"
    readBack input.memoryId

/-- **`retract`.** -/
def retract (memoryId : MemoryId) (now : Time) : MemoryTx MemoryEntryRecord :=
  Tx.immediate do
    let current ← readBack memoryId
    match current.state with
    | .retracted => pure current
    | .superseded => throw "Memory entry is superseded"
    | .active =>
      let revision ← advanceScope current.scopeKind current.scopeId 1
      let _ ← closeRow memoryId (fun _ => true) .retracted revision now
      readBack memoryId

/-! ## Reading a scope at a revision -/

structure MemoryContextScope where
  revision : Nat
  activeComplete : Bool
  entries : List MemoryEntryRecord

def priority (entry : MemoryEntryRecord) : Nat :=
  match entry.type with
  | .constraint | .goal => 0
  | .decision | .acceptanceCriterion => 1
  | .convention | .blocker => 2
  | _ => 3

namespace MemoryDb

/-- The events of a scope up to a revision. -/
def eventsUpTo (db : MemoryDb) (scopeKind : MemoryScopeKind) (scopeId revision : Nat) :
    List LifecycleEvent :=
  db.events.filter fun event =>
    event.scopeKind = scopeKind && event.scopeId = scopeId && event.revision ≤ revision

/-- `latest_events`: the last revision of each entry. -/
def latestEvents (within : List LifecycleEvent) : List (MemoryId × Nat) :=
  (within.map (·.memoryId)).dedup.map fun memoryId =>
    (memoryId, ((within.filter (·.memoryId = memoryId)).map (·.revision)).foldr max 0)

/-- The rows of the join, each with the revision and the state of its event. -/
def rowsAt (db : MemoryDb) (scopeKind : MemoryScopeKind) (scopeId revision : Nat) :
    List MemoryEntryRecord :=
  (latestEvents (db.eventsUpTo scopeKind scopeId revision)).flatMap fun latest =>
    (db.events.filter fun event => event.memoryId = latest.1 && event.revision = latest.2).filterMap
      fun event => (db.entries.get latest.1).map fun entry =>
        { entry with revision := event.revision, state := event.state }

end MemoryDb

/-- The entries of a context: the most important active ones, and the latest closed ones. -/
def contextOf (revision activeLimit tombstoneLimit : Nat) (entries : List MemoryEntryRecord) :
    MemoryContextScope :=
  let active := (entries.filter (·.state = .active)).mergeSort fun left right =>
    priority left < priority right ||
      (priority left = priority right && right.revision ≤ left.revision)
  let inactive := (entries.filter (·.state ≠ .active)).mergeSort fun left right =>
    right.revision ≤ left.revision
  { revision
    activeComplete := active.length ≤ activeLimit
    entries := (active.take activeLimit ++ inactive.take tombstoneLimit).mergeSort
      fun left right => left.revision ≤ right.revision }

/-- **`contextScopeAtRevision`.** -/
def contextScopeAtRevision (db : MemoryDb) (scopeKind : MemoryScopeKind) (scopeId revision : Nat)
    (activeLimit tombstoneLimit : Nat) : Except Err (Option MemoryContextScope) :=
  if !isSafeInteger revision then
    throw "Memory scope revision must be a non-negative integer"
  else if revision = 0 then pure none
  else
    pure (some (contextOf revision activeLimit tombstoneLimit
      (db.rowsAt scopeKind scopeId revision)))

/-- `contextScope`: the scope as it stands. -/
def contextScope (db : MemoryDb) (scopeKind : MemoryScopeKind) (scopeId : Nat)
    (activeLimit tombstoneLimit : Nat) : Except Err (Option MemoryContextScope) :=
  match db.scopeRevision scopeKind scopeId with
  | none => throw s!"Memory scope not found: {scopeId}"
  | some revision =>
    contextScopeAtRevision db scopeKind scopeId revision activeLimit tombstoneLimit

end AgentRoom.Memory
