import AgentRoom.Context.RollingLaw

/-!
# Sweeping the Rooms

`MemoryReducerScheduler.sweep` over the Rooms of a server. A sweep selects Rooms, then drains them
one after the other. While a Room's reducer runs, anything may happen to the Rooms: messages arrive,
other workers lease, commit and fail, a Room is disabled.

Times are milliseconds. Room ids are numbers, in the order of the ids.
-/

namespace AgentRoom.Memory

open Context

/-- A Room's log, its rolling memory and `updated_at` of its row. -/
structure ReducerRoom where
  roomId : RoomId
  log : RoomLog
  world : RollingWorld
  updatedAt : Time

namespace ReducerRoom

def state (room : ReducerRoom) : RollingRoomState := room.world.memory.state

/-- `rooms_create_rolling_room_state`, or its migration of a Room with messages. -/
def create (roomId : RoomId) (log : RoomLog) (createdAt : Time) : ReducerRoom where
  roomId
  log
  world := ⟨RollingMemory.initial.advanceDesired log.latestMessageSequence, []⟩
  updatedAt := createdAt

/-- A message arrives. -/
def message (room : ReducerRoom) (message : MessageRecord) : ReducerRoom :=
  if fresh : message.messageId ∉ room.log.messages.map (·.messageId) then
    { room with
      log := room.log.append message fresh
      world := room.world.after (.message (room.log.latestMessageSequence + 1))
      updatedAt := max room.updatedAt message.createdAt }
  else room

/-- An update that selects the row writes its time. -/
def selects (room : ReducerRoom) : RollingCall → Bool
  | .enable | .disable => true
  | call => (room.world.after call).memory.state ≠ room.state

/-- A call of the repository. -/
def called (room : ReducerRoom) (call : RollingCall) (now : Time) : ReducerRoom :=
  { room with
    world := room.world.after call
    updatedAt := if room.selects call then max room.updatedAt now else room.updatedAt }

/-- What `listPending` and `acquireLease` look for. -/
def isPending (room : ReducerRoom) : Bool :=
  room.state.mode ≠ .disabled &&
    room.state.latestThroughSequence < room.state.desiredThroughSequence

/-- A Room that failed is left alone for a while. -/
def isBackingOff (now : Time) (room : ReducerRoom) : Bool :=
  room.state.mode = .degraded && now < room.updatedAt + 30000

/-- A Room that a sweep may attempt. -/
def isEligible (now : Time) (room : ReducerRoom) : Bool :=
  room.isPending && !room.isBackingOff now

/-- `desired_through_sequence - latest_through_sequence`. -/
def backlog (room : ReducerRoom) : Nat :=
  room.state.desiredThroughSequence - room.state.latestThroughSequence

end ReducerRoom

/-- `ORDER BY` of `listPending`: the greatest backlog first. -/
def listedBefore (a b : ReducerRoom) : Bool :=
  b.backlog < a.backlog || (a.backlog = b.backlog &&
    (a.updatedAt < b.updatedAt || (a.updatedAt = b.updatedAt && a.roomId ≤ b.roomId)))

/-- **`listPending`.** -/
def listPending (rooms : Table RoomId ReducerRoom) (limit : Nat) :
    Except Err (List ReducerRoom) :=
  if limit < 1 ∨ 100 < limit then throw "Rolling Room pending limit must be between 1 and 100"
  else pure (((rooms.rows.filter (·.isPending)).insertionSort (listedBefore · ·)).take limit)

/-! ## Draining a Room -/

/-- What `drainRoom` makes of an error's text. -/
def safeError (text : String) : String :=
  String.ofList ((redactSensitiveText text).toList.take 1000)

/-- `recordFailure`, called with the text of an error. -/
def ReducerRoom.recordFailure (room : ReducerRoom) (generation leaseToken : Nat) (text : String)
    (now : Time) : Except Err ReducerRoom :=
  if isBlank (safeError text) then throw "Rolling Room failure must be bounded"
  else if room.state.Holds generation leaseToken then
    pure (room.called (.recordFailure generation leaseToken) now)
  else throw "Rolling Room failure lost its lease fence"

/-- `drainRoom` up to the reducer. -/
def beginRoom (room : ReducerRoom) (leaseToken : Nat) (now : Time) :
    Except Err (ReducerRoom × Option DrainJob) :=
  match room.world.memory.acquireLease leaseToken now (now + 60000) with
  | none => pure (room, none)
  | some lease =>
    let leased := room.called (.acquireLease leaseToken now (now + 60000)) now
    match planWork room.log lease false with
    | .ok work => pure (leased, some { lease, leaseToken, work })
    | .error text => do
        let failed ← leased.recordFailure lease.generation leaseToken text now
        pure (failed, none)

/-- What the second half of a drain takes from outside. -/
structure SweepAnswer extends DrainAnswer where
  /-- The message of what the reducer threw. -/
  thrown : String

/-- `drainRoom` from the reducer's answer on. -/
def finishRoom (room : ReducerRoom) (job : DrainJob) (answer : SweepAnswer) :
    Except Err ReducerRoom :=
  match commitAnswer room.world.memory job answer.toDrainAnswer with
  | .ok _ =>
    match answer.output with
    | none => pure room
    | some output =>
      pure (room.called (.commitCheckpoint
        (job.checkpoint output answer.checkpointId answer.sourceDigest answer.promptVersion
          answer.createdAt) job.lease.generation job.leaseToken answer.now) answer.now)
  | .error text =>
    room.recordFailure job.lease.generation job.leaseToken
      (if answer.output.isNone then answer.thrown else text) answer.now

/-! ## A sweep -/

/-- **A sweep** and how far it came. -/
structure Sweep where
  limit : Nat
  /-- `states`. -/
  selected : List RoomId
  attempted : List RoomId
  queue : List RoomId
  /-- The Room whose reducer runs. -/
  job : Option (RoomId × DrainJob)
  /-- It threw. -/
  aborted : Bool
  /-- History: the Rooms it might have attempted when it began. -/
  eligible : List RoomId

structure ReducerWorld where
  rooms : Table RoomId ReducerRoom
  sweep : Option Sweep

def ReducerWorld.blank : ReducerWorld := ⟨.empty, none⟩

/-- `sweep` up to its loop. -/
def select (rooms : Table RoomId ReducerRoom) (limit : Nat) (now : Time) :
    Except Err (List ReducerRoom) := do
  let states ← listPending rooms (min 100 (limit * 4))
  pure ((states.filter fun room => !room.isBackingOff now).take limit)

inductive ReducerMove where
  | addRoom (roomId : RoomId) (log : RoomLog) (createdAt : Time)
  | message (roomId : RoomId) (message : MessageRecord)
  /-- Another caller of the repository. -/
  | other (roomId : RoomId) (call : RollingCall) (now : Time)
  | start (limit : Nat) (now : Time)
  | begin (leaseToken : Nat) (now : Time)
  | finish (answer : SweepAnswer)

/-- A change of one Room. -/
def ReducerWorld.onRoom (w : ReducerWorld) (roomId : RoomId) (f : ReducerRoom → ReducerRoom) :
    Table RoomId ReducerRoom :=
  match w.rooms.get roomId with
  | none => w.rooms
  | some room => w.rooms.put roomId (f room)

/-- `sweep` starts, unless one is in flight. -/
def ReducerWorld.start (w : ReducerWorld) (limit : Nat) (now : Time) : Option ReducerWorld :=
  if w.sweep.any fun sweep => !sweep.aborted && (sweep.job.isSome || sweep.queue ≠ []) then none
  else if limit < 1 ∨ 100 < limit then some w
  else
    let rooms := w.rooms.mapRows fun room => room.called .enableAll now
    match select rooms limit now with
    | .error _ => some { w with rooms }
    | .ok states =>
      some
        { rooms
          sweep := some
            { limit, selected := states.map (·.roomId), attempted := []
              queue := states.map (·.roomId), job := none, aborted := false
              eligible := (rooms.rows.filter (·.isEligible now)).map (·.roomId) } }

/-- The loop goes on to the next Room. -/
def ReducerWorld.begin (w : ReducerWorld) (sweep : Sweep) (leaseToken : Nat) (now : Time) :
    Option ReducerWorld :=
  match sweep.queue with
  | [] => none
  | roomId :: queue =>
    let sweep := { sweep with attempted := sweep.attempted ++ [roomId], queue }
    match w.rooms.get roomId with
    | none => some { w with sweep := some sweep }
    | some room =>
      match beginRoom room leaseToken now with
      | .error _ => some { w with sweep := some { sweep with aborted := true } }
      | .ok (room, job) =>
        some
          { rooms := w.rooms.put roomId room
            sweep := some { sweep with job := job.map fun job => (roomId, job) } }

/-- The reducer answers. -/
def ReducerWorld.finish (w : ReducerWorld) (sweep : Sweep) (answer : SweepAnswer) :
    Option ReducerWorld :=
  match sweep.job with
  | none => none
  | some (roomId, job) =>
    let sweep := { sweep with job := none }
    match w.rooms.get roomId with
    | none => some { w with sweep := some { sweep with aborted := true } }
    | some room =>
      match finishRoom room job answer with
      | .error _ => some { w with sweep := some { sweep with aborted := true } }
      | .ok room => some { rooms := w.rooms.put roomId room, sweep := some sweep }

/-- The world after a move, where it can be made. -/
def ReducerWorld.after (w : ReducerWorld) : ReducerMove → Option ReducerWorld
  | .addRoom roomId log createdAt =>
    if (w.rooms.get roomId).isSome then none
    else some { w with rooms := w.rooms.put roomId (.create roomId log createdAt) }
  | .message roomId message => some { w with rooms := w.onRoom roomId (·.message message) }
  | .other roomId call now => some { w with rooms := w.onRoom roomId (·.called call now) }
  | .start limit now => w.start limit now
  | .begin leaseToken now =>
    (w.sweep.filter fun sweep => !sweep.aborted && sweep.job.isNone).bind
      (w.begin · leaseToken now)
  | .finish answer => (w.sweep.filter (!·.aborted)).bind (w.finish · answer)

/-- Other callers do not move the watermark: messages do. -/
def ReducerMove.Admissible : ReducerMove → Prop
  | .other _ (.message _) _ => False
  | .other _ call _ => call.Drained
  | _ => True

/-- **The runs of the scheduler.** -/
def reducer : System ReducerWorld ReducerMove where
  init w := w = .blank
  step move w w' := move.Admissible ∧ w.after move = some w'

end AgentRoom.Memory
