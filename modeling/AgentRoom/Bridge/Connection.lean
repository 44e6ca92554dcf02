import AgentRoom.Lib.System
import AgentRoom.Bridge.Handler

/-!
# The Bridge process

A connection is dialled only after a recovery of the whole inbox. While it is open
a reader takes the messages one at a time: it starts a worker for each Run it is
asked to run, unless that Run has one, and handles each cancellation itself. When
the connection ends the workers are awaited before the next recovery. A crash stops
everything at once; only the data directory survives.

Operations of different programs interleave freely. `started`, `fenced`, `sent` and
`found` are histories no code reads.

A run is played with an inbox that never fails and with everything outside answering as `answers`
says.
-/

namespace AgentRoom.Bridge

structure Worker where
  request : RunRequest
  program : Prog Unit

/-- What the Bridge process is doing. -/
inductive Phase where
  | down
  | recovering (program : Prog Unit)
  | recovered
  | online
  | draining

/-- What the programs act on: the data directory, and what they did. -/
structure Desk where
  inbox : Inbox
  /-- The Runs whose adapter was started, once for each start. -/
  started : List String
  /-- The Runs that were admitted while their tombstone was there. -/
  fenced : List String
  /-- What was handed to the connection since the last recovery began. -/
  sent : List Outgoing

/-- **The Bridge.** -/
structure World extends Desk where
  phase : Phase
  workers : Table String Worker
  /-- The cancellation the reader is handling: its Run and the rest of its program. -/
  reader : Option (String × Prog Unit)
  /-- The inbox the last recovery found. -/
  found : Inbox

/-- **What performing an operation can do.** An inbox operation does what it says, or fails before
or after its write; everything else answers as it likes. -/
inductive Performs (config : Config) : (op : Op) → Inbox → op.Resp → Inbox → Prop
  | inbox (op : InboxOp) (i : Inbox) :
      Performs config (.inbox op) i (op.run config i).1 (op.run config i).2
  | failedBefore (op : InboxOp) (i : Inbox) (message : String) :
      Performs config (.inbox op) i (.error (.error message)) i
  | failedAfter (op : InboxOp) (i : Inbox) (message : String) :
      Performs config (.inbox op) i (.error (.error message)) (op.run config i).2
  | outside {op : Op} (h : ∀ o, op ≠ .inbox o) (i : Inbox) (response : op.Resp) :
      Performs config op i response i

/-- The Run an operation starts the adapter of. -/
def Op.starts : Op → List String
  | .startRuntime runId => [runId]
  | _ => []

/-- The Run an operation admits although its tombstone is there. -/
def Op.fences (before after : Inbox) : Op → List String
  | .inbox (.accept request) =>
    if (before.records.get request.runId).isNone ∧ (after.records.get request.runId).isSome ∧
        (before.tombstones.get request.runId).isSome then [request.runId]
    else []
  | _ => []

/-- What an operation handed to the connection. -/
def Op.sends : (op : Op) → op.Resp → List Outgoing
  | .send value, .ok () => [value]
  | _, _ => []

/-- The desk after an operation was answered and left `inbox`. -/
def Desk.performed (d : Desk) (op : Op) (response : op.Resp) (inbox : Inbox) : Desk where
  inbox := inbox
  started := d.started ++ op.starts
  fenced := d.fenced ++ op.fences d.inbox inbox
  sent := d.sent ++ op.sends response

/-- What the reader does with a cancellation of a Run. -/
def cancellationProgram (config : Config) (active : Bool) (requested : RunCancelRequest) :
    Prog Unit :=
  if active then RuntimeExecutor.stageCancellation requested
  else RuntimeExecutor.replayCanceledRun config requested

inductive Label where
  | dial
  | recoveryOp (op : Op) (response : op.Resp)
  | recoveryEnd
  | connect
  | deliver (request : RunRequest)
  | workerOp (runId : String) (op : Op) (response : op.Resp)
  | workerEnd (runId : String)
  | cancel (requested : RunCancelRequest)
  | readerOp (op : Op) (response : op.Resp)
  | readerEnd
  | disconnect
  | drained
  | crash

/-- The operation a step performs, with its answer. -/
def Label.performed? : Label → Option ((op : Op) × op.Resp)
  | .recoveryOp op response | .workerOp _ op response | .readerOp op response =>
    some ⟨op, response⟩
  | _ => none

/-- The connection is open, or its workers are being awaited. -/
def Phase.serving : Phase → Bool
  | .online | .draining => true
  | .down | .recovering _ | .recovered => false

/-- **One step.** -/
inductive Step (config : Config) (adapters : List String) : Label → World → World → Prop
  | dial {w : World} (down : w.phase = .down) :
      Step config adapters .dial w
        { w with
          phase := .recovering (RuntimeExecutor.recover config true), sent := [], found := w.inbox }
  | recoveryOp {w : World} {op : Op} {k : op.Resp → Prog Unit} {response : op.Resp}
      {inbox : Inbox} (phase : w.phase = .recovering (.call op k))
      (performs : Performs config op w.inbox response inbox) :
      Step config adapters (.recoveryOp op response) w
        { w with
          toDesk := w.toDesk.performed op response inbox, phase := .recovering (k response) }
  | recovered {w : World} (phase : w.phase = .recovering (.ret ())) :
      Step config adapters .recoveryEnd w { w with phase := .recovered }
  | recoveryFailed {w : World} {e : Failure} (phase : w.phase = .recovering (.fail e)) :
      Step config adapters .recoveryEnd w { w with phase := .down }
  | connect {w : World} (phase : w.phase = .recovered) :
      Step config adapters .connect w { w with phase := .online }
  | deliver {w : World} {request : RunRequest} (online : w.phase = .online)
      (reading : w.reader = none) (inactive : w.workers.get request.runId = none) :
      Step config adapters (.deliver request) w
        { w with
          workers := w.workers.put request.runId
            { request, program := Handler.handle config adapters request } }
  | workerOp {w : World} {runId : String} {worker : Worker} {op : Op} {k : op.Resp → Prog Unit}
      {response : op.Resp} {inbox : Inbox} (active : w.workers.get runId = some worker)
      (program : worker.program = .call op k)
      (performs : Performs config op w.inbox response inbox) :
      Step config adapters (.workerOp runId op response) w
        { w with
          toDesk := w.toDesk.performed op response inbox
          workers := w.workers.put runId { worker with program := k response } }
  | workerEnd {w : World} {runId : String} {worker : Worker}
      (active : w.workers.get runId = some worker) (ended : worker.program.ended = true) :
      Step config adapters (.workerEnd runId) w { w with workers := w.workers.remove runId }
  | cancel {w : World} {requested : RunCancelRequest} (online : w.phase = .online)
      (reading : w.reader = none)
      (same : ∀ worker, w.workers.get requested.runId = some worker →
        worker.request.targetAgentId = requested.agentId ∧
          worker.request.traceId = requested.traceId) :
      Step config adapters (.cancel requested) w
        { w with
          reader := some (requested.runId, cancellationProgram config
            (w.workers.get requested.runId).isSome requested) }
  | readerOp {w : World} {runId : String} {op : Op} {k : op.Resp → Prog Unit}
      {response : op.Resp} {inbox : Inbox} (reading : w.reader = some (runId, .call op k))
      (performs : Performs config op w.inbox response inbox) :
      Step config adapters (.readerOp op response) w
        { w with
          toDesk := w.toDesk.performed op response inbox, reader := some (runId, k response) }
  | readerEnd {w : World} {runId : String} (reading : w.reader = some (runId, .ret ())) :
      Step config adapters .readerEnd w { w with reader := none }
  | readerFailed {w : World} {runId : String} {e : Failure}
      (reading : w.reader = some (runId, .fail e)) :
      Step config adapters .readerEnd w { w with reader := none, phase := .draining }
  | disconnect {w : World} (online : w.phase = .online) :
      Step config adapters .disconnect w { w with phase := .draining }
  | drained {w : World} (phase : w.phase = .draining) (idle : w.workers = .empty)
      (reading : w.reader = none) :
      Step config adapters .drained w { w with phase := .down }
  | crash {w : World} :
      Step config adapters .crash w { w with phase := .down, workers := .empty, reader := none }

/-- **The Bridge as a system**, from an empty data directory. -/
def bridge (config : Config) (adapters : List String) : System World Label where
  init w := w.inbox = .empty ∧ w.phase = .down ∧ w.workers = .empty ∧ w.reader = none ∧
    w.started = [] ∧ w.fenced = []
  step := Step config adapters

/-! ## Playing a run -/

/-- What is outside the inbox: an answer for every operation. -/
abbrev Answers := (op : Op) → op.Resp

/-- The answer to an operation, and the inbox it leaves. -/
def respond (config : Config) (answers : Answers) (i : Inbox) : (op : Op) → op.Resp × Inbox
  | .inbox op => op.run config i
  | op => (answers op, i)

/-- What happens next in a played run. -/
inductive Cue where
  | dial | recoveryOp | recoveryEnd | connect
  | deliver (request : RunRequest)
  | workerOp (runId : String)
  | workerEnd (runId : String)
  | cancel (requested : RunCancelRequest)
  | readerOp | readerEnd | disconnect | crash

section Play

variable (config : Config) (adapters : List String) (answers : Answers)

/-- The world after the cue, if it can happen. -/
def World.next? (w : World) : Cue → Option World
  | .dial => match w.phase with
    | .down => some { w with
        phase := .recovering (RuntimeExecutor.recover config true), sent := [], found := w.inbox }
    | _ => none
  | .recoveryOp => match w.phase with
    | .recovering (.call op k) =>
      let (response, inbox) := respond config answers w.inbox op
      some { w with
        toDesk := w.toDesk.performed op response inbox, phase := .recovering (k response) }
    | _ => none
  | .recoveryEnd => match w.phase with
    | .recovering (.ret ()) => some { w with phase := .recovered }
    | _ => none
  | .connect => match w.phase with
    | .recovered => some { w with phase := .online }
    | _ => none
  | .deliver request => match w.phase, w.reader, w.workers.get request.runId with
    | .online, none, none => some { w with
        workers := w.workers.put request.runId
          { request, program := Handler.handle config adapters request } }
    | _, _, _ => none
  | .workerOp runId => match w.workers.get runId with
    | some { request, program := .call op k } =>
      let (response, inbox) := respond config answers w.inbox op
      some { w with
        toDesk := w.toDesk.performed op response inbox
        workers := w.workers.put runId { request, program := k response } }
    | _ => none
  | .workerEnd runId => match w.workers.get runId with
    | some worker =>
      if worker.program.ended then some { w with workers := w.workers.remove runId } else none
    | none => none
  | .cancel requested => match w.phase, w.reader, w.workers.get requested.runId with
    | .online, none, none => some { w with
        reader := some (requested.runId, cancellationProgram config false requested) }
    | _, _, _ => none
  | .readerOp => match w.reader with
    | some (runId, .call op k) =>
      let (response, inbox) := respond config answers w.inbox op
      some { w with
        toDesk := w.toDesk.performed op response inbox, reader := some (runId, k response) }
    | _ => none
  | .readerEnd => match w.reader with
    | some (_, .ret ()) => some { w with reader := none }
    | _ => none
  | .disconnect => match w.phase with
    | .online => some { w with phase := .draining }
    | _ => none
  | .crash => some { w with phase := .down, workers := .empty, reader := none }

/-- The world after all cues. -/
def World.play (w : World) : List Cue → Option World
  | [] => some w
  | cue :: cues => (w.next? config adapters answers cue).bind fun w => w.play cues

theorem performs_respond (i : Inbox) (op : Op) :
    Performs config op i (respond config answers i op).1 (respond config answers i op).2 := by
  cases op with
  | inbox op => exact .inbox op i
  | send _ | prepare _ | resolveArtifacts _ | explicitCancel _ | acquire _ | startRuntime _
  | runtimeEvent _ _ _ | runtimeReturn _ => exact .outside (fun _ h => by cases h) i _

variable {w w' : World}

/-- A cue is a step, answered as the played run answers. -/
theorem World.next?_step {cue : Cue} (h : w.next? config adapters answers cue = some w') :
    ∃ label, Step config adapters label w w' ∧
      ∀ op response, label.performed? = some ⟨op, response⟩ →
        (respond config answers w.inbox op).1 = response := by
  have hperforms := performs_respond config answers w.inbox
  cases cue with
  | dial =>
    simp only [World.next?] at h
    split at h
    · cases h
      exact ⟨.dial, .dial ‹_›, fun _ _ heq => by simp [Label.performed?] at heq⟩
    · cases h
  | recoveryOp =>
    simp only [World.next?] at h
    split at h
    · cases h
      refine ⟨.recoveryOp _ _, .recoveryOp ‹_› (hperforms _), fun op response heq => ?_⟩
      cases heq
      rfl
    · cases h
  | recoveryEnd =>
    simp only [World.next?] at h
    split at h
    · cases h
      exact ⟨.recoveryEnd, .recovered ‹_›, fun _ _ heq => by simp [Label.performed?] at heq⟩
    · cases h
  | connect =>
    simp only [World.next?] at h
    split at h
    · cases h
      exact ⟨.connect, .connect ‹_›, fun _ _ heq => by simp [Label.performed?] at heq⟩
    · cases h
  | deliver request =>
    simp only [World.next?] at h
    split at h
    · cases h
      exact ⟨.deliver request, .deliver ‹_› ‹_› ‹_›,
        fun _ _ heq => by simp [Label.performed?] at heq⟩
    · cases h
  | workerOp runId =>
    simp only [World.next?] at h
    split at h
    · cases h
      refine ⟨.workerOp runId _ _, .workerOp ‹_› rfl (hperforms _), fun op response heq => ?_⟩
      cases heq
      rfl
    · cases h
  | workerEnd runId =>
    simp only [World.next?] at h
    split at h
    · split at h
      · cases h
        exact ⟨.workerEnd runId, .workerEnd ‹_› ‹_›,
          fun _ _ heq => by simp [Label.performed?] at heq⟩
      · cases h
    · cases h
  | cancel requested =>
    simp only [World.next?] at h
    split at h
    · rename_i honline hreader hworker
      cases h
      refine ⟨.cancel requested, ?_, fun _ _ heq => by simp [Label.performed?] at heq⟩
      -- no worker has the Run: the workers stay as they are
      have hstep : Step config adapters (.cancel requested) w _ := .cancel honline hreader
        fun worker hget => by
          rw [hworker] at hget
          cases hget
      rw [hworker] at hstep
      exact hstep
    · cases h
  | readerOp =>
    simp only [World.next?] at h
    split at h
    · cases h
      refine ⟨.readerOp _ _, .readerOp ‹_› (hperforms _), fun op response heq => ?_⟩
      cases heq
      rfl
    · cases h
  | readerEnd =>
    simp only [World.next?] at h
    split at h
    · cases h
      exact ⟨.readerEnd, .readerEnd ‹_›, fun _ _ heq => by simp [Label.performed?] at heq⟩
    · cases h
  | disconnect =>
    simp only [World.next?] at h
    split at h
    · cases h
      exact ⟨.disconnect, .disconnect ‹_›, fun _ _ heq => by simp [Label.performed?] at heq⟩
    · cases h
  | crash =>
    cases h
    exact ⟨.crash, .crash, fun _ _ heq => by simp [Label.performed?] at heq⟩

/-- **A played run is a run**, of every restriction its answers meet. -/
theorem World.play_restrict {ok : Label → World → Prop}
    (hok : ∀ label w, (∀ op response, label.performed? = some ⟨op, response⟩ →
      (respond config answers w.inbox op).1 = response) → ok label w) {cues : List Cue}
    (h : w.play config adapters answers cues = some w') :
    ((bridge config adapters).restrict ok).Steps w w' := by
  induction cues generalizing w with
  | nil =>
    cases h
    exact .refl
  | cons cue cues ih =>
    obtain ⟨w₁, hnext, hrest⟩ := Option.bind_eq_some_iff.mp h
    obtain ⟨label, hstep, hanswers⟩ := World.next?_step config adapters answers hnext
    exact .head ⟨label, hok label w hanswers, hstep⟩ (ih hrest)

theorem World.play_steps {cues : List Cue} (h : w.play config adapters answers cues = some w') :
    (bridge config adapters).Steps w w' := by
  have hany : ((bridge config adapters).restrict fun _ _ => True).Steps w w' :=
    World.play_restrict config adapters answers (fun _ _ _ => trivial) h
  exact System.steps_of_restrict hany

end Play

/-- A Bridge over an empty data directory. -/
def World.blank : World where
  inbox := .empty
  started := []
  fenced := []
  sent := []
  phase := .down
  workers := .empty
  reader := none
  found := .empty

/-- Nothing is hashed or redacted. -/
def plainConfig : Config where
  hashPayload request := request.body
  redactRuntimeText _ text := text
  shareReasoningSummaries := false

/-- All goes well, and the adapter emits `count` times the event. -/
def emitting (count : Nat) (event : RuntimeEvent) : Answers
  | .inbox _ => .error .notExist
  | .send _ => .ok ()
  | .prepare _ => .ok []
  | .resolveArtifacts _ => .ok []
  | .explicitCancel _ => false
  | .acquire _ => true
  | .startRuntime _ => count
  | .runtimeEvent .. => event
  | .runtimeReturn _ => none

def sampleRequest : RunRequest where
  runId := "run_00000001"
  traceId := "trace_00000001"
  targetAgentId := "agent_00000001"
  idempotencyKey := "key"

def sampleCancel : RunCancelRequest where
  protocolVersion := "1.0"
  messageId := "message"
  runId := sampleRequest.runId
  traceId := sampleRequest.traceId
  agentId := sampleRequest.targetAgentId
  reason := ""

/-- From an empty data directory to an open connection. -/
def connecting : List Cue := [.dial, .recoveryOp, .recoveryEnd, .connect]

/-- The sample Run is delivered, and its worker goes on for `n` operations. -/
def delivering (n : Nat) : List Cue :=
  .deliver sampleRequest :: List.replicate n (.workerOp sampleRequest.runId)

theorem World.blank_reachable (config : Config) (adapters : List String) :
    (bridge config adapters).Reachable .blank :=
  System.reachable_init ⟨rfl, rfl, rfl, rfl, rfl, rfl⟩

end AgentRoom.Bridge
