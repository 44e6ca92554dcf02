import AgentRoom.Lib.System
import AgentRoom.Run.ServiceMoves

/-!
# Central as a system

Every call of the Run services, with any arguments, is one step: the server runs
them one at a time, to the end. Between two calls the environment may change every table
the Run services only read, such as Agents, Rooms and member messages.
-/

namespace AgentRoom

open Tx

/-- A transition another service writes directly: a Discussion, a clarification, a manual or
hosted Run. None of them delivers a Run. -/
structure CentralTransition where
  runId : RunId
  event : StatusEvent
  notDelivered : event.status ≠ .delivered

/-- **The calls.** -/
inductive Op where
  | createRuns (requests : List RunRequest)
  | dispatchRun (clock : Time) (run : RunRecord)
  | dispatch (clock : Time) (runId : RunId)
  | dispatchQueuedForDevice (clock : RunId → Time) (deviceId : DeviceId)
  | accept (principal : DevicePrincipal) (runId : RunId) (traceId : TraceId) (agentId : AgentId)
      (sequence : Nat) (now : Time) (receipts failure : Option Json)
  | applyStatus (principal : DevicePrincipal) (input : StatusInput) (now : Time)
  | applyReply (principal : DevicePrincipal) (input : ReplyInput) (now : Time)
  | applyActivity (principal : DevicePrincipal) (input : ActivityInput) (now : Time)
  | applyOutput (principal : DevicePrincipal) (input : OutputInput) (now : Time)
  | requestCancellation (runId : RunId) (messageId : MessageId) (memberId : MemberId)
      (reason : String) (now ackDeadlineAt : Time)
  | sendCancellation (sentAt : Time) (runId : RunId)
  | sweepCancellations (now sentBefore : Time) (limit : Nat) (deviceId : Option DeviceId)
  | expireQueued (roomId : RoomId) (now : Time)
  | revokeDevice (deviceId : DeviceId) (now : Time)
  | transition (change : CentralTransition) (now : Time)

variable (services : Services) (accepts : DeviceId → BridgeMessage → Bool)

/-- The state a call leaves, whether it returns or throws. -/
def Op.exec : Op → Central → Central
  | .createRuns requests, db => (RunRepository.createRuns services requests db).2
  | .dispatchRun clock run, db => (AgentRoom.dispatchRun services accepts clock run db).2
  | .dispatch clock runId, db => (DeliveryService.dispatch services accepts clock runId db).2
  | .dispatchQueuedForDevice clock deviceId, db =>
    (DeliveryService.dispatchQueuedForDevice services accepts clock deviceId db).2
  | .accept principal runId traceId agentId sequence now receipts failure, db =>
    (DeliveryService.accept principal runId traceId agentId sequence now receipts failure db).2
  | .applyStatus principal input now, db =>
    (BridgeRunEventService.applyStatus services principal input now db).2
  | .applyReply principal input now, db =>
    (BridgeRunEventService.applyReply services principal input now db).2
  | .applyActivity principal input now, db =>
    (BridgeRunEventService.applyActivity services principal input now db).2
  | .applyOutput principal input now, db =>
    (BridgeRunEventService.applyOutput services principal input now db).2
  | .requestCancellation runId messageId memberId reason now ackDeadlineAt, db =>
    (RunRepository.requestCancellation runId messageId memberId reason now ackDeadlineAt db).2
  | .sendCancellation sentAt runId, db => (CancellationService.dispatch accepts sentAt runId db).2
  | .sweepCancellations now sentBefore limit deviceId, db =>
    (CancellationService.sweep accepts now sentBefore limit deviceId db).2
  | .expireQueued roomId now, db => (RunRepository.expireQueued roomId now db).2
  | .revokeDevice deviceId now, db => (DeviceRevocationService.reconcile deviceId now db).2
  | .transition change now, db =>
    (RunRepository.applyEvent change.runId (.status change.event) now db).2

/-- What a call may do, from the state it is made in. -/
def Op.appends (db : Central) : Op → Allows
  | .createRuns _ => .nothing
  | .dispatchRun clock run => DeliveryService.DispatchAppends clock run.runId db
  | .dispatch clock runId => DeliveryService.DispatchAppends clock runId db
  | .dispatchQueuedForDevice _ _ => DeliveryService.AnyQueueExpiry
  | .accept _ runId _ _ _ _ _ _ => DeliveryService.AcceptAppends runId
  | .applyStatus principal input _ => BridgeRunEventService.StatusAppends services principal input
  | .applyReply principal input _ => BridgeRunEventService.ContentAppends principal input.identity
  | .applyActivity principal input _ =>
    BridgeRunEventService.ContentAppends principal input.identity
  | .applyOutput principal input _ =>
    BridgeRunEventService.ContentAppends principal input.identity
  | .requestCancellation runId _ _ _ _ _ => RunRepository.CancelRequestAppends runId
  | .sendCancellation _ _ => .nothing
  | .sweepCancellations now _ limit _ => CancellationService.SweepAppends db now limit
  | .expireQueued roomId now =>
    RunRepository.QueueExpiryAppends (RunRepository.dueQueued db roomId now)
  | .revokeDevice deviceId _ => DeviceRevocationService.RevocationAppends db deviceId
  | .transition change _ =>
    { appends := fun _ id _ event => id = change.runId ∧ event = .status change.event }

variable {db : Central}

/-- **Every call moves by committed writes**, appending only what it may. -/
theorem exec_moves (hk : Keyed db) (op : Op) :
    Relation.ReflTransGen (Move (op.appends services db)) db (op.exec services accepts db) := by
  cases op with
  | createRuns requests => exact RunRepository.createRuns_along _ _ _
  | dispatchRun clock run => exact dispatchRun_along _ _ _ _ hk
  | dispatch clock runId => exact DeliveryService.dispatch_along _ _ _ _ hk
  | dispatchQueuedForDevice clock deviceId =>
    exact DeliveryService.dispatchQueuedForDevice_along _ _ _ _ hk
  | accept principal runId traceId agentId sequence now receipts failure =>
    exact DeliveryService.accept_along _ _ _ _ _ _ _ _ _
  | applyStatus principal input now => exact BridgeRunEventService.applyStatus_along _ hk
  | applyReply principal input now => exact BridgeRunEventService.applyReply_along _ hk
  | applyActivity principal input now => exact BridgeRunEventService.applyActivity_along _ hk
  | applyOutput principal input now => exact BridgeRunEventService.applyOutput_along _ hk
  | requestCancellation runId messageId memberId reason now ackDeadlineAt =>
    exact RunRepository.requestCancellation_along (hk runId)
  | sendCancellation sentAt runId => exact CancellationService.dispatch_along _ _ _ _
  | sweepCancellations now sentBefore limit deviceId =>
    exact CancellationService.sweep_along _ _ _ _ _ hk
  | expireQueued roomId now => exact RunRepository.expireQueued_along hk
  | revokeDevice deviceId now => exact DeviceRevocationService.reconcile_along _ _ _
  | transition change now =>
    exact RunRepository.applyRuntimeEvent_along
      (RunRepository.status_admissible change.notDelivered) fun _ _ _ _ => ⟨rfl, rfl⟩

/-- A step of the system: a call, with the sockets open at that time, or the environment. -/
inductive Label where
  | call (accepts : DeviceId → BridgeMessage → Bool) (op : Op)
  | environment

/-- **Central and its environment.** A run starts with no Run recorded; Agents, Rooms and messages
may already be there. -/
def central : System Central Label where
  init db := db.runs = .empty ∧ db.runEvents = [] ∧ db.cancellationIntents = .empty ∧
    db.deliveries = .empty ∧ db.emitted = []
  step label db db' := match label with
    | .call accepts op => db' = op.exec services accepts db
    | .environment => SideOnly db db'

/-- What a step may do. -/
def Label.appends (db : Central) : Label → Allows
  | .call _ op => op.appends services db
  | .environment => .nothing

variable {services} {db' : Central}

theorem step_moves {label : Label} (hk : Keyed db) (h : (central services).step label db db') :
    Relation.ReflTransGen (Move (label.appends services db)) db db' := by
  cases label with
  | call accepts op =>
    obtain rfl : db' = op.exec services accepts db := h
    exact exec_moves services accepts hk op
  | environment => exact .single (.side h)

theorem step_preserves {I : Central → Prop} (hI : ∀ K a b, Move K a b → I a → I b) {label : Label}
    (hk : Keyed db) (h : (central services).step label db db') (hdb : I db) : I db' := by
  have hm := step_moves hk h
  clear h
  induction hm with
  | refl => exact hdb
  | tail _ hlast ih => exact hI _ _ _ hlast ih

theorem keyed_reachable (h : (central services).Reachable db) : Keyed db := by
  refine System.invariant Keyed ?_ ?_ h
  · rintro db ⟨hruns, -⟩ id run hget
    rw [hruns] at hget
    cases hget
  · intro label a b hs ha
    exact step_preserves (fun _ _ _ => keyed_move) ha hs ha

/-- An invariant of the committed writes, true of an empty database, holds in every reachable
state. -/
theorem central_invariant {I : Central → Prop} (h0 : ∀ db, (central services).init db → I db)
    (hI : ∀ K a b, Move K a b → I a → I b) (h : (central services).Reachable db) : I db := by
  have hboth : Keyed db ∧ I db := by
    refine System.invariant (fun db => Keyed db ∧ I db)
      (fun db hi => ⟨keyed_reachable (System.reachable_init hi), h0 db hi⟩) ?_ h
    rintro label a b hs ⟨hka, hia⟩
    exact ⟨step_preserves (fun _ _ _ => keyed_move) hka hs hka, step_preserves hI hka hs hia⟩
  exact hboth.2

/-- A preorder that every committed write respects relates every reachable state to every later
one. -/
theorem central_run {R : Central → Central → Prop} (hrefl : ∀ a, R a a)
    (htrans : ∀ a b c, R a b → R b c → R a c) (hR : ∀ K a b, Move K a b → R a b)
    (h : (central services).Reachable db) (hs : (central services).Steps db db') : R db db' := by
  refine System.along_run hrefl htrans ?_ h hs
  intro label a b ha hstep
  have hm := step_moves (keyed_reachable ha) hstep
  clear hstep
  induction hm with
  | refl => exact hrefl a
  | tail _ hlast ih => exact htrans _ _ _ ih (hR _ _ _ hlast)

/-! ## Histories -/

/-- The state after a list of calls, each made with the sockets open at that time. -/
def Central.after (services : Services) (calls : List ((DeviceId → BridgeMessage → Bool) × Op))
    (db : Central) : Central :=
  calls.foldl (fun db call => call.2.exec services call.1 db) db

theorem steps_after (calls : List ((DeviceId → BridgeMessage → Bool) × Op)) (db : Central) :
    (central services).Steps db (db.after services calls) := by
  induction calls generalizing db with
  | nil => exact .refl
  | cons call calls ih =>
    have hstep : (central services).Next db (call.2.exec services call.1 db) :=
      ⟨.call call.1 call.2, rfl⟩
    exact .head hstep (ih _)

theorem reachable_after (h : (central services).init db)
    (calls : List ((DeviceId → BridgeMessage → Bool) × Op)) :
    (central services).Reachable (db.after services calls) :=
  ⟨db, h, steps_after calls db⟩

/-- Services that plan no context and redact nothing. -/
def plainServices : Services where
  buildContextManifest _ _ := .ok ""
  redactSensitiveText text := text
  plan _ _ _ := .ok
    { contextPlan := { roomMemory := "", taskMemory := "", resultEvidence := none }
      roomContextBundle := none, contextMessages := [] }
  supplementalEvidenceOffer _ _ _ := none
  hashPayload _ := ""
  localeLe _ _ := true

/-- One Team with one managed Agent on Device 1 and one Room with a trigger message. -/
def oneAgent : Central :=
  { Central.initial with
    agents := Table.empty.put 1
      { agentId := 1, teamId := 1, ownerMemberId := 1, deviceId := some 1, name := "agent"
        integrationMode := .managed
        capabilities :=
          { supportsInterrupt := true, supportsRoomContextCoverage := false
            supportsArtifactMaterialization := false
            supportsDiscussionSupplementalEvidence := false }
        readOnly := true, runtimeScopeId := none, enabled := true, presence := .ready
        createdAt := 0 }
    rooms := Table.empty.put 1
      { roomId := 1, nextMessageSequence := 1, allowAgentMentions := false, roomAgents := [1] }
    messages := Table.empty.put 1
      { messageId := 1, traceId := 1, roomId := 1, taskId := 1, sequence := 1
        senderType := .member, senderId := 1, content := "do it", parentMessageId := none
        createdAt := 0 }
    nextId := 100 }

theorem oneAgent_init (services : Services) : (central services).init oneAgent :=
  ⟨rfl, rfl, rfl, rfl, rfl⟩

/-- A request for a Run of the one Agent, due at `deadlineAt`. -/
def plainRequest (runId : RunId) (deadlineAt : Time) : RunRequest where
  runId := runId
  traceId := 1
  roomId := 1
  taskId := 1
  triggerMessageId := 1
  requesterMemberId := 1
  targetAgentId := 1
  instruction := "do it"
  deadlineAt := deadlineAt
  createdAt := runId

/-- The Device of the one Agent. -/
def plainDevice : DevicePrincipal where
  deviceId := 1
  ownerMemberId := 1
  teamId := 1

def plainIdentity (runId : RunId) : ReportIdentity where
  runId := runId
  traceId := 1
  agentId := 1

/-- Every socket takes every message. -/
def online : DeviceId → BridgeMessage → Bool := fun _ _ => true

end AgentRoom
