import AgentRoom.Run.BridgeEvents

/-!
# What a program does to Runs

Every program over Central's database changes Runs, event logs, cancellation
intents and deliveries by seven kinds of committed write. `Move K` lists them
once; `K` says which events a program may append and whether it may send work to
a Bridge. The invariants are proved of `Move`, and each service function is shown
to move along it.
-/

namespace AgentRoom

open Tx

/-- The tables no projection of an event touches. -/
structure SideOnly (db db' : Central) : Prop where
  runs : db'.runs = db.runs
  runEvents : db'.runEvents = db.runEvents
  intents : db'.cancellationIntents = db.cancellationIntents
  deliveries : db'.deliveries = db.deliveries
  emitted : db'.emitted = db.emitted

namespace SideOnly

theorem refl (db : Central) : SideOnly db db := ⟨rfl, rfl, rfl, rfl, rfl⟩

theorem trans {a b c : Central} (h₁ : SideOnly a b) (h₂ : SideOnly b c) : SideOnly a c :=
  ⟨h₂.runs.trans h₁.runs, h₂.runEvents.trans h₁.runEvents, h₂.intents.trans h₁.intents,
    h₂.deliveries.trans h₁.deliveries, h₂.emitted.trans h₁.emitted⟩

theorem of_along {α : Type} {x : Db α} {db : Central} (h : Along SideOnly x db) :
    SideOnly db (x db).2 :=
  h.related refl (fun _ _ _ => trans) (fun _ _ hab => hab)

end SideOnly

/-- A status event delivers a Run only as the first event of its log. -/
def RuntimeEvent.Admissible (event : RuntimeEvent) : Prop :=
  ∀ e, event = .status e → e.status = .delivered → e.sequence = 1

/-- **Appending one event** to the log of Run `id`, with everything that is written with it. -/
structure Appended (id : RunId) (run : RunRecord) (event : RuntimeEvent) (now : Time)
    (db db' : Central) : Prop where
  get : db.runs.get id = some run
  live : run.state.terminal = false
  next : event.sequence = run.lastSequence + 1
  runs : db'.runs = db.runs.put id (run.advanced event now)
  log : db'.runEvents =
    db.runEvents ++ [{ runId := id, traceId := run.traceId, event, createdAt := now }]
  intents : db'.cancellationIntents =
    if (event.nextState run.state).terminal then
      RunRepository.resolved db.cancellationIntents id (event.nextState run.state) now
    else db.cancellationIntents
  deliveries : db'.deliveries = db.deliveries
  emitted : db'.emitted = db.emitted

/-- What a program may do: the events it may append, and whether it may send `run.requested`. -/
structure Allows where
  appends : Central → RunId → RunRecord → RuntimeEvent → Prop
  sends : Prop := False

instance : CoeFun Allows fun _ => Central → RunId → RunRecord → RuntimeEvent → Prop :=
  ⟨Allows.appends⟩

def Allows.nothing : Allows where
  appends _ _ _ _ := False

/-- The message asks a Bridge to start a Run. -/
def BridgeMessage.isWork : BridgeMessage → Bool
  | .runRequested _ => true
  | .runCancelRequested .. => false

/-- **The committed writes.** -/
inductive Move (K : Allows) : Central → Central → Prop
  | append {db db' : Central} {id : RunId} {run : RunRecord} {event : RuntimeEvent} {now : Time}
      (h : Appended id run event now db db') (adm : event.Admissible)
      (allowed : K db id run event) : Move K db db'
  | openIntent {db : Central} {id : RunId} {run : RunRecord} {intent : RunCancellationIntent}
      (get : db.runs.get id = some run) (live : run.state.terminal = false)
      (first : db.cancellationIntents.get id = none) (key : intent.runId = id)
      (pending : intent.state = .pending) (status : intent.terminalStatus = none) :
      Move K db { db with cancellationIntents := db.cancellationIntents.put id intent }
  | settleIntent {db : Central} {id : RunId} {run : RunRecord} {now : Time}
      (get : db.runs.get id = some run) (ended : run.state.terminal = true) :
      Move K db { db with
        cancellationIntents :=
          RunRepository.resolved db.cancellationIntents id run.state now }
  | touchIntent {db : Central} {id : RunId} {intent : RunCancellationIntent} {now : Time}
      (get : db.cancellationIntents.get id = some intent) (pending : intent.state = .pending) :
      Move K db { db with
        cancellationIntents := db.cancellationIntents.put id
          { intent with sendCount := intent.sendCount + 1, lastSentAt := some now } }
  | createRun {db : Central} {id : RunId} {run : RunRecord}
      (fresh : db.runs.get id = none) (key : run.runId = id) (state : run.state = .queued)
      (sequence : run.lastSequence = 0) (terminalAt : run.terminalAt = none) :
      Move K db { db with runs := db.runs.put id run }
  | deliver {db : Central} {id : RunId} {delivery : DeliveryRecord}
      (known : db.deliveries.get id = none → ∃ run, db.runs.get id = some run) :
      Move K db { db with deliveries := db.deliveries.put id delivery }
  | send {db : Central} {entry : Emission}
      (stored : entry.storedState = (db.runs.get entry.runId).map (·.state))
      (allowed : entry.message.isWork = true → K.sends) :
      Move K db { db with emitted := db.emitted ++ [entry] }
  | side {db db' : Central} (h : SideOnly db db') : Move K db db'

variable {K : Allows} {db db' : Central}

theorem Move.mono {K' : Allows} (hK : ∀ db id run event, K db id run event → K' db id run event)
    (hsends : K.sends → K'.sends) (h : Move K db db') : Move K' db db' := by
  cases h with
  | append h adm allowed => exact .append h adm (hK _ _ _ _ allowed)
  | openIntent get live first key pending status =>
    exact .openIntent get live first key pending status
  | settleIntent get ended => exact .settleIntent get ended
  | touchIntent get pending => exact .touchIntent get pending
  | createRun fresh key state sequence terminalAt =>
    exact .createRun fresh key state sequence terminalAt
  | deliver known => exact .deliver known
  | send stored allowed => exact .send stored fun hw => hsends (allowed hw)
  | side h => exact .side h

theorem moves_allow {K' : Allows} (h : Relation.ReflTransGen (Move K) db db')
    (hK : ∀ db id run event, K db id run event → K' db id run event) (hsends : K.sends → K'.sends) :
    Relation.ReflTransGen (Move K') db db' :=
  Relation.ReflTransGen.mono (fun _ _ hm => hm.mono hK hsends) _ _ h

/-- Every Run row is stored under its own identifier. -/
def Keyed (db : Central) : Prop := ∀ id run, db.runs.get id = some run → run.runId = id

theorem keyed_move (h : Move K db db') (hk : Keyed db) : Keyed db' := by
  intro id run hget
  cases h with
  | append h adm allowed =>
    rename_i id₀ run₀ event now
    rw [h.runs, Table.get_put] at hget
    split at hget
    · next heq =>
        subst heq
        obtain rfl := Option.some.inj hget
        exact hk id run₀ h.get
    · exact hk id run hget
  | createRun fresh key state sequence terminalAt =>
    rw [Table.get_put] at hget
    split at hget
    · next heq =>
        subst heq
        obtain rfl := Option.some.inj hget
        exact key
    · exact hk id run hget
  | openIntent get live first key pending status => exact hk id run hget
  | settleIntent get ended => exact hk id run hget
  | touchIntent get pending => exact hk id run hget
  | deliver known => exact hk id run hget
  | send stored allowed => exact hk id run hget
  | side h => exact hk id run (h.runs ▸ hget)

/-! ## Writes on the side -/

namespace RunRepository

theorem createOpaqueId_side (db : Central) : Along SideOnly createOpaqueId db :=
  .single ⟨rfl, rfl, rfl, rfl, rfl⟩

theorem nextMessageSequence_side (roomId : RoomId) (db : Central) :
    Along SideOnly (nextMessageSequence roomId) db := by
  refine along_bind_get ?_
  cases db.rooms.get roomId with
  | none => exact along_throw _
  | some room => exact .single ⟨rfl, rfl, rfl, rfl, rfl⟩

theorem insertAgentMessage_side (run : RunRecord) (messageId sequence : Nat) (content : String)
    (createdAt : Time) (db : Central) :
    Along SideOnly (insertAgentMessage run messageId sequence content createdAt) db :=
  along_modify ⟨rfl, rfl, rfl, rfl, rfl⟩

theorem openClarification_side (current : RunRecord) (event : StatusEvent)
    (clarification : TaskClarificationRequest) (now : Time) (db : Central) :
    Along SideOnly (openClarification current event clarification now) db := by
  unfold openClarification
  split
  · exact along_throw _
  · refine along_bind_get ?_
    split
    · exact along_throw _
    · refine along_bind (createOpaqueId_side _) fun questionMessageId db₁ _ => ?_
      refine along_bind (createOpaqueId_side _) fun clarificationId db₂ _ => ?_
      refine along_bind (nextMessageSequence_side _ _) fun sequence db₃ _ => ?_
      refine along_bind (insertAgentMessage_side _ _ _ _ _ _) fun _ db₄ _ => ?_
      exact along_modify ⟨rfl, rfl, rfl, rfl, rfl⟩

theorem advanceTaskCursor_side (taskId : TaskId) (cursor : Nat) (db : Central) :
    Along SideOnly (advanceTaskCursor taskId cursor) db := by
  refine along_modify ?_
  split
  · exact SideOnly.refl db
  · exact ⟨rfl, rfl, rfl, rfl, rfl⟩

theorem projectEvent_side (current : RunRecord) (event : RuntimeEvent) (now : Time)
    (db : Central) : SideOnly db (projectEvent current event now db).2 := by
  refine SideOnly.of_along ?_
  cases event with
  | status e =>
    refine along_bind (along_whenSome fun c _ => ?_) fun _ db₁ _ => ?_
    · exact openClarification_side _ _ _ _ _
    · exact along_whenSome fun session _ => advanceTaskCursor_side _ _ _
  | reply e => exact along_modify ⟨rfl, rfl, rfl, rfl, rfl⟩
  | activity e => exact along_pure ()
  | output e => exact along_pure ()

theorem projectReplyMessage_side (run : RunRecord) (event : ReplyEvent) (now : Time)
    (db : Central) : Along SideOnly (projectReplyMessage run event now) db := by
  refine along_bind (createOpaqueId_side _) fun messageId db₁ _ => ?_
  refine along_bind (nextMessageSequence_side _ _) fun sequence db₂ _ => ?_
  refine along_bind (insertAgentMessage_side _ _ _ _ _ _) fun _ db₃ _ => ?_
  exact along_modify ⟨rfl, rfl, rfl, rfl, rfl⟩

/-! ## The single writer -/

theorem getRun_bind {α : Type} (id : RunId) (f : Option RunRecord → Db α) (db : Central) :
    (getRun id >>= f) db = f (db.runs.get id) db := rfl

theorem getCancellationIntent_bind {α : Type} (id : RunId)
    (f : Option RunCancellationIntent → Db α) (db : Central) :
    (getCancellationIntent id >>= f) db = f (db.cancellationIntents.get id) db := rfl

/-- The writes of an event that passed the guards append it, or throw on the way. -/
theorem commitRuntimeEvent_cases {id : RunId} {run : RunRecord} {event : RuntimeEvent}
    (now : Time) {db : Central} (hget : db.runs.get id = some run)
    (hlive : run.state.terminal = false) (hnext : event.sequence = run.lastSequence + 1) :
    (∃ e db', commitRuntimeEvent id run event now db = (.error e, db')) ∨
    (∃ db', Appended id run event now db db' ∧
      commitRuntimeEvent id run event now db =
        (.ok { applied := true, run := run.advanced event now }, db')) := by
  unfold commitRuntimeEvent insertRunEvent
  simp only [modify_bind]
  generalize hlog : ({ db with runEvents := _ } : Central) = db₁
  have hside := projectEvent_side run event now db₁
  rcases hp : projectEvent run event now db₁ with ⟨e | u, db₂⟩
  · left
    exact ⟨e, db₂, bind_error hp⟩
  · right
    rw [hp] at hside
    rw [bind_ok hp]
    simp only [modify_bind]
    have hlog₂ : db₂.runEvents = db.runEvents ++
        [{ runId := id, traceId := run.traceId, event, createdAt := now }] := by
      rw [hside.runEvents, ← hlog]
    have hruns : db₂.runs = db.runs := by rw [hside.runs, ← hlog]
    have hints : db₂.cancellationIntents = db.cancellationIntents := by
      rw [hside.intents, ← hlog]
    have hdel : db₂.deliveries = db.deliveries := by rw [hside.deliveries, ← hlog]
    have hem : db₂.emitted = db.emitted := by rw [hside.emitted, ← hlog]
    refine ⟨{ db₂ with
        runs := db₂.runs.put id (run.advanced event now)
        cancellationIntents := if (event.nextState run.state).terminal then
          resolved db₂.cancellationIntents id (event.nextState run.state) now
          else db₂.cancellationIntents },
      ⟨hget, hlive, hnext, by rw [hruns], hlog₂, by rw [hints], hdel, hem⟩, ?_⟩
    unfold resolveCancellationIntent when
    split <;>
      simp only [modify_bind, pure_bind_apply, getRun_bind, Table.get_put_self, pure_apply]

/-- **What `applyRuntimeEvent` does.** It throws and writes nothing, or finds the event stale
and writes nothing, or appends it. -/
theorem applyRuntimeEvent_cases (id : RunId) (event : RuntimeEvent) (now : Time) (db : Central) :
    (∃ e, applyRuntimeEvent id event now db = (.error e, db)) ∨
    (∃ run, db.runs.get id = some run ∧
      (event.sequence ≤ run.lastSequence ∨ run.state.terminal = true) ∧
      applyRuntimeEvent id event now db = (.ok { applied := false, run }, db)) ∨
    (∃ run db', Appended id run event now db db' ∧
      applyRuntimeEvent id event now db =
        (.ok { applied := true, run := run.advanced event now }, db')) := by
  unfold applyRuntimeEvent immediate
  simp only [getRun_bind]
  cases hget : db.runs.get id with
  | none => exact .inl ⟨_, rfl⟩
  | some run =>
    by_cases hstale : event.sequence ≤ run.lastSequence ∨ run.state.terminal = true
    · simp only [if_pos hstale, pure_apply]
      exact .inr (.inl ⟨run, rfl, hstale, rfl⟩)
    by_cases hgap : event.sequence ≠ run.lastSequence + 1
    · simp only [if_neg hstale, if_pos hgap, throw_apply]
      exact .inl ⟨_, rfl⟩
    simp only [if_neg hstale, if_neg hgap]
    have hlive : run.state.terminal = false := by
      simpa using fun h => hstale (.inr h)
    rcases commitRuntimeEvent_cases now hget hlive (not_not.mp hgap) with
      ⟨e, db', h⟩ | ⟨db', happ, h⟩
    · exact .inl ⟨e, by rw [h]⟩
    · exact .inr (.inr ⟨run, db', happ, by rw [h]⟩)

end RunRepository

end AgentRoom
