import AgentRoom.Hosted.Discipline
import AgentRoom.Hosted.Recovery

/-!
# The hosted system

The database, the scheduler's memory while the server runs, and the provider requests sent
so far. Between two operations of one program any other program, any other service and a
crash may come; after a crash the memory is gone and the server starts again with
`recover`. A drain runs in one go, as it does in the source: it starts a Run only if the
memory has no program for it.

The scheduler asks for a drain in many places (`enqueue`, the end of a Run, `recover`).
Here one may come at any time.
-/

namespace AgentRoom.Hosted

open Proc HostedRunScheduler HostedInvocationRepository

/-- An entry of `active`, with what is left of its `executeOne`. -/
structure ActiveHostedRun where
  agentId : AgentId
  timer : Bool
  program : Prog Unit

/-- The scheduler's memory. `activeAgents` holds the Agents of the active Runs, no others. -/
structure Scheduler where
  active : Table RunId ActiveHostedRun
  accepting : Bool
  /-- What is left of the cancellations, revocations, shutdowns and deadlines begun so far. -/
  controls : List (Prog Unit)

def Scheduler.fresh : Scheduler where
  active := .empty
  accepting := true
  controls := []

structure World where
  db : HostedDb
  /-- No scheduler while the server is down. -/
  scheduler : Option Scheduler
  /-- The Runs whose provider request was sent, once for each time. -/
  sent : List RunId

/-- What the world outside answers. -/
abbrev Answers := (op : Op) → op.Resp

variable (services : HostedServices)

namespace World

/-- The entries of `active`. -/
def entries (w : World) : List (RunId × AgentId) :=
  match w.scheduler with
  | none => []
  | some s => s.active.keys.filterMap fun id => (s.active.get id).map fun a => (id, a.agentId)

def respond (w : World) (answers : Answers) : Answers
  | .transaction t => (t.run services w.db).1
  | .active => w.entries
  | op => answers op

def effect (w : World) : Op → World
  | .transaction t => { w with db := (t.run services w.db).2 }
  | .send id => { w with sent := w.sent ++ [id] }
  | .armTimer id =>
    { w with scheduler := w.scheduler.map fun s =>
        { s with active := match s.active.get id with
          | some a => s.active.put id { a with timer := true }
          | none => s.active } }
  | .stopAccepting =>
    { w with scheduler := w.scheduler.map fun s => { s with accepting := false } }
  | _ => w

/-- One operation of the program of an active Run. -/
def advance (w : World) (id : RunId) (answers : Answers) : World :=
  match w.scheduler.bind (·.active.get id) with
  | none => w
  | some a =>
    match a.program with
    | .ret _ | .fail _ => w
    | .call op k =>
      let w' := w.effect services op
      { w' with scheduler := w'.scheduler.map fun s =>
          { s with active := match s.active.get id with
            | some a' => s.active.put id
                { a' with program := k (w.respond services answers op) }
            | none => s.active } }

def advanceControl (w : World) (i : Nat) (answers : Answers) : World :=
  match w.scheduler.bind (·.controls[i]?) with
  | none => w
  | some program =>
    match program with
    | .ret _ | .fail _ => w
    | .call op k =>
      let w' := w.effect services op
      { w' with scheduler := w'.scheduler.map fun s =>
          { s with controls := s.controls.set i (k (w.respond services answers op)) } }

/-- The `finally` of `start`. -/
def leave (w : World) (id : RunId) : World :=
  { w with scheduler := w.scheduler.map fun s =>
      { s with active := match s.active.get id with
        | some a => if a.program.ended then s.active.remove id else s.active
        | none => s.active } }

end World

/-- `start`, of one listed Run. -/
def startRun (db : HostedDb) (s : Scheduler) (runId : RunId) : Scheduler :=
  if services.maximumConcurrency ≤ s.active.rows.length then s
  else if (s.active.get runId).isSome then s
  else
    match db.central.runs.get runId with
    | none => s
    | some run =>
      if s.active.rows.any (·.agentId = run.targetAgentId) then s
      else
        let started : ActiveHostedRun :=
          { agentId := run.targetAgentId, timer := false, program := executeOne services runId }
        { s with active := s.active.put runId started }

/-- **`drain`.** -/
def World.drain (w : World) : World :=
  { w with scheduler := w.scheduler.map fun s =>
      if s.accepting then (listRunnableQueuedRunIds w.db).foldl (startRun services w.db) s else s }

/-- What a member, an owner or a timer asks for. -/
inductive Command where
  | cancel (runId : RunId) (memberId : MemberId) (reason : String)
  | revokeAgent (agentId : AgentId)
  | shutdown
  | deadline (runId : RunId)

def Command.program : Command → Prog Unit
  | .cancel runId memberId reason => HostedRunScheduler.cancel runId memberId reason
  | .revokeAgent agentId => HostedRunScheduler.revokeAgent agentId
  | .shutdown => HostedRunScheduler.shutdown
  | .deadline runId => deadlineReached runId

/-- `requireHostedRun` for a cancellation, an armed timer for a deadline. -/
def Command.enabled (w : World) : Command → Bool
  | .cancel runId _ _ =>
    (w.db.central.runs.get runId).any fun run => isHosted w.db.central run.targetAgentId
  | .deadline runId => ((w.scheduler.bind (·.active.get runId)).any (·.timer))
  | .revokeAgent _ | .shutdown => true

def World.begin (w : World) (command : Command) : World :=
  if command.enabled w then
    { w with scheduler := w.scheduler.map fun s =>
        { s with controls := s.controls ++ [command.program] } }
  else w

/-- The server starts: `recover`, and a scheduler if it returns. -/
def World.boot (w : World) (now : Time) : World :=
  match w.scheduler with
  | some _ => w
  | none =>
    match recover services now w.db with
    | (.ok _, db) => { w with db, scheduler := some Scheduler.fresh }
    | (.error _, db) => { w with db }

inductive Step where
  | boot (now : Time)
  | drain
  | advance (runId : RunId) (answers : Answers)
  | leave (runId : RunId)
  | begin (command : Command)
  | advanceControl (i : Nat) (answers : Answers)
  | crash

def World.exec (w : World) : Step → World
  | .boot now => w.boot services now
  | .drain => w.drain services
  | .advance runId answers => w.advance services runId answers
  | .leave runId => w.leave runId
  | .begin command => w.begin command
  | .advanceControl i answers => w.advanceControl services i answers
  | .crash => { w with scheduler := none }

/-- Another service starts no Hosted Agent's Run: it creates them queued, and it expires, cancels
and ends them. An Agent's integration mode is fixed. -/
structure SparesHosted (db db' : Central) : Prop where
  mode : ∀ agentId, isHosted db agentId = true → isHosted db' agentId = true
  starts : ∀ id run', db'.runs.get id = some run' → isHosted db' run'.targetAgentId = true →
    run'.state ≠ .queued → run'.state.terminal = false →
    ∃ run, db.runs.get id = some run ∧ isHosted db run.targetAgentId = true ∧
      run.state ≠ .queued ∧ run.state.terminal = false

/-- A step: of the hosted services, or any step of Central's other services that spares Hosted
Agents' Runs. -/
inductive HostedLabel where
  | hosted (step : Step)
  | central (label : AgentRoom.Label)

/-- **The hosted system.** It begins with a database without Runs and a server that is down. -/
def hosted (runServices : Services) : System World HostedLabel where
  init w := (central runServices).init w.db.central ∧ w.db.invocations = .empty ∧
    w.scheduler = none ∧ w.sent = []
  step label w w' := match label with
    | .hosted step => w' = w.exec services step
    | .central label => (central runServices).step label w.db.central w'.db.central ∧
        SparesHosted w.db.central w'.db.central ∧
        w' = { w with db := { w.db with central := w'.db.central } }

/-! ## The invariant -/

/-- Where a program's phase may find its Run's intent. -/
def PhaseOk (w : World) (id : RunId) : Phase → Prop
  | .clear => stateOf w.db id ≠ some .dispatching ∧ stateOf w.db id ≠ some .streaming
  | .fenced => id ∉ w.sent ∧ ∃ s, stateOf w.db id = some s ∧ s ≠ .prepared
  | .sent => ∃ s, stateOf w.db id = some s ∧ s ≠ .prepared

/-- The program of an active Run keeps its discipline. -/
def ActiveInv (w : World) (id : RunId) (program : Prog Unit) : Prop :=
  ∃ p, Keeps (discipline (some id)) (fun _ _ => True) p program ∧ PhaseOk w id p

/-- A control keeps its discipline: it never dispatches. -/
def ControlInv (program : Prog Unit) : Prop :=
  Keeps (discipline none) (fun q _ => q = .clear) .clear program

structure WorldInv (w : World) : Prop where
  db : HostedInv w.db
  once : w.sent.Nodup
  past : ∀ id ∈ w.sent, ∃ s, stateOf w.db id = some s ∧ s ≠ .prepared
  active : ∀ s, w.scheduler = some s → ∀ id a, s.active.get id = some a →
    ActiveInv w id a.program
  controls : ∀ s, w.scheduler = some s → ∀ program ∈ s.controls, ControlInv program

variable {services} {w w' : World} {id : RunId} {o o' : Option HostedInvocationState}

theorem calm_clear (h : calm o o' = true) (ho : o ≠ some .dispatching ∧ o ≠ some .streaming) :
    o' ≠ some .dispatching ∧ o' ≠ some .streaming := by
  revert h ho
  cases o with
  | none =>
    cases o' with
    | none => exact fun _ h => h
    | some s' => cases s' <;> decide
  | some s =>
    cases o' with
    | none => exact nofun
    | some s' => cases s <;> cases s' <;> decide

theorem calm_past (h : calm o o' = true) (ho : ∃ s, o = some s ∧ s ≠ .prepared) :
    ∃ s', o' = some s' ∧ s' ≠ .prepared := by
  obtain ⟨s, rfl, hs⟩ := ho
  cases o' with
  | none => cases h
  | some s' =>
    refine ⟨s', rfl, fun hp => ?_⟩
    subst hp
    revert h hs
    cases s <;> decide

variable {p : Phase}

theorem PhaseOk.calm (h : PhaseOk w id p) (hc : calm (stateOf w.db id) (stateOf w'.db id) = true)
    (hs : id ∈ w'.sent → id ∈ w.sent) : PhaseOk w' id p := by
  cases p with
  | clear => exact calm_clear hc h
  | fenced => exact ⟨fun hmem => h.1 (hs hmem), calm_past hc h.2⟩
  | sent => exact calm_past hc h

theorem ActiveInv.calm {program : Prog Unit} (h : ActiveInv w id program)
    (hc : Hosted.calm (stateOf w.db id) (stateOf w'.db id) = true)
    (hs : id ∈ w'.sent → id ∈ w.sent) : ActiveInv w' id program := by
  obtain ⟨p, hkeeps, hphase⟩ := h
  exact ⟨p, hkeeps, hphase.calm hc hs⟩

/-! ## One operation -/

/-- An intent changes calmly, or crosses the fence. -/
def RowMove (o o' : Option HostedInvocationState) : Prop :=
  calm o o' = true ∨ (o = some .prepared ∧ o' = some .dispatching)

/-- **What one operation of a disciplined program does**, to its own Run and to the others. -/
structure Effected (own : Option RunId) (p : Phase) (op : Op) (r : op.Resp) (w w' : World) :
    Prop where
  db : HostedInv w'.db
  once : w'.sent.Nodup
  past : ∀ id ∈ w'.sent, ∃ s, stateOf w'.db id = some s ∧ s ≠ .prepared
  others : ∀ id, own ≠ some id → calm (stateOf w.db id) (stateOf w'.db id) = true ∧
    (id ∈ w'.sent → id ∈ w.sent)
  own : ∀ id, own = some id → PhaseOk w' id (nextPhase p op r)
  moves : ∀ id, RowMove (stateOf w.db id) (stateOf w'.db id)
  credible : credible op r

variable {own : Option RunId} {op : Op} {r : op.Resp}

theorem effected_same (h : WorldInv w) (hp : ∀ id, own = some id → PhaseOk w id p)
    (hdb : w'.db = w.db) (hsent : w'.sent = w.sent) (hn : nextPhase p op r = p)
    (hr : Hosted.credible op r) : Effected own p op r w w' := by
  refine ⟨by rw [hdb]; exact h.db, by rw [hsent]; exact h.once, fun id hmem => ?_,
    fun id _ => ⟨by rw [hdb]; exact calm_refl _, fun hmem => by rwa [hsent] at hmem⟩,
    fun id hid => ?_, fun id => .inl (by rw [hdb]; exact calm_refl _), hr⟩
  · rw [hsent] at hmem
    rw [hdb]
    exact h.past id hmem
  · rw [hn]
    refine (hp id hid).calm ?_ fun hmem => by rwa [hsent] at hmem
    rw [hdb]
    exact calm_refl _

theorem effected_calm {t : Transaction} {r : (Op.transaction t).Resp} (h : WorldInv w)
    (hp : ∀ id, own = some id → PhaseOk w id p)
    (hcalm : HostedInv (t.run services w.db).2 ∧ CalmRows w.db (t.run services w.db).2)
    (hn : nextPhase p (.transaction t) r = p) (hr : Hosted.credible (.transaction t) r) :
    Effected own p (.transaction t) r w (w.effect services (.transaction t)) := by
  refine ⟨hcalm.1, h.once, fun id hmem => calm_past (hcalm.2 id) (h.past id hmem),
    fun id _ => ⟨hcalm.2 id, fun hmem => hmem⟩, fun id hid => ?_, fun id => .inl (hcalm.2 id), hr⟩
  rw [hn]
  exact (hp id hid).calm (hcalm.2 id) fun hmem => hmem

theorem credible_getRun (h : WorldInv w) (id : RunId) :
    Hosted.credible (.transaction (.getRun id)) ((Transaction.getRun id).run services w.db).1 := by
  show Hosted.credible (.transaction (.getRun id)) (.ok (w.db.central.runs.get id))
  cases hget : w.db.central.runs.get id with
  | none => exact trivial
  | some run => exact h.db.keyed id run hget

/-- The fence: a program that finds its intent dispatching has dispatched it itself, now. -/
theorem effected_markDispatching (h : WorldInv w) (hp : PhaseOk w id .clear) (now : Time) :
    Effected (some id) .clear (.transaction (.markDispatching id now))
      ((Transaction.markDispatching id now).run services w.db).1 w
      (w.effect services (.transaction (.markDispatching id now))) := by
  rcases hx : markDispatching id now w.db with ⟨e | row, db'⟩
  · obtain rfl := Tx.state_of_immediate_error hx
    refine effected_same h (fun id' hid => ?_) ?_ rfl ?_ ?_
    · obtain rfl := Option.some.inj hid
      exact hp
    · show (markDispatching id now w.db).2 = w.db
      rw [hx]
    · show nextPhase .clear (.transaction (.markDispatching id now))
        (markDispatching id now w.db).1 = .clear
      rw [hx]
      rfl
    · show Hosted.credible (.transaction (.markDispatching id now))
        (markDispatching id now w.db).1
      rw [hx]
      exact trivial
  have hfenced := markDispatching_fenced h.db hx
  obtain ⟨stored, hget, rfl⟩ := hfenced.row
  have hstate : stateOf db' id = some stored.val.state := stateOf_of_get hget
  have heffect : w.effect services (.transaction (.markDispatching id now)) =
      { w with db := db' } := by
    show { w with db := (markDispatching id now w.db).2 } = _
    rw [hx]
  have hresponse : ((Transaction.markDispatching id now).run services w.db).1 =
      .ok stored.val := congrArg Prod.fst hx
  rw [heffect, hresponse]
  rcases hfenced.crossed with hcalm | ⟨hbefore, hafter, hothers⟩
  · -- not dispatched now, so not dispatching at all
    have hclear := calm_clear (hcalm id) hp
    have hnot : stored.val.state ≠ .dispatching := fun hs => hclear.1 (by rw [hstate, hs])
    have hnext : nextPhase .clear (.transaction (.markDispatching id now))
        (.ok stored.val) = .clear := if_neg hnot
    refine ⟨hfenced.inv, h.once, fun id' hmem => calm_past (hcalm id') (h.past id' hmem),
      fun id' _ => ⟨hcalm id', fun hmem => hmem⟩, fun id' hid => ?_,
      fun id' => .inl (hcalm id'), trivial⟩
    obtain rfl := Option.some.inj hid
    rw [hnext]
    exact hclear
  · have hdispatching : stored.val.state = .dispatching :=
      Option.mem_unique hstate hafter
    have hnext : nextPhase .clear (.transaction (.markDispatching id now))
        (.ok stored.val) = .fenced := if_pos hdispatching
    have hunsent : id ∉ w.sent := by
      intro hmem
      obtain ⟨s, hs, hpast⟩ := h.past id hmem
      exact hpast (Option.mem_unique hs hbefore)
    refine ⟨hfenced.inv, h.once, fun id' hmem => ?_, fun id' hne => ⟨?_, fun hmem => hmem⟩,
      fun id' hid => ?_, fun id' => ?_, trivial⟩
    · have hne : id' ≠ id := fun heq => hunsent (heq ▸ hmem)
      show ∃ s, stateOf db' id' = some s ∧ s ≠ .prepared
      rw [hothers id' hne]
      exact h.past id' hmem
    · show Hosted.calm (stateOf w.db id') (stateOf db' id') = true
      rw [hothers id' fun heq => hne (by rw [heq])]
      exact calm_refl _
    · obtain rfl := Option.some.inj hid
      rw [hnext]
      exact ⟨hunsent, .dispatching, hafter, nofun⟩
    · by_cases hid : id' = id
      · subst hid
        exact .inr ⟨hbefore, hafter⟩
      · left
        show Hosted.calm (stateOf w.db id') (stateOf db' id') = true
        rw [hothers id' hid]
        exact calm_refl _

/-- **Every allowed operation.** -/
theorem effected (answers : Answers) (h : WorldInv w) (ha : allowed own p op)
    (hp : ∀ id, own = some id → PhaseOk w id p) :
    Effected own p op (w.respond services answers op) w (w.effect services op) := by
  cases op with
  | transaction t =>
    cases t with
    | markDispatching id now =>
      obtain ⟨rfl, rfl⟩ := ha
      exact effected_markDispatching h (hp id rfl) now
    | applyEvent id event now =>
      refine effected_calm h hp (applyEvent_calm now h.db ?_) rfl trivial
      rcases ha with hends | ⟨hphase, rfl⟩
      · exact .inl hends
      · -- only a program past its fence reports on its Run
        right
        have hpast : ∃ s, stateOf w.db id = some s ∧ s ≠ .prepared := by
          cases p with
          | clear => exact absurd rfl hphase
          | fenced => exact (hp id rfl).2
          | sent => exact hp id rfl
        obtain ⟨s, hs, hne⟩ := hpast
        unfold stateOf at hs
        cases hget : w.db.invocations.get id with
        | none =>
          rw [hget] at hs
          cases hs
        | some stored =>
          rw [hget] at hs
          cases hs
          exact ⟨stored, rfl, hne⟩
    | getRun id =>
      exact effected_calm h hp ⟨h.db, CalmRows.refl _⟩ rfl (credible_getRun h id)
    | getByRun id => exact effected_calm h hp ⟨h.db, CalmRows.refl _⟩ rfl trivial
    | listEvents id after => exact effected_calm h hp ⟨h.db, CalmRows.refl _⟩ rfl trivial
    | applyReplyAndTerminal id reply terminal now =>
      exact effected_calm h hp (applyReplyAndTerminal_calm now h.db) rfl trivial
    | prepare input => exact effected_calm h hp (prepare_calm services input _ h.db) rfl trivial
    | markStreaming id now =>
      exact effected_calm h hp (markStreaming_calm id now _ h.db) rfl trivial
    | requestCancellation id memberId reason now =>
      exact effected_calm h hp (requestCancellation_calm services id memberId reason now _ h.db)
        rfl trivial
    | cancelPrepared id memberId reason now =>
      exact effected_calm h hp (cancelPrepared_calm services id memberId reason now _ h.db)
        rfl trivial
    | settleFromRun id code now =>
      exact effected_calm h hp (settleFromRun_calm id code now _ h.db) rfl trivial
  | send id =>
    obtain ⟨rfl, rfl⟩ := ha
    obtain ⟨hunsent, hpast⟩ := hp id rfl
    refine ⟨h.db, ?_, fun id' hmem => ?_, fun id' hne => ⟨calm_refl _, fun hmem => ?_⟩,
      fun id' hid => ?_, fun id' => .inl (calm_refl _), trivial⟩
    · exact List.Nodup.append h.once (List.nodup_singleton id)
        (List.disjoint_singleton.mpr hunsent)
    · rcases List.mem_append.mp hmem with hmem | hmem
      · exact h.past id' hmem
      · rw [List.mem_singleton.mp hmem]
        exact hpast
    · rcases List.mem_append.mp hmem with hmem | hmem
      · exact hmem
      · exact absurd (by rw [List.mem_singleton.mp hmem]) hne
    · obtain rfl := Option.some.inj hid
      exact hpast
  | clock => exact effected_same h hp rfl rfl rfl trivial
  | hasCurrentRoomScope run => exact effected_same h hp rfl rfl rfl trivial
  | planExecution run => exact effected_same h hp rfl rfl rfl trivial
  | resolveExecutionProfile agentId => exact effected_same h hp rfl rfl rfl trivial
  | prepareAdapter run execution => exact effected_same h hp rfl rfl rfl trivial
  | roomAdmits run execution => exact effected_same h hp rfl rfl rfl trivial
  | armTimer id => exact effected_same h hp rfl rfl rfl trivial
  | adapterStep id => exact effected_same h hp rfl rfl rfl trivial
  | notifyTerminal run => exact effected_same h hp rfl rfl rfl trivial
  | active => exact effected_same h hp rfl rfl rfl trivial
  | stopAccepting => exact effected_same h hp rfl rfl rfl trivial
  | abort id => exact effected_same h hp rfl rfl rfl trivial

/-- No operation changes what is left of a program. -/
theorem effect_scheduler (w : World) (op : Op) {s' : Scheduler}
    (h : (w.effect services op).scheduler = some s') : ∃ s, w.scheduler = some s ∧
      s'.controls = s.controls ∧ ∀ id a', s'.active.get id = some a' →
        ∃ a, s.active.get id = some a ∧ a'.program = a.program := by
  cases op with
  | armTimer key =>
    obtain ⟨s, hs, rfl⟩ := Option.map_eq_some_iff.mp h
    refine ⟨s, hs, rfl, fun id a' hget => ?_⟩
    dsimp only at hget
    split at hget
    · next a ha =>
        rw [Table.get_put] at hget
        split at hget
        · next hid =>
            subst hid
            obtain rfl := Option.some.inj hget
            exact ⟨a, ha, rfl⟩
        · exact ⟨a', hget, rfl⟩
    · exact ⟨a', hget, rfl⟩
  | stopAccepting =>
    obtain ⟨s, hs, rfl⟩ := Option.map_eq_some_iff.mp h
    exact ⟨s, hs, rfl, fun id a' hget => ⟨a', hget, rfl⟩⟩
  | transaction t => exact ⟨s', h, rfl, fun id a' hget => ⟨a', hget, rfl⟩⟩
  | clock => exact ⟨s', h, rfl, fun id a' hget => ⟨a', hget, rfl⟩⟩
  | hasCurrentRoomScope run => exact ⟨s', h, rfl, fun id a' hget => ⟨a', hget, rfl⟩⟩
  | planExecution run => exact ⟨s', h, rfl, fun id a' hget => ⟨a', hget, rfl⟩⟩
  | resolveExecutionProfile agentId => exact ⟨s', h, rfl, fun id a' hget => ⟨a', hget, rfl⟩⟩
  | prepareAdapter run execution => exact ⟨s', h, rfl, fun id a' hget => ⟨a', hget, rfl⟩⟩
  | roomAdmits run execution => exact ⟨s', h, rfl, fun id a' hget => ⟨a', hget, rfl⟩⟩
  | send key => exact ⟨s', h, rfl, fun id a' hget => ⟨a', hget, rfl⟩⟩
  | adapterStep key => exact ⟨s', h, rfl, fun id a' hget => ⟨a', hget, rfl⟩⟩
  | notifyTerminal run => exact ⟨s', h, rfl, fun id a' hget => ⟨a', hget, rfl⟩⟩
  | active => exact ⟨s', h, rfl, fun id a' hget => ⟨a', hget, rfl⟩⟩
  | abort key => exact ⟨s', h, rfl, fun id a' hget => ⟨a', hget, rfl⟩⟩

/-! ## Steps -/

/-- An operation keeps the invariant, when the programs that are left keep their discipline. -/
theorem Effected.inv {w₁ : World} (he : Effected own p op r w w₁) (hdb : w'.db = w₁.db)
    (hsent : w'.sent = w₁.sent)
    (hactive : ∀ s, w'.scheduler = some s → ∀ id a, s.active.get id = some a →
      (own ≠ some id ∧ ActiveInv w id a.program) ∨
      (own = some id ∧ Keeps (discipline (some id)) (fun _ _ => True) (nextPhase p op r) a.program))
    (hcontrols : ∀ s, w'.scheduler = some s → ∀ program ∈ s.controls, ControlInv program) :
    WorldInv w' := by
  refine ⟨by rw [hdb]; exact he.db, by rw [hsent]; exact he.once, fun id hmem => ?_,
    fun s hs id a hget => ?_, hcontrols⟩
  · rw [hsent] at hmem
    rw [hdb]
    exact he.past id hmem
  · rcases hactive s hs id a hget with ⟨hown, hinv⟩ | ⟨hown, hkeeps⟩
    · obtain ⟨hc, hm⟩ := he.others id hown
      refine hinv.calm ?_ fun hmem => hm (by rwa [hsent] at hmem)
      rw [hdb]
      exact hc
    · refine ⟨_, hkeeps, (he.own id hown).calm ?_ fun hmem => by rwa [hsent] at hmem⟩
      rw [hdb]
      exact calm_refl _

theorem advance_inv (h : WorldInv w) (id : RunId) (answers : Answers) :
    WorldInv (w.advance services id answers) := by
  unfold World.advance
  cases hfound : w.scheduler.bind (·.active.get id) with
  | none => exact h
  | some a =>
    obtain ⟨s, hs, hget⟩ := Option.bind_eq_some_iff.mp hfound
    -- the program of this Run takes a step; the others stay
    obtain ⟨p, hkeeps, hphase⟩ := h.active s hs id a hget
    dsimp only
    cases hprogram : a.program with
    | ret u => exact h
    | fail e => exact h
    | call op k =>
      rw [hprogram] at hkeeps
      have he : Effected (some id) p op (w.respond services answers op) w
          (w.effect services op) := effected answers h hkeeps.1 fun id' hid => by
        obtain rfl := Option.some.inj hid
        exact hphase
      refine he.inv rfl rfl (fun s' hs' id' a' hget' => ?_) fun s' hs' program hmem => ?_
      · obtain ⟨s₁, hs₁, rfl⟩ := Option.map_eq_some_iff.mp hs'
        obtain ⟨s₀, hs₀, -, hprograms⟩ := effect_scheduler w op hs₁
        dsimp only at hget'
        split at hget'
        · next a₁ ha₁ =>
            rw [Table.get_put] at hget'
            split at hget'
            · next hid =>
                subst hid
                obtain rfl := Option.some.inj hget'
                exact .inr ⟨rfl, hkeeps.2 _ _ ⟨rfl, he.credible⟩⟩
            · next hid =>
                obtain ⟨a₀, ha₀, hsame⟩ := hprograms id' a' hget'
                rw [hsame]
                exact .inl ⟨fun heq => hid (Option.some.inj heq).symm, h.active s₀ hs₀ id' a₀ ha₀⟩
        · -- a Run that left has no program to put back
          next hnone =>
            obtain ⟨a₀, ha₀, hsame⟩ := hprograms id' a' hget'
            have hid : id' ≠ id := fun heq => by
              rw [heq, hnone] at hget'
              cases hget'
            rw [hsame]
            exact .inl ⟨fun heq => hid (Option.some.inj heq).symm, h.active s₀ hs₀ id' a₀ ha₀⟩
      · obtain ⟨s₁, hs₁, rfl⟩ := Option.map_eq_some_iff.mp hs'
        obtain ⟨s₀, hs₀, hsame, -⟩ := effect_scheduler w op hs₁
        exact h.controls s₀ hs₀ program (by rwa [hsame] at hmem)

theorem advanceControl_inv (h : WorldInv w) (i : Nat) (answers : Answers) :
    WorldInv (w.advanceControl services i answers) := by
  unfold World.advanceControl
  cases hfound : w.scheduler.bind (·.controls[i]?) with
  | none => exact h
  | some program =>
    obtain ⟨s, hs, hget⟩ := Option.bind_eq_some_iff.mp hfound
    have hkeeps := h.controls s hs program (List.mem_of_getElem? hget)
    dsimp only
    cases program with
    | ret u => exact h
    | fail e => exact h
    | call op k =>
      have he : Effected none .clear op (w.respond services answers op) w
          (w.effect services op) := effected answers h hkeeps.1 nofun
      refine he.inv rfl rfl (fun s' hs' id' a' hget' => ?_) fun s' hs' program hmem => ?_
      · obtain ⟨s₁, hs₁, rfl⟩ := Option.map_eq_some_iff.mp hs'
        obtain ⟨s₀, hs₀, -, hprograms⟩ := effect_scheduler w op hs₁
        obtain ⟨a₀, ha₀, hsame⟩ := hprograms id' a' hget'
        rw [hsame]
        exact .inl ⟨nofun, h.active s₀ hs₀ id' a₀ ha₀⟩
      · obtain ⟨s₁, hs₁, rfl⟩ := Option.map_eq_some_iff.mp hs'
        obtain ⟨s₀, hs₀, hsame, -⟩ := effect_scheduler w op hs₁
        rcases List.mem_or_eq_of_mem_set hmem with hmem | rfl
        · exact h.controls s₀ hs₀ program (by rwa [hsame] at hmem)
        · -- a control is never fenced, so it stays clear
          have hclear : nextPhase .clear op (w.respond services answers op) = .clear := by
            have ha := hkeeps.1
            revert ha
            cases op with
            | transaction t => cases t <;> first | exact fun _ => rfl | exact nofun
            | send id => exact nofun
            | _ => exact fun _ => rfl
          exact hkeeps.2 _ _ ⟨hclear.symm, he.credible⟩

theorem WorldInv.quiet (h : WorldInv w) (hdb : HostedInv w'.db) (hcalm : CalmRows w.db w'.db)
    (hsent : w'.sent = w.sent)
    (hactive : ∀ s, w'.scheduler = some s → ∀ id a, s.active.get id = some a →
      ActiveInv w id a.program)
    (hcontrols : ∀ s, w'.scheduler = some s → ∀ program ∈ s.controls, ControlInv program) :
    WorldInv w' := by
  refine ⟨hdb, by rw [hsent]; exact h.once, fun id hmem => ?_, fun s hs id a hget => ?_, hcontrols⟩
  · rw [hsent] at hmem
    exact calm_past (hcalm id) (h.past id hmem)
  · exact (hactive s hs id a hget).calm (hcalm id) fun hmem => by rwa [hsent] at hmem

theorem command_inv (command : Command) : ControlInv command.program := by
  cases command with
  | cancel runId memberId reason => exact stays_cancel memberId reason
  | revokeAgent agentId => exact stays_revokeAgent agentId
  | shutdown => exact stays_shutdown
  | deadline runId => exact stays_deadlineReached

variable {db : HostedDb}

/-- A listed Run has no intent, or one that is still prepared. -/
theorem clear_of_listed (h : id ∈ listRunnableQueuedRunIds db) :
    stateOf db id ≠ some .dispatching ∧ stateOf db id ≠ some .streaming := by
  unfold listRunnableQueuedRunIds at h
  obtain ⟨run, hmem, rfl⟩ := List.mem_map.mp h
  rw [Table.mem_orderBy, List.mem_filter] at hmem
  obtain ⟨-, hselected⟩ := hmem
  simp only [decide_eq_true_eq] at hselected
  obtain ⟨-, -, -, hrow⟩ := hselected
  unfold stateOf
  cases hget : db.invocations.get run.runId with
  | none => exact ⟨nofun, nofun⟩
  | some stored =>
    rw [hget] at hrow
    simp only [Option.all_some, decide_eq_true_eq] at hrow
    show some stored.val.state ≠ _ ∧ some stored.val.state ≠ _
    rw [hrow.1]
    exact ⟨nofun, nofun⟩

/-- A drain starts `executeOne` for listed Runs and touches no other program. -/
theorem drain_active (runIds : List RunId)
    (hlisted : ∀ id ∈ runIds, id ∈ listRunnableQueuedRunIds w.db) (s : Scheduler)
    (hactive : ∀ id a, s.active.get id = some a → ActiveInv w id a.program) :
    ∀ id a, (runIds.foldl (startRun services w.db) s).active.get id = some a →
      ActiveInv w id a.program := by
  induction runIds generalizing s with
  | nil => exact hactive
  | cons runId runIds ih =>
    refine ih (fun id hmem => hlisted id (List.mem_cons_of_mem _ hmem)) _ fun id a hget => ?_
    unfold startRun at hget
    split at hget
    · exact hactive id a hget
    split at hget
    · exact hactive id a hget
    split at hget
    · exact hactive id a hget
    split at hget
    · exact hactive id a hget
    rw [Table.get_put] at hget
    split at hget
    · next hid =>
        subst hid
        obtain rfl := Option.some.inj hget
        exact ⟨.clear, keeps_executeOne services id,
          clear_of_listed (hlisted id List.mem_cons_self)⟩
    · exact hactive id a hget

theorem startRun_controls (db : HostedDb) (runIds : List RunId) (s : Scheduler) :
    (runIds.foldl (startRun services db) s).controls = s.controls := by
  induction runIds generalizing s with
  | nil => rfl
  | cons runId runIds ih =>
    refine (ih _).trans ?_
    unfold startRun
    split
    · rfl
    split
    · rfl
    split
    · rfl
    split <;> rfl

/-- **Every step of the hosted services keeps the invariant.** -/
theorem exec_inv (h : WorldInv w) (step : Step) : WorldInv (w.exec services step) := by
  cases step with
  | boot now =>
    show WorldInv (w.boot services now)
    unfold World.boot
    cases hs : w.scheduler with
    | some s =>
      dsimp only
      exact h
    | none =>
      -- a boot recovers, which sends nothing
      have hcalm := recover_calm services now w.db h.db
      dsimp only
      rcases hx : recover services now w.db with ⟨e | result, db'⟩
      · rw [hx] at hcalm
        exact h.quiet hcalm.1 hcalm.2 rfl nofun nofun
      · rw [hx] at hcalm
        refine h.quiet hcalm.1 hcalm.2 rfl (fun s' hs' id a hget => ?_) fun s' hs' program hm => ?_
        · cases hs'
          cases hget
        · cases hs'
          cases hm
  | drain =>
    refine h.quiet h.db (CalmRows.refl _) rfl (fun s' hs' => ?_) fun s' hs' program hmem => ?_
    · obtain ⟨s, hs, rfl⟩ := Option.map_eq_some_iff.mp hs'
      split
      · exact drain_active _ (fun _ hmem => hmem) s (h.active s hs)
      · exact h.active s hs
    · obtain ⟨s, hs, rfl⟩ := Option.map_eq_some_iff.mp hs'
      refine h.controls s hs program ?_
      split at hmem
      · rwa [startRun_controls] at hmem
      · exact hmem
  | advance runId answers => exact advance_inv h runId answers
  | leave runId =>
    refine h.quiet h.db (CalmRows.refl _) rfl (fun s' hs' id a hget => ?_)
      fun s' hs' program hmem => ?_
    · -- leaving drops the Run's own program
      obtain ⟨s, hs, rfl⟩ := Option.map_eq_some_iff.mp hs'
      refine h.active s hs id a ?_
      dsimp only at hget
      split at hget
      · split at hget
        · rw [Table.get_remove] at hget
          split at hget
          · cases hget
          · exact hget
        · exact hget
      · exact hget
    · obtain ⟨s, hs, rfl⟩ := Option.map_eq_some_iff.mp hs'
      exact h.controls s hs program hmem
  | begin command =>
    show WorldInv (w.begin command)
    unfold World.begin
    split
    · refine h.quiet h.db (CalmRows.refl _) rfl (fun s' hs' id a hget => ?_)
        fun s' hs' program hmem => ?_
      · obtain ⟨s, hs, rfl⟩ := Option.map_eq_some_iff.mp hs'
        exact h.active s hs id a hget
      · obtain ⟨s, hs, rfl⟩ := Option.map_eq_some_iff.mp hs'
        rcases List.mem_append.mp hmem with hmem | hmem
        · exact h.controls s hs program hmem
        · rw [List.mem_singleton.mp hmem]
          exact command_inv command
    · exact h
  | advanceControl i answers => exact advanceControl_inv h i answers
  | crash => exact h.quiet h.db (CalmRows.refl _) rfl nofun nofun

/-- What a step does to an intent. -/
theorem exec_rowMove (h : WorldInv w) (step : Step) (id : RunId) :
    RowMove (stateOf w.db id) (stateOf (w.exec services step).db id) := by
  cases step with
  | boot now =>
    show RowMove _ (stateOf (w.boot services now).db id)
    unfold World.boot
    cases w.scheduler with
    | some s => exact .inl (calm_refl _)
    | none =>
      -- recovery starts no Run
      have hcalm := recover_calm services now w.db h.db
      dsimp only
      rcases hx : recover services now w.db with ⟨e | result, db'⟩
      · rw [hx] at hcalm
        exact .inl (hcalm.2 id)
      · rw [hx] at hcalm
        exact .inl (hcalm.2 id)
  | advance runId answers =>
    show RowMove _ (stateOf (w.advance services runId answers).db id)
    unfold World.advance
    cases hfound : w.scheduler.bind (·.active.get runId) with
    | none => exact .inl (calm_refl _)
    | some a =>
      obtain ⟨s, hs, hget⟩ := Option.bind_eq_some_iff.mp hfound
      -- one call of the program of an active Run
      obtain ⟨p, hkeeps, hphase⟩ := h.active s hs runId a hget
      dsimp only
      cases hprogram : a.program with
      | ret u => exact .inl (calm_refl _)
      | fail e => exact .inl (calm_refl _)
      | call op k =>
        rw [hprogram] at hkeeps
        have he : Effected (some runId) p op (w.respond services answers op) w
            (w.effect services op) := effected answers h hkeeps.1 fun id' hid => by
          obtain rfl := Option.some.inj hid
          exact hphase
        exact he.moves id
  | advanceControl i answers =>
    show RowMove _ (stateOf (w.advanceControl services i answers).db id)
    unfold World.advanceControl
    cases hfound : w.scheduler.bind (·.controls[i]?) with
    | none => exact .inl (calm_refl _)
    | some program =>
      obtain ⟨s, hs, hget⟩ := Option.bind_eq_some_iff.mp hfound
      -- a control program belongs to no Run
      have hkeeps := h.controls s hs program (List.mem_of_getElem? hget)
      dsimp only
      cases program with
      | ret u => exact .inl (calm_refl _)
      | fail e => exact .inl (calm_refl _)
      | call op k =>
        have he : Effected none .clear op (w.respond services answers op) w
            (w.effect services op) := effected answers h hkeeps.1 nofun
        exact he.moves id
  | begin command =>
    show RowMove _ (stateOf (w.begin command).db id)
    unfold World.begin
    split <;> exact .inl (calm_refl _)
  | drain => exact .inl (calm_refl _)
  | leave runId => exact .inl (calm_refl _)
  | crash => exact .inl (calm_refl _)

variable {runServices : Services}

theorem HostedInv.elsewhere {label : AgentRoom.Label} {central : Central} (h : HostedInv db)
    (hstep : (AgentRoom.central runServices).step label db.central central)
    (hspares : SparesHosted db.central central) : HostedInv ⟨central, db.invocations⟩ := by
  have hon := onward_of_step h.keyed hstep
  refine ⟨step_preserves (fun _ _ _ => keyed_move) h.keyed hstep h.keyed, fun id row hget => ?_,
    fun id run' hrun' hhosted hnq hlive => ?_⟩
  · obtain ⟨hkey, run, hrun, hhosted, hagrees⟩ := h.row id row hget
    obtain ⟨run', hrun', htarget, hended, hstarted⟩ := hon.run id run hrun
    refine ⟨hkey, run', hrun', ?_, hagrees.onward hon hended hstarted⟩
    rw [htarget]
    exact hspares.mode _ hhosted
  · obtain ⟨run, hrun, hhosted₀, hnq₀, hlive₀⟩ := hspares.starts id run' hrun' hhosted hnq hlive
    exact h.waiting id run hrun hhosted₀ hnq₀ hlive₀

/-- **The invariant holds in every reachable state.** -/
theorem worldInv_reachable (h : (hosted services runServices).Reachable w) : WorldInv w := by
  refine System.invariant WorldInv ?_ ?_ h
  · rintro w ⟨hinit, hrows, hdown, hsent⟩
    have hnone : ∀ id, w.db.invocations.get id = none := fun id => by rw [hrows]; rfl
    refine ⟨⟨keyed_reachable (System.reachable_init hinit), fun id row hget => ?_,
      fun id run hrun => ?_⟩, by rw [hsent]; exact List.nodup_nil, fun id hmem => ?_,
      fun s hs => ?_, fun s hs => ?_⟩
    · rw [hnone] at hget
      cases hget
    · rw [hinit.1] at hrun
      cases hrun
    · rw [hsent] at hmem
      cases hmem
    · rw [hdown] at hs
      cases hs
    · rw [hdown] at hs
      cases hs
  · intro label w w' hstep hw
    cases label with
    | hosted step =>
      obtain rfl : w' = w.exec services step := hstep
      exact exec_inv hw step
    | central label =>
      obtain ⟨hcentral, hspares, heq⟩ := hstep
      rw [heq]
      exact hw.quiet (hw.db.elsewhere hcentral hspares) (fun _ => calm_refl _) rfl
        (fun s hs => hw.active s hs) fun s hs => hw.controls s hs

end AgentRoom.Hosted
