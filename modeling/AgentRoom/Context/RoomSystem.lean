import AgentRoom.Lib.System
import AgentRoom.Context.Sessions
import AgentRoom.Context.Consumption

/-!
# A Room, its reducer and the Bridges of its Agents

The world of one Room: its log and rolling memory, the deliveries frozen for its
Runs, the bindings the Bridges keep, the executions in progress and the terminal
reports they made. Messages, drains, deliveries and executions interleave in any
order; an execution may be dropped between any two messages, and a stored binding
may be lost at any time.

In every world the log, the checkpoints and the deliveries only grow. Every frozen bundle is
sound; every binding's cursor is inside the log, and a binding that names a Run
has reached that Run's request; every execution holds the receipt of the
selection it was prompted with, and its binding is where the session started or
where the receipt ends.
-/

namespace AgentRoom.Context

/-- What the Bridges compute outside this model. -/
structure BridgeEnv where
  agentRuntimeScopeId : RuntimeKind → RuntimeConfig → String
  piSessionId : RuntimeSessionKey → RunId → NativeId
  /-- The reply is a clarification envelope. -/
  clarifies : String → Bool

/-- A terminal report, with the session's binding when it was made. -/
structure MadeReport where
  report : SessionReport
  binding : RuntimeSessionBinding

/-- **The Room's world.** -/
structure RoomWorld where
  log : RoomLog
  memory : RollingMemory
  jobs : List DrainJob
  deliveries : Table RunId RunRequested
  store : SessionStore
  codex : Table Nat CodexParser
  pi : Table Nat PiExecution
  reports : List MadeReport

namespace RoomWorld

def initial : RoomWorld where
  log := .empty
  memory := .initial
  jobs := []
  deliveries := .empty
  store := .empty
  codex := .empty
  pi := .empty
  reports := []

end RoomWorld

/-- What can happen next. Executions are named by a slot. -/
inductive RoomAction where
  | post (message : MessageRecord)
  | enable
  | enableAll
  | disable
  | beginDrain (rebase : Bool) (leaseToken : Nat) (now leaseExpiresAt : Time)
  | finishDrain (job : Nat) (answer : DrainAnswer)
  | deliver (request : DeliveryRequest) (plan : PayloadPlan)
      (contextMessages : List ContextMessage)
  | openCodex (slot : Nat) (config : RuntimeConfig) (runId : RunId)
  | codexMessage (slot : Nat) (message : CodexMessage) (stored : Bool)
  | codexEnd (slot : Nat) (outcome : LoopEnd)
  | codexDrop (slot : Nat)
  | openPi (slot : Nat) (config : RuntimeConfig) (runId : RunId)
  | piEnd (slot : Nat) (stored : Bool) (outcome : PiExecution.Outcome)
  | piDrop (slot : Nat)
  | loseBinding (key : RuntimeSessionKey)

namespace RoomWorld

variable (env : BridgeEnv)

/-- A message of the app server reaches an execution. -/
def codexStep (w : RoomWorld) (slot : Nat) (p : CodexParser) (message : CodexMessage)
    (stored : Bool) : RoomWorld :=
  let consumed := p.consume w.store stored message
  match consumed.error with
  | none => { w with store := consumed.store, codex := w.codex.put slot consumed.parser }
  | some error =>
    { w with
      store := consumed.store
      codex := w.codex.remove slot
      reports :=
        { report := consumed.parser.finish env.clarifies (.failed error)
          binding := consumed.parser.binding } :: w.reports }

/-- **One step**, if it can be taken. -/
def act (w : RoomWorld) : RoomAction → Option RoomWorld
  | .post message =>
    if fresh : message.messageId ∉ w.log.messages.map (·.messageId) then
      some { w with
        log := w.log.append message fresh
        memory := w.memory.advanceDesired (w.log.latestMessageSequence + 1) }
    else none
  | .enable => some { w with memory := w.memory.enable }
  | .enableAll => some { w with memory := w.memory.enableAll }
  | .disable => some { w with memory := w.memory.disable }
  | .beginDrain rebase leaseToken now leaseExpiresAt =>
    let drained := beginDrain w.log w.memory rebase leaseToken now leaseExpiresAt
    some { w with memory := drained.1, jobs := w.jobs ++ drained.2.toList }
  | .finishDrain i answer =>
    w.jobs[i]?.map fun job =>
      { w with memory := Context.finishDrain w.memory job answer, jobs := w.jobs.eraseIdx i }
  | .deliver request plan contextMessages =>
    if (w.deliveries.get request.runId).isSome then none
    else
      (w.log.messages.find? (·.messageId = request.trigger.messageId)).map fun trigger =>
        { w with
          deliveries := w.deliveries.put request.runId
            (deliveryPayload w.log w.memory { request with trigger } plan contextMessages) }
  | .openCodex slot config runId =>
    if (w.codex.get slot).isSome then none
    else
      (w.deliveries.get runId).map fun run =>
        let opened := Context.openCodex env.agentRuntimeScopeId w.store config run
        match opened.2 with
        | .ok p => { w with store := opened.1, codex := w.codex.put slot p }
        | .error _ => { w with store := opened.1 }
  | .codexMessage slot message stored =>
    (w.codex.get slot).bind fun p =>
      if p.complete then none else some (w.codexStep env slot p message stored)
  | .codexEnd slot outcome =>
    (w.codex.get slot).map fun p =>
      { w with
        codex := w.codex.remove slot
        reports :=
          { report := p.finish env.clarifies outcome, binding := p.binding } ::
            w.reports }
  | .codexDrop slot => some { w with codex := w.codex.remove slot }
  | .openPi slot config runId =>
    if (w.pi.get slot).isSome then none
    else
      (w.deliveries.get runId).map fun run =>
        let opened :=
          Context.openPi env.agentRuntimeScopeId env.piSessionId w.store config run
        match opened.2 with
        | .ok e => { w with store := opened.1, pi := w.pi.put slot e }
        | .error _ => { w with store := opened.1 }
  | .piEnd slot stored outcome =>
    (w.pi.get slot).map fun e =>
      let finished := e.finish env.clarifies w.store stored outcome
      { w with
        store := finished.1
        pi := w.pi.remove slot
        reports := { report := finished.2, binding := e.savedBinding } :: w.reports }
  | .piDrop slot => some { w with pi := w.pi.remove slot }
  | .loseBinding key => some { w with store := w.store.remove key }

end RoomWorld

/-- **The system of one Room.** -/
def roomSystem (env : BridgeEnv) : System RoomWorld RoomAction where
  init w := w = .initial
  step action w w' := w.act env action = some w'

theorem reachable_of_foldlM {env : BridgeEnv} {actions : List RoomAction} {w w' : RoomWorld}
    (h : (roomSystem env).Reachable w) (hrun : actions.foldlM (RoomWorld.act env) w = some w') :
    (roomSystem env).Reachable w' := by
  induction actions generalizing w with
  | nil => cases hrun; exact h
  | cons action actions ih =>
    rw [List.foldlM_cons] at hrun
    obtain ⟨middle, hstep, hrest⟩ := Option.bind_eq_some_iff.mp hrun
    exact ih (System.reachable_step h (show (roomSystem env).step action w middle from hstep)) hrest

/-! ## Growth -/

/-- What one world's facts rest on is still there in the other. -/
structure RoomGrows (w w' : RoomWorld) : Prop where
  log : w.log.messages ⊆ w'.log.messages
  latest : w.log.latestMessageSequence ≤ w'.log.latestMessageSequence
  rows : w.memory.checkpoints ⊆ w'.memory.checkpoints
  deliveries : ∀ r run, w.deliveries.get r = some run → w'.deliveries.get r = some run

theorem RoomGrows.of_eq {w w' : RoomWorld} (hlog : w'.log = w.log)
    (hrows : w'.memory.checkpoints = w.memory.checkpoints)
    (hdeliveries : w'.deliveries = w.deliveries) : RoomGrows w w' := by
  refine ⟨?_, ?_, ?_, ?_⟩
  · rw [hlog]
    exact List.Subset.refl _
  · rw [hlog]
  · rw [hrows]
    exact List.Subset.refl _
  · rw [hdeliveries]
    exact fun _ _ h => h

/-! ## Bindings, executions and reports -/

/-- **A binding's cursor** is inside the log and past the last Run's request. -/
structure BindingOk (w : RoomWorld) (b : RuntimeSessionBinding) : Prop where
  reached : b.lastRoomSequence ≤ w.log.latestMessageSequence
  last : ∀ r, b.lastRunId = some r →
    ∃ run, w.deliveries.get r = some run ∧ run.session.contextCursor ≤ b.lastRoomSequence

/-- **What an execution was prompted with**: the cursor it will store, and the receipt of its
selection, which starts where the binding is or already is. -/
structure PromptOk (w : RoomWorld) (run : RunRequested) (b : RuntimeSessionBinding)
    (disposition : SessionDisposition) (cursor : Nat)
    (receipt : Option RoomContextConsumption) : Prop where
  target_le : run.session.contextCursor ≤ cursor
  cursor_le : cursor ≤ w.log.latestMessageSequence
  none_iff : receipt = none ↔ run.roomContextBundle = none
  receipt_of : ∀ r, receipt = some r → ∃ bundle base, run.roomContextBundle = some bundle ∧
    ReceiptOf run bundle.delivered disposition base r ∧
    cursor = max base run.session.contextCursor ∧
    (b.lastRoomSequence = base ∨ (b.lastRoomSequence = cursor ∧ b.lastRunId = some run.runId))

/-- **A Codex execution.** -/
structure ParserOk (w : RoomWorld) (p : CodexParser) : Prop where
  prompted : ∃ run, w.deliveries.get p.runId = some run ∧ run.runId = p.runId ∧
    PromptOk w run p.binding p.sessionDisposition p.contextCursor p.roomContextConsumption ∧
    PromptOk w run {} .recreated p.bootstrapContextCursor p.bootstrapRoomContextConsumption
  binding : BindingOk w p.binding

/-- **A Pi execution.** -/
structure PiOk (w : RoomWorld) (e : PiExecution) : Prop where
  prompted : ∃ run, w.deliveries.get e.runId = some run ∧ run.runId = e.runId ∧
    PromptOk w run e.binding e.sessionDisposition
      (coverageCursor e.contextCursor e.roomContextConsumption) e.roomContextConsumption
  binding : BindingOk w e.binding

/-- **A report's receipt** is of the bundle its Run was delivered with. -/
def ReportOk (w : RoomWorld) (made : MadeReport) : Prop :=
  ∀ session receipt, made.report.session = some session →
    session.roomContextConsumption = some receipt →
    ∃ run bundle base, w.deliveries.get made.report.runId = some run ∧
      run.roomContextBundle = some bundle ∧
      ReceiptOf run bundle.delivered session.disposition base receipt ∧
      max base run.session.contextCursor ≤ w.log.latestMessageSequence ∧
      session.contextCursor = made.binding.lastRoomSequence ∧
      (session.contextCursor = max base run.session.contextCursor ↔
        made.binding.lastRunId = some made.report.runId ∨
          run.session.contextCursor ≤ made.binding.lastRoomSequence)

variable {w w' : RoomWorld}

theorem bindingOk_empty (w : RoomWorld) : BindingOk w {} :=
  ⟨Nat.zero_le _, fun r h => by cases h⟩

variable {b : RuntimeSessionBinding}

theorem BindingOk.mono (hg : RoomGrows w w') (h : BindingOk w b) :
    BindingOk w' b where
  reached := h.reached.trans hg.latest
  last := by
    intro r hr
    obtain ⟨run, hrun, hle⟩ := h.last r hr
    exact ⟨run, hg.deliveries r run hrun, hle⟩

variable {run : RunRequested} {disposition : SessionDisposition}
  {receipt : Option RoomContextConsumption}

theorem PromptOk.mono (hg : RoomGrows w w') {cursor : Nat}
    (h : PromptOk w run b disposition cursor receipt) :
    PromptOk w' run b disposition cursor receipt :=
  { h with cursor_le := h.cursor_le.trans hg.latest }

theorem ParserOk.mono (hg : RoomGrows w w') {p : CodexParser} (h : ParserOk w p) :
    ParserOk w' p where
  prompted := by
    obtain ⟨run, hrun, hid, hprompt, hbootstrap⟩ := h.prompted
    exact ⟨run, hg.deliveries _ _ hrun, hid, hprompt.mono hg, hbootstrap.mono hg⟩
  binding := h.binding.mono hg

theorem PiOk.mono (hg : RoomGrows w w') {e : PiExecution} (h : PiOk w e) : PiOk w' e where
  prompted := by
    obtain ⟨run, hrun, hid, hprompt⟩ := h.prompted
    exact ⟨run, hg.deliveries _ _ hrun, hid, hprompt.mono hg⟩
  binding := h.binding.mono hg

theorem ReportOk.mono (hg : RoomGrows w w') {made : MadeReport} (h : ReportOk w made) :
    ReportOk w' made := by
  intro session receipt hsession hreceipt
  obtain ⟨run, bundle, base, hrun, hbundle, hof, hlatest, hrest⟩ :=
    h session receipt hsession hreceipt
  exact ⟨run, bundle, base, hg.deliveries _ _ hrun, hbundle, hof, hlatest.trans hg.latest, hrest⟩

/-! ## Opening a session -/

/-- Preparing a prompt from a sound bundle, for a binding that is inside the log. -/
theorem prepare_promptOk {prompt : RunRequested} {prepared : RunRequested}
    (hfrozen : FrozenSound w.log w.memory.checkpoints run)
    (hreached : run.session.contextCursor ≤ w.log.latestMessageSequence)
    (hbinding : b.lastRoomSequence ≤ w.log.latestMessageSequence)
    (hfresh : disposition ≠ .resumed → b.lastRoomSequence = 0)
    (hprompt : prompt = run ∨ ∃ b', prompt = contextDeltaForSession run b')
    (h : prepareRoomContextForSession prompt b disposition = .ok (prepared, receipt)) :
    PromptOk w run b disposition (coverageCursor run.session.contextCursor receipt) receipt := by
  -- the delta for a session keeps the bundle and the cursor
  have hbundle : prompt.roomContextBundle = run.roomContextBundle := by
    rcases hprompt with rfl | ⟨b', rfl⟩ <;> rfl
  have hcursor : prompt.session.contextCursor = run.session.contextCursor := by
    rcases hprompt with rfl | ⟨b', rfl⟩ <;> rfl
  unfold prepareRoomContextForSession at h
  rw [hbundle] at h
  split at h
  · rename_i hnone
    cases h
    exact ⟨Nat.le_refl _, hreached, by simp [hnone], fun r hr => by cases hr⟩
  · rename_i bundle hsome
    cases hvalid : validateRoomContext prompt bundle with
    | error e => rw [hvalid] at h; cases h
    | ok u =>
      rw [hvalid] at h
      cases h
      obtain ⟨checkpoint, messages, hsound⟩ := hfrozen bundle hsome
      have hbase : disposition ≠ .resumed → baseCursor b disposition = 0 := by
        intro hne
        unfold baseCursor
        rw [if_neg hne]
      -- the base is where the binding left off
      have hlast : b.lastRoomSequence = baseCursor b disposition := by
        by_cases hresumed : disposition = .resumed
        · simp [baseCursor, hresumed]
        · rw [hbase hresumed, hfresh hresumed]
      have hof := selectionReceipt_of hsound hbase
      have hcoverage := hof.coverage
      refine ⟨?_, ?_, by simp [hsome], ?_⟩
      · simp only [coverageCursor, Option.map_some, Option.getD_some]
        omega
      · simp only [coverageCursor, Option.map_some, Option.getD_some]
        omega
      · intro r hr
        cases hr
        exact ⟨bundle, _, hsome, hof, hcoverage, .inl hlast⟩

/-- What a session is loaded with is in the store, or is empty. -/
theorem loadSession_cases (store : SessionStore) (plan : RuntimeSessionPlan) :
    (∃ b, store.get plan.key = some b ∧
      loadSession store plan = { store, binding := b, found := true }) ∨
    ((loadSession store plan).binding = {} ∧ (loadSession store plan).found = false ∧
      ∀ key b, (loadSession store plan).store.get key = some b → store.get key = some b) := by
  unfold loadSession
  cases hget : store.get plan.key with
  | none => exact .inr ⟨rfl, rfl, fun key b h => h⟩
  | some binding =>
    by_cases hnew : plan.resumePolicy = .startNew
    · refine .inr ⟨by simp [hnew], by simp [hnew], ?_⟩
      intro key b h
      simp only [hnew, if_true] at h
      rw [Table.get_remove] at h
      split at h
      · cases h
      · exact h
    · exact .inl ⟨binding, rfl, by simp [hnew]⟩

/-- The store's bindings all keep a property. -/
def StoreOk (P : RuntimeSessionBinding → Prop) (store : SessionStore) : Prop :=
  ∀ key b, store.get key = some b → P b

variable {P : RuntimeSessionBinding → Prop} {store : SessionStore}

theorem StoreOk.put (h : StoreOk P store) (key : RuntimeSessionKey) (hb : P b) :
    StoreOk P (store.put key b) := by
  intro key' b' hget
  rw [Table.get_put] at hget
  split at hget
  · cases hget
    exact hb
  · exact h key' b' hget

theorem StoreOk.remove (h : StoreOk P store) (key : RuntimeSessionKey) :
    StoreOk P (store.remove key) := by
  intro key' b' hget
  rw [Table.get_remove] at hget
  split at hget
  · cases hget
  · exact h key' b' hget

theorem loadSession_ok (hempty : P {}) (h : StoreOk P store) (plan : RuntimeSessionPlan) :
    StoreOk P (loadSession store plan).store ∧ P (loadSession store plan).binding := by
  rcases loadSession_cases store plan with ⟨b, hget, hload⟩ | ⟨hbinding, -, hsub⟩
  · rw [hload]
    exact ⟨h, h _ _ hget⟩
  · rw [hbinding]
    exact ⟨fun key b hb => h key b (hsub key b hb), hempty⟩

theorem loadSession_fresh (store : SessionStore) (plan : RuntimeSessionPlan)
    (h : openDisposition (loadSession store plan) ≠ .resumed) :
    (loadSession store plan).binding = {} := by
  rcases loadSession_cases store plan with ⟨b, -, hload⟩ | ⟨hbinding, -, -⟩
  · rw [hload] at h
    exact absurd rfl h
  · exact hbinding

theorem promptFor_cases (run : RunRequested) (loaded : LoadedSession) :
    promptFor run loaded = run ∨ ∃ b, promptFor run loaded = contextDeltaForSession run b := by
  unfold promptFor
  split
  · exact .inr ⟨_, rfl⟩
  · exact .inl rfl

theorem planRuntimeSession_cursor {scope : RuntimeKind → RuntimeConfig → String}
    {kind : RuntimeKind} {config : RuntimeConfig} {plan : RuntimeSessionPlan}
    (h : planRuntimeSession scope kind config run = .ok plan) :
    plan.contextCursor = run.session.contextCursor := by
  unfold planRuntimeSession at h
  dsimp only at h
  split at h
  · cases h
  · cases h
    rfl

end AgentRoom.Context
