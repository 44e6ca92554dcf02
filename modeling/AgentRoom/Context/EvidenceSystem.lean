import AgentRoom.Context.RoomSystem
import AgentRoom.Run.BridgeEvents

/-!
# Result evidence and the session of one Agent

The world of one Agent's session on one Task: the Task's published Artifacts, the
server's consumption cursor, the deliveries planned from it, the Bridge's binding
with its own cursor, the executions in progress, the reports the server has still
to apply, and what each native session was given.

Deliveries, executions, publications, crashes, lost reports and lost bindings
interleave in any order.
-/

namespace AgentRoom.Context

/-- **An Agent's session on a Task**: what is fixed in its history. -/
structure AgentSession where
  env : BridgeEnv
  kind : RuntimeKind
  config : RuntimeConfig
  taskId : TaskId
  agentId : AgentId

namespace AgentSession

variable (S : AgentSession)

/-- The scope the Agent publishes. -/
def scope : String := S.env.agentRuntimeScopeId S.kind S.config

/-- The key of the session's binding. -/
def key : RuntimeSessionKey where
  runtimeKind := S.kind
  taskId := S.taskId
  agentId := S.agentId
  workspaceFingerprint := S.config.workspaceFingerprint
  configFingerprint := S.config.configFingerprint

end AgentSession

/-- An execution of either adapter. -/
inductive Execution where
  | codex (p : CodexParser)
  | pi (e : PiExecution)

/-- **The world of one session.** -/
structure EvidenceWorld where
  /-- `agent_tasks.artifact_revision`. -/
  published : Nat
  /-- The session's row of `task_result_evidence_consumption`. -/
  cursor : Option Nat
  deliveries : Table RunId RunRequested
  /-- Delivered and not executed yet. -/
  waiting : List RunId
  store : SessionStore
  executions : List Execution
  /-- Terminal reports the server has not applied. -/
  unapplied : List SessionReport
  /-- The pages given to native sessions, in order. -/
  given : List (NativeId × EvidencePage)
  /-- The Runs refused for a cursor gap. -/
  refused : List RunId

namespace EvidenceWorld

def initial : EvidenceWorld where
  published := 0
  cursor := none
  deliveries := .empty
  waiting := []
  store := .empty
  executions := []
  unapplied := []
  given := []
  refused := []

/-- The evidence revisions a native session was given, in order. -/
def givenTo (w : EvidenceWorld) (session : NativeId) : List Nat :=
  (w.given.filter (·.1 = session)).flatMap (·.2.artifactRefs)

end EvidenceWorld

inductive EvidenceAction where
  | publish
  /-- `ensure` plans a page for a Run created when the Task was at revision `fence`. -/
  | plan (run : RunRequested) (fence : Nat)
  | execute (runId : RunId)
  | codexMessage (slot : Nat) (message : CodexMessage) (stored : Bool)
  | codexEnd (slot : Nat) (outcome : LoopEnd)
  /-- A Pi execution ends; `reported` says whether the Bridge lived to report it. -/
  | piEnd (slot : Nat) (stored reported : Bool) (outcome : PiExecution.Outcome)
  /-- The Bridge crashes during an execution. -/
  | drop (slot : Nat)
  | apply (report : Nat)
  | loseReport (report : Nat)
  | loseBinding

/-! ## The server's side -/

/-- `validateAcknowledgement`, of the page and the scope a Run was delivered with. -/
def checkAcknowledgement (cursor : Option Nat) (deliveredScope : Option String)
    (deliveredThrough : Option Nat) (scope : String) (revision : Nat) : Except Err Unit :=
  if revision ≤ cursor.getD 0 then pure ()
  else if deliveredScope ≠ some scope ∨ deliveredThrough ≠ some revision then
    throw "Result-evidence acknowledgement exceeds its delivered page"
  else pure ()

/-- The consumption cursor after a report, or the refusal of the report. -/
def acknowledgeReport (cursor : Option Nat) (run : RunRequested) (session : Option RuntimeSession) :
    Except Err (Option Nat) :=
  match BridgeRunEventService.evidenceCursor session with
  | none => pure cursor
  | some (scope, revision) =>
    match checkAcknowledgement cursor run.session.runtimeScopeId
        (run.contextPlan.resultEvidence.map (·.throughRevision)) scope revision with
    | .error e => throw e
    | .ok () =>
      pure (if revision ≤ cursor.getD 0 then cursor else some (max (cursor.getD 0) revision))

/-! ## One step -/

/-- The pages the app server is sent with `turn/start`. -/
def turnPages (requests : List CodexRequest) : List (NativeId × EvidencePage) :=
  requests.flatMap fun request =>
    match request with
    | .turnStart threadId input =>
      (input.contextPlan.resultEvidence.map fun page => (threadId, page)).toList
    | _ => []

/-- The page a Pi execution is prompted with. -/
def piPages (e : PiExecution) : List (NativeId × EvidencePage) :=
  (e.prompt.contextPlan.resultEvidence.map fun page => (e.nativeSessionId, page)).toList

/-- An end the app server's messages do not bring about. -/
def LoopEnd.external : LoopEnd → Bool
  | .failed .sessionInUse | .failed .sessionResumeFailed => false
  | _ => true

/-- The payload a page is planned into. -/
def plannedRun (S : AgentSession) (w : EvidenceWorld) (run : RunRequested) (fence : Nat) :
    RunRequested :=
  { run with
    taskId := S.taskId
    targetAgentId := S.agentId
    session :=
      { run.session with resumePolicy := .resumeOrStart, runtimeScopeId := some S.scope }
    contextPlan :=
      { run.contextPlan with resultEvidence := planResultEvidence w.published w.cursor fence } }

/-- A Run that fails before its execution starts. -/
def failedOpen (w : EvidenceWorld) (runId : RunId) (failure : OpenFailure) : EvidenceWorld :=
  { w with
    waiting := w.waiting.erase runId
    unapplied := w.unapplied ++ [{ runId, status := .failed, session := none }]
    refused := if failure = .resultEvidenceCursorGap then w.refused ++ [runId] else w.refused }

/-- **A delivered Run is executed.** -/
def executeRun (S : AgentSession) (w : EvidenceWorld) (run : RunRequested) : EvidenceWorld :=
  match S.kind with
  | .codex =>
    let opened := openCodex S.env.agentRuntimeScopeId w.store S.config run
    match opened.2 with
    | .ok p =>
      { w with
        waiting := w.waiting.erase run.runId, store := opened.1
        executions := w.executions ++ [.codex p] }
    | .error failure => failedOpen { w with store := opened.1 } run.runId failure
  | .pi =>
    let opened := openPi S.env.agentRuntimeScopeId S.env.piSessionId w.store S.config run
    match opened.2 with
    | .ok e =>
      { w with
        waiting := w.waiting.erase run.runId, store := opened.1
        executions := w.executions ++ [.pi e], given := w.given ++ piPages e }
    | .error failure => failedOpen { w with store := opened.1 } run.runId failure

/-- An execution ends with a report. -/
def endExecution (w : EvidenceWorld) (slot : Nat) (report : SessionReport) : EvidenceWorld :=
  { w with executions := w.executions.eraseIdx slot, unapplied := w.unapplied ++ [report] }

/-- A message of the app server reaches an execution. -/
def messageStep (S : AgentSession) (w : EvidenceWorld) (slot : Nat) (p : CodexParser)
    (message : CodexMessage) (stored : Bool) : EvidenceWorld :=
  let consumed := p.consume w.store stored message
  match consumed.error with
  | none =>
    { w with
      store := consumed.store
      executions := w.executions.set slot (.codex consumed.parser)
      given := w.given ++ turnPages consumed.requests }
  | some error =>
    endExecution { w with store := consumed.store } slot
      (consumed.parser.finish S.env.clarifies (.failed error))

namespace EvidenceWorld

/-- **One step**, if it can be taken. -/
def act (S : AgentSession) (w : EvidenceWorld) : EvidenceAction → Option EvidenceWorld
  | .publish => some { w with published := w.published + 1 }
  | .plan run fence =>
    if (w.deliveries.get run.runId).isSome ∨ w.published < fence then none
    else
      some { w with
        deliveries := w.deliveries.put run.runId (plannedRun S w run fence)
        waiting := w.waiting ++ [run.runId] }
  | .execute runId =>
    if runId ∈ w.waiting then (w.deliveries.get runId).map (executeRun S w) else none
  | .codexMessage slot message stored =>
    match w.executions[slot]? with
    | some (.codex p) => if p.complete then none else some (messageStep S w slot p message stored)
    | _ => none
  | .codexEnd slot outcome =>
    match w.executions[slot]? with
    | some (.codex p) =>
      if outcome.external then some (endExecution w slot (p.finish S.env.clarifies outcome))
      else none
    | _ => none
  | .piEnd slot stored reported outcome =>
    match w.executions[slot]? with
    | some (.pi e) =>
      let finished := e.finish S.env.clarifies w.store stored outcome
      some
        (if reported then endExecution { w with store := finished.1 } slot finished.2
          else { w with store := finished.1, executions := w.executions.eraseIdx slot })
    | _ => none
  | .drop slot => some { w with executions := w.executions.eraseIdx slot }
  | .apply i =>
    (w.unapplied[i]?).bind fun report =>
      (w.deliveries.get report.runId).map fun run =>
        match acknowledgeReport w.cursor run report.session with
        | .ok cursor => { w with cursor, unapplied := w.unapplied.eraseIdx i }
        | .error _ => w
  | .loseReport i => some { w with unapplied := w.unapplied.eraseIdx i }
  | .loseBinding => some { w with store := w.store.remove S.key }

end EvidenceWorld

/-- **The system of one session.** -/
def evidenceSystem (S : AgentSession) : System EvidenceWorld EvidenceAction where
  init w := w = .initial
  step action w w' := w.act S action = some w'

end AgentRoom.Context
