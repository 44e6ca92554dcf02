import AgentRoom.Lib.Proc
import AgentRoom.Hosted.Invocations

/-!
# The hosted scheduler

`HostedRunScheduler`, with the `InProcessRunExecutor` it hands a prepared Run to. Each
function is a program over the database transactions, the clock, the Run's adapter and the
scheduler's own memory. The server runs a function up to its next `await` in one go; the
programs allow other code between any two operations, which is more than the server does
and includes a crash at any of them.
-/

namespace AgentRoom.Hosted

/-- How `HostedOpenAIResponsesError` asks a Run to end. -/
inductive Disposition where
  | failed | canceled | outcomeUnknown
  deriving DecidableEq

def Disposition.status : Disposition → RuntimeStatus
  | .failed => .failed
  | .canceled => .canceled
  | .outcomeUnknown => .outcomeUnknown

/-- What is thrown. -/
inductive Failure where
  | error (message : String)
  /-- A `RuntimeExecutionFailure`. -/
  | runtime (code : String) (disposition : Disposition) (message : String) (retryable : Bool)

inductive Transaction where
  | getRun (runId : RunId)
  | getByRun (runId : RunId)
  | listEvents (runId : RunId) (afterSequence : Nat)
  | applyEvent (runId : RunId) (event : RuntimeEvent) (now : Time)
  | applyReplyAndTerminal (runId : RunId) (reply : ReplyEvent) (terminalSequence : Nat)
      (now : Time)
  | prepare (input : PrepareInput)
  | markDispatching (runId : RunId) (now : Time)
  | markStreaming (runId : RunId) (now : Time)
  | requestCancellation (runId : RunId) (memberId : MemberId) (reason : String) (now : Time)
  | cancelPrepared (runId : RunId) (memberId : MemberId) (reason : String) (now : Time)
  | settleFromRun (runId : RunId) (failureCode : String) (now : Time)

@[reducible] def Transaction.Result : Transaction → Type
  | .getRun _ => Option RunRecord
  | .getByRun _ => Option HostedInvocationRecord
  | .listEvents .. => List RunEventRecord
  | .applyEvent .. | .applyReplyAndTerminal .. => AppliedRunEvent
  | .prepare _ | .markDispatching .. | .markStreaming .. | .settleFromRun .. =>
    HostedInvocationRecord
  | .requestCancellation .. => Option HostedInvocationRecord
  | .cancelPrepared .. => RunRecord

def Transaction.run (services : HostedServices) : (t : Transaction) → HDb t.Result
  | .getRun runId => onCentral (RunRepository.getRun runId)
  | .getByRun runId => HostedInvocationRepository.getByRun runId
  | .listEvents runId afterSequence => fun db =>
    (.ok ((db.central.listEvents runId).filter fun e => decide (afterSequence < e.sequence)), db)
  | .applyEvent runId event now => onCentral (RunRepository.applyEvent runId event now)
  | .applyReplyAndTerminal runId reply terminalSequence now =>
    onCentral (RunRepository.applyReplyAndTerminal runId reply terminalSequence now)
  | .prepare input => HostedInvocationRepository.prepare services input
  | .markDispatching runId now => HostedInvocationRepository.markDispatching runId now
  | .markStreaming runId now => HostedInvocationRepository.markStreaming runId now
  | .requestCancellation runId memberId reason now =>
    HostedInvocationRepository.requestCancellation services runId memberId reason now
  | .cancelPrepared runId memberId reason now =>
    HostedInvocationRepository.cancelPrepared services runId memberId reason now
  | .settleFromRun runId failureCode now =>
    HostedInvocationRepository.settleFromRun runId failureCode now

/-- What `resolveExecutionProfile` returns. -/
structure ExecutionProfile where
  teamId : TeamId
  agentId : AgentId
  profileRevision : Nat
  credentialVersion : Nat
  model : String

/-- The events the adapter yields: it reports no delivery and no expiry, and asks nothing. -/
def adapterYields : RuntimeEvent → Bool
  | .status e => (e.status = .working || e.status = .completed || e.status = .failed ||
      e.status = .canceled) && e.clarification.isNone && e.session.isNone
  | .activity _ => false
  | .output _ | .reply _ => true

/-- One step of the adapter's stream: the next event, or its error. -/
inductive AdapterStep where
  | yields (event : { event : RuntimeEvent // adapterYields event = true })
  | throws (failure : Failure)

inductive Op where
  | transaction (t : Transaction)
  | clock
  /-- `hasCurrentRoomScope`. -/
  | hasCurrentRoomScope (run : RunRecord)
  /-- The target Agent, trigger Message and Context plan of `InProcessRunExecutor.prepare`. -/
  | planExecution (run : RunRecord)
  | resolveExecutionProfile (agentId : AgentId)
  /-- `HostedOpenAIResponsesAdapter.prepare`: the digest of the request body. -/
  | prepareAdapter (run : RunRecord) (execution : ExecutionProfile)
  /-- The Room is open, belongs to the Team and lists the Agent. -/
  | roomAdmits (run : RunRecord) (execution : ExecutionProfile)
  /-- `deadlineTimer`. -/
  | armTimer (runId : RunId)
  /-- **The provider request**, sent once the adapter is asked for its first event. The response
  is how many steps its stream has. -/
  | send (runId : RunId)
  | adapterStep (runId : RunId)
  | notifyTerminal (run : RunRecord)
  /-- The entries of `active`. -/
  | active
  | stopAccepting
  /-- `controller.abort`. -/
  | abort (runId : RunId)

@[reducible] def Op.Resp : Op → Type
  | .transaction t => Except Err t.Result
  | .clock => Time
  | .hasCurrentRoomScope _ => Bool
  | .planExecution _ => Except Failure Unit
  | .resolveExecutionProfile _ => Except Failure ExecutionProfile
  | .prepareAdapter .. => Except Failure String
  | .roomAdmits .. => Bool
  | .armTimer _ => Unit
  | .send _ => Nat
  | .adapterStep _ => AdapterStep
  | .notifyTerminal _ => Except Failure Unit
  | .active => List (RunId × AgentId)
  | .stopAccepting => Unit
  | .abort _ => Unit

def hostedInterface : Interface where
  Op := Op
  Resp := Op.Resp

abbrev Prog (α : Type) := Proc hostedInterface Failure α

/-- A transaction, failing as it throws. -/
def transaction (t : Transaction) : Prog t.Result :=
  .call (.transaction t) fun r => match r with
    | .ok a => .ret a
    | .error message => .fail (.error message)

def clock : Prog Time := .call .clock fun now => .ret now

def notifyTerminal (run : RunRecord) : Prog Unit :=
  .call (.notifyTerminal run) fun r => .ofExcept r

def hasCurrentRoomScope (run : RunRecord) : Prog Bool :=
  .call (.hasCurrentRoomScope run) fun r => .ret r

def planExecution (run : RunRecord) : Prog Unit :=
  .call (.planExecution run) fun r => .ofExcept r

def resolveExecutionProfile (agentId : AgentId) : Prog ExecutionProfile :=
  .call (.resolveExecutionProfile agentId) fun r => .ofExcept r

def prepareAdapter (run : RunRecord) (execution : ExecutionProfile) : Prog String :=
  .call (.prepareAdapter run execution) fun r => .ofExcept r

def roomAdmits (run : RunRecord) (execution : ExecutionProfile) : Prog Bool :=
  .call (.roomAdmits run execution) fun r => .ret r

def fail {α : Type} (message : String) : Prog α := .fail (.error message)

def applyNow (runId : RunId) (event : RuntimeEvent) : Prog RunRecord := do
  let now ← clock
  let applied ← transaction (.applyEvent runId event now)
  pure applied.run

/-- `settleFromRun`, now. -/
def settleNow (runId : RunId) (failureCode : String) : Prog Unit := do
  let now ← clock
  let _ ← transaction (.settleFromRun runId failureCode now)
  pure ()

/-! ## The in-process executor -/

namespace InProcessRunExecutor

def prepare (runId : RunId) : Prog RunRecord := do
  match ← transaction (.getRun runId) with
  | none => fail s!"Run not found: {runId}"
  | some initial =>
    if initial.state.terminal then fail ("Run is already terminal: " ++ stateText initial.state)
    else if initial.state ≠ .queued ∧ initial.state ≠ .delivered then
      fail ("Run cannot be started from state: " ++ stateText initial.state)
    else
      planExecution initial
      pure initial

def finish (run : RunRecord) (status : RuntimeStatus) (code message : String) (retryable : Bool) :
    Prog RunRecord :=
  applyNow run.runId
    (.status
      { sequence := run.lastSequence + 1, status, error := some { code, message, retryable } })

def finishUnknown (run : RunRecord) (code : String) : Prog RunRecord :=
  finish run .outcomeUnknown code
    "The in-process Runtime did not produce a known terminal outcome." false

/-- The variables of the loop over the adapter's events. -/
structure Reading where
  provisionalOutput : String := ""
  pendingReply : Option ReplyEvent := none
  streamingRecorded : Bool := false

/-- `trackedAdapter`: the first `working` marks the intent streaming before it is passed on. -/
def track (runId : RunId) (s : Reading) (event : RuntimeEvent) : Prog Reading :=
  match event with
  | .status e =>
    if e.status = .working ∧ s.streamingRecorded = false then do
      let now ← clock
      let _ ← transaction (.markStreaming runId now)
      pure { s with streamingRecorded := true }
    else pure s
  | _ => pure s

/-- The event as it is stored. -/
def safeEvent (services : HostedServices) : RuntimeEvent → RuntimeEvent
  | .reply e => .reply { e with content := services.redactSensitiveText e.content }
  | .output e => .output { e with content := services.redactSensitiveText e.content }
  | event => event

/-- The output so far, if the delta and the whole are within their bounds. -/
def provisional (s : Reading) (e : OutputEvent) : Except Failure String :=
  let whole := if e.reset then e.content else s.provisionalOutput ++ e.content
  if e.content = "" ∨ exceedsUnicodeCodePointLimit e.content 20000 then
    .error (.error "Runtime output delta must contain 1 to 20000 characters")
  else if exceedsUnicodeCodePointLimit whole 20000 then
    .error (.error "Runtime provisional output exceeds 20000 characters")
  else .ok whole

/-- The checks on an event's content. -/
def checked (s : Reading) (event : RuntimeEvent) : Except Failure Reading :=
  match event with
  | .output e => (provisional s e).map fun whole => { s with provisionalOutput := whole }
  | .reply e =>
    if isBlank e.content ∨ exceedsUnicodeCodePointLimit e.content 20000 then
      .error (.error "Runtime reply must contain 1 to 20000 characters")
    else .ok s
  | _ => .ok s

/-- One event of the stream: a reply waits for the completion it is stored with. -/
def readEvent (services : HostedServices) (runId : RunId) (s : Reading) (event : RuntimeEvent) :
    Prog Reading := do
  let s ← track runId s event
  let event := safeEvent services event
  let s ← Proc.ofExcept (checked s event)
  match s.pendingReply, event with
  | some reply, .status e =>
    if e.status ≠ .completed then fail "Runtime reply must be followed by completed status"
    else
      let now ← clock
      let _ ← transaction (.applyReplyAndTerminal runId reply e.sequence now)
      pure { s with pendingReply := none }
  | some _, _ => fail "Runtime reply must be followed by completed status"
  | none, .reply reply => pure { s with pendingReply := some reply }
  | none, event => do
      let _ ← applyNow runId event
      pure s

/-- The steps of the stream that are left. -/
def readStream (services : HostedServices) (runId : RunId) : Nat → Reading → Prog Reading
  | 0, s => pure s
  | n + 1, s =>
    .call (.adapterStep runId) fun step => match step with
      | .throws failure => .fail failure
      | .yields event =>
        (readEvent services runId s event).bind fun s => readStream services runId n s

/-- The body of the `try` of `executePrepared`. -/
def runAdapter (services : HostedServices) (current : RunRecord) : Prog RunRecord :=
  .call (.send current.runId) fun steps => do
    let s ← readStream services current.runId steps {}
    match ← transaction (.getRun current.runId) with
    | none => finishUnknown current "RUNTIME_ENDED_EARLY"
    | some completed =>
      if s.pendingReply.isSome ∨ completed.state.terminal = false then
        finishUnknown completed "RUNTIME_ENDED_EARLY"
      else pure completed

/-- `error.message.includes("sequence")`. -/
def mentionsSequence (message : String) : Bool := 1 < (message.splitOn "sequence").length

/-- The `catch` of `executePrepared`. -/
def afterFailure (current : RunRecord) (failure : Failure) : Prog RunRecord := do
  let latest := (← transaction (.getRun current.runId)).getD current
  if latest.state.terminal then pure latest
  else
    match failure with
    | .runtime code disposition message retryable =>
      finish latest disposition.status code (String.ofList (message.toList.take 512)) retryable
    | .error message =>
      finishUnknown latest (if mentionsSequence message then "RUNTIME_SEQUENCE_INVALID"
        else "RUNTIME_EXECUTION_FAILED")

/-- **`executePrepared`.** -/
def executePrepared (services : HostedServices) (prepared : RunRecord) : Prog RunRecord := do
  match ← transaction (.getRun prepared.runId) with
  | none => fail s!"Run not found: {prepared.runId}"
  | some current =>
    if current.state.terminal then pure current
    else if current.targetAgentId ≠ prepared.targetAgentId ∨
        (current.state ≠ .queued ∧ current.state ≠ .delivered) then
      fail ("Run cannot be started from state: " ++ stateText current.state)
    else
      match ← (runAdapter services current).attempt with
      | .ok run => pure run
      | .error failure => afterFailure current failure

end InProcessRunExecutor

/-! ## One Run -/

namespace HostedRunScheduler

def finishUnknown (run : RunRecord) (code message : String) (now : Time) : Prog RunRecord := do
  let latest := (← transaction (.getRun run.runId)).getD run
  if latest.state.terminal then pure latest
  else
    let applied ← transaction (.applyEvent run.runId
      (statusEvent (latest.lastSequence + 1) .outcomeUnknown code message) now)
    pure applied.run

def failBeforeDispatch (run : RunRecord) (code message : String) : Prog RunRecord := do
  let now ← clock
  let latest := (← transaction (.getRun run.runId)).getD run
  if latest.state.terminal then pure latest
  else
    let applied ← transaction (.applyEvent run.runId
      (statusEvent (latest.lastSequence + 1) .failed code message) now)
    match ← transaction (.getByRun run.runId) with
    | none => pure applied.run
    | some _ =>
      let _ ← transaction (.settleFromRun run.runId code now)
      pure applied.run

/-- The Run failed for its Room and its requesters were told. -/
def refuseRoom (run : RunRecord) : Prog Unit := do
  let failed ← failBeforeDispatch run "HOSTED_ROOM_ACCESS_REVOKED"
    "Hosted Agent Room access was revoked before provider dispatch."
  notifyTerminal failed

/-- The Run of an overdue queue entry, expired; otherwise nothing. -/
def expireBeforePreparation (runId : RunId) (queued : Option RunRecord) :
    Prog (Option RunRecord) :=
  match queued with
  | none => pure none
  | some run =>
    if run.state ≠ .queued then pure none
    else do
      let now ← clock
      if run.deadlineAt ≤ now then
        let expired ← applyNow runId
          (HostedInvocationRepository.expiredEvent (run.lastSequence + 1))
        pure (some expired)
      else pure none

/-- After the expiry: the intent, if there is one, fails with it. -/
def settleExpired (runId : RunId) (expired : RunRecord) : Prog Unit := do
  match ← transaction (.getByRun runId) with
  | none => pure ()
  | some _ => settleNow runId "HOSTED_RUN_EXPIRED_PRE_DISPATCH"
  notifyTerminal expired

/-- The intent of a prepared execution, taken through the fence. -/
def crossFence (runId : RunId) (run : RunRecord) (execution : ExecutionProfile)
    (promptSha256 : String) : Prog (Option RunRecord) := do
  let now ← clock
  let _ ← transaction (.prepare
    { runId, teamId := execution.teamId, agentId := execution.agentId
      profileRevision := execution.profileRevision
      credentialVersion := execution.credentialVersion, model := execution.model
      deadlineAt := run.deadlineAt, promptSha256, now })
  let now ← clock
  let dispatching ← transaction (.markDispatching runId now)
  if dispatching.state = .dispatching then pure (some run)
  else
    match ← transaction (.getRun runId) with
    | none => pure none
    | some terminal =>
      if terminal.state.terminal then
        notifyTerminal terminal
        pure none
      else pure none

/-- `queued && !this.hasCurrentRoomScope(queued)`: the Run, if it lost its Room. -/
def outOfScope (queued : Option RunRecord) : Prog (Option RunRecord) :=
  match queued with
  | none => pure none
  | some run => do
      let inScope ← hasCurrentRoomScope run
      pure (if inScope then none else some run)

/-- The `try` of `executeOne` up to the dispatch fence: the Run as it was prepared, if the fence
was crossed. -/
def untilDispatch (runId : RunId) : Prog (Option RunRecord) := do
  let queued ← transaction (.getRun runId)
  match ← expireBeforePreparation runId queued with
  | some expired =>
    settleExpired runId expired
    pure none
  | none =>
    match ← outOfScope queued with
    | some run =>
      refuseRoom run
      pure none
    | none =>
      let prepared ← InProcessRunExecutor.prepare runId
      let execution ← resolveExecutionProfile prepared.targetAgentId
      let digest ← prepareAdapter prepared execution
      let admitted ← roomAdmits prepared execution
      if admitted = false then
        refuseRoom prepared
        pure none
      else crossFence runId prepared execution digest

def terminalFailureCode (run : RunRecord) : Prog String := do
  let events ← transaction (.listEvents run.runId (run.lastSequence - 1))
  match events.getLast? with
  | some { event := .status { error := some error, .. }, .. } => pure error.code
  | _ => pure ("HOSTED_RUN_" ++ (stateText run.state).toUpper)

/-- The `try` of `executeOne` past the dispatch fence. -/
def afterDispatch (services : HostedServices) (runId : RunId) (prepared : RunRecord) :
    Prog Unit :=
  .call (.armTimer runId) fun _ => do
    let terminal ← InProcessRunExecutor.executePrepared services prepared
    let failureCode ← terminalFailureCode terminal
    settleNow runId failureCode
    notifyTerminal terminal

/-- The Run as the `catch` of `executeOne` ends it. -/
def endFailed (runId : RunId) (crossedDispatchFence : Bool) (latest : RunRecord) :
    Prog RunRecord :=
  if latest.state.terminal then pure latest
  else if crossedDispatchFence then do
    let now ← clock
    finishUnknown latest "HOSTED_PROVIDER_OUTCOME_UNKNOWN"
      "Hosted provider execution ended without a known outcome." now
  else
    applyNow runId (statusEvent (latest.lastSequence + 1) .failed
      "HOSTED_CONFIGURATION_UNAVAILABLE" "Hosted Agent configuration is unavailable.")

/-- The `catch` of `executeOne`. -/
def afterFailure (runId : RunId) (crossedDispatchFence : Bool) : Prog Unit := do
  match ← transaction (.getRun runId) with
  | none => pure ()
  | some latest =>
    let terminal ← endFailed runId crossedDispatchFence latest
    match ← transaction (.getByRun runId) with
    | none => pure ()
    | some _ => settleNow runId (if crossedDispatchFence then "HOSTED_PROVIDER_OUTCOME_UNKNOWN"
        else "HOSTED_CONFIGURATION_UNAVAILABLE")
    notifyTerminal terminal

/-- **`executeOne`.** -/
def executeOne (services : HostedServices) (runId : RunId) : Prog Unit := do
  match ← (untilDispatch runId).attempt with
  | .error _ => afterFailure runId false
  | .ok none => pure ()
  | .ok (some prepared) =>
    match ← (afterDispatch services runId prepared).attempt with
    | .error _ => afterFailure runId true
    | .ok () => pure ()

/-! ## Controls -/

/-- A Run that has not ended is ended unknown, and its intent with it. -/
def endUnknown (runId : RunId) (code message : String) (now : Time) : Prog Unit := do
  match ← transaction (.getRun runId) with
  | none => pure ()
  | some run =>
    if run.state.terminal then pure ()
    else
      let _ ← finishUnknown run code message now
      let _ ← transaction (.settleFromRun runId code now)
      pure ()

def abort (runId : RunId) : Prog Unit := .call (.abort runId) fun _ => .ret ()

/-- `reason.trim()`, bounded, or the default. -/
def normalizedReason (reason : String) : String :=
  let bounded := String.ofList ((trim reason).toList.take 512)
  if bounded = "" then "Canceled by requester" else bounded

/-- **`cancel`**, of a Hosted Agent's Run. -/
def cancel (runId : RunId) (memberId : MemberId) (reason : String) : Prog Unit := do
  match ← transaction (.getRun runId) with
  | none => fail s!"Run not found: {runId}"
  | some run =>
    if run.state.terminal then pure ()
    else
      let now ← clock
      match ← transaction (.getByRun runId) with
      | none =>
        let canceled ← transaction (.applyEvent runId
          (statusEvent (run.lastSequence + 1) .canceled "HOSTED_RUN_CANCELED_PRE_DISPATCH"
            "Hosted Run was canceled before provider dispatch.") now)
        let _ ← (notifyTerminal canceled.run).attempt
        pure ()
      | some invocation =>
        if invocation.state = .prepared then
          let canceled ← transaction
            (.cancelPrepared runId memberId (normalizedReason reason) now)
          let _ ← (notifyTerminal canceled).attempt
          pure ()
        else
          let _ ← transaction
            (.requestCancellation runId memberId (normalizedReason reason) now)
          let unknown ← finishUnknown run "HOSTED_CANCEL_OUTCOME_UNKNOWN"
            "Provider cancellation could not prove the remote outcome." now
          let _ ← transaction
            (.settleFromRun runId "HOSTED_CANCEL_OUTCOME_UNKNOWN" now)
          let _ ← (notifyTerminal unknown).attempt
          abort runId

def revokeAgent (agentId : AgentId) : Prog Unit := do
  let now ← clock
  .call .active fun entries => Proc.forEach (fun entry => do
    if entry.2 ≠ agentId then pure ()
    else
      endUnknown entry.1 "HOSTED_CREDENTIAL_REVOKED_UNKNOWN"
        "Hosted credential was revoked after provider dispatch." now
      abort entry.1) entries

/-- `shutdown`, up to its wait for the active Runs. -/
def shutdown : Prog Unit :=
  .call .stopAccepting fun _ => do
    let now ← clock
    .call .active fun entries => Proc.forEach (fun entry => do
      endUnknown entry.1 "HOSTED_SERVER_SHUTDOWN_UNKNOWN"
        "Central shut down after provider dispatch." now
      abort entry.1) entries

/-- The callback of `deadlineTimer`. -/
def deadlineReached (runId : RunId) : Prog Unit := do
  let now ← clock
  endUnknown runId "HOSTED_RUN_DEADLINE_UNKNOWN"
    "Hosted provider outcome was unknown at the Run deadline." now
  abort runId

end HostedRunScheduler

end AgentRoom.Hosted
