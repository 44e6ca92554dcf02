import AgentRoom.Domain.Text
import AgentRoom.Run.Repository

/-!
# Hosted invocation intents

`HostedInvocationRepository`: the one row a Hosted Agent's Run gets before its provider
request may leave Central. The row and the Run change in one transaction wherever both
change; what the database refuses of the row, its checks and its triggers, aborts that
transaction.
-/

namespace AgentRoom.Hosted

open RunRepository

inductive HostedInvocationState where
  | prepared | dispatching | streaming | completed | failed | canceled | outcomeUnknown
  deriving DecidableEq

/-- `invocationTerminalStates`. -/
def HostedInvocationState.terminal : HostedInvocationState → Bool
  | .completed | .failed | .canceled | .outcomeUnknown => true
  | .prepared | .dispatching | .streaming => false

/-- The three cancellation columns, which are set together. -/
structure CancellationRequest where
  requestedAt : Time
  requestedByMemberId : MemberId
  reason : String

/-- A row of `hosted_invocation_intents`; its provider and its idempotency key are fixed by the
Run. -/
structure HostedInvocationRecord where
  invocationId : Nat
  runId : RunId
  teamId : TeamId
  agentId : AgentId
  profileRevision : Nat
  credentialVersion : Nat
  model : String
  deadlineAt : Time
  promptSha256 : String
  state : HostedInvocationState
  failureCode : Option String
  preparedAt : Time
  dispatchedAt : Option Time
  streamingAt : Option Time
  cancellation : Option CancellationRequest
  terminalAt : Option Time
  updatedAt : Time

/-- `/^[A-Z0-9_]{1,80}$/u`. -/
def failureCodePattern (value : String) : Bool :=
  1 ≤ value.length && value.length ≤ 80 &&
    value.toList.all fun c => c.isUpper || c.isDigit || c = '_'

def closedFailureCode (value : String) : String :=
  if failureCodePattern value then value else "HOSTED_INVOCATION_FAILED"

/-- The checks of the table on one row. -/
def HostedInvocationRecord.valid (row : HostedInvocationRecord) : Bool :=
  row.failureCode.all failureCodePattern &&
  (row.streamingAt.isNone || row.dispatchedAt.isSome) &&
  match row.state with
  | .prepared => row.dispatchedAt.isNone && row.streamingAt.isNone && row.terminalAt.isNone &&
      row.failureCode.isNone
  | .dispatching => row.dispatchedAt.isSome && row.streamingAt.isNone && row.terminalAt.isNone &&
      row.failureCode.isNone
  | .streaming => row.dispatchedAt.isSome && row.streamingAt.isSome && row.terminalAt.isNone &&
      row.failureCode.isNone
  | .completed => row.dispatchedAt.isSome && row.terminalAt.isSome && row.failureCode.isNone
  | .failed => row.terminalAt.isSome && row.failureCode.isSome
  | .canceled => row.terminalAt.isSome && row.failureCode.isSome && row.cancellation.isSome
  | .outcomeUnknown => row.dispatchedAt.isSome && row.terminalAt.isSome && row.failureCode.isSome

def HostedInvocationRecord.ended (row : HostedInvocationRecord) (state : HostedInvocationState)
    (failureCode : Option String) (now : Time) : HostedInvocationRecord :=
  { row with state, failureCode, terminalAt := some now, updatedAt := now }

/-- A row that passed the checks. -/
abbrev StoredInvocation := { row : HostedInvocationRecord // row.valid = true }

/-- `hosted_invocation_intents_require_monotonic_state`. -/
def legalTransition : HostedInvocationState → HostedInvocationState → Bool
  | .prepared, .dispatching | .prepared, .failed | .prepared, .canceled => true
  | .dispatching, .streaming | .dispatching, .completed | .dispatching, .failed
  | .dispatching, .outcomeUnknown => true
  | .streaming, .completed | .streaming, .failed | .streaming, .outcomeUnknown => true
  | _, _ => false

/-- Central's database with the Hosted tables. -/
structure HostedDb where
  central : Central
  invocations : Table RunId StoredInvocation

/-- A program over that database. -/
abbrev HDb (α : Type) := Tx HostedDb Err α

/-- A program over the Run tables alone. -/
def onCentral {α : Type} (x : Db α) : HDb α := fun db =>
  match x db.central with
  | (r, central) => (r, { db with central })

/-- What an invocation freezes of a Run and of its Agent's profile. -/
structure PrepareInput where
  runId : RunId
  teamId : TeamId
  agentId : AgentId
  profileRevision : Nat
  credentialVersion : Nat
  model : String
  deadlineAt : Time
  promptSha256 : String
  now : Time

/-- What the scheduler and the database look up outside the tables modelled here. -/
structure HostedServices where
  /-- The rest of `require_scope_insert` and the foreign keys: the Room's Team and participants,
  the current profile and its credential. -/
  inScope : Central → PrepareInput → Bool
  /-- `request_cancel_once`: the member belongs to the Team, and the check on the reason. -/
  mayCancel : Central → TeamId → MemberId → String → Bool
  /-- `redactSensitiveText`. -/
  redactSensitiveText : String → String
  maximumConcurrency : Nat

/-- The Agent exists and runs at a provider. -/
def isHosted (db : Central) (agentId : AgentId) : Bool :=
  (db.agents.get agentId).any (·.integrationMode = .hosted)

/-- A status event with an error that is not retryable. -/
def statusEvent (sequence : Nat) (status : RuntimeStatus) (code message : String) :
    RuntimeEvent :=
  .status { sequence, status, error := some { code, message, retryable := false } }

namespace HostedInvocationRepository

def getByRun (runId : RunId) : HDb (Option HostedInvocationRecord) := do
  return ((← get).invocations.get runId).map (·.val)

def require (runId : RunId) : HDb HostedInvocationRecord := do
  match ← getByRun runId with
  | none => throw s!"Hosted invocation not found: {runId}"
  | some invocation => pure invocation

def requireRun (runId : RunId) : HDb RunRecord := do
  match ← onCentral (getRun runId) with
  | none => throw s!"Run not found: {runId}"
  | some run => pure run

def store (runId : RunId) (row : HostedInvocationRecord) : HDb Unit :=
  if h : row.valid = true then
    modify fun db => { db with invocations := db.invocations.put runId ⟨row, h⟩ }
  else throw "CHECK constraint failed: hosted_invocation_intents"

/-- An `UPDATE` of the state column, of the Run's row if it is selected. The result says whether
a row changed. -/
def updateState (runId : RunId) (selects : HostedInvocationRecord → Bool)
    (next : HostedInvocationRecord → HostedInvocationRecord) : HDb Bool := do
  match ← getByRun runId with
  | none => pure false
  | some row =>
    if selects row = false then pure false
    else if (next row).updatedAt < row.updatedAt ∨
        legalTransition row.state (next row).state = false then
      throw "Hosted invocation intent state transition is invalid"
    else
      store runId (next row)
      pure true

/-- The comparison of an existing intent with the input. -/
def matchesInput (existing : HostedInvocationRecord) (input : PrepareInput) : Bool :=
  existing.teamId = input.teamId && existing.agentId = input.agentId &&
    existing.profileRevision = input.profileRevision &&
    existing.credentialVersion = input.credentialVersion && existing.model = input.model &&
    existing.deadlineAt = input.deadlineAt && existing.promptSha256 = input.promptSha256

/-- The row `prepare` inserts. -/
def preparedRow (invocationId : Nat) (input : PrepareInput) : HostedInvocationRecord where
  invocationId := invocationId
  runId := input.runId
  teamId := input.teamId
  agentId := input.agentId
  profileRevision := input.profileRevision
  credentialVersion := input.credentialVersion
  model := input.model
  deadlineAt := input.deadlineAt
  promptSha256 := input.promptSha256
  state := .prepared
  failureCode := none
  preparedAt := input.now
  dispatchedAt := none
  streamingAt := none
  cancellation := none
  terminalAt := none
  updatedAt := input.now

/-- `hosted_invocation_intents_require_scope_insert`. -/
def insertAllowed (services : HostedServices) (db : Central) (input : PrepareInput) : Bool :=
  (db.runs.get input.runId).any (·.targetAgentId = input.agentId) &&
    isHosted db input.agentId && (db.agents.get input.agentId).any (·.enabled) &&
    services.inScope db input

variable (services : HostedServices)

/-- **`prepare`.** -/
def prepare (input : PrepareInput) : HDb HostedInvocationRecord :=
  Tx.immediate do
    match ← getByRun input.runId with
    | some existing =>
      if matchesInput existing input then pure existing
      else throw "Hosted invocation intent does not match its Run"
    | none =>
      let invocationId ← onCentral createOpaqueId
      if insertAllowed services (← get).central input then
        store input.runId (preparedRow invocationId input)
        require input.runId
      else throw "Hosted invocation intent scope is invalid"

/-- The event of a Run whose deadline passed in the queue. -/
def expiredEvent (sequence : Nat) : RuntimeEvent :=
  .status { sequence, status := .expired, error := some runExpired }

/-- **`markDispatching`.** The fence: the intent leaves `prepared` and the Run is delivered in one
transaction. -/
def markDispatching (runId : RunId) (now : Time) : HDb HostedInvocationRecord :=
  Tx.immediate do
    let invocation ← require runId
    if invocation.state ≠ .prepared then pure invocation
    else
      let run ← requireRun runId
      if run.state ≠ .queued then
        throw ("Hosted Run cannot dispatch from state: " ++ stateText run.state)
      else if run.deadlineAt ≤ now then
        let _ ← onCentral (applyEvent runId (expiredEvent (run.lastSequence + 1)) now)
        let _ ← updateState runId (·.state = .prepared) fun row =>
          row.ended .failed (some "HOSTED_RUN_EXPIRED_PRE_DISPATCH") now
        require runId
      else
        let changed ← updateState runId (·.state = .prepared) fun row =>
          { row with state := .dispatching, dispatchedAt := some now, updatedAt := now }
        if changed then
          let _ ← onCentral (applyEvent runId
            (.status { sequence := run.lastSequence + 1, status := .delivered }) now)
          require runId
        else throw "Hosted invocation dispatch fence changed"

def markStreaming (runId : RunId) (now : Time) : HDb HostedInvocationRecord :=
  Tx.immediate do
    let invocation ← require runId
    if invocation.state = .streaming ∨ invocation.state.terminal then pure invocation
    else if invocation.state ≠ .dispatching then
      throw "Hosted invocation cannot enter streaming"
    else
      let _ ← updateState runId (·.state = .dispatching) fun row =>
        { row with state := .streaming, streamingAt := some now, updatedAt := now }
      require runId

def requestCancellation (runId : RunId) (memberId : MemberId) (reason : String) (now : Time) :
    HDb (Option HostedInvocationRecord) :=
  Tx.immediate do
    match ← getByRun runId with
    | none => pure none
    | some invocation =>
      if invocation.state.terminal then pure (some invocation)
      else if invocation.cancellation.isSome then pure (some invocation)
      else if services.mayCancel (← get).central invocation.teamId memberId reason then
        store runId
          { invocation with
            cancellation := some { requestedAt := now, requestedByMemberId := memberId, reason }
            updatedAt := now }
        getByRun runId
      else throw "Hosted invocation cancellation request is invalid"

/-- **`cancelPrepared`.** -/
def cancelPrepared (runId : RunId) (memberId : MemberId) (reason : String) (now : Time) :
    HDb RunRecord :=
  Tx.immediate do
    let invocation ← require runId
    let run ← requireRun runId
    if invocation.state ≠ .prepared then
      throw "Hosted invocation already crossed its dispatch fence"
    else if run.state ≠ .queued then throw "Prepared Hosted Run is not queued"
    else
      let _ ← requestCancellation services runId memberId reason now
      let canceled ← onCentral (applyEvent runId
        (statusEvent (run.lastSequence + 1) .canceled "HOSTED_RUN_CANCELED_PRE_DISPATCH"
          "Hosted Run was canceled before provider dispatch.") now)
      let _ ← updateState runId (fun row => row.state = .prepared && row.cancellation.isSome)
        fun row => row.ended .canceled (some "HOSTED_RUN_CANCELED_PRE_DISPATCH") now
      pure canceled.run

def invocationState : RunState → HostedInvocationState
  | .completed => .completed
  | .canceled => .canceled
  | .outcomeUnknown => .outcomeUnknown
  | _ => .failed

/-- The state an intent settles in: past dispatch, a canceled Run's outcome is unknown. -/
def settledState (invocation : HostedInvocationState) (run : RunState) : HostedInvocationState :=
  if run = .canceled ∧ invocation ≠ .prepared then .outcomeUnknown else invocationState run

/-- **`settleFromRun`.** -/
def settleFromRun (runId : RunId) (failureCode : String) (now : Time) :
    HDb HostedInvocationRecord :=
  Tx.immediate do
    let invocation ← require runId
    if invocation.state.terminal then pure invocation
    else
      let run ← requireRun runId
      if run.state.terminal = false then
        throw "Hosted invocation cannot settle before its Run"
      else
        let state := settledState invocation.state run.state
        let code := if state = .completed then none else some (closedFailureCode failureCode)
        let _ ← updateState runId (fun row => !row.state.terminal) fun row =>
          row.ended state code now
        require runId

/-- The rows `listRunnableQueuedRunIds` selects. -/
def listRunnableQueuedRunIds (db : HostedDb) : List RunId :=
  (Table.orderBy (fun r => [r.createdAt, r.runId])
    (db.central.runs.rows.filter fun run =>
      run.state = .queued ∧ isHosted db.central run.targetAgentId ∧
        (db.central.agents.get run.targetAgentId).any (·.enabled) ∧
        (db.invocations.get run.runId).all fun row =>
          row.val.state = .prepared ∧ row.val.cancellation.isNone)).map (·.runId)

/-! ## Recovery -/

structure HostedInvocationRecovery where
  runnableRunIds : List RunId
  outcomeUnknownRunIds : List RunId
  reconciledRunIds : List RunId

/-- The list of `HostedInvocationRecovery` a Run enters. -/
inductive Recovered where
  | runnable | outcomeUnknown | reconciled
  deriving DecidableEq

/-- The failure code of an intent found behind its ended Run. -/
def recoveryCode (run : RunState) : String :=
  if run = .expired then "HOSTED_RUN_EXPIRED_PRE_DISPATCH"
  else "HOSTED_RUN_" ++ (stateText run).toUpper

/-- The request recorded with an intent that is still prepared. -/
def preparedCancellation (invocation : HostedInvocationRecord) : Option CancellationRequest :=
  if invocation.state = .prepared then invocation.cancellation else none

/-- One intent of the loop of `recover`, as it was selected. -/
def recoverInvocation (now : Time) (invocation : HostedInvocationRecord) :
    HDb (RunId × Recovered) := do
  match ← onCentral (getRun invocation.runId) with
  | none => throw "Hosted invocation Run is unavailable"
  | some run =>
    if run.state.terminal then
      let _ ← settleFromRun run.runId (recoveryCode run.state) now
      pure (run.runId, .reconciled)
    else
      match preparedCancellation invocation with
      | some request => do
          let _ ← cancelPrepared services run.runId request.requestedByMemberId request.reason now
          pure (run.runId, .reconciled)
      | none => do
          if invocation.state = .prepared ∧ run.state = .queued then
            pure (run.runId, .runnable)
          else
            let unknown ← onCentral (applyEvent run.runId
              (statusEvent (run.lastSequence + 1) .outcomeUnknown "HOSTED_SERVER_RESTART_UNKNOWN"
                "Central restarted after the Hosted provider dispatch fence.") now)
            if invocation.state = .prepared then
              -- the database refuses `prepared` to `outcome_unknown`
              let _ ← updateState run.runId (·.state = .prepared) fun row =>
                row.ended .failed (some "HOSTED_DISPATCH_FENCE_INVALID") now
              pure (run.runId, .outcomeUnknown)
            else
              let _ ← settleFromRun unknown.run.runId "HOSTED_SERVER_RESTART_UNKNOWN" now
              pure (run.runId, .outcomeUnknown)

/-- The intents `recover` selects. -/
def unsettledInvocations (db : HostedDb) : List HostedInvocationRecord :=
  Table.orderBy (fun row => [row.preparedAt, row.invocationId])
    ((db.invocations.rows.map (·.val)).filter fun row => row.state.terminal = false)

/-- The started Runs of Hosted Agents without an intent. -/
def orphanedRunIds (db : HostedDb) : List RunId :=
  (Table.orderBy (fun r => [r.createdAt, r.runId])
    (db.central.runs.rows.filter fun run =>
      isHosted db.central run.targetAgentId ∧ (run.state = .delivered ∨ run.state = .working) ∧
        (db.invocations.get run.runId).isNone)).map (·.runId)

/-- One Run of the second loop of `recover`. -/
def recoverOrphan (now : Time) (runId : RunId) : HDb RunId := do
  let run ← requireRun runId
  let _ ← onCentral (applyEvent runId
    (statusEvent (run.lastSequence + 1) .outcomeUnknown "HOSTED_INVOCATION_INTENT_MISSING"
      "Hosted provider acceptance could not be reconstructed.") now)
  pure runId

/-- The Runs of one list of the recovery. -/
def selectRecovered (kind : Recovered) (recovered : List (RunId × Recovered)) : List RunId :=
  (recovered.filter (·.2 = kind)).map (·.1)

/-- **`recover`.** One transaction. -/
def recover (now : Time) : HDb HostedInvocationRecovery :=
  Tx.immediate do
    let recovered ← Tx.forEach (recoverInvocation services now) (unsettledInvocations (← get))
    let orphaned ← Tx.forEach (recoverOrphan now) (orphanedRunIds (← get))
    let runnable := selectRecovered .runnable recovered
    let queued := (listRunnableQueuedRunIds (← get)).filter (· ∉ runnable)
    pure
      { runnableRunIds := runnable ++ queued
        outcomeUnknownRunIds := selectRecovered .outcomeUnknown recovered ++ orphaned
        reconciledRunIds := selectRecovered .reconciled recovered }

end HostedInvocationRepository

end AgentRoom.Hosted
