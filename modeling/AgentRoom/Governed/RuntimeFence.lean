import AgentRoom.Bridge.Admission
import AgentRoom.Lib.LinkOnce

/-!
# Records of the governed journals

The Bridge keeps two journals of governed Runs beside its inbox: the admissions,
and the processes that were started for them. A record carries the instant at which
it was written as a text of fixed width; among years of four digits the texts are
ordered as the instants are, and a text of any other year is not read back.

An instant counts nanoseconds from Go's zero time.

The journal of admissions is a directory with at most three records a Run: claimed, starting,
stopped. Every answer comes from reading the records back, and reading checks them against each
other. Each operation holds the store's mutex; `Start` lets go of it while the
caller's authority is asked, so it is two operations here.
-/

namespace AgentRoom.Governed

open Bridge (RuntimeAdmissionSpec RuntimeOutcome GovernedProcessIdentity Governance
  validRuntimeAdmissionSpec validRuntimeOutcome isContractRunID isSha256Digest)

/-- `Owner`: one paired local namespace. -/
structure Owner where
  serverUrl : String
  teamId : String
  deviceId : String
  ownerMemberId : String
  deriving DecidableEq

/-- The errors of the journals; `host` is whatever the file system answers. -/
inductive AdmissionError where
  | invalid | changed | conflict | notCurrent | notExist | host
  deriving DecidableEq

abbrev Instant := Int

/-- `validProfileTime` of the text of an instant: its year has four digits. -/
def validProfileTime (instant : Instant) : Bool :=
  -31622400000000000 ≤ instant && instant < 315537897600000000000

/-- `maxSafeJSONInteger`: what canonical JSON lets through. -/
def safeInteger (value : Int) : Bool :=
  -9007199254740991 ≤ value && value ≤ 9007199254740991

/-! ## Admissions -/

structure RuntimeAdmissionRecord where
  version : Nat
  owner : Owner
  spec : RuntimeAdmissionSpec
  claimedAt : Instant

structure RuntimeStartRecord where
  version : Nat
  runId : String
  admissionDigest : String
  authorityCheckedAt : Instant

structure RuntimeStopRecord where
  version : Nat
  runId : String
  admissionDigest : String
  startDigest : String
  outcome : RuntimeOutcome
  stoppedAt : Instant

/-- The numbers of a specification pass canonical JSON. -/
def canonicalSpec (spec : RuntimeAdmissionSpec) : Bool :=
  [spec.planRevision, spec.planControlRevision, spec.dispatchGeneration, spec.taskRevision,
    spec.definitionRevision, spec.criteriaRevision, spec.grantRevision,
    spec.runtimeProfileRevision].all safeInteger

/-! ## Processes -/

/-- `GovernedProcessObservation`. -/
structure ProcessObservation where
  pid : Int
  platformIdentity : String
  deriving DecidableEq

/-- `governedProcessPreparedRecord`. -/
structure ProcessPreparedRecord where
  version : Nat
  owner : Owner
  identity : GovernedProcessIdentity
  lockDigest : String
  preparedAt : Instant

/-- `governedProcessActiveRecord`. -/
structure ProcessActiveRecord where
  version : Nat
  runId : String
  preparedDigest : String
  observation : ProcessObservation
  startedAt : Instant

/-- `governedProcessTerminalRecord`; no active digest is the empty text. -/
structure ProcessTerminalRecord where
  version : Nat
  runId : String
  preparedDigest : String
  activeDigest : String
  closedAt : Instant

/-! ## Surroundings -/

/-- SHA-256 of a text, and of the canonical JSON of each record. -/
structure Digests where
  text : String → String
  admission : RuntimeAdmissionRecord → String
  start : RuntimeStartRecord → String
  prepared : ProcessPreparedRecord → String
  active : ProcessActiveRecord → String

/-- The systems the process store is built for. -/
inductive Platform where
  | unix | windows
  deriving DecidableEq

/-- What both journals of one paired Bridge share. -/
structure LocalNamespace where
  owner : Owner
  platform : Platform
  governance : Governance
  digests : Digests

/-! ## The admission journal -/

inductive AdmissionStage where
  | claimed | starting | stopped
  deriving DecidableEq

/-- `RuntimeAdmissionView`. -/
structure AdmissionView where
  spec : RuntimeAdmissionSpec
  admissionDigest : String
  state : AdmissionStage
  claimedAt : Instant
  startDigest : Option String
  authorityCheckedAt : Option Instant
  outcome : Option RuntimeOutcome
  stoppedAt : Option Instant

/-- The directory of a `RuntimeFenceStore`; `pending` counts temporary files left behind. -/
structure FenceFiles where
  claimed : Table String RuntimeAdmissionRecord
  starting : Table String RuntimeStartRecord
  stopped : Table String RuntimeStopRecord
  pending : Nat

def maxRuntimeAdmissions : Nat := 256

variable (ns : LocalNamespace)

/-! ## Reading back -/

/-- What `get` asks of a claim record. -/
def validClaimRecord (run : String) (claim : RuntimeAdmissionRecord) : Bool :=
  claim.version = 1 && claim.owner = ns.owner && claim.spec.runId = run &&
    validRuntimeAdmissionSpec ns.governance claim.spec && validProfileTime claim.claimedAt

def claimedView (claim : RuntimeAdmissionRecord) : AdmissionView where
  spec := claim.spec
  admissionDigest := ns.digests.admission claim
  state := .claimed
  claimedAt := claim.claimedAt
  startDigest := none
  authorityCheckedAt := none
  outcome := none
  stoppedAt := none

/-- What `get` asks of a start record, given the view so far. -/
def validStartRecord (run : String) (view : AdmissionView) (start : RuntimeStartRecord) : Bool :=
  start.version = 2 && start.runId = run && start.admissionDigest = view.admissionDigest &&
    validProfileTime start.authorityCheckedAt && view.claimedAt ≤ start.authorityCheckedAt

/-- The view once the Run may have started. -/
def AdmissionView.started (view : AdmissionView) (start : RuntimeStartRecord) : AdmissionView :=
  { view with
    state := .starting, startDigest := some (ns.digests.start start),
    authorityCheckedAt := some start.authorityCheckedAt }

/-- What `get` asks of a stop record, given the view so far. -/
def validStopRecord (run : String) (view : AdmissionView) (stop : RuntimeStopRecord) : Bool :=
  match view.authorityCheckedAt with
  | none => false
  | some started =>
    stop.version = 3 && stop.runId = run && stop.admissionDigest = view.admissionDigest &&
      view.startDigest = some stop.startDigest && validRuntimeOutcome stop.outcome &&
      validProfileTime stop.stoppedAt && started ≤ stop.stoppedAt

/-- The view once the Run is stopped. -/
def AdmissionView.closed (view : AdmissionView) (stop : RuntimeStopRecord) : AdmissionView :=
  { view with state := .stopped, outcome := some stop.outcome, stoppedAt := some stop.stoppedAt }

/-- The claim record; its numbers are read through canonical JSON. -/
def readClaim (run : String) : Option RuntimeAdmissionRecord → Except AdmissionError AdmissionView
  | none => .error .notExist
  | some claim =>
    if canonicalSpec claim.spec && validClaimRecord ns run claim then .ok (claimedView ns claim)
    else .error .changed

def readStart (run : String) (view : AdmissionView) :
    Option RuntimeStartRecord → Except AdmissionError AdmissionView
  | none => .ok view
  | some start =>
    if validStartRecord run view start then .ok (view.started ns start) else .error .changed

def readStop (run : String) (view : AdmissionView) :
    Option RuntimeStopRecord → Except AdmissionError AdmissionView
  | none => .ok view
  | some stop => if validStopRecord run view stop then .ok (view.closed stop) else .error .changed

namespace FenceFiles

/-- **`get`**: the records of one Run, each checked against the ones before it. -/
def get (files : FenceFiles) (run : String) : Except AdmissionError AdmissionView :=
  if isContractRunID run = false then .error .invalid
  else do
    let view ← readClaim ns run (files.claimed.get run)
    let view ← readStart ns run view (files.starting.get run)
    readStop run view (files.stopped.get run)

/-- The names in the directory. -/
def entries (files : FenceFiles) : Nat :=
  files.claimed.rows.length + files.starting.rows.length + files.stopped.rows.length +
    files.pending

/-- No stage without the ones before it. -/
def stagesComplete (files : FenceFiles) : Bool :=
  (files.starting.keys.all fun key => (files.claimed.get key).isSome) &&
    files.stopped.keys.all fun key =>
      (files.claimed.get key).isSome && (files.starting.get key).isSome

/-- The view under one name; the record must be of the Run it is named after. -/
def listed (files : FenceFiles) (key : String) : Except AdmissionError AdmissionView :=
  match files.claimed.get key with
  | none => .error .changed
  | some claim => if claim.spec.runId = key then files.get ns claim.spec.runId else .error .changed

/-- **`list`**, in the order of the Runs. -/
def list (files : FenceFiles) : Except AdmissionError (List AdmissionView) :=
  if maxRuntimeAdmissions * 3 + 16 < files.entries ∨ files.stagesComplete = false then
    .error .changed
  else do
    let views ← files.claimed.keys.mapM (files.listed ns)
    if maxRuntimeAdmissions < views.length then .error .changed
    else .ok (views.insertionSort fun a b => a.spec.runId ≤ b.spec.runId)

/-! ## Writing -/

def writeClaim (files : FenceFiles) (record : RuntimeAdmissionRecord) (attempt : LinkAttempt) :
    FenceFiles × Bool :=
  ({ files with
      claimed := (files.claimed.linkNew record.spec.runId record attempt).1
      pending := attempt.pendingAfter files.pending },
    (files.claimed.linkNew record.spec.runId record attempt).2)

def writeStart (files : FenceFiles) (record : RuntimeStartRecord) (attempt : LinkAttempt) :
    FenceFiles × Bool :=
  ({ files with
      starting := (files.starting.linkNew record.runId record attempt).1
      pending := attempt.pendingAfter files.pending },
    (files.starting.linkNew record.runId record attempt).2)

def writeStop (files : FenceFiles) (record : RuntimeStopRecord) (attempt : LinkAttempt) :
    FenceFiles × Bool :=
  ({ files with
      stopped := (files.stopped.linkNew record.runId record attempt).1
      pending := attempt.pendingAfter files.pending },
    (files.stopped.linkNew record.runId record attempt).2)

end FenceFiles

def runtimeAdmissionCurrent (spec : RuntimeAdmissionSpec) (now : Instant) : Bool :=
  now ≠ 0 &&
    (ns.governance.parseTime spec.workspaceIssuedAt).getD 0 ≤ now &&
    now < (ns.governance.parseTime spec.workspaceExpiresAt).getD 0 &&
    now < (ns.governance.parseTime spec.grantExpiresAt).getD 0 &&
    now < (ns.governance.parseTime spec.deadline).getD 0

/-- Two admissions that share a workspace generation or a preparation. -/
def collides (existing spec : RuntimeAdmissionSpec) : Bool :=
  (existing.workspaceRef = spec.workspaceRef &&
      existing.workspaceGeneration = spec.workspaceGeneration) ||
    existing.preparedIdentityDigest = spec.preparedIdentityDigest ||
    existing.preparedOperationId = spec.preparedOperationId

/-- **`Claim`.** A Run that is claimed already keeps its record. -/
def claim (files : FenceFiles) (spec : RuntimeAdmissionSpec) (now : Instant)
    (attempt : LinkAttempt) : FenceFiles × Except AdmissionError AdmissionView :=
  if validRuntimeAdmissionSpec ns.governance spec = false ∨ now = 0 then (files, .error .invalid)
  else if spec.deviceId ≠ ns.owner.deviceId then (files, .error .notCurrent)
  else
    match files.get ns spec.runId with
    | .ok view => (files, if view.spec ≠ spec then .error .conflict else .ok view)
    | .error .notExist =>
      if runtimeAdmissionCurrent ns spec now = false then (files, .error .notCurrent)
      else
        match files.list ns with
        | .error e => (files, .error e)
        | .ok views =>
          if maxRuntimeAdmissions ≤ views.length ∨
              (views.any fun existing => collides existing.spec spec) then
            (files, .error .conflict)
          else
            let record : RuntimeAdmissionRecord :=
              { version := 1, owner := ns.owner, spec := spec, claimedAt := now }
            let written := files.writeClaim record attempt
            (written.1, if written.2 then written.1.get ns spec.runId else .error .host)
    | .error e => (files, .error e)

/-- **`Start`, from the authority callback on.** `invoke` is true only for the write itself. -/
def startCommit (files : FenceFiles) (run expectedAdmissionDigest : String) (view : AdmissionView)
    (authorizedAt : Instant) (attempt : LinkAttempt) :
    FenceFiles × Except AdmissionError (AdmissionView × Bool) :=
  match files.get ns run with
  | .error e => (files, .error e)
  | .ok current =>
    if current.admissionDigest ≠ expectedAdmissionDigest ∨ current.spec ≠ view.spec then
      (files, .error .changed)
    else if current.state ≠ .claimed then (files, .ok (current, false))
    else if runtimeAdmissionCurrent ns current.spec authorizedAt = false then
      (files, .error .notCurrent)
    else
      let record : RuntimeStartRecord :=
        { version := 2, runId := run, admissionDigest := expectedAdmissionDigest,
          authorityCheckedAt := authorizedAt }
      let written := files.writeStart record attempt
      (written.1,
        if written.2 then (written.1.get ns run).map fun started => (started, true)
        else .error .host)

/-- **`Stop`.** -/
def stop (files : FenceFiles) (run expectedAdmissionDigest expectedStartDigest : String)
    (outcome : RuntimeOutcome) (now : Instant) (attempt : LinkAttempt) :
    FenceFiles × Except AdmissionError AdmissionView :=
  if validRuntimeOutcome outcome = false ∨ now = 0 then (files, .error .invalid)
  else
    match files.get ns run with
    | .error e => (files, .error e)
    | .ok view =>
      if view.admissionDigest ≠ expectedAdmissionDigest ∨
          view.startDigest ≠ some expectedStartDigest then
        (files, .error .conflict)
      else if view.state = .stopped then
        (files, if view.outcome ≠ some outcome then .error .conflict else .ok view)
      else if view.state ≠ .starting ∨ now < view.authorityCheckedAt.getD 0 then
        (files, .error .invalid)
      else
        let record : RuntimeStopRecord :=
          { version := 3, runId := run, admissionDigest := expectedAdmissionDigest,
            startDigest := expectedStartDigest, outcome := outcome, stoppedAt := now }
        let written := files.writeStop record attempt
        (written.1, if written.2 then written.1.get ns run else .error .host)

/-- The loop of `RecoverUnknown`; `attempts` says how each write goes. -/
def recoverViews (now : Instant) (attempts : String → LinkAttempt) :
    List AdmissionView → FenceFiles → FenceFiles × Except AdmissionError (List AdmissionView)
  | [], files => (files, .ok [])
  | view :: views, files =>
    match view.state, view.startDigest, view.authorityCheckedAt with
    | .starting, some startDigest, some started =>
      if now < started then (files, .error .invalid)
      else
        let record : RuntimeStopRecord :=
          { version := 3, runId := view.spec.runId, admissionDigest := view.admissionDigest,
            startDigest := startDigest, outcome := .unknown, stoppedAt := now }
        let written := files.writeStop record (attempts view.spec.runId)
        if written.2 then
          match written.1.get ns view.spec.runId with
          | .error e => (written.1, .error e)
          | .ok closed =>
            let rest := recoverViews now attempts views written.1
            (rest.1, rest.2.map (closed :: ·))
        else (written.1, .error .host)
    | _, _, _ => recoverViews now attempts views files

/-- **`RecoverUnknown`.** It closes every possible start that was not stopped. -/
def recoverUnknown (files : FenceFiles) (now : Instant) (attempts : String → LinkAttempt) :
    FenceFiles × Except AdmissionError (List AdmissionView) :=
  if now = 0 then (files, .error .invalid)
  else
    match files.list ns with
    | .error e => (files, .error e)
    | .ok views => recoverViews ns now attempts views files

end AgentRoom.Governed
