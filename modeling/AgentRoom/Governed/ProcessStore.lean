import AgentRoom.Governed.RuntimeFence

/-!
# The process journal

A directory with the records of the process of each governed Run: prepared, active,
and one of finished and abandoned, beside a lock file that the process holds. As in
the admission journal each operation holds the store's mutex; what lets go of it,
to wait until a process is gone, is two operations here.
-/

namespace AgentRoom.Governed

open Bridge (GovernedProcessIdentity isContractRunID isSha256Digest)

/-- `governedProcessView`; the terminal record comes with its stage, finished or abandoned. -/
structure ProcessView where
  prepared : ProcessPreparedRecord
  preparedDigest : String
  active : Option ProcessActiveRecord
  activeDigest : String
  finished : Option ProcessTerminalRecord
  abandoned : Option ProcessTerminalRecord

/-- Some terminal record was read. -/
def ProcessView.terminal (view : ProcessView) : Bool :=
  view.finished.isSome || view.abandoned.isSome

/-- The directory of a `GovernedProcessStore`. -/
structure ProcessFiles where
  prepared : Table String ProcessPreparedRecord
  active : Table String ProcessActiveRecord
  finished : Table String ProcessTerminalRecord
  abandoned : Table String ProcessTerminalRecord
  locks : Table String Unit
  pending : Nat

def validGovernedProcessIdentity (identity : GovernedProcessIdentity) : Bool :=
  isContractRunID identity.runId && isSha256Digest identity.admissionDigest &&
    isSha256Digest identity.startDigest

/-- `strconv.ParseUint` in base ten, of what follows the name of a Windows file time. -/
def parseFiletime (value : String) : Option Nat :=
  let name := "windows-filetime:".toList
  let digits := value.toList.drop name.length
  if name.isPrefixOf value.toList && digits ≠ [] && digits.all Char.isDigit then
    let n := digits.foldl (fun n c => n * 10 + (c.toNat - '0'.toNat)) 0
    if n < 2 ^ 64 then some n else none
  else none

/-- `validGovernedProcessObservation`, on either platform. -/
def validGovernedProcessObservation (platform : Platform) (observation : ProcessObservation) :
    Bool :=
  match platform with
  | .unix =>
    1 < observation.pid && observation.platformIdentity = s!"process-group:{observation.pid}"
  | .windows =>
    0 < observation.pid && (parseFiletime observation.platformIdentity).any fun n => 0 < n

variable (ns : LocalNamespace)

def governedProcessLockDigest (identity : GovernedProcessIdentity) : String :=
  ns.digests.text (identity.runId ++ "\x00" ++ identity.admissionDigest ++ "\x00" ++
    identity.startDigest)

/-! ## Reading back -/

/-- What `get` asks of a prepared record. -/
def validPreparedRecord (run : String) (prepared : ProcessPreparedRecord) : Bool :=
  prepared.version = 1 && prepared.owner = ns.owner && prepared.identity.runId = run &&
    validGovernedProcessIdentity prepared.identity &&
    prepared.lockDigest = governedProcessLockDigest ns prepared.identity &&
    validProfileTime prepared.preparedAt

/-- What `get` asks of an active record. -/
def validActiveRecord (run : String) (prepared : ProcessPreparedRecord)
    (active : ProcessActiveRecord) : Bool :=
  active.version = 2 && active.runId = run &&
    active.preparedDigest = ns.digests.prepared prepared &&
    validGovernedProcessObservation ns.platform active.observation &&
    validProfileTime active.startedAt && prepared.preparedAt ≤ active.startedAt

/-- What `get` asks of a terminal record of either stage. -/
def validTerminalRecord (run : String) (prepared : ProcessPreparedRecord)
    (terminal : ProcessTerminalRecord) : Bool :=
  terminal.version = 3 && terminal.runId = run &&
    terminal.preparedDigest = ns.digests.prepared prepared &&
    validProfileTime terminal.closedAt && prepared.preparedAt ≤ terminal.closedAt

/-- What `get` asks of a finished record besides: it closes the active process. -/
def closesActive (active : Option ProcessActiveRecord) (terminal : ProcessTerminalRecord) : Bool :=
  active.any fun active =>
    terminal.activeDigest = ns.digests.active active && active.startedAt ≤ terminal.closedAt

def readPrepared (run : String) :
    Option ProcessPreparedRecord → Except AdmissionError ProcessPreparedRecord
  | none => .error .notExist
  | some prepared =>
    if validPreparedRecord ns run prepared then .ok prepared else .error .changed

/-- A record that may be missing, or pass the check of its reader. -/
def readOptional {α : Type} (check : α → Bool) : Option α → Except AdmissionError (Option α)
  | none => .ok none
  | some record => if check record then .ok (some record) else .error .changed

/-- The active record, if there is one; its process number is read through canonical JSON. -/
def readActive (run : String) (prepared : ProcessPreparedRecord) :
    Option ProcessActiveRecord → Except AdmissionError (Option ProcessActiveRecord) :=
  readOptional fun active =>
    safeInteger active.observation.pid && validActiveRecord ns run prepared active

def readFinished (run : String) (prepared : ProcessPreparedRecord)
    (active : Option ProcessActiveRecord) :
    Option ProcessTerminalRecord → Except AdmissionError (Option ProcessTerminalRecord) :=
  readOptional fun terminal =>
    validTerminalRecord ns run prepared terminal && closesActive ns active terminal

/-- The abandoned record, if there is one; nothing else may have closed the process. -/
def readAbandoned (run : String) (prepared : ProcessPreparedRecord)
    (active : Option ProcessActiveRecord) (finished : Option ProcessTerminalRecord) :
    Option ProcessTerminalRecord → Except AdmissionError (Option ProcessTerminalRecord) :=
  readOptional fun terminal =>
    finished = none && validTerminalRecord ns run prepared terminal && active = none &&
      terminal.activeDigest = ""

namespace ProcessFiles

/-- **`get`**: the records of one Run, each checked against the ones before it. -/
def get (files : ProcessFiles) (run : String) : Except AdmissionError ProcessView :=
  if isContractRunID run = false then .error .invalid
  else do
    let prepared ← readPrepared ns run (files.prepared.get run)
    let active ← readActive ns run prepared (files.active.get run)
    let finished ← readFinished ns run prepared active (files.finished.get run)
    let abandoned ← readAbandoned ns run prepared active finished (files.abandoned.get run)
    return {
      prepared := prepared
      preparedDigest := ns.digests.prepared prepared
      active := active
      activeDigest := (active.map ns.digests.active).getD ""
      finished := finished
      abandoned := abandoned }

/-- The names in the directory. -/
def entries (files : ProcessFiles) : Nat :=
  files.prepared.rows.length + files.active.rows.length + files.finished.rows.length +
    files.abandoned.rows.length + files.locks.rows.length + files.pending

/-- No file without a prepared record. -/
def stagesComplete (files : ProcessFiles) : Bool :=
  (files.active.keys ++ files.finished.keys ++ files.abandoned.keys ++ files.locks.keys).all
    fun key => (files.prepared.get key).isSome

/-- The view under one name; the record must be of the Run it is named after. -/
def listed (files : ProcessFiles) (key : String) : Except AdmissionError ProcessView :=
  match files.prepared.get key with
  | none => .error .changed
  | some prepared =>
    if prepared.identity.runId = key then files.get ns prepared.identity.runId
    else .error .changed

/-- **`list`**. -/
def list (files : ProcessFiles) : Except AdmissionError (List ProcessView) :=
  if maxRuntimeAdmissions * 5 + 16 < files.entries ∨ files.stagesComplete = false then
    .error .changed
  else files.prepared.keys.mapM (files.listed ns)

/-! ## Writing -/

def writePrepared (files : ProcessFiles) (record : ProcessPreparedRecord)
    (attempt : LinkAttempt) : ProcessFiles × Bool :=
  ({ files with
      prepared := (files.prepared.linkNew record.identity.runId record attempt).1
      pending := attempt.pendingAfter files.pending },
    (files.prepared.linkNew record.identity.runId record attempt).2)

def writeActive (files : ProcessFiles) (record : ProcessActiveRecord) (attempt : LinkAttempt) :
    ProcessFiles × Bool :=
  ({ files with
      active := (files.active.linkNew record.runId record attempt).1
      pending := attempt.pendingAfter files.pending },
    (files.active.linkNew record.runId record attempt).2)

def writeFinished (files : ProcessFiles) (record : ProcessTerminalRecord)
    (attempt : LinkAttempt) : ProcessFiles × Bool :=
  ({ files with
      finished := (files.finished.linkNew record.runId record attempt).1
      pending := attempt.pendingAfter files.pending },
    (files.finished.linkNew record.runId record attempt).2)

def writeAbandoned (files : ProcessFiles) (record : ProcessTerminalRecord)
    (attempt : LinkAttempt) : ProcessFiles × Bool :=
  ({ files with
      abandoned := (files.abandoned.linkNew record.runId record attempt).1
      pending := attempt.pendingAfter files.pending },
    (files.abandoned.linkNew record.runId record attempt).2)

/-- `removeLockLocked`: whether the lock file goes, and whether the caller hears so. -/
def removeLock (files : ProcessFiles) (run : String) (gone heard : Bool) :
    ProcessFiles × Except AdmissionError Unit :=
  if files.locks.get run = none then (files, .ok ())
  else if gone then
    ({ files with locks := files.locks.remove run }, if heard then .ok () else .error .host)
  else (files, .error .host)

end ProcessFiles

/-- How the host goes through with the end of an operation: the terminal record, then the lock. -/
structure CloseAttempt where
  record : LinkAttempt
  lockGone : Bool
  lockHeard : Bool

/-- `abandonPreparedLocked`. -/
def abandonPrepared (files : ProcessFiles) (prepared : ProcessPreparedRecord) (now : Instant)
    (attempt : LinkAttempt) : ProcessFiles × Bool :=
  files.writeAbandoned
    { version := 3, runId := prepared.identity.runId
      preparedDigest := ns.digests.prepared prepared, activeDigest := "", closedAt := now }
    attempt

/-- `abandonPreparedLocked`, and then `removeLockLocked`. -/
def abandonAndUnlock (files : ProcessFiles) (prepared : ProcessPreparedRecord) (now : Instant)
    (attempt : CloseAttempt) : ProcessFiles × Except AdmissionError Unit :=
  let abandoned := abandonPrepared ns files prepared now attempt.record
  if abandoned.2 then
    abandoned.1.removeLock prepared.identity.runId attempt.lockGone attempt.lockHeard
  else (abandoned.1, .error .host)

/-- `finishActiveLocked`. -/
def finishActive (files : ProcessFiles) (view : ProcessView) (now : Instant)
    (attempt : CloseAttempt) : ProcessFiles × Except AdmissionError Unit :=
  let finished := files.writeFinished
    { version := 3, runId := view.prepared.identity.runId
      preparedDigest := view.preparedDigest, activeDigest := view.activeDigest, closedAt := now }
    attempt.record
  if finished.2 then
    finished.1.removeLock view.prepared.identity.runId attempt.lockGone attempt.lockHeard
  else (finished.1, .error .host)

/-! ## Operations -/

/-- What a lease says of its process: `governedProcessLease`. -/
structure ProcessLease where
  identity : GovernedProcessIdentity
  preparedDigest : String

/-- How the host goes through with the lock file of a prepared process. -/
inductive LockAttempt where
  /-- It is there, locked and synced. -/
  | held
  /-- It failed; the file may be left, and the process is abandoned. -/
  | failed (left : Bool) (abandon : LinkAttempt)
  /-- The Bridge stopped, before or after the file was created. -/
  | crashed (created : Bool)

/-- **`PrepareProcess`.** -/
def prepareProcess (files : ProcessFiles) (identity : GovernedProcessIdentity) (now : Instant)
    (attempt : LinkAttempt) (lock : LockAttempt) :
    ProcessFiles × Except AdmissionError ProcessLease :=
  if validGovernedProcessIdentity identity = false then (files, .error .invalid)
  else
    match files.get ns identity.runId with
    | .ok _ => (files, .error .conflict)
    | .error .notExist =>
      match files.list ns with
      | .error e => (files, .error e)
      | .ok views =>
        if maxRuntimeAdmissions ≤ views.length then (files, .error .conflict)
        else
          let record : ProcessPreparedRecord :=
            { version := 1, owner := ns.owner, identity := identity
              lockDigest := governedProcessLockDigest ns identity, preparedAt := now }
          let written := files.writePrepared record attempt
          let locked : ProcessFiles :=
            { written.1 with locks := written.1.locks.put identity.runId () }
          if written.2 = false then (written.1, .error .host)
          else
            match lock with
            | .held =>
              (locked, .ok { identity, preparedDigest := ns.digests.prepared record })
            | .failed left abandon =>
              ((abandonPrepared ns (if left then locked else written.1) record now
                  abandon).1, .error .host)
            | .crashed created => (if created then locked else written.1, .error .host)
    | .error e => (files, .error e)

/-- **`Started`**: `startLease`. -/
def startLease (files : ProcessFiles) (lease : ProcessLease) (observation : ProcessObservation)
    (now : Instant) (attempt : LinkAttempt) : ProcessFiles × Except AdmissionError Unit :=
  if validGovernedProcessObservation ns.platform observation = false then
    (files, .error .invalid)
  else
    match files.get ns lease.identity.runId with
    | .error e => (files, .error e)
    | .ok view =>
      if view.prepared.identity ≠ lease.identity ∨ view.preparedDigest ≠ lease.preparedDigest ∨
          view.active ≠ none ∨ view.terminal then
        (files, .error .changed)
      else
        let written := files.writeActive
          { version := 2, runId := lease.identity.runId
            preparedDigest := lease.preparedDigest, observation, startedAt := now } attempt
        (written.1, if written.2 then .ok () else .error .host)

/-- **`Finished`, up to the wait** for the process: `finishLease`. It is over if this closed a
process that never started; true asks for the wait. -/
def finishBegin (files : ProcessFiles) (lease : ProcessLease) (observation : ProcessObservation)
    (now : Instant) (attempt : CloseAttempt) : ProcessFiles × Except AdmissionError Bool :=
  match files.get ns lease.identity.runId with
  | .error e => (files, .error e)
  | .ok view =>
    if view.prepared.identity ≠ lease.identity ∨ view.preparedDigest ≠ lease.preparedDigest then
      (files, .error .changed)
    else if view.terminal then (files, .ok false)
    else
      match view.active with
      | none =>
        let abandoned := abandonAndUnlock ns files view.prepared now attempt
        (abandoned.1, abandoned.2.map fun _ => false)
      | some active =>
        if active.observation ≠ observation then (files, .error .conflict)
        else (files, .ok true)

/-- **`Finished`, once the process is gone.** -/
def finishEnd (files : ProcessFiles) (lease : ProcessLease) (observation : ProcessObservation)
    (now : Instant) (attempt : CloseAttempt) : ProcessFiles × Except AdmissionError Unit :=
  match files.get ns lease.identity.runId with
  | .error e => (files, .error e)
  | .ok view =>
    if view.prepared.identity ≠ lease.identity ∨ view.preparedDigest ≠ lease.preparedDigest ∨
        view.active.map (·.observation) ≠ some observation then
      (files, .error .changed)
    else if view.terminal then (files, .ok ())
    else finishActive files view now attempt

/-- **`Abandon`**: `abandonLease`. -/
def abandonLease (files : ProcessFiles) (lease : ProcessLease) (now : Instant)
    (attempt : CloseAttempt) : ProcessFiles × Except AdmissionError Unit :=
  match files.get ns lease.identity.runId with
  | .error e => (files, .error e)
  | .ok view =>
    if view.prepared.identity ≠ lease.identity ∨ view.preparedDigest ≠ lease.preparedDigest ∨
        view.active ≠ none then
      (files, .error .changed)
    else if view.terminal then
      files.removeLock lease.identity.runId attempt.lockGone attempt.lockHeard
    else abandonAndUnlock ns files view.prepared now attempt

/-- **`FenceAndWait`, once nobody holds the lock** of a process that never started. -/
def fencePrepared (files : ProcessFiles) (identity : GovernedProcessIdentity) (now : Instant)
    (attempt : CloseAttempt) : ProcessFiles × Except AdmissionError Unit :=
  match files.get ns identity.runId with
  | .error e => (files, .error e)
  | .ok current =>
    if current.prepared.identity ≠ identity ∨ current.active ≠ none ∨ current.terminal then
      (files, .error .changed)
    else abandonAndUnlock ns files current.prepared now attempt

/-- **`FenceAndWait`, once the observed process is gone.** -/
def fenceActive (files : ProcessFiles) (identity : GovernedProcessIdentity)
    (observation : ProcessObservation) (now : Instant) (attempt : CloseAttempt) :
    ProcessFiles × Except AdmissionError Unit :=
  match files.get ns identity.runId with
  | .error e => (files, .error e)
  | .ok current =>
    if current.prepared.identity ≠ identity ∨
        current.active.map (·.observation) ≠ some observation then
      (files, .error .changed)
    else if current.terminal then (files, .ok ())
    else finishActive files current now attempt

end AgentRoom.Governed
