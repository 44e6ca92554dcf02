import AgentRoom.Governed.FenceReadable
import AgentRoom.Governed.ProcessReadable
import AgentRoom.Lib.System

/-!
# Runs of the two journals

A step is one operation of either journal, with any arguments, any clock reading and
any way the host goes through with its writes; a Bridge that stops in the middle of
an operation is one whose host failed there. Nothing is kept in memory between two
steps but what callers were told.
-/

namespace AgentRoom.Governed

open Bridge (RuntimeAdmissionSpec RuntimeOutcome GovernedProcessIdentity isContractRunID
  validRuntimeAdmissionSpec)

/-- Both journals, and the Runs whose `Start` answered that the Runtime is to be invoked. -/
structure JournalWorld where
  fence : FenceFiles
  processes : ProcessFiles
  invoked : List String

inductive JournalOp where
  | claim (spec : RuntimeAdmissionSpec) (now : Instant) (attempt : LinkAttempt)
  | startCommit (run digest : String) (seen : AdmissionView) (authorizedAt : Instant)
      (attempt : LinkAttempt)
  | stop (run digest startDigest : String) (outcome : RuntimeOutcome) (now : Instant)
      (attempt : LinkAttempt)
  | recoverUnknown (now : Instant) (attempts : String → LinkAttempt)
  | prepareProcess (identity : GovernedProcessIdentity) (now : Instant) (attempt : LinkAttempt)
      (lock : LockAttempt)
  | startLease (lease : ProcessLease) (observation : ProcessObservation) (now : Instant)
      (attempt : LinkAttempt)
  | finishBegin (lease : ProcessLease) (observation : ProcessObservation) (now : Instant)
      (attempt : CloseAttempt)
  | finishEnd (lease : ProcessLease) (observation : ProcessObservation) (now : Instant)
      (attempt : CloseAttempt)
  | abandonLease (lease : ProcessLease) (now : Instant) (attempt : CloseAttempt)
  | fencePrepared (identity : GovernedProcessIdentity) (now : Instant) (attempt : CloseAttempt)
  | fenceActive (identity : GovernedProcessIdentity) (observation : ProcessObservation)
      (now : Instant) (attempt : CloseAttempt)

/-- The answer of `Start` is to invoke the Runtime. -/
def invokes {α : Type} : Except AdmissionError (α × Bool) → Bool
  | .ok (_, invoke) => invoke
  | .error _ => false

variable (ns : LocalNamespace)

def JournalWorld.apply (w : JournalWorld) : JournalOp → JournalWorld
  | .claim spec now attempt => { w with fence := (claim ns w.fence spec now attempt).1 }
  | .startCommit run digest seen authorizedAt attempt =>
    let answer := startCommit ns w.fence run digest seen authorizedAt attempt
    { w with
      fence := answer.1
      invoked := if invokes answer.2 then run :: w.invoked else w.invoked }
  | .stop run digest startDigest outcome now attempt =>
    { w with fence := (stop ns w.fence run digest startDigest outcome now attempt).1 }
  | .recoverUnknown now attempts =>
    { w with fence := (recoverUnknown ns w.fence now attempts).1 }
  | .prepareProcess identity now attempt lock =>
    { w with processes := (prepareProcess ns w.processes identity now attempt lock).1 }
  | .startLease lease observation now attempt =>
    { w with processes := (startLease ns w.processes lease observation now attempt).1 }
  | .finishBegin lease observation now attempt =>
    { w with processes := (finishBegin ns w.processes lease observation now attempt).1 }
  | .finishEnd lease observation now attempt =>
    { w with processes := (finishEnd ns w.processes lease observation now attempt).1 }
  | .abandonLease lease now attempt =>
    { w with processes := (abandonLease ns w.processes lease now attempt).1 }
  | .fencePrepared identity now attempt =>
    { w with processes := (fencePrepared ns w.processes identity now attempt).1 }
  | .fenceActive identity observation now attempt =>
    { w with processes := (fenceActive ns w.processes identity observation now attempt).1 }

def JournalWorld.fresh : JournalWorld := ⟨.empty, .empty, []⟩

/-- **The journals, from their first operation on.** -/
def journals : System JournalWorld JournalOp where
  init w := w = .fresh
  step op w w' := w' = w.apply ns op

/-! ## The shape of the process journal -/

variable {w : JournalWorld}

theorem processShape_step {op : JournalOp} {w' : JournalWorld} (hs : (journals ns).step op w w')
    (h : ProcessShape w.processes) :
    ProcessShape w'.processes := by
  have any {files' : ProcessFiles} {run : String} {now : Instant}
      (hw : ProcessWrites ns run now (fun _ => True) w.processes files') : ProcessShape files' :=
    h.writes hw
  subst hs
  cases op with
  | claim => exact h
  | startCommit => exact h
  | stop => exact h
  | recoverUnknown => exact h
  | prepareProcess identity now attempt lock => exact any (prepareProcess_writes h _ _ _)
  | startLease lease observation now attempt => exact h.writes (startLease_writes ns _ _ _ _ _)
  | finishBegin lease observation now attempt => exact any (finishBegin_writes ns _ _ _ _)
  | finishEnd lease observation now attempt => exact any (finishEnd_writes ns _ _ _ _)
  | abandonLease lease now attempt => exact any (abandonLease_writes ns _ _ _)
  | fencePrepared identity now attempt => exact any (fencePrepared_writes ns _ _ _)
  | fenceActive identity observation now attempt => exact any (fenceActive_writes ns _ _ _ _)

theorem processShape_reachable (h : (journals ns).Reachable w) :
    ProcessShape w.processes :=
  System.invariant (fun w => ProcessShape w.processes)
    (fun _ hinit => hinit ▸ processShape_empty)
    (fun _ _ _ hs hshape => processShape_step ns hs hshape) h

/-! ## Under a clock that does not run backwards -/

/-- **The clock of an operation.** A call that may still write its record reads a four-digit year,
not before what the Run's records in that journal say; numbers pass canonical JSON. -/
def Timely (w : JournalWorld) : JournalOp → Prop
  | .claim spec now _ =>
    w.fence.claimed.get spec.runId = none →
      validProfileTime now = true ∧ canonicalSpec spec = true
  | .startCommit run _ _ authorizedAt _ =>
    w.fence.starting.get run = none → validProfileTime authorizedAt = true ∧
      ∀ claim, w.fence.claimed.get run = some claim → claim.claimedAt ≤ authorizedAt
  | .stop run _ _ _ now _ =>
    (w.fence.starting.get run).isSome → w.fence.stopped.get run = none →
      validProfileTime now = true
  | .recoverUnknown now _ => w.fence.HasOpenStart → validProfileTime now = true
  | .prepareProcess identity now _ _ =>
    w.processes.prepared.get identity.runId = none → validProfileTime now = true
  | .startLease lease observation now _ =>
    w.processes.active.get lease.identity.runId = none →
      StampsBefore w.processes lease.identity.runId now ∧ safeInteger observation.pid = true
  | .finishBegin lease _ now _ => OpenBefore w.processes lease.identity.runId now
  | .finishEnd lease _ now _ => OpenBefore w.processes lease.identity.runId now
  | .abandonLease lease now _ => OpenBefore w.processes lease.identity.runId now
  | .fencePrepared identity now _ => OpenBefore w.processes identity.runId now
  | .fenceActive identity _ now _ => OpenBefore w.processes identity.runId now

/-- **A timely step keeps both journals readable.** -/
theorem readable_step {op : JournalOp} {w' : JournalWorld} (htime : Timely w op)
    (hs : (journals ns).step op w w') (hshape : ProcessShape w.processes)
    (hfence : FenceReadable ns w.fence) (hprocess : ProcessReadable ns w.processes) :
    FenceReadable ns w'.fence ∧ ProcessReadable ns w'.processes := by
  -- a write that starts no process needs no safe pid
  have closes {files' : ProcessFiles} {run : String} {now : Instant}
      (hbefore : OpenBefore w.processes run now)
      (hw : ProcessWrites ns run now (fun _ => False) w.processes files') :
      ProcessReadable ns files' :=
    hprocess.writes hshape hbefore (fun _ hnever => hnever.elim) hw
  subst hs
  cases op with
  | claim spec now attempt =>
    refine ⟨?_, hprocess⟩
    show FenceReadable ns (claim ns w.fence spec now attempt).1
    rcases claim_cases ns w.fence spec now attempt with hsame | hw
    · rw [hsame]
      exact hfence
    · obtain ⟨hyear, hcanonical⟩ := htime hw.unclaimed
      exact hfence.claim hw hyear hcanonical
  | startCommit run digest seen authorizedAt attempt =>
    refine ⟨?_, hprocess⟩
    show FenceReadable ns (startCommit ns w.fence run digest seen authorizedAt attempt).1
    rcases startCommit_cases ns w.fence run digest seen authorizedAt attempt with hsame | hw
    · rw [hsame]
      exact hfence
    · obtain ⟨hyear, hafter⟩ := htime hw.unstarted
      exact hfence.start hw hyear hafter
  | stop run digest startDigest outcome now attempt =>
    refine ⟨?_, hprocess⟩
    show FenceReadable ns (stop ns w.fence run digest startDigest outcome now attempt).1
    rcases stop_cases ns w.fence run digest startDigest outcome now attempt with hsame | hw
    · rw [hsame]
      exact hfence
    · obtain ⟨claim, start, -, hstart, -⟩ := hw.started
      exact hfence.stop hw (htime (by rw [hstart]; rfl))
  | recoverUnknown now attempts =>
    exact ⟨hfence.recover (recoverUnknown_steps ns w.fence now attempts) htime, hprocess⟩
  | prepareProcess identity now attempt lock =>
    refine ⟨hfence, ?_⟩
    by_cases hfree : w.processes.prepared.get identity.runId = none
    · refine closes (fun _ _ => ⟨htime hfree, fun prepared hget => ?_, fun active hget => ?_⟩)
        (prepareProcess_writes hshape identity attempt lock)
      · rw [hfree] at hget
        cases hget
      · rw [(hshape.fresh hfree).1] at hget
        cases hget
    · -- a Run that is prepared is answered from its record
      have hreplay : (prepareProcess ns w.processes identity now attempt lock).1 =
          w.processes := prepareProcess_replay (Option.isSome_iff_ne_none.mpr hfree)
      show ProcessReadable ns (prepareProcess ns w.processes identity now attempt lock).1
      rw [hreplay]
      exact hprocess
  | startLease lease observation now attempt =>
    refine ⟨hfence, ?_⟩
    by_cases hfree : w.processes.active.get lease.identity.runId = none
    · obtain ⟨hstamps, hsafe⟩ := htime hfree
      refine hprocess.writes hshape (fun _ _ => hstamps) ?_
        (startLease_writes ns w.processes lease observation now attempt)
      rintro _ rfl
      exact hsafe
    · show ProcessReadable ns (startLease ns w.processes lease observation now attempt).1
      rw [startLease_replay hfree]
      exact hprocess
  | finishBegin lease observation now attempt =>
    exact ⟨hfence, closes htime (finishBegin_writes ns _ _ _ _)⟩
  | finishEnd lease observation now attempt =>
    exact ⟨hfence, closes htime (finishEnd_writes ns _ _ _ _)⟩
  | abandonLease lease now attempt =>
    exact ⟨hfence, closes htime (abandonLease_writes ns _ _ _)⟩
  | fencePrepared identity now attempt =>
    exact ⟨hfence, closes htime (fencePrepared_writes ns _ _ _)⟩
  | fenceActive identity observation now attempt =>
    exact ⟨hfence, closes htime (fenceActive_writes ns _ _ _ _)⟩

/-- **In every run of timely steps** both journals are readable. -/
theorem readable_timely (h : ((journals ns).restrict fun op w => Timely w op).Reachable w) :
    FenceReadable ns w.fence ∧ ProcessReadable ns w.processes := by
  have hall : (FenceReadable ns w.fence ∧ ProcessReadable ns w.processes) ∧
      ProcessShape w.processes := by
    refine System.invariant (fun w =>
      (FenceReadable ns w.fence ∧ ProcessReadable ns w.processes) ∧ ProcessShape w.processes)
      ?_ ?_ h
    · rintro _ rfl
      exact ⟨⟨fenceReadable_empty, processReadable_empty⟩, processShape_empty⟩
    · rintro op w w' ⟨htime, hs⟩ ⟨⟨hfence, hprocess⟩, hshape⟩
      exact ⟨readable_step ns htime hs hshape hfence hprocess, processShape_step ns hs hshape⟩
  exact hall.1

/-! ## The journals stay readable -/

/-- What a later `get` or `list` of either journal answers. Up to sixteen temporary files of
writes that were cut short are allowed for. -/
structure AnswersReads (w : JournalWorld) : Prop where
  fenceGet : ∀ run, isContractRunID run = true →
    w.fence.get ns run = .error .notExist ∨ ∃ view, w.fence.get ns run = .ok view
  fenceList : w.fence.pending ≤ 16 → ∃ views, w.fence.list ns = .ok views
  processGet : ∀ run, isContractRunID run = true →
    w.processes.get ns run = .error .notExist ∨ ∃ view, w.processes.get ns run = .ok view
  processList : w.processes.pending ≤ 16 → ∃ views, w.processes.list ns = .ok views

theorem answersReads (hfence : FenceReadable ns w.fence) (hprocess : ProcessReadable ns w.processes)
    (hshape : ProcessShape w.processes) :
    AnswersReads ns w where
  fenceGet run hrun := by
    cases hclaim : w.fence.claimed.get run with
    | none => exact .inl (get_unclaimed hrun hclaim)
    | some claim => exact .inr (hfence.get_ok hclaim)
  fenceList := hfence.list_ok
  processGet run hrun := by
    cases hprepared : w.processes.prepared.get run with
    | none => exact .inl (get_unprepared hrun hprepared)
    | some prepared => exact .inr (hprocess.get_ok hshape hprepared)
  processList := hprocess.list_ok hshape

/-- **No process is both finished and abandoned in any run, and in a run whose every clock reading
is timely the journals answer every later `get` and `list`.** -/
theorem journals_stay_readable (ns : LocalNamespace) :
    (∀ w, (journals ns).Reachable w → ∀ run,
      ¬ ((w.processes.finished.get run).isSome ∧ (w.processes.abandoned.get run).isSome)) ∧
    (∀ w, ((journals ns).restrict fun op w => Timely w op).Reachable w → AnswersReads ns w) := by
  refine ⟨fun w h run => (processShape_reachable ns h).closed_once run, fun w h => ?_⟩
  obtain ⟨hfence, hprocess⟩ := readable_timely ns h
  exact answersReads ns hfence hprocess
    (processShape_reachable ns (System.reachable_of_restrict h))

/-! ## A claim and a start -/

def wholeLink : LinkAttempt := ⟨true, true, true⟩

def claimRecord (spec : RuntimeAdmissionSpec) (claimedAt : Instant) : RuntimeAdmissionRecord where
  version := 1
  owner := ns.owner
  spec := spec
  claimedAt := claimedAt

def startRecord (spec : RuntimeAdmissionSpec) (claimedAt startedAt : Instant) :
    RuntimeStartRecord where
  version := 2
  runId := spec.runId
  admissionDigest := ns.digests.admission (claimRecord ns spec claimedAt)
  authorityCheckedAt := startedAt

def claimOp (spec : RuntimeAdmissionSpec) (claimedAt : Instant) : JournalOp :=
  .claim spec claimedAt wholeLink

def startOp (spec : RuntimeAdmissionSpec) (claimedAt startedAt : Instant) : JournalOp :=
  .startCommit spec.runId (ns.digests.admission (claimRecord ns spec claimedAt))
    (claimedView ns (claimRecord ns spec claimedAt)) startedAt wholeLink

/-- The journals after the claim, and after the start. -/
def claimedWorld (spec : RuntimeAdmissionSpec) (claimedAt : Instant) : JournalWorld :=
  JournalWorld.fresh.apply ns (claimOp spec claimedAt)

def startedWorld (spec : RuntimeAdmissionSpec) (claimedAt startedAt : Instant) : JournalWorld :=
  (claimedWorld ns spec claimedAt).apply ns (startOp ns spec claimedAt startedAt)

def claimedFiles (spec : RuntimeAdmissionSpec) (claimedAt : Instant) : FenceFiles :=
  { FenceFiles.empty with
    claimed := Table.empty.put spec.runId (claimRecord ns spec claimedAt) }

def startedFiles (spec : RuntimeAdmissionSpec) (claimedAt startedAt : Instant) : FenceFiles :=
  { claimedFiles ns spec claimedAt with
    starting := Table.empty.put spec.runId (startRecord ns spec claimedAt startedAt) }

/-- A specification that this Bridge may claim at an instant. -/
structure Claimable (spec : RuntimeAdmissionSpec) (claimedAt : Instant) : Prop where
  valid : validRuntimeAdmissionSpec ns.governance spec = true
  canonical : canonicalSpec spec = true
  device : spec.deviceId = ns.owner.deviceId
  year : validProfileTime claimedAt = true
  current : runtimeAdmissionCurrent ns spec claimedAt = true

section

variable {ns} {spec : RuntimeAdmissionSpec} {claimedAt startedAt : Instant}

theorem Claimable.record (h : Claimable ns spec claimedAt) :
    validClaimRecord ns spec.runId (claimRecord ns spec claimedAt) = true := by
  simp [validClaimRecord, claimRecord, h.valid, h.year]

theorem Claimable.now_ne (h : Claimable ns spec claimedAt) : claimedAt ≠ 0 := by
  have hcurrent := h.current
  unfold runtimeAdmissionCurrent at hcurrent
  simp only [Bool.and_eq_true, decide_eq_true_eq] at hcurrent
  exact hcurrent.1.1.1.1

theorem Claimable.claimed (h : Claimable ns spec claimedAt) :
    (claimedWorld ns spec claimedAt).fence = claimedFiles ns spec claimedAt := by
  have hrun : isContractRunID spec.runId = true := (runId_of_validClaim h.record).2
  have hget : FenceFiles.empty.get ns spec.runId = .error .notExist :=
    get_unclaimed hrun (Table.get_empty _)
  have hlist : FenceFiles.empty.list ns = .ok [] := rfl
  show (claim ns .empty spec claimedAt wholeLink).1 = _
  unfold claim
  rw [if_neg (by simp [h.valid, h.now_ne]), if_neg (not_not.mpr h.device), hget]
  dsimp only
  rw [if_neg (by simp [h.current]), hlist]
  rfl

theorem Claimable.reads (h : Claimable ns spec claimedAt) :
    FenceReads ns (claimedFiles ns spec claimedAt) spec.runId
      (claimedView ns (claimRecord ns spec claimedAt)) :=
  .claimed _ (Table.get_put_self _ _ _) h.canonical h.record (Table.get_empty _)
    (Table.get_empty _)

theorem Claimable.started (h : Claimable ns spec claimedAt)
    (hcurrent : runtimeAdmissionCurrent ns spec startedAt = true) :
    (startedWorld ns spec claimedAt startedAt).fence =
      startedFiles ns spec claimedAt startedAt := by
  show (startCommit ns (claimedWorld ns spec claimedAt).fence spec.runId
    (ns.digests.admission (claimRecord ns spec claimedAt))
    (claimedView ns (claimRecord ns spec claimedAt)) startedAt wholeLink).1 = _
  rw [h.claimed]
  unfold startCommit
  rw [get_iff.mpr h.reads]
  dsimp only
  rw [if_neg (by simp [claimedView]), if_neg (by simp [claimedView]),
    if_neg (by simp [claimedView, claimRecord, hcurrent])]
  rfl

theorem startedWorld_reachable :
    (journals ns).Reachable (startedWorld ns spec claimedAt startedAt) := by
  have hclaimed : (journals ns).Reachable (claimedWorld ns spec claimedAt) :=
    System.reachable_step (System.reachable_init rfl) rfl
  exact System.reachable_step hclaimed rfl

theorem Claimable.started_timely (h : Claimable ns spec claimedAt)
    (hyear : validProfileTime startedAt = true) (horder : claimedAt ≤ startedAt) :
    ((journals ns).restrict fun op w => Timely w op).Reachable
      (startedWorld ns spec claimedAt startedAt) := by
  have hclaimed : ((journals ns).restrict fun op w => Timely w op).Reachable
      (claimedWorld ns spec claimedAt) := by
    have htime : Timely .fresh (claimOp spec claimedAt) := fun _ => ⟨h.year, h.canonical⟩
    exact System.reachable_step (System.reachable_init rfl) ⟨htime, rfl⟩
  have htime : Timely (claimedWorld ns spec claimedAt) (startOp ns spec claimedAt startedAt) := by
    refine fun _ => ⟨hyear, fun claim hget => ?_⟩
    rw [h.claimed] at hget
    cases (Table.get_put_self _ _ _).symm.trans hget
    exact horder
  exact System.reachable_step hclaimed ⟨htime, rfl⟩

/-- **A start whose clock was set back to before the claim** is what no reader accepts. -/
theorem Claimable.set_back (h : Claimable ns spec claimedAt) (hback : startedAt < claimedAt) :
    (startedFiles ns spec claimedAt startedAt).get ns spec.runId = .error .changed ∧
      (startedFiles ns spec claimedAt startedAt).list ns = .error .changed := by
  have hclaim : (startedFiles ns spec claimedAt startedAt).claimed.get spec.runId =
      some (claimRecord ns spec claimedAt) := Table.get_put_self _ _ _
  have hstart : (startedFiles ns spec claimedAt startedAt).starting.get spec.runId =
      some (startRecord ns spec claimedAt startedAt) := Table.get_put_self _ _ _
  have hinvalid : validStartRecord spec.runId (claimedView ns (claimRecord ns spec claimedAt))
      (startRecord ns spec claimedAt startedAt) = false := by
    simp only [validStartRecord, startRecord, claimedView, claimRecord, Bool.and_eq_false_iff]
    exact .inr (decide_eq_false (not_le.mpr hback))
  have hcanonical : canonicalSpec (claimRecord ns spec claimedAt).spec = true := h.canonical
  have hget : (startedFiles ns spec claimedAt startedAt).get ns spec.runId =
      .error .changed := by
    unfold FenceFiles.get
    rw [if_neg (by simp [(runId_of_validClaim h.record).2]), hclaim, hstart]
    simp [readClaim, readStart, hcanonical, h.record, hinvalid, bind, Except.bind]
  have hlisted : (startedFiles ns spec claimedAt startedAt).listed ns spec.runId =
      .error .changed := by
    unfold FenceFiles.listed
    rw [hclaim]
    exact (if_pos rfl).trans hget
  have hkeys : (startedFiles ns spec claimedAt startedAt).claimed.keys = [spec.runId] := rfl
  refine ⟨hget, ?_⟩
  unfold FenceFiles.list
  rw [hkeys, List.mapM_cons, hlisted]
  split
  · rfl
  · rfl

end

/-! ## One Bridge -/

/-- A text of one hexadecimal digit. -/
def hexText (n : Nat) (c : Char) : String := String.ofList (List.replicate n c)

theorem isHex_hexText {n : Nat} {c : Char}
    (h : (c.isDigit || ('a' ≤ c && c ≤ 'f')) = true) : Bridge.isHex n (hexText n c) = true := by
  simp only [Bridge.isHex, hexText, String.toList_ofList, List.length_replicate, decide_true,
    Bool.true_and, List.all_replicate, h]
  split
  · rfl
  · rfl

/-- A Run that is admitted from ten to half past ten. -/
def sampleSpec : RuntimeAdmissionSpec where
  runId := "run_journal01"
  taskId := "task_journal01"
  agentId := "agent_journal01"
  deviceId := "device_journal01"
  planId := "plan_journal01"
  planRevision := 1
  planDigest := hexText 64 'a'
  approvalOperationId := "op_approval01"
  planControlRevision := 1
  nodeKey := "node"
  dispatchGeneration := 1
  roomId := "room_journal01"
  taskRevision := 1
  definitionRevision := 1
  criteriaRevision := 1
  manifestDigest := hexText 64 'b'
  grantId := "grant_journal01"
  grantRevision := 1
  grantDigest := hexText 64 'c'
  repositoryId := "repository_01"
  bindingId := "binding_01"
  leaseId := "lease_01"
  workspaceRef := "workspace_01"
  workspaceGeneration := "generation_01"
  runtimeProfileId := "profile_journal01"
  runtimeProfileRevision := 1
  runtimeProfileDigest := hexText 64 'd'
  preparedOperationId := "op_prepare01"
  preparedIntentDigest := hexText 64 'e'
  preparedIdentityDigest := hexText 64 'f'
  baseCommit := hexText 40 '1'
  preparedCommit := hexText 40 '1'
  preparedTree := hexText 40 '1'
  outputBaseCommit := ""
  workspaceIssuedAt := "2026-08-31T10:00:00Z"
  workspaceExpiresAt := "2026-08-31T10:30:00Z"
  grantExpiresAt := "2026-08-31T10:30:00Z"
  deadline := "2026-08-31T10:30:00Z"

/-- So many seconds after ten. -/
def sampleInstant (seconds : Int) : Instant := (63923767200 + seconds) * 1000000000

/-- A paired Bridge; the digests only keep its records apart. -/
def sampleNamespace : LocalNamespace where
  owner := ⟨"https://central.example.test", "team_journal01", "device_journal01", "member_01"⟩
  platform := .unix
  governance :=
    { decodeGovernedManifest := fun _ => none
      parseTime := fun text =>
        if text = "2026-08-31T10:00:00Z" then some (sampleInstant 0)
        else if text = "2026-08-31T10:30:00Z" then some (sampleInstant 1800)
        else none
      profileTime := fun _ => "" }
  digests :=
    { text := fun text => text
      admission := fun _ => hexText 64 'a'
      start := fun _ => hexText 64 'b'
      prepared := fun _ => hexText 64 'c'
      active := fun _ => hexText 64 'd' }

theorem sampleSpec_valid :
    validRuntimeAdmissionSpec sampleNamespace.governance sampleSpec = true := by
  have hdigest {c : Char} (h : (c.isDigit || ('a' ≤ c && c ≤ 'f')) = true) :
      Bridge.isSha256Digest (hexText 64 c) = true := isHex_hexText h
  have hobject : Bridge.isObjectID (hexText 40 '1') = true := by
    unfold Bridge.isObjectID
    rw [isHex_hexText (by decide), Bool.true_or]
  have hidentities : Bridge.validSpecIdentities sampleSpec = true := by
    have hrun : isContractRunID "run_journal01" = true := by decide
    have hagent : Bridge.isContractAgentID "agent_journal01" = true := by decide
    have hprofile : Bridge.isProfileID "profile_journal01" = true := by decide +kernel
    have happroval : Bridge.isOperationID "op_approval01" = true := by decide +kernel
    have hprepare : Bridge.isOperationID "op_prepare01" = true := by decide +kernel
    simp only [Bridge.validSpecIdentities, sampleSpec, hrun, hagent, hprofile, happroval, hprepare,
      hobject, hdigest (show ('a'.isDigit || ('a' ≤ 'a' && 'a' ≤ 'f')) = true by decide),
      hdigest (show ('b'.isDigit || ('a' ≤ 'b' && 'b' ≤ 'f')) = true by decide),
      hdigest (show ('c'.isDigit || ('a' ≤ 'c' && 'c' ≤ 'f')) = true by decide),
      hdigest (show ('d'.isDigit || ('a' ≤ 'd' && 'd' ≤ 'f')) = true by decide),
      hdigest (show ('e'.isDigit || ('a' ≤ 'e' && 'e' ≤ 'f')) = true by decide),
      hdigest (show ('f'.isDigit || ('a' ≤ 'f' && 'f' ≤ 'f')) = true by decide),
      decide_true, Bool.true_or, Bool.and_self]
  have hnames : Bridge.validSpecNames sampleSpec = true := by decide +kernel
  have hrevisions : Bridge.validSpecRevisions sampleSpec = true := by decide
  have htimes : Bridge.validSpecTimes sampleNamespace.governance sampleSpec = true := by
    decide
  simp only [validRuntimeAdmissionSpec, hidentities, hnames, hrevisions, htimes, Bool.and_self]

theorem sampleSpec_claimable : Claimable sampleNamespace sampleSpec (sampleInstant 600) where
  valid := sampleSpec_valid
  canonical := by decide
  device := rfl
  year := by decide
  current := by decide

/-- A claim at ten past ten and a start a minute later. -/
theorem journals_stay_readable_started :
    (¬ (((startedWorld sampleNamespace sampleSpec (sampleInstant 600)
          (sampleInstant 660)).processes.finished.get sampleSpec.runId).isSome ∧
        ((startedWorld sampleNamespace sampleSpec (sampleInstant 600)
          (sampleInstant 660)).processes.abandoned.get sampleSpec.runId).isSome)) ∧
    AnswersReads sampleNamespace
      (startedWorld sampleNamespace sampleSpec (sampleInstant 600) (sampleInstant 660)) :=
  ⟨(journals_stay_readable sampleNamespace).1 _ startedWorld_reachable _,
    (journals_stay_readable sampleNamespace).2 _
      (sampleSpec_claimable.started_timely (by decide +kernel) (by decide +kernel))⟩

/-- **A clock that is set back by five minutes between claim and start**: both calls go through,
and from then on the journal can be neither read nor listed. -/
theorem set_back_unreadable : ∃ w, (journals sampleNamespace).Reachable w ∧
    w.fence.claimed.get sampleSpec.runId =
      some (claimRecord sampleNamespace sampleSpec (sampleInstant 600)) ∧
    w.fence.starting.get sampleSpec.runId =
      some (startRecord sampleNamespace sampleSpec (sampleInstant 600) (sampleInstant 300)) ∧
    w.fence.pending = 0 ∧
    w.fence.get sampleNamespace sampleSpec.runId = .error .changed ∧
    w.fence.list sampleNamespace = .error .changed := by
  have hfence := sampleSpec_claimable.started
    (show runtimeAdmissionCurrent sampleNamespace sampleSpec (sampleInstant 300) = true by
      decide +kernel)
  obtain ⟨hget, hlist⟩ := sampleSpec_claimable.set_back
    (show sampleInstant 300 < sampleInstant 600 by decide)
  refine ⟨startedWorld sampleNamespace sampleSpec (sampleInstant 600) (sampleInstant 300),
    startedWorld_reachable, ?_, ?_, ?_, ?_, ?_⟩
  · rw [hfence]
    exact Table.get_put_self _ _ _
  · rw [hfence]
    exact Table.get_put_self _ _ _
  · rw [hfence]
    rfl
  · rw [hfence]
    exact hget
  · rw [hfence]
    exact hlist

end AgentRoom.Governed
