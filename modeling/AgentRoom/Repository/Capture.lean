import Mathlib.Data.List.Dedup
import AgentRoom.Repository.SnapshotPaths
import AgentRoom.Lib.Tx
import AgentRoom.Lib.Table

/-!
# Capture

The list of changes of `changedFiles` holds the paths whose mode or object differs, each once and
in order, and there is one exactly when every such path is allowed and neither a symlink nor a
gitlink on either side.

`Preparer.Capture` observes the output of a stopped attempt: the head, the index, two snapshots
of the working directory and the files that changed between the frozen baseline and the first of
them. What it observed is recorded as an intent, built into a Git tree of its own and sealed as a
candidate; a capture that finishes verifies the candidate and records the result. Claims are
files that are written once. Git, the disk and the digests stay parameters.
-/

namespace AgentRoom.Repository

section Changes

variable {baseline : List TreeEntry} {snapshot : WorkSnapshot} {policy : ScopePolicy}
  {path : Path} {paths : List Path} {changes : List CapturedChange}

/-- The mode or the object of the path differs between the baseline and the snapshot. -/
def Differs (baseline : List TreeEntry) (snapshot : WorkSnapshot) (path : Path) : Prop :=
  before baseline path ≠ after snapshot path

instance : DecidablePred (Differs baseline snapshot) := fun _ => instDecidableNot

/-- The scope allows the path, and it is neither a symlink nor a gitlink on either side. -/
def Permitted (baseline : List TreeEntry) (snapshot : WorkSnapshot) (policy : ScopePolicy)
    (path : Path) : Prop :=
  special (before baseline path) = false ∧ special (after snapshot path) = false ∧
    allowedOutput policy path = true

/-- **The loop**: it returns when every difference is permitted, and then all of them. -/
theorem changedFrom_ok_iff : changedFrom baseline snapshot policy paths = .ok changes ↔
    (∀ p ∈ paths, Differs baseline snapshot p → Permitted baseline snapshot policy p) ∧
      changes = (paths.filter (Differs baseline snapshot)).map (changeOf baseline snapshot) := by
  induction paths generalizing changes with
  | nil => simp [changedFrom, eq_comm]
  | cons p paths ih =>
    unfold changedFrom
    by_cases hsame : before baseline p = after snapshot p
    · -- the path is the same: nothing is asked of it
      have hnot : ¬ Differs baseline snapshot p := fun h => h hsame
      rw [if_pos hsame, ih, List.filter_cons_of_neg (by simpa using hnot), List.forall_mem_cons]
      exact and_congr_left fun _ => ⟨fun h => ⟨fun hd => absurd hd hnot, h⟩, fun h => h.2⟩
    · have hdiff : Differs baseline snapshot p := hsame
      rw [if_neg hsame, List.filter_cons_of_pos (by simpa using hdiff), List.forall_mem_cons]
      by_cases hpermitted : Permitted baseline snapshot policy p
      · obtain ⟨hbefore, hafter, hallowed⟩ := hpermitted
        rw [if_neg (by simp [hbefore, hafter]), if_neg (by simp [hallowed])]
        cases hrest : changedFrom baseline snapshot policy paths with
        | error err =>
          have hnone : ¬ ∀ q ∈ paths, Differs baseline snapshot q →
              Permitted baseline snapshot policy q := by
            intro h
            have hok := ih.mpr ⟨h, rfl⟩
            rw [hrest] at hok
            cases hok
          exact ⟨nofun, fun h => absurd h.1.2 hnone⟩
        | ok cs =>
          obtain ⟨hall, rfl⟩ := ih.mp hrest
          constructor
          · intro h
            exact ⟨⟨fun _ => ⟨hbefore, hafter, hallowed⟩, hall⟩, (Except.ok.inj h).symm⟩
          · rintro ⟨-, rfl⟩
            rfl
      · -- one refused path refuses the capture
        have hrefused : ¬ ((Differs baseline snapshot p → Permitted baseline snapshot policy p) ∧
            ∀ q ∈ paths, Differs baseline snapshot q →
              Permitted baseline snapshot policy q) :=
          fun h => hpermitted (h.1 hdiff)
        split
        · exact ⟨nofun, fun h => absurd h.1 hrefused⟩
        · next hspecial =>
            rw [not_or, Bool.not_eq_true, Bool.not_eq_true] at hspecial
            split
            · exact ⟨nofun, fun h => absurd h.1 hrefused⟩
            · next hallowed =>
                rw [Bool.not_eq_false] at hallowed
                exact absurd ⟨hspecial.1, hspecial.2, hallowed⟩ hpermitted

/-! ## The ordered paths -/

theorem before_isSome (h : before baseline path ≠ none) :
    path ∈ (baseline.filter fun entry => entry.kind ≠ .tree).map TreeEntry.path := by
  unfold before at h
  cases hfind : baseline.reverse.find? (fun entry => entry.kind ≠ .tree ∧ entry.path = path) with
  | none => rw [hfind] at h; exact absurd rfl h
  | some entry =>
    have hmem := List.mem_reverse.mp (List.mem_of_find?_eq_some hfind)
    have hentry := List.find?_some hfind
    simp only [decide_eq_true_eq] at hentry
    exact List.mem_map.mpr ⟨entry, List.mem_filter.mpr ⟨hmem, decide_eq_true hentry.1⟩, hentry.2⟩

theorem after_isSome (h : after snapshot path ≠ none) :
    path ∈ snapshot.files.map CapturedFile.path := by
  unfold after at h
  cases hfind : snapshot.files.reverse.find? (·.path = path) with
  | none => rw [hfind] at h; exact absurd rfl h
  | some file =>
    have hmem := List.mem_reverse.mp (List.mem_of_find?_eq_some hfind)
    have hpath := List.find?_some hfind
    simp only [decide_eq_true_eq] at hpath
    exact List.mem_map.mpr ⟨file, hmem, hpath⟩

theorem mem_orderedPaths_of_differs (h : Differs baseline snapshot path) :
    path ∈ orderedPaths baseline snapshot := by
  unfold orderedPaths sortPaths
  rw [List.mem_insertionSort, List.mem_dedup, List.mem_append]
  by_cases hbefore : before baseline path = none
  · refine .inr (after_isSome fun hafter => h ?_)
    rw [hbefore, hafter]
  · exact .inl (before_isSome hbefore)

theorem orderedPaths_nodup : (orderedPaths baseline snapshot).Nodup :=
  (List.perm_insertionSort _ _).nodup_iff.mpr (List.nodup_dedup _)

theorem orderedPaths_sorted : (orderedPaths baseline snapshot).Pairwise (· < ·) := by
  have hle : (orderedPaths baseline snapshot).Pairwise (· ≤ ·) :=
    List.pairwise_insertionSort _ _
  exact (hle.and orderedPaths_nodup).imp fun h => lt_of_le_of_ne h.1 h.2

/-- **`changedFiles`, exactly.** -/
theorem changedFiles_ok_iff : changedFiles baseline snapshot policy = .ok changes ↔
    (∀ p, Differs baseline snapshot p → Permitted baseline snapshot policy p) ∧
      changes = ((orderedPaths baseline snapshot).filter (Differs baseline snapshot)).map
        (changeOf baseline snapshot) := by
  unfold changedFiles
  rw [changedFrom_ok_iff]
  refine and_congr_left fun _ => ⟨fun h p hp => ?_, fun h p _ => h p⟩
  exact h p (mem_orderedPaths_of_differs hp) hp

/-- **What a list of changes is**: the differing paths, each once, in increasing order, with both
of their sides. -/
structure ChangeList (baseline : List TreeEntry) (snapshot : WorkSnapshot)
    (changes : List CapturedChange) : Prop where
  differing : ∀ p, p ∈ changes.map CapturedChange.path ↔ Differs baseline snapshot p
  sorted : (changes.map CapturedChange.path).Pairwise (· < ·)
  sides : ∀ c ∈ changes, c = changeOf baseline snapshot c.path

theorem changedFiles_changeList (h : changedFiles baseline snapshot policy = .ok changes) :
    ChangeList baseline snapshot changes := by
  obtain ⟨-, rfl⟩ := changedFiles_ok_iff.mp h
  have hpaths : ∀ paths : List Path,
      (paths.map (changeOf baseline snapshot)).map CapturedChange.path = paths := by
    intro paths
    rw [List.map_map]
    exact List.map_id paths
  constructor
  · intro p
    rw [hpaths, List.mem_filter, decide_eq_true_eq]
    exact ⟨fun h => h.2, fun h => ⟨mem_orderedPaths_of_differs h, h⟩⟩
  · rw [hpaths]
    exact orderedPaths_sorted.filter _
  · intro c hc
    obtain ⟨p, -, rfl⟩ := List.mem_map.mp hc
    rfl

end Changes

section Capture

/-! ## Records -/

structure CaptureRequest where
  operationId : String
  workspaceRef : String
  preparedDigest : String
  expectedGeneration : String
  manifestDigest : String
  deriving DecidableEq

/-- `checkpointResumePin`. -/
structure ResumePin where
  requestDigest : String
  checkpointId : String
  checkpointDigest : String
  captureOperationId : String
  captureDigest : String
  sourceRunId : String
  sourceWorkspaceRef : String
  candidateTree : String
  patchDigest : String
  patchBytes : Nat

/-- `preparationIntent`, without the local source and the input pins. -/
structure PreparationIntent where
  version : Nat
  operationId : String
  runId : String
  repositoryId : String
  bindingId : String
  workspaceRef : String
  generation : String
  manifestDigest : String
  baseCommit : String
  objectFormat : ObjectFormat
  scopePolicy : ScopePolicy
  resume : Option ResumePin

structure PreparedCandidate where
  intentDigest : String
  commit : String
  tree : String
  outputBaseCommit : String

structure PreparedWorkspace where
  intentDigest : String
  operationId : String
  runId : String
  workspaceRef : String
  generation : String
  baseCommit : String
  preparedCommit : String
  preparedTree : String
  outputBaseCommit : String
  branch : String
  path : String
  gitDirectory : String

/-- `captureIntent`. The recorded snapshot leaves the bytes of its files out. -/
structure CaptureIntent where
  request : CaptureRequest
  observedHead : String
  indexDigest : String
  snapshot : WorkSnapshot
  changes : List CapturedChange
  capturedAt : Nat
  deriving DecidableEq

/-- The claim of an operation: a capture's intent, or a record of another kind. -/
inductive OperationClaim where
  | capture (intent : CaptureIntent)
  | other
  deriving DecidableEq

structure CaptureCandidate where
  intentDigest : String
  commit : String
  tree : String
  deriving DecidableEq

structure CapturedRepository where
  operationId : String
  runId : String
  workspaceRef : String
  workspaceGeneration : String
  manifestDigest : String
  preparedDigest : String
  repositoryId : String
  bindingId : String
  baseCommit : String
  preparedCommit : String
  outputBaseCommit : String
  observedHead : String
  candidateCommit : String
  candidateTree : String
  patch : List UInt8
  snapshotDigest : String
  changes : List CapturedChange
  capturedAt : Nat
  deriving DecidableEq

/-- The claims `Capture` reads and writes, and the directories and patches under `captures`. -/
structure CaptureJournal where
  workspaces : Table String PreparationIntent
  ready : Table String PreparedWorkspace
  candidates : Table String PreparedCandidate
  operations : Table String OperationClaim
  captureWorkspaces : Table String CaptureRequest
  captureCandidates : Table String CaptureCandidate
  captureRoots : Table String Unit
  patches : Table String (List UInt8)
  captures : Table String CapturedRepository

/-! ## Git, the disk and the digests -/

/-- `digest` of the records it is taken of. -/
structure Digests where
  preparation : PreparationIntent → String
  policy : ScopePolicy → String
  request : CaptureRequest → String
  intent : CaptureIntent → String
  snapshot : WorkSnapshot → String
  changes : List CapturedChange → String
  links : List (Path × String) → String
  text : String → String
  /-- SHA-256 of no bytes. -/
  empty : String

/-- A row of `ls-files --stage`. -/
structure IndexRow where
  mode : Option Mode
  id : String
  stage : Nat
  path : Path

/-- What one call meets: the working directory, Git and the disk. What is read twice is given
twice. -/
structure CaptureHost where
  limits : Limits
  windows : Bool
  blobHash : ObjectFormat → List UInt8 → String
  /-- `checkOwner` and the context. -/
  owner : Except RepositoryError Unit
  /-- `observeCaptureHead` before and after. -/
  head : Except RepositoryError String
  endHead : Except RepositoryError String
  /-- `ls-tree` of the output base and of the head. -/
  baseRows : Except RepositoryError (List TreeRow)
  headRows : Except RepositoryError (List TreeRow)
  /-- `ls-files` before and after, with the digest of the raw output. -/
  index : Except RepositoryError (List IndexRow × String)
  endIndex : Except RepositoryError (List IndexRow × String)
  work : Worktree
  endWork : Worktree
  now : Nat
  branch : PreparationIntent → String
  workPath : String → String
  gitPath : String → String
  importSnapshot : Except RepositoryError Unit
  hashObjects : List (List UInt8) → Except RepositoryError (List String)
  /-- `update-index --index-info` from an empty index, and `write-tree`. -/
  writeTree : List CapturedFile → Except RepositoryError String
  commitTree : String → Except RepositoryError String
  updateRef : Except RepositoryError Unit
  /-- The directories, the configuration and the links of a candidate are as recorded. -/
  intact : CaptureCandidate → Except RepositoryError Unit
  /-- `objectList` of a commit: its tree. -/
  commitTreeOf : String → Except RepositoryError String
  treeRows : String → Except RepositoryError (List TreeRow)
  fsck : Except RepositoryError Unit
  diff : String → Except RepositoryError (List UInt8)

variable (u : Unicode) (d : Digests) (host : CaptureHost)

/-! ## Reading the preparation -/

/-- `^[A-Za-z0-9_-]{8,160}$`. -/
def localID (id : String) : Bool :=
  8 ≤ id.length && id.length ≤ 160 &&
    id.toList.all fun c => c.isAlphanum || c = '_' || c = '-'

/-- `^[0-9a-f]{64}$`. -/
def sha256ID (id : String) : Bool :=
  id.length = 64 && id.toList.all fun c => c.isDigit || ('a' ≤ c && c ≤ 'f')

def validCaptureRequest (request : CaptureRequest) : Bool :=
  localID request.operationId && localID request.workspaceRef &&
    sha256ID request.preparedDigest && sha256ID request.expectedGeneration &&
    sha256ID request.manifestDigest

def maximumCapturedPatch : Nat := 4 * 1024 * 1024

def validPreparationVersion (intent : PreparationIntent) : Bool :=
  match intent.version, intent.resume with
  | 2, none => true
  | 3, some pin =>
    sha256ID pin.requestDigest && sha256ID pin.checkpointDigest && sha256ID pin.captureDigest &&
      sha256ID pin.patchDigest && localID pin.checkpointId && localID pin.captureOperationId &&
      localID pin.sourceRunId && localID pin.sourceWorkspaceRef &&
      pin.sourceRunId ≠ intent.runId && pin.sourceWorkspaceRef ≠ intent.workspaceRef &&
      validObject pin.candidateTree intent.objectFormat &&
      pin.patchBytes ≤ maximumCapturedPatch &&
      (pin.patchBytes ≠ 0 || pin.patchDigest = d.empty)
  | _, _ => false

/-- Fail, unless the condition holds. -/
def ensure (c : Bool) (e : RepositoryError) : Except RepositoryError Unit :=
  if c then .ok () else .error e

/-- A claim that must be there. -/
def required {α : Type} (claim : Option α) : Except RepositoryError α :=
  match claim with
  | some value => .ok value
  | none => .error .notExist

/-- What `capturePreparation` returns. -/
structure Prepared where
  intent : PreparationIntent
  candidate : PreparedCandidate
  ready : PreparedWorkspace

def capturePreparation (journal : CaptureJournal) (request : CaptureRequest) :
    Except RepositoryError Prepared := do
  let intent ← required (journal.workspaces.get request.workspaceRef)
  ensure (validPreparationVersion d intent && d.preparation intent = request.preparedDigest &&
    intent.generation = request.expectedGeneration &&
    intent.manifestDigest = request.manifestDigest &&
    intent.workspaceRef = request.workspaceRef) .conflict
  match freezeScopePolicy u intent.scopePolicy with
  | .error _ => throw .changed
  | .ok policy => ensure (d.policy policy = d.policy intent.scopePolicy) .changed
  let ready ← required (journal.ready.get request.workspaceRef)
  let candidate ← required (journal.candidates.get request.workspaceRef)
  ensure (candidate.intentDigest = request.preparedDigest) .conflict
  ensure (ready.intentDigest = request.preparedDigest && ready.workspaceRef = intent.workspaceRef &&
    ready.generation = intent.generation && ready.operationId = intent.operationId &&
    ready.runId = intent.runId && ready.baseCommit = intent.baseCommit &&
    ready.preparedCommit = candidate.commit && ready.preparedTree = candidate.tree &&
    ready.branch = host.branch intent && ready.outputBaseCommit = candidate.outputBaseCommit &&
    ready.path = host.workPath intent.workspaceRef &&
    ready.gitDirectory = host.gitPath intent.workspaceRef) .changed
  return { intent, candidate, ready }

/-! ## Observing the output -/

/-- The gitlinks of a tree, as the map from path to object. -/
def treeLinks (entries : List TreeEntry) : List (Path × String) :=
  ((entries.filter (·.kind = .commit)).map fun e => (e.path, e.id)).insertionSort (·.1 ≤ ·.1)

/-- The rows of the index: modes by path, in the order read. -/
def indexModes (format : ObjectFormat) (modes : List (Path × Mode)) :
    List IndexRow → Except RepositoryError (List (Path × Mode))
  | [] => .ok modes
  | row :: rows =>
    if portablePath u row.path = false ∨ row.stage ≠ 0 ∨ validObject row.id format = false ∨
        (modes.lookup row.path).isSome then .error .changed
    else match row.mode with
      | none | some .tree => .error .changed
      | some mode => indexModes format ((row.path, mode) :: modes) rows

/-- The gitlinks of the index. -/
def indexLinks (rows : List IndexRow) : List (Path × String) :=
  ((rows.filter (·.mode = some .gitlink)).map fun row => (row.path, row.id)).insertionSort
    (·.1 ≤ ·.1)

/-- `captureIndex`: no unresolved entry, and no gitlink added, removed or moved. -/
def captureIndex (format : ObjectFormat) (baseline : List TreeEntry)
    (index : Except RepositoryError (List IndexRow × String)) :
    Except RepositoryError (List (Path × Mode) × String) := do
  let (rows, raw) ← index
  let modes ← indexModes u format [] rows
  ensure (d.links (treeLinks baseline) = d.links (indexLinks rows)) .specialOutput
  let current ← treeEntries u host.limits format [] (← host.headRows)
  ensure (d.links (treeLinks baseline) = d.links (treeLinks current)) .specialOutput
  return (modes, d.text raw)

/-- The arguments of `snapshotWork`. -/
def scan (format : ObjectFormat) (baseline : List TreeEntry) (modes : List (Path × Mode))
    (work : Worktree) : Scan where
  limits := host.limits
  baseline
  blobHash := host.blobHash format
  windows := host.windows
  indexModes := modes
  entries := work.entries

/-- The snapshot as its digest and its record have it: without the bytes of the files. -/
def WorkSnapshot.recorded (snapshot : WorkSnapshot) : WorkSnapshot :=
  { snapshot with files := snapshot.files.map fun file => { file with data := [] } }

/-- What one call observed. -/
structure Observation where
  head : String
  indexDigest : String
  snapshot : WorkSnapshot
  changes : List CapturedChange

/-- An error of any kind is reported as a change. -/
def orChanged {α : Type} (x : Except RepositoryError α) : Except RepositoryError α :=
  x.mapError fun _ => .changed

/-- The part of `Capture` that reads: head, index, two snapshots, head and index again. -/
def observeOutput (prepared : Prepared) : Except RepositoryError Observation := do
  let format := prepared.intent.objectFormat
  let head ← host.head
  let baseline ← treeEntries u host.limits format [] (← host.baseRows)
  let (modes, indexDigest) ← captureIndex u d host format baseline host.index
  let snapshot ← snapshotWork u (scan host format baseline modes host.work)
  let changes ← changedFiles baseline snapshot prepared.intent.scopePolicy
  let again ← orChanged (snapshotWork u (scan host format baseline modes host.endWork))
  ensure (d.snapshot snapshot.recorded = d.snapshot again.recorded) .changed
  let endHead ← orChanged host.endHead
  ensure (endHead = head) .changed
  let (_, endIndex) ← orChanged (captureIndex u d host format baseline host.endIndex)
  ensure (endIndex = indexDigest) .changed
  return { head, indexDigest, snapshot, changes }

/-! ## Building, verifying and finishing a candidate -/

/-- A file is written once: writing it again needs the same contents. -/
def writeOnce {V : Type} [DecidableEq V] (refused : RepositoryError)
    (file : CaptureJournal → Option V) (write : V → CaptureJournal → CaptureJournal) (value : V) :
    Tx CaptureJournal RepositoryError Unit := fun journal =>
  match file journal with
  | some existing => if existing = value then (.ok (), journal) else (.error refused, journal)
  | none => (.ok (), write value journal)

/-- `ensureExactJSON` of a claim. -/
def ensureExact {V : Type} [DecidableEq V] (claim : CaptureJournal → Option V)
    (write : V → CaptureJournal → CaptureJournal) (value : V) :
    Tx CaptureJournal RepositoryError Unit :=
  writeOnce .conflict claim write value

/-- An answer of Git or the disk. -/
def answer {α : Type} (x : Except RepositoryError α) : Tx CaptureJournal RepositoryError α :=
  fun journal => (x, journal)

/-- The files whose objects are written, each object once. -/
def stagedFiles (files : List CapturedFile) : List CapturedFile :=
  ((files.filter (·.mode ≠ .gitlink)).foldl
    (fun staged file => if staged.any (·.object = file.object) then staged else file :: staged)
    []).reverse

/-- The steps of `buildCapture` that ask Git: the objects, the tree and its commit. -/
def buildTree (prepared : Prepared) (snapshot : WorkSnapshot) :
    Except RepositoryError (String × String) := do
  host.importSnapshot
  let staged := stagedFiles snapshot.files
  let objects ← host.hashObjects (staged.map CapturedFile.data)
  ensure (objects = staged.map CapturedFile.object) .changed
  let tree ← host.writeTree snapshot.files
  let commit ← host.commitTree tree
  ensure (validObject tree prepared.intent.objectFormat &&
    validObject commit prepared.intent.objectFormat) .changed
  host.updateRef
  return (tree, commit)

def buildCapture (prepared : Prepared) (intent : CaptureIntent) (snapshot : WorkSnapshot) :
    Tx CaptureJournal RepositoryError CaptureCandidate := do
  let journal ← get
  let operationId := intent.request.operationId
  answer (ensure (journal.captureRoots.get operationId).isNone .incomplete)
  modify fun j => { j with captureRoots := j.captureRoots.put operationId () }
  let (tree, commit) ← answer (buildTree host prepared snapshot)
  let candidate : CaptureCandidate := { intentDigest := d.intent intent, commit, tree }
  ensureExact (·.captureCandidates.get operationId)
    (fun c j => { j with captureCandidates := j.captureCandidates.put operationId c }) candidate
  return candidate

/-- The files of the candidate's tree, read back, are those of the snapshot. -/
def sameFiles (entries : List TreeEntry) (files : List CapturedFile) : Bool :=
  let actual := entries.filter (·.kind ≠ .tree)
  (actual.map TreeEntry.path).dedup.length = files.length &&
    files.all fun file => (actual.reverse.find? (·.path = file.path)).any fun entry =>
      entry.id = file.object && entry.mode = file.mode

def verifyCaptureCandidate (prepared : Prepared) (intent : CaptureIntent)
    (candidate : CaptureCandidate) : Except RepositoryError Unit := do
  host.intact candidate
  ensure (candidate.intentDigest = d.intent intent &&
    validObject candidate.commit prepared.intent.objectFormat &&
    validObject candidate.tree prepared.intent.objectFormat) .changed
  let tree ← orChanged (host.commitTreeOf candidate.commit)
  ensure (tree = candidate.tree) .changed
  let entries ← treeEntries u host.limits prepared.intent.objectFormat []
    (← host.treeRows candidate.tree)
  ensure (sameFiles entries intent.snapshot.files) .changed
  orChanged host.fsck

/-- The record of a finished capture. -/
def capturedRepository (prepared : Prepared) (intent : CaptureIntent)
    (candidate : CaptureCandidate) (patch : List UInt8) : CapturedRepository where
  operationId := intent.request.operationId
  runId := prepared.intent.runId
  workspaceRef := prepared.intent.workspaceRef
  workspaceGeneration := prepared.intent.generation
  manifestDigest := prepared.intent.manifestDigest
  preparedDigest := prepared.ready.intentDigest
  repositoryId := prepared.intent.repositoryId
  bindingId := prepared.intent.bindingId
  baseCommit := prepared.intent.baseCommit
  preparedCommit := prepared.ready.preparedCommit
  outputBaseCommit := prepared.ready.outputBaseCommit
  observedHead := intent.observedHead
  candidateCommit := candidate.commit
  candidateTree := candidate.tree
  patch
  snapshotDigest := d.snapshot intent.snapshot
  changes := intent.changes
  capturedAt := intent.capturedAt

/-- `finishCapture`: verify, keep the patch, record the result. -/
def finishCapture (prepared : Prepared) (intent : CaptureIntent) (candidate : CaptureCandidate) :
    Tx CaptureJournal RepositoryError CapturedRepository := do
  answer (verifyCaptureCandidate u d host prepared intent candidate)
  let patch ← answer (host.diff candidate.commit)
  answer (ensure (patch.length ≤ maximumCapturedPatch) .limit)
  let operationId := intent.request.operationId
  writeOnce .changed (·.patches.get operationId)
    (fun p j => { j with patches := j.patches.put operationId p }) patch
  let result := capturedRepository d prepared intent candidate patch
  ensureExact (·.captures.get operationId)
    (fun r j => { j with captures := j.captures.put operationId r }) result
  return result

/-- The intent this operation recorded before, if it did. -/
def recordedIntent (journal : CaptureJournal) (request : CaptureRequest) :
    Except RepositoryError (Option CaptureIntent) :=
  match journal.operations.get request.operationId with
  | none => .ok none
  | some (.capture intent) =>
    if d.request intent.request = d.request request then .ok (some intent)
    else .error .conflict
  | some .other => .error .conflict

/-- Record what was observed, or compare it with what was recorded before. -/
def recordIntent (request : CaptureRequest) (recorded : Option CaptureIntent)
    (seen : Observation) : Tx CaptureJournal RepositoryError CaptureIntent :=
  match recorded with
  | some intent => do
      answer (ensure (intent.observedHead = seen.head && intent.indexDigest = seen.indexDigest &&
        d.snapshot intent.snapshot = d.snapshot seen.snapshot.recorded &&
        d.changes intent.changes = d.changes seen.changes) .changed)
      return intent
  | none => do
      let intent : CaptureIntent := {
        request, observedHead := seen.head, indexDigest := seen.indexDigest
        snapshot := seen.snapshot.recorded, changes := seen.changes, capturedAt := host.now }
      ensureExact (·.operations.get request.operationId)
        (fun c j => { j with operations := j.operations.put request.operationId c })
        (OperationClaim.capture intent)
      return intent

/-- The candidate sealed before: it belongs to the recorded intent and to this workspace. -/
def resumeCapture (request : CaptureRequest) (recorded : Option CaptureIntent)
    (journal : CaptureJournal) (candidate : CaptureCandidate) :
    Except RepositoryError CaptureIntent :=
  match recorded with
  | none => .error .changed
  | some intent =>
    if candidate.intentDigest ≠ d.intent intent then .error .changed
    else if (journal.captureWorkspaces.get request.workspaceRef).map d.request ≠
        some (d.request request) then .error .changed
    else .ok intent

/-- A capture of an operation without a sealed candidate. -/
def freshCapture (request : CaptureRequest) (prepared : Prepared)
    (recorded : Option CaptureIntent) : Tx CaptureJournal RepositoryError CapturedRepository := do
  let seen ← answer (observeOutput u d host prepared)
  let intent ← recordIntent d host request recorded seen
  ensureExact (·.captureWorkspaces.get request.workspaceRef)
    (fun r j => { j with captureWorkspaces := j.captureWorkspaces.put request.workspaceRef r })
    request
  let candidate ← buildCapture d host prepared intent seen.snapshot
  finishCapture u d host prepared intent candidate

/-- **`Preparer.Capture`.** -/
def Capture (request : CaptureRequest) : Tx CaptureJournal RepositoryError CapturedRepository := do
  answer host.owner
  answer (ensure (validCaptureRequest request) .invalid)
  let journal ← get
  let prepared ← answer (capturePreparation u d host journal request)
  let recorded ← answer (recordedIntent d journal request)
  match journal.captureCandidates.get request.operationId with
  | some candidate => do
      let intent ← answer (resumeCapture d request recorded journal candidate)
      finishCapture u d host prepared intent candidate
  | none => freshCapture u d host request prepared recorded

end Capture

end AgentRoom.Repository
