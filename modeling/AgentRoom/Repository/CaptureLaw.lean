import AgentRoom.Repository.CaptureScope
import AgentRoom.Lib.Utf16

/-!
# When a capture meets the scope law

The law of a capture: it seals a candidate exactly when every differing path is permitted, with
the differing paths as its changes and the snapshot as its tree, and seals no path under another
spelling of a forbidden one. All but the last part always holds. The last one holds exactly when
no changed path is led by something that has the key of a forbidden prefix: the snapshot tells
paths apart by their keys, the scope by their spelling.
-/

namespace AgentRoom.Repository

variable {u : Unicode} {d : Digests} {host : CaptureHost} {journal : CaptureJournal}
  {request : CaptureRequest} {prepared : Prepared} {baseline : List TreeEntry}
  {modes : List (Path × Mode)} {snapshot : WorkSnapshot}

/-- Every path that differs is permitted. -/
def AllPermitted (baseline : List TreeEntry) (snapshot : WorkSnapshot) (policy : ScopePolicy) :
    Prop :=
  ∀ p, Differs baseline snapshot p → Permitted baseline snapshot policy p

/-- **The scope law of a capture**, of what it returns and the journal it leaves. -/
structure CaptureLaw (u : Unicode) (host : CaptureHost) (request : CaptureRequest)
    (baseline : List TreeEntry) (snapshot : WorkSnapshot) (policy : ScopePolicy)
    (outcome : Except RepositoryError CapturedRepository × CaptureJournal) : Prop where
  seals : (∃ intent candidate, Sealed outcome.2 request intent candidate) ↔
    AllPermitted baseline snapshot policy
  changes : ∀ intent candidate, Sealed outcome.2 request intent candidate →
    ChangeList baseline snapshot intent.changes
  tree : ∀ intent candidate, Sealed outcome.2 request intent candidate →
    ∃ rows, host.treeRows candidate.tree = .ok rows ∧ TreeHolds rows snapshot.files
  returned : ∀ r, outcome.1 = .ok r → ∃ intent candidate,
    Sealed outcome.2 request intent candidate ∧ r.changes = intent.changes ∧
      r.candidateTree = candidate.tree ∧ r.candidateCommit = candidate.commit
  forbidden : ∀ intent candidate, Sealed outcome.2 request intent candidate →
    ∀ c ∈ intent.changes, ¬ Respells u policy c.path

theorem Sealed.unique {j : CaptureJournal} {intent intent' : CaptureIntent}
    {candidate candidate' : CaptureCandidate} (h : Sealed j request intent candidate)
    (h' : Sealed j request intent' candidate') : intent' = intent ∧ candidate' = candidate := by
  have hc := h.candidate.symm.trans h'.candidate
  have hi := h.intent.symm.trans h'.intent
  cases hc
  cases hi
  exact ⟨rfl, rfl⟩

/-- What is permitted is sealed with its changes and its tree, and nothing else is sealed. -/
theorem capture_outcome (hu : u.Regular)
    (hgit : GitWorks host prepared.intent.objectFormat snapshot.files)
    (h : Undisturbed u d host journal request prepared baseline modes snapshot) :
    (∃ intent candidate rows,
      Sealed (Capture u d host request journal).2 request intent candidate ∧
      AllPermitted baseline snapshot prepared.intent.scopePolicy ∧
      ChangeList baseline snapshot intent.changes ∧
      host.treeRows candidate.tree = .ok rows ∧ TreeHolds rows snapshot.files ∧
      ∀ r, (Capture u d host request journal).1 = .ok r →
        r.changes = intent.changes ∧ r.candidateTree = candidate.tree ∧
          r.candidateCommit = candidate.commit) ∨
    (¬ AllPermitted baseline snapshot prepared.intent.scopePolicy ∧
      ∃ e, Capture u d host request journal = (.error e, journal)) := by
  rw [capture_fresh h]
  cases hchanges : changedFiles baseline snapshot prepared.intent.scopePolicy with
  | error e =>
    refine .inr ⟨fun hall => ?_, e, freshCapture_error (observeOutput_error h hchanges)⟩
    have hok := changedFiles_ok_iff.mpr ⟨hall, rfl⟩
    rw [hchanges] at hok
    cases hok
  | ok changes =>
    obtain ⟨head, indexDigest, hseen⟩ := observeOutput_ok h hchanges
    have hpaths : FilePaths snapshot.files := snapshotWork_paths hu rfl h.first
    obtain ⟨tree, commit, rows, htree, hrows, hholds⟩ :=
      buildTree_ok hgit hpaths (snapshotWork_hashed h.first)
    obtain ⟨intent, candidate, j, rfl, rfl, hsealed, hrun⟩ := freshCapture_ok h hseen htree
    rw [hrun]
    refine .inl ⟨intent, candidate, rows, ?_, (changedFiles_ok_iff.mp hchanges).1,
      changedFiles_changeList hchanges, hrows, hholds, fun r hr => ?_⟩
    · have hkeeps : KeepsSeal j (finishCapture u d host prepared intent candidate j).2 :=
        finishCapture_keeps
      exact ⟨by rw [hkeeps.candidates]; exact hsealed.candidate,
        by rw [hkeeps.operations]; exact hsealed.intent⟩
    · exact finishCapture_ok (Prod.ext hr rfl)

/-- What the law asks of the sealed changes: nothing that leads one of them has the key of a
forbidden prefix. -/
theorem plainlySpelled_of_captureLaw (hu : u.Regular)
    (hgit : GitWorks host prepared.intent.objectFormat snapshot.files)
    (h : Undisturbed u d host journal request prepared baseline modes snapshot)
    (hlaw : CaptureLaw u host request baseline snapshot prepared.intent.scopePolicy
      (Capture u d host request journal))
    (hpermitted : AllPermitted baseline snapshot prepared.intent.scopePolicy) {p : Path}
    (hp : Differs baseline snapshot p) : PlainlySpelled u prepared.intent.scopePolicy p := by
  obtain ⟨intent, candidate, rows, hsealed, hall, hchanges, -⟩ | ⟨hrefused, -⟩ :=
    capture_outcome hu hgit h
  · obtain ⟨c, hc, rfl⟩ := List.mem_map.mp ((hchanges.differing p).mpr hp)
    have hno := hlaw.forbidden intent candidate hsealed c hc
    rw [respells_iff hu (hall c.path hp).2.2, not_not] at hno
    exact hno
  · exact absurd hpermitted hrefused

/-- The character tables on ASCII texts, which are normalised. -/
def asciiUnicode : Unicode where
  nfc := fun path => path
  lowerRune := fun c => if c.toNat < 65 ∨ 90 < c.toNat then c else Char.ofNat (c.toNat + 32)
  upperRune := Char.toUpper
  isControl := fun c => c.toNat < 32 || c.toNat = 127
  isFormat := fun _ => false
  isSpace := Char.isWhitespace

theorem asciiUnicode_regular : asciiUnicode.Regular := by
  refine ⟨Segments.Segmentwise.id '/', fun c => ?_⟩
  show (if c.toNat < 65 ∨ 90 < c.toNat then c else Char.ofNat (c.toNat + 32)) = '/' ↔ c = '/'
  split
  · exact Iff.rfl
  · next hupper =>
      refine iff_of_false (fun h => ?_) ?_
      · have hnat := congrArg Char.toNat h
        rw [Utf16.toNat_ofNat (.inl (by omega))] at hnat
        have : '/'.toNat = 47 := rfl
        omega
      · rintro rfl
        exact hupper (.inl (by decide))

/-- A scope that forbids `Secret` and allows everything else. -/
def samplePolicy : ScopePolicy where
  access := .isolatedWrite
  allowedPaths := [".".toList]
  forbiddenPaths := ["Secret".toList]

/-- An identifier of one digit. -/
def sampleId (digit : Char) (length : Nat) : String := String.ofList (List.replicate length digit)

def sampleIntent : PreparationIntent where
  version := 2
  operationId := "op_prepare"
  runId := "run_sample"
  repositoryId := "repo_sample"
  bindingId := "bind_sample"
  workspaceRef := "ws_sample"
  generation := sampleId '1' 64
  manifestDigest := sampleId '2' 64
  baseCommit := sampleId '3' 40
  objectFormat := .sha1
  scopePolicy := samplePolicy
  resume := none

def sampleReady : PreparedWorkspace where
  intentDigest := sampleId '4' 64
  operationId := "op_prepare"
  runId := "run_sample"
  workspaceRef := "ws_sample"
  generation := sampleId '1' 64
  baseCommit := sampleId '3' 40
  preparedCommit := sampleId '3' 40
  preparedTree := sampleId '5' 40
  outputBaseCommit := ""
  branch := "refs/heads/codex/ws_sample"
  path := "attempts/ws_sample/work"
  gitDirectory := "attempts/ws_sample/git"

def sampleCandidate : PreparedCandidate where
  intentDigest := sampleId '4' 64
  commit := sampleId '3' 40
  tree := sampleId '5' 40
  outputBaseCommit := ""

/-- One prepared workspace and no capture. -/
def sampleJournal : CaptureJournal where
  workspaces := Table.empty.put "ws_sample" sampleIntent
  ready := Table.empty.put "ws_sample" sampleReady
  candidates := Table.empty.put "ws_sample" sampleCandidate
  operations := .empty
  captureWorkspaces := .empty
  captureCandidates := .empty
  captureRoots := .empty
  patches := .empty
  captures := .empty

def sampleRequest : CaptureRequest where
  operationId := "op_capture"
  workspaceRef := "ws_sample"
  preparedDigest := sampleId '4' 64
  expectedGeneration := sampleId '1' 64
  manifestDigest := sampleId '2' 64

def sampleDigests : Digests where
  preparation := fun _ => sampleId '4' 64
  policy := fun _ => sampleId '6' 64
  request := fun _ => sampleId '7' 64
  intent := fun _ => sampleId '8' 64
  snapshot := fun _ => sampleId '9' 64
  changes := fun _ => sampleId 'a' 64
  links := fun _ => sampleId 'b' 64
  text := fun _ => sampleId 'c' 64
  empty := sampleId 'd' 64

/-- The working directory of an empty base: one file in a directory of the given name. -/
def sampleWork (directory : String) (h : directory.toList ≠ gitName ∧ '/' ∉ directory.toList) :
    Worktree where
  entries := [⟨gitName, .file false []⟩, ⟨directory.toList, .directory⟩,
    ⟨directory.toList ++ '/' :: ['k'], .file false [1]⟩]
  nodup := by
    have hne : directory.toList ≠ directory.toList ++ '/' :: ['k'] := by simp
    have hgit : gitName ≠ directory.toList ++ '/' :: ['k'] := by
      intro heq
      have hin : '/' ∈ gitName := by rw [heq]; simp
      exact absurd hin (by decide)
    simp [h.1.symm, hne, hgit]
  parents := by
    intro e he a b hsplit
    have hslash : '/' ∈ e.path := by rw [hsplit]; simp
    simp only [List.mem_cons, List.not_mem_nil, or_false] at he
    obtain rfl | rfl | rfl := he
    · exact absurd hslash (by decide)
    · exact absurd hslash h.2
    · obtain ⟨rfl, -⟩ | ⟨r, -, hr⟩ := Segments.split_of_plain h.2 hsplit
      · exact ⟨⟨directory.toList, .directory⟩, by simp, rfl, rfl⟩
      · have hin : '/' ∈ ['k'] := by rw [hr]; simp
        exact absurd hin (by decide)

/-- A first capture of that directory, with Git and the disk as they answer there. -/
def sampleHost (work : Worktree) (directory : Path) : CaptureHost where
  limits := ⟨1024, 100⟩
  windows := false
  blobHash := fun _ _ => sampleId 'e' 40
  owner := .ok ()
  head := .ok (sampleId '3' 40)
  endHead := .ok (sampleId '3' 40)
  baseRows := .ok []
  headRows := .ok []
  index := .ok ([], "")
  endIndex := .ok ([], "")
  work
  endWork := work
  now := 0
  branch := fun _ => "refs/heads/codex/ws_sample"
  workPath := fun _ => "attempts/ws_sample/work"
  gitPath := fun _ => "attempts/ws_sample/git"
  importSnapshot := .ok ()
  hashObjects := fun data => .ok (data.map fun _ => sampleId 'e' 40)
  writeTree := fun _ => .ok (sampleId 'f' 40)
  commitTree := fun _ => .ok (sampleId '0' 40)
  updateRef := .ok ()
  intact := fun _ => .ok ()
  commitTreeOf := fun _ => .ok (sampleId 'f' 40)
  treeRows := fun _ => .ok [⟨some .tree, .tree, sampleId '5' 40, directory⟩,
    ⟨some .regular, .blob, sampleId 'e' 40, directory ++ '/' :: ['k']⟩]
  fsck := .ok ()
  diff := fun _ => .ok [1]

def samplePrepared : Prepared := ⟨sampleIntent, sampleCandidate, sampleReady⟩

/-- The snapshot of that directory. -/
def sampleSnapshot (directory : Path) : WorkSnapshot where
  files := [⟨directory ++ '/' :: ['k'], .regular, sampleId 'e' 40, 1, [1]⟩]
  directories := [directory]

theorem sample_git (work : Worktree) (directory : Path) :
    GitWorks (sampleHost work directory) .sha1 (sampleSnapshot directory).files where
  importSnapshot := rfl
  hashObjects := fun _ => rfl
  writeTree := by
    refine fun _ => ⟨sampleId 'f' 40, _, rfl, by decide, rfl, fun path mode id => ?_⟩
    simp [sampleSnapshot]
  commitTree := fun _ => ⟨sampleId '0' 40, rfl, by decide⟩
  updateRef := rfl

/-- The directory `secret`. -/
def secretWork : Worktree := sampleWork "secret" (by decide +kernel)

/-- The directory `plain`. -/
def plainWork : Worktree := sampleWork "plain" (by decide +kernel)

/-- Only the snapshot depends on the directory. -/
theorem sample_undisturbed {work : Worktree} {directory : Path}
    (hfirst : snapshotWork asciiUnicode (scan (sampleHost work directory) .sha1 [] [] work) =
      .ok (sampleSnapshot directory)) :
    Undisturbed asciiUnicode sampleDigests (sampleHost work directory) sampleJournal
      sampleRequest samplePrepared [] [] (sampleSnapshot directory) where
  owner := rfl
  valid := by decide +kernel
  preparation := rfl
  operation := rfl
  unsealed := rfl
  root := rfl
  workspace := rfl
  head := ⟨_, rfl, rfl⟩
  base := ⟨[], rfl, rfl⟩
  index := ⟨_, [], rfl, rfl⟩
  first := hfirst
  again := ⟨_, hfirst, rfl⟩

end AgentRoom.Repository
