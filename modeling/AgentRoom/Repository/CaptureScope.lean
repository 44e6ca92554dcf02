import AgentRoom.Repository.Capture

/-!
# The scope law of a capture

What a first capture of a prepared workspace seals, when nothing but its output decides: Git
works, the head and the index stay as they are and the two snapshots agree. A candidate is
sealed exactly when every path that differs is permitted, with the differing paths for its
changes and the snapshot for its tree. The scope compares spellings, so a path that a forbidden
prefix covers under its key alone is sealed as well, unless the changes are plainly spelled.
-/

namespace AgentRoom.Repository

variable {u : Unicode} {d : Digests} {host : CaptureHost} {journal j j' : CaptureJournal}
  {request : CaptureRequest} {prepared : Prepared} {baseline : List TreeEntry}
  {modes : List (Path × Mode)} {snapshot : WorkSnapshot} {intent : CaptureIntent}
  {candidate : CaptureCandidate}

/-! ## What a capture relies on -/

/-- The rows of a tree, apart from its subtrees, are the files. -/
def TreeHolds (rows : List TreeRow) (files : List CapturedFile) : Prop :=
  ∀ path mode id,
    (∃ row ∈ rows, row.kind ≠ .tree ∧ row.path = path ∧ row.mode = some mode ∧ row.id = id) ↔
      ∃ f ∈ files, f.path = path ∧ f.mode = mode ∧ f.object = id

/-- **Git does what it documents.** Objects get the hash of their bytes, and the tree written
from an index of the files holds them, when none lies under another. -/
structure GitWorks (host : CaptureHost) (format : ObjectFormat) (files : List CapturedFile) :
    Prop where
  importSnapshot : host.importSnapshot = .ok ()
  hashObjects : ∀ data, host.hashObjects data = .ok (data.map (host.blobHash format))
  writeTree : FilePaths files → ∃ tree rows, host.writeTree files = .ok tree ∧
    validObject tree format = true ∧ host.treeRows tree = .ok rows ∧ TreeHolds rows files
  commitTree : ∀ tree, ∃ commit, host.commitTree tree = .ok commit ∧
    validObject commit format = true
  updateRef : host.updateRef = .ok ()

/-- **Nothing but the output decides.** The request is valid and captures a prepared workspace
for the first time, the head and the index are read alike before and after, the baseline is the
output base, and the two snapshots agree. -/
structure Undisturbed (u : Unicode) (d : Digests) (host : CaptureHost) (journal : CaptureJournal)
    (request : CaptureRequest) (prepared : Prepared) (baseline : List TreeEntry)
    (modes : List (Path × Mode)) (snapshot : WorkSnapshot) : Prop where
  owner : host.owner = .ok ()
  valid : validCaptureRequest request = true
  preparation : capturePreparation u d host journal request = .ok prepared
  operation : journal.operations.get request.operationId = none
  unsealed : journal.captureCandidates.get request.operationId = none
  root : journal.captureRoots.get request.operationId = none
  workspace : journal.captureWorkspaces.get request.workspaceRef = none
  head : ∃ head, host.head = .ok head ∧ host.endHead = .ok head
  base : ∃ rows, host.baseRows = .ok rows ∧
    treeEntries u host.limits prepared.intent.objectFormat [] rows = .ok baseline
  index : ∃ indexDigest modes',
    captureIndex u d host prepared.intent.objectFormat baseline host.index =
      .ok (modes, indexDigest) ∧
    captureIndex u d host prepared.intent.objectFormat baseline host.endIndex =
      .ok (modes', indexDigest)
  first : snapshotWork u (scan host prepared.intent.objectFormat baseline modes host.work) =
    .ok snapshot
  again : ∃ again,
    snapshotWork u (scan host prepared.intent.objectFormat baseline modes host.endWork) =
      .ok again ∧ d.snapshot snapshot.recorded = d.snapshot again.recorded

/-! ## Running the steps -/

variable {e : RepositoryError}

theorem ensure_true {c : Bool} (h : c = true) : ensure c e = .ok () := by
  rw [h]
  rfl

variable {V : Type} {refused : RepositoryError} {file : CaptureJournal → Option V}
  {write : V → CaptureJournal → CaptureJournal} {value : V}

theorem writeOnce_none [DecidableEq V] (h : file j = none) :
    writeOnce refused file write value j = (.ok (), write value j) := by
  unfold writeOnce
  rw [h]

theorem writeOnce_state [DecidableEq V] :
    (writeOnce refused file write value j).2 = j ∨
      (writeOnce refused file write value j).2 = write value j := by
  unfold writeOnce
  split
  · split
    · exact .inl rfl
    · exact .inl rfl
  · exact .inr rfl

/-! ## Observing -/

theorem observeOutput_ok {changes : List CapturedChange}
    (h : Undisturbed u d host journal request prepared baseline modes snapshot)
    (hchanges : changedFiles baseline snapshot prepared.intent.scopePolicy = .ok changes) :
    ∃ head indexDigest, observeOutput u d host prepared =
      .ok { head, indexDigest, snapshot, changes } := by
  obtain ⟨head, hhead, hend⟩ := h.head
  obtain ⟨rows, hrows, hbaseline⟩ := h.base
  obtain ⟨indexDigest, modes', hindex, hendIndex⟩ := h.index
  obtain ⟨again, hagain, hdigest⟩ := h.again
  refine ⟨head, indexDigest, ?_⟩
  unfold observeOutput
  simp only [hhead, hend, hrows, hbaseline, hindex, hendIndex, h.first, hchanges, hagain,
    orChanged, Except.mapError, bind, Except.bind, hdigest, decide_true, ensure_true, pure,
    Except.pure]

theorem observeOutput_error
    (h : Undisturbed u d host journal request prepared baseline modes snapshot)
    (hchanges : changedFiles baseline snapshot prepared.intent.scopePolicy = .error e) :
    observeOutput u d host prepared = .error e := by
  obtain ⟨head, hhead, -⟩ := h.head
  obtain ⟨rows, hrows, hbaseline⟩ := h.base
  obtain ⟨indexDigest, modes', hindex, -⟩ := h.index
  unfold observeOutput
  simp only [hhead, hrows, hbaseline, hindex, h.first, hchanges, bind, Except.bind]

/-! ## Building -/

/-- Only files with bytes are staged. -/
theorem mem_stagedFiles {files : List CapturedFile} {f : CapturedFile}
    (h : f ∈ stagedFiles files) : f ∈ files ∧ f.mode ≠ .gitlink := by
  have hloop : ∀ (rest staged : List CapturedFile),
      f ∈ rest.foldl (fun staged file =>
        if staged.any (·.object = file.object) then staged else file :: staged) staged →
      f ∈ staged ∨ f ∈ rest := by
    intro rest
    induction rest with
    | nil => exact fun staged hf => .inl hf
    | cons file rest ih =>
      intro staged hf
      rw [List.foldl_cons] at hf
      obtain hf | hf := ih _ hf
      · split at hf
        · exact .inl hf
        · obtain rfl | hf := List.mem_cons.mp hf
          · exact .inr List.mem_cons_self
          · exact .inl hf
      · exact .inr (List.mem_cons_of_mem _ hf)
  unfold stagedFiles at h
  obtain hf | hf := hloop _ [] (List.mem_reverse.mp h)
  · cases hf
  · obtain ⟨hin, hmode⟩ := List.mem_filter.mp hf
    exact ⟨hin, of_decide_eq_true hmode⟩

/-- Git builds the tree of a snapshot. -/
theorem buildTree_ok (hgit : GitWorks host prepared.intent.objectFormat snapshot.files)
    (hpaths : FilePaths snapshot.files)
    (hhashed : ∀ f ∈ snapshot.files, f.mode = .gitlink ∨
      f.object = host.blobHash prepared.intent.objectFormat f.data) :
    ∃ tree commit rows, buildTree host prepared snapshot = .ok (tree, commit) ∧
      host.treeRows tree = .ok rows ∧ TreeHolds rows snapshot.files := by
  obtain ⟨tree, rows, htree, hvalid, hrows, hholds⟩ := hgit.writeTree hpaths
  obtain ⟨commit, hcommit, hvalid'⟩ := hgit.commitTree tree
  refine ⟨tree, commit, rows, ?_, hrows, hholds⟩
  have hobjects : ((stagedFiles snapshot.files).map CapturedFile.data).map
      (host.blobHash prepared.intent.objectFormat) =
      (stagedFiles snapshot.files).map CapturedFile.object := by
    rw [List.map_map]
    refine List.map_congr_left fun f hf => ?_
    obtain ⟨hin, hmode⟩ := mem_stagedFiles hf
    exact ((hhashed f hin).resolve_left hmode).symm
  unfold buildTree
  simp only [hgit.importSnapshot, hgit.hashObjects, hobjects, htree, hcommit, hvalid, hvalid',
    hgit.updateRef, bind, Except.bind, decide_true, Bool.and_self, ensure_true, pure, Except.pure]

/-! ## Finishing -/

/-- What the steps after sealing leave alone. -/
structure KeepsSeal (j j' : CaptureJournal) : Prop where
  operations : j'.operations = j.operations
  candidates : j'.captureCandidates = j.captureCandidates

theorem KeepsSeal.refl (j : CaptureJournal) : KeepsSeal j j := ⟨rfl, rfl⟩

theorem KeepsSeal.trans {j₁ j₂ j₃ : CaptureJournal} (h : KeepsSeal j₁ j₂)
    (h' : KeepsSeal j₂ j₃) : KeepsSeal j₁ j₃ :=
  ⟨h'.operations.trans h.operations, h'.candidates.trans h.candidates⟩

theorem along_answer {α : Type} {r : CaptureJournal → CaptureJournal → Prop}
    (x : Except RepositoryError α) : Tx.Along r (answer x) j := .refl

theorem along_writeOnce [DecidableEq V] {r : CaptureJournal → CaptureJournal → Prop}
    (h : r j (write value j)) :
    Tx.Along r (writeOnce refused file write value) j := by
  unfold Tx.Along
  obtain hs | hs : (writeOnce refused file write value j).2 = j ∨
      (writeOnce refused file write value j).2 = write value j := writeOnce_state
  · rw [hs]
  · rw [hs]
    exact .single h

theorem finishCapture_keeps :
    KeepsSeal j (finishCapture u d host prepared intent candidate j).2 := by
  have halong : Tx.Along KeepsSeal (finishCapture u d host prepared intent candidate) j := by
    unfold finishCapture
    refine Tx.along_bind (along_answer _) fun _ _ _ => ?_
    refine Tx.along_bind (along_answer _) fun patch _ _ => ?_
    refine Tx.along_bind (along_answer _) fun _ _ _ => ?_
    refine Tx.along_bind (along_writeOnce ⟨rfl, rfl⟩) fun _ _ _ => ?_
    refine Tx.along_bind (along_writeOnce ⟨rfl, rfl⟩) fun _ _ _ => ?_
    exact Tx.along_pure _
  exact halong.related KeepsSeal.refl (fun _ _ _ => KeepsSeal.trans) fun _ _ h => h

theorem finishCapture_ok {r : CapturedRepository}
    (h : finishCapture u d host prepared intent candidate j = (.ok r, j')) :
    r.changes = intent.changes ∧ r.candidateTree = candidate.tree ∧
      r.candidateCommit = candidate.commit := by
  unfold finishCapture at h
  obtain ⟨_, _, -, h⟩ := Tx.ok_of_bind h
  obtain ⟨patch, _, -, h⟩ := Tx.ok_of_bind h
  obtain ⟨_, _, -, h⟩ := Tx.ok_of_bind h
  obtain ⟨_, _, -, h⟩ := Tx.ok_of_bind h
  obtain ⟨_, _, -, h⟩ := Tx.ok_of_bind h
  cases h
  exact ⟨rfl, rfl, rfl⟩

/-! ## Sealing -/

/-- **The candidate of an operation is sealed**, under the intent it was recorded with. -/
structure Sealed (journal : CaptureJournal) (request : CaptureRequest) (intent : CaptureIntent)
    (candidate : CaptureCandidate) : Prop where
  candidate : journal.captureCandidates.get request.operationId = some candidate
  intent : journal.operations.get request.operationId = some (.capture intent)

theorem capture_fresh
    (h : Undisturbed u d host journal request prepared baseline modes snapshot) :
    Capture u d host request journal = freshCapture u d host request prepared none journal := by
  have hrecorded : recordedIntent d journal request = .ok none := by
    unfold recordedIntent
    rw [h.operation]
  unfold Capture
  rw [Tx.bind_ok (show _ = (Except.ok (), journal) by rw [h.owner]; rfl)]
  rw [Tx.bind_ok (show _ = (Except.ok (), journal) by rw [ensure_true h.valid]; rfl)]
  rw [Tx.get_bind]
  rw [Tx.bind_ok (show _ = (Except.ok prepared, journal) by rw [h.preparation]; rfl)]
  rw [Tx.bind_ok (show _ = (Except.ok none, journal) by rw [hrecorded]; rfl)]
  rw [h.unsealed]

theorem freshCapture_error (h : observeOutput u d host prepared = .error e) :
    freshCapture u d host request prepared none journal = (.error e, journal) := by
  unfold freshCapture
  exact Tx.bind_error (by rw [h]; rfl)

/-- What the first capture records of an observation. -/
def freshIntent (host : CaptureHost) (request : CaptureRequest) (seen : Observation) :
    CaptureIntent where
  request
  observedHead := seen.head
  indexDigest := seen.indexDigest
  snapshot := seen.snapshot.recorded
  changes := seen.changes
  capturedAt := host.now

/-- **A first capture seals what it observed**, and then finishes. -/
theorem freshCapture_ok {seen : Observation} {tree commit : String}
    (h : Undisturbed u d host journal request prepared baseline modes snapshot)
    (hseen : observeOutput u d host prepared = .ok seen)
    (htree : buildTree host prepared seen.snapshot = .ok (tree, commit)) :
    ∃ intent candidate j, intent.changes = seen.changes ∧ candidate.tree = tree ∧
      Sealed j request intent candidate ∧
      freshCapture u d host request prepared none journal =
        finishCapture u d host prepared intent candidate j := by
  let intent := freshIntent host request seen
  let candidate : CaptureCandidate := { intentDigest := d.intent intent, commit, tree }
  let j₁ := { journal with
    operations := journal.operations.put request.operationId (.capture intent) }
  let j₂ := { j₁ with
    captureWorkspaces := j₁.captureWorkspaces.put request.workspaceRef request }
  let j₃ := { j₂ with captureRoots := j₂.captureRoots.put request.operationId () }
  let j₄ := { j₃ with
    captureCandidates := j₃.captureCandidates.put request.operationId candidate }
  have hrecord : recordIntent d host request none seen journal = (.ok intent, j₁) := by
    unfold recordIntent
    exact Tx.bind_ok (writeOnce_none h.operation)
  have hbuild : buildCapture d host prepared intent seen.snapshot j₂ = (.ok candidate, j₄) := by
    unfold buildCapture
    rw [Tx.get_bind]
    have hroot : (j₂.captureRoots.get intent.request.operationId).isNone = true := by
      show (journal.captureRoots.get request.operationId).isNone = true
      rw [h.root]
      rfl
    rw [Tx.bind_ok (show _ = (Except.ok (), j₂) by rw [ensure_true hroot]; rfl)]
    rw [Tx.modify_bind]
    rw [Tx.bind_ok (show _ = (Except.ok (tree, commit), j₃) by rw [htree]; rfl)]
    exact Tx.bind_ok (writeOnce_none h.unsealed)
  refine ⟨intent, candidate, j₄, rfl, rfl,
    ⟨Table.get_put_self _ _ _, Table.get_put_self _ _ _⟩, ?_⟩
  unfold freshCapture
  rw [Tx.bind_ok (show _ = (Except.ok seen, journal) by rw [hseen]; rfl)]
  rw [Tx.bind_ok hrecord]
  rw [Tx.bind_ok (show _ = (Except.ok (), j₂) from writeOnce_none h.workspace)]
  rw [Tx.bind_ok hbuild]

end AgentRoom.Repository
