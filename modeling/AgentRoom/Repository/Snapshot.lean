import Mathlib
import AgentRoom.Lib.Segments

/-!
# Repository paths, trees and the frozen scope

The paths of a repository, as `ls-tree` and a directory walk spell them, the portable ones among
them, and the scope a prepared Run is frozen with. Unicode normalisation and the character tables
are those of Go's libraries and stay parameters. A scope compares paths as they are spelled; a
snapshot identifies them by a key, normalised and in lower case.

The frozen baseline is a Git tree as `entries` reads it; the snapshot is what a walk over the
working directory finds. Both identify a path by its key, and the snapshot spells a file as the
baseline does where they agree after normalisation. `changedFiles` compares the two by the exact
spelling and holds every difference against the frozen scope.
-/

namespace AgentRoom.Repository

open Segments

section Paths

/-- A path, character by character, with `/` between its parts. -/
abbrev Path := List Char

/-- What the package fails with. -/
inductive RepositoryError where
  | invalid
  | limit
  | changed
  | conflict
  | incomplete
  | notExist
  | scope
  | specialOutput
  | io
  deriving DecidableEq

/-- `norm.NFC` and the tables of the package `unicode`. -/
structure Unicode where
  nfc : Path → Path
  lowerRune : Char → Char
  upperRune : Char → Char
  isControl : Char → Bool
  isFormat : Char → Bool
  isSpace : Char → Bool

/-- What the model relies on: normalisation goes part by part, and no other character has the
separator for its lower case. -/
structure Unicode.Regular (u : Unicode) : Prop where
  nfc : Segmentwise '/' u.nfc
  lower : ∀ c, u.lowerRune c = '/' ↔ c = '/'

variable (u : Unicode)

/-- `strings.ToLower`. -/
def Unicode.toLower (path : Path) : Path := path.map u.lowerRune

/-- `strings.ToUpper`. -/
def Unicode.toUpper (path : Path) : Path := path.map u.upperRune

/-- `strings.TrimSpace`. -/
def Unicode.trimSpace (text : List Char) : List Char :=
  ((text.dropWhile u.isSpace).reverse.dropWhile u.isSpace).reverse

/-- `strings.ToLower(norm.NFC.String(path))`: the path identity of snapshots and trees. -/
def Unicode.key (path : Path) : Path := u.toLower (u.nfc path)

theorem Unicode.Regular.key {u : Unicode} (hu : u.Regular) : Segmentwise '/' u.key :=
  (Segmentwise.map hu.lower).comp hu.nfc

/-! ## Portable paths -/

/-- The bytes of a text in UTF-8. -/
def utf8Bytes (text : List Char) : Nat := (text.map Char.utf8Size).sum

/-- `strings.Split(path, "/")`. -/
def parts : Path → List Path
  | [] => [[]]
  | c :: rest =>
    match c, parts rest with
    | '/', ps => [] :: ps
    | c, p :: ps => (c :: p) :: ps
    | c, [] => [[c]]

/-- Paths are compared character by character. -/
local instance lawfulBEq_path : LawfulBEq Path := List.instLawfulBEq

/-- `CON`, `PRN`, `AUX`, `NUL`, `COM` and `LPT` with one digit. -/
def deviceName (name : List Char) : Bool :=
  name ∈ ["CON".toList, "PRN".toList, "AUX".toList, "NUL".toList] ||
    match name with
    | [a, b, c, d] => ([a, b, c] = "COM".toList || [a, b, c] = "LPT".toList) && d.isDigit
    | _ => false

/-- The checks of one part. -/
def portablePart (part : Path) : Bool :=
  let low := u.toLower part
  let bad := part = [] || part = ['.'] || part = ['.', '.'] || low = ".git".toList ||
    "git~".toList.isPrefixOf low || ".git~".toList.isPrefixOf low ||
    ['.'].isSuffixOf part || [' '].isSuffixOf part
  !bad && !deviceName ((u.toUpper part).takeWhile (· ≠ '.'))

def portablePath (path : Path) : Bool :=
  path ≠ [] && utf8Bytes path ≤ 4096 &&
    path.all (fun c => c ∉ ['\\', ':', '*', '?', '"', '<', '>', '|']) &&
    path.all (fun c => !u.isControl c && !u.isFormat c) &&
    (parts path).all (portablePart u)

/-! ## The scope policy -/

inductive Access where
  | readOnly
  | isolatedWrite
  deriving DecidableEq

/-- `execution.ManifestScopePolicy`. -/
structure ScopePolicy where
  access : Access
  allowedPaths : List Path
  forbiddenPaths : List Path
  requirePreventivePathEnforcement : Bool := false
  deriving DecidableEq

def prefixContains (pfx path : Path) : Bool :=
  pfx = ['.'] || path = pfx || (pfx ++ ['/']).isPrefixOf path

/-- `allowedOutput`: an isolated writer may change what an allowed prefix contains and no
forbidden one does. -/
def allowedOutput (policy : ScopePolicy) (path : Path) : Bool :=
  policy.access = .isolatedWrite &&
    policy.forbiddenPaths.all (fun pfx => !prefixContains pfx path) &&
    policy.allowedPaths.any (fun pfx => prefixContains pfx path)

/-- The loop of `freezeScopePolicy` over one of the two lists. -/
def checkScopePaths (seen : List Path) : List Path → Except RepositoryError Unit
  | [] => .ok ()
  | path :: rest =>
    if path ∈ seen ∨ (path ≠ ['.'] ∧ portablePath u path = false) then .error .invalid
    else if (parts path).any (fun part => u.trimSpace part ≠ part) then .error .invalid
    else checkScopePaths (path :: seen) rest

/-- `sort.Strings`: bytes of UTF-8 compare as their characters do. -/
def sortPaths (paths : List Path) : List Path := paths.insertionSort (· ≤ ·)

def freezeScopePolicy (policy : ScopePolicy) : Except RepositoryError ScopePolicy :=
  if 64 < policy.allowedPaths.length then .error .limit
  else (checkScopePaths u [] policy.allowedPaths).bind fun _ =>
    if 64 < policy.forbiddenPaths.length then .error .limit
    else (checkScopePaths u [] policy.forbiddenPaths).bind fun _ =>
      let frozen := { policy with
        allowedPaths := sortPaths policy.allowedPaths
        forbiddenPaths := sortPaths policy.forbiddenPaths }
      if frozen.access = .readOnly ∧ frozen.allowedPaths ≠ [] then .error .invalid
      else if frozen.access = .isolatedWrite ∧
          frozen.allowedPaths.any (allowedOutput frozen) = false then .error .invalid
      else .ok frozen

/-! ## What the scope says of a path -/

variable {u} {pfx path : Path} {policy : ScopePolicy}

theorem prefixContains_iff : prefixContains pfx path = true ↔ pfx = ['.'] ∨ Leads '/' pfx path := by
  rw [leads_iff]
  simp only [prefixContains, Bool.or_eq_true, decide_eq_true_eq]
  tauto

theorem allowedOutput_iff : allowedOutput policy path = true ↔
    policy.access = .isolatedWrite ∧
      (∀ pfx ∈ policy.forbiddenPaths, prefixContains pfx path = false) ∧
      ∃ pfx ∈ policy.allowedPaths, prefixContains pfx path = true := by
  simp only [allowedOutput, Bool.and_eq_true, decide_eq_true_eq, List.all_eq_true,
    List.any_eq_true, Bool.not_eq_true', and_assoc]

theorem not_allowedOutput_of_dot (h : ['.'] ∈ policy.forbiddenPaths) (path : Path) :
    allowedOutput policy path = false := by
  rw [Bool.eq_false_iff]
  intro hallowed
  have hdot := (allowedOutput_iff.mp hallowed).2.1 ['.'] h
  rw [Bool.eq_false_iff] at hdot
  exact hdot (prefixContains_iff.mpr (.inl rfl))

/-- The path is another spelling, with the same key, of a path that a forbidden prefix covers. -/
def Respells (u : Unicode) (policy : ScopePolicy) (path : Path) : Prop :=
  ∃ pfx ∈ policy.forbiddenPaths, ∃ covered,
    prefixContains pfx covered = true ∧ covered ≠ path ∧ u.key covered = u.key path

/-- Nothing that leads the path has the key of a forbidden prefix. -/
def PlainlySpelled (u : Unicode) (policy : ScopePolicy) (path : Path) : Prop :=
  ∀ pfx ∈ policy.forbiddenPaths, ∀ lead, Leads '/' lead path → u.key lead ≠ u.key pfx

/-- **Spellings go part by part.** An allowed path respells a forbidden one exactly when
something that leads it has the key of a forbidden prefix. -/
theorem respells_iff (hu : u.Regular) (hallowed : allowedOutput policy path = true) :
    Respells u policy path ↔ ¬ PlainlySpelled u policy path := by
  have hdot : ∀ pfx ∈ policy.forbiddenPaths, pfx ≠ ['.'] := by
    rintro pfx hpfx rfl
    rw [not_allowedOutput_of_dot hpfx path] at hallowed
    cases hallowed
  unfold Respells PlainlySpelled
  push Not
  refine exists_congr fun pfx => and_congr_right fun hpfx => ?_
  have huncovered := (allowedOutput_iff.mp hallowed).2.1 pfx hpfx
  rw [← hu.key.exists_under_iff pfx path]
  refine exists_congr fun covered => ?_
  rw [prefixContains_iff, or_iff_right (hdot pfx hpfx)]
  refine and_congr_right fun hcovered => and_iff_right ?_
  rintro rfl
  rw [prefixContains_iff.mpr (.inr hcovered)] at huncovered
  cases huncovered

end Paths

section Trees

attribute [local instance] lawfulBEq_path

/-! ## Trees -/

/-- The file modes of Git. -/
inductive Mode where
  | regular
  | executable
  | link
  | gitlink
  | tree
  deriving DecidableEq

inductive ObjectKind where
  | blob
  | commit
  | tree
  deriving DecidableEq

inductive ObjectFormat where
  | sha1
  | sha256
  deriving DecidableEq

def validObject (id : String) (format : ObjectFormat) : Bool :=
  id.toList.all (fun c => c.isDigit || ('a' ≤ c && c ≤ 'f')) &&
    id.length = match format with
      | .sha1 => 40
      | .sha256 => 64

/-- A row of `ls-tree -r -t`: `none` stands for a mode the package does not know. -/
structure TreeRow where
  mode : Option Mode
  kind : ObjectKind
  id : String
  path : Path

structure TreeEntry where
  mode : Mode
  kind : ObjectKind
  id : String
  path : Path

structure Limits where
  snapshotBytes : Nat
  entries : Nat

variable (u : Unicode)

/-- The mode of a row, where it goes with its kind. -/
def TreeRow.entry? (row : TreeRow) : Option TreeEntry :=
  match row.mode, row.kind with
  | some .tree, .tree => some ⟨.tree, .tree, row.id, row.path⟩
  | some .gitlink, .commit => some ⟨.gitlink, .commit, row.id, row.path⟩
  | some .regular, .blob => some ⟨.regular, .blob, row.id, row.path⟩
  | some .executable, .blob => some ⟨.executable, .blob, row.id, row.path⟩
  | some .link, .blob => some ⟨.link, .blob, row.id, row.path⟩
  | _, _ => none

/-- `gitRunner.entries`: `seen` holds the keys of the rows before. -/
def treeEntries (limits : Limits) (format : ObjectFormat) (seen : List Path) :
    List TreeRow → Except RepositoryError (List TreeEntry)
  | [] => .ok []
  | row :: rows =>
    if portablePath u row.path = false ∨ validObject row.id format = false then .error .invalid
    else if u.key row.path ∈ seen then .error .invalid
    else match row.entry? with
      | none => .error .invalid
      | some entry =>
        if limits.entries < seen.length + 1 then .error .limit
        else (treeEntries limits format (u.key row.path :: seen) rows).map (entry :: ·)

/-! ## The working directory -/

inductive WorkKind where
  | directory
  | link (target : List UInt8)
  | file (executable : Bool) (data : List UInt8)
  /-- Neither a directory, a link nor a regular file. -/
  | irregular

/-- What a directory walk visits. -/
structure WorkEntry where
  path : Path
  kind : WorkKind

/-- `.git`, the file that links a working tree to its repository. -/
def gitName : Path := ".git".toList

/-- **A working directory**, in the order of a walk: no path is met twice, and what lies under a
path lies in a directory. -/
structure Worktree where
  entries : List WorkEntry
  nodup : (entries.map WorkEntry.path).Nodup
  parents : ∀ e ∈ entries, ∀ a b, e.path = a ++ '/' :: b →
    ∃ d ∈ entries, d.path = a ∧ d.kind = .directory

structure CapturedFile where
  path : Path
  mode : Mode
  object : String
  size : Nat
  data : List UInt8
  deriving DecidableEq

structure WorkSnapshot where
  files : List CapturedFile
  directories : List Path
  deriving DecidableEq

/-- What a walk reads besides the directory. -/
structure Scan where
  limits : Limits
  baseline : List TreeEntry
  /-- `gitBlobHash` of the object format over the data. -/
  blobHash : List UInt8 → String
  /-- `runtime.GOOS == "windows"`. -/
  windows : Bool
  /-- The modes of the index, by path. -/
  indexModes : List (Path × Mode)
  entries : List WorkEntry

/-- The variables of the walk. -/
structure Walk where
  seen : List Path := []
  count : Nat := 0
  total : Nat := 0
  files : List CapturedFile := []
  directories : List Path := []

/-- `before[norm.NFC.String(path)]`: a later entry replaces an earlier one. -/
def original? (baseline : List TreeEntry) (path : Path) : Option TreeEntry :=
  baseline.reverse.find? fun entry => u.nfc entry.path = u.nfc path

/-- The spelling the snapshot gives a path. -/
def spelled (baseline : List TreeEntry) (path : Path) : Path :=
  ((original? u baseline path).map TreeEntry.path).getD path

/-- `fs.ReadDir` of a directory is empty. -/
def emptyDirectory (entries : List WorkEntry) (path : Path) : Bool :=
  entries.all fun e => !(path ++ ['/']).isPrefixOf e.path

/-- Append one file, within the byte limit. -/
def appendFile (s : Scan) (w : Walk) (path : Path) (mode : Mode) (data : List UInt8) :
    Except RepositoryError Walk :=
  if s.limits.snapshotBytes - w.total < data.length then .error .limit
  else .ok { w with
    total := w.total + data.length
    files := w.files ++ [⟨spelled u s.baseline path, mode, s.blobHash data, data.length, data⟩] }

/-- A visited path that is none of `.git`, not portable, over the limit or seen before. -/
def visitKind (s : Scan) (w : Walk) (e : WorkEntry) : Except RepositoryError Walk :=
  match e.kind with
  | .directory =>
    let w := { w with directories := w.directories ++ [e.path] }
    match original? u s.baseline e.path with
    | some original =>
      if original.kind = .commit then
        if emptyDirectory s.entries e.path = false then .error .specialOutput
        else .ok { w with
          files := w.files ++ [⟨original.path, .gitlink, original.id, 0, []⟩] }
      else .ok w
    | none => .ok w
  | .link target => appendFile u s w e.path .link target
  | .file executable data =>
    -- Windows has no executable bit: the index keeps it there.
    let indexed := s.windows &&
      s.indexModes.lookup (spelled u s.baseline e.path) = some Mode.executable
    appendFile u s w e.path (if executable || indexed then .executable else .regular) data
  | .irregular => .error .specialOutput

/-- The function `fs.WalkDir` calls on each path. -/
def visit (s : Scan) (w : Walk) (e : WorkEntry) : Except RepositoryError Walk :=
  if e.path = gitName then
    match e.kind with
    | .file _ _ => .ok w
    | _ => .error .changed
  else if portablePath u e.path = false then .error .invalid
  else if s.limits.entries < w.count + 1 then .error .limit
  else if u.key e.path ∈ w.seen then .error .invalid
  else visitKind u s { w with count := w.count + 1, seen := u.key e.path :: w.seen } e

/-- `fs.WalkDir`. -/
def walk (s : Scan) (w : Walk) : List WorkEntry → Except RepositoryError Walk
  | [] => .ok w
  | e :: rest => (visit u s w e).bind fun w => walk s w rest

/-- `snapshotWork`: files and directories in the order of their paths. -/
def snapshotWork (s : Scan) : Except RepositoryError WorkSnapshot :=
  (walk u s {} s.entries).map fun w =>
    { files := w.files.insertionSort (·.path ≤ ·.path), directories := sortPaths w.directories }

/-! ## Changed files -/

/-- `CapturedChange`: no mode and no object where the path is absent. -/
structure CapturedChange where
  path : Path
  beforeMode : Option Mode
  afterMode : Option Mode
  beforeObject : Option String
  afterObject : Option String
  deriving DecidableEq

/-- `before[path]`, over the entries that are not trees. -/
def before (baseline : List TreeEntry) (path : Path) : Option (Mode × String) :=
  (baseline.reverse.find? fun entry => entry.kind ≠ .tree ∧ entry.path = path).map fun entry =>
    (entry.mode, entry.id)

/-- `after[path]`. -/
def after (snapshot : WorkSnapshot) (path : Path) : Option (Mode × String) :=
  (snapshot.files.reverse.find? (·.path = path)).map fun file => (file.mode, file.object)

/-- A symlink or a gitlink. -/
def special (side : Option (Mode × String)) : Bool :=
  match side with
  | some (.link, _) | some (.gitlink, _) => true
  | _ => false

/-- The paths of the two maps, each once, in order. -/
def orderedPaths (baseline : List TreeEntry) (snapshot : WorkSnapshot) : List Path :=
  sortPaths (((baseline.filter fun entry => entry.kind ≠ .tree).map TreeEntry.path ++
    snapshot.files.map CapturedFile.path).dedup)

/-- The change of one path. -/
def changeOf (baseline : List TreeEntry) (snapshot : WorkSnapshot) (path : Path) :
    CapturedChange where
  path
  beforeMode := (before baseline path).map (·.1)
  afterMode := (after snapshot path).map (·.1)
  beforeObject := (before baseline path).map (·.2)
  afterObject := (after snapshot path).map (·.2)

/-- The loop of `changedFiles`. -/
def changedFrom (baseline : List TreeEntry) (snapshot : WorkSnapshot) (policy : ScopePolicy) :
    List Path → Except RepositoryError (List CapturedChange)
  | [] => .ok []
  | path :: rest =>
    if before baseline path = after snapshot path then changedFrom baseline snapshot policy rest
    else if special (before baseline path) ∨ special (after snapshot path) then
      .error .specialOutput
    else if allowedOutput policy path = false then .error .scope
    else (changedFrom baseline snapshot policy rest).map
      (changeOf baseline snapshot path :: ·)

def changedFiles (baseline : List TreeEntry) (snapshot : WorkSnapshot) (policy : ScopePolicy) :
    Except RepositoryError (List CapturedChange) :=
  changedFrom baseline snapshot policy (orderedPaths baseline snapshot)

end Trees

end AgentRoom.Repository
