import AgentRoom.Lib.CrashLogic
import AgentRoom.Lib.Table

/-!
# Materializing a pinned Artifact

`materializeOne` downloads the content of an Artifact into a partial file, verifies it, makes it
read-only, gives it the final name and writes a receipt beside it. Each of these is an operation of
its own, so the directory can be looked at between any two of them.

Nobody else works in the directory: the Run is locked, and the directory belongs to the Bridge. A
crash is a stop of the process: what it wrote before stays written, whether it was synced or not.
-/

namespace AgentRoom.Materialize

abbrev Byte := UInt8

structure MaterializationError where
  code : String
  retryable : Bool

structure PinnedArtifactContent where
  contentId : String
  logicalAlias : String
  mediaType : String
  sha256 : String
  sizeBytes : Nat

structure MaterializationTarget where
  artifactId : String
  content : PinnedArtifactContent

structure MaterializationReceiptFile where
  artifactId : String
  contentId : String
  logicalAlias : String
  mediaType : String
  sha256 : String
  sizeBytes : Nat
  deriving DecidableEq

inductive MaterializationState where
  | verified | reused
  deriving DecidableEq

/-- `VerifiedArtifactMaterializationReceipt`. -/
structure VerifiedReceipt where
  artifactId : String
  contentId : String
  logicalAlias : String
  materializationState : MaterializationState
  mediaType : String
  sha256 : String
  sizeBytes : Nat

def receiptFile (target : MaterializationTarget) : MaterializationReceiptFile where
  artifactId := target.artifactId
  contentId := target.content.contentId
  logicalAlias := target.content.logicalAlias
  mediaType := target.content.mediaType
  sha256 := target.content.sha256
  sizeBytes := target.content.sizeBytes

def contractReceipt (receipt : MaterializationReceiptFile) (state : MaterializationState) :
    VerifiedReceipt where
  artifactId := receipt.artifactId
  contentId := receipt.contentId
  logicalAlias := receipt.logicalAlias
  materializationState := state
  mediaType := receipt.mediaType
  sha256 := receipt.sha256
  sizeBytes := receipt.sizeBytes

/-- A response of the Server; an interrupted body is none. -/
structure DownloadResponse where
  statusCode : Nat
  contentRange : String
  contentId : String
  contentSha256 : String
  logicalAlias : String
  contentType : String
  body : Option (List Byte)

/-! ## The directory -/

/-- The files of the directory of an Artifact: the name in the alias, `.<contentId>.part`,
`.receipt.json`, and the names that `os.CreateTemp` gives. -/
inductive StagedName where
  | final | part | receipt | temporary (number : Nat)
  deriving DecidableEq

/-- What a name stands for. -/
inductive Node where
  | regular (data : List Byte) (mode : Nat)
  /-- A link, a directory, a socket. -/
  | special
  deriving DecidableEq

inductive DirectoryNode where
  | absent | special | directory (mode : Nat)

/-- **The directory of an Artifact** in the directory of a Run. -/
structure Staging where
  /-- The directory of the Run is one. -/
  parent : Bool
  directory : DirectoryNode
  files : Table StagedName Node
  /-- The number of the next name of `os.CreateTemp`. -/
  next : Nat

/-- What `os.Lstat` says. -/
inductive Stat where
  | failed | absent | special | regular (size mode : Nat)

/-- What reading an opened file gives. -/
inductive Opened where
  | failed | special | bytes (data : List Byte)

/-- An operation on the directory, or a request to the Server. -/
inductive StagingOp where
  | lstatParent
  | mkdir
  | lstatDirectory
  | chmodDirectory
  | lstat (name : StagedName)
  | openRead (name : StagedName)
  /-- Open for writing, with `os.O_CREATE`, and look at what was opened. -/
  | openCreate (name : StagedName)
  | writeAt (name : StagedName) (offset : Nat) (source : List Byte)
  | sync (name : StagedName)
  | chmod (name : StagedName) (mode : Nat)
  | rename (source target : StagedName)
  | remove (name : StagedName)
  | createTemp
  | syncDirectory
  | download (start last : Nat)

/-- What an operation answers. -/
abbrev StagingOp.Resp : StagingOp → Type
  | .lstatParent | .mkdir | .lstatDirectory | .chmodDirectory => Bool
  | .lstat _ => Stat
  | .openRead _ => Opened
  | .openCreate _ => Stat
  | .writeAt .. | .sync _ | .chmod .. | .rename .. | .remove _ | .syncDirectory => Bool
  | .createTemp => Option Nat
  | .download .. => Option DownloadResponse

abbrev stagingOps : Interface where
  Op := StagingOp
  Resp := StagingOp.Resp

/-- The data of a file with `source` written at an offset. -/
def overwrite (data : List Byte) (offset : Nat) (source : List Byte) : List Byte :=
  data.take offset ++ List.replicate (offset - data.length) 0 ++ source ++
    data.drop (offset + source.length)

namespace Staging

def stat (s : Staging) (name : StagedName) : Stat :=
  match s.files.get name with
  | none => .absent
  | some (.regular data mode) => .regular data.length mode
  | some .special => .special

def put (s : Staging) (name : StagedName) (node : Node) : Staging :=
  { s with files := s.files.put name node }

/-- The file as it is after a write. -/
def write (s : Staging) (name : StagedName) (offset : Nat) (source : List Byte) : Staging :=
  match s.files.get name with
  | some (.regular data mode) => s.put name (.regular (overwrite data offset source) mode)
  | _ => s

/-- Opening for writing asks for the mode `0200`. -/
def writable (mode : Nat) : Bool := mode.testBit 7

/-- **An operation that works**, with a Server that answers. -/
def exec (server : Nat → Nat → Option DownloadResponse) :
    (op : StagingOp) → Staging → op.Resp × Staging
  | .lstatParent, s => (s.parent, s)
  | .mkdir, s =>
    match s.directory with
    | .absent => (true, { s with directory := .directory 0o700 })
    | _ => (true, s)
  | .lstatDirectory, s =>
    (match s.directory with
      | .directory _ => true
      | _ => false, s)
  | .chmodDirectory, s =>
    match s.directory with
    | .directory _ => (true, { s with directory := .directory 0o700 })
    | _ => (false, s)
  | .lstat name, s => (s.stat name, s)
  | .openRead name, s =>
    (match s.files.get name with
      | none => .failed
      | some (.regular data _) => .bytes data
      | some .special => .special, s)
  | .openCreate name, s =>
    match s.files.get name with
    | none => (.regular 0 0o600, s.put name (.regular [] 0o600))
    | some (.regular data mode) =>
      (if writable mode then .regular data.length mode else .failed, s)
    | some .special => (.special, s)
  | .writeAt name offset source, s => (true, s.write name offset source)
  | .sync _, s => (true, s)
  | .chmod name mode, s =>
    match s.files.get name with
    | some (.regular data _) => (true, s.put name (.regular data mode))
    | _ => (false, s)
  | .rename source target, s =>
    match s.files.get source with
    | some node => (true, { s with files := (s.files.remove source).put target node })
    | none => (false, s)
  | .remove name, s => (true, { s with files := s.files.remove name })
  | .createTemp, s =>
    (some s.next, { s.put (.temporary s.next) (.regular [] 0o600) with next := s.next + 1 })
  | .syncDirectory, s => (true, s)
  | .download start last, s => (server start last, s)

/-- The answer of an operation that fails. -/
def failure : (op : StagingOp) → op.Resp
  | .lstatParent | .mkdir | .lstatDirectory | .chmodDirectory => false
  | .lstat _ => .failed
  | .openRead _ => .failed
  | .openCreate _ => .failed
  | .writeAt .. | .sync _ | .chmod .. | .rename .. | .remove _ | .syncDirectory => false
  | .createTemp => none
  | .download .. => none

/-- What an operation leaves that fails, or that is stopped: nothing is done, or a part of a
write. -/
def Torn (op : StagingOp) (s s' : Staging) : Prop :=
  s' = s ∨ match op with
    | .writeAt name offset source => ∃ k, s' = s.write name offset (source.take k)
    | _ => False

/-- **What the operations may do**, with a Server that answers as `Serves` says. -/
def Acts (Serves : (Nat → Nat → Option DownloadResponse) → Prop) : Proc.Acts stagingOps Staging :=
  fun op r s s' => (∃ server, Serves server ∧ exec server op s = (r, s')) ∨
    (r = failure op ∧ Torn op s s')

end Staging

/-! ## The program -/

abbrev StagingProc (α : Type) : Type := Proc stagingOps MaterializationError α

def op (o : StagingOp) : StagingProc o.Resp := Proc.perform (I := stagingOps) o

/-- `materializationFailure`, when the condition does not hold. -/
def require (c : Bool) (code : String) : StagingProc Unit :=
  if c then .ret () else .fail ⟨code, false⟩

def ensureChildDirectory : StagingProc Unit :=
  (op .lstatParent).bind fun parent =>
  (require parent "unsafe_artifact_staging").bind fun _ =>
  (op .mkdir).bind fun made =>
  (require made "unsafe_artifact_staging").bind fun _ =>
  (op .lstatDirectory).bind fun directory =>
  (require directory "unsafe_artifact_staging").bind fun _ =>
  (op .chmodDirectory).bind fun changed =>
  require changed "unsafe_artifact_staging"

def regularFileExists (name : StagedName) : StagingProc Bool :=
  (op (.lstat name)).bind fun (stat : Stat) => match stat with
    | .absent => .ret false
    | .regular _ _ => .ret true
    | _ => .fail ⟨"unsafe_staging_file", false⟩

def partialOffset (name : StagedName) (maximum : Nat) : StagingProc Nat :=
  (regularFileExists name).bind fun there =>
  if there then
    (op (.lstat name)).bind fun (stat : Stat) => match stat with
      | .regular size mode =>
        if size ≤ maximum ∧ mode = 0o600 then .ret size
        else .fail ⟨"invalid_partial_content", false⟩
      | _ => .fail ⟨"invalid_partial_content", false⟩
  else .ret 0

def appendMaterialization (name : StagedName) (expectedOffset : Nat) (source : List Byte) :
    StagingProc Unit :=
  (op (.openCreate name)).bind fun (stat : Stat) => match stat with
    | .failed | .absent => .fail ⟨"open_partial_content", false⟩
    | .special => .fail ⟨"partial_offset_changed", false⟩
    | .regular size _ =>
      (require (size = expectedOffset) "partial_offset_changed").bind fun _ =>
      (op (.writeAt name expectedOffset source)).bind fun written =>
      (require written "write_partial_content").bind fun _ =>
      (op (.sync name)).bind fun synced =>
      require synced "sync_partial_content"

/-- The codecs: `sha256` in hexadecimal, `json.MarshalIndent` with the newline after it, and the
strict decoder. -/
structure Codecs where
  sha256 : List Byte → String
  encode : MaterializationReceiptFile → List Byte
  decode : List Byte → Option MaterializationReceiptFile

variable (codecs : Codecs) (target : MaterializationTarget)

def verifyFile (name : StagedName) (expectedSha256 : String) (expectedSize : Nat) :
    StagingProc Unit :=
  (op (.openRead name)).bind fun (opened : Opened) => match opened with
    | .failed => .fail ⟨"open_staged_content", false⟩
    | .special => .fail ⟨"staged_size_mismatch", false⟩
    | .bytes data =>
      (require (data.length = expectedSize) "staged_size_mismatch").bind fun _ =>
      require (codecs.sha256 data = expectedSha256) "staged_digest_mismatch"

def syncDirectory : StagingProc Unit :=
  (op .syncDirectory).bind fun synced => require synced "sync_staging_directory"

def reusableMaterialization (expected : MaterializationReceiptFile) :
    StagingProc (Option MaterializationReceiptFile) :=
  (regularFileExists .receipt).bind fun receiptExists =>
  if receiptExists then
    (regularFileExists .final).bind fun finalExists =>
    (require finalExists "receipt_without_staged_content").bind fun _ =>
    (op (.openRead .receipt)).bind fun (opened : Opened) => match opened with
      | .bytes source =>
        (require (codecs.decode source = some expected)
          "materialization_receipt_mismatch").bind fun _ =>
        (verifyFile codecs .final expected.sha256 expected.sizeBytes).bind fun _ =>
        (op (.lstat .final)).bind fun (finalInfo : Stat) =>
        (op (.lstat .receipt)).bind fun (receiptInfo : Stat) =>
        match finalInfo, receiptInfo with
        | .regular _ finalMode, .regular _ receiptMode =>
          if finalMode = 0o400 ∧ receiptMode = 0o600 then .ret (some expected)
          else .fail ⟨"staged_content_permissions_changed", false⟩
        | _, _ => .fail ⟨"staged_content_permissions_changed", false⟩
      | _ => .fail ⟨"read_materialization_receipt", false⟩
  else .ret none

/-- What `writeReceipt` does with its temporary file. -/
def fillReceipt (number : Nat) (receipt : MaterializationReceiptFile) : StagingProc Unit :=
  (op (.chmod (.temporary number) 0o600)).bind fun changed =>
  (require changed "protect_materialization_receipt").bind fun _ =>
  (op (.writeAt (.temporary number) 0 (codecs.encode receipt))).bind fun written =>
  (require written "write_materialization_receipt").bind fun _ =>
  (op (.sync (.temporary number))).bind fun synced =>
  (require synced "sync_materialization_receipt").bind fun _ =>
  (op (.rename (.temporary number) .receipt)).bind fun renamed =>
  (require renamed "install_materialization_receipt").bind fun _ =>
  syncDirectory

/-- `writeReceipt`, which removes its temporary file whatever became of it. -/
def writeReceipt (receipt : MaterializationReceiptFile) : StagingProc Unit :=
  (op .createTemp).bind fun (created : Option Nat) => match created with
    | none => .fail ⟨"create_materialization_receipt", false⟩
    | some number =>
      (fillReceipt codecs number receipt).attempt.bind fun filled =>
      (op (.remove (.temporary number))).bind fun _ => Proc.ofExcept filled

/-- The range of a request. -/
def rangeOf (start last size : Nat) : String := s!"bytes {start}-{last}/{size}"

/-- What `downloadChunk` makes of a response. -/
def chunkOf (start last : Nat) (response : Option DownloadResponse) :
    Except MaterializationError (List Byte) :=
  match response with
  | none => .error ⟨"download_unavailable", true⟩
  | some response =>
    if response.statusCode ≠ 206 then
      .error ⟨"download_rejected_" ++ toString response.statusCode, 500 ≤ response.statusCode⟩
    else if response.contentRange ≠ rangeOf start last target.content.sizeBytes ∨
        response.contentId ≠ target.content.contentId ∨
        response.contentSha256 ≠ target.content.sha256 ∨
        response.logicalAlias ≠ target.content.logicalAlias ∨
        String.ofList (response.contentType.toList.takeWhile (· ≠ ';')) ≠
          target.content.mediaType then
      .error ⟨"download_metadata_mismatch", false⟩
    else match response.body with
      | none => .error ⟨"download_interrupted", true⟩
      | some source =>
        if source.length = last - start + 1 then .ok source
        else .error ⟨"download_length_mismatch", false⟩

def downloadChunk (start last : Nat) : StagingProc (List Byte) :=
  (op (.download start last)).bind fun (response : Option DownloadResponse) =>
  Proc.ofExcept (chunkOf target start last response)

def materializationChunkBytes : Nat := 256 * 1024

/-- The loop over the chunks. Each brings a byte at least, so the missing bytes are fuel enough. -/
def downloadFrom : Nat → Nat → StagingProc Unit
  | 0, _ => .ret ()
  | fuel + 1, offset =>
    if offset < target.content.sizeBytes then
      let last := min (offset + materializationChunkBytes) target.content.sizeBytes - 1
      (downloadChunk target offset last).bind fun chunk =>
      (appendMaterialization .part offset chunk).bind fun _ =>
      downloadFrom fuel (offset + chunk.length)
    else .ret ()

/-- The final file is there, without its receipt. -/
def adoptFinal (expected : MaterializationReceiptFile) : StagingProc VerifiedReceipt :=
  (verifyFile codecs .final expected.sha256 expected.sizeBytes).bind fun _ =>
  (op (.chmod .final 0o400)).bind fun changed =>
  (require changed "protect_staged_content").bind fun _ =>
  (writeReceipt codecs expected).bind fun _ =>
  .ret (contractReceipt expected .reused)

/-- The partial file is whole. -/
def installPart (expected : MaterializationReceiptFile) : StagingProc VerifiedReceipt :=
  (verifyFile codecs .part target.content.sha256 target.content.sizeBytes).attempt.bind
    fun verified => match verified with
    | .error e => (op (.remove .part)).bind fun _ => .fail e
    | .ok _ =>
      (op (.chmod .part 0o400)).bind fun changed =>
      (require changed "protect_staged_content").bind fun _ =>
      (op (.rename .part .final)).bind fun renamed =>
      (require renamed "install_staged_content").bind fun _ =>
      syncDirectory.bind fun _ =>
      (writeReceipt codecs expected).bind fun _ =>
      .ret (contractReceipt expected .verified)

/-- **`materializeOne`.** -/
def materializeOne : StagingProc VerifiedReceipt :=
  let expected := receiptFile target
  ensureChildDirectory.bind fun _ =>
  (reusableMaterialization codecs expected).bind fun reusable => match reusable with
    | some receipt => .ret (contractReceipt receipt .reused)
    | none =>
      (regularFileExists .final).bind fun there =>
      if there then adoptFinal codecs expected
      else
        (partialOffset .part target.content.sizeBytes).bind fun offset =>
        (downloadFrom target (target.content.sizeBytes - offset) offset).bind fun _ =>
        installPart codecs target expected

end AgentRoom.Materialize
