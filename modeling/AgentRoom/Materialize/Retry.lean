import AgentRoom.Materialize.Staging

/-!
# A retry that nothing stops

Materializing from each state that an earlier attempt may have left, with operations that work and
a Server that answers.
-/

namespace AgentRoom.Materialize

open Proc Staging

/-- **A pinned Artifact**, with the content that the Server keeps of it. -/
structure Pinned where
  codecs : Codecs
  target : MaterializationTarget
  content : List Byte
  sized : content.length = target.content.sizeBytes
  digest : codecs.sha256 content = target.content.sha256
  positive : 0 < target.content.sizeBytes
  media : target.content.mediaType ∈
    ["text/x-diff", "text/markdown", "application/json", "application/x-git-bundle"]
  /-- The decoder reads what the encoder writes. -/
  decode_encode : codecs.decode (codecs.encode (receiptFile target)) = some (receiptFile target)

namespace Pinned

variable (p : Pinned)

/-- The receipt file of the Artifact. -/
abbrev expected : MaterializationReceiptFile := receiptFile p.target

/-- **The Server, available.** -/
def serve (start last : Nat) : Option DownloadResponse :=
  some {
    statusCode := 206
    contentRange := rangeOf start last p.target.content.sizeBytes
    contentId := p.target.content.contentId
    contentSha256 := p.target.content.sha256
    logicalAlias := p.target.content.logicalAlias
    contentType := p.target.content.mediaType
    body := some ((p.content.drop start).take (last - start + 1)) }

/-- The operations, with the Server available. -/
def handler : Handler stagingOps Staging := exec p.serve

/-- **Materializing.** -/
def materialize : StagingProc VerifiedReceipt := materializeOne p.codecs p.target

/-- A chunk that the Server sends is a slice of the content. -/
theorem chunkOf_serve {start last : Nat} (hstart : start ≤ last)
    (hlast : last < p.target.content.sizeBytes) :
    chunkOf p.target start last (p.serve start last) =
      .ok ((p.content.drop start).take (last - start + 1)) := by
  have hmedia : String.ofList (p.target.content.mediaType.toList.takeWhile (· ≠ ';')) =
      p.target.content.mediaType := by
    have hplain : ∀ media ∈ ["text/x-diff", "text/markdown", "application/json",
        "application/x-git-bundle"],
        String.ofList (media.toList.takeWhile (· ≠ ';')) = media := by
      simp only [List.forall_mem_cons]
      refine ⟨?_, ?_, ?_, ?_, nofun⟩
      all_goals
        rw [String.toList_ofList]
        rfl
    exact hplain _ p.media
  have hlength : ((p.content.drop start).take (last - start + 1)).length = last - start + 1 := by
    rw [List.length_take, List.length_drop, p.sized]
    omega
  unfold chunkOf serve
  dsimp only
  rw [if_neg (by simp), if_neg (by simp only [hmedia, ne_eq, not_true_eq_false, or_self,
    not_false_eq_true]), if_pos hlength]

end Pinned

/-! ## Running operations -/

section Running

variable {p : Pinned} {s s' : Staging} {α : Type}

theorem run_op {o : StagingOp} {r : o.Resp} {f : o.Resp → StagingProc α}
    (h : p.handler o s = (r, s')) :
    ((op o).bind f).run p.handler s = (f r).run p.handler s' := by
  have hrun : (op o).run p.handler s = (.ok r, s') := by
    unfold op
    rw [run_perform, h]
  exact run_bind_ok hrun

theorem run_require {c : Bool} {code : String} (h : c = true) (f : Unit → StagingProc α) :
    ((require c code).bind f).run p.handler s = (f ()).run p.handler s := by
  unfold require
  rw [if_pos h]
  rfl

theorem run_require_last {c : Bool} {code : String} (h : c = true) :
    (require c code).run p.handler s = (.ok (), s) := by
  unfold require
  rw [if_pos h]
  rfl

section Handler

variable {name source target : StagedName} {data : List Byte} {mode : Nat}

theorem handler_lstat : p.handler (.lstat name) s = (s.stat name, s) := rfl

theorem stat_regular (h : s.files.get name = some (.regular data mode)) :
    s.stat name = .regular data.length mode := by
  simp only [stat, h]

theorem stat_absent (h : s.files.get name = none) : s.stat name = .absent := by
  simp only [stat, h]

theorem handler_openRead (h : s.files.get name = some (.regular data mode)) :
    p.handler (.openRead name) s = (.bytes data, s) := by
  simp only [Pinned.handler, exec, h]

theorem handler_chmod (h : s.files.get name = some (.regular data mode)) (mode' : Nat) :
    p.handler (.chmod name mode') s = (true, s.put name (.regular data mode')) := by
  simp only [Pinned.handler, exec, h]

theorem handler_rename (h : s.files.get source = some (.regular data mode)) :
    p.handler (.rename source target) s =
      (true, { s with files := (s.files.remove source).put target (.regular data mode) }) := by
  simp only [Pinned.handler, exec, h]

end Handler

/-- The directory as it is made, or made private again. -/
def Private (s : Staging) : Staging := { s with directory := .directory 0o700 }

theorem run_ensureChildDirectory (hparent : s.parent = true) (hdirectory : s.directory ≠ .special) :
    ensureChildDirectory.run p.handler s = (.ok (), Private s) := by
  unfold ensureChildDirectory
  have hlstat : p.handler .lstatParent s = (true, s) := by
    simp only [Pinned.handler, exec, hparent]
  rw [run_op hlstat, run_require rfl]
  cases hd : s.directory with
  | special => exact absurd hd hdirectory
  | absent =>
    have hmkdir : p.handler .mkdir s = (true, Private s) := by
      simp only [Pinned.handler, exec, hd, Private]
    rw [run_op hmkdir]
    rfl
  | directory mode =>
    have hmkdir : p.handler .mkdir s = (true, s) := by
      simp only [Pinned.handler, exec, hd]
    have hlstat : p.handler .lstatDirectory s = (true, s) := by
      simp only [Pinned.handler, exec, hd]
    have hchmod : p.handler .chmodDirectory s = (true, Private s) := by
      simp only [Pinned.handler, exec, hd, Private]
    rw [run_op hmkdir, run_require rfl, run_op hlstat, run_require rfl, run_op hchmod,
      run_require_last rfl]

section Files

variable {name : StagedName} {data : List Byte} {mode : Nat}

theorem run_regularFileExists (h : s.files.get name = some (.regular data mode)) :
    (regularFileExists name).run p.handler s = (.ok true, s) := by
  unfold regularFileExists
  rw [run_op handler_lstat, stat_regular h]
  rfl

theorem run_regularFileExists_not (h : s.files.get name = none) :
    (regularFileExists name).run p.handler s = (.ok false, s) := by
  unfold regularFileExists
  rw [run_op handler_lstat, stat_absent h]
  rfl

theorem run_verifyFile {sha256 : String} {size : Nat}
    (h : s.files.get name = some (.regular data mode)) (hsize : data.length = size)
    (hdigest : p.codecs.sha256 data = sha256) :
    (verifyFile p.codecs name sha256 size).run p.handler s = (.ok (), s) := by
  unfold verifyFile
  rw [run_op (handler_openRead h)]
  dsimp only
  rw [run_require (decide_eq_true hsize)]
  exact run_require_last (decide_eq_true hdigest)

theorem run_verify_content (h : s.files.get name = some (.regular p.content mode)) :
    (verifyFile p.codecs name p.expected.sha256 p.expected.sizeBytes).run p.handler s =
      (.ok (), s) :=
  run_verifyFile h p.sized p.digest

variable {maximum : Nat}

theorem run_partialOffset_absent (h : s.files.get name = none) :
    (partialOffset name maximum).run p.handler s = (.ok 0, s) := by
  unfold partialOffset
  rw [run_bind_ok (run_regularFileExists_not h)]
  rfl

theorem run_partialOffset (h : s.files.get name = some (.regular data 0o600))
    (hle : data.length ≤ maximum) :
    (partialOffset name maximum).run p.handler s = (.ok data.length, s) := by
  unfold partialOffset
  rw [run_bind_ok (run_regularFileExists h), if_pos rfl, run_op handler_lstat, stat_regular h]
  dsimp only
  rw [if_pos ⟨hle, rfl⟩]
  rfl

theorem run_partialOffset_mode (h : s.files.get name = some (.regular data mode))
    (hmode : mode ≠ 0o600) :
    (partialOffset name maximum).run p.handler s =
      (.error ⟨"invalid_partial_content", false⟩, s) := by
  unfold partialOffset
  rw [run_bind_ok (run_regularFileExists h), if_pos rfl, run_op handler_lstat, stat_regular h]
  dsimp only
  rw [if_neg fun hboth => hmode hboth.2]
  rfl

end Files

/-! ## Writing -/

/-- `s'` is `s` but for some names. -/
structure Beside (changed : StagedName → Prop) (s s' : Staging) : Prop where
  parent : s'.parent = s.parent
  directory : s'.directory = s.directory
  files : ∀ name, ¬ changed name → s'.files.get name = s.files.get name

theorem Beside.refl {changed : StagedName → Prop} : Beside changed s s := ⟨rfl, rfl, fun _ _ => rfl⟩

theorem Beside.trans {changed : StagedName → Prop} {a b c : Staging} (h : Beside changed a b)
    (h' : Beside changed b c) : Beside changed a c where
  parent := h'.parent.trans h.parent
  directory := h'.directory.trans h.directory
  files name hname := (h'.files name hname).trans (h.files name hname)

variable {name : StagedName}

theorem beside_put {changed : StagedName → Prop} {node : Node} (h : changed name) :
    Beside changed s (s.put name node) where
  parent := rfl
  directory := rfl
  files _ hother := Table.get_put_ne _ _ fun hsame => hother (hsame ▸ h)

theorem get_put_same {node : Node} :
    (s.put name node).files.get name = some node := Table.get_put_self _ _ _

theorem overwrite_end (data source : List Byte) :
    overwrite data data.length source = data ++ source := by
  unfold overwrite
  simp

theorem write_end {data source : List Byte} {mode : Nat}
    (h : s.files.get name = some (.regular data mode)) :
    s.write name data.length source = s.put name (.regular (data ++ source) mode) := by
  unfold write
  rw [h]
  dsimp only
  rw [overwrite_end]

/-- **A chunk is put behind the partial file**, which is made if it is not there. -/
theorem run_appendMaterialization (data source : List Byte)
    (h : (s.files.get .part = none ∧ data = []) ∨
      s.files.get .part = some (.regular data 0o600)) :
    ∃ s', (appendMaterialization .part data.length source).run p.handler s = (.ok (), s') ∧
      s'.files.get .part = some (.regular (data ++ source) 0o600) ∧ Beside (· = .part) s s' := by
  -- the file as it was opened
  obtain ⟨s₁, hopen, hpart, hbeside⟩ : ∃ s₁, p.handler (.openCreate .part) s =
      (.regular data.length 0o600, s₁) ∧ s₁.files.get .part = some (.regular data 0o600) ∧
      Beside (· = .part) s s₁ := by
    rcases h with ⟨hnone, rfl⟩ | hsome
    · exact ⟨s.put .part (.regular [] 0o600), by simp only [Pinned.handler, exec, hnone,
        List.length_nil], get_put_same, beside_put rfl⟩
    · refine ⟨s, ?_, hsome, .refl⟩
      have hwritable : writable 0o600 = true := by decide
      simp only [Pinned.handler, exec, hsome, hwritable, if_true]
  have hwrite : p.handler (.writeAt .part data.length source) s₁ =
      (true, s₁.put .part (.regular (data ++ source) 0o600)) := by
    simp only [Pinned.handler, exec, write_end hpart]
  have hsync : p.handler (.sync .part) (s₁.put .part (.regular (data ++ source) 0o600)) =
      (true, s₁.put .part (.regular (data ++ source) 0o600)) := rfl
  refine ⟨s₁.put .part (.regular (data ++ source) 0o600), ?_, get_put_same,
    hbeside.trans (beside_put rfl)⟩
  unfold appendMaterialization
  rw [run_op hopen]
  dsimp only
  rw [run_require (decide_eq_true rfl), run_op hwrite, run_require rfl, run_op hsync,
    run_require_last rfl]

/-- A name of `writeReceipt`. -/
def OfReceipt (name : StagedName) : Prop := name = .receipt ∨ ∃ number, name = .temporary number

/-- **The receipt is written.** -/
theorem run_writeReceipt (receipt : MaterializationReceiptFile) :
    ∃ s', (writeReceipt p.codecs receipt).run p.handler s = (.ok (), s') ∧
      s'.files.get .receipt = some (.regular (p.codecs.encode receipt) 0o600) ∧
      Beside OfReceipt s s' := by
  generalize hn : s.next = number
  -- a temporary file, its mode, its bytes, a sync, and the rename
  let s₁ : Staging := { s.put (.temporary number) (.regular [] 0o600) with next := number + 1 }
  have hcreate : p.handler .createTemp s = (some number, s₁) := by
    simp only [Pinned.handler, exec, hn, s₁]
  have htemp : s₁.files.get (.temporary number) = some (.regular [] 0o600) := get_put_same
  let s₂ := s₁.put (.temporary number) (.regular [] 0o600)
  have hchmod : p.handler (.chmod (.temporary number) 0o600) s₁ = (true, s₂) :=
    handler_chmod htemp 0o600
  have htemp₂ : s₂.files.get (.temporary number) = some (.regular [] 0o600) := get_put_same
  let s₃ := s₂.put (.temporary number) (.regular (p.codecs.encode receipt) 0o600)
  have hwrite : p.handler (.writeAt (.temporary number) 0 (p.codecs.encode receipt)) s₂ =
      (true, s₃) := by
    have hend : s₂.write (.temporary number) 0 (p.codecs.encode receipt) = s₃ := write_end htemp₂
    simp only [Pinned.handler, exec, hend]
  have hsync : p.handler (.sync (.temporary number)) s₃ = (true, s₃) := rfl
  have htemp₃ : s₃.files.get (.temporary number) =
      some (.regular (p.codecs.encode receipt) 0o600) := get_put_same
  let s₄ : Staging := { s₃ with
    files := (s₃.files.remove (.temporary number)).put .receipt
      (.regular (p.codecs.encode receipt) 0o600) }
  have hrename : p.handler (.rename (.temporary number) .receipt) s₃ = (true, s₄) :=
    handler_rename htemp₃
  have hfill : (fillReceipt p.codecs number receipt).run p.handler s₁ = (.ok (), s₄) := by
    unfold fillReceipt
    rw [run_op hchmod, run_require rfl, run_op hwrite, run_require rfl, run_op hsync,
      run_require rfl, run_op hrename, run_require rfl]
    rfl
  -- the deferred remove finds nothing
  let s₅ : Staging := { s₄ with files := s₄.files.remove (.temporary number) }
  have hremove : p.handler (.remove (.temporary number)) s₄ = (true, s₅) := rfl
  refine ⟨s₅, ?_, ?_, rfl, rfl, fun name hname => ?_⟩
  · have hattempt : (fillReceipt p.codecs number receipt).attempt.run p.handler s₁ =
        (.ok (.ok ()), s₄) := by
      rw [run_attempt, hfill]
    unfold writeReceipt
    rw [run_op hcreate]
    dsimp only
    rw [run_bind_ok hattempt, run_op hremove]
    rfl
  · have hne : StagedName.receipt ≠ .temporary number := nofun
    exact (Table.get_remove_ne s₄.files hne).trans (Table.get_put_self _ _ _)
  · have hreceipt : name ≠ .receipt := fun h => hname (.inl h)
    have htemporary : name ≠ .temporary number := fun h => hname (.inr ⟨number, h⟩)
    calc s₅.files.get name
      _ = s₄.files.get name := Table.get_remove_ne _ htemporary
      _ = (s₃.files.remove (.temporary number)).get name := Table.get_put_ne _ _ hreceipt
      _ = s₃.files.get name := Table.get_remove_ne _ htemporary
      _ = s₂.files.get name := Table.get_put_ne _ _ htemporary
      _ = s₁.files.get name := Table.get_put_ne _ _ htemporary
      _ = s.files.get name := Table.get_put_ne _ _ htemporary

theorem take_append_slice (content : List Byte) (k n : Nat) :
    content.take k ++ (content.drop k).take n = content.take (k + n) :=
  List.take_add.symm

theorem downloadFrom_succ (target : MaterializationTarget) (fuel : Nat) {k : Nat}
    (hless : k < target.content.sizeBytes) :
    ∃ last, k ≤ last ∧ last < target.content.sizeBytes ∧ downloadFrom target (fuel + 1) k =
      (downloadChunk target k last).bind fun chunk =>
      (appendMaterialization .part k chunk).bind fun _ =>
      downloadFrom target fuel (k + chunk.length) := by
  have hbounds : ∀ bytes size : Nat, 0 < bytes → k < size →
      k ≤ min (k + bytes) size - 1 ∧ min (k + bytes) size - 1 < size := by
    intro bytes size hbytes hsize
    omega
  obtain ⟨hfirst, hlast⟩ := hbounds materializationChunkBytes _ (by decide) hless
  refine ⟨_, hfirst, hlast, ?_⟩
  rw [downloadFrom, if_pos hless]

/-- **The loop.** From a partial file that is a part of the content, or none, to the content. The
induction is on the fuel, which the missing bytes never exceed. -/
theorem run_downloadFrom (fuel : Nat) {k : Nat} (hk : k ≤ p.target.content.sizeBytes)
    (hfuel : p.target.content.sizeBytes - k ≤ fuel)
    (hpart : (s.files.get .part = none ∧ k = 0) ∨
      s.files.get .part = some (.regular (p.content.take k) 0o600)) :
    ∃ s', (downloadFrom p.target fuel k).run p.handler s = (.ok (), s') ∧
      s'.files.get .part = some (.regular p.content 0o600) ∧ Beside (· = .part) s s' := by
  have hpositive := p.positive
  -- at the end the partial file is the content
  have hwhole : k = p.target.content.sizeBytes →
      s.files.get .part = some (.regular p.content 0o600) := by
    intro hend
    rcases hpart with ⟨-, hzero⟩ | hsome
    · omega
    · rw [hsome, hend, ← p.sized, List.take_length]
  induction fuel generalizing s k with
  | zero => exact ⟨s, rfl, hwhole (by omega), .refl⟩
  | succ fuel ih =>
    by_cases hless : k < p.target.content.sizeBytes
    · obtain ⟨last, hfirst, hlast, hround⟩ := downloadFrom_succ p.target fuel hless
      -- one round: the chunk that is served is appended
      let chunk := (p.content.drop k).take (last - k + 1)
      have hchunk : (downloadChunk p.target k last).run p.handler s = (.ok chunk, s) := by
        have hanswer : p.handler (.download k last) s = (p.serve k last, s) := rfl
        unfold downloadChunk
        rw [run_op hanswer, p.chunkOf_serve (by omega) (by omega)]
        rfl
      have hlength : chunk.length = last - k + 1 := by
        show ((p.content.drop k).take (last - k + 1)).length = last - k + 1
        rw [List.length_take, List.length_drop, p.sized]
        omega
      have hk' : (p.content.take k).length = k := by
        rw [List.length_take, p.sized]
        omega
      obtain ⟨s₁, happend, hpart₁, hbeside₁⟩ := run_appendMaterialization (p := p) (s := s)
        (p.content.take k) chunk (by
          rcases hpart with ⟨hnone, rfl⟩ | hsome
          · exact .inl ⟨hnone, rfl⟩
          · exact .inr hsome)
      rw [hk'] at happend
      rw [take_append_slice, ← hlength] at hpart₁
      obtain ⟨s₂, hrest, hpart₂, hbeside₂⟩ := ih (s := s₁) (k := k + chunk.length) (by omega)
        (by omega) (.inr hpart₁) (fun hend => by
          rw [hpart₁, hend, ← p.sized, List.take_length])
      refine ⟨s₂, ?_, hpart₂, hbeside₁.trans hbeside₂⟩
      rw [hround, run_bind_ok hchunk, run_bind_ok happend]
      exact hrest
    · refine ⟨s, ?_, hwhole (by omega), .refl⟩
      unfold downloadFrom
      rw [if_neg hless]
      rfl

/-! ## What an attempt may leave -/

namespace Pinned

/-- No final file yet; a part of the content, or none. -/
def Loading (p : Pinned) (s : Staging) : Prop :=
  s.files.get .final = none ∧ s.files.get .receipt = none ∧
    (s.files.get .part = none ∨ ∃ k, k ≤ p.content.length ∧
      s.files.get .part = some (.regular (p.content.take k) 0o600))

/-- The partial file is whole and read-only, and has not got the final name. -/
def Sealed (p : Pinned) (s : Staging) : Prop :=
  s.files.get .final = none ∧ s.files.get .receipt = none ∧
    s.files.get .part = some (.regular p.content 0o400)

/-- The final file is there, without a receipt. -/
def Installed (p : Pinned) (s : Staging) : Prop :=
  s.files.get .final = some (.regular p.content 0o400) ∧ s.files.get .receipt = none

/-- The final file and the receipt are there. -/
def Receipted (p : Pinned) (s : Staging) : Prop :=
  s.files.get .final = some (.regular p.content 0o400) ∧
    s.files.get .receipt = some (.regular (p.codecs.encode p.expected) 0o600)

/-- **The directory of a Run is there, and in it what an attempt may leave.** -/
structure Staged (p : Pinned) (s : Staging) : Prop where
  parent : s.parent = true
  directory : s.directory ≠ .special
  files : p.Loading s ∨ p.Sealed s ∨ p.Installed s ∨ p.Receipted s

end Pinned

/-! ## The retry -/

/-- A partial file that is whole is installed. -/
theorem run_installPart (hpart : s.files.get .part = some (.regular p.content 0o600)) :
    ∃ s', (installPart p.codecs p.target p.expected).run p.handler s =
        (.ok (contractReceipt p.expected .verified), s') ∧ p.Receipted s' := by
  let s₁ := s.put .part (.regular p.content 0o400)
  have hpart₁ : s₁.files.get .part = some (.regular p.content 0o400) := get_put_same
  let s₂ : Staging := { s₁ with
    files := (s₁.files.remove .part).put .final (.regular p.content 0o400) }
  have hfinal₂ : s₂.files.get .final = some (.regular p.content 0o400) := Table.get_put_self _ _ _
  obtain ⟨s₃, hwrite, hreceipt₃, hbeside⟩ := run_writeReceipt (p := p) (s := s₂) p.expected
  refine ⟨s₃, ?_, ?_, hreceipt₃⟩
  · have hverified : (verifyFile p.codecs .part p.target.content.sha256
        p.target.content.sizeBytes).attempt.run p.handler s = (.ok (.ok ()), s) := by
      rw [run_attempt, run_verifyFile hpart p.sized p.digest]
    have hrename : p.handler (.rename .part .final) s₁ = (true, s₂) := handler_rename hpart₁
    have hsync : (syncDirectory).run p.handler s₂ = (.ok (), s₂) := rfl
    unfold installPart
    rw [run_bind_ok hverified]
    dsimp only
    rw [run_op (handler_chmod hpart 0o400), run_require rfl, run_op hrename, run_require rfl,
      run_bind_ok hsync, run_bind_ok hwrite]
    rfl
  · rw [hbeside.files .final (by rintro (h | ⟨n, h⟩) <;> cases h)]
    exact hfinal₂

section Retry

variable (hparent : s.parent = true) (hdirectory : s.directory ≠ .special)

include hparent hdirectory

/-- A receipt that is there is returned again. -/
theorem retry_receipted (h : p.Receipted s) :
    p.materialize.run p.handler s = (.ok (contractReceipt p.expected .reused), Private s) := by
  obtain ⟨hfinal, hreceipt⟩ := h
  have hfinal' : (Private s).files.get .final = some (.regular p.content 0o400) := hfinal
  have hreceipt' : (Private s).files.get .receipt =
      some (.regular (p.codecs.encode p.expected) 0o600) := hreceipt
  have hreusable : (reusableMaterialization p.codecs p.expected).run p.handler (Private s) =
      (.ok (some p.expected), Private s) := by
    unfold reusableMaterialization
    rw [run_bind_ok (run_regularFileExists hreceipt'), if_pos rfl,
      run_bind_ok (run_regularFileExists hfinal'), run_require rfl,
      run_op (handler_openRead hreceipt')]
    dsimp only
    rw [run_require (decide_eq_true p.decode_encode),
      run_bind_ok (run_verify_content hfinal'), run_op handler_lstat,
      stat_regular hfinal', run_op handler_lstat, stat_regular hreceipt']
    rfl
  unfold Pinned.materialize materializeOne
  dsimp only
  rw [run_bind_ok (run_ensureChildDirectory hparent hdirectory)]
  exact run_bind_ok hreusable

/-- Without a receipt nothing is reused. -/
theorem run_reusable_not (hreceipt : s.files.get .receipt = none) :
    p.materialize.run p.handler s =
      ((regularFileExists .final).bind fun there =>
        if there then adoptFinal p.codecs p.expected
        else
          (partialOffset .part p.target.content.sizeBytes).bind fun offset =>
          (downloadFrom p.target (p.target.content.sizeBytes - offset) offset).bind fun _ =>
          installPart p.codecs p.target p.expected).run p.handler (Private s) := by
  have hreceipt' : (Private s).files.get .receipt = none := hreceipt
  have hreusable : (reusableMaterialization p.codecs p.expected).run p.handler (Private s) =
      (.ok none, Private s) := by
    unfold reusableMaterialization
    rw [run_bind_ok (run_regularFileExists_not hreceipt')]
    rfl
  unfold Pinned.materialize materializeOne
  dsimp only
  rw [run_bind_ok (run_ensureChildDirectory hparent hdirectory)]
  exact run_bind_ok hreusable

/-- A final file without a receipt gets one. -/
theorem retry_installed (h : p.Installed s) :
    ∃ s', p.materialize.run p.handler s = (.ok (contractReceipt p.expected .reused), s') ∧
      p.Receipted s' := by
  obtain ⟨hfinal, hreceipt⟩ := h
  have hfinal' : (Private s).files.get .final = some (.regular p.content 0o400) := hfinal
  obtain ⟨s₂, hwrite, hreceipt₂, hbeside⟩ := run_writeReceipt (p := p)
    (s := (Private s).put .final (.regular p.content 0o400)) p.expected
  refine ⟨s₂, ?_, ?_, hreceipt₂⟩
  · rw [run_reusable_not hparent hdirectory hreceipt,
      run_bind_ok (run_regularFileExists hfinal'), if_pos rfl]
    unfold adoptFinal
    rw [run_bind_ok (run_verify_content hfinal'), run_op (handler_chmod hfinal' 0o400),
      run_require rfl, run_bind_ok hwrite]
    rfl
  · rw [hbeside.files .final (by rintro (h | ⟨n, h⟩) <;> cases h)]
    exact get_put_same

theorem retry_sealed (h : p.Sealed s) :
    p.materialize.run p.handler s = (.error ⟨"invalid_partial_content", false⟩, Private s) := by
  obtain ⟨hfinal, hreceipt, hpart⟩ := h
  have hfinal' : (Private s).files.get .final = none := hfinal
  have hpart' : (Private s).files.get .part = some (.regular p.content 0o400) := hpart
  rw [run_reusable_not hparent hdirectory hreceipt, run_bind_ok (run_regularFileExists_not hfinal')]
  exact run_bind_error (run_partialOffset_mode hpart' (by decide))

/-- A download is taken up where it was left. -/
theorem retry_loading (h : p.Loading s) :
    ∃ s', p.materialize.run p.handler s = (.ok (contractReceipt p.expected .verified), s') ∧
      p.Receipted s' := by
  obtain ⟨hfinal, hreceipt, hpart⟩ := h
  have hfinal' : (Private s).files.get .final = none := hfinal
  obtain ⟨k, hk, hoffset, hpart'⟩ : ∃ k, k ≤ p.target.content.sizeBytes ∧
      (partialOffset .part p.target.content.sizeBytes).run p.handler (Private s) =
        (.ok k, Private s) ∧
      (((Private s).files.get .part = none ∧ k = 0) ∨
        (Private s).files.get .part = some (.regular (p.content.take k) 0o600)) := by
    rcases hpart with hnone | ⟨k, hk, hsome⟩
    · exact ⟨0, Nat.zero_le _, run_partialOffset_absent hnone, .inl ⟨hnone, rfl⟩⟩
    · have hlength : (p.content.take k).length = k := by
        rw [List.length_take]
        omega
      have hsome' : (Private s).files.get .part = some (.regular (p.content.take k) 0o600) := hsome
      have hoffset : (partialOffset .part p.target.content.sizeBytes).run p.handler (Private s) =
          (.ok (p.content.take k).length, Private s) :=
        run_partialOffset hsome' (by rw [hlength, ← p.sized]; exact hk)
      rw [hlength] at hoffset
      exact ⟨k, by rw [← p.sized]; exact hk, hoffset, .inr hsome'⟩
  obtain ⟨s₁, hload, hwhole, -⟩ := run_downloadFrom (p := p) (p.target.content.sizeBytes - k) hk
    le_rfl hpart'
  obtain ⟨s₂, hinstall, hreceipted⟩ := run_installPart (p := p) hwhole
  refine ⟨s₂, ?_, hreceipted⟩
  rw [run_reusable_not hparent hdirectory hreceipt, run_bind_ok (run_regularFileExists_not hfinal'),
    if_neg (by decide), run_bind_ok hoffset, run_bind_ok hload]
  exact hinstall

end Retry

end Running

end AgentRoom.Materialize
