import AgentRoom.Materialize.Moments
import AgentRoom.Lib.System

/-!
# Materializing over crashes

Whatever the Server sends and whatever was in the directory, the final name never comes to hold a
file of another digest or size. With a Server that sends no other content, any number of attempts
that fail or are stopped anywhere leave the directory in one of four states. From three of them an
attempt that nothing stops completes.
-/

namespace AgentRoom.Materialize

open Proc Staging

variable {Serves : (Nat → Nat → Option DownloadResponse) → Prop} {Inv : Staging → Prop}
  {s s' : Staging}

/-! ## The final name -/

/-- The data of a file. -/
def Node.data? : Node → Option (List Byte)
  | .regular data _ => some data
  | .special => none

/-- What a name holds, but for the mode. -/
def dataAt (s : Staging) (name : StagedName) : Option (Option (List Byte)) :=
  (s.files.get name).map Node.data?

theorem dataAt_regular {name : StagedName} {data : List Byte} {mode : Nat}
    (h : s.files.get name = some (.regular data mode)) : dataAt s name = some (some data) := by
  unfold dataAt
  rw [h]
  rfl

theorem dataAt_congr {name : StagedName} (h : s'.files.get name = s.files.get name) :
    dataAt s' name = dataAt s name := by
  unfold dataAt
  rw [h]

/-- **The final name holds what it held, or a file of the pinned size and digest.** -/
def FinalSound (codecs : Codecs) (target : MaterializationTarget) (s₀ s : Staging) : Prop :=
  dataAt s .final = dataAt s₀ .final ∨
    ∃ data, dataAt s .final = some (some data) ∧ data.length = target.content.sizeBytes ∧
      codecs.sha256 data = target.content.sha256

section Final

variable {codecs : Codecs} {target : MaterializationTarget} {s₀ : Staging}

theorem FinalSound.congr (h : FinalSound codecs target s₀ s)
    (hsame : dataAt s' .final = dataAt s .final) : FinalSound codecs target s₀ s' := by
  unfold FinalSound at h ⊢
  rw [hsame]
  exact h

theorem sound_touching {α : Type} {P : StagedName → Prop} {x : StagingProc α}
    (hx : Only (Touches P) x) (hfinal : ¬ P .final) (hs : FinalSound codecs target s₀ s) :
    SafeFor Serves (FinalSound codecs target s₀) (fun _ s' => Frame P s s') x s :=
  safe_touching hx fun _ h => hs.congr (dataAt_congr (h .final hfinal))

theorem dataAt_chmod {name : StagedName} {mode : Nat}
    (server : Nat → Nat → Option DownloadResponse) (other : StagedName) :
    dataAt (exec server (.chmod name mode) s).2 other = dataAt s other := by
  unfold exec
  dsimp only
  split
  · next data old hnode =>
    by_cases hsame : other = name
    · subst hsame
      rw [dataAt_regular hnode]
      exact dataAt_regular get_put_same
    · exact dataAt_congr (Table.get_put_ne _ _ hsame)
  · rfl

theorem sound_adoptFinal (expected : MaterializationReceiptFile)
    (hs : FinalSound codecs target s₀ s) :
    SafeFor Serves (FinalSound codecs target s₀) (fun _ _ => True)
      (adoptFinal codecs expected) s := by
  unfold adoptFinal
  have hsame : ∀ s', Same s s' → FinalSound codecs target s₀ s' :=
    fun s' h => hs.congr (dataAt_congr (by rw [h.files]))
  refine safe_then (safe_verifyFile hsame codecs .final _ _) fun _ s₁ hs₁ hverified => ?_
  obtain ⟨rfl, -⟩ := hverified
  have hwrite : ∀ s' changed, FinalSound codecs target s₀ s' →
      SafeFor Serves (FinalSound codecs target s₀) (fun _ _ => True)
        ((require changed "protect_staged_content").bind fun _ =>
          (writeReceipt codecs expected).bind fun _ => .ret (contractReceipt expected .reused))
        s' := by
    intro s' changed hs'
    refine safe_require hs' fun _ => ?_
    refine safe_then (sound_touching (only_writeReceipt codecs expected)
      (by rintro (h | ⟨n, h⟩) <;> cases h) hs') fun _ s₂ hs₂ _ => ?_
    exact safe_return hs₂ trivial
  refine safe_op hs₁ (fun server _ => ?_) fun s' htorn => ?_
  · exact hwrite _ _ (hs₁.congr (dataAt_chmod server .final))
  · obtain rfl := torn_same htorn nofun
    exact hwrite _ _ hs₁

/-- **What gets the final name was verified.** -/
theorem sound_installPart (expected : MaterializationReceiptFile)
    (hs : FinalSound codecs target s₀ s) :
    SafeFor Serves (FinalSound codecs target s₀) (fun _ _ => True)
      (installPart codecs target expected) s := by
  unfold installPart
  have hsame : ∀ s', Same s s' → FinalSound codecs target s₀ s' :=
    fun s' h => hs.congr (dataAt_congr (by rw [h.files]))
  have hverify : SafeFor Serves (FinalSound codecs target s₀)
      (fun verified s' => ∀ u, verified = .ok u → ∃ data,
        dataAt s' .part = some (some data) ∧ data.length = target.content.sizeBytes ∧
          codecs.sha256 data = target.content.sha256)
      (verifyFile codecs .part target.content.sha256 target.content.sizeBytes).attempt s := by
    refine safe_attempt (safe_verifyFile hsame codecs .part _ _) fun r s' _ hr => ?_
    refine returns_ok fun u hu => ?_
    obtain ⟨rfl, data, mode, hnode, hsize, hdigest⟩ := hr u hu
    exact ⟨data, dataAt_regular hnode, hsize, hdigest⟩
  refine safe_then hverify fun verified s₁ hs₁ hpart => ?_
  cases verified with
  | error e =>
    -- nothing but the part is touched
    have htouch : Only (Touches (· = .part)) ((op (.remove .part)).bind fun _ =>
      (.fail e : StagingProc VerifiedReceipt)) := only_op rfl fun _ => trivial
    exact safe_weaken (sound_touching htouch nofun hs₁) fun _ _ _ _ => trivial
  | ok u =>
    obtain ⟨data, hdata, hsize, hdigest⟩ := hpart u rfl
    -- the partial file is renamed as it was verified
    have hrename : ∀ s' changed, FinalSound codecs target s₀ s' →
        dataAt s' .part = some (some data) →
        SafeFor Serves (FinalSound codecs target s₀) (fun _ _ => True)
          ((require changed "protect_staged_content").bind fun _ =>
            (op (.rename .part .final)).bind fun renamed =>
            (require renamed "install_staged_content").bind fun _ =>
            syncDirectory.bind fun _ =>
            (writeReceipt codecs expected).bind fun _ =>
            .ret (contractReceipt expected .verified)) s' := by
      intro s' changed hs' hdata'
      refine safe_require hs' fun _ => ?_
      have hrest : ∀ s' renamed, FinalSound codecs target s₀ s' →
          SafeFor Serves (FinalSound codecs target s₀) (fun _ _ => True)
            ((require renamed "install_staged_content").bind fun _ =>
              syncDirectory.bind fun _ =>
              (writeReceipt codecs expected).bind fun _ =>
              .ret (contractReceipt expected .verified)) s' := by
        intro s' renamed hs'
        have htouch : Only (Touches OfReceipt) ((require renamed "install_staged_content").bind
            fun _ => syncDirectory.bind fun _ => (writeReceipt codecs expected).bind fun _ =>
              .ret (contractReceipt expected .verified)) :=
          only_checked _ _ (only_bind (only_op trivial fun _ => only_require _ _) fun _ =>
            only_bind (only_writeReceipt codecs expected) fun _ => trivial)
        exact safe_weaken (sound_touching htouch (by rintro (h | ⟨n, h⟩) <;> cases h) hs')
          fun _ _ _ _ => trivial
      refine safe_op hs' (fun server _ => hrest _ _ ?_) fun s'' htorn => ?_
      · obtain ⟨node, hnode, hnodeData⟩ := Option.map_eq_some_iff.mp hdata'
        refine .inr ⟨data, ?_, hsize, hdigest⟩
        unfold dataAt exec
        dsimp only
        rw [hnode]
        dsimp only
        rw [Table.get_put_self, Option.map_some, hnodeData]
      · obtain rfl := torn_same htorn nofun
        exact hrest _ _ hs'
    refine safe_op hs₁ (fun server _ => ?_) fun s' htorn => ?_
    · exact hrename _ _ (hs₁.congr (dataAt_chmod server .final))
        ((dataAt_chmod server .part).trans hdata)
    · obtain rfl := torn_same htorn nofun
      exact hrename _ _ hs₁ hdata

/-- **At every moment of an attempt the final name is sound**, whatever the Server answers, whatever
operations fail, and whatever the directory held before. -/
theorem sound_materializeOne :
    SafeFor Serves (FinalSound codecs target s) (fun _ _ => True) (materializeOne codecs target)
      s := by
  unfold materializeOne
  dsimp only
  have hs : FinalSound codecs target s s := .inl rfl
  have hsame : ∀ s₁, FinalSound codecs target s s₁ → ∀ s', Same s₁ s' →
      FinalSound codecs target s s' :=
    fun s₁ hs₁ s' h => hs₁.congr (dataAt_congr (by rw [h.files]))
  refine safe_then (safe_ensureChildDirectory (hsame s hs)) fun _ s₁ hs₁ _ => ?_
  refine safe_then (safe_reusableMaterialization (hsame s₁ hs₁) codecs _)
    fun reusable s₂ hs₂ _ => ?_
  cases reusable with
  | some receipt => exact safe_return hs₂ trivial
  | none =>
    refine safe_then (safe_regularFileExists (hsame s₂ hs₂) .final) fun there s₃ hs₃ _ => ?_
    cases there with
    | true =>
      rw [if_pos rfl]
      exact sound_adoptFinal _ hs₃
    | false =>
      rw [if_neg (by decide)]
      refine safe_then (safe_partialOffset (hsame s₃ hs₃) .part _) fun offset s₄ hs₄ _ => ?_
      refine safe_then (sound_touching (only_downloadFrom target _ offset) nofun hs₄)
        fun _ s₅ hs₅ _ => ?_
      exact sound_installPart _ hs₅

end Final

/-! ## What an attempt leaves -/

/-- **A Server that sends no other content** in the chunks that are accepted. -/
def Pinned.Honest (p : Pinned) (server : Nat → Nat → Option DownloadResponse) : Prop :=
  ∀ start last chunk, chunkOf p.target start last (server start last) = .ok chunk →
    chunk = (p.content.drop start).take (last - start + 1)

/-- A receipt is being written: it is as it was, or written. -/
structure Writing (codecs : Codecs) (receipt : MaterializationReceiptFile) (s s' : Staging) :
    Prop where
  parent : s'.parent = s.parent
  directory : s'.directory = s.directory
  frame : Frame OfReceipt s s'
  receipt : s'.files.get .receipt = s.files.get .receipt ∨
    s'.files.get .receipt = some (.regular (codecs.encode receipt) 0o600)

section Writing

variable {codecs : Codecs} {receipt : MaterializationReceiptFile} {s₀ : Staging} {number : Nat}

theorem Writing.put_temporary (h : Writing codecs receipt s₀ s) (node : Node) :
    Writing codecs receipt s₀ (s.put (.temporary number) node) where
  parent := h.parent
  directory := h.directory
  frame name hname :=
    (Table.get_put_ne _ _ fun hsame => hname (.inr ⟨number, hsame⟩)).trans (h.frame name hname)
  receipt := by
    have hreceipt : (s.put (.temporary number) node).files.get .receipt =
        s.files.get .receipt := Table.get_put_ne _ _ nofun
    rw [hreceipt]
    exact h.receipt

theorem Writing.write_temporary (h : Writing codecs receipt s₀ s) (offset : Nat)
    (source : List Byte) :
    Writing codecs receipt s₀ (s.write (.temporary number) offset source) := by
  unfold Staging.write
  split
  · exact h.put_temporary _
  · exact h

theorem Writing.remove_temporary (h : Writing codecs receipt s₀ s) :
    Writing codecs receipt s₀ { s with files := s.files.remove (.temporary number) } where
  parent := h.parent
  directory := h.directory
  frame name hname :=
    (Table.get_remove_ne _ fun hsame => hname (.inr ⟨number, hsame⟩)).trans (h.frame name hname)
  receipt := by
    have hreceipt : (s.files.remove (.temporary number)).get .receipt = s.files.get .receipt :=
      Table.get_remove_ne _ nofun
    dsimp only
    rw [hreceipt]
    exact h.receipt

/-- The temporary file is renamed as it was written. -/
theorem Writing.install (h : Writing codecs receipt s₀ s)
    (htemp : s.files.get (.temporary number) = some (.regular (codecs.encode receipt) 0o600))
    (server : Nat → Nat → Option DownloadResponse) :
    Writing codecs receipt s₀ (exec server (.rename (.temporary number) .receipt) s).2 := by
  have hexec : (exec server (.rename (.temporary number) .receipt) s).2 =
      { s with
        files := (s.files.remove (.temporary number)).put .receipt
          (.regular (codecs.encode receipt) 0o600) } := by
    simp only [exec, htemp]
  rw [hexec]
  refine ⟨h.parent, h.directory, fun name hname => ?_, .inr (Table.get_put_self _ _ _)⟩
  have hreceipt : name ≠ .receipt := fun hsame => hname (.inl hsame)
  have htemporary : name ≠ .temporary number := fun hsame => hname (.inr ⟨number, hsame⟩)
  exact ((Table.get_put_ne _ _ hreceipt).trans (Table.get_remove_ne _ htemporary)).trans
    (h.frame name hname)

theorem safe_fillReceipt (hs : Writing codecs receipt s₀ s)
    (htemp : s.files.get (.temporary number) = some (.regular [] 0o600)) :
    SafeFor Serves (Writing codecs receipt s₀) (fun _ _ => True)
      (fillReceipt codecs number receipt) s := by
  unfold fillReceipt
  refine safe_op hs (fun server _ => ?_) fun s' htorn => ?_
  · -- three steps on the temporary file, each done or torn
    have hchmod : exec server (.chmod (.temporary number) 0o600) s =
        (true, s.put (.temporary number) (.regular [] 0o600)) := by
      simp only [exec, htemp]
    rw [hchmod]
    have hs₁ : Writing codecs receipt s₀ (s.put (.temporary number) (.regular [] 0o600)) :=
      hs.put_temporary _
    refine safe_require hs₁ fun _ => safe_op hs₁ (fun server _ => ?_) fun s' htorn => ?_
    · have hwrite : exec server (.writeAt (.temporary number) 0 (codecs.encode receipt))
          (s.put (.temporary number) (.regular [] 0o600)) =
          (true, (s.put (.temporary number) (.regular [] 0o600)).put (.temporary number)
            (.regular (codecs.encode receipt) 0o600)) := by
        have hend : (s.put (.temporary number) (.regular [] 0o600)).write (.temporary number) 0
            (codecs.encode receipt) = (s.put (.temporary number) (.regular [] 0o600)).put
              (.temporary number) (.regular (codecs.encode receipt) 0o600) := write_end get_put_same
        simp only [exec, hend]
      rw [hwrite]
      have hs₂ : Writing codecs receipt s₀ ((s.put (.temporary number) (.regular [] 0o600)).put
          (.temporary number) (.regular (codecs.encode receipt) 0o600)) := hs₁.put_temporary _
      refine safe_require hs₂ fun _ => ?_
      -- the rename installs a whole receipt, or none
      have hrename : ∀ synced, SafeFor Serves (Writing codecs receipt s₀) (fun _ _ => True)
          ((require synced "sync_materialization_receipt").bind fun _ =>
            (op (.rename (.temporary number) .receipt)).bind fun renamed =>
            (require renamed "install_materialization_receipt").bind fun _ => syncDirectory)
          ((s.put (.temporary number) (.regular [] 0o600)).put (.temporary number)
            (.regular (codecs.encode receipt) 0o600)) := by
        intro synced
        refine safe_require hs₂ fun _ => ?_
        have hlast : ∀ s' renamed, Writing codecs receipt s₀ s' →
            SafeFor Serves (Writing codecs receipt s₀) (fun _ _ => True)
              ((require renamed "install_materialization_receipt").bind fun _ => syncDirectory)
              s' := by
          intro s' renamed hs'
          refine safe_require hs' fun _ => safe_op hs' (fun _ _ => ?_) fun s'' htorn => ?_
          · exact safe_require_last hs' fun _ => trivial
          · obtain rfl := Or.resolve_right htorn id
            exact safe_require_last hs' fun _ => trivial
        refine safe_op hs₂ (fun server _ => hlast _ _ (hs₂.install get_put_same server))
          fun s' htorn => ?_
        obtain rfl := Or.resolve_right htorn id
        exact hlast _ _ hs₂
      refine safe_op hs₂ (fun _ _ => hrename _) fun s' htorn => ?_
      obtain rfl := Or.resolve_right htorn id
      exact hrename _
    · have hs' : Writing codecs receipt s₀ s' := by
        rcases htorn with rfl | ⟨k, rfl⟩
        · exact hs₁
        · exact hs₁.write_temporary _ _
      exact safe_require hs' fun h => absurd h Bool.false_ne_true
  · obtain rfl := Or.resolve_right htorn id
    exact safe_require hs fun h => absurd h Bool.false_ne_true

/-- **At every moment of writing a receipt** it is as it was, or written. -/
theorem safe_writeReceipt (hinv : ∀ s', Writing codecs receipt s s' → Inv s') :
    SafeFor Serves Inv (fun _ _ => True) (writeReceipt codecs receipt) s := by
  have hs : Writing codecs receipt s s := ⟨rfl, rfl, fun _ _ => rfl, .inl rfl⟩
  have hwriting : SafeFor Serves (Writing codecs receipt s) (fun _ _ => True)
      (writeReceipt codecs receipt) s := by
    unfold writeReceipt
    refine safe_op hs (fun server _ => ?_) fun s' htorn => ?_
    · let s₁ : Staging := { s.put (.temporary s.next) (.regular [] 0o600) with next := s.next + 1 }
      have hcreate : exec server .createTemp s = (some s.next, s₁) := rfl
      rw [hcreate]
      dsimp only
      have hs₁ : Writing codecs receipt s s₁ := by
        have hput : Writing codecs receipt s (s.put (.temporary s.next) (.regular [] 0o600)) :=
          hs.put_temporary _
        exact ⟨hput.parent, hput.directory, hput.frame, hput.receipt⟩
      have hfill : SafeFor Serves (Writing codecs receipt s) (fun _ _ => True)
          (fillReceipt codecs s.next receipt).attempt s₁ :=
        safe_attempt (safe_fillReceipt hs₁ get_put_same) fun _ _ _ _ => returns_ok trivial
      refine safe_then hfill fun filled s₂ hs₂ _ => ?_
      have hend : ∀ s', Writing codecs receipt s s' → SafeFor Serves (Writing codecs receipt s)
          (fun _ _ => True) (Proc.ofExcept filled) s' := by
        intro s' hs'
        cases filled with
        | ok u => exact safe_return hs' trivial
        | error e => exact safe_error hs'
      refine safe_op hs₂ (fun _ _ => hend _ hs₂.remove_temporary) fun s' htorn => ?_
      obtain rfl := torn_same htorn nofun
      exact hend _ hs₂
    · obtain rfl := torn_same htorn nofun
      exact safe_error hs
  exact hwriting.weaken hinv

end Writing

variable {p : Pinned}

/-! ## Loading -/

/-- A download is under way: the partial file holds a part of the content, or is not there. -/
structure Loaded (p : Pinned) (s s' : Staging) : Prop where
  parent : s'.parent = s.parent
  directory : s'.directory = s.directory
  frame : Frame (· = .part) s s'
  part : s'.files.get .part = none ∨ ∃ k, k ≤ p.content.length ∧
    s'.files.get .part = some (.regular (p.content.take k) 0o600)

variable {s₀ : Staging} {k : Nat}

theorem Loaded.put_part (h : Loaded p s₀ s) (hk : k ≤ p.content.length) :
    Loaded p s₀ (s.put .part (.regular (p.content.take k) 0o600)) where
  parent := h.parent
  directory := h.directory
  frame name hname := (Table.get_put_ne _ _ hname).trans (h.frame name hname)
  part := .inr ⟨k, hk, get_put_same⟩

theorem take_append_part (content : List Byte) (k n j : Nat) :
    content.take k ++ ((content.drop k).take n).take j = content.take (k + min j n) := by
  rw [List.take_take, take_append_slice]

theorem write_part (hk : k ≤ p.content.length)
    (hpart : s.files.get .part = some (.regular (p.content.take k) 0o600)) (source : List Byte) :
    s.write .part k source = s.put .part (.regular (p.content.take k ++ source) 0o600) := by
  have hlength : (p.content.take k).length = k := by
    rw [List.length_take]
    omega
  have hend : s.write .part (p.content.take k).length source =
      s.put .part (.regular (p.content.take k ++ source) 0o600) := write_end hpart
  rwa [hlength] at hend

/-- **A chunk, however much of it is written.** -/
theorem safe_append {n : Nat} (hs : Loaded p s₀ s) (hk : k ≤ p.content.length)
    (hn : k + n ≤ p.content.length) (hpart : (s.files.get .part = none ∧ k = 0) ∨
      s.files.get .part = some (.regular (p.content.take k) 0o600)) :
    SafeFor Serves (Loaded p s₀)
      (fun _ s' => s'.files.get .part = some (.regular (p.content.take (k + n)) 0o600))
      (appendMaterialization .part k ((p.content.drop k).take n)) s := by
  unfold appendMaterialization
  refine safe_op hs (fun server _ => ?_) fun s' htorn => ?_
  · -- the file as it was opened
    obtain ⟨s₁, size, hopen, hs₁, hpart₁⟩ : ∃ s₁ size,
        exec server (.openCreate .part) s = (.regular size 0o600, s₁) ∧ Loaded p s₀ s₁ ∧
        s₁.files.get .part = some (.regular (p.content.take k) 0o600) := by
      rcases hpart with ⟨hnone, rfl⟩ | hsome
      · have hput : Loaded p s₀ (s.put .part (.regular (p.content.take 0) 0o600)) :=
          hs.put_part (Nat.zero_le _)
        exact ⟨_, 0, by simp only [exec, hnone, List.take_zero], hput, get_put_same⟩
      · have hwritable : writable 0o600 = true := by decide
        exact ⟨s, (p.content.take k).length, by simp only [exec, hsome, hwritable, if_true], hs,
          hsome⟩
    rw [hopen]
    dsimp only
    refine safe_require hs₁ fun _ => safe_op hs₁ (fun server _ => ?_) fun s' htorn => ?_
    · have hwrite : exec server (.writeAt .part k ((p.content.drop k).take n)) s₁ =
          (true, s₁.put .part (.regular (p.content.take (k + n)) 0o600)) := by
        simp only [exec, write_part hk hpart₁, take_append_slice]
      rw [hwrite]
      have hs₂ : Loaded p s₀ (s₁.put .part (.regular (p.content.take (k + n)) 0o600)) :=
        hs₁.put_part hn
      refine safe_require hs₂ fun _ => safe_op hs₂ (fun _ _ => ?_) fun s' htorn => ?_
      · exact safe_require_last hs₂ fun _ => get_put_same
      · obtain rfl := Or.resolve_right htorn id
        exact safe_require_last hs₂ fun h => absurd h Bool.false_ne_true
    · have hs' : Loaded p s₀ s' := by
        rcases htorn with rfl | ⟨j, rfl⟩
        · exact hs₁
        · rw [write_part hk hpart₁, take_append_part]
          exact hs₁.put_part (by omega)
      exact safe_require hs' fun h => absurd h Bool.false_ne_true
  · obtain rfl := Or.resolve_right htorn id
    exact safe_error hs

/-- **At every moment of a download** the partial file holds a part of the content, and at its end
all of it. The induction is on the fuel. -/
theorem safe_downloadFrom (fuel : Nat) (hs : Loaded p s₀ s) (hk : k ≤ p.content.length)
    (hfuel : p.content.length - k ≤ fuel) (hpart : (s.files.get .part = none ∧ k = 0) ∨
      s.files.get .part = some (.regular (p.content.take k) 0o600)) :
    SafeFor p.Honest (Loaded p s₀)
      (fun _ s' => s'.files.get .part = some (.regular p.content 0o600))
      (downloadFrom p.target fuel k) s := by
  have hpositive : 0 < p.content.length := by
    rw [p.sized]
    exact p.positive
  have hwhole : k = p.content.length → s.files.get .part = some (.regular p.content 0o600) := by
    intro hend
    rcases hpart with ⟨-, hzero⟩ | hsome
    · omega
    · rw [hsome, hend, List.take_length]
  induction fuel generalizing s k with
  | zero => exact safe_return hs (hwhole (by omega))
  | succ fuel ih =>
    by_cases hless : k < p.content.length
    · have hsize : k < p.target.content.sizeBytes := by
        rw [← p.sized]
        exact hless
      obtain ⟨last, hfirst, hlast, hround⟩ := downloadFrom_succ p.target fuel hsize
      rw [← p.sized] at hlast
      rw [hround]
      -- an honest server answers with this part of the content
      have hchunk : SafeFor p.Honest (Loaded p s₀) (fun chunk s' => s' = s ∧
          chunk = (p.content.drop k).take (last - k + 1)) (downloadChunk p.target k last) s := by
        unfold downloadChunk
        refine safe_op hs (fun server hserver => ?_) fun s' htorn => ?_
        · have hexec : exec server (.download k last) s = (server k last, s) := rfl
          rw [hexec]
          dsimp only
          cases hchunk : chunkOf p.target k last (server k last) with
          | error e => exact safe_error hs
          | ok chunk => exact safe_return hs ⟨rfl, hserver k last chunk hchunk⟩
        · obtain rfl := torn_same htorn nofun
          exact safe_error hs
      refine safe_then hchunk fun chunk s' hs' h => ?_
      obtain ⟨rfl, rfl⟩ := h
      have hlength : ((p.content.drop k).take (last - k + 1)).length = last - k + 1 := by
        rw [List.length_take, List.length_drop]
        omega
      refine safe_then (safe_append hs' hk (by omega) hpart) fun _ s₁ hs₁ hpart₁ => ?_
      rw [hlength]
      refine ih hs₁ (by omega) (by omega) (.inr hpart₁) fun hend => ?_
      rw [hpart₁, hend, List.take_length]
    · unfold downloadFrom
      rw [← p.sized, if_neg hless]
      exact safe_return hs (hwhole (by omega))

/-! ## One attempt -/

theorem staged_same (h : p.Staged s) (hsame : Same s s') : p.Staged s' where
  parent := hsame.parent.trans h.parent
  directory := hsame.directory h.directory
  files := by
    have hfiles := h.files
    unfold Pinned.Loading Pinned.Sealed Pinned.Installed Pinned.Receipted at hfiles ⊢
    rw [hsame.files]
    exact hfiles

theorem staged_writing (h : p.Staged s)
    (hfinal : s.files.get .final = some (.regular p.content 0o400))
    (hreceipt : s.files.get .receipt = none) (hwriting : Writing p.codecs p.expected s s') :
    p.Staged s' where
  parent := hwriting.parent.trans h.parent
  directory := by
    rw [hwriting.directory]
    exact h.directory
  files := by
    have hfinal' : s'.files.get .final = some (.regular p.content 0o400) :=
      (hwriting.frame .final (by rintro (h | ⟨n, h⟩) <;> cases h)).trans hfinal
    rcases hwriting.receipt with hkept | hwritten
    · exact .inr (.inr (.inl ⟨hfinal', hkept.trans hreceipt⟩))
    · exact .inr (.inr (.inr ⟨hfinal', hwritten⟩))

theorem staged_loaded (h : p.Staged s) (hfinal : s.files.get .final = none)
    (hreceipt : s.files.get .receipt = none) (hloaded : Loaded p s s') : p.Staged s' where
  parent := hloaded.parent.trans h.parent
  directory := by
    rw [hloaded.directory]
    exact h.directory
  files := .inl ⟨(hloaded.frame .final nofun).trans hfinal,
    (hloaded.frame .receipt nofun).trans hreceipt, hloaded.part⟩

theorem staged_adoptFinal (h : p.Staged s) (hinstalled : p.Installed s) :
    SafeFor Serves p.Staged (fun _ _ => True) (adoptFinal p.codecs p.expected) s := by
  obtain ⟨hfinal, hreceipt⟩ := hinstalled
  have hwrite : ∀ s' changed, p.Staged s' →
      s'.files.get .final = some (.regular p.content 0o400) → s'.files.get .receipt = none →
      SafeFor Serves p.Staged (fun _ _ => True)
        ((require changed "protect_staged_content").bind fun _ =>
          (writeReceipt p.codecs p.expected).bind fun _ =>
            .ret (contractReceipt p.expected .reused)) s' := by
    intro s' changed hs' hfinal' hreceipt'
    refine safe_require hs' fun _ => ?_
    refine safe_then (safe_writeReceipt fun s'' hw => staged_writing hs' hfinal' hreceipt' hw)
      fun _ s₂ hs₂ _ => ?_
    exact safe_return hs₂ trivial
  unfold adoptFinal
  refine safe_then (safe_verifyFile (fun s' hsame => staged_same h hsame) p.codecs .final _ _)
    fun _ s₁ hs₁ hverified => ?_
  obtain ⟨rfl, -⟩ := hverified
  refine safe_op hs₁ (fun server _ => ?_) fun s' htorn => ?_
  · have hexec : exec server (.chmod .final 0o400) s₁ =
        (true, s₁.put .final (.regular p.content 0o400)) := by
      simp only [exec, hfinal]
    rw [hexec]
    have hne : StagedName.receipt ≠ .final := by decide
    have hreceipt' : (s₁.put .final (.regular p.content 0o400)).files.get .receipt = none :=
      (Table.get_put_ne _ _ hne).trans hreceipt
    exact hwrite _ _ ⟨hs₁.parent, hs₁.directory, .inr (.inr (.inl ⟨get_put_same, hreceipt'⟩))⟩
      get_put_same hreceipt'
  · obtain rfl := Or.resolve_right htorn id
    exact hwrite _ _ hs₁ hfinal hreceipt

/-- Operations that change nothing. -/
def Looks : StagingOp → Prop
  | .lstat _ | .openRead _ => True
  | _ => False

theorem looks_acts {o : StagingOp} {r : o.Resp} (h : Looks o) (hact : Acts Serves o r s s') :
    s' = s := by
  rcases hact with ⟨server, -, hexec⟩ | ⟨-, rfl | htorn⟩
  · cases o with
    | lstat name =>
      cases hexec
      rfl
    | openRead name =>
      cases hexec
      rfl
    | _ => exact h.elim
  · rfl
  · cases o with
    | writeAt name offset source => exact h.elim
    | _ => exact htorn.elim

theorem unchanged_verifyFile (codecs : Codecs) (name : StagedName) (sha256 : String) (size : Nat) :
    Safe (Acts Serves) (· = s) (fun _ s' => s' = s) (verifyFile codecs name sha256 size) s := by
  have hlooks : Only Looks (verifyFile codecs name sha256 size) := by
    refine only_op trivial fun opened => ?_
    cases opened with
    | bytes data => exact only_checked _ _ (only_require _ _)
    | _ => trivial
  exact safe_only hlooks (fun o r s₁ s₂ ho hact hs => (looks_acts ho hact).trans hs) rfl

theorem staged_installPart (h : p.Staged s) (hfinal : s.files.get .final = none)
    (hreceipt : s.files.get .receipt = none)
    (hpart : s.files.get .part = some (.regular p.content 0o600)) :
    SafeFor Serves p.Staged (fun _ _ => True) (installPart p.codecs p.target p.expected) s := by
  unfold installPart
  -- reading the part to verify it changes nothing
  have hverify : SafeFor Serves p.Staged (fun _ s' => s' = s)
      (verifyFile p.codecs .part p.target.content.sha256 p.target.content.sizeBytes).attempt s := by
    have hunchanged : Safe (Acts Serves) (· = s) (fun _ s' => s' = s)
        (verifyFile p.codecs .part p.target.content.sha256 p.target.content.sizeBytes) s :=
      unchanged_verifyFile p.codecs .part _ _
    have hattempt : SafeFor Serves (· = s) (fun _ s' => s' = s)
        (verifyFile p.codecs .part p.target.content.sha256 p.target.content.sizeBytes).attempt s :=
      safe_attempt hunchanged fun r s' _ hs' => returns_ok hs'
    exact hattempt.weaken fun s' hs' => by
      rw [hs']
      exact h
  refine safe_then hverify fun verified s₁ hs₁ hsame => ?_
  subst hsame
  -- the final file and its receipt, from the moment of the rename
  have hrest : ∀ s' renamed, p.Staged s' → (renamed = true → p.Installed s') →
      SafeFor Serves p.Staged (fun _ _ => True)
        ((require renamed "install_staged_content").bind fun _ =>
          syncDirectory.bind fun _ =>
          (writeReceipt p.codecs p.expected).bind fun _ =>
          .ret (contractReceipt p.expected .verified)) s' := by
    intro s' renamed hs' hinstalled
    refine safe_require hs' fun hrenamed => ?_
    obtain ⟨hfinal', hreceipt'⟩ := hinstalled hrenamed
    have hsync : SafeFor Serves p.Staged (fun _ s'' => s'' = s') syncDirectory s' := by
      refine safe_op hs' (fun _ _ => safe_require_last hs' fun _ => rfl) fun s'' htorn => ?_
      obtain rfl := Or.resolve_right htorn id
      exact safe_require_last hs' fun _ => rfl
    refine safe_then hsync fun _ s'' hs'' hsame => ?_
    subst hsame
    refine safe_then (safe_writeReceipt fun s₃ hw => staged_writing hs'' hfinal' hreceipt' hw)
      fun _ s₃ hs₃ _ => ?_
    exact safe_return hs₃ trivial
  have hfinalNe : StagedName.final ≠ .part := by decide
  have hreceiptNe : StagedName.receipt ≠ .part := by decide
  cases verified with
  -- a part that is not the pinned content is dropped
  | error e =>
    refine safe_op hs₁ (fun server _ => ?_) fun s' htorn => ?_
    · refine safe_error ⟨h.parent, h.directory, .inl ⟨?_, ?_, .inl (Table.get_remove_self _ _)⟩⟩
      · exact (Table.get_remove_ne _ hfinalNe).trans hfinal
      · exact (Table.get_remove_ne _ hreceiptNe).trans hreceipt
    · obtain rfl := Or.resolve_right htorn id
      exact safe_error hs₁
  | ok u =>
    refine safe_op hs₁ (fun server _ => ?_) fun s' htorn => ?_
    · -- the part is protected, and then renamed
      let s₂ := s₁.put .part (.regular p.content 0o400)
      have hchmod : exec server (.chmod .part 0o400) s₁ = (true, s₂) := by
        simp only [exec, hpart, s₂]
      rw [hchmod]
      have hfinal₂ : s₂.files.get .final = none := (Table.get_put_ne _ _ hfinalNe).trans hfinal
      have hreceipt₂ : s₂.files.get .receipt = none :=
        (Table.get_put_ne _ _ hreceiptNe).trans hreceipt
      have hpart₂ : s₂.files.get .part = some (.regular p.content 0o400) := get_put_same
      have hs₂ : p.Staged s₂ :=
        ⟨h.parent, h.directory, .inr (.inl ⟨hfinal₂, hreceipt₂, hpart₂⟩)⟩
      refine safe_require hs₂ fun _ => safe_op hs₂ (fun server _ => ?_) fun s' htorn => ?_
      · let s₃ : Staging := { s₂ with
          files := (s₂.files.remove .part).put .final (.regular p.content 0o400) }
        have hrename : exec server (.rename .part .final) s₂ = (true, s₃) := by
          simp only [exec, hpart₂, s₃]
        rw [hrename]
        have hne : StagedName.receipt ≠ .final := by decide
        have hinstalled : p.Installed s₃ := ⟨Table.get_put_self _ _ _,
          ((Table.get_put_ne _ _ hne).trans (Table.get_remove_ne _ hreceiptNe)).trans hreceipt₂⟩
        exact hrest _ _ ⟨h.parent, h.directory, .inr (.inr (.inl hinstalled))⟩ fun _ => hinstalled
      · obtain rfl := Or.resolve_right htorn id
        -- the crash left the rename undone
        exact hrest _ _ hs₂ fun h => absurd h Bool.false_ne_true
    · obtain rfl := Or.resolve_right htorn id
      exact safe_require hs₁ fun h => absurd h Bool.false_ne_true

/-- **At every moment of an attempt** the directory is as an attempt may leave it. -/
theorem staged_materialize (h : p.Staged s) :
    SafeFor p.Honest p.Staged (fun _ _ => True) p.materialize s := by
  unfold Pinned.materialize materializeOne
  dsimp only
  refine safe_then (safe_ensureChildDirectory fun s' hsame => staged_same h hsame)
    fun _ s₁ hs₁ _ => ?_
  refine safe_then (safe_reusableMaterialization (fun s' hsame => staged_same hs₁ hsame) _ _)
    fun reusable s₂ hs₂ hreusable => ?_
  obtain ⟨rfl, hnone⟩ := hreusable
  cases reusable with
  | some receipt => exact safe_return hs₂ trivial
  | none =>
    have hreceipt := hnone rfl
    refine safe_then (safe_regularFileExists (fun s' hsame => staged_same hs₂ hsame) .final)
      fun there s₃ hs₃ hthere => ?_
    obtain ⟨rfl, ⟨rfl, data, mode, hfinal⟩ | ⟨rfl, hfinal⟩⟩ := hthere
    · rw [if_pos rfl]
      refine staged_adoptFinal hs₃ ?_
      rcases hs₃.files with h' | h' | h' | h'
      · rw [h'.1] at hfinal
        cases hfinal
      · rw [h'.1] at hfinal
        cases hfinal
      · exact h'
      · rw [h'.2] at hreceipt
        cases hreceipt
    · rw [if_neg (by decide)]
      refine safe_then (safe_partialOffset (fun s' hsame => staged_same hs₃ hsame) .part _)
        fun offset s₄ hs₄ hoffset => ?_
      obtain ⟨rfl, hoffset⟩ := hoffset
      -- only a download that can be taken up has an offset
      obtain ⟨k, hk, hpart, rfl⟩ : ∃ k, k ≤ p.content.length ∧
          ((s₄.files.get .part = none ∧ k = 0) ∨
            s₄.files.get .part = some (.regular (p.content.take k) 0o600)) ∧ offset = k := by
        rcases hs₄.files with h' | h' | h' | h'
        · rcases hoffset with ⟨hnone, rfl⟩ | ⟨data, hdata, rfl, -⟩
          · exact ⟨0, Nat.zero_le _, .inl ⟨hnone, rfl⟩, rfl⟩
          · rcases h'.2.2 with hnone | ⟨k, hk, hsome⟩
            · rw [hnone] at hdata
              cases hdata
            · rw [hsome] at hdata
              cases hdata
              exact ⟨k, hk, .inr hsome, by rw [List.length_take]; omega⟩
        · rw [h'.2.2] at hoffset
          rcases hoffset with ⟨hnone, -⟩ | ⟨data, hdata, -⟩
          · cases hnone
          · cases hdata
        · rw [h'.1] at hfinal
          cases hfinal
        · rw [h'.1] at hfinal
          cases hfinal
      have hloaded : Loaded p s₄ s₄ := ⟨rfl, rfl, fun _ _ => rfl, by
        rcases hpart with ⟨hnone, -⟩ | hsome
        · exact .inl hnone
        · exact .inr ⟨offset, hk, hsome⟩⟩
      have hload := safe_downloadFrom (p.content.length - offset) hloaded hk le_rfl hpart
      rw [← p.sized]
      -- at the end of the loop the partial file is whole, and nothing else has changed
      have hload' : SafeFor p.Honest p.Staged (fun _ s' => Loaded p s₄ s' ∧
          s'.files.get .part = some (.regular p.content 0o600))
          (downloadFrom p.target (p.content.length - offset) offset) s₄ := by
        refine Safe.weaken (safe_weaken hload fun _ s' hs' hwhole => ⟨hs', hwhole⟩) fun s' hs' => ?_
        exact staged_loaded hs₄ hfinal hreceipt hs'
      refine safe_then hload' fun _ s₅ hs₅ hwhole => ?_
      obtain ⟨hloaded₅, hpart₅⟩ := hwhole
      exact staged_installPart hs₅ ((hloaded₅.frame .final nofun).trans hfinal)
        ((hloaded₅.frame .receipt nofun).trans hreceipt) hpart₅

/-! ## The law -/

/-- The directory before the first attempt. -/
structure Fresh (s : Staging) : Prop where
  parent : s.parent = true
  directory : s.directory ≠ .special
  final : s.files.get .final = none
  part : s.files.get .part = none
  receipt : s.files.get .receipt = none

theorem Fresh.loading (h : Fresh s) : p.Loading s := ⟨h.final, h.receipt, .inl h.part⟩

/-- **Attempts**, each of which fails, returns, or is stopped anywhere. -/
def attempts (p : Pinned) : System Staging (StagingProc VerifiedReceipt) where
  init := Fresh
  step rest s s' := Reaches (Acts p.Honest) p.materialize s rest s'

theorem staged_reachable (h : (attempts p).Reachable s) : p.Staged s := by
  refine System.invariant p.Staged ?_ ?_ h
  · exact fun s hs => ⟨hs.parent, hs.directory, .inl hs.loading⟩
  · intro rest s s' hstep hs
    exact (staged_materialize hs).at_moment hstep

/-- **Materializing over crashes.** -/
structure RecoveryLaw (p : Pinned) : Prop where
  /-- At no moment does the final name come to hold a file of another size or digest, whatever the
  Server sends, whatever fails, and whatever was in the directory. -/
  final_sound : ∀ Serves s rest s', Reaches (Acts Serves) p.materialize s rest s' →
    FinalSound p.codecs p.target s s'
  /-- At every moment of every attempt the final name holds nothing or the pinned content. -/
  final_pinned : ∀ s, (attempts p).Reachable s → s.files.get .final = none ∨
    s.files.get .final = some (.regular p.content 0o400)
  /-- An attempt that nothing stops returns the receipt of the Artifact, as verified. -/
  uninterrupted : ∀ s, Fresh s → ∃ s',
    p.materialize.run p.handler s = (.ok (contractReceipt p.expected .verified), s') ∧
      p.Receipted s'
  /-- After any number of attempts that were stopped anywhere, unless the finished partial file was
  left read-only under its partial name, a retry that nothing stops completes: the final name holds
  the pinned content, and the receipt is the same but for its state, which is `reused` when the
  final name was there. -/
  completes : ∀ s, (attempts p).Reachable s → ¬ p.Sealed s → ∃ s',
    p.materialize.run p.handler s = (.ok (contractReceipt p.expected
      (if (s.files.get .final).isSome then .reused else .verified)), s') ∧ p.Receipted s'

theorem recovery_law (p : Pinned) : RecoveryLaw p where
  final_sound := fun Serves s rest s' hreaches => sound_materializeOne.at_moment hreaches
  final_pinned := by
    intro s h
    rcases (staged_reachable h).files with h' | h' | h' | h'
    · exact .inl h'.1
    · exact .inl h'.1
    · exact .inr h'.1
    · exact .inr h'.1
  uninterrupted := fun s h => retry_loading h.parent h.directory h.loading
  completes := by
    intro s h hsealed
    have hs := staged_reachable h
    rcases hs.files with h' | h' | h' | h'
    · rw [h'.1]
      exact retry_loading hs.parent hs.directory h'
    · exact absurd h' hsealed
    · rw [h'.1]
      exact retry_installed hs.parent hs.directory h'
    · rw [h'.1]
      exact ⟨_, retry_receipted hs.parent hs.directory h', h'⟩

/-! ## A crash after the rename -/

/-- A patch of the two bytes `hi`, with their SHA-256. -/
def sampleTarget : MaterializationTarget where
  artifactId := "artifact_00000001"
  content := {
    contentId := "content_00000001"
    logicalAlias := "artifact://artifact_00000001/a.patch"
    mediaType := "text/x-diff"
    sha256 := "8f434346648f6b96df89dda901c5176b10a6d83961dd3c1ac88b59b2dc327aa4"
    sizeBytes := 2 }

/-- What `json.MarshalIndent` writes of the receipt, with the line feed after it. -/
def sampleReceiptText : String :=
  "\x7b\n  \"artifactId\": \"artifact_00000001\",\n" ++
  "  \"contentId\": \"content_00000001\",\n" ++
  "  \"logicalAlias\": \"artifact://artifact_00000001/a.patch\",\n" ++
  "  \"mediaType\": \"text/x-diff\",\n" ++
  "  \"sha256\": \"8f434346648f6b96df89dda901c5176b10a6d83961dd3c1ac88b59b2dc327aa4\",\n" ++
  "  \"sizeBytes\": 2\n\x7d\n"

def samplePinned : Pinned where
  codecs := {
    sha256 := fun data => if data = [104, 105] then sampleTarget.content.sha256 else ""
    encode := fun _ => sampleReceiptText.toUTF8.toList
    decode := fun source =>
      if source = sampleReceiptText.toUTF8.toList then some (receiptFile sampleTarget) else none }
  target := sampleTarget
  content := [104, 105]
  sized := rfl
  digest := rfl
  positive := by decide
  media := by decide
  decode_encode := if_pos rfl

def sampleStaging : Staging := ⟨true, .absent, .empty, 0⟩

/-- The directory once the partial file has got the final name. -/
def sampleRenamed : Staging :=
  (after samplePinned.handler 14 samplePinned.materialize sampleStaging).2

theorem honest_serve (p : Pinned) : p.Honest p.serve := by
  intro start last chunk h
  unfold chunkOf Pinned.serve at h
  dsimp only at h
  split at h
  · cases h
  · split at h
    · cases h
    · split at h
      · cases h
        rfl
      · cases h

/-- A retry after a crash that followed the rename returns another receipt than a run that nothing
interrupted. -/
theorem renamed_reused :
    ¬ ∀ (p : Pinned) (s s' : Staging), Fresh s →
      (∃ rest, Reaches (Acts p.Honest) p.materialize s rest s') →
      (p.materialize.run p.handler s').1 = (p.materialize.run p.handler s).1 := by
  intro hclaim
  have hfresh : Fresh sampleStaging := ⟨rfl, nofun, rfl, rfl, rfl⟩
  have hreaches : Reaches (Acts samplePinned.Honest) samplePinned.materialize sampleStaging
      (after samplePinned.handler 14 samplePinned.materialize sampleStaging).1 sampleRenamed :=
    reaches_after (fun o s => .inl ⟨samplePinned.serve, honest_serve samplePinned, rfl⟩) 14 _
  have hsame := hclaim samplePinned sampleStaging sampleRenamed hfresh ⟨_, hreaches⟩
  have hstates : ((samplePinned.materialize.run samplePinned.handler sampleRenamed).1.toOption.map
        (·.materializationState)) = some .reused ∧
      ((samplePinned.materialize.run samplePinned.handler sampleStaging).1.toOption.map
        (·.materializationState)) = some .verified := by
    decide +kernel
  rw [hsame] at hstates
  rw [hstates.2] at hstates
  exact absurd hstates.1 (by decide)

end AgentRoom.Materialize
