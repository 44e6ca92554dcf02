import AgentRoom.Materialize.Retry

/-!
# The moments of an attempt

What holds of the directory between any two operations of an attempt, when operations may fail or
be stopped half way. Each part of the program is given the invariant it keeps, as a condition on
the directories it may leave, and what its result says of the files.
-/

namespace AgentRoom.Materialize

open Proc Staging

variable {Serves : (Nat → Nat → Option DownloadResponse) → Prop} {Inv : Staging → Prop}
  {s s' : Staging} {α β : Type}

/-- What holds where the program returns; where it fails, nothing is said. -/
def Returns (P : α → Staging → Prop) (r : Except MaterializationError α) (s : Staging) : Prop :=
  ∀ a, r = .ok a → P a s

theorem returns_ok {P : α → Staging → Prop} {a : α} (h : P a s) : Returns P (.ok a) s := by
  rintro _ ⟨⟩
  exact h

theorem returns_error {P : α → Staging → Prop} {e : MaterializationError} :
    Returns P (.error e) s := nofun

/-- The program is safe, with `P` where it returns. -/
abbrev SafeFor (Serves : (Nat → Nat → Option DownloadResponse) → Prop) (Inv : Staging → Prop)
    (P : α → Staging → Prop) (x : StagingProc α) (s : Staging) : Prop :=
  Safe (Acts Serves) Inv (Returns P) x s

/-! ## Rules -/

section Rules

variable {P : α → Staging → Prop}

theorem safe_return {a : α} (hs : Inv s) (h : P a s) : SafeFor Serves Inv P (.ret a) s :=
  safe_ret hs (returns_ok h)

theorem safe_error {e : MaterializationError} (hs : Inv s) : SafeFor Serves Inv P (.fail e) s :=
  safe_fail hs returns_error

theorem safe_then {x : StagingProc β} {f : β → StagingProc α} {R : β → Staging → Prop}
    (hx : SafeFor Serves Inv R x s)
    (hf : ∀ b s', Inv s' → R b s' → SafeFor Serves Inv P (f b) s') :
    SafeFor Serves Inv P (x.bind f) s :=
  safe_bind hx (fun b s' hs' hr => hf b s' hs' (hr b rfl)) fun _ _ _ _ => returns_error

theorem safe_weaken {x : StagingProc α} {R : α → Staging → Prop} (hx : SafeFor Serves Inv R x s)
    (h : ∀ a s', Inv s' → R a s' → P a s') : SafeFor Serves Inv P x s :=
  hx.mono fun _ s' hs' hr a ha => h a s' hs' (hr a ha)

/-- **An operation works or fails.** -/
theorem safe_op {o : StagingOp} {f : o.Resp → StagingProc α} (hs : Inv s)
    (hworks : ∀ server, Serves server →
      SafeFor Serves Inv P (f (exec server o s).1) (exec server o s).2)
    (hfails : ∀ s', Torn o s s' → SafeFor Serves Inv P (f (failure o)) s') :
    SafeFor Serves Inv P ((op o).bind f) s := by
  refine safe_call (I := stagingOps) hs fun r s' hact => ?_
  rcases hact with ⟨server, hserver, hexec⟩ | ⟨hr, htorn⟩
  · have := hworks server hserver
    rw [hexec] at this
    exact this
  · rw [hr]
    exact hfails s' htorn

theorem safe_require {c : Bool} {code : String} {f : Unit → StagingProc α} (hs : Inv s)
    (h : c = true → SafeFor Serves Inv P (f ()) s) :
    SafeFor Serves Inv P ((require c code).bind f) s := by
  unfold require
  split
  · next hc => exact h hc
  · exact safe_error hs

theorem safe_require_last {c : Bool} {code : String} {P : Unit → Staging → Prop} (hs : Inv s)
    (h : c = true → P () s) : SafeFor Serves Inv P (require c code) s := by
  unfold require
  split
  · next hc => exact safe_return hs (h hc)
  · exact safe_error hs

theorem torn_same {o : StagingOp} (h : Torn o s s')
    (hnone : ∀ name offset source, o ≠ .writeAt name offset source) : s' = s := by
  rcases h with h | h
  · exact h
  · cases o with
    | writeAt name offset source => exact absurd rfl (hnone name offset source)
    | _ => cases h

end Rules

/-! ## Looking -/

/-- The files are the same, and the directories are no less. -/
structure Same (s s' : Staging) : Prop where
  parent : s'.parent = s.parent
  directory : s.directory ≠ .special → s'.directory ≠ .special
  files : s'.files = s.files

theorem Same.refl (s : Staging) : Same s s := ⟨rfl, id, rfl⟩

theorem Same.trans {a b c : Staging} (h : Same a b) (h' : Same b c) : Same a c :=
  ⟨h'.parent.trans h.parent, fun hd => h'.directory (h.directory hd), h'.files.trans h.files⟩

theorem safe_look {P : α → Staging → Prop} {o : StagingOp} {f : o.Resp → StagingProc α}
    (hinv : ∀ s', Same s s' → Inv s') (hsame : ∀ server, Same s (exec server o s).2)
    (hnone : ∀ name offset source, o ≠ .writeAt name offset source)
    (hf : ∀ r s', Same s s' → ((∃ server, Serves server ∧ exec server o s = (r, s')) ∨
      (r = failure o ∧ s' = s)) → SafeFor Serves Inv P (f r) s') :
    SafeFor Serves Inv P ((op o).bind f) s := by
  refine safe_op (hinv s (.refl s)) (fun server hserver => ?_) fun s' htorn => ?_
  · exact hf _ _ (hsame server) (.inl ⟨server, hserver, rfl⟩)
  · obtain rfl := torn_same htorn hnone
    exact hf _ _ (.refl _) (.inr ⟨rfl, rfl⟩)

theorem same_mkdir (server : Nat → Nat → Option DownloadResponse) :
    Same s (exec server .mkdir s).2 := by
  unfold exec
  dsimp only
  split
  · exact ⟨rfl, nofun, rfl⟩
  · exact .refl s

theorem same_chmodDirectory (server : Nat → Nat → Option DownloadResponse) :
    Same s (exec server .chmodDirectory s).2 := by
  unfold exec
  dsimp only
  split
  · exact ⟨rfl, nofun, rfl⟩
  · exact .refl s

section Looking

variable (hinv : ∀ s', Same s s' → Inv s')

include hinv

theorem safe_ensureChildDirectory :
    SafeFor Serves Inv (fun _ s' => Same s s') ensureChildDirectory s := by
  unfold ensureChildDirectory
  refine safe_look hinv (fun _ => .refl s) nofun fun _ s₁ h₁ _ => ?_
  have hinv₁ : ∀ s', Same s₁ s' → Inv s' := fun s' h => hinv s' (h₁.trans h)
  refine safe_require (hinv s₁ h₁) fun _ => ?_
  refine safe_look hinv₁ (fun server => same_mkdir server) nofun fun _ s₂ h₂ _ => ?_
  have hinv₂ : ∀ s', Same s₂ s' → Inv s' := fun s' h => hinv₁ s' (h₂.trans h)
  refine safe_require (hinv₁ s₂ h₂) fun _ => ?_
  refine safe_look hinv₂ (fun _ => .refl s₂) nofun fun _ s₃ h₃ _ => ?_
  have hinv₃ : ∀ s', Same s₃ s' → Inv s' := fun s' h => hinv₂ s' (h₃.trans h)
  refine safe_require (hinv₂ s₃ h₃) fun _ => ?_
  refine safe_look hinv₃ (fun server => same_chmodDirectory server) nofun fun _ s₄ h₄ _ => ?_
  exact safe_require_last (hinv₃ s₄ h₄) fun _ => ((h₁.trans h₂).trans h₃).trans h₄

theorem safe_lstat {P : α → Staging → Prop} {name : StagedName} {f : Stat → StagingProc α}
    (hf : ∀ stat, stat = s.stat name ∨ stat = .failed → SafeFor Serves Inv P (f stat) s) :
    SafeFor Serves Inv P ((op (.lstat name)).bind f) s := by
  refine safe_look hinv (fun _ => .refl s) nofun fun r s' _ hr => ?_
  rcases hr with ⟨server, -, hexec⟩ | ⟨rfl, rfl⟩
  · cases hexec
    exact hf _ (.inl rfl)
  · exact hf _ (.inr rfl)

theorem safe_regularFileExists (name : StagedName) :
    SafeFor Serves Inv (fun there s' => s' = s ∧
      ((there = true ∧ ∃ data mode, s.files.get name = some (.regular data mode)) ∨
        (there = false ∧ s.files.get name = none))) (regularFileExists name) s := by
  unfold regularFileExists
  refine safe_lstat hinv fun stat hstat => ?_
  have hs := hinv s (.refl s)
  rcases hstat with rfl | rfl
  · unfold Staging.stat
    rcases hnode : s.files.get name with _ | ⟨data, mode⟩ | _
    · exact safe_return hs ⟨rfl, .inr ⟨rfl, rfl⟩⟩
    · exact safe_return hs ⟨rfl, .inl ⟨rfl, data, mode, rfl⟩⟩
    · exact safe_error hs
  · exact safe_error hs

theorem safe_partialOffset (name : StagedName) (maximum : Nat) :
    SafeFor Serves Inv (fun offset s' => s' = s ∧
      ((s.files.get name = none ∧ offset = 0) ∨
        ∃ data, s.files.get name = some (.regular data 0o600) ∧ offset = data.length ∧
          data.length ≤ maximum)) (partialOffset name maximum) s := by
  unfold partialOffset
  refine safe_then (safe_regularFileExists hinv name) fun there s' hs hthere => ?_
  obtain ⟨rfl, ⟨rfl, data, mode, hnode⟩ | ⟨rfl, hnone⟩⟩ := hthere
  · rw [if_pos rfl]
    refine safe_lstat hinv fun stat hstat => ?_
    rcases hstat with rfl | rfl
    · rw [stat_regular hnode]
      dsimp only
      split
      · next hok => exact safe_return hs ⟨rfl, .inr ⟨data, by rw [hnode, hok.2], rfl, hok.1⟩⟩
      · exact safe_error hs
    · exact safe_error hs
  · rw [if_neg (by decide)]
    exact safe_return hs ⟨rfl, .inl ⟨hnone, rfl⟩⟩

/-- Reading a file gives its data, or fails. -/
theorem safe_openRead {P : α → Staging → Prop} {name : StagedName} {f : Opened → StagingProc α}
    (hf : ∀ opened, (∀ data, opened = .bytes data →
      ∃ mode, s.files.get name = some (.regular data mode)) → SafeFor Serves Inv P (f opened) s) :
    SafeFor Serves Inv P ((op (.openRead name)).bind f) s := by
  refine safe_look hinv (fun _ => .refl s) nofun fun r s' _ hr => ?_
  rcases hr with ⟨server, -, hexec⟩ | ⟨rfl, rfl⟩
  · cases hexec
    refine hf _ fun data hdata => ?_
    rcases hnode : s.files.get name with _ | ⟨data', mode⟩ | _
    · rw [hnode] at hdata
      cases hdata
    · rw [hnode] at hdata
      cases hdata
      exact ⟨mode, rfl⟩
    · rw [hnode] at hdata
      cases hdata
  · exact hf _ nofun

theorem safe_verifyFile (codecs : Codecs) (name : StagedName) (sha256 : String) (size : Nat) :
    SafeFor Serves Inv (fun _ s' => s' = s ∧ ∃ data mode,
      s.files.get name = some (.regular data mode) ∧ data.length = size ∧
        codecs.sha256 data = sha256) (verifyFile codecs name sha256 size) s := by
  unfold verifyFile
  refine safe_openRead hinv fun opened hopened => ?_
  have hs := hinv s (.refl s)
  cases opened with
  | failed => exact safe_error hs
  | special => exact safe_error hs
  | bytes data =>
    obtain ⟨mode, hnode⟩ := hopened data rfl
    refine safe_require hs fun hsize => safe_require_last hs fun hdigest => ?_
    exact ⟨rfl, data, mode, hnode, of_decide_eq_true hsize, of_decide_eq_true hdigest⟩

theorem safe_reusableMaterialization (codecs : Codecs) (expected : MaterializationReceiptFile) :
    SafeFor Serves Inv (fun reusable s' => s' = s ∧
      (reusable = none → s.files.get .receipt = none))
      (reusableMaterialization codecs expected) s := by
  unfold reusableMaterialization
  refine safe_then (safe_regularFileExists hinv .receipt) fun there s' hs hthere => ?_
  obtain ⟨rfl, ⟨rfl, -⟩ | ⟨rfl, hnone⟩⟩ := hthere
  · rw [if_pos rfl]
    refine safe_then (safe_regularFileExists hinv .final) fun finalExists s' hs hfinal => ?_
    obtain ⟨rfl, -⟩ := hfinal
    refine safe_require hs fun _ => safe_openRead hinv fun opened _ => ?_
    cases opened with
    | failed => exact safe_error hs
    | special => exact safe_error hs
    | bytes source =>
      refine safe_require hs fun _ => ?_
      refine safe_then (safe_verifyFile hinv codecs .final _ _) fun _ s' hs hverified => ?_
      obtain ⟨rfl, -⟩ := hverified
      refine safe_lstat hinv fun finalInfo _ => safe_lstat hinv fun receiptInfo _ => ?_
      cases finalInfo with
      | regular _ finalMode =>
        cases receiptInfo with
        | regular _ receiptMode =>
          dsimp only
          split
          · exact safe_return hs ⟨rfl, (by intro h; cases h)⟩
          · exact safe_error hs
        | _ => exact safe_error hs
      | _ => exact safe_error hs
  · rw [if_neg (by decide)]
    exact safe_return hs ⟨rfl, fun _ => hnone⟩

end Looking

/-! ## Touching certain names -/

/-- What an operation writes to are names that `P` holds of. -/
def Touches (P : StagedName → Prop) : StagingOp → Prop
  | .openCreate name | .writeAt name _ _ | .chmod name _ | .remove name => P name
  | .rename source target => P source ∧ P target
  | .createTemp => ∀ number, P (.temporary number)
  | _ => True

/-- The other names stand for what they stood for. -/
def Frame (P : StagedName → Prop) (s s' : Staging) : Prop :=
  ∀ name, ¬ P name → s'.files.get name = s.files.get name

variable {P : StagedName → Prop}

theorem frame_put {name : StagedName} (h : P name) (node : Node) :
    Frame P s (s.put name node) :=
  fun _ hother => Table.get_put_ne _ _ fun hsame => hother (hsame ▸ h)

theorem frame_write {name : StagedName} (h : P name) (offset : Nat) (source : List Byte) :
    Frame P s (s.write name offset source) := by
  unfold Staging.write
  split
  · exact frame_put h _
  · exact fun _ _ => rfl

/-- **An operation leaves the names it does not touch.** -/
theorem frame_acts {o : StagingOp} {r : o.Resp} (h : Touches P o) (hact : Acts Serves o r s s') :
    Frame P s s' := by
  rcases hact with ⟨server, -, hexec⟩ | ⟨-, rfl | htorn⟩
  · have hs' : s' = (exec server o s).2 := by rw [hexec]
    rw [hs']
    cases o with
    | lstatParent => exact fun _ _ => rfl
    | mkdir => exact fun name _ => by rw [(same_mkdir server).files]
    | lstatDirectory => exact fun _ _ => rfl
    | chmodDirectory => exact fun name _ => by rw [(same_chmodDirectory server).files]
    | lstat name => exact fun _ _ => rfl
    | openRead name => exact fun _ _ => rfl
    | openCreate name =>
      unfold exec
      dsimp only
      split
      · exact frame_put h _
      · exact fun _ _ => rfl
      · exact fun _ _ => rfl
    | writeAt name offset source => exact frame_write h offset source
    | sync name => exact fun _ _ => rfl
    | chmod name mode =>
      unfold exec
      dsimp only
      split
      · exact frame_put h _
      · exact fun _ _ => rfl
    | rename source target =>
      unfold exec
      dsimp only
      split
      · intro name hname
        -- a rename touches both its names
        have htarget : name ≠ target := fun hsame => hname (hsame ▸ h.2)
        have hsource : name ≠ source := fun hsame => hname (hsame ▸ h.1)
        exact (Table.get_put_ne _ _ htarget).trans (Table.get_remove_ne _ hsource)
      · exact fun _ _ => rfl
    | remove name =>
      exact fun _ hother => Table.get_remove_ne _ fun hsame => hother (hsame ▸ h)
    | createTemp => exact frame_put (h s.next) _
    | syncDirectory => exact fun _ _ => rfl
    | download start last => exact fun _ _ => rfl
  · exact fun _ _ => rfl
  · cases o with
    | writeAt name offset source =>
      obtain ⟨k, rfl⟩ := htorn
      exact frame_write h offset _
    | _ => exact htorn.elim

theorem safe_touching {x : StagingProc α} (hx : Only (Touches P) x)
    (hinv : ∀ s', Frame P s s' → Inv s') :
    SafeFor Serves Inv (fun _ s' => Frame P s s') x s := by
  have hframe : Safe (Acts Serves) (Frame P s) (fun _ s' => Frame P s s') x s :=
    safe_only hx (fun o r s₁ s₂ ho hact h name hname =>
      (frame_acts ho hact name hname).trans (h name hname)) fun _ _ => rfl
  exact (hframe.weaken hinv).mono fun _ s' _ h _ _ => h

section Only

variable {P : StagingOp → Prop}

theorem only_op {o : StagingOp} {f : o.Resp → StagingProc α} (ho : P o)
    (hf : ∀ r, Only P (f r)) : Only P ((op o).bind f) := ⟨ho, hf⟩

theorem only_require (c : Bool) (code : String) : Only P (require c code) := by
  unfold require
  split <;> trivial

theorem only_checked (c : Bool) (code : String) {f : Unit → StagingProc α}
    (hf : Only P (f ())) : Only P ((require c code).bind f) :=
  only_bind (only_require c code) fun _ => hf

theorem only_attempt {x : StagingProc α} (hx : Only P x) : Only P x.attempt := by
  induction x with
  | ret a => trivial
  | fail e => trivial
  | call o k ih => exact ⟨hx.1, fun r => ih r (hx.2 r)⟩

theorem only_writeReceipt (codecs : Codecs) (receipt : MaterializationReceiptFile) :
    Only (Touches OfReceipt) (writeReceipt codecs receipt) := by
  have htemporary : ∀ number, OfReceipt (.temporary number) := fun number => .inr ⟨number, rfl⟩
  unfold writeReceipt
  refine only_op htemporary fun created => ?_
  cases created with
  | none => trivial
  | some number =>
    refine only_bind (only_attempt ?_) fun _ => only_op (htemporary number) fun _ =>
      only_ofExcept _
    unfold fillReceipt
    refine only_op (htemporary number) fun _ => only_checked _ _ ?_
    refine only_op (htemporary number) fun _ => only_checked _ _ ?_
    refine only_op trivial fun _ => only_checked _ _ ?_
    refine only_op ⟨htemporary number, .inl rfl⟩ fun _ => only_checked _ _ ?_
    exact only_op trivial fun _ => only_require _ _

theorem only_downloadFrom (target : MaterializationTarget) (fuel offset : Nat) :
    Only (Touches (· = .part)) (downloadFrom target fuel offset) := by
  induction fuel generalizing offset with
  | zero => trivial
  | succ fuel ih =>
    unfold downloadFrom
    split
    · refine only_bind (only_op trivial fun _ => only_ofExcept _) fun chunk => ?_
      refine only_bind ?_ fun _ => ih _
      unfold appendMaterialization
      refine only_op rfl fun stat => ?_
      cases stat with
      | regular size mode =>
        refine only_checked _ _ (only_op rfl fun _ => only_checked _ _ ?_)
        exact only_op trivial fun _ => only_require _ _
      | _ => trivial
    · trivial

end Only

end AgentRoom.Materialize
