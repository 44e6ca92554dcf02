import AgentRoom.Repository.Snapshot

/-!
# The paths of a snapshot

No two files of a snapshot share a path, and no file lies under another, although the snapshot
spells some paths as the baseline does and the walk as the directory does: both spellings are the
same path after normalisation, and the walk meets no path key twice.
-/

namespace AgentRoom.Repository

open Segments

variable {u : Unicode} {s : Scan} {w w' : Walk} {e : WorkEntry} {done rest : List WorkEntry}

theorem original?_some {baseline : List TreeEntry} {path : Path} {entry : TreeEntry}
    (h : original? u baseline path = some entry) :
    entry ∈ baseline ∧ u.nfc entry.path = u.nfc path := by
  unfold original? at h
  have hmem := List.mem_of_find?_eq_some h
  have hpath := List.find?_some h
  exact ⟨List.mem_reverse.mp hmem, of_decide_eq_true hpath⟩

theorem nfc_spelled (u : Unicode) (baseline : List TreeEntry) (path : Path) :
    u.nfc (spelled u baseline path) = u.nfc path := by
  unfold spelled
  cases h : original? u baseline path with
  | none => rfl
  | some entry => exact (original?_some h).2

theorem key_eq_of_nfc {p q : Path} (h : u.nfc p = u.nfc q) : u.key p = u.key q := by
  unfold Unicode.key
  rw [h]

/-- The object of a file is the hash of its bytes, unless it is a gitlink. -/
def Hashed (s : Scan) (f : CapturedFile) : Prop := f.mode = .gitlink ∨ f.object = s.blobHash f.data

/-- The file a visit appended, if it appended one. -/
structure Appended (u : Unicode) (s : Scan) (e : WorkEntry) (w w' : Walk) : Prop where
  seen : w'.seen = w.seen
  files : w'.files = w.files ∨ ∃ f, w'.files = w.files ++ [f] ∧ u.nfc f.path = u.nfc e.path ∧
    (e.kind = .directory → emptyDirectory s.entries e.path = true) ∧ Hashed s f

theorem appendFile_ok {path : Path} {mode : Mode} {data : List UInt8}
    (h : appendFile u s w path mode data = .ok w') :
    w' = { w with
      total := w.total + data.length
      files := w.files ++ [⟨spelled u s.baseline path, mode, s.blobHash data, data.length,
        data⟩] } := by
  unfold appendFile at h
  split at h
  · cases h
  · exact (Except.ok.inj h).symm

theorem visitKind_ok (h : visitKind u s w e = .ok w') : Appended u s e w w' := by
  have file : ∀ {mode data}, e.kind ≠ .directory →
      appendFile u s w e.path mode data = .ok w' → Appended u s e w w' := by
    intro mode data hkind h
    rw [appendFile_ok h]
    exact ⟨rfl, .inr ⟨_, rfl, nfc_spelled u s.baseline e.path, fun hdir => absurd hdir hkind,
      .inr rfl⟩⟩
  unfold visitKind at h
  split at h
  · next hkind =>
      simp only at h
      split at h
      · next original horiginal =>
          split at h
          · split at h
            · cases h
            · next hempty =>
                rw [← Except.ok.inj h]
                refine ⟨rfl, .inr ⟨_, rfl, (original?_some horiginal).2, fun _ => ?_, .inl rfl⟩⟩
                exact Bool.not_eq_false _ ▸ hempty
          · rw [← Except.ok.inj h]
            exact ⟨rfl, .inl rfl⟩
      · rw [← Except.ok.inj h]
        exact ⟨rfl, .inl rfl⟩
  · next hkind => exact file (by rw [hkind]; simp) h
  · next hkind => exact file (by rw [hkind]; simp) h
  · cases h

/-- What a visit does: it passes over `.git`, or it meets a new key. -/
theorem visit_ok (h : visit u s w e = .ok w') :
    (e.path = gitName ∧ e.kind ≠ .directory ∧ w' = w) ∨
    (e.path ≠ gitName ∧ u.key e.path ∉ w.seen ∧
      Appended u s e { w with count := w.count + 1, seen := u.key e.path :: w.seen } w') := by
  unfold visit at h
  split at h
  · next hgit =>
      split at h
      · next hkind => exact .inl ⟨hgit, by rw [hkind]; simp, (Except.ok.inj h).symm⟩
      · cases h
  · next hgit =>
      split at h
      · cases h
      split at h
      · cases h
      split at h
      · cases h
      · next hseen => exact .inr ⟨hgit, hseen, visitKind_ok h⟩

/-! ## What a walk keeps -/

/-- What a walk knows of the entries it has visited. -/
structure WalkInv (u : Unicode) (s : Scan) (done : List WorkEntry) (w : Walk) : Prop where
  git : ∀ e ∈ done, e.path = gitName → e.kind ≠ .directory
  seen : ∀ e ∈ done, e.path ≠ gitName → u.key e.path ∈ w.seen
  unique : ∀ e ∈ done, ∀ e' ∈ done, e.path ≠ gitName → e'.path ≠ gitName →
    u.key e.path = u.key e'.path → e = e'
  files : ∀ f ∈ w.files, ∃ e ∈ done, e.path ≠ gitName ∧ u.nfc f.path = u.nfc e.path ∧
    (e.kind = .directory → emptyDirectory s.entries e.path = true)
  nodup : (w.files.map fun f => u.nfc f.path).Nodup
  hashed : ∀ f ∈ w.files, Hashed s f

theorem walkInv_init : WalkInv u s [] {} := by
  constructor <;> simp

/-- One visit keeps what the walk knows. -/
theorem walkInv_visit (hw : WalkInv u s done w) (h : visit u s w e = .ok w') :
    WalkInv u s (done ++ [e]) w' := by
  obtain ⟨hgit, hkind, rfl⟩ | ⟨hgit, hnew, happ⟩ := visit_ok h
  · -- `.git` is passed over
    constructor
    · intro d hd hpath
      obtain hd | hd := List.mem_append.mp hd
      · exact hw.git d hd hpath
      · obtain rfl := List.mem_singleton.mp hd
        exact hkind
    · intro d hd hpath
      obtain hd | hd := List.mem_append.mp hd
      · exact hw.seen d hd hpath
      · obtain rfl := List.mem_singleton.mp hd
        exact absurd hgit hpath
    · intro d hd d' hd' hpath hpath' hkey
      obtain hd | hd := List.mem_append.mp hd
      · obtain hd' | hd' := List.mem_append.mp hd'
        · exact hw.unique d hd d' hd' hpath hpath' hkey
        · obtain rfl := List.mem_singleton.mp hd'
          exact absurd hgit hpath'
      · obtain rfl := List.mem_singleton.mp hd
        exact absurd hgit hpath
    · intro f hf
      obtain ⟨d, hd, hrest⟩ := hw.files f hf
      exact ⟨d, List.mem_append_left _ hd, hrest⟩
    · exact hw.nodup
    · exact hw.hashed
  · -- No visited entry has the new key.
    have hother : ∀ d ∈ done, d.path ≠ gitName → u.key d.path ≠ u.key e.path := by
      intro d hd hpath hkey
      exact hnew (hkey ▸ hw.seen d hd hpath)
    constructor
    · intro d hd hpath
      obtain hd | hd := List.mem_append.mp hd
      · exact hw.git d hd hpath
      · obtain rfl := List.mem_singleton.mp hd
        exact absurd hpath hgit
    · intro d hd hpath
      rw [happ.seen]
      obtain hd | hd := List.mem_append.mp hd
      · exact List.mem_cons_of_mem _ (hw.seen d hd hpath)
      · obtain rfl := List.mem_singleton.mp hd
        exact List.mem_cons_self
    · intro d hd d' hd' hpath hpath' hkey
      obtain hold | hlast := List.mem_append.mp hd
      · obtain hold' | hlast' := List.mem_append.mp hd'
        · exact hw.unique d hold d' hold' hpath hpath' hkey
        · rw [List.mem_singleton.mp hlast'] at hkey
          exact absurd hkey (hother d hold hpath)
      · obtain hold' | hlast' := List.mem_append.mp hd'
        · rw [List.mem_singleton.mp hlast] at hkey
          exact absurd hkey.symm (hother d' hold' hpath')
        · rw [List.mem_singleton.mp hlast, List.mem_singleton.mp hlast']
    · intro f hf
      obtain hfiles | ⟨g, hfiles, hnfc, hempty, -⟩ := happ.files
      · rw [hfiles] at hf
        obtain ⟨d, hd, hrest⟩ := hw.files f hf
        exact ⟨d, List.mem_append_left _ hd, hrest⟩
      · rw [hfiles] at hf
        obtain hf | hf := List.mem_append.mp hf
        · obtain ⟨d, hd, hrest⟩ := hw.files f hf
          exact ⟨d, List.mem_append_left _ hd, hrest⟩
        · obtain rfl := List.mem_singleton.mp hf
          exact ⟨e, by simp, hgit, hnfc, hempty⟩
    · obtain hfiles | ⟨g, hfiles, hnfc, -⟩ := happ.files
      · rw [hfiles]
        exact hw.nodup
      · rw [hfiles, List.map_append, List.map_singleton]
        refine List.nodup_append.mpr ⟨hw.nodup, List.nodup_singleton _, ?_⟩
        intro x hx y hy hxy
        -- two files of one spelling would have one key
        obtain ⟨f, hf, rfl⟩ := List.mem_map.mp hx
        obtain rfl := List.mem_singleton.mp hy
        obtain ⟨d, hd, hpath, hd', -⟩ := hw.files f hf
        exact hother d hd hpath (key_eq_of_nfc (by rw [← hd', hxy, hnfc]))
    · intro f hf
      obtain hfiles | ⟨g, hfiles, -, -, hhashed⟩ := happ.files
      · exact hw.hashed f (hfiles ▸ hf)
      · rw [hfiles] at hf
        obtain hf | hf := List.mem_append.mp hf
        · exact hw.hashed f hf
        · obtain rfl := List.mem_singleton.mp hf
          exact hhashed

theorem walkInv_walk (hw : WalkInv u s done w) (h : walk u s w rest = .ok w') :
    WalkInv u s (done ++ rest) w' := by
  induction rest generalizing done w with
  | nil =>
    rw [List.append_nil]
    exact Except.ok.inj h ▸ hw
  | cons e rest ih =>
    unfold walk at h
    cases hv : visit u s w e with
    | error err => rw [hv] at h; cases h
    | ok w₁ =>
      rw [hv] at h
      have hnext := ih (walkInv_visit hw hv) h
      rwa [List.append_assoc] at hnext

/-! ## The files of a snapshot -/

/-- **Files of a snapshot have different paths, and none lies under another.** -/
structure FilePaths (files : List CapturedFile) : Prop where
  nodup : (files.map CapturedFile.path).Nodup
  apart : ∀ f ∈ files, ∀ g ∈ files, ∀ rest, g.path ≠ f.path ++ '/' :: rest

variable {snapshot : WorkSnapshot}

theorem snapshotWork_walk (h : snapshotWork u s = .ok snapshot) :
    ∃ w, WalkInv u s s.entries w ∧ snapshot.files.Perm w.files := by
  unfold snapshotWork at h
  cases hwalk : walk u s {} s.entries with
  | error err => rw [hwalk] at h; cases h
  | ok w =>
    rw [hwalk] at h
    obtain rfl := (Except.ok.inj h).symm
    exact ⟨w, walkInv_walk (show WalkInv u _ [] _ from walkInv_init) hwalk,
      List.perm_insertionSort _ _⟩

theorem snapshotWork_hashed (h : snapshotWork u s = .ok snapshot) :
    ∀ f ∈ snapshot.files, Hashed s f := by
  obtain ⟨w, hw, hperm⟩ := snapshotWork_walk h
  exact fun f hf => hw.hashed f (hperm.mem_iff.mp hf)

theorem snapshotWork_paths {work : Worktree} (hu : u.Regular) (hs : s.entries = work.entries)
    (h : snapshotWork u s = .ok snapshot) :
    FilePaths snapshot.files := by
  obtain ⟨w, hw, hperm⟩ := snapshotWork_walk h
  constructor
  · have hnodup : (w.files.map CapturedFile.path).Nodup := by
      refine List.Nodup.of_map u.nfc ?_
      rw [List.map_map]
      exact hw.nodup
    exact (hperm.map CapturedFile.path).nodup_iff.mpr hnodup
  · intro f hf g hg rest hpath
    obtain ⟨e, he, hgit, hnfc, hempty⟩ := hw.files f (hperm.mem_iff.mp hf)
    obtain ⟨e', he', hgit', hnfc', -⟩ := hw.files g (hperm.mem_iff.mp hg)
    -- The directory that holds the second file has the first file's key.
    rw [hpath, hu.nfc.join, hnfc] at hnfc'
    obtain ⟨a, b, hsplit, ha, -⟩ := hu.nfc.split hnfc'.symm
    obtain ⟨d, hd, hda, hdir⟩ := work.parents e' (hs ▸ he') a b hsplit
    have hd : d ∈ s.entries := hs ▸ hd
    have hdgit : d.path ≠ gitName := fun hg => hw.git d hd hg hdir
    have hkey : u.key d.path = u.key e.path := key_eq_of_nfc (by rw [hda, ha])
    obtain rfl := hw.unique d hd e he hdgit hgit hkey
    -- So that file was an empty directory, with an entry under it.
    have hnone := List.all_eq_true.mp (hempty hdir) e' he'
    have hunder : (d.path ++ ['/']).isPrefixOf e'.path = true := by
      rw [List.isPrefixOf_iff_prefix, hsplit, hda]
      exact ⟨b, by simp⟩
    rw [hunder] at hnone
    cases hnone

end AgentRoom.Repository
