import Mathlib.Logic.Function.Basic
import AgentRoom.Lib.Table

/-!
# Disks that forget

A directory tree is a table of names, each naming a file by its number. What a
process sees and what a crash leaves are two things: a name as it is, or as it was
when its directory was last synced; a content as it is, or torn if it was not synced
since it was written. `Crashed d d'` allows every combination.

Two ways to put a content under a name: `writeNew` creates the file in place and
then writes it, `replace` writes a temporary file and renames it. At every crash
point of `replace` a name shows what it showed before, or the new content. This
holds of `writeNew` except between the creation of the file and its sync, where the
name may show a torn file.
-/

/-- The names, as they are and as they are kept, and the files. -/
structure Disk (N C : Type) where
  names : Table N Nat
  /-- The names on stable storage. -/
  kept : N → Option Nat
  content : Nat → C
  /-- The content is on stable storage. -/
  settled : Nat → Bool
  /-- The number of the next file. -/
  fresh : Nat

/-- One step on the files. A file is written through the number its creation gave. -/
inductive FileOp (N C : Type)
  | create (name : N)
  | write (file : Nat) (content : C)
  | syncFile (file : Nat)
  | rename (source target : N)
  | remove (name : N)
  | syncDir (inside : N → Bool)
  /-- A close, a change of mode, a directory made: nothing here shows it. -/
  | other

namespace Disk

variable {N C : Type} [DecidableEq N]

/-- What the name shows. -/
def read (d : Disk N C) (name : N) : Option C := (d.names.get name).map d.content

/-- The disk after a step; `torn` is what an empty file shows. -/
def apply (torn : C) (d : Disk N C) : FileOp N C → Disk N C
  | .create name =>
    { d with
      names := d.names.put name d.fresh
      content := Function.update d.content d.fresh torn
      settled := Function.update d.settled d.fresh false
      fresh := d.fresh + 1 }
  | .write file content =>
    { d with
      content := Function.update d.content file content
      settled := Function.update d.settled file false }
  | .syncFile file => { d with settled := Function.update d.settled file true }
  | .rename source target =>
    match d.names.get source with
    | some file => { d with names := (d.names.remove source).put target file }
    | none => d
  | .remove name => { d with names := d.names.remove name }
  | .syncDir inside =>
    { d with kept := fun name => if inside name then d.names.get name else d.kept name }
  | .other => d

/-- The disk after the steps. -/
def run (torn : C) (d : Disk N C) (ops : List (FileOp N C)) : Disk N C := ops.foldl (apply torn) d

/-- **What a crash can leave.** -/
structure Crashed (torn : C) (d d' : Disk N C) : Prop where
  names : ∀ name, d'.names.get name = d.names.get name ∨ d'.names.get name = d.kept name
  kept : ∀ name, d'.kept name = d'.names.get name
  content : ∀ file, d'.content file = d.content file ∨
    d.settled file = false ∧ d'.content file = torn
  settled : ∀ file, d'.settled file = true
  fresh : d'.fresh = d.fresh

/-- **Nothing is under way**: names and contents are on stable storage. -/
structure Quiet (d : Disk N C) : Prop where
  kept : ∀ name, d.kept name = d.names.get name
  settled : ∀ file, file < d.fresh → d.settled file = true
  numbered : ∀ name file, d.names.get name = some file → file < d.fresh

/-! ## Two protocols -/

/-- Create the file under its name, then write it. -/
def writeNew (d : Disk N C) (name : N) (content : C) (inside : N → Bool) : List (FileOp N C) :=
  [.create name, .write d.fresh content, .syncFile d.fresh, .other, .syncDir inside]

/-- Write a temporary file, then give it the name; what is left of the temporary name goes. -/
def replace (d : Disk N C) (temporary name : N) (content : C) (inside : N → Bool) :
    List (FileOp N C) :=
  [.create temporary, .other, .write d.fresh content, .syncFile d.fresh, .other,
    .rename temporary name, .syncDir inside, .remove temporary]

/-! ## What is safe to lose -/

/-- A name's file, or its absence, is the new one: there for good. -/
def Shows (e : Disk N C) (new : Option C) (file : Option Nat) : Prop :=
  match new with
  | none => file = none
  | some content => ∃ f, file = some f ∧ f < e.fresh ∧ e.content f = content ∧ e.settled f = true

/-- **Safe to crash.** But for the scratch names, each name of `e`, as it is and as it is kept, is
that of `d`; only the target's may also be the new one. The files of `d` are untouched. -/
structure Safe (d : Disk N C) (scratch : N → Prop) (target : N) (new : Option C) (e : Disk N C) :
    Prop where
  files : ∀ f, f < d.fresh → e.content f = d.content f ∧ e.settled f = d.settled f
  grown : d.fresh ≤ e.fresh
  others : ∀ name, ¬ scratch name → name ≠ target →
    e.names.get name = d.names.get name ∧ e.kept name = d.kept name
  target : ∀ file, e.names.get target = file ∨ e.kept target = file →
    file = d.names.get target ∨ Shows e new file

section Crash

variable {torn : C} {d d' e : Disk N C} {scratch : N → Prop} {target : N} {new : Option C}

theorem Crashed.settled_content (h : Crashed torn e d') {f : Nat} (hs : e.settled f = true) :
    d'.content f = e.content f := by
  rcases h.content f with hcontent | ⟨hunsettled, -⟩
  · exact hcontent
  · rw [hs] at hunsettled
    cases hunsettled

variable {name : N}

theorem Safe.read_old (hq : d.Quiet) (hs : Safe d scratch target new e) (hc : Crashed torn e d')
    {name' : N} (h : d'.names.get name' = d.names.get name) :
    d'.read name' = d.read name := by
  unfold read
  rw [h]
  rcases hget : d.names.get name with _ | f
  · rfl
  · have hlt := hq.numbered name f hget
    obtain ⟨hcontent, hsettled⟩ := hs.files f hlt
    have hread : d'.content f = e.content f :=
      hc.settled_content (by rw [hsettled]; exact hq.settled f hlt)
    rw [Option.map_some, Option.map_some, hread, hcontent]

/-- **A crash at a safe point** shows each name as before, or the target as it will be. -/
theorem Safe.crash (hq : d.Quiet) (hs : Safe d scratch target new e) (hc : Crashed torn e d')
    (hname : ¬ scratch name) :
    d'.read name = d.read name ∨ name = target ∧ d'.read name = new := by
  by_cases ht : name = target
  · subst ht
    have hvisible : e.names.get name = d'.names.get name ∨ e.kept name = d'.names.get name := by
      rcases hc.names name with h | h
      · exact .inl h.symm
      · exact .inr h.symm
    rcases hs.target _ hvisible with hold | hnew
    · exact .inl (hs.read_old hq hc hold)
    · refine .inr ⟨rfl, ?_⟩
      unfold Shows at hnew
      unfold read
      cases new with
      | none => rw [hnew]; rfl
      | some content =>
        obtain ⟨f, hf, -, hcontent, hsettled⟩ := hnew
        rw [hf, Option.map_some, hc.settled_content hsettled, hcontent]
  · obtain ⟨hnames, hkept⟩ := hs.others name hname ht
    refine .inl (hs.read_old hq hc ?_)
    rcases hc.names name with h | h
    · rw [h, hnames]
    · rw [h, hkept, hq.kept]

/-- The crash came before the new content or after it. -/
theorem Safe.crash_split (hq : d.Quiet) (hs : Safe d scratch target new e)
    (hc : Crashed torn e d') :
    (∀ name, ¬ scratch name → d'.read name = d.read name) ∨
    (d'.read target = new ∧
      ∀ name, ¬ scratch name → name ≠ target → d'.read name = d.read name) := by
  have hothers : ∀ name, ¬ scratch name → name ≠ target → d'.read name = d.read name := by
    intro name hname hne
    rcases hs.crash hq hc hname with h | ⟨h, -⟩
    · exact h
    · exact absurd h hne
  by_cases hscratch : scratch target
  · exact .inl fun name hname => hothers name hname fun h => hname (h ▸ hscratch)
  rcases hs.crash hq hc hscratch with hold | ⟨-, hnew⟩
  · left
    intro name hname
    by_cases hne : name = target
    · rw [hne, hold]
    · exact hothers name hname hne
  · exact .inr ⟨hnew, hothers⟩

theorem Safe.read_other (hq : d.Quiet) (hs : Safe d scratch target new e) (hname : ¬ scratch name)
    (hne : name ≠ target) : e.read name = d.read name := by
  obtain ⟨hnames, -⟩ := hs.others name hname hne
  unfold read
  rw [hnames]
  rcases hget : d.names.get name with _ | f
  · rfl
  · obtain ⟨hcontent, -⟩ := hs.files f (hq.numbered name f hget)
    rw [Option.map_some, Option.map_some, hcontent]

/-- Every file that is named, or kept, was created. -/
def Numbered (e : Disk N C) : Prop :=
  ∀ name f, e.names.get name = some f ∨ e.kept name = some f → f < e.fresh

theorem Quiet.is_numbered (hq : d.Quiet) : d.Numbered := by
  intro name f h
  rw [hq.kept, or_self] at h
  exact hq.numbered name f h

theorem numbered_apply (h : e.Numbered) (op : FileOp N C) : (e.apply torn op).Numbered := by
  intro n f hf
  cases op with
  | create name =>
    simp only [apply, Table.get_put] at hf ⊢
    rcases hf with hf | hf
    · split at hf
      · cases hf
        -- a new file takes the next number
        exact Nat.lt_succ_self _
      · exact Nat.lt_succ_of_lt (h n f (.inl hf))
    · exact Nat.lt_succ_of_lt (h n f (.inr hf))
  | rename source target =>
    simp only [apply] at hf ⊢
    split at hf
    · next file hget =>
      simp only [Table.get_put, Table.get_remove] at hf ⊢
      rcases hf with hf | hf
      · split at hf
        · cases hf
          exact h source _ (.inl hget)
        split at hf
        · cases hf
        · exact h n f (.inl hf)
      · exact h n f (.inr hf)
    · exact h n f hf
  | remove name =>
    simp only [apply, Table.get_remove] at hf ⊢
    rcases hf with hf | hf
    · split at hf
      · cases hf
      · exact h n f (.inl hf)
    · exact h n f (.inr hf)
  | syncDir inside =>
    simp only [apply] at hf ⊢
    rcases hf with hf | hf
    · exact h n f (.inl hf)
    · split at hf
      · exact h n f (.inl hf)
      · exact h n f (.inr hf)
  | write file content => exact h n f hf
  | syncFile file => exact h n f hf
  | other => exact h n f hf

theorem numbered_run (ops : List (FileOp N C)) (h : e.Numbered) : (e.run torn ops).Numbered := by
  induction ops generalizing e with
  | nil => exact h
  | cons op ops ih => exact ih (numbered_apply h op)

theorem Crashed.quiet (hc : Crashed torn e d') (he : e.Numbered) : d'.Quiet := by
  refine ⟨hc.kept, fun f _ => hc.settled f, fun name f hget => ?_⟩
  rw [hc.fresh]
  refine he name f ?_
  rcases hc.names name with h | h
  · exact .inl (by rw [← h, hget])
  · exact .inr (by rw [← h, hget])

theorem Safe.unchanged (hq : d.Quiet)
    (hfiles : ∀ f, f < d.fresh → e.content f = d.content f ∧ e.settled f = d.settled f)
    (hgrown : d.fresh ≤ e.fresh)
    (hnames : ∀ name, ¬ scratch name → e.names.get name = d.names.get name)
    (hkept : ∀ name, ¬ scratch name → e.kept name = d.kept name) (htarget : ¬ scratch target) :
    Safe d scratch target new e where
  files := hfiles
  grown := hgrown
  others name hname _ := ⟨hnames name hname, hkept name hname⟩
  target file h := by
    left
    rcases h with h | h
    · rw [← h, hnames target htarget]
    · rw [← h, hkept target htarget, hq.kept]

/-- The target shows what it will; its directory may or may not have been synced. -/
theorem Safe.installed (hq : d.Quiet)
    (hfiles : ∀ f, f < d.fresh → e.content f = d.content f ∧ e.settled f = d.settled f)
    (hgrown : d.fresh ≤ e.fresh)
    (hnames : ∀ name, ¬ scratch name → name ≠ target → e.names.get name = d.names.get name)
    (hkept : ∀ name, ¬ scratch name → name ≠ target → e.kept name = d.kept name)
    (hshows : Shows e new (e.names.get target))
    (htarget : e.kept target = d.kept target ∨ e.kept target = e.names.get target) :
    Safe d scratch target new e where
  files := hfiles
  grown := hgrown
  others name hname hne := ⟨hnames name hname hne, hkept name hname hne⟩
  target file h := by
    rcases h with rfl | rfl
    · exact .inr hshows
    · rcases htarget with h | h
      · exact .inl (by rw [h, hq.kept])
      · exact .inr (by rw [h]; exact hshows)

/-- The worst crash: every file that was not synced is torn, and its name is there. -/
def worst (torn : C) (e : Disk N C) : Disk N C :=
  { e with
    kept := e.names.get
    content := fun f => if e.settled f then e.content f else torn
    settled := fun _ => true }

theorem crashed_worst (torn : C) (e : Disk N C) : Crashed torn e (e.worst torn) where
  names _ := .inl rfl
  kept _ := rfl
  content f := by
    by_cases hs : e.settled f = true
    · exact .inl (by simp [worst, hs])
    · exact .inr ⟨by simpa using hs, by simp [worst, hs]⟩
  settled _ := rfl
  fresh := rfl

end Crash

/-! ## The protocols at every crash point -/

section Protocols

variable {torn : C} {d : Disk N C} {inside : N → Bool} {name : N} {content : C}

@[simp] theorem run_nil : d.run torn [] = d := rfl

@[simp] theorem run_cons (op : FileOp N C) (ops : List (FileOp N C)) :
    d.run torn (op :: ops) = (d.apply torn op).run torn ops := rfl

@[simp] theorem apply_other : d.apply torn .other = d := rfl

theorem run_take_other (ops : List (FileOp N C)) (k : Nat) :
    d.run torn ((.other :: ops).take k) = d.run torn (ops.take (k - 1)) := by
  rcases k with _ | k
  · simp
  · simp

theorem Safe.refl (hq : d.Quiet) {scratch : N → Prop} {target : N} {new : Option C} :
    Safe d scratch target new d where
  files _ _ := ⟨rfl, rfl⟩
  grown := Nat.le_refl _
  others _ _ _ := ⟨rfl, rfl⟩
  target file h := by
    left
    rcases h with h | h
    · exact h.symm
    · rw [← h, hq.kept]

variable {temporary : N}

theorem safe_staging (hq : d.Quiet) (hne : name ≠ temporary) {k : Nat} (hk : k ≤ 5) :
    Safe d (· = temporary) name (some content)
      (d.run torn ((replace d temporary name content inside).take k)) := by
  have hold : ∀ f, f < d.fresh → f ≠ d.fresh := fun f hf => Nat.ne_of_lt hf
  refine Safe.unchanged hq ?_ ?_ ?_ ?_ hne
  all_goals
    rcases k with _ | _ | _ | _ | _ | _ | k <;>
      simp +contextual [replace, apply, hold, Table.get_put_ne]
  all_goals omega

/-- **`replace` is safe at every crash point.** -/
theorem safe_replace (hq : d.Quiet) {temporary : N} (hne : name ≠ temporary) (k : Nat) :
    Safe d (· = temporary) name (some content)
      (d.run torn ((replace d temporary name content inside).take k)) := by
  by_cases hk : k ≤ 5
  · exact safe_staging hq hne hk
  have hold : ∀ f, f < d.fresh → f ≠ d.fresh := fun f hf => Nat.ne_of_lt hf
  obtain ⟨j, rfl⟩ : ∃ j, k = j + 6 := ⟨k - 6, by omega⟩
  refine Safe.installed hq ?_ ?_ ?_ ?_ ?_ ?_
  -- the directory may have been synced since, if it is the name's
  case refine_6 =>
    rcases hi : inside name with _ | _ <;>
      rcases j with _ | _ | _ <;> simp [replace, apply, hi, hne, Table.get_remove_ne]
  all_goals
    rcases j with _ | _ | _ <;>
      simp +contextual [replace, apply, hold, Table.get_put_ne, Table.get_remove_ne, Shows, hne,
        hq.kept]

/-- **`writeNew` is safe** before it creates the file and once it has synced it. -/
theorem safe_writeNew (hq : d.Quiet) {k : Nat} (hk : k ≠ 1 ∧ k ≠ 2) :
    Safe d (fun _ => False) name (some content)
      (d.run torn ((writeNew d name content inside).take k)) := by
  rcases Nat.eq_zero_or_pos k with rfl | hpos
  · exact Safe.refl hq
  have hold : ∀ f, f < d.fresh → f ≠ d.fresh := fun f hf => Nat.ne_of_lt hf
  obtain ⟨j, rfl⟩ : ∃ j, k = j + 3 := ⟨k - 3, by omega⟩
  refine Safe.installed hq ?_ ?_ ?_ ?_ ?_ ?_
  case refine_6 =>
    rcases hi : inside name with _ | _ <;>
      rcases j with _ | _ | _ <;> simp [writeNew, apply, hi]
  all_goals
    rcases j with _ | _ | _ <;>
      simp +contextual [writeNew, apply, hold, Table.get_put_ne, Shows, hq.kept]

/-- **Between its creation and its sync a new file may be torn.** -/
theorem torn_writeNew {k : Nat} (hk : k = 1 ∨ k = 2) :
    ((d.run torn ((writeNew d name content inside).take k)).worst torn).read name = some torn := by
  rcases hk with rfl | rfl <;> simp [writeNew, apply, worst, read]

/-- The steps that take a file away. -/
def discard (name : N) (inside : N → Bool) : List (FileOp N C) := [.remove name, .syncDir inside]

/-- The steps that move a file aside. -/
def setAside (name aside : N) (inside inside' : N → Bool) : List (FileOp N C) :=
  [.rename name aside, .syncDir inside, .syncDir inside']

/-- **Removing a file** is safe at every crash point. -/
theorem safe_discard (hq : d.Quiet) (k : Nat) :
    Safe d (fun _ => False) name none (d.run torn ((discard name inside).take k)) := by
  rcases k with _ | j
  · exact Safe.refl hq
  refine Safe.installed hq ?_ ?_ ?_ ?_ ?_ ?_
  case refine_6 =>
    rcases hi : inside name with _ | _ <;>
      rcases j with _ | _ <;> simp [discard, apply, hi]
  all_goals
    rcases j with _ | _ <;>
      simp +contextual [discard, apply, Table.get_remove_ne, Shows, hq.kept]

/-- **Moving a file aside** is safe at every crash point. -/
theorem safe_setAside (hq : d.Quiet) {aside : N} (hne : name ≠ aside) {inside' : N → Bool}
    (k : Nat) :
    Safe d (· = aside) name none (d.run torn ((setAside name aside inside inside').take k)) := by
  rcases k with _ | j
  · exact Safe.refl hq
  rcases hget : d.names.get name with _ | file
  · refine Safe.unchanged hq ?_ ?_ ?_ ?_ hne
    all_goals
      rcases j with _ | _ | _ <;> simp +contextual [setAside, apply, hget, hq.kept]
  refine Safe.installed hq ?_ ?_ ?_ ?_ ?_ ?_
  case refine_6 =>
    rcases hi : inside name with _ | _ <;> rcases hi' : inside' name with _ | _ <;>
      rcases j with _ | _ | _ <;>
        simp [setAside, apply, hget, hi, hi', Table.get_put_ne, hne]
  all_goals
    rcases j with _ | _ | _ <;>
      simp +contextual [setAside, apply, hget, Table.get_put_ne, Table.get_remove_ne, Shows,
        hne, hq.kept]

/-! ## The protocols when nothing interrupts them -/

theorem read_replace (hne : name ≠ temporary) :
    (d.run torn (replace d temporary name content inside)).read name = some content := by
  simp [replace, apply, read, Table.get_remove_ne, hne]

theorem read_writeNew :
    (d.run torn (writeNew d name content inside)).read name = some content := by
  simp [writeNew, apply, read]

theorem read_discard : (d.run torn (discard name inside)).read name = none := by
  simp [discard, apply, read]

theorem read_setAside {aside : N} (hne : name ≠ aside) {inside' : N → Bool}
    (hthere : (d.names.get name).isSome) :
    (d.run torn (setAside name aside inside inside')).read name = none := by
  obtain ⟨file, hget⟩ := Option.isSome_iff_exists.mp hthere
  simp [setAside, apply, read, hget, Table.get_put_ne, hne]

/-- A disk is quiet again when its names are kept, its files settled, and no file is named that
was not created. -/
theorem Quiet.of_synced (hq : d.Quiet) {e : Disk N C} (hgrown : d.fresh ≤ e.fresh)
    (hkept : ∀ n, e.kept n = e.names.get n) (hfiles : ∀ f, f < e.fresh → e.settled f = true)
    (hnames : ∀ n f, e.names.get n = some f → f < e.fresh ∨ ∃ n', d.names.get n' = some f) :
    e.Quiet := by
  refine ⟨hkept, hfiles, fun n f hget => ?_⟩
  rcases hnames n f hget with h | ⟨n', h⟩
  · exact h
  · exact Nat.lt_of_lt_of_le (hq.numbered n' f h) hgrown

theorem quiet_replace (hq : d.Quiet) (hne : name ≠ temporary) (hfree : d.names.get temporary = none)
    (hin : inside name = true) :
    (d.run torn (replace d temporary name content inside)).Quiet := by
  refine hq.of_synced ?_ (fun n => ?_) (fun f hf => ?_) fun n f hget => ?_
  · simp [replace, apply]
  · simp [replace, apply, Table.get_put, Table.get_remove, hq.kept]
    grind
  · have := hq.settled f
    simp [replace, apply, Function.update_apply] at hf ⊢
    grind
  · simp [replace, apply, Table.get_put, Table.get_remove] at hget ⊢
    grind

theorem quiet_writeNew (hq : d.Quiet) (hin : inside name = true) :
    (d.run torn (writeNew d name content inside)).Quiet := by
  refine hq.of_synced ?_ (fun n => ?_) (fun f hf => ?_) fun n f hget => ?_
  · simp [writeNew, apply]
  · simp [writeNew, apply, Table.get_put, hq.kept]
    grind
  · have := hq.settled f
    simp [writeNew, apply, Function.update_apply] at hf ⊢
    grind
  · simp [writeNew, apply, Table.get_put] at hget ⊢
    grind

theorem quiet_discard (hq : d.Quiet) (hin : inside name = true) :
    (d.run torn (discard name inside)).Quiet := by
  refine hq.of_synced (Nat.le_refl _) (fun n => ?_) hq.settled fun n f hget => ?_
  · simp [discard, apply, Table.get_remove, hq.kept]
    grind
  · simp [discard, apply, Table.get_remove] at hget ⊢
    grind

theorem quiet_setAside (hq : d.Quiet) {aside : N} {inside' : N → Bool}
    (hin : inside aside = true) (hin' : inside' name = true) :
    (d.run torn (setAside name aside inside inside')).Quiet := by
  rcases hget : d.names.get name with _ | file
  · refine hq.of_synced ?_ (fun n => ?_) ?_ fun n f h => ?_
    · simp [setAside, apply, hget]
    · simp [setAside, apply, hget, hq.kept]
    · simpa [setAside, apply, hget] using hq.settled
    · simp [setAside, apply, hget] at h ⊢
      exact .inr ⟨n, h⟩
  · refine hq.of_synced ?_ (fun n => ?_) ?_ fun n f h => ?_
    · simp [setAside, apply, hget]
    · simp [setAside, apply, hget, Table.get_put, Table.get_remove, hq.kept]
      grind
    · simpa [setAside, apply, hget] using hq.settled
    · simp [setAside, apply, hget, Table.get_put, Table.get_remove] at h ⊢
      grind

end Protocols

end Disk
