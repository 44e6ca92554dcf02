import AgentRoom.Governed.ProcessFacts

/-!
# A process journal that can be read

The shape of the journal needs no clock: a process is active only if it was
prepared, finished only if it was active, abandoned only if it never was. That every
record passes the check of its reader needs one: the clock of an operation must not
read earlier than what the Run's records say.
-/

namespace AgentRoom.Governed

open Bridge (GovernedProcessIdentity isContractRunID isSha256Digest)

variable {ns : LocalNamespace} {files files' : ProcessFiles} {run : String} {now : Instant}
  {allowed : ProcessObservation → Prop}

def ProcessFiles.empty : ProcessFiles := ⟨.empty, .empty, .empty, .empty, .empty, 0⟩

/-! ## The shape -/

theorem processShape_empty : ProcessShape .empty where
  active run h := by simp [ProcessFiles.empty] at h
  finished run h := by simp [ProcessFiles.empty] at h
  abandoned run h := by simp [ProcessFiles.empty] at h

variable {α : Type} {t : Table String α} {k key : String} {v : α} {attempt : LinkAttempt}

theorem isSome_linkNew (h : (t.get key).isSome) :
    ((t.linkNew k v attempt).1.get key).isSome := by
  obtain ⟨found, hfound⟩ := Option.isSome_iff_exists.mp h
  rw [Table.linkNew_grows key found hfound]
  rfl

theorem of_isSome_linkNew (h : ((t.linkNew k v attempt).1.get key).isSome) :
    (t.get key).isSome ∨ key = k := by
  obtain ⟨found, hfound⟩ := Option.isSome_iff_exists.mp h
  rcases Table.of_linkNew hfound with hold | ⟨hkey, -, -⟩
  · exact .inl (by rw [hold]; rfl)
  · exact .inr hkey

/-- **Every write keeps the shape.** -/
theorem ProcessShape.write (h : ProcessShape files)
    (hw : ProcessWrite ns run now allowed files files') : ProcessShape files' := by
  cases hw with
  | prepare identity attempt hrun hvalid hfree hroom =>
    refine ⟨fun key hkey => isSome_linkNew (h.active key hkey), h.finished, fun key hkey => ?_⟩
    obtain ⟨hprepared, hactive⟩ := h.abandoned key hkey
    exact ⟨isSome_linkNew hprepared, hactive⟩
  | lock hprepared => exact ⟨h.active, h.finished, h.abandoned⟩
  | unlock => exact ⟨h.active, h.finished, h.abandoned⟩
  | start prepared observation attempt hprepared hactive hfinished habandoned hvalid hallowed =>
    refine ⟨fun key hkey => ?_, fun key hkey => isSome_linkNew (h.finished key hkey),
      fun key hkey => ?_⟩
    · rcases of_isSome_linkNew hkey with hold | rfl
      · exact h.active key hold
      · show (files.prepared.get key).isSome
        rw [hprepared]
        rfl
    · obtain ⟨hp, ha⟩ := h.abandoned key hkey
      have hne : key ≠ run := by
        rintro rfl
        have hsome : (files.abandoned.get key).isSome := hkey
        rw [habandoned] at hsome
        cases hsome
      exact ⟨hp, (Table.linkNew_ne hne).trans ha⟩
  | finish prepared active attempt hprepared hactive hfinished habandoned =>
    refine ⟨h.active, fun key hkey => ?_, h.abandoned⟩
    rcases of_isSome_linkNew hkey with hold | rfl
    · exact h.finished key hold
    · show (files.active.get key).isSome
      rw [hactive]
      rfl
  | abandon prepared attempt hprepared hactive hfinished habandoned =>
    refine ⟨h.active, h.finished, fun key hkey => ?_⟩
    rcases of_isSome_linkNew hkey with hold | rfl
    · exact h.abandoned key hold
    · refine ⟨?_, hactive⟩
      show (files.prepared.get key).isSome
      rw [hprepared]
      rfl

theorem ProcessShape.writes (h : ProcessShape files)
    (hw : ProcessWrites ns run now allowed files files') : ProcessShape files' := by
  induction hw with
  | refl => exact h
  | tail _ hlast ih => exact ih.write hlast

/-- **No process is both finished and abandoned.** -/
theorem ProcessShape.closed_once (h : ProcessShape files) (run : String) :
    ¬ ((files.finished.get run).isSome ∧ (files.abandoned.get run).isSome) := by
  rintro ⟨hfinished, habandoned⟩
  have hactive := h.finished run hfinished
  rw [(h.abandoned run habandoned).2] at hactive
  cases hactive

/-! ## Every record passes the check of its reader -/

structure ProcessReadable (ns : LocalNamespace) (files : ProcessFiles) : Prop where
  prepared : ∀ run prepared, files.prepared.get run = some prepared →
    validPreparedRecord ns run prepared = true
  active : ∀ run active, files.active.get run = some active →
    ∃ prepared, files.prepared.get run = some prepared ∧
      safeInteger active.observation.pid = true ∧ validActiveRecord ns run prepared active = true
  finished : ∀ run terminal, files.finished.get run = some terminal →
    ∃ prepared, files.prepared.get run = some prepared ∧
      validTerminalRecord ns run prepared terminal = true ∧
      closesActive ns (files.active.get run) terminal = true
  abandoned : ∀ run terminal, files.abandoned.get run = some terminal →
    ∃ prepared, files.prepared.get run = some prepared ∧
      validTerminalRecord ns run prepared terminal = true ∧ terminal.activeDigest = ""
  locks : ∀ run, (files.locks.get run).isSome → (files.prepared.get run).isSome
  bounded : files.prepared.rows.length ≤ maxRuntimeAdmissions

theorem processReadable_empty : ProcessReadable ns .empty where
  prepared run prepared h := by simp [ProcessFiles.empty] at h
  active run active h := by simp [ProcessFiles.empty] at h
  finished run terminal h := by simp [ProcessFiles.empty] at h
  abandoned run terminal h := by simp [ProcessFiles.empty] at h
  locks run h := by simp [ProcessFiles.empty] at h
  bounded := Nat.zero_le _

/-- The clock reads a four-digit year, and nothing the Run's records say is later. -/
structure StampsBefore (files : ProcessFiles) (run : String) (now : Instant) : Prop where
  year : validProfileTime now = true
  prepared : ∀ prepared, files.prepared.get run = some prepared → prepared.preparedAt ≤ now
  active : ∀ active, files.active.get run = some active → active.startedAt ≤ now

/-- A write stamps its record with the same clock reading. -/
theorem StampsBefore.write (h : StampsBefore files run now)
    (hw : ProcessWrite ns run now allowed files files') : StampsBefore files' run now := by
  cases hw with
  | prepare identity attempt hrun hvalid hfree hroom =>
    refine ⟨h.year, fun prepared hprepared => ?_, h.active⟩
    rcases Table.of_linkNew hprepared with hold | ⟨-, rfl, -⟩
    · exact h.prepared prepared hold
    · exact le_refl _
  | lock hprepared => exact ⟨h.year, h.prepared, h.active⟩
  | unlock => exact ⟨h.year, h.prepared, h.active⟩
  | start prepared observation attempt hprepared hactive hfinished habandoned hvalid hallowed =>
    refine ⟨h.year, h.prepared, fun active hget => ?_⟩
    rcases Table.of_linkNew hget with hold | ⟨-, rfl, -⟩
    · exact h.active active hold
    · exact le_refl _
  | finish => exact ⟨h.year, h.prepared, h.active⟩
  | abandon => exact ⟨h.year, h.prepared, h.active⟩

/-- The clock matters only while nothing has closed the Run's process. -/
def OpenBefore (files : ProcessFiles) (run : String) (now : Instant) : Prop :=
  files.finished.get run = none → files.abandoned.get run = none → StampsBefore files run now

theorem OpenBefore.write (h : OpenBefore files run now)
    (hw : ProcessWrite ns run now allowed files files') : OpenBefore files' run now := by
  intro hfinished habandoned
  have hstamps : StampsBefore files run now := by
    cases hw with
    | prepare => exact h hfinished habandoned
    | lock => exact h hfinished habandoned
    | unlock => exact h hfinished habandoned
    | start => exact h hfinished habandoned
    | finish => exact h (Table.linkNew_grows.none hfinished) habandoned
    | abandon => exact h hfinished (Table.linkNew_grows.none habandoned)
  exact hstamps.write hw

theorem prepared_le_of_list {views : List ProcessView} (h : files.list ns = .ok views) :
    files.prepared.rows.length = views.length := by
  unfold ProcessFiles.list at h
  split at h
  · cases h
  · rw [Except.length_of_mapM h, Table.length_keys]

/-- **A write under such a clock keeps the journal readable.** -/
theorem ProcessReadable.write (h : ProcessReadable ns files) (hshape : ProcessShape files)
    (hbefore : OpenBefore files run now)
    (hsafe : ∀ observation, allowed observation → safeInteger observation.pid = true)
    (hw : ProcessWrite ns run now allowed files files') : ProcessReadable ns files' := by
  cases hw with
  | prepare identity attempt hrun hvalid hfree hroom =>
    obtain ⟨views, hlist, hcount⟩ := hroom
    obtain ⟨hactive, hfinished, habandoned⟩ := hshape.fresh hfree
    have hstamps := hbefore hfinished habandoned
    refine ⟨fun key prepared hget => ?_, fun key active hget => ?_, fun key terminal hget => ?_,
      fun key terminal hget => ?_, fun key hkey => isSome_linkNew (h.locks key hkey), ?_⟩
    · rcases Table.of_linkNew hget with hold | ⟨rfl, rfl, -⟩
      · exact h.prepared key prepared hold
      · simp [validPreparedRecord, hvalid, hstamps.year]
    · obtain ⟨prepared, hprepared, hsafe, hv⟩ := h.active key active hget
      exact ⟨prepared, Table.linkNew_grows key prepared hprepared, hsafe, hv⟩
    · obtain ⟨prepared, hprepared, hv⟩ := h.finished key terminal hget
      exact ⟨prepared, Table.linkNew_grows key prepared hprepared, hv⟩
    · obtain ⟨prepared, hprepared, hv⟩ := h.abandoned key terminal hget
      exact ⟨prepared, Table.linkNew_grows key prepared hprepared, hv⟩
    · -- there was room for one more
      have hrows := prepared_le_of_list hlist
      refine le_trans (Table.length_linkNew _ _ _ _) ?_
      omega
  | lock hprepared =>
    refine ⟨h.prepared, h.active, h.finished, h.abandoned, fun key hkey => ?_, h.bounded⟩
    rw [Table.get_put] at hkey
    split at hkey
    · rename_i heq
      exact heq ▸ hprepared
    · exact h.locks key hkey
  | unlock =>
    refine ⟨h.prepared, h.active, h.finished, h.abandoned, fun key hkey => ?_, h.bounded⟩
    rw [Table.get_remove] at hkey
    split at hkey
    · cases hkey
    · exact h.locks key hkey
  | start prepared observation attempt hprepared hactive hfinished habandoned hvalid hallowed =>
    have hstamps := hbefore hfinished habandoned
    refine ⟨h.prepared, fun key active hget => ?_, fun key terminal hget => ?_, h.abandoned,
      h.locks, h.bounded⟩
    · rcases Table.of_linkNew hget with hold | ⟨rfl, rfl, -⟩
      · exact h.active key active hold
      · refine ⟨prepared, hprepared, hsafe _ hallowed, ?_⟩
        simp [validActiveRecord, hvalid, hstamps.year, hstamps.prepared prepared hprepared]
    · obtain ⟨prepared', hprepared', hv, hclose⟩ := h.finished key terminal hget
      -- a Run without an active record has no finished one to keep
      have hne : key ≠ run := by
        rintro rfl
        rw [hactive] at hclose
        cases hclose
      refine ⟨prepared', hprepared', hv, ?_⟩
      show closesActive ns ((files.active.linkNew run _ attempt).1.get key) terminal = true
      rw [Table.linkNew_ne hne]
      exact hclose
  | finish prepared active attempt hprepared hactive hfinished habandoned =>
    have hstamps := hbefore hfinished habandoned
    refine ⟨h.prepared, h.active, fun key terminal hget => ?_, h.abandoned, h.locks, h.bounded⟩
    rcases Table.of_linkNew hget with hold | ⟨rfl, rfl, -⟩
    · exact h.finished key terminal hold
    · refine ⟨prepared, hprepared, ?_, ?_⟩
      · simp [validTerminalRecord, hstamps.year, hstamps.prepared prepared hprepared]
      · show closesActive ns (files.active.get _) _ = true
        rw [hactive]
        simp [closesActive, hstamps.active active hactive]
  | abandon prepared attempt hprepared hactive hfinished habandoned =>
    have hstamps := hbefore hfinished habandoned
    refine ⟨h.prepared, h.active, h.finished, fun key terminal hget => ?_, h.locks, h.bounded⟩
    rcases Table.of_linkNew hget with hold | ⟨rfl, rfl, -⟩
    · exact h.abandoned key terminal hold
    · refine ⟨prepared, hprepared, ?_, rfl⟩
      simp [validTerminalRecord, hstamps.year, hstamps.prepared prepared hprepared]

theorem ProcessReadable.writes (h : ProcessReadable ns files) (hshape : ProcessShape files)
    (hbefore : OpenBefore files run now)
    (hsafe : ∀ observation, allowed observation → safeInteger observation.pid = true)
    (hw : ProcessWrites ns run now allowed files files') : ProcessReadable ns files' := by
  suffices hall : ProcessReadable ns files' ∧ ProcessShape files' ∧ OpenBefore files' run now from
    hall.1
  induction hw with
  | refl => exact ⟨h, hshape, hbefore⟩
  | tail _ hlast ih =>
    obtain ⟨hreadable, hsh, hbef⟩ := ih
    exact ⟨hreadable.write hsh hbef hsafe hlast, hsh.write hlast, hbef.write hlast⟩

/-! ## Reading a readable journal -/

variable (hshape : ProcessShape files)

include hshape

/-- **Every prepared process reads back.** -/
theorem ProcessReadable.get_ok (h : ProcessReadable ns files) {prepared : ProcessPreparedRecord}
    (hprepared : files.prepared.get run = some prepared) :
    ∃ view, files.get ns run = .ok view := by
  refine ⟨{
    prepared := prepared
    preparedDigest := ns.digests.prepared prepared
    active := files.active.get run
    activeDigest := ((files.active.get run).map ns.digests.active).getD ""
    finished := files.finished.get run
    abandoned := files.abandoned.get run }, process_get_iff.mpr ?_⟩
  refine ⟨hprepared, h.prepared run prepared hprepared, rfl, rfl, fun active hget => ?_, rfl, rfl,
    fun terminal hget => ?_, rfl, fun terminal hget => ?_⟩
  · obtain ⟨prepared', hprepared', hv⟩ := h.active run active hget
    rw [hprepared] at hprepared'
    cases hprepared'
    exact hv
  · obtain ⟨prepared', hprepared', hv⟩ := h.finished run terminal hget
    rw [hprepared] at hprepared'
    cases hprepared'
    exact hv
  · obtain ⟨prepared', hprepared', hv, hempty⟩ := h.abandoned run terminal hget
    rw [hprepared] at hprepared'
    cases hprepared'
    have hget' : files.abandoned.get run = some terminal := hget
    have hsome : (files.abandoned.get run).isSome := by
      rw [hget']
      rfl
    refine ⟨?_, hv, (hshape.abandoned run hsome).2, hempty⟩
    by_contra hfinished
    exact hshape.closed_once run ⟨Option.isSome_iff_ne_none.mpr hfinished, hsome⟩

theorem ProcessReadable.stagesComplete (h : ProcessReadable ns files) :
    files.stagesComplete = true := by
  unfold ProcessFiles.stagesComplete
  rw [List.all_eq_true]
  intro key hkey
  simp only [List.mem_append, Table.mem_keys] at hkey
  rcases hkey with ((hkey | hkey) | hkey) | hkey
  · exact hshape.active key hkey
  · exact hshape.active key (hshape.finished key hkey)
  · exact (hshape.abandoned key hkey).1
  · exact h.locks key hkey

theorem ProcessReadable.entries_le (h : ProcessReadable ns files) :
    files.entries ≤ maxRuntimeAdmissions * 5 + files.pending := by
  have hactive : files.active.rows.length ≤ files.prepared.rows.length :=
    Table.length_le_of_keys hshape.active
  have hfinished : files.finished.rows.length ≤ files.active.rows.length :=
    Table.length_le_of_keys hshape.finished
  have habandoned : files.abandoned.rows.length ≤ files.prepared.rows.length :=
    Table.length_le_of_keys fun key hkey => (hshape.abandoned key hkey).1
  have hlocks : files.locks.rows.length ≤ files.prepared.rows.length :=
    Table.length_le_of_keys h.locks
  have hbounded := h.bounded
  unfold ProcessFiles.entries
  omega

/-- **A readable journal lists**, whatever sixteen writes that were cut short have left. -/
theorem ProcessReadable.list_ok (h : ProcessReadable ns files) (hpending : files.pending ≤ 16) :
    ∃ views, files.list ns = .ok views := by
  have hentries : ¬ maxRuntimeAdmissions * 5 + 16 < files.entries := by
    have hle := h.entries_le hshape
    omega
  unfold ProcessFiles.list
  rw [if_neg (by simp [hentries, h.stagesComplete hshape])]
  refine Except.exists_mapM fun key hkey => ?_
  obtain ⟨prepared, hprepared⟩ := Option.isSome_iff_exists.mp (Table.mem_keys.mp hkey)
  have hrun : prepared.identity.runId = key := by
    have hvalid := h.prepared key prepared hprepared
    unfold validPreparedRecord at hvalid
    simp only [Bool.and_eq_true, decide_eq_true_eq] at hvalid
    exact hvalid.1.1.1.2
  unfold ProcessFiles.listed
  rw [hprepared]
  dsimp only
  rw [if_pos hrun, hrun]
  exact h.get_ok hshape hprepared

end AgentRoom.Governed
