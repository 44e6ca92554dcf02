import AgentRoom.Bridge.InboxRefinement

/-!
# What a crash leaves of the inbox

An operation is cut after some of its steps on the files. Where a record is replaced,
removed or quarantined, every crash leaves the directory before the operation or the
one after it. A new record or tombstone is created in place, so between its creation
and its sync a crash may leave a file that does not decode, and one such record makes
`List` fail for every Run.
-/

namespace AgentRoom.Bridge

namespace Files

/-- What an operation may ask for on a directory that describes the inbox. -/
def Writes.Fits (inbox : Inbox) : Writes → Prop
  | writeNewRecord runId record | replaceRecord runId record =>
    record.runId = runId ∧ isContractRunID runId = true
  | quarantineRecord runId => (inbox.records.get runId).isSome
  | nothing | writeNewTombstone .. | removeTombstone _ => True

/-- **The crash point lies between the creation of a new file and its sync.** -/
def Writes.exposed : Writes → Nat → Prop
  | writeNewRecord .., k => k = 1 ∨ k = 2
  | writeNewTombstone .., k => k = 3 ∨ k = 4
  | _, _ => False

/-! ## What an operation asks for -/

/-- **The operation creates a file**: a first `Accept` of a Run, or a first `RecordCancellation`. -/
def Creates (d : Files) : InboxOp → Prop
  | .accept request =>
    isContractRunID request.runId = true ∧ isContractTraceID request.traceId = true ∧
      d.load request.runId = .error .notExist
  | .recordCancellation requested =>
    requested.protocolVersion = "1.0" ∧ isContractRunID requested.runId = true ∧
      isContractTraceID requested.traceId = true ∧ isContractAgentID requested.agentId = true ∧
      d.checkCancellation requested = .ok () ∧
      d.loadCancellationTombstone requested.runId = .error .notExist
  | _ => False

inductive Asks (d : Files) : InboxOp → Writes → Prop
  | nothing {op : InboxOp} (kept : ¬ Creates d op) : Asks d op .nothing
  | accepted {request : RunRequest} {record : Record} (new : Creates d (.accept request))
      (id : record.runId = request.runId) :
      Asks d (.accept request) (.writeNewRecord request.runId record)
  | stored {op : InboxOp} {runId : String} {old record : Record} (kept : ¬ Creates d op)
      (found : d.load runId = .ok old) (id : record.runId = old.runId) :
      Asks d op (.replaceRecord runId record)
  | canceled {requested : RunCancelRequest} {tombstone : CancellationTombstone}
      (new : Creates d (.recordCancellation requested)) :
      Asks d (.recordCancellation requested) (.writeNewTombstone requested.runId tombstone)
  | cleared {runId : String} : Asks d (.clearCancellation runId) (.removeTombstone runId)
  | quarantined {runId : String} (found : (d.read (.record runId)).isSome) :
      Asks d (.quarantineIncompatibleTrace runId) (.quarantineRecord runId)

section Asking

variable {config : Config} {d : Files} {writes : Writes}

theorem asks_of_load {α : Type} {op : InboxOp} {runId : String}
    {g : Record → Except Failure (α × Writes)} {result : α}
    (hok : (d.load runId >>= g) = .ok (result, writes))
    (hrest : ∀ record, d.load runId = .ok record → g record = .ok (result, writes) →
      Asks d op writes) : Asks d op writes := by
  rcases hload : d.load runId with e | record <;> rw [hload] at hok
  · cases hok
  · exact hrest record hload hok

theorem asks_accept {request : RunRequest} {result : Record × Bool}
    (hok : d.accept config request = .ok (result, writes)) : Asks d (.accept request) writes := by
  unfold accept at hok
  split at hok
  · cases hok
  next hrun =>
  split at hok
  · cases hok
  next htrace =>
  split at hok
  · next existing hload =>
    split at hok <;> cases hok
    refine .nothing fun hnew => ?_
    have habsent := hnew.2.2
    rw [hload] at habsent
    cases habsent
  · next hload =>
    cases hok
    exact .accepted ⟨by simpa using hrun, by simpa using htrace, hload⟩ rfl
  · cases hok

theorem asks_recordCancellation {requested : RunCancelRequest} {result : CancellationTombstone}
    (hok : d.recordCancellation requested = .ok (result, writes)) :
    Asks d (.recordCancellation requested) writes := by
  unfold recordCancellation at hok
  split at hok
  · cases hok
  next hvalid =>
  rcases hcheck : d.checkCancellation requested with e | u <;> rw [hcheck] at hok
  · cases hok
  simp only [bind, Except.bind] at hok
  split at hok
  · next existing hload =>
    split at hok <;> cases hok
    refine .nothing fun hnew => ?_
    have habsent := hnew.2.2.2.2.2
    rw [hload] at habsent
    cases habsent
  · next hload =>
    cases hok
    push Not at hvalid
    obtain ⟨hversion, hrun, htrace, hagent⟩ := hvalid
    exact .canceled ⟨hversion, by simpa using hrun, by simpa using htrace, by simpa using hagent,
      hcheck, hload⟩
  · cases hok

/-- An operation that succeeds asks for one of these. -/
theorem asks_of_onFiles (op : InboxOp) {result : op.Result}
    (hok : op.onFiles config d = .ok (result, writes)) : Asks d op writes := by
  cases op with
  | accept request => exact asks_accept hok
  | appendEvent runId state sequence message =>
    refine asks_of_load hok fun record hload hrest => ?_
    split at hrest
    · cases hrest
      exact .nothing id
    split at hrest
    · cases hrest
    · cases hrest
      exact .stored id hload rfl
  | appendSupplementalEvidence runId message =>
    refine asks_of_load hok fun record hload hrest => ?_
    split at hrest
    · cases hrest
    split at hrest
    · split at hrest <;> cases hrest
      exact .nothing id
    · split at hrest <;> cases hrest
      exact .stored id hload rfl
  -- calls that only read ask for nothing
  | list =>
    simp only [InboxOp.onFiles] at hok
    rcases hlist : d.list with e | records <;> rw [hlist] at hok <;> cases hok
    exact .nothing id
  | quarantineIncompatibleTrace runId =>
    simp only [InboxOp.onFiles, quarantineIncompatibleTrace] at hok
    split at hok
    · cases hok
    split at hok
    · cases hok
    · next hthere =>
      cases hok
      exact .quarantined (by simpa [Option.isSome_iff_ne_none] using hthere)
  | update runId state sequence =>
    refine asks_of_load hok fun record hload hrest => ?_
    split at hrest
    · cases hrest
      exact .nothing id
    · cases hrest
      exact .stored id hload rfl
  | transitionLocalState runId expected next =>
    refine asks_of_load hok fun record hload hrest => ?_
    split at hrest
    · cases hrest
    · cases hrest
      exact .stored id hload rfl
  | get runId =>
    simp only [InboxOp.onFiles] at hok
    rcases hload : d.load runId with e | record <;> rw [hload] at hok <;> cases hok
    exact .nothing id
  | recordCancellation requested => exact asks_recordCancellation hok
  | hasCancellation request =>
    simp only [InboxOp.onFiles, hasCancellation] at hok
    split at hok
    · cases hok
    split at hok
    · cases hok
      exact .nothing id
    · cases hok
    · split at hok <;> cases hok
      exact .nothing id
  | clearCancellation runId =>
    simp only [InboxOp.onFiles, clearCancellation] at hok
    split at hok
    · cases hok
    split at hok <;> cases hok
    · exact .nothing id
    · exact .cleared

theorem not_creates_of_error (op : InboxOp) {e : Failure}
    (herror : op.onFiles config d = .error e) : ¬ Creates d op := by
  intro hnew
  cases op with
  | accept request =>
    obtain ⟨hrun, htrace, hload⟩ := hnew
    simp [InboxOp.onFiles, accept, hrun, htrace, hload, pure, Except.pure] at herror
  | recordCancellation requested =>
    obtain ⟨hversion, hrun, htrace, hagent, hcheck, hload⟩ := hnew
    simp [InboxOp.onFiles, recordCancellation, hversion, hrun, htrace, hagent, hcheck, hload,
      bind, Except.bind, pure, Except.pure] at herror
  | _ => exact hnew

/-- **What an operation asks for**, whether it succeeds or fails. -/
theorem asks (config : Config) (d : Files) (op : InboxOp) : Asks d op (op.writes config d) := by
  unfold InboxOp.writes
  rcases hok : op.onFiles config d with e | ⟨result, writes⟩
  · exact .nothing (not_creates_of_error op hok)
  · exact asks_of_onFiles op hok

theorem Asks.fits {inbox : Inbox} (h : Describes d.read inbox) {op : InboxOp}
    (hasks : Asks d op writes) : writes.Fits inbox := by
  cases hasks with
  | nothing | canceled | cleared => trivial
  | accepted new id => exact ⟨id, new.1⟩
  | @stored _ runId old record _ found id =>
    rcases hget : inbox.records.get runId with _ | record'
    · rw [load_none h hget] at found
      cases found
    · rw [load_some h hget] at found
      cases found
      obtain ⟨hid, hvalid⟩ := h.keyed runId _ hget
      exact ⟨id.trans hid, hvalid⟩
  | quarantined found =>
    rw [h.records, Option.isSome_map] at found
    exact found

end Asking

/-! ## Crash points -/

section Crash

variable {d d' : Files} {inbox : Inbox} {spare : d.Spare} {writes : Writes}

/-- The steps on a disk safe at a crash point leave the inbox as it was or as it will be. -/
theorem describes_crash (hq : d.Quiet) (h : Describes d.read inbox) (hf : writes.Fits inbox)
    {k : Nat} (hk : ¬ writes.exposed k)
    (hc : Disk.Crashed .torn (d.run .torn ((writes.steps d spare).take k)) d') :
    Describes d'.read inbox ∨ Describes d'.read (writes.effect inbox) := by
  cases writes with
  | nothing =>
    have hsafe : Disk.Safe d (fun _ => False) (.record "") (d.read (.record "")) d := .refl hq
    simp only [Writes.steps, List.take_nil, Disk.run_nil] at hc
    left
    refine h.congr fun name _ => ?_
    rcases hsafe.crash hq hc id with hold | ⟨hname, hnew⟩
    · exact hold
    · rw [hnew, hname]
  | writeNewRecord runId record =>
    -- between creating a new file and its sync the name is exposed
    have hk' : k ≠ 1 ∧ k ≠ 2 := by simpa [Writes.exposed] using hk
    rcases (Disk.safe_writeNew hq hk').crash_split hq hc with hold | ⟨hnew, hrest⟩
    · exact .inl (h.congr fun name _ => hold name id)
    · exact .inr (h.put_record hf.1 hf.2 hnew fun name _ hne => hrest name id hne)
  | replaceRecord runId record =>
    have hne : (FileName.record runId) ≠ .temporary spare.val := by simp
    rcases (Disk.safe_replace hq hne k).crash_split hq hc with hold | ⟨hnew, hrest⟩
    · exact .inl (h.congr fun name hs => hold name fun ht => hs (by rw [ht]; trivial))
    · exact .inr (h.put_record hf.1 hf.2 hnew fun name hs hne =>
        hrest name (fun ht => hs (by rw [ht]; trivial)) hne)
  | writeNewTombstone runId tombstone =>
    have hk' : k - 1 - 1 ≠ 1 ∧ k - 1 - 1 ≠ 2 := by
      simp only [Writes.exposed, not_or] at hk
      omega
    unfold Writes.steps at hc
    -- the two steps on directories write no file
    rw [Disk.run_take_other, Disk.run_take_other] at hc
    rcases (Disk.safe_writeNew hq hk').crash_split hq hc with hold | ⟨hnew, hrest⟩
    · exact .inl (h.congr fun name _ => hold name id)
    · exact .inr (h.of_tombstone (fun _ => Table.get_put ..) hnew
        fun name _ hne => hrest name id hne)
  | removeTombstone runId =>
    rcases (Disk.safe_discard hq k).crash_split hq hc with hold | ⟨hnew, hrest⟩
    · exact .inl (h.congr fun name _ => hold name id)
    · exact .inr (h.of_tombstone (fun _ => Table.get_remove ..) hnew
        fun name _ hne => hrest name id hne)
  | quarantineRecord runId =>
    have hne : (FileName.record runId) ≠ .quarantined runId (d.freeSuffix runId) := by simp
    unfold Writes.steps at hc
    rw [Disk.run_take_other, Disk.run_take_other, Disk.run_take_other] at hc
    rcases (Disk.safe_setAside hq hne _).crash_split hq hc with hold | ⟨hnew, hrest⟩
    · exact .inl (h.congr fun name hs => hold name fun ht => hs (by rw [ht]; trivial))
    · exact .inr (h.remove_record hnew fun name hs hne =>
        hrest name (fun ht => hs (by rw [ht]; trivial)) hne)

/-- The steps, when nothing interrupts them, come to their effect on the inbox. -/
theorem describes_completed (hq : d.Quiet) (h : Describes d.read inbox) (hf : writes.Fits inbox) :
    Describes (d.run .torn (writes.steps d spare)).read (writes.effect inbox) := by
  cases writes with
  | nothing => exact h
  | writeNewRecord runId record =>
    have hsafe := @Disk.safe_writeNew _ _ _ .torn d inInbox (.record runId) (.record record) hq 5
      (by decide)
    exact h.put_record hf.1 hf.2 Disk.read_writeNew fun name _ hne =>
      hsafe.read_other hq id hne
  | replaceRecord runId record =>
    have hne : (FileName.record runId) ≠ .temporary spare.val := by simp
    have hsafe := @Disk.safe_replace _ _ _ .torn d inInbox _ (.record record) hq _ hne 8
    exact h.put_record hf.1 hf.2 (Disk.read_replace hne) fun name hs hne =>
      hsafe.read_other hq (fun ht => hs (by rw [ht]; trivial)) hne
  | writeNewTombstone runId tombstone =>
    have hsafe := @Disk.safe_writeNew _ _ _ .torn d inTombstones (.tombstone runId)
      (.tombstone tombstone) hq 5 (by decide)
    exact h.of_tombstone (fun _ => Table.get_put ..) Disk.read_writeNew
      fun name _ hne => hsafe.read_other hq id hne
  | removeTombstone runId =>
    have hsafe := @Disk.safe_discard _ FileContent _ .torn d inTombstones (.tombstone runId) hq 2
    exact h.of_tombstone (fun _ => Table.get_remove ..) Disk.read_discard
      fun name _ hne => hsafe.read_other hq id hne
  | quarantineRecord runId =>
    have hne : (FileName.record runId) ≠ .quarantined runId (d.freeSuffix runId) := by simp
    have hsafe := @Disk.safe_setAside _ FileContent _ .torn d inQuarantine _ hq _ hne inInbox 3
    have hthere : (d.names.get (.record runId)).isSome := by
      have hread : (d.read (.record runId)).isSome := by
        rw [h.records, Option.isSome_map]
        exact hf
      rwa [Disk.read, Option.isSome_map] at hread
    exact h.remove_record (Disk.read_setAside hne hthere) fun name hs hne =>
      hsafe.read_other hq (fun ht => hs (by rw [ht]; trivial)) hne

theorem quiet_completed (hq : d.Quiet) (writes : Writes) :
    (d.run .torn (writes.steps d spare)).Quiet := by
  cases writes with
  | nothing => exact hq
  | writeNewRecord runId record => exact Disk.quiet_writeNew hq rfl
  | replaceRecord runId record => exact Disk.quiet_replace hq (by simp) spare.property rfl
  | writeNewTombstone runId tombstone => exact Disk.quiet_writeNew hq rfl
  | removeTombstone runId => exact Disk.quiet_discard hq rfl
  | quarantineRecord runId => exact Disk.quiet_setAside hq rfl rfl

theorem not_loadable_of_torn (runId : String)
    (h : d.read (.record runId) = some .torn ∨ d.read (.tombstone runId) = some .torn) :
    ¬ d.Loadable := by
  intro hl
  obtain ⟨inbox, hd⟩ := describes_of_loadable hl
  rcases h with h | h
  · rw [hd.records] at h
    rcases hget : inbox.records.get runId with _ | record <;> rw [hget] at h <;> cases h
  · rw [hd.tombstones] at h
    rcases hget : inbox.tombstones.get runId with _ | tombstone <;> rw [hget] at h <;> cases h

/-- **At an exposed crash point the new file may be left torn.** -/
theorem exposed_torn {k : Nat} (hk : writes.exposed k) :
    ¬ Loadable ((d.run .torn ((writes.steps d spare).take k)).worst .torn) := by
  cases writes with
  | writeNewRecord runId record =>
    refine not_loadable_of_torn runId (.inl ?_)
    exact Disk.torn_writeNew hk
  | writeNewTombstone runId tombstone =>
    refine not_loadable_of_torn runId (.inr ?_)
    unfold Writes.steps
    rw [Disk.run_take_other, Disk.run_take_other]
    exact Disk.torn_writeNew (by unfold Writes.exposed at hk; omega)
  | nothing | replaceRecord | removeTombstone | quarantineRecord => exact hk.elim

end Crash

end Files

/-! ## Directories -/

/-- **A data directory between operations**: what it shows is on stable storage. -/
structure Directory where
  files : Files
  quiet : files.Quiet

namespace Directory

variable (config : Config)

/-- The directory `Open` makes. -/
def blank : Directory where
  files := { names := .empty, kept := fun _ => none, content := fun _ => .torn
             settled := fun _ => true, fresh := 0 }
  quiet := ⟨fun _ => rfl, fun _ _ => rfl, fun _ _ h => by cases h⟩

/-- The steps of an operation: none if it fails. -/
def steps (d : Directory) (op : InboxOp) (spare : d.files.Spare) :
    List (FileOp FileName FileContent) :=
  (op.writes config d.files).steps d.files spare

def after (d : Directory) (op : InboxOp) (spare : d.files.Spare) : Directory where
  files := d.files.run .torn (d.steps config op spare)
  quiet := Files.quiet_completed d.quiet _

/-- **What a crash may leave** when the operation is cut after `k` of its steps. -/
def Left (d : Directory) (op : InboxOp) (spare : d.files.Spare) (k : Nat) (d' : Directory) : Prop :=
  Disk.Crashed .torn (d.files.run .torn ((d.steps config op spare).take k)) d'.files

/-- The directory is loadable, and shows each Run's record and tombstone as one of the two others
does. -/
structure Intact (before after d : Directory) : Prop where
  loadable : d.files.Loadable
  record : ∀ runId, d.files.load runId = before.files.load runId ∨
    d.files.load runId = after.files.load runId
  tombstone : ∀ runId,
    d.files.loadCancellationTombstone runId = before.files.loadCancellationTombstone runId ∨
    d.files.loadCancellationTombstone runId = after.files.loadCancellationTombstone runId

/-- **The crash falls between the creation of a file and its sync.** -/
def Exposed (d : Directory) (op : InboxOp) (k : Nat) : Prop :=
  d.files.Creates op ∧
    match op with
    | .accept _ => k = 1 ∨ k = 2
    | .recordCancellation _ => k = 3 ∨ k = 4
    | _ => False

variable {config} {d : Directory} {op : InboxOp} {spare : d.files.Spare}

theorem exposed_iff {k : Nat} : (op.writes config d.files).exposed k ↔ d.Exposed op k := by
  have hasks := Files.asks config d.files op
  revert hasks
  generalize op.writes config d.files = writes
  intro hasks
  cases hasks with
  | nothing kept => exact ⟨False.elim, fun h => kept h.1⟩
  | accepted new => exact ⟨fun h => ⟨new, h⟩, fun h => h.2⟩
  | stored kept => exact ⟨False.elim, fun h => kept h.1⟩
  | canceled new => exact ⟨fun h => ⟨new, h⟩, fun h => h.2⟩
  | cleared => exact ⟨False.elim, fun h => h.1⟩
  | quarantined => exact ⟨False.elim, fun h => h.1⟩

/-- Two descriptions of one inbox read alike. -/
theorem intact_of_describes {before after d' : Directory} {inbox inbox' : Inbox}
    (hbefore : Describes before.files.read inbox) (hafter : Describes after.files.read inbox')
    (h : Describes d'.files.read inbox ∨ Describes d'.files.read inbox') :
    Intact before after d' := by
  have hload : ∀ {a b : Directory} {i : Inbox}, Describes a.files.read i →
      Describes b.files.read i → ∀ runId, a.files.load runId = b.files.load runId := by
    intro a b i ha hb runId
    unfold Files.load
    rw [ha.records, hb.records]
  have htombstone : ∀ {a b : Directory} {i : Inbox}, Describes a.files.read i →
      Describes b.files.read i → ∀ runId,
        a.files.loadCancellationTombstone runId = b.files.loadCancellationTombstone runId := by
    intro a b i ha hb runId
    unfold Files.loadCancellationTombstone
    rw [ha.tombstones, hb.tombstones]
  rcases h with h | h
  · exact ⟨Files.loadable_of_describes h, fun runId => .inl (hload h hbefore runId),
      fun runId => .inl (htombstone h hbefore runId)⟩
  · exact ⟨Files.loadable_of_describes h, fun runId => .inr (hload h hafter runId),
      fun runId => .inr (htombstone h hafter runId)⟩

/-- **Crash atomicity, and where it ends.** From a loadable directory every crash leaves each
record and each tombstone as before the operation or as after it, in a loadable directory, exactly
when the crash point does not lie between the creation of a new file and its sync. -/
theorem crash_atomic_iff (config : Config) (d : Directory) (hl : d.files.Loadable) (op : InboxOp)
    (spare : d.files.Spare) (k : Nat) :
    (∀ d', d.Left config op spare k d' → Intact d (d.after config op spare) d') ↔
      ¬ d.Exposed op k := by
  rw [← @exposed_iff config]
  constructor
  · intro hintact hexposed
    have hleft := Disk.crashed_worst FileContent.torn
      (d.files.run .torn ((d.steps config op spare).take k))
    have hquiet := hleft.quiet (Disk.numbered_run _ d.quiet.is_numbered)
    exact Files.exposed_torn hexposed (hintact ⟨_, hquiet⟩ hleft).loadable
  · intro hk d' hleft
    obtain ⟨inbox, hd⟩ := Files.describes_of_loadable hl
    have hf := (Files.asks config d.files op).fits hd
    exact intact_of_describes hd (Files.describes_completed d.quiet hd hf)
      (Files.describes_crash d.quiet hd hf hk hleft)

theorem blank_describes : Describes blank.files.read Inbox.empty :=
  ⟨fun _ => rfl, fun _ => rfl, fun _ _ h => by cases h⟩

/-- On a fresh directory the first record can be lost, but only between its creation and sync. -/
theorem blank_crash_atomic :
    (∀ d', blank.Left plainConfig (.accept sampleRequest) ⟨0, rfl⟩ 3 d' →
      Intact blank (blank.after plainConfig (.accept sampleRequest) ⟨0, rfl⟩) d') ↔
    ¬ blank.Exposed (.accept sampleRequest) 3 :=
  crash_atomic_iff plainConfig blank (Files.loadable_of_describes blank_describes)
    (.accept sampleRequest) ⟨0, rfl⟩ 3

/-- **Not every crash is atomic**: a first `Accept` cut after it created the record's file. -/
theorem not_crashAtomic :
    ¬ ∀ (config : Config) (d : Directory), d.files.Loadable → ∀ (op : InboxOp)
      (spare : d.files.Spare) (k : Nat) (d' : Directory),
        d.Left config op spare k d' → Intact d (d.after config op spare) d' := by
  intro h
  let spare : blank.files.Spare := ⟨0, rfl⟩
  have hexposed :
      (InboxOp.writes plainConfig (.accept sampleRequest) blank.files).exposed 1 :=
    exposed_iff.mpr ⟨⟨by decide +kernel, by decide +kernel, rfl⟩, .inl rfl⟩
  have hleft := Disk.crashed_worst FileContent.torn
    (blank.files.run .torn ((blank.steps plainConfig (.accept sampleRequest) spare).take 1))
  have hquiet := hleft.quiet (Disk.numbered_run _ blank.quiet.is_numbered)
  exact Files.exposed_torn hexposed
    (h plainConfig blank (Files.loadable_of_describes blank_describes) _ spare 1
      ⟨_, hquiet⟩ hleft).loadable

/-! ## Whole runs -/

/-- An operation runs to its end, or a crash cuts it. -/
inductive Event where
  | completed (op : InboxOp)
  | cut (op : InboxOp) (k : Nat)

/-- **The runs of a data directory.** -/
def runs (config : Config) : System Directory Event where
  init d := d = blank
  step
    | .completed op, d, d' => ∃ spare, d'.files = (d.after config op spare).files
    | .cut op k, d, d' => ∃ spare, d.Left config op spare k d'

/-- No crash falls between the creation of a file and its sync. -/
def Spared : Event → Directory → Prop
  | .completed _, _ => True
  | .cut op k, d => ¬ d.Exposed op k

end Directory

/-- The runs of an inbox without files. -/
def Inbox.runs (config : Config) : System Inbox InboxOp where
  init inbox := inbox = .empty
  step op inbox inbox' := inbox' = (op.run config inbox).2

/-- A spared directory describes an inbox that the operations reach, the ones that were cut having
happened or not. -/
theorem Directory.runs_describe {config : Config} {d : Directory}
    (h : ((Directory.runs config).restrict Directory.Spared).Reachable d) :
    ∃ inbox, (Inbox.runs config).Reachable inbox ∧ Describes d.files.read inbox := by
  refine System.invariant
    (fun d => ∃ inbox, (Inbox.runs config).Reachable inbox ∧ Describes d.files.read inbox)
    ?_ ?_ h
  · rintro d rfl
    exact ⟨.empty, System.reachable_init rfl, Directory.blank_describes⟩
  · rintro event d d' ⟨hspared, hstep⟩ ⟨inbox, hreach, hd⟩
    have heffect : ∀ op : InboxOp,
        (op.run config inbox).2 = (op.writes config d.files).effect inbox := by
      intro op
      rw [onFiles_refines hd op]
      unfold InboxOp.writes
      rcases op.onFiles config d.files with e | ⟨result, writes⟩ <;> rfl
    have hafter : ∀ op : InboxOp,
        (Inbox.runs config).Reachable ((op.writes config d.files).effect inbox) := fun op =>
      System.reachable_step hreach (heffect op).symm
    have hfits := fun op => (Files.asks config d.files op).fits hd
    cases event with
    | completed op =>
      obtain ⟨spare, hfiles⟩ := hstep
      refine ⟨_, hafter op, ?_⟩
      rw [hfiles]
      exact Files.describes_completed d.quiet hd (hfits op)
    | cut op k =>
      obtain ⟨spare, hleft⟩ := hstep
      have hk : ¬ (op.writes config d.files).exposed k := by
        rw [Directory.exposed_iff]
        exact hspared
      rcases Files.describes_crash d.quiet hd (hfits op) hk hleft with hold | hnew
      · exact ⟨inbox, hreach, hold⟩
      · exact ⟨_, hafter op, hnew⟩

/-- **A spared directory refines the inbox**: it describes an inbox that the operations reach, and
each operation answers on its files what it answers on that inbox and asks for the writes that
come to the same. -/
theorem Directory.runs_refine {config : Config} {d : Directory}
    (h : ((Directory.runs config).restrict Directory.Spared).Reachable d) :
    ∃ inbox, (Inbox.runs config).Reachable inbox ∧ Describes d.files.read inbox ∧
      ∀ op : InboxOp, op.run config inbox = Files.onInbox inbox (op.onFiles config d.files) := by
  obtain ⟨inbox, hreach, hd⟩ := Directory.runs_describe h
  exact ⟨inbox, hreach, hd, onFiles_refines hd⟩

/-- A first request is accepted. -/
theorem Directory.accepted_described :
    let d := blank.after plainConfig (.accept sampleRequest) ⟨0, rfl⟩
    ∃ inbox, (Inbox.runs plainConfig).Reachable inbox ∧ Describes d.files.read inbox ∧
      ∀ op : InboxOp, op.run plainConfig inbox =
        Files.onInbox inbox (op.onFiles plainConfig d.files) := by
  let event : Event := .completed (.accept sampleRequest)
  have hstep : ((Directory.runs plainConfig).restrict Directory.Spared).step event blank
      (blank.after plainConfig (.accept sampleRequest) ⟨0, rfl⟩) := ⟨trivial, ⟨0, rfl⟩, rfl⟩
  exact Directory.runs_refine (System.reachable_step (System.reachable_init rfl) hstep)

end AgentRoom.Bridge
