import AgentRoom.Governed.ProcessStore
import AgentRoom.Lib.Each

/-!
# What the process journal reads and writes

A Run that reads back has the records its view holds, each passing the check against
the ones before it. Every operation is about one Run and is a few single writes, and
each write finds the Run at the stage that the record it links follows.
-/

namespace AgentRoom.Governed

open Bridge (GovernedProcessIdentity isContractRunID isSha256Digest)

variable {ns : LocalNamespace} {files : ProcessFiles} {run : String} {view : ProcessView}

/-! ## Reading -/

/-- **The records of a Run**, as `get` accepts them, and the view it makes of them. -/
structure ProcessReads (ns : LocalNamespace) (files : ProcessFiles) (run : String)
    (view : ProcessView) : Prop where
  prepared : files.prepared.get run = some view.prepared
  validPrepared : validPreparedRecord ns run view.prepared = true
  preparedDigest : view.preparedDigest = ns.digests.prepared view.prepared
  active : files.active.get run = view.active
  validActive : ∀ active, view.active = some active →
    safeInteger active.observation.pid = true ∧
      validActiveRecord ns run view.prepared active = true
  activeDigest : view.activeDigest = (view.active.map ns.digests.active).getD ""
  finished : files.finished.get run = view.finished
  validFinished : ∀ terminal, view.finished = some terminal →
    validTerminalRecord ns run view.prepared terminal = true ∧
      closesActive ns view.active terminal = true
  abandoned : files.abandoned.get run = view.abandoned
  validAbandoned : ∀ terminal, view.abandoned = some terminal → view.finished = none ∧
    validTerminalRecord ns run view.prepared terminal = true ∧ view.active = none ∧
      terminal.activeDigest = ""

theorem readPrepared_iff {stored : Option ProcessPreparedRecord}
    {prepared : ProcessPreparedRecord} :
    readPrepared ns run stored = .ok prepared ↔
      stored = some prepared ∧ validPreparedRecord ns run prepared = true := by
  cases stored with
  | none => simp [readPrepared]
  | some found =>
    by_cases hvalid : validPreparedRecord ns run found = true
    · simp only [readPrepared, hvalid, if_true, Except.ok.injEq, Option.some.injEq]
      constructor
      · rintro rfl
        exact ⟨rfl, hvalid⟩
      · exact fun h => h.1
    · simp only [readPrepared, hvalid, reduceIte, Bool.false_eq_true, reduceCtorEq,
        Option.some.injEq, false_iff, not_and]
      rintro rfl
      exact hvalid

/-- Reading an optional record answers with it, or with an error. -/
theorem readOptional_iff {α : Type} {check : α → Bool} {stored result : Option α} :
    readOptional check stored = .ok result ↔
      stored = result ∧ ∀ record, result = some record → check record = true := by
  cases stored with
  | none =>
    constructor
    · intro h
      cases h
      exact ⟨rfl, nofun⟩
    · rintro ⟨rfl, -⟩
      rfl
  | some record =>
    by_cases hcheck : check record = true
    · simp only [readOptional, hcheck, if_true, Except.ok.injEq]
      constructor
      · rintro rfl
        refine ⟨rfl, fun found hfound => ?_⟩
        cases hfound
        exact hcheck
      · exact fun h => h.1
    · simp only [readOptional, hcheck, reduceIte, Bool.false_eq_true, reduceCtorEq, false_iff,
        not_and]
      rintro rfl
      exact fun h => hcheck (h record rfl)

/-- **What `get` reads.** -/
theorem process_get_iff : files.get ns run = .ok view ↔ ProcessReads ns files run view := by
  constructor
  · intro h
    unfold ProcessFiles.get at h
    split at h
    · cases h
    · -- the four files are read in turn, each checked against those before it
      cases hp : readPrepared ns run (files.prepared.get run) with
      | error e =>
        rw [hp] at h
        cases h
      | ok prepared =>
        rw [hp] at h
        simp only [bind, Except.bind] at h
        cases ha : readActive ns run prepared (files.active.get run) with
        | error e =>
          rw [ha] at h
          cases h
        | ok active =>
          rw [ha] at h
          dsimp only at h
          cases hf : readFinished ns run prepared active (files.finished.get run) with
          | error e =>
            rw [hf] at h
            cases h
          | ok finished =>
            rw [hf] at h
            dsimp only at h
            cases hb : readAbandoned ns run prepared active finished
                (files.abandoned.get run) with
            | error e =>
              rw [hb] at h
              cases h
            | ok abandoned =>
              rw [hb] at h
              cases h
              obtain ⟨hprepared, hvalid⟩ := readPrepared_iff.mp hp
              obtain ⟨hactive, hvalidActive⟩ := readOptional_iff.mp ha
              obtain ⟨hfinished, hvalidFinished⟩ := readOptional_iff.mp hf
              obtain ⟨habandoned, hvalidAbandoned⟩ := readOptional_iff.mp hb
              refine ⟨hprepared, hvalid, rfl, hactive, fun a h => ?_, rfl, hfinished,
                fun t h => ?_, habandoned, fun t h => ?_⟩
              · exact Bool.and_eq_true_iff.mp (hvalidActive a h)
              · exact Bool.and_eq_true_iff.mp (hvalidFinished t h)
              · have hall := hvalidAbandoned t h
                simp only [Bool.and_eq_true, decide_eq_true_eq] at hall
                exact ⟨hall.1.1.1, hall.1.1.2, hall.1.2, hall.2⟩
  · intro h
    -- the prepared record names the Run, so its id is well formed
    have hrun : isContractRunID run = true := by
      have hvalid := h.validPrepared
      unfold validPreparedRecord validGovernedProcessIdentity at hvalid
      simp only [Bool.and_eq_true, decide_eq_true_eq] at hvalid
      obtain ⟨⟨⟨⟨-, hrun⟩, ⟨⟨hid, -⟩, -⟩⟩, -⟩, -⟩ := hvalid
      rw [hrun] at hid
      exact hid
    have hp : readPrepared ns run (files.prepared.get run) = .ok view.prepared :=
      readPrepared_iff.mpr ⟨h.prepared, h.validPrepared⟩
    have ha : readActive ns run view.prepared (files.active.get run) = .ok view.active :=
      readOptional_iff.mpr ⟨h.active, fun a hget => Bool.and_eq_true_iff.mpr (h.validActive a hget)⟩
    have hf : readFinished ns run view.prepared view.active (files.finished.get run) =
        .ok view.finished :=
      readOptional_iff.mpr
        ⟨h.finished, fun t hget => Bool.and_eq_true_iff.mpr (h.validFinished t hget)⟩
    have hb : readAbandoned ns run view.prepared view.active view.finished
        (files.abandoned.get run) = .ok view.abandoned := by
      refine readOptional_iff.mpr ⟨h.abandoned, fun t hget => ?_⟩
      obtain ⟨hnone, hvalid, hactive, hempty⟩ := h.validAbandoned t hget
      simp [hnone, hvalid, hactive, hempty]
    unfold ProcessFiles.get
    rw [if_neg (by simp [hrun]), hp]
    simp only [bind, Except.bind, ha, hf, hb, ← h.preparedDigest, ← h.activeDigest]
    rfl

theorem get_unprepared (hrun : isContractRunID run = true)
    (h : files.prepared.get run = none) : files.get ns run = .error .notExist := by
  simp [ProcessFiles.get, hrun, h, readPrepared, bind, Except.bind]

/-- Only a Run that was never prepared is missing. -/
theorem unprepared_of_get (h : files.get ns run = .error .notExist) :
    files.prepared.get run = none := by
  have hoptional : ∀ {α : Type} (check : α → Bool) (stored : Option α),
      readOptional check stored ≠ .error .notExist := by
    intro α check stored hread
    cases stored with
    | none => cases hread
    | some record =>
      simp only [readOptional] at hread
      split at hread
      · cases hread
      · cases hread
  cases hstored : files.prepared.get run with
  | none => rfl
  | some stored =>
    exfalso
    unfold ProcessFiles.get at h
    rw [hstored] at h
    split at h
    · cases h
    · simp only [readPrepared, bind, Except.bind] at h
      split at h
      · rename_i hread
        split at hread
        · cases hread
        · cases hread
          cases h
      · rename_i prepared hread
        cases ha : readActive ns run prepared (files.active.get run) with
        | error e =>
          rw [ha] at h
          cases h
          exact hoptional _ _ ha
        | ok active =>
          rw [ha] at h
          dsimp only at h
          cases hf : readFinished ns run prepared active (files.finished.get run) with
          | error e =>
            rw [hf] at h
            cases h
            exact hoptional _ _ hf
          | ok finished =>
            rw [hf] at h
            dsimp only at h
            cases hb : readAbandoned ns run prepared active finished
                (files.abandoned.get run) with
            | error e =>
              rw [hb] at h
              cases h
              exact hoptional _ _ hb
            | ok abandoned =>
              rw [hb] at h
              cases h

/-! ## Writing -/

/-- **One write for a Run.** Each constructor has the stage at which the operations make it;
`allowed` are the observations that may be recorded. -/
inductive ProcessWrite (ns : LocalNamespace) (run : String) (now : Instant)
    (allowed : ProcessObservation → Prop) : ProcessFiles → ProcessFiles → Prop
  | prepare (files : ProcessFiles) (identity : GovernedProcessIdentity) (attempt : LinkAttempt) :
      identity.runId = run → validGovernedProcessIdentity identity = true →
      files.prepared.get run = none →
      (∃ views, files.list ns = .ok views ∧ views.length < maxRuntimeAdmissions) →
      ProcessWrite ns run now allowed files (files.writePrepared
        { version := 1, owner := ns.owner, identity := identity
          lockDigest := governedProcessLockDigest ns identity, preparedAt := now } attempt).1
  | lock (files : ProcessFiles) : (files.prepared.get run).isSome →
      ProcessWrite ns run now allowed files { files with locks := files.locks.put run () }
  | unlock (files : ProcessFiles) :
      ProcessWrite ns run now allowed files { files with locks := files.locks.remove run }
  | start (files : ProcessFiles) (prepared : ProcessPreparedRecord)
      (observation : ProcessObservation) (attempt : LinkAttempt) :
      files.prepared.get run = some prepared → files.active.get run = none →
      files.finished.get run = none → files.abandoned.get run = none →
      validGovernedProcessObservation ns.platform observation = true → allowed observation →
      ProcessWrite ns run now allowed files (files.writeActive
        { version := 2, runId := run, preparedDigest := ns.digests.prepared prepared
          observation := observation, startedAt := now } attempt).1
  | finish (files : ProcessFiles) (prepared : ProcessPreparedRecord)
      (active : ProcessActiveRecord) (attempt : LinkAttempt) :
      files.prepared.get run = some prepared → files.active.get run = some active →
      files.finished.get run = none → files.abandoned.get run = none →
      ProcessWrite ns run now allowed files (files.writeFinished
        { version := 3, runId := run, preparedDigest := ns.digests.prepared prepared
          activeDigest := ns.digests.active active, closedAt := now } attempt).1
  | abandon (files : ProcessFiles) (prepared : ProcessPreparedRecord) (attempt : LinkAttempt) :
      files.prepared.get run = some prepared → files.active.get run = none →
      files.finished.get run = none → files.abandoned.get run = none →
      ProcessWrite ns run now allowed files (files.writeAbandoned
        { version := 3, runId := run, preparedDigest := ns.digests.prepared prepared
          activeDigest := "", closedAt := now } attempt).1

/-- What an operation writes for its Run. -/
abbrev ProcessWrites (ns : LocalNamespace) (run : String) (now : Instant)
    (allowed : ProcessObservation → Prop) : ProcessFiles → ProcessFiles → Prop :=
  Relation.ReflTransGen (ProcessWrite ns run now allowed)

section Operations

variable {now : Instant} {allowed : ProcessObservation → Prop}

theorem ProcessReads.open (h : ProcessReads ns files run view) (hopen : ¬ view.terminal = true) :
    files.finished.get run = none ∧ files.abandoned.get run = none := by
  unfold ProcessView.terminal at hopen
  rw [Bool.or_eq_true, not_or, Option.not_isSome_iff_eq_none,
    Option.not_isSome_iff_eq_none] at hopen
  exact ⟨h.finished.trans hopen.1, h.abandoned.trans hopen.2⟩

theorem ProcessReads.runId (h : ProcessReads ns files run view) :
    view.prepared.identity.runId = run := by
  have hvalid := h.validPrepared
  unfold validPreparedRecord at hvalid
  simp only [Bool.and_eq_true, decide_eq_true_eq] at hvalid
  exact hvalid.1.1.1.2

theorem removeLock_writes (files : ProcessFiles) (gone heard : Bool) :
    ProcessWrites ns run now allowed files (files.removeLock run gone heard).1 := by
  unfold ProcessFiles.removeLock
  split
  · exact .refl
  · split
    · exact .single (.unlock files)
    · exact .refl

/-- A Run that reads as prepared only is abandoned. -/
theorem abandonAndUnlock_writes (h : ProcessReads ns files run view)
    (hactive : view.active = none) (hopen : ¬ view.terminal = true) (attempt : CloseAttempt) :
    ProcessWrites ns run now allowed files
      (abandonAndUnlock ns files view.prepared now attempt).1 := by
  obtain ⟨hfinished, habandoned⟩ := h.open hopen
  have hwrite : ProcessWrite ns run now allowed files
      (abandonPrepared ns files view.prepared now attempt.record).1 := by
    have hrun := h.runId
    unfold abandonPrepared
    rw [hrun]
    exact .abandon files view.prepared attempt.record h.prepared (h.active.trans hactive)
      hfinished habandoned
  unfold abandonAndUnlock
  dsimp only
  split
  · rw [h.runId]
    exact .head hwrite (removeLock_writes _ _ _)
  · exact .single hwrite

/-- A Run that reads as active is finished. -/
theorem finishActive_writes (h : ProcessReads ns files run view) {active : ProcessActiveRecord}
    (hactive : view.active = some active) (hopen : ¬ view.terminal = true)
    (attempt : CloseAttempt) :
    ProcessWrites ns run now allowed files (finishActive files view now attempt).1 := by
  obtain ⟨hfinished, habandoned⟩ := h.open hopen
  have hdigest : view.activeDigest = ns.digests.active active := by
    rw [h.activeDigest, hactive]
    rfl
  unfold finishActive
  rw [h.runId, h.preparedDigest, hdigest]
  have hwrite : ProcessWrite ns run now allowed files
      (files.writeFinished
        { version := 3, runId := run, preparedDigest := ns.digests.prepared view.prepared
          activeDigest := ns.digests.active active, closedAt := now } attempt.record).1 :=
    .finish files view.prepared active attempt.record h.prepared (h.active.trans hactive) hfinished
      habandoned
  dsimp only
  split
  · exact .head hwrite (removeLock_writes _ _ _)
  · exact .single hwrite

theorem startLease_writes (ns : LocalNamespace) (files : ProcessFiles) (lease : ProcessLease)
    (observation : ProcessObservation) (now : Instant) (attempt : LinkAttempt) :
    ProcessWrites ns lease.identity.runId now (· = observation) files
      (startLease ns files lease observation now attempt).1 := by
  unfold startLease
  split
  · exact .refl
  · rename_i hvalid
    rw [Bool.not_eq_false] at hvalid
    split
    · exact .refl
    · rename_i view hget
      split
      · exact .refl
      · rename_i hguard
        simp only [not_or, not_not] at hguard
        obtain ⟨-, hdigest, hactive, hopen⟩ := hguard
        have hreads := process_get_iff.mp hget
        obtain ⟨hfinished, habandoned⟩ := hreads.open hopen
        rw [← hdigest, hreads.preparedDigest]
        exact .single (.start files view.prepared observation attempt hreads.prepared
          (hreads.active.trans hactive) hfinished habandoned hvalid rfl)

theorem finishBegin_writes (ns : LocalNamespace) (files : ProcessFiles) (lease : ProcessLease)
    (observation : ProcessObservation) (attempt : CloseAttempt) :
    ProcessWrites ns lease.identity.runId now allowed files
      (finishBegin ns files lease observation now attempt).1 := by
  unfold finishBegin
  split
  · exact .refl
  · rename_i view hget
    split
    · exact .refl
    · split
      · exact .refl
      · rename_i hopen
        split
        · rename_i hactive
          exact abandonAndUnlock_writes (process_get_iff.mp hget) hactive hopen attempt
        · split
          · exact .refl
          · exact .refl

theorem finishEnd_writes (ns : LocalNamespace) (files : ProcessFiles) (lease : ProcessLease)
    (observation : ProcessObservation) (attempt : CloseAttempt) :
    ProcessWrites ns lease.identity.runId now allowed files
      (finishEnd ns files lease observation now attempt).1 := by
  unfold finishEnd
  split
  · exact .refl
  · rename_i view hget
    split
    · exact .refl
    · rename_i hguard
      simp only [not_or, not_not, Option.map_eq_some_iff] at hguard
      obtain ⟨-, -, active, hactive, -⟩ := hguard
      split
      · exact .refl
      · rename_i hopen
        exact finishActive_writes (process_get_iff.mp hget) hactive hopen attempt

theorem abandonLease_writes (ns : LocalNamespace) (files : ProcessFiles) (lease : ProcessLease)
    (attempt : CloseAttempt) :
    ProcessWrites ns lease.identity.runId now allowed files
      (abandonLease ns files lease now attempt).1 := by
  unfold abandonLease
  split
  · exact .refl
  · rename_i view hget
    split
    · exact .refl
    · rename_i hguard
      simp only [not_or, not_not] at hguard
      split
      · exact removeLock_writes _ _ _
      · rename_i hopen
        exact abandonAndUnlock_writes (process_get_iff.mp hget) hguard.2.2 hopen attempt

theorem fencePrepared_writes (ns : LocalNamespace) (files : ProcessFiles)
    (identity : GovernedProcessIdentity) (attempt : CloseAttempt) :
    ProcessWrites ns identity.runId now allowed files
      (fencePrepared ns files identity now attempt).1 := by
  unfold fencePrepared
  split
  · exact .refl
  · rename_i current hget
    split
    · exact .refl
    · rename_i hguard
      simp only [not_or, not_not] at hguard
      exact abandonAndUnlock_writes (process_get_iff.mp hget) hguard.2.1 hguard.2.2 attempt

theorem fenceActive_writes (ns : LocalNamespace) (files : ProcessFiles)
    (identity : GovernedProcessIdentity) (observation : ProcessObservation)
    (attempt : CloseAttempt) :
    ProcessWrites ns identity.runId now allowed files
      (fenceActive ns files identity observation now attempt).1 := by
  unfold fenceActive
  split
  · exact .refl
  · rename_i current hget
    split
    · exact .refl
    · rename_i hguard
      simp only [not_or, not_not, Option.map_eq_some_iff] at hguard
      obtain ⟨-, active, hactive, -⟩ := hguard
      split
      · exact .refl
      · rename_i hopen
        exact finishActive_writes (process_get_iff.mp hget) hactive hopen attempt

/-- **No record without a prepared one**, and one way at most to close a process. -/
structure ProcessShape (files : ProcessFiles) : Prop where
  active : ∀ run, (files.active.get run).isSome → (files.prepared.get run).isSome
  finished : ∀ run, (files.finished.get run).isSome → (files.active.get run).isSome
  abandoned : ∀ run, (files.abandoned.get run).isSome →
    (files.prepared.get run).isSome ∧ files.active.get run = none

/-- The files of a Run that has no prepared record. -/
theorem ProcessShape.fresh (h : ProcessShape files) (hprepared : files.prepared.get run = none) :
    files.active.get run = none ∧ files.finished.get run = none ∧
      files.abandoned.get run = none := by
  have hactive : files.active.get run = none := by
    by_contra hsome
    have hp := h.active run (Option.isSome_iff_ne_none.mpr hsome)
    rw [hprepared] at hp
    cases hp
  refine ⟨hactive, ?_, ?_⟩
  · by_contra hsome
    have ha := h.finished run (Option.isSome_iff_ne_none.mpr hsome)
    rw [hactive] at ha
    cases ha
  · by_contra hsome
    have hp := (h.abandoned run (Option.isSome_iff_ne_none.mpr hsome)).1
    rw [hprepared] at hp
    cases hp

theorem prepareProcess_writes (hshape : ProcessShape files) (identity : GovernedProcessIdentity)
    (attempt : LinkAttempt) (lock : LockAttempt) :
    ProcessWrites ns identity.runId now allowed files
      (prepareProcess ns files identity now attempt lock).1 := by
  unfold prepareProcess
  split
  · exact .refl
  · rename_i hvalid
    rw [Bool.not_eq_false] at hvalid
    split
    · exact .refl
    · rename_i hget
      split
      · exact .refl
      · rename_i views hlist
        split
        · exact .refl
        · rename_i hcount
          rw [not_le] at hcount
          -- no record can be read, so there is none
          have hfree := unprepared_of_get hget
          obtain ⟨hactive, hfinished, habandoned⟩ := hshape.fresh hfree
          set record : ProcessPreparedRecord :=
            { version := 1, owner := ns.owner, identity := identity
              lockDigest := governedProcessLockDigest ns identity, preparedAt := now } with hrecord
          have hwrite : ProcessWrite ns identity.runId now allowed files
              (files.writePrepared record attempt).1 :=
            .prepare files identity attempt rfl hvalid hfree ⟨views, hlist, hcount⟩
          dsimp only
          split
          · exact .single hwrite
          · rename_i hstored
            rw [Bool.not_eq_false] at hstored
            have hprepared :
                (files.writePrepared record attempt).1.prepared.get identity.runId =
                  some record := (Table.linkNew_stored hstored).2
            -- the lock follows its record
            have hlock : ProcessWrite ns identity.runId now allowed
                (files.writePrepared record attempt).1
                { (files.writePrepared record attempt).1 with
                  locks := (files.writePrepared record attempt).1.locks.put identity.runId () } :=
              .lock _ (by rw [hprepared]; rfl)
            split
            · exact .head hwrite (.single hlock)
            · rename_i left abandon
              cases left with
              | true =>
                refine .head hwrite (.head hlock (.single ?_))
                exact .abandon _ record abandon hprepared hactive hfinished habandoned
              | false =>
                refine .head hwrite (.single ?_)
                exact .abandon _ record abandon hprepared hactive hfinished habandoned
            · rename_i created
              cases created with
              | true => exact .head hwrite (.single hlock)
              | false => exact .single hwrite
    · exact .refl

theorem prepareProcess_replay {identity : GovernedProcessIdentity} {attempt : LinkAttempt}
    {lock : LockAttempt} (h : (files.prepared.get identity.runId).isSome) :
    (prepareProcess ns files identity now attempt lock).1 = files := by
  unfold prepareProcess
  split
  · rfl
  · split
    · rfl
    · rename_i hget
      rw [unprepared_of_get hget] at h
      cases h
    · rfl

theorem startLease_replay {lease : ProcessLease} {observation : ProcessObservation}
    {attempt : LinkAttempt} (h : files.active.get lease.identity.runId ≠ none) :
    (startLease ns files lease observation now attempt).1 = files := by
  unfold startLease
  split
  · rfl
  · split
    · rfl
    · rename_i view hget
      rw [if_pos]
      exact .inr (.inr (.inl fun hnone => h ((process_get_iff.mp hget).active.trans hnone)))

end Operations

end AgentRoom.Governed
