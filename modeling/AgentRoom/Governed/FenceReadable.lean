import AgentRoom.Governed.RuntimeFence
import AgentRoom.Lib.Each

/-!
# What the admission journal reads and writes

A Run that reads back has its records in order, one of three shapes. An operation
links at most one record a Run, and the guards it passed say which.

Readable is what every record must be for `get` and `list` to accept it: each passes
the check that reading makes against the records before it. A write keeps the
journal readable when its stamp is a four-digit year and not before the stamp of the
record it follows.
-/

namespace AgentRoom.Governed

open Bridge (RuntimeAdmissionSpec RuntimeOutcome validRuntimeAdmissionSpec validRuntimeOutcome
  isContractRunID isSha256Digest)

section Records

variable {ns : LocalNamespace} {files : FenceFiles} {run : String} {view : AdmissionView}

/-! ## Reading -/

/-- The records of a Run, as `get` accepts them, and the view it makes of them. -/
inductive FenceReads (ns : LocalNamespace) (files : FenceFiles) (run : String) :
    AdmissionView → Prop
  | claimed (claim : RuntimeAdmissionRecord) :
      files.claimed.get run = some claim → canonicalSpec claim.spec = true →
      validClaimRecord ns run claim = true → files.starting.get run = none →
      files.stopped.get run = none → FenceReads ns files run (claimedView ns claim)
  | starting (claim : RuntimeAdmissionRecord) (start : RuntimeStartRecord) :
      files.claimed.get run = some claim → canonicalSpec claim.spec = true →
      validClaimRecord ns run claim = true → files.starting.get run = some start →
      validStartRecord run (claimedView ns claim) start = true →
      files.stopped.get run = none →
      FenceReads ns files run ((claimedView ns claim).started ns start)
  | stopped (claim : RuntimeAdmissionRecord) (start : RuntimeStartRecord)
      (stop : RuntimeStopRecord) :
      files.claimed.get run = some claim → canonicalSpec claim.spec = true →
      validClaimRecord ns run claim = true → files.starting.get run = some start →
      validStartRecord run (claimedView ns claim) start = true →
      files.stopped.get run = some stop →
      validStopRecord run ((claimedView ns claim).started ns start) stop = true →
      FenceReads ns files run (((claimedView ns claim).started ns start).closed stop)

theorem runId_of_validClaim {claim : RuntimeAdmissionRecord}
    (h : validClaimRecord ns run claim = true) :
    claim.spec.runId = run ∧ isContractRunID run = true := by
  unfold validClaimRecord at h
  simp only [Bool.and_eq_true, decide_eq_true_eq] at h
  obtain ⟨⟨⟨⟨-, -⟩, hrun⟩, hspec⟩, -⟩ := h
  refine ⟨hrun, ?_⟩
  unfold validRuntimeAdmissionSpec Bridge.validSpecIdentities at hspec
  simp only [Bool.and_eq_true] at hspec
  have hid : isContractRunID claim.spec.runId = true := by tauto
  rw [hrun] at hid
  exact hid

/-- **What `get` reads.** -/
theorem get_iff : files.get ns run = .ok view ↔ FenceReads ns files run view := by
  constructor
  · intro h
    unfold FenceFiles.get at h
    split at h
    · cases h
    · -- the claim, then the start, then the stop: each may be missing or refused
      cases hclaim : files.claimed.get run with
      | none =>
        rw [hclaim] at h
        cases h
      | some claim =>
        rw [hclaim] at h
        by_cases hvalid : (canonicalSpec claim.spec && validClaimRecord ns run claim) = true
        · rw [readClaim, if_pos hvalid] at h
          obtain ⟨hcanonical, hclaimed⟩ := Bool.and_eq_true_iff.mp hvalid
          cases hstart : files.starting.get run with
          | none =>
            rw [hstart] at h
            cases hstop : files.stopped.get run with
            | none =>
              rw [hstop] at h
              cases h
              exact .claimed claim hclaim hcanonical hclaimed hstart hstop
            | some stop =>
              rw [hstop] at h
              cases h
          | some start =>
            rw [hstart] at h
            by_cases hs : validStartRecord run (claimedView ns claim) start = true
            · cases hstop : files.stopped.get run with
              | none =>
                rw [hstop] at h
                simp only [readStart, hs, if_true, readStop, bind, Except.bind,
                  Except.ok.injEq] at h
                subst h
                exact .starting claim start hclaim hcanonical hclaimed hstart hs hstop
              | some stop =>
                rw [hstop] at h
                simp only [readStart, hs, if_true, readStop, bind, Except.bind] at h
                split at h
                · rename_i hvalidStop
                  simp only [Except.ok.injEq] at h
                  subst h
                  exact .stopped claim start stop hclaim hcanonical hclaimed hstart hs hstop
                    hvalidStop
                · cases h
            · simp [readStart, hs, bind, Except.bind] at h
        · rw [readClaim, if_neg hvalid] at h
          cases h
  · intro h
    -- each way to read has its files
    cases h with
    | claimed claim hclaim hcanonical hvalid hstart hstop =>
      have hrun := (runId_of_validClaim hvalid).2
      simp [FenceFiles.get, hrun, hclaim, hstart, hstop, readClaim, readStart, readStop,
        hcanonical, hvalid, bind, Except.bind]
    | starting claim start hclaim hcanonical hvalid hstart hs hstop =>
      have hrun := (runId_of_validClaim hvalid).2
      simp [FenceFiles.get, hrun, hclaim, hstart, hstop, readClaim, readStart, readStop,
        hcanonical, hvalid, hs, bind, Except.bind]
    | stopped claim start stop hclaim hcanonical hvalid hstart hs hstop hst =>
      have hrun := (runId_of_validClaim hvalid).2
      simp [FenceFiles.get, hrun, hclaim, hstart, hstop, readClaim, readStart, readStop,
        hcanonical, hvalid, hs, hst, bind, Except.bind]

theorem get_unclaimed (hrun : isContractRunID run = true) (h : files.claimed.get run = none) :
    files.get ns run = .error .notExist := by
  simp [FenceFiles.get, hrun, h, readClaim, bind, Except.bind]

theorem readClaim_some_ne (claim : RuntimeAdmissionRecord) :
    readClaim ns run (some claim) ≠ .error .notExist := by
  intro h
  simp only [readClaim] at h
  split at h
  · cases h
  · cases h

theorem readStart_ne (start : Option RuntimeStartRecord) :
    readStart ns run view start ≠ .error .notExist := by
  intro h
  unfold readStart at h
  split at h
  · cases h
  · split at h
    · cases h
    · cases h

theorem readStop_ne (stop : Option RuntimeStopRecord) :
    readStop run view stop ≠ .error .notExist := by
  intro h
  unfold readStop at h
  split at h
  · cases h
  · split at h
    · cases h
    · cases h

/-- Only a Run that was never claimed is missing. -/
theorem unclaimed_of_get (h : files.get ns run = .error .notExist) :
    files.claimed.get run = none := by
  cases hclaim : files.claimed.get run with
  | none => rfl
  | some claim =>
    exfalso
    unfold FenceFiles.get at h
    rw [hclaim] at h
    split at h
    · cases h
    · cases hread : readClaim ns run (some claim) with
      | error e =>
        rw [hread] at h
        cases h
        exact readClaim_some_ne claim hread
      | ok claimed =>
        rw [hread] at h
        cases hstart : readStart ns run claimed (files.starting.get run) with
        | error e =>
          have herror : (Except.error e : Except AdmissionError AdmissionView) =
              .error .notExist := by
            simpa [bind, Except.bind, hstart] using h
          cases herror
          exact readStart_ne _ hstart
        | ok started =>
          have hstop : readStop run started (files.stopped.get run) =
              .error .notExist := by
            simpa [bind, Except.bind, hstart] using h
          exact readStop_ne _ hstop

/-! ## Writing -/

/-- **What `Claim` writes**, if anything. -/
structure ClaimWrites (ns : LocalNamespace) (files : FenceFiles) (spec : RuntimeAdmissionSpec)
    (now : Instant) (attempt : LinkAttempt) (files' : FenceFiles) : Prop where
  valid : validRuntimeAdmissionSpec ns.governance spec = true
  device : spec.deviceId = ns.owner.deviceId
  unclaimed : files.claimed.get spec.runId = none
  current : runtimeAdmissionCurrent ns spec now = true
  room : ∃ views, files.list ns = .ok views ∧ views.length < maxRuntimeAdmissions ∧
    ∀ existing ∈ views, collides existing.spec spec = false
  result : files' = (files.writeClaim
    { version := 1, owner := ns.owner, spec := spec, claimedAt := now } attempt).1

theorem claim_cases (ns : LocalNamespace) (files : FenceFiles) (spec : RuntimeAdmissionSpec)
    (now : Instant) (attempt : LinkAttempt) :
    (claim ns files spec now attempt).1 = files ∨
      ClaimWrites ns files spec now attempt (claim ns files spec now attempt).1 := by
  unfold claim
  split
  · exact .inl rfl
  · rename_i hinvalid
    obtain ⟨hvalid, -⟩ := not_or.mp hinvalid
    rw [Bool.not_eq_false] at hvalid
    split
    · exact .inl rfl
    · rename_i hdevice
      rw [not_not] at hdevice
      split
      · exact .inl rfl
      · rename_i hget
        split
        · exact .inl rfl
        · rename_i hcurrent
          rw [Bool.not_eq_false] at hcurrent
          split
          · exact .inl rfl
          · rename_i views hlist
            split
            · exact .inl rfl
            · rename_i hroom
              obtain ⟨hcount, hcollides⟩ := not_or.mp hroom
              refine .inr ⟨hvalid, hdevice, unclaimed_of_get hget, hcurrent,
                ⟨views, hlist, not_le.mp hcount, fun existing hmem => ?_⟩, rfl⟩
              rw [List.any_eq_true, not_exists] at hcollides
              rw [← Bool.not_eq_true]
              exact fun hc => hcollides existing ⟨hmem, hc⟩
      · exact .inl rfl

/-- **What `Start` writes**, if anything. -/
structure StartWrites (ns : LocalNamespace) (files : FenceFiles) (run digest : String)
    (authorizedAt : Instant) (attempt : LinkAttempt) (files' : FenceFiles) : Prop where
  claimed : ∃ claim, files.claimed.get run = some claim ∧ canonicalSpec claim.spec = true ∧
    validClaimRecord ns run claim = true ∧ ns.digests.admission claim = digest ∧
    runtimeAdmissionCurrent ns claim.spec authorizedAt = true
  unstarted : files.starting.get run = none
  unstopped : files.stopped.get run = none
  result : files' = (files.writeStart
    { version := 2, runId := run, admissionDigest := digest, authorityCheckedAt := authorizedAt }
    attempt).1

theorem FenceReads.of_claimed (h : FenceReads ns files run view) (hstate : view.state = .claimed) :
    ∃ claim, files.claimed.get run = some claim ∧ canonicalSpec claim.spec = true ∧
      validClaimRecord ns run claim = true ∧ files.starting.get run = none ∧
      files.stopped.get run = none ∧ view = claimedView ns claim := by
  cases h with
  | claimed claim hclaim hcanonical hvalid hstart hstop =>
    exact ⟨claim, hclaim, hcanonical, hvalid, hstart, hstop, rfl⟩
  | starting => cases hstate
  | stopped => cases hstate

theorem startCommit_cases (ns : LocalNamespace) (files : FenceFiles) (run digest : String)
    (seen : AdmissionView) (authorizedAt : Instant) (attempt : LinkAttempt) :
    (startCommit ns files run digest seen authorizedAt attempt).1 = files ∨
      StartWrites ns files run digest authorizedAt attempt
        (startCommit ns files run digest seen authorizedAt attempt).1 := by
  unfold startCommit
  split
  · exact .inl rfl
  · rename_i current hget
    split
    · exact .inl rfl
    · rename_i hsame
      obtain ⟨hdigest, -⟩ := not_or.mp hsame
      split
      · exact .inl rfl
      · rename_i hstate
        rw [not_not] at hstate
        split
        · exact .inl rfl
        · rename_i hcurrent
          rw [Bool.not_eq_false] at hcurrent
          obtain ⟨claim, hclaim, hcanonical, hvalid, hstart, hstop, rfl⟩ :=
            (get_iff.mp hget).of_claimed hstate
          exact .inr ⟨⟨claim, hclaim, hcanonical, hvalid, not_not.mp hdigest, hcurrent⟩, hstart,
            hstop, rfl⟩

/-- **What `Stop` writes**, if anything: it closes a possible start by its exact digests. -/
structure StopWrites (ns : LocalNamespace) (files : FenceFiles) (run digest startDigest : String)
    (outcome : RuntimeOutcome) (now : Instant) (attempt : LinkAttempt) (files' : FenceFiles) :
    Prop where
  allowed : validRuntimeOutcome outcome = true
  started : ∃ claim start, files.claimed.get run = some claim ∧
    files.starting.get run = some start ∧ ns.digests.admission claim = digest ∧
    ns.digests.start start = startDigest ∧ start.authorityCheckedAt ≤ now
  result : files' = (files.writeStop
    { version := 3, runId := run, admissionDigest := digest, startDigest, outcome,
      stoppedAt := now } attempt).1

theorem FenceReads.of_starting (h : FenceReads ns files run view)
    (hstate : view.state = .starting) :
    ∃ claim start, files.claimed.get run = some claim ∧ files.starting.get run = some start ∧
      files.stopped.get run = none ∧ view = (claimedView ns claim).started ns start := by
  cases h with
  | claimed => cases hstate
  | starting claim start hclaim hcanonical hvalid hstart hs hstop =>
    exact ⟨claim, start, hclaim, hstart, hstop, rfl⟩
  | stopped => cases hstate

theorem stop_cases (ns : LocalNamespace) (files : FenceFiles) (run digest startDigest : String)
    (outcome : RuntimeOutcome) (now : Instant) (attempt : LinkAttempt) :
    (stop ns files run digest startDigest outcome now attempt).1 = files ∨
      StopWrites ns files run digest startDigest outcome now attempt
        (stop ns files run digest startDigest outcome now attempt).1 := by
  unfold stop
  split
  · exact .inl rfl
  · rename_i hinvalid
    obtain ⟨houtcome, -⟩ := not_or.mp hinvalid
    rw [Bool.not_eq_false] at houtcome
    split
    · exact .inl rfl
    · rename_i view hget
      split
      · exact .inl rfl
      · rename_i hsame
        obtain ⟨hdigest, hstartDigest⟩ := not_or.mp hsame
        split
        · exact .inl rfl
        · split
          · exact .inl rfl
          · rename_i hopen
            obtain ⟨hstate, htime⟩ := not_or.mp hopen
            rw [not_not] at hstate
            obtain ⟨claim, start, hclaim, hstart, hstop, rfl⟩ :=
              (get_iff.mp hget).of_starting hstate
            exact .inr ⟨houtcome, ⟨claim, start, hclaim, hstart, not_not.mp hdigest,
              Option.some.inj (not_not.mp hstartDigest), not_lt.mp htime⟩, rfl⟩

/-- A view that reads as starting belongs to records that are there. -/
def OpenStart (ns : LocalNamespace) (files : FenceFiles) (view : AdmissionView) : Prop :=
  view.state = .starting → ∃ claim start, files.claimed.get view.spec.runId = some claim ∧
    files.starting.get view.spec.runId = some start ∧
    view.admissionDigest = ns.digests.admission claim ∧
    view.startDigest = some (ns.digests.start start) ∧
    view.authorityCheckedAt = some start.authorityCheckedAt

/-- Some stop is written with the outcome `RecoverUnknown` gives it. -/
def RecoverStep (ns : LocalNamespace) (now : Instant) (files files' : FenceFiles) : Prop :=
  ∃ run digest startDigest attempt,
    StopWrites ns files run digest startDigest .unknown now attempt files'

theorem OpenStart.of_recoverStep {now : Instant} {files' : FenceFiles}
    (h : OpenStart ns files view) (hw : RecoverStep ns now files files') :
    OpenStart ns files' view := by
  obtain ⟨run, digest, startDigest, attempt, hw⟩ := hw
  obtain ⟨-, -, rfl⟩ := hw
  exact h

/-- **`RecoverUnknown`** writes stops only, one after another. -/
theorem recoverViews_steps {now : Instant} {attempts : String → LinkAttempt}
    {views : List AdmissionView} (hviews : ∀ view ∈ views, OpenStart ns files view) :
    Relation.ReflTransGen (RecoverStep ns now) files
      (recoverViews ns now attempts views files).1 := by
  induction views generalizing files with
  | nil => exact .refl
  | cons view views ih =>
    have hrest : ∀ view' ∈ views, OpenStart ns files view' := fun view' hmem =>
      hviews view' (List.mem_cons_of_mem view hmem)
    unfold recoverViews
    split
    · rename_i startDigest started hstate hstart hchecked
      split
      · exact .refl
      · rename_i hafter
        obtain ⟨claim, start, hclaim, hstarting, hdigest, hsd, hat⟩ :=
          hviews view List.mem_cons_self hstate
        rw [hstart] at hsd
        rw [hchecked] at hat
        cases hsd
        cases hat
        have hwrite : RecoverStep ns now files
            (files.writeStop
              { version := 3, runId := view.spec.runId, admissionDigest := view.admissionDigest,
                startDigest := ns.digests.start start, outcome := .unknown, stoppedAt := now }
              (attempts view.spec.runId)).1 :=
          ⟨view.spec.runId, view.admissionDigest, ns.digests.start start,
            attempts view.spec.runId, rfl,
            ⟨claim, start, hclaim, hstarting, hdigest.symm, rfl, not_lt.mp hafter⟩, rfl⟩
        dsimp only
        split
        · split
          · exact .single hwrite
          · exact .head hwrite (ih fun view' hmem => (hrest view' hmem).of_recoverStep hwrite)
        · exact .single hwrite
    · exact ih hrest

theorem FenceReads.openStart (h : FenceReads ns files run view) : OpenStart ns files view := by
  intro hstate
  cases h with
  | claimed => cases hstate
  | starting claim start hclaim hcanonical hvalid hstart hs hstop =>
    have hrun := (runId_of_validClaim hvalid).1
    refine ⟨claim, start, ?_, ?_, rfl, rfl, rfl⟩
    · exact hrun.symm ▸ hclaim
    · exact hrun.symm ▸ hstart
  | stopped => cases hstate

/-- What is listed was read. -/
theorem reads_of_list {views : List AdmissionView} (h : files.list ns = .ok views)
    (hview : view ∈ views) : ∃ run, FenceReads ns files run view := by
  unfold FenceFiles.list at h
  split at h
  · cases h
  · cases hfound : files.claimed.keys.mapM (files.listed ns) with
    | error e =>
      rw [hfound] at h
      cases h
    | ok found =>
      rw [hfound] at h
      simp only [bind, Except.bind] at h
      split at h
      · cases h
      · cases h
        obtain ⟨key, -, hlisted⟩ :=
          Except.exists_of_mem_mapM hfound ((List.mem_insertionSort _).mp hview)
        unfold FenceFiles.listed at hlisted
        split at hlisted
        · cases hlisted
        · split at hlisted
          · exact ⟨_, get_iff.mp hlisted⟩
          · cases hlisted

theorem recoverUnknown_steps (ns : LocalNamespace) (files : FenceFiles) (now : Instant)
    (attempts : String → LinkAttempt) :
    Relation.ReflTransGen (RecoverStep ns now) files
      (recoverUnknown ns files now attempts).1 := by
  unfold recoverUnknown
  split
  · exact .refl
  · split
    · exact .refl
    · rename_i views hlist
      refine recoverViews_steps fun view hmem => ?_
      obtain ⟨run, hreads⟩ := reads_of_list hlist hmem
      exact hreads.openStart

end Records

/-! ## An admission journal that can be read -/

section Readable

variable {ns : LocalNamespace} {files : FenceFiles} {run : String}

/-- **Every record passes the check of the reader.** -/
structure FenceReadable (ns : LocalNamespace) (files : FenceFiles) : Prop where
  claimed : ∀ run claim, files.claimed.get run = some claim →
    canonicalSpec claim.spec = true ∧ validClaimRecord ns run claim = true
  starting : ∀ run start, files.starting.get run = some start →
    ∃ claim, files.claimed.get run = some claim ∧
      validStartRecord run (claimedView ns claim) start = true
  stopped : ∀ run stop, files.stopped.get run = some stop →
    ∃ claim start, files.claimed.get run = some claim ∧ files.starting.get run = some start ∧
      validStopRecord run ((claimedView ns claim).started ns start) stop = true
  bounded : files.claimed.rows.length ≤ maxRuntimeAdmissions

def FenceFiles.empty : FenceFiles := ⟨.empty, .empty, .empty, 0⟩

theorem fenceReadable_empty : FenceReadable ns .empty where
  claimed run claim h := by simp [FenceFiles.empty] at h
  starting run start h := by simp [FenceFiles.empty] at h
  stopped run stop h := by simp [FenceFiles.empty] at h
  bounded := Nat.zero_le _

/-! ## Reading a readable journal -/

/-- **Every claimed Run reads back.** -/
theorem FenceReadable.get_ok (h : FenceReadable ns files) {claim : RuntimeAdmissionRecord}
    (hclaim : files.claimed.get run = some claim) :
    ∃ view, files.get ns run = .ok view := by
  obtain ⟨hcanonical, hvalid⟩ := h.claimed run claim hclaim
  cases hstart : files.starting.get run with
  | none =>
    cases hstop : files.stopped.get run with
    | none => exact ⟨_, get_iff.mpr (.claimed claim hclaim hcanonical hvalid hstart hstop)⟩
    | some stop =>
      obtain ⟨claim', start, -, hstart', -⟩ := h.stopped run stop hstop
      rw [hstart] at hstart'
      cases hstart'
  | some start =>
    obtain ⟨claim', hclaim', hs⟩ := h.starting run start hstart
    rw [hclaim] at hclaim'
    cases hclaim'
    cases hstop : files.stopped.get run with
    | none =>
      exact ⟨_, get_iff.mpr (.starting claim start hclaim hcanonical hvalid hstart hs hstop)⟩
    | some stop =>
      obtain ⟨claim'', start', hclaim'', hstart', hst⟩ := h.stopped run stop hstop
      rw [hclaim] at hclaim''
      rw [hstart] at hstart'
      cases hclaim''
      cases hstart'
      exact ⟨_, get_iff.mpr
        (.stopped claim start stop hclaim hcanonical hvalid hstart hs hstop hst)⟩

theorem FenceReadable.stagesComplete (h : FenceReadable ns files) :
    files.stagesComplete = true := by
  unfold FenceFiles.stagesComplete
  rw [Bool.and_eq_true, List.all_eq_true, List.all_eq_true]
  refine ⟨fun key hkey => ?_, fun key hkey => ?_⟩
  · obtain ⟨start, hstart⟩ := Option.isSome_iff_exists.mp (Table.mem_keys.mp hkey)
    obtain ⟨claim, hclaim, -⟩ := h.starting key start hstart
    rw [hclaim]
    rfl
  · obtain ⟨stop, hstop⟩ := Option.isSome_iff_exists.mp (Table.mem_keys.mp hkey)
    obtain ⟨claim, start, hclaim, hstart, -⟩ := h.stopped key stop hstop
    rw [hclaim, hstart]
    rfl

/-- Three records a Run at most. -/
theorem FenceReadable.entries_le (h : FenceReadable ns files) :
    files.entries ≤ maxRuntimeAdmissions * 3 + files.pending := by
  have hstarting : files.starting.rows.length ≤ files.claimed.rows.length := by
    refine Table.length_le_of_keys fun key hkey => ?_
    obtain ⟨start, hstart⟩ := Option.isSome_iff_exists.mp hkey
    obtain ⟨claim, hclaim, -⟩ := h.starting key start hstart
    rw [hclaim]
    rfl
  have hstopped : files.stopped.rows.length ≤ files.claimed.rows.length := by
    refine Table.length_le_of_keys fun key hkey => ?_
    obtain ⟨stop, hstop⟩ := Option.isSome_iff_exists.mp hkey
    obtain ⟨claim, start, hclaim, -, -⟩ := h.stopped key stop hstop
    rw [hclaim]
    rfl
  have hbounded := h.bounded
  unfold FenceFiles.entries
  omega

theorem FenceReadable.listed_eq (h : FenceReadable ns files) {claim : RuntimeAdmissionRecord}
    (hclaim : files.claimed.get run = some claim) : files.listed ns run = files.get ns run := by
  have hrun := (runId_of_validClaim (h.claimed run claim hclaim).2).1
  unfold FenceFiles.listed
  rw [hclaim]
  dsimp only
  rw [if_pos hrun, hrun]

/-- **A readable journal lists**, whatever sixteen writes that were cut short have left. -/
theorem FenceReadable.list_ok (h : FenceReadable ns files) (hpending : files.pending ≤ 16) :
    ∃ views, files.list ns = .ok views := by
  have hentries : ¬ maxRuntimeAdmissions * 3 + 16 < files.entries := by
    have hle := h.entries_le
    omega
  have hviews : ∃ views, files.claimed.keys.mapM (files.listed ns) = .ok views := by
    refine Except.exists_mapM fun key hkey => ?_
    obtain ⟨claim, hclaim⟩ := Option.isSome_iff_exists.mp (Table.mem_keys.mp hkey)
    rw [h.listed_eq hclaim]
    exact h.get_ok hclaim
  obtain ⟨views, hviews⟩ := hviews
  have hcount : ¬ maxRuntimeAdmissions < views.length := by
    rw [Except.length_of_mapM hviews, Table.length_keys, not_lt]
    exact h.bounded
  refine ⟨views.insertionSort fun a b => a.spec.runId ≤ b.spec.runId, ?_⟩
  unfold FenceFiles.list
  rw [if_neg (by simp [hentries, h.stagesComplete]), hviews]
  exact if_neg hcount

/-- Every claim is counted in the listing. -/
theorem claimed_le_of_list {views : List AdmissionView} (h : files.list ns = .ok views) :
    files.claimed.rows.length = views.length := by
  unfold FenceFiles.list at h
  split at h
  · cases h
  · cases hviews : files.claimed.keys.mapM (files.listed ns) with
    | error e =>
      rw [hviews] at h
      cases h
    | ok found =>
      rw [hviews] at h
      simp only [bind, Except.bind] at h
      split at h
      · cases h
      · cases h
        rw [List.length_insertionSort, Except.length_of_mapM hviews, Table.length_keys]

/-! ## Keeping it readable -/

/-- **A claim** with a four-digit year and canonical numbers keeps the journal readable. -/
theorem FenceReadable.claim {spec : RuntimeAdmissionSpec} {now : Instant} {attempt : LinkAttempt}
    {files' : FenceFiles} (h : FenceReadable ns files)
    (hw : ClaimWrites ns files spec now attempt files') (htime : validProfileTime now = true)
    (hcanonical : canonicalSpec spec = true) : FenceReadable ns files' := by
  obtain ⟨hvalid, hdevice, hunclaimed, hcurrent, ⟨views, hlist, hcount, -⟩, rfl⟩ := hw
  refine ⟨fun run claim hclaim => ?_, fun run start hstart => ?_, fun run stop hstop => ?_, ?_⟩
  · rcases Table.of_linkNew hclaim with hold | ⟨rfl, rfl, -⟩
    · exact h.claimed run claim hold
    · refine ⟨hcanonical, ?_⟩
      simp [validClaimRecord, hvalid, htime]
  · obtain ⟨claim, hclaim, hs⟩ := h.starting run start hstart
    exact ⟨claim, Table.linkNew_grows run claim hclaim, hs⟩
  · obtain ⟨claim, start, hclaim, hstart, hst⟩ := h.stopped run stop hstop
    exact ⟨claim, start, Table.linkNew_grows run claim hclaim, hstart, hst⟩
  · have hrows := claimed_le_of_list hlist
    refine le_trans (Table.length_linkNew _ _ _ _) ?_
    omega

/-- **A start** with a four-digit year, not before its claim, keeps the journal readable. -/
theorem FenceReadable.start {digest : String} {authorizedAt : Instant} {attempt : LinkAttempt}
    {files' : FenceFiles} (h : FenceReadable ns files)
    (hw : StartWrites ns files run digest authorizedAt attempt files')
    (htime : validProfileTime authorizedAt = true)
    (hafter : ∀ claim, files.claimed.get run = some claim → claim.claimedAt ≤ authorizedAt) :
    FenceReadable ns files' := by
  obtain ⟨⟨claim, hclaim, hcanonical, hvalid, rfl, hcurrent⟩, hunstarted, hunstopped, rfl⟩ := hw
  refine ⟨h.claimed, fun run' start hstart => ?_, fun run' stop hstop => ?_, h.bounded⟩
  · rcases Table.of_linkNew hstart with hold | ⟨rfl, rfl, -⟩
    · exact h.starting run' start hold
    · refine ⟨claim, hclaim, ?_⟩
      simp [validStartRecord, claimedView, htime, hafter claim hclaim]
  · obtain ⟨claim', start, hclaim', hstart, hst⟩ := h.stopped run' stop hstop
    exact ⟨claim', start, hclaim', Table.linkNew_grows run' start hstart, hst⟩

/-- **A stop** with a four-digit year keeps the journal readable; `Stop` itself compares it with
the start, and a Run that is stopped keeps its record. -/
theorem FenceReadable.stop {digest startDigest : String} {outcome : RuntimeOutcome}
    {now : Instant} {attempt : LinkAttempt} {files' : FenceFiles} (h : FenceReadable ns files)
    (hw : StopWrites ns files run digest startDigest outcome now attempt files')
    (htime : files.stopped.get run = none → validProfileTime now = true) :
    FenceReadable ns files' := by
  obtain ⟨hallowed, ⟨claim, start, hclaim, hstart, rfl, rfl, hafter⟩, rfl⟩ := hw
  refine ⟨h.claimed, h.starting, fun run' stop hstop => ?_, h.bounded⟩
  rcases Table.of_linkNew hstop with hold | ⟨rfl, rfl, hfree⟩
  · exact h.stopped run' stop hold
  · refine ⟨claim, start, hclaim, hstart, ?_⟩
    simp [validStopRecord, AdmissionView.started, claimedView, hallowed, htime hfree, hafter]

/-- Some Run may have started and is not stopped. -/
def FenceFiles.HasOpenStart (files : FenceFiles) : Prop :=
  ∃ run, (files.starting.get run).isSome ∧ files.stopped.get run = none

theorem FenceReadable.recover {now : Instant} {files' : FenceFiles} (h : FenceReadable ns files)
    (hsteps : Relation.ReflTransGen (RecoverStep ns now) files files')
    (htime : files.HasOpenStart → validProfileTime now = true) : FenceReadable ns files' := by
  suffices hall : FenceReadable ns files' ∧ files'.starting = files.starting ∧
      Table.Grows files.stopped files'.stopped from hall.1
  induction hsteps with
  | refl => exact ⟨h, rfl, Table.Grows.refl _⟩
  | tail _ hlast ih =>
    obtain ⟨hreadable, hstarting, hgrows⟩ := ih
    obtain ⟨run, digest, startDigest, attempt, hw⟩ := hlast
    have hstarted := hw.started
    refine ⟨hreadable.stop hw fun hfree => ?_, ?_, ?_⟩
    · obtain ⟨claim, start, -, hstart, -⟩ := hstarted
      rw [hstarting] at hstart
      exact htime ⟨run, by rw [hstart]; rfl, hgrows.none hfree⟩
    · rw [hw.result]
      exact hstarting
    · rw [hw.result]
      exact hgrows.trans Table.linkNew_grows

end Readable

end AgentRoom.Governed
