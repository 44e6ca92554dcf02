import AgentRoom.Run.CancellationIntent

/-!
# Reports on a Run that has ended

A Bridge replays its inbox on every reconnect, so the event service meets reports
on Runs that ended long ago. A report it throws on closes the socket, and the
Bridge replays it again: it is only handled if it is taken quietly.

Every report with a sequence from 2 on is, if the service accepts its payload. What
the Bridge persists is more than that: a reply of U+FEFF alone, which its redaction
keeps, is refused each time. The pre-admission tombstone, `canceled` with sequence 1,
is taken only when the Run itself ended as `canceled` through its cancellation intent;
a Run that expired in the queue or timed out meanwhile throws on it.
-/

namespace AgentRoom

open Tx RunRepository BridgeRunEventService

/-- What a Bridge can report on a Run. -/
inductive Report where
  | status (input : StatusInput)
  | reply (input : ReplyInput)
  | activity (input : ActivityInput)
  | output (input : OutputInput)

namespace Report

def identity : Report → ReportIdentity
  | .status input => input.identity
  | .reply input => input.identity
  | .activity input => input.identity
  | .output input => input.identity

def sequence : Report → Nat
  | .status input => input.sequence
  | .reply input => input.sequence
  | .activity input => input.sequence
  | .output input => input.sequence

/-- Only a terminal status is checked against the frozen owner of a cancellation. -/
def terminalStatus : Report → Bool
  | .status input => input.status.bridgeTerminal
  | .reply _ | .activity _ | .output _ => false

/-- The pre-admission cancellation tombstone. -/
def Tombstone : Report → Prop
  | .status input => input.status = .canceled ∧ input.sequence = 1
  | .reply _ | .activity _ | .output _ => False

/-- The check on the report's sequence; only a status may be an acknowledgement that needs none. -/
def checkSequence (db : Central) (run : RunRecord) : Report → Except Err Unit
  | .status input => validateStatusSequence db run input
  | .reply input => validateSequence input.sequence
  | .activity input => validateSequence input.sequence
  | .output input => validateSequence input.sequence

/-- The checks on the report's payload. -/
def checkPayload (db : Central) (run : RunRecord) : Report → Except Err Unit
  | .status input => validateReport db run input
  | .reply input => validateReplyContent input.content
  | .activity input => validateActivity input
  | .output input => validateOutputContent input.content

/-- What `RuntimeExecutor` itself asks of an event before it persists it. -/
def Persisted : Report → Prop
  | .status input => input.status.fromBridge = true
  | .reply input => input.content ≠ ""
  | .activity input =>
    input.activityId ≠ "" ∧ input.activityId.length ≤ 160 ∧
      (∀ label ∈ input.label, label ≠ "" ∧ label.length ≤ 120) ∧
      ∀ content ∈ input.content, content ≠ "" ∧ content.length ≤ 4000
  | .output input => input.content ≠ ""

/-- The event service's handler for the report. -/
def handle (services : Services) (principal : DevicePrincipal) (now : Time) :
    Report → Db AppliedRunEvent
  | .status input => applyStatus services principal input now
  | .reply input => applyReply services principal input now
  | .activity input => applyActivity services principal input now
  | .output input => applyOutput services principal input now

end Report

/-- **What a Bridge can legitimately replay**: a report on a Run it owns, which it persisted,
with a sequence its inbox assigns: from 2 on, or 1 for a tombstone. -/
structure Replayable (db : Central) (principal : DevicePrincipal) (report : Report)
    (run : RunRecord) : Prop where
  owned : OwnedRun db principal report.identity report.terminalStatus run
  persisted : report.Persisted
  sequence : isSafeInteger report.sequence = true ∧ (2 ≤ report.sequence ∨ report.Tombstone)

/-- The report is taken without a throw, and the Run, its events and the messages stay as they
are. -/
def Handled (services : Services) (db : Central) (principal : DevicePrincipal) (now : Time)
    (report : Report) : Prop :=
  ∃ result db', report.handle services principal now db = (.ok result, db') ∧
    result.applied = false ∧ db'.runs = db.runs ∧ db'.runEvents = db.runEvents ∧
    db'.messages = db.messages

/-! ## An event after the end -/

variable {run : RunRecord} {db : Central}

theorem applyRuntimeEvent_ended {id : RunId} (hget : db.runs.get id = some run)
    (hended : run.state.terminal = true) (event : RuntimeEvent) (now : Time) :
    applyRuntimeEvent id event now db = (.ok { applied := false, run }, db) := by
  unfold applyRuntimeEvent immediate
  rw [getRun_bind, hget]
  simp only [hended, or_true, if_true, pure_apply]

theorem repositoryReply_ended {id : RunId} (hget : db.runs.get id = some run)
    (hended : run.state.terminal = true) (event : ReplyEvent) (now : Time) :
    RunRepository.applyReply id event now db = (.ok { applied := false, run }, db) := by
  unfold RunRepository.applyReply
  refine immediate_ok ?_
  rw [bind_ok (applyRuntimeEvent_ended hget hended _ now)]
  rfl

theorem require_ok {α : Type} {check : Except Err Unit} (h : check = .ok ()) (f : Unit → Db α)
    (db : Central) : (require check >>= f) db = f () db := by
  rw [h]
  rfl

theorem requireOwnedRun_owned {principal : DevicePrincipal} {identity : ReportIdentity}
    {terminalStatus : Bool} (h : OwnedRun db principal identity terminalStatus run) :
    requireOwnedRun principal identity terminalStatus db = (.ok run, db) := by
  rcases requireOwnedRun_cases db principal identity terminalStatus with
    ⟨e, -, hnot⟩ | ⟨run', hown', hr⟩
  · exact absurd h (hnot run)
  · obtain rfl : run = run' := by simpa [h.get] using hown'.get
    exact hr

theorem validateSequence_ok {n : Nat} (hsafe : isSafeInteger n = true) (h : 2 ≤ n) :
    validateSequence n = .ok () := by
  unfold validateSequence
  rw [if_neg]
  · rfl
  · rintro (hc | hc)
    · rw [hsafe] at hc
      cases hc
    · omega

/-- An evidence cursor that validates is acknowledged without a throw, and only moves the
cursor. -/
theorem acknowledge_valid {scope : String} {revision : Nat}
    (h : validateAcknowledgement db run scope revision = .ok ()) :
    ∃ db', acknowledge run scope revision db = (.ok (), db') ∧ db'.runs = db.runs ∧
      db'.runEvents = db.runEvents ∧ db'.messages = db.messages := by
  unfold acknowledge
  rw [get_bind]
  dsimp only
  split
  · exact ⟨db, rfl, rfl, rfl, rfl⟩
  · rw [require_ok h]
    exact ⟨_, rfl, rfl, rfl, rfl⟩

/-! ## Which reports are handled -/

/-- **When a late report is handled.** Its sender owns the Run, the service accepts its payload,
and it is not a tombstone, unless its Run was canceled and has a cancellation intent. -/
structure LateReportOk (db : Central) (principal : DevicePrincipal) (run : RunRecord)
    (report : Report) : Prop where
  owned : OwnedRun db principal report.identity report.terminalStatus run
  payload : report.checkPayload db run = .ok ()
  sequence : (isSafeInteger report.sequence = true ∧ 2 ≤ report.sequence) ∨
    (report.Tombstone ∧ run.state = .canceled ∧ (db.cancellationIntents.get run.runId).isSome)

section Handled

variable {services : Services} {db : Central} {principal : DevicePrincipal} {run : RunRecord}
  {now : Time} {input : StatusInput}

theorem validateReport_cursor (h : validateReport db run input = .ok ()) {cursor : String × Nat}
    (hc : evidenceCursor input.session = some cursor) :
    validateAcknowledgement db run cursor.1 cursor.2 = .ok () := by
  iterate 4 obtain ⟨-, h⟩ := check_bind_ok h
  rw [hc] at h
  exact h

/-- A status report whose sequence passes is taken quietly. -/
theorem status_handled (hk : Keyed db)
    (hown : OwnedRun db principal input.identity input.status.bridgeTerminal run)
    (hseq : validateStatusSequence db run input = .ok ())
    (hpayload : validateReport db run input = .ok ()) (hended : run.state.terminal = true) :
    Handled services db principal now (.status input) := by
  have hid : run.runId = input.identity.runId := hk _ _ hown.get
  have happ : applyEvent run.runId (.status (statusEvent services input)) now db = _ :=
    applyRuntimeEvent_ended (hid ▸ hown.get) hended _ now
  change ∃ result db', applyStatus services principal input now db = (.ok result, db') ∧ _
  unfold applyStatus
  rw [bind_ok (requireOwnedRun_owned hown), get_bind, require_ok hseq, get_bind,
    require_ok hpayload, bind_ok happ]
  cases hcursor : evidenceCursor input.session with
  | none => exact ⟨_, _, rfl, rfl, rfl, rfl, rfl⟩
  | some cursor =>
    obtain ⟨db', hrun, h₁, h₂, h₃⟩ := acknowledge_valid (validateReport_cursor hpayload hcursor)
    refine ⟨{ applied := false, run }, db', ?_, rfl, h₁, h₂, h₃⟩
    change (acknowledge run cursor.1 cursor.2 >>= fun _ => pure _) db = _
    rw [bind_ok hrun]
    rfl

variable {report : Report}

/-- A reply, activity or output report whose sequence passes is taken quietly. -/
theorem content_handled (hk : Keyed db)
    (hown : OwnedRun db principal report.identity report.terminalStatus run)
    (hseq : report.checkSequence db run = .ok ()) (hpay : report.checkPayload db run = .ok ())
    (hended : run.state.terminal = true) (hcontent : ∀ input, report ≠ .status input) :
    Handled services db principal now report := by
  have hid : run.runId = report.identity.runId := hk _ _ hown.get
  have hget := hid ▸ hown.get
  cases report with
  | status input => exact absurd rfl (hcontent input)
  | reply input =>
    have hown : OwnedRun db principal input.identity false run := hown
    have hseq : validateSequence input.sequence = .ok () := hseq
    have hpay : validateReplyContent input.content = .ok () := hpay
    refine ⟨{ applied := false, run }, db, ?_, rfl, rfl, rfl, rfl⟩
    change BridgeRunEventService.applyReply services principal input now db = _
    unfold BridgeRunEventService.applyReply
    rw [bind_ok (requireOwnedRun_owned hown), require_ok hseq, require_ok hpay,
      repositoryReply_ended hget hended]
  | activity input =>
    have hown : OwnedRun db principal input.identity false run := hown
    have hseq : validateSequence input.sequence = .ok () := hseq
    have hpay : validateActivity input = .ok () := hpay
    refine ⟨{ applied := false, run }, db, ?_, rfl, rfl, rfl, rfl⟩
    change applyActivity services principal input now db = _
    unfold applyActivity applyEvent
    rw [bind_ok (requireOwnedRun_owned hown), require_ok hseq, require_ok hpay,
      applyRuntimeEvent_ended hget hended]
  | output input =>
    have hown : OwnedRun db principal input.identity false run := hown
    have hseq : validateSequence input.sequence = .ok () := hseq
    have hpay : validateOutputContent input.content = .ok () := hpay
    refine ⟨{ applied := false, run }, db, ?_, rfl, rfl, rfl, rfl⟩
    change applyOutput services principal input now db = _
    unfold applyOutput applyEvent
    -- the length of the whole output is not looked at once the Run has ended
    rw [bind_ok (requireOwnedRun_owned hown), require_ok hseq, require_ok hpay, get_bind,
      if_pos (.inr hended), applyRuntimeEvent_ended hget hended]

/-- A report that is taken passed the check of its sender. -/
theorem requireOwnedRun_passed {α : Type} {identity : ReportIdentity} {terminalStatus : Bool}
    {f : RunRecord → Db α} {result : α} {db' : Central}
    (hget : db.runs.get identity.runId = some run)
    (h : (requireOwnedRun principal identity terminalStatus >>= f) db = (.ok result, db')) :
    OwnedRun db principal identity terminalStatus run ∧ f run db = (.ok result, db') := by
  rcases requireOwnedRun_cases db principal identity terminalStatus with
    ⟨e, he, -⟩ | ⟨run', hown, hr⟩
  · rw [bind_error he] at h
    cases h
  · obtain rfl : run = run' := by simpa [hget] using hown.get
    rw [bind_ok hr] at h
    exact ⟨hown, h⟩

theorem require_passed {α : Type} {check : Except Err Unit} {f : Unit → Db α} {result : α}
    {db' : Central} (h : (require check >>= f) db = (.ok result, db')) :
    check = .ok () ∧ f () db = (.ok result, db') := by
  cases check with
  | ok u => exact ⟨rfl, h⟩
  | error e => cases h

/-- A report that is taken passed every check of the service. -/
theorem Handled.passed (hget : db.runs.get report.identity.runId = some run)
    (h : Handled services db principal now report) :
    OwnedRun db principal report.identity report.terminalStatus run ∧
      report.checkSequence db run = .ok () ∧ report.checkPayload db run = .ok () := by
  obtain ⟨result, db', hrun, -⟩ := h
  cases report with
  | status input =>
    change applyStatus services principal input now db = _ at hrun
    unfold applyStatus at hrun
    obtain ⟨hown, hrun⟩ := requireOwnedRun_passed hget hrun
    rw [get_bind] at hrun
    obtain ⟨hseq, hrun⟩ := require_passed hrun
    rw [get_bind] at hrun
    exact ⟨hown, hseq, (require_passed hrun).1⟩
  | reply input =>
    change BridgeRunEventService.applyReply services principal input now db = _ at hrun
    unfold BridgeRunEventService.applyReply at hrun
    obtain ⟨hown, hrun⟩ := requireOwnedRun_passed hget hrun
    obtain ⟨hseq, hrun⟩ := require_passed hrun
    exact ⟨hown, hseq, (require_passed hrun).1⟩
  | activity input =>
    change applyActivity services principal input now db = _ at hrun
    unfold applyActivity at hrun
    obtain ⟨hown, hrun⟩ := requireOwnedRun_passed hget hrun
    obtain ⟨hseq, hrun⟩ := require_passed hrun
    exact ⟨hown, hseq, (require_passed hrun).1⟩
  | output input =>
    change applyOutput services principal input now db = _ at hrun
    unfold applyOutput at hrun
    obtain ⟨hown, hrun⟩ := requireOwnedRun_passed hget hrun
    obtain ⟨hseq, hrun⟩ := require_passed hrun
    exact ⟨hown, hseq, (require_passed hrun).1⟩

/-- In a reachable state, a canceled Run with an intent has it resolved as `canceled`. -/
theorem preAdmissionAck_iff (input : StatusInput) (hi : IntentInv db)
    (hget : db.runs.get run.runId = some run) (hended : run.state.terminal = true) :
    preAdmissionCancellationAck run (db.cancellationIntents.get run.runId) input = true ↔
      (input.status = .canceled ∧ input.sequence = 1) ∧ run.state = .canceled ∧
        (db.cancellationIntents.get run.runId).isSome := by
  unfold preAdmissionCancellationAck
  cases hint : db.cancellationIntents.get run.runId with
  | none => simp
  | some intent =>
    obtain ⟨-, run', hget', hok⟩ := hi run.runId intent hint
    obtain rfl : run = run' := by simpa [hget] using hget'
    have hres : intent.state = .resolved := by
      cases hs : intent.state with
      | resolved => rfl
      | pending =>
        have := (hok.pending hs).1
        rw [hended] at this
        cases this
    have hstatus := (hok.resolved hres).2
    have hnq : run.state ≠ .queued := by
      intro hq
      rw [hq] at hended
      cases hended
    simp [hres, hstatus, hnq]

theorem validateSequence_iff (n : Nat) :
    validateSequence n = .ok () ↔ isSafeInteger n = true ∧ 2 ≤ n := by
  refine ⟨fun h => ?_, fun h => validateSequence_ok h.1 h.2⟩
  unfold validateSequence at h
  split at h
  · cases h
  · next hno =>
      push Not at hno
      exact ⟨by simpa using hno.1, hno.2⟩

/-- The sequences the service accepts from a report on a Run that has ended. -/
theorem checkSequence_iff (hi : IntentInv db) (hget : db.runs.get run.runId = some run)
    (hended : run.state.terminal = true) :
    report.checkSequence db run = .ok () ↔
      (isSafeInteger report.sequence = true ∧ 2 ≤ report.sequence) ∨
        (report.Tombstone ∧ run.state = .canceled ∧
          (db.cancellationIntents.get run.runId).isSome) := by
  cases report with
  | status input =>
    change validateStatusSequence db run input = .ok () ↔ _
    unfold validateStatusSequence
    by_cases hack : preAdmissionCancellationAck run
        (db.cancellationIntents.get run.runId) input = true
    · rw [if_pos hack]
      exact iff_of_true rfl (.inr ((preAdmissionAck_iff input hi hget hended).mp hack))
    · rw [if_neg hack, validateSequence_iff]
      have hno := mt (preAdmissionAck_iff input hi hget hended).mpr hack
      exact (or_iff_left hno).symm
  | reply input =>
    exact (validateSequence_iff input.sequence).trans (or_iff_left fun hc => hc.1).symm
  | activity input =>
    exact (validateSequence_iff input.sequence).trans (or_iff_left fun hc => hc.1).symm
  | output input =>
    exact (validateSequence_iff input.sequence).trans (or_iff_left fun hc => hc.1).symm

/-- On a Run that has ended, nothing but the service's own checks decides. -/
theorem handled_iff_checks (hk : Keyed db) (hget : db.runs.get report.identity.runId = some run)
    (hended : run.state.terminal = true) :
    Handled services db principal now report ↔
      OwnedRun db principal report.identity report.terminalStatus run ∧
        report.checkSequence db run = .ok () ∧ report.checkPayload db run = .ok () := by
  refine ⟨Handled.passed hget, fun ⟨hown, hseq, hpay⟩ => ?_⟩
  cases report with
  | status input => exact status_handled hk hown hseq hpay hended
  | reply input => exact content_handled hk hown hseq hpay hended (by simp)
  | activity input => exact content_handled hk hown hseq hpay hended (by simp)
  | output input => exact content_handled hk hown hseq hpay hended (by simp)

end Handled

/-- **Late reports.** In every reachable state, a report on a Run that has ended is handled
exactly when it comes from the Run's owner with a payload the service accepts, and its sequence
is at least 2 or it is the tombstone of a Run that was canceled with a cancellation intent. -/
theorem late_report_handled_iff {services : Services} {db : Central}
    (h : (central services).Reachable db) {report : Report} {run : RunRecord}
    (hget : db.runs.get report.identity.runId = some run) (hended : run.state.terminal = true)
    (principal : DevicePrincipal) (now : Time) :
    Handled services db principal now report ↔ LateReportOk db principal run report := by
  have hk := keyed_reachable h
  have hi := intentInv_reachable h
  have hid : run.runId = report.identity.runId := hk _ _ hget
  rw [handled_iff_checks hk hget hended, checkSequence_iff hi (hid ▸ hget) hended]
  constructor
  · rintro ⟨hown, hseq, hpay⟩
    exact ⟨hown, hpay, hseq⟩
  · rintro ⟨hown, hpay, hseq⟩
    exact ⟨hown, hseq, hpay⟩

/-- A completed Run's last report, replayed, is handled. -/
theorem completedHistory_replay :
    Handled plainServices (oneAgent.after plainServices completedHistory) plainDevice 60
      (.status { identity := plainIdentity 1, sequence := 4, status := .completed }) := by
  have h := reachable_after (oneAgent_init plainServices) completedHistory
  obtain ⟨run, hget⟩ : ∃ run, (oneAgent.after plainServices completedHistory).runs.get 1 =
      some run := ⟨_, rfl⟩
  have hrun := Option.some.inj hget
  have hended : run.state.terminal = true := by
    subst hrun
    rfl
  have hid : (oneAgent.after plainServices completedHistory).runs.get (Report.identity (.status
      { identity := plainIdentity 1, sequence := 4, status := .completed })).runId = some run :=
    hget
  refine (late_report_handled_iff h hid hended plainDevice 60).mpr ?_
  subst hrun
  exact ⟨⟨rfl, rfl, rfl, _, rfl, rfl, rfl, rfl⟩, rfl, .inl (by decide)⟩

-- The Bridge keeps a reply of nothing but U+FEFF, which `String.prototype.trim` strips.
example (identity : ReportIdentity) (db : Central) (run : RunRecord) :
    let report : Report := .reply { identity, sequence := 2, content := "\uFEFF" }
    report.Persisted ∧ report.checkPayload db run ≠ .ok () := by
  have hblank : validateReplyContent "\uFEFF" ≠ .ok () := by decide
  exact ⟨show "\uFEFF" ≠ "" by decide, hblank⟩

/-- The unconditional property: every replayable late report is handled. -/
def AllLateReportsHandled (services : Services) : Prop :=
  ∀ db principal report run now, (central services).Reachable db →
    Replayable db principal report run → run.state.terminal = true →
    Handled services db principal now report

/-- A queued Run is canceled, and its acknowledgement times out. -/
def timedOutWhileQueued : Central :=
  oneAgent.after plainServices
    (canceledWhileQueued ++ [(online, .sweepCancellations 40000 0 100 none)])

/-- The tombstone the Bridge recorded for that Run. -/
def queuedTombstone : StatusInput where
  identity := plainIdentity 2
  sequence := 1
  status := .canceled

theorem timedOutWhileQueued_run : ∃ run, timedOutWhileQueued.runs.get 2 = some run ∧
    run.state = .outcomeUnknown ∧ run.runId = 2 ∧
    OwnedRun timedOutWhileQueued plainDevice (plainIdentity 2) true run := by
  have hruns : (timedOutWhileQueued.runs.get 2).map
      (fun run => (run.state, run.runId, run.traceId, run.targetAgentId)) =
        some (.outcomeUnknown, 2, (plainIdentity 2).traceId, 1) := by
    decide +kernel
  have hagents : (timedOutWhileQueued.agents.get 1).map
      (fun agent => (agent.ownerMemberId, agent.teamId)) =
        some (plainDevice.ownerMemberId, plainDevice.teamId) := by
    decide +kernel
  have hintents : (timedOutWhileQueued.cancellationIntents.get 2).map
      (fun intent => (intent.agentId, intent.deviceId)) = some (1, plainDevice.deviceId) := by
    decide +kernel
  obtain ⟨run, hget, hrun⟩ := Option.map_eq_some_iff.mp hruns
  obtain ⟨agent, hagent, howner⟩ := Option.map_eq_some_iff.mp hagents
  obtain ⟨intent, hint, hfrozen⟩ := Option.map_eq_some_iff.mp hintents
  simp only [Prod.mk.injEq] at hrun howner hfrozen
  obtain ⟨hstate, hid, htrace, htarget⟩ := hrun
  refine ⟨run, hget, hstate, hid, hget, htrace, htarget, agent, hagent, ?_, howner.1, howner.2⟩
  have hsome : frozenIntent timedOutWhileQueued (plainIdentity 2) true = some intent := by
    simp only [frozenIntent, if_true, plainIdentity]
    exact hint
  rw [hsome]
  simp [correctDevice, hfrozen.1, hfrozen.2, plainIdentity]

/-- The event service throws on that tombstone, each time it is replayed. -/
theorem not_allLateReportsHandled : ¬ AllLateReportsHandled plainServices := by
  intro hall
  have h : (central plainServices).Reachable timedOutWhileQueued :=
    reachable_after (oneAgent_init plainServices) _
  obtain ⟨run, hget, hstate, hid, hown⟩ := timedOutWhileQueued_run
  have hrep : Replayable timedOutWhileQueued plainDevice (.status queuedTombstone) run :=
    ⟨hown, rfl, by decide, .inr ⟨rfl, rfl⟩⟩
  have hended : run.state.terminal = true := by
    rw [hstate]
    rfl
  have hthrow : validateStatusSequence timedOutWhileQueued run queuedTombstone =
      .error "Run event sequence must be an integer greater than 1" := by
    unfold validateStatusSequence preAdmissionCancellationAck
    rw [hstate]
    rfl
  have hhandled := hall _ _ _ _ 40001 h hrep hended
  have hid : (Report.status queuedTombstone).identity.runId = 2 := rfl
  obtain ⟨-, hpassed, -⟩ := hhandled.passed (hid ▸ hget)
  change validateStatusSequence timedOutWhileQueued run queuedTombstone = .ok () at hpassed
  rw [hthrow] at hpassed
  cases hpassed

end AgentRoom
