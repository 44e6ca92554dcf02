import AgentRoom.Context.RoomSteps

/-!
# Room context coverage agreement

For every Room, every frozen bundle and every session: the Bridge's selection
succeeds, covers the Room up to the request and repeats nothing, unless the
checkpoint's summary is blank to Go though not to JavaScript.

The server accepts the receipt except when a Codex execution completes although
its binding does not name the Run. A failure is reported with a session only
behind that test, `acceptedLogicalSessionStatus`; a completion is reported
without it, so a turn that completes before `turn/start` was answered reports
the session's old cursor next to the new receipt.
-/

namespace AgentRoom.Context

open DeliveryService (checkRoomContextConsumption)

/-- **The agreement, for one delivery.** -/
structure CoverageAgreement (w : RoomWorld) (run : RunRequested) (bundle : ContextBundle) :
    Prop where
  /-- Every session can be prompted with the delivery, or with what of it is new to a binding,
  and is given the Room from its base cursor on. -/
  prepared : ∀ prompt, prompt = run ∨ (∃ b, prompt = contextDeltaForSession run b) →
    ∀ binding disposition, ∃ selected receipt,
      prepareRoomContextForSession prompt binding disposition =
          .ok ({ prompt with roomContextBundle := some selected }, some receipt) ∧
        Covers w.log w.memory.checkpoints run.session.contextCursor
          (baseCursor binding disposition) selected
  /-- The server accepts every receipt reported for the Run. -/
  accepted : ∀ made ∈ w.reports, made.report.runId = run.runId → ∀ session receipt,
    made.report.session = some session → session.roomContextConsumption = some receipt →
    checkRoomContextConsumption bundle.delivered w.log.latestMessageSequence session.disposition
      session.contextCursor receipt = .ok ()

/-- **When the agreement holds**: the checkpoint's summary is not blank to Go, and every report
with a receipt was made with a binding that names the Run or is past its request anyway, at a
cursor JavaScript can hold. -/
def CoverageCondition (w : RoomWorld) (run : RunRequested) (bundle : ContextBundle) : Prop :=
  bundle.checkpoint.all (fun checkpoint => !isGoBlank checkpoint.summary) = true ∧
    ∀ made ∈ w.reports, made.report.runId = run.runId →
      made.report.session.any (·.roomContextConsumption.isSome) = true →
      (made.binding.lastRunId = some run.runId ∨
        run.session.contextCursor ≤ made.binding.lastRoomSequence) ∧
      isSafeInteger made.binding.lastRoomSequence = true

instance (w : RoomWorld) (run : RunRequested) (bundle : ContextBundle) :
    Decidable (CoverageCondition w run bundle) :=
  inferInstanceAs (Decidable (_ ∧ _))

theorem prepare_ok_iff {prompt : RunRequested} {bundle : ContextBundle}
    (hbundle : prompt.roomContextBundle = some bundle) (binding : RuntimeSessionBinding)
    (disposition : SessionDisposition) :
    validateRoomContext prompt bundle = .ok () ↔
      ∃ answer, prepareRoomContextForSession prompt binding disposition = .ok answer := by
  unfold prepareRoomContextForSession
  simp only [hbundle]
  cases validateRoomContext prompt bundle with
  | error e => simp [bind, Except.bind]
  | ok u => simp [bind, Except.bind, pure, Except.pure]

/-- What preparing a prompt returns. -/
theorem prepare_eq {prompt : RunRequested} {bundle : ContextBundle}
    (hbundle : prompt.roomContextBundle = some bundle)
    (hvalid : validateRoomContext prompt bundle = .ok ()) (binding : RuntimeSessionBinding)
    (disposition : SessionDisposition) :
    prepareRoomContextForSession prompt binding disposition =
      .ok
        ({ prompt with
            roomContextBundle :=
              some (selectRoomContext bundle (baseCursor binding disposition) disposition) },
          some (selectionReceipt
            (selectRoomContext bundle (baseCursor binding disposition) disposition)
            (baseCursor binding disposition))) := by
  unfold prepareRoomContextForSession
  simp only [hbundle, hvalid]
  rfl

section Delivery

variable {w : RoomWorld} {run : RunRequested} {bundle : ContextBundle}

/-- **Sessions are prompted exactly when the summary is not blank to Go.** -/
theorem prepared_iff (hw : RoomInv w) (hrun : w.deliveries.get run.runId = some run)
    (hbundle : run.roomContextBundle = some bundle) :
    (∀ prompt, prompt = run ∨ (∃ b, prompt = contextDeltaForSession run b) →
      ∀ binding disposition, ∃ selected receipt,
        prepareRoomContextForSession prompt binding disposition =
            .ok ({ prompt with roomContextBundle := some selected }, some receipt) ∧
          Covers w.log w.memory.checkpoints run.session.contextCursor
            (baseCursor binding disposition) selected) ↔
      bundle.checkpoint.all (fun checkpoint => !isGoBlank checkpoint.summary) = true := by
  obtain ⟨-, hfrozen, -⟩ := hw.frozen _ _ hrun
  obtain ⟨checkpoint, messages, hsound⟩ := hfrozen bundle hbundle
  have hrow := hw.rows.sound _ hsound.row
  have hsummary : bundle.checkpoint.all (fun checkpoint => !isGoBlank checkpoint.summary) = true ↔
      isGoBlank checkpoint.summary = false := by
    rw [hsound.made]
    simp [makeBundle, bundleCheckpoint]
  rw [hsummary]
  constructor
  · intro hprepared
    obtain ⟨selected, receipt, hok, -⟩ := hprepared run (.inl rfl) {} .started
    rw [← validateRoomContext_iff hsound hrow, prepare_ok_iff hbundle]
    exact ⟨_, hok⟩
  · intro hvisible prompt hprompt binding disposition
    obtain ⟨hsound', hbundle'⟩ : BundleSound w.log w.memory.checkpoints prompt bundle checkpoint
        messages ∧ prompt.roomContextBundle = some bundle := by
      rcases hprompt with rfl | ⟨b, rfl⟩
      · exact ⟨hsound, hbundle⟩
      · exact ⟨hsound.delta b, hbundle⟩
    have hvalid := (validateRoomContext_iff hsound' hrow).mpr hvisible
    refine ⟨_, _, prepare_eq hbundle' hvalid binding disposition, ?_⟩
    refine selectRoomContext_covers hsound hw.rows ?_
    intro hfresh
    unfold baseCursor
    rw [if_neg hfresh]

/-- **One receipt is accepted exactly when its session was past the request** when the report was
made, at a cursor JavaScript can hold. -/
theorem accepted_iff (hw : RoomInv w) (hrun : w.deliveries.get run.runId = some run)
    (hbundle : run.roomContextBundle = some bundle) {made : MadeReport} (hmade : made ∈ w.reports)
    (hid : made.report.runId = run.runId) {session : RuntimeSession}
    {receipt : RoomContextConsumption} (hsession : made.report.session = some session)
    (hreceipt : session.roomContextConsumption = some receipt) :
    checkRoomContextConsumption bundle.delivered w.log.latestMessageSequence session.disposition
        session.contextCursor receipt = .ok () ↔
      (made.binding.lastRunId = some run.runId ∨
        run.session.contextCursor ≤ made.binding.lastRoomSequence) ∧
      isSafeInteger made.binding.lastRoomSequence = true := by
  obtain ⟨run', bundle', base, hrun', hbundle', hof, hlatest, hcursor, hiff⟩ :=
    hw.reports made hmade session receipt hsession hreceipt
  rw [hid, hrun] at hrun'
  cases hrun'
  rw [hbundle] at hbundle'
  cases hbundle'
  rw [checkRoomContextConsumption_iff hof hlatest, hiff, hid]
  refine and_congr_right ?_
  intro hreached
  -- the session's cursor is the coverage, so either spelling of the bound will do
  rw [← hiff.mpr (hid ▸ hreached), hcursor]

theorem coverageCondition_of_agreement (hw : RoomInv w)
    (hrun : w.deliveries.get run.runId = some run)
    (hbundle : run.roomContextBundle = some bundle) (hagree : CoverageAgreement w run bundle) :
    CoverageCondition w run bundle := by
  refine ⟨(prepared_iff hw hrun hbundle).mp hagree.prepared, ?_⟩
  intro made hmade hid hany
  obtain ⟨session, hsession, hsome⟩ := (Option.any_eq_true _ _).mp hany
  obtain ⟨receipt, hreceipt⟩ := Option.isSome_iff_exists.mp hsome
  exact (accepted_iff hw hrun hbundle hmade hid hsession hreceipt).mp
    (hagree.accepted made hmade hid session receipt hsession hreceipt)

end Delivery

/-- **Room context coverage agreement.** In every world a Room can reach, the agreement holds of a
delivery with a bundle exactly under its condition. -/
theorem room_context_coverage_iff {env : BridgeEnv} {w : RoomWorld}
    (h : (roomSystem env).Reachable w) {run : RunRequested} {bundle : ContextBundle}
    (hrun : w.deliveries.get run.runId = some run)
    (hbundle : run.roomContextBundle = some bundle) :
    CoverageAgreement w run bundle ↔ CoverageCondition w run bundle := by
  have hw := roomInv_reachable h
  constructor
  · exact coverageCondition_of_agreement hw hrun hbundle
  · rintro ⟨hsummary, hreports⟩
    refine ⟨(prepared_iff hw hrun hbundle).mpr hsummary, ?_⟩
    intro made hmade hid session receipt hsession hreceipt
    refine (accepted_iff hw hrun hbundle hmade hid hsession hreceipt).mpr
      (hreports made hmade hid ?_)
    simp [hsession, hreceipt]

/-! ## Two executions of one delivery -/

section Sample

def sampleEnv : BridgeEnv where
  agentRuntimeScopeId _ _ := "scope"
  piSessionId _ _ := "session"
  clarifies _ := false

def sampleMessage (messageId : MessageId) : MessageRecord where
  messageId
  traceId := 0
  roomId := 0
  taskId := 0
  sequence := 0
  senderType := .member
  senderId := 0
  content := "note"
  parentMessageId := none
  createdAt := 0

def sampleDigest : String := String.ofList (List.replicate 64 'a')

/-- Two messages are summarised, two more are posted, the last is delivered as a request and a
Codex session is opened for it. -/
def sampleOpening : List RoomAction :=
  [.post (sampleMessage 1), .post (sampleMessage 2), .enable, .beginDrain false 7 0 100,
    .finishDrain 0
      { output := some
          { summary := "Room evidence", provenanceMessageIds := [1]
            modelFingerprint := "extractive-v1" }
        checkpointId := 1, sourceDigest := sampleDigest, promptVersion := 1, createdAt := 1
        now := 1 },
    .post (sampleMessage 3), .post (sampleMessage 4),
    .deliver
      { runId := 1, taskId := 0, targetAgentId := 0, trigger := sampleMessage 4
        runtimeScopeId := none, supportsRoomContextCoverage := true, fenceCapturedAt := none
        excludedMessageIds := [] }
      { roomMemory := none, taskMemory := none, roomLongTermMemory := none
        taskLongTermMemory := none, resultEvidence := none } [],
    .openCodex 0
      { workspaceFingerprint := "w", configFingerprint := "c", startNewOnConflict := false } 1,
    .codexMessage 0 .initialized true, .codexMessage 0 (.threadOpened "thread") true]

/-- The turn completes before `turn/start` is answered. -/
def sampleEarlyTurn : List RoomAction :=
  sampleOpening ++
    [.codexMessage 0 (.itemCompleted "thread" "turn" true "done") true,
      .codexMessage 0 (.turnCompleted "thread" "turn" "completed" "") true, .codexEnd 0 .ended]

/-- `turn/start` is answered first. -/
def sampleTurn : List RoomAction :=
  sampleOpening ++
    [.codexMessage 0 (.turnStarted "turn") true,
      .codexMessage 0 (.itemCompleted "thread" "turn" true "done") true,
      .codexMessage 0 (.turnCompleted "thread" "turn" "completed" "") true, .codexEnd 0 .ended]

/-- The condition of a run's first delivery, in the world a list of actions leads to. -/
def sampleCondition (actions : List RoomAction) : Option Bool := do
  let w ← actions.foldlM (RoomWorld.act sampleEnv) .initial
  let run ← w.deliveries.get 1
  let bundle ← run.roomContextBundle
  if run.runId = 1 then some (decide (CoverageCondition w run bundle)) else none

theorem sampleCondition_some {actions : List RoomAction} {met : Bool}
    (h : sampleCondition actions = some met) :
    ∃ w run bundle, (roomSystem sampleEnv).Reachable w ∧ w.deliveries.get run.runId = some run ∧
      run.roomContextBundle = some bundle ∧ (CoverageCondition w run bundle ↔ met = true) := by
  simp only [sampleCondition, Option.bind_eq_bind, Option.bind_eq_some_iff] at h
  obtain ⟨w, hw, run, hrun, bundle, hbundle, hmet⟩ := h
  split at hmet
  · rename_i hid
    cases hmet
    exact ⟨w, run, bundle, reachable_of_foldlM (System.reachable_init rfl) hw, hid ▸ hrun, hbundle,
      decide_eq_true_iff.symm⟩
  · cases hmet

end Sample

/-- A turn that completes before `turn/start` is answered is reported with a receipt the server
refuses. -/
theorem early_turn_receipt_refused :
    ¬∀ (env : BridgeEnv) (w : RoomWorld) (run : RunRequested) (bundle : ContextBundle),
      (roomSystem env).Reachable w → w.deliveries.get run.runId = some run →
      run.roomContextBundle = some bundle → CoverageAgreement w run bundle := by
  intro hall
  have hsample : sampleCondition sampleEarlyTurn = some false := by decide +kernel
  obtain ⟨w, run, bundle, hreach, hrun, hbundle, hmet⟩ := sampleCondition_some hsample
  have hagree := hall sampleEnv w run bundle hreach hrun hbundle
  have hcondition :=
    coverageCondition_of_agreement (roomInv_reachable hreach) hrun hbundle hagree
  rw [hmet] at hcondition
  cases hcondition

/-- A turn answered in order agrees. -/
theorem room_context_coverage_iff_turn :
    ∃ w run bundle, (roomSystem sampleEnv).Reachable w ∧ CoverageAgreement w run bundle := by
  have hsample : sampleCondition sampleTurn = some true := by decide +kernel
  obtain ⟨w, run, bundle, hreach, hrun, hbundle, hmet⟩ := sampleCondition_some hsample
  exact ⟨w, run, bundle, hreach, (room_context_coverage_iff hreach hrun hbundle).mpr (hmet.mpr rfl)⟩

end AgentRoom.Context
