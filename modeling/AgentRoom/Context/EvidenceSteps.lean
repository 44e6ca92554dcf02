import AgentRoom.Context.EvidenceInvariant

/-!
# One steady step

Each operation moves the session's one outstanding Run from one phase to the
next: planning a page, opening an execution, each message of the app server, its
end, and the server's application of its report.
-/

namespace AgentRoom.Context

variable {S : AgentSession} {w : EvidenceWorld}

/-! ## What was given -/

/-- A session is given what is appended under its own id. -/
theorem givenTo_append {given : List (NativeId × EvidencePage)} (session target : NativeId)
    (evidence : Option EvidencePage) :
    ((given ++ (evidence.map fun page => (target, page)).toList).filter (·.1 = session)).flatMap
        (·.2.artifactRefs) =
      (given.filter (·.1 = session)).flatMap (·.2.artifactRefs) ++
        if session = target then (evidence.map (·.artifactRefs)).getD [] else [] := by
  rw [List.filter_append, List.flatMap_append]
  congr 1
  cases evidence with
  | none => simp
  | some page =>
    by_cases hsame : session = target
    · subst hsame
      simp
    · have hother : ¬target = session := fun h => hsame h.symm
      simp [hsame, hother]

theorem givenTo_fresh {session : NativeId} (h : ∀ g ∈ w.given, g.1 ≠ session) :
    w.givenTo session = [] := by
  unfold EvidenceWorld.givenTo
  rw [List.filter_eq_nil_iff.mpr]
  · rfl
  · intro g hg
    rw [decide_eq_true_eq]
    exact h g hg

variable {n : Nat}

/-- **A prompt's page ends where it brings the session.** -/
theorem endsAt_prompt {g : List Nat} (h : EndsAt g n) (evidence : Option EvidencePage)
    (hpage : ∀ page, evidence = some page → PageRun page ∧
      (g = [] ∨ page.fromRevision = n) ∧ n ≤ page.throughRevision) :
    EndsAt (g ++ (evidence.map (·.artifactRefs)).getD []) (max n (throughOf evidence)) := by
  cases evidence with
  | none => simpa [throughOf] using h
  | some page =>
    obtain ⟨hrun, hjoin, hle⟩ := hpage page rfl
    have hmax : max n (throughOf (some page)) = page.throughRevision := by
      simp only [throughOf, Option.map_some, Option.getD_some]
      omega
    rw [hmax]
    rcases hjoin with rfl | hfrom
    · exact (endsAt_nil 0).append hrun (.inl rfl)
    · exact h.append hrun (.inr hfrom)

/-! ## Opening -/

variable {run : RunRequested}

theorem planRuntimeSession_ok {kind : RuntimeKind} {runId : RunId} (hkind : S.kind = kind)
    (h : Delivered S w runId run) :
    planRuntimeSession S.env.agentRuntimeScopeId kind S.config run =
      .ok
        { key := S.key, scopeId := S.scope, contextCursor := run.session.contextCursor
          resumePolicy := .resumeOrStart } := by
  subst hkind
  have hscope : run.session.runtimeScopeId.any
      (· ≠ S.env.agentRuntimeScopeId S.kind S.config) = false := by
    rw [h.scope]
    simp [AgentSession.scope]
  unfold planRuntimeSession
  simp only [hscope, Bool.false_eq_true, if_false, h.task, h.agent, h.resume]
  rfl

theorem loadSession_resume {store : SessionStore} {plan : RuntimeSessionPlan}
    (h : plan.resumePolicy = .resumeOrStart) :
    loadSession store plan =
      { store, binding := (store.get plan.key).getD {}, found := (store.get plan.key).isSome } := by
  unfold loadSession
  cases store.get plan.key with
  | none => rfl
  | some binding => simp [h]

theorem loaded_revision :
    ((w.store.get S.key).getD {}).resultEvidenceRevision = w.bound S := by
  unfold EvidenceWorld.bound
  cases w.store.get S.key <;> rfl

variable {prepared : RunRequested} {disposition : SessionDisposition}
  {receipt : Option RoomContextConsumption}

/-- Preparing a prompt's Room context leaves its plan alone. -/
theorem prepare_plan {binding : RuntimeSessionBinding}
    (h : prepareRoomContextForSession run binding disposition = .ok (prepared, receipt)) :
    prepared.contextPlan = run.contextPlan := by
  unfold prepareRoomContextForSession at h
  split at h
  · cases h
    rfl
  · rename_i bundle hbundle
    cases hvalid : validateRoomContext run bundle with
    | error e => rw [hvalid] at h; cases h
    | ok u =>
      rw [hvalid] at h
      cases h
      rfl

theorem promptFor_evidence {loaded : LoadedSession}
    (hfits : PageFits run.contextPlan.resultEvidence loaded.binding.resultEvidenceRevision)
    (hempty : loaded.found = false → loaded.binding.resultEvidenceRevision = 0) :
    GivenPage (promptFor run loaded).contextPlan.resultEvidence run.contextPlan.resultEvidence
      loaded.binding.resultEvidenceRevision := by
  unfold promptFor
  split
  · exact hfits.newer
  · rename_i hfound
    have hzero := hempty (by simpa using hfound)
    rw [hzero] at hfits ⊢
    exact hfits.whole

theorem GivenPage.part {given evidence : Option EvidencePage} (h : GivenPage given evidence n) :
    given = none ∨ (given = evidence ∧ n < throughOf evidence) := by
  cases given with
  | none => exact .inl rfl
  | some page =>
    obtain ⟨hsome, -, -, hlt⟩ := h.of page rfl
    refine .inr ⟨hsome.symm, ?_⟩
    rw [hsome]
    exact hlt

/-- A delivered page fits the binding that is loaded. -/
theorem WaitingPhase.loaded (h : WaitingPhase S w run) :
    PageFits run.contextPlan.resultEvidence
      ((w.store.get S.key).getD {}).resultEvidenceRevision := by
  rw [loaded_revision (S := S) (w := w), h.synced.1]
  exact h.fits

/-- What a prompt for the loaded binding gives of a delivered page. -/
theorem WaitingPhase.given (h : WaitingPhase S w run) (hprep : prepareRoomContextForSession
      (promptFor run ⟨w.store, (w.store.get S.key).getD {}, (w.store.get S.key).isSome⟩)
      ((w.store.get S.key).getD {}) disposition = .ok (prepared, receipt)) :
    GivenPage prepared.contextPlan.resultEvidence run.contextPlan.resultEvidence (w.bound S) := by
  rw [prepare_plan hprep, ← loaded_revision (S := S) (w := w)]
  refine promptFor_evidence h.loaded fun hnone => ?_
  dsimp only at hnone ⊢
  rw [Option.isSome_eq_false_iff, Option.isNone_iff_eq_none] at hnone
  rw [hnone]
  rfl

/-- **Opening a Codex session**: the parser starts at the stored binding, or the Run is refused
for its Room context only. -/
theorem openCodex_spec (hkind : S.kind = .codex) (h : WaitingPhase S w run) :
    (openCodex S.env.agentRuntimeScopeId w.store S.config run).1 = w.store ∧
      ((openCodex S.env.agentRuntimeScopeId w.store S.config run).2 = .error .roomContextInvalid ∨
        ∃ p, (openCodex S.env.agentRuntimeScopeId w.store S.config run).2 = .ok p ∧
          p.runId = run.runId ∧ p.key = S.key ∧ p.runtimeScopeId = S.scope ∧
          p.threadId = "" ∧ p.resumeFailed = false ∧
          p.binding = (w.store.get S.key).getD {} ∧
          p.resumeId = (w.store.get S.key).map (·.sessionId) ∧
          GivenPage p.instruction.contextPlan.resultEvidence run.contextPlan.resultEvidence
            (w.bound S) ∧
          p.revisions.resultEvidence = throughOf p.instruction.contextPlan.resultEvidence ∧
          p.bootstrapInstruction.contextPlan.resultEvidence =
            run.contextPlan.resultEvidence ∧
          p.bootstrapRevisions.resultEvidence = throughOf run.contextPlan.resultEvidence) := by
  unfold openCodex
  rw [planRuntimeSession_ok hkind h.delivered]
  dsimp only
  rw [loadSession_resume rfl]
  refine ⟨rfl, ?_⟩
  dsimp only
  rw [h.loaded.no_gap]
  simp only [Bool.false_eq_true, if_false]
  split
  · rename_i bootstrapRun bootstrapConsumption promptRun consumption hboot hprep
    refine .inr ⟨_, rfl, rfl, rfl, rfl, rfl, rfl, rfl, ?_, h.given hprep, ?_, ?_, ?_⟩
    · cases w.store.get S.key <;> rfl
    · exact promptRevisions_evidence _
    · dsimp only
      rw [prepare_plan hboot]
    · dsimp only
      rw [promptRevisions_evidence, prepare_plan hboot]
  · exact .inl rfl

/-- **Opening a Pi session**, alike. -/
theorem openPi_spec (hkind : S.kind = .pi) (h : WaitingPhase S w run) :
    (openPi S.env.agentRuntimeScopeId S.env.piSessionId w.store S.config run).1 = w.store ∧
      ((openPi S.env.agentRuntimeScopeId S.env.piSessionId w.store S.config run).2 =
          .error .roomContextInvalid ∨
        ∃ e, (openPi S.env.agentRuntimeScopeId S.env.piSessionId w.store S.config run).2 = .ok e ∧
          e.runId = run.runId ∧ e.key = S.key ∧ e.runtimeScopeId = S.scope ∧
          e.binding = (w.store.get S.key).getD {} ∧
          e.nativeSessionId = ((w.store.get S.key).map (·.sessionId)).getD
            (S.env.piSessionId S.key run.runId) ∧
          GivenPage e.prompt.contextPlan.resultEvidence run.contextPlan.resultEvidence
            (w.bound S)) := by
  unfold openPi
  rw [planRuntimeSession_ok hkind h.delivered]
  dsimp only
  rw [loadSession_resume rfl]
  refine ⟨rfl, ?_⟩
  dsimp only
  rw [h.loaded.no_gap]
  simp only [Bool.false_eq_true, if_false]
  split
  · rename_i promptRun consumption hprep
    refine .inr ⟨_, rfl, rfl, rfl, rfl, rfl, ?_, h.given hprep⟩
    cases w.store.get S.key <;> rfl
  · exact .inl rfl

/-! ## Ending -/

theorem slot_of_single {executions : List Execution} {x y : Execution} {slot : Nat}
    (h : executions = [x]) (hget : executions[slot]? = some y) : slot = 0 ∧ y = x := by
  subst h
  cases slot with
  | zero =>
    cases hget
    exact ⟨rfl, rfl⟩
  | succ n => simp at hget

/-- What a report says of the session it ends. -/
def Tells (p : CodexParser) (report : SessionReport) : Prop :=
  report.runId = p.runId ∧
    ((report.session = none ∧ (p.binding.lastRunId ≠ some p.runId ∨ p.Untouched)) ∨
      ∃ session, report.session = some session ∧ session.runtimeScopeId = some p.runtimeScopeId ∧
        session.resultEvidenceRevision = some p.binding.resultEvidenceRevision)

theorem evidenceCursor_told {session : RuntimeSession} {scope : String} {revision : Nat}
    (hscope : session.runtimeScopeId = some scope)
    (hrevision : session.resultEvidenceRevision = some revision) :
    BridgeRunEventService.evidenceCursor (some session) = some (scope, revision) := by
  simp [BridgeRunEventService.evidenceCursor, hscope, hrevision]

/-- **A Codex execution's report** carries its binding's revision, unless its Run was not
accepted. -/
theorem finish_tells (clarifies : String → Bool) (p : CodexParser) (outcome : LoopEnd)
    (hexternal : outcome.external = true ∨ p.Untouched) :
    Tells p (p.finish clarifies outcome) := by
  have haccepted : ∀ status,
      Tells p { runId := p.runId, status, session := p.acceptedLogicalSessionStatus } := by
    intro status
    refine ⟨rfl, ?_⟩
    unfold CodexParser.acceptedLogicalSessionStatus
    split
    · exact .inr ⟨_, rfl, rfl, rfl⟩
    · rename_i hunnamed
      exact .inl ⟨rfl, .inl hunnamed⟩
  unfold CodexParser.finish
  split
  · exact haccepted _
  · exact ⟨rfl, .inl ⟨rfl, .inr (hexternal.resolve_left (by decide))⟩⟩
  · exact ⟨rfl, .inl ⟨rfl, .inr (hexternal.resolve_left (by decide))⟩⟩
  · exact haccepted _
  · split_ifs
    · exact haccepted _
    · exact haccepted _
    · exact haccepted _
    · exact haccepted _
    · exact ⟨rfl, .inr ⟨_, rfl, rfl, rfl⟩⟩
    · exact ⟨rfl, .inr ⟨_, rfl, rfl, rfl⟩⟩

/-- **The end of a recorded Codex execution** leaves a report the server can apply. -/
theorem CodexPhase.ended {p : CodexParser} (h : CodexPhase S w p run) (hrecorded : p.Recorded)
    {report : SessionReport} (htells : Tells p report) :
    ReportPhase S { w with executions := [], unapplied := [report] } report run := by
  obtain ⟨hid, hsession⟩ := htells
  -- the stored revision, what the report may say of it, and what the binding's session has
  obtain ⟨hbound, hack, hsilent, hends⟩ :
      w.bound S = p.binding.resultEvidenceRevision ∧
        Ackable run w.server p.binding.resultEvidenceRevision ∧
        (p.binding.lastRunId ≠ some p.runId ∨ p.Untouched →
          p.binding.resultEvidenceRevision = w.server) ∧ w.BindingEnds S := by
    rcases h.stage with hs | hs | hs
    · refine ⟨hs.synced.1.trans hs.bound.symm, .inl hs.bound, fun _ => hs.bound, hs.synced.2⟩
    · have hzero : w.server = 0 := by
        rcases hrecorded with ⟨-, hfresh⟩ | hle
        · rw [hs.failed] at hfresh
          cases hfresh
        · have hreach := hs.reaches
          have hb := hs.bound
          omega
      rw [hs.bound, hzero]
      rcases hs.synced with hsynced | hnone
      · exact ⟨hsynced.1.trans hzero, .inl rfl, fun _ => rfl, hsynced.2⟩
      · refine ⟨?_, .inl rfl, fun _ => rfl, ?_⟩
        · simp [EvidenceWorld.bound, hnone]
        · intro b hb
          rw [hnone] at hb
          cases hb
    · have hle : p.revisions.resultEvidence ≤ p.binding.resultEvidenceRevision := by
        rcases hrecorded with ⟨hthread, -⟩ | hle
        · exact absurd hthread hs.thread
        · exact hle
      have hmax : max p.binding.resultEvidenceRevision p.revisions.resultEvidence =
          p.binding.resultEvidenceRevision := Nat.max_eq_left hle
      have hack := hs.ackable
      rw [hmax] at hack
      refine ⟨hs.bound, hack, ?_, ?_⟩
      · rintro (hunnamed | huntouched)
        · have hbelow := hs.unnamed hunnamed
          rcases hack with heq | ⟨hlt, -⟩
          · exact heq
          · omega
        · exact absurd huntouched.1 hs.thread
      · intro b hb
        have hrev : w.bound S = b.resultEvidenceRevision := by
          simp [EvidenceWorld.bound, hb]
        rw [hs.session b hb, ← hrev, hs.bound, ← hmax]
        exact hs.ends
  refine ⟨⟨hid ▸ h.delivered.stored, hid ▸ h.delivered.runId_eq, h.delivered.task,
    h.delivered.agent, h.delivered.scope, h.delivered.resume⟩, h.waiting, rfl, rfl, ?_, ?_, hends⟩
  · intro hnone
    rcases hsession with ⟨-, hwhy⟩ | ⟨session, hs, hscope, hrevision⟩
    · exact hbound.trans (hsilent hwhy)
    · rw [hs, evidenceCursor_told hscope hrevision] at hnone
      cases hnone
  · intro scope revision htold
    rcases hsession with ⟨hnone, -⟩ | ⟨session, hs, hscope, hrevision⟩
    · rw [hnone] at htold
      cases htold
    · rw [hs, evidenceCursor_told hscope hrevision] at htold
      cases htold
      exact ⟨h.scope, hbound.symm, hack⟩

end AgentRoom.Context
