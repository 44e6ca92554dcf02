import AgentRoom.Context.EvidencePhases

/-!
# Result-evidence cursors

In a history whose every step is steady no Run is refused for a cursor gap, and
what each native session was given is one unbroken run of revisions.

Without that the two cursors part and never meet again: the server plans a delta
from its own cursor whatever the session's binding says, and a refused Run
reports no session, so nothing moves either cursor. A lost binding is enough.
-/

namespace AgentRoom.Context

variable {S : AgentSession} {w : EvidenceWorld}

/-- **What a steady step does**: a phase again, pages that join, and no refusal. -/
structure SteadyTo (S : AgentSession) (w w' : EvidenceWorld) : Prop where
  phase : Phase S w'
  given : ∀ s, w'.givenTo s = w.givenTo s ∨ ∃ n, EndsAt (w'.givenTo s) n
  refused : w'.refused = w.refused

variable {w' : EvidenceWorld}

theorem SteadyTo.of_phase (h : Phase S w') (hgiven : w'.given = w.given)
    (hrefused : w'.refused = w.refused) : SteadyTo S w w' where
  phase := h
  given := by
    intro s
    left
    unfold EvidenceWorld.givenTo
    rw [hgiven]
  refused := hrefused

theorem EvidenceInv.of_steady (h : EvidenceInv S w) (hstep : SteadyTo S w w') :
    EvidenceInv S w' where
  phase := hstep.phase
  given := by
    intro s
    rcases hstep.given s with hsame | hends
    · rw [hsame]
      exact h.given s
    · exact hends
  refused := hstep.refused.trans h.refused

/-! ## Executing a delivery -/

section Executing

variable {run : RunRequested}

theorem WaitingPhase.refused (h : WaitingPhase S w run) :
    SteadyTo S w (failedOpen w run.runId .roomContextInvalid) := by
  have hwaiting : w.waiting.erase run.runId = [] := by
    rw [h.waiting]
    simp
  refine .of_phase (.report { runId := run.runId, status := .failed, session := none } run
    ⟨h.delivered.congr rfl, hwaiting, h.executions, ?_, fun _ => h.synced.1, ?_, h.synced.2⟩)
    rfl rfl
  · show w.unapplied ++ _ = _
    rw [h.unapplied]
    rfl
  · intro scope revision htold
    cases htold

theorem WaitingPhase.resumed (h : WaitingPhase S w run) {b : RuntimeSessionBinding}
    (hb : w.store.get S.key = some b) : EndsAt (w.givenTo b.sessionId) w.server := by
  rw [← h.synced.1, bound_eq hb]
  exact h.synced.2 b hb

theorem WaitingPhase.started (h : WaitingPhase S w run) (hnone : w.store.get S.key = none) :
    w.server = 0 := by
  rw [← h.synced.1]
  simp [EvidenceWorld.bound, hnone]

/-- **A Codex execution of a page** planned at the cursor. -/
theorem WaitingPhase.codex (hkind : S.kind = .codex) (h : WaitingPhase S w run) :
    SteadyTo S w (executeRun S w run) := by
  obtain ⟨hstore, hopened⟩ := openCodex_spec hkind h
  unfold executeRun
  rw [hkind]
  dsimp only
  rcases hopened with herror | ⟨p, hok, hid, hkey, hscope, hthread, hresume, hbinding, hasked,
    hpage, hrevisions, hboot, hbootRevisions⟩
  · rw [herror, hstore]
    exact h.refused
  · rw [hok, hstore]
    have hbound : p.binding.resultEvidenceRevision = w.server := by
      rw [hbinding, loaded_revision, h.synced.1]
    refine .of_phase (.codex p run ⟨?_, ?_, ?_, h.unapplied, hkey, hscope, h.fits, ?_, hrevisions,
      hboot, hbootRevisions, .inl ⟨hthread, hresume, hbound, ?_, ?_, ?_, h.synced⟩⟩) rfl rfl
    · rw [hid]
      exact h.delivered.congr rfl
    · show w.waiting.erase run.runId = []
      rw [h.waiting]
      simp
    · show w.executions ++ [.codex p] = _
      rw [h.executions]
      rfl
    · exact hpage.part.imp_right And.left
    · intro s hs
      rw [hasked, Option.map_eq_some_iff] at hs
      obtain ⟨b, hb, rfl⟩ := hs
      exact h.resumed hb
    · intro hnone
      rw [hasked, Option.map_eq_none_iff] at hnone
      exact h.started hnone
    · intro page hgiven
      obtain ⟨-, hrun, hjoin, hlt⟩ := hpage.of page hgiven
      rw [h.synced.1] at hjoin hlt
      exact ⟨hrun, hjoin, hlt⟩

/-- **A Pi execution of a page** gives it to the native session at once. -/
theorem WaitingPhase.pi (hkind : S.kind = .pi) (h : WaitingPhase S w run)
    (hfresh : w.store.get S.key = none → ∀ g ∈ w.given, g.1 ≠ S.env.piSessionId S.key run.runId) :
    SteadyTo S w (executeRun S w run) := by
  obtain ⟨hstore, hopened⟩ := openPi_spec hkind h
  unfold executeRun
  rw [hkind]
  dsimp only
  rcases hopened with herror | ⟨e, hok, hid, hkey, hscope, hbinding, hnative, hpage⟩
  · rw [herror, hstore]
    exact h.refused
  · rw [hok, hstore]
    dsimp only
    have hbound : e.binding.resultEvidenceRevision = w.server := by
      rw [hbinding, loaded_revision, h.synced.1]
    -- a new Pi session was given nothing, a resumed one up to the cursor
    have hstart : EndsAt (w.givenTo e.nativeSessionId) w.server := by
      cases hget : w.store.get S.key with
      | none =>
        rw [hget] at hnative
        rw [hnative]
        exact (givenTo_fresh (hfresh hget)).symm ▸ endsAt_nil _
      | some b =>
        rw [hget] at hnative
        rw [hnative]
        exact h.resumed hget
    -- the page joins what the session was given
    have hends : EndsAt (w.givenTo e.nativeSessionId ++
          (e.prompt.contextPlan.resultEvidence.map (·.artifactRefs)).getD [])
        (max w.server (throughOf e.prompt.contextPlan.resultEvidence)) := by
      refine endsAt_prompt hstart _ ?_
      intro page hgiven
      obtain ⟨-, hrun, hjoin, hlt⟩ := hpage.of page hgiven
      rw [h.synced.1] at hjoin hlt
      refine ⟨hrun, ?_, Nat.le_of_lt hlt⟩
      rcases hjoin with hzero | hfrom
      · rw [hzero] at hstart
        exact .inl hstart.eq_nil
      · exact .inr hfrom
    have hgiven : ∀ s, EvidenceWorld.givenTo
        { w with
          waiting := w.waiting.erase run.runId
          executions := w.executions ++ [.pi e], given := w.given ++ piPages e } s =
        w.givenTo s ++ if s = e.nativeSessionId then
          (e.prompt.contextPlan.resultEvidence.map (·.artifactRefs)).getD [] else [] :=
      fun s => givenTo_append s e.nativeSessionId _
    refine ⟨.pi e run ⟨?_, ?_, ?_, h.unapplied, hkey, hscope, hbound, ?_, ?_, ?_, h.synced.1⟩,
      ?_, rfl⟩
    · rw [hid]
      exact h.delivered.congr rfl
    · show w.waiting.erase run.runId = []
      rw [h.waiting]
      simp
    · show w.executions ++ [.pi e] = _
      rw [h.executions]
      rfl
    · rcases hpage.part with hnone | ⟨hsome, hlt⟩
      · exact .inl hnone
      · rw [h.synced.1] at hlt
        exact .inr ⟨hsome, hlt⟩
    · rw [hgiven, if_pos rfl]
      exact hends
    · intro b hb
      have hb' : w.store.get S.key = some b := hb
      rw [hb'] at hnative
      exact hnative.symm
    · intro s
      by_cases hs : s = e.nativeSessionId
      · right
        rw [hgiven, if_pos hs, hs]
        exact ⟨_, hends⟩
      · left
        rw [hgiven, if_neg hs, List.append_nil]

end Executing

/-! ## Messages and ends -/

/-- What a message that goes on does to the parser and the store. -/
inductive Advance (p : CodexParser) (store : SessionStore) :
    CodexMessage → CodexParser.Consumed → Prop where
  | same (message : CodexMessage) (requests : List CodexRequest) (reply : String)
      (complete : Bool) (failure : String) (hquiet : turnPages requests = []) :
      Advance p store message
        { parser := { p with reply, complete, failure }, store, requests, error := none }
  | replaced (id : Nat) (kind : RefusalKind) (store' : SessionStore) (requests : List CodexRequest)
      (hfresh : p.resumeFailed = false) (hstore : store' = store ∨ store' = store.remove p.key)
      (hquiet : turnPages requests = []) :
      Advance p store (.refused id kind)
        { parser := p.replaced, store := store', requests, error := none }
  | opened (threadId : NativeId) (hnamed : threadId ≠ "") :
      Advance p store (.threadOpened threadId)
        { parser := { p with threadId, binding := { p.binding with sessionId := threadId } }
          store := store.put p.key { p.binding with sessionId := threadId }
          requests := [.turnStart threadId p.instruction], error := none }
  | turned (turnId : NativeId) (hthread : p.threadId ≠ "") :
      Advance p store (.turnStarted turnId)
        { parser :=
            { p with
              turnId
              binding := { p.binding with sessionId := p.threadId }.consume p.contextCursor
                p.runId p.revisions }
          store := store.put p.key ({ p.binding with sessionId := p.threadId }.consume
            p.contextCursor p.runId p.revisions)
          requests := [], error := none }

/-- A binding that was saved names a session. -/
theorem saveSessionBinding_none {p : CodexParser} {store : SessionStore} {consumed stored : Bool}
    {requests : List CodexRequest}
    (h : (p.saveSessionBinding store consumed stored requests).error = none) :
    p.threadId ≠ "" ∧ p.saveSessionBinding store consumed stored requests =
      { parser := { p with binding := p.savedBinding consumed }
        store := store.put p.key (p.savedBinding consumed), requests, error := none } := by
  unfold CodexParser.saveSessionBinding at h ⊢
  split at h
  · rename_i hsaved
    rw [if_pos hsaved]
    refine ⟨?_, rfl⟩
    intro hblank
    rw [hblank] at hsaved
    simp [isGoBlank] at hsaved
  · cases h

theorem threadRequest_quiet (p : CodexParser) : turnPages [p.threadRequest] = [] := by
  unfold CodexParser.threadRequest
  cases p.resumeId <;> rfl

/-- **Every message without an error** is one of these. -/
theorem consume_advance {p : CodexParser} {store : SessionStore} {stored : Bool}
    {message : CodexMessage} (h : (p.consume store stored message).error = none) :
    Advance p store message (p.consume store stored message) := by
  cases message with
  | malformed => cases h
  | request => exact .same _ _ p.reply p.complete p.failure rfl
  | other => exact .same _ _ p.reply p.complete p.failure rfl
  | initialized =>
    refine .same _ _ p.reply p.complete p.failure ?_
    exact threadRequest_quiet p
  | itemCompleted threadId turnId agentMessage text =>
    simp only [CodexParser.consume]
    split
    · exact .same _ _ (goTrim text) p.complete p.failure rfl
    · exact .same _ _ p.reply p.complete p.failure rfl
  | errorNotification willRetry text =>
    cases willRetry with
    | false => exact .same _ _ p.reply p.complete (goTrim text) rfl
    | true => exact .same _ _ p.reply p.complete p.failure rfl
  | turnCompleted threadId turnId status error =>
    simp only [CodexParser.consume] at h ⊢
    split at h
    · cases h
    · rename_i hnamed
      rw [if_neg hnamed]
      split
      · exact .same _ _ p.reply true _ rfl
      · exact .same _ _ p.reply p.complete p.failure rfl
  | threadOpened threadId =>
    simp only [CodexParser.consume] at h ⊢
    split at h
    · cases h
    · rename_i hnamed
      rw [if_neg hnamed, (saveSessionBinding_none h).2]
      exact .opened threadId hnamed
  | turnStarted turnId =>
    simp only [CodexParser.consume] at h ⊢
    split at h
    · cases h
    · rename_i hnamed
      obtain ⟨hthread, hsaved⟩ := saveSessionBinding_none h
      rw [if_neg hnamed, hsaved]
      exact .turned turnId hthread
  | refused id kind =>
    simp only [CodexParser.consume] at h ⊢
    split at h
    · rename_i hresume
      -- a resume that is refused is tried anew once
      have hfresh : p.resumeFailed = false := by simpa using hresume.2.2
      rw [if_pos hresume]
      cases kind with
      | other => cases h
      | sessionInUse =>
        dsimp only at h ⊢
        split at h
        · rename_i hnew
          rw [if_pos hnew]
          exact .replaced id _ store _ hfresh (.inl rfl) (threadRequest_quiet _)
        · cases h
      | sessionMissingOrInvalid =>
        dsimp only at h ⊢
        split at h
        · rename_i hstored
          rw [if_pos hstored]
          exact .replaced id _ _ _ hfresh (.inr rfl) (threadRequest_quiet _)
        · cases h
    · cases h

section Ending

variable {p : CodexParser} {run : RunRequested}

theorem endExecution_eq {x : Execution} (hexecutions : w.executions = [x])
    (hunapplied : w.unapplied = []) (report : SessionReport) :
    endExecution w 0 report = { w with executions := [], unapplied := [report] } := by
  unfold endExecution
  rw [hexecutions, hunapplied]
  rfl

/-- **A message of the app server.** -/
theorem CodexPhase.message (h : CodexPhase S w p run) {message : CodexMessage} {stored : Bool}
    (hsteady : SteadyMessage w p stored message) :
    SteadyTo S w (messageStep S w 0 p message stored) := by
  unfold messageStep
  dsimp only
  cases herror : (p.consume w.store stored message).error with
  | some error =>
    -- an error ends the execution, which in a steady run has recorded what it read
    have hthread : ∀ id kind, message = .refused id kind → p.threadId = "" := by
      rintro id kind rfl
      exact hsteady.1
    have hrecorded : p.Recorded := by
      have hsome : (p.consume w.store stored message).error.isSome = true := by rw [herror]; rfl
      cases message with
      | threadOpened threadId => exact hsteady.2.2 hsome
      | refused id kind => exact hsteady.2.2 hsome
      | _ => exact hsteady hsome
    dsimp only
    rw [(consume_error herror).1, endExecution_eq h.executions h.unapplied]
    exact .of_phase (.report _ run (h.ended hrecorded (consume_error_tells herror hthread)))
      rfl rfl
  | none =>
    have hadvance := consume_advance herror
    have hset : ∀ x, w.executions.set 0 x = [x] := by
      intro x
      rw [h.executions]
      rfl
    dsimp only
    rw [hset]
    generalize p.consume w.store stored message = consumed at hadvance ⊢
    cases hadvance with
    | same _ requests reply complete failure hquiet =>
      rw [hquiet, List.append_nil]
      exact .of_phase (.codex _ run (h.cosmetic reply complete failure)) rfl rfl
    | replaced id kind store' requests hfresh hstore hquiet =>
      rw [hquiet, List.append_nil]
      rw [h.key] at hstore
      exact .of_phase (.codex _ run (h.replaced hsteady.1 hsteady.2.1 hfresh hstore)) rfl rfl
    | opened threadId hnamed =>
      obtain ⟨hphase, hgiven⟩ := h.opened hnamed hsteady.1 hsteady.2.1
      -- the turn gives the thread the page of the instruction
      have hpages : turnPages [.turnStart threadId p.instruction] =
          (p.instruction.contextPlan.resultEvidence.map fun page => (threadId, page)).toList :=
        List.append_nil _
      dsimp only
      rw [hpages]
      exact ⟨.codex _ run hphase, fun s => (hgiven s).imp_right fun hends => ⟨_, hends⟩, rfl⟩
    | turned turnId hthread =>
      have hquiet : turnPages [] = [] := rfl
      dsimp only
      rw [hquiet, List.append_nil]
      exact .of_phase (.codex _ run (h.turned hthread turnId)) rfl rfl

/-- **A Pi execution ends.** -/
theorem PiPhase.ended {e : PiExecution} (h : PiPhase S w e run) {stored reported : Bool}
    {outcome : PiExecution.Outcome}
    (hsteady : e.Silent ∨ (reported = true ∧ (stored && !isGoBlank e.nativeSessionId) = true ∧
      ∃ reply, outcome = .replied reply)) :
    let finished := e.finish S.env.clarifies w.store stored outcome
    SteadyTo S w
      (if reported then endExecution { w with store := finished.1 } 0 finished.2
        else { w with store := finished.1, executions := w.executions.eraseIdx 0 }) := by
  intro finished
  obtain ⟨hid, hends, hunreported, hsession⟩ := h.finished S.env.clarifies hsteady
  cases reported with
  | false =>
    -- the Run was not told of: the execution is gone
    have hempty : w.executions.eraseIdx 0 = [] := by rw [h.executions]; rfl
    rw [if_neg Bool.false_ne_true, hempty]
    exact .of_phase (.idle ⟨h.waiting, rfl, h.unapplied, hunreported rfl, hends⟩) rfl rfl
  | true =>
    -- the end is a report that waits to be applied
    have hended : endExecution { w with store := finished.1 } 0 finished.2 =
        { w with store := finished.1, executions := [], unapplied := [finished.2] } := by
      unfold endExecution
      rw [h.executions, h.unapplied]
      rfl
    rw [if_pos rfl, hended]
    refine .of_phase (.report finished.2 run ⟨⟨?_, ?_, h.delivered.task, h.delivered.agent,
      h.delivered.scope, h.delivered.resume⟩, h.waiting, rfl, rfl, ?_, ?_, hends⟩) rfl rfl
    · show w.deliveries.get finished.2.runId = some run
      rw [hid]
      exact h.delivered.stored
    · rw [hid]
      exact h.delivered.runId_eq
    · intro hnone
      rcases hsession with ⟨-, hbound⟩ | ⟨session, hs, hscope, hrevision, -⟩
      · exact hbound
      · rw [hs, evidenceCursor_told hscope hrevision] at hnone
        cases hnone
    · intro scope revision htold
      rcases hsession with ⟨hnone, -⟩ | ⟨session, hs, hscope, hrevision, hack⟩
      · rw [hnone] at htold
        cases htold
      · rw [hs, evidenceCursor_told hscope hrevision] at htold
        cases htold
        exact ⟨rfl, rfl, hack⟩

/-- The one report to apply. -/
theorem Phase.of_report (h : Phase S w) {i : Nat} {report : SessionReport}
    (hget : w.unapplied[i]? = some report) :
    i = 0 ∧ ∃ run, ReportPhase S w report run := by
  have hnone : w.unapplied = [] → False := by
    intro hempty
    rw [hempty] at hget
    simp at hget
  cases h with
  | idle h => exact (hnone h.unapplied).elim
  | waiting run h => exact (hnone h.unapplied).elim
  | codex p run h => exact (hnone h.unapplied).elim
  | pi e run h => exact (hnone h.unapplied).elim
  | report report' run h =>
    cases i with
    | zero =>
      rw [h.unapplied] at hget
      cases hget
      exact ⟨rfl, run, h⟩
    | succ n =>
      rw [h.unapplied] at hget
      simp at hget

/-- **A report that moves no cursor may be lost.** -/
theorem Phase.loseReport (h : Phase S w) {i : Nat}
    (hlost : ∀ report scope revision, w.unapplied[i]? = some report →
      BridgeRunEventService.evidenceCursor report.session = some (scope, revision) →
      revision ≤ w.cursor.getD 0) :
    Phase S { w with unapplied := w.unapplied.eraseIdx i } := by
  cases hget : w.unapplied[i]? with
  | none =>
    rw [List.getElem?_eq_none_iff] at hget
    rw [List.eraseIdx_of_length_le hget]
    exact h
  | some report =>
    obtain ⟨rfl, run, hreport⟩ := h.of_report hget
    have hempty : w.unapplied.eraseIdx 0 = [] := by rw [hreport.unapplied]; rfl
    have hcursor : w.cursor.getD 0 = w.bound S := by
      cases htold : BridgeRunEventService.evidenceCursor report.session with
      | none => exact (hreport.silent htold).symm
      | some told =>
        obtain ⟨scope, revision⟩ := told
        have hle := hlost report scope revision hget htold
        obtain ⟨-, hrevision, hack⟩ := hreport.told scope revision htold
        have hserver : w.server = w.cursor.getD 0 := rfl
        rcases hack with heq | ⟨hlt, -⟩ <;> omega
    rw [hempty]
    exact hreport.settled hcursor

end Ending

/-! ## Steady histories -/

/-- **One steady step.** -/
theorem evidenceInv_step (h : EvidenceInv S w) {action : EvidenceAction}
    (hok : SteadyStep S action w) (hstep : w.act S action = some w') : EvidenceInv S w' := by
  refine h.of_steady ?_
  have hphase := h.phase
  cases action with
  | publish =>
    cases hstep
    exact .of_phase hphase.publish rfl rfl
  | plan run fence =>
    simp only [EvidenceWorld.act] at hstep
    split at hstep
    · cases hstep
    · rename_i hnew
      cases hstep
      exact .of_phase (hphase.plan hok run (by omega)) rfl rfl
  | execute runId =>
    simp only [EvidenceWorld.act] at hstep
    split at hstep
    · rename_i hmem
      rw [Option.map_eq_some_iff] at hstep
      obtain ⟨run, hrun, rfl⟩ := hstep
      cases hphase with
      | idle h => rw [h.waiting] at hmem; cases hmem
      | codex p run h => rw [h.waiting] at hmem; cases hmem
      | pi e run h => rw [h.waiting] at hmem; cases hmem
      | report report run h => rw [h.waiting] at hmem; cases hmem
      | waiting run' h =>
        -- only the one waiting Run can be executed
        rw [h.waiting, List.mem_singleton] at hmem
        subst hmem
        rw [h.delivered.stored] at hrun
        cases hrun
        cases hkind : S.kind with
        | codex => exact h.codex hkind
        | pi => exact h.pi hkind (hok hkind)
    · cases hstep
  | codexMessage slot message stored =>
    simp only [EvidenceWorld.act] at hstep
    split at hstep
    · rename_i p hget
      split at hstep
      · cases hstep
      · cases hstep
        obtain ⟨rfl, ⟨p', run, hp, hcodex⟩ | ⟨e, run, he, -⟩⟩ := hphase.of_execution hget
        · cases hp
          exact hcodex.message (hok p hget)
        · cases he
    · cases hstep
  | codexEnd slot outcome =>
    simp only [EvidenceWorld.act] at hstep
    split at hstep
    · rename_i p hget
      split at hstep
      · rename_i hexternal
        cases hstep
        obtain ⟨rfl, ⟨p', run, hp, hcodex⟩ | ⟨e, run, he, -⟩⟩ := hphase.of_execution hget
        · cases hp
          rw [endExecution_eq hcodex.executions hcodex.unapplied]
          exact .of_phase (.report _ run (hcodex.ended (hok p hget)
            (finish_tells S.env.clarifies p outcome (.inl hexternal)))) rfl rfl
        · cases he
      · cases hstep
    · cases hstep
  | piEnd slot stored reported outcome =>
    simp only [EvidenceWorld.act] at hstep
    split at hstep
    · rename_i e hget
      cases hstep
      obtain ⟨rfl, ⟨p, run, hp, -⟩ | ⟨e', run, he, hpi⟩⟩ := hphase.of_execution hget
      · cases hp
      · cases he
        exact hpi.ended (hok e hget)
    · cases hstep
  | drop slot =>
    cases hstep
    exact .of_phase (hphase.drop hok) rfl rfl
  | apply i =>
    simp only [EvidenceWorld.act, Option.bind_eq_some_iff, Option.map_eq_some_iff] at hstep
    obtain ⟨report, hget, run, hrun, hstep⟩ := hstep
    obtain ⟨rfl, run', hreport⟩ := hphase.of_report hget
    rw [hreport.delivered.stored] at hrun
    cases hrun
    -- the server accepts the report and moves its cursor with it
    obtain ⟨cursor, hack, hcursor⟩ := hreport.acknowledged
    have hempty : w.unapplied.eraseIdx 0 = [] := by rw [hreport.unapplied]; rfl
    rw [hack] at hstep
    dsimp only at hstep
    rw [hempty] at hstep
    subst hstep
    exact .of_phase (hreport.settled hcursor) rfl rfl
  | loseReport i =>
    cases hstep
    exact .of_phase (hphase.loseReport hok) rfl rfl
  | loseBinding =>
    cases hstep
    exact .of_phase (hphase.loseBinding hok) rfl rfl

/-- **Result-evidence cursors.** In every steady history no Run is refused for a cursor gap, and
each native session was given one unbroken run of revisions. -/
theorem evidence_cursors_together {S : AgentSession} {w : EvidenceWorld}
    (h : ((evidenceSystem S).restrict (SteadyStep S)).Reachable w) :
    w.refused = [] ∧
      ∀ session, ∃ low, w.givenTo session = List.range' (low + 1) (w.givenTo session).length := by
  have hinv : EvidenceInv S w := by
    refine System.invariant (EvidenceInv S) ?_ ?_ h
    · intro s hinit
      cases hinit
      exact evidenceInv_initial S
    · intro action s s' hstep hs
      exact evidenceInv_step hs hstep.1 hstep.2
  refine ⟨hinv.refused, ?_⟩
  intro session
  obtain ⟨n, hends⟩ := hinv.given session
  exact hends.contiguous

/-! ## A lost binding -/

section Sample

def evidenceSample : AgentSession where
  env := { agentRuntimeScopeId _ _ := "scope", piSessionId _ _ := "session", clarifies _ := false }
  kind := .codex
  config :=
    { workspaceFingerprint := "w", configFingerprint := "c", startNewOnConflict := false }
  taskId := 0
  agentId := 0

/-- A Run without any context of its own. -/
def evidenceRun (runId : RunId) : RunRequested where
  runId
  taskId := 0
  session :=
    { contextCursor := 0, resumePolicy := .resumeOrStart, runtimeScopeId := none }
  triggerMessageId := 0
  targetAgentId := 0
  contextPlan :=
    { roomMemory := none, taskMemory := none, roomLongTermMemory := none
      taskLongTermMemory := none, resultEvidence := none }
  contextMessages := []
  roomContextBundle := none

/-- An Artifact is published, given to a Codex thread, reported and acknowledged. -/
def evidenceAccepted : List EvidenceAction :=
  [.publish, .plan (evidenceRun 1) 1, .execute 1, .codexMessage 0 .initialized true,
    .codexMessage 0 (.threadOpened "thread") true, .codexMessage 0 (.turnStarted "turn") true,
    .codexMessage 0 (.itemCompleted "thread" "turn" true "done") true,
    .codexMessage 0 (.turnCompleted "thread" "turn" "completed" "") true, .codexEnd 0 .ended,
    .apply 0]

/-- The binding is lost before the next page is planned. -/
def evidenceLost : List EvidenceAction :=
  evidenceAccepted ++ [.publish, .loseBinding, .plan (evidenceRun 2) 2, .execute 2]

theorem evidence_reachable {S : AgentSession} {actions : List EvidenceAction}
    {w w' : EvidenceWorld} (h : (evidenceSystem S).Reachable w)
    (hrun : actions.foldlM (EvidenceWorld.act S) w = some w') :
    (evidenceSystem S).Reachable w' := by
  induction actions generalizing w with
  | nil => cases hrun; exact h
  | cons action actions ih =>
    rw [List.foldlM_cons] at hrun
    obtain ⟨middle, hstep, hrest⟩ := Option.bind_eq_some_iff.mp hrun
    exact ih (System.reachable_step h
      (show (evidenceSystem S).step action w middle from hstep)) hrest

end Sample

/-- A Run planned after its session's binding was lost is refused for a cursor gap. -/
theorem lost_binding_refused :
    ¬∀ (S : AgentSession) (w : EvidenceWorld), (evidenceSystem S).Reachable w →
      w.refused = [] ∧
        ∀ session, ∃ low,
          w.givenTo session = List.range' (low + 1) (w.givenTo session).length := by
  intro hall
  have hsample : (evidenceLost.foldlM (EvidenceWorld.act evidenceSample) .initial).map (·.refused) =
      some [2] := by decide +kernel
  rw [Option.map_eq_some_iff] at hsample
  obtain ⟨w, hrun, hrefused⟩ := hsample
  have hnone := (hall evidenceSample w (evidence_reachable (System.reachable_init rfl) hrun)).1
  rw [hrefused] at hnone
  cases hnone

/-- A steady history in which a thread is given its first page. -/
theorem evidence_cursors_together_opened :
    ∃ w, ((evidenceSystem evidenceSample).restrict (SteadyStep evidenceSample)).Reachable w ∧
      w.givenTo "thread" = [1] ∧ w.refused = [] := by
  have hinit : ((evidenceSystem evidenceSample).restrict (SteadyStep evidenceSample)).Reachable
      .initial := System.reachable_init rfl
  have hpublished := System.reachable_step (i := EvidenceAction.publish) hinit ⟨trivial, rfl⟩
  have hplanned := System.reachable_step (i := EvidenceAction.plan (evidenceRun 1) 1) hpublished
    ⟨⟨rfl, rfl, rfl⟩, rfl⟩
  have hexecuted := System.reachable_step (i := EvidenceAction.execute 1) hplanned
    ⟨(by intro hpi; cases hpi), rfl⟩
  have hopened := System.reachable_step
    (i := EvidenceAction.codexMessage 0 (.threadOpened "thread") true) hexecuted
    ⟨by
      intro p hp
      cases hp
      refine ⟨rfl, ?_, ?_⟩
      · intro g hg
        cases hg
      · intro herror
        exact absurd herror Bool.false_ne_true,
      rfl⟩
  exact ⟨_, hopened, by rfl, (evidence_cursors_together hopened).1⟩

end AgentRoom.Context
