import AgentRoom.Context.EvidenceMessages

/-!
# From phase to phase

What planning, publishing, a crash, a lost binding, the end of an execution and
the server's acknowledgement do to the phase of a session.
-/

namespace AgentRoom.Context

variable {S : AgentSession} {w : EvidenceWorld}

/-! ## Steps by phase -/

theorem Phase.of_execution (h : Phase S w) {slot : Nat} {x : Execution}
    (hget : w.executions[slot]? = some x) :
    slot = 0 ∧ ((∃ p run, x = .codex p ∧ CodexPhase S w p run) ∨
      ∃ e run, x = .pi e ∧ PiPhase S w e run) := by
  cases h with
  | idle h => rw [h.executions] at hget; simp at hget
  | waiting run h => rw [h.executions] at hget; simp at hget
  | report report run h => rw [h.executions] at hget; simp at hget
  | codex p run h =>
    obtain ⟨hslot, rfl⟩ := slot_of_single h.executions hget
    exact ⟨hslot, .inl ⟨p, run, rfl, h⟩⟩
  | pi e run h =>
    obtain ⟨hslot, rfl⟩ := slot_of_single h.executions hget
    exact ⟨hslot, .inr ⟨e, run, rfl, h⟩⟩

/-- Publishing an Artifact is in no phase's way. -/
theorem Phase.publish (h : Phase S w) : Phase S { w with published := w.published + 1 } := by
  cases h with
  | idle h => exact .idle { h with }
  | waiting run h => exact .waiting run { h with delivered := h.delivered.congr rfl }
  | codex p run h =>
    refine .codex p run { h with delivered := h.delivered.congr rfl, stage := ?_ }
    rcases h.stage with hs | hs | hs
    · exact .inl { hs with }
    · exact .inr (.inl { hs with })
    · exact .inr (.inr { hs with })
  | pi e run h => exact .pi e run { h with delivered := h.delivered.congr rfl }
  | report report run h =>
    exact .report report run { h with delivered := h.delivered.congr rfl }

/-- **A page is planned** when nothing of the session is outstanding. -/
theorem Phase.plan (h : Phase S w) (hquiet : w.waiting = [] ∧ w.executions = [] ∧ w.unapplied = [])
    (run : RunRequested) {fence : Nat} (hfence : fence ≤ w.published) :
    Phase S { w with
      deliveries := w.deliveries.put run.runId (plannedRun S w run fence)
      waiting := w.waiting ++ [run.runId] } := by
  obtain ⟨hwaiting, hexecutions, hunapplied⟩ := hquiet
  have hsynced : w.Synced S := by
    cases h with
    | idle h => exact h.synced
    | waiting run h => exact h.synced
    | codex p run h => rw [h.executions] at hexecutions; cases hexecutions
    | pi e run h => rw [h.executions] at hexecutions; cases hexecutions
    | report report run h => rw [h.unapplied] at hunapplied; cases hunapplied
  refine .waiting (plannedRun S w run fence) ⟨⟨Table.get_put_self _ _ _, rfl, rfl, rfl, rfl, rfl⟩,
    ?_, hexecutions, hunapplied, planResultEvidence_fits hfence w.cursor, hsynced⟩
  show w.waiting ++ [run.runId] = [run.runId]
  rw [hwaiting]
  rfl

theorem ReportPhase.settled {report : SessionReport} {run : RunRequested}
    (h : ReportPhase S w report run) {cursor : Option Nat} (hcursor : cursor.getD 0 = w.bound S) :
    Phase S { w with cursor, unapplied := [] } :=
  .idle ⟨h.waiting, h.executions, rfl, hcursor.symm, h.ends⟩

/-- **The server takes every report of a steady history.** -/
theorem ReportPhase.acknowledged {report : SessionReport} {run : RunRequested}
    (h : ReportPhase S w report run) :
    ∃ cursor, acknowledgeReport w.cursor run report.session = .ok cursor ∧
      cursor.getD 0 = w.bound S := by
  unfold acknowledgeReport
  cases htold : BridgeRunEventService.evidenceCursor report.session with
  | none => exact ⟨w.cursor, rfl, (h.silent htold).symm⟩
  | some told =>
    obtain ⟨scope, revision⟩ := told
    obtain ⟨rfl, hrevision, hack⟩ := h.told scope revision htold
    dsimp only
    rcases hack with heq | ⟨hlt, hthrough⟩
    · have hle : revision ≤ w.cursor.getD 0 := Nat.le_of_eq heq
      refine ⟨w.cursor, ?_, ?_⟩
      · simp only [checkAcknowledgement, if_pos hle]
        rfl
      · rw [← hrevision, heq]
        rfl
    · have hnot : ¬revision ≤ w.cursor.getD 0 := Nat.not_le.mpr hlt
      refine ⟨some (max (w.cursor.getD 0) revision), ?_, ?_⟩
      · simp only [checkAcknowledgement, if_neg hnot, h.delivered.scope, hthrough, ne_eq,
          not_true, or_self, if_false]
        rfl
      · rw [← hrevision]
        simp only [Option.getD_some]
        omega

/-- A stored binding at revision zero can be lost. -/
theorem Phase.loseBinding (h : Phase S w)
    (hzero : ∀ b, w.store.get S.key = some b → b.resultEvidenceRevision = 0) :
    Phase S { w with store := w.store.remove S.key } := by
  -- a binding at revision zero says no more than none
  have hbound : w.bound S = 0 := by
    unfold EvidenceWorld.bound
    cases hget : w.store.get S.key with
    | none => rfl
    | some b => exact hzero b hget
  have hnone : (w.store.remove S.key).get S.key = none := Table.get_remove_self _ _
  have hbound' : ({ w with store := w.store.remove S.key } : EvidenceWorld).bound S = 0 := by
    simp [EvidenceWorld.bound, hnone]
  have hends : ({ w with store := w.store.remove S.key } : EvidenceWorld).BindingEnds S := by
    intro b hb
    rw [hnone] at hb
    cases hb
  have hsynced : w.bound S = w.server →
      ({ w with store := w.store.remove S.key } : EvidenceWorld).Synced S :=
    fun hs => ⟨hbound'.trans (hbound.symm.trans hs), hends⟩
  cases h with
  | idle h => exact .idle ⟨h.waiting, h.executions, h.unapplied, hsynced h.synced.1⟩
  | waiting run h =>
    exact .waiting run
      { h with delivered := h.delivered.congr rfl, synced := hsynced h.synced.1 }
  | codex p run h =>
    refine .codex p run { h with delivered := h.delivered.congr rfl, stage := ?_ }
    rcases h.stage with hs | hs | hs
    · exact .inl { hs with synced := hsynced hs.synced.1 }
    · exact .inr (.inl { hs with synced := .inr hnone })
    · refine .inr (.inr { hs with
        session := ?_
        bound := hbound'.trans (hbound.symm.trans hs.bound) })
      intro b hb
      rw [hnone] at hb
      cases hb
  | pi e run h =>
    refine .pi e run { h with
      delivered := h.delivered.congr rfl
      session := ?_
      synced := hbound'.trans (hbound.symm.trans h.synced) }
    intro b hb
    rw [hnone] at hb
    cases hb
  | report report run h =>
    refine .report report run { h with
      delivered := h.delivered.congr rfl, silent := ?_, told := ?_, ends := hends }
    · intro hsilent
      exact hbound'.trans (hbound.symm.trans (h.silent hsilent))
    · intro scope revision htold
      obtain ⟨hscope, hrevision, hack⟩ := h.told scope revision htold
      exact ⟨hscope, hrevision.trans (hbound.trans hbound'.symm), hack⟩

/-! ## Executions -/

theorem bound_eq {b : RuntimeSessionBinding} (h : w.store.get S.key = some b) :
    w.bound S = b.resultEvidenceRevision := by
  simp [EvidenceWorld.bound, h]

/-- **A crash drops an execution** that was given no page. -/
theorem Phase.drop (h : Phase S w) {slot : Nat}
    (huntouched : ∀ x, w.executions[slot]? = some x → x.Untouched) :
    Phase S { w with executions := w.executions.eraseIdx slot } := by
  cases hget : w.executions[slot]? with
  | none =>
    rw [List.getElem?_eq_none_iff] at hget
    rw [List.eraseIdx_of_length_le hget]
    exact h
  | some x =>
    have hx := huntouched x hget
    obtain ⟨rfl, ⟨p, run, rfl, hp⟩ | ⟨e, run, rfl, he⟩⟩ := h.of_execution hget
    · have hempty : w.executions.eraseIdx 0 = [] := by rw [hp.executions]; rfl
      rw [hempty]
      refine .idle ⟨hp.waiting, rfl, hp.unapplied, ?_⟩
      -- what is untouched has shown no page to the thread
      rcases hp.stage with hs | hs | hs
      · exact hs.synced
      · have hrevisions : p.revisions.resultEvidence = 0 := by
          rcases hx with ⟨-, hfresh⟩ | hrevisions
          · rw [hs.failed] at hfresh
            cases hfresh
          · exact hrevisions
        have hreaches := hs.reaches
        rcases hs.synced with hsynced | hnone
        · exact hsynced
        · refine ⟨?_, ?_⟩
          · show w.bound S = w.server
            simp only [EvidenceWorld.bound, hnone, Option.map_none, Option.getD_none]
            omega
          · intro b hb
            rw [hnone] at hb
            cases hb
      · have hrevisions : p.revisions.resultEvidence = 0 := by
          rcases hx with ⟨hthread, -⟩ | hrevisions
          · exact absurd hthread hs.thread
          · exact hrevisions
        have hack := hs.ackable
        have hwithin := hs.within
        have hends := hs.ends
        rw [hrevisions] at hack hwithin hends
        have heq : p.binding.resultEvidenceRevision = w.server := by
          rcases hack with heq | ⟨hlt, -⟩ <;> omega
        refine ⟨hs.bound.trans heq, ?_⟩
        intro b hb
        have hb' : w.store.get S.key = some b := hb
        rw [hs.session b hb', ← bound_eq hb', hs.bound]
        have hends' : EndsAt (w.givenTo p.threadId) p.binding.resultEvidenceRevision := by
          simpa using hends
        exact hends'
    · have hempty : w.executions.eraseIdx 0 = [] := by rw [he.executions]; rfl
      rw [hempty]
      -- an untouched Pi execution was given no page
      refine .idle ⟨he.waiting, rfl, he.unapplied, he.synced, ?_⟩
      intro b hb
      have hends := he.ends
      rw [show e.prompt.contextPlan.resultEvidence = none from hx] at hends
      have hb' : w.store.get S.key = some b := hb
      rw [he.session b hb', ← bound_eq hb', he.synced]
      have hends' : EndsAt (w.givenTo e.nativeSessionId) w.server := by
        simpa [throughOf] using hends
      exact hends'

/-- What a Pi execution's end leaves in the store, with or without a saved binding. -/
theorem PiPhase.finished {e : PiExecution} {run : RunRequested} (h : PiPhase S w e run)
    (clarifies : String → Bool) {stored reported : Bool} {outcome : PiExecution.Outcome}
    (hsteady : e.Silent ∨ (reported = true ∧ (stored && !isGoBlank e.nativeSessionId) = true ∧
      ∃ reply, outcome = .replied reply)) :
    let finished := e.finish clarifies w.store stored outcome
    let w' : EvidenceWorld := { w with store := finished.1, executions := [] }
    finished.2.runId = e.runId ∧ w'.BindingEnds S ∧ (reported = false → w'.bound S = w.server) ∧
      ((finished.2.session = none ∧ w'.bound S = w.server) ∨
        ∃ session, finished.2.session = some session ∧ session.runtimeScopeId = some S.scope ∧
          session.resultEvidenceRevision = some (w'.bound S) ∧
          Ackable run w.server (w'.bound S)) := by
  intro finished w'
  -- a run that saves no binding: then it was given no page
  have hkept : finished = (w.store, finished.2) → finished.2.session = none →
      finished.2.runId = e.runId → e.Silent →
      finished.2.runId = e.runId ∧ w'.BindingEnds S ∧
        (reported = false → w'.bound S = w.server) ∧
        ((finished.2.session = none ∧ w'.bound S = w.server) ∨
          ∃ session, finished.2.session = some session ∧
            session.runtimeScopeId = some S.scope ∧
            session.resultEvidenceRevision = some (w'.bound S) ∧
            Ackable run w.server (w'.bound S)) := by
    intro hstore hnone hid hsilent
    have hsame : w'.store = w.store := congrArg Prod.fst hstore
    have hbound : w'.bound S = w.server := by
      rw [← h.synced]
      unfold EvidenceWorld.bound
      rw [hsame]
    refine ⟨hid, ?_, fun _ => hbound, .inl ⟨hnone, hbound⟩⟩
    intro b hb
    rw [hsame] at hb
    have hends := h.ends
    rw [show e.prompt.contextPlan.resultEvidence = none from hsilent] at hends
    rw [h.session b hb, ← bound_eq hb, h.synced]
    have hends' : EndsAt (w.givenTo e.nativeSessionId) w.server := by
      simpa [throughOf] using hends
    exact hends'
  cases outcome with
  | failed canceled =>
    refine hkept rfl rfl rfl ?_
    rcases hsteady with hsilent | ⟨-, -, reply, hreply⟩
    · exact hsilent
    · cases hreply
  | replied reply =>
    by_cases hsaved : (stored && !isGoBlank e.nativeSessionId) = true
    · -- the saved binding takes the revision the page ends at
      have hfinished : finished = (w.store.put e.key e.savedBinding, finished.2) := by
        simp only [finished, PiExecution.finish, hsaved, if_true]
      have hrevision : e.savedBinding.resultEvidenceRevision =
          max w.server (throughOf e.prompt.contextPlan.resultEvidence) := by
        rw [← h.bound]
        rfl
      have hstore : w'.store = w.store.put S.key e.savedBinding := by
        rw [← h.key]
        exact congrArg Prod.fst hfinished
      have hbound : w'.bound S = max w.server (throughOf e.prompt.contextPlan.resultEvidence) := by
        rw [← hrevision]
        unfold EvidenceWorld.bound
        rw [hstore]
        exact bound_put
      refine ⟨?_, ?_, ?_, .inr ⟨sessionStatus e.sessionDisposition
        e.savedBinding.lastRoomSequence e.runtimeScopeId e.savedBinding.resultEvidenceRevision
        e.roomContextConsumption, ?_, ?_, ?_, ?_⟩⟩
      · simp only [finished, PiExecution.finish, hsaved, if_true]
      · intro b hb
        rw [hstore, Table.get_put_self, Option.some.injEq] at hb
        subst hb
        rw [hrevision]
        exact h.ends
      · intro hsilenced
        rw [hbound]
        rcases hsteady with hsilent | ⟨hreported, -⟩
        · rw [show e.prompt.contextPlan.resultEvidence = none from hsilent]
          simp [throughOf]
        · rw [hreported] at hsilenced
          cases hsilenced
      · simp only [finished, PiExecution.finish, hsaved, if_true]
      · rw [← h.scope]
        rfl
      · rw [hbound, ← hrevision]
        rfl
      · rw [hbound]
        rcases h.part with hnone | ⟨hsome, hlt⟩
        · rw [hnone]
          exact .inl (by simp [throughOf])
        · rw [hsome, Nat.max_eq_right (Nat.le_of_lt hlt)]
          refine .inr ⟨hlt, ?_⟩
          cases hpage : run.contextPlan.resultEvidence with
          | none => rw [hpage] at hlt; simp [throughOf] at hlt
          | some page => rfl
    · have hunsaved : finished =
          (w.store, { runId := e.runId, status := .failed, session := none }) := by
        simp only [finished, PiExecution.finish]
        rw [if_neg hsaved]
      refine hkept ?_ ?_ ?_ ?_
      · rw [hunsaved]
      · rw [hunsaved]
      · rw [hunsaved]
      · rcases hsteady with hsilent | ⟨-, hstored, -⟩
        · exact hsilent
        · exact absurd hstored hsaved

end AgentRoom.Context
