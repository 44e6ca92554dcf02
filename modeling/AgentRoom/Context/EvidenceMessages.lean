import AgentRoom.Context.EvidenceSteps

/-!
# The messages of a Codex execution

What each message of the app server does to the session's phase: an error ends
the execution, an opened thread is given the prompt's page, an answered turn is
recorded in the binding, a refused resume starts over, and nothing else matters.
-/

namespace AgentRoom.Context

variable {S : AgentSession} {w : EvidenceWorld} {p : CodexParser} {run : RunRequested}
  {store : SessionStore}

/-- **A message that ends the execution** leaves the store and the binding alone. -/
theorem consume_error {stored : Bool} {message : CodexMessage} {e : CodexError}
    (h : (p.consume store stored message).error = some e) :
    (p.consume store stored message).store = store ∧
      (p.consume store stored message).parser.binding = p.binding ∧
      (p.consume store stored message).parser.runId = p.runId ∧
      (p.consume store stored message).parser.runtimeScopeId = p.runtimeScopeId ∧
      ((p.consume store stored message).parser.Untouched → p.Untouched) ∧
      (e = .protocolInvalid ∨
        (∃ id kind, message = .refused id kind) ∧ p.resumeFailed = false) := by
  -- a save that is refused writes nothing
  have hsave : ∀ (q : CodexParser) (consumed : Bool) (requests : List CodexRequest)
      (f : CodexError),
      (q.saveSessionBinding store consumed stored requests).error = some f →
      (q.saveSessionBinding store consumed stored requests).store = store ∧
        (q.saveSessionBinding store consumed stored requests).parser = q ∧
        f = .protocolInvalid := by
    intro q consumed requests f hf
    unfold CodexParser.saveSessionBinding at hf ⊢
    split at hf
    · cases hf
    · rename_i hrefused
      cases hf
      rw [if_neg hrefused]
      exact ⟨rfl, rfl, rfl⟩
  cases message with
  | malformed => cases h; exact ⟨rfl, rfl, rfl, rfl, id, .inl rfl⟩
  | request => cases h
  | initialized => cases h
  | other => cases h
  | itemCompleted threadId turnId agentMessage text => cases h
  | errorNotification willRetry text => cases h
  | turnCompleted threadId turnId status error =>
    simp only [CodexParser.consume] at h ⊢
    split at h
    · rename_i hblank
      cases h
      rw [if_pos hblank]
      exact ⟨rfl, rfl, rfl, rfl, id, .inl rfl⟩
    · cases h
  | threadOpened threadId =>
    simp only [CodexParser.consume] at h ⊢
    split at h
    · rename_i hblank
      cases h
      rw [if_pos hblank]
      exact ⟨rfl, rfl, rfl, rfl, id, .inl rfl⟩
    · rename_i hnamed
      rw [if_neg hnamed]
      obtain ⟨hstore, hparser, he⟩ := hsave _ _ _ _ h
      rw [hstore, hparser]
      exact ⟨rfl, rfl, rfl, rfl, fun hu => absurd hu.1 hnamed, .inl he⟩
  | turnStarted turnId =>
    simp only [CodexParser.consume] at h ⊢
    split at h
    · rename_i hblank
      cases h
      rw [if_pos hblank]
      exact ⟨rfl, rfl, rfl, rfl, id, .inl rfl⟩
    · rename_i hnamed
      rw [if_neg hnamed]
      obtain ⟨hstore, hparser, he⟩ := hsave _ _ _ _ h
      rw [hstore, hparser]
      exact ⟨rfl, rfl, rfl, rfl, fun hu => hu, .inl he⟩
  -- a refused resume is an error unless a new thread takes its place
  | refused id kind =>
    simp only [CodexParser.consume] at h ⊢
    split at h
    · rename_i hresume
      rw [if_pos hresume]
      have hfresh : p.resumeFailed = false := by simpa using hresume.2.2
      cases kind with
      | other => cases h; exact ⟨rfl, rfl, rfl, rfl, fun hu => hu, .inr ⟨⟨_, _, rfl⟩, hfresh⟩⟩
      | sessionInUse =>
        dsimp only at h ⊢
        split at h
        · cases h
        · rename_i hkeep
          cases h
          rw [if_neg hkeep]
          exact ⟨rfl, rfl, rfl, rfl, fun hu => hu, .inr ⟨⟨_, _, rfl⟩, hfresh⟩⟩
      | sessionMissingOrInvalid =>
        dsimp only at h ⊢
        split at h
        · cases h
        · rename_i hkeep
          cases h
          rw [if_neg hkeep]
          exact ⟨rfl, rfl, rfl, rfl, fun hu => hu, .inl rfl⟩
    · rename_i hno
      cases h
      rw [if_neg hno]
      exact ⟨rfl, rfl, rfl, rfl, fun hu => hu, .inl rfl⟩

/-- An error's report tells of the parser before it. -/
theorem consume_error_tells {clarifies : String → Bool} {stored : Bool} {message : CodexMessage}
    {e : CodexError} (h : (p.consume store stored message).error = some e)
    (hthread : ∀ id kind, message = .refused id kind → p.threadId = "") :
    Tells p ((p.consume store stored message).parser.finish clarifies (.failed e)) := by
  obtain ⟨-, hbinding, hid, hscope, huntouched, hkind⟩ := consume_error h
  have hexternal : (LoopEnd.failed e).external = true ∨
      (p.consume store stored message).parser.Untouched := by
    rcases hkind with rfl | ⟨⟨id, kind, rfl⟩, hfresh⟩
    · exact .inl rfl
    · cases e with
      | protocolInvalid => exact .inl rfl
      | sessionInUse | sessionResumeFailed =>
        right
        -- these two errors leave the parser as it was
        have hsame : (p.consume store stored (.refused id kind)).parser = p := by
          simp only [CodexParser.consume] at h ⊢
          split
          · rename_i hresume
            rw [if_pos hresume] at h
            cases kind with
            | other => rfl
            | sessionInUse =>
              dsimp only at h ⊢
              split
              · rename_i hnew
                rw [if_pos hnew] at h
                cases h
              · rfl
            | sessionMissingOrInvalid =>
              dsimp only at h ⊢
              split
              · rename_i hnew
                rw [if_pos hnew] at h
                cases h
              · rfl
          · rfl
        rw [hsame]
        exact ⟨hthread id kind rfl, hfresh⟩
  obtain ⟨hrunId, hsession⟩ := finish_tells clarifies
    (p.consume store stored message).parser (.failed e) hexternal
  rw [hid, hbinding] at hsession
  rw [hscope] at hsession
  refine ⟨hrunId.trans hid, ?_⟩
  rcases hsession with ⟨hnone, hwhy⟩ | htold
  · exact .inl ⟨hnone, hwhy.imp_right huntouched⟩
  · exact .inr htold

/-! ## Messages that go on -/

/-- A parser that differs in what no phase speaks of. -/
theorem CodexPhase.cosmetic (h : CodexPhase S w p run) (reply : String) (complete : Bool)
    (failure : String) :
    CodexPhase S { w with executions := [.codex { p with reply, complete, failure }] }
      { p with reply, complete, failure } run := by
  refine { h with delivered := h.delivered.congr rfl, executions := rfl, stage := ?_ }
  rcases h.stage with hs | hs | hs
  · exact .inl { hs with }
  · exact .inr (.inl { hs with })
  · exact .inr (.inr { hs with })

/-- **A refused resume starts over** with the whole delivery, with or without the old binding. -/
theorem CodexPhase.replaced (h : CodexPhase S w p run) (hthread : p.threadId = "")
    (hreaches : p.binding.resultEvidenceRevision ≤ p.bootstrapRevisions.resultEvidence)
    (hfresh : p.resumeFailed = false) {store : SessionStore}
    (hstore : store = w.store ∨ store = w.store.remove S.key) :
    CodexPhase S { w with store, executions := [.codex p.replaced] } p.replaced run where
  __ := h
  delivered := h.delivered.congr rfl
  executions := rfl
  part := .inr h.bootstrap
  revisions := h.bootstrapRevisions.trans (by rw [← h.bootstrap]; rfl)
  stage := by
    obtain ⟨hbound, hsynced⟩ : p.binding.resultEvidenceRevision = w.server ∧ w.Synced S := by
      rcases h.stage with hs | hs | hs
      · exact ⟨hs.bound, hs.synced⟩
      · rw [hs.failed] at hfresh
        cases hfresh
      · exact absurd hthread hs.thread
    refine .inr (.inl ⟨hthread, rfl, rfl, rfl, ?_, ?_, ?_⟩)
    · intro page hpage
      exact h.fits.run page (h.bootstrap ▸ hpage)
    · show w.server ≤ p.bootstrapRevisions.resultEvidence
      omega
    · rcases hstore with rfl | rfl
      · exact .inl hsynced
      · exact .inr (Table.get_remove_self _ _)

theorem bound_put {b : RuntimeSessionBinding} :
    (((store.put S.key b).get S.key).map (·.resultEvidenceRevision)).getD 0 =
      b.resultEvidenceRevision := by
  rw [Table.get_put_self]
  rfl

/-- **An opened thread is given the prompt's page**, and nothing else is given anything. -/
theorem CodexPhase.opened (h : CodexPhase S w p run) {threadId : NativeId}
    (hnamed : threadId ≠ "") (hthread : p.threadId = "")
    (hasked : match p.resumeId with
      | some asked => threadId = asked
      | none => ∀ g ∈ w.given, g.1 ≠ threadId) :
    let p' : CodexParser :=
      { p with threadId, binding := { p.binding with sessionId := threadId } }
    let w' : EvidenceWorld :=
      { w with
        store := w.store.put p.key p'.binding
        executions := [.codex p']
        given := w.given ++
          (p.instruction.contextPlan.resultEvidence.map fun page => (threadId, page)).toList }
    CodexPhase S w' p' run ∧
      ∀ s, w'.givenTo s = w.givenTo s ∨ EndsAt (w'.givenTo s)
        (max p.binding.resultEvidenceRevision p.revisions.resultEvidence) := by
  intro p' w'
  have hgiven : ∀ s, w'.givenTo s = w.givenTo s ++
      if s = threadId then
        (p.instruction.contextPlan.resultEvidence.map (·.artifactRefs)).getD [] else [] :=
    fun s => givenTo_append s threadId _
  obtain ⟨hends, hack, hunnamed⟩ :
      EndsAt (w'.givenTo threadId)
          (max p.binding.resultEvidenceRevision p.revisions.resultEvidence) ∧
        Ackable run w.server
          (max p.binding.resultEvidenceRevision p.revisions.resultEvidence) ∧
        p.binding.resultEvidenceRevision ≤ w.server := by
    have hrevisions := h.revisions
    rw [hgiven threadId, if_pos rfl, hrevisions]
    -- what is reported in the end: the cursor, or the delivery's own page
    have hackable : ∀ n, (∀ page, p.instruction.contextPlan.resultEvidence = some page →
          w.server ≤ page.throughRevision ∧ n ≤ page.throughRevision) →
        (p.instruction.contextPlan.resultEvidence = none → n = w.server) →
        Ackable run w.server (max n (throughOf p.instruction.contextPlan.resultEvidence)) := by
      intro n hsome hnone
      cases hpage : p.instruction.contextPlan.resultEvidence with
      | none => exact .inl (by rw [hnone hpage]; simp [throughOf])
      | some page =>
        obtain ⟨hle, hn⟩ := hsome page hpage
        have hmax : max n (throughOf (some page)) = page.throughRevision := by
          simp only [throughOf, Option.map_some, Option.getD_some]
          omega
        rw [hmax]
        rcases Nat.eq_or_lt_of_le hle with heq | hlt
        · exact .inl heq.symm
        · refine .inr ⟨hlt, ?_⟩
          rcases h.part with hnil | hpart
          · rw [hnil] at hpage
            cases hpage
          · rw [← hpart, hpage]
            rfl
    rcases h.stage with hs | hs | hs
    · have hstart : EndsAt (w.givenTo threadId) w.server := by
        cases hresume : p.resumeId with
        | some asked =>
          rw [hresume] at hasked
          exact hasked ▸ hs.resumed asked hresume
        | none =>
          rw [hresume] at hasked
          rw [givenTo_fresh hasked]
          exact endsAt_nil _
      rw [hs.bound]
      refine ⟨endsAt_prompt hstart _ ?_, hackable _ ?_ ?_, Nat.le_refl _⟩
      · intro page hpage
        obtain ⟨hrun, hjoin, hlt⟩ := hs.page page hpage
        refine ⟨hrun, ?_, Nat.le_of_lt hlt⟩
        rcases hjoin with hzero | hfrom
        · rw [hzero] at hstart
          exact .inl hstart.eq_nil
        · exact .inr hfrom
      · intro page hpage
        obtain ⟨-, -, hlt⟩ := hs.page page hpage
        exact ⟨Nat.le_of_lt hlt, Nat.le_of_lt hlt⟩
      · exact fun _ => rfl
    · have hreaches := hs.reaches
      rw [hs.asked] at hasked
      rw [hs.bound, givenTo_fresh hasked]
      refine ⟨endsAt_prompt (endsAt_nil _) _ fun page hpage =>
        ⟨hs.page page hpage, .inl rfl, Nat.zero_le _⟩, hackable _ ?_ ?_, Nat.zero_le _⟩
      · intro page hpage
        rw [hrevisions, hpage] at hreaches
        exact ⟨hreaches, Nat.zero_le _⟩
      · intro hnone
        rw [hrevisions, hnone] at hreaches
        simp only [throughOf, Option.map_none, Option.getD_none] at hreaches
        omega
    · exact absurd hthread hs.thread
  have hkey := h.key
  refine ⟨{ h with
    delivered := h.delivered.congr rfl
    executions := rfl
    stage := .inr (.inr ⟨hnamed, ?_, ?_, hends, hack, fun _ => hunnamed,
      hunnamed.trans (Nat.le_max_left _ _)⟩) }, ?_⟩
  · intro b hb
    simp only [w', hkey, Table.get_put_self, Option.some.injEq] at hb
    rw [← hb]
  · simp only [EvidenceWorld.bound, w', hkey]
    exact bound_put
  · intro s
    by_cases hs : s = threadId
    · subst hs
      exact .inr hends
    · exact .inl (by rw [hgiven s, if_neg hs, List.append_nil])

/-- **An answered turn is recorded** in the stored binding. -/
theorem CodexPhase.turned (h : CodexPhase S w p run) (hthread : p.threadId ≠ "")
    (turnId : NativeId) :
    let p' : CodexParser :=
      { p with
        turnId
        binding := { p.binding with sessionId := p.threadId }.consume p.contextCursor p.runId
          p.revisions }
    CodexPhase S { w with store := w.store.put p.key p'.binding, executions := [.codex p'] } p'
      run := by
  intro p'
  have hkey := h.key
  have hs : OpenStage S w p run := by
    rcases h.stage with hs | hs | hs
    · exact absurd hs.thread hthread
    · exact absurd hs.thread hthread
    · exact hs
  have hmax : max p'.binding.resultEvidenceRevision p'.revisions.resultEvidence =
      max p.binding.resultEvidenceRevision p.revisions.resultEvidence := by
    show max (max p.binding.resultEvidenceRevision p.revisions.resultEvidence)
      p.revisions.resultEvidence = _
    omega
  refine { h with
    delivered := h.delivered.congr rfl
    executions := rfl
    stage := .inr (.inr ⟨hthread, ?_, ?_, hmax ▸ hs.ends, hmax ▸ hs.ackable, ?_, ?_⟩) }
  · intro b hb
    simp only [hkey, Table.get_put_self, Option.some.injEq] at hb
    rw [← hb]
    rfl
  · simp only [EvidenceWorld.bound, hkey]
    exact bound_put
  · intro hunnamed
    exact absurd rfl hunnamed
  · show max p.binding.resultEvidenceRevision p.revisions.resultEvidence ≤
      max w.server p.revisions.resultEvidence
    have hwithin := hs.within
    omega

end AgentRoom.Context
