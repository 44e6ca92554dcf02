import AgentRoom.Context.RoomSystem

/-!
# One step of a Room's world

Each operation keeps what `RoomInvariant` says of its part: opening a session,
consuming a message, saving a binding, making a report. The world's invariant is
their conjunction.
-/

namespace AgentRoom.Context

variable {w : RoomWorld}

/-! ## Codex -/

variable {run : RunRequested}

/-- **Opening a Codex session** keeps the store and makes a well-prompted parser. -/
theorem openCodex_ok (scope : RuntimeKind → RuntimeConfig → String) (config : RuntimeConfig)
    (hrun : w.deliveries.get run.runId = some run)
    (hfrozen : FrozenSound w.log w.memory.checkpoints run)
    (hreached : run.session.contextCursor ≤ w.log.latestMessageSequence)
    (hstore : StoreOk (BindingOk w) w.store) :
    StoreOk (BindingOk w) (openCodex scope w.store config run).1 ∧
      ∀ p, (openCodex scope w.store config run).2 = .ok p → ParserOk w p := by
  unfold openCodex
  cases hplan : planRuntimeSession scope .codex config run with
  | error e => exact ⟨hstore, fun p hp => by cases hp⟩
  | ok plan =>
    obtain ⟨hstore', hbinding⟩ := loadSession_ok (bindingOk_empty w) hstore plan
    refine ⟨hstore', ?_⟩
    intro p hp
    dsimp only at hp
    split at hp
    · cases hp
    · split at hp
      · rename_i bootstrapRun bootstrapConsumption promptRun consumption hboot hprep
        cases hp
        have hcursor := planRuntimeSession_cursor hplan
        refine ⟨⟨run, hrun, rfl, ?_, ?_⟩, hbinding⟩
        · rw [hcursor]
          refine prepare_promptOk hfrozen hreached hbinding.reached ?_ (promptFor_cases run _) hprep
          intro hfresh
          rw [loadSession_fresh _ _ hfresh]
        · rw [hcursor]
          exact prepare_promptOk hfrozen hreached (Nat.zero_le _) (fun _ => rfl) (.inl rfl) hboot
      · cases hp

variable {p : CodexParser}

/-- **The binding a parser saves** is inside the log and past its Run's request. -/
theorem savedBinding_ok (h : ParserOk w p) (consumed : Bool) :
    BindingOk w (p.savedBinding consumed) := by
  obtain ⟨run, hrun, hid, hprompt, -⟩ := h.prompted
  cases consumed with
  | false => exact ⟨h.binding.reached, h.binding.last⟩
  | true =>
    refine ⟨Nat.max_le.mpr ⟨h.binding.reached, hprompt.cursor_le⟩, ?_⟩
    intro r hr
    cases hr
    exact ⟨run, hrun, hprompt.target_le.trans (Nat.le_max_right _ _)⟩

/-- Saving leaves the parser at its start or at its receipt's end. -/
theorem savedBinding_parserOk (h : ParserOk w p) (consumed : Bool) :
    ParserOk w { p with binding := p.savedBinding consumed } := by
  obtain ⟨run, hrun, hid, hprompt, hbootstrap⟩ := h.prompted
  refine ⟨⟨run, hrun, hid, ?_, hbootstrap⟩, savedBinding_ok h consumed⟩
  cases consumed with
  | false => exact { hprompt with receipt_of := hprompt.receipt_of }
  | true =>
    refine { hprompt with receipt_of := ?_ }
    intro r hr
    obtain ⟨bundle, base, hbundle, hof, hcursor, hlast⟩ := hprompt.receipt_of r hr
    refine ⟨bundle, base, hbundle, hof, hcursor, .inr ⟨?_, ?_⟩⟩
    · show max p.binding.lastRoomSequence p.contextCursor = p.contextCursor
      rcases hlast with hstart | ⟨hend, -⟩ <;> omega
    · show some p.runId = some run.runId
      rw [hid]

theorem replaced_parserOk (h : ParserOk w p) : ParserOk w p.replaced := by
  obtain ⟨run, hrun, hid, hprompt, hbootstrap⟩ := h.prompted
  refine ⟨⟨run, hrun, hid, ?_, hbootstrap⟩, bindingOk_empty w⟩
  simp only [CodexParser.replaced]
  by_cases hnone : p.bootstrapRoomContextConsumption = none
  · -- without a bundle there is no receipt at all
    have hprompted := hprompt.none_iff.mpr (hbootstrap.none_iff.mp hnone)
    simp only [hnone, Option.isSome_none, Bool.false_eq_true, if_false, hprompted]
    refine ⟨hprompt.target_le, hprompt.cursor_le, ?_, fun r hr => by cases hr⟩
    exact iff_of_true rfl (hbootstrap.none_iff.mp hnone)
  · rw [← Ne, Option.ne_none_iff_isSome] at hnone
    simp only [hnone, if_true]
    exact hbootstrap

/-- **Consuming a message** keeps the store and the parser. -/
theorem consume_ok (h : ParserOk w p) (hstore : StoreOk (BindingOk w) w.store) (stored : Bool)
    (message : CodexMessage) :
    StoreOk (BindingOk w) (p.consume w.store stored message).store ∧
      ParserOk w (p.consume w.store stored message).parser := by
  -- a save keeps what the binding covers, and so does its refusal
  have hsave : ∀ (q : CodexParser) (consumed : Bool) (requests : List CodexRequest),
      ParserOk w q →
      StoreOk (BindingOk w) (q.saveSessionBinding w.store consumed stored requests).store ∧
        ParserOk w (q.saveSessionBinding w.store consumed stored requests).parser := by
    intro q consumed requests hq
    unfold CodexParser.saveSessionBinding
    split
    · exact ⟨hstore.put _ (savedBinding_ok hq consumed), savedBinding_parserOk hq consumed⟩
    · exact ⟨hstore, hq⟩
  cases message with
  | malformed => exact ⟨hstore, h⟩
  | request => exact ⟨hstore, h⟩
  | initialized => exact ⟨hstore, h⟩
  | other => exact ⟨hstore, h⟩
  | refused id kind =>
    simp only [CodexParser.consume]
    split
    · cases kind with
      | other => exact ⟨hstore, h⟩
      | sessionInUse =>
        dsimp only
        split
        · exact ⟨hstore, replaced_parserOk h⟩
        · exact ⟨hstore, h⟩
      | sessionMissingOrInvalid =>
        dsimp only
        split
        · exact ⟨hstore.remove _, replaced_parserOk h⟩
        · exact ⟨hstore, h⟩
    · exact ⟨hstore, h⟩
  | threadOpened threadId =>
    simp only [CodexParser.consume]
    split
    · exact ⟨hstore, h⟩
    · exact hsave _ _ _ ⟨h.prompted, h.binding⟩
  | turnStarted turnId =>
    simp only [CodexParser.consume]
    split
    · exact ⟨hstore, h⟩
    · exact hsave _ _ _ ⟨h.prompted, h.binding⟩
  | itemCompleted threadId turnId agentMessage text =>
    simp only [CodexParser.consume]
    refine ⟨hstore, ?_⟩
    split
    · exact ⟨h.prompted, h.binding⟩
    · exact h
  | turnCompleted threadId turnId status error =>
    simp only [CodexParser.consume]
    split
    · exact ⟨hstore, h⟩
    · refine ⟨hstore, ?_⟩
      dsimp only
      split
      · exact ⟨h.prompted, h.binding⟩
      · exact h
  | errorNotification willRetry message =>
    simp only [CodexParser.consume]
    refine ⟨hstore, ?_⟩
    split
    · exact h
    · exact ⟨h.prompted, h.binding⟩

/-! ## Reports -/

variable {b : RuntimeSessionBinding} {cursor : Nat}

/-- **The cursor a session reports is its receipt's coverage** exactly when its binding names the
Run, or is past the request without it. -/
theorem status_iff {base : Nat} (hb : BindingOk w b) (hrun : w.deliveries.get run.runId = some run)
    (hcursor : cursor = max base run.session.contextCursor) (hlast : b.lastRoomSequence = base ∨
      (b.lastRoomSequence = cursor ∧ b.lastRunId = some run.runId)) :
    b.lastRoomSequence = max base run.session.contextCursor ↔
      b.lastRunId = some run.runId ∨ run.session.contextCursor ≤ b.lastRoomSequence := by
  constructor
  · intro heq
    exact .inr (by omega)
  · rintro (hnamed | hpast)
    · obtain ⟨run', hrun', hreached⟩ := hb.last _ hnamed
      rw [hrun] at hrun'
      cases hrun'
      rcases hlast with hstart | ⟨hend, -⟩ <;> omega
    · rcases hlast with hstart | ⟨hend, -⟩ <;> omega

/-- The status of a session, as a report carries it. -/
theorem reportOk_of_status {disposition : SessionDisposition}
    {receipt : Option RoomContextConsumption} (hb : BindingOk w b)
    (hrun : w.deliveries.get run.runId = some run)
    (hprompt : PromptOk w run b disposition cursor receipt) {made : MadeReport}
    (hid : made.report.runId = run.runId) (hmadeBinding : made.binding = b)
    (hsession : ∀ session, made.report.session = some session →
      session.disposition = disposition ∧ session.contextCursor = b.lastRoomSequence ∧
        session.roomContextConsumption = receipt) : ReportOk w made := by
  intro session r hmade hr
  obtain ⟨hdisposition, hcontext, hreceipt⟩ := hsession session hmade
  obtain ⟨bundle, base, hbundle, hof, hcursor, hlast⟩ := hprompt.receipt_of r (hreceipt ▸ hr)
  refine ⟨run, bundle, base, hid ▸ hrun, hbundle, hdisposition ▸ hof,
    hcursor ▸ hprompt.cursor_le, by rw [hcontext, hmadeBinding], ?_⟩
  rw [hcontext, hmadeBinding, hid]
  exact status_iff hb hrun hcursor hlast

/-- The session a Codex execution ends with, if it reports one. -/
theorem finish_session (clarifies : String → Bool) (p : CodexParser) (outcome : LoopEnd) :
    (p.finish clarifies outcome).runId = p.runId ∧
      ∀ session, (p.finish clarifies outcome).session = some session →
        session = p.logicalSessionStatus := by
  have haccepted : ∀ session, p.acceptedLogicalSessionStatus = some session →
      session = p.logicalSessionStatus := by
    intro session h
    unfold CodexParser.acceptedLogicalSessionStatus at h
    split at h
    · cases h
      rfl
    · cases h
  unfold CodexParser.finish
  split
  · exact ⟨rfl, haccepted⟩
  · exact ⟨rfl, fun session h => by cases h⟩
  · exact ⟨rfl, fun session h => by cases h⟩
  · exact ⟨rfl, haccepted⟩
  · split_ifs
    · exact ⟨rfl, haccepted⟩
    · exact ⟨rfl, haccepted⟩
    · exact ⟨rfl, haccepted⟩
    · exact ⟨rfl, haccepted⟩
    · exact ⟨rfl, fun session h => by cases h; rfl⟩
    · exact ⟨rfl, fun session h => by cases h; rfl⟩

theorem codex_reportOk (h : ParserOk w p) (clarifies : String → Bool) (outcome : LoopEnd) :
    ReportOk w { report := p.finish clarifies outcome, binding := p.binding } := by
  obtain ⟨run, hrun, hid, hprompt, -⟩ := h.prompted
  obtain ⟨hrunId, hsession⟩ := finish_session clarifies p outcome
  refine reportOk_of_status h.binding (hid ▸ hrun) hprompt (hrunId.trans hid.symm) rfl ?_
  intro session hs
  rw [hsession session hs]
  exact ⟨rfl, rfl, rfl⟩

/-! ## Pi -/

theorem openPi_ok (scope : RuntimeKind → RuntimeConfig → String)
    (sessionId : RuntimeSessionKey → RunId → NativeId) (config : RuntimeConfig)
    (hrun : w.deliveries.get run.runId = some run)
    (hfrozen : FrozenSound w.log w.memory.checkpoints run)
    (hreached : run.session.contextCursor ≤ w.log.latestMessageSequence)
    (hstore : StoreOk (BindingOk w) w.store) :
    StoreOk (BindingOk w) (openPi scope sessionId w.store config run).1 ∧
      ∀ e, (openPi scope sessionId w.store config run).2 = .ok e → PiOk w e := by
  unfold openPi
  cases hplan : planRuntimeSession scope .pi config run with
  | error e => exact ⟨hstore, fun p hp => by cases hp⟩
  | ok plan =>
    obtain ⟨hstore', hbinding⟩ := loadSession_ok (bindingOk_empty w) hstore plan
    refine ⟨hstore', ?_⟩
    intro e he
    dsimp only at he
    split at he
    · cases he
    · split at he
      · rename_i promptRun consumption hprep
        cases he
        have hcursor := planRuntimeSession_cursor hplan
        refine ⟨⟨run, hrun, rfl, ?_⟩, hbinding⟩
        dsimp only
        rw [hcursor]
        refine prepare_promptOk hfrozen hreached hbinding.reached ?_ (promptFor_cases run _) hprep
        intro hfresh
        rw [loadSession_fresh _ _ hfresh]
      · cases he

variable {e : PiExecution}

theorem pi_savedBinding_ok (h : PiOk w e) : BindingOk w e.savedBinding := by
  obtain ⟨run, hrun, hid, hprompt⟩ := h.prompted
  refine ⟨Nat.max_le.mpr ⟨h.binding.reached, hprompt.cursor_le⟩, ?_⟩
  intro r hr
  cases hr
  exact ⟨run, hrun, hprompt.target_le.trans (Nat.le_max_right _ _)⟩

/-- **A Pi execution's end** keeps the store, and its report's cursor is its receipt's coverage. -/
theorem pi_finish_ok (h : PiOk w e) (hstore : StoreOk (BindingOk w) w.store)
    (clarifies : String → Bool) (stored : Bool) (outcome : PiExecution.Outcome) :
    StoreOk (BindingOk w) (e.finish clarifies w.store stored outcome).1 ∧
      ReportOk w
        { report := (e.finish clarifies w.store stored outcome).2
          binding := e.savedBinding } := by
  have hsilent : ∀ (report : SessionReport) (binding : RuntimeSessionBinding),
      report.session = none → ReportOk w { report, binding } := by
    intro report binding hnone session receipt hsession
    rw [hnone] at hsession
    cases hsession
  obtain ⟨run, hrun, hid, hprompt⟩ := h.prompted
  cases outcome with
  | failed canceled => exact ⟨hstore, hsilent _ _ rfl⟩
  | replied reply =>
    simp only [PiExecution.finish]
    split
    · refine ⟨hstore.put _ (pi_savedBinding_ok h), ?_⟩
      have hsaved : PromptOk w run e.savedBinding e.sessionDisposition
          (coverageCursor e.contextCursor e.roomContextConsumption)
          e.roomContextConsumption := by
        refine { hprompt with receipt_of := ?_ }
        intro r hr
        obtain ⟨bundle, base, hbundle, hof, hcursor, hlast⟩ := hprompt.receipt_of r hr
        refine ⟨bundle, base, hbundle, hof, hcursor, .inr ⟨?_, ?_⟩⟩
        · show max e.binding.lastRoomSequence _ = _
          rcases hlast with hstart | ⟨hend, -⟩ <;> omega
        · show some e.runId = some run.runId
          rw [hid]
      refine reportOk_of_status (pi_savedBinding_ok h) (hid ▸ hrun) hsaved hid.symm rfl ?_
      intro session hs
      cases hs
      exact ⟨rfl, rfl, rfl⟩
    · exact ⟨hstore, hsilent _ _ rfl⟩

/-! ## The world -/

/-- **The invariant of a Room's world.** -/
structure RoomInv (w : RoomWorld) : Prop where
  rows : RowsInv w.memory.checkpoints
  frozen : ∀ r run, w.deliveries.get r = some run → run.runId = r ∧
    FrozenSound w.log w.memory.checkpoints run ∧
    run.session.contextCursor ≤ w.log.latestMessageSequence
  store : StoreOk (BindingOk w) w.store
  codex : ∀ slot p, w.codex.get slot = some p → ParserOk w p
  pi : ∀ slot e, w.pi.get slot = some e → PiOk w e
  reports : ∀ made ∈ w.reports, ReportOk w made

theorem roomInv_initial : RoomInv .initial where
  rows := rowsInv_nil
  frozen := fun r run h => by cases h
  store := fun key b h => by cases h
  codex := fun slot p h => by cases h
  pi := fun slot e h => by cases h
  reports := fun made h => by cases h

theorem FrozenSound.mono {w' : RoomWorld} (hg : RoomGrows w w') {run : RunRequested}
    (h : FrozenSound w.log w.memory.checkpoints run) :
    FrozenSound w'.log w'.memory.checkpoints run := by
  intro bundle hbundle
  obtain ⟨checkpoint, messages, hsound⟩ := h bundle hbundle
  exact ⟨checkpoint, messages, hsound.mono hg.log hg.latest hg.rows⟩

variable {w' : RoomWorld}

/-- A world that grows with the same executions and reports keeps the invariant, if its rows and
its new deliveries are sound. -/
theorem RoomInv.grow (h : RoomInv w) (hg : RoomGrows w w') (hrows : RowsInv w'.memory.checkpoints)
    (hfrozen : ∀ r run, w'.deliveries.get r = some run → w.deliveries.get r = some run ∨
      (run.runId = r ∧ FrozenSound w'.log w'.memory.checkpoints run ∧
        run.session.contextCursor ≤ w'.log.latestMessageSequence)) (hstore : w'.store = w.store)
    (hcodex : w'.codex = w.codex) (hpi : w'.pi = w.pi) (hreports : w'.reports = w.reports) :
    RoomInv w' where
  rows := hrows
  frozen := by
    intro r run hrun
    rcases hfrozen r run hrun with hold | hnew
    · obtain ⟨hid, hsound, hreached⟩ := h.frozen r run hold
      exact ⟨hid, hsound.mono hg, hreached.trans hg.latest⟩
    · exact hnew
  store := by
    rw [hstore]
    exact fun key b hb => (h.store key b hb).mono hg
  codex := by
    rw [hcodex]
    exact fun slot p hp => (h.codex slot p hp).mono hg
  pi := by
    rw [hpi]
    exact fun slot e he => (h.pi slot e he).mono hg
  reports := by
    rw [hreports]
    exact fun made hm => (h.reports made hm).mono hg

/-- A world that changes in its store, executions and reports only. -/
theorem RoomInv.bridge (h : RoomInv w) (hlog : w'.log = w.log) (hmemory : w'.memory = w.memory)
    (hdeliveries : w'.deliveries = w.deliveries) (hstore : StoreOk (BindingOk w) w'.store)
    (hcodex : ∀ slot p, w'.codex.get slot = some p → ParserOk w p)
    (hpi : ∀ slot e, w'.pi.get slot = some e → PiOk w e)
    (hreports : ∀ made ∈ w'.reports, ReportOk w made) : RoomInv w' := by
  have hg : RoomGrows w w' := .of_eq hlog (by rw [hmemory]) hdeliveries
  refine ⟨?_, ?_, ?_, ?_, ?_, ?_⟩
  · rw [hmemory]
    exact h.rows
  · rw [hlog, hmemory, hdeliveries]
    exact h.frozen
  · exact fun key b hb => (hstore key b hb).mono hg
  · exact fun slot p hp => (hcodex slot p hp).mono hg
  · exact fun slot e he => (hpi slot e he).mono hg
  · exact fun made hm => (hreports made hm).mono hg

theorem RoomInv.withState {memory : RollingMemory} {jobs : List DrainJob} (h : RoomInv w)
    (hrows : memory.checkpoints = w.memory.checkpoints) :
    RoomInv { w with memory, jobs } :=
  h.grow (.of_eq rfl hrows rfl) (hrows ▸ h.rows) (fun _ _ hrun => .inl hrun) rfl rfl rfl rfl

section Table

variable {K V : Type} [DecidableEq K] {P : V → Prop} {t : Table K V}

theorem get_put_all (h : ∀ k v, t.get k = some v → P v) {k : K} {v : V} (hv : P v) :
    ∀ k' v', (t.put k v).get k' = some v' → P v' := by
  intro k' v' hget
  rw [Table.get_put] at hget
  split at hget
  · cases hget
    exact hv
  · exact h k' v' hget

theorem get_remove_all (h : ∀ k v, t.get k = some v → P v) (k : K) :
    ∀ k' v', (t.remove k).get k' = some v' → P v' := by
  intro k' v' hget
  rw [Table.get_remove] at hget
  split at hget
  · cases hget
  · exact h k' v' hget

end Table

variable {env : BridgeEnv}

/-- A new delivery is sound. -/
theorem roomInv_deliver {request : DeliveryRequest} {plan : PayloadPlan}
    {contextMessages : List ContextMessage} (h : RoomInv w)
    (hact : w.act env (.deliver request plan contextMessages) = some w') : RoomInv w' := by
  simp only [RoomWorld.act] at hact
  split at hact
  · cases hact
  · rename_i hnew
    obtain ⟨trigger, hfind, rfl⟩ := Option.map_eq_some_iff.mp hact
    have hposted := List.mem_of_find?_eq_some hfind
    have hreached : trigger.sequence ≤ w.log.latestMessageSequence := by
      have hseq := List.mem_map_of_mem (f := fun m => m.sequence) hposted
      rw [w.log.numbered, List.mem_range'_1] at hseq
      simp only [RoomLog.latestMessageSequence]
      omega
    have habsent : w.deliveries.get request.runId = none := by simpa using hnew
    refine h.grow ⟨List.Subset.refl _, Nat.le_refl _, List.Subset.refl _, ?_⟩ h.rows ?_
      rfl rfl rfl rfl
    · intro r run hrun
      rw [Table.get_put, if_neg]
      · exact hrun
      · rintro rfl
        rw [habsent] at hrun
        cases hrun
    · intro r run hrun
      rw [Table.get_put] at hrun
      split at hrun
      · rename_i hr
        cases hrun
        exact .inr ⟨hr.symm, deliveryPayload_sound _ _ _ _ _ hreached, hreached⟩
      · exact .inl hrun

/-- **Every step keeps the invariant.** -/
theorem roomInv_step {action : RoomAction} (h : RoomInv w) (hact : w.act env action = some w') :
    RoomInv w' := by
  cases action with
  | post message =>
    simp only [RoomWorld.act] at hact
    split at hact
    · cases hact
      -- the log grows, and what covers it stays
      refine h.grow ⟨List.subset_append_of_subset_left _ (List.Subset.refl _), ?_,
        List.Subset.refl _, fun _ _ hrun => hrun⟩ h.rows (fun _ _ hrun => .inl hrun) rfl rfl rfl rfl
      simp [RoomLog.latestMessageSequence, RoomLog.append]
    · cases hact
  | enable => cases hact; exact h.withState rfl
  | enableAll =>
    cases hact
    refine h.withState ?_
    unfold RollingMemory.enableAll
    split <;> rfl
  | disable => cases hact; exact h.withState rfl
  | beginDrain rebase leaseToken now leaseExpiresAt =>
    cases hact
    exact h.withState (beginDrain_rows _ _ _ _ _ _)
  | finishDrain i answer =>
    obtain ⟨job, -, rfl⟩ := Option.map_eq_some_iff.mp hact
    obtain ⟨hrows, hsub⟩ := finishDrain_rows job answer h.rows
    exact h.grow ⟨List.Subset.refl _, Nat.le_refl _, hsub, fun _ _ hrun => hrun⟩ hrows
      (fun _ _ hrun => .inl hrun) rfl rfl rfl rfl
  | deliver request plan contextMessages => exact roomInv_deliver h hact
  | openCodex slot config runId =>
    simp only [RoomWorld.act] at hact
    split at hact
    · cases hact
    · obtain ⟨run, hrun, rfl⟩ := Option.map_eq_some_iff.mp hact
      -- what opens a session was frozen for the Run when it was delivered
      obtain ⟨hid, hfrozen, hreached⟩ := h.frozen _ _ hrun
      obtain ⟨hstore, hparser⟩ := openCodex_ok env.agentRuntimeScopeId
        config (hid ▸ hrun) hfrozen hreached h.store
      cases hopened : (openCodex env.agentRuntimeScopeId w.store config run).2 with
      | error e => exact h.bridge rfl rfl rfl hstore h.codex h.pi h.reports
      | ok p =>
        exact h.bridge rfl rfl rfl hstore (get_put_all h.codex (hparser p hopened)) h.pi
          h.reports
  | codexMessage slot message stored =>
    obtain ⟨p, hp, hact⟩ := Option.bind_eq_some_iff.mp hact
    split at hact
    · cases hact
    · cases hact
      obtain ⟨hstore, hparser⟩ := consume_ok (h.codex _ _ hp) h.store stored message
      unfold RoomWorld.codexStep
      dsimp only
      split
      · exact h.bridge rfl rfl rfl hstore (get_put_all h.codex hparser) h.pi h.reports
      · refine h.bridge rfl rfl rfl hstore (get_remove_all h.codex _) h.pi ?_
        exact List.forall_mem_cons.mpr ⟨codex_reportOk hparser _ _, h.reports⟩
  | codexEnd slot outcome =>
    obtain ⟨p, hp, rfl⟩ := Option.map_eq_some_iff.mp hact
    refine h.bridge rfl rfl rfl h.store (get_remove_all h.codex _) h.pi ?_
    exact List.forall_mem_cons.mpr ⟨codex_reportOk (h.codex _ _ hp) _ _, h.reports⟩
  | codexDrop slot =>
    cases hact
    exact h.bridge rfl rfl rfl h.store (get_remove_all h.codex _) h.pi h.reports
  | openPi slot config runId =>
    simp only [RoomWorld.act] at hact
    split at hact
    · cases hact
    · obtain ⟨run, hrun, rfl⟩ := Option.map_eq_some_iff.mp hact
      obtain ⟨hid, hfrozen, hreached⟩ := h.frozen _ _ hrun
      obtain ⟨hstore, hexecution⟩ := openPi_ok env.agentRuntimeScopeId
        env.piSessionId config (hid ▸ hrun) hfrozen hreached h.store
      cases hopened :
          (openPi env.agentRuntimeScopeId env.piSessionId w.store config run).2 with
      | error e => exact h.bridge rfl rfl rfl hstore h.codex h.pi h.reports
      | ok e =>
        exact h.bridge rfl rfl rfl hstore h.codex (get_put_all h.pi (hexecution e hopened))
          h.reports
  | piEnd slot stored outcome =>
    obtain ⟨e, he, rfl⟩ := Option.map_eq_some_iff.mp hact
    obtain ⟨hstore, hreport⟩ :=
      pi_finish_ok (h.pi _ _ he) h.store env.clarifies stored outcome
    refine h.bridge rfl rfl rfl hstore h.codex (get_remove_all h.pi _) ?_
    exact List.forall_mem_cons.mpr ⟨hreport, h.reports⟩
  | piDrop slot =>
    cases hact
    exact h.bridge rfl rfl rfl h.store h.codex (get_remove_all h.pi _) h.reports
  | loseBinding key =>
    cases hact
    exact h.bridge rfl rfl rfl (h.store.remove key) h.codex h.pi h.reports

/-- **The invariant holds in every reachable world.** -/
theorem roomInv_reachable (h : (roomSystem env).Reachable w) : RoomInv w := by
  refine System.invariant RoomInv ?_ ?_ h
  · rintro w rfl
    exact roomInv_initial
  · intro action w w' hstep hinv
    exact roomInv_step hinv hstep

end AgentRoom.Context
