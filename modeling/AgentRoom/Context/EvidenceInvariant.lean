import AgentRoom.Context.EvidenceSystem

/-!
# Pages that join

A page of result evidence is a run of consecutive revisions. Planned at a cursor
it either goes on from that cursor or lies at or below it; a session at the same
cursor is given the first and not the second, and neither is refused as a gap.

The condition under which the two evidence cursors stay together is one on each
step. What a world then looks like: one Run at a time is delivered,
executed, reported and applied, and in each of these phases the server's cursor,
the stored binding and what the native session was given are related.
-/

namespace AgentRoom.Context

/-! ## Runs of revisions -/

/-- The revisions given to a session end at `n`: one unbroken run, or nothing yet. -/
def EndsAt (g : List Nat) (n : Nat) : Prop :=
  g = [] ∨ ∃ low, low < n ∧ g = List.range' (low + 1) (n - low)

theorem endsAt_nil (n : Nat) : EndsAt [] n := .inl rfl

variable {g : List Nat}

theorem EndsAt.eq_nil (h : EndsAt g 0) : g = [] := by
  rcases h with hnil | ⟨low, hlow, -⟩
  · exact hnil
  · omega

variable {n : Nat}

theorem EndsAt.contiguous (h : EndsAt g n) :
    ∃ low, g = List.range' (low + 1) g.length := by
  rcases h with rfl | ⟨low, -, hg⟩
  · exact ⟨0, rfl⟩
  · refine ⟨low, ?_⟩
    have hlength := congrArg List.length hg
    rw [List.length_range'] at hlength
    rw [hlength]
    exact hg

/-- **A page**: the revisions after `fromRevision` up to `throughRevision`. -/
structure PageRun (page : EvidencePage) : Prop where
  refs : page.artifactRefs =
    List.range' (page.fromRevision + 1) (page.throughRevision - page.fromRevision)
  proper : page.fromRevision < page.throughRevision
  revision : page.revision = page.throughRevision

/-- **A page goes on where the session is.** -/
theorem EndsAt.append (h : EndsAt g n) {page : EvidencePage} (hpage : PageRun page)
    (hjoin : n = 0 ∨ page.fromRevision = n) :
    EndsAt (g ++ page.artifactRefs) page.throughRevision := by
  have hproper := hpage.proper
  by_cases hg : g = []
  · subst hg
    exact .inr ⟨page.fromRevision, hproper, hpage.refs⟩
  · rcases h with hnil | ⟨low, hlow, hrun⟩
    · exact absurd hnil hg
    · have hfrom : page.fromRevision = n := by omega
      refine .inr ⟨low, by omega, ?_⟩
      have happend : List.range' (low + 1) (n - low) 1 ++
          List.range' (low + 1 + 1 * (n - low)) (page.throughRevision - n) 1 =
            List.range' (low + 1) (n - low + (page.throughRevision - n)) 1 := List.range'_append
      rw [show low + 1 + 1 * (n - low) = n + 1 by omega,
        show n - low + (page.throughRevision - n) = page.throughRevision - low by omega] at happend
      rw [hrun, hpage.refs, hfrom, happend]

/-! ## What a page is planned at -/

/-- **What a planned page is to a session at revision `n`**: a delta goes on from `n`; a
bootstrap lies at or below it, unless nothing was consumed. -/
structure PageFits (evidence : Option EvidencePage) (n : Nat) : Prop where
  run : ∀ page, evidence = some page → PageRun page
  delta : ∀ page, evidence = some page → page.deliveryKind = .delta → page.fromRevision = n
  bootstrap : ∀ page, evidence = some page → page.deliveryKind = .bootstrap →
    n = 0 ∨ page.throughRevision ≤ n

theorem pageFits_none (n : Nat) : PageFits none n where
  run := fun page h => by cases h
  delta := fun page h => by cases h
  bootstrap := fun page h => by cases h

/-- The revisions between two cursors. -/
theorem range'_filter_between {low high : Nat} (hlow : low ≤ high) (hhigh : high ≤ n) :
    (List.range' 1 n).filter (fun r => low < r ∧ r ≤ high) =
      List.range' (low + 1) (high - low) := by
  have hsplit : List.range' 1 n = List.range' 1 high ++ List.range' (high + 1) (n - high) := by
    have happend : List.range' 1 high 1 ++ List.range' (1 + 1 * high) (n - high) 1 =
        List.range' 1 (high + (n - high)) 1 := List.range'_append
    rw [show 1 + 1 * high = high + 1 by omega,
      show high + (n - high) = n by omega] at happend
    exact happend.symm
  have hbelow : (List.range' 1 high).filter (fun r => low < r ∧ r ≤ high) =
      (List.range' 1 high).filter (low < ·) := by
    refine List.filter_congr ?_
    intro r hr
    rw [List.mem_range'_1] at hr
    simp only [decide_eq_decide]
    omega
  have habove : (List.range' (high + 1) (n - high)).filter (fun r => low < r ∧ r ≤ high) = [] := by
    rw [List.filter_eq_nil_iff]
    intro r hr
    rw [List.mem_range'_1] at hr
    simp only [decide_eq_true_eq]
    omega
  rw [hsplit, List.filter_append, hbelow, habove, List.append_nil]
  by_cases hempty : low = high
  · subst hempty
    rw [Nat.sub_self, List.range'_zero, List.filter_eq_nil_iff]
    intro r hr
    rw [List.mem_range'_1] at hr
    simp only [decide_eq_true_eq]
    omega
  · rw [range'_filter_lt _ _ _ (by omega) (by omega)]
    congr 1
    omega

variable {published : Nat}

theorem listAfterRevision_eq {after through : Nat} (hafter : after ≤ through)
    (hthrough : through ≤ published) :
    listAfterRevision published after 20 through =
      List.range' (after + 1) (min 20 (through - after)) := by
  unfold listAfterRevision
  rw [range'_filter_between hafter hthrough]
  by_cases hfew : through - after ≤ 20
  · rw [List.take_range'_of_length_le hfew, Nat.min_eq_right hfew]
  · rw [List.take_range'_of_length_ge (by omega), Nat.min_eq_left (by omega)]

theorem listForTask_reverse {through : Nat} (hthrough : through ≤ published) :
    (listForTask published 20 through).reverse =
      List.range' (through - min 20 through + 1) (min 20 through) := by
  have hfilter : (List.range' 1 published).filter (· ≤ through) = List.range' 1 through := by
    rw [← show List.range' (0 + 1) (through - 0) = List.range' 1 through from rfl,
      ← range'_filter_between (Nat.zero_le through) hthrough]
    refine List.filter_congr ?_
    intro r hr
    rw [List.mem_range'_1] at hr
    simp only [decide_eq_decide]
    omega
  unfold listForTask
  rw [hfilter, List.take_reverse, List.reverse_reverse, List.length_range', List.drop_range']
  congr 1 <;> omega

/-- **Every planned page fits the cursor it was planned at.** -/
theorem planResultEvidence_fits {fence : Nat} (hfence : fence ≤ published) (cursor : Option Nat) :
    PageFits (planResultEvidence published cursor fence) (cursor.getD 0) := by
  unfold planResultEvidence
  split
  · exact pageFits_none _
  · rename_i hnone
    split
    · rename_i after hafter
      rw [Option.filter_eq_some_iff] at hafter
      obtain ⟨rfl, hle⟩ := hafter
      rw [decide_eq_true_eq] at hle
      dsimp only
      rw [listAfterRevision_eq hle hfence, List.getLast?_range']
      by_cases hempty : min 20 (fence - after) = 0
      · rw [if_pos hempty]
        exact pageFits_none _
      · rw [if_neg hempty]
        refine ⟨?_, ?_, ?_⟩
        · intro page h
          cases h
          refine ⟨?_, ?_, rfl⟩
          · dsimp only
            congr 1
            omega
          · dsimp only
            omega
        · intro page h _
          cases h
          rfl
        · intro page h hkind
          cases h
          cases hkind
    · rename_i hfilter
      dsimp only
      rw [listForTask_reverse hfence, List.head?_range', if_neg (by omega)]
      refine ⟨?_, ?_, ?_⟩
      · intro page h
        cases h
        refine ⟨?_, ?_, rfl⟩
        · dsimp only
          congr 1
          omega
        · dsimp only
          omega
      · intro page h hkind
        cases h
        cases hkind
      · intro page h _
        cases h
        -- without a cursor nothing was consumed; else it is past the fence
        cases cursor with
        | none => exact .inl rfl
        | some r =>
          rw [Option.filter_some] at hfilter
          split at hfilter
          · cases hfilter
          · rename_i hpast
            rw [decide_eq_true_eq] at hpast
            exact .inr (by simp only [Option.getD_some]; omega)

/-! ## What a session is given -/

/-- The revision a page brings a session to. -/
def throughOf (evidence : Option EvidencePage) : Nat := (evidence.map (·.throughRevision)).getD 0

theorem promptRevisions_evidence (run : RunRequested) :
    (promptRevisions run).resultEvidence = throughOf run.contextPlan.resultEvidence := rfl

/-- **A session at the cursor a page was planned at** is not refused for a gap. -/
theorem PageFits.no_gap {run : RunRequested} {binding : RuntimeSessionBinding}
    (h : PageFits run.contextPlan.resultEvidence binding.resultEvidenceRevision) :
    hasResultEvidenceCursorGap run binding = false := by
  unfold hasResultEvidenceCursorGap
  cases hpage : run.contextPlan.resultEvidence with
  | none => rfl
  | some page =>
    simp only [Option.any_some, Bool.and_eq_false_iff, decide_eq_false_iff_not]
    by_cases hkind : page.deliveryKind = .delta
    · right
      simp [h.delta page hpage hkind]
    · left
      left
      exact hkind

/-- What of a page a session at revision `n` is given: nothing, or a page that goes on from `n`. -/
structure GivenPage (given evidence : Option EvidencePage) (n : Nat) : Prop where
  of : ∀ page, given = some page → evidence = some page ∧ PageRun page ∧
    (n = 0 ∨ page.fromRevision = n) ∧ n < page.throughRevision

theorem PageFits.newer {evidence : Option EvidencePage} {binding : RuntimeSessionBinding}
    (h : PageFits evidence binding.resultEvidenceRevision) :
    GivenPage (newerEvidence evidence binding) evidence binding.resultEvidenceRevision := by
  refine ⟨?_⟩
  intro page hpage
  unfold newerEvidence at hpage
  rw [Option.filter_eq_some_iff] at hpage
  obtain ⟨hsome, hnewer⟩ := hpage
  have hrun := h.run page hsome
  refine ⟨hsome, hrun, ?_⟩
  cases hkind : page.deliveryKind with
  | delta =>
    rw [hkind] at hnewer
    simp only [Bool.and_eq_true, decide_eq_true_eq] at hnewer
    exact ⟨.inr hnewer.1, hnewer.2⟩
  | bootstrap =>
    rw [hkind] at hnewer
    simp only [decide_eq_true_eq] at hnewer
    have hrevision := hrun.revision
    rcases h.bootstrap page hsome hkind with hzero | hbelow
    · exact ⟨.inl hzero, by omega⟩
    · omega

theorem PageFits.whole {evidence : Option EvidencePage} (h : PageFits evidence 0) :
    GivenPage evidence evidence 0 := by
  refine ⟨fun page hpage => ⟨hpage, h.run page hpage, .inl rfl, ?_⟩⟩
  have hproper := (h.run page hpage).proper
  omega

/-! ## The condition -/

/-- Nothing was sent to the app server and no binding was deleted. -/
def CodexParser.Untouched (p : CodexParser) : Prop :=
  p.threadId = "" ∧ p.resumeFailed = false

/-- Whatever the native session was given is in the parser's binding. -/
def CodexParser.Recorded (p : CodexParser) : Prop :=
  p.Untouched ∨ p.revisions.resultEvidence ≤ p.binding.resultEvidenceRevision

/-- The prompt carries no page. -/
def PiExecution.Silent (e : PiExecution) : Prop := e.prompt.contextPlan.resultEvidence = none

/-- An execution a crash may drop: it was given no page. -/
def Execution.Untouched : Execution → Prop
  | .codex p => p.Untouched ∨ p.revisions.resultEvidence = 0
  | .pi e => e.Silent

/-- **A message of the app server that keeps the cursors together.** -/
def SteadyMessage (w : EvidenceWorld) (p : CodexParser) (stored : Bool) : CodexMessage → Prop
  | .threadOpened threadId =>
    -- each request is answered once, with the thread asked for or a new one
    p.threadId = "" ∧
      (match p.resumeId with
        | some asked => threadId = asked
        | none => ∀ g ∈ w.given, g.1 ≠ threadId) ∧
      ((p.consume w.store stored (.threadOpened threadId)).error.isSome = true → p.Recorded)
  | .refused id kind =>
    -- a replacement's page reaches what the lost session had
    p.threadId = "" ∧ p.binding.resultEvidenceRevision ≤ p.bootstrapRevisions.resultEvidence ∧
      ((p.consume w.store stored (.refused id kind)).error.isSome = true → p.Recorded)
  | message => (p.consume w.store stored message).error.isSome = true → p.Recorded

/-- **A step that keeps the two cursors together.** -/
def SteadyStep (S : AgentSession) : EvidenceAction → EvidenceWorld → Prop
  | .plan _ _, w => w.waiting = [] ∧ w.executions = [] ∧ w.unapplied = []
  | .execute runId, w =>
    S.kind = .pi → w.store.get S.key = none →
      ∀ g ∈ w.given, g.1 ≠ S.env.piSessionId S.key runId
  | .codexMessage slot message stored, w =>
    ∀ p, w.executions[slot]? = some (.codex p) → SteadyMessage w p stored message
  | .codexEnd slot _, w => ∀ p, w.executions[slot]? = some (.codex p) → p.Recorded
  | .piEnd slot stored reported outcome, w =>
    ∀ e, w.executions[slot]? = some (.pi e) →
      e.Silent ∨ (reported = true ∧ (stored && !isGoBlank e.nativeSessionId) = true ∧
        ∃ reply, outcome = .replied reply)
  | .drop slot, w => ∀ x, w.executions[slot]? = some x → x.Untouched
  | .loseReport i, w =>
    ∀ report scope revision, w.unapplied[i]? = some report →
      BridgeRunEventService.evidenceCursor report.session = some (scope, revision) →
      revision ≤ w.cursor.getD 0
  | .loseBinding, w => ∀ b, w.store.get S.key = some b → b.resultEvidenceRevision = 0
  | .publish, _ | .apply _, _ => True

/-! ## The phases -/

section Phases

variable (S : AgentSession)

namespace EvidenceWorld

/-- The server's cursor. -/
def server (w : EvidenceWorld) : Nat := w.cursor.getD 0

/-- The revision of the stored binding. -/
def bound (w : EvidenceWorld) : Nat :=
  ((w.store.get S.key).map (·.resultEvidenceRevision)).getD 0

/-- What the stored binding's session was given ends at its revision. -/
def BindingEnds (w : EvidenceWorld) : Prop :=
  ∀ b, w.store.get S.key = some b → EndsAt (w.givenTo b.sessionId) b.resultEvidenceRevision

/-- **The cursors are together.** -/
def Synced (w : EvidenceWorld) : Prop := w.bound S = w.server ∧ w.BindingEnds S

end EvidenceWorld

/-- A revision the server takes from a report of `run`. -/
def Ackable (run : RunRequested) (cursor revision : Nat) : Prop :=
  revision = cursor ∨
    (cursor < revision ∧
      run.contextPlan.resultEvidence.map (·.throughRevision) = some revision)

/-- **A delivery of this session.** -/
structure Delivered (w : EvidenceWorld) (runId : RunId) (run : RunRequested) : Prop where
  stored : w.deliveries.get runId = some run
  runId_eq : run.runId = runId
  task : run.taskId = S.taskId
  agent : run.targetAgentId = S.agentId
  scope : run.session.runtimeScopeId = some S.scope
  resume : run.session.resumePolicy = .resumeOrStart

/-- A page was planned at the server's cursor and waits for its execution. -/
structure WaitingPhase (w : EvidenceWorld) (run : RunRequested) : Prop where
  delivered : Delivered S w run.runId run
  waiting : w.waiting = [run.runId]
  executions : w.executions = []
  unapplied : w.unapplied = []
  fits : PageFits run.contextPlan.resultEvidence w.server
  synced : w.Synced S

/-- Before a thread is open: the prompt's page goes on from the session asked for. -/
structure UnopenedStage (w : EvidenceWorld) (p : CodexParser) : Prop where
  thread : p.threadId = ""
  fresh : p.resumeFailed = false
  bound : p.binding.resultEvidenceRevision = w.server
  resumed : ∀ s, p.resumeId = some s → EndsAt (w.givenTo s) w.server
  started : p.resumeId = none → w.server = 0
  page : ∀ page, p.instruction.contextPlan.resultEvidence = some page → PageRun page ∧
    (w.server = 0 ∨ page.fromRevision = w.server) ∧ w.server < page.throughRevision
  synced : w.Synced S

/-- After a refused resume: a new thread is asked for, with the whole delivery. -/
structure ReplacedStage (w : EvidenceWorld) (p : CodexParser) : Prop where
  thread : p.threadId = ""
  failed : p.resumeFailed = true
  bound : p.binding.resultEvidenceRevision = 0
  asked : p.resumeId = none
  page : ∀ page, p.instruction.contextPlan.resultEvidence = some page → PageRun page
  reaches : w.server ≤ p.revisions.resultEvidence
  synced : w.Synced S ∨ w.store.get S.key = none

/-- A thread is open and was given the prompt's page. -/
structure OpenStage (w : EvidenceWorld) (p : CodexParser) (run : RunRequested) : Prop where
  thread : p.threadId ≠ ""
  session : ∀ b, w.store.get S.key = some b → b.sessionId = p.threadId
  bound : w.bound S = p.binding.resultEvidenceRevision
  ends : EndsAt (w.givenTo p.threadId)
    (max p.binding.resultEvidenceRevision p.revisions.resultEvidence)
  ackable : Ackable run w.server
    (max p.binding.resultEvidenceRevision p.revisions.resultEvidence)
  unnamed : p.binding.lastRunId ≠ some p.runId → p.binding.resultEvidenceRevision ≤ w.server
  within : p.binding.resultEvidenceRevision ≤ max w.server p.revisions.resultEvidence

/-- **A Codex execution.** -/
structure CodexPhase (w : EvidenceWorld) (p : CodexParser) (run : RunRequested) : Prop where
  delivered : Delivered S w p.runId run
  waiting : w.waiting = []
  executions : w.executions = [.codex p]
  unapplied : w.unapplied = []
  key : p.key = S.key
  scope : p.runtimeScopeId = S.scope
  fits : PageFits run.contextPlan.resultEvidence w.server
  part : p.instruction.contextPlan.resultEvidence = none ∨
    p.instruction.contextPlan.resultEvidence = run.contextPlan.resultEvidence
  revisions : p.revisions.resultEvidence = throughOf p.instruction.contextPlan.resultEvidence
  bootstrap : p.bootstrapInstruction.contextPlan.resultEvidence =
    run.contextPlan.resultEvidence
  bootstrapRevisions : p.bootstrapRevisions.resultEvidence =
    throughOf run.contextPlan.resultEvidence
  stage : UnopenedStage S w p ∨ ReplacedStage S w p ∨ OpenStage S w p run

/-- **A Pi execution**: the native session was given the prompt's page. -/
structure PiPhase (w : EvidenceWorld) (e : PiExecution) (run : RunRequested) : Prop where
  delivered : Delivered S w e.runId run
  waiting : w.waiting = []
  executions : w.executions = [.pi e]
  unapplied : w.unapplied = []
  key : e.key = S.key
  scope : e.runtimeScopeId = S.scope
  bound : e.binding.resultEvidenceRevision = w.server
  part : e.prompt.contextPlan.resultEvidence = none ∨
    (e.prompt.contextPlan.resultEvidence = run.contextPlan.resultEvidence ∧
      w.server < throughOf run.contextPlan.resultEvidence)
  ends : EndsAt (w.givenTo e.nativeSessionId)
    (max w.server (throughOf e.prompt.contextPlan.resultEvidence))
  session : ∀ b, w.store.get S.key = some b → b.sessionId = e.nativeSessionId
  synced : w.bound S = w.server

/-- **A report to apply**: it carries the stored binding's revision, or changes nothing. -/
structure ReportPhase (w : EvidenceWorld) (report : SessionReport) (run : RunRequested) :
    Prop where
  delivered : Delivered S w report.runId run
  waiting : w.waiting = []
  executions : w.executions = []
  unapplied : w.unapplied = [report]
  silent : BridgeRunEventService.evidenceCursor report.session = none → w.bound S = w.server
  told : ∀ scope revision,
    BridgeRunEventService.evidenceCursor report.session = some (scope, revision) →
    scope = S.scope ∧ revision = w.bound S ∧ Ackable run w.server revision
  ends : w.BindingEnds S

/-- No Run of the session is outstanding. -/
structure IdlePhase (w : EvidenceWorld) : Prop where
  waiting : w.waiting = []
  executions : w.executions = []
  unapplied : w.unapplied = []
  synced : w.Synced S

/-- Where the session's one outstanding Run is. -/
inductive Phase (w : EvidenceWorld) : Prop where
  | idle (h : IdlePhase S w)
  | waiting (run : RunRequested) (h : WaitingPhase S w run)
  | codex (p : CodexParser) (run : RunRequested) (h : CodexPhase S w p run)
  | pi (e : PiExecution) (run : RunRequested) (h : PiPhase S w e run)
  | report (report : SessionReport) (run : RunRequested) (h : ReportPhase S w report run)

/-- **The invariant of a steady history.** -/
structure EvidenceInv (w : EvidenceWorld) : Prop where
  phase : Phase S w
  /-- What any native session was given is unbroken. -/
  given : ∀ s, ∃ n, EndsAt (w.givenTo s) n
  refused : w.refused = []

end Phases

/-- A delivery is known by the rows of deliveries. -/
theorem Delivered.congr {S : AgentSession} {w w' : EvidenceWorld} {runId : RunId}
    {run : RunRequested} (h : Delivered S w runId run) (hsame : w'.deliveries = w.deliveries) :
    Delivered S w' runId run :=
  { h with stored := hsame ▸ h.stored }

theorem evidenceInv_initial (S : AgentSession) : EvidenceInv S .initial where
  phase := .idle ⟨rfl, rfl, rfl, rfl, fun b h => by cases h⟩
  given := fun s => ⟨0, endsAt_nil 0⟩
  refused := rfl

end AgentRoom.Context
