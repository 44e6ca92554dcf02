import AgentRoom.Hosted.System

/-!
# A provider request leaves at most once

The intents and the memory together keep a second request from leaving, over every
interleaving and every crash; the intent and its Run never contradict each other; and a
recovery that returns leaves nothing under way. An intent has no word for an expired Run,
and past its dispatch it does not repeat `canceled`: the provider's outcome is unknown.
-/

namespace AgentRoom.Hosted

open HostedInvocationRepository

variable {services : HostedServices} {runServices : Services} {w : World}

def PastDispatch (row : HostedInvocationRecord) : Prop := row.dispatchedAt.isSome = true

/-- An intent and its Run do not contradict each other. -/
structure Consistent (db : Central) (row : HostedInvocationRecord) (run : RunRecord) : Prop where
  underWay : row.state = .dispatching ∨ row.state = .streaming → PastDispatch row
  started : PastDispatch row → run.state ≠ .queued ∧ Delivered db row.runId
  settled : row.state.terminal = true →
    run.state.terminal = true ∧ row.state = outcomeOf row run.state

/-- What a recovery that returns has settled. -/
structure Settled (db : HostedDb) : Prop where
  intents : ∀ id row, db.invocations.get id = some row →
    row.val.state ≠ .dispatching ∧ row.val.state ≠ .streaming
  runs : ∀ id row run, db.invocations.get id = some row → PastDispatch row.val →
    db.central.runs.get id = some run → run.state.terminal = true
  hosted : ∀ id run, db.central.runs.get id = some run →
    isHosted db.central run.targetAgentId = true →
    run.state = .queued ∨ run.state.terminal = true

theorem HostedInv.consistent {db : HostedDb} (h : HostedInv db) {id : RunId}
    {row : StoredInvocation} (hget : db.invocations.get id = some row) :
    ∃ run, db.central.runs.get id = some run ∧ Consistent db.central row.val run := by
  obtain ⟨-, run, hrun, -, hagrees⟩ := h.row id row hget
  refine ⟨run, hrun, fun hstate => ?_, hagrees.started, hagrees.settled⟩
  refine dispatched_of_valid row.2 ?_
  rcases hstate with hs | hs
  · exact .inl hs
  · exact .inr (.inl hs)

theorem settled_of_nothingUnderWay {db : HostedDb} (h : HostedInv db) (hn : NothingUnderWay db) :
    Settled db := by
  have hrest : ∀ id row, db.invocations.get id = some row →
      row.val.state.terminal = true ∨ row.val.state = .prepared := fun id row hget =>
    (hn.intents id row hget).imp (fun h => h) And.left
  refine ⟨fun id row hget => ?_, fun id row run hget hpast hrun => ?_, hn.runs⟩
  · rcases hrest id row hget with hended | hprepared
    · constructor <;> intro hs <;> rw [hs] at hended <;> cases hended
    · constructor <;> intro hs <;> rw [hs] at hprepared <;> cases hprepared
  · rcases hrest id row hget with hended | hprepared
    · obtain ⟨-, run', hrun', -, hagrees⟩ := h.row id row hget
      obtain rfl := Option.mem_unique hrun hrun'
      exact (hagrees.settled hended).1
    · have hnone := undispatched_of_prepared row.2 hprepared
      unfold PastDispatch at hpast
      rw [hnone] at hpast
      cases hpast

/-- No step takes a prepared intent to `outcome_unknown`. -/
theorem prepared_step {label : HostedLabel} {w' : World} (h : WorldInv w)
    (hstep : (hosted services runServices).step label w w') (id : RunId)
    (hprepared : stateOf w.db id = some .prepared) :
    stateOf w'.db id ≠ some .outcomeUnknown := by
  have hmove : RowMove (stateOf w.db id) (stateOf w'.db id) := by
    cases label with
    | hosted step =>
      obtain rfl : w' = w.exec services step := hstep
      exact exec_rowMove h step id
    | central label =>
      obtain ⟨-, -, heq⟩ := hstep
      rw [heq]
      exact .inl (calm_refl _)
  rw [hprepared] at hmove
  intro hunknown
  rw [hunknown] at hmove
  rcases hmove with hcalm | ⟨-, hd⟩
  · cases hcalm
  · cases hd

/-- **At most one request for each Run, and no contradiction.** In every reachable state each
Run's provider request was sent at most once, every intent is consistent with its Run, and no
step takes a prepared intent to `outcome_unknown`. Whenever `recover` returns, no intent is left
under way and no dispatched Run unended; it does return where the database admits the end of
every unsettled intent. -/
theorem hosted_at_most_once (h : (hosted services runServices).Reachable w) :
    (∀ id, w.sent.count id ≤ 1) ∧
    (∀ id row, w.db.invocations.get id = some row →
      ∃ run, w.db.central.runs.get id = some run ∧ Consistent w.db.central row.val run) ∧
    (∀ label w', (hosted services runServices).step label w w' → ∀ id,
      stateOf w.db id = some .prepared → stateOf w'.db id ≠ some .outcomeUnknown) ∧
    (∀ now result db', recover services now w.db = (.ok result, db') → Settled db') ∧
    (∀ now, Recoverable now w.db →
      ∃ result db', recover services now w.db = (.ok result, db')) := by
  have hinv := worldInv_reachable h
  refine ⟨fun id => List.nodup_iff_count_le_one.mp hinv.once id,
    fun id row hget => hinv.db.consistent hget,
    fun label w' hstep id hprepared => prepared_step hinv hstep id hprepared,
    fun now result db' hx => ?_, fun now hr => recover_returns services hinv.db hr⟩
  obtain ⟨hdb, -, hn⟩ := recover_ok services hinv.db hx
  exact settled_of_nothingUnderWay hdb hn

/-! ## A run -/

def World.after (services : HostedServices) (steps : List Step) (w : World) : World :=
  steps.foldl (fun w step => w.exec services step) w

theorem reachable_after (steps : List Step) (h : (hosted services runServices).Reachable w) :
    (hosted services runServices).Reachable (w.after services steps) := by
  induction steps generalizing w with
  | nil => exact h
  | cons step steps ih =>
    exact ih (System.reachable_step (i := .hosted step) h rfl)

/-- Everything is in scope and nothing is redacted. -/
def plainHosted : HostedServices where
  inScope _ _ := true
  mayCancel _ _ _ _ := true
  redactSensitiveText text := text
  maximumConcurrency := 4

/-- One Team with one Hosted Agent. -/
def oneHosted : Central :=
  { oneAgent with
    agents := Table.empty.put 1
      { agentId := 1, teamId := 1, ownerMemberId := 1, deviceId := none, name := "agent"
        integrationMode := .hosted
        capabilities :=
          { supportsInterrupt := true, supportsRoomContextCoverage := false
            supportsArtifactMaterialization := false
            supportsDiscussionSupplementalEvidence := false }
        readOnly := true, runtimeScopeId := none, enabled := true, presence := .ready
        createdAt := 0 } }

/-- A queued Run of the Hosted Agent, due at 100, and a server that is down. -/
def oneQueued : World where
  db := ⟨(Op.exec plainServices online (.createRuns [plainRequest 1 100]) oneHosted),
    .empty⟩
  scheduler := none
  sent := []

theorem oneQueued_reachable : (hosted plainHosted plainServices).Reachable oneQueued := by
  have hinit : (hosted plainHosted plainServices).init ⟨⟨oneHosted, .empty⟩, none, []⟩ :=
    ⟨⟨rfl, rfl, rfl, rfl, rfl⟩, rfl, rfl, rfl⟩
  have hqueued : oneQueued.db.central.runs.rows.map (·.state) = [.queued] := by decide +kernel
  refine System.reachable_step (System.reachable_init hinit)
    (i := .central (.call online (.createRuns [plainRequest 1 100]))) ⟨rfl, ⟨?_, ?_⟩, rfl⟩
  · intro agentId hhosted
    exact hhosted
  · -- the one Run there is stays queued
    intro id run' hget _ hstarted
    have hstate : run'.state ∈ oneQueued.db.central.runs.rows.map (·.state) :=
      List.mem_map_of_mem (Table.mem_rows.mpr ⟨id, hget⟩)
    rw [hqueued, List.mem_singleton] at hstate
    exact absurd hstate hstarted

/-- The request of Run 1 is aborted while its response streams. -/
def abortedAnswers : Answers
  | .transaction _ => .error ""
  | .clock => (5 : Nat)
  | .hasCurrentRoomScope _ | .roomAdmits .. => true
  | .planExecution _ | .notifyTerminal _ => .ok ()
  | .resolveExecutionProfile _ => .ok
      { teamId := 1, agentId := 1, profileRevision := 1, credentialVersion := 1
        model := "model" }
  | .prepareAdapter .. => .ok "digest"
  | .send _ => (1 : Nat)
  | .adapterStep _ => .yields ⟨.status
      { sequence := 2, status := .canceled
        error := some
          { code := "HOSTED_REQUEST_ABORTED"
            message := "Hosted provider request was canceled locally.", retryable := false } },
      rfl⟩
  | .active => []
  | .armTimer _ | .stopAccepting | .abort _ => ()

/-- The server starts, drains its queue and takes Run 1 to the end of its `executeOne`. -/
def abortedRun : List Step :=
  [.boot 0, .drain] ++ List.replicate 24 (.advance 1 abortedAnswers)

/-- The state after Run 1 was aborted. -/
def oneAborted : World := oneQueued.after plainHosted abortedRun

theorem oneAborted_reachable : (hosted plainHosted plainServices).Reachable oneAborted :=
  reachable_after abortedRun oneQueued_reachable

theorem oneAborted_sent_once :
    1 ∈ oneAborted.sent ∧ oneAborted.sent.count 1 ≤ 1 ∧
      (∃ row, oneAborted.db.invocations.get 1 = some row ∧ PastDispatch row.val) ∧
      ∀ id row, oneAborted.db.invocations.get id = some row →
        ∃ run, oneAborted.db.central.runs.get id = some run ∧
          Consistent oneAborted.db.central row.val run := by
  have h := hosted_at_most_once oneAborted_reachable
  have hrow : ∃ row, oneAborted.db.invocations.get 1 = some row ∧ PastDispatch row.val := by
    have hsome : (oneAborted.db.invocations.get 1).map (·.val.dispatchedAt.isSome) =
        some true := by decide +kernel
    obtain ⟨row, hget, hpast⟩ := Option.map_eq_some_iff.mp hsome
    exact ⟨row, hget, hpast⟩
  exact ⟨by decide +kernel, h.1 1, hrow, h.2.1⟩

/-- A settled intent repeats the outcome of its Run. -/
def RepeatsOutcome (db : HostedDb) : Prop :=
  ∀ id row run, db.invocations.get id = some row → db.central.runs.get id = some run →
    row.val.state.terminal = true → row.val.state = invocationState run.state

/-- **An intent past its dispatch does not repeat `canceled`.** Run 1 ends canceled, its intent
with an unknown outcome. -/
theorem not_repeatsOutcome :
    ¬ ∀ w, (hosted plainHosted plainServices).Reachable w → RepeatsOutcome w.db := by
  intro hall
  have hintent : (oneAborted.db.invocations.get 1).map (·.val.state) = some .outcomeUnknown := by
    decide +kernel
  have hended : (oneAborted.db.central.runs.get 1).map (·.state) = some .canceled := by
    decide +kernel
  obtain ⟨row, hrow, hstate⟩ := Option.map_eq_some_iff.mp hintent
  obtain ⟨run, hrun, hcanceled⟩ := Option.map_eq_some_iff.mp hended
  have hrepeats := hall oneAborted oneAborted_reachable 1 row run hrow hrun (by rw [hstate]; rfl)
  rw [hstate, hcanceled] at hrepeats
  cases hrepeats

end AgentRoom.Hosted
