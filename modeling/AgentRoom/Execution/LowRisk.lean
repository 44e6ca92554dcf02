import AgentRoom.Execution.PlanInvariant
import AgentRoom.Plan.Dataflow

/-!
# What a delegated supersession may change

An Agent that activates a supersession under a delegation replaces the approved revision by one
that asks for no more. The comparison runs over the compiled Tasks; that these are the nodes of
the approved definition is the invariant of plans, and that the candidate has no others is the
fixed Task set.
-/

namespace AgentRoom.Execution

open Plan (PlanDefinition PlanNode Dataflow)

/-- A node asks for no more: the pin of its Task may move and its budget shrink. -/
structure NodeNarrows (plan : PlanProjection) (current next : PlanNode) : Prop where
  nodeKey : next.nodeKey = current.nodeKey
  contract : sameContract current next
  budget : withinBudget next.budget current.budget
  task : ∃ t ∈ plan.compiledTasks, t.nodeKey = current.nodeKey ∧
    Plan.existingTaskOf next = some t.taskId

/-- **A definition asks for no more than the current one of a plan.** -/
structure Narrows (plan : PlanProjection) (next : PlanDefinition) : Prop where
  policy : samePolicy plan.current.definition.policy next.policy
  concurrency : next.policy.maxConcurrency ≤ plan.current.definition.policy.maxConcurrency
  budget : withinBudget next.policy.budget plan.current.definition.policy.budget
  externalInputs : next.externalInputs = plan.current.definition.externalInputs
  kept : ∀ old ∈ plan.current.definition.nodes, ∃ new ∈ next.nodes, NodeNarrows plan old new
  added : ∀ new ∈ next.nodes, ∃ old ∈ plan.current.definition.nodes, NodeNarrows plan old new

variable {plan : PlanProjection}

theorem isLowRisk_iff {next : PlanDefinition} :
    isLowRisk plan next = true ↔
      (next.policy.maxConcurrency ≤ plan.current.definition.policy.maxConcurrency ∧
        withinBudget next.policy.budget plan.current.definition.policy.budget ∧
        samePolicy plan.current.definition.policy next.policy ∧
        plan.current.definition.externalInputs = next.externalInputs) ∧
      ∀ t ∈ plan.compiledTasks, lowRiskTask plan.current.definition next t = true := by
  simp [isLowRisk]

/-- The edges are not looked at: lowering the gate of one leaves a candidate at low risk. -/
theorem isLowRisk_edges (plan : PlanProjection) (next : PlanDefinition)
    (edges : List Plan.PlanEdge) :
    isLowRisk plan { next with edges } = isLowRisk plan next := rfl

/-- What the comparison finds for a compiled Task. -/
theorem lowRiskTask_ok {current next : PlanDefinition} {t : CompiledTask}
    (h : lowRiskTask current next t = true) :
    ∃ old ∈ current.nodes, ∃ new ∈ next.nodes, old.nodeKey = t.nodeKey ∧
      next.nodes.find? (fun node => Plan.existingTaskOf node = some t.taskId) = some new ∧
      Plan.existingTaskOf new = some t.taskId ∧ old.nodeKey = new.nodeKey ∧
      withinBudget new.budget old.budget ∧ sameContract old new := by
  unfold lowRiskTask at h
  cases hold : current.nodes.find? (fun node => node.nodeKey = t.nodeKey) with
  | none =>
    rw [hold] at h
    cases h
  | some old =>
    cases hnew : next.nodes.find? (fun node => Plan.existingTaskOf node = some t.taskId) with
    | none =>
      rw [hold, hnew] at h
      cases h
    | some new =>
      rw [hold, hnew] at h
      simp only [decide_eq_true_eq] at h
      have holdKey : old.nodeKey = t.nodeKey := by simpa using List.find?_some hold
      have hnewTask : Plan.existingTaskOf new = some t.taskId := by
        simpa using List.find?_some hnew
      exact ⟨old, List.mem_of_find?_eq_some hold, new, List.mem_of_find?_eq_some hnew, holdKey,
        rfl, hnewTask, h⟩

variable {K : Contracts}

theorem requireDelegation_ok {E : Surroundings} {db : ExecutionDb} {delegationId : String}
    {actor : SupersessionActor} {authorityMemberId : String} {candidate : SupersessionCandidate}
    {definition : PlanDefinition} {delegation : ReplanDelegation}
    (h : requireDelegation K E db delegationId actor authorityMemberId plan candidate definition =
      .ok delegation) : isLowRisk plan definition = true := by
  unfold requireDelegation at h
  obtain ⟨root, -, h⟩ := ok_of_except_bind h
  obtain ⟨found, -, h⟩ := ok_of_except_bind h
  cases found with
  | none => cases h
  | some delegation =>
    obtain ⟨_, -, h⟩ := ok_of_except_bind h
    obtain ⟨_, hrisk, -⟩ := ok_of_except_bind h
    exact (require_ok.mp hrisk).2.2

/-- **The nodes of the current revision of a plan in force are those compiled for it.** -/
theorem PlanInv.definition {s : ExecutionDb} (h : PlanInv K s) {planId : String}
    (hplan : getPlan s planId = .ok (some plan)) (hactive : plan.state.active = true)
    {node : PlanNode} (hnode : node ∈ plan.current.definition.nodes) :
    ∃ t ∈ plan.compiledTasks, t.nodeKey = node.nodeKey := by
  obtain ⟨row, current, hrow, hcurrent, rfl⟩ := getPlan_ok hplan
  have hid : row.planId = planId := by simpa using List.find?_some hrow
  obtain ⟨a, ha, haplan, harevision, hdecision⟩ :=
    h.approved row (List.mem_of_find?_eq_some hrow) (active_ne_draft hactive)
  obtain ⟨revision, hrevision, hnodes⟩ := h.compilation a ha
  rw [haplan, hid, harevision, hcurrent] at hrevision
  obtain rfl := Option.some.inj hrevision
  obtain ⟨n, hn, hnplan, hnrevision, hnnode⟩ := hnodes hdecision node hnode
  refine ⟨n.compiled, mem_compiledTasks.mpr ⟨n, mem_nodesOf.mpr ⟨hn, ?_, ?_⟩, rfl⟩, ?_⟩
  · exact hnplan.trans (haplan.trans hid)
  · exact hnrevision.trans harevision
  · show n.nodeKey = node.nodeKey
    rw [h.keyed n hn, hnnode]

/-- One node has a key in the current revision of a plan in force. -/
theorem PlanInv.definition_keys {s : ExecutionDb} (h : PlanInv K s) {planId : String}
    (hplan : getPlan s planId = .ok (some plan)) (hactive : plan.state.active = true)
    {node other : PlanNode} (hnode : node ∈ plan.current.definition.nodes)
    (hother : other ∈ plan.current.definition.nodes) (hkey : node.nodeKey = other.nodeKey) :
    node = other := by
  obtain ⟨row, current, hrow, hcurrent, rfl⟩ := getPlan_ok hplan
  have hid : row.planId = planId := by simpa using List.find?_some hrow
  obtain ⟨a, ha, haplan, harevision, hdecision⟩ :=
    h.approved row (List.mem_of_find?_eq_some hrow) (active_ne_draft hactive)
  obtain ⟨revision, hrevision, hnodes⟩ := h.compilation a ha
  rw [haplan, hid, harevision, hcurrent] at hrevision
  obtain rfl := Option.some.inj hrevision
  obtain ⟨n, hn, hnplan, hnrevision, rfl⟩ := hnodes hdecision node hnode
  obtain ⟨m, hm, hmplan, hmrevision, rfl⟩ := hnodes hdecision other hother
  have hsame : n = m := by
    refine List.inj_on_of_nodup_map h.nodeIds hn hm ?_
    unfold NodeRow.key
    rw [hnplan, hmplan, hnrevision, hmrevision, h.keyed n hn, h.keyed m hm, hkey]
  rw [hsame]

section Delegated

variable {K : Contracts} {E : Surroundings} {r : ActivationRequest} {plan : PlanProjection}
  {a : Activation} {s : ExecutionDb}

/-- A node of the candidate is the one the comparison found for its Task. -/
theorem Checked.found (ha : Checked K E s r plan a) {new : PlanNode}
    (hnew : new ∈ a.definition.nodes) : ∃ t ∈ plan.compiledTasks,
      Plan.existingTaskOf new = some t.taskId ∧
      ∀ node, a.definition.nodes.find? (fun node =>
        Plan.existingTaskOf node = some t.taskId) = some node → node = new := by
  obtain ⟨hforall, hnodup, -⟩ := compileFixedTaskSet_ok ha.compiled
  have hlength := hforall.length_eq
  -- the Task compiled at the place of a node is the one the node names
  have hat : ∀ k (hk : k < a.definition.nodes.length) (hk' : k < a.compiled.length),
      Plan.existingTaskOf a.definition.nodes[k] = some a.compiled[k].task.taskId ∧
        a.compiled[k].task.taskId ∈ plan.compiledTasks.map (·.taskId) := by
    intro k hk hk'
    have hcompiled := (List.forall₂_iff_get.mp hforall).2 k hk hk'
    simp only [List.get_eq_getElem] at hcompiled
    obtain ⟨-, htask, -, hmem⟩ := compileNode_ok hcompiled
    exact ⟨htask, hmem⟩
  obtain ⟨i, hi, rfl⟩ := List.getElem_of_mem hnew
  obtain ⟨htask, hmem⟩ := hat i hi (by omega)
  obtain ⟨t, ht, hid⟩ := List.mem_map.mp hmem
  rw [← hid] at htask
  refine ⟨t, ht, htask, fun node hfind => ?_⟩
  obtain ⟨j, hj, rfl⟩ := List.getElem_of_mem (List.mem_of_find?_eq_some hfind)
  have hfound : Plan.existingTaskOf a.definition.nodes[j] = some t.taskId := by
    simpa using List.find?_some hfind
  rw [(hat j hj (by omega)).1, hid] at hfound
  have hj' : j < (a.compiled.map (·.task.taskId)).length := by simpa using by omega
  have hi' : i < (a.compiled.map (·.task.taskId)).length := by simpa using by omega
  have heq : (a.compiled.map (·.task.taskId))[j] = (a.compiled.map (·.task.taskId))[i] := by
    simpa using Option.some.inj hfound
  obtain rfl := (List.Nodup.getElem_inj_iff hnodup).mp heq
  rfl

/-- **A low-risk candidate with the fixed Task set narrows the plan in force.** -/
theorem Checked.narrows (h : PlanInv K s) (hplan : getPlan s r.planId = .ok (some plan))
    (ha : Checked K E s r plan a) (hrisk : isLowRisk plan a.definition = true) :
    Narrows plan a.definition := by
  obtain ⟨⟨hconcurrency, hbudget, hpolicy, hexternal⟩, htasks⟩ := isLowRisk_iff.mp hrisk
  refine ⟨hpolicy, hconcurrency, hbudget, hexternal.symm, ?_, ?_⟩
  · intro old hold
    obtain ⟨t, ht, hkey⟩ := h.definition hplan ha.active hold
    obtain ⟨old', hold', new, hnew, holdKey, -, hnewTask, hsame, hwithin, hcontract⟩ :=
      lowRiskTask_ok (htasks t ht)
    obtain rfl : old' = old :=
      h.definition_keys hplan ha.active hold' hold (holdKey.trans hkey)
    exact ⟨new, hnew, hsame.symm, hcontract, hwithin, t, ht, hkey, hnewTask⟩
  · intro new hnew
    obtain ⟨t, ht, htask, honly⟩ := ha.found hnew
    obtain ⟨old, hold, new', hnew', holdKey, hfind, hnewTask, hsame, hwithin, hcontract⟩ :=
      lowRiskTask_ok (htasks t ht)
    obtain rfl := honly new' hfind
    exact ⟨old, hold, hsame.symm, hcontract, hwithin, t, ht, holdKey.symm, hnewTask⟩

end Delegated

/-- **A delegated supersession narrows the approved plan.** What an Agent newly activates under a
delegation has the policy, the external inputs and the node contracts of the revision in force,
with limits that are no higher, and every required input of it is bound. -/
theorem delegated_supersession_narrows (D : AgentRoom.Contracts.Doubles)
    (sha256 : List UInt8 → String) (digest : Digested → String) (conforms : Asserted → Bool)
    (E : Surroundings) (planId : String) (command : ActivationCommand)
    (agentId runId delegationId : String) (db db' : ExecutionDb) (receipt : ActivationReceipt)
    (hreach : Reachable (Contracts.of D sha256 digest conforms) db)
    (hnew : activationOf db command.operationId = none)
    (hrun : activateForAgent (Contracts.of D sha256 digest conforms) E planId command agentId runId
      delegationId db = (.ok receipt, db')) :
    ∃ plan candidate v, getPlan db planId = .ok (some plan) ∧ plan.state.active = true ∧
      candidate ∈ db.candidates ∧ candidate.candidateId = command.candidateId ∧
      candidate.candidateRevision = plan.current.revision + 1 ∧
      Plan.validateExecutionPlanDefinition D sha256 candidate.definition = .ok v ∧
      Narrows plan v.definition ∧ Dataflow v.definition := by
  have hinv := reachable_inv hreach
  rcases activateForAgent_cases (Contracts.of D sha256 digest conforms) E planId command agentId
    runId delegationId db with ⟨e, he⟩ | ⟨issuer, heq⟩
  · rw [he] at hrun
    cases hrun
  rw [heq] at hrun
  obtain ⟨plan, hplan, -, hreplay | ⟨-, a, ha, -⟩⟩ := activateWithActor_ok hrun
  · -- a replay needs an activation under the operation id
    have hreplay := hreplay.1
    unfold replayActivation at hreplay
    rw [hnew] at hreplay
    obtain ⟨_, -, hreplay⟩ := ok_of_except_bind hreplay
    cases hreplay
  · have hchecked := requireActivation_ok ha
    obtain ⟨delegation, hdelegation⟩ := hchecked.delegated delegationId rfl
    obtain ⟨v, hvalidated, hdefinition⟩ := hchecked.validated
    have hnarrows := hchecked.narrows hinv hplan (requireDelegation_ok hdelegation)
    obtain ⟨hok, -, hv⟩ := Plan.validate_ok.mp hvalidated
    refine ⟨plan, a.candidate, v, hplan, hchecked.active, hchecked.candidate,
      hchecked.candidateId, hchecked.next, hvalidated, hdefinition ▸ hnarrows, ?_⟩
    rw [hv]
    exact ((Plan.normalizeDefinition_same _).ok hok).dataflow

/-! ## A small supersession -/

/-- A text of the form of a digest. -/
def hexOf (first rest : Char) : String := String.ofList (first :: List.replicate 63 rest)

/-- A stand-in for the digest, which tells the values below apart. -/
def sampleDigest : Digested → String
  | .activationRequest .. => hexOf 'a' '0'
  | .rootSupersession .. => hexOf 'b' '0'
  | .supersessionApproval .. => hexOf 'c' '0'
  | .carryOperation .. => hexOf 'd' '0'
  | .carryAdoption .. => hexOf 'e' '0'
  | .inputBindings .. => hexOf 'f' '0'
  | .nodeContract .. => hexOf '0' '0'
  | .proofSet .. => hexOf '1' '0'
  | .adoptionOperation .. => hexOf '2' '0'
  | .adoption .. => hexOf '3' '0'
  | .reuseInputs .. => hexOf '4' '0'
  | .nodeReuseContract .. => hexOf '5' '0'
  | .reuseContract .. => hexOf '6' '0'
  | .reuseContractId .. => hexOf '7' '0'
  | .activationReceipt .. => hexOf '8' '0'
  | .inputIdentity .. => hexOf '9' '0'
  | .acceptedSource .. => hexOf 'a' '2'
  | .inputBinding .. => hexOf 'b' '2'
  | .inputRequest .. => hexOf 'c' '2'

/-- A node for a Task that exists. -/
def sampleNode : PlanNode :=
  { Plan.sampleBuild with
    task := .existing ⟨"task_write0001", 1, 1, 1⟩
    scope := ⟨.isolatedWrite, ["src"], [], true⟩ }

def sampleDefinition (maxConcurrency : Nat) : PlanDefinition where
  schemaVersion := "1.0"
  rootTaskId := "task_root0001"
  title := "sample"
  decision := {
    summary := "summary"
    items := []
    unresolvedQuestions := []
    sources := [⟨"evidence_sample01", .message "msg_sample01"⟩]
    sourceRevisions := [⟨"evidence_sample01", 1⟩] }
  nodes := [sampleNode]
  edges := []
  externalInputs := []
  policy := ⟨maxConcurrency, ⟨1, 60⟩, .reviewedCandidate, true, []⟩

def sampleRoot : AgentTask where
  taskId := "task_root0001"
  teamId := "team_sample01"
  roomId := "room_sample01"
  parentTaskId := none
  title := "root"
  goal := "goal"
  lifecycleState := .active
  schedulingState := .enabled
  completionPolicy := .ownerConfirmed
  taskRevision := 2
  definitionRevision := 1
  criteriaRevision := 1
  criteria := []
  ownerMemberId := "member_sample01"
  assignments := []
  budgetPolicy := ⟨1, 60⟩
  budgetUsage := ⟨0, 0⟩
  isDefault := false
  updatedAt := 0

def sampleWork : AgentTask where
  taskId := "task_write0001"
  teamId := "team_sample01"
  roomId := "room_sample01"
  parentTaskId := some "task_root0001"
  title := "write"
  goal := "goal"
  lifecycleState := .active
  schedulingState := .enabled
  completionPolicy := .acceptedResultRequired
  taskRevision := 1
  definitionRevision := 1
  criteriaRevision := 1
  criteria := [⟨"criterion_sample01", "holds", true, 1⟩]
  ownerMemberId := "member_sample01"
  assignments := [⟨"agent_sample01", .primary, "member_sample01", 0⟩]
  budgetPolicy := ⟨1, 60⟩
  budgetUsage := ⟨0, 0⟩
  isDefault := false
  updatedAt := 0

def sampleSnapshot : SourceSnapshot :=
  ⟨⟨"evidence_sample01", .message "msg_sample01"⟩, 1, hexOf '0' '1'⟩

def sampleSurroundings : Surroundings where
  freeze _ _ := .ok [sampleSnapshot]
  requireExternalInputs _ _ := .ok ()
  governedAgentReadyGrants _ _ := [{
    planId := "plan_sample01"
    nodeKey := "write"
    agentId := "agent_sample01"
    deviceId := "device_sample01"
    repositoryId := "repo_sample01"
    bindingId := "repobind_sample01"
    grantId := "grant_sample01"
    grantRevision := 1
    grantDigest := hexOf '0' '1'
    expiresAt := 100
    runtimeProfile := ⟨"profile_sample01", 1, Plan.sampleRepository.runtimeProfileDigest⟩
    operations := [.prepare, .capture, .verify]
    integrationTargets := []
    scopePolicy := ⟨.isolatedWrite, ["src"], [], true⟩
    verificationProfiles := [⟨"profile_tests001", 1, Plan.sampleRepository.runtimeProfileDigest⟩]
    issuedAt := 10
    revokedAt := none }]
  now := 50

/-- Who there is, before there is a plan. -/
def sampleRoom : ExecutionDb where
  members := [⟨"member_sample01", "team_sample01", .owner⟩]
  agents := [
    ⟨"agent_sample01", "team_sample01", "member_sample01", some "device_sample01", .managed,
    some "capability", true⟩]
  roomMembers := [("room_sample01", "member_sample01")]
  roomAgents := [("room_sample01", "agent_sample01")]
  tasks := [sampleRoot, sampleWork]

def sampleRevision (proposalId decisionId : String) (maxConcurrency : Nat) (digest : String)
    (author : PlanAuthor) (now : Time) : RevisionInput where
  planId := "plan_sample01"
  decisionId
  proposalId
  rootTaskId := "task_root0001"
  roomId := "room_sample01"
  ownerMemberId := "member_sample01"
  definition := sampleDefinition maxConcurrency
  definitionDigest := digest
  author
  snapshots := [sampleSnapshot]
  now

def sampleDraft : ExecutionDb :=
  (Tx.immediate (append none (sampleRevision "proposal_sample01" "decision_sample01" 2
    (hexOf '1' '1') (.member "member_sample01") 20) "op_create0001") sampleRoom).2

/-- The plan as it is read at a revision. -/
def samplePlanAt (state : PlanState) (controlRevision : Nat) (compiledTasks : List CompiledTask)
    (updatedAt : Time) : PlanProjection where
  planId := "plan_sample01"
  rootTaskId := "task_root0001"
  roomId := "room_sample01"
  ownerMemberId := "member_sample01"
  current := (sampleRevision "proposal_sample01" "decision_sample01" 2 (hexOf '1' '1')
    (.member "member_sample01") 20).row 1
  controlRevision
  state
  compiledTasks
  createdAt := 20
  updatedAt

def sampleApproved : ExecutionDb :=
  (Tx.immediate (persist (samplePlanAt .draft 1 [] 20) {
    operationId := "op_approve001"
    decision := .approved
    reason := "go"
    memberId := "member_sample01"
    expectedRootTaskRevision := 1
    rootTaskRevisionAfter := 2
    requestDigest := hexOf '2' '1'
    compiled := [⟨sampleNode, sampleWork⟩]
    now := 30 }) sampleDraft).2

/-- The evidence adopted for its node, and a delegation to the Agent. -/
def sampleAdopted : ExecutionDb :=
  { sampleApproved with
    sourceEvidence := [⟨"source_sample01", hexOf '3' '1', [], .taskResult "run_sample01"
      "result_sample01" 1⟩]
    materializations := [{
      planId := "plan_sample01"
      planRevision := 1
      nodeKey := "write"
      gate := .acceptedResult
      dispatchGeneration := 1
      sourceRunId := "run_sample01"
      sourceResultId := "result_sample01"
      sourceResultVersion := 1
      gateOperationId := "op_review0001"
      materializationDigest := hexOf '4' '1'
      candidateCommit := none
      candidateTree := none
      checkpointId := none
      repositoryId := none
      artifactPins := [] }]
    gateProofs := [⟨"op_review0001", hexOf '5' '1', .resultReview "result_sample01" 1⟩]
    adoptions := [⟨{
      adoptionId := "adoption_" ++ hexOf '6' '1'
      operationId := "op_" ++ hexOf '6' '1'
      operationDigest := hexOf '7' '1'
      planId := "plan_sample01"
      planRevision := 1
      nodeKey := "write"
      gate := .acceptedResult
      sourceEvidenceId := "source_sample01"
      sourceDigest := hexOf '3' '1'
      sourceExecution := some ⟨"run_sample01", 1⟩
      proofs := [⟨"op_review0001", hexOf '5' '1', .resultReview "result_sample01" 1⟩]
      proofSetDigest := hexOf '1' '0'
      nodeContractDigest := hexOf '0' '0'
      resolvedInputSetDigest := hexOf 'f' '0'
      authority := {
        approvalOperationId := "op_approve001"
        planDigest := hexOf '1' '1'
        roomId := "room_sample01"
        taskId := "task_write0001"
        definitionRevision := 1
        criteriaRevision := 1
        service := .executionMaterialization
          ⟨"agent_sample01", "device_sample01", "grant_sample01", 1, hexOf '0' '1'⟩ }
      adoptionDigest := hexOf '8' '1'
      createdAt := 35 }, hexOf '4' '1'⟩]
    reuseContracts := [{
      reuseContractId := "reuse_" ++ hexOf '9' '1'
      adoptionId := "adoption_" ++ hexOf '6' '1'
      adoptionDigest := hexOf '8' '1'
      planId := "plan_sample01"
      planRevision := 1
      nodeKey := "write"
      gate := .acceptedResult
      runtimeInputBindingDigest := hexOf 'f' '0'
      reuseInputs := []
      reuseInputEvidenceDigest := hexOf '4' '0'
      nodeExecutionDigest := hexOf '0' '0'
      node := reuseNode sampleNode
      task := sampleWork.contract
      integrationPolicy := reusePolicy (sampleDefinition 2).policy "repo_sample01"
      nodeReuseContractDigest := hexOf '5' '0'
      contractDigest := hexOf 'a' '1'
      createdAt := 35 }]
    delegations := [{
      delegationId := "replan_sample01"
      revision := 1
      operationId := "op_delegate01"
      planId := "plan_sample01"
      planRevision := 1
      planDigest := hexOf '1' '1'
      planControlRevision := 2
      rootTaskRevision := 2
      agentId := "agent_sample01"
      issuedByMemberId := "member_sample01"
      taskIds := ["task_write0001"]
      expiresAt := 90
      reason := "go on"
      issuedAt := 36
      delegationDigest := hexOf 'b' '1' }] }

def sampleContracts : Contracts :=
  Contracts.of AgentRoom.Contracts.integerDoubles Plan.byteCount sampleDigest fun _ => true

/-- The Agent proposed to run one at a time. -/
def sampleProposed : ExecutionDb :=
  (Tx.immediate (appendSupersessionCandidate sampleContracts
    (samplePlanAt .approved 2 [⟨"write", "task_write0001", 1, 1, 1⟩] 30)
    (sampleRevision "proposal_sample02" "decision_sample02" 1 (hexOf 'c' '1')
      (.agent "agent_sample01" "run_sample02") 40)
    ⟨"supersession_sample01", "op_propose001", 2, hexOf 'd' '1', "one at a time"⟩) sampleAdopted).2

def sampleCommand : ActivationCommand where
  operationId := "op_activate01"
  expectedCurrentRevision := 1
  expectedCurrentDigest := hexOf '1' '1'
  expectedControlRevision := 2
  expectedRootTaskRevision := 2
  candidateId := "supersession_sample01"
  expectedCandidateRevision := 2
  expectedCandidateDigest := hexOf 'c' '1'
  carryForward := [⟨"write", .acceptedResult, "adoption_" ++ hexOf '6' '1', hexOf '8' '1',
    "reuse_" ++ hexOf '9' '1', hexOf '5' '0', hexOf '4' '0'⟩]
  reason := "one at a time"

/-- What the candidate is accepted as. -/
def sampleValidated : Plan.Validated :=
  Plan.validated AgentRoom.Contracts.integerDoubles Plan.byteCount (sampleDefinition 1)

theorem sampleDefinition_accepted :
    Plan.validateExecutionPlanDefinition AgentRoom.Contracts.integerDoubles Plan.byteCount
      (sampleDefinition 1) = .ok sampleValidated := by
  have hasserted : Plan.assertPlanDefinition AgentRoom.Contracts.integerDoubles
      (sampleDefinition 1) = .ok () := by decide +kernel
  refine Plan.validate_of_checks ?_ (by decide)
  unfold Plan.checkPlan
  rw [hasserted]
  decide +kernel

/-- What the sample comes to: its one candidate, its current plan and the activation. -/
theorem sampleProposed_facts :
    sampleProposed.candidates.map (·.definition) = [sampleDefinition 1] ∧
    sampleProposed.candidates.map (·.candidateId) = [sampleCommand.candidateId] ∧
    sampleValidated.definition = sampleDefinition 1 ∧
    ((getPlan sampleProposed "plan_sample01").toOption.bind id).map
      (·.current.definition.policy.maxConcurrency) = some 2 ∧
    activationOf sampleProposed sampleCommand.operationId = none ∧
    (activateForAgent (sampleContracts.withValidator fun _ => .ok sampleValidated)
      sampleSurroundings "plan_sample01" sampleCommand "agent_sample01" "run_sample02"
      "replan_sample01" sampleProposed).1.toOption.isSome = true := by
  decide +kernel

theorem sampleProposed_candidate {c : SupersessionCandidate} (hc : c ∈ sampleProposed.candidates) :
    c.definition = sampleDefinition 1 ∧ c.candidateId = sampleCommand.candidateId := by
  obtain ⟨hdefinitions, hids, -⟩ := sampleProposed_facts
  have hdefinition := List.mem_map_of_mem (f := (·.definition)) hc
  have hid := List.mem_map_of_mem (f := (·.candidateId)) hc
  rw [hdefinitions] at hdefinition
  rw [hids] at hid
  exact ⟨List.mem_singleton.mp hdefinition, List.mem_singleton.mp hid⟩

theorem sampleProposed_agree :
    AgreeOn sampleContracts (fun _ => .ok sampleValidated) sampleProposed := by
  intro c hc
  rw [(sampleProposed_candidate hc).1]
  refine ⟨sampleDefinition_accepted, fun v hv => ?_⟩
  cases hv
  rw [sampleProposed_facts.2.2.1]
  exact sampleDefinition_accepted

theorem sampleProposed_reachable : Reachable sampleContracts sampleProposed := by
  have hempty : OwnEvidence sampleContracts sampleRoom := by
    refine ⟨?_, ?_, ?_, ?_⟩ <;> simp [ownAdoptions, sampleRoom]
  have hevidence : OwnEvidence sampleContracts sampleAdopted := by
    refine ⟨by decide, by decide, ?_, by decide⟩
    have hids : ∀ a ∈ ownAdoptions sampleAdopted,
        a.adoptionId ≠ "adoption_" ++ hexOf 'e' '0' := by decide
    exact fun a ha _ _ _ => hids a ha
  have hroom : Step sampleContracts {} sampleRoom :=
    .elsewhere ⟨rfl, rfl, rfl, rfl, rfl, rfl, rfl, rfl, rfl, rfl, rfl, hempty⟩
  have hadopted : Step sampleContracts sampleApproved sampleAdopted :=
    .elsewhere ⟨rfl, rfl, rfl, rfl, rfl, rfl, rfl, rfl, rfl, rfl, rfl, hevidence⟩
  exact .tail (.tail (.tail (.tail (.single hroom) (.append _ _ _ _)) (.review _ _ _)) hadopted)
    (.candidate _ _ _ _)

/-- The activation by the Agent that holds the delegation. -/
def sampleActivation : Except Err ActivationReceipt × ExecutionDb :=
  activateForAgent sampleContracts sampleSurroundings "plan_sample01" sampleCommand
    "agent_sample01" "run_sample02" "replan_sample01" sampleProposed

theorem sampleActivation_returns : ∃ receipt db', sampleActivation = (.ok receipt, db') := by
  obtain ⟨-, -, -, -, -, hreturns⟩ := sampleProposed_facts
  rw [← activateForAgent_agree sampleProposed_agree] at hreturns
  change sampleActivation.1.toOption.isSome = true at hreturns
  rcases h : sampleActivation with ⟨e | receipt, db'⟩
  · rw [h] at hreturns
    cases hreturns
  · exact ⟨receipt, db', rfl⟩

/-- A delegated activation that narrows a plan. -/
theorem sampleActivation_narrows :
    ∃ plan candidate v, getPlan sampleProposed "plan_sample01" = .ok (some plan) ∧
      plan.state.active = true ∧ candidate ∈ sampleProposed.candidates ∧
      candidate.candidateId = sampleCommand.candidateId ∧
      candidate.candidateRevision = plan.current.revision + 1 ∧
      Plan.validateExecutionPlanDefinition AgentRoom.Contracts.integerDoubles Plan.byteCount
        candidate.definition = .ok v ∧ Narrows plan v.definition ∧ Dataflow v.definition := by
  obtain ⟨receipt, db', hrun⟩ := sampleActivation_returns
  exact delegated_supersession_narrows AgentRoom.Contracts.integerDoubles Plan.byteCount
    sampleDigest (fun _ => true) sampleSurroundings "plan_sample01" sampleCommand "agent_sample01"
    "run_sample02" "replan_sample01" sampleProposed db' receipt sampleProposed_reachable
    sampleProposed_facts.2.2.2.2.1 hrun

/-- **The policy need not stay the same**: the Agent activates one with a smaller concurrency. -/
theorem delegated_supersession_changes_policy :
    ¬∀ (E : Surroundings) (planId : String) (command : ActivationCommand)
      (agentId runId delegationId : String) (db db' : ExecutionDb) (receipt : ActivationReceipt)
      (plan : PlanProjection) (candidate : SupersessionCandidate) (v : Plan.Validated),
      Reachable sampleContracts db → activationOf db command.operationId = none →
      activateForAgent sampleContracts E planId command agentId runId delegationId db =
        (.ok receipt, db') →
      getPlan db planId = .ok (some plan) → candidate ∈ db.candidates →
      candidate.candidateId = command.candidateId →
      sampleContracts.validateExecutionPlanDefinition candidate.definition = .ok v →
      v.definition.policy = plan.current.definition.policy := by
  intro hclaim
  obtain ⟨receipt, db', hrun⟩ := sampleActivation_returns
  obtain ⟨hdefinitions, -, hvalid, hcurrent, hunused, -⟩ := sampleProposed_facts
  obtain ⟨candidate, hmem⟩ : ∃ c, c ∈ sampleProposed.candidates := by
    refine List.exists_mem_of_ne_nil _ fun hnil => ?_
    rw [hnil] at hdefinitions
    cases hdefinitions
  obtain ⟨hdefinition, hid⟩ := sampleProposed_candidate hmem
  rcases hplan : getPlan sampleProposed "plan_sample01" with e | _ | plan
  · rw [hplan] at hcurrent
    cases hcurrent
  · rw [hplan] at hcurrent
    cases hcurrent
  · rw [hplan] at hcurrent
    have hvalidated : sampleContracts.validateExecutionPlanDefinition candidate.definition =
        .ok sampleValidated := by
      rw [hdefinition]
      exact sampleDefinition_accepted
    have hpolicy := hclaim sampleSurroundings "plan_sample01" sampleCommand "agent_sample01"
      "run_sample02" "replan_sample01" sampleProposed db' receipt plan candidate sampleValidated
      sampleProposed_reachable hunused hrun hplan hmem hid hvalidated
    rw [hvalid] at hpolicy
    have htwo : plan.current.definition.policy.maxConcurrency = 2 := Option.some.inj hcurrent
    rw [← hpolicy] at htwo
    exact absurd htwo (by decide)

end AgentRoom.Execution
