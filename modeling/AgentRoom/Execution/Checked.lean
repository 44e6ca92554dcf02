import AgentRoom.Execution.Activated

/-!
# What the checks found

Each check of `Supersession` that lets a call through, as what it found in the tables.
-/

namespace AgentRoom.Execution

open Plan (PlanDefinition PlanNode Validated sortBy)

/-! ## Checks in sequence -/

variable {α β : Type} {f : α → Except Err β} {x : Except Err α}

theorem ok_of_except_bind {b : β} (h : (x >>= f) = .ok b) :
    ∃ a, x = .ok a ∧ f a = .ok b := by
  rcases x with e | a
  · cases h
  · exact ⟨a, rfl, h⟩

theorem mapM_ok {l : List α} {r : List β} (h : l.mapM f = .ok r) :
    List.Forall₂ (fun a b => f a = .ok b) l r := by
  induction l generalizing r with
  | nil =>
    cases h
    exact .nil
  | cons a l ih =>
    rw [List.mapM_cons] at h
    obtain ⟨b, hb, h⟩ := ok_of_except_bind h
    obtain ⟨bs, hbs, h⟩ := ok_of_except_bind h
    cases h
    exact .cons hb (ih hbs)

/-! ## Plans -/

variable {db : ExecutionDb} {planId : String} {plan : PlanProjection}

/-- A plan as it is read: its row, its current revision, and the nodes compiled for it. -/
theorem getPlan_ok (h : getPlan db planId = .ok (some plan)) :
    ∃ row current, db.plans.find? (fun p => p.planId = planId) = some row ∧
      getRevision db planId row.currentRevision = some current ∧
      plan = row.projection current
        (sortBy (·.nodeKey) ((nodesOf db planId row.currentRevision).map NodeRow.compiled)) := by
  unfold getPlan at h
  cases hrow : db.plans.find? (fun p => p.planId = planId) with
  | none =>
    rw [hrow] at h
    cases h
  | some row =>
    cases hcurrent : getRevision db planId row.currentRevision with
    | none =>
      rw [hrow] at h
      simp only [hcurrent] at h
      cases h
    | some current =>
      rw [hrow] at h
      simp only [hcurrent] at h
      cases h
      exact ⟨row, current, rfl, hcurrent, rfl⟩

theorem getPlan_of {row : PlanRow} {current : PlanRevision}
    (hrow : db.plans.find? (fun p => p.planId = planId) = some row)
    (hcurrent : getRevision db planId row.currentRevision = some current) :
    getPlan db planId = .ok (some (row.projection current
      (sortBy (·.nodeKey) ((nodesOf db planId row.currentRevision).map NodeRow.compiled)))) := by
  unfold getPlan
  rw [hrow]
  simp only [hcurrent]

variable {revision : Nat}

theorem getRevision_key {r : PlanRevision} (h : getRevision db planId revision = some r) :
    r.planId = planId ∧ r.revision = revision := by
  simpa using List.find?_some h

theorem mem_nodesOf {n : NodeRow} :
    n ∈ nodesOf db planId revision ↔ n ∈ db.nodes ∧ n.planId = planId ∧ n.revision = revision := by
  simp [nodesOf]

theorem mem_compiledTasks {nodes : List NodeRow} {compiled : CompiledTask} :
    compiled ∈ sortBy (·.nodeKey) (nodes.map NodeRow.compiled) ↔
      ∃ n ∈ nodes, n.compiled = compiled := by
  unfold sortBy
  rw [List.mem_insertionSort, List.mem_map]

/-! ## The fixed Task set -/

theorem compileNode_ok {node : PlanNode} {c : CompiledNode} (h : compileNode db plan node = .ok c) :
    c.node = node ∧ Plan.existingTaskOf node = some c.task.taskId ∧
      getTask db c.task.taskId = some c.task ∧
      c.task.taskId ∈ plan.compiledTasks.map (·.taskId) := by
  unfold compileNode at h
  cases htask : node.task with
  | new blueprint =>
    rw [htask] at h
    cases h
  | existing pin =>
    rw [htask] at h
    cases hget : getTask db pin.taskId with
    | none =>
      simp only [hget] at h
      cases h
    | some task =>
      simp only [hget] at h
      have hid : task.taskId = pin.taskId := by simpa using List.find?_some hget
      obtain ⟨_, hrequire, h⟩ := ok_of_except_bind h
      have hmem := (require_ok.mp hrequire).1
      have hc : c = ⟨node, task⟩ := by
        split at h
        · obtain ⟨_, h', -⟩ := ok_of_except_bind h
          cases h'
        · obtain ⟨_, -, h⟩ := ok_of_except_bind h
          split at h
          · obtain ⟨_, h', -⟩ := ok_of_except_bind h
            cases h'
          · obtain ⟨_, -, h⟩ := ok_of_except_bind h
            cases h
            rfl
      subst hc
      refine ⟨rfl, ?_, ?_, hmem⟩
      · simp [Plan.existingTaskOf, htask, hid]
      · rw [hid]
        exact hget

variable {compiled : List CompiledNode} {definition : PlanDefinition}

theorem compileFixedTaskSet_ok (h : compileFixedTaskSet db plan definition = .ok compiled) :
    List.Forall₂ (fun node c => compileNode db plan node = .ok c) definition.nodes compiled ∧
      (compiled.map (·.task.taskId)).Nodup ∧
      ∀ t ∈ plan.compiledTasks, t.taskId ∈ compiled.map (·.task.taskId) := by
  unfold compileFixedTaskSet at h
  obtain ⟨_, -, h⟩ := ok_of_except_bind h
  obtain ⟨actual, hactual, h⟩ := ok_of_except_bind h
  obtain ⟨_, hrequire, h⟩ := ok_of_except_bind h
  cases h
  obtain ⟨hnodup, -, hall⟩ := require_ok.mp hrequire
  refine ⟨mapM_ok hactual, hnodup, fun t ht => hall t.taskId ?_⟩
  exact List.mem_dedup.mpr (List.mem_map_of_mem ht)

/-! ## The evidence to carry -/

variable {command : ActivationCommand} {step : CarryStep}

theorem selectCarry_ok {source : AdoptedMaterialization}
    (h : selectCarry compiled command source = .ok step) :
    ∃ target, compiled.find? (fun c => c.task.taskId = source.sourceTaskId) = some target ∧
      step.node = target.node ∧ step.task = target.task ∧
      step.selection.targetNodeKey = target.node.nodeKey ∧
      step.selection.gate = source.gate ∧ step.selection.sourceAdoptionId = source.adoptionId ∧
      step.selection.sourceAdoptionDigest = source.adoptionDigest := by
  unfold selectCarry at h
  cases htarget : compiled.find? (fun c => c.task.taskId = source.sourceTaskId) with
  | none =>
    rw [htarget] at h
    cases h
  | some target =>
    rw [htarget] at h
    dsimp only at h
    split at h
    · cases h
    · next selection hselection =>
        cases h
        have hmatch := List.find?_some hselection
        simp only [decide_eq_true_eq] at hmatch
        exact ⟨target, rfl, rfl, rfl, hmatch⟩

variable {K : Contracts}

/-- Every adopted gate of the base has its step, every step is that of an adopted gate, and the
steps come in topological order. -/
theorem requireCarryCoverage_ok {steps : List CarryStep}
    (h : requireCarryCoverage K db plan definition compiled command = .ok steps) :
    (∀ v ∈ adoptedAt db plan.planId plan.current.revision,
      ∃ step ∈ steps, selectCarry compiled command v = .ok step) ∧
    (∀ step ∈ steps, ∃ v ∈ adoptedAt db plan.planId plan.current.revision,
      selectCarry compiled command v = .ok step) ∧
    ∃ validated, K.validateExecutionPlanDefinition definition = .ok validated ∧
      ∃ result, steps = List.insertionSort (carryLe validated.topologicalOrder) result := by
  unfold requireCarryCoverage at h
  obtain ⟨_, -, h⟩ := ok_of_except_bind h
  obtain ⟨_, -, h⟩ := ok_of_except_bind h
  obtain ⟨result, hresult, h⟩ := ok_of_except_bind h
  obtain ⟨validated, hvalidated, h⟩ := ok_of_except_bind h
  cases h
  have hforall := mapM_ok hresult
  refine ⟨?_, ?_, validated, hvalidated, result, rfl⟩
  · intro v hv
    have hv : v ∈ List.insertionSort (fun a b : AdoptedMaterialization =>
        Plan.pairLe (a.nodeKey, a.gate.text) (b.nodeKey, b.gate.text))
        (adoptedAt db plan.planId plan.current.revision) := (List.mem_insertionSort _).mpr hv
    obtain ⟨k, hk, hget⟩ := List.getElem_of_mem hv
    have hlength := hforall.length_eq
    have hstep := (List.forall₂_iff_get.mp hforall).2 k hk (by omega)
    simp only [List.get_eq_getElem, hget] at hstep
    exact ⟨_, (List.mem_insertionSort _).mpr (List.getElem_mem _), hstep⟩
  · intro step hstep
    obtain ⟨k, hk, hget⟩ := List.getElem_of_mem ((List.mem_insertionSort _).mp hstep)
    have hlength := hforall.length_eq
    have hv := (List.forall₂_iff_get.mp hforall).2 k (by omega) hk
    simp only [List.get_eq_getElem, hget] at hv
    exact ⟨_, (List.mem_insertionSort _).mp (List.getElem_mem _), hv⟩

variable {E : Surroundings}

theorem requireCurrentLocalAuthority_ok
    (h : requireCurrentLocalAuthority K E db plan step = .ok ()) :
    ∃ found, carrySource K db step.selection.sourceAdoptionId = .ok (some found) := by
  unfold requireCurrentLocalAuthority at h
  obtain ⟨found, hfound, h⟩ := ok_of_except_bind h
  cases found with
  | none => cases h
  | some found => exact ⟨found, hfound⟩

/-! ## The whole of the checks -/

/-- What `requireActivation` found. -/
structure Checked (K : Contracts) (E : Surroundings) (db : ExecutionDb) (r : ActivationRequest)
    (plan : PlanProjection) (a : Activation) : Prop where
  same : a.plan = plan
  active : plan.state.active = true
  candidate : a.candidate ∈ db.candidates
  candidateId : a.candidate.candidateId = r.command.candidateId
  planId : a.candidate.planId = plan.planId
  next : a.candidate.candidateRevision = plan.current.revision + 1
  validated : ∃ v, K.validateExecutionPlanDefinition a.candidate.definition = .ok v ∧
    a.definition = v.definition
  compiled : compileFixedTaskSet db plan a.definition = .ok a.compiled
  delegated : ∀ delegationId, r.delegationId = some delegationId → ∃ delegation,
    requireDelegation K E db delegationId r.activatedBy r.authorityMemberId plan a.candidate
      a.definition = .ok delegation
  coverage : requireCarryCoverage K db plan a.definition a.compiled r.command = .ok a.carryPlan
  authority : ∀ step ∈ a.carryPlan, requireCurrentLocalAuthority K E db plan step = .ok ()

theorem requireCandidate_ok {root : AgentTask} {candidate : SupersessionCandidate}
    (h : requireCandidate K db plan root command = .ok candidate) :
    candidate ∈ db.candidates ∧ candidate.candidateId = command.candidateId ∧
      candidate.planId = plan.planId ∧ candidate.candidateRevision = plan.current.revision + 1 := by
  unfold requireCandidate at h
  obtain ⟨found, hfound, h⟩ := ok_of_except_bind h
  unfold supersessionCandidateById at hfound
  cases hfind : db.candidates.find? (fun c => c.candidateId = command.candidateId) with
  | none =>
    rw [hfind] at hfound
    cases hfound
    cases h
  | some stored =>
    rw [hfind] at hfound
    obtain ⟨_, -, hfound⟩ := ok_of_except_bind hfound
    cases hfound
    obtain ⟨_, hrequire, h⟩ := ok_of_except_bind h
    cases h
    obtain ⟨hplan, -, -, -, -, -, -, hnext⟩ := require_ok.mp hrequire
    exact ⟨List.mem_of_find?_eq_some hfind, by simpa using List.find?_some hfind, hplan, hnext⟩

theorem requireActivation_ok {r : ActivationRequest} {a : Activation}
    (h : requireActivation K E db r plan = .ok a) : Checked K E db r plan a := by
  unfold requireActivation at h
  obtain ⟨_, hpins, h⟩ := ok_of_except_bind h
  obtain ⟨root, hroot, h⟩ := ok_of_except_bind h
  obtain ⟨_, hrevision, h⟩ := ok_of_except_bind h
  obtain ⟨candidate, hcandidate, h⟩ := ok_of_except_bind h
  obtain ⟨v, hvalidated, h⟩ := ok_of_except_bind h
  obtain ⟨compiled, hcompiled, h⟩ := ok_of_except_bind h
  obtain ⟨_, hsources, h⟩ := ok_of_except_bind h
  obtain ⟨delegation, hdelegation, h⟩ := ok_of_except_bind h
  obtain ⟨carryPlan, hcoverage, h⟩ := ok_of_except_bind h
  obtain ⟨_, hauthority, h⟩ := ok_of_except_bind h
  cases h
  obtain ⟨hmem, hid, hplan, hnext⟩ := requireCandidate_ok hcandidate
  refine ⟨rfl, (require_ok.mp hpins).1, hmem, hid, hplan, hnext, ⟨v, hvalidated, rfl⟩, hcompiled,
    ?_, hcoverage, forM_ok hauthority⟩
  intro delegationId hsome
  rw [hsome] at hdelegation
  obtain ⟨d, hd, -⟩ := ok_of_except_bind hdelegation
  exact ⟨d, hd⟩

/-! ## What is asked of the validator -/

theorem except_bind_congr {g : α → Except Err β} (h : ∀ a, x = .ok a → f a = g a) :
    (x >>= f) = (x >>= g) := by
  rcases x with e | a
  · rfl
  · exact h a rfl

def Contracts.withValidator (K : Contracts) (f : PlanDefinition → Except Err Validated) :
    Contracts :=
  { K with validateExecutionPlanDefinition := f }

/-- Two validators that agree on the candidates and on their normal forms. -/
def AgreeOn (K : Contracts) (f : PlanDefinition → Except Err Validated) (db : ExecutionDb) :
    Prop :=
  ∀ c ∈ db.candidates, K.validateExecutionPlanDefinition c.definition = f c.definition ∧
    ∀ v, f c.definition = .ok v → K.validateExecutionPlanDefinition v.definition = f v.definition

theorem requireActivation_agree {f : PlanDefinition → Except Err Validated} (hf : AgreeOn K f db)
    (E : Surroundings) (r : ActivationRequest) (plan : PlanProjection) :
    requireActivation K E db r plan = requireActivation (K.withValidator f) E db r plan := by
  unfold requireActivation
  refine except_bind_congr fun _ _ => except_bind_congr fun root _ =>
    except_bind_congr fun _ _ => ?_
  change (requireCandidate K db plan root r.command >>= _) =
    (requireCandidate K db plan root r.command >>= _)
  refine except_bind_congr fun candidate hcandidate => ?_
  obtain ⟨hcandidates, hforms⟩ := hf candidate (requireCandidate_ok hcandidate).1
  change (K.validateExecutionPlanDefinition candidate.definition >>= _) =
    (f candidate.definition >>= _)
  rw [hcandidates]
  refine except_bind_congr fun v hv => ?_
  refine except_bind_congr fun compiled _ => except_bind_congr fun _ _ => ?_
  refine except_bind_congr fun delegation _ => ?_
  have hcoverage : requireCarryCoverage K db plan v.definition compiled r.command =
      requireCarryCoverage (K.withValidator f) db plan v.definition compiled r.command := by
    unfold requireCarryCoverage
    refine except_bind_congr fun _ _ => except_bind_congr fun _ _ =>
      except_bind_congr fun _ _ => ?_
    change (K.validateExecutionPlanDefinition v.definition >>= _) = (f v.definition >>= _)
    rw [hforms v hv]
  rw [hcoverage]
  rfl

variable {s : ExecutionDb}

theorem check_bind_congr {x : ExecutionDb → Except Err α} {f g : α → Db β}
    (h : ∀ a, x s = .ok a → f a s = g a s) :
    (check x >>= f) s = (check x >>= g) s := by
  rcases hx : x s with e | a
  · rw [bind_check_error hx, bind_check_error hx]
  · rw [bind_check_ok hx, bind_check_ok hx, h a hx]

/-- **An activation asks the validator about the candidates only**, and about their normal
forms. -/
theorem activateWithActor_agree {f : PlanDefinition → Except Err Validated} (hf : AgreeOn K f s)
    (E : Surroundings) (r : ActivationRequest) :
    activateWithActor K E r s = activateWithActor (K.withValidator f) E r s := by
  have honce : activateOnce K E r s = activateOnce (K.withValidator f) E r s := by
    unfold activateOnce
    refine check_bind_congr fun plan _ => ?_
    cases plan with
    | none => rfl
    | some plan =>
      refine check_bind_congr fun _ _ => ?_
      change (check (fun db => replayActivation K db r.command.operationId (r.digest K)) >>= _) s =
        (check (fun db => replayActivation K db r.command.operationId (r.digest K)) >>= _) s
      refine check_bind_congr fun replay _ => ?_
      cases replay with
      | some receipt => rfl
      | none =>
        show (check (fun db => requireActivation K E db r plan) >>= _) s =
          (check (fun db => requireActivation (K.withValidator f) E db r plan) >>= _) s
        have hsame : check (fun db => requireActivation K E db r plan) s =
            check (fun db => requireActivation (K.withValidator f) E db r plan) s := by
          show (requireActivation K E s r plan, s) =
            (requireActivation (K.withValidator f) E s r plan, s)
          rw [requireActivation_agree hf E r plan]
        rw [Tx.bind_apply, Tx.bind_apply, hsame]
        rfl
  unfold activateWithActor
  refine check_bind_congr fun _ _ => ?_
  unfold Tx.immediate
  rw [honce]

theorem activateForAgent_agree {f : PlanDefinition → Except Err Validated} (hf : AgreeOn K f s)
    (E : Surroundings) (planId : String) (command : ActivationCommand)
    (agentId runId delegationId : String) :
    activateForAgent K E planId command agentId runId delegationId s =
      activateForAgent (K.withValidator f) E planId command agentId runId delegationId s := by
  unfold activateForAgent
  change (check (fun db => getDelegation db K delegationId) >>= _) s =
    (check (fun db => getDelegation db K delegationId) >>= _) s
  refine check_bind_congr fun delegation _ => ?_
  cases delegation with
  | none => rfl
  | some delegation => exact check_bind_congr fun _ _ => activateWithActor_agree hf E _

end AgentRoom.Execution
