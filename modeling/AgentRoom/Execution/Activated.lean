import AgentRoom.Execution.Plans

/-!
# What the writes leave

Each write program that returns, as one update of the tables it started from. The invariants are
proved of these updates, so a write that changes needs its own lemma here and nothing else.

The programs of `CarryForward` are updates of the tables they started from: an activation that
returns has replayed a receipt, or has written one revision, the evidence it carries over, and a
receipt.
-/

namespace AgentRoom.Execution

open Plan (PlanEdge)

section Written

/-! ## Revisions -/

variable {i : RevisionInput} {s s' : ExecutionDb} {u : Unit} {revision : Nat}

theorem insertRevision_ok (h : insertRevision i revision s = (.ok u, s')) :
    ∃ sources, s' = { s with
      decisionSources := sources
      revisions := s.revisions ++ [i.row revision] } := by
  obtain ⟨_, s₁, hsources, hinsert⟩ := Tx.ok_of_bind h
  obtain ⟨sources, rfl⟩ : ∃ sources, s₁ = { s with decisionSources := sources } := by
    refine Tx.forEach_ok (J := fun _ t => ∃ sources, t = { s with decisionSources := sources })
      ?_ ⟨s.decisionSources, rfl⟩ hsources
    intro snapshot rest t b t' ⟨sources, ht⟩ hrow
    obtain ⟨-, rfl⟩ := insertRow_ok hrow
    exact ⟨_, by rw [ht]⟩
  obtain ⟨-, rfl⟩ := insertRow_ok hinsert
  exact ⟨sources, rfl⟩

/-- The plan rows after a new revision of a draft. -/
def revisedPlans (plans : List PlanRow) (planId : String) (revision : Nat) (now : Time) :
    List PlanRow :=
  plans.map fun p => if p.drafted planId revision then
    { p with currentRevision := revision + 1, updatedAt := now } else p

theorem append_ok {plan : Option PlanProjection} {operationId : String}
    (h : append plan i operationId s = (.ok u, s')) :
    ∃ sources operations,
      (s.plans.all (fun p => p.planId ≠ i.planId) = true ∧ s' = { s with
        plans := s.plans ++ [i.plan]
        decisionSources := sources
        revisions := s.revisions ++ [i.row 1]
        planOperations := operations }) ∨
      (∃ planId revision, s' = { s with
        plans := revisedPlans s.plans planId revision i.now
        decisionSources := sources
        revisions := s.revisions ++ [({ i with planId := planId } : RevisionInput).row
          (revision + 1)]
        planOperations := operations }) := by
  cases plan with
  | none =>
    obtain ⟨_, s₁, hplan, h⟩ := Tx.ok_of_bind h
    obtain ⟨hfree, rfl⟩ := insertRow_ok hplan
    obtain ⟨_, s₂, hrevision, h⟩ := Tx.ok_of_bind h
    obtain ⟨sources, rfl⟩ := insertRevision_ok hrevision
    obtain ⟨-, rfl⟩ := insertRow_ok h
    exact ⟨sources, _, .inl ⟨hfree, rfl⟩⟩
  | some plan =>
    obtain ⟨_, s₁, hrevision, h⟩ := Tx.ok_of_bind h
    obtain ⟨sources, rfl⟩ := insertRevision_ok hrevision
    obtain ⟨_, -, h⟩ := ok_of_check h
    obtain ⟨-, rfl⟩ := insertRow_ok h
    exact ⟨sources, _, .inr ⟨plan.planId, plan.current.revision, rfl⟩⟩

variable {plan : PlanProjection}

theorem appendSupersessionCandidate_ok {K : Contracts} {c : CandidateInput}
    (h : appendSupersessionCandidate K plan i c s = (.ok u, s')) :
    ∃ sources, s' = { s with
      decisionSources := sources
      revisions := s.revisions ++ [({ i with planId := plan.planId } : RevisionInput).row
        (plan.current.revision + 1)]
      candidates := s.candidates ++ [c.row plan i] } := by
  obtain ⟨_, s₁, hrevision, h⟩ := Tx.ok_of_bind h
  obtain ⟨sources, rfl⟩ := insertRevision_ok hrevision
  obtain ⟨_, -, h⟩ := ok_of_check h
  obtain ⟨-, rfl⟩ := insertRow_ok h
  exact ⟨sources, rfl⟩

/-! ## Reviews -/

def nodeRows (compiled : List CompiledNode) (planId : String) (revision : Nat) : List NodeRow :=
  compiled.map fun c => c.row planId revision

/-- **How a compilation grows**: its keys stay distinct and no edge goes. -/
structure Grows (s s' : ExecutionDb) : Prop where
  nodeIds : (s.nodes.map NodeRow.key).Nodup → (s'.nodes.map NodeRow.key).Nodup
  taskIds : (s.nodes.map NodeRow.taskKey).Nodup → (s'.nodes.map NodeRow.taskKey).Nodup
  edges : ∀ e ∈ s.edges, e ∈ s'.edges

theorem Grows.refl (s : ExecutionDb) : Grows s s := ⟨id, id, fun _ he => he⟩

theorem Grows.trans {a b c : ExecutionDb} (h : Grows a b) (h' : Grows b c) : Grows a c :=
  ⟨fun hids => h'.nodeIds (h.nodeIds hids), fun hids => h'.taskIds (h.taskIds hids),
    fun e he => h'.edges e (h.edges e he)⟩

theorem Grows.of_eq (hnodes : s'.nodes = s.nodes) (hedges : ∀ e ∈ s.edges, e ∈ s'.edges) :
    Grows s s' := by
  refine ⟨?_, ?_, hedges⟩
  · rw [hnodes]
    exact id
  · rw [hnodes]
    exact id

theorem insertEdges_ok {planId : String} {edges : List PlanEdge} {us : List Unit}
    (h : Tx.forEach (fun edge : PlanEdge => insertEdge ⟨planId, revision, edge⟩) edges s =
      (.ok us, s')) : ∃ rows, s' = { s with edges := rows } ∧ Grows s s' := by
  refine Tx.forEach_ok (J := fun _ t => ∃ rows, t = { s with edges := rows } ∧ Grows s t) ?_
    ⟨s.edges, rfl, .refl s⟩ h
  intro edge rest t b t' ⟨rows, ht, hgrows⟩ hrow
  obtain ⟨-, rfl⟩ := insertRow_ok hrow
  refine ⟨_, by rw [ht], hgrows.trans (.of_eq rfl ?_)⟩
  intro e he
  exact List.mem_append_left _ he

theorem nodup_snoc {α κ : Type} {f : α → κ} {l : List α} {x : α} (h : (l.map f).Nodup)
    (hnew : ∀ a ∈ l, f a ≠ f x) : ((l ++ [x]).map f).Nodup := by
  rw [List.map_append, List.nodup_append]
  refine ⟨h, by simp, ?_⟩
  intro key hkey other hother heq
  obtain ⟨a, ha, rfl⟩ := List.mem_map.mp hkey
  obtain rfl : f x = other := by simpa [eq_comm] using hother
  exact hnew a ha heq

theorem insertNode_ok {row : NodeRow} (h : insertNode row s = (.ok u, s')) :
    s' = { s with nodes := s.nodes ++ [row] } ∧ Grows s s' := by
  obtain ⟨hfree, rfl⟩ := insertRow_ok h
  simp only [Bool.and_eq_true, List.all_eq_true, decide_eq_true_eq] at hfree
  refine ⟨rfl, fun hnodup => nodup_snoc hnodup ?_, fun hnodup => nodup_snoc hnodup ?_,
    fun _ he => he⟩
  · intro n hn heq
    simp only [NodeRow.key, Prod.mk.injEq] at heq
    exact hfree.1 n hn ⟨heq.1, heq.2.1, .inl heq.2.2⟩
  · intro n hn heq
    simp only [NodeRow.taskKey, Prod.mk.injEq] at heq
    exact hfree.1 n hn ⟨heq.1, heq.2.1, .inr heq.2.2⟩

def reviewedPlans (plans : List PlanRow) (plan : PlanProjection) (i : ReviewInput) :
    List PlanRow :=
  plans.map fun p => if p.reviewable plan then
    { p with
      state := i.state
      controlRevision := i.control plan.controlRevision
      updatedAt := i.now } else p

/-- A review: the compilation, the approval it is exact for, and the plan. -/
theorem persist_ok {i : ReviewInput} (h : persist plan i s = (.ok u, s')) :
    ∃ edges s₁, s₁ = { s with
        nodes := s.nodes ++ nodeRows i.compiled plan.planId plan.current.revision
        claims := s.claims ++
          (nodeRows i.compiled plan.planId plan.current.revision).map NodeRow.claim
        edges := edges } ∧
      Grows s s₁ ∧
      (∀ p ∈ s.approvals, ¬(p.planId = (i.row plan).planId ∧ p.revision = (i.row plan).revision)) ∧
      exactCompilation s₁ (i.row plan) = true ∧
      s.plans.countP (·.reviewable plan) = 1 ∧
      s' = { s₁ with
        approvals := s.approvals ++ [i.row plan]
        plans := reviewedPlans s.plans plan i } := by
  obtain ⟨_, s₁, hnodes, h⟩ := Tx.ok_of_bind h
  obtain ⟨⟨done, hdone, rfl⟩, hgrows⟩ : (∃ done, i.compiled = done ++ [] ∧ s₁ = { s with
      nodes := s.nodes ++ nodeRows done plan.planId plan.current.revision
      claims := s.claims ++
        (nodeRows done plan.planId plan.current.revision).map NodeRow.claim }) ∧ Grows s s₁ := by
    -- what the loop has done so far, row by row
    refine Tx.forEach_ok (J := fun rest t => (∃ done, i.compiled = done ++ rest ∧ t = { s with
      nodes := s.nodes ++ nodeRows done plan.planId plan.current.revision
      claims := s.claims ++
        (nodeRows done plan.planId plan.current.revision).map NodeRow.claim }) ∧ Grows s t)
      ?_ ⟨⟨[], rfl, by simp [nodeRows]⟩, .refl s⟩ hnodes
    intro c rest t b t' ⟨⟨done, hdone, ht⟩, hgrows⟩ hpass
    obtain ⟨_, t₁, hnode, hclaim⟩ := Tx.ok_of_bind hpass
    obtain ⟨rfl, hgrown⟩ := insertNode_ok hnode
    obtain ⟨-, rfl⟩ := insertRow_ok hclaim
    exact ⟨⟨done ++ [c], by simp [hdone], by simp [ht, nodeRows]⟩,
      (hgrows.trans hgrown).trans (.of_eq rfl fun _ he => he)⟩
  obtain rfl : i.compiled = done := by simpa using hdone
  obtain ⟨_, s₂, hedges, h⟩ := Tx.ok_of_bind h
  obtain ⟨edges, rfl, hgrown⟩ : ∃ edges, s₂ = { s with
      nodes := s.nodes ++ nodeRows i.compiled plan.planId plan.current.revision
      claims := s.claims ++
        (nodeRows i.compiled plan.planId plan.current.revision).map NodeRow.claim
      edges := edges } ∧ Grows s s₂ := by
    -- only an approval writes the edges
    unfold Tx.when at hedges
    split at hedges
    · obtain ⟨_, s₃, hloop, hpure⟩ := Tx.ok_of_bind hedges
      obtain ⟨edges, rfl, hgrown⟩ := insertEdges_ok hloop
      cases hpure
      exact ⟨edges, rfl, hgrows.trans hgrown⟩
    · cases hedges
      exact ⟨s.edges, rfl, hgrows⟩
  obtain ⟨_, s₃, hrow, h⟩ := Tx.ok_of_bind h
  obtain ⟨hfree, rfl⟩ := insertRow_ok hrow
  obtain ⟨_, hone, h⟩ := ok_of_check h
  cases h
  simp only [Bool.and_eq_true, List.all_eq_true, decide_eq_true_eq] at hfree
  exact ⟨edges, _, rfl, hgrown, fun p hp => (hfree.1.1.1 p hp).2, hfree.2, require_ok.mp hone, rfl⟩

end Written

section Activated

/-! ## Claims -/

/-- The claims after the nodes of the candidate took theirs over. -/
def movedClaims (rows : List NodeRow) (base : Nat) (claims : List TaskClaim) : List TaskClaim :=
  rows.foldl (fun claims row =>
    claims.map fun c => if row.takesOver base c then row.claim else c) claims

theorem takesOver_iff {row : NodeRow} {base : Nat} {c : TaskClaim} :
    row.takesOver base c = true ↔
      c.taskId = row.taskId ∧ c.planId = row.planId ∧ c.revision = base := by
  simp [NodeRow.takesOver]

/-- A claim is as it was and belongs to no row, or is the claim of a row. -/
theorem mem_movedClaims {rows : List NodeRow} {base : Nat} {claims : List TaskClaim}
    {c : TaskClaim} (hc : c ∈ movedClaims rows base claims) :
    (c ∈ claims ∧ ∀ row ∈ rows, row.takesOver base c = false) ∨ ∃ row ∈ rows, c = row.claim := by
  induction rows generalizing claims with
  | nil => exact .inl ⟨hc, by simp⟩
  | cons row rows ih =>
    rcases ih hc with ⟨hold, hrest⟩ | ⟨other, hmem, heq⟩
    · obtain ⟨d, hd, hdc⟩ := List.mem_map.mp hold
      split at hdc
      · exact .inr ⟨row, by simp, hdc.symm⟩
      · next hnot =>
          subst hdc
          refine .inl ⟨hd, ?_⟩
          intro other hother
          rcases List.mem_cons.mp hother with rfl | hother
          · simpa using hnot
          · exact hrest other hother
    · exact .inr ⟨other, by simp [hmem], heq⟩

/-- No Task changes its plan. -/
theorem movedClaims_tasks (rows : List NodeRow) (base : Nat) (claims : List TaskClaim) :
    (movedClaims rows base claims).map (fun c => (c.taskId, c.planId)) =
      claims.map fun c => (c.taskId, c.planId) := by
  induction rows generalizing claims with
  | nil => rfl
  | cons row rows ih =>
    refine (ih _).trans ?_
    rw [List.map_map]
    refine List.map_congr_left fun c _ => ?_
    simp only [Function.comp_apply]
    split
    · next htakes =>
        obtain ⟨htask, hplan, -⟩ := takesOver_iff.mp htakes
        simp [NodeRow.claim, htask, hplan]
    · rfl

/-! ## The revision -/

variable {a : Activation} {s s' : ExecutionDb} {u : Unit}

theorem insertCompilation_ok (h : insertCompilation a s = (.ok u, s')) :
    ∃ edges, s' = { s with
      nodes := s.nodes ++ nodeRows a.compiled a.plan.planId a.candidate.candidateRevision
      claims := movedClaims (nodeRows a.compiled a.plan.planId a.candidate.candidateRevision)
        a.plan.current.revision s.claims
      edges := edges } ∧ Grows s s' := by
  obtain ⟨_, s₁, hnodes, h⟩ := Tx.ok_of_bind h
  obtain ⟨⟨done, hdone, rfl⟩, hgrows⟩ : (∃ done, a.compiled = done ++ [] ∧ s₁ = { s with
      nodes := s.nodes ++ nodeRows done a.plan.planId a.candidate.candidateRevision
      claims := movedClaims (nodeRows done a.plan.planId a.candidate.candidateRevision)
        a.plan.current.revision s.claims }) ∧ Grows s s₁ := by
    refine Tx.forEach_ok (J := fun rest t => (∃ done, a.compiled = done ++ rest ∧ t = { s with
      nodes := s.nodes ++ nodeRows done a.plan.planId a.candidate.candidateRevision
      claims := movedClaims (nodeRows done a.plan.planId a.candidate.candidateRevision)
        a.plan.current.revision s.claims }) ∧ Grows s t)
      ?_ ⟨⟨[], rfl, by simp [nodeRows, movedClaims]⟩, .refl s⟩ hnodes
    intro c rest t b t' ⟨⟨done, hdone, ht⟩, hgrows⟩ hpass
    obtain ⟨_, t₁, hnode, hclaim⟩ := Tx.ok_of_bind hpass
    obtain ⟨rfl, hgrown⟩ := insertNode_ok hnode
    obtain ⟨_, -, hmove⟩ := ok_of_check hclaim
    obtain ⟨-, rfl⟩ := insertRow_ok hmove
    refine ⟨⟨done ++ [c], by simp [hdone], ?_⟩,
      (hgrows.trans hgrown).trans (.of_eq rfl fun _ he => he)⟩
    simp [ht, nodeRows, movedClaims, List.foldl_append]
  obtain rfl : a.compiled = done := by simpa using hdone
  obtain ⟨_, s₂, hedges, h⟩ := Tx.ok_of_bind h
  obtain ⟨edges, rfl, hgrown⟩ := insertEdges_ok hedges
  cases h
  exact ⟨edges, rfl, hgrows.trans hgrown⟩

variable {now : Time} {taskId operationId : String} {expected : Nat}

theorem raiseRevision_ok (h : raiseRevision taskId operationId expected now s = (.ok u, s')) :
    ∃ tasks operations, s' = { s with tasks := tasks, taskOperations := operations } := by
  unfold raiseRevision at h
  rw [Tx.get_bind] at h
  cases htask : getTask s taskId with
  | none =>
    rw [htask] at h
    cases h
  | some current =>
    rw [htask] at h
    obtain ⟨_, -, hrow⟩ := ok_of_check h
    obtain ⟨-, rfl⟩ := insertRow_ok hrow
    exact ⟨_, _, rfl⟩

theorem fenceRevision_ok {task : AgentTask}
    (h : fenceRevision taskId operationId expected now s = (.ok task, s')) :
    ∃ tasks operations, s' = { s with tasks := tasks, taskOperations := operations } := by
  unfold fenceRevision at h
  rw [Tx.get_bind] at h
  obtain ⟨_, s₁, hraise, hread⟩ := Tx.ok_of_bind h
  rw [Tx.get_bind] at hread
  obtain ⟨tasks, operations, rfl⟩ : ∃ tasks operations,
      s₁ = { s with tasks := tasks, taskOperations := operations } := by
    unfold Tx.when at hraise
    split at hraise
    · exact raiseRevision_ok hraise
    · cases hraise
      exact ⟨s.tasks, s.taskOperations, rfl⟩
  generalize getTask _ taskId = read at hread
  cases read with
  | none => cases hread
  | some task =>
    cases hread
    exact ⟨tasks, operations, rfl⟩

variable {K : Contracts} {r : ActivationRequest}

/-- An approved revision has no approval yet, and the compilation it stands beside is exact. -/
theorem insertApproval_ok {after : Nat} (h : insertApproval K r a after now s = (.ok u, s')) :
    ∃ row : ApprovalRow, row.planId = a.plan.planId ∧
      row.revision = a.candidate.candidateRevision ∧ row.decision = .approved ∧
      (∀ p ∈ s.approvals, ¬(p.planId = row.planId ∧ p.revision = row.revision)) ∧
      exactCompilation s row = true ∧ s' = { s with approvals := s.approvals ++ [row] } := by
  unfold insertApproval at h
  rw [Tx.get_bind] at h
  cases hnext : getRevision s a.plan.planId a.candidate.candidateRevision with
  | none =>
    rw [hnext] at h
    cases h
  | some next =>
    rw [hnext] at h
    obtain ⟨hfree, rfl⟩ := insertRow_ok h
    simp only [Bool.and_eq_true, List.all_eq_true, decide_eq_true_eq] at hfree
    exact ⟨_, rfl, rfl, rfl, fun p hp => (hfree.1.1.1 p hp).2, hfree.2, rfl⟩

def advancedPlans (plans : List PlanRow) (plan : PlanProjection) (revision : Nat) (now : Time) :
    List PlanRow :=
  plans.map fun p => if p.pinned plan then p.advanced revision now else p

/-- **What writing a revision leaves.** -/
theorem writeRevision_ok (h : writeRevision K r a now s = (.ok u, s')) :
    ∃ (s₁ : ExecutionDb) (edges : List EdgeRow) (tasks : List AgentTask)
      (operations : List TaskOperation) (row : ApprovalRow),
      (∀ v ∈ s.activations, v.operationId ≠ r.command.operationId) ∧
      s₁ = { s with
        activations := s.activations ++ [r.row K a now]
        nodes := s.nodes ++ nodeRows a.compiled a.plan.planId a.candidate.candidateRevision
        claims := movedClaims (nodeRows a.compiled a.plan.planId a.candidate.candidateRevision)
          a.plan.current.revision s.claims
        edges := edges
        tasks := tasks
        taskOperations := operations } ∧
      Grows s s₁ ∧
      row.planId = a.plan.planId ∧ row.revision = a.candidate.candidateRevision ∧
      row.decision = .approved ∧
      (∀ p ∈ s.approvals, ¬(p.planId = row.planId ∧ p.revision = row.revision)) ∧
      exactCompilation s₁ row = true ∧
      s.plans.countP (fun p => p.pinned a.plan) = 1 ∧
      s' = { s₁ with
        approvals := s.approvals ++ [row]
        plans := advancedPlans s.plans a.plan a.candidate.candidateRevision now } := by
  obtain ⟨_, t₁, hbegin, h⟩ := Tx.ok_of_bind h
  obtain ⟨hfresh, rfl⟩ := insertRow_ok hbegin
  simp only [List.all_eq_true, decide_eq_true_eq] at hfresh
  obtain ⟨_, t₂, hcompile, h⟩ := Tx.ok_of_bind h
  obtain ⟨edges, rfl, hgrows⟩ := insertCompilation_ok hcompile
  obtain ⟨fenced, t₃, hfence, h⟩ := Tx.ok_of_bind h
  obtain ⟨tasks, operations, rfl⟩ := fenceRevision_ok hfence
  obtain ⟨_, t₄, happrove, h⟩ := Tx.ok_of_bind h
  obtain ⟨row, hplan, hrevision, hdecision, hnone, hexact, rfl⟩ := insertApproval_ok happrove
  obtain ⟨_, hone, h⟩ := ok_of_check h
  cases h
  refine ⟨_, edges, tasks, operations, row, fun v hv => (hfresh v hv).1, rfl,
    ⟨hgrows.nodeIds, hgrows.taskIds, hgrows.edges⟩, hplan, hrevision, hdecision, hnone, hexact,
    require_ok.mp hone, rfl⟩

/-! ## The evidence -/

variable {α : Type}

theorem forM_ok {f : α → Except Err Unit} {l : List α} (h : l.forM f = .ok u) :
    ∀ a ∈ l, f a = .ok () := by
  induction l with
  | nil => simp
  | cons a l ih =>
    change (f a >>= fun _ => l.forM f) = .ok u at h
    rcases hfa : f a with e | v
    · rw [hfa] at h
      cases h
    · rw [hfa] at h
      intro b hb
      rcases List.mem_cons.mp hb with rfl | hb
      · exact hfa
      · exact ih h b hb

/-- What an activation writes for a gate it carries. -/
def ExecutionDb.carrying (s : ExecutionDb) (row : CarriedAdoption × CarriedReuse) : ExecutionDb :=
  { s with
    carriedAdoptions := s.carriedAdoptions ++ [row.1]
    carriedReuse := s.carriedReuse ++ [row.2] }

/-- **What a carry rests on.** The source with its reuse contract as they are retained, the
logical inputs adopted already, and a contract with the digests of the source. -/
structure Carries (K : Contracts) (i : CarryInput) (s : ExecutionDb)
    (row : CarriedAdoption × CarriedReuse) : Prop where
  rests : ∃ source reuse authority,
    requireCarrySource K s i.planId i.candidateRevision i.step.selection =
      .ok (source, reuse, authority) ∧
    (∀ input ∈ reuse.reuseInputs,
      requireLogicalInput s i.definition i.step.node reuse input = .ok ()) ∧
    row.1 = ⟨i.adoption K source reuse authority, source.adoptionId⟩ ∧
    createCarriedEvidenceReuseContract K row.1.adoption i.definition.policy i.step.node
      reuse.reuseInputs i.step.task.snapshot = .ok row.2.contract ∧
    row.2.contract.nodeReuseContractDigest = reuse.nodeReuseContractDigest ∧
    row.2.contract.reuseInputEvidenceDigest = reuse.reuseInputEvidenceDigest
  key : ∀ c ∈ s.carriedAdoptions, c.adoption.adoptionId ≠ row.1.adoption.adoptionId ∧
    ¬(c.adoption.planId = row.1.adoption.planId ∧
      c.adoption.planRevision = row.1.adoption.planRevision ∧
      c.adoption.nodeKey = row.1.adoption.nodeKey ∧ c.adoption.gate = row.1.adoption.gate)
  scope : carryScope s row.1.adoption = true
  origin : carryOrigin s row.1 = true

theorem retainCarry_ok {i : CarryInput} {receipt : CarryReceipt}
    (h : retainCarry K i s = (.ok receipt, s')) :
    ∃ row, Carries K i s row ∧ s' = s.carrying row := by
  obtain ⟨⟨source, reuse, authority⟩, hsource, h⟩ := ok_of_check h
  obtain ⟨_, hinputs, h⟩ := ok_of_check h
  obtain ⟨_, -, h⟩ := ok_of_check h
  obtain ⟨_, -, h⟩ := ok_of_check h
  obtain ⟨contract, hcontract, h⟩ := ok_of_check h
  obtain ⟨_, hequal, h⟩ := ok_of_check h
  obtain ⟨_, s₇, hadoption, h⟩ := Tx.ok_of_bind h
  obtain ⟨hfree, rfl⟩ := insertRow_ok hadoption
  obtain ⟨_, s₈, hreuse, h⟩ := Tx.ok_of_bind h
  obtain ⟨-, rfl⟩ := insertRow_ok hreuse
  obtain ⟨_, -, h⟩ := ok_of_check h
  obtain ⟨_, -, h⟩ := ok_of_check h
  cases h
  simp only [Bool.and_eq_true, List.all_eq_true, decide_eq_true_eq] at hfree
  obtain ⟨⟨⟨hkey, hscope⟩, -⟩, horigin⟩ := hfree
  obtain ⟨hnode, hinput⟩ := require_ok.mp hequal
  refine ⟨(⟨i.adoption K source reuse authority, source.adoptionId⟩,
    ⟨contract, reuse.reuseContractId⟩), ⟨?_, ?_, hscope, horigin⟩, rfl⟩
  · exact ⟨source, reuse, authority, hsource, forM_ok hinputs, rfl, hcontract, hnode, hinput⟩
  · intro c hc
    obtain ⟨hid, -, -, hplace⟩ := hkey c hc
    exact ⟨hid, hplace⟩

/-- **The carries of an activation**, each from what the earlier ones left. -/
inductive CarryRun (K : Contracts) (input : CarryStep → CarryInput) :
    ExecutionDb → List CarryStep → List (CarriedAdoption × CarriedReuse) → Prop
  | nil (s : ExecutionDb) : CarryRun K input s [] []
  | cons {s : ExecutionDb} {step : CarryStep} {steps : List CarryStep}
      {row : CarriedAdoption × CarriedReuse} {rows : List (CarriedAdoption × CarriedReuse)}
      (first : Carries K (input step) s row) (rest : CarryRun K input (s.carrying row) steps rows) :
      CarryRun K input s (step :: steps) (row :: rows)

theorem retainCarries_ok {input : CarryStep → CarryInput} {steps : List CarryStep}
    {receipts : List CarryReceipt}
    (h : Tx.forEach (fun step => retainCarry K (input step)) steps s = (.ok receipts, s')) :
    ∃ rows, CarryRun K input s steps rows ∧ s' = rows.foldl ExecutionDb.carrying s := by
  induction steps generalizing s receipts with
  | nil =>
    cases h
    exact ⟨[], .nil _, rfl⟩
  | cons step steps ih =>
    obtain ⟨_, s₁, hstep, h⟩ := Tx.ok_of_bind h
    obtain ⟨row, hrow, rfl⟩ := retainCarry_ok hstep
    obtain ⟨_, s₂, hrest, h⟩ := Tx.ok_of_bind h
    cases h
    obtain ⟨rows, hrun, rfl⟩ := ih hrest
    exact ⟨row :: rows, .cons hrow hrun, rfl⟩

theorem foldl_carrying (rows : List (CarriedAdoption × CarriedReuse)) (s : ExecutionDb) :
    rows.foldl ExecutionDb.carrying s = { s with
      carriedAdoptions := s.carriedAdoptions ++ rows.map (·.1)
      carriedReuse := s.carriedReuse ++ rows.map (·.2) } := by
  induction rows generalizing s with
  | nil => simp
  | cons row rows ih => simp [ih, ExecutionDb.carrying]

/-! ## The receipt -/

variable {receipt : ActivationReceipt}

theorem writeReceipt_ok {carryForward : List CarryReceipt}
    (h : writeReceipt K r a carryForward now s = (.ok receipt, s')) :
    ∃ consumptions, receipt.operationId = r.command.operationId ∧
      K.conforms (.supersessionActivationReceipt receipt) = true ∧
      (∀ o ∈ s.receipts, o.operationId ≠ receipt.operationId) ∧
      s' = { s with consumptions := consumptions, receipts := s.receipts ++ [receipt] } := by
  obtain ⟨_, s₁, hconsume, h⟩ := Tx.ok_of_bind h
  obtain ⟨consumptions, rfl⟩ : ∃ consumptions, s₁ = { s with consumptions := consumptions } := by
    cases hdelegation : a.delegation with
    | none =>
      rw [hdelegation] at hconsume
      cases hconsume
      exact ⟨s.consumptions, rfl⟩
    | some delegation =>
      rw [hdelegation] at hconsume
      obtain ⟨-, rfl⟩ := insertRow_ok hconsume
      exact ⟨_, rfl⟩
  obtain ⟨current, -, h⟩ := ok_of_check h
  cases current with
  | none => cases h
  | some current =>
    obtain ⟨_, s₃, hretain, h⟩ := Tx.ok_of_bind h
    obtain ⟨_, hconforms, hrow⟩ := ok_of_check hretain
    obtain ⟨hfree, rfl⟩ := insertRow_ok hrow
    cases h
    simp only [List.all_eq_true, decide_eq_true_eq] at hfree
    refine ⟨consumptions, rfl, ?_, fun o ho => (hfree o ho).1, rfl⟩
    unfold Contracts.assertExecutionCommand at hconforms
    split at hconforms
    · next hyes => exact hyes
    · cases hconforms

/-! ## The whole of an activation -/

/-- **What a new activation leaves**: a revision, the carried evidence, and a receipt. -/
theorem writeActivation_ok (h : writeActivation K r a now s = (.ok receipt, s')) :
    ∃ s₁ rows consumptions, writeRevision K r a now s = (.ok (), s₁) ∧
      CarryRun K (r.carryInput a now) s₁ a.carryPlan rows ∧
      receipt.operationId = r.command.operationId ∧
      K.conforms (.supersessionActivationReceipt receipt) = true ∧
      (∀ o ∈ s₁.receipts, o.operationId ≠ receipt.operationId) ∧
      s' = { s₁ with
        carriedAdoptions := s₁.carriedAdoptions ++ rows.map (·.1)
        carriedReuse := s₁.carriedReuse ++ rows.map (·.2)
        consumptions := consumptions
        receipts := s₁.receipts ++ [receipt] } := by
  obtain ⟨_, s₁, hrevision, h⟩ := Tx.ok_of_bind h
  obtain ⟨carryForward, s₂, hcarry, h⟩ := Tx.ok_of_bind h
  obtain ⟨rows, hrun, rfl⟩ := retainCarries_ok hcarry
  obtain ⟨consumptions, hid, hconforms, hfresh, rfl⟩ := writeReceipt_ok h
  simp only [foldl_carrying] at hfresh ⊢
  exact ⟨s₁, rows, consumptions, hrevision, hrun, hid, hconforms, hfresh, rfl⟩

variable {E : Surroundings}

/-- An activation that returns replayed its receipt, or found everything in order and wrote. -/
theorem activateWithActor_ok (h : activateWithActor K E r s = (.ok receipt, s')) :
    ∃ plan, getPlan s r.planId = .ok (some plan) ∧
      requireAuthorityMember s plan r.authorityMemberId = .ok () ∧
      ((replayActivation K s r.command.operationId (r.digest K) = .ok (some receipt) ∧ s' = s) ∨
        (replayActivation K s r.command.operationId (r.digest K) = .ok none ∧
          ∃ a, requireActivation K E s r plan = .ok a ∧
            writeActivation K r a E.now s = (.ok receipt, s'))) := by
  obtain ⟨_, -, h⟩ := ok_of_check h
  obtain ⟨plan, hplan, h⟩ := ok_of_check (Tx.ok_of_immediate h)
  cases plan with
  | none => cases h
  | some plan =>
    obtain ⟨_, hauthority, h⟩ := ok_of_check h
    obtain ⟨replay, hreplay, h⟩ := ok_of_check h
    refine ⟨plan, hplan, hauthority, ?_⟩
    cases replay with
    | some replayed =>
      cases h
      exact .inl ⟨hreplay, rfl⟩
    | none =>
      obtain ⟨a, ha, hwrite⟩ := ok_of_check h
      exact .inr ⟨hreplay, a, ha, hwrite⟩

theorem activateWithActor_error {e : Err} (h : activateWithActor K E r s = (.error e, s')) :
    s' = s := by
  unfold activateWithActor at h
  rcases hcheck : K.assertExecutionCommand (.supersessionActivationCommand r.command) with e' | u
  · rw [bind_check_error hcheck] at h
    cases h
    rfl
  · rw [bind_check_ok hcheck] at h
    exact Tx.state_of_immediate_error h

theorem check_bind_cases {β : Type} (x : ExecutionDb → Except Err α) (f : α → Db β)
    (s : ExecutionDb) :
    (∃ e, (check x >>= f) s = (.error e, s)) ∨ ∃ a, x s = .ok a ∧ (check x >>= f) s = f a s := by
  rcases hx : x s with e | a
  · exact .inl ⟨e, bind_check_error hx⟩
  · exact .inr ⟨a, rfl, bind_check_ok hx⟩

theorem activate_cases (K : Contracts) (E : Surroundings) (memberId planId : String)
    (command : ActivationCommand) (s : ExecutionDb) :
    (∃ e, activate K E memberId planId command s = (.error e, s)) ∨
      activate K E memberId planId command s =
        activateWithActor K E ⟨planId, command, .member memberId, memberId, none⟩ s := by
  unfold activate
  rcases check_bind_cases (fun db => getPlan db planId) _ s with hfail | ⟨plan, -, heq⟩
  · exact .inl hfail
  · rw [heq]
    cases plan with
    | none => exact .inl ⟨_, rfl⟩
    | some plan =>
      refine (check_bind_cases _
        (fun _ => activateWithActor K E ⟨planId, command, .member memberId, memberId, none⟩) s).imp
        id ?_
      rintro ⟨_, -, heq⟩
      exact heq

theorem activateForAgent_cases (K : Contracts) (E : Surroundings) (planId : String)
    (command : ActivationCommand) (agentId runId delegationId : String) (s : ExecutionDb) :
    (∃ e, activateForAgent K E planId command agentId runId delegationId s = (.error e, s)) ∨
      ∃ issuer, activateForAgent K E planId command agentId runId delegationId s =
        activateWithActor K E
          ⟨planId, command, .agent agentId runId, issuer, some delegationId⟩ s := by
  unfold activateForAgent
  rcases check_bind_cases (fun db => getDelegation db K delegationId) _ s
    with hfail | ⟨delegation, -, heq⟩
  · exact .inl hfail
  · rw [heq]
    cases delegation with
    | none => exact .inl ⟨_, rfl⟩
    | some delegation =>
      rcases check_bind_cases (fun _ => require (delegation.planId = planId)
        "EXECUTION_REPLAN_DELEGATION_NOT_FOUND")
        (fun _ => activateWithActor K E ⟨planId, command, .agent agentId runId,
          delegation.issuedByMemberId, some delegationId⟩) s with hfail | ⟨_, -, heq⟩
      · exact .inl hfail
      · exact .inr ⟨_, heq⟩

end Activated

end AgentRoom.Execution
