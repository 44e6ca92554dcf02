import AgentRoom.Execution.Checked

/-!
# What holds of plans in every run

A plan that is no draft stands at an approved revision, whose nodes are compiled and whose Tasks
are claimed by it; every compilation has its approval, and every adoption its compiled node.
-/

namespace AgentRoom.Execution

open Plan (sortBy)

/-- **The invariant of plans.** -/
structure PlanInv (K : Contracts) (db : ExecutionDb) : Prop where
  planIds : (db.plans.map (·.planId)).Nodup
  nodeIds : (db.nodes.map NodeRow.key).Nodup
  keyed : ∀ n ∈ db.nodes, n.nodeKey = n.node.nodeKey
  reviewed : ∀ n ∈ db.nodes, ∃ a ∈ db.approvals, a.planId = n.planId ∧ a.revision = n.revision
  evidence : OwnEvidence K db
  carried : ∀ c ∈ db.carriedAdoptions, ∃ n ∈ db.nodes, n.planId = c.adoption.planId ∧
    n.revision = c.adoption.planRevision ∧ n.nodeKey = c.adoption.nodeKey
  carryIds : ∀ c ∈ db.carriedAdoptions, ∃ operationId sourceId nodeKey,
    c.adoption.adoptionId = carryId K operationId sourceId nodeKey
  carriedIds : (db.carriedAdoptions.map (·.adoption.adoptionId)).Nodup
  carriedReuse : ∀ k ∈ db.carriedReuse, ∃ c ∈ db.carriedAdoptions,
    c.adoption.adoptionId = k.contract.adoptionId ∧ c.adoption.planId = k.contract.planId ∧
      c.adoption.planRevision = k.contract.planRevision
  claimed : ∀ c ∈ db.claims, ∃ n ∈ db.nodes, n.claim = c
  current : ∀ c ∈ db.claims, ∃ p ∈ db.plans,
    p.planId = c.planId ∧ p.currentRevision = c.revision ∧ p.state ≠ .draft
  compilation : ∀ a ∈ db.approvals, ∃ revision,
    getRevision db a.planId a.revision = some revision ∧
      (a.decision = .approved → ∀ node ∈ revision.definition.nodes, ∃ n ∈ db.nodes,
        n.planId = a.planId ∧ n.revision = a.revision ∧ n.node = node)
  approved : ∀ p ∈ db.plans, p.state ≠ .draft → ∃ a ∈ db.approvals,
    a.planId = p.planId ∧ a.revision = p.currentRevision ∧ a.decision = .approved

namespace PlanInv

variable {K : Contracts} {s s' : ExecutionDb}

theorem row_unique (h : PlanInv K s) {p q : PlanRow} (hp : p ∈ s.plans) (hq : q ∈ s.plans)
    (heq : p.planId = q.planId) : p = q :=
  List.inj_on_of_nodup_map h.planIds hp hq heq

theorem find_row (h : PlanInv K s) {p : PlanRow} (hp : p ∈ s.plans) {planId : String}
    (heq : p.planId = planId) : s.plans.find? (fun q => q.planId = planId) = some p := by
  cases hfind : s.plans.find? (fun q => q.planId = planId) with
  | none =>
    have hnone := List.find?_eq_none.mp hfind p hp
    simp [heq] at hnone
  | some q =>
    have hq : q.planId = planId := by simpa using List.find?_some hfind
    rw [h.row_unique hp (List.mem_of_find?_eq_some hfind) (heq.trans hq.symm)]

end PlanInv

variable {K : Contracts} {s s' : ExecutionDb}

/-- The evidence the other services retain stays in order when nodes are added. -/
theorem OwnEvidence.mono (h : OwnEvidence K s) (hadoptions : s'.adoptions = s.adoptions)
    (hremote : s'.remoteAdoptions = s.remoteAdoptions)
    (hreuse : s'.reuseContracts = s.reuseContracts) (hnodes : ∀ n ∈ s.nodes, n ∈ s'.nodes) :
    OwnEvidence K s' := by
  have hown : ownAdoptions s' = ownAdoptions s := by
    unfold ownAdoptions
    rw [hadoptions, hremote]
  refine ⟨?_, ?_, ?_, ?_⟩
  · intro a ha
    rw [hown] at ha
    obtain ⟨n, hn, hkey⟩ := h.compiled a ha
    exact ⟨n, hnodes n hn, hkey⟩
  · rw [hown]
    exact h.ids
  · intro a ha
    rw [hown] at ha
    exact h.apart a ha
  · intro k hk
    rw [hreuse] at hk
    rw [hadoptions]
    exact h.reuse k hk

variable {planId : String}

theorem getRevision_append {revision : Nat} {r : PlanRevision} {rows : List PlanRevision}
    (h : getRevision s planId revision = some r) :
    (s.revisions ++ rows).find? (fun r => r.planId = planId ∧ r.revision = revision) = some r := by
  unfold getRevision at h
  rw [List.find?_append, h]
  rfl

/-! ## Changes of the rows of plans -/

/-- A change of a plan's row that keeps its id, and of a plan that is no draft its revision. -/
structure Settles (f : PlanRow → PlanRow) : Prop where
  planId : ∀ p, (f p).planId = p.planId
  stays : ∀ p, p.state ≠ .draft → (f p).currentRevision = p.currentRevision ∧ (f p).state ≠ .draft
  rises : ∀ p, (f p).state ≠ .draft → p.state ≠ .draft

theorem PlanInv.settled (h : PlanInv K s) {f : PlanRow → PlanRow} (hf : Settles f) :
    PlanInv K { s with plans := s.plans.map f } where
  __ := h
  planIds := by
    have hmap : (s.plans.map f).map (·.planId) = s.plans.map (·.planId) := by
      rw [List.map_map]
      exact List.map_congr_left fun p _ => hf.planId p
    rw [hmap]
    exact h.planIds
  evidence := h.evidence.mono rfl rfl rfl fun _ hn => hn
  current := by
    intro c hc
    obtain ⟨p, hp, hplan, hrevision, hstate⟩ := h.current c hc
    obtain ⟨hkeeps, hstays⟩ := hf.stays p hstate
    exact ⟨f p, List.mem_map_of_mem hp, (hf.planId p).trans hplan, hkeeps.trans hrevision, hstays⟩
  approved := by
    intro p hp hstate
    obtain ⟨q, hq, rfl⟩ := List.mem_map.mp hp
    have hdraft := hf.rises q hstate
    obtain ⟨a, ha, hplan, hrevision, hdecision⟩ := h.approved q hq hdraft
    refine ⟨a, ha, hplan.trans (hf.planId q).symm, ?_, hdecision⟩
    rw [(hf.stays q hdraft).1]
    exact hrevision

theorem started_settles (planId : String) (revision : Nat) (now : Time) :
    Settles (PlanRow.started planId revision now) := by
  refine ⟨?_, ?_, ?_⟩ <;> intro p <;> unfold PlanRow.started <;> split
  · rfl
  · rfl
  · intro _
    exact ⟨rfl, by simp⟩
  · intro hp
    exact ⟨rfl, hp⟩
  · next happroved =>
      intro _ hdraft
      rw [happroved.2.2] at hdraft
      cases hdraft
  · exact id

theorem drifted_settles (claims : List TaskClaim) (taskId : String) (now : Time) :
    Settles (PlanRow.drifted claims taskId now) := by
  refine ⟨?_, ?_, ?_⟩ <;> intro p <;> unfold PlanRow.drifted <;> split
  · rfl
  · rfl
  · intro _
    exact ⟨rfl, by simp⟩
  · intro hp
    exact ⟨rfl, hp⟩
  · next hactive =>
      intro _ hdraft
      simp [hdraft] at hactive
  · exact id

theorem revised_settles (planId : String) (revision : Nat) (now : Time) :
    Settles (fun p => if p.drafted planId revision then
      { p with currentRevision := revision + 1, updatedAt := now } else p) := by
  refine ⟨?_, ?_, ?_⟩ <;> intro p <;> split
  · rfl
  · rfl
  · next hdraft =>
      intro hstate
      simp only [PlanRow.drafted, decide_eq_true_eq] at hdraft
      exact absurd hdraft.2.2 hstate
  · intro hp
    exact ⟨rfl, hp⟩
  · exact id
  · exact id

/-! ## New revisions -/

/-- Nothing of the invariant depends on the operations and the sources of decisions, and a
revision more changes none of the retained ones. -/
theorem PlanInv.revised (h : PlanInv K s) (rows : List PlanRevision) (sources : List DecisionSource)
    (operations : List String) (candidates : List SupersessionCandidate) :
    PlanInv K { s with
      revisions := s.revisions ++ rows
      decisionSources := sources
      planOperations := operations
      candidates := candidates } where
  __ := h
  evidence := h.evidence.mono rfl rfl rfl fun _ hn => hn
  compilation := by
    intro a ha
    obtain ⟨revision, hrevision, hnodes⟩ := h.compilation a ha
    exact ⟨revision, getRevision_append hrevision, hnodes⟩

theorem PlanInv.drafted (h : PlanInv K s) {row : PlanRow}
    (hnew : ∀ p ∈ s.plans, p.planId ≠ row.planId) (hdraft : row.state = .draft) :
    PlanInv K { s with plans := s.plans ++ [row] } where
  __ := h
  planIds := by
    rw [List.map_append, List.nodup_append]
    refine ⟨h.planIds, by simp, ?_⟩
    intro id hid other hother heq
    obtain ⟨p, hp, rfl⟩ := List.mem_map.mp hid
    obtain rfl : row.planId = other := by simpa [eq_comm] using hother
    exact hnew p hp heq
  evidence := h.evidence.mono rfl rfl rfl fun _ hn => hn
  current := by
    intro c hc
    obtain ⟨p, hp, hkept⟩ := h.current c hc
    exact ⟨p, by simp [hp], hkept⟩
  approved := by
    intro p hp hstate
    rcases List.mem_append.mp hp with hp | hp
    · exact h.approved p hp hstate
    · obtain rfl := List.mem_singleton.mp hp
      exact absurd hdraft hstate

/-! ## New compilations -/

/-- An approval stands beside the nodes of the revision it approves; a rejection beside none. -/
theorem exactCompilation_ok {row : ApprovalRow} (h : exactCompilation s row = true) :
    ∃ revision, getRevision s row.planId row.revision = some revision ∧
      (row.decision = .approved → ∀ node ∈ revision.definition.nodes, ∃ n ∈ s.nodes,
        n.planId = row.planId ∧ n.revision = row.revision ∧ n.node = node) ∧
      (row.decision = .rejected → nodesOf s row.planId row.revision = []) := by
  unfold exactCompilation at h
  cases hrevision : getRevision s row.planId row.revision with
  | none =>
    rw [hrevision] at h
    cases h
  | some revision =>
    rw [hrevision] at h
    simp only [Bool.and_eq_true] at h
    refine ⟨revision, rfl, ?_, ?_⟩
    · intro hdecision node hnode
      simp only [hdecision, Bool.and_eq_true, List.all_eq_true, List.any_eq_true] at h
      obtain ⟨n, hn, hmatch⟩ := h.2.1.2 node hnode
      obtain ⟨hmem, hplan, hrev⟩ := mem_nodesOf.mp hn
      exact ⟨n, hmem, hplan, hrev, by simpa using hmatch.1.1⟩
    · intro hdecision
      simp only [hdecision, decide_eq_true_eq] at h
      exact h.2.2

/-- What a review and an activation have in common: nodes of one revision, and its approval. -/
structure Compiles (s s' : ExecutionDb) (rows : List NodeRow) (row : ApprovalRow) : Prop where
  nodes : s'.nodes = s.nodes ++ rows
  nodeIds : (s'.nodes.map NodeRow.key).Nodup
  keyed : ∀ n ∈ rows, n.nodeKey = n.node.nodeKey ∧ n.planId = row.planId ∧
    n.revision = row.revision
  approvals : s'.approvals = s.approvals ++ [row]
  revisions : s'.revisions = s.revisions
  exact : ∃ revision, getRevision s row.planId row.revision = some revision ∧
    (row.decision = .approved → ∀ node ∈ revision.definition.nodes, ∃ n ∈ s'.nodes,
      n.planId = row.planId ∧ n.revision = row.revision ∧ n.node = node)
  adoptions : s'.adoptions = s.adoptions
  remoteAdoptions : s'.remoteAdoptions = s.remoteAdoptions
  reuseContracts : s'.reuseContracts = s.reuseContracts
  carriedAdoptions : s'.carriedAdoptions = s.carriedAdoptions
  carriedReuse : s'.carriedReuse = s.carriedReuse

theorem PlanInv.compiles {K : Contracts} {s s' : ExecutionDb} (h : PlanInv K s)
    {rows : List NodeRow} {row : ApprovalRow} (hc : Compiles s s' rows row)
    (hplanIds : s'.plans.map (·.planId) = s.plans.map (·.planId))
    (hclaimed : ∀ c ∈ s'.claims, ∃ n ∈ s'.nodes, n.claim = c)
    (hcurrent : ∀ c ∈ s'.claims, ∃ p ∈ s'.plans,
      p.planId = c.planId ∧ p.currentRevision = c.revision ∧ p.state ≠ .draft)
    (happroved : ∀ p ∈ s'.plans, p.state ≠ .draft → ∃ a ∈ s'.approvals,
      a.planId = p.planId ∧ a.revision = p.currentRevision ∧ a.decision = .approved) :
    PlanInv K s' where
  planIds := hplanIds ▸ h.planIds
  nodeIds := hc.nodeIds
  keyed := by
    intro n hn
    rw [hc.nodes] at hn
    rcases List.mem_append.mp hn with hn | hn
    · exact h.keyed n hn
    · exact (hc.keyed n hn).1
  reviewed := by
    intro n hn
    rw [hc.nodes] at hn
    rw [hc.approvals]
    rcases List.mem_append.mp hn with hn | hn
    · obtain ⟨a, ha, hkey⟩ := h.reviewed n hn
      exact ⟨a, by simp [ha], hkey⟩
    · obtain ⟨-, hplan, hrevision⟩ := hc.keyed n hn
      exact ⟨row, by simp, hplan.symm, hrevision.symm⟩
  evidence := by
    refine h.evidence.mono hc.adoptions hc.remoteAdoptions hc.reuseContracts ?_
    intro n hn
    rw [hc.nodes]
    exact List.mem_append_left _ hn
  carried := by
    intro c hcarried
    rw [hc.carriedAdoptions] at hcarried
    obtain ⟨n, hn, hkey⟩ := h.carried c hcarried
    exact ⟨n, by simp [hc.nodes, hn], hkey⟩
  carryIds := by
    rw [hc.carriedAdoptions]
    exact h.carryIds
  carriedIds := by
    rw [hc.carriedAdoptions]
    exact h.carriedIds
  carriedReuse := by
    rw [hc.carriedAdoptions, hc.carriedReuse]
    exact h.carriedReuse
  claimed := hclaimed
  current := hcurrent
  compilation := by
    -- no revision is written
    have hkept : ∀ planId revision, getRevision s' planId revision =
        getRevision s planId revision := by
      intro planId revision
      unfold getRevision
      rw [hc.revisions]
    intro a ha
    rw [hc.approvals] at ha
    rw [hkept]
    rcases List.mem_append.mp ha with ha | ha
    · obtain ⟨revision, hrevision, hnodes⟩ := h.compilation a ha
      refine ⟨revision, hrevision, fun hdecision node hnode => ?_⟩
      obtain ⟨n, hn, hkey⟩ := hnodes hdecision node hnode
      exact ⟨n, by simp [hc.nodes, hn], hkey⟩
    · -- the new approval has the nodes compiled for it
      obtain rfl := List.mem_singleton.mp ha
      exact hc.exact
  approved := happroved

theorem nodeRows_keyed {compiled : List CompiledNode} {revision : Nat} {n : NodeRow}
    (hn : n ∈ nodeRows compiled planId revision) :
    n.nodeKey = n.node.nodeKey ∧ n.planId = planId ∧ n.revision = revision := by
  obtain ⟨c, -, rfl⟩ := List.mem_map.mp hn
  exact ⟨rfl, rfl, rfl⟩

/-! ### A review -/

variable {plan : PlanProjection}

theorem reviewable_iff {p : PlanRow} :
    p.reviewable plan = true ↔ p.planId = plan.planId ∧
      p.currentRevision = plan.current.revision ∧ p.state = .draft ∧
      p.controlRevision = plan.controlRevision := by
  simp [PlanRow.reviewable, PlanRow.drafted, and_assoc]

theorem persist_inv {i : ReviewInput} {u : Unit} (h : PlanInv K s)
    (hrun : persist plan i s = (.ok u, s')) :
    PlanInv K s' := by
  obtain ⟨edges, s₁, hs₁, hgrows, -, hexact, hone, rfl⟩ := persist_ok hrun
  obtain ⟨revision, hrevision, hnodes, hnone⟩ := exactCompilation_ok hexact
  obtain ⟨p, hp, hreviewable⟩ : ∃ p ∈ s.plans, p.reviewable plan = true :=
    List.countP_pos_iff.mp (by omega)
  obtain ⟨hplan, hcurrent, hdraft, -⟩ := reviewable_iff.mp hreviewable
  subst hs₁
  -- a row that is no draft is not the one reviewed
  have hkept : ∀ q ∈ s.plans, q.state ≠ .draft → q ∈ reviewedPlans s.plans plan i := by
    intro q hq hstate
    refine List.mem_map.mpr ⟨q, hq, if_neg fun hq => hstate ?_⟩
    exact (reviewable_iff.mp hq).2.2.1
  have hreviewed : ({ p with
      state := i.state
      controlRevision := i.control plan.controlRevision
      updatedAt := i.now } : PlanRow) ∈ reviewedPlans s.plans plan i :=
    List.mem_map.mpr ⟨p, hp, if_pos hreviewable⟩
  refine @PlanInv.compiles K _ _ h (nodeRows i.compiled plan.planId plan.current.revision)
    (i.row plan) ⟨rfl, hgrows.nodeIds h.nodeIds, fun n hn => nodeRows_keyed hn, rfl, rfl,
      ⟨revision, hrevision, hnodes⟩, rfl, rfl, rfl, rfl, rfl⟩ ?_ ?_ ?_ ?_
  · show (reviewedPlans s.plans plan i).map (·.planId) = s.plans.map (·.planId)
    unfold reviewedPlans
    rw [List.map_map]
    refine List.map_congr_left fun q _ => ?_
    simp only [Function.comp_apply]
    split <;> rfl
  · intro c hc
    rcases List.mem_append.mp hc with hc | hc
    · obtain ⟨n, hn, heq⟩ := h.claimed c hc
      exact ⟨n, List.mem_append_left _ hn, heq⟩
    · obtain ⟨n, hn, rfl⟩ := List.mem_map.mp hc
      exact ⟨n, List.mem_append_right _ hn, rfl⟩
  · intro c hc
    rcases List.mem_append.mp hc with hc | hc
    · obtain ⟨q, hq, hkey, hrev, hstate⟩ := h.current c hc
      exact ⟨q, hkept q hq hstate, hkey, hrev, hstate⟩
    · obtain ⟨n, hn, rfl⟩ := List.mem_map.mp hc
      obtain ⟨-, hnplan, hnrevision⟩ := nodeRows_keyed hn
      refine ⟨_, hreviewed, hplan.trans hnplan.symm, hcurrent.trans hnrevision.symm, ?_⟩
      -- a rejection compiles no node
      intro hstate
      cases hdecision : i.decision with
      | approved => simp [ReviewInput.state, hdecision] at hstate
      | rejected =>
        have hempty := hnone hdecision
        have hmem : n ∈ nodesOf { s with
            nodes := s.nodes ++ nodeRows i.compiled plan.planId plan.current.revision
            claims := s.claims ++
              (nodeRows i.compiled plan.planId plan.current.revision).map NodeRow.claim
            edges := edges } plan.planId plan.current.revision :=
          mem_nodesOf.mpr ⟨List.mem_append_right _ hn, hnplan, hnrevision⟩
        have hempty' : nodesOf _ plan.planId plan.current.revision = [] := hempty
        rw [hempty'] at hmem
        cases hmem
  · intro q hq hstate
    obtain ⟨q₀, hq₀, rfl⟩ := List.mem_map.mp hq
    split at hstate
    · next hreview =>
        obtain ⟨hqplan, hqcurrent, -, -⟩ := reviewable_iff.mp hreview
        refine ⟨i.row plan, by simp, ?_, ?_, ?_⟩
        · rw [if_pos hreview]
          exact hqplan.symm
        · rw [if_pos hreview]
          exact hqcurrent.symm
        · cases hdecision : i.decision with
          | approved => exact hdecision
          | rejected => simp [ReviewInput.state, hdecision] at hstate
    · next hnot =>
        obtain ⟨a, ha, hkey⟩ := h.approved q₀ hq₀ hstate
        rw [if_neg hnot]
        exact ⟨a, List.mem_append_left _ ha, hkey⟩

/-! ### An activation -/

theorem getPlan_id {db : ExecutionDb} (h : getPlan db planId = .ok (some plan)) :
    plan.planId = planId := by
  obtain ⟨row, current, hrow, -, rfl⟩ := getPlan_ok h
  show row.planId = planId
  simpa using List.find?_some hrow

/-- The claims of a plan are those of the nodes compiled for its current revision. -/
theorem PlanInv.claims (h : PlanInv K s) (hplan : getPlan s planId = .ok (some plan))
    {c : TaskClaim} (hc : c ∈ s.claims) (hclaim : c.planId = planId) :
    c.revision = plan.current.revision ∧ c.taskId ∈ plan.compiledTasks.map (·.taskId) := by
  obtain ⟨row, current, hrow, hcurrent, rfl⟩ := getPlan_ok hplan
  obtain ⟨p, hp, hid, hrevision, -⟩ := h.current c hc
  have hfind := h.find_row hp (hid.trans hclaim)
  rw [hrow] at hfind
  obtain rfl : row = p := Option.some.inj hfind
  have hkey := (getRevision_key hcurrent).2
  refine ⟨hrevision.symm.trans hkey.symm, ?_⟩
  obtain ⟨n, hn, hclaimed⟩ := h.claimed c hc
  have hcompiled : n.compiled ∈ sortBy (·.nodeKey)
      ((nodesOf s planId row.currentRevision).map NodeRow.compiled) := by
    refine mem_compiledTasks.mpr ⟨n, mem_nodesOf.mpr ⟨hn, ?_, ?_⟩, rfl⟩
    · rw [← hclaim, ← hclaimed]
      rfl
    · rw [hrevision, ← hclaimed]
      rfl
  have htask : c.taskId = n.compiled.taskId := by
    rw [← hclaimed]
    rfl
  rw [htask]
  exact List.mem_map_of_mem hcompiled

theorem pinned_iff {p : PlanRow} :
    p.pinned plan ↔ p.planId = plan.planId ∧ p.currentRevision = plan.current.revision ∧
      p.controlRevision = plan.controlRevision ∧ p.state.active = true := Iff.rfl

theorem active_ne_draft {state : PlanState} (h : state.active = true) : state ≠ .draft := by
  intro hdraft
  rw [hdraft] at h
  cases h

section Activation

variable {K : Contracts} {E : Surroundings} {r : ActivationRequest} {plan : PlanProjection}
  {a : Activation} {now : Time} {s s' : ExecutionDb}

/-- **Every claim of the plan is a claim of a node of the candidate.** -/
theorem movedClaims_all (h : PlanInv K s) (hplan : getPlan s r.planId = .ok (some plan))
    (ha : Checked K E s r plan a) {c : TaskClaim}
    (hc : c ∈ movedClaims (nodeRows a.compiled plan.planId a.candidate.candidateRevision)
      plan.current.revision s.claims) :
    (c ∈ s.claims ∧ c.planId ≠ plan.planId) ∨
      ∃ row ∈ nodeRows a.compiled plan.planId a.candidate.candidateRevision, c = row.claim := by
  rcases mem_movedClaims hc with ⟨hold, hnot⟩ | hnew
  · refine .inl ⟨hold, fun heq => ?_⟩
    -- the Task of such a claim is in the fixed set, so a row would have taken it over
    obtain ⟨hrevision, htask⟩ := h.claims hplan hold (heq.trans (getPlan_id hplan))
    obtain ⟨t, ht, htid⟩ := List.mem_map.mp htask
    obtain ⟨-, -, hall⟩ := compileFixedTaskSet_ok ha.compiled
    obtain ⟨n, hn, hnid⟩ := List.mem_map.mp (hall t ht)
    have hfalse := hnot (n.row plan.planId a.candidate.candidateRevision)
      (List.mem_map_of_mem hn)
    have htrue := @takesOver_iff (n.row plan.planId a.candidate.candidateRevision)
      plan.current.revision c
    rw [hfalse] at htrue
    exact Bool.false_ne_true (htrue.mpr ⟨htid.symm.trans hnid.symm, heq, hrevision⟩)
  · exact .inr hnew

theorem writeRevision_inv (h : PlanInv K s) (hplan : getPlan s r.planId = .ok (some plan))
    (ha : Checked K E s r plan a) {u : Unit} (hrun : writeRevision K r a now s = (.ok u, s')) :
    PlanInv K s' := by
  obtain ⟨s₁, edges, tasks, operations, row, -, hs₁, hgrows, hrowPlan, hrowRevision, hdecision, -,
    hexact, hone, rfl⟩ := writeRevision_ok hrun
  rw [ha.same] at hs₁ hrowPlan hone ⊢
  obtain ⟨revision, hrevision, hnodes, -⟩ := exactCompilation_ok hexact
  obtain ⟨p, hp, hpinned⟩ : ∃ p ∈ s.plans, decide (p.pinned plan) = true :=
    List.countP_pos_iff.mp (by omega)
  have hpinned : p.pinned plan := of_decide_eq_true hpinned
  obtain ⟨hpid, hcurrent, -, hactive⟩ := pinned_iff.mp hpinned
  -- the plan moves to the candidate's revision
  have hmoved : p.advanced a.candidate.candidateRevision now ∈
      advancedPlans s.plans plan a.candidate.candidateRevision now :=
    List.mem_map.mpr ⟨p, hp, if_pos hpinned⟩
  have hstate : (p.advanced a.candidate.candidateRevision now).state ≠ .draft :=
    active_ne_draft hactive
  subst hs₁
  refine @PlanInv.compiles K _ _ h
    (nodeRows a.compiled plan.planId a.candidate.candidateRevision) row
    ⟨rfl, hgrows.nodeIds h.nodeIds, ?_, rfl, rfl, ⟨revision, hrevision, hnodes⟩,
      rfl, rfl, rfl, rfl, rfl⟩
    ?_ ?_ ?_ ?_
  · intro n hn
    rw [hrowPlan, hrowRevision]
    exact nodeRows_keyed hn
  · show (advancedPlans s.plans plan a.candidate.candidateRevision now).map (·.planId) =
      s.plans.map (·.planId)
    unfold advancedPlans
    rw [List.map_map]
    refine List.map_congr_left fun q _ => ?_
    simp only [Function.comp_apply]
    split <;> rfl
  · intro c hc
    rcases movedClaims_all h hplan ha hc with ⟨hold, -⟩ | ⟨n, hn, rfl⟩
    · obtain ⟨n, hn, heq⟩ := h.claimed c hold
      exact ⟨n, List.mem_append_left _ hn, heq⟩
    · exact ⟨n, List.mem_append_right _ hn, rfl⟩
  · intro c hc
    rcases movedClaims_all h hplan ha hc with ⟨hold, hother⟩ | ⟨n, hn, rfl⟩
    · obtain ⟨q, hq, hkey, hrev, hqstate⟩ := h.current c hold
      refine ⟨q, List.mem_map.mpr ⟨q, hq, if_neg fun hq => hother ?_⟩, hkey, hrev, hqstate⟩
      exact hkey.symm.trans (pinned_iff.mp hq).1
    · obtain ⟨-, hnplan, hnrevision⟩ := nodeRows_keyed hn
      exact ⟨_, hmoved, hpid.trans hnplan.symm, hnrevision.symm, hstate⟩
  · intro q hq hqstate
    obtain ⟨q₀, hq₀, rfl⟩ := List.mem_map.mp hq
    split at hqstate
    · next hqpinned =>
        rw [if_pos hqpinned]
        exact ⟨row, by simp, hrowPlan.trans (pinned_iff.mp hqpinned).1.symm, hrowRevision,
          hdecision⟩
    · next hnot =>
        rw [if_neg hnot]
        obtain ⟨v, hv, hkey⟩ := h.approved q₀ hq₀ hqstate
        exact ⟨v, List.mem_append_left _ hv, hkey⟩

end Activation

/-! ### The carried evidence -/

theorem createCarriedEvidenceReuseContract_ok {adoption : EvidenceAdoption}
    {policy : Plan.PlanPolicy} {node : Plan.PlanNode} {reuseInputs : List ReuseInput}
    {task : TaskSnapshot} {contract : EvidenceReuseContract}
    (h : createCarriedEvidenceReuseContract K adoption policy node reuseInputs task =
      .ok contract) :
    contract = sealEvidenceReuseContract K adoption policy node reuseInputs
      (K.digest (.inputBindings [])) task := by
  unfold createCarriedEvidenceReuseContract at h
  cases hservice : adoption.authority.service with
  | executionMaterialization authority =>
    simp only [hservice] at h
    obtain ⟨_, h, -⟩ := ok_of_except_bind h
    cases h
  | remoteEvidenceAdoption actor binding digest =>
    simp only [hservice] at h
    obtain ⟨_, h, -⟩ := ok_of_except_bind h
    cases h
  | executionSupersession authority source =>
    simp only [hservice] at h
    obtain ⟨_, -, h⟩ := ok_of_except_bind h
    obtain ⟨_, -, h⟩ := ok_of_except_bind h
    cases h
    rfl

theorem carryScope_node {a : EvidenceAdoption} (h : carryScope s a = true) :
    ∃ n ∈ s.nodes, n.planId = a.planId ∧ n.revision = a.planRevision ∧ n.nodeKey = a.nodeKey ∧
      n.taskId = a.authority.taskId := by
  simp only [carryScope, List.any_eq_true, Bool.and_eq_true, decide_eq_true_eq] at h
  obtain ⟨p, -, -, n, hn, hplan, hrevision, hkey, htask, -⟩ := h
  exact ⟨n, hn, hplan, hrevision, hkey, htask⟩

theorem PlanInv.carrying (h : PlanInv K s) {i : CarryInput} {row : CarriedAdoption × CarriedReuse}
    (hrow : Carries K i s row) :
    PlanInv K (s.carrying row) := by
  obtain ⟨source, reuse, authority, -, -, hadoption, hcontract, -, -⟩ := hrow.rests
  have hcontract := createCarriedEvidenceReuseContract_ok hcontract
  refine { h with
    evidence := h.evidence.mono rfl rfl rfl fun _ hn => hn
    carried := ?_, carryIds := ?_, carriedIds := ?_, carriedReuse := ?_ }
  · intro c hc
    rcases List.mem_append.mp hc with hc | hc
    · exact h.carried c hc
    · obtain rfl := List.mem_singleton.mp hc
      obtain ⟨n, hn, hplan, hrevision, hkey, -⟩ := carryScope_node hrow.scope
      exact ⟨n, hn, hplan, hrevision, hkey⟩
  · intro c hc
    rcases List.mem_append.mp hc with hc | hc
    · exact h.carryIds c hc
    · obtain rfl := List.mem_singleton.mp hc
      rw [hadoption]
      exact ⟨_, _, _, rfl⟩
  · show ((s.carriedAdoptions ++ [row.1]).map (·.adoption.adoptionId)).Nodup
    rw [List.map_append, List.nodup_append]
    refine ⟨h.carriedIds, by simp, ?_⟩
    intro id hid other hother heq
    obtain ⟨c, hc, rfl⟩ := List.mem_map.mp hid
    obtain rfl : row.1.adoption.adoptionId = other := by simpa [eq_comm] using hother
    exact (hrow.key c hc).1 heq
  · intro k hk
    rcases List.mem_append.mp hk with hk | hk
    · obtain ⟨c, hc, hkey⟩ := h.carriedReuse k hk
      exact ⟨c, List.mem_append_left _ hc, hkey⟩
    · obtain rfl := List.mem_singleton.mp hk
      refine ⟨row.1, List.mem_append_right _ (by simp), ?_⟩
      rw [hcontract]
      exact ⟨rfl, rfl, rfl⟩

theorem CarryRun.inv {input : CarryStep → CarryInput} {steps : List CarryStep}
    {rows : List (CarriedAdoption × CarriedReuse)} (hrun : CarryRun K input s steps rows)
    (h : PlanInv K s) :
    PlanInv K (rows.foldl ExecutionDb.carrying s) := by
  induction hrun with
  | nil s => exact h
  | cons first rest ih => exact ih (h.carrying first)

/-! ## Every run -/

theorem PlanInv.receipted (h : PlanInv K s) (consumptions : List DelegationConsumption)
    (receipts : List ActivationReceipt) :
    PlanInv K { s with consumptions := consumptions, receipts := receipts } :=
  { h with evidence := h.evidence.mono rfl rfl rfl fun _ hn => hn }

theorem writeActivation_inv {E : Surroundings} {r : ActivationRequest} {a : Activation} {now : Time}
    {receipt : ActivationReceipt} (h : PlanInv K s) (hplan : getPlan s r.planId = .ok (some plan))
    (ha : Checked K E s r plan a) (hrun : writeActivation K r a now s = (.ok receipt, s')) :
    PlanInv K s' := by
  obtain ⟨s₁, rows, consumptions, hrevision, hcarry, -, -, -, rfl⟩ := writeActivation_ok hrun
  have hwritten := hcarry.inv (writeRevision_inv h hplan ha hrevision)
  rw [foldl_carrying] at hwritten
  exact hwritten.receipted consumptions _

theorem activateWithActor_inv {K : Contracts} {E : Surroundings} {r : ActivationRequest}
    {s : ExecutionDb} (h : PlanInv K s) : PlanInv K (activateWithActor K E r s).2 := by
  rcases hrun : activateWithActor K E r s with ⟨e | receipt, s'⟩
  · rw [activateWithActor_error hrun]
    exact h
  · obtain ⟨plan, hplan, -, ⟨-, rfl⟩ | ⟨-, a, ha, hwrite⟩⟩ := activateWithActor_ok hrun
    · exact h
    · exact writeActivation_inv h hplan (requireActivation_ok ha) hwrite

theorem step_inv (h : PlanInv K s) (hstep : Step K s s') :
    PlanInv K s' := by
  cases hstep with
  | append plan i operationId =>
    rcases Tx.immediate_cases (append plan i operationId) s with ⟨e, he⟩ | ⟨u, s', hrun, heq⟩
    · rw [he]
      exact h
    · rw [heq]
      obtain ⟨sources, operations, ⟨hnew, rfl⟩ | ⟨planId, revision, rfl⟩⟩ := append_ok hrun
      · -- a plan of its own
        simp only [List.all_eq_true, decide_eq_true_eq] at hnew
        exact (h.drafted hnew rfl).revised [i.row 1] sources operations s.candidates
      · -- a further revision of a plan
        exact (h.settled (revised_settles planId revision i.now)).revised
          [({ i with planId := planId } : RevisionInput).row (revision + 1)] sources operations
          s.candidates
  | candidate plan i c =>
    rcases Tx.immediate_cases (appendSupersessionCandidate K plan i c) s
      with ⟨e, he⟩ | ⟨u, s', hrun, heq⟩
    · rw [he]
      exact h
    · rw [heq]
      obtain ⟨sources, rfl⟩ := appendSupersessionCandidate_ok hrun
      exact h.revised [({ i with planId := plan.planId } : RevisionInput).row
        (plan.current.revision + 1)] sources s.planOperations (s.candidates ++ [c.row plan i])
  | review plan i =>
    rcases Tx.immediate_cases (persist plan i) s with ⟨e, he⟩ | ⟨u, s', hrun, heq⟩
    · rw [he]
      exact h
    · rw [heq]
      exact persist_inv h hrun
  | started planId revision now => exact h.settled (started_settles planId revision now)
  | drifted taskId now => exact h.settled (drifted_settles s.claims taskId now)
  | activate E memberId planId command =>
    rcases activate_cases K E memberId planId command s with ⟨e, he⟩ | heq
    · rw [he]
      exact h
    · rw [heq]
      exact activateWithActor_inv h
  | activateForAgent E planId command agentId runId delegationId =>
    rcases activateForAgent_cases K E planId command agentId runId delegationId s
      with ⟨e, he⟩ | ⟨issuer, heq⟩
    · rw [he]
      exact h
    · rw [heq]
      exact activateWithActor_inv h
  | elsewhere hkept =>
    -- what is written elsewhere is none of these rows
    have hrevision : ∀ planId revision, getRevision s' planId revision =
        getRevision s planId revision := by
      intro planId revision
      unfold getRevision
      rw [hkept.revisions]
    refine ⟨?_, ?_, ?_, ?_, hkept.evidence, ?_, ?_, ?_, ?_, ?_, ?_, ?_, ?_⟩
    · rw [hkept.plans]
      exact h.planIds
    · rw [hkept.nodes]
      exact h.nodeIds
    · rw [hkept.nodes]
      exact h.keyed
    · rw [hkept.nodes, hkept.approvals]
      exact h.reviewed
    · rw [hkept.carriedAdoptions, hkept.nodes]
      exact h.carried
    · rw [hkept.carriedAdoptions]
      exact h.carryIds
    · rw [hkept.carriedAdoptions]
      exact h.carriedIds
    · rw [hkept.carriedReuse, hkept.carriedAdoptions]
      exact h.carriedReuse
    · rw [hkept.claims, hkept.nodes]
      exact h.claimed
    · rw [hkept.claims, hkept.plans]
      exact h.current
    · intro a ha
      rw [hkept.approvals] at ha
      rw [hrevision, hkept.nodes]
      exact h.compilation a ha
    · rw [hkept.plans, hkept.approvals]
      exact h.approved

theorem initial_inv (K : Contracts) : PlanInv K {} := by
  refine ⟨?_, ?_, ?_, ?_, ⟨?_, ?_, ?_, ?_⟩, ?_, ?_, ?_, ?_, ?_, ?_, ?_, ?_⟩ <;> simp [ownAdoptions]

/-- **The invariant holds in every state Central reaches.** -/
theorem reachable_inv (h : Reachable K s) : PlanInv K s := by
  induction h with
  | refl => exact initial_inv K
  | tail _ hstep ih => exact step_inv ih hstep

end AgentRoom.Execution
