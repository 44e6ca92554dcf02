import AgentRoom.Execution.Adoptions
import AgentRoom.Execution.LowRisk
import AgentRoom.Plan.NormalForm

/-!
# Supersession carries evidence completely, or changes nothing

An activation that succeeds found nothing at the next revision, since nothing is compiled there
without an approval. What stands there afterwards is what it carried: one adoption for each gate
adopted before, from the same evidence, each after the ones its inputs come from.
-/

namespace AgentRoom.Execution

open Plan (Gate PlanDefinition textLe textLe_trans)

/-- The carried adoptions of a gate of a Task at a revision. -/
def carriedAt (db : ExecutionDb) (planId : String) (revision : Nat) (taskId : String)
    (gate : Gate) : List EvidenceAdoption :=
  (db.carriedAdoptions.map (·.adoption)).filter fun a => a.planId = planId ∧
    a.planRevision = revision ∧ a.authority.taskId = taskId ∧ a.gate = gate

/-- What a carried row says of the materialization it was carried for. -/
structure CarriedFrom (K : Contracts) (db : ExecutionDb) (planId : String) (base : Nat)
    (v : AdoptedMaterialization) (row : CarriedAdoption × CarriedReuse) : Prop where
  planId : row.1.adoption.planId = planId
  planRevision : row.1.adoption.planRevision = base + 1
  taskId : row.1.adoption.authority.taskId = v.sourceTaskId
  gate : row.1.adoption.gate = v.gate
  sourceEvidenceId : row.1.adoption.sourceEvidenceId = v.sourceEvidenceId
  sourceDigest : row.1.adoption.sourceDigest = v.sourceDigest
  contract : row.2.contract.adoptionId = row.1.adoption.adoptionId
  source : ∃ source reuse, carrySource K db v.adoptionId = .ok (some (source, reuse)) ∧
    row.1.adoption.proofs = source.proofs ∧
    row.1.adoption.proofSetDigest = source.proofSetDigest ∧
    row.2.contract.nodeReuseContractDigest = reuse.nodeReuseContractDigest ∧
    row.2.contract.reuseInputEvidenceDigest = reuse.reuseInputEvidenceDigest

/-- The inputs of a carried row were carried before it, along edges of the definition. -/
def InputsCarried (definition : PlanDefinition)
    (before : List (CarriedAdoption × CarriedReuse)) (row : CarriedAdoption × CarriedReuse) :
    Prop :=
  ∀ input ∈ row.2.contract.reuseInputs, ∀ edge sourceEvidenceId sourceDigest proofSetDigest,
    input.producer = .adoptedEvidence edge sourceEvidenceId sourceDigest proofSetDigest →
    edge ∈ definition.edges ∧ edge.toNodeKey = row.1.adoption.nodeKey ∧
    ∃ other ∈ before, other.1.adoption.nodeKey = edge.fromNodeKey ∧
      other.1.adoption.gate = edge.gate ∧
      other.1.adoption.sourceEvidenceId = sourceEvidenceId ∧
      other.1.adoption.sourceDigest = sourceDigest

/-- **What a supersession makes of a plan.** -/
structure Superseded (K : Contracts) (db db' : ExecutionDb) (plan : PlanProjection)
    (definition : PlanDefinition) (order : List String) : Prop where
  advanced : ∃ plan', getPlan db' plan.planId = .ok (some plan') ∧
    plan'.current.revision = plan.current.revision + 1 ∧
    plan'.controlRevision = plan.controlRevision + 1
  claims : ∀ c ∈ db'.claims, c.planId = plan.planId → c.revision = plan.current.revision + 1
  tasks : db'.claims.map (fun c => (c.taskId, c.planId)) =
    db.claims.map fun c => (c.taskId, c.planId)
  rows : ∃ rows : List (CarriedAdoption × CarriedReuse),
    db'.carriedAdoptions = db.carriedAdoptions ++ rows.map (·.1) ∧
    db'.carriedReuse = db.carriedReuse ++ rows.map (·.2) ∧
    (rows.map fun row => indexOf order row.1.adoption.nodeKey).Pairwise (· ≤ ·) ∧
    (∀ before row after, rows = before ++ row :: after →
      InputsCarried definition before row) ∧
    ∀ v ∈ adoptedAt db plan.planId plan.current.revision, ∃ row ∈ rows,
      CarriedFrom K db plan.planId plan.current.revision v row ∧
      carriedAt db' plan.planId (plan.current.revision + 1) v.sourceTaskId v.gate =
        [row.1.adoption]

/-! ## What is not touched before the carries -/

variable {K : Contracts} {r : ActivationRequest} {a : Activation} {now : Time} {s : ExecutionDb}

theorem writeRevision_evidence {s₁ : ExecutionDb} {u : Unit}
    (h : writeRevision K r a now s = (.ok u, s₁)) :
    (∀ id, carrySource K s₁ id = carrySource K s id) ∧ ownAdoptions s₁ = ownAdoptions s ∧
      s₁.adoptions = s.adoptions ∧ s₁.reuseContracts = s.reuseContracts ∧
      s₁.carriedAdoptions = s.carriedAdoptions ∧ s₁.carriedReuse = s.carriedReuse ∧
      s₁.receipts = s.receipts := by
  obtain ⟨s₂, edges, tasks, operations, row, -, rfl, -, -, -, -, -, -, -, rfl⟩ :=
    writeRevision_ok h
  exact ⟨fun _ => rfl, rfl, rfl, rfl, rfl, rfl, rfl⟩

section Activation

variable {K : Contracts} {E : Surroundings} {r : ActivationRequest} {plan : PlanProjection}
  {a : Activation} {now : Time} {s s₁ : ExecutionDb} {u : Unit}

theorem none_next (h : PlanInv K s) (hplan : getPlan s r.planId = .ok (some plan))
    (ha : Checked K E s r plan a) (hrun : writeRevision K r a now s = (.ok u, s₁))
    {x : EvidenceAdoption} (hx : x ∈ allAdoptions s) (hid : x.planId = r.planId) :
    x.planRevision ≠ plan.current.revision + 1 := by
  intro hrevision
  obtain ⟨s₂, edges, tasks, operations, row, -, -, -, hrowPlan, hrowRevision, -, hnone, -, -, -⟩ :=
    writeRevision_ok hrun
  obtain ⟨n, hn, hnplan, hnrevision, -⟩ := h.adoption_node hx
  obtain ⟨v, hv, hvplan, hvrevision⟩ := h.reviewed n hn
  refine hnone v hv ⟨?_, ?_⟩
  · rw [hvplan, hnplan, hid, hrowPlan, ha.same, getPlan_id hplan]
  · rw [hvrevision, hnrevision, hrevision, hrowRevision, ha.next]

/-- The reuse contract of a source is of the revision of the source. -/
theorem PlanInv.reuse_scope (h : PlanInv K s) {id : String} {source : EvidenceAdoption}
    {reuse : EvidenceReuseContract} (hsource : carrySource K s id = .ok (some (source, reuse))) :
    reuse.planId = source.planId ∧ reuse.planRevision = source.planRevision := by
  obtain ⟨hfind, hreuse⟩ := carrySource_ok hsource
  have hmem := carryable_subset (List.mem_of_find?_eq_some hfind)
  have hid : reuse.adoptionId = source.adoptionId := by simpa using List.find?_some hreuse
  rcases List.mem_append.mp (List.mem_of_find?_eq_some hreuse) with hown | hcarried
  · obtain ⟨x, hx, hxid, hxplan, hxrevision⟩ := h.evidence.reuse reuse hown
    obtain rfl := h.adoption_unique (List.mem_append_left _ (List.mem_append_left _ hx)) hmem
      (hxid.trans hid)
    exact ⟨hxplan.symm, hxrevision.symm⟩
  · obtain ⟨k, hk, rfl⟩ := List.mem_map.mp hcarried
    obtain ⟨c, hc, hcid, hcplan, hcrevision⟩ := h.carriedReuse k hk
    obtain rfl := h.adoption_unique (List.mem_append_right _ (List.mem_map_of_mem hc)) hmem
      (hcid.trans hid)
    exact ⟨hcplan.symm, hcrevision.symm⟩

variable {before : List (CarriedAdoption × CarriedReuse)} {row : CarriedAdoption × CarriedReuse}
  {step : CarryStep} {v : AdoptedMaterialization}

/-- **A carry is from the evidence of the gate its step is for.** -/
theorem carried_from (h : PlanInv K s) (ha : Checked K E s r plan a)
    (hrun : writeRevision K r a now s = (.ok u, s₁)) (hstep : step ∈ a.carryPlan)
    (hinv : PlanInv K (before.foldl ExecutionDb.carrying s₁))
    (hcarries : Carries K (r.carryInput a now step)
      (before.foldl ExecutionDb.carrying s₁) row)
    (hv : v ∈ adoptedAt s plan.planId plan.current.revision)
    (hselect : selectCarry a.compiled r.command v = .ok step) :
    CarriedFrom K s r.planId plan.current.revision v row := by
  obtain ⟨hsame, -, -, -, -, -, -⟩ := writeRevision_evidence hrun
  obtain ⟨source, reuse, authority, hsource, -, hadoption, hcontract, hnode, hinput⟩ :=
    hcarries.rests
  obtain ⟨hsource, hsourcePlan, hsourceRevision, -, hsourceGate⟩ := requireCarrySource_ok hsource
  obtain ⟨found, hfound⟩ := requireCurrentLocalAuthority_ok (ha.authority step hstep)
  obtain rfl := carrySource_carrying before ((hsame _).trans hfound) hsource
  obtain ⟨target, htarget, -, htask, -, hgate, hid, -⟩ := selectCarry_ok hselect
  have hcontract := createCarriedEvidenceReuseContract_ok hcontract
  -- the source is the adoption the materialization is of
  have hsourceId : step.selection.sourceAdoptionId = v.adoptionId := hid
  rw [hsourceId] at hfound
  obtain ⟨hfind, -⟩ := carrySource_ok hfound
  have hmem := carryable_subset (List.mem_of_find?_eq_some hfind)
  have hsid : source.adoptionId = v.adoptionId := by simpa using List.find?_some hfind
  obtain ⟨x, hx, hof⟩ := allAdopted_of (List.mem_of_mem_filter hv)
  obtain rfl := h.adoption_unique hmem hx (hsid.trans hof.adoptionId)
  have htaskId : step.task.taskId = v.sourceTaskId := by
    rw [htask]
    simpa using List.find?_some htarget
  refine ⟨?_, ?_, ?_, ?_, ?_, ?_, ?_, source, reuse, hfound, ?_, ?_, hnode, hinput⟩
  · rw [hadoption]
    rfl
  · rw [hadoption]
    exact ha.next
  · rw [hadoption]
    exact htaskId
  · rw [hadoption]
    exact hof.gate.symm
  · rw [hadoption]
    exact hof.sourceEvidenceId.symm
  · rw [hadoption]
    exact hof.sourceDigest.symm
  · rw [hcontract]
    rfl
  · rw [hadoption]
    rfl
  · -- the database looked the proof set of the source up under its id
    have horigin := hcarries.origin
    unfold carryOrigin at horigin
    rw [List.any_eq_true] at horigin
    obtain ⟨y, hy, hmatch⟩ := horigin
    simp only [decide_eq_true_eq] at hmatch
    obtain ⟨hyid, -, -, -, hproofs⟩ := hmatch
    obtain ⟨hfind', -⟩ := carrySource_ok hsource
    have hsource' := carryable_subset (List.mem_of_find?_eq_some hfind')
    have hyid' : y.adoptionId = source.adoptionId := by
      rw [hyid, hadoption]
    rw [← hproofs, hinv.adoption_unique (carryable_subset hy) hsource' hyid']

/-- **What a source rests on was carried before it.** -/
theorem inputs_carried (h : PlanInv K s) (hplan : getPlan s r.planId = .ok (some plan))
    (ha : Checked K E s r plan a) (hrun : writeRevision K r a now s = (.ok u, s₁))
    (hinv : PlanInv K (before.foldl ExecutionDb.carrying s₁))
    (hcarries : Carries K (r.carryInput a now step)
      (before.foldl ExecutionDb.carrying s₁) row) :
    InputsCarried a.definition before row := by
  obtain ⟨-, hown, -, -, hcarried, -, -⟩ := writeRevision_evidence hrun
  obtain ⟨source, reuse, authority, hsource, hinputs, hadoption, hcontract, -, -⟩ :=
    hcarries.rests
  obtain ⟨hsource, hsourcePlan, hsourceRevision, -, -⟩ := requireCarrySource_ok hsource
  obtain ⟨hreusePlan, hreuseRevision⟩ := hinv.reuse_scope hsource
  have hcontract := createCarriedEvidenceReuseContract_ok hcontract
  intro input hinput edge sourceEvidenceId sourceDigest proofSetDigest hproducer
  have hmem : input ∈ reuse.reuseInputs := by
    rw [hcontract] at hinput
    exact (List.mem_insertionSort _).mp hinput
  have hlogical := hinputs input hmem
  unfold requireLogicalInput at hlogical
  rw [hproducer] at hlogical
  obtain ⟨_, hedge, hadopted⟩ := ok_of_except_bind hlogical
  obtain ⟨hto, hin⟩ := require_ok.mp hedge
  obtain ⟨x, hx, hxplan, hxrevision, hxnode, hxgate, hxsource, hxdigest⟩ := require_ok.mp hadopted
  refine ⟨hin, ?_, ?_⟩
  · rw [hadoption]
    exact hto
  obtain ⟨y, hy, hof⟩ := allAdopted_of hx
  have hyplan : y.planId = r.planId := by
    rw [← hof.planId, hxplan, hreusePlan, hsourcePlan]
    rfl
  have hyrevision : y.planRevision = plan.current.revision + 1 := by
    rw [← hof.planRevision, hxrevision, hreuseRevision, hsourceRevision]
    exact ha.next
  -- it is none of those that were there before the activation
  have hall : allAdoptions (before.foldl ExecutionDb.carrying s₁) =
      allAdoptions s ++ (before.map (·.1)).map (·.adoption) := by
    rw [foldl_carrying]
    have hown' : ownAdoptions { s₁ with
        carriedAdoptions := s₁.carriedAdoptions ++ before.map (·.1)
        carriedReuse := s₁.carriedReuse ++ before.map (·.2) } = ownAdoptions s := hown
    unfold allAdoptions
    rw [hown', hcarried, List.map_append, List.append_assoc]
  rw [hall] at hy
  rcases List.mem_append.mp hy with hold | hnew
  · exact absurd hyrevision (none_next h hplan ha hrun hold hyplan)
  · obtain ⟨c, hc, rfl⟩ := List.mem_map.mp hnew
    obtain ⟨other, hother, rfl⟩ := List.mem_map.mp hc
    exact ⟨other, hother, hof.nodeKey.symm.trans hxnode, hof.gate.symm.trans hxgate,
      hof.sourceEvidenceId.symm.trans hxsource, hof.sourceDigest.symm.trans hxdigest⟩

/-! ## One carried adoption a gate -/

theorem selectCarry_node {compiled : List CompiledNode} {command : ActivationCommand}
    {w : AdoptedMaterialization} {other : CarryStep}
    (hv : selectCarry compiled command v = .ok step)
    (hw : selectCarry compiled command w = .ok other) (htask : v.sourceTaskId = w.sourceTaskId) :
    step.node = other.node := by
  obtain ⟨target, htarget, hnode, -⟩ := selectCarry_ok hv
  obtain ⟨target', htarget', hnode', -⟩ := selectCarry_ok hw
  rw [htask, htarget'] at htarget
  obtain rfl := Option.some.inj htarget
  rw [hnode, hnode']

variable {rows : List (CarriedAdoption × CarriedReuse)}

/-- A row of the carries, with the materialization it is for. -/
theorem carried_row (h : PlanInv K s) (hplan : getPlan s r.planId = .ok (some plan))
    (ha : Checked K E s r plan a) (hrun : writeRevision K r a now s = (.ok u, s₁))
    (hcarry : CarryRun K (r.carryInput a now) s₁ a.carryPlan rows)
    {after : List (CarriedAdoption × CarriedReuse)} (hrows : rows = before ++ row :: after) :
    InputsCarried a.definition before row ∧
      (∀ other ∈ before, ¬(other.1.adoption.planId = row.1.adoption.planId ∧
        other.1.adoption.planRevision = row.1.adoption.planRevision ∧
        other.1.adoption.nodeKey = row.1.adoption.nodeKey ∧
        other.1.adoption.gate = row.1.adoption.gate)) ∧
      ∃ step, ∃ v ∈ adoptedAt s plan.planId plan.current.revision,
        selectCarry a.compiled r.command v = .ok step ∧
        row.1.adoption.nodeKey = step.node.nodeKey ∧
        CarriedFrom K s r.planId plan.current.revision v row := by
  obtain ⟨step, hstep, hinv, hcarries⟩ :=
    hcarry.of_row (writeRevision_inv h hplan ha hrun) hrows
  obtain ⟨-, hsteps, -⟩ := requireCarryCoverage_ok ha.coverage
  obtain ⟨v, hv, hselect⟩ := hsteps step hstep
  refine ⟨inputs_carried h hplan ha hrun hinv hcarries, ?_, step, v, hv, hselect, ?_,
    carried_from h ha hrun hstep hinv hcarries hv hselect⟩
  · intro other hother
    refine (hcarries.key other.1 ?_).2
    rw [foldl_carrying]
    exact List.mem_append_right _ (List.mem_map_of_mem hother)
  · obtain ⟨source, reuse, authority, -, -, hadoption, -⟩ := hcarries.rests
    rw [hadoption]
    rfl

/-- **A gate that was adopted has exactly one carried adoption.** -/
theorem carried_once (h : PlanInv K s) (hplan : getPlan s r.planId = .ok (some plan))
    (ha : Checked K E s r plan a) (hrun : writeRevision K r a now s = (.ok u, s₁))
    (hcarry : CarryRun K (r.carryInput a now) s₁ a.carryPlan rows)
    (hv : v ∈ adoptedAt s plan.planId plan.current.revision) :
    ∃ row ∈ rows, CarriedFrom K s r.planId plan.current.revision v row ∧
      ((s.carriedAdoptions ++ rows.map (·.1)).map (·.adoption)).filter (fun x =>
        x.planId = r.planId ∧ x.planRevision = plan.current.revision + 1 ∧
          x.authority.taskId = v.sourceTaskId ∧ x.gate = v.gate) = [row.1.adoption] := by
  obtain ⟨hcover, -, -⟩ := requireCarryCoverage_ok ha.coverage
  obtain ⟨step, hstep, hselect⟩ := hcover v hv
  obtain ⟨before, row, after, hrows, hinv, hcarries⟩ :=
    hcarry.of_step (writeRevision_inv h hplan ha hrun) hstep
  have hfrom := carried_from h ha hrun hstep hinv hcarries hv hselect
  have hkey : row.1.adoption.nodeKey = step.node.nodeKey := by
    obtain ⟨source, reuse, authority, -, -, hadoption, -⟩ := hcarries.rests
    rw [hadoption]
    rfl
  refine ⟨row, by simp [hrows], hfrom, ?_⟩
  -- another row for the same gate of the same Task has the same place
  have hplace : ∀ (before' after' : List (CarriedAdoption × CarriedReuse))
      (other : CarriedAdoption × CarriedReuse), rows = before' ++ other :: after' →
      other.1.adoption.authority.taskId = v.sourceTaskId → other.1.adoption.gate = v.gate →
      other.1.adoption.planId = row.1.adoption.planId ∧
        other.1.adoption.planRevision = row.1.adoption.planRevision ∧
        other.1.adoption.nodeKey = row.1.adoption.nodeKey ∧
        other.1.adoption.gate = row.1.adoption.gate := by
    intro before' after' other hrows' htask hgate
    obtain ⟨-, -, step', w, -, hselect', hkey', hfrom'⟩ :=
      carried_row h hplan ha hrun hcarry hrows'
    refine ⟨hfrom'.planId.trans hfrom.planId.symm,
      hfrom'.planRevision.trans hfrom.planRevision.symm, ?_, hgate.trans hfrom.gate.symm⟩
    rw [hkey', hkey, selectCarry_node hselect' hselect (hfrom'.taskId.symm.trans htask)]
  subst hrows
  simp only [List.map_append, List.map_cons, List.filter_append]
  rw [List.filter_cons_of_pos (by
    simp only [decide_eq_true_eq]
    exact ⟨hfrom.planId, hfrom.planRevision, hfrom.taskId, hfrom.gate⟩)]
  have hold : (s.carriedAdoptions.map (·.adoption)).filter (fun x =>
      x.planId = r.planId ∧ x.planRevision = plan.current.revision + 1 ∧
        x.authority.taskId = v.sourceTaskId ∧ x.gate = v.gate) = [] := by
    rw [List.filter_eq_nil_iff]
    intro x hx hmatch
    simp only [decide_eq_true_eq] at hmatch
    exact none_next h hplan ha hrun (List.mem_append_right _ hx) hmatch.1 hmatch.2.1
  have hbefore : ((before.map (·.1)).map (·.adoption)).filter (fun x =>
      x.planId = r.planId ∧ x.planRevision = plan.current.revision + 1 ∧
        x.authority.taskId = v.sourceTaskId ∧ x.gate = v.gate) = [] := by
    rw [List.filter_eq_nil_iff]
    intro x hx hmatch
    simp only [decide_eq_true_eq] at hmatch
    obtain ⟨c, hc, rfl⟩ := List.mem_map.mp hx
    obtain ⟨other, hother, rfl⟩ := List.mem_map.mp hc
    obtain ⟨first, rest, rfl⟩ := List.append_of_mem hother
    have hrows :
        first ++ other :: rest ++ row :: after = (first ++ other :: rest) ++ row :: after :=
      rfl
    obtain ⟨-, hfresh, -⟩ := carried_row h hplan ha hrun hcarry hrows
    exact hfresh other hother (hplace first (rest ++ row :: after) other (by simp)
      hmatch.2.2.1 hmatch.2.2.2)
  have hafter : ((after.map (·.1)).map (·.adoption)).filter (fun x =>
      x.planId = r.planId ∧ x.planRevision = plan.current.revision + 1 ∧
        x.authority.taskId = v.sourceTaskId ∧ x.gate = v.gate) = [] := by
    rw [List.filter_eq_nil_iff]
    intro x hx hmatch
    simp only [decide_eq_true_eq] at hmatch
    obtain ⟨c, hc, rfl⟩ := List.mem_map.mp hx
    obtain ⟨other, hother, rfl⟩ := List.mem_map.mp hc
    obtain ⟨first, rest, rfl⟩ := List.append_of_mem hother
    have hrows : before ++ row :: (first ++ other :: rest) =
        (before ++ row :: first) ++ other :: rest := by simp
    obtain ⟨-, hfresh, -⟩ := carried_row h hplan ha hrun hcarry hrows
    obtain ⟨hp, hr, hn, hg⟩ := hplace (before ++ row :: first) rest other (by simp)
      hmatch.2.2.1 hmatch.2.2.2
    exact hfresh row (by simp) ⟨hp.symm, hr.symm, hn.symm, hg.symm⟩
  rw [hold, hbefore, hafter]
  rfl

/-! ## The order of the carries -/

instance (topology : List String) : Std.Total (carryLe topology) := by
  refine ⟨fun a b => ?_⟩
  rcases Int.lt_trichotomy (indexOf topology a.node.nodeKey) (indexOf topology b.node.nodeKey)
    with hlt | heq | hgt
  · exact .inl (.inl hlt)
  · rcases Std.Total.total (r := textLe) a.selection.gate.text b.selection.gate.text with h | h
    · exact .inl (.inr ⟨heq, h⟩)
    · exact .inr (.inr ⟨heq.symm, h⟩)
  · exact .inr (.inl hgt)

instance (topology : List String) : IsTrans CarryStep (carryLe topology) := by
  refine ⟨fun a b c hab hbc => ?_⟩
  rcases hab with hab | ⟨hab, htab⟩ <;> rcases hbc with hbc | ⟨hbc, htbc⟩
  · exact .inl (Int.lt_trans hab hbc)
  · exact .inl (hbc ▸ hab)
  · exact .inl (hab ▸ hbc)
  · exact .inr ⟨hab.trans hbc, textLe_trans htab htbc⟩

theorem carryLe_index {topology : List String} {a b : CarryStep} (h : carryLe topology a b) :
    indexOf topology a.node.nodeKey ≤ indexOf topology b.node.nodeKey := by
  rcases h with hlt | ⟨heq, -⟩
  · exact Int.le_of_lt hlt
  · exact Int.le_of_eq heq

theorem carried_ordered (ha : Checked K E s r plan a)
    (hcarry : CarryRun K (r.carryInput a now) s₁ a.carryPlan rows) :
    ∃ v, K.validateExecutionPlanDefinition a.definition = .ok v ∧
      (rows.map fun row => indexOf v.topologicalOrder row.1.adoption.nodeKey).Pairwise
        (· ≤ ·) := by
  obtain ⟨-, -, v, hv, result, hresult⟩ := requireCarryCoverage_ok ha.coverage
  refine ⟨v, hv, ?_⟩
  have hkeys := hcarry.nodeKeys fun _ => rfl
  have hmap : (rows.map fun row => indexOf v.topologicalOrder row.1.adoption.nodeKey) =
      a.carryPlan.map fun step => indexOf v.topologicalOrder step.node.nodeKey := by
    have := congrArg (List.map (indexOf v.topologicalOrder)) hkeys
    simpa [List.map_map, Function.comp_def] using this
  rw [hmap, hresult, List.pairwise_map]
  exact (List.pairwise_insertionSort (carryLe v.topologicalOrder) result).imp carryLe_index

/-! ## The plan and its claims -/

/-- **The plan stands at the next revision.** -/
theorem plan_advanced (h : PlanInv K s) (hplan : getPlan s r.planId = .ok (some plan))
    (ha : Checked K E s r plan a) (hrun : writeRevision K r a now s = (.ok u, s₁)) :
    ∃ plan', getPlan s₁ r.planId = .ok (some plan') ∧
      plan'.current.revision = plan.current.revision + 1 ∧
      plan'.controlRevision = plan.controlRevision + 1 := by
  obtain ⟨s₂, edges, tasks, operations, row, -, hs₂, -, hrowPlan, hrowRevision, -, -, hexact, hone,
    rfl⟩ := writeRevision_ok hrun
  obtain ⟨revision, hrevision, -, -⟩ := exactCompilation_ok hexact
  rw [ha.same] at hone hrowPlan
  obtain ⟨p, hp, hpinned⟩ : ∃ p ∈ s.plans, decide (p.pinned plan) = true :=
    List.countP_pos_iff.mp (by omega)
  have hpinned : p.pinned plan := of_decide_eq_true hpinned
  obtain ⟨hpid, hcurrent, hcontrol, -⟩ := pinned_iff.mp hpinned
  have hid := getPlan_id hplan
  have hfind := h.find_row hp (hpid.trans hid)
  have hadvanced : (advancedPlans s.plans a.plan a.candidate.candidateRevision now).find?
      (fun q => q.planId = r.planId) = some (p.advanced a.candidate.candidateRevision now) := by
    unfold advancedPlans
    rw [List.find?_map]
    have hcomp : ((fun q : PlanRow => decide (q.planId = r.planId)) ∘
        fun q : PlanRow => if q.pinned a.plan then q.advanced a.candidate.candidateRevision now
          else q) = fun q => decide (q.planId = r.planId) := by
      funext q
      simp only [Function.comp_apply]
      split <;> rfl
    rw [hcomp, hfind, ha.same]
    simp [hpinned]
  rw [hrowPlan, hrowRevision, hid] at hrevision
  have hread : getRevision { s₂ with
      approvals := s.approvals ++ [row]
      plans := advancedPlans s.plans a.plan a.candidate.candidateRevision now } r.planId
        a.candidate.candidateRevision = some revision := hrevision
  refine ⟨_, getPlan_of hadvanced hread, ?_, ?_⟩
  · exact (getRevision_key hread).2.trans ha.next
  · show p.controlRevision + 1 = plan.controlRevision + 1
    rw [hcontrol]

theorem claims_advanced (h : PlanInv K s) (hplan : getPlan s r.planId = .ok (some plan))
    (ha : Checked K E s r plan a) (hrun : writeRevision K r a now s = (.ok u, s₁)) :
    (∀ c ∈ s₁.claims, c.planId = plan.planId → c.revision = plan.current.revision + 1) ∧
      s₁.claims.map (fun c => (c.taskId, c.planId)) =
        s.claims.map fun c => (c.taskId, c.planId) := by
  obtain ⟨s₂, edges, tasks, operations, row, -, rfl, -, -, -, -, -, -, -, rfl⟩ :=
    writeRevision_ok hrun
  rw [ha.same]
  refine ⟨fun c hc hclaim => ?_, movedClaims_tasks _ _ _⟩
  rcases movedClaims_all h hplan ha hc with ⟨-, hother⟩ | ⟨n, hn, rfl⟩
  · exact absurd hclaim hother
  · exact (nodeRows_keyed hn).2.2.trans ha.next

end Activation

/-! ## The receipt -/

/-- An activation under an operation id, with its receipt. -/
structure Receipted (K : Contracts) (db : ExecutionDb) (operationId requestDigest : String)
    (receipt : ActivationReceipt) : Prop where
  activation : ∃ row, activationOf db operationId = some row ∧ row.requestDigest = requestDigest
  retained : receiptOf db operationId = some receipt
  conforms : K.conforms (.supersessionActivationReceipt receipt) = true

/-- What was retained of activations stays, and only grows. -/
structure Retains (db db' : ExecutionDb) : Prop where
  activations : db.activations <+: db'.activations
  receipts : db.receipts <+: db'.receipts

variable {db : ExecutionDb}

theorem Retains.of_eq {db' : ExecutionDb} (hactivations : db'.activations = db.activations)
    (hreceipts : db'.receipts = db.receipts) : Retains db db' := by
  refine ⟨?_, ?_⟩
  · rw [hactivations]
  · rw [hreceipts]

theorem Retains.refl (db : ExecutionDb) : Retains db db := ⟨List.prefix_rfl, List.prefix_rfl⟩

theorem Retains.trans {a b c : ExecutionDb} (h : Retains a b) (h' : Retains b c) : Retains a c :=
  ⟨h.activations.trans h'.activations, h.receipts.trans h'.receipts⟩

theorem find?_prefix {α : Type} {p : α → Bool} {l l' : List α} (h : l <+: l') {a : α}
    (hfind : l.find? p = some a) : l'.find? p = some a := by
  obtain ⟨rest, rfl⟩ := h
  exact find?_append_left hfind

variable {operationId : String} {receipt : ActivationReceipt}

theorem Receipted.later {db' : ExecutionDb} {requestDigest : String}
    (h : Receipted K db operationId requestDigest receipt) (hkept : Retains db db') :
    Receipted K db' operationId requestDigest receipt := by
  obtain ⟨row, hrow, hdigest⟩ := h.activation
  exact ⟨⟨row, find?_prefix hkept.activations hrow, hdigest⟩,
    find?_prefix hkept.receipts h.retained, h.conforms⟩

variable {s' : ExecutionDb}

theorem writeActivation_retains (h : writeActivation K r a now s = (.ok receipt, s')) :
    Retains s s' ∧ Receipted K s' r.command.operationId (r.digest K) receipt := by
  obtain ⟨s₁, rows, consumptions, hrevision, -, hid, hconforms, hfresh, rfl⟩ :=
    writeActivation_ok h
  obtain ⟨s₂, edges, tasks, operations, row, hnew, rfl, -, -, -, -, -, -, -, rfl⟩ :=
    writeRevision_ok hrevision
  refine ⟨⟨⟨[r.row K a now], rfl⟩, ⟨[receipt], rfl⟩⟩, ⟨r.row K a now, ?_, rfl⟩, ?_, hconforms⟩
  · show (s.activations ++ [r.row K a now]).find? _ = _
    rw [List.find?_append, List.find?_eq_none.mpr (by simpa using hnew)]
    simp [ActivationRequest.row]
  · show (s.receipts ++ [receipt]).find? _ = _
    rw [List.find?_append, List.find?_eq_none.mpr (by simpa [hid] using hfresh)]
    simp [hid]

theorem activateWithActor_retains {E : Surroundings} : Retains s (activateWithActor K E r s).2 := by
  rcases hrun : activateWithActor K E r s with ⟨e | receipt, s'⟩
  · rw [activateWithActor_error hrun]
    exact .refl s
  · obtain ⟨plan, -, -, ⟨-, rfl⟩ | ⟨-, a, -, hwrite⟩⟩ := activateWithActor_ok hrun
    · exact .refl s'
    · exact (writeActivation_retains hwrite).1

/-- **No step takes back an activation or a receipt.** -/
theorem step_retains (hstep : Step K s s') :
    Retains s s' := by
  cases hstep with
  | append plan i operationId =>
    rcases Tx.immediate_cases (append plan i operationId) s with ⟨e, he⟩ | ⟨u, s', hrun, heq⟩
    · rw [he]
      exact .refl s
    · rw [heq]
      -- revisions and reviews write no activation
      obtain ⟨sources, operations, ⟨-, rfl⟩ | ⟨planId, revision, rfl⟩⟩ := append_ok hrun
      · exact .of_eq rfl rfl
      · exact .of_eq rfl rfl
  | candidate plan i c =>
    rcases Tx.immediate_cases (appendSupersessionCandidate K plan i c) s
      with ⟨e, he⟩ | ⟨u, s', hrun, heq⟩
    · rw [he]
      exact .refl s
    · rw [heq]
      obtain ⟨sources, rfl⟩ := appendSupersessionCandidate_ok hrun
      exact .of_eq rfl rfl
  | review plan i =>
    rcases Tx.immediate_cases (persist plan i) s with ⟨e, he⟩ | ⟨u, s', hrun, heq⟩
    · rw [he]
      exact .refl s
    · rw [heq]
      obtain ⟨edges, s₁, rfl, -, -, -, -, rfl⟩ := persist_ok hrun
      exact .of_eq rfl rfl
  | started planId revision now => exact .of_eq rfl rfl
  | drifted taskId now => exact .of_eq rfl rfl
  | activate E memberId planId command =>
    rcases activate_cases K E memberId planId command s with ⟨e, he⟩ | heq
    · rw [he]
      exact .refl s
    · rw [heq]
      exact activateWithActor_retains
  | activateForAgent E planId command agentId runId delegationId =>
    rcases activateForAgent_cases K E planId command agentId runId delegationId s
      with ⟨e, he⟩ | ⟨issuer, heq⟩
    · rw [he]
      exact .refl s
    · rw [heq]
      exact activateWithActor_retains
  | elsewhere hkept => exact .of_eq hkept.activations hkept.receipts

theorem steps_retain (h : Relation.ReflTransGen (Step K) s s') : Retains s s' := by
  induction h with
  | refl => exact .refl s
  | tail _ hstep ih => exact ih.trans (step_retains hstep)

theorem replayActivation_of {digest : String} (h : Receipted K db operationId digest receipt)
    (requestDigest : String) :
    replayActivation K db operationId requestDigest = if digest = requestDigest then
      .ok (some receipt) else .error "EXECUTION_OPERATION_CONFLICT" := by
  obtain ⟨row, hrow, rfl⟩ := h.activation
  unfold replayActivation
  rw [hrow, h.retained]
  simp only [require, Contracts.assertExecutionCommand, h.conforms, if_true]
  split <;> rfl

/-- **A repeated operation** reads its receipt, whatever else has happened. -/
structure Replays (K : Contracts) (digest : String) (receipt : ActivationReceipt)
    (E : Surroundings) (r : ActivationRequest) (db : ExecutionDb) : Prop where
  unchanged : (activateWithActor K E r db).2 = db
  same : ∀ receipt', (activateWithActor K E r db).1 = .ok receipt' →
    receipt' = receipt ∧ r.digest K = digest
  returns : r.digest K = digest → K.conforms (.supersessionActivationCommand r.command) = true →
    ∀ plan, getPlan db r.planId = .ok (some plan) →
    requireAuthorityMember db plan r.authorityMemberId = .ok () →
    (activateWithActor K E r db).1 = .ok receipt

theorem Receipted.replays {digest : String} (h : Receipted K db operationId digest receipt)
    (E : Surroundings) (r : ActivationRequest) (hid : r.command.operationId = operationId) :
    Replays K digest receipt E r db := by
  subst hid
  have hreplay := replayActivation_of h (r.digest K)
  -- a call that returns has replayed
  have hok : ∀ receipt' db', activateWithActor K E r db = (.ok receipt', db') →
      db' = db ∧ receipt' = receipt ∧ r.digest K = digest := by
    intro receipt' db' hrun
    obtain ⟨plan, -, -, ⟨hfound, rfl⟩ | ⟨hnone, -⟩⟩ := activateWithActor_ok hrun
    · rw [hreplay] at hfound
      split at hfound
      · next hdigest =>
          cases hfound
          exact ⟨rfl, rfl, hdigest.symm⟩
      · cases hfound
    · rw [hreplay] at hnone
      split at hnone <;> cases hnone
  refine ⟨?_, ?_, ?_⟩
  · rcases hrun : activateWithActor K E r db with ⟨e | receipt', db'⟩
    · exact activateWithActor_error hrun
    · exact (hok receipt' db' hrun).1
  · intro receipt' hrun
    exact (hok receipt' _ (Prod.ext hrun rfl)).2
  · intro hdigest hconforms plan hplan hauthority
    rw [if_pos hdigest.symm] at hreplay
    have honce : activateOnce K E r db = (.ok receipt, db) := by
      unfold activateOnce
      rw [bind_check_ok hplan]
      dsimp only
      rw [bind_check_ok hauthority, bind_check_ok hreplay]
      rfl
    unfold activateWithActor
    have hassert :
        K.assertExecutionCommand (.supersessionActivationCommand r.command) = .ok () := by
      simp [Contracts.assertExecutionCommand, hconforms]
    rw [bind_check_ok hassert, Tx.immediate_ok honce]

/-! ## The law -/

theorem writeActivation_superseded {E : Surroundings} {plan : PlanProjection} (h : PlanInv K s)
    (hplan : getPlan s r.planId = .ok (some plan)) (ha : Checked K E s r plan a)
    (hrun : writeActivation K r a now s = (.ok receipt, s')) :
    ∃ v, K.validateExecutionPlanDefinition a.definition = .ok v ∧
      Superseded K s s' plan a.definition v.topologicalOrder := by
  obtain ⟨s₁, rows, consumptions, hrevision, hcarry, -, -, -, rfl⟩ := writeActivation_ok hrun
  obtain ⟨-, -, -, -, hcarried, hreuse, -⟩ := writeRevision_evidence hrevision
  obtain ⟨v, hv, hordered⟩ := carried_ordered ha hcarry
  obtain ⟨plan', hplan', hnext, hcontrol⟩ := plan_advanced h hplan ha hrevision
  obtain ⟨hclaims, htasks⟩ := claims_advanced h hplan ha hrevision
  have hid := getPlan_id hplan
  refine ⟨v, hv, ⟨plan', ?_, hnext, hcontrol⟩, hclaims, htasks, rows, ?_, ?_, hordered, ?_, ?_⟩
  · rw [hid]
    exact hplan'
  · rw [← hcarried]
  · rw [← hreuse]
  · intro before row after hrows
    exact (carried_row h hplan ha hrevision hcarry hrows).1
  · intro w hw
    obtain ⟨row, hrow, hfrom, honly⟩ := carried_once h hplan ha hrevision hcarry hw
    refine ⟨row, hrow, hid ▸ hfrom, ?_⟩
    unfold carriedAt
    rw [hid, hcarried]
    exact honly

/-- **Supersession carries evidence completely, or changes nothing.** An activation that throws
leaves the tables as they were. A new one that returns carries every adopted gate once, in
topological order and after its inputs, and moves the plan and its claims by one revision. Ever
after, its operation id stands for its receipt: a repeated call changes nothing, returns no other
receipt and only for the same request, and does return it while the plan can be read and the
member it is for still has the authority. -/
theorem supersession_carries_or_keeps (K : Contracts) (E : Surroundings) (r : ActivationRequest)
    (db : ExecutionDb) (hreach : Reachable K db) :
    (∀ e db', activateWithActor K E r db = (.error e, db') → db' = db) ∧
    ∀ receipt db', activateWithActor K E r db = (.ok receipt, db') →
      (activationOf db r.command.operationId = none →
        ∃ plan candidate v w, getPlan db r.planId = .ok (some plan) ∧
          candidate ∈ db.candidates ∧ candidate.candidateId = r.command.candidateId ∧
          K.validateExecutionPlanDefinition candidate.definition = .ok v ∧
          K.validateExecutionPlanDefinition v.definition = .ok w ∧
          Superseded K db db' plan v.definition w.topologicalOrder) ∧
      ∀ later, Relation.ReflTransGen (Step K) db' later → ∀ E' r',
        r'.command.operationId = r.command.operationId →
        Replays K (r.digest K) receipt E' r' later := by
  have hinv := reachable_inv hreach
  refine ⟨fun e db' hrun => activateWithActor_error hrun, fun receipt db' hrun => ?_⟩
  obtain ⟨plan, hplan, -, ⟨hreplay, rfl⟩ | ⟨-, a, ha, hwrite⟩⟩ := activateWithActor_ok hrun
  · -- the call was a repetition itself
    have hreceipted : Receipted K db' r.command.operationId (r.digest K) receipt := by
      unfold replayActivation at hreplay
      split at hreplay
      · obtain ⟨_, -, hreplay⟩ := ok_of_except_bind hreplay
        cases hreplay
      · cases hreplay
      · next row found hrow hfound =>
          obtain ⟨_, hdigest, hreplay⟩ := ok_of_except_bind hreplay
          obtain ⟨_, hconforms, hreplay⟩ := ok_of_except_bind hreplay
          cases hreplay
          refine ⟨⟨row, hrow, require_ok.mp hdigest⟩, hfound, ?_⟩
          unfold Contracts.assertExecutionCommand at hconforms
          split at hconforms
          · next hyes => exact hyes
          · cases hconforms
    refine ⟨fun hnew => ?_, fun later hlater E' r' hid =>
      (hreceipted.later (steps_retain hlater)).replays E' r' hid⟩
    obtain ⟨row, hrow, -⟩ := hreceipted.activation
    rw [hnew] at hrow
    cases hrow
  · have hchecked := requireActivation_ok ha
    obtain ⟨v, hv, hdefinition⟩ := hchecked.validated
    obtain ⟨w, hw, hsuperseded⟩ := writeActivation_superseded hinv hplan hchecked hwrite
    rw [hdefinition] at hw hsuperseded
    refine ⟨fun _ => ⟨plan, a.candidate, v, w, hplan, hchecked.candidate, hchecked.candidateId, hv,
      hw, hsuperseded⟩, fun later hlater E' r' hid => ?_⟩
    exact ((writeActivation_retains hwrite).2.later (steps_retain hlater)).replays E' r' hid

/-! ## A small activation -/

def sampleRequest : ActivationRequest where
  planId := "plan_sample01"
  command := sampleCommand
  activatedBy := .agent "agent_sample01" "run_sample02"
  authorityMemberId := "member_sample01"
  delegationId := some "replan_sample01"

theorem sampleRequest_returns : ∃ receipt db',
    activateWithActor sampleContracts sampleSurroundings sampleRequest sampleProposed =
      (.ok receipt, db') := by
  have hreturns : (activateWithActor (sampleContracts.withValidator fun _ => .ok sampleValidated)
      sampleSurroundings sampleRequest sampleProposed).1.toOption.isSome = true := by
    decide +kernel
  rw [← activateWithActor_agree sampleProposed_agree] at hreturns
  rcases h : activateWithActor sampleContracts sampleSurroundings sampleRequest sampleProposed
    with ⟨e | receipt, db'⟩
  · rw [h] at hreturns
    cases hreturns
  · exact ⟨receipt, db', rfl⟩

/-- The sample has an adopted gate, and carries it. -/
theorem sampleRequest_carries :
    (adoptedAt sampleProposed "plan_sample01" 1).length = 1 ∧
    ∃ receipt db' plan definition order,
      activateWithActor sampleContracts sampleSurroundings sampleRequest sampleProposed =
        (.ok receipt, db') ∧
      Superseded sampleContracts sampleProposed db' plan definition order ∧
      Replays sampleContracts (sampleRequest.digest sampleContracts) receipt sampleSurroundings
        sampleRequest db' := by
  refine ⟨by decide +kernel, ?_⟩
  obtain ⟨receipt, db', hrun⟩ := sampleRequest_returns
  obtain ⟨hnew, hlater⟩ := (supersession_carries_or_keeps sampleContracts sampleSurroundings
    sampleRequest sampleProposed sampleProposed_reachable).2 receipt db' hrun
  obtain ⟨plan, candidate, v, w, -, -, -, -, -, hsuperseded⟩ := hnew (by decide +kernel)
  exact ⟨receipt, db', plan, v.definition, w.topologicalOrder, hrun, hsuperseded,
    hlater db' .refl sampleSurroundings sampleRequest rfl⟩

/-- A call that returns found the root Task open. -/
theorem requireAuthorityMember_root {plan : PlanProjection} {memberId : String}
    (h : requireAuthorityMember db plan memberId = .ok ()) :
    ∃ root ∈ db.tasks, root.lifecycleState ≠ .canceled := by
  unfold requireAuthorityMember at h
  obtain ⟨root, hroot, -⟩ := ok_of_except_bind h
  unfold requireRoot at hroot
  cases htask : getTask db plan.rootTaskId with
  | none =>
    rw [htask] at hroot
    cases hroot
  | some task =>
    rw [htask] at hroot
    obtain ⟨_, hopen, hroot⟩ := ok_of_except_bind hroot
    cases hroot
    exact ⟨_, List.mem_of_find?_eq_some htask, (require_ok.mp hopen).2.2.2⟩

/-- **A repetition need not return the receipt**: the root Task may have been canceled since. -/
theorem repeated_supersession_refused :
    ¬∀ (E : Surroundings) (r : ActivationRequest) (db db' later : ExecutionDb)
      (receipt : ActivationReceipt), Reachable sampleContracts db →
      activateWithActor sampleContracts E r db = (.ok receipt, db') →
      Relation.ReflTransGen (Step sampleContracts) db' later →
      activateWithActor sampleContracts E r later = (.ok receipt, later) := by
  intro hclaim
  obtain ⟨receipt, db', hrun⟩ := sampleRequest_returns
  have hinv : PlanInv sampleContracts db' := by
    have hkept := activateWithActor_inv (r := sampleRequest) (E := sampleSurroundings)
      (reachable_inv sampleProposed_reachable)
    rwa [hrun] at hkept
  let later : ExecutionDb := { db' with
    tasks := db'.tasks.map fun t => { t with lifecycleState := .canceled } }
  have hstep : Step sampleContracts db' later :=
    .elsewhere ⟨rfl, rfl, rfl, rfl, rfl, rfl, rfl, rfl, rfl, rfl, rfl,
      hinv.evidence.mono rfl rfl rfl fun _ hn => hn⟩
  have hrepeat := hclaim sampleSurroundings sampleRequest sampleProposed db' later receipt
    sampleProposed_reachable hrun (.single hstep)
  obtain ⟨plan, -, hauthority, -⟩ := activateWithActor_ok hrepeat
  obtain ⟨root, hroot, hopen⟩ := requireAuthorityMember_root hauthority
  obtain ⟨t, -, rfl⟩ := List.mem_map.mp hroot
  exact hopen rfl

end AgentRoom.Execution
