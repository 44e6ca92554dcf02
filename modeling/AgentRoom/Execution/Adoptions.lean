import AgentRoom.Execution.PlanInvariant

/-!
# Adoptions and how they are read

Ids tell adoptions apart, whichever table they are in; an adopted materialization is that of an
adoption; and what is read of an adoption stays as it is while others are carried.
-/

namespace AgentRoom.Execution

open Plan (Gate)

variable {K : Contracts} {s : ExecutionDb}

def allAdoptions (db : ExecutionDb) : List EvidenceAdoption :=
  ownAdoptions db ++ db.carriedAdoptions.map (·.adoption)

variable {db : ExecutionDb} {a : EvidenceAdoption}

theorem carryable_subset (h : a ∈ carryable db) :
    a ∈ allAdoptions db := by
  unfold carryable at h
  unfold allAdoptions ownAdoptions
  rcases List.mem_append.mp h with h | h
  · exact List.mem_append_left _ (List.mem_append_left _ h)
  · exact List.mem_append_right _ h

/-- **An id has one adoption.** -/
theorem PlanInv.adoption_unique (h : PlanInv K s) {b : EvidenceAdoption} (ha : a ∈ allAdoptions s)
    (hb : b ∈ allAdoptions s) (hid : a.adoptionId = b.adoptionId) : a = b := by
  -- an id made elsewhere is no id of a carry
  have hcross : ∀ x ∈ ownAdoptions s, ∀ y ∈ s.carriedAdoptions.map (·.adoption),
      x.adoptionId ≠ y.adoptionId := by
    intro x hx y hy heq
    obtain ⟨c, hc, rfl⟩ := List.mem_map.mp hy
    obtain ⟨operationId, sourceId, nodeKey, hform⟩ := h.carryIds c hc
    exact h.evidence.apart x hx operationId sourceId nodeKey (heq.trans hform)
  rcases List.mem_append.mp ha with ha | ha <;> rcases List.mem_append.mp hb with hb | hb
  · exact List.inj_on_of_nodup_map h.evidence.ids ha hb hid
  · exact absurd hid (hcross a ha b hb)
  · exact absurd hid.symm (hcross b hb a ha)
  · obtain ⟨c, hc, rfl⟩ := List.mem_map.mp ha
    obtain ⟨d, hd, rfl⟩ := List.mem_map.mp hb
    rw [List.inj_on_of_nodup_map h.carriedIds hc hd hid]

/-- What an adopted materialization says of its adoption. -/
structure AdoptedMaterialization.Of (v : AdoptedMaterialization) (a : EvidenceAdoption) :
    Prop where
  adoptionId : v.adoptionId = a.adoptionId
  adoptionDigest : v.adoptionDigest = a.adoptionDigest
  planId : v.planId = a.planId
  planRevision : v.planRevision = a.planRevision
  nodeKey : v.nodeKey = a.nodeKey
  gate : v.gate = a.gate
  sourceEvidenceId : v.sourceEvidenceId = a.sourceEvidenceId
  sourceDigest : v.sourceDigest = a.sourceDigest

variable {v : AdoptedMaterialization}

theorem localView_of {row : LocalAdoption} (h : v ∈ localView db row) : v.Of row.adoption := by
  unfold localView at h
  split at h
  · obtain ⟨m, hm, rfl⟩ := List.mem_map.mp h
    have hkey := (List.mem_filter.mp hm).2
    simp only [decide_eq_true_eq] at hkey
    obtain ⟨hplan, hrevision, hnode, hgate, -⟩ := hkey
    exact ⟨rfl, rfl, hplan, hrevision, hnode, hgate, rfl, rfl⟩
  · cases h

theorem remoteView_of (h : v ∈ remoteView db a) : v.Of a := by
  unfold remoteView at h
  split at h
  · split at h
    · obtain rfl := List.mem_singleton.mp h
      exact ⟨rfl, rfl, rfl, rfl, rfl, rfl, rfl, rfl⟩
    · cases h
  · cases h

theorem carriedView_of (h : v ∈ carriedView db a) : v.Of a := by
  unfold carriedView at h
  split at h
  · obtain rfl := List.mem_singleton.mp h
    exact ⟨rfl, rfl, rfl, rfl, rfl, rfl, rfl, rfl⟩
  · cases h

/-- **Every adopted materialization is that of an adoption.** -/
theorem allAdopted_of (h : v ∈ allAdopted db) :
    ∃ a ∈ allAdoptions db, v.Of a := by
  unfold allAdopted at h
  unfold allAdoptions ownAdoptions
  rcases List.mem_append.mp h with h | h
  · rcases List.mem_append.mp h with h | h
    · obtain ⟨row, hrow, hv⟩ := List.mem_flatMap.mp h
      exact ⟨row.adoption, List.mem_append_left _ (List.mem_append_left _
        (List.mem_map_of_mem hrow)), localView_of hv⟩
    · obtain ⟨a, ha, hv⟩ := List.mem_flatMap.mp h
      exact ⟨a, List.mem_append_left _ (List.mem_append_right _ ha), remoteView_of hv⟩
  · obtain ⟨row, hrow, hv⟩ := List.mem_flatMap.mp h
    exact ⟨row.adoption, List.mem_append_right _ (List.mem_map_of_mem hrow), carriedView_of hv⟩

theorem PlanInv.adoption_node (h : PlanInv K s) (ha : a ∈ allAdoptions s) : ∃ n ∈ s.nodes,
      n.planId = a.planId ∧ n.revision = a.planRevision ∧ n.nodeKey = a.nodeKey := by
  rcases List.mem_append.mp ha with ha | ha
  · exact h.evidence.compiled a ha
  · obtain ⟨c, hc, rfl⟩ := List.mem_map.mp ha
    exact h.carried c hc

/-! ## Reads -/

variable {adoptionId : String} {reuse : EvidenceReuseContract}

theorem getReuse_ok (h : getReuse K db adoptionId = .ok (some reuse)) :
    (db.reuseContracts ++ db.carriedReuse.map (·.contract)).find?
      (fun r => r.adoptionId = adoptionId) = some reuse := by
  unfold getReuse at h
  cases hfind : (db.reuseContracts ++ db.carriedReuse.map (·.contract)).find?
      (fun r => r.adoptionId = adoptionId) with
  | none =>
    rw [hfind] at h
    cases h
  | some found =>
    rw [hfind] at h
    obtain ⟨_, -, h⟩ := ok_of_except_bind h
    cases h
    rfl

theorem carrySource_ok {source : EvidenceAdoption}
    (h : carrySource K db adoptionId = .ok (some (source, reuse))) :
    (carryable db).find? (fun a => a.adoptionId = adoptionId) = some source ∧
      (db.reuseContracts ++ db.carriedReuse.map (·.contract)).find?
        (fun r => r.adoptionId = source.adoptionId) = some reuse := by
  unfold carrySource at h
  cases hfind : (carryable db).find? (fun a => a.adoptionId = adoptionId) with
  | none =>
    rw [hfind] at h
    cases h
  | some found =>
    rw [hfind] at h
    obtain ⟨_, -, h⟩ := ok_of_except_bind h
    obtain ⟨_, -, h⟩ := ok_of_except_bind h
    obtain ⟨contract, hcontract, h⟩ := ok_of_except_bind h
    cases contract with
    | none => cases h
    | some contract =>
      cases h
      exact ⟨rfl, getReuse_ok hcontract⟩

theorem find?_append_left {α : Type} {p : α → Bool} {l r : List α} {a : α}
    (h : l.find? p = some a) : (l ++ r).find? p = some a := by
  rw [List.find?_append, h]
  rfl

/-- A source that is there is the same source while others are carried. -/
theorem carrySource_carrying {found found' : EvidenceAdoption × EvidenceReuseContract}
    (rows : List (CarriedAdoption × CarriedReuse))
    (h : carrySource K s adoptionId = .ok (some found))
    (h' : carrySource K (rows.foldl ExecutionDb.carrying s) adoptionId = .ok (some found')) :
    found' = found := by
  obtain ⟨source, reuse⟩ := found
  obtain ⟨source', reuse'⟩ := found'
  obtain ⟨hsource, hreuse⟩ := carrySource_ok h
  obtain ⟨hsource', hreuse'⟩ := carrySource_ok h'
  rw [foldl_carrying] at hsource' hreuse'
  have hcarryable : carryable { s with
      carriedAdoptions := s.carriedAdoptions ++ rows.map (·.1)
      carriedReuse := s.carriedReuse ++ rows.map (·.2) } =
        carryable s ++ (rows.map (·.1)).map (·.adoption) := by
    simp [carryable]
  rw [hcarryable, find?_append_left hsource] at hsource'
  obtain rfl := Option.some.inj hsource'
  simp only [List.map_append, ← List.append_assoc] at hreuse'
  rw [find?_append_left hreuse] at hreuse'
  obtain rfl := Option.some.inj hreuse'
  rfl

theorem requireCarrySource_ok {planId : String} {candidateRevision : Nat}
    {selection : CarrySelection} {source : EvidenceAdoption} {authority : LocalAuthority}
    (h : requireCarrySource K db planId candidateRevision selection =
      .ok (source, reuse, authority)) :
    carrySource K db selection.sourceAdoptionId = .ok (some (source, reuse)) ∧
      source.planId = planId ∧ source.planRevision + 1 = candidateRevision ∧
      source.adoptionDigest = selection.sourceAdoptionDigest ∧ source.gate = selection.gate := by
  unfold requireCarrySource at h
  obtain ⟨found, hfound, h⟩ := ok_of_except_bind h
  cases found with
  | none => cases h
  | some found =>
    obtain ⟨adoption, contract⟩ := found
    dsimp only at h
    cases hlocal : adoption.authority.service.local? with
    | none =>
      rw [hlocal] at h
      cases h
    | some held =>
      rw [hlocal] at h
      obtain ⟨_, hrequire, h⟩ := ok_of_except_bind h
      cases h
      obtain ⟨hplan, hrevision, hdigest, hgate, -⟩ := require_ok.mp hrequire
      exact ⟨hfound, hplan, hrevision, hdigest, hgate⟩

/-! ## The carries one by one -/

section Run

variable {K : Contracts} {input : CarryStep → CarryInput} {s : ExecutionDb}
  {steps : List CarryStep} {rows : List (CarriedAdoption × CarriedReuse)}

theorem CarryRun.of_step (hrun : CarryRun K input s steps rows) (h : PlanInv K s)
    {step : CarryStep} (hstep : step ∈ steps) : ∃ before row after, rows = before ++ row :: after ∧
      PlanInv K (before.foldl ExecutionDb.carrying s) ∧
      Carries K (input step) (before.foldl ExecutionDb.carrying s) row := by
  induction hrun with
  | nil s => cases hstep
  | cons first rest ih =>
    rcases List.mem_cons.mp hstep with rfl | hstep
    · exact ⟨[], _, _, rfl, h, first⟩
    · obtain ⟨before, row, after, rfl, hinv, hcarries⟩ := ih (h.carrying first) hstep
      exact ⟨_ :: before, row, after, rfl, hinv, hcarries⟩

/-- The step of a carry. -/
theorem CarryRun.of_row (hrun : CarryRun K input s steps rows) (h : PlanInv K s)
    {before after : List (CarriedAdoption × CarriedReuse)} {row : CarriedAdoption × CarriedReuse}
    (hrows : rows = before ++ row :: after) : ∃ step ∈ steps,
      PlanInv K (before.foldl ExecutionDb.carrying s) ∧
      Carries K (input step) (before.foldl ExecutionDb.carrying s) row := by
  induction hrun generalizing before with
  | nil s => simp at hrows
  | @cons s step steps first rows hfirst rest ih =>
    cases before with
    | nil =>
      obtain ⟨rfl, -⟩ := List.cons.inj hrows
      exact ⟨step, by simp, h, hfirst⟩
    | cons other before =>
      obtain ⟨rfl, hrest⟩ := List.cons.inj hrows
      obtain ⟨found, hfound, hinv, hcarries⟩ := ih (h.carrying hfirst) hrest
      exact ⟨found, by simp [hfound], hinv, hcarries⟩

theorem CarryRun.nodeKeys (hrun : CarryRun K input s steps rows)
    (hinput : ∀ step, (input step).step = step) :
    rows.map (·.1.adoption.nodeKey) = steps.map (·.node.nodeKey) := by
  induction hrun with
  | nil s => rfl
  | @cons s step steps first rows hfirst rest ih =>
    obtain ⟨source, reuse, authority, -, -, hadoption, -⟩ := hfirst.rests
    rw [List.map_cons, List.map_cons, ih, hadoption]
    congr 1
    show (input step).step.node.nodeKey = step.node.nodeKey
    rw [hinput]

end Run

end AgentRoom.Execution
