import AgentRoom.Plan.Graph

/-!
# The normal form

The key each list is sorted by tells its entries apart in a definition that passed the checks, so
definitions that are the same up to order have one normal form, and everything the validator
returns is read off it or off the graph, in which the order is lost as well.
-/

namespace AgentRoom.Plan

open Contracts (Doubles unitsLe integerDoubles)

/-! ## Orders of keys -/

theorem unitsOf_injective : Function.Injective unitsOf := by
  intro a b h
  exact String.toList_inj.mp (Utf16.encode_injective h)

instance : Std.Antisymm textLe :=
  ⟨fun _ _ hab hba => unitsOf_injective (Std.Antisymm.antisymm _ _ hab hba)⟩

theorem textLe_trans {a b c : String} (h : textLe a b) (h' : textLe b c) : textLe a c :=
  IsTrans.trans a b c h h'

theorem textLe_antisymm {a b : String} (h : textLe a b) (h' : textLe b a) : a = b :=
  Std.Antisymm.antisymm a b h h'

instance keyLe_trans {α : Type} (key : α → String) :
    IsTrans α fun a b => textLe (key a) (key b) := ⟨fun _ _ _ => textLe_trans⟩

instance keyLe_total {α : Type} (key : α → String) :
    Std.Total fun a b : α => textLe (key a) (key b) :=
  ⟨fun a b => Std.Total.total (key a) (key b)⟩

theorem pairLe_trans {a b c : String × String} (h : pairLe a b) (h' : pairLe b c) :
    pairLe a c := by
  unfold pairLe at *
  by_cases hab : a.1 = b.1
  · rw [if_pos hab] at h
    by_cases hbc : b.1 = c.1
    · rw [if_pos hbc] at h'
      rw [if_pos (hab.trans hbc)]
      exact textLe_trans h h'
    · rw [if_neg hbc, ← hab] at h'
      rw [if_neg (by rwa [hab])]
      exact h'
  · rw [if_neg hab] at h
    by_cases hbc : b.1 = c.1
    · rw [if_neg (by rwa [← hbc]), ← hbc]
      exact h
    · rw [if_neg hbc] at h'
      have hac : a.1 ≠ c.1 := by
        intro heq
        rw [← heq] at h'
        exact hab (textLe_antisymm h h')
      rw [if_neg hac]
      exact textLe_trans h h'

theorem pairLe_total (a b : String × String) : pairLe a b ∨ pairLe b a := by
  unfold pairLe
  by_cases hab : a.1 = b.1
  · rw [if_pos hab, if_pos hab.symm]
    exact Std.Total.total a.2 b.2
  · rw [if_neg hab, if_neg (Ne.symm hab)]
    exact Std.Total.total a.1 b.1

theorem pairLe_antisymm {a b : String × String} (h : pairLe a b) (h' : pairLe b a) : a = b := by
  unfold pairLe at *
  by_cases hab : a.1 = b.1
  · rw [if_pos hab] at h
    rw [if_pos hab.symm] at h'
    exact Prod.ext hab (textLe_antisymm h h')
  · rw [if_neg hab] at h
    rw [if_neg (Ne.symm hab)] at h'
    exact absurd (textLe_antisymm h h') hab

instance pairKeyLe_trans {α : Type} (key : α → String × String) :
    IsTrans α fun a b => pairLe (key a) (key b) := ⟨fun _ _ _ => pairLe_trans⟩

instance pairKeyLe_total {α : Type} (key : α → String × String) :
    Std.Total fun a b : α => pairLe (key a) (key b) := ⟨fun a b => pairLe_total (key a) (key b)⟩

/-! ## Sorting by a key -/

variable {α : Type} {xs ys : List α}

theorem sortBy_eq {key : α → String} (h : xs.Perm ys) (hkeys : (xs.map key).Nodup) :
    sortBy key xs = sortBy key ys :=
  Unordered.insertionSort_perm h fun _ ha _ hb hab hba =>
    List.inj_on_of_nodup_map hkeys ha hb (textLe_antisymm hab hba)

theorem sortPairs_eq {key : α → String × String} (h : xs.Perm ys) (hkeys : (xs.map key).Nodup) :
    (xs.insertionSort fun a b => pairLe (key a) (key b)) =
      ys.insertionSort fun a b => pairLe (key a) (key b) :=
  Unordered.insertionSort_perm h fun _ ha _ hb hab hba =>
    List.inj_on_of_nodup_map hkeys ha hb (pairLe_antisymm hab hba)

theorem sortPaths_eq {xs ys : List String} (h : xs.Perm ys) : sortBy id xs = sortBy id ys :=
  Unordered.insertionSort_perm h fun _ _ _ _ => textLe_antisymm

theorem sortCriteria_eq {xs ys : List Criterion} (h : xs.Perm ys)
    (hordinals : (sortCriteria xs).map (·.ordinal) = List.range' 1 xs.length) :
    sortCriteria xs = sortCriteria ys := by
  have hnodup : (xs.map (·.ordinal)).Nodup := by
    rw [← ((sortCriteria_perm xs).map _).nodup_iff, hordinals]
    exact List.nodup_range'
  have htrans : IsTrans Criterion fun a b => a.ordinal ≤ b.ordinal := ⟨fun _ _ _ => Nat.le_trans⟩
  have htotal : Std.Total fun a b : Criterion => a.ordinal ≤ b.ordinal :=
    ⟨fun a b => Nat.le_total a.ordinal b.ordinal⟩
  exact Unordered.insertionSort_perm h fun _ ha _ hb hab hba =>
    List.inj_on_of_nodup_map hnodup ha hb (Nat.le_antisymm hab hba)

theorem sortBy_map_eq {r : α → α → Prop} {key : α → String} {f : α → α} (h : Unordered.Same r xs ys)
    (hkeys : (xs.map key).Nodup) (hkey : ∀ a, key (f a) = key a)
    (hf : ∀ a ∈ xs, ∀ b, r a b → f a = f b) :
    (sortBy key xs).map f = (sortBy key ys).map f := by
  refine Unordered.Same.sort h.with_mem (fun a b hr => hf a hr.2 b hr.1) (fun a b => ?_) ?_
  · rw [hkey, hkey]
  · intro a ha b hb hab hba
    exact List.inj_on_of_nodup_map hkeys ha hb (textLe_antisymm hab hba)

/-! ## One normal form -/

theorem normalizeTask_eq {a b : NodeTask} (h : a.Same b) {rootTaskId : String}
    (hok : TaskOk a rootTaskId) : normalizeTask a = normalizeTask b := by
  cases h with
  | existing task => rfl
  | @new task criteria h =>
    unfold normalizeTask
    dsimp only
    rw [sortCriteria_eq h hok.ordinals]

theorem normalizeNode_eq {a b : PlanNode} (h : a.Same b) {rootTaskId : String}
    (hok : NodeOk rootTaskId a) : normalizeNode a = normalizeNode b := by
  unfold normalizeNode
  dsimp only
  rw [h.nodeKey, h.kind, h.required, normalizeTask_eq h.task hok.task, h.agentId, h.repository,
    h.scope.access, h.scope.enforcement, sortPaths_eq h.scope.allowedPaths,
    sortPaths_eq h.scope.forbiddenPaths, h.budget, sortBy_eq h.verificationProfiles hok.profiles,
    sortBy_eq h.inputs hok.inputs, sortBy_eq h.outputs hok.outputs]

theorem normalizeEdge_eq {a b : PlanEdge} (h : a.Same b)
    (hkeys : (a.bindings.map (·.inputSlot)).Nodup) : normalizeEdge a = normalizeEdge b := by
  unfold normalizeEdge
  rw [h.edgeKey, h.fromNodeKey, h.toNodeKey, h.gate, sortBy_eq h.bindings hkeys]

section Definition

variable {D : Doubles} {a b : PlanDefinition}

theorem PlanOk.bindingKeys (hok : PlanOk D a) {e : PlanEdge} (he : e ∈ a.edges) :
    (e.bindings.map (·.inputSlot)).Nodup := by
  have hinputs : (edgeInputs e).Nodup :=
    (List.nodup_flatMap.mp (List.nodup_append.mp hok.producers).1).1 e he
  unfold edgeInputs at hinputs
  have hmap : e.bindings.map (fun b => inputIdentity e.toNodeKey b.inputSlot) =
      (e.bindings.map (·.inputSlot)).map (inputIdentity e.toNodeKey) := by
    rw [List.map_map]
    rfl
  rw [hmap] at hinputs
  exact List.Nodup.of_map _ hinputs

theorem PlanOk.externalKeys (hok : PlanOk D a) :
    (a.externalInputs.map fun i => (i.nodeKey, i.inputSlot)).Nodup := by
  have hinputs := (List.nodup_append.mp hok.producers).2.1
  have hmap : a.externalInputs.map externalInput =
      (a.externalInputs.map fun i => (i.nodeKey, i.inputSlot)).map
        fun p => inputIdentity p.1 p.2 := by
    rw [List.map_map]
    rfl
  rw [hmap] at hinputs
  exact List.Nodup.of_map _ hinputs

theorem PlanOk.targetPairs (hok : PlanOk D a) :
    (a.policy.integrationTargets.map fun t => (t.repositoryId, t.targetRef)).Nodup := by
  have hkeys := hok.targetKeys
  have hmap : a.policy.integrationTargets.map targetIdentity =
      (a.policy.integrationTargets.map fun t => (t.repositoryId, t.targetRef)).map
        fun p => p.1 ++ "/" ++ p.2 := by
    rw [List.map_map]
    rfl
  rw [hmap] at hkeys
  exact List.Nodup.of_map _ hkeys

/-- **Definitions that are the same up to order have one normal form.** -/
theorem normalizeDefinition_eq (h : a.Same b) (hok : PlanOk D a) :
    normalizeDefinition a = normalizeDefinition b := by
  have hnodes : (sortBy (·.nodeKey) a.nodes).map normalizeNode =
      (sortBy (·.nodeKey) b.nodes).map normalizeNode :=
    sortBy_map_eq h.nodes hok.nodes.keys (fun _ => rfl)
      fun n hn _ hr => normalizeNode_eq hr (hok.each n hn)
  have hedges : (sortBy (·.edgeKey) a.edges).map normalizeEdge =
      (sortBy (·.edgeKey) b.edges).map normalizeEdge :=
    sortBy_map_eq h.edges hok.nodes.edgeKeys (fun _ => rfl)
      fun e he _ hr => normalizeEdge_eq hr (hok.bindingKeys he)
  unfold normalizeDefinition
  dsimp only
  rw [h.schemaVersion, h.rootTaskId, h.title, h.decision.summary,
    sortBy_eq h.decision.items hok.decision.items,
    sortBy_eq h.decision.sources hok.decision.sources,
    sortBy_eq h.decision.sourceRevisions hok.decision.revisions,
    sortBy_eq h.decision.unresolvedQuestions hok.decision.questions, hnodes, hedges,
    sortPairs_eq h.externalInputs hok.externalKeys, h.policy.maxConcurrency, h.policy.budget,
    h.policy.integration, h.policy.approval,
    sortPairs_eq h.policy.integrationTargets hok.targetPairs]

/-! ## One result -/

theorem PlanDefinition.Same.precedes (h : a.Same b) {u v : String} (hedge : Precedes a u v) :
    Precedes b u v := by
  obtain ⟨e, he, hfrom, hto⟩ := hedge
  obtain ⟨e', he', hsame⟩ := h.edges.exists_right he
  exact ⟨e', he', hsame.fromNodeKey ▸ hfrom, hsame.toNodeKey ▸ hto⟩

theorem PlanDefinition.Same.acyclic (h : a.Same b) (hacyclic : Acyclic a) : Acyclic b := by
  intro key hcycle
  have hle : Precedes b ≤ Precedes a := fun _ _ hedge => h.symm.precedes hedge
  exact hacyclic key (Relation.TransGen.mono hle key key hcycle)

theorem PlanDefinition.Same.outgoing (h : a.Same b) (u : String) :
    ((graphOf a).outgoing u).Perm ((graphOf b).outgoing u) := by
  have hpairs : (a.edges.map fun e => (e.fromNodeKey, e.toNodeKey)).Perm
      (b.edges.map fun e => (e.fromNodeKey, e.toNodeKey)) :=
    h.edges.map fun _ _ hr => by rw [hr.fromNodeKey, hr.toNodeKey]
  have hperm := (hpairs.filter (·.1 = u)).map (·.2)
  rw [List.filter_map, List.filter_map, List.map_map, List.map_map] at hperm
  rw [outgoing_eq, outgoing_eq]
  exact hperm

/-- **The order of the lists is forgotten by the order of the nodes.** -/
theorem PlanDefinition.Same.order (h : a.Same b) :
    topologicalOrder a (graphOf a) = topologicalOrder b (graphOf b) := by
  have hindegree : (graphOf a).indegree = (graphOf b).indegree := by
    funext k
    rw [indegree_eq, indegree_eq, (h.edges.map fun _ _ hr => hr.toNodeKey).count_eq]
  have hkeys := h.nodes.map fun _ _ hr => hr.nodeKey
  unfold topologicalOrder
  rw [Kahn.run_perm h.outgoing, Kahn.start_perm hkeys, hindegree, h.nodes.length_eq]

theorem validated_eq (sha256 : List UInt8 → String) (h : a.Same b) (hok : PlanOk D a) :
    validated D sha256 a = validated D sha256 b := by
  unfold validated
  rw [normalizeDefinition_eq h hok, h.order]

/-- **What the validator returns does not depend on the order of the lists.** -/
theorem validate_same {sha256 : List UInt8 → String} {r : Validated} (h : a.Same b)
    (hr : validateExecutionPlanDefinition D sha256 a = .ok r) :
    validateExecutionPlanDefinition D sha256 b = .ok r := by
  obtain ⟨hok, hacyclic, rfl⟩ := validate_ok.mp hr
  exact validate_ok.mpr ⟨h.ok hok, h.acyclic hacyclic, validated_eq sha256 h hok⟩

end Definition

end AgentRoom.Plan
