import AgentRoom.Plan.Checks
import AgentRoom.Contracts.Rearrangement

/-!
# Definitions that differ in the order of their lists

Two definitions are the same up to order when one becomes the other by permuting its lists, and
the lists of its decision, nodes and edges. Every check reads the lists as sets, so it passes both
or neither.
-/

namespace AgentRoom.Plan

open Contracts (Doubles JsValue canonicalExecutionJSON canonicalValue bind_eq_ok)
open JsonValue (Rearranged)

/-! ## The relation -/

/-- The same decision, its lists in any order. -/
structure DecisionContent.Same (a b : DecisionContent) : Prop where
  summary : a.summary = b.summary
  items : a.items.Perm b.items
  unresolvedQuestions : a.unresolvedQuestions.Perm b.unresolvedQuestions
  sources : a.sources.Perm b.sources
  sourceRevisions : a.sourceRevisions.Perm b.sourceRevisions

/-- The same task, its criteria in any order. -/
inductive NodeTask.Same : NodeTask → NodeTask → Prop where
  | new {task : NewTask} {criteria : List Criterion} (h : task.criteria.Perm criteria) :
      Same (.new task) (.new { task with criteria })
  | existing (task : ExistingTask) : Same (.existing task) (.existing task)

structure ScopePolicy.Same (a b : ScopePolicy) : Prop where
  access : a.access = b.access
  enforcement : a.requirePreventivePathEnforcement = b.requirePreventivePathEnforcement
  allowedPaths : a.allowedPaths.Perm b.allowedPaths
  forbiddenPaths : a.forbiddenPaths.Perm b.forbiddenPaths

/-- The same node, its lists in any order. -/
structure PlanNode.Same (a b : PlanNode) : Prop where
  nodeKey : a.nodeKey = b.nodeKey
  kind : a.kind = b.kind
  required : a.required = b.required
  task : a.task.Same b.task
  agentId : a.agentId = b.agentId
  repository : a.repository = b.repository
  scope : a.scope.Same b.scope
  budget : a.budget = b.budget
  verificationProfiles : a.verificationProfiles.Perm b.verificationProfiles
  inputs : a.inputs.Perm b.inputs
  outputs : a.outputs.Perm b.outputs

/-- The same edge, its bindings in any order. -/
structure PlanEdge.Same (a b : PlanEdge) : Prop where
  edgeKey : a.edgeKey = b.edgeKey
  fromNodeKey : a.fromNodeKey = b.fromNodeKey
  toNodeKey : a.toNodeKey = b.toNodeKey
  gate : a.gate = b.gate
  bindings : a.bindings.Perm b.bindings

structure PlanPolicy.Same (a b : PlanPolicy) : Prop where
  maxConcurrency : a.maxConcurrency = b.maxConcurrency
  budget : a.budget = b.budget
  integration : a.integration = b.integration
  approval : a.requireHumanIntegrationApproval = b.requireHumanIntegrationApproval
  integrationTargets : a.integrationTargets.Perm b.integrationTargets

/-- **The same definition up to the order of its lists.** -/
structure PlanDefinition.Same (a b : PlanDefinition) : Prop where
  schemaVersion : a.schemaVersion = b.schemaVersion
  rootTaskId : a.rootTaskId = b.rootTaskId
  title : a.title = b.title
  decision : a.decision.Same b.decision
  nodes : Unordered.Same PlanNode.Same a.nodes b.nodes
  edges : Unordered.Same PlanEdge.Same a.edges b.edges
  externalInputs : a.externalInputs.Perm b.externalInputs
  policy : a.policy.Same b.policy

/-! ## It is an equivalence -/

theorem NodeTask.Same.symm {a b : NodeTask} (h : a.Same b) : b.Same a := by
  cases h with
  | @new task criteria h => exact @NodeTask.Same.new { task with criteria } task.criteria h.symm
  | existing task => exact .existing task

theorem NodeTask.Same.trans {a b c : NodeTask} (h : a.Same b) (h' : b.Same c) : a.Same c := by
  cases h with
  | new h =>
    cases h' with
    | new h' => exact .new (h.trans h')
  | existing task => exact h'

theorem ScopePolicy.Same.symm {a b : ScopePolicy} (h : a.Same b) : b.Same a :=
  ⟨h.1.symm, h.2.symm, h.3.symm, h.4.symm⟩

theorem ScopePolicy.Same.trans {a b c : ScopePolicy} (h : a.Same b) (h' : b.Same c) : a.Same c :=
  ⟨h.1.trans h'.1, h.2.trans h'.2, h.3.trans h'.3, h.4.trans h'.4⟩

theorem PlanNode.Same.symm {a b : PlanNode} (h : a.Same b) : b.Same a :=
  ⟨h.1.symm, h.2.symm, h.3.symm, h.4.symm, h.5.symm, h.6.symm, h.7.symm, h.8.symm, h.9.symm,
    h.10.symm, h.11.symm⟩

theorem PlanNode.Same.trans {a b c : PlanNode} (h : a.Same b) (h' : b.Same c) : a.Same c :=
  ⟨h.1.trans h'.1, h.2.trans h'.2, h.3.trans h'.3, h.4.trans h'.4, h.5.trans h'.5,
    h.6.trans h'.6, h.7.trans h'.7, h.8.trans h'.8, h.9.trans h'.9, h.10.trans h'.10,
    h.11.trans h'.11⟩

theorem PlanEdge.Same.symm {a b : PlanEdge} (h : a.Same b) : b.Same a :=
  ⟨h.1.symm, h.2.symm, h.3.symm, h.4.symm, h.5.symm⟩

theorem PlanEdge.Same.trans {a b c : PlanEdge} (h : a.Same b) (h' : b.Same c) : a.Same c :=
  ⟨h.1.trans h'.1, h.2.trans h'.2, h.3.trans h'.3, h.4.trans h'.4, h.5.trans h'.5⟩

theorem DecisionContent.Same.symm {a b : DecisionContent} (h : a.Same b) : b.Same a :=
  ⟨h.1.symm, h.2.symm, h.3.symm, h.4.symm, h.5.symm⟩

theorem DecisionContent.Same.trans {a b c : DecisionContent} (h : a.Same b) (h' : b.Same c) :
    a.Same c :=
  ⟨h.1.trans h'.1, h.2.trans h'.2, h.3.trans h'.3, h.4.trans h'.4, h.5.trans h'.5⟩

theorem PlanPolicy.Same.symm {a b : PlanPolicy} (h : a.Same b) : b.Same a :=
  ⟨h.1.symm, h.2.symm, h.3.symm, h.4.symm, h.5.symm⟩

theorem PlanPolicy.Same.trans {a b c : PlanPolicy} (h : a.Same b) (h' : b.Same c) : a.Same c :=
  ⟨h.1.trans h'.1, h.2.trans h'.2, h.3.trans h'.3, h.4.trans h'.4, h.5.trans h'.5⟩

theorem PlanDefinition.Same.symm {a b : PlanDefinition} (h : a.Same b) : b.Same a :=
  ⟨h.1.symm, h.2.symm, h.3.symm, h.4.symm, h.5.symm fun _ _ => PlanNode.Same.symm,
    h.6.symm fun _ _ => PlanEdge.Same.symm, h.7.symm, h.8.symm⟩

theorem PlanDefinition.Same.trans {a b c : PlanDefinition} (h : a.Same b) (h' : b.Same c) :
    a.Same c :=
  ⟨h.1.trans h'.1, h.2.trans h'.2, h.3.trans h'.3, h.4.trans h'.4,
    h.5.trans (fun _ _ _ => PlanNode.Same.trans) h'.5,
    h.6.trans (fun _ _ _ => PlanEdge.Same.trans) h'.6, h.7.trans h'.7, h.8.trans h'.8⟩

/-! ## The schema -/

variable {α : Type} {minimum maximum : Nat} {item : α → Bool} {xs ys : List α}

theorem itemsWithin_same {r : α → α → Prop} (h : Unordered.Same r xs ys)
    (hitem : ∀ a b, r a b → item a = item b) :
    itemsWithin minimum maximum item xs = itemsWithin minimum maximum item ys := by
  have hall : xs.all item = ys.all item := by
    have hsame := (h.map hitem).all_eq (f := id)
    simpa [List.all_map] using hsame
  unfold itemsWithin
  rw [h.length_eq, hall]

theorem itemsWithin_perm (h : xs.Perm ys) :
    itemsWithin minimum maximum item xs = itemsWithin minimum maximum item ys :=
  itemsWithin_same ⟨xs, List.forall₂_same.mpr fun _ _ => rfl, h⟩ fun _ _ => congrArg item

theorem NodeTask.Same.schema {a b : NodeTask} (h : a.Same b) : a.schema = b.schema := by
  cases h with
  | new h => rw [NodeTask.schema, NodeTask.schema, itemsWithin_perm h]
  | existing task => rfl

theorem PlanNode.Same.schema {a b : PlanNode} (h : a.Same b) : a.schema = b.schema := by
  unfold PlanNode.schema ScopePolicy.schema
  rw [h.nodeKey, h.task.schema, h.agentId, h.repository, itemsWithin_perm h.scope.allowedPaths,
    itemsWithin_perm h.scope.forbiddenPaths, h.budget, itemsWithin_perm h.verificationProfiles,
    itemsWithin_perm h.inputs, itemsWithin_perm h.outputs]

theorem PlanEdge.Same.schema {a b : PlanEdge} (h : a.Same b) : a.schema = b.schema := by
  unfold PlanEdge.schema
  rw [h.edgeKey, h.fromNodeKey, h.toNodeKey, itemsWithin_perm h.bindings]

theorem DecisionContent.Same.schema {a b : DecisionContent} (h : a.Same b) :
    a.schema = b.schema := by
  unfold DecisionContent.schema
  rw [h.summary, itemsWithin_perm h.items, itemsWithin_perm h.unresolvedQuestions,
    itemsWithin_perm h.sources, itemsWithin_perm h.sourceRevisions]

/-- **The schema does not mind the order.** -/
theorem PlanDefinition.Same.schema {a b : PlanDefinition} (h : a.Same b) :
    a.schema = b.schema := by
  unfold PlanDefinition.schema PlanPolicy.schema
  rw [h.schemaVersion, h.rootTaskId, h.title, h.decision.schema,
    itemsWithin_same h.nodes fun _ _ => PlanNode.Same.schema,
    itemsWithin_same h.edges fun _ _ => PlanEdge.Same.schema, itemsWithin_perm h.externalInputs,
    h.policy.maxConcurrency, h.policy.budget, h.policy.approval,
    itemsWithin_perm h.policy.integrationTargets]

/-! ## The JSON value -/

section Json

variable {D : Doubles}

theorem array_same {α : Type} {r : α → α → Prop} {f : α → JsValue D} {xs ys : List α}
    (h : Unordered.Same r xs ys) (hf : ∀ a b, r a b → Rearranged (f a) (f b)) :
    Rearranged (.array (xs.map f)) (.array (ys.map f)) := by
  obtain ⟨zs, hzs, hperm⟩ := h
  refine Rearranged.trans (Rearranged.entries ?_) (Rearranged.array (hperm.map f))
  rw [List.forall₂_map_left_iff, List.forall₂_map_right_iff]
  exact hzs.imp hf

theorem array_perm {α : Type} {f : α → JsValue D} {xs ys : List α} (h : xs.Perm ys) :
    Rearranged (.array (xs.map f)) (.array (ys.map f)) := Rearranged.array (h.map f)

/-- A member under one key, its value rearranged. -/
def Member (m m' : String × JsValue D) : Prop := m.1 = m'.1 ∧ Rearranged m.2 m'.2

theorem member {key : String} {v v' : JsValue D} (h : Rearranged v v') :
    Member (key, v) (key, v') := ⟨rfl, h⟩

theorem member_eq {key : String} {v v' : JsValue D} (h : v = v') :
    Member (key, v) (key, v') := ⟨rfl, h ▸ Rearranged.refl v⟩

theorem jObject_rearranged {ms ms' : List (String × JsValue D)} (h : List.Forall₂ Member ms ms') :
    Rearranged (jObject D ms) (jObject D ms') := by
  refine Rearranged.members ?_
  rw [List.forall₂_map_left_iff, List.forall₂_map_right_iff]
  exact h.imp fun m m' hm => ⟨congrArg unitsOf hm.1, hm.2⟩

theorem NodeTask.Same.json {a b : NodeTask} (h : a.Same b) :
    Rearranged (a.toJson D) (b.toJson D) := by
  cases h with
  | new h =>
    refine jObject_rearranged (.cons (member (array_perm h)) ?_)
    exact List.forall₂_same.mpr fun _ _ => member_eq rfl
  | existing task => exact .refl _

theorem ScopePolicy.Same.json {a b : ScopePolicy} (h : a.Same b) :
    Rearranged (a.toJson D) (b.toJson D) := by
  refine jObject_rearranged ?_
  refine .cons (member_eq (by rw [h.access])) ?_
  refine .cons (member (array_perm h.allowedPaths)) ?_
  refine .cons (member (array_perm h.forbiddenPaths)) ?_
  exact .cons (member_eq (by rw [h.enforcement])) .nil

theorem PlanNode.Same.json {a b : PlanNode} (h : a.Same b) :
    Rearranged (a.toJson D) (b.toJson D) := by
  refine jObject_rearranged ?_
  refine .cons (member_eq (by rw [h.agentId])) ?_
  refine .cons (member_eq (by rw [h.budget])) ?_
  refine .cons (member (array_perm h.inputs)) ?_
  refine .cons (member_eq (by rw [h.kind])) ?_
  refine .cons (member_eq (by rw [h.nodeKey])) ?_
  refine .cons (member (array_perm h.outputs)) ?_
  refine .cons (member_eq (by rw [h.repository])) ?_
  refine .cons (member_eq (by rw [h.required])) ?_
  refine .cons (member h.scope.json) ?_
  refine .cons (member h.task.json) ?_
  exact .cons (member (array_perm h.verificationProfiles)) .nil

theorem PlanEdge.Same.json {a b : PlanEdge} (h : a.Same b) :
    Rearranged (a.toJson D) (b.toJson D) := by
  refine jObject_rearranged ?_
  refine .cons (member (array_perm h.bindings)) ?_
  refine .cons (member_eq (by rw [h.edgeKey])) ?_
  refine .cons (member_eq (by rw [h.fromNodeKey])) ?_
  refine .cons (member_eq (by rw [h.gate])) ?_
  exact .cons (member_eq (by rw [h.toNodeKey])) .nil

theorem DecisionContent.Same.json {a b : DecisionContent} (h : a.Same b) :
    Rearranged (a.toJson D) (b.toJson D) := by
  refine jObject_rearranged ?_
  refine .cons (member (array_perm h.items)) ?_
  refine .cons (member (array_perm h.sourceRevisions)) ?_
  refine .cons (member (array_perm h.sources)) ?_
  refine .cons (member_eq (by rw [h.summary])) ?_
  exact .cons (member (array_perm h.unresolvedQuestions)) .nil

theorem PlanPolicy.Same.json {a b : PlanPolicy} (h : a.Same b) :
    Rearranged (a.toJson D) (b.toJson D) := by
  refine jObject_rearranged ?_
  refine .cons (member_eq (by rw [h.budget])) ?_
  refine .cons (member_eq (by rw [h.integration])) ?_
  refine .cons (member (array_perm h.integrationTargets)) ?_
  refine .cons (member_eq (by rw [h.maxConcurrency])) ?_
  exact .cons (member_eq (by rw [h.approval])) .nil

/-- **The JSON values of the two differ in the order of entries only.** -/
theorem PlanDefinition.Same.json {a b : PlanDefinition} (h : a.Same b) :
    Rearranged (a.toJson D) (b.toJson D) := by
  refine jObject_rearranged ?_
  refine .cons (member h.decision.json) ?_
  refine .cons (member (array_same h.edges fun _ _ => PlanEdge.Same.json)) ?_
  refine .cons (member (array_perm h.externalInputs)) ?_
  refine .cons (member (array_same h.nodes fun _ _ => PlanNode.Same.json)) ?_
  refine .cons (member h.policy.json) ?_
  refine .cons (member_eq (by rw [h.rootTaskId])) ?_
  refine .cons (member_eq (by rw [h.schemaVersion])) ?_
  exact .cons (member_eq (by rw [h.title])) .nil

end Json

/-! ## The checks -/

section Checks

variable {D : Doubles}

theorem DecisionContent.Same.ok {a b : DecisionContent} (h : a.Same b) (hok : DecisionOk D a) :
    DecisionOk D b where
  summary := h.summary ▸ hok.summary
  items := (h.items.map _).nodup_iff.mp hok.items
  questions := (h.unresolvedQuestions.map _).nodup_iff.mp hok.questions
  sources := (h.sources.map _).nodup_iff.mp hok.sources
  revisions := (h.sourceRevisions.map _).nodup_iff.mp hok.revisions
  pinned := by
    refine ⟨h.sourceRevisions.length_eq ▸ h.sources.length_eq ▸ hok.pinned.1, fun source hs => ?_⟩
    obtain ⟨pin, hpin, hkey⟩ := hok.pinned.2 source (h.sources.mem_iff.mpr hs)
    exact ⟨pin, h.sourceRevisions.mem_iff.mp hpin, hkey⟩
  statements item hi := hok.statements item (h.items.mem_iff.mpr hi)
  texts question hq := hok.texts question (h.unresolvedQuestions.mem_iff.mpr hq)
  pins := (h.sources.map _).nodup_iff.mp hok.pins

theorem sortCriteria_ordinals {xs ys : List Criterion} (h : xs.Perm ys) :
    (sortCriteria xs).map (·.ordinal) = (sortCriteria ys).map (·.ordinal) := by
  have hmap := fun zs : List Criterion => List.map_insertionSort
    (fun a b : Criterion => a.ordinal ≤ b.ordinal) (· ≤ ·) (·.ordinal) zs fun _ _ _ _ => Iff.rfl
  unfold sortCriteria
  rw [hmap, hmap]
  exact Unordered.insertionSort_perm (h.map _) fun _ _ _ _ => Nat.le_antisymm

theorem NodeTask.Same.ok {a b : NodeTask} (h : a.Same b) {rootTaskId : String}
    (hok : TaskOk a rootTaskId) : TaskOk b rootTaskId := by
  cases h with
  | existing task => exact hok
  | @new task criteria h =>
    obtain ⟨htitle, hgoal, hkeys, hordinals, ⟨criterion, hc, hrequired⟩, hdescriptions⟩ := hok
    refine ⟨htitle, hgoal, (h.map _).nodup_iff.mp hkeys, ?_,
      ⟨criterion, h.mem_iff.mp hc, hrequired⟩, fun c hc => hdescriptions c (h.mem_iff.mpr hc)⟩
    rw [sortCriteria_ordinals h, h.length_eq] at hordinals
    exact hordinals

theorem ScopePolicy.Same.ok {a b : ScopePolicy} (h : a.Same b) (hok : ScopeOk a) : ScopeOk b := by
  refine ⟨?_, ?_, ?_, ?_⟩
  · exact ⟨h.allowedPaths.nodup_iff.mp hok.allowed.1,
      fun path hp => hok.allowed.2 path (h.allowedPaths.mem_iff.mpr hp)⟩
  · exact ⟨h.forbiddenPaths.nodup_iff.mp hok.forbidden.1,
      fun path hp => hok.forbidden.2 path (h.forbiddenPaths.mem_iff.mpr hp)⟩
  · intro haccess
    rw [← h.allowedPaths.length_eq]
    exact hok.readOnly (h.access.trans haccess)
  · intro haccess
    obtain ⟨hpos, allowed, hallowed, hnone⟩ := hok.isolated (h.access.trans haccess)
    refine ⟨h.allowedPaths.length_eq ▸ hpos, allowed, h.allowedPaths.mem_iff.mp hallowed, ?_⟩
    rintro ⟨forbidden, hforbidden, hcase⟩
    exact hnone ⟨forbidden, h.forbiddenPaths.mem_iff.mpr hforbidden, hcase⟩

/-- **A node passes its checks in any order of its lists.** -/
theorem PlanNode.Same.ok {a b : PlanNode} (h : a.Same b) {rootTaskId : String}
    (hok : NodeOk rootTaskId a) : NodeOk rootTaskId b where
  task := h.task.ok hok.task
  inputs := (h.inputs.map _).nodup_iff.mp hok.inputs
  outputs := (h.outputs.map _).nodup_iff.mp hok.outputs
  profiles := (h.verificationProfiles.map _).nodup_iff.mp hok.profiles
  scope := h.scope.ok hok.scope
  kind := by
    refine ⟨?_, fun hkind => ?_, fun hkind => ?_⟩
    · rw [← h.scope.access, ← h.kind]
      exact hok.kind.access
    · obtain ⟨profile, hp, hrequired⟩ := hok.kind.verified (h.kind.trans hkind)
      exact ⟨profile, h.verificationProfiles.mem_iff.mp hp, hrequired⟩
    · obtain ⟨slot, hs, hslot⟩ := hok.kind.code (h.kind.trans hkind)
      exact ⟨slot, h.outputs.mem_iff.mp hs, hslot⟩

variable {a b : PlanNode}

theorem sourceActionOf_same (h : a.Same b) :
    sourceActionOf a = sourceActionOf b := by
  unfold sourceActionOf
  have htask := h.task
  revert htask
  generalize a.task = t
  generalize b.task = t'
  rintro (_ | _) <;> rfl

theorem existingTaskOf_same (h : a.Same b) :
    existingTaskOf a = existingTaskOf b := by
  unfold existingTaskOf
  have htask := h.task
  revert htask
  generalize a.task = t
  generalize b.task = t'
  rintro (_ | _) <;> rfl

theorem BindingOk.same {source source' target target' : PlanNode} (hs : source.Same source')
    (ht : target.Same target') {b : EdgeBinding} (h : BindingOk source target b) :
    BindingOk source' target' b := by
  obtain ⟨output, hout, houtKey, input, hin, hinKey, hkind, hrequired, hcode⟩ := h
  refine ⟨output, hs.outputs.mem_iff.mp hout, houtKey, input, ht.inputs.mem_iff.mp hin, hinKey,
    hkind, hrequired, fun hisCode => ?_⟩
  rw [← hs.repository, ← ht.repository]
  exact hcode hisCode

section Definition

variable {a b : PlanDefinition} {e e' : PlanEdge}

theorem PlanDefinition.Same.edgeOk (h : a.Same b) (he : e.Same e')
    (hok : ∃ source target, EdgeOk a e source target) :
    ∃ source target, EdgeOk b e' source target := by
  obtain ⟨source, target, hedge⟩ := hok
  obtain ⟨source', hs', hs⟩ := h.nodes.exists_right hedge.fromNode.1
  obtain ⟨target', ht', ht⟩ := h.nodes.exists_right hedge.toNode.1
  refine ⟨source', target', ⟨hs', ?_⟩, ⟨ht', ?_⟩, ?_, fun hgate => ?_, fun hgate => ?_, ?_⟩
  · rw [← hs.nodeKey, ← he.fromNodeKey]
    exact hedge.fromNode.2
  · rw [← ht.nodeKey, ← he.toNodeKey]
    exact hedge.toNode.2
  · rw [← he.fromNodeKey, ← he.toNodeKey]
    exact hedge.distinct
  · obtain ⟨profile, hp, hrequired⟩ := hedge.verified (he.gate.trans hgate)
    exact ⟨profile, hs.verificationProfiles.mem_iff.mp hp, hrequired⟩
  · rw [← h.policy.integration]
    exact hedge.integrated (he.gate.trans hgate)
  · intro binding hb
    exact (hedge.bindings binding (he.bindings.mem_iff.mpr hb)).same hs ht

theorem PlanDefinition.Same.basePairs (h : a.Same b) :
    (basePairs a.nodes).Perm (basePairs b.nodes) :=
  h.nodes.map fun _ _ hn => by rw [hn.repository]

theorem PlanDefinition.Same.bindingPairs (h : a.Same b) :
    (bindingPairs a.nodes).Perm (bindingPairs b.nodes) :=
  h.nodes.map fun _ _ hn => by rw [hn.repository]

theorem Consistent.perm {map : Table String String} {pairs pairs' : List (String × String)}
    (hperm : pairs.Perm pairs') (h : Consistent map pairs) : Consistent map pairs' := by
  intro key v w hv hw
  refine h key v w ?_ (hperm.mem_iff.mpr hw)
  rwa [hperm.mem_iff]

theorem edgeInputs_same (h : e.Same e') :
    (edgeInputs e).Perm (edgeInputs e') := by
  unfold edgeInputs
  rw [h.toNodeKey]
  exact h.bindings.map _

theorem edgePair_same (h : e.Same e') : edgePair e = edgePair e' := by
  unfold edgePair
  rw [h.fromNodeKey, h.toNodeKey]

theorem PlanDefinition.Same.producers (h : a.Same b) :
    (producers a).Perm (producers b) :=
  (h.edges.flatMap fun _ _ => edgeInputs_same).append (h.externalInputs.map _)

theorem PlanDefinition.Same.nodesOk (h : a.Same b) (hok : NodesOk D a) : NodesOk D b where
  keys := (h.nodes.map fun _ _ hn => hn.nodeKey).nodup_iff.mp hok.keys
  edgeKeys := (h.edges.map fun _ _ he => he.edgeKey).nodup_iff.mp hok.edgeKeys
  tasks := (h.nodes.filterMap fun _ _ => existingTaskOf_same).nodup_iff.mp hok.tasks
  actions :=
    ((h.nodes.filterMap fun _ _ => sourceActionOf_same).map _).nodup_iff.mp hok.actions
  evidence := by
    intro action haction
    have hin := (h.nodes.filterMap fun _ _ => sourceActionOf_same).mem_iff.mpr haction
    obtain ⟨source, hs, hpin⟩ := hok.evidence action hin
    exact ⟨source, h.decision.sources.mem_iff.mp hs, hpin⟩
  required := by
    obtain ⟨node, hn, hrequired⟩ := hok.required
    obtain ⟨node', hn', hsame⟩ := h.nodes.exists_right hn
    exact ⟨node', hn', hsame.required ▸ hrequired⟩
  budget := by
    have hcount := h.nodes.countP (p := fun n => n.required) fun _ _ hn => hn.required
    rw [← List.countP_eq_length_filter, ← hcount, ← h.policy.budget,
      List.countP_eq_length_filter]
    exact hok.budget

/-- **A definition passes the checks in any order of its lists.** -/
theorem PlanDefinition.Same.ok (h : a.Same b) (hok : PlanOk D a) : PlanOk D b where
  accepted := Contracts.accepted_rearranged h.json hok.accepted
  schema := h.schema ▸ hok.schema
  title := h.title ▸ hok.title
  decision := h.decision.ok hok.decision
  nodes := h.nodesOk hok.nodes
  each := by
    rw [← h.rootTaskId]
    exact h.nodes.forall_mem (fun _ _ hn => hn.ok) hok.each
  bases := hok.bases.perm h.basePairs
  bindings := hok.bindings.perm h.bindingPairs
  edges := h.edges.forall_mem (fun _ _ he => h.edgeOk he) hok.edges
  pairs := (h.edges.map fun _ _ => edgePair_same).nodup_iff.mp hok.pairs
  externals := by
    intro i hi
    obtain ⟨node, hn, hkey, input, hin, hinput⟩ :=
      hok.externals i (h.externalInputs.mem_iff.mpr hi)
    obtain ⟨node', hn', hsame⟩ := h.nodes.exists_right hn
    exact ⟨node', hn', hsame.nodeKey ▸ hkey, input, hsame.inputs.mem_iff.mp hin, hinput⟩
  producers := h.producers.nodup_iff.mp hok.producers
  fed := by
    intro n hn slot hslot hrequired
    obtain ⟨n', hn', hsame⟩ := h.nodes.exists_left hn
    rw [← h.producers.mem_iff, ← hsame.nodeKey]
    exact hok.fed n' hn' slot (hsame.inputs.mem_iff.mpr hslot) hrequired
  targets := by
    intro t ht
    obtain ⟨hbase, href⟩ := hok.targets t (h.policy.integrationTargets.mem_iff.mpr ht)
    exact ⟨h.basePairs.mem_iff.mp hbase, href⟩
  targetKeys := (h.policy.integrationTargets.map _).nodup_iff.mp hok.targetKeys
  covered := by
    intro hpolicy n hn
    obtain ⟨n', hn', hsame⟩ := h.nodes.exists_left hn
    rw [← h.policy.integration] at hpolicy
    obtain ⟨t, ht, hrepository⟩ := hok.covered hpolicy n' hn'
    exact ⟨t, h.policy.integrationTargets.mem_iff.mp ht, hsame.repository ▸ hrepository⟩

end Definition

end Checks

/-! ## The normal form -/

theorem sortBy_perm (key : α → String) (entries : List α) :
    (sortBy key entries).Perm entries := List.perm_insertionSort _ _

theorem normalizeTask_same (t : NodeTask) : t.Same (normalizeTask t) := by
  cases t with
  | new task => exact .new (sortCriteria_perm task.criteria).symm
  | existing task => exact .existing task

theorem normalizeNode_same (n : PlanNode) : n.Same (normalizeNode n) where
  nodeKey := rfl
  kind := rfl
  required := rfl
  task := normalizeTask_same n.task
  agentId := rfl
  repository := rfl
  scope := ⟨rfl, rfl, (sortBy_perm _ _).symm, (sortBy_perm _ _).symm⟩
  budget := rfl
  verificationProfiles := (sortBy_perm _ _).symm
  inputs := (sortBy_perm _ _).symm
  outputs := (sortBy_perm _ _).symm

theorem normalizeEdge_same (e : PlanEdge) : e.Same (normalizeEdge e) :=
  ⟨rfl, rfl, rfl, rfl, (sortBy_perm _ _).symm⟩

/-- **The normal form is the same definition up to order.** -/
theorem normalizeDefinition_same (value : PlanDefinition) :
    value.Same (normalizeDefinition value) where
  schemaVersion := rfl
  rootTaskId := rfl
  title := rfl
  decision := ⟨rfl, (sortBy_perm _ _).symm, (sortBy_perm _ _).symm, (sortBy_perm _ _).symm,
    (sortBy_perm _ _).symm⟩
  nodes := Unordered.Same.of_map normalizeNode_same ((sortBy_perm _ _).symm.map _)
  edges := Unordered.Same.of_map normalizeEdge_same ((sortBy_perm _ _).symm.map _)
  externalInputs := (List.perm_insertionSort _ _).symm
  policy := ⟨rfl, rfl, rfl, rfl, (List.perm_insertionSort _ _).symm⟩

end AgentRoom.Plan
