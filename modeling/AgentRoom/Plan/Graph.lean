import AgentRoom.Plan.SameUpToOrder
import AgentRoom.Contracts.Acceptance

/-!
# Acceptance and the order of the nodes

A definition that passes the checks is accepted exactly when its edges have no cycle: the loop
over `ready` is Kahn's algorithm on the graph the loop over the edges left, and nothing after it
fails, since the normal form has the bounds of the definition it was made from.
-/

namespace AgentRoom.Plan

open Contracts (Doubles canonicalExecutionJSON canonicalValue executionOperationDigest bind_eq_ok
  integerDoubles utf8)

/-! ## The graph -/

/-- An edge leads from one node to the other. -/
def Precedes (value : PlanDefinition) (u v : String) : Prop :=
  ∃ e ∈ value.edges, e.fromNodeKey = u ∧ e.toNodeKey = v

/-- No node comes before itself. -/
def Acyclic (value : PlanDefinition) : Prop :=
  ∀ key, ¬ Relation.TransGen (Precedes value) key key

/-- All node keys, the source of every edge before its target. -/
structure IsTopologicalOrder (value : PlanDefinition) (order : List String) : Prop where
  perm : order.Perm (value.nodes.map (·.nodeKey))
  precedes : ∀ e ∈ value.edges, order.idxOf e.fromNodeKey < order.idxOf e.toNodeKey

theorem outgoing_eq (value : PlanDefinition) (u : String) :
    (graphOf value).outgoing u =
      (value.edges.filter (·.fromNodeKey = u)).map (·.toNodeKey) := List.nil_append _

theorem indegree_eq (value : PlanDefinition) (k : String) :
    (graphOf value).indegree k = ((value.edges.map (·.toNodeKey)).count k : Int) :=
  Int.zero_add _

theorem mem_outgoing {value : PlanDefinition} {u v : String} :
    v ∈ (graphOf value).outgoing u ↔ Precedes value u v := by
  rw [outgoing_eq, List.mem_map]
  constructor
  · rintro ⟨e, he, rfl⟩
    obtain ⟨he, hfrom⟩ := List.mem_filter.mp he
    exact ⟨e, he, of_decide_eq_true hfrom, rfl⟩
  · rintro ⟨e, he, hfrom, rfl⟩
    exact ⟨e, List.mem_filter.mpr ⟨he, decide_eq_true hfrom⟩, rfl⟩

section Definition

variable {D : Doubles} {value : PlanDefinition}

theorem PlanOk.endpoints (h : PlanOk D value) {u v : String} (hedge : Precedes value u v) :
    u ∈ value.nodes.map (·.nodeKey) ∧ v ∈ value.nodes.map (·.nodeKey) := by
  obtain ⟨e, he, rfl, rfl⟩ := hedge
  obtain ⟨source, target, hok⟩ := h.edges e he
  exact ⟨List.mem_map.mpr ⟨source, hok.fromNode⟩, List.mem_map.mpr ⟨target, hok.toNode⟩⟩

/-- **The graph of a definition** that passes the checks. -/
def PlanOk.graph (h : PlanOk D value) : Kahn.Graph String where
  nodes := value.nodes.map (·.nodeKey)
  targets := (graphOf value).outgoing
  nodup := h.nodes.keys
  closed := by
    intro u _ v hv
    exact (h.endpoints (mem_outgoing.mp hv)).2

theorem PlanOk.graph_edge (h : PlanOk D value) {u v : String} :
    h.graph.Edge u v ↔ Precedes value u v := by
  constructor
  · intro hedge
    exact mem_outgoing.mp hedge.2
  · intro hedge
    exact ⟨(h.endpoints hedge).1, mem_outgoing.mpr hedge⟩

theorem PlanOk.graph_acyclic (h : PlanOk D value) : h.graph.Acyclic ↔ Acyclic value := by
  have hsame : h.graph.Edge = Precedes value := by
    funext u v
    exact propext h.graph_edge
  unfold Kahn.Graph.Acyclic Acyclic
  rw [hsame]

theorem PlanOk.graph_topological (h : PlanOk D value) {order : List String} :
    h.graph.Topological order ↔ IsTopologicalOrder value order := by
  constructor
  · intro ⟨hperm, hprecedes⟩
    exact ⟨hperm, fun e he => hprecedes _ _ (h.graph_edge.mpr ⟨e, he, rfl, rfl⟩)⟩
  · intro ⟨hperm, hprecedes⟩
    refine ⟨hperm, fun u v hedge => ?_⟩
    obtain ⟨e, he, rfl, rfl⟩ := h.graph_edge.mp hedge
    exact hprecedes e he

/-- Each edge is counted at its source, which is one of the nodes. -/
theorem sum_outgoing {nodes : List String} (hnodup : nodes.Nodup) (edges : List PlanEdge)
    (hfrom : ∀ e ∈ edges, e.fromNodeKey ∈ nodes) (k : String) :
    (nodes.map fun u => ((edges.filter (·.fromNodeKey = u)).map (·.toNodeKey)).count k).sum =
      (edges.map (·.toNodeKey)).count k := by
  induction edges with
  | nil => simp
  | cons e edges ih =>
    rw [List.forall_mem_cons] at hfrom
    have hone : (nodes.map fun u => if e.fromNodeKey = u then
        (if e.toNodeKey = k then 1 else 0) else 0).sum = if e.toNodeKey = k then 1 else 0 := by
      rw [List.sum_map_eq_nsmul_single e.fromNodeKey _ fun u hne _ => if_neg (Ne.symm hne),
        List.count_eq_one_of_mem hnodup hfrom.1]
      simp
    have hsplit : ∀ u, (((e :: edges).filter (·.fromNodeKey = u)).map (·.toNodeKey)).count k =
        ((edges.filter (·.fromNodeKey = u)).map (·.toNodeKey)).count k +
          if e.fromNodeKey = u then (if e.toNodeKey = k then 1 else 0) else 0 := by
      intro u
      by_cases hu : e.fromNodeKey = u
      · rw [List.filter_cons_of_pos (by simpa using hu), List.map_cons, List.count_cons,
          if_pos hu]
        simp
      · rw [List.filter_cons_of_neg (by simpa using hu), if_neg hu]
        rfl
    simp only [hsplit]
    rw [List.sum_map_add, ih hfrom.2, hone, List.map_cons, List.count_cons]
    simp

theorem PlanOk.indegree (h : PlanOk D value) (k : String) :
    (graphOf value).indegree k = h.graph.remaining [] k := by
  have hsum := sum_outgoing h.nodes.keys value.edges
    (fun e he => (h.endpoints ⟨e, he, rfl, rfl⟩).1) k
  have hall : h.graph.nodes.filter (· ∉ ([] : List String)) = h.graph.nodes := by simp
  unfold Kahn.Graph.remaining
  rw [hall, indegree_eq]
  change _ = (((value.nodes.map (·.nodeKey)).map fun u =>
    ((graphOf value).outgoing u).count k).sum : Int)
  simp only [outgoing_eq]
  rw [hsum]

theorem PlanOk.order_eq (h : PlanOk D value) :
    topologicalOrder value (graphOf value) =
      Kahn.sort h.graph textLe (graphOf value).indegree := by
  unfold topologicalOrder Kahn.sort
  change _ = Kahn.run textLe (graphOf value).outgoing ((value.nodes.map (·.nodeKey)).length + 1) _
  rw [List.length_map]
  rfl

/-- **The order has every node exactly when there is no cycle.** -/
theorem PlanOk.order_complete (h : PlanOk D value) :
    (topologicalOrder value (graphOf value)).length = value.nodes.length ↔ Acyclic value := by
  rw [h.order_eq, ← h.graph_acyclic, ← Kahn.sort_complete h.graph textLe fun k _ => h.indegree k]
  change _ = _ ↔ _ = (value.nodes.map (·.nodeKey)).length
  rw [List.length_map]

end Definition

/-! ## The validator -/

/-- What a definition is validated to. -/
def validated (D : Doubles) (sha256 : List UInt8 → String) (value : PlanDefinition) :
    Validated where
  definition := normalizeDefinition value
  topologicalOrder := topologicalOrder value (graphOf value)
  digest := sha256 (utf8 (canonicalValue D ((normalizeDefinition value).toJson D)))
  approvalBlockers := approvalBlockers (normalizeDefinition value)

section Validator

variable {D : Doubles} {sha256 : List UInt8 → String} {value : PlanDefinition}

theorem canonicalExecutionJSON_text {v : Contracts.JsValue D} {text : List Char}
    (h : canonicalExecutionJSON D v = .ok text) : text = canonicalValue D v := by
  rw [Contracts.canonicalValue_eq]
  exact ((Contracts.canonicalExecutionJSON_ok D v text).mp h).2.2

theorem PlanOk.digest (h : PlanOk D value) :
    executionOperationDigest D sha256 ((normalizeDefinition value).toJson D) =
      .ok (validated D sha256 value).digest := by
  obtain ⟨text, htext⟩ :=
    Contracts.accepted_rearranged (normalizeDefinition_same value).json h.accepted
  unfold executionOperationDigest
  rw [htext, canonicalExecutionJSON_text htext]
  rfl

/-- **What the validator accepts**, and what it returns. -/
theorem validate_ok {r : Validated} :
    validateExecutionPlanDefinition D sha256 value = .ok r ↔
      PlanOk D value ∧ Acyclic value ∧ r = validated D sha256 value := by
  unfold validateExecutionPlanDefinition
  rw [bind_eq_ok]
  simp only [checkPlan_ok, seq_ok, requireCondition_ok]
  constructor
  · rintro ⟨_, ⟨h, rfl⟩, hlength, hrest⟩
    rw [h.digest] at hrest
    exact ⟨h, h.order_complete.mp hlength, (Except.ok.inj hrest).symm⟩
  · rintro ⟨h, hacyclic, rfl⟩
    refine ⟨_, ⟨h, rfl⟩, h.order_complete.mpr hacyclic, ?_⟩
    rw [h.digest]
    rfl

theorem validate_of_checks (hsome : (checkPlan D value).toOption.isSome = true)
    (hlength : (topologicalOrder value (graphOf value)).length = value.nodes.length) :
    validateExecutionPlanDefinition D sha256 value = .ok (validated D sha256 value) := by
  rcases h : checkPlan D value with e | graph
  · rw [h] at hsome
    cases hsome
  · have hok := (checkPlan_ok.mp h).1
    exact validate_ok.mpr ⟨hok, hok.order_complete.mp hlength, rfl⟩

end Validator

/-- **A definition that passes every other check is accepted exactly when it has no cycle**, and
its order is then the least of all topological orders. -/
theorem accepted_iff_acyclic {D : Doubles} (sha256 : List UInt8 → String) {value : PlanDefinition}
    {graph : EdgeState} (h : checkPlan D value = .ok graph) :
    ((∃ r, validateExecutionPlanDefinition D sha256 value = .ok r) ↔ Acyclic value) ∧
    ∀ r, validateExecutionPlanDefinition D sha256 value = .ok r →
      IsTopologicalOrder value r.topologicalOrder ∧
      ∀ order, IsTopologicalOrder value order → Kahn.LexLe textLe r.topologicalOrder order := by
  obtain ⟨hok, -⟩ := checkPlan_ok.mp h
  have hcount := fun k (_ : k ∈ hok.graph.nodes) => hok.indegree k
  refine ⟨?_, fun r hr => ?_⟩
  · constructor
    · rintro ⟨r, hr⟩
      exact (validate_ok.mp hr).2.1
    · intro hacyclic
      exact ⟨_, validate_ok.mpr ⟨hok, hacyclic, rfl⟩⟩
  · obtain ⟨-, hacyclic, rfl⟩ := validate_ok.mp hr
    change IsTopologicalOrder value (topologicalOrder value (graphOf value)) ∧
      ∀ order, _ → Kahn.LexLe textLe (topologicalOrder value (graphOf value)) order
    rw [hok.order_eq]
    refine ⟨hok.graph_topological.mp ?_, fun order horder => ?_⟩
    · exact Kahn.sort_topological _ _ hcount
        ((Kahn.sort_complete _ _ hcount).mpr (hok.graph_acyclic.mpr hacyclic))
    · exact Kahn.sort_least _ _ hcount (hok.graph_topological.mpr horder)

/-! ## A small definition -/

def sampleRepository : RepositoryInput where
  repositoryId := "repo_sample01"
  bindingId := "repobind_sample01"
  baseCommit := "0123456789012345678901234567890123456789"
  grantId := "grant_sample01"
  grantRevision := 1
  runtimeProfileId := "profile_sample01"
  runtimeProfileDigest := "0123456789abcdef0123456789abcdef0123456789abcdef0123456789abcdef"

def sampleTask (title : String) : NodeTask := .new {
  title
  goal := "goal"
  ownerMemberId := "member_sample01"
  criteria := [⟨"criterion_sample01", "holds", true, 1⟩]
  sourceAction := none }

/-- A node that writes a patch. -/
def sampleBuild : PlanNode where
  nodeKey := "write"
  kind := .implementation
  required := true
  task := sampleTask "write"
  agentId := "agent_sample01"
  repository := sampleRepository
  scope := ⟨.isolatedWrite, ["src", "docs"], [], true⟩
  budget := ⟨1, 60⟩
  verificationProfiles := [⟨"profile_tests001", 1, sampleRepository.runtimeProfileDigest, true⟩]
  inputs := []
  outputs := [⟨"patch", .patch, true⟩]

/-- A node that reads the patch. -/
def sampleReview : PlanNode where
  nodeKey := "check"
  kind := .review
  required := true
  task := sampleTask "check"
  agentId := "agent_sample02"
  repository := sampleRepository
  scope := ⟨.readOnly, [], [], true⟩
  budget := ⟨1, 60⟩
  verificationProfiles := []
  inputs := [⟨"change", .patch, true⟩]
  outputs := [⟨"report", .document, true⟩]

/-- A patch is written and then checked. -/
def samplePlan : PlanDefinition where
  schemaVersion := "1.0"
  rootTaskId := "task_root0001"
  title := "sample"
  decision := {
    summary := "summary"
    items := []
    unresolvedQuestions := [⟨"open", "which?", true⟩]
    sources := [⟨"evidence_sample01", .message "msg_sample01"⟩]
    sourceRevisions := [⟨"evidence_sample01", 1⟩] }
  nodes := [sampleReview, sampleBuild]
  edges := [⟨"handover", "write", "check", .verifiedOutput, [⟨"patch", "change"⟩]⟩]
  externalInputs := []
  policy := ⟨1, ⟨2, 120⟩, .reviewedCandidate, true, []⟩

/-- A stand-in for the digest, of which the checks see nothing. -/
def byteCount (bytes : List UInt8) : String := toString bytes.length

theorem samplePlan_accepted :
    ∃ r, validateExecutionPlanDefinition integerDoubles byteCount samplePlan = .ok r := by
  have hasserted : assertPlanDefinition integerDoubles samplePlan = .ok () := by decide +kernel
  refine ⟨_, validate_of_checks ?_ (by decide)⟩
  unfold checkPlan
  rw [hasserted]
  decide

/-- The writer comes first. -/
theorem samplePlan_order :
    ∃ r, validateExecutionPlanDefinition integerDoubles byteCount samplePlan = .ok r ∧
      IsTopologicalOrder samplePlan r.topologicalOrder := by
  obtain ⟨r, hr⟩ := samplePlan_accepted
  have hcheck := checkPlan_ok.mpr ⟨(validate_ok.mp hr).1, rfl⟩
  exact ⟨r, hr, ((accepted_iff_acyclic byteCount hcheck).2 r hr).1⟩

end AgentRoom.Plan
