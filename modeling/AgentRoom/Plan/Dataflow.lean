import AgentRoom.Plan.Graph
import Mathlib.Data.List.Basic

/-!
# What flows between the nodes of an accepted definition

An input of a node is written as its node's key, a slash and its own key. No key has a slash in
it, so the text stands for one input only, and the list of the inputs fed, in which nothing comes
twice, counts the producers of each.
-/

namespace AgentRoom.Plan

open Contracts (Doubles integerDoubles)

/-! ## Keys have no slash -/

theorem stableKey_slash {text : String} (h : stableKey text = true) : '/' ∉ text.toList := by
  unfold stableKey at h
  intro hslash
  rcases htext : text.toList with _ | ⟨c, rest⟩
  · rw [htext] at hslash
    cases hslash
  · rw [htext] at h hslash
    simp only [Bool.and_eq_true, List.all_eq_true] at h
    rcases List.mem_cons.mp hslash with rfl | hin
    · exact absurd h.1.1 (by decide)
    · exact absurd (h.2 _ hin) (by decide)

theorem joined_injective {a b a' b' : String} (ha : '/' ∉ a.toList) (hb : '/' ∉ b.toList)
    (h : a ++ "/" ++ b = a' ++ "/" ++ b') : a = a' ∧ b = b' := by
  have hlist := congrArg String.toList h
  simp only [String.toList_append] at hlist
  have hslash : ("/" : String).toList = ['/'] := rfl
  rw [hslash, List.append_assoc, List.append_assoc, List.singleton_append,
    List.singleton_append] at hlist
  obtain ⟨hfirst, -, hsecond⟩ := (List.append_cons_inj_of_notMem ha hb).mp hlist
  exact ⟨String.toList_inj.mp hfirst, String.toList_inj.mp hsecond⟩

theorem itemsWithin_mem {α : Type} {minimum maximum : Nat} {item : α → Bool} {items : List α}
    (h : itemsWithin minimum maximum item items = true) {a : α} (ha : a ∈ items) :
    item a = true := by
  simp only [itemsWithin, Bool.and_eq_true, List.all_eq_true] at h
  exact h.2 a ha

/-- The parts of the schema that are read below. -/
structure SchemaOk (value : PlanDefinition) : Prop where
  nodes : ∀ n ∈ value.nodes, n.schema = true
  edges : ∀ e ∈ value.edges, e.schema = true

variable {value : PlanDefinition}

theorem schemaOk (h : value.schema = true) : SchemaOk value := by
  simp only [PlanDefinition.schema, Bool.and_eq_true] at h
  obtain ⟨⟨⟨⟨-, hnodes⟩, hedges⟩, -⟩, -⟩ := h
  exact ⟨fun n hn => itemsWithin_mem hnodes hn, fun e he => itemsWithin_mem hedges he⟩

theorem node_key_slash {n : PlanNode} (h : n.schema = true) : '/' ∉ n.nodeKey.toList := by
  simp only [PlanNode.schema, Bool.and_eq_true] at h
  exact stableKey_slash h.1.1.1.1.1.1.1.1

theorem input_key_slash {n : PlanNode} (h : n.schema = true) {slot : ArtifactSlot}
    (hslot : slot ∈ n.inputs) : '/' ∉ slot.slotKey.toList := by
  simp only [PlanNode.schema, Bool.and_eq_true] at h
  exact stableKey_slash (itemsWithin_mem h.1.2 hslot)

/-! ## Producers -/

/-- Every binding, with its edge. -/
def edgeBindings (value : PlanDefinition) : List (PlanEdge × EdgeBinding) :=
  value.edges.flatMap fun e => e.bindings.map fun b => (e, b)

/-- How many bindings of edges feed an input. -/
def edgeProducers (value : PlanDefinition) (nodeKey slotKey : String) : Nat :=
  (edgeBindings value).countP fun p => p.1.toNodeKey = nodeKey ∧ p.2.inputSlot = slotKey

/-- How many external inputs feed it. -/
def externalProducers (value : PlanDefinition) (nodeKey slotKey : String) : Nat :=
  value.externalInputs.countP fun i => i.nodeKey = nodeKey ∧ i.inputSlot = slotKey

theorem edgeInputs_eq (value : PlanDefinition) :
    value.edges.flatMap edgeInputs =
      (edgeBindings value).map fun p => inputIdentity p.1.toNodeKey p.2.inputSlot := by
  unfold edgeBindings edgeInputs
  rw [List.map_flatMap]
  simp only [List.map_map]
  rfl

theorem inputIdentity_injective {nodeKey slotKey nodeKey' slotKey' : String}
    (hnode : '/' ∉ nodeKey.toList) (hslot : '/' ∉ slotKey.toList) :
    inputIdentity nodeKey' slotKey' = inputIdentity nodeKey slotKey ↔
      nodeKey' = nodeKey ∧ slotKey' = slotKey := by
  constructor
  · intro h
    obtain ⟨h₁, h₂⟩ := joined_injective hnode hslot h.symm
    exact ⟨h₁.symm, h₂.symm⟩
  · rintro ⟨rfl, rfl⟩
    rfl

/-- **The list of the inputs fed counts the producers of an input.** -/
theorem count_producers (value : PlanDefinition) {nodeKey slotKey : String}
    (hnode : '/' ∉ nodeKey.toList) (hslot : '/' ∉ slotKey.toList) :
    (producers value).count (inputIdentity nodeKey slotKey) =
      edgeProducers value nodeKey slotKey + externalProducers value nodeKey slotKey := by
  have hcount : ∀ {α : Type} (entries : List α) (node slot : α → String),
      (entries.map fun a => inputIdentity (node a) (slot a)).count
        (inputIdentity nodeKey slotKey) =
      entries.countP fun a => node a = nodeKey ∧ slot a = slotKey := by
    intro α entries node slot
    rw [List.count, List.countP_map]
    refine List.countP_congr fun a _ => ?_
    rw [Function.comp_apply, beq_iff_eq, inputIdentity_injective hnode hslot, decide_eq_true_iff]
  unfold producers
  rw [List.count_append, edgeInputs_eq, hcount]
  exact congrArg (edgeProducers value nodeKey slotKey + ·) (hcount _ _ _)

/-! ## The law -/

/-- A binding of an edge, with the nodes and the slots it connects. -/
structure Connects (value : PlanDefinition) (e : PlanEdge) (b : EdgeBinding)
    (source target : PlanNode) (output input : ArtifactSlot) : Prop where
  edge : e ∈ value.edges ∧ b ∈ e.bindings
  fromNode : source ∈ value.nodes ∧ source.nodeKey = e.fromNodeKey
  toNode : target ∈ value.nodes ∧ target.nodeKey = e.toNodeKey
  output : output ∈ source.outputs ∧ output.slotKey = b.outputSlot
  input : input ∈ target.inputs ∧ input.slotKey = b.inputSlot

/-- **The dataflow law** of a plan definition. -/
structure Dataflow (value : PlanDefinition) : Prop where
  one_producer : ∀ n ∈ value.nodes, ∀ slot ∈ n.inputs, slot.required →
    edgeProducers value n.nodeKey slot.slotKey + externalProducers value n.nodeKey slot.slotKey = 1
  connected : ∀ e ∈ value.edges, ∀ b ∈ e.bindings, ∃ source target output input,
    Connects value e b source target output input
  same_kind : ∀ e b source target output input,
    Connects value e b source target output input → output.kind = input.kind
  required : ∀ e b source target output input,
    Connects value e b source target output input → input.required → output.required
  one_repository : ∀ e b source target output input,
    Connects value e b source target output input → output.kind.isCode →
      source.repository.repositoryId = target.repository.repositoryId
  external_kind : ∀ i ∈ value.externalInputs, ∃ n ∈ value.nodes, n.nodeKey = i.nodeKey ∧
    ∃ slot ∈ n.inputs, slot.slotKey = i.inputSlot ∧ slot.kind = i.kind
  one_base : ∀ n ∈ value.nodes, ∀ m ∈ value.nodes,
    n.repository.repositoryId = m.repository.repositoryId →
      n.repository.baseCommit = m.repository.baseCommit

theorem unique_entry {α : Type} {key : α → String} {entries : List α}
    (h : (entries.map key).Nodup) {a b : α} (ha : a ∈ entries) (hb : b ∈ entries)
    (hkey : key a = key b) : a = b :=
  List.inj_on_of_nodup_map h ha hb hkey

/-- A binding connects what the checks found for it. -/
theorem PlanOk.binding {D : Doubles} (h : PlanOk D value) {e : PlanEdge} {b : EdgeBinding}
    {source target : PlanNode} {output input : ArtifactSlot}
    (hconnects : Connects value e b source target output input) :
    input.kind = output.kind ∧ (input.required → output.required) ∧
      (output.kind.isCode → source.repository.repositoryId = target.repository.repositoryId) := by
  have hkeys := h.keysUnique
  obtain ⟨source', target', hedge⟩ := h.edges e hconnects.edge.1
  have hsource : source' = source := unique_entry hkeys.nodes hedge.fromNode.1
    hconnects.fromNode.1 (hedge.fromNode.2.trans hconnects.fromNode.2.symm)
  have htarget : target' = target := unique_entry hkeys.nodes hedge.toNode.1
    hconnects.toNode.1 (hedge.toNode.2.trans hconnects.toNode.2.symm)
  subst hsource
  subst htarget
  obtain ⟨output', hout, houtKey, input', hin, hinKey, hrest⟩ :=
    hedge.bindings b hconnects.edge.2
  have houtput : output' = output := unique_entry (hkeys.outputs source' hedge.fromNode.1) hout
    hconnects.output.1 (houtKey.trans hconnects.output.2.symm)
  have hinput : input' = input := unique_entry (hkeys.inputs target' hedge.toNode.1) hin
    hconnects.input.1 (hinKey.trans hconnects.input.2.symm)
  subst houtput
  subst hinput
  exact hrest

theorem PlanOk.dataflow {D : Doubles} (h : PlanOk D value) :
    Dataflow value where
  one_producer := by
    intro n hn slot hslot hrequired
    have hschema := (schemaOk h.schema).nodes n hn
    rw [← count_producers value (node_key_slash hschema) (input_key_slash hschema hslot)]
    -- it is fed, and nothing is fed twice
    exact List.count_eq_one_of_mem h.producers (h.fed n hn slot hslot hrequired)
  connected := by
    intro e he b hb
    obtain ⟨source, target, hedge⟩ := h.edges e he
    obtain ⟨output, hout, houtKey, input, hin, hinKey, -⟩ := hedge.bindings b hb
    exact ⟨source, target, output, input, ⟨he, hb⟩, hedge.fromNode, hedge.toNode,
      ⟨hout, houtKey⟩, ⟨hin, hinKey⟩⟩
  same_kind _ _ _ _ _ _ hconnects := (h.binding hconnects).1.symm
  required _ _ _ _ _ _ hconnects := (h.binding hconnects).2.1
  one_repository _ _ _ _ _ _ hconnects := (h.binding hconnects).2.2
  external_kind := h.externals
  one_base := by
    intro n hn m hm hsame
    refine h.bases n.repository.repositoryId n.repository.baseCommit m.repository.baseCommit
      (.inr (List.mem_map.mpr ⟨n, hn, rfl⟩)) ?_
    rw [hsame]
    exact List.mem_map.mpr ⟨m, hm, rfl⟩

/-- **Every accepted definition keeps the law.** -/
theorem accepted_dataflow (D : Doubles) (sha256 : List UInt8 → String) (value : PlanDefinition)
    (r : Validated) (h : validateExecutionPlanDefinition D sha256 value = .ok r) :
    Dataflow value := (validate_ok.mp h).1.dataflow

/-- The sample has a required input, fed by one binding. -/
theorem samplePlan_dataflow :
    Dataflow samplePlan ∧ edgeProducers samplePlan "check" "change" = 1 := by
  obtain ⟨r, hr⟩ := samplePlan_accepted
  exact ⟨accepted_dataflow integerDoubles byteCount samplePlan r hr, by decide +kernel⟩

end AgentRoom.Plan
