import AgentRoom.Plan.Validation
import AgentRoom.Contracts.ServerBounds

/-!
# What the checks ask

One lemma for each function of the validator: the condition under which it returns, in terms
of the members of the lists it goes through. The loops that carry a set of keys ask that no key
comes twice, and leave behind the list of all of them.
-/

namespace AgentRoom.Plan

open Contracts (Doubles JsValue canonicalExecutionJSON canonicalValue bind_eq_ok)

/-! ## Conditions -/

theorem requireCondition_ok {condition : Prop} [Decidable condition] {code : String} {u : Unit} :
    requireCondition condition code = .ok u ↔ condition := by
  unfold requireCondition
  split
  · next h => exact ⟨fun _ => h, fun _ => rfl⟩
  · next h => exact ⟨nofun, fun h' => absurd h' h⟩

theorem unique_ok {α κ : Type} [DecidableEq κ] {entries : List α} {key : α → κ} {code : String}
    {u : Unit} : unique entries key code = .ok u ↔ (entries.map key).Nodup :=
  requireCondition_ok

theorem nonblank_ok {value : String} {u : Unit} : nonblank value = .ok u ↔ isBlank value = false :=
  requireCondition_ok

theorem forM_ok {ε α : Type} {entries : List α} {f : α → Except ε Unit} {u : Unit} :
    entries.forM f = .ok u ↔ ∀ entry ∈ entries, f entry = .ok () := by
  induction entries with
  | nil => exact ⟨nofun, fun _ => rfl⟩
  | cons entry entries ih =>
    change (f entry >>= fun _ => entries.forM f) = .ok u ↔ _
    rw [bind_eq_ok, List.forall_mem_cons]
    constructor
    · rintro ⟨⟨⟩, hentry, hrest⟩
      exact ⟨hentry, ih.mp hrest⟩
    · rintro ⟨hentry, hrest⟩
      exact ⟨(), hentry, ih.mpr hrest⟩

theorem seq_ok {ε β : Type} {x : Except ε Unit} {y : Except ε β} {b : β} :
    (do x; y) = .ok b ↔ x = .ok () ∧ y = .ok b := by
  rw [bind_eq_ok]
  exact ⟨fun ⟨⟨⟩, hx, hy⟩ => ⟨hx, hy⟩, fun ⟨hx, hy⟩ => ⟨(), hx, hy⟩⟩

theorem if_seq_ok {ε β : Type} {c : Prop} [Decidable c] {x : Except ε Unit}
    {y : Except ε β} {b : β} :
    (if c then (do x; y) else y) = .ok b ↔ (c → x = .ok ()) ∧ y = .ok b := by
  by_cases hc : c
  · rw [if_pos hc, seq_ok]
    exact and_congr_left fun _ => ⟨fun h _ => h, fun h => h hc⟩
  · rw [if_neg hc]
    exact ⟨fun h => ⟨fun h' => absurd h' hc, h⟩, fun h => h.2⟩

/-! ## The decision -/

/-- What `validateDecision` asks. -/
structure DecisionOk (D : Doubles) (d : DecisionContent) : Prop where
  summary : isBlank d.summary = false
  items : (d.items.map (·.itemKey)).Nodup
  questions : (d.unresolvedQuestions.map (·.questionKey)).Nodup
  sources : (d.sources.map (·.evidenceRefId)).Nodup
  revisions : (d.sourceRevisions.map (·.evidenceRefId)).Nodup
  pinned : d.sourceRevisions.length = d.sources.length ∧
    ∀ source ∈ d.sources, ∃ pin ∈ d.sourceRevisions, pin.evidenceRefId = source.evidenceRefId
  statements : ∀ item ∈ d.items, isBlank item.statement = false
  texts : ∀ question ∈ d.unresolvedQuestions, isBlank question.text = false
  pins : (d.sources.map fun source => canonicalValue D (source.pin.toJson D)).Nodup

theorem validateDecision_ok {D : Doubles} {d : DecisionContent} {u : Unit} :
    validateDecision D d = .ok u ↔ DecisionOk D d := by
  unfold validateDecision
  simp only [seq_ok, nonblank_ok, unique_ok, requireCondition_ok, forM_ok]
  constructor
  · rintro ⟨h₁, h₂, h₃, h₄, h₅, h₆, h₇, h₈, h₉⟩
    exact ⟨h₁, h₂, h₃, h₄, h₅, h₆, h₇, h₈, h₉⟩
  · rintro ⟨h₁, h₂, h₃, h₄, h₅, h₆, h₇, h₈, h₉⟩
    exact ⟨h₁, h₂, h₃, h₄, h₅, h₆, h₇, h₈, h₉⟩

/-! ## One node -/

/-- What `validatePrefix` asks. -/
def PrefixOk (path : String) : Prop := validatePrefix path = .ok ()

/-- What `validateNewTask` asks. -/
structure NewTaskOk (t : NewTask) : Prop where
  title : isBlank t.title = false
  goal : isBlank t.goal = false
  criteria : (t.criteria.map (·.criterionKey)).Nodup
  ordinals : (sortCriteria t.criteria).map (·.ordinal) = List.range' 1 t.criteria.length
  required : ∃ criterion ∈ t.criteria, criterion.required
  descriptions : ∀ criterion ∈ t.criteria, isBlank criterion.description = false

theorem sortCriteria_perm (criteria : List Criterion) : (sortCriteria criteria).Perm criteria :=
  List.perm_insertionSort _ _

theorem validateNewTask_ok {t : NewTask} {u : Unit} :
    validateNewTask t = .ok u ↔ NewTaskOk t := by
  have hperm := sortCriteria_perm t.criteria
  unfold validateNewTask
  simp only [seq_ok, nonblank_ok, unique_ok, requireCondition_ok, forM_ok, hperm.mem_iff,
    hperm.length_eq]
  constructor
  · rintro ⟨h₁, h₂, h₃, h₄, h₅, h₆⟩
    exact ⟨h₁, h₂, h₃, h₄, h₅, h₆⟩
  · rintro ⟨h₁, h₂, h₃, h₄, h₅, h₆⟩
    exact ⟨h₁, h₂, h₃, h₄, h₅, h₆⟩

def TaskOk (task : NodeTask) (rootTaskId : String) : Prop :=
  match task with
  | .new task => NewTaskOk task
  | .existing task => task.taskId ≠ rootTaskId

theorem validateTask_ok {task : NodeTask} {rootTaskId : String} {u : Unit} :
    validateTask task rootTaskId = .ok u ↔ TaskOk task rootTaskId := by
  cases task with
  | new task => exact validateNewTask_ok
  | existing task => exact requireCondition_ok

/-- What `validateScope` asks. -/
structure ScopeOk (s : ScopePolicy) : Prop where
  allowed : s.allowedPaths.Nodup ∧ ∀ path ∈ s.allowedPaths, PrefixOk path
  forbidden : s.forbiddenPaths.Nodup ∧ ∀ path ∈ s.forbiddenPaths, PrefixOk path
  readOnly : s.access = .readOnly → s.allowedPaths.length = 0
  isolated : s.access = .isolatedWrite → s.allowedPaths.length > 0 ∧
    ∃ allowed ∈ s.allowedPaths, ¬ ∃ forbidden ∈ s.forbiddenPaths,
      forbidden = "." ∨ allowed = forbidden ∨ startsWith allowed (forbidden ++ "/")

theorem validatePaths_ok {paths : List String} {u : Unit} :
    validatePaths paths = .ok u ↔ paths.Nodup ∧ ∀ path ∈ paths, PrefixOk path := by
  unfold validatePaths
  simp only [seq_ok, requireCondition_ok, forM_ok]
  exact Iff.rfl

theorem validateScope_ok {s : ScopePolicy} {u : Unit} :
    validateScope s = .ok u ↔ ScopeOk s := by
  unfold validateScope
  simp only [seq_ok, validatePaths_ok]
  rcases haccess : s.access with _ | _
  · simp only [requireCondition_ok]
    constructor
    · rintro ⟨h₁, h₂, h₃⟩
      exact ⟨h₁, h₂, fun _ => h₃, fun h => absurd (haccess.symm.trans h) nofun⟩
    · rintro ⟨h₁, h₂, h₃, -⟩
      exact ⟨h₁, h₂, h₃ haccess⟩
  · simp only [seq_ok, requireCondition_ok]
    constructor
    · rintro ⟨h₁, h₂, h₃⟩
      exact ⟨h₁, h₂, fun h => absurd (haccess.symm.trans h) nofun, fun _ => h₃⟩
    · rintro ⟨h₁, h₂, -, h₃⟩
      exact ⟨h₁, h₂, h₃ haccess⟩

/-- What `validateKind` asks. -/
structure KindOk (n : PlanNode) : Prop where
  access : n.scope.access = if n.kind = .implementation then .isolatedWrite else .readOnly
  verified : n.kind = .implementation → ∃ profile ∈ n.verificationProfiles, profile.required
  code : n.kind = .implementation → ∃ slot ∈ n.outputs, slot.required ∧ slot.kind.isCode

theorem validateKind_ok {n : PlanNode} {u : Unit} : validateKind n = .ok u ↔ KindOk n := by
  unfold validateKind
  split
  · next hkind =>
    simp only [seq_ok, requireCondition_ok]
    constructor
    · rintro ⟨h₁, h₂, h₃⟩
      exact ⟨by rw [if_pos hkind]; exact h₁, fun _ => h₂, fun _ => h₃⟩
    · rintro ⟨h₁, h₂, h₃⟩
      rw [if_pos hkind] at h₁
      exact ⟨h₁, h₂ hkind, h₃ hkind⟩
  · next hkind =>
    have hne : n.kind ≠ .implementation := hkind
    rw [requireCondition_ok]
    constructor
    · intro h
      exact ⟨by rw [if_neg hne]; exact h, fun h => absurd h hne, fun h => absurd h hne⟩
    · rintro ⟨h, -, -⟩
      rwa [if_neg hne] at h

/-- **What `validateNode` asks.** -/
structure NodeOk (rootTaskId : String) (n : PlanNode) : Prop where
  task : TaskOk n.task rootTaskId
  inputs : (n.inputs.map (·.slotKey)).Nodup
  outputs : (n.outputs.map (·.slotKey)).Nodup
  profiles : (n.verificationProfiles.map (·.profileId)).Nodup
  scope : ScopeOk n.scope
  kind : KindOk n

theorem validateNode_ok {n : PlanNode} {rootTaskId : String} {u : Unit} :
    validateNode n rootTaskId = .ok u ↔ NodeOk rootTaskId n := by
  unfold validateNode
  simp only [seq_ok, validateTask_ok, unique_ok, validateScope_ok, validateKind_ok]
  constructor
  · rintro ⟨h₁, h₂, h₃, h₄, h₅, h₆⟩
    exact ⟨h₁, h₂, h₃, h₄, h₅, h₆⟩
  · rintro ⟨h₁, h₂, h₃, h₄, h₅, h₆⟩
    exact ⟨h₁, h₂, h₃, h₄, h₅, h₆⟩

/-! ## Maps with one value a key -/

/-- The pairs add no second value to a key. -/
def Consistent (map : Table String String) (pairs : List (String × String)) : Prop :=
  ∀ key v w, (map.get key = some v ∨ (key, v) ∈ pairs) → (key, w) ∈ pairs → v = w

/-- The map with the pairs put into it. -/
def Extends (map map' : Table String String) (pairs : List (String × String)) : Prop :=
  ∀ key v, map'.get key = some v ↔ map.get key = some v ∨ (key, v) ∈ pairs

theorem get_put_agrees {map : Table String String} {key value : String}
    (h : agrees map key value) (k v : String) :
    (map.put key value).get k = some v ↔ map.get k = some v ∨ (k, v) = (key, value) := by
  rw [Table.get_put]
  by_cases hk : k = key
  · subst hk
    rw [if_pos rfl, Option.some.injEq, Prod.mk.injEq]
    constructor
    · intro hv
      exact .inr ⟨rfl, hv.symm⟩
    · rintro (hv | ⟨-, hv⟩)
      · exact (h v hv).symm
      · exact hv.symm
  · rw [if_neg hk]
    simp [hk]

theorem consistent_cons {map : Table String String} {key value : String}
    {pairs : List (String × String)} :
    Consistent map ((key, value) :: pairs) ↔
      agrees map key value ∧ Consistent (map.put key value) pairs := by
  constructor
  · intro h
    have hagrees : agrees map key value := fun other hother =>
      h key other value (.inl hother) List.mem_cons_self
    refine ⟨hagrees, fun k v w hv hw => ?_⟩
    rw [get_put_agrees hagrees] at hv
    refine h k v w ?_ (List.mem_cons_of_mem _ hw)
    rcases hv with (hv | hv) | hv
    · exact .inl hv
    · exact .inr (by rw [hv]; exact List.mem_cons_self)
    · exact .inr (List.mem_cons_of_mem _ hv)
  · rintro ⟨hagrees, h⟩ k v w hv hw
    rcases List.mem_cons.mp hw with hw | hw
    · -- the later value is the new pair's
      rw [Prod.mk.injEq] at hw
      obtain ⟨rfl, rfl⟩ := hw
      rcases hv with hv | hv
      · exact hagrees v hv
      · rcases List.mem_cons.mp hv with hv | hv
        · exact (Prod.mk.inj hv).2
        · exact (h k w v (.inl (Table.get_put_self _ _ _)) hv).symm
    · refine h k v w ?_ hw
      rw [get_put_agrees hagrees]
      rcases hv with hv | hv
      · exact .inl (.inl hv)
      · rcases List.mem_cons.mp hv with hv | hv
        · exact .inl (.inr hv)
        · exact .inr hv

theorem extends_cons {map map' : Table String String} {key value : String}
    {pairs : List (String × String)} (hagrees : agrees map key value)
    (h : Extends (map.put key value) map' pairs) : Extends map map' ((key, value) :: pairs) := by
  intro k v
  rw [h k v, get_put_agrees hagrees, List.mem_cons, or_assoc]

/-! ## The loop over the nodes -/

def basePairs (nodes : List PlanNode) : List (String × String) :=
  nodes.map fun n => (n.repository.repositoryId, n.repository.baseCommit)

def bindingPairs (nodes : List PlanNode) : List (String × String) :=
  nodes.map fun n => (n.repository.bindingId, n.repository.repositoryId)

theorem checkNode_ok {rootTaskId : String} {maps maps' : RepositoryMaps} {n : PlanNode} :
    checkNode rootTaskId maps n = .ok maps' ↔
      NodeOk rootTaskId n ∧
      agrees maps.repositories n.repository.repositoryId n.repository.baseCommit ∧
      agrees maps.bindings n.repository.bindingId n.repository.repositoryId ∧
      maps' = {
        repositories := maps.repositories.put n.repository.repositoryId n.repository.baseCommit
        bindings := maps.bindings.put n.repository.bindingId n.repository.repositoryId } := by
  unfold checkNode
  simp only [seq_ok, validateNode_ok, requireCondition_ok]
  refine and_congr_right fun _ => and_congr_right fun _ => and_congr_right fun _ => ?_
  exact ⟨fun h => (Except.ok.inj h).symm, fun h => by rw [h]; rfl⟩

/-- **What the loop over the nodes asks**, and the maps it leaves. -/
theorem nodes_fold {rootTaskId : String} {nodes : List PlanNode} {maps maps' : RepositoryMaps}
    (h : nodes.foldlM (checkNode rootTaskId) maps = .ok maps') :
    (∀ n ∈ nodes, NodeOk rootTaskId n) ∧ Consistent maps.repositories (basePairs nodes) ∧
      Consistent maps.bindings (bindingPairs nodes) ∧
      Extends maps.repositories maps'.repositories (basePairs nodes) := by
  induction nodes generalizing maps with
  | nil =>
    cases h
    exact ⟨nofun, nofun, nofun, fun k v => by simp [basePairs]⟩
  | cons n nodes ih =>
    rw [List.foldlM_cons, bind_eq_ok] at h
    obtain ⟨maps₁, hnode, hrest⟩ := h
    obtain ⟨hok, hbase, hbinding, rfl⟩ := checkNode_ok.mp hnode
    obtain ⟨hall, hbases, hbindings, hextends⟩ := ih hrest
    refine ⟨List.forall_mem_cons.mpr ⟨hok, hall⟩, ?_, ?_, ?_⟩
    · exact consistent_cons.mpr ⟨hbase, hbases⟩
    · exact consistent_cons.mpr ⟨hbinding, hbindings⟩
    · exact extends_cons hbase hextends

theorem nodes_fold_exists {rootTaskId : String} {nodes : List PlanNode} {maps : RepositoryMaps}
    (hall : ∀ n ∈ nodes, NodeOk rootTaskId n)
    (hbases : Consistent maps.repositories (basePairs nodes))
    (hbindings : Consistent maps.bindings (bindingPairs nodes)) :
    ∃ maps', nodes.foldlM (checkNode rootTaskId) maps = .ok maps' := by
  induction nodes generalizing maps with
  | nil => exact ⟨maps, rfl⟩
  | cons n nodes ih =>
    rw [List.forall_mem_cons] at hall
    obtain ⟨hbase, hbases⟩ := consistent_cons.mp hbases
    obtain ⟨hbinding, hbindings⟩ := consistent_cons.mp hbindings
    obtain ⟨maps', hrest⟩ := @ih {
      repositories := maps.repositories.put n.repository.repositoryId n.repository.baseCommit
      bindings := maps.bindings.put n.repository.bindingId n.repository.repositoryId }
      hall.2 hbases hbindings
    refine ⟨maps', ?_⟩
    rw [List.foldlM_cons, bind_eq_ok]
    exact ⟨_, checkNode_ok.mpr ⟨hall.1, hbase, hbinding, rfl⟩, hrest⟩

/-! ## Bindings -/

/-- The keys of the nodes, and of the slots of each, are unique. -/
structure KeysUnique (value : PlanDefinition) : Prop where
  nodes : (value.nodes.map (·.nodeKey)).Nodup
  inputs : ∀ n ∈ value.nodes, (n.inputs.map (·.slotKey)).Nodup
  outputs : ∀ n ∈ value.nodes, (n.outputs.map (·.slotKey)).Nodup

/-- Where the keys are unique, the first entry under a key is the one. -/
theorem find_key {α : Type} {key : α → String} {entries : List α} (h : (entries.map key).Nodup)
    {k : String} {entry : α} :
    entries.find? (fun e => key e = k) = some entry ↔ entry ∈ entries ∧ key entry = k := by
  induction entries with
  | nil => simp
  | cons e entries ih =>
    rw [List.map_cons, List.nodup_cons] at h
    rw [List.find?_cons]
    by_cases hk : key e = k
    · rw [decide_eq_true hk]
      dsimp only
      rw [Option.some.injEq, List.mem_cons]
      constructor
      · rintro rfl
        exact ⟨.inl rfl, hk⟩
      · rintro ⟨rfl | hin, hentry⟩
        · rfl
        · exact absurd (List.mem_map.mpr ⟨entry, hin, hentry.trans hk.symm⟩) h.1
    · rw [decide_eq_false hk]
      dsimp only
      rw [ih h.2, List.mem_cons]
      constructor
      · rintro ⟨hin, hentry⟩
        exact ⟨.inr hin, hentry⟩
      · rintro ⟨rfl | hin, hentry⟩
        · exact absurd hentry hk
        · exact ⟨hin, hentry⟩

theorem nodeAt_some {value : PlanDefinition} (h : KeysUnique value) {key : String} {n : PlanNode} :
    nodeAt value key = some n ↔ n ∈ value.nodes ∧ n.nodeKey = key :=
  find_key h.nodes

theorem slotAt_some {slots : List ArtifactSlot} (h : (slots.map (·.slotKey)).Nodup) {key : String}
    {s : ArtifactSlot} : slotAt slots key = some s ↔ s ∈ slots ∧ s.slotKey = key :=
  find_key h

/-- **What a binding asks**: an input and an output of one kind, required where the input is, and
code only within a repository. -/
def BindingOk (source target : PlanNode) (b : EdgeBinding) : Prop :=
  ∃ output ∈ source.outputs, output.slotKey = b.outputSlot ∧
  ∃ input ∈ target.inputs, input.slotKey = b.inputSlot ∧
    input.kind = output.kind ∧ (input.required → output.required) ∧
    (output.kind.isCode → source.repository.repositoryId = target.repository.repositoryId)

theorem bindInput_ok {n : PlanNode} (h : (n.inputs.map (·.slotKey)).Nodup) {slotKey : String}
    {kind : ArtifactKind} {producers producers' : List String} :
    bindInput (some n) slotKey kind producers = .ok producers' ↔
      (∃ input ∈ n.inputs, input.slotKey = slotKey ∧ input.kind = kind) ∧
      inputIdentity n.nodeKey slotKey ∉ producers ∧
      producers' = producers ++ [inputIdentity n.nodeKey slotKey] := by
  have hslot : (slotAt n.inputs slotKey).map (·.kind) = some kind ↔
      ∃ input ∈ n.inputs, input.slotKey = slotKey ∧ input.kind = kind := by
    rw [Option.map_eq_some_iff]
    simp only [slotAt_some h, and_assoc]
  unfold bindInput
  simp only [seq_ok, requireCondition_ok, hslot]
  refine and_congr_right fun _ => and_congr_right fun _ => ?_
  exact ⟨fun h => (Except.ok.inj h).symm, fun h => by rw [h]; rfl⟩

theorem checkBinding_ok {source target : PlanNode} (hout : (source.outputs.map (·.slotKey)).Nodup)
    (hin : (target.inputs.map (·.slotKey)).Nodup) {producers producers' : List String}
    {b : EdgeBinding} :
    checkBinding source target producers b = .ok producers' ↔
      BindingOk source target b ∧ inputIdentity target.nodeKey b.inputSlot ∉ producers ∧
      producers' = producers ++ [inputIdentity target.nodeKey b.inputSlot] := by
  unfold checkBinding
  rcases hslot : slotAt source.outputs b.outputSlot with _ | output
  · refine ⟨nofun, fun h => ?_⟩
    obtain ⟨⟨output, hmem, hkey, -⟩, -⟩ := h
    rw [(slotAt_some hout).mpr ⟨hmem, hkey⟩] at hslot
    cases hslot
  · obtain ⟨hmem, hkey⟩ := (slotAt_some hout).mp hslot
    dsimp only
    simp only [seq_ok, if_seq_ok, requireCondition_ok, bindInput_ok hin, slotAt_some hin]
    constructor
    · rintro ⟨hrequired, hcode, ⟨input, hinput, hinkey, hkind⟩, hnew, rfl⟩
      exact ⟨⟨output, hmem, hkey, input, hinput, hinkey, hkind,
        hrequired input ⟨hinput, hinkey⟩, hcode⟩, hnew, rfl⟩
    · rintro ⟨⟨output', hmem', hkey', input, hinput, hinkey, hkind, hrequired, hcode⟩, hnew, rfl⟩
      -- the keys are unique, so the output found is this one
      have heq := (slotAt_some hout).mpr ⟨hmem', hkey'⟩
      rw [hslot] at heq
      cases heq
      refine ⟨?_, hcode, ⟨input, hinput, hinkey, hkind⟩, hnew, rfl⟩
      rintro input' ⟨hinput', hinkey'⟩
      have hsame := (slotAt_some hin).mpr ⟨hinput, hinkey⟩
      rw [(slotAt_some hin).mpr ⟨hinput', hinkey'⟩] at hsame
      cases hsame
      exact hrequired

/-! ## The loop over the edges -/

/-- The inputs an edge feeds. -/
def edgeInputs (e : PlanEdge) : List String :=
  e.bindings.map fun b => inputIdentity e.toNodeKey b.inputSlot

def edgePair (e : PlanEdge) : String := e.fromNodeKey ++ "/" ++ e.toNodeKey

theorem nodup_collect {keys : List String} {key : String} {rest : List String} :
    (keys ++ key :: rest).Nodup ↔ ((keys ++ [key]) ++ rest).Nodup := by
  rw [List.append_assoc, List.singleton_append]

/-- **A loop that collects keys**: each entry passes its own check, and no key comes twice. -/
theorem collect_fold {α : Type} {step : List String → α → Except String (List String)}
    {P : α → Prop} {key : α → String}
    (hstep : ∀ keys entry keys', step keys entry = .ok keys' ↔
      P entry ∧ key entry ∉ keys ∧ keys' = keys ++ [key entry])
    {entries : List α} {keys keys' : List String} (hnodup : keys.Nodup) :
    entries.foldlM step keys = .ok keys' ↔
      (∀ entry ∈ entries, P entry) ∧ (keys ++ entries.map key).Nodup ∧
        keys' = keys ++ entries.map key := by
  induction entries generalizing keys with
  | nil =>
    rw [List.foldlM_nil, List.map_nil, List.append_nil]
    exact ⟨fun h => ⟨nofun, hnodup, (Except.ok.inj h).symm⟩, fun h => by rw [h.2.2]; rfl⟩
  | cons entry entries ih =>
    rw [List.foldlM_cons, bind_eq_ok, List.forall_mem_cons, List.map_cons, nodup_collect]
    have hfresh : key entry ∉ keys → (keys ++ [key entry]).Nodup := by
      intro hkey
      rw [List.nodup_append]
      refine ⟨hnodup, List.nodup_singleton _, fun a ha c hc heq => ?_⟩
      rw [List.mem_singleton] at hc
      exact hkey (by rw [← hc, ← heq]; exact ha)
    constructor
    · rintro ⟨_, hone, hrest⟩
      obtain ⟨hentry, hnew, rfl⟩ := (hstep _ _ _).mp hone
      obtain ⟨hall, hnodup', rfl⟩ := (ih (hfresh hnew)).mp hrest
      exact ⟨⟨hentry, hall⟩, hnodup', by rw [List.append_assoc]; rfl⟩
    · rintro ⟨⟨hentry, hall⟩, hnodup', rfl⟩
      have hfront := (List.nodup_append.mp hnodup').1
      have hnew : key entry ∉ keys := by
        intro hmem
        exact (List.nodup_append.mp hfront).2.2 _ hmem _ (List.mem_singleton.mpr rfl) rfl
      refine ⟨_, (hstep _ _ _).mpr ⟨hentry, hnew, rfl⟩, (ih hfront).mpr ⟨hall, hnodup', ?_⟩⟩
      rw [List.append_assoc]
      rfl

theorem bindings_fold {source target : PlanNode} (hout : (source.outputs.map (·.slotKey)).Nodup)
    (hin : (target.inputs.map (·.slotKey)).Nodup) {bindings : List EdgeBinding}
    {producers producers' : List String} (hnodup : producers.Nodup) :
    bindings.foldlM (checkBinding source target) producers = .ok producers' ↔
      (∀ b ∈ bindings, BindingOk source target b) ∧
      (producers ++ bindings.map fun b => inputIdentity target.nodeKey b.inputSlot).Nodup ∧
      producers' = producers ++ bindings.map fun b => inputIdentity target.nodeKey b.inputSlot :=
  @collect_fold _ _ (BindingOk source target)
    (fun b => inputIdentity target.nodeKey b.inputSlot)
    (fun _ _ _ => checkBinding_ok hout hin) _ _ _ hnodup

/-- **What an edge asks**, the uniqueness of its pair and of the inputs it feeds aside. -/
structure EdgeOk (value : PlanDefinition) (e : PlanEdge) (source target : PlanNode) : Prop where
  fromNode : source ∈ value.nodes ∧ source.nodeKey = e.fromNodeKey
  toNode : target ∈ value.nodes ∧ target.nodeKey = e.toNodeKey
  distinct : e.fromNodeKey ≠ e.toNodeKey
  verified : e.gate = .verifiedOutput → ∃ profile ∈ source.verificationProfiles, profile.required
  integrated : e.gate = .integratedCommit → value.policy.integration ≠ .reviewedCandidate
  bindings : ∀ b ∈ e.bindings, BindingOk source target b

/-- What an edge leaves behind. -/
def EdgeState.add (s : EdgeState) (e : PlanEdge) : EdgeState where
  producers := s.producers ++ edgeInputs e
  pairs := s.pairs ++ [edgePair e]
  outgoing := Function.update s.outgoing e.fromNodeKey (s.outgoing e.fromNodeKey ++ [e.toNodeKey])
  indegree := Function.update s.indegree e.toNodeKey (s.indegree e.toNodeKey + 1)

theorem checkEdge_ok {value : PlanDefinition} (hkeys : KeysUnique value) {s s' : EdgeState}
    (hnodup : s.producers.Nodup) {e : PlanEdge} :
    checkEdge value s e = .ok s' ↔
      (∃ source target, EdgeOk value e source target) ∧ edgePair e ∉ s.pairs ∧
      (s.producers ++ edgeInputs e).Nodup ∧ s' = s.add e := by
  unfold checkEdge
  rcases hsource : nodeAt value e.fromNodeKey with _ | source
  · refine ⟨nofun, ?_⟩
    rintro ⟨⟨source, target, hok⟩, -⟩
    rw [(nodeAt_some hkeys).mpr hok.fromNode] at hsource
    cases hsource
  rcases htarget : nodeAt value e.toNodeKey with _ | target
  · refine ⟨nofun, ?_⟩
    rintro ⟨⟨source, target, hok⟩, -⟩
    rw [(nodeAt_some hkeys).mpr hok.toNode] at htarget
    cases htarget
  have hs := (nodeAt_some hkeys).mp hsource
  have ht := (nodeAt_some hkeys).mp htarget
  have hfold := fun producers' => @bindings_fold source target (hkeys.outputs source hs.1)
    (hkeys.inputs target ht.1) e.bindings s.producers producers' hnodup
  rw [ht.2] at hfold
  dsimp only
  simp only [seq_ok, if_seq_ok, requireCondition_ok, hs.2, ht.2]
  rw [bind_eq_ok]
  simp only [hfold]
  constructor
  · rintro ⟨hdistinct, hpair, hverified, hintegrated, _, ⟨hbindings, hfresh, rfl⟩, hlast⟩
    exact ⟨⟨source, target, hs, ht, hdistinct, hverified, hintegrated, hbindings⟩, hpair, hfresh,
      (Except.ok.inj hlast).symm⟩
  · rintro ⟨⟨source', target', hok⟩, hpair, hfresh, rfl⟩
    have hsource' := (nodeAt_some hkeys).mpr hok.fromNode
    have htarget' := (nodeAt_some hkeys).mpr hok.toNode
    rw [hsource] at hsource'
    rw [htarget] at htarget'
    cases hsource'
    cases htarget'
    exact ⟨hok.distinct, hpair, hok.verified, hok.integrated, _, ⟨hok.bindings, hfresh, rfl⟩, rfl⟩

/-- The state after some edges. -/
def EdgeState.addAll (s : EdgeState) (edges : List PlanEdge) : EdgeState where
  producers := s.producers ++ edges.flatMap edgeInputs
  pairs := s.pairs ++ edges.map edgePair
  outgoing key := s.outgoing key ++ (edges.filter (·.fromNodeKey = key)).map (·.toNodeKey)
  indegree key := s.indegree key + ((edges.map (·.toNodeKey)).count key : Int)

theorem EdgeState.addAll_cons (s : EdgeState) (e : PlanEdge) (edges : List PlanEdge) :
    s.addAll (e :: edges) = (s.add e).addAll edges := by
  unfold EdgeState.addAll EdgeState.add
  congr 1
  · simp
  · simp
  · funext key
    dsimp only
    by_cases hkey : e.fromNodeKey = key
    · subst hkey
      simp
    · rw [Function.update_of_ne (Ne.symm hkey), List.filter_cons_of_neg (by simpa using hkey)]
  · funext key
    dsimp only
    rw [List.map_cons, List.count_cons]
    by_cases hkey : e.toNodeKey = key
    · subst hkey
      rw [Function.update_self]
      simp
      omega
    · rw [Function.update_of_ne (Ne.symm hkey)]
      simp [hkey]

/-- **What the loop over the edges asks**, and what it leaves. -/
theorem edges_fold {value : PlanDefinition} (hkeys : KeysUnique value) {edges : List PlanEdge}
    {s s' : EdgeState} (hproducers : s.producers.Nodup) (hpairs : s.pairs.Nodup) :
    edges.foldlM (checkEdge value) s = .ok s' ↔
      (∀ e ∈ edges, ∃ source target, EdgeOk value e source target) ∧
      (s.pairs ++ edges.map edgePair).Nodup ∧
      (s.producers ++ edges.flatMap edgeInputs).Nodup ∧ s' = s.addAll edges := by
  induction edges generalizing s with
  | nil =>
    have hsame : s.addAll [] = s := by
      unfold EdgeState.addAll
      simp
    rw [List.foldlM_nil, hsame]
    simp only [List.map_nil, List.append_nil, List.flatMap_nil]
    exact ⟨fun h => ⟨nofun, hpairs, hproducers, (Except.ok.inj h).symm⟩,
      fun h => by rw [h.2.2.2]; rfl⟩
  | cons e edges ih =>
    rw [List.foldlM_cons, bind_eq_ok, List.forall_mem_cons, List.map_cons, List.flatMap_cons,
      nodup_collect, ← List.append_assoc, EdgeState.addAll_cons]
    constructor
    · rintro ⟨_, hstep, hrest⟩
      obtain ⟨hedge, hpair, hfresh, rfl⟩ := (checkEdge_ok hkeys hproducers).mp hstep
      have hpairs' : (s.pairs ++ [edgePair e]).Nodup := by
        rw [List.nodup_append]
        refine ⟨hpairs, List.nodup_singleton _, fun a ha c hc heq => ?_⟩
        rw [List.mem_singleton] at hc
        exact hpair (by rw [← hc, ← heq]; exact ha)
      obtain ⟨hall, hp, hq, rfl⟩ := (@ih (s.add e) hfresh hpairs').mp hrest
      exact ⟨⟨hedge, hall⟩, hp, hq, rfl⟩
    · rintro ⟨⟨hedge, hall⟩, hp, hq, rfl⟩
      have hpairs' := (List.nodup_append.mp hp).1
      have hfresh := (List.nodup_append.mp hq).1
      have hpair : edgePair e ∉ s.pairs := by
        intro hmem
        exact (List.nodup_append.mp hpairs').2.2 _ hmem _ (List.mem_singleton.mpr rfl) rfl
      exact ⟨_, (checkEdge_ok hkeys hproducers).mpr ⟨hedge, hpair, hfresh, rfl⟩,
        (@ih (s.add e) hfresh hpairs').mpr ⟨hall, hp, hq, rfl⟩⟩

/-! ## External inputs and targets -/

/-- **What an external input asks.** -/
def ExternalOk (value : PlanDefinition) (i : ExternalInput) : Prop :=
  ∃ node ∈ value.nodes, node.nodeKey = i.nodeKey ∧
    ∃ input ∈ node.inputs, input.slotKey = i.inputSlot ∧ input.kind = i.kind

def externalInput (i : ExternalInput) : String := inputIdentity i.nodeKey i.inputSlot

theorem checkExternalInput_ok {value : PlanDefinition} (hkeys : KeysUnique value)
    {producers producers' : List String} {i : ExternalInput} :
    checkExternalInput value producers i = .ok producers' ↔
      ExternalOk value i ∧ externalInput i ∉ producers ∧
        producers' = producers ++ [externalInput i] := by
  unfold checkExternalInput
  rcases hnode : nodeAt value i.nodeKey with _ | node
  · refine ⟨nofun, ?_⟩
    rintro ⟨⟨node, hmem, hkey, -⟩, -⟩
    rw [(nodeAt_some hkeys).mpr ⟨hmem, hkey⟩] at hnode
    cases hnode
  · obtain ⟨hmem, hkey⟩ := (nodeAt_some hkeys).mp hnode
    rw [bindInput_ok (hkeys.inputs node hmem), hkey]
    refine and_congr_left fun _ => ?_
    constructor
    · rintro ⟨input, hinput⟩
      exact ⟨node, hmem, hkey, input, hinput⟩
    · rintro ⟨node', hmem', hkey', hinput⟩
      have hsame := (nodeAt_some hkeys).mpr ⟨hmem', hkey'⟩
      rw [hnode] at hsame
      cases hsame
      exact hinput

theorem externals_fold {value : PlanDefinition} (hkeys : KeysUnique value)
    {inputs : List ExternalInput} {keys keys' : List String} (hnodup : keys.Nodup) :
    inputs.foldlM (checkExternalInput value) keys = .ok keys' ↔
      (∀ i ∈ inputs, ExternalOk value i) ∧ (keys ++ inputs.map externalInput).Nodup ∧
        keys' = keys ++ inputs.map externalInput :=
  @collect_fold _ _ (ExternalOk value) externalInput
    (fun _ _ _ => checkExternalInput_ok hkeys) _ _ _ hnodup

/-- What a target asks of the nodes' repositories. -/
structure TargetOk (nodes : List PlanNode) (t : IntegrationTarget) : Prop where
  base : (t.repositoryId, t.expectedCommit) ∈ basePairs nodes
  ref : targetRefSafe t.targetRef = true

theorem checkTarget_ok {nodes : List PlanNode} {repositories : Table String String}
    (hmap : Extends .empty repositories (basePairs nodes)) {keys keys' : List String}
    {t : IntegrationTarget} :
    checkTarget repositories keys t = .ok keys' ↔
      TargetOk nodes t ∧ targetIdentity t ∉ keys ∧ keys' = keys ++ [targetIdentity t] := by
  have hget : repositories.get t.repositoryId = some t.expectedCommit ↔
      (t.repositoryId, t.expectedCommit) ∈ basePairs nodes := by
    rw [hmap]
    simp
  unfold checkTarget
  simp only [seq_ok, requireCondition_ok, hget]
  constructor
  · rintro ⟨⟨-, hnew⟩, href, hbase, hlast⟩
    exact ⟨⟨hbase, href⟩, hnew, (Except.ok.inj hlast).symm⟩
  · rintro ⟨⟨hbase, href⟩, hnew, rfl⟩
    exact ⟨⟨by rw [hget.mpr hbase]; rfl, hnew⟩, href, hbase, rfl⟩

theorem targets_fold {nodes : List PlanNode} {repositories : Table String String}
    (hmap : Extends .empty repositories (basePairs nodes)) {targets : List IntegrationTarget}
    {keys' : List String} :
    targets.foldlM (checkTarget repositories) [] = .ok keys' ↔
      (∀ t ∈ targets, TargetOk nodes t) ∧ (targets.map targetIdentity).Nodup ∧
        keys' = targets.map targetIdentity :=
  @collect_fold _ _ (TargetOk nodes) targetIdentity
    (fun _ _ _ => checkTarget_ok hmap) _ _ _ List.nodup_nil

/-! ## The whole -/

/-- What `checkNodes` asks. -/
structure NodesOk (D : Doubles) (value : PlanDefinition) : Prop where
  keys : (value.nodes.map (·.nodeKey)).Nodup
  edgeKeys : (value.edges.map (·.edgeKey)).Nodup
  tasks : (value.nodes.filterMap existingTaskOf).Nodup
  actions : ((value.nodes.filterMap sourceActionOf).map fun action =>
    canonicalValue D (action.toJson D)).Nodup
  evidence : ∀ action ∈ value.nodes.filterMap sourceActionOf,
    ∃ source ∈ value.decision.sources, source.pin = .result action.resultId
  required : ∃ node ∈ value.nodes, node.required
  budget : (value.nodes.filter (·.required)).length ≤ value.policy.budget.maxRunAttempts

theorem checkNodes_ok {D : Doubles} {value : PlanDefinition} {u : Unit} :
    checkNodes D value = .ok u ↔ NodesOk D value := by
  unfold checkNodes
  simp only [seq_ok, unique_ok, forM_ok, requireCondition_ok]
  constructor
  · rintro ⟨h₁, h₂, h₃, h₄, h₅, h₆, h₇⟩
    exact ⟨h₁, h₂, h₃, h₄, h₅, h₆, h₇⟩
  · rintro ⟨h₁, h₂, h₃, h₄, h₅, h₆, h₇⟩
    exact ⟨h₁, h₂, h₃, h₄, h₅, h₆, h₇⟩

/-- Every input that is fed: by an edge, or from outside. -/
def producers (value : PlanDefinition) : List String :=
  value.edges.flatMap edgeInputs ++ value.externalInputs.map externalInput

/-- **What every check together asks.** -/
structure PlanOk (D : Doubles) (value : PlanDefinition) : Prop where
  accepted : ∃ text, canonicalExecutionJSON D (value.toJson D) = .ok text
  schema : value.schema = true
  title : isBlank value.title = false
  decision : DecisionOk D value.decision
  nodes : NodesOk D value
  each : ∀ n ∈ value.nodes, NodeOk value.rootTaskId n
  bases : Consistent .empty (basePairs value.nodes)
  bindings : Consistent .empty (bindingPairs value.nodes)
  edges : ∀ e ∈ value.edges, ∃ source target, EdgeOk value e source target
  pairs : (value.edges.map edgePair).Nodup
  externals : ∀ i ∈ value.externalInputs, ExternalOk value i
  producers : (producers value).Nodup
  fed : ∀ n ∈ value.nodes, ∀ slot ∈ n.inputs, slot.required →
    inputIdentity n.nodeKey slot.slotKey ∈ Plan.producers value
  targets : ∀ t ∈ value.policy.integrationTargets, TargetOk value.nodes t
  targetKeys : (value.policy.integrationTargets.map targetIdentity).Nodup
  covered : value.policy.integration ≠ .reviewedCandidate → ∀ n ∈ value.nodes,
    ∃ t ∈ value.policy.integrationTargets, t.repositoryId = n.repository.repositoryId

theorem NodesOk.keysUnique {D : Doubles} {value : PlanDefinition} (h : NodesOk D value)
    (heach : ∀ n ∈ value.nodes, NodeOk value.rootTaskId n) : KeysUnique value where
  nodes := h.keys
  inputs n hn := (heach n hn).inputs
  outputs n hn := (heach n hn).outputs

theorem PlanOk.keysUnique {D : Doubles} {value : PlanDefinition} (h : PlanOk D value) :
    KeysUnique value := h.nodes.keysUnique h.each

/-- **The graph of a definition**, as the loop over its edges leaves it. -/
def graphOf (value : PlanDefinition) : EdgeState := EdgeState.empty.addAll value.edges

/-- The repositories of the map are those of the nodes. -/
theorem mem_keys_of_extends {nodes : List PlanNode} {repositories : Table String String}
    (hmap : Extends .empty repositories (basePairs nodes)) {P : String → Prop} :
    (∀ repositoryId ∈ repositories.keys, P repositoryId) ↔
      ∀ n ∈ nodes, P n.repository.repositoryId := by
  have hkey : ∀ k, k ∈ repositories.keys ↔ ∃ n ∈ nodes, n.repository.repositoryId = k := by
    intro k
    rw [Table.mem_keys]
    constructor
    · intro h
      obtain ⟨v, hv⟩ := Option.isSome_iff_exists.mp h
      rcases (hmap k v).mp hv with h | h
      · simp at h
      · obtain ⟨n, hn, heq⟩ := List.mem_map.mp h
        exact ⟨n, hn, (Prod.mk.inj heq).1⟩
    · rintro ⟨n, hn, rfl⟩
      rw [(hmap _ _).mpr (.inr (List.mem_map.mpr ⟨n, hn, rfl⟩))]
      rfl
  constructor
  · intro h n hn
    exact h _ ((hkey _).mpr ⟨n, hn, rfl⟩)
  · intro h k hk
    obtain ⟨n, hn, rfl⟩ := (hkey k).mp hk
    exact h n hn

theorem assertPlanDefinition_ok {D : Doubles} {value : PlanDefinition} {u : Unit} :
    assertPlanDefinition D value = .ok u ↔
      (∃ text, canonicalExecutionJSON D (value.toJson D) = .ok text) ∧ value.schema = true := by
  unfold assertPlanDefinition
  rw [bind_eq_ok]
  simp only [requireCondition_ok]
  exact ⟨fun ⟨text, htext, h⟩ => ⟨⟨text, htext⟩, h⟩, fun ⟨⟨text, htext⟩, h⟩ => ⟨text, htext, h⟩⟩

/-- **A definition passes every check exactly when `PlanOk` holds of it.** -/
theorem checkPlan_ok {D : Doubles} {value : PlanDefinition} {graph : EdgeState} :
    checkPlan D value = .ok graph ↔ PlanOk D value ∧ graph = graphOf value := by
  unfold checkPlan
  rw [seq_ok, seq_ok, seq_ok, seq_ok, assertPlanDefinition_ok, nonblank_ok, validateDecision_ok,
    checkNodes_ok, bind_eq_ok]
  constructor
  · rintro ⟨⟨haccepted, hschema⟩, htitle, hdecision, hnodes, maps, hmaps, hrest⟩
    -- each loop returns what its keys are, and found none twice
    obtain ⟨heach, hbases, hbindings, hextends⟩ := nodes_fold hmaps
    have hkeys := hnodes.keysUnique heach
    obtain ⟨graph', hgraph, hrest⟩ := bind_eq_ok.mp hrest
    obtain ⟨hedges, hpairs, hfed, rfl⟩ :=
      (edges_fold hkeys List.nodup_nil List.nodup_nil).mp hgraph
    obtain ⟨producers', hexternal, hrest⟩ := bind_eq_ok.mp hrest
    obtain ⟨hexternals, hproducers, rfl⟩ :=
      (externals_fold hkeys hfed).mp hexternal
    obtain ⟨hrequired, hrest⟩ := seq_ok.mp hrest
    obtain ⟨targets, htargets, hrest⟩ := bind_eq_ok.mp hrest
    obtain ⟨htargetOk, htargetKeys, -⟩ :=
      (targets_fold hextends).mp htargets
    obtain ⟨hcovered, hlast⟩ := if_seq_ok.mp hrest
    refine ⟨?_, (Except.ok.inj hlast).symm⟩
    exact {
      accepted := haccepted
      schema := hschema
      title := htitle
      decision := hdecision
      nodes := hnodes
      each := heach
      bases := hbases
      bindings := hbindings
      edges := hedges
      pairs := hpairs
      externals := hexternals
      producers := hproducers
      fed := requireCondition_ok.mp hrequired
      targets := htargetOk
      targetKeys := htargetKeys
      covered := fun hpolicy => (mem_keys_of_extends hextends).mp
        (requireCondition_ok.mp (hcovered hpolicy)) }
  · rintro ⟨h, rfl⟩
    have hkeys := h.keysUnique
    obtain ⟨maps, hmaps⟩ := @nodes_fold_exists value.rootTaskId value.nodes .empty h.each h.bases
      h.bindings
    obtain ⟨-, -, -, hextends⟩ := nodes_fold hmaps
    refine ⟨⟨h.accepted, h.schema⟩, h.title, h.decision, h.nodes, maps, hmaps, ?_⟩
    -- back: each loop passes and leaves these keys
    have hfed := (List.nodup_append.mp h.producers).1
    refine bind_eq_ok.mpr ⟨graphOf value, ?_, ?_⟩
    · exact (edges_fold hkeys List.nodup_nil List.nodup_nil).mpr ⟨h.edges, h.pairs, hfed, rfl⟩
    refine bind_eq_ok.mpr ⟨producers value, ?_, ?_⟩
    · exact (externals_fold hkeys hfed).mpr
        ⟨h.externals, h.producers, rfl⟩
    refine seq_ok.mpr ⟨requireCondition_ok.mpr h.fed, ?_⟩
    refine bind_eq_ok.mpr ⟨value.policy.integrationTargets.map targetIdentity, ?_, ?_⟩
    · exact (targets_fold hextends).mpr
        ⟨h.targets, h.targetKeys, rfl⟩
    refine if_seq_ok.mpr ⟨fun hpolicy => requireCondition_ok.mpr ?_, rfl⟩
    exact (mem_keys_of_extends hextends).mpr (h.covered hpolicy)

end AgentRoom.Plan
